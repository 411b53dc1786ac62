import Minilang.Proofs.Steps
import Minilang.Typing

namespace Minilang

open Steps

namespace Check

variable {α : Type} {warnings later : List Warning}

theorem fail_ok {cause : Cause} {position : Position} {value : α} :
    (fail cause position : Check α).run warnings = .ok value later ↔ False := by
  constructor
  · intro success
    cases success
  · exact False.elim

theorem warn_ok {message : String} {position : Position} {value : Unit} :
    (warn message position).run warnings = .ok value later ↔
      warnings ++ [⟨message, position⟩] = later := by
  constructor
  · intro success
    cases success
    rfl
  · intro same
    cases same
    rfl

theorem lookup_ok {answer : Except Fault α} {value : α} :
    (lookup answer).run warnings = .ok value later ↔ answer = .ok value ∧
    warnings = later := by
  cases answer with
  | error fault =>
      constructor
      · intro success
        cases success
      · intro impossible
        cases impossible.1
  | ok found =>
      rw [lookup, pure_ok]
      simp

theorem require_ok {found : Option α} {cause : Cause} {position : Position}
    {value : α} :
    (require found cause position).run warnings = .ok value later ↔
      found = some value ∧ warnings = later := by
  cases found with
  | none => simp [require, fail_ok]
  | some found =>
      rw [require, pure_ok]
      simp

theorem demand_ok {condition : Bool} {cause : Cause} {position : Position}
    {value : Unit} :
    (demand condition cause position).run warnings = .ok value later ↔
      condition = true ∧ warnings = later := by
  rw [demand]
  cases condition with
  | true => simp
  | false => simp [fail_ok]

end Check

namespace Node

open Check

variable {scopes : Scopes} {warnings later : List Warning} {node : Node}
  {type : DataType}

-- The equations of the check are made once, ahead of the lemmas that unfold it.
attribute [local simp] check checkAll checkOption checkArguments

theorem check_literal_ok {value : Literal} {position : Position} :
    ((Node.literal value position).check scopes).run warnings =
      .ok (node, type) later ↔
      node = .literal value position ∧ type = value.dataType ∧
      warnings = later := by
  rw [check, pure_ok, Prod.mk.injEq]
  simp only [eq_comm, and_assoc]

theorem check_reference_ok {name : String} {scope : ScopeId}
    {position : Position} :
    ((Node.reference name scope position).check scopes).run warnings =
      .ok (node, type) later ↔
      scopes.symbol? scope name = .ok (some type) ∧
        node = .reference name scope position ∧
        warnings = later := by
  simp only [check, bind_ok, lookup_ok, require_ok, pure_ok]
  constructor
  · intro success
    obtain ⟨_, _, ⟨found, rfl⟩, _, _, ⟨rfl, rfl⟩, same, rfl⟩ := success
    cases same
    exact ⟨found, rfl, rfl⟩
  · intro parts
    obtain ⟨found, rfl, rfl⟩ := parts
    exact ⟨_, _, ⟨found, rfl⟩, _, _, ⟨rfl, rfl⟩, rfl, rfl⟩

/-- A name that is declared as something else than a function cannot be
called. -/
theorem calledSignature_ok {name : String} {scope : ScopeId}
    {position : Position} {signature : Signature} :
    (calledSignature scopes name scope position).run warnings =
      .ok signature later ↔
      scopes.symbol? scope name = .ok (some .callable) ∧
        scopes.signature? scope name = .ok (some signature) ∧
        warnings = later := by
  simp only [calledSignature, bind_ok, lookup_ok, require_ok,
    demand_ok, beq_iff_eq]
  constructor
  · intro success
    obtain ⟨_, _, ⟨found, rfl⟩, _, _, ⟨rfl, rfl⟩, _, _, ⟨rfl, rfl⟩, _, _,
      ⟨bound, rfl⟩, rfl, rfl⟩ := success
    exact ⟨found, bound, rfl⟩
  · intro parts
    obtain ⟨found, bound, rfl⟩ := parts
    exact ⟨_, _, ⟨found, rfl⟩, _, _, ⟨rfl, rfl⟩, (), _, ⟨rfl, rfl⟩, _, _,
      ⟨bound, rfl⟩, rfl, rfl⟩

/-- The arguments are checked against the types of the parameters in their
order, and none is cast to such a type. -/
theorem check_call_ok {name : String} {arguments : List Node} {scope : ScopeId}
    {position : Position} :
    ((Node.call name arguments scope position).check scopes).run warnings =
        .ok (node, type) later ↔
      ∃ signature checked, scopes.symbol? scope name = .ok (some .callable) ∧
        scopes.signature? scope name = .ok (some signature) ∧
        arguments.length = signature.parameters.length ∧
        (checkArguments scopes arguments
          (signature.parameters.map Prod.snd)).run warnings =
          .ok checked later ∧
        node = .call name checked scope position ∧
        type = signature.returnType := by
  simp only [check, bind_ok, calledSignature_ok, demand_ok, beq_iff_eq, pure_ok]
  constructor
  · intro success
    obtain ⟨signature, _, ⟨found, bound, rfl⟩, _, _, ⟨count, rfl⟩, checked, _,
      each, same, rfl⟩ := success
    cases same
    exact ⟨signature, checked, found, bound, count, each, rfl, rfl⟩
  · intro parts
    obtain ⟨signature, checked, found, bound, count, each, rfl, rfl⟩ := parts
    exact ⟨signature, _, ⟨found, bound, rfl⟩, (), _, ⟨count, rfl⟩, checked, _,
      each, rfl, rfl⟩

theorem check_binary_ok {operator : BinaryOperator} {left right : Node}
    {position : Position} :
    ((Node.binary operator left right position).check scopes).run warnings =
        .ok (node, type) later ↔
      ∃ newLeft leftType between newRight rightType behind,
        (left.check scopes).run warnings = .ok (newLeft, leftType) between ∧
        (right.check scopes).run between = .ok (newRight, rightType) behind ∧
        (checkOperator operator newLeft leftType newRight rightType
          position).run behind =
          .ok (node, type) later := by
  simp only [check, bind_ok, Prod.exists]
  constructor
  · intro success
    obtain ⟨newLeft, leftType, between, first, newRight, rightType, behind,
      second, rest⟩ := success
    exact ⟨newLeft, leftType, between, newRight, rightType, behind, first,
      second, rest⟩
  · intro parts
    obtain ⟨newLeft, leftType, between, newRight, rightType, behind, first,
      second, rest⟩ := parts
    exact ⟨newLeft, leftType, between, first, newRight, rightType, behind,
      second, rest⟩

/-- Operands that are compared for equality are left as they are, and all others
are widened. -/
theorem checkOperator_ok {operator : BinaryOperator} {left right : Node}
    {leftType rightType : DataType} {position : Position} :
    (checkOperator operator left leftType right rightType position).run
        warnings =
        .ok (node, type) later ↔
      (operator.isEquality = true ∧
        equalityType? leftType rightType = some type ∧
        node = .binary operator left right position ∧ warnings = later) ∨
      operator.isEquality = false ∧ ∃ newLeft newRight common,
        (widen left leftType right rightType position).run warnings =
          .ok (newLeft, newRight, common) later ∧
        node = .binary operator newLeft newRight position ∧
        type = if operator.isOrdering then .boolean else common := by
  rw [checkOperator]
  by_cases equality : operator.isEquality = true
  · simp only [if_pos equality, bind_ok, require_ok, pure_ok]
    constructor
    · intro success
      obtain ⟨_, _, ⟨found, rfl⟩, same, rfl⟩ := success
      cases same
      exact Or.inl ⟨equality, found, rfl, rfl⟩
    · intro parts
      rcases parts with ⟨_, found, rfl, rfl⟩ | ⟨noEquality, _⟩
      · exact ⟨_, _, ⟨found, rfl⟩, rfl, rfl⟩
      · cases equality.symm.trans noEquality
  · simp only [if_neg equality, bind_ok, Prod.exists, pure_ok]
    constructor
    · intro success
      obtain ⟨newLeft, newRight, common, _, widened, same, rfl⟩ := success
      cases same
      exact Or.inr ⟨eq_false_of_ne_true equality, newLeft, newRight, common,
        widened, rfl, rfl⟩
    · intro parts
      rcases parts with
        ⟨impossible, _⟩ | ⟨_, newLeft, newRight, common, widened, rfl, rfl⟩
      · exact (equality impossible).elim
      · exact ⟨newLeft, newRight, common, _, widened, rfl, rfl⟩

theorem check_cast_ok {target : DataType} {operand : Node}
    {position : Position} :
    ((Node.cast target operand position).check scopes).run warnings =
      .ok (node, type) later ↔
      ∃ checked operandType, (operand.check scopes).run warnings =
          .ok (checked, operandType) later ∧
        operandType ≠ .string ∧ node = .cast target checked position ∧
        type = target := by
  simp only [check, bind_ok, Prod.exists, demand_ok, bne_iff_ne, pure_ok]
  constructor
  · intro success
    obtain ⟨checked, operandType, _, inner, _, _, ⟨different, rfl⟩, same,
      rfl⟩ := success
    cases same
    exact ⟨checked, operandType, inner, different, rfl, rfl⟩
  · intro parts
    obtain ⟨checked, operandType, inner, different, rfl, rfl⟩ := parts
    exact ⟨checked, operandType, _, inner, (), _, ⟨different, rfl⟩, rfl, rfl⟩

theorem check_statements_ok {items : List Node} {position : Position} :
    ((Node.statements items position).check scopes).run warnings =
      .ok (node, type) later ↔
      ∃ checked, (checkAll scopes items).run warnings = .ok checked later ∧
        node = .statements checked position ∧ type = .untyped := by
  simp only [check, bind_ok, pure_ok]
  constructor
  · intro success
    obtain ⟨checked, _, inner, same, rfl⟩ := success
    cases same
    exact ⟨checked, inner, rfl, rfl⟩
  · intro parts
    obtain ⟨checked, inner, rfl, rfl⟩ := parts
    exact ⟨checked, _, inner, rfl, rfl⟩

theorem checkOption_none_ok {found : Option (Node × DataType)} :
    (checkOption scopes none).run warnings = .ok found later ↔ found = none ∧
    warnings = later := by
  rw [checkOption, pure_ok, eq_comm]

theorem checkOption_some_ok {inner : Node} {found : Option (Node × DataType)} :
    (checkOption scopes (some inner)).run warnings = .ok found later ↔
      ∃ checked innerType,
        (inner.check scopes).run warnings = .ok (checked, innerType) later ∧
        found = some (checked, innerType) := by
  simp only [checkOption, bind_ok, Prod.exists, pure_ok]
  constructor
  · intro success
    obtain ⟨checked, innerType, _, success, rfl, rfl⟩ := success
    exact ⟨checked, innerType, success, rfl⟩
  · intro parts
    obtain ⟨checked, innerType, success, rfl⟩ := parts
    exact ⟨checked, innerType, _, success, rfl, rfl⟩

theorem check_conditional_ok {predicate thenBranch : Node}
    {elseBranch : Option Node} {position : Position} :
    ((Node.conditional predicate thenBranch elseBranch position).check
        scopes).run warnings =
        .ok (node, type) later ↔
      ∃ newPredicate between newThen thenType behind newElse,
        (predicate.check scopes).run warnings =
          .ok (newPredicate, .boolean) between ∧
        (thenBranch.check scopes).run between = .ok (newThen, thenType) behind ∧
        (checkOption scopes elseBranch).run behind = .ok newElse later ∧
        node = .conditional newPredicate newThen
          (newElse.map Prod.fst) position ∧
        type = .untyped := by
  simp only [check, bind_ok, Prod.exists, demand_ok, beq_iff_eq, pure_ok]
  constructor
  · intro success
    obtain ⟨newPredicate, _, between, first, _, _, ⟨rfl, rfl⟩, newThen,
      thenType, behind, second, newElse, _, third, same, rfl⟩ := success
    cases same
    exact ⟨newPredicate, _, newThen, thenType, behind, newElse, first, second,
      third, rfl, rfl⟩
  · intro parts
    obtain ⟨newPredicate, _, newThen, thenType, behind, newElse, first, second,
      third, rfl, rfl⟩ := parts
    exact ⟨newPredicate, _, _, first, (), _, ⟨rfl, rfl⟩, newThen, thenType,
      behind, second, newElse, _, third, rfl, rfl⟩

theorem check_loop_ok {predicate body : Node} {position : Position} :
    ((Node.loop predicate body position).check scopes).run warnings =
      .ok (node, type) later ↔
      ∃ newPredicate between newBody bodyType,
        (predicate.check scopes).run warnings =
          .ok (newPredicate, .boolean) between ∧
        (body.check scopes).run between = .ok (newBody, bodyType) later ∧
        node = .loop newPredicate newBody position ∧ type = .untyped := by
  simp only [check, bind_ok, Prod.exists, demand_ok, beq_iff_eq, pure_ok]
  constructor
  · intro success
    obtain ⟨newPredicate, _, between, first, _, _, ⟨rfl, rfl⟩, newBody,
      bodyType, _, second, same, rfl⟩ := success
    cases same
    exact ⟨newPredicate, _, newBody, bodyType, first, second, rfl, rfl⟩
  · intro parts
    obtain ⟨newPredicate, _, newBody, bodyType, first, second, rfl, rfl⟩ :=
      parts
    exact ⟨newPredicate, _, _, first, (), _, ⟨rfl, rfl⟩, newBody, bodyType, _,
      second, rfl, rfl⟩

theorem check_print_ok {value : Node} {position : Position} :
    ((Node.print value position).check scopes).run warnings =
      .ok (node, type) later ↔
      ∃ checked valueType,
        (value.check scopes).run warnings = .ok (checked, valueType) later ∧
        node = .print checked position ∧ type = .untyped := by
  simp only [check, bind_ok, Prod.exists, pure_ok]
  constructor
  · intro success
    obtain ⟨checked, valueType, _, inner, same, rfl⟩ := success
    cases same
    exact ⟨checked, valueType, inner, rfl, rfl⟩
  · intro parts
    obtain ⟨checked, valueType, inner, rfl, rfl⟩ := parts
    exact ⟨checked, valueType, _, inner, rfl, rfl⟩

/-- The first value of a variable must have the declared type, if there is
one. -/
theorem check_declaration_ok {declared : DataType} {name : String}
    {initializer : Option Node} {position : Position} :
    ((Node.declaration declared name initializer position).check scopes).run
        warnings =
        .ok (node, type) later ↔
      ∃ found, (checkOption scopes initializer).run warnings = .ok found later ∧
        (found.map Prod.snd).getD declared = declared ∧
        node = .declaration declared name (found.map Prod.fst) position ∧
        type = .untyped := by
  simp only [check, bind_ok, demand_ok, beq_iff_eq, pure_ok]
  constructor
  · intro success
    obtain ⟨found, _, inner, _, _, ⟨received, rfl⟩, same, rfl⟩ := success
    cases same
    exact ⟨found, inner, received, rfl, rfl⟩
  · intro parts
    obtain ⟨found, inner, received, rfl, rfl⟩ := parts
    exact ⟨found, _, inner, (), _, ⟨received, rfl⟩, rfl, rfl⟩

theorem check_function_ok {returnType : DataType} {name : String}
    {parameters : List Node} {body : Node} {position : Position} :
    ((Node.function returnType name parameters body position).check scopes).run
        warnings =
        .ok (node, type) later ↔
      ∃ newParameters between newBody bodyType,
        (checkAll scopes parameters).run warnings = .ok newParameters between ∧
        (body.check scopes).run between = .ok (newBody, bodyType) later ∧
        node = .function returnType name newParameters newBody position ∧
        type = .callable := by
  simp only [check, bind_ok, Prod.exists, pure_ok]
  constructor
  · intro success
    obtain ⟨newParameters, between, first, newBody, bodyType, _, second, same,
      rfl⟩ := success
    cases same
    exact ⟨newParameters, between, newBody, bodyType, first, second, rfl, rfl⟩
  · intro parts
    obtain ⟨newParameters, between, newBody, bodyType, first, second, rfl,
      rfl⟩ := parts
    exact ⟨newParameters, between, first, newBody, bodyType, _,
      second, rfl, rfl⟩

theorem check_assignment_ok {target value : Node} {position : Position} :
    ((Node.assignment target value position).check scopes).run warnings =
      .ok (node, type) later ↔
      ∃ newTarget targetType between newValue,
        (target.check scopes).run warnings =
          .ok (newTarget, targetType) between ∧
        (value.check scopes).run between = .ok (newValue, targetType) later ∧
        node = .assignment newTarget newValue position ∧ type = .untyped := by
  simp only [check, bind_ok, Prod.exists, demand_ok, beq_iff_eq, pure_ok]
  constructor
  · intro success
    obtain ⟨newTarget, targetType, between, first, newValue, _, _, second, _, _,
      ⟨rfl, rfl⟩, same, rfl⟩ := success
    cases same
    exact ⟨newTarget, _, between, newValue, first, second, rfl, rfl⟩
  · intro parts
    obtain ⟨newTarget, targetType, between, newValue, first, second, rfl,
      rfl⟩ := parts
    exact ⟨newTarget, targetType, between, first, newValue, _, _, second, (), _,
      ⟨rfl, rfl⟩, rfl, rfl⟩

variable {nodes checked : List Node}

theorem checkAll_nil_ok :
    (checkAll scopes []).run warnings = .ok checked later ↔ checked = [] ∧
    warnings = later := by
  rw [checkAll, pure_ok, eq_comm]

theorem checkAll_cons_ok {first : Node} :
    (checkAll scopes (first :: nodes)).run warnings = .ok checked later ↔
      ∃ newFirst firstType between others,
        (first.check scopes).run warnings = .ok (newFirst, firstType) between ∧
        (checkAll scopes nodes).run between = .ok others later ∧
        checked = newFirst :: others := by
  simp only [checkAll, bind_ok, Prod.exists, pure_ok]
  constructor
  · intro success
    obtain ⟨newFirst, firstType, between, one, others, _, more, rfl, rfl⟩ :=
      success
    exact ⟨newFirst, firstType, between, others, one, more, rfl⟩
  · intro parts
    obtain ⟨newFirst, firstType, between, others, one, more, rfl⟩ := parts
    exact ⟨newFirst, firstType, between, one, others, _, more, rfl, rfl⟩

theorem checkArguments_nil_ok :
    (checkArguments scopes [] []).run warnings = .ok checked later ↔
      checked = [] ∧ warnings = later := by
  rw [checkArguments, pure_ok, eq_comm]
  all_goals simp

theorem checkArguments_cons_ok {first : Node} {expected : DataType}
    {types : List DataType} :
    (checkArguments scopes (first :: nodes) (expected :: types)).run warnings =
        .ok checked later ↔
      ∃ newFirst between others,
        (first.check scopes).run warnings = .ok (newFirst, expected) between ∧
        (checkArguments scopes nodes types).run between = .ok others later ∧
        checked = newFirst :: others := by
  simp only [checkArguments, bind_ok, Prod.exists, demand_ok,
    beq_iff_eq, pure_ok]
  constructor
  · intro success
    obtain ⟨newFirst, _, between, one, _, _, ⟨rfl, rfl⟩, others, _, more, rfl,
      rfl⟩ := success
    exact ⟨newFirst, _, others, one, more, rfl⟩
  · intro parts
    obtain ⟨newFirst, between, others, one, more, rfl⟩ := parts
    exact ⟨newFirst, _, _, one, (), _, ⟨rfl, rfl⟩, others, _, more, rfl, rfl⟩

end Node

end Minilang
