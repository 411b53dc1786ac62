import Minilang.Proofs.Tree
import Minilang.Proofs.Typing.Success

/-!
# The types of checked trees

A tree that a check has yielded is typed by rules that leave nothing to rewrite.
The main statements are `typed_of_check_ok`, which says that every successful
check yields a typed tree, `Typed.check`, which says that a check of a typed
tree yields that tree with its type and announces nothing, and
`check_again_of_check_ok`, which puts the two together.
-/

namespace Minilang

open Steps

/-- The type that two operands of arithmetic or an ordering have in common as
they stand; nothing if they have none, or if a cast is missing. -/
def DataType.common? : DataType → DataType → Option DataType
  | .string, _ | _, .string | .integer, .float | .float, .integer => none
  | .float, _ | _, .float => some .float
  | _, _ => some .integer

def BinaryOperator.resultType? (operator : BinaryOperator)
    (left right : DataType) : Option DataType :=
  if operator.isEquality then Node.equalityType? left right
  else (left.common? right).map fun type =>
    if operator.isOrdering then .boolean else type

theorem BinaryOperator.resultType?_eq_some {operator : BinaryOperator}
    {left right type : DataType} :
    operator.resultType? left right = some type ↔
      (operator.isEquality = true ∧ Node.equalityType? left right = some type) ∨
      (operator.isEquality = false ∧ ∃ common,
        left.common? right = some common ∧
        type = if operator.isOrdering then .boolean else common) := by
  rw [resultType?]
  cases operator.isEquality with
  | true =>
      simp only [if_true, true_and, Bool.true_eq_false, false_and, or_false]
  | false =>
      simp only [Bool.false_eq_true, if_false, false_and, true_and, false_or,
        Option.map_eq_some_iff, @eq_comm _ type]

mutual

/-- The tree has the type, and no cast is missing in it. -/
inductive Typed (scopes : Scopes) : Node → DataType → Prop where
  | literal {value : Literal} {position : Position} :
      Typed scopes (.literal value position) value.dataType
  | reference {name : String} {scope : ScopeId} {type : DataType}
      {position : Position} :
      scopes.symbol? scope name = .ok (some type) →
      Typed scopes (.reference name scope position) type
  | call {name : String} {arguments : List Node} {scope : ScopeId}
      {signature : Signature} {position : Position} :
      scopes.symbol? scope name = .ok (some .callable) →
      scopes.signature? scope name = .ok (some signature) →
      TypedArguments scopes arguments (signature.parameters.map Prod.snd) →
      Typed scopes (.call name arguments scope position) signature.returnType
  | binary {operator : BinaryOperator} {left right : Node}
      {leftType rightType type : DataType} {position : Position} :
      Typed scopes left leftType →
      Typed scopes right rightType →
      operator.resultType? leftType rightType = some type →
      Typed scopes (.binary operator left right position) type
  | cast {target type : DataType} {operand : Node} {position : Position} :
      Typed scopes operand type →
      type ≠ .string →
      Typed scopes (.cast target operand position) target
  | statements {items : List Node} {position : Position} :
      TypedAll scopes items →
      Typed scopes (.statements items position) .untyped
  | conditional {predicate thenBranch : Node} {thenType : DataType}
      {position : Position} :
      Typed scopes predicate .boolean →
      Typed scopes thenBranch thenType →
      Typed scopes (.conditional predicate thenBranch none position) .untyped
  | alternative {predicate thenBranch elseBranch : Node}
      {thenType elseType : DataType} {position : Position} :
      Typed scopes predicate .boolean →
      Typed scopes thenBranch thenType →
      Typed scopes elseBranch elseType →
      Typed scopes (.conditional predicate thenBranch (some elseBranch)
        position) .untyped
  | loop {predicate body : Node} {bodyType : DataType} {position : Position} :
      Typed scopes predicate .boolean →
      Typed scopes body bodyType →
      Typed scopes (.loop predicate body position) .untyped
  | print {value : Node} {type : DataType} {position : Position} :
      Typed scopes value type →
      Typed scopes (.print value position) .untyped
  | uninitialized {type : DataType} {name : String} {position : Position} :
      Typed scopes (.declaration type name none position) .untyped
  | initialized {type : DataType} {name : String} {value : Node}
      {position : Position} :
      Typed scopes value type →
      Typed scopes (.declaration type name (some value) position) .untyped
  | function {returnType bodyType : DataType} {name : String}
      {parameters : List Node} {body : Node} {position : Position} :
      TypedAll scopes parameters →
      Typed scopes body bodyType →
      Typed scopes (.function returnType name parameters body position)
        .callable
  | assignment {target value : Node} {type : DataType} {position : Position} :
      Typed scopes target type →
      Typed scopes value type →
      Typed scopes (.assignment target value position) .untyped

inductive TypedAll (scopes : Scopes) : List Node → Prop where
  | nil : TypedAll scopes []
  | cons {node : Node} {nodes : List Node} {type : DataType} :
      Typed scopes node type →
      TypedAll scopes nodes →
      TypedAll scopes (node :: nodes)

/-- The trees are as many as the types, and each has the type at its place. -/
inductive TypedArguments (scopes : Scopes) :
    List Node → List DataType → Prop where
  | nil : TypedArguments scopes [] []
  | cons {node : Node} {nodes : List Node} {type : DataType}
      {types : List DataType} :
      Typed scopes node type →
      TypedArguments scopes nodes types →
      TypedArguments scopes (node :: nodes) (type :: types)

end

theorem TypedArguments.length_eq {scopes : Scopes} {nodes : List Node}
    {types : List DataType} (typed : TypedArguments scopes nodes types) :
    nodes.length = types.length :=
  match typed with
  | .nil => rfl
  | .cons _ others => congrArg Nat.succ others.length_eq

/-! ## A successful check yields a typed tree -/

namespace Node

open Check

variable {scopes : Scopes} {warnings later : List Warning}

/-- Operands of arithmetic or an ordering are left as they are if they have a
type in common. If one is an integer and the other is not, the integer is put
behind a cast and a warning points to the operator. -/
theorem kept_or_cast_of_widen_ok {left right newLeft newRight : Node}
    {leftType rightType type : DataType} {position : Position}
    (success : (widen left leftType right rightType position).run warnings =
      .ok (newLeft, newRight, type) later) :
    (leftType.common? rightType = some type ∧ newLeft = left ∧
        newRight = right ∧
        later = warnings) ∨
      (leftType = .integer ∧ rightType = .float ∧ newLeft = left.widened ∧
          newRight = right ∨
          leftType = .float ∧ rightType = .integer ∧ newLeft = left ∧
            newRight = right.widened) ∧
        type = .float ∧ later = warnings ++
          [⟨"Implicit Integer->Float cast", position⟩] := by
  rw [widen.eq_def] at success
  split at success
  · exact (fail_ok.1 success).elim
  · exact (fail_ok.1 success).elim
  · obtain ⟨_, _, announced, done⟩ := bind_ok.1 success
    obtain rfl := warn_ok.1 announced
    obtain ⟨same, rfl⟩ := pure_ok.1 done
    cases same
    exact Or.inr ⟨Or.inl ⟨rfl, rfl, rfl, rfl⟩, rfl, rfl⟩
  · obtain ⟨_, _, announced, done⟩ := bind_ok.1 success
    obtain rfl := warn_ok.1 announced
    obtain ⟨same, rfl⟩ := pure_ok.1 done
    cases same
    exact Or.inr ⟨Or.inr ⟨rfl, rfl, rfl, rfl⟩, rfl, rfl⟩
  all_goals
    obtain ⟨same, rfl⟩ := pure_ok.1 success
    cases same
    refine Or.inl ⟨?_, rfl, rfl, rfl⟩
    rw [DataType.common?.eq_def]
    split <;> simp_all

/-- Widened operands have a type in common. -/
theorem typed_of_widen_ok {left right newLeft newRight : Node}
    {leftType rightType type : DataType} {position : Position}
    (leftTyped : Typed scopes left leftType)
    (rightTyped : Typed scopes right rightType)
    (success : (widen left leftType right rightType position).run warnings =
      .ok (newLeft, newRight, type) later) :
    ∃ newLeftType newRightType, Typed scopes newLeft newLeftType ∧
      Typed scopes newRight newRightType ∧
      newLeftType.common? newRightType = some type := by
  rcases kept_or_cast_of_widen_ok success with
    ⟨common, rfl, rfl, _⟩ | ⟨cast, rfl, _⟩
  · exact ⟨leftType, rightType, leftTyped, rightTyped, common⟩
  · rcases cast with ⟨rfl, rfl, rfl, rfl⟩ | ⟨rfl, rfl, rfl, rfl⟩
    · exact ⟨.float, .float, .cast leftTyped (by decide), rightTyped, rfl⟩
    · exact ⟨.float, .float, leftTyped, .cast rightTyped (by decide), rfl⟩

/-- The casts that are added are typed themselves. -/
theorem typed_of_checkOperator_ok {operator : BinaryOperator}
    {left right node : Node} {leftType rightType type : DataType}
    {position : Position} (leftTyped : Typed scopes left leftType)
    (rightTyped : Typed scopes right rightType)
    (success : (checkOperator operator left leftType right rightType
      position).run warnings = .ok (node, type) later) :
    Typed scopes node type := by
  rcases checkOperator_ok.1 success with ⟨equality, found, rfl, _⟩ |
    ⟨noEquality, newLeft, newRight, common, widened, rfl, rfl⟩
  · exact .binary leftTyped rightTyped
      (BinaryOperator.resultType?_eq_some.2 (Or.inl ⟨equality, found⟩))
  · obtain ⟨_, _, newLeftTyped, newRightTyped, same⟩ :=
      typed_of_widen_ok leftTyped rightTyped widened
    exact .binary newLeftTyped newRightTyped
      (BinaryOperator.resultType?_eq_some.2 (Or.inr ⟨noEquality,
      common, same, rfl⟩))

mutual

/-- A successful check yields a typed tree. -/
theorem typed_of_check_ok :
    (node : Node) → {checked : Node} → {type : DataType} →
    {warnings later : List Warning} →
    (node.check scopes).run warnings = .ok (checked, type) later →
    Typed scopes checked type
  | .literal _ _, _, _, _, _, success => by
      obtain ⟨rfl, rfl, rfl⟩ := check_literal_ok.1 success
      exact .literal
  | .reference _ _ _, _, _, _, _, success => by
      obtain ⟨found, rfl, rfl⟩ := check_reference_ok.1 success
      exact .reference found
  | .call _ arguments _ _, _, _, _, _, success => by
      obtain ⟨signature, checked, found, bound, count, each, rfl, rfl⟩ :=
        check_call_ok.1 success
      refine .call found bound (typed_of_checkArguments_ok arguments ?_ each)
      rw [List.length_map, count]
  | .binary _ left right _, _, _, _, _, success => by
      obtain ⟨_, _, _, _, _, _, first, second, rest⟩ :=
        check_binary_ok.1 success
      exact typed_of_checkOperator_ok (typed_of_check_ok left first)
        (typed_of_check_ok right second) rest
  | .cast _ operand _, _, _, _, _, success => by
      obtain ⟨_, _, inner, different, rfl, rfl⟩ := check_cast_ok.1 success
      exact .cast (typed_of_check_ok operand inner) different
  | .statements items _, _, _, _, _, success => by
      obtain ⟨_, inner, rfl, rfl⟩ := check_statements_ok.1 success
      exact .statements (typed_of_checkAll_ok items inner)
  | .conditional predicate thenBranch none _, _, _, _, _, success => by
      obtain ⟨_, _, _, _, _, _, first, second, third, rfl, rfl⟩ :=
        check_conditional_ok.1 success
      obtain ⟨rfl, rfl⟩ := checkOption_none_ok.1 third
      exact .conditional (typed_of_check_ok predicate first)
        (typed_of_check_ok thenBranch second)
  | .conditional predicate thenBranch (some elseBranch) _, _, _, _, _,
    success => by
      obtain ⟨_, _, _, _, _, _, first, second, third, rfl, rfl⟩ :=
        check_conditional_ok.1 success
      obtain ⟨_, _, inner, rfl⟩ := checkOption_some_ok.1 third
      exact .alternative (typed_of_check_ok predicate first) (typed_of_check_ok
        thenBranch second) (typed_of_check_ok elseBranch inner)
  | .loop predicate body _, _, _, _, _, success => by
      obtain ⟨_, _, _, _, first, second, rfl, rfl⟩ := check_loop_ok.1 success
      exact .loop (typed_of_check_ok predicate first)
        (typed_of_check_ok body second)
  | .print value _, _, _, _, _, success => by
      obtain ⟨_, _, inner, rfl, rfl⟩ := check_print_ok.1 success
      exact .print (typed_of_check_ok value inner)
  | .declaration _ _ none _, _, _, _, _, success => by
      obtain ⟨_, inner, _, rfl, rfl⟩ := check_declaration_ok.1 success
      obtain ⟨rfl, rfl⟩ := checkOption_none_ok.1 inner
      exact .uninitialized
  | .declaration _ _ (some value) _, _, _, _, _, success => by
      obtain ⟨_, inner, received, rfl, rfl⟩ := check_declaration_ok.1 success
      obtain ⟨_, valueType, value, rfl⟩ := checkOption_some_ok.1 inner
      obtain rfl : valueType = _ := received
      exact .initialized (typed_of_check_ok _ value)
  | .function _ _ parameters body _, _, _, _, _, success => by
      obtain ⟨_, _, _, _, first, second, rfl, rfl⟩ :=
        check_function_ok.1 success
      exact .function (typed_of_checkAll_ok parameters first)
        (typed_of_check_ok body second)
  | .assignment target value _, _, _, _, _, success => by
      obtain ⟨_, _, _, _, first, second, rfl, rfl⟩ :=
        check_assignment_ok.1 success
      exact .assignment (typed_of_check_ok target first)
        (typed_of_check_ok value second)

theorem typed_of_checkAll_ok : (nodes : List Node) → {checked : List Node} →
    {warnings later : List Warning} →
    (checkAll scopes nodes).run warnings = .ok checked later →
    TypedAll scopes checked
  | [], _, _, _, success => by
      obtain ⟨rfl, rfl⟩ := checkAll_nil_ok.1 success
      exact .nil
  | node :: nodes, _, _, _, success => by
      obtain ⟨_, _, _, _, first, others, rfl⟩ := checkAll_cons_ok.1 success
      exact .cons (typed_of_check_ok node first)
        (typed_of_checkAll_ok nodes others)

theorem typed_of_checkArguments_ok :
    (nodes : List Node) → {types : List DataType} →
    {checked : List Node} → {warnings later : List Warning} →
    nodes.length = types.length →
    (checkArguments scopes nodes types).run warnings = .ok checked later →
    TypedArguments scopes checked types
  | [], [], _, _, _, _, success => by
      obtain ⟨rfl, rfl⟩ := checkArguments_nil_ok.1 success
      exact .nil
  | node :: nodes, type :: types, _, _, _, count, success => by
      obtain ⟨_, _, _, first, others, rfl⟩ := checkArguments_cons_ok.1 success
      exact .cons (typed_of_check_ok node first)
        (typed_of_checkArguments_ok nodes (Nat.succ.inj count) others)

end

/-! ## A typed tree is left as it is -/

/-- Operands that have a type in common are left as they are, and no warning is
given. -/
theorem widen_of_common? {left right : Node}
    {leftType rightType type : DataType} {position : Position}
    (common : leftType.common? rightType = some type) :
    (widen left leftType right rightType position).run warnings =
      .ok (left, right, type) warnings := by
  cases leftType <;> cases rightType <;> cases common <;> rfl

theorem checkOperator_of_resultType? {operator : BinaryOperator}
    {left right : Node} {leftType rightType type : DataType}
    {position : Position}
    (result : operator.resultType? leftType rightType = some type) :
    (checkOperator operator left leftType right rightType position).run
      warnings =
      .ok (.binary operator left right position, type) warnings := by
  rcases BinaryOperator.resultType?_eq_some.1 result with ⟨equality, found⟩ |
    ⟨noEquality, common, found, rfl⟩
  · exact checkOperator_ok.2 (Or.inl ⟨equality, found, rfl, rfl⟩)
  · exact checkOperator_ok.2 (Or.inr ⟨noEquality, left, right, common,
      widen_of_common? found, rfl, rfl⟩)

end Node

mutual

/-- A check of a typed tree yields the tree with its type and announces
nothing. -/
theorem Typed.check {scopes : Scopes} {node : Node} {type : DataType}
    (typed : Typed scopes node type) (warnings : List Warning) :
    (node.check scopes).run warnings = .ok (node, type) warnings := by
  cases typed with
  | literal => exact Node.check_literal_ok.2 ⟨rfl, rfl, rfl⟩
  | reference found => exact Node.check_reference_ok.2 ⟨found, rfl, rfl⟩
  | call found bound arguments =>
      have count := arguments.length_eq
      rw [List.length_map] at count
      exact Node.check_call_ok.2
        ⟨_, _, found, bound, count, arguments.checkArguments warnings, rfl, rfl⟩
  | binary left right result =>
      exact Node.check_binary_ok.2 ⟨_, _, _, _, _, _, left.check warnings,
        right.check warnings, Node.checkOperator_of_resultType? result⟩
  | cast operand different =>
      exact Node.check_cast_ok.2 ⟨_, _, operand.check warnings,
        different, rfl, rfl⟩
  | statements items =>
      exact Node.check_statements_ok.2 ⟨_, items.checkAll warnings, rfl, rfl⟩
  | conditional predicate thenBranch =>
      exact Node.check_conditional_ok.2 ⟨_, _, _, _, _, none,
        predicate.check warnings, thenBranch.check warnings,
        Node.checkOption_none_ok.2 ⟨rfl, rfl⟩, rfl, rfl⟩
  | alternative predicate thenBranch elseBranch =>
      exact Node.check_conditional_ok.2 ⟨_, _, _, _, _, some _,
        predicate.check warnings, thenBranch.check warnings,
        Node.checkOption_some_ok.2 ⟨_, _, elseBranch.check warnings,
        rfl⟩, rfl, rfl⟩
  | loop predicate body =>
      exact Node.check_loop_ok.2
        ⟨_, _, _, _, predicate.check warnings, body.check warnings, rfl, rfl⟩
  | print value =>
      exact Node.check_print_ok.2 ⟨_, _, value.check warnings, rfl, rfl⟩
  | uninitialized =>
      exact Node.check_declaration_ok.2
        ⟨none, Node.checkOption_none_ok.2 ⟨rfl, rfl⟩, rfl, rfl, rfl⟩
  | initialized value =>
      exact Node.check_declaration_ok.2 ⟨some _, Node.checkOption_some_ok.2 ⟨_,
        _, value.check warnings, rfl⟩, rfl, rfl, rfl⟩
  | function parameters body =>
      exact Node.check_function_ok.2 ⟨_, _, _, _, parameters.checkAll warnings,
        body.check warnings, rfl, rfl⟩
  | assignment target value =>
      exact Node.check_assignment_ok.2
        ⟨_, _, _, _, target.check warnings, value.check warnings, rfl, rfl⟩

theorem TypedAll.checkAll {scopes : Scopes} {nodes : List Node}
    (typed : TypedAll scopes nodes)
    (warnings : List Warning) :
    (Node.checkAll scopes nodes).run warnings = .ok nodes warnings := by
  cases typed with
  | nil => exact Node.checkAll_nil_ok.2 ⟨rfl, rfl⟩
  | cons first others =>
      exact Node.checkAll_cons_ok.2
        ⟨_, _, _, _, first.check warnings, others.checkAll warnings, rfl⟩

theorem TypedArguments.checkArguments {scopes : Scopes} {nodes : List Node}
    {types : List DataType} (typed : TypedArguments scopes nodes types)
    (warnings : List Warning) :
    (Node.checkArguments scopes nodes types).run warnings =
      .ok nodes warnings := by
  cases typed with
  | nil => exact Node.checkArguments_nil_ok.2 ⟨rfl, rfl⟩
  | cons first others =>
      exact Node.checkArguments_cons_ok.2
        ⟨_, _, _, first.check warnings, others.checkArguments warnings, rfl⟩

end

namespace Node

variable {scopes : Scopes} {node checked : Node} {type : DataType}
  {warnings later : List Warning}

/-- The check of the tree yields the type, leaves the tree as it is and
announces nothing. -/
def HasType (scopes : Scopes) (node : Node) (type : DataType) : Prop :=
  ∀ warnings, (node.check scopes).run warnings = .ok (node, type) warnings

theorem hasType_of_check_ok
    (success : (node.check scopes).run warnings = .ok (checked, type) later) :
    checked.HasType scopes type :=
  (typed_of_check_ok node success).check

/-- A second check, of the tree that the first has yielded, yields the same tree
with the same type and announces nothing. -/
theorem check_again_of_check_ok
    (success : (node.check scopes).run warnings = .ok (checked, type) later)
    (others : List Warning) :
    (checked.check scopes).run others = .ok (checked, type) others := by
  have typed : Typed scopes checked type := typed_of_check_ok node success
  exact typed.check others

theorem check_again_of_check_ok_widened :
    ∃ checked,
      ((Node.print (.declaration .float "r" (some (.binary .multiply
          (.literal (.integer "2") ⟨"f.code", 1, 11⟩)
            (.literal (.float "1.5") ⟨"f.code", 1, 15⟩)
          ⟨"f.code", 1, 13⟩)) ⟨"f.code", 1, 1⟩) ⟨"f.code", 1,
          1⟩).check .initial).run [] =
        .ok (checked, .untyped)
        [⟨"Implicit Integer->Float cast", ⟨"f.code", 1, 13⟩⟩] ∧
      ∀ others, (checked.check .initial).run others =
        .ok (checked, .untyped) others := by
  refine Exists.imp (fun _ success =>
    ⟨success, check_again_of_check_ok success⟩) ?_
  exact ⟨_, rfl⟩

end Node

/-! ## Every part of a checked tree is typed -/

section Parts

variable {scopes : Scopes}

theorem TypedAll.mem {nodes : List Node} (typed : TypedAll scopes nodes)
    {node : Node} (member : node ∈ nodes) : ∃ type, Typed scopes node type :=
  match typed with
  | .cons first others =>
      match List.mem_cons.1 member with
      | Or.inl same => ⟨_, same ▸ first⟩
      | Or.inr member => others.mem member

theorem TypedArguments.mem {nodes : List Node} {types : List DataType}
    (typed : TypedArguments scopes nodes types) {node : Node}
    (member : node ∈ nodes) :
    ∃ type, Typed scopes node type :=
  match typed with
  | .cons first others =>
      match List.mem_cons.1 member with
      | Or.inl same => ⟨_, same ▸ first⟩
      | Or.inr member => others.mem member

theorem Typed.child {node child : Node} {type : DataType}
    (typed : Typed scopes node type)
    (member : child ∈ node.children) : ∃ type, Typed scopes child type := by
  cases typed with
  | literal => cases member
  | reference => cases member
  | call _ _ arguments => exact arguments.mem member
  | statements items => exact items.mem member
  | function parameters body =>
      rcases List.mem_append.1 member with inParameters | inBody
      · exact parameters.mem inParameters
      · cases List.mem_singleton.1 inBody
        exact ⟨_, body⟩
  | uninitialized => cases member
  | _ =>
      simp only [Node.children, Option.toList, List.mem_cons, List.not_mem_nil,
        or_false] at member
      rcases member with rfl | rfl | rfl <;> exact ⟨_, by assumption⟩

/-- A name that has a type is one that the scope it carries has seen
declared. -/
theorem Typed.symbol? {node : Node} {type : DataType} {name : String}
    {scope : ScopeId} (typed : Typed scopes node type)
    (mentions : node.Mentions name scope) :
    ∃ declared, scopes.symbol? scope name = .ok (some declared) := by
  cases mentions with
  | reference =>
      cases typed with
      | reference found => exact ⟨_, found⟩
  | call =>
      cases typed with
      | call found _ _ => exact ⟨_, found⟩

theorem Typed.throughout {node : Node} {type : DataType}
    (typed : Typed scopes node type) :
    node.Throughout fun part => ∃ type, Typed scopes part type := by
  intro part within
  induction within generalizing type with
  | self => exact ⟨type, typed⟩
  | inside member _ inductionHypothesis =>
      obtain ⟨childType, child⟩ := typed.child member
      exact inductionHypothesis child

end Parts

end Minilang
