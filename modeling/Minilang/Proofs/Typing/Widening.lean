import Minilang.Proofs.Typing.Typed

/-!
# Casts that a check adds

A check changes a tree in one way only: an integer that meets a number with a
fraction in arithmetic or in an ordering is put behind a cast. `Widens` says
which tree comes out of a tree in this way, and at which operators an operand
was cast. The main statements are `widens_of_check_ok`, which says that a check
does just this, and `widened_of_check_ok`, which adds what it means for the
casts in the tree and for the warnings.
-/

namespace Minilang

open Steps

/-! ## The casts in a tree -/

namespace Node

def isCast : Node → Bool
  | .cast _ _ _ => true
  | _ => false

def castCount (node : Node) : Nat :=
  node.postorder.countP isCast

def castCountAll (nodes : List Node) : Nat :=
  (nodes.flatMap postorder).countP isCast

theorem castCountAll_nil : castCountAll [] = 0 :=
  rfl

theorem castCountAll_cons (node : Node) (nodes : List Node) :
    castCountAll (node :: nodes) = node.castCount + castCountAll nodes := by
  rw [castCountAll, List.flatMap_cons, List.countP_append]
  rfl

theorem castCount_eq (node : Node) :
    node.castCount =
      castCountAll node.children + if node.isCast then 1 else 0 := by
  rw [castCount, postorder_eq, List.countP_append, List.countP_singleton]
  rfl

mutual

/-- The tree with each cast to a number with a fraction replaced by its
operand. -/
def withoutFloatCasts : Node → Node
  | .literal value position => .literal value position
  | .reference name scope position => .reference name scope position
  | .call name arguments scope position =>
      .call name (withoutFloatCastsAll arguments) scope position
  | .binary operator left right position =>
      .binary operator (withoutFloatCasts left)
        (withoutFloatCasts right) position
  | .cast target operand position =>
      if target = .float then withoutFloatCasts operand
      else .cast target (withoutFloatCasts operand) position
  | .statements items position =>
      .statements (withoutFloatCastsAll items) position
  | .conditional predicate thenBranch none position =>
      .conditional (withoutFloatCasts predicate) (withoutFloatCasts thenBranch)
        none position
  | .conditional predicate thenBranch (some elseBranch) position =>
      .conditional (withoutFloatCasts predicate) (withoutFloatCasts thenBranch)
        (some (withoutFloatCasts elseBranch)) position
  | .loop predicate body position =>
      .loop (withoutFloatCasts predicate) (withoutFloatCasts body) position
  | .print value position => .print (withoutFloatCasts value) position
  | .declaration type name none position => .declaration type name none position
  | .declaration type name (some value) position =>
      .declaration type name (some (withoutFloatCasts value)) position
  | .function returnType name parameters body position =>
      .function returnType name (withoutFloatCastsAll parameters)
        (withoutFloatCasts body) position
  | .assignment target value position =>
      .assignment (withoutFloatCasts target) (withoutFloatCasts value) position

def withoutFloatCastsAll : List Node → List Node
  | [] => []
  | node :: nodes => withoutFloatCasts node :: withoutFloatCastsAll nodes

end

end Node

/-- One of the types is that of integers and the other that of numbers with a
fraction. -/
def DataType.mixes : DataType → DataType → Bool
  | .integer, .float | .float, .integer => true
  | _, _ => false

theorem DataType.mixes_of_common? {left right type : DataType}
    (common : left.common? right = some type) : left.mixes right = false := by
  cases left <;> cases right <;> first | rfl | cases common

/-- Of the first two operands, one is an integer and the other a number with a
fraction. The last two are the same operands with the integer behind a cast,
which stands at the place of the integer. -/
inductive CastsInteger (scopes : Scopes) :
    Node → Node → Node → Node → Prop where
  | left {left right : Node} :
      left.HasType scopes .integer →
      right.HasType scopes .float →
      CastsInteger scopes left right (.cast .float left left.position) right
  | right {left right : Node} :
      left.HasType scopes .float →
      right.HasType scopes .integer →
      CastsInteger scopes left right left (.cast .float right right.position)

mutual

/-- The second tree is the first with an integer behind a cast wherever it meets
a number with a fraction in arithmetic or in an ordering. The list holds the
operators to which this happens, as they are in the second tree: those inside a
construct in the order of the source, then the construct. -/
inductive Widens (scopes : Scopes) : Node → Node → List Node → Prop where
  | literal {value : Literal} {position : Position} :
      Widens scopes (.literal value position) (.literal value position) []
  | reference {name : String} {scope : ScopeId} {position : Position} :
      Widens scopes (.reference name scope position)
        (.reference name scope position) []
  | call {name : String} {arguments newArguments operators : List Node}
      {scope : ScopeId} {position : Position} :
      WidensAll scopes arguments newArguments operators →
      Widens scopes (.call name arguments scope position)
        (.call name newArguments scope position)
        operators
  | kept {operator : BinaryOperator} {left newLeft right newRight : Node}
      {inLeft inRight : List Node} {leftType rightType : DataType}
      {position : Position} :
      Widens scopes left newLeft inLeft →
      Widens scopes right newRight inRight →
      newLeft.HasType scopes leftType →
      newRight.HasType scopes rightType →
      (leftType.mixes rightType = true → operator.isEquality = true) →
      Widens scopes (.binary operator left right position)
        (.binary operator newLeft newRight position) (inLeft ++ inRight)
  | widened {operator : BinaryOperator}
      {left newLeft castLeft right newRight castRight : Node}
      {inLeft inRight : List Node} {position : Position} :
      Widens scopes left newLeft inLeft →
      Widens scopes right newRight inRight →
      operator.isEquality = false →
      CastsInteger scopes newLeft newRight castLeft castRight →
      Widens scopes (.binary operator left right position)
        (.binary operator castLeft castRight position)
        (inLeft ++ inRight ++ [.binary operator castLeft castRight position])
  | cast {target : DataType} {operand newOperand : Node} {operators : List Node}
      {position : Position} :
      Widens scopes operand newOperand operators →
      Widens scopes (.cast target operand position)
        (.cast target newOperand position) operators
  | statements {items newItems operators : List Node} {position : Position} :
      WidensAll scopes items newItems operators →
      Widens scopes (.statements items position)
        (.statements newItems position) operators
  | conditional {predicate newPredicate thenBranch newThen : Node}
      {inPredicate inThen : List Node} {position : Position} :
      Widens scopes predicate newPredicate inPredicate →
      Widens scopes thenBranch newThen inThen →
      Widens scopes (.conditional predicate thenBranch none position)
        (.conditional newPredicate newThen none position)
          (inPredicate ++ inThen)
  | alternative
      {predicate newPredicate thenBranch newThen elseBranch newElse : Node}
      {inPredicate inThen inElse : List Node} {position : Position} :
      Widens scopes predicate newPredicate inPredicate →
      Widens scopes thenBranch newThen inThen →
      Widens scopes elseBranch newElse inElse →
      Widens scopes (.conditional predicate thenBranch
        (some elseBranch) position)
        (.conditional newPredicate newThen (some newElse) position)
        (inPredicate ++ inThen ++ inElse)
  | loop {predicate newPredicate body newBody : Node}
      {inPredicate inBody : List Node} {position : Position} :
      Widens scopes predicate newPredicate inPredicate →
      Widens scopes body newBody inBody →
      Widens scopes (.loop predicate body position)
        (.loop newPredicate newBody position)
        (inPredicate ++ inBody)
  | print {value newValue : Node} {operators : List Node}
      {position : Position} :
      Widens scopes value newValue operators →
      Widens scopes (.print value position) (.print newValue position) operators
  | uninitialized {type : DataType} {name : String} {position : Position} :
      Widens scopes (.declaration type name none position)
        (.declaration type name none position) []
  | initialized {type : DataType} {name : String} {value newValue : Node}
      {operators : List Node} {position : Position} :
      Widens scopes value newValue operators →
      Widens scopes (.declaration type name (some value) position)
        (.declaration type name (some newValue) position) operators
  | function {returnType : DataType} {name : String}
      {parameters newParameters inParameters : List Node} {body newBody : Node}
      {inBody : List Node} {position : Position} :
      WidensAll scopes parameters newParameters inParameters →
      Widens scopes body newBody inBody →
      Widens scopes (.function returnType name parameters body position)
        (.function returnType name newParameters newBody position)
          (inParameters ++ inBody)
  | assignment {target newTarget value newValue : Node}
      {inTarget inValue : List Node} {position : Position} :
      Widens scopes target newTarget inTarget →
      Widens scopes value newValue inValue →
      Widens scopes (.assignment target value position)
        (.assignment newTarget newValue position)
        (inTarget ++ inValue)

/-- The trees are as many, each comes out of the one at its place, and the
operators follow one another as the trees do. -/
inductive WidensAll (scopes : Scopes) :
    List Node → List Node → List Node → Prop where
  | nil : WidensAll scopes [] [] []
  | cons {node newNode : Node} {nodes newNodes inNode inNodes : List Node} :
      Widens scopes node newNode inNode →
      WidensAll scopes nodes newNodes inNodes →
      WidensAll scopes (node :: nodes) (newNode :: newNodes) (inNode ++ inNodes)

end

/-! ## A check widens the tree -/

namespace Node

variable {scopes : Scopes} {warnings later : List Warning}

/-- The warning that points to an operator of which an operand was cast. -/
def castWarning (operator : Node) : Warning :=
  ⟨"Implicit Integer->Float cast", operator.position⟩

theorem announced_append {first second : List Node} :
    warnings ++ first.map castWarning ++ second.map castWarning =
      warnings ++ (first ++ second).map castWarning := by
  rw [List.append_assoc, List.map_append]

/-- One operator adds at most one cast, and a warning at its own place with
it. -/
theorem widens_of_checkOperator_ok {operator : BinaryOperator}
    {left newLeft right newRight node : Node} {inLeft inRight : List Node}
    {leftType rightType type : DataType} {position : Position}
    (leftWidens : Widens scopes left newLeft inLeft)
    (rightWidens : Widens scopes right newRight inRight)
    (leftTyped : newLeft.HasType scopes leftType)
    (rightTyped : newRight.HasType scopes rightType)
    (success : (checkOperator operator newLeft leftType newRight rightType
      position).run warnings = .ok (node, type) later) :
    ∃ own, Widens scopes (.binary operator left right position) node
      (inLeft ++ inRight ++ own) ∧
      later = warnings ++ own.map castWarning := by
  -- The operands stay as they are for two reasons: equality never casts, and
  -- what is in common needs no cast.
  have unchanged
      (compared : leftType.mixes rightType = true →
        operator.isEquality = true) :
      Widens scopes (.binary operator left right position)
        (.binary operator newLeft newRight position)
          (inLeft ++ inRight ++ []) := by
    rw [List.append_nil]
    exact .kept leftWidens rightWidens leftTyped rightTyped compared
  rcases checkOperator_ok.1 success with ⟨equality, _, rfl, rfl⟩ |
    ⟨noEquality, castLeft, castRight, _, widened, rfl, _⟩
  · exact ⟨[], unchanged fun _ => equality, (List.append_nil _).symm⟩
  · rcases kept_or_cast_of_widen_ok widened with
      ⟨common, rfl, rfl, rfl⟩ | ⟨cast, _, rfl⟩
    · have unmixed := DataType.mixes_of_common? common
      refine ⟨[], unchanged fun mixed => ?_, (List.append_nil _).symm⟩
      cases unmixed.symm.trans mixed
    · refine ⟨[_], .widened leftWidens rightWidens noEquality ?_, rfl⟩
      rcases cast with ⟨rfl, rfl, rfl, rfl⟩ | ⟨rfl, rfl, rfl, rfl⟩
      · exact .left leftTyped rightTyped
      · exact .right leftTyped rightTyped

mutual

/-- A check puts integers behind casts, and announces each operator to which
this happens. -/
theorem widens_of_check_ok :
    (node : Node) → {checked : Node} → {type : DataType} →
    {warnings later : List Warning} →
    (node.check scopes).run warnings = .ok (checked, type) later →
    ∃ operators, Widens scopes node checked operators ∧
      later = warnings ++ operators.map castWarning
  | .literal _ _, _, _, _, _, success => by
      obtain ⟨rfl, _, rfl⟩ := check_literal_ok.1 success
      exact ⟨[], .literal, (List.append_nil _).symm⟩
  | .reference _ _ _, _, _, _, _, success => by
      obtain ⟨_, rfl, rfl⟩ := check_reference_ok.1 success
      exact ⟨[], .reference, (List.append_nil _).symm⟩
  | .call _ arguments _ _, _, _, _, _, success => by
      obtain ⟨signature, _, _, _, count, each, rfl, _⟩ :=
        check_call_ok.1 success
      rw [← List.length_map Prod.snd] at count
      obtain ⟨operators, widens, rfl⟩ :=
        widens_of_checkArguments_ok arguments count each
      exact ⟨operators, .call widens, rfl⟩
  | .binary _ left right _, _, _, _, _, success => by
      obtain ⟨_, _, _, _, _, _, first, second, rest⟩ :=
        check_binary_ok.1 success
      obtain ⟨inLeft, leftWidens, rfl⟩ := widens_of_check_ok left first
      obtain ⟨inRight, rightWidens, rfl⟩ := widens_of_check_ok right second
      obtain ⟨own, widens, rfl⟩ :=
        widens_of_checkOperator_ok leftWidens rightWidens (hasType_of_check_ok
        first) (hasType_of_check_ok second) rest
      refine ⟨_, widens, ?_⟩
      rw [announced_append, announced_append, List.append_assoc]
  | .cast _ operand _, _, _, _, _, success => by
      obtain ⟨_, _, inner, _, rfl, _⟩ := check_cast_ok.1 success
      obtain ⟨operators, widens, rfl⟩ := widens_of_check_ok operand inner
      exact ⟨operators, .cast widens, rfl⟩
  | .statements items _, _, _, _, _, success => by
      obtain ⟨_, inner, rfl, _⟩ := check_statements_ok.1 success
      obtain ⟨operators, widens, rfl⟩ := widens_of_checkAll_ok items inner
      exact ⟨operators, .statements widens, rfl⟩
  | .conditional predicate thenBranch none _, _, _, _, _, success => by
      obtain ⟨_, _, _, _, _, _, first, second, third, rfl, _⟩ :=
        check_conditional_ok.1 success
      obtain ⟨rfl, rfl⟩ := checkOption_none_ok.1 third
      obtain ⟨_, predicateWidens, rfl⟩ := widens_of_check_ok predicate first
      obtain ⟨_, thenWidens, rfl⟩ := widens_of_check_ok thenBranch second
      exact ⟨_, .conditional predicateWidens thenWidens, announced_append⟩
  | .conditional predicate thenBranch (some elseBranch) _, _, _, _, _,
    success => by
      obtain ⟨_, _, _, _, _, _, first, second, third, rfl, _⟩ :=
        check_conditional_ok.1 success
      obtain ⟨_, _, inner, rfl⟩ := checkOption_some_ok.1 third
      obtain ⟨_, predicateWidens, rfl⟩ := widens_of_check_ok predicate first
      obtain ⟨_, thenWidens, rfl⟩ := widens_of_check_ok thenBranch second
      obtain ⟨_, elseWidens, rfl⟩ := widens_of_check_ok elseBranch inner
      refine ⟨_, .alternative predicateWidens thenWidens elseWidens, ?_⟩
      rw [announced_append, announced_append, List.append_assoc]
  | .loop predicate body _, _, _, _, _, success => by
      obtain ⟨_, _, _, _, first, second, rfl, _⟩ := check_loop_ok.1 success
      obtain ⟨_, predicateWidens, rfl⟩ := widens_of_check_ok predicate first
      obtain ⟨_, bodyWidens, rfl⟩ := widens_of_check_ok body second
      exact ⟨_, .loop predicateWidens bodyWidens, announced_append⟩
  | .print value _, _, _, _, _, success => by
      obtain ⟨_, _, inner, rfl, _⟩ := check_print_ok.1 success
      obtain ⟨operators, widens, rfl⟩ := widens_of_check_ok value inner
      exact ⟨operators, .print widens, rfl⟩
  | .declaration _ _ none _, _, _, _, _, success => by
      obtain ⟨_, inner, _, rfl, _⟩ := check_declaration_ok.1 success
      obtain ⟨rfl, rfl⟩ := checkOption_none_ok.1 inner
      exact ⟨[], .uninitialized, (List.append_nil _).symm⟩
  | .declaration _ _ (some value) _, _, _, _, _, success => by
      obtain ⟨_, found, _, rfl, _⟩ := check_declaration_ok.1 success
      obtain ⟨_, _, inner, rfl⟩ := checkOption_some_ok.1 found
      obtain ⟨operators, widens, rfl⟩ := widens_of_check_ok value inner
      exact ⟨operators, .initialized widens, rfl⟩
  | .function _ _ parameters body _, _, _, _, _, success => by
      obtain ⟨_, _, _, _, first, second, rfl, _⟩ := check_function_ok.1 success
      obtain ⟨_, parametersWiden, rfl⟩ := widens_of_checkAll_ok parameters first
      obtain ⟨_, bodyWidens, rfl⟩ := widens_of_check_ok body second
      exact ⟨_, .function parametersWiden bodyWidens, announced_append⟩
  | .assignment target value _, _, _, _, _, success => by
      obtain ⟨_, _, _, _, first, second, rfl, _⟩ :=
        check_assignment_ok.1 success
      obtain ⟨_, targetWidens, rfl⟩ := widens_of_check_ok target first
      obtain ⟨_, valueWidens, rfl⟩ := widens_of_check_ok value second
      exact ⟨_, .assignment targetWidens valueWidens, announced_append⟩

theorem widens_of_checkAll_ok : (nodes : List Node) → {checked : List Node} →
    {warnings later : List Warning} →
    (checkAll scopes nodes).run warnings = .ok checked later →
    ∃ operators, WidensAll scopes nodes checked operators ∧
      later = warnings ++ operators.map castWarning
  | [], _, _, _, success => by
      obtain ⟨rfl, rfl⟩ := checkAll_nil_ok.1 success
      exact ⟨[], .nil, (List.append_nil _).symm⟩
  | node :: nodes, _, _, _, success => by
      obtain ⟨_, _, _, _, first, others, rfl⟩ := checkAll_cons_ok.1 success
      obtain ⟨_, nodeWidens, rfl⟩ := widens_of_check_ok node first
      obtain ⟨_, nodesWiden, rfl⟩ := widens_of_checkAll_ok nodes others
      exact ⟨_, .cons nodeWidens nodesWiden, announced_append⟩

theorem widens_of_checkArguments_ok :
    (nodes : List Node) → {types : List DataType} →
    {checked : List Node} → {warnings later : List Warning} →
    nodes.length = types.length →
    (checkArguments scopes nodes types).run warnings = .ok checked later →
    ∃ operators, WidensAll scopes nodes checked operators ∧
      later = warnings ++ operators.map castWarning
  | [], [], _, _, _, _, success => by
      obtain ⟨rfl, rfl⟩ := checkArguments_nil_ok.1 success
      exact ⟨[], .nil, (List.append_nil _).symm⟩
  | node :: nodes, type :: types, _, _, _, count, success => by
      obtain ⟨_, _, _, first, others, rfl⟩ := checkArguments_cons_ok.1 success
      obtain ⟨_, nodeWidens, rfl⟩ := widens_of_check_ok node first
      obtain ⟨_, nodesWiden, rfl⟩ :=
        widens_of_checkArguments_ok nodes (Nat.succ.inj count) others
      exact ⟨_, .cons nodeWidens nodesWiden, announced_append⟩

end

end Node

theorem CastsInteger.withoutFloatCasts_eq {scopes : Scopes}
    {left right castLeft castRight : Node}
    (casts : CastsInteger scopes left right castLeft castRight) :
    castLeft.withoutFloatCasts = left.withoutFloatCasts ∧
      castRight.withoutFloatCasts = right.withoutFloatCasts := by
  cases casts with
  | left =>
      rw [Node.withoutFloatCasts, if_pos rfl]
      exact ⟨rfl, rfl⟩
  | right =>
      constructor
      · rfl
      · rw [Node.withoutFloatCasts, if_pos rfl]

mutual

/-- A tree that is widened is the same up to its casts to a number with a
fraction. -/
theorem Widens.withoutFloatCasts_eq {scopes : Scopes} {node checked : Node}
    {operators : List Node} (widens : Widens scopes node checked operators) :
    checked.withoutFloatCasts = node.withoutFloatCasts := by
  cases widens with
  | literal => rfl
  | reference => rfl
  | call arguments =>
      simp only [Node.withoutFloatCasts, arguments.withoutFloatCasts_eq]
  | kept left right =>
      simp only [Node.withoutFloatCasts, left.withoutFloatCasts_eq,
        right.withoutFloatCasts_eq]
  | widened left right _ casts =>
      simp only [Node.withoutFloatCasts, casts.withoutFloatCasts_eq.1,
        casts.withoutFloatCasts_eq.2, left.withoutFloatCasts_eq,
        right.withoutFloatCasts_eq]
  | cast operand =>
      simp only [Node.withoutFloatCasts, operand.withoutFloatCasts_eq]
  | statements items =>
      simp only [Node.withoutFloatCasts, items.withoutFloatCasts_eq]
  | conditional predicate thenBranch =>
      simp only [Node.withoutFloatCasts, predicate.withoutFloatCasts_eq,
        thenBranch.withoutFloatCasts_eq]
  | alternative predicate thenBranch elseBranch =>
      simp only [Node.withoutFloatCasts, predicate.withoutFloatCasts_eq,
        thenBranch.withoutFloatCasts_eq, elseBranch.withoutFloatCasts_eq]
  | loop predicate body =>
      simp only [Node.withoutFloatCasts, predicate.withoutFloatCasts_eq,
        body.withoutFloatCasts_eq]
  | print value =>
      simp only [Node.withoutFloatCasts, value.withoutFloatCasts_eq]
  | uninitialized => rfl
  | initialized value =>
      simp only [Node.withoutFloatCasts, value.withoutFloatCasts_eq]
  | function parameters body =>
      simp only [Node.withoutFloatCasts, parameters.withoutFloatCasts_eq,
        body.withoutFloatCasts_eq]
  | assignment target value =>
      simp only [Node.withoutFloatCasts, target.withoutFloatCasts_eq,
        value.withoutFloatCasts_eq]

theorem WidensAll.withoutFloatCasts_eq {scopes : Scopes}
    {nodes checked operators : List Node}
    (widen : WidensAll scopes nodes checked operators) :
    Node.withoutFloatCastsAll checked = Node.withoutFloatCastsAll nodes := by
  cases widen with
  | nil => rfl
  | cons first others =>
      simp only [Node.withoutFloatCastsAll, first.withoutFloatCasts_eq,
        others.withoutFloatCasts_eq]

end

section Added

variable {scopes : Scopes} {node checked : Node}
  {nodes others operators more : List Node}

theorem WidensAll.append {newNodes newOthers : List Node}
    (widen : WidensAll scopes nodes newNodes operators)
    (othersWiden : WidensAll scopes others newOthers more) :
    WidensAll scopes (nodes ++ others) (newNodes ++ newOthers)
      (operators ++ more) := by
  induction nodes generalizing newNodes operators with
  | nil =>
      cases widen with
      | nil => exact othersWiden
  | cons node nodes inductionHypothesis =>
      cases widen with
      | cons first rest =>
          rw [List.append_assoc]
          exact .cons first (inductionHypothesis rest)

theorem Widens.singleton (widens : Widens scopes node checked operators) :
    WidensAll scopes [node] [checked] operators := by
  have alone := WidensAll.cons widens .nil
  rwa [List.append_nil] at alone

/-- What is inside a construct is widened one after the other, and that is all
unless the construct is an operator of which an operand is cast. -/
theorem Widens.children_or_casts
    (widens : Widens scopes node checked operators) :
    WidensAll scopes node.children checked.children operators ∨
      ∃ left newLeft castLeft right newRight castRight inLeft inRight,
        node.children = [left, right] ∧
        checked.children = [castLeft, castRight] ∧
        Widens scopes left newLeft inLeft ∧
        Widens scopes right newRight inRight ∧
        CastsInteger scopes newLeft newRight castLeft castRight ∧
        operators = inLeft ++ inRight ++ [checked] := by
  cases widens with
  | widened left right _ casts =>
      exact Or.inr ⟨_, _, _, _, _, _, _, _, rfl, rfl, left, right, casts, rfl⟩
  | literal => exact Or.inl .nil
  | reference => exact Or.inl .nil
  | uninitialized => exact Or.inl .nil
  | call arguments => exact Or.inl arguments
  | statements items => exact Or.inl items
  | cast operand => exact Or.inl operand.singleton
  | print value => exact Or.inl value.singleton
  | initialized value => exact Or.inl value.singleton
  | kept left right => exact Or.inl (left.singleton.append right.singleton)
  | conditional predicate thenBranch =>
      exact Or.inl (predicate.singleton.append thenBranch.singleton)
  | alternative predicate thenBranch elseBranch =>
      exact Or.inl ((predicate.singleton.append thenBranch.singleton).append
        elseBranch.singleton)
  | loop predicate body =>
      exact Or.inl (predicate.singleton.append body.singleton)
  | function parameters body => exact Or.inl (parameters.append body.singleton)
  | assignment target value =>
      exact Or.inl (target.singleton.append value.singleton)

theorem WidensAll.exists_of_mem {other : Node}
    (widen : WidensAll scopes nodes others operators)
    (member : other ∈ others) :
    ∃ node ∈ nodes, ∃ inNode, Widens scopes node other inNode := by
  induction nodes generalizing others operators with
  | nil =>
      cases widen with
      | nil => cases member
  | cons node nodes inductionHypothesis =>
      cases widen with
      | cons first rest =>
          rcases List.mem_cons.1 member with rfl | inRest
          · exact ⟨node, List.mem_cons_self, _, first⟩
          · obtain ⟨found, inNodes, widens⟩ := inductionHypothesis rest inRest
            exact ⟨found, List.mem_cons_of_mem _ inNodes, widens⟩

theorem Widens.isCast_eq (widens : Widens scopes node checked operators) :
    checked.isCast = node.isCast := by
  cases widens <;> rfl

theorem CastsInteger.castCount_eq {left right castLeft castRight : Node}
    (casts : CastsInteger scopes left right castLeft castRight) :
    castLeft.castCount + castRight.castCount = left.castCount +
      right.castCount + 1 := by
  have cast (operand : Node) :
      (Node.cast .float operand operand.position).castCount =
        operand.castCount + 1 := by
    have inside : Node.castCountAll [operand] = operand.castCount := by
      rw [Node.castCountAll_cons, Node.castCountAll_nil, Nat.add_zero]
    rw [Node.castCount_eq]
    exact congrArg Nat.succ inside
  cases casts with
  | left =>
      rw [cast]
      omega
  | right =>
      rw [cast]
      omega

theorem WidensAll.castCount_eq (widen : WidensAll scopes nodes others operators)
    (each : ∀ node ∈ nodes, ∀ {checked operators},
      Widens scopes node checked operators →
      checked.castCount = node.castCount + operators.length) :
    Node.castCountAll others = Node.castCountAll nodes + operators.length := by
  induction nodes generalizing others operators with
  | nil =>
      cases widen with
      | nil => rfl
  | cons node nodes inductionHypothesis =>
      obtain ⟨eachFirst, eachRest⟩ := List.forall_mem_cons.1 each
      cases widen with
      | cons first rest =>
          have inFirst := eachFirst first
          have inRest := inductionHypothesis rest eachRest
          rw [Node.castCountAll_cons, Node.castCountAll_cons,
            List.length_append]
          omega

/-- A tree that is widened has one more cast for each operator of which an
operand is cast. -/
theorem Widens.castCount_eq (widens : Widens scopes node checked operators) :
    checked.castCount = node.castCount + operators.length := by
  -- The induction is on what is directly inside, not on the rules: of these
  -- only the one that casts counts, and `children_or_casts` sets it apart.
  induction node using Node.childrenInduction
    generalizing checked operators with
  | inside node inductionHypothesis =>
      rw [Node.castCount_eq checked, Node.castCount_eq node, widens.isCast_eq]
      rcases widens.children_or_casts with widen |
        ⟨left, newLeft, castLeft, right, newRight, castRight, inLeft,
          inRight, children, newChildren, leftWidens, rightWidens, casts, rfl⟩
      · have inside := widen.castCount_eq inductionHypothesis
        omega
      · have inLeft := inductionHypothesis left (by simp [children]) leftWidens
        have inRight :=
          inductionHypothesis right (by simp [children]) rightWidens
        have added := casts.castCount_eq
        simp only [children, newChildren, Node.castCountAll_cons,
          Node.castCountAll_nil, List.length_append, List.length_singleton]
        omega

/-- A cast is a new node around the operand and keeps what is inside. -/
theorem CastsInteger.sublist {left right castLeft castRight : Node}
    (casts : CastsInteger scopes left right castLeft castRight) :
    left.postorder.Sublist castLeft.postorder ∧
    right.postorder.Sublist castRight.postorder := by
  have cast (operand : Node) : operand.postorder.Sublist
      (Node.cast .float operand operand.position).postorder := by
    rw [Node.postorder_eq (.cast _ _ _)]
    simp [Node.children]
  cases casts with
  | left => exact ⟨cast left, .refl _⟩
  | right => exact ⟨.refl _, cast right⟩

theorem WidensAll.sublist (widen : WidensAll scopes nodes others operators)
    (each : ∀ node ∈ nodes, ∀ {checked operators},
      Widens scopes node checked operators →
      operators.Sublist checked.postorder) :
    operators.Sublist (others.flatMap Node.postorder) := by
  induction nodes generalizing others operators with
  | nil =>
      cases widen with
      | nil => exact .refl _
  | cons node nodes inductionHypothesis =>
      obtain ⟨eachFirst, eachRest⟩ := List.forall_mem_cons.1 each
      cases widen with
      | cons first rest =>
          exact (eachFirst first).append (inductionHypothesis rest eachRest)

/-- The operators of which an operand is cast are listed in postorder. -/
theorem Widens.sublist (widens : Widens scopes node checked operators) :
    operators.Sublist checked.postorder := by
  induction node using Node.childrenInduction
    generalizing checked operators with
  | inside node inductionHypothesis =>
      rw [Node.postorder_eq]
      rcases widens.children_or_casts with widen |
        ⟨left, newLeft, castLeft, right, newRight, castRight, inLeft,
          inRight, children, newChildren, leftWidens, rightWidens, casts, rfl⟩
      · exact (widen.sublist inductionHypothesis).trans
          (List.sublist_append_left _ _)
      · have inLeft := inductionHypothesis left (by simp [children]) leftWidens
        have inRight :=
          inductionHypothesis right (by simp [children]) rightWidens
        obtain ⟨leftBelow, rightBelow⟩ := casts.sublist
        rw [newChildren, List.flatMap_cons, List.flatMap_singleton]
        exact ((inLeft.trans leftBelow).append
          (inRight.trans rightBelow)).append (.refl _)

/-- A check changes a tree by nothing but casts of integers that meet a number
with a fraction in arithmetic or in an ordering. It adds one cast for each
operator to which this happens, and announces these operators, and nothing else,
in postorder. -/
theorem Node.widened_of_check_ok {type : DataType}
    {warnings later : List Warning}
    (success : (node.check scopes).run warnings = .ok (checked, type) later) :
    ∃ operators, Widens scopes node checked operators ∧
      operators.Sublist checked.postorder ∧
      later = warnings ++ operators.map castWarning ∧
      checked.castCount = node.castCount + operators.length ∧
      checked.withoutFloatCasts = node.withoutFloatCasts := by
  obtain ⟨operators, widens, announced⟩ := widens_of_check_ok node success
  exact ⟨operators, widens, widens.sublist, announced, widens.castCount_eq,
    widens.withoutFloatCasts_eq⟩

theorem Node.widened_of_check_ok_nested :
    let node := Node.print (.binary .lessThan (.binary .multiply
      (.literal (.integer "2") ⟨"f.code", 1, 7⟩)
        (.literal (.float "1.5") ⟨"f.code", 1, 11⟩)
      ⟨"f.code", 1, 9⟩) (.literal (.integer "3") ⟨"f.code", 1, 17⟩)
        ⟨"f.code", 1, 15⟩)
      ⟨"f.code", 1, 1⟩
    let later : List Warning :=
      [⟨"Implicit Integer->Float cast", ⟨"f.code", 1, 9⟩⟩,
        ⟨"Implicit Integer->Float cast", ⟨"f.code", 1, 15⟩⟩]
    ∃ checked, (node.check .initial).run [] = .ok (checked, .untyped) later ∧
      ∃ operators, Widens .initial node checked operators ∧
        operators.Sublist checked.postorder ∧
        later = [] ++ operators.map castWarning ∧
        checked.castCount = node.castCount + operators.length ∧
        checked.withoutFloatCasts = node.withoutFloatCasts := by
  intro node later
  refine Exists.imp (fun _ success => ⟨success, ?_⟩) ?_
  · exact widened_of_check_ok success
  · exact ⟨_, rfl⟩

end Added

end Minilang
