import Minilang.Proofs.Reading.Form
import Minilang.Proofs.Scoping.Compiled
import Minilang.Proofs.Typing.Widening

/-!
# The form of checked trees

A check puts integers behind casts and leaves all else as it was read, so a
checked tree is formed like the tree that was read: what was a statement, an
expression or a list still is one, and a cast that was added stands around an
expression. The main statement, `formed_of_parse_check`, puts this together with
the form of what is read.
-/

namespace Minilang

section Form

variable {scopes : Scopes} {node checked : Node}
  {nodes others operators : List Node}

theorem Widens.isExpression_eq (widens : Widens scopes node checked operators) :
    checked.isExpression = node.isExpression := by
  cases widens <;> rfl

theorem Widens.isList_eq (widens : Widens scopes node checked operators) :
    checked.isList = node.isList := by
  cases widens <;> rfl

theorem Widens.isReference_eq (widens : Widens scopes node checked operators) :
    checked.isReference = node.isReference := by
  cases widens <;> rfl

theorem Widens.isItem (widens : Widens scopes node checked operators)
    (isItem : node.IsItem) :
    checked.IsItem := by
  cases widens <;> exact isItem

theorem Widens.isParameter {entry : String × DataType}
    (widens : Widens scopes node checked operators)
    (isParameter : node.IsParameter entry) :
    checked.IsParameter entry := by
  obtain ⟨position, rfl⟩ := isParameter
  cases widens
  exact ⟨position, rfl⟩

/-- What widening keeps of each tree holds of all of them afterwards. -/
theorem WidensAll.forall_mem {holds : Node → Prop}
    (widen : WidensAll scopes nodes others operators)
    (kept : ∀ node ∈ nodes, ∀ {checked operators},
      Widens scopes node checked operators → holds node → holds checked)
    (all : ∀ node ∈ nodes, holds node) : ∀ other ∈ others, holds other := by
  intro other member
  obtain ⟨node, oldMember, _, widens⟩ := widen.exists_of_mem member
  exact kept node oldMember widens (all node oldMember)

/-- A construct is formed as before, whether an operand is cast or not. -/
theorem Widens.isFormed (widens : Widens scopes node checked operators)
    (formed : node.IsFormed) :
    checked.IsFormed := by
  cases widens with
  | literal | reference | uninitialized => exact formed
  | call arguments =>
      refine ⟨formed.1, arguments.forall_mem ?_ formed.2⟩
      exact fun _ _ _ _ widens expression =>
        widens.isExpression_eq.trans expression
  | kept left right =>
      exact ⟨left.isExpression_eq.trans formed.1,
        right.isExpression_eq.trans formed.2⟩
  | widened left right _ casts =>
      cases casts with
      | left => exact ⟨rfl, right.isExpression_eq.trans formed.2⟩
      | right => exact ⟨left.isExpression_eq.trans formed.1, rfl⟩
  | cast operand => exact ⟨formed.1, operand.isExpression_eq.trans formed.2⟩
  | statements items =>
      exact items.forall_mem (fun _ _ _ _ widens => widens.isItem) formed
  | conditional predicate thenBranch =>
      obtain ⟨expression, isList, _⟩ := formed
      exact ⟨predicate.isExpression_eq.trans expression,
        thenBranch.isList_eq.trans isList, nofun⟩
  | alternative predicate thenBranch elseBranch =>
      obtain ⟨expression, isList, others⟩ := formed
      refine ⟨predicate.isExpression_eq.trans expression,
        thenBranch.isList_eq.trans isList, ?_⟩
      rintro _ ⟨⟩
      exact elseBranch.isList_eq.trans (others _ rfl)
  | loop predicate body =>
      exact ⟨predicate.isExpression_eq.trans formed.1,
        body.isList_eq.trans formed.2⟩
  | print value => exact value.isExpression_eq.trans formed
  | initialized value =>
      obtain ⟨isWritten, identifier, expression⟩ := formed
      refine ⟨isWritten, identifier, ?_⟩
      rintro _ ⟨⟩
      exact value.isExpression_eq.trans (expression _ rfl)
  | function parameters body =>
      obtain ⟨isWritten, identifier, entries, isList⟩ := formed
      refine ⟨isWritten, identifier, Node.forall₂_isParameter_iff.2 ?_,
        body.isList_eq.trans isList⟩
      have plain := Node.forall₂_isParameter_iff.1 entries
      refine parameters.forall_mem (fun _ _ _ _ widens => ?_) plain
      exact fun ⟨entry, isParameter⟩ => ⟨entry, widens.isParameter isParameter⟩
  | assignment target value =>
      exact ⟨target.isReference_eq.trans formed.1,
        value.isExpression_eq.trans formed.2⟩

/-- What has the type of a number is an expression. -/
theorem Node.HasType.isExpression {type : DataType}
    (typed : node.HasType scopes type)
    (number : type = .integer ∨ type = .float) : node.isExpression = true := by
  cases Node.typed_of_check_ok node (typed []) with
  | literal | reference | call | binary | cast => rfl
  | _ => rcases number with impossible | impossible <;> cases impossible

section Throughout

variable {holds : Node → Prop}
  (cast : ∀ {operand : Node}, operand.HasType scopes .integer → holds operand →
    holds (.cast .float operand operand.position))
include cast

theorem CastsInteger.throughout {left right castLeft castRight : Node}
    (casts : CastsInteger scopes left right castLeft castRight)
    (leftAll : left.Throughout holds) (rightAll : right.Throughout holds) :
    castLeft.Throughout holds ∧ castRight.Throughout holds := by
  cases casts with
  | left typed =>
      have added := Node.throughout_iff.2
        ⟨cast typed leftAll.self, List.forall_mem_singleton.2 leftAll⟩
      exact ⟨added, rightAll⟩
  | right _ typed =>
      have added := Node.throughout_iff.2
        ⟨cast typed rightAll.self, List.forall_mem_singleton.2 rightAll⟩
      exact ⟨leftAll, added⟩

/-- What widening keeps of each construct, and what holds of each cast that it
adds, holds throughout the tree afterwards. -/
theorem Widens.throughout
    (kept : ∀ {node checked : Node} {operators : List Node},
      Widens scopes node checked operators → holds node → holds checked)
    (widens : Widens scopes node checked operators)
    (all : node.Throughout holds) :
    checked.Throughout holds := by
  induction node using Node.childrenInduction
    generalizing checked operators with
  | inside node inductionHypothesis =>
      obtain ⟨own, below⟩ := Node.throughout_iff.1 all
      refine Node.throughout_iff.2 ⟨kept widens own, ?_⟩
      rcases widens.children_or_casts with widen |
        ⟨left, newLeft, castLeft, right, newRight, castRight, _, _,
          children, newChildren,
          leftWidens, rightWidens, casts, _⟩
      · exact widen.forall_mem inductionHypothesis below
      · rw [children, List.forall_mem_cons, List.forall_mem_singleton] at below
        have leftMember : left ∈ node.children := by simp [children]
        have rightMember : right ∈ node.children := by simp [children]
        obtain ⟨leftAll, rightAll⟩ := casts.throughout cast
          (inductionHypothesis left leftMember leftWidens below.1)
          (inductionHypothesis right rightMember rightWidens below.2)
        rw [newChildren]
        exact List.forall_mem_cons.2
          ⟨leftAll, List.forall_mem_singleton.2 rightAll⟩

end Throughout

/-- Casts keep the form of a tree. -/
theorem Widens.throughout_isFormed
    (widens : Widens scopes node checked operators)
    (formed : node.Throughout Node.IsFormed) :
    checked.Throughout Node.IsFormed :=
  widens.throughout
    (fun typed _ => ⟨DataType.isWritten_float, typed.isExpression (Or.inl rfl)⟩)
    Widens.isFormed formed

theorem Node.isFormedList_of_check_ok {type : DataType}
    {warnings later : List Warning}
    (success : (node.check scopes).run warnings = .ok (checked, type) later)
    (formed : node.IsFormedList) : checked.IsFormedList := by
  obtain ⟨_, widens, _⟩ := widens_of_check_ok node success
  exact ⟨widens.isList_eq.trans formed.1, widens.throughout_isFormed formed.2⟩

end Form

namespace Program

variable {source file : String} {program : Program}

/-- The root of a compiled program has the form of a list that was read. -/
theorem formed_of_compile {warnings later : List Warning}
    (success : (compile source file).run warnings = .ok program later) :
    program.root.IsFormedList := by
  obtain ⟨parsed, _, read, checked, _⟩ := compile_ok.1 success
  exact Node.isFormedList_of_check_ok checked (formed_of_parse read)

/-- The tree that was read is a list of statements and formed throughout, and so
is the tree that a check makes of it. -/
theorem formed_of_parse_check (read : parse source file = .ok program) :
    program.root.IsFormedList ∧
      ∀ (checked : Program) (warnings later : List Warning),
        program.check.run warnings = .ok checked later →
        checked.root.IsFormedList := by
  have formed := formed_of_parse read
  refine ⟨formed, fun checked warnings later success => ?_⟩
  obtain ⟨_, inner, _⟩ := check_ok.1 success
  exact Node.isFormedList_of_check_ok inner formed

theorem formed_of_parse_check_function :
    ∃ program checked later,
      parse
        ("float f(int n, float r) \x7b while n < 1 \x7b print <float> n * r \x7d r \x7d " ++
          "bool b if f(1, 2.5) < 3 \x7b set b = 1 < 2 \x7d else \x7b string s = \"a\" \x7d")
        "f.code" = .ok program ∧
      program.check.run [] = .ok checked later ∧
      program.root.IsFormedList ∧ checked.root.IsFormedList := by
  obtain ⟨checked, later, success⟩ := Steps.exists_ok_of_succeeded <|
    show Steps.succeeded ((compile
      ("float f(int n, float r) \x7b while n < 1 \x7b print <float> n * r \x7d r \x7d " ++
        "bool b if f(1, 2.5) < 3 \x7b set b = 1 < 2 \x7d else \x7b string s = \"a\" \x7d")
        "f.code").run []) = true by decide +kernel
  obtain ⟨program, type, read, inner, scopes⟩ := compile_ok.1 success
  have check := check_ok.2 ⟨type, inner, scopes⟩
  obtain ⟨formed, checkedFormed⟩ := formed_of_parse_check read
  exact ⟨program, checked, later, read, check, formed,
    checkedFormed checked [] later check⟩

end Program

end Minilang
