import Minilang.Proofs.Execution.Generated
import Minilang.Proofs.Reading.Form

/-!
# Where generation stops

The leaves of a tree are its statements that are not lists themselves. Some of
them have code of their own; the others are refused. Generation goes through the
leaves in their order and stops at the first that is refused: what it has added
by then is the code of those before, whole, and nothing of the one refused:
`Node.generated_of_leaves`.
-/

namespace Minilang

open Steps

namespace Generator

/-- Generation has added the code, and has then stopped at the construct if
there is one. -/
def outcome (start : Generator) (code : List Instruction) :
    Option Node → EStateM.Result Diagnostic Generator Unit
  | none => .ok () (start.extend code)
  | some node =>
      .error ⟨.notSupported node.kind, node.position⟩ (start.extend code)

variable {start : Generator} {code more : List Instruction}
  {refused : Option Node}

theorem last_outcome :
    last (start.outcome code refused) = start.extend code := by
  cases refused <;> rfl

theorem succeeded_outcome :
    succeeded (start.outcome code refused) = true ↔ refused = none := by
  cases refused <;> simp [outcome, succeeded]

theorem outcome_extend :
    (start.extend code).outcome more refused = start.outcome
      (code ++ more) refused := by
  cases refused <;> simp only [outcome, extend_extend]

theorem extend_injective (same : start.extend code = start.extend more) :
    code = more := by
  have codes := congrArg (fun generator => generator.code.toList) same
  simpa [extend] using codes

end Generator

namespace Node

mutual

/-- The statements of the tree that are not lists, in the order of the
source. -/
def leaves : Node → List Node
  | statements items _ => leavesAll items
  | node => [node]

def leavesAll : List Node → List Node
  | [] => []
  | node :: nodes => leaves node ++ leavesAll nodes

end

/-- The instruction that puts the value of a literal or of a name onto the
stack. -/
def fetch? : Node → Option Instruction
  | literal value position => some ⟨.push value, position⟩
  | reference name _ position => some ⟨.load name, position⟩
  | _ => none

def isFetched (node : Node) : Bool :=
  node.fetch?.isSome

/-- The leaf is a declaration without a first value or with one that is a
literal or a name, an assignment of a literal or a name to a name, or a literal
or a name itself. -/
def isSupported : Node → Bool
  | declaration _ _ none _ => true
  | declaration _ _ (some value) _ => value.isFetched
  | assignment target value _ => target.isReference && value.isFetched
  | node => node.isFetched

/-- What stands in the way of code for the leaf: its first value; the target of
an assignment if it is no name, and otherwise the value; or the leaf itself. -/
def offender : Node → Node
  | declaration _ _ (some value) _ => value
  | assignment target value _ => if target.isReference then value else target
  | node => node

def lowering : Node → List Instruction
  | declaration _ _ none _ => []
  | declaration _ name (some value) position =>
      value.fetch?.toList ++ [⟨.store name, position⟩]
  | assignment (reference name _ _) value position =>
      value.fetch?.toList ++ [⟨.store name, position⟩]
  | node => node.fetch?.toList ++ [⟨.pop, node.position⟩]

variable {start : Generator}

theorem run_emit {opcode : Opcode} {position : Position} :
    (Generate.emit opcode position).run start =
      .ok () (start.extend [⟨opcode, position⟩]) :=
  emit_ok.2 rfl

theorem run_generateValue_of_isFetched {value : Node}
    (fetched : value.isFetched = true) :
    value.generateValue.run start =
      .ok () (start.extend value.fetch?.toList) := by
  cases value with
  | literal | reference => exact run_emit
  | _ => cases fetched

theorem run_generateValue_of_not {value : Node}
    (refused : value.isFetched = false) :
    value.generateValue.run start =
      .error ⟨.notSupported value.kind, value.position⟩ start := by
  cases value with
  | literal | reference => cases refused
  | _ => rfl

/-- A value that is taken off the stack at once. -/
theorem run_use_of_isFetched {value : Node} {opcode : Opcode}
    {position : Position} (fetched : value.isFetched = true) :
    (do generateValue value; Generate.emit opcode position).run start =
      .ok () (start.extend (value.fetch?.toList ++ [⟨opcode, position⟩])) := by
  rw [EStateM.run_bind, run_generateValue_of_isFetched fetched]
  exact run_emit.trans (by rw [Generator.extend_extend])

theorem run_use_of_not {value : Node} {opcode : Opcode} {position : Position}
    (refused : value.isFetched = false) :
    (do generateValue value; Generate.emit opcode position).run start =
      .error ⟨.notSupported value.kind, value.position⟩ start := by
  rw [EStateM.run_bind, run_generateValue_of_not refused]

/-- A leaf that is supported only adds its code. -/
theorem run_generateStatement_of_isSupported {leaf : Node}
    (supported : leaf.isSupported = true) :
    leaf.generateStatement.run start = .ok () (start.extend leaf.lowering) := by
  cases leaf with
  | literal value position =>
      rw [generateStatement.eq_def]
      exact run_use_of_isFetched rfl
  | reference name scope position =>
      rw [generateStatement.eq_def]
      exact run_use_of_isFetched rfl
  | declaration type name initializer position =>
      cases initializer with
      | none =>
          rw [generateStatement, lowering, Generator.extend_nil]
          rfl
      | some value =>
          rw [generateStatement]
          exact run_use_of_isFetched supported
  | assignment target value position =>
      obtain ⟨isName, fetched⟩ := (Bool.and_eq_true _ _).mp supported
      cases target with
      | reference name scope place =>
          rw [generateStatement]
          exact run_use_of_isFetched fetched
      | _ => cases isName
  | _ => cases supported

/-- A leaf that is not supported is refused before any code of its own is
added. -/
theorem run_generateStatement_of_not {leaf : Node}
    (isLeaf : leaf.isList = false)
    (refused : leaf.isSupported = false) :
    leaf.generateStatement.run start =
      .error ⟨.notSupported leaf.offender.kind,
        leaf.offender.position⟩ start := by
  cases leaf with
  | literal | reference => cases refused
  | statements => cases isLeaf
  | declaration type name initializer position =>
      cases initializer with
      | none => cases refused
      | some value =>
          rw [generateStatement]
          exact run_use_of_not refused
  | assignment target value position =>
      cases target with
      | reference name scope place =>
          rw [generateStatement]
          exact run_use_of_not refused
      | _ => rfl
  | _ => rfl

theorem generateStatements_append (first second : List Node) :
    generateStatements (first ++ second) =
      (do generateStatements first; generateStatements second) := by
  induction first with
  | nil => rw [List.nil_append, generateStatements, pure_bind]
  | cons node nodes inductionHypothesis =>
      rw [List.cons_append, generateStatements, generateStatements,
        inductionHypothesis, bind_assoc]

theorem generateStatements_singleton (node : Node) :
    generateStatements [node] = node.generateStatement := by
  rw [generateStatements, generateStatements]
  exact bind_pure_unit

mutual

/-- A tree has the code of its leaves. -/
theorem generateStatement_eq_leaves : (node : Node) →
    node.generateStatement = generateStatements node.leaves
  | statements items _ => by
      rw [generateStatement, leaves, generateStatements_eq_leavesAll items]
  | literal _ _ | reference _ _ _ | call _ _ _ _ | binary _ _ _ _ | cast _ _ _
  | conditional _ _ _ _ | loop _ _ _ | print _ _ | declaration _ _ _ _
  | function _ _ _ _ _ | assignment _ _ _ => by
      rw [leaves.eq_def, generateStatements_singleton]

theorem generateStatements_eq_leavesAll : (nodes : List Node) →
    generateStatements nodes = generateStatements (leavesAll nodes)
  | [] => by
      rw [leavesAll]
  | node :: nodes => by
      rw [leavesAll, generateStatements_append, generateStatements,
        generateStatement_eq_leaves node, generateStatements_eq_leavesAll nodes]

end

mutual

theorem isList_of_mem_leaves :
    (node : Node) → ∀ leaf ∈ node.leaves, leaf.isList = false
  | statements items _, leaf, member => by
      rw [leaves] at member
      exact isList_of_mem_leavesAll items leaf member
  | literal _ _, _, member | reference _ _ _, _, member
  | call _ _ _ _, _, member | binary _ _ _ _, _, member | cast _ _ _, _, member
  | conditional _ _ _ _, _, member | loop _ _ _, _, member
  | print _ _, _, member | declaration _ _ _ _, _, member
  | function _ _ _ _ _, _, member | assignment _ _ _, _, member => by
      rw [leaves.eq_def] at member
      rw [List.mem_singleton.1 member]
      rfl

theorem isList_of_mem_leavesAll :
    (nodes : List Node) → ∀ leaf ∈ leavesAll nodes, leaf.isList = false
  | [], leaf, member => by
      rw [leavesAll] at member
      cases member
  | node :: nodes, leaf, member => by
      rw [leavesAll, List.mem_append] at member
      rcases member with own | others
      · exact isList_of_mem_leaves node leaf own
      · exact isList_of_mem_leavesAll nodes leaf others

end

/-- The code of the leaves before the first that is refused is added, and
nothing else. -/
theorem run_generateStatements (items : List Node)
    (areLeaves : ∀ leaf ∈ items, leaf.isList = false)
    (start : Generator) :
    (generateStatements items).run start =
      start.outcome ((items.takeWhile isSupported).flatMap lowering)
        ((items.find? (!isSupported ·)).map offender) := by
  induction items generalizing start with
  | nil =>
      rw [generateStatements]
      exact congrArg _ start.extend_nil.symm
  | cons leaf items inductionHypothesis =>
      obtain ⟨isLeaf, others⟩ := List.forall_mem_cons.1 areLeaves
      rw [generateStatements, EStateM.run_bind]
      cases supported : leaf.isSupported with
      | true =>
          rw [run_generateStatement_of_isSupported supported,
            List.takeWhile_cons_of_pos supported,
            List.find?_cons_of_neg (by simp [supported]), List.flatMap_cons]
          refine (inductionHypothesis others (start.extend leaf.lowering)).trans
            ?_
          rw [Generator.outcome_extend]
      | false =>
          rw [run_generateStatement_of_not isLeaf supported,
            List.takeWhile_cons_of_neg (by simp [supported]),
            List.find?_cons_of_pos (by simp [supported]), List.flatMap_nil,
            Option.map_some, Generator.outcome, Generator.extend_nil]

/-! ## What the code does -/

variable {Value : Type} {meaning : Literal → Value}

/-- The code of one leaf leaves the stack as it is. -/
theorem changes_lowering {leaf : Node} (supported : leaf.isSupported = true)
    (store : String → Value) :
    ∃ later, Machine.Changes meaning leaf.lowering store later := by
  have run : leaf.generateStatement.run .empty =
      .ok () (Generator.empty.extend leaf.lowering) :=
    run_generateStatement_of_isSupported supported
  obtain ⟨code, same, changes⟩ :=
    changes_of_generateStatement_ok meaning leaf run
  obtain ⟨later, _, changed⟩ := changes store
  rw [Generator.extend_injective same]
  exact ⟨later, changed⟩

theorem changes_flatMap_lowering {items : List Node}
    (supported : ∀ leaf ∈ items, leaf.isSupported = true)
    (store : String → Value) :
    ∃ later, Machine.Changes meaning (items.flatMap lowering) store later := by
  induction items generalizing store with
  | nil => exact ⟨store, Machine.changes_nil⟩
  | cons leaf items inductionHypothesis =>
      obtain ⟨own, others⟩ := List.forall_mem_cons.1 supported
      obtain ⟨between, changed⟩ := changes_lowering own store
      obtain ⟨later, changedOn⟩ := inductionHypothesis others between
      exact ⟨later, changed.append changedOn⟩

/-- Generation succeeds if and only if every leaf is supported, and otherwise it
is refused for what stands in the way of the first leaf that is not. Either way
it leaves the code of the leaves before that one behind the code that was there,
and this code keeps the stack on which it begins. -/
theorem generated_of_leaves (meaning : Literal → Value) (root : Node)
    (start : Generator) :
    ∃ code, code = (root.leaves.takeWhile isSupported).flatMap lowering ∧
      last (root.generateStatement.run start) = start.extend code ∧
      (∀ store, ∃ later, Machine.Changes meaning code store later) ∧
      (succeeded (root.generateStatement.run start) = true ↔
        ∀ leaf ∈ root.leaves, leaf.isSupported = true) ∧
      ∀ leaf, root.leaves.find? (!isSupported ·) = some leaf →
        root.generateStatement.run start =
          .error ⟨.notSupported leaf.offender.kind, leaf.offender.position⟩
            (start.extend code) := by
  have run :=
    run_generateStatements root.leaves (isList_of_mem_leaves root) start
  rw [← generateStatement_eq_leaves] at run
  rw [run]
  refine ⟨_, rfl, ?_, ?_, ?_, ?_⟩
  · exact Generator.last_outcome
  · exact changes_flatMap_lowering fun leaf => List.mem_takeWhile_imp
  · rw [Generator.succeeded_outcome, Option.map_eq_none_iff, List.find?_eq_none]
    simp
  · intro leaf found
    rw [found]
    rfl

/-- In the list inside the list a variable is printed between two
assignments. -/
def printsBetween : Node :=
  let place : Position := ⟨"f.code", 1, 1⟩
  .statements
    [.declaration .integer "b" (some (.literal (.integer "1") place)) place,
      .statements
        [.assignment (.reference "a" 0 place) (.reference "b" 0 place) place,
          .print (.reference "a" 0 place) ⟨"f.code", 2, 5⟩,
          .assignment (.reference "b" 0 place) (.reference "a" 0 place)
            place] place] place

theorem generated_of_leaves_printsBetween :
    printsBetween.leaves.find? (!isSupported ·) =
        some (.print (.reference "a" 0 ⟨"f.code", 1, 1⟩) ⟨"f.code", 2, 5⟩) ∧
      ∃ code, code.map Instruction.opcode =
          [.push (.integer "1"), .store "b", .load "b", .store "a"] ∧
        printsBetween.generateStatement.run .empty =
          .error ⟨.notSupported "Print", ⟨"f.code", 2, 5⟩⟩
            (Generator.empty.extend code) := by
  have found : printsBetween.leaves.find? (!isSupported ·) =
      some (.print (.reference "a" 0 ⟨"f.code", 1, 1⟩) ⟨"f.code", 2, 5⟩) := rfl
  obtain ⟨code, same, _, _, _, refused⟩ :=
    generated_of_leaves id printsBetween .empty
  exact ⟨found, code, by rw [same]; rfl, refused _ found⟩

end Node

end Minilang
