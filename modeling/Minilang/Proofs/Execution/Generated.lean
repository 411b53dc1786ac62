import Minilang.Code.Generator
import Minilang.Proofs.Execution.Machine
import Minilang.Proofs.Steps

/-!
# Generated code does what the tree says

A tree for which there is code can also be executed as it stands: its statements
in their order, each with its effect on the values of the variables. The code
has the same effect. Whatever lies on the stack when it begins stays there
untouched, and nothing else is on the stack when it ends:
`Node.runs_of_generate`.
-/

namespace Minilang

open Steps

namespace Node

variable {Value : Type} (meaning : Literal → Value)

/-- The value of a literal or of a name. There is no rule here for the value of
anything else. -/
def value? (store : String → Value) : Node → Option Value
  | literal value _ => some (meaning value)
  | reference name _ _ => some (store name)
  | _ => none

mutual

/-- The store after the construct has been executed. A declaration with a first
value and an assignment to a name give the value to the name. A declaration
alone changes nothing, and neither does an expression, whose value is dropped.
There is no rule here for other constructs. -/
def execute? : Node → (String → Value) → Option (String → Value)
  | statements items _, store => executeAll? items store
  | declaration _ _ none _, store => some store
  | declaration _ name (some value) _, store =>
      (value.value? meaning store).map (Function.update store name)
  | assignment (reference name _ _) value _, store =>
      (value.value? meaning store).map (Function.update store name)
  | node, store => (node.value? meaning store).map fun _ => store

def executeAll? : List Node → (String → Value) → Option (String → Value)
  | [], store => some store
  | node :: nodes, store => (execute? node store).bind (executeAll? nodes)

end

end Node

namespace Generator

def extend (generator : Generator) (code : List Instruction) : Generator :=
  { generator with code := generator.code ++ code.toArray }

theorem extend_nil (generator : Generator) :
    generator.extend [] = generator := by
  simp [extend]

theorem extend_extend (generator : Generator)
    (first second : List Instruction) :
    (generator.extend first).extend second = generator.extend
      (first ++ second) := by
  simp [extend]

end Generator

namespace Node

variable {Value : Type} (meaning : Literal → Value) {start stop : Generator}

theorem emit_ok {opcode : Opcode} {position : Position} :
    (Generate.emit opcode position).run start = .ok () stop ↔
      stop = start.extend [⟨opcode, position⟩] := by
  have run : (Generate.emit opcode position).run start =
      .ok () (start.extend [⟨opcode, position⟩]) := by
    simp only [Generator.extend, ← Array.push_eq_append]
    rfl
  rw [run, EStateM.Result.ok.injEq]
  exact ⟨fun same => same.2.symm, fun same => ⟨rfl, same.symm⟩⟩

/-- What is generated for a value is one instruction, which puts it on the
stack. -/
theorem fetches_of_generateValue_ok {node : Node}
    (success : node.generateValue.run start = .ok () stop) :
    ∃ fetch, stop = start.extend [fetch] ∧
      ∀ store, ∃ value, node.value? meaning store = some value ∧
        ∀ stack, Machine.step? meaning ⟨stack, store⟩ fetch.opcode =
          some ⟨value :: stack, store⟩ := by
  cases node with
  | literal value position =>
      exact ⟨_, emit_ok.1 success, fun _ => ⟨meaning value, rfl, fun _ => rfl⟩⟩
  | reference name scope position =>
      exact ⟨_, emit_ok.1 success, fun store => ⟨store name, rfl, fun _ => rfl⟩⟩
  | _ => cases success

/-- The value is used up by the instruction behind the one that puts it on the
stack. -/
theorem changes_of_generateValue_ok {node : Node} {opcode : Opcode}
    {position : Position} (change : (String → Value) → Value → String → Value)
    (takes : ∀ store value stack,
      Machine.step? meaning ⟨value :: stack, store⟩ opcode =
        some ⟨stack, change store value⟩)
    (success : (do generateValue node; Generate.emit opcode position).run
      start = .ok () stop) :
    ∃ code, stop = start.extend code ∧
      ∀ store, ∃ later,
        (node.value? meaning store).map (change store) = some later ∧
        Machine.Changes meaning code store later := by
  obtain ⟨_, middle, first, last⟩ := bind_ok.1 success
  obtain ⟨fetch, rfl, fetches⟩ := fetches_of_generateValue_ok meaning first
  refine ⟨[fetch, ⟨opcode, position⟩], ?_, fun store => ?_⟩
  · rw [emit_ok.1 last, Generator.extend_extend]
    rfl
  · obtain ⟨value, known, puts⟩ := fetches store
    exact ⟨_,
      by rw [known, Option.map_some],
        Machine.changes_pair puts (takes store value)⟩

mutual

/-- The code for a statement changes the store as the statement does. -/
theorem changes_of_generateStatement_ok :
    (node : Node) → {start stop : Generator} →
    node.generateStatement.run start = .ok () stop →
    ∃ code, stop = start.extend code ∧
      ∀ store, ∃ later, node.execute? meaning store = some later ∧
        Machine.Changes meaning code store later
  | statements items _, _, _, success => by
      rw [generateStatement] at success
      obtain ⟨code, added, changes⟩ :=
        changes_of_generateStatements_ok items success
      refine ⟨code, added, fun store => ?_⟩
      rw [execute?]
      exact changes store
  | declaration _ _ none _, start, _, success => by
      rw [generateStatement] at success
      cases success
      refine ⟨[], start.extend_nil.symm, fun store =>
        ⟨store, ?_, Machine.changes_nil⟩⟩
      rw [execute?]
  | declaration _ name (some value) _, _, _, success => by
      rw [generateStatement] at success
      obtain ⟨code, added, changes⟩ :=
        changes_of_generateValue_ok meaning (fun store value => Function.update
        store name value) (fun _ _ _ => rfl) success
      refine ⟨code, added, fun store => ?_⟩
      rw [execute?]
      exact changes store
  | assignment target value _, _, _, success => by
      cases target with
      | reference name =>
          rw [generateStatement] at success
          obtain ⟨code, added, changes⟩ :=
            changes_of_generateValue_ok meaning
            (fun store value => Function.update store name value)
            (fun _ _ _ => rfl) success
          refine ⟨code, added, fun store => ?_⟩
          rw [execute?]
          exact changes store
      | _ => cases success
  | literal _ _, _, _, success | reference _ _ _, _, _, success => by
      rw [generateStatement] at success
      · obtain ⟨code, added, changes⟩ :=
          changes_of_generateValue_ok meaning (fun store _ => store)
            (fun _ _ _ => rfl) success
        refine ⟨code, added, fun store => ?_⟩
        rw [execute?]
        · exact changes store
        all_goals simp
      all_goals simp
  | call _ _ _ _, _, _, success | binary _ _ _ _, _, _, success
  | cast _ _ _, _, _, success | conditional _ _ _ _, _, _, success
  | loop _ _ _, _, _, success | print _ _, _, _, success
  | function _ _ _ _ _, _, _, success => by
      cases success

theorem changes_of_generateStatements_ok :
    (nodes : List Node) → {start stop : Generator} →
    (generateStatements nodes).run start = .ok () stop →
    ∃ code, stop = start.extend code ∧
      ∀ store, ∃ later, executeAll? meaning nodes store = some later ∧
        Machine.Changes meaning code store later
  | [], start, _, success => by
      rw [generateStatements] at success
      cases success
      refine ⟨[], start.extend_nil.symm, fun store =>
        ⟨store, ?_, Machine.changes_nil⟩⟩
      rw [executeAll?]
  | node :: nodes, _, _, success => by
      rw [generateStatements] at success
      obtain ⟨_, middle, first, others⟩ := bind_ok.1 success
      obtain ⟨code, rfl, changes⟩ := changes_of_generateStatement_ok node first
      obtain ⟨more, added, further⟩ :=
        changes_of_generateStatements_ok nodes others
      refine ⟨code ++ more,
        by rw [added, Generator.extend_extend], fun store => ?_⟩
      obtain ⟨between, executed, changed⟩ := changes store
      obtain ⟨later, rest, changedOn⟩ := further between
      refine ⟨later, ?_, changed.append changedOn⟩
      rw [executeAll?, executed, Option.bind_some, rest]

end

/-- Code that is generated for a tree runs to its end from any stack and any
store. At each point on the way the stack with which it began lies untouched at
the bottom, and at the end there is nothing above it. The store is then the one
in which the execution of the tree ends. -/
theorem runs_of_generate {root : Node} {code : Array Instruction}
    (generated : root.generate = .ok code) (stack : List Value)
    (store : String → Value) :
    (∀ before, before <+: code.toList → ∃ above between,
      Machine.run? meaning ⟨stack, store⟩ before =
        some ⟨above ++ stack, between⟩) ∧
    ∃ final, root.execute? meaning store = some final ∧
      Machine.run? meaning ⟨stack, store⟩ code.toList =
        some ⟨stack, final⟩ := by
  rw [generate] at generated
  cases result : root.generateStatement.run .empty with
  | error _ _ =>
      rw [result] at generated
      cases generated
  | ok _ generator =>
      rw [result] at generated
      cases generated
      obtain ⟨added, rfl, changes⟩ :=
        changes_of_generateStatement_ok meaning root result
      obtain ⟨final, executed, changed⟩ := changes store
      have whole : (Generator.empty.extend added).code.toList = added := by
        simp [Generator.empty, Generator.extend]
      rw [whole]
      exact ⟨changed.keeps stack, final, executed, changed.ends stack⟩

/-- Two variables exchange their values over a third one. The last statements
stand in a list of their own, and the value of an expression among them is
dropped. -/
def exchange : Node :=
  let place : Position := ⟨"f.code", 1, 1⟩
  .statements
    [.declaration .integer "d" none place,
      .declaration .integer "c" (some (.reference "a" 0 place)) place,
      .statements
        [.assignment (.reference "a" 0 place) (.reference "b" 0 place) place,
          .literal (.string "x") place,
          .assignment (.reference "b" 0 place) (.reference "c" 0 place)
            place] place] place

theorem runs_of_generate_exchange :
    ∃ code store, exchange.generate = .ok code ∧ store "a" = .integer "1" ∧
      store "b" = .integer "2" ∧
      (∀ before, before <+: code.toList → ∃ above between,
        Machine.run? id ⟨[.float "0.5"], store⟩ before =
          some ⟨above ++ [.float "0.5"], between⟩) ∧
      ∃ final, exchange.execute? id store = some final ∧
        Machine.run? id ⟨[.float "0.5"], store⟩ code.toList =
          some ⟨[.float "0.5"], final⟩ ∧
        final "a" = .integer "2" ∧ final "b" = .integer "1" := by
  let store : String → Literal :=
    fun name => .integer (if name = "a" then "1" else "2")
  obtain ⟨code, generated⟩ := exists_eq_ok_of_isOk <|
    show exchange.generate.isOk = true by decide +kernel
  obtain ⟨keeps, final, executed, ends⟩ :=
    runs_of_generate id generated [.float "0.5"] store
  have outcome :
      (exchange.execute? id store).map (fun last => (last "a", last "b")) =
      some (.integer "2", .integer "1") := by decide +kernel
  rw [executed, Option.map_some, Option.some.injEq, Prod.mk.injEq] at outcome
  exact ⟨code, store, generated, rfl, rfl, keeps, final, executed,
    ends, outcome⟩

end Node

end Minilang
