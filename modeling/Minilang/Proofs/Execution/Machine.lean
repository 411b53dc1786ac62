import Mathlib.Logic.Function.Basic
import Minilang.Code.Instruction

/-!
# The machine that runs the code

The machine has a stack of values and a store that gives a value to each name.
What a value is, and which value a literal means, is left open. A stretch of
code changes the store without touching the stack on which it begins if it only
takes off what it has put there itself: `Changes` says so, and `Changes.append`
that it holds of stretches one after the other.
-/

namespace Minilang

/-- A state of the machine: the stack with its top first, and the values of the
variables. -/
structure Machine (Value : Type) where
  stack : List Value
  store : String → Value

namespace Machine

variable {Value : Type} (meaning : Literal → Value)

/-- The machine after an instruction. There is none if a value is to be taken
off an empty stack. -/
def step? (machine : Machine Value) : Opcode → Option (Machine Value)
  | .push value => some { machine with stack := meaning value :: machine.stack }
  | .load name =>
      some { machine with stack := machine.store name :: machine.stack }
  | .pop =>
      match machine.stack with
      | [] => none
      | _ :: below => some { machine with stack := below }
  | .store name =>
      match machine.stack with
      | [] => none
      | value :: below => some ⟨below, Function.update machine.store name value⟩

def run? (machine : Machine Value)
    (code : List Instruction) : Option (Machine Value) :=
  code.foldlM (fun machine instruction =>
    machine.step? meaning instruction.opcode) machine

variable {machine : Machine Value} {code first second : List Instruction}
  {store between later : String → Value}

theorem run?_cons (instruction : Instruction) :
    machine.run? meaning (instruction :: code) =
      (machine.step? meaning instruction.opcode).bind (·.run? meaning code) :=
  rfl

theorem run?_append :
    machine.run? meaning (first ++ second) =
      (machine.run? meaning first).bind (·.run? meaning second) :=
  List.foldlM_append

/-- On every stack the code runs to its end, and there the stack is the same and
the store is the later one. At each point on the way the stack with which the
run began still lies at the bottom, so that nothing is taken off it. -/
structure Changes (code : List Instruction)
    (store later : String → Value) : Prop where
  ends : ∀ stack, run? meaning ⟨stack, store⟩ code = some ⟨stack, later⟩
  keeps : ∀ stack before, before <+: code →
    ∃ above between, run? meaning ⟨stack, store⟩ before =
      some ⟨above ++ stack, between⟩

variable {meaning}

theorem changes_nil : Changes meaning [] store store where
  ends _ := rfl
  keeps stack before ahead := by
    rw [List.prefix_nil.1 ahead]
    exact ⟨[], store, rfl⟩

/-- The second stretch begins on the stack on which the first one began. -/
theorem Changes.append (one : Changes meaning first store between)
    (other : Changes meaning second between later) :
    Changes meaning (first ++ second) store later where
  ends stack := by rw [run?_append, one.ends, Option.bind_some, other.ends]
  keeps stack before ahead := by
    rcases List.prefix_or_prefix_of_prefix ahead
      (List.prefix_append first second) with
      within | beyond
    · exact one.keeps stack before within
    · obtain ⟨more, rfl⟩ := beyond
      rw [run?_append, one.ends, Option.bind_some]
      exact other.keeps stack more
        ((List.prefix_append_right_inj first).1 ahead)

/-- An instruction that puts a value on the stack and one that takes it off
again. -/
theorem changes_pair {fetch use : Instruction} {value : Value}
    (puts : ∀ stack, step? meaning ⟨stack, store⟩ fetch.opcode =
      some ⟨value :: stack, store⟩)
    (takes : ∀ stack, step? meaning ⟨value :: stack, store⟩ use.opcode =
      some ⟨stack, later⟩) :
    Changes meaning [fetch, use] store later := by
  have half : ∀ stack, run? meaning ⟨stack, store⟩ [fetch] =
      some ⟨[value] ++ stack, store⟩ := by
    intro stack
    rw [run?_cons, puts]
    rfl
  have whole : ∀ stack, run? meaning ⟨stack, store⟩ [fetch, use] =
      some ⟨stack, later⟩ := by
    intro stack
    rw [run?_cons, puts, Option.bind_some, run?_cons, takes]
    rfl
  refine ⟨whole, fun stack before ahead => ?_⟩
  rcases List.prefix_cons_iff.1 ahead with rfl | ⟨rest, rfl, more⟩
  · exact ⟨[], store, rfl⟩
  · rcases List.prefix_cons_iff.1 more with rfl | ⟨others, rfl, last⟩
    · exact ⟨[value], store, half stack⟩
    · rw [List.prefix_nil.1 last]
      exact ⟨[], later, whole stack⟩

end Machine

end Minilang
