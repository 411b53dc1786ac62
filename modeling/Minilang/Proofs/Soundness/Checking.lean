import Minilang.Compilation
import Minilang.Proofs.Typing.Failing

/-!
# Checks that never come to a fault

A check asks the scopes only about the numbers that stand in the tree. Where
these are numbers of scopes, it succeeds or ends with a diagnostic:
`Node.neverFaults_check`. In a program that was read they are:
`Program.exists_of_parse`.
-/

namespace Minilang

namespace Check

open Steps

variable {α β : Type}

/-- The check does not come to a fault. -/
def NeverFaults (step : Check α) : Prop :=
  ∀ warnings fault later, step.run warnings ≠ .error (.fault fault) later

theorem neverFaults_iff {step : Check α} :
    NeverFaults step ↔ FailsOnly (∀ fault, · ≠ .fault fault) step := by
  constructor
  · intro never warnings failure later failed fault same
    exact never warnings fault later (same ▸ failed)
  · intro fails warnings fault later failed
    exact fails warnings _ later failed fault rfl

theorem neverFaults_pure (value : α) : NeverFaults (pure value) :=
  neverFaults_iff.2 (failsOnly_pure value)

theorem NeverFaults.bind {step : Check α} {next : α → Check β}
    (first : NeverFaults step)
    (rest : ∀ value, NeverFaults (next value)) : NeverFaults (step >>= next) :=
  neverFaults_iff.2 <| (neverFaults_iff.1 first).bind fun value =>
    neverFaults_iff.1 (rest value)

end Check

namespace Node

open Check

variable {scopes : Scopes}

/-- The numbers of scopes that the tree carries are numbers of scopes that there
are. -/
def ScopesExist (scopes : Scopes) (whole : Node) : Prop :=
  whole.Throughout fun part => ∀ name scope, part.Mentions name scope →
    scope < scopes.all.size

/-- The check of a tree does not come to a fault if the scopes exist whose
numbers it carries. -/
theorem neverFaults_check (node : Node) (exist : node.ScopesExist scopes) :
    NeverFaults (node.check scopes) := by
  have accounts :
      node.Throughout (Accounts (∀ fault, · ≠ .fault fault) scopes) := by
    intro part within
    refine ⟨fun _ _ => nofun, fun name scope fault mentions failed => ?_⟩
    have lt := exist part within name scope mentions
    cases (Scopes.get_ok.2 (Array.getElem?_eq_getElem lt)).symm.trans failed
  exact neverFaults_iff.2 (failsOnly_check node accounts)

end Node

namespace Program

variable {source file : String} {program : Program}

/-- Each name and each call in a program carries the number of a scope of the
program. -/
theorem exists_of_parse (success : parse source file = .ok program) :
    program.root.ScopesExist program.scopes := by
  intro part within name scope mentions
  obtain ⟨mention, member, same⟩ :=
    Node.exists_mention_of_partOf within mentions
  obtain ⟨⟨_, carried⟩, _⟩ := Node.partOf_of_mem_mentions member
  rw [same] at carried
  obtain ⟨_, rfl⟩ := carried.unique mentions
  obtain ⟨symbol, _⟩ :=
    Node.lookup_of_mention (fits_of_parse success).leads member
  obtain ⟨found, get, _⟩ := Scopes.symbol?_ok.1 symbol
  exact (Array.getElem?_eq_some_iff.1 get).1

end Program

end Minilang
