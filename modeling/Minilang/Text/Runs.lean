/-!
# Sets of characters as runs of code points

A large set of characters is written down as the list of its runs of
neighbouring code points. The main statement, `Runs.contains_iff`, says that a
character belongs to the set exactly when its code point lies between the ends
of one of the runs.
-/

namespace Minilang.Text

/-- A set of characters, given by its runs: the first and the last code point of
each. -/
abbrev Runs := List (Nat × Nat)

/-- Whether the code point of the character lies in one of the runs, ends
included. -/
def Runs.contains (runs : Runs) (c : Char) : Bool :=
  runs.any fun run => run.1 ≤ c.toNat && c.toNat ≤ run.2

theorem Runs.contains_iff {runs : Runs} {c : Char} :
    runs.contains c = true ↔ ∃ run ∈ runs, run.1 ≤ c.toNat ∧
      c.toNat ≤ run.2 := by
  simp [Runs.contains]

end Minilang.Text
