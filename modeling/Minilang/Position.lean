/-!
# Positions in a source

A position names a file, a line and a column. Lines and columns count from one,
columns in characters, and the position after a text is found by stepping over
its characters one by one.

The counts are natural numbers. A machine has 32 bits for each, and they are
enough for every source that is not too long: `Registers.keeps_bumps` says it of
the cursor and `Program.never_faults` of every place in a tree or in a
diagnostic.
-/

namespace Minilang

/-- A place in a source. -/
structure Position where
  file : String
  line : Nat
  column : Nat
deriving DecidableEq, Repr

namespace Position

def start (file : String) : Position :=
  ⟨file, 1, 1⟩

/-- The place behind the character: a newline leads to the next line, any other
character to the next column. -/
def next (position : Position) (c : Char) : Position :=
  if c = '\n' then { position with line := position.line + 1, column := 1 }
  else { position with column := position.column + 1 }

def after (position : Position) (text : List Char) : Position :=
  text.foldl next position

@[simp]
theorem after_nil (position : Position) : position.after [] = position :=
  rfl

@[simp]
theorem after_cons (position : Position) (c : Char) (text : List Char) :
    position.after (c :: text) = (position.next c).after text :=
  rfl

/-- Two texts may be counted one after the other. -/
theorem after_append (position : Position) (first second : List Char) :
    position.after (first ++ second) = (position.after first).after second := by
  simp [after]

/-- The place as it is written: file, line and column. -/
def render (position : Position) : String :=
  position.file ++ ":" ++ toString position.line ++ ":" ++
    toString position.column

end Position

end Minilang
