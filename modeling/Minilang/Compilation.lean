import Minilang.Program
import Minilang.Typing

namespace Minilang

namespace Program

/-- Checks the tree of the program, and puts the checked tree in its place. -/
def check (program : Program) : Check Program := do
  let (root, _) ← program.root.check program.scopes
  return { program with root }

/-- Reads the source and checks the program in it. -/
def compile (source file : String) : Check Program := do
  match parse source file with
  | .ok program => program.check
  | .error failure => throw failure

end Program

end Minilang
