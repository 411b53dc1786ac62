import Minilang.Grammar.Statement

namespace Minilang

/-- A program: its tree, and the scopes to which the tree refers. -/
structure Program where
  root : Node
  scopes : Scopes

/-- The state in which the reading of a source begins: at its first lexeme, with
the outermost scope open. -/
def Parser.start (source file : String) : Parser :=
  ⟨.start source file, .initial⟩

namespace Program

def read : Parse Node := do
  let root ← Grammar.statementList
  if ← Parse.ask Cursor.atEnd then
    return root
  else
    Parse.fail (.unexpectedToken "end of input" (← Parse.ask Cursor.describe))
      (← Parse.position)

/-- The program written in the source. The file gives the name under which
places refer to it. -/
def parse (source file : String) : Except Failure Program :=
  match read.run (.start source file) with
  | .ok root parser => .ok ⟨root, parser.scopes⟩
  | .error failure _ => .error failure

end Program

end Minilang
