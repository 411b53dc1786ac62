import Minilang.Diagnostic.Basic
import Minilang.Text.Aligned
import Minilang.Text.Blank
import Minilang.Text.Line

/-!
# Showing a diagnostic beside its source

A diagnostic is shown in five lines: its name and explanation, its file, an
empty margin, the line of the source that it points into, and a pointer under
the place. The indentation of the source line is taken away, and the pointer
moves left by as much.
-/

namespace Minilang

namespace Diagnostic

def isIndent (c : Char) : Bool :=
  c == ' ' || c == '\t'

def heading (diagnostic : Diagnostic) : String :=
  match diagnostic.cause.tip with
  | none => "Error: " ++ diagnostic.cause.name
  | some tip => "Error: " ++ diagnostic.cause.name ++ " (" ++ tip ++ ")"

def lineNumber (diagnostic : Diagnostic) : String :=
  toString diagnostic.position.line

/-- The margin of a line that has no number: as wide as the number and two
more. -/
def margin (diagnostic : Diagnostic) : String :=
  Text.alignRight (diagnostic.lineNumber.length + 2) ' ' "|"

/-- The line of the source that the diagnostic points into; empty if there is no
such line. -/
def sourceLine (diagnostic : Diagnostic) (source : String) : String :=
  (Text.line? source diagnostic.position.line).getD ""

/-- The pointer ends under the column of the diagnostic in a line of which so
many characters were taken away, and never further left than the first place. -/
def pointerWidth (diagnostic : Diagnostic) (removed : Nat) : Nat :=
  max 1 (diagnostic.position.column - removed)

def pointer (diagnostic : Diagnostic) (removed : Nat) : String :=
  Text.alignRight (diagnostic.pointerWidth removed) '-' "^"

/-- Whether the pointer can be printed below the line of the source. -/
def fits (diagnostic : Diagnostic) (source : String) : Bool :=
  let indentation := (diagnostic.sourceLine source).toList.takeWhile isIndent
  diagnostic.pointerWidth indentation.length ≤ Text.widest

/-- The lines that show the diagnostic. -/
def display (diagnostic : Diagnostic) (source : String) : List String :=
  let line := (diagnostic.sourceLine source).toList
  let indentation := line.takeWhile isIndent
  let shown := Text.dropEndWhile Text.isBlank (line.dropWhile isIndent)
  [ diagnostic.heading,
    "-> " ++ diagnostic.position.file,
    diagnostic.margin,
    diagnostic.lineNumber ++ " | " ++ String.ofList shown,
    diagnostic.margin ++ " " ++ diagnostic.pointer indentation.length ]

end Diagnostic

end Minilang
