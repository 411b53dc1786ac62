import Minilang.DataType
import Minilang.Text.Quoted

/-!
# Literals

A literal keeps its text: the digits of a number as they are written, the
contents of a string as they are meant.
-/

namespace Minilang

/-- A number or a string written down in a program. -/
inductive Literal where
  | integer (digits : String)
  | float (digits : String)
  | string (contents : String)
deriving DecidableEq, Repr

namespace Literal

def kind : Literal → String
  | integer _ => "IntegerLiteral"
  | float _ => "FloatLiteral"
  | string _ => "StringLiteral"

def text : Literal → String
  | integer digits | float digits => digits
  | string contents => contents

def dataType : Literal → DataType
  | integer _ => .integer
  | float _ => .float
  | string _ => .string

/-- The literal as it is shown: digits as they stand, a string in quotes. -/
def render : Literal → String
  | integer digits | float digits => digits
  | string contents => Text.quoted contents

end Literal

end Minilang
