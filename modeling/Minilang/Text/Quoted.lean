import Minilang.Text.Extending
import Minilang.Text.Ignorable
import Minilang.Text.Printable

/-!
# Quoted text

A text is shown between double quotes, with each character that could not be
told apart in print written as an escape: the common control characters, the
backslash and the double quote by a letter or by themselves after a backslash,
everything else by its code point in braces.
-/

namespace Minilang.Text

/-- The hexadecimal digits of the number, in lower case and without leading
zeros. -/
def hexDigits (n : Nat) : List Char :=
  Nat.toDigits 16 n

def codePointEscape (c : Char) : List Char :=
  ['\\', 'u', '{'] ++ hexDigits c.toNat ++ ['}']

/-- Whether the character can be seen in print and has a place of its own
there. -/
def isVisible (c : Char) : Bool :=
  isPrintable c && !isExtending c && !isIgnorable c

/-- A character as it stands between double quotes. -/
def quoteChar (c : Char) : List Char :=
  match c with
  | '\x00' => ['\\', '0']
  | '\t' => ['\\', 't']
  | '\n' => ['\\', 'n']
  | '\r' => ['\\', 'r']
  | '"' => ['\\', '"']
  | '\\' => ['\\', '\\']
  | _ => if isVisible c then [c] else codePointEscape c

def quoteChars (text : List Char) : List Char :=
  text.flatMap quoteChar

/-- The text between double quotes, on one line whatever it contains. -/
def quoted (text : String) : String :=
  String.ofList ('"' :: quoteChars text.toList ++ ['"'])

theorem toList_quoted (text : String) :
    (quoted text).toList = '"' :: quoteChars text.toList ++ ['"'] := by
  simp [quoted]

end Minilang.Text
