import Minilang.Cursor.Basic
import Minilang.Diagnostic.Basic
import Minilang.Literal

/-!
# Lexemes that may be malformed

A scan moves a cursor, and may end with a diagnostic. The cursor it leaves then
counts as well: an unclosed string uses up the source, all else is left where it
was found.
-/

namespace Minilang

/-- A step that moves a cursor and may reject the text ahead of it. -/
abbrev Scan := EStateM Diagnostic Cursor

namespace Scan

/-- Moves over the text, which must come next. -/
def expect (text : String) : Scan Unit := fun cursor =>
  match cursor.accept? text with
  | some behind => .ok () behind
  | none =>
      .error ⟨.unexpectedToken ("`" ++ text ++ "`") cursor.describe,
        cursor.position⟩ cursor

/-- Moves over a numeral, if there is one. After its point there must be a
digit. -/
def number : Scan (Option Literal) := fun cursor =>
  match Lexeme.numeral? cursor.rest with
  | none => .ok none cursor
  | some digits =>
      if digits.toList.getLast? = some '.' then
        .error ⟨.malformedNumber digits, cursor.position⟩ cursor
      else
        let value := if '.' ∈ digits.toList then Literal.float digits
        else Literal.integer digits
        .ok (some value) (cursor.advance digits.length)

/-- Moves over a string, if there is one, and yields its contents. It must be
closed. -/
def string : Scan (Option String) := fun cursor =>
  match cursor.rest with
  | '"' :: body =>
      match Lexeme.stringBody? body with
      | some (contents, length) =>
          .ok (some (String.ofList contents)) (cursor.advance (length + 1))
      | none =>
          .error ⟨.unterminatedString, cursor.position⟩
            (cursor.drop cursor.rest.length)
  | _ => .ok none cursor

end Scan

end Minilang
