import Minilang.Lexeme
import Minilang.Operator
import Minilang.Position

/-!
# Cursors

A cursor stands in a source: it knows its place and the text that is left. It
moves over a number of characters at once and then over the trivia behind them,
so that it comes to rest at the beginning of a lexeme or at the end of the
source. The main statements, `length_drop` and `length_advance_le`, bound the
text that is left after a move.
-/

namespace Minilang

/-- A place in a source with the text from there on. -/
structure Cursor where
  position : Position
  rest : List Char
deriving DecidableEq, Repr

namespace Cursor

/-- The cursor behind the next characters, at most so many as are left. -/
def drop (cursor : Cursor) (count : Nat) : Cursor :=
  ⟨cursor.position.after (cursor.rest.take count), cursor.rest.drop count⟩

def skipTrivia (cursor : Cursor) : Cursor :=
  cursor.drop (Lexeme.triviaLength cursor.rest)

/-- The cursor behind the next characters and the trivia that follow them. -/
def advance (cursor : Cursor) (count : Nat) : Cursor :=
  (cursor.drop count).skipTrivia

/-- The cursor at the first lexeme of the source. Carriage returns do not count
as text. -/
def start (source file : String) : Cursor :=
  skipTrivia ⟨.start file, source.toList.filter (· != '\r')⟩

def atEnd (cursor : Cursor) : Bool :=
  cursor.rest.isEmpty

theorem length_drop (cursor : Cursor) (count : Nat) :
    (cursor.drop count).rest.length = cursor.rest.length - count :=
  List.length_drop

theorem length_advance_le (cursor : Cursor) (count : Nat) :
    (cursor.advance count).rest.length ≤ cursor.rest.length - count := by
  rw [advance, skipTrivia, length_drop, length_drop]
  omega

theorem drop_drop (cursor : Cursor) (first second : Nat) :
    (cursor.drop first).drop second = cursor.drop (first + second) := by
  simp only [drop, List.drop_drop, ← Position.after_append, ← List.take_add]

def describe (cursor : Cursor) : String :=
  match cursor.rest with
  | c :: _ => "`" ++ String.singleton c ++ "`"
  | [] => "end of input"

/-- The word at the cursor, reserved or not. -/
def word? (cursor : Cursor) : Option String :=
  Lexeme.word? cursor.rest

/-- The word at the cursor in backquotes; without a word, its next character. -/
def describeWord (cursor : Cursor) : String :=
  match cursor.word? with
  | some word => "`" ++ word ++ "`"
  | none => cursor.describe

/-- The cursor behind the text, if that is what comes next. -/
def accept? (cursor : Cursor) (text : String) : Option Cursor :=
  if text.toList.isPrefixOf cursor.rest then some (cursor.advance text.length)
  else none

/-- The cursor behind the word, if that comes next and does not run on into a
longer word. -/
def keyword? (cursor : Cursor) (word : String) : Option Cursor :=
  match (cursor.rest.drop word.length).head? with
  | none => cursor.accept? word
  | some c => if Lexeme.isWordChar c then none else cursor.accept? word

/-- The identifier at the cursor, which is a word that is not reserved, and the
cursor behind it. -/
def identifier? (cursor : Cursor) : Option (String × Cursor) :=
  match cursor.word? with
  | none => none
  | some word =>
      if Lexeme.isReserved word then none
      else some (word, cursor.advance word.length)

def type? (cursor : Cursor) : Option (DataType × Cursor) :=
  DataType.words.findSome? fun (word, type) =>
    (cursor.keyword? word).map (type, ·)

def operator? (level : Level) (cursor : Cursor) :
    Option (BinaryOperator × Cursor) :=
  level.operators.findSome? fun operator =>
    (cursor.accept? operator.symbol).map (operator, ·)

end Cursor

end Minilang
