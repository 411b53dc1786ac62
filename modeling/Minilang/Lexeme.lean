import Minilang.DataType
import Minilang.Text.Blank

/-!
# Lexemes

The smallest pieces of a program, each recognised at the head of a list of
characters: trivia (blanks and comments), words, numerals and the bodies of
strings. The main statements bound each piece by the text it is taken from:
`triviaLength_le` and `stringBody?_length_le`.
-/

namespace Minilang.Lexeme

/-- Whether the character may stand inside a word: a letter, a digit or an
underscore. -/
def isWordChar (c : Char) : Bool :=
  c.isAlpha || c.isDigit || c == '_'

/-- The longest word at the head of the text. A word begins with a letter. -/
def word? : List Char → Option String
  | [] => none
  | c :: rest =>
      if c.isAlpha then some (String.ofList (c :: rest.takeWhile isWordChar))
      else none

def statementWords : List String :=
  ["if", "else", "while", "print", "set"]

/-- Whether the word has a meaning of its own and names nothing in a program. -/
def isReserved (word : String) : Bool :=
  (statementWords ++ DataType.words.map Prod.fst).contains word

/-- The longest numeral at the head of the text: digits, and then perhaps a
point and the digits that follow it, of which there may be none. -/
def numeral? (text : List Char) : Option String :=
  match text.takeWhile Char.isDigit with
  | [] => none
  | digits =>
      match text.dropWhile Char.isDigit with
      | '.' :: rest =>
          some (String.ofList (digits ++ '.' :: rest.takeWhile Char.isDigit))
      | _ => some (String.ofList digits)

mutual

/-- The number of characters of trivia at the head of the text: blanks, and
comments from two slashes to the end of their line. -/
def triviaLength : List Char → Nat
  | [] => 0
  | '/' :: '/' :: rest => commentLength rest + 2
  | c :: rest => if Text.isBlank c then triviaLength rest + 1 else 0

/-- The same inside a comment, which its line ends. -/
def commentLength : List Char → Nat
  | [] => 0
  | '\n' :: rest => triviaLength rest + 1
  | _ :: rest => commentLength rest + 1

end

mutual

/-- Trivia is part of the text in which it is found. -/
theorem triviaLength_le : (text : List Char) → triviaLength text ≤ text.length
  | [] => by simp [triviaLength]
  | c :: rest => by
      rw [triviaLength.eq_def]
      split
      · simp
      · rename_i after same
        cases same
        have := commentLength_le after
        simp only [List.length_cons]
        omega
      · rename_i same
        cases same
        have := triviaLength_le rest
        split <;> simp only [List.length_cons] <;> omega

theorem commentLength_le : (text : List Char) → commentLength text ≤ text.length
  | [] => by simp [commentLength]
  | c :: rest => by
      have := triviaLength_le rest
      have := commentLength_le rest
      rw [commentLength.eq_def]
      split <;> simp_all

end

/-- What a backslash and the character behind it stand for. An unknown escape
stands for itself. -/
def unescape : Char → List Char
  | 'n' => ['\n']
  | 't' => ['\t']
  | '\\' => ['\\']
  | '"' => ['"']
  | c => ['\\', c]

/-- The contents of a string whose opening quote stands just before the text,
with the number of characters up to and including its closing quote. Nothing if
the string is not closed. -/
def stringBody? : List Char → Option (List Char × Nat)
  | [] => none
  | '"' :: _ => some ([], 1)
  | '\\' :: [] => none
  | '\\' :: c :: rest =>
      (stringBody? rest).map fun (contents, length) =>
        (unescape c ++ contents, length + 2)
  | c :: rest =>
      (stringBody? rest).map fun (contents, length) =>
        (c :: contents, length + 1)

/-- The body of a string holds its closing quote at least, and ends inside the
text. -/
theorem stringBody?_length_le {text contents : List Char} {length : Nat}
    (closed : stringBody? text = some (contents, length)) :
    0 < length ∧ length ≤ text.length := by
  fun_induction stringBody? text generalizing contents length with
  | case1 => simp at closed
  | case2 =>
      simp only [Option.some.injEq, Prod.mk.injEq] at closed
      simp only [List.length_cons]
      omega
  | case3 => simp at closed
  | case4 c rest ih =>
      obtain ⟨⟨inner, size⟩, found, same⟩ := Option.map_eq_some_iff.1 closed
      have := ih found
      simp only [Prod.mk.injEq] at same
      simp only [List.length_cons]
      omega
  | case5 c rest _ _ _ ih =>
      obtain ⟨⟨inner, size⟩, found, same⟩ := Option.map_eq_some_iff.1 closed
      have := ih found
      simp only [Prod.mk.injEq] at same
      simp only [List.length_cons]
      omega

end Minilang.Lexeme
