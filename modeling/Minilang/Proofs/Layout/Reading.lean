import Minilang.Proofs.Layout.Text
import Minilang.Proofs.Likeness.Statement
import Minilang.Proofs.Spelling.Tokens

/-!
# Layout does not matter

A source and the same source in normal layout are alike for a reading: a cursor
at a lexeme of the one goes with the cursor at the same lexeme of the other,
where the text that is left is in normal layout. So both are rejected for the
same cause, or both are programs with the same scopes and with trees that differ
in places only. This is `parse_normalize`.
-/

namespace Minilang

namespace Layout

open Lexeme

variable {text : List Char}

theorem isPlain_of_numeral? {digits : String}
    (found : numeral? text = some digits) :
    ∀ c ∈ digits.toList, IsPlain c := by
  rcases parts_of_numeral? found with
    ⟨_, all⟩ | ⟨whole, part, split, ⟨_, wholeDigits⟩, partDigits⟩
  · exact fun c member => isPlain_of_isDigit (all c member)
  · intro c member
    rw [split, List.mem_append, List.mem_cons] at member
    rcases member with digit | isPoint | digit
    · exact isPlain_of_isDigit (wholeDigits c digit)
    · subst isPoint
      exact ⟨by decide, by decide, by decide⟩
    · exact isPlain_of_isDigit (partDigits c digit)

theorem drop_normal_of_plain {lexeme : String}
    (plain : ∀ c ∈ lexeme.toList, IsPlain c)
    (ahead : lexeme.toList <+: text) :
    (normal text).drop lexeme.length = normal (text.drop lexeme.length) := by
  obtain ⟨rest, split⟩ := ahead
  rw [← split, normal_append plain, ← String.length_toList, List.drop_left,
    List.drop_left]

/-- Behind a lexeme the text is in normal layout again. -/
theorem drop_normal {count : Nat} (isAhead : IsAhead count text)
    (noTrivia : triviaLength text = 0) :
    (normal text).drop count = normal (text.drop count) := by
  cases isAhead with
  | @word word _ found =>
      have isWord := isWord_of_word? found
      have plain : ∀ c ∈ word.toList, IsPlain c := fun c member =>
        isPlain_of_isWordChar (isWord.isWordChar_of_mem member)
      exact drop_normal_of_plain plain ((word?_eq_some_iff isWord).1 found).1
  | @symbol symbol _ isSymbol ahead =>
      obtain ⟨rest, split⟩ := ahead
      rw [← split] at noTrivia ⊢
      rw [normal_symbol isSymbol noTrivia, ← String.length_toList,
        List.drop_left, List.drop_left]
  | numeral found =>
      exact drop_normal_of_plain (isPlain_of_numeral? found)
        (Token.prefix_of_numeral? found)
  | @string body contents length closed =>
      have size := (stringBody?_take closed []).1
      have within : (body.take (stringLength body)).length =
          stringLength body :=
        List.length_take_of_le (stringLength_le body)
      rw [normal_quote, size, List.drop_succ_cons, List.drop_succ_cons]
      exact List.drop_left' within

/-- The other cursor stands at the same lexeme of the source in normal
layout. -/
structure IsNormalOf (cursor other : Cursor) : Prop where
  atLexeme : triviaLength cursor.rest = 0
  rest : other.rest = normal cursor.rest

theorem isNormalOf_skipTrivia {cursor other : Cursor}
    (rest : other.rest = normal cursor.rest) :
    IsNormalOf cursor.skipTrivia other.skipTrivia := by
  refine ⟨triviaLength_drop cursor.rest, ?_⟩
  change skipTrivia other.rest = normal (skipTrivia cursor.rest)
  rw [rest, skipTrivia_normal]

/-- A source and the same in normal layout are alike. Places do not count. -/
def likeness : Likeness where
  place _ := .start ""
  horizon := 0
  Like := IsNormalOf
  position _ := rfl
  head alike := by rw [alike.rest, head?_normal alike.atLexeme]
  word alike := by rw [Cursor.word?, Cursor.word?, alike.rest, word?_normal]
  symbol alike isSymbol := by
    rw [alike.rest, prefix_normal_symbol_iff isSymbol alike.atLexeme]
  numeral alike := by rw [alike.rest, numeral?_normal]
  string {cursor other body otherBody} alike ahead otherAhead _ := by
    have rest := alike.rest
    rw [ahead, normal_quote, otherAhead] at rest
    rw [List.tail_eq_of_cons_eq rest, stringBody?_normal]
  behind {cursor other count} alike isAhead _ := by
    apply isNormalOf_skipTrivia
    change other.rest.drop count = normal (cursor.rest.drop count)
    rw [alike.rest, drop_normal isAhead alike.atLexeme]

theorem isNormalOf_start {source : String} (noReturn : '\r' ∉ source.toList)
    (file : String) :
    IsNormalOf (.start source file) (.start (normalize source) file) := by
  have unfiltered {text : List Char} (free : '\r' ∉ text) :
      text.filter (· != '\r') = text := by
    rw [List.filter_eq_self]
    intro c member
    rw [bne_iff_ne]
    intro same
    exact free (same ▸ member)
  apply isNormalOf_skipTrivia
  change (normalize source).toList.filter _ = normal (source.toList.filter _)
  rw [unfiltered noReturn, unfiltered (noReturn_normalize noReturn), normalize,
    String.toList_ofList]

end Layout

namespace Program

/-- A source and the same source in normal layout are both programs, with trees
that differ in places only and with the same scopes, or both are rejected for
the same cause. -/
theorem parse_normalize {source : String} (noReturn : '\r' ∉ source.toList)
    (file : String) :
    (∃ program other, parse source file = .ok program ∧
      parse (Layout.normalize source) file = .ok other ∧
      program.root.unplaced = other.root.unplaced ∧
      program.scopes = other.scopes) ∨
    ∃ diagnostic other, parse source file = .error (.diagnostic diagnostic) ∧
      parse (Layout.normalize source) file = .error (.diagnostic other) ∧
      diagnostic.cause = other.cause := by
  have stands : Scopes.initial.Stands 0 .empty := ⟨rfl, rfl⟩
  have alike : Layout.likeness.Alike ((Parser.start source file).left + 1)
      ((Parser.start (Layout.normalize source) file).left + 1)
        (.start source file)
      (.start (Layout.normalize source) file) :=
    ⟨Nat.lt_succ_self _, fun _ =>
      ⟨Layout.isNormalOf_start noReturn file, Nat.lt_succ_self _, rfl,
        0, .empty, stands⟩⟩
  obtain ⟨_, matched⟩ := Likeness.listsAlike_read _ _ alike
  have results := matched (Nat.zero_le _)
  rw [parse, parse]
  generalize read.run (.start source file) = result at results
  generalize read.run (.start (Layout.normalize source) file) =
    otherResult at results
  cases results with
  | ok same _ _ scopes _ => exact Or.inl ⟨_, _, rfl, rfl, same, scopes⟩
  | rejected same _ _ => exact Or.inr ⟨_, _, rfl, rfl, same.1⟩

theorem parse_normalize_comments :
    '\r' ∉ "\tint x = 7//2\n / 2 // \"\nprint\"a  // b\\\"\"== x".toList ∧
      ∃ program other,
        parse "\tint x = 7//2\n / 2 // \"\nprint\"a  // b\\\"\"== x"
          "f.code" = .ok program ∧
        parse " int x = 7 / 2 print\"a  // b\\\"\"== x" "f.code" = .ok other ∧
        program.root.unplaced = other.root.unplaced ∧
        program.scopes = other.scopes := by
  have noReturn :
      '\r' ∉ "\tint x = 7//2\n / 2 // \"\nprint\"a  // b\\\"\"== x".toList := by
    decide +kernel
  have normalized :
      Layout.normalize "\tint x = 7//2\n / 2 // \"\nprint\"a  // b\\\"\"== x" =
      " int x = 7 / 2 print\"a  // b\\\"\"== x" := by decide +kernel
  refine ⟨noReturn, ?_⟩
  rcases parse_normalize noReturn "f.code" with accepted | rejected
  · rwa [normalized] at accepted
  · obtain ⟨_, _, rejected, _⟩ := rejected
    obtain ⟨_, success⟩ := exists_eq_ok_of_isOk <|
      show (parse "\tint x = 7//2\n / 2 // \"\nprint\"a  // b\\\"\"== x"
        "f.code").isOk = true by
        decide +kernel
    cases rejected.symm.trans success

end Program

end Minilang
