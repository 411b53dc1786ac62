import Minilang.Proofs.Writing.Token

/-!
# Strings in pieces

The text inside a string is cut into pieces, each a character or a backslash
with the character behind it, and a quote closes the string when it is a piece
by itself. `string_pieces` says what is read of a string by its pieces, and that
a text is read back when it is written with escapes.
-/

namespace Minilang

/-- A piece of the text inside a string. -/
inductive Piece where
  /-- A backslash with the character behind it. -/
  | escape (c : Char)
  | plain (c : Char)
deriving DecidableEq, Repr

namespace Piece

/-- The text cut into pieces. A backslash that ends the text is a piece by
itself. -/
def cut : List Char → List Piece
  | [] => []
  | '\\' :: c :: rest => escape c :: cut rest
  | c :: rest => plain c :: cut rest

def chars : Piece → List Char
  | escape c => ['\\', c]
  | plain c => [c]

/-- The characters that stand behind a backslash for another one. -/
def escapes : List (Char × Char) :=
  [('n', '\n'), ('t', '\t'), ('\\', '\\'), ('"', '"')]

/-- The characters for which the piece stands: those of the piece itself, but
for the escapes that have a meaning. -/
def decoded : Piece → List Char
  | escape c => (escapes.lookup c).elim ['\\', c] ([·])
  | plain c => [c]

theorem flatMap_chars_cut (text : List Char) :
    (cut text).flatMap chars = text := by
  fun_induction cut text with
  | case1 => rfl
  | case2 c rest inductionHypothesis =>
      rw [List.flatMap_cons, inductionHypothesis]; rfl
  | case3 c rest _ inductionHypothesis =>
      rw [List.flatMap_cons, inductionHypothesis]; rfl

theorem decoded_escape (c : Char) : (escape c).decoded = Lexeme.unescape c := by
  unfold Lexeme.unescape
  split
  · rfl
  · rfl
  · rfl
  · rfl
  · rename_i noLine noTab noSlash noQuote
    have absent : escapes.lookup c = none := by
      rw [List.lookup_eq_none_iff]
      simpa [escapes] using And.intro noLine ⟨noTab, noSlash, noQuote⟩
    rw [decoded, absent, Option.elim_none]

/-- What the pieces before the first quote by itself stand for, with the number
of characters up to and including that quote. Nothing if no quote is a piece by
itself. -/
def contents? (pieces : List Piece) : Option (List Char × Nat) :=
  if plain '"' ∈ pieces then
    let inside := pieces.takeWhile (· ≠ plain '"')
    some (inside.flatMap decoded, (inside.flatMap chars).length + 1)
  else none

theorem contents?_cons {piece : Piece} (other : piece ≠ plain '"')
    (pieces : List Piece) :
    contents? (piece :: pieces) = (contents? pieces).map
      fun (contents, length) =>
      (piece.decoded ++ contents, length + piece.chars.length) := by
  have goesOn : plain '"' ∈ piece :: pieces ↔ plain '"' ∈ pieces := by
    simp [other.symm]
  rw [contents?, contents?]
  by_cases closed : plain '"' ∈ pieces
  · rw [if_pos closed, if_pos (goesOn.2 closed),
      List.takeWhile_cons_of_pos (by simpa using other)]
    simp only [List.flatMap_cons, List.length_append, Option.map_some,
      Option.some.injEq, Prod.mk.injEq, true_and]
    omega
  · rw [if_neg closed, if_neg (mt goesOn.1 closed)]
    rfl

/-- What stands behind the closing quote does not matter. -/
theorem contents?_of_closed {before : List Piece} (first : plain '"' ∉ before)
    (behind : List Piece) :
    contents? (before ++ plain '"' :: behind) =
      some (before.flatMap decoded, (before.flatMap chars).length + 1) := by
  have inside : (before ++ plain '"' :: behind).takeWhile
      (· ≠ plain '"') = before := by
    rw [List.takeWhile_append_of_pos, List.takeWhile_cons_of_neg (by simp),
      List.append_nil]
    intro piece member
    exact decide_eq_true (ne_of_mem_of_not_mem member first)
  rw [contents?, if_pos (by simp), inside]

end Piece

namespace Lexeme

open Piece

/-- A string is read as far as its pieces go. -/
theorem stringBody?_eq (text : List Char) :
    stringBody? text = contents? (cut text) := by
  fun_induction stringBody? text with
  | case1 => rfl
  | case2 rest =>
      have isPiece : cut ('"' :: rest) = [] ++ plain '"' :: cut rest := rfl
      rw [isPiece, contents?_of_closed List.not_mem_nil]
      rfl
  | case3 => rfl
  | case4 c rest inductionHypothesis =>
      have other : escape c ≠ plain '"' := by simp
      rw [inductionHypothesis, cut, contents?_cons other, decoded_escape]
      rfl
  | case5 c rest noQuote noEnd noEscape inductionHypothesis =>
      have isPiece : cut (c :: rest) = plain c :: cut rest := by
        rw [cut]
        exact noEscape
      rw [inductionHypothesis, isPiece, contents?_cons (by simpa using noQuote)]
      rfl

/-- A quote behind a backslash closes nothing. -/
theorem stringBody?_eq_none_iff {text : List Char} :
    stringBody? text = none ↔ plain '"' ∉ cut text := by
  rw [stringBody?_eq, contents?]
  by_cases closed : plain '"' ∈ cut text
  · simp [closed]
  · simp [closed]

end Lexeme

namespace Cursor

open Piece

variable {cursor : Cursor}

/-- Behind a string the cursor skips the trivia. -/
theorem run_string_of_body {inside contents following : List Char}
    (ahead : cursor.rest = '"' :: inside ++ '"' :: following)
    (found : Lexeme.stringBody? (inside ++ '"' :: following) =
      some (contents, inside.length + 1)) :
    Scan.string.run cursor =
      .ok (some (String.ofList contents))
        (skipTrivia ⟨cursor.position.after ('"' :: (inside ++ ['"'])),
          following⟩) := by
  have whole : cursor.rest = '"' :: (inside ++ ['"']) ++ following := by
    rw [ahead, List.cons_append, List.cons_append, List.append_assoc]
    rfl
  have size : ('"' :: (inside ++ ['"'])).length = inside.length + 1 + 1 := by
    rw [List.length_cons, List.length_append]
    rfl
  rw [← drop_of_split whole, size, run_string, ahead]
  simp only [List.cons_append, found]
  rfl

theorem run_string_of_closed {body : List Char} {before behind : List Piece}
    (ahead : cursor.rest = '"' :: body)
    (pieces : cut body = before ++ plain '"' :: behind)
    (first : plain '"' ∉ before) :
    Scan.string.run cursor =
      .ok (some (String.ofList (before.flatMap decoded)))
        (skipTrivia ⟨cursor.position.after
          ('"' :: (before.flatMap chars ++ ['"'])), behind.flatMap chars⟩) := by
  have split : body = before.flatMap chars ++ '"' :: behind.flatMap chars := by
    rw [← flatMap_chars_cut body, pieces, List.flatMap_append,
      List.flatMap_cons]
    rfl
  have whole : cursor.rest = '"' :: before.flatMap chars ++
      '"' :: behind.flatMap chars := by
    rw [ahead, split]
    rfl
  refine run_string_of_body whole ?_
  rw [← split, Lexeme.stringBody?_eq, pieces, contents?_of_closed first]

theorem run_string_of_unclosed {body : List Char}
    (ahead : cursor.rest = '"' :: body)
    (unclosed : plain '"' ∉ cut body) :
    Scan.string.run cursor =
      .error ⟨.unterminatedString, cursor.position⟩
        ⟨cursor.position.after cursor.rest, []⟩ := by
  have absent : Lexeme.stringBody? body = none :=
    Lexeme.stringBody?_eq_none_iff.2 unclosed
  rw [← drop_of_split (List.append_nil cursor.rest).symm, run_string, ahead]
  simp only [absent]

theorem run_string_of_token {contents : String} {following : List Char}
    (ahead : cursor.rest = (Token.string contents).chars ++ following) :
    Scan.string.run cursor =
      .ok (some contents)
        (skipTrivia ⟨cursor.position.after (Token.string contents).chars,
          following⟩) := by
  have whole : cursor.rest = '"' :: contents.toList.flatMap Token.escape ++
      '"' :: following := by
    rw [ahead, Token.chars, List.cons_append, List.append_assoc]
    rfl
  have read :=
    run_string_of_body whole
      (Lexeme.stringBody?_escape contents.toList following)
  rwa [String.ofList_toList] at read

/-- At a quote that begins a source there is no trivia to skip. -/
theorem start_of_token {contents : String} (noReturn : '\r' ∉ contents.toList)
    (following file : String) :
    start (String.ofList (Token.string contents).chars ++ following) file =
      ⟨.start file,
        (Token.string contents).chars ++
          following.toList.filter (· != '\r')⟩ := by
  have written : (Token.string contents).IsWritten := noReturn
  have kept : (Token.string contents).chars.filter (· != '\r') =
      (Token.string contents).chars :=
    List.filter_eq_self.2 fun c member =>
      bne_iff_ne.2 (ne_of_mem_of_not_mem member (Token.noReturn written))
  rw [start, String.toList_append, String.toList_ofList,
    List.filter_append, kept]
  rfl

/-- What is read of a string whose opening quote comes next. If a quote is a
piece by itself, then the string ends with the first such quote, and it is what
the pieces before stand for; the cursor comes to rest behind the quote. If there
is none, then the string is not closed, which is reported at its opening quote,
and no text is left. So any contents that are written with escapes, whatever
follows them, are read back: wherever they come next, and, if they have no
carriage return, from the beginning of a source. -/
theorem string_pieces :
    (∀ (cursor : Cursor) (body : List Char), cursor.rest = '"' :: body →
      (∀ before behind, cut body = before ++ plain '"' :: behind →
        plain '"' ∉ before →
        Scan.string.run cursor =
          .ok (some (String.ofList (before.flatMap decoded)))
            (skipTrivia ⟨cursor.position.after
              ('"' :: (before.flatMap chars ++ ['"'])),
              behind.flatMap chars⟩)) ∧
      (plain '"' ∉ cut body →
        Scan.string.run cursor =
          .error ⟨.unterminatedString, cursor.position⟩
            ⟨cursor.position.after cursor.rest, []⟩)) ∧
    (∀ (cursor : Cursor) (contents : String) (following : List Char),
      cursor.rest = '"' :: (contents.toList.flatMap Token.escape ++ ['"']) ++
        following →
        Scan.string.run cursor =
          .ok (some contents)
            (skipTrivia ⟨cursor.position.after
              ('"' :: (contents.toList.flatMap Token.escape ++ ['"'])),
              following⟩)) ∧
    ∀ contents following file : String, '\r' ∉ contents.toList →
      Scan.string.run (start (String.ofList
          ('"' :: (contents.toList.flatMap Token.escape ++ ['"'])) ++
            following) file) =
        .ok (some contents)
          (skipTrivia ⟨(Position.start file).after
            ('"' :: (contents.toList.flatMap Token.escape ++ ['"'])),
              following.toList.filter (· != '\r')⟩) := by
  refine ⟨fun cursor body ahead =>
    ⟨fun before behind pieces first => ?_, ?_⟩, ?_, ?_⟩
  · exact run_string_of_closed ahead pieces first
  · exact run_string_of_unclosed ahead
  · exact fun cursor contents following ahead => run_string_of_token ahead
  · intro contents following file noReturn
    have atStart := start_of_token noReturn following file
    have read := run_string_of_token (congrArg Cursor.rest atStart)
    rw [atStart] at read
    exact (congrArg Scan.string.run atStart).trans read

/-- Three backslashes before a quote, an unknown escape and two slashes inside a
string; a string whose last quote is escaped; and one that is written from its
contents. -/
theorem string_pieces_backslashes :
    Scan.string.run ⟨.start "f.code", "\"a\\\\\\\"\\q//\" // c\n b".toList⟩ =
        .ok (some "a\\\"\\q//") ⟨⟨"f.code", 2, 2⟩, ['b']⟩ ∧
      Scan.string.run ⟨.start "f.code", "\"a\\\"".toList⟩ =
        .error ⟨.unterminatedString, ⟨"f.code", 1, 1⟩⟩ ⟨⟨"f.code", 1, 5⟩, []⟩ ∧
      '\r' ∉ "\t\"".toList ∧
      Scan.string.run (start "\"\\t\\\"\"\r b" "f.code") =
        .ok (some "\t\"") ⟨⟨"f.code", 1, 8⟩, ['b']⟩ := by
  obtain ⟨pieces, _, written⟩ := string_pieces
  have noReturn : '\r' ∉ "\t\"".toList := by decide
  refine ⟨?_, ?_, noReturn, ?_⟩
  · exact (pieces ⟨.start "f.code", "\"a\\\\\\\"\\q//\" // c\n b".toList⟩ _
      rfl).1 [.plain 'a', .escape '\\', .escape '"', .escape 'q', .plain '/',
      .plain '/'] _ rfl (by decide)
  · exact (pieces ⟨.start "f.code", "\"a\\\"".toList⟩ _ rfl).2 (by decide)
  · exact written "\t\"" "\r b" "f.code" noReturn

end Cursor

end Minilang
