import Minilang.Proofs.Joining.Reading
import Minilang.Proofs.Likeness.Statement
import Minilang.Proofs.Rejection.Statement

/-!
# Rejections that further text cannot mend

A reading never looks beyond the newline behind the lexeme at which it stands.
So a source and the same source with further lines below it are alike for a
reading as long as some text of the source is left, and what is rejected there
is rejected in both, at the same place. The main statement is
`parse_append_of_structural`.
-/

namespace Minilang

/-- What comes next is not what the grammar asks for, and it is not the end of
the source either, or a number goes on in a way in which no number can. -/
def Cause.IsStructural : Cause → Prop
  | unexpectedToken _ found | expectedType found | expectedIdentifier found =>
      found ≠ "end of input"
  | malformedNumber _ => True
  | _ => False

namespace Cursor

variable {cursor other : Cursor} {lines : List Char}

/-- The cursor stands at a lexeme of a source, and the other one at the same
lexeme of the source with further lines. -/
structure StandsAbove (lines : List Char) (cursor other : Cursor) : Prop where
  atLexeme : Lexeme.triviaLength cursor.rest = 0
  more : cursor.rest ≠ []
  same : other = cursor.extend lines

/-- The text that is left has the further lines behind it. -/
theorem StandsAbove.rest_eq (above : StandsAbove lines cursor other) :
    other.rest = cursor.rest ++ '\n' :: lines := by
  rw [above.same]
  rfl

/-- Trivia that does not reach the end of the source is skipped alike. -/
theorem standsAbove_skipTrivia (more : cursor.skipTrivia.rest ≠ []) :
    StandsAbove lines cursor.skipTrivia (cursor.extend lines).skipTrivia := by
  have atLexeme : Lexeme.triviaLength cursor.skipTrivia.rest = 0 :=
    Layout.triviaLength_drop cursor.rest
  refine ⟨atLexeme, more, ?_⟩
  rw [← skipTrivia_extend, skipTrivia_extend_of_ne_nil lines atLexeme more]

theorem StandsAbove.advance {count : Nat}
    (above : StandsAbove lines cursor other)
    (isAhead : Lexeme.IsAhead count cursor.rest)
    (more : (cursor.advance count).rest ≠ []) :
    StandsAbove lines (cursor.advance count) (other.advance count) := by
  have moved : other.drop count = (cursor.drop count).extend lines := by
    rw [above.same, drop_extend lines isAhead.le_length]
  rw [Cursor.advance, Cursor.advance, moved]
  exact standsAbove_skipTrivia more

end Cursor

/-- A source and the same source with further lines below it are alike up to the
end of the source. Places are the same. -/
def Likeness.above (lines : List Char) : Likeness where
  place := id
  horizon := 1
  Like := Cursor.StandsAbove lines
  position above := by rw [above.same, Cursor.extend]
  head {cursor other} above := by
    rw [above.rest_eq]
    exact (List.head?_append_of_ne_nil cursor.rest above.more).symm
  word above := by
    rw [Cursor.word?, Cursor.word?, above.rest_eq, Lexeme.word?_newline]
  symbol above isSymbol := by
    rw [above.rest_eq,
      Lexeme.prefix_newline_iff lines (Embedding.not_mem_symbol isSymbol)]
  numeral above := by rw [above.rest_eq, Lexeme.numeral?_newline]
  string {cursor other body otherBody} above ahead otherAhead closed := by
    have rest := above.rest_eq
    rw [ahead, otherAhead, List.cons_append] at rest
    obtain ⟨pair, isClosed⟩ :=
      Option.ne_none_iff_exists'.1 (closed.resolve_left Nat.one_ne_zero)
    rw [List.tail_eq_of_cons_eq rest, isClosed,
      Lexeme.stringBody?_append isClosed]
  behind above isAhead near :=
    above.advance isAhead (List.ne_nil_of_length_pos near)

namespace Cursor

variable {cursor : Cursor}

/-- Where nothing is left, the end of the source is what is found. -/
theorem describe_of_nil (ends : cursor.rest = []) :
    cursor.describe = "end of input" := by
  rw [describe, ends]

theorem describeWord_of_nil (ends : cursor.rest = []) :
    cursor.describeWord = "end of input" := by
  rw [describeWord, word?, ends]
  exact describe_of_nil ends

end Cursor

/-- Some text is left where the reading is rejected for such a cause. -/
theorem Grammar.Refuses.ne_nil_of_structural {source cursor : Cursor}
    {origin : Parser} {diagnostic : Diagnostic} {scopes : Array Scope}
    (refuses : Refuses source origin diagnostic cursor scopes)
    (structural : diagnostic.cause.IsStructural) : cursor.rest ≠ [] := by
  intro ends
  cases refuses with
  | text | type => exact structural (Cursor.describe_of_nil ends)
  | expression | identifier =>
      exact structural (Cursor.describeWord_of_nil ends)
  | behindProgram _ more => exact more ends
  | number _ numeral =>
      rw [ends] at numeral
      cases numeral
  | string | declaration => exact structural

namespace Program

variable {source file : String} {diagnostic : Diagnostic}

/-- A source that is rejected for a structural cause is rejected with the same
diagnostic whatever lines follow below it. -/
theorem parse_append_of_structural
    (rejected : parse source file = .error (.diagnostic diagnostic))
    (structural : diagnostic.cause.IsStructural) (other : String) :
    parse (source ++ "\n" ++ other) file = .error (.diagnostic diagnostic) := by
  obtain ⟨stop, stops, refuses⟩ := refuses_of_parse rejected
  have near : 1 ≤ stop.left :=
    List.length_pos_iff.2 (refuses.ne_nil_of_structural structural)
  generalize isLines : other.toList.filter (· != '\r') = lines
  have stands : Scopes.initial.Stands 0 .empty := ⟨rfl, rfl⟩
  have alike : (Likeness.above lines).Alike
      ((Parser.start source file).left + 1)
      ((Parser.start (source ++ "\n" ++ other) file).left + 1)
        (.start source file)
      (.start (source ++ "\n" ++ other) file) := by
    refine ⟨Nat.lt_succ_self _, fun more =>
      ⟨?_, Nat.lt_succ_self _, rfl, 0, .empty, stands⟩⟩
    have isStart := start_joined source other file
    rw [isLines] at isStart
    rw [Parser.start, Parser.start, isStart]
    exact Cursor.standsAbove_skipTrivia (List.ne_nil_of_length_pos more)
  obtain ⟨_, matched⟩ := Likeness.listsAlike_read _ _ alike
  rw [stops] at matched
  have results := matched near
  rw [parse]
  generalize read.run (.start (source ++ "\n" ++ other) file) =
    result at results
  cases results with
  | @rejected _ otherDiagnostic _ _ same =>
      have sameDiagnostic : diagnostic = otherDiagnostic := by
        cases diagnostic
        cases otherDiagnostic
        exact congrArg₂ Diagnostic.mk same.1 same.2
      rw [sameDiagnostic]

theorem parse_append_of_structural_assignment :
    parse "while a < 1 \x7b set = 2 \x7d" "f.code" =
        .error (.diagnostic ⟨.expectedIdentifier "`=`", ⟨"f.code", 1, 19⟩⟩) ∧
      (Cause.expectedIdentifier "`=`").IsStructural ∧
      parse ("while a < 1 \x7b set = 2 \x7d" ++ "\n" ++ "print \"//") "f.code" =
        .error (.diagnostic
          ⟨.expectedIdentifier "`=`", ⟨"f.code", 1, 19⟩⟩) := by
  have rejected := eq_error_of_failsWith <|
    show Steps.failsWith
      (.diagnostic ⟨.expectedIdentifier "`=`", ⟨"f.code", 1, 19⟩⟩)
      (parse "while a < 1 \x7b set = 2 \x7d" "f.code") = true by decide +kernel
  have structural : (Cause.expectedIdentifier "`=`").IsStructural := by
    unfold Cause.IsStructural
    decide
  exact ⟨rejected, structural, parse_append_of_structural rejected structural _⟩

end Program

end Minilang
