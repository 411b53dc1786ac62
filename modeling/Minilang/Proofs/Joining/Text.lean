import Minilang.Proofs.Layout.Text
import Minilang.Proofs.Likeness.Question
import Minilang.Proofs.Spelling.Tokens

/-!
# Texts with further lines behind them

A text may be followed by a newline and further lines. No lexeme goes on over
the newline, so the same lexemes are ahead as in the text alone. Only the trivia
at the end of the text goes on: when nothing but trivia is left, the lexeme that
comes next is the first of the further lines, as `skipTrivia_extend` says.
-/

namespace Minilang

namespace Lexeme

variable {text : List Char} (lines : List Char)

theorem span_newline {p : Char → Bool} (stops : p '\n' = false)
    (text : List Char) :
    (text ++ '\n' :: lines).takeWhile p = text.takeWhile p ∧
      (text ++ '\n' :: lines).dropWhile p = text.dropWhile p ++
        '\n' :: lines := by
  induction text with
  | nil =>
      have stop : ¬ p '\n' = true := by simp [stops]
      exact ⟨List.takeWhile_cons_of_neg stop, List.dropWhile_cons_of_neg stop⟩
  | cons c text inductionHypothesis =>
      rw [List.cons_append]
      cases goesOn : p c with
      | true =>
          rw [List.takeWhile_cons_of_pos goesOn,
            List.takeWhile_cons_of_pos goesOn,
            List.dropWhile_cons_of_pos goesOn,
            List.dropWhile_cons_of_pos goesOn, inductionHypothesis.1]
          exact ⟨rfl, inductionHypothesis.2⟩
      | false =>
          have stop : ¬ p c = true := by simp [goesOn]
          rw [List.takeWhile_cons_of_neg stop, List.takeWhile_cons_of_neg stop,
            List.dropWhile_cons_of_neg stop, List.dropWhile_cons_of_neg stop]
          exact ⟨rfl, rfl⟩

theorem word?_newline (text : List Char) :
    word? (text ++ '\n' :: lines) = word? text := by
  cases text with
  | nil => rfl
  | cons c rest =>
      have run :=
        (span_newline lines (by decide : isWordChar '\n' = false) rest).1
      rw [List.cons_append, word?, word?, run]

theorem numeral?_newline (text : List Char) :
    numeral? (text ++ '\n' :: lines) = numeral? text := by
  obtain ⟨taken, left⟩ :=
    span_newline lines (by decide : Char.isDigit '\n' = false) text
  by_cases point : (text.dropWhile Char.isDigit).head? = some '.'
  · obtain ⟨rest, split⟩ := List.head?_eq_some_iff.1 point
    have fraction :=
      (span_newline lines (by decide : Char.isDigit '\n' = false) rest).1
    rw [split, List.cons_append] at left
    rw [Layout.numeral?_of_point left, Layout.numeral?_of_point split,
      taken, fraction]
  · have noPoint :
        ((text ++ '\n' :: lines).dropWhile Char.isDigit).head? ≠ some '.' := by
      rw [left, List.head?_append]
      intro head
      rcases Option.or_eq_some_iff.1 head with inText | newline
      · exact point inText
      · exact absurd (Option.some.inj newline.2) (by decide)
    rw [Layout.numeral?_of_noPoint noPoint,
      Layout.numeral?_of_noPoint point, taken]

/-- No lexeme reaches over the end of a line. -/
theorem prefix_newline_iff {lexeme : List Char} (sameLine : '\n' ∉ lexeme) :
    lexeme <+: text ++ '\n' :: lines ↔ lexeme <+: text := by
  constructor
  · intro ahead
    rcases List.prefix_or_prefix_of_prefix ahead
      (List.prefix_append text ('\n' :: lines)) with
      within | beyond
    · exact within
    · -- A lexeme that went on over the text would contain the newline.
      obtain ⟨others, split⟩ := beyond
      rw [← split, List.prefix_append_right_inj] at ahead
      cases others with
      | nil =>
          rw [List.append_nil] at split
          exact split ▸ List.prefix_rfl
      | cons c others =>
          obtain ⟨same, _⟩ := List.cons_prefix_cons.1 ahead
          refine absurd ?_ sameLine
          rw [← split, same]
          exact List.mem_append_right _ List.mem_cons_self
  · intro ahead
    exact ahead.trans (List.prefix_append text _)

/-- A string that is closed ends at its quote, whatever follows. -/
theorem stringBody?_append {contents : List Char} {length : Nat}
    (closed : stringBody? text = some (contents, length)) (rest : List Char) :
    stringBody? (text ++ rest) = some (contents, length) := by
  have again :=
    (Layout.stringBody?_take closed
      (text.drop (Layout.stringLength text) ++ rest)).2
  rwa [← List.append_assoc, List.take_append_drop] at again

/-- A lexeme is part of the text of which it is ahead. -/
theorem IsAhead.le_length {count : Nat} (isAhead : IsAhead count text) :
    count ≤ text.length := by
  cases isAhead with
  | @word word _ found =>
      have ahead := ((word?_eq_some_iff (isWord_of_word? found)).1 found).1
      exact String.length_toList ▸ ahead.length_le
  | @symbol symbol _ _ ahead => exact String.length_toList ▸ ahead.length_le
  | @numeral digits _ found =>
      exact String.length_toList ▸ (Token.prefix_of_numeral? found).length_le
  | string closed => exact Nat.succ_le_succ (stringBody?_length_le closed).2

theorem triviaLength_cons_newline :
    triviaLength ('\n' :: lines) = triviaLength lines + 1 := by
  rw [Layout.triviaLength_cons fun same => absurd same (by decide)]
  exact if_pos (by decide)

mutual

/-- If nothing but trivia is in the text, the trivia goes on behind it. -/
theorem triviaLength_newline (text : List Char) :
    triviaLength (text ++ '\n' :: lines) =
      if triviaLength text < text.length then triviaLength text
      else text.length + (triviaLength lines + 1) := by
  cases text with
  | nil =>
      rw [List.nil_append, triviaLength_cons_newline, List.length_nil,
        if_neg (Nat.not_lt_zero _), Nat.zero_add]
  | cons c rest =>
      by_cases comment : c = '/' ∧ rest.head? = some '/'
      · obtain ⟨slash, head⟩ := comment
        obtain ⟨after, split⟩ := List.head?_eq_some_iff.1 head
        subst slash split
        have inner := commentLength_newline after
        rw [List.cons_append, List.cons_append, Layout.triviaLength_comment,
          inner, Layout.triviaLength_comment, List.length_cons,
          List.length_cons]
        split <;> split <;> omega
      · have noComment : c = '/' → rest.head? ≠ some '/' :=
          fun slash head => comment ⟨slash, head⟩
        have noCommentBefore : c = '/' →
            (rest ++ '\n' :: lines).head? ≠ some '/' := by
          intro slash head
          cases rest with
          | nil => cases head
          | cons d others => exact noComment slash head
        have inner := triviaLength_newline rest
        rw [List.cons_append, Layout.triviaLength_cons noCommentBefore,
          Layout.triviaLength_cons noComment, inner, List.length_cons]
        cases Text.isBlank c with
        | true =>
            simp only [if_true]
            split <;> split <;> omega
        | false => simp
termination_by text.length

theorem commentLength_newline (text : List Char) :
    commentLength (text ++ '\n' :: lines) =
      if commentLength text < text.length then commentLength text
      else text.length + (triviaLength lines + 1) := by
  cases text with
  | nil =>
      rw [List.nil_append, List.length_nil, if_neg (Nat.not_lt_zero _),
        Nat.zero_add, commentLength]
  | cons c rest =>
      rw [List.cons_append, List.length_cons]
      by_cases last : c = '\n'
      · subst last
        have inner := triviaLength_newline rest
        rw [commentLength, commentLength, inner]
        split <;> split <;> omega
      · have inner := commentLength_newline rest
        rw [Layout.commentLength_cons last,
          Layout.commentLength_cons last, inner]
        split <;> split <;> omega
termination_by text.length

end

end Lexeme

namespace Cursor

variable (cursor : Cursor) (lines : List Char)

/-- The cursor with a newline and further lines behind its text. -/
def extend : Cursor :=
  ⟨cursor.position, cursor.rest ++ '\n' :: lines⟩

variable {cursor}

theorem drop_extend {count : Nat} (within : count ≤ cursor.rest.length) :
    (cursor.extend lines).drop count = (cursor.drop count).extend lines := by
  rw [extend, drop, extend, drop]
  dsimp only
  rw [List.take_append_of_le_length within,
    List.drop_append_of_le_length within]

/-- At a lexeme no trivia is skipped. -/
theorem skipTrivia_extend_of_ne_nil
    (atLexeme : Lexeme.triviaLength cursor.rest = 0)
    (more : cursor.rest ≠ []) :
    (cursor.extend lines).skipTrivia = cursor.extend lines := by
  have noTrivia : Lexeme.triviaLength (cursor.extend lines).rest = 0 := by
    rw [extend, Lexeme.triviaLength_newline, atLexeme,
      if_pos (List.length_pos_iff.2 more)]
  rw [skipTrivia, noTrivia]
  rfl

/-- Trivia may be skipped before or after further lines are put behind the
text. -/
theorem skipTrivia_extend (cursor : Cursor) (lines : List Char) :
    (cursor.skipTrivia.extend lines).skipTrivia =
      (cursor.extend lines).skipTrivia := by
  have length := Lexeme.triviaLength_newline lines cursor.rest
  by_cases ends : Lexeme.triviaLength cursor.rest < cursor.rest.length
  · have more : cursor.skipTrivia.rest ≠ [] := by
      intro empty
      exact Nat.not_le_of_lt ends (List.drop_eq_nil_iff.1 empty)
    have whole :=
      skipTrivia_extend_of_ne_nil lines
        (Layout.triviaLength_drop cursor.rest) more
    rw [if_pos ends] at length
    have outside : (cursor.extend lines).skipTrivia =
        (cursor.extend lines).drop (Lexeme.triviaLength cursor.rest) := by
      rw [skipTrivia, extend, length]
    rw [whole, outside, drop_extend lines (Nat.le_of_lt ends), skipTrivia]
  · have all : Lexeme.triviaLength cursor.rest = cursor.rest.length :=
      Nat.le_antisymm (Lexeme.triviaLength_le _) (Nat.le_of_not_lt ends)
    rw [if_neg ends] at length
    have rest : (cursor.drop cursor.rest.length).rest = [] := List.drop_length
    have inside : ((cursor.skipTrivia).extend lines).skipTrivia =
        ((cursor.drop cursor.rest.length).extend lines).drop
          (Lexeme.triviaLength lines + 1) := by
      rw [skipTrivia, skipTrivia, all, ← Lexeme.triviaLength_cons_newline]
      congr 2
      rw [extend, rest, List.nil_append]
    have outside : (cursor.extend lines).skipTrivia =
        (cursor.extend lines).drop
          (cursor.rest.length + (Lexeme.triviaLength lines + 1)) := by
      rw [skipTrivia, extend, length]
    have between : (cursor.extend lines).drop cursor.rest.length =
        (cursor.drop cursor.rest.length).extend lines :=
      drop_extend lines (Nat.le_refl _)
    rw [inside, outside, ← between, drop_drop]

end Cursor

end Minilang
