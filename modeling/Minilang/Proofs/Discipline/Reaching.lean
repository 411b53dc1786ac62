import Minilang.Proofs.Likeness.Question
import Minilang.Proofs.Reading.Success

/-!
# Where lexemes lead

A cursor moves over its source without leaving anything out. Every lexeme that
is found, and every scan, even one that fails, ends at a cursor that is reached
in this way.
-/

namespace Minilang.Cursor

variable {α : Type} {cursor behind : Cursor}

/-- The second cursor stands at the first one or further on in the same
source. -/
def Reaches (cursor later : Cursor) : Prop :=
  ∃ count, cursor.drop count = later

theorem Reaches.refl (cursor : Cursor) : cursor.Reaches cursor :=
  ⟨0, rfl⟩

theorem Reaches.trans {first second third : Cursor}
    (before : first.Reaches second)
    (after : second.Reaches third) : first.Reaches third := by
  obtain ⟨count, rfl⟩ := before
  obtain ⟨more, rfl⟩ := after
  exact ⟨count + more, (drop_drop first count more).symm⟩

theorem reaches_skipTrivia (cursor : Cursor) :
    cursor.Reaches cursor.skipTrivia :=
  ⟨_, rfl⟩

theorem reaches_advance (cursor : Cursor) (count : Nat) :
    cursor.Reaches (cursor.advance count) :=
  .trans ⟨count, rfl⟩ (reaches_skipTrivia _)

/-- The text that was moved over, and the place behind it. -/
theorem Reaches.split {cursor later : Cursor} (reaches : cursor.Reaches later) :
    ∃ text, text ++ later.rest = cursor.rest ∧
      later.position = cursor.position.after text := by
  obtain ⟨count, rfl⟩ := reaches
  exact ⟨cursor.rest.take count, List.take_append_drop count cursor.rest, rfl⟩

theorem reaches_of_accept? {text : String}
    (found : cursor.accept? text = some behind) :
    cursor.Reaches behind := by
  obtain ⟨_, rfl⟩ := accept?_eq_some.1 found
  exact reaches_advance cursor text.length

theorem reaches_of_keyword? {word : String}
    (found : cursor.keyword? word = some behind) :
    cursor.Reaches behind :=
  reaches_of_accept? (accept?_of_keyword? found)

/-- Every answer to the question lies at the cursor or further on. -/
def Moves (lexeme? : Cursor → Option (α × Cursor)) : Prop :=
  ∀ {cursor behind : Cursor} {value : α},
    lexeme? cursor = some (value, behind) →
    cursor.Reaches behind

theorem AsksWord.moves {names : α → String → Prop}
    {lexeme? : Cursor → Option (α × Cursor)} (asks : AsksWord names lexeme?) :
    Moves lexeme? := by
  intro cursor behind value found
  obtain ⟨word, _, _, rfl⟩ := asks.1 found
  exact reaches_advance cursor word.length

theorem moves_operator? (level : Level) : Moves (operator? level) := by
  intro cursor behind operator found
  obtain ⟨_, _, accepted⟩ := List.exists_of_findSome?_eq_some found
  obtain ⟨_, accepted, same⟩ := Option.map_eq_some_iff.1 accepted
  cases same
  exact reaches_of_accept? accepted

/-- The later cursor is the same, or stands behind some characters and the
trivia that follows them. -/
def StaysOrAdvances (cursor later : Cursor) : Prop :=
  later = cursor ∨ ∃ count, later = cursor.advance count

theorem StaysOrAdvances.reaches {later : Cursor}
    (moves : cursor.StaysOrAdvances later) :
    cursor.Reaches later := by
  rcases moves with rfl | ⟨count, rfl⟩
  · exact .refl later
  · exact reaches_advance cursor count

theorem staysOrAdvances_of_accept? {text : String}
    (found : cursor.accept? text = some behind) :
    cursor.StaysOrAdvances behind :=
  .inr ⟨text.length, (accept?_eq_some.1 found).2.symm⟩

/-- A text that is missing leaves the cursor where it is. -/
theorem staysOrAdvances_expect (text : String) (cursor : Cursor) :
    cursor.StaysOrAdvances (Steps.last ((Scan.expect text).run cursor)) := by
  rw [Parse.run_scanExpect]
  cases found : cursor.accept? text with
  | some behind => exact staysOrAdvances_of_accept? found
  | none => exact .inl rfl

theorem staysOrAdvances_number (cursor : Cursor) :
    cursor.StaysOrAdvances (Steps.last (Scan.number.run cursor)) := by
  rw [run_number]
  cases Lexeme.numeral? cursor.rest with
  | none => exact .inl rfl
  | some digits =>
      by_cases malformed : digits.toList.getLast? = some '.'
      · simp only [if_pos malformed]
        exact .inl rfl
      · simp only [if_neg malformed]
        exact .inr ⟨digits.length, rfl⟩

/-- A string that is not closed uses up the source, behind which there is no
trivia. -/
theorem staysOrAdvances_string (cursor : Cursor) :
    cursor.StaysOrAdvances (Steps.last (Scan.string.run cursor)) := by
  rw [run_string]
  split
  · split
    · exact .inr ⟨_, rfl⟩
    · have ends : (cursor.drop cursor.rest.length).rest = [] := List.drop_length
      refine .inr ⟨cursor.rest.length, ?_⟩
      rw [advance, skipTrivia, ends]
      simp only [Steps.last, drop, Lexeme.triviaLength, List.take_zero,
        List.drop_zero, Position.after_nil]
  · exact .inl rfl

end Minilang.Cursor
