import Mathlib.Data.List.DropRight
import Minilang.Proofs.Rejection.Resting

/-!
# The cursor under any operations

A cursor may be asked to move in any order of operations, and an operation may
fail. Each of them leaves a cursor that rests in the same source, so what holds
of such a cursor holds after all operations: `split_of_performAll` says that the
text behind it and the text ahead of it make up the source, that its place
counts the characters it has moved over, and that no trivia is ahead of it.
-/

namespace Minilang

namespace Position

/-- The line counts the newlines of the text that begins a source, and the
column the characters since the last of them. -/
theorem after_start (file : String) (text : List Char) :
    (start file).after text =
      ⟨file, 1 + text.count '\n',
        1 + (text.rtakeWhile (· != '\n')).length⟩ := by
  induction text using List.reverseRecOn with
  | nil => rfl
  | append_singleton text c inductionHypothesis =>
      rw [after_append, inductionHypothesis, after_cons, after_nil, next,
        List.count_append]
      by_cases newline : c = '\n'
      · have ends : (text ++ [c]).rtakeWhile (· != '\n') = [] :=
          List.rtakeWhile_concat_neg _ _ _ (by simp [newline])
        rw [if_pos newline, ends, newline, List.count_singleton_self]
        rfl
      · have goesOn : (text ++ [c]).rtakeWhile (· != '\n') =
            text.rtakeWhile (· != '\n') ++ [c] :=
          List.rtakeWhile_concat_pos _ _ _ (bne_iff_ne.2 newline)
        have none : [c].count '\n' = 0 :=
          List.count_eq_zero.2 (by simpa using Ne.symm newline)
        rw [if_neg newline, goesOn, none, List.length_append]
        rfl

end Position

namespace Cursor

open Steps

variable {origin cursor : Cursor}

/-- What a cursor can be asked to do. -/
inductive Operation where
  /-- Tells the place, or what is ahead. -/
  | look
  | advance (count : Nat)
  | accept (text : String)
  | keyword (word : String)
  | expect (text : String)
  | identifier
  | number
  | string
deriving DecidableEq, Repr

/-- The cursor that the operation leaves, whether or not it succeeds. -/
def perform (cursor : Cursor) : Operation → Cursor
  | .look => cursor
  | .advance count => cursor.advance count
  | .accept text => (cursor.accept? text).getD cursor
  | .keyword word => (cursor.keyword? word).getD cursor
  | .expect text => last ((Scan.expect text).run cursor)
  | .identifier => (cursor.identifier?.map Prod.snd).getD cursor
  | .number => last (Scan.number.run cursor)
  | .string => last (Scan.string.run cursor)

def performAll (cursor : Cursor) (operations : List Operation) : Cursor :=
  operations.foldl perform cursor

theorem staysOrAdvances_perform (cursor : Cursor) (operation : Operation) :
    cursor.StaysOrAdvances (cursor.perform operation) := by
  cases operation with
  | look => exact .inl rfl
  | advance count => exact .inr ⟨count, rfl⟩
  | accept text =>
      rw [perform]
      cases found : cursor.accept? text with
      | none => exact .inl rfl
      | some behind => exact staysOrAdvances_of_accept? found
  | keyword word =>
      rw [perform]
      cases found : cursor.keyword? word with
      | none => exact .inl rfl
      | some behind =>
          exact staysOrAdvances_of_accept? (accept?_of_keyword? found)
  | expect text => exact cursor.staysOrAdvances_expect text
  | identifier =>
      rw [perform]
      cases found : cursor.identifier? with
      | none => exact .inl rfl
      | some entry =>
          exact .inr ⟨entry.1.length, (identifier?_eq_some.1 found).2.2.symm⟩
  | number => exact cursor.staysOrAdvances_number
  | string => exact cursor.staysOrAdvances_string

theorem reaches_performAll (cursor : Cursor) (operations : List Operation) :
    cursor.Reaches (cursor.performAll operations) := by
  induction operations generalizing cursor with
  | nil => exact .refl cursor
  | cons operation others inductionHypothesis =>
      exact (cursor.staysOrAdvances_perform operation).reaches.trans
        (inductionHypothesis _)

theorem performAll_append (cursor : Cursor) (first second : List Operation) :
    cursor.performAll (first ++ second) =
      (cursor.performAll first).performAll second :=
  List.foldl_append

theorem Rests.perform (rests : origin.Rests cursor) (operation : Operation) :
    origin.Rests (cursor.perform operation) := by
  rcases cursor.staysOrAdvances_perform operation with stays | ⟨count, advances⟩
  · rwa [stays]
  · rw [advances]
    exact rests.reaches.rests_advance count

/-- By induction on the operations; one that fails counts as well. -/
theorem Rests.performAll (rests : origin.Rests cursor)
    (operations : List Operation) :
    origin.Rests (cursor.performAll operations) := by
  induction operations generalizing cursor with
  | nil => exact rests
  | cons operation others inductionHypothesis =>
      exact inductionHypothesis (rests.perform operation)

/-- After any operations on a source of fewer characters than 32 bits can count,
the text behind the cursor and the text ahead of it make up the source without
its carriage returns. The line counts the newlines behind the cursor, and the
column the characters since the last of them. Neither a blank nor a comment is
ahead. More operations leave behind the cursor what is behind it. A machine that
has moved over as many characters keeps the cursor in its registers, so that no
count is exhausted. -/
theorem split_of_performAll {source : String}
    (short : source.length + 1 < UInt32.size)
    (file : String) (operations : List Operation) :
    ∃ behind, behind ++ ((start source file).performAll operations).rest =
        source.toList.filter (· != '\r') ∧
      ((start source file).performAll operations).position =
        ⟨file, 1 + behind.count '\n',
          1 + (behind.rtakeWhile (· != '\n')).length⟩ ∧
      (∀ c, ((start source file).performAll operations).rest.head? = some c →
        Text.isBlank c = false) ∧
      ¬ ['/', '/'] <+: ((start source file).performAll operations).rest ∧
      (∀ more, ((start source file).performAll (operations ++ more)).rest <:+
        ((start source file).performAll operations).rest) ∧
      ∃ registers, Registers.bumps? (sourceText source)
        behind.length = some registers ∧
        registers.Keeps (sourceText source)
          ((start source file).performAll operations) := by
  have rests := (Program.rests_start source file).performAll operations
  simp only [performAll_append]
  generalize (start source file).performAll operations = cursor at rests ⊢
  obtain ⟨notBlank, noComment⟩ := rests.noBlank
  obtain ⟨behind, whole, place⟩ := rests.reaches.split_source
  have shortText : (sourceText source).length + 1 < UInt32.size := by
    have bound := length_sourceText_le source
    omega
  obtain ⟨registers, bumped, keeps⟩ :=
    Registers.keeps_bumps shortText file behind.length
  have reached : (origin source file).drop behind.length = cursor := by
    rw [drop_of_split ((rest_origin source file).trans whole.symm),
      origin, ← place]
  refine ⟨behind, whole, ?_, notBlank, noComment, ?_, registers, bumped,
    reached ▸ keeps⟩
  · rw [place, Position.after_start]
  · intro more
    obtain ⟨between, split, _⟩ := (cursor.reaches_performAll more).split
    exact ⟨between, split⟩

/-- A name before a comment, a string over two lines, a number without its
fraction, a missing parenthesis, and a move into the middle of a string that is
not closed. -/
theorem split_of_performAll_mixed :
    "ab //\r\n\t\"ü\n\" 1. + \" c".length + 1 < UInt32.size ∧
      ((start "ab //\r\n\t\"ü\n\" 1. + \" c" "f.code").performAll
        [.identifier, .string, .number, .expect "(", .advance 3, .keyword "c",
          .advance 3]).rest =
          ['c'] ∧
      ∃ behind, behind ++
        ['c'] = "ab //\r\n\t\"ü\n\" 1. + \" c".toList.filter (· != '\r') ∧
        ((start "ab //\r\n\t\"ü\n\" 1. + \" c" "f.code").performAll
          [.identifier, .string, .number, .expect "(", .advance 3, .keyword "c",
            .advance 3]).position =
          ⟨"f.code", 1 + behind.count '\n',
            1 + (behind.rtakeWhile (· != '\n')).length⟩ := by
  have short : "ab //\r\n\t\"ü\n\" 1. + \" c".length + 1 <
      UInt32.size := by decide
  have left : ((start "ab //\r\n\t\"ü\n\" 1. + \" c" "f.code").performAll
      [.identifier, .string, .number, .expect "(", .advance 3, .keyword "c",
        .advance 3]).rest =
        ['c'] := by decide +kernel
  obtain ⟨behind, whole, place, _⟩ :=
    split_of_performAll short "f.code" [.identifier, .string, .number,
    .expect "(", .advance 3, .keyword "c", .advance 3]
  rw [left] at whole
  exact ⟨short, left, behind, whole, place⟩

end Cursor

end Minilang
