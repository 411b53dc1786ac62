import Minilang.Proofs.Discipline.Reaching
import Minilang.Proofs.Spelling.Spelled

/-!
# Places point at the text

The cursor moves over the source without leaving anything out, so the place it
carries is always that behind the text it has moved over. With the tokens of the
source this gives the main statement, `marks_of_parse`: each node of a program
stands where its mark is written, and the places grow in the order of the
source.
-/

namespace Minilang

namespace Position

/-- The first place stands before the second: in an earlier line, or further
left in the same one. -/
def Precedes (first second : Position) : Prop :=
  first.line < second.line ∨ first.line = second.line ∧
    first.column < second.column

instance (first second : Position) : Decidable (first.Precedes second) :=
  inferInstanceAs (Decidable (_ ∨ _))

theorem Precedes.trans {first second third : Position}
    (before : first.Precedes second)
    (after : second.Precedes third) : first.Precedes third := by
  unfold Precedes at *
  omega

/-- A newline leads to a later line, and any other character further right. -/
theorem precedes_next (position : Position) (c : Char) :
    position.Precedes (position.next c) := by
  unfold next
  by_cases newline : c = '\n'
  · rw [if_pos newline]
    exact Or.inl (Nat.lt_succ_self _)
  · rw [if_neg newline]
    exact Or.inr ⟨rfl, Nat.lt_succ_self _⟩

/-- A text that is not empty leads to a later place. -/
theorem precedes_after (position : Position) {text : List Char}
    (nonempty : text ≠ []) :
    position.Precedes (position.after text) := by
  induction text generalizing position with
  | nil => exact absurd rfl nonempty
  | cons c rest inductionHypothesis =>
      have first := position.precedes_next c
      by_cases last : rest = []
      · subst last
        exact first
      · exact first.trans (inductionHypothesis (position.next c) last)

theorem after_eq_self_iff {position : Position} {text : List Char} :
    position.after text = position ↔ text = [] := by
  constructor
  · intro same
    by_contra nonempty
    have later := position.precedes_after nonempty
    rw [same, Precedes] at later
    omega
  · rintro rfl
    exact after_nil position

end Position

namespace Cursor

/-- A cursor that has moved over some text has a later place. -/
theorem Reaches.precedes {cursor later : Cursor}
    (reaches : cursor.Reaches later)
    (shorter : later.rest.length < cursor.rest.length) :
    cursor.position.Precedes later.position := by
  obtain ⟨text, whole, place⟩ := reaches.split
  rw [place]
  apply Position.precedes_after
  rintro rfl
  rw [List.nil_append] at whole
  rw [whole] at shorter
  exact Nat.lt_irrefl _ shorter

open Token

variable {start stop : Cursor} {placed : List Placed}

/-- Each token is ahead of a cursor that is reached, at the place of the
token. -/
theorem Splits.ahead (splits : Splits start placed stop) :
    ∀ mark ∈ placed, ∃ here length, start.Reaches here ∧
      here.position = mark.position ∧
      ahead? here.rest = some (mark.token, length) := by
  induction splits with
  | stop => exact List.forall_mem_nil _
  | @token token length others start stop first _ inductionHypothesis =>
      refine List.forall_mem_cons.2
        ⟨⟨start, length, .refl start, rfl, first⟩, ?_⟩
      intro mark member
      obtain ⟨here, size, reaches, place, ahead⟩ :=
        inductionHypothesis mark member
      exact ⟨here, size, (reaches_advance start length).trans reaches,
        place, ahead⟩

/-- The tokens stand one behind the other. -/
theorem Splits.pairwise (splits : Splits start placed stop) :
    placed.Pairwise fun first second =>
      first.position.Precedes second.position := by
  induction splits with
  | stop => exact .nil
  | @token token length others start stop first rest inductionHypothesis =>
      refine List.pairwise_cons.2 ⟨?_, inductionHypothesis⟩
      intro mark member
      obtain ⟨here, size, reaches, place, _⟩ := rest.ahead mark member
      obtain ⟨text, whole, _⟩ := reaches.split
      have shorter : here.rest.length < start.rest.length := by
        have moved := length_lt_of_ahead? first
        rw [← whole, List.length_append] at moved
        omega
      rw [← place]
      exact ((reaches_advance start length).trans reaches).precedes shorter

end Cursor

namespace Program

variable {source file : String} {program : Program}

/-- Every node points at its own text: its mark stands at its place in the
source, from which the carriage returns are taken away. In the order of the
source the places strictly increase. -/
theorem marks_of_parse (success : parse source file = .ok program) :
    (∀ part : Node, part.PartOf program.root → ∀ mark, part.mark? = some mark →
      ∃ before behind, source.toList.filter (· != '\r') = before ++
        mark.beginning ++ behind ∧
        part.position = (Position.start file).after before) ∧
      (program.root.inOrder.map Node.position).Pairwise Position.Precedes := by
  obtain ⟨stop, _, placed, splits, _, among⟩ := spells_of_parse success
  constructor
  · intro part within mark marked
    have member : part ∈ program.root.inOrder :=
      Node.mem_inOrder_iff.2
        ⟨within, by rw [marked]; exact Option.some_ne_none mark⟩
    have isMark : ⟨mark, part.position⟩ ∈ program.root.marks := by
      refine List.mem_filterMap.2 ⟨part, member, ?_⟩
      rw [Node.placedMark?, marked]
      rfl
    obtain ⟨here, length, reaches, place, ahead⟩ :=
      splits.ahead _ (among.subset isMark)
    obtain ⟨before, whole, position⟩ :=
      ((Cursor.reaches_skipTrivia _).trans reaches).split
    obtain ⟨_, behind, begins⟩ := Token.beginning_of_ahead? ahead
    refine ⟨before, behind, ?_, ?_⟩
    · rw [List.append_assoc, begins, whole]
    · rw [← position, place]
  · have ordered := splits.pairwise.sublist among
    rw [← Node.positions_of_marks fun part member => (Node.mem_inOrder_iff.1
      member).2, List.pairwise_map]
    exact ordered

theorem marks_of_parse_cast :
    ∃ program,
      parse
        "print <int>2.5 +\r\n f(\"a\nb\", (x)) // sum\nint g(int n) \x7b \x7d"
          "f.code" =
        .ok program ∧
      (∀ part : Node, part.PartOf program.root → ∀ mark,
        part.mark? = some mark →
        ∃ before behind,
          "print <int>2.5 +\r\n f(\"a\nb\", (x)) // sum\nint g(int n) \x7b \x7d".toList.filter
              (· != '\r') = before ++ mark.beginning ++ behind ∧
            part.position = (Position.start "f.code").after before) ∧
      (program.root.inOrder.map Node.position).Pairwise Position.Precedes := by
  obtain ⟨program, success⟩ := exists_eq_ok_of_isOk <|
    show (parse
      "print <int>2.5 +\r\n f(\"a\nb\", (x)) // sum\nint g(int n) \x7b \x7d"
      "f.code").isOk = true by decide +kernel
  exact ⟨program, success, marks_of_parse success⟩

end Program

end Minilang
