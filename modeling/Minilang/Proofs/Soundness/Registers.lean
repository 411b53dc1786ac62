import Minilang.Cursor.Basic

/-!
# Cursors in a machine

A machine keeps a cursor in registers: the offset of the next character in
bytes, and the line and the column in 32 bits each. To move, it takes the text
from the offset on, which is possible between two characters only, and counts up
the line or the column, which is possible up to the largest number only. The
main statement is `Registers.keeps_bumps`: in a source that is not too long the
machine can always move, and its registers keep the cursor.
-/

namespace Minilang

namespace Position

/-- With each character either the line or the column grows by one, and a column
may fall back to the first. -/
theorem bounds_next {position : Position} (line : 0 < position.line)
    (column : 0 < position.column)
    (c : Char) :
    0 < (position.next c).line ∧ 0 < (position.next c).column ∧
      (position.next c).line + (position.next c).column ≤ position.line +
        position.column + 1 := by
  unfold next
  by_cases newline : c = '\n'
  · rw [if_pos newline]
    dsimp only
    omega
  · rw [if_neg newline]
    dsimp only
    omega

theorem bounds_after {position : Position} (line : 0 < position.line)
    (column : 0 < position.column) (text : List Char) :
    0 < (position.after text).line ∧ 0 < (position.after text).column ∧
      (position.after text).line + (position.after text).column ≤
        position.line + position.column + text.length := by
  induction text generalizing position with
  | nil => exact ⟨line, column, Nat.le_refl _⟩
  | cons c rest inductionHypothesis =>
      obtain ⟨nextLine, nextColumn, one⟩ := bounds_next line column c
      obtain ⟨laterLine, laterColumn, bound⟩ :=
        inductionHypothesis nextLine nextColumn
      rw [after_cons, List.length_cons]
      exact ⟨laterLine, laterColumn, by omega⟩

/-- The line and the column have no more than 32 bits each. -/
def IsCounted (position : Position) : Prop :=
  position.line < UInt32.size ∧ position.column < UInt32.size

/-- Line and column together grow by at most one with each character. -/
theorem isCounted_after (file : String) {text : List Char}
    (short : text.length + 1 < UInt32.size) :
    ((start file).after text).IsCounted := by
  obtain ⟨line, column, bound⟩ : 0 < ((start file).after text).line ∧
      0 < ((start file).after text).column ∧
      ((start file).after text).line + ((start file).after text).column ≤
        1 + 1 + text.length :=
    bounds_after Nat.zero_lt_one Nat.zero_lt_one text
  constructor <;> omega

end Position

/-- The text of a source as the cursor sees it: without the carriage returns. -/
def sourceText (source : String) : String :=
  String.ofList (source.toList.filter (· != '\r'))

def Cursor.origin (source file : String) : Cursor :=
  ⟨.start file, (sourceText source).toList⟩

theorem Cursor.rest_origin (source file : String) :
    (origin source file).rest = source.toList.filter (· != '\r') := by
  rw [origin, sourceText, String.toList_ofList]

theorem Cursor.start_eq (source file : String) :
    Cursor.start source file = (Cursor.origin source file).skipTrivia := by
  rw [start, origin, sourceText, String.toList_ofList]

theorem length_sourceText_le (source : String) :
    (sourceText source).length ≤ source.length := by
  rw [← String.length_toList, sourceText, String.toList_ofList,
    ← String.length_toList]
  exact List.length_filter_le _ _

/-- The registers in which a machine keeps a cursor. The offset counts bytes. -/
structure Registers where
  offset : Nat
  line : UInt32
  column : UInt32

namespace Registers

def start : Registers :=
  ⟨0, 1, 1⟩

/-- The text from the offset on. There is none if the offset lies inside a
character or behind the end. -/
def slice? (text : String) (offset : Nat) : Option String :=
  if valid : String.Pos.Raw.IsValid text ⟨offset⟩ then
    some (text.sliceFrom ⟨⟨offset⟩, valid⟩).copy
  else none

/-- The next number, if it has no more than 32 bits. -/
def increment? (number : UInt32) : Option UInt32 :=
  if number.toNat + 1 < UInt32.size then some (number + 1) else none

/-- The registers behind the next character. At the end of the text they stay as
they are. There are none if the text cannot be taken from the offset on, or if a
count is exhausted. -/
def bump? (text : String) (registers : Registers) : Option Registers := do
  match (← slice? text registers.offset).toList with
  | [] => return registers
  | c :: _ =>
    if c = '\n' then
      return ⟨registers.offset + c.utf8Size, ← increment? registers.line, 1⟩
    else
      return ⟨registers.offset + c.utf8Size, registers.line,
        ← increment? registers.column⟩

def bumps? (text : String) : Nat → Option Registers
  | 0 => some start
  | count + 1 => (bumps? text count).bind (bump? text)

/-- The registers keep the cursor: they show its place, and from the offset on
its text can be taken, and also what comes behind any text that is next. -/
structure Keeps (text : String) (registers : Registers)
    (cursor : Cursor) : Prop where
  line : registers.line.toNat = cursor.position.line
  column : registers.column.toNat = cursor.position.column
  slice : slice? text registers.offset = some (String.ofList cursor.rest)
  behind : ∀ next : String, next.toList <+: cursor.rest →
    slice? text (registers.offset + next.utf8ByteSize) =
      some (String.ofList (cursor.rest.drop next.length))

/-- Behind any beginning of a text the rest can be taken. -/
theorem slice?_append (before behind : String) :
    slice? (before ++ behind) before.utf8ByteSize = some behind := by
  have valid : String.Pos.Raw.IsValid (before ++ behind)
      ⟨before.utf8ByteSize⟩ :=
    String.Pos.Raw.isValid_iff_exists_append.2 ⟨before, behind, rfl, rfl⟩
  have splits : String.Pos.Splits
      (⟨⟨before.utf8ByteSize⟩, valid⟩ : (before ++ behind).Pos) before
      behind := ⟨rfl, rfl⟩
  rw [slice?, dif_pos valid, splits.copy_sliceFrom_eq]

theorem increment?_of_lt {number : UInt32}
    (below : number.toNat + 1 < UInt32.size) :
    increment? number = some (number + 1) ∧
    (number + 1).toNat = number.toNat + 1 := by
  refine ⟨if_pos below, ?_⟩
  rw [UInt32.toNat_add]
  exact Nat.mod_eq_of_lt below

/-- The registers stand behind the text with which the source begins. -/
structure Marks (registers : Registers) (file : String)
    (before : List Char) : Prop where
  offset : registers.offset = (String.ofList before).utf8ByteSize
  line : registers.line.toNat = ((Position.start file).after before).line
  column : registers.column.toNat = ((Position.start file).after before).column

variable {text file : String} {registers : Registers}
  {before behind : List Char}

theorem Marks.slice (marks : registers.Marks file before)
    (whole : before ++ behind = text.toList) :
    slice? text registers.offset = some (String.ofList behind) := by
  have split : text = String.ofList before ++ String.ofList behind := by
    rw [← String.ofList_append, whole, String.ofList_toList]
  rw [marks.offset, split, slice?_append]

/-- The text is taken at the border of two characters, as the offset is the size
of a text in front of it. -/
theorem Marks.keeps (marks : registers.Marks file before)
    (whole : before ++ behind = text.toList) :
    registers.Keeps text ⟨(Position.start file).after before, behind⟩ where
  line := marks.line
  column := marks.column
  slice := marks.slice whole
  behind := by
    intro next ahead
    obtain ⟨rest, rfl⟩ := ahead
    have split : text = (String.ofList before ++ next) ++
        String.ofList rest := by
      rw [← String.ofList_toList (s := text), ← whole, String.ofList_append,
        String.ofList_append, String.ofList_toList, String.append_assoc]
    rw [← String.length_toList, List.drop_left, marks.offset,
      ← String.utf8ByteSize_append, split, slice?_append]

/-- The machine moves over one more character of the text. -/
theorem Marks.bump (marks : registers.Marks file before) {c : Char}
    (whole : before ++ c :: behind = text.toList)
    (short : text.length + 1 < UInt32.size) :
    ∃ next, bump? text registers = some next ∧
      next.Marks file (before ++ [c]) := by
  have shorter : before.length + 1 ≤ text.length := by
    rw [← String.length_toList, ← whole, List.length_append, List.length_cons]
    omega
  obtain ⟨line, column, bound⟩ : 0 < ((Position.start file).after before).line ∧
      0 < ((Position.start file).after before).column ∧
      ((Position.start file).after before).line +
        ((Position.start file).after before).column ≤
        1 + 1 + before.length :=
    Position.bounds_after Nat.zero_lt_one Nat.zero_lt_one before
  have offset : registers.offset + c.utf8Size =
      (String.ofList (before ++ [c])).utf8ByteSize := by
    rw [marks.offset, String.ofList_append, String.utf8ByteSize_append,
      ← String.singleton_eq_ofList, String.utf8ByteSize_singleton]
  have place : (Position.start file).after (before ++ [c]) =
      ((Position.start file).after before).next c := by
    rw [Position.after_append]
    rfl
  simp only [bump?, marks.slice whole, String.toList_ofList,
    Option.bind_eq_bind, Option.bind_some]
  by_cases newline : c = '\n'
  · have below : registers.line.toNat + 1 < UInt32.size := by
      rw [marks.line]
      omega
    obtain ⟨next, more⟩ := increment?_of_lt below
    rw [if_pos newline, next]
    refine ⟨_, rfl, offset, ?_, ?_⟩
    · rw [more, place, marks.line, Position.next, if_pos newline]
    · rw [place, Position.next, if_pos newline]
      rfl
  · have below : registers.column.toNat + 1 < UInt32.size := by
      rw [marks.column]
      omega
    obtain ⟨next, more⟩ := increment?_of_lt below
    rw [if_neg newline, next]
    refine ⟨_, rfl, offset, ?_, ?_⟩
    · rw [place, marks.line, Position.next, if_neg newline]
    · rw [more, place, marks.column, Position.next, if_neg newline]

/-- In a source that is not too long the machine can move over any number of
characters, and its registers keep the cursor. -/
theorem keeps_bumps (short : text.length + 1 < UInt32.size) (file : String)
    (count : Nat) :
    ∃ registers, bumps? text count = some registers ∧
      registers.Keeps text
      ((⟨.start file, text.toList⟩ : Cursor).drop count) := by
  have marked : ∃ registers, bumps? text count = some registers ∧
      registers.Marks file (text.toList.take count) := by
    induction count with
    | zero => exact ⟨start, rfl, rfl, rfl, rfl⟩
    | succ count inductionHypothesis =>
        obtain ⟨registers, bumped, marks⟩ := inductionHypothesis
        rw [bumps?, bumped, Option.bind_some]
        have whole := List.take_append_drop count text.toList
        cases left : text.toList.drop count with
        | nil =>
            have same : text.toList.take (count + 1) =
                text.toList.take count := by
              rw [List.take_add, left, List.take_nil, List.append_nil]
            rw [left] at whole
            refine ⟨registers, ?_, by rwa [same]⟩
            simp only [bump?, marks.slice whole, String.toList_ofList,
              Option.bind_eq_bind, Option.bind_some]
            rfl
        | cons c behind =>
            have next : text.toList.take (count + 1) = text.toList.take count ++
                [c] := by
              rw [List.take_add, left]
              rfl
            rw [left] at whole
            rw [next]
            exact marks.bump whole short
  obtain ⟨registers, bumped, marks⟩ := marked
  exact ⟨registers, bumped,
    marks.keeps (List.take_append_drop count text.toList)⟩

end Registers

end Minilang
