import Minilang.Diagnostic.Display
import Minilang.Proofs.Display.Lines
import Minilang.Proofs.Rejection.Places

/-!
# Where a shown diagnostic points

The display of a diagnostic shows a line of the source without its indentation
and without the blanks at its end, and below it a caret. A rejection has a place
where the cursor rests, so the character there, if there is one, is not a blank
and has not been taken away, and the caret stands under it. The main statement
is `pointsInto_of_rejects`.
-/

namespace Minilang

namespace Diagnostic

/-- Of the last two lines of a display the upper one shows a line of the source
behind its number, without its indentation and without the blanks at its end,
and the lower one has a single caret. It stands as far behind the number as the
column of the diagnostic is behind the indentation, and so under the character
in that column, if there is one. -/
structure PointsUnder (diagnostic : Diagnostic) (row : List Char)
    (upper lower : String) (visible blanks under : List Char) : Prop where
  row_eq : row = row.takeWhile isIndent ++ visible ++ blanks
  isBlank : ∀ c ∈ blanks, Text.isBlank c = true
  ends : ∀ nonempty : visible ≠ [],
    Text.isBlank (visible.getLast nonempty) = false
  upper_eq : upper.toList = (diagnostic.lineNumber ++ " | ").toList ++ visible
  lower_eq : lower.toList = under ++ ['^']
  single : '^' ∉ under
  reaches : (row.takeWhile isIndent).length ≤ diagnostic.position.column - 1
  column : under.length = (diagnostic.lineNumber ++ " | ").length +
    (diagnostic.position.column - 1 - (row.takeWhile isIndent).length)
  shown (c : Char) : row[diagnostic.position.column - 1]? = some c →
    upper.toList[under.length]? = some c

/-- The display of the diagnostic points to its place in the source. The text
before the place and the text behind it make up the source without its carriage
returns. The line of the place exists, and its column lies in it or just behind
it. If there is a character at the place, the caret stands under it, and else
the place is the end of the source, and the caret stands where its line would go
on. The display can be printed if the column is not too large. -/
structure PointsInto (diagnostic : Diagnostic) (source file : String)
    (before behind row : List Char) : Prop where
  split : before ++ behind = source.toList.filter (· != '\r')
  place : diagnostic.position = (Position.start file).after before
  isLine : Text.line? source diagnostic.position.line = some (String.ofList row)
  column_pos : 1 ≤ diagnostic.position.column
  column_le : diagnostic.position.column ≤ row.length + 1
  inLine (c : Char) : behind.head? = some c →
    row[diagnostic.position.column - 1]? = some c
  atEnd : behind = [] → diagnostic.position.column = row.length + 1
  shows : ∃ heading place margin upper lower visible blanks under,
    diagnostic.display source = [heading, place, margin, upper, lower] ∧
    diagnostic.PointsUnder row upper lower visible blanks under
  fits : diagnostic.position.column ≤ Text.widest →
    diagnostic.fits source = true

theorem isBlank_of_isIndent {c : Char} (indents : isIndent c = true) :
    Text.isBlank c = true := by
  rw [isIndent, Bool.or_eq_true, beq_iff_eq, beq_iff_eq] at indents
  rcases indents with rfl | rfl <;> decide

/-- A character that is not a blank does not end its line. -/
theorem head?_takeWhile_line {behind : List Char}
    (notBlank : ∀ c, behind.head? = some c → Text.isBlank c = false) :
    (behind.takeWhile (· != '\n')).head? = behind.head? := by
  cases behind with
  | nil => rfl
  | cons c rest =>
      have goesOn : (c != '\n') = true := by
        rw [bne_iff_ne]
        intro newline
        cases (newline ▸ notBlank c rfl : Text.isBlank '\n' = false)
      have taken : (c :: rest).takeWhile (· != '\n') =
          c :: rest.takeWhile (· != '\n') :=
        List.takeWhile_cons_of_pos goesOn
      rw [taken]
      rfl

/-- A place whose character is not a blank, or where the line ends, lies behind
the indentation. -/
theorem length_indentation_le {early behind : List Char}
    (notBlank : ∀ c, behind.head? = some c → Text.isBlank c = false) :
    ((early ++ behind).takeWhile isIndent).length ≤ early.length := by
  have none : behind.takeWhile isIndent = [] := by
    cases behind with
    | nil => rfl
    | cons c rest =>
        refine List.takeWhile_cons_of_neg fun indents => ?_
        cases (isBlank_of_isIndent indents).symm.trans (notBlank c rfl)
  rw [List.takeWhile_append, none, List.append_nil]
  split
  · exact Nat.le_refl _
  · exact (List.takeWhile_prefix _).length_le

/-- A character that is not a blank is shown as far behind the indentation as it
stands there. -/
theorem getElem?_visible {indentation visible blanks : List Char} {index : Nat}
    {c : Char} (isBlank : ∀ c ∈ blanks, Text.isBlank c = true)
    (reaches : indentation.length ≤ index)
    (found : (indentation ++ visible ++ blanks)[index]? = some c)
    (notBlank : Text.isBlank c = false) :
    visible[index - indentation.length]? = some c := by
  rw [List.append_assoc, List.getElem?_append_right reaches] at found
  by_cases within : index - indentation.length < visible.length
  · rwa [List.getElem?_append_left within] at found
  · rw [List.getElem?_append_right (Nat.le_of_not_lt within)] at found
    cases (isBlank c (List.mem_of_getElem? found)).symm.trans notBlank

/-! ## The last two lines of a display -/

/-- In front of the caret stand the margin, a space and the dashes. -/
theorem toList_pointer (diagnostic : Diagnostic) (removed : Nat) :
    (diagnostic.margin ++ " " ++ diagnostic.pointer removed).toList =
      (diagnostic.margin ++ " ").toList ++
        List.replicate (diagnostic.position.column - 1 - removed) '-' ++
      ['^'] := by
  have width : max 1 (diagnostic.position.column - removed) - 1 =
      diagnostic.position.column - 1 - removed := by omega
  rw [String.toList_append, pointer, Text.toList_alignRight, ← width,
    List.append_assoc]
  rfl

/-- The two lines with a number and without one begin at the same width. -/
theorem length_margin (diagnostic : Diagnostic) :
    (diagnostic.margin ++ " ").toList.length =
      (diagnostic.lineNumber ++ " | ").toList.length := by
  have bar : "|".toList.length = 1 := rfl
  rw [String.toList_append, List.length_append, margin, Text.length_alignRight,
    bar, String.toList_append, List.length_append, String.length_toList]
  change max (diagnostic.lineNumber.length + 2) 1 + 1 =
    diagnostic.lineNumber.length + 3
  omega

theorem not_mem_pointer (diagnostic : Diagnostic) (dashes : Nat) :
    '^' ∉ (diagnostic.margin ++ " ").toList ++ List.replicate dashes '-' := by
  rw [String.toList_append, margin, Text.toList_alignRight]
  intro member
  simp only [List.mem_append, List.mem_replicate] at member
  rcases member with ((⟨_, same⟩ | inBar) | inSpace) | ⟨_, same⟩
  · exact absurd same (by decide)
  · exact absurd inBar (by decide)
  · exact absurd inSpace (by decide)
  · exact absurd same (by decide)

/-- A line is shown between its indentation and the blanks at its end. -/
theorem exists_blanks (row : List Char) :
    ∃ visible blanks,
      Text.dropEndWhile Text.isBlank (row.dropWhile isIndent) = visible ∧
      row = row.takeWhile isIndent ++ visible ++ blanks ∧
      (∀ c ∈ blanks, Text.isBlank c = true) ∧
      ∀ nonempty : visible ≠ [],
        Text.isBlank (visible.getLast nonempty) = false := by
  have stripped : Text.dropEndWhile Text.isBlank (row.dropWhile isIndent) ++
      (row.dropWhile isIndent).rtakeWhile Text.isBlank =
        row.dropWhile isIndent :=
    List.rdropWhile_append_rtakeWhile
  refine ⟨_, (row.dropWhile isIndent).rtakeWhile Text.isBlank, rfl, ?_, ?_, ?_⟩
  · rw [List.append_assoc, stripped, List.takeWhile_append_dropWhile]
  · exact fun c member => List.mem_rtakeWhile_imp member
  · intro nonempty
    exact eq_false_of_ne_true (List.rdropWhile_last_not _ _ nonempty)

/-- The display points to its place in the source line if the place lies behind
the indentation and its character is not a blank. -/
theorem exists_pointsUnder (diagnostic : Diagnostic) {source : String}
    {row : List Char}
    (isLine : Text.line? source diagnostic.position.line =
      some (String.ofList row))
    (reaches : (row.takeWhile isIndent).length ≤ diagnostic.position.column - 1)
    (notBlank : ∀ c, row[diagnostic.position.column - 1]? = some c →
      Text.isBlank c = false) :
    ∃ heading place margin upper lower visible blanks under,
      diagnostic.display source = [heading, place, margin, upper, lower] ∧
      diagnostic.PointsUnder row upper lower visible blanks under := by
  have sameLine : (diagnostic.sourceLine source).toList = row := by
    rw [sourceLine, isLine, Option.getD_some, String.toList_ofList]
  obtain ⟨visible, blanks, isVisible, split, isBlank, ends⟩ := exists_blanks row
  refine ⟨_, _, _, _, _, visible, blanks,
    (diagnostic.margin ++ " ").toList ++ List.replicate
      (diagnostic.position.column - 1 - (row.takeWhile isIndent).length) '-',
    rfl, ?_⟩
  rw [sameLine, isVisible]
  have upper : (diagnostic.lineNumber ++ " | " ++
      String.ofList visible).toList =
      (diagnostic.lineNumber ++ " | ").toList ++ visible := by
    rw [String.toList_append, String.toList_ofList]
  have column : ((diagnostic.margin ++ " ").toList ++ List.replicate
        (diagnostic.position.column - 1 - (row.takeWhile isIndent).length)
          '-').length =
      (diagnostic.lineNumber ++ " | ").length +
        (diagnostic.position.column - 1 - (row.takeWhile isIndent).length) := by
    rw [List.length_append, length_margin, List.length_replicate,
      String.length_toList]
  refine ⟨split, isBlank, ends, upper, toList_pointer diagnostic _,
    not_mem_pointer diagnostic _, reaches, column, ?_⟩
  intro c found
  rw [upper, column, ← String.length_toList,
    List.getElem?_append_right (Nat.le_add_right _ _), Nat.add_sub_cancel_left]
  exact getElem?_visible isBlank reaches (split ▸ found) (notBlank c found)

/-- A pointer is no wider than its column is large. -/
theorem fits_of_column_le (diagnostic : Diagnostic) (source : String)
    (positive : 1 ≤ diagnostic.position.column)
    (small : diagnostic.position.column ≤ Text.widest) :
    diagnostic.fits source = true := by
  rw [fits, pointerWidth, decide_eq_true_eq]
  omega

example : (Diagnostic.mk (.predicateType "Integer") ⟨"f.code", 2, 5⟩).display
    "int x = 1\r\n\tif x \x7b \x7d \r\n" =
      ["Error: PredicateNotBoolean (Predicate must evaluate to `Boolean`, received `Integer`)",
        "-> f.code", "  |", "2 | if x \x7b \x7d", "  | ---^"] := by
  decide +kernel

end Diagnostic

namespace Program

variable {source file : String} {diagnostic : Diagnostic}

/-- Where the cursor rests, it stands before a character that is not a blank, or
at the end. -/
theorem exists_split_of_restsAt {position : Position}
    (rests : (Cursor.origin source file).RestsAt position) :
    ∃ before behind, before ++ behind = source.toList.filter (· != '\r') ∧
      position = (Position.start file).after before ∧
      ∀ c, behind.head? = some c → Text.isBlank c = false := by
  obtain ⟨cursor, rests, rfl⟩ := rests
  obtain ⟨before, split, position⟩ := rests.reaches.split_source
  exact ⟨before, cursor.rest, split, position, rests.noBlank.1⟩

/-- If carriage returns stand only at the ends of lines, the display of a
diagnostic with which a source is rejected points to the place of the
diagnostic. -/
theorem pointsInto_of_rejects (regular : Text.ReturnsEndLines source.toList)
    (rejects : Rejects source file diagnostic) :
    ∃ before behind row,
      diagnostic.PointsInto source file before behind row := by
  obtain ⟨before, behind, split, position, notBlank⟩ :=
    exists_split_of_restsAt (restsAt_of_rejects rejects)
  obtain ⟨early, isLine, column⟩ := Text.exists_line? file regular split
  rw [← position] at isLine column
  have index : diagnostic.position.column - 1 = early.length := by omega
  have inLine := Diagnostic.head?_takeWhile_line notBlank
  generalize behind.takeWhile (· != '\n') = ahead at isLine inLine
  have atPlace :
      (early ++ ahead)[diagnostic.position.column - 1]? = behind.head? := by
    rw [index, List.getElem?_append_right (Nat.le_refl _), Nat.sub_self,
      ← inLine, List.head?_eq_getElem?]
  have reaches : ((early ++ ahead).takeWhile Diagnostic.isIndent).length ≤
      diagnostic.position.column - 1 := by
    rw [index]
    exact Diagnostic.length_indentation_le fun c head =>
      notBlank c (inLine ▸ head)
  have positive : 1 ≤ diagnostic.position.column := by omega
  refine ⟨before, behind, early ++ ahead, split, position, isLine, positive, ?_,
    ?_, ?_, ?_, diagnostic.fits_of_column_le source positive⟩
  · rw [column, List.length_append]
    omega
  · intro c head
    rw [atPlace, head]
  · intro ends
    rw [ends] at inLine
    rw [List.head?_eq_none_iff.1 inLine, List.append_nil, column]
  · exact diagnostic.exists_pointsUnder isLine reaches fun c found =>
      notBlank c (atPlace ▸ found)

/-- The place is inside an indented line, or at the end of a source whose last
line has an indentation and one more blank only. -/
theorem pointsInto_of_rejects_indented :
    (Text.ReturnsEndLines "int x = 1\r\n\tif x \x7b \x7d \r\n".toList ∧
      Rejects "int x = 1\r\n\tif x \x7b \x7d \r\n" "f.code"
        ⟨.predicateType "Integer", ⟨"f.code", 2, 5⟩⟩ ∧
      ∃ before behind row,
        Diagnostic.PointsInto ⟨.predicateType "Integer", ⟨"f.code", 2, 5⟩⟩
          "int x = 1\r\n\tif x \x7b \x7d \r\n" "f.code" before behind row) ∧
    Text.ReturnsEndLines "print\r\n \t\u3000".toList ∧
      Rejects "print\r\n \t\u3000" "f.code"
        ⟨.unexpectedToken "expression" "end of input", ⟨"f.code", 2, 4⟩⟩ ∧
      (∃ before behind row,
        Diagnostic.PointsInto
          ⟨.unexpectedToken "expression" "end of input", ⟨"f.code", 2, 4⟩⟩
          "print\r\n \t\u3000" "f.code" before behind row) ∧
      (Diagnostic.mk (.unexpectedToken "expression" "end of input")
          ⟨"f.code", 2, 4⟩).display "print\r\n \t\u3000" =
        ["Error: UnexpectedToken (Expected expression, got end of input)",
          "-> f.code", "  |", "2 | ", "  | -^"] := by
  have rejects {source : String} {diagnostic : Diagnostic}
      (stops : Steps.stopsWith (.diagnostic diagnostic)
        ((compile source "f.code").run []) = true) :
      Rejects source "f.code" diagnostic := by
    obtain ⟨later, rejected⟩ := Steps.exists_error_of_stopsWith stops
    exact .compiling rejected
  have inside : Rejects "int x = 1\r\n\tif x \x7b \x7d \r\n" "f.code"
      ⟨.predicateType "Integer", ⟨"f.code", 2, 5⟩⟩ :=
    rejects (by decide +kernel)
  have atEnd : Rejects "print\r\n \t\u3000" "f.code"
      ⟨.unexpectedToken "expression" "end of input", ⟨"f.code", 2, 4⟩⟩ :=
    rejects (by decide +kernel)
  have regular :
      Text.ReturnsEndLines "int x = 1\r\n\tif x \x7b \x7d \r\n".toList := by
    decide +kernel
  have regularAtEnd : Text.ReturnsEndLines "print\r\n \t\u3000".toList := by
    decide +kernel
  exact ⟨⟨regular, inside, pointsInto_of_rejects regular inside⟩, regularAtEnd,
    atEnd, pointsInto_of_rejects regularAtEnd atEnd, by decide +kernel⟩

end Program

end Minilang
