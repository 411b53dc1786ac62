import Mathlib.Data.List.Chain
import Mathlib.Data.List.DropRight
import Minilang.Proofs.Joining.Embeddings
import Minilang.Text.Line

/-!
# The line of a place

A place is found by counting the characters of a text from which the carriage
returns have been taken, and a line is cut from the text as it is. If carriage
returns stand only at the ends of lines the two fit together: `lineAt_filter`
says that the lines are the same, and `exists_line?` that the column of a place
is its column in its line.
-/

namespace Minilang

namespace Text

variable {text line : List Char}

/-- Carriage returns stand only at the ends of lines: what follows one is
another one, a newline or the end of the text. -/
def ReturnsEndLines (text : List Char) : Prop :=
  text.IsChain fun c next => c = '\r' → next = '\r' ∨ next = '\n'

instance (text : List Char) : Decidable (ReturnsEndLines text) :=
  inferInstanceAs (Decidable (text.IsChain _))

/-- A filter that keeps whatever ends the run does not move the end of the
run. -/
theorem span_filter {goesOn keep : Char → Bool}
    (kept : ∀ c, goesOn c = false → keep c = true) (text : List Char) :
    (text.filter keep).takeWhile goesOn = (text.takeWhile goesOn).filter keep ∧
      (text.filter keep).dropWhile goesOn =
        (text.dropWhile goesOn).filter keep := by
  induction text with
  | nil => exact ⟨rfl, rfl⟩
  | cons c text inductionHypothesis =>
      cases within : goesOn c with
      | true =>
          rw [List.takeWhile_cons_of_pos within,
            List.dropWhile_cons_of_pos within]
          cases isKept : keep c with
          | true =>
              rw [List.filter_cons_of_pos isKept,
                List.takeWhile_cons_of_pos within,
                List.dropWhile_cons_of_pos within,
                List.filter_cons_of_pos isKept, inductionHypothesis.1]
              exact ⟨rfl, inductionHypothesis.2⟩
          | false =>
              have dropped : ¬ keep c = true := by simp [isKept]
              rw [List.filter_cons_of_neg dropped,
                List.filter_cons_of_neg dropped]
              exact inductionHypothesis
      | false =>
          have ends : ¬ goesOn c = true := by simp [within]
          have isKept := kept c within
          rw [List.filter_cons_of_pos isKept, List.takeWhile_cons_of_neg ends,
            List.dropWhile_cons_of_neg ends, List.takeWhile_cons_of_neg ends,
            List.dropWhile_cons_of_neg ends, List.filter_cons_of_pos isKept]
          exact ⟨rfl, rfl⟩

/-- In a single line the carriage returns stand at the end. -/
theorem ReturnsEndLines.exists_replicate (regular : ReturnsEndLines line)
    (single : '\n' ∉ line) :
    ∃ body count, line = body ++ List.replicate count '\r' ∧ '\r' ∉ body := by
  induction line with
  | nil => exact ⟨[], 0, rfl, List.not_mem_nil⟩
  | cons c rest inductionHypothesis =>
      obtain ⟨body, count, split, free⟩ :=
        inductionHypothesis regular.tail fun member =>
          single (List.mem_cons_of_mem c member)
      by_cases isReturn : c = '\r'
      · cases body with
        | nil =>
            refine ⟨[], count + 1, ?_, List.not_mem_nil⟩
            rw [isReturn, split, List.replicate_succ]
            rfl
        | cons next others =>
            rw [split, List.cons_append] at regular single
            rcases (List.isChain_cons_cons.1 regular).1 isReturn with
              again | newline
            · exact absurd (again ▸ List.mem_cons_self) free
            · exact absurd (newline ▸ List.mem_cons_of_mem c
                List.mem_cons_self) single
      · refine ⟨c :: body, count, congrArg (c :: ·) split, fun member => ?_⟩
        rcases List.mem_cons.1 member with same | inside
        · exact isReturn same.symm
        · exact free inside

/-- Of a single line it is the same to take away all carriage returns and those
at the end. -/
theorem ReturnsEndLines.dropEndWhile_eq (regular : ReturnsEndLines line)
    (single : '\n' ∉ line) :
    dropEndWhile (· == '\r') line = line.filter (· != '\r') := by
  obtain ⟨body, count, split, free⟩ := regular.exists_replicate single
  have kept : body.filter (· != '\r') = body := by
    rw [List.filter_eq_self]
    intro c member
    rw [bne_iff_ne]
    intro same
    exact free (same ▸ member)
  have dropped : (List.replicate count '\r').filter (· != '\r') = [] := by
    rw [List.filter_eq_nil_iff]
    intro c member
    simp [List.eq_of_mem_replicate member]
  have noneAtEnd : body.rdropWhile (· == '\r') = body := by
    rw [List.rdropWhile_eq_self_iff]
    intro nonempty isReturn
    exact free (eq_of_beq isReturn ▸ List.getLast_mem nonempty)
  rw [split, List.filter_append, kept, dropped, List.append_nil]
  change (body ++ List.replicate count '\r').rdropWhile (· == '\r') = body
  clear split dropped
  induction count with
  | zero => rwa [List.replicate_zero, List.append_nil]
  | succ count inductionHypothesis =>
      rw [List.replicate_succ', ← List.append_assoc,
        List.rdropWhile_concat_pos _ _ _ (by simp)]
      exact inductionHypothesis

/-- If carriage returns stand only at the ends of lines, the lines of a text
without its carriage returns are the lines of the text without those at their
ends. -/
theorem lineAt_filter (regular : ReturnsEndLines text) (earlier : Nat) :
    lineAt earlier (text.filter (· != '\r')) =
      (lineAt earlier text).map (dropEndWhile (· == '\r')) := by
  have kept : ∀ c : Char, (c != '\n') = false → (c != '\r') = true := by
    intro c newline
    rw [bne_eq_false_iff_eq.1 newline]
    decide
  obtain ⟨taken, left⟩ := span_filter kept text
  induction earlier generalizing text with
  | zero =>
      have single : '\n' ∉ text.takeWhile (· != '\n') := by
        intro member
        simpa using List.mem_takeWhile_imp member
      have inLine : ReturnsEndLines (text.takeWhile (· != '\n')) :=
        regular.prefix (List.takeWhile_prefix _)
      rw [lineAt, lineAt, Option.map_some, taken, inLine.dropEndWhile_eq single]
  | succ earlier inductionHypothesis =>
      rw [lineAt, lineAt, left]
      cases rest : text.dropWhile (· != '\n') with
      | nil => rfl
      | cons c below =>
          have newline : c = '\n' := by
            have head := List.head?_dropWhile_not (· != '\n') text
            rw [rest] at head
            simpa using head
          have further : ReturnsEndLines below := by
            have suffix : c :: below <:+ text := rest ▸ List.dropWhile_suffix _
            exact (regular.suffix suffix).tail
          rw [newline, List.filter_cons_of_pos (by decide)]
          exact inductionHypothesis further (span_filter kept below).1
            (span_filter kept below).2

/-- It makes no difference whether the carriage returns are dropped before the
lines are cut or after. -/
theorem line?_of_returnsEndLines {source : String}
    (regular : ReturnsEndLines source.toList)
    (number : Nat) :
    line? source number =
      (lineAt (number - 1) (source.toList.filter (· != '\r'))).map
        String.ofList := by
  rw [line?, lineAt_filter regular, Option.map_map]
  rfl

/-- The line in which a place stands begins with as many characters as its
column says, and goes on with the text behind the place. -/
theorem exists_lineAt (position : Position) (before behind : List Char) :
    ∃ early, lineAt (before.count '\n') (before ++ behind) =
        some (early ++ behind.takeWhile (· != '\n')) ∧
      (position.after before).column =
        early.length + if '\n' ∈ before then 1 else position.column := by
  induction before generalizing position with
  | nil => exact ⟨[], rfl, by simp⟩
  | cons c before inductionHypothesis =>
      obtain ⟨early, line, column⟩ := inductionHypothesis (position.next c)
      by_cases newline : c = '\n'
      · refine ⟨early, ?_, ?_⟩
        · rw [newline, List.count_cons_self, List.cons_append, lineAt,
            List.dropWhile_cons_of_neg (by decide)]
          exact line
        · have below : (position.next c).column = 1 := by
            rw [Position.next, if_pos newline]
          rw [Position.after_cons, column, below, ite_self,
            if_pos (newline ▸ List.mem_cons_self)]
      · have goesOn : (c != '\n') = true := bne_iff_ne.2 newline
        have beside : (position.next c).column = position.column + 1 := by
          rw [Position.next, if_neg newline]
        rw [List.count_cons_of_ne newline, List.cons_append,
          Position.after_cons, column, beside]
        by_cases further : '\n' ∈ before
        · refine ⟨early, ?_,
            by rw [if_pos further, if_pos (List.mem_cons_of_mem c further)]⟩
          obtain ⟨count, same⟩ : ∃ count, before.count '\n' = count + 1 :=
            Nat.exists_eq_succ_of_ne_zero
              (Nat.ne_of_gt (List.count_pos_iff.2 further))
          have dropped : (c :: (before ++ behind)).dropWhile (· != '\n') =
              (before ++ behind).dropWhile (· != '\n') :=
            List.dropWhile_cons_of_pos goesOn
          rw [same] at line ⊢
          rw [lineAt, dropped]
          exact line
        · have first : before.count '\n' = 0 := List.count_eq_zero.2 further
          have noNewline : '\n' ∉ c :: before := by
            intro member
            rcases List.mem_cons.1 member with same | inside
            · exact newline same.symm
            · exact further inside
          refine ⟨c :: early, ?_, ?_⟩
          · have taken : (c :: (before ++ behind)).takeWhile (· != '\n') =
                c :: (before ++ behind).takeWhile (· != '\n') :=
              List.takeWhile_cons_of_pos goesOn
            rw [first, lineAt, Option.some.injEq] at line ⊢
            rw [taken, line]
            rfl
          · rw [if_neg further, if_neg noNewline, List.length_cons]
            omega

/-- A place in a source has a line, and its column is its column in this
line. -/
theorem exists_line? {source : String} (file : String)
    {before behind : List Char} (regular : ReturnsEndLines source.toList)
    (split : before ++ behind = source.toList.filter (· != '\r')) :
    ∃ early, line? source ((Position.start file).after before).line =
        some (String.ofList (early ++ behind.takeWhile (· != '\n'))) ∧
      ((Position.start file).after before).column = early.length + 1 := by
  obtain ⟨early, line, column⟩ := exists_lineAt (.start file) before behind
  obtain ⟨number, _⟩ := @Position.line_after (.start file) before
  have earlier : ((Position.start file).after before).line - 1 =
      before.count '\n' := by
    rw [number, Position.start]
    exact Nat.add_sub_cancel_left 1 _
  refine ⟨early, ?_, ?_⟩
  · rw [line?_of_returnsEndLines regular, earlier, ← split, line,
      Option.map_some]
  · rw [column, Position.start, ite_self]

end Text

end Minilang
