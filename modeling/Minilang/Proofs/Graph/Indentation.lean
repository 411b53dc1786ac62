import Minilang.Node.Pretty
import Minilang.Proofs.Graph.Bracketed
import Minilang.Proofs.Graph.Quoting

/-!
# Indented graphs

In the graph of a tree each bracket but the first stands behind a space and
inside another bracket, and there is no newline: `isSpaced_inside`. When such a
text is spread over lines, these spaces are all that is lost, each line begins
with two spaces for each bracket that is open there, and each bracket but the
first begins a line: `Node.pretty_graph`.
-/

namespace Minilang

/-- A character of a graph stands outside of strings, inside one, or behind a
backslash in one. -/
inductive Mode where
  | plain
  | quoted
  | escaped
deriving DecidableEq, Repr

/-- A point of a graph: how many brackets are open there, and whether it lies in
a string. -/
structure Point where
  depth : Nat
  mode : Mode
deriving DecidableEq, Repr

namespace Point

def start : Point :=
  ⟨0, .plain⟩

/-- The point behind a character. In a string a bracket opens and closes
nothing, and a double quote ends the string unless it stands behind a
backslash. -/
def next : Point → Char → Point
  | ⟨depth, .plain⟩, '"' => ⟨depth, .quoted⟩
  | ⟨depth, .plain⟩, '[' => ⟨depth + 1, .plain⟩
  | ⟨depth, .plain⟩, ']' => ⟨depth - 1, .plain⟩
  | ⟨depth, .plain⟩, _ => ⟨depth, .plain⟩
  | ⟨depth, .quoted⟩, '"' => ⟨depth, .plain⟩
  | ⟨depth, .quoted⟩, '\\' => ⟨depth, .escaped⟩
  | ⟨depth, .quoted⟩, _ => ⟨depth, .quoted⟩
  | ⟨depth, .escaped⟩, _ => ⟨depth, .quoted⟩

def after (point : Point) (text : List Char) : Point :=
  text.foldl next point

variable {point : Point} {depth : Nat} {c : Char} {rest : List Char}

theorem after_cons : point.after (c :: rest) = (point.next c).after rest :=
  rfl

theorem next_of_clear (clear : Bracketed.isMark c = false) :
    next ⟨depth, .plain⟩ c = ⟨depth, .plain⟩ := by
  unfold next
  split <;> simp_all [Bracketed.isMark]

theorem next_of_inside (noQuote : c ≠ '"') (noSlash : c ≠ '\\') :
    next ⟨depth, .quoted⟩ c = ⟨depth, .quoted⟩ := by
  unfold next
  split <;> simp_all

end Point

/-- From the point on there is no newline, and each bracket that opens outside
of strings stands behind a space and inside another bracket. -/
inductive IsSpaced : Point → List Char → Prop where
  | nil {point : Point} : IsSpaced point []
  | other {point : Point} {c : Char} {rest : List Char} :
      c ≠ '\n' →
      (point.mode = .plain → c ≠ '[') →
      IsSpaced (point.next c) rest →
      IsSpaced point (c :: rest)
  | bracket {depth : Nat} {rest : List Char} :
      IsSpaced ⟨depth + 2, .plain⟩ rest →
      IsSpaced ⟨depth + 1, .plain⟩ (' ' :: '[' :: rest)

namespace IsSpaced

variable {depth : Nat} {rest : List Char}

theorem space (spaced : IsSpaced ⟨depth, .plain⟩ rest) :
    IsSpaced ⟨depth, .plain⟩ (' ' :: rest) :=
  .other (by decide) (fun _ => by decide) spaced

theorem word {letters : List Char}
    (clear : letters.all (!Bracketed.isMark ·) = true)
    (spaced : IsSpaced ⟨depth, .plain⟩ rest) :
    IsSpaced ⟨depth, .plain⟩ (letters ++ rest) := by
  induction letters with
  | nil => exact spaced
  | cons c letters inductionHypothesis =>
      rw [List.all_cons, Bool.and_eq_true, Bool.not_eq_true'] at clear
      refine .other ?_ (fun _ => ?_) ?_
      · rintro rfl
        cases clear.1
      · rintro rfl
        cases clear.1
      · rw [Point.next_of_clear clear.1]
        exact inductionHypothesis clear.2

theorem inside {c : Char} (noNewline : c ≠ '\n') (noQuote : c ≠ '"')
    (noSlash : c ≠ '\\')
    (spaced : IsSpaced ⟨depth, .quoted⟩ rest) :
    IsSpaced ⟨depth, .quoted⟩ (c :: rest) := by
  refine .other noNewline (fun plain => by cases plain) ?_
  rwa [Point.next_of_inside noQuote noSlash]

theorem escape {c : Char} (noNewline : c ≠ '\n')
    (spaced : IsSpaced ⟨depth, .quoted⟩ rest) :
    IsSpaced ⟨depth, .quoted⟩ ('\\' :: c :: rest) := by
  have behind : IsSpaced ⟨depth, .escaped⟩ (c :: rest) :=
    .other noNewline (fun plain => by cases plain) spaced
  exact .other (by decide) (fun plain => by cases plain) behind

theorem alphanumeric {letters : List Char}
    (all : letters.all Char.isAlphanum = true)
    (spaced : IsSpaced ⟨depth, .quoted⟩ rest) :
    IsSpaced ⟨depth, .quoted⟩ (letters ++ rest) := by
  induction letters with
  | nil => exact spaced
  | cons c letters inductionHypothesis =>
      rw [List.all_cons, Bool.and_eq_true] at all
      refine inside ?_ ?_ ?_ (inductionHypothesis all.2) <;>
        (rintro rfl; exact absurd all.1 (by decide))

/-- However a character is written in a string, the string stays open. -/
theorem quotes {c : Char} {written : List Char} (quotes : Text.Quotes c written)
    (spaced : IsSpaced ⟨depth, .quoted⟩ rest) :
    IsSpaced ⟨depth, .quoted⟩ (written ++ rest) := by
  cases quotes with
  | named member =>
      exact escape (Text.ne_newline_of_mem_namedEscapes _ member) spaced
  | coded =>
      have brace : IsSpaced ⟨depth, .quoted⟩ ('}' :: rest) :=
        inside (by decide) (by decide) (by decide) spaced
      have digits := brace.alphanumeric (Text.isAlphanum_hexDigits c.toNat)
      rw [Text.codePointEscape, List.append_assoc, List.append_assoc]
      exact escape (by decide)
        (inside (by decide) (by decide) (by decide) digits)
  | plain unnamed =>
      refine inside ?_ ?_ ?_ spaced <;> (rintro rfl; cases unnamed)

theorem quoteChars (text : List Char)
    (spaced : IsSpaced ⟨depth, .quoted⟩ rest) :
    IsSpaced ⟨depth, .quoted⟩ (Text.quoteChars text ++ rest) := by
  induction text with
  | nil => exact spaced
  | cons c text inductionHypothesis =>
      rw [Text.quoteChars, List.flatMap_cons, List.append_assoc]
      exact quotes (Text.quotes_quoteChar c) inductionHypothesis

end IsSpaced

namespace Bracketed

mutual

theorem isSpaced_text :
    (item : Bracketed) → {depth : Nat} → {rest : List Char} → item.AllClear →
    IsSpaced ⟨depth + 1, .plain⟩ rest →
    IsSpaced ⟨depth + 1, .plain⟩ (' ' :: item.text ++ rest)
  | word _, _, _, clear, spaced => (spaced.word clear).space
  | quoted contents, depth, rest, _, spaced => by
      have closed : IsSpaced ⟨depth + 1, .quoted⟩ ('"' :: rest) :=
        .other (by decide) (fun plain => by cases plain) spaced
      have opened : IsSpaced ⟨depth + 1, .plain⟩
          ('"' :: (Text.quoteChars contents.toList ++ '"' :: rest)) :=
        .other (by decide) (fun _ => by decide)
          (closed.quoteChars contents.toList)
      rw [text, Text.toList_quoted]
      simpa using opened.space
  | group _ items, depth, rest, clear, spaced => by
      have ended : IsSpaced ⟨depth + 2, .plain⟩ (']' :: rest) :=
        .other (by decide) (fun _ => by decide) spaced
      have inside := (isSpaced_texts items clear.2 ended).word clear.1
      rw [text]
      simpa using IsSpaced.bracket inside

theorem isSpaced_texts :
    (items : List Bracketed) → {depth : Nat} → {rest : List Char} →
    EachClear items → IsSpaced ⟨depth + 1, .plain⟩ rest →
    IsSpaced ⟨depth + 1, .plain⟩ (texts items ++ rest)
  | [], _, _, _, spaced => spaced
  | item :: items, _, _, clear, spaced => by
      rw [texts, List.append_assoc]
      exact isSpaced_text item clear.1 (isSpaced_texts items clear.2 spaced)

end

theorem text_group {head : String} {items : List Bracketed} :
    (group head items).text =
      '[' :: (head.toList ++ (texts items ++ [']'])) := by
  rw [text, List.cons_append, List.append_assoc]

/-- Behind the first bracket of a text, each bracket stands behind a space and
inside another. -/
theorem isSpaced_inside {head : String} {items : List Bracketed}
    (clear : IsClear head)
    (itemsClear : EachClear items) :
    IsSpaced ⟨1, .plain⟩ (head.toList ++ (texts items ++ [']'])) := by
  have closed : IsSpaced ⟨1, .plain⟩ [']'] :=
    .other (by decide) (fun _ => by decide) .nil
  exact (isSpaced_texts items itemsClear closed).word clear

end Bracketed

open Node

/-- The text from the point on as it is spread over lines. -/
def prettyAt (point : Point) (text : List Char) : List Char :=
  match point.mode, text with
  | .plain, text => prettyPlain point.depth text
  | .quoted, text => prettyQuoted point.depth text
  | .escaped, [] => []
  | .escaped, c :: rest => c :: prettyQuoted point.depth rest

variable {point : Point} {depth : Nat} {c : Char} {text rest : List Char}

theorem prettyAt_nil : prettyAt point [] = [] := by
  obtain ⟨depth, mode⟩ := point
  cases mode <;> simp [prettyAt, prettyPlain, prettyQuoted]

theorem prettyAt_quoted : prettyAt ⟨depth, .quoted⟩ (c :: rest) =
    c :: prettyAt (Point.next ⟨depth, .quoted⟩ c) rest := by
  by_cases quote : c = '"'
  · subst quote
    simp [prettyAt, prettyQuoted, Point.next]
  by_cases slash : c = '\\'
  · subst slash
    cases rest <;> simp [prettyAt, prettyQuoted, Point.next]
  · rw [Point.next_of_inside quote slash]
    simp [prettyAt, prettyQuoted, slash]

/-- A character is copied if it opens no bracket, also a space that no bracket
follows. -/
theorem prettyAt_other (noBracket : point.mode = .plain → c ≠ '[')
    (spaced : IsSpaced (point.next c) rest) :
    prettyAt point (c :: rest) = c :: prettyAt (point.next c) rest := by
  obtain ⟨depth, mode⟩ := point
  cases mode with
  | plain =>
      -- A bracket behind the space would stand at a point where it has no space
      -- of its own.
      have noGap : c = ' ' → ∀ behind, rest ≠ '[' :: behind := by
        rintro rfl behind rfl
        cases spaced with
        | other _ plain _ => exact plain rfl rfl
      simp only [prettyAt]
      rw [prettyPlain.eq_def]
      split <;> simp_all [Point.next]
  | quoted => exact prettyAt_quoted
  | escaped => rfl

theorem prettyAt_bracket : prettyAt ⟨depth + 1, .plain⟩ (' ' :: '[' :: rest) =
    newLine (depth + 1) ++ '[' :: prettyAt ⟨depth + 2, .plain⟩ rest := by
  simp [prettyAt, prettyPlain]

/-- The text on one line: each newline gives way, with the spaces behind it, to
one space. -/
def onOneLine : List Char → List Char
  | [] => []
  | c :: rest =>
      if c = '\n' then
        ' ' :: onOneLine (rest.dropWhile (· == ' '))
      else
        c :: onOneLine rest
termination_by text => text.length
decreasing_by
  · have shorter := (List.dropWhile_suffix (l := rest) (· == ' ')).length_le
    simp only [List.length_cons]
    omega
  · simp

theorem onOneLine_nil : onOneLine [] = [] := by
  rw [onOneLine]

theorem onOneLine_cons (noNewline : c ≠ '\n') :
    onOneLine (c :: rest) = c :: onOneLine rest := by
  rw [onOneLine, if_neg noNewline]

theorem onOneLine_newLine :
    onOneLine (newLine depth ++ '[' :: rest) =
      ' ' :: '[' :: onOneLine rest := by
  have spaces : (List.replicate (2 * depth) ' ' ++ '[' :: rest).dropWhile
      (· == ' ') =
      '[' :: rest := by
    rw [List.dropWhile_append_of_pos fun c member =>
      by simp [List.eq_of_mem_replicate member]]
    exact List.dropWhile_cons_of_neg (by decide)
  rw [newLine, List.cons_append, onOneLine, if_pos rfl, spaces,
    onOneLine_cons (by decide)]

/-- Back on one line, the text is what it was. -/
theorem IsSpaced.onOneLine_prettyAt (spaced : IsSpaced point text) :
    onOneLine (prettyAt point text) = text := by
  induction spaced with
  | nil => rw [prettyAt_nil, onOneLine_nil]
  | other noNewline noBracket spaced inductionHypothesis =>
      rw [prettyAt_other noBracket spaced, onOneLine_cons noNewline,
        inductionHypothesis]
  | bracket spaced inductionHypothesis =>
      rw [prettyAt_bracket, onOneLine_newLine, inductionHypothesis]

/-! ## The indentation of each line -/

/-- Each newline of the text stands outside of strings, and behind it stand two
spaces for each bracket that is open there, and then a bracket. -/
def Indented (point : Point) (shown : List Char) : Prop :=
  ∀ before line, shown = before ++ '\n' :: line →
    ∃ depth rest, point.after before = ⟨depth, .plain⟩ ∧
      line = List.replicate (2 * depth) ' ' ++ '[' :: rest

namespace Indented

variable {shown : List Char}

theorem nil : Indented point [] := by
  intro before line cut
  simp at cut

theorem cons (noNewline : c ≠ '\n') (indented : Indented (point.next c) shown) :
    Indented point (c :: shown) := by
  intro before line cut
  cases before with
  | nil => exact absurd (List.head_eq_of_cons_eq cut) noNewline
  | cons d before =>
      obtain ⟨rfl, further⟩ := List.cons.inj cut
      exact indented before line further

theorem spaces (number : Nat) (indented : Indented ⟨depth, .plain⟩ shown) :
    Indented ⟨depth, .plain⟩ (List.replicate number ' ' ++ shown) := by
  induction number with
  | zero => exact indented
  | succ number inductionHypothesis =>
      exact cons (by decide) inductionHypothesis

theorem newLine (indented : Indented ⟨depth + 1, .plain⟩ shown) :
    Indented ⟨depth, .plain⟩ (Node.newLine depth ++ '[' :: shown) := by
  intro before line cut
  cases before with
  | nil => exact ⟨depth, shown, rfl, (List.cons.inj cut).2.symm⟩
  | cons d before =>
      obtain ⟨rfl, further⟩ := List.cons.inj cut
      have bracket : Indented ⟨depth, .plain⟩ ('[' :: shown) :=
        indented.cons (by decide)
      exact bracket.spaces (2 * depth) before line further

end Indented

/-- By induction along the text, with the brackets counted that are open so
far. -/
theorem IsSpaced.indented_prettyAt (spaced : IsSpaced point text) :
    Indented point (prettyAt point text) := by
  induction spaced with
  | nil =>
      rw [prettyAt_nil]
      exact .nil
  | other noNewline noBracket spaced inductionHypothesis =>
      rw [prettyAt_other noBracket spaced]
      exact .cons noNewline inductionHypothesis
  | bracket _ inductionHypothesis =>
      rw [prettyAt_bracket]
      exact .newLine inductionHypothesis

/-! ## The brackets that begin lines -/

/-- Each bracket outside of strings begins a line: what stands before that line
and what stands behind the bracket are what stands there in the text. -/
theorem IsSpaced.line_of_bracket (spaced : IsSpaced point text)
    {before behind : List Char}
    (cut : text = before ++ '[' :: behind)
    (plain : (point.after before).mode = .plain) :
    ∃ early late, prettyAt point text =
        early ++ (newLine (point.after before).depth ++ '[' :: late) ∧
      onOneLine early ++ [' '] = before ∧ onOneLine late = behind := by
  induction spaced generalizing before with
  | nil => simp at cut
  | @other point c rest noNewline noBracket spaced inductionHypothesis =>
      cases before with
      | nil => exact absurd (List.head_eq_of_cons_eq cut) (noBracket plain)
      | cons d before =>
          obtain ⟨rfl, further⟩ := List.cons.inj cut
          obtain ⟨early, late, shown, sameBefore, sameBehind⟩ :=
            inductionHypothesis further plain
          refine ⟨c :: early, late, ?_, ?_, sameBehind⟩
          · rw [prettyAt_other noBracket spaced, shown]
            rfl
          · rw [onOneLine_cons noNewline, List.cons_append, sameBefore]
  | @bracket depth rest spaced inductionHypothesis =>
      cases before with
      | nil => cases cut
      | cons d before =>
          obtain ⟨rfl, further⟩ := List.cons.inj cut
          -- Either this bracket is meant or one behind it.
          cases before with
          | nil =>
              obtain ⟨-, rfl⟩ := List.cons.inj further
              refine ⟨[], prettyAt ⟨depth + 2, .plain⟩ rest,
                prettyAt_bracket, ?_, ?_⟩
              · rw [onOneLine_nil, List.nil_append]
              · exact spaced.onOneLine_prettyAt
          | cons e before =>
              obtain ⟨rfl, behindBracket⟩ := List.cons.inj further
              obtain ⟨early, late, shown, sameBefore, sameBehind⟩ :=
                inductionHypothesis behindBracket plain
              refine ⟨newLine (depth + 1) ++ '[' :: early, late, ?_,
                ?_, sameBehind⟩
              · rw [prettyAt_bracket, shown]
                simp [Point.after_cons, Point.next]
              · rw [onOneLine_newLine, List.cons_append,
                  List.cons_append, sameBefore]

namespace Node

/-- The first bracket of a graph is the only one without a space before it. -/
theorem exists_isSpaced_graph {node : Node}
    (words : node.Throughout NamesAreWords) :
    ∃ inside, node.graph.toList = '[' :: inside ∧
      IsSpaced ⟨1, .plain⟩ inside := by
  have clear := allClear_bracketed node words
  rw [toList_graph]
  cases node <;> exact ⟨_, Bracketed.text_group,
    Bracketed.isSpaced_inside clear.1 clear.2⟩

/-- If names are words and numbers are written with digits and points, a graph
spread over lines is the graph again once it is back on one line; behind each
newline stand two spaces for each bracket that is open there, and then a
bracket; and each bracket outside of strings but the first one begins a line. -/
theorem pretty_graph {node : Node} (words : node.Throughout NamesAreWords) :
    onOneLine (pretty node.graph).toList = node.graph.toList ∧
      Indented .start (pretty node.graph).toList ∧
      ∀ before behind, node.graph.toList = before ++ '[' :: behind →
        before ≠ [] →
        (Point.start.after before).mode = .plain →
        ∃ early late, (pretty node.graph).toList =
            early ++ (newLine (Point.start.after before).depth ++ '[' :: late) ∧
          onOneLine early ++ [' '] = before ∧ onOneLine late = behind := by
  obtain ⟨inside, graph, spaced⟩ := exists_isSpaced_graph words
  have shown : (pretty node.graph).toList =
      '[' :: prettyAt ⟨1, .plain⟩ inside := by
    simp [pretty, graph, prettyPlain, prettyAt]
  rw [shown, graph]
  refine ⟨?_, ?_, ?_⟩
  · rw [onOneLine_cons (by decide), spaced.onOneLine_prettyAt]
  · exact spaced.indented_prettyAt.cons (by decide)
  · intro before behind cut notFirst plain
    obtain ⟨c, before, rfl⟩ := List.exists_cons_of_ne_nil notFirst
    obtain ⟨rfl, cutInside⟩ := List.cons.inj cut
    obtain ⟨early, late, lines, sameBefore, sameBehind⟩ :=
      spaced.line_of_bracket cutInside plain
    refine ⟨'[' :: early, late, ?_, ?_, sameBehind⟩
    · rw [lines]
      rfl
    · rw [onOneLine_cons (by decide), List.cons_append, sameBefore]

theorem pretty_graph_addition :
    let place : Position := ⟨"f.code", 1, 1⟩
    let node :=
      Node.binary .add (.literal (.string "]\"[") place)
        (.reference "s" 0 place) place
    let before := "[Add [StringLiteral \"]\\\"[\"] ".toList
    let behind := "Identifier s]]".toList
    node.Throughout NamesAreWords ∧ node.graph.toList = before ++
      '[' :: behind ∧ before ≠ [] ∧
      Point.start.after before = ⟨1, .plain⟩ ∧
      onOneLine (pretty node.graph).toList = node.graph.toList ∧
      Indented .start (pretty node.graph).toList ∧
      ∃ early late, (pretty node.graph).toList = early ++
        (newLine 1 ++ '[' :: late) ∧
        onOneLine early ++ [' '] = before ∧ onOneLine late = behind := by
  intro place node before behind
  have text : (Node.literal (.string "]\"[") place).Throughout NamesAreWords :=
    throughout_iff.2 ⟨trivial, List.forall_mem_nil _⟩
  have name : (Node.reference "s" 0 place).Throughout NamesAreWords :=
    throughout_iff.2 ⟨show _ = true by decide, List.forall_mem_nil _⟩
  have words : node.Throughout NamesAreWords :=
    throughout_iff.2
      ⟨trivial, List.forall_mem_cons.2 ⟨text, List.forall_mem_singleton.2 name⟩⟩
  have cut : node.graph.toList = before ++ '[' :: behind := by decide +kernel
  have notFirst : before ≠ [] := by decide +kernel
  have point : Point.start.after before = ⟨1, .plain⟩ := by decide +kernel
  obtain ⟨joined, indented, lines⟩ := pretty_graph words
  have line := lines before behind cut notFirst (by rw [point])
  rw [point] at line
  exact ⟨words, cut, notFirst, point, joined, indented, line⟩

end Node

end Minilang
