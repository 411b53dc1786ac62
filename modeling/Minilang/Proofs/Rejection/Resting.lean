import Minilang.Proofs.Discipline.Reaching
import Minilang.Proofs.Layout.Text
import Minilang.Proofs.Reading.Form
import Minilang.Proofs.Soundness.Registers
import Minilang.Proofs.Spelling.Spelled

/-!
# Where the cursor comes to rest

Between two lexemes the cursor rests: it stands in its source, and no trivia is
ahead of it. It rests behind every lexeme, so it rests behind every construct
that is read. The main statement, `restsIn_of_parse`, says that each construct
of a program has a place where the cursor rests.
-/

namespace Minilang

namespace Cursor

variable {α : Type} {origin cursor behind start stop : Cursor}

/-- The cursor stands in the source, and no trivia is ahead of it. -/
structure Rests (origin cursor : Cursor) : Prop where
  reaches : origin.Reaches cursor
  noTrivia : Lexeme.triviaLength cursor.rest = 0

/-- A cursor that stands in a source divides the text of the source. -/
theorem Reaches.split_source {source file : String}
    (reaches : (Cursor.origin source file).Reaches cursor) :
    ∃ before, before ++ cursor.rest = source.toList.filter (· != '\r') ∧
      cursor.position = (Position.start file).after before := by
  rw [← rest_origin source file]
  exact reaches.split

/-- Where the cursor rests, neither a blank nor a comment is ahead. -/
theorem Rests.noBlank (rests : origin.Rests cursor) :
    (∀ c, cursor.rest.head? = some c → Text.isBlank c = false) ∧
      ¬ ['/', '/'] <+: cursor.rest := by
  have noTrivia := rests.noTrivia
  cases ahead : cursor.rest with
  | nil => exact ⟨nofun, by simp⟩
  | cons c rest =>
      rw [ahead] at noTrivia
      obtain ⟨notBlank, noComment⟩ := Layout.triviaLength_eq_zero_iff.1 noTrivia
      refine ⟨fun d head => Option.some.inj head ▸ notBlank, fun comment => ?_⟩
      obtain ⟨slash, second⟩ := List.cons_prefix_cons.1 comment
      obtain ⟨behind, rfl⟩ := second
      exact noComment slash.symm rfl

theorem Reaches.rests_skipTrivia (reaches : origin.Reaches cursor) :
    origin.Rests cursor.skipTrivia :=
  ⟨reaches.trans (reaches_skipTrivia cursor),
    Layout.triviaLength_drop cursor.rest⟩

theorem Reaches.rests_advance (reaches : origin.Reaches cursor) (count : Nat) :
    origin.Rests (cursor.advance count) :=
  (reaches.trans ⟨count, rfl⟩).rests_skipTrivia

namespace Rests

variable (rests : origin.Rests cursor)

include rests

theorem of_accept? {text : String} (found : cursor.accept? text = some behind) :
    origin.Rests behind := by
  obtain ⟨_, rfl⟩ := accept?_eq_some.1 found
  exact rests.reaches.rests_advance text.length

theorem of_asksWord {names : α → String → Prop}
    {lexeme? : Cursor → Option (α × Cursor)} (asks : AsksWord names lexeme?)
    {value : α} (found : lexeme? cursor = some (value, behind)) :
    origin.Rests behind := by
  obtain ⟨word, _, _, rfl⟩ := asks.1 found
  exact rests.reaches.rests_advance word.length

theorem of_type? {type : DataType}
    (found : cursor.type? = some (type, behind)) :
    origin.Rests behind :=
  rests.of_asksWord asksWord_type? found

theorem of_identifier? {name : String}
    (found : cursor.identifier? = some (name, behind)) :
    origin.Rests behind :=
  rests.of_asksWord asksWord_identifier? found

theorem of_formRead? {form : Grammar.Form}
    (found : Grammar.Form.read? cursor = some (form, behind)) :
    origin.Rests behind :=
  rests.of_asksWord asksWord_formRead? found

theorem of_keyword? {word : String}
    (found : cursor.keyword? word = some behind) :
    origin.Rests behind :=
  rests.of_accept? (accept?_of_keyword? found)

theorem of_operator? {level : Level} {operator : BinaryOperator}
    (found : cursor.operator? level = some (operator, behind)) :
    origin.Rests behind :=
  rests.of_accept? (operator?_eq_some found).2

end Rests

open Token

variable {placed : List Placed}

theorem Splits.rests (splits : Splits start placed stop)
    (rests : origin.Rests start) :
    origin.Rests stop := by
  induction splits with
  | stop => exact rests
  | token _ _ inductionHypothesis =>
      exact inductionHypothesis (rests.reaches.rests_advance _)

/-- The cursor rests somewhere at the position. -/
def RestsAt (origin : Cursor) (position : Position) : Prop :=
  ∃ cursor, origin.Rests cursor ∧ cursor.position = position

/-- The cursor rests before each token. -/
theorem Splits.restsAt (splits : Splits start placed stop)
    (rests : origin.Rests start) :
    ∀ mark ∈ placed, origin.RestsAt mark.position := by
  induction splits with
  | stop => exact List.forall_mem_nil _
  | @token token length others start stop first _ inductionHypothesis =>
      refine List.forall_mem_cons.2 ⟨⟨start, rests, rfl⟩, ?_⟩
      exact inductionHypothesis (rests.reaches.rests_advance length)

theorem Spells.rests {tokens : List Token} {marks : List Placed}
    (spells : start.Spells tokens marks stop) (rests : origin.Rests start) :
    origin.Rests stop := by
  obtain ⟨_, splits, _⟩ := spells
  exact splits.rests rests

end Cursor

def Node.RestsIn (origin : Cursor) (node : Node) : Prop :=
  origin.RestsAt node.position

namespace Grammar

variable {origin : Cursor} {start stop : Parser}

/-- Every rule of the grammar ends behind a lexeme, or where it began. -/
theorem rests_of_reads {level : Level} {node : Node}
    (reads : Reads (.chain level node) start stop)
    (rests : origin.Rests start.cursor) : origin.Rests stop.cursor := by
  have spells : start.cursor.Spells node.spelling node.marks stop.cursor :=
    spelled_of_reads reads
  exact spells.rests rests

theorem rests_of_readsOperand {level : Level} {node : Node}
    (reads : Reads (.operand level node) start stop)
    (rests : origin.Rests start.cursor) :
    origin.Rests stop.cursor :=
  (Phrase.spelled_operand.1 (spelled_of_reads reads)).rests rests

theorem rests_of_readsParameter {node : Node}
    (reads : ReadsParameter node start stop)
    (rests : origin.Rests start.cursor) : origin.Rests stop.cursor :=
  (spells_of_readsParameter reads).rests rests

theorem rests_of_readsParameters {nodes : List Node}
    (reads : ReadsParameters nodes start stop)
    (rests : origin.Rests start.cursor) : origin.Rests stop.cursor :=
  (spells_of_readsParameters reads).rests rests

theorem rests_of_readsClause {clause : Clause}
    (reads : ReadsClause clause start stop)
    (rests : origin.Rests start.cursor) : origin.Rests stop.cursor := by
  have spelled := spelled_of_readsClause reads
  cases clause with
  | statement | statements | block => exact Cursor.Spells.rests spelled rests

/-- Each construct in an expression has the place of a token, before which the
cursor rests. -/
theorem restsIn_of_reads {level : Level} {node : Node}
    (reads : Reads (.chain level node) start stop)
    (rests : origin.Rests start.cursor) :
    node.Throughout (Node.RestsIn origin) := by
  intro part within
  have expression :=
    (formed_of_readsExpression reads).throughout_isExpression part within
  have marked : part.mark? ≠ none := by
    cases part with
    | literal | reference | call | binary | cast => exact Option.some_ne_none _
    | _ => cases expression
  obtain ⟨mark, found⟩ := Option.ne_none_iff_exists'.1 marked
  have isMark : ⟨mark, part.position⟩ ∈ node.marks := by
    refine List.mem_filterMap.2
      ⟨part, Node.mem_inOrder_iff.2 ⟨within, marked⟩, ?_⟩
    rw [Node.placedMark?, found]
    rfl
  have spells : start.cursor.Spells node.spelling node.marks stop.cursor :=
    spelled_of_reads reads
  obtain ⟨placed, splits, _, among⟩ := spells
  exact splits.restsAt rests _ (among.subset isMark)

theorem restsIn_of_readsParameter {node : Node}
    (reads : ReadsParameter node start stop)
    (rests : origin.Rests start.cursor) :
    node.Throughout (Node.RestsIn origin) := by
  cases reads with
  | parameter =>
      exact Node.throughout_iff.2 ⟨⟨_, rests, rfl⟩, List.forall_mem_nil _⟩

theorem restsIn_of_readsMoreParameters {nodes : List Node}
    (reads : ReadsMoreParameters nodes start stop)
    (rests : origin.Rests start.cursor) :
    ∀ node ∈ nodes, node.Throughout (Node.RestsIn origin) := by
  induction reads with
  | last => exact List.forall_mem_nil _
  | next comma first _ others =>
      have behindComma := rests.of_accept? comma
      exact List.forall_mem_cons.2 ⟨restsIn_of_readsParameter first behindComma,
        others (rests_of_readsParameter first behindComma)⟩

theorem restsIn_of_readsParameters {nodes : List Node}
    (reads : ReadsParameters nodes start stop)
    (rests : origin.Rests start.cursor) :
    ∀ node ∈ nodes, node.Throughout (Node.RestsIn origin) := by
  cases reads with
  | none => exact List.forall_mem_nil _
  | some first others =>
      exact List.forall_mem_cons.2 ⟨restsIn_of_readsParameter first
        rests, restsIn_of_readsMoreParameters others
        (rests_of_readsParameter first rests)⟩

def Clause.RestsIn (origin : Cursor) : Clause → Prop
  | .statement node | .block node => node.Throughout (Node.RestsIn origin)
  | .statements items => ∀ item ∈ items, item.Throughout (Node.RestsIn origin)

/-- By induction on the rules of the grammar: each construct has the place of a
cursor between two lexemes. -/
theorem restsIn_of_readsClause {clause : Clause}
    (reads : ReadsClause clause start stop)
    (rests : origin.Rests start.cursor) : clause.RestsIn origin := by
  induction reads with
  | listEnd => exact List.forall_mem_nil _
  | statements firstRead _ first others =>
      exact List.forall_mem_cons.2 ⟨first rests,
        others (rests_of_readsClause firstRead rests)⟩
  | block opened _ _ _ _ items =>
      have inside := rests.of_accept? opened
      exact Node.throughout_iff.2 ⟨⟨_, inside, rfl⟩, items inside⟩
  | expression value => exact restsIn_of_reads value rests
  | print found value =>
      have below := restsIn_of_reads value (rests.of_formRead? found)
      exact Node.throughout_iff.2 ⟨⟨_, rests, rfl⟩,
        List.forall_mem_singleton.2 below⟩
  | assignment found named _ equals value =>
      have behindWord := rests.of_formRead? found
      have behindEquals := (behindWord.of_identifier? named).of_accept? equals
      refine Node.throughout_iff.2 ⟨⟨_, rests, rfl⟩, List.forall_mem_cons.2
        ⟨?_, List.forall_mem_singleton.2 (restsIn_of_reads value behindEquals)⟩⟩
      exact Node.throughout_iff.2 ⟨⟨_, behindWord, rfl⟩, List.forall_mem_nil _⟩
  | loop found predicate _ body =>
      have behindWord := rests.of_formRead? found
      have inside := body (rests_of_reads predicate behindWord)
      exact Node.throughout_iff.2 ⟨⟨_, rests, rfl⟩,
        List.forall_mem_cons.2 ⟨restsIn_of_reads predicate behindWord,
        List.forall_mem_singleton.2 inside⟩⟩
  | conditional found predicate _ _ thenBranch =>
      have behindWord := rests.of_formRead? found
      have inside := thenBranch (rests_of_reads predicate behindWord)
      exact Node.throughout_iff.2 ⟨⟨_, rests, rfl⟩,
        List.forall_mem_cons.2 ⟨restsIn_of_reads predicate behindWord,
        List.forall_mem_singleton.2 inside⟩⟩
  | alternative found predicate thenRead word _ thenBranch elseBranch =>
      have behindWord := rests.of_formRead? found
      have behindPredicate := rests_of_reads predicate behindWord
      have behindBranch := rests_of_readsClause thenRead behindPredicate
      have first := thenBranch behindPredicate
      have second := elseBranch (behindBranch.of_keyword? word)
      exact Node.throughout_iff.2 ⟨⟨_, rests, rfl⟩, List.forall_mem_cons.2
        ⟨restsIn_of_reads predicate behindWord,
          List.forall_mem_cons.2 ⟨first, List.forall_mem_singleton.2 second⟩⟩⟩
  | uninitialized =>
      exact Node.throughout_iff.2 ⟨⟨_, rests, rfl⟩, List.forall_mem_nil _⟩
  | initialized typed named equals value =>
      have behindEquals :=
        ((rests.of_type? typed).of_identifier? named).of_accept? equals
      have below := restsIn_of_reads value behindEquals
      exact Node.throughout_iff.2 ⟨⟨_, rests, rfl⟩,
        List.forall_mem_singleton.2 below⟩
  | function typed named opened _ parameters bodyOpened _ _ _ _ _ items =>
      have inside :=
        ((rests.of_type? typed).of_identifier? named).of_accept? opened
      have inBody :=
        (rests_of_readsParameters parameters inside).of_accept? bodyOpened
      refine Node.throughout_iff.2 ⟨⟨_, rests, rfl⟩,
        List.forall_mem_append.2 ⟨restsIn_of_readsParameters parameters inside,
        List.forall_mem_singleton.2 ?_⟩⟩
      exact Node.throughout_iff.2 ⟨⟨_, inBody, rfl⟩, items inBody⟩

end Grammar

namespace Program

variable {source file : String} {program : Program}

/-- Where the reading of a source begins. -/
theorem rests_start (source file : String) :
    (Cursor.origin source file).Rests (Cursor.start source file) := by
  rw [Cursor.start_eq]
  exact (Cursor.Reaches.refl _).rests_skipTrivia

/-- Each construct of a program has a place where the cursor rests. -/
theorem restsIn_of_parse (success : parse source file = .ok program) :
    program.root.Throughout (Node.RestsIn (.origin source file)) := by
  obtain ⟨items, stop, reads, _, rfl⟩ := Grammar.parse_ok.1 success
  have rests := rests_start source file
  exact Node.throughout_iff.2 ⟨⟨_, rests, rfl⟩,
    Grammar.restsIn_of_readsClause reads rests⟩

end Program

end Minilang
