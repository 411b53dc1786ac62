import Minilang.Proofs.Spelling.Marks

/-!
# What is read is spelled by its tokens

Between the cursor where a part of a program begins and the one where it ends,
the source consists of the tokens of what is read, but for parentheses, and
among them are the marks of its nodes. The main statement, `tokens_of_parse`,
says so of whole programs.
-/

namespace Minilang

open Token Grammar

namespace Cursor

variable {start middle stop behind : Cursor}

/-- The tokens between the cursors are the given ones, but for parentheses, and
the marks are among them in this order. -/
def Spells (start : Cursor) (tokens : List Token) (marks : List Placed)
    (stop : Cursor) : Prop :=
  ∃ placed, Splits start placed stop ∧
    withoutParentheses (placed.map (·.token)) = tokens ∧
    marks.Sublist placed

namespace Spells

variable {tokens others : List Token} {marks otherMarks : List Placed}
  {token : Token}

theorem nil : start.Spells [] [] start :=
  ⟨[], .stop, rfl, .slnil⟩

theorem trans (first : start.Spells tokens marks middle)
    (second : middle.Spells others otherMarks stop) :
    start.Spells (tokens ++ others) (marks ++ otherMarks) stop := by
  obtain ⟨placed, splits, rfl, among⟩ := first
  obtain ⟨otherPlaced, otherSplits, rfl, otherAmong⟩ := second
  refine ⟨placed ++ otherPlaced, splits.append otherSplits, ?_,
    among.append otherAmong⟩
  rw [List.map_append, withoutParentheses_append]

/-- A token that is the mark of a node. -/
theorem mark (splits : start.Splits [⟨token, start.position⟩] behind)
    (plain : token.isParenthesis = false) :
    start.Spells [token] [⟨token, start.position⟩] behind :=
  ⟨_, splits, withoutParentheses_cons plain, .refl _⟩

/-- A token that is no mark. -/
theorem plain (splits : start.Splits [⟨token, start.position⟩] behind)
    (plain : token.isParenthesis = false) : start.Spells [token] [] behind :=
  ⟨_, splits, withoutParentheses_cons plain, List.nil_sublist _⟩

theorem parenthesis (splits : start.Splits [⟨token, start.position⟩] behind)
    (parenthesis : token.isParenthesis = true) : start.Spells [] [] behind := by
  refine ⟨_, splits, ?_, List.nil_sublist _⟩
  simp [withoutParentheses, parenthesis]

end Spells

theorem spells_of_opening (found : start.accept? "(" = some behind) :
    start.Spells [] [] behind :=
  .parenthesis (splits_of_bracket? (by decide) found) rfl

theorem spells_of_closing (found : start.accept? ")" = some behind) :
    start.Spells [] [] behind :=
  .parenthesis (splits_of_bracket? (by decide) found) rfl

theorem spells_of_bracket {text : String}
    (isBracket : text ∈ ["\x7b", "\x7d", ","])
    (found : start.accept? text = some behind) :
    start.Spells [.symbol text] [] behind := by
  have plain : ∀ text ∈ ["\x7b", "\x7d", ","],
      text ∈ ["(", ")", "\x7b", "\x7d", ","] ∧
        (symbol text).isParenthesis = false := by decide
  obtain ⟨among, noParenthesis⟩ := plain text isBracket
  exact .plain (splits_of_bracket? among found) noParenthesis

theorem spells_of_equals (found : start.accept? "=" = some behind)
    (noEquals : behind.rest.head? ≠ some '=') :
    start.Spells [.symbol "="] [] behind :=
  .plain (splits_of_accept? (by decide) found fun _ => noEquals) rfl

end Cursor

namespace Grammar

open Node

variable {start stop : Parser}

/-- Where an expression begins, no equals sign stands. -/
theorem BeginsExpression.noEquals {cursor : Cursor}
    (begins : BeginsExpression cursor) :
    cursor.rest.head? ≠ some '=' := by
  obtain ⟨c, head, kind⟩ := begins.head?
  rw [head]
  rintro ⟨⟩
  revert kind
  decide

theorem noEquals_of_type? {cursor behind : Cursor} {type : DataType}
    (found : cursor.type? = some (type, behind)) :
    cursor.rest.head? ≠ some '=' := by
  obtain ⟨entry, _, _, word, _⟩ := Cursor.type?_eq_some.1 found
  obtain ⟨c, rest, ahead, letter⟩ := Lexeme.isAlpha_of_word? word
  rw [ahead]
  rintro ⟨⟩
  exact absurd letter (by decide)

def Phrase.Spelled (start stop : Cursor) : Phrase → Prop
  | .chain _ node | .component node | .primary node =>
      start.Spells node.spelling node.marks stop
  | .links _ left node =>
      ∀ origin : Cursor, origin.Spells left.spelling left.marks start →
        origin.Spells node.spelling node.marks stop
  | .moreArguments nodes =>
      start.Spells (spellingsAfterCommas nodes) (marksAll nodes) stop

theorem Phrase.spelled_operand {start stop : Cursor} {level : Level}
    {node : Node} :
    (Phrase.operand level node).Spelled start stop ↔
      start.Spells node.spelling node.marks stop := by
  cases level <;> rfl

/-- By induction on the rules of the grammar, each of which reads the tokens of
its construct in their order. -/
theorem spelled_of_reads {phrase : Phrase} (reads : Reads phrase start stop) :
    phrase.Spelled start.cursor stop.cursor := by
  induction reads with
  | chain _ _ operand links => exact links _ (Phrase.spelled_operand.1 operand)
  | noLink => exact fun _ spells => spells
  | @link level left right node operator behind start middle stop found
      operandReads _ operand
      links =>
      intro origin before
      have begins := Phrase.begins_operand.1 (begins_of_reads operandReads)
      have symbol := Cursor.splits_of_accept? (symbol_mem_symbols operator)
        (Cursor.operator?_eq_some found).2 fun _ => begins.noEquals
      have mark := Cursor.Spells.mark symbol (isParenthesis_operator operator)
      have whole := before.trans (mark.trans (Phrase.spelled_operand.1 operand))
      apply links
      rw [spelling_binary, marks_binary]
      exact whole
  | plain _ primary => exact primary
  | @cast target operand opened named closed start stop less typed greater primaryReads primary =>
      have notLess := noEquals_of_type? typed
      have notGreater : closed.rest.head? ≠ some '=' :=
        BeginsExpression.noEquals (Or.inr (begins_of_reads primaryReads))
      have opening := Cursor.Spells.mark
        (Cursor.splits_of_accept? (by decide) less fun _ => notLess) rfl
      have type := Cursor.Spells.plain (Cursor.splits_of_type? typed) rfl
      have closing := Cursor.Spells.plain
        (Cursor.splits_of_accept? (by decide) greater fun _ => notGreater) rfl
      have whole := opening.trans (type.trans (closing.trans primary))
      simpa [Phrase.Spelled, marksAll] using whole
  | number found =>
      have mark :=
        Cursor.Spells.mark (Cursor.splits_of_number found)
          (isParenthesis_literal _)
      simpa [Phrase.Spelled] using mark
  | string found =>
      have mark := Cursor.Spells.mark (Cursor.splits_of_string found) rfl
      simpa [Phrase.Spelled, Literal.token] using mark
  | reference named =>
      have mark := Cursor.Spells.mark (Cursor.splits_of_identifier? named) rfl
      simpa [Phrase.Spelled] using mark
  | emptyCall named _ opened closed =>
      have mark := Cursor.Spells.mark (Cursor.splits_of_identifier? named) rfl
      have whole := mark.trans
        ((Cursor.spells_of_opening opened).trans
          (Cursor.spells_of_closing closed))
      simpa [Phrase.Spelled, marksAll] using whole
  | call named _ opened _ _ first others =>
      have mark := Cursor.Spells.mark (Cursor.splits_of_identifier? named) rfl
      have whole :=
        mark.trans ((Cursor.spells_of_opening opened).trans
          (first.trans others))
      simpa [Phrase.Spelled, marksAll] using whole
  | parenthesized opened _ closed inner =>
      have whole := (Cursor.spells_of_opening opened).trans
        (inner.trans (Cursor.spells_of_closing closed))
      simpa [Phrase.Spelled] using whole
  | lastArgument closed => exact Cursor.spells_of_closing closed
  | nextArgument comma _ _ next others =>
      have whole :=
        (Cursor.spells_of_bracket (by decide) comma).trans (next.trans others)
      simpa [Phrase.Spelled, spellingsAfterCommas, marksAll] using whole

theorem spells_of_reads {node : Node}
    (reads : Reads (.chain .comparison node) start stop) :
    start.cursor.Spells node.spelling node.marks stop.cursor :=
  spelled_of_reads reads

theorem spells_of_readsParameter {node : Node}
    (reads : ReadsParameter node start stop) :
    start.cursor.Spells node.spelling node.marks stop.cursor := by
  cases reads with
  | parameter typed named =>
      have type := Cursor.Spells.mark (Cursor.splits_of_type? typed) rfl
      have name := Cursor.Spells.plain (Cursor.splits_of_identifier? named) rfl
      simpa using type.trans name

theorem spells_of_readsMoreParameters {nodes : List Node}
    (reads : ReadsMoreParameters nodes start stop) :
    start.cursor.Spells (spellingsAfterCommas nodes)
      (marksAll nodes) stop.cursor := by
  induction reads with
  | last closed => exact Cursor.spells_of_closing closed
  | next comma next _ others =>
      have whole := (Cursor.spells_of_bracket (by decide) comma).trans
        ((spells_of_readsParameter next).trans others)
      simpa [spellingsAfterCommas, marksAll] using whole

theorem spells_of_readsParameters {nodes : List Node}
    (reads : ReadsParameters nodes start stop) :
    start.cursor.Spells (withoutParentheses (separated (tokensAll nodes)))
      (marksAll nodes)
      stop.cursor := by
  cases reads with
  | none closed => exact Cursor.spells_of_closing closed
  | some first others =>
      rw [withoutParentheses_separated]
      exact (spells_of_readsParameter first).trans
        (spells_of_readsMoreParameters others)

def Clause.Spelled (start stop : Cursor) : Clause → Prop
  | .statement node => start.Spells node.spelling node.marks stop
  | .statements items => start.Spells (spellings items) (marksAll items) stop
  | .block node => start.Spells node.spellingInBraces node.marks stop

/-- Statements between braces. -/
theorem spells_of_braces {opening opened last closed : Cursor}
    {items : List Node}
    (position : Position) (left : opening.accept? "\x7b" = some opened)
    (inner : opened.Spells (spellings items) (marksAll items) last)
    (right : last.accept? "\x7d" = some closed) :
    opening.Spells (Node.statements items position).spellingInBraces
      (Node.statements items position).marks closed := by
  have whole := (Cursor.spells_of_bracket (by decide) left).trans
    (inner.trans (Cursor.spells_of_bracket (by decide) right))
  simpa [spellingInBraces] using whole

theorem spelled_of_readsClause {clause : Clause}
    (reads : ReadsClause clause start stop) :
    clause.Spelled start.cursor stop.cursor := by
  have ofForm {form : Form} {start behind : Cursor}
      (found : Form.read? start = some (form, behind)) :
      start.Spells [.word form.word]
        [⟨.word form.word, start.position⟩] behind :=
    .mark (Cursor.splits_of_formRead? found) rfl
  have ofType {type : DataType} {start typed : Cursor}
      (found : start.type? = some (type, typed)) :
      start.Spells [.word type.word]
        [⟨.word type.word, start.position⟩] typed :=
    .mark (Cursor.splits_of_type? found) rfl
  have ofName {name : String} {start named : Cursor}
      (found : start.identifier? = some (name, named)) :
      start.Spells [.word name] [] named :=
    .plain (Cursor.splits_of_identifier? found) rfl
  have ofEquals {value : Node} {start behind : Cursor} {scopes : Scopes}
      {stop : Parser}
      (found : start.accept? "=" = some behind)
      (reads : Reads (.chain .comparison value) ⟨behind, scopes⟩ stop) :
      start.Spells [.symbol "="] [] behind :=
    Cursor.spells_of_equals found
      (BeginsExpression.noEquals (begins_of_reads reads))
  induction reads with
  | listEnd => exact .nil
  | statements _ _ first others =>
      simpa [Clause.Spelled, spellings, marksAll] using first.trans others
  | block opened _ _ closed _ items =>
      exact spells_of_braces _ opened items closed
  | expression reads => exact spells_of_reads reads
  | print found value =>
      simpa [Clause.Spelled, marksAll, Form.word] using (ofForm found).trans
        (spells_of_reads value)
  | assignment found named _ equals value =>
      have target := Cursor.Spells.mark (Cursor.splits_of_identifier? named) rfl
      have whole := (ofForm found).trans
        (target.trans ((ofEquals equals value).trans (spells_of_reads value)))
      simpa [Clause.Spelled, marksAll, Form.word] using whole
  | loop found predicate _ body =>
      have whole :=
        (ofForm found).trans ((spells_of_reads predicate).trans body)
      simpa [Clause.Spelled, marksAll, Form.word] using whole
  | conditional found predicate _ _ thenBranch =>
      have whole :=
        (ofForm found).trans ((spells_of_reads predicate).trans thenBranch)
      simpa [Clause.Spelled, marksAll, Form.word] using whole
  | alternative found predicate _ word _ thenBranch elseBranch =>
      have other :=
        Cursor.Spells.plain
          (Cursor.splits_of_keyword? (by decide +kernel) word) rfl
      have whole := (ofForm found).trans
        ((spells_of_reads predicate).trans
          (thenBranch.trans (other.trans elseBranch)))
      simpa [Clause.Spelled, marksAll, Form.word] using whole
  | uninitialized found named =>
      simpa [Clause.Spelled] using (ofType found).trans (ofName named)
  | initialized found named equals value =>
      have whole := (ofType found).trans
        ((ofName named).trans
          ((ofEquals equals value).trans (spells_of_reads value)))
      simpa [Clause.Spelled, marksAll] using whole
  | function found named opened _ parameters bodyOpened _ closed _ _ _ items =>
      have body (position : Position) :=
        spells_of_braces position bodyOpened items closed
      have whole (position : Position) := (ofType found).trans
        ((ofName named).trans
          ((Cursor.spells_of_opening opened).trans
            ((spells_of_readsParameters parameters).trans (body position))))
      simpa [Clause.Spelled, marksAll] using whole _

end Grammar

namespace Program

variable {source file : String} {program : Program}

theorem spells_of_parse (success : parse source file = .ok program) :
    ∃ stop, stop.rest = [] ∧
      (Cursor.start source file).Spells program.root.spelling
        program.root.marks stop := by
  obtain ⟨items, stop, reads, ends, rfl⟩ := parse_ok.1 success
  refine ⟨stop.cursor, ends, ?_⟩
  rw [Node.spelling_statements, Node.marks_statements]
  exact spelled_of_readsClause reads

/-- The parser loses, invents and reorders nothing: but for parentheses, the
tokens of the source are the tokens of the tree. -/
theorem tokens_of_parse (success : parse source file = .ok program) :
    ∃ placed, (Cursor.start source file).tokens? = some placed ∧
      withoutParentheses (placed.map (·.token)) = withoutParentheses
        program.root.tokens := by
  obtain ⟨stop, ends, placed, splits, same, _⟩ := spells_of_parse success
  exact ⟨placed, Cursor.tokens?_of_splits splits ends, same⟩

theorem tokens_of_parse_call :
    ∃ program,
      parse
        "int f(int a) \x7b print (a+1) * <int>2.5 \x7d // one\nprint f(3) <= 4"
          "f.code" =
        .ok program ∧
      ∃ placed,
        (Cursor.start
          "int f(int a) \x7b print (a+1) * <int>2.5 \x7d // one\nprint f(3) <= 4"
          "f.code").tokens? = some placed ∧
        withoutParentheses (placed.map (·.token)) = withoutParentheses
          program.root.tokens := by
  obtain ⟨program, success⟩ := exists_eq_ok_of_isOk <|
    show (parse
      "int f(int a) \x7b print (a+1) * <int>2.5 \x7d // one\nprint f(3) <= 4"
      "f.code").isOk = true by decide +kernel
  exact ⟨program, success, tokens_of_parse success⟩

end Program

end Minilang
