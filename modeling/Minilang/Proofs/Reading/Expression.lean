import Minilang.Proofs.Reading.Ahead
import Minilang.Proofs.Reading.Success

/-!
# The grammar of expressions

The grammar says how a stretch of the source is read as a part of an expression:
`Reads phrase start stop` leads from the state before the stretch to the state
behind it. Its rules ask only for what is there and, where a phrase could go on,
for what does not follow. The main statement, `expression_ok`, says that the
expression reader succeeds with exactly what the grammar allows.
-/

namespace Minilang.Grammar

open Parse Steps

/-- A part of an expression together with the tree that it is read as. -/
inductive Phrase where
  /-- Operands with operators of the level between them. -/
  | chain (level : Level) (node : Node)
  /-- The rest of a chain behind the operands that were read as `left`. -/
  | links (level : Level) (left node : Node)
  | component (node : Node)
  | primary (node : Node)
  /-- Further arguments of a call, each behind a comma, with the closing
  parenthesis. -/
  | moreArguments (nodes : List Node)

def Phrase.operand (level : Level) (node : Node) : Phrase :=
  match level.next with
  | some tighter => .chain tighter node
  | none => .component node

/-- The rules by which expressions are read. -/
inductive Reads : Phrase → Parser → Parser → Prop where
  | chain {level : Level} {first node : Node} {start middle stop : Parser} :
      Reads (.operand level first) start middle →
      Reads (.links level first node) middle stop →
      Reads (.chain level node) start stop
  | noLink {level : Level} {left : Node} {start : Parser} :
      start.cursor.operator? level = none →
      Reads (.links level left left) start start
  | link {level : Level} {left right node : Node} {operator : BinaryOperator}
      {behind : Cursor} {start middle stop : Parser} :
      start.cursor.operator? level = some (operator, behind) →
      Reads (.operand level right) { start with cursor := behind } middle →
      Reads (.links level (.binary operator left right start.cursor.position)
        node) middle stop →
      Reads (.links level left node) start stop
  | plain {node : Node} {start stop : Parser} :
      Reads (.primary node) start stop →
      Reads (.component node) start stop
  | cast {target : DataType} {operand : Node} {opened named closed : Cursor}
      {start stop : Parser} :
      start.cursor.accept? "<" = some opened →
      opened.type? = some (target, named) →
      named.accept? ">" = some closed →
      Reads (.primary operand) { start with cursor := closed } stop →
      Reads (.component (.cast target operand start.cursor.position)) start stop
  | number {literal : Literal} {behind : Cursor} {start : Parser} :
      Scan.number.run start.cursor = .ok (some literal) behind →
      Reads (.primary (.literal literal start.cursor.position)) start
        { start with cursor := behind }
  | string {contents : String} {behind : Cursor} {start : Parser} :
      Scan.string.run start.cursor = .ok (some contents) behind →
      Reads (.primary (.literal (.string contents) start.cursor.position)) start
        { start with cursor := behind }
  | reference {name : String} {scope : ScopeId} {behind : Cursor}
      {start : Parser} :
      start.cursor.identifier? = some (name, behind) →
      start.scopes.current = .ok scope →
      behind.accept? "(" = none →
      Reads (.primary (.reference name scope start.cursor.position)) start
        { start with cursor := behind }
  | emptyCall {name : String} {scope : ScopeId} {behind opened closed : Cursor}
      {start : Parser} :
      start.cursor.identifier? = some (name, behind) →
      start.scopes.current = .ok scope →
      behind.accept? "(" = some opened →
      opened.accept? ")" = some closed →
      Reads (.primary (.call name [] scope start.cursor.position)) start
        { start with cursor := closed }
  | call {name : String} {first : Node} {others : List Node} {scope : ScopeId}
      {behind opened : Cursor} {start middle stop : Parser} :
      start.cursor.identifier? = some (name, behind) →
      start.scopes.current = .ok scope →
      behind.accept? "(" = some opened →
      Reads (.chain .comparison first) { start with cursor := opened } middle →
      Reads (.moreArguments others) middle stop →
      Reads (.primary
        (.call name (first :: others) scope start.cursor.position)) start stop
  | parenthesized {node : Node} {opened closed : Cursor}
      {start middle : Parser} :
      start.cursor.accept? "(" = some opened →
      Reads (.chain .comparison node) { start with cursor := opened } middle →
      middle.cursor.accept? ")" = some closed →
      Reads (.primary node) start { middle with cursor := closed }
  | lastArgument {closed : Cursor} {start : Parser} :
      start.cursor.accept? ")" = some closed →
      Reads (.moreArguments []) start { start with cursor := closed }
  | nextArgument {next : Node} {others : List Node} {behind : Cursor}
      {start middle stop : Parser} :
      start.cursor.accept? "," = some behind →
      Reads (.chain .comparison next) { start with cursor := behind } middle →
      Reads (.moreArguments others) middle stop →
      Reads (.moreArguments (next :: others)) start stop

def operandOf (expression : Parse Node) (level : Level) : Parse Node :=
  match level.next with
  | some tighter => levelOf expression tighter
  | none => componentOf expression

/-- The definition goes through the levels one by one; here they are the same
rule. -/
theorem levelOf_eq (expression : Parse Node) (level : Level) :
    levelOf expression level = chain level (operandOf expression level) := by
  cases level with
  | exponent => exact levelOf_exponent expression
  | comparison => exact levelOf_of_next rfl
  | additive => exact levelOf_of_next rfl
  | multiplicative => exact levelOf_of_next rfl

theorem expectType_ok {start stop : Parser} {found : DataType} :
    expectType.run start = .ok found stop ↔
      ∃ behind, start.cursor.type? = some (found, behind) ∧
        { start with cursor := behind } = stop := by
  rw [expectType, bind_ok]
  constructor
  · intro success
    obtain ⟨_, middle, ahead, rest⟩ := success
    rcases attempt_ok.1 ahead with
      ⟨_, rfl, _⟩ | ⟨value, behind, typed, rfl, rfl⟩
    · simp only [bind_ok, fail_ok, and_false, exists_false] at rest
    · obtain ⟨rfl, rfl⟩ := pure_ok.1 rest
      exact ⟨behind, typed, rfl⟩
  · intro parts
    obtain ⟨behind, typed, rfl⟩ := parts
    exact ⟨some found, _, attempt_ok.2 (Or.inr ⟨found, behind, typed, rfl,
      rfl⟩), pure_ok.2 ⟨rfl, rfl⟩⟩

theorem castPrefix_ok {start stop : Parser} {target : Option DataType} :
    castPrefix.run start = .ok target stop ↔
      (start.cursor.accept? "<" = none ∧ target = none ∧ start = stop) ∨
        ∃ found opened named closed, start.cursor.accept? "<" = some opened ∧
          opened.type? = some (found, named) ∧ named.accept? ">" = some closed ∧
          target = some found ∧ { start with cursor := closed } = stop := by
  rw [castPrefix, bind_ok]
  constructor
  · intro success
    obtain ⟨_, middle, ahead, rest⟩ := success
    rcases accept_ok.1 ahead with
      ⟨absent, rfl, rfl⟩ | ⟨opened, accepted, rfl, rfl⟩
    · obtain ⟨rfl, rfl⟩ := pure_ok.1 rest
      exact Or.inl ⟨absent, rfl, rfl⟩
    · simp only [if_true, bind_ok, expectType_ok, expect_ok, pure_ok] at rest
      obtain ⟨found, _, ⟨named, typed, rfl⟩, _, _, ⟨closed, close, rfl⟩,
        rfl, rfl⟩ := rest
      exact Or.inr ⟨found, opened, named, closed, accepted, typed,
        close, rfl, rfl⟩
  · intro parts
    rcases parts with ⟨absent, rfl, rfl⟩ | ⟨found, opened, named, closed,
      accepted, typed, close, rfl, rfl⟩
    · exact ⟨false, start, accept_ok.2 (Or.inl ⟨absent, rfl, rfl⟩),
        pure_ok.2 ⟨rfl, rfl⟩⟩
    · refine ⟨true, _, accept_ok.2 (Or.inr ⟨opened, accepted, rfl, rfl⟩), ?_⟩
      simp only [if_true, bind_ok, expectType_ok, expect_ok, pure_ok]
      exact ⟨found, _, ⟨named, typed, rfl⟩, (), _,
        ⟨closed, close, rfl⟩, rfl, rfl⟩

theorem afterComma_ok {α : Type} {item : Parse α} {found : Option α}
    {start stop : Parser} :
    (afterComma item).run start = .ok found stop ↔
      (start.cursor.accept? "," = none ∧ found = none ∧ start = stop) ∨
        ∃ behind value, start.cursor.accept? "," = some behind ∧
          item.run { start with cursor := behind } = .ok value stop ∧
          found = some value := by
  rw [afterComma, bind_ok]
  constructor
  · intro success
    obtain ⟨_, _, ahead, rest⟩ := success
    rcases accept_ok.1 ahead with ⟨absent, rfl, rfl⟩ | ⟨behind, comma, rfl, rfl⟩
    · obtain ⟨rfl, rfl⟩ := pure_ok.1 rest
      exact Or.inl ⟨absent, rfl, rfl⟩
    · simp only [if_true, bind_ok, pure_ok] at rest
      obtain ⟨value, _, read, rfl, rfl⟩ := rest
      exact Or.inr ⟨behind, value, comma, read, rfl⟩
  · intro parts
    rcases parts with ⟨absent, rfl, rfl⟩ | ⟨behind, value, comma, read, rfl⟩
    · exact ⟨false, start, accept_ok.2 (Or.inl ⟨absent, rfl, rfl⟩),
        pure_ok.2 ⟨rfl, rfl⟩⟩
    · refine ⟨true, _, accept_ok.2 (Or.inr ⟨behind, comma, rfl, rfl⟩), ?_⟩
      simp only [if_true, bind_ok, pure_ok]
      exact ⟨value, stop, read, rfl, rfl⟩

theorem argumentsOf_ok {expression : Parse Node} {nodes : List Node}
    {start stop : Parser} :
    (argumentsOf expression).run start = .ok nodes stop ↔
      (∃ closed, start.cursor.accept? ")" = some closed ∧ nodes = [] ∧
        { start with cursor := closed } = stop) ∨
        start.cursor.accept? ")" = none ∧ ∃ first others middle last closed,
          expression.run start = .ok first middle ∧
            (many (afterComma expression)).run middle = .ok others last ∧
            last.cursor.accept? ")" = some closed ∧ nodes = first :: others ∧
            { last with cursor := closed } = stop := by
  rw [argumentsOf, bind_ok]
  constructor
  · intro success
    obtain ⟨_, _, ahead, rest⟩ := success
    rcases accept_ok.1 ahead with ⟨absent, rfl, rfl⟩ | ⟨closed, close, rfl, rfl⟩
    · simp only [Bool.false_eq_true, if_false, bind_ok, expect_ok,
        pure_ok] at rest
      obtain ⟨first, middle, read, others, last, more, _, _,
        ⟨closed, close, rfl⟩, rfl, rfl⟩ := rest
      exact Or.inr ⟨absent, first, others, middle, last, closed, read, more,
        close, rfl, rfl⟩
    · obtain ⟨rfl, rfl⟩ := pure_ok.1 rest
      exact Or.inl ⟨closed, close, rfl, rfl⟩
  · intro parts
    rcases parts with ⟨closed, close, rfl, rfl⟩ | ⟨absent, first, others,
      middle, last, closed, read, more, close, rfl, rfl⟩
    · exact ⟨true, _, accept_ok.2 (Or.inr ⟨closed, close, rfl, rfl⟩),
        pure_ok.2 ⟨rfl, rfl⟩⟩
    · refine ⟨false, start, accept_ok.2 (Or.inl ⟨absent, rfl, rfl⟩), ?_⟩
      simp only [Bool.false_eq_true, if_false, bind_ok, expect_ok, pure_ok]
      exact ⟨first, middle, read, others, last, more, (), _,
        ⟨closed, close, rfl⟩, rfl, rfl⟩

theorem nameOf_ok {expression : Parse Node} {name : String} {place : Position}
    {node : Node} {start stop : Parser} :
    (nameOf expression name place).run start = .ok node stop ↔
      ∃ scope, start.scopes.current = .ok scope ∧
        ((start.cursor.accept? "(" = none ∧ node = .reference name scope place ∧
          start = stop) ∨
          ∃ opened arguments, start.cursor.accept? "(" = some opened ∧
            (argumentsOf expression).run { start with cursor := opened } =
              .ok arguments stop ∧
            node = .call name arguments scope place) := by
  simp only [nameOf, bind_ok, currentScope_ok]
  constructor
  · intro success
    obtain ⟨scope, _, ⟨current, rfl⟩, _, _, ahead, rest⟩ := success
    refine ⟨scope, current, ?_⟩
    rcases accept_ok.1 ahead with ⟨absent, rfl, rfl⟩ | ⟨opened, open_, rfl, rfl⟩
    · obtain ⟨rfl, rfl⟩ := pure_ok.1 rest
      exact Or.inl ⟨absent, rfl, rfl⟩
    · simp only [if_true, bind_ok, pure_ok] at rest
      obtain ⟨arguments, _, read, rfl, rfl⟩ := rest
      exact Or.inr ⟨opened, arguments, open_, read, rfl⟩
  · intro parts
    obtain ⟨scope, current,
      ⟨absent, rfl, rfl⟩ | ⟨opened, arguments, open_, read, rfl⟩⟩ := parts
    · exact ⟨scope, start, ⟨current, rfl⟩, false, start,
        accept_ok.2 (Or.inl ⟨absent, rfl, rfl⟩), pure_ok.2 ⟨rfl, rfl⟩⟩
    · refine ⟨scope, start, ⟨current, rfl⟩, true, _,
        accept_ok.2 (Or.inr ⟨opened, open_, rfl, rfl⟩), ?_⟩
      simp only [if_true, bind_ok, pure_ok]
      exact ⟨arguments, stop, read, rfl, rfl⟩

/-- A primary expression is a number, or else a string, or else what a name
begins, or else an expression in parentheses. -/
theorem primaryOf_ok {expression : Parse Node} {node : Node}
    {start stop : Parser} :
    (primaryOf expression).run start = .ok node stop ↔
      (∃ literal behind,
        Scan.number.run start.cursor = .ok (some literal) behind ∧
        node = .literal literal start.cursor.position ∧
        { start with cursor := behind } = stop) ∨
      Scan.number.run start.cursor = .ok none start.cursor ∧
        ((∃ contents behind,
          Scan.string.run start.cursor = .ok (some contents) behind ∧
          node = .literal (.string contents) start.cursor.position ∧
          { start with cursor := behind } = stop) ∨
        Scan.string.run start.cursor = .ok none start.cursor ∧
          ((∃ name behind, start.cursor.identifier? = some (name, behind) ∧
            (nameOf expression name start.cursor.position).run
              { start with cursor := behind } =
              .ok node stop) ∨
          start.cursor.identifier? = none ∧ ∃ opened middle closed,
            start.cursor.accept? "(" = some opened ∧
              expression.run { start with cursor := opened } = .ok node middle ∧
              middle.cursor.accept? ")" = some closed ∧
              { middle with cursor := closed } = stop)) := by
  simp only [primaryOf, bind_ok, position_ok]
  constructor
  · intro success
    obtain ⟨_, _, ⟨rfl, rfl⟩, literal, _, scanned, rest⟩ := success
    obtain ⟨behind, number, rfl⟩ := scan_ok.1 scanned
    cases literal with
    | some literal =>
        obtain ⟨rfl, rfl⟩ := pure_ok.1 rest
        exact Or.inl ⟨literal, behind, number, rfl, rfl⟩
    | none =>
        obtain rfl := Cursor.eq_of_number_none number
        refine Or.inr ⟨number, ?_⟩
        obtain ⟨contents, _, scanned, rest⟩ := bind_ok.1 rest
        obtain ⟨behind, string, rfl⟩ := scan_ok.1 scanned
        cases contents with
        | some contents =>
            obtain ⟨rfl, rfl⟩ := pure_ok.1 rest
            exact Or.inl ⟨contents, behind, string, rfl, rfl⟩
        | none =>
            obtain rfl := Cursor.eq_of_string_none string
            refine Or.inr ⟨string, ?_⟩
            obtain ⟨_, _, ahead, rest⟩ := bind_ok.1 rest
            rcases attempt_ok.1 ahead with
              ⟨noName, rfl, rfl⟩ | ⟨name, behind, named, rfl, rfl⟩
            · refine Or.inr ⟨noName, ?_⟩
              obtain ⟨_, _, ahead, rest⟩ := bind_ok.1 rest
              rcases accept_ok.1 ahead with
                ⟨_, rfl, rfl⟩ | ⟨opened, open_, rfl, rfl⟩
              · simp only [Bool.false_eq_true, if_false, bind_ok, fail_ok,
                  and_false, exists_false] at rest
              · simp only [if_true, bind_ok, expect_ok, pure_ok] at rest
                obtain ⟨_, middle, read, _, _, ⟨closed, close, rfl⟩,
                  rfl, rfl⟩ := rest
                exact ⟨opened, middle, closed, open_, read, close, rfl⟩
            · exact Or.inl ⟨name, behind, named, rest⟩
  · intro cases_
    refine ⟨_, start, ⟨rfl, rfl⟩, ?_⟩
    rcases cases_ with ⟨literal, behind, number, rfl, rfl⟩ | ⟨noNumber, cases_⟩
    · exact ⟨some literal, _, scan_ok.2 ⟨behind, number, rfl⟩,
        pure_ok.2 ⟨rfl, rfl⟩⟩
    · refine ⟨none, start, scan_ok.2 ⟨_, noNumber, rfl⟩, bind_ok.2 ?_⟩
      rcases cases_ with
        ⟨contents, behind, string, rfl, rfl⟩ | ⟨noString, cases_⟩
      · exact ⟨some contents, _, scan_ok.2 ⟨behind, string, rfl⟩,
          pure_ok.2 ⟨rfl, rfl⟩⟩
      · refine ⟨none, start, scan_ok.2 ⟨_, noString, rfl⟩, bind_ok.2 ?_⟩
        rcases cases_ with ⟨name, behind, named, read⟩ |
          ⟨noName, opened, middle, closed, open_, read, close, rfl⟩
        · exact ⟨some name, _,
            attempt_ok.2 (Or.inr ⟨name, behind, named, rfl, rfl⟩), read⟩
        · refine ⟨none, start, attempt_ok.2 (Or.inl ⟨noName, rfl, rfl⟩),
            bind_ok.2 ?_⟩
          refine ⟨true, _, accept_ok.2 (Or.inr ⟨opened, open_, rfl, rfl⟩), ?_⟩
          simp only [if_true, bind_ok, expect_ok, pure_ok]
          exact ⟨node, middle, read, (), _, ⟨closed, close, rfl⟩, rfl, rfl⟩

theorem componentOf_ok {expression : Parse Node} {node : Node}
    {start stop : Parser} :
    (componentOf expression).run start = .ok node stop ↔
      ∃ target middle operand, castPrefix.run start = .ok target middle ∧
        (primaryOf expression).run middle = .ok operand stop ∧
        node = (target.elim operand fun target =>
          .cast target operand start.cursor.position) := by
  simp only [componentOf, bind_ok, position_ok]
  constructor
  · intro success
    obtain ⟨_, _, ⟨rfl, rfl⟩, target, middle, cast, operand, last, read,
      rest⟩ := success
    cases target with
    | none =>
        obtain ⟨rfl, rfl⟩ := pure_ok.1 rest
        exact ⟨none, middle, operand, cast, read, rfl⟩
    | some target =>
        obtain ⟨rfl, rfl⟩ := pure_ok.1 rest
        exact ⟨some target, middle, operand, cast, read, rfl⟩
  · intro parts
    obtain ⟨target, middle, operand, cast, read, rfl⟩ := parts
    refine ⟨_, start, ⟨rfl, rfl⟩, target, middle, cast, operand, stop, read, ?_⟩
    cases target with
    | none => exact pure_ok.2 ⟨rfl, rfl⟩
    | some target => exact pure_ok.2 ⟨rfl, rfl⟩

/-- A link that begins has to be completed: an operator without an operand is
rejected. -/
theorem link_ok {level : Level} {operand : Parse Node} {found : Option Link}
    {start stop : Parser} :
    (link level operand).run start = .ok found stop ↔
      (start.cursor.operator? level = none ∧ found = none ∧ start = stop) ∨
        ∃ operator behind right,
          start.cursor.operator? level = some (operator, behind) ∧
          operand.run { start with cursor := behind } = .ok right stop ∧
          found = some ⟨operator, start.cursor.position, right⟩ := by
  simp only [link, bind_ok, position_ok]
  constructor
  · intro success
    obtain ⟨_, _, ⟨rfl, rfl⟩, _, _, ahead, rest⟩ := success
    rcases attempt_ok.1 ahead with
      ⟨absent, rfl, rfl⟩ | ⟨operator, behind, present, rfl, rfl⟩
    · obtain ⟨rfl, rfl⟩ := pure_ok.1 rest
      exact Or.inl ⟨absent, rfl, rfl⟩
    · simp only [bind_ok, pure_ok] at rest
      obtain ⟨right, _, read, rfl, rfl⟩ := rest
      exact Or.inr ⟨operator, behind, right, present, read, rfl⟩
  · intro parts
    rcases parts with
      ⟨absent, rfl, rfl⟩ | ⟨operator, behind, right, present, read, rfl⟩
    · exact ⟨_, start, ⟨rfl, rfl⟩, none, start, attempt_ok.2 (Or.inl ⟨absent,
        rfl, rfl⟩), pure_ok.2 ⟨rfl, rfl⟩⟩
    · refine ⟨_, start, ⟨rfl, rfl⟩, some operator, _,
        attempt_ok.2 (Or.inr ⟨operator, behind, present, rfl, rfl⟩), ?_⟩
      simp only [bind_ok, pure_ok]
      exact ⟨right, stop, read, rfl, rfl⟩

/-! ## Everything read follows the grammar -/

section Sound

variable {expression : Parse Node}
  (inner : ∀ node start stop, expression.run start = .ok node stop →
    Reads (.chain .comparison node) start stop)
include inner

theorem reads_moreArguments {nodes : List Node} {closed : Cursor}
    {start last : Parser}
    (others : (many (afterComma expression)).run start = .ok nodes last)
    (close : last.cursor.accept? ")" = some closed) :
    Reads (.moreArguments nodes) start { last with cursor := closed } := by
  induction nodes generalizing start with
  | nil =>
      rcases afterComma_ok.1 (many_nil_ok.1 others) with
        ⟨_, _, rfl⟩ | ⟨_, _, _, _, impossible⟩
      · exact .lastArgument close
      · cases impossible
  | cons next nodes inductionHypothesis =>
      obtain ⟨middle, read, _, others⟩ := many_cons_ok.1 others
      rcases afterComma_ok.1 read with
        ⟨_, impossible, _⟩ | ⟨behind, _, comma, read, same⟩
      · cases impossible
      · cases same
        exact .nextArgument comma (inner _ _ _ read)
          (inductionHypothesis others)

theorem reads_primary {node : Node} {start stop : Parser}
    (success : (primaryOf expression).run start = .ok node stop) :
    Reads (.primary node) start stop := by
  rcases primaryOf_ok.1 success with ⟨literal, behind, number, rfl, rfl⟩ |
    ⟨_, ⟨contents, behind, string, rfl, rfl⟩ | ⟨_, ⟨name, behind, named, read⟩ |
      ⟨_, opened, middle, closed, open_, read, close, rfl⟩⟩⟩
  · exact .number number
  · exact .string string
  · obtain ⟨scope, current,
      ⟨absent, rfl, rfl⟩ | ⟨opened, arguments, open_, inside, rfl⟩⟩ :=
      nameOf_ok.1 read
    · exact .reference named current absent
    · rcases argumentsOf_ok.1 inside with ⟨closed, close, rfl, rfl⟩ |
        ⟨_, first, others, middle, last, closed, first_, more, close, rfl, rfl⟩
      · exact .emptyCall named current open_ close
      · exact .call named current open_ (inner _ _ _ first_)
          (reads_moreArguments inner more close)
  · exact .parenthesized open_ (inner _ _ _ read) close

theorem reads_component {node : Node} {start stop : Parser}
    (success : (componentOf expression).run start = .ok node stop) :
    Reads (.component node) start stop := by
  obtain ⟨target, middle, operand, cast, read, rfl⟩ := componentOf_ok.1 success
  rcases castPrefix_ok.1 cast with ⟨_, rfl, rfl⟩ |
    ⟨target, opened, named, closed, open_, typed, close, rfl, rfl⟩
  · exact .plain (reads_primary inner read)
  · exact .cast open_ typed close (reads_primary inner read)

omit inner in
theorem reads_links {level : Level} {left : Node} {links : List Link}
    {start stop : Parser} {operand : Parse Node}
    (operandReads : ∀ node start stop, operand.run start = .ok node stop →
      Reads (.operand level node) start stop)
    (success : (many (link level operand)).run start = .ok links stop) :
    Reads (.links level left (links.foldl Link.extend left)) start stop := by
  induction links generalizing left start with
  | nil =>
      rcases link_ok.1 (many_nil_ok.1 success) with
        ⟨absent, _, rfl⟩ | ⟨_, _, _, _, _, impossible⟩
      · exact .noLink absent
      · cases impossible
  | cons next links inductionHypothesis =>
      obtain ⟨middle, one, _, others⟩ := many_cons_ok.1 success
      rcases link_ok.1 one with ⟨_, impossible, _⟩ |
        ⟨operator, behind, right, present, read, same⟩
      · cases impossible
      · cases same
        exact .link present (operandReads _ _ _ read)
          (inductionHypothesis others)

theorem reads_level (level : Level) {node : Node} {start stop : Parser}
    (success : (levelOf expression level).run start = .ok node stop) :
    Reads (.chain level node) start stop := by
  have operandReads : ∀ node start stop,
      (operandOf expression level).run start = .ok node stop →
      Reads (.operand level node) start stop := by
    intro node start stop read
    rw [operandOf] at read
    rw [Phrase.operand]
    cases next : level.next with
    | none =>
        rw [next] at read
        exact reads_component inner read
    | some tighter =>
        rw [next] at read
        exact reads_level tighter read
  rw [levelOf_eq] at success
  simp only [chain, bind_ok, pure_ok] at success
  obtain ⟨first, middle, read, links, _, more, rfl, rfl⟩ := success
  exact .chain (operandReads _ _ _ read) (reads_links operandReads more)
termination_by level.height
decreasing_by exact Level.height_next next

end Sound

/-- One half of `expression_ok`, in which `recur_ok` takes care of the
expressions inside. -/
theorem reads_of_expression_ok {node : Node} {start stop : Parser}
    (read : expression.run start = .ok node stop) :
    Reads (.chain .comparison node) start stop :=
  recur_ok (fun node start stop => Reads (.chain .comparison node) start stop)
    (fun _ inner _ _ _ read => reads_level inner .comparison read) read

/-! ## How expressions begin, and that reading one uses up text -/

def BeginsPrimary (cursor : Cursor) : Prop :=
  (∃ c ∈ cursor.rest.head?, c.isDigit = true) ∨ cursor.rest.head? = some '"' ∨
    (∃ name behind, cursor.identifier? = some (name, behind)) ∨
      cursor.rest.head? = some '('

/-- The text ahead is that of an expression, as far as its beginning shows. -/
def BeginsExpression (cursor : Cursor) : Prop :=
  cursor.rest.head? = some '<' ∨ BeginsPrimary cursor

theorem BeginsPrimary.head? {cursor : Cursor} (begins : BeginsPrimary cursor) :
    ∃ c, cursor.rest.head? = some c ∧
      (c.isDigit = true ∨ c = '"' ∨ c.isAlpha = true ∨ c = '(') := by
  rcases begins with ⟨c, head, digit⟩ | head | ⟨name, behind, named⟩ | head
  · exact ⟨c, head, Or.inl digit⟩
  · exact ⟨_, head, Or.inr (Or.inl rfl)⟩
  · obtain ⟨c, rest, ahead, letter⟩ :=
      Lexeme.isAlpha_of_word? (Cursor.identifier?_eq_some.1 named).1
    exact ⟨c, by rw [ahead]; rfl, Or.inr (Or.inr (Or.inl letter))⟩
  · exact ⟨_, head, Or.inr (Or.inr (Or.inr rfl))⟩

theorem BeginsExpression.head? {cursor : Cursor}
    (begins : BeginsExpression cursor) :
    ∃ c, cursor.rest.head? = some c ∧
      (c.isDigit = true ∨ c = '"' ∨ c.isAlpha = true ∨ c = '(' ∨ c = '<') := by
  rcases begins with head | primary
  · exact ⟨_, head, by simp⟩
  · obtain ⟨c, head, kind⟩ := primary.head?
    refine ⟨c, head, ?_⟩
    rcases kind with digit | quote | letter | paren
    · exact Or.inl digit
    · exact Or.inr (Or.inl quote)
    · exact Or.inr (Or.inr (Or.inl letter))
    · exact Or.inr (Or.inr (Or.inr (Or.inl paren)))

/-- A text is not ahead of an expression if none can begin with its first
character. -/
theorem BeginsExpression.accept?_eq_none {cursor : Cursor}
    (begins : BeginsExpression cursor)
    {text : String} {c : Char} (first : text.toList.head? = some c)
    (foreign : c.isDigit = false ∧ c ≠ '"' ∧ c.isAlpha = false ∧
      c ≠ '(' ∧ c ≠ '<') :
    cursor.accept? text = none := by
  refine Cursor.accept?_eq_none_of_head? first ?_
  obtain ⟨d, head, kind⟩ := begins.head?
  rw [head]
  intro same
  cases same
  simp_all

theorem BeginsPrimary.accept?_eq_none {cursor : Cursor}
    (begins : BeginsPrimary cursor) :
    cursor.accept? "<" = none := by
  refine Cursor.accept?_eq_none_of_head? (c := '<') rfl ?_
  obtain ⟨d, head, kind⟩ := begins.head?
  rw [head]
  intro same
  cases same
  revert kind
  decide

def Phrase.Begins (cursor : Cursor) : Phrase → Prop
  | .chain .. | .component .. => BeginsExpression cursor
  | .primary .. => BeginsPrimary cursor
  | .links .. | .moreArguments .. => True

theorem Phrase.begins_operand {cursor : Cursor} {level : Level} {node : Node} :
    (Phrase.operand level node).Begins cursor ↔ BeginsExpression cursor := by
  cases level <;> rfl

/-- What was read shows in its first lexeme. -/
theorem begins_of_reads {phrase : Phrase} {start stop : Parser}
    (reads : Reads phrase start stop) : phrase.Begins start.cursor := by
  induction reads with
  | chain _ _ operandBegins _ => exact Phrase.begins_operand.1 operandBegins
  | noLink | link | lastArgument | nextArgument => trivial
  | plain _ primaryBegins => exact Or.inr primaryBegins
  | cast opened => exact Or.inl (Cursor.head?_of_accept? opened rfl)
  | number found => exact Or.inl (Cursor.number_some found).1
  | string found => exact Or.inr (Or.inl (Cursor.string_some found).1)
  | reference named => exact Or.inr (Or.inr (Or.inl ⟨_, _, named⟩))
  | emptyCall named => exact Or.inr (Or.inr (Or.inl ⟨_, _, named⟩))
  | call named => exact Or.inr (Or.inr (Or.inl ⟨_, _, named⟩))
  | parenthesized opened =>
      exact Or.inr (Or.inr (Or.inr (Cursor.head?_of_accept? opened rfl)))

/-- How much text a phrase uses up: all but the rest of a chain use some. -/
def Phrase.Shortens (before after : Nat) : Phrase → Prop
  | .links .. => after ≤ before
  | .chain .. | .component .. | .primary .. | .moreArguments .. =>
      after < before

theorem Phrase.shortens_operand {before after : Nat} {level : Level}
    {node : Node} :
    (Phrase.operand level node).Shortens before after ↔ after < before := by
  cases level <;> rfl

/-- By induction on the rules of the grammar. -/
theorem shortens_of_reads {phrase : Phrase} {start stop : Parser}
    (reads : Reads phrase start stop) :
    phrase.Shortens start.left stop.left := by
  have shorter {text : String} {cursor behind : Cursor}
      (found : cursor.accept? text = some behind) (nonempty : text ≠ "") :
      behind.rest.length < cursor.rest.length :=
    Cursor.length_lt_of_accept? found nonempty
  induction reads with
  | chain _ _ operand links =>
      rw [Phrase.shortens_operand] at operand
      exact Nat.lt_of_le_of_lt links operand
  | noLink => exact Nat.le_refl _
  | link found _ _ operand links =>
      rw [Phrase.shortens_operand] at operand
      exact Nat.le_of_lt <| Nat.lt_of_le_of_lt links <|
        Nat.lt_trans operand (Cursor.length_lt_of_operator? found)
  | plain _ primary => exact primary
  | cast opened named closed _ primary =>
      exact Nat.lt_trans primary <| Nat.lt_trans (shorter closed (by decide)) <|
        Nat.lt_trans (Cursor.length_lt_of_type? named)
          (shorter opened (by decide))
  | number found => exact (Cursor.number_some found).2
  | string found => exact (Cursor.string_some found).2
  | reference named => exact Cursor.length_lt_of_identifier? named
  | emptyCall named _ opened closed =>
      exact Nat.lt_trans (shorter closed (by decide)) <|
        Nat.lt_trans (shorter opened (by decide))
          (Cursor.length_lt_of_identifier? named)
  | call named _ opened _ _ first others =>
      exact Nat.lt_trans others <| Nat.lt_trans first <|
        Nat.lt_trans (shorter opened (by decide))
          (Cursor.length_lt_of_identifier? named)
  | parenthesized opened _ closed inner =>
      exact Nat.lt_trans (shorter closed (by decide)) <|
        Nat.lt_trans inner (shorter opened (by decide))
  | lastArgument closed => exact shorter closed (by decide)
  | nextArgument comma _ _ next others =>
      exact Nat.lt_trans others <| Nat.lt_trans next (shorter comma (by decide))

/-! ## Everything that follows the grammar is read -/

/-- The outcome of the step that reads the phrase, where expressions inside it
are read by the given step. -/
def Phrase.RunsTo (expression : Parse Node)
    (start stop : Parser) : Phrase → Prop
  | .chain level node => (levelOf expression level).run start = .ok node stop
  | .links level left node =>
      ∃ links,
        (many (link level (operandOf expression level))).run start =
          .ok links stop ∧
        links.foldl Link.extend left = node
  | .component node => (componentOf expression).run start = .ok node stop
  | .primary node => (primaryOf expression).run start = .ok node stop
  | .moreArguments nodes =>
      ∃ last closed, (many (afterComma expression)).run start = .ok nodes last ∧
        last.cursor.accept? ")" = some closed ∧
          { last with cursor := closed } = stop

theorem Phrase.runsTo_operand {expression : Parse Node} {start stop : Parser}
    {level : Level} {node : Node} :
    (Phrase.operand level node).RunsTo expression start stop ↔
      (operandOf expression level).run start = .ok node stop := by
  cases level <;> rfl

/-- What begins with anything but a digit or a quote is neither a number nor a
string. -/
theorem noLiteral_of_head? {cursor : Cursor} {c : Char}
    (head : cursor.rest.head? = some c)
    (noDigit : c.isDigit = false) (noQuote : c ≠ '"') :
    Scan.number.run cursor = .ok none cursor ∧
    Scan.string.run cursor = .ok none cursor := by
  constructor
  · refine Cursor.number_none fun d member => ?_
    rw [head] at member
    cases member
    exact noDigit
  · refine Cursor.string_none ?_
    rw [head]
    simpa using noQuote

theorem noLiteral_of_identifier? {cursor behind : Cursor} {name : String}
    (named : cursor.identifier? = some (name, behind)) :
    Scan.number.run cursor = .ok none cursor ∧
    Scan.string.run cursor = .ok none cursor := by
  obtain ⟨c, rest, ahead, letter⟩ :=
    Lexeme.isAlpha_of_word? (Cursor.identifier?_eq_some.1 named).1
  have head : cursor.rest.head? = some c := by rw [ahead]; rfl
  refine noLiteral_of_head? head (Lexeme.isDigit_of_isAlpha letter) ?_
  rintro rfl
  exact absurd letter (by decide)

/-- A phrase that begins within a bound is read by the step whose expressions
inside it begin below that bound. -/
theorem runsTo_of_reads {phrase : Phrase} {start stop : Parser}
    (reads : Reads phrase start stop) {bound : Nat}
    (within : start.left ≤ bound) :
    phrase.RunsTo (below bound expression) start stop := by
  -- An expression inside a phrase is read at a shorter text, where the bound
  -- plays no part.
  have inner {bound : Nat} {node : Node} {start stop : Parser}
      (shorter : start.left < bound)
      (runs : (Phrase.chain .comparison node).RunsTo
        (below start.left expression) start stop) :
      (below bound expression).run start = .ok node stop :=
    below_ok.2 ⟨shorter, (run_recur _ start).trans runs⟩
  induction reads generalizing bound with
  | chain operandReads linksRead operand links =>
      have shorter := Phrase.shortens_operand.1 (shortens_of_reads operandReads)
      obtain ⟨others, more, rfl⟩ :=
        links (Nat.le_trans (Nat.le_of_lt shorter) within)
      have first := Phrase.runsTo_operand.1 (operand within)
      change (levelOf _ _).run _ = _
      rw [levelOf_eq, chain]
      exact bind_ok.2 ⟨_, _, first,
        bind_ok.2 ⟨others, _, more, pure_ok.2 ⟨rfl, rfl⟩⟩⟩
  | noLink absent =>
      exact ⟨[], many_nil_ok.2 (link_ok.2 (Or.inl ⟨absent, rfl, rfl⟩)), rfl⟩
  | link found operandReads linksRead operand links =>
      have moved := Cursor.length_lt_of_operator? found
      have operandShorter :=
        Phrase.shortens_operand.1 (shortens_of_reads operandReads)
      have shorter := Nat.lt_trans operandShorter moved
      obtain ⟨others, more, rfl⟩ :=
        links (Nat.le_trans (Nat.le_of_lt shorter) within)
      have right :=
        Phrase.runsTo_operand.1
          (operand (Nat.le_trans (Nat.le_of_lt moved) within))
      have one := link_ok.2 (Or.inr ⟨_, _, _, found, right, rfl⟩)
      exact ⟨_ :: others, many_cons_ok.2 ⟨_, one, shorter, more⟩, rfl⟩
  | plain primaryReads primary =>
      have begins : BeginsPrimary _ := begins_of_reads primaryReads
      have noCast := castPrefix_ok.2 (Or.inl ⟨begins.accept?_eq_none, rfl, rfl⟩)
      exact componentOf_ok.2 ⟨none, _, _, noCast, primary within, rfl⟩
  | cast opened named closed primaryReads primary =>
      have moved := Nat.lt_trans
        (Cursor.length_lt_of_accept? closed (by decide)) <|
        Nat.lt_trans (Cursor.length_lt_of_type? named) <|
          Cursor.length_lt_of_accept? opened (by decide)
      have target :=
        castPrefix_ok.2 (Or.inr ⟨_, _, _, _, opened, named, closed, rfl, rfl⟩)
      exact componentOf_ok.2 ⟨some _, _, _, target,
        primary (Nat.le_trans (Nat.le_of_lt moved) within), rfl⟩
  | number found => exact primaryOf_ok.2 (Or.inl ⟨_, _, found, rfl, rfl⟩)
  | @string contents behind start found =>
      have noNumber : Scan.number.run start.cursor = .ok none start.cursor := by
        refine Cursor.number_none fun c head => ?_
        rw [(Cursor.string_some found).1] at head
        cases head
        decide
      exact primaryOf_ok.2 (Or.inr ⟨noNumber, Or.inl ⟨_, _, found, rfl, rfl⟩⟩)
  | reference named current absent =>
      obtain ⟨noNumber, noString⟩ := noLiteral_of_identifier? named
      refine primaryOf_ok.2
        (Or.inr ⟨noNumber, Or.inr ⟨noString, Or.inl ⟨_, _, named, ?_⟩⟩⟩)
      exact nameOf_ok.2 ⟨_, current, Or.inl ⟨absent, rfl, rfl⟩⟩
  | emptyCall named current opened closed =>
      obtain ⟨noNumber, noString⟩ := noLiteral_of_identifier? named
      refine primaryOf_ok.2
        (Or.inr ⟨noNumber, Or.inr ⟨noString, Or.inl ⟨_, _, named, ?_⟩⟩⟩)
      refine nameOf_ok.2 ⟨_, current, Or.inr ⟨_, _, opened, ?_, rfl⟩⟩
      exact argumentsOf_ok.2 (Or.inl ⟨_, closed, rfl, rfl⟩)
  | call named current opened firstReads othersRead first others =>
      obtain ⟨noNumber, noString⟩ := noLiteral_of_identifier? named
      have begins : BeginsExpression _ := begins_of_reads firstReads
      have notEmpty : Cursor.accept? _ ")" = none :=
        begins.accept?_eq_none (c := ')') rfl (by decide)
      have moved := Nat.lt_trans
        (Cursor.length_lt_of_accept? opened (by decide)) <|
        Cursor.length_lt_of_identifier? named
      have shorter := Nat.lt_trans (shortens_of_reads firstReads) moved
      have one :=
        inner (Nat.lt_of_lt_of_le moved within) (first (Nat.le_refl _))
      obtain ⟨last, closed, more, close, rfl⟩ :=
        others (Nat.le_trans (Nat.le_of_lt shorter) within)
      refine primaryOf_ok.2
        (Or.inr ⟨noNumber, Or.inr ⟨noString, Or.inl ⟨_, _, named, ?_⟩⟩⟩)
      refine nameOf_ok.2 ⟨_, current, Or.inr ⟨_, _, opened, ?_, rfl⟩⟩
      exact argumentsOf_ok.2
        (Or.inr ⟨notEmpty, _, _, _, last, closed, one, more, close, rfl, rfl⟩)
  | parenthesized opened chainReads closed chain =>
      have head := Cursor.head?_of_accept? (c := '(') opened rfl
      obtain ⟨noNumber, noString⟩ :=
        noLiteral_of_head? head (by decide) (by decide)
      have noName := Cursor.identifier?_eq_none_of_head? head (by decide)
      have moved := Cursor.length_lt_of_accept? opened (by decide)
      have inside :=
        inner (Nat.lt_of_lt_of_le moved within) (chain (Nat.le_refl _))
      exact primaryOf_ok.2 (Or.inr ⟨noNumber, Or.inr ⟨noString,
        Or.inr ⟨noName, _, _, _, opened, inside, closed, rfl⟩⟩⟩)
  | lastArgument closed =>
      have noComma := Cursor.accept?_eq_none_of_accept? "," closed (by decide)
      exact ⟨_, _, many_nil_ok.2 (afterComma_ok.2 (Or.inl ⟨noComma, rfl, rfl⟩)),
        closed, rfl⟩
  | nextArgument comma nextReads othersRead next others =>
      have moved := Cursor.length_lt_of_accept? comma (by decide)
      have shorter := Nat.lt_trans (shortens_of_reads nextReads) moved
      have one := inner (Nat.lt_of_lt_of_le moved within) (next (Nat.le_refl _))
      obtain ⟨last, closed, more, close, rfl⟩ :=
        others (Nat.le_trans (Nat.le_of_lt shorter) within)
      have item := afterComma_ok.2 (Or.inr ⟨_, _, comma, one, rfl⟩)
      exact ⟨last, closed, many_cons_ok.2 ⟨_, item, shorter, more⟩, close, rfl⟩

/-- The expression reader succeeds with exactly what the grammar allows. -/
theorem expression_ok {node : Node} {start stop : Parser} :
    expression.run start = .ok node stop ↔
      Reads (.chain .comparison node) start stop := by
  constructor
  · exact reads_of_expression_ok
  · intro reads
    rw [expression, run_recur]
    exact runsTo_of_reads reads (Nat.le_refl _)

end Minilang.Grammar
