import Minilang.Proofs.Reading.Expression
import Minilang.Program

/-!
# The grammar of statements

The grammar of expressions goes on with parameters, statements and blocks. A
rule leads from the state before a stretch of the source to the state behind it,
and the state carries the scopes, so the rules also say which scope is open at
each name and where a name is declared. The main statements, `statementList_ok`
and `parse_ok`, say that lists of statements and programs are read exactly as
the grammar allows.
-/

namespace Minilang.Grammar

open Parse Steps

/-- A parameter: its type and its name, which is declared at once. -/
inductive ReadsParameter : Node → Parser → Parser → Prop where
  | parameter {type : DataType} {name : String} {typed named : Cursor}
      {scopes : Scopes} {start : Parser} :
      start.cursor.type? = some (type, typed) →
      typed.identifier? = some (name, named) →
      start.scopes.declare? name type = .ok (some scopes) →
      ReadsParameter (.declaration type name none start.cursor.position) start
        ⟨named, scopes⟩

/-- Further parameters, each behind a comma, with the closing parenthesis. -/
inductive ReadsMoreParameters : List Node → Parser → Parser → Prop where
  | last {closed : Cursor} {start : Parser} :
      start.cursor.accept? ")" = some closed →
      ReadsMoreParameters [] start { start with cursor := closed }
  | next {next : Node} {others : List Node} {behind : Cursor}
      {start middle stop : Parser} :
      start.cursor.accept? "," = some behind →
      ReadsParameter next { start with cursor := behind } middle →
      ReadsMoreParameters others middle stop →
      ReadsMoreParameters (next :: others) start stop

inductive ReadsParameters : List Node → Parser → Parser → Prop where
  | none {closed : Cursor} {start : Parser} :
      start.cursor.accept? ")" = some closed →
      ReadsParameters [] start { start with cursor := closed }
  | some {first : Node} {others : List Node} {start middle stop : Parser} :
      ReadsParameter first start middle →
      ReadsMoreParameters others middle stop →
      ReadsParameters (first :: others) start stop

/-- A part of a program together with what it is read as. -/
inductive Clause where
  | statement (node : Node)
  /-- All statements up to the end of their list. -/
  | statements (items : List Node)
  /-- Statements between braces, in a scope of their own. -/
  | block (node : Node)

/-- The rules by which statements are read. -/
inductive ReadsClause : Clause → Parser → Parser → Prop where
  | listEnd {start : Parser} :
      atListEnd start.cursor = true →
      ReadsClause (.statements []) start start
  | statements {first : Node} {others : List Node}
      {start middle stop : Parser} :
      ReadsClause (.statement first) start middle →
      ReadsClause (.statements others) middle stop →
      ReadsClause (.statements (first :: others)) start stop
  | block {items : List Node} {opened closed : Cursor} {inner outer : Scopes}
      {start middle : Parser} :
      start.cursor.accept? "\x7b" = some opened →
      start.scopes.enter = .ok inner →
      ReadsClause (.statements items) ⟨opened, inner⟩ middle →
      middle.cursor.accept? "\x7d" = some closed →
      middle.scopes.exit = .ok outer →
      ReadsClause (.block (.statements items opened.position)) start
        ⟨closed, outer⟩
  | expression {node : Node} {start stop : Parser} :
      Reads (.chain .comparison node) start stop →
      ReadsClause (.statement node) start stop
  | print {value : Node} {behind : Cursor} {start stop : Parser} :
      Form.read? start.cursor = some (.print, behind) →
      Reads (.chain .comparison value) { start with cursor := behind } stop →
      ReadsClause (.statement (.print value start.cursor.position)) start stop
  | assignment {name : String} {value : Node} {scope : ScopeId}
      {behind named opened : Cursor} {start stop : Parser} :
      Form.read? start.cursor = some (.assignment, behind) →
      behind.identifier? = some (name, named) →
      start.scopes.current = .ok scope →
      named.accept? "=" = some opened →
      Reads (.chain .comparison value) { start with cursor := opened } stop →
      ReadsClause (.statement
        (.assignment (.reference name scope behind.position) value
          start.cursor.position)) start stop
  | loop {predicate body : Node} {behind : Cursor}
      {start middle stop : Parser} :
      Form.read? start.cursor = some (.loop, behind) →
      Reads (.chain .comparison predicate)
        { start with cursor := behind } middle →
      ReadsClause (.block body) middle stop →
      ReadsClause (.statement (.loop predicate body start.cursor.position))
        start stop
  | conditional {predicate thenBranch : Node} {behind : Cursor}
      {start middle stop : Parser} :
      Form.read? start.cursor = some (.conditional, behind) →
      Reads (.chain .comparison predicate)
        { start with cursor := behind } middle →
      ReadsClause (.block thenBranch) middle stop →
      stop.cursor.keyword? "else" = none →
      ReadsClause (.statement
        (.conditional predicate thenBranch none start.cursor.position))
        start stop
  | alternative {predicate thenBranch elseBranch : Node} {behind other : Cursor}
      {start middle last stop : Parser} :
      Form.read? start.cursor = some (.conditional, behind) →
      Reads (.chain .comparison predicate)
        { start with cursor := behind } middle →
      ReadsClause (.block thenBranch) middle last →
      last.cursor.keyword? "else" = some other →
      ReadsClause (.block elseBranch) { last with cursor := other } stop →
      ReadsClause (.statement
        (.conditional predicate thenBranch (some elseBranch)
          start.cursor.position)) start stop
  | uninitialized {type : DataType} {name : String} {typed named : Cursor}
      {scopes : Scopes} {start : Parser} :
      start.cursor.type? = some (type, typed) →
      typed.identifier? = some (name, named) →
      named.accept? "(" = none →
      named.accept? "=" = none →
      start.scopes.declare? name type = .ok (some scopes) →
      ReadsClause (.statement
        (.declaration type name none start.cursor.position)) start
        ⟨named, scopes⟩
  | initialized {type : DataType} {name : String} {value : Node}
      {typed named opened : Cursor} {scopes : Scopes} {start stop : Parser} :
      start.cursor.type? = some (type, typed) →
      typed.identifier? = some (name, named) →
      named.accept? "=" = some opened →
      Reads (.chain .comparison value) { start with cursor := opened } stop →
      stop.scopes.declare? name type = .ok (some scopes) →
      ReadsClause (.statement
        (.declaration type name (some value) start.cursor.position)) start
        { stop with scopes }
  | function {type : DataType} {name : String} {parameters items : List Node}
      {typed named opened bodyOpened closed : Cursor}
      {inner outer declared bound : Scopes} {start middle last : Parser} :
      start.cursor.type? = some (type, typed) →
      typed.identifier? = some (name, named) →
      named.accept? "(" = some opened →
      start.scopes.enter = .ok inner →
      ReadsParameters parameters ⟨opened, inner⟩ middle →
      middle.cursor.accept? "\x7b" = some bodyOpened →
      ReadsClause (.statements items)
        { middle with cursor := bodyOpened } last →
      last.cursor.accept? "\x7d" = some closed →
      last.scopes.exit = .ok outer →
      outer.declare? name .callable = .ok (some declared) →
      declared.bind name (Node.signature type parameters) = .ok bound →
      ReadsClause (.statement (.function type name parameters
        (.statements items bodyOpened.position) start.cursor.position)) start
          ⟨closed, bound⟩

/-! ## What it takes for each step to succeed -/

variable {start stop : Parser}

theorem expectIdentifier_ok {name : String} :
    expectIdentifier.run start = .ok name stop ↔
      ∃ behind, start.cursor.identifier? = some (name, behind) ∧
        { start with cursor := behind } = stop := by
  rw [expectIdentifier, bind_ok]
  constructor
  · intro success
    obtain ⟨_, middle, ahead, rest⟩ := success
    rcases attempt_ok.1 ahead with
      ⟨_, rfl, _⟩ | ⟨value, behind, named, rfl, rfl⟩
    · simp only [bind_ok, fail_ok, and_false, exists_false] at rest
    · obtain ⟨rfl, rfl⟩ := pure_ok.1 rest
      exact ⟨behind, named, rfl⟩
  · intro parts
    obtain ⟨behind, named, rfl⟩ := parts
    exact ⟨some name, _, attempt_ok.2 (Or.inr ⟨name, behind, named, rfl, rfl⟩),
      pure_ok.2 ⟨rfl, rfl⟩⟩

theorem parameter_ok {type : DataType} {place : Position} {node : Node} :
    (parameter type place).run start = .ok node stop ↔
      ∃ name named scopes, start.cursor.identifier? = some (name, named) ∧
        start.scopes.declare? name type = .ok (some scopes) ∧
        node = .declaration type name none place ∧ ⟨named, scopes⟩ = stop := by
  simp only [parameter, bind_ok, expectIdentifier_ok, declare_ok, pure_ok]
  constructor
  · intro success
    obtain ⟨name, _, ⟨named, identified, rfl⟩, _, _, ⟨scopes, declared, rfl⟩,
      rfl, rfl⟩ := success
    exact ⟨name, named, scopes, identified, declared, rfl, rfl⟩
  · intro parts
    obtain ⟨name, named, scopes, identified, declared, rfl, rfl⟩ := parts
    exact ⟨name, _, ⟨named, identified, rfl⟩, (), _,
      ⟨scopes, declared, rfl⟩, rfl, rfl⟩

theorem expectParameter_ok {node : Node} :
    expectParameter.run start = .ok node stop ↔
      ReadsParameter node start stop := by
  simp only [expectParameter, bind_ok, position_ok, expectType_ok, parameter_ok]
  constructor
  · intro success
    obtain ⟨_, _, ⟨rfl, rfl⟩, type, _, ⟨typed, found, rfl⟩, name, named, scopes,
      identified, declared, rfl, rfl⟩ := success
    exact .parameter found identified declared
  · intro parts
    obtain ⟨found, identified, declared⟩ := parts
    exact ⟨_, _, ⟨rfl, rfl⟩, _, _, ⟨_, found, rfl⟩, _, _, _, identified,
      declared, rfl, rfl⟩

theorem shortens_of_readsParameter {node : Node}
    (reads : ReadsParameter node start stop) :
    stop.left < start.left := by
  cases reads with
  | parameter found identified declared =>
      exact Nat.lt_trans (Cursor.length_lt_of_identifier? identified)
        (Cursor.length_lt_of_type? found)

theorem shortens_of_readsMoreParameters {nodes : List Node}
    (reads : ReadsMoreParameters nodes start stop) :
    stop.left < start.left := by
  induction reads with
  | last closed => exact Cursor.length_lt_of_accept? closed (by decide)
  | next comma parameter _ others =>
      exact Nat.lt_trans others <| Nat.lt_trans (shortens_of_readsParameter
        parameter) (Cursor.length_lt_of_accept? comma (by decide))

theorem moreParameters_ok {nodes : List Node} :
    (∃ last closed,
      (many (afterComma expectParameter)).run start = .ok nodes last ∧
      last.cursor.accept? ")" = some closed ∧
      { last with cursor := closed } = stop) ↔
      ReadsMoreParameters nodes start stop := by
  constructor
  · intro success
    obtain ⟨last, closed, others, close, rfl⟩ := success
    induction nodes generalizing start with
    | nil =>
        rcases afterComma_ok.1 (many_nil_ok.1 others) with
          ⟨_, _, rfl⟩ | ⟨_, _, _, _, impossible⟩
        · exact .last close
        · cases impossible
    | cons next nodes inductionHypothesis =>
        obtain ⟨middle, read, _, others⟩ := many_cons_ok.1 others
        rcases afterComma_ok.1 read with
          ⟨_, impossible, _⟩ | ⟨behind, _, comma, read, same⟩
        · cases impossible
        · cases same
          exact .next comma (expectParameter_ok.1 read)
            (inductionHypothesis others)
  · intro reads
    induction reads with
    | last closed =>
        have noComma := Cursor.accept?_eq_none_of_accept? "," closed (by decide)
        exact ⟨_, _, many_nil_ok.2
          (afterComma_ok.2 (Or.inl ⟨noComma, rfl, rfl⟩)), closed, rfl⟩
    | next comma parameter _ others =>
        obtain ⟨last, closed, more, close, rfl⟩ := others
        have shorter := Nat.lt_trans (shortens_of_readsParameter parameter)
          (Cursor.length_lt_of_accept? comma (by decide))
        have item :=
          afterComma_ok.2
            (Or.inr ⟨_, _, comma, expectParameter_ok.2 parameter, rfl⟩)
        exact ⟨last, closed,
          many_cons_ok.2 ⟨_, item, shorter, more⟩, close, rfl⟩

theorem parameters_ok {nodes : List Node} :
    parameters.run start = .ok nodes stop ↔
      ReadsParameters nodes start stop := by
  rw [parameters, bind_ok]
  constructor
  · intro success
    obtain ⟨_, _, at_, rest⟩ := success
    obtain ⟨rfl, rfl⟩ := position_ok.1 at_
    obtain ⟨_, _, ahead, rest⟩ := bind_ok.1 rest
    rcases attempt_ok.1 ahead with
      ⟨_, rfl, rfl⟩ | ⟨type, typed, found, rfl, rfl⟩
    · simp only [bind_ok, expect_ok, pure_ok] at rest
      obtain ⟨_, _, ⟨closed, close, rfl⟩, rfl, rfl⟩ := rest
      exact .none close
    · simp only [bind_ok, parameter_ok, expect_ok, pure_ok] at rest
      obtain ⟨_, _, ⟨name, named, scopes, identified, declared, rfl, rfl⟩,
        others, last, more, _, _, ⟨closed, close, rfl⟩, rfl, rfl⟩ := rest
      exact .some (.parameter found identified declared)
        (moreParameters_ok.1 ⟨last, closed, more, close, rfl⟩)
  · intro reads
    refine ⟨_, start, position_ok.2 ⟨rfl, rfl⟩, ?_⟩
    cases reads with
    | none close =>
        have noType : start.cursor.type? = none := by
          refine (Cursor.keywords_eq_none fun word ahead => ?_).2
          have head := Cursor.head?_of_accept? (c := ')') close rfl
          rw [Cursor.word?,
            Lexeme.word?_eq_none_of_head? head (by decide)] at ahead
          cases ahead
        refine bind_ok.2 ⟨none, start,
          attempt_ok.2 (Or.inl ⟨noType, rfl, rfl⟩), ?_⟩
        exact bind_ok.2 ⟨(), _, expect_ok.2 ⟨_, close, rfl⟩,
          pure_ok.2 ⟨rfl, rfl⟩⟩
    | some first others =>
        obtain ⟨last, closed, more, close, rfl⟩ := moreParameters_ok.2 others
        cases first with
        | parameter found identified declared =>
            refine bind_ok.2
              ⟨_, _, attempt_ok.2 (Or.inr ⟨_, _, found, rfl, rfl⟩), ?_⟩
            simp only [bind_ok, parameter_ok, expect_ok, pure_ok]
            exact ⟨_, _, ⟨_, _, _, identified, declared, rfl, rfl⟩, _, last,
              more, (), _, ⟨closed, close, rfl⟩, rfl, rfl⟩

theorem blockBodyOf_ok {list : Parse Node} {node : Node} :
    (blockBodyOf list).run start = .ok node stop ↔
      ∃ middle closed, list.run start = .ok node middle ∧
        middle.cursor.accept? "\x7d" = some closed ∧
        { middle with cursor := closed } = stop := by
  simp only [blockBodyOf, bind_ok, expect_ok, pure_ok]
  constructor
  · intro success
    obtain ⟨_, middle, read, _, _, ⟨closed, close, rfl⟩, rfl, rfl⟩ := success
    exact ⟨middle, closed, read, close, rfl⟩
  · intro parts
    obtain ⟨middle, closed, read, close, rfl⟩ := parts
    exact ⟨node, middle, read, (), _, ⟨closed, close, rfl⟩, rfl, rfl⟩

theorem blockOf_ok {list : Parse Node} {node : Node} :
    (blockOf list).run start = .ok node stop ↔
      ∃ opened inner middle closed outer,
        start.cursor.accept? "\x7b" = some opened ∧
        start.scopes.enter = .ok inner ∧
        list.run ⟨opened, inner⟩ = .ok node middle ∧
        middle.cursor.accept? "\x7d" = some closed ∧
        middle.scopes.exit = .ok outer ∧
        ⟨closed, outer⟩ = stop := by
  simp only [blockOf, bind_ok, expect_ok, inScope_ok, blockBodyOf_ok]
  constructor
  · intro success
    obtain ⟨_, _, ⟨opened, open_, rfl⟩, inner, _, outer, entered,
      ⟨middle, closed, read, close, rfl⟩, left, rfl⟩ := success
    exact ⟨opened, inner, middle, closed, outer, open_, entered, read,
      close, left, rfl⟩
  · intro parts
    obtain ⟨opened, inner, middle, closed, outer, open_, entered, read, close,
      left, rfl⟩ := parts
    exact ⟨(), _, ⟨opened, open_, rfl⟩, inner, _, outer, entered,
      ⟨middle, closed, read, close, rfl⟩, left, rfl⟩

theorem elseBranchOf_ok {list : Parse Node} {found : Option Node} :
    (elseBranchOf list).run start = .ok found stop ↔
      (start.cursor.keyword? "else" = none ∧ found = none ∧ start = stop) ∨
        ∃ behind node, start.cursor.keyword? "else" = some behind ∧
          (blockOf list).run { start with cursor := behind } = .ok node stop ∧
          found = some node := by
  rw [elseBranchOf, bind_ok]
  constructor
  · intro success
    obtain ⟨_, _, ahead, rest⟩ := success
    rcases acceptKeyword_ok.1 ahead with
      ⟨absent, rfl, rfl⟩ | ⟨behind, present, rfl, rfl⟩
    · obtain ⟨rfl, rfl⟩ := pure_ok.1 rest
      exact Or.inl ⟨absent, rfl, rfl⟩
    · simp only [if_true, bind_ok, pure_ok] at rest
      obtain ⟨node, _, read, rfl, rfl⟩ := rest
      exact Or.inr ⟨behind, node, present, read, rfl⟩
  · intro parts
    rcases parts with ⟨absent, rfl, rfl⟩ | ⟨behind, node, present, read, rfl⟩
    · exact ⟨false, start, acceptKeyword_ok.2 (Or.inl ⟨absent, rfl, rfl⟩),
        pure_ok.2 ⟨rfl, rfl⟩⟩
    · refine ⟨true, _,
        acceptKeyword_ok.2 (Or.inr ⟨behind, present, rfl, rfl⟩), ?_⟩
      simp only [if_true, bind_ok, pure_ok]
      exact ⟨node, stop, read, rfl, rfl⟩

theorem assignment_ok {place : Position} {node : Node} :
    (assignment place).run start = .ok node stop ↔
      ∃ name scope value named opened,
        start.cursor.identifier? = some (name, named) ∧
        start.scopes.current = .ok scope ∧ named.accept? "=" = some opened ∧
        expression.run { start with cursor := opened } = .ok value stop ∧
        node = .assignment (.reference name scope start.cursor.position)
          value place := by
  simp only [assignment, bind_ok, position_ok, expectIdentifier_ok,
    currentScope_ok, expect_ok, pure_ok]
  constructor
  · intro success
    obtain ⟨_, _, ⟨rfl, rfl⟩, name, _, ⟨named, identified, rfl⟩, scope, _,
      ⟨current, rfl⟩, _, _, ⟨opened, equals, rfl⟩, value, _, read, rfl,
      rfl⟩ := success
    exact ⟨name, scope, value, named, opened, identified, current,
      equals, read, rfl⟩
  · intro parts
    obtain ⟨name, scope, value, named, opened, identified, current, equals,
      read, rfl⟩ := parts
    exact ⟨_, start, ⟨rfl, rfl⟩, name, _, ⟨named, identified, rfl⟩, scope, _,
      ⟨current, rfl⟩, (), _, ⟨opened, equals, rfl⟩, value, stop, read, rfl, rfl⟩

theorem initializer_ok {found : Option Node} :
    initializer.run start = .ok found stop ↔
      (start.cursor.accept? "=" = none ∧ found = none ∧ start = stop) ∨
        ∃ opened value, start.cursor.accept? "=" = some opened ∧
          expression.run { start with cursor := opened } = .ok value stop ∧
          found = some value := by
  rw [initializer, bind_ok]
  constructor
  · intro success
    obtain ⟨_, _, ahead, rest⟩ := success
    rcases accept_ok.1 ahead with
      ⟨absent, rfl, rfl⟩ | ⟨opened, equals, rfl, rfl⟩
    · obtain ⟨rfl, rfl⟩ := pure_ok.1 rest
      exact Or.inl ⟨absent, rfl, rfl⟩
    · simp only [if_true, bind_ok, pure_ok] at rest
      obtain ⟨value, _, read, rfl, rfl⟩ := rest
      exact Or.inr ⟨opened, value, equals, read, rfl⟩
  · intro parts
    rcases parts with ⟨absent, rfl, rfl⟩ | ⟨opened, value, equals, read, rfl⟩
    · exact ⟨false, start, accept_ok.2 (Or.inl ⟨absent, rfl, rfl⟩),
        pure_ok.2 ⟨rfl, rfl⟩⟩
    · refine ⟨true, _, accept_ok.2 (Or.inr ⟨opened, equals, rfl, rfl⟩), ?_⟩
      simp only [if_true, bind_ok, pure_ok]
      exact ⟨value, stop, read, rfl, rfl⟩

theorem functionOf_ok {list : Parse Node} {type : DataType} {name : String}
    {place : Position} {node : Node} :
    (functionOf list type name place).run start = .ok node stop ↔
      ∃ inner parameters middle bodyOpened body last closed outer
        declared bound,
        start.scopes.enter = .ok inner ∧
        ReadsParameters parameters { start with scopes := inner } middle ∧
        middle.cursor.accept? "\x7b" = some bodyOpened ∧
        list.run { middle with cursor := bodyOpened } = .ok body last ∧
        last.cursor.accept? "\x7d" = some closed ∧
        last.scopes.exit = .ok outer ∧
        outer.declare? name .callable = .ok (some declared) ∧
        declared.bind name (Node.signature type parameters) = .ok bound ∧
        node = .function type name parameters body place ∧
        ⟨closed, bound⟩ = stop := by
  simp only [functionOf, functionPartsOf, bind_ok, inScope_ok, parameters_ok,
    expect_ok, blockBodyOf_ok, declare_ok, changeScopes_ok, pure_ok]
  constructor
  · intro success
    obtain ⟨_, _, ⟨inner, _, outer, entered, ⟨parameters, middle, read, _, _,
      ⟨bodyOpened, open_, rfl⟩, body, _, ⟨last, closed, items, close, rfl⟩, rfl,
      rfl⟩, left, rfl⟩, _, _, ⟨declared, declares, rfl⟩, _, _, ⟨bound, binds,
      rfl⟩, rfl, rfl⟩ := success
    exact ⟨inner, parameters, middle, bodyOpened, body, last, closed, outer,
      declared, bound, entered, read, open_, items, close, left, declares,
      binds, rfl, rfl⟩
  · intro parts
    obtain ⟨inner, parameters, middle, bodyOpened, body, last, closed, outer,
      declared, bound, entered, read, open_, items, close, left, declares,
      binds, rfl, rfl⟩ := parts
    exact ⟨(parameters, body), _, ⟨inner, _, outer, entered, ⟨parameters,
      middle, read, (), _, ⟨bodyOpened, open_, rfl⟩, body, _, ⟨last, closed,
      items, close, rfl⟩, rfl, rfl⟩, left, rfl⟩, (), _, ⟨declared, declares,
      rfl⟩, (), _, ⟨bound, binds, rfl⟩, rfl, rfl⟩

theorem declarationOf_ok {list : Parse Node} {type : DataType}
    {place : Position} {node : Node} :
    (declarationOf list type place).run start = .ok node stop ↔
      ∃ name named, start.cursor.identifier? = some (name, named) ∧
        ((∃ opened, named.accept? "(" = some opened ∧
          (functionOf list type name place).run
            { start with cursor := opened } = .ok node stop) ∨
        named.accept? "(" = none ∧ ∃ value middle scopes,
          initializer.run { start with cursor := named } = .ok value middle ∧
          middle.scopes.declare? name type = .ok (some scopes) ∧
          node = .declaration type name value place ∧
          { middle with scopes } = stop) := by
  rw [declarationOf, bind_ok]
  constructor
  · intro success
    obtain ⟨name, _, ahead, rest⟩ := success
    obtain ⟨named, identified, rfl⟩ := expectIdentifier_ok.1 ahead
    refine ⟨name, named, identified, ?_⟩
    obtain ⟨_, _, ahead, rest⟩ := bind_ok.1 rest
    rcases accept_ok.1 ahead with ⟨absent, rfl, rfl⟩ | ⟨opened, open_, rfl, rfl⟩
    · simp only [Bool.false_eq_true, if_false, bind_ok, declare_ok,
        pure_ok] at rest
      obtain ⟨value, middle, read, _, _, ⟨scopes, declared, rfl⟩, rfl, rfl⟩ :=
        rest
      exact Or.inr ⟨absent, value, middle, scopes, read, declared, rfl, rfl⟩
    · exact Or.inl ⟨opened, open_, rest⟩
  · intro parts
    obtain ⟨name, named, identified, ⟨opened, open_, read⟩ | ⟨absent, value,
      middle, scopes, read, declared, rfl, rfl⟩⟩ := parts
    · exact ⟨name, _, expectIdentifier_ok.2 ⟨named, identified,
        rfl⟩, bind_ok.2 ⟨true, _, accept_ok.2 (Or.inr ⟨opened,
        open_, rfl, rfl⟩), read⟩⟩
    · refine ⟨name, _, expectIdentifier_ok.2 ⟨named, identified, rfl⟩,
        bind_ok.2 ⟨false, _, accept_ok.2 (Or.inl ⟨absent, rfl, rfl⟩), ?_⟩⟩
      simp only [Bool.false_eq_true, if_false, bind_ok, declare_ok, pure_ok]
      exact ⟨value, middle, read, (), _, ⟨scopes, declared, rfl⟩, rfl, rfl⟩

/-- A statement is one of the forms with a word of their own, or else a
declaration, or else, where the list goes on, an expression. -/
theorem statementOf_ok {list : Parse Node} {found : Option Node} :
    (statementOf list).run start = .ok found stop ↔
      (∃ form behind node, Form.read? start.cursor = some (form, behind) ∧
        (formOf list form start.cursor.position).run
          { start with cursor := behind } =
          .ok node stop ∧ found = some node) ∨
      Form.read? start.cursor = none ∧
        ((∃ type typed node, start.cursor.type? = some (type, typed) ∧
          (declarationOf list type start.cursor.position).run
            { start with cursor := typed } =
            .ok node stop ∧ found = some node) ∨
        start.cursor.type? = none ∧
          ((atListEnd start.cursor = true ∧ found = none ∧ start = stop) ∨
          atListEnd start.cursor = false ∧
            ∃ node, expression.run start = .ok node stop ∧
              found = some node)) := by
  rw [statementOf, bind_ok]
  constructor
  · intro success
    obtain ⟨_, _, at_, rest⟩ := success
    obtain ⟨rfl, rfl⟩ := position_ok.1 at_
    obtain ⟨_, _, ahead, rest⟩ := bind_ok.1 rest
    rcases attempt_ok.1 ahead with
      ⟨noForm, rfl, rfl⟩ | ⟨form, behind, read, rfl, rfl⟩
    · refine Or.inr ⟨noForm, ?_⟩
      obtain ⟨_, _, ahead, rest⟩ := bind_ok.1 rest
      rcases attempt_ok.1 ahead with
        ⟨noType, rfl, rfl⟩ | ⟨type, typed, read, rfl, rfl⟩
      · refine Or.inr ⟨noType, ?_⟩
        obtain ⟨_, _, ahead, rest⟩ := bind_ok.1 rest
        obtain ⟨rfl, rfl⟩ := ask_ok.1 ahead
        cases ends : atListEnd start.cursor with
        | true =>
            rw [ends] at rest
            obtain ⟨rfl, rfl⟩ := pure_ok.1 rest
            exact Or.inl ⟨rfl, rfl, rfl⟩
        | false =>
            simp only [ends, Bool.false_eq_true, if_false, bind_ok,
              pure_ok] at rest
            obtain ⟨node, _, read, rfl, rfl⟩ := rest
            exact Or.inr ⟨rfl, node, read, rfl⟩
      · simp only [bind_ok, pure_ok] at rest
        obtain ⟨node, _, tail, rfl, rfl⟩ := rest
        exact Or.inl ⟨type, typed, node, read, tail, rfl⟩
    · simp only [bind_ok, pure_ok] at rest
      obtain ⟨node, _, tail, rfl, rfl⟩ := rest
      exact Or.inl ⟨form, behind, node, read, tail, rfl⟩
  · intro alternatives
    refine ⟨_, start, position_ok.2 ⟨rfl, rfl⟩, bind_ok.2 ?_⟩
    rcases alternatives with
      ⟨form, behind, node, read, rest, rfl⟩ | ⟨noForm, alternatives⟩
    · refine ⟨some form, _,
        attempt_ok.2 (Or.inr ⟨form, behind, read, rfl, rfl⟩), ?_⟩
      exact bind_ok.2 ⟨node, stop, rest, pure_ok.2 ⟨rfl, rfl⟩⟩
    · refine ⟨none, start, attempt_ok.2 (Or.inl ⟨noForm, rfl, rfl⟩),
        bind_ok.2 ?_⟩
      rcases alternatives with
        ⟨type, typed, node, read, rest, rfl⟩ | ⟨noType, alternatives⟩
      · refine ⟨some type, _,
          attempt_ok.2 (Or.inr ⟨type, typed, read, rfl, rfl⟩), ?_⟩
        exact bind_ok.2 ⟨node, stop, rest, pure_ok.2 ⟨rfl, rfl⟩⟩
      · refine ⟨none, start, attempt_ok.2 (Or.inl ⟨noType, rfl, rfl⟩),
          bind_ok.2 ?_⟩
        rcases alternatives with ⟨ends, rfl, rfl⟩ | ⟨goesOn, node, read, rfl⟩
        · exact ⟨true, start, ask_ok.2 ⟨ends, rfl⟩, pure_ok.2 ⟨rfl, rfl⟩⟩
        · refine ⟨false, start, ask_ok.2 ⟨goesOn, rfl⟩, ?_⟩
          exact bind_ok.2 ⟨node, stop, read, pure_ok.2 ⟨rfl, rfl⟩⟩

theorem statementListOf_ok {list : Parse Node} {node : Node} :
    (statementListOf list).run start = .ok node stop ↔
      ∃ items, (many (statementOf list)).run start = .ok items stop ∧
        node = .statements items start.cursor.position := by
  simp only [statementListOf, bind_ok, position_ok, pure_ok]
  constructor
  · intro success
    obtain ⟨_, _, ⟨rfl, rfl⟩, items, _, read, rfl, rfl⟩ := success
    exact ⟨items, read, rfl⟩
  · intro parts
    obtain ⟨items, read, rfl⟩ := parts
    exact ⟨_, start, ⟨rfl, rfl⟩, items, stop, read, rfl, rfl⟩

/-! ## Everything read follows the grammar -/

section Sound

variable {list : Parse Node}
  (inner : ∀ node start stop, list.run start = .ok node stop →
    ∃ items, node = .statements items start.cursor.position ∧
      ReadsClause (.statements items) start stop)
include inner

theorem reads_block {node : Node}
    (success : (blockOf list).run start = .ok node stop) :
    ReadsClause (.block node) start stop := by
  obtain ⟨opened, scopes, middle, closed, outer, open_, entered, read, close,
    left, rfl⟩ :=
    blockOf_ok.1 success
  obtain ⟨items, rfl, itemsRead⟩ := inner _ _ _ read
  exact .block open_ entered itemsRead close left

theorem reads_form {form : Form} {behind : Cursor} {node : Node}
    (found : Form.read? start.cursor = some (form, behind))
    (success : (formOf list form start.cursor.position).run
      { start with cursor := behind } = .ok node stop) :
    ReadsClause (.statement node) start stop := by
  cases form with
  | conditional =>
      simp only [formOf, conditionalOf, bind_ok, pure_ok] at success
      obtain ⟨predicate, middle, condition, thenBranch, last, thenRead,
        elseBranch, _, elseRead, rfl, rfl⟩ := success
      rcases elseBranchOf_ok.1 elseRead with
        ⟨absent, rfl, rfl⟩ | ⟨other, node, word, read, rfl⟩
      · exact .conditional found (expression_ok.1 condition)
          (reads_block inner thenRead) absent
      · exact .alternative found (expression_ok.1 condition) (reads_block inner
          thenRead) word (reads_block inner read)
  | loop =>
      simp only [formOf, loopOf, bind_ok, pure_ok] at success
      obtain ⟨predicate, middle, condition, body, _, read, rfl, rfl⟩ := success
      exact .loop found (expression_ok.1 condition) (reads_block inner read)
  | print =>
      simp only [formOf, printStatement, bind_ok, pure_ok] at success
      obtain ⟨value, _, read, rfl, rfl⟩ := success
      exact .print found (expression_ok.1 read)
  | assignment =>
      obtain ⟨name, scope, value, named, opened, identified, current, equals,
        read, rfl⟩ :=
        assignment_ok.1 success
      exact .assignment found identified current equals (expression_ok.1 read)

theorem reads_declaration {type : DataType} {typed : Cursor} {node : Node}
    (found : start.cursor.type? = some (type, typed))
    (success : (declarationOf list type start.cursor.position).run
      { start with cursor := typed } = .ok node stop) :
    ReadsClause (.statement node) start stop := by
  obtain ⟨name, named, identified, ⟨opened, open_, read⟩ | ⟨noFunction, value,
    middle, scopes, read, declared, rfl, rfl⟩⟩ := declarationOf_ok.1 success
  · obtain ⟨scopes, parameters, middle, bodyOpened, body, last, closed, outer,
      declared, bound,
      entered, parametersRead, bodyOpen, bodyRead, close, left, declares,
        binds, rfl, rfl⟩ :=
      functionOf_ok.1 read
    obtain ⟨items, rfl, itemsRead⟩ := inner _ _ _ bodyRead
    exact .function found identified open_ entered parametersRead bodyOpen
      itemsRead close left declares binds
  · rcases initializer_ok.1 read with
      ⟨absent, rfl, rfl⟩ | ⟨opened, value, equals, first, rfl⟩
    · exact .uninitialized found identified noFunction absent declared
    · exact .initialized found identified equals
        (expression_ok.1 first) declared

theorem reads_statement {node : Node}
    (success : (statementOf list).run start = .ok (some node) stop) :
    ReadsClause (.statement node) start stop := by
  rcases statementOf_ok.1 success with ⟨form, behind, _, found, read, same⟩
    | ⟨_, ⟨type, typed, _, found, read, same⟩ | ⟨_, ⟨_, impossible, _⟩ | ⟨_,
    _, read, same⟩⟩⟩
  · cases same
    exact reads_form inner found read
  · cases same
    exact reads_declaration inner found read
  · cases impossible
  · cases same
    exact .expression (expression_ok.1 read)

theorem reads_statements {items : List Node}
    (success : (many (statementOf list)).run start = .ok items stop) :
    ReadsClause (.statements items) start stop := by
  induction items generalizing start with
  | nil =>
      rcases statementOf_ok.1 (many_nil_ok.1 success) with ⟨_, _, _, _, _,
        impossible⟩ | ⟨_, ⟨_, _, _, _, _, impossible⟩ | ⟨_, ⟨ends, _, rfl⟩ | ⟨_,
        _, _, impossible⟩⟩⟩
      · cases impossible
      · cases impossible
      · exact .listEnd ends
      · cases impossible
  | cons first others inductionHypothesis =>
      obtain ⟨middle, read, _, more⟩ := many_cons_ok.1 success
      exact .statements (reads_statement inner read) (inductionHypothesis more)

end Sound

/-- A list has the place at which it begins, even if it is empty. -/
theorem reads_of_statementList_ok {node : Node}
    (success : statementList.run start = .ok node stop) :
    ∃ items, node = .statements items start.cursor.position ∧
      ReadsClause (.statements items) start stop := by
  refine recur_ok (fun node start stop =>
    ∃ items, node = .statements items start.cursor.position ∧
      ReadsClause (.statements items) start stop) ?_ success
  intro list inner node start stop read
  obtain ⟨items, many, rfl⟩ := statementListOf_ok.1 read
  exact ⟨items, rfl, reads_statements inner many⟩

/-! ## Everything that follows the grammar is read -/

/-- How much text a clause uses up: all but a list of statements use some. -/
def Clause.Shortens (before after : Nat) : Clause → Prop
  | .statements _ => after ≤ before
  | .statement _ | .block _ => after < before

theorem shortens_of_readsParameters {nodes : List Node}
    (reads : ReadsParameters nodes start stop) :
    stop.left < start.left := by
  cases reads with
  | none close => exact Cursor.length_lt_of_accept? close (by decide)
  | some first others =>
      exact Nat.lt_trans (shortens_of_readsMoreParameters others)
        (shortens_of_readsParameter first)

/-- By induction on the rules of the grammar. -/
theorem shortens_of_readsClause {clause : Clause}
    (reads : ReadsClause clause start stop) :
    clause.Shortens start.left stop.left := by
  have shorter {text : String} {cursor behind : Cursor}
      (found : cursor.accept? text = some behind) (nonempty : text ≠ "") :
      behind.rest.length < cursor.rest.length :=
    Cursor.length_lt_of_accept? found nonempty
  induction reads with
  | listEnd => exact Nat.le_refl _
  | statements _ _ first others =>
      exact Nat.le_of_lt (Nat.lt_of_le_of_lt others first)
  | block opened _ _ closed _ items =>
      exact Nat.lt_trans (shorter closed (by decide)) <|
        Nat.lt_of_le_of_lt items (shorter opened (by decide))
  | expression reads => exact shortens_of_reads reads
  | print found value =>
      exact Nat.lt_trans (shortens_of_reads value)
        (Cursor.length_lt_of_formRead? found)
  | assignment found named _ equals value =>
      exact Nat.lt_trans (shortens_of_reads value) <| Nat.lt_trans
        (shorter equals (by decide)) <|
        Nat.lt_trans (Cursor.length_lt_of_identifier? named)
          (Cursor.length_lt_of_formRead? found)
  | loop found predicate _ body =>
      exact Nat.lt_trans body <|
        Nat.lt_trans (shortens_of_reads predicate)
          (Cursor.length_lt_of_formRead? found)
  | conditional found predicate _ _ thenBranch =>
      exact Nat.lt_trans thenBranch <|
        Nat.lt_trans (shortens_of_reads predicate)
          (Cursor.length_lt_of_formRead? found)
  | alternative found predicate _ word _ thenBranch elseBranch =>
      have moved := Cursor.length_lt_of_keyword? (by decide +kernel) word
      exact Nat.lt_trans elseBranch <| Nat.lt_trans moved <| Nat.lt_trans
        thenBranch <|
        Nat.lt_trans (shortens_of_reads predicate)
          (Cursor.length_lt_of_formRead? found)
  | uninitialized found named =>
      exact Nat.lt_trans (Cursor.length_lt_of_identifier? named)
        (Cursor.length_lt_of_type? found)
  | initialized found named equals value =>
      exact Nat.lt_trans (shortens_of_reads value) <| Nat.lt_trans
        (shorter equals (by decide)) <|
        Nat.lt_trans (Cursor.length_lt_of_identifier? named)
          (Cursor.length_lt_of_type? found)
  | function found named opened _ parameters bodyOpened _ closed _ _ _ items =>
      exact Nat.lt_trans (shorter closed (by decide)) <|
        Nat.lt_of_le_of_lt items <|
        Nat.lt_trans (shorter bodyOpened (by decide)) <|
          Nat.lt_trans (shortens_of_readsParameters parameters) <|
            Nat.lt_trans (shorter opened (by decide)) <|
              Nat.lt_trans (Cursor.length_lt_of_identifier? named)
                (Cursor.length_lt_of_type? found)

/-- The outcome of the step that reads the clause, where lists inside it are
read by the given step. -/
def Clause.RunsTo (list : Parse Node) (start stop : Parser) : Clause → Prop
  | .statement node => (statementOf list).run start = .ok (some node) stop
  | .statements items => (many (statementOf list)).run start = .ok items stop
  | .block node => (blockOf list).run start = .ok node stop

/-- The word of a form is not that of a type. -/
theorem type?_eq_none_of_formRead? {cursor behind : Cursor} {form : Form}
    (found : Form.read? cursor = some (form, behind)) :
    cursor.type? = none := by
  rw [Option.eq_none_iff_forall_ne_some]
  rintro ⟨type, typed⟩ read
  obtain ⟨entry, member, _, word, _⟩ := Cursor.type?_eq_some.1 read
  have same : form.word = entry.1 :=
    Option.some.inj ((Cursor.formRead?_eq_some.1 found).1.symm.trans word)
  have different : ∀ form : Form, ∀ entry ∈ DataType.words,
      form.word ≠ entry.1 := by
    intro form
    cases form <;> decide
  exact different form entry member same

theorem formRead?_eq_none_of_type? {cursor behind : Cursor} {type : DataType}
    (found : cursor.type? = some (type, behind)) :
    Form.read? cursor = none := by
  rw [Option.eq_none_iff_forall_ne_some]
  rintro ⟨form, other⟩ read
  rw [type?_eq_none_of_formRead? read] at found
  cases found

/-- A word at the beginning of an expression is not reserved. -/
theorem BeginsExpression.notReserved {cursor : Cursor}
    (begins : BeginsExpression cursor) {word : String}
    (ahead : cursor.word? = some word) : Lexeme.isReserved word = false := by
  rcases begins with
    head | ⟨d, head, digit⟩ | head | ⟨name, behind, named⟩ | head
  · rw [Cursor.word?, Lexeme.word?_eq_none_of_head? head (by decide)] at ahead
    cases ahead
  · obtain ⟨e, rest, split, letter⟩ := Lexeme.isAlpha_of_word? ahead
    rw [split] at head
    cases head
    rw [Lexeme.isDigit_of_isAlpha letter] at digit
    cases digit
  · rw [Cursor.word?, Lexeme.word?_eq_none_of_head? head (by decide)] at ahead
    cases ahead
  · obtain ⟨found, notReserved, _⟩ := Cursor.identifier?_eq_some.1 named
    rw [ahead] at found
    cases found
    exact notReserved
  · rw [Cursor.word?, Lexeme.word?_eq_none_of_head? head (by decide)] at ahead
    cases ahead

/-- Where an expression begins, no list ends and no keyword stands. -/
theorem BeginsExpression.noStatementWord {cursor : Cursor}
    (begins : BeginsExpression cursor) :
    Form.read? cursor = none ∧ cursor.type? = none ∧
    atListEnd cursor = false := by
  obtain ⟨c, head, kind⟩ := begins.head?
  obtain ⟨noForm, noType⟩ := Cursor.keywords_eq_none fun _ ahead =>
    begins.notReserved ahead
  refine ⟨noForm, noType, ?_⟩
  rw [atListEnd]
  split
  · rename_i ahead
    rw [ahead] at head
    cases head
  · rename_i ahead
    rw [ahead] at head
    cases head
    revert kind
    decide
  · rfl

theorem noStatementWord_of_atListEnd {cursor : Cursor}
    (ends : atListEnd cursor = true) :
    Form.read? cursor = none ∧ cursor.type? = none := by
  refine Cursor.keywords_eq_none fun word ahead => ?_
  obtain ⟨c, rest, split, letter⟩ := Lexeme.isAlpha_of_word? ahead
  rw [atListEnd, split] at ends
  split at ends
  · rename_i same
    cases same
  · rename_i same
    cases same
    exact absurd letter (by decide)
  · cases ends

/-- The step reads lists that begin below the bound. The lists inside them begin
at shorter texts. -/
def ReadsLists (list : Parse Node) (bound : Nat) : Prop :=
  ∀ {items : List Node} {start stop : Parser}, start.left < bound →
    (Clause.statements items).RunsTo
      (below start.left statementList) start stop →
    list.run start = .ok (.statements items start.cursor.position) stop

/-- The reading of lists is what the readings of statements assume about the
lists inside them. -/
theorem readsLists_statementList (bound : Nat) :
    ReadsLists statementList bound := by
  intro items start stop _ runs
  rw [statementList, run_recur]
  exact statementListOf_ok.2 ⟨items, runs, rfl⟩

theorem readsLists_below (bound : Nat) :
    ReadsLists (below bound statementList) bound := by
  intro items start stop shorter runs
  exact below_ok.2 ⟨shorter, readsLists_statementList bound shorter runs⟩

/-- A clause that begins within a bound is read by the step if it reads the
lists inside. -/
theorem runsTo_of_readsClause {clause : Clause}
    (reads : ReadsClause clause start stop) {list : Parse Node} {bound : Nat}
    (within : start.left ≤ bound)
    (lists : ReadsLists list bound) : clause.RunsTo list start stop := by
  have ofForm {list : Parse Node} {form : Form} {behind : Cursor} {node : Node}
      {start stop : Parser}
      (found : Form.read? start.cursor = some (form, behind))
      (runs : (formOf list form start.cursor.position).run
        { start with cursor := behind } = .ok node stop) :
      (Clause.statement node).RunsTo list start stop :=
    statementOf_ok.2 (Or.inl ⟨form, behind, node, found, runs, rfl⟩)
  have ofType {list : Parse Node} {type : DataType} {typed : Cursor}
      {node : Node}
      {start stop : Parser} (found : start.cursor.type? = some (type, typed))
      (runs : (declarationOf list type start.cursor.position).run
        { start with cursor := typed } = .ok node stop) :
      (Clause.statement node).RunsTo list start stop :=
    statementOf_ok.2
      (Or.inr ⟨formRead?_eq_none_of_type? found,
        Or.inl ⟨type, typed, node, found, runs, rfl⟩⟩)
  induction reads generalizing list bound with
  | listEnd ends =>
      obtain ⟨noForm, noType⟩ := noStatementWord_of_atListEnd ends
      exact many_nil_ok.2 (statementOf_ok.2 (Or.inr ⟨noForm, Or.inr ⟨noType,
        Or.inl ⟨ends, rfl, rfl⟩⟩⟩))
  | statements firstReads othersRead first others =>
      have shorter := shortens_of_readsClause firstReads
      exact many_cons_ok.2 ⟨_, first within lists, shorter,
        others (Nat.le_trans (Nat.le_of_lt shorter) within) lists⟩
  | block opened entered itemsRead closed left items =>
      have moved := Cursor.length_lt_of_accept? opened (by decide)
      have body := lists (Nat.lt_of_lt_of_le moved within)
        (items (Nat.le_refl _) (readsLists_below _))
      exact blockOf_ok.2 ⟨_, _, _, _, _, opened, entered, body,
        closed, left, rfl⟩
  | expression reads =>
      have begins : BeginsExpression _ := begins_of_reads reads
      obtain ⟨noForm, noType, goesOn⟩ := begins.noStatementWord
      exact statementOf_ok.2 (Or.inr ⟨noForm, Or.inr ⟨noType,
        Or.inr ⟨goesOn, _, expression_ok.2 reads, rfl⟩⟩⟩)
  | print found value =>
      refine ofForm found
        (bind_ok.2 ⟨_, _, expression_ok.2 value, pure_ok.2 ⟨rfl, rfl⟩⟩)
  | assignment found named current equals value =>
      exact ofForm found (assignment_ok.2
        ⟨_, _, _, _, _, named, current, equals, expression_ok.2 value, rfl⟩)
  | loop found predicate bodyReads body =>
      have moved :=
        Nat.lt_trans (shortens_of_reads predicate)
          (Cursor.length_lt_of_formRead? found)
      have block := body (Nat.le_trans (Nat.le_of_lt moved) within) lists
      exact ofForm found (bind_ok.2 ⟨_, _, expression_ok.2 predicate,
        bind_ok.2 ⟨_, _, block, pure_ok.2 ⟨rfl, rfl⟩⟩⟩)
  | conditional found predicate thenReads absent thenBranch =>
      have moved :=
        Nat.lt_trans (shortens_of_reads predicate)
          (Cursor.length_lt_of_formRead? found)
      have block := thenBranch (Nat.le_trans (Nat.le_of_lt moved) within) lists
      have noOther : (elseBranchOf list).run _ = .ok none _ :=
        elseBranchOf_ok.2 (Or.inl ⟨absent, rfl, rfl⟩)
      exact ofForm found (bind_ok.2 ⟨_, _, expression_ok.2 predicate,
        bind_ok.2 ⟨_, _, block, bind_ok.2 ⟨_, _, noOther,
        pure_ok.2 ⟨rfl, rfl⟩⟩⟩⟩)
  | alternative found predicate thenReads word elseReads thenBranch elseBranch =>
      have moved :=
        Nat.lt_trans (shortens_of_reads predicate)
          (Cursor.length_lt_of_formRead? found)
      have block := thenBranch (Nat.le_trans (Nat.le_of_lt moved) within) lists
      have shorter := Nat.lt_trans
        (Cursor.length_lt_of_keyword? (by decide +kernel) word) <|
        Nat.lt_trans (shortens_of_readsClause thenReads) moved
      have other := elseBranchOf_ok.2
        (Or.inr ⟨_, _, word,
          elseBranch (Nat.le_trans (Nat.le_of_lt shorter) within) lists, rfl⟩)
      exact ofForm found (bind_ok.2 ⟨_, _, expression_ok.2 predicate,
        bind_ok.2 ⟨_, _, block, bind_ok.2 ⟨_, _, other, pure_ok.2 ⟨rfl, rfl⟩⟩⟩⟩)
  | @uninitialized type name typed named scopes start found identified
      noFunction noValue
      declared =>
      have first : initializer.run { start with cursor := named } =
          .ok none { start with cursor := named } :=
        initializer_ok.2 (Or.inl ⟨noValue, rfl, rfl⟩)
      exact ofType found (declarationOf_ok.2 ⟨_, _, identified,
        Or.inr ⟨noFunction, _, _, _, first, declared, rfl, rfl⟩⟩)
  | initialized found named equals value declared =>
      have noFunction :=
        Cursor.accept?_eq_none_of_accept? "(" equals (by decide)
      have first : initializer.run ⟨_, _⟩ = .ok (some _) _ :=
        initializer_ok.2 (Or.inr ⟨_, _, equals, expression_ok.2 value, rfl⟩)
      exact ofType found (declarationOf_ok.2
        ⟨_, _, named, Or.inr ⟨noFunction, _, _, _, first, declared, rfl, rfl⟩⟩)
  | function found named opened entered parameters bodyOpened itemsRead closed
      left declared binds
      items =>
      have behindParameters := Nat.lt_trans
        (shortens_of_readsParameters parameters) <|
        Nat.lt_trans (Cursor.length_lt_of_accept? opened (by decide)) <|
          Nat.lt_trans (Cursor.length_lt_of_identifier? named)
            (Cursor.length_lt_of_type? found)
      have moved := Nat.lt_trans
        (Cursor.length_lt_of_accept? bodyOpened (by decide))
        behindParameters
      have body := lists (Nat.lt_of_lt_of_le moved within)
        (items (Nat.le_refl _) (readsLists_below _))
      exact ofType found
        (declarationOf_ok.2 ⟨_, _, named, Or.inl ⟨_, opened, functionOf_ok.2
          ⟨_, _, _, _, _, _, _, _, _, _, entered, parameters, bodyOpened, body,
            closed, left, declared, binds, rfl, rfl⟩⟩⟩)

/-- Lists of statements are read exactly as the grammar allows. -/
theorem statementList_ok {node : Node} :
    statementList.run start = .ok node stop ↔
      ∃ items, node = .statements items start.cursor.position ∧
        ReadsClause (.statements items) start stop := by
  constructor
  · exact reads_of_statementList_ok
  · intro parts
    obtain ⟨items, rfl, reads⟩ := parts
    exact readsLists_statementList _ (Nat.lt_succ_self _)
      (runsTo_of_readsClause reads (Nat.le_refl _) (readsLists_below _))

/-- Single statements are read exactly as the grammar allows. -/
theorem statement_ok {node : Node} :
    statement.run start = .ok (some node) stop ↔
      ReadsClause (.statement node) start stop := by
  constructor
  · exact reads_statement fun _ _ _ => reads_of_statementList_ok
  · intro reads
    exact runsTo_of_readsClause reads (Nat.le_refl _)
      (readsLists_statementList _)

/-- Programs are read exactly as the grammar allows. -/
theorem parse_ok {source file : String} {program : Program} :
    Program.parse source file = .ok program ↔
      ∃ items stop, ReadsClause (.statements items) (.start source file) stop ∧
        stop.cursor.rest = [] ∧
        program = ⟨.statements items (Parser.start source file).cursor.position,
          stop.scopes⟩ := by
  have read_ok {root : Node} {stop : Parser} :
      Program.read.run (.start source file) = .ok root stop ↔
        statementList.run (.start source file) = .ok root stop ∧
          stop.cursor.rest = [] := by
    simp only [Program.read, bind_ok, ask_ok, Cursor.atEnd]
    constructor
    · intro success
      obtain ⟨node, middle, read, _, _, ⟨rfl, rfl⟩, rest⟩ := success
      cases ends : middle.cursor.rest with
      | nil =>
          simp only [ends, List.isEmpty_nil, if_true, pure_ok] at rest
          obtain ⟨rfl, rfl⟩ := rest
          exact ⟨read, ends⟩
      | cons c others =>
          simp only [ends, List.isEmpty_cons, Bool.false_eq_true, if_false,
            bind_ok, fail_ok, and_false, exists_false] at rest
    · intro parts
      obtain ⟨read, ends⟩ := parts
      refine ⟨root, stop, read, true, stop, ⟨?_, rfl⟩, pure_ok.2 ⟨rfl, rfl⟩⟩
      rw [ends]
      rfl
  rw [Program.parse]
  constructor
  · intro success
    split at success
    · rename_i root stop read
      cases success
      obtain ⟨listed, ends⟩ := read_ok.1 read
      obtain ⟨items, rfl, reads⟩ := statementList_ok.1 listed
      exact ⟨items, stop, reads, ends, rfl⟩
    · cases success
  · intro parts
    obtain ⟨items, stop, reads, ends, rfl⟩ := parts
    rw [read_ok.2 ⟨statementList_ok.2 ⟨items, rfl, reads⟩, ends⟩]

end Minilang.Grammar
