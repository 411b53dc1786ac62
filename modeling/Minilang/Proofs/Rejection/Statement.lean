import Minilang.Proofs.Rejection.Expression

namespace Minilang

namespace Grammar

open Parse Steps

variable {source : Cursor} {origin start here : Parser}
  (outset : source.Rests origin.cursor)
include outset

section Parameters

variable {known : List Node} (inside : Inside origin .parameters known here)
include inside

theorem refused_parameter {type : DataType} {typed : Cursor}
    (found : here.cursor.type? = some (type, typed)) :
    Refused source origin (parameter type here.cursor.position)
      { here with cursor := typed } := by
  have rests := inside.rests outset
  have behindType : source.Rests typed := rests.of_type? found
  refine FailsAs.bind (refused_expectIdentifier behindType)
    fun name middle success => ?_
  obtain ⟨named, identified, rfl⟩ := expectIdentifier_ok.1 success
  refine FailsAs.bind (rejectsAs_declare fun declared => ?_) fun _ _ _ =>
    failsAs_pure _
  exact .declaration rests inside (.parameter found identified) declared

theorem refused_expectParameter :
    Refused source origin expectParameter here := by
  refine FailsAs.onward (run_position here) ?_
  refine FailsAs.bind (refused_expectType (inside.rests outset))
    fun type middle success => ?_
  obtain ⟨typed, found, rfl⟩ := expectType_ok.1 success
  exact refused_parameter outset inside found

end Parameters

def BehindParameter (origin here : Parser) : Prop :=
  ∃ known parameter before, Inside origin .parameters known before ∧
    ReadsParameter parameter before here

omit outset in
theorem BehindParameter.next {behind : Cursor}
    (reached : BehindParameter origin here)
    (comma : here.cursor.accept? "," = some behind) :
    ∃ known, Inside origin .parameters known
      { here with cursor := behind } := by
  obtain ⟨known, parameter, before, inside, reads⟩ := reached
  exact ⟨known ++ [parameter], .parameter inside reads comma⟩

theorem BehindParameter.rests (reached : BehindParameter origin here) :
    source.Rests here.cursor := by
  obtain ⟨known, parameter, before, inside, reads⟩ := reached
  exact rests_of_readsParameter reads (inside.rests outset)

theorem refused_parameters (inside : Inside origin .parameters [] here) :
    Refused source origin parameters here := by
  have rests := inside.rests outset
  refine FailsAs.onward (run_position here) ?_
  apply rejectsAs_attempt
  · intro type typed found
    refine FailsAs.bind (refused_parameter outset inside found)
      fun first middle success => ?_
    obtain ⟨name, named, scopes, identified, declared, rfl, rfl⟩ :=
      parameter_ok.1 success
    have reached : BehindParameter origin ⟨named, scopes⟩ :=
      ⟨[], _, here, inside, .parameter found identified declared⟩
    have goesOn : ∀ (values : List Node) (here : Parser) (value : Node)
        (next : Parser), BehindParameter origin here →
        (afterComma expectParameter).run here = .ok (some value) next →
        BehindParameter origin next := by
      intro values here value next behind one
      rcases afterComma_ok.1 one with
        ⟨_, impossible, _⟩ | ⟨opened, parameter, comma, read, _⟩
      · cases impossible
      · obtain ⟨known, further⟩ := behind.next comma
        exact ⟨known, parameter, _, further, expectParameter_ok.1 read⟩
    have ends : ∀ (values : List Node) (here next : Parser),
        BehindParameter origin here →
        (afterComma expectParameter).run here = .ok none next →
          BehindParameter origin next := by
      intro values here next behind last
      rcases afterComma_ok.1 last with ⟨_, _, same⟩ | ⟨_, _, _, _, impossible⟩
      · rwa [← same]
      · cases impossible
    refine FailsAs.bind ?_ fun others last more => ?_
    · refine rejectsAs_many _ (fun _ here behind => ?_) goesOn [] reached
      apply refused_afterComma
      intro opened comma
      obtain ⟨known, further⟩ := behind.next comma
      exact refused_expectParameter outset further
    · have atEnd := holds_of_many_ok _ goesOn ends [] reached more
      apply rejectsAs_expect
      · intro absent
        exact .text (atEnd.rests outset) absent
      · intro closed _
        exact failsAs_pure _
  · intro _
    apply rejectsAs_expect
    · intro absent
      exact .text rests absent
    · intro closed _
      exact failsAs_pure []

section Lists

variable {list : Parse Node}
  (reads : ∀ node start stop, list.run start = .ok node stop →
    ∃ items, node = .statements items start.cursor.position ∧
      ReadsClause (.statements items) start stop)
  (refused : ∀ items start, Inside origin .statements items start →
    Refused source origin list start)
include reads refused

theorem refused_blockBodyOf {items : List Node}
    (inside : Inside origin .statements items here) :
    Refused source origin (blockBodyOf list) here := by
  refine FailsAs.bind (refused items here inside) fun body middle success => ?_
  obtain ⟨_, _, bodyReads⟩ := reads _ _ _ success
  have atEnd := rests_of_readsClause bodyReads (inside.rests outset)
  apply rejectsAs_expect
  · intro absent
    exact .text atEnd absent
  · intro closed _
    exact failsAs_pure body

theorem refused_blockOf (rests : source.Rests start.cursor)
    (within : ∀ next, ReadsBrace start next →
      Inside origin .statements [] next) :
    Refused source origin (blockOf list) start := by
  apply rejectsAs_expect
  · intro absent
    exact .text rests absent
  · intro opened open_
    apply rejectsAs_inScope
    intro inner entered
    exact refused_blockBodyOf outset reads refused
      (within _ (.brace open_ entered))

section Statements

variable {items : List Node} (inside : Inside origin .statements items here)
include inside

theorem refused_formOf {form : Form} {behind : Cursor}
    (found : Form.read? here.cursor = some (form, behind)) :
    Refused source origin (formOf list form here.cursor.position)
      { here with cursor := behind } := by
  have behindWord : source.Rests behind :=
    (inside.rests outset).of_formRead? found
  cases form with
  | conditional =>
      refine FailsAs.bind (refused_expression behindWord)
        fun predicate middle condition => ?_
      have condition := expression_ok.1 condition
      have behindPredicate := rests_of_reads condition behindWord
      refine FailsAs.bind ?_ fun thenBranch last thenRead => ?_
      · apply refused_blockOf outset reads refused behindPredicate
        intro next brace
        exact .body inside (Or.inl rfl) found condition brace
      · have thenReads := reads_block reads thenRead
        have behindBranch := rests_of_readsClause thenReads behindPredicate
        refine FailsAs.bind ?_ fun _ _ _ => failsAs_pure _
        apply rejectsAs_advanceIf
        · intro other word
          have behindElse : source.Rests other :=
            behindBranch.of_keyword? word
          refine FailsAs.bind ?_ fun _ _ _ => failsAs_pure _
          apply refused_blockOf outset reads refused behindElse
          intro next brace
          exact .alternative inside found condition thenReads word brace
        · intro _
          exact failsAs_pure none
  | loop =>
      refine FailsAs.bind (refused_expression behindWord)
        fun predicate middle condition => ?_
      have condition := expression_ok.1 condition
      refine FailsAs.bind ?_ fun _ _ _ => failsAs_pure _
      apply refused_blockOf outset reads refused
        (rests_of_reads condition behindWord)
      intro next brace
      exact .body inside (Or.inr rfl) found condition brace
  | print =>
      exact FailsAs.bind (refused_expression behindWord) fun _ _ _ =>
        failsAs_pure _
  | assignment =>
      refine FailsAs.onward (run_position _) ?_
      refine FailsAs.bind (refused_expectIdentifier behindWord)
        fun name middle success => ?_
      obtain ⟨named, identified, rfl⟩ := expectIdentifier_ok.1 success
      have behindName : source.Rests named :=
        behindWord.of_identifier? identified
      apply rejectsAs_currentScope
      intro scope _
      apply rejectsAs_expect
      · intro absent
        exact .text behindName absent
      · intro opened equals
        have behindEquals : source.Rests opened := behindName.of_accept? equals
        exact FailsAs.bind (refused_expression behindEquals) fun _ _ _ =>
          failsAs_pure _

/-- Parameters and body are two parts of one block, so a name of a parameter is
taken in the body. -/
theorem refused_functionOf {type : DataType} {name : String}
    {typed named opened : Cursor}
    (found : here.cursor.type? = some (type, typed))
    (identified : typed.identifier? = some (name, named))
    (open_ : named.accept? "(" = some opened) :
    Refused source origin (functionOf list type name here.cursor.position)
      { here with cursor := opened } := by
  refine FailsAs.bind ?_ fun parts middle success => ?_
  · apply rejectsAs_inScope
    intro inner entered
    have head : ReadsHead type name here ⟨opened, inner⟩ :=
      .head found identified open_ entered
    have first : Inside origin .parameters [] ⟨opened, inner⟩ :=
      .function inside head
    refine FailsAs.bind (refused_parameters outset first)
      fun parameters last success => ?_
    have parametersRead := parameters_ok.1 success
    apply rejectsAs_expect
    · intro absent
      exact .text (rests_of_readsParameters parametersRead
        (first.rests outset)) absent
    · intro bodyOpened bodyOpen
      have body : Inside origin .statements parameters
          { last with cursor := bodyOpened } :=
        .functionBody inside head parametersRead bodyOpen
      exact FailsAs.bind (refused_blockBodyOf outset reads refused body)
        fun _ _ _ => failsAs_pure _
  · obtain ⟨inner, last, outer, entered, read, left, rfl⟩ :=
      inScope_ok.1 success
    refine FailsAs.bind (rejectsAs_declare fun declared => ?_) fun _ _ _ => ?_
    · simp only [functionPartsOf, bind_ok, parameters_ok, expect_ok,
        blockBodyOf_ok, pure_ok] at read
      obtain ⟨parameters, middle, parametersRead, _, _, ⟨bodyOpened, bodyOpen,
        rfl⟩, body, _, ⟨atEnd, closed, bodyRead, close, rfl⟩, rfl, rfl⟩ := read
      obtain ⟨items, _, itemsRead⟩ := reads _ _ _ bodyRead
      exact .declaration (inside.rests outset) inside
        (.function (.head found identified open_ entered) parametersRead
          bodyOpen itemsRead close
          left) declared
    · exact FailsAs.bind rejectsAs_changeScopes fun _ _ _ => failsAs_pure _

/-- The name is declared last, so a name that is taken is refused behind the
whole declaration and at its beginning. -/
theorem refused_declarationOf {type : DataType} {typed : Cursor}
    (found : here.cursor.type? = some (type, typed)) :
    Refused source origin (declarationOf list type here.cursor.position)
      { here with cursor := typed } := by
  have rests := inside.rests outset
  have behindType : source.Rests typed := rests.of_type? found
  refine FailsAs.bind (refused_expectIdentifier behindType)
    fun name middle success => ?_
  obtain ⟨named, identified, rfl⟩ := expectIdentifier_ok.1 success
  have behindName : source.Rests named := behindType.of_identifier? identified
  apply rejectsAs_advanceIf
  · intro opened open_
    exact refused_functionOf outset reads refused inside found identified open_
  · intro noFunction
    refine FailsAs.bind ?_ fun value last success => ?_
    · apply rejectsAs_advanceIf
      · intro opened equals
        have behindEquals : source.Rests opened := behindName.of_accept? equals
        exact FailsAs.bind (refused_expression behindEquals) fun _ _ _ =>
          failsAs_pure _
      · intro _
        exact failsAs_pure none
    · refine FailsAs.bind (rejectsAs_declare fun declared => ?_) fun _ _ _ =>
        failsAs_pure _
      rcases initializer_ok.1 success with
        ⟨absent, _, rfl⟩ | ⟨opened, first, equals, read, _⟩
      · exact .declaration rests inside
          (.uninitialized found identified noFunction absent) declared
      · exact .declaration rests inside
          (.initialized found identified equals (expression_ok.1 read)) declared

theorem refused_statementOf :
    Refused source origin (statementOf list) here := by
  refine FailsAs.onward (run_position here) ?_
  apply rejectsAs_attempt
  · intro form behind found
    exact FailsAs.bind (refused_formOf outset reads refused inside found)
      fun _ _ _ => failsAs_pure _
  · intro _
    apply rejectsAs_attempt
    · intro type typed found
      exact FailsAs.bind (refused_declarationOf outset reads refused inside
        found) fun _ _ _ => failsAs_pure _
    · intro _
      refine FailsAs.onward (run_ask _ here) ?_
      cases atListEnd here.cursor with
      | true => exact failsAs_pure none
      | false =>
          exact FailsAs.bind (refused_expression (inside.rests outset))
            fun _ _ _ => failsAs_pure _

/-- What the block has read so far is carried along as the repetition goes
on. -/
theorem refused_statementListOf :
    Refused source origin (statementListOf list) here := by
  refine FailsAs.onward (run_position here) ?_
  refine FailsAs.bind ?_ fun _ _ _ => failsAs_pure _
  refine rejectsAs_many (fun values here => Inside origin .statements
    (items ++ values) here) (fun _ here inside => refused_statementOf outset
    reads refused inside) ?_ [] (by rwa [List.append_nil])
  intro values here value next inside success
  rw [← List.append_assoc]
  exact .statement inside (reads_statement reads success)

end Statements

end Lists

/-- From a point between the constructs of a block, the reading of the
statements that follow is refused or ends with success. -/
theorem refused_statementList {items : List Node}
    (inside : Inside origin .statements items here) :
    Refused source origin statementList here := by
  refine rejectsAs_recur (fun here => ∃ items,
    Inside origin .statements items here) ?_ ⟨items, inside⟩
  intro inner succeeds refused here known
  obtain ⟨items, inside⟩ := known
  refine refused_statementListOf outset (fun node start stop success => ?_)
    (fun items start inside => refused start ⟨items, inside⟩) inside
  exact statementList_ok.1 (succeeds node start stop success)

theorem refused_read : Refused source origin Program.read origin := by
  refine FailsAs.bind (refused_statementList outset .outermost)
    fun root middle success => ?_
  obtain ⟨items, _, reads⟩ := statementList_ok.1 success
  have rests := rests_of_readsClause reads outset
  refine FailsAs.onward (run_ask _ middle) ?_
  cases ends : middle.cursor.atEnd with
  | true => exact failsAs_pure root
  | false =>
      have more : middle.cursor.rest ≠ [] := by
        intro empty
        rw [Cursor.atEnd, empty] at ends
        cases ends
      exact FailsAs.onward (run_ask _ middle) <| FailsAs.onward
        (run_position middle) <|
        rejectsAs_fail (.behindProgram rests more)

end Grammar

namespace Program

/-- A source that is rejected when it is read is refused in one of the listed
ways. -/
theorem refuses_of_parse {source file : String} {diagnostic : Diagnostic}
    (rejected : parse source file = .error (.diagnostic diagnostic)) :
    ∃ stop, read.run (.start source file) =
      .error (.diagnostic diagnostic) stop ∧
      Grammar.Refuses (.origin source file) (.start source file)
        diagnostic stop.cursor
        stop.scopes.all := by
  rw [parse] at rejected
  cases result : read.run (.start source file) with
  | ok root stop =>
      rw [result] at rejected
      cases rejected
  | error failure stop =>
      rw [result] at rejected
      cases rejected
      have refused :
          Grammar.Refused (.origin source file) (.start source file) read
          (.start source file) := Grammar.refused_read (rests_start source file)
      exact ⟨stop, rfl, refused _ stop result diagnostic rfl⟩

end Program

end Minilang
