import Minilang.Proofs.Reading.Statement
import Minilang.Proofs.Scoping.Scopes
import Minilang.Proofs.Writing.Expression

/-!
# Programs are read as they are written

A statement is read as it is written where what follows it begins another
statement or ends the block, and the two are apart. Its scope then is what its
declarations make of it, so a block whose declarations can all be made is read
to its end. The main statement is `parse_text`: a program that is written down
and read is the same program again.
-/

namespace Minilang

namespace Token

/-! ## What may follow a statement -/

/-- The token begins a statement, or ends the block in which statements
stand. -/
def MayFollow : Token → Prop
  | .word text => text ≠ "else"
  | .symbol text => text ∈ ["(", "<", "\x7d"]
  | .number _ | .string _ => True

/-- No further statement of the block comes first. -/
def AtListEnd (rest : List Token) : Prop :=
  rest = [] ∨ ∃ others, rest = .symbol "\x7d" :: others

end Token

namespace Node

open Token

variable {node : Node} {rest : List Token}

/-- The statement ends where the rest begins. -/
structure FollowedBy (node : Node) (rest : List Token) : Prop where
  mayFollow : ∀ token ∈ rest.head?, token.MayFollow
  parenthesis : EndInWord node.tokens → rest.head? ≠ some (.symbol "(")
  cast : node.endsInExpression = true → rest.head? ≠ some (.symbol "<")

/-- An expression at the end of a statement ends with it. -/
theorem FollowedBy.ends (followed : node.FollowedBy rest)
    (last : node.endsInExpression = true) :
    Ends 4 node.tokens rest where
  quiet := by
    intro token head level _ isOperator
    obtain ⟨operator, _, rfl⟩ := isOperator
    have lessThan : ∀ operator : BinaryOperator,
        operator.symbol ∈ ["(", "<", "\x7d"] → operator.symbol = "<" := by
      intro operator
      cases operator <;> decide
    have mayFollow := followed.mayFollow _ head
    refine followed.cast last ?_
    rw [Option.mem_def.1 head, lessThan operator mayFollow]
  noCall := followed.parenthesis

theorem FollowedBy.noElse (followed : node.FollowedBy rest) :
    rest.head? ≠ some (.word "else") :=
  fun head => followed.mayFollow _ head rfl

theorem FollowedBy.noEquals (followed : node.FollowedBy rest) :
    ∀ text ∈ ["=", "=="], rest.head? ≠ some (.symbol text) := by
  intro text member head
  have excluded : ∀ text ∈ ["=", "=="], text ∉ ["(", "<", "\x7d"] := by decide
  exact excluded text member (followed.mayFollow _ head)

theorem followedBy_of_atListEnd (ends : AtListEnd rest) :
    node.FollowedBy rest := by
  rcases ends with rfl | ⟨others, rfl⟩
  · exact ⟨nofun, nofun, nofun⟩
  · have brace : "\x7d" ∈ ["(", "<", "\x7d"] := by decide
    have different : "\x7d" ≠ "(" ∧ "\x7d" ≠ "<" := by decide
    refine ⟨?_, ?_, ?_⟩
    · intro token head
      cases head
      exact brace
    · intro _ head
      exact different.1 (Token.symbol.inj (Option.some.inj head))
    · intro _ head
      exact different.2 (Token.symbol.inj (Option.some.inj head))

theorem ne_else_of_isName {name : String} (isName : Lexeme.IsName name) :
    name ≠ "else" := by
  rintro rfl
  exact absurd isName.2 (by decide +kernel)

theorem ne_else_of_hasWord {type : DataType} (hasWord : type.HasWord) :
    type.word ≠ "else" := by
  have different : ∀ type ∈ DataType.words.map Prod.snd,
      type.word ≠ "else" := by decide +kernel
  exact different type hasWord

theorem IsWrittenExpression.begins (expression : node.IsWrittenExpression) :
    ∃ token others, node.tokens = token :: others ∧ token.MayFollow := by
  induction expression with
  | @literal value =>
      cases value with
      | integer | float | string => exact ⟨_, _, rfl, trivial⟩
  | reference isName => exact ⟨_, _, rfl, ne_else_of_isName isName⟩
  | call isName => exact ⟨_, _, rfl, ne_else_of_isName isName⟩
  | binary _ _ left =>
      obtain ⟨token, others, same, mayFollow⟩ := left
      rw [Node.tokens, within]
      split
      · rw [same]
        exact ⟨token, _, rfl, mayFollow⟩
      · exact ⟨_, _, rfl, List.mem_cons_self⟩
  | cast => exact ⟨_, _, rfl, List.mem_cons_of_mem _ List.mem_cons_self⟩

theorem IsWrittenStatement.begins (statement : node.IsWrittenStatement) :
    ∃ token others, node.tokens = token :: others ∧ token.MayFollow := by
  have keyword : ∀ text ∈ ["print", "set", "while", "if"],
      text ≠ "else" := by decide
  cases statement with
  | expression expression => exact expression.begins
  | print => exact ⟨_, _, rfl, keyword "print" (by decide)⟩
  | assignment => exact ⟨_, _, rfl, keyword "set" (by decide)⟩
  | loop => exact ⟨_, _, rfl, keyword "while" (by decide)⟩
  | conditional => exact ⟨_, _, rfl, keyword "if" (by decide)⟩
  | alternative => exact ⟨_, _, rfl, keyword "if" (by decide)⟩
  | uninitialized hasWord => exact ⟨_, _, rfl, ne_else_of_hasWord hasWord⟩
  | initialized hasWord => exact ⟨_, _, rfl, ne_else_of_hasWord hasWord⟩
  | function hasWord => exact ⟨_, _, rfl, ne_else_of_hasWord hasWord⟩

/-- What may stand between two statements is decided by the first token of the
second. -/
theorem Apart.followedBy {next : Node} (apart : Apart node next)
    (statement : next.IsWrittenStatement) :
    node.FollowedBy (next.tokens ++ rest) := by
  obtain ⟨token, others, same, mayFollow⟩ := statement.begins
  have head : (next.tokens ++ rest).head? = next.tokens.head? := by
    rw [same]
    rfl
  refine ⟨?_, ?_, ?_⟩
  · intro first isFirst
    rw [head, same] at isFirst
    cases isFirst
    exact mayFollow
  · rw [head]
    exact apart.parenthesis
  · rw [head]
    exact apart.cast

end Node

namespace Grammar

open Token Node

variable {node : Node} {id : ScopeId} {scope later : Scope} {rest : List Token}

/-- The statement is read where it stands, if its declaration can be made in the
scope there and what follows ends it. -/
def ReadableStatement (node : Node) : Prop :=
  ∀ {start : Parser} {id : ScopeId} {scope later : Scope} {rest : List Token},
    start.cursor.Faces (node.tokens ++ rest) → start.scopes.Stands id scope →
    scope.enact? node = some later → node.FollowedBy rest →
    ∃ read stop, ReadsClause (.statement read) start stop ∧
      stop.cursor.Faces rest ∧
      start.scopes.Becomes stop.scopes id later ∧ read.bare = node.bare

theorem reads_value {scopes : Scopes} (expression : node.IsWrittenExpression)
    (stands : scopes.Stands id scope) (ends : Ends 4 node.tokens rest) :
    ReadsAs scopes (.chain .comparison) node node.tokens rest :=
  (readable_of_expression (Scopes.current_ok.2 stands.head?)
    expression).chain ends

theorem readableStatement_expression (expression : node.IsWrittenExpression) :
    ReadableStatement node := by
  intro start id scope later rest faces stands enacts followed
  have last : node.endsInExpression = true := by cases expression <;> rfl
  have same : scope = later := by
    cases expression
    all_goals exact Option.some.inj enacts
  obtain ⟨read, behind, reads, faces, equal⟩ :=
    reads_value expression stands (followed.ends last) start.cursor faces
  rw [← same]
  exact ⟨read, ⟨behind, start.scopes⟩, .expression reads, faces,
    stands.becomes_self, equal⟩

theorem readableStatement_print {value : Node} {position : Position}
    (expression : value.IsWrittenExpression) :
    ReadableStatement (.print value position) := by
  intro start id scope later rest faces stands enacts followed
  cases enacts
  have ends := followed.ends rfl
  rw [Node.tokens, ← List.singleton_append] at ends
  obtain ⟨opened, found, faces⟩ := Cursor.Faces.formRead? .print faces
  obtain ⟨read, behind, reads, faces, same⟩ :=
    reads_value expression stands ends.suffix opened faces
  refine ⟨_, _, .print found reads, faces, stands.becomes_self, ?_⟩
  rw [bare_print, bare_print, same]

theorem readableStatement_assignment {name : String} {value : Node}
    {target : ScopeId} {place position : Position} (isName : Lexeme.IsName name)
    (expression : value.IsWrittenExpression) :
    ReadableStatement
      (.assignment (.reference name target place) value position) := by
  intro start id scope later rest faces stands enacts followed
  cases enacts
  have ends := followed.ends rfl
  rw [Node.tokens, Node.tokens, List.append_cons, ← List.cons_append] at ends
  obtain ⟨opened, found, faces⟩ := Cursor.Faces.formRead? .assignment faces
  obtain ⟨named, identified, faces⟩ := Cursor.Faces.identifier? faces isName.2
  obtain ⟨assigned, equals, faces⟩ := Cursor.Faces.accept? faces
  obtain ⟨read, behind, reads, faces, same⟩ :=
    reads_value expression stands ends.suffix assigned faces
  have current := Scopes.current_ok.2 stands.head?
  refine ⟨_, _, .assignment found identified current equals reads, faces,
    stands.becomes_self, ?_⟩
  rw [bare_assignment, bare_assignment, same, bare_reference, bare_reference]

theorem readableStatement_uninitialized {type : DataType} {name : String}
    {position : Position} (hasWord : type.HasWord)
    (isName : Lexeme.IsName name) :
    ReadableStatement (.declaration type name none position) := by
  intro start id scope later rest faces stands enacts followed
  have noParenthesis := followed.parenthesis ⟨[.word type.word], name, rfl⟩
  obtain ⟨typed, found, faces⟩ := Cursor.Faces.type? faces hasWord.mem_words
  obtain ⟨named, identified, faces⟩ := Cursor.Faces.identifier? faces isName.2
  have declares := Scopes.declare?_ok.2 ⟨id, scope, later, stands, enacts, rfl⟩
  refine ⟨_, _, .uninitialized found identified
    (faces.noParenthesis noParenthesis) (faces.noEquals followed.noEquals)
    declares, faces, stands.becomes_set later, ?_⟩
  rw [bare_declaration, bare_declaration]

theorem readableStatement_initialized {type : DataType} {name : String}
    {value : Node} {position : Position} (hasWord : type.HasWord)
    (isName : Lexeme.IsName name)
    (expression : value.IsWrittenExpression) :
    ReadableStatement (.declaration type name (some value) position) := by
  intro start id scope later rest faces stands enacts followed
  have ends := followed.ends rfl
  rw [Node.tokens, tokensOption, Option.elim_some] at faces ends
  obtain ⟨typed, found, faces⟩ := Cursor.Faces.type? faces hasWord.mem_words
  obtain ⟨named, identified, faces⟩ := Cursor.Faces.identifier? faces isName.2
  obtain ⟨opened, equals, faces⟩ := Cursor.Faces.accept? faces
  have valueEnds : Ends 4 value.tokens rest :=
    @Ends.suffix _ _ _ [.word type.word, .word name, .symbol "="] ends
  obtain ⟨read, behind, reads, faces, same⟩ :=
    reads_value expression stands valueEnds opened faces
  have declares := Scopes.declare?_ok.2 ⟨id, scope, later, stands, enacts, rfl⟩
  refine ⟨_, _, .initialized found identified equals reads declares, faces,
    stands.becomes_set later, ?_⟩
  rw [bare_declaration, bare_declaration, Option.map_some,
    Option.map_some, same]

theorem atListEnd_of_faces {cursor : Cursor} (faces : cursor.Faces rest)
    (ends : AtListEnd rest) :
    atListEnd cursor = true := by
  rcases ends with rfl | ⟨others, rfl⟩
  · rw [atListEnd, faces.eq_nil]
  · rw [atListEnd, faces.rest_cons]
    rfl

/-- Statements are read up to the end of their list, if each of them can be read
and all their declarations can be made. -/
theorem reads_statements_of_readable {items : List Node}
    (statements : ∀ item ∈ items, item.IsWrittenStatement)
    (apart : items.IsChain Apart)
    (readable : ∀ item ∈ items, ReadableStatement item) (start : Parser)
    (faces : start.cursor.Faces ((items.map Node.tokens).flatten ++ rest))
    (stands : start.scopes.Stands id scope)
    (enacts : scope.enactAll? items = some later)
    (ends : AtListEnd rest) :
    ∃ reads stop, ReadsClause (.statements reads) start stop ∧
      stop.cursor.Faces rest ∧
      start.scopes.Becomes stop.scopes id later ∧
      reads.map bare = items.map bare := by
  induction items generalizing start scope with
  | nil =>
      cases enacts
      exact ⟨[], start, .listEnd (atListEnd_of_faces faces ends), faces,
        stands.becomes_self, rfl⟩
  | cons first others inductionHypothesis =>
      obtain ⟨_, otherStatements⟩ := List.forall_mem_cons.1 statements
      obtain ⟨firstReadable, othersReadable⟩ := List.forall_mem_cons.1 readable
      rw [Scope.enactAll?_cons] at enacts
      obtain ⟨middleScope, enactsFirst, enactsOthers⟩ :=
        Option.bind_eq_some_iff.1 enacts
      rw [List.map_cons, List.flatten_cons, List.append_assoc] at faces
      have followed :
          first.FollowedBy ((others.map Node.tokens).flatten ++ rest) := by
        cases others with
        | nil => exact followedBy_of_atListEnd ends
        | cons next more =>
            rw [List.map_cons, List.flatten_cons, List.append_assoc]
            have apartNext := (List.isChain_cons_cons.1 apart).1
            exact apartNext.followedBy (otherStatements next List.mem_cons_self)
      obtain ⟨read, middle, reads, faces, becomesFirst, same⟩ :=
        firstReadable faces stands enactsFirst followed
      obtain ⟨more, stop, readsMore, faces, becomesOthers, sameMore⟩ :=
        inductionHypothesis otherStatements apart.tail
          othersReadable middle faces
          (stands.becomes becomesFirst) enactsOthers
      refine ⟨read :: more, stop, .statements reads readsMore, faces,
        becomesFirst.trans becomesOthers, ?_⟩
      rw [List.map_cons, List.map_cons, same, sameMore]

/-- The statements can stand in one block behind the parameters, and each of
them can be read. -/
structure ReadableBlock (parameters items : List Node) : Prop where
  block : IsWrittenBlock parameters items
  statements : ∀ item ∈ items, item.IsWrittenStatement
  readable : ∀ item ∈ items, ReadableStatement item

variable {items : List Node} {place : Position}

theorem ReadableBlock.enacts {parameters : List Node}
    (block : ReadableBlock parameters items)
    (scope : Scope) :
    ∃ last, scope.child.enactAll? (parameters ++ items) = some last :=
  Scope.enactAll?_eq_some_of_nodup block.block.distinct fun _ _ =>
    List.not_mem_nil

/-- The statements of a block are read behind its opening brace, and the closing
one behind them. -/
theorem ReadableBlock.reads_body {parameters : List Node}
    (block : ReadableBlock parameters items)
    (start : Parser)
    (faces : start.cursor.Faces
      ((Node.statements items place).tokens ++ .symbol "\x7d" :: rest))
    (stands : start.scopes.Stands id scope)
    (enacts : scope.enactAll? items = some later) :
    ∃ reads middle closed, ReadsClause (.statements reads) start middle ∧
      middle.cursor.accept? "\x7d" = some closed ∧ closed.Faces rest ∧
      start.scopes.Becomes middle.scopes id later ∧
      reads.map bare = items.map bare := by
  rw [Node.tokens, tokensAll_eq_map] at faces
  obtain ⟨reads, middle, readsItems, faces, becomes, same⟩ :=
    reads_statements_of_readable block.statements block.block.apart
      block.readable start faces
      stands enacts (Or.inr ⟨rest, rfl⟩)
  obtain ⟨closed, close, faces⟩ := faces.accept?
  exact ⟨reads, middle, closed, readsItems, close, faces, becomes, same⟩

/-- A block is read and leaves the scope around it as it was. -/
theorem ReadableBlock.reads_block (block : ReadableBlock [] items)
    (start : Parser)
    (faces : start.cursor.Faces
      (braced (Node.statements items place).tokens ++ rest))
    (stands : start.scopes.Stands id scope) :
    ∃ read stop, ReadsClause (.block read) start stop ∧ stop.cursor.Faces rest ∧
      start.scopes.Becomes stop.scopes id scope ∧
      read.bare = (Node.statements items place).bare := by
  rw [braced, List.cons_append, List.append_assoc] at faces
  obtain ⟨opened, open_, faces⟩ := faces.accept?
  obtain ⟨inner, enters, standsInner⟩ := Scopes.enter_of_stands stands
  obtain ⟨last, enacts⟩ := block.enacts scope
  obtain ⟨reads, middle, closed, readsItems, close, faces, becomes, same⟩ :=
    block.reads_body ⟨opened, inner⟩ faces standsInner enacts
  obtain ⟨outer, exits, becomesOuter⟩ :=
    Scopes.exit_of_becomes stands enters becomes
  refine ⟨_, _, .block open_ enters readsItems close exits, faces,
    becomesOuter, ?_⟩
  rw [bare_statements, bare_statements, same]

theorem ends_brace {bound : Nat} {tokens : List Token} :
    Ends bound tokens (.symbol "\x7b" :: rest) :=
  ends_symbol (by rintro ⟨⟩ <;> decide) (by decide)

/-- A condition is read with the block that it guards. -/
theorem ReadableBlock.reads_guarded {predicate : Node}
    (block : ReadableBlock [] items)
    (expression : predicate.IsWrittenExpression) {cursor : Cursor}
    {scopes : Scopes}
    (faces : cursor.Faces
      (predicate.tokens ++
        (braced (Node.statements items place).tokens ++ rest)))
    (stands : scopes.Stands id scope) :
    ∃ read middle body stop,
      Reads (.chain .comparison read) ⟨cursor, scopes⟩ middle ∧
      ReadsClause (.block body) middle stop ∧ stop.cursor.Faces rest ∧
      scopes.Becomes stop.scopes id scope ∧ read.bare = predicate.bare ∧
      body.bare = (Node.statements items place).bare := by
  obtain ⟨read, middle, reads, faces, same⟩ :=
    reads_value expression stands ends_brace cursor faces
  obtain ⟨body, stop, readsBody, faces, becomes, sameBody⟩ :=
    block.reads_block ⟨middle, scopes⟩ faces stands
  exact ⟨read, _, body, stop, reads, readsBody, faces, becomes, same, sameBody⟩

theorem readableStatement_loop {predicate : Node} {position : Position}
    (expression : predicate.IsWrittenExpression)
    (block : ReadableBlock [] items) :
    ReadableStatement (.loop predicate (.statements items place) position) := by
  intro start id scope later rest faces stands enacts followed
  cases enacts
  rw [Node.tokens, List.cons_append, List.append_assoc] at faces
  obtain ⟨opened, found, faces⟩ := Cursor.Faces.formRead? .loop faces
  obtain ⟨read, middle, body, stop, reads, readsBody, faces, becomes,
    same, sameBody⟩ :=
    block.reads_guarded expression faces stands
  refine ⟨_, stop, .loop found reads readsBody, faces, becomes, ?_⟩
  rw [bare_loop, bare_loop, same, sameBody]

/-- Without a second branch, the word for it must not come next. -/
theorem readableStatement_conditional {predicate : Node} {position : Position}
    (expression : predicate.IsWrittenExpression)
    (block : ReadableBlock [] items) :
    ReadableStatement
      (.conditional predicate (.statements items place) none position) := by
  intro start id scope later rest faces stands enacts followed
  cases enacts
  rw [Node.tokens, tokensOption, Option.elim_none, List.append_nil,
    List.cons_append, List.append_assoc] at faces
  obtain ⟨opened, found, faces⟩ := Cursor.Faces.formRead? .conditional faces
  obtain ⟨read, middle, body, stop, reads, readsBody, faces, becomes,
    same, sameBody⟩ :=
    block.reads_guarded expression faces stands
  have noElse := faces.keyword?_eq_none (by decide +kernel) followed.noElse
  refine ⟨_, stop, .conditional found reads readsBody noElse,
    faces, becomes, ?_⟩
  rw [bare_conditional, bare_conditional, same, sameBody]

theorem readableStatement_alternative {predicate : Node} {others : List Node}
    {otherPlace position : Position}
    (expression : predicate.IsWrittenExpression)
    (block : ReadableBlock [] items) (otherBlock : ReadableBlock [] others) :
    ReadableStatement (.conditional predicate (.statements items place)
      (some (.statements others otherPlace)) position) := by
  intro start id scope later rest faces stands enacts followed
  cases enacts
  rw [Node.tokens, tokensOption, Option.elim_some, List.cons_append,
    List.append_assoc, List.append_assoc, List.cons_append] at faces
  obtain ⟨opened, found, faces⟩ := Cursor.Faces.formRead? .conditional faces
  obtain ⟨read, middle, body, last, reads, readsBody, faces, becomes,
    same, sameBody⟩ :=
    block.reads_guarded expression faces stands
  obtain ⟨other, else_, faces⟩ := faces.keyword?
  have standsElse := stands.becomes becomes
  obtain ⟨branch, stop, readsBranch, faces, becomesOther, sameBranch⟩ :=
    otherBlock.reads_block { last with cursor := other } faces standsElse
  refine ⟨_, stop, .alternative found reads readsBody else_ readsBranch, faces,
    becomes.trans becomesOther, ?_⟩
  rw [bare_conditional, bare_conditional, Option.map_some, Option.map_some,
    same, sameBody, sameBranch]

theorem reads_parameter_of_written (parameter : node.IsWrittenParameter)
    (start : Parser)
    (faces : start.cursor.Faces (node.tokens ++ rest))
    (stands : start.scopes.Stands id scope)
    (enacts : scope.enact? node = some later) :
    ∃ read stop, ReadsParameter read start stop ∧ stop.cursor.Faces rest ∧
      start.scopes.Becomes stop.scopes id later ∧ read.bare = node.bare := by
  cases parameter with
  | parameter hasWord isName =>
      obtain ⟨typed, found, faces⟩ := Cursor.Faces.type? faces hasWord.mem_words
      obtain ⟨named, identified, faces⟩ :=
        Cursor.Faces.identifier? faces isName.2
      have declares :=
        Scopes.declare?_ok.2 ⟨id, scope, later, stands, enacts, rfl⟩
      refine ⟨_, _, .parameter found identified declares, faces,
        stands.becomes_set later, ?_⟩
      rw [bare_declaration, bare_declaration]

theorem reads_moreParameters_of_written {parameters : List Node}
    (written : ∀ parameter ∈ parameters, parameter.IsWrittenParameter)
    {start : Parser}
    (faces : start.cursor.Faces
      ((parameters.map Node.tokens).flatMap (.symbol "," :: ·) ++
        .symbol ")" :: rest))
    (stands : start.scopes.Stands id scope)
    (enacts : scope.enactAll? parameters = some later) :
    ∃ reads stop, ReadsMoreParameters reads start stop ∧
      stop.cursor.Faces rest ∧
      start.scopes.Becomes stop.scopes id later ∧
      reads.map bare = parameters.map bare := by
  induction parameters generalizing start scope with
  | nil =>
      cases enacts
      obtain ⟨closed, close, faces⟩ := Cursor.Faces.accept? faces
      exact ⟨[], _, .last close, faces, stands.becomes_self, rfl⟩
  | cons next others inductionHypothesis =>
      obtain ⟨nextWritten, othersWritten⟩ := List.forall_mem_cons.1 written
      rw [Scope.enactAll?_cons] at enacts
      obtain ⟨middleScope, enactsNext, enactsOthers⟩ :=
        Option.bind_eq_some_iff.1 enacts
      rw [List.map_cons, List.flatMap_cons, List.cons_append, List.cons_append,
        List.append_assoc] at faces
      obtain ⟨opened, comma, faces⟩ := faces.accept?
      obtain ⟨read, middle, reads, faces, becomesNext, same⟩ :=
        reads_parameter_of_written nextWritten
          { start with cursor := opened } faces stands
          enactsNext
      obtain ⟨more, stop, readsMore, faces, becomesOthers, sameMore⟩ :=
        inductionHypothesis othersWritten faces
          (stands.becomes becomesNext) enactsOthers
      refine ⟨read :: more, stop, .next comma reads readsMore, faces,
        becomesNext.trans becomesOthers, ?_⟩
      rw [List.map_cons, List.map_cons, same, sameMore]

theorem reads_parameters_of_written {parameters : List Node}
    (written : ∀ parameter ∈ parameters, parameter.IsWrittenParameter)
    (start : Parser)
    (faces : start.cursor.Faces
      (separated (parameters.map Node.tokens) ++ .symbol ")" :: rest))
    (stands : start.scopes.Stands id scope)
    (enacts : scope.enactAll? parameters = some later) :
    ∃ reads stop, ReadsParameters reads start stop ∧ stop.cursor.Faces rest ∧
      start.scopes.Becomes stop.scopes id later ∧
      reads.map bare = parameters.map bare := by
  cases parameters with
  | nil =>
      cases enacts
      obtain ⟨closed, close, faces⟩ := Cursor.Faces.accept? faces
      exact ⟨[], _, .none close, faces, stands.becomes_self, rfl⟩
  | cons first others =>
      obtain ⟨firstWritten, othersWritten⟩ := List.forall_mem_cons.1 written
      rw [Scope.enactAll?_cons] at enacts
      obtain ⟨middleScope, enactsFirst, enactsOthers⟩ :=
        Option.bind_eq_some_iff.1 enacts
      rw [List.map_cons, separated, List.append_assoc] at faces
      obtain ⟨read, middle, reads, faces, becomesFirst, same⟩ :=
        reads_parameter_of_written firstWritten start faces stands enactsFirst
      obtain ⟨more, stop, readsMore, faces, becomesOthers, sameMore⟩ :=
        reads_moreParameters_of_written othersWritten faces
          (stands.becomes becomesFirst)
          enactsOthers
      refine ⟨read :: more, stop, .some reads readsMore, faces,
        becomesFirst.trans becomesOthers, ?_⟩
      rw [List.map_cons, List.map_cons, same, sameMore]

theorem signature_of_bare {type : DataType} {reads parameters : List Node}
    (same : reads.map bare = parameters.map bare) :
    Node.signature type reads = Node.signature type parameters := by
  have unchanged (nodes : List Node) :
      Node.signature type (nodes.map bare) = Node.signature type nodes :=
    signature_relocate type nodes
  rw [← unchanged reads, same, unchanged]

/-- The parameters are declared before the body is read, and the name when its
scope has been left. -/
theorem readableStatement_function {type : DataType} {name : String}
    {parameters : List Node} {position : Position} (hasWord : type.HasWord)
    (isName : Lexeme.IsName name)
    (written : ∀ parameter ∈ parameters, parameter.IsWrittenParameter)
    (block : ReadableBlock parameters items) :
    ReadableStatement
      (.function type name parameters (.statements items place) position) := by
  intro start id scope later rest faces stands enacts followed
  rw [Node.tokens, tokensAll_eq_map, enclosed, braced] at faces
  simp only [List.cons_append, List.append_assoc, List.nil_append] at faces
  obtain ⟨typed, found, faces⟩ := faces.type? hasWord.mem_words
  obtain ⟨named, identified, faces⟩ := faces.identifier? isName.2
  obtain ⟨opened, open_, faces⟩ := faces.accept?
  -- The parameters and the body are declared in a scope of their own.
  obtain ⟨inner, enters, standsInner⟩ := Scopes.enter_of_stands stands
  obtain ⟨last, enactsAll⟩ := block.enacts scope
  rw [Scope.enactAll?_append] at enactsAll
  obtain ⟨middleScope, enactsParameters, enactsItems⟩ :=
    Option.bind_eq_some_iff.1 enactsAll
  obtain ⟨readParameters, middle, readsParameters, faces, becomesParameters,
    sameParameters⟩ :=
    reads_parameters_of_written written ⟨opened, inner⟩ faces standsInner
      enactsParameters
  obtain ⟨bodyOpened, brace, faces⟩ := faces.accept?
  have standsBody := standsInner.becomes becomesParameters
  obtain ⟨reads, ending, closed, readsItems, close, faces, becomesItems,
    sameItems⟩ :=
    block.reads_body { middle with cursor := bodyOpened } faces
      standsBody enactsItems
  obtain ⟨outer, exits, becomesOuter⟩ :=
    Scopes.exit_of_becomes stands enters (becomesParameters.trans becomesItems)
  -- Outside, the name is declared and gets the signature of what was read.
  obtain ⟨declared, declaring, rfl⟩ := Option.map_eq_some_iff.1 enacts
  obtain ⟨named_, bound, declares, binds, becomesBound⟩ :=
    Scopes.declare?_bind_of_stands (stands.becomes becomesOuter) declaring
      (Node.signature type readParameters)
  rw [← signature_of_bare sameParameters]
  refine ⟨_, _, .function found identified open_ enters readsParameters brace
    readsItems close exits declares binds, faces,
    becomesOuter.trans becomesBound, ?_⟩
  rw [bare_function, bare_function, sameParameters, bare_statements,
    bare_statements, sameItems]

/-- Every statement that can be written is read where it stands. -/
theorem readableStatement_of_written (statement : node.IsWrittenStatement) :
    ReadableStatement node := by
  induction statement with
  | expression expression => exact readableStatement_expression expression
  | print value => exact readableStatement_print value
  | assignment isName value => exact readableStatement_assignment isName value
  | loop predicate block statements readable =>
      exact readableStatement_loop predicate ⟨block, statements, readable⟩
  | conditional predicate block statements readable =>
      exact readableStatement_conditional predicate
        ⟨block, statements, readable⟩
  | alternative predicate block statements otherBlock otherStatements readable otherReadable =>
      exact readableStatement_alternative predicate ⟨block, statements,
        readable⟩ ⟨otherBlock, otherStatements, otherReadable⟩
  | uninitialized hasWord isName =>
      exact readableStatement_uninitialized hasWord isName
  | initialized hasWord isName value =>
      exact readableStatement_initialized hasWord isName value
  | function hasWord isName parameters block statements readable =>
      exact readableStatement_function hasWord isName parameters
        ⟨block, statements, readable⟩

end Grammar

namespace Program

/-- A program that is written down and read is, but for places and scopes, the
same again. -/
theorem parse_text {tree : Node} (written : tree.IsWrittenProgram)
    (file : String) :
    ∃ program, parse tree.text file = .ok program ∧
      program.root.bare = tree.bare := by
  have faces := Cursor.start_faces written.tokens file
  cases written with
  | @program items position block statements =>
      have readable : ∀ item ∈ items, Grammar.ReadableStatement item :=
        fun item member =>
          Grammar.readableStatement_of_written (statements item member)
      have stands : Scopes.initial.Stands 0 .empty := ⟨rfl, rfl⟩
      have fresh : ∀ name ∈ items.filterMap Node.declaredName?,
          name ∉ Scope.empty.declared :=
        fun name _ => List.not_mem_nil
      obtain ⟨last, enacts⟩ :=
        Scope.enactAll?_eq_some_of_nodup block.distinct fresh
      have whole : (Node.statements items position).tokens =
          (items.map Node.tokens).flatten ++ [] := by
        rw [Node.tokens, Node.tokensAll_eq_map, List.append_nil]
      rw [whole] at faces
      obtain ⟨reads, stop, readsItems, faces, _, same⟩ :=
        Grammar.reads_statements_of_readable statements block.apart readable
          ⟨_, .initial⟩ faces
          stands enacts (Or.inl rfl)
      rw [← whole] at readsItems
      refine ⟨_, Grammar.parse_ok.2 ⟨reads, stop, readsItems,
        faces.eq_nil, rfl⟩, ?_⟩
      rw [Node.bare_statements, Node.bare_statements, same]

theorem parse_text_function :
    ∃ tree : Node, tree.IsWrittenProgram ∧
      tree.text =
        "int f ( int n ) \x7b set n = < int > ( n + 1.5 ) n \x7d print f ( 2 )" ∧
      ∃ program, parse tree.text "main" = .ok program ∧
        program.root.bare = tree.bare := by
  have isName : Lexeme.IsName "n" ∧ Lexeme.IsName "f" :=
    ⟨⟨by decide +kernel, by decide +kernel⟩,
      by decide +kernel, by decide +kernel⟩
  have hasWord : DataType.HasWord .integer := List.mem_cons_self
  have digit {c : Char} (isDigit : c.isDigit = true) : Token.AreDigits [c] :=
    ⟨List.cons_ne_nil _ _, List.forall_mem_singleton.2 isDigit⟩
  have fraction : Literal.IsWritten (.float "1.5") :=
    ⟨['1'], ['5'], by decide +kernel, digit (by decide), digit (by decide)⟩
  have two : Literal.IsWritten (.integer "2") := by
    change Token.AreDigits "2".toList
    rw [show "2".toList = ['2'] by decide +kernel]
    exact digit (by decide)
  have written : Node.IsWrittenProgram (.statements
      [.function .integer "f" [.declaration .integer "n" none (.start "")]
        (.statements
          [.assignment (.reference "n" 0 (.start ""))
            (.cast .integer (.binary .add (.reference "n" 0 (.start ""))
              (.literal (.float "1.5") (.start "")) (.start "")) (.start
                "")) (.start ""),
           .reference "n" 0 (.start "")] (.start "")) (.start ""),
       .print (.call "f" [.literal (.integer "2") (.start "")] 0 (.start ""))
         (.start "")]
      (.start "")) := by
    refine .program ⟨by decide +kernel, ?_⟩ ?_
    · exact .cons_cons ⟨fun _ => by decide, fun _ => by decide⟩ (.singleton _)
    · refine List.forall_mem_cons.2 ⟨.function hasWord isName.2 ?_
        ⟨by decide +kernel, ?_⟩ ?_,
        List.forall_mem_singleton.2 (.print (.call isName.2 ?_))⟩
      · exact List.forall_mem_singleton.2 (.parameter hasWord isName.1)
      · exact .cons_cons ⟨fun _ => by decide, fun _ => by decide⟩ (.singleton _)
      · exact List.forall_mem_cons.2 ⟨.assignment isName.1
          (.cast hasWord (.binary (.reference isName.1) (.literal fraction))),
          List.forall_mem_singleton.2 (.expression (.reference isName.1))⟩
      · exact List.forall_mem_singleton.2 (.literal two)
  exact ⟨_, written, by decide +kernel, parse_text written "main"⟩

end Program

end Minilang
