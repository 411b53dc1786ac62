import Minilang.Proofs.Rejection.Resting
import Minilang.Proofs.Scoping.Items

/-!
# How a program is refused

A reading that is rejected has come to a certain point of the grammar. `Inside`
says which points there are between the constructs of a block, and what has been
read of the block there. `Refuses` lists the ways in which a reading is
rejected, each with its diagnostic and with the cursor and the scopes that are
left. The main statement, `Inside.rests`, says that no trivia is ahead of the
cursor at a point between constructs.
-/

namespace Minilang

namespace Grammar

/-! ## Points between constructs -/

/-- The head of a function up to its opening parenthesis, behind which its scope
is open. -/
inductive ReadsHead : DataType → String → Parser → Parser → Prop where
  | head {type : DataType} {name : String} {typed named opened : Cursor}
      {inner : Scopes} {start : Parser} :
      start.cursor.type? = some (type, typed) →
      typed.identifier? = some (name, named) →
      named.accept? "(" = some opened →
      start.scopes.enter = .ok inner →
      ReadsHead type name start ⟨opened, inner⟩

/-- The opening brace of a branch or of the body of a loop, behind which its
scope is open. -/
inductive ReadsBrace : Parser → Parser → Prop where
  | brace {opened : Cursor} {inner : Scopes} {start : Parser} :
      start.cursor.accept? "\x7b" = some opened →
      start.scopes.enter = .ok inner →
      ReadsBrace start ⟨opened, inner⟩

/-- The two parts of a block. Only a function has parameters in front of its
statements. -/
inductive Part where
  | parameters
  | statements
deriving DecidableEq

/-- From the origin the reading can come to the state, which stands in the part
of a block before one of its constructs, or at its end, and has read the given
constructs of the block before. -/
inductive Inside (origin : Parser) : Part → List Node → Parser → Prop where
  | outermost : Inside origin .statements [] origin
  | statement {items : List Node} {item : Node} {here next : Parser} :
      Inside origin .statements items here →
      ReadsClause (.statement item) here next →
      Inside origin .statements (items ++ [item]) next
  | body {items : List Node} {form : Form} {predicate : Node} {behind : Cursor}
      {here middle next : Parser} :
      Inside origin .statements items here →
      form = .conditional ∨ form = .loop →
      Form.read? here.cursor = some (form, behind) →
      Reads (.chain .comparison predicate)
        { here with cursor := behind } middle →
      ReadsBrace middle next →
      Inside origin .statements [] next
  | alternative {items : List Node} {predicate thenBranch : Node}
      {behind other : Cursor} {here middle last next : Parser} :
      Inside origin .statements items here →
      Form.read? here.cursor = some (.conditional, behind) →
      Reads (.chain .comparison predicate)
        { here with cursor := behind } middle →
      ReadsClause (.block thenBranch) middle last →
      last.cursor.keyword? "else" = some other →
      ReadsBrace { last with cursor := other } next →
      Inside origin .statements [] next
  | function {items : List Node} {type : DataType} {name : String}
      {here next : Parser} :
      Inside origin .statements items here →
      ReadsHead type name here next →
      Inside origin .parameters [] next
  | parameter {parameters : List Node} {parameter : Node} {behind : Cursor}
      {here middle : Parser} :
      Inside origin .parameters parameters here →
      ReadsParameter parameter here middle →
      middle.cursor.accept? "," = some behind →
      Inside origin .parameters (parameters ++ [parameter])
        { middle with cursor := behind }
  | functionBody {items parameters : List Node} {type : DataType}
      {name : String} {behind : Cursor} {here inside middle : Parser} :
      Inside origin .statements items here →
      ReadsHead type name here inside →
      ReadsParameters parameters inside middle →
      middle.cursor.accept? "\x7b" = some behind →
      Inside origin .statements parameters { middle with cursor := behind }

/-- A declaration that begins at the first state is read up to the second, where
it is to give the name its type. -/
inductive ReadsToDeclaring :
    Part → String → DataType → Parser → Parser → Prop where
  | parameter {type : DataType} {name : String} {typed named : Cursor}
      {start : Parser} :
      start.cursor.type? = some (type, typed) →
      typed.identifier? = some (name, named) →
      ReadsToDeclaring .parameters name type start
        { start with cursor := named }
  | uninitialized {type : DataType} {name : String} {typed named : Cursor}
      {start : Parser} :
      start.cursor.type? = some (type, typed) →
      typed.identifier? = some (name, named) →
      named.accept? "(" = none →
      named.accept? "=" = none →
      ReadsToDeclaring .statements name type start
        { start with cursor := named }
  | initialized {type : DataType} {name : String} {value : Node}
      {typed named opened : Cursor} {start stop : Parser} :
      start.cursor.type? = some (type, typed) →
      typed.identifier? = some (name, named) →
      named.accept? "=" = some opened →
      Reads (.chain .comparison value) { start with cursor := opened } stop →
      ReadsToDeclaring .statements name type start stop
  | function {type : DataType} {name : String} {parameters items : List Node}
      {bodyOpened closed : Cursor} {outer : Scopes}
      {start inside middle last : Parser} :
      ReadsHead type name start inside →
      ReadsParameters parameters inside middle →
      middle.cursor.accept? "\x7b" = some bodyOpened →
      ReadsClause (.statements items)
        { middle with cursor := bodyOpened } last →
      last.cursor.accept? "\x7d" = some closed →
      last.scopes.exit = .ok outer →
      ReadsToDeclaring .statements name .callable start ⟨closed, outer⟩

/-! ## Refusals -/

/-- The ways in which the reading of a source is rejected, with the cursor and
the scopes that are left. Each place is that of a cursor that rests. Behind a
string that is not closed no text is left, a declaration that is not allowed has
been read, and else the cursor stays at the place. -/
inductive Refuses (source : Cursor) (origin : Parser) :
    Diagnostic → Cursor → Array Scope → Prop where
  | text {cursor : Cursor} {scopes : Array Scope} {text : String} :
      source.Rests cursor →
      cursor.accept? text = none →
      Refuses source origin
        ⟨.unexpectedToken ("`" ++ text ++ "`") cursor.describe, cursor.position⟩
          cursor scopes
  | expression {cursor : Cursor} {scopes : Array Scope} :
      source.Rests cursor →
      cursor.identifier? = none →
      Refuses source origin ⟨.unexpectedToken "expression" cursor.describeWord,
        cursor.position⟩
        cursor scopes
  | behindProgram {cursor : Cursor} {scopes : Array Scope} :
      source.Rests cursor →
      cursor.rest ≠ [] →
      Refuses source origin ⟨.unexpectedToken "end of input" cursor.describe,
        cursor.position⟩
        cursor scopes
  | type {cursor : Cursor} {scopes : Array Scope} :
      source.Rests cursor →
      cursor.type? = none →
      Refuses source origin ⟨.expectedType cursor.describe, cursor.position⟩
        cursor scopes
  | identifier {cursor : Cursor} {scopes : Array Scope} :
      source.Rests cursor →
      cursor.identifier? = none →
      Refuses source origin ⟨.expectedIdentifier cursor.describeWord,
        cursor.position⟩ cursor scopes
  | number {cursor : Cursor} {scopes : Array Scope} {digits : String} :
      source.Rests cursor →
      Lexeme.numeral? cursor.rest = some digits →
      digits.toList.getLast? = some '.' →
      Refuses source origin ⟨.malformedNumber digits, cursor.position⟩
        cursor scopes
  | string {cursor : Cursor} {scopes : Array Scope} {body : List Char} :
      source.Rests cursor →
      cursor.rest = '"' :: body →
      Lexeme.stringBody? body = none →
      Refuses source origin ⟨.unterminatedString, cursor.position⟩
        (cursor.drop cursor.rest.length) scopes
  | declaration {part : Part} {items : List Node} {name : String}
      {type : DataType} {here later : Parser} :
      source.Rests here.cursor →
      Inside origin part items here →
      ReadsToDeclaring part name type here later →
      later.scopes.declare? name type = .ok none →
      Refuses source origin ⟨.alreadyDeclared name,
        here.cursor.position⟩ later.cursor
        later.scopes.all

section Rests

variable {source : Cursor} {origin start stop : Parser}

theorem rests_of_readsHead {type : DataType} {name : String}
    (reads : ReadsHead type name start stop)
    (rests : source.Rests start.cursor) :
    source.Rests stop.cursor := by
  cases reads with
  | head typed named opened =>
      exact ((rests.of_type? typed).of_identifier? named).of_accept? opened

theorem rests_of_readsBrace (reads : ReadsBrace start stop)
    (rests : source.Rests start.cursor) :
    source.Rests stop.cursor := by
  cases reads with
  | brace opened => exact rests.of_accept? opened

/-- Between the constructs of a block the cursor rests. -/
theorem Inside.rests {part : Part} {items : List Node} {here : Parser}
    (inside : Inside origin part items here)
    (outset : source.Rests origin.cursor) :
    source.Rests here.cursor := by
  induction inside with
  | outermost => exact outset
  | statement _ reads around => exact rests_of_readsClause reads around
  | body _ _ found predicate brace around =>
      exact rests_of_readsBrace brace
        (rests_of_reads predicate (around.of_formRead? found))
  | alternative _ found predicate thenBranch word brace around =>
      have behindPredicate :=
        rests_of_reads predicate (around.of_formRead? found)
      have behindBranch := rests_of_readsClause thenBranch behindPredicate
      exact rests_of_readsBrace brace (behindBranch.of_keyword? word)
  | function _ head around => exact rests_of_readsHead head around
  | parameter _ reads comma before =>
      exact (rests_of_readsParameter reads before).of_accept? comma
  | functionBody _ head parameters opened around =>
      have behindHead := rests_of_readsHead head around
      exact (rests_of_readsParameters parameters behindHead).of_accept? opened

end Rests

end Grammar

end Minilang
