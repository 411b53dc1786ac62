import Minilang.Proofs.Reading.Expression
import Minilang.Proofs.Recursion.Settling

/-!
# The grammar as a recursion

The steps of the grammar call one another, and some of them repeat a round. Here
each step is written down once more with the steps that it calls as parameters,
and the lemmas `eq_` say that it is the step of the grammar if these are. A
`Routine` names one of the steps, and `Routine.body` is the step with all its
calls left open. Nothing in a body tests how much text is left: that the
recursion ends is not built in.
-/

namespace Minilang.Grammar

open Parse

/-- A list of statements, once all its statements are read by the given step. -/
def listWith (statements : Parse (List Node)) : Parse Node := do
  let position ← position
  let items ← statements
  return .statements items position

def statementWith (form : Form → Position → Parse Node)
    (declaration : DataType → Position → Parse Node) (expression : Parse Node) :
    Parse (Option Node) := do
  let position ← position
  match ← attempt Form.read? with
  | some kind => return some (← form kind position)
  | none =>
    match ← type with
    | some type => return some (← declaration type position)
    | none =>
      if ← ask atListEnd then
        return none
      else
        return some (← expression)

def elseBranchWith (block : Parse Node) : Parse (Option Node) := do
  if ← acceptKeyword "else" then
    return some (← block)
  else
    return none

def formWith (expression block : Parse Node) (form : Form)
    (position : Position) : Parse Node :=
  match form with
  | .conditional => do
    let predicate ← expression
    let thenBranch ← block
    let elseBranch ← elseBranchWith block
    return .conditional predicate thenBranch elseBranch position
  | .loop => do
    let predicate ← expression
    let body ← block
    return .loop predicate body position
  | .print => do
    let value ← expression
    return .print value position
  | .assignment => do
    let place ← Parse.position
    let name ← expectIdentifier
    let scope ← currentScope
    expect "="
    let value ← expression
    return .assignment (.reference name scope place) value position

def initializerWith (expression : Parse Node) : Parse (Option Node) := do
  if ← accept "=" then
    return some (← expression)
  else
    return none

def declarationWith (function : String → Parse Node) (expression : Parse Node)
    (type : DataType) (position : Position) : Parse Node := do
  let name ← expectIdentifier
  if ← accept "(" then
    function name
  else
    let initializer ← initializerWith expression
    declare name type position
    return .declaration type name initializer position

def functionPartsWith (parameters : Parse (List Node)) (list : Parse Node) :
    Parse (List Node × Node) := do
  let parameters ← parameters
  expect "\x7b"
  let body ← blockBodyOf list
  return (parameters, body)

def functionWith (parameters : Parse (List Node)) (list : Parse Node)
    (returnType : DataType) (name : String)
    (position : Position) : Parse Node := do
  let (parameters, body) ← inScope (functionPartsWith parameters list)
  declare name .callable position
  changeScopes (·.bind name (Node.signature returnType parameters))
  return .function returnType name parameters body position

def parametersWith (more : Parse (List Node)) : Parse (List Node) := do
  let position ← position
  match ← type with
  | some type =>
    let first ← parameter type position
    let others ← more
    expect ")"
    return first :: others
  | none =>
    expect ")"
    return []

def chainWith (operand : Parse Node)
    (links : Parse (List Link)) : Parse Node := do
  let first ← operand
  let links ← links
  return links.foldl Link.extend first

def componentWith (primary : Parse Node) : Parse Node := do
  let position ← position
  let target ← castPrefix
  let operand ← primary
  match target with
  | some target => return .cast target operand position
  | none => return operand

def primaryWith (named : String → Position → Parse Node)
    (expression : Parse Node) : Parse Node := do
  let position ← position
  match ← scan Scan.number with
  | some number => return .literal number position
  | none =>
    match ← scan Scan.string with
    | some contents => return .literal (.string contents) position
    | none =>
      match ← attempt Cursor.identifier? with
      | some name => named name position
      | none =>
        if ← accept "(" then
          let inner ← expression
          expect ")"
          return inner
        else
          fail (.unexpectedToken "expression" (← ask Cursor.describeWord))
            position

def argumentsWith (expression : Parse Node)
    (more : Parse (List Node)) : Parse (List Node) := do
  if ← accept ")" then
    return []
  else
    let first ← expression
    let others ← more
    expect ")"
    return first :: others

def nameWith (expression : Parse Node) (more : Parse (List Node))
    (name : String) (position : Position) : Parse Node := do
  let scope ← currentScope
  if ← accept "(" then
    let arguments ← argumentsWith expression more
    return .call name arguments scope position
  else
    return .reference name scope position

section Steps

variable (list expression : Parse Node)

theorem eq_listWith :
    statementListOf list = listWith (many (statementOf list)) :=
  rfl

theorem eq_statementWith :
    statementOf list =
      statementWith (formOf list) (declarationOf list) Grammar.expression :=
  rfl

theorem eq_formWith :
    formOf list = formWith Grammar.expression (blockOf list) := by
  funext form position
  cases form <;> rfl

theorem eq_declarationWith (type : DataType) (position : Position) :
    declarationOf list type position =
      declarationWith (functionOf list type · position)
        Grammar.expression type position :=
  rfl

theorem eq_functionWith : functionOf list = functionWith parameters list :=
  rfl

theorem eq_parametersWith :
    parameters = parametersWith (many (afterComma expectParameter)) :=
  rfl

theorem eq_chainWith (level : Level) (operand : Parse Node) :
    chain level operand = chainWith operand (many (link level operand)) :=
  rfl

theorem eq_componentWith :
    componentOf expression = componentWith (primaryOf expression) :=
  rfl

theorem eq_primaryWith :
    primaryOf expression = primaryWith (nameOf expression) expression :=
  rfl

theorem eq_nameWith :
    nameOf expression = nameWith expression (many (afterComma expression)) :=
  rfl

end Steps

/-! ## Routines -/

/-- The repetitions of the grammar, each with what a round of it finds. -/
inductive Loop : Type → Type where
  | statements : Loop Node
  | links (level : Level) : Loop Link
  | arguments : Loop Node
  | parameters : Loop Node

/-- The steps of the grammar that call one another, each with what it yields. -/
inductive Routine : Type → Type 1 where
  | statementList : Routine Node
  | statement : Routine (Option Node)
  | block : Routine Node
  | form (form : Form) (position : Position) : Routine Node
  | declaration (type : DataType) (position : Position) : Routine Node
  | function (returnType : DataType) (name : String)
      (position : Position) : Routine Node
  | parameters : Routine (List Node)
  | expression : Routine Node
  | level (level : Level) : Routine Node
  | component : Routine Node
  | primary : Routine Node
  | named (name : String) (position : Position) : Routine Node
  | loop {α : Type} (kind : Loop α) : Routine (List α)

variable {α : Type}

def Loop.round : Loop α → Parse (Option α)
  | .statements => statement
  | .links level => link level (operandOf expression level)
  | .arguments => afterComma expression
  | .parameters => afterComma expectParameter

namespace Routine

def step : Routine α → Parse α
  | .statementList => Grammar.statementList
  | .statement => Grammar.statement
  | .block => Grammar.block
  | .form kind position => formOf Grammar.statementList kind position
  | .declaration type position =>
      declarationOf Grammar.statementList type position
  | .function returnType name position =>
      functionOf Grammar.statementList returnType name position
  | .parameters => Grammar.parameters
  | .expression => Grammar.expression
  | .level tightness => Grammar.level tightness
  | .component => Grammar.component
  | .primary => Grammar.primary
  | .named name position => nameOf Grammar.expression name position
  | .loop kind => many kind.round

def operand (level : Level) : Routine Node :=
  match level.next with
  | some tighter => .level tighter
  | none => .component

theorem step_operand (level : Level) :
    (operand level).step = operandOf Grammar.expression level := by
  cases level <;> rfl

end Routine

section Bodies

variable (call : {β : Type} → Routine β → Parse β)

/-- One round of the repetition, with its calls left open. -/
def Loop.body : Loop α → Parse (Option α)
  | .statements => call .statement
  | .links level => link level (call (.operand level))
  | .arguments => afterComma (call .expression)
  | .parameters => afterComma expectParameter

/-- The routine with its calls left open. A repetition calls itself for the
rounds behind the first. -/
def Routine.body : Routine α → Parse α
  | .statementList => listWith (call (.loop .statements))
  | .statement =>
      statementWith (fun kind position => call (.form kind position))
        (fun type position => call (.declaration type position))
          (call .expression)
  | .block => blockOf (call .statementList)
  | .form kind position =>
      formWith (call .expression) (call .block) kind position
  | .declaration type position =>
      declarationWith (fun name => call (.function type name position))
        (call .expression) type
        position
  | .function returnType name position =>
      functionWith (call .parameters) (call .statementList) returnType
        name position
  | .parameters => parametersWith (call (.loop .parameters))
  | .expression => call (.level .comparison)
  | .level tightness =>
      chainWith (call (.operand tightness)) (call (.loop (.links tightness)))
  | .component => componentWith (call .primary)
  | .primary =>
      primaryWith (fun name position => call (.named name position))
        (call .expression)
  | .named name position =>
      nameWith (call .expression) (call (.loop .arguments)) name position
  | .loop kind => again (kind.body call) (call (.loop kind))

end Bodies

end Minilang.Grammar
