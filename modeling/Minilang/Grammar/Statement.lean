import Minilang.Grammar.Expression

/-!
# Reading statements

A list of statements goes on to a closing brace or the end of the source. Blocks
and functions contain further lists, each inside a scope of its own. Each
reading step whose name ends in `Of` takes the step that reads the lists inside
it.
-/

namespace Minilang.Grammar

open Parse

/-- The statements of a block behind its opening brace, with the closing one. -/
def blockBodyOf (list : Parse Node) : Parse Node := do
  let body ← list
  expect "\x7d"
  return body

/-- Statements between braces, in a scope of their own. -/
def blockOf (list : Parse Node) : Parse Node := do
  expect "\x7b"
  inScope (blockBodyOf list)

/-- The statements that begin with a word of their own. -/
inductive Form where
  | conditional
  | loop
  | print
  | assignment
deriving DecidableEq, Repr

def Form.all : List Form :=
  [conditional, loop, print, assignment]

def Form.word : Form → String
  | conditional => "if"
  | loop => "while"
  | print => "print"
  | assignment => "set"

def Form.read? (cursor : Cursor) : Option (Form × Cursor) :=
  all.findSome? fun form => (cursor.keyword? form.word).map (form, ·)

def elseBranchOf (list : Parse Node) : Parse (Option Node) := do
  if ← acceptKeyword "else" then
    return some (← blockOf list)
  else
    return none

def conditionalOf (list : Parse Node) (position : Position) : Parse Node := do
  let predicate ← expression
  let thenBranch ← blockOf list
  let elseBranch ← elseBranchOf list
  return .conditional predicate thenBranch elseBranch position

def loopOf (list : Parse Node) (position : Position) : Parse Node := do
  let predicate ← expression
  let body ← blockOf list
  return .loop predicate body position

def printStatement (position : Position) : Parse Node := do
  let value ← expression
  return .print value position

/-- The rest of an assignment, whose word has the given place. The target
belongs to the scope that is current at its name. -/
def assignment (position : Position) : Parse Node := do
  let place ← Parse.position
  let name ← expectIdentifier
  let scope ← currentScope
  expect "="
  let value ← expression
  return .assignment (.reference name scope place) value position

def formOf (list : Parse Node) (form : Form)
    (position : Position) : Parse Node :=
  match form with
  | .conditional => conditionalOf list position
  | .loop => loopOf list position
  | .print => printStatement position
  | .assignment => assignment position

/-- A parameter behind its type, whose word has the given place. -/
def parameter (type : DataType) (position : Position) : Parse Node := do
  let name ← expectIdentifier
  declare name type position
  return .declaration type name none position

def expectParameter : Parse Node := do
  let position ← position
  let type ← expectType
  parameter type position

/-- The parameters of a function behind the opening parenthesis, with the
closing one. -/
def parameters : Parse (List Node) := do
  let position ← position
  match ← type with
  | some type =>
    let first ← parameter type position
    let others ← many (afterComma expectParameter)
    expect ")"
    return first :: others
  | none =>
    expect ")"
    return []

def functionPartsOf (list : Parse Node) : Parse (List Node × Node) := do
  let parameters ← parameters
  expect "\x7b"
  let body ← blockBodyOf list
  return (parameters, body)

/-- The rest of a function behind its name and the opening parenthesis.
Parameters and body share a scope, and the name is declared only outside it and
when it has been left. -/
def functionOf (list : Parse Node) (returnType : DataType) (name : String)
    (position : Position) : Parse Node := do
  let (parameters, body) ← inScope (functionPartsOf list)
  declare name .callable position
  changeScopes (·.bind name (Node.signature returnType parameters))
  return .function returnType name parameters body position

def initializer : Parse (Option Node) := do
  if ← accept "=" then
    return some (← expression)
  else
    return none

/-- The rest of a declaration behind its type, whose word has the given place:
of a function if a parenthesis follows the name, and else of a variable, which
is declared after its first value. -/
def declarationOf (list : Parse Node) (type : DataType)
    (position : Position) : Parse Node := do
  let name ← expectIdentifier
  if ← accept "(" then
    functionOf list type name position
  else
    let initializer ← initializer
    declare name type position
    return .declaration type name initializer position

/-- Whether nothing but the end of a list comes next. -/
def atListEnd (cursor : Cursor) : Bool :=
  match cursor.rest with
  | [] | '}' :: _ => true
  | _ => false

/-- A statement, if the list does not end here. -/
def statementOf (list : Parse Node) : Parse (Option Node) := do
  let position ← position
  match ← attempt Form.read? with
  | some form => return some (← formOf list form position)
  | none =>
    match ← type with
    | some type => return some (← declarationOf list type position)
    | none =>
      if ← ask atListEnd then
        return none
      else
        return some (← expression)

/-- The statements up to the end of the list. -/
def statementListOf (list : Parse Node) : Parse Node := do
  let position ← position
  let items ← many (statementOf list)
  return .statements items position

def statementList : Parse Node :=
  recur statementListOf

def statement : Parse (Option Node) :=
  statementOf statementList

def block : Parse Node :=
  blockOf statementList

end Minilang.Grammar
