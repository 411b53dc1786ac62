import Minilang.Node.Basic

/-!
# Typing

A check goes through a tree, children before their parents. It yields the tree
with its type, and in the tree each integer that meets a number with a fraction
in arithmetic or in an ordering stands behind a cast that was not written. Each
such cast is announced by a warning.
-/

namespace Minilang

/-- A check: the warnings are those announced so far, in their order. -/
abbrev Check := EStateM Failure (List Warning)

namespace Check

variable {α : Type}

def fail (cause : Cause) (position : Position) : Check α :=
  throw (.diagnostic ⟨cause, position⟩)

def warn (message : String) (position : Position) : Check Unit :=
  modify (· ++ [⟨message, position⟩])

def lookup (answer : Except Fault α) : Check α :=
  match answer with
  | .ok value => pure value
  | .error fault => throw (.fault fault)

def require (value : Option α) (cause : Cause)
    (position : Position) : Check α :=
  match value with
  | some value => pure value
  | none => fail cause position

def demand (condition : Bool) (cause : Cause)
    (position : Position) : Check Unit :=
  if condition then pure () else fail cause position

end Check

namespace Node

open Check

/-- The operand behind a cast to a number with a fraction, at its own place. -/
def widened (operand : Node) : Node :=
  .cast .float operand operand.position

/-- The type of a comparison for equality, which is that of its operands. Of two
numbers one may be an integer and the other not, and neither is cast. -/
def equalityType? : DataType → DataType → Option DataType
  | .string, .string => some .string
  | .float, _ => some .float
  | _, .float => some .float
  | .integer, .integer => some .integer
  | _, _ => none

/-- Two operands of arithmetic or an ordering, with the type that they have in
common. Strings are refused, and an integer beside a number with a fraction is
cast. -/
def widen (left : Node) (leftType : DataType) (right : Node)
    (rightType : DataType)
    (position : Position) : Check (Node × Node × DataType) :=
  match leftType, rightType with
  | .string, _ | _, .string =>
      fail (.operandTypes leftType.name rightType.name) position
  | .integer, .float => do
      warn "Implicit Integer->Float cast" position
      return (left.widened, right, .float)
  | .float, .integer => do
      warn "Implicit Integer->Float cast" position
      return (left, right.widened, .float)
  | .float, _ | _, .float => return (left, right, .float)
  | _, _ => return (left, right, .integer)

def checkOperator (operator : BinaryOperator) (left : Node)
    (leftType : DataType) (right : Node) (rightType : DataType)
    (position : Position) : Check (Node × DataType) :=
  if operator.isEquality then do
    let type ← require (equalityType? leftType rightType)
      (.comparedTypes leftType.name rightType.name) position
    return (.binary operator left right position, type)
  else do
    let (left, right, type) ← widen left leftType right rightType position
    return (.binary operator left right position,
      if operator.isOrdering then .boolean else type)

/-- The signature that a call is checked against: the name must be declared, as
a function, and with a signature that can be seen in the scope. -/
def calledSignature (scopes : Scopes) (name : String) (scope : ScopeId)
    (position : Position) : Check Signature := do
  let type ← require (← lookup (scopes.symbol? scope name))
    (.notDeclared name) position
  demand (type == .callable) (.notCallable name) position
  require (← lookup (scopes.signature? scope name))
    (.signatureNotVisible name) position

mutual

/-- Checks a tree against the scopes to which it refers, and yields it with its
type. -/
def check (scopes : Scopes) : Node → Check (Node × DataType)
  | .literal value position => return (.literal value position, value.dataType)
  | .reference name scope position => do
      let type ← require (← lookup (scopes.symbol? scope name))
        (.notDeclared name) position
      return (.reference name scope position, type)
  | .call name arguments scope position => do
      let signature ← calledSignature scopes name scope position
      demand (arguments.length == signature.parameters.length)
        (.argumentCount signature.parameters.length arguments.length) position
      let arguments ← checkArguments scopes arguments
        (signature.parameters.map Prod.snd)
      return (.call name arguments scope position, signature.returnType)
  | .binary operator left right position => do
      let (left, leftType) ← check scopes left
      let (right, rightType) ← check scopes right
      checkOperator operator left leftType right rightType position
  | .cast target operand position => do
      let (operand, type) ← check scopes operand
      demand (type != .string) (.castOfString target.name) position
      return (.cast target operand position, target)
  | .statements items position => do
      let items ← checkAll scopes items
      return (.statements items position, .untyped)
  | .conditional predicate thenBranch elseBranch position => do
      let place := predicate.position
      let (predicate, type) ← check scopes predicate
      demand (type == .boolean) (.predicateType type.name) place
      let (thenBranch, _) ← check scopes thenBranch
      let elseBranch ← checkOption scopes elseBranch
      return (.conditional predicate thenBranch (elseBranch.map Prod.fst)
        position, .untyped)
  | .loop predicate body position => do
      let place := predicate.position
      let (predicate, type) ← check scopes predicate
      demand (type == .boolean) (.predicateType type.name) place
      let (body, _) ← check scopes body
      return (.loop predicate body position, .untyped)
  | .print value position => do
      let (value, _) ← check scopes value
      return (.print value position, .untyped)
  | .declaration type name initializer position => do
      let initializer ← checkOption scopes initializer
      let received := (initializer.map Prod.snd).getD type
      demand (received == type)
        (.initializerType type.name received.name) position
      return (.declaration type name (initializer.map Prod.fst) position,
        .untyped)
  | .function returnType name parameters body position => do
      let parameters ← checkAll scopes parameters
      let (body, _) ← check scopes body
      return (.function returnType name parameters body position, .callable)
  | .assignment target value position => do
      let (target, expected) ← check scopes target
      let (value, received) ← check scopes value
      demand (received == expected)
        (.assignedType expected.name received.name) position
      return (.assignment target value position, .untyped)

def checkAll (scopes : Scopes) : List Node → Check (List Node)
  | [] => return []
  | node :: nodes => do
      let (node, _) ← check scopes node
      let nodes ← checkAll scopes nodes
      return node :: nodes

def checkOption (scopes : Scopes) :
    Option Node → Check (Option (Node × DataType))
  | none => return none
  | some node => do
      let checked ← check scopes node
      return some checked

/-- Checks the arguments of a call against the types that are expected of
them. -/
def checkArguments (scopes : Scopes) :
    List Node → List DataType → Check (List Node)
  | argument :: arguments, expected :: types => do
      let place := argument.position
      let (argument, received) ← check scopes argument
      demand (received == expected)
        (.argumentType expected.name received.name) place
      let arguments ← checkArguments scopes arguments types
      return argument :: arguments
  | _, _ => return []

end

end Node

end Minilang
