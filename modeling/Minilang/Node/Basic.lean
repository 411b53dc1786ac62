import Minilang.Literal
import Minilang.Operator
import Minilang.Position
import Minilang.Scope.Basic

/-!
# The syntax tree

A node is one construct of a program with its place in the source. Names and
calls refer to the scope in which they stand by its number.
-/

namespace Minilang

/-- A construct of a program. -/
inductive Node where
  | literal (value : Literal) (position : Position)
  | reference (name : String) (scope : ScopeId) (position : Position)
  | call (name : String) (arguments : List Node) (scope : ScopeId)
      (position : Position)
  | binary (operator : BinaryOperator) (left right : Node) (position : Position)
  | cast (target : DataType) (operand : Node) (position : Position)
  | statements (items : List Node) (position : Position)
  | conditional (predicate thenBranch : Node) (elseBranch : Option Node)
      (position : Position)
  | loop (predicate body : Node) (position : Position)
  | print (value : Node) (position : Position)
  | declaration (type : DataType) (name : String) (initializer : Option Node)
      (position : Position)
  | function (returnType : DataType) (name : String) (parameters : List Node)
      (body : Node)
      (position : Position)
  | assignment (target value : Node) (position : Position)

namespace Node

def position : Node → Position
  | literal _ position | reference _ _ position | call _ _ _ position
  | binary _ _ _ position | cast _ _ position | statements _ position
  | conditional _ _ _ position | loop _ _ position | print _ position
  | declaration _ _ _ position | function _ _ _ _ position
  | assignment _ _ position => position

def kind : Node → String
  | literal value _ => value.kind
  | reference .. => "Identifier"
  | call .. => "FunctionCall"
  | binary .. => "Binary"
  | cast .. => "TypeCast"
  | statements .. => "StatementList"
  | conditional .. => "If"
  | loop .. => "While"
  | print .. => "Print"
  | declaration .. => "VariableDeclaration"
  | function .. => "FunctionDeclaration"
  | assignment .. => "Assignment"

/-- Whether the construct has a value when it is evaluated. -/
def isExpression : Node → Bool
  | literal .. | reference .. | call .. | binary .. | cast .. => true
  | _ => false

/-- The name and the type that a parameter gives to a function; nothing if the
node declares no variable. -/
def parameter? : Node → Option (String × DataType)
  | declaration type name _ _ => some (name, type)
  | _ => none

/-- What calls of a function with these parameters and this result are checked
against. -/
def signature (returnType : DataType) (parameters : List Node) : Signature :=
  ⟨returnType, parameters.filterMap parameter?⟩

end Node

end Minilang
