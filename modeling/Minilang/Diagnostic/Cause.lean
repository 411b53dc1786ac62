import Minilang.Text.Quoted

namespace Minilang

/-- The reason for which a program is rejected. -/
inductive Cause where
  | unexpectedToken (expected found : String)
  | unterminatedString
  | malformedNumber (token : String)
  | expectedType (found : String)
  | expectedIdentifier (found : String)
  | alreadyDeclared (identifier : String)
  | notDeclared (identifier : String)
  | notCallable (identifier : String)
  | signatureNotVisible (identifier : String)
  | argumentCount (expected received : Nat)
  | argumentType (expected received : String)
  | operandTypes (left right : String)
  | comparedTypes (left right : String)
  | initializerType (expected received : String)
  | assignedType (expected received : String)
  | predicateType (received : String)
  | castOfString (target : String)
  | notSupported (construct : String)
deriving DecidableEq, Repr

namespace Cause

def name : Cause → String
  | unexpectedToken .. => "UnexpectedToken"
  | unterminatedString => "UnterminatedString"
  | malformedNumber .. => "MalformedNumber"
  | expectedType .. => "ExpectedType"
  | expectedIdentifier .. => "ExpectedIdentifier"
  | alreadyDeclared .. => "IdentifierAlreadyDeclared"
  | notDeclared .. => "VariableNotDeclared"
  | notCallable .. => "NotCallable"
  | signatureNotVisible .. => "CallableNotVisible"
  | argumentCount .. => "ArgumentCountMismatch"
  | argumentType .. => "ArgumentTypeMatchError"
  | operandTypes .. => "TypeMatchError"
  | comparedTypes .. => "EqualityTypeMismatch"
  | initializerType .. => "DeclarationTypeMismatch"
  | assignedType .. => "AssignmentTypeMismatch"
  | predicateType .. => "PredicateNotBoolean"
  | castOfString .. => "InvalidCast"
  | notSupported .. => "NotImplementedError"

def message : Cause → String
  | unexpectedToken expected found =>
      "expected " ++ expected ++ ", got " ++ found
  | unterminatedString => "end of input scanning string"
  | malformedNumber token => "malformed number: " ++ Text.quoted token
  | expectedType found => "expected type, got " ++ found
  | expectedIdentifier found => "expected identifier, got " ++ found
  | alreadyDeclared identifier =>
      "identifier " ++ Text.quoted identifier ++ " already exists in this scope"
  | notDeclared identifier =>
      "variable " ++ Text.quoted identifier ++ " used before defined"
  | notCallable identifier => Text.quoted identifier ++ " is not callable"
  | signatureNotVisible identifier =>
      "no callable signature for " ++ Text.quoted identifier ++ " in this scope"
  | argumentCount expected received =>
      "parameter count mismatch: expected " ++ toString expected ++
        ", received " ++ toString received
  | argumentType expected received =>
      "parameter type mismatch: expected " ++ expected ++
        ", received " ++ received
  | operandTypes left right => "type mismatch - " ++ left ++ "->" ++ right
  | comparedTypes left right =>
      "type mismatch - cannot compare " ++ left ++ " with " ++ right
  | initializerType expected received =>
      "type mismatch - rvalue not equal to lvalue: expected " ++ expected ++
        ", received " ++ received
  | assignedType expected received =>
      "assignment type mismatch: expected " ++ expected ++
        ", received " ++ received
  | predicateType received =>
      "type mismatch - predicate must evaluate to boolean, received " ++
        received
  | castOfString target => "unable to cast from String to " ++ target
  | notSupported construct => "not implemented: " ++ construct

/-- The explanation that is given beside the name of the error, if there is
one. -/
def tip : Cause → Option String
  | unexpectedToken expected found =>
      some ("Expected " ++ expected ++ ", got " ++ found)
  | unterminatedString => none
  | malformedNumber token =>
      some ("Invalid number: `" ++ token ++
        "`, a decimal point must be followed by digits")
  | expectedType found =>
      some ("Expected one of `int`, `float`, `string`, `bool`, `callable`, got "
        ++ found)
  | expectedIdentifier found => some ("Expected identifier, got " ++ found)
  | alreadyDeclared identifier =>
      some ("`" ++ identifier ++ "` already exists in this scope")
  | notDeclared identifier =>
      some ("Variable `" ++ identifier ++ "` used before defined")
  | notCallable identifier => some ("`" ++ identifier ++ "` is not callable")
  | signatureNotVisible identifier =>
      some ("`" ++ identifier ++
        "` is callable but no signature for it is visible here")
  | argumentCount expected received =>
      some ("Expected " ++ toString expected ++ " arguments, received " ++
        toString received)
  | argumentType expected received =>
      some ("Expected argument type `" ++ expected ++ "`, received `" ++
        received ++ "`")
  | operandTypes left right =>
      some ("Cannot apply `" ++ left ++ "` and `" ++ right ++ "` together")
  | comparedTypes left right =>
      some ("Cannot compare `" ++ left ++ "` with `" ++ right ++ "`")
  | initializerType expected received =>
      some ("Declared as `" ++ expected ++ "`, but initialised with `" ++
        received ++ "`")
  | assignedType expected received =>
      some ("Expected type `" ++ expected ++ "`, received `" ++ received ++ "`")
  | predicateType received =>
      some ("Predicate must evaluate to `Boolean`, received `" ++
        received ++ "`")
  | castOfString target =>
      some ("Unable to cast from `String` to `" ++ target ++ "`")
  | notSupported construct =>
      some ("Lowering `" ++ construct ++
        "` is not supported by the instruction set yet")

end Cause

end Minilang
