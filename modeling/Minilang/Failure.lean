import Minilang.Diagnostic.Basic

namespace Minilang

/-- A step that was not allowed where it was taken. -/
inductive Fault where
  /-- A second global scope was created. -/
  | globalScopeExists
  /-- The last open scope was exited. -/
  | globalScopeExit
  /-- No scope was open. -/
  | noOpenScope
  /-- There are only `size` scopes, so `index` names none. -/
  | noSuchScope (size index : Nat)
  /-- A repetition went on without consuming any text. -/
  | stalled
deriving DecidableEq, Repr

def Fault.message : Fault → String
  | globalScopeExists => "global scope already created"
  | globalScopeExit => "attempted to exit the global scope"
  | noOpenScope => "no scope is open, create the global scope first"
  | noSuchScope size index =>
      "index out of bounds: the len is " ++ toString size ++
        " but the index is " ++ toString index
  | stalled => "no text was consumed"

/-- Why a step failed. -/
inductive Failure where
  | diagnostic (diagnostic : Diagnostic)
  | fault (fault : Fault)
deriving DecidableEq, Repr

end Minilang
