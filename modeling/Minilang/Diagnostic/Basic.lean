import Minilang.Diagnostic.Cause
import Minilang.Position

namespace Minilang

/-- A cause of rejection with its place. -/
structure Diagnostic where
  cause : Cause
  position : Position
deriving DecidableEq, Repr

def Diagnostic.message (diagnostic : Diagnostic) : String :=
  diagnostic.cause.message ++ " @ " ++ diagnostic.position.render

/-- A notice that rejects nothing. -/
structure Warning where
  message : String
  position : Position
deriving DecidableEq, Repr

def Warning.render (warning : Warning) : String :=
  "WARNING - " ++ warning.message ++ " @ " ++ warning.position.render

end Minilang
