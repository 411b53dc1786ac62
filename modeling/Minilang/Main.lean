import Minilang.Command.Run

namespace Minilang.Command

/-- The number that the operating system gives to an error. Some of its
interfaces negate it. -/
def errorNumber (code : UInt32) : Nat :=
  if code.toNat < 0x80000000 then code.toNat else 0x100000000 - code.toNat

def ReadFailure.ofNumber (number : Nat) (reason : String) : ReadFailure :=
  match number with
  | 2 => .missing
  | 20 => .notDirectory
  | 21 => .isDirectory
  | 36 => .nameTooLong
  | 13 => .refused 13 "Permission denied"
  | 40 => .refused 40 "Too many levels of symbolic links"
  | _ => .refused number reason

def ReadFailure.ofError : IO.Error → ReadFailure
  | .alreadyExists _ code reason | .otherError code reason
  | .resourceBusy code reason | .resourceVanished code reason
  | .unsupportedOperation code reason | .hardwareFault code reason
  | .unsatisfiedConstraints code reason | .illegalOperation code reason
  | .protocolError code reason | .timeExpired code reason
  | .interrupted _ code reason | .noFileOrDirectory _ code reason
  | .invalidArgument _ code reason | .permissionDenied _ code reason
  | .resourceExhausted _ code reason | .inappropriateType _ code reason
  | .noSuchThing _ code reason => ofNumber (errorNumber code) reason
  | .unexpectedEof => .refused 5 "Input/output error"
  | .userError reason => .refused 5 reason

/-- The console of the operating system. -/
def systemConsole : Console IO where
  read path := do
    try
      return decodeText (← IO.FS.readBinFile path)
    catch error =>
      return .error (ReadFailure.ofError error)
  print line := IO.println line
  now := IO.monoNanosNow

end Minilang.Command

/-- Compiles the file that the arguments name. -/
def main (arguments : List String) : IO UInt32 := do
  return (← Minilang.Command.run Minilang.Command.systemConsole
    arguments).toUInt32
