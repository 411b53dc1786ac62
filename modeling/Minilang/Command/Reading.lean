namespace Minilang.Command

inductive ReadFailure where
  | missing
  | notDirectory
  | isDirectory
  | nameTooLong
  | invalidText
  /-- The operating system refused for another reason, which it numbers and
  words. -/
  | refused (code : Nat) (reason : String)
deriving DecidableEq, Repr

/-- A reason of the operating system with its number. -/
def numberedReason (code : Nat) (reason : String) : String :=
  reason ++ " (os error " ++ toString code ++ ")"

def ReadFailure.message : ReadFailure → String
  | missing => numberedReason 2 "No such file or directory"
  | notDirectory => numberedReason 20 "Not a directory"
  | isDirectory => numberedReason 21 "Is a directory"
  | nameTooLong => numberedReason 36 "File name too long"
  | invalidText => "stream did not contain valid UTF-8"
  | refused code reason => numberedReason code reason

def decodeText (bytes : ByteArray) : Except ReadFailure String :=
  match String.fromUTF8? bytes with
  | some text => .ok text
  | none => .error .invalidText

/-- The name of a file without the directories that lead to it; the path itself
if it names no file. -/
def fileName (path : String) : String :=
  match ((path.splitOn "/").filter fun step => step != "" &&
    step != ".").getLast? with
  | some step => if step == ".." then path else step
  | none => path

end Minilang.Command
