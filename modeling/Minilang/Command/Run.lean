import Minilang.Code.Generator
import Minilang.Command.Reading
import Minilang.Compilation
import Minilang.Diagnostic.Display
import Minilang.Node.Graph
import Minilang.Node.Pretty
import Minilang.Text.Elapsed

/-!
# The command

The command compiles one file and prints its graph, and on request its
instructions. It says how long each stage took. What it needs from around it is
a console: a file to read, a place to print to and a clock.
-/

namespace Minilang.Command

/-- What the command needs from around it. -/
structure Console (m : Type → Type) where
  /-- The text of the file at the path. -/
  read : String → m (Except ReadFailure String)
  /-- Prints a line. -/
  print : String → m Unit
  /-- The time in nanoseconds since some moment in the past. -/
  now : m Nat

/-- What the command is asked to do: with which file, and whether to print the
instructions and to leave the graph on one line. -/
structure Request where
  path : String
  emit : Bool
  raw : Bool
deriving DecidableEq, Repr

/-- The request in the arguments of the command, which have to name exactly one
file. An argument that begins with two dashes names none, and is left aside if
its meaning is not known. -/
def Request.ofArguments? (arguments : List String) : Option Request :=
  match arguments.filter fun argument => !argument.startsWith "--" with
  | [path] =>
      some ⟨path, arguments.contains "--emit", arguments.contains "--raw"⟩
  | _ => none

def usage : String :=
  "Usage: frontend <file> [--emit] [--raw]"

section

variable {m : Type → Type} [Monad m] (console : Console m)

def printAll (lines : List String) : m Unit :=
  lines.forM console.print

/-- Prints how long something took that started at the given time. -/
def printElapsed (what : String) (start : Nat) : m Unit := do
  let finish ← console.now
  console.print (what ++ " " ++ Text.elapsed (finish - start))

/-- The exit code of a command that was broken off. -/
def brokenOff : Nat :=
  101

/-- Prints a diagnostic beside its source, and yields the exit code. The command
is broken off before a pointer that does not fit. -/
def printDiagnostic (source : String) (diagnostic : Diagnostic) : m Nat := do
  let lines := diagnostic.display source
  if diagnostic.fits source then
    printAll console lines
    return 1
  else
    printAll console lines.dropLast
    return brokenOff

/-- Prints why a program is rejected, and yields the exit code. -/
def printFailure (source : String) : Failure → m Nat
  | .diagnostic diagnostic => printDiagnostic console source diagnostic
  | .fault fault => do
      console.print fault.message
      return brokenOff

def printCode (source : String) (root : Node) : m Nat := do
  let start ← console.now
  match root.generate with
  | .error diagnostic => printDiagnostic console source diagnostic
  | .ok code =>
      printElapsed console "Generated in" start
      printAll console (code.toList.map Instruction.render)
      return 0

def printProgram (request : Request) (source : String)
    (root : Node) : m Nat := do
  console.print (if request.raw then root.graph else Node.pretty root.graph)
  if request.emit then
    printCode console source root
  else
    return 0

def compileSource (request : Request) (source : String) : m Nat := do
  let start ← console.now
  match Program.parse source (fileName request.path) with
  | .error failure => printFailure console source failure
  | .ok program =>
      printElapsed console "Parsed in" start
      let checkStart ← console.now
      match program.check.run [] with
      | .error failure warnings =>
          printAll console (warnings.map Warning.render)
          printFailure console source failure
      | .ok checked warnings =>
          printAll console (warnings.map Warning.render)
          printElapsed console "Type checked in" checkStart
          let code ← printProgram console request source checked.root
          if code == 0 then
            printElapsed console "Total time:" start
          return code

/-- Runs the command with its arguments, and yields the exit code. -/
def run (arguments : List String) : m Nat := do
  match Request.ofArguments? arguments with
  | none =>
      console.print usage
      return 2
  | some request =>
      match ← console.read request.path with
      | .ok source => compileSource console request source
      | .error failure =>
          console.print ("Failed to read " ++ request.path ++ ": " ++
            failure.message)
          return 1

end

end Minilang.Command
