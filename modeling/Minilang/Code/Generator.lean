import Minilang.Code.Instruction
import Minilang.Diagnostic.Basic
import Minilang.Node.Basic

/-!
# Generating code

A tree becomes a sequence of instructions. The machine has no instructions yet
for operators, casts, calls, functions, branches, loops and printing, so that
these are refused; what was made before the refusal stays.
-/

namespace Minilang

/-- The instructions made so far, and how many labels were given out. -/
structure Generator where
  code : Array Instruction
  labels : Nat
deriving DecidableEq, Repr

/-- A step that makes instructions and may refuse a construct. -/
abbrev Generate := EStateM Diagnostic Generator

namespace Generator

def empty : Generator :=
  ⟨#[], 0⟩

end Generator

namespace Generate

def emit (opcode : Opcode) (position : Position) : Generate Unit :=
  modify fun generator =>
    { generator with code := generator.code.push ⟨opcode, position⟩ }

/-- A label that was not given out before. -/
def label : Generate String :=
  modifyGet fun generator =>
    ("L" ++ toString generator.labels,
      { generator with labels := generator.labels + 1 })

def refuse (node : Node) : Generate Unit :=
  throw ⟨.notSupported node.kind, node.position⟩

end Generate

namespace Node

open Generate

/-- Code that puts the value of an expression onto the stack. -/
def generateValue : Node → Generate Unit
  | .literal value position => emit (.push value) position
  | .reference name _ position => emit (.load name) position
  | node => refuse node

mutual

/-- Code that has the effect of a statement. The value of an expression is
dropped, and a variable without a first value needs no code. -/
def generateStatement : Node → Generate Unit
  | .statements items _ => generateStatements items
  | .declaration _ _ none _ => return
  | .declaration _ name (some value) position => do
      generateValue value
      emit (.store name) position
  | .assignment (.reference name _ _) value position => do
      generateValue value
      emit (.store name) position
  | .assignment target _ _ => refuse target
  | node =>
      if node.isExpression then do
        generateValue node
        emit .pop node.position
      else refuse node

def generateStatements : List Node → Generate Unit
  | [] => return
  | node :: nodes => do
      generateStatement node
      generateStatements nodes

end

/-- The instructions for a tree, or the first construct that is refused. -/
def generate (root : Node) : Except Diagnostic (Array Instruction) :=
  match (generateStatement root).run .empty with
  | .ok _ generator => .ok generator.code
  | .error diagnostic _ => .error diagnostic

end Node

end Minilang
