import Minilang.Literal
import Minilang.Position
import Minilang.Text.Aligned

namespace Minilang

/-- An instruction of the machine. -/
inductive Opcode where
  /-- Puts the value onto the stack. -/
  | push (value : Literal)
  /-- Takes the topmost value off the stack. -/
  | pop
  /-- Puts the value of the variable onto the stack. -/
  | load (name : String)
  /-- Takes the topmost value off the stack and gives it to the variable. -/
  | store (name : String)
deriving DecidableEq, Repr

def Opcode.render : Opcode → String
  | push value => "push " ++ value.render
  | pop => "pop"
  | load name => "load " ++ name
  | store name => "store " ++ name

structure Instruction where
  opcode : Opcode
  position : Position
deriving DecidableEq, Repr

/-- The instruction in a column of sixteen characters, with its place behind a
semicolon. -/
def Instruction.render (instruction : Instruction) : String :=
  Text.alignLeft 16 ' ' instruction.opcode.render ++ " ; " ++
    instruction.position.render

end Minilang
