/-!
# Binary operators and their levels

The operators are grouped into four levels. An operand of an operator of one
level is built from the operators of the next, tighter level, and the operands
of the tightest level are components.
-/

namespace Minilang

inductive BinaryOperator where
  | exponent
  | multiply
  | divide
  | add
  | subtract
  | greaterThan
  | greaterOrEqual
  | lessThan
  | lessOrEqual
  | equal
  | notEqual
deriving DecidableEq, Repr

namespace BinaryOperator

def name : BinaryOperator → String
  | exponent => "Exponent"
  | multiply => "Multiply"
  | divide => "Divide"
  | add => "Add"
  | subtract => "Subtract"
  | greaterThan => "GreaterThan"
  | greaterOrEqual => "GreaterOrEqual"
  | lessThan => "LessThan"
  | lessOrEqual => "LessOrEqual"
  | equal => "Equal"
  | notEqual => "NotEqual"

/-- The operator as it is written in a program. -/
def symbol : BinaryOperator → String
  | exponent => "^"
  | multiply => "*"
  | divide => "/"
  | add => "+"
  | subtract => "-"
  | greaterThan => ">"
  | greaterOrEqual => ">="
  | lessThan => "<"
  | lessOrEqual => "<="
  | equal => "=="
  | notEqual => "!="

/-- Whether the operator compares sizes; its operands are treated as in
arithmetic. -/
def isOrdering : BinaryOperator → Bool
  | greaterThan | greaterOrEqual | lessThan | lessOrEqual => true
  | _ => false

/-- Whether the operator asks if its operands are the same. -/
def isEquality : BinaryOperator → Bool
  | equal | notEqual => true
  | _ => false

end BinaryOperator

/-- A level of operators, from the loosest to the tightest. -/
inductive Level where
  | comparison
  | additive
  | multiplicative
  | exponent
deriving DecidableEq, Repr

namespace Level

def all : List Level :=
  [comparison, additive, multiplicative, exponent]

def name : Level → String
  | comparison => "Comparison"
  | additive => "Additive"
  | multiplicative => "Multiplicative"
  | exponent => "Exponent"

/-- The level of the operands, if they are not components. -/
def next : Level → Option Level
  | comparison => some additive
  | additive => some multiplicative
  | multiplicative => some exponent
  | exponent => none

/-- The operators of the level in the order in which they are tried: a symbol
comes before those that it begins with. -/
def operators : Level → List BinaryOperator
  | comparison =>
      [.lessOrEqual, .greaterOrEqual, .equal, .notEqual, .lessThan,
        .greaterThan]
  | additive => [.add, .subtract]
  | multiplicative => [.multiply, .divide]
  | exponent => [.exponent]

/-- The number of tighter levels. -/
def height : Level → Nat
  | comparison => 3
  | additive => 2
  | multiplicative => 1
  | exponent => 0

theorem height_next {level tighter : Level} (next : level.next = some tighter) :
    tighter.height < level.height := by
  cases level <;> cases next <;> decide

end Level

def BinaryOperator.level : BinaryOperator → Level
  | exponent => .exponent
  | multiply | divide => .multiplicative
  | add | subtract => .additive
  | greaterThan | greaterOrEqual | lessThan | lessOrEqual | equal | notEqual =>
      .comparison

/-- The lists of operators give each operator to its own level and to no
other. -/
theorem BinaryOperator.mem_operators_iff {operator : BinaryOperator}
    {level : Level} :
    operator ∈ level.operators ↔ operator.level = level := by
  cases operator <;> cases level <;> decide

end Minilang
