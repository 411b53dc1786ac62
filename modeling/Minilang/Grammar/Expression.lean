import Minilang.Grammar.Type

/-!
# Reading expressions

An expression is a chain of operands of the loosest level. The operands of a
level are chains of the next, tighter level, and those of the tightest level are
components: a literal, a name, a call or an expression in parentheses, perhaps
behind a cast. Each reading step whose name ends in `Of` takes the step that
reads the expressions inside it.
-/

namespace Minilang.Grammar

open Parse

def afterComma {α : Type} (item : Parse α) : Parse (Option α) := do
  if ← accept "," then
    return some (← item)
  else
    return none

def argumentsOf (expression : Parse Node) : Parse (List Node) := do
  if ← accept ")" then
    return []
  else
    let first ← expression
    let others ← many (afterComma expression)
    expect ")"
    return first :: others

/-- What a name begins: a call if an opening parenthesis comes next, and else a
reference. Both belong to the scope that is current at the name. -/
def nameOf (expression : Parse Node) (name : String)
    (position : Position) : Parse Node := do
  let scope ← currentScope
  if ← accept "(" then
    let arguments ← argumentsOf expression
    return .call name arguments scope position
  else
    return .reference name scope position

/-- An expression that no operator and no cast stands in front of. -/
def primaryOf (expression : Parse Node) : Parse Node := do
  let position ← position
  match ← scan Scan.number with
  | some number => return .literal number position
  | none =>
    match ← scan Scan.string with
    | some contents => return .literal (.string contents) position
    | none =>
      match ← attempt Cursor.identifier? with
      | some name => nameOf expression name position
      | none =>
        if ← accept "(" then
          let inner ← expression
          expect ")"
          return inner
        else
          fail (.unexpectedToken "expression" (← ask Cursor.describeWord))
            position

/-- A primary expression, perhaps behind a cast. -/
def componentOf (expression : Parse Node) : Parse Node := do
  let position ← position
  let target ← castPrefix
  let operand ← primaryOf expression
  match target with
  | some target => return .cast target operand position
  | none => return operand

structure Link where
  operator : BinaryOperator
  position : Position
  right : Node

/-- The chain of operands grows by one link to its right. -/
def Link.extend (left : Node) (link : Link) : Node :=
  .binary link.operator left link.right link.position

/-- One more link, if an operator of the level comes next. -/
def link (level : Level) (operand : Parse Node) : Parse (Option Link) := do
  let position ← position
  match ← attempt (Cursor.operator? level) with
  | some operator => return some ⟨operator, position, ← operand⟩
  | none => return none

/-- Operands with operators of the level between them, grouped from the left. -/
def chain (level : Level) (operand : Parse Node) : Parse Node := do
  let first ← operand
  let links ← many (link level operand)
  return links.foldl Link.extend first

/-- A chain of the level whose operands are chains of the next level, down to
components. -/
def levelOf (expression : Parse Node) (level : Level) : Parse Node :=
  chain level
    (match _next : level.next with
    | some tighter => levelOf expression tighter
    | none => componentOf expression)
termination_by level.height
decreasing_by exact Level.height_next _next

def expression : Parse Node :=
  recur fun expression => levelOf expression .comparison

def level : Level → Parse Node :=
  levelOf expression

def component : Parse Node :=
  componentOf expression

def primary : Parse Node :=
  primaryOf expression

theorem levelOf_of_next {expression : Parse Node} {level tighter : Level}
    (next : level.next = some tighter) :
    levelOf expression level = chain level (levelOf expression tighter) := by
  rw [levelOf]
  split <;> simp_all

theorem levelOf_exponent (expression : Parse Node) :
    levelOf expression .exponent = chain .exponent
      (componentOf expression) := by
  rw [levelOf]
  rfl

end Minilang.Grammar
