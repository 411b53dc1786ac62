import Minilang.Grammar.Basic

namespace Minilang.Grammar

open Parse

def type : Parse (Option DataType) :=
  attempt Cursor.type?

def expectType : Parse DataType := do
  match ← type with
  | some type => return type
  | none => fail (.expectedType (← ask Cursor.describe)) (← position)

/-- The target of a cast, if one comes next: a type between `<` and `>`. -/
def castPrefix : Parse (Option DataType) := do
  if ← accept "<" then
    let target ← expectType
    expect ">"
    return some target
  else
    return none

def expectIdentifier : Parse String := do
  match ← attempt Cursor.identifier? with
  | some name => return name
  | none => fail (.expectedIdentifier (← ask Cursor.describeWord)) (← position)

end Minilang.Grammar
