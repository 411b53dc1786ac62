namespace Minilang

/-- A type of data. `untyped` belongs to what is no expression, and never to a
legal one. -/
inductive DataType where
  | void
  | string
  | integer
  | float
  | boolean
  | callable
  | indexable
  | untyped
deriving DecidableEq, Repr

namespace DataType

def name : DataType → String
  | void => "Void"
  | string => "String"
  | integer => "Integer"
  | float => "Float"
  | boolean => "Boolean"
  | callable => "Callable"
  | indexable => "Indexable"
  | untyped => "None"

/-- The words that name a type in a program, in the order in which they are
tried. -/
def words : List (String × DataType) :=
  [("int", integer), ("float", float), ("string", string), ("bool", boolean),
    ("callable", callable)]

def ofWord? (word : String) : Option DataType :=
  words.lookup word

def HasWord (type : DataType) : Prop :=
  type ∈ words.map Prod.snd

instance (type : DataType) : Decidable type.HasWord :=
  inferInstanceAs (Decidable (type ∈ words.map Prod.snd))

end DataType

/-- What a call of a function is checked against: the type of its result, and
the names and types of its parameters in order. -/
structure Signature where
  returnType : DataType
  parameters : List (String × DataType)
deriving DecidableEq, Repr

end Minilang
