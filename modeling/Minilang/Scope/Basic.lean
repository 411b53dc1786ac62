import Minilang.DataType
import Minilang.Failure
import Minilang.Scope.Table

/-!
# Scopes

A scope holds what a name means at a place of a program. It begins as a copy of
the scope around it, so that later declarations there are not seen inside, and
nothing declared inside is seen outside. Scopes are numbered in the order in
which they are entered and are kept when they are left, because the tree refers
to them by number.
-/

namespace Minilang

abbrev ScopeId := Nat

/-- What the names mean in one stretch of a program. -/
structure Scope where
  /-- The types of all names that are visible here. -/
  symbols : Table DataType
  /-- The names that were declared here and not merely taken over from
  around. -/
  declared : List String
  /-- The signatures of the functions that are visible here. -/
  signatures : Table Signature
deriving DecidableEq, Repr

namespace Scope

def empty : Scope :=
  ⟨.empty, [], .empty⟩

/-- The scope as it is on entry from the given one: the same is visible, and
nothing is declared in it yet. -/
def child (parent : Scope) : Scope :=
  { parent with declared := [] }

def declare? (scope : Scope) (name : String) (type : DataType) : Option Scope :=
  if name ∈ scope.declared then none
  else some
    { symbols := scope.symbols.insert name type
      declared := name :: scope.declared
      signatures := scope.signatures.erase name }

def bind (scope : Scope) (name : String) (signature : Signature) : Scope :=
  { scope with signatures := scope.signatures.insert name signature }

end Scope

/-- All scopes of a program, with the path of those that are open, the innermost
first. -/
structure Scopes where
  all : Array Scope
  path : List ScopeId
deriving DecidableEq, Repr

namespace Scopes

def empty : Scopes :=
  ⟨#[], []⟩

/-- The outermost scope alone, open and without declarations. -/
def initial : Scopes :=
  ⟨#[.empty], [0]⟩

def get (scopes : Scopes) (id : ScopeId) : Except Fault Scope :=
  match scopes.all[id]? with
  | some scope => .ok scope
  | none => .error (.noSuchScope scopes.all.size id)

def current (scopes : Scopes) : Except Fault ScopeId :=
  match scopes.path with
  | id :: _ => .ok id
  | [] => .error .noOpenScope

/-- Opens the outermost scope, which has the number zero. -/
def createGlobal (scopes : Scopes) : Except Fault Scopes :=
  if scopes.all.isEmpty then .ok ⟨#[.empty], 0 :: scopes.path⟩
  else .error .globalScopeExists

@[simp]
theorem createGlobal_empty : empty.createGlobal = .ok initial :=
  rfl

/-- Opens a scope inside the current one. Its number is the first that is
free. -/
def enter (scopes : Scopes) : Except Fault Scopes := do
  let parent ← scopes.get (← scopes.current)
  return ⟨scopes.all.push parent.child, scopes.all.size :: scopes.path⟩

/-- Leaves the current scope, which may not be the last that is open. -/
def exit (scopes : Scopes) : Except Fault Scopes :=
  match scopes.path with
  | _ :: outer :: path => .ok { scopes with path := outer :: path }
  | _ => .error .globalScopeExit

def set (scopes : Scopes) (id : ScopeId) (scope : Scope) : Scopes :=
  { scopes with all := scopes.all.setIfInBounds id scope }

def declare? (scopes : Scopes) (name : String) (type : DataType) :
    Except Fault (Option Scopes) := do
  let id ← scopes.current
  let scope ← scopes.get id
  return (scope.declare? name type).map (scopes.set id)

def bind (scopes : Scopes) (name : String)
    (signature : Signature) : Except Fault Scopes := do
  let id ← scopes.current
  let scope ← scopes.get id
  return scopes.set id (scope.bind name signature)

def symbol? (scopes : Scopes) (id : ScopeId) (name : String) :
    Except Fault (Option DataType) :=
  return (← scopes.get id).symbols.get? name

def signature? (scopes : Scopes) (id : ScopeId) (name : String) :
    Except Fault (Option Signature) :=
  return (← scopes.get id).signatures.get? name

end Scopes

end Minilang
