import Minilang.Proofs.Scoping.Declarations
import Minilang.Proofs.Scoping.Scopes

/-!
# Scopes behind those of another program

A program that is read behind another one finds the outermost scope of that one
open. Its own scopes are the same as if it were read alone, except that they are
numbered behind those of the first program and that they also show what its
outermost scope shows, where they have no meaning of their own for a name. This
is kept by each change of the scopes, as the lemmas of `Joined` say, if the
outermost scope is not to declare a name for a second time.
-/

namespace Minilang

/-- The other scope shows what the scope shows, and what is shown around where
the scope has no meaning for a name. The outermost scope has declared what was
declared around. -/
structure Scope.Atop (around : Scope) (id : ScopeId)
    (scope other : Scope) : Prop where
  symbols (name : String) : other.symbols.get? name =
    (scope.symbols.get? name).or (around.symbols.get? name)
  signatures (name : String) : other.signatures.get? name =
    if (scope.symbols.get? name).isSome then scope.signatures.get? name
    else around.signatures.get? name
  declared (name : String) : name ∈ other.declared ↔
    name ∈ scope.declared ∨ id = 0 ∧ name ∈ around.declared

namespace Scope

variable {around scope other later : Scope} {id : ScopeId} {name : String}

theorem atop_empty : Atop around 0 .empty around where
  symbols _ := rfl
  signatures _ := rfl
  declared name := by simp [empty]

theorem Atop.child (atop : Atop around id scope other) {inner : ScopeId}
    (inside : inner ≠ 0) :
    Atop around inner scope.child other.child where
  symbols := atop.symbols
  signatures := atop.signatures
  declared name := by simp [Scope.child, inside]

/-- A scope may hide what is seen around it, but the outermost one may not
declare a name again. -/
theorem Atop.declare? {type : DataType} (atop : Atop around id scope other)
    (declares : scope.declare? name type = some later)
    (free : id = 0 → name ∉ around.declared) :
    ∃ otherLater, other.declare? name type = some otherLater ∧
      Atop around id later otherLater := by
  obtain ⟨fresh, same⟩ := declare?_eq_some.1 declares
  subst same
  have otherFresh : name ∉ other.declared := by
    intro declared
    rcases (atop.declared name).1 declared with inside | ⟨outermost, outside⟩
    · exact fresh inside
    · exact free outermost outside
  refine ⟨_, declare?_eq_some.2 ⟨otherFresh, rfl⟩, ?_⟩
  constructor
  · intro asked
    by_cases same : asked = name
    · simp [same]
    · simp [same, atop.symbols]
  · intro asked
    by_cases same : asked = name
    · simp [same]
    · simp [same, atop.signatures]
  · intro asked
    simp only [List.mem_cons, atop.declared, or_assoc]

theorem Atop.bind (atop : Atop around id scope other)
    (visible : (scope.symbols.get? name).isSome)
    (signature : Signature) :
    Atop around id (scope.bind name signature) (other.bind name signature) where
  symbols := atop.symbols
  signatures asked := by
    by_cases same : asked = name
    · simp [Scope.bind, same, visible]
    · simp [Scope.bind, same, atop.signatures]
  declared := atop.declared

theorem isSome_of_declare? {type : DataType}
    (declares : scope.declare? name type = some later) :
    (later.symbols.get? name).isSome := by
  obtain ⟨_, same⟩ := declare?_eq_some.1 declares
  simp [same]

end Scope

/-- The number of a scope once its program is read behind another one with so
many scopes. The outermost scope is shared. -/
def ScopeId.behind (count id : Nat) : Nat :=
  if id = 0 then 0 else id + (count - 1)

theorem ScopeId.ne_behind {count old id : Nat} (isOld : old ≠ 0)
    (within : old < count) :
    old ≠ behind count id := by
  rw [behind]
  split <;> omega

theorem ScopeId.behind_ne {count first second : Nat} (positive : 0 < count)
    (different : first ≠ second) :
    behind count first ≠ behind count second := by
  rw [behind, behind]
  split <;> split <;> omega

/-- The other scopes are those of a program that is read behind the first one,
whose outermost scope is the one around. -/
structure Joined (first : Scopes) (around : Scope)
    (scopes other : Scopes) : Prop where
  outermost : first.all[0]? = some around
  path : other.path = scopes.path.map (ScopeId.behind first.all.size)
  size : other.all.size + 1 = scopes.all.size + first.all.size
  kept (id : Nat) : id ≠ 0 → id < first.all.size →
    other.all[id]? = first.all[id]?
  atop (id : ScopeId) (scope : Scope) : scopes.all[id]? = some scope →
    ∃ otherScope, other.all[ScopeId.behind first.all.size id]? =
      some otherScope ∧
      Scope.Atop around id scope otherScope

namespace Joined

variable {first scopes other later : Scopes} {around scope : Scope} {id : Nat}

theorem joined_initial (outermost : first.all[0]? = some around)
    (path : first.path = [0]) :
    Joined first around .initial first where
  outermost := outermost
  path := path
  size := Nat.add_comm _ _
  kept _ _ _ := rfl
  atop id scope found := by
    have isOutermost : id = 0 := by
      have within := (Array.getElem?_eq_some_iff.1 found).1
      exact Nat.lt_one_iff.1 within
    subst isOutermost
    cases found
    exact ⟨around, outermost, Scope.atop_empty⟩

theorem size_pos (joined : Joined first around scopes other) :
    0 < first.all.size :=
  (Array.getElem?_eq_some_iff.1 joined.outermost).1

theorem stands (joined : Joined first around scopes other)
    (stands : scopes.Stands id scope) :
    ∃ otherScope, other.Stands (ScopeId.behind first.all.size id) otherScope ∧
      Scope.Atop around id scope otherScope := by
  obtain ⟨otherScope, found, atop⟩ := joined.atop id scope stands.found
  refine ⟨otherScope, ⟨?_, found⟩, atop⟩
  rw [joined.path, List.head?_map, stands.head?]
  rfl

/-- The scope of the number is replaced in both. -/
theorem set (joined : Joined first around scopes other)
    {last otherScope otherLast : Scope} (stands : scopes.Stands id scope)
    (otherStands : other.Stands (ScopeId.behind first.all.size id) otherScope)
    (atop : Scope.Atop around id last otherLast) :
    Joined first around (scopes.set id last)
      (other.set (ScopeId.behind first.all.size id) otherLast) := by
  have becomes := stands.becomes_set last
  have otherBecomes := otherStands.becomes_set otherLast
  refine ⟨joined.outermost, joined.path, ?_, ?_, ?_⟩
  · rw [Scopes.size_set, Scopes.size_set]
    exact joined.size
  · intro old isOld within
    rw [Scopes.getElem?_set_of_ne (ScopeId.ne_behind isOld within),
      joined.kept old isOld within]
  · intro number found isFound
    by_cases same : number = id
    · subst same
      cases becomes.found.symm.trans isFound
      exact ⟨otherLast, otherBecomes.found, atop⟩
    · rw [Scopes.getElem?_set_of_ne same] at isFound
      rw [Scopes.getElem?_set_of_ne (ScopeId.behind_ne joined.size_pos same)]
      exact joined.atop number found isFound

theorem current (joined : Joined first around scopes other)
    (current : scopes.current = .ok id) :
    other.current = .ok (ScopeId.behind first.all.size id) := by
  rw [Scopes.current_ok] at current ⊢
  rw [joined.path, List.head?_map, current]
  rfl

/-- The scope that is entered has the next free number in both. -/
theorem enter (joined : Joined first around scopes other) {inner : Scopes}
    (enters : scopes.enter = .ok inner) :
    ∃ otherInner, other.enter = .ok otherInner ∧
      Joined first around inner otherInner := by
  obtain ⟨id, scope, stands, same⟩ := Scopes.enter_ok.1 enters
  subst same
  obtain ⟨otherScope, otherStands, atop⟩ := joined.stands stands
  have size := joined.size
  have positive := joined.size_pos
  have nested : scopes.all.size ≠ 0 := Nat.ne_zero_of_lt stands.lt
  have number : ScopeId.behind first.all.size scopes.all.size =
      other.all.size := by
    rw [ScopeId.behind, if_neg nested]
    omega
  refine ⟨_, Scopes.enter_ok.2 ⟨_, otherScope, otherStands, rfl⟩,
    joined.outermost, ?_, ?_, ?_, ?_⟩
  · rw [List.map_cons, number, joined.path]
  · rw [Array.size_push, Array.size_push]
    omega
  · intro old isOld within
    rw [Array.getElem?_push_lt (by omega), ← joined.kept old isOld within]
    exact (Array.getElem?_eq_getElem _).symm
  · intro asked found isFound
    by_cases isNew : asked = scopes.all.size
    · subst isNew
      rw [Array.getElem?_push_size] at isFound
      cases isFound
      rw [number]
      exact ⟨_, Array.getElem?_push_size, atop.child nested⟩
    · have isOld : asked < scopes.all.size := by
        have within := (Array.getElem?_eq_some_iff.1 isFound).1
        rw [Array.size_push] at within
        exact Nat.lt_of_le_of_ne (Nat.le_of_lt_succ within) isNew
      rw [Array.getElem?_push_lt isOld,
        ← Array.getElem?_eq_getElem isOld] at isFound
      obtain ⟨otherFound, there, atop⟩ := joined.atop asked found isFound
      have otherOld := (Array.getElem?_eq_some_iff.1 there).1
      refine ⟨otherFound, ?_, atop⟩
      rw [Array.getElem?_push_lt otherOld, ← there]
      exact (Array.getElem?_eq_getElem _).symm

theorem exit (joined : Joined first around scopes other) {outer : Scopes}
    (exits : scopes.exit = .ok outer) :
    ∃ otherOuter, other.exit = .ok otherOuter ∧
      Joined first around outer otherOuter := by
  obtain ⟨inner, next, path, open_, same⟩ := Scopes.exit_ok.1 exits
  subst same
  have otherOpen := joined.path
  rw [open_, List.map_cons, List.map_cons] at otherOpen
  exact ⟨_, Scopes.exit_ok.2 ⟨_, _, _, otherOpen, rfl⟩,
    { joined with path := rfl }⟩

/-- A declaration that is made when the second program is read alone is made in
the joined source as well. -/
theorem declare? (joined : Joined first around scopes other) {name : String}
    {type : DataType} (stands : scopes.Stands id scope)
    (free : id = 0 → name ∉ around.declared)
    (declares : scopes.declare? name type = .ok (some later)) :
    ∃ otherLater, other.declare? name type = .ok (some otherLater) ∧
      Joined first around later otherLater := by
  obtain ⟨_, _, last, current, declaring, same⟩ := Scopes.declare?_ok.1 declares
  obtain ⟨sameId, sameScope⟩ := stands.unique current
  subst sameId sameScope same
  obtain ⟨otherScope, otherStands, atop⟩ := joined.stands stands
  obtain ⟨otherLast, otherDeclaring, atop⟩ := atop.declare? declaring free
  exact ⟨_, Scopes.declare?_ok.2 ⟨_, _, _, otherStands, otherDeclaring, rfl⟩,
    joined.set stands otherStands atop⟩

/-- A name gets a signature when it has just been declared. -/
theorem declare?_bind (joined : Joined first around scopes other)
    {name : String} {type : DataType} {signature : Signature}
    {declared : Scopes} (stands : scopes.Stands id scope)
    (free : id = 0 → name ∉ around.declared)
    (declares : scopes.declare? name type = .ok (some declared))
    (binds : declared.bind name signature = .ok later) :
    ∃ otherDeclared otherLater,
      other.declare? name type = .ok (some otherDeclared) ∧
      otherDeclared.bind name signature = .ok otherLater ∧
      Joined first around later otherLater := by
  obtain ⟨otherDeclared, otherDeclares, joined⟩ :=
    joined.declare? stands free declares
  obtain ⟨_, _, middle, current, declaring, same⟩ :=
    Scopes.declare?_ok.1 declares
  obtain ⟨sameId, sameScope⟩ := stands.unique current
  subst sameId sameScope same
  have between := stands.becomes (stands.becomes_set middle)
  obtain ⟨_, _, current, same⟩ := Scopes.bind_ok.1 binds
  obtain ⟨sameId, sameScope⟩ := between.unique current
  subst sameId sameScope same
  obtain ⟨otherMiddle, otherBetween, atop⟩ := joined.stands between
  exact ⟨otherDeclared, _, otherDeclares, Scopes.bind_ok.2 ⟨_, _, otherBetween,
    rfl⟩, joined.set between otherBetween (atop.bind (Scope.isSome_of_declare?
    declaring) signature)⟩

end Joined

end Minilang
