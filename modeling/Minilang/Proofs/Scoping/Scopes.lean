import Minilang.Scope.Basic

namespace Minilang.Scopes

variable {scopes before after : Scopes} {id : ScopeId}

/-- The scope of the number is the current one. -/
structure Stands (scopes : Scopes) (id : ScopeId) (scope : Scope) : Prop where
  head? : scopes.path.head? = some id
  found : scopes.all[id]? = some scope

theorem Stands.lt {scope : Scope} (stands : scopes.Stands id scope) :
    id < scopes.all.size :=
  (Array.getElem?_eq_some_iff.1 stands.found).1

/-- There is one current scope. -/
theorem Stands.unique {scope otherScope : Scope} {other : ScopeId}
    (stands : scopes.Stands id scope)
    (others : scopes.Stands other otherScope) :
    id = other ∧ scope = otherScope := by
  obtain rfl := Option.some.inj (stands.head?.symm.trans others.head?)
  exact ⟨rfl, Option.some.inj (stands.found.symm.trans others.found)⟩

theorem current_ok : scopes.current = .ok id ↔ scopes.path.head? = some id := by
  rw [current]
  cases scopes.path with
  | nil => simp
  | cons first rest => simp

theorem get_ok {scope : Scope} :
    scopes.get id = .ok scope ↔ scopes.all[id]? = some scope := by
  rw [get]
  cases scopes.all[id]? with
  | none => simp
  | some found => simp

/-- A question about the current scope is answered when there is one. -/
theorem current_get_ok {α : Type} {answer : ScopeId → Scope → Except Fault α}
    {value : α} :
    (do
      let id ← scopes.current
      let scope ← scopes.get id
      answer id scope) = .ok value ↔
      ∃ id scope, scopes.Stands id scope ∧ answer id scope = .ok value := by
  constructor
  · intro success
    cases current : scopes.current with
    | error fault =>
        rw [current] at success
        cases success
    | ok id =>
        cases found : scopes.get id with
        | error fault =>
            rw [current] at success
            change (scopes.get id).bind _ = _ at success
            rw [found] at success
            cases success
        | ok scope =>
            rw [current] at success
            change (scopes.get id).bind _ = _ at success
            rw [found] at success
            exact ⟨id, scope, ⟨current_ok.1 current, get_ok.1 found⟩, success⟩
  · intro success
    obtain ⟨id, scope, stands, success⟩ := success
    rw [current_ok.2 stands.head?]
    change (scopes.get id).bind _ = _
    rw [get_ok.2 stands.found]
    exact success

theorem enter_ok :
    before.enter = .ok after ↔
      ∃ id scope, before.Stands id scope ∧
        after = ⟨before.all.push scope.child,
          before.all.size :: before.path⟩ := by
  rw [enter, current_get_ok]
  simp [Except.ok.injEq, pure, Except.pure, eq_comm]

/-- A scope that is opened is the first that there was not before. -/
theorem stands_of_enter {scope : Scope} (stands : before.Stands id scope)
    (enters : before.enter = .ok after) :
    after = ⟨before.all.push scope.child, before.all.size :: before.path⟩ ∧
      after.Stands before.all.size scope.child := by
  obtain ⟨other, parent, others, rfl⟩ := enter_ok.1 enters
  obtain ⟨rfl, rfl⟩ := stands.unique others
  exact ⟨rfl, rfl, Array.getElem?_push_size⟩

theorem exit_ok :
    before.exit = .ok after ↔
      ∃ inner outer path, before.path = inner :: outer :: path ∧
        after = { before with path := outer :: path } := by
  rw [exit]
  constructor
  · intro success
    split at success
    · rename_i inner outer path same
      cases success
      exact ⟨inner, outer, path, same, rfl⟩
    · cases success
  · intro success
    obtain ⟨inner, outer, path, same, rfl⟩ := success
    rw [same]

/-- A declaration reaches the current scope only. -/
theorem declare?_of_stands {scope : Scope} (stands : scopes.Stands id scope)
    (name : String)
    (type : DataType) :
    scopes.declare? name type =
      .ok ((scope.declare? name type).map (scopes.set id)) := by
  rw [declare?, current_ok.2 stands.head?]
  change (scopes.get id).bind _ = _
  rw [get_ok.2 stands.found]
  rfl

theorem declare?_ok {name : String} {type : DataType} :
    before.declare? name type = .ok (some after) ↔
      ∃ id scope later, before.Stands id scope ∧
        scope.declare? name type = some later ∧
        after = before.set id later := by
  rw [declare?, current_get_ok]
  simp only [pure, Except.pure, Except.ok.injEq, Option.map_eq_some_iff]
  constructor
  · intro success
    obtain ⟨id, scope, stands, later, declares, same⟩ := success
    exact ⟨id, scope, later, stands, declares, same.symm⟩
  · intro success
    obtain ⟨id, scope, later, stands, declares, same⟩ := success
    exact ⟨id, scope, stands, later, declares, same.symm⟩

theorem bind_ok {name : String} {signature : Signature} :
    before.bind name signature = .ok after ↔
      ∃ id scope, before.Stands id scope ∧
        after = before.set id (scope.bind name signature) := by
  rw [bind, current_get_ok]
  simp [pure, Except.pure, eq_comm]

/-- Of the scopes that there were only the one of the number may be another, and
it is the given one. The same are open as before. -/
structure Becomes (before after : Scopes) (id : ScopeId)
    (scope : Scope) : Prop where
  path : after.path = before.path
  found : after.all[id]? = some scope
  size : before.all.size ≤ after.all.size
  others : ∀ other, other < before.all.size → other ≠ id →
    after.all[other]? = before.all[other]?

@[simp]
theorem path_set {scope : Scope} : (scopes.set id scope).path = scopes.path :=
  rfl

@[simp]
theorem size_set {scope : Scope} :
    (scopes.set id scope).all.size = scopes.all.size :=
  Array.size_setIfInBounds

theorem getElem?_set_of_ne {scope : Scope} {other : ScopeId}
    (different : other ≠ id) :
    (scopes.set id scope).all[other]? = scopes.all[other]? :=
  Array.getElem?_setIfInBounds_ne different.symm

theorem Stands.becomes {scope later : Scope} (stands : before.Stands id scope)
    (becomes : before.Becomes after id later) : after.Stands id later :=
  ⟨by rw [becomes.path, stands.head?], becomes.found⟩

theorem Stands.becomes_self {scope : Scope} (stands : scopes.Stands id scope) :
    scopes.Becomes scopes id scope :=
  ⟨rfl, stands.found, Nat.le_refl _, fun _ _ _ => rfl⟩

theorem Stands.becomes_set {scope : Scope} (stands : scopes.Stands id scope)
    (later : Scope) :
    scopes.Becomes (scopes.set id later) id later where
  path := path_set
  found := Array.getElem?_setIfInBounds_self_of_lt stands.lt
  size := Nat.le_of_eq size_set.symm
  others := fun _ _ different => getElem?_set_of_ne different

theorem Becomes.trans {middle : Scopes} {scope later : Scope}
    (first : before.Becomes middle id scope)
    (second : middle.Becomes after id later) :
    before.Becomes after id later where
  path := second.path.trans first.path
  found := second.found
  size := Nat.le_trans first.size second.size
  others := by
    intro other old different
    rw [second.others other (Nat.lt_of_lt_of_le old first.size) different]
    exact first.others other old different

/-- A name is declared and gets a signature where it has not been declared. -/
theorem declare?_bind_of_stands {scope declared : Scope} {name : String}
    {type : DataType} (stands : before.Stands id scope)
    (declares : scope.declare? name type = some declared)
    (signature : Signature) :
    ∃ middle after, before.declare? name type = .ok (some middle) ∧
      middle.bind name signature = .ok after ∧
      before.Becomes after id (declared.bind name signature) := by
  have becomesMiddle := stands.becomes_set declared
  have standsMiddle := stands.becomes becomesMiddle
  exact ⟨_, _, declare?_ok.2 ⟨id, scope, declared, stands, declares, rfl⟩,
    bind_ok.2 ⟨id, declared, standsMiddle, rfl⟩,
    becomesMiddle.trans (standsMiddle.becomes_set _)⟩

theorem enter_of_stands {scope : Scope} (stands : before.Stands id scope) :
    ∃ inner, before.enter = .ok inner ∧
      inner.Stands before.all.size scope.child := by
  have enters := enter_ok.2 ⟨id, scope, stands, rfl⟩
  exact ⟨_, enters, (stands_of_enter stands enters).2⟩

/-- Whatever becomes of a scope inside the current one, it can be left, and the
current one is then as it was. -/
theorem exit_of_becomes {inner middle : Scopes} {scope last : Scope}
    (stands : before.Stands id scope) (enters : before.enter = .ok inner)
    (becomes : inner.Becomes middle before.all.size last) :
    ∃ outer, middle.exit = .ok outer ∧ before.Becomes outer id scope := by
  obtain ⟨rfl, _⟩ := stands_of_enter stands enters
  obtain ⟨path, same⟩ : ∃ path, before.path = id :: path := by
    have current := stands.head?
    cases open_ : before.path with
    | nil =>
        rw [open_] at current
        cases current
    | cons first path =>
        rw [open_] at current
        cases current
        exact ⟨path, rfl⟩
  have unchanged {old : ScopeId} (isOld : old < before.all.size) :
      middle.all[old]? = before.all[old]? := by
    rw [becomes.others old (by simpa using Nat.lt_succ_of_lt isOld)
      (Nat.ne_of_lt isOld)]
    exact Array.getElem?_push_lt isOld ▸ (Array.getElem?_eq_getElem isOld).symm
  have inside : middle.path = before.all.size :: id :: path := by
    rw [becomes.path, same]
  refine ⟨_, exit_ok.2 ⟨_, _, _, inside, rfl⟩, ?_⟩
  exact {
    path := same.symm
    found := (unchanged stands.lt).trans stands.found
    size := Nat.le_trans (by simp) becomes.size
    others := fun old isOld _ => unchanged isOld }

/-- When a scope is left, the one around it is as it was on entry. -/
theorem becomes_of_exit {inner middle outer : Scopes} {scope last : Scope}
    (stands : before.Stands id scope) (enters : before.enter = .ok inner)
    (becomes : inner.Becomes middle before.all.size last)
    (exits : middle.exit = .ok outer) :
    before.Becomes outer id scope := by
  obtain ⟨left, leaves, same⟩ := exit_of_becomes stands enters becomes
  cases leaves.symm.trans exits
  exact same

end Minilang.Scopes
