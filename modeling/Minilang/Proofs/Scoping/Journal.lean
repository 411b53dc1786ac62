import Minilang.Scope.Basic

/-!
# Scopes without copies

A scope is made as a copy of the one around it, and later changes of either do
not reach the other. A journal keeps no copies. It has a record of each scope:
the scope around it, the moment at which it was entered, and what was declared
and bound while it was the current one. What a name means in a scope is found by
asking the record of the scope and then, about the time before the scope was
entered, the record of the scope around it.

What happens later does not change what a name meant before,
`Record.resolve?_note_of_le`, and an event changes what its name means in its
scope and nothing else, `Record.resolve?_note`.
-/

namespace Minilang

inductive Change where
  | enter
  | exit
  | declare (name : String) (type : DataType)
  | bind (name : String) (signature : Signature)
deriving DecidableEq, Repr

inductive Meaning where
  | type (type : DataType)
  | signature (signature : Signature)
deriving DecidableEq, Repr

namespace Meaning

/-- What is said about the type of the name: a type tells which, and a signature
tells nothing. -/
def ofType : Meaning → Option (Option DataType)
  | .type given => some (some given)
  | .signature _ => none

/-- What is said about the signature of the name: a type tells that there is
none, and a signature tells which. -/
def ofSignature : Meaning → Option (Option Signature)
  | .type _ => some none
  | .signature given => some (some given)

end Meaning

structure Event where
  moment : Nat
  name : String
  meaning : Meaning
deriving DecidableEq, Repr

/-- What is kept of a scope: the scope around it, the moment at which it was
entered, and what happened while it was the current one, the latest first. -/
structure Record where
  parent? : Option ScopeId
  entered : Nat
  events : List Event
deriving DecidableEq, Repr

namespace Record

variable {α : Type} (tells : Meaning → Option (Option α)) (name : String)

/-- What the last event of the name that tells something about it tells, of
those before the given moment. -/
def answer? (record : Record) (limit : Nat) : Option (Option α) :=
  (record.events.filter (·.moment < limit)).findSome? fun event =>
    if event.name = name then tells event.meaning else none

/-- Whether the name was declared in the scope itself. -/
def declares (record : Record) : Bool :=
  record.events.any fun event => event.name == name &&
    event.meaning.ofType.isSome

def note (record : Record) (event : Event) : Record :=
  { record with events := event :: record.events }

/-- What a name means in the scope with the given number, by what happened
before the given moment: what the record of the scope tells or, if it tells
nothing, what the name meant in the scope around it when the scope was
entered. -/
def resolve? (records : Array Record) (id : ScopeId) (limit : Nat) : Option α :=
  match records[id]? with
  | none => none
  | some record =>
    match record.answer? tells name limit with
    | some answer => answer
    | none =>
      match record.parent? with
      | none => none
      | some parent =>
        if parent < id then resolve? records parent (min limit record.entered)
        else none
termination_by id

end Record

/-- A record of each scope, the path of those that are open, the innermost
first, and the moment that comes next. -/
structure Journal where
  records : Array Record
  path : List ScopeId
  now : Nat
deriving DecidableEq, Repr

namespace Journal

def initial : Journal :=
  ⟨#[⟨none, 0, []⟩], [0], 1⟩

/-- Whether the current scope itself has declared the name. -/
def declares (journal : Journal) (name : String) : Bool :=
  journal.path.head?.any fun id => journal.records[id]?.any (·.declares name)

def note (journal : Journal) (name : String) (meaning : Meaning) : Journal :=
  match journal.path with
  | [] => journal
  | id :: _ =>
    { journal with
      records := journal.records.modify id (·.note ⟨journal.now, name, meaning⟩)
      now := journal.now + 1 }

theorem note_of_current {journal : Journal} {id : ScopeId}
    (current : journal.path.head? = some id)
    (name : String) (meaning : Meaning) :
    journal.note name meaning =
      ⟨journal.records.modify id (·.note ⟨journal.now, name, meaning⟩),
        journal.path, journal.now + 1⟩ := by
  obtain ⟨path, same⟩ := List.head?_eq_some_iff.1 current
  rw [note, same]

/-- The journal after one change. A name is declared once in a scope, and the
outermost scope is not left. -/
def perform (journal : Journal) : Change → Journal
  | .enter =>
    { records := journal.records.push ⟨journal.path.head?, journal.now, []⟩
      path := journal.records.size :: journal.path
      now := journal.now + 1 }
  | .exit =>
      if 1 < journal.path.length then { journal with path := journal.path.tail }
      else journal
  | .declare name type =>
    if journal.declares name then journal else journal.note name (.type type)
  | .bind name signature => journal.note name (.signature signature)

def after (changes : List Change) : Journal :=
  changes.foldl perform initial

def symbol? (journal : Journal) (id : ScopeId)
    (name : String) : Option DataType :=
  Record.resolve? Meaning.ofType name journal.records id journal.now

def signature? (journal : Journal) (id : ScopeId)
    (name : String) : Option Signature :=
  Record.resolve? Meaning.ofSignature name journal.records id journal.now

end Journal

namespace Record

variable {α : Type} {tells : Meaning → Option (Option α)} {name : String}
variable {record : Record} {records : Array Record} {event : Event}
variable {id other : ScopeId} {limit now : Nat}

/-- All that is known of the scope happened before the given moment. -/
def IsBefore (record : Record) (now : Nat) : Prop :=
  record.entered < now ∧ ∀ event ∈ record.events, event.moment < now

theorem IsBefore.mono {later : Nat} (isBefore : record.IsBefore now)
    (le : now ≤ later) :
    record.IsBefore later := by
  refine ⟨by have := isBefore.1; omega, ?_⟩
  intro event member
  have := isBefore.2 event member
  omega

/-- An event that happens now is a thing of the past afterwards. -/
theorem IsBefore.note (isBefore : record.IsBefore event.moment) :
    (record.note event).IsBefore (event.moment + 1) := by
  have later := isBefore.mono (Nat.le_succ event.moment)
  refine ⟨later.1, ?_⟩
  intro noted member
  rcases List.mem_cons.1 member with rfl | member
  · exact Nat.lt_succ_self _
  · exact later.2 noted member

/-- Of a record no more is seen later than at a moment before which everything
in it happened. -/
theorem answer?_of_isBefore (isBefore : record.IsBefore now)
    (le : now ≤ limit) :
    record.answer? tells name limit = record.answer? tells name now := by
  have all {bound : Nat} (le : now ≤ bound) :
      record.events.filter (·.moment < bound) = record.events := by
    apply List.filter_eq_self.2
    intro event member
    have := isBefore.2 event member
    simp only [decide_eq_true_eq]
    omega
  rw [answer?, answer?, all le, all (Nat.le_refl now)]

/-- What happens later is not seen. -/
theorem answer?_note_of_le (le : limit ≤ event.moment) :
    (record.note event).answer? tells name limit = record.answer?
      tells name limit := by
  rw [answer?, note, List.filter_cons_of_neg (by simpa using le), ← answer?]

/-- An event of the name that tells something hides all before it. -/
theorem answer?_note (lt : event.moment < limit) :
    (record.note event).answer? tells name limit =
      ((if event.name = name then tells event.meaning else none) <|>
        record.answer? tells name limit) := by
  rw [answer?, note, List.filter_cons_of_pos (by simpa using lt),
    List.findSome?_cons, ← answer?]
  cases (if event.name = name then tells event.meaning else none) with
  | none => rfl
  | some answer => rfl

@[simp]
theorem declares_note :
    (record.note event).declares name =
      (event.name == name && event.meaning.ofType.isSome ||
        record.declares name) := by
  simp [declares, note]

/-- What a name means in a scope that is on record. -/
theorem resolve?_of_found (found : records[id]? = some record) :
    resolve? tells name records id limit =
      (record.answer? tells name limit).getD
        (record.parent?.bind fun parent =>
          if parent < id then
            resolve? tells name records parent (min limit record.entered)
          else none) := by
  rw [resolve?]
  simp only [found]
  cases record.answer? tells name limit with
  | some answer => rfl
  | none =>
      cases record.parent? with
      | none => rfl
      | some parent => rfl

theorem resolve?_of_missing (missing : records[id]? = none) :
    resolve? tells name records id limit = none := by
  rw [resolve?]
  simp only [missing]

/-- A name means the same in two scopes of one number if their records say the
same, and it means the same in the scopes around them. -/
theorem resolve?_congr {others : Array Record} {otherRecord : Record}
    {otherLimit : Nat} (found : records[id]? = some record)
    (otherFound : others[id]? = some otherRecord)
    (answer : record.answer? tells name limit = otherRecord.answer? tells
      name otherLimit)
    (parent? : record.parent? = otherRecord.parent?)
    (parent : ∀ parent < id,
      resolve? tells name records parent (min limit record.entered) =
        resolve? tells name others parent
          (min otherLimit otherRecord.entered)) :
    resolve? tells name records id limit = resolve? tells name
      others id otherLimit := by
  rw [resolve?_of_found found, resolve?_of_found otherFound, answer, parent?]
  congr 2
  funext outer
  by_cases earlier : outer < id
  · rw [if_pos earlier, if_pos earlier, parent outer earlier]
  · rw [if_neg earlier, if_neg earlier]

/-- A scope that is entered changes nothing in those that there are. -/
theorem resolve?_push (lt : id < records.size) :
    resolve? tells name (records.push record) id limit = resolve? tells name
      records id limit := by
  induction id using Nat.strongRecOn generalizing limit with
  | ind id inductionHypothesis =>
      have found := Array.getElem?_eq_getElem lt
      have foundAfter : (records.push record)[id]? = some records[id] := by
        rw [Array.getElem?_push_lt lt]
      apply resolve?_congr foundAfter found rfl rfl
      intro parent earlier
      exact inductionHypothesis parent earlier (Nat.lt_trans earlier lt)

/-- An event is noted in one record, and where the scope lies stays the same in
all. -/
theorem found_of_modify_note (other : ScopeId) (event : Event)
    (found : records[id]? = some record) :
    ∃ later, (records.modify other (·.note event))[id]? = some later ∧
      later.parent? = record.parent? ∧ later.entered = record.entered ∧
      (other = id ∧ later = record.note event ∨ other ≠ id ∧
        later = record) := by
  rw [Array.getElem?_modify, found]
  by_cases same : other = id
  · exact ⟨record.note event, by simp [same], rfl, rfl, Or.inl ⟨same, rfl⟩⟩
  · exact ⟨record, by simp [same], rfl, rfl, Or.inr ⟨same, rfl⟩⟩

/-- Nothing that happens later changes what a name meant before. -/
theorem resolve?_note_of_le (le : limit ≤ event.moment) :
    resolve? tells name (records.modify other (·.note event)) id limit =
      resolve? tells name records id limit := by
  induction id using Nat.strongRecOn generalizing limit with
  | ind id inductionHypothesis =>
      cases found : records[id]? with
      | none =>
          have missing : (records.modify other (·.note event))[id]? = none := by
            simpa using found
          rw [resolve?_of_missing found, resolve?_of_missing missing]
      | some record =>
          obtain ⟨later, noted, parent?, entered, change⟩ :=
            found_of_modify_note other event found
          have answer : later.answer? tells name limit = record.answer?
              tells name limit := by
            rcases change with ⟨_, rfl⟩ | ⟨_, rfl⟩
            · exact answer?_note_of_le le
            · rfl
          apply resolve?_congr noted found answer parent?
          intro parent earlier
          rw [entered]
          exact inductionHypothesis parent earlier (by omega)

/-- An event changes what its name means in its scope, and nothing else. -/
theorem resolve?_note
    (areBefore : ∀ record ∈ records, record.IsBefore event.moment)
    (lt : event.moment < limit) (found : records[id]? = some record) :
    resolve? tells name (records.modify other (·.note event)) id limit =
      (if other = id ∧ event.name = name then tells event.meaning
      else none).getD
        (resolve? tells name records id limit) := by
  obtain ⟨later, noted, parent?, entered, change⟩ :=
    found_of_modify_note other event found
  have isBefore := (areBefore record (Array.mem_of_getElem? found)).1
  have parents : ∀ parent < id,
      resolve? tells name (records.modify other (·.note event)) parent
        (min limit later.entered) =
        resolve? tells name records parent (min limit record.entered) := by
    intro parent _
    rw [entered]
    exact resolve?_note_of_le (by omega)
  by_cases answers : other = id ∧ event.name = name
  · obtain ⟨rfl, rfl⟩ := answers
    rw [if_pos ⟨rfl, rfl⟩]
    rcases change with ⟨_, rfl⟩ | ⟨different, _⟩
    · cases said : tells event.meaning with
      | some answer =>
          rw [resolve?_of_found noted, answer?_note lt, if_pos rfl, said]
          rfl
      | none =>
          apply resolve?_congr noted found _ parent? parents
          rw [answer?_note lt, if_pos rfl, said]
          rfl
    · exact absurd rfl different
  · rw [if_neg answers]
    apply resolve?_congr noted found _ parent? parents
    rcases change with ⟨same, rfl⟩ | ⟨_, rfl⟩
    · rw [answer?_note lt, if_neg fun named => answers ⟨same, named⟩]
      rfl
    · rfl

/-- No more is known later than at a moment before which everything happened. -/
theorem resolve?_of_isBefore
    (areBefore : ∀ record ∈ records, record.IsBefore now)
    (le : now ≤ limit) :
    resolve? tells name records id limit = resolve? tells name
      records id now := by
  cases found : records[id]? with
  | none => rw [resolve?_of_missing found, resolve?_of_missing found]
  | some record =>
      have isBefore := areBefore record (Array.mem_of_getElem? found)
      apply resolve?_congr found found (answer?_of_isBefore isBefore le) rfl
      intro parent _
      have entered := isBefore.1
      rw [Nat.min_eq_right (by omega), Nat.min_eq_right (by omega)]

end Record

end Minilang
