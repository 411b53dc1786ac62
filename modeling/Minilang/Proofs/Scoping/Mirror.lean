import Minilang.Proofs.Scoping.Declarations
import Minilang.Proofs.Scoping.Journal
import Minilang.Proofs.Scoping.Scopes

/-!
# Scopes and their journal

Scopes that are copied on entry answer as a journal that keeps no copies:
`Scopes.after_answers_as_journal`. The statement is carried by an invariant,
`Scopes.Mirrors`, which each change preserves.
-/

namespace Minilang

namespace Scopes

def change (scopes : Scopes) : Change → Except Fault Scopes
  | .enter => scopes.enter
  | .exit => scopes.exit
  | .declare name type => return (← scopes.declare? name type).getD scopes
  | .bind name signature => scopes.bind name signature

/-- The scopes after one change, which is left out if it is not allowed. -/
def perform (scopes : Scopes) (change : Change) : Scopes :=
  match scopes.change change with
  | .ok later => later
  | .error _ => scopes

/-- The scopes after the outermost one has been created and then the changes
have been made, those that are not allowed where they would come being left
out. -/
def after (changes : List Change) : Except Fault Scopes :=
  return changes.foldl perform (← empty.createGlobal)

/-! ## The invariant -/

variable {scopes : Scopes} {journal : Journal} {id other : ScopeId}
  {scope : Scope}

/-- The scope answers as the journal does about the scope with the given
number. -/
structure Shows (scope : Scope) (journal : Journal) (id : ScopeId) : Prop where
  symbol : ∀ name, scope.symbols.get? name = journal.symbol? id name
  signature : ∀ name, scope.signatures.get? name = journal.signature? id name
  declared : ∀ name, name ∈ scope.declared ↔
    journal.records[id]?.any (·.declares name) = true

/-- The scopes and the journal have come about by the same changes. -/
structure Mirrors (scopes : Scopes) (journal : Journal) : Prop where
  path : scopes.path = journal.path
  isOpen : journal.path ≠ []
  size : scopes.all.size = journal.records.size
  openLt : ∀ id ∈ journal.path, id < journal.records.size
  areBefore : ∀ record ∈ journal.records, record.IsBefore journal.now
  shows : ∀ id scope, scopes.all[id]? = some scope → Shows scope journal id

theorem Mirrors.stands (mirrors : scopes.Mirrors journal) :
    ∃ id scope, scopes.Stands id scope ∧ journal.path.head? = some id := by
  cases same : journal.path with
  | nil => exact absurd same mirrors.isOpen
  | cons id path =>
      have lt : id < scopes.all.size := by
        rw [mirrors.size]
        apply mirrors.openLt id
        rw [same]
        exact List.mem_cons_self
      refine ⟨id, scopes.all[id], ⟨?_, Array.getElem?_eq_getElem lt⟩, rfl⟩
      rw [mirrors.path, same]
      rfl

theorem Mirrors.found (mirrors : scopes.Mirrors journal)
    (lt : id < scopes.all.size) :
    ∃ record, journal.records[id]? = some record :=
  ⟨_, Array.getElem?_eq_getElem (mirrors.size ▸ lt)⟩

theorem initial_mirrors : initial.Mirrors .initial where
  path := rfl
  isOpen := by simp [Journal.initial]
  size := rfl
  openLt := by simp [Journal.initial]
  areBefore := by simp [Journal.initial, Record.IsBefore]
  shows := by
    intro id scope found
    cases id with
    | succ id => simp [initial] at found
    | zero =>
        cases found
        constructor
        · intro name
          rw [Journal.symbol?, Record.resolve?_of_found rfl]
          rfl
        · intro name
          rw [Journal.signature?, Record.resolve?_of_found rfl]
          rfl
        · intro name
          simp [initial, Scope.empty, Journal.initial, Record.declares]

/-- What a scope shows after something was noted in the journal. -/
theorem Mirrors.shows_note (mirrors : scopes.Mirrors journal)
    (current : journal.path.head? = some id) (shows : Shows scope journal other)
    (lt : other < scopes.all.size) {name : String} {meaning : Meaning}
    {later : Scope}
    (symbol : ∀ asked,
      later.symbols.get? asked =
        (if id = other ∧ name = asked then meaning.ofType else none).getD
          (scope.symbols.get? asked))
    (signature : ∀ asked,
      later.signatures.get? asked =
        (if id = other ∧ name = asked then meaning.ofSignature else none).getD
          (scope.signatures.get? asked))
    (declared : ∀ asked, asked ∈ later.declared ↔ id = other ∧ name = asked ∧
      meaning.ofType.isSome = true ∨ asked ∈ scope.declared) :
    Shows later (journal.note name meaning) other := by
  obtain ⟨record, found⟩ := mirrors.found lt
  have noted := Journal.note_of_current current name meaning
  have outcome {α : Type} (tells : Meaning → Option (Option α))
      (asked : String) :
      Record.resolve? tells asked (journal.note name meaning).records other
          (journal.note name meaning).now =
        (if id = other ∧ name = asked then tells meaning else none).getD
          (Record.resolve? tells asked journal.records other journal.now) := by
    rw [noted, Record.resolve?_note mirrors.areBefore (Nat.lt_succ_self _)
      found, Record.resolve?_of_isBefore mirrors.areBefore (Nat.le_succ _)]
  constructor
  · intro asked
    rw [symbol, Journal.symbol?, outcome, shows.symbol, Journal.symbol?]
  · intro asked
    rw [signature, Journal.signature?, outcome, shows.signature,
      Journal.signature?]
  · intro asked
    obtain ⟨after, foundAfter, _, _, change⟩ :=
      Record.found_of_modify_note id ⟨journal.now, name, meaning⟩ found
    rw [declared, shows.declared, noted, foundAfter, found]
    rcases change with ⟨same, rfl⟩ | ⟨different, rfl⟩
    · simp [same]
    · simp [different]

/-- A change of the current scope is mirrored by what is noted in the
journal. -/
theorem Mirrors.note (mirrors : scopes.Mirrors journal)
    (stands : scopes.Stands id scope) {name : String} {meaning : Meaning}
    {later : Scope}
    (symbol : ∀ asked,
      later.symbols.get? asked =
        (if name = asked then meaning.ofType else none).getD
          (scope.symbols.get? asked))
    (signature : ∀ asked,
      later.signatures.get? asked =
        (if name = asked then meaning.ofSignature else none).getD
          (scope.signatures.get? asked))
    (declared : ∀ asked, asked ∈ later.declared ↔ name = asked ∧
      meaning.ofType.isSome = true ∨ asked ∈ scope.declared) :
    (scopes.set id later).Mirrors (journal.note name meaning) := by
  have current : journal.path.head? = some id := mirrors.path ▸ stands.head?
  have noted := Journal.note_of_current current name meaning
  constructor
  case path => rw [noted, path_set, mirrors.path]
  case isOpen =>
    rw [noted]
    exact mirrors.isOpen
  case size => rw [noted, size_set, mirrors.size, Array.size_modify]
  case openLt =>
    rw [noted, Array.size_modify]
    exact mirrors.openLt
  case areBefore =>
    rw [noted]
    intro after member
    obtain ⟨other, lt, rfl⟩ := Array.getElem_of_mem member
    rw [Array.size_modify] at lt
    have isBefore := mirrors.areBefore _ (Array.getElem_mem lt)
    obtain ⟨_, foundAfter, _, entered, change⟩ := Record.found_of_modify_note id
      ⟨journal.now, name, meaning⟩ (Array.getElem?_eq_getElem lt)
    obtain ⟨_, same⟩ := Array.getElem?_eq_some_iff.1 foundAfter
    rw [same]
    rcases change with ⟨_, rfl⟩ | ⟨_, rfl⟩
    · exact isBefore.note
    · exact isBefore.mono (Nat.le_succ _)
  case shows =>
    intro other standing found
    by_cases same : other = id
    · subst same
      rw [(stands.becomes_set later).found] at found
      cases found
      apply mirrors.shows_note current
        (mirrors.shows _ _ stands.found) stands.lt
      · simpa using symbol
      · simpa using signature
      · simpa using declared
    · rw [getElem?_set_of_ne same] at found
      have lt := (Array.getElem?_eq_some_iff.1 found).1
      apply mirrors.shows_note current (mirrors.shows _ _ found) lt
      · simp [Ne.symm same]
      · simp [Ne.symm same]
      · simp [Ne.symm same]

/-- A scope that is entered shows what the scope around it shows at that
moment. -/
theorem Mirrors.enter (mirrors : scopes.Mirrors journal)
    (stands : scopes.Stands id scope) :
    Mirrors ⟨scopes.all.push scope.child, scopes.all.size :: scopes.path⟩
      (journal.perform .enter) := by
  have current : journal.path.head? = some id := mirrors.path ▸ stands.head?
  have shows := mirrors.shows id scope stands.found
  have lt : id < journal.records.size := mirrors.size ▸ stands.lt
  -- The new record has no events, and what came before it was entered is all
  -- that has happened.
  have inherited {α : Type} (tells : Meaning → Option (Option α))
      (name : String) :
      Record.resolve? tells name
          (journal.records.push ⟨some id, journal.now, []⟩)
          journal.records.size (journal.now + 1) =
        Record.resolve? tells name journal.records id journal.now := by
    rw [Record.resolve?_of_found Array.getElem?_push_size]
    simp only [Record.answer?, List.filter_nil, List.findSome?_nil,
      Option.getD_none, Option.bind_some, if_pos lt]
    rw [Nat.min_eq_right (Nat.le_succ _), Record.resolve?_push lt]
  have earlier {α : Type} (tells : Meaning → Option (Option α)) (name : String)
      {other : ScopeId}
      (lt : other < journal.records.size) :
      Record.resolve? tells name
          (journal.records.push ⟨some id, journal.now, []⟩) other
          (journal.now + 1) =
        Record.resolve? tells name journal.records other journal.now := by
    rw [Record.resolve?_push lt,
      Record.resolve?_of_isBefore mirrors.areBefore (Nat.le_succ _)]
  rw [Journal.perform, current]
  constructor
  case path => rw [mirrors.size, mirrors.path]
  case isOpen => simp
  case size => rw [Array.size_push, Array.size_push, mirrors.size]
  case openLt =>
    intro other member
    rw [Array.size_push]
    rcases List.mem_cons.1 member with rfl | member
    · exact Nat.lt_succ_self _
    · exact Nat.lt_succ_of_lt (mirrors.openLt other member)
  case areBefore =>
    intro record member
    rcases Array.mem_push.1 member with member | rfl
    · exact (mirrors.areBefore record member).mono (Nat.le_succ _)
    · exact ⟨Nat.lt_succ_self _, by simp⟩
  case shows =>
    intro other inner found
    by_cases new : other = scopes.all.size
    · subst new
      rw [Array.getElem?_push_size] at found
      cases found
      rw [mirrors.size]
      constructor
      · intro name
        rw [Journal.symbol?, inherited]
        exact shows.symbol name
      · intro name
        rw [Journal.signature?, inherited]
        exact shows.signature name
      · intro name
        simp [Scope.child, Record.declares]
    · have old : other < scopes.all.size := by
        have lt := (Array.getElem?_eq_some_iff.1 found).1
        rw [Array.size_push] at lt
        exact Nat.lt_of_le_of_ne (Nat.le_of_lt_succ lt) new
      rw [Array.getElem?_push_lt old, ← Array.getElem?_eq_getElem old] at found
      have shows := mirrors.shows other inner found
      rw [mirrors.size] at old
      constructor
      · intro name
        rw [Journal.symbol?, earlier _ _ old]
        exact shows.symbol name
      · intro name
        rw [Journal.signature?, earlier _ _ old]
        exact shows.signature name
      · intro name
        rw [shows.declared, Array.getElem?_push_lt old,
          Array.getElem?_eq_getElem old]

/-- Scopes that are left stay as they are. -/
theorem Mirrors.exit (mirrors : scopes.Mirrors journal) :
    (scopes.perform .exit).Mirrors (journal.perform .exit) := by
  rw [perform, change, Scopes.exit, Journal.perform, ← mirrors.path]
  cases path : scopes.path with
  | nil => exact mirrors
  | cons inner outside =>
      cases outside with
      | nil => exact mirrors
      | cons outer path =>
          rw [if_pos (by simp)]
          have openLt := mirrors.openLt
          rw [← mirrors.path, path] at openLt
          exact {
            path := rfl
            isOpen := by simp
            size := mirrors.size
            openLt :=
              fun other member => openLt other (List.mem_cons_of_mem _ member)
            areBefore := mirrors.areBefore
            shows := fun other scope found =>
              ⟨(mirrors.shows other scope found).symbol,
                (mirrors.shows other scope found).signature,
                (mirrors.shows other scope found).declared⟩ }

/-- A name is refused where the current scope itself has declared it. -/
theorem Mirrors.mem_declared_iff (mirrors : scopes.Mirrors journal)
    (stands : scopes.Stands id scope) (name : String) :
    name ∈ scope.declared ↔ journal.declares name = true := by
  have current : journal.path.head? = some id := mirrors.path ▸ stands.head?
  rw [(mirrors.shows id scope stands.found).declared, Journal.declares, current]
  rfl

/-- What becomes of the scopes when a name is declared. -/
theorem change_declare (stands : scopes.Stands id scope) (name : String)
    (type : DataType) :
    scopes.change (.declare name type) =
      .ok (((scope.declare? name type).map (scopes.set id)).getD scopes) := by
  rw [change, declare?_of_stands stands]
  rfl

/-- A declaration that is refused is refused by both, and then neither
changes. -/
theorem Mirrors.declare (mirrors : scopes.Mirrors journal) (name : String)
    (type : DataType) :
    (scopes.perform (.declare name type)).Mirrors
      (journal.perform (.declare name type)) := by
  obtain ⟨id, scope, stands, current⟩ := mirrors.stands
  rw [perform, change_declare stands, Journal.perform]
  by_cases declared : name ∈ scope.declared
  · rw [if_pos ((mirrors.mem_declared_iff stands name).1 declared),
      Scope.declare?, if_pos declared]
    exact mirrors
  · have declares : scope.declare? name type = some _ :=
      Scope.declare?_eq_some.2 ⟨declared, rfl⟩
    rw [if_neg fun again =>
      declared ((mirrors.mem_declared_iff stands name).2 again), declares]
    apply mirrors.note stands
    · intro asked
      by_cases same : name = asked
      · simp [same, Meaning.ofType]
      · simp [same, Ne.symm same]
    · intro asked
      by_cases same : name = asked
      · simp [same, Meaning.ofSignature]
      · simp [same, Ne.symm same]
    · intro asked
      simp [Meaning.ofType, eq_comm]

/-- A signature is noted in the current scope only, whether or not the name was
declared. -/
theorem Mirrors.bind (mirrors : scopes.Mirrors journal) (name : String)
    (signature : Signature) :
    (scopes.perform (.bind name signature)).Mirrors
      (journal.perform (.bind name signature)) := by
  obtain ⟨id, scope, stands, current⟩ := mirrors.stands
  rw [perform, change, bind_ok.2 ⟨id, scope, stands, rfl⟩, Journal.perform]
  apply mirrors.note stands
  · intro asked
    simp [Scope.bind, Meaning.ofType]
  · intro asked
    by_cases same : name = asked
    · simp [Scope.bind, same, Meaning.ofSignature]
    · simp [Scope.bind, same, Ne.symm same]
  · intro asked
    simp [Scope.bind, Meaning.ofType]

/-- Every change preserves the invariant. -/
theorem Mirrors.perform (mirrors : scopes.Mirrors journal) (change : Change) :
    (scopes.perform change).Mirrors (journal.perform change) := by
  cases change with
  | enter =>
      obtain ⟨id, scope, stands, _⟩ := mirrors.stands
      have enters := mirrors.enter stands
      rw [Scopes.perform, Scopes.change, enter_ok.2 ⟨id, scope, stands, rfl⟩]
      exact enters
  | exit => exact mirrors.exit
  | declare name type => exact mirrors.declare name type
  | bind name signature => exact mirrors.bind name signature

theorem Mirrors.foldl (mirrors : scopes.Mirrors journal)
    (changes : List Change) :
    (changes.foldl Scopes.perform scopes).Mirrors
      (changes.foldl Journal.perform journal) := by
  induction changes generalizing scopes journal with
  | nil => exact mirrors
  | cons change changes inductionHypothesis =>
      exact inductionHypothesis (mirrors.perform change)

theorem after_eq (changes : List Change) :
    Scopes.after changes = .ok (changes.foldl Scopes.perform initial) := by
  rw [Scopes.after, createGlobal_empty]
  rfl

/-- After any changes the scopes answer as the journal does: about every scope
that has been entered, open or not, and about what the current scope refuses to
declare. -/
theorem after_answers_as_journal (changes : List Change) :
    ∃ scopes, Scopes.after changes = .ok scopes ∧
      scopes.path = (Journal.after changes).path ∧
      scopes.all.size = (Journal.after changes).records.size ∧
      (∀ id < scopes.all.size, ∀ name,
        scopes.symbol? id name = .ok ((Journal.after changes).symbol? id name) ∧
        scopes.signature? id name =
          .ok ((Journal.after changes).signature? id name)) ∧
      ∀ name type, ∃ outcome, scopes.declare? name type = .ok outcome ∧
        (outcome = none ↔ (Journal.after changes).declares name = true) ∧
        (outcome = none → scopes.change (.declare name type) = .ok scopes) := by
  have mirrors :
      (changes.foldl Scopes.perform initial).Mirrors (Journal.after changes) :=
    initial_mirrors.foldl changes
  refine ⟨_, after_eq changes, mirrors.path, mirrors.size, ?_, ?_⟩
  · intro id lt name
    have shows := mirrors.shows id _ (Array.getElem?_eq_getElem lt)
    rw [symbol?, signature?, get_ok.2 (Array.getElem?_eq_getElem lt),
      ← shows.symbol, ← shows.signature]
    exact ⟨rfl, rfl⟩
  · intro name type
    obtain ⟨id, scope, stands, _⟩ := mirrors.stands
    refine ⟨_, declare?_of_stands stands name type, ?_, ?_⟩
    · rw [← mirrors.mem_declared_iff stands name, Scope.declare?]
      by_cases declared : name ∈ scope.declared
      · simp [declared]
      · simp [declared]
    · intro refused
      rw [change_declare stands, refused]
      rfl

/-- A function is declared anew as a variable in a scope of its own, and another
variable is declared around it when that scope has been left. The outermost
scope is not left. -/
def shadowing : List Change :=
  [.declare "f" .callable, .bind "f" ⟨.void, []⟩, .enter,
    .declare "f" .integer, .exit, .declare "late" .float, .exit]

theorem shadowing_answers_as_journal :
    1 < (shadowing.foldl Scopes.perform initial).all.size ∧
      (Journal.after shadowing).path = [0] ∧
      (Journal.after shadowing).symbol? 1 "f" = some .integer ∧
      (Journal.after shadowing).signature? 1 "f" = none ∧
      (Journal.after shadowing).signature? 0 "f" = some ⟨.void, []⟩ ∧
      (Journal.after shadowing).symbol? 1 "late" = none ∧
      (Journal.after shadowing).symbol? 0 "late" = some .float := by
  obtain ⟨scopes, made, path, _, answers, _⟩ :=
    after_answers_as_journal shadowing
  cases (after_eq shadowing).symm.trans made
  have inner : 1 < (shadowing.foldl Scopes.perform initial).all.size := by
    decide
  have outer := Nat.lt_trans Nat.zero_lt_one inner
  refine ⟨inner, path.symm, ?_, ?_, ?_, ?_, ?_⟩
  · exact Except.ok.inj ((answers 1 inner "f").1.symm.trans rfl)
  · exact Except.ok.inj ((answers 1 inner "f").2.symm.trans rfl)
  · exact Except.ok.inj ((answers 0 outer "f").2.symm.trans rfl)
  · exact Except.ok.inj ((answers 1 inner "late").1.symm.trans rfl)
  · exact Except.ok.inj ((answers 0 outer "late").1.symm.trans rfl)

end Scopes

end Minilang
