import Minilang.Proofs.Discipline.Entry
import Minilang.Proofs.Likeness.Statement

/-!
# Readings that never come to a fault

A state is sound if its cursor stands in the source and the scopes that are open
exist. From a sound state every step of the grammar ends, with success or with a
diagnostic, in a sound state: `Entry.never_faults` and `Entry.isSound`.
-/

namespace Minilang

namespace Likeness

/-- Every source is like itself. -/
def identical : Likeness where
  place := id
  horizon := 0
  Like := Eq
  position := congrArg Cursor.position
  head := congrArg fun cursor : Cursor => cursor.rest.head?
  word := congrArg Cursor.word?
  symbol := by
    intro cursor other text cursors _
    rw [cursors]
  numeral := congrArg fun cursor : Cursor => Lexeme.numeral? cursor.rest
  string := by
    intro cursor other body otherBody cursors ahead otherAhead _
    rw [cursors, otherAhead] at ahead
    cases ahead
    rfl
  behind := by
    intro cursor other count cursors _ _
    rw [cursors]

end Likeness

namespace Parse

/-- Where a scope is open, the step does not come to a fault. -/
def NeverFaults {α : Type} (step : Parse α) : Prop :=
  ∀ (start : Parser) (id : ScopeId) (scope : Scope),
    start.scopes.Stands id scope →
    ∀ fault stop, step.run start ≠ .error (.fault fault) stop

/-- Steps that agree are not rejected but with a diagnostic, and each step
agrees with itself. -/
theorem neverFaults_of_agrees {α β : Type} {view : α → β} {used : β → Nat}
    {step : Parse α}
    (agrees : ∀ bound,
      Likeness.identical.Agrees (bound + 1) (bound + 1) view used step step) :
    NeverFaults step := by
  intro start id scope stands fault stop faults
  have alike : Likeness.identical.Alike (start.left + 1)
      (start.left + 1) start start :=
    ⟨Nat.lt_succ_self _, fun _ =>
      ⟨rfl, Nat.lt_succ_self _, rfl, id, scope, stands⟩⟩
  have matched := (agrees start.left start start alike).2 (Nat.zero_le _)
  rw [faults] at matched
  cases matched

end Parse

namespace Parser

/-- The cursor stands in the source, and the scopes that are open exist. -/
structure IsSound (origin : Cursor) (parser : Parser) : Prop where
  reaches : origin.Reaches parser.cursor
  isOpen : parser.scopes.path ≠ []
  exist : ∀ id ∈ parser.scopes.path, id < parser.scopes.all.size

variable {origin : Cursor} {start stop : Parser}

theorem IsSound.stands (sound : start.IsSound origin) :
    ∃ id scope, start.scopes.Stands id scope := by
  cases path : start.scopes.path with
  | nil => exact absurd path sound.isOpen
  | cons id outer =>
      have lt := sound.exist id (by rw [path]; exact List.mem_cons_self)
      exact ⟨id, _, ⟨by rw [path]; rfl, Array.getElem?_eq_getElem lt⟩⟩

theorem Remains.isSound (remains : start.Remains stop)
    (sound : start.IsSound origin) :
    stop.IsSound origin := by
  obtain ⟨id, scope, stands⟩ := sound.stands
  obtain ⟨later, becomes⟩ := remains.becomes id scope stands
  refine ⟨sound.reaches.trans remains.reaches, ?_, ?_⟩
  · rw [becomes.path]
    exact sound.isOpen
  · rw [becomes.path]
    intro other member
    exact Nat.lt_of_lt_of_le (sound.exist other member) becomes.size

end Parser

namespace Grammar.Entry

open Parse Steps Likeness Minilang.Parser

variable {α : Type} {origin : Cursor} {start : Parser}

theorem neverFaults (entry : Entry α) : NeverFaults entry.step := by
  cases entry with
  | statement =>
      exact neverFaults_of_agrees fun _ =>
        agrees_statementOf listsAlike_statementList
  | statementList =>
      exact neverFaults_of_agrees fun _ => listsAlike_statementList
  | block =>
      exact neverFaults_of_agrees fun _ =>
        listsAlike_blockOf listsAlike_statementList
  | form kind place =>
      exact neverFaults_of_agrees fun _ =>
        listsAlike_formOf listsAlike_statementList kind rfl
  | declaration type place =>
      exact neverFaults_of_agrees fun _ =>
        listsAlike_declarationOf listsAlike_statementList rfl
  | expression => exact neverFaults_of_agrees fun _ => readsAlike_expression
  | level tightness =>
      exact neverFaults_of_agrees fun _ =>
        readsAlike_levelOf readsAlike_expression tightness
  | component =>
      exact neverFaults_of_agrees fun _ =>
        readsAlike_componentOf readsAlike_expression
  | primary =>
      exact neverFaults_of_agrees fun _ =>
        readsAlike_primaryOf readsAlike_expression
  | type => exact neverFaults_of_agrees fun _ => agrees_type
  | castPrefix => exact neverFaults_of_agrees fun _ => agrees_castPrefix

theorem remains (entry : Entry α) : Leads Remains entry.step := by
  have lists := remains_statementList
  have expressions := advances_expression
  cases entry with
  | statement => exact remains_statementOf lists
  | statementList => exact lists
  | block => exact (returns_blockOf lists).remains
  | form kind place => exact (returns_formOf lists kind place).remains
  | declaration type place => exact remains_declarationOf lists type place
  | expression => exact expressions.returns.remains
  | level tightness =>
      exact (advances_levelOf expressions tightness).returns.remains
  | component => exact (advances_componentOf expressions).returns.remains
  | primary => exact (advances_primaryOf expressions).returns.remains
  | type => exact advances_type.returns.remains
  | castPrefix => exact advances_castPrefix.returns.remains

/-- From a sound state each step ends in a sound state, with success or with a
diagnostic. -/
theorem isSound (entry : Entry α) (sound : start.IsSound origin) :
    (last (entry.step.run start)).IsSound origin ∧
      ∀ fault stop, entry.step.run start ≠ .error (.fault fault) stop := by
  obtain ⟨id, scope, stands⟩ := sound.stands
  exact ⟨(entry.remains start).isSound sound,
    entry.neverFaults start id scope stands⟩

end Grammar.Entry

end Minilang
