import Mathlib.Order.Defs.Unbundled
import Minilang.Proofs.Discipline.Reaching
import Minilang.Proofs.Likeness.Steps

/-!
# What a step leaves behind

A step leaves a state behind whether it succeeds or fails. Three relations say
how much of the state before it may be another then: after a step that
`Advances` only the cursor has moved, after one that `Returns` the current scope
is as it was, and after one that `Remains` no scope but the current one is
another. A step that remains inside a new scope returns from it,
`Leads.inScope`. All other combinators keep each of the relations.
-/

namespace Minilang

namespace Parser

/-- Only the cursor has moved. -/
structure Advances (start stop : Parser) : Prop where
  reaches : start.cursor.Reaches stop.cursor
  scopes : stop.scopes = start.scopes

/-- The same scopes are open, and no scope that there was is another. -/
structure Returns (start stop : Parser) : Prop where
  reaches : start.cursor.Reaches stop.cursor
  becomes : ∀ id scope, start.scopes.Stands id scope →
    start.scopes.Becomes stop.scopes id scope

/-- The same scopes are open, and no scope that there was is another but the
current one. -/
structure Remains (start stop : Parser) : Prop where
  reaches : start.cursor.Reaches stop.cursor
  becomes : ∀ id scope, start.scopes.Stands id scope →
    ∃ later, start.scopes.Becomes stop.scopes id later

instance : IsPreorder Parser Advances where
  refl _ := ⟨.refl _, rfl⟩
  trans _ _ _ first second :=
    ⟨first.reaches.trans second.reaches, second.scopes.trans first.scopes⟩

instance : IsPreorder Parser Returns where
  refl _ := ⟨.refl _, fun _ _ stands => stands.becomes_self⟩
  trans := by
    intro start middle stop first second
    refine ⟨first.reaches.trans second.reaches, ?_⟩
    intro id scope stands
    have becomes := first.becomes id scope stands
    exact becomes.trans (second.becomes id scope (stands.becomes becomes))

instance : IsPreorder Parser Remains where
  refl _ := ⟨.refl _, fun _ scope stands => ⟨scope, stands.becomes_self⟩⟩
  trans := by
    intro start middle stop first second
    refine ⟨first.reaches.trans second.reaches, ?_⟩
    intro id scope stands
    obtain ⟨between, becomes⟩ := first.becomes id scope stands
    obtain ⟨later, further⟩ :=
      second.becomes id between (stands.becomes becomes)
    exact ⟨later, becomes.trans further⟩

variable {start stop : Parser}

theorem Advances.returns (advances : start.Advances stop) :
    start.Returns stop := by
  refine ⟨advances.reaches, ?_⟩
  intro id scope stands
  rw [advances.scopes]
  exact stands.becomes_self

theorem Returns.remains (returns : start.Returns stop) : start.Remains stop :=
  ⟨returns.reaches, fun id scope stands =>
    ⟨scope, returns.becomes id scope stands⟩⟩

end Parser

namespace Parse

open Steps Minilang.Parser

variable {α β : Type} {related other : Parser → Parser → Prop}

/-- The step leads from each state to one that is related to it, whether or not
it succeeds. -/
def Leads (related : Parser → Parser → Prop) (step : Parse α) : Prop :=
  ∀ start, related start (last (step.run start))

theorem Leads.mono {step : Parse α} (leads : Leads related step)
    (weaker : ∀ {start stop}, related start stop → other start stop) :
    Leads other step :=
  fun start => weaker (leads start)

theorem Leads.returns {step : Parse α} (leads : Leads Advances step) :
    Leads Returns step :=
  leads.mono Advances.returns

theorem Leads.remains {step : Parse α} (leads : Leads Returns step) :
    Leads Remains step :=
  leads.mono Returns.remains

section Combinators

variable [IsPreorder Parser related]

theorem leads_pure (value : α) : Leads related (pure value) :=
  fun start => refl_of related start

/-- The relation has to be transitive for this, as a failure may lie behind the
first step. -/
theorem Leads.bind {step : Parse α} {next : α → Parse β}
    (first : Leads related step)
    (rest : ∀ value, Leads related (next value)) :
    Leads related (step >>= next) := by
  intro start
  have leads := first start
  rw [EStateM.run_bind]
  cases result : step.run start with
  | ok value middle =>
      rw [result] at leads
      exact trans_of related leads (rest value middle)
  | error failure stop =>
      rw [result] at leads
      exact leads

theorem Leads.branch {question : Parse Bool} {yes no : Parse α}
    (asks : Leads related question)
    (whenYes : Leads related yes) (whenNo : Leads related no) :
    Leads related (question >>= fun answer => if answer then yes else no) := by
  apply asks.bind
  intro answer
  cases answer with
  | true => exact whenYes
  | false => exact whenNo

theorem leads_below {step : Parse α} {bound : Nat}
    (leads : ∀ start, start.left < bound →
      related start (last (step.run start))) :
    Leads related (below bound step) := by
  intro start
  rw [run_below]
  by_cases shorter : start.left < bound
  · rw [if_pos shorter]
    exact leads start shorter
  · rw [if_neg shorter]
    exact refl_of related start

/-- A repetition leads as far as the step does. The induction is on the text
that is left. -/
theorem Leads.many {step : Parse (Option α)} (leads : Leads related step) :
    Leads related (many step) := by
  intro start
  induction size : start.left using Nat.strongRecOn generalizing start with
  | ind bound inductionHypothesis =>
      subst size
      rw [Likeness.run_many_eq]
      have others : Leads related (below start.left (Parse.many step)) :=
        leads_below fun later shorter =>
          inductionHypothesis later.left shorter later rfl
      refine leads.bind (fun found => ?_) start
      cases found with
      | none => exact leads_pure []
      | some value =>
          exact others.bind fun values => leads_pure (value :: values)

/-- A step that uses itself leads as far as it does with a step of that kind in
its place. -/
theorem leads_recur {step : Parse α → Parse α}
    (leads : ∀ inner, Leads related inner → Leads related (step inner)) :
    Leads related (recur step) := by
  intro start
  induction size : start.left using Nat.strongRecOn generalizing start with
  | ind bound inductionHypothesis =>
      subst size
      rw [run_recur]
      have inner : Leads related (below start.left (recur step)) :=
        leads_below fun later shorter =>
          inductionHypothesis later.left shorter later rfl
      exact leads _ inner start

end Combinators

theorem leads_ask (question : Cursor → α) : Leads Advances (ask question) :=
  fun start => refl_of Advances start

theorem leads_position : Leads Advances position :=
  leads_ask Cursor.position

theorem leads_fail (cause : Cause) (place : Position) :
    Leads Advances (fail cause place : Parse α) :=
  fun start => refl_of Advances start

theorem leads_attempt {lexeme? : Cursor → Option (α × Cursor)}
    (moves : Cursor.Moves lexeme?) :
    Leads Advances (attempt lexeme?) := by
  intro start
  rw [run_attempt]
  cases found : lexeme? start.cursor with
  | some entry => exact ⟨moves found, rfl⟩
  | none => exact refl_of Advances start

theorem leads_advanceIf {behind? : Cursor → Option Cursor}
    (moves : ∀ cursor behind, behind? cursor = some behind →
      cursor.Reaches behind) :
    Leads Advances (advanceIf behind?) := by
  intro start
  rw [run_advanceIf]
  cases found : behind? start.cursor with
  | some behind => exact ⟨moves start.cursor behind found, rfl⟩
  | none => exact refl_of Advances start

theorem leads_accept (text : String) : Leads Advances (accept text) :=
  leads_advanceIf fun _ _ found => Cursor.reaches_of_accept? found

theorem leads_acceptKeyword (word : String) :
    Leads Advances (acceptKeyword word) :=
  leads_advanceIf fun _ _ found => Cursor.reaches_of_keyword? found

theorem leads_scan {step : Scan α}
    (reaches : ∀ cursor : Cursor, cursor.Reaches (last (step.run cursor))) :
    Leads Advances (scan step) := by
  intro start
  have moves := reaches start.cursor
  rw [run_scan]
  cases result : step.run start.cursor with
  | ok value behind =>
      rw [result] at moves
      exact ⟨moves, rfl⟩
  | error diagnostic behind =>
      rw [result] at moves
      exact ⟨moves, rfl⟩

theorem leads_expect (text : String) : Leads Advances (expect text) :=
  leads_scan fun cursor => (cursor.staysOrAdvances_expect text).reaches

theorem leads_currentScope : Leads Advances currentScope := by
  intro start
  rw [run_currentScope]
  cases start.scopes.current with
  | ok id => exact refl_of Advances start
  | error fault => exact refl_of Advances start

theorem leads_declare (name : String) (type : DataType) (place : Position) :
    Leads Remains (declare name type place) := by
  intro start
  rw [run_declare]
  rcases result : start.scopes.declare? name type with fault | _ | scopes
  · exact refl_of Remains start
  · exact refl_of Remains start
  · refine ⟨.refl _, ?_⟩
    intro id scope stands
    obtain ⟨other, _, later, others, _, rfl⟩ := Scopes.declare?_ok.1 result
    obtain ⟨rfl, rfl⟩ := stands.unique others
    exact ⟨later, stands.becomes_set later⟩

theorem leads_bind (name : String) (signature : Signature) :
    Leads Remains (changeScopes (·.bind name signature)) := by
  intro start
  rw [run_changeScopes]
  cases result : start.scopes.bind name signature with
  | error fault => exact refl_of Remains start
  | ok scopes =>
      refine ⟨.refl _, ?_⟩
      intro id scope stands
      obtain ⟨other, found, others, rfl⟩ := Scopes.bind_ok.1 result
      obtain ⟨rfl, rfl⟩ := stands.unique others
      exact ⟨_, stands.becomes_set _⟩

/-- When the scope can be left, it is left after a failure as well. -/
theorem last_leave (result : EStateM.Result Failure Parser α) :
    last (Likeness.leave result) =
      match (last result).scopes.exit with
      | .ok outer => { last result with scopes := outer }
      | .error _ => last result := by
  cases result with
  | ok value stop =>
      rw [Likeness.leave, seqRight_eq_bind, EStateM.run_bind, run_changeScopes]
      simp only [last]
      cases stop.scopes.exit <;> rfl
  | error failure stop =>
      rw [Likeness.leave, seqRight_eq_bind, EStateM.run_bind, run_changeScopes]
      simp only [last]
      cases stop.scopes.exit <;> rfl

/-- A step that remains inside a new scope returns from it. -/
theorem Leads.inScope {step : Parse α} (leads : Leads Remains step) :
    Leads Returns (inScope step) := by
  intro start
  rw [Likeness.run_inScope_eq]
  cases enters : start.scopes.enter with
  | error fault => exact refl_of Returns start
  | ok inner =>
      have remains := leads { start with scopes := inner }
      dsimp only
      rw [last_leave]
      generalize last (step.run { start with scopes := inner }) =
        stop at remains
      -- From the new scope the step cannot end where no scope is left to which
      -- it could go back.
      have inside {id : ScopeId} {scope : Scope}
          (stands : start.scopes.Stands id scope) :
          ∃ last, inner.Becomes stop.scopes start.scopes.all.size last :=
        remains.becomes _ _ (Scopes.stands_of_enter stands enters).2
      cases exits : stop.scopes.exit with
      | ok outer =>
          refine ⟨remains.reaches, ?_⟩
          intro id scope stands
          obtain ⟨last, becomes⟩ := inside stands
          exact Scopes.becomes_of_exit stands enters becomes exits
      | error fault =>
          refine ⟨remains.reaches, ?_⟩
          intro id scope stands
          obtain ⟨last, becomes⟩ := inside stands
          obtain ⟨outer, leaves, _⟩ :=
            Scopes.exit_of_becomes stands enters becomes
          cases exits.symm.trans leaves

end Parse

end Minilang
