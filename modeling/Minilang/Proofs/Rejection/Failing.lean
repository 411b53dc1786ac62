import Minilang.Proofs.Discipline.Leads

/-!
# How the steps of a reading are rejected

For each primitive step and each combinator there is one rule that says how a
reading is rejected that goes on from it: the rule asks for what is told of the
rejection of the step itself, and for what comes after each way in which the
step can succeed.
-/

namespace Minilang

namespace Parse

open Steps

variable {α β : Type} {told : Diagnostic → Cursor → Array Scope → Prop}
  {start : Parser}

/-- If the step rejects the program, then the diagnostic, the cursor that is
left and the scopes that there are then are as told. Nothing is said about
faults, nor about which scopes are open. -/
abbrev RejectsAs (told : Diagnostic → Cursor → Array Scope → Prop)
    (step : Parse α) (start : Parser) : Prop :=
  FailsAs (fun failure stop => ∀ diagnostic, failure = .diagnostic diagnostic →
    told diagnostic stop.cursor stop.scopes.all) step start

theorem rejectsAs_fail {cause : Cause} {place : Position}
    (own : told ⟨cause, place⟩ start.cursor start.scopes.all) :
    RejectsAs told (fail cause place : Parse α) start := by
  intro failure stop failed diagnostic same
  rw [run_fail] at failed
  cases failed
  cases same
  exact own

/-- An attempt itself never rejects, so only what comes after it is asked
about. -/
theorem rejectsAs_attempt {lexeme? : Cursor → Option (α × Cursor)}
    {next : Option α → Parse β}
    (present : ∀ value behind, lexeme? start.cursor = some (value, behind) →
      RejectsAs told (next (some value)) { start with cursor := behind })
    (absent : lexeme? start.cursor = none → RejectsAs told (next none) start) :
    RejectsAs told (attempt lexeme? >>= next) start := by
  cases ahead : lexeme? start.cursor with
  | some entry =>
      have success : (attempt lexeme?).run start =
          .ok (some entry.1) { start with cursor := entry.2 } := by
        rw [run_attempt, ahead]
      exact FailsAs.onward success (present entry.1 entry.2 ahead)
  | none =>
      have success : (attempt lexeme?).run start = .ok none start := by
        rw [run_attempt, ahead]
      exact FailsAs.onward success (absent ahead)

theorem rejectsAs_advanceIf {behind? : Cursor → Option Cursor}
    {yes no : Parse β}
    (present : ∀ behind, behind? start.cursor = some behind →
      RejectsAs told yes { start with cursor := behind })
    (absent : behind? start.cursor = none → RejectsAs told no start) :
    RejectsAs told (advanceIf behind? >>= fun answer => if answer then yes
    else no) start := by
  cases ahead : behind? start.cursor with
  | some behind =>
      have success :
          (advanceIf behind?).run start =
            .ok true { start with cursor := behind } := by
        rw [run_advanceIf, ahead]
      exact FailsAs.onward success (present behind ahead)
  | none =>
      have success : (advanceIf behind?).run start = .ok false start := by
        rw [run_advanceIf, ahead]
      exact FailsAs.onward success (absent ahead)

theorem rejectsAs_scan {step : Scan α} {next : α → Parse β}
    (own : ∀ diagnostic behind,
      step.run start.cursor = .error diagnostic behind →
      told diagnostic behind start.scopes.all)
    (rest : ∀ value behind, step.run start.cursor = .ok value behind →
      RejectsAs told (next value) { start with cursor := behind }) :
    RejectsAs told (scan step >>= next) start := by
  cases result : step.run start.cursor with
  | ok value behind =>
      refine FailsAs.onward ?_ (rest value behind result)
      rw [run_scan, result]
  | error rejection behind =>
      have scanned : (scan step).run start =
          .error (.diagnostic rejection) { start with cursor := behind } := by
        rw [run_scan, result]
      intro failure stop failed diagnostic same
      rw [EStateM.run_bind, scanned] at failed
      cases failed
      cases same
      exact own rejection behind result

/-- A text that must be there rejects where the cursor stands. -/
theorem rejectsAs_expect {text : String} {next : Unit → Parse β}
    (own : start.cursor.accept? text = none →
      told ⟨.unexpectedToken ("`" ++ text ++ "`") start.cursor.describe,
        start.cursor.position⟩
        start.cursor start.scopes.all)
    (rest : ∀ behind, start.cursor.accept? text = some behind →
      RejectsAs told (next ()) { start with cursor := behind }) :
    RejectsAs told (expect text >>= next) start := by
  apply rejectsAs_scan
  · intro diagnostic behind failed
    rw [run_scanExpect] at failed
    cases ahead : start.cursor.accept? text with
    | some behind =>
        rw [ahead] at failed
        cases failed
    | none =>
        rw [ahead] at failed
        cases failed
        exact own ahead
  · intro value behind success
    rw [run_scanExpect] at success
    cases ahead : start.cursor.accept? text with
    | some behind =>
        rw [ahead] at success
        cases success
        exact rest behind ahead
    | none =>
        rw [ahead] at success
        cases success

theorem rejectsAs_changeScopes {change : Scopes → Except Fault Scopes} :
    RejectsAs told (changeScopes change) start := by
  intro failure stop failed diagnostic same
  rw [run_changeScopes] at failed
  cases changes : change start.scopes with
  | ok scopes =>
      rw [changes] at failed
      cases failed
  | error fault =>
      rw [changes] at failed
      cases failed
      cases same

theorem rejectsAs_currentScope {next : ScopeId → Parse β}
    (rest : ∀ id, start.scopes.current = .ok id →
      RejectsAs told (next id) start) :
    RejectsAs told (currentScope >>= next) start := by
  cases current : start.scopes.current with
  | ok id =>
      exact FailsAs.onward (currentScope_ok.2 ⟨current, rfl⟩) (rest id current)
  | error fault =>
      have failed : currentScope.run start = .error (.fault fault) start := by
        rw [run_currentScope, current]
      intro failure stop faults diagnostic same
      rw [EStateM.run_bind, failed] at faults
      cases faults
      cases same

theorem rejectsAs_declare {name : String} {type : DataType} {place : Position}
    (own : start.scopes.declare? name type = .ok none →
      told ⟨.alreadyDeclared name, place⟩ start.cursor start.scopes.all) :
    RejectsAs told (declare name type place) start := by
  intro failure stop failed diagnostic same
  rw [run_declare] at failed
  rcases declares : start.scopes.declare? name type with fault | _ | scopes
  · rw [declares] at failed
    cases failed
    cases same
  · rw [declares] at failed
    cases failed
    cases same
    exact own declares
  · rw [declares] at failed
    cases failed

/-- Leaving a scope neither moves the cursor nor changes the scope, so a step is
rejected inside a new scope as it is without one. -/
theorem rejectsAs_inScope {step : Parse α}
    (inside : ∀ inner, start.scopes.enter = .ok inner →
      RejectsAs told step { start with scopes := inner }) :
    RejectsAs told (inScope step) start := by
  intro failure stop failed
  rw [Likeness.run_inScope_eq] at failed
  cases enters : start.scopes.enter with
  | error fault =>
      rw [enters] at failed
      cases failed
      exact nofun
  | ok inner =>
      simp only [enters] at failed
      cases result : step.run { start with scopes := inner } with
      | ok value last =>
          have leaves : RejectsAs told
              (changeScopes Scopes.exit *> pure value) last := by
            rw [seqRight_eq_bind]
            exact rejectsAs_changeScopes.bind fun _ _ _ => failsAs_pure value
          rw [result] at failed
          exact leaves failure stop failed
      | error reason last =>
          have leaves :
              RejectsAs told
                (changeScopes Scopes.exit *> throw reason : Parse α) last := by
            rw [seqRight_eq_bind]
            refine rejectsAs_changeScopes.bind fun _ middle success =>
              failsAs_throw ?_
            obtain ⟨outer, exits, rfl⟩ := changeScopes_ok.1 success
            obtain ⟨_, _, _, _, rfl⟩ := Scopes.exit_ok.1 exits
            exact inside inner enters reason last result
          rw [result] at failed
          exact leaves failure stop failed

theorem rejectsAs_below {step : Parse α} {bound : Nat}
    (inside : start.left < bound → RejectsAs told step start) :
    RejectsAs told (below bound step) start := by
  intro failure stop failed diagnostic same
  rw [run_below] at failed
  by_cases shorter : start.left < bound
  · rw [if_pos shorter] at failed
    exact inside shorter failure stop failed diagnostic same
  · rw [if_neg shorter] at failed
    cases failed
    cases same

/-- A repetition is rejected as the step is from each state to which earlier
rounds can have led. The invariant says what is known there of the values found
so far. -/
theorem rejectsAs_many {step : Parse (Option α)}
    (invariant : List α → Parser → Prop)
    (own : ∀ values here, invariant values here → RejectsAs told step here)
    (goesOn : ∀ values here value next, invariant values here →
      step.run here = .ok (some value) next →
      invariant (values ++ [value]) next)
    (values : List α) (holds : invariant values start) :
    RejectsAs told (many step) start := by
  induction size : start.left using Nat.strongRecOn
    generalizing start values with
  | ind bound inductionHypothesis =>
      subst size
      rw [RejectsAs, FailsAs, Likeness.run_many_eq]
      refine FailsAs.bind (own values start holds) ?_
      intro found middle success
      cases found with
      | none => exact failsAs_pure []
      | some value =>
          refine FailsAs.bind (rejectsAs_below fun shorter => ?_)
            fun others _ _ => failsAs_pure _
          have further := goesOn values start value middle holds success
          exact inductionHypothesis middle.left shorter _ further rfl

/-- What each round of a repetition keeps holds where the repetition ends. -/
theorem holds_of_many_ok {step : Parse (Option α)}
    (invariant : List α → Parser → Prop)
    (goesOn : ∀ values here value next, invariant values here →
      step.run here = .ok (some value) next →
      invariant (values ++ [value]) next)
    (ends : ∀ values here next, invariant values here →
      step.run here = .ok none next → invariant values next)
    (values : List α) (holds : invariant values start) {found : List α}
    {stop : Parser} (success : (many step).run start = .ok found stop) :
    invariant (values ++ found) stop := by
  induction found generalizing start values with
  | nil =>
      rw [List.append_nil]
      exact ends values start stop holds (many_nil_ok.1 success)
  | cons value others inductionHypothesis =>
      obtain ⟨middle, first, _, more⟩ := many_cons_ok.1 success
      have further :=
        inductionHypothesis _
          (goesOn values start value middle holds first) more
      rwa [List.append_assoc] at further

/-- A step that uses itself is rejected as it is when its inner uses are. The
inner uses succeed only where the step itself does. -/
theorem rejectsAs_recur {step : Parse α → Parse α} (known : Parser → Prop)
    (handsOn : ∀ inner : Parse α,
      (∀ value here stop, inner.run here = .ok value stop →
        (recur step).run here = .ok value stop) →
      (∀ here, known here → RejectsAs told inner here) →
      ∀ here, known here → RejectsAs told (step inner) here)
    (holds : known start) : RejectsAs told (recur step) start := by
  induction size : start.left using Nat.strongRecOn generalizing start with
  | ind bound inductionHypothesis =>
      subst size
      rw [RejectsAs, FailsAs, run_recur]
      refine handsOn _ ?_ ?_ start holds
      · intro value here stop success
        exact (below_ok.1 success).2
      · intro here knownHere
        exact rejectsAs_below fun shorter =>
          inductionHypothesis here.left shorter knownHere rfl

end Parse

end Minilang
