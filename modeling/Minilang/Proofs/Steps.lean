/-!
# Steps that may fail

What it takes for a sequence of steps on a state to succeed, and how it fails. A
step that fails leaves a failure and a state, and `FailsAs` says what holds of
the two whenever that happens. Where the states do not matter, `FailsOnly` says
so of the failure alone.
-/

namespace Minilang

namespace Steps

variable {ε σ α β : Type} {before after : σ}

theorem bind_ok {step : EStateM ε σ α} {next : α → EStateM ε σ β} {value : β} :
    (step >>= next).run before = .ok value after ↔
      ∃ first middle, step.run before = .ok first middle ∧
        (next first).run middle = .ok value after := by
  rw [EStateM.run_bind]
  cases step.run before with
  | ok first middle =>
      constructor
      · intro rest
        exact ⟨first, middle, rfl, rest⟩
      · intro parts
        obtain ⟨_, _, same, rest⟩ := parts
        cases same
        exact rest
  | error failure middle => simp

theorem pure_ok {given value : α} :
    (pure given : EStateM ε σ α).run before = .ok value after ↔ given = value ∧
    before = after := by
  rw [EStateM.run_pure]
  simp

/-- The state that the step leaves, whether or not it succeeds. -/
def last : EStateM.Result ε σ α → σ
  | .ok _ state | .error _ state => state

def succeeded : EStateM.Result ε σ α → Bool
  | .ok _ _ => true
  | .error _ _ => false

theorem exists_ok_of_succeeded {result : EStateM.Result ε σ α}
    (success : succeeded result = true) :
    ∃ value later, result = .ok value later := by
  cases result with
  | ok value later => exact ⟨value, later, rfl⟩
  | error _ _ => cases success

/-- Whether the step has succeeded with a value that passes the test. -/
def yields (test : α → Bool) : EStateM.Result ε σ α → Bool
  | .ok value _ => test value
  | .error _ _ => false

theorem exists_ok_of_yields {test : α → Bool} {result : EStateM.Result ε σ α}
    (success : yields test result = true) :
    ∃ value later, result = .ok value later ∧ test value = true := by
  cases result with
  | ok value later => exact ⟨value, later, rfl, success⟩
  | error _ _ => cases success

def stopsWith [DecidableEq ε] (failure : ε) : EStateM.Result ε σ α → Bool
  | .ok _ _ => false
  | .error other _ => other = failure

theorem exists_error_of_stopsWith [DecidableEq ε] {failure : ε}
    {result : EStateM.Result ε σ α} (stops : stopsWith failure result = true) :
    ∃ later, result = .error failure later := by
  cases result with
  | ok _ _ => cases stops
  | error other later => exact ⟨later, by rw [of_decide_eq_true stops]⟩

/-! ## How steps fail -/

section Failing

variable {told : ε → σ → Prop} {start : σ}

/-- If the step fails from the state, then the failure and the state that is
left are as told. -/
def FailsAs (told : ε → σ → Prop) (step : EStateM ε σ α) (start : σ) : Prop :=
  ∀ failure stop, step.run start = .error failure stop → told failure stop

theorem failsAs_pure (value : α) : FailsAs told (pure value) start := by
  intro failure stop failed
  cases failed

theorem failsAs_throw {failure : ε} (own : told failure start) :
    FailsAs told (throw failure : EStateM ε σ α) start := by
  intro failure stop failed
  cases failed
  exact own

/-- A sequence fails in its first step, or in the rest at the state to which the
first step has led. -/
theorem FailsAs.bind {step : EStateM ε σ α} {next : α → EStateM ε σ β}
    (first : FailsAs told step start)
    (rest : ∀ value middle, step.run start = .ok value middle →
      FailsAs told (next value) middle) :
    FailsAs told (step >>= next) start := by
  intro failure stop failed
  rw [EStateM.run_bind] at failed
  cases result : step.run start with
  | ok value middle =>
      rw [result] at failed
      exact rest value middle result failure stop failed
  | error inner middle =>
      rw [result] at failed
      cases failed
      exact first failure stop result

/-- A step that succeeds leaves it to the next one to fail. -/
theorem FailsAs.onward {step : EStateM ε σ α} {next : α → EStateM ε σ β}
    {value : α} {middle : σ} (success : step.run start = .ok value middle)
    (rest : FailsAs told (next value) middle) :
    FailsAs told (step >>= next) start := by
  intro failure stop failed
  rw [EStateM.run_bind, success] at failed
  exact rest failure stop failed

/-- Whatever the state is, a failure of the step is as told. -/
def FailsOnly (told : ε → Prop) (step : EStateM ε σ α) : Prop :=
  ∀ start, FailsAs (fun failure _ => told failure) step start

section FailsOnly

variable {told : ε → Prop}

theorem failsOnly_pure (value : α) :
    FailsOnly told (pure value : EStateM ε σ α) :=
  fun _ => failsAs_pure value

theorem failsOnly_throw {failure : ε} (own : told failure) :
    FailsOnly told (throw failure : EStateM ε σ α) :=
  fun _ => failsAs_throw own

theorem FailsOnly.bind {step : EStateM ε σ α} {next : α → EStateM ε σ β}
    (first : FailsOnly told step)
    (rest : ∀ value, FailsOnly told (next value)) :
    FailsOnly told (step >>= next) :=
  fun start => (first start).bind fun value middle _ => rest value middle

end FailsOnly

end Failing

end Steps

theorem exists_eq_ok_of_isOk {ε α : Type} {result : Except ε α}
    (isOk : result.isOk = true) :
    ∃ value, result = .ok value := by
  cases result with
  | error _ => cases isOk
  | ok value => exact ⟨value, rfl⟩

def Steps.failsWith {ε α : Type} [DecidableEq ε]
    (failure : ε) : Except ε α → Bool
  | .error other => other = failure
  | .ok _ => false

theorem eq_error_of_failsWith {ε α : Type} [DecidableEq ε] {failure : ε}
    {result : Except ε α} (fails : Steps.failsWith failure result = true) :
    result = .error failure := by
  cases result with
  | error other => rw [of_decide_eq_true fails]
  | ok _ => cases fails

end Minilang
