import Minilang.Proofs.Likeness.Lexemes

namespace Minilang.Likeness

variable {like : Likeness} {α β : Type} {bound otherBound : Nat} {view : α → β}
  {used : β → Nat}

theorem agrees_currentScope :
    like.Agrees bound otherBound id (fun _ => 0) Parse.currentScope
      Parse.currentScope := by
  intro start otherStart alike
  rw [Parse.run_currentScope, Parse.run_currentScope]
  constructor
  · cases start.scopes.current <;> exact Nat.le_refl _
  · intro near
    have startNear : like.horizon ≤ start.left := by
      cases current : start.scopes.current <;>
        rw [current] at near <;> exact near
    obtain ⟨cursors, _, scopes, id, scope, stands⟩ := alike.2 startNear
    rw [← scopes, Scopes.current_ok.2 stands.head?]
    exact .ok rfl cursors (Nat.le_refl _) scopes (.refl stands)

theorem agrees_declare {name : String} {type : DataType}
    {place otherPlace : Position}
    (same : like.place place = like.place otherPlace) :
    like.Agrees bound otherBound id (fun _ => 0) (Parse.declare name type place)
      (Parse.declare name type otherPlace) := by
  intro start otherStart alike
  rw [Parse.run_declare, Parse.run_declare]
  constructor
  · rcases start.scopes.declare? name type with
      fault | _ | scopes <;> exact Nat.le_refl _
  · intro near
    have startNear : like.horizon ≤ start.left := by
      rcases result : start.scopes.declare? name type with
        fault | _ | scopes <;> rw [result] at near <;> exact near
    obtain ⟨cursors, _, scopes, current, scope, stands⟩ := alike.2 startNear
    rw [← scopes, Scopes.declare?_of_stands stands]
    cases scope.declare? name type with
    | none => exact .rejected ⟨rfl, same⟩ scopes (.refl stands)
    | some later =>
        have keeps : start.scopes.Keeps (start.scopes.set current later) :=
          ⟨current, scope, later, stands, stands.becomes_set later⟩
        exact .ok rfl cursors (Nat.le_refl _) rfl keeps

theorem agrees_bind {name : String} {signature : Signature} :
    like.Agrees bound otherBound id (fun _ => 0)
      (Parse.changeScopes (·.bind name signature))
      (Parse.changeScopes (·.bind name signature)) := by
  intro start otherStart alike
  rw [Parse.run_changeScopes, Parse.run_changeScopes]
  constructor
  · cases start.scopes.bind name signature <;> exact Nat.le_refl _
  · intro near
    have startNear : like.horizon ≤ start.left := by
      cases result : start.scopes.bind name signature <;>
        rw [result] at near <;> exact near
    obtain ⟨cursors, _, scopes, current, scope, stands⟩ := alike.2 startNear
    have binds : start.scopes.bind name signature =
        .ok (start.scopes.set current (scope.bind name signature)) :=
      Scopes.bind_ok.2 ⟨current, scope, stands, rfl⟩
    rw [← scopes, binds]
    have keeps : start.scopes.Keeps
        (start.scopes.set current (scope.bind name signature)) :=
      ⟨current, scope, _, stands, stands.becomes_set _⟩
    exact .ok rfl cursors (Nat.le_refl _) rfl keeps

/-- The result of a step once the scope in which it was taken is left. -/
def leave : EStateM.Result Failure Parser α → EStateM.Result Failure Parser α
  | .ok value later => (Parse.changeScopes Scopes.exit *> pure value).run later
  | .error failure later =>
      (Parse.changeScopes Scopes.exit *> throw failure).run later

theorem run_inScope_eq (step : Parse α) (parser : Parser) :
    (Parse.inScope step).run parser =
      match parser.scopes.enter with
      | .ok inner => leave (step.run { parser with scopes := inner })
      | .error fault => .error (.fault fault) parser := by
  rw [Parse.run_inScope, Parse.run_changeScopes]
  cases parser.scopes.enter with
  | error fault => rfl
  | ok inner =>
      dsimp only
      cases step.run { parser with scopes := inner } <;> rfl

theorem leave_ok {value : α} {later : Parser} {outer : Scopes}
    (exits : later.scopes.exit = .ok outer) :
    leave (.ok value later) = .ok value { later with scopes := outer } := by
  rw [leave, seqRight_eq_bind, EStateM.run_bind, Parse.run_changeScopes, exits]
  rfl

theorem leave_error {failure : Failure} {later : Parser} {outer : Scopes}
    (exits : later.scopes.exit = .ok outer) :
    leave (.error failure later : EStateM.Result Failure Parser α) =
      .error failure { later with scopes := outer } := by
  rw [leave, seqRight_eq_bind, EStateM.run_bind, Parse.run_changeScopes, exits]
  rfl

/-- Leaving a scope does not move the cursor. -/
theorem uses_leave {start : Parser} {result : EStateM.Result Failure Parser α}
    (uses : Uses view used start result) :
    Uses view used start (leave result) ∧
      (Steps.last (leave result)).left = (Steps.last result).left := by
  cases result with
  | ok value later =>
      cases exits : later.scopes.exit with
      | ok outer =>
          rw [leave_ok exits]
          exact ⟨uses, rfl⟩
      | error fault =>
          rw [leave, seqRight_eq_bind, EStateM.run_bind,
            Parse.run_changeScopes, exits]
          exact ⟨last_left_le uses, rfl⟩
  | error failure later =>
      cases exits : later.scopes.exit with
      | ok outer =>
          rw [leave_error exits]
          exact ⟨uses, rfl⟩
      | error fault =>
          rw [leave, seqRight_eq_bind, EStateM.run_bind,
            Parse.run_changeScopes, exits]
          exact ⟨uses, rfl⟩

/-- What keeps the scopes inside a new scope can be left again. -/
theorem exit_of_keeps {before inner later : Scopes} {id : ScopeId}
    {scope : Scope} (stands : before.Stands id scope)
    (enters : before.enter = .ok inner)
    (keeps : inner.Keeps later) :
    ∃ outer, later.exit = .ok outer ∧ before.Keeps outer := by
  obtain ⟨_, isNew⟩ := Scopes.stands_of_enter stands enters
  obtain ⟨current, child, last, others, becomes⟩ := keeps
  obtain ⟨same, _⟩ := isNew.unique others
  subst same
  obtain ⟨outer, exits, further⟩ := Scopes.exit_of_becomes stands enters becomes
  exact ⟨outer, exits, id, scope, scope, stands, further⟩

/-- Both scopes are left again even if the steps inside fail. -/
theorem agrees_inScope {step otherStep : Parse α}
    (agrees : like.Agrees bound otherBound view used step otherStep) :
    like.Agrees bound otherBound view used (Parse.inScope step)
      (Parse.inScope otherStep) := by
  intro start otherStart alike
  rw [run_inScope_eq, run_inScope_eq]
  by_cases startNear : like.horizon ≤ start.left
  · obtain ⟨cursors, otherWithin, scopes, id, scope, stands⟩ :=
      alike.2 startNear
    obtain ⟨inner, enters, isNew⟩ := Scopes.enter_of_stands stands
    have inside : like.Alike bound otherBound { start with scopes := inner }
        { otherStart with scopes := inner } :=
      ⟨alike.1, fun _ => ⟨cursors, otherWithin, rfl, _, _, isNew⟩⟩
    obtain ⟨uses, matched⟩ := agrees _ _ inside
    rw [← scopes, enters]
    dsimp only
    obtain ⟨outside, sameLeft⟩ := uses_leave uses
    refine ⟨outside, fun near => ?_⟩
    rw [sameLeft] at near
    generalize step.run { start with scopes := inner } = result at near matched
    generalize otherStep.run { otherStart with scopes := inner } =
      otherResult at matched
    cases matched near with
    | ok same further left scopes_ keeps =>
        obtain ⟨outer, exits, kept⟩ := exit_of_keeps stands enters keeps
        rw [leave_ok exits, leave_ok (scopes_ ▸ exits)]
        exact .ok same further left rfl kept
    | rejected same scopes_ keeps =>
        obtain ⟨outer, exits, kept⟩ := exit_of_keeps stands enters keeps
        rw [leave_error exits, leave_error (scopes_ ▸ exits)]
        exact .rejected same rfl kept
  · cases start.scopes.enter with
    | error fault => exact ⟨Nat.le_refl _, fun near => absurd near startNear⟩
    | ok inner =>
        have inside : like.Alike bound otherBound
            { start with scopes := inner } otherStart :=
          ⟨alike.1, fun near => absurd near startNear⟩
        obtain ⟨uses, _⟩ := agrees _ _ inside
        obtain ⟨outside, _⟩ := uses_leave uses
        refine ⟨outside, fun near => ?_⟩
        exact absurd (Nat.le_trans near (last_left_le outside)) startNear

theorem agrees_below {step otherStep : Parse α} {limit otherLimit : Nat}
    (agrees : like.Agrees bound otherBound view used step otherStep)
    (within : bound ≤ limit)
    (otherWithin : otherBound ≤ otherLimit) :
    like.Agrees bound otherBound view used (Parse.below limit step)
      (Parse.below otherLimit otherStep) := by
  intro start otherStart alike
  obtain ⟨uses, matched⟩ := agrees start otherStart alike
  rw [Parse.run_below, Parse.run_below,
    if_pos (Nat.lt_of_lt_of_le alike.1 within)]
  refine ⟨uses, fun near => ?_⟩
  obtain ⟨_, otherLeft, _⟩ := alike.2 (Nat.le_trans near (last_left_le uses))
  rw [if_pos (Nat.lt_of_lt_of_le otherLeft otherWithin)]
  exact matched near

theorem run_many_eq (step : Parse (Option α)) (parser : Parser) :
    (Parse.many step).run parser = EStateM.run (do
      match ← step with
      | none => return []
      | some value =>
          let values ← Parse.below parser.left (Parse.many step)
          return value :: values) parser := by
  rw [Parse.run_many, EStateM.run_bind]
  rcases step.run parser with ⟨_ | value, later⟩ | ⟨failure, later⟩
  · rfl
  · dsimp only
    rw [EStateM.run_bind]
    cases (Parse.below parser.left (Parse.many step)).run later <;> rfl
  · rfl

/-- A step that is repeated must use up text as often as it finds something. -/
theorem agrees_many {step otherStep : Parse (Option α)}
    (agrees : like.Agrees bound otherBound (Option.map view)
      found step otherStep) :
    like.Agrees bound otherBound (List.map view) (fun _ => 0) (Parse.many step)
      (Parse.many otherStep) := by
  induction bound with
  | zero =>
      exact fun start otherStart alike => absurd alike.1 (Nat.not_lt_zero _)
  | succ bound inductionHypothesis =>
      intro start otherStart alike
      have within : start.left ≤ bound := Nat.le_of_lt_succ alike.1
      have others : like.Agrees start.left
          (min otherBound (otherStart.left + 1) - 1)
          (List.map view) (fun _ => 0) (Parse.many step)
            (Parse.many otherStep) :=
        (inductionHypothesis (agrees.mono (Nat.le_succ _) (Nat.le_refl _)
          fun _ => Nat.le_refl _)).mono within (by omega) fun _ => Nat.le_refl _
      have first : like.Agrees (start.left + 1)
          (min otherBound (otherStart.left + 1))
          (Option.map view) found step otherStep :=
        agrees.mono (Nat.succ_le_succ within) (Nat.min_le_left _ _) fun _ =>
          Nat.le_refl _
      have tight : like.Alike (start.left + 1)
          (min otherBound (otherStart.left + 1)) start
          otherStart := by
        refine ⟨Nat.lt_succ_self _, fun near => ?_⟩
        obtain ⟨cursors, otherLeft, rest⟩ := alike.2 near
        exact ⟨cursors, Nat.lt_min.2 ⟨otherLeft, Nat.lt_succ_self _⟩, rest⟩
      rw [run_many_eq, run_many_eq]
      refine first.bind (fun value otherValue same => ?_) start otherStart tight
      cases value with
      | none =>
          cases otherValue with
          | none => exact agrees_pure rfl rfl
          | some otherValue => cases same
      | some value =>
          cases otherValue with
          | none => cases same
          | some otherValue =>
              refine (agrees_below others (Nat.le_refl _) (by omega)).bind
                fun values otherValues sameValues => agrees_pure ?_ rfl
              rw [List.map_cons, List.map_cons,
                Option.some.inj same, sameValues]

/-- A step that uses itself on shorter texts. -/
theorem agrees_recur {step otherStep : Parse α → Parse α}
    (agrees : ∀ {bound otherBound : Nat} {inner otherInner : Parse α},
      like.Agrees bound otherBound view used inner otherInner →
      like.Agrees (bound + 1) (otherBound + 1) view used (step inner)
        (otherStep otherInner)) :
    like.Agrees bound otherBound view used (Parse.recur step)
      (Parse.recur otherStep) := by
  induction bound generalizing otherBound with
  | zero =>
      exact fun start otherStart alike => absurd alike.1 (Nat.not_lt_zero _)
  | succ bound inductionHypothesis =>
      intro start otherStart alike
      have inner : like.Agrees start.left otherStart.left view used
          (Parse.recur step)
          (Parse.recur otherStep) :=
        inductionHypothesis.mono (Nat.le_of_lt_succ alike.1) (Nat.le_refl _)
          fun _ => Nat.le_refl _
      have tight : like.Alike (start.left + 1) (otherStart.left + 1)
          start otherStart := by
        refine ⟨Nat.lt_succ_self _, fun near => ?_⟩
        obtain ⟨cursors, _, rest⟩ := alike.2 near
        exact ⟨cursors, Nat.lt_succ_self _, rest⟩
      rw [Parse.run_recur, Parse.run_recur]
      exact agrees (agrees_below inner (Nat.le_refl _) (Nat.le_refl _)) start
        otherStart tight

end Minilang.Likeness
