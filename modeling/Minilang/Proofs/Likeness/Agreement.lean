import Minilang.Proofs.Likeness.Question
import Minilang.Proofs.Reading.Success
import Minilang.Proofs.Scoping.Scopes

/-!
# Two readings side by side

Two sources are alike for a reading if the same lexemes are ahead in both,
whatever the places are and whatever stands between the lexemes. A `Likeness`
collects what that takes. Two steps agree if from states that are alike they
both succeed, with values and states that are alike again, or are both rejected
for the same cause. Agreement is shown for the primitive steps and carried
through sequences, scopes and repetitions by `Agrees.bind`, `agrees_inScope`,
`agrees_many` and `agrees_recur`.

The comparison may be limited to a part of the source: once fewer characters are
left than the horizon says, nothing is claimed but that the rest of the source
does not grow.
-/

namespace Minilang

namespace Scopes

/-- No scope is another but the one that is current in both. -/
def Keeps (before after : Scopes) : Prop :=
  ∃ id scope later, before.Stands id scope ∧ before.Becomes after id later

variable {before middle after : Scopes}

theorem Keeps.refl {id : ScopeId} {scope : Scope}
    (stands : before.Stands id scope) :
    before.Keeps before :=
  ⟨id, scope, scope, stands, stands.becomes_self⟩

theorem Keeps.trans (first : before.Keeps middle)
    (second : middle.Keeps after) :
    before.Keeps after := by
  obtain ⟨id, scope, later, stands, becomes⟩ := first
  obtain ⟨other, last, final, others, ends⟩ := second
  obtain ⟨same, _⟩ := (stands.becomes becomes).unique others
  subst same
  exact ⟨id, scope, final, stands, becomes.trans ends⟩

theorem Keeps.stands (keeps : before.Keeps after) :
    ∃ id scope, after.Stands id scope := by
  obtain ⟨id, scope, later, stands, becomes⟩ := keeps
  exact ⟨id, later, stands.becomes becomes⟩

end Scopes

/-- What makes two sources alike for a reading: a relation between their cursors
that no lexeme can tell apart. Places are compared after they have been
mapped. -/
structure Likeness where
  place : Position → Position
  horizon : Nat
  Like : Cursor → Cursor → Prop
  position {cursor other : Cursor} : Like cursor other →
    place cursor.position = place other.position
  head {cursor other : Cursor} : Like cursor other →
    cursor.rest.head? = other.rest.head?
  word {cursor other : Cursor} : Like cursor other → cursor.word? = other.word?
  symbol : Cursor.SameSymbols Like
  numeral {cursor other : Cursor} : Like cursor other →
    Lexeme.numeral? cursor.rest = Lexeme.numeral? other.rest
  string {cursor other : Cursor}
    {body otherBody : List Char} : Like cursor other →
    cursor.rest = '"' :: body → other.rest = '"' :: otherBody →
    (horizon = 0 ∨ Lexeme.stringBody? body ≠ none) →
    Lexeme.stringBody? body = Lexeme.stringBody? otherBody
  behind {cursor other : Cursor} {count : Nat} : Like cursor other →
    Lexeme.IsAhead count cursor.rest →
      horizon ≤ (cursor.advance count).rest.length →
    Like (cursor.advance count) (other.advance count)

namespace Likeness

variable (like : Likeness)

/-- The states are alike, with fewer characters left than the bounds say. -/
def Alike (bound otherBound : Nat) (state other : Parser) : Prop :=
  state.left < bound ∧ (like.horizon ≤ state.left →
    like.Like state.cursor other.cursor ∧ other.left < otherBound ∧
      state.scopes = other.scopes ∧
      ∃ id scope, state.scopes.Stands id scope)

/-- The causes are the same, and so are the places once they are mapped. -/
def SameDiagnostic (diagnostic other : Diagnostic) : Prop :=
  diagnostic.cause = other.cause ∧
    like.place diagnostic.position = like.place other.position

/-- The results of a step from states that are alike. The values are compared by
what is seen of them, and this says how much text was used up at least. -/
inductive Matches {α β : Type} (view : α → β) (used : β → Nat)
    (start otherStart : Parser) :
    EStateM.Result Failure Parser α →
    EStateM.Result Failure Parser α → Prop where
  | ok {value otherValue : α} {stop otherStop : Parser} :
      view value = view otherValue →
      like.Like stop.cursor otherStop.cursor →
      otherStop.left + used (view value) ≤ otherStart.left →
      stop.scopes = otherStop.scopes →
      start.scopes.Keeps stop.scopes →
      Matches view used start otherStart (.ok value stop)
        (.ok otherValue otherStop)
  | rejected {diagnostic otherDiagnostic : Diagnostic}
      {stop otherStop : Parser} :
      like.SameDiagnostic diagnostic otherDiagnostic →
      stop.scopes = otherStop.scopes →
      start.scopes.Keeps stop.scopes →
      Matches view used start otherStart (.error (.diagnostic diagnostic) stop)
        (.error (.diagnostic otherDiagnostic) otherStop)

/-- So much of the source is used up from the state to the result at least. -/
def Uses {α β : Type} (view : α → β) (used : β → Nat) (start : Parser) :
    EStateM.Result Failure Parser α → Prop
  | .ok value stop => stop.left + used (view value) ≤ start.left
  | .error _ stop => stop.left ≤ start.left

/-- The results agree, if they do not lie behind the horizon. -/
def Agree {α β : Type} (view : α → β) (used : β → Nat)
    (start otherStart : Parser)
    (result otherResult : EStateM.Result Failure Parser α) : Prop :=
  Uses view used start result ∧ (like.horizon ≤ (Steps.last result).left →
    like.Matches view used start otherStart result otherResult)

/-- From states that are alike, within the bounds, the two steps lead to results
that agree. -/
def Agrees {α β : Type} (bound otherBound : Nat) (view : α → β) (used : β → Nat)
    (step otherStep : Parse α) : Prop :=
  ∀ start otherStart, like.Alike bound otherBound start otherStart →
    like.Agree view used start otherStart (step.run start)
      (otherStep.run otherStart)

variable {like} {α β γ δ : Type} {bound otherBound : Nat} {view : α → β}
  {used : β → Nat}

theorem last_left_le {start : Parser} {result : EStateM.Result Failure Parser α}
    (uses : Uses view used start result) :
    (Steps.last result).left ≤ start.left := by
  cases result with
  | ok value stop => exact Nat.le_trans (Nat.le_add_right _ _) uses
  | error failure stop => exact uses

theorem Agrees.mono {step otherStep : Parse α} {smaller otherSmaller : Nat}
    {less : β → Nat}
    (agrees : like.Agrees bound otherBound view used step otherStep)
    (within : smaller ≤ bound) (otherWithin : otherSmaller ≤ otherBound)
    (weaker : ∀ value, less value ≤ used value) :
    like.Agrees smaller otherSmaller view less step otherStep := by
  intro start otherStart alike
  have wider : like.Alike bound otherBound start otherStart := by
    refine ⟨Nat.lt_of_lt_of_le alike.1 within, fun near => ?_⟩
    obtain ⟨cursors, left, rest⟩ := alike.2 near
    exact ⟨cursors, Nat.lt_of_lt_of_le left otherWithin, rest⟩
  obtain ⟨uses, matched⟩ := agrees start otherStart wider
  generalize step.run start = result at uses matched
  generalize otherStep.run otherStart = otherResult at matched
  constructor
  · cases result with
    | ok value stop =>
        exact Nat.le_trans (Nat.add_le_add_left (weaker _) _) uses
    | error failure stop => exact uses
  · intro near
    cases matched near with
    | ok same cursors left scopes keeps =>
        exact .ok same cursors
          (Nat.le_trans (Nat.add_le_add_left (weaker _) _) left) scopes keeps
    | rejected same scopes keeps => exact .rejected same scopes keeps

/-- What agrees further on agrees from the beginning. -/
theorem Agree.onward {start otherStart middle otherMiddle : Parser}
    {spent : Nat} {result otherResult : EStateM.Result Failure Parser α}
    (left : middle.left + spent ≤ start.left)
    (near : like.horizon ≤ middle.left →
      otherMiddle.left + spent ≤ otherStart.left ∧
      start.scopes.Keeps middle.scopes)
    (agree : like.Agree view (fun value => used value - spent) middle
      otherMiddle result otherResult) :
    like.Agree view used start otherStart result otherResult := by
  obtain ⟨uses, matched⟩ := agree
  have shrinks := last_left_le uses
  constructor
  · cases result with
    | ok value stop =>
        have inner : stop.left + (used (view value) - spent) ≤
            middle.left := uses
        change stop.left + used (view value) ≤ start.left
        omega
    | error failure stop =>
        have inner : stop.left ≤ middle.left := uses
        change stop.left ≤ start.left
        omega
  · intro isNear
    obtain ⟨otherLeft, keeps⟩ := near (Nat.le_trans isNear shrinks)
    cases matched isNear with
    | ok same cursors inner scopes further =>
        refine .ok same cursors ?_ scopes (keeps.trans further)
        omega
    | rejected same scopes further =>
        exact .rejected same scopes (keeps.trans further)

/-- The text that the first step uses up counts towards that of the whole, so
the second one has the less to use up. -/
theorem Agrees.bind {step otherStep : Parse α} {next otherNext : α → Parse γ}
    {nextView : γ → δ} {nextUsed : δ → Nat}
    (first : like.Agrees bound otherBound view used step otherStep)
    (rest : ∀ value otherValue, view value = view otherValue →
      like.Agrees (bound - used (view value)) (otherBound - used (view value))
        nextView (fun result => nextUsed result - used (view value))
          (next value) (otherNext otherValue)) :
    like.Agrees bound otherBound nextView nextUsed (step >>= next)
      (otherStep >>= otherNext) := by
  intro start otherStart alike
  obtain ⟨uses, matched⟩ := first start otherStart alike
  have within := alike.1
  rw [EStateM.run_bind, EStateM.run_bind]
  generalize otherStep.run otherStart = otherResult at matched
  cases result : step.run start with
  | error failure stop =>
      rw [result] at uses matched
      refine ⟨uses, fun near => ?_⟩
      cases matched near with
      | rejected same scopes keeps => exact .rejected same scopes keeps
  | ok value middle =>
      rw [result] at uses matched
      have left : middle.left + used (view value) ≤ start.left := uses
      by_cases near : like.horizon ≤ middle.left
      · cases matched near with
        | @ok _ otherValue _ otherMiddle same cursors otherLeft scopes keeps =>
            have startNear : like.horizon ≤ start.left := by omega
            obtain ⟨_, otherWithin, _⟩ := alike.2 startNear
            have further :
                like.Alike (bound - used (view value))
                  (otherBound - used (view value))
                middle otherMiddle :=
              ⟨by omega, fun _ => ⟨cursors, by omega, scopes, keeps.stands⟩⟩
            exact (rest value otherValue same middle otherMiddle further).onward
              left fun _ => ⟨otherLeft, keeps⟩
      · -- Behind the horizon the other state does not matter.
        have further :
            like.Alike (bound - used (view value))
              (otherBound - used (view value))
            middle otherStart := ⟨by omega, fun isNear => absurd isNear near⟩
        have agree := rest value value rfl middle otherStart further
        have onward : like.Agree nextView nextUsed start otherStart _ _ :=
          agree.onward left fun isNear => absurd isNear near
        have shrinks := last_left_le agree.1
        exact ⟨onward.1, fun isNear =>
          absurd (Nat.le_trans isNear shrinks) near⟩

theorem agrees_pure {value otherValue : α} (same : view value = view otherValue)
    (none : used (view value) = 0) :
    like.Agrees bound otherBound view used (pure value) (pure otherValue) := by
  intro start otherStart alike
  rw [EStateM.run_pure, EStateM.run_pure]
  have left {parser : Parser} :
      parser.left + used (view value) ≤ parser.left := by omega
  refine ⟨left, fun near => ?_⟩
  obtain ⟨cursors, _, scopes, id, scope, stands⟩ := alike.2 near
  exact .ok same cursors left scopes (.refl stands)

/-- A step that asks first and goes on by the answer. -/
theorem Agrees.branch {question otherQuestion : Parse Bool} {cost : Bool → Nat}
    {yes otherYes no otherNo : Parse γ} {nextView : γ → δ} {nextUsed : δ → Nat}
    (asks : like.Agrees bound otherBound id cost question otherQuestion)
    (whenYes : like.Agrees (bound - cost true) (otherBound - cost true) nextView
      (fun result => nextUsed result - cost true) yes otherYes)
    (whenNo : like.Agrees (bound - cost false) (otherBound - cost false)
      nextView (fun result => nextUsed result - cost false) no otherNo) :
    like.Agrees bound otherBound nextView nextUsed
      (question >>= fun answer => if answer then yes else no)
      (otherQuestion >>= fun answer => if answer then otherYes
      else otherNo) := by
  refine asks.bind fun answer otherAnswer same => ?_
  cases same
  cases answer with
  | true => exact whenYes
  | false => exact whenNo

end Likeness

end Minilang
