import Minilang.Grammar.Expression
import Minilang.Proofs.Steps

namespace Minilang.Parse

open Steps

variable {α β : Type} {parser later : Parser}

theorem fail_ok {cause : Cause} {position : Position} {value : α} :
    (fail cause position : Parse α).run parser = .ok value later ↔ False := by
  simp

theorem ask_ok {question : Cursor → α} {value : α} :
    (ask question).run parser = .ok value later ↔
      question parser.cursor = value ∧ parser = later := by
  simp

theorem position_ok {place : Position} :
    position.run parser = .ok place later ↔ parser.cursor.position = place ∧
    parser = later := by
  simp

/-- Where the lexeme is absent the step succeeds too, and moves nothing. -/
theorem attempt_ok {lexeme? : Cursor → Option (α × Cursor)} {found : Option α} :
    (attempt lexeme?).run parser = .ok found later ↔
      (lexeme? parser.cursor = none ∧ found = none ∧ parser = later) ∨
        ∃ value behind, lexeme? parser.cursor = some (value, behind) ∧
          found = some value ∧
          { parser with cursor := behind } = later := by
  rw [run_attempt]
  cases lexeme? parser.cursor with
  | none => simp [eq_comm]
  | some entry =>
      obtain ⟨value, behind⟩ := entry
      constructor
      · intro same
        cases same
        exact Or.inr ⟨value, behind, rfl, rfl, rfl⟩
      · intro parts
        rcases parts with ⟨absent, _⟩ | ⟨_, _, same, rfl, rfl⟩
        · cases absent
        · cases same
          rfl

theorem run_advanceIf (behind? : Cursor → Option Cursor) :
    (advanceIf behind?).run parser =
      match behind? parser.cursor with
      | some behind => .ok true { parser with cursor := behind }
      | none => .ok false parser :=
  rfl

theorem advanceIf_ok {behind? : Cursor → Option Cursor} {found : Bool} :
    (advanceIf behind?).run parser = .ok found later ↔
      (behind? parser.cursor = none ∧ found = false ∧ parser = later) ∨
        ∃ behind, behind? parser.cursor = some behind ∧ found = true ∧
          { parser with cursor := behind } = later := by
  rw [run_advanceIf]
  cases behind? parser.cursor with
  | none => simp [eq_comm]
  | some behind => simp [eq_comm]

theorem accept_ok {text : String} {found : Bool} :
    (accept text).run parser = .ok found later ↔
      (parser.cursor.accept? text = none ∧ found = false ∧ parser = later) ∨
        ∃ behind, parser.cursor.accept? text = some behind ∧ found = true ∧
          { parser with cursor := behind } = later :=
  advanceIf_ok

theorem acceptKeyword_ok {word : String} {found : Bool} :
    (acceptKeyword word).run parser = .ok found later ↔
      (parser.cursor.keyword? word = none ∧ found = false ∧ parser = later) ∨
        ∃ behind, parser.cursor.keyword? word = some behind ∧ found = true ∧
          { parser with cursor := behind } = later :=
  advanceIf_ok

theorem scan_ok {step : Scan α} {value : α} :
    (scan step).run parser = .ok value later ↔
      ∃ behind, step.run parser.cursor = .ok value behind ∧
        { parser with cursor := behind } = later := by
  rw [run_scan]
  cases step.run parser.cursor with
  | ok found behind =>
      constructor
      · intro same
        cases same
        exact ⟨behind, rfl, rfl⟩
      · intro parts
        obtain ⟨_, same, rfl⟩ := parts
        cases same
        rfl
  | error diagnostic behind => simp

theorem run_scanExpect (text : String) (cursor : Cursor) :
    (Scan.expect text).run cursor =
      match cursor.accept? text with
      | some behind => .ok () behind
      | none =>
          .error ⟨.unexpectedToken ("`" ++ text ++ "`") cursor.describe,
            cursor.position⟩ cursor :=
  rfl

theorem expect_ok {text : String} {value : Unit} :
    (expect text).run parser = .ok value later ↔
      ∃ behind, parser.cursor.accept? text = some behind ∧
        { parser with cursor := behind } = later := by
  rw [expect, scan_ok, run_scanExpect]
  cases parser.cursor.accept? text with
  | none => simp
  | some behind => simp

theorem changeScopes_ok {change : Scopes → Except Fault Scopes} {value : Unit} :
    (changeScopes change).run parser = .ok value later ↔
      ∃ scopes, change parser.scopes = .ok scopes ∧
        { parser with scopes } = later := by
  rw [run_changeScopes]
  cases change parser.scopes with
  | ok scopes => simp
  | error fault => simp

theorem currentScope_ok {id : ScopeId} :
    currentScope.run parser = .ok id later ↔
      parser.scopes.current = .ok id ∧ parser = later := by
  rw [run_currentScope]
  cases parser.scopes.current with
  | ok current => simp
  | error fault => simp

theorem declare_ok {name : String} {type : DataType} {place : Position}
    {value : Unit} :
    (declare name type place).run parser = .ok value later ↔
      ∃ scopes, parser.scopes.declare? name type = .ok (some scopes) ∧
        { parser with scopes } = later := by
  rw [run_declare]
  rcases parser.scopes.declare? name type with fault | _ | scopes
  · simp
  · simp
  · simp

/-- A step succeeds in a new scope when it succeeds between entering and leaving
one. -/
theorem inScope_ok {step : Parse α} {value : α} :
    (inScope step).run parser = .ok value later ↔
      ∃ inner middle outer, parser.scopes.enter = .ok inner ∧
        step.run { parser with scopes := inner } = .ok value middle ∧
        middle.scopes.exit = .ok outer ∧
        { middle with scopes := outer } = later := by
  rw [run_inScope, run_changeScopes]
  cases parser.scopes.enter with
  | error fault => simp
  | ok inner =>
      simp only [Except.ok.injEq, exists_and_left, exists_eq_left']
      cases step.run { parser with scopes := inner } with
      | error failure middle =>
          simp only [reduceCtorEq, false_and, exists_false, iff_false]
          intro same
          rw [seqRight_eq_bind, bind_ok] at same
          obtain ⟨_, _, _, thrown⟩ := same
          cases thrown
      | ok found middle =>
          change (changeScopes Scopes.exit *> pure found).run middle = _ ↔ _
          rw [seqRight_eq_bind, bind_ok]
          simp only [changeScopes_ok, pure_ok]
          constructor
          · intro success
            obtain ⟨_, _, ⟨outer, left, rfl⟩, rfl, rfl⟩ := success
            exact ⟨middle, rfl, outer, left, rfl⟩
          · intro parts
            obtain ⟨_, same, outer, left, rfl⟩ := parts
            cases same
            exact ⟨(), _, ⟨outer, left, rfl⟩, rfl, rfl⟩

theorem below_ok {bound : Nat} {step : Parse α} {value : α} :
    (below bound step).run parser = .ok value later ↔
      parser.left < bound ∧ step.run parser = .ok value later := by
  rw [run_below]
  split
  · simp [*]
  · simp [*]

theorem many_nil_ok {step : Parse (Option α)} :
    (many step).run parser = .ok [] later ↔
      step.run parser = .ok none later := by
  rw [run_many]
  rcases step.run parser with ⟨_ | value, middle⟩ | ⟨failure, middle⟩
  · simp
  · simp only [EStateM.Result.ok.injEq, reduceCtorEq, false_and, iff_false]
    cases (below parser.left (many step)).run middle with
    | ok values last => simp
    | error failure last => simp
  · simp

/-- What was found must have used up text. -/
theorem many_cons_ok {step : Parse (Option α)} {value : α} {values : List α} :
    (many step).run parser = .ok (value :: values) later ↔
      ∃ middle, step.run parser = .ok (some value) middle ∧
        middle.left < parser.left ∧
        (many step).run middle = .ok values later := by
  rw [run_many]
  rcases step.run parser with ⟨_ | found, middle⟩ | ⟨failure, middle⟩
  · simp
  · simp only [← @below_ok _ _ _ _ (many step)]
    cases others : (below parser.left (many step)).run middle with
    | ok rest last =>
        constructor
        · intro same
          cases same
          exact ⟨middle, rfl, others⟩
        · intro parts
          obtain ⟨_, same, tail⟩ := parts
          cases same
          rw [others] at tail
          cases tail
          rfl
    | error failure last =>
        constructor
        · intro same
          cases same
        · intro parts
          obtain ⟨_, same, tail⟩ := parts
          cases same
          rw [others] at tail
          cases tail
  · simp

/-- What every success of a step that uses itself satisfies, if the step hands
it on from its inner uses. -/
theorem recur_ok {step : Parse α → Parse α} (Holds : α → Parser → Parser → Prop)
    (handsOn : ∀ inner : Parse α,
      (∀ value parser later, inner.run parser = .ok value later →
        Holds value parser later) → ∀ value parser later,
        (step inner).run parser = .ok value later → Holds value parser later)
    {value : α} (success : (recur step).run parser = .ok value later) :
    Holds value parser later := by
  induction size : parser.left using Nat.strongRecOn
    generalizing value parser later with
  | ind size ih =>
      rw [run_recur] at success
      refine handsOn _ ?_ value parser later success
      intro inner start stop innerSuccess
      obtain ⟨shorter, innerSuccess⟩ := below_ok.1 innerSuccess
      exact ih start.left (size ▸ shorter) innerSuccess rfl

end Minilang.Parse
