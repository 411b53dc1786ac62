import Minilang.Proofs.Likeness.Agreement

namespace Minilang.Likeness

variable {like : Likeness} {α β : Type} {bound otherBound : Nat} {view : α → β}
  {used : β → Nat}

theorem agrees_ask {question : Cursor → α}
    (same : ∀ {cursor other}, like.Like cursor other →
      view (question cursor) = view (question other)) :
    like.Agrees bound otherBound view (fun _ => 0) (Parse.ask question)
      (Parse.ask question) := by
  intro start otherStart alike
  rw [Parse.run_ask, Parse.run_ask]
  refine ⟨Nat.le_refl _, fun near => ?_⟩
  obtain ⟨cursors, _, scopes, id, scope, stands⟩ := alike.2 near
  exact .ok (same cursors) cursors (Nat.le_refl _) scopes (.refl stands)

theorem agrees_position :
    like.Agrees bound otherBound like.place (fun _ => 0)
      Parse.position Parse.position :=
  agrees_ask like.position

theorem describe_eq {cursor other : Cursor} (alike : like.Like cursor other) :
    cursor.describe = other.describe := by
  have head := like.head alike
  rw [Cursor.describe, Cursor.describe]
  cases ahead : cursor.rest <;> cases otherAhead : other.rest <;>
    simp_all

theorem describeWord_eq {cursor other : Cursor}
    (alike : like.Like cursor other) :
    cursor.describeWord = other.describeWord := by
  rw [Cursor.describeWord, Cursor.describeWord, like.word alike,
    describe_eq alike]

theorem atListEnd_eq {cursor other : Cursor} (alike : like.Like cursor other) :
    Grammar.atListEnd cursor = Grammar.atListEnd other := by
  have head := like.head alike
  unfold Grammar.atListEnd
  cases ahead : cursor.rest with
  | nil =>
      rw [ahead] at head
      rw [List.head?_eq_none_iff.1 head.symm]
  | cons c rest =>
      rw [ahead] at head
      obtain ⟨otherRest, otherAhead⟩ := List.head?_eq_some_iff.1 head.symm
      rw [otherAhead]
      by_cases brace : c = '\x7d'
      · subst brace
        rfl
      · simp [brace]

theorem atEnd_eq {cursor other : Cursor} (alike : like.Like cursor other) :
    cursor.atEnd = other.atEnd := by
  have head := like.head alike
  rw [Cursor.atEnd, Cursor.atEnd, Bool.eq_iff_iff, List.isEmpty_iff,
    List.isEmpty_iff, ← List.head?_eq_none_iff, ← List.head?_eq_none_iff, head]

theorem agrees_describe :
    like.Agrees bound otherBound id (fun _ => 0) (Parse.ask Cursor.describe)
      (Parse.ask Cursor.describe) :=
  agrees_ask describe_eq

theorem agrees_describeWord :
    like.Agrees bound otherBound id (fun _ => 0) (Parse.ask Cursor.describeWord)
      (Parse.ask Cursor.describeWord) :=
  agrees_ask describeWord_eq

theorem agrees_atListEnd :
    like.Agrees bound otherBound id (fun _ => 0) (Parse.ask Grammar.atListEnd)
      (Parse.ask Grammar.atListEnd) :=
  agrees_ask atListEnd_eq

theorem agrees_atEnd :
    like.Agrees bound otherBound id (fun _ => 0) (Parse.ask Cursor.atEnd)
      (Parse.ask Cursor.atEnd) :=
  agrees_ask atEnd_eq

theorem agrees_fail {cause : Cause} {position otherPosition : Position}
    (same : like.place position = like.place otherPosition) :
    like.Agrees bound otherBound view used (Parse.fail cause position)
      (Parse.fail cause otherPosition) := by
  intro start otherStart alike
  rw [Parse.run_fail, Parse.run_fail]
  refine ⟨Nat.le_refl _, fun near => ?_⟩
  obtain ⟨_, _, scopes, id, scope, stands⟩ := alike.2 near
  exact .rejected ⟨rfl, same⟩ scopes (.refl stands)

/-- A rejection at the place of the reading that says what is there. -/
theorem agrees_refuse {question : Cursor → String}
    (asks : like.Agrees bound otherBound id (fun _ => 0) (Parse.ask question)
      (Parse.ask question))
    (cause : String → Cause) :
    like.Agrees bound otherBound view used
      (do Parse.fail (cause (← Parse.ask question)) (← Parse.position))
      (do Parse.fail (cause (← Parse.ask question)) (← Parse.position)) := by
  refine asks.bind fun there otherThere sameText => ?_
  cases sameText
  exact agrees_position.bind fun place otherPlace samePlace =>
    agrees_fail samePlace

def found : Option α → Nat
  | none => 0
  | some _ => 1

/-- The question moves over some text when it finds something. -/
def Shortens (lexeme? : Cursor → Option (α × Cursor)) : Prop :=
  ∀ {cursor behind : Cursor} {value : α},
    lexeme? cursor = some (value, behind) →
    behind.rest.length < cursor.rest.length

/-- The shortening keeps the bounds in step when a lexeme is found. -/
theorem agrees_attempt {lexeme? : Cursor → Option (α × Cursor)}
    (finds : Cursor.FindsAlike like.Like lexeme?)
    (shortens : Shortens lexeme?) :
    like.Agrees bound otherBound id found (Parse.attempt lexeme?)
      (Parse.attempt lexeme?) := by
  intro start otherStart alike
  rw [Parse.run_attempt, Parse.run_attempt]
  constructor
  · cases ahead : lexeme? start.cursor with
    | none => exact Nat.le_refl _
    | some entry => exact shortens ahead
  · intro near
    have startNear : like.horizon ≤ start.left := by
      cases ahead : lexeme? start.cursor with
      | none =>
          rw [ahead] at near
          exact near
      | some entry =>
          rw [ahead] at near
          exact Nat.le_trans near (Nat.le_of_lt (shortens ahead))
    obtain ⟨cursors, _, scopes, current, scope, stands⟩ := alike.2 startNear
    rcases finds cursors with
      ⟨absent, otherAbsent⟩ | ⟨value, count, isAhead, ahead, otherAhead⟩
    · rw [absent, otherAbsent]
      exact .ok rfl cursors (Nat.le_refl _) scopes (.refl stands)
    · rw [ahead] at near
      rw [ahead, otherAhead]
      exact .ok rfl (like.behind cursors isAhead near) (shortens otherAhead)
        scopes (.refl stands)

theorem agrees_identifier? :
    like.Agrees bound otherBound id found (Parse.attempt Cursor.identifier?)
      (Parse.attempt Cursor.identifier?) :=
  agrees_attempt (Cursor.asksWord_identifier?.findsAlike like.word)
    Cursor.length_lt_of_identifier?

theorem agrees_type :
    like.Agrees bound otherBound id found Grammar.type Grammar.type :=
  agrees_attempt (Cursor.asksWord_type?.findsAlike like.word)
    Cursor.length_lt_of_type?

theorem agrees_formRead? :
    like.Agrees bound otherBound id found (Parse.attempt Grammar.Form.read?)
      (Parse.attempt Grammar.Form.read?) :=
  agrees_attempt (Cursor.asksWord_formRead?.findsAlike like.word)
    Cursor.length_lt_of_formRead?

theorem agrees_operator? (level : Level) :
    like.Agrees bound otherBound id found
      (Parse.attempt (Cursor.operator? level))
      (Parse.attempt (Cursor.operator? level)) :=
  agrees_attempt (Cursor.findsAlike_operator? like.symbol level)
    Cursor.length_lt_of_operator?

theorem advanceIf_eq (behind? : Cursor → Option Cursor) :
    Parse.advanceIf behind? = do
      let found ← Parse.attempt fun cursor => (behind? cursor).map (((), ·))
      return found.isSome := by
  funext parser
  change (Parse.advanceIf behind?).run parser = EStateM.run _ parser
  rw [EStateM.run_bind, Parse.run_advanceIf, Parse.run_attempt]
  cases behind? parser.cursor with
  | none => rfl
  | some behind => rfl

theorem agrees_advanceIf {behind? : Cursor → Option Cursor}
    (finds : Cursor.FindsAlike like.Like fun cursor =>
      (behind? cursor).map (((), ·)))
    (shortens : ∀ {cursor behind : Cursor}, behind? cursor = some behind →
      behind.rest.length < cursor.rest.length) :
    like.Agrees bound otherBound id Bool.toNat (Parse.advanceIf behind?)
      (Parse.advanceIf behind?) := by
  have attempt : like.Agrees bound otherBound id found
      (Parse.attempt fun cursor => (behind? cursor).map (((), ·)))
      (Parse.attempt fun cursor => (behind? cursor).map (((), ·))) := by
    refine agrees_attempt finds ?_
    intro cursor behind value ahead
    obtain ⟨there, accepted, same⟩ := Option.map_eq_some_iff.1 ahead
    cases same
    exact shortens accepted
  rw [advanceIf_eq]
  refine attempt.bind fun value otherValue same => ?_
  cases same
  cases value with
  | none => exact agrees_pure rfl rfl
  | some _ => exact agrees_pure rfl rfl

theorem agrees_accept {text : String} (isSymbol : text ∈ Token.symbols) :
    like.Agrees bound otherBound id Bool.toNat (Parse.accept text)
      (Parse.accept text) := by
  have nonempty : ∀ text ∈ Token.symbols, text ≠ "" := by decide
  exact agrees_advanceIf (Cursor.findsAlike_accept? like.symbol isSymbol)
    fun ahead => Cursor.length_lt_of_accept? ahead (nonempty text isSymbol)

theorem agrees_acceptKeyword {word : String} (isWord : Lexeme.IsWord word) :
    like.Agrees bound otherBound id Bool.toNat (Parse.acceptKeyword word)
      (Parse.acceptKeyword word) :=
  agrees_advanceIf
    (Cursor.AsksWord.findsAlike (Cursor.asksWord_keyword? isWord) like.word)
    (Cursor.length_lt_of_keyword? isWord)

theorem expect_eq (text : String) :
    Parse.expect text = (do
      if ← Parse.accept text then
        return ()
      else
        let there ← Parse.ask Cursor.describe
        let place ← Parse.position
        Parse.fail (.unexpectedToken ("`" ++ text ++ "`") there) place) := by
  funext parser
  change (Parse.expect text).run parser = EStateM.run _ parser
  rw [EStateM.run_bind, Parse.run_accept, Parse.expect, Parse.run_scan,
    Parse.run_scanExpect]
  cases parser.cursor.accept? text with
  | none => rfl
  | some behind => rfl

theorem agrees_expect {text : String} (isSymbol : text ∈ Token.symbols) :
    like.Agrees bound otherBound id (fun _ => 0) (Parse.expect text)
      (Parse.expect text) := by
  rw [expect_eq]
  apply (agrees_accept isSymbol).branch
  · exact agrees_pure rfl rfl
  · exact agrees_refuse agrees_describe _

/-- The results of a scan of one lexeme from cursors that are alike. -/
inductive ScanMatches (like : Likeness) (cursor other : Cursor) :
    EStateM.Result Diagnostic Cursor (Option α) →
      EStateM.Result Diagnostic Cursor (Option α) →
      Prop where
  | none : ScanMatches like cursor other (.ok none cursor) (.ok none other)
  | some {value : α} {count : Nat} :
      Lexeme.IsAhead count cursor.rest →
      (other.advance count).rest.length < other.rest.length →
      ScanMatches like cursor other (.ok (some value) (cursor.advance count))
        (.ok (some value) (other.advance count))
  | rejected {diagnostic otherDiagnostic : Diagnostic}
      {behind otherBehind : Cursor} :
      like.SameDiagnostic diagnostic otherDiagnostic →
      ScanMatches like cursor other (.error diagnostic behind)
        (.error otherDiagnostic otherBehind)

/-- The scan uses up no text that it does not find something in. -/
def Advances (cursor : Cursor) :
    EStateM.Result Diagnostic Cursor (Option α) → Prop
  | .ok value behind => behind.rest.length + found value ≤ cursor.rest.length
  | .error _ behind => behind.rest.length ≤ cursor.rest.length

theorem agrees_scan {step : Scan (Option α)}
    (advances : ∀ cursor, Advances cursor (step.run cursor))
    (scans : ∀ {cursor other : Cursor}, like.Like cursor other →
      like.horizon ≤ (Steps.last (step.run cursor)).rest.length →
      ScanMatches like cursor other (step.run cursor) (step.run other)) :
    like.Agrees bound otherBound id found (Parse.scan step)
      (Parse.scan step) := by
  intro start otherStart alike
  have moved := advances start.cursor
  have matched := @scans start.cursor otherStart.cursor
  rw [Parse.run_scan, Parse.run_scan]
  generalize step.run start.cursor = result at moved matched
  generalize step.run otherStart.cursor = otherResult at matched
  constructor
  · cases result with
    | ok value behind => exact moved
    | error diagnostic behind => exact moved
  · intro near
    have resultNear : like.horizon ≤ (Steps.last result).rest.length := by
      cases result with
      | ok value behind => exact near
      | error diagnostic behind => exact near
    have startNear : like.horizon ≤ start.left := by
      cases result with
      | ok value behind =>
          exact Nat.le_trans near (Nat.le_trans (Nat.le_add_right _ _) moved)
      | error diagnostic behind => exact Nat.le_trans near moved
    obtain ⟨cursors, _, scopes, current, scope, stands⟩ := alike.2 startNear
    cases matched cursors resultNear with
    | none => exact .ok rfl cursors (Nat.le_refl _) scopes (.refl stands)
    | some isAhead shorter =>
        exact .ok rfl (like.behind cursors isAhead near) shorter scopes
          (.refl stands)
    | rejected same => exact .rejected same scopes (.refl stands)

theorem agrees_number :
    like.Agrees bound otherBound id found (Parse.scan Scan.number)
      (Parse.scan Scan.number) := by
  have shorter {cursor : Cursor} {digits : String}
      (ahead : Lexeme.numeral? cursor.rest = some digits) :
      (cursor.advance digits.length).rest.length < cursor.rest.length := by
    obtain ⟨⟨c, head, _⟩, moves⟩ := Cursor.isDigit_of_numeral? ahead
    refine Cursor.length_advance_lt moves fun empty => ?_
    rw [empty] at head
    cases head
  apply agrees_scan
  · intro cursor
    rw [Cursor.run_number]
    cases ahead : Lexeme.numeral? cursor.rest with
    | none => exact Nat.le_refl _
    | some digits =>
        dsimp only
        split
        · exact Nat.le_refl _
        · exact shorter ahead
  · intro cursor other cursors _
    rw [Cursor.run_number, Cursor.run_number, ← like.numeral cursors]
    cases ahead : Lexeme.numeral? cursor.rest with
    | none => exact .none
    | some digits =>
        dsimp only
        split
        · exact .rejected ⟨rfl, like.position cursors⟩
        · refine .some (.numeral ahead) (shorter ?_)
          rw [← like.numeral cursors, ahead]

theorem agrees_string :
    like.Agrees bound otherBound id found (Parse.scan Scan.string)
      (Parse.scan Scan.string) := by
  have shorter {cursor : Cursor} {body : List Char} (count : Nat)
      (ahead : cursor.rest = '"' :: body) :
      (cursor.advance (count + 1)).rest.length < cursor.rest.length :=
    Cursor.length_advance_lt (Nat.succ_pos count)
      (by rw [ahead]; exact List.cons_ne_nil _ _)
  apply agrees_scan
  · intro cursor
    by_cases quote : cursor.rest.head? = some '"'
    · obtain ⟨body, ahead⟩ := List.head?_eq_some_iff.1 quote
      cases closed : Lexeme.stringBody? body with
      | none =>
          rw [Cursor.string_unclosed ahead closed]
          exact Nat.le_trans (Nat.le_of_eq (cursor.length_drop _))
            (Nat.sub_le _ _)
      | some pair =>
          rw [Cursor.string_closed ahead closed]
          exact shorter pair.2 ahead
    · rw [Cursor.string_none quote]
      exact Nat.le_refl _
  · intro cursor other cursors near
    by_cases quote : cursor.rest.head? = some '"'
    · obtain ⟨body, ahead⟩ := List.head?_eq_some_iff.1 quote
      obtain ⟨otherBody, otherAhead⟩ :=
        List.head?_eq_some_iff.1 ((like.head cursors).symm.trans quote)
      have rule := like.string cursors ahead otherAhead
      cases closed : Lexeme.stringBody? body with
      | none =>
          -- Nothing is left behind a string that is not closed.
          have atHorizon : like.horizon = 0 := by
            rw [Cursor.string_unclosed ahead closed] at near
            change like.horizon ≤
              (cursor.drop cursor.rest.length).rest.length at near
            rw [cursor.length_drop, Nat.sub_self] at near
            exact Nat.le_zero.1 near
          have otherClosed := (rule (Or.inl atHorizon)).symm.trans closed
          rw [Cursor.string_unclosed ahead closed,
            Cursor.string_unclosed otherAhead otherClosed]
          exact .rejected ⟨rfl, like.position cursors⟩
      | some pair =>
          obtain ⟨contents, length⟩ := pair
          have isClosed : Lexeme.stringBody? body ≠ none := by
            rw [closed]
            exact Option.some_ne_none _
          have otherClosed := (rule (Or.inr isClosed)).symm.trans closed
          rw [Cursor.string_closed ahead closed,
            Cursor.string_closed otherAhead otherClosed]
          refine .some ?_ (shorter length otherAhead)
          rw [ahead]
          exact .string closed
    · have otherQuote : other.rest.head? ≠ some '"' := by
        rw [← like.head cursors]
        exact quote
      rw [Cursor.string_none quote, Cursor.string_none otherQuote]
      exact .none

end Minilang.Likeness
