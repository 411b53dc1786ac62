import Minilang.Proofs.Discipline.Leads
import Minilang.Proofs.Likeness.Steps

/-!
# Steps that settle

A step settles within a bound if from shorter texts it comes to an outcome
without stalling and without going back in the text. `Settles` compares it with
another step, which has to come to the same outcome. The relation is carried
through sequences, scopes and repetitions. A repetition that shortens the text
in every round settles as the plain loop does, which tests nothing
(`settles_again`), and a step that uses itself settles as the plain recursion
does (`settlesAt_recur`).
-/

namespace Minilang

namespace Scopes

variable {scopes : Scopes} {α : Type}

theorem current_get_ne_stalled {answer : ScopeId → Scope → Except Fault α}
    (moves : ∀ id scope, answer id scope ≠ .error .stalled) :
    (do
      let id ← scopes.current
      let scope ← scopes.get id
      answer id scope) ≠ .error .stalled := by
  cases current : scopes.path with
  | nil =>
      have none : scopes.current = .error .noOpenScope := by
        rw [Scopes.current, current]
      rw [none]
      intro same
      cases same
  | cons id outer =>
      have some : scopes.current = .ok id := by rw [Scopes.current, current]
      rw [some]
      change (scopes.get id).bind _ ≠ _
      cases found : scopes.all[id]? with
      | none =>
          rw [get, found]
          intro same
          cases same
      | some scope =>
          rw [get, found]
          exact moves id scope

theorem enter_ne_stalled : scopes.enter ≠ .error .stalled :=
  current_get_ne_stalled fun _ _ => nofun

theorem declare?_ne_stalled {name : String} {type : DataType} :
    scopes.declare? name type ≠ .error .stalled :=
  current_get_ne_stalled fun _ _ => nofun

theorem bind_ne_stalled {name : String} {signature : Signature} :
    scopes.bind name signature ≠ .error .stalled :=
  current_get_ne_stalled fun _ _ => nofun

theorem exit_ne_stalled : scopes.exit ≠ .error .stalled := by
  rw [exit]
  split
  · intro same
    cases same
  · intro same
    cases same

end Scopes

theorem Parser.Remains.left_le {start stop : Parser}
    (remains : start.Remains stop) :
    stop.left ≤ start.left := by
  obtain ⟨text, split, _⟩ := remains.reaches.split
  rw [Parser.left, Parser.left, ← split, List.length_append]
  exact Nat.le_add_left _ _

namespace Parse

open Steps Minilang.Parser

variable {α β : Type} {bound : Nat} {start : Parser}

/-- From the state the step comes to an outcome without stalling and without
going back in the text, and the other step comes to the same outcome. -/
structure SettlesAt (step other : Parse α) (start : Parser) : Prop where
  same : other.run start = step.run start
  left_le : (last (step.run start)).left ≤ start.left
  moves : ∀ stop, step.run start ≠ .error (.fault .stalled) stop

/-- The step and the other one settle alike from the states in which fewer
characters are left than the bound says. -/
def Settles (bound : Nat) (step other : Parse α) : Prop :=
  ∀ start, start.left < bound → SettlesAt step other start

variable {step other : Parse α}

theorem SettlesAt.self (settles : SettlesAt step other start) :
    SettlesAt step step start :=
  ⟨rfl, settles.left_le, settles.moves⟩

theorem Settles.mono {smaller : Nat} (settles : Settles bound step other)
    (within : smaller ≤ bound) : Settles smaller step other :=
  fun start shorter => settles start (Nat.lt_of_lt_of_le shorter within)

theorem SettlesAt.left_le_of_ok (settles : SettlesAt step other start)
    {value : α} {middle : Parser}
    (success : step.run start = .ok value middle) :
    middle.left ≤ start.left := by
  have shrinks := settles.left_le
  rw [success] at shrinks
  exact shrinks

/-- What follows is asked about only at the states to which the first step
really leads. -/
theorem SettlesAt.bind {next otherNext : α → Parse β}
    (first : SettlesAt step other start)
    (rest : ∀ value middle, step.run start = .ok value middle →
      SettlesAt (next value) (otherNext value) middle) :
    SettlesAt (step >>= next) (other >>= otherNext) start := by
  have shrinks := first.left_le
  have moves := first.moves
  cases result : step.run start with
  | ok value middle =>
      have further := rest value middle result
      have goesOn : (step >>= next).run start = (next value).run middle := by
        rw [EStateM.run_bind, result]
      have otherGoesOn :
          (other >>= otherNext).run start = (otherNext value).run middle := by
        rw [EStateM.run_bind, first.same, result]
      refine ⟨?_, ?_, ?_⟩
      · rw [goesOn, otherGoesOn, further.same]
      · rw [goesOn]
        exact Nat.le_trans further.left_le (first.left_le_of_ok result)
      · rw [goesOn]
        exact further.moves
  | error failure stop =>
      rw [result] at shrinks moves
      have fails : (step >>= next).run start = .error failure stop := by
        rw [EStateM.run_bind, result]
      have otherFails :
          (other >>= otherNext).run start = .error failure stop := by
        rw [EStateM.run_bind, first.same, result]
      refine ⟨?_, ?_, ?_⟩
      · rw [fails, otherFails]
      · rw [fails]
        exact shrinks
      · intro other same
        rw [fails] at same
        cases same
        exact moves stop rfl

theorem Settles.bind {next otherNext : α → Parse β}
    (first : Settles bound step other)
    (rest : ∀ value, Settles bound (next value) (otherNext value)) :
    Settles bound (step >>= next) (other >>= otherNext) :=
  fun start within => (first start within).bind fun value middle success =>
    rest value middle
      (Nat.lt_of_le_of_lt ((first start within).left_le_of_ok success) within)

/-- A step that has come to a value has left a shorter text to the next one. -/
theorem Settles.onward {next otherNext : α → Parse β}
    (first : Settles (bound + 1) step other)
    (shortens : ∀ start value stop, step.run start = .ok value stop →
      stop.left < start.left)
    (rest : ∀ value, Settles bound (next value) (otherNext value)) :
    Settles (bound + 1) (step >>= next) (other >>= otherNext) :=
  fun start within => (first start within).bind fun value middle success =>
    rest value middle (Nat.lt_of_lt_of_le (shortens start value middle success)
      (Nat.le_of_lt_succ within))

theorem settles_of_leads (leads : Leads Remains step)
    (moves : ∀ start stop, step.run start ≠ .error (.fault .stalled) stop) :
    Settles bound step step :=
  fun start _ => ⟨rfl, (leads start).left_le, moves start⟩

theorem settles_pure (value : α) : Settles bound (pure value) (pure value) :=
  settles_of_leads (leads_pure value) fun _ _ => nofun

theorem settles_fail (cause : Cause) (place : Position) :
    Settles bound (fail cause place : Parse α) (fail cause place) :=
  settles_of_leads (leads_fail cause place).returns.remains fun _ _ => nofun

theorem settles_ask (question : Cursor → α) :
    Settles bound (ask question) (ask question) :=
  settles_of_leads (leads_ask question).returns.remains fun _ _ => nofun

theorem settles_position : Settles bound position position :=
  settles_ask Cursor.position

theorem settles_attempt {lexeme? : Cursor → Option (α × Cursor)}
    (moves : Cursor.Moves lexeme?) :
    Settles bound (attempt lexeme?) (attempt lexeme?) := by
  refine settles_of_leads (leads_attempt moves).returns.remains
    fun start stop => ?_
  rw [run_attempt]
  cases lexeme? start.cursor <;> nofun

theorem advanceIf_ne_stalled (behind? : Cursor → Option Cursor)
    (start stop : Parser) :
    (advanceIf behind?).run start ≠ .error (.fault .stalled) stop := by
  rw [run_advanceIf]
  cases behind? start.cursor <;> nofun

theorem settles_accept (text : String) :
    Settles bound (accept text) (accept text) :=
  settles_of_leads (leads_accept text).returns.remains (advanceIf_ne_stalled _)

theorem settles_acceptKeyword (word : String) :
    Settles bound (acceptKeyword word) (acceptKeyword word) :=
  settles_of_leads (leads_acceptKeyword word).returns.remains
    (advanceIf_ne_stalled _)

theorem settles_scan {step : Scan α}
    (reaches : ∀ cursor : Cursor, cursor.Reaches (last (step.run cursor))) :
    Settles bound (scan step) (scan step) := by
  refine settles_of_leads (leads_scan reaches).returns.remains
    fun start stop => ?_
  rw [run_scan]
  cases step.run start.cursor <;> nofun

theorem settles_expect (text : String) :
    Settles bound (expect text) (expect text) :=
  settles_scan fun cursor => (cursor.staysOrAdvances_expect text).reaches

/-- Behind a text that was there less is left. -/
theorem Settles.branch {text : String} (nonempty : text ≠ "")
    {yes otherYes no otherNo : Parse α}
    (whenYes : Settles bound yes otherYes)
    (whenNo : Settles (bound + 1) no otherNo) :
    Settles (bound + 1)
      (accept text >>= fun answer => if answer then yes else no)
      (accept text >>= fun answer => if answer then otherYes else otherNo) := by
  intro start within
  refine (settles_accept text start within).bind fun answer middle asked => ?_
  rcases accept_ok.1 asked with ⟨_, rfl, rfl⟩ | ⟨behind, found, rfl, rfl⟩
  · exact whenNo start within
  · have shorter := Cursor.length_lt_of_accept? found nonempty
    exact whenYes _ (Nat.lt_of_lt_of_le shorter (Nat.le_of_lt_succ within))

/-- Behind a text that must be there less is left. -/
theorem Settles.behind {text : String} (nonempty : text ≠ "")
    {next otherNext : Unit → Parse α}
    (rest : Settles bound (next ()) (otherNext ())) :
    Settles (bound + 1) (expect text >>= next) (expect text >>= otherNext) := by
  refine (settles_expect text).onward (fun start _ stop success => ?_)
    fun _ => rest
  obtain ⟨behind, found, rfl⟩ := expect_ok.1 success
  exact Cursor.length_lt_of_accept? found nonempty

theorem settles_currentScope : Settles bound currentScope currentScope := by
  refine settles_of_leads leads_currentScope.returns.remains
    fun start stop => ?_
  rw [run_currentScope, Scopes.current]
  intro same
  cases path : start.scopes.path with
  | nil =>
      rw [path] at same
      cases same
  | cons id outer =>
      rw [path] at same
      cases same

theorem settles_declare (name : String) (type : DataType) (place : Position) :
    Settles bound (declare name type place) (declare name type place) := by
  refine settles_of_leads (leads_declare name type place) fun start stop => ?_
  rw [run_declare]
  rcases declares : start.scopes.declare? name type with fault | _ | scopes
  · intro same
    cases same
    exact Scopes.declare?_ne_stalled declares
  · nofun
  · nofun

theorem changeScopes_ne_stalled {change : Scopes → Except Fault Scopes}
    (moves : ∀ scopes, change scopes ≠ .error .stalled) (start stop : Parser) :
    (changeScopes change).run start ≠ .error (.fault .stalled) stop := by
  rw [run_changeScopes]
  cases changes : change start.scopes with
  | ok scopes => nofun
  | error fault =>
      intro same
      cases same
      exact moves start.scopes changes

theorem settles_bind (name : String) (signature : Signature) :
    Settles bound (changeScopes (·.bind name signature))
      (changeScopes (·.bind name signature)) :=
  settles_of_leads (leads_bind name signature)
    (changeScopes_ne_stalled fun _ => Scopes.bind_ne_stalled)

/-- Leaving a scope does not stall, and what comes behind may not either. -/
theorem exit_seqRight_ne_stalled {next : Parse α}
    (moves : ∀ outer stop, next.run outer ≠ .error (.fault .stalled) stop)
    (start stop : Parser) :
    (changeScopes Scopes.exit *> next).run start ≠
      .error (.fault .stalled) stop := by
  rw [seqRight_eq_bind, EStateM.run_bind]
  cases exits : (changeScopes Scopes.exit).run start with
  | ok done outer => exact moves outer stop
  | error failure outer =>
      intro same
      cases same
      exact changeScopes_ne_stalled (fun _ => Scopes.exit_ne_stalled)
        start stop exits

theorem leave_ne_stalled {result : EStateM.Result Failure Parser α}
    (moves : ∀ stop, result ≠ .error (.fault .stalled) stop) (stop : Parser) :
    Likeness.leave result ≠ .error (.fault .stalled) stop := by
  cases result with
  | ok value later =>
      refine exit_seqRight_ne_stalled (fun outer last same => ?_) later stop
      cases same
  | error failure later =>
      refine exit_seqRight_ne_stalled (fun outer last same => ?_) later stop
      cases same
      exact moves later rfl

/-- A scope can be left whatever the step inside has come to. -/
theorem Settles.inScope (inside : Settles bound step other) :
    Settles bound (inScope step) (inScope other) := by
  intro start within
  cases enters : start.scopes.enter with
  | error fault =>
      have fails (step : Parse α) :
          (Parse.inScope step).run start = .error (.fault fault) start := by
        rw [Likeness.run_inScope_eq, enters]
      refine ⟨?_, ?_, ?_⟩
      · rw [fails, fails]
      · rw [fails]
        exact Nat.le_refl _
      · rw [fails]
        intro stop same
        cases same
        exact Scopes.enter_ne_stalled enters
  | ok inner =>
      have leaves (step : Parse α) : (Parse.inScope step).run start =
          Likeness.leave (step.run { start with scopes := inner }) := by
        rw [Likeness.run_inScope_eq, enters]
      have settles := inside { start with scopes := inner } within
      refine ⟨?_, ?_, ?_⟩
      · rw [leaves, leaves, settles.same]
      · rw [leaves, last_leave]
        have shrinks := settles.left_le
        cases (last (step.run { start with scopes := inner })).scopes.exit <;>
          exact shrinks
      · rw [leaves]
        exact leave_ne_stalled settles.moves

/-- Steps that come to the same outcomes settle alike. -/
theorem SettlesAt.congr {first second : Parse α}
    (settles : SettlesAt step other start)
    (run : first.run start = step.run start)
    (otherRun : second.run start = other.run start) :
    SettlesAt first second start := by
  refine ⟨?_, ?_, ?_⟩
  · rw [run, otherRun, settles.same]
  · rw [run]
    exact settles.left_le
  · rw [run]
    exact settles.moves

theorem run_below_of_lt {limit : Nat} (shorter : start.left < limit)
    (step : Parse α) :
    (below limit step).run start = step.run start := by
  rw [run_below, if_pos shorter]

theorem settles_below (settles : Settles bound step step) :
    Settles bound (below bound step) step :=
  fun start shorter =>
    (settles start shorter).congr (run_below_of_lt shorter step) rfl

/-- A loop without a guard: one round and, behind what it has found, the rest of
the loop. -/
def again (round : Parse (Option α))
    (rest : Parse (List α)) : Parse (List α) := do
  match ← round with
  | none => return []
  | some value =>
      let values ← rest
      return value :: values

theorem run_many_again (round : Parse (Option α)) (start : Parser) :
    (many round).run start =
      (again round (below start.left (many round))).run start :=
  Likeness.run_many_eq round start

/-- A round that shortens the text is followed by the rest of the loop at a
smaller bound. -/
theorem settlesAt_many {round otherRound : Parse (Option α)}
    {rest : Parse (List α)} (first : SettlesAt round otherRound start)
    (others : ∀ value middle, round.run start = .ok (some value) middle →
      middle.left < start.left ∧ SettlesAt (many round) rest middle) :
    SettlesAt (many round) (again otherRound rest) start := by
  have guarded : SettlesAt (again round (below start.left (many round)))
      (again otherRound rest) start := by
    refine first.bind fun found middle success => ?_
    cases found with
    | none => exact settles_pure [] middle (Nat.lt_succ_self _)
    | some value =>
        obtain ⟨shorter, settles⟩ := others value middle success
        have inner := settles.congr (run_below_of_lt shorter (many round)) rfl
        exact inner.bind fun values last _ =>
          settles_pure (value :: values) last (Nat.lt_succ_self _)
  exact guarded.congr (run_many_again round start) rfl

/-- The rounds shorten the text wherever fewer characters are left than the
bound says. -/
def Shortens (bound : Nat) (round : Parse (Option α)) : Prop :=
  ∀ start value stop, start.left < bound →
    round.run start = .ok (some value) stop →
    stop.left < start.left

/-- Where every round shortens the text, the guard of a repetition makes no
difference. -/
theorem settles_again {round otherRound : Parse (Option α)}
    {rest : Parse (List α)} (first : Settles (bound + 1) round otherRound)
    (shortens : Shortens (bound + 1) round)
    (others : Settles bound (many round) rest) :
    Settles (bound + 1) (many round) (again otherRound rest) := by
  intro start within
  refine settlesAt_many (first start within) fun value middle found => ?_
  have shorter := shortens start value middle within found
  exact ⟨shorter,
    others middle (Nat.lt_of_lt_of_le shorter (Nat.le_of_lt_succ within))⟩

theorem settles_many {round otherRound : Parse (Option α)}
    (first : Settles bound round otherRound) (shortens : Shortens bound round) :
    Settles bound (many round) (many otherRound) := by
  intro start within
  induction size : start.left using Nat.strongRecOn generalizing start with
  | ind length inductionHypothesis =>
      subst size
      have loop : SettlesAt (many round)
          (again otherRound (below start.left (many otherRound)))
          start := by
        refine settlesAt_many (first start within) fun value middle found => ?_
        have shorter := shortens start value middle within found
        have settles := inductionHypothesis middle.left shorter middle
          (Nat.lt_trans shorter within) rfl
        exact ⟨shorter,
          settles.congr rfl (run_below_of_lt shorter (many otherRound))⟩
      exact loop.congr rfl (run_many_again otherRound start)

/-- A step that uses itself settles as the plain recursion does, if within each
bound its inner uses need not be guarded. -/
theorem settlesAt_recur {step : Parse α → Parse α}
    (unguarded : ∀ bound,
      Settles bound (below bound (recur step)) (recur step) →
      Settles (bound + 1) (step (below bound (recur step))) (step (recur step)))
    (start : Parser) : SettlesAt (recur step) (step (recur step)) start := by
  induction size : start.left using Nat.strongRecOn generalizing start with
  | ind length inductionHypothesis =>
      subst size
      have shorter : Settles start.left (recur step) (recur step) :=
        fun later shorter =>
          (inductionHypothesis later.left shorter later rfl).self
      have settles :=
        unguarded start.left (settles_below shorter) start (Nat.lt_succ_self _)
      exact settles.congr (run_recur step start) rfl

end Parse

end Minilang
