import Mathlib.Data.Prod.Lex
import Mathlib.Order.WellFounded
import Minilang.Proofs.Recursion.Unguarded
import Minilang.Proofs.Soundness.Compiled

/-!
# The grammar ends on every text

A routine calls others at a shorter text, or at the same text if they are of
lower rank. So the calls are well founded (`wellFounded_calls`), and the plain
recursion, in which no text is measured, comes to its outcome within so many
nested calls for each character that is left (`settlesAt_within`). The main
statement, `Program.parse_returns`, puts this together with the lemmas by which
each node that is read shortens the text.
-/

namespace Minilang

namespace Grammar

open Parse Steps

variable {α : Type} {bound : Nat} {start stop : Parser}

theorem left_lt_of_statement_ok {node : Node}
    (read : statement.run start = .ok (some node) stop) :
    stop.left < start.left :=
  shortens_of_readsClause (statement_ok.1 read)

theorem left_lt_of_level_ok {tightness : Level} {node : Node}
    (read : (level tightness).run start = .ok node stop) :
    stop.left < start.left :=
  shortens_of_reads
    (reads_level (fun _ _ _ => reads_of_expression_ok) tightness read)

theorem left_lt_of_component_ok {node : Node}
    (read : component.run start = .ok node stop) :
    stop.left < start.left :=
  shortens_of_reads (reads_component (fun _ _ _ => reads_of_expression_ok) read)

theorem left_lt_of_primary_ok {node : Node}
    (read : primary.run start = .ok node stop) :
    stop.left < start.left :=
  shortens_of_reads (reads_primary (fun _ _ _ => reads_of_expression_ok) read)

theorem left_lt_of_block_ok {node : Node}
    (read : block.run start = .ok node stop) :
    stop.left < start.left :=
  shortens_of_readsClause
    (reads_block (fun _ _ _ => reads_of_statementList_ok) read)

/-- Every round of a repetition shortens the text. -/
theorem Loop.left_lt_of_round_ok (loop : Loop α) {value : α}
    (found : loop.round.run start = .ok (some value) stop) :
    stop.left < start.left := by
  have within : start.left < start.left + 1 := Nat.lt_succ_self _
  cases loop with
  | statements => exact left_lt_of_statement_ok found
  | links tightness =>
      have operands : Settles (start.left + 1) (operandOf expression tightness)
          (operandOf expression tightness) :=
        settles_operandOf settles_expression tightness
      exact shortens_link operands tightness start value stop within found
  | arguments =>
      exact shortens_afterComma settles_expression start value stop within found
  | parameters =>
      exact shortens_afterComma settles_expectParameter start value
        stop within found

namespace Routine

/-- The rank of the routine. At the same text it calls routines of lower rank
only: the tighter a level of operators, the lower it is. -/
def rank : Routine α → Nat
  | .named .. | .block | .loop .arguments | .loop .parameters => 0
  | .primary | .parameters => 1
  | .component | .function .. => 2
  | .loop (.links tightness) => 2 * tightness.height + 3
  | .level tightness => 2 * tightness.height + 4
  | .expression => 11
  | .form .. | .declaration .. => 12
  | .statement => 13
  | .loop .statements => 14
  | .statementList => 15

theorem rank_lt (routine : Routine α) : routine.rank < 16 := by
  cases routine with
  | level tightness => cases tightness <;> decide
  | loop kind =>
      cases kind with
      | links tightness => cases tightness <;> decide
      | _ => decide
  | _ => simp [rank]

theorem rank_operand_lt (tightness : Level) :
    (operand tightness).rank < (Routine.loop (.links tightness)).rank := by
  cases tightness <;> decide

/-- A routine settles if the routines that it calls do: all of them at shorter
texts, and those of lower rank at the same text. -/
theorem settles_body {call : {β : Type} → Routine β → Parse β}
    (routine : Routine α)
    (shorter : ∀ {β : Type} (callee : Routine β),
      Settles bound callee.step (call callee))
    (lower : ∀ {β : Type} (callee : Routine β), callee.rank < routine.rank →
      Settles (bound + 1) callee.step (call callee)) :
    Settles (bound + 1) routine.step (routine.body call) := by
  cases routine with
  | statementList =>
      have items := settles_listWith (lower (.loop .statements) (by decide))
      intro start within
      exact (items start within).congr
        (settlesAt_statementList start).same.symm rfl
  | statement =>
      exact settles_statementWith (lower .expression (by decide))
        (fun kind place => lower (.form kind place) (by simp [rank]))
        (fun type place => lower (.declaration type place) (by simp [rank]))
  | block => exact settles_blockOf (shorter .statementList)
  | form kind place =>
      have block := lower .block (by simp [rank])
      rw [step, eq_formWith]
      exact settles_formWith (lower .expression (by simp [rank]))
        block kind place
  | declaration type place =>
      exact settles_declarationWith (lower .expression
        (by simp [rank])) (fun name => lower (.function type name
        place) (by simp [rank])) type place
  | function returnType name place =>
      exact settles_functionWith (shorter .statementList) (lower .parameters
        (by simp [rank])) returnType name place
  | parameters =>
      exact settles_parametersWith (lower (.loop .parameters) (by decide))
  | expression =>
      have chain := lower (.level .comparison) (by decide)
      intro start within
      exact (chain start within).congr
        (settlesAt_expression start).same.symm rfl
  | level tightness =>
      have operands := lower (operand tightness)
        (Nat.lt_trans (rank_operand_lt tightness) (Nat.lt_succ_self _))
      rw [step_operand] at operands
      have links := lower (.loop (.links tightness)) (Nat.lt_succ_self _)
      rw [step, Grammar.level, levelOf_eq, eq_chainWith]
      exact settles_chainWith operands links
  | component => exact settles_componentWith (lower .primary (by decide))
  | primary =>
      exact settles_primaryWith (fun name place => lower (.named name place)
        (by simp [rank])) (shorter .expression)
  | named name place =>
      exact settles_nameWith (shorter .expression)
        (shorter (.loop .arguments)) name place
  | loop kind =>
      have round : Settles (bound + 1) kind.round (kind.body call) := by
        cases kind with
        | statements => exact lower .statement (by decide)
        | links tightness =>
            have operands :=
              lower (operand tightness) (rank_operand_lt tightness)
            rw [step_operand] at operands
            exact settles_link operands tightness
        | arguments => exact settles_afterComma (shorter .expression)
        | parameters => exact settles_afterComma settles_expectParameter
      exact settles_again round (fun _ _ _ _ found => kind.left_lt_of_round_ok
        found) (shorter (.loop kind))

/-- The routine by plain recursion, with no more than so many calls inside one
another. The call that is one too many stalls. -/
def within : Nat → {α : Type} → Routine α → Parse α
  | 0, _, _ => fun start => .error (.fault .stalled) start
  | depth + 1, _, routine => routine.body (within depth)

/-- Sixteen nested calls for each character that is left, and so many more as
the rank says, are enough for the outcome. The induction is on the calls that
are allowed. -/
theorem settlesAt_within {depth : Nat} (routine : Routine α)
    (deep : 16 * start.left + routine.rank < depth) :
    SettlesAt routine.step (routine.within depth) start := by
  induction depth generalizing α start with
  | zero => exact absurd deep (Nat.not_lt_zero _)
  | succ depth inductionHypothesis =>
      refine settles_body routine ?_ ?_ start (Nat.lt_succ_self _)
      · intro β callee later shorter
        have lowest := callee.rank_lt
        exact inductionHypothesis callee (by omega)
      · intro β callee lower later within
        exact inductionHypothesis callee (by omega)

/-- From every state each routine comes to an outcome. -/
theorem settlesAt_step (routine : Routine α) (start : Parser) :
    SettlesAt routine.step routine.step start :=
  (settlesAt_within routine (Nat.lt_succ_self _)).self

end Routine

/-! ## Calls -/

/-- A routine with the state from which it is taken. -/
structure Invocation where
  {α : Type}
  routine : Routine α
  state : Parser

namespace Invocation

/-- The caller comes to another outcome with other steps in place of the
routines, although these differ from the routines at the callee only. As no
failure is caught, a step that fails there tells whether the callee is
invoked. -/
def Calls (caller callee : Invocation) : Prop :=
  ∃ call : {β : Type} → Routine β → Parse β,
    (∀ {β : Type} (routine : Routine β) (state : Parser),
      ⟨routine, state⟩ ≠ callee →
      (call routine).run state = routine.step.run state) ∧
    (caller.routine.body call).run caller.state ≠
      caller.routine.step.run caller.state

/-- The number of characters that are left, and then the rank of the routine. -/
def measure (invocation : Invocation) : Nat × Nat :=
  (invocation.state.left, invocation.routine.rank)

/-- A call at the same text is one of lower rank. -/
theorem measure_lt_of_calls {caller callee : Invocation}
    (calls : caller.Calls callee) :
    Prod.Lex (· < ·) (· < ·) callee.measure caller.measure := by
  by_contra notSmaller
  obtain ⟨call, elsewhere, different⟩ := calls
  have settles {β : Type} (routine : Routine β) (state : Parser)
      (smaller : Prod.Lex (· < ·) (· < ·) (state.left,
        routine.rank) caller.measure) :
      SettlesAt routine.step (call routine) state := by
    refine (routine.settlesAt_step state).congr rfl (elsewhere routine state ?_)
    rintro rfl
    exact notSmaller smaller
  refine different (Routine.settles_body caller.routine ?_ ?_ caller.state
    (Nat.lt_succ_self _)).same
  · intro β routine state shorter
    exact settles routine state (.left _ _ shorter)
  · intro β routine lower state within
    refine settles routine state (Prod.lex_iff.2 ?_)
    rcases Nat.lt_or_eq_of_le (Nat.le_of_lt_succ within) with shorter | same
    · exact .inl shorter
    · exact .inr ⟨same, lower⟩

/-- The calls decrease the pair of the text that is left and the rank, in this
order. -/
theorem wellFounded_calls : WellFounded fun callee caller :
    Invocation => caller.Calls callee :=
  Subrelation.wf measure_lt_of_calls
    (InvImage.wf measure (Nat.lt_wfRel.wf.prod_lex Nat.lt_wfRel.wf))

/-- An expression calls its loosest level. -/
theorem calls_level (state : Parser) :
    Calls ⟨.expression, state⟩ ⟨.level .comparison, state⟩ := by
  classical
  refine ⟨fun routine later =>
    if (⟨routine, later⟩ : Invocation) = ⟨.level .comparison, state⟩ then
      .error (.fault .stalled) later
    else routine.step.run later, ?_, ?_⟩
  · intro β routine later different
    exact if_neg different
  · intro same
    have stalls := same.symm.trans (if_pos rfl)
    exact (Routine.expression.settlesAt_step state).moves state stalls

end Invocation

end Grammar

namespace Program

open Grammar Steps

theorem left_start_le (source file : String) :
    (Parser.start source file).left ≤ source.length := by
  obtain ⟨text, split, _⟩ := (isSound_start source file).reaches.split
  have whole : (Cursor.origin source file).rest.length ≤ source.length := by
    rw [Cursor.rest_origin, ← String.length_toList]
    exact List.length_filter_le _ _
  rw [← split, List.length_append] at whole
  exact Nat.le_trans (Nat.le_add_left _ _) whole

/-- Reading ends on every text. From every state, each statement that is found
and each chain, component, primary expression and block that is read leaves a
shorter text, and so does each round of a repetition that finds something. Calls
lead to shorter texts, or to routines of lower rank at the same text, and are
well founded. So the plain recursion, which measures no text, comes to the
outcome of each routine with no more nested calls than sixteen for each
character and the rank, and does not stall. Each source is read, or it is
rejected with a diagnostic. -/
theorem parse_returns :
    ((∀ start node stop, statement.run start = .ok (some node) stop →
      stop.left < start.left) ∧
      (∀ tightness start node stop,
        (level tightness).run start = .ok node stop →
        stop.left < start.left) ∧
      (∀ start node stop, component.run start = .ok node stop →
        stop.left < start.left) ∧
      (∀ start node stop, primary.run start = .ok node stop →
        stop.left < start.left) ∧
      ∀ start node stop, block.run start = .ok node stop →
        stop.left < start.left) ∧
    (∀ {α : Type} (loop : Loop α) (start : Parser) (value : α) (stop : Parser),
      loop.round.run start = .ok (some value) stop → stop.left < start.left) ∧
    ((∀ caller callee : Invocation, caller.Calls callee →
        Prod.Lex (· < ·) (· < ·) callee.measure caller.measure) ∧
      WellFounded fun callee caller : Invocation => caller.Calls callee) ∧
    (∀ {α : Type} (routine : Routine α) (start : Parser) (depth : Nat),
      16 * start.left + routine.rank < depth →
        (routine.within depth).run start = routine.step.run start ∧
          ∀ stop, routine.step.run start ≠ .error (.fault .stalled) stop) ∧
    ∀ source file : String,
      (Routine.statementList.within (16 * source.length + 16)).run
          (.start source file) =
          statementList.run (.start source file) ∧
        ((∃ program, parse source file = .ok program) ∨
          ∃ diagnostic, parse source file =
            .error (.diagnostic diagnostic)) := by
  refine ⟨⟨?_, ?_, ?_, ?_, ?_⟩, ?_, ⟨?_, Invocation.wellFounded_calls⟩, ?_, ?_⟩
  · exact fun _ _ _ => left_lt_of_statement_ok
  · exact fun _ _ _ _ => left_lt_of_level_ok
  · exact fun _ _ _ => left_lt_of_component_ok
  · exact fun _ _ _ => left_lt_of_primary_ok
  · exact fun _ _ _ => left_lt_of_block_ok
  · exact fun loop _ _ _ => loop.left_lt_of_round_ok
  · exact fun _ _ => Invocation.measure_lt_of_calls
  · intro α routine start depth deep
    have settles := routine.settlesAt_within deep
    exact ⟨settles.same, settles.moves⟩
  · intro source file
    have few := left_start_le source file
    have lowest := Routine.statementList.rank_lt
    have deep : 16 * (Parser.start source file).left +
        Routine.statementList.rank <
        16 * source.length + 16 := by
      omega
    refine ⟨(Routine.statementList.settlesAt_within deep).same, ?_⟩
    cases result : parse source file with
    | ok program => exact .inl ⟨program, rfl⟩
    | error failure =>
        cases failure with
        | diagnostic diagnostic => exact .inr ⟨diagnostic, rfl⟩
        | fault fault => exact absurd result (parse_ne_fault fault)

/-- A call with a cast, behind which there are a brace that closes nothing, a
reserved word and a character of no lexeme. -/
def unreadable : String :=
  "f(a ^ 2, <int> 1.5) \x7d while §"

theorem parse_returns_unreadable :
    (∃ node stop, statement.run (.start unreadable "f.code") =
      .ok (some node) stop ∧
      stop.left < (Parser.start unreadable "f.code").left) ∧
    (∃ node stop, (level .exponent).run (.start unreadable "f.code") =
      .ok node stop ∧
      stop.left < (Parser.start unreadable "f.code").left) ∧
    (∃ node stop, component.run (.start unreadable "f.code") = .ok node stop ∧
      stop.left < (Parser.start unreadable "f.code").left) ∧
    (∃ node stop, primary.run (.start unreadable "f.code") = .ok node stop ∧
      stop.left < (Parser.start unreadable "f.code").left) ∧
    (∃ node stop, block.run (.start "\x7b print 1 \x7d \x7d" "f.code") =
      .ok node stop ∧
      stop.left < (Parser.start "\x7b print 1 \x7d \x7d" "f.code").left) ∧
    (∃ link stop, (Loop.links .exponent).round.run
        (.start "^ 2 while" "f.code") =
        .ok (some link) stop ∧
      stop.left < (Parser.start "^ 2 while" "f.code").left) ∧
    (Invocation.Calls ⟨.expression, .start unreadable "f.code"⟩
        ⟨.level .comparison, .start unreadable "f.code"⟩ ∧
      Prod.Lex (· < ·) (· < ·)
        (Invocation.measure ⟨.level .comparison, .start unreadable "f.code"⟩)
        (Invocation.measure ⟨.expression, .start unreadable "f.code"⟩)) ∧
    (16 * (Parser.start unreadable "f.code").left +
      Routine.statement.rank < 500 ∧
      (Routine.statement.within 500).run (.start unreadable "f.code") =
        statement.run (.start unreadable "f.code")) ∧
    ∃ diagnostic, parse unreadable "f.code" =
      .error (.diagnostic diagnostic) := by
  obtain ⟨⟨statements, levels, components, primaries, blocks⟩, rounds,
    ⟨lower, _⟩, plain, ends⟩ :=
    parse_returns
  have deep : 16 * (Parser.start unreadable "f.code").left +
      Routine.statement.rank < 500 := by
    decide +kernel
  have calls := Invocation.calls_level (.start unreadable "f.code")
  have read {α : Type} {step : Parse α} {start : Parser}
      (success : succeeded (step.run start) = true)
      (shortens : ∀ value stop, step.run start = .ok value stop →
        stop.left < start.left) :
      ∃ value stop, step.run start = .ok value stop ∧
        stop.left < start.left := by
    obtain ⟨value, stop, result⟩ := exists_ok_of_succeeded success
    exact ⟨value, stop, result, shortens value stop result⟩
  have found {α : Type} {step : Parse (Option α)} {start : Parser}
      (success : yields Option.isSome (step.run start) = true)
      (shortens : ∀ value stop, step.run start = .ok (some value) stop →
        stop.left < start.left) :
      ∃ value stop, step.run start = .ok (some value) stop ∧
        stop.left < start.left := by
    obtain ⟨_, stop, result, isSome⟩ := exists_ok_of_yields success
    obtain ⟨value, rfl⟩ := Option.isSome_iff_exists.1 isSome
    exact ⟨value, stop, result, shortens value stop result⟩
  have rejected : (parse unreadable "f.code").isOk = false := by decide +kernel
  refine ⟨found (by decide +kernel) (statements _),
    read (by decide +kernel) (levels _ _),
    read (by decide +kernel) (components _),
    read (by decide +kernel) (primaries _), read (by decide +kernel) (blocks _),
    found (by decide +kernel) (rounds _ _), ⟨calls, lower _ _ calls⟩,
    ⟨deep, (plain Routine.statement _ 500 deep).1⟩, ?_⟩
  rcases (ends unreadable "f.code").2 with ⟨program, success⟩ | diagnosed
  · rw [success] at rejected
    cases rejected
  · exact diagnosed

end Program

end Minilang
