import Minilang.Proofs.Rejection.Failing
import Minilang.Proofs.Rejection.Refusals

/-!
# How expressions are refused

From a cursor that rests, each step that reads a part of an expression is
rejected in one of the ways that are listed as refusals. The steps that read an
expression inside another one may be given any step for that, as long as it
reads what the grammar allows and is itself refused in these ways.
-/

namespace Minilang

namespace Cursor

variable {cursor behind : Cursor} {diagnostic : Diagnostic}

/-- The only malformed number is one that ends with its point. -/
theorem number_error
    (failed : Scan.number.run cursor = .error diagnostic behind) :
    ∃ digits, Lexeme.numeral? cursor.rest = some digits ∧
      digits.toList.getLast? = some '.' ∧
      diagnostic = ⟨.malformedNumber digits, cursor.position⟩ ∧
      behind = cursor := by
  rw [run_number] at failed
  cases numeral : Lexeme.numeral? cursor.rest with
  | none =>
      rw [numeral] at failed
      cases failed
  | some digits =>
      simp only [numeral] at failed
      by_cases malformed : digits.toList.getLast? = some '.'
      · rw [if_pos malformed] at failed
        cases failed
        exact ⟨digits, rfl, malformed, rfl, rfl⟩
      · rw [if_neg malformed] at failed
        cases failed

theorem string_error
    (failed : Scan.string.run cursor = .error diagnostic behind) :
    ∃ body, cursor.rest = '"' :: body ∧ Lexeme.stringBody? body = none ∧
      diagnostic = ⟨.unterminatedString, cursor.position⟩ ∧
      behind = cursor.drop cursor.rest.length := by
  rw [run_string] at failed
  split at failed
  · rename_i body ahead
    cases closed : Lexeme.stringBody? body with
    | none =>
        rw [closed] at failed
        cases failed
        exact ⟨body, ahead, closed, rfl, rfl⟩
    | some contents =>
        rw [closed] at failed
        cases failed
  · cases failed

end Cursor

namespace Grammar

open Parse Steps

variable {source : Cursor} {origin start : Parser}

/-- The step is rejected in no other way than one of the refusals. -/
abbrev Refused {α : Type} (source : Cursor) (origin : Parser) (step : Parse α)
    (start : Parser) : Prop :=
  RejectsAs (Refuses source origin) step start

theorem refused_expectType (rests : source.Rests start.cursor) :
    Refused source origin expectType start := by
  apply rejectsAs_attempt
  · intro type behind _
    exact failsAs_pure type
  · intro absent
    exact FailsAs.onward (run_ask _ _) <| FailsAs.onward (run_position _) <|
      rejectsAs_fail (.type rests absent)

theorem refused_expectIdentifier (rests : source.Rests start.cursor) :
    Refused source origin expectIdentifier start := by
  apply rejectsAs_attempt
  · intro name behind _
    exact failsAs_pure name
  · intro absent
    exact FailsAs.onward (run_ask _ _) <| FailsAs.onward (run_position _) <|
      rejectsAs_fail (.identifier rests absent)

theorem refused_castPrefix (rests : source.Rests start.cursor) :
    Refused source origin castPrefix start := by
  apply rejectsAs_advanceIf
  · intro opened open_
    have inside := rests.of_accept? open_
    apply (refused_expectType inside).bind
    intro target middle success
    obtain ⟨named, typed, rfl⟩ := expectType_ok.1 success
    apply rejectsAs_expect
    · intro absent
      exact .text (inside.of_type? typed) absent
    · intro closed _
      exact failsAs_pure (some target)
  · intro _
    exact failsAs_pure none

theorem rests_of_castPrefix {target : Option DataType} {stop : Parser}
    (success : castPrefix.run start = .ok target stop)
    (rests : source.Rests start.cursor) :
    source.Rests stop.cursor := by
  rcases castPrefix_ok.1 success with ⟨_, _, rfl⟩ |
    ⟨found, opened, named, closed, open_, typed, close, _, rfl⟩
  · exact rests
  · exact ((rests.of_accept? open_).of_type? typed).of_accept? close

theorem refused_afterComma {α : Type} {item : Parse α}
    (refused : ∀ behind, start.cursor.accept? "," = some behind →
      Refused source origin item { start with cursor := behind }) :
    Refused source origin (afterComma item) start := by
  apply rejectsAs_advanceIf
  · intro behind comma
    exact (refused behind comma).bind fun _ _ _ => failsAs_pure _
  · intro _
    exact failsAs_pure none

section Inside

variable {expression : Parse Node}
  (reads : ∀ node start stop, expression.run start = .ok node stop →
    Reads (.chain .comparison node) start stop)
  (refused : ∀ start : Parser, source.Rests start.cursor →
    Refused source origin expression start)
include reads refused

theorem refused_argumentsOf (rests : source.Rests start.cursor) :
    Refused source origin (argumentsOf expression) start := by
  apply rejectsAs_advanceIf
  · intro closed _
    exact failsAs_pure []
  · intro _
    apply (refused start rests).bind
    intro first middle success
    have behindFirst := rests_of_reads (reads _ _ _ success) rests
    -- Between two arguments the cursor rests at the comma or at the closing
    -- parenthesis.
    have goesOn : ∀ (values : List Node) (here : Parser) (value : Node)
        (next : Parser),
        source.Rests here.cursor →
          (afterComma expression).run here = .ok (some value) next →
          source.Rests next.cursor := by
      intro values here value next known one
      rcases afterComma_ok.1 one with
        ⟨_, impossible, _⟩ | ⟨behind, argument, comma, read, _⟩
      · cases impossible
      · exact rests_of_reads (reads _ _ _ read) (known.of_accept? comma)
    have ends : ∀ (values : List Node) (here next : Parser),
        source.Rests here.cursor →
        (afterComma expression).run here = .ok none next →
          source.Rests next.cursor := by
      intro values here next known last
      rcases afterComma_ok.1 last with ⟨_, _, same⟩ | ⟨_, _, _, _, impossible⟩
      · rwa [← same]
      · cases impossible
    have others : Refused source origin
        (many (afterComma expression)) middle := by
      refine rejectsAs_many _ (fun _ here known => ?_) goesOn [] behindFirst
      exact refused_afterComma fun behind comma =>
        refused _ (known.of_accept? comma)
    apply others.bind
    intro values last more
    have atEnd := holds_of_many_ok _ goesOn ends [] behindFirst more
    apply rejectsAs_expect
    · intro absent
      exact .text atEnd absent
    · intro closed _
      exact failsAs_pure (first :: values)

theorem refused_nameOf (name : String) (place : Position)
    (rests : source.Rests start.cursor) :
    Refused source origin (nameOf expression name place) start := by
  apply rejectsAs_currentScope
  intro scope _
  apply rejectsAs_advanceIf
  · intro opened open_
    have inside : source.Rests opened := rests.of_accept? open_
    exact FailsAs.bind (refused_argumentsOf reads refused inside) fun _ _ _ =>
      failsAs_pure _
  · intro _
    exact failsAs_pure _

theorem refused_primaryOf (rests : source.Rests start.cursor) :
    Refused source origin (primaryOf expression) start := by
  refine FailsAs.onward (run_position start) ?_
  apply rejectsAs_scan
  · intro diagnostic behind failed
    obtain ⟨digits, numeral, malformed, rfl, rfl⟩ := Cursor.number_error failed
    exact .number rests numeral malformed
  · intro number behind scanned
    cases number with
    | some number => exact failsAs_pure _
    | none =>
        obtain rfl := Cursor.eq_of_number_none scanned
        apply rejectsAs_scan
        · intro diagnostic behind failed
          obtain ⟨body, ahead, unclosed, rfl, rfl⟩ := Cursor.string_error failed
          exact .string rests ahead unclosed
        · intro contents behind scanned
          cases contents with
          | some contents => exact failsAs_pure _
          | none =>
              obtain rfl := Cursor.eq_of_string_none scanned
              apply rejectsAs_attempt
              · intro name behind named
                exact refused_nameOf reads refused name _
                  (rests.of_identifier? named)
              · intro noName
                apply rejectsAs_advanceIf
                · intro opened open_
                  have inside : source.Rests opened := rests.of_accept? open_
                  refine FailsAs.bind (refused _ inside)
                    fun inner middle success => ?_
                  have behindInner :=
                    rests_of_reads (reads _ _ _ success) inside
                  apply rejectsAs_expect
                  · intro absent
                    exact .text behindInner absent
                  · intro closed _
                    exact failsAs_pure inner
                · intro _
                  exact FailsAs.onward (run_ask _ _)
                    (rejectsAs_fail (.expression rests noName))

theorem refused_componentOf (rests : source.Rests start.cursor) :
    Refused source origin (componentOf expression) start := by
  refine FailsAs.onward (run_position start) ?_
  refine FailsAs.bind (refused_castPrefix rests) fun target middle success => ?_
  have behindCast := rests_of_castPrefix success rests
  refine FailsAs.bind (refused_primaryOf reads refused behindCast)
    fun operand _ _ => ?_
  cases target with
  | some target => exact failsAs_pure _
  | none => exact failsAs_pure operand

omit refused in
theorem reads_operandOf {level : Level} {node : Node} {stop : Parser}
    (success : (operandOf expression level).run start = .ok node stop) :
    Reads (.operand level node) start stop := by
  rw [operandOf] at success
  rw [Phrase.operand]
  cases next : level.next with
  | none =>
      rw [next] at success
      exact reads_component reads success
  | some tighter =>
      rw [next] at success
      exact reads_level reads tighter success

omit reads refused in
theorem refused_link {level : Level} {operand : Parse Node}
    (refused : ∀ start : Parser, source.Rests start.cursor →
      Refused source origin operand start)
    (rests : source.Rests start.cursor) :
    Refused source origin (link level operand) start := by
  refine FailsAs.onward (run_position start) ?_
  apply rejectsAs_attempt
  · intro operator behind found
    have inside : source.Rests behind := rests.of_operator? found
    exact FailsAs.bind (refused _ inside) fun _ _ _ => failsAs_pure _
  · intro _
    exact failsAs_pure none

/-- By induction on the levels, from the tightest to the loosest. -/
theorem refused_levelOf (level : Level) {start : Parser}
    (rests : source.Rests start.cursor) :
    Refused source origin (levelOf expression level) start := by
  have operandRefused : ∀ start : Parser, source.Rests start.cursor →
      Refused source origin (operandOf expression level) start := by
    intro start rests
    rw [operandOf]
    cases next : level.next with
    | none => exact refused_componentOf reads refused rests
    | some tighter => exact refused_levelOf tighter rests
  rw [levelOf_eq]
  refine FailsAs.bind (operandRefused start rests)
    fun first middle success => ?_
  have behindFirst :=
    rests_of_readsOperand (reads_operandOf reads success) rests
  refine FailsAs.bind ?_ fun links _ _ => failsAs_pure _
  refine rejectsAs_many (fun _ here => source.Rests here.cursor) ?_ ?_
    [] behindFirst
  · intro _ here known
    exact refused_link operandRefused known
  · intro _ here value next known one
    rcases link_ok.1 one with
      ⟨_, impossible, _⟩ | ⟨operator, behind, right, found, read, _⟩
    · cases impossible
    · exact rests_of_readsOperand (reads_operandOf reads read)
        (known.of_operator? found)
termination_by level.height
decreasing_by exact Level.height_next next

end Inside

/-- From a cursor that rests, the reading of an expression is refused or ends
with success. -/
theorem refused_expression (rests : source.Rests start.cursor) :
    Refused source origin expression start := by
  refine rejectsAs_recur (fun here => source.Rests here.cursor) ?_ rests
  intro inner succeeds refused here known
  refine refused_levelOf (fun node start stop success => ?_) refused
    .comparison known
  exact expression_ok.1 (succeeds node start stop success)

end Grammar

end Minilang
