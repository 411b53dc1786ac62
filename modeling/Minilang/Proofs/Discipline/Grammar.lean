import Minilang.Grammar.Statement
import Minilang.Proofs.Discipline.Leads
import Minilang.Proofs.Reading.Expression

/-!
# What the steps of the grammar leave behind

Expressions only move the cursor: `advances_expression`. Statements that begin
with a word return from the scopes that they open, and so do blocks:
`returns_formOf` and `returns_blockOf`. All other steps declare names in the
current scope and remain in it: `remains_statementList`. All of this holds of
steps that fail as well.
-/

namespace Minilang.Grammar

open Parse Minilang.Parser

theorem advances_type : Leads Advances type :=
  leads_attempt Cursor.asksWord_type?.moves

theorem advances_expectType : Leads Advances expectType := by
  apply advances_type.bind
  intro found
  cases found with
  | some type => exact leads_pure type
  | none =>
      exact (leads_ask _).bind fun _ => leads_position.bind fun _ =>
        leads_fail _ _

theorem advances_castPrefix : Leads Advances castPrefix := by
  apply (leads_accept "<").branch
  · apply advances_expectType.bind
    intro target
    exact (leads_expect ">").bind fun _ => leads_pure (some target)
  · exact leads_pure none

theorem advances_expectIdentifier : Leads Advances expectIdentifier := by
  apply (leads_attempt Cursor.asksWord_identifier?.moves).bind
  intro found
  cases found with
  | some name => exact leads_pure name
  | none =>
      exact (leads_ask _).bind fun _ => leads_position.bind fun _ =>
        leads_fail _ _

theorem leads_afterComma {α : Type} {related : Parser → Parser → Prop}
    [IsPreorder Parser related] {item : Parse α} (leads : Leads related item)
    (weaker : ∀ {start stop : Parser}, start.Advances stop →
      related start stop) :
    Leads related (afterComma item) := by
  apply ((leads_accept ",").mono weaker).branch
  · exact leads.bind fun value => leads_pure (some value)
  · exact leads_pure none

section Expressions

variable {expression : Parse Node} (advances : Leads Advances expression)

include advances

theorem advances_argumentsOf : Leads Advances (argumentsOf expression) := by
  apply (leads_accept ")").branch
  · exact leads_pure []
  · apply advances.bind
    intro first
    apply (leads_afterComma advances id).many.bind
    intro others
    exact (leads_expect ")").bind fun _ => leads_pure (first :: others)

theorem advances_nameOf (name : String) (place : Position) :
    Leads Advances (nameOf expression name place) := by
  apply leads_currentScope.bind
  intro scope
  apply (leads_accept "(").branch
  · exact (advances_argumentsOf advances).bind fun arguments => leads_pure _
  · exact leads_pure _

theorem advances_primaryOf : Leads Advances (primaryOf expression) := by
  apply leads_position.bind
  intro place
  apply (leads_scan fun cursor => cursor.staysOrAdvances_number.reaches).bind
  intro number
  cases number with
  | some number => exact leads_pure _
  | none =>
      apply (leads_scan fun cursor =>
        cursor.staysOrAdvances_string.reaches).bind
      intro contents
      cases contents with
      | some contents => exact leads_pure _
      | none =>
          apply (leads_attempt Cursor.asksWord_identifier?.moves).bind
          intro name
          cases name with
          | some name => exact advances_nameOf advances name place
          | none =>
              apply (leads_accept "(").branch
              · apply advances.bind
                intro inner
                exact (leads_expect ")").bind fun _ => leads_pure inner
              · exact (leads_ask _).bind fun _ => leads_fail _ _

theorem advances_componentOf : Leads Advances (componentOf expression) := by
  apply leads_position.bind
  intro place
  apply advances_castPrefix.bind
  intro target
  apply (advances_primaryOf advances).bind
  intro operand
  cases target with
  | some target => exact leads_pure _
  | none => exact leads_pure operand

end Expressions

theorem advances_chain {operand : Parse Node}
    (advances : Leads Advances operand) (level : Level) :
    Leads Advances (chain level operand) := by
  have more : Leads Advances (link level operand) := by
    apply leads_position.bind
    intro place
    apply (leads_attempt (Cursor.moves_operator? level)).bind
    intro operator
    cases operator with
    | some operator => exact advances.bind fun right => leads_pure _
    | none => exact leads_pure none
  apply advances.bind
  intro first
  exact more.many.bind fun links => leads_pure _

theorem advances_levelOf {expression : Parse Node}
    (advances : Leads Advances expression)
    (level : Level) : Leads Advances (levelOf expression level) := by
  rw [levelOf_eq]
  apply advances_chain
  rw [operandOf]
  cases next : level.next with
  | none => exact advances_componentOf advances
  | some tighter => exact advances_levelOf advances tighter
termination_by level.height
decreasing_by exact Level.height_next next

/-- No expression changes the scopes. -/
theorem advances_expression : Leads Advances expression :=
  leads_recur fun _ advances => advances_levelOf advances .comparison

theorem remains_parameter (type : DataType) (place : Position) :
    Leads Remains (parameter type place) := by
  apply advances_expectIdentifier.returns.remains.bind
  intro name
  exact (leads_declare name type place).bind fun _ => leads_pure _

theorem remains_expectParameter : Leads Remains expectParameter := by
  apply leads_position.returns.remains.bind
  intro place
  apply advances_expectType.returns.remains.bind
  intro type
  exact remains_parameter type place

theorem remains_parameters : Leads Remains parameters := by
  apply leads_position.returns.remains.bind
  intro place
  apply advances_type.returns.remains.bind
  intro type
  cases type with
  | some type =>
      apply (remains_parameter type place).bind
      intro first
      have more := leads_afterComma remains_expectParameter fun advances =>
        advances.returns.remains
      apply more.many.bind
      intro others
      exact (leads_expect ")").returns.remains.bind fun _ =>
        leads_pure (first :: others)
  | none => exact (leads_expect ")").returns.remains.bind fun _ => leads_pure []

theorem advances_initializer : Leads Advances initializer := by
  apply (leads_accept "=").branch
  · exact advances_expression.bind fun value => leads_pure (some value)
  · exact leads_pure none

section Lists

variable {list : Parse Node} (remains : Leads Remains list)

include remains

theorem remains_blockBodyOf : Leads Remains (blockBodyOf list) := by
  apply remains.bind
  intro body
  exact (leads_expect "\x7d").returns.remains.bind fun _ => leads_pure body

theorem returns_blockOf : Leads Returns (blockOf list) :=
  (leads_expect "\x7b").returns.bind fun _ =>
    (remains_blockBodyOf remains).inScope

theorem returns_elseBranchOf : Leads Returns (elseBranchOf list) := by
  apply (leads_acceptKeyword "else").returns.branch
  · exact (returns_blockOf remains).bind fun branch => leads_pure (some branch)
  · exact leads_pure none

/-- Branches and bodies declare names in scopes of their own only. -/
theorem returns_formOf (form : Form) (place : Position) :
    Leads Returns (formOf list form place) := by
  cases form with
  | conditional =>
      apply advances_expression.returns.bind
      intro predicate
      apply (returns_blockOf remains).bind
      intro thenBranch
      exact (returns_elseBranchOf remains).bind fun elseBranch => leads_pure _
  | loop =>
      apply advances_expression.returns.bind
      intro predicate
      exact (returns_blockOf remains).bind fun body => leads_pure _
  | print => exact advances_expression.returns.bind fun value => leads_pure _
  | assignment =>
      apply leads_position.returns.bind
      intro target
      apply advances_expectIdentifier.returns.bind
      intro name
      apply leads_currentScope.returns.bind
      intro scope
      apply (leads_expect "=").returns.bind
      intro _
      exact advances_expression.returns.bind fun value => leads_pure _

theorem returns_functionParts :
    Leads Returns (inScope (functionPartsOf list)) := by
  apply Leads.inScope
  apply remains_parameters.bind
  intro parameters
  apply (leads_expect "\x7b").returns.remains.bind
  intro _
  exact (remains_blockBodyOf remains).bind fun body =>
    leads_pure (parameters, body)

theorem remains_declarationOf (type : DataType) (place : Position) :
    Leads Remains (declarationOf list type place) := by
  apply advances_expectIdentifier.returns.remains.bind
  intro name
  apply (leads_accept "(").returns.remains.branch
  · apply (returns_functionParts remains).remains.bind
    intro parts
    apply (leads_declare name .callable place).bind
    intro _
    exact (leads_bind name _).bind fun _ => leads_pure _
  · apply advances_initializer.returns.remains.bind
    intro initializer
    exact (leads_declare name type place).bind fun _ => leads_pure _

theorem remains_statementOf : Leads Remains (statementOf list) := by
  apply leads_position.returns.remains.bind
  intro place
  apply (leads_attempt Cursor.asksWord_formRead?.moves).returns.remains.bind
  intro form
  cases form with
  | some form =>
      exact (returns_formOf remains form place).remains.bind fun node =>
        leads_pure _
  | none =>
      apply advances_type.returns.remains.bind
      intro type
      cases type with
      | some type =>
          exact (remains_declarationOf remains type place).bind fun node =>
            leads_pure _
      | none =>
          apply (leads_ask atListEnd).returns.remains.branch
          · exact leads_pure none
          · exact advances_expression.returns.remains.bind fun node =>
              leads_pure _

theorem remains_statementListOf : Leads Remains (statementListOf list) := by
  apply leads_position.returns.remains.bind
  intro place
  exact (remains_statementOf remains).many.bind fun items => leads_pure _

end Lists

/-- Whatever a list of statements contains, it ends in the scope in which it
began. -/
theorem remains_statementList : Leads Remains statementList :=
  leads_recur fun _ remains => remains_statementListOf remains

end Minilang.Grammar
