import Minilang.Proofs.Discipline.Grammar
import Minilang.Proofs.Reading.Statement
import Minilang.Proofs.Recursion.Routine

/-!
# The grammar settles without guards

Each step of the grammar settles if the steps that it calls do. Those that are
called at a shorter text only, behind a parenthesis or a brace, need to settle
within a smaller bound. As every round of a repetition and every expression
shortens the text, the guards in the definitions of `expression` and
`statementList` make no difference: `settlesAt_expression` and
`settlesAt_statementList`.
-/

namespace Minilang.Grammar

open Parse Steps

variable {bound : Nat}

theorem settles_type : Settles bound type type :=
  settles_attempt Cursor.asksWord_type?.moves

theorem settles_expectType : Settles bound expectType expectType := by
  refine settles_type.bind fun found => ?_
  cases found with
  | some type => exact settles_pure type
  | none =>
      exact (settles_ask _).bind fun _ => settles_position.bind fun _ =>
        settles_fail _ _

theorem settles_expectIdentifier :
    Settles bound expectIdentifier expectIdentifier := by
  refine (settles_attempt Cursor.asksWord_identifier?.moves).bind
    fun found => ?_
  cases found with
  | some name => exact settles_pure name
  | none =>
      exact (settles_ask _).bind fun _ => settles_position.bind fun _ =>
        settles_fail _ _

theorem settles_castPrefix : Settles bound castPrefix castPrefix := by
  refine (settles_accept "<").bind fun found => ?_
  cases found with
  | true =>
      exact settles_expectType.bind fun target =>
        (settles_expect ">").bind fun _ => settles_pure (some target)
  | false => exact settles_pure none

theorem settles_parameter (type : DataType) (place : Position) :
    Settles bound (parameter type place) (parameter type place) :=
  settles_expectIdentifier.bind fun name =>
    (settles_declare name type place).bind fun _ => settles_pure _

theorem settles_expectParameter :
    Settles bound expectParameter expectParameter :=
  settles_position.bind fun place => settles_expectType.bind fun type =>
    settles_parameter type place

theorem settles_afterComma {α : Type} {item other : Parse α}
    (inside : Settles bound item other) :
    Settles (bound + 1) (afterComma item) (afterComma other) :=
  .branch (by decide) (inside.bind fun value => settles_pure (some value))
    (settles_pure none)

theorem shortens_afterComma {α : Type} {item other : Parse α}
    (inside : Settles bound item other) :
    Shortens (bound + 1) (afterComma item) := by
  intro start value stop within found
  rcases afterComma_ok.1 found with
    ⟨_, impossible, _⟩ | ⟨behind, _, comma, read, _⟩
  · cases impossible
  · have shorter := Cursor.length_lt_of_accept? comma (by decide)
    have settles := inside { start with cursor := behind }
      (Nat.lt_of_lt_of_le shorter (Nat.le_of_lt_succ within))
    exact Nat.lt_of_le_of_lt (settles.left_le_of_ok read) shorter

theorem settles_moreItems {α : Type} {item other : Parse α}
    (inside : Settles bound item other) :
    Settles bound (many (afterComma item)) (many (afterComma other)) := by
  have items :=
    settles_many (settles_afterComma inside) (shortens_afterComma inside)
  exact items.mono (Nat.le_succ bound)

theorem settles_argumentsWith {expression other : Parse Node}
    {more otherMore : Parse (List Node)}
    (inside : Settles bound expression other)
    (others : Settles bound more otherMore) :
    Settles bound (argumentsWith expression more)
      (argumentsWith other otherMore) := by
  refine (settles_accept ")").bind fun closed => ?_
  cases closed with
  | true => exact settles_pure []
  | false =>
      exact inside.bind fun first => others.bind fun rest =>
        (settles_expect ")").bind fun _ => settles_pure (first :: rest)

theorem settles_nameWith {expression other : Parse Node}
    {more otherMore : Parse (List Node)}
    (inside : Settles bound expression other)
    (others : Settles bound more otherMore)
    (name : String) (place : Position) :
    Settles (bound + 1) (nameWith expression more name place)
      (nameWith other otherMore name place) :=
  settles_currentScope.bind fun _ => .branch (by decide)
    ((settles_argumentsWith inside others).bind fun _ => settles_pure _)
      (settles_pure _)

theorem settles_primaryWith {named otherNamed : String → Position → Parse Node}
    {expression other : Parse Node}
    (names : ∀ name place,
      Settles (bound + 1) (named name place) (otherNamed name place))
    (inside : Settles bound expression other) :
    Settles (bound + 1) (primaryWith named expression)
      (primaryWith otherNamed other) := by
  refine settles_position.bind fun place => ?_
  refine (settles_scan fun cursor => cursor.staysOrAdvances_number.reaches).bind
    fun number => ?_
  cases number with
  | some number => exact settles_pure _
  | none =>
      refine (settles_scan
        fun cursor => cursor.staysOrAdvances_string.reaches).bind
        fun contents => ?_
      cases contents with
      | some contents => exact settles_pure _
      | none =>
          refine (settles_attempt Cursor.asksWord_identifier?.moves).bind
            fun name => ?_
          cases name with
          | some name => exact names name place
          | none =>
              apply Settles.branch (by decide)
              · exact inside.bind fun value =>
                  (settles_expect ")").bind fun _ => settles_pure value
              · exact (settles_ask _).bind fun _ => settles_fail _ _

theorem settles_componentWith {primary other : Parse Node}
    (inside : Settles bound primary other) :
    Settles bound (componentWith primary) (componentWith other) := by
  refine settles_position.bind fun place =>
    settles_castPrefix.bind fun target =>
    inside.bind fun operand => ?_
  cases target with
  | some target => exact settles_pure _
  | none => exact settles_pure operand

section Chains

variable {operand other : Parse Node} (inside : Settles bound operand other)

include inside

theorem settles_link (level : Level) :
    Settles bound (link level operand) (link level other) := by
  refine settles_position.bind fun place => ?_
  refine (settles_attempt (Cursor.moves_operator? level)).bind
    fun operator => ?_
  cases operator with
  | some operator => exact inside.bind fun right => settles_pure _
  | none => exact settles_pure none

/-- The operator alone shortens the text. -/
theorem shortens_link (level : Level) :
    Shortens bound (link level operand) := by
  intro start value stop within found
  rcases link_ok.1 found with
    ⟨_, impossible, _⟩ | ⟨operator, behind, right, ahead, read, _⟩
  · cases impossible
  · have shorter := Cursor.length_lt_of_operator? ahead
    have settles :=
      inside { start with cursor := behind } (Nat.lt_trans shorter within)
    exact Nat.lt_of_le_of_lt (settles.left_le_of_ok read) shorter

theorem settles_chainWith {links otherLinks : Parse (List Link)}
    (more : Settles bound links otherLinks) :
    Settles bound (chainWith operand links) (chainWith other otherLinks) :=
  inside.bind fun _ => more.bind fun _ => settles_pure _

theorem settles_chain (level : Level) :
    Settles bound (chain level operand) (chain level other) := by
  rw [eq_chainWith, eq_chainWith]
  exact settles_chainWith inside
    (settles_many (settles_link inside level) (shortens_link inside level))

end Chains

section Levels

variable {expression other : Parse Node}
  (inside : Settles bound expression other)

include inside

theorem settles_nameOf (name : String) (place : Position) :
    Settles (bound + 1) (nameOf expression name place)
      (nameOf other name place) := by
  rw [eq_nameWith, eq_nameWith]
  exact settles_nameWith inside (settles_moreItems inside) name place

theorem settles_primaryOf :
    Settles (bound + 1) (primaryOf expression) (primaryOf other) := by
  rw [eq_primaryWith, eq_primaryWith]
  exact settles_primaryWith (settles_nameOf inside) inside

theorem settles_operandOf (level : Level) :
    Settles (bound + 1) (operandOf expression level)
      (operandOf other level) := by
  rw [operandOf, operandOf]
  cases next : level.next with
  | none =>
      rw [eq_componentWith, eq_componentWith]
      exact settles_componentWith (settles_primaryOf inside)
  | some tighter =>
      change Settles _ (levelOf expression tighter) (levelOf other tighter)
      rw [levelOf_eq, levelOf_eq]
      exact settles_chain (settles_operandOf tighter) tighter
termination_by level.height
decreasing_by exact Level.height_next next

/-- Within the next larger bound, as the expressions inside a level stand behind
a parenthesis. -/
theorem settles_levelOf (level : Level) :
    Settles (bound + 1) (levelOf expression level) (levelOf other level) := by
  rw [levelOf_eq, levelOf_eq]
  exact settles_chain (settles_operandOf inside level) level

end Levels

/-- Expressions are read as the grammar says without a guard. -/
theorem settlesAt_expression (start : Parser) :
    SettlesAt expression (levelOf expression .comparison) start :=
  settlesAt_recur (fun _ inside => settles_levelOf inside .comparison) start

/-- The bound does not matter, as an expression settles from every state. -/
theorem settles_expression : Settles bound expression expression :=
  fun start _ => (settlesAt_expression start).self

theorem settles_parametersWith {more other : Parse (List Node)}
    (others : Settles bound more other) :
    Settles bound (parametersWith more) (parametersWith other) := by
  refine settles_position.bind fun place => settles_type.bind fun type => ?_
  cases type with
  | some type =>
      exact (settles_parameter type place).bind fun first =>
        others.bind fun rest =>
        (settles_expect ")").bind fun _ => settles_pure (first :: rest)
  | none => exact (settles_expect ")").bind fun _ => settles_pure []

theorem settles_parameters : Settles bound parameters parameters := by
  rw [eq_parametersWith]
  exact settles_parametersWith (settles_moreItems settles_expectParameter)

section Blocks

variable {list other : Parse Node} (inside : Settles bound list other)

include inside

theorem settles_blockBodyOf :
    Settles bound (blockBodyOf list) (blockBodyOf other) :=
  inside.bind fun body => (settles_expect "\x7d").bind fun _ =>
    settles_pure body

theorem settles_blockOf : Settles (bound + 1) (blockOf list) (blockOf other) :=
  .behind (by decide) (settles_blockBodyOf inside).inScope

theorem settles_functionWith {parameters others : Parse (List Node)}
    (head : Settles (bound + 1) parameters others) (returnType : DataType)
    (name : String)
    (place : Position) :
    Settles (bound + 1) (functionWith parameters list returnType name place)
      (functionWith others other returnType name place) := by
  have parts : Settles (bound + 1) (functionPartsWith parameters list)
      (functionPartsWith others other) :=
    head.bind fun values => .behind (by decide)
      ((settles_blockBodyOf inside).bind fun body =>
        settles_pure (values, body))
  exact parts.inScope.bind fun _ =>
    (settles_declare name .callable place).bind fun _ =>
    (settles_bind name _).bind fun _ => settles_pure _

end Blocks

section Statements

variable {expression other : Parse Node}
  (inside : Settles bound expression other)

include inside

theorem settles_formWith {block otherBlock : Parse Node}
    (blocks : Settles bound block otherBlock)
    (form : Form) (place : Position) :
    Settles bound (formWith expression block form place)
      (formWith other otherBlock form place) := by
  have elseBranch :
      Settles bound (elseBranchWith block) (elseBranchWith otherBlock) := by
    refine (settles_acceptKeyword "else").bind fun found => ?_
    cases found with
    | true => exact blocks.bind fun branch => settles_pure (some branch)
    | false => exact settles_pure none
  cases form with
  | conditional =>
      exact inside.bind fun _ => blocks.bind fun _ => elseBranch.bind fun _ =>
        settles_pure _
  | loop => exact inside.bind fun _ => blocks.bind fun _ => settles_pure _
  | print => exact inside.bind fun _ => settles_pure _
  | assignment =>
      exact settles_position.bind fun _ =>
        settles_expectIdentifier.bind fun _ =>
        settles_currentScope.bind fun _ => (settles_expect "=").bind fun _ =>
          inside.bind fun _ => settles_pure _

theorem settles_declarationWith {function otherFunction : String → Parse Node}
    (functions : ∀ name, Settles bound (function name) (otherFunction name))
    (type : DataType)
    (place : Position) :
    Settles bound (declarationWith function expression type place)
      (declarationWith otherFunction other type place) := by
  have initializer :
      Settles bound (initializerWith expression) (initializerWith other) := by
    refine (settles_accept "=").bind fun found => ?_
    cases found with
    | true => exact inside.bind fun value => settles_pure (some value)
    | false => exact settles_pure none
  refine settles_expectIdentifier.bind fun name =>
    (settles_accept "(").bind fun found => ?_
  cases found with
  | true => exact functions name
  | false =>
      exact initializer.bind fun _ =>
        (settles_declare name type place).bind fun _ =>
        settles_pure _

theorem settles_statementWith {form otherForm : Form → Position → Parse Node}
    {declaration otherDeclaration : DataType → Position → Parse Node}
    (forms : ∀ kind place,
      Settles bound (form kind place) (otherForm kind place))
    (declarations : ∀ type place,
      Settles bound (declaration type place) (otherDeclaration type place)) :
    Settles bound (statementWith form declaration expression)
      (statementWith otherForm otherDeclaration other) := by
  refine settles_position.bind fun place => ?_
  refine (settles_attempt Cursor.asksWord_formRead?.moves).bind fun form => ?_
  cases form with
  | some kind =>
      exact (forms kind place).bind fun node => settles_pure (some node)
  | none =>
      refine settles_type.bind fun type => ?_
      cases type with
      | some type =>
          exact (declarations type place).bind fun node =>
            settles_pure (some node)
      | none =>
          refine (settles_ask atListEnd).bind fun ends => ?_
          cases ends with
          | true => exact settles_pure none
          | false => exact inside.bind fun node => settles_pure (some node)

end Statements

theorem settles_listWith {statements other : Parse (List Node)}
    (items : Settles bound statements other) :
    Settles bound (listWith statements) (listWith other) :=
  settles_position.bind fun _ => items.bind fun _ => settles_pure _

theorem settles_statementOf {list other : Parse Node}
    (inside : Settles bound list other) :
    Settles (bound + 1) (statementOf list) (statementOf other) := by
  rw [eq_statementWith, eq_statementWith]
  refine settles_statementWith settles_expression (fun kind place => ?_)
    (fun type place => ?_)
  · rw [eq_formWith, eq_formWith]
    exact settles_formWith settles_expression
      (settles_blockOf inside) kind place
  · rw [eq_declarationWith, eq_declarationWith]
    refine settles_declarationWith settles_expression
      (fun name => ?_) type place
    rw [eq_functionWith, eq_functionWith]
    exact settles_functionWith inside settles_parameters type name place

/-- Lists of statements are read as the grammar says without a guard. -/
theorem settlesAt_statementList (start : Parser) :
    SettlesAt statementList (statementListOf statementList) start := by
  refine settlesAt_recur (fun bound inside => ?_) start
  have shortens :
      Shortens (bound + 1) (statementOf (below bound statementList)) := by
    intro start node stop _ found
    exact shortens_of_readsClause (reads_statement
      (fun _ _ _ read => reads_of_statementList_ok (below_ok.1 read).2) found)
  rw [eq_listWith, eq_listWith]
  exact settles_listWith (settles_many (settles_statementOf inside) shortens)

end Minilang.Grammar
