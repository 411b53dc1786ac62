import Minilang.Proofs.Discipline.Declaring

/-!
# The discipline of scopes

Wherever the reading of a program is entered, and whether it succeeds or fails,
the same scopes are open afterwards as before, and no scope that there was is
another but the current one. That one has taken up the declarations which stand
directly in what was read: `Entry.keeps_scopes`.
-/

namespace Minilang

namespace Parse

open Steps Minilang.Parser

/-- The step, taken again and again, finds the values one after the other. -/
inductive InTurn {α : Type} (step : Parse (Option α)) :
    List α → Parser → Parser → Prop where
  | nil {start : Parser} : InTurn step [] start start
  | cons {value : α} {values : List α} {start middle stop : Parser} :
      step.run start = .ok (some value) middle →
      InTurn step values middle stop →
      InTurn step (value :: values) start stop

/-- A repetition finds values until the step finds nothing or fails. -/
theorem exists_inTurn_of_many {α : Type} {step : Parse (Option α)}
    (shortens : ∀ start value stop, step.run start = .ok (some value) stop →
      stop.left < start.left) (start : Parser) :
    ∃ values middle, InTurn step values start middle ∧
      ((∃ stop, step.run middle = .ok none stop ∧
        (many step).run start = .ok values stop) ∨
        ∃ failure stop, step.run middle = .error failure stop ∧
          (many step).run start = .error failure stop) := by
  induction size : start.left using Nat.strongRecOn generalizing start with
  | ind bound inductionHypothesis =>
      subst size
      rw [run_many]
      cases result : step.run start with
      | error failure stop =>
          exact ⟨[], start, .nil, Or.inr ⟨failure, stop, result, rfl⟩⟩
      | ok found later =>
          cases found with
          | none => exact ⟨[], start, .nil, Or.inl ⟨later, result, rfl⟩⟩
          | some value =>
              have shorter := shortens start value later result
              obtain ⟨values, middle, inTurn, ends⟩ :=
                inductionHypothesis later.left shorter later rfl
              refine ⟨value :: values, middle, .cons result inTurn, ?_⟩
              simp only [run_below, if_pos shorter]
              rcases ends with ⟨stop, last, same⟩ | ⟨failure, stop, last, same⟩
              · exact Or.inl ⟨stop, last, by rw [same]⟩
              · exact Or.inr ⟨failure, stop, last, by rw [same]⟩

theorem InTurn.mono {α : Type} {step other : Parse (Option α)} {values : List α}
    {start stop : Parser} (inTurn : InTurn step values start stop)
    (also : ∀ {value before after}, step.run before = .ok (some value) after →
      other.run before = .ok (some value) after) :
    InTurn other values start stop := by
  induction inTurn with
  | nil => exact .nil
  | cons found _ inductionHypothesis =>
      exact .cons (also found) inductionHypothesis

/-- What is found in turn is declared in turn. -/
theorem Declares.inTurn {step : Parse (Option Node)}
    (declares : Declares Option.toList step) {nodes : List Node}
    {start middle : Parser} (inTurn : InTurn step nodes start middle)
    {id : ScopeId} {scope : Scope} (stands : start.scopes.Stands id scope) :
    ∃ later, scope.enactAll? nodes = some later ∧
      start.scopes.Becomes middle.scopes id later := by
  induction inTurn generalizing scope with
  | nil => exact ⟨scope, rfl, stands.becomes_self⟩
  | @cons node nodes start between middle found _ inductionHypothesis =>
      obtain ⟨next, enacts, becomes⟩ := declares start id scope stands
      rw [found] at enacts becomes
      obtain ⟨later, others, further⟩ :=
        inductionHypothesis (stands.becomes becomes)
      refine ⟨later, ?_, becomes.trans further⟩
      change scope.enactAll? ([node] ++ nodes) = some later
      rw [Scope.enactAll?_append]
      exact Option.bind_eq_some_iff.2 ⟨next, enacts, others⟩

end Parse

namespace Grammar

open Parse Steps Minilang.Parser

variable {start stop : Parser} {id : ScopeId} {scope : Scope}

/-- What a list of statements comes to: it is read up to where no further
statement can be read. -/
structure ListsDirectly (start : Parser)
    (result : EStateM.Result Failure Parser Node)
    (nodes : List Node) : Prop where
  inTurn : ∃ middle, InTurn statement nodes start middle ∧
    ∀ node later, statement.run middle ≠ .ok (some node) later
  root : ∀ root stop, result = .ok root stop →
    root = .statements nodes start.cursor.position

theorem left_le_of_inTurn {nodes : List Node} {middle : Parser}
    (inTurn : InTurn statement nodes start middle) :
    middle.left ≤ start.left := by
  induction inTurn with
  | nil => exact Nat.le_refl _
  | cons found _ inductionHypothesis =>
      have shorter : _ < _ := shortens_of_readsClause (statement_ok.1 found)
      exact Nat.le_trans inductionHypothesis (Nat.le_of_lt shorter)

/-- The guard on the lists inside a list is the text that is left where the list
begins. -/
theorem run_statementList (start : Parser) :
    statementList.run start =
      match (many (statementOf (below start.left statementList))).run start with
      | .ok items stop => .ok (.statements items start.cursor.position) stop
      | .error failure stop => .error failure stop := by
  rw [statementList, run_recur, statementListOf, EStateM.run_bind, run_position]
  dsimp only
  rw [EStateM.run_bind]
  cases (many (statementOf (below start.left (recur statementListOf)))).run
    start <;> rfl

/-- A list that fails at one of its statements has declared what the statements
before it declare. -/
theorem declares_statementList (stands : start.scopes.Stands id scope) :
    ∃ nodes later, ListsDirectly start (statementList.run start) nodes ∧
      scope.enactAll? nodes = some later ∧
      start.scopes.Becomes
        (last (statementList.run start)).scopes id later := by
  have inner : Leads Remains (below start.left statementList) :=
    leads_below fun later _ => remains_statementList later
  have declares := declares_statementOf inner
  have reads {node : Node} {before after : Parser}
      (found : (statementOf (below start.left statementList)).run before =
        .ok (some node) after) : ReadsClause (.statement node) before after :=
    reads_statement (fun _ _ _ read =>
      reads_of_statementList_ok (below_ok.1 read).2) found
  obtain ⟨nodes, middle, found, ends⟩ := exists_inTurn_of_many
    (fun _ _ _ found => shortens_of_readsClause (reads found)) start
  obtain ⟨later, enacts, becomes⟩ := declares.inTurn found stands
  obtain ⟨final, nothing, further⟩ :=
    declares middle id later (stands.becomes becomes)
  have inTurn : InTurn statement nodes start middle :=
    found.mono fun found => statement_ok.2 (reads found)
  -- A statement at the end of the list would have been read.
  have noFurther : ∀ node after,
      statement.run middle ≠ .ok (some node) after := by
    intro node after another
    have runs : (statementOf (below start.left statementList)).run middle =
        .ok (some node) after :=
      runsTo_of_readsClause (statement_ok.1 another) (left_le_of_inTurn inTurn)
        (readsLists_below start.left)
    rcases ends with ⟨stop, last, _⟩ | ⟨failure, stop, last, _⟩
    · cases last.symm.trans runs
    · cases last.symm.trans runs
  refine ⟨nodes, later, ⟨⟨middle, inTurn, noFurther⟩, ?_⟩, enacts, ?_⟩
  · intro root stop success
    rw [run_statementList] at success
    rcases ends with ⟨_, _, same⟩ | ⟨_, _, _, same⟩
    · rw [same] at success
      cases success
      rfl
    · rw [same] at success
      cases success
  · rw [run_statementList]
    rcases ends with ⟨stop, last, same⟩ | ⟨failure, stop, last, same⟩
    · rw [last] at nothing further
      rw [same]
      cases nothing
      exact becomes.trans further
    · rw [last] at nothing further
      rw [same]
      cases nothing
      exact becomes.trans further

/-! ## The places at which reading can be entered -/

/-- A step with which the reading of a part of a program begins. It yields a
value of the type. -/
inductive Entry : Type → Type where
  | statement : Entry (Option Node)
  | statementList : Entry Node
  | block : Entry Node
  | form (form : Form) (position : Position) : Entry Node
  | declaration (type : DataType) (position : Position) : Entry Node
  | expression : Entry Node
  | level (level : Level) : Entry Node
  | component : Entry Node
  | primary : Entry Node
  | type : Entry (Option DataType)
  | castPrefix : Entry (Option DataType)

namespace Entry

variable {α : Type}

def step : Entry α → Parse α
  | .statement => Grammar.statement
  | .statementList => Grammar.statementList
  | .block => Grammar.block
  | .form kind place => formOf Grammar.statementList kind place
  | .declaration declared place =>
      declarationOf Grammar.statementList declared place
  | .expression => Grammar.expression
  | .level tightness => Grammar.level tightness
  | .component => Grammar.component
  | .primary => Grammar.primary
  | .type => Grammar.type
  | .castPrefix => Grammar.castPrefix

/-- The nodes are what stands directly in the current scope of what was read. -/
def Directly (start : Parser) :
    Entry α → EStateM.Result Failure Parser α → List Node → Prop
  | .statement, result, nodes => nodes = madeBy Option.toList result
  | .declaration _ _, result, nodes =>
      nodes = madeBy (fun node => [node]) result
  | .statementList, result, nodes => ListsDirectly start result nodes
  | _, _, nodes => nodes = []

/-- The steps that declare nothing return to the scopes in which they begin. -/
theorem keeps_of_returns {step : Parse α} (returns : Leads Returns step)
    (stands : start.scopes.Stands id scope) :
    ∃ nodes later, nodes = [] ∧ scope.enactAll? nodes = some later ∧
      start.scopes.Becomes (last (step.run start)).scopes id later :=
  ⟨[], scope, rfl, rfl, (returns start).becomes id scope stands⟩

/-- Whether a reading succeeds or fails, afterwards the same scopes are open as
before, and of those that there were only the current one may be another: it has
taken up the declarations that stand directly in what was read. -/
theorem keeps_scopes (entry : Entry α) {start : Parser} {id : ScopeId}
    {scope : Scope} (stands : start.scopes.Stands id scope) :
    ∃ nodes later, entry.Directly start (entry.step.run start) nodes ∧
      scope.enactAll? nodes = some later ∧
      start.scopes.Becomes (last (entry.step.run start)).scopes id later := by
  have remains := remains_statementList
  cases entry with
  | statement =>
      obtain ⟨later, enacts, becomes⟩ :=
        declares_statementOf remains start id scope stands
      exact ⟨_, later, rfl, enacts, becomes⟩
  | declaration type position =>
      obtain ⟨later, enacts, becomes⟩ :=
        declares_declarationOf remains type position start id scope stands
      exact ⟨_, later, rfl, enacts, becomes⟩
  | statementList => exact declares_statementList stands
  | block => exact keeps_of_returns (returns_blockOf remains) stands
  | form form position =>
      exact keeps_of_returns (returns_formOf remains form position) stands
  | expression => exact keeps_of_returns advances_expression.returns stands
  | level level =>
      exact keeps_of_returns
        (advances_levelOf advances_expression level).returns stands
  | component =>
      exact keeps_of_returns
        (advances_componentOf advances_expression).returns stands
  | primary =>
      exact keeps_of_returns
        (advances_primaryOf advances_expression).returns stands
  | type => exact keeps_of_returns advances_type.returns stands
  | castPrefix => exact keeps_of_returns advances_castPrefix.returns stands

/-- A scope is opened and left again before the declaration that the outermost
scope refuses. -/
def redeclared : Parser :=
  .start "int x = 1 if x < 2 \x7b string y \x7d float x" "f.code"

/-- The list fails at its last statement, behind a block, and what it declared
before is kept. -/
theorem keeps_scopes_redeclared :
    redeclared.scopes.Stands 0 .empty ∧
    ∃ nodes later,
      Directly redeclared .statementList
        (Grammar.statementList.run redeclared) nodes ∧
      Scope.empty.enactAll? nodes = some later ∧
      Scopes.initial.Becomes
        (last (Grammar.statementList.run redeclared)).scopes 0 later ∧
      stopsWith (.diagnostic ⟨.alreadyDeclared "x", ⟨"f.code", 1, 33⟩⟩)
        (Grammar.statementList.run redeclared) = true ∧
      (last (Grammar.statementList.run redeclared)).scopes.all.size = 2 ∧
      later.declared = ["x"] := by
  have stands : redeclared.scopes.Stands 0 .empty := ⟨rfl, rfl⟩
  obtain ⟨nodes, later, directly, enacts, becomes⟩ :=
    keeps_scopes .statementList stands
  have declared :
      ((last (Grammar.statementList.run redeclared)).scopes.all[0]?.map
        Scope.declared) = some ["x"] := by
    decide +kernel
  refine ⟨stands, nodes, later, directly, enacts, becomes, by decide +kernel,
    by decide +kernel, ?_⟩
  have found : (last (Grammar.statementList.run redeclared)).scopes.all[0]? =
      some later :=
    becomes.found
  rw [found] at declared
  exact Option.some.inj declared

end Entry

end Grammar

end Minilang
