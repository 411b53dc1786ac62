import Minilang.Proofs.Reading.Form
import Minilang.Proofs.Scoping.Replay

namespace Minilang

theorem Scope.enact?_of_isExpression {scope : Scope} {node : Node}
    (isExpression : node.isExpression = true) :
    scope.enact? node = some scope := by
  cases node with
  | declaration | function => cases isExpression
  | _ => rfl

namespace Grammar

variable {start middle stop : Parser} {id : ScopeId} {scope : Scope}

/-- The statements that the clause consists of, in the scope in which it
stands. -/
def Clause.items : Clause → List Node
  | .statement node => [node]
  | .statements items => items
  | .block _ => []

/-- A statement that declares nothing and ends with an expression leaves the
scopes alone. -/
theorem enacts_nothing {node value : Node} {level : Level} {before : Scopes}
    (reads : Reads (.chain level value) middle stop)
    (stands : before.Stands id scope)
    (same : middle.scopes = before)
    (noDeclaration : scope.enact? node = some scope) :
    ∃ later, scope.enactAll? [node] = some later ∧
      before.Becomes stop.scopes id later := by
  rw [Scope.enactAll?_singleton, scopes_of_reads reads, same]
  exact ⟨scope, noDeclaration, stands.becomes_self⟩

/-- The declarations of a clause are made in the current scope, in their
order. -/
theorem enacts_of_readsClause {clause : Clause}
    (reads : ReadsClause clause start stop)
    (stands : start.scopes.Stands id scope) :
    ∃ later, scope.enactAll? clause.items = some later ∧
      start.scopes.Becomes stop.scopes id later := by
  induction reads generalizing id scope with
  | listEnd => exact ⟨scope, rfl, stands.becomes_self⟩
  | @statements item items _ _ _ _ _ first others =>
      obtain ⟨between, one, becomes⟩ := first stands
      obtain ⟨later, more, ends⟩ := others (stands.becomes becomes)
      refine ⟨later, ?_, becomes.trans ends⟩
      change scope.enactAll? ([item] ++ items) = some later
      rw [Scope.enactAll?_append]
      exact Option.bind_eq_some_iff.2 ⟨between, one, more⟩
  | block _ entered _ _ left items =>
      have isNew := (Scopes.stands_of_enter stands entered).2
      obtain ⟨_, _, becomes⟩ := items isNew
      exact ⟨scope, rfl, Scopes.becomes_of_exit stands entered becomes left⟩
  | expression value =>
      have isExpression := (formed_of_reads value).1
      exact enacts_nothing value stands rfl
        (Scope.enact?_of_isExpression isExpression)
  | print _ value => exact enacts_nothing value stands rfl rfl
  | assignment _ _ _ _ value => exact enacts_nothing value stands rfl rfl
  | loop _ predicate _ body =>
      have same := scopes_of_reads predicate
      exact same ▸ body (same ▸ stands)
  | conditional _ predicate _ _ thenBranch =>
      have same := scopes_of_reads predicate
      exact same ▸ thenBranch (same ▸ stands)
  | alternative _ predicate _ _ _ thenBranch elseBranch =>
      have same := scopes_of_reads predicate
      obtain ⟨_, nothing, becomes⟩ := thenBranch (same ▸ stands)
      cases nothing
      obtain ⟨later, more, ends⟩ := elseBranch ((same ▸ stands).becomes becomes)
      exact ⟨later, more, same ▸ becomes.trans ends⟩
  | uninitialized _ _ _ _ declared =>
      exact Walk.enacts_enact _ (Walk.enact_declaration_leads.2 declared) stands
  | initialized _ _ _ value declared =>
      have same := scopes_of_reads value
      obtain ⟨later, enacts, becomes⟩ :=
        Walk.enacts_enact _ (Walk.enact_declaration_leads.2 declared)
          (same ▸ stands)
      exact ⟨later, enacts, same ▸ becomes⟩
  | function _ _ _ entered parameters _ itemsRead _ left declared bound =>
      have inParameters := bridges_of_readsParameters parameters
      have inItems := bridges_of_readsClause itemsRead
      have around := becomes_of_block stands entered
        (fun _ _ fits => inParameters _ _ (inItems _ _ fits)) left
      obtain ⟨later, enacts, becomes⟩ :=
        Walk.enacts_enact _ (Walk.enact_function_leads.2 ⟨_, declared, bound⟩)
          (stands.becomes around)
      exact ⟨later, enacts, around.trans becomes⟩

end Grammar

/-- The outermost scope of a program declares what the statements of the program
declare directly, and it is the only one that is still open at the end. -/
theorem Program.enacts_of_parse {source file : String} {program : Program}
    (success : parse source file = .ok program) :
    ∃ outermost, Scope.empty.enactAll? program.root.children = some outermost ∧
      program.scopes.all[0]? = some outermost ∧ program.scopes.path = [0] := by
  obtain ⟨items, stop, reads, _, same⟩ := Grammar.parse_ok.1 success
  subst same
  have stands : Scopes.initial.Stands 0 .empty := ⟨rfl, rfl⟩
  obtain ⟨outermost, enacts, becomes⟩ :=
    Grammar.enacts_of_readsClause reads stands
  exact ⟨outermost, enacts, becomes.found, becomes.path⟩

end Minilang
