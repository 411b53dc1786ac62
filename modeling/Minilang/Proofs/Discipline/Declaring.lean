import Minilang.Proofs.Discipline.Grammar
import Minilang.Proofs.Scoping.Items

namespace Minilang

namespace Parse

open Steps Minilang.Parser

variable {α β : Type} {made : α → List Node}

/-- What the result has made; nothing after a failure. -/
def madeBy (made : α → List Node) : EStateM.Result Failure Parser α → List Node
  | .ok value _ => made value
  | .error _ _ => []

/-- The step makes in the current scope the declarations that it yields, and no
other. -/
def Declares (made : α → List Node) (step : Parse α) : Prop :=
  ∀ (start : Parser) (id : ScopeId) (scope : Scope),
    start.scopes.Stands id scope →
    ∃ later, scope.enactAll? (madeBy made (step.run start)) = some later ∧
      start.scopes.Becomes (last (step.run start)).scopes id later

/-- Nothing but constructs that are no declarations comes out of the step. -/
def DeclaresNothing (made : α → List Node) (step : Parse α) : Prop :=
  ∀ start value stop, step.run start = .ok value stop →
    ∀ scope : Scope, scope.enactAll? (made value) = some scope

theorem declaresNothing_pure {value : α}
    (nothing : ∀ scope : Scope, scope.enactAll? (made value) = some scope) :
    DeclaresNothing made (pure value) := by
  intro start other stop success
  obtain ⟨rfl, _⟩ := pure_ok.1 success
  exact nothing

theorem DeclaresNothing.bind {step : Parse β} {next : β → Parse α}
    (nothing : ∀ value, DeclaresNothing made (next value)) :
    DeclaresNothing made (step >>= next) := by
  intro start value stop success
  obtain ⟨first, middle, _, rest⟩ := bind_ok.1 success
  exact nothing first middle value stop rest

/-- A step that returns declares what it yields if that is nothing. -/
theorem DeclaresNothing.declares {step : Parse α}
    (nothing : DeclaresNothing made step)
    (returns : Leads Returns step) : Declares made step := by
  intro start id scope stands
  have becomes := (returns start).becomes id scope stands
  refine ⟨scope, ?_, becomes⟩
  cases result : step.run start with
  | ok value stop => exact nothing start value stop result scope
  | error failure stop => rfl

/-- What comes before a declaration leaves the current scope as it is. -/
theorem Leads.declares {step : Parse β} {next : β → Parse α}
    (returns : Leads Returns step)
    (declares : ∀ value, Declares made (next value)) :
    Declares made (step >>= next) := by
  intro start id scope stands
  have becomes := (returns start).becomes id scope stands
  rw [EStateM.run_bind]
  cases result : step.run start with
  | error failure stop =>
      rw [result] at becomes
      exact ⟨scope, rfl, becomes⟩
  | ok value middle =>
      rw [result] at becomes
      obtain ⟨later, enacts, further⟩ :=
        declares value middle id scope (stands.becomes becomes)
      exact ⟨later, enacts, becomes.trans further⟩

theorem Declares.mapSome {step : Parse Node}
    (declares : Declares (fun node => [node]) step) :
    Declares Option.toList (do return some (← step)) := by
  intro start id scope stands
  have outcome := declares start id scope stands
  rw [EStateM.run_bind]
  cases result : step.run start with
  | ok node stop =>
      rw [result] at outcome
      exact outcome
  | error failure stop =>
      rw [result] at outcome
      exact outcome

/-- The last steps of reading a variable: its name is declared before the node
is made. -/
theorem declares_declaration (type : DataType) (name : String)
    (value : Option Node)
    (place : Position) :
    Declares (fun node => [node]) (do
      declare name type place
      return .declaration type name value place) := by
  intro start id scope stands
  rw [EStateM.run_bind, run_declare, Scopes.declare?_of_stands stands]
  cases declares : scope.declare? name type with
  | none => exact ⟨scope, rfl, stands.becomes_self⟩
  | some later =>
      refine ⟨later, ?_, stands.becomes_set later⟩
      change scope.enactAll? [.declaration type name value place] = some later
      rw [Scope.enactAll?_singleton]
      exact declares

/-- A function gets its signature where its name is declared, and none where it
is refused. -/
theorem declares_function (returnType : DataType) (name : String)
    (parameters : List Node)
    (body : Node) (place : Position) :
    Declares (fun node => [node]) (do
      declare name .callable place
      changeScopes (·.bind name (Node.signature returnType parameters))
      return .function returnType name parameters body place) := by
  intro start id scope stands
  rw [EStateM.run_bind, run_declare, Scopes.declare?_of_stands stands]
  cases declares : scope.declare? name .callable with
  | none => exact ⟨scope, rfl, stands.becomes_self⟩
  | some declared =>
      have becomes := stands.becomes_set declared
      have standsThen := stands.becomes becomes
      have binds : (start.scopes.set id declared).bind name
          (Node.signature returnType parameters) = .ok _ :=
        Scopes.bind_ok.2 ⟨id, declared, standsThen, rfl⟩
      dsimp only [Option.map_some]
      rw [EStateM.run_bind, run_changeScopes, binds]
      refine ⟨_, ?_, becomes.trans (standsThen.becomes_set _)⟩
      change scope.enactAll?
        [.function returnType name parameters body place] = some _
      rw [Scope.enactAll?_singleton, Scope.enact?, declares]
      rfl

end Parse

namespace Grammar

open Parse Minilang.Parser

variable {list : Parse Node} (remains : Leads Remains list)

include remains

/-- A function declares its name only after its body, so one that fails inside
the body has declared nothing. -/
theorem declares_declarationOf (type : DataType) (place : Position) :
    Declares (fun node => [node]) (declarationOf list type place) := by
  apply advances_expectIdentifier.returns.declares
  intro name
  apply (leads_accept "(").returns.declares
  intro isFunction
  cases isFunction with
  | true =>
      apply (returns_functionParts remains).declares
      intro parts
      exact declares_function type name parts.1 parts.2 place
  | false =>
      apply advances_initializer.returns.declares
      intro value
      exact declares_declaration type name value place

omit remains in
/-- A statement that begins with a word is no declaration. -/
theorem declaresNothing_formOf (form : Form) (place : Position) :
    DeclaresNothing (fun node => [node]) (formOf list form place) := by
  cases form with
  | conditional =>
      exact .bind fun _ => .bind fun _ => .bind fun _ =>
        declaresNothing_pure fun _ => rfl
  | loop =>
      exact .bind fun _ => .bind fun _ => declaresNothing_pure fun _ => rfl
  | print => exact .bind fun _ => declaresNothing_pure fun _ => rfl
  | assignment =>
      exact .bind fun _ => .bind fun _ => .bind fun _ => .bind fun _ =>
        .bind fun _ =>
        declaresNothing_pure fun _ => rfl

omit remains in
theorem declaresNothing_expression :
    DeclaresNothing (fun node => [node]) expression := by
  intro start node stop success scope
  have isExpression := (formed_of_reads (expression_ok.1 success)).1
  rw [Scope.enactAll?_singleton]
  exact Scope.enact?_of_isExpression isExpression

/-- Only the declarations among the statements declare anything in the scope
where they stand. -/
theorem declares_statementOf : Declares Option.toList (statementOf list) := by
  apply leads_position.returns.declares
  intro place
  apply (leads_attempt Cursor.asksWord_formRead?.moves).returns.declares
  intro form
  cases form with
  | some form =>
      have returns := returns_formOf remains form place
      exact ((declaresNothing_formOf form place).declares returns).mapSome
  | none =>
      apply advances_type.returns.declares
      intro type
      cases type with
      | some type => exact (declares_declarationOf remains type place).mapSome
      | none =>
          apply (leads_ask atListEnd).returns.declares
          intro ends
          cases ends with
          | true =>
              exact (declaresNothing_pure fun _ => rfl).declares
                (leads_pure none)
          | false =>
              exact (declaresNothing_expression.declares
                advances_expression.returns).mapSome

end Grammar

end Minilang
