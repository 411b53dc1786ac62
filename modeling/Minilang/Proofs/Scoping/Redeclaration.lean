import Minilang.Proofs.Rejection.Statement

/-!
# Redeclaration and shadowing

A block is read in a scope of its own, and at each point of the reading that
scope has declared what stands before the point in the same block, and nothing
else. So a name that is declared once more in its block is always refused, and a
name that is only taken over from around never is. The main statement,
`redeclaration_of_parse`, says so of programs that are read and of sources that
are rejected.
-/

namespace Minilang

namespace Node

/-- The constructs that stand directly in the block of the construct: those of a
list of statements, and for a function its parameters and what stands directly
in its body. -/
def block : Node → List Node
  | .statements items _ => items
  | .function _ _ parameters body _ => parameters ++ body.children
  | _ => []

/-- The names that are declared directly in the block of the construct are
distinct. -/
def DeclaresApart (node : Node) : Prop :=
  (node.block.filterMap declaredName?).Nodup

theorem declaresApart_of_isExpression {node : Node}
    (expression : node.isExpression = true) :
    node.DeclaresApart := by
  cases node with
  | statements | function => cases expression
  | _ => exact List.nodup_nil

end Node

namespace Scope

variable {scope middle later : Scope} {nodes others : List Node}

theorem enactAll?_append_of_eq_some
    (first : scope.enactAll? nodes = some middle)
    (rest : middle.enactAll? others = some later) :
    scope.enactAll? (nodes ++ others) = some later := by
  rw [enactAll?_append, first]
  exact rest

/-- Declarations that are made one after the other have distinct names. -/
theorem nodup_of_enactAll? (enacts : scope.enactAll? nodes = some later) :
    (nodes.filterMap Node.declaredName?).Nodup := by
  induction nodes generalizing scope with
  | nil => exact List.nodup_nil
  | cons node nodes inductionHypothesis =>
      rw [enactAll?_cons] at enacts
      obtain ⟨middle, first, rest⟩ := Option.bind_eq_some_iff.1 enacts
      have others := inductionHypothesis rest
      cases named : node.declaredName? with
      | none => rwa [List.filterMap_cons_none named]
      | some name =>
          rw [List.filterMap_cons_some named, List.nodup_cons]
          refine ⟨fun again => ?_, others⟩
          obtain ⟨other, member, same⟩ := List.mem_filterMap.1 again
          -- The name has been declared by the first of the nodes.
          have declared : name ∈ middle.declared :=
            (get?_of_enact? first name).1.2 (Or.inl (Node.declares_iff.2 named))
          have absent :=
            List.find?_eq_none.1 (find?_eq_none_of_enactAll? rest declared)
          exact absent other member (Node.declares_iff.2 same)

end Scope

namespace Grammar

open Node

variable {start stop : Parser} {id : ScopeId} {scope : Scope}

theorem enacts_of_readsParameter {node : Node}
    (reads : ReadsParameter node start stop)
    (stands : start.scopes.Stands id scope) :
    ∃ later, scope.enactAll? [node] = some later ∧
      start.scopes.Becomes stop.scopes id later := by
  cases reads with
  | parameter _ _ declared =>
      exact Walk.enacts_enact _ (Walk.enact_declaration_leads.2 declared) stands

theorem enacts_of_readsMoreParameters {nodes : List Node}
    (reads : ReadsMoreParameters nodes start stop)
    (stands : start.scopes.Stands id scope) :
    ∃ later, scope.enactAll? nodes = some later ∧
      start.scopes.Becomes stop.scopes id later := by
  induction reads generalizing scope with
  | last => exact ⟨scope, rfl, stands.becomes_self⟩
  | @next next others _ _ _ _ _ first _ inductionHypothesis =>
      obtain ⟨between, one, becomes⟩ := enacts_of_readsParameter first stands
      obtain ⟨later, more, ends⟩ := inductionHypothesis (stands.becomes becomes)
      exact ⟨later, Scope.enactAll?_append_of_eq_some one more,
        becomes.trans ends⟩

theorem enacts_of_readsParameters {nodes : List Node}
    (reads : ReadsParameters nodes start stop)
    (stands : start.scopes.Stands id scope) :
    ∃ later, scope.enactAll? nodes = some later ∧
      start.scopes.Becomes stop.scopes id later := by
  cases reads with
  | none => exact ⟨scope, rfl, stands.becomes_self⟩
  | some first others =>
      obtain ⟨between, one, becomes⟩ := enacts_of_readsParameter first stands
      obtain ⟨later, more, ends⟩ :=
        enacts_of_readsMoreParameters others (stands.becomes becomes)
      exact ⟨later, Scope.enactAll?_append_of_eq_some one more,
        becomes.trans ends⟩

/-- At a point inside a block the scope of the block is the current one. It
began without declarations of its own, and has made those that have been read of
the block. -/
theorem Inside.stands {origin here : Parser} {part : Part} {items : List Node}
    (inside : Inside origin part items here)
    (outset : origin.scopes.Stands 0 .empty) :
    ∃ (id : ScopeId) (before scope : Scope), here.scopes.Stands id scope ∧
      before.declared = [] ∧
      before.enactAll? items = some scope := by
  induction inside with
  | outermost => exact ⟨0, .empty, .empty, outset, rfl, rfl⟩
  | statement _ reads around =>
      obtain ⟨id, before, scope, stands, fresh, enacts⟩ := around
      obtain ⟨later, one, becomes⟩ := enacts_of_readsClause reads stands
      exact ⟨id, before, later, stands.becomes becomes, fresh,
        Scope.enactAll?_append_of_eq_some enacts one⟩
  | body _ _ _ predicate brace around =>
      obtain ⟨id, _, scope, stands, _⟩ := around
      cases brace with
      | brace _ entered =>
          have opens :=
            Scopes.stands_of_enter (scopes_of_reads predicate ▸ stands) entered
          exact ⟨_, scope.child, scope.child, opens.2, rfl, rfl⟩
  | alternative _ _ predicate thenBranch _ brace around =>
      obtain ⟨id, _, scope, stands, _⟩ := around
      obtain ⟨later, _, becomes⟩ :=
        enacts_of_readsClause thenBranch (scopes_of_reads predicate ▸ stands)
      cases brace with
      | brace _ entered =>
          have opens := Scopes.stands_of_enter
            ((scopes_of_reads predicate ▸ stands).becomes becomes) entered
          exact ⟨_, later.child, later.child, opens.2, rfl, rfl⟩
  | function _ head around =>
      obtain ⟨id, _, scope, stands, _⟩ := around
      cases head with
      | head _ _ _ entered =>
          exact ⟨_, scope.child, scope.child,
            (Scopes.stands_of_enter stands entered).2, rfl, rfl⟩
  | parameter _ reads _ before =>
      obtain ⟨id, before, scope, stands, fresh, enacts⟩ := before
      obtain ⟨later, one, becomes⟩ := enacts_of_readsParameter reads stands
      exact ⟨id, before, later, stands.becomes becomes, fresh,
        Scope.enactAll?_append_of_eq_some enacts one⟩
  | functionBody _ head parameters _ around =>
      obtain ⟨id, _, scope, stands, _⟩ := around
      cases head with
      | head _ _ _ entered =>
          have opens := (Scopes.stands_of_enter stands entered).2
          obtain ⟨later, enacts, becomes⟩ :=
            enacts_of_readsParameters parameters opens
          exact ⟨_, scope.child, later, opens.becomes becomes, rfl, enacts⟩

/-- Up to the point where a name is declared, a declaration leaves the current
scope as it is. -/
theorem ReadsToDeclaring.stands {part : Part} {name : String} {type : DataType}
    (reads : ReadsToDeclaring part name type start stop)
    (stands : start.scopes.Stands id scope) :
    stop.scopes.Stands id scope := by
  cases reads with
  | parameter => exact stands
  | uninitialized => exact stands
  | initialized _ _ _ value => exact scopes_of_reads value ▸ stands
  | function head parameters _ itemsRead _ left =>
      have inParameters := bridges_of_readsParameters parameters
      have inItems := bridges_of_readsClause itemsRead
      cases head with
      | head _ _ _ entered =>
          exact stands.becomes <| becomes_of_block stands entered
            (fun _ _ fits => inParameters _ _ (inItems _ _ fits)) left

/-- What is read with the clause declares distinct names in each of its
blocks. -/
def Clause.DeclaresApart : Clause → Prop
  | .statement node | .block node => node.Throughout Node.DeclaresApart
  | .statements items => ∀ item ∈ items, item.Throughout Node.DeclaresApart

theorem declaresApart_of_readsParameters {nodes : List Node}
    (reads : ReadsParameters nodes start stop) :
    ∀ node ∈ nodes, node.Throughout DeclaresApart := by
  intro node member
  obtain ⟨type, name, position, rfl⟩ :=
    plain_of_readsParameters reads node member
  exact throughout_iff.2 ⟨List.nodup_nil, List.forall_mem_nil _⟩

/-- There is no block inside an expression. -/
theorem declaresApart_of_reads {level : Level} {node : Node}
    (reads : Reads (.chain level node) start stop) :
    node.Throughout DeclaresApart := by
  intro part within
  have expressions := (formed_of_readsExpression reads).throughout_isExpression
  exact declaresApart_of_isExpression (expressions part within)

/-- By induction on the rules of the grammar, with the scope in which the clause
is read. -/
theorem declaresApart_of_readsClause {clause : Clause}
    (reads : ReadsClause clause start stop)
    (stands : start.scopes.Stands id scope) : clause.DeclaresApart := by
  induction reads generalizing id scope with
  | listEnd => exact List.forall_mem_nil _
  | statements firstReads _ first others =>
      obtain ⟨_, _, becomes⟩ := enacts_of_readsClause firstReads stands
      exact List.forall_mem_cons.2 ⟨first stands,
        others (stands.becomes becomes)⟩
  | block _ entered itemsRead _ _ items =>
      have opens := (Scopes.stands_of_enter stands entered).2
      obtain ⟨_, enacts, _⟩ := enacts_of_readsClause itemsRead opens
      exact throughout_iff.2 ⟨Scope.nodup_of_enactAll? enacts, items opens⟩
  | expression value => exact declaresApart_of_reads value
  | print _ value =>
      have below := declaresApart_of_reads value
      exact throughout_iff.2 ⟨List.nodup_nil, List.forall_mem_singleton.2 below⟩
  | assignment _ _ _ _ value =>
      have below := declaresApart_of_reads value
      refine throughout_iff.2 ⟨List.nodup_nil, List.forall_mem_cons.2
        ⟨?_, List.forall_mem_singleton.2 below⟩⟩
      exact throughout_iff.2 ⟨List.nodup_nil, List.forall_mem_nil _⟩
  | loop _ predicate _ body =>
      have inside := body (scopes_of_reads predicate ▸ stands)
      exact throughout_iff.2 ⟨List.nodup_nil, List.forall_mem_cons.2
        ⟨declaresApart_of_reads predicate, List.forall_mem_singleton.2 inside⟩⟩
  | conditional _ predicate _ _ thenBranch =>
      have inside := thenBranch (scopes_of_reads predicate ▸ stands)
      exact throughout_iff.2 ⟨List.nodup_nil, List.forall_mem_cons.2
        ⟨declaresApart_of_reads predicate, List.forall_mem_singleton.2 inside⟩⟩
  | alternative _ predicate thenRead _ _ thenBranch elseBranch =>
      have behindPredicate := scopes_of_reads predicate ▸ stands
      obtain ⟨_, _, becomes⟩ := enacts_of_readsClause thenRead behindPredicate
      have first := thenBranch behindPredicate
      have second := elseBranch (behindPredicate.becomes becomes)
      exact throughout_iff.2 ⟨List.nodup_nil, List.forall_mem_cons.2
        ⟨declaresApart_of_reads predicate,
          List.forall_mem_cons.2 ⟨first, List.forall_mem_singleton.2 second⟩⟩⟩
  | uninitialized =>
      exact throughout_iff.2 ⟨List.nodup_nil, List.forall_mem_nil _⟩
  | initialized _ _ _ value =>
      have below := declaresApart_of_reads value
      exact throughout_iff.2 ⟨List.nodup_nil, List.forall_mem_singleton.2 below⟩
  | function _ _ _ entered parameters _ itemsRead _ _ _ _ items =>
      -- Parameters and body are declared in one scope.
      have opens := (Scopes.stands_of_enter stands entered).2
      obtain ⟨between, enactsParameters, becomes⟩ :=
        enacts_of_readsParameters parameters opens
      have behindParameters := opens.becomes becomes
      obtain ⟨later, enactsItems, _⟩ :=
        enacts_of_readsClause itemsRead behindParameters
      have together :=
        Scope.enactAll?_append_of_eq_some enactsParameters enactsItems
      refine throughout_iff.2 ⟨Scope.nodup_of_enactAll? together,
        List.forall_mem_append.2 ⟨declaresApart_of_readsParameters parameters,
        List.forall_mem_singleton.2 ?_⟩⟩
      exact throughout_iff.2 ⟨Scope.nodup_of_enactAll? enactsItems,
        items behindParameters⟩

end Grammar

/-- Where a name cannot be declared, the current scope has declared it
itself. -/
theorem Scopes.mem_declared_of_declare? {scopes : Scopes} {id : ScopeId}
    {scope : Scope} {name : String} {type : DataType}
    (stands : scopes.Stands id scope)
    (refused : scopes.declare? name type = .ok none) :
    name ∈ scope.declared := by
  rw [declare?_of_stands stands, Except.ok.injEq, Option.map_eq_none_iff,
    Scope.declare?] at refused
  by_cases declared : name ∈ scope.declared
  · exact declared
  · rw [if_neg declared] at refused
    cases refused

namespace Program

open Grammar

variable {source file : String} {program : Program}

theorem declaresApart_of_parse (success : parse source file = .ok program) :
    program.root.Throughout Node.DeclaresApart := by
  obtain ⟨items, stop, reads, _, rfl⟩ := parse_ok.1 success
  have stands : Scopes.initial.Stands 0 .empty := ⟨rfl, rfl⟩
  obtain ⟨_, enacts, _⟩ := enacts_of_readsClause reads stands
  exact Node.throughout_iff.2
    ⟨Scope.nodup_of_enactAll? enacts, declaresApart_of_readsClause reads stands⟩

/-- In a program that is read, the names that are declared directly in a block
are distinct: those of the declarations in a list of statements, and those of
the parameters of a function together with the declarations in its body. If a
source is rejected because a name is declared already, then the reading has
stopped at a declaration of the name with the given place, where it was about to
make it, and the current scope has declared the name itself: by one of the
constructs before it in the same block. -/
theorem redeclaration_of_parse (source file : String) :
    (∀ program, parse source file = .ok program →
      (∀ items position, (Node.statements items position).PartOf program.root →
        (items.filterMap Node.declaredName?).Nodup) ∧
      ∀ type name parameters body position,
        (Node.function type name parameters body position).PartOf program.root →
          ((parameters ++ body.children).filterMap Node.declaredName?).Nodup) ∧
    ∀ name place, parse source file =
      .error (.diagnostic ⟨.alreadyDeclared name, place⟩) →
      ∃ part items type here later stop id scope,
        Inside (.start source file) part items here ∧
        ReadsToDeclaring part name type here later ∧
        here.cursor.position = place ∧
        read.run (.start source file) =
          .error (.diagnostic ⟨.alreadyDeclared name, place⟩) stop ∧
        stop.cursor = later.cursor ∧ stop.scopes.all = later.scopes.all ∧
        here.scopes.Stands id scope ∧ later.scopes.Stands id scope ∧
        name ∈ scope.declared ∧ ∃ earlier ∈ items,
        earlier.declaredName? = some name := by
  constructor
  · intro program success
    have apart := declaresApart_of_parse success
    exact ⟨fun _ _ within => apart _ within, fun _ _ _ _ _ within =>
      apart _ within⟩
  · intro name place rejected
    obtain ⟨stop, stops, refuses⟩ := refuses_of_parse rejected
    generalize left : stop.cursor = cursor at refuses
    generalize remain : stop.scopes.all = scopes at refuses
    cases refuses with
    | @declaration part items _ type here later _ inside reads refused =>
        obtain ⟨id, before, scope, stands, fresh, enacts⟩ :=
          inside.stands ⟨rfl, rfl⟩
        have declared :=
          Scopes.mem_declared_of_declare? (reads.stands stands) refused
        refine ⟨part, items, type, here, later, stop, id, scope, inside, reads,
          rfl, stops, left, remain, stands, reads.stands stands, declared, ?_⟩
        rcases (Scope.mem_declared_of_enactAll? enacts name).1 declared with
          earlier | impossible
        · obtain ⟨node, member, declares⟩ := earlier
          exact ⟨node, member, Node.declares_iff.1 declares⟩
        · rw [fresh] at impossible
          cases impossible

/-- A parameter is hidden in a branch, and the name that hides it is declared
once more. -/
theorem redeclaration_of_parse_hidden :
    (∃ program, parse
        "int n int f(int a) \x7b int n if n < a \x7b int a \x7d \x7d" "f.code" =
        .ok program ∧
      (∀ items position, (Node.statements items position).PartOf program.root →
        (items.filterMap Node.declaredName?).Nodup) ∧
      ∀ type name parameters body position,
        (Node.function type name parameters body position).PartOf program.root →
          ((parameters ++ body.children).filterMap Node.declaredName?).Nodup) ∧
    parse "int f(int a) \x7b if a < 1 \x7b string a float a \x7d \x7d"
      "f.code" =
      .error (.diagnostic ⟨.alreadyDeclared "a", ⟨"f.code", 1, 36⟩⟩) ∧
    ∃ part items type here later stop id scope,
      Inside
        (.start "int f(int a) \x7b if a < 1 \x7b string a float a \x7d \x7d"
          "f.code") part
        items here ∧
      ReadsToDeclaring part "a" type here later ∧
      here.cursor.position = ⟨"f.code", 1, 36⟩ ∧
      read.run
        (.start "int f(int a) \x7b if a < 1 \x7b string a float a \x7d \x7d"
          "f.code") =
        .error (.diagnostic ⟨.alreadyDeclared "a", ⟨"f.code", 1, 36⟩⟩) stop ∧
      stop.cursor = later.cursor ∧ stop.scopes.all = later.scopes.all ∧
      here.scopes.Stands id scope ∧ later.scopes.Stands id scope ∧
      "a" ∈ scope.declared ∧ ∃ earlier ∈ items,
      earlier.declaredName? = some "a" := by
  obtain ⟨program, success⟩ := exists_eq_ok_of_isOk <|
    show (parse "int n int f(int a) \x7b int n if n < a \x7b int a \x7d \x7d"
      "f.code").isOk =
      true by decide +kernel
  have rejected := eq_error_of_failsWith <|
    show Steps.failsWith (.diagnostic ⟨.alreadyDeclared "a", ⟨"f.code", 1, 36⟩⟩)
      (parse "int f(int a) \x7b if a < 1 \x7b string a float a \x7d \x7d"
        "f.code") = true by
        decide +kernel
  exact ⟨⟨program, success, (redeclaration_of_parse _ _).1 program success⟩,
    rejected, (redeclaration_of_parse _ _).2 "a" _ rejected⟩

end Program

end Minilang
