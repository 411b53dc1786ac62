import Mathlib.Data.List.Forall2
import Minilang.Compilation
import Minilang.Proofs.Scoping.Resolution
import Minilang.Proofs.Typing.Typed

/-!
# Names in compiled programs

A check leaves the names, the declarations and the blocks of a program as they
are, so what is known of the scopes of a program that was read is known of the
compiled one. The main statement, `resolved_of_compile`, says that each name and
each call in a compiled program agrees with the declaration to which it
resolves.
-/

namespace Minilang

open Grammar

/-! ## A check keeps the outline of a tree -/

namespace Outline

/-- Wherever the old outline leads, the new one leads as well. -/
def Follows (new old : Outline) : Prop :=
  ∀ before after, Fits old before after → Fits new before after

variable {new old : Outline}

theorem follows_mention {name : String} {scope : ScopeId} {newNode node : Node}
    (follows : new.Follows old) :
    (mention name scope newNode new).Follows (mention name scope node old) := by
  intro before after fits
  obtain ⟨middle, passes, leads⟩ := Walk.andThen_leads.1 fits.leads
  have rest := follows _ _ ⟨leads, fits.plain.2⟩
  exact ⟨Walk.andThen_leads.2 ⟨middle, passes, rest.leads⟩, trivial, rest.plain⟩

theorem follows_declare {newNode node : Node}
    (same : node.IsPlain → newNode.IsPlain ∧
      Walk.enact newNode = Walk.enact node)
    (follows : new.Follows old) :
    (declare newNode new).Follows (declare node old) := by
  intro before after fits
  obtain ⟨middle, enacts, leads⟩ := Walk.andThen_leads.1 fits.leads
  obtain ⟨plain, sameWalk⟩ := same fits.plain.1
  have rest := follows _ _ ⟨leads, fits.plain.2⟩
  refine ⟨Walk.andThen_leads.2 ⟨middle, ?_, rest.leads⟩, plain, rest.plain⟩
  rwa [sameWalk]

theorem follows_block {newInner inner : Outline}
    (inside : newInner.Follows inner)
    (follows : new.Follows old) :
    (block newInner new).Follows (block inner old) := by
  intro before after fits
  obtain ⟨middle, walks, leads⟩ := Walk.andThen_leads.1 fits.leads
  obtain ⟨entered, last, enters, walks, exits⟩ := Walk.inScope_leads.1 walks
  have within := inside _ _ ⟨walks, fits.plain.1⟩
  have rest := follows _ _ ⟨leads, fits.plain.2⟩
  exact bridges_block enters within exits _ _ rest

theorem follows_done : done.Follows done :=
  fun _ _ fits => fits

end Outline

namespace Node

open Check Steps

variable {scopes : Scopes}

theorem outline_of_checkOperator_ok {operator : BinaryOperator}
    {left right node : Node} {leftType rightType type : DataType}
    {position : Position} {warnings later : List Warning}
    (success : (checkOperator operator left leftType right rightType
      position).run warnings = .ok (node, type) later) :
    node.outline = (binary operator left right position).outline := by
  rcases checkOperator_ok.1 success with
    ⟨_, _, rfl, _⟩ | ⟨_, _, _, _, widened, rfl, _⟩
  · rfl
  · rcases kept_or_cast_of_widen_ok widened with ⟨_, rfl, rfl, _⟩ | ⟨cast, _, _⟩
    · rfl
    · rcases cast with ⟨_, _, rfl, rfl⟩ | ⟨_, _, rfl, rfl⟩ <;> rfl

/-- Parameters are left as they are. -/
theorem eq_of_checkAll_ok {parameters checked : List Node}
    {warnings later : List Warning}
    (plain : ∀ parameter ∈ parameters, ∃ type name position,
      parameter = .declaration type name none position)
    (success : (checkAll scopes parameters).run warnings = .ok checked later) :
    checked = parameters := by
  induction parameters generalizing checked warnings with
  | nil => exact (checkAll_nil_ok.1 success).1
  | cons first others inductionHypothesis =>
      obtain ⟨⟨type, name, position, rfl⟩, othersPlain⟩ :=
        List.forall_mem_cons.1 plain
      obtain ⟨_, _, _, _, one, more, rfl⟩ := checkAll_cons_ok.1 success
      obtain ⟨_, found, _, rfl, _⟩ := check_declaration_ok.1 one
      obtain ⟨rfl, _⟩ := checkOption_none_ok.1 found
      rw [inductionHypothesis othersPlain more]
      rfl

mutual

/-- The checked tree has the names, declarations and blocks of the tree. -/
theorem follows_of_check_ok :
    (node : Node) → {checked : Node} → {type : DataType} →
    {warnings later : List Warning} →
    (node.check scopes).run warnings = .ok (checked, type) later →
    {rest newRest : Outline} → newRest.Follows rest →
    (checked.outline newRest).Follows (node.outline rest)
  | .literal _ _, _, _, _, _, success, _, _, follows => by
      obtain ⟨rfl, _, _⟩ := check_literal_ok.1 success
      exact follows
  | .reference _ _ _, _, _, _, _, success, _, _, follows => by
      obtain ⟨_, rfl, _⟩ := check_reference_ok.1 success
      exact Outline.follows_mention follows
  | .call _ arguments _ _, _, _, _, _, success, _, _, follows => by
      obtain ⟨signature, _, _, _, count, each, rfl, _⟩ :=
        check_call_ok.1 success
      rw [← List.length_map Prod.snd] at count
      exact Outline.follows_mention
        (follows_of_checkArguments_ok arguments count each follows)
  | .binary _ left right _, _, _, _, _, success, _, _, follows => by
      obtain ⟨_, _, _, _, _, _, first, second, rest⟩ :=
        check_binary_ok.1 success
      rw [outline_of_checkOperator_ok rest]
      exact follows_of_check_ok left first
        (follows_of_check_ok right second follows)
  | .cast _ operand _, _, _, _, _, success, _, _, follows => by
      obtain ⟨_, _, inner, _, rfl, _⟩ := check_cast_ok.1 success
      exact follows_of_check_ok operand inner follows
  | .statements items _, _, _, _, _, success, _, _, follows => by
      obtain ⟨_, inner, rfl, _⟩ := check_statements_ok.1 success
      exact follows_of_checkAll_ok items inner follows
  | .conditional predicate thenBranch none _, _, _, _, _, success, _, _,
    follows => by
      obtain ⟨_, _, _, _, _, _, first, second, third, rfl, _⟩ :=
        check_conditional_ok.1 success
      obtain ⟨rfl, _⟩ := checkOption_none_ok.1 third
      have inside := follows_of_check_ok thenBranch second Outline.follows_done
      exact follows_of_check_ok predicate first
        (Outline.follows_block inside follows)
  | .conditional predicate thenBranch (some elseBranch) _, _, _, _, _, success,
    _, _, follows => by
      obtain ⟨_, _, _, _, _, _, first, second, third, rfl, _⟩ :=
        check_conditional_ok.1 success
      obtain ⟨_, _, inner, rfl⟩ := checkOption_some_ok.1 third
      have thenInside :=
        follows_of_check_ok thenBranch second Outline.follows_done
      have elseInside :=
        follows_of_check_ok elseBranch inner Outline.follows_done
      exact follows_of_check_ok predicate first (Outline.follows_block
        thenInside (Outline.follows_block elseInside follows))
  | .loop predicate body _, _, _, _, _, success, _, _, follows => by
      obtain ⟨_, _, _, _, first, second, rfl, _⟩ := check_loop_ok.1 success
      have inside := follows_of_check_ok body second Outline.follows_done
      exact follows_of_check_ok predicate first
        (Outline.follows_block inside follows)
  | .print value _, _, _, _, _, success, _, _, follows => by
      obtain ⟨_, _, inner, rfl, _⟩ := check_print_ok.1 success
      exact follows_of_check_ok value inner follows
  | .declaration _ _ none _, _, _, _, _, success, _, _, follows => by
      obtain ⟨_, inner, _, rfl, _⟩ := check_declaration_ok.1 success
      obtain ⟨rfl, _⟩ := checkOption_none_ok.1 inner
      exact Outline.follows_declare (fun plain => ⟨plain, rfl⟩) follows
  | .declaration _ _ (some value) _, _, _, _, _, success, _, _, follows => by
      obtain ⟨_, inner, _, rfl, _⟩ := check_declaration_ok.1 success
      obtain ⟨_, _, value, rfl⟩ := checkOption_some_ok.1 inner
      exact follows_of_check_ok _ value
        (Outline.follows_declare (fun plain => ⟨plain, rfl⟩) follows)
  | .function returnType name parameters body position, _, _, _, _, success, _,
    _, follows => by
      obtain ⟨newParameters, _, newBody, _, first, second, rfl, _⟩ :=
        check_function_ok.1 success
      have inside := follows_of_checkAll_ok parameters first
        (follows_of_check_ok body second Outline.follows_done)
      refine Outline.follows_block inside (Outline.follows_declare ?_ follows)
      intro plain
      obtain rfl := eq_of_checkAll_ok plain first
      exact ⟨plain, rfl⟩
  | .assignment target value _, _, _, _, _, success, _, _, follows => by
      obtain ⟨_, _, _, _, first, second, rfl, _⟩ :=
        check_assignment_ok.1 success
      exact follows_of_check_ok target first
        (follows_of_check_ok value second follows)

theorem follows_of_checkAll_ok : (nodes : List Node) → {checked : List Node} →
    {warnings later : List Warning} →
    (checkAll scopes nodes).run warnings = .ok checked later →
    {rest newRest : Outline} → newRest.Follows rest →
    (outlineAll checked newRest).Follows (outlineAll nodes rest)
  | [], _, _, _, success, _, _, follows => by
      obtain ⟨rfl, _⟩ := checkAll_nil_ok.1 success
      exact follows
  | node :: nodes, _, _, _, success, _, _, follows => by
      obtain ⟨_, _, _, _, first, others, rfl⟩ := checkAll_cons_ok.1 success
      exact follows_of_check_ok node first
        (follows_of_checkAll_ok nodes others follows)

theorem follows_of_checkArguments_ok :
    (nodes : List Node) → {types : List DataType} →
    {checked : List Node} → {warnings later : List Warning} →
    nodes.length = types.length →
    (checkArguments scopes nodes types).run warnings = .ok checked later →
    {rest newRest : Outline} → newRest.Follows rest →
    (outlineAll checked newRest).Follows (outlineAll nodes rest)
  | [], [], _, _, _, _, success, _, _, follows => by
      obtain ⟨rfl, _⟩ := checkArguments_nil_ok.1 success
      exact follows
  | node :: nodes, type :: types, _, _, _, count, success, _, _, follows => by
      obtain ⟨_, _, _, first, others, rfl⟩ := checkArguments_cons_ok.1 success
      exact follows_of_check_ok node first
        (follows_of_checkArguments_ok nodes (Nat.succ.inj count) others follows)

end

end Node

/-! ## Names agree with their declarations -/

/-- A name agrees with a declaration if it has the declared type. A call agrees
with the declaration of a function that has as many parameters as the call has
arguments, each argument with the type of the parameter at its place, and
returns what the call has as its type. -/
inductive Node.Agrees (scopes : Scopes) : Node → Node → Prop where
  | reference {name : String} {scope : ScopeId} {position : Position}
      {declaration : Node} :
      (Node.reference name scope position).HasType scopes
        declaration.declaredType →
      Agrees scopes (.reference name scope position) declaration
  | call {name : String} {arguments parameters : List Node} {scope : ScopeId}
      {returnType : DataType} {body : Node} {position place : Position} :
      arguments.length = parameters.length →
      List.Forall₂ (fun argument parameter =>
        argument.HasType scopes parameter.declaredType)
        arguments parameters →
      (Node.call name arguments scope position).HasType scopes returnType →
      Agrees scopes (.call name arguments scope position)
        (.function returnType name parameters body place)

theorem Node.forall₂_of_typedArguments {scopes : Scopes}
    {parameters : List Node}
    (plain : ∀ parameter ∈ parameters, ∃ type name position,
      parameter = .declaration type name none position)
    {arguments : List Node}
    (typed : TypedArguments scopes arguments
      ((parameters.filterMap Node.parameter?).map Prod.snd)) :
    List.Forall₂ (fun argument parameter =>
      argument.HasType scopes parameter.declaredType)
      arguments parameters := by
  induction parameters generalizing arguments with
  | nil =>
      cases typed with
      | nil => exact .nil
  | cons first others inductionHypothesis =>
      obtain ⟨⟨type, name, position, rfl⟩, othersPlain⟩ :=
        List.forall_mem_cons.1 plain
      cases typed with
      | cons argument more =>
          exact .cons argument.check (inductionHypothesis othersPlain more)

/-- A typed name agrees with its declaration, where the scopes answer from the
declaration. -/
theorem Node.agrees_of_typed {scopes : Scopes} {node : Node} {name : String}
    {scope : ScopeId} {type : DataType} {resolved : Option Node}
    (typed : Typed scopes node type)
    (mentions : node.Mentions name scope)
    (symbol : scopes.symbol? scope name = .ok (resolved.map declaredType))
    (signature : scopes.signature? scope name =
      .ok (resolved.bind declaredSignature?))
    (named : ∀ declaration, resolved = some declaration →
      declaration.declares name = true ∧ declaration.IsPlain) :
    ∃ declaration, resolved = some declaration ∧
      node.Agrees scopes declaration := by
  cases mentions with
  | reference =>
      have yields := typed.check
      cases typed with
      | reference found =>
          obtain ⟨declaration, same, rfl⟩ :=
            Option.map_eq_some_iff.1 (Except.ok.inj (symbol.symm.trans found))
          exact ⟨declaration, same, .reference yields⟩
  | call =>
      have yields := typed.check
      cases typed with
      | call found bound arguments =>
          obtain ⟨declaration, same, declared⟩ :=
            Option.bind_eq_some_iff.1
              (Except.ok.inj (signature.symm.trans bound))
          obtain ⟨declares, plain⟩ := named declaration same
          refine ⟨declaration, same, ?_⟩
          cases declaration with
          | function returnType other parameters body place =>
              cases declares_iff.1 declares
              cases declared
              have each := forall₂_of_typedArguments plain arguments
              exact .call each.length_eq each yields
          | _ => cases declared

/-- The declaration to which a name resolves is one of the name, and has what
all declarations around the name have. -/
theorem Site.of_resolve? {site : Site} {name : String} {declaration : Node}
    (resolves : site.resolve? name = some declaration) {declared : Node → Prop}
    (around : ∀ frame ∈ site.block :: site.before :: site.outer, ∀ node ∈ frame,
      declared node) :
    declaration.declares name = true ∧ declared declaration := by
  obtain ⟨frame, member, found⟩ := List.exists_of_findSome?_eq_some resolves
  refine ⟨List.find?_some found,
    around frame ?_ _ (List.mem_of_find?_eq_some found)⟩
  rcases List.mem_cons.1 member with rfl | member
  · exact List.mem_cons_self
  · exact List.mem_cons_of_mem _ (List.mem_cons_of_mem _ member)

namespace Program

variable {source file : String} {program : Program}
  {warnings later : List Warning}

theorem check_ok {checked : Program} :
    program.check.run warnings = .ok checked later ↔
      ∃ type, (program.root.check program.scopes).run warnings =
        .ok (checked.root, type) later ∧
        checked.scopes = program.scopes := by
  rw [check, Steps.bind_ok]
  constructor
  · intro success
    obtain ⟨⟨root, type⟩, _, inner, done⟩ := success
    obtain ⟨rfl, rfl⟩ := Steps.pure_ok.1 done
    exact ⟨type, inner, rfl⟩
  · intro parts
    obtain ⟨type, inner, scopes⟩ := parts
    refine ⟨_, _, inner, Steps.pure_ok.2 ⟨?_, rfl⟩⟩
    rw [← scopes]

theorem compile_ok :
    (compile source file).run warnings = .ok program later ↔
      ∃ parsed type, parse source file = .ok parsed ∧
        (parsed.root.check parsed.scopes).run warnings =
          .ok (program.root, type) later ∧
        program.scopes = parsed.scopes := by
  rw [compile]
  cases parse source file with
  | error failure =>
      constructor
      · intro success
        cases success
      · intro parts
        obtain ⟨_, _, impossible, _⟩ := parts
        cases impossible
  | ok parsed =>
      change parsed.check.run warnings = _ ↔ _
      rw [check_ok]
      constructor
      · intro parts
        obtain ⟨type, inner, scopes⟩ := parts
        exact ⟨parsed, type, rfl, inner, scopes⟩
      · intro parts
        obtain ⟨_, type, same, inner, scopes⟩ := parts
        cases same
        exact ⟨type, inner, scopes⟩

/-- The walk over a compiled tree leads to the scopes of the program, as that
over the tree that was read. -/
theorem fits_of_compile
    (success : (compile source file).run warnings = .ok program later) :
    Fits (program.root.outline .done) .initial program.scopes := by
  obtain ⟨parsed, _, read, checked, scopes⟩ := compile_ok.1 success
  rw [scopes]
  exact Node.follows_of_check_ok _ checked Outline.follows_done _ _
    (fits_of_parse read)

/-- The checked tree keeps no construct that the check has not typed. -/
theorem typed_of_compile
    (success : (compile source file).run warnings = .ok program later) :
    program.root.Throughout fun part => ∃ type,
    Typed program.scopes part type := by
  obtain ⟨parsed, _, _, checked, scopes⟩ := compile_ok.1 success
  rw [scopes]
  exact (Node.typed_of_check_ok _ checked).throughout

/-- Each name and each call in a compiled program agrees with the declaration to
which it resolves, and there is one, in the same tree. None of them is missing
among the mentions. -/
theorem resolved_of_compile
    (success : (compile source file).run warnings = .ok program later) :
    (∀ mention ∈ program.root.mentions, ∃ declaration,
      mention.site.resolve? mention.name = some declaration ∧
        declaration.PartOf program.root ∧
        mention.node.Agrees program.scopes declaration) ∧
      ∀ part name scope, part.PartOf program.root → part.Mentions name scope →
        ∃ mention ∈ program.root.mentions, mention.node = part := by
  constructor
  · intro mention mentioned
    have fits := fits_of_compile success
    obtain ⟨⟨within, mentions⟩, parts⟩ := Node.partOf_of_mem_mentions mentioned
    obtain ⟨_, typed⟩ := typed_of_compile success _ within
    obtain ⟨symbol, signature⟩ := Node.lookup_of_mention fits.leads mentioned
    have plain := (Node.all_of_mem_mentions fits.plain mentioned).2
    obtain ⟨declaration, resolves, agrees⟩ :=
      Node.agrees_of_typed typed mentions symbol signature fun _ resolves =>
        Site.of_resolve? resolves plain
    exact ⟨declaration, resolves, (Site.of_resolve? resolves parts).2, agrees⟩
  · intro part name scope within mentions
    exact Node.exists_mention_of_partOf within mentions

theorem resolved_of_compile_shadowed :
    ∃ program later,
      (compile
        "int f(int x) \x7b print x \x7d if f(1) < 2 \x7b int f = 3 print f \x7d"
        "f.code").run [] = .ok program later ∧
      (∀ mention ∈ program.root.mentions, ∃ declaration,
        mention.site.resolve? mention.name = some declaration ∧
          declaration.PartOf program.root ∧
          mention.node.Agrees program.scopes declaration) ∧
        ∀ part name scope, part.PartOf program.root → part.Mentions name scope →
          ∃ mention ∈ program.root.mentions, mention.node = part := by
  obtain ⟨program, later, success⟩ := Steps.exists_ok_of_succeeded <|
    show Steps.succeeded ((compile
      "int f(int x) \x7b print x \x7d if f(1) < 2 \x7b int f = 3 print f \x7d"
        "f.code").run []) =
        true by decide +kernel
  exact ⟨program, later, success, resolved_of_compile success⟩

end Program

end Minilang
