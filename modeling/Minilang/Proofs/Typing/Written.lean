import Minilang.Proofs.Typing.Operands

/-!
# Types in the scopes of compiled programs

Scopes learn types from declarations only, and a declaration has the types that
its words name. So each change of the scopes keeps it that no other type can be
seen in any of them. The main statement, `isWritten_of_compile`, puts this
together with the types of the expressions: in a compiled program neither has a
type that a program could not ask for.
-/

namespace Minilang

/-- The type is none of those for which there is no word. -/
theorem DataType.isWritten_iff {type : DataType} :
    type.IsWritten ↔ type ≠ .void ∧ type ≠ .indexable ∧ type ≠ .untyped := by
  cases type <;> simp [IsWritten]

def Signature.IsWritten (signature : Signature) : Prop :=
  signature.returnType.IsWritten ∧ ∀ entry ∈ signature.parameters,
    entry.2.IsWritten

/-- All types that can be seen in the scope are ones that a program can ask
for. -/
structure Scope.IsWritten (scope : Scope) : Prop where
  symbols (name : String) (type : DataType) :
    scope.symbols.get? name = some type → type.IsWritten
  signatures (name : String) (signature : Signature) :
    scope.signatures.get? name = some signature → signature.IsWritten

namespace Scope

variable {scope later : Scope} {name : String}

theorem isWritten_empty : empty.IsWritten where
  symbols _ _ := nofun
  signatures _ _ := nofun

theorem IsWritten.child (written : scope.IsWritten) : scope.child.IsWritten :=
  ⟨written.symbols, written.signatures⟩

theorem IsWritten.declare? {type : DataType} (written : scope.IsWritten)
    (typeWritten : type.IsWritten)
    (declares : scope.declare? name type = some later) :
    later.IsWritten := by
  obtain ⟨_, rfl⟩ := declare?_eq_some.1 declares
  constructor
  · intro other otherType visible
    rw [Table.get?_insert] at visible
    split at visible
    · cases visible
      exact typeWritten
    · exact written.symbols other otherType visible
  · intro other signature visible
    rw [Table.get?_erase] at visible
    split at visible
    · cases visible
    · exact written.signatures other signature visible

theorem IsWritten.bind {signature : Signature} (written : scope.IsWritten)
    (signatureWritten : signature.IsWritten) :
    (scope.bind name signature).IsWritten where
  symbols := written.symbols
  signatures := by
    intro other otherSignature visible
    rw [Scope.bind, Table.get?_insert] at visible
    split at visible
    · cases visible
      exact signatureWritten
    · exact written.signatures other otherSignature visible

end Scope

namespace Scopes

variable {before after : Scopes} {name : String}

def AreWritten (scopes : Scopes) : Prop :=
  ∀ (id : ScopeId) (scope : Scope), scopes.all[id]? = some scope →
    scope.IsWritten

theorem areWritten_initial : initial.AreWritten := by
  intro id scope found
  have same : id = 0 ∧ scope = .empty := by
    cases id with
    | zero =>
        cases found
        exact ⟨rfl, rfl⟩
    | succ id => cases found
  rw [same.2]
  exact Scope.isWritten_empty

theorem AreWritten.enter (written : before.AreWritten)
    (enters : before.enter = .ok after) :
    after.AreWritten := by
  obtain ⟨parent, scope, stands, rfl⟩ := enter_ok.1 enters
  intro id inner found
  rw [Array.getElem?_push] at found
  split at found
  · cases found
    exact (written parent scope stands.found).child
  · exact written id inner found

theorem AreWritten.exit (written : before.AreWritten)
    (exits : before.exit = .ok after) :
    after.AreWritten := by
  obtain ⟨_, _, _, _, rfl⟩ := exit_ok.1 exits
  exact written

theorem AreWritten.set {id : ScopeId} {later : Scope}
    (written : before.AreWritten)
    (laterWritten : later.IsWritten) : (before.set id later).AreWritten := by
  intro other scope found
  by_cases same : other = id
  · subst same
    obtain ⟨_, rfl⟩ := Array.getElem?_eq_some_iff.1 found
    simpa [Scopes.set] using laterWritten
  · rw [getElem?_set_of_ne same] at found
    exact written other scope found

/-- A declaration adds its own type to the current scope and changes no other
type. -/
theorem AreWritten.declare? {type : DataType} (written : before.AreWritten)
    (typeWritten : type.IsWritten)
    (declares : before.declare? name type = .ok (some after)) :
    after.AreWritten := by
  obtain ⟨id, scope, later, stands, declaring, rfl⟩ := declare?_ok.1 declares
  exact written.set
    ((written id scope stands.found).declare? typeWritten declaring)

theorem AreWritten.bind {signature : Signature} (written : before.AreWritten)
    (signatureWritten : signature.IsWritten)
    (binds : before.bind name signature = .ok after) :
    after.AreWritten := by
  obtain ⟨id, scope, stands, rfl⟩ := bind_ok.1 binds
  exact written.set ((written id scope stands.found).bind signatureWritten)

end Scopes

/-- The node is formed, and so are the parameters of the function that it
declares, if it declares one. -/
def Node.IsFormedDeclaration (node : Node) : Prop :=
  node.IsFormed ∧ ∀ child ∈ node.children, child.IsFormed

namespace Node

variable {node : Node} {returnType : DataType} {name : String}
  {parameters : List Node}
variable {body : Node} {position : Position}

/-- The signature of a function has the types that are written in its head. -/
theorem IsFormedDeclaration.isWritten_signature
    (formed : (Node.function returnType name parameters body
      position).IsFormedDeclaration) :
    (signature returnType parameters).IsWritten := by
  obtain ⟨own, below⟩ := formed
  refine ⟨own.1, fun entry member => ?_⟩
  obtain ⟨parameter, inParameters, same⟩ := List.mem_filterMap.1 member
  have parameterFormed : parameter.IsFormed :=
    below parameter (List.mem_append_left _ inParameters)
  cases parameter with
  | declaration =>
      cases same
      exact parameterFormed.1
  | _ => cases same

end Node

namespace Walk

variable {before after : Scopes} {node : Node}

/-- A function is declared as callable and then given a signature; both are
written. -/
theorem areWritten_of_enact (formed : node.IsFormedDeclaration)
    (leads : (enact node).Leads before after) (written : before.AreWritten) :
    after.AreWritten := by
  cases node with
  | declaration type name initializer position =>
      exact written.declare? formed.1.1 (enact_declaration_leads.1 leads)
  | function returnType name parameters body position =>
      obtain ⟨declared, declares, binds⟩ := enact_function_leads.1 leads
      have callable : DataType.callable.IsWritten :=
        DataType.isWritten_iff.2 (by decide)
      exact (written.declare? callable declares).bind
        formed.isWritten_signature binds
  | _ =>
      cases stay_leads.1 leads
      exact written

end Walk

/-- A walk over declarations that are formed shows no type in any scope that a
program could not ask for. -/
theorem Outline.areWritten_of_replay {outline : Outline} {before after : Scopes}
    (formed : outline.All (fun _ _ _ => True) Node.IsFormedDeclaration)
    (leads : outline.replay.Leads before after) (written : before.AreWritten) :
    after.AreWritten := by
  induction outline generalizing before after with
  | done =>
      cases Walk.stay_leads.1 leads
      exact written
  | mention name scope node rest inductionHypothesis =>
      obtain ⟨middle, passes, leads⟩ := Walk.andThen_leads.1 leads
      obtain ⟨_, rfl⟩ := Walk.pass_leads.1 passes
      exact inductionHypothesis formed.2 leads written
  | declare node rest inductionHypothesis =>
      obtain ⟨middle, enacts, leads⟩ := Walk.andThen_leads.1 leads
      exact inductionHypothesis formed.2 leads
        (Walk.areWritten_of_enact formed.1 enacts written)
  | block inner rest innerHypothesis restHypothesis =>
      obtain ⟨outer, inside, leads⟩ := Walk.andThen_leads.1 leads
      obtain ⟨entered, last, enters, walks, exits⟩ :=
        Walk.inScope_leads.1 inside
      have atEnd := innerHypothesis formed.1 walks (written.enter enters)
      exact restHypothesis formed.2 leads (atEnd.exit exits)

namespace Program

variable {source file : String} {program : Program}
  {warnings later : List Warning}

theorem areWritten_of_compile
    (success : (compile source file).run warnings = .ok program later) :
    program.scopes.AreWritten := by
  have formed := (formed_of_compile success).2
  have declarations : (program.root.outline .done).All (fun _ _ _ => True)
      Node.IsFormedDeclaration := by
    refine Node.all_outline program.root (fun part within =>
      ⟨?_, fun _ _ _ => trivial⟩) trivial
    exact ⟨formed part within, fun child member =>
      formed child (within.child member)⟩
  exact Outline.areWritten_of_replay declarations (fits_of_compile
    success).leads Scopes.areWritten_initial

/-- In a compiled program each expression has a type, and it is one that a
program can ask for. So is each type that can be seen in a scope: those of
names, and those of the results and the parameters of functions. -/
theorem isWritten_of_compile
    (success : (compile source file).run warnings = .ok program later) :
    (∀ node : Node, node.PartOf program.root → node.isExpression = true →
      ∃ type, node.HasType program.scopes type ∧ type.IsWritten) ∧
    (∀ id name type, program.scopes.symbol? id name = .ok (some type) →
      type.IsWritten) ∧
    ∀ id name signature,
      program.scopes.signature? id name = .ok (some signature) →
      signature.returnType.IsWritten ∧
        ∀ parameter ∈ signature.parameters, parameter.2.IsWritten := by
  have written := areWritten_of_compile success
  refine ⟨?_, ?_, ?_⟩
  · intro node within expression
    obtain ⟨type, typed⟩ := typed_of_compile success node within
    have hasWord := hasWord_of_compile success within expression typed
    exact ⟨type, typed.check, DataType.hasWord_iff_isWritten.1 hasWord⟩
  · intro id name type visible
    obtain ⟨scope, found, visible⟩ := Scopes.symbol?_ok.1 visible
    exact (written id scope found).symbols name type visible
  · intro id name signature visible
    obtain ⟨scope, found, visible⟩ := Scopes.signature?_ok.1 visible
    exact (written id scope found).signatures name signature visible

theorem isWritten_of_compile_function :
    ∃ program later,
      (compile
        ("int n float f(int n, callable c) \x7b string s = \"a\" n * 2.5 \x7d " ++
          "if f(1, f) < 3 \x7b float n = f(2, f) \x7d int i = <int> 2.5 == n")
            "f.code").run [] =
          .ok program later ∧
      (∀ node : Node, node.PartOf program.root → node.isExpression = true →
        ∃ type, node.HasType program.scopes type ∧ type.IsWritten) ∧
      (∀ id name type, program.scopes.symbol? id name = .ok (some type) →
        type.IsWritten) ∧
      ∀ id name signature,
        program.scopes.signature? id name = .ok (some signature) →
        signature.returnType.IsWritten ∧
          ∀ parameter ∈ signature.parameters, parameter.2.IsWritten := by
  obtain ⟨program, later, success⟩ := Steps.exists_ok_of_succeeded <|
    show Steps.succeeded ((compile
      ("int n float f(int n, callable c) \x7b string s = \"a\" n * 2.5 \x7d " ++
        "if f(1, f) < 3 \x7b float n = f(2, f) \x7d int i = <int> 2.5 == n")
          "f.code").run []) =
          true by decide +kernel
  exact ⟨program, later, success, isWritten_of_compile success⟩

end Program

end Minilang
