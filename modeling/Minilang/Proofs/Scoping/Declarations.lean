import Minilang.Node.Basic

/-!
# Declarations

What a declaration makes of the scope in which it stands, and what a scope
answers after a number of declarations: for each name it is the one declaration
of the name that counts.
-/

namespace Minilang

namespace Node

def declaredName? : Node → Option String
  | .declaration _ name _ _ | .function _ name _ _ _ => some name
  | _ => none

def declares (name : String) (node : Node) : Bool :=
  node.declaredName? == some name

def declaredType : Node → DataType
  | .declaration type _ _ _ => type
  | _ => .callable

/-- What calls of the declared name are checked against; nothing if no function
is declared. -/
def declaredSignature? : Node → Option Signature
  | .function returnType _ parameters _ _ =>
      some (signature returnType parameters)
  | _ => none

/-- A function declares its parameters without a first value. -/
def IsPlain : Node → Prop
  | .function _ _ parameters _ _ =>
      ∀ parameter ∈ parameters, ∃ type name position,
        parameter = .declaration type name none position
  | _ => True

theorem declares_iff {name : String} {node : Node} :
    node.declares name = true ↔ node.declaredName? = some name := by
  rw [declares, beq_iff_eq]

end Node

namespace Scope

variable {scope later : Scope} {name : String} {node : Node}
  {nodes others : List Node}

/-- The scope with one more declaration; nothing if it has declared the name
before. -/
def enact? (scope : Scope) : Node → Option Scope
  | .declaration type name _ _ => scope.declare? name type
  | .function returnType name parameters _ _ =>
      (scope.declare? name .callable).map
        (·.bind name (Node.signature returnType parameters))
  | _ => some scope

def enactAll? (scope : Scope) (nodes : List Node) : Option Scope :=
  nodes.foldlM enact? scope

@[simp]
theorem enactAll?_nil : scope.enactAll? [] = some scope :=
  rfl

theorem enactAll?_cons :
    scope.enactAll? (node :: nodes) = (scope.enact? node).bind
      (·.enactAll? nodes) :=
  rfl

theorem enactAll?_append :
    scope.enactAll? (nodes ++ others) = (scope.enactAll? nodes).bind
      (·.enactAll? others) :=
  List.foldlM_append

@[simp]
theorem enactAll?_singleton : scope.enactAll? [node] = scope.enact? node := by
  rw [enactAll?_cons]
  cases scope.enact? node <;> rfl

theorem declare?_eq_some {type : DataType} :
    scope.declare? name type = some later ↔
      name ∉ scope.declared ∧
        later = ⟨scope.symbols.insert name type, name :: scope.declared,
          scope.signatures.erase name⟩ := by
  rw [declare?]
  by_cases declared : name ∈ scope.declared
  · simp [declared]
  · simp [declared, eq_comm]

/-- A declaration is made where its name has not been declared. -/
theorem not_mem_of_enact? (enacts : scope.enact? node = some later)
    (declares : node.declares name = true) : name ∉ scope.declared := by
  have named := Node.declares_iff.1 declares
  cases node with
  | declaration type other initializer position =>
      cases named
      exact (declare?_eq_some.1 enacts).1
  | function returnType other parameters body position =>
      cases named
      obtain ⟨declared, declaring, _⟩ := Option.map_eq_some_iff.1 enacts
      exact (declare?_eq_some.1 declaring).1
  | _ => cases named

/-- What a scope answers after one more declaration. -/
theorem get?_of_enact? (enacts : scope.enact? node = some later)
    (name : String) :
    (name ∈ later.declared ↔ node.declares name = true ∨
      name ∈ scope.declared) ∧
      later.symbols.get? name =
        (if node.declares name then some node.declaredType
        else scope.symbols.get? name) ∧
      later.signatures.get? name =
        (if node.declares name then node.declaredSignature?
        else scope.signatures.get? name) := by
  simp only [Node.declares_iff]
  cases node with
  | declaration type other initializer position =>
      obtain ⟨_, rfl⟩ := declare?_eq_some.1 enacts
      simp [Node.declaredName?, Node.declaredType,
        Node.declaredSignature?, eq_comm]
  | function returnType other parameters body position =>
      obtain ⟨_, declaring, rfl⟩ := Option.map_eq_some_iff.1 enacts
      obtain ⟨_, rfl⟩ := declare?_eq_some.1 declaring
      by_cases same : name = other
      · simp [bind, same, Node.declaredName?, Node.declaredType,
          Node.declaredSignature?]
      · simp [bind, same, Ne.symm same, Node.declaredName?]
  | _ =>
      cases enacts
      simp [Node.declaredName?]

/-- What has been declared is not declared once more. -/
theorem find?_eq_none_of_enactAll? (enacts : scope.enactAll? nodes = some later)
    (declared : name ∈ scope.declared) :
    nodes.find? (·.declares name) = none := by
  induction nodes generalizing scope with
  | nil => rfl
  | cons node nodes inductionHypothesis =>
      rw [enactAll?_cons] at enacts
      obtain ⟨middle, first, rest⟩ := Option.bind_eq_some_iff.1 enacts
      have other : node.declares name = false := by
        rw [← Bool.not_eq_true]
        intro declares
        exact not_mem_of_enact? first declares declared
      rw [List.find?_cons_of_neg (by simp [other])]
      exact inductionHypothesis rest
        ((get?_of_enact? first name).1.2 (Or.inr declared))

/-- Nothing but these declarations is counted as made in the scope itself. -/
theorem mem_declared_of_enactAll? (enacts : scope.enactAll? nodes = some later)
    (name : String) :
    name ∈ later.declared ↔
      (∃ node ∈ nodes, node.declares name = true) ∨ name ∈ scope.declared := by
  induction nodes generalizing scope with
  | nil =>
      cases enacts
      simp
  | cons node nodes inductionHypothesis =>
      rw [enactAll?_cons] at enacts
      obtain ⟨middle, first, rest⟩ := Option.bind_eq_some_iff.1 enacts
      rw [inductionHypothesis rest, (get?_of_enact? first name).1]
      simp [or_assoc, or_left_comm]

/-- After further declarations a scope answers from the one of the name, and
without one as before. -/
theorem get?_of_enactAll? (enacts : scope.enactAll? nodes = some later)
    (name : String) :
    later.symbols.get? name =
        (match nodes.find? (·.declares name) with
        | some node => some node.declaredType
        | none => scope.symbols.get? name) ∧
      later.signatures.get? name =
        (match nodes.find? (·.declares name) with
        | some node => node.declaredSignature?
        | none => scope.signatures.get? name) := by
  induction nodes generalizing scope with
  | nil =>
      cases enacts
      exact ⟨rfl, rfl⟩
  | cons node nodes inductionHypothesis =>
      rw [enactAll?_cons] at enacts
      obtain ⟨middle, first, rest⟩ := Option.bind_eq_some_iff.1 enacts
      obtain ⟨declared, symbols, signatures⟩ := get?_of_enact? first name
      have later := inductionHypothesis rest
      by_cases declares : node.declares name = true
      · have noOther :=
          find?_eq_none_of_enactAll? rest (declared.2 (Or.inl declares))
        rw [noOther, symbols, signatures] at later
        simpa [declares] using later
      · rw [symbols, signatures] at later
        simpa [declares] using later

/-- Only declarations give names a meaning. -/
theorem exists_declares_of_enactAll?
    (enacts : empty.enactAll? nodes = some later)
    (visible : (later.symbols.get? name).isSome = true) :
    ∃ node ∈ nodes, node.declares name = true := by
  rw [(get?_of_enactAll? enacts name).1] at visible
  cases found : nodes.find? (·.declares name) with
  | some node =>
      exact ⟨node, List.mem_of_find?_eq_some found, List.find?_some found⟩
  | none =>
      rw [found] at visible
      cases visible

/-- A declaration is refused only because its name was declared in the same
scope. -/
theorem enact?_eq_some_of_fresh
    (fresh : ∀ name, node.declaredName? = some name → name ∉ scope.declared) :
    ∃ later, scope.enact? node = some later := by
  cases node with
  | declaration type name initializer position =>
      exact ⟨_, declare?_eq_some.2 ⟨fresh name rfl, rfl⟩⟩
  | function returnType name parameters body position =>
      exact ⟨_, Option.map_eq_some_iff.2
        ⟨_, declare?_eq_some.2 ⟨fresh name rfl, rfl⟩, rfl⟩⟩
  | _ => exact ⟨scope, rfl⟩

/-- Declarations can be made if their names differ from each other and from what
has been declared. -/
theorem enactAll?_eq_some_of_nodup
    (distinct : (nodes.filterMap Node.declaredName?).Nodup)
    (fresh : ∀ name ∈ nodes.filterMap Node.declaredName?,
      name ∉ scope.declared) :
    ∃ later, scope.enactAll? nodes = some later := by
  induction nodes generalizing scope with
  | nil => exact ⟨scope, rfl⟩
  | cons node nodes inductionHypothesis =>
      have freshNode : ∀ name, node.declaredName? = some name →
          name ∉ scope.declared := by
        intro name declares
        refine fresh name ?_
        rw [List.filterMap_cons_some declares]
        exact List.mem_cons_self
      obtain ⟨middle, first⟩ := enact?_eq_some_of_fresh freshNode
      have others : (nodes.filterMap Node.declaredName?).Nodup ∧
          ∀ name ∈ nodes.filterMap Node.declaredName?,
            name ∉ middle.declared := by
        cases declares : node.declaredName? with
        | none =>
            rw [List.filterMap_cons_none declares] at distinct fresh
            refine ⟨distinct, fun name member declared => ?_⟩
            rcases (get?_of_enact? first name).1.1 declared with
              declaring | declared
            · rw [Node.declares_iff, declares] at declaring
              cases declaring
            · exact fresh name member declared
        | some other =>
            rw [List.filterMap_cons_some declares] at distinct fresh
            obtain ⟨notAgain, distinct⟩ := List.nodup_cons.1 distinct
            refine ⟨distinct, fun name member declared => ?_⟩
            rcases (get?_of_enact? first name).1.1 declared with
              declaring | declared
            · rw [Node.declares_iff, declares] at declaring
              cases declaring
              exact notAgain member
            · exact fresh name (List.mem_cons_of_mem _ member) declared
      obtain ⟨later, rest⟩ := inductionHypothesis others.1 others.2
      refine ⟨later, ?_⟩
      rw [enactAll?_cons, first]
      exact rest

end Scope

end Minilang
