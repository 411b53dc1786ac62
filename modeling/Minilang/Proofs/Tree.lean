import Minilang.Node.Basic

namespace Minilang.Node

/-- The constructs directly inside the construct, in the order of the source. -/
def children : Node → List Node
  | .literal _ _ | .reference _ _ _ => []
  | .call _ arguments _ _ => arguments
  | .binary _ left right _ => [left, right]
  | .cast _ operand _ => [operand]
  | .statements items _ => items
  | .conditional predicate thenBranch elseBranch _ =>
      predicate :: thenBranch :: elseBranch.toList
  | .loop predicate body _ => [predicate, body]
  | .print value _ => [value]
  | .declaration _ _ initializer _ => initializer.toList
  | .function _ _ parameters body _ => parameters ++ [body]
  | .assignment target value _ => [target, value]

/-- The first construct is the second one or stands anywhere inside it. -/
inductive PartOf : Node → Node → Prop where
  | self {node : Node} : PartOf node node
  | inside {part child whole : Node} :
      child ∈ whole.children →
      PartOf part child →
      PartOf part whole

theorem PartOf.child {child node whole : Node} (member : child ∈ node.children)
    (within : node.PartOf whole) : child.PartOf whole := by
  induction within with
  | self => exact .inside member .self
  | inside above _ inductionHypothesis =>
      exact .inside above inductionHypothesis

/-- The property holds of the construct and of everything inside it. -/
def Throughout (holds : Node → Prop) (whole : Node) : Prop :=
  ∀ part : Node, part.PartOf whole → holds part

theorem Throughout.self {holds : Node → Prop} {whole : Node}
    (all : whole.Throughout holds) :
    holds whole :=
  all whole .self

theorem Throughout.child {holds : Node → Prop} {whole child : Node}
    (all : whole.Throughout holds)
    (member : child ∈ whole.children) : child.Throughout holds :=
  fun part within => all part (.inside member within)

theorem sizeOf_lt_of_mem_children {child whole : Node}
    (member : child ∈ whole.children) :
    sizeOf child < sizeOf whole := by
  cases whole with
  | literal => cases member
  | reference => cases member
  | call name arguments =>
      have smaller : sizeOf child < sizeOf arguments :=
        List.sizeOf_lt_of_mem member
      simp only [call.sizeOf_spec]
      omega
  | statements items =>
      have smaller : sizeOf child < sizeOf items := List.sizeOf_lt_of_mem member
      simp only [statements.sizeOf_spec]
      omega
  | function returnType name parameters body =>
      simp only [function.sizeOf_spec]
      rcases List.mem_append.1 member with inParameters | inBody
      · have smaller := List.sizeOf_lt_of_mem inParameters
        omega
      · cases List.mem_singleton.1 inBody
        omega
  | conditional predicate thenBranch elseBranch =>
      simp only [conditional.sizeOf_spec]
      rcases List.mem_cons.1 member with rfl | inBranches
      · omega
      · rcases List.mem_cons.1 inBranches with rfl | inElse
        · omega
        · obtain rfl := Option.mem_toList.1 inElse
          simp only [Option.some.sizeOf_spec]
          omega
  | declaration type name initializer =>
      obtain rfl := Option.mem_toList.1 member
      simp only [declaration.sizeOf_spec, Option.some.sizeOf_spec]
      omega
  | _ =>
      simp only [children, List.mem_cons, List.not_mem_nil, or_false] at member
      rcases member with rfl | rfl <;> simp +arith

/-- What holds of a construct as soon as it holds of those directly inside it
holds of every tree. -/
@[elab_as_elim]
theorem childrenInduction {motive : Node → Prop}
    (inside : ∀ node : Node, (∀ child ∈ node.children, motive child) →
      motive node)
    (node : Node) : motive node :=
  inside node fun child _ => childrenInduction inside child
termination_by node
decreasing_by
  exact sizeOf_lt_of_mem_children ‹_›

/-- All constructs in the tree, each behind those inside it, and otherwise in
the order of the source. -/
def postorder (node : Node) : List Node :=
  node.children.attach.flatMap (fun child => child.1.postorder) ++ [node]
termination_by node
decreasing_by
  exact sizeOf_lt_of_mem_children child.2

theorem postorder_eq (node : Node) :
    node.postorder = node.children.flatMap postorder ++ [node] := by
  rw [postorder, List.flatMap_subtype (fun _ _ => rfl), List.unattach_attach]

/-- The form in which an induction on trees uses the property. -/
theorem throughout_iff {holds : Node → Prop} {whole : Node} :
    whole.Throughout holds ↔ holds whole ∧ ∀ child ∈ whole.children,
    child.Throughout holds := by
  constructor
  · intro all
    exact ⟨all.self, fun child member => all.child member⟩
  · intro parts part within
    cases within with
    | self => exact parts.1
    | inside member rest => exact parts.2 _ member part rest

/-- The construct is a name or a call of a name, and carries the scope. -/
inductive Mentions : Node → String → ScopeId → Prop where
  | reference {name : String} {scope : ScopeId} {position : Position} :
      Mentions (.reference name scope position) name scope
  | call {name : String} {arguments : List Node} {scope : ScopeId}
      {position : Position} :
      Mentions (.call name arguments scope position) name scope

/-- A node mentions one name at most. -/
theorem Mentions.unique {node : Node} {name other : String}
    {scope elsewhere : ScopeId} (mentions : node.Mentions name scope)
    (again : node.Mentions other elsewhere) :
    name = other ∧ scope = elsewhere := by
  cases mentions <;> cases again <;> exact ⟨rfl, rfl⟩

end Minilang.Node
