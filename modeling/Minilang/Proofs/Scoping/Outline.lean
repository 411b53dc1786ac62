import Minilang.Proofs.Scoping.Declarations
import Minilang.Proofs.Tree

/-!
# Outlines

The outline of a tree is what its scopes depend on: the names that it mentions,
the declarations that it makes and the blocks inside it, in the order of the
source. Each mention stands at a site, which says what has been declared around
it.
-/

namespace Minilang

/-- What a stretch of a program mentions, declares and encloses, from its
beginning on. -/
inductive Outline where
  | done
  /-- The name is mentioned by the node, which carries the scope. -/
  | mention (name : String) (scope : ScopeId) (node : Node) (rest : Outline)
  /-- The node is a declaration, which is complete here. -/
  | declare (node : Node) (rest : Outline)
  /-- The inner outline has a scope of its own. -/
  | block (inner rest : Outline)

namespace Node

mutual

/-- The outline of the construct with the given one behind it. -/
def outline : Node → Outline → Outline
  | .literal _ _, rest => rest
  | .reference name scope position, rest =>
      .mention name scope (.reference name scope position) rest
  | .call name arguments scope position, rest =>
      .mention name scope (.call name arguments scope position)
        (outlineAll arguments rest)
  | .binary _ left right _, rest => outline left (outline right rest)
  | .cast _ operand _, rest => outline operand rest
  | .statements items _, rest => outlineAll items rest
  | .conditional predicate thenBranch none _, rest =>
      outline predicate (.block (outline thenBranch .done) rest)
  | .conditional predicate thenBranch (some elseBranch) _, rest =>
      outline predicate
        (.block (outline thenBranch .done)
          (.block (outline elseBranch .done) rest))
  | .loop predicate body _, rest =>
      outline predicate (.block (outline body .done) rest)
  | .print value _, rest => outline value rest
  | .declaration type name none position, rest =>
      .declare (.declaration type name none position) rest
  | .declaration type name (some value) position, rest =>
      outline value (.declare
        (.declaration type name (some value) position) rest)
  | .function returnType name parameters body position, rest =>
      .block (outlineAll parameters (outline body .done))
        (.declare (.function returnType name parameters body position) rest)
  | .assignment target value _, rest => outline target (outline value rest)

def outlineAll : List Node → Outline → Outline
  | [], rest => rest
  | node :: nodes, rest => outline node (outlineAll nodes rest)

end

end Node

/-- What is declared where a name is mentioned. -/
structure Site where
  /-- All declarations that are made directly in the innermost block. -/
  block : List Node
  /-- Those of them that are complete before the mention. -/
  before : List Node
  /-- For each block around it, from the innermost on, the declarations made
  directly in it that are complete where the block inside it begins. -/
  outer : List (List Node)

/-- A node that mentions a name, with its site. -/
structure Mention where
  name : String
  scope : ScopeId
  node : Node
  site : Site

/-- The declaration that the name resolves to: the one that is made in the
innermost block, no matter where in it, and else the one that is made in the
nearest block around it in time. -/
def Site.resolve? (site : Site) (name : String) : Option Node :=
  (site.block :: site.outer).findSome? (·.find? (·.declares name))

namespace Outline

/-- The declarations that are made directly and not in a block inside. -/
def declarations : Outline → List Node
  | done => []
  | mention _ _ _ rest => rest.declarations
  | declare node rest => node :: rest.declarations
  | block _ rest => rest.declarations

/-- The mentions in the outline, at the site where it begins. -/
def mentions (site : Site) : Outline → List Mention
  | done => []
  | mention name scope node rest =>
      ⟨name, scope, node, site⟩ :: rest.mentions site
  | declare node rest =>
      rest.mentions { site with before := site.before ++ [node] }
  | block inner rest =>
      inner.mentions ⟨inner.declarations, [], site.before :: site.outer⟩ ++
        rest.mentions site

end Outline

def Node.mentions (root : Node) : List Mention :=
  (root.outline .done).mentions ⟨(root.outline .done).declarations, [], []⟩

namespace Outline

/-- Each mention and each declaration in the outline has the property. -/
def All (mentioned : String → ScopeId → Node → Prop)
    (declared : Node → Prop) : Outline → Prop
  | done => True
  | mention name scope node rest =>
      mentioned name scope node ∧ rest.All mentioned declared
  | declare node rest => declared node ∧ rest.All mentioned declared
  | block inner rest =>
      inner.All mentioned declared ∧ rest.All mentioned declared

variable {mentioned : String → ScopeId → Node → Prop} {declared : Node → Prop}
  {outline : Outline}

theorem All.declarations (all : outline.All mentioned declared) :
    ∀ node ∈ outline.declarations, declared node := by
  induction outline with
  | done => exact List.forall_mem_nil _
  | mention name scope node rest inductionHypothesis =>
      exact inductionHypothesis all.2
  | declare node rest inductionHypothesis =>
      exact List.forall_mem_cons.2 ⟨all.1, inductionHypothesis all.2⟩
  | block inner rest _ inductionHypothesis => exact inductionHypothesis all.2

/-- What holds all over an outline holds of its mentions and of what is declared
around them. -/
theorem All.mentions (all : outline.All mentioned declared) {site : Site}
    (around : ∀ frame ∈ site.block :: site.before :: site.outer, ∀ node ∈ frame,
      declared node) :
    ∀ mention ∈ outline.mentions site,
      mentioned mention.name mention.scope mention.node ∧
      ∀ frame ∈ mention.site.block :: mention.site.before :: mention.site.outer,
        ∀ node ∈ frame, declared node := by
  induction outline generalizing site with
  | done => exact List.forall_mem_nil _
  | mention name scope node rest inductionHypothesis =>
      exact List.forall_mem_cons.2 ⟨⟨all.1, around⟩,
        inductionHypothesis all.2 around⟩
  | declare node rest inductionHypothesis =>
      refine inductionHypothesis all.2 ?_
      simp only [List.forall_mem_cons] at around ⊢
      refine ⟨around.1, ?_, around.2.2⟩
      exact List.forall_mem_append.2 ⟨around.2.1,
        List.forall_mem_singleton.2 all.1⟩
  | block inner rest innerHypothesis restHypothesis =>
      refine List.forall_mem_append.2 ⟨innerHypothesis all.1 ?_,
        restHypothesis all.2 around⟩
      simp only [List.forall_mem_cons] at around ⊢
      exact ⟨all.1.declarations, List.forall_mem_nil _, around.2⟩

end Outline

namespace Node

mutual

/-- What holds throughout a tree holds all over its outline. -/
theorem all_outline {mentioned : String → ScopeId → Node → Prop}
    {declared : Node → Prop} :
    (node : Node) →
    node.Throughout (fun part => declared part ∧
      ∀ name scope, part.Mentions name scope → mentioned name scope part) →
    {rest : Outline} → rest.All mentioned declared →
    (node.outline rest).All mentioned declared
  | .literal _ _, _, _, all => all
  | .reference _ _ _, parts, _, all => ⟨parts.self.2 _ _ .reference, all⟩
  | .call _ arguments _ _, parts, _, all =>
      ⟨parts.self.2 _ _ .call,
        all_outlineAll arguments (fun _ member => parts.child member) all⟩
  | .binary _ left right _, parts, _, all =>
      all_outline left (parts.child (by simp [children])) <|
        all_outline right (parts.child (by simp [children])) all
  | .cast _ operand _, parts, _, all =>
      all_outline operand (parts.child (by simp [children])) all
  | .statements items _, parts, _, all =>
      all_outlineAll items (fun _ member => parts.child member) all
  | .conditional predicate thenBranch none _, parts, _, all =>
      all_outline predicate (parts.child (by simp [children]))
        ⟨all_outline thenBranch (parts.child (by simp [children])) trivial, all⟩
  | .conditional predicate thenBranch (some elseBranch) _, parts, _, all =>
      all_outline predicate (parts.child (by simp [children]))
        ⟨all_outline thenBranch (parts.child (by simp [children])) trivial,
          all_outline elseBranch (parts.child (by simp [children]))
            trivial, all⟩
  | .loop predicate body _, parts, _, all =>
      all_outline predicate (parts.child (by simp [children]))
        ⟨all_outline body (parts.child (by simp [children])) trivial, all⟩
  | .print value _, parts, _, all =>
      all_outline value (parts.child (by simp [children])) all
  | .declaration _ _ none _, parts, _, all => ⟨parts.self.1, all⟩
  | .declaration _ _ (some value) _, parts, _, all =>
      all_outline value (parts.child (by simp [children])) ⟨parts.self.1, all⟩
  | .function _ _ parameters body _, parts, _, all =>
      ⟨all_outlineAll parameters (fun _ member =>
        parts.child (List.mem_append_left _ member)) <|
        all_outline body (parts.child (by simp [children])) trivial,
          parts.self.1, all⟩
  | .assignment target value _, parts, _, all =>
      all_outline target (parts.child (by simp [children])) <|
        all_outline value (parts.child (by simp [children])) all

theorem all_outlineAll {mentioned : String → ScopeId → Node → Prop}
    {declared : Node → Prop} :
    (nodes : List Node) →
    (∀ node ∈ nodes, node.Throughout (fun part => declared part ∧
      ∀ name scope, part.Mentions name scope → mentioned name scope part)) →
    {rest : Outline} → rest.All mentioned declared →
    (outlineAll nodes rest).All mentioned declared
  | [], _, _, all => all
  | node :: nodes, parts, _, all =>
      all_outline node (parts _ List.mem_cons_self) <|
        all_outlineAll nodes (fun _ member =>
          parts _ (List.mem_cons_of_mem _ member)) all

end

/-- What holds all over the outline of a tree holds of each mention in it, and
of what is declared around. -/
theorem all_of_mem_mentions {mentioned : String → ScopeId → Node → Prop}
    {declared : Node → Prop} {root : Node} {mention : Mention}
    (all : (root.outline .done).All mentioned declared)
    (member : mention ∈ root.mentions) :
    mentioned mention.name mention.scope mention.node ∧
      ∀ frame ∈ mention.site.block :: mention.site.before :: mention.site.outer,
        ∀ node ∈ frame, declared node := by
  refine all.mentions ?_ mention member
  simp only [List.forall_mem_cons]
  exact ⟨all.declarations, List.forall_mem_nil _, List.forall_mem_nil _⟩

/-- Each mention is a name or a call in the tree, and what is declared around it
is in the tree too. -/
theorem partOf_of_mem_mentions {root : Node} {mention : Mention}
    (mentioned : mention ∈ root.mentions) :
    (mention.node.PartOf root ∧
      mention.node.Mentions mention.name mention.scope) ∧
      ∀ frame ∈ mention.site.block :: mention.site.before :: mention.site.outer,
        ∀ node ∈ frame, node.PartOf root := by
  have all : (root.outline .done).All (fun name scope node => node.PartOf root ∧
      node.Mentions name scope) (·.PartOf root) :=
    all_outline root
      (fun _ part => ⟨part, fun _ _ mentions => ⟨part, mentions⟩⟩) trivial
  exact all_of_mem_mentions all mentioned

end Node

/-! ## Every name and every call is mentioned -/

def Outline.nodes : Outline → List Node
  | done => []
  | mention _ _ node rest => node :: rest.nodes
  | declare _ rest => rest.nodes
  | block inner rest => inner.nodes ++ rest.nodes

theorem Outline.map_node_mentions (outline : Outline) (site : Site) :
    (outline.mentions site).map Mention.node = outline.nodes := by
  induction outline generalizing site with
  | done => rfl
  | mention name scope node rest inductionHypothesis =>
      rw [mentions, List.map_cons, inductionHypothesis, nodes]
  | declare node rest inductionHypothesis => exact inductionHypothesis _
  | block inner rest innerHypothesis restHypothesis =>
      rw [mentions, List.map_append, innerHypothesis, restHypothesis, nodes]

namespace Node

mutual

/-- What a construct mentions comes before what is mentioned behind it. -/
theorem nodes_outline : (node : Node) → (rest : Outline) →
    (node.outline rest).nodes = (node.outline .done).nodes ++ rest.nodes
  | .literal _ _, _ => rfl
  | .reference _ _ _, _ => rfl
  | .call _ arguments _ _, rest => by
      simp only [outline, Outline.nodes, nodes_outlineAll arguments rest,
        List.cons_append]
  | .binary _ left right _, rest => by
      simp only [outline, nodes_outline left (right.outline rest),
        nodes_outline right rest, nodes_outline left (right.outline .done),
        List.append_assoc]
  | .cast _ operand _, rest => nodes_outline operand rest
  | .statements items _, rest => nodes_outlineAll items rest
  | .conditional predicate thenBranch none _, rest => by
      simp only [outline, nodes_outline predicate (.block _ _), Outline.nodes,
        List.append_assoc, List.append_nil]
  | .conditional predicate thenBranch (some elseBranch) _, rest => by
      simp only [outline, nodes_outline predicate (.block _ _), Outline.nodes,
        List.append_assoc, List.append_nil]
  | .loop predicate body _, rest => by
      simp only [outline, nodes_outline predicate (.block _ _), Outline.nodes,
        List.append_assoc, List.append_nil]
  | .print value _, rest => nodes_outline value rest
  | .declaration _ _ none _, _ => rfl
  | .declaration _ _ (some value) _, rest => by
      simp only [outline, nodes_outline value (.declare _ _), Outline.nodes,
        List.append_nil]
  | .function _ _ parameters body _, rest => by
      simp only [outline, Outline.nodes, List.append_nil]
  | .assignment target value _, rest => by
      simp only [outline, nodes_outline target (value.outline rest),
        nodes_outline value rest, nodes_outline target (value.outline .done),
        List.append_assoc]

theorem nodes_outlineAll : (nodes : List Node) → (rest : Outline) →
    (outlineAll nodes rest).nodes = (outlineAll nodes .done).nodes ++ rest.nodes
  | [], _ => rfl
  | node :: nodes, rest => by
      simp only [outlineAll, nodes_outline node (outlineAll nodes rest),
        nodes_outlineAll nodes rest,
        nodes_outline node (outlineAll nodes .done), List.append_assoc]

end

theorem nodes_outlineAll_eq_flatMap (nodes : List Node) :
    (outlineAll nodes .done).nodes = nodes.flatMap fun node =>
      (node.outline .done).nodes := by
  induction nodes with
  | nil => rfl
  | cons node nodes inductionHypothesis =>
      rw [outlineAll, nodes_outline, inductionHypothesis, List.flatMap_cons]

/-- A construct mentions what its parts mention, one after the other, perhaps
behind itself. -/
theorem nodes_outline_eq_flatMap (node : Node) :
    ∃ own, (node.outline .done).nodes =
      own ++ node.children.flatMap fun child =>
        (child.outline .done).nodes := by
  cases node with
  | literal | reference => exact ⟨_, (List.append_nil _).symm⟩
  | call name arguments scope position =>
      refine ⟨[.call name arguments scope position], ?_⟩
      rw [outline, Outline.nodes, nodes_outlineAll_eq_flatMap]
      rfl
  | conditional predicate thenBranch elseBranch position =>
      refine ⟨[], ?_⟩
      cases elseBranch with
      | none =>
          simp [outline, nodes_outline predicate (.block _ _),
            Outline.nodes, children]
      | some elseBranch =>
          simp [outline, nodes_outline predicate (.block _ _),
            Outline.nodes, children]
  | declaration type name initializer position =>
      refine ⟨[], ?_⟩
      cases initializer with
      | none => rfl
      | some value =>
          simp [outline, nodes_outline value (.declare _ _),
            Outline.nodes, children]
  | binary operator left right position =>
      exact ⟨[],
        by simp [outline, nodes_outline left (right.outline _), children]⟩
  | assignment target value position =>
      exact ⟨[],
        by simp [outline, nodes_outline target (value.outline _), children]⟩
  | cast | print => exact ⟨[], by simp [outline, children]⟩
  | statements items => exact ⟨[], nodes_outlineAll_eq_flatMap items⟩
  | loop predicate body position =>
      exact ⟨[], by
        simp [outline, nodes_outline predicate (.block _ _),
          Outline.nodes, children]⟩
  | function returnType name parameters body position =>
      exact ⟨[], by
        simp [outline, nodes_outlineAll parameters (body.outline _),
          Outline.nodes, children, nodes_outlineAll_eq_flatMap]⟩

/-- Every name and every call in a tree is among its mentions. -/
theorem exists_mention_of_partOf {root part : Node} {name : String}
    {scope : ScopeId} (within : part.PartOf root)
    (mentions : part.Mentions name scope) :
    ∃ mention ∈ root.mentions, mention.node = part := by
  have self : part ∈ (part.outline .done).nodes := by
    cases mentions with
    | reference => exact List.mem_cons_self
    | call => exact List.mem_cons_self
  have listed : part ∈ (root.outline .done).nodes := by
    clear mentions
    induction within with
    | self => exact self
    | @inside child whole member _ inductionHypothesis =>
        obtain ⟨own, split⟩ := whole.nodes_outline_eq_flatMap
        rw [split, List.mem_append, List.mem_flatMap]
        exact Or.inr ⟨child, member, inductionHypothesis⟩
  rw [← Outline.map_node_mentions _ ⟨(root.outline .done).declarations, [],
    []⟩] at listed
  exact List.mem_map.1 listed

end Node

end Minilang
