import Minilang.Proofs.Tree

/-!
# Moving a tree

A tree is moved to other places and scopes by changing what its nodes carry,
while all else stays as it is. Two trees are the same up to what a move forgets
if it makes them equal.
-/

namespace Minilang.Node

mutual

/-- The tree with its places and scopes changed. -/
def relocate (place : Position → Position)
    (scope : ScopeId → ScopeId) : Node → Node
  | literal value position => .literal value (place position)
  | reference name id position => .reference name (scope id) (place position)
  | call name arguments id position =>
      .call name (relocateAll place scope arguments) (scope id) (place position)
  | binary operator left right position =>
      .binary operator (relocate place scope left) (relocate place scope right)
        (place position)
  | cast target operand position =>
      .cast target (relocate place scope operand) (place position)
  | statements items position =>
      .statements (relocateAll place scope items) (place position)
  | conditional predicate thenBranch elseBranch position =>
      .conditional (relocate place scope predicate)
        (relocate place scope thenBranch)
        (relocateOption place scope elseBranch) (place position)
  | loop predicate body position =>
      .loop (relocate place scope predicate) (relocate place scope body)
        (place position)
  | print value position => .print (relocate place scope value) (place position)
  | declaration type name initializer position =>
      .declaration type name (relocateOption place scope initializer)
        (place position)
  | function returnType name parameters body position =>
      .function returnType name (relocateAll place scope parameters)
        (relocate place scope body)
        (place position)
  | assignment target value position =>
      .assignment (relocate place scope target) (relocate place scope value)
        (place position)

def relocateAll (place : Position → Position)
    (scope : ScopeId → ScopeId) : List Node → List Node
  | [] => []
  | node :: nodes => relocate place scope node :: relocateAll place scope nodes

def relocateOption (place : Position → Position) (scope : ScopeId → ScopeId) :
    Option Node → Option Node
  | none => none
  | some node => some (relocate place scope node)

end

variable {place : Position → Position} {scope : ScopeId → ScopeId}

@[simp]
theorem relocateAll_eq_map (nodes : List Node) :
    relocateAll place scope nodes = nodes.map (relocate place scope) := by
  induction nodes with
  | nil => rfl
  | cons node nodes inductionHypothesis =>
      rw [relocateAll, inductionHypothesis, List.map_cons]

@[simp]
theorem relocateOption_eq_map (node : Option Node) :
    relocateOption place scope node = node.map (relocate place scope) := by
  cases node <;> rfl

@[simp]
theorem position_relocate (node : Node) :
    (node.relocate place scope).position = place node.position := by
  cases node <;> rfl

@[simp]
theorem parameter?_relocate (node : Node) :
    (node.relocate place scope).parameter? = node.parameter? := by
  cases node <;> rfl

/-- Signatures carry neither places nor scopes. -/
@[simp]
theorem signature_relocate (returnType : DataType) (parameters : List Node) :
    signature returnType (parameters.map (relocate place scope)) =
      signature returnType parameters := by
  simp only [signature, List.filterMap_map, Function.comp_def,
    parameter?_relocate]

mutual

theorem relocate_id : (node : Node) → node.relocate id id = node
  | .literal _ _ => rfl
  | .reference _ _ _ => rfl
  | .call _ arguments _ _ => by
      rw [relocate, relocateAll_id arguments]
      rfl
  | .binary _ left right _ => by
      rw [relocate, relocate_id left, relocate_id right]
      rfl
  | .cast _ operand _ => by
      rw [relocate, relocate_id operand]
      rfl
  | .statements items _ => by
      rw [relocate, relocateAll_id items]
      rfl
  | .conditional predicate thenBranch elseBranch _ => by
      rw [relocate, relocate_id predicate, relocate_id thenBranch,
        relocateOption_id elseBranch]
      rfl
  | .loop predicate body _ => by
      rw [relocate, relocate_id predicate, relocate_id body]
      rfl
  | .print value _ => by
      rw [relocate, relocate_id value]
      rfl
  | .declaration _ _ initializer _ => by
      rw [relocate, relocateOption_id initializer]
      rfl
  | .function _ _ parameters body _ => by
      rw [relocate, relocateAll_id parameters, relocate_id body]
      rfl
  | .assignment target value _ => by
      rw [relocate, relocate_id target, relocate_id value]
      rfl

theorem relocateAll_id : (nodes : List Node) → relocateAll id id nodes = nodes
  | [] => rfl
  | node :: nodes => by rw [relocateAll, relocate_id node, relocateAll_id nodes]

theorem relocateOption_id :
    (node : Option Node) → relocateOption id id node = node
  | none => rfl
  | some node => by rw [relocateOption, relocate_id node]

end

theorem map_relocate_id (nodes : List Node) :
    nodes.map (relocate id id) = nodes :=
  (relocateAll_eq_map nodes).symm.trans (relocateAll_id nodes)

/-- The tree without its places. -/
def unplaced : Node → Node :=
  relocate (fun _ => .start "") id

/-- The tree without its places and scopes, which no text of a program shows. -/
def bare : Node → Node :=
  relocate (fun _ => .start "") fun _ => 0

section Bare

variable {name : String}
  {value target left right predicate body thenBranch : Node}
  {nodes items : List Node} {option : Option Node} {type : DataType}
  {id : ScopeId} {position : Position}

@[simp]
theorem bare_literal {value : Literal} :
    (literal value position).bare = .literal value (.start "") := rfl

@[simp]
theorem bare_reference :
    (reference name id position).bare = .reference name 0 (.start "") := rfl

@[simp]
theorem bare_call :
    (call name nodes id position).bare =
      .call name (nodes.map bare) 0 (.start "") := by
  rw [bare, relocate, relocateAll_eq_map]

@[simp]
theorem bare_binary {operator : BinaryOperator} :
    (binary operator left right position).bare =
      .binary operator left.bare right.bare (.start "") := rfl

@[simp]
theorem bare_cast :
    (cast type value position).bare = .cast type value.bare (.start "") := rfl

@[simp]
theorem bare_statements :
    (statements items position).bare = .statements
      (items.map bare) (.start "") := by
  rw [bare, relocate, relocateAll_eq_map]

@[simp]
theorem bare_conditional :
    (conditional predicate thenBranch option position).bare =
      .conditional predicate.bare thenBranch.bare
        (option.map bare) (.start "") := by
  rw [bare, relocate, relocateOption_eq_map]

@[simp]
theorem bare_loop :
    (loop predicate body position).bare = .loop predicate.bare body.bare
      (.start "") := rfl

@[simp]
theorem bare_print :
    (print value position).bare = .print value.bare (.start "") := rfl

@[simp]
theorem bare_declaration :
    (declaration type name option position).bare =
      .declaration type name (option.map bare) (.start "") := by
  rw [bare, relocate, relocateOption_eq_map]

@[simp]
theorem bare_function :
    (function type name nodes body position).bare =
      .function type name (nodes.map bare) body.bare (.start "") := by
  rw [bare, relocate, relocateAll_eq_map]

@[simp]
theorem bare_assignment :
    (assignment target value position).bare =
      .assignment target.bare value.bare (.start "") := rfl

end Bare

end Minilang.Node
