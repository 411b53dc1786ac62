import Minilang.Node.Basic

/-!
# Equality of trees

Two trees are the same when they have the same shape, texts, scopes and places
throughout. The main statement, `same_iff`, says that the test finds exactly
this.
-/

namespace Minilang.Node

mutual

/-- Whether the two trees are the same. -/
def same : Node → Node → Bool
  | literal value position, other =>
      match other with
      | literal value' position' => value == value' && position == position'
      | _ => false
  | reference name scope position, other =>
      match other with
      | reference name' scope' position' =>
          name == name' && scope == scope' && position == position'
      | _ => false
  | call name arguments scope position, other =>
      match other with
      | call name' arguments' scope' position' =>
          name == name' && sameAll arguments arguments' && scope == scope' &&
            position == position'
      | _ => false
  | binary operator left right position, other =>
      match other with
      | binary operator' left' right' position' =>
          operator == operator' && same left left' && same right right' &&
            position == position'
      | _ => false
  | cast target operand position, other =>
      match other with
      | cast target' operand' position' =>
          target == target' && same operand operand' && position == position'
      | _ => false
  | statements items position, other =>
      match other with
      | statements items' position' =>
          sameAll items items' && position == position'
      | _ => false
  | conditional predicate thenBranch elseBranch position, other =>
      match other with
      | conditional predicate' thenBranch' elseBranch' position' =>
          same predicate predicate' && same thenBranch thenBranch' &&
            sameOption elseBranch elseBranch' && position == position'
      | _ => false
  | loop predicate body position, other =>
      match other with
      | loop predicate' body' position' =>
          same predicate predicate' && same body body' && position == position'
      | _ => false
  | print value position, other =>
      match other with
      | print value' position' => same value value' && position == position'
      | _ => false
  | declaration type name initializer position, other =>
      match other with
      | declaration type' name' initializer' position' =>
          type == type' && name == name' &&
            sameOption initializer initializer' &&
            position == position'
      | _ => false
  | function returnType name parameters body position, other =>
      match other with
      | function returnType' name' parameters' body' position' =>
          returnType == returnType' && name == name' &&
            sameAll parameters parameters' &&
            same body body' && position == position'
      | _ => false
  | assignment target value position, other =>
      match other with
      | assignment target' value' position' =>
          same target target' && same value value' && position == position'
      | _ => false

def sameAll : List Node → List Node → Bool
  | [], others => others.isEmpty
  | node :: nodes, others =>
      match others with
      | [] => false
      | other :: others => same node other && sameAll nodes others

def sameOption : Option Node → Option Node → Bool
  | none, other => other.isNone
  | some node, other =>
      match other with
      | none => false
      | some other => same node other

end

mutual

/-- The test tells trees apart exactly where they differ. -/
theorem same_iff : (node other : Node) → same node other = true ↔ node = other
  | literal .., other => by cases other <;> simp [same]
  | reference .., other => by cases other <;> simp [same, and_assoc]
  | call _ arguments _ _, other => by
      have arguments := sameAll_iff arguments
      cases other <;> simp [same, arguments, and_assoc]
  | binary _ left right _, other => by
      have left := same_iff left
      have right := same_iff right
      cases other <;> simp [same, left, right, and_assoc]
  | cast _ operand _, other => by
      have operand := same_iff operand
      cases other <;> simp [same, operand, and_assoc]
  | statements items _, other => by
      have items := sameAll_iff items
      cases other <;> simp [same, items]
  | conditional predicate thenBranch elseBranch _, other => by
      have predicate := same_iff predicate
      have thenBranch := same_iff thenBranch
      have elseBranch := sameOption_iff elseBranch
      cases other <;> simp [same, predicate, thenBranch, elseBranch, and_assoc]
  | loop predicate body _, other => by
      have predicate := same_iff predicate
      have body := same_iff body
      cases other <;> simp [same, predicate, body, and_assoc]
  | print value _, other => by
      have value := same_iff value
      cases other <;> simp [same, value]
  | declaration _ _ initializer _, other => by
      have initializer := sameOption_iff initializer
      cases other <;> simp [same, initializer, and_assoc]
  | function _ _ parameters body _, other => by
      have parameters := sameAll_iff parameters
      have body := same_iff body
      cases other <;> simp [same, parameters, body, and_assoc]
  | assignment target value _, other => by
      have target := same_iff target
      have value := same_iff value
      cases other <;> simp [same, target, value, and_assoc]

theorem sameAll_iff : (nodes others : List Node) → sameAll nodes others = true ↔
    nodes = others
  | [], others => by cases others <;> simp [sameAll]
  | node :: nodes, others => by
      have node := same_iff node
      have nodes := sameAll_iff nodes
      cases others <;> simp [sameAll, node, nodes]

theorem sameOption_iff :
    (node other : Option Node) → sameOption node other = true ↔ node = other
  | none, other => by cases other <;> simp [sameOption]
  | some node, other => by
      have node := same_iff node
      cases other <;> simp [sameOption, node]

end

instance : DecidableEq Node := fun node other =>
  decidable_of_iff _ (same_iff node other)

end Minilang.Node
