import Minilang.Proofs.Scoping.Resolution
import Minilang.Proofs.Steps
import Minilang.Proofs.Tree
import Minilang.Typing

/-!
# How checks fail

The check of a construct rejects the program at the place of the construct or of
one directly inside it, and it asks the scopes only about the scope that the
construct carries. So what is told of these rejections and of the faults of
these questions, throughout a tree, covers every failure of its check:
`failsOnly_check`.
-/

namespace Minilang

open Steps

namespace Scopes

variable {scopes : Scopes} {id : ScopeId} {name : String} {fault : Fault}

theorem get_error_of_symbol? (failed : scopes.symbol? id name = .error fault) :
    scopes.get id = .error fault := by
  rw [symbol?] at failed
  cases found : scopes.get id with
  | ok scope =>
      rw [found] at failed
      cases failed
  | error other =>
      rw [found] at failed
      cases failed
      rfl

theorem get_error_of_signature?
    (failed : scopes.signature? id name = .error fault) :
    scopes.get id = .error fault := by
  rw [signature?] at failed
  cases found : scopes.get id with
  | ok scope =>
      rw [found] at failed
      cases failed
  | error other =>
      rw [found] at failed
      cases failed
      rfl

end Scopes

namespace Check

variable {α : Type} {told : Failure → Prop} {cause : Cause} {place : Position}

theorem failsOnly_fail (own : told (.diagnostic ⟨cause, place⟩)) :
    FailsOnly told (fail cause place : Check α) :=
  failsOnly_throw own

theorem failsOnly_warn {message : String} :
    FailsOnly told (warn message place) := by
  intro warnings failure later failed
  cases failed

theorem failsOnly_lookup {answer : Except Fault α}
    (own : ∀ fault, answer = .error fault → told (.fault fault)) :
    FailsOnly told (lookup answer) := by
  cases answer with
  | ok value => exact failsOnly_pure value
  | error fault => exact failsOnly_throw (own fault rfl)

theorem failsOnly_require {value : Option α}
    (own : told (.diagnostic ⟨cause, place⟩)) :
    FailsOnly told (require value cause place) := by
  cases value with
  | some value => exact failsOnly_pure value
  | none => exact failsOnly_fail own

theorem failsOnly_demand {condition : Bool}
    (own : told (.diagnostic ⟨cause, place⟩)) :
    FailsOnly told (demand condition cause place) := by
  cases condition with
  | true => exact failsOnly_pure ()
  | false => exact failsOnly_fail own

end Check

namespace Node

open Check

variable {told : Failure → Prop} {scopes : Scopes}

/-- What is told covers the rejections at the place of the construct, and the
faults when the scopes are asked for the one that it carries. -/
structure Accounts (told : Failure → Prop) (scopes : Scopes)
    (node : Node) : Prop where
  rejects (cause : Cause) : told (.diagnostic ⟨cause, node.position⟩)
  faults (name : String) (scope : ScopeId) (fault : Fault) :
    node.Mentions name scope → scopes.get scope = .error fault →
      told (.fault fault)

section Operators

variable {left right : Node} {leftType rightType : DataType} {place : Position}
  (own : ∀ cause, told (.diagnostic ⟨cause, place⟩))
include own

theorem failsOnly_widen :
    FailsOnly told (widen left leftType right rightType place) := by
  unfold widen
  split
  · exact failsOnly_fail (own _)
  · exact failsOnly_fail (own _)
  · exact failsOnly_warn.bind fun _ => failsOnly_pure _
  · exact failsOnly_warn.bind fun _ => failsOnly_pure _
  all_goals exact failsOnly_pure _

/-- An operator is rejected at its own place, whichever rule its operands
break. -/
theorem failsOnly_checkOperator {operator : BinaryOperator} :
    FailsOnly told
      (checkOperator operator left leftType right rightType place) := by
  unfold checkOperator
  by_cases equality : operator.isEquality = true
  · rw [if_pos equality]
    exact (failsOnly_require (own _)).bind fun _ => failsOnly_pure _
  · rw [if_neg equality]
    exact (failsOnly_widen own).bind fun _ => failsOnly_pure _

end Operators

theorem failsOnly_calledSignature {name : String} {arguments : List Node}
    {scope : ScopeId} {place : Position}
    (accounts : (call name arguments scope place).Accounts told scopes) :
    FailsOnly told (calledSignature scopes name scope place) := by
  have asks := fun fault => accounts.faults name scope fault .call
  apply (failsOnly_lookup fun fault failed =>
    asks fault (Scopes.get_error_of_symbol? failed)).bind
  intro symbol
  apply (failsOnly_require (accounts.rejects _)).bind
  intro type
  apply (failsOnly_demand (accounts.rejects _)).bind
  intro _
  apply (failsOnly_lookup fun fault failed =>
    asks fault (Scopes.get_error_of_signature? failed)).bind
  intro signature
  exact failsOnly_require (accounts.rejects _)

mutual

/-- The check of a tree fails only as it is accounted for throughout the
tree. -/
theorem failsOnly_check :
    (node : Node) → node.Throughout (Accounts told scopes) →
    FailsOnly told (node.check scopes)
  | .literal value position, _ => by
      rw [check]
      exact failsOnly_pure _
  | .reference name scope position, accounts => by
      rw [check]
      apply (failsOnly_lookup fun fault failed =>
        accounts.self.faults name scope fault .reference
          (Scopes.get_error_of_symbol? failed)).bind
      intro symbol
      exact (failsOnly_require (accounts.self.rejects _)).bind fun _ =>
        failsOnly_pure _
  | .call name arguments scope position, accounts => by
      rw [check]
      apply (failsOnly_calledSignature accounts.self).bind
      intro signature
      apply (failsOnly_demand (accounts.self.rejects _)).bind
      intro _
      apply (failsOnly_checkArguments arguments _ fun _ member =>
        accounts.child member).bind
      intro checked
      exact failsOnly_pure _
  | .binary operator left right position, accounts => by
      rw [check]
      apply (failsOnly_check left (accounts.child (by simp [children]))).bind
      intro first
      apply (failsOnly_check right (accounts.child (by simp [children]))).bind
      intro second
      exact failsOnly_checkOperator accounts.self.rejects
  | .cast target operand position, accounts => by
      rw [check]
      apply (failsOnly_check operand (accounts.child (by simp [children]))).bind
      intro checked
      exact (failsOnly_demand (accounts.self.rejects _)).bind fun _ =>
        failsOnly_pure _
  | .statements items position, accounts => by
      rw [check]
      apply (failsOnly_checkAll items fun _ member =>
        accounts.child member).bind
      intro checked
      exact failsOnly_pure _
  | .conditional predicate thenBranch elseBranch position, accounts => by
      have inPredicate : predicate.Throughout (Accounts told scopes) :=
        accounts.child (by simp [children])
      rw [check]
      apply (failsOnly_check predicate inPredicate).bind
      intro first
      apply (failsOnly_demand (inPredicate.self.rejects _)).bind
      intro _
      apply (failsOnly_check thenBranch
        (accounts.child (by simp [children]))).bind
      intro second
      apply (failsOnly_checkOption elseBranch fun _ member =>
        accounts.child (by simp [children, member])).bind
      intro third
      exact failsOnly_pure _
  | .loop predicate body position, accounts => by
      have inPredicate : predicate.Throughout (Accounts told scopes) :=
        accounts.child (by simp [children])
      rw [check]
      apply (failsOnly_check predicate inPredicate).bind
      intro first
      apply (failsOnly_demand (inPredicate.self.rejects _)).bind
      intro _
      apply (failsOnly_check body (accounts.child (by simp [children]))).bind
      intro second
      exact failsOnly_pure _
  | .print value position, accounts => by
      rw [check]
      apply (failsOnly_check value (accounts.child (by simp [children]))).bind
      intro checked
      exact failsOnly_pure _
  | .declaration type name initializer position, accounts => by
      rw [check]
      apply (failsOnly_checkOption initializer fun _ member =>
        accounts.child (by simp [children, member])).bind
      intro checked
      exact (failsOnly_demand (accounts.self.rejects _)).bind fun _ =>
        failsOnly_pure _
  | .function returnType name parameters body position, accounts => by
      rw [check]
      apply (failsOnly_checkAll parameters fun _ member =>
        accounts.child (List.mem_append_left _ member)).bind
      intro first
      apply (failsOnly_check body (accounts.child (by simp [children]))).bind
      intro second
      exact failsOnly_pure _
  | .assignment target value position, accounts => by
      rw [check]
      apply (failsOnly_check target (accounts.child (by simp [children]))).bind
      intro first
      apply (failsOnly_check value (accounts.child (by simp [children]))).bind
      intro second
      exact (failsOnly_demand (accounts.self.rejects _)).bind fun _ =>
        failsOnly_pure _

theorem failsOnly_checkAll : (nodes : List Node) →
    (∀ node ∈ nodes, node.Throughout (Accounts told scopes)) →
    FailsOnly told (checkAll scopes nodes)
  | [], _ => by
      rw [checkAll]
      exact failsOnly_pure []
  | node :: nodes, accounts => by
      rw [checkAll]
      apply (failsOnly_check node (accounts node List.mem_cons_self)).bind
      intro first
      apply (failsOnly_checkAll nodes fun _ member =>
        accounts _ (List.mem_cons_of_mem _ member)).bind
      intro others
      exact failsOnly_pure _

theorem failsOnly_checkOption : (node : Option Node) →
    (∀ present, node = some present →
      present.Throughout (Accounts told scopes)) →
    FailsOnly told (checkOption scopes node)
  | none, _ => by
      rw [checkOption]
      exact failsOnly_pure none
  | some node, accounts => by
      rw [checkOption]
      exact (failsOnly_check node (accounts node rfl)).bind fun _ =>
        failsOnly_pure _

theorem failsOnly_checkArguments :
    (arguments : List Node) → (types : List DataType) →
    (∀ argument ∈ arguments, argument.Throughout (Accounts told scopes)) →
    FailsOnly told (checkArguments scopes arguments types)
  | [], _, _ => by
      rw [checkArguments]
      · exact failsOnly_pure []
      · simp
  | _ :: _, [], _ => by
      rw [checkArguments]
      · exact failsOnly_pure []
      · simp
  | argument :: arguments, type :: types, accounts => by
      have here := accounts argument List.mem_cons_self
      rw [checkArguments]
      apply (failsOnly_check argument here).bind
      intro first
      apply (failsOnly_demand (here.self.rejects _)).bind
      intro _
      apply (failsOnly_checkArguments arguments types fun _ member =>
        accounts _ (List.mem_cons_of_mem _ member)).bind
      intro others
      exact failsOnly_pure _

end

end Node

end Minilang
