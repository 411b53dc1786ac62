import Minilang.Program
import Minilang.Proofs.Likeness.Expression

namespace Minilang.Likeness

open Grammar

variable {like : Likeness} {bound otherBound : Nat}

/-- The steps read trees of sources that are alike. A tree may use up no text at
all. -/
def ListsAlike (like : Likeness) (bound otherBound : Nat)
    (step otherStep : Parse Node) : Prop :=
  like.Agrees bound otherBound like.tree (fun _ => 0) step otherStep

theorem ListsAlike.within {step otherStep : Parse Node}
    {smaller otherSmaller : Nat}
    (lists : like.ListsAlike bound otherBound step otherStep)
    (within : smaller ≤ bound)
    (otherWithin : otherSmaller ≤ otherBound) :
    like.ListsAlike smaller otherSmaller step otherStep :=
  lists.mono within otherWithin fun _ => Nat.le_refl _

theorem listsAlike_expression :
    like.ListsAlike bound otherBound expression expression :=
  readsAlike_expression.mono (Nat.le_refl _) (Nat.le_refl _) fun _ =>
    Nat.zero_le _

theorem listsAlike_parameter {type : DataType} {place otherPlace : Position}
    (same : like.place place = like.place otherPlace) :
    like.ListsAlike bound otherBound (parameter type place)
      (parameter type otherPlace) := by
  refine agrees_expectIdentifier.bind fun name otherName sameName => ?_
  cases sameName
  refine (agrees_declare same).bind fun _ _ _ => agrees_pure ?_ rfl
  rw [tree, Node.relocate, Node.relocate, same]

theorem listsAlike_expectParameter :
    like.ListsAlike bound otherBound expectParameter expectParameter := by
  refine agrees_position.bind fun place otherPlace same => ?_
  refine agrees_expectType.bind fun type otherType sameType => ?_
  cases sameType
  exact listsAlike_parameter same

theorem agrees_parameters :
    like.Agrees bound otherBound (List.map like.tree) (fun _ => 0)
      parameters parameters := by
  refine agrees_position.bind fun place otherPlace same => ?_
  refine agrees_type.bind fun type otherType sameType => ?_
  cases sameType
  cases type with
  | some type =>
      refine Agrees.bind (listsAlike_parameter same)
        fun first otherFirst sameFirst => ?_
      refine (agrees_many (agrees_afterComma listsAlike_expectParameter)).bind
        fun rest otherRest sameRest => ?_
      refine (agrees_expect (by decide)).bind fun _ _ _ => agrees_pure ?_ rfl
      rw [List.map_cons, List.map_cons, sameFirst, sameRest]
  | none =>
      exact (agrees_expect (by decide)).bind fun _ _ _ => agrees_pure rfl rfl

theorem agrees_initializer :
    like.Agrees bound otherBound (Option.map like.tree) (fun _ => 0)
      initializer initializer := by
  apply (agrees_accept (by decide)).branch
  · refine Agrees.bind listsAlike_expression fun value otherValue same =>
      agrees_pure ?_ rfl
    exact congrArg some same
  · exact agrees_pure rfl rfl

theorem listsAlike_printStatement {place otherPlace : Position}
    (same : like.place place = like.place otherPlace) :
    like.ListsAlike bound otherBound (printStatement place)
      (printStatement otherPlace) := by
  refine Agrees.bind listsAlike_expression fun value otherValue sameValue =>
    agrees_pure ?_ rfl
  rw [tree, Node.relocate, Node.relocate, same]
  exact congrArg (fun value => Node.print value _) sameValue

theorem listsAlike_assignment {place otherPlace : Position}
    (same : like.place place = like.place otherPlace) :
    like.ListsAlike bound otherBound (assignment place)
      (assignment otherPlace) := by
  refine agrees_position.bind fun target otherTarget sameTarget => ?_
  refine agrees_expectIdentifier.bind fun name otherName sameName => ?_
  cases sameName
  refine agrees_currentScope.bind fun scope otherScope sameScope => ?_
  cases sameScope
  refine (agrees_expect (by decide)).bind fun _ _ _ => ?_
  refine Agrees.bind listsAlike_expression fun value otherValue sameValue =>
    agrees_pure ?_ rfl
  rw [tree, Node.relocate, Node.relocate, Node.relocate, Node.relocate,
    same, sameTarget]
  exact congrArg (fun value => Node.assignment _ value _) sameValue

section Lists

variable {list otherList : Parse Node}
  (lists : like.ListsAlike bound otherBound list otherList)

include lists

theorem listsAlike_blockBodyOf :
    like.ListsAlike bound otherBound (blockBodyOf list)
      (blockBodyOf otherList) := by
  refine Agrees.bind lists fun body otherBody same => ?_
  exact (agrees_expect (by decide)).bind fun _ _ _ => agrees_pure same rfl

theorem listsAlike_blockOf :
    like.ListsAlike bound otherBound (blockOf list) (blockOf otherList) :=
  (agrees_expect (by decide)).bind fun _ _ _ =>
    agrees_inScope (listsAlike_blockBodyOf lists)

theorem agrees_elseBranchOf :
    like.Agrees bound otherBound (Option.map like.tree) (fun _ => 0)
      (elseBranchOf list)
      (elseBranchOf otherList) := by
  apply (agrees_acceptKeyword (by decide)).branch
  · have inner := lists.within (Nat.sub_le bound 1) (Nat.sub_le otherBound 1)
    refine Agrees.bind (listsAlike_blockOf inner) fun branch otherBranch same =>
      agrees_pure ?_ rfl
    exact congrArg some same
  · exact agrees_pure rfl rfl

theorem listsAlike_conditionalOf {place otherPlace : Position}
    (same : like.place place = like.place otherPlace) :
    like.ListsAlike bound otherBound (conditionalOf list place)
      (conditionalOf otherList otherPlace) := by
  refine Agrees.bind listsAlike_expression
    fun predicate otherPredicate samePredicate => ?_
  refine Agrees.bind (listsAlike_blockOf lists)
    fun branch otherBranch sameBranch => ?_
  refine Agrees.bind (agrees_elseBranchOf lists)
    fun other otherOther sameOther => ?_
  refine agrees_pure ?_ rfl
  rw [tree, Node.relocate, Node.relocate, Node.relocateOption_eq_map,
    Node.relocateOption_eq_map, same]
  congr 1

theorem listsAlike_loopOf {place otherPlace : Position}
    (same : like.place place = like.place otherPlace) :
    like.ListsAlike bound otherBound (loopOf list place)
      (loopOf otherList otherPlace) := by
  refine Agrees.bind listsAlike_expression
    fun predicate otherPredicate samePredicate => ?_
  refine Agrees.bind (listsAlike_blockOf lists) fun body otherBody sameBody =>
    agrees_pure ?_ rfl
  rw [tree, Node.relocate, Node.relocate, same]
  congr 1

theorem listsAlike_formOf (form : Form) {place otherPlace : Position}
    (same : like.place place = like.place otherPlace) :
    like.ListsAlike bound otherBound (formOf list form place)
      (formOf otherList form otherPlace) := by
  cases form with
  | conditional => exact listsAlike_conditionalOf lists same
  | loop => exact listsAlike_loopOf lists same
  | print => exact listsAlike_printStatement same
  | assignment => exact listsAlike_assignment same

theorem agrees_functionPartsOf :
    like.Agrees bound otherBound
      (Prod.map (List.map like.tree) like.tree) (fun _ => 0)
      (functionPartsOf list) (functionPartsOf otherList) := by
  refine agrees_parameters.bind fun parameters otherParameters sameParameters =>
    ?_
  refine (agrees_expect (by decide)).bind fun _ _ _ => ?_
  refine Agrees.bind (listsAlike_blockBodyOf lists)
    fun body otherBody sameBody => ?_
  exact agrees_pure (Prod.ext sameParameters sameBody) rfl

theorem listsAlike_functionOf {returnType : DataType} {name : String}
    {place otherPlace : Position}
    (same : like.place place = like.place otherPlace) :
    like.ListsAlike bound otherBound (functionOf list returnType name place)
      (functionOf otherList returnType name otherPlace) := by
  refine (agrees_inScope (agrees_functionPartsOf lists)).bind
    fun parts otherParts sameParts => ?_
  obtain ⟨parameters, body⟩ := parts
  obtain ⟨otherParameters, otherBody⟩ := otherParts
  obtain ⟨sameParameters, sameBody⟩ := Prod.mk.inj sameParts
  -- The signature shows nothing of the places.
  have signature : Node.signature returnType parameters =
      Node.signature returnType otherParameters := by
    calc Node.signature returnType parameters
        = Node.signature returnType (parameters.map like.tree) :=
          (Node.signature_relocate returnType parameters).symm
      _ = Node.signature returnType (otherParameters.map like.tree) := by
          rw [sameParameters]
      _ = Node.signature returnType otherParameters :=
          Node.signature_relocate returnType otherParameters
  refine (agrees_declare same).bind fun _ _ _ => ?_
  rw [signature]
  refine agrees_bind.bind fun _ _ _ => agrees_pure ?_ rfl
  rw [tree, Node.relocate, Node.relocate, Node.relocateAll_eq_map,
    Node.relocateAll_eq_map, same]
  congr 1

theorem listsAlike_declarationOf {type : DataType} {place otherPlace : Position}
    (same : like.place place = like.place otherPlace) :
    like.ListsAlike bound otherBound (declarationOf list type place)
      (declarationOf otherList type otherPlace) := by
  refine agrees_expectIdentifier.bind fun name otherName sameName => ?_
  cases sameName
  apply (agrees_accept (by decide)).branch
  · exact listsAlike_functionOf
      (lists.within (Nat.sub_le _ _) (Nat.sub_le _ _)) same
  · refine agrees_initializer.bind fun value otherValue sameValue => ?_
    refine (agrees_declare same).bind fun _ _ _ => agrees_pure ?_ rfl
    rw [tree, Node.relocate, Node.relocate, Node.relocateOption_eq_map,
      Node.relocateOption_eq_map, same]
    congr 1

/-- Each statement that is found uses up some text. -/
theorem agrees_statementOf :
    like.Agrees (bound + 1) (otherBound + 1) (Option.map like.tree) found
      (statementOf list)
      (statementOf otherList) := by
  refine agrees_position.bind fun place otherPlace same => ?_
  refine agrees_formRead?.bind fun form otherForm sameForm => ?_
  cases sameForm
  cases form with
  | some form =>
      refine Agrees.bind (listsAlike_formOf lists form same)
        fun node otherNode sameNode => ?_
      exact agrees_pure (congrArg some sameNode) rfl
  | none =>
      refine agrees_type.bind fun type otherType sameType => ?_
      cases sameType
      cases type with
      | some type =>
          refine Agrees.bind (listsAlike_declarationOf lists same)
            fun node otherNode sameNode => ?_
          exact agrees_pure (congrArg some sameNode) rfl
      | none =>
          apply agrees_atListEnd.branch
          · exact agrees_pure rfl rfl
          · refine Agrees.bind readsAlike_expression
              fun node otherNode sameNode => ?_
            exact agrees_pure (congrArg some sameNode) rfl

theorem listsAlike_statementListOf :
    like.ListsAlike (bound + 1) (otherBound + 1) (statementListOf list)
      (statementListOf otherList) := by
  refine agrees_position.bind fun place otherPlace same => ?_
  refine (agrees_many (agrees_statementOf lists)).bind
    fun items otherItems sameItems => ?_
  refine agrees_pure ?_ rfl
  rw [tree, Node.relocate, Node.relocate, Node.relocateAll_eq_map,
    Node.relocateAll_eq_map, same]
  exact congrArg (fun items => Node.statements items _) sameItems

end Lists

/-- The lists inside a list begin at shorter texts in both sources. -/
theorem listsAlike_statementList :
    like.ListsAlike bound otherBound statementList statementList :=
  agrees_recur fun lists => listsAlike_statementListOf lists

/-- Two readings of whole programs agree. -/
theorem listsAlike_read :
    like.ListsAlike bound otherBound Program.read Program.read := by
  refine Agrees.bind listsAlike_statementList fun root otherRoot same => ?_
  apply agrees_atEnd.branch
  · exact agrees_pure same rfl
  · exact agrees_refuse agrees_describe _

end Minilang.Likeness
