import Minilang.Proofs.Likeness.Steps
import Minilang.Proofs.Relocation
import Minilang.Proofs.Reading.Expression

namespace Minilang.Likeness

open Grammar

variable {like : Likeness} {bound otherBound : Nat}

def tree (like : Likeness) : Node → Node :=
  Node.relocate like.place id

/-- The steps read trees of sources that are alike, and each tree uses up some
text. -/
def ReadsAlike (like : Likeness) (bound otherBound : Nat)
    (step otherStep : Parse Node) : Prop :=
  like.Agrees bound otherBound like.tree (fun _ => 1) step otherStep

theorem ReadsAlike.within {step otherStep : Parse Node}
    {smaller otherSmaller : Nat}
    (reads : like.ReadsAlike bound otherBound step otherStep)
    (within : smaller ≤ bound)
    (otherWithin : otherSmaller ≤ otherBound) :
    like.ReadsAlike smaller otherSmaller step otherStep :=
  reads.mono within otherWithin fun _ => Nat.le_refl _

theorem agrees_expectType :
    like.Agrees bound otherBound id (fun _ => 0) expectType expectType := by
  refine agrees_type.bind fun target otherTarget same => ?_
  cases same
  cases target with
  | some target => exact agrees_pure rfl rfl
  | none => exact agrees_refuse agrees_describe _

theorem agrees_castPrefix :
    like.Agrees bound otherBound id (fun _ => 0) castPrefix castPrefix := by
  apply (agrees_accept (by decide)).branch
  · refine agrees_expectType.bind fun target otherTarget same => ?_
    cases same
    exact (agrees_expect (by decide)).bind fun _ _ _ => agrees_pure rfl rfl
  · exact agrees_pure rfl rfl

theorem agrees_expectIdentifier :
    like.Agrees bound otherBound id (fun _ => 0) expectIdentifier
      expectIdentifier := by
  refine agrees_identifier?.bind fun name otherName same => ?_
  cases same
  cases name with
  | some name => exact agrees_pure rfl rfl
  | none => exact agrees_refuse agrees_describeWord _

theorem agrees_afterComma {α β : Type} {view : α → β} {item otherItem : Parse α}
    (agrees : like.Agrees bound otherBound view (fun _ => 0) item otherItem) :
    like.Agrees bound otherBound (Option.map view) found (afterComma item)
      (afterComma otherItem) := by
  apply (agrees_accept (by decide)).branch
  · have inner :=
      agrees.mono (Nat.sub_le bound 1) (Nat.sub_le otherBound 1) fun _ =>
        Nat.le_refl _
    refine inner.bind fun value otherValue same => agrees_pure ?_ rfl
    exact congrArg some same
  · exact agrees_pure rfl rfl

section Components

variable {inner otherInner : Parse Node}
  (reads : like.ReadsAlike bound otherBound inner otherInner)

include reads

theorem agrees_argumentsOf :
    like.Agrees bound otherBound (List.map like.tree) (fun _ => 0)
      (argumentsOf inner)
      (argumentsOf otherInner) := by
  apply (agrees_accept (by decide)).branch
  · exact agrees_pure rfl rfl
  · refine Agrees.bind reads fun first otherFirst same => ?_
    have others : like.Agrees (bound - 1) (otherBound - 1)
        (List.map like.tree) (fun _ => 0)
        (Parse.many (afterComma inner)) (Parse.many (afterComma otherInner)) :=
      agrees_many (agrees_afterComma
        (reads.mono (Nat.sub_le _ _) (Nat.sub_le _ _) fun _ => Nat.zero_le _))
    refine others.bind fun rest otherRest sameRest => ?_
    refine (agrees_expect (by decide)).bind fun _ _ _ => agrees_pure ?_ rfl
    rw [List.map_cons, List.map_cons, same, sameRest]

theorem agrees_nameOf {name : String} {place otherPlace : Position}
    (same : like.place place = like.place otherPlace) :
    like.Agrees bound otherBound like.tree (fun _ => 0)
      (nameOf inner name place)
      (nameOf otherInner name otherPlace) := by
  refine agrees_currentScope.bind fun scope otherScope sameScope => ?_
  cases sameScope
  apply (agrees_accept (by decide)).branch
  · have arguments := agrees_argumentsOf
      (reads.within (Nat.sub_le bound 1) (Nat.sub_le otherBound 1))
    refine arguments.bind fun values otherValues sameValues =>
      agrees_pure ?_ rfl
    rw [tree, Node.relocate, Node.relocate, Node.relocateAll_eq_map,
      Node.relocateAll_eq_map, same]
    exact congrArg (fun values => Node.call name values scope _) sameValues
  · refine agrees_pure ?_ rfl
    rw [tree, Node.relocate, Node.relocate, same]

theorem readsAlike_primaryOf :
    like.ReadsAlike (bound + 1) (otherBound + 1) (primaryOf inner)
      (primaryOf otherInner) := by
  refine agrees_position.bind fun place otherPlace same => ?_
  refine agrees_number.bind fun number otherNumber sameNumber => ?_
  cases sameNumber
  cases number with
  | some number =>
      refine agrees_pure ?_ rfl
      rw [tree, Node.relocate, Node.relocate, same]
  | none =>
      refine agrees_string.bind fun contents otherContents sameContents => ?_
      cases sameContents
      cases contents with
      | some contents =>
          refine agrees_pure ?_ rfl
          rw [tree, Node.relocate, Node.relocate, same]
      | none =>
          refine agrees_identifier?.bind fun name otherName sameName => ?_
          cases sameName
          cases name with
          | some name => exact agrees_nameOf reads same
          | none =>
              apply (agrees_accept (by decide)).branch
              · refine Agrees.bind reads fun value otherValue sameValue => ?_
                exact (agrees_expect (by decide)).bind fun _ _ _ =>
                  agrees_pure sameValue rfl
              · refine agrees_describeWord.bind
                  fun there otherThere sameText => ?_
                cases sameText
                exact agrees_fail same

theorem readsAlike_componentOf :
    like.ReadsAlike (bound + 1) (otherBound + 1) (componentOf inner)
      (componentOf otherInner) := by
  refine agrees_position.bind fun place otherPlace same => ?_
  refine agrees_castPrefix.bind fun target otherTarget sameTarget => ?_
  cases sameTarget
  refine Agrees.bind (readsAlike_primaryOf reads)
    fun operand otherOperand sameOperand => ?_
  cases target with
  | some target =>
      refine agrees_pure ?_ rfl
      rw [tree, Node.relocate, Node.relocate, same]
      exact congrArg (fun operand => Node.cast target operand _) sameOperand
  | none => exact agrees_pure sameOperand rfl

end Components

def viewLink (like : Likeness) (link : Link) : Link :=
  ⟨link.operator, like.place link.position, like.tree link.right⟩

theorem tree_foldl (first : Node) (links : List Link) :
    like.tree (links.foldl Link.extend first) =
      (links.map like.viewLink).foldl Link.extend (like.tree first) := by
  induction links generalizing first with
  | nil => rfl
  | cons link links inductionHypothesis =>
      rw [List.foldl_cons, inductionHypothesis, List.map_cons, List.foldl_cons]
      rfl

section Chains

variable {operand otherOperand : Parse Node}
  (reads : like.ReadsAlike bound otherBound operand otherOperand)

include reads

theorem agrees_link (level : Level) :
    like.Agrees bound otherBound (Option.map like.viewLink) found
      (link level operand)
      (link level otherOperand) := by
  refine agrees_position.bind fun place otherPlace same => ?_
  refine (agrees_operator? level).bind
    fun operator otherOperator sameOperator => ?_
  cases sameOperator
  cases operator with
  | some operator =>
      have right := reads.within (Nat.sub_le bound 1) (Nat.sub_le otherBound 1)
      refine Agrees.bind right fun value otherValue sameValue =>
        agrees_pure ?_ rfl
      rw [Option.map_some, Option.map_some, viewLink, viewLink, same, sameValue]
  | none => exact agrees_pure rfl rfl

theorem readsAlike_chain (level : Level) :
    like.ReadsAlike bound otherBound (chain level operand)
      (chain level otherOperand) := by
  refine Agrees.bind reads fun first otherFirst same => ?_
  have links := agrees_many (agrees_link
    (reads.within (Nat.sub_le bound 1) (Nat.sub_le otherBound 1)) level)
  refine links.bind fun others otherOthers sameLinks => agrees_pure ?_ rfl
  rw [tree_foldl, tree_foldl, same, sameLinks]

end Chains

theorem readsAlike_levelOf {inner otherInner : Parse Node}
    (reads : like.ReadsAlike bound otherBound inner otherInner)
    (level : Level) :
    like.ReadsAlike (bound + 1) (otherBound + 1) (levelOf inner level)
      (levelOf otherInner level) := by
  rw [levelOf_eq, levelOf_eq]
  apply readsAlike_chain
  rw [operandOf, operandOf]
  cases next : level.next with
  | none => exact readsAlike_componentOf reads
  | some tighter => exact readsAlike_levelOf reads tighter
termination_by level.height
decreasing_by exact Level.height_next next

/-- The expressions inside begin at shorter texts, and the bounds of the two
sources shrink together. -/
theorem readsAlike_expression :
    like.ReadsAlike bound otherBound expression expression :=
  agrees_recur fun reads => readsAlike_levelOf reads .comparison

end Minilang.Likeness
