import Minilang.Proofs.Relocation
import Minilang.Proofs.Typing.Typed

/-!
# Checking a tree at other places

A check that succeeds depends on the scopes only through the names that it
finds. Where the same is found, a tree that has been moved is checked like the
tree itself: its check yields the moved result and announces the moved warnings.
The main statements are `check_relocate` and `checkAll_relocate`.
-/

namespace Minilang

def Warning.relocate (place : Position → Position)
    (warning : Warning) : Warning :=
  { warning with position := place warning.position }

/-- What a name means in a scope of the one program, it means in the scope of
the other to which the scope is moved. -/
structure Scopes.SeenIn (scopes other : Scopes)
    (scope : ScopeId → ScopeId) : Prop where
  symbol {id : ScopeId} {name : String} {type : DataType} :
    scopes.symbol? id name = .ok (some type) →
      other.symbol? (scope id) name = .ok (some type)
  signature {id : ScopeId} {name : String} {signature : Signature} :
    scopes.symbol? id name = .ok (some .callable) →
    scopes.signature? id name = .ok (some signature) →
    other.signature? (scope id) name = .ok (some signature)

/-- The warnings that come up on the way from the one list to the other come up
at their new places in another check. -/
def Announces (place : Position → Position)
    (before after otherBefore otherAfter : List Warning) : Prop :=
  ∃ warnings, after = before ++ warnings ∧
    otherAfter = otherBefore ++ warnings.map (Warning.relocate place)

section Announces

variable {place : Position → Position}
  {before middle after otherBefore otherMiddle otherAfter : List Warning}

theorem Announces.refl :
    Announces place before before otherBefore otherBefore :=
  ⟨[], (List.append_nil _).symm, (List.append_nil _).symm⟩

theorem Announces.trans
    (first : Announces place before middle otherBefore otherMiddle)
    (second : Announces place middle after otherMiddle otherAfter) :
    Announces place before after otherBefore otherAfter := by
  obtain ⟨early, reached, otherReached⟩ := first
  obtain ⟨late, ends, otherEnds⟩ := second
  refine ⟨early ++ late, ?_, ?_⟩
  · rw [ends, reached, List.append_assoc]
  · rw [otherEnds, otherReached, List.map_append, List.append_assoc]

end Announces

namespace Node

open Check

variable {scopes other : Scopes} {place : Position → Position}
  {scope : ScopeId → ScopeId}

theorem relocate_widened (node : Node) :
    node.widened.relocate place scope =
      (node.relocate place scope).widened := by
  rw [widened, widened, relocate, position_relocate]

theorem widen_relocate {left right newLeft newRight : Node}
    {leftType rightType type : DataType} {position : Position}
    {warnings later : List Warning}
    (success : (widen left leftType right rightType position).run warnings =
      .ok (newLeft, newRight, type) later)
    (others : List Warning) :
    ∃ othersLater,
        (widen (left.relocate place scope) leftType (right.relocate place scope)
          rightType (place position)).run others =
      .ok (newLeft.relocate place scope, newRight.relocate place scope, type)
        othersLater ∧
      Announces place warnings later others othersLater := by
  rcases kept_or_cast_of_widen_ok success with ⟨common, sameLeft, sameRight,
    noWarning⟩ | ⟨cast, isFloat, announced⟩
  · subst sameLeft sameRight noWarning
    exact ⟨others, widen_of_common? common, .refl⟩
  · subst isFloat announced
    refine ⟨_, ?_, [_], rfl, rfl⟩
    rcases cast with ⟨leftInteger, rightFloat, widened, kept⟩ |
      ⟨leftFloat, rightInteger, kept, widened⟩
    · subst leftInteger rightFloat widened kept
      rw [relocate_widened]
      rfl
    · subst leftFloat rightInteger widened kept
      rw [relocate_widened]
      rfl

theorem checkOperator_relocate {operator : BinaryOperator}
    {left right checked : Node} {leftType rightType type : DataType}
    {position : Position} {warnings later : List Warning}
    (success : (checkOperator operator left leftType right rightType
      position).run warnings = .ok (checked, type) later)
    (others : List Warning) :
    ∃ othersLater, (checkOperator operator (left.relocate place scope) leftType
        (right.relocate place scope) rightType (place position)).run others =
      .ok (checked.relocate place scope, type) othersLater ∧
      Announces place warnings later others othersLater := by
  rcases checkOperator_ok.1 success with ⟨equality, found, same, noWarning⟩ |
    ⟨noEquality, newLeft, newRight, common, widened, same, result⟩
  · subst same noWarning
    exact ⟨others,
      checkOperator_ok.2 (Or.inl ⟨equality, found, rfl, rfl⟩), .refl⟩
  · subst same result
    obtain ⟨othersLater, otherWidened, announces⟩ :=
      widen_relocate widened others
    exact ⟨othersLater, checkOperator_ok.2
      (Or.inr ⟨noEquality, _, _, common, otherWidened, rfl, rfl⟩), announces⟩

mutual

/-- A tree that has been moved is checked like the tree itself. -/
theorem check_relocate (seen : scopes.SeenIn other scope) :
    (node : Node) → {checked : Node} →
    {type : DataType} → {warnings later : List Warning} →
    (node.check scopes).run warnings = .ok (checked, type) later →
    (others : List Warning) →
    ∃ othersLater, ((node.relocate place scope).check other).run others =
        .ok (checked.relocate place scope, type) othersLater ∧
      Announces place warnings later others othersLater
  | .literal _ _, _, _, _, _, success, others => by
      obtain ⟨same, typed, noWarning⟩ := check_literal_ok.1 success
      subst same typed noWarning
      exact ⟨others, check_literal_ok.2 ⟨rfl, rfl, rfl⟩, .refl⟩
  | .reference _ _ _, _, _, _, _, success, others => by
      obtain ⟨found, same, noWarning⟩ := check_reference_ok.1 success
      subst same noWarning
      exact ⟨others, check_reference_ok.2 ⟨seen.symbol found, rfl, rfl⟩, .refl⟩
  | .call _ arguments _ _, _, _, _, _, success, others => by
      obtain ⟨signature, checked, found, bound, count, each, same, typed⟩ :=
        check_call_ok.1 success
      subst same typed
      have counted := (List.length_map (relocate place scope)).trans count
      rw [← List.length_map Prod.snd] at count
      obtain ⟨othersLater, otherEach, announces⟩ :=
        checkArguments_relocate seen arguments count each others
      refine ⟨othersLater, ?_, announces⟩
      rw [relocate, relocate, relocateAll_eq_map, relocateAll_eq_map]
      exact check_call_ok.2 ⟨signature, _, seen.symbol found,
        seen.signature found bound, counted, otherEach, rfl, rfl⟩
  | .binary _ left right _, _, _, _, _, success, others => by
      obtain ⟨_, _, _, _, _, _, first, second, rest⟩ :=
        check_binary_ok.1 success
      obtain ⟨_, otherFirst, firstAnnounces⟩ :=
        check_relocate seen left first others
      obtain ⟨_, otherSecond, secondAnnounces⟩ :=
        check_relocate seen right second _
      obtain ⟨othersLater, otherRest, restAnnounces⟩ :=
        checkOperator_relocate rest _
      exact ⟨othersLater, check_binary_ok.2 ⟨_, _, _, _, _, _, otherFirst,
        otherSecond, otherRest⟩,
        (firstAnnounces.trans secondAnnounces).trans restAnnounces⟩
  | .cast _ operand _, _, _, _, _, success, others => by
      obtain ⟨_, _, inner, different, same, typed⟩ := check_cast_ok.1 success
      subst same typed
      obtain ⟨othersLater, otherInner, announces⟩ :=
        check_relocate seen operand inner others
      exact ⟨othersLater,
        check_cast_ok.2 ⟨_, _, otherInner, different, rfl, rfl⟩, announces⟩
  | .statements items _, _, _, _, _, success, others => by
      obtain ⟨_, inner, same, typed⟩ := check_statements_ok.1 success
      subst same typed
      obtain ⟨othersLater, otherInner, announces⟩ :=
        checkAll_relocate seen items inner others
      refine ⟨othersLater, ?_, announces⟩
      rw [relocate, relocate, relocateAll_eq_map, relocateAll_eq_map]
      exact check_statements_ok.2 ⟨_, otherInner, rfl, rfl⟩
  | .conditional predicate thenBranch none _, _, _, _, _, success, others => by
      obtain ⟨_, _, _, _, _, _, first, second, third, same, typed⟩ :=
        check_conditional_ok.1 success
      obtain ⟨noBranch, noWarning⟩ := checkOption_none_ok.1 third
      subst same typed noBranch noWarning
      obtain ⟨_, otherFirst, firstAnnounces⟩ :=
        check_relocate seen predicate first others
      obtain ⟨othersLater, otherSecond, secondAnnounces⟩ :=
        check_relocate seen thenBranch second _
      exact ⟨othersLater, check_conditional_ok.2 ⟨_, _, _, _, _, none,
        otherFirst, otherSecond, checkOption_none_ok.2 ⟨rfl, rfl⟩, rfl, rfl⟩,
        firstAnnounces.trans secondAnnounces⟩
  | .conditional predicate thenBranch (some elseBranch) _, _, _, _, _,
    success, others => by
      obtain ⟨_, _, _, _, _, _, first, second, third, same, typed⟩ :=
        check_conditional_ok.1 success
      obtain ⟨_, _, inner, found⟩ := checkOption_some_ok.1 third
      subst same typed found
      obtain ⟨_, otherFirst, firstAnnounces⟩ :=
        check_relocate seen predicate first others
      obtain ⟨_, otherSecond, secondAnnounces⟩ :=
        check_relocate seen thenBranch second _
      obtain ⟨othersLater, otherInner, innerAnnounces⟩ :=
        check_relocate seen elseBranch inner _
      exact ⟨othersLater, check_conditional_ok.2 ⟨_, _, _, _, _, some _,
        otherFirst, otherSecond, checkOption_some_ok.2 ⟨_, _, otherInner, rfl⟩,
        rfl, rfl⟩, (firstAnnounces.trans secondAnnounces).trans innerAnnounces⟩
  | .loop predicate body _, _, _, _, _, success, others => by
      obtain ⟨_, _, _, _, first, second, same, typed⟩ := check_loop_ok.1 success
      subst same typed
      obtain ⟨_, otherFirst, firstAnnounces⟩ :=
        check_relocate seen predicate first others
      obtain ⟨othersLater, otherSecond, secondAnnounces⟩ :=
        check_relocate seen body second _
      exact ⟨othersLater, check_loop_ok.2 ⟨_, _, _, _, otherFirst, otherSecond,
        rfl, rfl⟩, firstAnnounces.trans secondAnnounces⟩
  | .print value _, _, _, _, _, success, others => by
      obtain ⟨_, _, inner, same, typed⟩ := check_print_ok.1 success
      subst same typed
      obtain ⟨othersLater, otherInner, announces⟩ :=
        check_relocate seen value inner others
      exact ⟨othersLater, check_print_ok.2 ⟨_, _, otherInner, rfl, rfl⟩,
        announces⟩
  | .declaration _ _ none _, _, _, _, _, success, others => by
      obtain ⟨_, none_, received, same, typed⟩ := check_declaration_ok.1 success
      obtain ⟨noValue, noWarning⟩ := checkOption_none_ok.1 none_
      subst same typed noValue noWarning
      exact ⟨others, check_declaration_ok.2 ⟨none, checkOption_none_ok.2 ⟨rfl,
        rfl⟩, rfl, rfl, rfl⟩, .refl⟩
  | .declaration _ _ (some value) _, _, _, _, _, success, others => by
      obtain ⟨_, some_, received, same, typed⟩ := check_declaration_ok.1 success
      obtain ⟨_, _, inner, found⟩ := checkOption_some_ok.1 some_
      subst same typed found
      obtain ⟨othersLater, otherInner, announces⟩ :=
        check_relocate seen value inner others
      exact ⟨othersLater, check_declaration_ok.2 ⟨some _,
        checkOption_some_ok.2 ⟨_, _, otherInner, rfl⟩, received, rfl,
        rfl⟩, announces⟩
  | .function _ _ parameters body _, _, _, _, _, success, others => by
      obtain ⟨_, _, _, _, first, second, same, typed⟩ :=
        check_function_ok.1 success
      subst same typed
      obtain ⟨_, otherFirst, firstAnnounces⟩ :=
        checkAll_relocate seen parameters first others
      obtain ⟨othersLater, otherSecond, secondAnnounces⟩ :=
        check_relocate seen body second _
      refine ⟨othersLater, ?_, firstAnnounces.trans secondAnnounces⟩
      rw [relocate, relocate, relocateAll_eq_map, relocateAll_eq_map]
      exact check_function_ok.2 ⟨_, _, _, _, otherFirst, otherSecond, rfl, rfl⟩
  | .assignment target value _, _, _, _, _, success, others => by
      obtain ⟨_, _, _, _, first, second, same, typed⟩ :=
        check_assignment_ok.1 success
      subst same typed
      obtain ⟨_, otherFirst, firstAnnounces⟩ :=
        check_relocate seen target first others
      obtain ⟨othersLater, otherSecond, secondAnnounces⟩ :=
        check_relocate seen value second _
      exact ⟨othersLater, check_assignment_ok.2 ⟨_, _, _, _, otherFirst,
        otherSecond, rfl, rfl⟩, firstAnnounces.trans secondAnnounces⟩

/-- Trees that are moved are checked one after the other as before, whatever
warnings there were already. -/
theorem checkAll_relocate (seen : scopes.SeenIn other scope) :
    (nodes : List Node) →
    {checked : List Node} → {warnings later : List Warning} →
    (checkAll scopes nodes).run warnings = .ok checked later →
    (others : List Warning) →
    ∃ othersLater,
        (checkAll other (nodes.map (relocate place scope))).run others =
        .ok (checked.map (relocate place scope)) othersLater ∧
      Announces place warnings later others othersLater
  | [], _, _, _, success, others => by
      obtain ⟨same, noWarning⟩ := checkAll_nil_ok.1 success
      subst same noWarning
      exact ⟨others, checkAll_nil_ok.2 ⟨rfl, rfl⟩, .refl⟩
  | node :: nodes, _, _, _, success, others => by
      obtain ⟨_, _, _, _, first, rest, same⟩ := checkAll_cons_ok.1 success
      subst same
      obtain ⟨_, otherFirst, firstAnnounces⟩ :=
        check_relocate seen node first others
      obtain ⟨othersLater, otherRest, restAnnounces⟩ :=
        checkAll_relocate seen nodes rest _
      exact ⟨othersLater, checkAll_cons_ok.2 ⟨_, _, _, _, otherFirst, otherRest,
        rfl⟩, firstAnnounces.trans restAnnounces⟩

theorem checkArguments_relocate (seen : scopes.SeenIn other scope) :
    (nodes : List Node) →
    {types : List DataType} → {checked : List Node} →
    {warnings later : List Warning} →
    nodes.length = types.length →
    (checkArguments scopes nodes types).run warnings = .ok checked later →
    (others : List Warning) →
    ∃ othersLater,
        (checkArguments other (nodes.map (relocate place scope)) types).run
          others =
        .ok (checked.map (relocate place scope)) othersLater ∧
      Announces place warnings later others othersLater
  | [], [], _, _, _, _, success, others => by
      obtain ⟨same, noWarning⟩ := checkArguments_nil_ok.1 success
      subst same noWarning
      exact ⟨others, checkArguments_nil_ok.2 ⟨rfl, rfl⟩, .refl⟩
  | node :: nodes, _ :: _, _, _, _, count, success, others => by
      obtain ⟨_, _, _, first, rest, same⟩ := checkArguments_cons_ok.1 success
      subst same
      obtain ⟨_, otherFirst, firstAnnounces⟩ :=
        check_relocate seen node first others
      obtain ⟨othersLater, otherRest, restAnnounces⟩ :=
        checkArguments_relocate seen nodes (Nat.succ.inj count) rest _
      exact ⟨othersLater, checkArguments_cons_ok.2 ⟨_, _, _, otherFirst,
        otherRest, rfl⟩, firstAnnounces.trans restAnnounces⟩

end

end Node

end Minilang
