import Minilang.Proofs.Embedding.Checking
import Minilang.Proofs.Joining.Reading
import Minilang.Proofs.Scoping.Compiled
import Minilang.Proofs.Typing.Widening

namespace Minilang

namespace Joined

variable {first scopes other : Scopes} {around outermost : Scope}

/-- What a name means in the second program, it means in its scope behind the
first. -/
theorem seenIn_second (joined : Joined first around scopes other) :
    scopes.SeenIn other (ScopeId.behind first.all.size) where
  symbol found := by
    obtain ⟨scope, isThere, means⟩ := Scopes.symbol?_ok.1 found
    obtain ⟨otherScope, otherThere, atop⟩ := joined.atop _ scope isThere
    refine Scopes.symbol?_ok.2 ⟨otherScope, otherThere, ?_⟩
    rw [atop.symbols, means, Option.some_or]
  signature found bound := by
    obtain ⟨scope, isThere, means⟩ := Scopes.symbol?_ok.1 found
    obtain ⟨_, again, signed⟩ := Scopes.signature?_ok.1 bound
    cases isThere.symm.trans again
    obtain ⟨otherScope, otherThere, atop⟩ := joined.atop _ scope isThere
    refine Scopes.signature?_ok.2 ⟨otherScope, otherThere, ?_⟩
    rw [atop.signatures, means, signed]
    rfl

/-- A name that has a meaning in a scope of the first program keeps it once the
second program has been read, unless the outermost scope of the second has a
meaning for it. -/
theorem kept_of_visible (joined : Joined first around scopes other)
    (isOutermost : scopes.all[0]? = some outermost)
    (free : ∀ name, (around.symbols.get? name).isSome = true →
      outermost.symbols.get? name = none)
    {id : ScopeId} {scope : Scope} {name : String}
    (isThere : first.all[id]? = some scope)
    (visible : (scope.symbols.get? name).isSome = true) :
    ∃ otherScope, other.all[id]? = some otherScope ∧
      otherScope.symbols.get? name = scope.symbols.get? name ∧
      otherScope.signatures.get? name = scope.signatures.get? name := by
  by_cases shared : id = 0
  · subst shared
    cases joined.outermost.symm.trans isThere
    obtain ⟨otherScope, otherThere, atop⟩ := joined.atop 0 outermost isOutermost
    have noMeaning := free name visible
    refine ⟨otherScope, otherThere, ?_, ?_⟩
    · rw [atop.symbols, noMeaning, Option.none_or]
    · rw [atop.signatures, noMeaning]
      rfl
  · have within := (Array.getElem?_eq_some_iff.1 isThere).1
    exact ⟨scope, (joined.kept id shared within).trans isThere, rfl, rfl⟩

/-- The second program does not hide what the first one sees, as the two declare
different names. -/
theorem seenIn_first (joined : Joined first around scopes other)
    (isOutermost : scopes.all[0]? = some outermost)
    (free : ∀ name, (around.symbols.get? name).isSome = true →
      outermost.symbols.get? name = none) : first.SeenIn other id where
  symbol found := by
    obtain ⟨scope, isThere, means⟩ := Scopes.symbol?_ok.1 found
    obtain ⟨otherScope, otherThere, same, _⟩ :=
      joined.kept_of_visible isOutermost free isThere
        (Option.isSome_of_eq_some means)
    exact Scopes.symbol?_ok.2 ⟨otherScope, otherThere, same.trans means⟩
  signature found bound := by
    obtain ⟨scope, isThere, means⟩ := Scopes.symbol?_ok.1 found
    obtain ⟨_, again, signed⟩ := Scopes.signature?_ok.1 bound
    cases isThere.symm.trans again
    obtain ⟨otherScope, otherThere, _, same⟩ :=
      joined.kept_of_visible isOutermost free isThere
        (Option.isSome_of_eq_some means)
    exact Scopes.signature?_ok.2 ⟨otherScope, otherThere, same.trans signed⟩

end Joined

section Lists

variable {scopes : Scopes} {nodes checked operators : List Node}

theorem Widens.declaredName?_eq {node newNode : Node}
    (widens : Widens scopes node newNode operators) :
    newNode.declaredName? = node.declaredName? := by
  cases widens <;> rfl

/-- A check does not change what is declared directly. -/
theorem WidensAll.filterMap_declaredName?
    (widen : WidensAll scopes nodes checked operators) :
    checked.filterMap Node.declaredName? = nodes.filterMap
      Node.declaredName? := by
  induction nodes generalizing checked operators with
  | nil =>
      cases widen with
      | nil => rfl
  | cons node nodes inductionHypothesis =>
      cases widen with
      | cons first others =>
          rw [List.filterMap_cons, List.filterMap_cons, first.declaredName?_eq,
            inductionHypothesis others]

theorem Node.checkAll_append_ok {others checkedOthers : List Node}
    {warnings middle later : List Warning}
    (first : (checkAll scopes nodes).run warnings = .ok checked middle)
    (second : (checkAll scopes others).run middle = .ok checkedOthers later) :
    (checkAll scopes (nodes ++ others)).run warnings =
      .ok (checked ++ checkedOthers) later := by
  induction nodes generalizing checked warnings with
  | nil =>
      obtain ⟨nothing, same⟩ := checkAll_nil_ok.1 first
      subst nothing same
      exact second
  | cons node nodes inductionHypothesis =>
      obtain ⟨newNode, _, _, newNodes, one, rest, same⟩ :=
        checkAll_cons_ok.1 first
      subst same
      exact checkAll_cons_ok.2 ⟨_, _, _, _, one, inductionHypothesis rest, rfl⟩

end Lists

/-- Statements of both programs are checked one after the other, each as in its
own program. -/
theorem Joined.checkAll {first second other : Scopes} {around outermost : Scope}
    {nodes checked others checkedOthers : List Node}
    {warnings later : List Warning} (joined : Joined first around second other)
    (isOutermost : second.all[0]? = some outermost)
    (free : ∀ name, (around.symbols.get? name).isSome = true →
      outermost.symbols.get? name = none)
    (checks : (Node.checkAll first nodes).run [] = .ok checked warnings)
    (othersCheck : (Node.checkAll second others).run [] =
      .ok checkedOthers later)
    (count : Nat) :
    (Node.checkAll other (nodes ++ others.map
        (Node.relocate (.below count) (.behind first.all.size)))).run [] =
      .ok (checked ++
        checkedOthers.map
          (Node.relocate (.below count) (.behind first.all.size)))
        (warnings ++ later.map (Warning.relocate (.below count))) := by
  obtain ⟨middle, again, own, announced, same⟩ :=
    @Node.checkAll_relocate _ _ id id (joined.seenIn_first isOutermost free) _
    _ _ _ checks []
  obtain ⟨last, othersAgain, further, othersAnnounced, goesOn⟩ :=
    @Node.checkAll_relocate _ _ (Position.below count) _ joined.seenIn_second _
    _ _ _ othersCheck middle
  rw [Node.map_relocate_id, Node.map_relocate_id] at again
  have unmoved : own.map (Warning.relocate id) = own := List.map_id own
  rw [unmoved, ← announced] at same
  rw [List.nil_append] at othersAnnounced
  subst same othersAnnounced goesOn
  exact Node.checkAll_append_ok again othersAgain

namespace Program

variable {source other file : String} {program first second : Program}
  {warnings later : List Warning}

/-- To compile a program is to check its statements one after the other. -/
theorem checkAll_of_compile
    (compiled : (compile source file).run warnings = .ok program later) :
    ∃ parsed, parse source file = .ok parsed ∧ program.scopes = parsed.scopes ∧
      (Node.checkAll parsed.scopes parsed.root.children).run warnings =
        .ok program.root.children later := by
  obtain ⟨parsed, _, read, checks, scopes⟩ := compile_ok.1 compiled
  obtain ⟨items, stop, _, _, same⟩ := Grammar.parse_ok.1 read
  subst same
  obtain ⟨checked, each, isList, _⟩ := Node.check_statements_ok.1 checks
  refine ⟨_, read, scopes, ?_⟩
  rw [isList]
  exact each

/-- If no name is declared directly in both of two programs, none has a meaning
in the outermost scopes of both. -/
theorem free_of_disjoint {nodes others : List Node} {around outermost : Scope}
    (distinct : (nodes.filterMap Node.declaredName?).Disjoint
      (others.filterMap Node.declaredName?))
    (enacts : Scope.empty.enactAll? nodes = some around)
    (othersEnact : Scope.empty.enactAll? others = some outermost)
    (name : String)
    (visible : (around.symbols.get? name).isSome = true) :
    outermost.symbols.get? name = none := by
  obtain ⟨node, member, declares⟩ :=
    Scope.exists_declares_of_enactAll? enacts visible
  by_contra means
  obtain ⟨other, otherMember, otherDeclares⟩ :=
    Scope.exists_declares_of_enactAll? othersEnact
      (Option.isSome_iff_ne_none.2 means)
  exact Node.not_declares_of_disjoint distinct member declares other otherMember
    otherDeclares

/-- Where one program ends and another begins in the same source, neither sees
the other, unless both declare the same name directly or the second begins with
a symbol over which the last statement of the first may go on. The statements of
the second, and its warnings, are so many lines further below, and its scopes
but the outermost one are numbered behind those of the first. -/
theorem compile_joined
    (compiled : (compile source file).run [] = .ok first warnings)
    (otherCompiled : (compile other file).run [] = .ok second later)
    (distinct : (first.root.children.filterMap Node.declaredName?).Disjoint
      (second.root.children.filterMap Node.declaredName?))
    (noParenthesis : (Cursor.start other file).rest.head? ≠ some '(')
    (noAngle : (Cursor.start other file).rest.head? ≠ some '<') :
    ∃ scopes, (compile (source ++ "\n" ++ other) file).run [] = .ok
      ⟨.statements (first.root.children ++
          second.root.children.map
            (Node.relocate (Position.below (source.toList.count '\n' + 1))
              (ScopeId.behind first.scopes.all.size)))
        (Cursor.start (source ++ "\n" ++ other) file).position, scopes⟩
      (warnings ++
        later.map (Warning.relocate
          (Position.below (source.toList.count '\n' + 1)))) := by
  obtain ⟨parsed, read, scopes, checks⟩ := checkAll_of_compile compiled
  obtain ⟨otherParsed, otherRead, _, othersCheck⟩ :=
    checkAll_of_compile otherCompiled
  -- Checked statements declare the same names as those that were read.
  obtain ⟨_, widen, _⟩ := Node.widens_of_checkAll_ok _ checks
  obtain ⟨_, otherWiden, _⟩ := Node.widens_of_checkAll_ok _ othersCheck
  rw [widen.filterMap_declaredName?,
    otherWiden.filterMap_declaredName?] at distinct
  obtain ⟨around, enacts, outermost, _⟩ := enacts_of_parse read
  obtain ⟨otherOutermost, othersEnact, isOutermost, _⟩ :=
    enacts_of_parse otherRead
  obtain ⟨_, joinedScopes, joinedRead, joined⟩ :=
    parse_joined read otherRead distinct noParenthesis noAngle
  cases joined.outermost.symm.trans outermost
  have whole := joined.checkAll isOutermost
    (free_of_disjoint distinct enacts othersEnact) checks
    othersCheck (source.toList.count '\n' + 1)
  rw [scopes]
  exact ⟨joinedScopes, compile_ok.2 ⟨_, .untyped, joinedRead,
    Node.check_statements_ok.2 ⟨_, whole, rfl, rfl⟩, rfl⟩⟩

/-- Both programs have a name in an inner scope that the other declares
directly, and the second one begins behind a comment. -/
theorem compile_joined_commented :
    let source :=
  "int x = 1\nif x < 2.5 \x7b float y = 0.5 print y \x7d // the end"
    let other :=
      "// more\nfloat y = 1 + 0.5\nwhile y < 3.0 \x7b int x = 2 print x * y \x7d"
    ∃ first second warnings later,
      (compile source "f.code").run [] = .ok first warnings ∧
      (compile other "f.code").run [] = .ok second later ∧
      (first.root.children.filterMap Node.declaredName?).Disjoint
        (second.root.children.filterMap Node.declaredName?) ∧
      (Cursor.start other "f.code").rest.head? ≠ some '(' ∧
      (Cursor.start other "f.code").rest.head? ≠ some '<' ∧
      ∃ scopes, (compile (source ++ "\n" ++ other) "f.code").run [] = .ok
        ⟨.statements (first.root.children ++
            second.root.children.map
              (Node.relocate (Position.below (source.toList.count '\n' + 1))
                (ScopeId.behind first.scopes.all.size)))
          (Cursor.start (source ++ "\n" ++ other) "f.code").position, scopes⟩
        (warnings ++
          later.map (Warning.relocate
            (Position.below (source.toList.count '\n' + 1)))) := by
  intro source other
  have declaresX : Steps.yields (fun program : Program =>
      program.root.children.filterMap Node.declaredName? == ["x"])
        ((compile source "f.code").run []) = true := by decide +kernel
  have declaresY : Steps.yields (fun program : Program =>
      program.root.children.filterMap Node.declaredName? == ["y"])
        ((compile other "f.code").run []) = true := by decide +kernel
  obtain ⟨first, warnings, compiled, named⟩ :=
    Steps.exists_ok_of_yields declaresX
  obtain ⟨second, later, otherCompiled, otherNamed⟩ :=
    Steps.exists_ok_of_yields declaresY
  have distinct : (first.root.children.filterMap Node.declaredName?).Disjoint
      (second.root.children.filterMap Node.declaredName?) := by
    rw [beq_iff_eq.1 named, beq_iff_eq.1 otherNamed]
    exact List.disjoint_singleton.2 (by decide)
  have noParenthesis : (Cursor.start other "f.code").rest.head? ≠ some '(' := by
    decide +kernel
  have noAngle : (Cursor.start other "f.code").rest.head? ≠ some '<' := by
    decide +kernel
  exact ⟨first, second, warnings, later, compiled, otherCompiled, distinct,
    noParenthesis, noAngle, compile_joined compiled otherCompiled distinct
    noParenthesis noAngle⟩

end Program

end Minilang
