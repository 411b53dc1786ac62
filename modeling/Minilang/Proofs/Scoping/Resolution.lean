import Minilang.Proofs.Scoping.Replay

/-!
# Resolving names

Every name is looked up in the scope that its node carries, as that scope is in
the end. The main statement, `lookup_of_mention`, says that the scopes of a
program answer for each mention from the declaration to which the name resolves
at its site.
-/

namespace Minilang

namespace Scope

variable {scope later : Scope} {frame : List Node} {outer : List (List Node)}

/-- The scope is what it becomes by the declarations of the frames, the
innermost frame first. -/
inductive Shows : Scope → List (List Node) → Prop where
  | empty : Shows .empty []
  | frame {around scope : Scope} {frame : List Node}
      {outer : List (List Node)} :
      Shows around outer →
      around.child.enactAll? frame = some scope →
      Shows scope (frame :: outer)

theorem Shows.child {frames : List (List Node)} (shows_ : scope.Shows frames) :
    scope.child.Shows ([] :: frames) :=
  .frame shows_ rfl

/-- The innermost frame grows by what is declared, and those around it stay. -/
theorem Shows.enactAll? {nodes : List Node}
    (shows_ : scope.Shows (frame :: outer))
    (enacts : scope.enactAll? nodes = some later) :
    later.Shows ((frame ++ nodes) :: outer) := by
  cases shows_ with
  | frame around first =>
      refine .frame around ?_
      rw [enactAll?_append, first]
      exact enacts

/-- A scope answers from the nearest declaration of the name in the frames that
it shows. -/
theorem get?_of_shows {frames : List (List Node)} (shows_ : scope.Shows frames)
    (name : String) :
    scope.symbols.get? name =
        (frames.findSome? (·.find? (·.declares name))).map Node.declaredType ∧
      scope.signatures.get? name =
        (frames.findSome? (·.find? (·.declares name))).bind
          Node.declaredSignature? := by
  induction shows_ with
  | empty => exact ⟨rfl, rfl⟩
  | @frame around scope frame outer _ enacts inductionHypothesis =>
      obtain ⟨symbols, signatures⟩ := get?_of_enactAll? enacts name
      rw [List.findSome?_cons, symbols, signatures]
      cases frame.find? (·.declares name) with
      | some node => exact ⟨rfl, rfl⟩
      | none => exact inductionHypothesis

end Scope

namespace Outline

/-- Where the walk over an outline leads to the end of its block, each mention
in it carries a scope that in the end shows the frames of its site. -/
theorem shows_of_mem_mentions {outline : Outline} {before after final : Scopes}
    {id : ScopeId} {scope : Scope} {site : Site} {mention : Mention}
    (leads : outline.replay.Leads before after)
    (stands : before.Stands id scope)
    (shown : scope.Shows (site.before :: site.outer))
    (block : site.block = site.before ++ outline.declarations)
    (settled : ∀ other, other < after.all.size → other = id ∨
      before.all.size ≤ other → final.all[other]? = after.all[other]?)
    (mentioned : mention ∈ outline.mentions site) :
    ∃ seen, final.all[mention.scope]? = some seen ∧
      seen.Shows (mention.site.block :: mention.site.outer) := by
  induction outline generalizing before after id scope site with
  | done => cases mentioned
  | mention name carried node rest inductionHypothesis =>
      obtain ⟨middle, passes, restLeads⟩ := Walk.andThen_leads.1 leads
      obtain ⟨current, rfl⟩ := Walk.pass_leads.1 passes
      rcases List.mem_cons.1 mentioned with rfl | mentioned
      · obtain ⟨later, enacts, becomes⟩ := enacts_replay rest restLeads stands
        have same : carried = id :=
          Option.some.inj
            ((Scopes.current_ok.1 current).symm.trans stands.head?)
        have below := Nat.lt_of_lt_of_le stands.lt becomes.size
        refine ⟨later, ?_, ?_⟩
        · rw [same, settled id below (Or.inl rfl), becomes.found]
        · rw [block]
          exact shown.enactAll? enacts
      · exact inductionHypothesis restLeads stands shown block settled mentioned
  | declare node rest inductionHypothesis =>
      obtain ⟨middle, enactLeads, restLeads⟩ := Walk.andThen_leads.1 leads
      obtain ⟨between, enactsNode, becomesMiddle⟩ :=
        Walk.enacts_enact node enactLeads stands
      have standsMiddle := stands.becomes becomesMiddle
      refine inductionHypothesis restLeads standsMiddle
        (shown.enactAll? enactsNode) ?_ ?_ mentioned
      · rw [block, List.append_assoc]
        rfl
      · intro other below place
        exact settled other below
          (place.imp_right (Nat.le_trans becomesMiddle.size))
  | block inner rest innerHypothesis restHypothesis =>
      obtain ⟨middle, innerLeads, restLeads⟩ := Walk.andThen_leads.1 leads
      obtain ⟨same, enactsNothing, becomesMiddle⟩ :=
        Walk.enacts_inScope (enacts_replay inner) innerLeads stands
      cases enactsNothing
      have standsMiddle := stands.becomes becomesMiddle
      obtain ⟨later, _, becomesAfter⟩ :=
        enacts_replay rest restLeads standsMiddle
      rcases List.mem_append.1 mentioned with mentioned | mentioned
      · obtain ⟨entered, last, enters, walks, exits⟩ :=
          Walk.inScope_leads.1 innerLeads
        obtain ⟨rfl, standsInner⟩ := Scopes.stands_of_enter stands enters
        obtain ⟨_, _, _, _, rfl⟩ := Scopes.exit_ok.1 exits
        refine innerHypothesis walks standsInner shown.child rfl ?_ mentioned
        -- What is inside the block has been left for good where the block ends.
        intro other below place
        have new : before.all.size ≤ other := by
          rcases place with rfl | new
          · exact Nat.le_refl _
          · exact Nat.le_trans (by simp) new
        rw [settled other (Nat.lt_of_lt_of_le below becomesAfter.size)
          (Or.inr new)]
        exact becomesAfter.others other below
          (Nat.ne_of_gt (Nat.lt_of_lt_of_le stands.lt new))
      · refine restHypothesis restLeads standsMiddle shown block ?_ mentioned
        intro other below place
        exact settled other below
          (place.imp_right (Nat.le_trans becomesMiddle.size))

end Outline

namespace Scopes

variable {scopes : Scopes} {id : ScopeId} {name : String}

theorem symbol?_of_get {scope : Scope} (found : scopes.all[id]? = some scope) :
    scopes.symbol? id name = .ok (scope.symbols.get? name) := by
  rw [symbol?, get_ok.2 found]
  rfl

theorem signature?_of_get {scope : Scope}
    (found : scopes.all[id]? = some scope) :
    scopes.signature? id name = .ok (scope.signatures.get? name) := by
  rw [signature?, get_ok.2 found]
  rfl

theorem symbol?_ok {type : Option DataType} :
    scopes.symbol? id name = .ok type ↔
      ∃ scope, scopes.all[id]? = some scope ∧
        scope.symbols.get? name = type := by
  cases found : scopes.all[id]? with
  | none => simp [symbol?, get, found]
  | some scope => simp [symbol?_of_get found]

theorem signature?_ok {signature : Option Signature} :
    scopes.signature? id name = .ok signature ↔
      ∃ scope, scopes.all[id]? = some scope ∧
        scope.signatures.get? name = signature := by
  cases found : scopes.all[id]? with
  | none => simp [signature?, get, found]
  | some scope => simp [signature?_of_get found]

end Scopes

/-- The scopes to which the walk over a tree leads answer for each mention in
the tree from the declaration to which the name resolves. -/
theorem Node.lookup_of_mention {root : Node} {scopes : Scopes}
    {mention : Mention} (leads : root.replay.Leads .initial scopes)
    (mentioned : mention ∈ root.mentions) :
    scopes.symbol? mention.scope mention.name =
        .ok ((mention.site.resolve? mention.name).map Node.declaredType) ∧
      scopes.signature? mention.scope mention.name =
        .ok ((mention.site.resolve? mention.name).bind
          Node.declaredSignature?) := by
  have stands : Scopes.initial.Stands 0 .empty := ⟨rfl, rfl⟩
  have shown : Scope.empty.Shows [[]] := .frame .empty rfl
  obtain ⟨seen, found, shows_⟩ :=
    Outline.shows_of_mem_mentions leads stands shown rfl
      (fun _ _ _ => rfl) mentioned
  obtain ⟨symbols, signatures⟩ := Scope.get?_of_shows shows_ mention.name
  rw [Scopes.symbol?_of_get found, Scopes.signature?_of_get found,
    symbols, signatures]
  exact ⟨rfl, rfl⟩

end Minilang
