import Minilang.Proofs.Reading.Statement
import Minilang.Proofs.Scoping.Outline
import Minilang.Proofs.Scoping.Scopes

/-!
# Replaying a tree

A tree tells which scopes its program has: a walk over it enters and leaves a
scope at each block and function, declares what the tree declares, and passes
the names that the tree mentions. The main statement, `replay_of_parse`, says
that the walk over a tree that was read leads to the scopes that were read with
it, and that each name carries the scope that is current where the walk passes
it.
-/

namespace Minilang

/-- A name that a walk has passed, as the scope that it carries and the one that
was current. -/
structure Visit where
  carried : ScopeId
  current : ScopeId
deriving DecidableEq, Repr

/-- A walk leads from scopes to scopes and passes names on its way, unless a
step of it is not possible. -/
def Walk : Type :=
  Scopes → Option (Scopes × List Visit)

namespace Walk

def stay : Walk := fun scopes =>
  some (scopes, [])

def andThen (first second : Walk) : Walk := fun scopes => do
  let (middle, early) ← first scopes
  let (last, late) ← second middle
  return (last, early ++ late)

def pass (carried : ScopeId) : Walk := fun scopes =>
  match scopes.current with
  | .ok current => some (scopes, [⟨carried, current⟩])
  | .error _ => none

def change (step : Scopes → Except Fault Scopes) : Walk := fun scopes =>
  match step scopes with
  | .ok later => some (later, [])
  | .error _ => none

def declare (name : String) (type : DataType) : Walk := fun scopes =>
  match scopes.declare? name type with
  | .ok (some later) => some (later, [])
  | _ => none

def inScope (walk : Walk) : Walk :=
  (change Scopes.enter).andThen (walk.andThen (change Scopes.exit))

end Walk

/-- The walk that makes one declaration. A function is declared first and then
given its signature. -/
def Walk.enact : Node → Walk
  | .declaration type name _ _ => .declare name type
  | .function returnType name parameters _ _ =>
      (Walk.declare name .callable).andThen
        (.change (·.bind name (Node.signature returnType parameters)))
  | _ => .stay

/-- The walk over an outline: it passes each name that is mentioned, makes each
declaration, and enters and leaves a scope at each block. -/
def Outline.replay : Outline → Walk
  | done => .stay
  | mention _ scope _ rest => (Walk.pass scope).andThen rest.replay
  | declare node rest => (Walk.enact node).andThen rest.replay
  | block inner rest => inner.replay.inScope.andThen rest.replay

/-- The walk over a tree, in the order of the source. -/
def Node.replay (root : Node) : Walk :=
  (root.outline .done).replay

namespace Walk

/-- The walk leads from the one state of the scopes to the other, and each name
on its way carries the scope that is current there. -/
def Leads (walk : Walk) (before after : Scopes) : Prop :=
  ∃ visits, walk before = some (after, visits) ∧ ∀ visit ∈ visits,
    visit.carried = visit.current

variable {first second walk : Walk} {before after : Scopes}

@[simp]
theorem stay_leads : stay.Leads before after ↔ before = after := by
  constructor
  · intro leads
    obtain ⟨visits, arrives, _⟩ := leads
    cases arrives
    rfl
  · intro same
    rw [same]
    exact ⟨[], rfl, List.forall_mem_nil _⟩

@[simp]
theorem andThen_leads :
    (first.andThen second).Leads before after ↔
      ∃ middle, first.Leads before middle ∧ second.Leads middle after := by
  constructor
  · intro leads
    obtain ⟨visits, arrives, faithful⟩ := leads
    obtain ⟨⟨middle, early⟩, firstArrives, rest⟩ :=
      Option.bind_eq_some_iff.1 arrives
    obtain ⟨⟨last, late⟩, secondArrives, same⟩ := Option.bind_eq_some_iff.1 rest
    cases same
    obtain ⟨earlyFaithful, lateFaithful⟩ := List.forall_mem_append.1 faithful
    exact ⟨middle, ⟨early, firstArrives, earlyFaithful⟩, late, secondArrives,
      lateFaithful⟩
  · intro leads
    obtain ⟨middle, ⟨early, firstArrives, earlyFaithful⟩, late, secondArrives,
      lateFaithful⟩ :=
      leads
    refine ⟨early ++ late, ?_,
      List.forall_mem_append.2 ⟨earlyFaithful, lateFaithful⟩⟩
    rw [andThen, firstArrives]
    change (second middle).bind _ = _
    rw [secondArrives]
    rfl

@[simp]
theorem pass_leads {carried : ScopeId} :
    (pass carried).Leads before after ↔ before.current = .ok carried ∧
    before = after := by
  rw [Leads, pass]
  cases before.current with
  | error fault => simp
  | ok current =>
      constructor
      · intro leads
        obtain ⟨visits, arrives, faithful⟩ := leads
        cases arrives
        have same : carried = current := faithful _ (List.mem_singleton_self _)
        rw [same]
        exact ⟨rfl, rfl⟩
      · intro same
        obtain ⟨current, rfl⟩ := same
        cases current
        exact ⟨_, rfl, by simp⟩

@[simp]
theorem change_leads {step : Scopes → Except Fault Scopes} :
    (change step).Leads before after ↔ step before = .ok after := by
  rw [Leads, change]
  cases step before with
  | error fault => simp
  | ok later =>
      constructor
      · intro leads
        obtain ⟨visits, arrives, _⟩ := leads
        cases arrives
        rfl
      · intro same
        cases same
        exact ⟨[], rfl, List.forall_mem_nil _⟩

@[simp]
theorem declare_leads {name : String} {type : DataType} :
    (declare name type).Leads before after ↔
      before.declare? name type = .ok (some after) := by
  rw [Leads, declare]
  rcases before.declare? name type with fault | _ | later
  · simp
  · simp
  · constructor
    · intro leads
      obtain ⟨visits, arrives, _⟩ := leads
      cases arrives
      rfl
    · intro same
      cases same
      exact ⟨[], rfl, List.forall_mem_nil _⟩

@[simp]
theorem inScope_leads :
    walk.inScope.Leads before after ↔
      ∃ inner middle, before.enter = .ok inner ∧ walk.Leads inner middle ∧
        middle.exit = .ok after := by
  simp [inScope]

theorem enact_declaration_leads {type : DataType} {name : String}
    {initializer : Option Node} {position : Position} :
    (enact (.declaration type name initializer position)).Leads before after ↔
      before.declare? name type = .ok (some after) :=
  declare_leads

theorem enact_function_leads {type : DataType} {name : String}
    {parameters : List Node} {body : Node} {position : Position} :
    (enact (.function type name parameters body position)).Leads before after ↔
      ∃ declared, before.declare? name .callable = .ok (some declared) ∧
        declared.bind name (Node.signature type parameters) = .ok after := by
  simp [enact]

end Walk

/-! ## The names on the way of a walk -/

namespace Walk

/-- Wherever the walk leads, these are the scopes that the names on its way
carry. -/
def Carries (walk : Walk) (scopes : List ScopeId) : Prop :=
  ∀ before after visits, walk before = some (after, visits) →
    visits.map Visit.carried = scopes

variable {first second walk : Walk} {early late scopes : List ScopeId}

theorem carries_stay : stay.Carries [] := by
  intro before after visits arrives
  cases arrives
  rfl

theorem carries_andThen (firstCarries : first.Carries early)
    (secondCarries : second.Carries late) :
    (first.andThen second).Carries (early ++ late) := by
  intro before after visits arrives
  obtain ⟨⟨middle, earlyVisits⟩, firstArrives, rest⟩ :=
    Option.bind_eq_some_iff.1 arrives
  obtain ⟨⟨last, lateVisits⟩, secondArrives, same⟩ :=
    Option.bind_eq_some_iff.1 rest
  cases same
  rw [List.map_append, firstCarries _ _ _ firstArrives,
    secondCarries _ _ _ secondArrives]

theorem carries_pass {carried : ScopeId} :
    (pass carried).Carries [carried] := by
  intro before after visits arrives
  rw [pass] at arrives
  split at arrives
  · cases arrives
    rfl
  · cases arrives

theorem carries_change {step : Scopes → Except Fault Scopes} :
    (change step).Carries [] := by
  intro before after visits arrives
  rw [change] at arrives
  split at arrives
  · cases arrives
    rfl
  · cases arrives

theorem carries_declare {name : String} {type : DataType} :
    (declare name type).Carries [] := by
  intro before after visits arrives
  rw [declare] at arrives
  split at arrives
  · cases arrives
    rfl
  · cases arrives

theorem carries_enact (node : Node) : (enact node).Carries [] := by
  cases node with
  | declaration => exact carries_declare
  | function => exact carries_andThen carries_declare carries_change
  | _ => exact carries_stay

theorem carries_inScope (carries : walk.Carries scopes) :
    walk.inScope.Carries scopes := by
  have inside : walk.inScope.Carries ([] ++ (scopes ++ [])) :=
    carries_andThen carries_change (carries_andThen carries carries_change)
  rwa [List.nil_append, List.append_nil] at inside

end Walk

/-- The walk over an outline passes the names that it mentions, in their
order. -/
theorem Outline.carries_replay (outline : Outline) (site : Site) :
    outline.replay.Carries ((outline.mentions site).map Mention.scope) := by
  induction outline generalizing site with
  | done => exact Walk.carries_stay
  | mention name scope node rest inductionHypothesis =>
      exact Walk.carries_andThen Walk.carries_pass (inductionHypothesis site)
  | declare node rest inductionHypothesis =>
      exact Walk.carries_andThen (Walk.carries_enact node)
        (inductionHypothesis _)
  | block inner rest innerHypothesis restHypothesis =>
      rw [mentions, List.map_append]
      exact Walk.carries_andThen (Walk.carries_inScope (innerHypothesis _))
        (restHypothesis site)

/-! ## What a walk makes of the scopes -/

namespace Walk

/-- The walk makes the declarations in the scope in which it begins and ends. It
may add scopes, and changes no other one. -/
def Enacts (walk : Walk) (declarations : List Node) : Prop :=
  ∀ {before after : Scopes} {id : ScopeId} {scope : Scope},
    walk.Leads before after → before.Stands id scope →
      ∃ later, scope.enactAll? declarations = some later ∧
        before.Becomes after id later

variable {first second walk : Walk} {early late : List Node}

theorem enacts_stay : stay.Enacts [] := by
  intro before after id scope leads stands
  obtain rfl := stay_leads.1 leads
  exact ⟨scope, rfl, stands.becomes_self⟩

theorem enacts_pass {carried : ScopeId} : (pass carried).Enacts [] := by
  intro before after id scope leads stands
  obtain ⟨_, rfl⟩ := pass_leads.1 leads
  exact ⟨scope, rfl, stands.becomes_self⟩

theorem enacts_andThen (firstEnacts : first.Enacts early)
    (secondEnacts : second.Enacts late) :
    (first.andThen second).Enacts (early ++ late) := by
  intro before after id scope leads stands
  obtain ⟨middle, firstLeads, secondLeads⟩ := andThen_leads.1 leads
  obtain ⟨between, enactsEarly, becomesMiddle⟩ := firstEnacts firstLeads stands
  obtain ⟨later, enactsLate, becomesAfter⟩ :=
    secondEnacts secondLeads (stands.becomes becomesMiddle)
  refine ⟨later, ?_, becomesMiddle.trans becomesAfter⟩
  rw [Scope.enactAll?_append, enactsEarly]
  exact enactsLate

theorem enacts_enact (node : Node) : (enact node).Enacts [node] := by
  intro before after id scope leads stands
  rw [Scope.enactAll?_singleton]
  cases node with
  | declaration type name initializer position =>
      obtain ⟨other, otherScope, later, others, declares, rfl⟩ :=
        Scopes.declare?_ok.1 (enact_declaration_leads.1 leads)
      obtain ⟨rfl, rfl⟩ := stands.unique others
      exact ⟨later, declares, stands.becomes_set later⟩
  | function returnType name parameters body position =>
      obtain ⟨middle, declares, binds⟩ := enact_function_leads.1 leads
      obtain ⟨other, otherScope, declared, others, declares, rfl⟩ :=
        Scopes.declare?_ok.1 declares
      obtain ⟨rfl, rfl⟩ := stands.unique others
      have becomesMiddle := stands.becomes_set declared
      have standsMiddle := stands.becomes becomesMiddle
      obtain ⟨other, otherScope, others, rfl⟩ := Scopes.bind_ok.1 binds
      obtain ⟨rfl, rfl⟩ := standsMiddle.unique others
      refine ⟨_, ?_, becomesMiddle.trans (standsMiddle.becomes_set _)⟩
      exact Option.map_eq_some_iff.2 ⟨declared, declares, rfl⟩
  | _ => exact enacts_stay leads stands

/-- What a walk declares in a scope of its own is not declared around it. -/
theorem enacts_inScope {declarations : List Node}
    (enacts : walk.Enacts declarations) :
    walk.inScope.Enacts [] := by
  intro before after id scope leads stands
  obtain ⟨inner, middle, enters, walks, exits⟩ := inScope_leads.1 leads
  have entered := (Scopes.stands_of_enter stands enters).2
  obtain ⟨later, _, becomes⟩ := enacts walks entered
  exact ⟨scope, rfl, Scopes.becomes_of_exit stands enters becomes exits⟩

end Walk

/-- The walk over an outline makes its declarations. -/
theorem Outline.enacts_replay (outline : Outline) :
    outline.replay.Enacts outline.declarations := by
  induction outline with
  | done => exact Walk.enacts_stay
  | mention name scope node rest inductionHypothesis =>
      exact Walk.enacts_andThen Walk.enacts_pass inductionHypothesis
  | declare node rest inductionHypothesis =>
      exact Walk.enacts_andThen (Walk.enacts_enact node) inductionHypothesis
  | block inner rest innerEnacts restEnacts =>
      exact Walk.enacts_andThen (Walk.enacts_inScope innerEnacts) restEnacts

/-! ## What is read with a tree is what the walk over it leads to -/

namespace Grammar

variable {start stop : Parser}

/-- Reading an expression leaves the scopes as they are. -/
theorem scopes_of_reads {phrase : Phrase} (reads : Reads phrase start stop) :
    stop.scopes = start.scopes := by
  induction reads with
  | chain _ _ operand links => exact links.trans operand
  | noLink => rfl
  | link _ _ _ operand links => exact links.trans operand
  | plain _ primary => exact primary
  | cast _ _ _ _ primary => exact primary
  | number => rfl
  | string => rfl
  | reference => rfl
  | emptyCall => rfl
  | call _ _ _ _ _ first others => exact others.trans first
  | parenthesized _ _ _ chain => exact chain
  | lastArgument => rfl
  | nextArgument _ _ _ next others => exact others.trans next

/-- The walk over the outline leads from the one state of the scopes to the
other, and functions declare their parameters plainly. -/
structure Fits (outline : Outline) (before after : Scopes) : Prop where
  leads : outline.replay.Leads before after
  plain : outline.All (fun _ _ _ => True) Node.IsPlain

theorem fits_done {scopes : Scopes} : Fits .done scopes scopes :=
  ⟨Walk.stay_leads.2 rfl, trivial⟩

/-- What follows an outline is reached through it, between the given scopes. -/
def Bridges (front : Outline → Outline) (before after : Scopes) : Prop :=
  ∀ rest last, Fits rest after last → Fits (front rest) before last

theorem bridges_mention {name : String} {scope : ScopeId} {node : Node}
    {scopes : Scopes} (current : scopes.current = .ok scope) :
    Bridges (.mention name scope node) scopes scopes :=
  fun _ _ fits =>
    ⟨Walk.andThen_leads.2 ⟨_, Walk.pass_leads.2 ⟨current, rfl⟩, fits.leads⟩,
      trivial, fits.plain⟩

theorem bridges_declare {node : Node} {before after : Scopes}
    (enacts : (Walk.enact node).Leads before after) (plain : node.IsPlain) :
    Bridges (.declare node) before after :=
  fun _ _ fits =>
    ⟨Walk.andThen_leads.2 ⟨_, enacts, fits.leads⟩, plain, fits.plain⟩

/-- A block leads through a scope that is entered before it and left behind
it. -/
theorem bridges_block {inner : Outline} {before entered last after : Scopes}
    (enters : before.enter = .ok entered) (inside : Fits inner entered last)
    (exits : last.exit = .ok after) : Bridges (.block inner) before after := by
  intro rest end_ fits
  have walks := Walk.inScope_leads.2 ⟨_, _, enters, inside.leads, exits⟩
  exact ⟨Walk.andThen_leads.2 ⟨_, walks, fits.leads⟩, inside.plain, fits.plain⟩

/-- The scope in which some text is read is still the current one behind it. -/
theorem becomes_of_bridges {front : Outline → Outline} {before after : Scopes}
    {id : ScopeId} {scope : Scope} (bridges : Bridges front before after)
    (stands : before.Stands id scope) :
    ∃ later, before.Becomes after id later := by
  have fits := bridges _ _ fits_done
  obtain ⟨later, _, becomes⟩ := Outline.enacts_replay _ fits.leads stands
  exact ⟨later, becomes⟩

/-- The scope around a block is as it was once the block has been read. -/
theorem becomes_of_block {front : Outline → Outline}
    {before entered last after : Scopes} {id : ScopeId} {scope : Scope}
    (stands : before.Stands id scope)
    (enters : before.enter = .ok entered) (bridges : Bridges front entered last)
    (exits : last.exit = .ok after) : before.Becomes after id scope := by
  have isNew := (Scopes.stands_of_enter stands enters).2
  obtain ⟨_, becomes⟩ := becomes_of_bridges bridges isNew
  exact Scopes.becomes_of_exit stands enters becomes exits

/-- The walk over what the phrase is read as passes its names in the scopes. -/
def Phrase.Replays (scopes : Scopes) : Phrase → Prop
  | .chain _ node | .component node | .primary node =>
      Bridges node.outline scopes scopes
  | .links _ left node =>
      Bridges left.outline scopes scopes → Bridges node.outline scopes scopes
  | .moreArguments nodes => Bridges (Node.outlineAll nodes) scopes scopes

theorem Phrase.replays_operand {level : Level} {node : Node} {scopes : Scopes} :
    (Phrase.operand level node).Replays scopes ↔
      Bridges node.outline scopes scopes := by
  rw [Phrase.operand]
  cases level.next <;> rfl

/-- By induction on the rules of the grammar: expressions mention names and
change no scope. -/
theorem replays_of_reads {phrase : Phrase} (reads : Reads phrase start stop) :
    phrase.Replays start.scopes := by
  induction reads with
  | chain operandReads _ operand links =>
      rw [scopes_of_reads operandReads] at links
      exact links (Phrase.replays_operand.1 operand)
  | noLink =>
      intro left
      exact left
  | link _ operandReads _ operand links =>
      intro left
      rw [scopes_of_reads operandReads] at links
      have right := Phrase.replays_operand.1 operand
      exact links fun _ _ fits => left _ _ (right _ _ fits)
  | plain _ primary => exact primary
  | cast _ _ _ _ primary => exact primary
  | number => exact fun _ _ fits => fits
  | string => exact fun _ _ fits => fits
  | reference _ current _ => exact bridges_mention current
  | emptyCall _ current _ _ => exact bridges_mention current
  | call _ current _ firstReads _ first others =>
      rw [scopes_of_reads firstReads] at others
      exact fun _ _ fits =>
        bridges_mention current _ _ (first _ _ (others _ _ fits))
  | parenthesized _ _ _ chain => exact chain
  | lastArgument => exact fun _ _ fits => fits
  | nextArgument _ nextReads _ next others =>
      rw [scopes_of_reads nextReads] at others
      exact fun _ _ fits => next _ _ (others _ _ fits)

/-- The walk over an expression passes its names in the scopes in which it was
read. -/
theorem bridges_of_reads {level : Level} {node : Node}
    (reads : Reads (.chain level node) start stop) :
    Bridges node.outline start.scopes stop.scopes := by
  rw [scopes_of_reads reads]
  exact replays_of_reads reads

theorem bridges_of_readsParameter {node : Node}
    (reads : ReadsParameter node start stop) :
    Bridges node.outline start.scopes stop.scopes := by
  cases reads with
  | parameter _ _ declared =>
      exact bridges_declare (Walk.enact_declaration_leads.2 declared) trivial

theorem bridges_of_readsMoreParameters {nodes : List Node}
    (reads : ReadsMoreParameters nodes start stop) :
    Bridges (Node.outlineAll nodes) start.scopes stop.scopes := by
  induction reads with
  | last => exact fun _ _ fits => fits
  | next _ next _ others =>
      have first := bridges_of_readsParameter next
      exact fun _ _ fits => first _ _ (others _ _ fits)

theorem bridges_of_readsParameters {nodes : List Node}
    (reads : ReadsParameters nodes start stop) :
    Bridges (Node.outlineAll nodes) start.scopes stop.scopes := by
  cases reads with
  | none => exact fun _ _ fits => fits
  | some first others =>
      have front := bridges_of_readsParameter first
      have back := bridges_of_readsMoreParameters others
      exact fun _ _ fits => front _ _ (back _ _ fits)

theorem plain_of_readsMoreParameters {nodes : List Node}
    (reads : ReadsMoreParameters nodes start stop) :
    ∀ node ∈ nodes, ∃ type name position,
      node = .declaration type name none position := by
  induction reads with
  | last => exact List.forall_mem_nil _
  | next _ next _ others =>
      cases next with
      | parameter => exact List.forall_mem_cons.2 ⟨⟨_, _, _, rfl⟩, others⟩

theorem plain_of_readsParameters {nodes : List Node}
    (reads : ReadsParameters nodes start stop) :
    ∀ node ∈ nodes, ∃ type name position,
      node = .declaration type name none position := by
  cases reads with
  | none => exact List.forall_mem_nil _
  | some first others =>
      cases first with
      | parameter =>
          exact List.forall_mem_cons.2 ⟨⟨_, _, _, rfl⟩,
            plain_of_readsMoreParameters others⟩

/-- What the outline of the clause adds to the one behind it. -/
def Clause.outline : Clause → Outline → Outline
  | .statement node, rest => node.outline rest
  | .statements items, rest => Node.outlineAll items rest
  | .block node, rest => .block (node.outline .done) rest

/-- The simulation, with one step for each rule by which statements are read. -/
theorem bridges_of_readsClause {clause : Clause}
    (reads : ReadsClause clause start stop) :
    Bridges clause.outline start.scopes stop.scopes := by
  induction reads with
  | listEnd => exact fun _ _ fits => fits
  | statements _ _ first others =>
      exact fun _ _ fits => first _ _ (others _ _ fits)
  | block _ entered _ _ left items =>
      exact bridges_block entered (items _ _ fits_done) left
  | expression reads => exact bridges_of_reads reads
  | print _ value =>
      have walked := bridges_of_reads value
      exact walked
  | assignment _ _ current _ value =>
      have walked := bridges_of_reads value
      exact fun _ _ fits => bridges_mention current _ _ (walked _ _ fits)
  | loop _ predicate _ body =>
      have walked := bridges_of_reads predicate
      exact fun _ _ fits => walked _ _ (body _ _ fits)
  | conditional _ predicate _ _ thenBranch =>
      have walked := bridges_of_reads predicate
      exact fun _ _ fits => walked _ _ (thenBranch _ _ fits)
  | alternative _ predicate _ _ _ thenBranch elseBranch =>
      have walked := bridges_of_reads predicate
      exact fun _ _ fits => walked _ _ (thenBranch _ _ (elseBranch _ _ fits))
  | uninitialized _ _ _ _ declared =>
      exact bridges_declare (Walk.enact_declaration_leads.2 declared) trivial
  | initialized _ _ _ value declared =>
      have walked := bridges_of_reads value
      intro rest last fits
      refine walked _ _ (bridges_declare ?_ ?_ _ _ fits)
      · exact Walk.enact_declaration_leads.2 declared
      · exact trivial
  | function _ _ _ entered parameters _ _ _ left declared bound items =>
      have walked := bridges_of_readsParameters parameters
      have inside :=
        bridges_block entered (walked _ _ (items _ _ fits_done)) left
      intro rest last fits
      refine inside _ _ (bridges_declare ?_ ?_ _ _ fits)
      · exact Walk.enact_function_leads.2 ⟨_, declared, bound⟩
      · exact plain_of_readsParameters parameters

end Grammar

namespace Program

variable {source file : String} {program : Program}

/-- The walk over the tree of a program begins with the outermost scope
alone. -/
theorem fits_of_parse (success : parse source file = .ok program) :
    Grammar.Fits (program.root.outline .done) .initial program.scopes := by
  obtain ⟨items, stop, reads, _, rfl⟩ := Grammar.parse_ok.1 success
  exact Grammar.bridges_of_readsClause reads _ _ Grammar.fits_done

/-- A name or a call in the tree is passed where the tree mentions it. -/
theorem exists_visit_of_partOf {root part : Node} {name : String}
    {scope : ScopeId} {visits : List Visit} (within : part.PartOf root)
    (mentions : part.Mentions name scope)
    (carried : visits.map Visit.carried = root.mentions.map Mention.scope)
    (faithful : ∀ visit ∈ visits, visit.carried = visit.current) :
    ∃ (index : Nat) (mention : Mention), root.mentions[index]? = some mention ∧
      mention.node = part ∧ visits[index]? = some ⟨scope, scope⟩ := by
  obtain ⟨mention, mentioned, rfl⟩ :=
    Node.exists_mention_of_partOf within mentions
  obtain ⟨⟨_, again⟩, _⟩ := Node.partOf_of_mem_mentions mentioned
  obtain ⟨_, rfl⟩ := mentions.unique again
  obtain ⟨index, found⟩ := List.getElem?_of_mem mentioned
  have same := congrArg (·[index]?) carried
  simp only [List.getElem?_map, found, Option.map_some,
    Option.map_eq_some_iff] at same
  obtain ⟨⟨_, current⟩, passed, rfl⟩ := same
  have isCurrent := faithful _ (List.mem_of_getElem? passed)
  dsimp only at isCurrent
  subst isCurrent
  exact ⟨index, mention, found, rfl, passed⟩

/-- The tree and the scopes of a program tell the same story: from the outermost
scope alone, the walk over the tree leads to exactly the scopes that were read
with it, where the outermost one is open again. On its way it passes the names
and calls of the tree one after the other, none of them left out, and each
carries the scope that is current there. -/
theorem replay_of_parse (success : parse source file = .ok program) :
    ∃ global visits, Scopes.empty.createGlobal = .ok global ∧
      program.root.replay global = some (program.scopes, visits) ∧
      program.scopes.path = [0] ∧
      visits.map Visit.carried = program.root.mentions.map Mention.scope ∧
      (∀ visit ∈ visits, visit.carried = visit.current) ∧
      ∀ (part : Node) (name : String)
      (scope : ScopeId), part.PartOf program.root →
        part.Mentions name scope →
        ∃ (index : Nat) (mention : Mention),
          program.root.mentions[index]? = some mention ∧
          mention.node = part ∧ visits[index]? = some ⟨scope, scope⟩ := by
  have leads := (fits_of_parse success).leads
  have stands : Scopes.initial.Stands 0 .empty := ⟨rfl, rfl⟩
  obtain ⟨_, _, becomes⟩ := Outline.enacts_replay _ leads stands
  have path := becomes.path
  obtain ⟨visits, arrives, faithful⟩ := leads
  have carried :
      visits.map Visit.carried = program.root.mentions.map Mention.scope :=
    Outline.carries_replay _ _ _ _ _ arrives
  exact ⟨.initial, visits, Scopes.createGlobal_empty, arrives, path, carried,
    faithful, fun _ _ _ within mentions => exists_visit_of_partOf within
    mentions carried faithful⟩

/-- In the body of the function a call and a name carry the second scope, and
behind it a call carries the first. -/
def nested : String :=
  "int f(int x) \x7b print f(x) \x7d if f(2) < 3 \x7b int y \x7d"

theorem replay_of_parse_nested :
    ∃ program global, parse nested "f.code" = .ok program ∧
      Scopes.empty.createGlobal = .ok global ∧
      program.root.replay global =
        some (program.scopes, [⟨1, 1⟩, ⟨1, 1⟩, ⟨0, 0⟩]) ∧
      program.scopes.path = [0] ∧ program.scopes.all.size = 3 ∧
      program.root.mentions.map Mention.scope = [1, 1, 0] ∧
      ∀ (part : Node) (name : String)
      (scope : ScopeId), part.PartOf program.root →
        part.Mentions name scope →
        ∃ (index : Nat) (mention : Mention),
          program.root.mentions[index]? = some mention ∧
          mention.node = part ∧
          [⟨1, 1⟩, ⟨1, 1⟩, ⟨0, 0⟩][index]? = some (Visit.mk scope scope) := by
  have outcome : (parse nested "f.code").toOption.any (fun program =>
      (program.root.replay .initial).map Prod.snd = some
      [⟨1, 1⟩, ⟨1, 1⟩, ⟨0, 0⟩] ∧
        program.scopes.all.size = 3) = true := by
    decide +kernel
  cases success : parse nested "f.code" with
  | error failure =>
      rw [success] at outcome
      cases outcome
  | ok program =>
      rw [success] at outcome
      obtain ⟨passes, size⟩ := of_decide_eq_true outcome
      obtain ⟨global, visits, creates, arrives, path, carried, _, covers⟩ :=
        replay_of_parse success
      cases Scopes.createGlobal_empty.symm.trans creates
      rw [arrives, Option.map_some, Option.some.injEq] at passes
      dsimp only at passes
      subst passes
      exact ⟨program, .initial, rfl, creates, arrives, path, size,
        carried.symm, covers⟩

end Program

end Minilang
