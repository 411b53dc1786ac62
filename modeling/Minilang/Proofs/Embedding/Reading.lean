import Minilang.Proofs.Embedding.Lexemes
import Minilang.Proofs.Relocation
import Minilang.Proofs.Scoping.Items

/-!
# Reading a source inside another one

What the grammar reads in a source it reads again where the source is found
inside another one, as the same trees at their new places and with their new
scopes. The main statement, `Embedding.readsClause`, goes through the rules of
the grammar one by one. A list of statements need not end where it ended alone:
whatever statements are read behind it join the list.
-/

namespace Minilang

open Grammar

def Grammar.Phrase.map (change : Node → Node) : Phrase → Phrase
  | .chain level node => .chain level (change node)
  | .links level left node => .links level (change left) (change node)
  | .component node => .component (change node)
  | .primary node => .primary (change node)
  | .moreArguments nodes => .moreArguments (nodes.map change)

theorem Grammar.Phrase.map_operand (change : Node → Node) (level : Level)
    (node : Node) :
    (Phrase.operand level node).map change = .operand level (change node) := by
  rw [operand, operand]
  cases level.next <;> rfl

namespace Embedding

variable {embedding : Embedding} {start stop other : Parser}

def tree (embedding : Embedding) : Node → Node :=
  Node.relocate embedding.place embedding.scope

/-- The other state is that of the reading inside the other source. -/
structure Mirrors (embedding : Embedding) (parser other : Parser) : Prop where
  cursor : embedding.Like parser.cursor other.cursor
  scopes : embedding.Over parser.scopes other.scopes

theorem Mirrors.moved {behind otherBehind : Cursor}
    (mirrors : embedding.Mirrors start other)
    (like : embedding.Like behind otherBehind) :
    embedding.Mirrors { start with cursor := behind }
      { other with cursor := otherBehind } :=
  ⟨like, mirrors.scopes⟩

/-- By induction on the rules of the grammar: each rule asks for lexemes only,
and these are found again. -/
theorem reads {phrase : Phrase} (reads : Reads phrase start stop)
    (mirrors : embedding.Mirrors start other) :
    ∃ otherStop, Reads (phrase.map embedding.tree) other otherStop ∧
      embedding.Mirrors stop otherStop := by
  induction reads generalizing other with
  | chain _ _ operand links =>
      obtain ⟨middle, first, mirrors⟩ := operand mirrors
      obtain ⟨otherStop, rest, mirrors⟩ := links mirrors
      rw [Phrase.map_operand] at first
      exact ⟨otherStop, .chain first rest, mirrors⟩
  | noLink absent =>
      exact ⟨other, .noLink (operator_absent mirrors.cursor absent), mirrors⟩
  | link found _ _ operand links =>
      obtain ⟨_, otherFound, like⟩ := operator_found mirrors.cursor found
      have place :=
        position_of_shorter mirrors.cursor (Cursor.length_lt_of_operator? found)
      obtain ⟨middle, right, mirrors⟩ := operand (mirrors.moved like)
      obtain ⟨otherStop, rest, mirrors⟩ := links mirrors
      rw [Phrase.map_operand] at right
      refine ⟨otherStop, .link otherFound right ?_, mirrors⟩
      rw [place]
      exact rest
  | plain _ primary =>
      obtain ⟨otherStop, read, mirrors⟩ := primary mirrors
      exact ⟨otherStop, .plain read, mirrors⟩
  | cast opened typed closed _ primary =>
      have place := position_of_shorter mirrors.cursor
        (Cursor.length_lt_of_accept? opened (by decide))
      obtain ⟨_, otherOpened, like⟩ :=
        symbol_found (by decide) mirrors.cursor opened
      obtain ⟨_, otherTyped, _, like⟩ := type_found like typed
      obtain ⟨_, otherClosed, like⟩ := symbol_found (by decide) like closed
      obtain ⟨otherStop, read, mirrors⟩ := primary (mirrors.moved like)
      refine ⟨otherStop, ?_, mirrors⟩
      have whole := Reads.cast otherOpened otherTyped otherClosed read
      rw [place] at whole
      exact whole
  | number found =>
      have place :=
        position_of_shorter mirrors.cursor (Cursor.number_some found).2
      obtain ⟨_, otherFound, like⟩ := number_found mirrors.cursor found
      refine ⟨_, ?_, mirrors.moved like⟩
      have whole := Reads.number otherFound
      rw [place] at whole
      exact whole
  | string found =>
      have place :=
        position_of_shorter mirrors.cursor (Cursor.string_some found).2
      obtain ⟨_, otherFound, like⟩ := string_found mirrors.cursor found
      refine ⟨_, ?_, mirrors.moved like⟩
      have whole := Reads.string otherFound
      rw [place] at whole
      exact whole
  | reference named current absent =>
      obtain ⟨_, otherNamed, place, like⟩ :=
        identifier_found mirrors.cursor named
      refine ⟨_, ?_, mirrors.moved like⟩
      have whole := Reads.reference otherNamed
        (embedding.current mirrors.scopes current)
        (symbol_absent (by decide) like absent)
      rw [place] at whole
      exact whole
  | emptyCall named current opened closed =>
      obtain ⟨_, otherNamed, place, like⟩ :=
        identifier_found mirrors.cursor named
      obtain ⟨_, otherOpened, like⟩ := symbol_found (by decide) like opened
      obtain ⟨_, otherClosed, like⟩ := symbol_found (by decide) like closed
      refine ⟨_, ?_, mirrors.moved like⟩
      have whole := Reads.emptyCall otherNamed
        (embedding.current mirrors.scopes current)
        otherOpened otherClosed
      rw [place] at whole
      exact whole
  | call named current opened _ _ first others =>
      have otherCurrent := embedding.current mirrors.scopes current
      obtain ⟨_, otherNamed, place, like⟩ :=
        identifier_found mirrors.cursor named
      obtain ⟨_, otherOpened, like⟩ := symbol_found (by decide) like opened
      obtain ⟨middle, firstRead, mirrors⟩ := first (mirrors.moved like)
      obtain ⟨otherStop, othersRead, mirrors⟩ := others mirrors
      refine ⟨otherStop, ?_, mirrors⟩
      have whole :=
        Reads.call otherNamed otherCurrent otherOpened firstRead othersRead
      rw [place] at whole
      rw [Phrase.map, tree, Node.relocate, Node.relocateAll_eq_map]
      exact whole
  | parenthesized opened _ closed inner =>
      obtain ⟨_, otherOpened, like⟩ :=
        symbol_found (by decide) mirrors.cursor opened
      obtain ⟨middle, read, mirrors⟩ := inner (mirrors.moved like)
      obtain ⟨_, otherClosed, like⟩ :=
        symbol_found (by decide) mirrors.cursor closed
      exact ⟨_, .parenthesized otherOpened read otherClosed, mirrors.moved like⟩
  | lastArgument closed =>
      obtain ⟨_, otherClosed, like⟩ :=
        symbol_found (by decide) mirrors.cursor closed
      exact ⟨_, .lastArgument otherClosed, mirrors.moved like⟩
  | nextArgument comma _ _ next others =>
      obtain ⟨_, otherComma, like⟩ :=
        symbol_found (by decide) mirrors.cursor comma
      obtain ⟨middle, nextRead, mirrors⟩ := next (mirrors.moved like)
      obtain ⟨otherStop, othersRead, mirrors⟩ := others mirrors
      exact ⟨otherStop, .nextArgument otherComma nextRead othersRead, mirrors⟩

section Parameters

variable {id : ScopeId} {scope : Scope}

theorem readsParameter {node : Node} (reads : ReadsParameter node start stop)
    (mirrors : embedding.Mirrors start other)
    (stands : start.scopes.Stands id scope)
    (inside : id ≠ 0) :
    ∃ otherStop, ReadsParameter (embedding.tree node) other otherStop ∧
      embedding.Mirrors stop otherStop := by
  cases reads with
  | parameter typed named declares =>
      obtain ⟨_, otherTyped, place, like⟩ := type_found mirrors.cursor typed
      obtain ⟨_, otherNamed, _, like⟩ := identifier_found like named
      obtain ⟨_, otherDeclares, above⟩ :=
        embedding.declare mirrors.scopes stands (fun outermost =>
          absurd outermost inside) declares
      refine ⟨⟨_, _⟩, ?_, like, above⟩
      have whole := ReadsParameter.parameter otherTyped otherNamed otherDeclares
      rw [place] at whole
      exact whole

theorem readsMoreParameters {nodes : List Node}
    (reads : ReadsMoreParameters nodes start stop)
    (mirrors : embedding.Mirrors start other)
    (stands : start.scopes.Stands id scope)
    (inside : id ≠ 0) :
    ∃ otherStop, ReadsMoreParameters
      (nodes.map embedding.tree) other otherStop ∧
      embedding.Mirrors stop otherStop := by
  induction reads generalizing other scope with
  | last closed =>
      obtain ⟨_, otherClosed, like⟩ :=
        symbol_found (by decide) mirrors.cursor closed
      exact ⟨_, .last otherClosed, mirrors.moved like⟩
  | next comma parameter _ others =>
      obtain ⟨_, otherComma, like⟩ :=
        symbol_found (by decide) mirrors.cursor comma
      obtain ⟨_, becomes⟩ :=
        becomes_of_bridges (bridges_of_readsParameter parameter) stands
      obtain ⟨_, first, mirrors⟩ :=
        readsParameter parameter (mirrors.moved like) stands inside
      obtain ⟨_, rest, mirrors⟩ := others mirrors (stands.becomes becomes)
      exact ⟨_, .next otherComma first rest, mirrors⟩

theorem readsParameters {nodes : List Node}
    (reads : ReadsParameters nodes start stop)
    (mirrors : embedding.Mirrors start other)
    (stands : start.scopes.Stands id scope)
    (inside : id ≠ 0) :
    ∃ otherStop, ReadsParameters (nodes.map embedding.tree) other otherStop ∧
      embedding.Mirrors stop otherStop := by
  cases reads with
  | none closed =>
      obtain ⟨_, otherClosed, like⟩ :=
        symbol_found (by decide) mirrors.cursor closed
      exact ⟨_, .none otherClosed, mirrors.moved like⟩
  | some parameter others =>
      obtain ⟨_, becomes⟩ :=
        becomes_of_bridges (bridges_of_readsParameter parameter) stands
      obtain ⟨_, first, mirrors⟩ :=
        readsParameter parameter mirrors stands inside
      have between := stands.becomes becomes
      obtain ⟨_, rest, mirrors⟩ :=
        readsMoreParameters others mirrors between inside
      exact ⟨_, .some first rest, mirrors⟩

end Parameters

/-- The clause is read inside the other source. Further statements may follow a
list. -/
def ReadsInside (embedding : Embedding)
    (other otherStop : Parser) : Clause → Prop
  | .statement node =>
      ReadsClause (.statement (embedding.tree node)) other otherStop
  | .block node => ReadsClause (.block (embedding.tree node)) other otherStop
  | .statements items =>
      ∀ others last, ReadsClause (.statements others) otherStop last →
      ReadsClause (.statements (items.map embedding.tree ++ others)) other last

/-- A list that is closed inside the other source is read there as it stands. -/
theorem ReadsInside.closed {items : List Node} {otherStop : Parser}
    {closed : Cursor}
    (inside : embedding.ReadsInside other otherStop (.statements items))
    (closes : otherStop.cursor.accept? "\x7d" = some closed) :
    ReadsClause (.statements (items.map embedding.tree)) other otherStop := by
  have ends : atListEnd otherStop.cursor = true := by
    have head := Cursor.head?_of_accept? (c := '\x7d') closes rfl
    obtain ⟨rest, ahead⟩ := List.head?_eq_some_iff.1 head
    rw [atListEnd, ahead]
    rfl
  have whole := inside [] otherStop (.listEnd ends)
  rwa [List.append_nil] at whole

/-- Some text is ahead of a list that is closed. -/
theorem position_of_closed {items : List Node}
    {opened closed otherOpened : Cursor}
    {scopes : Scopes} (like : embedding.Like opened otherOpened)
    (reads : ReadsClause (.statements items) ⟨opened, scopes⟩ stop)
    (closes : stop.cursor.accept? "\x7d" = some closed) :
    otherOpened.position = embedding.place opened.position := by
  have shorter := Cursor.length_lt_of_accept? closes (by decide)
  exact position_of_shorter like
    (Nat.lt_of_lt_of_le shorter (shortens_of_readsClause reads))

/-- The statements between braces are read inside the other source if the list
of them is, and the scope around them is left in both. -/
theorem readsBody {items : List Node} {opened closed otherOpened : Cursor}
    {scopes otherScopes outer : Scopes} {middle otherMiddle : Parser}
    (mirrors : embedding.Mirrors ⟨opened, scopes⟩ ⟨otherOpened, otherScopes⟩)
    (itemsRead : ReadsClause (.statements items) ⟨opened, scopes⟩ middle)
    (closes : middle.cursor.accept? "\x7d" = some closed)
    (exits : middle.scopes.exit = .ok outer)
    (inside : embedding.ReadsInside ⟨otherOpened, otherScopes⟩ otherMiddle
      (.statements items))
    (ends : embedding.Mirrors middle otherMiddle) :
    otherOpened.position = embedding.place opened.position ∧
      ReadsClause (.statements (items.map embedding.tree))
        ⟨otherOpened, otherScopes⟩ otherMiddle ∧
      ∃ otherClosed otherOuter,
        otherMiddle.cursor.accept? "\x7d" = some otherClosed ∧
        otherMiddle.scopes.exit = .ok otherOuter ∧
        embedding.Like closed otherClosed ∧
        embedding.Over outer otherOuter := by
  obtain ⟨otherClosed, otherCloses, like⟩ :=
    symbol_found (by decide) ends.cursor closes
  obtain ⟨otherOuter, otherExits, above⟩ := embedding.exit ends.scopes exits
  exact ⟨position_of_closed mirrors.cursor itemsRead closes,
    inside.closed otherCloses, otherClosed, otherOuter, otherCloses,
    otherExits, like, above⟩

/-- Wherever a reading inside the other source mirrors the state in which the
clause is read, the clause is read there as well. In the outermost scope it may
declare free names only. -/
def Embeds (embedding : Embedding) (clause : Clause)
    (start stop : Parser) : Prop :=
  ∀ ⦃other : Parser⦄, embedding.Mirrors start other →
    ∀ ⦃id : ScopeId⦄ ⦃scope : Scope⦄, start.scopes.Stands id scope →
    (id = 0 → ∀ item ∈ clause.items, ∀ name, item.declares name = true →
      embedding.Free name) →
    ∃ otherStop, embedding.ReadsInside other otherStop clause ∧
      embedding.Mirrors stop otherStop

/-- A block declares nothing around it. -/
theorem Embeds.block {node : Node}
    (inside : embedding.Embeds (.block node) start stop)
    (mirrors : embedding.Mirrors start other) {id : ScopeId} {scope : Scope}
    (stands : start.scopes.Stands id scope) :
    ∃ otherStop, ReadsClause (.block (embedding.tree node)) other otherStop ∧
      embedding.Mirrors stop otherStop :=
  inside mirrors stands fun _ _ member => absurd member List.not_mem_nil

theorem embeds_block {items : List Node} {opened closed : Cursor}
    {inner outer : Scopes}
    {middle : Parser} (opens : start.cursor.accept? "\x7b" = some opened)
    (enters : start.scopes.enter = .ok inner)
    (itemsRead : ReadsClause (.statements items) ⟨opened, inner⟩ middle)
    (closes : middle.cursor.accept? "\x7d" = some closed)
    (exits : middle.scopes.exit = .ok outer)
    (inside : embedding.Embeds (.statements items) ⟨opened, inner⟩ middle) :
    embedding.Embeds (.block (.statements items opened.position)) start
      ⟨closed, outer⟩ := by
  intro other mirrors id scope stands free
  have isNew := (Scopes.stands_of_enter stands enters).2
  have nested := Nat.ne_zero_of_lt stands.lt
  obtain ⟨_, otherOpens, like⟩ := symbol_found (by decide) mirrors.cursor opens
  obtain ⟨_, otherEnters, above⟩ := embedding.enter mirrors.scopes enters
  have begins : embedding.Mirrors ⟨_, _⟩ ⟨_, _⟩ := ⟨like, above⟩
  obtain ⟨_, list, ends⟩ := inside begins isNew fun outermost =>
    absurd outermost nested
  obtain ⟨place, body, _, _, otherCloses, otherExits, like, above⟩ :=
    readsBody begins itemsRead closes exits list ends
  refine ⟨⟨_, _⟩, ?_, like, above⟩
  have whole :=
    ReadsClause.block otherOpens otherEnters body otherCloses otherExits
  rw [place] at whole
  rw [ReadsInside, tree, Node.relocate, Node.relocateAll_eq_map]
  exact whole

section Branches

variable {predicate thenBranch : Node} {behind : Cursor} {middle : Parser}

theorem embeds_loop (found : Form.read? start.cursor = some (.loop, behind))
    (test : Reads (.chain .comparison predicate)
      { start with cursor := behind } middle)
    {body : Node} (inside : embedding.Embeds (.block body) middle stop) :
    embedding.Embeds (.statement (.loop predicate body start.cursor.position))
      start stop := by
  intro other mirrors id scope stands _
  have same := scopes_of_reads test
  obtain ⟨_, otherFound, place, like⟩ := form_found mirrors.cursor found
  obtain ⟨_, predicateRead, mirrors⟩ :=
    embedding.reads test (mirrors.moved like)
  obtain ⟨_, bodyRead, mirrors⟩ := inside.block mirrors (same ▸ stands)
  refine ⟨_, ?_, mirrors⟩
  have whole := ReadsClause.loop otherFound predicateRead bodyRead
  rw [place] at whole
  exact whole

variable (found : Form.read? start.cursor = some (.conditional, behind))
  (test : Reads (.chain .comparison predicate)
    { start with cursor := behind } middle)

include found test

theorem embeds_conditional (absent : stop.cursor.keyword? "else" = none)
    (inside : embedding.Embeds (.block thenBranch) middle stop) :
    embedding.Embeds
      (.statement (.conditional predicate thenBranch none
        start.cursor.position))
      start stop := by
  intro other mirrors id scope stands _
  have same := scopes_of_reads test
  obtain ⟨_, otherFound, place, like⟩ := form_found mirrors.cursor found
  obtain ⟨_, predicateRead, mirrors⟩ :=
    embedding.reads test (mirrors.moved like)
  obtain ⟨_, thenRead, mirrors⟩ := inside.block mirrors (same ▸ stands)
  refine ⟨_, ?_, mirrors⟩
  have whole := ReadsClause.conditional otherFound predicateRead thenRead
    (else_absent mirrors.cursor absent)
  rw [place] at whole
  exact whole

theorem embeds_alternative {elseBranch : Node} {branch : Cursor} {last : Parser}
    (thenReads : ReadsClause (.block thenBranch) middle last)
    (word : last.cursor.keyword? "else" = some branch)
    (inside : embedding.Embeds (.block thenBranch) middle last)
    (otherInside : embedding.Embeds (.block elseBranch)
      { last with cursor := branch } stop) :
    embedding.Embeds
      (.statement (.conditional predicate thenBranch (some elseBranch)
        start.cursor.position))
      start stop := by
  intro other mirrors id scope stands _
  have same := scopes_of_reads test
  obtain ⟨_, becomes⟩ :=
    becomes_of_bridges (bridges_of_readsClause thenReads) (same ▸ stands)
  obtain ⟨_, otherFound, place, like⟩ := form_found mirrors.cursor found
  obtain ⟨_, predicateRead, mirrors⟩ :=
    embedding.reads test (mirrors.moved like)
  obtain ⟨_, thenRead, mirrors⟩ := inside.block mirrors (same ▸ stands)
  obtain ⟨_, otherWord, like⟩ := else_found mirrors.cursor word
  obtain ⟨_, elseRead, mirrors⟩ :=
    otherInside.block (mirrors.moved like) ((same ▸ stands).becomes becomes)
  refine ⟨_, ?_, mirrors⟩
  have whole :=
    ReadsClause.alternative otherFound predicateRead thenRead otherWord elseRead
  rw [place] at whole
  exact whole

end Branches

section Declarations

variable {type : DataType} {name : String} {typed named : Cursor}
  (found : start.cursor.type? = some (type, typed))
  (identified : typed.identifier? = some (name, named))

include found identified

theorem embeds_uninitialized {scopes : Scopes}
    (noCall : named.accept? "(" = none)
    (noValue : named.accept? "=" = none)
    (declares : start.scopes.declare? name type = .ok (some scopes)) :
    embedding.Embeds
      (.statement (.declaration type name none start.cursor.position))
      start ⟨named, scopes⟩ := by
  intro other mirrors id scope stands free
  obtain ⟨_, otherFound, place, like⟩ := type_found mirrors.cursor found
  obtain ⟨_, otherIdentified, _, like⟩ := identifier_found like identified
  have freeName outermost :=
    free outermost _ List.mem_cons_self _ (Node.declares_iff.2 rfl)
  obtain ⟨_, otherDeclares, above⟩ :=
    embedding.declare mirrors.scopes stands freeName declares
  refine ⟨⟨_, _⟩, ?_, like, above⟩
  have whole := ReadsClause.uninitialized otherFound otherIdentified
    (symbol_absent (by decide) like noCall)
      (symbol_absent (by decide) like noValue)
    otherDeclares
  rw [place] at whole
  exact whole

theorem embeds_initialized {value : Node} {opened : Cursor} {scopes : Scopes}
    (equals : named.accept? "=" = some opened)
    (valueRead : Reads (.chain .comparison value)
      { start with cursor := opened } stop)
    (declares : stop.scopes.declare? name type = .ok (some scopes)) :
    embedding.Embeds
      (.statement (.declaration type name (some value) start.cursor.position))
      start { stop with scopes } := by
  intro other mirrors id scope stands free
  have same := scopes_of_reads valueRead
  obtain ⟨_, otherFound, place, like⟩ := type_found mirrors.cursor found
  obtain ⟨_, otherIdentified, _, like⟩ := identifier_found like identified
  obtain ⟨_, otherEquals, like⟩ := symbol_found (by decide) like equals
  obtain ⟨last, read, mirrors⟩ := embedding.reads valueRead (mirrors.moved like)
  have freeName outermost :=
    free outermost _ List.mem_cons_self _ (Node.declares_iff.2 rfl)
  obtain ⟨scopes, otherDeclares, above⟩ :=
    embedding.declare mirrors.scopes (same ▸ stands) freeName declares
  refine ⟨{ last with scopes }, ?_, mirrors.cursor, above⟩
  have whole :=
    ReadsClause.initialized otherFound otherIdentified otherEquals read
      otherDeclares
  rw [place] at whole
  exact whole

theorem embeds_function {parameters items : List Node}
    {opened bodyOpened closed : Cursor}
    {inner outer declared bound : Scopes} {middle last : Parser}
    (opens : named.accept? "(" = some opened)
    (enters : start.scopes.enter = .ok inner)
    (parametersRead : ReadsParameters parameters ⟨opened, inner⟩ middle)
    (bodyOpens : middle.cursor.accept? "\x7b" = some bodyOpened)
    (itemsRead : ReadsClause (.statements items)
      { middle with cursor := bodyOpened } last)
    (closes : last.cursor.accept? "\x7d" = some closed)
    (exits : last.scopes.exit = .ok outer)
    (declares : outer.declare? name .callable = .ok (some declared))
    (binds : declared.bind name (Node.signature type parameters) = .ok bound)
    (inside : embedding.Embeds (.statements items)
      { middle with cursor := bodyOpened } last) :
    embedding.Embeds (.statement (.function type name parameters
      (.statements items bodyOpened.position) start.cursor.position)) start
        ⟨closed, bound⟩ := by
  intro other mirrors id scope stands free
  have isNew := (Scopes.stands_of_enter stands enters).2
  have nested := Nat.ne_zero_of_lt stands.lt
  have inParameters := bridges_of_readsParameters parametersRead
  have inItems := bridges_of_readsClause itemsRead
  obtain ⟨_, becomes⟩ := becomes_of_bridges inParameters isNew
  have around := becomes_of_block stands enters
    (fun _ _ fits => inParameters _ _ (inItems _ _ fits)) exits
  obtain ⟨_, otherFound, place, like⟩ := type_found mirrors.cursor found
  obtain ⟨_, otherIdentified, _, like⟩ := identifier_found like identified
  obtain ⟨_, otherOpens, like⟩ := symbol_found (by decide) like opens
  obtain ⟨_, otherEnters, above⟩ := embedding.enter mirrors.scopes enters
  have begins : embedding.Mirrors ⟨_, _⟩ ⟨_, _⟩ := ⟨like, above⟩
  obtain ⟨_, otherParameters, mirrors⟩ :=
    readsParameters parametersRead begins isNew nested
  obtain ⟨_, otherBodyOpens, like⟩ :=
    symbol_found (by decide) mirrors.cursor bodyOpens
  have goesOn := mirrors.moved like
  obtain ⟨_, list, ends⟩ :=
    inside goesOn (isNew.becomes becomes) fun outermost =>
    absurd outermost nested
  obtain ⟨bodyPlace, body, _, _, otherCloses, otherExits, like, above⟩ :=
    readsBody goesOn itemsRead closes exits list ends
  have freeName outermost :=
    free outermost _ List.mem_cons_self _ (Node.declares_iff.2 rfl)
  obtain ⟨_, _, otherDeclares, otherBinds, above⟩ :=
    embedding.function above (stands.becomes around) freeName declares binds
  refine ⟨⟨_, _⟩, ?_, like, above⟩
  rw [← @Node.signature_relocate embedding.place embedding.scope] at otherBinds
  have whole := ReadsClause.function otherFound otherIdentified
    otherOpens otherEnters
    otherParameters otherBodyOpens body otherCloses otherExits
      otherDeclares otherBinds
  rw [place, bodyPlace] at whole
  rw [ReadsInside, tree, Node.relocate, Node.relocateAll_eq_map, Node.relocate,
    Node.relocateAll_eq_map]
  exact whole

end Declarations

theorem embeds_statements {first : Node} {others : List Node} {middle : Parser}
    (firstReads : ReadsClause (.statement first) start middle)
    (inside : embedding.Embeds (.statement first) start middle)
    (othersInside : embedding.Embeds (.statements others) middle stop) :
    embedding.Embeds (.statements (first :: others)) start stop := by
  intro other mirrors id scope stands free
  obtain ⟨_, becomes⟩ :=
    becomes_of_bridges (bridges_of_readsClause firstReads) stands
  have freeFirst outermost := (List.forall_mem_cons.1 (free outermost)).1
  have freeOthers outermost := (List.forall_mem_cons.1 (free outermost)).2
  obtain ⟨_, firstRead, mirrors⟩ := inside mirrors stands fun outermost =>
    List.forall_mem_singleton.2 (freeFirst outermost)
  obtain ⟨otherStop, othersRead, mirrors⟩ :=
    othersInside mirrors (stands.becomes becomes) freeOthers
  exact ⟨otherStop, fun more last follow =>
    .statements firstRead (othersRead more last follow), mirrors⟩

/-- What is read in a source is read inside the other one, by induction on the
rules by which statements are read. -/
theorem readsClause {clause : Clause} (reads : ReadsClause clause start stop) :
    embedding.Embeds clause start stop := by
  induction reads with
  | listEnd =>
      exact fun other mirrors _ _ _ _ =>
        ⟨other, fun _ _ follow => follow, mirrors⟩
  | statements firstReads _ first others =>
      exact embeds_statements firstReads first others
  | block opens enters itemsRead closes exits items =>
      exact embeds_block opens enters itemsRead closes exits items
  | expression chain =>
      intro other mirrors _ _ _ _
      obtain ⟨_, read, mirrors⟩ := embedding.reads chain mirrors
      exact ⟨_, .expression read, mirrors⟩
  | print found value =>
      intro other mirrors _ _ _ _
      obtain ⟨_, otherFound, place, like⟩ := form_found mirrors.cursor found
      obtain ⟨_, read, mirrors⟩ := embedding.reads value (mirrors.moved like)
      refine ⟨_, ?_, mirrors⟩
      have whole := ReadsClause.print otherFound read
      rw [place] at whole
      exact whole
  | assignment found named current equals value =>
      intro other mirrors _ _ _ _
      have otherCurrent := embedding.current mirrors.scopes current
      obtain ⟨_, otherFound, place, like⟩ := form_found mirrors.cursor found
      obtain ⟨_, otherNamed, target, like⟩ := identifier_found like named
      obtain ⟨_, otherEquals, like⟩ := symbol_found (by decide) like equals
      obtain ⟨_, read, mirrors⟩ := embedding.reads value (mirrors.moved like)
      refine ⟨_, ?_, mirrors⟩
      have whole :=
        ReadsClause.assignment otherFound otherNamed otherCurrent
          otherEquals read
      rw [place, target] at whole
      exact whole
  | loop found test _ body => exact embeds_loop found test body
  | conditional found test _ absent thenBranch =>
      exact embeds_conditional found test absent thenBranch
  | alternative found test thenReads word _ thenBranch elseBranch =>
      exact embeds_alternative found test thenReads word thenBranch elseBranch
  | uninitialized found identified noCall noValue declares =>
      exact embeds_uninitialized found identified noCall noValue declares
  | initialized found identified equals value declares =>
      exact embeds_initialized found identified equals value declares
  | function found identified opens enters parameters bodyOpens
      itemsRead closes exits
      declares binds items =>
      exact embeds_function found identified opens enters parameters bodyOpens
        itemsRead closes exits declares binds items

end Embedding

end Minilang
