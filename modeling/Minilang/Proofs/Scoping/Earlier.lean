import Minilang.Proofs.Scoping.Compiled

/-!
# Declarations before mentions

A name is looked up in its scope only when all of the program has been read, so
it may refer to a declaration that the innermost block makes at the mention or
behind it. The main statement, `declaredBefore_iff_of_compile`, says that this
is the only way in which a name in a compiled program can come before each of
its declarations.
-/

namespace Minilang

namespace Site

variable {site : Site} {name : String}

/-- A declaration of the name, in the innermost block or one around it, is
complete before the mention. -/
def DeclaredBefore (site : Site) (name : String) : Prop :=
  ∃ frame ∈ site.before :: site.outer, ∃ node ∈ frame, node.declares name = true

/-- The innermost block declares the name, but not before the mention is
over. -/
def DeclaredLater (site : Site) (name : String) : Prop :=
  ∃ node ∈ site.block.drop site.before.length, node.declares name = true

/-- The name is declared in the innermost block, and nowhere before the
mention. -/
def DeclaredOnlyLater (site : Site) (name : String) : Prop :=
  site.DeclaredLater name ∧ ¬ site.DeclaredBefore name

instance : Decidable (site.DeclaredOnlyLater name) := by
  unfold DeclaredOnlyLater DeclaredLater DeclaredBefore
  infer_instance

/-- Of the innermost block all declarations count, and of the blocks around it
those made before. -/
theorem resolve?_eq_none_iff (early : site.before <+: site.block) :
    site.resolve? name = none ↔
      ¬ (site.DeclaredBefore name ∨ site.DeclaredLater name) := by
  obtain ⟨late, split⟩ := early
  rw [resolve?, DeclaredBefore, DeclaredLater, ← split, List.drop_left]
  simp only [List.findSome?_eq_none_iff, List.find?_eq_none,
    List.forall_mem_cons, List.forall_mem_append, not_or, not_exists, not_and]
  constructor
  · intro absent
    exact ⟨⟨absent.1.1, absent.2⟩, absent.1.2⟩
  · intro absent
    exact ⟨⟨absent.1.1, absent.2⟩, absent.1.2⟩

end Site

/-- What is complete before a mention are the first declarations of its
block. -/
theorem Outline.before_prefix_block {outline : Outline} {site : Site}
    {mention : Mention}
    (block : site.block = site.before ++ outline.declarations)
    (mentioned : mention ∈ outline.mentions site) :
    mention.site.before <+: mention.site.block := by
  induction outline generalizing site with
  | done => cases mentioned
  | mention name scope node rest inductionHypothesis =>
      rcases List.mem_cons.1 mentioned with rfl | mentioned
      · exact ⟨_, block.symm⟩
      · exact inductionHypothesis block mentioned
  | declare node rest inductionHypothesis =>
      refine inductionHypothesis ?_ mentioned
      rw [block, List.append_assoc]
      rfl
  | block inner rest innerHypothesis restHypothesis =>
      rcases List.mem_append.1 mentioned with mentioned | mentioned
      · exact innerHypothesis rfl mentioned
      · exact restHypothesis block mentioned

namespace Program

variable {source file : String} {program : Program}
  {warnings later : List Warning}

/-- The look-up of a name fails exactly if the name is declared neither before
the mention nor later in its block. -/
theorem symbol?_eq_none_iff_of_compile
    (success : (compile source file).run warnings = .ok program later)
    {mention : Mention}
    (mentioned : mention ∈ program.root.mentions) :
    program.scopes.symbol? mention.scope mention.name = .ok none ↔
      ¬ (mention.site.DeclaredBefore mention.name ∨
        mention.site.DeclaredLater mention.name) := by
  obtain ⟨symbol, _⟩ :=
    Node.lookup_of_mention (fits_of_compile success).leads mentioned
  rw [← Site.resolve?_eq_none_iff (Outline.before_prefix_block rfl mentioned),
    symbol]
  simp

/-- In a compiled program each name has a declaration that is complete before
it, in its own block or one around it, exactly if no name is declared only later
in its block. -/
theorem declaredBefore_iff_of_compile
    (success : (compile source file).run warnings = .ok program later) :
    (∀ mention ∈ program.root.mentions,
      mention.site.DeclaredBefore mention.name) ↔
      ¬ ∃ mention ∈ program.root.mentions,
      mention.site.DeclaredOnlyLater mention.name := by
  constructor
  · intro before found
    obtain ⟨mention, mentioned, _, notBefore⟩ := found
    exact notBefore (before mention mentioned)
  · intro never mention mentioned
    obtain ⟨⟨within, mentions⟩, _⟩ := Node.partOf_of_mem_mentions mentioned
    obtain ⟨_, typed⟩ := typed_of_compile success _ within
    obtain ⟨type, found⟩ := typed.symbol? mentions
    by_contra notBefore
    have absent := (symbol?_eq_none_iff_of_compile success mentioned).2 <| by
      rintro (before | later)
      · exact notBefore before
      · exact never ⟨mention, mentioned, later, notBefore⟩
    rw [absent] at found
    cases found

theorem declaredBefore_iff_of_compile_function :
    ∃ program later,
        (compile "int f(int x) \x7b print x \x7d print f(1)" "f.code").run [] =
        .ok program later ∧
      ((∀ mention ∈ program.root.mentions,
        mention.site.DeclaredBefore mention.name) ↔
        ¬ ∃ mention ∈ program.root.mentions,
        mention.site.DeclaredOnlyLater mention.name) := by
  obtain ⟨program, later, success⟩ := Steps.exists_ok_of_succeeded <|
    show Steps.succeeded ((compile
      "int f(int x) \x7b print x \x7d print f(1)" "f.code").run []) =
        true by decide +kernel
  exact ⟨program, later, success, declaredBefore_iff_of_compile success⟩

/-- A name that is declared only behind its mention is accepted. -/
theorem compile_declaredOnlyLater :
    ∃ program later,
      (compile "x int x = 1" "f.code").run [] = .ok program later ∧
      ∃ mention ∈ program.root.mentions,
        mention.site.DeclaredOnlyLater mention.name := by
  have accepted : (match (compile "x int x = 1" "f.code").run [] with
      | .ok program _ =>
          decide (∃ mention ∈ program.root.mentions,
            mention.site.DeclaredOnlyLater mention.name)
      | .error _ _ => false) = true := by decide +kernel
  split at accepted
  · rename_i program later success
    exact ⟨program, later, success, of_decide_eq_true accepted⟩
  · cases accepted

end Program

end Minilang
