import Minilang.Proofs.Reading.Expression
import Minilang.Proofs.Writing.Facing
import Minilang.Proofs.Writing.Rendering

/-!
# Expressions are read as they are written

Wherever the tokens of an expression stand, they are read as that expression, if
what follows does not make more of it. A binary expression is not read on its
own but as the beginning of a chain, which goes on with the operators that
follow: `Extends` says that a chain may begin with the tokens of an expression,
and `Extends.link` that it then grows by one operand. The main statement is
`readable_of_expression`.
-/

namespace Minilang

open Token

namespace Token

/-! ## What may follow an expression -/

/-- No operator of a level below the bound comes first. -/
def Quiet (bound : Nat) (rest : List Token) : Prop :=
  ∀ token ∈ rest.head?, ∀ level : Level, level.height < bound →
    ¬ IsOperator level token

/-- The expression of the tokens ends where the rest begins: no operator of a
level below the bound goes on with it, and no arguments stand behind a name. -/
structure Ends (bound : Nat) (tokens rest : List Token) : Prop where
  quiet : Quiet bound rest
  noCall : EndInWord tokens → rest.head? ≠ some (.symbol "(")

variable {bound : Nat} {tokens rest : List Token}

theorem Quiet.mono {tighter : Nat} (quiet : Quiet bound rest)
    (below : tighter ≤ bound) :
    Quiet tighter rest :=
  fun token head level lower =>
    quiet token head level (Nat.lt_of_lt_of_le lower below)

theorem Ends.mono {tighter : Nat} (ends : Ends bound tokens rest)
    (below : tighter ≤ bound) :
    Ends tighter tokens rest where
  quiet := ends.quiet.mono below
  noCall := ends.noCall

theorem Ends.suffix {before : List Token}
    (ends : Ends bound (before ++ tokens) rest) :
    Ends bound tokens rest where
  quiet := ends.quiet
  noCall := by
    intro word
    obtain ⟨initial, word, rfl⟩ := word
    exact ends.noCall ⟨before ++ initial, word, (List.append_assoc ..).symm⟩

theorem symbol_injective {operator other : BinaryOperator}
    (same : operator.symbol = other.symbol) :
    operator = other := by
  revert same
  cases operator <;> cases other <;> decide

/-- An operator ends its left operand. -/
theorem ends_operator (operator : BinaryOperator) :
    Ends operator.level.height tokens (.symbol operator.symbol :: rest) where
  quiet := by
    intro token head level below isOperator
    cases head
    obtain ⟨other, rfl, same⟩ := isOperator
    cases symbol_injective (Token.symbol.inj same)
    exact absurd below (Nat.lt_irrefl _)
  noCall := by
    intro _ parenthesis
    have noParenthesis : operator.symbol ≠ "(" := by cases operator <;> decide
    exact noParenthesis (Token.symbol.inj (Option.some.inj parenthesis))

/-- A symbol that is neither an operator nor an opening parenthesis ends every
expression. -/
theorem ends_symbol {text : String}
    (noOperator : ∀ operator : BinaryOperator, operator.symbol ≠ text)
    (noParenthesis : text ≠ "(") :
    Ends bound tokens (.symbol text :: rest) where
  quiet := by
    intro token head level _ isOperator
    cases head
    obtain ⟨operator, _, same⟩ := isOperator
    exact noOperator operator (Token.symbol.inj same).symm
  noCall := by
    intro _ parenthesis
    exact noParenthesis (Token.symbol.inj (Option.some.inj parenthesis))

theorem ends_closing : Ends bound tokens (.symbol ")" :: rest) :=
  ends_symbol (by rintro ⟨⟩ <;> decide) (by decide)

theorem ends_comma : Ends bound tokens (.symbol "," :: rest) :=
  ends_symbol (by rintro ⟨⟩ <;> decide) (by decide)

theorem ends_separated {others : List (List Token)} :
    Ends bound tokens
      (others.flatMap (.symbol "," :: ·) ++ .symbol ")" :: rest) := by
  cases others with
  | nil => exact ends_closing
  | cons next more => exact ends_comma

end Token

namespace Grammar

open Token Node

variable {scopes : Scopes} {node : Node} {tokens rest : List Token}

/-- Where the tokens and then the rest stand, the tokens are read as a phrase of
the tree, which may have other places and scopes. -/
def ReadsAs (scopes : Scopes) (phrase : Node → Phrase) (node : Node)
    (tokens rest : List Token) : Prop :=
  ∀ cursor : Cursor, cursor.Faces (tokens ++ rest) → ∃ read behind,
    Reads (phrase read) ⟨cursor, scopes⟩ ⟨behind, scopes⟩ ∧ behind.Faces rest ∧
      read.bare = node.bare

/-- Where the tokens and then the rest stand, a chain of the level may begin
with the tokens as the tree, and go on with what the rest is read as. -/
def Extends (scopes : Scopes) (level : Level) (node : Node)
    (tokens rest : List Token) : Prop :=
  ∀ cursor : Cursor, cursor.Faces (tokens ++ rest) → ∃ read behind,
    (∀ whole stop, Reads (.links level read whole) ⟨behind, scopes⟩ stop →
      Reads (.chain level whole) ⟨cursor, scopes⟩ stop) ∧
      behind.Faces rest ∧ read.bare = node.bare

theorem extends_of_operand {level : Level}
    (operand : ReadsAs scopes (.operand level) node tokens rest) :
    Extends scopes level node tokens rest := by
  intro cursor faces
  obtain ⟨read, behind, reads, faces, same⟩ := operand cursor faces
  exact ⟨read, behind, fun whole stop links => .chain reads links, faces, same⟩

/-- A chain ends where no operator of its level follows. -/
theorem Extends.chain {level : Level}
    (extends_ : Extends scopes level node tokens rest)
    (quiet : Quiet (level.height + 1) rest) :
    ReadsAs scopes (.chain level) node tokens rest := by
  intro cursor faces
  obtain ⟨read, behind, goesOn, faces, same⟩ := extends_ cursor faces
  refine ⟨read, behind, goesOn read _ (.noLink ?_), faces, same⟩
  exact faces.operator?_eq_none fun token head =>
    quiet token head level (Nat.lt_succ_self _)

theorem height_of_next {level tighter : Level}
    (next : level.next = some tighter) :
    level.height = tighter.height + 1 := by
  cases level <;> cases next <;> rfl

theorem operand_of_next {level tighter : Level}
    (next : level.next = some tighter) :
    Phrase.operand level = Phrase.chain tighter := by
  cases level <;> cases next <;> rfl

/-- What begins a chain of one level begins a chain of every looser level, if no
operator of the levels between follows. -/
theorem Extends.looser {tight : Level}
    (extends_ : Extends scopes tight node tokens rest) (level : Level)
    (above : tight.height ≤ level.height) (quiet : Quiet level.height rest) :
    Extends scopes level node tokens rest := by
  by_cases equal : tight = level
  · rw [← equal]
    exact extends_
  · have strict : tight.height < level.height := by
      refine Nat.lt_of_le_of_ne above fun same => equal ?_
      revert same
      cases tight <;> cases level <;> decide
    cases next : level.next with
    | none =>
        rw [show level = .exponent by cases level <;> cases next; rfl] at strict
        exact absurd strict (Nat.not_lt_zero _)
    | some tighter =>
        have step := height_of_next next
        have inner : Extends scopes tighter node tokens rest :=
          Extends.looser extends_ tighter (by omega) (quiet.mono (by omega))
        refine extends_of_operand ?_
        rw [operand_of_next next]
        exact inner.chain (quiet.mono (Nat.le_of_eq step.symm))
termination_by level.height
decreasing_by exact Level.height_next next

theorem extends_of_component (level : Level)
    (component : ReadsAs scopes .component node tokens rest)
    (quiet : Quiet level.height rest) :
    Extends scopes level node tokens rest := by
  have tightest : Extends scopes .exponent node tokens rest :=
    extends_of_operand component
  exact tightest.looser level (Nat.zero_le _) quiet

theorem operand_of_component (level : Level)
    (component : ReadsAs scopes .component node tokens rest)
    (quiet : Quiet level.height rest) :
    ReadsAs scopes (.operand level) node tokens rest := by
  cases next : level.next with
  | none =>
      cases level <;> cases next
      exact component
  | some tighter =>
      have step := height_of_next next
      have inner :=
        extends_of_component tighter component (quiet.mono (by omega))
      rw [operand_of_next next]
      exact inner.chain (quiet.mono (Nat.le_of_eq step.symm))

theorem component_of_primary
    (primary : ReadsAs scopes .primary node tokens rest) :
    ReadsAs scopes .component node tokens rest := by
  intro cursor faces
  obtain ⟨read, behind, reads, faces, same⟩ := primary cursor faces
  exact ⟨read, behind, .plain reads, faces, same⟩

theorem primary_of_chain
    (chain : ReadsAs scopes (.chain .comparison) node tokens
      (.symbol ")" :: rest)) :
    ReadsAs scopes .primary node (enclosed tokens) rest := by
  intro cursor faces
  rw [enclosed, List.cons_append, List.append_assoc] at faces
  obtain ⟨opened, open_, faces⟩ := faces.accept?
  obtain ⟨read, middle, reads, faces, same⟩ := chain opened faces
  obtain ⟨closed, close, faces⟩ := faces.accept?
  have whole :=
    @Reads.parenthesized read opened closed ⟨cursor, scopes⟩ ⟨middle, scopes⟩
  exact ⟨read, closed, whole open_ reads close, faces, same⟩

/-- A chain grows by an operator and its right operand. -/
theorem Extends.link {operator : BinaryOperator} {left right : Node}
    {position : Position} {leftTokens rightTokens : List Token}
    (first : Extends scopes operator.level left leftTokens
      (.symbol operator.symbol :: (rightTokens ++ rest)))
    (second : ReadsAs scopes (.operand operator.level) right rightTokens rest) :
    Extends scopes operator.level (.binary operator left right position)
      (leftTokens ++ .symbol operator.symbol :: rightTokens) rest := by
  intro cursor faces
  rw [List.append_assoc, List.cons_append] at faces
  obtain ⟨leftRead, middle, goesOn, faces, leftSame⟩ := first cursor faces
  obtain ⟨opened, found, faces⟩ := faces.operator?
  obtain ⟨rightRead, behind, reads, faces, rightSame⟩ := second opened faces
  refine ⟨.binary operator leftRead rightRead middle.position, behind,
    ?_, faces, ?_⟩
  · intro whole stop links
    exact goesOn whole stop (.link found reads links)
  · rw [bare_binary, bare_binary, leftSame, rightSame]

/-- The expression is read as what its looseness makes of it wherever it
stands. -/
structure Readable (scopes : Scopes) (node : Node) : Prop where
  primary : node.looseness = 0 → ∀ rest, Ends 0 node.tokens rest →
    ReadsAs scopes .primary node node.tokens rest
  component : node.looseness ≤ 1 → ∀ rest, Ends 0 node.tokens rest →
    ReadsAs scopes .component node node.tokens rest
  extend : ∀ level : Level, node.looseness ≤ level.height + 2 →
    ∀ rest, Ends level.height node.tokens rest →
      Extends scopes level node node.tokens rest

theorem readable_of_component
    (component : ∀ rest, Ends 0 node.tokens rest →
      ReadsAs scopes .component node node.tokens rest)
    (loose : node.looseness ≠ 0) : Readable scopes node where
  primary := fun plain => absurd plain loose
  component := fun _ => component
  extend := fun level _ rest ends =>
    extends_of_component level (component rest (ends.mono (Nat.zero_le _)))
      ends.quiet

theorem readable_of_primary
    (primary : ∀ rest, Ends 0 node.tokens rest →
      ReadsAs scopes .primary node node.tokens rest) :
    Readable scopes node where
  primary := fun _ => primary
  component := fun _ rest ends => component_of_primary (primary rest ends)
  extend := fun level _ rest ends => by
    have component :=
      component_of_primary (primary rest (ends.mono (Nat.zero_le _)))
    exact extends_of_component level component ends.quiet

theorem looseness_le (node : Node) :
    node.looseness ≤ Level.comparison.height + 2 := by
  cases node with
  | binary operator =>
      rw [looseness]
      cases operator <;> decide
  | _ => exact Nat.le_of_ble_eq_true rfl

variable (readable : Readable scopes node)
include readable

/-- A whole expression is read where no operator at all follows. -/
theorem Readable.chain {rest : List Token} (ends : Ends 4 node.tokens rest) :
    ReadsAs scopes (.chain .comparison) node node.tokens rest := by
  have begins :=
    readable.extend .comparison (looseness_le node) rest (ends.mono (by decide))
  exact begins.chain ends.quiet

theorem Readable.enclosed :
    ReadsAs scopes .primary node (enclosed node.tokens) rest :=
  primary_of_chain (readable.chain ends_closing)

theorem Readable.plain (ends : Ends 0 (node.within 0 node.tokens) rest) :
    ReadsAs scopes .primary node (node.within 0 node.tokens) rest := by
  rw [within] at ends ⊢
  split
  · rename_i plain
    rw [if_pos plain] at ends
    exact readable.primary (Nat.le_zero.1 plain) rest ends
  · exact readable.enclosed

/-- A left operand may be of the level itself and begins the chain. -/
theorem Readable.left {level : Level}
    (ends : Ends level.height
      (node.within (level.height + 2) node.tokens) rest) :
    Extends scopes level node
      (node.within (level.height + 2) node.tokens) rest := by
  rw [within] at ends ⊢
  split
  · rename_i fits
    rw [if_pos fits] at ends
    exact readable.extend level fits rest ends
  · exact extends_of_component level
      (component_of_primary readable.enclosed) ends.quiet

/-- A right operand of the same level would be taken for a further link, so it
stands in parentheses. -/
theorem Readable.right {level : Level}
    (ends : Ends level.height
      (node.within (level.height + 1) node.tokens) rest) :
    ReadsAs scopes (.operand level) node
      (node.within (level.height + 1) node.tokens) rest := by
  rw [within] at ends ⊢
  split
  · rename_i fits
    rw [if_pos fits] at ends
    cases next : level.next with
    | none =>
        cases level <;> cases next
        exact readable.component fits rest ends
    | some tighter =>
        have step := height_of_next next
        have begins :=
          readable.extend tighter (by omega) rest (ends.mono (by omega))
        rw [operand_of_next next]
        exact begins.chain (ends.quiet.mono (Nat.le_of_eq step.symm))
  · exact operand_of_component level
      (component_of_primary readable.enclosed) ends.quiet

omit readable

/-! ## Every expression is read -/

theorem readable_literal {value : Literal} {position : Position}
    (written : value.IsWritten) :
    Readable scopes (.literal value position) := by
  refine readable_of_primary fun rest _ cursor faces => ?_
  cases value with
  | integer digits =>
      have noPoint : '.' ∉ digits.toList :=
        fun point => absurd (written.2 _ point) (by decide)
      obtain ⟨behind, found, faces⟩ := Cursor.Faces.number faces
      rw [if_neg noPoint] at found
      exact ⟨_, behind, .number found, faces, rfl⟩
  | float digits =>
      have point : '.' ∈ digits.toList := by
        obtain ⟨whole, part, split, _⟩ := written
        rw [split]
        exact List.mem_append_right whole List.mem_cons_self
      obtain ⟨behind, found, faces⟩ := Cursor.Faces.number faces
      rw [if_pos point] at found
      exact ⟨_, behind, .number found, faces, rfl⟩
  | string contents =>
      obtain ⟨behind, found, faces⟩ := Cursor.Faces.string faces
      exact ⟨_, behind, .string found, faces, rfl⟩

section Named

variable {id : ScopeId} (current : scopes.current = .ok id)
include current

theorem readable_reference {name : String} {scope : ScopeId}
    {position : Position} (isName : Lexeme.IsName name) :
    Readable scopes (.reference name scope position) := by
  refine readable_of_primary fun rest ends cursor faces => ?_
  have noCall : rest.head? ≠ some (.symbol "(") := ends.noCall ⟨[], name, rfl⟩
  obtain ⟨behind, found, faces⟩ := Cursor.Faces.identifier? faces isName.2
  exact ⟨_, behind, .reference found current (faces.noParenthesis noCall),
    faces, rfl⟩

omit current in
theorem reads_moreArguments_of_readable {arguments : List Node}
    {rest : List Token}
    (readable : ∀ argument ∈ arguments, Readable scopes argument)
    {cursor : Cursor}
    (faces : cursor.Faces
      ((arguments.map Node.tokens).flatMap (.symbol "," :: ·) ++
        .symbol ")" :: rest)) :
    ∃ reads behind,
      Reads (.moreArguments reads) ⟨cursor, scopes⟩ ⟨behind, scopes⟩ ∧
      behind.Faces rest ∧ reads.map bare = arguments.map bare := by
  induction arguments generalizing cursor with
  | nil =>
      obtain ⟨closed, close, faces⟩ := Cursor.Faces.accept? faces
      exact ⟨[], closed, .lastArgument close, faces, rfl⟩
  | cons next others inductionHypothesis =>
      obtain ⟨first, rest_⟩ := List.forall_mem_cons.1 readable
      rw [List.map_cons, List.flatMap_cons, List.cons_append, List.cons_append,
        List.append_assoc] at faces
      obtain ⟨opened, comma, faces⟩ := faces.accept?
      obtain ⟨read, middle, reads, faces, same⟩ :=
        first.chain ends_separated opened faces
      obtain ⟨more, behind, readsMore, faces, sameMore⟩ :=
        inductionHypothesis rest_ faces
      refine ⟨read :: more, behind,
        .nextArgument comma reads readsMore, faces, ?_⟩
      rw [List.map_cons, List.map_cons, same, sameMore]

theorem readable_call {name : String} {arguments : List Node} {scope : ScopeId}
    {position : Position} (isName : Lexeme.IsName name)
    (readable : ∀ argument ∈ arguments, Readable scopes argument) :
    Readable scopes (.call name arguments scope position) := by
  refine readable_of_primary fun rest _ cursor faces => ?_
  rw [Node.tokens, tokensAll_eq_map, List.cons_append] at faces
  obtain ⟨behind, found, faces⟩ := faces.identifier? isName.2
  rw [enclosed, List.cons_append, List.append_assoc] at faces
  obtain ⟨opened, open_, faces⟩ := faces.accept?
  cases arguments with
  | nil =>
      obtain ⟨closed, close, faces⟩ := Cursor.Faces.accept? faces
      exact ⟨_, closed, .emptyCall found current open_ close, faces, rfl⟩
  | cons first others =>
      obtain ⟨firstReadable, othersReadable⟩ := List.forall_mem_cons.1 readable
      rw [List.map_cons, separated, List.append_assoc] at faces
      obtain ⟨read, middle, reads, faces, same⟩ :=
        firstReadable.chain ends_separated opened faces
      obtain ⟨more, last, readsMore, faces, sameMore⟩ :=
        reads_moreArguments_of_readable othersReadable faces
      have whole := @Reads.call name read more id behind opened ⟨cursor, scopes⟩
        ⟨middle, scopes⟩
        ⟨last, scopes⟩
      refine ⟨_, last, whole found current open_ reads readsMore, faces, ?_⟩
      rw [bare_call, bare_call, List.map_cons, List.map_cons, same, sameMore]

end Named

/-- A cast takes a plain operand only, and one that is not plain stands in
parentheses. -/
theorem readable_cast {target : DataType} {operand : Node} {position : Position}
    (hasWord : target.HasWord) (readable : Readable scopes operand) :
    Readable scopes (.cast target operand position) := by
  refine readable_of_component (fun rest ends cursor faces => ?_)
    Nat.one_ne_zero
  rw [Node.tokens, castTo] at faces ends
  obtain ⟨opened, open_, faces⟩ := Cursor.Faces.accept? faces
  obtain ⟨named, found, faces⟩ := Cursor.Faces.type? faces hasWord.mem_words
  obtain ⟨closed, close, faces⟩ := Cursor.Faces.accept? faces
  obtain ⟨read, behind, reads, faces, same⟩ :=
    readable.plain ends.suffix closed faces
  have whole :=
    @Reads.cast target read opened named closed ⟨cursor, scopes⟩
      ⟨behind, scopes⟩
  refine ⟨_, behind, whole open_ found close reads, faces, ?_⟩
  rw [bare_cast, bare_cast, same]

/-- The chain of the left operand goes on with the operator, so the right
operand is its next link. -/
theorem readable_binary {operator : BinaryOperator} {left right : Node}
    {position : Position} (leftReadable : Readable scopes left)
    (rightReadable : Readable scopes right) :
    Readable scopes (.binary operator left right position) where
  primary := fun impossible => absurd impossible (Nat.succ_ne_zero _)
  component := fun impossible => absurd impossible (by rw [looseness]; omega)
  extend := by
    intro level fits rest ends
    rw [looseness] at fits
    rw [Node.tokens] at ends ⊢
    have below : operator.level.height ≤ level.height := by omega
    rw [List.append_cons] at ends
    have second := rightReadable.right (ends.mono below).suffix
    refine Extends.looser (Extends.link ?_ second) level below ends.quiet
    exact leftReadable.left (ends_operator operator)

/-- Every expression that can be written is read wherever it stands. -/
theorem readable_of_expression {id : ScopeId}
    (current : scopes.current = .ok id)
    (expression : node.IsWrittenExpression) : Readable scopes node := by
  induction expression with
  | literal written => exact readable_literal written
  | reference isName => exact readable_reference current isName
  | call isName _ arguments => exact readable_call current isName arguments
  | binary _ _ left right => exact readable_binary left right
  | cast hasWord _ operand => exact readable_cast hasWord operand

end Grammar

end Minilang
