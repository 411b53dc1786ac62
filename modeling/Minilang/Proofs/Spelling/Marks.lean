import Minilang.Proofs.Spelling.Tokens
import Minilang.Proofs.Tree

/-!
# Marks of a tree

Each node of a tree but the lists of statements has a token of its own, its
mark, at which the place of the node points. The nodes are listed in the order
in which their marks are written, and the tree is spelled by its tokens without
the parentheses. The equations `spelling_` and `marks_` give both for each kind
of node.
-/

namespace Minilang

namespace Token

def isParenthesis : Token → Bool
  | symbol text => text == "(" || text == ")"
  | _ => false

def withoutParentheses (tokens : List Token) : List Token :=
  tokens.filter (!·.isParenthesis)

variable {first second tokens : List Token}

theorem withoutParentheses_append :
    withoutParentheses (first ++ second) =
      withoutParentheses first ++ withoutParentheses second :=
  List.filter_append ..

theorem withoutParentheses_cons {token : Token}
    (plain : token.isParenthesis = false) :
    withoutParentheses (token :: tokens) =
      token :: withoutParentheses tokens := by
  simp [withoutParentheses, plain]

theorem withoutParentheses_enclosed :
    withoutParentheses (enclosed tokens) = withoutParentheses tokens := by
  have opening : (symbol "(").isParenthesis = true := rfl
  have closing : (symbol ")").isParenthesis = true := rfl
  simp [enclosed, withoutParentheses, opening, closing]

theorem withoutParentheses_braced :
    withoutParentheses (braced tokens) =
      .symbol "\x7b" :: (withoutParentheses tokens ++ [.symbol "\x7d"]) := by
  rw [braced, withoutParentheses_cons rfl, withoutParentheses_append]
  rfl

theorem isParenthesis_operator (operator : BinaryOperator) :
    (symbol operator.symbol).isParenthesis = false := by
  cases operator <;> rfl

theorem isParenthesis_literal (value : Literal) :
    value.token.isParenthesis = false := by
  cases value <;> rfl

end Token

namespace Node

open Token

/-- The tokens of the tree without the parentheses. -/
def spelling (node : Node) : List Token :=
  withoutParentheses node.tokens

def spellings (nodes : List Node) : List Token :=
  nodes.flatMap spelling

/-- The same with a comma before each of them. -/
def spellingsAfterCommas (nodes : List Node) : List Token :=
  nodes.flatMap fun node => .symbol "," :: node.spelling

def spellingInBraces (node : Node) : List Token :=
  .symbol "\x7b" :: (node.spelling ++ [.symbol "\x7d"])

theorem withoutParentheses_within {bound : Nat} {node : Node} :
    withoutParentheses (node.within bound node.tokens) = node.spelling := by
  rw [within]
  split
  · rfl
  · exact withoutParentheses_enclosed

theorem withoutParentheses_separated (first : Node) (others : List Node) :
    withoutParentheses (separated (tokensAll (first :: others))) =
      first.spelling ++ spellingsAfterCommas others := by
  rw [tokensAll_eq_map, List.map_cons, separated, withoutParentheses_append,
    List.flatMap_map]
  congr 1
  induction others with
  | nil => rfl
  | cons next others inductionHypothesis =>
      have comma : (symbol ",").isParenthesis = false := rfl
      rw [List.flatMap_cons, withoutParentheses_append,
        withoutParentheses_cons comma, inductionHypothesis]
      rfl

section Spelling

variable {name : String} {scope : ScopeId} {type : DataType}
  {position : Position}
  {first left right operand predicate thenBranch elseBranch body target
    value : Node}
  {items others : List Node}

@[simp]
theorem spelling_literal {literal : Literal} :
    (Node.literal literal position).spelling = [literal.token] :=
  withoutParentheses_cons (isParenthesis_literal literal)

@[simp]
theorem spelling_reference :
    (reference name scope position).spelling = [.word name] :=
  rfl

@[simp]
theorem spelling_emptyCall :
    (call name [] scope position).spelling = [.word name] :=
  rfl

@[simp]
theorem spelling_call :
    (call name (first :: others) scope position).spelling =
      .word name :: (first.spelling ++ spellingsAfterCommas others) := by
  rw [spelling, tokens, withoutParentheses_cons rfl,
    withoutParentheses_enclosed, withoutParentheses_separated]

@[simp]
theorem spelling_binary {operator : BinaryOperator} :
    (binary operator left right position).spelling =
      left.spelling ++ .symbol operator.symbol :: right.spelling := by
  rw [spelling, tokens, withoutParentheses_append,
    withoutParentheses_cons (isParenthesis_operator operator),
    withoutParentheses_within, withoutParentheses_within]

@[simp]
theorem spelling_cast :
    (cast type operand position).spelling =
      .symbol "<" :: .word type.word :: .symbol ">" :: operand.spelling := by
  rw [spelling, tokens, withoutParentheses_append, withoutParentheses_within]
  rfl

@[simp]
theorem spelling_statements :
    (statements items position).spelling = spellings items := by
  rw [spelling, tokens, tokensAll_eq_map, withoutParentheses,
    List.filter_flatten, List.map_map]
  rfl

@[simp]
theorem spelling_conditional :
    (conditional predicate thenBranch none position).spelling =
      .word "if" :: (predicate.spelling ++ thenBranch.spellingInBraces) := by
  rw [spelling, tokens, tokensOption, withoutParentheses_cons rfl,
    withoutParentheses_append, withoutParentheses_append,
    withoutParentheses_braced, Option.elim_none]
  exact congrArg _ (congrArg _ (List.append_nil _))

@[simp]
theorem spelling_alternative :
    (conditional predicate thenBranch (some elseBranch) position).spelling =
      .word "if" :: (predicate.spelling ++
        (thenBranch.spellingInBraces ++
          .word "else" :: elseBranch.spellingInBraces)) := by
  rw [spelling, tokens, tokensOption, withoutParentheses_cons rfl,
    withoutParentheses_append, withoutParentheses_append,
    withoutParentheses_braced, Option.elim_some, withoutParentheses_cons rfl,
    withoutParentheses_braced]
  rfl

@[simp]
theorem spelling_loop :
    (loop predicate body position).spelling =
      .word "while" :: (predicate.spelling ++ body.spellingInBraces) := by
  rw [spelling, tokens, withoutParentheses_cons rfl, withoutParentheses_append,
    withoutParentheses_braced]
  rfl

@[simp]
theorem spelling_print :
    (print value position).spelling = .word "print" :: value.spelling :=
  withoutParentheses_cons rfl

@[simp]
theorem spelling_uninitialized :
    (declaration type name none position).spelling =
      [.word type.word, .word name] :=
  rfl

@[simp]
theorem spelling_initialized :
    (declaration type name (some value) position).spelling =
      .word type.word :: .word name :: .symbol "=" :: value.spelling := by
  rw [spelling, tokens, tokensOption, Option.elim_some,
    withoutParentheses_cons rfl, withoutParentheses_cons rfl,
    withoutParentheses_cons rfl]
  rfl

@[simp]
theorem spelling_function :
    (function type name others body position).spelling =
      .word type.word :: .word name ::
        (withoutParentheses (separated (tokensAll others)) ++
          body.spellingInBraces) := by
  rw [spelling, tokens, withoutParentheses_cons rfl,
    withoutParentheses_cons rfl, withoutParentheses_append,
    withoutParentheses_enclosed, withoutParentheses_braced]
  rfl

@[simp]
theorem spelling_assignment :
    (assignment target value position).spelling =
      .word "set" :: (target.spelling ++ .symbol "=" :: value.spelling) := by
  rw [spelling, tokens, withoutParentheses_cons rfl, withoutParentheses_append,
    withoutParentheses_cons rfl]
  rfl

end Spelling

/-! ## The order of the source -/

/-- The token at which the place of the node points. Lists of statements have
none. -/
def mark? : Node → Option Token
  | literal value _ => some value.token
  | reference name _ _ | call name _ _ _ => some (.word name)
  | binary operator _ _ _ => some (.symbol operator.symbol)
  | cast _ _ _ => some (.symbol "<")
  | statements _ _ => none
  | conditional _ _ _ _ => some (.word "if")
  | loop _ _ _ => some (.word "while")
  | print _ _ => some (.word "print")
  | declaration type _ _ _ | function type _ _ _ _ => some (.word type.word)
  | assignment _ _ _ => some (.word "set")

/-- The node among the lists that its children give: a binary node between its
operands, any other before all of them, and a list of statements not at all. -/
def arrange : Node → List (List Node) → List Node
  | statements _ _, parts => parts.flatten
  | binary operator left right position, [before, behind] =>
      before ++ binary operator left right position :: behind
  | node, parts => node :: parts.flatten

/-- The nodes of the tree that are no lists of statements, in the order of the
source. -/
def inOrder (node : Node) : List Node :=
  node.arrange (node.children.attach.map fun child => child.1.inOrder)
termination_by node
decreasing_by
  exact sizeOf_lt_of_mem_children child.2

theorem inOrder_eq (node : Node) :
    node.inOrder = node.arrange (node.children.map inOrder) := by
  rw [inOrder, List.map_subtype (fun _ _ => rfl), List.unattach_attach]

theorem mem_arrange_iff {part node : Node} {parts : List (List Node)} :
    part ∈ node.arrange parts ↔ part = node ∧ node.mark? ≠ none ∨
    part ∈ parts.flatten := by
  unfold arrange
  split
  · simp [mark?]
  · simp only [List.mem_append, List.mem_cons, mark?, List.flatten_cons,
      List.flatten_nil, List.append_nil]
    constructor
    · rintro (inLeft | rfl | inRight)
      · exact Or.inr (Or.inl inLeft)
      · exact Or.inl ⟨rfl, by simp⟩
      · exact Or.inr (Or.inr inRight)
    · rintro (⟨rfl, _⟩ | inLeft | inRight)
      · exact Or.inr (Or.inl rfl)
      · exact Or.inl inLeft
      · exact Or.inr (Or.inr inRight)
  · rename_i notList _
    have marked : node.mark? ≠ none := by
      cases node <;> first | exact absurd rfl (notList _ _) | simp [mark?]
    simp [marked]

/-- The constructs with a mark, and no others, are in the order of the
source. -/
theorem mem_inOrder_iff {part node : Node} :
    part ∈ node.inOrder ↔ part.PartOf node ∧ part.mark? ≠ none := by
  induction node using childrenInduction with
  | inside node inductionHypothesis =>
      rw [inOrder_eq, mem_arrange_iff]
      constructor
      · rintro (⟨rfl, marked⟩ | inParts)
        · exact ⟨.self, marked⟩
        · obtain ⟨nodes, among, member⟩ := List.mem_flatten.1 inParts
          obtain ⟨child, isChild, rfl⟩ := List.mem_map.1 among
          obtain ⟨within, marked⟩ :=
            (inductionHypothesis child isChild).1 member
          exact ⟨.inside isChild within, marked⟩
      · rintro ⟨within, marked⟩
        cases within with
        | self => exact Or.inl ⟨rfl, marked⟩
        | inside isChild within =>
            have member := (inductionHypothesis _ isChild).2 ⟨within, marked⟩
            exact Or.inr (List.mem_flatten.2
              ⟨_, List.mem_map_of_mem isChild, member⟩)

def placedMark? (node : Node) : Option Placed :=
  node.mark?.map (⟨·, node.position⟩)

/-- The marks of the tree with their places, in the order of the source. -/
def marks (node : Node) : List Placed :=
  node.inOrder.filterMap placedMark?

/-- The token of a node has the place of the node. -/
theorem positions_of_marks {nodes : List Node}
    (marked : ∀ node ∈ nodes, node.mark? ≠ none) :
    (nodes.filterMap placedMark?).map (·.position) = nodes.map position := by
  induction nodes with
  | nil => rfl
  | cons node others inductionHypothesis =>
      obtain ⟨ofNode, ofOthers⟩ := List.forall_mem_cons.1 marked
      obtain ⟨mark, found⟩ := Option.ne_none_iff_exists'.1 ofNode
      have placed : node.placedMark? = some ⟨mark, node.position⟩ := by
        rw [placedMark?, found]
        rfl
      rw [List.filterMap_cons_some placed, List.map_cons, List.map_cons,
        inductionHypothesis ofOthers]

def marksAll (nodes : List Node) : List Placed :=
  nodes.flatMap marks

theorem filterMap_inOrder (nodes : List Node) :
    (nodes.map inOrder).flatten.filterMap placedMark? = marksAll nodes := by
  rw [List.filterMap_flatten, List.map_map, marksAll, List.flatMap_def]
  rfl

/-- The mark of a node that stands before all of its children comes first. -/
theorem marks_of_first {node : Node} {mark : Placed}
    (own : node.placedMark? = some mark)
    (first : node.inOrder = node :: (node.children.map inOrder).flatten) :
    node.marks = mark :: marksAll node.children := by
  rw [marks, first, List.filterMap_cons_some own, filterMap_inOrder]

section Marks

variable {name : String} {scope : ScopeId} {type : DataType}
  {position : Position}
  {left right operand predicate thenBranch elseBranch body target value : Node}
  {items arguments parameters : List Node}

@[simp]
theorem marks_literal {literal : Literal} :
    (Node.literal literal position).marks = [⟨literal.token, position⟩] :=
  marks_of_first rfl (inOrder_eq _)

@[simp]
theorem marks_reference :
    (reference name scope position).marks = [⟨.word name, position⟩] :=
  marks_of_first rfl (inOrder_eq _)

@[simp]
theorem marks_call :
    (call name arguments scope position).marks =
      ⟨.word name, position⟩ :: marksAll arguments :=
  marks_of_first rfl (inOrder_eq _)

@[simp]
theorem marks_binary {operator : BinaryOperator} :
    (binary operator left right position).marks =
      left.marks ++ ⟨.symbol operator.symbol, position⟩ :: right.marks := by
  have order : (binary operator left right position).inOrder =
      left.inOrder ++ binary operator left right position :: right.inOrder :=
    inOrder_eq _
  rw [marks, order, List.filterMap_append]
  rfl

@[simp]
theorem marks_cast :
    (cast type operand position).marks = ⟨.symbol "<", position⟩ :: marksAll
    [operand] :=
  marks_of_first rfl (inOrder_eq _)

@[simp]
theorem marks_statements :
    (statements items position).marks = marksAll items := by
  have order : (statements items position).inOrder =
      (items.map inOrder).flatten := inOrder_eq _
  rw [marks, order, filterMap_inOrder]

@[simp]
theorem marks_conditional :
    (conditional predicate thenBranch none position).marks =
      ⟨.word "if", position⟩ :: marksAll [predicate, thenBranch] :=
  marks_of_first rfl (inOrder_eq _)

@[simp]
theorem marks_alternative :
    (conditional predicate thenBranch (some elseBranch) position).marks =
      ⟨.word "if", position⟩ :: marksAll [predicate, thenBranch, elseBranch] :=
  marks_of_first rfl (inOrder_eq _)

@[simp]
theorem marks_loop :
    (loop predicate body position).marks =
      ⟨.word "while", position⟩ :: marksAll [predicate, body] :=
  marks_of_first rfl (inOrder_eq _)

@[simp]
theorem marks_print :
    (print value position).marks = ⟨.word "print", position⟩ :: marksAll
    [value] :=
  marks_of_first rfl (inOrder_eq _)

@[simp]
theorem marks_uninitialized :
    (declaration type name none position).marks =
      [⟨.word type.word, position⟩] :=
  marks_of_first rfl (inOrder_eq _)

@[simp]
theorem marks_initialized :
    (declaration type name (some value) position).marks =
      ⟨.word type.word, position⟩ :: marksAll [value] :=
  marks_of_first rfl (inOrder_eq _)

@[simp]
theorem marks_function :
    (function type name parameters body position).marks =
      ⟨.word type.word, position⟩ :: marksAll (parameters ++ [body]) :=
  marks_of_first rfl (inOrder_eq _)

@[simp]
theorem marks_assignment :
    (assignment target value position).marks =
      ⟨.word "set", position⟩ :: marksAll [target, value] :=
  marks_of_first rfl (inOrder_eq _)

end Marks

end Node

end Minilang
