import Mathlib.Data.List.Chain
import Minilang.Proofs.Relocation
import Minilang.Proofs.Scoping.Declarations
import Minilang.Proofs.Writing.Token

/-!
# Writing a program

A tree is written as the text of its tokens. Operands stand in parentheses only
where the grammar would bind them otherwise. Not every tree can be written:
those that can are put together from the shapes of the grammar, and their names,
literals and types are ones that a source can hold.
-/

namespace Minilang

def DataType.word (type : DataType) : String :=
  match words.find? (·.2 = type) with
  | some (word, _) => word
  | none => ""

theorem DataType.HasWord.mem_words {type : DataType} (hasWord : type.HasWord) :
    (type.word, type) ∈ words := by
  have named : ∀ type ∈ words.map Prod.snd, (type.word, type) ∈ words := by
    decide +kernel
  exact named type hasWord

theorem DataType.HasWord.isWord {type : DataType} (hasWord : type.HasWord) :
    Lexeme.IsWord type.word := by
  have words : ∀ type ∈ words.map Prod.snd, Lexeme.IsWord type.word := by
    decide +kernel
  exact words type hasWord

def Lexeme.IsName (name : String) : Prop :=
  IsWord name ∧ isReserved name = false

def Literal.token : Literal → Token
  | integer digits | float digits => .number digits
  | string contents => .string contents

def Literal.IsWritten : Literal → Prop
  | integer digits => Token.AreDigits digits.toList
  | float digits => Token.IsFraction digits
  | string contents => '\r' ∉ contents.toList

namespace Token

def enclosed (tokens : List Token) : List Token :=
  .symbol "(" :: (tokens ++ [.symbol ")"])

def braced (tokens : List Token) : List Token :=
  .symbol "\x7b" :: (tokens ++ [.symbol "\x7d"])

def separated : List (List Token) → List Token
  | [] => []
  | first :: others => first ++ others.flatMap (.symbol "," :: ·)

def castTo (target : DataType) : List Token :=
  [.symbol "<", .word target.word, .symbol ">"]

def EndInWord (tokens : List Token) : Prop :=
  ∃ before word, tokens = before ++ [.word word]

end Token

namespace Node

open Token

/-- How loosely the construct holds together as an operand: a cast more loosely
than what is plain, and an operator the more loosely the looser its level is. -/
def looseness : Node → Nat
  | binary operator .. => operator.level.height + 2
  | cast .. => 1
  | _ => 0

/-- The tokens of the construct, in parentheses if it holds together more
loosely than the bound allows. -/
def within (bound : Nat) (node : Node) (tokens : List Token) : List Token :=
  if node.looseness ≤ bound then tokens else enclosed tokens

mutual

/-- The tokens of the tree. Left operands may be of the level of the operator,
right operands must be of a tighter one, and the operand of a cast must be
plain. -/
def tokens : Node → List Token
  | literal value _ => [value.token]
  | reference name _ _ => [.word name]
  | call name arguments _ _ =>
      .word name :: enclosed (separated (tokensAll arguments))
  | binary operator left right _ =>
      left.within (operator.level.height + 2) (tokens left) ++
        .symbol operator.symbol :: right.within (operator.level.height + 1)
          (tokens right)
  | cast target operand _ => castTo target ++ operand.within 0 (tokens operand)
  | statements items _ => (tokensAll items).flatten
  | conditional predicate thenBranch elseBranch _ =>
      .word "if" :: (tokens predicate ++ (braced (tokens thenBranch) ++
        (tokensOption elseBranch).elim [] fun branch =>
          .word "else" :: braced branch))
  | loop predicate body _ =>
      .word "while" :: (tokens predicate ++ braced (tokens body))
  | print value _ => .word "print" :: tokens value
  | declaration type name initializer _ =>
      .word type.word :: .word name :: (tokensOption initializer).elim []
        (.symbol "=" :: ·)
  | function returnType name parameters body _ =>
      .word returnType.word :: .word name ::
        (enclosed (separated (tokensAll parameters)) ++ braced (tokens body))
  | assignment target value _ =>
      .word "set" :: (tokens target ++ .symbol "=" :: tokens value)

def tokensAll : List Node → List (List Token)
  | [] => []
  | node :: nodes => tokens node :: tokensAll nodes

def tokensOption : Option Node → Option (List Token)
  | none => none
  | some node => some (tokens node)

end

@[simp]
theorem tokensAll_eq_map (nodes : List Node) :
    tokensAll nodes = nodes.map tokens := by
  induction nodes with
  | nil => rfl
  | cons node nodes inductionHypothesis =>
      rw [tokensAll, inductionHypothesis, List.map_cons]

/-- The program as it is written: its tokens with single spaces between them. -/
def text (node : Node) : String :=
  String.ofList (line node.tokens)

/-! ## The trees that can be written -/

inductive IsWrittenExpression : Node → Prop where
  | literal {value : Literal} {position : Position} :
      value.IsWritten → IsWrittenExpression (.literal value position)
  | reference {name : String} {scope : ScopeId} {position : Position} :
      Lexeme.IsName name → IsWrittenExpression (.reference name scope position)
  | call {name : String} {arguments : List Node} {scope : ScopeId}
      {position : Position} :
      Lexeme.IsName name →
      (∀ argument ∈ arguments, IsWrittenExpression argument) →
      IsWrittenExpression (.call name arguments scope position)
  | binary {operator : BinaryOperator} {left right : Node}
      {position : Position} :
      IsWrittenExpression left →
      IsWrittenExpression right →
      IsWrittenExpression (.binary operator left right position)
  | cast {target : DataType} {operand : Node} {position : Position} :
      target.HasWord →
      IsWrittenExpression operand →
      IsWrittenExpression (.cast target operand position)

inductive IsWrittenParameter : Node → Prop where
  | parameter {type : DataType} {name : String} {position : Position} :
      type.HasWord → Lexeme.IsName name →
      IsWrittenParameter (.declaration type name none position)

/-- Whether the text of the statement ends with that of an expression. -/
def endsInExpression : Node → Bool
  | print .. | assignment .. => true
  | declaration _ _ initializer _ => initializer.isSome
  | node => node.isExpression

/-- One statement may follow another without being taken for a part of it: a
parenthesis does not stand behind a word, where it would begin arguments or
parameters, and a cast does not stand behind an expression, where it would begin
a comparison. -/
structure Apart (first next : Node) : Prop where
  parenthesis : EndInWord first.tokens → next.tokens.head? ≠ some (.symbol "(")
  cast : first.endsInExpression = true → next.tokens.head? ≠ some (.symbol "<")

/-- The statements can stand in one block, behind the parameters if it is the
body of a function: no name is declared twice, and no statement runs into the
next. -/
structure IsWrittenBlock (parameters items : List Node) : Prop where
  distinct : ((parameters ++ items).filterMap declaredName?).Nodup
  apart : items.IsChain Apart

inductive IsWrittenStatement : Node → Prop where
  | expression {node : Node} :
      IsWrittenExpression node → IsWrittenStatement node
  | print {value : Node} {position : Position} :
      IsWrittenExpression value → IsWrittenStatement (.print value position)
  | assignment {name : String} {value : Node} {scope : ScopeId}
      {place position : Position} :
      Lexeme.IsName name →
      IsWrittenExpression value →
      IsWrittenStatement
        (.assignment (.reference name scope place) value position)
  | loop {predicate : Node} {items : List Node} {place position : Position} :
      IsWrittenExpression predicate →
      IsWrittenBlock [] items →
      (∀ item ∈ items, IsWrittenStatement item) →
      IsWrittenStatement (.loop predicate (.statements items place) position)
  | conditional {predicate : Node} {items : List Node}
      {place position : Position} :
      IsWrittenExpression predicate →
      IsWrittenBlock [] items →
      (∀ item ∈ items, IsWrittenStatement item) →
      IsWrittenStatement
        (.conditional predicate (.statements items place) none position)
  | alternative {predicate : Node} {items others : List Node}
      {place otherPlace position : Position} :
      IsWrittenExpression predicate →
      IsWrittenBlock [] items →
      (∀ item ∈ items, IsWrittenStatement item) →
      IsWrittenBlock [] others →
      (∀ item ∈ others, IsWrittenStatement item) →
      IsWrittenStatement (.conditional predicate (.statements items place)
        (some (.statements others otherPlace)) position)
  | uninitialized {type : DataType} {name : String} {position : Position} :
      type.HasWord → Lexeme.IsName name →
      IsWrittenStatement (.declaration type name none position)
  | initialized {type : DataType} {name : String} {value : Node}
      {position : Position} :
      type.HasWord → Lexeme.IsName name →
      IsWrittenExpression value →
      IsWrittenStatement (.declaration type name (some value) position)
  | function {type : DataType} {name : String} {parameters items : List Node}
      {place position : Position} :
      type.HasWord → Lexeme.IsName name →
      (∀ parameter ∈ parameters, IsWrittenParameter parameter) →
      IsWrittenBlock parameters items →
      (∀ item ∈ items, IsWrittenStatement item) →
      IsWrittenStatement
        (.function type name parameters (.statements items place) position)

/-- The tree is a program of the grammar. -/
inductive IsWrittenProgram : Node → Prop where
  | program {items : List Node} {position : Position} :
      IsWrittenBlock [] items →
      (∀ item ∈ items, IsWrittenStatement item) →
      IsWrittenProgram (.statements items position)

end Node

/-! ## What is written is made of tokens that can be written -/

namespace Token

variable {tokens : List Token}

theorem isWritten_symbol {text : String} (isSymbol : text ∈ symbols) :
    (Token.symbol text).IsWritten :=
  isSymbol

theorem isWritten_keyword {text : String} (isWord : Lexeme.IsWord text) :
    (Token.word text).IsWritten :=
  isWord

theorem enclosed_written (written : ∀ token ∈ tokens, token.IsWritten) :
    ∀ token ∈ enclosed tokens, token.IsWritten := by
  rw [enclosed, List.forall_mem_cons, List.forall_mem_append,
    List.forall_mem_singleton]
  exact ⟨isWritten_symbol (by decide), written, isWritten_symbol (by decide)⟩

theorem braced_written (written : ∀ token ∈ tokens, token.IsWritten) :
    ∀ token ∈ braced tokens, token.IsWritten := by
  rw [braced, List.forall_mem_cons, List.forall_mem_append,
    List.forall_mem_singleton]
  exact ⟨isWritten_symbol (by decide), written, isWritten_symbol (by decide)⟩

theorem separated_written {stretches : List (List Token)}
    (written : ∀ stretch ∈ stretches, ∀ token ∈ stretch, token.IsWritten) :
    ∀ token ∈ separated stretches, token.IsWritten := by
  cases stretches with
  | nil => exact List.forall_mem_nil _
  | cons first others =>
      rw [List.forall_mem_cons] at written
      rw [separated, List.forall_mem_append]
      refine ⟨written.1, fun token member => ?_⟩
      obtain ⟨stretch, among, member⟩ := List.mem_flatMap.1 member
      rcases List.mem_cons.1 member with rfl | member
      · exact isWritten_symbol (by decide)
      · exact written.2 stretch among token member

theorem castTo_written {target : DataType} (hasWord : target.HasWord) :
    ∀ token ∈ castTo target, token.IsWritten := by
  rw [castTo, List.forall_mem_cons, List.forall_mem_cons,
    List.forall_mem_singleton]
  exact ⟨isWritten_symbol (by decide), hasWord.isWord,
    isWritten_symbol (by decide)⟩

end Token

namespace Node

open Token

theorem within_written {bound : Nat} {node : Node}
    (written : ∀ token ∈ node.tokens, token.IsWritten) :
    ∀ token ∈ node.within bound node.tokens, token.IsWritten := by
  rw [within]
  split
  · exact written
  · exact enclosed_written written

theorem IsWrittenExpression.tokens {node : Node}
    (expression : node.IsWrittenExpression) :
    ∀ token ∈ node.tokens, token.IsWritten := by
  induction expression with
  | @literal value position written =>
      rw [Node.tokens, List.forall_mem_singleton]
      cases value with
      | integer digits => exact Or.inl written
      | float digits => exact Or.inr written
      | string contents => exact written
  | reference isName =>
      rw [Node.tokens, List.forall_mem_singleton]
      exact isName.1
  | call isName _ arguments =>
      rw [Node.tokens, List.forall_mem_cons]
      refine ⟨isName.1, enclosed_written (separated_written ?_)⟩
      rw [tokensAll_eq_map, List.forall_mem_map]
      exact arguments
  | @binary operator _ _ _ _ _ left right =>
      have isSymbol := symbol_mem_symbols operator
      rw [Node.tokens, List.forall_mem_append, List.forall_mem_cons]
      exact ⟨within_written left, isWritten_symbol isSymbol,
        within_written right⟩
  | cast hasWord _ operand =>
      rw [Node.tokens, List.forall_mem_append]
      exact ⟨castTo_written hasWord, within_written operand⟩

theorem IsWrittenParameter.tokens {node : Node}
    (parameter : node.IsWrittenParameter) :
    ∀ token ∈ node.tokens, token.IsWritten := by
  cases parameter with
  | parameter hasWord isName =>
      rw [Node.tokens, tokensOption, Option.elim_none, List.forall_mem_cons,
        List.forall_mem_cons]
      exact ⟨hasWord.isWord, isName.1, List.forall_mem_nil _⟩

theorem statements_written {items : List Node} {position : Position}
    (written : ∀ item ∈ items, ∀ token ∈ item.tokens, token.IsWritten) :
    ∀ token ∈ (Node.statements items position).tokens, token.IsWritten := by
  intro token member
  rw [Node.tokens, tokensAll_eq_map] at member
  obtain ⟨stretch, among, member⟩ := List.mem_flatten.1 member
  obtain ⟨item, itemMember, rfl⟩ := List.mem_map.1 among
  exact written item itemMember token member

theorem IsWrittenStatement.tokens {node : Node}
    (statement : node.IsWrittenStatement) :
    ∀ token ∈ node.tokens, token.IsWritten := by
  induction statement with
  | expression expression => exact expression.tokens
  | print value =>
      rw [Node.tokens, List.forall_mem_cons]
      exact ⟨isWritten_keyword (by decide +kernel), value.tokens⟩
  | assignment isName value =>
      rw [Node.tokens, Node.tokens, List.forall_mem_cons,
        List.forall_mem_append, List.forall_mem_singleton, List.forall_mem_cons]
      exact ⟨isWritten_keyword (by decide +kernel), isName.1,
        isWritten_symbol (by decide), value.tokens⟩
  | loop predicate _ _ items =>
      rw [Node.tokens, List.forall_mem_cons, List.forall_mem_append]
      exact ⟨isWritten_keyword (by decide +kernel), predicate.tokens,
        braced_written (statements_written items)⟩
  | conditional predicate _ _ items =>
      rw [Node.tokens, List.forall_mem_cons, List.forall_mem_append,
        List.forall_mem_append]
      exact ⟨isWritten_keyword (by decide +kernel), predicate.tokens,
        braced_written (statements_written items), List.forall_mem_nil _⟩
  | alternative predicate _ _ _ _ items others =>
      rw [Node.tokens, tokensOption, Option.elim_some, List.forall_mem_cons,
        List.forall_mem_append, List.forall_mem_append, List.forall_mem_cons]
      exact ⟨isWritten_keyword (by decide +kernel), predicate.tokens,
        braced_written (statements_written items),
        isWritten_keyword (by decide +kernel),
        braced_written (statements_written others)⟩
  | uninitialized hasWord isName =>
      exact (IsWrittenParameter.parameter hasWord isName).tokens
  | initialized hasWord isName value =>
      rw [Node.tokens, tokensOption, Option.elim_some, List.forall_mem_cons,
        List.forall_mem_cons, List.forall_mem_cons]
      exact ⟨hasWord.isWord, isName.1, isWritten_symbol (by decide),
        value.tokens⟩
  | function hasWord isName parameters _ _ items =>
      rw [Node.tokens, List.forall_mem_cons, List.forall_mem_cons,
        List.forall_mem_append]
      refine ⟨hasWord.isWord, isName.1, enclosed_written (separated_written ?_),
        braced_written (statements_written items)⟩
      rw [tokensAll_eq_map, List.forall_mem_map]
      exact fun parameter member => (parameters parameter member).tokens

/-- So the tokens of a program can be told apart in its text. -/
theorem IsWrittenProgram.tokens {node : Node}
    (program : node.IsWrittenProgram) :
    ∀ token ∈ node.tokens, token.IsWritten := by
  cases program with
  | program _ items =>
      exact statements_written fun item member => (items item member).tokens

end Node

end Minilang
