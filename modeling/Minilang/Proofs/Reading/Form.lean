import Mathlib.Data.List.Forall2
import Minilang.Proofs.Reading.Statement
import Minilang.Proofs.Tree
import Minilang.Proofs.Writing.Token

/-!
# The form of what is read

The grammar puts constructs together in few ways: an operand is an expression, a
branch is a list of statements, a parameter is a declaration without a value.
`IsFormed` says for each kind of construct what may stand in its places, and
which names, numbers and types it may have. The main statement,
`formed_of_parse`, says that this holds throughout each program that is read.
-/

namespace Minilang

/-- The text may stand for a variable or a function: a letter, then letters,
digits and underscores, and no word that is reserved. -/
def Lexeme.IsIdentifier (name : String) : Prop :=
  (∃ letter rest, name.toList = letter :: rest ∧ letter.isAlpha = true ∧
    ∀ c ∈ rest, c.isAlpha = true ∨ c.isDigit = true ∨ c = '_') ∧
      isReserved name = false

/-- A number has digits only, or a point between digits if it has a fraction. -/
def Literal.IsFormed : Literal → Prop
  | integer digits => Token.AreDigits digits.toList
  | float digits => Token.IsFraction digits
  | string _ => True

/-- The type is one that a program can ask for. -/
def DataType.IsWritten (type : DataType) : Prop :=
  type ∈ [integer, float, string, boolean, callable]

theorem DataType.hasWord_iff_isWritten {type : DataType} :
    type.HasWord ↔ type.IsWritten :=
  Iff.rfl

theorem DataType.isWritten_float : float.IsWritten :=
  hasWord_iff_isWritten.1 (by decide)

section Lexemes

variable {cursor behind : Cursor}

theorem Lexeme.isIdentifier_of_identifier? {name : String}
    (found : cursor.identifier? = some (name, behind)) : IsIdentifier name := by
  obtain ⟨ahead, notReserved, _⟩ := Cursor.identifier?_eq_some.1 found
  exact ⟨hasWordForm_iff.2 (isWord_of_word? ahead), notReserved⟩

theorem Literal.isFormed_of_number {literal : Literal}
    (found : Scan.number.run cursor = .ok (some literal) behind) :
    literal.IsFormed := by
  rw [Cursor.run_number] at found
  cases numeral : Lexeme.numeral? cursor.rest with
  | none =>
      rw [numeral] at found
      cases found
  | some digits =>
      simp only [numeral] at found
      split at found
      · cases found
      · rename_i noPointBehind
        cases found
        rcases Lexeme.parts_of_numeral? numeral with ⟨nonempty, all⟩ |
          ⟨whole, part, split, wholeDigits, partDigits⟩
        · have noPoint : '.' ∉ digits.toList :=
            fun member => absurd (all '.' member) (by decide)
          rw [if_neg noPoint]
          exact ⟨nonempty, all⟩
        · have point : '.' ∈ digits.toList := by simp [split]
          rw [if_pos point]
          refine ⟨whole, part, split, wholeDigits, ?_, partDigits⟩
          -- The scan rejects a numeral that ends with its point.
          rintro rfl
          exact noPointBehind (by rw [split, List.getLast?_concat])

theorem DataType.isWritten_of_type? {type : DataType}
    (found : cursor.type? = some (type, behind)) : type.IsWritten := by
  obtain ⟨entry, member, rfl, _⟩ := Cursor.type?_eq_some.1 found
  exact hasWord_iff_isWritten.1 (List.mem_map_of_mem member)

end Lexemes

namespace Node

def isList : Node → Bool
  | statements .. => true
  | _ => false

/-- Whether the construct is a statement of another kind than an expression or a
list. -/
def isStatement : Node → Bool
  | conditional .. | loop .. | print .. | declaration .. | function ..
  | assignment .. => true
  | _ => false

def isReference : Node → Bool
  | reference .. => true
  | _ => false

/-- The construct may stand in a list: it is an expression or another statement,
and no list. -/
def IsItem (node : Node) : Prop :=
  (node.isExpression = true ∨ node.isStatement = true) ∧ node.isList = false

/-- The construct declares the name with the type and gives it no value. -/
def IsParameter (node : Node) (entry : String × DataType) : Prop :=
  ∃ position, node = .declaration entry.2 entry.1 none position

/-- In each of its places the construct has what the grammar puts there, and its
name, its number and its type are ones that a source can hold. The signature of
a function has one entry for each parameter, in the same order. -/
def IsFormed : Node → Prop
  | .literal value _ => value.IsFormed
  | .reference name _ _ => Lexeme.IsIdentifier name
  | .call name arguments _ _ =>
      Lexeme.IsIdentifier name ∧ ∀ argument ∈ arguments,
        argument.isExpression = true
  | .binary _ left right _ =>
      left.isExpression = true ∧ right.isExpression = true
  | .cast target operand _ => target.IsWritten ∧ operand.isExpression = true
  | .statements items _ => ∀ item ∈ items, item.IsItem
  | .conditional predicate thenBranch elseBranch _ =>
      predicate.isExpression = true ∧ thenBranch.isList = true ∧
        ∀ branch ∈ elseBranch, branch.isList = true
  | .loop predicate body _ => predicate.isExpression = true ∧ body.isList = true
  | .print value _ => value.isExpression = true
  | .declaration type name initializer _ =>
      type.IsWritten ∧ Lexeme.IsIdentifier name ∧ ∀ value ∈ initializer,
        value.isExpression = true
  | .function returnType name parameters body _ =>
      returnType.IsWritten ∧ Lexeme.IsIdentifier name ∧
        List.Forall₂ IsParameter parameters
          (signature returnType parameters).parameters ∧
        body.isList = true
  | .assignment target value _ =>
      target.isReference = true ∧ value.isExpression = true

def IsFormedExpression (node : Node) : Prop :=
  node.isExpression = true ∧ node.Throughout IsFormed

def IsFormedList (node : Node) : Prop :=
  node.isList = true ∧ node.Throughout IsFormed

def IsFormedItem (node : Node) : Prop :=
  node.IsItem ∧ node.Throughout IsFormed

/-- Inside an expression there are expressions only. -/
theorem IsFormedExpression.throughout_isExpression {node : Node}
    (formed : node.IsFormedExpression) :
    node.Throughout fun part => part.isExpression = true := by
  obtain ⟨expression, formed⟩ := formed
  induction node using childrenInduction with
  | inside node inductionHypothesis =>
      have below : ∀ child ∈ node.children, child.isExpression = true := by
        have own := formed.self
        cases node with
        | literal | reference => exact List.forall_mem_nil _
        | call => exact own.2
        | binary =>
            exact List.forall_mem_cons.2
              ⟨own.1, List.forall_mem_singleton.2 own.2⟩
        | cast => exact List.forall_mem_singleton.2 own.2
        | _ => cases expression
      refine throughout_iff.2 ⟨expression, fun child member => ?_⟩
      exact inductionHypothesis child member (below child member)
        (formed.child member)

theorem isItem_of_isExpression {node : Node}
    (expression : node.isExpression = true) :
    node.IsItem := by
  refine ⟨Or.inl expression, ?_⟩
  cases node with
  | statements => cases expression
  | _ => rfl

/-- The signature has an entry for each parameter as soon as all of them are
plain declarations. -/
theorem forall₂_isParameter_iff {returnType : DataType}
    {parameters : List Node} :
    List.Forall₂ IsParameter parameters
      (signature returnType parameters).parameters ↔
      ∀ parameter ∈ parameters, ∃ entry, parameter.IsParameter entry := by
  induction parameters with
  | nil => exact ⟨fun _ => List.forall_mem_nil _, fun _ => .nil⟩
  | cons parameter others inductionHypothesis =>
      rw [List.forall_mem_cons, ← inductionHypothesis]
      constructor
      · intro each
        obtain ⟨entry, _, first, rest, same⟩ :=
          List.forall₂_cons_left_iff.1 each
        obtain ⟨position, rfl⟩ := first
        cases same
        exact ⟨⟨entry, position, rfl⟩, rest⟩
      · rintro ⟨⟨entry, position, rfl⟩, rest⟩
        exact .cons ⟨position, rfl⟩ rest

section Parts

variable {left right operand : Node} {position : Position}

theorem isFormedExpression_literal {value : Literal} (formed : value.IsFormed) :
    (literal value position).IsFormedExpression :=
  ⟨rfl, throughout_iff.2 ⟨formed, List.forall_mem_nil _⟩⟩

theorem isFormedExpression_reference {name : String} {scope : ScopeId}
    (identifier : Lexeme.IsIdentifier name) :
    (reference name scope position).IsFormedExpression :=
  ⟨rfl, throughout_iff.2 ⟨identifier, List.forall_mem_nil _⟩⟩

theorem isFormedExpression_call {name : String} {arguments : List Node}
    {scope : ScopeId} (identifier : Lexeme.IsIdentifier name)
    (formed : ∀ argument ∈ arguments, argument.IsFormedExpression) :
    (call name arguments scope position).IsFormedExpression :=
  ⟨rfl, throughout_iff.2
    ⟨⟨identifier, fun argument member => (formed argument member).1⟩,
      fun argument member => (formed argument member).2⟩⟩

theorem isFormedExpression_binary {operator : BinaryOperator}
    (leftFormed : left.IsFormedExpression)
    (rightFormed : right.IsFormedExpression) :
    (binary operator left right position).IsFormedExpression := by
  refine ⟨rfl, throughout_iff.2 ⟨⟨leftFormed.1, rightFormed.1⟩, ?_⟩⟩
  exact List.forall_mem_cons.2 ⟨leftFormed.2,
    List.forall_mem_singleton.2 rightFormed.2⟩

theorem isFormedExpression_cast {target : DataType}
    (isWritten : target.IsWritten)
    (formed : operand.IsFormedExpression) :
    (cast target operand position).IsFormedExpression :=
  ⟨rfl, throughout_iff.2 ⟨⟨isWritten, formed.1⟩,
    List.forall_mem_singleton.2 formed.2⟩⟩

theorem isFormedList_statements {items : List Node}
    (formed : ∀ item ∈ items, item.IsFormedItem) :
    (statements items position).IsFormedList :=
  ⟨rfl, throughout_iff.2 ⟨fun item member => (formed item member).1,
    fun item member => (formed item member).2⟩⟩

end Parts

end Node

namespace Grammar

variable {start stop : Parser}

def Phrase.IsFormed : Phrase → Prop
  | .chain _ node | .component node | .primary node => node.IsFormedExpression
  | .links _ left node => left.IsFormedExpression → node.IsFormedExpression
  | .moreArguments nodes => ∀ node ∈ nodes, node.IsFormedExpression

theorem Phrase.isFormed_operand {level : Level} {node : Node} :
    (Phrase.operand level node).IsFormed ↔ node.IsFormedExpression := by
  rw [Phrase.operand]
  cases level.next <;> rfl

/-- By induction on the rules of the grammar, each of which builds one
construct. -/
theorem formed_of_reads {phrase : Phrase} (reads : Reads phrase start stop) :
    phrase.IsFormed := by
  induction reads with
  | chain _ _ first links => exact links (Phrase.isFormed_operand.1 first)
  | noLink => exact id
  | link _ _ _ right links =>
      intro left
      exact links (Node.isFormedExpression_binary
        left (Phrase.isFormed_operand.1 right))
  | plain _ primary => exact primary
  | cast _ found _ _ operand =>
      exact Node.isFormedExpression_cast
        (DataType.isWritten_of_type? found) operand
  | number found =>
      exact Node.isFormedExpression_literal (Literal.isFormed_of_number found)
  | string => exact Node.isFormedExpression_literal trivial
  | reference named =>
      exact Node.isFormedExpression_reference
        (Lexeme.isIdentifier_of_identifier? named)
  | emptyCall named =>
      have identifier := Lexeme.isIdentifier_of_identifier? named
      exact Node.isFormedExpression_call identifier (List.forall_mem_nil _)
  | call named _ _ _ _ first others =>
      have identifier := Lexeme.isIdentifier_of_identifier? named
      exact Node.isFormedExpression_call identifier
        (List.forall_mem_cons.2 ⟨first, others⟩)
  | parenthesized _ _ _ inner => exact inner
  | lastArgument => exact List.forall_mem_nil _
  | nextArgument _ _ _ next others =>
      exact List.forall_mem_cons.2 ⟨next, others⟩

theorem formed_of_readsExpression {level : Level} {node : Node}
    (reads : Reads (.chain level node) start stop) : node.IsFormedExpression :=
  formed_of_reads reads

def IsFormedParameter (node : Node) : Prop :=
  (∃ entry, node.IsParameter entry) ∧ node.Throughout Node.IsFormed

theorem formed_of_readsParameter {node : Node}
    (reads : ReadsParameter node start stop) :
    IsFormedParameter node := by
  cases reads with
  | @parameter type name _ _ _ _ found named =>
      refine ⟨⟨(name, type), _, rfl⟩,
        Node.throughout_iff.2 ⟨?_, List.forall_mem_nil _⟩⟩
      exact ⟨DataType.isWritten_of_type? found,
        Lexeme.isIdentifier_of_identifier? named, nofun⟩

theorem formed_of_readsMoreParameters {nodes : List Node}
    (reads : ReadsMoreParameters nodes start stop) :
    ∀ node ∈ nodes, IsFormedParameter node := by
  induction reads with
  | last => exact List.forall_mem_nil _
  | next _ next _ others =>
      exact List.forall_mem_cons.2 ⟨formed_of_readsParameter next, others⟩

theorem formed_of_readsParameters {nodes : List Node}
    (reads : ReadsParameters nodes start stop) :
    ∀ node ∈ nodes, IsFormedParameter node := by
  cases reads with
  | none => exact List.forall_mem_nil _
  | some first others =>
      exact List.forall_mem_cons.2
        ⟨formed_of_readsParameter first, formed_of_readsMoreParameters others⟩

def Clause.IsFormed : Clause → Prop
  | .statement node => node.IsFormedItem
  | .block node => node.IsFormedList
  | .statements items => ∀ item ∈ items, item.IsFormedItem

/-- By induction on the rules of the grammar, as for expressions. -/
theorem formed_of_readsClause {clause : Clause}
    (reads : ReadsClause clause start stop) :
    clause.IsFormed := by
  induction reads with
  | listEnd => exact List.forall_mem_nil _
  | statements _ _ first others => exact List.forall_mem_cons.2 ⟨first, others⟩
  | block _ _ _ _ _ items => exact Node.isFormedList_statements items
  | expression reads =>
      obtain ⟨expression, formed⟩ := formed_of_readsExpression reads
      exact ⟨Node.isItem_of_isExpression expression, formed⟩
  | print _ value =>
      obtain ⟨expression, formed⟩ := formed_of_readsExpression value
      refine ⟨⟨Or.inr rfl, rfl⟩, Node.throughout_iff.2 ⟨expression, ?_⟩⟩
      exact List.forall_mem_singleton.2 formed
  | assignment _ named _ _ value =>
      obtain ⟨expression, formed⟩ := formed_of_readsExpression value
      have identifier := Lexeme.isIdentifier_of_identifier? named
      refine ⟨⟨Or.inr rfl, rfl⟩, Node.throughout_iff.2 ⟨⟨rfl, expression⟩, ?_⟩⟩
      exact List.forall_mem_cons.2 ⟨(Node.isFormedExpression_reference
        identifier).2, List.forall_mem_singleton.2 formed⟩
  | loop _ predicate _ body =>
      obtain ⟨expression, formed⟩ := formed_of_readsExpression predicate
      refine ⟨⟨Or.inr rfl, rfl⟩,
        Node.throughout_iff.2 ⟨⟨expression, body.1⟩, ?_⟩⟩
      exact List.forall_mem_cons.2 ⟨formed, List.forall_mem_singleton.2 body.2⟩
  | conditional _ predicate _ _ thenBranch =>
      obtain ⟨expression, formed⟩ := formed_of_readsExpression predicate
      refine ⟨⟨Or.inr rfl, rfl⟩,
        Node.throughout_iff.2 ⟨⟨expression, thenBranch.1, nofun⟩, ?_⟩⟩
      exact List.forall_mem_cons.2
        ⟨formed, List.forall_mem_singleton.2 thenBranch.2⟩
  | alternative _ predicate _ _ _ thenBranch elseBranch =>
      obtain ⟨expression, formed⟩ := formed_of_readsExpression predicate
      refine ⟨⟨Or.inr rfl, rfl⟩,
        Node.throughout_iff.2 ⟨⟨expression, thenBranch.1, ?_⟩, ?_⟩⟩
      · rintro _ ⟨⟩
        exact elseBranch.1
      · exact List.forall_mem_cons.2 ⟨formed,
          List.forall_mem_cons.2 ⟨thenBranch.2,
          List.forall_mem_singleton.2 elseBranch.2⟩⟩
  | uninitialized found named =>
      have isWritten := DataType.isWritten_of_type? found
      have identifier := Lexeme.isIdentifier_of_identifier? named
      refine ⟨⟨Or.inr rfl, rfl⟩,
        Node.throughout_iff.2 ⟨⟨isWritten, identifier, nofun⟩, ?_⟩⟩
      exact List.forall_mem_nil _
  | initialized found named _ value =>
      obtain ⟨expression, formed⟩ := formed_of_readsExpression value
      have isWritten := DataType.isWritten_of_type? found
      have identifier := Lexeme.isIdentifier_of_identifier? named
      refine ⟨⟨Or.inr rfl, rfl⟩,
        Node.throughout_iff.2 ⟨⟨isWritten, identifier, ?_⟩, ?_⟩⟩
      · rintro _ ⟨⟩
        exact expression
      · exact List.forall_mem_singleton.2 formed
  | function found named _ _ parameters _ _ _ _ _ _ items =>
      have isWritten := DataType.isWritten_of_type? found
      have identifier := Lexeme.isIdentifier_of_identifier? named
      have each := formed_of_readsParameters parameters
      have plain := fun parameter member => (each parameter member).1
      refine ⟨⟨Or.inr rfl, rfl⟩, Node.throughout_iff.2 ⟨⟨isWritten, identifier,
        Node.forall₂_isParameter_iff.2 plain, rfl⟩, ?_⟩⟩
      exact List.forall_mem_append.2 ⟨fun parameter member => (each
        parameter member).2,
        List.forall_mem_singleton.2 (Node.isFormedList_statements items).2⟩

end Grammar

/-- The tree of a program that was read is a list of statements, and is formed
throughout. -/
theorem Program.formed_of_parse {source file : String} {program : Program}
    (success : parse source file = .ok program) :
    program.root.IsFormedList := by
  obtain ⟨items, stop, reads, _, rfl⟩ := Grammar.parse_ok.1 success
  exact Node.isFormedList_statements (Grammar.formed_of_readsClause reads)

end Minilang
