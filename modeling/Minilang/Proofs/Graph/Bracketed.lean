import Minilang.Lexeme
import Minilang.Node.Graph
import Minilang.Proofs.Tree

/-!
# Graphs as bracketed text

A graph is a text of nested brackets. Each bracket holds a head and, each behind
a space, items that are words, quoted texts or brackets themselves:
`toList_graph`. If the names in a tree are words and its numbers are written
with digits and points, no word in its graph holds a character that means
something to the brackets: `allClear_bracketed`.
-/

namespace Minilang

/-- A text of nested brackets. -/
inductive Bracketed where
  | word (text : String)
  | quoted (contents : String)
  | group (head : String) (items : List Bracketed)

namespace Bracketed

mutual

def text : Bracketed → List Char
  | word text => text.toList
  | quoted contents => (Text.quoted contents).toList
  | group head items => '[' :: (head.toList ++ texts items) ++ [']']

/-- The items one after the other, each behind a space. -/
def texts : List Bracketed → List Char
  | [] => []
  | item :: items => ' ' :: text item ++ texts items

end

def isMark (c : Char) : Bool :=
  c == ' ' || c == '\n' || c == '[' || c == ']' || c == '"'

/-- The text holds no blank, no bracket and no double quote. -/
def IsClear (text : String) : Prop :=
  text.toList.all (!isMark ·) = true

instance (text : String) : Decidable (IsClear text) :=
  inferInstanceAs (Decidable (_ = true))

theorem isClear_of_all {inside : Char → Bool} {text : String}
    (apart : ∀ c, isMark c = true → inside c = false)
    (all : text.toList.all inside = true) :
    IsClear text := by
  rw [IsClear, List.all_eq_true]
  intro c member
  have isInside := List.all_eq_true.1 all c member
  cases mark : isMark c with
  | false => rfl
  | true => exact absurd isInside (by simp [apart c mark])

theorem isClear_empty : IsClear "" :=
  rfl

theorem isWordChar_of_isMark {c : Char} (mark : isMark c = true) :
    Lexeme.isWordChar c = false := by
  simp only [isMark, Bool.or_eq_true, beq_iff_eq] at mark
  obtain (((rfl | rfl) | rfl) | rfl) | rfl := mark <;> decide

theorem isNumeralChar_of_isMark {c : Char} (mark : isMark c = true) :
    (c.isDigit || c == '.') = false := by
  simp only [isMark, Bool.or_eq_true, beq_iff_eq] at mark
  obtain (((rfl | rfl) | rfl) | rfl) | rfl := mark <;> decide

mutual

/-- All words and heads in the text are clear. -/
def AllClear : Bracketed → Prop
  | word text => IsClear text
  | quoted _ => True
  | group head items => IsClear head ∧ EachClear items

def EachClear : List Bracketed → Prop
  | [] => True
  | item :: items => AllClear item ∧ EachClear items

end

/-- The items in a bracket that is never quite empty: where there are none,
there is an empty word. -/
def filled : List Bracketed → List Bracketed
  | [] => [word ""]
  | items => items

theorem eachClear_filled {items : List Bracketed} (clear : EachClear items) :
    EachClear (filled items) := by
  cases items with
  | nil => exact ⟨isClear_empty, trivial⟩
  | cons item items => exact clear

end Bracketed

def Literal.bracketed : Literal → Bracketed
  | integer digits | float digits => .word digits
  | string contents => .quoted contents

namespace Node

open Bracketed

mutual

def bracketed : Node → Bracketed
  | literal value _ => group value.kind [value.bracketed]
  | reference name _ _ => group "Identifier" [word name]
  | call name arguments _ _ =>
      group "CALL" [word name, group "PARAMS" (filled (bracketedAll arguments))]
  | binary operator left right _ =>
      group operator.name [bracketed left, bracketed right]
  | cast target operand _ =>
      group ("CAST(" ++ target.name ++ ")") [bracketed operand]
  | statements items _ => group "STATEMENTS" (filled (bracketedAll items))
  | conditional predicate thenBranch elseBranch _ =>
      group "IF" [group "CONDITION" [bracketed predicate],
        group "THEN" [bracketed thenBranch],
        group "ELSE" [bracketedOption elseBranch]]
  | loop predicate body _ =>
      group "WHILE" [group "CONDITION" [bracketed predicate],
        group "DO" [bracketed body]]
  | print value _ => group "PRINT" [bracketed value]
  | declaration type name initializer _ =>
      group "VAR" [word type.name,
        group "=" [word name, bracketedOption initializer]]
  | function returnType name parameters body _ =>
      group "FUNCTION" [word name,
        group "PARAMS" (filled (bracketedAll parameters)),
        group "EXEC" [bracketed body], group "RET" [word returnType.name]]
  | assignment target value _ =>
      group "ASSIGN" [group "=" [bracketed target, bracketed value]]

def bracketedAll : List Node → List Bracketed
  | [] => []
  | node :: nodes => bracketed node :: bracketedAll nodes

def bracketedOption : Option Node → Bracketed
  | none => word "NULL"
  | some node => bracketed node

end

mutual

/-- The graph is the text of its brackets. -/
theorem toList_graph : (node : Node) → node.graph.toList = node.bracketed.text
  | literal value _ => by
      rw [graph.eq_def, bracketed]
      cases value <;> simp [Literal.bracketed, Literal.render, text, texts]
  | reference name _ _ => by
      rw [graph.eq_def, bracketed]
      simp [text, texts]
  | call name arguments _ _ => by
      have inside := toList_graphs arguments
      rw [graph.eq_def, bracketed]
      simp [text, texts, ← inside]
  | binary operator left right _ => by
      rw [graph.eq_def, bracketed]
      simp [text, texts, ← toList_graph left, ← toList_graph right]
  | cast target operand _ => by
      rw [graph.eq_def, bracketed]
      simp [text, texts, ← toList_graph operand]
  | statements items _ => by
      have inside := toList_graphs items
      rw [graph.eq_def, bracketed]
      simp [text, ← inside]
  | conditional predicate thenBranch elseBranch _ => by
      rw [graph.eq_def, bracketed]
      simp [text, texts, ← toList_graph predicate, ← toList_graph thenBranch,
        ← toList_graphOption elseBranch]
  | loop predicate body _ => by
      rw [graph.eq_def, bracketed]
      simp [text, texts, ← toList_graph predicate, ← toList_graph body]
  | print value _ => by
      rw [graph.eq_def, bracketed]
      simp [text, texts, ← toList_graph value]
  | declaration type name initializer _ => by
      rw [graph.eq_def, bracketed]
      simp [text, texts, ← toList_graphOption initializer]
  | function returnType name parameters body _ => by
      have inside := toList_graphs parameters
      rw [graph.eq_def, bracketed]
      simp [text, texts, ← inside, ← toList_graph body]
  | assignment target value _ => by
      rw [graph.eq_def, bracketed]
      simp [text, texts, ← toList_graph target, ← toList_graph value]

theorem toList_graphs : (nodes : List Node) →
    ' ' :: (graphs nodes).toList = texts (filled (bracketedAll nodes))
  | [] => by
      simp [graphs.eq_def, bracketedAll, filled, texts, text]
  | [node] => by
      rw [graphs.eq_def]
      simp [bracketedAll, filled, texts, ← toList_graph node]
  | node :: next :: nodes => by
      have inside := toList_graphs (next :: nodes)
      rw [graphs.eq_def]
      simp only [bracketedAll, filled, texts] at inside ⊢
      simp [← inside, ← toList_graph node]

theorem toList_graphOption : (node : Option Node) →
    (graphOption node).toList = (bracketedOption node).text
  | none => by
      rw [graphOption.eq_def, bracketedOption, text]
  | some node => by
      rw [graphOption.eq_def, bracketedOption, toList_graph node]

end

/-- The name that the construct holds is a word of letters, digits and
underscores, and the text of its number one of digits and points. -/
def NamesAreWords : Node → Prop
  | literal (.integer digits) _ | literal (.float digits) _ =>
      digits.toList.all (fun c => c.isDigit || c == '.') = true
  | reference name _ _ | call name _ _ _ | declaration _ name _ _
  | function _ name _ _ _ =>
      name.toList.all Lexeme.isWordChar = true
  | _ => True

theorem isClear_name {name : String}
    (isWord : name.toList.all Lexeme.isWordChar = true) :
    IsClear name :=
  isClear_of_all (fun _ => isWordChar_of_isMark) isWord

theorem isClear_kind (value : Literal) : IsClear value.kind := by
  cases value <;> rw [Literal.kind] <;> decide

theorem isClear_operatorName (operator : BinaryOperator) :
    IsClear operator.name := by
  cases operator <;> decide

theorem isClear_typeName (type : DataType) : IsClear type.name := by
  cases type <;> decide

theorem isClear_castHead (target : DataType) :
    IsClear ("CAST(" ++ target.name ++ ")") := by
  cases target <;> decide

mutual

/-- The bracketed graph holds words of the program, numerals and quoted texts,
and nothing else that a source could choose. -/
theorem allClear_bracketed : (node : Node) → node.Throughout NamesAreWords →
    node.bracketed.AllClear
  | literal value _, words => by
      have own := words.self
      cases value with
      | integer digits =>
          exact ⟨isClear_kind _,
            isClear_of_all (fun _ => isNumeralChar_of_isMark) own, trivial⟩
      | float digits =>
          exact ⟨isClear_kind _,
            isClear_of_all (fun _ => isNumeralChar_of_isMark) own, trivial⟩
      | string contents => exact ⟨isClear_kind _, trivial, trivial⟩
  | reference name _ _, words => ⟨by decide, isClear_name words.self, trivial⟩
  | call name arguments _ _, words => by
      have inside := eachClear_bracketedAll arguments fun _ member =>
        words.child member
      exact ⟨by decide, isClear_name words.self,
        ⟨by decide, eachClear_filled inside⟩, trivial⟩
  | binary operator left right _, words => by
      refine ⟨isClear_operatorName operator, ?_, ?_, trivial⟩
      · exact allClear_bracketed left (words.child (by simp [children]))
      · exact allClear_bracketed right (words.child (by simp [children]))
  | cast target operand _, words => by
      refine ⟨isClear_castHead target, ?_, trivial⟩
      exact allClear_bracketed operand (words.child (by simp [children]))
  | statements items _, words => by
      have inside := eachClear_bracketedAll items fun _ member =>
        words.child member
      exact ⟨by decide, eachClear_filled inside⟩
  | conditional predicate thenBranch elseBranch _, words => by
      refine ⟨by decide, ⟨by decide, ?_, trivial⟩, ⟨by decide, ?_, trivial⟩,
        ⟨by decide, ?_, trivial⟩, trivial⟩
      · exact allClear_bracketed predicate (words.child (by simp [children]))
      · exact allClear_bracketed thenBranch (words.child (by simp [children]))
      · exact allClear_bracketedOption elseBranch fun _ member =>
          words.child (by simp_all [children])
  | loop predicate body _, words => by
      refine ⟨by decide, ⟨by decide, ?_, trivial⟩,
        ⟨by decide, ?_, trivial⟩, trivial⟩
      · exact allClear_bracketed predicate (words.child (by simp [children]))
      · exact allClear_bracketed body (words.child (by simp [children]))
  | print value _, words => by
      refine ⟨by decide, ?_, trivial⟩
      exact allClear_bracketed value (words.child (by simp [children]))
  | declaration type name initializer _, words => by
      refine ⟨by decide, isClear_typeName type,
        ⟨by decide, isClear_name words.self, ?_, trivial⟩, trivial⟩
      exact allClear_bracketedOption initializer fun _ member =>
        words.child member
  | function returnType name parameters body _, words => by
      have inside := eachClear_bracketedAll parameters fun _ member =>
        words.child (List.mem_append_left _ member)
      refine ⟨by decide, isClear_name words.self,
        ⟨by decide, eachClear_filled inside⟩,
        ⟨by decide, ?_, trivial⟩,
          ⟨by decide, isClear_typeName returnType, trivial⟩, trivial⟩
      exact allClear_bracketed body (words.child (by simp [children]))
  | assignment target value _, words => by
      refine ⟨by decide, ⟨by decide, ?_, ?_, trivial⟩, trivial⟩
      · exact allClear_bracketed target (words.child (by simp [children]))
      · exact allClear_bracketed value (words.child (by simp [children]))

theorem eachClear_bracketedAll : (nodes : List Node) →
    (∀ node ∈ nodes, node.Throughout NamesAreWords) →
      EachClear (bracketedAll nodes)
  | [], _ => trivial
  | node :: nodes, words =>
      ⟨allClear_bracketed node (words node List.mem_cons_self),
        eachClear_bracketedAll nodes fun other member =>
          words other (List.mem_cons_of_mem node member)⟩

theorem allClear_bracketedOption : (node : Option Node) →
    (∀ part ∈ node.toList, part.Throughout NamesAreWords) →
      (bracketedOption node).AllClear
  | none, _ => show IsClear "NULL" by decide
  | some node, words => allClear_bracketed node (words node List.mem_cons_self)

end

end Node

end Minilang
