import Minilang.Proofs.Graph.Bracketed
import Minilang.Proofs.Graph.Quoting
import Minilang.Proofs.Writing.Rendering

/-!
# A graph identifies its tree

The brackets of a graph can be told from its text, since each item ends before a
space or a closing bracket and begins as no other kind of item does:
`text_append_injective`. A tree can be read back from the brackets but for its
places and scopes: `tree?_bracketed`. So trees with the same graph are the same
up to places and scopes: `Node.bare_eq_of_graph_eq`.
-/

namespace Minilang

namespace Bracketed

/-! ## From the text to the brackets -/

/-- Nothing stands behind an item but a space or the end of a bracket. -/
def Ends (rest : List Char) : Prop :=
  rest.head?.all (fun c => c == ' ' || c == ']') = true

theorem ends_texts (items : List Bracketed) (rest : List Char) :
    Ends (texts items ++ ']' :: rest) := by
  cases items with
  | nil => rfl
  | cons item items => rfl

theorem Ends.noWord {rest : List Char} (ends : Ends rest) :
    rest.head?.any (!isMark ·) = false := by
  cases rest with
  | nil => rfl
  | cons c rest =>
      rw [Ends, List.head?_cons, Option.all_some, Bool.or_eq_true, beq_iff_eq,
        beq_iff_eq] at ends
      rcases ends with rfl | rfl <;> rfl

theorem word_append_ne {text : String} {rest behind : List Char} {c : Char}
    (clear : IsClear text)
    (ends : Ends rest) (opens : c = '[' ∨ c = '"') :
    text.toList ++ rest ≠ c :: behind := by
  intro same
  rw [IsClear] at clear
  cases word : text.toList with
  | nil =>
      rw [word, List.nil_append] at same
      rw [same, Ends, List.head?_cons, Option.all_some] at ends
      rcases opens with rfl | rfl <;> cases ends
  | cons d letters =>
      rw [word, List.cons_append] at same
      rw [word, List.all_cons, Bool.and_eq_true,
        List.head_eq_of_cons_eq same] at clear
      rcases opens with rfl | rfl <;> cases clear.1

mutual

/-- An item is known by any text that begins with it. -/
theorem text_append_injective : (item : Bracketed) → {other : Bracketed} →
    {rest behind : List Char} → item.AllClear → other.AllClear → Ends rest →
    Ends behind →
    item.text ++ rest = other.text ++ behind → item = other ∧ rest = behind
  | word letters, other, rest, behind => by
      intro clear otherClear ends otherEnds same
      cases other with
      | word _ =>
          obtain ⟨words, rests⟩ :=
            Text.word_append_injective clear otherClear ends.noWord
              otherEnds.noWord same
          exact ⟨congrArg word (String.toList_inj.1 words), rests⟩
      | quoted _ =>
          exact absurd same (by
            simpa [text, Text.toList_quoted] using word_append_ne clear
              ends (.inr rfl))
      | group _ _ => exact absurd same (word_append_ne clear ends (.inl rfl))
  | quoted contents, other, rest, behind => by
      intro clear otherClear ends otherEnds same
      cases other with
      | word _ =>
          exact absurd same.symm (by
            simpa [text, Text.toList_quoted] using word_append_ne otherClear
              otherEnds (.inr rfl))
      | quoted _ =>
          simp only [text, Text.toList_quoted, List.cons_append,
            List.append_assoc, List.nil_append, List.cons.injEq,
            true_and] at same
          obtain ⟨characters, rests⟩ := Text.quoteChars_append_injective same
          exact ⟨congrArg quoted (String.toList_inj.1 characters), rests⟩
      | group _ _ => simp [text, Text.toList_quoted] at same
  | group head items, other, rest, behind => by
      intro clear otherClear ends otherEnds same
      cases other with
      | word _ =>
          exact absurd same.symm
            (word_append_ne otherClear otherEnds (.inl rfl))
      | quoted _ => simp [text, Text.toList_quoted] at same
      | group _ others =>
          simp only [text, List.cons_append, List.append_assoc, List.nil_append,
            List.cons.injEq, true_and] at same
          obtain ⟨heads, further⟩ :=
            Text.word_append_injective clear.1 otherClear.1 (ends_texts items
            _).noWord (ends_texts others _).noWord same
          obtain ⟨rfl, rests⟩ :=
            texts_append_injective items clear.2 otherClear.2 further
          exact ⟨congrArg (group · items) (String.toList_inj.1 heads), rests⟩

/-- The items of a bracket are known by any text that begins with them and the
end of the bracket. -/
theorem texts_append_injective :
    (items : List Bracketed) → {others : List Bracketed} →
    {rest behind : List Char} → EachClear items → EachClear others →
    texts items ++ ']' :: rest = texts others ++ ']' :: behind →
    items = others ∧ rest = behind
  | [], others, rest, behind => by
      intro clear otherClear same
      cases others with
      | nil => exact ⟨rfl, (List.cons.inj same).2⟩
      | cons _ _ => simp [texts] at same
  | item :: items, others, rest, behind => by
      intro clear otherClear same
      cases others with
      | nil => simp [texts] at same
      | cons _ others =>
          simp only [texts, List.cons_append, List.append_assoc,
            List.cons.injEq, true_and] at same
          obtain ⟨rfl, further⟩ :=
            text_append_injective item clear.1 otherClear.1 (ends_texts items _)
            (ends_texts others _) same
          obtain ⟨rfl, rests⟩ :=
            texts_append_injective items clear.2 otherClear.2 further
          exact ⟨rfl, rests⟩

end

/-! ## From the brackets to the tree -/

def dataTypes : List DataType :=
  [.void, .string, .integer, .float, .boolean, .callable, .indexable, .untyped]

def typeOfName? (name : String) : Option DataType :=
  dataTypes.find? (·.name == name)

/-- The type to which a cast goes whose bracket has the head. -/
def castTarget? (head : String) : Option DataType :=
  dataTypes.find? fun target => "CAST(" ++ target.name ++ ")" == head

def operatorOfName? (name : String) : Option BinaryOperator :=
  [BinaryOperator.exponent, .multiply, .divide, .add, .subtract, .greaterThan,
    .greaterOrEqual,
    .lessThan, .lessOrEqual, .equal, .notEqual].find? (·.name == name)

theorem typeOfName?_name (type : DataType) :
    typeOfName? type.name = some type := by
  cases type <;> decide

theorem castTarget?_head (target : DataType) :
    castTarget? ("CAST(" ++ target.name ++ ")") = some target := by
  cases target <;> decide

theorem operatorOfName?_name (operator : BinaryOperator) :
    operatorOfName? operator.name = some operator := by
  cases operator <;> decide

mutual

/-- The tree with the graph, without its places and scopes. -/
def tree? : Bracketed → Option Node
  | group "IntegerLiteral" [word digits] =>
      some (.literal (.integer digits) (.start ""))
  | group "FloatLiteral" [word digits] =>
      some (.literal (.float digits) (.start ""))
  | group "StringLiteral" [quoted contents] =>
      some (.literal (.string contents) (.start ""))
  | group "Identifier" [word name] => some (.reference name 0 (.start ""))
  | group "CALL" [word name, group "PARAMS" arguments] => do
      return .call name (← trees? arguments) 0 (.start "")
  | group "STATEMENTS" items => do
      return .statements (← trees? items) (.start "")
  | group "IF" [group "CONDITION" [predicate], group "THEN" [thenBranch],
      group "ELSE" [elseBranch]] => do
      return .conditional (← tree? predicate) (← tree? thenBranch)
        (← treeOption? elseBranch)
        (.start "")
  | group "WHILE" [group "CONDITION" [predicate], group "DO" [body]] => do
      return .loop (← tree? predicate) (← tree? body) (.start "")
  | group "PRINT" [value] => do
      return .print (← tree? value) (.start "")
  | group "VAR" [word type, group "=" [word name, initializer]] => do
      return .declaration (← typeOfName? type) name
        (← treeOption? initializer) (.start "")
  | group "FUNCTION" [word name, group "PARAMS" parameters, group "EXEC" [body],
      group "RET" [word returnType]] => do
      return .function (← typeOfName? returnType) name (← trees? parameters)
        (← tree? body)
        (.start "")
  | group "ASSIGN" [group "=" [target, value]] => do
      return .assignment (← tree? target) (← tree? value) (.start "")
  | group head [left, right] => do
      return .binary (← operatorOfName? head) (← tree? left)
        (← tree? right) (.start "")
  | group head [operand] => do
      return .cast (← castTarget? head) (← tree? operand) (.start "")
  | _ => none

/-- The trees with the graphs; none where there is only an empty word. -/
def trees? : List Bracketed → Option (List Node)
  | [] => some []
  | [word ""] => some []
  | item :: items => do
      return (← tree? item) :: (← trees? items)

def treeOption? : Bracketed → Option (Option Node)
  | word "NULL" => some none
  | item => (tree? item).map some

end

theorem trees?_filled {items : List Bracketed} {nodes : List Node}
    (read : trees? items = some nodes) :
    trees? (filled items) = some nodes := by
  cases items with
  | nil =>
      rw [trees?] at read
      rw [filled, trees?, read]
  | cons item items => exact read

end Bracketed

namespace Node

open Bracketed

/-- So a tree that is absent is told from one that is present. -/
theorem bracketed_ne_word (node : Node) (text : String) :
    node.bracketed ≠ word text := by
  cases node <;> (rw [bracketed]; exact Bracketed.noConfusion)

mutual

/-- A tree can be read back from its graph but for its places and scopes. -/
theorem tree?_bracketed : (node : Node) → node.bracketed.tree? = some node.bare
  | literal value _ => by
      cases value <;> simp [bracketed, Literal.kind, Literal.bracketed, tree?]
  | reference name _ _ => by
      simp [bracketed, tree?]
  | call name arguments _ _ => by
      have inside := trees?_filled (trees?_bracketed arguments)
      simp [bracketed, tree?, inside]
  | binary operator left right _ => by
      have own := operatorOfName?_name operator
      have inLeft := tree?_bracketed left
      have inRight := tree?_bracketed right
      rw [bracketed, bare_binary]
      cases operator <;>
        (rw [BinaryOperator.name] at own ⊢; simp [tree?, own, inLeft, inRight])
  | cast target operand _ => by
      have own := castTarget?_head target
      have inside := tree?_bracketed operand
      rw [bracketed, bare_cast]
      cases target <;>
        (simp only [DataType.name, String.reduceAppend] at own ⊢; simp [tree?,
          own, inside])
  | statements items _ => by
      have inside := trees?_filled (trees?_bracketed items)
      simp [bracketed, tree?, inside]
  | conditional predicate thenBranch elseBranch _ => by
      have inPredicate := tree?_bracketed predicate
      have inThen := tree?_bracketed thenBranch
      have inElse := treeOption?_bracketed elseBranch
      simp [bracketed, tree?, inPredicate, inThen, inElse]
  | loop predicate body _ => by
      have inPredicate := tree?_bracketed predicate
      have inBody := tree?_bracketed body
      simp [bracketed, tree?, inPredicate, inBody]
  | print value _ => by
      have inside := tree?_bracketed value
      simp [bracketed, tree?, inside]
  | declaration type name initializer _ => by
      have inside := treeOption?_bracketed initializer
      simp [bracketed, tree?, typeOfName?_name, inside]
  | function returnType name parameters body _ => by
      have inParameters := trees?_filled (trees?_bracketed parameters)
      have inBody := tree?_bracketed body
      simp [bracketed, tree?, typeOfName?_name, inParameters, inBody]
  | assignment target value _ => by
      have inTarget := tree?_bracketed target
      have inValue := tree?_bracketed value
      simp [bracketed, tree?, inTarget, inValue]

theorem trees?_bracketed : (nodes : List Node) →
    trees? (bracketedAll nodes) = some (nodes.map bare)
  | [] => by
      rw [bracketedAll, trees?, List.map_nil]
  | node :: nodes => by
      rw [bracketedAll, trees?, tree?_bracketed node, trees?_bracketed nodes]
      · rfl
      · intro isWord
        exact absurd isWord (bracketed_ne_word node "")

theorem treeOption?_bracketed : (node : Option Node) →
    treeOption? (bracketedOption node) = some (node.map bare)
  | none => by
      rw [bracketedOption, treeOption?, Option.map_none]
  | some node => by
      rw [bracketedOption, treeOption?, tree?_bracketed node]
      · rfl
      · exact bracketed_ne_word node "NULL"

end

/-- If names are words of letters, digits and underscores and numbers are
written with digits and points, then trees with the same graph are the same but
for their places and scopes. -/
theorem bare_eq_of_graph_eq {node other : Node}
    (words : node.Throughout NamesAreWords)
    (otherWords : other.Throughout NamesAreWords)
    (same : node.graph = other.graph) :
    node.bare = other.bare := by
  have texts : node.bracketed.text ++ [] = other.bracketed.text ++ [] := by
    rw [← toList_graph, same, toList_graph]
  have ends : Ends [] := rfl
  obtain ⟨brackets, _⟩ :=
    text_append_injective node.bracketed (allClear_bracketed node words)
    (allClear_bracketed other otherWords) ends ends texts
  have trees : some node.bare = some other.bare := by
    rw [← tree?_bracketed, brackets, tree?_bracketed]
  exact Option.some.inj trees

/-- A function that gives a text full of brackets to its parameter. -/
def bracketsInText (place : Position) (scope : ScopeId) : Node :=
  .function .void "f" [.declaration .string "s" none place]
    (.statements [.assignment (.reference "s" scope place)
      (.literal (.string "]] [RET \"") place) place] place) place

theorem throughout_bracketsInText (place : Position) (scope : ScopeId) :
    (bracketsInText place scope).Throughout NamesAreWords := by
  have isWord : "s".toList.all Lexeme.isWordChar = true := by decide
  have parameter :
      (Node.declaration .string "s" none place).Throughout NamesAreWords :=
    throughout_iff.2 ⟨isWord, List.forall_mem_nil _⟩
  have target : (Node.reference "s" scope place).Throughout NamesAreWords :=
    throughout_iff.2 ⟨isWord, List.forall_mem_nil _⟩
  have value : (Node.literal (.string "]] [RET \"") place).Throughout
      NamesAreWords :=
    throughout_iff.2 ⟨trivial, List.forall_mem_nil _⟩
  refine throughout_iff.2 ⟨show _ = true by decide, ?_⟩
  refine List.forall_mem_cons.2 ⟨parameter, List.forall_mem_singleton.2 ?_⟩
  refine throughout_iff.2 ⟨trivial, List.forall_mem_singleton.2 ?_⟩
  refine throughout_iff.2 ⟨trivial, List.forall_mem_cons.2 ⟨target, ?_⟩⟩
  exact List.forall_mem_singleton.2 value

theorem bare_eq_of_graph_eq_bracketsInText :
    let node := bracketsInText ⟨"f.code", 1, 1⟩ 1
    let other := bracketsInText ⟨"g.code", 3, 9⟩ 4
    node.Throughout NamesAreWords ∧ other.Throughout NamesAreWords ∧
      node.graph = other.graph ∧
      node.bare = other.bare := by
  intro node other
  have words := throughout_bracketsInText ⟨"f.code", 1, 1⟩ 1
  have otherWords := throughout_bracketsInText ⟨"g.code", 3, 9⟩ 4
  have same : node.graph = other.graph := rfl
  exact ⟨words, otherWords, same, bare_eq_of_graph_eq words otherWords same⟩

end Node

end Minilang
