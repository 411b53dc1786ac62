import Minilang.Node.Equality
import Minilang.Proofs.Typing.Form

/-!
# Operands in compiled programs

Which types the operands of an operator can have once a program is compiled. The
main statements are `mixed_only_compared_of_compile`, which says that an integer
stands beside a number with a fraction in comparisons for equality only, and
`admits_of_compile`, which says what each operator lets through.
-/

namespace Minilang

theorem Literal.hasWord_dataType (value : Literal) :
    value.dataType.HasWord := by
  have words : DataType.integer.HasWord ∧ DataType.float.HasWord ∧
      DataType.string.HasWord := by
    decide
  cases value with
  | integer => exact words.1
  | float => exact words.2.1
  | string => exact words.2.2

theorem DataType.hasWord_of_common? {left right type : DataType}
    (common : left.common? right = some type) : type.HasWord := by
  cases left <;> cases right <;> cases common <;> decide

theorem DataType.hasWord_of_equalityType? {left right type : DataType}
    (common : Node.equalityType? left right = some type) : type.HasWord := by
  cases left <;> cases right <;> cases common <;> decide

/-- Operators do not lead out of the types that a program can name. -/
theorem BinaryOperator.hasWord_of_resultType? {operator : BinaryOperator}
    {left right type : DataType}
    (result : operator.resultType? left right = some type) :
    type.HasWord := by
  rcases resultType?_eq_some.1 result with ⟨_, found⟩ | ⟨_, common, found, rfl⟩
  · exact DataType.hasWord_of_equalityType? found
  · by_cases ordering : operator.isOrdering = true
    · rw [if_pos ordering]
      decide
    · rw [if_neg ordering]
      exact DataType.hasWord_of_common? found

theorem BinaryOperator.isEquality_iff {operator : BinaryOperator} :
    operator.isEquality = true ↔ operator = .equal ∨ operator = .notEqual := by
  cases operator <;> decide

namespace Node

variable {node : Node}

theorem hasWord_declaredType (formed : node.IsFormed) :
    node.declaredType.HasWord := by
  cases node with
  | declaration => exact DataType.hasWord_iff_isWritten.2 formed.1
  | _ =>
      show DataType.callable.HasWord
      decide

theorem hasWord_returnType {signature : Signature} (formed : node.IsFormed)
    (declared : node.declaredSignature? = some signature) :
    signature.returnType.HasWord := by
  cases node with
  | function =>
      cases declared
      exact DataType.hasWord_iff_isWritten.2 formed.1
  | _ => cases declared

end Node

namespace Program

variable {source file : String} {program : Program}
  {warnings later : List Warning}

/-- The scopes of a compiled program answer for a name from a declaration in the
program. -/
theorem lookup_of_compile
    (success : (compile source file).run warnings = .ok program later)
    {part : Node} {name : String} {scope : ScopeId}
    (within : part.PartOf program.root)
    (mentions : part.Mentions name scope) :
    ∃ resolved : Option Node,
      program.scopes.symbol? scope name = .ok (resolved.map Node.declaredType) ∧
      program.scopes.signature? scope name =
        .ok (resolved.bind Node.declaredSignature?) ∧
      ∀ declaration, resolved = some declaration →
        declaration.PartOf program.root := by
  obtain ⟨mention, mentioned, rfl⟩ :=
    Node.exists_mention_of_partOf within mentions
  obtain ⟨⟨_, itself⟩, parts⟩ := Node.partOf_of_mem_mentions mentioned
  obtain ⟨symbol, signature⟩ :=
    Node.lookup_of_mention (fits_of_compile success).leads mentioned
  obtain ⟨rfl, rfl⟩ := itself.unique mentions
  exact ⟨_, symbol, signature, fun _ resolves =>
    (Site.of_resolve? resolves parts).2⟩

/-- The type of an expression in a compiled program is one that a word names. -/
theorem hasWord_of_compile
    (success : (compile source file).run warnings = .ok program later)
    {node : Node} {type : DataType} (within : node.PartOf program.root)
    (expression : node.isExpression = true)
    (typed : Typed program.scopes node type) :
    type.HasWord := by
  have formed := (formed_of_compile success).2
  cases typed with
  | literal => exact Literal.hasWord_dataType _
  -- What a name or a call resolves to is itself a part of the program, so its
  -- type was written.
  | reference found =>
      obtain ⟨resolved, symbol, _, parts⟩ :=
        lookup_of_compile success within .reference
      obtain ⟨declaration, same, rfl⟩ :=
        Option.map_eq_some_iff.1 (Except.ok.inj (symbol.symm.trans found))
      exact Node.hasWord_declaredType (formed _ (parts declaration same))
  | call _ bound =>
      obtain ⟨resolved, _, signature, parts⟩ :=
        lookup_of_compile success within .call
      obtain ⟨declaration, same, declared⟩ :=
        Option.bind_eq_some_iff.1 (Except.ok.inj (signature.symm.trans bound))
      exact Node.hasWord_returnType (formed _ (parts declaration same)) declared
  | binary _ _ result => exact BinaryOperator.hasWord_of_resultType? result
  | cast => exact DataType.hasWord_iff_isWritten.2 (formed _ within).1
  | _ => cases expression

/-- Each operand in a compiled program has a type that a word names, and the
operator has a type for the two. -/
theorem resultType?_of_compile
    (success : (compile source file).run warnings = .ok program later)
    {operator : BinaryOperator} {left right : Node} {position : Position}
    (within : (Node.binary operator left right position).PartOf program.root) :
    ∃ leftType rightType type, left.HasType program.scopes leftType ∧
      right.HasType program.scopes rightType ∧ leftType.HasWord ∧
      rightType.HasWord ∧
      operator.resultType? leftType rightType = some type := by
  obtain ⟨leftExpression, rightExpression⟩ :=
    (formed_of_compile success).2 _ within
  have leftWithin : left.PartOf program.root :=
    Node.PartOf.child (by simp [Node.children]) within
  have rightWithin : right.PartOf program.root :=
    Node.PartOf.child (by simp [Node.children]) within
  obtain ⟨_, typed⟩ := typed_of_compile success _ within
  cases typed with
  | binary leftTyped rightTyped result =>
      exact ⟨_, _, _, leftTyped.check, rightTyped.check,
        hasWord_of_compile success leftWithin leftExpression leftTyped,
        hasWord_of_compile success rightWithin rightExpression
        rightTyped, result⟩

/-- In a compiled program an integer stands beside a number with a fraction only
where the two are compared for equality. Wherever else they meet in the tree
that was read, the compiled tree has the integer behind a cast. -/
theorem mixed_only_compared_of_compile
    (success : (compile source file).run warnings = .ok program later) :
    (∀ operator left right position,
      (Node.binary operator left right position).PartOf program.root →
      ∃ leftType rightType, left.HasType program.scopes leftType ∧
        right.HasType program.scopes rightType ∧
        (leftType.mixes rightType = true → operator = .equal ∨
          operator = .notEqual)) ∧
    ∃ parsed operators, parse source file = .ok parsed ∧
      Widens program.scopes parsed.root program.root operators := by
  constructor
  · intro operator left right position within
    obtain ⟨leftType, rightType, type, leftTyped, rightTyped, _, _, result⟩ :=
      resultType?_of_compile success within
    refine ⟨leftType, rightType, leftTyped, rightTyped, fun mixed => ?_⟩
    rcases BinaryOperator.resultType?_eq_some.1 result with
      ⟨equality, _⟩ | ⟨_, _, found, _⟩
    · exact BinaryOperator.isEquality_iff.1 equality
    · cases mixed.symm.trans (DataType.mixes_of_common? found)
  · obtain ⟨parsed, _, read, checked, scopes⟩ := compile_ok.1 success
    obtain ⟨operators, widens, _⟩ := Node.widens_of_check_ok parsed.root checked
    rw [scopes]
    exact ⟨parsed, operators, read, widens⟩

theorem mixed_only_compared_of_compile_call :
    ∃ program later,
      (compile
        "float f(int x) \x7b x \x7d if f(1) * 2 < 3 \x7b print 4 == 5.0 \x7d"
        "f.code").run [] = .ok program later ∧
      (∀ operator left right position,
        (Node.binary operator left right position).PartOf program.root →
        ∃ leftType rightType, left.HasType program.scopes leftType ∧
          right.HasType program.scopes rightType ∧
          (leftType.mixes rightType = true → operator = .equal ∨
            operator = .notEqual)) ∧
      ∃ parsed operators,
        parse
          "float f(int x) \x7b x \x7d if f(1) * 2 < 3 \x7b print 4 == 5.0 \x7d"
            "f.code" =
          .ok parsed ∧
        Widens program.scopes parsed.root program.root operators := by
  obtain ⟨program, later, success⟩ := Steps.exists_ok_of_succeeded <|
    show Steps.succeeded ((compile
      "float f(int x) \x7b x \x7d if f(1) * 2 < 3 \x7b print 4 == 5.0 \x7d"
        "f.code").run []) =
        true by decide +kernel
  exact ⟨program, later, success, mixed_only_compared_of_compile success⟩

theorem compile_of_root {root : Node}
    (found : (match (compile source file).run [] with
      | .ok program _ => decide (program.root = root)
      | .error _ _ => false) = true) :
    ∃ program later, (compile source file).run [] = .ok program later ∧
      program.root = root := by
  split at found
  · exact ⟨_, _, by assumption, of_decide_eq_true found⟩
  · cases found

/-- An integer may be compared with a number with a fraction, and is not put
behind a cast there. -/
theorem compile_mixed_comparison :
    ∃ program later,
      (compile "print 1 == 2.0" "f.code").run [] = .ok program later ∧
      ∃ left right position,
        (Node.binary .equal left right position).PartOf program.root ∧
        left.HasType program.scopes .integer ∧
        right.HasType program.scopes .float := by
  obtain ⟨program, later, success, root⟩ := compile_of_root <|
    show (match (compile "print 1 == 2.0" "f.code").run [] with
      | .ok program _ =>
          decide (program.root = .statements [.print (.binary .equal
            (.literal (.integer "1") ⟨"f.code", 1, 7⟩)
            (.literal (.float "2.0") ⟨"f.code", 1, 12⟩)
            ⟨"f.code", 1, 9⟩) ⟨"f.code", 1, 1⟩] ⟨"f.code", 1, 1⟩)
      | .error _ _ => false) = true by decide +kernel
  refine ⟨program, later, success, ?_⟩
  rw [root]
  exact ⟨_, _, _, .inside List.mem_cons_self (.inside List.mem_cons_self .self),
    fun _ => rfl, fun _ => rfl⟩

end Program

/-- The types that an operator lets through. Two strings, two integers, or a
number with a fraction and anything else can be compared for equality.
Arithmetic and orderings refuse strings only. -/
def BinaryOperator.Admits (operator : BinaryOperator)
    (left right : DataType) : Prop :=
  if operator = .equal ∨ operator = .notEqual then
    left = .string ∧ right = .string ∨ left = .integer ∧ right = .integer ∨
      left = .float ∨
      right = .float
  else left ≠ .string ∧ right ≠ .string

/-- Checked by cases on the operator and the two types. -/
theorem BinaryOperator.admits_of_resultType? {operator : BinaryOperator}
    {left right type : DataType}
    (result : operator.resultType? left right = some type) :
    operator.Admits left right := by
  rcases resultType?_eq_some.1 result with
    ⟨equality, found⟩ | ⟨noEquality, common, found, _⟩
  · rw [Admits, if_pos (isEquality_iff.1 equality)]
    cases left <;> cases right <;> cases found <;> decide
  · have different : ¬ (operator = .equal ∨ operator = .notEqual) := fun same =>
      ne_true_of_eq_false noEquality (isEquality_iff.2 same)
    rw [Admits, if_neg different]
    cases left <;> cases right <;> cases found <;> decide

namespace Program

variable {source file : String} {program : Program}
  {warnings later : List Warning}

/-- The operands of each operator in a compiled program have types that words
name and that the operator lets through. -/
theorem admits_of_compile
    (success : (compile source file).run warnings = .ok program later) :
    ∀ operator left right position,
      (Node.binary operator left right position).PartOf program.root →
      ∃ leftType rightType, left.HasType program.scopes leftType ∧
        right.HasType program.scopes rightType ∧ leftType.HasWord ∧
        rightType.HasWord ∧
        operator.Admits leftType rightType := by
  intro operator left right position within
  obtain ⟨leftType, rightType, type, leftTyped, rightTyped, leftWord,
    rightWord, result⟩ :=
    resultType?_of_compile success within
  exact ⟨leftType, rightType, leftTyped, rightTyped, leftWord, rightWord,
    BinaryOperator.admits_of_resultType? result⟩

theorem admits_of_compile_strings :
    ∃ program later,
      (compile "callable f print (1 < 2) + f print \"a\" != \"b\"" "f.code").run
          [] = .ok program later ∧
      ∀ operator left right position,
        (Node.binary operator left right position).PartOf program.root →
        ∃ leftType rightType, left.HasType program.scopes leftType ∧
          right.HasType program.scopes rightType ∧ leftType.HasWord ∧
          rightType.HasWord ∧
          operator.Admits leftType rightType := by
  obtain ⟨program, later, success⟩ := Steps.exists_ok_of_succeeded <|
    show Steps.succeeded ((compile
      "callable f print (1 < 2) + f print \"a\" != \"b\"" "f.code").run []) =
        true by decide +kernel
  exact ⟨program, later, success, admits_of_compile success⟩

/-- Each operator has two strings that it compares for equality as its operands,
or two numbers. -/
def AppliesAlike (program : Program) : Prop :=
  ∀ operator left right position,
    (Node.binary operator left right position).PartOf program.root →
    ∃ leftType rightType, left.HasType program.scopes leftType ∧
      right.HasType program.scopes rightType ∧
      (leftType = .string ∧ rightType = .string ∧
        (operator = .equal ∨ operator = .notEqual) ∨
        (leftType = .integer ∨ leftType = .float) ∧
          (rightType = .integer ∨ rightType = .float))

/-- A truth value may enter arithmetic, and a text may be compared with a number
that has a fraction. -/
theorem compile_mixed_operands :
    (∃ program later,
      (compile "print (1 < 2) + 1" "f.code").run [] = .ok program later ∧
      ¬ program.AppliesAlike) ∧
    ∃ program later,
      (compile "print 1.5 == \"a\"" "f.code").run [] = .ok program later ∧
      ¬ program.AppliesAlike := by
  constructor
  · obtain ⟨program, later, success, root⟩ := compile_of_root <|
      show (match (compile "print (1 < 2) + 1" "f.code").run [] with
        | .ok program _ =>
            decide (program.root = .statements [.print (.binary .add
              (.binary .lessThan (.literal (.integer "1") ⟨"f.code", 1, 8⟩)
                (.literal (.integer "2") ⟨"f.code", 1, 12⟩) ⟨"f.code", 1, 10⟩)
              (.literal (.integer "1") ⟨"f.code", 1, 17⟩) ⟨"f.code", 1, 15⟩)
              ⟨"f.code", 1, 1⟩] ⟨"f.code", 1, 1⟩)
        | .error _ _ => false) = true by decide +kernel
    refine ⟨program, later, success, fun alike => ?_⟩
    rw [AppliesAlike, root] at alike
    obtain ⟨leftType, _, leftTyped, _, allowed⟩ := alike _ _ _ _
      (.inside List.mem_cons_self (.inside List.mem_cons_self .self))
    cases leftTyped []
    rcases allowed with ⟨impossible, _⟩ | ⟨impossible | impossible, _⟩ <;>
      cases impossible
  · obtain ⟨program, later, success, root⟩ := compile_of_root <|
      show (match (compile "print 1.5 == \"a\"" "f.code").run [] with
        | .ok program _ =>
            decide (program.root = .statements [.print (.binary .equal
              (.literal (.float "1.5") ⟨"f.code", 1, 7⟩)
              (.literal (.string "a") ⟨"f.code", 1, 14⟩)
              ⟨"f.code", 1, 11⟩) ⟨"f.code", 1, 1⟩] ⟨"f.code", 1, 1⟩)
        | .error _ _ => false) = true by decide +kernel
    refine ⟨program, later, success, fun alike => ?_⟩
    rw [AppliesAlike, root] at alike
    obtain ⟨leftType, rightType, leftTyped, rightTyped, allowed⟩ :=
      alike _ _ _ _ (.inside List.mem_cons_self
      (.inside List.mem_cons_self .self))
    cases leftTyped []
    cases rightTyped []
    rcases allowed with ⟨impossible, _⟩ | ⟨_, impossible | impossible⟩ <;>
      cases impossible

end Program

end Minilang
