import Mathlib.Data.List.Basic
import Minilang.Proofs.Writing.Token

/-!
# What a cursor faces

A cursor faces tokens if the text ahead of it is their line. Then it finds the
first of them, moves over it and faces the others, and it finds nothing that the
first of them is not.
-/

namespace Minilang

/-- The text ahead of the cursor is the line of the tokens. -/
structure Cursor.Faces (cursor : Cursor) (tokens : List Token) : Prop where
  rest : cursor.rest = Token.line tokens
  written : ∀ token ∈ tokens, token.IsWritten

namespace Cursor

open Lexeme Token

variable {cursor behind : Cursor} {tokens rest : List Token}

theorem Faces.rest_cons {token : Token} (faces : cursor.Faces (token :: rest)) :
    cursor.rest = token.chars ++ gap rest := by
  rw [faces.rest, line_cons]

theorem Faces.head {token : Token} (faces : cursor.Faces (token :: rest)) :
    token.IsWritten :=
  faces.written token List.mem_cons_self

theorem Faces.tail {token : Token} (faces : cursor.Faces (token :: rest)) :
    ∀ token ∈ rest, token.IsWritten :=
  fun token member => faces.written token (List.mem_cons_of_mem _ member)

/-- The cursor moves over a token and the space behind it. -/
theorem Faces.advance {token : Token} (faces : cursor.Faces (token :: rest))
    {count : Nat} (size : token.chars.length = count) :
    (cursor.advance count).Faces rest := by
  have dropped : (cursor.drop count).rest = gap rest := by
    rw [drop, faces.rest_cons, ← size]
    exact List.drop_left
  refine ⟨?_, faces.tail⟩
  change (cursor.drop count).rest.drop (triviaLength (cursor.drop count).rest) =
    line rest
  rw [dropped]
  cases rest with
  | nil => rfl
  | cons next others =>
      have noTrivia := triviaLength_line faces.tail
      have space : triviaLength (gap (next :: others)) = 1 := by
        change (if Text.isBlank ' ' then triviaLength (line (next :: others)) +
          1 else 0) = 1
        rw [noTrivia]
        decide
      rw [space]
      rfl

theorem start_faces (written : ∀ token ∈ tokens, token.IsWritten)
    (file : String) :
    (start (String.ofList (line tokens)) file).Faces tokens := by
  have unchanged :
      (String.ofList (line tokens)).toList.filter
        (· != '\r') = line tokens := by
    rw [String.toList_ofList, List.filter_eq_self]
    intro c member
    rw [bne_iff_ne]
    rintro rfl
    exact noReturn_line written member
  refine ⟨?_, written⟩
  rw [start, unchanged]
  change (line tokens).drop (triviaLength (line tokens)) = line tokens
  rw [triviaLength_line written]
  rfl

theorem Faces.eq_nil (faces : cursor.Faces []) : cursor.rest = [] :=
  faces.rest

/-- Behind a symbol that is faced the others are faced. -/
theorem Faces.accept? {text : String}
    (faces : cursor.Faces (.symbol text :: rest)) :
    ∃ behind, cursor.accept? text = some behind ∧ behind.Faces rest := by
  refine ⟨_, accept?_eq_some.2 ⟨?_, rfl⟩, faces.advance String.length_toList⟩
  rw [faces.rest_cons]
  exact List.prefix_append _ _

/-- Where a symbol is ahead, the next token is one that begins with it. -/
theorem Faces.head?_of_accept? (faces : cursor.Faces tokens) {text : String}
    (isSymbol : text ∈ symbols) (found : cursor.accept? text = some behind) :
    ∃ other ∈ symbols, tokens.head? = some (.symbol other) ∧
      text.toList <+: other.toList := by
  have shape : ∀ text ∈ symbols, text.toList ≠ [] ∧ ' ' ∉ text.toList := by
    decide +kernel
  obtain ⟨nonempty, noSpace⟩ := shape text isSymbol
  obtain ⟨c, more, characters⟩ := List.exists_cons_of_ne_nil nonempty
  have ahead := (accept?_eq_some.1 found).1
  cases tokens with
  | nil =>
      rw [faces.rest, characters] at ahead
      exact absurd (List.prefix_nil.1 ahead) (List.cons_ne_nil _ _)
  | cons token rest =>
      rw [faces.rest_cons] at ahead
      obtain ⟨first, others, tokenCharacters, begins⟩ :=
        chars_eq_cons faces.head
      have same : c = first := by
        rw [characters, tokenCharacters, List.cons_append] at ahead
        exact (List.cons_prefix_cons.1 ahead).1
      obtain ⟨other, rfl⟩ :=
        eq_symbol_of_begins isSymbol (by rw [characters, same]; rfl) begins
      refine ⟨other, faces.head, rfl, ?_⟩
      -- A symbol that ran on behind the token would hold the space that
      -- follows it.
      by_contra notPrefix
      rcases List.prefix_or_prefix_of_prefix ahead (List.prefix_append
        other.toList (gap rest)) with shorter | ⟨surplus, longer⟩
      · exact notPrefix shorter
      · rw [← longer, chars, List.prefix_append_right_inj] at ahead
        cases surplus with
        | nil =>
            rw [List.append_nil] at longer
            exact notPrefix (longer ▸ List.prefix_rfl)
        | cons next more =>
            obtain ⟨more, split⟩ := ahead
            have head : (gap rest).head? = some next := by
              rw [← split]
              rfl
            rw [gap_head? head] at longer
            exact noSpace (by simp [← longer])

theorem Faces.accept?_eq_none (faces : cursor.Faces tokens) {text : String}
    (isSymbol : text ∈ symbols)
    (absent : ∀ other ∈ symbols, text.toList <+: other.toList →
      tokens.head? ≠ some (.symbol other)) :
    cursor.accept? text = none := by
  rw [Option.eq_none_iff_forall_ne_some]
  intro behind found
  obtain ⟨other, member, head, ahead⟩ := faces.head?_of_accept? isSymbol found
  exact absent other member ahead head

theorem Faces.noParenthesis (faces : cursor.Faces tokens)
    (absent : tokens.head? ≠ some (.symbol "(")) :
    cursor.accept? "(" = none := by
  have alone : ∀ other ∈ symbols, "(".toList <+: other.toList →
      other = "(" := by decide +kernel
  refine faces.accept?_eq_none (by decide) fun other member ahead => ?_
  rw [alone other member ahead]
  exact absent

theorem Faces.noEquals (faces : cursor.Faces tokens)
    (absent : ∀ text ∈ ["=", "=="], tokens.head? ≠ some (.symbol text)) :
    cursor.accept? "=" = none := by
  have alone : ∀ other ∈ symbols, "=".toList <+: other.toList →
      other ∈ ["=", "=="] := by
    decide +kernel
  exact faces.accept?_eq_none (by decide) fun other member ahead =>
    absent other (alone other member ahead)

/-- The operators of a level are tried in such an order that the first whose
symbol the text begins with is the one that is written. -/
theorem find?_operators (operator : BinaryOperator) :
    operator.level.operators.find?
      (·.symbol.toList.isPrefixOf operator.symbol.toList) =
      some operator := by
  cases operator <;> decide

theorem Faces.operator? {operator : BinaryOperator}
    (faces : cursor.Faces (.symbol operator.symbol :: rest)) :
    ∃ behind, cursor.operator? operator.level = some (operator, behind) ∧
      behind.Faces rest := by
  obtain ⟨behind, found, faces'⟩ := faces.accept?
  refine ⟨behind, ?_, faces'⟩
  obtain ⟨_, before, after, split, earlier⟩ :=
    List.find?_eq_some_iff_append.1 (find?_operators operator)
  have none_before :
      before.findSome?
        (fun other => (cursor.accept? other.symbol).map (other, ·)) =
      none := by
    rw [List.findSome?_eq_none_iff]
    intro other member
    rw [Option.map_eq_none_iff]
    refine faces.accept?_eq_none (symbol_mem_symbols other) ?_
    intro written _ ahead head
    cases head
    have notAhead := earlier other member
    rw [← List.isPrefixOf_iff_prefix] at ahead
    simp [ahead] at notAhead
  rw [Cursor.operator?, split, List.findSome?_append, none_before,
    Option.none_or, List.findSome?_cons, found]
  rfl

theorem Faces.operator?_eq_none (faces : cursor.Faces tokens) {level : Level}
    (absent : ∀ token ∈ tokens.head?, ¬ IsOperator level token) :
    cursor.operator? level = none := by
  have extended : ∀ operator : BinaryOperator, ∀ other ∈ symbols,
      operator.symbol.toList <+: other.toList →
        ∃ longer ∈ operator.level.operators, longer.symbol = other := by
    intro operator
    cases operator <;> decide +kernel
  rw [Option.eq_none_iff_forall_ne_some]
  rintro ⟨operator, behind⟩ found
  obtain ⟨level, accepted⟩ := operator?_eq_some found
  obtain ⟨other, member, head, ahead⟩ :=
    faces.head?_of_accept? (symbol_mem_symbols operator) accepted
  obtain ⟨longer, sameLevel, rfl⟩ := extended operator other member ahead
  rw [BinaryOperator.mem_operators_iff, level] at sameLevel
  exact absent _ head ⟨longer, sameLevel, rfl⟩

theorem Faces.word? {word : String}
    (faces : cursor.Faces (.word word :: rest)) :
    cursor.word? = some word ∧ (cursor.advance word.length).Faces rest := by
  refine ⟨?_, faces.advance String.length_toList⟩
  rw [Cursor.word?, faces.rest_cons]
  refine word?_append faces.head fun c head => ?_
  obtain rfl := gap_head? (Option.mem_def.1 head)
  decide

theorem Faces.head?_of_word? (faces : cursor.Faces tokens) {word : String}
    (found : cursor.word? = some word) : tokens.head? = some (.word word) := by
  obtain ⟨c, others, characters, letter⟩ := isAlpha_of_word? found
  cases tokens with
  | nil =>
      rw [faces.rest] at characters
      cases characters
  | cons token rest =>
      obtain ⟨first, more, tokenCharacters, begins⟩ := chars_eq_cons faces.head
      have same : c = first := by
        have ahead := faces.rest_cons
        rw [characters, tokenCharacters] at ahead
        cases ahead
        rfl
      obtain rfl := same
      cases token with
      | word other =>
          have ahead := (faces.word?).1.symm.trans found
          rw [Option.some.inj ahead]
          rfl
      | number digits =>
          have digit : c.isDigit = true := begins
          rw [isDigit_of_isAlpha letter] at digit
          cases digit
      | string contents =>
          obtain rfl : c = '"' := begins
          cases letter
      | symbol text =>
          have isLetter : Begins c (.word word) := letter
          obtain ⟨_, impossible⟩ :=
            eq_symbol_of_begins faces.head begins isLetter
          cases impossible

theorem Faces.keyword? {word : String}
    (faces : cursor.Faces (.word word :: rest)) :
    ∃ behind, cursor.keyword? word = some behind ∧ behind.Faces rest :=
  ⟨_, (keyword?_eq_some faces.head).2 ⟨faces.word?.1, rfl⟩, faces.word?.2⟩

theorem Faces.keyword?_eq_none (faces : cursor.Faces tokens) {word : String}
    (isWord : IsWord word)
    (absent : tokens.head? ≠ some (.word word)) :
    cursor.keyword? word = none := by
  rw [keyword?_eq isWord, if_neg]
  intro found
  exact absent (faces.head?_of_word? found)

theorem Faces.identifier? {name : String}
    (faces : cursor.Faces (.word name :: rest))
    (free : isReserved name = false) :
    ∃ behind, cursor.identifier? = some (name, behind) ∧ behind.Faces rest :=
  ⟨_, identifier?_eq_some.2 ⟨faces.word?.1, free, rfl⟩, faces.word?.2⟩

theorem Faces.type? {word : String} {type : DataType}
    (faces : cursor.Faces (.word word :: rest))
    (named : (word, type) ∈ DataType.words) :
    ∃ behind, cursor.type? = some (type, behind) ∧ behind.Faces rest :=
  ⟨_, type?_eq_some.2 ⟨(word, type), named, rfl, faces.word?.1, rfl⟩,
    faces.word?.2⟩

theorem Faces.formRead? (form : Grammar.Form)
    (faces : cursor.Faces (.word form.word :: rest)) :
    ∃ behind, Grammar.Form.read? cursor = some (form, behind) ∧
      behind.Faces rest :=
  ⟨_, formRead?_eq_some.2 ⟨faces.word?.1, rfl⟩, faces.word?.2⟩

theorem Faces.number {digits : String}
    (faces : cursor.Faces (.number digits :: rest)) :
    ∃ behind, Scan.number.run cursor =
        .ok
          (some (if '.' ∈ digits.toList then .float digits
          else .integer digits)) behind ∧
      behind.Faces rest := by
  have found : numeral? cursor.rest = some digits := by
    rw [faces.rest_cons]
    refine numeral?_append faces.head fun c head => ?_
    obtain rfl := gap_head? (Option.mem_def.1 head)
    decide
  have noPointAtEnd : digits.toList.getLast? ≠ some '.' := by
    rcases faces.head with ⟨_, all⟩ | ⟨whole, part, split, _, nonempty, all⟩
    · exact getLast?_ne_of_digits all
    · obtain ⟨c, rest, rfl⟩ := List.exists_cons_of_ne_nil nonempty
      rw [split, List.getLast?_append_cons, List.getLast?_cons_cons]
      exact getLast?_ne_of_digits all
  refine ⟨_, ?_, faces.advance String.length_toList⟩
  rw [run_number, found]
  simp only [noPointAtEnd, if_false]

theorem Faces.string {contents : String}
    (faces : cursor.Faces (.string contents :: rest)) :
    ∃ behind, Scan.string.run cursor = .ok (some contents) behind ∧
      behind.Faces rest := by
  have ahead : cursor.rest = '"' :: (contents.toList.flatMap escape ++
      '"' :: gap rest) := by
    rw [faces.rest_cons]
    simp [chars]
  have size : (chars (.string contents)).length =
      (contents.toList.flatMap escape).length + 1 + 1 := by
    simp [chars]
  refine ⟨_, ?_, faces.advance size⟩
  rw [run_string, ahead]
  simp only [stringBody?_escape, String.ofList_toList]

end Cursor

end Minilang
