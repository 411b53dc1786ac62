import Minilang.Proofs.Likeness.Question
import Minilang.Proofs.Scoping.Scopes

/-!
# A source inside another one

The lexemes of a source may be found again inside another source, at other
places and with other scopes open. An `Embedding` collects what that takes. From
its rules each question that finds a lexeme in the one source finds the same in
the other, and the rules about what does not follow carry over as well.
-/

namespace Minilang

/-- How a source is found again inside another one: where its places and its
scopes go, which cursors and which scopes go with each other, and which names
the outermost scope may declare. -/
structure Embedding where
  place : Position → Position
  scope : ScopeId → ScopeId
  Free : String → Prop
  Like : Cursor → Cursor → Prop
  Over : Scopes → Scopes → Prop
  position {cursor other : Cursor} : Like cursor other → cursor.rest ≠ [] →
    other.position = place cursor.position
  word {cursor other : Cursor} {word : String} : Like cursor other →
    cursor.word? = some word →
    other.word? = some word
  noElse {cursor other : Cursor} : Like cursor other →
    cursor.word? ≠ some "else" →
    other.word? ≠ some "else"
  symbol : Cursor.SameSymbols Like
  numeral {cursor other : Cursor} {digits : String} : Like cursor other →
    Lexeme.numeral? cursor.rest = some digits →
      Lexeme.numeral? other.rest = some digits
  string {cursor other : Cursor} {body contents : List Char}
    {length : Nat} : Like cursor other →
    cursor.rest = '"' :: body →
      Lexeme.stringBody? body = some (contents, length) →
    ∃ otherBody, other.rest = '"' :: otherBody ∧
      Lexeme.stringBody? otherBody = some (contents, length)
  behind {cursor other : Cursor} {count : Nat} : Like cursor other →
    Lexeme.IsAhead count cursor.rest →
      Like (cursor.advance count) (other.advance count)
  current {scopes other : Scopes} {id : ScopeId} : Over scopes other →
    scopes.current = .ok id → other.current = .ok (scope id)
  enter {scopes other inner : Scopes} : Over scopes other →
    scopes.enter = .ok inner →
    ∃ otherInner, other.enter = .ok otherInner ∧ Over inner otherInner
  exit {scopes other outer : Scopes} : Over scopes other →
    scopes.exit = .ok outer →
    ∃ otherOuter, other.exit = .ok otherOuter ∧ Over outer otherOuter
  declare {scopes other later : Scopes} {id : ScopeId} {inside : Scope}
      {name : String}
      {type : DataType} : Over scopes other → scopes.Stands id inside →
        (id = 0 → Free name) →
    scopes.declare? name type = .ok (some later) →
    ∃ otherLater, other.declare? name type = .ok (some otherLater) ∧
      Over later otherLater
  function {scopes other declared later : Scopes} {id : ScopeId}
      {inside : Scope} {name : String}
      {signature : Signature} : Over scopes other → scopes.Stands id inside →
    (id = 0 → Free name) →
      scopes.declare? name .callable = .ok (some declared) →
    declared.bind name signature = .ok later →
    ∃ otherDeclared otherLater,
      other.declare? name .callable = .ok (some otherDeclared) ∧
      otherDeclared.bind name signature = .ok otherLater ∧ Over later otherLater

namespace Embedding

variable {embedding : Embedding} {cursor other behind : Cursor}

/-- Cursors that are alike at the end of the source may differ in their places,
but not before some text. -/
theorem position_of_shorter (like : embedding.Like cursor other)
    (shorter : behind.rest.length < cursor.rest.length) :
    other.position = embedding.place cursor.position :=
  embedding.position like <| List.ne_nil_of_length_pos <|
    Nat.lt_of_le_of_lt (Nat.zero_le _) shorter

theorem word_found {α : Type} {names : α → String → Prop}
    {lexeme? : Cursor → Option (α × Cursor)}
    (asks : Cursor.AsksWord names lexeme?) {value : α}
    (like : embedding.Like cursor other)
    (found : lexeme? cursor = some (value, behind)) :
    ∃ otherBehind, lexeme? other = some (value, otherBehind) ∧
      other.position = embedding.place cursor.position ∧
      embedding.Like behind otherBehind := by
  obtain ⟨word, ahead, named, moved⟩ := asks.1 found
  subst moved
  have otherFound := asks.2 ⟨word, embedding.word like ahead, named, rfl⟩
  have shorter := Cursor.length_lt_of_word? ahead
  exact ⟨_, otherFound, position_of_shorter like shorter,
    embedding.behind like (.word ahead)⟩

theorem identifier_found {name : String} (like : embedding.Like cursor other)
    (found : cursor.identifier? = some (name, behind)) :
    ∃ otherBehind, other.identifier? = some (name, otherBehind) ∧
      other.position = embedding.place cursor.position ∧
      embedding.Like behind otherBehind :=
  word_found Cursor.asksWord_identifier? like found

theorem type_found {type : DataType} (like : embedding.Like cursor other)
    (found : cursor.type? = some (type, behind)) :
    ∃ otherBehind, other.type? = some (type, otherBehind) ∧
      other.position = embedding.place cursor.position ∧
      embedding.Like behind otherBehind :=
  word_found Cursor.asksWord_type? like found

theorem form_found {form : Grammar.Form} (like : embedding.Like cursor other)
    (found : Grammar.Form.read? cursor = some (form, behind)) :
    ∃ otherBehind, Grammar.Form.read? other = some (form, otherBehind) ∧
      other.position = embedding.place cursor.position ∧
      embedding.Like behind otherBehind :=
  word_found Cursor.asksWord_formRead? like found

theorem else_found (like : embedding.Like cursor other)
    (found : cursor.keyword? "else" = some behind) :
    ∃ otherBehind, other.keyword? "else" = some otherBehind ∧
      embedding.Like behind otherBehind := by
  have isWord : Lexeme.IsWord "else" := by decide +kernel
  obtain ⟨ahead, moved⟩ := (Cursor.keyword?_eq_some isWord).1 found
  subst moved
  exact ⟨_, (Cursor.keyword?_eq_some isWord).2 ⟨embedding.word like ahead, rfl⟩,
    embedding.behind like (.word ahead)⟩

theorem else_absent (like : embedding.Like cursor other)
    (absent : cursor.keyword? "else" = none) :
    other.keyword? "else" = none := by
  have isWord : Lexeme.IsWord "else" := by decide +kernel
  have noWord : cursor.word? ≠ some "else" := by
    intro ahead
    rw [Cursor.keyword?_eq isWord, if_pos ahead] at absent
    cases absent
  rw [Cursor.keyword?_eq isWord, if_neg (embedding.noElse like noWord)]

theorem symbol_found {text : String} (isSymbol : text ∈ Token.symbols)
    (like : embedding.Like cursor other)
    (found : cursor.accept? text = some behind) :
    ∃ otherBehind, other.accept? text = some otherBehind ∧
      embedding.Like behind otherBehind := by
  obtain ⟨ahead, moved⟩ := Cursor.accept?_eq_some.1 found
  subst moved
  exact ⟨_, Cursor.accept?_eq_some.2 ⟨(embedding.symbol like isSymbol).1 ahead,
    rfl⟩, embedding.behind like (.symbol isSymbol ahead)⟩

theorem symbol_absent {text : String} (isSymbol : text ∈ Token.symbols)
    (like : embedding.Like cursor other) (absent : cursor.accept? text = none) :
    other.accept? text = none := by
  rw [Cursor.accept?_eq_none] at absent ⊢
  intro otherAhead
  exact absent ((embedding.symbol like isSymbol).2 otherAhead)

theorem operator_found {level : Level} {operator : BinaryOperator}
    (like : embedding.Like cursor other)
    (found : cursor.operator? level = some (operator, behind)) :
    ∃ otherBehind, other.operator? level = some (operator, otherBehind) ∧
      embedding.Like behind otherBehind := by
  rcases Cursor.findsAlike_operator? embedding.symbol level like with
    ⟨absent, _⟩ | ⟨same, count, isAhead, ahead, otherAhead⟩
  · cases absent.symm.trans found
  · cases ahead.symm.trans found
    exact ⟨_, otherAhead, embedding.behind like isAhead⟩

theorem operator_absent {level : Level} (like : embedding.Like cursor other)
    (absent : cursor.operator? level = none) :
    other.operator? level = none := by
  rcases Cursor.findsAlike_operator? embedding.symbol level like with
    ⟨_, otherAbsent⟩ | ⟨_, _, _, ahead, _⟩
  · exact otherAbsent
  · cases absent.symm.trans ahead

theorem number_found {literal : Literal} (like : embedding.Like cursor other)
    (found : Scan.number.run cursor = .ok (some literal) behind) :
    ∃ otherBehind, Scan.number.run other = .ok (some literal) otherBehind ∧
      embedding.Like behind otherBehind := by
  rw [Cursor.run_number] at found
  cases numeral : Lexeme.numeral? cursor.rest with
  | none =>
      rw [numeral] at found
      cases found
  | some digits =>
      rw [numeral] at found
      dsimp only at found
      by_cases malformed : digits.toList.getLast? = some '.'
      · rw [if_pos malformed] at found
        cases found
      · rw [if_neg malformed] at found
        cases found
        refine ⟨_, ?_, embedding.behind like (.numeral numeral)⟩
        rw [Cursor.run_number, embedding.numeral like numeral]
        dsimp only
        rw [if_neg malformed]

theorem string_found {contents : String} (like : embedding.Like cursor other)
    (found : Scan.string.run cursor = .ok (some contents) behind) :
    ∃ otherBehind, Scan.string.run other = .ok (some contents) otherBehind ∧
      embedding.Like behind otherBehind := by
  obtain ⟨body, ahead⟩ := List.head?_eq_some_iff.1 (Cursor.string_some found).1
  cases closed : Lexeme.stringBody? body with
  | none =>
      rw [Cursor.string_unclosed ahead closed] at found
      cases found
  | some pair =>
      obtain ⟨inner, length⟩ := pair
      rw [Cursor.string_closed ahead closed] at found
      cases found
      obtain ⟨otherBody, otherAhead, otherClosed⟩ :=
        embedding.string like ahead closed
      refine ⟨_, Cursor.string_closed otherAhead otherClosed,
        embedding.behind like ?_⟩
      rw [ahead]
      exact .string closed

end Embedding

end Minilang
