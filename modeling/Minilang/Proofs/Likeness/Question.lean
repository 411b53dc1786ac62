import Minilang.Proofs.Reading.Ahead
import Minilang.Proofs.Writing.Token

/-!
# Questions about the text ahead

A question asks for a lexeme ahead and finds it with the cursor behind it. Two
cursors may be alike in that the same symbols are ahead of both. Then a question
about a symbol finds the same from both, as `findsAlike_accept?` and
`findsAlike_operator?` say. Questions about a word depend on the word alone:
`asksWord_identifier?`, `asksWord_type?`, `asksWord_formRead?` and
`asksWord_keyword?`.
-/

namespace Minilang

namespace Lexeme

/-- A lexeme of so many characters is at the head of the text. -/
inductive IsAhead : Nat → List Char → Prop where
  | word {word : String} {text : List Char} :
      word? text = some word → IsAhead word.length text
  | symbol {symbol : String} {text : List Char} :
      symbol ∈ Token.symbols → symbol.toList <+: text →
        IsAhead symbol.length text
  | numeral {digits : String} {text : List Char} :
      numeral? text = some digits → IsAhead digits.length text
  | string {body contents : List Char} {length : Nat} :
      stringBody? body = some (contents, length) →
        IsAhead (length + 1) ('"' :: body)

end Lexeme

namespace Cursor

variable {α : Type}

/-- The question finds the same lexeme ahead of two cursors that are alike, or
none of both. -/
def FindsAlike (Like : Cursor → Cursor → Prop)
    (lexeme? : Cursor → Option (α × Cursor)) : Prop :=
  ∀ {cursor other : Cursor}, Like cursor other →
    (lexeme? cursor = none ∧ lexeme? other = none) ∨
      ∃ value count, Lexeme.IsAhead count cursor.rest ∧
        lexeme? cursor = some (value, cursor.advance count) ∧
        lexeme? other = some (value, other.advance count)

/-- The same symbols are ahead of two cursors that are alike. -/
def SameSymbols (Like : Cursor → Cursor → Prop) : Prop :=
  ∀ {cursor other : Cursor} {text : String}, Like cursor other →
    text ∈ Token.symbols →
    (text.toList <+: cursor.rest ↔ text.toList <+: other.rest)

section Symbols

variable {Like : Cursor → Cursor → Prop} (sameSymbols : SameSymbols Like)

include sameSymbols

/-- Cursors that are alike have to show the same symbols, not the same
characters. -/
theorem findsAlike_accept? {text : String} (isSymbol : text ∈ Token.symbols) :
    FindsAlike Like fun cursor => (cursor.accept? text).map (((), ·)) := by
  intro cursor other cursors
  dsimp only
  have same := sameSymbols cursors isSymbol
  by_cases ahead : text.toList <+: cursor.rest
  · refine Or.inr ⟨(), text.length, .symbol isSymbol ahead, ?_, ?_⟩
    · rw [accept?_eq_some.2 ⟨ahead, rfl⟩, Option.map_some]
    · rw [accept?_eq_some.2 ⟨same.1 ahead, rfl⟩, Option.map_some]
  · have otherAbsent : ¬ text.toList <+: other.rest :=
      fun otherAhead => ahead (same.2 otherAhead)
    rw [accept?_eq_none.2 ahead, accept?_eq_none.2 otherAbsent]
    exact Or.inl ⟨rfl, rfl⟩

theorem findsAlike_operator? (level : Level) :
    FindsAlike Like (operator? level) := by
  intro cursor other cursors
  unfold operator?
  induction level.operators with
  | nil => exact Or.inl ⟨rfl, rfl⟩
  | cons operator others inductionHypothesis =>
      rw [List.findSome?_cons, List.findSome?_cons]
      rcases findsAlike_accept? sameSymbols
        (Token.symbol_mem_symbols operator) cursors with
        ⟨absent, otherAbsent⟩ | ⟨_, count, isAhead, ahead, otherAhead⟩
      · rw [Option.map_eq_none_iff] at absent otherAbsent
        rw [absent, otherAbsent]
        exact inductionHypothesis
      · obtain ⟨_, accepted, same⟩ := Option.map_eq_some_iff.1 ahead
        obtain ⟨_, otherAccepted, otherSame⟩ :=
          Option.map_eq_some_iff.1 otherAhead
        cases same
        cases otherSame
        rw [accepted, otherAccepted]
        exact Or.inr ⟨operator, count, isAhead, rfl, rfl⟩

end Symbols

/-- The question finds a value if a word that names it is ahead. -/
def AsksWord (names : α → String → Prop)
    (lexeme? : Cursor → Option (α × Cursor)) : Prop :=
  ∀ {cursor behind : Cursor} {value : α},
    lexeme? cursor = some (value, behind) ↔
    ∃ word, cursor.word? = some word ∧ names value word ∧
      cursor.advance word.length = behind

theorem asksWord_identifier? :
    AsksWord (fun name word => name = word ∧ Lexeme.isReserved word = false)
      identifier? := by
  intro cursor behind name
  rw [identifier?_eq_some]
  constructor
  · intro parts
    obtain ⟨ahead, free, moved⟩ := parts
    exact ⟨name, ahead, ⟨rfl, free⟩, moved⟩
  · intro parts
    obtain ⟨word, ahead, ⟨same, free⟩, moved⟩ := parts
    subst same
    exact ⟨ahead, free, moved⟩

theorem asksWord_type? :
    AsksWord (fun type word => (word, type) ∈ DataType.words) type? := by
  intro cursor behind type
  rw [type?_eq_some]
  constructor
  · intro parts
    obtain ⟨⟨word, named⟩, member, same, ahead, moved⟩ := parts
    subst same
    exact ⟨word, ahead, member, moved⟩
  · intro parts
    obtain ⟨word, ahead, member, moved⟩ := parts
    exact ⟨(word, type), member, rfl, ahead, moved⟩

theorem asksWord_formRead? :
    AsksWord (fun form word => form.word = word) Grammar.Form.read? := by
  intro cursor behind form
  rw [formRead?_eq_some]
  constructor
  · intro parts
    exact ⟨form.word, parts.1, rfl, parts.2⟩
  · intro parts
    obtain ⟨word, ahead, same, moved⟩ := parts
    subst same
    exact ⟨ahead, moved⟩

theorem asksWord_keyword? {word : String} (isWord : Lexeme.IsWord word) :
    AsksWord (fun _ other => other = word) fun cursor =>
      (cursor.keyword? word).map (((), ·)) := by
  intro cursor behind _
  rw [Option.map_eq_some_iff]
  constructor
  · intro parts
    obtain ⟨there, ahead, same⟩ := parts
    cases same
    obtain ⟨isAhead, moved⟩ := (keyword?_eq_some isWord).1 ahead
    exact ⟨word, isAhead, rfl, moved⟩
  · intro parts
    obtain ⟨other, isAhead, same, moved⟩ := parts
    subst same
    exact ⟨behind, (keyword?_eq_some isWord).2 ⟨isAhead, moved⟩, rfl⟩

/-- A question about the word ahead finds the same from two cursors with the
same word ahead. -/
theorem AsksWord.findsAlike {Like : Cursor → Cursor → Prop}
    {names : α → String → Prop} {lexeme? : Cursor → Option (α × Cursor)}
    (asks : AsksWord names lexeme?)
    (sameWord : ∀ {cursor other : Cursor}, Like cursor other →
      cursor.word? = other.word?) :
    FindsAlike Like lexeme? := by
  intro cursor other cursors
  have same := sameWord cursors
  cases ahead : lexeme? cursor with
  | none =>
      refine Or.inl ⟨rfl, ?_⟩
      rw [Option.eq_none_iff_forall_ne_some]
      rintro ⟨value, behind⟩ otherAhead
      obtain ⟨word, isWord, named, _⟩ := asks.1 otherAhead
      have present := asks.2 ⟨word, same.trans isWord, named, rfl⟩
      rw [ahead] at present
      cases present
  | some entry =>
      obtain ⟨value, behind⟩ := entry
      obtain ⟨word, isWord, named, behindWord⟩ := asks.1 ahead
      subst behindWord
      exact Or.inr ⟨value, word.length, .word isWord, rfl,
        asks.2 ⟨word, same.symm.trans isWord, named, rfl⟩⟩

theorem string_closed {cursor : Cursor} {body contents : List Char}
    {length : Nat}
    (ahead : cursor.rest = '"' :: body)
    (closed : Lexeme.stringBody? body = some (contents, length)) :
    Scan.string.run cursor =
      .ok (some (String.ofList contents)) (cursor.advance (length + 1)) := by
  rw [run_string]
  split
  · rename_i same
    cases ahead.symm.trans same
    rw [closed]
  · rename_i noQuote
    exact absurd ahead (noQuote body)

/-- A string without an end uses up the source. -/
theorem string_unclosed {cursor : Cursor} {body : List Char}
    (ahead : cursor.rest = '"' :: body)
    (unclosed : Lexeme.stringBody? body = none) :
    Scan.string.run cursor =
      .error ⟨.unterminatedString, cursor.position⟩
        (cursor.drop cursor.rest.length) := by
  rw [run_string]
  split
  · rename_i same
    cases ahead.symm.trans same
    rw [unclosed]
  · rename_i noQuote
    exact absurd ahead (noQuote body)

end Cursor

end Minilang
