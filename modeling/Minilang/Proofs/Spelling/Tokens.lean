import Minilang.Proofs.Reading.Statement
import Minilang.Proofs.Writing.Rendering

/-!
# The tokens of a source

A source is split into tokens by taking the longest token ahead again and again,
with the trivia behind it. `Cursor.Splits` says that this leads from one cursor
to another, and `Cursor.tokens?` computes it up to the end of the source. Every
lexeme that the grammar asks for is such a token: `splits_of_word?`,
`splits_of_number`, `splits_of_string` and `splits_of_accept?`.
-/

namespace Minilang

namespace Token

/-- The symbols, those of two characters first. -/
def longestFirst : List String :=
  ["<=", ">=", "==", "!=", "<", ">", "=", "+", "-", "*", "/", "^", "(", ")",
    "\x7b", "\x7d", ","]

/-- The longest symbol at the head of the text. -/
def symbol? (text : List Char) : Option String :=
  longestFirst.find? fun symbol => symbol.toList.isPrefixOf text

/-- The contents of the string at the head of the text, with the number of its
characters. -/
def string? : List Char → Option (String × Nat)
  | '"' :: body =>
      (Lexeme.stringBody? body).map fun (contents, length) =>
        (String.ofList contents, length + 1)
  | _ => none

/-- The longest token at the head of the text, with the number of its
characters. -/
def ahead? (text : List Char) : Option (Token × Nat) :=
  match Lexeme.word? text with
  | some name => some (.word name, name.length)
  | none =>
      match Lexeme.numeral? text with
      | some digits => some (.number digits, digits.length)
      | none =>
          match string? text with
          | some (contents, length) => some (.string contents, length)
          | none =>
              (symbol? text).map fun symbol => (.symbol symbol, symbol.length)

/-- The characters with which the token begins: all of them, but of a string
only the quote. -/
def beginning : Token → List Char
  | word text | number text | symbol text => text.toList
  | string _ => ['"']

variable {text : List Char}

theorem mem_longestFirst_iff {symbol : String} :
    symbol ∈ longestFirst ↔ symbol ∈ symbols := by
  have forth : ∀ symbol ∈ longestFirst, symbol ∈ symbols := by decide +kernel
  have back : ∀ symbol ∈ symbols, symbol ∈ longestFirst := by decide +kernel
  exact ⟨forth symbol, back symbol⟩

theorem symbol?_eq_some {symbol : String} (isSymbol : symbol ∈ symbols)
    (ahead : symbol.toList <+: text)
    (longest : ∀ other ∈ symbols, other.toList <+: text →
      other.length ≤ symbol.length) :
    symbol? text = some symbol := by
  have sorted : longestFirst.Pairwise fun first second =>
    second.length ≤ first.length := by
    decide +kernel
  have member := mem_longestFirst_iff.2 isSymbol
  cases found : symbol? text with
  | none =>
      have absent := List.find?_eq_none.1 found symbol member
      exact absurd (List.isPrefixOf_iff_prefix.2 ahead) absent
  | some other =>
      obtain ⟨otherAhead, before, behind, split, noneBefore⟩ :=
        List.find?_eq_some_iff_append.1 found
      rw [List.isPrefixOf_iff_prefix] at otherAhead
      rw [split, List.mem_append, List.mem_cons] at member
      rcases member with earlier | rfl | later
      · have absent := noneBefore symbol earlier
        rw [Bool.not_eq_true', ← Bool.not_eq_true,
          List.isPrefixOf_iff_prefix] at absent
        exact absurd ahead absent
      · rfl
      · have otherMember : other ∈ symbols := by
          rw [← mem_longestFirst_iff, split]
          exact List.mem_append_right before List.mem_cons_self
        have notLonger := longest other otherMember otherAhead
        rw [split, List.pairwise_append, List.pairwise_cons] at sorted
        have notShorter := sorted.2.1.1 symbol later
        have sameLength : symbol.toList.length = other.toList.length := by
          rw [String.length_toList, String.length_toList]
          omega
        have within :=
          List.prefix_of_prefix_length_le otherAhead ahead
            (Nat.le_of_eq sameLength.symm)
        exact congrArg some
          (String.toList_inj.1 (within.eq_of_length sameLength.symm))

theorem ahead?_word {word : String} (found : Lexeme.word? text = some word) :
    ahead? text = some (.word word, word.length) := by
  rw [ahead?, found]

theorem ahead?_number {digits : String}
    (found : Lexeme.numeral? text = some digits) :
    ahead? text = some (.number digits, digits.length) := by
  obtain ⟨⟨c, head, digit⟩, _⟩ := Cursor.isDigit_of_numeral? found
  have noLetter : c.isAlpha = false := by
    by_contra letter
    rw [Bool.not_eq_false] at letter
    rw [Lexeme.isDigit_of_isAlpha letter] at digit
    cases digit
  rw [ahead?, Lexeme.word?_eq_none_of_head? head noLetter, found]

theorem numeral?_eq_none_of_head? {c : Char} (head : text.head? = some c)
    (noDigit : c.isDigit = false) : Lexeme.numeral? text = none := by
  rw [Option.eq_none_iff_forall_ne_some]
  intro digits found
  obtain ⟨⟨d, same, digit⟩, _⟩ := Cursor.isDigit_of_numeral? found
  obtain rfl := Option.some.inj (head.symm.trans same)
  rw [noDigit] at digit
  cases digit

theorem string?_eq_none_of_head? {c : Char} (head : text.head? = some c)
    (noQuote : c ≠ '"') :
    string? text = none := by
  rw [string?]
  rintro body rfl
  exact noQuote (Option.some.inj head).symm

theorem prefix_of_numeral? {digits : String}
    (found : Lexeme.numeral? text = some digits) :
    digits.toList <+: text := by
  have split : text.takeWhile Char.isDigit ++
      text.dropWhile Char.isDigit = text :=
    List.takeWhile_append_dropWhile
  rw [Lexeme.numeral?] at found
  split at found
  · cases found
  · split at found
    · rename_i rest point
      cases found
      have fraction : '.' :: rest.takeWhile Char.isDigit <+: '.' :: rest :=
        List.cons_prefix_cons.2 ⟨rfl, List.takeWhile_prefix _⟩
      have within :=
        (List.prefix_append_right_inj (text.takeWhile Char.isDigit)).2 fraction
      rw [← point, split] at within
      rwa [String.toList_ofList]
    · cases found
      rw [String.toList_ofList]
      exact List.takeWhile_prefix _

theorem ahead?_string {body contents : List Char} {length : Nat}
    (closed : Lexeme.stringBody? body = some (contents, length)) :
    ahead? ('"' :: body) =
      some (.string (String.ofList contents), length + 1) := by
  have noWord : Lexeme.word? ('"' :: body) = none :=
    Lexeme.word?_eq_none_of_head? rfl (by decide)
  have noNumeral : Lexeme.numeral? ('"' :: body) = none :=
    numeral?_eq_none_of_head? rfl (by decide)
  rw [ahead?, noWord, noNumeral, string?, closed]
  rfl

/-- A symbol is a token if no longer one begins with it there. -/
theorem ahead?_symbol {symbol : String} (isSymbol : symbol ∈ symbols)
    (found : symbol? text = some symbol) :
    ahead? text = some (.symbol symbol, symbol.length) := by
  have ahead : symbol.toList <+: text := by
    have satisfied := List.find?_some found
    exact List.isPrefixOf_iff_prefix.1 satisfied
  obtain ⟨c, rest, characters, begins⟩ :=
    @chars_eq_cons (.symbol symbol) isSymbol
  have first : symbol.toList = c :: rest := characters
  have head : text.head? = some c := by
    obtain ⟨behind, rfl⟩ := ahead
    rw [first]
    rfl
  have foreign : ∀ other : Token, other.Begins c →
      ∃ same, other = .symbol same :=
    fun _ otherBegins => eq_symbol_of_begins isSymbol begins otherBegins
  have noLetter : c.isAlpha = false := by
    by_contra letter
    rw [Bool.not_eq_false] at letter
    obtain ⟨_, impossible⟩ := foreign (.word "") letter
    cases impossible
  have noDigit : c.isDigit = false := by
    by_contra digit
    rw [Bool.not_eq_false] at digit
    obtain ⟨_, impossible⟩ := foreign (.number "") digit
    cases impossible
  have noQuote : c ≠ '"' := by
    intro quote
    obtain ⟨_, impossible⟩ := foreign (.string "") quote
    cases impossible
  rw [ahead?, Lexeme.word?_eq_none_of_head? head noLetter,
    numeral?_eq_none_of_head? head noDigit,
    string?_eq_none_of_head? head noQuote, found]
  rfl

/-- Only an equals sign makes a symbol longer. -/
theorem eq_append_of_longer {symbol other : String}
    (isSymbol : symbol ∈ symbols)
    (otherSymbol : other ∈ symbols) (within : symbol.toList <+: other.toList)
    (longer : symbol.length < other.length) : other = symbol ++ "=" := by
  have pairs : ∀ symbol ∈ symbols, ∀ other ∈ symbols,
      symbol.toList.isPrefixOf other.toList →
      symbol.length < other.length → other = symbol ++ "=" := by
    decide +kernel
  exact pairs symbol isSymbol other otherSymbol
    (List.isPrefixOf_iff_prefix.2 within) longer

theorem beginning_of_string? {contents : String} {length : Nat}
    (found : string? text = some (contents, length)) :
    0 < length ∧ ['"'] <+: text := by
  rw [string?.eq_def] at found
  split at found
  · obtain ⟨⟨inner, size⟩, _, same⟩ := Option.map_eq_some_iff.1 found
    cases same
    exact ⟨Nat.succ_pos _, ⟨_, rfl⟩⟩
  · cases found

/-- What is ahead is at least one character long, and the text begins with
it. -/
theorem beginning_of_ahead? {token : Token} {length : Nat}
    (ahead : ahead? text = some (token, length)) :
    0 < length ∧ token.beginning <+: text := by
  rw [ahead?] at ahead
  split at ahead
  · rename_i word found
    cases ahead
    have run := Lexeme.toList_of_word? found
    refine ⟨(Lexeme.isWord_of_word? found).length_pos, ?_⟩
    rw [beginning, run]
    exact List.takeWhile_prefix _
  · split at ahead
    · rename_i digits found
      cases ahead
      exact ⟨(Cursor.isDigit_of_numeral? found).2, prefix_of_numeral? found⟩
    · split at ahead
      · rename_i contents size found
        cases ahead
        exact beginning_of_string? found
      · obtain ⟨symbol, found, same⟩ := Option.map_eq_some_iff.1 ahead
        cases same
        have member := mem_longestFirst_iff.1 (List.mem_of_find?_eq_some found)
        have nonempty : ∀ symbol ∈ symbols, 0 < symbol.length := by
          decide +kernel
        have satisfied := List.find?_some found
        exact ⟨nonempty symbol member, List.isPrefixOf_iff_prefix.1 satisfied⟩

structure Placed where
  token : Token
  position : Position
deriving DecidableEq, Repr

end Token

namespace Cursor

open Token

variable {start middle stop behind : Cursor}

/-! ## Splitting a source -/

/-- No token is empty, so that taking tokens comes to an end. -/
theorem length_lt_of_ahead? {token : Token} {length : Nat}
    (ahead : ahead? start.rest = some (token, length)) :
    (start.advance length).rest.length < start.rest.length := by
  obtain ⟨moves, begins⟩ := beginning_of_ahead? ahead
  refine length_advance_lt moves fun empty => ?_
  rw [empty, List.prefix_nil] at begins
  rw [empty] at ahead
  cases ahead

/-- The tokens from the cursor to the end of the source, each the longest that
is ahead. Trivia between them is dropped. Nothing if no token is ahead before
the end. -/
def tokens? (cursor : Cursor) : Option (List Placed) :=
  if cursor.atEnd then some []
  else
    match _ahead : ahead? cursor.rest with
    | none => none
    | some (token, length) =>
        ((cursor.advance length).tokens?).map (⟨token, cursor.position⟩ :: ·)
termination_by cursor.rest.length
decreasing_by exact length_lt_of_ahead? _ahead

/-- The text between the cursors consists of the tokens, with trivia behind
each. -/
inductive Splits : Cursor → List Placed → Cursor → Prop where
  | stop {cursor : Cursor} : Splits cursor [] cursor
  | token {token : Token} {length : Nat} {others : List Placed}
      {start stop : Cursor} :
      ahead? start.rest = some (token, length) →
      Splits (start.advance length) others stop →
      Splits start (⟨token, start.position⟩ :: others) stop

theorem Splits.single {token : Token} {length : Nat}
    (ahead : ahead? start.rest = some (token, length)) :
    Splits start [⟨token, start.position⟩] (start.advance length) :=
  .token ahead .stop

theorem Splits.append {first second : List Placed}
    (before : Splits start first middle)
    (after : Splits middle second stop) :
    Splits start (first ++ second) stop := by
  induction before with
  | stop => exact after
  | token ahead _ inductionHypothesis =>
      exact .token ahead (inductionHypothesis after)

/-- A split that reaches the end of the source is the one that is computed. -/
theorem tokens?_of_splits {placed : List Placed}
    (splits : Splits start placed stop)
    (ends : stop.rest = []) : start.tokens? = some placed := by
  induction splits with
  | stop =>
      have atEnd : Cursor.atEnd _ = true := List.isEmpty_iff.2 ends
      rw [tokens?, if_pos atEnd]
  | @token token length others start stop ahead _ inductionHypothesis =>
      have goesOn : ¬ start.atEnd = true := by
        rw [atEnd, List.isEmpty_iff]
        intro empty
        rw [empty] at ahead
        cases ahead
      rw [tokens?, if_neg goesOn]
      split
      · rename_i absent
        rw [ahead] at absent
        cases absent
      · rename_i found
        rw [ahead] at found
        cases found
        rw [inductionHypothesis ends, Option.map_some]

/-- A word that the grammar finds is a token, reserved or not. -/
theorem splits_of_word? {word : String} (found : start.word? = some word) :
    Splits start [⟨.word word, start.position⟩] (start.advance word.length) :=
  .single (ahead?_word found)

theorem splits_of_identifier? {name : String}
    (found : start.identifier? = some (name, behind)) :
    Splits start [⟨.word name, start.position⟩] behind := by
  obtain ⟨ahead, _, rfl⟩ := identifier?_eq_some.1 found
  exact splits_of_word? ahead

theorem splits_of_keyword? {word : String} (isWord : Lexeme.IsWord word)
    (found : start.keyword? word = some behind) :
    Splits start [⟨.word word, start.position⟩] behind := by
  obtain ⟨ahead, rfl⟩ := (keyword?_eq_some isWord).1 found
  exact splits_of_word? ahead

theorem splits_of_formRead? {form : Grammar.Form}
    (found : Grammar.Form.read? start = some (form, behind)) :
    Splits start [⟨.word form.word, start.position⟩] behind := by
  obtain ⟨ahead, rfl⟩ := formRead?_eq_some.1 found
  exact splits_of_word? ahead

theorem splits_of_type? {type : DataType}
    (found : start.type? = some (type, behind)) :
    Splits start [⟨.word type.word, start.position⟩] behind := by
  obtain ⟨entry, member, rfl, ahead, rfl⟩ := type?_eq_some.1 found
  have named : ∀ entry ∈ DataType.words, entry.2.word = entry.1 := by
    decide +kernel
  rw [named entry member]
  exact splits_of_word? ahead

theorem splits_of_number {literal : Literal}
    (found : Scan.number.run start = .ok (some literal) behind) :
    Splits start [⟨literal.token, start.position⟩] behind := by
  rw [run_number] at found
  cases numeral : Lexeme.numeral? start.rest with
  | none =>
      rw [numeral] at found
      cases found
  | some digits =>
      simp only [numeral] at found
      split at found
      · cases found
      · cases found
        have token : (if '.' ∈ digits.toList then Literal.float digits
            else Literal.integer digits).token = .number digits := by
          split <;> rfl
        rw [token]
        exact .single (ahead?_number numeral)

theorem splits_of_string {contents : String}
    (found : Scan.string.run start = .ok (some contents) behind) :
    Splits start [⟨.string contents, start.position⟩] behind := by
  rw [run_string] at found
  split at found
  · rename_i body ahead
    split at found
    · rename_i closed
      cases found
      refine .single ?_
      rw [ahead]
      exact ahead?_string closed
    · cases found
  · cases found

/-- A symbol that is found is the longest ahead, unless an equals sign behind it
makes a longer one. -/
theorem splits_of_accept? {text : String} (isSymbol : text ∈ symbols)
    (found : start.accept? text = some behind)
    (noEquals : text ++ "=" ∈ symbols → behind.rest.head? ≠ some '=') :
    Splits start [⟨.symbol text, start.position⟩] behind := by
  obtain ⟨ahead, rfl⟩ := accept?_eq_some.1 found
  refine .single (ahead?_symbol isSymbol (symbol?_eq_some isSymbol ahead ?_))
  intro other otherSymbol otherAhead
  by_contra longer
  rw [Nat.not_le] at longer
  have within : text.toList <+: other.toList := by
    refine List.prefix_of_prefix_length_le ahead otherAhead ?_
    rw [String.length_toList, String.length_toList]
    exact Nat.le_of_lt longer
  obtain rfl := eq_append_of_longer isSymbol otherSymbol within longer
  obtain ⟨rest, split⟩ := otherAhead
  have equals : ("=" : String).toList = ['='] := rfl
  rw [String.toList_append, equals, List.append_assoc,
    List.singleton_append] at split
  have next : start.rest.drop text.length = '=' :: rest := by
    rw [← split, ← String.length_toList, List.drop_left]
  have noTrivia : Lexeme.triviaLength ('=' :: rest) = 0 :=
    Lexeme.triviaLength_of_graphic (by decide) fun same =>
      absurd same (by decide)
  have head : (start.advance text.length).rest = '=' :: rest := by
    simp only [advance, skipTrivia, drop, next, noTrivia, List.drop_zero]
  apply noEquals otherSymbol
  rw [head]
  rfl

/-- The brackets and the comma are no beginnings of longer symbols. -/
theorem splits_of_bracket? {text : String}
    (isBracket : text ∈ ["(", ")", "\x7b", "\x7d", ","])
    (found : start.accept? text = some behind) :
    Splits start [⟨.symbol text, start.position⟩] behind := by
  have alone : ∀ text ∈ ["(", ")", "\x7b", "\x7d", ","],
      text ∈ symbols ∧ text ++ "=" ∉ symbols := by
    decide +kernel
  obtain ⟨isSymbol, notLonger⟩ := alone text isBracket
  exact splits_of_accept? isSymbol found fun longer => absurd longer notLonger

end Cursor

end Minilang
