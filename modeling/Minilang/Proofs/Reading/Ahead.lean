import Mathlib.Data.List.TakeWhile
import Minilang.Grammar.Statement

/-!
# What stands ahead of a cursor

A lexeme is found by looking at the text ahead. The lemmas say what that text
must begin with for each lexeme to be found, and that finding one shortens the
text. Reserved words and identifiers follow one rule, `keyword?_eq`: the longest
word ahead decides.
-/

namespace Minilang

namespace Lexeme

/-- The text is a word from its first to its last character. -/
def IsWord (word : String) : Prop :=
  word? word.toList = some word

instance (word : String) : Decidable (IsWord word) :=
  inferInstanceAs (Decidable (word? word.toList = some word))

theorem isWordChar_iff {c : Char} :
    isWordChar c = true ↔ c.isAlpha = true ∨ c.isDigit = true ∨ c = '_' := by
  rw [isWordChar, Bool.or_eq_true, Bool.or_eq_true, beq_iff_eq, or_assoc]

theorem isWordChar_of_isAlpha {c : Char} (letter : c.isAlpha = true) :
    isWordChar c = true :=
  isWordChar_iff.2 (.inl letter)

theorem isAlpha_iff {c : Char} :
    c.isAlpha = true ↔
      ('A'.val.toNat ≤ c.val.toNat ∧ c.val.toNat ≤ 'Z'.val.toNat) ∨
        ('a'.val.toNat ≤ c.val.toNat ∧ c.val.toNat ≤ 'z'.val.toNat) := by
  unfold Char.isAlpha Char.isUpper Char.isLower
  simp only [Bool.or_eq_true, Bool.and_eq_true, decide_eq_true_eq, ge_iff_le,
    UInt32.le_iff_toNat_le]

theorem isDigit_of_isAlpha {c : Char} (letter : c.isAlpha = true) :
    c.isDigit = false := by
  have order : '9'.val.toNat < 'A'.val.toNat ∧
      'A'.val.toNat < 'a'.val.toNat := by decide
  have range := isAlpha_iff.1 letter
  simp only [Char.isDigit, Bool.and_eq_false_iff, decide_eq_false_iff_not,
    ge_iff_le, UInt32.le_iff_toNat_le]
  omega

theorem word?_cons_of_isAlpha {c : Char} (letter : c.isAlpha = true)
    (rest : List Char) :
    word? (c :: rest) =
      some (String.ofList ((c :: rest).takeWhile isWordChar)) := by
  rw [List.takeWhile_cons_of_pos (isWordChar_of_isAlpha letter), word?,
    if_pos letter]

theorem isAlpha_of_word? {word : String} {text : List Char}
    (found : word? text = some word) :
    ∃ c rest, text = c :: rest ∧ c.isAlpha = true := by
  cases text with
  | nil => cases found
  | cons c rest =>
      refine ⟨c, rest, rfl, ?_⟩
      by_contra notLetter
      rw [word?, if_neg notLetter] at found
      cases found

theorem word?_eq_none_of_head? {text : List Char} {c : Char}
    (head : text.head? = some c)
    (notLetter : c.isAlpha = false) : word? text = none := by
  cases text with
  | nil => rfl
  | cons first rest =>
      cases head
      simp [word?, notLetter]

/-- The characters of the word ahead are the longest run of word characters. -/
theorem toList_of_word? {word : String} {text : List Char}
    (found : word? text = some word) :
    word.toList = text.takeWhile isWordChar := by
  obtain ⟨c, rest, rfl, letter⟩ := isAlpha_of_word? found
  rw [word?_cons_of_isAlpha letter] at found
  cases found
  exact String.toList_ofList

theorem isWord_of_characters {word : String} {letter : Char}
    {others : List Char} (characters : word.toList = letter :: others)
    (isLetter : letter.isAlpha = true)
    (inside : ∀ c ∈ others, isWordChar c = true) : IsWord word := by
  have run : (letter :: others).takeWhile isWordChar = letter :: others := by
    rw [List.takeWhile_eq_self_iff]
    exact List.forall_mem_cons.2 ⟨isWordChar_of_isAlpha isLetter, inside⟩
  rw [IsWord, characters, word?_cons_of_isAlpha isLetter, run, ← characters,
    String.ofList_toList]

theorem isWord_of_word? {word : String} {text : List Char}
    (found : word? text = some word) :
    IsWord word := by
  obtain ⟨c, rest, rfl, letter⟩ := isAlpha_of_word? found
  have characters := toList_of_word? found
  rw [List.takeWhile_cons_of_pos (isWordChar_of_isAlpha letter)] at characters
  exact isWord_of_characters characters letter fun d member =>
    List.mem_takeWhile_imp member

theorem IsWord.isAlpha_head {word : String} (isWord : IsWord word) :
    ∃ c rest, word.toList = c :: rest ∧ c.isAlpha = true :=
  isAlpha_of_word? isWord

theorem IsWord.isWordChar_of_mem {word : String} (isWord : IsWord word)
    {c : Char} (member : c ∈ word.toList) : isWordChar c = true := by
  have run := toList_of_word? isWord
  rw [run] at member
  exact List.mem_takeWhile_imp member

/-- The form of a word: a letter, and then letters, digits and underscores. -/
def HasWordForm (word : String) : Prop :=
  ∃ letter others, word.toList = letter :: others ∧ letter.isAlpha = true ∧
    ∀ c ∈ others, c.isAlpha = true ∨ c.isDigit = true ∨ c = '_'

theorem hasWordForm_iff {word : String} : HasWordForm word ↔ IsWord word := by
  constructor
  · intro form
    obtain ⟨letter, others, characters, isLetter, inside⟩ := form
    exact isWord_of_characters characters isLetter fun c member =>
      isWordChar_iff.2 (inside c member)
  · intro isWord
    obtain ⟨letter, others, characters, isLetter⟩ := isWord.isAlpha_head
    refine ⟨letter, others, characters, isLetter, fun c member =>
      isWordChar_iff.1 ?_⟩
    apply isWord.isWordChar_of_mem
    rw [characters]
    exact List.mem_cons_of_mem letter member

theorem IsWord.length_pos {word : String} (isWord : IsWord word) :
    0 < word.length := by
  obtain ⟨c, rest, characters, _⟩ := isWord.isAlpha_head
  rw [← String.length_toList, characters]
  exact Nat.succ_pos _

/-- A word is ahead when its characters are, and no word character follows
them. -/
theorem word?_append {word : String} (isWord : IsWord word) {rest : List Char}
    (ends : ∀ c ∈ rest.head?, isWordChar c = false) :
    word? (word.toList ++ rest) = some word := by
  obtain ⟨c, others, characters, letter⟩ := isWord.isAlpha_head
  have notContinued : rest.takeWhile isWordChar = [] := by
    cases rest with
    | nil => rfl
    | cons d more => rw [List.takeWhile_cons_of_neg (by simp [ends d rfl])]
  have run : (word.toList ++ rest).takeWhile isWordChar = word.toList := by
    rw [List.takeWhile_append_of_pos (fun d member => isWord.isWordChar_of_mem
      member), notContinued, List.append_nil]
  rw [characters, List.cons_append] at run ⊢
  rw [word?_cons_of_isAlpha letter, run, ← characters, String.ofList_toList]

/-- A word is ahead if its characters are and no further one goes on with it. -/
theorem word?_eq_some_iff {word : String} {text : List Char}
    (isWord : IsWord word) :
    word? text = some word ↔
      word.toList <+: text ∧ ∀ c ∈ (text.drop word.length).head?,
      isWordChar c = false := by
  constructor
  · intro found
    have run := toList_of_word? found
    have split : word.toList ++ text.dropWhile isWordChar = text := by
      rw [run, List.takeWhile_append_dropWhile]
    refine ⟨⟨_, split⟩, ?_⟩
    have behind : text.drop word.length = text.dropWhile isWordChar := by
      have dropped := @List.drop_left _ word.toList (text.dropWhile isWordChar)
      rwa [split, String.length_toList] at dropped
    rw [behind]
    intro c head
    have stops := List.head?_dropWhile_not isWordChar text
    rw [Option.mem_def.1 head] at stops
    exact stops
  · intro parts
    obtain ⟨⟨rest, rfl⟩, ends⟩ := parts
    rw [← String.length_toList, List.drop_left] at ends
    exact word?_append isWord ends

end Lexeme

namespace Cursor

open Lexeme

variable {cursor behind : Cursor}

/-- A symbol is found by its characters alone, whatever follows them. -/
theorem accept?_eq_some {text : String} :
    cursor.accept? text = some behind ↔
      text.toList <+: cursor.rest ∧ cursor.advance text.length = behind := by
  simp [accept?]

theorem accept?_eq_none {text : String} :
    cursor.accept? text = none ↔ ¬ text.toList <+: cursor.rest := by
  simp [accept?]

theorem head?_of_accept? {text : String} {c : Char}
    (found : cursor.accept? text = some behind)
    (begins : text.toList.head? = some c) : cursor.rest.head? = some c := by
  obtain ⟨⟨rest, split⟩, _⟩ := accept?_eq_some.1 found
  rw [← split, List.head?_append, begins, Option.some_or]

theorem accept?_eq_none_of_head? {text : String} {c : Char}
    (begins : text.toList.head? = some c)
    (different : cursor.rest.head? ≠ some c) : cursor.accept? text = none := by
  rw [Option.eq_none_iff_forall_ne_some]
  intro behind found
  exact different (head?_of_accept? found begins)

/-- Where one text is ahead, no text is that disagrees with it. -/
theorem accept?_eq_none_of_accept? {text : String} (other : String)
    (found : cursor.accept? text = some behind)
    (disagree : ¬ (text.toList <+: other.toList ∨
      other.toList <+: text.toList)) :
    cursor.accept? other = none := by
  rw [accept?_eq_none]
  intro ahead
  exact disagree
    (List.prefix_or_prefix_of_prefix (accept?_eq_some.1 found).1 ahead)

theorem drop_of_split {first second : List Char}
    (ahead : cursor.rest = first ++ second) :
    cursor.drop first.length = ⟨cursor.position.after first, second⟩ := by
  rw [drop, ahead, List.take_left, List.drop_left]

theorem length_advance_lt {count : Nat} (moves : 0 < count)
    (more : cursor.rest ≠ []) :
    (cursor.advance count).rest.length < cursor.rest.length := by
  have bound := cursor.length_advance_le count
  have nonempty := List.length_pos_iff.2 more
  omega

theorem length_lt_of_accept? {text : String}
    (found : cursor.accept? text = some behind)
    (nonempty : text ≠ "") : behind.rest.length < cursor.rest.length := by
  obtain ⟨ahead, rfl⟩ := accept?_eq_some.1 found
  have moves : 0 < text.length := by
    rw [Nat.pos_iff_ne_zero]
    simpa using nonempty
  refine length_advance_lt moves fun empty => ?_
  rw [empty, List.prefix_nil] at ahead
  exact nonempty (by simpa using ahead)

theorem length_lt_of_word? {word : String} (found : cursor.word? = some word) :
    (cursor.advance word.length).rest.length < cursor.rest.length := by
  obtain ⟨c, rest, split, _⟩ := isAlpha_of_word? found
  exact length_advance_lt (isWord_of_word? found).length_pos (by simp [split])

/-- A word that is taken is a text that comes next, whatever characters it
has. -/
theorem accept?_of_keyword? {word : String}
    (found : cursor.keyword? word = some behind) :
    cursor.accept? word = some behind := by
  rw [keyword?] at found
  split at found
  · exact found
  · split at found
    · cases found
    · exact found

/-- A reserved word is taken exactly when it is the longest word ahead. -/
theorem keyword?_eq {word : String} (isWord : IsWord word) :
    cursor.keyword? word =
      if cursor.word? = some word then some (cursor.advance word.length)
      else none := by
  have rule := @word?_eq_some_iff word cursor.rest isWord
  rw [keyword?]
  cases next : (cursor.rest.drop word.length).head? with
  | none =>
      simp only [next, Option.mem_def, reduceCtorEq, false_implies,
        implies_true, and_true] at rule
      simp only [word?, rule, accept?, List.isPrefixOf_iff_prefix]
  | some c =>
      simp only [next, Option.mem_def, Option.some.injEq, forall_eq'] at rule
      cases wordChar : isWordChar c with
      | true =>
          have notAhead : Lexeme.word? cursor.rest ≠ some word := by
            rw [Ne, rule, wordChar]
            simp
          simp [word?, notAhead, wordChar]
      | false =>
          rw [wordChar] at rule
          simp [word?, rule, accept?, wordChar]

/-- A keyword is found where the longest word ahead is the keyword. -/
theorem keyword?_eq_some {word : String} (isWord : IsWord word) :
    cursor.keyword? word = some behind ↔
      cursor.word? = some word ∧ cursor.advance word.length = behind := by
  simp [keyword?_eq isWord]

/-- Of several words the one that is ahead is found, wherever it stands among
them. -/
theorem findSome?_keyword? {β γ : Type} {entries : List β} {word : β → String}
    {value : β → γ} (areWords : ∀ entry ∈ entries, IsWord (word entry))
    (distinct : ∀ first ∈ entries, ∀ second ∈ entries,
      word first = word second → value first = value second)
    {result : γ} :
    entries.findSome?
        (fun entry => (cursor.keyword? (word entry)).map (value entry, ·)) =
        some (result, behind) ↔
      ∃ entry ∈ entries, value entry = result ∧
        cursor.word? = some (word entry) ∧
        cursor.advance (word entry).length = behind := by
  constructor
  · intro found
    obtain ⟨other, member, found⟩ := List.exists_of_findSome?_eq_some found
    obtain ⟨_, accepted, same⟩ := Option.map_eq_some_iff.1 found
    cases same
    exact ⟨other, member, rfl,
      (keyword?_eq_some (areWords other member)).1 accepted⟩
  · intro parts
    obtain ⟨entry, member, rfl, ahead, rfl⟩ := parts
    cases found : entries.findSome? fun entry =>
        (cursor.keyword? (word entry)).map (value entry, ·) with
    | none =>
        have absent := List.findSome?_eq_none_iff.1 found entry member
        rw [keyword?_eq (areWords entry member), if_pos ahead] at absent
        cases absent
    | some pair =>
        obtain ⟨other, otherMember, first⟩ :=
          List.exists_of_findSome?_eq_some found
        obtain ⟨_, accepted, rfl⟩ := Option.map_eq_some_iff.1 first
        obtain ⟨otherAhead, rfl⟩ :=
          (keyword?_eq_some (areWords other otherMember)).1 accepted
        have same : word other = word entry :=
          Option.some.inj (otherAhead.symm.trans ahead)
        rw [distinct other otherMember entry member same, same]

/-- An identifier is found where the longest word ahead is not reserved. -/
theorem identifier?_eq_some {name : String} :
    cursor.identifier? = some (name, behind) ↔
      cursor.word? = some name ∧ isReserved name = false ∧
        cursor.advance name.length = behind := by
  rw [identifier?]
  cases cursor.word? with
  | none => simp
  | some word =>
      cases reserved : isReserved word with
      | true =>
          constructor
          · intro found
            simp [reserved] at found
          · intro parts
            obtain ⟨same, free, _⟩ := parts
            cases same
            rw [reserved] at free
            cases free
      | false =>
          constructor
          · intro found
            simp only [reserved, Bool.false_eq_true, if_false] at found
            cases found
            exact ⟨rfl, reserved, rfl⟩
          · intro parts
            obtain ⟨same, _, rfl⟩ := parts
            cases same
            simp [reserved]

theorem identifier?_eq_none_of_head? {c : Char}
    (head : cursor.rest.head? = some c)
    (notLetter : c.isAlpha = false) : cursor.identifier? = none := by
  rw [identifier?, word?, word?_eq_none_of_head? head notLetter]

theorem type?_eq_some {type : DataType} :
    cursor.type? = some (type, behind) ↔
      ∃ entry ∈ DataType.words, entry.2 = type ∧ cursor.word? = some entry.1 ∧
        cursor.advance entry.1.length = behind :=
  findSome?_keyword? (by decide +kernel) (by decide +kernel)

theorem formRead?_eq_some {form : Grammar.Form} :
    Grammar.Form.read? cursor = some (form, behind) ↔
      cursor.word? = some form.word ∧
      cursor.advance form.word.length = behind := by
  have found : Grammar.Form.read? cursor = some (form, behind) ↔
      ∃ other ∈ Grammar.Form.all, id other = form ∧
        cursor.word? = some other.word ∧
        cursor.advance other.word.length = behind :=
    findSome?_keyword? (by decide +kernel) (by decide +kernel)
  have member : form ∈ Grammar.Form.all := by cases form <;> decide
  refine found.trans ⟨?_, fun ahead => ⟨form, member, rfl, ahead⟩⟩
  intro parts
  obtain ⟨_, _, rfl, ahead⟩ := parts
  exact ahead

/-- The words of types and statements are reserved, so none of them is ahead
where the word ahead, if any, is not. -/
theorem keywords_eq_none
    (free : ∀ word, cursor.word? = some word → isReserved word = false) :
    Grammar.Form.read? cursor = none ∧ cursor.type? = none := by
  constructor
  · rw [Option.eq_none_iff_forall_ne_some]
    rintro ⟨form, behind⟩ found
    have notReserved := free _ (formRead?_eq_some.1 found).1
    cases form <;> exact absurd notReserved (by decide +kernel)
  · rw [Option.eq_none_iff_forall_ne_some]
    rintro ⟨type, behind⟩ found
    obtain ⟨entry, member, _, ahead, _⟩ := type?_eq_some.1 found
    have allReserved : ∀ entry ∈ DataType.words, isReserved entry.1 = true := by
      decide +kernel
    exact absurd (allReserved entry member) (by simp [free _ ahead])

theorem isDigit_of_numeral? {digits : String} {text : List Char}
    (found : numeral? text = some digits) :
    (∃ c ∈ text.head?, c.isDigit = true) ∧ 0 < digits.length := by
  cases text with
  | nil => cases found
  | cons c rest =>
      cases digit : c.isDigit with
      | false => simp [numeral?, digit] at found
      | true =>
          refine ⟨⟨c, rfl, digit⟩, ?_⟩
          rw [numeral?, List.takeWhile_cons_of_pos digit] at found
          simp only at found
          split at found
          all_goals
            cases found
            simp [← String.length_toList]

theorem run_number (cursor : Cursor) :
    Scan.number.run cursor =
      match numeral? cursor.rest with
      | none => .ok none cursor
      | some digits =>
          if digits.toList.getLast? = some '.' then
            .error ⟨.malformedNumber digits, cursor.position⟩ cursor
          else
            .ok (some (if '.' ∈ digits.toList then .float digits
            else .integer digits))
              (cursor.advance digits.length) :=
  rfl

theorem number_none (noDigit : ∀ c ∈ cursor.rest.head?, c.isDigit = false) :
    Scan.number.run cursor = .ok none cursor := by
  have absent : numeral? cursor.rest = none := by
    rw [Option.eq_none_iff_forall_ne_some]
    intro digits found
    obtain ⟨⟨c, head, digit⟩, _⟩ := isDigit_of_numeral? found
    rw [noDigit c head] at digit
    cases digit
  rw [run_number, absent]

theorem eq_of_number_none (absent : Scan.number.run cursor = .ok none behind) :
    behind = cursor := by
  rw [run_number] at absent
  split at absent
  · cases absent
    rfl
  · split at absent <;> cases absent

/-- A number that is found begins with a digit, and the cursor moves over it. -/
theorem number_some {literal : Literal}
    (found : Scan.number.run cursor = .ok (some literal) behind) :
    (∃ c ∈ cursor.rest.head?, c.isDigit = true) ∧
      behind.rest.length < cursor.rest.length := by
  rw [run_number] at found
  cases numeral : numeral? cursor.rest with
  | none =>
      rw [numeral] at found
      cases found
  | some digits =>
      obtain ⟨begins, moves⟩ := isDigit_of_numeral? numeral
      simp only [numeral] at found
      split at found
      · cases found
      · cases found
        refine ⟨begins, length_advance_lt moves fun empty => ?_⟩
        simp [empty] at begins

theorem run_string (cursor : Cursor) :
    Scan.string.run cursor =
      match cursor.rest with
      | '"' :: body =>
          match stringBody? body with
          | some (contents, length) =>
              .ok (some (String.ofList contents)) (cursor.advance (length + 1))
          | none =>
              .error ⟨.unterminatedString, cursor.position⟩
                (cursor.drop cursor.rest.length)
      | _ => .ok none cursor :=
  rfl

theorem string_none (noQuote : cursor.rest.head? ≠ some '"') :
    Scan.string.run cursor = .ok none cursor := by
  rw [run_string]
  split
  · rename_i body split
    exact absurd (by rw [split]; rfl) noQuote
  · rfl

theorem eq_of_string_none (absent : Scan.string.run cursor = .ok none behind) :
    behind = cursor := by
  rw [run_string] at absent
  split at absent
  · split at absent <;> cases absent
  · cases absent
    rfl

/-- A string that is found begins with a quote, and the cursor moves over it. -/
theorem string_some {contents : String}
    (found : Scan.string.run cursor = .ok (some contents) behind) :
    cursor.rest.head? = some '"' ∧ behind.rest.length < cursor.rest.length := by
  rw [run_string] at found
  split at found
  · rename_i body ahead
    split at found
    · cases found
      exact ⟨by rw [ahead]; rfl,
        length_advance_lt (Nat.succ_pos _) (by simp [ahead])⟩
    · cases found
  · cases found

theorem operator?_eq_some {level : Level} {operator : BinaryOperator}
    (found : cursor.operator? level = some (operator, behind)) :
    operator.level = level ∧ cursor.accept? operator.symbol = some behind := by
  obtain ⟨other, member, accepted⟩ := List.exists_of_findSome?_eq_some found
  obtain ⟨_, accepted, same⟩ := Option.map_eq_some_iff.1 accepted
  cases same
  exact ⟨BinaryOperator.mem_operators_iff.1 member, accepted⟩

/-! ## Every lexeme uses up text -/

theorem length_lt_of_keyword? {word : String} (isWord : IsWord word)
    (found : cursor.keyword? word = some behind) :
    behind.rest.length < cursor.rest.length := by
  obtain ⟨ahead, rfl⟩ := (keyword?_eq_some isWord).1 found
  exact length_lt_of_word? ahead

theorem length_lt_of_identifier? {name : String}
    (found : cursor.identifier? = some (name, behind)) :
    behind.rest.length < cursor.rest.length := by
  obtain ⟨ahead, _, rfl⟩ := identifier?_eq_some.1 found
  exact length_lt_of_word? ahead

theorem length_lt_of_type? {type : DataType}
    (found : cursor.type? = some (type, behind)) :
    behind.rest.length < cursor.rest.length := by
  obtain ⟨entry, _, _, ahead, rfl⟩ := type?_eq_some.1 found
  exact length_lt_of_word? ahead

theorem length_lt_of_formRead? {form : Grammar.Form}
    (found : Grammar.Form.read? cursor = some (form, behind)) :
    behind.rest.length < cursor.rest.length := by
  obtain ⟨ahead, rfl⟩ := formRead?_eq_some.1 found
  exact length_lt_of_word? ahead

theorem length_lt_of_operator? {level : Level} {operator : BinaryOperator}
    (found : cursor.operator? level = some (operator, behind)) :
    behind.rest.length < cursor.rest.length := by
  refine length_lt_of_accept? (operator?_eq_some found).2 ?_
  cases operator <;> decide

end Cursor

end Minilang
