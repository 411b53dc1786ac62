import Minilang.Proofs.Scanning.Operations

/-!
# Keywords and identifiers

Two questions are asked about the words of a program. A keyword is looked for by
its characters and by the one behind them, an identifier by the longest run of
word characters and the list of reserved words. `longest_word_decides` says that
both follow the same rule: the longest word with which the text begins decides,
and what is taken is that word and the trivia behind it. At most one reserved
word is taken at a place, and where one is, no identifier is.
-/

namespace Minilang

namespace Lexeme

variable {word other : String} {text behind rest : List Char} {c : Char}

theorem isWord_of_isReserved (reserved : isReserved word = true) :
    IsWord word := by
  have areWords : ∀ word ∈ statementWords ++ DataType.words.map Prod.fst,
      IsWord word := by
    decide +kernel
  exact areWords word (List.contains_iff_mem.1 reserved)

/-- The text begins with the word, and with no longer one. -/
structure LongestWord (word : String) (text : List Char) : Prop where
  form : HasWordForm word
  ahead : word.toList <+: text
  longest : ∀ other, HasWordForm other → other.toList <+: text →
    other.length ≤ word.length

/-- The rule determines the word, so two questions that follow it agree. -/
theorem LongestWord.unique (first : LongestWord word text)
    (second : LongestWord other text) :
    word = other := by
  have shorter := second.longest word first.form first.ahead
  have longer := first.longest other second.form second.ahead
  simp only [← String.length_toList] at shorter longer
  have initial :=
    List.prefix_of_prefix_length_le first.ahead second.ahead shorter
  exact String.toList_inj.1 (initial.eq_of_length_le longer)

theorem longestWord_of_word? (found : word? text = some word) :
    LongestWord word text := by
  have isWord := isWord_of_word? found
  refine ⟨hasWordForm_iff.2 isWord, ((word?_eq_some_iff isWord).1 found).1, ?_⟩
  rintro other form ⟨rest, rfl⟩
  -- All of the other word lies in the run of word characters at the head of
  -- the text.
  have run := toList_of_word? found
  rw [List.takeWhile_append_of_pos fun c =>
    (hasWordForm_iff.1 form).isWordChar_of_mem] at run
  rw [← String.length_toList, ← String.length_toList, run, List.length_append]
  exact Nat.le_add_right _ _

theorem word?_eq_some_iff_longestWord :
    word? text = some word ↔ LongestWord word text := by
  refine ⟨longestWord_of_word?, fun longest => ?_⟩
  obtain ⟨letter, others, characters, isLetter, _⟩ := longest.form
  obtain ⟨rest, split⟩ := longest.ahead
  rw [characters, List.cons_append] at split
  have found := word?_cons_of_isAlpha isLetter (others ++ rest)
  rw [split] at found
  rw [found, longest.unique (longestWord_of_word? found)]

/-- The second text is what is left of the first behind the trivia at its head:
blanks are passed one by one, and a comment up to the end of its line. -/
inductive PassesTrivia : List Char → List Char → Prop
  | stop {text : List Char} :
      (∀ c ∈ text.head?, Text.isBlank c = false) → ¬ ['/', '/'] <+: text →
        PassesTrivia text text
  | blank {c : Char} {rest behind : List Char} :
      Text.isBlank c = true → PassesTrivia rest behind →
        PassesTrivia (c :: rest) behind
  | comment {rest behind : List Char} :
      PassesTrivia (rest.dropWhile (· ≠ '\n')) behind →
        PassesTrivia ('/' :: '/' :: rest) behind

theorem skipTrivia_blank (blank : Text.isBlank c = true) :
    Layout.skipTrivia (c :: rest) = Layout.skipTrivia rest := by
  have noComment : c = '/' → rest.head? ≠ some '/' := by
    rintro rfl
    exact absurd blank (by decide)
  rw [Layout.skipTrivia, Layout.triviaLength_cons noComment, if_pos blank]
  rfl

theorem skipTrivia_comment (rest : List Char) :
    Layout.skipTrivia ('/' :: '/' :: rest) = Layout.skipTrivia
      (rest.dropWhile (· ≠ '\n')) := by
  rw [Layout.skipTrivia, Layout.triviaLength_comment, List.drop_succ_cons,
    List.drop_succ_cons]
  induction rest with
  | nil => rfl
  | cons c rest inductionHypothesis =>
      by_cases last : c = '\n'
      · subst last
        rw [List.dropWhile_cons_of_neg (by simp), skipTrivia_blank (by decide),
          commentLength]
        rfl
      · rw [List.dropWhile_cons_of_pos (by simpa using last),
          Layout.commentLength_cons last, List.drop_succ_cons,
          inductionHypothesis]

theorem skipTrivia_stop (notBlank : ∀ c ∈ text.head?, Text.isBlank c = false)
    (noComment : ¬ ['/', '/'] <+: text) : Layout.skipTrivia text = text := by
  cases text with
  | nil => rfl
  | cons c rest =>
      have noTrivia : triviaLength (c :: rest) = 0 := by
        refine Layout.triviaLength_eq_zero_iff.2 ⟨notBlank c rfl,
          fun slash second => ?_⟩
        obtain ⟨behind, rfl⟩ := List.head?_eq_some_iff.1 second
        exact noComment ⟨behind, slash ▸ rfl⟩
      rw [Layout.skipTrivia, noTrivia, List.drop_zero]

theorem passesTrivia_skipTrivia (text : List Char) :
    PassesTrivia text (Layout.skipTrivia text) := by
  by_cases comment : ['/', '/'] <+: text
  · obtain ⟨rest, split⟩ := comment
    have shorter : (rest.dropWhile (· ≠ '\n')).length < text.length := by
      rw [← split]
      exact Nat.lt_succ_of_le
        (Nat.le_succ_of_le (rest.dropWhile_suffix _).length_le)
    rw [← split, List.cons_append, List.cons_append, List.nil_append,
      skipTrivia_comment]
    exact .comment (passesTrivia_skipTrivia (rest.dropWhile (· ≠ '\n')))
  · cases text with
    | nil => exact .stop nofun comment
    | cons c rest =>
        cases blank : Text.isBlank c with
        | true =>
            rw [skipTrivia_blank blank]
            exact .blank blank (passesTrivia_skipTrivia rest)
        | false =>
            have notBlank : ∀ d ∈ (c :: rest).head?,
                Text.isBlank d = false := by
              rintro d ⟨⟩
              exact blank
            rw [skipTrivia_stop notBlank comment]
            exact .stop notBlank comment
termination_by text.length
decreasing_by
  · exact shorter
  · exact Nat.lt_succ_self _

/-- The rules of trivia and the computation of its length describe the same
stretch. -/
theorem passesTrivia_iff :
    PassesTrivia text behind ↔ Layout.skipTrivia text = behind := by
  constructor
  · intro passes
    induction passes with
    | stop notBlank noComment => exact skipTrivia_stop notBlank noComment
    | blank blank _ inductionHypothesis =>
        rw [skipTrivia_blank blank, inductionHypothesis]
    | comment _ inductionHypothesis =>
        rw [skipTrivia_comment, inductionHypothesis]
  · rintro rfl
    exact passesTrivia_skipTrivia text

end Lexeme

namespace Cursor

open Lexeme

variable {cursor behind : Cursor} {text word : String}

/-- The second cursor stands behind the text, which is ahead of the first, and
behind the trivia that follows. Its place counts all the characters between the
two. -/
def Consumes (cursor : Cursor) (text : String) (behind : Cursor) : Prop :=
  ∃ trivia, cursor.rest = text.toList ++ trivia ++ behind.rest ∧
    PassesTrivia (trivia ++ behind.rest) behind.rest ∧
    behind.position = cursor.position.after (text.toList ++ trivia)

theorem consumes_advance (ahead : text.toList <+: cursor.rest) :
    cursor.Consumes text (cursor.advance text.length) := by
  obtain ⟨rest, split⟩ := ahead
  refine ⟨rest.take (triviaLength rest), ?_⟩
  rw [advance, ← String.length_toList, drop_of_split split.symm]
  change cursor.rest = text.toList ++ rest.take (triviaLength rest) ++
    Layout.skipTrivia rest ∧
    PassesTrivia (rest.take (triviaLength rest) ++ Layout.skipTrivia rest)
      (Layout.skipTrivia rest) ∧
    (cursor.position.after text.toList).after
      (rest.take (triviaLength rest)) = _
  have whole : rest.take (triviaLength rest) ++ Layout.skipTrivia rest = rest :=
    List.take_append_drop _ rest
  rw [List.append_assoc, whole, Position.after_append]
  exact ⟨split.symm, passesTrivia_skipTrivia rest, rfl⟩

/-- A text can be consumed in one way only. -/
theorem Consumes.unique {other : Cursor} (first : cursor.Consumes text behind)
    (second : cursor.Consumes text other) : behind = other := by
  obtain ⟨trivia, split, passes, place⟩ := first
  obtain ⟨otherTrivia, otherSplit, otherPasses, otherPlace⟩ := second
  rw [List.append_assoc] at split otherSplit
  have same := List.append_cancel_left (split.symm.trans otherSplit)
  rw [passesTrivia_iff] at passes otherPasses
  have sameRest : behind.rest = other.rest := by
    rw [← passes, same, otherPasses]
  rw [sameRest] at same
  have sameTrivia := List.append_cancel_right same
  rw [sameTrivia, ← otherPlace] at place
  cases behind
  cases other
  cases sameRest
  cases place
  rfl

/-- The rule says where the cursor must stand; this is where an accepted text
leads. -/
theorem consumes_iff :
    cursor.Consumes text behind ↔ cursor.accept? text = some behind := by
  rw [accept?_eq_some]
  constructor
  · intro consumes
    have ahead : text.toList <+: cursor.rest := by
      obtain ⟨trivia, split, _⟩ := consumes
      rw [List.append_assoc] at split
      exact ⟨_, split.symm⟩
    exact ⟨ahead, (consumes_advance ahead).unique consumes⟩
  · rintro ⟨ahead, rfl⟩
    exact consumes_advance ahead

/-- To move over the word ahead and over the trivia behind it is to consume the
word. -/
theorem advance_eq_iff_consumes (found : cursor.word? = some word) :
    cursor.advance word.length = behind ↔ cursor.Consumes word behind := by
  rw [consumes_iff, accept?_eq_some,
    and_iff_right (longestWord_of_word? found).ahead]

theorem keyword?_eq_some_iff_consumes (isWord : IsWord word) :
    cursor.keyword? word = some behind ↔
      cursor.word? = some word ∧ cursor.Consumes word behind := by
  rw [keyword?_eq_some isWord]
  exact and_congr_right advance_eq_iff_consumes

theorem isSome_keyword?_iff (isWord : IsWord word) :
    (cursor.keyword? word).isSome = true ↔ cursor.word? = some word := by
  rw [keyword?_eq isWord]
  split
  · rename_i ahead
    simp only [Option.isSome_some, ahead]
  · rename_i notAhead
    simp only [Option.isSome_none, Bool.false_eq_true, notAhead]

theorem identifier?_eq_some_iff_consumes {name : String} :
    cursor.identifier? = some (name, behind) ↔
      cursor.word? = some name ∧ isReserved name = false ∧
      cursor.Consumes name behind := by
  rw [identifier?_eq_some]
  exact and_congr_right fun found => and_congr_right fun _ =>
    advance_eq_iff_consumes found

theorem isSome_identifier?_iff :
    cursor.identifier?.isSome = true ↔
      ∃ name, cursor.word? = some name ∧ isReserved name = false := by
  rw [Option.isSome_iff_exists]
  constructor
  · rintro ⟨⟨name, behind⟩, found⟩
    obtain ⟨ahead, free, _⟩ := identifier?_eq_some.1 found
    exact ⟨name, ahead, free⟩
  · rintro ⟨name, ahead, free⟩
    exact ⟨(name, cursor.advance name.length),
      identifier?_eq_some.2 ⟨ahead, free, rfl⟩⟩

theorem identifier?_eq_none_of_isReserved (reserved : isReserved word = true)
    (ahead : cursor.word? = some word) : cursor.identifier? = none := by
  rw [identifier?, ahead]
  exact if_pos reserved

/-- The word ahead is the longest one with which the text begins. A text that
has the form of a word is taken as a keyword exactly when it is the word ahead,
and an identifier is found exactly when there is a word ahead that is not
reserved. In both cases that word is consumed, and nothing but the trivia behind
it. So no two reserved words are taken at one place, and where one is, no
identifier is found and the cursor stays. -/
theorem longest_word_decides (cursor : Cursor) :
    (∀ word, cursor.word? = some word ↔ LongestWord word cursor.rest) ∧
    (∀ word, HasWordForm word →
      ((cursor.keyword? word).isSome = true ↔ cursor.word? = some word) ∧
      ∀ behind, cursor.keyword? word = some behind ↔
        cursor.word? = some word ∧ cursor.Consumes word behind) ∧
    (cursor.identifier?.isSome = true ↔
      ∃ name, cursor.word? = some name ∧ isReserved name = false) ∧
    (∀ name behind, cursor.identifier? = some (name, behind) ↔
      cursor.word? = some name ∧ isReserved name = false ∧
      cursor.Consumes name behind) ∧
    ∀ word, isReserved word = true → (cursor.keyword? word).isSome = true →
      (∀ other, isReserved other = true →
        (cursor.keyword? other).isSome = true → other = word) ∧
        cursor.identifier? = none ∧ cursor.perform .identifier = cursor := by
  refine ⟨fun word => word?_eq_some_iff_longestWord, fun word form => ?_,
    isSome_identifier?_iff, fun name behind => identifier?_eq_some_iff_consumes,
    fun word reserved taken => ?_⟩
  · have isWord := hasWordForm_iff.1 form
    exact ⟨isSome_keyword?_iff isWord, fun behind =>
      keyword?_eq_some_iff_consumes isWord⟩
  · have ahead := (isSome_keyword?_iff (isWord_of_isReserved reserved)).1 taken
    have absent := identifier?_eq_none_of_isReserved reserved ahead
    refine ⟨fun other otherReserved otherTaken => ?_, absent, ?_⟩
    · have otherAhead :=
        (isSome_keyword?_iff (isWord_of_isReserved otherReserved)).1 otherTaken
      exact Option.some.inj (otherAhead.symm.trans ahead)
    · rw [perform, absent]
      rfl

/-- A keyword stops before a letter of another alphabet, but not before a letter
of its own. -/
theorem longest_word_decides_if :
    HasWordForm "if" ∧ isReserved "if" = true ∧
      ((start "ifé" "f.code").keyword? "if").isSome = true ∧
      (start "ifé" "f.code").Consumes "if" ⟨⟨"f.code", 1, 3⟩, ['é']⟩ ∧
      (start "ifé" "f.code").identifier? = none ∧
      LongestWord "iffy" (start "iffy // if\n(" "f.code").rest ∧
      (start "iffy // if\n(" "f.code").keyword? "if" = none ∧
      (start "iffy // if\n(" "f.code").Consumes "iffy"
        ⟨⟨"f.code", 2, 1⟩, ['(']⟩ := by
  have form : HasWordForm "if" := hasWordForm_iff.2 (by decide +kernel)
  have reserved : isReserved "if" = true := by decide +kernel
  have taken : (start "ifé" "f.code").keyword? "if" =
      some ⟨⟨"f.code", 1, 3⟩, ['é']⟩ := by
    decide +kernel
  have isTaken := Option.isSome_of_eq_some taken
  obtain ⟨_, keyword, _, _, alone⟩ :=
    longest_word_decides (start "ifé" "f.code")
  have consumes := (((keyword "if" form).2 _).1 taken).2
  have noIdentifier := (alone "if" reserved isTaken).2.1
  have found : (start "iffy // if\n(" "f.code").identifier? =
      some ("iffy", ⟨⟨"f.code", 2, 1⟩, ['(']⟩) := by
    decide +kernel
  obtain ⟨longest, keyword, _, identifier, _⟩ :=
    longest_word_decides (start "iffy // if\n(" "f.code")
  obtain ⟨ahead, _, consumesName⟩ := (identifier _ _).1 found
  have notTaken : (start "iffy // if\n(" "f.code").keyword? "if" = none := by
    rw [Option.eq_none_iff_forall_ne_some]
    intro behind there
    have same := (((keyword "if" form).2 behind).1 there).1
    rw [ahead] at same
    exact absurd same (by decide)
  exact ⟨form, reserved, isTaken, consumes, noIdentifier,
    (longest "iffy").1 ahead, notTaken, consumesName⟩

end Cursor

end Minilang
