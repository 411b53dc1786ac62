import Minilang.Proofs.Writing.Token

/-!
# Texts in normal layout

A text is brought into normal layout by putting a single space in the place of
each run of trivia that is not inside a string. A lexeme at the head of the text
stays what it is: `word?_normal`, `numeral?_normal`, `prefix_normal_symbol_iff`
and `stringBody?_normal`. Skipping trivia may be done before or after, as
`skipTrivia_normal` says.
-/

namespace Minilang.Layout

open Lexeme

/-- The number of characters of the string whose opening quote stands just
before the text, up to and including its closing quote, or to the end of the
text if it is not closed. -/
def stringLength : List Char → Nat
  | [] => 0
  | '"' :: _ => 1
  | '\\' :: _ :: rest => stringLength rest + 2
  | _ :: rest => stringLength rest + 1

/-- The text with a single space for each longest run of trivia outside
strings. -/
def normal (text : List Char) : List Char :=
  if triviaLength text = 0 then
    match text with
    | [] => []
    | '"' :: body =>
        '"' :: (body.take (stringLength body) ++
          normal (body.drop (stringLength body)))
    | c :: rest => c :: normal rest
  else ' ' :: normal (text.drop (triviaLength text))
termination_by text.length
decreasing_by
  · simp only [List.length_cons, List.length_drop]
    omega
  · simp
  · have within := triviaLength_le text
    rw [List.length_drop]
    omega

def normalize (source : String) : String :=
  String.ofList (normal source.toList)

variable {text rest : List Char} {c : Char}

theorem triviaLength_comment (rest : List Char) :
    triviaLength ('/' :: '/' :: rest) = commentLength rest + 2 := by
  rw [triviaLength]

theorem triviaLength_cons (noComment : c = '/' → rest.head? ≠ some '/') :
    triviaLength (c :: rest) =
      if Text.isBlank c then triviaLength rest + 1 else 0 := by
  rw [triviaLength]
  rintro behind rfl rfl
  exact noComment rfl rfl

theorem commentLength_cons (goesOn : c ≠ '\n') :
    commentLength (c :: rest) = commentLength rest + 1 := by
  rw [commentLength]
  exact goesOn

/-- No trivia is ahead of a character that is neither a blank nor the first
slash of a comment. -/
theorem triviaLength_eq_zero_iff :
    triviaLength (c :: rest) = 0 ↔
      Text.isBlank c = false ∧ (c = '/' → rest.head? ≠ some '/') := by
  by_cases comment : c = '/' ∧ rest.head? = some '/'
  · obtain ⟨rfl, head⟩ := comment
    obtain ⟨after, rfl⟩ := List.head?_eq_some_iff.1 head
    rw [triviaLength_comment]
    simp
  · have noComment : c = '/' → rest.head? ≠ some '/' :=
      fun slash head => comment ⟨slash, head⟩
    rw [triviaLength_cons noComment]
    cases blank : Text.isBlank c with
    | true => simp
    | false => simpa using noComment

mutual

/-- Behind the longest run of trivia there is no more trivia. -/
theorem triviaLength_drop (text : List Char) :
    triviaLength (text.drop (triviaLength text)) = 0 := by
  cases text with
  | nil => rfl
  | cons c rest =>
      by_cases comment : c = '/' ∧ rest.head? = some '/'
      · obtain ⟨rfl, head⟩ := comment
        obtain ⟨after, rfl⟩ := List.head?_eq_some_iff.1 head
        rw [triviaLength_comment]
        exact triviaLength_drop_comment after
      · have noComment : c = '/' → rest.head? ≠ some '/' :=
          fun slash head => comment ⟨slash, head⟩
        have whole := triviaLength_cons noComment
        cases blank : Text.isBlank c with
        | true =>
            rw [blank, if_pos rfl] at whole
            rw [whole]
            exact triviaLength_drop rest
        | false =>
            rw [blank, if_neg Bool.false_ne_true] at whole
            rw [whole, List.drop_zero, whole]
termination_by text.length

theorem triviaLength_drop_comment (text : List Char) :
    triviaLength (text.drop (commentLength text)) = 0 := by
  cases text with
  | nil => rfl
  | cons c rest =>
      by_cases last : c = '\n'
      · subst last
        rw [commentLength]
        exact triviaLength_drop rest
      · rw [commentLength_cons last]
        exact triviaLength_drop_comment rest
termination_by text.length

end

theorem normal_nil : normal [] = [] := by
  rw [normal.eq_def]
  rfl

theorem normal_of_trivia (trivia : triviaLength text ≠ 0) :
    normal text = ' ' :: normal (text.drop (triviaLength text)) := by
  rw [normal.eq_def, if_neg trivia]

theorem normal_quote (body : List Char) :
    normal ('"' :: body) =
      '"' :: (body.take (stringLength body) ++
        normal (body.drop (stringLength body))) := by
  have noTrivia : triviaLength ('"' :: body) = 0 :=
    triviaLength_of_graphic (by decide) fun same => absurd same (by decide)
  rw [normal.eq_def, if_pos noTrivia]
  rfl

theorem normal_cons (noTrivia : triviaLength (c :: rest) = 0)
    (noQuote : c ≠ '"') :
    normal (c :: rest) = c :: normal rest := by
  rw [normal.eq_def, if_pos noTrivia]
  split
  · rename_i same
    cases same
  · rename_i body same
    cases same
    exact absurd rfl noQuote
  · rename_i same
    cases same
    rfl

/-- The first character stays what it is, unless it is the first of some
trivia. -/
theorem head?_normal (noTrivia : triviaLength text = 0) :
    (normal text).head? = text.head? := by
  cases text with
  | nil => rw [normal_nil]
  | cons c rest =>
      by_cases quote : c = '"'
      · subst quote
        rw [normal_quote]
        rfl
      · rw [normal_cons noTrivia quote]
        rfl

theorem head?_normal_of_trivia (trivia : triviaLength text ≠ 0) :
    (normal text).head? = some ' ' := by
  rw [normal_of_trivia trivia]
  rfl

/-- No trivia comes up where there was none. -/
theorem triviaLength_normal (noTrivia : triviaLength text = 0) :
    triviaLength (normal text) = 0 := by
  cases text with
  | nil => rw [normal_nil, noTrivia]
  | cons c rest =>
      by_cases quote : c = '"'
      · subst quote
        rw [normal_quote]
        exact triviaLength_of_graphic (by decide) fun same =>
          absurd same (by decide)
      · obtain ⟨notBlank, noComment⟩ := triviaLength_eq_zero_iff.1 noTrivia
        rw [normal_cons noTrivia quote, triviaLength_eq_zero_iff]
        refine ⟨notBlank, fun slash => ?_⟩
        by_cases trivia : triviaLength rest = 0
        · rw [head?_normal trivia]
          exact noComment slash
        · rw [head?_normal_of_trivia trivia]
          decide

def skipTrivia (text : List Char) : List Char :=
  text.drop (triviaLength text)

/-- Trivia may be skipped before or after a text is brought into normal
layout. -/
theorem skipTrivia_normal (text : List Char) :
    skipTrivia (normal text) = normal (skipTrivia text) := by
  by_cases trivia : triviaLength text = 0
  · rw [skipTrivia, triviaLength_normal trivia, skipTrivia, trivia]
    rfl
  · have behind := triviaLength_normal (triviaLength_drop text)
    have noComment : ' ' = '/' →
        (normal (text.drop (triviaLength text))).head? ≠ some '/' := fun same =>
      absurd same (by decide)
    have blank : Text.isBlank ' ' = true := by decide
    rw [skipTrivia, normal_of_trivia trivia, triviaLength_cons noComment,
      blank, behind]
    rfl

/-! ## Lexemes at the head of the text -/

/-- A character that is neither blank nor begins a comment or a string. -/
def IsPlain (c : Char) : Prop :=
  Text.isBlank c = false ∧ c ≠ '/' ∧ c ≠ '"'

theorem IsPlain.noTrivia (plain : IsPlain c) : triviaLength (c :: rest) = 0 :=
  triviaLength_eq_zero_iff.2 ⟨plain.1, fun slash => absurd slash plain.2.1⟩

/-- What is neither trivia nor part of a string is copied. -/
theorem normal_append {lexeme : List Char} (plain : ∀ c ∈ lexeme, IsPlain c) :
    normal (lexeme ++ rest) = lexeme ++ normal rest := by
  induction lexeme with
  | nil => rfl
  | cons c others inductionHypothesis =>
      obtain ⟨first, remaining⟩ := List.forall_mem_cons.1 plain
      rw [List.cons_append, normal_cons first.noTrivia first.2.2,
        inductionHypothesis remaining]
      rfl

/-- A plain text is at the head of a text exactly when it is there in normal
layout. -/
theorem prefix_normal_iff {lexeme : List Char}
    (plain : ∀ c ∈ lexeme, IsPlain c) :
    lexeme <+: normal text ↔ lexeme <+: text := by
  constructor
  · intro ahead
    induction lexeme generalizing text with
    | nil => exact List.nil_prefix
    | cons c others inductionHypothesis =>
        obtain ⟨first, remaining⟩ := List.forall_mem_cons.1 plain
        obtain ⟨behind, split⟩ := ahead
        have head : (normal text).head? = some c := by
          rw [← split]
          rfl
        have noTrivia : triviaLength text = 0 := by
          by_contra trivia
          rw [head?_normal_of_trivia trivia] at head
          obtain rfl := Option.some.inj head
          exact absurd first.1 (by decide)
        rw [head?_normal noTrivia] at head
        obtain ⟨rest, rfl⟩ := List.head?_eq_some_iff.1 head
        rw [normal_cons noTrivia first.2.2, List.cons_append,
          List.cons.injEq] at split
        exact List.cons_prefix_cons.2
          ⟨rfl, inductionHypothesis remaining ⟨behind, split.2⟩⟩
  · intro ahead
    obtain ⟨rest, rfl⟩ := ahead
    rw [normal_append plain]
    exact List.prefix_append lexeme _

/-- A run of plain characters at the head of a text is the same in normal
layout. -/
theorem span_normal {p : Char → Bool} (plain : ∀ c, p c = true → IsPlain c)
    (text : List Char) :
    (normal text).takeWhile p = text.takeWhile p ∧
      (normal text).dropWhile p = normal (text.dropWhile p) := by
  have run : ∀ c ∈ text.takeWhile p, p c = true :=
    fun c member => List.mem_takeWhile_imp member
  have split : normal text = text.takeWhile p ++ normal (text.dropWhile p) := by
    rw [← normal_append fun c member => plain c (run c member),
      List.takeWhile_append_dropWhile]
  have ends : ∀ c ∈ (normal (text.dropWhile p)).head?, p c = false := by
    intro c head
    by_cases trivia : triviaLength (text.dropWhile p) = 0
    · have stops := List.head?_dropWhile_not p text
      rw [head?_normal trivia] at head
      rw [Option.mem_def.1 head] at stops
      exact stops
    · rw [head?_normal_of_trivia trivia] at head
      obtain rfl := Option.some.inj head
      by_contra satisfied
      rw [Bool.not_eq_false] at satisfied
      exact absurd (plain _ satisfied).1 (by decide)
  rw [split, List.takeWhile_append_of_pos run, List.dropWhile_append_of_pos run]
  cases behind : normal (text.dropWhile p) with
  | nil => simp
  | cons c rest =>
      have stops : ¬ p c = true := by
        rw [ends c (by rw [behind]; rfl)]
        exact Bool.false_ne_true
      rw [List.takeWhile_cons_of_neg stops, List.dropWhile_cons_of_neg stops,
        List.append_nil]
      exact ⟨rfl, rfl⟩

theorem isPlain_of_graphic (graphic : 0x20 < c.toNat ∧ c.toNat < 0x7f)
    (noSlash : c ≠ '/')
    (noQuote : c ≠ '"') : IsPlain c :=
  ⟨Token.isBlank_eq_false graphic, noSlash, noQuote⟩

theorem isPlain_of_isAlpha (letter : c.isAlpha = true) : IsPlain c := by
  have isWord : IsWord "a" := by decide +kernel
  have graphic := @Token.graphic_of_begins (.word "a") isWord c letter
  apply isPlain_of_graphic graphic
  · rintro rfl
    exact absurd letter (by decide)
  · rintro rfl
    exact absurd letter (by decide)

theorem isPlain_of_isDigit (digit : c.isDigit = true) : IsPlain c := by
  simp only [Char.isDigit, Bool.and_eq_true, decide_eq_true_eq, ge_iff_le,
    UInt32.le_iff_toNat_le] at digit
  have graphic : 0x20 < c.toNat ∧ c.toNat < 0x7f :=
    ⟨Nat.lt_of_lt_of_le (by decide) digit.1,
      Nat.lt_of_le_of_lt digit.2 (by decide)⟩
  apply isPlain_of_graphic graphic
  · rintro rfl
    exact absurd digit (by decide)
  · rintro rfl
    exact absurd digit (by decide)

theorem isPlain_of_isWordChar (wordChar : isWordChar c = true) : IsPlain c := by
  rcases isWordChar_iff.1 wordChar with letter | digit | rfl
  · exact isPlain_of_isAlpha letter
  · exact isPlain_of_isDigit digit
  · exact ⟨by decide, by decide, by decide⟩

theorem head?_normal_eq_some (notBlank : Text.isBlank c = false)
    (head : (normal text).head? = some c) :
    triviaLength text = 0 ∧ text.head? = some c := by
  by_cases trivia : triviaLength text = 0
  · rw [head?_normal trivia] at head
    exact ⟨trivia, head⟩
  · rw [head?_normal_of_trivia trivia] at head
    obtain rfl := Option.some.inj head
    exact absurd notBlank (by decide)

/-- Trivia behind a word ends it in both layouts. -/
theorem word?_normal (text : List Char) : word? (normal text) = word? text := by
  cases found : word? text with
  | some word =>
      obtain ⟨c, rest, rfl, letter⟩ := isAlpha_of_word? found
      have plain := isPlain_of_isAlpha letter
      have run := (span_normal (fun _ => isPlain_of_isWordChar) (c :: rest)).1
      have split : normal (c :: rest) = c :: normal rest :=
        normal_cons plain.noTrivia plain.2.2
      rw [word?_cons_of_isAlpha letter] at found
      rw [split] at run ⊢
      rw [word?_cons_of_isAlpha letter, run, found]
  | none =>
      rw [Option.eq_none_iff_forall_ne_some]
      intro word there
      obtain ⟨c, rest, split, letter⟩ := isAlpha_of_word? there
      have head : (normal text).head? = some c := by
        rw [split]
        rfl
      obtain ⟨_, same⟩ :=
        head?_normal_eq_some (isPlain_of_isAlpha letter).1 head
      obtain ⟨others, rfl⟩ := List.head?_eq_some_iff.1 same
      rw [word?_cons_of_isAlpha letter] at found
      cases found

theorem numeral?_of_point {rest : List Char}
    (point : text.dropWhile Char.isDigit = '.' :: rest) :
    numeral? text =
      if text.takeWhile Char.isDigit = [] then none
      else some (String.ofList
        (text.takeWhile Char.isDigit ++
          '.' :: rest.takeWhile Char.isDigit)) := by
  rw [numeral?, point]
  split
  · rename_i empty
    rw [if_pos empty]
  · rename_i nonempty
    rw [if_neg nonempty]
    rfl

theorem numeral?_of_noPoint
    (noPoint : (text.dropWhile Char.isDigit).head? ≠ some '.') :
    numeral? text =
      if text.takeWhile Char.isDigit = [] then none
      else some (String.ofList (text.takeWhile Char.isDigit)) := by
  rw [numeral?]
  split
  · rename_i empty
    rw [if_pos empty]
  · rename_i nonempty
    rw [if_neg nonempty]
    split
    · rename_i rest point
      rw [point] at noPoint
      exact absurd rfl noPoint
    · rfl

/-- A numeral has no trivia inside, and none of its characters begins any. -/
theorem numeral?_normal (text : List Char) :
    numeral? (normal text) = numeral? text := by
  have plain : ∀ c, c.isDigit = true → IsPlain c := fun _ => isPlain_of_isDigit
  obtain ⟨taken, left⟩ := span_normal plain text
  have isPoint : IsPlain '.' := ⟨by decide, by decide, by decide⟩
  by_cases point : (text.dropWhile Char.isDigit).head? = some '.'
  · obtain ⟨rest, split⟩ := List.head?_eq_some_iff.1 point
    have fraction := (span_normal plain rest).1
    rw [split, normal_cons isPoint.noTrivia isPoint.2.2] at left
    rw [numeral?_of_point left, numeral?_of_point split, taken, fraction]
  · have noPoint : ((normal text).dropWhile Char.isDigit).head? ≠ some '.' := by
      rw [left]
      intro head
      exact point (head?_normal_eq_some isPoint.1 head).2
    rw [numeral?_of_noPoint noPoint, numeral?_of_noPoint point, taken]

/-- All symbols but the slash are plain. -/
theorem isPlain_of_mem_symbols {symbol : String}
    (isSymbol : symbol ∈ Token.symbols)
    (noSlash : symbol ≠ "/") : ∀ c ∈ symbol.toList, IsPlain c := by
  have plain : ∀ symbol ∈ Token.symbols, symbol ≠ "/" → symbol.toList.all
      (fun c => (0x20 < c.toNat ∧ c.toNat < 0x7f) ∧ c ≠ '/' ∧
        c ≠ '"') = true := by
    decide +kernel
  intro c member
  have isPlain := List.all_eq_true.1 (plain symbol isSymbol noSlash) c member
  obtain ⟨graphic, rest⟩ := of_decide_eq_true isPlain
  exact isPlain_of_graphic graphic rest.1 rest.2

/-- A symbol is the same in normal layout, and so is what follows it. -/
theorem normal_symbol {symbol : String} (isSymbol : symbol ∈ Token.symbols)
    (noTrivia : triviaLength (symbol.toList ++ rest) = 0) :
    normal (symbol.toList ++ rest) = symbol.toList ++ normal rest := by
  by_cases slash : symbol = "/"
  · subst slash
    exact normal_cons noTrivia (by decide)
  · exact normal_append (isPlain_of_mem_symbols isSymbol slash)

/-- Two symbols that stand apart do not become one symbol, as a space is left
between them. -/
theorem prefix_normal_symbol_iff {symbol : String}
    (isSymbol : symbol ∈ Token.symbols)
    (noTrivia : triviaLength text = 0) :
    symbol.toList <+: normal text ↔ symbol.toList <+: text := by
  by_cases slash : symbol = "/"
  · subst slash
    have byHead (other : List Char) : ("/" : String).toList <+: other ↔
        other.head? = some '/' := by
      rw [List.head?_eq_some_iff]
      constructor
      · intro ahead
        obtain ⟨behind, split⟩ := ahead
        exact ⟨behind, split.symm⟩
      · intro ahead
        obtain ⟨behind, split⟩ := ahead
        exact ⟨behind, split.symm⟩
    rw [byHead, byHead, head?_normal noTrivia]
  · exact prefix_normal_iff (isPlain_of_mem_symbols isSymbol slash)

theorem stringLength_le (text : List Char) :
    stringLength text ≤ text.length := by
  fun_induction stringLength text with
  | case1 => exact Nat.le_refl 0
  | case2 => exact Nat.succ_le_succ (Nat.zero_le _)
  | case3 _ rest inductionHypothesis =>
      simp only [List.length_cons]
      omega
  | case4 _ rest _ _ inductionHypothesis =>
      simp only [List.length_cons]
      omega

/-- A character of a string that is neither its closing quote nor a
backslash. -/
theorem stringLength_cons (noQuote : c ≠ '"')
    (noEscape : c = '\\' → rest = []) :
    stringLength (c :: rest) = stringLength rest + 1 := by
  rw [stringLength]
  · exact noQuote
  · rintro next others rfl rfl
    cases noEscape rfl

/-- A backslash is the last character of a string or begins an escape. -/
theorem ne_backslash {c : Char} {others : List Char}
    (noEnd : c = '\\' → others = [] → False)
    (noEscape : ∀ next rest, c = '\\' → others = next :: rest → False) :
    c ≠ '\\' := by
  intro backslash
  cases others with
  | nil => exact noEnd backslash rfl
  | cons next rest => exact noEscape next rest backslash rfl

/-- A string is closed where its length says, whatever follows. -/
theorem stringBody?_take {contents : List Char} {length : Nat}
    (closed : stringBody? text = some (contents, length)) (rest : List Char) :
    length = stringLength text ∧
      stringBody? (text.take (stringLength text) ++ rest) =
        some (contents, length) := by
  fun_induction stringBody? text generalizing contents length with
  | case1 => cases closed
  | case2 =>
      cases closed
      exact ⟨rfl, rfl⟩
  | case3 => cases closed
  | case4 c others inductionHypothesis =>
      obtain ⟨⟨inner, size⟩, found, same⟩ := Option.map_eq_some_iff.1 closed
      cases same
      obtain ⟨sizes, again⟩ := inductionHypothesis found
      refine ⟨congrArg (· + 2) sizes, ?_⟩
      change stringBody?
        ('\\' :: c :: (others.take (stringLength others) ++ rest)) = _
      rw [stringBody?, again]
      rfl
  | case5 c others noQuote noEnd noEscape inductionHypothesis =>
      obtain ⟨⟨inner, size⟩, found, same⟩ := Option.map_eq_some_iff.1 closed
      cases same
      obtain ⟨sizes, again⟩ := inductionHypothesis found
      have noBackslash := ne_backslash noEnd noEscape
      rw [stringLength_cons noQuote fun same => absurd same noBackslash]
      refine ⟨congrArg (· + 1) sizes, ?_⟩
      rw [List.take_succ_cons, List.cons_append, stringBody?, again]
      · rfl
      · exact noQuote
      · exact fun same => absurd same noBackslash
      · exact fun _ _ same => absurd same noBackslash

/-- A string that is not closed goes on to the end. -/
theorem stringLength_of_open (unclosed : stringBody? text = none) :
    stringLength text = text.length := by
  fun_induction stringBody? text with
  | case1 => rfl
  | case2 => cases unclosed
  | case3 => rfl
  | case4 c others inductionHypothesis =>
      rw [Option.map_eq_none_iff] at unclosed
      exact congrArg (· + 2) (inductionHypothesis unclosed)
  | case5 c others noQuote noEnd noEscape inductionHypothesis =>
      rw [Option.map_eq_none_iff] at unclosed
      have noBackslash := ne_backslash noEnd noEscape
      rw [stringLength_cons noQuote fun same => absurd same noBackslash,
        inductionHypothesis unclosed, List.length_cons]

/-- A string is read alike in normal layout: it is closed at the same place, if
at all. -/
theorem stringBody?_normal (body : List Char) :
    stringBody? (body.take (stringLength body) ++
      normal (body.drop (stringLength body))) =
      stringBody? body := by
  cases closed : stringBody? body with
  | some pair =>
      obtain ⟨contents, length⟩ := pair
      exact (stringBody?_take closed _).2
  | none =>
      rw [stringLength_of_open closed, List.take_length, List.drop_length,
        normal_nil, List.append_nil, closed]

/-- The normal layout brings in no character but the space. -/
theorem mem_normal (member : c ∈ normal text) : c = ' ' ∨ c ∈ text := by
  fun_induction normal text with
  | case1 => cases member
  | case2 body _ inductionHypothesis =>
      rw [List.mem_cons, List.mem_append] at member
      rcases member with rfl | inString | behind
      · exact Or.inr List.mem_cons_self
      · exact Or.inr (List.mem_cons_of_mem _ (List.mem_of_mem_take inString))
      · apply (inductionHypothesis behind).imp_right
        intro later
        exact List.mem_cons_of_mem _ (List.mem_of_mem_drop later)
  | case3 d rest _ _ inductionHypothesis =>
      rcases List.mem_cons.1 member with rfl | behind
      · exact Or.inr List.mem_cons_self
      · exact (inductionHypothesis behind).imp_right (List.mem_cons_of_mem _)
  | case4 text _ inductionHypothesis =>
      rcases List.mem_cons.1 member with rfl | behind
      · exact Or.inl rfl
      · exact (inductionHypothesis behind).imp_right List.mem_of_mem_drop

theorem noReturn_normalize {source : String} (noReturn : '\r' ∉ source.toList) :
    '\r' ∉ (normalize source).toList := by
  rw [normalize, String.toList_ofList]
  intro member
  rcases mem_normal member with space | inText
  · exact absurd space (by decide)
  · exact noReturn inText

end Minilang.Layout
