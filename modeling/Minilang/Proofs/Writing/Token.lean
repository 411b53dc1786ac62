import Minilang.Proofs.Reading.Ahead

/-!
# Tokens

A program is written as a line of tokens with single spaces between them. Here
is how each token is written, with which characters it may begin, and that what
is written of numbers and strings is what is read of them: `numeral?_append` and
`stringBody?_escape`.
-/

namespace Minilang

/-- A piece of a program that is written without a space around it. -/
inductive Token where
  | word (text : String)
  | number (digits : String)
  | string (contents : String)
  | symbol (text : String)
deriving DecidableEq, Repr

namespace Token

/-- The characters by which a character inside a string is written. -/
def escape : Char → List Char
  | '\n' => ['\\', 'n']
  | '\t' => ['\\', 't']
  | '\\' => ['\\', '\\']
  | '"' => ['\\', '"']
  | c => [c]

def chars : Token → List Char
  | word text | number text | symbol text => text.toList
  | string contents => '"' :: (contents.toList.flatMap escape ++ ['"'])

/-- The tokens with single spaces between them. -/
def line (tokens : List Token) : List Char :=
  [' '].intercalate (tokens.map chars)

def symbols : List String :=
  ["(", ")", "\x7b", "\x7d", ",", "="] ++
    Level.all.flatMap (·.operators.map (·.symbol))

def AreDigits (text : List Char) : Prop :=
  text ≠ [] ∧ ∀ c ∈ text, c.isDigit = true

/-- The digits are those of a number with a fraction. -/
def IsFraction (digits : String) : Prop :=
  ∃ whole part, digits.toList = whole ++ '.' :: part ∧ AreDigits whole ∧
    AreDigits part

def IsWritten : Token → Prop
  | word text => Lexeme.IsWord text
  | number digits => AreDigits digits.toList ∨ IsFraction digits
  | string contents => '\r' ∉ contents.toList
  | symbol text => text ∈ symbols

def IsOperator (level : Level) (token : Token) : Prop :=
  ∃ operator : BinaryOperator, operator.level = level ∧
    token = .symbol operator.symbol

theorem symbol_mem_symbols (operator : BinaryOperator) :
    operator.symbol ∈ symbols := by
  cases operator <;> decide

/-- What stands behind the first token: a space and the line of the others, if
there are any. -/
def gap : List Token → List Char
  | [] => []
  | tokens => ' ' :: line tokens

theorem line_cons (token : Token) (rest : List Token) :
    line (token :: rest) = token.chars ++ gap rest := by
  cases rest with
  | nil => simp [line, gap, List.intercalate]
  | cons next others => simp [line, gap, List.intercalate]

theorem gap_head? {rest : List Token} {c : Char}
    (head : (gap rest).head? = some c) : c = ' ' := by
  cases rest with
  | nil => cases head
  | cons next others =>
      cases head
      rfl

/-- What the first character of a token may be. -/
def Begins (c : Char) : Token → Prop
  | word _ => c.isAlpha = true
  | number _ => c.isDigit = true
  | string _ => c = '"'
  | symbol text => text.toList.head? = some c

theorem chars_eq_cons {token : Token} (written : token.IsWritten) :
    ∃ c rest, token.chars = c :: rest ∧ token.Begins c := by
  cases token with
  | word text => exact Lexeme.IsWord.isAlpha_head written
  | number digits =>
      rcases written with
        ⟨nonempty, all⟩ | ⟨whole, part, split, ⟨nonempty, all⟩, _⟩
      · obtain ⟨c, rest, characters⟩ := List.exists_cons_of_ne_nil nonempty
        exact ⟨c, rest, characters, all c (by simp [characters])⟩
      · obtain ⟨c, rest, characters⟩ := List.exists_cons_of_ne_nil nonempty
        refine ⟨c, rest ++ '.' :: part, ?_, all c (by simp [characters])⟩
        rw [chars, split, characters]
        rfl
  | string contents => exact ⟨'"', _, rfl, rfl⟩
  | symbol text =>
      have nonempty : ∀ text ∈ symbols, text.toList ≠ [] := by decide +kernel
      obtain ⟨c, rest, characters⟩ :=
        List.exists_cons_of_ne_nil (nonempty text written)
      exact ⟨c, rest, characters, congrArg List.head? characters⟩

/-- A symbol begins with a character that no other token begins with. -/
theorem eq_symbol_of_begins {text : String} (isSymbol : text ∈ symbols)
    {c : Char} (head : text.toList.head? = some c) {token : Token}
    (begins : token.Begins c) :
    ∃ other, token = .symbol other := by
  have punctuation : ∀ text ∈ symbols,
      text.toList.head?.all (fun c => !c.isAlpha && !c.isDigit &&
        c != '"') = true := by
    decide +kernel
  have first := punctuation text isSymbol
  rw [head, Option.all_some] at first
  simp only [Bool.and_eq_true, Bool.not_eq_true', bne_iff_ne] at first
  obtain ⟨⟨noLetter, noDigit⟩, noQuote⟩ := first
  cases token with
  | word other => exact absurd (noLetter.symm.trans begins) (by decide)
  | number digits => exact absurd (noDigit.symm.trans begins) (by decide)
  | string contents => exact absurd begins noQuote
  | symbol other => exact ⟨other, rfl⟩

theorem isBlank_eq_false {c : Char}
    (graphic : 0x20 < c.toNat ∧ c.toNat < 0x7f) :
    Text.isBlank c = false := by
  rw [← Bool.not_eq_true, Text.isBlank, Text.Runs.contains_iff]
  intro parts
  obtain ⟨run, member, low, high⟩ := parts
  simp only [Text.whiteSpace, List.mem_cons, List.not_mem_nil,
    or_false] at member
  rcases member with rfl | rfl | rfl | rfl | rfl | rfl | rfl | rfl | rfl
    | rfl <;> simp only at low high <;> omega

theorem graphic_of_begins {token : Token} (written : token.IsWritten) {c : Char}
    (begins : token.Begins c) : 0x20 < c.toNat ∧ c.toNat < 0x7f := by
  cases token with
  | word text =>
      rcases Lexeme.isAlpha_iff.1 begins with ⟨low, high⟩ | ⟨low, high⟩
      · exact ⟨Nat.lt_of_lt_of_le (by decide) low,
          Nat.lt_of_le_of_lt high (by decide)⟩
      · exact ⟨Nat.lt_of_lt_of_le (by decide) low,
          Nat.lt_of_le_of_lt high (by decide)⟩
  | number digits =>
      simp only [Begins, Char.isDigit, Bool.and_eq_true, decide_eq_true_eq,
        ge_iff_le, UInt32.le_iff_toNat_le] at begins
      exact ⟨Nat.lt_of_lt_of_le (by decide) begins.1,
        Nat.lt_of_le_of_lt begins.2 (by decide)⟩
  | string contents =>
      cases begins
      decide
  | symbol text =>
      have graphic : ∀ text ∈ symbols,
          text.toList.head?.all
            (fun c => decide (0x20 < c.toNat ∧ c.toNat < 0x7f)) = true := by
        decide +kernel
      have head : text.toList.head? = some c := begins
      have first := graphic text written
      rw [head, Option.all_some] at first
      exact of_decide_eq_true first

end Token

namespace Lexeme

theorem triviaLength_of_graphic {c : Char} {rest : List Char}
    (graphic : 0x20 < c.toNat ∧ c.toNat < 0x7f)
    (noComment : c = '/' → rest.head? ≠ some '/') :
    triviaLength (c :: rest) = 0 := by
  rw [triviaLength.eq_def]
  split
  · rfl
  · rename_i behind same
    cases same
    exact absurd rfl (noComment rfl)
  · rename_i same
    cases same
    rw [Token.isBlank_eq_false graphic]
    rfl

end Lexeme

namespace Token

/-- No token that is written begins with a blank or with two slashes. -/
theorem triviaLength_line {tokens : List Token}
    (written : ∀ token ∈ tokens, token.IsWritten) :
    Lexeme.triviaLength (line tokens) = 0 := by
  cases tokens with
  | nil => rfl
  | cons token rest =>
      have first := written token List.mem_cons_self
      obtain ⟨c, others, characters, begins⟩ := chars_eq_cons first
      rw [line_cons, characters]
      refine Lexeme.triviaLength_of_graphic (graphic_of_begins first begins) ?_
      rintro rfl
      have isSymbol : "/" ∈ symbols := by decide
      obtain ⟨text, rfl⟩ := eq_symbol_of_begins isSymbol rfl begins
      have slash : ∀ text ∈ symbols, text.toList.head? = some '/' →
          text = "/" := by decide +kernel
      obtain rfl := slash text first begins
      cases characters
      intro head
      cases gap_head? head

theorem noReturn {token : Token} (written : token.IsWritten) :
    '\r' ∉ token.chars := by
  cases token with
  | word text =>
      intro member
      exact absurd (Lexeme.IsWord.isWordChar_of_mem written member) (by decide)
  | number digits =>
      intro member
      have digit : ∀ c ∈ digits.toList, c.isDigit = true ∨ c = '.' := by
        intro c member
        rcases written with
          ⟨_, all⟩ | ⟨whole, part, split, ⟨_, wholeDigits⟩, ⟨_, partDigits⟩⟩
        · exact Or.inl (all c member)
        · rw [split, List.mem_append, List.mem_cons] at member
          rcases member with member | rfl | member
          · exact Or.inl (wholeDigits c member)
          · exact Or.inr rfl
          · exact Or.inl (partDigits c member)
      exact absurd (digit _ member) (by decide)
  | string contents =>
      have escaped : ∀ c, '\r' ∈ escape c → c = '\r' := by
        intro c member
        unfold escape at member
        split at member
        case h_5 => exact (List.mem_singleton.1 member).symm
        all_goals exact absurd member (by decide)
      simp only [chars, List.mem_cons, List.mem_append, List.mem_flatMap,
        List.not_mem_nil, or_false]
      intro parts
      rcases parts with impossible | ⟨c, member, return_⟩ | impossible
      · cases impossible
      · rw [escaped c return_] at member
        exact written member
      · cases impossible
  | symbol text =>
      have absent : ∀ text ∈ symbols, '\r' ∉ text.toList := by decide +kernel
      exact absent text written

/-- So the carriage returns that are dropped from a source are none of its
characters. -/
theorem noReturn_line {tokens : List Token}
    (written : ∀ token ∈ tokens, token.IsWritten) :
    '\r' ∉ line tokens := by
  induction tokens with
  | nil => exact List.not_mem_nil
  | cons token rest inductionHypothesis =>
      rw [line_cons, List.mem_append]
      intro parts
      rcases parts with member | member
      · exact noReturn (written token List.mem_cons_self) member
      · cases rest with
        | nil => cases member
        | cons next others =>
            rcases List.mem_cons.1 member with impossible | member
            · cases impossible
            · exact inductionHypothesis (fun token member =>
                written token (.tail _ member)) member

end Token

namespace Lexeme

open Token

theorem span_digits {digits rest : List Char}
    (all : ∀ c ∈ digits, c.isDigit = true)
    (ends : ∀ c ∈ rest.head?, c.isDigit = false) :
    (digits ++ rest).takeWhile Char.isDigit = digits ∧
      (digits ++ rest).dropWhile Char.isDigit = rest := by
  rw [List.takeWhile_append_of_pos all, List.dropWhile_append_of_pos all]
  cases rest with
  | nil => simp
  | cons c others =>
      have notDigit : ¬ c.isDigit = true := by simp [ends c rfl]
      rw [List.takeWhile_cons_of_neg notDigit,
        List.dropWhile_cons_of_neg notDigit]
      exact ⟨List.append_nil digits, rfl⟩

theorem getLast?_ne_of_digits {text : List Char}
    (digits : ∀ c ∈ text, c.isDigit = true) :
    text.getLast? ≠ some '.' :=
  fun last => absurd (digits '.' (List.mem_of_getLast? last)) (by decide)

/-- A numeral that is found is digits, perhaps with a point behind them and the
digits that follow it, of which there may be none. -/
theorem parts_of_numeral? {digits : String} {text : List Char}
    (found : numeral? text = some digits) :
    AreDigits digits.toList ∨ ∃ whole part, digits.toList = whole ++
      '.' :: part ∧
      AreDigits whole ∧ ∀ c ∈ part, c.isDigit = true := by
  have taken (text : List Char) : ∀ c ∈ text.takeWhile Char.isDigit,
      c.isDigit = true :=
    fun _ member => List.mem_takeWhile_imp member
  rw [numeral?] at found
  split at found
  · cases found
  · rename_i nonempty
    split at found
    · rename_i rest _
      rw [← Option.some.inj found, String.toList_ofList]
      exact Or.inr ⟨_, _, rfl, ⟨nonempty, taken text⟩, taken rest⟩
    · rw [← Option.some.inj found, String.toList_ofList]
      exact Or.inl ⟨nonempty, taken text⟩

/-- A numeral is found whole if what follows it is neither a digit nor a
point. -/
theorem numeral?_append {digits : String}
    (numeral : AreDigits digits.toList ∨ IsFraction digits) {rest : List Char}
    (ends : ∀ c ∈ rest.head?, c.isDigit = false ∧ c ≠ '.') :
    numeral? (digits.toList ++ rest) = some digits := by
  have noDigit : ∀ c ∈ rest.head?, c.isDigit = false :=
    fun c member => (ends c member).1
  rcases numeral with
    ⟨nonempty, all⟩ | ⟨whole, part, split, ⟨nonempty, all⟩, ⟨_, partDigits⟩⟩
  · obtain ⟨taken, left⟩ := span_digits all noDigit
    rw [numeral?, taken, left]
    split
    · rename_i empty
      exact absurd empty nonempty
    · split
      · exact absurd rfl (ends '.' rfl).2
      · rw [String.ofList_toList]
  · have together : digits.toList ++ rest = whole ++ '.' :: (part ++ rest) := by
      rw [split, List.append_assoc, List.cons_append]
    have point : ∀ c ∈ ('.' :: (part ++ rest)).head?, c.isDigit = false := by
      rintro _ ⟨⟩
      decide
    obtain ⟨taken, left⟩ := span_digits all point
    obtain ⟨partTaken, _⟩ := span_digits partDigits noDigit
    rw [together, numeral?, taken, left]
    split
    · exact absurd rfl nonempty
    · split
      · rename_i behind same
        cases same
        rw [partTaken, ← split, String.ofList_toList]
      · rename_i other
        exact absurd rfl (other _)

theorem stringBody?_escape_append (c : Char) (rest : List Char) :
    stringBody? (escape c ++ rest) = (stringBody? rest).map
      fun (contents, length) =>
      (c :: contents, length + (escape c).length) := by
  unfold escape
  split
  · rfl
  · rfl
  · rfl
  · rfl
  · rename_i noLine noTab noSlash noQuote
    rw [List.singleton_append, stringBody?]
    · rfl
    · exact noQuote
    · exact fun same _ => noSlash same
    · exact fun _ _ same _ => noSlash same

/-- A string that is written with escapes is read as it was meant. -/
theorem stringBody?_escape (contents rest : List Char) :
    stringBody? (contents.flatMap escape ++ '"' :: rest) =
      some (contents, (contents.flatMap escape).length + 1) := by
  induction contents with
  | nil => rfl
  | cons c others inductionHypothesis =>
      rw [List.flatMap_cons, List.append_assoc, stringBody?_escape_append,
        inductionHypothesis, List.length_append, Option.map_some,
        Option.some.injEq, Prod.mk.injEq]
      exact ⟨rfl, by omega⟩

end Lexeme

end Minilang
