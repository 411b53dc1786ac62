import Minilang.Text.Quoted

/-!
# Telling quoted texts apart

Between double quotes a character is written in one of three ways: by a name
behind a backslash, by its code point behind a backslash, or as it is. `Quotes`
lists them. No way of writing one character is the beginning of a way of writing
another, and none begins with a double quote, so that a quoted text can be told
from all that may stand behind it: `quoteChars_append_injective`.
-/

namespace Minilang.Text

/-- A word that ends where the text leaves a class of characters is known by the
text. -/
theorem word_append_injective {inside : Char → Bool}
    {word other rest behind : List Char} (wordInside : word.all inside = true)
    (otherInside : other.all inside = true)
    (wordEnds : rest.head?.any inside = false)
    (otherEnds : behind.head?.any inside = false)
    (same : word ++ rest = other ++ behind) : word = other ∧ rest = behind := by
  have taken {word rest : List Char} (within : word.all inside = true)
      (ends : rest.head?.any inside = false) :
        (word ++ rest).takeWhile inside = word := by
    have none : rest.takeWhile inside = [] := by
      cases rest with
      | nil => rfl
      | cons c rest => exact List.takeWhile_cons_of_neg (by simpa using ends)
    rw [List.takeWhile_append_of_pos (List.all_eq_true.1 within), none,
      List.append_nil]
  have words : word = other := by
    rw [← taken wordInside wordEnds, same, taken otherInside otherEnds]
  rw [words] at same
  exact ⟨words, List.append_cancel_left same⟩

theorem hexDigits_of_lt {n : Nat} (single : n < 16) :
    hexDigits n = [n.digitChar] :=
  Nat.toDigits_of_lt_base single

theorem hexDigits_of_le {n : Nat} (several : 16 ≤ n) :
    hexDigits n = hexDigits (n / 16) ++ [(n % 16).digitChar] :=
  Nat.toDigits_of_base_le (by decide) several

theorem length_hexDigits_le_one_iff {n : Nat} :
    (hexDigits n).length ≤ 1 ↔ n < 16 :=
  Nat.length_toDigits_le_iff (by decide) (by decide)

theorem isAlphanum_digitChar : ∀ n < 16, n.digitChar.isAlphanum = true := by
  decide

theorem digitChar_injective :
    ∀ m < 16, ∀ n < 16, m.digitChar = n.digitChar → m = n := by
  decide

theorem isAlphanum_hexDigits (n : Nat) :
    (hexDigits n).all Char.isAlphanum = true := by
  induction n using Nat.strongRecOn with
  | ind n inductionHypothesis =>
      by_cases single : n < 16
      · rw [hexDigits_of_lt single, List.all_cons,
          isAlphanum_digitChar n single]
        rfl
      · have last := isAlphanum_digitChar (n % 16) (Nat.mod_lt n (by decide))
        rw [hexDigits_of_le (Nat.le_of_not_lt single), List.all_append,
          inductionHypothesis (n / 16) (by omega), List.all_cons, last]
        rfl

/-- A code point is known from its digits. -/
theorem hexDigits_injective {m n : Nat} (same : hexDigits m = hexDigits n) :
    m = n := by
  induction m using Nat.strongRecOn generalizing n with
  | ind m inductionHypothesis =>
      have alike : m < 16 ↔ n < 16 := by
        rw [← length_hexDigits_le_one_iff, same, length_hexDigits_le_one_iff]
      by_cases single : m < 16
      · rw [hexDigits_of_lt single, hexDigits_of_lt (alike.1 single)] at same
        exact digitChar_injective m single n (alike.1 single)
          (List.head_eq_of_cons_eq same)
      · have several : 16 ≤ n := Nat.le_of_not_lt (mt alike.2 single)
        rw [hexDigits_of_le (Nat.le_of_not_lt single),
          hexDigits_of_le several] at same
        obtain ⟨front, last⟩ := List.append_inj' same rfl
        have quotients : m / 16 = n / 16 :=
          inductionHypothesis (m / 16) (by omega) front
        have remainders : m % 16 = n % 16 :=
          digitChar_injective _ (Nat.mod_lt m (by decide)) _
            (Nat.mod_lt n (by decide))
            (List.head_eq_of_cons_eq last)
        omega

/-- The characters that have a name behind a backslash, with their names. -/
def namedEscapes : List (Char × Char) :=
  [('\x00', '0'), ('\t', 't'), ('\n', 'n'), ('\r', 'r'), ('"', '"'),
    ('\\', '\\')]

theorem namedEscapes_injective :
    ∀ escape ∈ namedEscapes, ∀ other ∈ namedEscapes, escape.2 = other.2 →
      escape.1 = other.1 := by
  decide

theorem ne_codePoint_of_mem_namedEscapes :
    ∀ escape ∈ namedEscapes, escape.2 ≠ 'u' := by
  decide

theorem ne_newline_of_mem_namedEscapes :
    ∀ escape ∈ namedEscapes, escape.2 ≠ '\n' := by
  decide

/-- The ways to write a character between double quotes. -/
inductive Quotes : Char → List Char → Prop where
  | named {c name : Char} :
      (c, name) ∈ namedEscapes →
      Quotes c ['\\', name]
  | coded {c : Char} : Quotes c (codePointEscape c)
  | plain {c : Char} :
      namedEscapes.lookup c = none →
      Quotes c [c]

theorem quotes_quoteChar (c : Char) : Quotes c (quoteChar c) := by
  unfold quoteChar
  split
  · exact .named (by decide)
  · exact .named (by decide)
  · exact .named (by decide)
  · exact .named (by decide)
  · exact .named (by decide)
  · exact .named (by decide)
  · rename_i noNull noTab noLine noReturn noQuote noSlash
    by_cases visible : isVisible c = true
    · rw [if_pos visible]
      refine .plain ?_
      rw [List.lookup_eq_none_iff]
      simpa [namedEscapes] using ⟨noNull, noTab, noLine, noReturn,
        noQuote, noSlash⟩
    · rw [if_neg visible]
      exact .coded

namespace Quotes

variable {c other : Char} {written spelled rest behind : List Char}

theorem ne_backslash (unnamed : namedEscapes.lookup c = none) : c ≠ '\\' := by
  rintro rfl
  cases unnamed

/-- No way of writing a character can be taken for the closing quote. -/
theorem head_ne (quotes : Quotes c written) :
    written ++ rest ≠ '"' :: behind := by
  cases quotes with
  | named _ => simp
  | coded => simp [codePointEscape]
  | plain unnamed =>
      intro same
      cases same
      cases unnamed

/-- No way of writing a character begins a way of writing another. -/
theorem append_injective (quotes : Quotes c written)
    (others : Quotes other spelled)
    (same : written ++ rest = spelled ++ behind) :
    c = other ∧ rest = behind := by
  cases quotes with
  | named member =>
      cases others with
      | named otherMember =>
          simp only [List.cons_append, List.nil_append, List.cons.injEq,
            true_and] at same
          exact ⟨namedEscapes_injective _ member _ otherMember same.1, same.2⟩
      | coded =>
          simp only [codePointEscape, List.cons_append, List.nil_append,
            List.cons.injEq, true_and] at same
          exact absurd same.1 (ne_codePoint_of_mem_namedEscapes _ member)
      | plain unnamed =>
          exact absurd (List.head_eq_of_cons_eq same).symm
            (ne_backslash unnamed)
  | coded =>
      cases others with
      | named otherMember =>
          simp only [codePointEscape, List.cons_append, List.nil_append,
            List.cons.injEq, true_and] at same
          exact absurd same.1.symm
            (ne_codePoint_of_mem_namedEscapes _ otherMember)
      | coded =>
          simp only [codePointEscape, List.cons_append, List.nil_append,
            List.append_assoc, List.cons.injEq, true_and] at same
          obtain ⟨digits, rests⟩ :=
            word_append_injective (isAlphanum_hexDigits c.toNat)
            (isAlphanum_hexDigits other.toNat) rfl rfl same
          exact ⟨Char.toNat_inj.1 (hexDigits_injective digits),
            (List.cons.inj rests).2⟩
      | plain unnamed =>
          exact absurd (List.head_eq_of_cons_eq same).symm
            (ne_backslash unnamed)
  | plain unnamed =>
      cases others with
      | named _ =>
          exact absurd (List.head_eq_of_cons_eq same) (ne_backslash unnamed)
      | coded =>
          exact absurd (List.head_eq_of_cons_eq same) (ne_backslash unnamed)
      | plain _ => exact List.cons.inj same

end Quotes

/-- A quoted text is known by any text that begins with it. -/
theorem quoteChars_append_injective {text other rest behind : List Char}
    (same : quoteChars text ++ '"' :: rest = quoteChars other ++
      '"' :: behind) :
    text = other ∧ rest = behind := by
  induction text generalizing other with
  | nil =>
      cases other with
      | nil => exact ⟨rfl, (List.cons.inj same).2⟩
      | cons d other =>
          rw [quoteChars, quoteChars, List.flatMap_cons,
            List.append_assoc] at same
          exact absurd same.symm (quotes_quoteChar d).head_ne
  | cons c text inductionHypothesis =>
      rw [quoteChars, List.flatMap_cons, List.append_assoc] at same
      cases other with
      | nil => exact absurd same (quotes_quoteChar c).head_ne
      | cons d other =>
          rw [quoteChars, List.flatMap_cons, List.append_assoc] at same
          obtain ⟨rfl, further⟩ :=
            (quotes_quoteChar c).append_injective (quotes_quoteChar d) same
          obtain ⟨rfl, rests⟩ := inductionHypothesis further
          exact ⟨rfl, rests⟩

end Minilang.Text
