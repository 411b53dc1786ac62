import Minilang.Proofs.Rejection.Statement
import Minilang.Proofs.Scanning.Strings
import Minilang.Proofs.Soundness.Compiled
import Minilang.Proofs.Spelling.Places

namespace Minilang

/-- A report says what is found ahead: the end of the text, the first character
in backquotes, or, where words are reported, the longest word with which the
text begins. -/
def IsFound (words : Prop) (found : String) (ahead : List Char) : Prop :=
  (found = "end of input" ↔ ahead = []) ∧
    ∀ c rest, ahead = c :: rest →
      (words ∧ c.isAlpha = true →
        found = "`" ++
          String.ofList (ahead.takeWhile Lexeme.isWordChar) ++ "`") ∧
      (¬ (words ∧ c.isAlpha = true) → found = "`" ++ String.singleton c ++ "`")

/-- The text begins with digits and a point, as long as they go, but no digit
follows the point. -/
def IsMalformed (token : String) (ahead : List Char) : Prop :=
  ∃ digits rest, ahead = digits ++ '.' :: rest ∧ Token.AreDigits digits ∧
    token.toList = digits ++ ['.'] ∧ ∀ c ∈ rest.head?, c.isDigit = false

/-- The text begins with the word of a type, and the next lexeme is the name. -/
def BeginsDeclaration (name : String) (ahead : List Char) : Prop :=
  ∃ word gap rest, word ∈ DataType.words.map Prod.fst ∧
    ahead = word.toList ++ (gap ++ (name.toList ++ rest)) ∧
    Lexeme.word? ahead = some word ∧
    Lexeme.triviaLength (gap ++ (name.toList ++ rest)) = gap.length ∧
    Lexeme.word? (name.toList ++ rest) = some name ∧
      Lexeme.isReserved name = false

/-- The text ahead is as the cause of a rejection tells. No other causes come up
in reading. -/
def Cause.Describes : Cause → List Char → Prop
  | .unexpectedToken expected found, ahead =>
      IsFound (expected = "expression") found ahead
  | .expectedType found, ahead => IsFound False found ahead
  | .expectedIdentifier found, ahead => IsFound True found ahead
  | .malformedNumber token, ahead => IsMalformed token ahead
  | .unterminatedString, ahead =>
      ∃ body, ahead = '"' :: body ∧ .plain '"' ∉ Piece.cut body
  | .alreadyDeclared name, ahead => BeginsDeclaration name ahead
  | _, _ => False

/-- What stands in backquotes is no other text. -/
theorem backquoted_ne {other : String} (noQuote : other.toList.head? ≠ some '`')
    (text : String) :
    "`" ++ text ++ "`" ≠ other := by
  rintro rfl
  exact noQuote (by simp)

theorem isFound_end (words : Prop) : IsFound words "end of input" [] := by
  refine ⟨iff_of_true rfl rfl, ?_⟩
  intro c rest impossible
  cases impossible

theorem isFound_backquoted {words : Prop} {text : String} {c : Char}
    {rest : List Char}
    (word : words ∧ c.isAlpha = true →
      text = String.ofList ((c :: rest).takeWhile Lexeme.isWordChar))
    (character : ¬ (words ∧ c.isAlpha = true) → text = String.singleton c) :
    IsFound words ("`" ++ text ++ "`") (c :: rest) := by
  refine ⟨iff_of_false (backquoted_ne (by decide) text)
    (List.cons_ne_nil c rest), ?_⟩
  intro d others same
  cases same
  exact ⟨fun known => by rw [word known], fun known => by rw [character known]⟩

namespace Cursor

theorem isFound_describe {words : Prop} (noWords : ¬ words) (cursor : Cursor) :
    IsFound words cursor.describe cursor.rest := by
  unfold describe
  cases cursor.rest with
  | nil => exact isFound_end words
  | cons c rest =>
      exact isFound_backquoted (fun word => absurd word.1 noWords) fun _ => rfl

/-- A report about words shows the whole word, and only without one the next
character. -/
theorem isFound_describeWord {words : Prop} (asked : words) (cursor : Cursor) :
    IsFound words cursor.describeWord cursor.rest := by
  unfold describeWord word? describe
  cases cursor.rest with
  | nil => exact isFound_end words
  | cons c rest =>
      by_cases letter : c.isAlpha = true
      · rw [Lexeme.word?_cons_of_isAlpha letter]
        exact isFound_backquoted (fun _ => rfl) fun absent =>
          absurd ⟨asked, letter⟩ absent
      · rw [Lexeme.word?_eq_none_of_head? rfl (Bool.eq_false_iff.2 letter)]
        exact isFound_backquoted (fun word => absurd word.2 letter) fun _ => rfl

end Cursor

namespace Lexeme

theorem split_of_word? {word : String} {text : List Char}
    (found : word? text = some word) :
    text = word.toList ++ text.drop word.length := by
  have ahead := ((word?_eq_some_iff (isWord_of_word? found)).1 found).1
  rw [← String.length_toList]
  exact (List.prefix_iff_eq_append.1 ahead).symm

/-- A numeral ends with its point when no digit follows the point. -/
theorem isMalformed_of_numeral? {token : String} {text : List Char}
    (found : numeral? text = some token)
    (last : token.toList.getLast? = some '.') :
    IsMalformed token text := by
  have taken (text : List Char) : ∀ c ∈ text.takeWhile Char.isDigit,
      c.isDigit = true :=
    fun c member => List.mem_takeWhile_imp member
  have whole : text = text.takeWhile Char.isDigit ++
      text.dropWhile Char.isDigit :=
    List.takeWhile_append_dropWhile.symm
  rw [numeral?] at found
  split at found
  · cases found
  · rename_i nonempty
    split at found
    · rename_i rest point
      obtain rfl := Option.some.inj found
      rw [String.toList_ofList, List.getLast?_append_cons] at last
      have ends : rest.takeWhile Char.isDigit = [] := by
        cases part : rest.takeWhile Char.isDigit with
        | nil => rfl
        | cons c others =>
            rw [part, List.getLast?_cons_cons, ← part] at last
            exact absurd last (getLast?_ne_of_digits (taken rest))
      rw [point] at whole
      refine ⟨_, rest, whole, ⟨nonempty, taken text⟩, ?_, fun c head => ?_⟩
      · rw [String.toList_ofList, ends]
      · obtain ⟨others, rfl⟩ := List.head?_eq_some_iff.1 head
        exact Bool.eq_false_iff.2 fun digit => by simp [digit] at ends
    · obtain rfl := Option.some.inj found
      rw [String.toList_ofList] at last
      exact absurd last (getLast?_ne_of_digits (taken text))

end Lexeme

namespace Cursor

/-- What the words of a type and of a name have moved over begins a
declaration. -/
theorem beginsDeclaration {cursor typed named : Cursor} {type : DataType}
    {name : String} (typeFound : cursor.type? = some (type, typed))
    (nameFound : typed.identifier? = some (name, named)) :
    BeginsDeclaration name cursor.rest := by
  obtain ⟨entry, member, _, word, rfl⟩ := type?_eq_some.1 typeFound
  obtain ⟨nameAhead, free, _⟩ := identifier?_eq_some.1 nameFound
  generalize behindType : cursor.rest.drop entry.1.length = behind
  have behindGap : (cursor.advance entry.1.length).rest =
      behind.drop (Lexeme.triviaLength behind) := by
    rw [← behindType]
    rfl
  rw [word?, behindGap] at nameAhead
  have typeSplit := Lexeme.split_of_word? word
  have nameSplit := Lexeme.split_of_word? nameAhead
  have gapSplit := List.take_append_drop (Lexeme.triviaLength behind) behind
  rw [behindType] at typeSplit
  rw [nameSplit] at gapSplit
  refine ⟨entry.1, behind.take (Lexeme.triviaLength behind), _,
    List.mem_map_of_mem member, ?_, word, ?_, nameSplit ▸ nameAhead, free⟩
  · rw [gapSplit, ← typeSplit]
  · rw [gapSplit, List.length_take_of_le (Lexeme.triviaLength_le behind)]

end Cursor

namespace Grammar

/-- A declaration begins with the word of its type and its name. -/
theorem ReadsToDeclaring.begins {part : Part} {name : String} {type : DataType}
    {start stop : Parser} (reads : ReadsToDeclaring part name type start stop) :
    BeginsDeclaration name start.cursor.rest := by
  cases reads with
  | parameter typed named => exact Cursor.beginsDeclaration typed named
  | uninitialized typed named => exact Cursor.beginsDeclaration typed named
  | initialized typed named => exact Cursor.beginsDeclaration typed named
  | function head =>
      cases head with
      | head typed named => exact Cursor.beginsDeclaration typed named

/-- The text at the place of a refusal is as its cause tells. A name that is
declared already has been read as that of a declaration at the place. -/
theorem Refuses.describes {source : Cursor} {origin : Parser}
    {diagnostic : Diagnostic} {cursor : Cursor} {scopes : Array Scope}
    (refuses : Refuses source origin diagnostic cursor scopes) :
    ∃ here, source.Rests here ∧ here.position = diagnostic.position ∧
      diagnostic.cause.Describes here.rest ∧
      ∀ name, diagnostic.cause = .alreadyDeclared name →
        ∃ part items type start stop,
        start.cursor = here ∧ Inside origin part items start ∧
        ReadsToDeclaring part name type start stop := by
  cases refuses with
  | text rests absent =>
      exact ⟨_, rests, rfl,
        Cursor.isFound_describe (backquoted_ne (by decide) _) _, nofun⟩
  | expression rests absent =>
      exact ⟨_, rests, rfl, Cursor.isFound_describeWord rfl _, nofun⟩
  | behindProgram rests more =>
      exact ⟨_, rests, rfl, Cursor.isFound_describe (by decide) _, nofun⟩
  | type rests absent =>
      exact ⟨_, rests, rfl, Cursor.isFound_describe not_false _, nofun⟩
  | identifier rests absent =>
      exact ⟨_, rests, rfl, Cursor.isFound_describeWord trivial _, nofun⟩
  | number rests numeral last =>
      exact ⟨_, rests, rfl, Lexeme.isMalformed_of_numeral? numeral last, nofun⟩
  | string rests quote unclosed =>
      exact ⟨_, rests, rfl,
        ⟨_, quote, Lexeme.stringBody?_eq_none_iff.1 unclosed⟩, nofun⟩
  | declaration rests inside reads declared =>
      refine ⟨_, rests, rfl, reads.begins, fun name same => ?_⟩
      cases same
      exact ⟨_, _, _, _, _, rfl, inside, reads⟩

end Grammar

namespace Program

open Grammar

variable {source file : String}

/-- When a source is rejected as it is read, the text before the place of the
diagnostic and the text ahead of it make up the source without its carriage
returns, and the text ahead is as the cause tells. Nothing is ahead exactly if
the place is that of the end. An identifier that is declared already has been
read at the place, up to where it was to be declared. -/
theorem describes_of_parse {failure : Failure}
    (rejected : parse source file = .error failure) :
    ∃ diagnostic before ahead, failure = .diagnostic diagnostic ∧
      before ++ ahead = source.toList.filter (· != '\r') ∧
      diagnostic.position = (Position.start file).after before ∧
      (ahead = [] ↔ diagnostic.position =
        (Position.start file).after (source.toList.filter (· != '\r'))) ∧
      diagnostic.cause.Describes ahead ∧
      ∀ name, diagnostic.cause = .alreadyDeclared name →
        ∃ part items type here later,
        here.cursor = ⟨diagnostic.position, ahead⟩ ∧
        Inside (.start source file) part items here ∧
        ReadsToDeclaring part name type here later := by
  cases failure with
  | fault fault => exact absurd rejected (parse_ne_fault fault)
  | diagnostic diagnostic =>
      obtain ⟨stop, _, refuses⟩ := refuses_of_parse rejected
      obtain ⟨here, rests, place, describes, declares⟩ := refuses.describes
      obtain ⟨before, split, position⟩ := rests.reaches.split_source
      refine ⟨diagnostic, before, here.rest, rfl, split, place ▸ position, ?_,
        describes, ?_⟩
      · rw [← place, position, ← split, Position.after_append]
        exact Position.after_eq_self_iff.symm.trans eq_comm
      · rw [← place]
        exact declares

/-- A reserved word behind a comment where an operand is missing, and a name
that is declared twice. -/
theorem describes_of_parse_missing :
    parse "print 1 + // c\r\n  while" "f.code" =
        .error (.diagnostic
          ⟨.unexpectedToken "expression" "`while`", ⟨"f.code", 2, 3⟩⟩) ∧
      (∃ before ahead,
        before ++ ahead =
          "print 1 + // c\r\n  while".toList.filter (· != '\r') ∧
        ⟨"f.code", 2, 3⟩ = (Position.start "f.code").after before ∧ ahead ≠ [] ∧
        IsFound ("expression" = "expression") "`while`" ahead) ∧
      parse "int a\r\n\tfloat a = 1.5" "f.code" =
        .error (.diagnostic ⟨.alreadyDeclared "a", ⟨"f.code", 2, 2⟩⟩) ∧
      ∃ before ahead, before ++
        ahead = "int a\r\n\tfloat a = 1.5".toList.filter (· != '\r') ∧
        ⟨"f.code", 2, 2⟩ = (Position.start "f.code").after before ∧
        BeginsDeclaration "a" ahead ∧
        ∃ part items type here later, here.cursor = ⟨⟨"f.code", 2, 2⟩, ahead⟩ ∧
          Inside (.start "int a\r\n\tfloat a = 1.5" "f.code") part items here ∧
          ReadsToDeclaring part "a" type here later := by
  have missing := eq_error_of_failsWith <|
    show Steps.failsWith
      (.diagnostic ⟨.unexpectedToken "expression" "`while`", ⟨"f.code", 2, 3⟩⟩)
      (parse "print 1 + // c\r\n  while" "f.code") = true by decide +kernel
  have twice := eq_error_of_failsWith <|
    show Steps.failsWith (.diagnostic ⟨.alreadyDeclared "a", ⟨"f.code", 2, 2⟩⟩)
      (parse "int a\r\n\tfloat a = 1.5" "f.code") = true by decide +kernel
  refine ⟨missing, ?_, twice, ?_⟩
  · obtain ⟨_, before, ahead, same, split, place, ends, found, _⟩ :=
      describes_of_parse missing
    cases same
    exact ⟨before, ahead, split, place, mt ends.1 (by decide +kernel), found⟩
  · obtain ⟨_, before, ahead, same, split, place, _, begins, declares⟩ :=
      describes_of_parse twice
    cases same
    exact ⟨before, ahead, split, place, begins, declares "a" rfl⟩

end Program

end Minilang
