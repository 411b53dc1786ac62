import Minilang.Proofs.Embedding.Reading
import Minilang.Proofs.Joining.Scopes
import Minilang.Proofs.Joining.Text

/-!
# Two programs in one source

The lines of one program may be followed by those of another. The first program
is found again in the joined source where it was, if its last statement does not
go on over the first lexeme of the second: `Embedding.front`. The second program
is found again further below, with its scopes behind those of the first:
`Embedding.back`.
-/

namespace Minilang

namespace Position

variable {position : Position} {count : Nat}

/-- The place so many lines further below. -/
def below (count : Nat) (position : Position) : Position :=
  { position with line := position.line + count }

theorem next_below (c : Char) :
    (position.below count).next c = (position.next c).below count := by
  by_cases newline : c = '\n'
  · rw [next, next, if_pos newline, if_pos newline, below, below]
    simp [Nat.add_right_comm]
  · rw [next, next, if_neg newline, if_neg newline, below, below]

theorem after_below (text : List Char) :
    (position.below count).after text = (position.after text).below count := by
  induction text generalizing position with
  | nil => rfl
  | cons c text inductionHypothesis =>
      rw [after_cons, after_cons, next_below, inductionHypothesis]

/-- Each newline of a text leads to the next line, and no character to another
file. -/
theorem line_after (text : List Char) :
    (position.after text).line = position.line + text.count '\n' ∧
      (position.after text).file = position.file := by
  induction text generalizing position with
  | nil => exact ⟨rfl, rfl⟩
  | cons c text inductionHypothesis =>
      obtain ⟨line, file⟩ := @inductionHypothesis (position.next c)
      rw [after_cons, line, file, next]
      by_cases newline : c = '\n'
      · rw [if_pos newline, newline, List.count_cons_self]
        exact ⟨by dsimp only; omega, rfl⟩
      · rw [if_neg newline, List.count_cons_of_ne newline]
        exact ⟨rfl, rfl⟩

/-- A text begins on the line below another text. -/
theorem next_newline_after (text : List Char) (file : String) :
    ((Position.start file).after text).next '\n' =
      (Position.start file).below (text.count '\n' + 1) := by
  obtain ⟨line, sameFile⟩ := @line_after (.start file) text
  rw [next, if_pos rfl, line, sameFile]
  rfl

end Position

namespace Embedding

open Lexeme

/-! ## The first program -/

/-- No statement goes on over the text. -/
structure Separates (text : List Char) : Prop where
  noSymbol : ∀ symbol ∈ Token.symbols, ¬ symbol.toList <+: text
  noElse : word? text ≠ some "else"

/-- The other cursor stands at the next lexeme of the source with further lines
behind it. -/
structure Continues (lines : List Char) (last : Position)
    (cursor other : Cursor) : Prop where
  atLexeme : triviaLength cursor.rest = 0
  last : cursor.position.after cursor.rest = last
  other : other = (cursor.extend lines).skipTrivia

section Continues

variable {lines : List Char} {last : Position} {cursor other : Cursor}

theorem after_drop (cursor : Cursor) (count : Nat) :
    (cursor.drop count).position.after (cursor.drop count).rest =
      cursor.position.after cursor.rest := by
  rw [Cursor.drop, ← Position.after_append, List.take_append_drop]

theorem continues_skipTrivia
    (reaches : cursor.position.after cursor.rest = last) :
    Continues lines last cursor.skipTrivia
      (cursor.extend lines).skipTrivia where
  atLexeme := Layout.triviaLength_drop cursor.rest
  last := (after_drop cursor _).trans reaches
  other := (Cursor.skipTrivia_extend cursor lines).symm

theorem Continues.eq_extend (continues : Continues lines last cursor other)
    (more : cursor.rest ≠ []) : other = cursor.extend lines :=
  continues.other.trans
    (Cursor.skipTrivia_extend_of_ne_nil lines continues.atLexeme more)

/-- Before the end of the first source its trivia has not run on into the
further lines. -/
theorem Continues.rest_eq (continues : Continues lines last cursor other)
    (more : cursor.rest ≠ []) : other.rest = cursor.rest ++ '\n' :: lines := by
  rw [continues.eq_extend more]
  rfl

/-- Where the first program ends, the other cursor stands at the first lexeme of
the lines. -/
theorem Continues.rest_eq_of_nil (continues : Continues lines last cursor other)
    (ends : cursor.rest = []) :
    other.rest = Layout.skipTrivia ('\n' :: lines) := by
  rw [continues.other, Cursor.extend, ends]
  rfl

end Continues

theorem not_mem_symbol {symbol : String} (isSymbol : symbol ∈ Token.symbols) :
    '\n' ∉ symbol.toList := by
  have sameLine : ∀ symbol ∈ Token.symbols, '\n' ∉ symbol.toList := by
    decide +kernel
  exact sameLine symbol isSymbol

theorem ne_nil_of_isAhead {text : List Char} {count : Nat}
    (isAhead : IsAhead count text) :
    text ≠ [] := by
  intro empty
  subst empty
  cases isAhead with
  | word found => cases found
  | symbol isSymbol ahead =>
      have nonempty : ∀ symbol ∈ Token.symbols, symbol.toList ≠ [] := by
        decide +kernel
      exact nonempty _ isSymbol (List.prefix_nil.1 ahead)
  | numeral found => cases found

/-- The first of two programs, at its old places and with its old scopes. -/
def front (lines : List Char) (last : Position)
    (separates : Separates (Layout.skipTrivia ('\n' :: lines))) :
    Embedding where
  place := id
  scope := id
  Free _ := True
  Like := Continues lines last
  Over := Eq
  position continues more := by
    rw [continues.eq_extend more]
    rfl
  word {cursor other word} continues found := by
    have more : cursor.rest ≠ [] := by
      intro empty
      rw [Cursor.word?, empty] at found
      cases found
    rw [Cursor.word?, continues.rest_eq more, word?_newline]
    exact found
  noElse {cursor other} continues absent := by
    by_cases ends : cursor.rest = []
    · rw [Cursor.word?, continues.rest_eq_of_nil ends]
      exact separates.noElse
    · rw [Cursor.word?, continues.rest_eq ends, word?_newline]
      exact absent
  symbol {cursor other text} continues isSymbol := by
    by_cases ends : cursor.rest = []
    · rw [continues.rest_eq_of_nil ends, ends]
      constructor
      · intro ahead
        exact absurd rfl (ne_nil_of_isAhead (.symbol isSymbol ahead))
      · intro ahead
        exact absurd ahead (separates.noSymbol text isSymbol)
    · rw [continues.rest_eq ends,
        prefix_newline_iff lines (not_mem_symbol isSymbol)]
  numeral {cursor other digits} continues found := by
    rw [continues.rest_eq (ne_nil_of_isAhead (.numeral found)),
      numeral?_newline]
    exact found
  string {cursor other body contents length} continues ahead closed := by
    have more : cursor.rest ≠ [] := by
      rw [ahead]
      exact List.cons_ne_nil _ _
    refine ⟨body ++ '\n' :: lines, ?_, stringBody?_append closed _⟩
    rw [continues.rest_eq more, ahead, List.cons_append]
  behind {cursor other count} continues isAhead := by
    have within := isAhead.le_length
    rw [continues.eq_extend (ne_nil_of_isAhead isAhead), Cursor.advance,
      Cursor.advance, Cursor.drop_extend lines within]
    exact continues_skipTrivia ((after_drop cursor count).trans continues.last)
  current same current := same ▸ current
  enter {scopes other inner} same enters := ⟨inner, same ▸ enters, rfl⟩
  exit {scopes other outer} same exits := ⟨outer, same ▸ exits, rfl⟩
  declare {scopes other later id inside name type} same _ _ declares :=
    ⟨later, same ▸ declares, rfl⟩
  function {scopes other declared later id inside name signature} same
    _ _ declares binds :=
    ⟨declared, later, same ▸ declares, binds, rfl⟩

/-! ## The second program -/

/-- The other cursor stands before the same text, so many lines further
below. -/
structure IsBelow (count : Nat) (cursor other : Cursor) : Prop where
  rest : other.rest = cursor.rest
  position : other.position = cursor.position.below count

theorem isBelow_drop {count : Nat} {cursor other : Cursor}
    (isBelow : IsBelow count cursor other)
    (length : Nat) :
    IsBelow count (cursor.drop length) (other.drop length) := by
  constructor
  · rw [Cursor.drop, Cursor.drop, isBelow.rest]
  · rw [Cursor.drop, Cursor.drop, isBelow.rest, isBelow.position,
      Position.after_below]

theorem isBelow_skipTrivia {count : Nat} {cursor other : Cursor}
    (isBelow : IsBelow count cursor other) :
    IsBelow count cursor.skipTrivia other.skipTrivia := by
  rw [Cursor.skipTrivia, Cursor.skipTrivia, isBelow.rest]
  exact isBelow_drop isBelow _

/-- The second of two programs, so many lines below its old places, with its
scopes behind those of the first. -/
def back (count : Nat) (first : Scopes) (around : Scope) : Embedding where
  place := Position.below count
  scope := ScopeId.behind first.all.size
  Free name := name ∉ around.declared
  Like := IsBelow count
  Over := Joined first around
  position isBelow _ := isBelow.position
  word isBelow found := by rwa [Cursor.word?, isBelow.rest]
  noElse isBelow absent := by rwa [Cursor.word?, isBelow.rest]
  symbol isBelow _ := by rw [isBelow.rest]
  numeral isBelow found := by rwa [isBelow.rest]
  string {cursor other body contents length} isBelow ahead closed :=
    ⟨body, isBelow.rest.trans ahead, closed⟩
  behind isBelow _ := isBelow_skipTrivia (isBelow_drop isBelow _)
  current joined current := joined.current current
  enter joined enters := joined.enter enters
  exit joined exits := joined.exit exits
  declare joined stands free declares := joined.declare? stands free declares
  function joined stands free declares binds :=
    joined.declare?_bind stands free declares binds

theorem continues_start {text lines : List Char} {position : Position} :
    Continues lines (position.after text) (Cursor.skipTrivia ⟨position, text⟩)
      (Cursor.skipTrivia ⟨position, text ++ '\n' :: lines⟩) :=
  @continues_skipTrivia lines _ ⟨position, text⟩ rfl

/-- Where the first program ends, the second begins. -/
theorem isBelow_start {text lines : List Char} {file : String}
    {cursor other : Cursor}
    (continues : Continues lines ((Position.start file).after text)
      cursor other)
    (ends : cursor.rest = []) :
    IsBelow (text.count '\n' + 1)
      (Cursor.skipTrivia ⟨.start file, lines⟩) other := by
  have place : cursor.position = (Position.start file).after text := by
    have reaches := continues.last
    rwa [ends] at reaches
  have newline :
      other = Cursor.skipTrivia ⟨cursor.position.next '\n', lines⟩ := by
    rw [continues.other, Cursor.skipTrivia, Cursor.extend, ends,
      List.nil_append, triviaLength_cons_newline]
    rfl
  rw [newline, place, Position.next_newline_after]
  exact isBelow_skipTrivia ⟨rfl, rfl⟩

end Embedding

end Minilang
