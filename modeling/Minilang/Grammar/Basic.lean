import Minilang.Cursor.Scan
import Minilang.Node.Basic

/-!
# Reading a program

A reading step moves a cursor over a source and opens, fills and leaves scopes
on the way. It may fail, and then the state that it leaves counts as well.

Two combinators repeat steps, `many` and `recur`. Each repetition has to begin
at a shorter text than the one before, and a repetition that does not is a
fault, so that reading ends whatever the steps do. The lemmas `run_` give the
effect of each step; those of the combinators, `run_many` and `run_recur`,
unfold a repetition once.
-/

namespace Minilang

/-- The state of a reading: where it stands, and the scopes so far. -/
structure Parser where
  cursor : Cursor
  scopes : Scopes
deriving DecidableEq, Repr

/-- The number of characters that are left to read. -/
def Parser.left (parser : Parser) : Nat :=
  parser.cursor.rest.length

/-- A step of a reading. -/
abbrev Parse := EStateM Failure Parser

namespace Parse

variable {α : Type}

/-- The result of a question about the text ahead. -/
def ask (question : Cursor → α) : Parse α := fun parser =>
  .ok (question parser.cursor) parser

def position : Parse Position :=
  ask Cursor.position

def fail (cause : Cause) (position : Position) : Parse α := fun parser =>
  .error (.diagnostic ⟨cause, position⟩) parser

def attempt (lexeme? : Cursor → Option (α × Cursor)) :
    Parse (Option α) := fun parser =>
  match lexeme? parser.cursor with
  | some (value, behind) => .ok (some value) { parser with cursor := behind }
  | none => .ok none parser

/-- Moves over what the question finds, and tells if it was there. -/
def advanceIf (behind? : Cursor → Option Cursor) : Parse Bool := fun parser =>
  match behind? parser.cursor with
  | some behind => .ok true { parser with cursor := behind }
  | none => .ok false parser

def accept (text : String) : Parse Bool :=
  advanceIf (·.accept? text)

def acceptKeyword (word : String) : Parse Bool :=
  advanceIf (·.keyword? word)

def scan (step : Scan α) : Parse α := fun parser =>
  match step.run parser.cursor with
  | .ok value behind => .ok value { parser with cursor := behind }
  | .error diagnostic behind =>
      .error (.diagnostic diagnostic) { parser with cursor := behind }

def expect (text : String) : Parse Unit :=
  scan (Scan.expect text)

@[simp]
theorem run_ask (question : Cursor → α) (parser : Parser) :
    (ask question).run parser = .ok (question parser.cursor) parser :=
  rfl

@[simp]
theorem run_position (parser : Parser) :
    position.run parser = .ok parser.cursor.position parser :=
  rfl

@[simp]
theorem run_fail (cause : Cause) (position : Position) (parser : Parser) :
    (fail cause position : Parse α).run parser =
      .error (.diagnostic ⟨cause, position⟩) parser :=
  rfl

theorem run_attempt (lexeme? : Cursor → Option (α × Cursor)) (parser : Parser) :
    (attempt lexeme?).run parser =
      match lexeme? parser.cursor with
      | some (value, behind) =>
          .ok (some value) { parser with cursor := behind }
      | none => .ok none parser :=
  rfl

theorem run_accept (text : String) (parser : Parser) :
    (accept text).run parser =
      match parser.cursor.accept? text with
      | some behind => .ok true { parser with cursor := behind }
      | none => .ok false parser :=
  rfl

theorem run_scan (step : Scan α) (parser : Parser) :
    (scan step).run parser =
      match step.run parser.cursor with
      | .ok value behind => .ok value { parser with cursor := behind }
      | .error diagnostic behind =>
          .error (.diagnostic diagnostic) { parser with cursor := behind } :=
  rfl

def changeScopes (change : Scopes → Except Fault Scopes) :
    Parse Unit := fun parser =>
  match change parser.scopes with
  | .ok scopes => .ok () { parser with scopes }
  | .error fault => .error (.fault fault) parser

def currentScope : Parse ScopeId := fun parser =>
  match parser.scopes.current with
  | .ok id => .ok id parser
  | .error fault => .error (.fault fault) parser

/-- Declares a name in the current scope. The place is that of the
declaration. -/
def declare (name : String) (type : DataType)
    (position : Position) : Parse Unit := fun parser =>
  match parser.scopes.declare? name type with
  | .ok (some scopes) => .ok () { parser with scopes }
  | .ok none => .error (.diagnostic ⟨.alreadyDeclared name, position⟩) parser
  | .error fault => .error (.fault fault) parser

/-- Takes a step inside a new scope, and leaves the scope whether or not the
step succeeds. -/
def inScope (step : Parse α) : Parse α := fun parser =>
  match (changeScopes Scopes.enter).run parser with
  | .error failure later => .error failure later
  | .ok _ inner =>
      match step.run inner with
      | .ok value later => (changeScopes Scopes.exit *> pure value).run later
      | .error failure later =>
          (changeScopes Scopes.exit *> throw failure).run later

theorem run_changeScopes (change : Scopes → Except Fault Scopes)
    (parser : Parser) :
    (changeScopes change).run parser =
      match change parser.scopes with
      | .ok scopes => .ok () { parser with scopes }
      | .error fault => .error (.fault fault) parser :=
  rfl

theorem run_currentScope (parser : Parser) :
    currentScope.run parser =
      match parser.scopes.current with
      | .ok id => .ok id parser
      | .error fault => .error (.fault fault) parser :=
  rfl

theorem run_declare (name : String) (type : DataType) (position : Position)
    (parser : Parser) :
    (declare name type position).run parser =
      match parser.scopes.declare? name type with
      | .ok (some scopes) => .ok () { parser with scopes }
      | .ok none =>
          .error (.diagnostic ⟨.alreadyDeclared name, position⟩) parser
      | .error fault => .error (.fault fault) parser :=
  rfl

theorem run_inScope (step : Parse α) (parser : Parser) :
    (inScope step).run parser =
      match (changeScopes Scopes.enter).run parser with
      | .error failure later => .error failure later
      | .ok _ inner =>
          match step.run inner with
          | .ok value later =>
              (changeScopes Scopes.exit *> pure value).run later
          | .error failure later =>
              (changeScopes Scopes.exit *> throw failure).run later :=
  rfl

/-! ## Repetition -/

/-- The step itself where less text is left than the given number of characters,
and a fault elsewhere. -/
def below (bound : Nat) (step : Parse α) : Parse α := fun parser =>
  if parser.left < bound then step.run parser
  else .error (.fault .stalled) parser

/-- The outcome of taking a step again and again from the given state. -/
def manyFrom (step : Parse (Option α)) (parser : Parser) :
    EStateM.Result Failure Parser (List α) :=
  match step.run parser with
  | .error failure later => .error failure later
  | .ok none later => .ok [] later
  | .ok (some value) later =>
      if later.left < parser.left then
        match manyFrom step later with
        | .error failure last => .error failure last
        | .ok values last => .ok (value :: values) last
      else .error (.fault .stalled) later
termination_by parser.left

/-- Takes a step again and again until it finds nothing, and yields what it
found. -/
def many (step : Parse (Option α)) : Parse (List α) :=
  manyFrom step

/-- The outcome of a step that uses itself, from the given state. -/
def recurFrom (step : Parse α → Parse α) (parser : Parser) :
    EStateM.Result Failure Parser α :=
  (step fun later =>
    if later.left < parser.left then recurFrom step later
    else .error (.fault .stalled) later).run parser
termination_by parser.left

/-- The step that may use itself on shorter texts. -/
def recur (step : Parse α → Parse α) : Parse α :=
  recurFrom step

/-- Where the text is not shorter the step stalls instead of going on without
end. -/
theorem run_below (bound : Nat) (step : Parse α) (parser : Parser) :
    (below bound step).run parser =
      if parser.left < bound then step.run parser
      else .error (.fault .stalled) parser :=
  rfl

/-- A repetition unfolded once: what was found is kept, and the rest has to
begin at a shorter text. -/
theorem run_many (step : Parse (Option α)) (parser : Parser) :
    (many step).run parser =
      match step.run parser with
      | .error failure later => .error failure later
      | .ok none later => .ok [] later
      | .ok (some value) later =>
          match (below parser.left (many step)).run later with
          | .error failure last => .error failure last
          | .ok values last => .ok (value :: values) last := by
  change manyFrom step parser = _
  rw [manyFrom]
  cases step.run parser with
  | error failure later => rfl
  | ok found later =>
      cases found with
      | none => rfl
      | some value =>
          simp only [run_below]
          split <;> rfl

/-- A recursion unfolded once: the uses inside have to begin at a shorter
text. -/
theorem run_recur (step : Parse α → Parse α) (parser : Parser) :
    (recur step).run parser =
      (step (below parser.left (recur step))).run parser := by
  change recurFrom step parser = _
  rw [recurFrom]
  rfl

end Parse

end Minilang
