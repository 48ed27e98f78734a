import SqlLint.Syntax.Error
import SqlLint.Token.Lexeme

/-!
# The cursor of a batch

A parser walks over the lexemes of one batch. Its state is what lies ahead and the errors
recorded on the way; both survive a failure, so a caller can go on from where the failure
happened, or go back to where it started without forgetting what was recorded.

A place in a batch is what lies ahead of it. A move past the end of the batch stops at the end;
what lies ahead does not tell that it went too far, so a place also counts by how much moves have
gone too far. Going back does not undo the count.

Loops run through `repeatWhile`. A round that goes on takes at least one lexeme, so as many rounds
as there are lexemes ahead are always enough.
-/

namespace SqlLint

/-- A place in a batch. -/
structure Place where
  /-- What lies ahead. -/
  rest : List Lexeme
  /-- How many lexemes that are not there have been moved past so far. -/
  overrun : Nat
  deriving DecidableEq, Repr

/-- The place before a list of lexemes. -/
instance : Coe (List Lexeme) Place := ⟨fun ls => ⟨ls, 0⟩⟩

/-- Where a parser stands, and the errors recorded so far. -/
structure Cursor where
  place : Place
  errors : List SyntaxError
  deriving DecidableEq, Repr

namespace Cursor

/-- What lies ahead. -/
def rest (s : Cursor) : List Lexeme := s.place.rest

/-- How many lexemes that are not there have been moved past. -/
def overrun (s : Cursor) : Nat := s.place.overrun

/-- The cursor with something else ahead. -/
def moveTo (rest : List Lexeme) (s : Cursor) : Cursor := { s with place := { s.place with rest } }

/-- The cursor behind the next `n` lexemes, or at the end if there are fewer. -/
def advance (n : Nat) (s : Cursor) : Cursor :=
  { s with place := ⟨s.rest.drop n, s.overrun + (n - (s.rest.take n).length)⟩ }

/-- The cursor behind the first of the lexemes `ls`. If there is none, it has been moved too far. -/
def moveBehind (ls : List Lexeme) (s : Cursor) : Cursor := (s.moveTo ls).advance 1

/-- The cursor with one more error recorded. -/
def record (e : SyntaxError) (s : Cursor) : Cursor := { s with errors := s.errors ++ [e] }

end Cursor

/-- What does not change while a batch is read: the version read for, and the line reported for
errors at the end of the batch. -/
structure Context where
  version : Version
  endLine : Nat
  deriving DecidableEq, Repr

namespace Context

/-- The context of a batch: it ends on the line of its last lexeme. -/
def ofBatch (version : Version) (batch : List Lexeme) : Context :=
  ⟨version, (batch.getLast?.map (·.line)).getD 1⟩

/-- The line of the next lexeme, or the end line. -/
def lineAt (cx : Context) : List Lexeme → Nat
  | [] => cx.endLine
  | l :: _ => l.line

end Context

/-- A step over the lexemes of a batch that gives a value or fails with an error. -/
abbrev Parser := EStateM SyntaxError Cursor

namespace Parser

/-! ## Looking and moving -/

/-- The lexemes ahead. -/
def ahead : Parser (List Lexeme) := fun s => .ok s.rest s

/-- Whether the next lexeme is there and passes a test. -/
def atNext (test : Lexeme → Bool) : Parser Bool := fun s => .ok (s.rest.head?.any test) s

/-- Moves past `n` lexemes. -/
def advance (n : Nat) : Parser Unit := fun s => .ok () (s.advance n)

/-- Moves to a given place. -/
def moveTo (rest : List Lexeme) : Parser Unit := fun s => .ok () (s.moveTo rest)

/-- Moves past the first lexeme at a given place. -/
def moveBehind (ls : List Lexeme) : Parser Unit := fun s => .ok () (s.moveBehind ls)

/-- Records an error and goes on. -/
def record (e : SyntaxError) : Parser Unit := fun s => .ok () (s.record e)

/-- Moves past the next lexeme if it passes a test, and tells whether it did. -/
def eatIf (test : Lexeme → Bool) : Parser Bool := fun s =>
  match s.rest with
  | [] => .ok false s
  | l :: rest => if test l then .ok true (s.moveTo rest) else .ok false s

/-- Moves past a mark if it comes next. -/
def eat (m : Mark) : Parser Bool := eatIf (Lexeme.isMark m)

/-- Moves past a key word if it comes next. -/
def eatKeyword (k : Keyword) : Parser Bool := eatIf (Lexeme.isKeyword k)

/-! ## Failing -/

/-- Fails because something else was needed at this place. -/
def expected {α : Type} (cx : Context) (what : Expectation) : Parser α := fun s =>
  .error (.expected (cx.lineAt s.rest) what (s.rest.head?.map (·.token))) s

/-- Fails because of the next lexeme. At the end of the batch an expression is missing. -/
def unexpected {α : Type} (cx : Context) : Parser α := fun s =>
  match s.rest with
  | [] => expected cx .expression s
  | l :: _ => .error (.unexpected l.line l.token) s

/-- Fails because no level of nesting is left. -/
def tooDeep {α : Type} (cx : Context) : Parser α := fun s =>
  .error (.tooDeep (cx.lineAt s.rest)) s

/-- Fails unless the version has a feature. -/
def require (cx : Context) (f : Feature) : Parser Unit := fun s =>
  if cx.version.supports f then .ok () s
  else .error (.unsupported (cx.lineAt s.rest) f cx.version) s

/-- Moves past a mark, which has to come next. -/
def expect (cx : Context) (m : Mark) : Parser Unit := do
  unless ← eat m do expected cx (.mark m)

/-- Moves past a key word, which has to come next. -/
def expectKeyword (cx : Context) (k : Keyword) : Parser Unit := do
  unless ← eatKeyword k do expected cx (.keyword k)

/-- Moves past any lexeme, which has to be there. -/
def expectAny (cx : Context) (what : Expectation) : Parser Unit := do
  unless ← eatIf fun _ => true do expected cx what

/-! ## Repeating -/

/-- At most one round of `step` for each lexeme of `budget`, each round with the value of the one
before, until one of them gives none. -/
def rounds {α : Type} (step : α → Parser (Option α)) (budget : List Lexeme) (a : α) : Parser α :=
  match budget with
  | [] => pure a
  | _ :: budget => do
    match ← step a with
    | none => pure a
    | some b => rounds step budget b

/-- Repeats `step` until it gives none. A round that gives a value has to take a lexeme. -/
def repeatWhile {α : Type} (step : α → Parser (Option α)) (a : α) : Parser α := fun s =>
  rounds step s.rest a s

/-- A round of reading a list: another item if a comma comes next. The last item comes first. -/
def commaRound {α : Type} (item : Parser α) (items : List α) : Parser (Option (List α)) := do
  if ← eat .comma then
    let next ← item
    return some (next :: items)
  else return none

/-- One item, and another one behind every comma. -/
def commaSeparated {α : Type} (item : Parser α) : Parser (List α) := do
  let first ← item
  let items ← repeatWhile (commaRound item) [first]
  return items.reverse

end Parser

end SqlLint
