import SqlLint.Parse.Cursor
import SqlLint.Syntax.Expr

/-!
# Reading variables, names and type references

The small parts that statements and expressions are made of.
-/

namespace SqlLint

/-- The variable that a lexeme is. -/
def Lexeme.variableHere? (l : Lexeme) : Option Variable :=
  l.variableName?.map (⟨·, l.line⟩)

namespace Parser

/-- The variable that comes next, if one does. -/
def nextVariable? : Parser (Option Variable) := do
  return (← ahead).head?.bind Lexeme.variableHere?

/-- Reads a variable. -/
def takeVariable (cx : Context) : Parser Variable := do
  match ← nextVariable? with
  | some v =>
    advance 1
    return v
  | none => expected cx .variableName

/-- The further parts of a name, each behind a period, and what follows them. A period that no
name part follows is left where it is. -/
def nameTail : List Lexeme → List String × List Lexeme
  | dot :: part :: rest =>
    match part.namePart? with
    | some text =>
      if dot.isMark .period then
        let (texts, after) := nameTail rest
        (text :: texts, after)
      else ([], dot :: part :: rest)
    | none => ([], dot :: part :: rest)
  | rest => ([], rest)

/-- Reads a name, possibly qualified; `what` is what its absence is called. -/
def takeName (cx : Context) (what : Expectation) : Parser (List String) := fun s =>
  match s.rest with
  | [] => expected cx what s
  | l :: rest =>
    match l.namePart? with
    | some text =>
      let (texts, after) := nameTail rest
      .ok (text :: texts) (s.moveTo after)
    | none => expected cx what s

/-- Reads a parameter of a type: a length below 2⁶⁴, or the word `max` in any quotes. -/
def takeTypeParam (cx : Context) : Parser TypeParam := do
  match (← ahead).head?.map Lexeme.token with
  | some (.number digits _) =>
    match Text.boundedNumeral? Text.maxWord64 digits with
    | some n =>
      advance 1
      return .size n
    | none => expected cx .length
  | some (.word text _) =>
    if Text.equalFold text "max" then
      advance 1
      return .max
    else expected cx .length
  | _ => expected cx .length

/-- The name of a type, which a second word can complete. -/
def takeTypeWord (name : String) : Parser String := do
  if Text.equalFold name "double" then
    if ← eatKeyword .PRECISION then return "double precision" else return name
  else if Text.equalFold name "char" || Text.equalFold name "character" then
    if ← eatKeyword .VARYING then return "varchar" else return name
  else return name

/-- Reads a type reference with its parameters. Of a qualified name only the last part counts. -/
def takeTypeRef (cx : Context) : Parser TypeRef := do
  let line := cx.lineAt (← ahead)
  let parts ← takeName cx .dataType
  let name ← takeTypeWord (baseName parts)
  if ← eat .leftParen then
    let params ← commaSeparated (takeTypeParam cx)
    expect cx .rightParen
    return { name, params, line }
  else return { name, params := [], line }

end Parser

end SqlLint
