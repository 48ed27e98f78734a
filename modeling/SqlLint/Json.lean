/-!
# JSON values

The values of machine-readable output, and their two written forms: a compact one on a single
line, and an indented one. The fields of an object are written in the order they are given in.
-/

namespace SqlLint

/-- A value. Numbers are never negative and never fractions here. -/
inductive Json where
  | number (n : Nat)
  | string (text : String)
  | array (items : List Json)
  | object (fields : List (String × Json))
  deriving Repr

namespace Json

/-- A digit of base sixteen in lower case. -/
def hexDigit (n : Nat) : Char :=
  Char.ofNat (if n < 10 then 48 + n else 87 + n)

/-- A character inside a string. Quotes, backslashes and control characters are escaped, and
nothing else is. -/
def escapeChar (c : Char) : List Char :=
  match c with
  | '"' => ['\\', '"']
  | '\\' => ['\\', '\\']
  | '\x08' => ['\\', 'b']
  | '\t' => ['\\', 't']
  | '\n' => ['\\', 'n']
  | '\x0c' => ['\\', 'f']
  | '\r' => ['\\', 'r']
  | c =>
    if c.toNat < 0x20 then
      ['\\', 'u', '0', '0', hexDigit (c.toNat / 16), hexDigit (c.toNat % 16)]
    else [c]

/-- A string in quotes. -/
def quoted (text : String) : String :=
  "\"" ++ String.ofList (text.toList.flatMap escapeChar) ++ "\""

/-! ## The compact form -/

mutual

/-- The value on one line, without blanks. -/
def compact : Json → String
  | number n => toString n
  | string text => quoted text
  | array items => "[" ++ compactItems items ++ "]"
  | object fields => "\x7b" ++ compactFields fields ++ "\x7d"

/-- Items with commas between them. -/
def compactItems : List Json → String
  | [] => ""
  | [item] => compact item
  | item :: items => compact item ++ "," ++ compactItems items

/-- Fields with commas between them. -/
def compactFields : List (String × Json) → String
  | [] => ""
  | [(name, value)] => quoted name ++ ":" ++ compact value
  | (name, value) :: fields => quoted name ++ ":" ++ compact value ++ "," ++ compactFields fields

end

/-! ## The indented form -/

/-- A line break and the indentation of a depth: two blanks for each level. -/
def lineBreak (depth : Nat) : String :=
  "\n" ++ String.ofList (List.replicate (2 * depth) ' ')

mutual

/-- The value with each item and field on a line of its own, at a depth. Empty arrays and objects
stay on one line. -/
def indented (depth : Nat) : Json → String
  | number n => toString n
  | string text => quoted text
  | array [] => "[]"
  | array (item :: items) =>
    "[" ++ lineBreak (depth + 1) ++ indented (depth + 1) item ++ indentedItems depth items ++
    lineBreak depth ++ "]"
  | object [] => "\x7b\x7d"
  | object ((name, value) :: fields) =>
    "\x7b" ++ lineBreak (depth + 1) ++ quoted name ++ ": " ++ indented (depth + 1) value ++
    indentedFields depth fields ++ lineBreak depth ++ "\x7d"

/-- Further items, each behind a comma. -/
def indentedItems (depth : Nat) : List Json → String
  | [] => ""
  | item :: items =>
    "," ++ lineBreak (depth + 1) ++ indented (depth + 1) item ++ indentedItems depth items

/-- Further fields, each behind a comma. -/
def indentedFields (depth : Nat) : List (String × Json) → String
  | [] => ""
  | (name, value) :: fields =>
    "," ++ lineBreak (depth + 1) ++ quoted name ++ ": " ++ indented (depth + 1) value ++
    indentedFields depth fields

end

/-- The value in its indented form. -/
def pretty (value : Json) : String := value.indented 0

end Json

end SqlLint
