import SqlLint.Config.Document

/-!
# Reading configuration documents

Configuration files are written in TOML. Of its values only strings, integers, arrays and inline
tables are read: no setting has a fraction, a truth value, a date or an array of tables, so a
file with one of those is no configuration.

Each reader gives what it has read and what follows it, or nothing if the text is wrong.
-/

namespace SqlLint

namespace Config

/-! ## Lines -/

/-- The blanks inside a line. -/
def isInlineBlank (c : Char) : Bool := c = ' ' || c = '\t'

/-- The characters that comments and strings may hold as they are. -/
def isPlain (c : Char) : Bool := c = '\t' || (0x20 ≤ c.toNat && c.toNat ≠ 0x7f)

/-- The text without blanks at its start. -/
def skipBlanks (cs : List Char) : List Char := cs.dropWhile isInlineBlank

/-- What follows a line break at the start of a text. -/
def lineBreak? : List Char → Option (List Char)
  | '\n' :: cs => some cs
  | '\r' :: '\n' :: cs => some cs
  | _ => none

/-- The text without a comment at its start. -/
def skipComment : List Char → List Char
  | '#' :: cs => cs.dropWhile isPlain
  | cs => cs

/-- What follows the rest of a line: blanks, a comment, and a line break or the end. -/
def endOfLine? (cs : List Char) : Option (List Char) :=
  match skipComment (skipBlanks cs) with
  | [] => some []
  | rest => lineBreak? rest

/-- What follows blanks, comments and line breaks. -/
def skipLines : Nat → List Char → List Char
  | 0, cs => cs
  | fuel + 1, cs =>
    match skipComment (skipBlanks cs) with
    | '\n' :: rest => skipLines fuel rest
    | '\r' :: '\n' :: rest => skipLines fuel rest
    | rest => rest

/-! ## Strings -/

/-- The value of a hexadecimal digit. -/
def hexValue? (c : Char) : Option Nat :=
  if '0' ≤ c ∧ c ≤ '9' then some (c.toNat - 48)
  else if 'a' ≤ c ∧ c ≤ 'f' then some (c.toNat - 87)
  else if 'A' ≤ c ∧ c ≤ 'F' then some (c.toNat - 55)
  else none

/-- The character with a code in hexadecimal digits. -/
def codeChar? (digits : List Char) : Option Char := do
  let n ← digits.foldlM (fun n c => do return n * 16 + (← hexValue? c)) 0
  if n.isValidChar then some (Char.ofNat n) else none

/-- The character that an escape of one letter stands for. -/
def letterEscape? : Char → Option Char
  | 'b' => some '\x08'
  | 't' => some '\t'
  | 'n' => some '\n'
  | 'f' => some '\x0c'
  | 'r' => some '\r'
  | '"' => some '"'
  | '\\' => some '\\'
  | _ => none

/-- Reads a string in double quotes behind the opening one. -/
def basicString (seen : List Char) : List Char → Option (String × List Char)
  | [] => none
  | '"' :: cs => some (String.ofList seen.reverse, cs)
  | '\\' :: 'u' :: a :: b :: c :: d :: cs => do basicString ((← codeChar? [a, b, c, d]) :: seen) cs
  | '\\' :: 'U' :: a :: b :: c :: d :: e :: f :: g :: h :: cs => do
    basicString ((← codeChar? [a, b, c, d, e, f, g, h]) :: seen) cs
  | '\\' :: c :: cs => do basicString ((← letterEscape? c) :: seen) cs
  | c :: cs => if isPlain c && c ≠ '\\' then basicString (c :: seen) cs else none

/-- Reads a string in single quotes behind the opening one. -/
def literalString (seen : List Char) : List Char → Option (String × List Char)
  | [] => none
  | '\x27' :: cs => some (String.ofList seen.reverse, cs)
  | c :: cs => if isPlain c then literalString (c :: seen) cs else none

/-- The quotes that end a string of several lines at the start of a text. Up to two quotes before
the last three belong to the string. -/
def closingQuotes? (quote : Char) (cs : List Char) : Option (List Char × List Char) :=
  let quotes := (cs.take 5).takeWhile (· = quote)
  if quotes.length < 3 then none else some (quotes.drop 3, cs.drop quotes.length)

/-- Reads a string of several lines in double quotes behind the opening ones. Behind a backslash
that ends a line, everything up to the next visible character is skipped. -/
def basicLines (seen : List Char) (skipping : Bool) : List Char → Option (String × List Char)
  | [] => none
  | '\r' :: '\n' :: cs => basicLines (if skipping then seen else '\n' :: seen) skipping cs
  | '\n' :: cs => basicLines (if skipping then seen else '\n' :: seen) skipping cs
  | '\\' :: 'u' :: a :: b :: c :: d :: cs => do
    basicLines ((← codeChar? [a, b, c, d]) :: seen) false cs
  | '\\' :: 'U' :: a :: b :: c :: d :: e :: f :: g :: h :: cs => do
    basicLines ((← codeChar? [a, b, c, d, e, f, g, h]) :: seen) false cs
  | '\\' :: c :: cs =>
    if ((lineBreak? (skipBlanks (c :: cs))).isSome) then basicLines seen true (c :: cs)
    else do basicLines ((← letterEscape? c) :: seen) false cs
  | c :: cs =>
    match closingQuotes? '"' (c :: cs) with
    | some (quotes, rest) => some (String.ofList (seen.reverse ++ quotes), rest)
    | none =>
      if skipping && isInlineBlank c then basicLines seen true cs
      else if isPlain c && c ≠ '\\' then basicLines (c :: seen) false cs
      else none

/-- Reads a string of several lines in single quotes behind the opening ones. -/
def literalLines (seen : List Char) : List Char → Option (String × List Char)
  | [] => none
  | '\r' :: '\n' :: cs => literalLines ('\n' :: seen) cs
  | '\n' :: cs => literalLines ('\n' :: seen) cs
  | c :: cs =>
    match closingQuotes? '\x27' (c :: cs) with
    | some (quotes, rest) => some (String.ofList (seen.reverse ++ quotes), rest)
    | none => if isPlain c then literalLines (c :: seen) cs else none

/-- The text without a line break at its start. -/
def skipFirstBreak (cs : List Char) : List Char := (lineBreak? cs).getD cs

/-- Reads a string of any form, if one starts here. -/
def string? : List Char → Option (String × List Char)
  | '"' :: '"' :: '"' :: cs => basicLines [] false (skipFirstBreak cs)
  | '"' :: cs => basicString [] cs
  | '\x27' :: '\x27' :: '\x27' :: cs => literalLines [] (skipFirstBreak cs)
  | '\x27' :: cs => literalString [] cs
  | _ => none

/-! ## Keys -/

/-- The characters of a key without quotes. -/
def isKeyChar (c : Char) : Bool := c.isAlphanum || c = '_' || c = '-'

/-- Reads a part of a key. -/
def keyPart? : List Char → Option (String × List Char)
  | '"' :: cs => basicString [] cs
  | '\x27' :: cs => literalString [] cs
  | cs =>
    match cs.takeWhile isKeyChar with
    | [] => none
    | part => some (String.ofList part, cs.dropWhile isKeyChar)

/-- Reads a key: parts with points between them. -/
def key? : Nat → List Char → Option (List String × List Char)
  | 0, _ => none
  | fuel + 1, cs => do
    let (part, rest) ← keyPart? (skipBlanks cs)
    match skipBlanks rest with
    | '.' :: rest =>
      let (parts, rest) ← key? fuel rest
      return (part :: parts, rest)
    | rest => return ([part], rest)

/-! ## Values -/

/-- The value of digits in a base, with an underscore allowed between two digits. -/
def digits? (base : Nat) (cs : List Char) : Option Nat :=
  let digit? c := (hexValue? c).filter (· < base)
  let rec go (value : Nat) : List Char → Option Nat
    | [] => some value
    | '_' :: c :: cs => do go (value * base + (← digit? c)) cs
    | c :: cs => do go (value * base + (← digit? c)) cs
  match cs with
  | [] => none
  | c :: cs => do go (← digit? c) cs

/-- The value of a decimal numeral, which has no needless zero at its start. -/
def decimal? : List Char → Option Nat
  | ['0'] => some 0
  | '0' :: _ => none
  | cs => digits? 10 cs

/-- The value of an integer. -/
def integer? : List Char → Option Int
  | '0' :: 'x' :: cs => (digits? 16 cs).map Int.ofNat
  | '0' :: 'o' :: cs => (digits? 8 cs).map Int.ofNat
  | '0' :: 'b' :: cs => (digits? 2 cs).map Int.ofNat
  | '+' :: cs => (decimal? cs).map Int.ofNat
  | '-' :: cs => (decimal? cs).map fun n => -Int.ofNat n
  | cs => (decimal? cs).map Int.ofNat

/-- The characters that an integer and what resembles one is made of. -/
def isNumberChar (c : Char) : Bool :=
  c.isAlphanum || c = '_' || c = '+' || c = '-' || c = '.' || c = ':'

mutual

/-- Reads a value. -/
def value? : Nat → List Char → Option (Node × List Char)
  | 0, _ => none
  | fuel + 1, cs =>
    match cs with
    | '[' :: rest => (items? fuel [] rest).map fun (items, rest) => (.array items, rest)
    | '\x7b' :: rest =>
      match skipBlanks rest with
      | '\x7d' :: rest => some (.closedTable [], rest)
      | rest => (pairs? fuel [] rest).map fun (entries, rest) => (.closedTable entries, rest)
    | '"' :: _ => (string? cs).map fun (s, rest) => (.text s, rest)
    | '\x27' :: _ => (string? cs).map fun (s, rest) => (.text s, rest)
    | _ => (integer? (cs.takeWhile isNumberChar)).map fun n =>
        (.integer n, cs.dropWhile isNumberChar)

/-- Reads the items of an array up to its end. A comma may stand behind the last one. -/
def items? (fuel : Nat) (seen : List Node) (cs : List Char) : Option (List Node × List Char) :=
  match fuel with
  | 0 => none
  | fuel + 1 =>
    match skipLines cs.length cs with
    | ']' :: rest => some (seen.reverse, rest)
    | rest => do
      let (item, rest) ← value? fuel rest
      match skipLines rest.length rest with
      | ',' :: rest => items? fuel (item :: seen) rest
      | ']' :: rest => some ((item :: seen).reverse, rest)
      | _ => none

/-- Reads the entries of an inline table, of which there is at least one, up to its end. -/
def pairs? (fuel : Nat) (entries : Entries) (cs : List Char) : Option (Entries × List Char) :=
  match fuel with
  | 0 => none
  | fuel + 1 => do
    let (keys, rest) ← key? cs.length cs
    match rest with
    | '=' :: rest =>
      let (value, rest) ← value? fuel (skipBlanks rest)
      let entries ← assign? value keys entries
      match skipBlanks rest with
      | ',' :: rest => pairs? fuel entries rest
      | '\x7d' :: rest => some (entries, rest)
      | _ => none
    | _ => none

end

/-! ## Documents -/

/-- Reads the lines of a document, below a heading and with the entries so far. -/
def lines? : Nat → List String → Entries → List Char → Option Entries
  | 0, _, entries, _ => some entries
  | fuel + 1, heading, entries, cs =>
    match skipLines cs.length cs with
    | [] => some entries
    | '[' :: rest => do
      let (keys, rest) ← key? rest.length rest
      match rest with
      | ']' :: rest =>
        let entries ← openTable? keys entries
        lines? fuel keys entries (← endOfLine? rest)
      | _ => none
    | rest => do
      let (keys, rest) ← key? rest.length rest
      match rest with
      | '=' :: rest =>
        let (value, rest) ← value? rest.length (skipBlanks rest)
        let entries ← assignUnder? heading keys value entries
        lines? fuel heading entries (← endOfLine? rest)
      | _ => none

/-- Reads a document. A byte order mark may stand before it. -/
def document? (text : String) : Option Entries :=
  let cs := match text.toList with
    | '\ufeff' :: cs => cs
    | cs => cs
  lines? (cs.length + 1) [] [] cs

end Config

end SqlLint
