import SqlLint.Syntax.Error
import SqlLint.Text.Blank
import SqlLint.Text.Numeric

/-!
# Cutting a script into tokens

A script is a sequence of pieces: blanks and comments, which carry no token, and tokens. Each
piece knows the line it starts on and the line it ends on, and only a line feed begins a new
line.

`scan` walks over the characters once. The functions before it each read the inside of one sort
of piece and give back what follows it.
-/

namespace SqlLint

/-- What is left of a script, and the line it starts on. -/
structure Source where
  chars : List Char
  line : Nat

/-- A piece of a script: a token, or a blank or comment. -/
structure Piece where
  token : Option Token
  first : Nat
  last : Nat
  deriving DecidableEq, Repr

namespace Scan

/-- The line after a character. -/
def lineAfter (line : Nat) (c : Char) : Nat :=
  if c = '\n' then line + 1 else line

/-- The single quote. -/
def quote : Char := '\x27'

/-! ## Words -/

/-- The characters that begin a word. -/
def isWordStart (c : Char) : Bool :=
  Text.isAlphabetic c || c = '_' || c = '#' || c = '@'

/-- The characters that continue a word. -/
def isWordPart (c : Char) : Bool :=
  Text.isAlphabetic c || c.isDigit || c = '@' || c = '$' || c = '#' || c = '_'

/-- The word that begins with `start` and goes on into `cs`. -/
def word (start cs : List Char) (line : Nat) : Option Token × Source :=
  (some (.word (String.ofList (start ++ cs.takeWhile isWordPart)) none),
   ⟨cs.dropWhile isWordPart, line⟩)

/-- What stands before the closing delimiter. A doubled delimiter stands for one. -/
def delimited (close : Char) (seen : List Char) (line : Nat) :
    List Char → Option (String × Source)
  | [] => none
  | c :: cs =>
    if c = close then
      match cs with
      | [] => some (String.ofList seen.reverse, ⟨[], line⟩)
      | d :: ds =>
        if d = close then delimited close (close :: seen) line ds
        else some (String.ofList seen.reverse, ⟨d :: ds, line⟩)
    else delimited close (c :: seen) (lineAfter line c) cs

/-! ## Strings -/

/-- The character that a backslash and `c` stand for in a national string or binary literal. -/
def escaped : Char → Char
  | '0' => '\x00'
  | 'a' => '\x07'
  | 'b' => '\x08'
  | 'f' => '\x0c'
  | 'n' => '\n'
  | 'r' => '\r'
  | 't' => '\t'
  | 'Z' => '\x1a'
  | c => c

/-- What stands before the closing quote of a string with backslash escapes. -/
def escapedBody (seen : List Char) (line : Nat) : List Char → Option (String × Source)
  | [] => none
  | c :: cs =>
    if c = quote then
      match cs with
      | [] => some (String.ofList seen.reverse, ⟨[], line⟩)
      | d :: ds =>
        if d = quote then escapedBody (quote :: seen) line ds
        else some (String.ofList seen.reverse, ⟨d :: ds, line⟩)
    else if c = '\\' then
      match cs with
      | [] => none
      | d :: ds => escapedBody (escaped d :: seen) (lineAfter line d) ds
    else escapedBody (c :: seen) (lineAfter line c) cs

/-- The value of a digit in bases up to sixteen. -/
def hexDigit? (c : Char) : Option Nat :=
  if '0' ≤ c ∧ c ≤ '9' then some (c.toNat - 48)
  else if 'a' ≤ c ∧ c ≤ 'f' then some (c.toNat - 87)
  else if 'A' ≤ c ∧ c ≤ 'F' then some (c.toNat - 55)
  else none

/-- Whether a character is a digit of base sixteen. -/
def isHexDigit (c : Char) : Bool := (hexDigit? c).isSome

/-- Whether a character is a digit of base eight. -/
def isOctalDigit (c : Char) : Bool := '0' ≤ c && c ≤ '7'

/-- The number that digits write in a base, none if one of them is no digit at all. -/
def digitsIn? (base : Nat) (cs : List Char) : Option Nat :=
  cs.foldl (fun value c => do return (← value) * base + (← hexDigit? c)) (some 0)

/-- The character with a code, if there is one. -/
def charOfCode? (n : Nat) : Option Char :=
  if n.isValidChar then some (Char.ofNat n) else none

/-- The character with the code that some hexadecimal digits write, with a plus sign before them
or without. -/
def charOfHex? (cs : List Char) : Option Char :=
  let digits := match cs with
    | '+' :: ds => ds
    | ds => ds
  if digits.isEmpty then none else (digitsIn? 16 digits).bind charOfCode?

/-- The ASCII character that digits of a base give, only the last eight bits counting. -/
def charOfByte? (base : Nat) (cs : List Char) : Option Char :=
  (digitsIn? base cs).bind fun n =>
    if n % 256 ≤ 127 then some (Char.ofNat (n % 256)) else none

/-- The character that the escape behind a backslash stands for, and how many characters the
escape takes. -/
def encodedEscape? : List Char → Option (Char × Nat)
  | [] => none
  | 'b' :: _ => some ('\x08', 1)
  | 'f' :: _ => some ('\x0c', 1)
  | 'n' :: _ => some ('\n', 1)
  | 'r' :: _ => some ('\r', 1)
  | 't' :: _ => some ('\t', 1)
  | 'u' :: cs => if (cs.take 4).length < 4 then none else (charOfHex? (cs.take 4)).map (·, 5)
  | 'U' :: cs => if (cs.take 8).length < 8 then none else (charOfHex? (cs.take 8)).map (·, 9)
  | 'x' :: cs =>
    match (cs.take 2).takeWhile isHexDigit with
    | [] => some ('x', 1)
    | digits => (charOfByte? 16 digits).map (·, digits.length + 1)
  | c :: cs =>
    if isOctalDigit c then
      let digits := c :: (cs.take 2).takeWhile isOctalDigit
      (charOfByte? 8 digits).map (·, digits.length)
    else some (c, 1)

/-- What stands before the closing quote of an escaped string. No escape may give the null
character. While `skip` is positive the characters of an escape that has been read are passed
over. -/
def encodedBody (seen : List Char) (line skip : Nat) : List Char → Option (String × Source)
  | [] => none
  | c :: cs =>
    match skip with
    | n + 1 => encodedBody seen (lineAfter line c) n cs
    | 0 =>
      if c = quote then
        match cs with
        | [] => some (String.ofList seen.reverse, ⟨[], line⟩)
        | d :: ds =>
          if d = quote then encodedBody (quote :: seen) line 0 ds
          else some (String.ofList seen.reverse, ⟨d :: ds, line⟩)
      else if c = '\\' then
        match encodedEscape? cs with
        | some (e, n) => if e.toNat = 0 then none else encodedBody (e :: seen) line n cs
        | none => none
      else encodedBody (c :: seen) (lineAfter line c) 0 cs

/-! ## Strings in dollar signs -/

/-- What stands before `$$`. A single dollar sign is kept together with the character after
it. -/
def dollarBody (seen : List Char) (afterDollar : Bool) (line : Nat) :
    List Char → Option (String × Source)
  | [] => none
  | c :: cs =>
    if afterDollar then
      if c = '$' then some (String.ofList seen.reverse, ⟨cs, line⟩)
      else dollarBody (c :: '$' :: seen) false (lineAfter line c) cs
    else if c = '$' then dollarBody seen true line cs
    else dollarBody (c :: seen) false (lineAfter line c) cs

/-- What stands before the closing tag. Inside a possible tag, `pending` holds what is still to
come of the tag; what has been read of it is held back in `held`, for it belongs to the string if
the tag does not come to its end. A character that ends the attempt belongs to the string too. -/
def taggedBody (tag seen held : List Char) (pending : Option (List Char)) (line : Nat) :
    List Char → Option (String × Source)
  | [] => none
  | c :: cs =>
    match pending with
    | none =>
      if c = '$' then taggedBody tag seen ['$'] (some tag) line cs
      else taggedBody tag (c :: seen) [] none (lineAfter line c) cs
    | some [] =>
      if c = '$' then some (String.ofList seen.reverse, ⟨cs, line⟩)
      else taggedBody tag (c :: (held ++ seen)) [] none (lineAfter line c) cs
    | some (t :: ts) =>
      if c = t then taggedBody tag seen (c :: held) (some ts) (lineAfter line c) cs
      else taggedBody tag (c :: (held ++ seen)) [] none (lineAfter line c) cs

/-- The token behind a dollar sign: a string in dollar signs or a placeholder. -/
def dollar (line : Nat) (cs : List Char) : Except LexicalFault (Option Token × Source) :=
  match cs with
  | '$' :: rest =>
    match dollarBody [] false line rest with
    | some (text, next) => .ok (some (.dollarString none text), next)
    | none => .error .unclosedDollarString
  | _ =>
    let isTagPart c := Text.isAlphanumeric c || c = '_'
    let tag := cs.takeWhile isTagPart
    match cs.dropWhile isTagPart with
    | '$' :: rest =>
      match taggedBody tag [] [] none line rest with
      | some (text, next) => .ok (some (.dollarString (some (String.ofList tag)) text), next)
      | none => .error .unclosedTaggedString
    | rest => .ok (some (.placeholder (String.ofList ('$' :: tag))), ⟨rest, line⟩)

/-! ## Numbers -/

/-- The exponent at the start of `cs`: the letter, a sign or none, and at least one digit. -/
def exponent (cs : List Char) : List Char :=
  match cs with
  | [] => []
  | e :: rest =>
    if e = 'e' ∨ e = 'E' then
      let sign := match rest with
        | c :: _ => if c = '+' ∨ c = '-' then [c] else []
        | [] => []
      let digits := (rest.drop sign.length).takeWhile Char.isDigit
      if digits.isEmpty then [] else e :: (sign ++ digits)
    else []

/-- The number, binary literal or period at the start of `cs`. -/
def number (line : Nat) (cs : List Char) : Option Token × Source :=
  let whole := cs.takeWhile Char.isDigit
  match whole, cs.dropWhile Char.isDigit with
  | ['0'], 'x' :: rest =>
    (some (.binary (String.ofList (rest.takeWhile isHexDigit))), ⟨rest.dropWhile isHexDigit, line⟩)
  | _, rest =>
    let point := match rest with
      | '.' :: _ => ['.']
      | _ => []
    let rest := rest.drop point.length
    let mantissa := whole ++ point ++ rest.takeWhile Char.isDigit
    let rest := rest.dropWhile Char.isDigit
    if mantissa = ['.'] then (some (.mark .period), ⟨rest, line⟩)
    else
      let power := exponent rest
      let digits := String.ofList (mantissa ++ power)
      match rest.drop power.length with
      | 'L' :: rest => (some (.number digits true), ⟨rest, line⟩)
      | rest => (some (.number digits false), ⟨rest, line⟩)

/-! ## Marks -/

/-- The spellings of the marks that need no context, longer ones before shorter ones. -/
def spellings : List (List Char × Mark) :=
  [(['!', '~', '~', '*'], .bangDoubleTildeStar),
   (['-', '>', '>'], .longArrow), (['|', '|', '/'], .doublePipeSlash),
   (['!', '~', '*'], .bangTildeStar), (['!', '~', '~'], .bangDoubleTilde),
   (['<', '=', '>'], .spaceship), (['~', '~', '*'], .doubleTildeStar),
   (['-', '>'], .arrow), (['|', '/'], .pipeSlash), (['|', '|'], .doublePipe),
   (['=', '>'], .fatArrow), (['=', '='], .doubleEq), (['!', '='], .notEq),
   (['!', '!'], .doubleBang), (['!', '~'], .bangTilde), (['<', '='], .ltEq),
   (['<', '>'], .notEq), (['<', '<'], .shiftLeft), (['<', '@'], .arrowAt),
   (['>', '='], .gtEq), (['>', '>'], .shiftRight), ([':', ':'], .doubleColon),
   ([':', '='], .assign), (['&', '&'], .doubleAmpersand), (['^', '@'], .caretAt),
   (['~', '*'], .tildeStar), (['~', '~'], .doubleTilde),
   (['('], .leftParen), ([')'], .rightParen), ([','], .comma), (['+'], .plus), (['*'], .star),
   ([';'], .semicolon), (['\\'], .backslash), ([']'], .rightBracket), (['\x7b'], .leftBrace),
   (['\x7d'], .rightBrace), (['-'], .minus), (['/'], .slash), (['%'], .percent), (['|'], .pipe),
   (['='], .eq), (['!'], .bang), (['<'], .lt), (['>'], .gt), ([':'], .colon),
   (['&'], .ampersand), (['^'], .caret), (['~'], .tilde)]

/-- The longest mark at the start of `cs`, and what follows it. -/
def mark? (cs : List Char) : Option (Mark × List Char) :=
  (spellings.find? fun entry => entry.1.isPrefixOf cs).map fun entry =>
    (entry.2, cs.drop entry.1.length)

/-- The token behind a hash sign. Any character that follows it directly is part of a word, even
one that words cannot have elsewhere. -/
def hash (line : Nat) (cs : List Char) : Option Token × Source :=
  match cs with
  | [] => (some (.mark .hash), ⟨[], line⟩)
  | '-' :: rest => (some (.mark .hashMinus), ⟨rest, line⟩)
  | '>' :: '>' :: rest => (some (.mark .hashLongArrow), ⟨rest, line⟩)
  | '>' :: rest => (some (.mark .hashArrow), ⟨rest, line⟩)
  | ' ' :: _ => (some (.mark .hash), ⟨cs, line⟩)
  | c :: rest => word ['#', c] rest (lineAfter line c)

/-- The token behind an at sign: a variable unless a blank or one of two marks follows. As behind
a hash sign, any other character is part of the name. -/
def atSign (line : Nat) (cs : List Char) : Option Token × Source :=
  match cs with
  | [] => (some (.mark .atSign), ⟨[], line⟩)
  | '>' :: rest => (some (.mark .atArrow), ⟨rest, line⟩)
  | '?' :: rest => (some (.mark .atQuestion), ⟨rest, line⟩)
  | ['@'] => (some (.mark .doubleAt), ⟨[], line⟩)
  | '@' :: ' ' :: rest => (some (.mark .doubleAt), ⟨' ' :: rest, line⟩)
  | '@' :: c :: rest => word ['@', '@', c] rest (lineAfter line c)
  | ' ' :: _ => (some (.mark .atSign), ⟨cs, line⟩)
  | c :: rest => word ['@', c] rest (lineAfter line c)

/-! ## Comments -/

/-- What follows a comment that ends with its line. -/
def lineComment (line : Nat) : List Char → Source
  | [] => ⟨[], line⟩
  | c :: cs => if c = '\n' then ⟨cs, line + 1⟩ else lineComment line cs

/-- What follows a comment in slashes and stars, `depth` of which are open inside one another.
Each character is paired with the one before it, also with one that already ended a pair. -/
def blockComment (depth : Nat) (previous : Char) (line : Nat) : List Char → Option Source
  | [] => none
  | c :: cs =>
    if previous = '/' ∧ c = '*' then blockComment (depth + 1) c line cs
    else if previous = '*' ∧ c = '/' then
      if depth ≤ 1 then some ⟨cs, line⟩ else blockComment (depth - 1) c line cs
    else blockComment depth c (lineAfter line c) cs

/-! ## Pieces -/

/-- The literal with the given token that a quote after `cs` begins, if it comes to an end. -/
def literal (body : Option (String × Source)) (fault : LexicalFault) (token : String → Token) :
    Except LexicalFault (Option Token × Source) :=
  match body with
  | some (text, next) => .ok (some (token text), next)
  | none => .error fault

/-- The piece that begins with `c` and goes on into `cs`. -/
def piece (line : Nat) (c : Char) (cs : List Char) : Except LexicalFault (Option Token × Source) :=
  if c = ' ' ∨ c = '\t' then .ok (none, ⟨cs, line⟩)
  else if c = '\n' then .ok (none, ⟨cs, line + 1⟩)
  else if c = '\r' then
    match cs with
    | '\n' :: rest => .ok (none, ⟨rest, line + 1⟩)
    | _ => .ok (none, ⟨cs, line⟩)
  else if (c = 'N' ∨ c = 'n') ∧ cs.head? = some quote then
    literal (escapedBody [] line (cs.drop 1)) .unclosedString .nationalString
  else if (c = 'E' ∨ c = 'e') ∧ cs.head? = some quote then
    literal (encodedBody [] line 0 (cs.drop 1)) .unclosedEscapedString .escapedString
  else if (c = 'X' ∨ c = 'x') ∧ cs.head? = some quote then
    literal (escapedBody [] line (cs.drop 1)) .unclosedString .binary
  else if c = quote then literal (delimited quote [] line cs) .unclosedString .string
  else if c = '"' then
    literal (delimited '"' [] line cs) (.unclosedWord .doubleQuotes) fun text =>
      .word text (some .doubleQuotes)
  else if c = '[' then
    literal (delimited ']' [] line cs) (.unclosedWord .brackets) fun text =>
      .word text (some .brackets)
  else if c.isDigit ∨ c = '.' then .ok (number line (c :: cs))
  else if c = '-' ∧ cs.head? = some '-' then .ok (none, lineComment line (cs.drop 1))
  else if c = '/' ∧ cs.head? = some '*' then
    match blockComment 1 ' ' line (cs.drop 1) with
    | some next => .ok (none, next)
    | none => .error .unclosedComment
  else if c = '#' then .ok (hash line cs)
  else if c = '@' then .ok (atSign line cs)
  else if c = '?' then
    .ok (some (.placeholder (String.ofList ('?' :: cs.takeWhile Text.isNumeric))),
      ⟨cs.dropWhile Text.isNumeric, line⟩)
  else if isWordStart c then .ok (word [c] cs line)
  else if c = '$' then dollar line cs
  else if Text.isBlank c then .ok (none, ⟨cs, line⟩)
  else match mark? (c :: cs) with
    | some (m, rest) => .ok (some (.mark m), ⟨rest, line⟩)
    | none => .ok (some (.stray c), ⟨cs, line⟩)

/-- The pieces of what is left of a script, behind the pieces in `done`, which stand in reverse
order. Every piece takes a character, so `fuel` need not pass the number of characters. -/
def pieces : Nat → List Piece → Source → Except SyntaxError (List Piece)
  | 0, done, _ => .ok done.reverse
  | fuel + 1, done, source =>
    match source.chars with
    | [] => .ok done.reverse
    | c :: cs =>
      match piece source.line c cs with
      | .ok (token, next) => pieces fuel (⟨token, source.line, next.line⟩ :: done) next
      | .error fault =>
        let line := if fault.isAtEnd then cs.foldl lineAfter source.line else source.line
        .error (.lexical line fault)

end Scan

/-- The pieces of a script, or the fault of the first token that does not come to an end. -/
def scan (script : String) : Except SyntaxError (List Piece) :=
  let chars := script.toList
  Scan.pieces chars.length [] ⟨chars, 1⟩

end SqlLint
