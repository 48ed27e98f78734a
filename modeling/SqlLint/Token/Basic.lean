/-!
# Tokens

The tokens of a script and the text that stands for each of them in messages. That text is the
token as it was written, with three exceptions: a doubled delimiter inside quotes is shown once,
every binary literal is shown in the form `X'…'`, and both spellings of "not equal" are shown
alike.
-/

namespace SqlLint

/-- Operators and punctuation. -/
inductive Mark where
  | leftParen
  | rightParen
  | comma
  | period
  | semicolon
  | plus
  | minus
  | star
  | slash
  | percent
  | eq
  | notEq
  | lt
  | ltEq
  | gt
  | gtEq
  | ampersand
  | pipe
  | caret
  | tilde
  | backslash
  | rightBracket
  | leftBrace
  | rightBrace
  | arrow
  | longArrow
  | pipeSlash
  | doublePipe
  | doublePipeSlash
  | fatArrow
  | doubleEq
  | bang
  | doubleBang
  | bangTilde
  | bangTildeStar
  | bangDoubleTilde
  | bangDoubleTildeStar
  | spaceship
  | shiftLeft
  | arrowAt
  | shiftRight
  | colon
  | doubleColon
  | assign
  | doubleAmpersand
  | caretAt
  | tildeStar
  | doubleTilde
  | doubleTildeStar
  | hash
  | hashMinus
  | hashArrow
  | hashLongArrow
  | atSign
  | atArrow
  | atQuestion
  | doubleAt
  deriving DecidableEq, Repr

/-- The text of a mark. -/
def Mark.text : Mark → String
  | leftParen => "("
  | rightParen => ")"
  | comma => ","
  | period => "."
  | semicolon => ";"
  | plus => "+"
  | minus => "-"
  | star => "*"
  | slash => "/"
  | percent => "%"
  | eq => "="
  | notEq => "<>"
  | lt => "<"
  | ltEq => "<="
  | gt => ">"
  | gtEq => ">="
  | ampersand => "&"
  | pipe => "|"
  | caret => "^"
  | tilde => "~"
  | backslash => "\\"
  | rightBracket => "]"
  | leftBrace => "\x7b"
  | rightBrace => "\x7d"
  | arrow => "->"
  | longArrow => "->>"
  | pipeSlash => "|/"
  | doublePipe => "||"
  | doublePipeSlash => "||/"
  | fatArrow => "=>"
  | doubleEq => "=="
  | bang => "!"
  | doubleBang => "!!"
  | bangTilde => "!~"
  | bangTildeStar => "!~*"
  | bangDoubleTilde => "!~~"
  | bangDoubleTildeStar => "!~~*"
  | spaceship => "<=>"
  | shiftLeft => "<<"
  | arrowAt => "<@"
  | shiftRight => ">>"
  | colon => ":"
  | doubleColon => "::"
  | assign => ":="
  | doubleAmpersand => "&&"
  | caretAt => "^@"
  | tildeStar => "~*"
  | doubleTilde => "~~"
  | doubleTildeStar => "~~*"
  | hash => "#"
  | hashMinus => "#-"
  | hashArrow => "#>"
  | hashLongArrow => "#>>"
  | atSign => "@"
  | atArrow => "@>"
  | atQuestion => "@?"
  | doubleAt => "@@"

/-- The delimiters of a quoted word. -/
inductive Quote where
  | brackets
  | doubleQuotes
  deriving DecidableEq, Repr

/-- The delimiter that opens a quoted word. -/
def Quote.opening : Quote → Char
  | brackets => '['
  | doubleQuotes => '"'

/-- The delimiter that closes a quoted word. -/
def Quote.closing : Quote → Char
  | brackets => ']'
  | doubleQuotes => '"'

/-- A token of a script. -/
inductive Token where
  /-- A key word, a name or a variable, with its delimiters if it has any. -/
  | word (text : String) (quote : Option Quote)
  /-- A number; `long` records a final `L`, which is not part of the digits. -/
  | number (digits : String) (long : Bool)
  | string (text : String)
  | nationalString (text : String)
  | escapedString (text : String)
  /-- A binary literal. -/
  | binary (digits : String)
  | dollarString (tag : Option String) (text : String)
  | placeholder (text : String)
  /-- A character that begins no other token. -/
  | stray (c : Char)
  | mark (m : Mark)
  deriving DecidableEq, Repr

namespace Token

/-- The token as messages show it. -/
def text : Token → String
  | word text none => text
  | word text (some .brackets) => "[" ++ text ++ "]"
  | word text (some .doubleQuotes) => "\"" ++ text ++ "\""
  | number digits false => digits
  | number digits true => digits ++ "L"
  | string text => "'" ++ text ++ "'"
  | nationalString text => "N'" ++ text ++ "'"
  | escapedString text => "E'" ++ text ++ "'"
  | binary digits => "X'" ++ digits ++ "'"
  | dollarString none text => "$$" ++ text ++ "$$"
  | dollarString (some tag) text => "$" ++ tag ++ "$" ++ text ++ "$" ++ tag ++ "$"
  | placeholder text => text
  | stray c => String.singleton c
  | mark m => m.text

/-- Whether the token is a number. -/
def isNumber : Token → Bool
  | number _ _ => true
  | _ => false

/-- The text of a word, whatever its delimiters. -/
def word? : Token → Option String
  | word text _ => some text
  | _ => none

/-- The text of a word without delimiters. Only such words can be key words. -/
def plainWord? : Token → Option String
  | word text none => some text
  | _ => none

/-- The name of a variable: a plain word of more than the sign itself that starts with `@`. -/
def variableName? (t : Token) : Option String :=
  t.plainWord?.filter fun text =>
    match text.toList with
    | '@' :: _ :: _ => true
    | _ => false

end Token

end SqlLint
