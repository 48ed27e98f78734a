import SqlLint.Text.Ascii
import SqlLint.Text.UpperCase
import SqlLint.Token.Scan

/-!
# Lexemes

A lexeme is a token with the line it starts on. It also knows whether another token stands
before it on that line, since a batch separator has to be the first.

There are two tests for key words. `keyword?` changes ASCII letters to upper case; `dispatch?`
applies the full upper-case mapping, under which a few letters outside ASCII become ASCII ones.
-/

namespace SqlLint

/-- A token at its line. -/
structure Lexeme where
  token : Token
  line : Nat
  firstOnLine : Bool
  deriving DecidableEq, Repr

namespace Lexeme

/-- The lexemes of a list of pieces, behind a token that ends on the line `last`, if there is
one. Blanks and comments are left out. -/
def ofPieces (last : Option Nat) : List Piece → List Lexeme
  | [] => []
  | p :: ps =>
    match p.token with
    | none => ofPieces last ps
    | some token =>
      ⟨token, p.first, last ≠ some p.first⟩ :: ofPieces (some p.last) ps

/-- The name of the variable that the lexeme is. -/
def variableName? (l : Lexeme) : Option String := l.token.variableName?

/-- The key word that a plain word is, in any ASCII case. -/
def keyword? (l : Lexeme) : Option Keyword :=
  l.token.plainWord?.bind fun text => Keyword.ofSpelling? (text.toList.map Char.toUpper)

/-- The key word that the upper case of a plain word is. -/
def dispatch? (l : Lexeme) : Option Keyword :=
  l.token.plainWord?.bind fun text => Keyword.ofSpelling? (text.toList.flatMap Text.upperChar)

/-- Whether the lexeme is a certain key word. -/
def isKeyword (k : Keyword) (l : Lexeme) : Bool := l.keyword? = some k

/-- Whether the lexeme is a certain mark. -/
def isMark (m : Mark) (l : Lexeme) : Bool := l.token = .mark m

/-- Whether the lexeme is a number. -/
def isNumber (l : Lexeme) : Bool := l.token.isNumber

/-- Whether the lexeme is a key word that begins a statement. -/
def startsStatement (l : Lexeme) : Bool :=
  l.keyword?.any Keyword.startsStatement

/-- The text of a word that can be part of a name: any word but a variable. -/
def namePart? (l : Lexeme) : Option String :=
  if l.variableName?.isSome then none else l.token.word?

end Lexeme

/-- The lexemes of a script. -/
def tokenize (script : String) : Except SyntaxError (List Lexeme) :=
  (scan script).map (Lexeme.ofPieces none)

end SqlLint
