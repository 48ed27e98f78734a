import SqlLint.Token.Basic
import SqlLint.Token.Keyword
import SqlLint.Version

/-!
# Syntax errors

Why a piece of a script could not be read. An error keeps its cause, and the sentence for it is
made in one place.
-/

namespace SqlLint

/-- A token that has a beginning and no end. -/
inductive LexicalFault where
  | unclosedWord (quote : Quote)
  | unclosedString
  | unclosedEscapedString
  | unclosedComment
  | unclosedDollarString
  | unclosedTaggedString
  deriving DecidableEq, Repr

namespace LexicalFault

/-- The sentence for the fault. -/
def message : LexicalFault → String
  | unclosedWord .brackets => "Expected close delimiter ']' before EOF."
  | unclosedWord .doubleQuotes => "Expected close delimiter '\"' before EOF."
  | unclosedString => "Unterminated string literal"
  | unclosedEscapedString => "Unterminated encoded string literal"
  | unclosedComment => "Unexpected EOF while in a multi-line comment"
  | unclosedDollarString => "Unterminated dollar-quoted string"
  | unclosedTaggedString => "Unterminated dollar-quoted, expected $"

/-- Whether the fault is reported at the end of the script; the others are reported where the
token begins. -/
def isAtEnd : LexicalFault → Bool
  | unclosedComment | unclosedDollarString | unclosedTaggedString => true
  | _ => false

end LexicalFault

/-- What should have stood where an error was met. -/
inductive Expectation where
  | mark (m : Mark)
  | keyword (k : Keyword)
  | variableName
  | name
  | dataType
  | length
  | expression
  | statement
  | collation
  | principal
  | procedureOption
  deriving DecidableEq, Repr

/-- The expectation in words. -/
def Expectation.text : Expectation → String
  | mark m => "'" ++ m.text ++ "'"
  | keyword k => k.text
  | variableName => "a variable"
  | name => "a name"
  | dataType => "a data type"
  | length => "a length"
  | expression => "an expression"
  | statement => "a statement"
  | collation => "a collation"
  | principal => "a principal"
  | procedureOption => "a procedure option"

/-- Why a piece of a script could not be read. -/
inductive SyntaxError where
  /-- The script cannot be cut into tokens. -/
  | lexical (line : Nat) (fault : LexicalFault)
  /-- A token stands where it makes no sense. -/
  | unexpected (line : Nat) (near : Token)
  /-- Something else was needed than the token found, or than the end of the batch. -/
  | expected (line : Nat) (what : Expectation) (found : Option Token)
  /-- The version read for does not have the feature. -/
  | unsupported (line : Nat) (feature : Feature) (version : Version)
  /-- Statements or expressions stand too deep inside one another. -/
  | tooDeep (line : Nat)
  deriving DecidableEq, Repr

namespace SyntaxError

/-- The line of the error. -/
def line : SyntaxError → Nat
  | lexical line _ => line
  | unexpected line _ => line
  | expected line _ _ => line
  | unsupported line _ _ => line
  | tooDeep line => line

/-- The number under which the server reports the closest failure. -/
def code : SyntaxError → Nat
  | lexical _ _ => 105
  | unexpected _ _ => 102
  | expected _ _ _ => 102
  | unsupported _ _ _ => 195
  | tooDeep _ => 191

/-- The sentence reported for the error. -/
def message : SyntaxError → String
  | lexical _ fault => fault.message
  | unexpected _ near => s!"Incorrect syntax near '{near.text}'"
  | expected _ what found =>
    let near := match found with
      | some token => token.text
      | none => "end of batch"
    s!"Incorrect syntax near '{near}', expected {what.text}"
  | unsupported _ feature version =>
    s!"{feature.name} is not supported by SQL Server {version.text} " ++
    s!"(requires {feature.since.text} or later)"
  | tooDeep _ => "Some part of your SQL statement is nested too deeply"

end SyntaxError

end SqlLint
