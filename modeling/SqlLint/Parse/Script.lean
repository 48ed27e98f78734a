import SqlLint.Parse.Statement
import SqlLint.Token.Batch

/-!
# Reading scripts

A script is cut into tokens, split into batches, and each batch is read by itself.
-/

namespace SqlLint

/-- How deep statements and expressions may stand inside one another. -/
def maxDepth : Nat := 128

namespace Parser

/-- Reads the expression at the cursor with all levels of nesting left. -/
def topExpr (cx : Context) : Parser Expr := expr cx maxDepth 0

/-- Reads the statement at the cursor with all levels of nesting left. -/
def topStatement (cx : Context) : Parser Statement := statement cx maxDepth

/-- Reads all that is left of a batch. -/
def topStatements (cx : Context) : Parser (List Statement) :=
  statementList (topStatement cx) fun _ => false

end Parser

/-- The statements of what is left of a batch and all errors recorded up to its end. A list of
statements does not fail, so the second case does not arise. -/
def finishBatch (cx : Context) (cursor : Cursor) : List Statement × List SyntaxError :=
  match Parser.topStatements cx cursor with
  | .ok statements cursor => (statements, cursor.errors)
  | .error e cursor => ([], cursor.errors ++ [e])

/-- The statements and errors of a batch. -/
def parseBatch (version : Version) (batch : List Lexeme) : List Statement × List SyntaxError :=
  finishBatch (.ofBatch version batch) ⟨batch, []⟩

/-- The batches of a script, and every syntax error in it. -/
structure Script where
  batches : List Batch
  errors : List SyntaxError
  deriving Repr

namespace Script

/-- The script of a single batch; an empty batch gives nothing. -/
def ofBatch (version : Version) (batch : List Lexeme) : Script :=
  match batch with
  | [] => ⟨[], []⟩
  | first :: _ =>
    let (statements, errors) := parseBatch version batch
    ⟨[⟨first.line, statements⟩], errors⟩

/-- One script behind another. -/
def append (s t : Script) : Script :=
  ⟨s.batches ++ t.batches, s.errors ++ t.errors⟩

/-- The script that a list of lexemes makes. -/
def ofLexemes (version : Version) (ls : List Lexeme) : Script :=
  ((Split.ofLexemes ls).batches.map (ofBatch version)).foldr append ⟨[], []⟩

/-- Reads a script. If it cannot be cut into tokens, that error is all there is. -/
def parse (version : Version) (text : String) : Script :=
  match tokenize text with
  | .ok ls => ofLexemes version ls
  | .error e => ⟨[], [e]⟩

end Script

end SqlLint
