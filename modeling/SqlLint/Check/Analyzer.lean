import SqlLint.Check.Walk
import SqlLint.Parse.Script

/-!
# Analyzers

An analyzer reads scripts for one version and reports what a threshold lets through, except for
the kinds of warnings that have been turned off. Syntax errors are always reported.
-/

namespace SqlLint

/-- The syntax errors and diagnostics of one script. -/
structure Findings where
  errors : List SyntaxError
  diagnostics : List Diagnostic
  deriving DecidableEq, Repr

namespace Findings

/-- Whether there is a syntax error. -/
def hasErrors (f : Findings) : Bool := !f.errors.isEmpty

/-- Whether nothing was found. -/
def isClean (f : Findings) : Bool := f.errors.isEmpty && f.diagnostics.isEmpty

end Findings

/-- The settings of an analysis. -/
structure Analyzer where
  version : Version
  threshold : Severity
  disabled : List DiagnosticKind
  deriving DecidableEq, Repr

namespace Analyzer

/-- The analyzer with nothing chosen. -/
instance : Inhabited Analyzer := ⟨⟨default, default, []⟩⟩

/-- The analyzer that never reports a kind. -/
def disable (kind : DiagnosticKind) (a : Analyzer) : Analyzer :=
  if a.disabled.contains kind then a else { a with disabled := a.disabled ++ [kind] }

/-- The diagnostics that the analyzer lets through. -/
def select (a : Analyzer) (ds : List Diagnostic) : List Diagnostic :=
  (Diagnostic.keep a.threshold ds).filter fun d => !a.disabled.contains d.kind

/-- The diagnostics of batches that have been read. -/
def diagnostics (a : Analyzer) (batches : List Batch) : List Diagnostic :=
  a.select (Check.start.script batches).diagnostics

/-- The findings on a list of lexemes. -/
def analyzeLexemes (a : Analyzer) (ls : List Lexeme) : Findings :=
  let script := Script.ofLexemes a.version ls
  ⟨script.errors, a.diagnostics script.batches⟩

/-- The findings on a script. -/
def analyze (a : Analyzer) (text : String) : Findings :=
  let script := Script.parse a.version text
  ⟨script.errors, a.diagnostics script.batches⟩

end Analyzer

end SqlLint
