import SqlLint.Check.Analyzer

/-!
# Reports

A report is what was found in one input. The input is named by its path, or by `<inline>` if it
was given on the command line.
-/

namespace SqlLint

/-- The findings on one input. -/
structure Report where
  path : String
  findings : Findings
  deriving DecidableEq, Repr

/-- The path that stands for a script given on the command line. -/
def inlinePath : String := "<inline>"

/-- The name of the program in its output. -/
def programName : String := "tsqlcheck"

/-- The version of the program in its output. -/
def programVersion : String := "0.1.0"

/-- Whether a syntax error was found in any of the inputs. -/
def Report.anyErrors (reports : List Report) : Bool :=
  reports.any fun r => r.findings.hasErrors

end SqlLint
