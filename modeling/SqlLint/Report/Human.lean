import SqlLint.Report.Basic

/-!
# Reports for people

One line for each finding, under a heading for the errors and one for the warnings of an input.
An input without findings gives no line at all.
-/

namespace SqlLint.Report

/-- The line for a syntax error. -/
def errorLine (path : String) (e : SyntaxError) : String :=
  s!"{path}({e.line}) : ERROR {e.code} : {e.message}"

/-- The line for a diagnostic. -/
def warningLine (path : String) (d : Diagnostic) : String :=
  s!"{path}({d.line}) : WARNING {d.code} : {d.message}"

/-- Lines under a heading, or nothing if there are none. -/
def underHeading (heading : String) : List String → List String
  | [] => []
  | line :: lines => heading :: line :: lines

/-- The lines for one input. -/
def humanLines (r : Report) : List String :=
  underHeading "SQL Parse Errors:" (r.findings.errors.map (errorLine r.path)) ++
  underHeading "Warnings:" (r.findings.diagnostics.map (warningLine r.path))

/-- The lines for all inputs, each ended by a line break. -/
def humanText (reports : List Report) : String :=
  String.join ((reports.flatMap humanLines).map (· ++ "\n"))

end SqlLint.Report
