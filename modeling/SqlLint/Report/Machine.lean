import SqlLint.Json
import SqlLint.Report.Basic

/-!
# Reports for programs

Two formats: a plain JSON form with the findings of each input, and the SARIF form that code
hosting services read. Fields stand in alphabetical order in both.
-/

namespace SqlLint.Report

/-! ## JSON -/

/-- A syntax error as a value. -/
def errorJson (e : SyntaxError) : Json :=
  .object [("code", .number e.code), ("line", .number e.line), ("message", .string e.message)]

/-- A diagnostic as a value. -/
def diagnosticJson (d : Diagnostic) : Json :=
  .object
    [("kind", .string d.kind.identifier), ("line", .number d.line), ("message", .string d.message),
     ("severity", .string d.severity.text)]

/-- The findings on one input as a value. -/
def fileJson (r : Report) : Json :=
  .object
    [("diagnostics", .array (r.findings.diagnostics.map diagnosticJson)),
     ("errors", .array (r.findings.errors.map errorJson)),
     ("file", .string r.path)]

/-- The plain JSON form. -/
def json (reports : List Report) : Json :=
  .object [("files", .array (reports.map fileJson))]

/-! ## SARIF -/

/-- The SARIF level of a severity. -/
def sarifLevel : Severity → String
  | .critical => "error"
  | .serious => "warning"
  | .minor => "note"
  | .none => "note"

/-- A message in SARIF. -/
def sarifText (text : String) : Json := .object [("text", .string text)]

/-- A result in SARIF. -/
def sarifResult (rule level message path : String) (line : Nat) : Json :=
  .object
    [("level", .string level),
     ("locations", .array [.object [("physicalLocation", .object
       [("artifactLocation", .object [("uri", .string path)]),
        ("region", .object [("startLine", .number line)])])]]),
     ("message", sarifText message),
     ("ruleId", .string rule)]

/-- The result for a syntax error. -/
def sarifError (path : String) (e : SyntaxError) : Json :=
  sarifResult "syntax-error" "error" e.message path e.line

/-- The result for a diagnostic. -/
def sarifDiagnostic (path : String) (d : Diagnostic) : Json :=
  sarifResult d.kind.name (sarifLevel d.severity) d.message path d.line

/-- The results for one input: the errors, then the diagnostics. -/
def sarifResults (r : Report) : List Json :=
  r.findings.errors.map (sarifError r.path) ++ r.findings.diagnostics.map (sarifDiagnostic r.path)

/-- The description of a kind of diagnostic in SARIF. -/
def sarifRule (kind : DiagnosticKind) : Json :=
  .object
    [("defaultConfiguration", .object [("level", .string (sarifLevel kind.severity))]),
     ("fullDescription", sarifText kind.description),
     ("id", .string kind.name),
     ("shortDescription", sarifText kind.title)]

/-- The address of the SARIF schema. -/
def sarifSchema : String :=
  "https://raw.githubusercontent.com/oasis-tcs/sarif-spec/master/Schemata/" ++
  "sarif-schema-2.1.0.json"

/-- The SARIF form. -/
def sarif (reports : List Report) : Json :=
  .object
    [("$schema", .string sarifSchema),
     ("runs", .array [.object
       [("results", .array (reports.flatMap sarifResults)),
        ("tool", .object [("driver", .object
          [("name", .string programName),
           ("rules", .array (DiagnosticKind.all.map sarifRule)),
           ("version", .string programVersion)])])]]),
     ("version", .string "2.1.0")]

end SqlLint.Report
