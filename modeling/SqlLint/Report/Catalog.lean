import SqlLint.Diagnostic.Kind

/-!
# The catalogue of warnings

A description of every warning in Markdown.
-/

namespace SqlLint.Report

/-- A number with zeros before it, so that it has at least four digits. -/
def fourDigits (n : Nat) : String :=
  let digits := toString n
  String.ofList (List.replicate (4 - digits.length) '0') ++ digits

/-- The entry for one kind. -/
def catalogEntry (kind : DiagnosticKind) : String :=
  s!"\n### Warning {fourDigits kind.number} : {kind.title}\n" ++
  s!"`{kind.name}`, level {kind.severity.level} ({kind.severity.text})\n\n" ++
  s!"{kind.description}\n"

/-- The entries of all kinds, by ascending number. -/
def catalog : String :=
  String.join (DiagnosticKind.all.map catalogEntry)

end SqlLint.Report
