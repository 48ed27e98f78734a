import SqlLint.Diagnostic.Kind

/-!
# Diagnostics

A diagnostic is a finding at a line of the script. The functions below are the only places where
its wording is made; each gives its diagnostic the severity of its kind.
-/

namespace SqlLint

/-- A finding reported against a line of a script. -/
structure Diagnostic where
  kind : DiagnosticKind
  severity : Severity
  line : Nat
  message : String
  deriving DecidableEq, Repr

/-- The length that stands for `max`: the largest 64-bit number. -/
def maxLength : Nat := Text.maxWord64

/-- A length in a message. -/
def lengthText (length : Nat) : String :=
  if length = maxLength then "max" else toString length

namespace Diagnostic

/-- The number of the warning. -/
def code (d : Diagnostic) : Nat := d.kind.number

/-- A diagnostic with the severity of its kind. -/
def ofKind (kind : DiagnosticKind) (line : Nat) (message : String) : Diagnostic :=
  { kind, severity := kind.severity, line, message }

/-- A variable is used before it is declared. -/
def undeclaredVariable (line : Nat) (name : String) : Diagnostic :=
  ofKind .undeclaredVariable line s!"Variable {name} used before being declared"

/-- A variable is declared and never used. -/
def unusedVariable (line : Nat) (name : String) : Diagnostic :=
  ofKind .unusedVariable line s!"Variable {name} declared but never used"

/-- A procedure leaves row counts on. -/
def procedureWithoutNoCount (line : Nat) (procedure : String) : Diagnostic :=
  ofKind .procedureWithoutNoCount line s!"Procedure {procedure} does not SET NOCOUNT ON"

/-- A procedure is named like a system procedure. -/
def procedureWithSpPrefix (line : Nat) (procedure : String) : Diagnostic :=
  ofKind .procedureWithSpPrefix line
    s!"Procedure {procedure} should not be named with the prefix sp_"

/-- A character variable has no length. -/
def implicitLength (line : Nat) (name : String) : Diagnostic :=
  ofKind .implicitLength line s!"Variable {name} declared without an explicit length"

/-- A string of length up to `source` goes into a variable of length `target`. -/
def stringTruncated (line : Nat) (name : String) (target source : Nat) : Diagnostic :=
  ofKind .stringTruncated line
    (s!"Variable {name} has length {lengthText target} and is assigned a value with length " ++
     s!"up to {lengthText source}, which might be truncated")

/-- A wide string goes into a narrow variable. -/
def stringConverted (line : Nat) (name : String) : Diagnostic :=
  ofKind .stringConverted line
    (s!"Variable {name} is a narrow (non-unicode) string and is assigned a unicode value, " ++
     "which might be converted lossily")

/-- A value is converted on assignment in a way that may fail. -/
def implicitConversion (line : Nat) (name target source : String) : Diagnostic :=
  ofKind .implicitConversion line
    (s!"Variable {name} has type {target} and is assigned a value of type {source}, " ++
     "which will be implicitly converted")

/-- A cast goes to a character type without a length. -/
def convertWithoutLength (line : Nat) (operation typeName : String) : Diagnostic :=
  ofKind .convertWithoutLength line s!"{operation} to {typeName} without specifying a length"

/-- A number that takes up to `source` characters goes into a string of length `target`. -/
def convertToShortString (line : Nat) (name : String) (target source : Nat) : Diagnostic :=
  ofKind .convertToShortString line
    (s!"Variable {name} has length {lengthText target} and is assigned a value which, " ++
     s!"converted to a string, may have length up to {lengthText source}")

/-- An integer goes into a narrower integer variable. -/
def numericOverflow (line : Nat) (name target source : String) : Diagnostic :=
  ofKind .numericOverflow line
    (s!"Variable {name} has type {target} and is assigned a value of type {source}, " ++
     "which might overflow")

/-- Whether a threshold lets the diagnostic through. The severity of the kind decides. -/
def passes (threshold : Severity) (d : Diagnostic) : Bool :=
  d.kind.severity ≠ .none && d.kind.severity ≤ threshold

/-- The diagnostics that a threshold lets through, in order. -/
def keep (threshold : Severity) (ds : List Diagnostic) : List Diagnostic :=
  ds.filter (passes threshold)

end Diagnostic

end SqlLint
