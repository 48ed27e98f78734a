import SqlLint.Severity
import SqlLint.Text.Ascii

/-!
# Kinds of diagnostics

The catalogue of warnings. Each kind has a stable number, a name for options and reports, a
fixed severity, and two texts that explain it.
-/

namespace SqlLint

/-- What a diagnostic can be about. -/
inductive DiagnosticKind where
  /-- A variable is used that the batch has not declared. -/
  | undeclaredVariable
  /-- A variable or parameter is declared and never used. -/
  | unusedVariable
  /-- A procedure never switches row counts off. -/
  | procedureWithoutNoCount
  /-- A procedure carries the reserved prefix of system procedures. -/
  | procedureWithSpPrefix
  /-- A character variable is declared without a length. -/
  | implicitLength
  /-- A string may not fit into its variable. -/
  | stringTruncated
  /-- A wide string goes into a narrow variable. -/
  | stringConverted
  /-- An assignment relies on a conversion that may fail. -/
  | implicitConversion
  /-- A cast goes to a character type without a length. -/
  | convertWithoutLength
  /-- A number may not fit into a string once it is written out. -/
  | convertToShortString
  /-- A wide integer goes into a narrower one. -/
  | numericOverflow
  deriving DecidableEq, Repr

namespace DiagnosticKind

/-- Every kind, in the order of the numbers. -/
def all : List DiagnosticKind :=
  [undeclaredVariable, unusedVariable, procedureWithoutNoCount, procedureWithSpPrefix,
   implicitLength, stringTruncated, stringConverted, implicitConversion, convertWithoutLength,
   convertToShortString, numericOverflow]

/-- The stable number of the warning. -/
def number : DiagnosticKind → Nat
  | undeclaredVariable => 1
  | unusedVariable => 2
  | procedureWithoutNoCount => 3
  | procedureWithSpPrefix => 4
  | implicitLength => 5
  | stringTruncated => 6
  | stringConverted => 7
  | implicitConversion => 8
  | convertWithoutLength => 9
  | convertToShortString => 10
  | numericOverflow => 11

theorem mem_all (k : DiagnosticKind) : k ∈ all := by
  cases k <;> decide

/-- The severity of every diagnostic of the kind. -/
def severity : DiagnosticKind → Severity
  | undeclaredVariable => .critical
  | unusedVariable => .minor
  | procedureWithoutNoCount => .minor
  | _ => .serious

/-- The name used in options and reports. -/
def name : DiagnosticKind → String
  | undeclaredVariable => "undeclared-variable"
  | unusedVariable => "unused-variable"
  | procedureWithoutNoCount => "missing-nocount"
  | procedureWithSpPrefix => "sp-prefix"
  | implicitLength => "implicit-length"
  | stringTruncated => "string-truncated"
  | stringConverted => "unicode-narrowing"
  | implicitConversion => "implicit-conversion"
  | convertWithoutLength => "convert-without-length"
  | convertToShortString => "convert-to-short-string"
  | numericOverflow => "numeric-overflow"

/-- The identifier of the kind in machine-readable reports. -/
def identifier : DiagnosticKind → String
  | undeclaredVariable => "UndeclaredVariableUsed"
  | unusedVariable => "UnusedVariableDeclared"
  | procedureWithoutNoCount => "ProcedureWithoutNoCount"
  | procedureWithSpPrefix => "ProcedureWithSPPrefix"
  | implicitLength => "CharVariableWithImplicitLength"
  | stringTruncated => "StringTruncated"
  | stringConverted => "StringConverted"
  | implicitConversion => "ImplicitConversion"
  | convertWithoutLength => "ConvertToVarCharOfUnspecifiedLength"
  | convertToShortString => "ConvertToTooShortString"
  | numericOverflow => "NumericOverflow"

/-- The kind with an identifier. -/
def ofIdentifier? (s : String) : Option DiagnosticKind :=
  all.find? fun k => k.identifier == s

theorem ofIdentifier?_identifier (k : DiagnosticKind) :
    ofIdentifier? k.identifier = some k := by
  cases k <;> rfl

/-- One line on what the warning says. -/
def title : DiagnosticKind → String
  | undeclaredVariable => "Undeclared Variable used"
  | unusedVariable => "Unused Variable declared"
  | procedureWithoutNoCount => "Procedure without SET NOCOUNT ON"
  | procedureWithSpPrefix => "Procedure name begins with sp_"
  | implicitLength => "Fixed-length or Variable-length variable declared without explicit length"
  | stringTruncated =>
    "Fixed-length or variable-length variable assigned a value greater than it can hold"
  | stringConverted => "Unicode string assigned to a narrow string"
  | implicitConversion => "Suspicious implicit conversion"
  | convertWithoutLength => "CAST or CONVERT to a string type without a length"
  | convertToShortString => "Value converted to a string too short to hold it"
  | numericOverflow => "Numeric value assigned to a narrower type"

/-- Why the warning matters and what to do about it. -/
def description : DiagnosticKind → String
  | undeclaredVariable =>
    "A variable which was not declared was referenced or set. Declare it before use, for " ++
    "example 'DECLARE @variable AS INT'."
  | unusedVariable =>
    "A variable or parameter was declared, but never referenced. It could be removed without " ++
    "affecting the procedure's logic, or this could indicate a typo or logical error."
  | procedureWithoutNoCount =>
    "Performance for stored procedures can be increased with the SET NOCOUNT ON option. Some " ++
    "SQL tools require the rowcount to be returned; if you use one of those, suppress this " ++
    "warning."
  | procedureWithSpPrefix =>
    "sp_ is a reserved prefix in SQL Server. Even a procedure which does not clash with any " ++
    "system procedure incurs a lookup penalty when using this prefix. Rename the procedure."
  | implicitLength =>
    "char, varchar, nchar and nvarchar have short implicit lengths. To reduce the risk of " ++
    "truncating data, declare the length you want explicitly, eg char(1) instead of char."
  | stringTruncated =>
    "A variable was assigned a string which may be too large for it to hold. The string will be " ++
    "silently truncated."
  | stringConverted =>
    "A unicode (nchar/nvarchar) value was assigned to a char or varchar variable. Characters " ++
    "outside the variable's code page will be replaced."
  | implicitConversion =>
    "A value is implicitly converted to a type it may not convert cleanly to. Use an explicit " ++
    "CAST or CONVERT, or change the variable's type."
  | convertWithoutLength =>
    "CAST and CONVERT to char, varchar, nchar or nvarchar without a length use a default length " ++
    "of 30, which silently truncates longer values."
  | convertToShortString =>
    "A numeric value is assigned to a string variable which cannot hold every value of the " ++
    "numeric type once rendered as text."
  | numericOverflow =>
    "A value of a wider numeric type is assigned to a narrower one. Values outside the narrower " ++
    "range raise an arithmetic overflow error at runtime."

/-- Reads a kind given by its number or by its name in any ASCII case, blanks around it aside. A
number that no kind has is not looked up as a name. -/
def read (s : String) : Except SettingError DiagnosticKind :=
  let found := match Text.boundedNumeral? Text.maxWord32 (Text.trim s) with
    | some n => all.find? fun k => k.number == n
    | none => all.find? fun k => Text.equalFold k.name (Text.trim s)
  match found with
  | some kind => .ok kind
  | none => .error (.unknownWarning s)

end DiagnosticKind

end SqlLint
