import SqlLint.DataType.Basic
import SqlLint.DataType.Conversion

/-!
# Assignments

What is to be said when a value of one type is assigned to a variable of another. Every remark
that applies is made: a long wide string in a short narrow variable is reported both as
truncated and as converted.
-/

namespace SqlLint

/-- The remark on a written integer of `source` type in a string of length `room`. -/
def renderedRemark (line : Nat) (name : String) (room : Nat) (source : BaseType) :
    List Diagnostic :=
  match source.renderedLength? with
  | some needed =>
    if room < needed then [.convertToShortString line name room needed] else []
  | none => []

/-- The diagnostics for assigning a value of type `source` to the variable `name` of type
`target` at a line. -/
def assignmentDiagnostics (line : Nat) (name : String) (target source : DataType) :
    List Diagnostic :=
  match target, source with
  | .known targetBase targetLength, .known sourceBase sourceLength =>
    let outcome := sourceBase.convert targetBase
    let room := targetLength.resolved
    let size := sourceLength.resolved
    (if outcome.contains .checkLength && room < size then
      [.stringTruncated line name room size] else []) ++
    (if outcome.contains .checkConvertedLength then
      renderedRemark line name room sourceBase else []) ++
    (if outcome.contains .narrowing then [.stringConverted line name] else []) ++
    (if outcome.contains .implicitLossy then
      [.implicitConversion line name target.text source.text] else []) ++
    (if outcome.contains .numericOverflow then
      [.numericOverflow line name target.text source.text] else [])
  | _, _ => []

end SqlLint
