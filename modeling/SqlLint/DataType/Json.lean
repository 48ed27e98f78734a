import SqlLint.DataType.Basic
import SqlLint.Json

/-!
# Data types as JSON values
-/

namespace SqlLint

/-- A length as a value. -/
def Length.json : Length → Json
  | implicit => .string "implicit"
  | explicit n => .object [("explicit", .number n)]
  | max => .string "max"

/-- A type as a value. -/
def DataType.json : DataType → Json
  | unknown => .string "Unknown"
  | known base length =>
    .object [("Known", .object [("base", .string base.tag), ("length", length.json)])]

end SqlLint
