import SqlLint.SettingError
import SqlLint.Text.Blank
import SqlLint.Text.LowerCase
import SqlLint.Text.Numeral

/-!
# Severities

A severity is both the weight of a diagnostic and a threshold: a threshold lets through every
diagnostic whose level is not above its own, and `none` lets nothing through.
-/

namespace SqlLint

/-- The weight of a diagnostic, or the threshold that a report is cut at. -/
inductive Severity where
  | none
  | critical
  | serious
  | minor
  deriving DecidableEq, Repr

namespace Severity

/-- The threshold used when none is chosen. -/
instance : Inhabited Severity := ⟨serious⟩

/-- The number of the level: 0 reports nothing, 3 reports everything. -/
def level : Severity → Nat
  | none => 0
  | critical => 1
  | serious => 2
  | minor => 3

/-- The severity of a level. -/
def ofLevel? : Nat → Option Severity
  | 0 => some none
  | 1 => some critical
  | 2 => some serious
  | 3 => some minor
  | _ => Option.none

theorem ofLevel?_level (s : Severity) : ofLevel? s.level = some s := by
  cases s <;> rfl

/-- Severities are ordered by level. -/
instance : LE Severity := ⟨fun s t => s.level ≤ t.level⟩

instance (s t : Severity) : Decidable (s ≤ t) := inferInstanceAs (Decidable (s.level ≤ t.level))

/-- The word for the severity. -/
def text : Severity → String
  | none => "none"
  | critical => "critical"
  | serious => "serious"
  | minor => "minor"

/-- The severity of a lower-case word; `all` is the threshold that keeps everything. -/
def ofWord? : String → Option Severity
  | "none" => some none
  | "critical" => some critical
  | "serious" => some serious
  | "minor" => some minor
  | "all" => some minor
  | _ => Option.none

/-- Reads a severity given as the number of its level or as a word in any case, blanks around it
aside. A number is a level even if no severity has it, so it is not looked up as a word. -/
def read (s : String) : Except SettingError Severity :=
  let found := match Text.boundedNumeral? 255 (Text.trim s) with
    | some n => ofLevel? n
    | Option.none => ofWord? (Text.lowerCase (Text.trim s))
  match found with
  | some severity => .ok severity
  | Option.none => .error (.invalidLevel s)

end Severity

end SqlLint
