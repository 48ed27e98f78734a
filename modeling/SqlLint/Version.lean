import SqlLint.SettingError
import SqlLint.Text.Blank

/-!
# Server versions and the syntax they bring

Scripts are read for one version of the server. The versions are ordered by their year, and each
gated piece of syntax is understood from one version on.
-/

namespace SqlLint

/-- The server versions whose syntax is known. -/
inductive Version where
  | sql2000
  | sql2005
  | sql2008
  | sql2012
  | sql2014
  | sql2016
  deriving DecidableEq, Repr

namespace Version

/-- Every version, the oldest first. -/
def all : List Version := [sql2000, sql2005, sql2008, sql2012, sql2014, sql2016]

/-- The version read for when none is chosen. -/
instance : Inhabited Version := ⟨sql2014⟩

/-- The year that names the version. -/
def year : Version → Nat
  | sql2000 => 2000
  | sql2005 => 2005
  | sql2008 => 2008
  | sql2012 => 2012
  | sql2014 => 2014
  | sql2016 => 2016

/-- The year as text. -/
def text : Version → String
  | sql2000 => "2000"
  | sql2005 => "2005"
  | sql2008 => "2008"
  | sql2012 => "2012"
  | sql2014 => "2014"
  | sql2016 => "2016"

/-- Versions are ordered by age. -/
instance : LE Version := ⟨fun v w => v.year ≤ w.year⟩

instance (v w : Version) : Decidable (v ≤ w) := inferInstanceAs (Decidable (v.year ≤ w.year))

/-- What stands behind a leading `sql` or `SQL`, or the whole text without one. -/
def yearPart (s : String) : String :=
  match s.toList with
  | 's' :: 'q' :: 'l' :: cs => String.ofList cs
  | 'S' :: 'Q' :: 'L' :: cs => String.ofList cs
  | _ => s

/-- Reads a version: its year, with `sql` or `SQL` before it or without, blanks around it
aside. -/
def read (s : String) : Except SettingError Version :=
  match all.find? fun v => v.text == yearPart (Text.trim s) with
  | some v => .ok v
  | none => .error (.unknownVersion s)

end Version

/-- The pieces of syntax that older versions do not understand. -/
inductive Feature where
  | declareInitializer
  | compoundAssignment
  | iif
  | tryCast
  | tryConvert
  | createOrAlter
  deriving DecidableEq, Repr

namespace Feature

/-- The name of the feature in messages. -/
def name : Feature → String
  | declareInitializer => "DECLARE with an initial value"
  | compoundAssignment => "Compound assignment"
  | iif => "IIF"
  | tryCast => "TRY_CAST"
  | tryConvert => "TRY_CONVERT"
  | createOrAlter => "CREATE OR ALTER"

/-- The first version with the feature. -/
def since : Feature → Version
  | declareInitializer => .sql2008
  | compoundAssignment => .sql2008
  | iif => .sql2012
  | tryCast => .sql2012
  | tryConvert => .sql2012
  | createOrAlter => .sql2016

end Feature

/-- Whether a version has a feature: from the feature's first version on. -/
def Version.supports (v : Version) (f : Feature) : Bool :=
  f.since ≤ v

/-- A feature stays supported in later versions. -/
theorem Version.supports_mono {v w : Version} {f : Feature} (h : v ≤ w)
    (hv : v.supports f = true) : w.supports f = true := by
  have hf : f.since ≤ v := of_decide_eq_true hv
  exact decide_eq_true (Nat.le_trans hf h)

end SqlLint
