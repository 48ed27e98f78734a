/-!
# Faults in settings

A version, a warning level or a warning may be named in an option, in a configuration file or
by a caller. The faults below say which of them could not be understood; each quotes the text as
it was given, blanks included.
-/

namespace SqlLint

/-- A setting that names nothing known. -/
inductive SettingError where
  | unknownVersion (text : String)
  | invalidLevel (text : String)
  | unknownWarning (text : String)
  deriving DecidableEq, Repr

namespace SettingError

/-- The sentence reported for the fault. -/
def message : SettingError → String
  | unknownVersion text =>
    s!"Unknown SQL version '{text}'. Known versions are: 2000, 2005, 2008, 2012, 2014, 2016"
  | invalidLevel text => s!"Invalid Warning Level '{text}'"
  | unknownWarning text => s!"Unknown warning '{text}'"

end SettingError

end SqlLint
