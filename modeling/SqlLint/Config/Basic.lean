import SqlLint.Check.Analyzer
import SqlLint.Config.Read

/-!
# Configurations

The settings of a run, which come from a configuration file and from the command line. What is
given on the command line goes before what the file says.
-/

namespace SqlLint

/-- The forms in which findings are reported. -/
inductive Format where
  | human
  | json
  | sarif
  deriving DecidableEq, Repr

namespace Format

/-- Findings are reported for people if nothing else is chosen. -/
instance : Inhabited Format := ⟨human⟩

/-- The form with a name. -/
def ofName? : String → Option Format
  | "human" => some human
  | "json" => some json
  | "sarif" => some sarif
  | _ => none

end Format

/-- The settings of a run, as far as they are given. -/
structure Config where
  version : Option String
  level : Option Nat
  format : Option Format
  disable : List String
  deriving DecidableEq, Repr

namespace Config

/-- The name of configuration files. -/
def fileName : String := "tsqlcheck.toml"

/-- The configuration in which nothing is given. -/
def empty : Config := ⟨none, none, none, []⟩

/-! ## From documents -/

/-- Whether a node holds nothing. -/
def isEmptyNode : Node → Bool
  | .array items => items.isEmpty
  | .closedTable entries => entries.isEmpty
  | .table _ entries => entries.isEmpty
  | _ => false

/-- The form of reports that a node names: by its name, or by a table with the name as its only
key and nothing under it. -/
def formatOf? : Node → Option Format
  | .text s => Format.ofName? s
  | .closedTable [(name, node)] => if isEmptyNode node then Format.ofName? name else none
  | .table _ [(name, node)] => if isEmptyNode node then Format.ofName? name else none
  | _ => none

/-- The warning that a node names: by a number of 32 bits or by a text. -/
def warningOf? : Node → Option String
  | .text s => some s
  | .integer (.ofNat n) => if n ≤ Text.maxWord32 then some (toString n) else none
  | _ => none

/-- The configuration with one more entry of a document. There are no other keys than these. -/
def withEntry? (c : Config) (key : String) (node : Node) : Option Config :=
  match key, node with
  | "sql_version", .text s => some { c with version := some s }
  | "warn", .integer (.ofNat n) => if n < 256 then some { c with level := some n } else none
  | "format", node => (formatOf? node).map fun f => { c with format := some f }
  | "disable", .array items => (items.mapM warningOf?).map fun ws => { c with disable := ws }
  | _, _ => none

/-- The configuration that a text holds, if it is one. -/
def read? (text : String) : Option Config := do
  (← document? text).foldlM (fun c (key, node) => c.withEntry? key node) empty

/-! ## Use -/

/-- The settings of `given` with those of `c` where `given` has none. -/
def overriddenBy (c given : Config) : Config where
  version := given.version.or c.version
  level := given.level.or c.level
  format := given.format.or c.format
  disable := if given.disable.isEmpty then c.disable else given.disable

/-- The severity of a level, or the default. -/
def threshold (level : Option Nat) : Except SettingError Severity :=
  match level with
  | none => .ok default
  | some n =>
    match Severity.ofLevel? n with
    | some s => .ok s
    | none => .error (.invalidLevel (toString n))

/-- The analyzer with the settings of a configuration. The version is looked at first, then the
level, then the warnings in order. -/
def analyzer (c : Config) : Except SettingError Analyzer := do
  let version ← match c.version with
    | some text => Version.read text
    | none => pure default
  let threshold ← threshold c.level
  c.disable.foldlM (fun a name => do return a.disable (← DiagnosticKind.read name))
    { version, threshold, disabled := [] }

end Config

end SqlLint
