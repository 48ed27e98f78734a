import SqlLint.CommandLine.Options
import SqlLint.Files.Expand
import SqlLint.Report.Catalog
import SqlLint.Report.Human
import SqlLint.Report.Machine

/-!
# Running the program

A run reads its arguments, finds its configuration, checks its inputs and reports what it has
found. Its effects are those of the file system it asks; the answer is a value.
-/

namespace SqlLint

/-- Where a configuration comes from: from a file that was named, or from one that was found. -/
inductive ConfigSource where
  | named (path : String)
  | found (path : String)
  deriving DecidableEq, Repr

/-- The path of the configuration file. -/
def ConfigSource.path : ConfigSource → String
  | named path => path
  | found path => path

/-- Why a run ends without a report. -/
inductive Failure where
  | setting (e : SettingError)
  | unreadableConfig (source : ConfigSource)
  | invalidConfig (source : ConfigSource)
  | badPattern (e : PatternError)
  | noMatch (pattern : String)
  | unreadableFile (path : String)
  deriving DecidableEq, Repr

namespace Failure

/-- The sentence for the failure. -/
def message : Failure → String
  | setting e => e.message
  | unreadableConfig source => s!"Error reading config file {source.path}"
  | invalidConfig source => s!"Invalid config file {source.path}"
  | badPattern e => e.message
  | noMatch pattern => s!"No files match '{pattern}'"
  | unreadableFile path => s!"Error reading file {path}"

/-- The exit status for the failure: 2 if an input cannot be read. -/
def exitCode : Failure → Nat
  | unreadableFile _ => 2
  | _ => 1

end Failure

/-- How a run ends. -/
inductive Outcome where
  | finished (exitCode : Nat) (stdout stderr : String)
  /-- The arguments cannot be understood. -/
  | rejected
  | failed (stdout : String) (failure : Failure)
  deriving DecidableEq, Repr

namespace Run

/-- The line that a run for people begins with, unless it is turned off. -/
def banner (options : Options) (format : Format) : String :=
  if options.nologo || format != .human then ""
  else programName ++ " version " ++ programVersion ++ "\n"

/-- The end of a run with its reports. The exit status is 1 if there is a syntax error. -/
def conclude (banner : String) (format : Format) (reports : List Report) : Outcome :=
  let exitCode := if Report.anyErrors reports then 1 else 0
  match format with
  | .human => .finished exitCode banner (Report.humanText reports)
  | .json => .finished exitCode (banner ++ (Report.json reports).pretty ++ "\n") ""
  | .sarif => .finished exitCode (banner ++ (Report.sarif reports).pretty ++ "\n") ""

variable {m : Type → Type} [Monad m]

/-- The configuration in a file. -/
def loadConfig (files : FileAccess m) (source : ConfigSource) : m (Except Failure Config) := do
  match ← files.read source.path with
  | none => return .error (.unreadableConfig source)
  | some text =>
    match Config.read? text with
    | none => return .error (.invalidConfig source)
    | some config => return .ok config

/-- The configuration of a run: from the named file, or the nearest one, or none. -/
def findConfig (files : FileAccess m) (named : Option String) : m (Except Failure Config) := do
  match named with
  | some path => loadConfig files (.named path)
  | none =>
    match ← files.nearest Config.fileName with
    | some path => loadConfig files (.found path)
    | none => return .ok .empty

/-- The paths that an argument stands for. A path without wildcards is taken as it is. -/
def expandArgument (files : FileAccess m) (path : String) : m (Except Failure (List String)) := do
  if isPattern path then
    match PathPattern.read path with
    | .error e => return .error (.badPattern e)
    | .ok pattern =>
      match ← pattern.expand files with
      | [] => return .error (.noMatch path)
      | paths => return .ok paths
  else return .ok [path]

/-- The paths that the arguments stand for, in order. -/
def expandArguments (files : FileAccess m) : List String → m (Except Failure (List String))
  | [] => return .ok []
  | path :: paths => do
    match ← expandArgument files path with
    | .error e => return .error e
    | .ok first =>
      match ← expandArguments files paths with
      | .error e => return .error e
      | .ok rest => return .ok (first ++ rest)

/-- The reports on files, in order, or the failure of the first one that cannot be read. -/
def checkFiles (files : FileAccess m) (analyzer : Analyzer) :
    List String → m (Except Failure (List Report))
  | [] => return .ok []
  | path :: paths => do
    match ← files.read path with
    | none => return .error (.unreadableFile path)
    | some text =>
      match ← checkFiles files analyzer paths with
      | .error e => return .error e
      | .ok reports => return .ok (⟨path, analyzer.analyze text⟩ :: reports)

/-- The report on a script given on the command line. -/
def checkInline (analyzer : Analyzer) (inline : Option String) : List Report :=
  (inline.map fun text => ⟨inlinePath, analyzer.analyze text⟩).toList

/-- Checks the inputs. -/
def checkInputs (files : FileAccess m) (options : Options) (analyzer : Analyzer) (format : Format) :
    m Outcome := do
  let start := banner options format
  match ← expandArguments files options.files with
  | .error e => return .failed start e
  | .ok paths =>
    match ← checkFiles files analyzer paths with
    | .error e => return .failed start e
    | .ok reports => return conclude start format (checkInline analyzer options.inline ++ reports)

/-- Finds the settings and checks the inputs. -/
def check (files : FileAccess m) (options : Options) : m Outcome := do
  match ← findConfig files options.config with
  | .error e => return .failed "" e
  | .ok config =>
    let config := config.overriddenBy options.settings
    match config.analyzer with
    | .error e => return .failed "" (.setting e)
    | .ok analyzer => checkInputs files options analyzer (config.format.getD default)

/-- How the program is called. -/
def usage : String := "Usage: tsqlcheck [OPTIONS] [FILES]..."

/-- The text for a request for help. -/
def help : String :=
  "T-SQL static analysis tool\n\n" ++ usage ++ "\n\n" ++
  "Arguments:\n" ++
  "  [FILES]...  SQL files to check (supports glob patterns)\n\n" ++
  "Options:\n" ++
  "  -i, --inline <SQL>           Check SQL given on the command line instead of a file\n" ++
  "  -v, --sql-version <VERSION>  SQL Server version whose syntax is accepted " ++
  "(2000, 2005, 2008, 2012, 2014, 2016) [env: TSQLCHECK_SQL_VERSION=]\n" ++
  "  -w, --warn <LEVEL>           Warning level: 0 none, 1 critical, 2 serious, 3 all\n" ++
  "  -f, --format <FORMAT>        Output format [possible values: human, json, sarif]\n" ++
  "  -c, --config <FILE>          Configuration file (defaults to the nearest tsqlcheck.toml)\n" ++
  "  -d, --disable <WARNING>      Warning to turn off, by number or name (repeatable)\n" ++
  "  -q, --nologo                 Do not print the version banner\n" ++
  "      --list-warnings          Print the warning catalog as markdown and exit\n" ++
  "      --verbose...             Enable verbose logging\n" ++
  "  -h, --help                   Print help\n" ++
  "  -V, --version                Print version\n"

end Run

/-- Runs the program on its arguments; `environment` is the version that the environment sets. -/
def run {m : Type → Type} [Monad m] (files : FileAccess m) (environment : Option String)
    (args : List String) : m Outcome := do
  match Options.read? environment args with
  | none => return .rejected
  | some .showVersion => return .finished 0 (programName ++ " " ++ programVersion ++ "\n") ""
  | some .showHelp => return .finished 0 Run.help ""
  | some (.check options) =>
    if options.listWarnings then return .finished 0 Report.catalog ""
    else Run.check files options

end SqlLint
