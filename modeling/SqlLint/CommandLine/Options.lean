import SqlLint.Config.Basic

/-!
# Command line options

Arguments are read from left to right. An option with a value takes it from the same argument,
behind `=` or directly behind its letter, or from the next argument, which then must not look like
an option. Letters without a value can share an argument. Behind `--` everything is a file.

The first thing that is wrong ends the reading, and so does a request for the version or for help.
-/

namespace SqlLint

/-- What the options ask for. -/
structure Options where
  files : List String
  inline : Option String
  config : Option String
  settings : Config
  nologo : Bool
  listWarnings : Bool
  verbose : Nat
  deriving Repr

/-- A request on the command line. -/
inductive Command where
  | check (options : Options)
  | showVersion
  | showHelp
  deriving Repr

namespace Options

/-- The options in which nothing is asked for. -/
def empty : Options := ⟨[], none, none, .empty, false, false, 0⟩

/-- The options that take a value. -/
inductive Valued where
  | inline
  | sqlVersion
  | warn
  | format
  | config
  | disable
  deriving DecidableEq, Repr

/-- The options without a value. -/
inductive Flag where
  | nologo
  | listWarnings
  | verbose
  | help
  | version
  deriving DecidableEq, Repr

/-- The option with a long name. -/
def ofName? : String → Option (Valued ⊕ Flag)
  | "inline" => some (.inl .inline)
  | "sql-version" => some (.inl .sqlVersion)
  | "warn" => some (.inl .warn)
  | "format" => some (.inl .format)
  | "config" => some (.inl .config)
  | "disable" => some (.inl .disable)
  | "nologo" => some (.inr .nologo)
  | "list-warnings" => some (.inr .listWarnings)
  | "verbose" => some (.inr .verbose)
  | "help" => some (.inr .help)
  | "version" => some (.inr .version)
  | _ => none

/-- The option with a letter. -/
def ofLetter? : Char → Option (Valued ⊕ Flag)
  | 'i' => some (.inl .inline)
  | 'v' => some (.inl .sqlVersion)
  | 'w' => some (.inl .warn)
  | 'f' => some (.inl .format)
  | 'c' => some (.inl .config)
  | 'd' => some (.inl .disable)
  | 'q' => some (.inr .nologo)
  | 'h' => some (.inr .help)
  | 'V' => some (.inr .version)
  | _ => none

/-- The warning level that a text gives: a number from 0 to 3, with a sign or without. -/
def level? (text : String) : Option Nat :=
  match text.toList with
  | '-' :: cs => if cs.isEmpty then none else (Text.digitsValue? 0 cs).filter (· = 0)
  | _ => Text.boundedNumeral? 3 text

/-- A path, which is not empty. -/
def path? (text : String) : Option String :=
  if text.isEmpty then none else some text

/-- A place for a value that can be given only once. -/
def once {α : Type} (old : Option α) (new : Option α) : Option (Option α) :=
  if old.isSome then none else new.map some

/-- The options after an option with its value, unless the value is wrong or the option has been
given before. Only warnings to turn off can be given again. -/
def store (o : Options) (option : Valued) (value : String) : Option Options :=
  let settings := o.settings
  match option with
  | .inline => (once o.inline (some value)).map fun v => { o with inline := v }
  | .config => (once o.config (path? value)).map fun v => { o with config := v }
  | .sqlVersion => (once settings.version (some value)).map fun v =>
      { o with settings := { settings with version := v } }
  | .warn => (once settings.level (level? value)).map fun v =>
      { o with settings := { settings with level := v } }
  | .format => (once settings.format (Format.ofName? value)).map fun v =>
      { o with settings := { settings with format := v } }
  | .disable => some { o with settings := { settings with disable := settings.disable ++ [value] } }

/-- How the reading of arguments goes on. -/
inductive Step where
  /-- With these options; the next argument is the value of an option, if one waits for it. -/
  | next (options : Options) (waiting : Option Valued)
  /-- Not at all. -/
  | stop (command : Command)

/-- The effect of an option without a value. -/
def flag (o : Options) (f : Flag) : Option Step :=
  match f with
  | .nologo => if o.nologo then none else some (.next { o with nologo := true } none)
  | .listWarnings =>
    if o.listWarnings then none else some (.next { o with listWarnings := true } none)
  | .verbose => some (.next { o with verbose := o.verbose + 1 } none)
  | .help => some (.stop .showHelp)
  | .version => some (.stop .showVersion)

/-- The effect of an argument with a long name, and a value behind `=` if there is one. -/
def long (o : Options) (name : String) (value : Option String) : Option Step :=
  match ofName? name, value with
  | some (.inl option), some value => (o.store option value).map (.next · none)
  | some (.inl option), none => some (.next o (some option))
  | some (.inr f), none => o.flag f
  | some (.inr _), some _ => none
  | none, _ => none

/-- The effect of an argument with letters. The first letter of an option with a value takes all
that is left of the argument, or waits for the next argument if nothing is left. -/
def letters (o : Options) : List Char → Option Step
  | [] => some (.next o none)
  | c :: cs =>
    match ofLetter? c with
    | none => none
    | some (.inl option) =>
      match cs with
      | [] => some (.next o (some option))
      | '=' :: value => (o.store option (String.ofList value)).map (.next · none)
      | value => (o.store option (String.ofList value)).map (.next · none)
    | some (.inr f) =>
      match o.flag f with
      | some (.next o _) => letters o cs
      | other => other

/-- The effect of an argument that looks like an option. -/
def option (o : Options) (arg : List Char) : Option Step :=
  match arg with
  | '-' :: '-' :: cs =>
    let name := String.ofList (cs.takeWhile (· != '='))
    match cs.dropWhile (· != '=') with
    | [] => o.long name none
    | _ :: value => o.long name (some (String.ofList value))
  | '-' :: cs => o.letters cs
  | _ => none

/-- Whether an argument looks like an option. A single dash does not. -/
def looksLikeOption (arg : List Char) : Bool :=
  match arg with
  | '-' :: _ :: _ => true
  | _ => false

/-- The options with one more file. -/
def addFile (o : Options) (path : String) : Option Options :=
  (path? path).map fun p => { o with files := o.files ++ [p] }

/-- The command at the end of the arguments. There has to be something to check, unless the
warnings are to be listed. A version in the environment counts if none is given. -/
def finish (environment : Option String) (o : Options) : Option Command :=
  if o.files.isEmpty && o.inline.isNone && !o.listWarnings then none
  else
    let version := o.settings.version.or environment
    some (.check { o with settings := { o.settings with version } })

/-- Reads the arguments behind `--`. -/
def readFiles (o : Options) : List String → Option Options
  | [] => some o
  | arg :: args => do readFiles (← o.addFile arg) args

/-- Reads the arguments that are left, the first of them being the value of an option that waits
for one. -/
def readFrom (environment : Option String) (o : Options) (waiting : Option Valued) :
    List String → Option Command
  | [] => if waiting.isSome then none else finish environment o
  | arg :: args =>
    if looksLikeOption arg.toList then
      if waiting.isSome then none
      else if arg = "--" then (readFiles o args).bind (finish environment)
      else
        match o.option arg.toList with
        | none => none
        | some (.next o waiting) => readFrom environment o waiting args
        | some (.stop command) => some command
    else
      match waiting with
      | some option => do readFrom environment (← o.store option arg) none args
      | none => do readFrom environment (← o.addFile arg) none args

/-- Reads the arguments of the program; `environment` is the version that the environment sets. -/
def read? (environment : Option String) (args : List String) : Option Command :=
  readFrom environment empty none args

end Options

end SqlLint
