import SqlLint.CommandLine.Run

/-!
# The program

Gives a run the real file system, the environment and the arguments, and writes what it answers to
the standard streams.
-/

namespace SqlLint

/-- Access to the files of the system. What cannot be asked is taken for missing. -/
def systemFiles : FileAccess IO where
  currentDirectory := return (← IO.currentDir).toString
  read path := do
    match ← (IO.FS.readFile path).toBaseIO with
    | .ok text => return some text
    | .error _ => return none
  isFile path := do
    match ← (IO.FS.readBinFile path).toBaseIO with
    | .ok _ => return true
    | .error _ => return false
  names path := do
    let here ← IO.currentDir
    match ← (here / path).readDir.toBaseIO with
    | .ok entries => return some (entries.toList.map (·.fileName))
    | .error _ => return none

/-- Writes the end of a run to the standard streams and gives its exit status. -/
def Outcome.write : Outcome → IO UInt32
  | finished exitCode stdout stderr => do
    IO.print stdout
    IO.eprint stderr
    return exitCode.toUInt32
  | rejected => do
    IO.eprintln s!"error: the arguments cannot be understood\n\n{Run.usage}"
    return 2
  | failed stdout failure => do
    IO.print stdout
    IO.eprintln s!"Error: {failure.message}"
    if failure.exitCode = 1 then IO.eprintln s!"Run '{programName} --help' for usage"
    return failure.exitCode.toUInt32

end SqlLint

/-- Runs the program on the arguments of its process. -/
def main (args : List String) : IO UInt32 := do
  let environment ← IO.getEnv "TSQLCHECK_SQL_VERSION"
  (← SqlLint.run SqlLint.systemFiles environment args).write
