import SqlLint.Files.Path

/-!
# Access to files

What the command line needs from a file system, whatever the effects of asking for it. A path
that does not start at the root is meant relative to the current directory.
-/

namespace SqlLint

/-- Questions to a file system. -/
structure FileAccess (m : Type → Type) where
  /-- The absolute path of the current directory. -/
  currentDirectory : m String
  /-- The text of a file, none if there is no such file or it does not hold text. -/
  read : String → m (Option String)
  /-- Whether there is a file at a path. -/
  isFile : String → m Bool
  /-- The names in a directory in any order, none if there is no such directory. -/
  names : String → m (Option (List String))

namespace FileAccess

variable {m : Type → Type} [Monad m]

/-- Whether there is a directory at a path. -/
def isDirectory (files : FileAccess m) (path : String) : m Bool := do
  return (← files.names path).isSome

/-- Whether there is anything at a path. An empty path leads nowhere. -/
def isPresent (files : FileAccess m) (path : String) : m Bool := do
  if path.isEmpty then return false
  else if ← files.isFile path then return true
  else files.isDirectory path

/-- The first path of a list at which there is a file. -/
def firstFile (files : FileAccess m) : List String → m (Option String)
  | [] => return none
  | path :: paths => do
    if ← files.isFile path then return some path else files.firstFile paths

/-- The file of a name in the current directory or the nearest directory above it. -/
def nearest (files : FileAccess m) (name : String) : m (Option String) := do
  let here ← files.currentDirectory
  files.firstFile ((Path.ancestors here).map (Path.join · name))

end FileAccess

end SqlLint
