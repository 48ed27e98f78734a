import SqlLint.Files.Access
import SqlLint.Files.Pattern

/-!
# Expanding path patterns

The paths that a pattern stands for. Names in a directory are tried in alphabetical order, and a
directory comes before what is in it.

A name without wildcards is looked up directly; only where there are wildcards is a directory
listed. The entries `.` and `..` are never listed, so a pattern finds them only if it begins with
a dot.
-/

namespace SqlLint

/-- How many names deep an expansion goes. No path that a system accepts is longer. -/
def expansionDepth : Nat := 10000

namespace PathPattern

variable {m : Type → Type} [Monad m]

/-- Whether a path leads to the current directory by dots alone. -/
def isHere (path : String) : Bool :=
  !Path.isAbsolute path && (Path.parts path).all fun part => part = "" || part = "."

/-- The path of a name below a directory. Below the current directory it is the name itself. -/
def below (directory name : String) : String :=
  if isHere directory then name else Path.join directory name

/-- Whether two stars are the pattern of a name. -/
def isRecursive (ws : List Wildcard) : Bool := ws.contains .anyDirectories

/-- The paths found so far with those of one more action. -/
def gather (found : List String) (more : m (List String)) : m (List String) := do
  return found ++ (← more)

mutual

/-- The paths below `directory` that the patterns of names stand for. -/
def expandIn (files : FileAccess m) (only : Bool) (fuel : Nat) (patterns : List (List Wildcard))
    (directory : String) : m (List String) :=
  match fuel, patterns with
  | 0, _ => return []
  | _, [] => do
    if only && !(← files.isDirectory directory) then return [] else return [directory]
  | fuel + 1, pattern :: rest =>
    match Wildcard.literalName? pattern with
    | some name => do
      let next := below directory name
      let found ←
        if name = "." || name = ".." then files.isDirectory directory else files.isPresent next
      if found then expandIn files only fuel rest next else return []
    | none => do
      match ← files.names directory with
      | none => return []
      | some names =>
        let special := if pattern.head? = some (.literal '.') then
          [("..").toList, (".").toList].filter (Wildcard.fits pattern) else []
        let first ← special.foldlM (fun found name => gather found
          (expandIn files only fuel rest (Path.join directory (String.ofList name)))) []
        (names.mergeSort fun a b => decide (a ≤ b)).foldlM (fun found name => gather found
          (expandAt files only fuel (pattern :: rest) (below directory name) name)) first

/-- The paths at or below `path`, an entry called `name`, that the patterns stand for, the first
of them being for that entry. -/
def expandAt (files : FileAccess m) (only : Bool) (fuel : Nat) (patterns : List (List Wildcard))
    (path name : String) : m (List String) :=
  match fuel, patterns with
  | 0, _ => return []
  | _, [] => return []
  | fuel + 1, pattern :: rest => do
    if isRecursive pattern then
      let rest := rest.dropWhile isRecursive
      if ← files.isDirectory path then
        let here ← if rest.isEmpty then pure [path] else expandAt files only fuel rest path name
        gather here (expandIn files only fuel (pattern :: rest) path)
      else expandAt files only fuel rest path name
    else if Wildcard.fits pattern name.toList then expandIn files only fuel rest path
    else return []

end

/-- The paths that a pattern stands for. -/
def expand (files : FileAccess m) (p : PathPattern) : m (List String) :=
  expandIn files p.directoriesOnly expansionDepth p.names p.scope

end PathPattern

end SqlLint
