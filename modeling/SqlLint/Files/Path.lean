/-!
# Paths

Paths are texts whose parts are divided by slashes. They are kept as they were given, since
reports show them that way.
-/

namespace SqlLint.Path

/-- The parts between slashes, empty ones included. -/
def splitSlash : List Char → List (List Char)
  | [] => [[]]
  | c :: cs =>
    if c = '/' then [] :: splitSlash cs
    else
      match splitSlash cs with
      | [] => [[c]]
      | part :: parts => (c :: part) :: parts

/-- The parts of a path, empty ones included. -/
def parts (path : String) : List String :=
  (splitSlash path.toList).map String.ofList

/-- Whether a path starts at the root. -/
def isAbsolute (path : String) : Bool :=
  path.toList.head? = some '/'

/-- A name below a directory. -/
def join (directory name : String) : String :=
  if directory.toList.getLast? = some '/' then directory ++ name else directory ++ "/" ++ name

/-- The root with some names below it, the last name first. -/
def absolute (names : List String) : String :=
  "/" ++ "/".intercalate names.reverse

/-- A directory given by the names on the way to it, the last name first, and all directories
above it, the nearest first. -/
def upward : List String → List String
  | [] => [absolute []]
  | name :: names => absolute (name :: names) :: upward names

/-- An absolute path to a directory and the directories above it, the nearest first. -/
def ancestors (path : String) : List String :=
  upward ((parts path).filter fun part => !part.isEmpty).reverse

end SqlLint.Path
