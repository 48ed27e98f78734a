import SqlLint.Files.Access

/-!
# File trees

A file system as a value: a tree of directories and files in which paths are looked up.
-/

namespace SqlLint

/-- A directory or a file. A file that does not hold text has none. -/
inductive FileTree where
  | file (text : Option String)
  | directory (entries : List (String × FileTree))

namespace FileTree

/-- The tree under a name. -/
def child? (name : String) : FileTree → Option FileTree
  | file _ => none
  | directory entries => entries.lookup name

/-- Whether the tree is a directory. -/
def isDirectory : FileTree → Bool
  | file _ => false
  | directory _ => true

/-- The tree at the end of a way of names. -/
def atNames? (root : FileTree) (names : List String) : Option FileTree :=
  names.foldl (fun tree name => tree.bind (child? name)) (some root)

/-- The names to a place that the parts of a path lead to from `here`. Every part needs a
directory to start from. Empty parts and single dots stay, and two dots lead up, where the root
is its own parent. -/
def follow? (root : FileTree) (here : List String) : List String → Option (List String)
  | [] => some here
  | part :: parts =>
    match root.atNames? here with
    | some (directory entries) =>
      if part = "" ∨ part = "." then follow? root here parts
      else if part = ".." then follow? root here.dropLast parts
      else if (entries.lookup part).isSome then follow? root (here ++ [part]) parts
      else none
    | _ => none

/-- The tree at a path, seen from the directory `here`. -/
def find? (root : FileTree) (here : List String) (path : String) : Option FileTree :=
  (root.follow? (if Path.isAbsolute path then [] else here) (Path.parts path)).bind root.atNames?

/-- The tree changed at the end of a way of names. What is missing on the way, or is no directory,
becomes a directory. -/
def modify (change : FileTree → FileTree) : List String → FileTree → FileTree
  | [], tree => change tree
  | name :: names, tree =>
    let entries := match tree with
      | directory entries => entries
      | file _ => []
    let old := (entries.lookup name).getD (directory [])
    directory ((entries.filter fun entry => entry.1 != name) ++ [(name, modify change names old)])

/-- A tree and the directory in it that a part of a path leads to, made if it is missing. -/
def enter (place : FileTree × List String) (part : String) : FileTree × List String :=
  let (tree, here) := place
  if part = "" ∨ part = "." then (tree, here)
  else if part = ".." then (tree, here.dropLast)
  else (tree.modify id (here ++ [part]), here ++ [part])

/-- The tree with all directories on a path from `here`, and the names to the last of them. -/
def makeDirectories (here : List String) (path : String) (tree : FileTree) :
    FileTree × List String :=
  (Path.parts path).foldl enter (tree, here)

/-- The tree with a file at a path from `here`. Directories on the way are made. -/
def write (here : List String) (path : String) (text : Option String) (tree : FileTree) :
    FileTree :=
  let parts := Path.parts path
  let (tree, folder) := parts.dropLast.foldl enter (tree, here)
  tree.modify (fun _ => file text) (folder ++ parts.getLast?.toList)

/-- Access to a tree from the directory `here`. -/
def access (root : FileTree) (here : List String) : FileAccess Id where
  currentDirectory := Path.absolute here.reverse
  read path :=
    match root.find? here path with
    | some (file text) => text
    | _ => none
  isFile path :=
    match root.find? here path with
    | some (file _) => true
    | _ => false
  names path :=
    match root.find? here path with
    | some (directory entries) => some (entries.map (·.1))
    | _ => none

end FileTree

end SqlLint
