/-!
# Configuration documents

The value of a configuration file: a table of keys. Tables can be opened by a heading or by keys
of several parts, and no table may be defined in two ways.

Only those kinds of values are kept that some setting can have.
-/

namespace SqlLint

namespace Config

/-- How a table came to be, which decides in what way it can be added to. -/
inductive Origin where
  /-- Opened by its own heading. -/
  | heading
  /-- On the way to a table with a heading. -/
  | onTheWay
  /-- Made by a key of several parts. -/
  | dotted
  deriving DecidableEq, Repr

/-- A value or a table of values. Tables and arrays inside a value are closed. -/
inductive Node where
  | text (s : String)
  | integer (n : Int)
  | array (items : List Node)
  | closedTable (entries : List (String × Node))
  | table (origin : Origin) (entries : List (String × Node))
  deriving Repr

/-- The entries of a table. -/
abbrev Entries := List (String × Node)

/-- The entries with another node under a key. -/
def put (key : String) (node : Node) : Entries → Entries
  | [] => [(key, node)]
  | (k, old) :: entries =>
    if k == key then (k, node) :: entries else (k, old) :: put key node entries

/-- The entries with a value under a key of one or more parts. The tables on the way are those
that such keys make. Nothing may be defined twice, and a table that a heading opened cannot be
reached in this way. -/
def assign? (value : Node) : List String → Entries → Option Entries
  | [], _ => none
  | [key], entries => if (entries.lookup key).isSome then none else some (put key value entries)
  | key :: keys, entries =>
    match entries.lookup key with
    | none => (assign? value keys []).map fun inner => put key (.table .dotted inner) entries
    | some (.table .dotted inner) =>
      (assign? value keys inner).map fun inner => put key (.table .dotted inner) entries
    | some _ => none

/-- The entries with a table opened by a heading of one or more parts. -/
def openTable? : List String → Entries → Option Entries
  | [], _ => none
  | [key], entries =>
    match entries.lookup key with
    | none => some (put key (.table .heading []) entries)
    | some (.table .onTheWay inner) => some (put key (.table .heading inner) entries)
    | some _ => none
  | key :: keys, entries =>
    match entries.lookup key with
    | none => (openTable? keys []).map fun inner => put key (.table .onTheWay inner) entries
    | some (.table origin inner) =>
      (openTable? keys inner).map fun inner => put key (.table origin inner) entries
    | some _ => none

/-- The entries after an assignment inside the table with the given heading. -/
def assignUnder? (heading keys : List String) (value : Node) (entries : Entries) : Option Entries :=
  match heading with
  | [] => assign? value keys entries
  | key :: rest =>
    match entries.lookup key with
    | some (.table origin inner) =>
      (assignUnder? rest keys value inner).map fun inner => put key (.table origin inner) entries
    | _ => none

end Config

end SqlLint
