import SqlLint.Syntax.Expr

/-!
# Statements

The tree of a script: batches of statements. Statements that declare, assign, call or control
are kept with their structure, all others as the expressions found in them.
-/

namespace SqlLint

/-- What a `DECLARE` statement introduces. -/
inductive Declaration where
  | scalar (name : Variable) (type : TypeRef) (value : Option Expr)
  /-- A table variable or a cursor variable. -/
  | table (name : Variable)
  deriving Repr

/-- A parameter of a procedure or function. -/
structure Parameter where
  name : Variable
  type : TypeRef
  default : Option Expr
  output : Bool
  deriving Repr

/-- An argument of `EXEC`. The name is that of a parameter of the called procedure, and there is
no value if the default is asked for. -/
structure Argument where
  name : Option Variable
  value : Option Expr
  output : Bool
  deriving Repr

/-- A call of a procedure by `EXEC`. -/
structure Execution where
  line : Nat
  status : Option Variable
  procedure : Expr
  arguments : List Argument
  deriving Repr

/-- A statement. -/
inductive Statement where
  | declare (items : List Declaration)
  /-- An assignment, compound if there is an operator. -/
  | setVariable (target : Variable) (op : Option BinaryOp) (value : Expr)
  /-- Options that are switched on or off; their names are in upper case. -/
  | setOption (line : Nat) (options : List String) (on : Bool)
  | procedure (name : List String) (line : Nat) (parameters : List Parameter)
      (body : List Statement)
  /-- A function; `result` is the table variable that it returns, if any. -/
  | function (name : List String) (line : Nat) (parameters : List Parameter)
      (result : Option Variable) (body : List Statement)
  | execute (call : Execution)
  | block (body : List Statement)
  /-- Both `IF` and `WHILE`; only `IF` can have another branch. -/
  | conditional (condition : Expr) (body : Statement) (otherwise : Option Statement)
  | returns (value : Option Expr)
  /-- Any other statement, kept as the expressions in it. -/
  | other (items : List Expr)
  deriving Repr

/-- The statements between two separators, and the line of the first token. -/
structure Batch where
  line : Nat
  statements : List Statement
  deriving Repr

end SqlLint
