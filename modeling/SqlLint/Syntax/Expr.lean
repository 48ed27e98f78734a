import SqlLint.DataType.Basic
import SqlLint.Syntax.Operator

/-!
# Expressions

The tree of an expression. Parts that are not looked into further, such as subqueries and the
inside of `CASE`, keep the expressions found in them, so no variable is lost.
-/

namespace SqlLint

/-- A variable where it is written: `@name`, or `@@name` for one of the server's own. -/
structure Variable where
  name : String
  line : Nat
  deriving DecidableEq, Repr

/-- Whether the variable is one of the server's own. -/
def Variable.isGlobal (v : Variable) : Bool :=
  match v.name.toList with
  | '@' :: '@' :: _ => true
  | _ => false

/-- The last part of a qualified name. -/
def baseName (parts : List String) : String :=
  parts.getLast?.getD ""

/-- A qualified name with its parts joined by periods. -/
def fullName (parts : List String) : String :=
  ".".intercalate parts

/-- An expression. -/
inductive Expr where
  | var (v : Variable)
  | string (text : String) (national : Bool)
  | number (digits : String)
  | null
  /-- The name of a column, a table or a function, part by part. -/
  | name (parts : List String)
  | cast (kind : CastKind) (operand : Expr) (target : TypeRef) (style : Option Expr)
  | binary (op : BinaryOp) (left right : Expr)
  | unary (op : UnaryOp) (operand : Expr)
  /-- An expression in parentheses. -/
  | paren (inner : Expr)
  | call (name : List String) (args : List Expr)
  /-- Something that is kept only as the expressions in it. -/
  | parts (items : List Expr)
  deriving Repr

end SqlLint
