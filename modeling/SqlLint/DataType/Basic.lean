import SqlLint.DataType.Base
import SqlLint.Diagnostic.Basic
import SqlLint.Text.Ascii

/-!
# Data types

A data type is a base type with a declared length, or unknown. Nothing is ever reported about an
unknown type.
-/

namespace SqlLint

/-- A parameter of a type reference, as in `decimal(10, 2)` or `varchar(max)`. -/
inductive TypeParam where
  | size (n : Nat)
  | max
  deriving DecidableEq, Repr

/-- A type as a script refers to it. The name is its last part, without brackets. -/
structure TypeRef where
  name : String
  params : List TypeParam
  line : Nat
  deriving DecidableEq, Repr

/-- The length a type was declared with. -/
inductive Length where
  | implicit
  | explicit (n : Nat)
  | max
  deriving DecidableEq, Repr

/-- The length of a character variable declared without one. -/
def implicitDeclarationLength : Nat := 1

/-- The length of the character target of a cast without one. -/
def implicitCastLength : Nat := 30

/-- The length that comparisons use. -/
def Length.resolved : Length → Nat
  | implicit => implicitDeclarationLength
  | explicit n => n
  | max => maxLength

/-- The length given by a list of type parameters: the first one counts. -/
def Length.ofParams : List TypeParam → Length
  | [] => implicit
  | .size n :: _ => explicit n
  | .max :: _ => max

/-- The type of a value or variable. -/
inductive DataType where
  | unknown
  | known (base : BaseType) (length : Length)
  deriving DecidableEq, Repr

namespace DataType

/-- The type that a reference declares. Only types with a length keep their parameters, and
`sysname` stands for `nvarchar(128)`. -/
def ofRef (ref : TypeRef) : DataType :=
  match BaseType.ofName? ref.name with
  | none => unknown
  | some base =>
    if Text.equalFold ref.name "sysname" then known .nVarChar (.explicit 128)
    else if base.hasLength then known base (.ofParams ref.params)
    else known base .implicit

/-- A character type without a length. -/
def isUnsizedString : DataType → Bool
  | known base .implicit => base.isString
  | _ => false

/-- The base type of a known type. -/
def base? : DataType → Option BaseType
  | unknown => none
  | known base _ => some base

/-- The length that comparisons use. -/
def resolvedLength? : DataType → Option Nat
  | unknown => none
  | known _ length => some length.resolved

/-- The type with `n` in place of a missing length, if it is a character type. -/
def withDefaultLength (n : Nat) (t : DataType) : DataType :=
  match t with
  | known base .implicit => if base.isString then known base (.explicit n) else t
  | _ => t

/-- The type of arithmetic between two types: the one of lower rank, the right one if the ranks
are equal, and unknown if either is unknown. -/
def meet : DataType → DataType → DataType
  | known b l, known c m => if b.rank < c.rank then known b l else known c m
  | _, _ => unknown

/-- The type in messages. -/
def text : DataType → String
  | unknown => "unknown"
  | known base (.explicit n) =>
    if base.hasLength then base.name ++ "(" ++ toString n ++ ")" else base.name
  | known base .max => base.name ++ "(max)"
  | known base .implicit => base.name

end DataType

end SqlLint
