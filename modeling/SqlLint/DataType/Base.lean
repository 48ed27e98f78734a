import SqlLint.Text.LowerCase

/-!
# Base types

The scalar types of the server, with the properties that assignments and arithmetic depend on.
-/

namespace SqlLint

/-- The scalar types of the server. -/
inductive BaseType where
  | char
  | varChar
  | nChar
  | nVarChar
  | tinyInt
  | smallInt
  | int
  | bigInt
  | bit
  | decimal
  | numeric
  | float
  | real
  | money
  | smallMoney
  | date
  | time
  | dateTime
  | dateTime2
  | dateTimeOffset
  | smallDateTime
  | text
  | nText
  | image
  | binary
  | varBinary
  | timestamp
  | uniqueIdentifier
  | sqlVariant
  | xml
  deriving DecidableEq, Repr

namespace BaseType

/-- Every base type: strings, numbers, dates, large objects and binaries, then the rest. -/
def all : List BaseType :=
  [char, varChar, nChar, nVarChar, tinyInt, smallInt, int, bigInt, bit, decimal, numeric, float,
   real, money, smallMoney, date, time, dateTime, dateTime2, dateTimeOffset, smallDateTime, text,
   nText, image, binary, varBinary, timestamp, uniqueIdentifier, sqlVariant, xml]

theorem mem_all (b : BaseType) : b ∈ all := by
  cases b <;> decide

/-- The position of the type in `all`. -/
def index (b : BaseType) : Nat := all.idxOf b

/-- The character types. -/
def isString : BaseType → Bool
  | char | varChar | nChar | nVarChar => true
  | _ => false

/-- The character types whose characters are Unicode. -/
def isWideString : BaseType → Bool
  | nChar | nVarChar => true
  | _ => false

/-- The integer types. -/
def isInteger : BaseType → Bool
  | tinyInt | smallInt | int | bigInt => true
  | _ => false

/-- The bytes an integer takes, and 0 for every other type. -/
def integerWidth : BaseType → Nat
  | tinyInt => 1
  | smallInt => 2
  | int => 4
  | bigInt => 8
  | _ => 0

/-- The characters that the longest value of an integer type takes, its sign included. -/
def renderedLength? : BaseType → Option Nat
  | tinyInt => some 3
  | smallInt => some 6
  | int => some 11
  | bigInt => some 20
  | _ => none

/-- The rank of the type when two types meet in arithmetic; the lower rank wins. -/
def rank : BaseType → Nat
  | sqlVariant => 1
  | xml => 2
  | dateTimeOffset => 3
  | dateTime2 => 4
  | dateTime => 5
  | smallDateTime => 6
  | date => 7
  | time => 8
  | float => 9
  | real => 10
  | decimal => 11
  | numeric => 11
  | money => 12
  | smallMoney => 13
  | bigInt => 14
  | int => 15
  | smallInt => 16
  | tinyInt => 17
  | bit => 18
  | nText => 19
  | text => 20
  | image => 21
  | timestamp => 22
  | uniqueIdentifier => 23
  | varBinary => 24
  | binary => 25
  | nChar => 26
  | nVarChar => 27
  | char => 28
  | varChar => 29

/-- The types whose first parameter is a length. -/
def hasLength (b : BaseType) : Bool :=
  b.isString || b = binary || b = varBinary

/-- The name of the type in scripts and messages. -/
def name : BaseType → String
  | char => "char"
  | varChar => "varchar"
  | nChar => "nchar"
  | nVarChar => "nvarchar"
  | tinyInt => "tinyint"
  | smallInt => "smallint"
  | int => "int"
  | bigInt => "bigint"
  | bit => "bit"
  | decimal => "decimal"
  | numeric => "numeric"
  | float => "float"
  | real => "real"
  | money => "money"
  | smallMoney => "smallmoney"
  | date => "date"
  | time => "time"
  | dateTime => "datetime"
  | dateTime2 => "datetime2"
  | dateTimeOffset => "datetimeoffset"
  | smallDateTime => "smalldatetime"
  | text => "text"
  | nText => "ntext"
  | image => "image"
  | binary => "binary"
  | varBinary => "varbinary"
  | timestamp => "timestamp"
  | uniqueIdentifier => "uniqueidentifier"
  | sqlVariant => "sql_variant"
  | xml => "xml"

/-- The tag of the type in machine-readable output. -/
def tag : BaseType → String
  | sqlVariant => "sqlvariant"
  | b => b.name

/-- The other names of types. -/
def aliases : List (String × BaseType) :=
  [("character", char), ("integer", int), ("dec", decimal), ("double precision", float),
   ("rowversion", timestamp), ("sysname", nVarChar)]

/-- The type with a name or another name, in any case. -/
def ofName? (name : String) : Option BaseType :=
  let lower := Text.lowerCase name
  match aliases.lookup lower with
  | some b => some b
  | none => all.find? fun b => b.name == lower

end BaseType

end SqlLint
