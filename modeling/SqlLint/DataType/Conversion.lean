import SqlLint.DataType.Base

/-!
# Conversions between base types

What becomes of a value of one type when it is put into a slot of another. An outcome is a set
of remarks; the outcome without any is the safe one. Pairs that no rule describes are marked as
such and draw no diagnostic.
-/

namespace SqlLint

/-- A set of remarks on a conversion, as bits. -/
structure Conversion where
  bits : Nat
  deriving DecidableEq, Repr

namespace Conversion

/-- No remark: every value fits. -/
def implicitSafe : Conversion := ⟨0⟩

/-- The conversion happens by itself and may fail. -/
def implicitLossy : Conversion := ⟨1⟩

/-- The conversion has to be asked for. -/
def explicit : Conversion := ⟨2⟩

/-- The declared lengths have to be compared. -/
def checkLength : Conversion := ⟨4⟩

/-- Unicode characters become characters of a code page. -/
def narrowing : Conversion := ⟨8⟩

/-- There is no such conversion. -/
def notAllowed : Conversion := ⟨16⟩

/-- The written form of the value has to be compared with the length. -/
def checkConvertedLength : Conversion := ⟨32⟩

/-- The value may be out of range. -/
def numericOverflow : Conversion := ⟨64⟩

/-- No rule describes the pair. -/
def notImplemented : Conversion := ⟨65536⟩

/-- Each remark with its name, by ascending bit. -/
def named : List (Conversion × String) :=
  [(implicitLossy, "ImplicitLossy"), (explicit, "Explicit"), (checkLength, "CheckLength"),
   (narrowing, "Narrowing"), (notAllowed, "NotAllowed"),
   (checkConvertedLength, "CheckConvertedLength"), (numericOverflow, "NumericOverflow"),
   (notImplemented, "NotImplemented")]

/-- All remarks of both. -/
def union (c d : Conversion) : Conversion := ⟨c.bits ||| d.bits⟩

/-- Whether all remarks of `d` are among those of `c`. The safe outcome is no part of another: it
is contained in itself alone. -/
def contains (c d : Conversion) : Bool :=
  if d.bits = 0 then c.bits = 0 else c.bits &&& d.bits = d.bits

/-- The names of the remarks, by ascending bit. -/
def text (c : Conversion) : String :=
  if c.bits = 0 then "ImplicitSafe"
  else " | ".intercalate ((named.filter fun entry => c.contains entry.1).map (·.2))

/-- The remarks with a name, the safe outcome included. -/
def ofName? (name : String) : Option Conversion :=
  if name == "ImplicitSafe" then some implicitSafe
  else (named.find? fun entry => entry.2 == name).map (·.1)

end Conversion

/-- The outcome of putting a value of the first type into a slot of the second. -/
def BaseType.convert (source target : BaseType) : Conversion :=
  if source.isString && target.isString then
    if source.isWideString && !target.isWideString then
      Conversion.checkLength.union Conversion.narrowing
    else .checkLength
  else if source.isInteger && target.isString then .checkConvertedLength
  else if source.isInteger && target.isInteger then
    if source.integerWidth > target.integerWidth then .numericOverflow else .implicitSafe
  else if source.isWideString && target.isInteger then .implicitLossy
  else if source = target then .implicitSafe
  else .notImplemented

end SqlLint
