/-!
# Decimal numerals

Reading an unsigned decimal numeral. A plus sign and leading zeros are allowed; a numeral whose
value passes the given limit is no numeral at all.
-/

namespace SqlLint.Text

/-- The value of a sequence of decimal digits, continued from `value`. -/
def digitsValue? (value : Nat) : List Char → Option Nat
  | [] => some value
  | c :: cs => if c.isDigit then digitsValue? (value * 10 + (c.toNat - 48)) cs else none

/-- The value of a numeral: at least one digit, with a plus sign before it or without. -/
def numeralValue? (s : String) : Option Nat :=
  let digits := match s.toList with
    | '+' :: cs => cs
    | cs => cs
  if digits.isEmpty then none else digitsValue? 0 digits

/-- The largest number of 32 bits. -/
def maxWord32 : Nat := 0xffffffff

/-- The largest number of 64 bits. -/
def maxWord64 : Nat := 0xffffffffffffffff

/-- The value of a numeral that does not pass `limit`. -/
def boundedNumeral? (limit : Nat) (s : String) : Option Nat :=
  (numeralValue? s).filter (· ≤ limit)

end SqlLint.Text
