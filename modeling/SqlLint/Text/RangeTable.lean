/-!
# Tables of character ranges

A Unicode property is a set of code points, kept as a list of ranges in ascending order.
-/

namespace SqlLint.Text

/-- Ranges of code points, first and last included, in ascending order. -/
abbrev RangeTable := List (Nat × Nat)

/-- Whether `n` lies in a range of the table. The search ends at the first range that starts
beyond `n`, which is right because the ranges ascend. -/
def RangeTable.contains : RangeTable → Nat → Bool
  | [], _ => false
  | (first, last) :: ranges, n =>
    if n < first then false
    else if n ≤ last then true
    else RangeTable.contains ranges n

end SqlLint.Text
