/-!
# ASCII letters

Key words are compared by their ASCII letters alone: a letter outside ASCII is equal to itself
only.
-/

namespace SqlLint.Text

/-- The text with its ASCII letters in upper case. -/
def asciiUpper (s : String) : String :=
  String.ofList (s.toList.map Char.toUpper)

/-- Whether two texts differ at most in the case of ASCII letters. -/
def equalFold (s t : String) : Bool :=
  s.toList.map Char.toUpper == t.toList.map Char.toUpper

@[simp]
theorem toList_asciiUpper (s : String) : (asciiUpper s).toList = s.toList.map Char.toUpper := by
  simp [asciiUpper]

/-- Two texts are equal up to ASCII case exactly if their upper cases are the same text. -/
theorem equalFold_iff {s t : String} : equalFold s t = true ↔ asciiUpper s = asciiUpper t := by
  simp [equalFold, ← String.toList_inj]

@[simp]
theorem equalFold_refl (s : String) : equalFold s s = true := by
  simp [equalFold]

end SqlLint.Text
