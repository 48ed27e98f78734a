/-!
# Runs of case pairs

Case mappings come in runs: the letters of one alphabet are shifted together, or every second
character of a stretch is paired with its neighbour.
-/

namespace SqlLint.Text

/-- The characters `first`, `first + step`, …, `last`, all moved by as much as `first` is moved
to reach `image`. -/
structure CaseRun where
  first : Nat
  last : Nat
  step : Nat
  image : Nat

namespace CaseRun

/-- Whether the run moves the code point `n`. -/
def covers (run : CaseRun) (n : Nat) : Bool :=
  run.first ≤ n && n ≤ run.last && (n - run.first) % run.step = 0

/-- The character that `c` is mapped to, which is `c` itself outside the runs. -/
def map (runs : List CaseRun) (c : Char) : Char :=
  match runs.find? fun run => run.covers c.toNat with
  | some run => Char.ofNat (run.image + (c.toNat - run.first))
  | none => c

end CaseRun

end SqlLint.Text
