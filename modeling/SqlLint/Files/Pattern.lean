import SqlLint.Files.Path

/-!
# Name patterns

Patterns for file names: `?` stands for one character, `*` for any characters, `[…]` for one
character of a class and `[!…]` for one outside it. Two stars stand for any number of directories
and have to be a whole part of a path.
-/

namespace SqlLint

/-- A part of a pattern that stands for characters of one name. -/
inductive Wildcard where
  | literal (c : Char)
  | anyChar
  | anyText
  /-- One character within the ranges, or outside them if negated. -/
  | charClass (negated : Bool) (ranges : List (Char × Char))
  /-- Any number of directories. -/
  | anyDirectories
  deriving DecidableEq, Repr

/-- What is wrong with a pattern, with the number of characters before the place. -/
inductive PatternError where
  | badClass (position : Nat)
  | tooManyStars (position : Nat)
  | starsInName (position : Nat)
  deriving DecidableEq, Repr

/-- The sentence for the error. -/
def PatternError.message : PatternError → String
  | badClass position => s!"Pattern syntax error near position {position}: invalid range pattern"
  | tooManyStars position =>
    s!"Pattern syntax error near position {position}: " ++
    "wildcards are either regular `*` or recursive `**`"
  | starsInName position =>
    s!"Pattern syntax error near position {position}: " ++
    "recursive wildcards must form a single path component"

namespace Wildcard

/-- The ranges of a class; a character by itself is a range from it to itself. -/
def classRanges : List Char → List (Char × Char)
  | a :: '-' :: b :: cs => (a, b) :: classRanges cs
  | a :: cs => (a, a) :: classRanges cs
  | [] => []

/-- The inside of a class behind its bracket, and what follows the class. A closing bracket that
comes first belongs to the class. -/
def splitClass? : List Char → Option (List Char × List Char)
  | [] => none
  | first :: cs =>
    match cs.dropWhile (· != ']') with
    | [] => none
    | _ :: rest => some (first :: cs.takeWhile (· != ']'), rest)

/-- The class behind an opening bracket, and what follows it. -/
def readClass? (cs : List Char) : Option (Wildcard × List Char) :=
  match cs with
  | '!' :: rest =>
    (splitClass? rest).map fun (inside, after) => (charClass true (classRanges inside), after)
  | _ => (splitClass? cs).map fun (inside, after) => (charClass false (classRanges inside), after)

/-- Reads what is left of a pattern, `position` characters into it and behind the character
`previous`. No wildcard is longer than what it is read from, so `fuel` need not pass the number of
characters. -/
def readFrom (fuel position : Nat) (previous : Option Char) (cs : List Char) :
    Except PatternError (List Wildcard) :=
  match fuel, cs with
  | 0, _ => .ok []
  | _, [] => .ok []
  | fuel + 1, '?' :: rest => return anyChar :: (← readFrom fuel (position + 1) (some '?') rest)
  | fuel + 1, '[' :: rest =>
    match readClass? rest with
    | none => .error (.badClass position)
    | some (w, after) =>
      return w :: (← readFrom fuel (position + (cs.length - after.length)) (some ']') after)
  | fuel + 1, '*' :: rest =>
    let stars := 1 + (rest.takeWhile (· = '*')).length
    let after := rest.dropWhile (· = '*')
    if stars > 2 then .error (.tooManyStars (position + 2))
    else if stars = 1 then return anyText :: (← readFrom fuel (position + 1) (some '*') after)
    else if position = 0 ∨ previous = some '/' then
      match after with
      | [] => .ok [anyDirectories]
      | '/' :: after =>
        return anyDirectories :: (← readFrom fuel (position + 3) (some '/') after)
      | _ => .error (.starsInName (position + 2))
    else .error (.starsInName (position - 1))
  | fuel + 1, c :: rest => return literal c :: (← readFrom fuel (position + 1) (some c) rest)

/-- Reads a pattern. -/
def read (pattern : String) : Except PatternError (List Wildcard) :=
  readFrom pattern.length 0 none pattern.toList

/-- Whether the wildcard stands for a single character, and for this one. -/
def fitsChar : Wildcard → Char → Bool
  | literal a, c => a = c
  | anyChar, _ => true
  | charClass negated ranges, c => ranges.any (fun (a, b) => a ≤ c && c ≤ b) != negated
  | anyText, _ => false
  | anyDirectories, _ => false

/-- Whether the wildcard stands for texts of every length. -/
def isOpen : Wildcard → Bool
  | anyText | anyDirectories => true
  | _ => false

/-- The first answer of a list. -/
def firstAnswer (answers : List Bool) : Bool := answers.head?.getD false

/-- Each answer joined with the answers behind it. -/
def orLater : List Bool → List Bool
  | [] => []
  | answer :: answers =>
    let later := orLater answers
    (answer || firstAnswer later) :: later

/-- The answers for the rests of a text with a wildcard for one character in front, from the
answers without it: the first character has to fit, and the answer for the next rest counts. -/
def charThen (w : Wildcard) : List Char → List Bool → List Bool
  | [], _ => [false]
  | c :: cs, answers =>
    (fitsChar w c && firstAnswer answers.tail) :: charThen w cs answers.tail

/-- For each rest of a text, the whole text first and the empty one last, whether the wildcards
stand for it. All rests are answered at once, so the work is in proportion to the product of the
two lengths however many stars there are. -/
def fitsRests : List Wildcard → List Char → List Bool
  | [], cs => cs.map (fun _ => false) ++ [true]
  | w :: ws, cs =>
    if w.isOpen then orLater (fitsRests ws cs) else charThen w cs (fitsRests ws cs)

/-- Whether a list of wildcards stands for a name. -/
def fits (ws : List Wildcard) (name : List Char) : Bool := firstAnswer (fitsRests ws name)

/-- The answers for the rests of a text begin with the answer for the text itself. -/
theorem fitsRests_cons (ws : List Wildcard) (c : Char) (cs : List Char) :
    fitsRests ws (c :: cs) = fits ws (c :: cs) :: fitsRests ws cs := by
  induction ws with
  | nil => rfl
  | cons w ws ih =>
    by_cases h : w.isOpen <;> simp only [fits, fitsRests, h, if_true] <;> rw [ih] <;> rfl

/-- No wildcard stands for the empty name alone. -/
theorem fits_nil (name : List Char) : fits [] name = name.isEmpty := by
  cases name <;> rfl

/-- A star stands for no character or for one more. -/
theorem fits_open_cons {w : Wildcard} (h : w.isOpen = true) (ws : List Wildcard) (c : Char)
    (cs : List Char) : fits (w :: ws) (c :: cs) = (fits ws (c :: cs) || fits (w :: ws) cs) := by
  simp only [fits, fitsRests, h, if_true]
  rw [fitsRests_cons]
  rfl

/-- Any other wildcard stands for exactly one character. -/
theorem fits_char_cons {w : Wildcard} (h : w.isOpen = false) (ws : List Wildcard) (c : Char)
    (cs : List Char) : fits (w :: ws) (c :: cs) = (fitsChar w c && fits ws cs) := by
  simp only [fits, fitsRests, h]
  rw [fitsRests_cons]
  rfl

/-- The name that a list of wildcards stands for alone. -/
def literalName? (ws : List Wildcard) : Option String :=
  (ws.mapM fun w => match w with
    | literal c => some c
    | _ => none).map String.ofList

end Wildcard

/-- Whether a path is meant as a pattern. -/
def isPattern (path : String) : Bool :=
  path.toList.any fun c => c = '*' || c = '?' || c = '['

/-- A path pattern: the pattern of each name on the way, where it starts, and whether only
directories are meant. -/
structure PathPattern where
  scope : String
  names : List (List Wildcard)
  directoriesOnly : Bool
  deriving Repr

namespace PathPattern

/-- The list without its last item if that is empty. -/
def dropLastEmpty (parts : List String) : List String :=
  if parts.getLast? = some "" then parts.dropLast else parts

/-- Reads a path pattern. It has to be right as a whole, and so does each part of it. -/
def read (pattern : String) : Except PatternError PathPattern := do
  let _ ← Wildcard.read pattern
  let fromRoot := Path.isAbsolute pattern
  let parts := dropLastEmpty (Path.parts pattern)
  let names ← (if fromRoot then parts.drop 1 else parts).mapM Wildcard.read
  return {
    scope := if fromRoot then "/" else "."
    names
    directoriesOnly := pattern.toList.getLast? = some '/' }

end PathPattern

end SqlLint
