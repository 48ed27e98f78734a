import SqlLint.Token.Lexeme

/-!
# Batches

A script is split into batches at the lines that hold nothing but the word `GO`, or `GO` and a
repeat count. Splitting keeps the separators, so that nothing is lost.
-/

namespace SqlLint

/-- A script cut at its separators: the first batch, then each separator with the batch behind
it. -/
structure Split where
  first : List Lexeme
  rest : List (List Lexeme × List Lexeme)

namespace Split

/-- Whether no lexeme on `line` comes next. -/
def endsLine (line : Nat) : List Lexeme → Bool
  | [] => true
  | next :: _ => next.line ≠ line

/-- Whether a lexeme is the word `GO` at the start of its line. -/
def isGo (l : Lexeme) : Bool :=
  l.firstOnLine && l.isKeyword .GO

/-- The split with one more lexeme at the start of the first batch. -/
def cons (l : Lexeme) (s : Split) : Split :=
  { s with first := l :: s.first }

/-- The split with an empty batch and a separator before it. -/
def cut (separator : List Lexeme) (s : Split) : Split :=
  ⟨[], (separator, s.first) :: s.rest⟩

/-- Cuts a list of lexemes at its separators. -/
def ofLexemes : List Lexeme → Split
  | [] => ⟨[], []⟩
  | l :: ls =>
    if isGo l && endsLine l.line ls then cut [l] (ofLexemes ls)
    else match ls with
      | [] => ⟨[l], []⟩
      | n :: ns =>
        if isGo l && n.isNumber && endsLine l.line ns then cut [l, n] (ofLexemes ns)
        else cons l (ofLexemes (n :: ns))

/-- The batches in order, empty ones included. -/
def batches (s : Split) : List (List Lexeme) :=
  s.first :: s.rest.map (·.2)

/-- The separators in order. -/
def separators (s : Split) : List (List Lexeme) :=
  s.rest.map (·.1)

/-- The lexemes that were split, separators included. -/
def join (s : Split) : List Lexeme :=
  s.first ++ s.rest.flatMap fun part => part.1 ++ part.2

/-- Splitting loses nothing. -/
theorem join_ofLexemes (ls : List Lexeme) : (ofLexemes ls).join = ls := by
  fun_induction ofLexemes ls with
  | case1 => rfl
  | case2 l ls _ ih =>
    have : (cut [l] (ofLexemes ls)).join = l :: (ofLexemes ls).join := by
      simp [cut, join]
    rw [this, ih]
  | case3 => rfl
  | case4 l n ns _ _ ih =>
    have : (cut [l, n] (ofLexemes ns)).join = l :: n :: (ofLexemes ns).join := by
      simp [cut, join]
    rw [this, ih]
  | case5 l n ns _ _ ih =>
    have : (cons l (ofLexemes (n :: ns))).join = l :: (ofLexemes (n :: ns)).join := by
      simp [cons, join]
    rw [this, ih]

end Split

end SqlLint
