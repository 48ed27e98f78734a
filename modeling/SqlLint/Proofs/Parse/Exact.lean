import SqlLint.Parse.Cursor
import SqlLint.Proofs.Parse.Logic

/-!
# Exact runs

Reading what has been written gives back what was meant, and nothing else happens: no error is
recorded, nothing is passed but what was written. `Parses p ls a rest` says that `p`, started before
`ls`, gives `a` and stops before `rest`, and leaves everything else as it was. Such statements
compose: the rest of one reader is where the next one starts.

Only successes are spoken of, so each rule has to be told which way a test goes, and for this it
needs no more than the next lexeme.

A loop is exact if its rounds are. A `Chain` is a row of exact rounds that go on; it ends anywhere,
so that the rounds of an inner part can be continued by those of the whole.

## Main results

* `Parses.bind`: steps in a row
* `parses_bind_eatIf_yes`, `parses_bind_eatIf_no`, …: tests and moves
* `Chain.parses_repeatWhile`: loops
-/

namespace SqlLint

@[simp] theorem Cursor.moveTo_rest (s : Cursor) : s.moveTo s.rest = s := rfl

namespace Parser

variable {α β : Type} {p : Parser α} {ls mid rest : List Lexeme} {a : α} {b : β}

/-- Started before `ls`, the parser gives `a` and stops before `rest`; nothing else changes. -/
def Parses (p : Parser α) (ls : List Lexeme) (a : α) (rest : List Lexeme) : Prop :=
  ∀ s : Cursor, s.rest = ls → p s = .ok a (s.moveTo rest)

theorem bind_eq_ok {f : α → Parser β} {s t u : Cursor} (hp : p s = .ok a t)
    (hf : f a t = .ok b u) : (p >>= f) s = .ok b u := by
  change EStateM.bind p f s = _
  rw [EStateM.bind, hp]
  exact hf

theorem parses_pure (a : α) (ls : List Lexeme) : Parses (pure a) ls a ls := by
  rintro s rfl
  rfl

theorem Parses.bind {f : α → Parser β} (hp : Parses p ls a mid) (hf : Parses (f a) mid b rest) :
    Parses (p >>= f) ls b rest :=
  fun s hs => bind_eq_ok (hp s hs) (hf (s.moveTo mid) rfl)

/-! ## Looking and moving -/

theorem parses_bind_ahead {f : List Lexeme → Parser β} (hf : Parses (f ls) ls b rest) :
    Parses (ahead >>= f) ls b rest := by
  rintro s rfl
  exact hf s rfl

theorem parses_bind_atNext {test : Lexeme → Bool} {f : Bool → Parser β}
    (hf : Parses (f (ls.head?.any test)) ls b rest) : Parses (atNext test >>= f) ls b rest := by
  rintro s rfl
  exact hf s rfl

theorem parses_bind_moveTo {f : Unit → Parser β} (hf : Parses (f ()) mid b rest) :
    Parses (moveTo mid >>= f) ls b rest :=
  fun s _ => hf (s.moveTo mid) rfl

theorem parses_bind_advance {f : Unit → Parser β} {n : Nat} (before : List Lexeme)
    (hn : n = before.length) (hf : Parses (f ()) mid b rest) :
    Parses (advance n >>= f) (before ++ mid) b rest := by
  intro s hs
  have hadvance : advance n s = .ok () (s.moveTo mid) := by
    rw [hn]
    exact congrArg (EStateM.Result.ok ()) (Cursor.advance_of_rest_eq hs)
  exact bind_eq_ok hadvance (hf (s.moveTo mid) rfl)

theorem parses_bind_advance_one {f : Unit → Parser β} {l : Lexeme}
    (hf : Parses (f ()) mid b rest) : Parses (advance 1 >>= f) (l :: mid) b rest :=
  parses_bind_advance [l] rfl hf

theorem parses_bind_eatIf_yes {test : Lexeme → Bool} {f : Bool → Parser β} {l : Lexeme}
    (hl : test l) (hf : Parses (f true) mid b rest) :
    Parses (eatIf test >>= f) (l :: mid) b rest := by
  intro s hs
  have heat : eatIf test s = .ok true (s.moveTo mid) := by
    rw [eatIf, hs]
    exact if_pos hl
  exact bind_eq_ok heat (hf (s.moveTo mid) rfl)

theorem parses_bind_eatIf_no {test : Lexeme → Bool} {f : Bool → Parser β}
    (hls : ls.head?.any test = false) (hf : Parses (f false) ls b rest) :
    Parses (eatIf test >>= f) ls b rest := by
  rintro s rfl
  have heat : eatIf test s = .ok false s := by
    rw [eatIf]
    cases hs : s.rest with
    | nil => rfl
    | cons l ls =>
      rw [hs, List.head?_cons, Option.any_some] at hls
      simp [hls]
  exact bind_eq_ok heat (hf s rfl)

theorem parses_expect {cx : Context} {m : Mark} {l : Lexeme} (hl : l.isMark m) :
    Parses (expect cx m) (l :: rest) () rest :=
  parses_bind_eatIf_yes hl (parses_pure () rest)

theorem parses_expectKeyword {cx : Context} {k : Keyword} {l : Lexeme} (hl : l.isKeyword k) :
    Parses (expectKeyword cx k) (l :: rest) () rest :=
  parses_bind_eatIf_yes hl (parses_pure () rest)

theorem parses_require {cx : Context} {g : Feature} (hg : cx.version.supports g)
    (ls : List Lexeme) : Parses (require cx g) ls () ls := by
  rintro s rfl
  rw [require, if_pos hg]
  rfl

/-! ## Loops -/

/-- Exact rounds that go on, one behind the other, each passing at least one lexeme. -/
inductive Chain (step : α → Parser (Option α)) : α → List Lexeme → α → List Lexeme → Prop
  | refl (a : α) (ls : List Lexeme) : Chain step a ls a ls
  | cons {a b c : α} {ls mid rest : List Lexeme} : Parses (step a) ls (some b) mid →
    mid.length < ls.length → Chain step b mid c rest → Chain step a ls c rest

section

variable {step : α → Parser (Option α)} {a b c : α}

theorem Chain.trans (h : Chain step a ls b mid) (h' : Chain step b mid c rest) :
    Chain step a ls c rest := by
  induction h with
  | refl => exact h'
  | cons hround hlt _ ih => exact .cons hround hlt (ih h')

theorem Chain.single (h : Parses (step a) ls (some b) mid) (hlt : mid.length < ls.length) :
    Chain step a ls b mid :=
  .cons h hlt (.refl b mid)

theorem Chain.steps (h : Chain step a ls b rest) : ∀ s : Cursor, s.rest = ls →
    Steps step a s b (s.moveTo rest) := by
  induction h with
  | refl a ls =>
    rintro s rfl
    exact .refl a s
  | cons hround hlt _ ih =>
    rintro s rfl
    exact .cons (hround s rfl) hlt (ih (s.moveTo _) rfl)

theorem Chain.parses_repeatWhile (h : Chain step a ls b rest)
    (hlast : Parses (step b) rest none rest) : Parses (repeatWhile step a) ls b rest :=
  fun s hs => (h.steps s hs).repeatWhile_eq (hlast (s.moveTo rest) rfl)

end

end Parser

end SqlLint
