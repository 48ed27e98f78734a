import SqlLint.Parse.Cursor

/-!
# Reasoning about parsers

A parser started at a cursor ends in one of two ways, with a value or with an error, and in both
with a cursor. `Ends p s Q E` says what is known of that end: `Q` of a success and `E` of a
failure. A statement about a whole parser is put together from statements about its steps, one rule
for each way in which parsers are built; nothing below unfolds a run.

Failures are part of every statement on purpose. A caller may go on after one, or go back to where
it started, so what a failed parser leaves behind matters as much as what a successful one gives.

## Loops

`repeatWhile` runs on a budget of one round for each lexeme ahead. `ends_repeatWhile` asks that a
round that goes on passes at least one lexeme, and in return the budget never shows: the loop ends
because a round gives nothing, or because nothing lies ahead.

Where it matters which rounds there were, `Steps` says so: it leads from one value and cursor of the
loop to another one, round by round. A loop gives the value to which such steps lead once a round
gives nothing, whatever its budget was.

## Values only

Often it does not matter where a parser stands, only what it returns. `Returns p P` says that `P`
holds of every value that `p` returns, from any cursor; its rules need neither progress nor any
knowledge of the lexemes ahead.

## Main results

* `ends_bind`, `ends_tryCatch`: steps in a row, and going on after a failure
* `ends_repeatWhile`: loops
* `Steps.repeatWhile_eq`, `exists_steps`: loops round by round
* `ends_eatIf`, `ends_advance_one`, …: the primitive steps
* `Returns.bind`, `returns_repeatWhile`: steps in a row and loops, for values only
-/

namespace SqlLint

/-! ## Cursors -/

namespace Cursor

@[simp] theorem rest_moveTo (ls : List Lexeme) (s : Cursor) : (s.moveTo ls).rest = ls := rfl

@[simp] theorem overrun_moveTo (ls : List Lexeme) (s : Cursor) :
    (s.moveTo ls).overrun = s.overrun := rfl

@[simp] theorem moveTo_moveTo (ls ms : List Lexeme) (s : Cursor) :
    (s.moveTo ls).moveTo ms = s.moveTo ms := rfl

@[simp] theorem rest_record (e : SyntaxError) (s : Cursor) : (s.record e).rest = s.rest := rfl

@[simp] theorem overrun_record (e : SyntaxError) (s : Cursor) :
    (s.record e).overrun = s.overrun := rfl

theorem place_ext {s t : Cursor} (hrest : s.rest = t.rest) (hover : s.overrun = t.overrun) :
    s.place = t.place := by
  rw [show s.place = ⟨s.rest, s.overrun⟩ from rfl, hrest, hover]
  rfl

/-- Passing over lexemes that are there is moving to what follows them. -/
theorem advance_of_rest_eq {s : Cursor} {ls rest : List Lexeme} (h : s.rest = ls ++ rest) :
    s.advance ls.length = s.moveTo rest := by
  simp [advance, moveTo, h, overrun]

/-- A move is counted by as much as it goes past the end. -/
theorem overrun_advance (n : Nat) (s : Cursor) :
    (s.advance n).overrun = s.overrun + (n - s.rest.length) := by
  have hlen : n - (s.rest.take n).length = n - s.rest.length := by
    rw [List.length_take]
    omega
  rw [← hlen]
  rfl

/-- A move to behind a lexeme is counted if there is none. -/
theorem overrun_moveBehind (ls : List Lexeme) (s : Cursor) :
    (s.moveBehind ls).overrun = s.overrun + (1 - ls.length) :=
  overrun_advance 1 (s.moveTo ls)

end Cursor

namespace Parser

variable {α β : Type} {p : Parser α} {s : Cursor} {Q R : α → Cursor → Prop}
  {E F : SyntaxError → Cursor → Prop}

/-- How a parser ends that is started at a cursor: in a success of which `Q` holds, or in a failure
of which `E` holds. -/
def Ends (p : Parser α) (s : Cursor) (Q : α → Cursor → Prop)
    (E : SyntaxError → Cursor → Prop) : Prop :=
  match p s with
  | .ok a t => Q a t
  | .error e t => E e t

theorem Ends.mono (h : Ends p s Q E) (hQ : ∀ a t, Q a t → R a t) (hE : ∀ e t, E e t → F e t) :
    Ends p s R F := by
  rw [Ends] at h ⊢
  cases hp : p s with
  | ok a t => rw [hp] at h; exact hQ a t h
  | error e t => rw [hp] at h; exact hE e t h

theorem Ends.ok (h : Ends p s Q E) {a : α} {t : Cursor} (hp : p s = .ok a t) : Q a t := by
  rw [Ends] at h
  rwa [hp] at h

theorem Ends.error (h : Ends p s Q E) {e : SyntaxError} {t : Cursor} (hp : p s = .error e t) :
    E e t := by
  rw [Ends] at h
  rwa [hp] at h

/-- A parser that cannot fail gives a value. -/
theorem Ends.exists_ok (h : Ends p s Q fun _ _ => False) : ∃ a t, p s = .ok a t ∧ Q a t := by
  rw [Ends] at h
  cases hp : p s with
  | ok a t => rw [hp] at h; exact ⟨a, t, rfl, h⟩
  | error e t => rw [hp] at h; exact h.elim

theorem Ends.and (h : Ends p s Q E) (h' : Ends p s R F) :
    Ends p s (fun a t => Q a t ∧ R a t) (fun e t => E e t ∧ F e t) := by
  rw [Ends] at h h' ⊢
  cases hp : p s with
  | ok a t => rw [hp] at h h'; exact ⟨h, h'⟩
  | error e t => rw [hp] at h h'; exact ⟨h, h'⟩

/-! ## Building parsers -/

theorem ends_pure (a : α) : Ends (pure a) s Q E ↔ Q a s := Iff.rfl

theorem ends_bind {f : α → Parser β} {Q : β → Cursor → Prop} :
    Ends (p >>= f) s Q E ↔ Ends p s (fun a t => Ends (f a) t Q E) E := by
  change (match EStateM.bind p f s with
    | .ok a t => Q a t
    | .error e t => E e t) ↔ _
  unfold Ends EStateM.bind
  cases p s with
  | ok a t => exact Iff.rfl
  | error e t => exact Iff.rfl

/-- Recovery goes on with the cursor of the failure; nothing is rolled back. -/
theorem ends_tryCatch {handle : SyntaxError → Parser α} :
    Ends (tryCatch p handle) s Q E ↔ Ends p s Q fun e t => Ends (handle e) t Q E := by
  change (match EStateM.tryCatch p handle s with
    | .ok a t => Q a t
    | .error e t => E e t) ↔ _
  unfold Ends EStateM.tryCatch
  cases p s with
  | ok a t => exact Iff.rfl
  | error e t => exact Iff.rfl

/-! ## Primitive steps -/

/-- Behind a lexeme that is there is where what follows it begins. -/
theorem moveBehind_cons (l : Lexeme) (ls : List Lexeme) : moveBehind (l :: ls) = moveTo ls := rfl

theorem bind_ahead {f : List Lexeme → Parser α} : (ahead >>= f) s = f s.rest s := rfl

theorem ends_ahead {Q : List Lexeme → Cursor → Prop} : Ends ahead s Q E ↔ Q s.rest s := Iff.rfl

theorem ends_atNext {test : Lexeme → Bool} {Q : Bool → Cursor → Prop} :
    Ends (atNext test) s Q E ↔ Q (s.rest.head?.any test) s := Iff.rfl

theorem ends_moveTo {ls : List Lexeme} {Q : Unit → Cursor → Prop} :
    Ends (moveTo ls) s Q E ↔ Q () (s.moveTo ls) := Iff.rfl

theorem ends_record {e : SyntaxError} {Q : Unit → Cursor → Prop} :
    Ends (record e) s Q E ↔ Q () (s.record e) := Iff.rfl

theorem ends_advance {ls rest : List Lexeme} {n : Nat} {Q : Unit → Cursor → Prop}
    (h : s.rest = ls ++ rest) (hn : n = ls.length) :
    Ends (advance n) s Q E ↔ Q () (s.moveTo rest) := by
  subst hn
  rw [← Cursor.advance_of_rest_eq h]
  rfl

theorem ends_advance_one {l : Lexeme} {rest : List Lexeme} {Q : Unit → Cursor → Prop}
    (h : s.rest = l :: rest) : Ends (advance 1) s Q E ↔ Q () (s.moveTo rest) :=
  ends_advance (show s.rest = [l] ++ rest from h) rfl

theorem ends_advance_two {l k : Lexeme} {rest : List Lexeme} {Q : Unit → Cursor → Prop}
    (h : s.rest = l :: k :: rest) : Ends (advance 2) s Q E ↔ Q () (s.moveTo rest) :=
  ends_advance (show s.rest = [l, k] ++ rest from h) rfl

theorem ends_eatIf {test : Lexeme → Bool} {Q : Bool → Cursor → Prop}
    (hno : Q false s) (hyes : ∀ l rest, s.rest = l :: rest → test l → Q true (s.moveTo rest)) :
    Ends (eatIf test) s Q E := by
  rw [Ends, eatIf]
  cases hs : s.rest with
  | nil => exact hno
  | cons l rest =>
    by_cases hl : test l
    · simpa [hl] using hyes l rest hs hl
    · simpa [hl] using hno

theorem ends_eatIf_cons {test : Lexeme → Bool} {Q : Bool → Cursor → Prop} {l : Lexeme}
    {rest : List Lexeme} (hs : s.rest = l :: rest) (hl : test l) :
    Ends (eatIf test) s Q E ↔ Q true (s.moveTo rest) := by
  rw [Ends, eatIf]
  simp [hs, hl]

/-- Going on after a test for the next lexeme, or after its failure. -/
theorem ends_bind_eatIf_or {test : Lexeme → Bool} {f : Bool → Parser α}
    (hyes : ∀ l rest, s.rest = l :: rest → test l → Ends (f true) (s.moveTo rest) Q E)
    (hno : s.rest.head?.any test = false → Ends (f false) s Q E) :
    Ends (eatIf test >>= f) s Q E := by
  rw [ends_bind, Ends, eatIf]
  cases hs : s.rest with
  | nil => exact hno (by rw [hs]; rfl)
  | cons l rest =>
    by_cases hl : test l
    · simpa [hl] using hyes l rest hs hl
    · simpa [hl] using hno (by simpa [hs] using hl)

/-- Going on after a test for the next lexeme. -/
theorem ends_bind_eatIf {test : Lexeme → Bool} {f : Bool → Parser α}
    (hyes : ∀ l rest, s.rest = l :: rest → test l → Ends (f true) (s.moveTo rest) Q E)
    (hno : Ends (f false) s Q E) : Ends (eatIf test >>= f) s Q E :=
  ends_bind_eatIf_or hyes fun _ => hno

/-- Going on after a look at the next lexeme. -/
theorem ends_bind_atNext {test : Lexeme → Bool} {f : Bool → Parser α}
    (hyes : ∀ l rest, s.rest = l :: rest → test l → Ends (f true) s Q E)
    (hno : Ends (f false) s Q E) : Ends (atNext test >>= f) s Q E := by
  rw [ends_bind, ends_atNext]
  cases hs : s.rest with
  | nil => exact hno
  | cons l rest =>
    rw [List.head?_cons, Option.any_some]
    cases hl : test l with
    | false => exact hno
    | true => exact hyes l rest hs hl

/-- A parser that only ever fails, and where it stands. -/
theorem ends_expected (cx : Context) (what : Expectation) (hE : ∀ e, E e s) :
    Ends (expected cx what : Parser α) s Q E := hE _

theorem ends_unexpected (cx : Context) (hE : ∀ e, E e s) :
    Ends (unexpected cx : Parser α) s Q E := by
  rw [Ends, unexpected]
  cases s.rest with
  | nil => exact hE _
  | cons l rest => exact hE _

theorem ends_tooDeep (cx : Context) (hE : ∀ e, E e s) : Ends (tooDeep cx : Parser α) s Q E := hE _

theorem ends_require (cx : Context) (f : Feature) {Q : Unit → Cursor → Prop} (hQ : Q () s)
    (hE : ∀ e, E e s) : Ends (require cx f) s Q E := by
  rw [Ends, require]
  by_cases h : cx.version.supports f
  · simpa [h] using hQ
  · simpa [h] using hE _

/-- A lexeme that has to pass a test, in the three forms in which the grammar asks for one. -/
theorem ends_demand (cx : Context) (what : Expectation) {test : Lexeme → Bool}
    {Q : Unit → Cursor → Prop}
    (hyes : ∀ l rest, s.rest = l :: rest → test l → Q () (s.moveTo rest)) (hE : ∀ e, E e s) :
    Ends (do unless ← eatIf test do expected cx what) s Q E := by
  rw [ends_bind]
  refine ends_eatIf ?_ fun l rest hs hl => ?_
  · exact ends_expected cx what hE
  · exact hyes l rest hs hl

/-! ## Loops -/

/-- The rounds of a loop keep an invariant `I` until one of them gives nothing. With a budget of at
least one round for each lexeme ahead, a loop that runs out of it has come to the end. -/
theorem ends_rounds {step : α → Parser (Option α)} {I : α → Cursor → Prop}
    (hstep : ∀ a t, I a t → Ends (step a) t
      (fun o u => match o with
        | none => Q a u
        | some b => I b u ∧ u.rest.length < t.rest.length) E)
    (hend : ∀ a t, I a t → t.rest = [] → Q a t) :
    ∀ (budget : List Lexeme) (a : α) (s : Cursor), I a s → s.rest.length ≤ budget.length →
      Ends (rounds step budget a) s Q E
  | [], a, s, h, hlen => by
    have hrest : s.rest = [] := List.eq_nil_of_length_eq_zero (Nat.le_zero.1 hlen)
    exact hend a s h hrest
  | _ :: budget, a, s, h, hlen => by
    rw [rounds, ends_bind]
    refine (hstep a s h).mono (fun o u ho => ?_) fun e u he => he
    cases o with
    | none => exact ho
    | some b =>
      refine ends_rounds hstep hend budget b u ho.1 ?_
      have := ho.2
      rw [List.length_cons] at hlen
      omega

theorem ends_repeatWhile {step : α → Parser (Option α)} {I : α → Cursor → Prop} {a : α}
    (h : I a s)
    (hstep : ∀ a t, I a t → Ends (step a) t
      (fun o u => match o with
        | none => Q a u
        | some b => I b u ∧ u.rest.length < t.rest.length) E)
    (hend : ∀ a t, I a t → t.rest = [] → Q a t) : Ends (repeatWhile step a) s Q E :=
  ends_rounds hstep hend s.rest a s h (Nat.le_refl _)

/-! ## Loops round by round -/

/-- Rounds that go on lead from one value and cursor of a loop to another one, and each of them
passes at least one lexeme. -/
inductive Steps (step : α → Parser (Option α)) : α → Cursor → α → Cursor → Prop
  | refl (a : α) (s : Cursor) : Steps step a s a s
  | cons {a b c : α} {s t u : Cursor} : step a s = .ok (some b) t → t.rest.length < s.rest.length →
    Steps step b t c u → Steps step a s c u

section

variable {step : α → Parser (Option α)} {a b c : α} {t u : Cursor}

theorem Steps.trans (h : Steps step a s b t) (h' : Steps step b t c u) : Steps step a s c u := by
  induction h with
  | refl => exact h'
  | cons hround hlt _ ih => exact .cons hround hlt (ih h')

/-- A loop gives the value with which its last round gives nothing. -/
theorem Steps.repeatWhile_eq (h : Steps step a s b t) (hlast : step b t = .ok none t) :
    repeatWhile step a s = .ok b t := by
  have hrounds : ∀ budget : List Lexeme, s.rest.length ≤ budget.length →
      rounds step budget a s = .ok b t := by
    induction h with
    | refl b t =>
      intro budget _
      cases budget with
      | nil => rfl
      | cons l budget =>
        change EStateM.bind (step b) _ t = _
        rw [EStateM.bind, hlast]
        rfl
    | cons hround hlt _ ih =>
      intro budget hlen
      cases budget with
      | nil =>
        rw [List.length_nil] at hlen
        omega
      | cons l budget =>
        change EStateM.bind (step _) _ _ = _
        rw [EStateM.bind, hround]
        rw [List.length_cons] at hlen
        exact ih hlast budget (by omega)
  exact hrounds s.rest (Nat.le_refl _)

/-- A loop whose rounds do not fail, and pass a lexeme or leave the cursor as it was, comes to a
last round. -/
theorem exists_steps
    (hround : ∀ a s, Ends (step a) s
      (fun o t => match o with
        | none => t = s
        | some _ => t.rest.length < s.rest.length) fun _ _ => False) (a : α) (s : Cursor) :
    ∃ b t, Steps step a s b t ∧ step b t = .ok none t := by
  induction hn : s.rest.length using Nat.strongRecOn generalizing a s with
  | ind n ih =>
    cases hstep : step a s with
    | error e t => exact ((hround a s).error hstep).elim
    | ok o t =>
      have ho := (hround a s).ok hstep
      cases o with
      | none =>
        obtain rfl : t = s := ho
        exact ⟨a, t, .refl a t, hstep⟩
      | some b =>
        have hlt : t.rest.length < s.rest.length := ho
        obtain ⟨c, u, hsteps, hlast⟩ := ih _ (hn ▸ hlt) b t rfl
        exact ⟨c, u, .cons hstep hlt hsteps, hlast⟩

end

/-! ## Values -/

variable {P : α → Prop}

/-- Every value that the parser returns has a property. -/
def Returns (p : Parser α) (P : α → Prop) : Prop :=
  ∀ s, Ends p s (fun a _ => P a) fun _ _ => True

theorem Returns.mono {P' : α → Prop} (h : Returns p P) (hP : ∀ a, P a → P' a) : Returns p P' :=
  fun s => (h s).mono (fun a _ => hP a) fun _ _ _ => trivial

theorem returns_any (p : Parser α) : Returns p fun _ => True := by
  intro s
  rw [Ends]
  cases p s with
  | ok => trivial
  | error => trivial

theorem returns_pure {a : α} (h : P a) : Returns (pure a) P := fun _ => h

theorem Returns.bind {f : α → Parser β} {Q : β → Prop} (hp : Returns p P)
    (hf : ∀ a, P a → Returns (f a) Q) : Returns (p >>= f) Q :=
  fun s => ends_bind.2 ((hp s).mono (fun a t ha => hf a ha t) fun _ _ h => h)

/-- A step whose value does not matter. -/
theorem returns_bind {f : α → Parser β} {Q : β → Prop} (hf : ∀ a, Returns (f a) Q) :
    Returns (p >>= f) Q :=
  (returns_any p).bind fun a _ => hf a

theorem Returns.tryCatch {handle : SyntaxError → Parser α} (hp : Returns p P)
    (hhandle : ∀ e, Returns (handle e) P) : Returns (tryCatch p handle) P :=
  fun s => ends_tryCatch.2 ((hp s).mono (fun _ _ h => h) fun e t _ => hhandle e t)

/-- A parser that only fails returns nothing. -/
theorem returns_expected (cx : Context) (what : Expectation) :
    Returns (expected cx what : Parser α) P := fun _ => trivial

theorem returns_unexpected (cx : Context) : Returns (unexpected cx : Parser α) P :=
  fun _ => ends_unexpected cx fun _ => trivial

theorem returns_repeatWhile {step : α → Parser (Option α)} {a : α} (h : P a)
    (hstep : ∀ a, P a → Returns (step a) fun o => ∀ b ∈ o, P b) :
    Returns (repeatWhile step a) P := by
  have hrounds : ∀ (budget : List Lexeme) (a : α), P a → Returns (rounds step budget a) P := by
    intro budget
    induction budget with
    | nil => exact fun a ha => returns_pure ha
    | cons l budget ih =>
      intro a ha
      refine (hstep a ha).bind fun o ho => ?_
      cases o with
      | none => exact returns_pure ha
      | some b => exact ih b (ho b rfl)
  exact fun s => hrounds s.rest a h s

theorem returns_commaSeparated {item : Parser α} (h : Returns item P) :
    Returns (commaSeparated item) fun as => ∀ a ∈ as, P a := by
  rw [commaSeparated]
  refine h.bind fun first hfirst => ?_
  refine Returns.bind (P := fun as => ∀ a ∈ as, P a) (returns_repeatWhile ?_ fun as has => ?_)
    fun as has => returns_pure fun a ha => has a (List.mem_reverse.1 ha)
  · simpa using hfirst
  · refine returns_bind fun comma => ?_
    split
    · refine h.bind fun next hnext => returns_pure ?_
      rintro as' ⟨rfl⟩
      exact List.forall_mem_cons.2 ⟨hnext, has⟩
    · exact returns_pure (by simp)

end Parser

end SqlLint
