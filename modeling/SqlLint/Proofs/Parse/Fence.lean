import SqlLint.Parse.Name
import SqlLint.Proofs.Parse.Logic

/-!
# Readers that stay before a semicolon

What lies behind a semicolon should not matter for what is read before it. That is not a fact about
single lexemes: readers look ahead, a scan inside parentheses passes any lexeme, and a semicolon
stops nothing there. It holds for a stretch of lexemes in which every parenthesis is closed again
and which has none of the few key words behind which more than an expression is read.

A `Fence` is such a stretch with the semicolon behind it, and with two continuations, one for each
of two runs that are compared. The runs are at corresponding places if what lies ahead of them is
the same end piece of the stretch, then the semicolon, then their own continuation. `Runs` says that
two readers that start so end so, with the same value or the same failure. Neither of them can have
looked behind the semicolon, since all that the continuations have in common is that no number
comes first.

## Parentheses

Every end piece of the stretch has its parentheses closed, and more: those open before it are closed
in it too. `Reads n m` therefore counts. A reader that starts inside `n` open parentheses, all of
which are closed in what lies ahead, stops inside `m` of them. A scan for a closing parenthesis has
`n + 1` of them to begin with, so it ends before the semicolon.

## Main definitions

* `Fence`: a stretch of lexemes, a semicolon and two continuations
* `Fence.Runs`: two readers that agree and stay before the semicolon
* `Fence.Reads`: the same for every place inside a number of parentheses

## Main results

* `Runs.bind`, `runs_repeatWhile`: steps in a row, and loops
* `Fence.reads_takeName`, `Fence.reads_takeTypeRef`: the small parts of statements and expressions
-/

namespace SqlLint

/-! ## Counting parentheses -/

namespace Lexeme

/-- The lexeme neither opens nor closes a parenthesis. -/
def NoParen (l : Lexeme) : Prop := l.isMark .leftParen = false ∧ l.isMark .rightParen = false

instance : DecidablePred NoParen := fun _ => inferInstanceAs (Decidable (_ ∧ _))

variable {l : Lexeme}

theorem noParen_of_token (hleft : l.token ≠ .mark .leftParen)
    (hright : l.token ≠ .mark .rightParen) : l.NoParen := by
  simp [NoParen, isMark, hleft, hright]

theorem noParen_of_isMark {m : Mark} (h : l.isMark m) (hleft : m ≠ .leftParen)
    (hright : m ≠ .rightParen) : l.NoParen := by
  rw [isMark, decide_eq_true_eq] at h
  exact noParen_of_token (by simp [h, hleft]) (by simp [h, hright])

theorem noParen_of_word {text : String} {quote : Option Quote}
    (h : l.token = .word text quote) : l.NoParen :=
  noParen_of_token (by simp [h]) (by simp [h])

/-- A plain word is no mark. -/
theorem isMark_of_plainWord? {text : String} (h : l.token.plainWord? = some text) (m : Mark) :
    l.isMark m = false := by
  cases htoken : l.token with
  | word text quote => simp [isMark, htoken]
  | _ => simp [htoken, Token.plainWord?] at h

theorem isMark_of_isKeyword {k : Keyword} (h : l.isKeyword k) (m : Mark) : l.isMark m = false := by
  obtain ⟨text, htext, -⟩ := Option.bind_eq_some_iff.1 (of_decide_eq_true h)
  exact isMark_of_plainWord? htext m

theorem noParen_of_plainWord? {text : String} (h : l.token.plainWord? = some text) : l.NoParen :=
  ⟨isMark_of_plainWord? h _, isMark_of_plainWord? h _⟩

theorem noParen_of_keyword? {k : Keyword} (h : l.keyword? = some k) : l.NoParen := by
  obtain ⟨text, htext, -⟩ := Option.bind_eq_some_iff.1 h
  exact noParen_of_plainWord? htext

theorem noParen_of_dispatch? {k : Keyword} (h : l.dispatch? = some k) : l.NoParen := by
  obtain ⟨text, htext, -⟩ := Option.bind_eq_some_iff.1 h
  exact noParen_of_plainWord? htext

theorem noParen_of_isKeyword {k : Keyword} (h : l.isKeyword k) : l.NoParen :=
  noParen_of_keyword? (of_decide_eq_true h)

theorem noParen_of_variableHere? {v : Variable} (h : l.variableHere? = some v) : l.NoParen := by
  obtain ⟨name, hname, -⟩ := Option.map_eq_some_iff.1 h
  exact noParen_of_plainWord? (Option.filter_eq_some_iff.1 hname).1

theorem noParen_of_namePart? {text : String} (h : l.namePart? = some text) : l.NoParen := by
  cases htoken : l.token with
  | word text quote => exact noParen_of_word htoken
  | _ => simp [namePart?, htoken, Token.word?] at h

end Lexeme

namespace Parser

/-- The parentheses open behind `ls`, `d` being open before it. Closing one where none is open
changes nothing. -/
def openAfter : Nat → List Lexeme → Nat
  | d, [] => d
  | d, l :: ls =>
    if l.isMark .leftParen then openAfter (d + 1) ls
    else if l.isMark .rightParen then openAfter (d - 1) ls
    else openAfter d ls

variable {l : Lexeme} {ls : List Lexeme} {d : Nat}

theorem openAfter_left (h : l.isMark .leftParen) :
    openAfter d (l :: ls) = openAfter (d + 1) ls := by
  rw [openAfter, if_pos h]

theorem openAfter_right (h : l.isMark .rightParen) :
    openAfter d (l :: ls) = openAfter (d - 1) ls := by
  have hleft : l.isMark .leftParen = false := by simp_all [Lexeme.isMark]
  simp [openAfter, hleft, h]

theorem openAfter_other (h : l.NoParen) : openAfter d (l :: ls) = openAfter d ls := by
  simp [openAfter, h.1, h.2]

theorem openAfter_append : ∀ (d : Nat) (ls ms : List Lexeme),
    openAfter d (ls ++ ms) = openAfter (openAfter d ls) ms
  | _, [], _ => rfl
  | d, l :: ls, ms => by
    simp only [List.cons_append, openAfter]
    split
    · exact openAfter_append (d + 1) ls ms
    · split
      · exact openAfter_append (d - 1) ls ms
      · exact openAfter_append d ls ms

/-- The fewer are open before, the fewer are open behind. -/
theorem openAfter_mono : ∀ (ls : List Lexeme) {d e : Nat}, d ≤ e →
    openAfter d ls ≤ openAfter e ls
  | [], _, _, h => h
  | l :: ls, d, e, h => by
    simp only [openAfter]
    split
    · exact openAfter_mono ls (Nat.succ_le_succ h)
    · split
      · exact openAfter_mono ls (Nat.sub_le_sub_right h 1)
      · exact openAfter_mono ls h

theorem openAfter_zero (h : openAfter d ls = 0) : openAfter 0 ls = 0 := by
  have hle := openAfter_mono ls (Nat.zero_le d)
  omega

end Parser

/-- The key words behind which something else than an expression or a fragment can follow, and the
one that any lexeme can follow. -/
def Keyword.reachesOut : Keyword → Bool
  | .BEGIN | .IF | .WHILE | .CREATE | .ALTER | .COLLATE => true
  | _ => false

/-- The lexemes before a semicolon, and how two runs over them go on behind it. -/
structure Fence where
  /-- The context of the first run. -/
  first : Context
  /-- The context of the second run. -/
  second : Context
  /-- What stands before the semicolon. -/
  inside : List Lexeme
  /-- The semicolon. -/
  semicolon : Lexeme
  /-- What lies behind the semicolon in the first run. -/
  behind : List Lexeme
  /-- What lies behind the semicolon in the second run. -/
  behind' : List Lexeme
  version : second.version = first.version
  closed : Parser.openAfter 0 inside = 0
  plain : ∀ l ∈ inside, ¬l.keyword?.any Keyword.reachesOut
  isSemicolon : semicolon.isMark .semicolon
  noNumber : behind.head?.any Lexeme.isNumber = false
  noNumber' : behind'.head?.any Lexeme.isNumber = false

namespace Fence

open SqlLint.Parser

variable {α β : Type} (f : Fence)

/-! ## The semicolon -/

@[simp] theorem token_semicolon : f.semicolon.token = .mark .semicolon :=
  of_decide_eq_true f.isSemicolon

@[simp] theorem isMark_semicolon (m : Mark) :
    f.semicolon.isMark m = decide (Mark.semicolon = m) := by
  simp [Lexeme.isMark]

@[simp] theorem keyword?_semicolon : f.semicolon.keyword? = none := by
  simp [Lexeme.keyword?, Token.plainWord?]

@[simp] theorem dispatch?_semicolon : f.semicolon.dispatch? = none := by
  simp [Lexeme.dispatch?, Token.plainWord?]

@[simp] theorem isKeyword_semicolon (k : Keyword) : f.semicolon.isKeyword k = false := by
  simp [Lexeme.isKeyword]

@[simp] theorem variableHere?_semicolon : f.semicolon.variableHere? = none := by
  simp [Lexeme.variableHere?, Lexeme.variableName?, Token.variableName?, Token.plainWord?]

@[simp] theorem namePart?_semicolon : f.semicolon.namePart? = none := by
  simp [Lexeme.namePart?, Token.word?]

/-! ## Places -/

/-- What lies ahead of the first run at an end piece of the stretch. -/
def ahead (X : List Lexeme) : List Lexeme := X ++ f.semicolon :: f.behind

/-- What lies ahead of the second run at an end piece of the stretch. -/
def ahead' (X : List Lexeme) : List Lexeme := X ++ f.semicolon :: f.behind'

@[simp] theorem ahead_nil : f.ahead [] = f.semicolon :: f.behind := rfl

@[simp] theorem ahead'_nil : f.ahead' [] = f.semicolon :: f.behind' := rfl

@[simp] theorem ahead_cons (l : Lexeme) (X : List Lexeme) : f.ahead (l :: X) = l :: f.ahead X := rfl

@[simp] theorem ahead'_cons (l : Lexeme) (X : List Lexeme) :
    f.ahead' (l :: X) = l :: f.ahead' X := rfl

/-- The lexeme that comes next in both runs. -/
def next : List Lexeme → Lexeme
  | [] => f.semicolon
  | l :: _ => l

@[simp] theorem head?_ahead (X : List Lexeme) : (f.ahead X).head? = some (f.next X) := by
  cases X <;> rfl

@[simp] theorem head?_ahead' (X : List Lexeme) : (f.ahead' X).head? = some (f.next X) := by
  cases X <;> rfl

@[simp] theorem next_nil : f.next [] = f.semicolon := rfl

@[simp] theorem next_cons (l : Lexeme) (X : List Lexeme) : f.next (l :: X) = l := rfl

theorem lineAt_ahead (cx : Context) (X : List Lexeme) :
    cx.lineAt (f.ahead X) = (f.next X).line := by
  cases X <;> rfl

theorem lineAt_ahead' (cx : Context) (X : List Lexeme) :
    cx.lineAt (f.ahead' X) = (f.next X).line := by
  cases X <;> rfl

theorem length_ahead (X : List Lexeme) : (f.ahead X).length = X.length + (f.behind.length + 1) :=
  List.length_append

theorem length_ahead' (X : List Lexeme) :
    (f.ahead' X).length = X.length + (f.behind'.length + 1) :=
  List.length_append

/-- The two runs are at the same end piece of the stretch and have recorded the same errors. -/
structure At (X : List Lexeme) (s t : Cursor) : Prop where
  rest : s.rest = f.ahead X
  rest' : t.rest = f.ahead' X
  errors : t.errors = s.errors

variable {f} {X Y : List Lexeme} {s t : Cursor}

theorem At.moveTo (h : f.At X s t) (Y : List Lexeme) :
    f.At Y (s.moveTo (f.ahead Y)) (t.moveTo (f.ahead' Y)) :=
  ⟨rfl, rfl, h.errors⟩

theorem At.record (h : f.At X s t) (e : SyntaxError) : f.At X (s.record e) (t.record e) :=
  ⟨h.rest, h.rest', congrArg (· ++ [e]) h.errors⟩

variable (f)

/-- Two runs from the end piece `X` have come to the same end, inside `X`. -/
inductive Meets (X : List Lexeme) (Q : α → List Lexeme → Prop) :
    EStateM.Result SyntaxError Cursor α → EStateM.Result SyntaxError Cursor α → Prop
  | ok {a : α} {s t : Cursor} {Y : List Lexeme} : Y <:+ X → Q a Y → f.At Y s t →
    Meets X Q (.ok a s) (.ok a t)
  | error {e : SyntaxError} {s t : Cursor} {Y : List Lexeme} : Y <:+ X → f.At Y s t →
    Meets X Q (.error e s) (.error e t)

/-- From the end piece `X`, two readers come to the same end. -/
def Runs (X : List Lexeme) (p q : Parser α) (Q : α → List Lexeme → Prop) : Prop :=
  X <:+ f.inside → ∀ s t, f.At X s t → f.Meets X Q (p s) (q t)

variable {f} {p q : Parser α} {Q : α → List Lexeme → Prop} {R : β → List Lexeme → Prop}

/-- The two ways in which two runs can come to the same end. -/
theorem Meets.both {r r'} (h : f.Meets X Q r r') :
    (∃ a s t Y, r = .ok a s ∧ r' = .ok a t ∧ Y <:+ X ∧ Q a Y ∧ f.At Y s t) ∨
      ∃ e s t Y, r = .error e s ∧ r' = .error e t ∧ Y <:+ X ∧ f.At Y s t := by
  cases h with
  | ok hY hQ hst => exact .inl ⟨_, _, _, _, rfl, rfl, hY, hQ, hst⟩
  | error hY hst => exact .inr ⟨_, _, _, _, rfl, rfl, hY, hst⟩

theorem Meets.of_suffix {r r'} (h : f.Meets Y Q r r') (hY : Y <:+ X) : f.Meets X Q r r' := by
  cases h with
  | ok hZ hQ hst => exact .ok (hZ.trans hY) hQ hst
  | error hZ hst => exact .error (hZ.trans hY) hst

theorem Meets.mono {Q' : α → List Lexeme → Prop} {r r'} (h : f.Meets X Q r r')
    (hQ : ∀ a Y, Y <:+ X → Q a Y → Q' a Y) : f.Meets X Q' r r' := by
  cases h with
  | ok hY hQY hst => exact .ok hY (hQ _ _ hY hQY) hst
  | error hY hst => exact .error hY hst

theorem Runs.mono {Q' : α → List Lexeme → Prop} (h : f.Runs X p q Q)
    (hQ : ∀ a Y, Y <:+ X → Q a Y → Q' a Y) : f.Runs X p q Q' :=
  fun hX s t hst => (h hX s t hst).mono hQ

/-! ## Building readers -/

theorem runs_pure {a : α} (h : Q a X) : f.Runs X (pure a) (pure a) Q :=
  fun _ _ _ hst => .ok (List.suffix_refl X) h hst

theorem Runs.bind {g g' : α → Parser β} (hp : f.Runs X p q Q)
    (hg : ∀ a Y, Y <:+ X → Q a Y → f.Runs Y (g a) (g' a) R) : f.Runs X (p >>= g) (q >>= g') R := by
  intro hX s t hst
  have hmeets := hp hX s t hst
  change f.Meets X R (EStateM.bind p g s) (EStateM.bind q g' t)
  rw [EStateM.bind, EStateM.bind]
  revert hmeets
  generalize p s = r, q t = r'
  rintro (⟨hY, hQ, hst⟩ | ⟨hY, hst⟩)
  · exact (hg _ _ hY hQ (hY.trans hX) _ _ hst).of_suffix hY
  · exact .error hY hst

theorem runs_bind_ahead {g g' : List Lexeme → Parser β}
    (h : f.Runs X (g (f.ahead X)) (g' (f.ahead' X)) R) :
    f.Runs X (Parser.ahead >>= g) (Parser.ahead >>= g') R := by
  intro hX s t hst
  change f.Meets X R (g s.rest s) (g' t.rest t)
  rw [hst.rest, hst.rest']
  exact h hX s t hst

theorem runs_bind_atNext {test : Lexeme → Bool} {g g' : Bool → Parser β}
    (h : f.Runs X (g (test (f.next X))) (g' (test (f.next X))) R) :
    f.Runs X (atNext test >>= g) (atNext test >>= g') R := by
  intro hX s t hst
  change f.Meets X R (g (s.rest.head?.any test) s) (g' (t.rest.head?.any test) t)
  rw [hst.rest, hst.rest', head?_ahead, head?_ahead']
  exact h hX s t hst

/-- Moving on to an end piece of what lies ahead. -/
theorem runs_moveTo {Q : Unit → List Lexeme → Prop} (hY : Y <:+ X) (h : Q () Y) :
    f.Runs X (Parser.moveTo (f.ahead Y)) (Parser.moveTo (f.ahead' Y)) Q :=
  fun _ _ _ hst => .ok hY h (hst.moveTo Y)

/-- Passing some lexemes of the stretch. -/
theorem runs_advance {Q : Unit → List Lexeme → Prop} (ls : List Lexeme) {n : Nat}
    (hn : n = ls.length) (h : Q () X) :
    f.Runs (ls ++ X) (Parser.advance n) (Parser.advance n) Q := by
  intro _ s t hst
  subst hn
  have hrest : s.rest = ls ++ f.ahead X := hst.rest.trans (List.append_assoc _ _ _)
  have hrest' : t.rest = ls ++ f.ahead' X := hst.rest'.trans (List.append_assoc _ _ _)
  change f.Meets _ Q (.ok () (s.advance ls.length)) (.ok () (t.advance ls.length))
  rw [Cursor.advance_of_rest_eq hrest, Cursor.advance_of_rest_eq hrest']
  exact .ok (List.suffix_append ls X) h (hst.moveTo X)

/-- Going on behind some lexemes of the stretch. -/
theorem runs_bind_advance {g g' : Unit → Parser β} (ls : List Lexeme) {n : Nat}
    (hn : n = ls.length) (h : f.Runs X (g ()) (g' ()) R) :
    f.Runs (ls ++ X) (Parser.advance n >>= g) (Parser.advance n >>= g') R := by
  refine (runs_advance (Q := fun _ Y => Y = X) ls hn rfl).bind ?_
  rintro - Y - rfl
  exact h

theorem runs_bind_advance_one {g g' : Unit → Parser β} {l : Lexeme}
    (h : f.Runs X (g ()) (g' ()) R) :
    f.Runs (l :: X) (Parser.advance 1 >>= g) (Parser.advance 1 >>= g') R :=
  runs_bind_advance [l] rfl h

/-- A test that the semicolon does not pass. -/
theorem runs_eatIf {test : Lexeme → Bool} {Q : Bool → List Lexeme → Prop}
    (hsemicolon : test f.semicolon = false) (hno : Q false X)
    (hyes : ∀ l Y, X = l :: Y → test l → Q true Y) :
    f.Runs X (eatIf test) (eatIf test) Q := by
  intro _ s t hst
  have hstay : f.Meets X Q (.ok false s) (.ok false t) := .ok (List.suffix_refl X) hno hst
  rw [eatIf, eatIf, hst.rest, hst.rest']
  cases X with
  | nil => simpa [hsemicolon] using hstay
  | cons l Y =>
    by_cases hl : test l
    · simpa [hl] using Meets.ok (List.suffix_cons l Y) (hyes l Y rfl hl) (hst.moveTo Y)
    · simpa [hl] using hstay

variable (f)

theorem runs_expected (what : Expectation) :
    f.Runs X (expected f.first what : Parser α) (expected f.second what) Q := by
  intro _ s t hst
  have herror : ∀ cx (u : Cursor), u.rest.head? = some (f.next X) →
      cx.lineAt u.rest = (f.next X).line → (expected cx what u : EStateM.Result _ _ α) =
        .error (.expected (f.next X).line what (some (f.next X).token)) u := by
    intro cx u hhead hline
    rw [expected, hhead, hline, Option.map_some]
  rw [herror f.first s (by rw [hst.rest, head?_ahead]) (by rw [hst.rest, lineAt_ahead]),
    herror f.second t (by rw [hst.rest', head?_ahead']) (by rw [hst.rest', lineAt_ahead'])]
  exact .error (List.suffix_refl X) hst

theorem runs_unexpected :
    f.Runs X (unexpected f.first : Parser α) (unexpected f.second) Q := by
  intro _ s t hst
  have herror : ∀ cx (u : Cursor), u.rest.head? = some (f.next X) →
      (unexpected cx u : EStateM.Result _ _ α) =
        .error (.unexpected (f.next X).line (f.next X).token) u := by
    intro cx u hhead
    obtain ⟨rest, hrest⟩ := List.head?_eq_some_iff.1 hhead
    rw [unexpected, hrest]
  rw [herror f.first s (by rw [hst.rest, head?_ahead]),
    herror f.second t (by rw [hst.rest', head?_ahead'])]
  exact .error (List.suffix_refl X) hst

theorem runs_tooDeep : f.Runs X (tooDeep f.first : Parser α) (tooDeep f.second) Q := by
  intro _ s t hst
  rw [tooDeep, tooDeep, hst.rest, hst.rest', lineAt_ahead, lineAt_ahead']
  exact .error (List.suffix_refl X) hst

theorem runs_require {Q : Unit → List Lexeme → Prop} (g : Feature) (h : Q () X) :
    f.Runs X (require f.first g) (require f.second g) Q := by
  intro _ s t hst
  rw [require, require, f.version, hst.rest, hst.rest', lineAt_ahead, lineAt_ahead']
  split
  · exact .ok (List.suffix_refl X) h hst
  · exact .error (List.suffix_refl X) hst

variable {f}

/-! ## Loops -/

/-- The budgets are of different lengths, but each has a round for every lexeme of the stretch
and one for the semicolon. -/
theorem runs_rounds {step step' : α → Parser (Option α)} {I : α → List Lexeme → Prop}
    (hstep : ∀ a X, I a X → f.Runs X (step a) (step' a)
      (fun o Y => match o with
        | none => Q a Y
        | some b => I b Y ∧ Y.length < X.length)) :
    ∀ (budget budget' : List Lexeme) (a : α) (X : List Lexeme), I a X →
      X.length < budget.length → X.length < budget'.length →
      f.Runs X (rounds step budget a) (rounds step' budget' a) Q
  | _ :: budget, _ :: budget', a, X, h, hlen, hlen' => by
    rw [rounds, rounds]
    refine (hstep a X h).bind fun o Y _ ho => ?_
    cases o with
    | none => exact runs_pure ho
    | some b =>
      have hshort : Y.length < X.length := ho.2
      rw [List.length_cons] at hlen hlen'
      exact runs_rounds hstep budget budget' b Y ho.1 (by omega) (by omega)

theorem runs_repeatWhile {step step' : α → Parser (Option α)} {I : α → List Lexeme → Prop} {a : α}
    (h : I a X)
    (hstep : ∀ a X, I a X → f.Runs X (step a) (step' a)
      (fun o Y => match o with
        | none => Q a Y
        | some b => I b Y ∧ Y.length < X.length)) :
    f.Runs X (repeatWhile step a) (repeatWhile step' a) Q := by
  intro hX s t hst
  refine runs_rounds hstep s.rest t.rest a X h ?_ ?_ hX s t hst
  · rw [hst.rest, length_ahead]
    omega
  · rw [hst.rest', length_ahead']
    omega

/-! ## Inside parentheses -/

variable (f)

/-- From any place inside `n` open parentheses that are closed in what lies ahead, two readers come
to the same end; if they succeed, at a place inside `m` such parentheses. -/
def Reads (n m : Nat) (p q : Parser α) : Prop :=
  ∀ X, openAfter n X = 0 → f.Runs X p q fun _ Y => openAfter m Y = 0

variable {f} {n m k : Nat}

theorem reads_pure (a : α) : f.Reads n n (pure a) (pure a) := fun _ hX => runs_pure hX

theorem Reads.bind {g g' : α → Parser β} (hp : f.Reads n k p q)
    (hg : ∀ a, f.Reads k m (g a) (g' a)) : f.Reads n m (p >>= g) (q >>= g') :=
  fun X hX => (hp X hX).bind fun a Y _ hY => hg a Y hY

theorem reads_ite {c : Prop} [Decidable c] {p' q' : Parser α} (h : c → f.Reads n m p q)
    (h' : ¬c → f.Reads n m p' q') :
    f.Reads n m (if c then p else p') (if c then q else q') := by
  split
  · next hc => exact h hc
  · next hc => exact h' hc

theorem reads_bind_ahead {g g' : List Lexeme → Parser β}
    (h : ∀ X, openAfter n X = 0 → f.Runs X (g (f.ahead X)) (g' (f.ahead' X))
      fun _ Y => openAfter m Y = 0) :
    f.Reads n m (Parser.ahead >>= g) (Parser.ahead >>= g') :=
  fun X hX => runs_bind_ahead (h X hX)

theorem reads_bind_atNext {test : Lexeme → Bool} {g g' : Bool → Parser β}
    (h : ∀ b, f.Reads n m (g b) (g' b)) :
    f.Reads n m (atNext test >>= g) (atNext test >>= g') :=
  fun X hX => runs_bind_atNext (h _ X hX)

/-- Going on behind a lexeme that is no parenthesis. -/
theorem runs_skip {l : Lexeme} {g g' : Unit → Parser β} (hl : l.NoParen)
    (hX : openAfter n (l :: X) = 0) (hg : f.Reads n m (g ()) (g' ())) :
    f.Runs (l :: X) (Parser.advance 1 >>= g) (Parser.advance 1 >>= g')
      fun _ Y => openAfter m Y = 0 :=
  runs_bind_advance_one (hg X (by rwa [openAfter_other hl] at hX))

/-- Going on after a test for a lexeme that is no parenthesis. -/
theorem reads_bind_eatIf {test : Lexeme → Bool} {g g' : Bool → Parser β}
    (hsemicolon : test f.semicolon = false) (htest : ∀ l, test l → l.NoParen)
    (hg : ∀ b, f.Reads n m (g b) (g' b)) :
    f.Reads n m (eatIf test >>= g) (eatIf test >>= g') := by
  intro X hX
  refine (runs_eatIf (Q := fun _ Y => openAfter n Y = 0) hsemicolon hX fun l Y hXY hl => ?_).bind
    fun b Y _ hY => hg b Y hY
  rwa [hXY, openAfter_other (htest l hl)] at hX

theorem reads_bind_eatKeyword (w : Keyword) {g g' : Bool → Parser β}
    (hg : ∀ b, f.Reads n m (g b) (g' b)) :
    f.Reads n m (eatKeyword w >>= g) (eatKeyword w >>= g') :=
  reads_bind_eatIf (f.isKeyword_semicolon w) (fun _ => Lexeme.noParen_of_isKeyword) hg

theorem reads_bind_eat {w : Mark} (hw : Mark.semicolon ≠ w ∧ w ≠ .leftParen ∧ w ≠ .rightParen)
    {g g' : Bool → Parser β} (hg : ∀ b, f.Reads n m (g b) (g' b)) :
    f.Reads n m (eat w >>= g) (eat w >>= g') :=
  reads_bind_eatIf (by simp [hw.1]) (fun _ hl => Lexeme.noParen_of_isMark hl hw.2.1 hw.2.2) hg

/-- Going on after a test for an opening parenthesis. -/
theorem reads_bind_eat_left {g g' : Bool → Parser β}
    (hyes : f.Reads (n + 1) m (g true) (g' true)) (hno : f.Reads n m (g false) (g' false)) :
    f.Reads n m (eat .leftParen >>= g) (eat .leftParen >>= g') := by
  intro X hX
  refine (runs_eatIf (Q := fun b Y => openAfter (if b then n + 1 else n) Y = 0) (by simp) hX
    fun l Y hXY hl => ?_).bind fun b Y _ hY => ?_
  · rwa [hXY, openAfter_left hl] at hX
  · cases b with
    | true => exact hyes Y hY
    | false => exact hno Y hY

/-- Going on after a test for a closing parenthesis. -/
theorem reads_bind_eat_right {g g' : Bool → Parser β}
    (hyes : f.Reads n m (g true) (g' true)) (hno : f.Reads (n + 1) m (g false) (g' false)) :
    f.Reads (n + 1) m (eat .rightParen >>= g) (eat .rightParen >>= g') := by
  intro X hX
  refine (runs_eatIf (Q := fun b Y => openAfter (if b then n else n + 1) Y = 0) (by simp) hX
    fun l Y hXY hl => ?_).bind fun b Y _ hY => ?_
  · rwa [hXY, openAfter_right hl] at hX
  · cases b with
    | true => exact hyes Y hY
    | false => exact hno Y hY

variable (f)

theorem reads_expected (what : Expectation) :
    f.Reads n m (expected f.first what : Parser α) (expected f.second what) :=
  fun _ _ => f.runs_expected what

theorem reads_unexpected : f.Reads n m (unexpected f.first : Parser α) (unexpected f.second) :=
  fun _ _ => f.runs_unexpected

theorem reads_require (g : Feature) : f.Reads n n (require f.first g) (require f.second g) :=
  fun _ hX => f.runs_require g hX

theorem reads_expectKeyword (w : Keyword) :
    f.Reads n n (expectKeyword f.first w) (expectKeyword f.second w) :=
  reads_bind_eatKeyword w fun b => by
    cases b with
    | true => exact reads_pure ()
    | false => exact f.reads_expected (.keyword w)

theorem reads_expect {w : Mark} (hw : Mark.semicolon ≠ w ∧ w ≠ .leftParen ∧ w ≠ .rightParen) :
    f.Reads n n (expect f.first w) (expect f.second w) :=
  reads_bind_eat hw fun b => by
    cases b with
    | true => exact reads_pure ()
    | false => exact f.reads_expected (.mark w)

theorem reads_expect_left :
    f.Reads n (n + 1) (expect f.first .leftParen) (expect f.second .leftParen) :=
  reads_bind_eat_left (reads_pure ()) (f.reads_expected _)

theorem reads_expect_right :
    f.Reads (n + 1) n (expect f.first .rightParen) (expect f.second .rightParen) :=
  reads_bind_eat_right (reads_pure ()) (f.reads_expected _)

/-! ## Items between commas -/

theorem reads_commaSeparated {item item' : Parser α} (hitem : f.Reads n n item item') :
    f.Reads n n (commaSeparated item) (commaSeparated item') := by
  intro X hX
  rw [commaSeparated, commaSeparated]
  refine (hitem X hX).bind fun head Y _ hY => ?_
  refine Runs.bind (Q := fun _ Z => openAfter n Z = 0)
    (runs_repeatWhile (I := fun _ Z => openAfter n Z = 0) hY fun items Z hZ => ?_)
    fun items Z _ hZ => runs_pure hZ
  -- A round that goes on has passed the comma.
  refine (runs_eatIf (Q := fun b W => openAfter n W = 0 ∧ (b → W.length < Z.length)) (by simp)
    ⟨hZ, by simp⟩ fun l W hZW hl => ?_).bind fun b W hWZ hW => ?_
  · rw [hZW, openAfter_other (Lexeme.noParen_of_isMark hl (by decide) (by decide))] at hZ
    exact ⟨hZ, fun _ => by simp [hZW]⟩
  · cases b with
    | false => exact runs_pure hW.1
    | true =>
      refine (hitem W hW.1).bind fun a V hVW hV => runs_pure ⟨hV, ?_⟩
      have hlength := hVW.length_le
      have hshort := hW.2 rfl
      omega

/-! ## Variables, names and types -/

theorem reads_takeVariable : f.Reads n n (takeVariable f.first) (takeVariable f.second) := by
  intro X hX
  rw [takeVariable, takeVariable]
  refine Runs.bind (Q := fun v Y => Y = X ∧ v = (f.next X).variableHere?)
    (runs_bind_ahead (by rw [head?_ahead, head?_ahead']; exact runs_pure ⟨rfl, rfl⟩)) ?_
  rintro o Y - ⟨rfl, rfl⟩
  cases hv : (f.next Y).variableHere? with
  | none => exact f.runs_expected .variableName
  | some v =>
    cases Y with
    | nil => simp at hv
    | cons l Y =>
      exact runs_skip (Lexeme.noParen_of_variableHere? hv) hX (reads_pure v)

/-- The further parts of a name stand before the semicolon. -/
theorem nameTail_ahead : ∀ X : List Lexeme, ∃ texts Y, Y <:+ X ∧
    nameTail (f.ahead X) = (texts, f.ahead Y) ∧ nameTail (f.ahead' X) = (texts, f.ahead' Y) ∧
    ∀ n, openAfter n X = 0 → openAfter n Y = 0
  | [] => by
    have hstop : ∀ ls, nameTail (f.semicolon :: ls) = ([], f.semicolon :: ls) := by
      intro ls
      cases ls with
      | nil => rfl
      | cons l ls =>
        rw [nameTail]
        split <;> simp
    exact ⟨[], [], List.suffix_refl _, hstop _, hstop _, fun _ h => h⟩
  | [l] => by
    have hstop : ∀ ls, nameTail (l :: f.semicolon :: ls) = ([], l :: f.semicolon :: ls) := by
      intro ls
      simp [nameTail]
    exact ⟨[], [l], List.suffix_refl _, hstop _, hstop _, fun _ h => h⟩
  | dot :: part :: X => by
    simp only [ahead_cons, ahead'_cons, nameTail]
    cases hpart : part.namePart? with
    | none => exact ⟨[], dot :: part :: X, List.suffix_refl _, rfl, rfl, fun _ h => h⟩
    | some text =>
      by_cases hdot : dot.isMark .period
      · obtain ⟨texts, Y, hY, hfirst, hsecond, hopen⟩ := nameTail_ahead X
        refine ⟨text :: texts, Y, hY.trans ⟨[dot, part], rfl⟩, by simp [hdot, hfirst],
          by simp [hdot, hsecond], fun n hn => hopen n ?_⟩
        rwa [openAfter_other (Lexeme.noParen_of_isMark hdot (by decide) (by decide)),
          openAfter_other (Lexeme.noParen_of_namePart? hpart)] at hn
      · exact ⟨[], dot :: part :: X, List.suffix_refl _, by simp [hdot], by simp [hdot],
          fun _ h => h⟩

theorem reads_takeName (what : Expectation) :
    f.Reads n n (takeName f.first what) (takeName f.second what) := by
  intro X hX hinside s t hst
  have hfail := f.runs_expected what (α := List String) (Q := fun _ Y => openAfter n Y = 0)
    hinside s t hst
  rw [takeName, takeName, hst.rest, hst.rest']
  cases X with
  | nil => simpa using hfail
  | cons l X =>
    simp only [ahead_cons, ahead'_cons]
    cases hl : l.namePart? with
    | none => exact hfail
    | some text =>
      obtain ⟨texts, Y, hY, hfirst, hsecond, hopen⟩ := f.nameTail_ahead X
      rw [openAfter_other (Lexeme.noParen_of_namePart? hl)] at hX
      simp only [hfirst, hsecond]
      exact .ok (hY.trans (List.suffix_cons l X)) (hopen n hX) (hst.moveTo Y)

theorem reads_takeTypeParam : f.Reads n n (takeTypeParam f.first) (takeTypeParam f.second) := by
  refine reads_bind_ahead fun X hX => ?_
  rw [head?_ahead, head?_ahead', Option.map_some]
  cases X with
  | nil => simpa using f.runs_expected .length
  | cons l X =>
    have hskip : l.NoParen → ∀ a : TypeParam,
        f.Runs (l :: X) (do Parser.advance 1; return a) (do Parser.advance 1; return a)
          fun _ Y => openAfter n Y = 0 :=
      fun hl a => runs_skip hl hX (reads_pure a)
    simp only [next_cons]
    split
    · next digits long htoken =>
      simp only [Option.some.injEq] at htoken
      split
      · exact hskip (Lexeme.noParen_of_token (by simp [htoken]) (by simp [htoken])) _
      · exact f.runs_expected .length
    · next text quote htoken =>
      simp only [Option.some.injEq] at htoken
      split
      · exact hskip (Lexeme.noParen_of_word htoken) _
      · exact f.runs_expected .length
    · exact f.runs_expected .length

theorem reads_takeTypeWord (name : String) :
    f.Reads n n (takeTypeWord name) (takeTypeWord name) := by
  have hword : ∀ (w : Keyword) (long : String),
      f.Reads n n (do if ← eatKeyword w then return long else return name)
        (do if ← eatKeyword w then return long else return name) :=
    fun w _ => reads_bind_eatKeyword w fun _ =>
      reads_ite (fun _ => reads_pure _) fun _ => reads_pure _
  rw [takeTypeWord]
  exact reads_ite (fun _ => hword .PRECISION _) fun _ =>
    reads_ite (fun _ => hword .VARYING _) fun _ => reads_pure name

theorem reads_takeTypeRef : f.Reads n n (takeTypeRef f.first) (takeTypeRef f.second) := by
  rw [takeTypeRef, takeTypeRef]
  refine reads_bind_ahead fun X hX => ?_
  rw [lineAt_ahead, lineAt_ahead']
  refine Reads.bind (f.reads_takeName .dataType) (fun parts => ?_) X hX
  refine (f.reads_takeTypeWord (baseName parts)).bind fun name => ?_
  refine reads_bind_eat_left ?_ (reads_pure _)
  refine (f.reads_commaSeparated f.reads_takeTypeParam).bind fun params => ?_
  exact f.reads_expect_right.bind fun _ => reads_pure _

end Fence

end SqlLint
