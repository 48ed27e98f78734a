import SqlLint.Proofs.Parse.StatementCoupling
import SqlLint.Proofs.Parse.StatementNesting

/-!
# The levels of nesting in a counter

The readers are given the number of levels left. The usual way to limit nesting is a counter that
belongs to the state instead: it goes up by one before a reader is entered and down by one behind
it, and a reader that is entered at the limit fails. Such a counter is right only if it comes back
on every way out. One early exit that leaves it too high takes levels away from the rest of the
batch.

This module runs the same grammar with a counter. The state of a reader is a cursor, so that is
where the counter is: a cursor records errors in order, no reader looks at what has been recorded,
and none of them makes the error of a text that cannot be cut into tokens. A record of that error
sets the counter. What has been recorded then tells every value that the counter has ever had.

A run with the counter is compared with one that is given the levels, in the way in which any two
runs are compared. All that is new is what happens at the errors that a reader does not pass on, and
one level deeper.

## Main definitions

* `Cursor.depth`, `Cursor.depths`: the counter, and all values that it has had
* `Parser.nested`: one level deeper, with the counter set back behind the reader
* `Parser.exprCounted`, `Parser.statementCounted`: the readers with the counter
* `Parser.CallsDeeper`: what it means to call oneself through `nested`
* `Parser.Balanced`: the counter is back, and is all that makes two readers differ

## Main results

* `Coupling.coupled_nested`: one level deeper, the counter is one higher
* `Parser.callsDeeper_counted`: the readers with the counter call themselves
* `Parser.balanced_exprCounted`, `Parser.balanced_statementCounted`: they leave it as it was
* `Parser.counter_balanced`: no error keeps the counter from coming back
-/

namespace SqlLint

/-! ## A counter in a cursor -/

/-- The value that the counter has been set to, if that is what the record says. -/
def SyntaxError.counter? : SyntaxError → Option Nat
  | .lexical n _ => some n
  | _ => none

namespace Cursor

/-- The cursor with the counter set. -/
def setDepth (n : Nat) (s : Cursor) : Cursor :=
  -- The place of the error is the value; which fault it is makes no difference.
  s.record (.lexical n .unclosedComment)

/-- All values that the counter has been set to, in order. -/
def depths (s : Cursor) : List Nat := s.errors.filterMap SyntaxError.counter?

/-- The counter: zero until it is set. -/
def depth (s : Cursor) : Nat := s.depths.getLast?.getD 0

/-- The cursor without the counter. -/
def uncounted (s : Cursor) : Cursor :=
  { s with errors := s.errors.filter fun e => e.counter?.isNone }

variable (s : Cursor)

@[simp] theorem depths_setDepth (n : Nat) : (s.setDepth n).depths = s.depths ++ [n] := by
  rw [depths, setDepth, record, List.filterMap_append]
  rfl

@[simp] theorem depth_setDepth (n : Nat) : (s.setDepth n).depth = n := by
  rw [depth, depths_setDepth, List.getLast?_concat]
  rfl

theorem depths_record {e : SyntaxError} (h : e.counter? = none) :
    (s.record e).depths = s.depths := by
  rw [depths, record, List.filterMap_append, List.filterMap_cons, h]
  exact List.append_nil _

@[simp] theorem uncounted_setDepth (n : Nat) : (s.setDepth n).uncounted = s.uncounted := by
  simp [uncounted, setDepth, record, SyntaxError.counter?]

theorem uncounted_record {e : SyntaxError} (h : e.counter? = none) :
    (s.record e).uncounted = s.uncounted.record e := by
  simp [uncounted, record, h]

/-- The counter stands at `d`, and it has not been above the limit since it had the values `old`. -/
structure Stands (old : List Nat) (d : Nat) (s : Cursor) : Prop where
  depth : s.depth = d
  history : ∃ new, s.depths = old ++ new ∧ ∀ n ∈ new, n ≤ maxDepth

theorem stands_self : s.Stands s.depths s.depth := ⟨rfl, [], (List.append_nil _).symm, by simp⟩

variable {s} {old : List Nat} {d : Nat}

/-- Only the values of the counter matter. -/
theorem Stands.congr {t : Cursor} (h : s.Stands old d) (hdepths : t.depths = s.depths) :
    t.Stands old d := by
  obtain ⟨hdepth, hhistory⟩ := h
  refine ⟨?_, hdepths ▸ hhistory⟩
  rw [← hdepth, Cursor.depth, Cursor.depth, hdepths]

theorem Stands.record {e : SyntaxError} (h : s.Stands old d) (he : e.counter? = none) :
    (s.record e).Stands old d :=
  h.congr (s.depths_record he)

theorem Stands.setDepth {n : Nat} (h : s.Stands old d) (hn : n ≤ maxDepth) :
    (s.setDepth n).Stands old n := by
  obtain ⟨-, new, hnew, hle⟩ := h
  refine ⟨s.depth_setDepth n, new ++ [n], ?_, ?_⟩
  · rw [depths_setDepth, hnew, List.append_assoc]
  · simpa [or_imp, forall_and] using ⟨hle, hn⟩

end Cursor

namespace Parser

/-- Runs a reader one level deeper, and fails once the limit is reached. However the reader ends,
the counter is set back. -/
def nested {α : Type} (cx : Context) (p : Parser α) : Parser α := fun s =>
  if maxDepth ≤ s.depth then tooDeep cx s
  else
    match p (s.setDepth (s.depth + 1)) with
    | .ok a t => .ok a (t.setDepth (t.depth - 1))
    | .error e t => .error e (t.setDepth (t.depth - 1))

/-- Reads an expression with the counter, as long as there are at most `levels` more levels. -/
def exprWithin (cx : Context) : Nat → Nat → Parser Expr
  | 0, _ => tooDeep cx
  | levels + 1, minPower => nested cx (operatorChain cx (exprWithin cx levels) minPower)

/-- Reads a statement with the counter, as long as there are at most `levels` more levels. -/
def statementWithin (cx : Context) : Nat → Parser Statement
  | 0 => tooDeep cx
  | levels + 1 => nested cx (takeStatement cx (exprWithin cx levels) (statementWithin cx levels))

/-- Runs a reader with the levels that the counter leaves. -/
def byCounter {α : Type} (within : Nat → Parser α) : Parser α := fun s =>
  within (maxDepth - s.depth) s

/-- Reads an expression with the levels of nesting in a counter. -/
def exprCounted (cx : Context) (minPower : Nat) : Parser Expr :=
  byCounter fun levels => exprWithin cx levels minPower

/-- Reads a statement with the levels of nesting in a counter. -/
def statementCounted (cx : Context) : Parser Statement := byCounter (statementWithin cx)

end Parser

/-! ## The comparison -/

/-- A way to look at cursors that goes along with every move and with every record that does not set
the counter. -/
structure View where
  see : Cursor → Cursor
  rest_see : ∀ s, (see s).rest = s.rest
  see_moveTo : ∀ ls s, see (s.moveTo ls) = (see s).moveTo ls
  see_advance : ∀ n s, see (s.advance n) = (see s).advance n
  see_record : ∀ {e} s, e.counter? = none → see (s.record e) = (see s).record e

namespace View

/-- The whole cursor. -/
def whole : View where
  see := id
  rest_see _ := rfl
  see_moveTo _ _ := rfl
  see_advance _ _ := rfl
  see_record _ _ := rfl

/-- The cursor without the counter. -/
def plain : View where
  see := Cursor.uncounted
  rest_see _ := rfl
  see_moveTo _ _ := rfl
  see_advance _ _ := rfl
  see_record s h := s.uncounted_record h

variable (V : View)

theorem see_note {e : SyntaxError} (s : Cursor) : V.see (s.note e) = (V.see s).note e := by
  cases e with
  | unsupported => exact V.see_record s rfl
  | _ => rfl

theorem see_noteIif (cx : Context) (l : Lexeme) (s : Cursor) :
    V.see (s.noteIif cx l) = (V.see s).noteIif cx l := by
  rw [Cursor.noteIif, Cursor.noteIif]
  split
  · rfl
  · exact V.see_record s rfl

end View

theorem Cursor.Stands.note {s : Cursor} {old : List Nat} {d : Nat} (h : s.Stands old d)
    (e : SyntaxError) : (s.note e).Stands old d := by
  cases e with
  | unsupported => exact h.record rfl
  | _ => exact h

theorem Cursor.Stands.noteIif {s : Cursor} {old : List Nat} {d : Nat} (h : s.Stands old d)
    (cx : Context) (l : Lexeme) : (s.noteIif cx l).Stands old d := by
  rw [Cursor.noteIif]
  split
  · exact h
  · exact h.record rfl

/-- A run with the counter at `d`, beside one of the same grammar on what can be seen of its cursor.
Both fail with the same error, and never with the one that sets the counter. -/
def Coupling.counting (V : View) (old : List Nat) (d : Nat) (cx : Context) : Coupling where
  first := cx
  second := cx
  line := id
  exact := True
  Step s t := s.Stands old d ∧ t = V.see s
  Opened _ := True
  Fail e s e' t := (e' = e ∧ e.counter? = none) ∧ s.Stands old d ∧ t = V.see s
  overOnRecord _ := False
  overOnFirst _ := False
  overOnSecond _ := False
  endLine := cx.endLine_id
  rest := by
    rintro s _ ⟨-, rfl⟩
    rw [Lexeme.renumber_id_eq_id, List.map_id, V.rest_see]
  moveTo := by
    rintro s _ ls ⟨hs, rfl⟩ -
    rw [Lexeme.renumber_id_eq_id, List.map_id]
    exact ⟨hs.congr rfl, (V.see_moveTo ls s).symm⟩
  advance := by
    rintro s _ n ⟨hs, rfl⟩
    exact ⟨hs.congr rfl, (V.see_advance n s).symm⟩
  opened _ _ _ := trivial
  mismatch := by
    rintro e s _ he ⟨hs, rfl⟩
    refine ⟨⟨e.renumber_id, ?_⟩, hs, rfl⟩
    cases he <;> rfl
  require := by
    rintro g s _ ⟨hs, rfl⟩ -
    rw [Parser.require, Parser.require]
    split
    · exact .ok rfl ⟨hs, rfl⟩
    · rw [V.rest_see]
      exact .error ⟨⟨rfl, rfl⟩, hs, rfl⟩

/-- The end of a run, with a look at its cursor. -/
def Parser.seen {α : Type} (V : View) :
    EStateM.Result SyntaxError Cursor α → EStateM.Result SyntaxError Cursor α
  | .ok a t => .ok a (V.see t)
  | .error e t => .error e (V.see t)

theorem Parser.seen_whole {α : Type} (r : EStateM.Result SyntaxError Cursor α) :
    seen .whole r = r := by
  cases r <;> rfl

namespace Coupling

open SqlLint.Parser SqlLint.Pairing

variable {V : View} {old : List Nat} {d : Nat} {cx : Context}

/-- Runs end in the same way, and neither of them has been given up. -/
theorem counting_cases {α : Type} {L : Link α} {r r' : EStateM.Result SyntaxError Cursor α}
    (h : (counting V old d cx).Meets L r r') :
    (∃ a b s, r = .ok a s ∧ r' = .ok b (V.see s) ∧ s.Stands old d ∧ L.Rel a b) ∨
      ∃ e s, r = .error e s ∧ r' = .error e (V.see s) ∧ s.Stands old d ∧ e.counter? = none := by
  cases h with
  | @ok a b s _ hab hst =>
    obtain ⟨hs, rfl⟩ := hst
    exact .inl ⟨a, b, s, rfl, rfl, hs, hab⟩
  | @error e _ s _ hfail =>
    obtain ⟨⟨rfl, he⟩, hs, rfl⟩ := hfail
    exact .inr ⟨_, s, rfl, rfl, hs, he⟩
  | recorded hover => exact hover.elim
  | first hover => exact hover.elim
  | second hover => exact hover.elim

/-! ### Attempts -/

theorem counting_tooDeep {α : Type} {L : Link α} :
    (counting V old d cx).Coupled L (Parser.tooDeep cx) (Parser.tooDeep cx) := by
  refine ⟨keepsErrors_of_eq fun _ => rfl, ?_⟩
  rintro s _ ⟨hs, rfl⟩ -
  rw [Parser.tooDeep, Parser.tooDeep, V.rest_see]
  exact .error ⟨⟨rfl, rfl⟩, hs, rfl⟩

theorem counting_iif {s t : Cursor} (hst : (counting V old d cx).Step s t) (l : Lexeme)
    (ls : List Lexeme) :
    (counting V old d cx).Meets .same (.ok () ((s.noteIif cx l).moveTo ls))
      (.ok () ((t.noteIif cx (l.renumber id)).moveTo ((counting V old d cx).lexemes ls))) := by
  obtain ⟨hs, rfl⟩ := hst
  refine .ok rfl ⟨(hs.noteIif cx l).congr rfl, ?_⟩
  change ((V.see s).noteIif cx l).moveTo (ls.map (Lexeme.renumber id)) = _
  rw [V.see_moveTo, V.see_noteIif, Lexeme.renumber_id_eq_id, List.map_id]

theorem counting_tried {ls : List Lexeme} {found found' : List Expr} {r r'}
    (hcast : (counting V old d cx).Meets (counting V old d cx).exprs r r')
    (hfound : (counting V old d cx).exprLists.Rel found found') :
    (counting V old d cx).Meets (counting V old d cx).exprLists (tried found ls r)
      (tried found' ((counting V old d cx).lexemes ls) r') := by
  obtain ⟨a, b, s, rfl, rfl, hs, hab⟩ | ⟨e, s, rfl, rfl, hs, -⟩ := counting_cases hcast
  · refine .ok (fun _ => ?_) ⟨hs, rfl⟩
    rw [hab trivial, hfound trivial]
    rfl
  · refine .ok hfound ⟨(hs.note e).congr rfl, ?_⟩
    change ((V.see s).note e).moveTo (ls.map (Lexeme.renumber id)) = _
    rw [V.see_moveTo, V.see_note, Lexeme.renumber_id_eq_id, List.map_id]

theorem counting_retried {deeper deeper' : Nat → Parser Expr} {ls : List Lexeme} {r r'}
    (hlist : (counting V old d cx).Meets (counting V old d cx).exprLists r r')
    (hparen : (counting V old d cx).Coupled (counting V old d cx).exprLists
      (parenFragment cx deeper) (parenFragment cx deeper')) :
    (counting V old d cx).Meets (counting V old d cx).exprLists (retried cx deeper ls r)
      (retried cx deeper' ls r') := by
  obtain ⟨a, b, s, rfl, rfl, hs, hab⟩ | ⟨e, s, rfl, rfl, hs, -⟩ := counting_cases hlist
  · exact .ok hab ⟨hs, rfl⟩
  · exact hparen.run ⟨hs.congr rfl, (V.see_moveTo ls s).symm⟩

theorem counting_recovered {ls : List Lexeme} {done done' : List Statement} {r r'}
    (hstatement : (counting V old d cx).Meets (counting V old d cx).statements r r')
    (hdone : (counting V old d cx).statementLists.Rel done done') :
    (counting V old d cx).Meets (counting V old d cx).statementLists (recovered done ls r)
      (recovered done' ls r') := by
  obtain ⟨a, b, s, rfl, rfl, hs, hab⟩ | ⟨e, s, rfl, rfl, hs, he⟩ := counting_cases hstatement
  · refine .ok (fun _ => ?_) ⟨hs, rfl⟩
    rw [hab trivial, hdone trivial]
    rfl
  · refine .ok hdone ⟨(hs.record he).congr rfl, ?_⟩
    rw [V.see_moveTo, V.see_record s he, V.rest_see]

/-! ### Expressions and statements -/

section

variable {deeper deeper' : Nat → Parser Expr}
  (hexpr : ∀ m, (counting V old d cx).Coupled (counting V old d cx).exprs (deeper m) (deeper' m))

include hexpr

theorem counting_scanItem (found found' : List Expr)
    (hfound : (counting V old d cx).exprLists.Rel found found') :
    (counting V old d cx).Coupled (counting V old d cx).exprLists (scanItem cx deeper found)
      (scanItem cx deeper' found') := by
  refine (counting V old d cx).coupled_scanItem hexpr (fun hst _ _ _ => counting_iif hst _ _)
    (fun hst hs hkind hopens hfound => ?_) found found' hfound
  exact counting_tried
    (((counting V old d cx).coupledAt_takeCast hexpr hkind hopens).meets _ _ hst hs) hfound

theorem counting_callArguments :
    (counting V old d cx).Coupled (counting V old d cx).exprLists (callArguments cx deeper)
      (callArguments cx deeper') := by
  have hparen := (counting V old d cx).coupled_parenFragment (counting_scanItem hexpr)
  have hlist := (counting V old d cx).coupled_listOrQuery hexpr hparen
  refine (counting V old d cx).coupled_callArguments hexpr hparen fun {s t} hst _ => ?_
  have hrest : t.rest = s.rest := by
    rw [hst.2, V.rest_see]
  rw [hrest]
  exact counting_retried (hlist.run hst) hparen

theorem counting_operatorChain (m : Nat) :
    (counting V old d cx).Coupled (counting V old d cx).exprs (operatorChain cx deeper m)
      (operatorChain cx deeper' m) :=
  (counting V old d cx).coupled_operatorChain hexpr
    ((counting V old d cx).coupled_parenFragment (counting_scanItem hexpr))
    (counting_callArguments hexpr) m

variable {statement statement' : Parser Statement}
  (hstatement : (counting V old d cx).Coupled (counting V old d cx).statements statement statement')

include hstatement

omit hexpr in
theorem counting_listItem (done done' : List Statement)
    (hdone : (counting V old d cx).statementLists.Rel done done') :
    (counting V old d cx).CoupledAt (fun s => s.rest ≠ []) (counting V old d cx).statementLists
      (listItem statement done) (listItem statement' done') := by
  refine (counting V old d cx).coupled_listItem hstatement.keeps (fun {s t _ _} hst hdone => ?_)
    done done' hdone
  have hrest : t.rest = s.rest := by
    rw [hst.2, V.rest_see]
  rw [hrest]
  exact counting_recovered (hstatement.run hst) hdone

theorem counting_takeStatement :
    (counting V old d cx).Coupled (counting V old d cx).statements
      (takeStatement cx deeper statement) (takeStatement cx deeper' statement') :=
  (counting V old d cx).coupled_takeStatement hexpr (counting_scanItem hexpr) hstatement
    (counting_listItem hstatement)

end

/-! ### One level deeper -/

theorem keepsErrors_nested {α : Type} {p : Parser α} (hp : KeepsErrors p) :
    KeepsErrors (nested cx p) := by
  intro s
  rw [nested]
  split
  · exact List.Subset.refl _
  · have hdeeper := List.Subset.trans (Cursor.errors_subset_record _ s)
      (hp (s.setDepth (s.depth + 1)))
    cases hrun : p (s.setDepth (s.depth + 1)) with
    | ok a t =>
      rw [hrun] at hdeeper
      exact List.Subset.trans hdeeper (Cursor.errors_subset_record _ t)
    | error e t =>
      rw [hrun] at hdeeper
      exact List.Subset.trans hdeeper (Cursor.errors_subset_record _ t)

/-- A reader one level deeper leaves the counter one higher than it was, and then it is set back. -/
theorem coupled_nested {α : Type} {L : Link α} {p q : Parser α} (hd : d < maxDepth)
    (h : (counting .plain old (d + 1) cx).Coupled L p q) :
    (counting .plain old d cx).Coupled L (nested cx p) q := by
  refine ⟨keepsErrors_nested h.keeps, ?_⟩
  rintro s _ ⟨hs, rfl⟩ -
  have hback : ∀ {t : Cursor}, t.Stands old (d + 1) → (t.setDepth (t.depth - 1)).Stands old d := by
    intro t ht
    rw [ht.depth, Nat.add_sub_cancel]
    exact ht.setDepth (Nat.le_of_lt hd)
  have hmeets := h.run (s := s.setDepth (s.depth + 1)) (t := s.uncounted)
    ⟨by rw [hs.depth]; exact hs.setDepth hd, (s.uncounted_setDepth _).symm⟩
  rw [nested, if_neg (by rw [hs.depth]; omega)]
  change (counting .plain old d cx).Meets L _ (q s.uncounted)
  obtain ⟨a, b, t, hp, hq, ht, hab⟩ | ⟨e, t, hp, hq, ht, he⟩ := counting_cases hmeets
  · rw [hp, hq]
    exact .ok hab ⟨hback ht, (t.uncounted_setDepth _).symm⟩
  · rw [hp, hq]
    exact .error ⟨⟨rfl, he⟩, hback ht, (t.uncounted_setDepth _).symm⟩

/-- The counter and the levels left always add up to the limit. -/
theorem coupled_exprWithin (levels : Nat) (hd : d + levels = maxDepth) (m : Nat) :
    (counting .plain old d cx).Coupled (counting .plain old d cx).exprs (exprWithin cx levels m)
      (expr cx levels m) := by
  induction levels generalizing d m with
  | zero => exact counting_tooDeep
  | succ levels ih =>
    have hdeeper : d + 1 + levels = maxDepth := by omega
    exact coupled_nested (by omega) (counting_operatorChain (ih hdeeper) m)

theorem coupled_statementWithin (levels : Nat) (hd : d + levels = maxDepth) :
    (counting .plain old d cx).Coupled (counting .plain old d cx).statements
      (statementWithin cx levels) (statement cx levels) := by
  induction levels generalizing d with
  | zero => exact counting_tooDeep
  | succ levels ih =>
    have hdeeper : d + 1 + levels = maxDepth := by omega
    exact coupled_nested (by omega)
      (counting_takeStatement (coupled_exprWithin levels hdeeper) (ih hdeeper))

/-! ### The counter for the levels -/

section

variable {α : Type} {ρ : α → α} (within bare : Nat → Parser α) {levels : Nat}
  (h : ∀ old {d} levels, d + levels = maxDepth →
    (counting .plain old d cx).Coupled (.upTo True ρ) (within levels) (bare levels))

include h

/-- Where the counter is `d`, it leaves as many levels as are missing from the limit. -/
theorem coupled_byCounter (hd : d + levels = maxDepth) :
    (counting .plain old d cx).Coupled (.upTo True ρ) (byCounter within) (bare levels) := by
  refine ⟨fun s => ?_, ?_⟩
  · -- Errors have to be kept at every cursor, also at one where the counter is not `d`.
    have hlevels : maxDepth - (maxDepth - s.depth) + (maxDepth - s.depth) = maxDepth :=
      Nat.sub_add_cancel (Nat.sub_le _ _)
    exact (h [] _ hlevels).keeps s
  · intro s t hst _
    rw [byCounter, hst.1.depth, show maxDepth - d = levels by omega]
    exact (h old levels hd).run hst

/-- The counter and the levels go down together, so one can stand for the other. -/
theorem coupled_within_byCounter (hρ : ρ = id) (hd : d + levels = maxDepth) :
    (counting .whole old d cx).Coupled (.upTo True ρ) (within levels) (byCounter within) := by
  refine ⟨(h old levels hd).keeps, ?_⟩
  rintro s t ⟨hs, ht⟩ -
  -- The run without the counter is of use only for what it says about the one with it.
  have hmeets := (h old levels hd).run (s := s) ⟨hs, rfl⟩
  rw [show t = s from ht, byCounter, hs.depth, show maxDepth - d = levels by omega]
  obtain ⟨a, b, t', hrun, -, ht', -⟩ | ⟨e, t', hrun, -, ht', he⟩ := counting_cases hmeets
  · rw [hrun]
    exact .ok (fun _ => hρ ▸ rfl) ⟨ht', rfl⟩
  · rw [hrun]
    exact .error ⟨⟨rfl, he⟩, ht', rfl⟩

end

/-- Where runs meet, the end of the second one is what can be seen of the end of the first. -/
theorem eq_of_meets_counting {α : Type} {ρ : α → α} {r r' : EStateM.Result SyntaxError Cursor α}
    (h : (counting V old d cx).Meets (.upTo True ρ) r r') (hρ : ρ = id) :
    (cursorOf r).Stands old d ∧ r' = seen V r := by
  obtain ⟨a, b, s, rfl, rfl, hs, hab⟩ | ⟨e, s, rfl, rfl, hs, -⟩ := counting_cases h
  · rw [hab trivial, hρ]
    exact ⟨hs, rfl⟩
  · exact ⟨hs, rfl⟩

theorem eq_of_coupled_whole {α : Type} {ρ : α → α} {p p' : Parser α} {s : Cursor}
    (h : (counting .whole s.depths s.depth cx).Coupled (.upTo True ρ) p p') (hρ : ρ = id) :
    p s = p' s := by
  obtain ⟨-, hsame⟩ := eq_of_meets_counting (h.run ⟨s.stands_self, rfl⟩) hρ
  rw [seen_whole] at hsame
  exact hsame.symm

end Coupling

namespace Parser

open SqlLint.Coupling

/-! ## The readers call themselves

Counting levels down in an argument is what makes the readers with the counter definitions. Without
that, they are what they are meant to be: each goes one level deeper than it is called and finds
itself there again. -/

/-- A reader that goes one level deeper for as long as there are levels. -/
theorem byCounter_eq_nested {α : Type} {cx : Context} (within inner : Nat → Parser α)
    {again : Parser α} (hzero : within 0 = tooDeep cx)
    (hsucc : ∀ levels, within (levels + 1) = nested cx (inner levels))
    (hinner : ∀ {s : Cursor} {levels}, s.depth + levels = maxDepth → inner levels s = again s) :
    byCounter within = nested cx again := by
  funext s
  rw [byCounter]
  by_cases hd : maxDepth ≤ s.depth
  · rw [Nat.sub_eq_zero_of_le hd, hzero, nested, if_pos hd]
  · obtain ⟨levels, hlevels⟩ := Nat.exists_eq_add_one.2 (Nat.sub_pos_of_lt (Nat.lt_of_not_le hd))
    have hdeeper : (s.setDepth (s.depth + 1)).depth + levels = maxDepth := by
      rw [Cursor.depth_setDepth]
      omega
    rw [hlevels, hsucc, nested, nested, hinner hdeeper]

variable (cx : Context)

/-- Readers of expressions and statements that call each other one level deeper, the counter being
all that limits them. -/
structure CallsDeeper (expr : Nat → Parser Expr) (statement : Parser Statement) : Prop where
  expr_eq : ∀ m, expr m = nested cx (operatorChain cx expr m)
  statement_eq : statement = nested cx (takeStatement cx expr statement)

theorem callsDeeper_counted : CallsDeeper cx (exprCounted cx) (statementCounted cx) := by
  have hexpr : ∀ {s : Cursor} {levels}, s.depth + levels = maxDepth → ∀ m,
      (counting .whole s.depths s.depth cx).Coupled (counting .whole s.depths s.depth cx).exprs
        (exprWithin cx levels m) (exprCounted cx m) := fun hs m =>
    coupled_within_byCounter (fun levels => exprWithin cx levels m) (fun levels => expr cx levels m)
      (fun _ _ levels hd => coupled_exprWithin levels hd m) Expr.renumber_id_eq_id hs
  have hstatement : ∀ {s : Cursor} {levels}, s.depth + levels = maxDepth →
      (counting .whole s.depths s.depth cx).Coupled (counting .whole s.depths s.depth cx).statements
        (statementWithin cx levels) (statementCounted cx) := fun hs =>
    coupled_within_byCounter (statementWithin cx) (statement cx)
      (fun _ _ levels hd => coupled_statementWithin levels hd) Statement.renumber_id_eq_id hs
  refine ⟨fun m => ?_, ?_⟩
  · refine byCounter_eq_nested (fun levels => exprWithin cx levels m)
      (fun levels => operatorChain cx (exprWithin cx levels) m) rfl (fun _ => rfl) fun hs => ?_
    exact eq_of_coupled_whole (counting_operatorChain (hexpr hs) m) Expr.renumber_id_eq_id
  · refine byCounter_eq_nested (statementWithin cx)
      (fun levels => takeStatement cx (exprWithin cx levels) (statementWithin cx levels)) rfl
      (fun _ => rfl) fun hs => ?_
    exact eq_of_coupled_whole (counting_takeStatement (hexpr hs) (hstatement hs))
      Statement.renumber_id_eq_id

/-! ## The counter is balanced -/

/-- At the cursor, the first reader ends with the counter where it was, has not set it above the
limit, and apart from that does what the second one does without a counter. -/
structure Balanced {α : Type} (p q : Parser α) (s : Cursor) : Prop where
  stands : (cursorOf (p s)).Stands s.depths s.depth
  uncounted : q s.uncounted = seen .plain (p s)

variable {cx}

theorem map_eq_id {α : Type} {ρ : α → α} (hρ : ρ = id) : List.map ρ = id := by
  rw [hρ, List.map_id_fun]

theorem balanced_of_coupled {α : Type} {ρ : α → α} {p q : Parser α} {s : Cursor}
    (h : (counting .plain s.depths s.depth cx).Coupled (.upTo True ρ) p q) (hρ : ρ = id) :
    Balanced p q s := by
  obtain ⟨hstands, hsame⟩ := eq_of_meets_counting (h.run ⟨s.stands_self, rfl⟩) hρ
  exact ⟨hstands, hsame⟩

theorem coupled_exprCounted {old : List Nat} {d levels : Nat} (hd : d + levels = maxDepth)
    (m : Nat) :
    (counting .plain old d cx).Coupled (counting .plain old d cx).exprs (exprCounted cx m)
      (expr cx levels m) :=
  coupled_byCounter (fun levels => exprWithin cx levels m) (fun levels => expr cx levels m)
    (fun _ _ levels hd => coupled_exprWithin levels hd m) hd

theorem coupled_statementCounted {old : List Nat} {d levels : Nat} (hd : d + levels = maxDepth) :
    (counting .plain old d cx).Coupled (counting .plain old d cx).statements (statementCounted cx)
      (statement cx levels) :=
  coupled_byCounter (statementWithin cx) (statement cx)
    (fun _ _ levels hd => coupled_statementWithin levels hd) hd

section

variable {s : Cursor} (hs : s.depth ≤ maxDepth)

include hs

theorem balanced_exprCounted (m : Nat) :
    Balanced (exprCounted cx m) (expr cx (maxDepth - s.depth) m) s :=
  balanced_of_coupled (coupled_exprCounted (Nat.add_sub_of_le hs) m) Expr.renumber_id_eq_id

theorem balanced_statementCounted :
    Balanced (statementCounted cx) (statement cx (maxDepth - s.depth)) s :=
  balanced_of_coupled (coupled_statementCounted (Nat.add_sub_of_le hs)) Statement.renumber_id_eq_id

/-- Arguments that cannot be read are scanned instead; the error is not kept. -/
theorem balanced_callArguments :
    Balanced (callArguments cx (exprCounted cx))
      (callArguments cx (expr cx (maxDepth - s.depth))) s :=
  balanced_of_coupled (counting_callArguments (coupled_exprCounted (Nat.add_sub_of_le hs)))
    (map_eq_id Expr.renumber_id_eq_id)

/-- A cast that cannot be read is passed over; the error is not kept. -/
theorem balanced_scanItem (found : List Expr) :
    Balanced (scanItem cx (exprCounted cx) found)
      (scanItem cx (expr cx (maxDepth - s.depth)) found) s := by
  have hid : List.map (Expr.renumber id) = id := map_eq_id Expr.renumber_id_eq_id
  refine balanced_of_coupled (counting_scanItem (coupled_exprCounted (Nat.add_sub_of_le hs)) found
    found fun _ => ?_) hid
  exact (congrFun hid found).symm

/-- Every statement of a list has the levels that the first one has, also behind those that have
failed. -/
theorem balanced_statementList (stop : Lexeme → Bool) :
    Balanced (statementList (statementCounted cx) stop)
      (statementList (statement cx (maxDepth - s.depth)) stop) s := by
  have hstatement : (counting .plain s.depths s.depth cx).Coupled
      (counting .plain s.depths s.depth cx).statements (statementCounted cx)
      (statement cx (maxDepth - s.depth)) := coupled_statementCounted (Nat.add_sub_of_le hs)
  exact balanced_of_coupled ((counting .plain s.depths s.depth cx).coupled_statementList
    (counting_listItem hstatement) fun _ => rfl) (map_eq_id Statement.renumber_id_eq_id)

end

/-- **The counter is balanced.**

However expressions and statements are read, and whatever becomes of the errors on the way, the
counter ends where it began and has not been above the limit. Since it comes back, it leaves as many
levels as it did; and these limit how deep statements are nested. -/
theorem counter_balanced (cx : Context) {s : Cursor} (hs : s.depth ≤ maxDepth) :
    CallsDeeper cx (exprCounted cx) (statementCounted cx) ∧
    (∀ m, Balanced (exprCounted cx m) (expr cx (maxDepth - s.depth) m) s) ∧
    Balanced (statementCounted cx) (statement cx (maxDepth - s.depth)) s ∧
    Balanced (callArguments cx (exprCounted cx))
      (callArguments cx (expr cx (maxDepth - s.depth))) s ∧
    (∀ found, Balanced (scanItem cx (exprCounted cx) found)
      (scanItem cx (expr cx (maxDepth - s.depth)) found) s) ∧
    (∀ stop, Balanced (statementList (statementCounted cx) stop)
      (statementList (statement cx (maxDepth - s.depth)) stop) s) ∧
    ∀ version batch, ∀ a ∈ (parseBatch version batch).1, a.layers ≤ maxDepth := by
  refine ⟨callsDeeper_counted cx, balanced_exprCounted hs, balanced_statementCounted hs,
    balanced_callArguments hs, balanced_scanItem hs, balanced_statementList hs, ?_⟩
  intro version batch a ha
  exact layers_le_of_mem_parseBatch ha

/-- In `f((@a))` with two levels left, the inner parentheses meet the limit. The error is not kept,
and neither are the levels that the arguments have taken. -/
theorem counter_balanced_nested_call :
    let ls : List Lexeme := [⟨.word "f" none, 1, true⟩, ⟨.mark .leftParen, 1, false⟩,
      ⟨.mark .leftParen, 1, false⟩, ⟨.word "@a" none, 1, false⟩, ⟨.mark .rightParen, 1, false⟩,
      ⟨.mark .rightParen, 1, false⟩]
    let s := (Cursor.mk ls []).setDepth 126
    (cursorOf (exprCounted (.ofBatch .sql2014 ls) 0 s)).depths = [126, 127, 128, 127, 126] ∧
      (cursorOf (exprCounted (.ofBatch .sql2014 ls) 0 s)).depth = 126 := by
  intro ls s
  obtain ⟨-, hexpr, -⟩ := counter_balanced (.ofBatch .sql2014 ls) (s := s) (by decide)
  exact ⟨by decide, (hexpr 0).stands.depth⟩

end Parser

end SqlLint
