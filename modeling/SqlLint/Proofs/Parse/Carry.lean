import SqlLint.Proofs.Parse.StatementCoupling

/-!
# Runs with a history

What has happened before a reader is started, the errors recorded and the moves past the end, is
only carried along: the reader does what it would do without it. `base.carry s` is the cursor `s`
with all that has happened up to `base` counted in, and `Coupling.carrying` compares a run with one
behind such a history.

The comparison may be over once the first run has recorded a certain error. That leaves room for
runs that differ: one of them records an error where the other one does something else, and from
there on nothing is said of the two.

## Main results

* `Coupling.attempts_carrying`: what is caught is caught with and without a history
* `Parser.statement_carry`: statements with and without a history
-/

namespace SqlLint

namespace Cursor

/-- The cursor with all that has happened up to `base` counted in. -/
def carry (base s : Cursor) : Cursor :=
  ⟨⟨s.rest, base.overrun + s.overrun⟩, base.errors ++ s.errors⟩

variable (base s : Cursor)

@[simp] theorem rest_carry : (base.carry s).rest = s.rest := rfl

@[simp] theorem carry_moveTo (ls : List Lexeme) :
    (base.carry s).moveTo ls = base.carry (s.moveTo ls) := rfl

theorem carry_advance (n : Nat) : (base.carry s).advance n = base.carry (s.advance n) := by
  simp [carry, advance, rest, overrun, Nat.add_assoc]

theorem carry_record (e : SyntaxError) : (base.carry s).record e = base.carry (s.record e) := by
  simp [carry, record, rest, overrun]

theorem carry_note (e : SyntaxError) : (base.carry s).note e = base.carry (s.note e) := by
  cases e with
  | unsupported => exact carry_record base s _
  | _ => rfl

theorem carry_noteIif (cx : Context) (l : Lexeme) :
    (base.carry s).noteIif cx l = base.carry (s.noteIif cx l) := by
  rw [noteIif, noteIif]
  split
  · rfl
  · exact carry_record base s _

/-- A cursor is where it would be without all that has happened before, with it counted in. -/
theorem carry_start {ls : List Lexeme} (h : base.rest = ls) : base.carry ⟨ls, []⟩ = base := by
  subst h
  simp [carry, rest, overrun]

end Cursor

/-- A run beside one with all that has happened up to `base` counted in, until the first one has
recorded an error of a certain kind. -/
def Coupling.carrying (base : Cursor) (cx : Context) (isOver : SyntaxError → Prop) : Coupling where
  first := cx
  second := cx
  line := id
  exact := True
  Step s t := t = base.carry s
  Opened _ := True
  Fail e s e' t := e' = e ∧ t = base.carry s
  overOnRecord := isOver
  overOnFirst _ := False
  overOnSecond _ := False
  endLine := rfl
  rest := by
    rintro s _ rfl
    simp
  moveTo := by
    rintro s _ ls rfl -
    simp
  advance := by
    rintro s _ n rfl
    exact Cursor.carry_advance base s n
  opened _ _ _ := trivial
  mismatch := by
    rintro e s _ - rfl
    exact ⟨e.renumber_id, rfl⟩
  require := by
    rintro g s _ rfl -
    rw [Parser.require, Parser.require]
    split
    · exact .ok rfl rfl
    · exact .error ⟨rfl, rfl⟩

namespace Coupling

open SqlLint.Parser SqlLint.Pairing

variable (base : Cursor) (cx : Context) (isOver : SyntaxError → Prop)

/-! ## Attempts -/

section

variable {base cx isOver}

theorem carrying_iif (s : Cursor) (l : Lexeme) (ls : List Lexeme) :
    (carrying base cx isOver).Meets .same (.ok () ((s.noteIif cx l).moveTo ls))
      (.ok () (((base.carry s).noteIif cx (l.renumber id)).moveTo
        ((carrying base cx isOver).lexemes ls))) := by
  refine .ok rfl ?_
  change ((base.carry s).noteIif cx l).moveTo (ls.map (Lexeme.renumber id)) = _
  rw [Cursor.carry_noteIif, Lexeme.renumber_id_eq_id, List.map_id]
  rfl

theorem carrying_tried {ls : List Lexeme} {found found' : List Expr} {r r'}
    (hcast : (carrying base cx isOver).Meets (carrying base cx isOver).exprs r r')
    (hfound : (carrying base cx isOver).exprLists.Rel found found') :
    (carrying base cx isOver).Meets (carrying base cx isOver).exprLists (tried found ls r)
      (tried found' ((carrying base cx isOver).lexemes ls) r') := by
  cases hcast with
  | ok he hst =>
    refine .ok (fun _ => ?_) hst
    rw [he trivial, hfound trivial]
    rfl
  | @error _ e s _ hfail =>
    obtain ⟨rfl, rfl⟩ := hfail
    refine .ok hfound ?_
    change ((base.carry s).note e).moveTo (ls.map (Lexeme.renumber id)) = _
    rw [Cursor.carry_note]
    simp
  | recorded hover hrecorded =>
    refine .recorded hover ?_
    cases r with
    | ok e t => exact hrecorded
    | error e t => exact Cursor.errors_subset_note e t hrecorded
  | first hover => exact hover.elim
  | second hover => exact hover.elim

theorem carrying_retried {deeper deeper' : Nat → Parser Expr} {ls : List Lexeme} {r r'}
    (hlist : (carrying base cx isOver).Meets (carrying base cx isOver).exprLists r r')
    (hparen : (carrying base cx isOver).Coupled (carrying base cx isOver).exprLists
      (parenFragment cx deeper) (parenFragment cx deeper')) :
    (carrying base cx isOver).Meets (carrying base cx isOver).exprLists (retried cx deeper ls r)
      (retried cx deeper' ls r') := by
  cases hlist with
  | ok hes hst => exact .ok hes hst
  | error hfail =>
    obtain ⟨rfl, rfl⟩ := hfail
    exact hparen.run rfl
  | recorded hover hrecorded =>
    refine .recorded hover ?_
    cases r with
    | ok es t => exact hrecorded
    | error e t => exact hparen.keeps (t.moveTo ls) hrecorded
  | first hover => exact hover.elim
  | second hover => exact hover.elim

end

theorem attempts_carrying : (carrying base cx isOver).Attempts where
  tooDeep := by
    rintro s _ rfl
    exact ⟨rfl, rfl⟩
  iif := by
    rintro s _ l ls rfl - - -
    exact carrying_iif s l ls
  tried := by
    rintro levels s _ l ls kind found found' hcast rfl - - - hfound
    exact carrying_tried hcast hfound
  retried := by
    rintro levels s _ hlist hparen rfl -
    exact carrying_retried hlist hparen
  recovered := by
    rintro levels s _ done done' hstatement rfl hdone
    generalize statement (carrying base cx isOver).first levels s = r at hstatement ⊢
    generalize statement (carrying base cx isOver).second levels (base.carry s) = r' at hstatement ⊢
    cases hstatement with
    | ok ha hst =>
      refine .ok (fun _ => ?_) hst
      rw [ha trivial, hdone trivial]
      rfl
    | @error _ e t _ hfail =>
      obtain ⟨rfl, rfl⟩ := hfail
      refine .ok hdone ?_
      change ((base.carry t).record e).moveTo _ = _
      rw [Cursor.carry_record]
      rfl
    | recorded hover hrecorded =>
      refine .recorded hover ?_
      cases r with
      | ok a t => exact hrecorded
      | error e t => exact Cursor.errors_subset_record e t hrecorded
    | first hover => exact hover.elim
    | second hover => exact hover.elim

end Coupling

/-! ## Results -/

namespace Parser

/-- What the result of a run is with all that has happened up to `base` counted in. -/
def carried {α : Type} (base : Cursor) :
    EStateM.Result SyntaxError Cursor α → EStateM.Result SyntaxError Cursor α
  | .ok a t => .ok a (base.carry t)
  | .error e t => .error e (base.carry t)

/-- The result of the second run, unless the comparison is over. -/
theorem eq_carried_of_meets {base : Cursor} {cx : Context} {isOver : SyntaxError → Prop} {α : Type}
    {L : Link α} {r r' : EStateM.Result SyntaxError Cursor α}
    (h : (Coupling.carrying base cx isOver).Meets L r r')
    (hL : ∀ a b, L.Rel a b → b = a) (hover : ∀ e ∈ (cursorOf r).errors, ¬isOver e) :
    r' = carried base r := by
  cases h with
  | ok hab hst =>
    obtain rfl := hL _ _ hab
    obtain rfl := hst
    rfl
  | error hfail =>
    obtain ⟨rfl, rfl⟩ := hfail
    rfl
  | recorded hrecord he => exact absurd hrecord (hover _ he)
  | first h => exact h.elim
  | second h => exact h.elim

theorem statement_carry (cx : Context) (levels : Nat) (base s : Cursor) :
    statement cx levels (base.carry s) = carried base (statement cx levels s) := by
  have hmeets := ((Coupling.attempts_carrying base cx fun _ => False).coupled_statement levels).run
    (rfl : base.carry s = base.carry s)
  refine eq_carried_of_meets hmeets (fun a b hab => ?_) fun _ _ => id
  exact (hab trivial).trans a.renumber_id

end Parser

end SqlLint
