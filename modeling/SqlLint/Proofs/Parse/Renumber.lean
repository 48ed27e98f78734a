import SqlLint.Proofs.Parse.StatementCoupling

/-!
# Reading a batch whose lines have other numbers

A reader copies the number of a line into trees and errors and never looks at it. A batch in which
every line has another number is therefore read in the same way: the run over it is in step with
the run over the original one, from the first lexeme to the last, and gives the same statements and
errors with the other numbers in them. Nothing is asked of the new numbers; even two lines may get
the same one.

The comparison never comes to an early end, and every failure is matched by one in the other run,
so each attempt becomes in one run what it becomes in the other.

An empty batch is an exception. Errors at the end of a batch are reported on the line of its last
lexeme, and without a lexeme on line 1, which is not renumbered.

## Main results

* `parseBatch_renumber`: the statements and errors of a batch with other numbers for its lines
-/

namespace SqlLint

namespace Cursor

/-- The cursor with other numbers for the lines of what lies ahead and of what is recorded. -/
def renumber (f : Nat → Nat) (s : Cursor) : Cursor :=
  ⟨⟨s.rest.map (Lexeme.renumber f), s.overrun⟩, s.errors.map (SyntaxError.renumber f)⟩

variable (f : Nat → Nat) (s : Cursor)

theorem renumber_advance (n : Nat) : (s.renumber f).advance n = (s.advance n).renumber f := by
  simp [renumber, advance, rest, overrun]

theorem renumber_record (e : SyntaxError) :
    (s.renumber f).record (e.renumber f) = (s.record e).renumber f := by
  simp [renumber, record, rest, overrun]

theorem renumber_note (e : SyntaxError) :
    (s.renumber f).note (e.renumber f) = (s.note e).renumber f := by
  cases e with
  | unsupported => exact renumber_record f s _
  | _ => rfl

end Cursor

namespace Context

/-- The context with another number for its last line. -/
def renumber (f : Nat → Nat) (cx : Context) : Context := { cx with endLine := f cx.endLine }

theorem lineAt_renumber (f : Nat → Nat) (cx : Context) (ls : List Lexeme) :
    (cx.renumber f).lineAt (ls.map (Lexeme.renumber f)) = f (cx.lineAt ls) := by
  cases ls <;> rfl

theorem ofBatch_renumber (f : Nat → Nat) (version : Version) {batch : List Lexeme}
    (h : batch ≠ []) :
    ofBatch version (batch.map (Lexeme.renumber f)) = (ofBatch version batch).renumber f := by
  simp [ofBatch, renumber, List.getLast?_eq_some_getLast h]

end Context

theorem Cursor.renumber_noteIif (f : Nat → Nat) (cx : Context) (l : Lexeme) (s : Cursor) :
    (s.renumber f).noteIif (cx.renumber f) (l.renumber f) = (s.noteIif cx l).renumber f := by
  unfold noteIif
  by_cases hsupports : cx.version.supports .iif
  · rw [if_pos hsupports, if_pos (show (cx.renumber f).version.supports .iif from hsupports)]
  · rw [if_neg hsupports, if_neg (show ¬(cx.renumber f).version.supports .iif from hsupports)]
    exact renumber_record f s (.unsupported l.line .iif cx.version)

namespace Parser

theorem skipToStatement_renumber (f : Nat → Nat) : ∀ (d : Nat) (ls : List Lexeme),
    skipToStatement d (ls.map (Lexeme.renumber f)) =
      (skipToStatement d ls).map (Lexeme.renumber f)
  | _, [] => rfl
  | d, l :: ls => by
    simp only [List.map_cons, skipToStatement, Lexeme.isMark_renumber,
      Lexeme.startsStatement_renumber, skipToStatement_renumber f _ ls]
    split
    · rfl
    · split
      · rfl
      · split <;> rfl

theorem recoverFrom_renumber (f : Nat → Nat) (start rest : List Lexeme) :
    recoverFrom (start.map (Lexeme.renumber f)) (rest.map (Lexeme.renumber f)) =
      (recoverFrom start rest).map (Lexeme.renumber f) := by
  unfold recoverFrom
  rw [← skipToStatement_renumber, List.length_map, List.length_map, ← List.map_drop]
  split <;> rfl

end Parser

/-! ## The comparison -/

/-- A run over lexemes beside a run over the same ones with other numbers for their lines. -/
def Coupling.renumbering (f : Nat → Nat) (cx : Context) : Coupling where
  first := cx
  second := cx.renumber f
  line := f
  exact := True
  Step s t := t = s.renumber f
  Opened _ := True
  Fail e s e' t := e' = e.renumber f ∧ t = s.renumber f
  overOnRecord _ := False
  overOnFirst _ := False
  overOnSecond _ := False
  endLine := rfl
  rest := by
    rintro s _ rfl
    rfl
  moveTo := by
    rintro s _ ls rfl -
    rfl
  advance := by
    rintro s _ n rfl
    exact Cursor.renumber_advance f s n
  opened _ _ _ := trivial
  mismatch := by
    rintro e s _ - rfl
    exact ⟨rfl, rfl⟩
  require := by
    rintro g s _ rfl -
    unfold Parser.require
    by_cases hsupports : cx.version.supports g
    · rw [if_pos hsupports, if_pos (show (cx.renumber f).version.supports g from hsupports)]
      exact .ok rfl rfl
    · rw [if_neg hsupports, if_neg (show ¬(cx.renumber f).version.supports g from hsupports)]
      refine .error ⟨?_, rfl⟩
      exact congrArg (SyntaxError.unsupported · g cx.version) (cx.lineAt_renumber f s.rest)

namespace Coupling

open SqlLint.Parser SqlLint.Pairing

variable (f : Nat → Nat) (cx : Context)

/-- The two ways in which an attempt can end. -/
theorem meets_renumbering {α : Type} {L : Link α} {r r'}
    (h : (renumbering f cx).Meets L r r') :
    (∃ a b s, r = .ok a s ∧ r' = .ok b (s.renumber f) ∧ L.Rel a b) ∨
      ∃ e s, r = .error e s ∧ r' = .error (e.renumber f) (s.renumber f) := by
  obtain ⟨a, b, s, _, hr, hr', hab, rfl⟩ | ⟨e, _, s, _, hr, hr', rfl, rfl⟩ :=
    h.both (fun _ => id) (fun _ => id) fun _ => id
  · exact .inl ⟨a, b, s, hr, hr', hab⟩
  · exact .inr ⟨e, s, hr, hr'⟩

theorem attempts_renumbering : (renumbering f cx).Attempts where
  tooDeep := by
    rintro s _ rfl
    exact ⟨congrArg SyntaxError.tooDeep (cx.lineAt_renumber f s.rest), rfl⟩
  iif := by
    rintro s _ l ls rfl - - -
    refine .ok rfl ?_
    exact congrArg (Cursor.moveTo (ls.map (Lexeme.renumber f))) (Cursor.renumber_noteIif f cx l s)
  tried := by
    rintro levels s _ l ls kind found found' hcast rfl - - - hfound
    obtain ⟨e, e', t, hr, hr', he⟩ | ⟨e, t, hr, hr'⟩ := meets_renumbering f cx hcast
    · rw [hr, hr']
      refine .ok (fun _ => ?_) rfl
      rw [he trivial, hfound trivial]
      rfl
    · rw [hr, hr']
      refine .ok hfound ?_
      exact congrArg (Cursor.moveTo (ls.map (Lexeme.renumber f))) (Cursor.renumber_note f t e)
  retried := by
    rintro levels s _ hlist hparen rfl -
    obtain ⟨es, es', t, hr, hr', hes⟩ | ⟨e, t, hr, hr'⟩ := meets_renumbering f cx hlist
    · rw [hr, hr']
      exact .ok hes rfl
    · rw [hr, hr']
      exact hparen.run rfl
  recovered := by
    rintro levels s _ done done' hstatement rfl hdone
    obtain ⟨a, a', t, hr, hr', ha⟩ | ⟨e, t, hr, hr'⟩ := meets_renumbering f cx hstatement
    · rw [hr, hr']
      refine .ok (fun _ => ?_) rfl
      rw [ha trivial, hdone trivial]
      rfl
    · rw [hr, hr']
      refine .ok hdone ?_
      change ((t.renumber f).record (e.renumber f)).moveTo _ = _
      rw [Cursor.renumber_record]
      exact congrArg ((t.record e).renumber f).moveTo (recoverFrom_renumber f s.rest t.rest)

end Coupling

/-! ## Batches -/

/-- **A batch whose lines have other numbers is read in the same way.** -/
theorem parseBatch_renumber (f : Nat → Nat) (version : Version) {batch : List Lexeme}
    (h : batch ≠ []) :
    parseBatch version (batch.map (Lexeme.renumber f)) =
      ((parseBatch version batch).1.map (Statement.renumber f),
        (parseBatch version batch).2.map (SyntaxError.renumber f)) := by
  have hcoupled :=
    (Coupling.attempts_renumbering f (.ofBatch version batch)).coupled_topStatements
  have hmeets := hcoupled.run (rfl : Cursor.renumber f ⟨batch, []⟩ = _)
  have hrun : Parser.topStatements ((Context.ofBatch version batch).renumber f)
      ⟨batch.map (Lexeme.renumber f), []⟩ = _ := rfl
  unfold parseBatch finishBatch
  rw [Context.ofBatch_renumber f version h]
  obtain ⟨ss, ss', t, hr, hr', hss⟩ | ⟨e, t, hr, hr'⟩ :=
    Coupling.meets_renumbering f _ hmeets
  · replace hr : Parser.topStatements (.ofBatch version batch) ⟨batch, []⟩ = .ok ss t := hr
    rw [hr, hrun.trans hr']
    exact Prod.ext (hss trivial) rfl
  · replace hr : Parser.topStatements (.ofBatch version batch) ⟨batch, []⟩ = .error e t := hr
    rw [hr, hrun.trans hr']
    simp [Cursor.renumber]

end SqlLint
