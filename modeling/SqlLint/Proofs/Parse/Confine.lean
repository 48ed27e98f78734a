import SqlLint.Proofs.Parse.Batch
import SqlLint.Proofs.Parse.Carry
import SqlLint.Proofs.Parse.StatementFence

/-!
# A semicolon confines errors

A list of statements that is read up to a semicolon has recovered from whatever went wrong before
it, provided the stretch before the semicolon is one that a `Fence` allows. Every statement of the
stretch ends before the semicolon, in a success as in a failure, and so does the recovery from a
failure: it counts parentheses from where the failure left off, and the parentheses that are closed
from there on are at least as many as those that are opened. The list then passes the semicolon and
goes on behind it.

From there on, what has been read and recorded before is only carried along. The runs over `A; B`
and over `B` alone are in step with each other, one with and one without the statements and errors
of `A;`.

## Main results

* `Fence.exists_steps_behind`: a list of statements comes to the place behind the semicolon, in both
  runs with the same statements and errors
* `Parser.listRound_carry`, `Parser.Steps.carry`: what has been read before is carried along
* `parseBatch_append_semicolon`: a batch with a semicolon in it
-/

namespace SqlLint

namespace Parser

/-- A round of a list as a function of what becomes of its statement. -/
theorem listRound_cons (statement : Parser Statement) (stop : Lexeme → Bool)
    (done : List Statement) {s : Cursor} {l : Lexeme} {ls : List Lexeme} (hs : s.rest = l :: ls) :
    listRound statement stop done s =
      if stop l then .ok none s
      else if l.isMark .semicolon then .ok (some done) (s.moveTo ls)
      else match recovered done (l :: ls) (statement s) with
        | .ok done' t => .ok (some done') t
        | .error e t => .error e t := by
  have hadvance : s.advance 1 = s.moveTo ls :=
    Cursor.advance_of_rest_eq (show s.rest = [l] ++ ls from hs)
  have hitem := listItem_eq statement done hs
  simp only [listRound, bind, EStateM.bind, ahead, hs, ← hadvance, ← hitem]
  split
  · rfl
  · split
    · rfl
    · change EStateM.bind (listItem statement done) _ s = _
      rw [EStateM.bind]
      cases listItem statement done s <;> rfl

end Parser

/-! ## Up to the semicolon -/

namespace Fence

open SqlLint.Parser

variable (f : Fence) {X Y : List Lexeme}

/-- Recovery stops at the semicolon at the latest. -/
theorem skipToStatement_ahead : ∀ (X : List Lexeme) {d : Nat}, openAfter d X = 0 → ∃ Y, Y <:+ X ∧
    skipToStatement d (f.ahead X) = f.ahead Y ∧ skipToStatement d (f.ahead' X) = f.ahead' Y
  | [], d, h => by
    have hd : d = 0 := h
    exact ⟨[], List.suffix_refl _, by simp [skipToStatement, hd], by simp [skipToStatement, hd]⟩
  | l :: X, d, h => by
    have hpast : ∀ {e}, openAfter e X = 0 → ∃ Y, Y <:+ l :: X ∧
        skipToStatement e (f.ahead X) = f.ahead Y ∧
        skipToStatement e (f.ahead' X) = f.ahead' Y := by
      intro e he
      obtain ⟨Y, hY, hfirst, hsecond⟩ := skipToStatement_ahead X he
      exact ⟨Y, hY.trans (List.suffix_cons l X), hfirst, hsecond⟩
    simp only [ahead_cons, ahead'_cons, skipToStatement]
    rw [openAfter] at h
    split at h
    · next hleft =>
      simp only [if_pos hleft]
      exact hpast h
    · next hleft =>
      split at h
      · next hright =>
        simp only [if_neg hleft, if_pos hright]
        exact hpast h
      · next hright =>
        simp only [if_neg hleft, if_neg hright]
        split
        · exact ⟨l :: X, List.suffix_refl _, rfl, rfl⟩
        · exact hpast h

/-- Recovery from a failure inside the stretch passes the first lexeme and stays in the stretch. -/
theorem recoverFrom_ahead {l : Lexeme} (hinside : l :: X <:+ f.inside) (hY : Y <:+ l :: X) :
    ∃ Z, Z <:+ X ∧ recoverFrom (f.ahead (l :: X)) (f.ahead Y) = f.ahead Z ∧
      recoverFrom (f.ahead' (l :: X)) (f.ahead' Y) = f.ahead' Z := by
  have hlength : (f.ahead Y).length < (f.ahead (l :: X)).length ↔ Y.length < (l :: X).length := by
    rw [length_ahead, length_ahead]
    omega
  have hlength' : (f.ahead' Y).length < (f.ahead' (l :: X)).length ↔
      Y.length < (l :: X).length := by
    rw [length_ahead', length_ahead']
    omega
  have hgo : ∀ {W}, W <:+ X → ∃ Z, Z <:+ X ∧ skipToStatement 0 (f.ahead W) = f.ahead Z ∧
      skipToStatement 0 (f.ahead' W) = f.ahead' Z := by
    intro W hW
    have hclosed := f.closed_of_suffix ((hW.trans (List.suffix_cons l X)).trans hinside)
    obtain ⟨Z, hZ, hfirst, hsecond⟩ := f.skipToStatement_ahead W hclosed
    exact ⟨Z, hZ.trans hW, hfirst, hsecond⟩
  simp only [recoverFrom, hlength, hlength']
  split
  · next hlt =>
    rcases List.suffix_cons_iff.1 hY with rfl | hY
    · exact absurd hlt (Nat.lt_irrefl _)
    · exact hgo hY
  · exact hgo (List.suffix_refl X)

theorem runs_listItem {l : Lexeme} (levels : Nat) (done : List Statement) :
    f.Runs (l :: X) (listItem (statement f.first levels) done)
      (listItem (statement f.second levels) done) fun _ Y => Y <:+ X := by
  intro hinside s t hst
  rw [listItem_eq _ done (hst.rest.trans (f.ahead_cons l X)),
    listItem_eq _ done (hst.rest'.trans (f.ahead'_cons l X)), ← f.ahead_cons, ← f.ahead'_cons]
  obtain ⟨a, u, v, Y, hrun, hrun', hY, -, huv⟩ | ⟨e, u, v, Y, hrun, hrun', hY, huv⟩ :=
    (f.runs_statement l X levels hinside s t hst).both
  · rw [hrun, hrun']
    refine .ok hY ?_ huv
    -- A statement that succeeds has passed its first lexeme.
    have hlt := ((ends_statement f.first levels s).ok hrun).progress (by simp [hst.rest])
    rw [huv.rest, hst.rest] at hlt
    rcases List.suffix_cons_iff.1 hY with rfl | hY
    · exact absurd hlt (Nat.lt_irrefl _)
    · exact hY
  · obtain ⟨Z, hZ, hfirst, hsecond⟩ := f.recoverFrom_ahead hinside hY
    rw [hrun, hrun', recovered, recovered, huv.rest, huv.rest', hfirst, hsecond]
    exact .ok (hZ.trans (List.suffix_cons l X)) hZ ((huv.record e).moveTo Z)

variable {stop stop' : Lexeme → Bool}

/-- A round of a list passes at least one lexeme of the stretch. -/
theorem runs_listRound {l : Lexeme} (hstop : stop l = false) (hstop' : stop' l = false)
    (levels : Nat) (done : List Statement) :
    f.Runs (l :: X) (listRound (statement f.first levels) stop done)
      (listRound (statement f.second levels) stop' done)
      fun o Y => o.isSome ∧ Y <:+ X := by
  refine runs_bind_ahead ?_
  simp only [ahead_cons, ahead'_cons, hstop, hstop', Bool.false_eq_true, if_false]
  split
  · exact runs_bind_advance_one (runs_pure ⟨rfl, List.suffix_refl X⟩)
  · exact (f.runs_listItem levels done).bind fun done Y _ hY => runs_pure ⟨rfl, hY⟩

/-- A list that does not stop at the semicolon passes it. -/
theorem listRound_semicolon {statement : Parser Statement} (hstop : stop f.semicolon = false)
    {ls : List Lexeme} {s : Cursor} (hs : s.rest = f.semicolon :: ls) (done : List Statement) :
    listRound statement stop done s = .ok (some done) (s.moveTo ls) := by
  rw [listRound_cons _ _ _ hs, if_neg (by simp [hstop]), if_pos f.isSemicolon]

/-- **Lists of statements come to the place behind the semicolon**, or to a lexeme of the stretch
before which one of them stops, with the same statements and errors in both runs, whatever they met
before. -/
theorem exists_steps_behind (stop stop' : Lexeme → Bool) (hstop : stop f.semicolon = false)
    (hstop' : stop' f.semicolon = false) (levels : Nat) :
    ∀ (X : List Lexeme) (done : List Statement) (s t : Cursor), X <:+ f.inside →
      f.At X s t → ∃ done' s' t',
        Steps (listRound (statement f.first levels) stop) done s done' s' ∧
        Steps (listRound (statement f.second levels) stop') done t done' t' ∧
        t'.errors = s'.errors ∧
        (s'.rest = f.behind ∧ t'.rest = f.behind' ∨
          ∃ l Y, l :: Y <:+ f.inside ∧ f.At (l :: Y) s' t' ∧ (stop l ∨ stop' l)) := by
  intro X
  induction hn : X.length using Nat.strongRecOn generalizing X with
  | ind n ih =>
    intro done s t hX hst
    cases X with
    | nil =>
      refine ⟨done, s.moveTo f.behind, t.moveTo f.behind', ?_, ?_, hst.errors, .inl ⟨rfl, rfl⟩⟩
      · refine .cons (f.listRound_semicolon hstop hst.rest done) ?_ (.refl _ _)
        simp [hst.rest]
      · refine .cons (f.listRound_semicolon hstop' hst.rest' done) ?_ (.refl _ _)
        simp [hst.rest']
    | cons l X =>
      by_cases hl : stop l ∨ stop' l
      · exact ⟨done, s, t, .refl _ _, .refl _ _, hst.errors, .inr ⟨l, X, hX, hst, hl⟩⟩
      · rw [not_or, Bool.not_eq_true, Bool.not_eq_true] at hl
        obtain ⟨o, u, v, Y, hr, hr', -, ⟨ho, hY⟩, huv⟩ | ⟨e, u, v, Y, hr, hr', hY, huv⟩ :=
          (f.runs_listRound (X := X) hl.1 hl.2 levels done hX s t hst).both
        · obtain ⟨next, rfl⟩ := Option.isSome_iff_exists.1 ho
          have hlt : Y.length < (l :: X).length := Nat.lt_succ_of_le hY.length_le
          obtain ⟨done', s', t', hsteps, hsteps', hend⟩ := ih Y.length (hn ▸ hlt) Y rfl next u v
            (hY.trans ((List.suffix_cons l X).trans hX)) huv
          refine ⟨done', s', t', .cons hr ?_ hsteps, .cons hr' ?_ hsteps', hend⟩
          · rw [huv.rest, hst.rest, length_ahead, length_ahead]
            omega
          · rw [huv.rest', hst.rest', length_ahead', length_ahead']
            omega
        · exact ((ends_listRound (ends_statement f.first levels) stop done s).error hr).elim

end Fence

/-! ## Behind the semicolon -/

namespace Parser

/-- Statements that have been read before come behind those that are read now, the last one first
in both. -/
theorem listRound_carry (cx : Context) (levels : Nat) (stop : Lexeme → Bool) (base s : Cursor)
    (old done : List Statement) {next : List Statement} {t : Cursor}
    (h : listRound (statement cx levels) stop done s = .ok (some next) t) :
    listRound (statement cx levels) stop (done ++ old) (base.carry s) =
      .ok (some (next ++ old)) (base.carry t) := by
  cases hs : s.rest with
  | nil => simp [listRound, bind, EStateM.bind, ahead, hs, pure, EStateM.pure] at h
  | cons l ls =>
    rw [listRound_cons _ _ _ hs] at h
    rw [listRound_cons _ _ _ ((base.rest_carry s).trans hs), statement_carry]
    split at h
    · cases h
    · next hstop =>
      rw [if_neg hstop]
      split at h
      · next hsemicolon =>
        rw [if_pos hsemicolon]
        cases h
        rfl
      · next hsemicolon =>
        rw [if_neg hsemicolon]
        cases hr : statement cx levels s with
        | ok a u =>
          rw [hr] at h
          cases h
          rfl
        | error e u =>
          rw [hr] at h
          cases h
          rw [carried, recovered, Cursor.carry_record]
          rfl

theorem Steps.carry {cx : Context} {levels : Nat} {stop : Lexeme → Bool} (base : Cursor)
    (old : List Statement) {done done' : List Statement} {s t : Cursor}
    (h : Steps (listRound (statement cx levels) stop) done s done' t) :
    Steps (listRound (statement cx levels) stop) (done ++ old) (base.carry s) (done' ++ old)
      (base.carry t) := by
  induction h with
  | refl => exact .refl _ _
  | cons hround hlt _ ih => exact .cons (listRound_carry cx levels stop base _ old _ hround) hlt ih

/-- A list gives what its rounds have led to where the next one gives nothing. -/
theorem Steps.statementList_eq {statement : Parser Statement} {stop : Lexeme → Bool} {s t : Cursor}
    {done : List Statement} (h : Steps (listRound statement stop) [] s done t)
    (hlast : listRound statement stop done t = .ok none t) :
    statementList statement stop s = .ok done.reverse t := by
  change EStateM.bind (repeatWhile _ []) _ s = _
  rw [EStateM.bind, h.repeatWhile_eq hlast]
  rfl

/-- The rounds of a list that never stops lead to the end of the batch. -/
theorem exists_steps_end (cx : Context) (levels : Nat) (s : Cursor) :
    ∃ done t, Steps (listRound (statement cx levels) fun _ => false) [] s done t ∧ t.rest = [] := by
  have hround := ends_listRound (ends_statement cx levels) fun _ => false
  obtain ⟨done, t, hsteps, hlast⟩ := exists_steps (fun done s => (hround done s).mono
    (fun o t ho => by
      cases o with
      | none => exact ho.1
      | some next => exact ho.1.1) fun _ _ h => h) [] s
  refine ⟨done, t, hsteps, ?_⟩
  have hstop := ((hround done t).ok hlast).2 rfl
  cases hrest : t.rest with
  | nil => rfl
  | cons l ls => simp [hrest] at hstop

end Parser

/-! ## Batches -/

theorem parseBatch_eq {version : Version} {batch : List Lexeme} {done : List Statement} {t : Cursor}
    (h : Parser.Steps (Parser.listRound (Parser.topStatement (.ofBatch version batch))
      fun _ => false) [] ⟨batch, []⟩ done t) (ht : t.rest = []) :
    parseBatch version batch = (done.reverse, t.errors) := by
  rw [parseBatch, finishBatch, Parser.topStatements,
    h.statementList_eq (Parser.listRound_nil _ _ done ht)]

/-- **A semicolon confines errors.** If every parenthesis of `A` is closed in `A` and none of the
key words `BEGIN`, `IF`, `WHILE`, `CREATE`, `ALTER` and `COLLATE` stands in it, then a batch that
begins with `A` and a semicolon is read as two batches would be, the first one ending with the
semicolon, however malformed `A` is. The rest of the batch must not begin with a number, which
could be that of a procedure in its group. -/
theorem parseBatch_append_semicolon (version : Version) {A : List Lexeme} {semicolon : Lexeme}
    {B : List Lexeme} (hclosed : Parser.openAfter 0 A = 0)
    (hplain : ∀ l ∈ A, ¬l.keyword?.any Keyword.reachesOut)
    (hsemicolon : semicolon.isMark .semicolon) (hnumber : B.head?.any Lexeme.isNumber = false) :
    parseBatch version (A ++ semicolon :: B) =
      ((parseBatch version (A ++ [semicolon])).1 ++ (parseBatch version B).1,
        (parseBatch version (A ++ [semicolon])).2 ++ (parseBatch version B).2) := by
  cases B with
  | nil =>
    have hempty : parseBatch version [] = ([], []) := rfl
    rw [hempty, List.append_nil, List.append_nil]
  | cons l B =>
    have hcx : Context.ofBatch version (A ++ semicolon :: l :: B) =
        Context.ofBatch version (l :: B) := by
      have hlast := List.getLast?_eq_some_getLast (List.cons_ne_nil l B)
      simp [Context.ofBatch, hlast]
    let f : Fence :=
      { first := .ofBatch version (A ++ [semicolon]), second := .ofBatch version (l :: B)
        inside := A, semicolon, behind := [], behind' := l :: B, version := rfl, closed := hclosed
        plain := hplain, isSemicolon := hsemicolon, noNumber := rfl, noNumber' := hnumber }
    obtain ⟨done, s, t, hsteps, hsteps', herrors, hend⟩ :=
      f.exists_steps_behind (fun _ => false) (fun _ => false) rfl rfl maxDepth A []
        ⟨A ++ [semicolon], []⟩ ⟨A ++ semicolon :: l :: B, []⟩ (List.suffix_refl A) ⟨rfl, rfl, rfl⟩
    obtain ⟨hs, ht⟩ : s.rest = [] ∧ t.rest = l :: B := by
      rcases hend with hbehind | ⟨k, Y, -, -, hstop⟩
      · exact hbehind
      · simp at hstop
    obtain ⟨rest, u, hrest, hu⟩ :=
      Parser.exists_steps_end (.ofBatch version (l :: B)) maxDepth ⟨l :: B, []⟩
    have hcarry := hrest.carry t done
    rw [List.nil_append, t.carry_start ht] at hcarry
    have hwhole : Parser.Steps (Parser.listRound (Parser.topStatement (.ofBatch version
        (A ++ semicolon :: l :: B))) fun _ => false) [] ⟨A ++ semicolon :: l :: B, []⟩
        (rest ++ done) (t.carry u) := by
      rw [hcx]
      exact hsteps'.trans hcarry
    rw [parseBatch_eq hsteps hs, parseBatch_eq hrest hu, parseBatch_eq hwhole hu]
    simp [Cursor.carry, herrors]

/-- What is read behind `SET @a = (1 +);` does not depend on the error in it. -/
theorem parseBatch_unfinished_sum_semicolon :
    let sum : List Lexeme := [⟨.word "SET" none, 1, true⟩, ⟨.word "@a" none, 1, false⟩,
      ⟨.mark .eq, 1, false⟩, ⟨.mark .leftParen, 1, false⟩, ⟨.number "1" false, 1, false⟩,
      ⟨.mark .plus, 1, false⟩, ⟨.mark .rightParen, 1, false⟩]
    let semicolon : Lexeme := ⟨.mark .semicolon, 1, false⟩
    let rest : List Lexeme := [⟨.word "RETURN" none, 2, true⟩, ⟨.number "2" false, 2, false⟩]
    parseBatch .sql2014 (sum ++ semicolon :: rest) =
      ([.returns (some (.number "2"))], [.unexpected 1 (.mark .rightParen)]) := by
  intro sum semicolon rest
  have hsemicolon : semicolon.isMark .semicolon := by decide
  exact parseBatch_append_semicolon .sql2014 (A := sum) (B := rest)
    (by decide) (by decide) hsemicolon (by decide)

end SqlLint
