import SqlLint.Parse.Script
import SqlLint.Proofs.Parse.Parenthesis
import SqlLint.Proofs.Parse.StatementKeep

/-!
# What an expression passes

Between the cursor where a reader starts and the one where it ends lies a list of lexemes. Two
questions are asked about that list. Are the variables in it those of the tree, all of them and in
their order? And are the parentheses in it closed?

Both are answered by the walk that the reader has made, so nothing here looks at a reader again. A
walk keeps every variable that it passes, and it counts every parenthesis, with one exception each:
the name of a collation is passed whatever it is.

## What collations do

A variable as the name of a collation is dropped. With a parenthesis there the count goes wrong, and
the two kinds of parentheses do it differently. An opening one is never closed, so that the lexemes
passed have one too many; but no beginning of them closes more than it opens. A closing one belongs
to somebody else: the expression `@a COLLATE )` takes away the parenthesis that closes what is
around it.

## The end of the batch

A scan that does not find the closing parenthesis stops with the batch. The parentheses of an
expression are therefore all closed if something lies ahead of it.

## Main results

* `Walk.vars_eq`: the variables kept are those passed
* `Walk.marks_right_le`, `Walk.marks_left_eq`: the parentheses passed
* `variables_passed`: the variables of expressions and fragments
* `expr_closes_parens`: the parentheses of expressions
-/

namespace SqlLint

/-- The way from `s` to `t` leads over the lexemes `ls`, all of which are there. -/
structure Cursor.Passed (ls : List Lexeme) (s t : Cursor) : Prop where
  rest : s.rest = ls ++ t.rest
  overrun : t.overrun = s.overrun

theorem Cursor.Passed.cons {ls rest : List Lexeme} {l : Lexeme} {s t : Cursor}
    (h : Cursor.Passed ls (s.moveTo rest) t) (hs : s.rest = l :: rest) : s.Passed (l :: ls) t :=
  ⟨by rw [hs, List.cons_append, ← h.rest, Cursor.rest_moveTo], h.overrun⟩

/-! ## Variables -/

/-- The variables in a list of lexemes, in their order. -/
def variablesIn (ls : List Lexeme) : List Variable := ls.filterMap Lexeme.variableHere?

@[simp] theorem variablesIn_append (ls ms : List Lexeme) :
    variablesIn (ls ++ ms) = variablesIn ls ++ variablesIn ms :=
  List.filterMap_append

theorem variablesIn_singleton {l : Lexeme} (h : l.variableHere? = none) : variablesIn [l] = [] := by
  rw [variablesIn, List.filterMap_cons, h, List.filterMap_nil]

namespace Walk

variable {d : Nat} {ls : List Lexeme} {vs : List Variable}

/-- A walk keeps all the variables that it passes, if none of them is the name of a collation. -/
theorem vars_eq (h : Walk d ls vs) :
    CollationsAre (fun l => l.variableHere? = none) ls → vs = variablesIn ls := by
  induction h with
  | start => exact fun _ => rfl
  | skip _ hl ih =>
    intro hls
    rw [variablesIn_append, variablesIn_singleton hl.noVariable, List.append_nil]
    exact ih hls.of_append_left
  | @keep _ _ _ l v _ hv ih =>
    intro hls
    have hone : variablesIn [l] = [v] := by
      rw [variablesIn, List.filterMap_cons, hv, List.filterMap_nil]
    rw [variablesIn_append, hone, ← ih hls.of_append_left]
  | opening _ hl ih =>
    intro hls
    rw [variablesIn_append, variablesIn_singleton (Lexeme.variableHere?_of_isMark hl),
      List.append_nil]
    exact ih hls.of_append_left
  | closing _ hl ih =>
    intro hls
    rw [variablesIn_append, variablesIn_singleton (Lexeme.variableHere?_of_isMark hl),
      List.append_nil]
    exact ih hls.of_append_left
  | @collation _ ls _ k l _ hk ih =>
    intro hls
    have hname : l.variableHere? = none := hls k l [] (List.suffix_append ls [k, l]) hk
    have hpair : variablesIn ([k] ++ [l]) = [] := by
      rw [variablesIn_append, variablesIn_singleton hname,
        variablesIn_singleton (Lexeme.isPlain_of_isKeyword hk).noVariable, List.append_nil]
    rw [variablesIn_append, show [k, l] = [k] ++ [l] from rfl, hpair, List.append_nil]
    exact ih hls.of_append_left

end Walk

/-! ## Parentheses -/

/-- How often a mark stands in a list of lexemes. -/
def marks (m : Mark) (ls : List Lexeme) : Nat := ls.countP (Lexeme.isMark m)

@[simp] theorem marks_append (m : Mark) (ls ms : List Lexeme) :
    marks m (ls ++ ms) = marks m ls + marks m ms :=
  List.countP_append

theorem marks_singleton_of_not {m : Mark} {l : Lexeme} (h : l.isMark m = false) :
    marks m [l] = 0 := by
  simp [marks, h]

theorem marks_concat {m : Mark} {l : Lexeme} (ls : List Lexeme) (h : l.isMark m) :
    marks m (ls ++ [l]) = marks m ls + 1 := by
  simp [marks, h]

theorem marks_concat_of_not {m : Mark} {l : Lexeme} (ls : List Lexeme) (h : l.isMark m = false) :
    marks m (ls ++ [l]) = marks m ls := by
  rw [marks_append, marks_singleton_of_not h, Nat.add_zero]

namespace Walk

variable {d : Nat} {ls : List Lexeme} {vs : List Variable}

/-- Every beginning of a walk is a walk. One that ends between a `COLLATE` and the name behind it
has passed the `COLLATE` like any other word. -/
theorem beginning (h : Walk d ls vs) : ∀ ms, ms <+: ls → ∃ e ws, Walk e ms ws := by
  -- a list that is one lexeme longer has one more beginning, the list itself
  have hlonger : ∀ {e ls l ws}, (∀ ms, ms <+: ls → ∃ e ws, Walk e ms ws) → Walk e (ls ++ [l]) ws →
      ∀ ms, ms <+: ls ++ [l] → ∃ e ws, Walk e ms ws := by
    intro e ls l ws hshort hwalk ms hms
    rcases List.prefix_concat_iff.1 hms with rfl | hms
    · exact ⟨e, ws, hwalk⟩
    · exact hshort ms hms
  induction h with
  | start =>
    intro ms hms
    rw [List.prefix_nil.1 hms]
    exact ⟨0, [], .start⟩
  | skip hwalk hl ih => exact hlonger ih (hwalk.skip hl)
  | keep hwalk hv ih => exact hlonger ih (hwalk.keep hv)
  | opening hwalk hl ih => exact hlonger ih (hwalk.opening hl)
  | closing hwalk hl ih => exact hlonger ih (hwalk.closing hl)
  | @collation _ ls _ k l hwalk hk ih =>
    have hsplit : ls ++ [k, l] = (ls ++ [k]) ++ [l] := by simp
    have hword := hlonger ih (hwalk.skip (Lexeme.isPlain_of_isKeyword hk))
    have hwhole := hwalk.collation (l := l) hk
    rw [hsplit] at hwhole ⊢
    exact hlonger hword hwhole

/-- A walk opens the parentheses that it closes and those that it leaves open, up to those that it
passes as names of collations. -/
theorem exists_strays (h : Walk d ls vs) :
    ∃ stray : Mark → Nat,
      marks .leftParen ls + stray .rightParen = d + marks .rightParen ls + stray .leftParen ∧
      ∀ m, CollationsAre (fun l => l.isMark m = false) ls → stray m = 0 := by
  induction h with
  | start => exact ⟨fun _ => 0, rfl, fun _ _ => rfl⟩
  | skip _ hl ih =>
    obtain ⟨stray, hcount, hstray⟩ := ih
    refine ⟨stray, ?_, fun m hls => hstray m hls.of_append_left⟩
    rw [marks_concat_of_not _ hl.noLeft, marks_concat_of_not _ hl.noRight]
    exact hcount
  | keep _ hv ih =>
    obtain ⟨stray, hcount, hstray⟩ := ih
    have hparen := Lexeme.noParen_of_variableHere? hv
    refine ⟨stray, ?_, fun m hls => hstray m hls.of_append_left⟩
    rw [marks_concat_of_not _ hparen.1, marks_concat_of_not _ hparen.2]
    exact hcount
  | @opening _ _ _ l _ hl ih =>
    obtain ⟨stray, hcount, hstray⟩ := ih
    have hright : l.isMark .rightParen = false := by simp_all [Lexeme.isMark]
    refine ⟨stray, ?_, fun m hls => hstray m hls.of_append_left⟩
    rw [marks_concat _ hl, marks_concat_of_not _ hright]
    omega
  | closing _ hl ih =>
    obtain ⟨stray, hcount, hstray⟩ := ih
    refine ⟨stray, ?_, fun m hls => hstray m hls.of_append_left⟩
    rw [marks_concat_of_not _ (Parser.not_isMark_left hl), marks_concat _ hl]
    omega
  | @collation _ ls _ k l _ hk ih =>
    obtain ⟨stray, hcount, hstray⟩ := ih
    have hplain := Lexeme.isPlain_of_isKeyword hk
    have hpair : ∀ m, k.isMark m = false → marks m (ls ++ [k, l]) = marks m ls + marks m [l] := by
      intro m hm
      rw [show ls ++ [k, l] = (ls ++ [k]) ++ [l] by simp, marks_append, marks_concat_of_not ls hm]
    refine ⟨fun m => stray m + marks m [l], ?_, fun m hls => ?_⟩
    · rw [hpair _ hplain.noLeft, hpair _ hplain.noRight]
      dsimp only
      omega
    · have hname : l.isMark m = false := hls k l [] (List.suffix_append ls [k, l]) hk
      show stray m + marks m [l] = 0
      rw [hstray m hls.of_append_left, marks_singleton_of_not hname]

/-- If no collation is a closing parenthesis, no beginning of a walk closes more than it opens. -/
theorem marks_right_le (h : Walk d ls vs)
    (hls : CollationsAre (fun l => l.isMark .rightParen = false) ls) {ms : List Lexeme}
    (hms : ms <+: ls) : marks .rightParen ms ≤ marks .leftParen ms := by
  obtain ⟨e, ws, hwalk⟩ := h.beginning ms hms
  obtain ⟨stray, hcount, hstray⟩ := hwalk.exists_strays
  obtain ⟨rest, rfl⟩ := hms
  have hnone := hstray .rightParen hls.of_append_left
  omega

/-- If no collation is a parenthesis, a walk opens exactly the parentheses that it closes and those
that it leaves open. -/
theorem marks_left_eq (h : Walk d ls vs) (hls : CollationsAre Lexeme.NoParen ls) :
    marks .leftParen ls = d + marks .rightParen ls := by
  obtain ⟨stray, hcount, hstray⟩ := h.exists_strays
  have hleft := hstray .leftParen (hls.mono fun _ hl => hl.1)
  have hright := hstray .rightParen (hls.mono fun _ hl => hl.2)
  omega

end Walk

/-! ## Expressions and fragments -/

namespace Cursor

variable {n : Nat} {vs : List Variable} {s t : Cursor}

theorem Walks.passed (h : s.Walks n vs t) :
    ∃ d ls, s.Passed ls t ∧ Walk d ls vs ∧ (d = n ∨ t.rest = []) := by
  obtain ⟨d, ls, hls, hwalk, hd⟩ := h.walk
  exact ⟨d, ls, ⟨hls, h.overrun⟩, hwalk, hd⟩

/-- The variables kept on the way are all that lie on it. -/
theorem Walks.exists_passed (h : s.Walks n vs t)
    (hs : CollationsAre (fun l => l.variableHere? = none) s.rest) :
    ∃ ls, s.Passed ls t ∧ vs = variablesIn ls := by
  obtain ⟨d, ls, hpassed, hwalk, -⟩ := h.passed
  rw [hpassed.rest] at hs
  exact ⟨ls, hpassed, hwalk.vars_eq hs.of_append_left⟩

end Cursor

namespace Parser

section

variable (cx : Context) (levels : Nat)

/-- The scan behind an opening parenthesis does not fail, and its variables are those passed. The
walk is that of the parenthesis and of what follows it, so the parenthesis is put back in front. -/
theorem ends_parenFragment_passed {s : Cursor}
    (hs : CollationsAre (fun l => l.variableHere? = none) s.rest) :
    Ends (parenFragment cx (expr cx levels)) s
      (fun items t => ∃ ls, s.Passed ls t ∧ Expr.listVars items = variablesIn ls)
      fun _ _ => False := by
  let paren : Lexeme := ⟨.mark .leftParen, 0, false⟩
  have hopen : (s.moveTo (paren :: s.rest)).Walks 1 [] s :=
    (Cursor.Walks.refl (s.moveTo (paren :: s.rest))).opening rfl (by decide)
  have hreads := reads_expr cx levels
  refine ((ends_parenFragment cx hreads hopen).and ((closes_parenFragment cx hreads).stays s)).mono
    (fun items t ht => ?_) fun _ _ h => h.1
  obtain ⟨hwalks, hreach⟩ := ht
  obtain ⟨d, ls, hpassed, hwalk, -⟩ := Cursor.Walks.passed hwalks
  obtain ⟨ms, hms⟩ := hreach.suffix
  obtain rfl : paren :: ms = ls := by
    have hboth : paren :: ms ++ t.rest = ls ++ t.rest := by
      rw [← hpassed.rest, List.cons_append, hms]
      rfl
    exact List.append_cancel_right hboth
  refine ⟨ms, ⟨hms.symm, hreach.overrun⟩, ?_⟩
  rw [← hms] at hs
  exact (hwalk.vars_eq (hs.of_append_left.cons rfl)).trans (variablesIn_append [paren] ms)

/-- The scan of an unmodelled statement does not fail, and its variables are those passed. Its
first lexeme is kept if it is a variable; the rest of it is walked over. -/
theorem ends_fragment_passed {s : Cursor}
    (hs : CollationsAre (fun l => l.variableHere? = none) s.rest) :
    Ends (fragment cx (expr cx levels)) s
      (fun items t => ∃ ls, s.Passed ls t ∧ Expr.listVars items = variablesIn ls)
      fun _ _ => False := by
  rw [fragment, ends_bind, ends_ahead]
  cases hrest : s.rest with
  | nil => exact ⟨[], ⟨rfl, rfl⟩, rfl⟩
  | cons l rest =>
    rw [hrest] at hs
    have hfirst : Expr.listVars (l.variableHere?.map Expr.var).toList = variablesIn [l] := by
      cases hv : l.variableHere? with
      | none => exact (variablesIn_singleton hv).symm
      | some v => simp [variablesIn, hv, Expr.listVars, Expr.vars]
    simp only
    rw [ends_bind, ends_advance_one hrest, ends_bind]
    refine (ends_fragmentTail cx (reads_expr cx levels) _ (s.moveTo rest)).mono
      (fun items t ht => ?_) fun _ _ h => h
    obtain ⟨ls, hpassed, hvars⟩ := ht.exists_passed hs.tail
    refine ⟨l :: ls, hpassed.cons hrest, ?_⟩
    rw [Expr.listVars_append, hfirst, hvars]
    exact (variablesIn_append [l] ls).symm

end

/-- **No variable is lost.**

If no variable is the name of a collation, the variables of an expression that is read are those of
the lexemes it has passed, all of them and in their order, whether they were read or scanned. The
same holds of the two scans, which never fail. -/
theorem variables_passed (cx : Context) (levels : Nat) {s : Cursor}
    (hs : CollationsAre (fun l => l.variableHere? = none) s.rest) :
    (∀ minPower e t, expr cx levels minPower s = .ok e t →
      ∃ ls, s.Passed ls t ∧ e.vars = variablesIn ls) ∧
    (∃ items t ls, fragment cx (expr cx levels) s = .ok items t ∧
      s.Passed ls t ∧ Expr.listVars items = variablesIn ls) ∧
    ∃ items t ls, parenFragment cx (expr cx levels) s = .ok items t ∧
      s.Passed ls t ∧ Expr.listVars items = variablesIn ls := by
  refine ⟨fun minPower e t hrun => ?_, ?_, ?_⟩
  · exact ((reads_expr cx levels minPower s).ok hrun).exists_passed hs
  · obtain ⟨items, t, hrun, ls, hpassed, hvars⟩ :=
      (ends_fragment_passed cx levels hs).exists_ok
    exact ⟨items, t, ls, hrun, hpassed, hvars⟩
  · obtain ⟨items, t, hrun, ls, hpassed, hvars⟩ :=
      (ends_parenFragment_passed cx levels hs).exists_ok
    exact ⟨items, t, ls, hrun, hpassed, hvars⟩

/-- `f(DISTINCT @a, CAST(@b AS)) + CASE WHEN @c COLLATE d IN (SELECT CAST(@e AS int)) THEN 1 END`:
arguments that are scanned with a cast that is scanned, and a query with a cast that is read. -/
theorem variables_passed_rescanned :
    let ls : List Lexeme := [⟨.word "f" none, 1, true⟩, ⟨.mark .leftParen, 1, false⟩,
      ⟨.word "DISTINCT" none, 1, false⟩, ⟨.word "@a" none, 1, false⟩, ⟨.mark .comma, 1, false⟩,
      ⟨.word "CAST" none, 1, false⟩, ⟨.mark .leftParen, 1, false⟩, ⟨.word "@b" none, 1, false⟩,
      ⟨.word "AS" none, 1, false⟩, ⟨.mark .rightParen, 1, false⟩, ⟨.mark .rightParen, 1, false⟩,
      ⟨.mark .plus, 1, false⟩, ⟨.word "CASE" none, 1, false⟩, ⟨.word "WHEN" none, 1, false⟩,
      ⟨.word "@c" none, 1, false⟩, ⟨.word "COLLATE" none, 1, false⟩, ⟨.word "d" none, 1, false⟩,
      ⟨.word "IN" none, 1, false⟩, ⟨.mark .leftParen, 1, false⟩, ⟨.word "SELECT" none, 1, false⟩,
      ⟨.word "CAST" none, 1, false⟩, ⟨.mark .leftParen, 1, false⟩, ⟨.word "@e" none, 1, false⟩,
      ⟨.word "AS" none, 1, false⟩, ⟨.word "int" none, 1, false⟩, ⟨.mark .rightParen, 1, false⟩,
      ⟨.mark .rightParen, 1, false⟩, ⟨.word "THEN" none, 1, false⟩, ⟨.number "1" false, 1, false⟩,
      ⟨.word "END" none, 1, false⟩]
    ∃ e, expr ⟨.sql2000, 1⟩ 8 0 ⟨ls, []⟩ = .ok e ⟨([] : List Lexeme), []⟩ ∧
      (∃ passed, Cursor.Passed passed ⟨ls, []⟩ ⟨([] : List Lexeme), []⟩ ∧
        e.vars = variablesIn passed) ∧
      e.vars = [⟨"@a", 1⟩, ⟨"@b", 1⟩, ⟨"@c", 1⟩, ⟨"@e", 1⟩] := by
  intro ls
  have hread : expr ⟨.sql2000, 1⟩ 8 0 ⟨ls, []⟩ = .ok _ ⟨([] : List Lexeme), []⟩ := rfl
  have hls : CollationsAre (fun l => l.variableHere? = none) ls := by decide
  exact ⟨_, hread, (variables_passed ⟨.sql2000, 1⟩ 8 (s := ⟨ls, []⟩) hls).1 0 _ _ hread, rfl⟩

/-! ## Parentheses of expressions -/

/-- **An expression closes the parentheses that it opens**, and no others.

If no collation is a closing parenthesis, no beginning of what an expression has passed closes more
parentheses than it opens. If none is a parenthesis at all, what has been passed opens as many as it
closes, unless the expression ends with the batch. -/
theorem expr_closes_parens (cx : Context) {levels minPower : Nat} {s t : Cursor} {e : Expr}
    (hrun : expr cx levels minPower s = .ok e t) :
    ∃ ls, s.Passed ls t ∧
      (CollationsAre (fun l => l.isMark .rightParen = false) ls →
        ∀ ms, ms <+: ls → marks .rightParen ms ≤ marks .leftParen ms) ∧
      (CollationsAre Lexeme.NoParen ls → t.rest ≠ [] →
        marks .rightParen ls = marks .leftParen ls) := by
  have hwalks := (reads_expr cx levels minPower s).ok hrun
  obtain ⟨d, ls, hpassed, hwalk, hd⟩ := Cursor.Walks.passed hwalks
  refine ⟨ls, hpassed, fun hls ms hms => hwalk.marks_right_le hls hms, fun hls ht => ?_⟩
  rw [hwalk.marks_left_eq hls, hd.resolve_right ht, Nat.zero_add]

/-- `(f(@a) COLLATE b) )`: the last parenthesis is left to whoever opened it. -/
theorem expr_closes_parens_call :
    let ls : List Lexeme := [⟨.mark .leftParen, 1, true⟩, ⟨.word "f" none, 1, false⟩,
      ⟨.mark .leftParen, 1, false⟩, ⟨.word "@a" none, 1, false⟩, ⟨.mark .rightParen, 1, false⟩,
      ⟨.word "COLLATE" none, 1, false⟩, ⟨.word "b" none, 1, false⟩, ⟨.mark .rightParen, 1, false⟩]
    let rest : List Lexeme := [⟨.mark .rightParen, 1, false⟩]
    (∃ e, expr ⟨.sql2000, 1⟩ 8 0 ⟨ls ++ rest, []⟩ = .ok e ⟨rest, []⟩) ∧
      (∀ ms, ms <+: ls → marks .rightParen ms ≤ marks .leftParen ms) ∧
      marks .rightParen ls = marks .leftParen ls := by
  intro ls rest
  have hread : expr ⟨.sql2000, 1⟩ 8 0 ⟨ls ++ rest, []⟩ = .ok _ ⟨rest, []⟩ := rfl
  obtain ⟨passed, hpassed, hright, hequal⟩ := expr_closes_parens ⟨.sql2000, 1⟩ hread
  have hboth : ls ++ rest = passed ++ rest := hpassed.rest
  obtain rfl : ls = passed := List.append_cancel_right hboth
  exact ⟨⟨_, hread⟩, hright (by decide), hequal (by decide) (by decide)⟩

/-- An expression can take a parenthesis away from what is around it: `@a COLLATE )` is read to its
end, the closing parenthesis being the name of the collation. -/
theorem not_expr_closes_parens :
    ¬∀ (version : Version) (batch : List Lexeme) (i depth : Nat) (e : Expr) (t : Cursor),
      depth ≤ maxDepth →
      expr (.ofBatch version batch) (maxDepth - depth) 0 ⟨batch.drop i, []⟩ = .ok e t →
      ∃ ls, Cursor.Passed ls ⟨batch.drop i, []⟩ t ∧
        (∀ ms, ms <+: ls → marks .rightParen ms ≤ marks .leftParen ms) ∧
        (t.rest ≠ [] → marks .rightParen ls = marks .leftParen ls) := by
  intro h
  let batch : List Lexeme :=
    [⟨.word "@a" none, 1, true⟩, ⟨.word "COLLATE" none, 1, false⟩, ⟨.mark .rightParen, 1, false⟩]
  obtain ⟨ls, hpassed, hright, -⟩ :=
    h .sql2014 batch 0 0 (.var ⟨"@a", 1⟩) ⟨([] : List Lexeme), []⟩ (by decide) rfl
  obtain rfl : batch = ls := hpassed.rest.trans (List.append_nil ls)
  exact absurd (hright batch (List.prefix_refl batch)) (by decide)

end Parser

end SqlLint
