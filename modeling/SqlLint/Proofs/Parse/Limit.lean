import SqlLint.Proofs.Parse.Carry
import SqlLint.Proofs.Parse.Levels
import SqlLint.Proofs.Parse.Passed

/-!
# The limit on nesting

An expression is read with a limited number of levels, and what is nested deeper fails. One would
like to conclude that the limit never shows in an expression that is read: with more levels left it
would have been the same expression.

That is not so. Want of levels is a failure like any other, and two readers go on after a failure.
The arguments of a call that cannot be read are scanned, and so is a cast in a fragment that cannot
be read. With two levels left, `f((@a))` is read as a call whose argument is `@a`; with three, the
argument is `(@a)`.

## Meeting the limit

Since a failure may have been caught, the result of a run does not tell whether the limit has been
met. A second run does: `exprNoted` reads as `expr` does, and at the last level it leaves a record
before it fails. A record is never taken back. If there is none in the end, the reader at the last
level has never been called, so that another reader in its place, such as one with more levels left,
would not have been called either.

## When the limit has been met

Then trees and records may differ. What is left is that the expression ends at the same place and
has the same variables, because both are determined by the lexemes.

## Main results

* `expr_eq_of_not_meetsLimit`: a run that does not meet the limit is the same with more levels left
* `expr_levels`: what an expression that is read tells about the same one with more levels left
* `not_expr_levels`: it need not be the same expression
-/

namespace SqlLint

/-- The error of text that is nested too deeply. -/
def SyntaxError.isTooDeep : SyntaxError → Bool
  | .tooDeep _ => true
  | _ => false

namespace Parser

/-! ## Runs that note the limit -/

/-- Fails because no level of nesting is left, and leaves a record of it. -/
def tooDeepNoted {α : Type} (cx : Context) : Parser α := fun s =>
  tooDeep cx (s.record (.tooDeep (cx.lineAt s.rest)))

/-- Reads as `expr` does, and leaves a record where no level is left. -/
def exprNoted (cx : Context) : Nat → Nat → Parser Expr
  | 0, _ => tooDeepNoted cx
  | levels + 1, minPower => operatorChain cx (exprNoted cx levels) minPower

/-- Somewhere in the attempt to read an expression from `ls`, no level is left. -/
def MeetsLimit (cx : Context) (levels minPower : Nat) (ls : List Lexeme) : Prop :=
  ∃ e ∈ (cursorOf (exprNoted cx levels minPower ⟨ls, []⟩)).errors, e.isTooDeep

instance (cx : Context) (levels minPower : Nat) (ls : List Lexeme) :
    Decidable (MeetsLimit cx levels minPower ls) :=
  inferInstanceAs (Decidable (∃ e ∈ _, _))

/-! ## The comparison -/

section

variable (base : Cursor) (cx : Context)

/-- A run that notes the limit, beside one with at least as many levels left. The comparison is over
as soon as something has been noted. -/
abbrev limiting : Coupling := .carrying base cx fun e => e.isTooDeep

theorem coupled_exprNoted : ∀ {low high : Nat}, low ≤ high → ∀ m,
    (limiting base cx).Coupled (limiting base cx).exprs (exprNoted cx low m) (expr cx high m)
  | 0, high, _, m => by
    -- the first run leaves a record and the comparison is over, whatever the second one does
    refine ⟨fun s => Cursor.errors_subset_record _ s, fun s t _ _ => ?_⟩
    have hnoted : SyntaxError.tooDeep (cx.lineAt s.rest) ∈
        (cursorOf (exprNoted cx 0 m s)).errors := List.mem_append_right _ List.mem_cons_self
    exact .recorded (show SyntaxError.isTooDeep (.tooDeep _) from rfl) hnoted
  | low + 1, high + 1, h, m => by
    have hexpr := coupled_exprNoted (Nat.le_of_succ_le_succ h)
    have hscan := (limiting base cx).coupled_scanItem hexpr
      (fun hst _ _ _ => hst ▸ Coupling.carrying_iif _ _ _)
      fun hst hs hkind hopens hfound => Coupling.carrying_tried
        (((limiting base cx).coupledAt_takeCast hexpr hkind hopens).meets _ _ hst hs) hfound
    have hparen := (limiting base cx).coupled_parenFragment hscan
    have hlist := (limiting base cx).coupled_listOrQuery hexpr hparen
    have hcall := (limiting base cx).coupled_callArguments hexpr hparen fun hst _ =>
      hst ▸ Coupling.carrying_retried (hlist.run rfl) hparen
    exact (limiting base cx).coupled_operatorChain hexpr hparen hcall m

end

/-- With at least as many levels left, a run that does not meet the limit is the one that notes it,
behind whatever has happened before. -/
theorem expr_eq_carried (cx : Context) {low high : Nat} (h : low ≤ high) {m : Nat} {s : Cursor}
    (hlimit : ¬MeetsLimit cx low m s.rest) :
    expr cx high m s = carried s (exprNoted cx low m ⟨s.rest, []⟩) := by
  have hmeets := (coupled_exprNoted s cx h m).run (s := ⟨s.rest, []⟩) (s.carry_start rfl).symm
  refine eq_carried_of_meets hmeets (fun a b hab => (hab trivial).trans a.renumber_id) ?_
  exact fun e he htooDeep => hlimit ⟨e, he, htooDeep⟩

/-- **A run that does not meet the limit is the same with more levels left**, whether it gives an
expression or fails. -/
theorem expr_eq_of_not_meetsLimit (cx : Context) {low high : Nat} (h : low ≤ high) {m : Nat}
    {s : Cursor} (hlimit : ¬MeetsLimit cx low m s.rest) :
    expr cx high m s = expr cx low m s := by
  rw [expr_eq_carried cx h hlimit, expr_eq_carried cx (Nat.le_refl low) hlimit]

/-! ## Expressions that are read -/

/-- **What more levels change.**

If an expression is read with some number of levels left and the limit is not met, then with more
levels it is read as the same expression, to the same place and with the same errors recorded. If
the limit is met and an expression is read all the same, then with more levels one is read to the
same place, unless a collation is a parenthesis, and with the same variables, unless a collation is
a variable. -/
theorem expr_levels (cx : Context) {low high : Nat} (h : low ≤ high) {m : Nat} {s t : Cursor}
    {e : Expr} (hrun : expr cx low m s = .ok e t) :
    (¬MeetsLimit cx low m s.rest → expr cx high m s = .ok e t) ∧
    (CollationsAre Lexeme.NoParen s.rest →
      ∃ e' t', expr cx high m s = .ok e' t' ∧ t'.place = t.place ∧
        (CollationsAre (fun l => l.variableHere? = none) s.rest → e'.vars = e.vars)) := by
  constructor
  · intro hlimit
    rw [expr_eq_of_not_meetsLimit cx h hlimit, hrun]
  · intro hs
    obtain ⟨e', t', hrun', hplace⟩ := expr_of_fewer_levels cx h hs hrun
    refine ⟨e', t', hrun', hplace, fun hvars => ?_⟩
    obtain ⟨ls, hpassed, hls⟩ := ((reads_expr cx low m s).ok hrun).exists_passed hvars
    obtain ⟨ls', hpassed', hls'⟩ := ((reads_expr cx high m s).ok hrun').exists_passed hvars
    have hrest : t'.rest = t.rest := congrArg Place.rest hplace
    have hsame : ls' ++ t.rest = ls ++ t.rest := by
      rw [← hpassed.rest, ← hrest]
      exact hpassed'.rest.symm
    rw [hls, hls', List.append_cancel_right hsame]

/-- `f((@a))` does not meet the limit with three levels left, and meets it with two. -/
theorem expr_levels_nested_call :
    let ls : List Lexeme := [⟨.word "f" none, 1, true⟩, ⟨.mark .leftParen, 1, false⟩,
      ⟨.mark .leftParen, 1, false⟩, ⟨.word "@a" none, 1, false⟩, ⟨.mark .rightParen, 1, false⟩,
      ⟨.mark .rightParen, 1, false⟩]
    expr ⟨.sql2014, 1⟩ 128 0 ⟨ls, []⟩ =
        .ok (.call ["f"] [.paren (.var ⟨"@a", 1⟩)]) ⟨([] : List Lexeme), []⟩ ∧
      ∃ e' t', expr ⟨.sql2014, 1⟩ 128 0 ⟨ls, []⟩ = .ok e' t' ∧ t'.rest = [] ∧
        e'.vars = [⟨"@a", 1⟩] := by
  intro ls
  have hthree : expr ⟨.sql2014, 1⟩ 3 0 ⟨ls, []⟩ =
      .ok (.call ["f"] [.paren (.var ⟨"@a", 1⟩)]) ⟨([] : List Lexeme), []⟩ := rfl
  have htwo : expr ⟨.sql2014, 1⟩ 2 0 ⟨ls, []⟩ =
      .ok (.call ["f"] [.var ⟨"@a", 1⟩]) ⟨([] : List Lexeme), []⟩ := rfl
  refine ⟨(expr_levels _ (by decide) hthree).1 (by decide), ?_⟩
  obtain ⟨e', t', hrun, hplace, hvars⟩ :=
    (expr_levels _ (show 2 ≤ 128 by decide) htwo).2 (by decide)
  exact ⟨e', t', hrun, congrArg Place.rest hplace, hvars (by decide)⟩

/-- With two levels left, the parentheses around the argument of `f((@a))` are lost, and no error
tells that the limit has been met. -/
theorem not_expr_levels :
    ¬∀ (version : Version) (batch : List Lexeme) (i d₁ d₂ : Nat) (e : Expr) (t : Cursor),
      d₁ ≤ d₂ → d₂ ≤ maxDepth →
      expr (.ofBatch version batch) (maxDepth - d₂) 0 ⟨batch.drop i, []⟩ = .ok e t →
      expr (.ofBatch version batch) (maxDepth - d₁) 0 ⟨batch.drop i, []⟩ = .ok e t := by
  intro h
  let batch : List Lexeme := [⟨.word "f" none, 1, true⟩, ⟨.mark .leftParen, 1, false⟩,
    ⟨.mark .leftParen, 1, false⟩, ⟨.word "@a" none, 1, false⟩, ⟨.mark .rightParen, 1, false⟩,
    ⟨.mark .rightParen, 1, false⟩]
  have htwo := h .sql2014 batch 0 125 126 (.call ["f"] [.var ⟨"@a", 1⟩])
    ⟨([] : List Lexeme), []⟩ (by decide) (by decide) rfl
  have hthree : expr (.ofBatch .sql2014 batch) (maxDepth - 125) 0 ⟨batch.drop 0, []⟩ =
      .ok (.call ["f"] [.paren (.var ⟨"@a", 1⟩)]) ⟨([] : List Lexeme), []⟩ := rfl
  rw [hthree] at htwo
  cases htwo

end Parser

end SqlLint
