import SqlLint.Proofs.Parse.Parenthesis
import SqlLint.Proofs.Parse.Renumber

/-!
# Reading with fewer levels left

An expression that is read with many levels of nesting left is read in the same way with fewer, up
to the place where no level is left. There a run with fewer levels fails, and the failure may be
caught: the arguments of a call are then scanned. From there on the runs hold different trees. But
they pass the same lexemes, because a call ends where it is closed, however its arguments have been
read.

So the same lexemes lie ahead of both runs, until one of them fails. What can be said of a failure
depends on what has been recorded before, since trees that differ can lead to different records. In
a *silent* comparison it is over when the run with more levels has recorded an error, or when the
one with fewer levels fails for want of levels; any other failure is the same in both. In one that
is not silent, errors may be recorded on the way, and it is over with any failure of the run with
fewer levels.

## Main results

* `Coupling.coupled_expr_levels`: an expression with more and with fewer levels left
* `Coupling.takeCast_unsupported`: a feature that a cast misses with fewer levels left
* `Parser.expr_of_fewer_levels`: what is read with fewer levels left is read with more
-/

namespace SqlLint

namespace Parser

/-! ## Recorded errors

A comparison shows of the first run that it takes no recorded error back, and a run can be compared
with itself. -/

variable (cx : Context) (levels : Nat)

theorem keepsErrors_expr (m : Nat) : KeepsErrors (expr cx levels m) :=
  ((Coupling.attempts_renumbering id cx).coupled_expr levels m).keeps

theorem keepsErrors_parenFragment : KeepsErrors (parenFragment cx (expr cx levels)) :=
  ((Coupling.attempts_renumbering id cx).coupled_parenFragment
    ((Coupling.attempts_renumbering id cx).coupled_expr levels)).keeps

theorem keepsErrors_callArguments : KeepsErrors (callArguments cx (expr cx levels)) :=
  ((Coupling.attempts_renumbering id cx).coupled_callArguments
    ((Coupling.attempts_renumbering id cx).coupled_expr levels)).keeps

end Parser

/-- A run with more levels left beside one with fewer, over the same lexemes. -/
def Coupling.levels (cx : Context) (silent : Prop) : Coupling where
  first := cx
  second := cx
  line := id
  exact := False
  Step s t := t.rest = s.rest ∧ (silent → s.errors = []) ∧ CollationsAre Lexeme.NoParen s.rest
  Opened _ := True
  Fail e _ e' _ := e' = e
  overOnRecord _ := silent
  overOnFirst _ := False
  overOnSecond e := silent → ∃ line, e = .tooDeep line
  endLine := cx.endLine_id
  rest := by
    rintro s t ⟨hrest, -, -⟩
    rw [Lexeme.renumber_id_eq_id, List.map_id]
    exact hrest
  moveTo := by
    rintro s t ls ⟨-, herrors, hs⟩ hls
    rw [Lexeme.renumber_id_eq_id, List.map_id]
    exact ⟨rfl, herrors, hs.of_suffix hls⟩
  advance := by
    rintro s t n ⟨hrest, herrors, hs⟩
    exact ⟨congrArg (List.drop n) hrest, herrors, hs.of_suffix (List.drop_suffix n s.rest)⟩
  opened _ _ _ := trivial
  mismatch := by
    rintro e s t - -
    exact e.renumber_id
  require := by
    rintro g s t ⟨hrest, herrors, hs⟩ -
    unfold Parser.require
    split
    · exact .ok rfl ⟨hrest, herrors, hs⟩
    · have hline : cx.lineAt t.rest = cx.lineAt s.rest := congrArg cx.lineAt hrest
      exact .error (congrArg (SyntaxError.unsupported · g cx.version) hline)

namespace Coupling

open SqlLint.Parser SqlLint.Pairing

variable (cx : Context) (silent : Prop)

/-- Two readers that always close the parenthesis they are started behind. -/
theorem meets_levels_of_closed {α : Type} {L : Link α} (hL : ∀ a b, L.Rel a b) {p q : Parser α}
    (hp : ∀ s : Cursor, CollationsAre Lexeme.NoParen s.rest →
      Ends p s (fun _ u => u.rest = closeParen 0 s.rest) fun _ _ => False)
    (hq : ∀ s : Cursor, CollationsAre Lexeme.NoParen s.rest →
      Ends q s (fun _ u => u.rest = closeParen 0 s.rest) fun _ _ => False)
    {s t : Cursor} (hst : (levels cx silent).Step s t) :
    (levels cx silent).Meets L (p s) (q t) := by
  obtain ⟨hrest, -, hs⟩ := hst
  have hps := hp s hs
  have hqt := hq t (hrest ▸ hs)
  unfold Ends at hps hqt
  revert hps hqt
  cases p s with
  | error => exact fun h => h.elim
  | ok a u =>
    cases q t with
    | error => exact fun _ h => h.elim
    | ok b u' =>
      intro hu hu'
      have hu : u.rest = closeParen 0 s.rest := hu
      have hu' : u'.rest = closeParen 0 t.rest := hu'
      by_cases herrors : silent → u.errors = []
      · refine .ok (hL a b) ⟨?_, herrors, ?_⟩
        · rw [hu, hu', hrest]
        · rw [hu]
          exact hs.of_suffix (closeParen_suffix 0 s.rest)
      · obtain ⟨hsilent, hrecorded⟩ := Classical.not_imp.1 herrors
        exact .of_errors_ne_nil (fun _ => hsilent) hrecorded

/-- **An expression with more and with fewer levels left.** -/
theorem coupled_expr_levels : ∀ {low high : Nat}, low ≤ high → ∀ m,
    (levels cx silent).Coupled (levels cx silent).exprs (expr cx high m) (expr cx low m)
  | 0, high, _, m =>
    ⟨keepsErrors_expr cx high m, fun _ t _ _ => .second fun _ => ⟨cx.lineAt t.rest, rfl⟩⟩
  | low + 1, high + 1, h, m => by
    have hexpr := coupled_expr_levels (Nat.le_of_succ_le_succ h)
    have hparen : (levels cx silent).Coupled (levels cx silent).exprLists
        (parenFragment cx (expr cx high)) (parenFragment cx (expr cx low)) := by
      refine ⟨keepsErrors_parenFragment cx high, fun s t hst _ => ?_⟩
      exact meets_levels_of_closed cx silent (fun _ _ h => h.elim)
        (fun _ => ends_parenFragment_exact cx (reads_expr cx high))
        (fun _ => ends_parenFragment_exact cx (reads_expr cx low)) hst
    have hcall : (levels cx silent).CoupledAt (fun _ => True) (levels cx silent).exprLists
        (callArguments cx (expr cx high)) (callArguments cx (expr cx low)) := by
      refine ⟨keepsErrors_callArguments cx high, fun s t hst _ => ?_⟩
      exact meets_levels_of_closed cx silent (fun _ _ h => h.elim)
        (fun _ => ends_callArguments_exact cx (reads_expr cx high))
        (fun _ => ends_callArguments_exact cx (reads_expr cx low)) hst
    exact (levels cx silent).coupled_operatorChain hexpr hparen hcall m

/-- A feature that a cast misses with fewer levels left is missed with more as well, or the run with
more levels has recorded an error before. -/
theorem takeCast_unsupported {low high : Nat} (h : low ≤ high) {kind : CastKind} {l : Lexeme}
    {ls : List Lexeme} (hl : castKind? l = some kind) (hls : opensParen ls) {s t u : Cursor}
    {e : SyntaxError} (hst : (levels cx True).Step s t) (hs : s.rest = l :: ls)
    (herror : takeCast cx (expr cx low) kind t = .error e u) (he : e.IsUnsupported) :
    (cursorOf (takeCast cx (expr cx high) kind s)).errors ≠ [] ∨
      ∃ v, takeCast cx (expr cx high) kind s = .error e v := by
  have hmeets := ((levels cx True).coupledAt_takeCast (coupled_expr_levels cx True h) hl hls).meets
    s t hst hs
  change (levels cx True).Meets _ (takeCast cx (expr cx high) kind s)
    (takeCast cx (expr cx low) kind t) at hmeets
  rw [herror] at hmeets
  revert hmeets
  generalize takeCast cx (expr cx high) kind s = r
  intro hmeets
  cases hmeets with
  | error hfail => exact .inr ⟨_, by rw [show e = _ from hfail]⟩
  | recorded _ hrecorded => exact .inl (List.ne_nil_of_mem hrecorded)
  | first hover => exact hover.elim
  | second hover =>
    obtain ⟨line, rfl⟩ := hover trivial
    cases he

end Coupling

/-- **What is read with fewer levels left is read with more, and to the same place.** The trees need
not be the same. -/
theorem Parser.expr_of_fewer_levels (cx : Context) {low high : Nat} (h : low ≤ high) {m : Nat}
    {s t : Cursor} {e : Expr} (hs : CollationsAre Lexeme.NoParen s.rest)
    (hrun : expr cx low m s = .ok e t) :
    ∃ e' t', expr cx high m s = .ok e' t' ∧ t'.place = t.place := by
  have hmeets := (Coupling.coupled_expr_levels cx False h m).run
    (show (Coupling.levels cx False).Step s s from ⟨rfl, False.elim, hs⟩)
  rw [hrun] at hmeets
  generalize hhigh : expr cx high m s = r at hmeets
  cases hmeets with
  | ok _ hst =>
    have hover := ((reads_expr cx high m s).ok hhigh).overrun
    have hover' := ((reads_expr cx low m s).ok hrun).overrun
    exact ⟨_, _, rfl, Cursor.place_ext hst.1.symm (hover.trans hover'.symm)⟩
  | recorded hover => exact hover.elim
  | first hover => exact hover.elim

end SqlLint
