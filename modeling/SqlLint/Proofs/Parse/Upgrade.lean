import SqlLint.Proofs.Parse.Batch
import SqlLint.Proofs.Parse.Rescan

/-!
# Reading a batch for a later version

A later version has all the syntax of an earlier one. It does not follow at once that a batch which
can be read for a version is read in the same way for a later one: the readers go back after a
failure, and a feature that is missed inside an attempt could make a run for the earlier version
take another way through the grammar, without a trace.

It does leave a trace. A run for the earlier version and one for the later one are in step until a
feature is missed for the first time. From there on the comparison is over, since the miss comes to
be recorded: by the scan of a fragment, by the list of statements, or, if it happens in the
arguments of a call, by the scan that takes the place of reading them.

## Main results

* `parseBatch_upgrade`: a batch that is read without an error, for a later version
-/

namespace SqlLint

/-- A run for a version beside a run for a later one, over the same lexemes. -/
def Coupling.upgrade (cx : Context) {w : Version} (h : cx.version ≤ w) : Coupling where
  first := cx
  second := { cx with version := w }
  line := id
  exact := True
  Step s t := t = s ∧ s.errors = [] ∧ Regular s.rest
  Opened _ := True
  Fail e s e' t := e' = e ∧ t = s ∧ s.errors = []
  overOnRecord _ := True
  overOnFirst e := e.IsUnsupported
  overOnSecond _ := False
  endLine := rfl
  rest := by
    rintro s _ ⟨rfl, -, -⟩
    rw [Lexeme.renumber_id_eq_id, List.map_id]
  moveTo := by
    rintro s _ ls ⟨rfl, herrors, hs⟩ hls
    rw [Lexeme.renumber_id_eq_id, List.map_id]
    exact ⟨rfl, herrors, hs.of_suffix hls⟩
  advance := by
    rintro s _ n ⟨rfl, herrors, hs⟩
    exact ⟨rfl, herrors, hs.of_suffix (List.drop_suffix n _)⟩
  opened _ _ _ := trivial
  mismatch := by
    rintro e s _ - ⟨rfl, herrors, -⟩
    exact ⟨e.renumber_id, rfl, herrors⟩
  require := by
    rintro g s _ ⟨rfl, hs⟩ -
    unfold Parser.require
    by_cases hsupports : cx.version.supports g
    · rw [if_pos hsupports, if_pos (Version.supports_mono h hsupports)]
      exact .ok rfl ⟨rfl, hs⟩
    · rw [if_neg hsupports]
      exact .first ⟨_, g, cx.version⟩

namespace Coupling

open SqlLint.Parser SqlLint.Pairing

variable (cx : Context) {w : Version} (h : cx.version ≤ w)

/-- An attempt that leaves a place with nothing recorded, or something recorded. -/
theorem meets_upgrade_of_eq {α : Type} {L : Link α} {a b : α} (hab : L.Rel a b) {s : Cursor}
    (hs : Regular s.rest) : (upgrade cx h).Meets L (.ok a s) (.ok b s) := by
  by_cases herrors : s.errors = []
  · exact .ok hab ⟨rfl, herrors, hs⟩
  · exact .of_errors_ne_nil (fun _ => trivial) herrors

theorem attempts_upgrade : (upgrade cx h).Attempts where
  tooDeep := by
    rintro s _ ⟨rfl, herrors, -⟩
    exact ⟨rfl, rfl, herrors⟩
  iif := by
    rintro s _ l ls ⟨rfl, herrors, hregular⟩ hs - -
    rw [hs] at hregular
    rw [Coupling.lexemes]
    simp only [upgrade, Lexeme.renumber_id_eq_id, List.map_id, id]
    unfold Cursor.noteIif
    by_cases hsupports : cx.version.supports .iif
    · rw [if_pos hsupports, if_pos (Version.supports_mono h hsupports)]
      exact meets_upgrade_of_eq cx h rfl hregular.tail
    · rw [if_neg hsupports]
      exact .of_errors_ne_nil (fun _ => trivial) (by simp [cursorOf, Cursor.record, Cursor.moveTo])
  tried := by
    rintro levels _ s l ls kind found found' hcast ⟨rfl, herrors, hregular⟩ hs - - hfound
    rw [hs] at hregular
    simp only [Coupling.lexemes, upgrade, Lexeme.renumber_id_eq_id, List.map_id] at hcast ⊢
    generalize takeCast cx (expr cx levels) kind s = r at hcast ⊢
    generalize takeCast { cx with version := w } _ kind s = r' at hcast ⊢
    cases hcast with
    | ok he hst =>
      refine .ok (fun _ => ?_) hst
      rw [he trivial, hfound trivial]
      rfl
    | error hfail =>
      obtain ⟨rfl, rfl, -⟩ := hfail
      exact meets_upgrade_of_eq cx h hfound hregular.tail
    | recorded hover hrecorded =>
      refine .recorded hover ?_
      cases r with
      | ok e t => exact hrecorded
      | error e t => exact Cursor.errors_subset_note e t hrecorded
    | first hover =>
      obtain ⟨line, g, version⟩ := hover
      exact .of_errors_ne_nil (fun _ => trivial)
        (by simp [tried, cursorOf, Cursor.note, Cursor.record, Cursor.moveTo])
    | second hover => exact hover.elim
  retried := by
    rintro levels _ s hlist hparen ⟨rfl, herrors, hregular⟩ -
    generalize hr : listOrQuery (upgrade cx h).first _ s = r at hlist ⊢
    generalize listOrQuery (upgrade cx h).second _ s = r' at hlist ⊢
    cases hlist with
    | ok hes hst => exact .ok hes hst
    | error hfail =>
      obtain ⟨rfl, rfl, hclean⟩ := hfail
      exact hparen.run ⟨rfl, hclean, hregular⟩
    | recorded hover hrecorded =>
      refine .recorded hover ?_
      cases r with
      | ok es t => exact hrecorded
      | error e t => exact hparen.keeps (t.moveTo s.rest) hrecorded
    | first hover =>
      exact .of_errors_ne_nil (fun _ => trivial) (parenFragment_of_unsupported hregular hr hover)
    | second hover => exact hover.elim
  recovered := by
    rintro levels _ s done done' hstatement ⟨rfl, herrors, hregular⟩ hdone
    generalize statement (upgrade cx h).first levels s = r at hstatement ⊢
    generalize statement (upgrade cx h).second levels s = r' at hstatement ⊢
    have hrecorded : ∀ (e : SyntaxError) (t : Cursor),
        (upgrade cx h).Meets (upgrade cx h).statementLists (recovered done s.rest (.error e t))
          (recovered done' s.rest r') :=
      fun e t => .of_errors_ne_nil (fun _ => trivial)
        (by simp [recovered, cursorOf, Cursor.record, Cursor.moveTo])
    cases hstatement with
    | ok ha hst =>
      refine .ok (fun _ => ?_) hst
      rw [ha trivial, hdone trivial]
      rfl
    | error hfail => exact hrecorded _ _
    | recorded hover herrors =>
      cases r with
      | ok a t => exact .recorded hover herrors
      | error e t => exact hrecorded e t
    | first hover => exact hrecorded _ _
    | second hover => exact hover.elim

end Coupling

/-! ## Batches -/

/-- **A batch that is read without an error is read in the same way for a later version.** -/
theorem parseBatch_upgrade {v w : Version} (h : v ≤ w) {batch : List Lexeme}
    (hregular : Regular batch) (haccepted : (parseBatch v batch).2 = []) :
    parseBatch w batch = ((parseBatch v batch).1, []) := by
  have hcoupled := (Coupling.attempts_upgrade (.ofBatch v batch) h).coupled_topStatements
  have hmeets := hcoupled.meets ⟨batch, []⟩ ⟨batch, []⟩ ⟨rfl, rfl, hregular⟩ trivial
  change Pairing.Meets _ _ (Parser.topStatements (.ofBatch v batch) ⟨batch, []⟩)
    (Parser.topStatements (.ofBatch w batch) ⟨batch, []⟩) at hmeets
  unfold parseBatch finishBatch at haccepted ⊢
  cases htop : Parser.topStatements (.ofBatch v batch) ⟨batch, []⟩ with
  | error e t => exact (Parser.ends_topStatements _ _).error htop |>.elim
  | ok ss t =>
    rw [htop] at hmeets haccepted
    generalize Parser.topStatements (.ofBatch w batch) ⟨batch, []⟩ = r at hmeets ⊢
    cases hmeets with
    | ok hss hst =>
      obtain ⟨rfl, herrors, -⟩ := hst
      refine Prod.ext ((hss trivial).trans ?_) herrors
      exact (congrArg (List.map · ss) Statement.renumber_id_eq_id).trans (List.map_id ss)
    | recorded _ hrecorded => exact absurd haccepted (List.ne_nil_of_mem hrecorded)
    | second hover => exact hover.elim

/-- `RETURN COUNT(DISTINCT @n)`: the arguments are tried as expressions and cannot be read, so they
are scanned, for both versions. -/
theorem parseBatch_upgrade_count_distinct :
    let batch : List Lexeme := [⟨.word "RETURN" none, 1, true⟩, ⟨.word "COUNT" none, 1, false⟩,
      ⟨.mark .leftParen, 1, false⟩, ⟨.word "DISTINCT" none, 1, false⟩,
      ⟨.word "@n" none, 1, false⟩, ⟨.mark .rightParen, 1, false⟩]
    parseBatch .sql2016 batch = ((parseBatch .sql2008 batch).1, []) := by
  intro batch
  have hcollate : ∀ k ∈ batch, k.isKeyword .COLLATE = false := by decide
  have hregular : Regular batch := by
    refine ⟨by simp [batch, Lexeme.IsAscii, Token.plainWord?], fun k l rest hrest hk => ?_⟩
    rw [hcollate k (hrest.subset List.mem_cons_self)] at hk
    cases hk
  exact parseBatch_upgrade (v := .sql2008) (w := .sql2016) (by decide) hregular rfl

end SqlLint
