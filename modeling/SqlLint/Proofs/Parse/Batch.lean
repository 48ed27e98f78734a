import SqlLint.Parse.Script
import SqlLint.Proofs.Parse.Coupling
import SqlLint.Proofs.Parse.Loop

/-!
# Reading a batch to its end

What the readers do to the cursor, put together for a whole batch: every lexeme is passed, no move
ever leaves the batch, no loop is ended by its budget, and the variables of the statements are
variables of the batch in their order there.

## Indices

A cursor knows what lies ahead of it. Relative to a batch this is an index, the number of lexemes
that lie behind. `Cursor.At batch i s` says that `s` is at the index `i`, which is one of the
batch, and that no move up to there has gone past the end: the count of such moves never goes down,
so it is enough to find it zero where a reader ends.

A cursor moves in three ways. It advances by a number of lexemes, it moves to behind the first
lexeme of what lay ahead somewhere, and it moves to what lay ahead somewhere. The first two are
counted where they go too far. The third one cannot: where it leads is kept from an earlier cursor,
or found by a walk along the lexemes ahead, which ends at one of them or behind the last.

## Main results

* `ends_recover`: where reading goes on after a failure
* `batch_consumed`: the index over the whole run and over each of its parts
* `batch_variables_sublist`: the variables of the statements of a batch
-/

namespace SqlLint

namespace Cursor

/-- The cursor is at the index `i` of a batch and has never been moved past its end. -/
structure At (batch : List Lexeme) (i : Nat) (s : Cursor) : Prop where
  le : i ≤ batch.length
  rest_eq : s.rest = batch.drop i
  overrun_eq : s.overrun = 0

/-- The cursor is at the index `i` of a batch or behind it. -/
def AtLeast (batch : List Lexeme) (i : Nat) (s : Cursor) : Prop := ∃ j, i ≤ j ∧ s.At batch j

variable {batch : List Lexeme} {i : Nat} {s t : Cursor}

theorem At.length_rest (h : s.At batch i) : s.rest.length = batch.length - i := by
  rw [h.rest_eq, List.length_drop]

/-- What is reached from an index of the batch is at an index of the batch, and not before it. -/
theorem At.reaches (h : s.At batch i) (ht : s.Reaches t) : t.AtLeast batch i := by
  have hle := h.le
  have hlen := ht.length_le
  rw [h.length_rest] at hlen
  have hsuffix : t.rest <:+ batch := ht.suffix.trans (h.rest_eq ▸ List.drop_suffix i batch)
  refine ⟨batch.length - t.rest.length, by omega, by omega, ?_, ht.overrun.trans h.overrun_eq⟩
  exact List.suffix_iff_eq_drop.1 hsuffix

/-- If less lies ahead afterwards, the index has gone up. -/
theorem At.reaches_lt (h : s.At batch i) (ht : s.Reaches t)
    (hlt : t.rest.length < s.rest.length) : t.AtLeast batch (i + 1) := by
  obtain ⟨j, -, hj⟩ := h.reaches ht
  refine ⟨j, ?_, hj⟩
  have hle := hj.le
  rw [h.length_rest, hj.length_rest] at hlt
  omega

/-- A round of a loop that advances goes on behind the index it was started at. -/
theorem At.advances {α : Type} {step : α → Parser (Option α)} (h : s.At batch i)
    (hstep : Parser.Advances step) (a : α) :
    Parser.Ends (step a) s (fun more t => t.AtLeast batch (if more.isSome then i + 1 else i))
      fun _ t => t.AtLeast batch i := by
  refine (hstep.round a s).mono (fun more t ht => ?_) fun _ _ ht => h.reaches ht
  cases more with
  | none => exact h.reaches ht.1
  | some b => exact h.reaches_lt ht.1 (ht.2 rfl)

theorem At.stays {α : Type} {p : Parser α} (h : s.At batch i) (hp : Parser.Stays p) :
    Parser.Ends p s (fun _ t => t.AtLeast batch i) fun _ t => t.AtLeast batch i :=
  (hp s).mono (fun _ _ ht => h.reaches ht) fun _ _ ht => h.reaches ht

end Cursor

namespace Parser

theorem stays_fragmentItem? (cx : Context) (levels : Nat) :
    Stays (fragmentItem? cx (expr cx levels)) := by
  intro s
  refine (ends_fragmentItem? cx (reads_expr cx levels) s).mono (fun item t ht => ?_)
    fun _ _ h => h.elim
  cases item with
  | some e => exact ht.1.reaches
  | none => exact (Cursor.Reaches.refl s).congr ht.1 ht.2.1

/-- All that is left of a batch is read without a failure. -/
theorem ends_topStatements (cx : Context) (s : Cursor) :
    Ends (topStatements cx) s
      (fun ss t => s.Keeps (Statement.listVars ss) t ∧ t.rest = []) fun _ _ => False := by
  refine (ends_statementList (ends_statement cx maxDepth) (fun _ => false) s).mono
    (fun ss t ht => ⟨ht.1, ?_⟩) fun _ _ h => h
  cases hrest : t.rest with
  | nil => rfl
  | cons l rest => simpa [hrest] using ht.2

/-- Reading goes on behind the place of the failure and behind the first lexeme of the statement. -/
theorem recoverFrom_drop {batch : List Lexeme} {start i : Nat} (hstart : start < batch.length) :
    recoverFrom (batch.drop start) (batch.drop i) =
      skipToStatement 0 (batch.drop (max i (start + 1))) := by
  rw [recoverFrom, List.length_drop, List.length_drop, List.drop_drop]
  congr 1
  split
  · rw [Nat.max_eq_left (by omega)]
  · rw [Nat.max_eq_right (by omega)]

/-- From the index of a failure, and for a statement that began at the index `start`, recovery leads
at least to the greater one of this index and the one behind `start`. -/
theorem ends_recover {batch : List Lexeme} {start i : Nat} {s : Cursor}
    (hstart : start < batch.length) (h : s.At batch i) :
    Ends (recover (batch.drop start)) s (fun _ t => t.AtLeast batch (max i (start + 1)))
      fun _ _ => False := by
  have hgoal : (s.moveTo (batch.drop (max i (start + 1)))).At batch (max i (start + 1)) :=
    ⟨Nat.max_le.2 ⟨h.le, hstart⟩, rfl, h.overrun_eq⟩
  have hrecover := recover_cons (batch[start]) (batch.drop (start + 1)) s
  rw [← List.drop_eq_getElem_cons hstart, h.rest_eq, recoverFrom_drop hstart] at hrecover
  rw [Ends, hrecover]
  exact hgoal.reaches ⟨skipToStatement_suffix 0 _, rfl⟩

/-- **A batch is read to its end, and the index never leaves it.**

The count of lexemes moved past the end never goes down. A move by a number of lexemes leaves it as
it was exactly if it stays in the batch, a move to behind a lexeme exactly if there is one, and a
move to what lay ahead somewhere always does. Where the count is zero, no step before has left the
batch; so it is wherever `Cursor.At` holds. The walks by which a name, the options of a `SET`, the
marks of a parameter, semicolons and the next statement are found end in what lay ahead of them, and
have passed the lexemes of all that they give.

The run over the whole batch succeeds at the index behind the last lexeme, and the batch has the
statements and errors of this run.

From any index `i` of the batch, with any number of levels left:

* A round of any loop of the grammar, if another one follows, ends behind `i`, and otherwise not
  before it. So the loop without a budget comes to an end, and it is what the loop with a budget
  gives: no budget ever decides.
* A round of a list of statements does not even fail. The last one leaves the cursor as it was, and
  every other one ends behind `i`, whatever becomes of its statement. Recovery from a statement that
  began at the index `start` ends behind `start` and not before `i`.
* The readers of statements and expressions end at an index of the batch that is not before `i`, in
  a success as in a failure. The same holds of the three readers that go back: of options, of an
  item in a fragment and of the arguments of a call. -/
theorem batch_consumed (version : Version) (batch : List Lexeme) :
    let cx := Context.ofBatch version batch
    (∀ (s : Cursor) (n : Nat), s.overrun ≤ (s.advance n).overrun ∧
      ((s.advance n).overrun = s.overrun ↔ n ≤ s.rest.length)) ∧
    (∀ (s : Cursor) (ls : List Lexeme), s.overrun ≤ (s.moveBehind ls).overrun ∧
      ((s.moveBehind ls).overrun = s.overrun ↔ ls ≠ []) ∧ (s.moveTo ls).overrun = s.overrun) ∧
    (∀ ls : List Lexeme,
      ((nameTail ls).2 <:+ ls ∧
        (nameTail ls).2.length + 2 * (nameTail ls).1.length = ls.length) ∧
      ((optionNames ls).2 <:+ ls ∧
        (optionNames ls).2.length + (optionNames ls).1.length ≤ ls.length) ∧
      ((outputMarks ls).2 <:+ ls ∧
        (outputMarks ls).2.length + (outputMarks ls).1.toNat ≤ ls.length) ∧
      skipSemicolons ls <:+ ls ∧ ∀ depth, skipToStatement depth ls <:+ ls) ∧
    (∃ statements t, topStatements cx ⟨batch, []⟩ = .ok statements t ∧
      t.At batch batch.length ∧ parseBatch version batch = (statements, t.errors)) ∧
    ∀ (i : Fin (batch.length + 1)) (errors : List SyntaxError) (levels : Nat),
      let s : Cursor := ⟨batch.drop i, errors⟩
      (∀ (loop : Loop) (state : loop.State),
        Ends (loop.round cx levels state) s
          (fun more t => t.AtLeast batch (if more.isSome then i + 1 else i))
          (fun _ t => t.AtLeast batch i) ∧
        ∀ r, Iterates (loop.round cx levels) state s r ↔
          r = repeatWhile (loop.round cx levels) state s) ∧
      (∀ stop done, Ends (listRound (statement cx levels) stop done) s
        (fun more t => if more.isSome then t.AtLeast batch (i + 1) else t = s) fun _ _ => False) ∧
      (∀ start : Fin batch.length, Ends (recover (batch.drop start)) s
        (fun _ t => t.AtLeast batch (max i (start + 1))) fun _ _ => False) ∧
      Ends (statement cx levels) s (fun _ t => t.AtLeast batch i) (fun _ t => t.AtLeast batch i) ∧
      (∀ minPower, Ends (expr cx levels minPower) s
        (fun _ t => t.AtLeast batch i) fun _ t => t.AtLeast batch i) ∧
      Ends (takeSetOption cx (expr cx levels)) s
        (fun _ t => t.AtLeast batch i) (fun _ t => t.AtLeast batch i) ∧
      Ends (fragmentItem? cx (expr cx levels)) s
        (fun _ t => t.AtLeast batch i) (fun _ t => t.AtLeast batch i) ∧
      Ends (callArguments cx (expr cx levels)) s
        (fun _ t => t.AtLeast batch i) fun _ t => t.AtLeast batch i := by
  intro cx
  refine ⟨fun s n => ?_, fun s ls => ?_, fun ls => ?_, ?_, fun i errors levels => ?_⟩
  · have hcount := Cursor.overrun_advance n s
    omega
  · have hcount := Cursor.overrun_moveBehind ls s
    refine ⟨by omega, ?_, rfl⟩
    rw [← List.length_pos_iff]
    omega
  · refine ⟨⟨Coupling.nameTail_suffix ls, length_nameTail ls⟩, ⟨optionNames_suffix ls, ?_⟩,
      ⟨outputMarks_suffix ls, length_outputMarks ls⟩, skipSemicolons_suffix ls,
      fun depth => skipToStatement_suffix depth ls⟩
    exact length_optionNames ls
  · have hrun := ends_topStatements cx ⟨batch, []⟩
    obtain ⟨statements, t, htop, hkeeps, hrest⟩ := hrun.exists_ok
    refine ⟨statements, t, htop, ⟨Nat.le_refl _, ?_, hkeeps.reaches.overrun⟩, ?_⟩
    · rw [hrest, List.drop_length]
    · rw [parseBatch, finishBatch, htop]
  · intro s
    have hs : s.At batch i := ⟨Nat.le_of_lt_succ i.isLt, rfl, rfl⟩
    have hexpr := reads_expr cx levels
    have hstatement := ends_statement cx levels
    refine ⟨fun loop state => ?_, fun stop done => ?_, fun start => ?_, ?_, fun minPower => ?_, ?_,
      ?_, ?_⟩
    · have hloop := loop.advances cx levels
      exact ⟨hs.advances hloop state, hloop.iterates_iff state s⟩
    · refine (ends_listRound hstatement stop done s).mono (fun more t ht => ?_) fun _ _ h => h
      cases more with
      | none => exact ht.1
      | some done' =>
        obtain ⟨hlt, _, hkeeps, -⟩ := ht.1
        exact hs.reaches_lt hkeeps.reaches hlt
    · exact ends_recover start.isLt hs
    · exact (hstatement s).mono (fun _ _ ht => hs.reaches ht.reaches) fun _ _ ht => hs.reaches ht
    · exact hs.stays (hexpr minPower).collects.stays
    · exact (ends_takeSetOption cx hexpr s).mono (fun _ _ ht => hs.reaches ht.reaches)
        fun _ _ ht => hs.reaches ht
    · exact hs.stays (stays_fragmentItem? cx levels)
    · exact hs.stays (closes_callArguments cx hexpr).stays

end Parser

/-- **The variables of the statements of a batch, in the order in which the tree is visited, are
variables of the batch in the order of its lexemes**: none is invented, taken twice, moved to
another line or out of its order. -/
theorem batch_variables_sublist (version : Version) (batch : List Lexeme) :
    (Statement.listVars (parseBatch version batch).1).Sublist
      (batch.filterMap Lexeme.variableHere?) := by
  have hrun := Parser.ends_topStatements (.ofBatch version batch) ⟨batch, []⟩
  rw [parseBatch, finishBatch]
  cases htop : Parser.topStatements (.ofBatch version batch) ⟨batch, []⟩ with
  | error e t => exact (hrun.error htop).elim
  | ok statements t =>
    obtain ⟨hkeeps, hrest⟩ := hrun.ok htop
    have hsublist := hkeeps.sublist
    rw [hrest, List.filterMap_nil, List.append_nil] at hsublist
    exact hsublist

end SqlLint
