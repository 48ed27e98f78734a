import SqlLint.Parse.Statement
import SqlLint.Proofs.Parse.Attempt
import SqlLint.Proofs.Parse.ExprWalk

/-!
# Readers of statements keep variables in order

Every reader of a statement that succeeds has kept the variables of its tree, in the order in which
they are written, and has passed at least one lexeme. One that fails has passed lexemes that are
there. As for expressions, the readers one level deeper are assumed to do the same, and induction
on the levels ties the knot.

## Progress

A list of statements goes on after a failure, and nothing but the lexemes passed keeps it from
going on forever. A statement that succeeds passes its first lexeme. A statement that fails may
not have passed any, at the latest when no level is left; recovery then passes the first lexeme in
its place. `ends_listRound` says that every round passes a lexeme, whatever becomes of its
statement.

## Going back

A reader that goes back moves to what lay ahead when it was started, and then reads on as if it had
only been started there. Lexemes passed before are out of its reach, since it never sees them.

## Main results

* `ends_listRound`, `ends_statementList`: lists of statements, which never fail
* `ends_takeStatement`: a statement, given the statements and expressions inside
* `ends_statement`: a statement with any number of levels left
-/

namespace SqlLint

namespace Cursor

/-- Between `s` and `t` the variables `vs` are kept and at least one lexeme is passed, unless there
was none. -/
structure Takes (vs : List Variable) (s t : Cursor) : Prop extends s.Keeps vs t where
  progress : s.rest ≠ [] → t.rest.length < s.rest.length

/-- What is reached from in front of two different lexemes is reached from behind them: what lies
ahead of it cannot begin with each of the two. -/
theorem Reaches.of_cons {s t : Cursor} {l k : Lexeme} (hne : l ≠ k)
    (hl : (s.moveTo (l :: s.rest)).Reaches t) (hk : (s.moveTo (k :: s.rest)).Reaches t) :
    s.Reaches t := by
  refine ⟨?_, hl.overrun⟩
  rcases List.suffix_cons_iff.1 hl.suffix with heq | h
  · rcases List.suffix_cons_iff.1 hk.suffix with heq' | h
    · exact absurd (List.cons.inj (heq.symm.trans heq')).1 hne
    · exact h
  · exact h

end Cursor

namespace Parser

variable {α β : Type} {p : Parser α} {out : α → List Variable} {f : α → Parser β}
  {Q : β → Cursor → Prop} {n : Nat} {vs : List Variable} {s t : Cursor}

/-- A success keeps the variables of the value; a failure stays in the batch. -/
def Collects (p : Parser α) (out : α → List Variable) : Prop :=
  ∀ s, Ends p s (fun a t => s.Keeps (out a) t) fun _ t => s.Reaches t

/-- The parser stays in the batch and never goes back behind where it was started. -/
def Stays (p : Parser α) : Prop :=
  ∀ s, Ends p s (fun _ t => s.Reaches t) fun _ t => s.Reaches t

/-! ## Putting readers together -/

theorem Reads.collects (hp : Reads p out) : Collects p out :=
  fun s => (hp s).mono (fun _ _ ht => ht.keeps) fun _ _ ht => ht

theorem Collects.stays (hp : Collects p out) : Stays p :=
  fun s => (hp s).mono (fun _ _ ht => ht.reaches) fun _ _ ht => ht

theorem Stays.collects (hp : Stays p) : Collects p fun _ => [] :=
  fun s => (hp s).mono (fun _ _ ht => ht.keeps) fun _ _ ht => ht

theorem Collects.from (hp : Collects p out) (h : s.Keeps vs t) :
    Ends p t (fun a u => s.Keeps (vs ++ out a) u) fun _ u => s.Reaches u :=
  (hp t).mono (fun _ _ hu => h.trans hu) fun _ _ hu => h.reaches.trans hu

theorem Collects.bind (hp : Collects p out) (h : s.Keeps vs t)
    (hf : ∀ a u, s.Keeps (vs ++ out a) u → Ends (f a) u Q fun _ v => s.Reaches v) :
    Ends (p >>= f) t Q fun _ v => s.Reaches v :=
  ends_bind.2 ((hp.from h).mono hf fun _ _ hu => hu)

theorem Stays.bind (hp : Stays p) (h : s.Keeps vs t)
    (hf : ∀ a u, s.Keeps vs u → Ends (f a) u Q fun _ v => s.Reaches v) :
    Ends (p >>= f) t Q fun _ v => s.Reaches v :=
  hp.collects.bind h fun a u hu => hf a u (List.append_nil vs ▸ hu)

/-- A reader that is started behind at least one lexeme. -/
theorem Collects.takes (hp : Collects p out) (h : s.Keeps vs t)
    (hlt : t.rest.length < s.rest.length) :
    Ends p t (fun a u => s.Takes (vs ++ out a) u) fun _ u => s.Reaches u := by
  refine (hp t).mono (fun a u hu => ⟨h.trans hu, fun _ => ?_⟩) fun _ _ hu => h.reaches.trans hu
  exact Nat.lt_of_le_of_lt hu.reaches.length_le hlt

/-- What keeps variables from behind the first lexeme on takes that lexeme. -/
theorem Ends.takes {l : Lexeme} {rest : List Lexeme} (hs : s.rest = l :: rest)
    (h : Ends p t (fun a u => (s.moveTo rest).Keeps (out a) u)
      fun _ u => (s.moveTo rest).Reaches u) :
    Ends p t (fun a u => s.Takes (out a) u) fun _ u => s.Reaches u := by
  have hpast := Cursor.reaches_moveTo_cons hs
  refine h.mono (fun a u hu => ⟨hpast.keeps.trans hu, fun _ => ?_⟩) fun _ _ hu => hpast.trans hu
  exact hu.reaches.length_lt hs

/-- A reader that closes a parenthesis never goes back behind where it was started. -/
theorem Closes.stays (hp : Closes p out) : Stays p := by
  intro t
  -- the parenthesis may stand on any line
  have hopen : ∀ line, (t.moveTo (⟨.mark .leftParen, line, false⟩ :: t.rest)).Walks 1 [] t :=
    fun line => (Cursor.Walks.refl _).opening rfl rfl
  refine ((hp 0 [] _ _ (hopen 0)).and (hp 0 [] _ _ (hopen 1))).mono (fun a u hu => ?_)
    fun e u hu => ?_
  · exact .of_cons (by simp) hu.1.reaches hu.2.reaches
  · exact .of_cons (by simp) hu.1 hu.2

theorem Closes.collects (hp : Closes p out) : Collects p out := by
  intro t
  have hopen : (t.moveTo (⟨.mark .leftParen, 0, false⟩ :: t.rest)).Walks 1 [] t :=
    (Cursor.Walks.refl _).opening rfl rfl
  refine ((hp.stays t).and (hp 0 [] _ _ hopen)).mono (fun a u hu => ⟨hu.1, ?_⟩) fun _ _ hu => hu.1
  exact hu.2.keeps.sublist

/-! ## Single lexemes -/

theorem stays_eatIf (test : Lexeme → Bool) : Stays (eatIf test) :=
  fun s => ends_eatIf (.refl s) fun _ _ hs _ => Cursor.reaches_moveTo_cons hs

theorem stays_eat (m : Mark) : Stays (eat m) := stays_eatIf _

theorem stays_eatKeyword (k : Keyword) : Stays (eatKeyword k) := stays_eatIf _

theorem stays_expect (cx : Context) (m : Mark) : Stays (expect cx m) :=
  fun s => ends_demand cx _ (fun _ _ hs _ => Cursor.reaches_moveTo_cons hs) fun _ => .refl s

theorem stays_expectKeyword (cx : Context) (k : Keyword) : Stays (expectKeyword cx k) :=
  fun s => ends_demand cx _ (fun _ _ hs _ => Cursor.reaches_moveTo_cons hs) fun _ => .refl s

theorem stays_expectAny (cx : Context) (what : Expectation) : Stays (expectAny cx what) :=
  fun s => ends_demand cx _ (fun _ _ hs _ => Cursor.reaches_moveTo_cons hs) fun _ => .refl s

/-- A statement that begins with a key word. -/
theorem takes_expectKeyword (cx : Context) (k : Keyword) {f : Unit → Parser α}
    (hf : Collects (f ()) out) (s : Cursor) :
    Ends (expectKeyword cx k >>= f) s (fun a t => s.Takes (out a) t) fun _ t => s.Reaches t := by
  rw [ends_bind]
  exact ends_demand cx _ (fun _ _ hs _ => (hf _).takes hs) fun _ => .refl s

theorem collects_commaSeparated {item : Parser α} (hitem : Collects item out) :
    Collects (commaSeparated item) fun as => as.flatMap out :=
  ends_commaSeparated Cursor.tracks_keeps hitem

/-! ## Places between statements -/

theorem skipToStatement_suffix : ∀ (d : Nat) (ls : List Lexeme), skipToStatement d ls <:+ ls
  | _, [] => List.suffix_refl _
  | d, l :: ls => by
    rw [skipToStatement]
    split
    · exact (skipToStatement_suffix (d + 1) ls).trans (List.suffix_cons l ls)
    · split
      · exact (skipToStatement_suffix (d - 1) ls).trans (List.suffix_cons l ls)
      · split
        · exact List.suffix_refl _
        · exact (skipToStatement_suffix d ls).trans (List.suffix_cons l ls)

/-- Recovery stays in the batch and passes at least one lexeme, even if the failure passed none. -/
theorem recoverFrom_suffix {start rest : List Lexeme} (h : rest <:+ start) :
    recoverFrom start rest <:+ start ∧
      (start ≠ [] → (recoverFrom start rest).length < start.length) := by
  rw [recoverFrom]
  split
  · next hlt =>
    have hskip := skipToStatement_suffix 0 rest
    exact ⟨hskip.trans h, fun _ => Nat.lt_of_le_of_lt hskip.length_le hlt⟩
  · have hskip := skipToStatement_suffix 0 (start.drop 1)
    refine ⟨hskip.trans (List.drop_suffix 1 start), fun hne => ?_⟩
    have hle := hskip.length_le
    have hpos := List.length_pos_iff.2 hne
    rw [List.length_drop] at hle
    omega

theorem exists_cons_of_switch? {ls : List Lexeme} {on : Bool} (h : switch? ls = some on) :
    ∃ l rest, ls = l :: rest := by
  cases ls with
  | nil => cases h
  | cons l rest => exact ⟨l, rest, rfl⟩

theorem skipSemicolons_suffix (ls : List Lexeme) : skipSemicolons ls <:+ ls :=
  List.dropWhile_suffix _

/-! ## Lists of statements -/

theorem listRound_nil (statement : Parser Statement) (stop : Lexeme → Bool) (done : List Statement)
    {s : Cursor} (hs : s.rest = []) : listRound statement stop done s = .ok none s := by
  rw [listRound, bind_ahead, hs]
  rfl

section

variable {statement : Parser Statement}
  (hstatement : ∀ s, Ends statement s (fun a t => s.Takes a.vars t) fun _ t => s.Reaches t)

include hstatement

theorem ends_listItem (done : List Statement) (s : Cursor) (hs : s.rest ≠ []) :
    Ends (listItem statement done) s
      (fun done' t => t.rest.length < s.rest.length ∧ ∃ ws, s.Keeps ws t ∧
        Statement.listVars done'.reverse = Statement.listVars done.reverse ++ ws)
      fun _ _ => False := by
  obtain ⟨l, ls, hrest⟩ := List.exists_cons_of_ne_nil hs
  rw [Ends, listItem_eq statement done hrest]
  cases hrun : statement s with
  | ok a t =>
    have ht := (hstatement s).ok hrun
    refine ⟨ht.progress hs, a.vars, ht.toKeeps, ?_⟩
    simp [Statement.listVars]
  | error e t =>
    have ht := (hstatement s).error hrun
    obtain ⟨hsuffix, hlt⟩ := recoverFrom_suffix ht.suffix
    have hreach : s.Reaches ((t.record e).moveTo (recoverFrom s.rest t.rest)) :=
      ⟨hsuffix, ht.overrun⟩
    rw [← hrest]
    exact ⟨hlt hs, [], hreach.keeps, (List.append_nil _).symm⟩

/-- A round of a list of statements does not fail. It passes at least one lexeme, or is the last
one. -/
theorem ends_listRound (stop : Lexeme → Bool) (done : List Statement) (s : Cursor) :
    Ends (listRound statement stop done) s
      (fun o t =>
        RoundEnd Cursor.Keeps (fun done => Statement.listVars done.reverse) done s o t ∧
          (o = none → s.rest.head?.all stop))
      fun _ _ => False := by
  rw [listRound, ends_bind, ends_ahead]
  cases hs : s.rest with
  | nil => exact ⟨rfl, fun _ => rfl⟩
  | cons l rest =>
    simp only
    split
    · next hstop => exact ⟨rfl, fun _ => hstop⟩
    · split
      · rw [ends_bind, ends_advance_one hs]
        have hreach := Cursor.reaches_moveTo_cons hs
        refine ⟨⟨(Cursor.Reaches.refl _).length_lt hs, [], hreach.keeps, ?_⟩, by simp⟩
        rw [List.append_nil]
      · rw [ends_bind]
        refine (ends_listItem hstatement done s (by simp [hs])).mono (fun done' t ht => ?_)
          fun _ _ h => h
        exact ⟨ht, by simp⟩

/-- A list of statements does not fail. It ends before a lexeme of the sort asked for, or with the
batch. -/
theorem ends_statementList (stop : Lexeme → Bool) (s : Cursor) :
    Ends (statementList statement stop) s
      (fun ss t => s.Keeps (Statement.listVars ss) t ∧ t.rest.head?.all stop)
      fun _ _ => False := by
  rw [statementList, ends_bind]
  refine ends_repeatWhile
    (I := fun (done : List Statement) t => s.Keeps (Statement.listVars done.reverse) t)
    (.refl s)
    (fun done t ht => ?_) fun done t ht hend => (ends_pure _).2 ⟨ht, by simp [hend]⟩
  refine (ends_listRound hstatement stop done t).mono (fun o u ho => ?_) fun _ _ h => h
  obtain ⟨hround, hstop⟩ := ho
  cases o with
  | none =>
    obtain rfl : u = t := hround
    exact ⟨ht, hstop rfl⟩
  | some done' =>
    obtain ⟨hlt, ws, hkeeps, hout⟩ := hround
    have hkept := ht.trans hkeeps
    rw [← show Statement.listVars done'.reverse = _ from hout] at hkept
    exact ⟨hkept, hlt⟩

theorem collects_statementList (stop : Lexeme → Bool) :
    Collects (statementList statement stop) Statement.listVars :=
  fun s => (ends_statementList hstatement stop s).mono (fun _ _ h => h.1) fun _ _ h => h.elim

end

/-! ## Declarations and assignments -/

theorem optionNames_suffix (ls : List Lexeme) : (optionNames ls).2 <:+ ls := by
  fun_induction optionNames ls with
  | case1 => exact List.suffix_refl _
  | case2 => exact List.suffix_refl _
  | case3 => exact List.suffix_refl _
  | case4 => exact List.suffix_cons _ _
  | case5 l text _ _ c cs _ names after hnames ih =>
    rw [hnames] at ih
    exact ih.trans ((List.suffix_cons c cs).trans (List.suffix_cons l _))
  | case6 => exact List.suffix_cons _ _

/-- The second lexeme is there. -/
theorem exists_cons_cons {ls : List Lexeme} {l : Lexeme} (h : ls[1]? = some l) :
    ∃ k rest, ls = k :: l :: rest := by
  cases ls with
  | nil => simp at h
  | cons k ls =>
    cases ls with
    | nil => simp at h
    | cons l' rest =>
      obtain rfl : l' = l := by simpa using h
      exact ⟨k, rest, rfl⟩

theorem stays_takeAssignment (cx : Context) : Stays (takeAssignment cx) := by
  intro s
  rw [takeAssignment, ends_bind, ends_ahead]
  cases hs : s.rest with
  | nil => exact ends_expected cx _ fun _ => .refl s
  | cons l rest =>
    simp only
    split
    · rw [ends_bind, ends_advance_one hs]
      exact Cursor.reaches_moveTo_cons hs
    · split
      · split
        · next heq =>
          obtain ⟨k, hk, -⟩ := (Option.any_eq_true _ _).1 heq
          obtain ⟨rest', rfl⟩ := List.head?_eq_some_iff.1 hk
          rw [ends_bind]
          refine ends_require cx _ ?_ fun _ => .refl s
          rw [ends_bind, ends_advance_two hs]
          exact Cursor.reaches_moveTo (hs ▸ (List.suffix_cons k rest').trans (List.suffix_cons l _))
        · exact ends_expected cx _ fun _ => .refl s
      · exact ends_expected cx _ fun _ => .refl s

theorem exists_of_assigned? {ls : List Lexeme} {v : Variable} (h : assigned? ls = some v) :
    ∃ l k rest, ls = l :: k :: rest ∧ l.variableHere? = some v := by
  unfold assigned? at h
  split at h
  · next l k rest =>
    split at h
    · exact ⟨l, k, rest, rfl, h⟩
    · exact absurd h (by simp)
  · exact absurd h (by simp)

/-- A variable and an equals sign are taken together or not at all. -/
theorem collects_takeAssigned : Collects takeAssigned Option.toList := by
  intro s
  rw [takeAssigned, ends_bind, ends_ahead]
  split
  · next v hv =>
    obtain ⟨l, k, rest, hs, hv⟩ := exists_of_assigned? hv
    rw [ends_bind, ends_advance_two hs]
    have hkeep : s.Keeps [v] (s.moveTo (k :: rest)) := (Cursor.Keeps.refl s).keep hs hv
    exact hkeep.drop (Cursor.reaches_moveTo_cons rfl)
  · exact .refl s

theorem stays_skipProcedureNumber : Stays skipProcedureNumber := by
  intro s
  rw [skipProcedureNumber, ends_bind, ends_ahead]
  split
  · next l k rest hs =>
    split
    · rw [ends_advance_two hs]
      exact Cursor.reaches_moveTo (hs ▸ (List.suffix_cons k rest).trans (List.suffix_cons l _))
    · exact .refl s
  · exact .refl s

theorem collects_takeProcedure (cx : Context) :
    Collects (takeProcedure cx) Expr.vars := by
  intro s
  rw [takeProcedure]
  refine ends_bind_nextVariable? (fun l rest v hs hv => ?_) ?_
  · simp only
    rw [ends_bind, ends_advance_one hs]
    exact (Cursor.Keeps.refl s).keep hs hv
  · exact (passes_takeName cx .name).collects.bind (.refl s) fun name t ht => ht

theorem outputMarks_suffix (ls : List Lexeme) : (outputMarks ls).2 <:+ ls := by
  fun_induction outputMarks ls with
  | case1 => exact List.suffix_refl _
  | case2 l ls _ ih => exact ih.trans (List.suffix_cons l ls)
  | case3 l ls _ _ ih => exact ih.trans (List.suffix_cons l ls)
  | case4 => exact List.suffix_refl _

theorem stays_skipRoutineOption (cx : Context) : Stays (skipRoutineOption cx) := by
  intro s
  rw [skipRoutineOption]
  refine (stays_eatIf _).bind (.refl s) fun execute t ht => ?_
  split
  · refine (stays_expectKeyword cx .AS).bind ht fun _ t ht => ?_
    exact (stays_expectAny cx _ t).mono (fun _ _ h => ht.reaches.trans h)
      fun _ _ h => ht.reaches.trans h
  · refine ends_demand cx _ (fun l rest hl _ => ?_) fun _ => ht.reaches
    exact ht.reaches.trans (Cursor.reaches_moveTo_cons hl)

theorem stays_skipRoutineOptions (cx : Context) : Stays (skipRoutineOptions cx) := by
  intro s
  rw [skipRoutineOptions]
  refine (stays_eatKeyword .WITH).bind (.refl s) fun options t ht => ?_
  split
  · refine (collects_commaSeparated (stays_skipRoutineOption cx).collects).stays.bind ht
      fun _ t ht => ht.reaches
  · exact ht.reaches

theorem stays_skipForReplication (cx : Context) : Stays (skipForReplication cx) := by
  intro s
  rw [skipForReplication]
  refine (stays_eatKeyword .FOR).bind (.refl s) fun replication t ht => ?_
  split
  · exact (stays_expectKeyword cx _ t).mono (fun _ _ h => ht.reaches.trans h)
      fun _ _ h => ht.reaches.trans h
  · exact ht.reaches

theorem ends_requireOrAlter (cx : Context) (orAlter : Bool) {Q : Unit → Cursor → Prop}
    {E : SyntaxError → Cursor → Prop} (hQ : Q () s) (hE : ∀ e, E e s) :
    Ends (requireOrAlter cx orAlter) s Q E := by
  rw [requireOrAlter]
  split
  · exact ends_require cx _ hQ hE
  · exact hQ

theorem stays_takeBlockLabel : Stays takeBlockLabel := by
  intro s
  rw [takeBlockLabel]
  refine (stays_eatKeyword .TRY).bind (.refl s) fun label t ht => ?_
  split
  · exact ht.reaches
  · refine (stays_eatKeyword .CATCH).bind ht fun label t ht => ?_
    split
    · exact ht.reaches
    · exact ht.reaches

theorem stays_expectBlockLabel (cx : Context) : ∀ label, Stays (expectBlockLabel cx label)
  | some k => stays_expectKeyword cx k
  | none => fun s => .refl s

section

variable (cx : Context) {expr : Nat → Parser Expr} (hexpr : ∀ m, Reads (expr m) Expr.vars)

include hexpr

/-- The first lexeme of a fragment belongs to it whatever it is. -/
theorem ends_fragment (s : Cursor) :
    Ends (fragment cx expr) s (fun items t => s.Takes (Expr.listVars items) t)
      fun _ t => s.Reaches t := by
  rw [fragment, ends_bind, ends_ahead]
  cases hs : s.rest with
  | nil => exact ⟨.refl s, fun h => absurd hs h⟩
  | cons l rest =>
    have hfirst : s.Keeps (Expr.listVars (l.variableHere?.map Expr.var).toList)
        (s.moveTo rest) := by
      cases hv : l.variableHere? with
      | none => exact (Cursor.reaches_moveTo_cons hs).keeps
      | some v => exact (Cursor.Keeps.refl s).keep hs hv
    simp only
    rw [ends_bind, ends_advance_one hs, ends_bind]
    refine ((reads_fragmentTail cx hexpr _).collects.takes hfirst
      ((Cursor.Reaches.refl _).length_lt hs)).mono (fun items t ht => ?_) fun _ _ h => h
    rw [ends_pure, Expr.listVars_append]
    exact ht

theorem collects_fragment : Collects (fragment cx expr) Expr.listVars :=
  fun s => (ends_fragment cx hexpr s).mono (fun _ _ h => h.toKeeps) fun _ _ h => h

theorem ends_otherStatement (s : Cursor) :
    Ends (otherStatement cx expr) s (fun a t => s.Takes a.vars t) fun _ t => s.Reaches t := by
  rw [otherStatement, ends_bind]
  exact (ends_fragment cx hexpr s).mono (fun _ _ h => h) fun _ _ h => h

theorem collects_takeDeclaration :
    Collects (takeDeclaration cx expr) Declaration.vars := by
  intro s
  rw [takeDeclaration]
  refine (reads_takeVariable cx).collects.bind (.refl s) fun name t ht => ?_
  refine (stays_eatKeyword .AS).bind ht fun _ t ht => ?_
  refine (stays_eatKeyword .TABLE).bind ht fun table t ht => ?_
  split
  · refine (stays_expect cx .leftParen).bind ht fun _ t ht => ?_
    exact (closes_parenFragment cx hexpr).stays.bind ht fun _ t ht => ht
  · refine (stays_eatKeyword .CURSOR).bind ht fun cursor t ht => ?_
    split
    · exact ht
    · refine (passes_takeTypeRef cx).collects.stays.bind ht fun type t ht => ?_
      refine ends_bind_atNext (fun l rest hl _ => ?_) ht
      rw [if_pos rfl, ends_bind]
      refine ends_require cx _ ?_ fun _ => ht.reaches
      rw [ends_bind, ends_advance_one hl]
      exact (hexpr 0).collects.bind (ht.drop (Cursor.reaches_moveTo_cons hl)) fun value t ht => ht

theorem ends_takeDeclare (s : Cursor) :
    Ends (takeDeclare cx expr) s (fun a t => s.Takes a.vars t) fun _ t => s.Reaches t := by
  rw [takeDeclare, ends_bind, ends_ahead]
  split
  · exact ends_otherStatement cx hexpr s
  · refine takes_expectKeyword cx .DECLARE (fun t => ?_) s
    exact (collects_commaSeparated (collects_takeDeclaration cx hexpr)).bind (.refl t)
      fun items t ht => ht

/-- Options that are not switched are read again as a fragment, from where they began. -/
theorem ends_takeSetOption (s : Cursor) :
    Ends (takeSetOption cx expr) s (fun a t => s.Takes a.vars t) fun _ t => s.Reaches t := by
  rw [takeSetOption, ends_bind, ends_ahead, ends_bind]
  refine ends_demand cx _ (fun l rest hs _ => ?_) fun _ => .refl s
  have hagain : Ends (do moveTo s.rest; otherStatement cx expr) (s.moveTo rest)
      (fun a t => s.Takes a.vars t) fun _ t => s.Reaches t := by
    rw [ends_bind, ends_moveTo]
    exact ends_otherStatement cx hexpr s
  rw [ends_bind, ends_ahead]
  have hafter := optionNames_suffix rest
  cases hnames : optionNames rest with
  | mk options after =>
    rw [hnames] at hafter
    simp only [Cursor.rest_moveTo, hnames]
    split
    · split
      · exact hagain
      · next on hon _ =>
        -- The jump is to behind the word that switches, and that is there.
        obtain ⟨k, ks, rfl⟩ := exists_cons_of_switch? hon
        rw [ends_bind, moveBehind_cons, ends_moveTo]
        have hks : ks <:+ rest := (List.suffix_cons k ks).trans hafter
        have hreach : (s.moveTo rest).Reaches (s.moveTo ks) := ⟨hks, rfl⟩
        exact ⟨((Cursor.reaches_moveTo_cons hs).trans hreach).keeps, fun _ => hreach.length_lt hs⟩
    · exact hagain

theorem ends_takeSet (s : Cursor) :
    Ends (takeSet cx expr) s (fun a t => s.Takes a.vars t) fun _ t => s.Reaches t := by
  rw [takeSet, ends_bind, ends_ahead]
  split
  · exact ends_takeSetOption cx hexpr s
  · next target htarget =>
    obtain ⟨l, hl, hv⟩ := Option.bind_eq_some_iff.1 htarget
    obtain ⟨k, rest, hs⟩ := exists_cons_cons hl
    rw [ends_bind, ends_advance_two hs]
    refine Ends.takes hs ?_
    have htarget : (s.moveTo (l :: rest)).Keeps [target] (s.moveTo rest) :=
      (Cursor.Keeps.refl _).keep rfl hv
    refine (stays_takeAssignment cx).bind htarget fun op t ht => ?_
    rw [ends_bind, ends_atNext]
    split
    · exact (collects_fragment cx hexpr).bind ht fun items t ht => ht
    · exact (hexpr 0).collects.bind ht fun value t ht => ht

/-! ## Calls -/

theorem collects_takeArgumentValue :
    Collects (takeArgumentValue expr) Expr.optionVars := by
  intro s
  rw [takeArgumentValue]
  refine (stays_eatKeyword .DEFAULT).bind (.refl s) fun default t ht => ?_
  split
  · exact ht
  · exact (hexpr 0).collects.bind ht fun e t ht => ht

theorem collects_takeArgument : Collects (takeArgument expr) Argument.vars := by
  intro s
  rw [takeArgument]
  refine collects_takeAssigned.bind (.refl s) fun name t ht => ?_
  refine (collects_takeArgumentValue hexpr).bind ht fun value t ht => ?_
  exact (stays_eatIf _).bind ht fun output t ht => ht

theorem collects_takeArguments :
    Collects (takeArguments expr) fun as => as.flatMap Argument.vars := by
  intro s
  rw [takeArguments, ends_bind, ends_ahead]
  split
  · exact .refl s
  · exact collects_commaSeparated (collects_takeArgument hexpr) s

theorem stays_skipCallOptions : Stays (skipCallOptions cx expr) := by
  intro s
  rw [skipCallOptions, ends_bind, ends_atNext]
  split
  · exact (collects_fragment cx hexpr).stays.bind (.refl s) fun _ t ht => ht.reaches
  · exact .refl s

theorem ends_takeExecute {l : Lexeme} {rest : List Lexeme} (hs : s.rest = l :: rest) :
    Ends (takeExecute cx expr) s (fun a t => s.Takes a.vars t) fun _ t => s.Reaches t := by
  rw [takeExecute, ends_bind, ends_ahead, ends_bind, ends_advance_one hs]
  refine Ends.takes hs ?_
  refine (stays_eat .leftParen).bind (.refl _) fun paren t ht => ?_
  split
  · refine (closes_parenFragment cx hexpr).collects.bind ht fun inside t ht => ?_
    refine (reads_fragmentTail cx hexpr false).collects.bind ht fun behind t ht => ?_
    rw [ends_pure, Statement.vars, Expr.listVars_append]
    exact ht
  · refine collects_takeAssigned.bind ht fun status t ht => ?_
    refine (collects_takeProcedure cx).bind ht fun procedure t ht => ?_
    refine stays_skipProcedureNumber.bind ht fun _ t ht => ?_
    refine (collects_takeArguments hexpr).bind ht fun arguments t ht => ?_
    exact (stays_skipCallOptions cx hexpr).bind ht fun _ t ht => ht

/-! ## Procedures and functions -/

theorem collects_takeDefault : Collects (takeDefault expr) Expr.optionVars := by
  intro s
  rw [takeDefault]
  refine (stays_eat .eq).bind (.refl s) fun equals t ht => ?_
  split
  · exact (hexpr 0).collects.bind ht fun e t ht => ht
  · exact ht

theorem collects_takeParameter : Collects (takeParameter cx expr) Parameter.vars := by
  intro s
  rw [takeParameter]
  refine (reads_takeVariable cx).collects.bind (.refl s) fun name t ht => ?_
  refine (stays_eatKeyword .AS).bind ht fun _ t ht => ?_
  refine (passes_takeTypeRef cx).collects.stays.bind ht fun type t ht => ?_
  refine (stays_eatKeyword .VARYING).bind ht fun _ t ht => ?_
  refine (collects_takeDefault hexpr).bind ht fun default t ht => ?_
  rw [ends_bind, ends_ahead, ends_bind, ends_moveTo]
  exact ht.drop (Cursor.reaches_moveTo (outputMarks_suffix t.rest))

theorem collects_takeParameters :
    Collects (takeParameters cx expr) fun ps => ps.flatMap Parameter.vars := by
  intro s
  rw [takeParameters]
  refine ends_bind_nextVariable? (fun l rest v hs hv => ?_) ?_
  · exact collects_commaSeparated (collects_takeParameter cx hexpr) s
  · exact .refl s

theorem collects_takeProcedureParameters :
    Collects (takeProcedureParameters cx expr) fun ps => ps.flatMap Parameter.vars := by
  intro s
  rw [takeProcedureParameters]
  refine (stays_eat .leftParen).bind (.refl s) fun paren t ht => ?_
  split
  · refine (collects_takeParameters cx hexpr).bind ht fun parameters t ht => ?_
    exact (stays_expect cx .rightParen).bind ht fun _ t ht => ht
  · exact (collects_takeParameters cx hexpr).from ht

theorem collects_takeResult : Collects (takeResult cx expr) Option.toList := by
  intro s
  rw [takeResult]
  refine ends_bind_nextVariable? (fun l rest v hs hv => ?_) ?_
  · simp only
    rw [ends_bind, ends_advance_one hs]
    have ht : s.Keeps [v] (s.moveTo rest) := (Cursor.Keeps.refl s).keep hs hv
    refine (stays_expectKeyword cx .TABLE).bind ht fun _ t ht => ?_
    refine (stays_expect cx .leftParen).bind ht fun _ t ht => ?_
    exact (closes_parenFragment cx hexpr).stays.bind ht fun _ t ht => ht
  · refine (stays_eatKeyword .TABLE).bind (.refl s) fun table t ht => ?_
    split
    · exact ht
    · exact (passes_takeTypeRef cx).collects.stays.bind ht fun _ t ht => ht

variable {statement : Parser Statement}
  (hstatement : ∀ s, Ends statement s (fun a t => s.Takes a.vars t) fun _ t => s.Reaches t)

include hstatement

theorem collects_takeProcedureDefinition (line : Nat) :
    Collects (takeProcedureDefinition cx expr statement line) Statement.vars := by
  intro s
  rw [takeProcedureDefinition]
  refine (passes_takeName cx .name).collects.stays.bind (.refl s) fun name t ht => ?_
  refine stays_skipProcedureNumber.bind ht fun _ t ht => ?_
  refine (collects_takeProcedureParameters cx hexpr).bind ht fun parameters t ht => ?_
  refine (stays_skipRoutineOptions cx).bind ht fun _ t ht => ?_
  refine (stays_skipForReplication cx).bind ht fun _ t ht => ?_
  refine (stays_expectKeyword cx .AS).bind ht fun _ t ht => ?_
  exact (collects_statementList hstatement _).bind ht fun body t ht => ht

theorem collects_takeFunctionDefinition (line : Nat) :
    Collects (takeFunctionDefinition cx expr statement line) Statement.vars := by
  intro s
  rw [takeFunctionDefinition]
  refine (passes_takeName cx .name).collects.stays.bind (.refl s) fun name t ht => ?_
  refine (stays_expect cx .leftParen).bind ht fun _ t ht => ?_
  refine (collects_takeParameters cx hexpr).bind ht fun parameters t ht => ?_
  refine (stays_expect cx .rightParen).bind ht fun _ t ht => ?_
  refine (stays_expectKeyword cx .RETURNS).bind ht fun _ t ht => ?_
  refine (collects_takeResult cx hexpr).bind ht fun result t ht => ?_
  refine (stays_skipRoutineOptions cx).bind ht fun _ t ht => ?_
  refine (stays_eatKeyword .AS).bind ht fun _ t ht => ?_
  exact (collects_statementList hstatement _).bind ht fun body t ht => ht

/-- A definition begins behind the word that says what is defined, which is there. -/
theorem ends_takeCreate (s : Cursor) :
    Ends (takeCreate cx expr statement) s (fun a t => s.Takes a.vars t)
      fun _ t => s.Reaches t := by
  have hdefinition : ∀ {p : Parser Statement} {offset : Nat} {orAlter : Bool} {l : Lexeme},
      Collects p Statement.vars → s.rest[offset]? = some l →
      Ends (do requireOrAlter cx orAlter; advance (offset + 1); p) s
        (fun a t => s.Takes a.vars t) fun _ t => s.Reaches t := by
    intro p offset orAlter l hp hl
    have hlen : offset < s.rest.length := (List.getElem?_eq_some_iff.1 hl).1
    have hs : s.rest = s.rest.take (offset + 1) ++ s.rest.drop (offset + 1) :=
      (List.take_append_drop _ _).symm
    rw [ends_bind]
    refine ends_requireOrAlter cx orAlter ?_ fun _ => .refl s
    rw [ends_bind, ends_advance hs (by rw [List.length_take]; omega)]
    refine hp.takes (Cursor.reaches_moveTo (List.drop_suffix _ _)).keeps ?_
    rw [Cursor.rest_moveTo, List.length_drop]
    omega
  rw [takeCreate, ends_bind, ends_ahead]
  extract_lets line orAlter offset
  split
  · next h =>
    obtain ⟨l, hl, -⟩ := Option.bind_eq_some_iff.1 h
    exact hdefinition (collects_takeFunctionDefinition cx hexpr hstatement _) hl
  · next h =>
    obtain ⟨l, hl, -⟩ := Option.bind_eq_some_iff.1 h
    exact hdefinition (collects_takeProcedureDefinition cx hexpr hstatement _) hl
  · next h =>
    obtain ⟨l, hl, -⟩ := Option.bind_eq_some_iff.1 h
    exact hdefinition (collects_takeProcedureDefinition cx hexpr hstatement _) hl
  · exact ends_otherStatement cx hexpr s

/-! ## Control flow -/

theorem ends_takeBegin (s : Cursor) :
    Ends (takeBegin cx expr statement) s (fun a t => s.Takes a.vars t)
      fun _ t => s.Reaches t := by
  rw [takeBegin, ends_bind, ends_ahead]
  split
  · exact ends_otherStatement cx hexpr s
  · refine takes_expectKeyword cx .BEGIN (fun t => ?_) s
    refine stays_takeBlockLabel.bind (.refl t) fun label u hu => ?_
    refine (collects_statementList hstatement _).bind hu fun body u hu => ?_
    refine (stays_expectKeyword cx .END).bind hu fun _ u hu => ?_
    exact (stays_expectBlockLabel cx label).bind hu fun _ u hu => hu

omit hexpr in
theorem collects_takeBody : Collects (takeBody cx statement) Statement.vars := by
  intro s
  have hskip := skipSemicolons_suffix s.rest
  rw [takeBody, ends_bind, ends_ahead]
  split
  · next hrest =>
    rw [hrest] at hskip
    rw [ends_bind, ends_moveTo]
    exact ends_expected cx _ fun _ => Cursor.reaches_moveTo hskip
  · have hreach := Cursor.reaches_moveTo hskip
    rw [ends_bind, ends_moveTo]
    exact (hstatement _).mono (fun a t ht => hreach.keeps.trans ht.toKeeps)
      fun _ t ht => hreach.trans ht

theorem ends_takeIf (s : Cursor) :
    Ends (takeIf cx expr statement) s (fun a t => s.Takes a.vars t)
      fun _ t => s.Reaches t := by
  rw [takeIf]
  refine takes_expectKeyword cx .IF (fun b => ?_) s
  refine (hexpr 0).collects.bind (.refl b) fun condition t ht => ?_
  refine (collects_takeBody cx hstatement).bind ht fun body t ht => ?_
  have halone : b.Keeps (Statement.conditional condition body none).vars t := by
    simpa [Statement.vars, Statement.optionVars] using ht
  have hskip := skipSemicolons_suffix t.rest
  rw [ends_bind, ends_ahead]
  split
  · next l rest hrest =>
    rw [hrest] at hskip
    split
    · rw [ends_bind, moveBehind_cons, ends_moveTo]
      have hmove : t.Reaches (t.moveTo rest) :=
        Cursor.reaches_moveTo ((List.suffix_cons l rest).trans hskip)
      refine (collects_takeBody cx hstatement).bind (ht.drop hmove) fun otherwise t ht => ?_
      exact ht
    · exact halone
  · exact halone

theorem ends_takeWhile (s : Cursor) :
    Ends (takeWhile cx expr statement) s (fun a t => s.Takes a.vars t)
      fun _ t => s.Reaches t := by
  rw [takeWhile]
  refine takes_expectKeyword cx .WHILE (fun b => ?_) s
  refine (hexpr 0).collects.bind (.refl b) fun condition t ht => ?_
  refine (collects_takeBody cx hstatement).bind ht fun body t ht => ?_
  simpa [ends_pure, Statement.vars, Statement.optionVars] using ht

omit hstatement in
theorem ends_takeReturn (s : Cursor) :
    Ends (takeReturn cx expr) s (fun a t => s.Takes a.vars t) fun _ t => s.Reaches t := by
  rw [takeReturn]
  refine takes_expectKeyword cx .RETURN (fun b => ?_) s
  rw [ends_bind, ends_ahead]
  split
  · exact .refl b
  · exact (hexpr 0).collects.bind (.refl b) fun value t ht => ht

omit hstatement in
theorem ends_takeSelect {l : Lexeme} {rest : List Lexeme} (hs : s.rest = l :: rest) :
    Ends (takeSelect cx expr) s (fun a t => s.Takes a.vars t) fun _ t => s.Reaches t := by
  rw [takeSelect, ends_bind, ends_ahead]
  split
  · exact ends_otherStatement cx hexpr s
  · rw [ends_bind, ends_advance_one hs]
    exact ends_unexpected cx fun _ => Cursor.reaches_moveTo_cons hs

theorem ends_takeStatement (s : Cursor) :
    Ends (takeStatement cx expr statement) s (fun a t => s.Takes a.vars t)
      fun _ t => s.Reaches t := by
  have hcons : ∀ {k}, s.rest.head?.bind Lexeme.dispatch? = some k →
      ∃ l rest, s.rest = l :: rest := by
    intro k hk
    obtain ⟨l, hl, -⟩ := Option.bind_eq_some_iff.1 hk
    obtain ⟨rest, hs⟩ := List.head?_eq_some_iff.1 hl
    exact ⟨l, rest, hs⟩
  rw [takeStatement, ends_bind, ends_ahead]
  split
  · exact ends_takeDeclare cx hexpr s
  · exact ends_takeSet cx hexpr s
  · next h =>
    obtain ⟨l, rest, hs⟩ := hcons h
    exact ends_takeExecute cx hexpr hs
  · next h =>
    obtain ⟨l, rest, hs⟩ := hcons h
    exact ends_takeExecute cx hexpr hs
  · exact ends_takeCreate cx hexpr hstatement s
  · exact ends_takeCreate cx hexpr hstatement s
  · exact ends_takeBegin cx hexpr hstatement s
  · exact ends_takeIf cx hexpr hstatement s
  · exact ends_takeWhile cx hexpr hstatement s
  · exact ends_takeReturn cx hexpr s
  · next h =>
    obtain ⟨l, rest, hs⟩ := hcons h
    exact ends_takeSelect cx hexpr hs
  · exact ends_unexpected cx fun _ => .refl s
  · exact ends_unexpected cx fun _ => .refl s
  · exact ends_otherStatement cx hexpr s

end

/-- A statement keeps its variables in order and takes at least one lexeme, at every level. -/
theorem ends_statement (cx : Context) : ∀ levels s,
    Ends (statement cx levels) s (fun a t => s.Takes a.vars t) fun _ t => s.Reaches t
  | 0, s => ends_tooDeep cx fun _ => .refl s
  | levels + 1, s => ends_takeStatement cx (reads_expr cx levels) (ends_statement cx levels) s

end Parser

end SqlLint
