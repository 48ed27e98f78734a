import SqlLint.Proofs.Parse.Confine
import SqlLint.Proofs.Parse.Exact

/-!
# Where a block ends

The statements of a block are read up to the first `END` at which a statement could begin. The scan
of a statement that is not understood counts the `CASE`s that are open, so that the `END` of a
`CASE` does not end the block. The recovery from an error does not count them. If the error stands
between a `CASE` and its `END`, recovery comes to that `END`, and the block ends there, before its
own.

Without such an `END` an error changes nothing: what stands before the last semicolon of the block
stays before it, and the block ends with the `END` behind it. Whether recovery comes to an `END`
shows outside a block, where a list does not stop at an `END` but takes it for an error: up to the
first `END` the two lists read the same.

## Main results

* `Parser.statement_eq_block`: a block ends with its own `END` if no other one stands in it, or if
  no error is recorded at one
* `Parser.not_statement_eq_block`: the `END` of a `CASE` can end it
-/

namespace SqlLint

namespace Parser

variable {cx : Context} {levels : Nat}

/-- If the lexemes are read to their end as statements, no error is recorded at an `END`. -/
def NoStrayEnd (cx : Context) (levels : Nat) (ls : List Lexeme) : Prop :=
  Ends (statementList (statement cx levels) fun _ => false) ⟨ls, []⟩
    (fun _ t => ∀ l : Lexeme, l.isKeyword .END → .unexpected l.line l.token ∉ t.errors)
    fun _ _ => False

theorem isNumber_of_isKeyword {k : Keyword} {l : Lexeme} (h : l.isKeyword k) :
    l.isNumber = false := by
  obtain ⟨text, htext, -⟩ := Option.bind_eq_some_iff.1 (of_decide_eq_true h)
  cases htoken : l.token with
  | number digits decimal => simp [htoken, Token.plainWord?] at htext
  | _ => simp [Lexeme.isNumber, htoken, Token.isNumber]

/-- No statement begins with `END`. -/
theorem statement_end (cx : Context) (levels : Nat) {s : Cursor} {l : Lexeme} {ls : List Lexeme}
    (hs : s.rest = l :: ls) (hl : l.isKeyword .END) :
    statement cx (levels + 1) s = .error (.unexpected l.line l.token) s := by
  have hdispatch : l.dispatch? = some .END := Lexeme.dispatch?_of_keyword? (of_decide_eq_true hl)
  simp [statement, takeStatement, bind, EStateM.bind, ahead, hs, hdispatch, unexpected]

/-- A list that never stops records an error at an `END`, and keeps it to the end of the batch. -/
theorem not_noStrayEnd {ls ms : List Lexeme} {l : Lexeme} {done : List Statement} {t : Cursor}
    (h : Steps (listRound (statement cx (levels + 1)) fun _ => false) [] ⟨ls, []⟩ done t)
    (ht : t.rest = l :: ms) (hl : l.isKeyword .END) : ¬NoStrayEnd cx (levels + 1) ls := by
  intro hstray
  have hmark : l.isMark .semicolon = false := Lexeme.isMark_of_isKeyword hl _
  -- the round at `END`, and the rounds behind it
  let u := (t.record (.unexpected l.line l.token)).moveTo (recoverFrom (l :: ms) t.rest)
  have hround : listRound (statement cx (levels + 1)) (fun _ => false) done t =
      .ok (some done) u := by
    rw [listRound_cons _ _ _ ht, statement_end cx levels ht hl]
    simp [hmark, recovered, u]
  have hlt : u.rest.length < t.rest.length := by
    have hskip := (recoverFrom_suffix (List.suffix_refl (l :: ms))).2 (List.cons_ne_nil l ms)
    simpa [u, ht] using hskip
  obtain ⟨more, v, hmore, hv⟩ := exists_steps_end cx (levels + 1) ⟨u.rest, []⟩
  have hcarry := hmore.carry u done
  rw [List.nil_append, u.carry_start rfl] at hcarry
  have hsteps := h.trans (.cons hround hlt hcarry)
  refine hstray.ok (hsteps.statementList_eq (listRound_nil _ _ _ hv)) l hl ?_
  simp [Cursor.carry, u, Cursor.moveTo, Cursor.record]

/-- A block whose statements stop before its `END`. -/
theorem takeBegin_eq {expr : Nat → Parser Expr} {statement : Parser Statement} {s t : Cursor}
    {b l e : Lexeme} {key : Keyword} {ls ms : List Lexeme} {body : List Statement}
    (hs : s.rest = b :: l :: ls) (hb : b.isKeyword .BEGIN) (hl : l.keyword? = some key)
    (hblock : beginsNoBlock key = false) (htry : key ≠ .TRY) (hcatch : key ≠ .CATCH)
    (hbody : statementList statement (Lexeme.isKeyword .END) (s.moveTo (l :: ls)) = .ok body t)
    (ht : t.rest = e :: ms) (he : e.isKeyword .END) :
    takeBegin cx expr statement s = .ok (.block body) (t.moveTo ms) := by
  have hlabel : ∀ k, key ≠ k → l.isKeyword k = false := by
    intro k hk
    simp [Lexeme.isKeyword, hl, hk]
  have hbegins : ¬((s.rest[1]?.bind Lexeme.keyword?).any beginsNoBlock) := by
    simp [hs, hl, hblock]
  have hnone : Parses takeBlockLabel (l :: ls) none (l :: ls) :=
    parses_bind_eatIf_no (hlabel .TRY htry)
      (parses_bind_eatIf_no (hlabel .CATCH hcatch) (parses_pure none _))
  rw [takeBegin]
  refine bind_eq_ok rfl ?_
  rw [if_neg hbegins]
  refine bind_eq_ok (parses_expectKeyword hb s hs) ?_
  refine bind_eq_ok (hnone _ rfl) ?_
  refine bind_eq_ok hbody ?_
  exact bind_eq_ok (parses_expectKeyword he t ht) rfl

/-- **Where a block ends.** Let `A` begin with `SET`, close all its parentheses and have none of the
key words `BEGIN`, `IF`, `WHILE`, `CREATE`, `ALTER` and `COLLATE` in it. If `END` does not stand in
it either, or if reading `A;` by itself records no error at an `END`, then `BEGIN A; END` is read as
a block up to its own `END`, whatever stands behind it, and however malformed `A` is. -/
theorem statement_eq_block {b semicolon e : Lexeme} {A rest : List Lexeme}
    (hb : b.isKeyword .BEGIN) (hset : A.head?.any (Lexeme.isKeyword .SET))
    (hclosed : openAfter 0 A = 0) (hplain : ∀ l ∈ A, ¬l.keyword?.any Keyword.reachesOut)
    (hsemicolon : semicolon.isMark .semicolon) (he : e.isKeyword .END)
    (hA : (∀ l ∈ A, ¬l.isKeyword .END) ∨ NoStrayEnd cx (levels + 1) (A ++ [semicolon]))
    {s : Cursor} (hs : s.rest = b :: (A ++ semicolon :: e :: rest)) :
    ∃ body t, statement cx (levels + 2) s = .ok (.block body) t ∧ t.rest = rest := by
  obtain ⟨l, A, rfl⟩ : ∃ l A', A = l :: A' := by
    cases A with
    | nil => simp at hset
    | cons l A => exact ⟨l, A, rfl⟩
  have hl : l.isKeyword .SET := hset
  -- beside the list in the block, a list over `A;` that never stops
  let f : Fence :=
    { first := cx, second := cx, inside := l :: A, semicolon, behind := e :: rest, behind' := []
      version := rfl, closed := hclosed, plain := hplain, isSemicolon := hsemicolon
      noNumber := isNumber_of_isKeyword he, noNumber' := rfl }
  obtain ⟨done, t, u, hsteps, hsteps', -, hend⟩ :=
    f.exists_steps_behind (Lexeme.isKeyword .END) (fun _ => false) (f.isKeyword_semicolon _) rfl
      (levels + 1) (l :: A) [] ⟨f.ahead (l :: A), []⟩ ⟨f.ahead' (l :: A), []⟩ (List.suffix_refl _)
      ⟨rfl, rfl, rfl⟩
  have ht : t.rest = e :: rest := by
    rcases hend with ⟨ht, -⟩ | ⟨k, Y, hY, htu, hstop⟩
    · exact ht
    · have hk : k.isKeyword .END := by simpa using hstop
      rcases hA with hnone | hstray
      · exact absurd hk (hnone k (hY.subset (List.mem_cons_self ..)))
      · exact absurd hstray (not_noStrayEnd hsteps' htu.rest' hk)
  -- the same in the block, behind all that has been read and recorded before it
  let base := s.moveTo (f.ahead (l :: A))
  have hbase : base.rest = f.ahead (l :: A) := rfl
  have hbody := hsteps.carry base []
  rw [List.append_nil, List.append_nil, base.carry_start hbase] at hbody
  have hlast : listRound (statement cx (levels + 1)) (Lexeme.isKeyword .END) done (base.carry t) =
      .ok none (base.carry t) := by
    have hcarry : (base.carry t).rest = e :: rest := ht
    rw [listRound_cons _ _ _ hcarry, if_pos he]
  refine ⟨done.reverse, (base.carry t).moveTo rest, ?_, rfl⟩
  have hdispatch : b.dispatch? = some .BEGIN := Lexeme.dispatch?_of_keyword? (of_decide_eq_true hb)
  rw [statement, takeStatement]
  refine bind_eq_ok rfl ?_
  simp only [hs, List.head?_cons, Option.bind_some, hdispatch]
  exact takeBegin_eq hs hb (of_decide_eq_true hl) rfl (by decide) (by decide)
    (hbody.statementList_eq hlast) ht he

/-- The first statement of `SET @x = ; SET @y = CASE WHEN 1 = 2 THEN 3 END;` is an error, but it
does not stand inside the `CASE`. -/
theorem statement_eq_block_error_before_case :
    let A : List Lexeme := [⟨.word "SET" none, 1, false⟩, ⟨.word "@x" none, 1, false⟩,
      ⟨.mark .eq, 1, false⟩, ⟨.mark .semicolon, 1, false⟩, ⟨.word "SET" none, 1, false⟩,
      ⟨.word "@y" none, 1, false⟩, ⟨.mark .eq, 1, false⟩, ⟨.word "CASE" none, 1, false⟩,
      ⟨.word "WHEN" none, 1, false⟩, ⟨.number "1" false, 1, false⟩, ⟨.mark .eq, 1, false⟩,
      ⟨.number "2" false, 1, false⟩, ⟨.word "THEN" none, 1, false⟩, ⟨.number "3" false, 1, false⟩,
      ⟨.word "END" none, 1, false⟩]
    let batch : List Lexeme := ⟨.word "BEGIN" none, 1, true⟩ ::
      (A ++ [⟨.mark .semicolon, 1, false⟩, ⟨.word "END" none, 1, false⟩])
    ∃ body t, topStatement (.ofBatch .sql2014 batch) ⟨batch, []⟩ = .ok (.block body) t ∧
      t.rest = [] := by
  intro A batch
  have hstray : NoStrayEnd (.ofBatch .sql2014 batch) 127 (A ++ [⟨.mark .semicolon, 1, false⟩]) := by
    intro l hl hmem
    have herror : .unexpected l.line l.token ∈ [SyntaxError.unexpected 1 (.mark .semicolon)] := hmem
    have hmark : l.isMark .semicolon = false := Lexeme.isMark_of_isKeyword hl _
    simp_all [Lexeme.isMark]
  exact statement_eq_block (by decide) (by decide) (by decide) (by decide) (by decide) (by decide)
    (.inr hstray) rfl

/-- Whether every `END` and `ELSE` stands behind a `CASE` that is still open, `d` of them being open
before, and every `CASE` is closed. -/
def casesClosed : Nat → List Lexeme → Bool
  | d, [] => d = 0
  | d, l :: ls =>
    if l.isKeyword .CASE then casesClosed (d + 1) ls
    else if l.isKeyword .END then 0 < d && casesClosed (d - 1) ls
    else if l.isKeyword .ELSE then 0 < d && casesClosed d ls
    else casesClosed d ls

/-- **An error inside a `CASE` ends the block.** In `BEGIN SET @x = CASE WHEN 1 = 2 3 END; END` the
error at the `3` is recovered from at the `END` of the `CASE`, and the block ends there. -/
theorem not_statement_eq_block :
    ¬∀ (version : Version) (b semicolon e : Lexeme) (A : List Lexeme), b.isKeyword .BEGIN →
      A.head?.any (Lexeme.isKeyword .SET) → openAfter 0 A = 0 →
      (∀ l ∈ A, ¬l.keyword?.any Keyword.reachesOut) → casesClosed 0 A →
      semicolon.isMark .semicolon → e.isKeyword .END →
      let batch := b :: (A ++ [semicolon, e])
      ∃ body t, topStatement (.ofBatch version batch) ⟨batch, []⟩ = .ok (.block body) t ∧
        t.rest = [] := by
  intro hall
  let A : List Lexeme := [⟨.word "SET" none, 1, false⟩, ⟨.word "@x" none, 1, false⟩,
    ⟨.mark .eq, 1, false⟩, ⟨.word "CASE" none, 1, false⟩, ⟨.word "WHEN" none, 1, false⟩,
    ⟨.number "1" false, 1, false⟩, ⟨.mark .eq, 1, false⟩, ⟨.number "2" false, 1, false⟩,
    ⟨.number "3" false, 1, false⟩, ⟨.word "END" none, 1, false⟩]
  obtain ⟨body, t, hrun, ht⟩ := hall .sql2014 ⟨.word "BEGIN" none, 1, true⟩
    ⟨.mark .semicolon, 1, false⟩ ⟨.word "END" none, 1, false⟩ A
    (by decide) (by decide) (by decide) (by decide) (by decide) (by decide) (by decide)
  cases hrun
  cases ht

end Parser

end SqlLint
