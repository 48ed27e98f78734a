import SqlLint.Proofs.Parse.Nesting

/-!
# Chains of operators and the height of trees

How high the trees of a batch can be. Their nesting is limited by the levels of the reader, and a
tree is no higher than its nesting and its chains of left operands allow. So the heights that occur
over a set of batches are bounded if the chains are, and clearly not otherwise.

Nothing bounds the chains. A sum of ones is read by a single loop at a single level, and its tree
is a chain as long as the sum. Whatever goes down the trees by calling itself is therefore limited
by the text alone.

## Main results

* `heights_bounded_iff_chains_bounded`: heights are bounded exactly where chains are
* `not_heights_bounded`: they are not bounded over all batches
-/

namespace SqlLint

/-- **Over any set of batches, the heights of expressions are bounded exactly if their chains of
left operands are.** For each expression by itself the height lies between the longest chain in it
and a multiple of that chain which depends on nothing else but the number of levels. -/
theorem heights_bounded_iff_chains_bounded (inputs : Version → List Lexeme → Prop) :
    (∀ version batch, ∀ e ∈ Statement.listExprs (parseBatch version batch).1,
      e.longestChain ≤ e.height ∧ e.height ≤ 3 * maxDepth * (e.longestChain + 1)) ∧
    ((∃ bound, ∀ version batch, inputs version batch →
        ∀ e ∈ Statement.listExprs (parseBatch version batch).1, e.height ≤ bound) ↔
      ∃ longest, ∀ version batch, inputs version batch →
        ∀ e ∈ Statement.listExprs (parseBatch version batch).1, e.longestChain ≤ longest) := by
  have hheight : ∀ version batch, ∀ e ∈ Statement.listExprs (parseBatch version batch).1,
      e.height ≤ 3 * maxDepth * (e.longestChain + 1) := by
    intro version batch e he
    calc e.height ≤ e.nesting * (e.longestChain + 1) := e.height_le
      _ ≤ 3 * maxDepth * (e.longestChain + 1) :=
          Nat.mul_le_mul_right _ (nesting_le_of_mem_parseBatch he)
  refine ⟨fun version batch e he => ⟨e.longestChain_le_height, hheight version batch e he⟩, ?_, ?_⟩
  · rintro ⟨bound, hbound⟩
    refine ⟨bound, fun version batch hinput e he => ?_⟩
    exact Nat.le_trans e.longestChain_le_height (hbound version batch hinput e he)
  · rintro ⟨longest, hchain⟩
    refine ⟨3 * maxDepth * (longest + 1), fun version batch hinput e he => ?_⟩
    have hlongest := hchain version batch hinput e he
    exact Nat.le_trans (hheight version batch e he)
      (Nat.mul_le_mul_left _ (Nat.succ_le_succ hlongest))

/-! ## Sums of any length

`RETURN 1 + 1 + … + 1` is read without an error at a single level, and its tree is as high as the
sum is long. -/

/-- The text `+ 1` so many times in a row. -/
def plusOnes : Nat → List Lexeme
  | 0 => []
  | k + 1 => ⟨.mark .plus, 1, false⟩ :: ⟨.number "1" false, 1, false⟩ :: plusOnes k

/-- The statement that returns a sum of ones. -/
def returnSum (k : Nat) : List Lexeme :=
  ⟨.word "RETURN" none, 1, true⟩ :: ⟨.number "1" false, 1, false⟩ :: plusOnes k

/-- An expression with so many ones added to it. -/
def Expr.plusOnes : Nat → Expr → Expr
  | 0, e => e
  | k + 1, e => plusOnes k (.binary .plus e (.number "1"))

theorem Expr.height_plusOnes : ∀ (k : Nat) (e : Expr), e.height + k ≤ (e.plusOnes k).height
  | 0, e => Nat.le_refl _
  | k + 1, e => by
    have ih := height_plusOnes k (.binary .plus e (.number "1"))
    have hstep : e.height + 1 ≤ (Expr.binary .plus e (.number "1")).height := by
      rw [height, height, depth]
      exact Nat.le_max_left _ _
    rw [plusOnes]
    omega

namespace Parser

variable (cx : Context) {deeper : Nat → Parser Expr} {s : Cursor}

theorem ends_takeHead_one {rest : List Lexeme}
    (hs : s.rest = ⟨.number "1" false, 1, false⟩ :: rest) :
    Ends (takeHead cx deeper) s (fun e t => e = .number "1" ∧ t = s.moveTo rest)
      fun _ _ => False := by
  rw [takeHead, ends_bind, ends_ahead, hs]
  dsimp only
  rw [ends_bind, ends_advance_one hs]
  exact ⟨rfl, rfl⟩

/-- There is no collation in a sum, so a round over it is a look for an operator. -/
theorem ends_infixRound_plusOnes {minPower : Nat} {left : Expr} {k : Nat}
    {Q : Option Expr → Cursor → Prop} {E : SyntaxError → Cursor → Prop} (hs : s.rest = plusOnes k)
    (h : Ends (match BinaryOp.atStart? (plusOnes k) with
      | none => return none
      | some (op, width) =>
        if op.leftPower < minPower then return none
        else do
          advance width
          let right ← takeRight cx deeper op
          return some (.binary op left right)) s Q E) :
    Ends (infixRound cx deeper minPower left) s Q E := by
  rw [infixRound]
  refine ends_bind_eatIf (fun l rest hl hcollate => ?_) ?_
  · cases k with
    | zero => simp [hs, plusOnes] at hl
    | succ i =>
      rw [hs, plusOnes] at hl
      cases hl
      exact absurd hcollate (by decide)
  · rw [if_neg (by decide), ends_bind, ends_ahead, hs]
    exact h

/-- The right operand of a sum ends before the next operator. -/
theorem ends_expr_one (levels : Nat) {k : Nat}
    (hs : s.rest = ⟨.number "1" false, 1, false⟩ :: plusOnes k) :
    Ends (expr cx (levels + 1) 10) s (fun e t => e = .number "1" ∧ t = s.moveTo (plusOnes k))
      fun _ _ => False := by
  rw [expr, operatorChain, ends_bind]
  refine (ends_takeHead_one cx hs).mono (fun e t ht => ?_) fun _ _ h => h
  refine ends_repeatWhile (I := fun e t => e = .number "1" ∧ t = s.moveTo (plusOnes k)) ht
    (fun e t ht => ?_) fun e t ht _ => ht
  obtain ⟨rfl, rfl⟩ := ht
  refine ends_infixRound_plusOnes cx rfl ?_
  cases k with
  | zero => exact ⟨rfl, rfl⟩
  | succ i => exact ⟨rfl, rfl⟩

/-- A sum is read at one level, however long it is. -/
theorem ends_expr_sum (levels : Nat) {k : Nat}
    (hs : s.rest = ⟨.number "1" false, 1, false⟩ :: plusOnes k) :
    Ends (expr cx (levels + 2) 0) s
      (fun e t => e = (Expr.number "1").plusOnes k ∧ t.rest = []) fun _ _ => False := by
  rw [expr, operatorChain, ends_bind]
  refine (ends_takeHead_one cx hs).mono (fun e t ht => ?_) fun _ _ h => h
  -- what is still to be added makes up the sum at every round
  refine ends_repeatWhile (I := fun e t => ∃ i, t.rest = plusOnes i ∧
    e.plusOnes i = (Expr.number "1").plusOnes k) ?_ (fun e t ht => ?_) fun e t ht hend => ?_
  · obtain ⟨rfl, rfl⟩ := ht
    exact ⟨k, rfl, rfl⟩
  · obtain ⟨i, hrest, hsum⟩ := ht
    refine ends_infixRound_plusOnes cx hrest ?_
    cases i with
    | zero => exact ⟨hsum, hrest⟩
    | succ i =>
      change Ends (do
        advance 1
        let right ← expr cx (levels + 1) 10
        return some (Expr.binary .plus e right)) t _ _
      rw [ends_bind, ends_advance_one hrest, ends_bind]
      refine (ends_expr_one cx levels rfl).mono (fun right u hu => ?_) fun _ _ h => h
      obtain ⟨rfl, rfl⟩ := hu
      refine ⟨⟨i, rfl, hsum⟩, ?_⟩
      rw [hrest, plusOnes, Cursor.moveTo_moveTo, Cursor.rest_moveTo, List.length_cons,
        List.length_cons]
      omega
  · obtain ⟨i, hrest, hsum⟩ := ht
    cases i with
    | zero => exact ⟨hsum, hend⟩
    | succ i => simp [hrest, plusOnes] at hend

theorem ends_statement_returnSum (levels k : Nat) (hs : s.rest = returnSum k) :
    Ends (statement cx (levels + 3)) s
      (fun a t => a = .returns (some ((Expr.number "1").plusOnes k)) ∧ t.rest = [])
      fun _ _ => False := by
  have hdispatch : s.rest.head?.bind Lexeme.dispatch? = some .RETURN := by
    rw [hs]
    exact (by decide : Lexeme.dispatch? ⟨.word "RETURN" none, 1, true⟩ = some .RETURN)
  rw [statement, takeStatement, ends_bind, ends_ahead, hdispatch]
  change Ends (takeReturn cx (expr cx (levels + 2))) s _ _
  rw [takeReturn, expectKeyword, eatKeyword]
  rw [ends_bind, ends_bind, ends_eatIf_cons hs (by decide), if_pos rfl, ends_pure, ends_bind,
    ends_ahead]
  have hvalue : endsStatement (⟨.number "1" false, 1, false⟩ :: plusOnes k) = false := rfl
  rw [Cursor.rest_moveTo, hvalue, if_neg (by decide), ends_bind]
  refine (ends_expr_sum cx levels rfl).mono (fun e t ht => ?_) fun _ _ h => h
  obtain ⟨rfl, hrest⟩ := ht
  exact ⟨rfl, hrest⟩

theorem ends_topStatements_returnSum (k : Nat) :
    Ends (topStatements cx) ⟨returnSum k, []⟩
      (fun ss _ => ss = [.returns (some ((Expr.number "1").plusOnes k))]) fun _ _ => False := by
  rw [topStatements, statementList, ends_bind]
  refine ends_repeatWhile
    (I := fun (done : List Statement) t => (done = [] ∧ t = ⟨returnSum k, []⟩) ∨
      (done = [.returns (some ((Expr.number "1").plusOnes k))] ∧ t.rest = []))
    (.inl ⟨rfl, rfl⟩) (fun done t ht => ?_) fun done t ht hend => ?_
  · obtain ⟨rfl, rfl⟩ | ⟨rfl, hrest⟩ := ht
    · have hstatement := ends_statement_returnSum cx 125 k
        (show (⟨returnSum k, []⟩ : Cursor).rest = returnSum k from rfl)
      rw [listRound, listItem, ends_bind, ends_ahead]
      change Ends (do
        let start ← ahead
        let done ← tryCatch (do return (← topStatement cx) :: []) fun e => do
          record e
          recover start
          return []
        return some done) _ _ _
      rw [ends_bind, ends_ahead, ends_bind, ends_tryCatch, ends_bind]
      refine hstatement.mono (fun a t ht => ?_) fun _ _ h => h.elim
      obtain ⟨rfl, hrest⟩ := ht
      refine ⟨.inr ⟨rfl, hrest⟩, ?_⟩
      rw [hrest]
      exact Nat.succ_pos _
    · rw [listRound, ends_bind, ends_ahead, hrest]
      exact rfl
  · obtain ⟨rfl, rfl⟩ | ⟨rfl, hrest⟩ := ht
    · simp [Cursor.rest, returnSum] at hend
    · exact rfl

end Parser

/-- **No bound on the heights of expressions holds for all batches.** -/
theorem not_heights_bounded : ¬∃ bound, ∀ version batch,
    ∀ e ∈ Statement.listExprs (parseBatch version batch).1, e.height ≤ bound := by
  rintro ⟨bound, hbound⟩
  have hrun := Parser.ends_topStatements_returnSum (.ofBatch .sql2014 (returnSum bound)) bound
  have hsum : (Expr.number "1").plusOnes bound ∈
      Statement.listExprs (parseBatch .sql2014 (returnSum bound)).1 := by
    rw [parseBatch, finishBatch]
    cases htop : Parser.topStatements (.ofBatch .sql2014 (returnSum bound))
        ⟨returnSum bound, []⟩ with
    | error e t => exact (hrun.error htop).elim
    | ok statements t =>
      obtain rfl := hrun.ok htop
      exact List.mem_cons_self
  have hheight := Expr.height_plusOnes bound (.number "1")
  have hle := hbound _ _ _ hsum
  have hone : (Expr.number "1").height = 1 := rfl
  omega

end SqlLint
