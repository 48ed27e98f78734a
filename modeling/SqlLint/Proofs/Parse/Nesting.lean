import SqlLint.Parse.Script
import SqlLint.Proofs.Parse.Growth
import SqlLint.Proofs.Syntax.Height

/-!
# The nesting of what is read

The levels left are the only limit on the trees that come out of the reader. This module follows
them through every reader: an expression read with `levels` levels left has nesting at most
`3 * levels`, and so has every expression in a statement.

Three is what one level can add. An operand is read one level deeper; a list, a call or a pair of
parentheses around it is one more node, a cast found in a list is another, and so is the operator
whose right operand all of this is. Its left operand is not read one level deeper. It is whatever
the loop over infix operators has put together so far, so nothing limits the chain of left operands
but the length of the text.

## Main results

* `returns_operatorChain`: an expression, given the nesting of those inside
* `returns_expr`, `returns_statement`: the bound on nesting at every level
* `forall_mem_parseBatch`: what is read with all levels left is what a batch has
* `nesting_le_of_mem_parseBatch`: the bound for the expressions of a batch
-/

namespace SqlLint

namespace Parser

/-! ## Expressions -/

/-- What the nodes around an operand add: one in a list, if it is a cast there, and another one for
the list. -/
theorem growth_nesting (n : Nat) :
    Growth (fun e => e.nesting ≤ n) (fun e => e.nesting ≤ n + 1) (fun e => e.nesting ≤ n + 2) where
  item_of_operand := Nat.le_succ_of_le
  item_var _ := Nat.le_add_left 1 n
  item_cast := Expr.nesting_cast_le
  head_leaf {e} he := by
    cases e with
    | var _ => exact Nat.le_add_left 1 (n + 1)
    | string _ _ => exact Nat.le_add_left 1 (n + 1)
    | number _ => exact Nat.le_add_left 1 (n + 1)
    | null => exact Nat.le_add_left 1 (n + 1)
    | name _ => exact Nat.le_add_left 1 (n + 1)
    | _ => simp [Expr.isLeaf] at he
  head_cast he hstyle := Nat.le_succ_of_le (Expr.nesting_cast_le he hstyle)
  head_paren he := Nat.le_succ_of_le (Expr.nesting_paren_le he)
  head_call := Expr.nesting_call_le
  head_parts := Expr.nesting_parts_le

section

variable (cx : Context) {deeper : Nat → Parser Expr} {n : Nat}
  (hdeeper : ∀ m, Returns (deeper m) fun e => e.nesting ≤ n)

include hdeeper

theorem returns_takeHead : Returns (takeHead cx deeper) fun e => e.nesting ≤ n + 2 := by
  refine (growth_nesting n).ends_takeHead cx (hdeeper 0) (fun _ _ h => h) fun op => ?_
  refine returns_bind fun _ => (hdeeper op.power).bind fun _ he => returns_pure ?_
  exact Nat.le_succ_of_le (Expr.nesting_unary_le he)

theorem returns_takeRight (op : BinaryOp) :
    Returns (takeRight cx deeper op) fun e => e.nesting ≤ n + 2 := by
  have hoperand : ∀ {e : Expr}, e.nesting ≤ n → e.nesting ≤ n + 2 :=
    fun h => Nat.le_add_right_of_le h
  unfold takeRight
  split
  · exact returns_bind fun _ => returns_bind fun _ => returns_pure (Nat.le_add_left 1 (n + 1))
  · refine returns_bind fun _ => ?_
    refine ((growth_nesting n).returns_listOrQuery cx (hdeeper 0)).bind fun items hitems => ?_
    exact returns_pure (Expr.nesting_parts_le hitems)
  · refine (hdeeper _).bind fun low hlow => returns_bind fun _ => ?_
    refine (hdeeper _).bind fun high hhigh => returns_pure (Nat.le_succ_of_le ?_)
    exact Expr.nesting_parts_le (by simp [hlow, hhigh])
  · refine (hdeeper _).bind fun pattern hpattern => returns_bind fun escape => ?_
    split
    · refine (hdeeper _).bind fun escape hescape => returns_pure (Nat.le_succ_of_le ?_)
      exact Expr.nesting_parts_le (by simp [hpattern, hescape])
    · exact returns_pure (hoperand hpattern)
  · exact (hdeeper _).mono fun _ => hoperand

theorem returns_infixRound (minPower : Nat) {left : Expr} (h : left.nesting ≤ n + 3) :
    Returns (infixRound cx deeper minPower left) fun o => ∀ e ∈ o, e.nesting ≤ n + 3 := by
  refine returns_bind fun collate => ?_
  split
  · exact returns_bind fun _ => returns_pure (by simpa using h)
  · refine returns_bind fun ls => ?_
    split
    · exact returns_pure (by simp)
    · split
      · exact returns_pure (by simp)
      · refine returns_bind fun _ => (returns_takeRight cx hdeeper _).bind fun right hright => ?_
        refine returns_pure ?_
        rintro e ⟨rfl⟩
        exact Expr.nesting_binary_le h hright

/-- The loop over infix operators adds one level, however often it goes round. -/
theorem returns_operatorChain (minPower : Nat) :
    Returns (operatorChain cx deeper minPower) fun e => e.nesting ≤ n + 3 := by
  refine (returns_takeHead cx hdeeper).bind fun head hhead => ?_
  exact returns_repeatWhile (Nat.le_succ_of_le hhead) fun left =>
    returns_infixRound cx hdeeper minPower

end

theorem returns_expr (cx : Context) : ∀ levels minPower,
    Returns (expr cx levels minPower) fun e => e.nesting ≤ 3 * levels
  | 0, _ => fun _ => trivial
  | levels + 1, minPower => returns_operatorChain cx (returns_expr cx levels) minPower

/-! ## Statements

The expressions of a statement are read one level deeper than it. Where they come from a fragment,
they may be casts, and the source of a cursor is a list of them: two more nodes. -/

section

variable {n : Nat}

/-- What every statement has, every statement of a list has; those that fail are not in it. -/
theorem returns_statementList_forall {statement : Parser Statement} {P : Statement → Prop}
    (hstatement : Returns statement P) (stop : Lexeme → Bool) :
    Returns (statementList statement stop) fun ss => ∀ a ∈ ss, P a := by
  have hround : ∀ done : List Statement, (∀ a ∈ done, P a) →
      Returns (listRound statement stop done) fun o => ∀ done' ∈ o, ∀ a ∈ done', P a := by
    intro done hdone
    refine returns_bind fun ls => ?_
    split
    · exact returns_pure (by simp)
    · split
      · exact returns_pure (by simp)
      · split
        · exact returns_bind fun _ => returns_pure (by simpa using hdone)
        · refine Returns.bind (P := fun done' => ∀ a ∈ done', P a)
            (returns_bind fun start => Returns.tryCatch ?_ fun e => ?_)
            fun done' hdone' => returns_pure (by simpa using hdone')
          · refine hstatement.bind fun a ha => returns_pure ?_
            exact List.forall_mem_cons.2 ⟨ha, hdone⟩
          · exact returns_bind fun _ => returns_bind fun _ => returns_pure hdone
  refine Returns.bind (returns_repeatWhile (by simp) hround) fun done hdone => returns_pure ?_
  intro a ha
  exact hdone a (List.mem_reverse.1 ha)

theorem returns_statementList {statement : Parser Statement}
    (hstatement : Returns statement fun a => ∀ e ∈ a.exprs, e.nesting ≤ n)
    (stop : Lexeme → Bool) :
    Returns (statementList statement stop) fun ss =>
      ∀ e ∈ Statement.listExprs ss, e.nesting ≤ n := by
  refine (returns_statementList_forall hstatement stop).mono fun ss hss e he => ?_
  rw [Statement.listExprs_eq_flatMap] at he
  obtain ⟨a, ha, he⟩ := List.mem_flatMap.1 he
  exact hss a ha e he

variable (cx : Context) {expr : Nat → Parser Expr}
  (hexpr : ∀ m, Returns (expr m) fun e => e.nesting ≤ n)

include hexpr

theorem returns_otherStatement :
    Returns (otherStatement cx expr) fun a => ∀ e ∈ a.exprs, e.nesting ≤ n + 3 := by
  have hfragment := (growth_nesting n).returns_fragment cx (hexpr 0)
  refine hfragment.bind fun items hitems => returns_pure fun e he => ?_
  exact Nat.le_add_right_of_le (k := 2) (hitems e he)

theorem returns_takeDeclaration :
    Returns (takeDeclaration cx expr) fun d => ∀ e ∈ d.exprs, e.nesting ≤ n := by
  refine returns_bind fun name => returns_bind fun _ => returns_bind fun table => ?_
  split
  · exact returns_bind fun _ => returns_bind fun _ => returns_pure (by simp [Declaration.exprs])
  · refine returns_bind fun cursor => ?_
    split
    · exact returns_pure (by simp [Declaration.exprs])
    · refine returns_bind fun type => returns_bind fun equals => ?_
      split
      · refine returns_bind fun _ => returns_bind fun _ => (hexpr 0).bind fun value hvalue => ?_
        exact returns_pure (by simpa [Declaration.exprs] using hvalue)
      · exact returns_pure (by simp [Declaration.exprs])

theorem returns_takeDeclare :
    Returns (takeDeclare cx expr) fun a => ∀ e ∈ a.exprs, e.nesting ≤ n + 3 := by
  refine returns_bind fun ls => ?_
  split
  · exact returns_otherStatement cx hexpr
  · refine returns_bind fun _ => ?_
    refine (returns_commaSeparated (returns_takeDeclaration cx hexpr)).bind fun items hitems => ?_
    refine returns_pure fun e he => ?_
    obtain ⟨d, hd, he⟩ := List.mem_flatMap.1 he
    exact Nat.le_add_right_of_le (hitems d hd e he)

theorem returns_takeSetOption :
    Returns (takeSetOption cx expr) fun a => ∀ e ∈ a.exprs, e.nesting ≤ n + 3 := by
  refine returns_bind fun start => returns_bind fun _ => returns_bind fun ls => ?_
  obtain ⟨options, after⟩ := optionNames ls
  dsimp only
  split
  · split
    · exact returns_bind fun _ => returns_otherStatement cx hexpr
    · exact returns_bind fun _ => returns_pure (by simp [Statement.exprs])
  · exact returns_bind fun _ => returns_otherStatement cx hexpr

theorem returns_takeSet :
    Returns (takeSet cx expr) fun a => ∀ e ∈ a.exprs, e.nesting ≤ n + 3 := by
  refine returns_bind fun ls => ?_
  split
  · exact returns_takeSetOption cx hexpr
  · refine returns_bind fun _ => returns_bind fun op => returns_bind fun cursor => ?_
    split
    · have hfragment := (growth_nesting n).returns_fragment cx (hexpr 0)
      refine hfragment.bind fun items hitems => returns_pure ?_
      have := Expr.nesting_parts_le hitems
      simpa [Statement.exprs] using Nat.le_succ_of_le this
    · refine (hexpr 0).bind fun value hvalue => returns_pure ?_
      simpa [Statement.exprs] using Nat.le_add_right_of_le hvalue

theorem returns_takeArgument :
    Returns (takeArgument expr) fun a => ∀ e ∈ a.value, e.nesting ≤ n := by
  refine returns_bind fun name => ?_
  refine Returns.bind (P := fun o => ∀ e ∈ o, e.nesting ≤ n) (returns_bind fun default => ?_)
    fun value hvalue => returns_bind fun output => returns_pure hvalue
  split
  · exact returns_pure (by simp)
  · exact (hexpr 0).bind fun e he => returns_pure (by simpa using he)

theorem returns_takeArguments :
    Returns (takeArguments expr) fun as => ∀ a ∈ as, ∀ e ∈ a.value, e.nesting ≤ n := by
  refine returns_bind fun ls => ?_
  split
  · exact returns_pure (by simp)
  · exact returns_commaSeparated (returns_takeArgument hexpr)

theorem returns_takeExecute :
    Returns (takeExecute cx expr) fun a => ∀ e ∈ a.exprs, e.nesting ≤ n + 3 := by
  refine returns_bind fun ls => returns_bind fun _ => returns_bind fun paren => ?_
  split
  · have hgrowth := growth_nesting n
    refine (hgrowth.returns_parenFragment cx (hexpr 0)).bind fun inside hinside => ?_
    refine (hgrowth.returns_fragmentTail cx (hexpr 0) false).bind fun behind hbehind => ?_
    refine returns_pure fun e he => Nat.le_add_right_of_le (k := 2) ?_
    exact List.forall_mem_append.2 ⟨hinside, hbehind⟩ e he
  · refine returns_bind fun status => ?_
    refine Returns.bind (P := fun e => e.nesting ≤ n + 3) ?_ fun procedure hprocedure => ?_
    · refine returns_bind fun next => ?_
      split
      · exact returns_bind fun _ => returns_pure (Nat.le_add_left 1 (n + 2))
      · exact returns_bind fun name => returns_pure (Nat.le_add_left 1 (n + 2))
    refine returns_bind fun _ => (returns_takeArguments hexpr).bind fun arguments harguments => ?_
    refine returns_bind fun _ => returns_pure (List.forall_mem_cons.2 ⟨hprocedure, fun e he => ?_⟩)
    obtain ⟨a, ha, he⟩ := List.mem_flatMap.1 he
    exact Nat.le_add_right_of_le (harguments a ha e (Option.mem_toList.1 he))

theorem returns_takeParameters :
    Returns (takeParameters cx expr) fun ps => ∀ p ∈ ps, ∀ e ∈ p.default, e.nesting ≤ n := by
  refine returns_bind fun next => ?_
  split
  · refine returns_commaSeparated ?_
    refine returns_bind fun name => returns_bind fun _ => returns_bind fun type => ?_
    refine returns_bind fun _ => ?_
    refine Returns.bind (P := fun o => ∀ e ∈ o, e.nesting ≤ n) (returns_bind fun equals => ?_)
      fun default hdefault => returns_bind fun ls => returns_bind fun _ => returns_pure hdefault
    split
    · exact (hexpr 0).bind fun e he => returns_pure (by simpa using he)
    · exact returns_pure (by simp)
  · exact returns_pure (by simp)

theorem returns_takeProcedureParameters :
    Returns (takeProcedureParameters cx expr) fun ps =>
      ∀ p ∈ ps, ∀ e ∈ p.default, e.nesting ≤ n := by
  refine returns_bind fun paren => ?_
  split
  · refine (returns_takeParameters cx hexpr).bind fun parameters hparameters => ?_
    exact returns_bind fun _ => returns_pure hparameters
  · exact returns_takeParameters cx hexpr

variable {statement : Parser Statement}
  (hstatement : Returns statement fun a => ∀ e ∈ a.exprs, e.nesting ≤ n + 3)

include hstatement

theorem returns_takeCreate :
    Returns (takeCreate cx expr statement) fun a => ∀ e ∈ a.exprs, e.nesting ≤ n + 3 := by
  have hdefinition : ∀ {parameters : List Parameter} {body : List Statement},
      (∀ p ∈ parameters, ∀ e ∈ p.default, e.nesting ≤ n) →
      (∀ e ∈ Statement.listExprs body, e.nesting ≤ n + 3) →
      ∀ e ∈ parameters.flatMap (·.default.toList) ++ Statement.listExprs body,
        e.nesting ≤ n + 3 := by
    intro parameters body hparameters hbody
    refine List.forall_mem_append.2 ⟨fun e he => ?_, hbody⟩
    obtain ⟨p, hp, he⟩ := List.mem_flatMap.1 he
    exact Nat.le_add_right_of_le (hparameters p hp e (Option.mem_toList.1 he))
  have hprocedure : ∀ line, Returns (takeProcedureDefinition cx expr statement line) fun a =>
      ∀ e ∈ a.exprs, e.nesting ≤ n + 3 := by
    intro line
    refine returns_bind fun name => returns_bind fun _ => ?_
    refine (returns_takeProcedureParameters cx hexpr).bind fun parameters hparameters => ?_
    refine returns_bind fun _ => returns_bind fun _ => returns_bind fun _ => ?_
    refine (returns_statementList hstatement _).bind fun body hbody => returns_pure ?_
    exact hdefinition hparameters hbody
  have hfunction : ∀ line, Returns (takeFunctionDefinition cx expr statement line) fun a =>
      ∀ e ∈ a.exprs, e.nesting ≤ n + 3 := by
    intro line
    refine returns_bind fun name => returns_bind fun _ => ?_
    refine (returns_takeParameters cx hexpr).bind fun parameters hparameters => ?_
    refine returns_bind fun _ => returns_bind fun _ => returns_bind fun result => ?_
    refine returns_bind fun _ => returns_bind fun _ => ?_
    refine (returns_statementList hstatement _).bind fun body hbody => returns_pure ?_
    exact hdefinition hparameters hbody
  refine returns_bind fun ls => ?_
  dsimp only
  split
  · exact returns_bind fun _ => returns_bind fun _ => hfunction _
  · exact returns_bind fun _ => returns_bind fun _ => hprocedure _
  · exact returns_bind fun _ => returns_bind fun _ => hprocedure _
  · exact returns_otherStatement cx hexpr

theorem returns_takeBegin :
    Returns (takeBegin cx expr statement) fun a => ∀ e ∈ a.exprs, e.nesting ≤ n + 3 := by
  refine returns_bind fun ls => ?_
  split
  · exact returns_otherStatement cx hexpr
  · refine returns_bind fun _ => returns_bind fun label => ?_
    refine (returns_statementList hstatement _).bind fun body hbody => ?_
    exact returns_bind fun _ => returns_bind fun _ => returns_pure hbody

omit hexpr in
theorem returns_takeBody :
    Returns (takeBody cx statement) fun a => ∀ e ∈ a.exprs, e.nesting ≤ n + 3 := by
  refine returns_bind fun ls => ?_
  split
  · exact returns_bind fun _ => returns_expected cx _
  · exact returns_bind fun _ => hstatement

theorem returns_takeIf :
    Returns (takeIf cx expr statement) fun a => ∀ e ∈ a.exprs, e.nesting ≤ n + 3 := by
  refine returns_bind fun _ => (hexpr 0).bind fun condition hcondition => ?_
  refine (returns_takeBody cx hstatement).bind fun body hbody => ?_
  have hfirst : condition.nesting ≤ n + 3 := Nat.le_add_right_of_le hcondition
  have halone : ∀ e ∈ (Statement.conditional condition body none).exprs, e.nesting ≤ n + 3 := by
    refine List.forall_mem_cons.2 ⟨hfirst, List.forall_mem_append.2 ⟨hbody, ?_⟩⟩
    simp [Statement.optionExprs]
  refine returns_bind fun ls => ?_
  split
  · split
    · refine returns_bind fun _ => (returns_takeBody cx hstatement).bind fun otherwise ho => ?_
      refine returns_pure (List.forall_mem_cons.2 ⟨hfirst, ?_⟩)
      exact List.forall_mem_append.2 ⟨hbody, ho⟩
    · exact returns_pure halone
  · exact returns_pure halone

theorem returns_takeWhile :
    Returns (takeWhile cx expr statement) fun a => ∀ e ∈ a.exprs, e.nesting ≤ n + 3 := by
  refine returns_bind fun _ => (hexpr 0).bind fun condition hcondition => ?_
  refine (returns_takeBody cx hstatement).bind fun body hbody => returns_pure ?_
  refine List.forall_mem_cons.2 ⟨Nat.le_add_right_of_le hcondition, ?_⟩
  exact List.forall_mem_append.2 ⟨hbody, by simp [Statement.optionExprs]⟩

omit hstatement in
theorem returns_takeReturn :
    Returns (takeReturn cx expr) fun a => ∀ e ∈ a.exprs, e.nesting ≤ n + 3 := by
  refine returns_bind fun _ => returns_bind fun ls => ?_
  split
  · exact returns_pure (by simp [Statement.exprs])
  · refine (hexpr 0).bind fun value hvalue => returns_pure ?_
    simpa [Statement.exprs] using Nat.le_add_right_of_le hvalue

theorem returns_takeStatement :
    Returns (takeStatement cx expr statement) fun a => ∀ e ∈ a.exprs, e.nesting ≤ n + 3 := by
  have hother := returns_otherStatement cx hexpr
  refine returns_bind fun ls => ?_
  split
  · exact returns_takeDeclare cx hexpr
  · exact returns_takeSet cx hexpr
  · exact returns_takeExecute cx hexpr
  · exact returns_takeExecute cx hexpr
  · exact returns_takeCreate cx hexpr hstatement
  · exact returns_takeCreate cx hexpr hstatement
  · exact returns_takeBegin cx hexpr hstatement
  · exact returns_takeIf cx hexpr hstatement
  · exact returns_takeWhile cx hexpr hstatement
  · exact returns_takeReturn cx hexpr
  · refine returns_bind fun ls => ?_
    split
    · exact hother
    · exact returns_bind fun _ => returns_unexpected cx
  · exact returns_unexpected cx
  · exact returns_unexpected cx
  · exact hother

end

theorem returns_statement (cx : Context) : ∀ levels,
    Returns (statement cx levels) fun a => ∀ e ∈ a.exprs, e.nesting ≤ 3 * levels
  | 0 => fun _ => trivial
  | levels + 1 => by
    refine returns_takeStatement cx (returns_expr cx levels) ?_
    refine (returns_statement cx levels).mono fun a ha e he => ?_
    exact Nat.le_add_right_of_le (ha e he)

end Parser

variable {version : Version} {batch : List Lexeme}

/-- The statements of a batch are read with all levels left. -/
theorem forall_mem_parseBatch {P : Statement → Prop}
    (h : Parser.Returns (Parser.statement (.ofBatch version batch) maxDepth) P) :
    ∀ a ∈ (parseBatch version batch).1, P a := by
  have hreturns := Parser.returns_statementList_forall h (fun _ => false) ⟨batch, []⟩
  intro a ha
  rw [parseBatch, finishBatch] at ha
  cases htop : Parser.topStatements (.ofBatch version batch) ⟨batch, []⟩ with
  | ok statements t =>
    rw [htop] at ha
    exact hreturns.ok htop a ha
  | error e t =>
    rw [htop] at ha
    exact absurd ha List.not_mem_nil

/-- The levels left when a batch is read limit the nesting of its expressions. -/
theorem nesting_le_of_mem_parseBatch {e : Expr}
    (he : e ∈ Statement.listExprs (parseBatch version batch).1) : e.nesting ≤ 3 * maxDepth := by
  rw [Statement.listExprs_eq_flatMap] at he
  obtain ⟨a, ha, he⟩ := List.mem_flatMap.1 he
  exact forall_mem_parseBatch (Parser.returns_statement _ maxDepth) a ha e he

end SqlLint
