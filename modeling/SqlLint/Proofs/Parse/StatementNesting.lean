import SqlLint.Proofs.Parse.Nesting

/-!
# How deep statements stand in one another

A block, the body of a procedure or function and the branches of `IF` and `WHILE` hold further
statements. All of these are read one level deeper than the statement around them, and nothing else
puts one statement into another. So however many statements a list has, and however many of them
have been given up on the way, the levels left are a limit on how deep they stand in one another.
The limit is reached: a block that is empty takes the last level.

As in the expressions, what passes from the parts of a statement to the whole does so no matter
which property it is. `StatementGrowth` keeps the property open; a statement without others in it
has to have it whatever its expressions are.

## Main definitions

* `Statement.layers`: how many blocks, bodies and branches lie around one another
* `StatementGrowth`: a property of statements, and the one of those inside that it follows from

## Main results

* `StatementGrowth.returns_takeStatement`: the property is that of whatever is read
* `returns_statement_layers`: the levels limit the layers
* `layers_le_of_mem_parseBatch`: the limit for the statements of a batch
-/

namespace SqlLint

namespace Statement

mutual

/-- How many blocks, bodies and branches lie around one another; an empty one counts as well. -/
def layers : Statement → Nat
  | declare _ => 0
  | setVariable _ _ _ => 0
  | setOption _ _ _ => 0
  | procedure _ _ _ body => listLayers body + 1
  | function _ _ _ _ body => listLayers body + 1
  | execute _ => 0
  | block body => listLayers body + 1
  | conditional _ body otherwise => max body.layers (optionLayers otherwise) + 1
  | returns _ => 0
  | other _ => 0

/-- The layers of any of several statements. -/
def listLayers : List Statement → Nat
  | [] => 0
  | a :: as => max a.layers (listLayers as)

/-- The layers of a statement that may be missing. -/
def optionLayers : Option Statement → Nat
  | none => 0
  | some a => a.layers

end

theorem listLayers_le_iff {n : Nat} {as : List Statement} :
    listLayers as ≤ n ↔ ∀ a ∈ as, a.layers ≤ n := by
  induction as with
  | nil => simp [listLayers]
  | cons a as ih => rw [listLayers, Nat.max_le, ih, List.forall_mem_cons]

theorem optionLayers_le_iff {n : Nat} {o : Option Statement} :
    optionLayers o ≤ n ↔ ∀ a ∈ o, a.layers ≤ n := by
  cases o <;> simp [optionLayers]

/-- Whether the statement has no statements in it. -/
def isLeaf : Statement → Bool
  | procedure _ _ _ _ | function _ _ _ _ _ | block _ | conditional _ _ _ => false
  | _ => true

theorem layers_of_isLeaf {a : Statement} (h : a.isLeaf) : a.layers = 0 := by
  cases a with
  | procedure | function | block | conditional => exact absurd h Bool.false_ne_true
  | _ => rfl

end Statement

namespace Parser

/-- A property of statements that follows from one of the statements in them. -/
structure StatementGrowth (inner outer : Statement → Prop) : Prop where
  leaf : ∀ {a : Statement}, a.isLeaf → outer a
  procedure : ∀ {name line parameters body}, (∀ a ∈ body, inner a) →
    outer (.procedure name line parameters body)
  function : ∀ {name line parameters result body}, (∀ a ∈ body, inner a) →
    outer (.function name line parameters result body)
  block : ∀ {body}, (∀ a ∈ body, inner a) → outer (.block body)
  conditional : ∀ {condition body otherwise}, inner body → (∀ a ∈ otherwise, inner a) →
    outer (.conditional condition body otherwise)

/-- A level around statements is one more layer. -/
theorem statementGrowth_layers (n : Nat) :
    StatementGrowth (fun a => a.layers ≤ n) (fun a => a.layers ≤ n + 1) where
  leaf h := by
    rw [Statement.layers_of_isLeaf h]
    exact Nat.zero_le _
  procedure h := Nat.succ_le_succ (Statement.listLayers_le_iff.2 h)
  function h := Nat.succ_le_succ (Statement.listLayers_le_iff.2 h)
  block h := Nat.succ_le_succ (Statement.listLayers_le_iff.2 h)
  conditional hbody hotherwise :=
    Nat.succ_le_succ (Nat.max_le.2 ⟨hbody, Statement.optionLayers_le_iff.2 hotherwise⟩)

/-! ## Statements without others in them -/

section

variable (cx : Context) (expr : Nat → Parser Expr)

theorem returns_otherStatement_leaf : Returns (otherStatement cx expr) fun a => a.isLeaf :=
  returns_bind fun _ => returns_pure rfl

theorem returns_takeDeclare_leaf : Returns (takeDeclare cx expr) fun a => a.isLeaf := by
  refine returns_bind fun ls => ?_
  split
  · exact returns_otherStatement_leaf cx expr
  · exact returns_bind fun _ => returns_bind fun _ => returns_pure rfl

theorem returns_takeSetOption_leaf : Returns (takeSetOption cx expr) fun a => a.isLeaf := by
  refine returns_bind fun start => returns_bind fun _ => returns_bind fun ls => ?_
  obtain ⟨options, after⟩ := optionNames ls
  dsimp only
  split
  · split
    · exact returns_bind fun _ => returns_otherStatement_leaf cx expr
    · exact returns_bind fun _ => returns_pure rfl
  · exact returns_bind fun _ => returns_otherStatement_leaf cx expr

theorem returns_takeSet_leaf : Returns (takeSet cx expr) fun a => a.isLeaf := by
  refine returns_bind fun ls => ?_
  split
  · exact returns_takeSetOption_leaf cx expr
  · refine returns_bind fun _ => returns_bind fun op => returns_bind fun cursor => ?_
    split <;> exact returns_bind fun _ => returns_pure rfl

theorem returns_takeExecute_leaf : Returns (takeExecute cx expr) fun a => a.isLeaf := by
  refine returns_bind fun ls => returns_bind fun _ => returns_bind fun paren => ?_
  split
  · exact returns_bind fun _ => returns_bind fun _ => returns_pure rfl
  · refine returns_bind fun status => returns_bind fun procedure => returns_bind fun _ => ?_
    exact returns_bind fun _ => returns_bind fun _ => returns_pure rfl

theorem returns_takeReturn_leaf : Returns (takeReturn cx expr) fun a => a.isLeaf := by
  refine returns_bind fun _ => returns_bind fun ls => ?_
  split
  · exact returns_pure rfl
  · exact returns_bind fun _ => returns_pure rfl

theorem returns_takeSelect_leaf : Returns (takeSelect cx expr) fun a => a.isLeaf := by
  refine returns_bind fun ls => ?_
  split
  · exact returns_otherStatement_leaf cx expr
  · exact returns_bind fun _ => returns_unexpected cx

end

/-! ## Statements with others in them -/

namespace StatementGrowth

variable {inner outer : Statement → Prop} (cx : Context) (expr : Nat → Parser Expr)
  {statement : Parser Statement}

theorem returns_takeBody (hstatement : Returns statement inner) :
    Returns (takeBody cx statement) inner := by
  refine returns_bind fun ls => ?_
  split
  · exact returns_bind fun _ => returns_expected cx _
  · exact returns_bind fun _ => hstatement

variable (G : StatementGrowth inner outer) (hstatement : Returns statement inner)

include G hstatement

theorem returns_takeCreate : Returns (takeCreate cx expr statement) outer := by
  have hprocedure : ∀ line, Returns (takeProcedureDefinition cx expr statement line) outer := by
    intro line
    refine returns_bind fun name => returns_bind fun _ => returns_bind fun parameters => ?_
    refine returns_bind fun _ => returns_bind fun _ => returns_bind fun _ => ?_
    refine (returns_statementList_forall hstatement _).bind fun body hbody => ?_
    exact returns_pure (G.procedure hbody)
  have hfunction : ∀ line, Returns (takeFunctionDefinition cx expr statement line) outer := by
    intro line
    refine returns_bind fun name => returns_bind fun _ => returns_bind fun parameters => ?_
    refine returns_bind fun _ => returns_bind fun _ => returns_bind fun result => ?_
    refine returns_bind fun _ => returns_bind fun _ => ?_
    refine (returns_statementList_forall hstatement _).bind fun body hbody => ?_
    exact returns_pure (G.function hbody)
  refine returns_bind fun ls => ?_
  dsimp only
  split
  · exact returns_bind fun _ => returns_bind fun _ => hfunction _
  · exact returns_bind fun _ => returns_bind fun _ => hprocedure _
  · exact returns_bind fun _ => returns_bind fun _ => hprocedure _
  · exact (returns_otherStatement_leaf cx expr).mono fun _ => G.leaf

theorem returns_takeBegin : Returns (takeBegin cx expr statement) outer := by
  refine returns_bind fun ls => ?_
  split
  · exact (returns_otherStatement_leaf cx expr).mono fun _ => G.leaf
  · refine returns_bind fun _ => returns_bind fun label => ?_
    refine (returns_statementList_forall hstatement _).bind fun body hbody => ?_
    exact returns_bind fun _ => returns_bind fun _ => returns_pure (G.block hbody)

theorem returns_takeIf : Returns (takeIf cx expr statement) outer := by
  refine returns_bind fun _ => returns_bind fun condition => ?_
  refine (returns_takeBody cx hstatement).bind fun body hbody => ?_
  have halone : outer (.conditional condition body none) := G.conditional hbody (by simp)
  refine returns_bind fun ls => ?_
  split
  · split
    · refine returns_bind fun _ => (returns_takeBody cx hstatement).bind fun otherwise ho => ?_
      exact returns_pure (G.conditional hbody (by simpa using ho))
    · exact returns_pure halone
  · exact returns_pure halone

theorem returns_takeWhile : Returns (takeWhile cx expr statement) outer := by
  refine returns_bind fun _ => returns_bind fun condition => ?_
  refine (returns_takeBody cx hstatement).bind fun body hbody => ?_
  exact returns_pure (G.conditional hbody (by simp))

theorem returns_takeStatement : Returns (takeStatement cx expr statement) outer := by
  have hleaf : ∀ {p : Parser Statement}, Returns p (fun a => a.isLeaf) → Returns p outer :=
    fun hp => hp.mono fun _ => G.leaf
  refine returns_bind fun ls => ?_
  split
  · exact hleaf (returns_takeDeclare_leaf cx expr)
  · exact hleaf (returns_takeSet_leaf cx expr)
  · exact hleaf (returns_takeExecute_leaf cx expr)
  · exact hleaf (returns_takeExecute_leaf cx expr)
  · exact G.returns_takeCreate cx expr hstatement
  · exact G.returns_takeCreate cx expr hstatement
  · exact G.returns_takeBegin cx expr hstatement
  · exact G.returns_takeIf cx expr hstatement
  · exact G.returns_takeWhile cx expr hstatement
  · exact hleaf (returns_takeReturn_leaf cx expr)
  · exact hleaf (returns_takeSelect_leaf cx expr)
  · exact returns_unexpected cx
  · exact returns_unexpected cx
  · exact hleaf (returns_otherStatement_leaf cx expr)

end StatementGrowth

theorem returns_statement_layers (cx : Context) : ∀ levels,
    Returns (statement cx levels) fun a => a.layers ≤ levels
  | 0 => fun _ => trivial
  | levels + 1 =>
    (statementGrowth_layers levels).returns_takeStatement cx (expr cx levels)
      (returns_statement_layers cx levels)

end Parser

/-- The levels left when a batch is read limit the layers of its statements. -/
theorem layers_le_of_mem_parseBatch {version : Version} {batch : List Lexeme}
    {a : Statement} (ha : a ∈ (parseBatch version batch).1) : a.layers ≤ maxDepth :=
  forall_mem_parseBatch (Parser.returns_statement_layers _ maxDepth) a ha

end SqlLint
