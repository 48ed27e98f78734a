import SqlLint.Proofs.Parse.StatementKeep

/-!
# Loops that end by themselves

`repeatWhile` stops when its budget is used up, and its result does not tell that it did. So nothing
that is proved of the result alone shows that a loop ends. `Iterates` is the same loop with no
budget at all: rounds follow one another until one gives nothing or fails. It holds of a result only
if finitely many rounds lead there; of a loop that goes on forever it holds of none.

The two are the same if the rounds *advance*: a round that goes on has passed a lexeme, and at the
end of the batch no round goes on.

## The loops of the grammar

`Loop` lists the loops in which rounds are repeated, with what is carried from round to round and
what one round does. The other loops of the grammar walk along the lexemes ahead by recursion on
them, and their only question is where they stop: `length_nameTail`, `length_optionNames` and
`length_outputMarks` count what they have passed by then.

## Main results

* `Advances.iterates_iff`: a loop without a budget gives what the loop with a budget gives
* `Loop.advances`: so it is for every loop of the grammar
-/

namespace SqlLint

namespace Parser

variable {α : Type} {step : α → Parser (Option α)} {a : α} {s : Cursor}

/-! ## Loops without a budget -/

/-- A loop without a budget, and how it ends: with the value of its last round, which gives nothing,
or with a round that fails. -/
inductive Iterates (step : α → Parser (Option α)) :
    α → Cursor → EStateM.Result SyntaxError Cursor α → Prop
  | last {a : α} {s t : Cursor} : step a s = .ok none t → Iterates step a s (.ok a t)
  | fail {a : α} {s t : Cursor} {e : SyntaxError} :
    step a s = .error e t → Iterates step a s (.error e t)
  | next {a b : α} {s t : Cursor} {r : EStateM.Result SyntaxError Cursor α} :
    step a s = .ok (some b) t → Iterates step b t r → Iterates step a s r

/-- A loop without a budget has at most one result. -/
theorem Iterates.unique {r r' : EStateM.Result SyntaxError Cursor α} (h : Iterates step a s r)
    (h' : Iterates step a s r') : r = r' := by
  induction h with
  | last hround =>
    cases h' with
    | last hround' =>
      cases hround.symm.trans hround'
      rfl
    | fail hround' => cases hround.symm.trans hround'
    | next hround' _ => cases hround.symm.trans hround'
  | fail hround =>
    cases h' with
    | last hround' => cases hround.symm.trans hround'
    | fail hround' =>
      cases hround.symm.trans hround'
      rfl
    | next hround' _ => cases hround.symm.trans hround'
  | next hround _ ih =>
    cases h' with
    | last hround' => cases hround.symm.trans hround'
    | fail hround' => cases hround.symm.trans hround'
    | next hround' hrest =>
      cases hround.symm.trans hround'
      exact ih hrest

/-- The rounds of a loop advance: each of them stays in the batch and does not go back, one that
goes on has passed at least one lexeme, and where none is left, it is the last one. -/
structure Advances (step : α → Parser (Option α)) : Prop where
  round : ∀ a s, Ends (step a) s
    (fun more t => s.Reaches t ∧ (more.isSome → t.rest.length < s.rest.length))
    fun _ t => s.Reaches t
  atEnd : ∀ a s, s.rest = [] → step a s = .ok none s

/-- A budget of one round for each lexeme ahead is never what ends the loop. -/
theorem Advances.iterates_rounds (h : Advances step) :
    ∀ (budget : List Lexeme) (a : α) (s : Cursor), s.rest.length ≤ budget.length →
      Iterates step a s (rounds step budget a s)
  | [], a, s, hlen => by
    have hrest : s.rest = [] := List.eq_nil_of_length_eq_zero (Nat.le_zero.1 hlen)
    exact .last (h.atEnd a s hrest)
  | _ :: budget, a, s, hlen => by
    change Iterates step a s (EStateM.bind (step a) _ s)
    rw [EStateM.bind]
    cases hround : step a s with
    | error e t => exact .fail hround
    | ok more t =>
      cases more with
      | none => exact .last hround
      | some b =>
        have hlt := ((h.round a s).ok hround).2 rfl
        rw [List.length_cons] at hlen
        exact .next hround (h.iterates_rounds budget b t (by omega))

theorem Advances.iterates_iff (h : Advances step) (a : α) (s : Cursor)
    (r : EStateM.Result SyntaxError Cursor α) :
    Iterates step a s r ↔ r = repeatWhile step a s := by
  have hloop : Iterates step a s (repeatWhile step a s) :=
    h.iterates_rounds s.rest a s (Nat.le_refl _)
  refine ⟨fun hr => hr.unique hloop, ?_⟩
  rintro rfl
  exact hloop

/-! ## Rounds -/

theorem Advances.of_roundEnd {R : List Variable → Cursor → Cursor → Prop} (hR : Cursor.Tracks R)
    (out : α → List Variable)
    (hround : ∀ a s, Ends (step a) s (RoundEnd R out a s) fun _ t => s.Reaches t)
    (hend : ∀ a s, s.rest = [] → step a s = .ok none s) : Advances step := by
  refine ⟨fun a s => (hround a s).mono (fun more t ht => ?_) fun _ _ h => h, hend⟩
  cases more with
  | none =>
    obtain rfl : t = s := ht
    exact ⟨.refl t, by simp⟩
  | some b =>
    obtain ⟨hlt, ws, hway, -⟩ := ht
    exact ⟨hR.reaches hway, fun _ => hlt⟩

theorem bind_eatIf_nil {β : Type} {test : Lexeme → Bool} {f : Bool → Parser β}
    (hs : s.rest = []) : (eatIf test >>= f) s = f false s := by
  change EStateM.bind (eatIf test) f s = _
  rw [EStateM.bind, eatIf, hs]

/-- Behind every comma an item, whatever it is. -/
theorem advances_commaRound {item : Parser α} (hitem : Stays item) :
    Advances (commaRound item) := by
  refine ⟨fun items s => ?_, fun items s hs => bind_eatIf_nil hs⟩
  refine ends_bind_eatIf (fun l rest hs _ => ?_) ⟨.refl s, by simp⟩
  have hpast := Cursor.reaches_moveTo_cons hs
  rw [if_pos rfl, ends_bind]
  exact (hitem _).mono (fun _ t ht => ⟨hpast.trans ht, fun _ => ht.length_lt hs⟩)
    fun _ t ht => hpast.trans ht

section

variable (cx : Context) {deeper : Nat → Parser Expr} (hdeeper : ∀ m, Reads (deeper m) Expr.vars)

include hdeeper

theorem advances_whenRound : Advances (whenRound cx deeper) :=
  .of_roundEnd Cursor.tracks_walks Expr.listVars (ends_whenRound cx hdeeper)
    fun _ _ hs => bind_eatIf_nil hs

theorem advances_infixRound (minPower : Nat) : Advances (infixRound cx deeper minPower) := by
  refine .of_roundEnd Cursor.tracks_walks Expr.vars (ends_infixRound cx hdeeper minPower)
    fun left s hs => ?_
  refine (bind_eatIf_nil hs).trans ?_
  rw [if_neg (by decide), bind_ahead, hs]
  rfl

theorem advances_parenRound : Advances (parenRound cx deeper) := by
  refine ⟨?_, fun state s => parenRound_nil cx deeper state⟩
  rintro ⟨depth, found⟩ s
  cases hs : s.rest with
  | nil =>
    rw [Ends, parenRound_nil cx deeper _ hs]
    exact ⟨.refl s, by simp⟩
  | cons l rest =>
    have hpast := Cursor.reaches_moveTo_cons hs
    have hshort : rest.length < (l :: rest).length := Nat.lt_succ_self _
    refine ends_parenRound cx hs (fun _ => ⟨hpast, fun _ => hshort⟩)
      (fun _ _ => ⟨hpast, by simp⟩) (fun _ _ _ => ⟨hpast, fun _ => hshort⟩) fun hleft hright => ?_
    refine (ends_scanItem cx hdeeper found hs hleft hright).mono (fun found' t ht => ?_)
      fun _ _ h => h.elim
    obtain ⟨hlt, ws, hwalk, -⟩ := ht
    exact ⟨hwalk.reaches, fun _ => hs ▸ hlt⟩

theorem advances_scanRound (inUpdate : Bool) : Advances (scanRound cx deeper inUpdate) := by
  refine ⟨fun state s => ?_, fun state s => scanRound_nil cx deeper inUpdate state⟩
  cases hs : s.rest with
  | nil =>
    rw [Ends, scanRound_nil cx deeper inUpdate state hs]
    exact ⟨.refl s, by simp⟩
  | cons l rest =>
    have hpast := Cursor.reaches_moveTo_cons hs
    have hshort : rest.length < (l :: rest).length := Nat.lt_succ_self _
    refine ends_scanRound cx hs (fun _ => ⟨.refl s, by simp⟩)
      (fun _ _ => ⟨hpast, fun _ => hshort⟩) (fun _ _ _ _ => ⟨hpast, fun _ => hshort⟩)
      (fun _ _ _ => ⟨hpast, fun _ => hshort⟩) fun hleft hright seen => ?_
    refine (ends_scanItem cx hdeeper state.found hs hleft hright).mono (fun found t ht => ?_)
      fun _ _ h => h.elim
    obtain ⟨hlt, ws, hwalk, -⟩ := ht
    exact ⟨hwalk.reaches, fun _ => hs ▸ hlt⟩

end

theorem advances_listRound {statement : Parser Statement}
    (hstatement : ∀ s, Ends statement s (fun a t => s.Takes a.vars t) fun _ t => s.Reaches t)
    (stop : Lexeme → Bool) : Advances (listRound statement stop) := by
  refine .of_roundEnd Cursor.tracks_keeps (fun done => Statement.listVars done.reverse)
    (fun done s => ?_) fun done s => listRound_nil statement stop done
  exact (ends_listRound hstatement stop done s).mono (fun _ _ ht => ht.1) fun _ _ h => h.elim

/-! ## The loops of the grammar -/

/-- The loops of the grammar. -/
inductive Loop
  /-- The statements of a list that ends before a lexeme of a certain sort. -/
  | statements (stop : Lexeme → Bool)
  /-- The scan of a statement that has no structure. -/
  | fragment (inUpdate : Bool)
  /-- The scan up to a closing parenthesis. -/
  | parentheses
  /-- The infix operators of an expression. -/
  | operators (minPower : Nat)
  /-- The branches of a `CASE`. -/
  | branches
  /-- The expressions of a list. -/
  | expressions
  /-- The items of a `DECLARE`. -/
  | declarations
  /-- The arguments of an `EXEC`. -/
  | arguments
  /-- The parameters of a procedure or function. -/
  | parameters
  /-- The options of a procedure or function. -/
  | routineOptions
  /-- The parameters of a type. -/
  | typeParams

namespace Loop

/-- What a loop carries from round to round. -/
def State : Loop → Type
  | statements _ => List Statement
  | fragment _ => Scanning
  | parentheses => Nat × List Expr
  | operators _ => Expr
  | branches => List Expr
  | expressions => List Expr
  | declarations => List Declaration
  | arguments => List Argument
  | parameters => List Parameter
  | routineOptions => List Unit
  | typeParams => List TypeParam

/-- What one round of a loop does, with `levels` levels of nesting left inside it. -/
def round (cx : Context) (levels : Nat) :
    (loop : Loop) → loop.State → Parser (Option loop.State)
  | statements stop => listRound (statement cx levels) stop
  | fragment inUpdate => scanRound cx (expr cx levels) inUpdate
  | parentheses => parenRound cx (expr cx levels)
  | operators minPower => infixRound cx (expr cx levels) minPower
  | branches => whenRound cx (expr cx levels)
  | expressions => commaRound (expr cx levels 0)
  | declarations => commaRound (takeDeclaration cx (expr cx levels))
  | arguments => commaRound (takeArgument (expr cx levels))
  | parameters => commaRound (takeParameter cx (expr cx levels))
  | routineOptions => commaRound (skipRoutineOption cx)
  | typeParams => commaRound (takeTypeParam cx)

/-- The rounds of every loop of the grammar advance, with any number of levels left. -/
theorem advances (cx : Context) (levels : Nat) : ∀ loop : Loop, Advances (loop.round cx levels)
  | statements stop => advances_listRound (ends_statement cx levels) stop
  | fragment inUpdate => advances_scanRound cx (reads_expr cx levels) inUpdate
  | parentheses => advances_parenRound cx (reads_expr cx levels)
  | operators minPower => advances_infixRound cx (reads_expr cx levels) minPower
  | branches => advances_whenRound cx (reads_expr cx levels)
  | expressions => advances_commaRound (reads_expr cx levels 0).collects.stays
  | declarations =>
    advances_commaRound (collects_takeDeclaration cx (reads_expr cx levels)).stays
  | arguments => advances_commaRound (collects_takeArgument (reads_expr cx levels)).stays
  | parameters => advances_commaRound (collects_takeParameter cx (reads_expr cx levels)).stays
  | routineOptions => advances_commaRound (stays_skipRoutineOption cx)
  | typeParams => advances_commaRound (passes_takeTypeParam cx).collects.stays

end Loop

/-! ## Walks along the lexemes ahead -/

/-- A further part of a name takes the period before it and itself. -/
theorem length_nameTail (ls : List Lexeme) :
    (nameTail ls).2.length + 2 * (nameTail ls).1.length = ls.length := by
  fun_induction nameTail ls with
  | case1 dot part rest text _ _ texts after htail ih =>
    rw [htail] at ih
    simp only [List.length_cons] at ih ⊢
    omega
  | case2 => simp
  | case3 => simp
  | case4 => simp

/-- An option takes at least one lexeme. -/
theorem length_optionNames (ls : List Lexeme) :
    (optionNames ls).2.length + (optionNames ls).1.length ≤ ls.length := by
  fun_induction optionNames ls with
  | case1 => simp
  | case2 => simp
  | case3 => simp
  | case4 => simp
  | case5 l text _ _ c cs _ names after hnames ih =>
    rw [hnames] at ih
    simp only [List.length_cons] at ih ⊢
    omega
  | case6 => simp

/-- A parameter is an output parameter by a mark that is passed. -/
theorem length_outputMarks (ls : List Lexeme) :
    (outputMarks ls).2.length + (outputMarks ls).1.toNat ≤ ls.length := by
  fun_induction outputMarks ls with
  | case1 => simp
  | case2 l ls _ ih =>
    have hle := (outputMarks_suffix ls).length_le
    simp only [List.length_cons, Bool.toNat_true]
    omega
  | case3 l ls _ _ ih =>
    rw [List.length_cons]
    omega
  | case4 => simp

end Parser

end SqlLint
