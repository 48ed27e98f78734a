import SqlLint.Parse.Script
import SqlLint.Proofs.Parse.ExprCoupling
import SqlLint.Proofs.Parse.StatementKeep

/-!
# Two runs of the readers of statements

The readers of statements keep two runs in step, given that the readers of expressions and of the
statements inside do. As for expressions, what becomes of an attempt is left to the comparison at
hand.

`Coupling.Attempts` collects what a comparison has to say about attempts when both runs have the
same number of levels left. Induction on the levels then ties the knot for it, and the runs over a
whole batch are in step to the end.

## Options

`SET` with options is read to its switch, and if there is none, the reader goes back and scans the
statement from its first word. Going back is no move to an end piece of what lies ahead, so the
rules do not apply to it as it is written. `takeSetOption_eq` gives it another form that looks
ahead first and moves once.

## Main results

* `coupled_statementList`: lists of statements, given one statement of a list
* `coupled_takeStatement`: a statement, given the statements and expressions inside
* `Attempts.coupled_expr`, `Attempts.coupled_statement`, `Attempts.coupled_topStatements`: the
  knot tied
-/

namespace SqlLint

namespace Parser

/-- Options read by looking ahead: nothing is passed before it is clear that they are switched. -/
theorem takeSetOption_eq (cx : Context) (expr : Nat → Parser Expr) :
    takeSetOption cx expr = (do
      match ← ahead with
      | [] => expected cx (.keyword .SET)
      | l :: ls =>
        if l.isKeyword .SET then
          match switch? (optionNames ls).2 with
          | some on =>
            if (optionNames ls).1.isEmpty then otherStatement cx expr
            else
              moveTo ((optionNames ls).2.drop 1)
              return .setOption l.line (optionNames ls).1 on
          | none => otherStatement cx expr
        else expected cx (.keyword .SET)) := by
  funext s
  obtain ⟨⟨ls, overrun⟩, errors⟩ := s
  cases ls with
  | nil => rfl
  | cons l ls =>
    unfold takeSetOption expectKeyword eatKeyword eatIf
    by_cases hset : l.isKeyword .SET
    · simp only [bind, EStateM.bind, ahead, hset, Cursor.rest, Cursor.moveTo, pure, EStateM.pure,
        if_true]
      cases hswitch : switch? (optionNames ls).2 with
      | none => rfl
      | some on =>
        obtain ⟨k, ks, hafter⟩ := exists_cons_of_switch? hswitch
        rw [hafter]
        cases (optionNames ls).1.isEmpty <;> rfl
    · simp only [bind, EStateM.bind, ahead, hset, Cursor.rest]
      rfl

end Parser

namespace Coupling

open SqlLint.Parser SqlLint.Pairing

variable (K : Coupling)

/-- How statements correspond. -/
abbrev statements : Link Statement := .upTo K.exact (Statement.renumber K.line)

/-- How lists of statements correspond. -/
abbrev statementLists : Link (List Statement) :=
  .upTo K.exact (List.map (Statement.renumber K.line))

/-- How expressions that may be missing correspond. -/
abbrev optionExprs : Link (Option Expr) := .upTo K.exact (Option.map (Expr.renumber K.line))

/-! ## Tests on what lies ahead -/

@[simp] theorem endsStatement_lexemes (ls : List Lexeme) :
    endsStatement (K.lexemes ls) = endsStatement ls := by
  cases ls <;> rfl

@[simp] theorem head?_any_lexemes {test : Lexeme → Bool}
    (htest : ∀ l, test (l.renumber K.line) = test l) (ls : List Lexeme) :
    (K.lexemes ls).head?.any test = ls.head?.any test := by
  cases ls with
  | nil => rfl
  | cons l ls => exact htest l

theorem getElem?_bind_variableHere? (ls : List Lexeme) (n : Nat) :
    (K.lexemes ls)[n]?.bind Lexeme.variableHere? =
      (ls[n]?.bind Lexeme.variableHere?).map (Variable.renumber K.line) := by
  rw [List.getElem?_map]
  cases ls[n]? with
  | none => rfl
  | some l => exact K.variableHere?_renumber l

/-- A value that does not depend on lines, of the lexeme at some index. -/
theorem getElem?_bind_lexemes {α : Type} {g : Lexeme → Option α}
    (hg : ∀ l, g (l.renumber K.line) = g l) (ls : List Lexeme) (n : Nat) :
    (K.lexemes ls)[n]?.bind g = ls[n]?.bind g := by
  rw [List.getElem?_map]
  cases ls[n]? with
  | none => rfl
  | some l => exact hg l

theorem getElem?_any_lexemes {test : Lexeme → Bool}
    (htest : ∀ l, test (l.renumber K.line) = test l) (ls : List Lexeme) (n : Nat) :
    (K.lexemes ls)[n]?.any test = ls[n]?.any test := by
  rw [List.getElem?_map]
  cases ls[n]? with
  | none => rfl
  | some l => exact htest l

theorem assigned?_lexemes : ∀ ls : List Lexeme,
    assigned? (K.lexemes ls) = (assigned? ls).map (Variable.renumber K.line)
  | [] => rfl
  | [_] => rfl
  | l :: next :: ls => by
    change (if (next.renumber K.line).isMark .eq then (l.renumber K.line).variableHere? else none) =
      (if next.isMark .eq then l.variableHere? else none).map (Variable.renumber K.line)
    rw [Lexeme.isMark_renumber, K.variableHere?_renumber]
    split <;> rfl

@[simp] theorem isOrAlter_lexemes (ls : List Lexeme) :
    isOrAlter (K.lexemes ls) = isOrAlter ls := by
  unfold isOrAlter
  rw [K.head?_any_lexemes fun _ => rfl, K.getElem?_any_lexemes fun _ => rfl,
    K.getElem?_any_lexemes fun _ => rfl]

@[simp] theorem skipSemicolons_lexemes (ls : List Lexeme) :
    skipSemicolons (K.lexemes ls) = K.lexemes (skipSemicolons ls) := by
  unfold skipSemicolons
  rw [List.dropWhile_map]
  rfl

theorem optionNames_lexemes (ls : List Lexeme) :
    optionNames (K.lexemes ls) = ((optionNames ls).1, K.lexemes (optionNames ls).2) := by
  fun_induction optionNames ls with
  | case1 => rfl
  | case2 l ls h => simp [optionNames, h]
  | case3 l ls text h hswitch => simp [optionNames, h, hswitch]
  | case4 l text h hswitch => simp [optionNames, h, hswitch]
  | case5 l text h hswitch c cs hcomma names after hnames ih =>
    simp [optionNames, h, hswitch, hcomma, ih, hnames]
  | case6 l text h hswitch c cs hcomma => simp [optionNames, h, hswitch, hcomma]

theorem outputMarks_lexemes (ls : List Lexeme) :
    outputMarks (K.lexemes ls) = ((outputMarks ls).1, K.lexemes (outputMarks ls).2) := by
  fun_induction outputMarks ls with
  | case1 => rfl
  | case2 l ls h ih => simp [outputMarks, h, ih]
  | case3 l ls h hread ih => simp [outputMarks, h, hread, ih]
  | case4 l ls h hread => simp [outputMarks, h, hread]

@[simp] theorem switch?_lexemes (ls : List Lexeme) : switch? (K.lexemes ls) = switch? ls := by
  cases ls <;> rfl

/-! ## Lists of statements -/

theorem keepsErrors_recover (start : List Lexeme) : KeepsErrors (recover start) := by
  intro s
  change s.errors ⊆
    (cursorOf ((if start.length ≤ s.rest.length then _ else _ : Parser Unit) s)).errors
  split <;> exact List.Subset.refl _

theorem keepsErrors_listItem {statement : Parser Statement} (hkeeps : KeepsErrors statement)
    (done : List Statement) : KeepsErrors (listItem statement done) := by
  intro s
  have hhandle : ∀ e, KeepsErrors (do record e; recover s.rest; return done) := fun e =>
    KeepsErrors.bind (Cursor.errors_subset_record e) fun _ =>
      (keepsErrors_recover s.rest).bind fun _ => keepsErrors_of_eq fun _ => rfl
  have hkept := hkeeps s
  change s.errors ⊆ (cursorOf (EStateM.tryCatch (EStateM.bind statement _) _ s)).errors
  unfold EStateM.tryCatch EStateM.bind
  revert hkept
  cases statement s with
  | ok a t => exact fun h => h
  | error e t => exact fun h => List.Subset.trans h (hhandle e t)

/-- One statement of a list that has not come to its end, given what becomes of the attempt to read
it. -/
theorem coupled_listItem {statement statement' : Parser Statement} (hkeeps : KeepsErrors statement)
    (hrecovered : ∀ {s t done done'}, K.Step s t → K.statementLists.Rel done done' →
      K.Meets K.statementLists (recovered done s.rest (statement s))
        (recovered done' t.rest (statement' t)))
    (done done' : List Statement) (hdone : K.statementLists.Rel done done') :
    K.CoupledAt (fun s => s.rest ≠ []) K.statementLists (listItem statement done)
      (listItem statement' done') := by
  refine ⟨keepsErrors_listItem hkeeps done, fun s t hst hs => ?_⟩
  obtain ⟨l, ls, hrest⟩ := List.exists_cons_of_ne_nil hs
  have hrest' : t.rest = l.renumber K.line :: K.lexemes ls := by
    rw [K.rest hst, hrest, List.map_cons]
  rw [listItem_eq statement done hrest, listItem_eq statement' done' hrest', ← hrest, ← hrest']
  exact hrecovered hst hdone

section

variable {statement statement' : Parser Statement}
  (hitem : ∀ done done', K.statementLists.Rel done done' →
    K.CoupledAt (fun s => s.rest ≠ []) K.statementLists (listItem statement done)
      (listItem statement' done'))

include hitem

theorem coupled_listRound {stop : Lexeme → Bool} (hstop : ∀ l, stop (l.renumber K.line) = stop l)
    (done done' : List Statement) (hdone : K.statementLists.Rel done done') :
    K.Coupled K.statementLists.option (listRound statement stop done)
      (listRound statement' stop done') := by
  have hlast : K.Coupled K.statementLists.option (pure none) (pure none) := coupled_pure .none
  have hskip : K.Coupled K.statementLists.option (do Parser.advance 1; return some done)
      (do Parser.advance 1; return some done') :=
    (K.coupled_advance 1).bindSame fun _ => coupled_pure (.some hdone)
  unfold listRound
  refine K.coupledAt_bind_ahead fun ls => ?_
  cases ls with
  | nil => exact hlast.at
  | cons l ls =>
    simp only [List.map_cons, hstop]
    refine coupledAt_ite (fun _ => hlast.at) fun _ => coupledAt_ite (fun _ => hskip.at) fun _ => ?_
    have hgoesOn := hitem done done' hdone
    refine CoupledAt.bind ⟨hgoesOn.keeps, fun s t hst hs => ?_⟩ fun _ _ h => coupled_pure (.some h)
    exact hgoesOn.meets s t hst (by rw [hs]; exact List.cons_ne_nil l ls)

theorem coupled_statementList {stop : Lexeme → Bool}
    (hstop : ∀ l, stop (l.renumber K.line) = stop l) :
    K.Coupled K.statementLists (statementList statement stop) (statementList statement' stop) := by
  unfold statementList
  refine Coupled.bind (K.coupled_repeatWhile (K.coupled_listRound hitem hstop)
    (fun _ => rfl : K.statementLists.Rel [] [])) fun done done' hdone => ?_
  refine coupled_pure fun hexact => ?_
  rw [hdone hexact, List.map_reverse]

end

/-! ## Readers without expressions -/

theorem coupled_takeAssignment :
    K.Coupled .same (takeAssignment K.first) (takeAssignment K.second) := by
  unfold takeAssignment
  refine K.coupled_bind_ahead fun ls => ?_
  cases ls with
  | nil => exact K.coupled_expected _
  | cons l ls =>
    simp only [List.map_cons, Lexeme.isMark_renumber, Lexeme.token_renumber]
    refine coupled_ite (fun _ => ?_) fun _ => ?_
    · exact (K.coupled_advance 1).bindSame fun _ => coupled_pure rfl
    · split
      · rw [K.head?_any_lexemes fun _ => rfl]
        refine coupled_ite (fun _ => ?_) fun _ => K.coupled_expected _
        refine (K.coupled_require (by simp [Feature.IsCall])).bindSame fun _ => ?_
        exact (K.coupled_advance 2).bindSame fun _ => coupled_pure rfl
      · exact K.coupled_expected _

theorem coupled_takeAssigned :
    K.Coupled (.graph (Option.map (Variable.renumber K.line))) takeAssigned takeAssigned := by
  unfold takeAssigned
  refine K.coupled_bind_ahead fun ls => ?_
  rw [K.assigned?_lexemes]
  cases assigned? ls with
  | none => exact coupled_pure rfl
  | some v => exact (K.coupled_advance 2).bindSame fun _ => coupled_pure rfl

theorem coupled_skipProcedureNumber :
    K.Coupled .same skipProcedureNumber skipProcedureNumber := by
  unfold skipProcedureNumber
  refine K.coupled_bind_ahead fun ls => ?_
  match ls with
  | [] => exact coupled_pure rfl
  | [_] => exact coupled_pure rfl
  | _ :: _ :: _ => exact coupled_ite (fun _ => K.coupled_advance 2) fun _ => coupled_pure rfl

theorem coupled_takeProcedure :
    K.Coupled (.graph (Expr.renumber K.line)) (takeProcedure K.first) (takeProcedure K.second) := by
  unfold takeProcedure
  refine K.coupled_nextVariable?.bindGraph fun o => ?_
  cases o with
  | some v => exact (K.coupled_advance 1).bindSame fun _ => coupled_pure rfl
  | none => exact (K.coupled_takeName .name).bindSame fun _ => coupled_pure rfl

theorem coupled_skipRoutineOption :
    K.Coupled .same (skipRoutineOption K.first) (skipRoutineOption K.second) := by
  unfold skipRoutineOption
  refine (K.coupled_eatIf fun _ => rfl).bindSame fun _ => coupled_ite (fun _ => ?_) fun _ => ?_
  · exact (K.coupled_expectKeyword .AS).bindSame fun _ => K.coupled_expectAny _
  · exact K.coupled_demand _ fun _ => rfl

theorem coupled_skipRoutineOptions :
    K.Coupled .same (skipRoutineOptions K.first) (skipRoutineOptions K.second) := by
  unfold skipRoutineOptions
  refine (K.coupled_eatKeyword .WITH).bindSame fun _ =>
    coupled_ite (fun _ => ?_) fun _ => coupled_pure rfl
  have hoption : K.Coupled (.upTo False id) (skipRoutineOption K.first)
      (skipRoutineOption K.second) := K.coupled_skipRoutineOption.mono fun _ _ _ => False.elim
  exact (K.coupled_commaSeparated hoption).bind fun _ _ _ => coupled_pure rfl

theorem coupled_skipForReplication :
    K.Coupled .same (skipForReplication K.first) (skipForReplication K.second) := by
  unfold skipForReplication
  exact (K.coupled_eatKeyword .FOR).bindSame fun _ =>
    coupled_ite (fun _ => K.coupled_expectKeyword _) fun _ => coupled_pure rfl

theorem coupled_requireOrAlter (orAlter : Bool) :
    K.Coupled .same (requireOrAlter K.first orAlter) (requireOrAlter K.second orAlter) := by
  unfold requireOrAlter
  exact coupled_ite (fun _ => K.coupled_require (by simp [Feature.IsCall]))
    fun _ => coupled_pure rfl

theorem coupled_takeBlockLabel : K.Coupled .same takeBlockLabel takeBlockLabel := by
  unfold takeBlockLabel
  refine (K.coupled_eatKeyword .TRY).bindSame fun _ =>
    coupled_ite (fun _ => coupled_pure rfl) fun _ => ?_
  exact (K.coupled_eatKeyword .CATCH).bindSame fun _ =>
    coupled_ite (fun _ => coupled_pure rfl) fun _ => coupled_pure rfl

theorem coupled_expectBlockLabel : ∀ label,
    K.Coupled .same (expectBlockLabel K.first label) (expectBlockLabel K.second label)
  | some k => K.coupled_expectKeyword k
  | none => coupled_pure rfl

/-! ## Declarations and assignments -/

section

variable {expr expr' : Nat → Parser Expr}
  (hexpr : ∀ m, K.Coupled K.exprs (expr m) (expr' m))
  (hscan : ∀ found found', K.exprLists.Rel found found' →
    K.Coupled K.exprLists (scanItem K.first expr found) (scanItem K.second expr' found'))

section

include hscan

theorem coupled_otherStatement :
    K.Coupled K.statements (otherStatement K.first expr) (otherStatement K.second expr') := by
  unfold otherStatement
  refine (K.coupled_fragment hscan).bind fun items items' hitems => coupled_pure fun hexact => ?_
  rw [hitems hexact, Statement.renumber]

theorem coupled_takeSetOption :
    K.Coupled K.statements (takeSetOption K.first expr) (takeSetOption K.second expr') := by
  have hother := K.coupled_otherStatement hscan
  rw [takeSetOption_eq, takeSetOption_eq]
  refine K.coupledAt_bind_ahead fun ls => ?_
  cases ls with
  | nil => exact (K.coupled_expected _).at
  | cons l ls =>
    simp only [List.map_cons, Lexeme.isKeyword_renumber, K.optionNames_lexemes, K.switch?_lexemes]
    split
    · split
      · split
        · exact hother.at
        · have hsuffix : (optionNames ls).2.drop 1 <:+ l :: ls :=
            (List.drop_suffix 1 _).trans ((optionNames_suffix ls).trans (List.suffix_cons l ls))
          rw [← List.map_drop]
          exact (K.coupledAt_moveTo hsuffix).bind fun _ _ _ => coupled_pure fun _ => rfl
      · exact hother.at
    · exact (K.coupled_expected _).at

theorem coupled_takeSelect :
    K.Coupled K.statements (takeSelect K.first expr) (takeSelect K.second expr') := by
  unfold takeSelect
  refine K.coupled_bind_ahead fun ls => ?_
  rw [K.getElem?_any_lexemes fun _ => rfl]
  refine coupled_ite (fun _ => K.coupled_otherStatement hscan) fun _ => ?_
  exact (K.coupled_advance 1).bindSame fun _ => K.coupled_unexpected

theorem coupled_takeResult :
    K.Coupled (.graph (Option.map (Variable.renumber K.line))) (takeResult K.first expr)
      (takeResult K.second expr') := by
  unfold takeResult
  refine K.coupled_nextVariable?.bindGraph fun o => ?_
  cases o with
  | some v =>
    refine (K.coupled_advance 1).bindSame fun _ => ?_
    refine (K.coupled_expectKeyword .TABLE).bindSame fun _ => ?_
    refine (K.coupled_expect .leftParen).bindSame fun _ => ?_
    exact (K.coupled_parenFragment hscan).bind fun _ _ _ => coupled_pure rfl
  | none =>
    refine (K.coupled_eatKeyword .TABLE).bindSame fun _ =>
      coupled_ite (fun _ => coupled_pure rfl) fun _ => ?_
    exact K.coupled_takeTypeRef.bindGraph fun _ => coupled_pure rfl

theorem coupled_skipCallOptions :
    K.Coupled .same (skipCallOptions K.first expr) (skipCallOptions K.second expr') := by
  unfold skipCallOptions
  refine (K.coupled_atNext fun _ => rfl).bindSame fun _ =>
    coupled_ite (fun _ => ?_) fun _ => coupled_pure rfl
  exact (K.coupled_fragment hscan).bind fun _ _ _ => coupled_pure rfl

end

include hexpr

/-! ## Calls and parameters -/

theorem coupled_takeArgumentValue :
    K.Coupled K.optionExprs (takeArgumentValue expr) (takeArgumentValue expr') := by
  unfold takeArgumentValue
  refine (K.coupled_eatKeyword .DEFAULT).bindSame fun _ =>
    coupled_ite (fun _ => coupled_pure fun _ => rfl) fun _ => ?_
  refine (hexpr 0).bind fun e e' he => coupled_pure fun hexact => ?_
  rw [he hexact, Option.map_some]

theorem coupled_takeArgument :
    K.Coupled (.upTo K.exact (Argument.renumber K.line)) (takeArgument expr)
      (takeArgument expr') := by
  unfold takeArgument
  refine K.coupled_takeAssigned.bindGraph fun name => ?_
  refine (K.coupled_takeArgumentValue hexpr).bind fun value value' hvalue => ?_
  refine (K.coupled_eatIf fun _ => rfl).bindSame fun output => coupled_pure fun hexact => ?_
  rw [hvalue hexact, Argument.renumber]

theorem coupled_takeArguments :
    K.Coupled (.upTo K.exact (List.map (Argument.renumber K.line))) (takeArguments expr)
      (takeArguments expr') := by
  unfold takeArguments
  refine K.coupled_bind_ahead fun ls => ?_
  have hwith : (K.lexemes ls).head?.any (Lexeme.isKeyword .WITH) =
      ls.head?.any (Lexeme.isKeyword .WITH) := K.head?_any_lexemes (fun _ => rfl) ls
  simp only [K.endsStatement_lexemes, hwith]
  exact coupled_ite (fun _ => coupled_pure fun _ => rfl) fun _ =>
    K.coupled_commaSeparated (K.coupled_takeArgument hexpr)

theorem coupled_takeDefault :
    K.Coupled K.optionExprs (takeDefault expr) (takeDefault expr') := by
  unfold takeDefault
  refine (K.coupled_eat .eq).bindSame fun _ =>
    coupled_ite (fun _ => ?_) fun _ => coupled_pure fun _ => rfl
  refine (hexpr 0).bind fun e e' he => coupled_pure fun hexact => ?_
  rw [he hexact, Option.map_some]

theorem coupled_takeParameter :
    K.Coupled (.upTo K.exact (Parameter.renumber K.line)) (takeParameter K.first expr)
      (takeParameter K.second expr') := by
  unfold takeParameter
  refine K.coupled_takeVariable.bindGraph fun name => ?_
  refine (K.coupled_eatKeyword .AS).bindSame fun _ => ?_
  refine K.coupled_takeTypeRef.bindGraph fun type => ?_
  refine (K.coupled_eatKeyword .VARYING).bindSame fun _ => ?_
  refine (K.coupled_takeDefault hexpr).bind fun default default' hdefault => ?_
  refine K.coupledAt_bind_ahead fun ls => ?_
  rw [K.outputMarks_lexemes]
  refine (K.coupledAt_moveTo (outputMarks_suffix ls)).bind fun _ _ _ => ?_
  refine coupled_pure fun hexact => ?_
  rw [hdefault hexact, Parameter.renumber]

theorem coupled_takeParameters :
    K.Coupled (.upTo K.exact (List.map (Parameter.renumber K.line))) (takeParameters K.first expr)
      (takeParameters K.second expr') := by
  unfold takeParameters
  refine K.coupled_nextVariable?.bindGraph fun o => ?_
  cases o with
  | some v => exact K.coupled_commaSeparated (K.coupled_takeParameter hexpr)
  | none => exact coupled_pure fun _ => rfl

theorem coupled_takeProcedureParameters :
    K.Coupled (.upTo K.exact (List.map (Parameter.renumber K.line)))
      (takeProcedureParameters K.first expr) (takeProcedureParameters K.second expr') := by
  unfold takeProcedureParameters
  refine (K.coupled_eat .leftParen).bindSame fun _ =>
    coupled_ite (fun _ => ?_) fun _ => K.coupled_takeParameters hexpr
  refine (K.coupled_takeParameters hexpr).bind fun parameters parameters' hparameters => ?_
  exact (K.coupled_expect .rightParen).bindSame fun _ => coupled_pure hparameters

theorem coupled_takeReturn :
    K.Coupled K.statements (takeReturn K.first expr) (takeReturn K.second expr') := by
  unfold takeReturn
  refine (K.coupled_expectKeyword .RETURN).bindSame fun _ => K.coupled_bind_ahead fun ls => ?_
  rw [K.endsStatement_lexemes]
  refine coupled_ite (fun _ => coupled_pure fun _ => rfl) fun _ => ?_
  refine (hexpr 0).bind fun e e' he => coupled_pure fun hexact => ?_
  rw [he hexact, Statement.renumber, Option.map_some]

include hscan

theorem coupled_takeDeclaration :
    K.Coupled (.upTo K.exact (Declaration.renumber K.line)) (takeDeclaration K.first expr)
      (takeDeclaration K.second expr') := by
  unfold takeDeclaration
  refine K.coupled_takeVariable.bindGraph fun name => ?_
  refine (K.coupled_eatKeyword .AS).bindSame fun _ => ?_
  refine (K.coupled_eatKeyword .TABLE).bindSame fun _ => coupled_ite (fun _ => ?_) fun _ => ?_
  · refine (K.coupled_expect .leftParen).bindSame fun _ => ?_
    exact (K.coupled_parenFragment hscan).bind fun _ _ _ => coupled_pure fun _ => rfl
  · refine (K.coupled_eatKeyword .CURSOR).bindSame fun _ =>
      coupled_ite (fun _ => coupled_pure fun _ => rfl) fun _ => ?_
    refine K.coupled_takeTypeRef.bindGraph fun type => ?_
    refine (K.coupled_atNext fun _ => rfl).bindSame fun _ =>
      coupled_ite (fun _ => ?_) fun _ => coupled_pure fun _ => rfl
    refine (K.coupled_require (by simp [Feature.IsCall])).bindSame fun _ => ?_
    refine (K.coupled_advance 1).bindSame fun _ => ?_
    refine (hexpr 0).bind fun e e' he => coupled_pure fun hexact => ?_
    rw [he hexact, Declaration.renumber, Option.map_some]

theorem coupled_takeDeclare :
    K.Coupled K.statements (takeDeclare K.first expr) (takeDeclare K.second expr') := by
  unfold takeDeclare
  refine K.coupled_bind_ahead fun ls => ?_
  rw [K.getElem?_bind_variableHere?]
  cases ls[1]?.bind Lexeme.variableHere? with
  | none => exact K.coupled_otherStatement hscan
  | some v =>
    refine (K.coupled_expectKeyword .DECLARE).bindSame fun _ => ?_
    refine (K.coupled_commaSeparated (K.coupled_takeDeclaration hexpr hscan)).bind
      fun items items' hitems => coupled_pure fun hexact => ?_
    rw [hitems hexact, Statement.renumber]

theorem coupled_takeSet :
    K.Coupled K.statements (takeSet K.first expr) (takeSet K.second expr') := by
  unfold takeSet
  refine K.coupled_bind_ahead fun ls => ?_
  rw [K.getElem?_bind_variableHere?]
  cases ls[1]?.bind Lexeme.variableHere? with
  | none => exact K.coupled_takeSetOption hscan
  | some target =>
    refine (K.coupled_advance 2).bindSame fun _ => ?_
    refine K.coupled_takeAssignment.bindSame fun op => ?_
    refine (K.coupled_atNext fun _ => rfl).bindSame fun _ => coupled_ite (fun _ => ?_) fun _ => ?_
    · refine (K.coupled_fragment hscan).bind fun items items' hitems => ?_
      refine coupled_pure fun hexact => ?_
      simp [hitems hexact, Statement.renumber, Expr.renumber]
    · refine (hexpr 0).bind fun e e' he => coupled_pure fun hexact => ?_
      rw [he hexact, Statement.renumber]

theorem coupled_takeExecute :
    K.Coupled K.statements (takeExecute K.first expr) (takeExecute K.second expr') := by
  unfold takeExecute
  refine K.coupled_bind_ahead fun ls => ?_
  simp only [K.lineAt]
  refine (K.coupled_advance 1).bindSame fun _ => ?_
  refine (K.coupled_eat .leftParen).bindSame fun _ => coupled_ite (fun _ => ?_) fun _ => ?_
  · refine (K.coupled_parenFragment hscan).bind fun inside inside' hinside => ?_
    refine (K.coupled_fragmentTail hscan false).bind fun behind behind' hbehind => ?_
    refine coupled_pure fun hexact => ?_
    rw [hinside hexact, hbehind hexact, Statement.renumber, List.map_append]
  · refine K.coupled_takeAssigned.bindGraph fun status => ?_
    refine K.coupled_takeProcedure.bindGraph fun procedure => ?_
    refine K.coupled_skipProcedureNumber.bindSame fun _ => ?_
    refine (K.coupled_takeArguments hexpr).bind fun arguments arguments' harguments => ?_
    refine (K.coupled_skipCallOptions hscan).bindSame fun _ => coupled_pure fun hexact => ?_
    rw [harguments hexact, Statement.renumber, Execution.renumber]

/-! ## Statements with statements inside -/

variable {statement statement' : Parser Statement}
  (hstatement : K.Coupled K.statements statement statement')
  (hitem : ∀ done done', K.statementLists.Rel done done' →
    K.CoupledAt (fun s => s.rest ≠ []) K.statementLists (listItem statement done)
      (listItem statement' done'))

include hstatement hitem

omit hstatement hscan in
theorem coupled_takeProcedureDefinition (line : Nat) :
    K.Coupled K.statements (takeProcedureDefinition K.first expr statement line)
      (takeProcedureDefinition K.second expr' statement' (K.line line)) := by
  unfold takeProcedureDefinition
  refine (K.coupled_takeName .name).bindSame fun name => ?_
  refine K.coupled_skipProcedureNumber.bindSame fun _ => ?_
  refine (K.coupled_takeProcedureParameters hexpr).bind fun parameters parameters' hparameters => ?_
  refine K.coupled_skipRoutineOptions.bindSame fun _ => ?_
  refine K.coupled_skipForReplication.bindSame fun _ => ?_
  refine (K.coupled_expectKeyword .AS).bindSame fun _ => ?_
  refine (K.coupled_statementList hitem fun _ => rfl).bind fun body body' hbody => ?_
  refine coupled_pure fun hexact => ?_
  simp [hparameters hexact, hbody hexact, Statement.renumber]

omit hstatement in
theorem coupled_takeFunctionDefinition (line : Nat) :
    K.Coupled K.statements (takeFunctionDefinition K.first expr statement line)
      (takeFunctionDefinition K.second expr' statement' (K.line line)) := by
  unfold takeFunctionDefinition
  refine (K.coupled_takeName .name).bindSame fun name => ?_
  refine (K.coupled_expect .leftParen).bindSame fun _ => ?_
  refine (K.coupled_takeParameters hexpr).bind fun parameters parameters' hparameters => ?_
  refine (K.coupled_expect .rightParen).bindSame fun _ => ?_
  refine (K.coupled_expectKeyword .RETURNS).bindSame fun _ => ?_
  refine (K.coupled_takeResult hscan).bindGraph fun result => ?_
  refine K.coupled_skipRoutineOptions.bindSame fun _ => ?_
  refine (K.coupled_eatKeyword .AS).bindSame fun _ => ?_
  refine (K.coupled_statementList hitem fun _ => rfl).bind fun body body' hbody => ?_
  refine coupled_pure fun hexact => ?_
  simp [hparameters hexact, hbody hexact, Statement.renumber]

omit hstatement in
theorem coupled_takeCreate :
    K.Coupled K.statements (takeCreate K.first expr statement)
      (takeCreate K.second expr' statement') := by
  have hprocedure := K.coupled_takeProcedureDefinition hexpr hitem
  have hfunction := K.coupled_takeFunctionDefinition hexpr hscan hitem
  unfold takeCreate
  refine K.coupled_bind_ahead fun ls => ?_
  have hkeyword : ∀ n, (K.lexemes ls)[n]?.bind Lexeme.keyword? = ls[n]?.bind Lexeme.keyword? :=
    K.getElem?_bind_lexemes (fun _ => rfl) ls
  simp only [K.lineAt, K.isOrAlter_lexemes, hkeyword]
  split
  · refine (K.coupled_requireOrAlter _).bindSame fun _ => ?_
    exact (K.coupled_advance _).bindSame fun _ => hfunction _
  · refine (K.coupled_requireOrAlter _).bindSame fun _ => ?_
    exact (K.coupled_advance _).bindSame fun _ => hprocedure _
  · refine (K.coupled_requireOrAlter _).bindSame fun _ => ?_
    exact (K.coupled_advance _).bindSame fun _ => hprocedure _
  · exact K.coupled_otherStatement hscan

omit hexpr hstatement in
theorem coupled_takeBegin :
    K.Coupled K.statements (takeBegin K.first expr statement)
      (takeBegin K.second expr' statement') := by
  unfold takeBegin
  refine K.coupled_bind_ahead fun ls => ?_
  rw [K.getElem?_bind_lexemes fun _ => rfl]
  refine coupled_ite (fun _ => K.coupled_otherStatement hscan) fun _ => ?_
  refine (K.coupled_expectKeyword .BEGIN).bindSame fun _ => ?_
  refine K.coupled_takeBlockLabel.bindSame fun label => ?_
  refine (K.coupled_statementList hitem fun _ => rfl).bind fun body body' hbody => ?_
  refine (K.coupled_expectKeyword .END).bindSame fun _ => ?_
  refine (K.coupled_expectBlockLabel label).bindSame fun _ => coupled_pure fun hexact => ?_
  simp [hbody hexact, Statement.renumber]

omit hexpr hscan hitem in
theorem coupled_takeBody :
    K.Coupled K.statements (takeBody K.first statement) (takeBody K.second statement') := by
  unfold takeBody
  refine K.coupledAt_bind_ahead fun ls => ?_
  rw [K.skipSemicolons_lexemes]
  have hsuffix := skipSemicolons_suffix ls
  cases hrest : skipSemicolons ls with
  | nil =>
    rw [hrest] at hsuffix
    exact (K.coupledAt_moveTo hsuffix).bind fun _ _ _ => K.coupled_expected _
  | cons l rest =>
    rw [hrest] at hsuffix
    exact (K.coupledAt_moveTo hsuffix).bind fun _ _ _ => hstatement

omit hscan hitem in
theorem coupled_takeIf :
    K.Coupled K.statements (takeIf K.first expr statement)
      (takeIf K.second expr' statement') := by
  unfold takeIf
  refine (K.coupled_expectKeyword .IF).bindSame fun _ => ?_
  refine (hexpr 0).bind fun condition condition' hcondition => ?_
  refine (K.coupled_takeBody hstatement).bind fun body body' hbody => ?_
  have halone : K.Coupled K.statements (pure (.conditional condition body none))
      (pure (.conditional condition' body' none)) := by
    refine coupled_pure fun hexact => ?_
    rw [hcondition hexact, hbody hexact, Statement.renumber, Statement.optionRenumber]
  refine K.coupledAt_bind_ahead fun ls => ?_
  rw [K.skipSemicolons_lexemes]
  have hsuffix := skipSemicolons_suffix ls
  cases hrest : skipSemicolons ls with
  | nil => exact halone.at
  | cons l rest =>
    rw [hrest] at hsuffix
    refine coupledAt_ite (fun _ => ?_) fun _ => halone.at
    · rw [moveBehind_cons, moveBehind_cons]
      refine (K.coupledAt_moveTo ((List.suffix_cons l rest).trans hsuffix)).bind fun _ _ _ => ?_
      refine (K.coupled_takeBody hstatement).bind fun otherwise otherwise' hotherwise => ?_
      refine coupled_pure fun hexact => ?_
      rw [hcondition hexact, hbody hexact, hotherwise hexact, Statement.renumber,
        Statement.optionRenumber]

omit hscan hitem in
theorem coupled_takeWhile :
    K.Coupled K.statements (takeWhile K.first expr statement)
      (takeWhile K.second expr' statement') := by
  unfold takeWhile
  refine (K.coupled_expectKeyword .WHILE).bindSame fun _ => ?_
  refine (hexpr 0).bind fun condition condition' hcondition => ?_
  refine (K.coupled_takeBody hstatement).bind fun body body' hbody => ?_
  refine coupled_pure fun hexact => ?_
  rw [hcondition hexact, hbody hexact, Statement.renumber, Statement.optionRenumber]

theorem coupled_takeStatement :
    K.Coupled K.statements (takeStatement K.first expr statement)
      (takeStatement K.second expr' statement') := by
  unfold takeStatement
  refine K.coupled_bind_ahead fun ls => ?_
  have hdispatch : (K.lexemes ls).head?.bind Lexeme.dispatch? = ls.head?.bind Lexeme.dispatch? := by
    cases ls <;> rfl
  rw [hdispatch]
  split
  · exact K.coupled_takeDeclare hexpr hscan
  · exact K.coupled_takeSet hexpr hscan
  · exact K.coupled_takeExecute hexpr hscan
  · exact K.coupled_takeExecute hexpr hscan
  · exact K.coupled_takeCreate hexpr hscan hitem
  · exact K.coupled_takeCreate hexpr hscan hitem
  · exact K.coupled_takeBegin hscan hitem
  · exact K.coupled_takeIf hexpr hstatement
  · exact K.coupled_takeWhile hexpr hstatement
  · exact K.coupled_takeReturn hexpr
  · exact K.coupled_takeSelect hscan
  · exact K.coupled_unexpected
  · exact K.coupled_unexpected
  · exact K.coupled_otherStatement hscan

end

/-! ## All levels -/

/-- What a comparison has to say about attempts, the runs having the same number of levels left. -/
structure Attempts (K : Coupling) : Prop where
  tooDeep : ∀ {s t}, K.Step s t →
    K.Fail (.tooDeep (K.first.lineAt s.rest)) s (.tooDeep (K.second.lineAt t.rest)) t
  iif : ∀ {s t l ls}, K.Step s t → s.rest = l :: ls → l.isKeyword .IIF → opensParen ls →
    K.Meets .same (.ok () ((s.noteIif K.first l).moveTo ls))
      (.ok () ((t.noteIif K.second (l.renumber K.line)).moveTo (K.lexemes ls)))
  tried : ∀ levels {s t l ls kind found found'},
    K.Meets K.exprs (takeCast K.first (expr K.first levels) kind s)
      (takeCast K.second (expr K.second levels) kind t) →
    K.Step s t → s.rest = l :: ls → castKind? l = some kind → opensParen ls →
    K.exprLists.Rel found found' →
    K.Meets K.exprLists (tried found ls (takeCast K.first (expr K.first levels) kind s))
      (tried found' (K.lexemes ls) (takeCast K.second (expr K.second levels) kind t))
  retried : ∀ levels {s t},
    K.Meets K.exprLists (listOrQuery K.first (expr K.first levels) s)
      (listOrQuery K.second (expr K.second levels) t) →
    K.Coupled K.exprLists (parenFragment K.first (expr K.first levels))
      (parenFragment K.second (expr K.second levels)) →
    K.Step s t → K.Opened s.rest →
    K.Meets K.exprLists
      (retried K.first (expr K.first levels) s.rest (listOrQuery K.first (expr K.first levels) s))
      (retried K.second (expr K.second levels) t.rest
        (listOrQuery K.second (expr K.second levels) t))
  recovered : ∀ levels {s t done done'},
    K.Meets K.statements (statement K.first levels s) (statement K.second levels t) →
    K.Step s t → K.statementLists.Rel done done' →
    K.Meets K.statementLists (recovered done s.rest (statement K.first levels s))
      (recovered done' t.rest (statement K.second levels t))

namespace Attempts

variable {K : Coupling} (A : K.Attempts)

include A

theorem coupled_tooDeep {α : Type} {L : Link α} :
    K.Coupled L (Parser.tooDeep K.first) (Parser.tooDeep K.second) :=
  ⟨keepsErrors_of_eq fun _ => rfl, fun _ _ hst _ => .error (A.tooDeep hst)⟩

section

variable {levels : Nat}
  (hexpr : ∀ m, K.Coupled K.exprs (expr K.first levels m) (expr K.second levels m))

include hexpr

theorem coupled_scanItem (found found' : List Expr) (hfound : K.exprLists.Rel found found') :
    K.Coupled K.exprLists (scanItem K.first (expr K.first levels) found)
      (scanItem K.second (expr K.second levels) found') := by
  refine K.coupled_scanItem hexpr A.iif (fun hst hs hkind hopens hfound => ?_) found found' hfound
  have hcast := (K.coupledAt_takeCast hexpr hkind hopens).meets _ _ hst hs
  exact A.tried levels hcast hst hs hkind hopens hfound

theorem coupled_parenFragment :
    K.Coupled K.exprLists (parenFragment K.first (expr K.first levels))
      (parenFragment K.second (expr K.second levels)) :=
  K.coupled_parenFragment (A.coupled_scanItem hexpr)

theorem coupled_callArguments :
    K.CoupledAt (fun s => K.Opened s.rest) K.exprLists
      (callArguments K.first (expr K.first levels))
      (callArguments K.second (expr K.second levels)) := by
  have hparen := A.coupled_parenFragment hexpr
  refine K.coupled_callArguments hexpr hparen fun hst hs => ?_
  exact A.retried levels ((K.coupled_listOrQuery hexpr hparen).run hst) hparen hst hs

end

theorem coupled_expr : ∀ levels m,
    K.Coupled K.exprs (expr K.first levels m) (expr K.second levels m)
  | 0, _ => A.coupled_tooDeep
  | levels + 1, m =>
    K.coupled_operatorChain (coupled_expr levels) (A.coupled_parenFragment (coupled_expr levels))
      (A.coupled_callArguments (coupled_expr levels)) m

theorem coupled_listItem {levels : Nat}
    (hstatement : K.Coupled K.statements (statement K.first levels) (statement K.second levels))
    (done done' : List Statement) (hdone : K.statementLists.Rel done done') :
    K.CoupledAt (fun s => s.rest ≠ []) K.statementLists
      (listItem (statement K.first levels) done) (listItem (statement K.second levels) done') :=
  K.coupled_listItem hstatement.keeps
    (fun hst hdone => A.recovered levels (hstatement.run hst) hst hdone) done done' hdone

theorem coupled_statement : ∀ levels,
    K.Coupled K.statements (statement K.first levels) (statement K.second levels)
  | 0 => A.coupled_tooDeep
  | levels + 1 => by
    have hexpr := A.coupled_expr levels
    have hstatement := coupled_statement levels
    exact K.coupled_takeStatement hexpr (A.coupled_scanItem hexpr) hstatement
      (A.coupled_listItem hstatement)

/-- Two runs over a batch are in step to the end, or the comparison is over. -/
theorem coupled_topStatements :
    K.Coupled K.statementLists (topStatements K.first) (topStatements K.second) :=
  K.coupled_statementList (A.coupled_listItem (A.coupled_statement maxDepth)) fun _ => rfl

end Attempts

end Coupling

end SqlLint
