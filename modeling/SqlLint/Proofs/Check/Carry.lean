import SqlLint.Check.Walk
import SqlLint.Proofs.Syntax.Renumber

/-!
# Visits from another state

The checks carry along diagnostics that they only ever add to, and lines that they only ever copy.
A visit that begins behind other diagnostics, over statements whose lines have other numbers, does
therefore what it would have done from the original state. `Check.carry ds f` takes the original
state to the other one: the diagnostics `ds` stand before those found so far, and every line has
gone through `f`. Every visiting function commutes with it.

Both uses of this are special cases. With `f` the identity it says that what was found before does
not matter; with `ds` empty it says that lines are only copied.

Symbols are not carried from one batch to the next. A batch begins and ends without any and leaves
the switch for row counts as it was, so the state between two batches is known up to the
diagnostics; that is `script_append_diagnostics`.

## Main results

* `Check.carry_statement`, `Check.carry_script`: visits commute with `carry`
* `Check.script_append_diagnostics`: the diagnostics of batches behind other batches
* `Check.script_renumber_diagnostics`: the diagnostics of batches with other numbers for their lines
-/

namespace SqlLint

/-- The diagnostic with another number for its line. -/
def Diagnostic.renumber (f : Nat → Nat) (d : Diagnostic) : Diagnostic := { d with line := f d.line }

@[simp] theorem Diagnostic.renumber_id_eq_id : Diagnostic.renumber id = id := rfl

/-- The symbol with another number for its line. -/
def Symbol.renumber (f : Nat → Nat) (s : Symbol) : Symbol := { s with line := f s.line }

/-! ## Symbol tables -/

namespace SymbolTable

variable (f : Nat → Nat) (t : SymbolTable)

/-- The table with other numbers for its lines. -/
def renumber : SymbolTable := ⟨t.entries.map fun entry => (entry.1, entry.2.renumber f)⟩

@[simp] theorem get?_renumber (name : String) :
    (t.renumber f).get? name = (t.get? name).map (Symbol.renumber f) :=
  lookup_map (Symbol.renumber f) (key name) t.entries

@[simp] theorem typeOf?_renumber (name : String) :
    (t.renumber f).typeOf? name = t.typeOf? name := by
  rw [typeOf?, typeOf?, get?_renumber, Option.map_map]
  rfl

@[simp] theorem declares_renumber (name : String) :
    (t.renumber f).declares name = t.declares name := by
  rw [declares, declares, get?_renumber, Option.isSome_map]

theorem declare_renumber (name : String) (type : DataType) (line : Nat) :
    (t.renumber f).declare name type (f line) = (t.declare name type line).renumber f := by
  rw [declare, declare, renumber, renumber]
  exact congrArg mk (put_map (Symbol.renumber f) (key name) ⟨name, type, line, false⟩ t.entries)

theorem reference_renumber (name : String) :
    (t.renumber f).reference name = (t.reference name).renumber f := by
  rw [reference, reference, get?_renumber]
  cases t.get? name with
  | none => rfl
  | some symbol =>
    exact congrArg mk
      (put_map (Symbol.renumber f) (key name) { symbol with referenced := true } t.entries)

theorem unreferenced_renumber :
    (t.renumber f).unreferenced = t.unreferenced.map (Symbol.renumber f) := by
  have hsymbols : (t.renumber f).symbols = t.symbols.map (Symbol.renumber f) := by
    simp [symbols, renumber]
  rw [unreferenced, hsymbols, List.filter_map]
  rfl

end SymbolTable

theorem assignmentDiagnostics_renumber (f : Nat → Nat) (line : Nat) (name : String)
    (target source : DataType) :
    assignmentDiagnostics (f line) name target source =
      (assignmentDiagnostics line name target source).map (Diagnostic.renumber f) := by
  have hremark : ∀ (room : Nat) (base : BaseType), renderedRemark (f line) name room base =
      (renderedRemark line name room base).map (Diagnostic.renumber f) := by
    intro room base
    unfold renderedRemark
    split
    · split <;> rfl
    · rfl
  unfold assignmentDiagnostics
  split
  · simp only [List.map_append, apply_ite (List.map (Diagnostic.renumber f)), List.map_nil, hremark]
    rfl
  · rfl

namespace Check

/-- The state behind other diagnostics and with other numbers for its lines. -/
def carry (ds : List Diagnostic) (f : Nat → Nat) (c : Check) : Check where
  symbols := c.symbols.renumber f
  diagnostics := ds ++ c.diagnostics.map (Diagnostic.renumber f)
  nocount := c.nocount

theorem typeOf_renumber (f : Nat → Nat) (symbols : SymbolTable) : ∀ e : Expr,
    typeOf (symbols.renumber f) (e.renumber f) = typeOf symbols e
  | .var v => by
    rw [Expr.renumber, typeOf, typeOf]
    exact congrArg (Option.getD · _) (symbols.typeOf?_renumber f v.name)
  | .binary op left right => by
    rw [Expr.renumber, typeOf, typeOf, typeOf_renumber f symbols left,
      typeOf_renumber f symbols right]
  | .paren inner => by
    rw [Expr.renumber, typeOf, typeOf, typeOf_renumber f symbols inner]
  | .string _ _ => rfl
  | .number _ => rfl
  | .null => rfl
  | .name _ => rfl
  | .cast _ _ _ _ => rfl
  | .unary _ _ => rfl
  | .call _ _ => rfl
  | .parts _ => rfl

variable (old : List Diagnostic) (f : Nat → Nat)

/-! ## Steps -/

theorem carry_report (ds : List Diagnostic) (c : Check) :
    (c.carry old f).report (ds.map (Diagnostic.renumber f)) = (c.report ds).carry old f := by
  simp [carry, report]

theorem carry_declare (v : Variable) (type : DataType) (c : Check) :
    (c.carry old f).declare (v.renumber f) type = (c.declare v type).carry old f := by
  unfold declare carry
  congr 1
  exact c.symbols.declare_renumber f v.name type v.line

theorem carry_use (p : Option String) (v : Variable) (c : Check) :
    use p (v.renumber f) (c.carry old f) = (use p v c).carry old f := by
  have hdeclares : (c.carry old f).symbols.declares v.name = c.symbols.declares v.name :=
    c.symbols.declares_renumber f v.name
  have hreference : (c.carry old f).symbols.reference v.name =
      (c.symbols.reference v.name).renumber f := c.symbols.reference_renumber f v.name
  unfold use
  change (if v.isGlobal then _ else if (p.any fun p => Text.equalFold p v.name) then _
    else if (c.carry old f).symbols.declares v.name then _ else _) = _
  rw [hdeclares]
  split
  · rfl
  · split
    · rfl
    · split
      · change { c.carry old f with symbols := (c.carry old f).symbols.reference v.name } = _
        rw [hreference]
        rfl
      · exact carry_report old f [.undeclaredVariable v.line v.name] c

theorem carry_castTarget (kind : CastKind) (target : TypeRef) (c : Check) :
    castTarget kind (target.renumber f) (c.carry old f) =
      (castTarget kind target c).carry old f := by
  unfold castTarget
  change (if (DataType.ofRef target).isUnsizedString then _ else _) = _
  split
  · exact carry_report old f [.convertWithoutLength target.line kind.keyword.text target.name] c
  · rfl

/-! ## Expressions -/

mutual

theorem carry_expr (p : Option String) : ∀ (e : Expr) (c : Check),
    expr p (e.renumber f) (c.carry old f) = (expr p e c).carry old f
  | .var v, c => carry_use old f p v c
  | .cast kind operand target style, c => by
    rw [Expr.renumber, expr, expr, carry_castTarget, carry_expr p operand]
    exact carry_optionalExpr p style _
  | .binary _ left right, c => by
    rw [Expr.renumber, expr, expr, carry_expr p left, carry_expr p right]
  | .unary _ operand, c => by rw [Expr.renumber, expr, expr, carry_expr p operand]
  | .paren inner, c => by rw [Expr.renumber, expr, expr, carry_expr p inner]
  | .call _ args, c => by rw [Expr.renumber, expr, expr, carry_exprs p args]
  | .parts items, c => by rw [Expr.renumber, expr, expr, carry_exprs p items]
  | .string _ _, _ => rfl
  | .number _, _ => rfl
  | .null, _ => rfl
  | .name _, _ => rfl

theorem carry_exprs (p : Option String) : ∀ (es : List Expr) (c : Check),
    exprs p (Expr.listRenumber f es) (c.carry old f) = (exprs p es c).carry old f
  | [], _ => rfl
  | e :: es, c => by rw [Expr.listRenumber, exprs, exprs, carry_expr p e, carry_exprs p es]

theorem carry_optionalExpr (p : Option String) : ∀ (o : Option Expr) (c : Check),
    optionalExpr p (Expr.optionRenumber f o) (c.carry old f) = (optionalExpr p o c).carry old f
  | none, _ => rfl
  | some e, c => carry_expr p e c

end

theorem carry_mapExpr (p : Option String) (o : Option Expr) (c : Check) :
    optionalExpr p (o.map (Expr.renumber f)) (c.carry old f) =
      (optionalExpr p o c).carry old f := by
  rw [← Expr.optionRenumber_eq_map]
  exact carry_optionalExpr old f p o c

/-- Visits in a row. -/
theorem carry_foldl {α : Type} {visit : Check → α → Check} {ρ : α → α}
    (hvisit : ∀ c a, visit (c.carry old f) (ρ a) = (visit c a).carry old f) (as : List α)
    (c : Check) : (as.map ρ).foldl visit (c.carry old f) = (as.foldl visit c).carry old f := by
  induction as generalizing c with
  | nil => rfl
  | cons a as ih => rw [List.map_cons, List.foldl_cons, List.foldl_cons, hvisit, ih]

/-! ## Declarations, assignments and calls -/

theorem carry_declareTyped (v : Variable) (type : DataType) (c : Check) :
    (c.carry old f).declareTyped (v.renumber f) type = (c.declareTyped v type).carry old f := by
  unfold declareTyped
  split
  · rw [← carry_declare, ← carry_report]
    rfl
  · exact carry_declare old f v type c

theorem carry_declaration (d : Declaration) (c : Check) :
    (c.carry old f).declaration (d.renumber f) = (c.declaration d).carry old f := by
  cases d with
  | table name => exact carry_declare old f name .unknown c
  | scalar name type value =>
    have hdeclared := carry_declareTyped old f name (.ofRef type) c
    cases value with
    | none => exact hdeclared
    | some e =>
      have hvalue := carry_expr old f none e (c.declareTyped name (.ofRef type))
      have htype := typeOf_renumber f (expr none e (c.declareTyped name (.ofRef type))).symbols e
      change (expr none (e.renumber f) ((c.carry old f).declareTyped (name.renumber f)
        (.ofRef type))).report (assignmentDiagnostics (f type.line) name.name (.ofRef type)
          (typeOf (expr none (e.renumber f) ((c.carry old f).declareTyped (name.renumber f)
            (.ofRef type))).symbols (e.renumber f))) = _
      rw [hdeclared, hvalue, assignmentDiagnostics_renumber, carry_report]
      exact congrArg (fun t => ((expr none e (c.declareTyped name (.ofRef type))).report
        (assignmentDiagnostics type.line name.name (.ofRef type) t)).carry old f) htype

theorem carry_parameter (p : Parameter) (c : Check) :
    (c.carry old f).parameter (p.renumber f) = (c.parameter p).carry old f := by
  unfold parameter
  rw [← carry_mapExpr, ← carry_declareTyped]
  rfl

theorem carry_setVariable (target : Variable) (op : Option BinaryOp) (value : Expr) (c : Check) :
    (c.carry old f).setVariable (target.renumber f) op (value.renumber f) =
      (c.setVariable target op value).carry old f := by
  have hvalue : expr none (value.renumber f) (use none (target.renumber f) (c.carry old f)) =
      (expr none value (c.use none target)).carry old f := by
    rw [carry_use, carry_expr]
  unfold setVariable
  simp only [hvalue]
  generalize expr none value (c.use none target) = d
  have htype : (d.carry old f).symbols.typeOf? (target.renumber f).name =
      d.symbols.typeOf? target.name := d.symbols.typeOf?_renumber f target.name
  have hsource : typeOf (d.carry old f).symbols (value.renumber f) = typeOf d.symbols value :=
    typeOf_renumber f d.symbols value
  rw [htype, hsource]
  cases d.symbols.typeOf? target.name with
  | none => rfl
  | some type =>
    rw [← carry_report, ← assignmentDiagnostics_renumber]
    rfl

theorem carry_argument (a : Argument) (c : Check) :
    (c.carry old f).argument (a.renumber f) = (c.argument a).carry old f := by
  have hname : ((a.renumber f).name.map (·.name)) = a.name.map (·.name) := by
    rw [Argument.renumber, Option.map_map]
    rfl
  unfold argument
  rw [hname]
  exact carry_mapExpr old f _ a.value c

theorem carry_execution (e : Execution) (c : Check) :
    (c.carry old f).execution (e.renumber f) = (c.execution e).carry old f := by
  have hstatus : status (e.status.map (Variable.renumber f)) (c.carry old f) =
      (status e.status c).carry old f := by
    cases e.status with
    | none => rfl
    | some v => exact carry_use old f none v c
  unfold execution
  rw [← carry_foldl old f (fun c a => carry_argument old f a c), ← carry_expr, ← hstatus]
  rfl

/-! ## Statements -/

theorem carry_procedureName (name : String) (line : Nat) (c : Check) :
    (c.carry old f).procedureName name (f line) = (c.procedureName name line).carry old f := by
  unfold procedureName
  split
  · exact carry_report old f [.procedureWithSpPrefix line name] c
  · rfl

theorem carry_closeProcedure (name : String) (line : Nat) (outer : Bool) (c : Check) :
    (c.carry old f).closeProcedure name (f line) outer =
      (c.closeProcedure name line outer).carry old f := by
  by_cases h : c.nocount
  · simp [closeProcedure, carry, h]
  · simp [closeProcedure, carry, report, h]
    rfl

mutual

theorem carry_statement : ∀ (s : Statement) (c : Check),
    statement (s.renumber f) (c.carry old f) = (statement s c).carry old f
  | .declare items, c => by
    rw [Statement.renumber, statement, statement]
    exact carry_foldl old f (fun c d => carry_declaration old f d c) items c
  | .setVariable target op value, c => by
    rw [Statement.renumber, statement, statement, carry_setVariable]
  | .setOption _ options on, c => by
    rw [Statement.renumber, statement, statement]
    unfold setOption
    split <;> rfl
  | .procedure name line parameters body, c => by
    have hopened : (parameters.map (Parameter.renumber f)).foldl (fun c p => c.parameter p)
        ((c.carry old f).procedureName (baseName name) (f line)) =
        (parameters.foldl (fun c p => c.parameter p)
          (c.procedureName (baseName name) line)).carry old f := by
      rw [carry_procedureName]
      exact carry_foldl old f (fun c p => carry_parameter old f p c) parameters _
    have hbody := carry_statements body { parameters.foldl (fun c p => c.parameter p)
      (c.procedureName (baseName name) line) with nocount := false }
    simp only [Statement.renumber, statement, hopened, ← carry_closeProcedure, ← hbody]
    rfl
  | .function _ _ parameters result body, c => by
    have hopened : (parameters.map (Parameter.renumber f)).foldl (fun c p => c.parameter p)
        (c.carry old f) = (parameters.foldl (fun c p => c.parameter p) c).carry old f :=
      carry_foldl old f (fun c p => carry_parameter old f p c) parameters c
    simp only [Statement.renumber, statement, hopened]
    generalize parameters.foldl (fun c p => c.parameter p) c = d
    cases result with
    | none =>
      exact congrArg (fun d : Check => { d with nocount := c.nocount })
        (carry_statements body { d with nocount := false })
    | some v =>
      have hdeclare := carry_declare old f v .unknown d
      simp only [Option.map_some, hdeclare]
      exact congrArg (fun d : Check => { d with nocount := c.nocount })
        (carry_statements body { d.declare v .unknown with nocount := false })
  | .execute call, c => by
    rw [Statement.renumber, statement, statement, carry_execution]
  | .block body, c => by
    rw [Statement.renumber, statement, statement, carry_statements body]
  | .conditional condition body otherwise, c => by
    rw [Statement.renumber, statement, statement, carry_expr, carry_statement body]
    exact carry_optionalStatement otherwise _
  | .returns value, c => by
    rw [Statement.renumber, statement, statement, carry_mapExpr]
  | .other items, c => by
    rw [Statement.renumber, statement, statement, ← Expr.listRenumber_eq_map, carry_exprs]

theorem carry_statements : ∀ (ss : List Statement) (c : Check),
    statements (Statement.listRenumber f ss) (c.carry old f) = (statements ss c).carry old f
  | [], _ => rfl
  | s :: ss, c => by
    rw [Statement.listRenumber, statements, statements, carry_statement s, carry_statements ss]

theorem carry_optionalStatement : ∀ (o : Option Statement) (c : Check),
    optionalStatement (Statement.optionRenumber f o) (c.carry old f) =
      (optionalStatement o c).carry old f
  | none, _ => rfl
  | some s, c => carry_statement s c

end

/-! ## Batches -/

theorem carry_batch (b : Batch) (c : Check) :
    (c.carry old f).batch (b.renumber f) = (c.batch b).carry old f := by
  have hvisited := carry_statements old f b.statements
    { c with symbols := .empty, nocount := false }
  rw [Statement.listRenumber_eq_map] at hvisited
  generalize hd : statements b.statements { c with symbols := .empty, nocount := false } = d
    at hvisited
  have hunused : unusedDiagnostics (d.carry old f).symbols =
      (unusedDiagnostics d.symbols).map (Diagnostic.renumber f) := by
    unfold unusedDiagnostics
    rw [show (d.carry old f).symbols = d.symbols.renumber f from rfl,
      SymbolTable.unreferenced_renumber, List.map_map, List.map_map]
    rfl
  have hreport : (d.carry old f).report (unusedDiagnostics (d.carry old f).symbols) =
      (d.report (unusedDiagnostics d.symbols)).carry old f := by
    rw [hunused, carry_report]
  have hstart : ({ c.carry old f with symbols := .empty, nocount := false } : Check) =
      ({ c with symbols := .empty, nocount := false } : Check).carry old f := rfl
  unfold batch
  simp only [Batch.renumber, hstart, hvisited, hd, hreport]
  rfl

theorem carry_script (bs : List Batch) (c : Check) :
    (c.carry old f).script (bs.map (Batch.renumber f)) = (c.script bs).carry old f :=
  carry_foldl old f (fun c b => carry_batch old f b c) bs c

/-- Between batches there are no symbols and row counts are on, as at the start. -/
theorem script_start (bs : List Batch) :
    start.script bs = start.carry (start.script bs).diagnostics id := by
  have hbetween : ∀ c : Check, c.symbols = .empty → c.nocount = false →
      (c.script bs).symbols = .empty ∧ (c.script bs).nocount = false := by
    induction bs with
    | nil => exact fun c hsymbols hnocount => ⟨hsymbols, hnocount⟩
    | cons b bs ih => exact fun c _ hnocount => ih (c.batch b) rfl hnocount
  obtain ⟨hsymbols, hnocount⟩ := hbetween start rfl rfl
  have hcarry : ∀ ds, start.carry ds id = ⟨.empty, ds, false⟩ := by
    intro ds
    simp [carry, start, SymbolTable.renumber, SymbolTable.empty]
  rw [hcarry]
  generalize start.script bs = c at hsymbols hnocount
  obtain ⟨symbols, diagnostics, nocount⟩ := c
  rw [show symbols = _ from hsymbols, show nocount = _ from hnocount]

/-- **What is found in batches does not depend on the batches before them.** -/
theorem script_append_diagnostics (as bs : List Batch) :
    (start.script (as ++ bs)).diagnostics =
      (start.script as).diagnostics ++ (start.script bs).diagnostics := by
  have hbehind := carry_script (start.script as).diagnostics id bs start
  rw [List.map_congr_left fun b _ => b.renumber_id, List.map_id', ← script_start as] at hbehind
  have happend : start.script (as ++ bs) = (start.script as).script bs := List.foldl_append
  rw [happend, hbehind]
  simp [carry]

/-- **The checks copy lines and do nothing else with them.** -/
theorem script_renumber_diagnostics (bs : List Batch) :
    (start.script (bs.map (Batch.renumber f))).diagnostics =
      (start.script bs).diagnostics.map (Diagnostic.renumber f) :=
  congrArg Check.diagnostics (carry_script [] f bs start)

end Check

end SqlLint
