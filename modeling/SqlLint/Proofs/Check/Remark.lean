import SqlLint.Proofs.Check.Site
import SqlLint.Proofs.Check.Variables

/-!
# Remarks on lengths and on row counts

The checks carry a flag through a procedure that tells whether `SET NOCOUNT ON` has been met. It is
put aside for a procedure or function that is defined inside, and taken up again behind it. And they
visit an expression in two ways, once for what is in it and once more for its type. This module
shows that none of this goes wrong: the remarks on lengths and on row counts that a visit adds are
those of the sites of the tree (`SqlLint.Proofs.Check.Site`), each once and in order, whatever the
state in which the visit begins.

## What is carried

`Check.Passes sites off c c'` relates the states before and after a visit. The diagnostics that have
been added make the remarks on `sites`, diagnostics of other kinds apart, and the flag is on if it
was before or if `off`. Such steps can be put in a row (`Passes.trans`). In a procedure the flag
starts anew, so the two halves are also needed apart, and `Check.Reports` is the first one.

## Main results

* `Check.passes_statement`: a visit of any statement
* `Check.reports_script`: a visit of a script
* `Check.procedure_nocount`: the remark on row counts at the end of a procedure
* `Check.script_unsized`: the remarks on lengths in a script
-/

namespace SqlLint

/-- The kinds of remarks on sites. -/
def DiagnosticKind.isOfSite : DiagnosticKind → Bool
  | procedureWithoutNoCount | implicitLength | convertWithoutLength => true
  | _ => false

theorem Site.isOfSite_of_remark? {site : Site} {d : Diagnostic} (h : site.remark? = some d) :
    d.kind.isOfSite := by
  cases site with
  | cast kind target =>
    obtain ⟨_, ⟨⟩⟩ := Option.ite_none_right_eq_some.1 h
    rfl
  | typed v type =>
    obtain ⟨_, ⟨⟩⟩ := Option.ite_none_right_eq_some.1 h
    rfl
  | procedure name line quiet =>
    obtain ⟨_, ⟨⟩⟩ := Option.ite_none_left_eq_some.1 h
    rfl

namespace Check

/-- The diagnostics added between two states make the remarks on the sites, other kinds apart. -/
def Reports (sites : List Site) (c c' : Check) : Prop :=
  ∃ found, c'.diagnostics = c.diagnostics ++ found ∧
    found.filter (·.kind.isOfSite) = sites.filterMap Site.remark?

/-- A visit makes the remarks on the sites, and switches row counts off if `off`. -/
structure Passes (sites : List Site) (off : Bool) (c c' : Check) : Prop where
  reports : Reports sites c c'
  nocount : c'.nocount = (c.nocount || off)

variable {sites sites' : List Site} {c c' c'' : Check}

/-! ## Steps -/

theorem Reports.refl (c : Check) : Reports [] c c := ⟨[], (List.append_nil _).symm, rfl⟩

theorem Reports.trans (h : Reports sites c c') (h' : Reports sites' c' c'') :
    Reports (sites ++ sites') c c'' := by
  obtain ⟨found, hfound, hsites⟩ := h
  obtain ⟨found', hfound', hsites'⟩ := h'
  refine ⟨found ++ found', ?_, ?_⟩
  · rw [hfound', hfound, List.append_assoc]
  · rw [List.filter_append, List.filterMap_append, hsites, hsites']

theorem Reports.remark (site : Site) (c : Check) :
    Reports [site] c (c.report site.remark?.toList) := by
  refine ⟨site.remark?.toList, rfl, ?_⟩
  cases h : site.remark? with
  | none => simp [h]
  | some d => simp [h, Site.isOfSite_of_remark? h]

/-- Diagnostics of other kinds are passed over. -/
theorem Reports.others {ds : List Diagnostic} (hds : ∀ d ∈ ds, d.kind.isOfSite = false)
    (c : Check) : Reports [] c (c.report ds) :=
  ⟨ds, rfl, List.filter_eq_nil_iff.2 fun d hd => by simp [hds d hd]⟩

theorem Passes.refl (c : Check) : Passes [] false c c := ⟨.refl c, (Bool.or_false _).symm⟩

theorem Passes.trans {off off' : Bool} (h : Passes sites off c c')
    (h' : Passes sites' off' c' c'') : Passes (sites ++ sites') (off || off') c c'' := by
  refine ⟨h.reports.trans h'.reports, ?_⟩
  rw [h'.nocount, h.nocount, Bool.or_assoc]

/-- Diagnostics of other kinds can follow a visit. -/
theorem Passes.others {off : Bool} (h : Passes sites off c c') {ds : List Diagnostic}
    (hds : ∀ d ∈ ds, d.kind.isOfSite = false) : Passes sites off c (c'.report ds) :=
  ⟨List.append_nil sites ▸ h.reports.trans (.others hds c'), h.nocount⟩

theorem passes_of_reports (h : Reports sites c c') (hnocount : c'.nocount = c.nocount) :
    Passes sites false c c' :=
  ⟨h, hnocount.trans (Bool.or_false _).symm⟩

theorem isOfSite_of_mem_assignmentDiagnostics {line : Nat} {name : String}
    {target source : DataType} {d : Diagnostic}
    (hd : d ∈ assignmentDiagnostics line name target source) : d.kind.isOfSite = false := by
  have hkind := isOnAssignment_of_mem_assignmentDiagnostics hd
  revert hkind
  cases d.kind <;> decide

theorem report_nil (c : Check) : c.report [] = c := by
  rw [report, List.append_nil]

theorem passes_use (parameter : Option String) (v : Variable) (c : Check) :
    Passes [] false c (c.use parameter v) := by
  unfold use
  split
  · exact .refl c
  · split
    · exact .refl c
    · split
      · exact passes_of_reports (.refl c) rfl
      · exact passes_of_reports (.others (by simp [Diagnostic.undeclaredVariable]; rfl) c) rfl

theorem passes_castTarget (kind : CastKind) (target : TypeRef) (c : Check) :
    Passes [.cast kind target] false c (c.castTarget kind target) := by
  have heq : c.castTarget kind target = c.report (Site.cast kind target).remark?.toList := by
    by_cases h : (DataType.ofRef target).isUnsizedString <;>
      simp [castTarget, Site.remark?, h, report_nil]
  rw [heq]
  exact passes_of_reports (.remark _ c) rfl

/-! ## Expressions -/

mutual

/-- Visiting an expression comes to its casts. -/
theorem passes_expr (parameter : Option String) : ∀ (e : Expr) (c : Check),
    Passes (Site.ofCasts e.casts) false c (expr parameter e c)
  | .var v, c => passes_use parameter v c
  | .cast kind operand target style, c => by
    have hinside := (passes_expr parameter operand (c.castTarget kind target)).trans
      (passes_optionalExpr parameter style _)
    rw [← Site.ofCasts_append] at hinside
    rw [Expr.casts_cast]
    exact (passes_castTarget kind target c).trans hinside
  | .binary _ left right, c => by
    rw [Expr.casts_binary, Site.ofCasts_append]
    exact (passes_expr parameter left c).trans (passes_expr parameter right _)
  | .unary _ operand, c => passes_expr parameter operand c
  | .paren inner, c => passes_expr parameter inner c
  | .call path args, c => Expr.casts_call path args ▸ passes_exprs parameter args c
  | .parts items, c => Expr.casts_parts items ▸ passes_exprs parameter items c
  | .string _ _, c => .refl c
  | .number _, c => .refl c
  | .null, c => .refl c
  | .name _, c => .refl c

theorem passes_exprs (parameter : Option String) : ∀ (es : List Expr) (c : Check),
    Passes (Site.ofCasts (Expr.listCasts es)) false c (exprs parameter es c)
  | [], c => .refl c
  | e :: es, c => by
    rw [Expr.listCasts, List.flatMap_cons, Site.ofCasts_append]
    exact (passes_expr parameter e c).trans (passes_exprs parameter es _)

theorem passes_optionalExpr (parameter : Option String) : ∀ (o : Option Expr) (c : Check),
    Passes (Site.ofCasts (Expr.listCasts o.toList)) false c (optionalExpr parameter o c)
  | none, c => .refl c
  | some e, c => by
    rw [Option.toList_some, Expr.listCasts, List.flatMap_singleton]
    exact passes_expr parameter e c

end

/-- Visits in a row. -/
theorem passes_foldl {α : Type} {visit : Check → α → Check} {sites : α → List Site}
    (hvisit : ∀ a c, Passes (sites a) false c (visit c a)) :
    ∀ (as : List α) (c : Check), Passes (as.flatMap sites) false c (as.foldl visit c)
  | [], c => .refl c
  | a :: as, c => by
    rw [List.flatMap_cons]
    exact (hvisit a c).trans (passes_foldl hvisit as _)

/-! ## Declarations, assignments and calls -/

theorem passes_declareTyped (v : Variable) (type : TypeRef) (c : Check) :
    Passes [.typed v type] false c (c.declareTyped v (.ofRef type)) := by
  have heq : c.declareTyped v (.ofRef type) =
      (c.report (Site.typed v type).remark?.toList).declare v (.ofRef type) := by
    by_cases h : (DataType.ofRef type).isUnsizedString <;>
      simp [declareTyped, Site.remark?, h, report_nil]
  rw [heq]
  exact passes_of_reports (.remark _ c) rfl

theorem passes_declaration (d : Declaration) (c : Check) :
    Passes d.sites false c (c.declaration d) := by
  cases d with
  | table name => exact passes_of_reports (.refl c) rfl
  | scalar name type value =>
    have hname := passes_declareTyped name type c
    cases value with
    | none => exact hname
    | some e =>
      have hvalue := passes_optionalExpr none (some e) (c.declareTyped name (.ofRef type))
      exact (hname.trans hvalue).others fun d hd => isOfSite_of_mem_assignmentDiagnostics hd

theorem passes_parameter (p : Parameter) (c : Check) : Passes p.sites false c (c.parameter p) :=
  (passes_declareTyped p.name p.type c).trans (passes_optionalExpr none p.default _)

theorem passes_setVariable (target : Variable) (op : Option BinaryOp) (value : Expr) (c : Check) :
    Passes (Site.ofCasts value.casts) false c (c.setVariable target op value) := by
  have hvalue := (passes_use none target c).trans (passes_expr none value _)
  unfold setVariable
  dsimp only
  split
  · exact hvalue
  · exact hvalue.others fun d hd => isOfSite_of_mem_assignmentDiagnostics hd

theorem passes_execution (e : Execution) (c : Check) :
    Passes (Site.ofCasts (Expr.listCasts e.exprs)) false c (c.execution e) := by
  have hstatus : Passes [] false c (status e.status c) := by
    cases e.status with
    | none => exact .refl c
    | some v => exact passes_use none v c
  have harguments : Site.ofCasts (Expr.listCasts (e.arguments.flatMap fun a => a.value.toList)) =
      e.arguments.flatMap fun a => Site.ofCasts (Expr.listCasts a.value.toList) := by
    rw [Expr.listCasts, List.flatMap_assoc, Site.ofCasts, List.map_flatMap]
    rfl
  have hcall := (hstatus.trans (passes_expr none e.procedure _)).trans
    (passes_foldl (fun (a : Argument) c => passes_optionalExpr (a.name.map (·.name)) a.value c)
      e.arguments _)
  rw [← harguments, List.nil_append, ← Site.ofCasts_append] at hcall
  exact hcall

/-! ## Procedures -/

theorem passes_procedureName (name : String) (line : Nat) (c : Check) :
    Passes [] false c (c.procedureName name line) := by
  unfold procedureName
  split
  · exact (Passes.refl c).others (by simp [Diagnostic.procedureWithSpPrefix]; rfl)
  · exact .refl c

theorem closeProcedure_eq (name : String) (line : Nat) (outer : Bool) (c : Check) :
    c.closeProcedure name line outer =
      { c.report (Site.procedure name line c.nocount).remark?.toList with nocount := outer } := by
  cases h : c.nocount <;> simp [closeProcedure, Site.remark?, h, report_nil]

/-- The visit of a procedure up to its end. The flag starts anew in the body, so at the end it says
what the body does, and then it is as it was before. -/
theorem exists_visited_body {body : List Statement}
    (hbody : ∀ c, Passes (Statement.listSites body) (Statement.listSetsNocount body) c
      (statements body c))
    (name : List String) (line : Nat) (parameters : List Parameter) (c : Check) :
    ∃ visited, Reports (parameters.flatMap Parameter.sites ++ Statement.listSites body) c visited ∧
      visited.nocount = Statement.listSetsNocount body ∧
      statement (.procedure name line parameters body) c =
        visited.closeProcedure (baseName name) line c.nocount := by
  let opened := parameters.foldl (fun c p => c.parameter p)
    (c.procedureName (baseName name) line)
  have hopened : Passes ([] ++ parameters.flatMap Parameter.sites) false c opened :=
    (passes_procedureName (baseName name) line c).trans
      (passes_foldl (fun p c => passes_parameter p c) parameters _)
  have hvisited := hbody { opened with nocount := false }
  exact ⟨_, hopened.reports.trans hvisited.reports, hvisited.nocount.trans (Bool.false_or _), rfl⟩

/-! ## Statements -/

mutual

/-- A visit of a statement makes the remarks on its sites, each once and in order, and switches row
counts off if the statement does. -/
theorem passes_statement : ∀ (s : Statement) (c : Check),
    Passes s.sites s.setsNocount c (statement s c)
  | .declare items, c => passes_foldl (fun d c => passes_declaration d c) items c
  | .setVariable target op value, c => passes_setVariable target op value c
  | .setOption _ options on, c => by
    rw [statement, setOption, Statement.setsNocount]
    split
    · next h => exact ⟨.refl c, by rw [h, Bool.or_true]⟩
    · next h => exact ⟨.refl c, by rw [eq_false_of_ne_true h, Bool.or_false]⟩
  | .procedure name line parameters body, c => by
    obtain ⟨visited, hreports, hnocount, heq⟩ :=
      exists_visited_body (passes_statements body) name line parameters c
    rw [heq, closeProcedure_eq, hnocount, Statement.sites]
    exact passes_of_reports (hreports.trans (.remark _ visited)) rfl
  | .function _ _ parameters result body, c => by
    let opened := parameters.foldl (fun c p => c.parameter p) c
    have hopened : Passes (parameters.flatMap Parameter.sites) false c opened :=
      passes_foldl (fun p c => passes_parameter p c) parameters c
    rw [Statement.sites]
    cases result with
    | none =>
      have hbody := passes_statements body { opened with nocount := false }
      exact passes_of_reports (hopened.reports.trans hbody.reports) rfl
    | some v =>
      have hbody := passes_statements body { opened.declare v .unknown with nocount := false }
      exact passes_of_reports (hopened.reports.trans hbody.reports) rfl
  | .execute call, c => passes_execution call c
  | .block body, c => passes_statements body c
  | .conditional condition body otherwise, c => by
    rw [Statement.sites, Statement.setsNocount]
    exact ((passes_expr none condition c).trans (passes_statement body _)).trans
      (passes_optionalStatement otherwise _)
  | .returns value, c => passes_optionalExpr none value c
  | .other items, c => passes_exprs none items c

theorem passes_statements : ∀ (ss : List Statement) (c : Check),
    Passes (Statement.listSites ss) (Statement.listSetsNocount ss) c (statements ss c)
  | [], c => .refl c
  | s :: ss, c => (passes_statement s c).trans (passes_statements ss _)

theorem passes_optionalStatement : ∀ (o : Option Statement) (c : Check),
    Passes (Statement.optionSites o) (Statement.optionSetsNocount o) c (optionalStatement o c)
  | none, c => .refl c
  | some s, c => passes_statement s c

end

/-! ## Scripts -/

theorem reports_batch (b : Batch) (c : Check) :
    Reports (Statement.listSites b.statements) c (c.batch b) := by
  have hunused : ∀ d ∈ unusedDiagnostics
      (statements b.statements { c with symbols := .empty, nocount := false }).symbols,
      d.kind.isOfSite = false := by
    intro d hd
    obtain ⟨s, -, rfl⟩ := List.mem_map.1 hd
    rfl
  exact ((passes_statements b.statements { c with symbols := .empty, nocount := false }).others
    hunused).reports

theorem reports_script (bs : List Batch) (c : Check) :
    Reports (bs.flatMap fun b => Statement.listSites b.statements) c (c.script bs) := by
  induction bs generalizing c with
  | nil => exact .refl c
  | cons b bs ih =>
    rw [List.flatMap_cons]
    exact (reports_batch b c).trans (ih _)

/-! ## One kind of remarks -/

/-- The diagnostics of a kind among those that have been added. -/
theorem Reports.exists_found (h : Reports sites c c') :
    ∃ found, c'.diagnostics = c.diagnostics ++ found ∧ ∀ kind : DiagnosticKind, kind.isOfSite →
      found.filter (·.kind = kind) = (sites.filterMap Site.remark?).filter (·.kind = kind) := by
  obtain ⟨found, hfound, hsites⟩ := h
  refine ⟨found, hfound, fun kind hkind => ?_⟩
  rw [← hsites, List.filter_filter]
  refine List.filter_congr fun d _ => ?_
  by_cases hd : d.kind = kind <;> simp [hd, hkind]

theorem filter_convertWithoutLength (sites : List Site) :
    (sites.filterMap Site.remark?).filter (·.kind = .convertWithoutLength) =
      ((sites.filterMap Site.cast?).filter fun cast => (DataType.ofRef cast.2).isUnsizedString).map
        fun cast => .convertWithoutLength cast.2.line cast.1.keyword.text cast.2.name := by
  rw [List.filter_filterMap, List.filter_filterMap, List.map_filterMap]
  refine List.filterMap_congr fun site _ => ?_
  cases site with
  | cast kind target =>
    cases h : (DataType.ofRef target).isUnsizedString <;>
      simp only [Site.remark?, Site.cast?, Option.filter_some, h] <;> rfl
  | typed v type => rw [Site.remark?]; split <;> rfl
  | procedure name line quiet => cases quiet <;> rfl

theorem filter_implicitLength (sites : List Site) :
    (sites.filterMap Site.remark?).filter (·.kind = .implicitLength) =
      ((sites.filterMap Site.typed?).filter fun typed =>
        (DataType.ofRef typed.2).isUnsizedString).map
        fun typed => .implicitLength typed.1.line typed.1.name := by
  rw [List.filter_filterMap, List.filter_filterMap, List.map_filterMap]
  refine List.filterMap_congr fun site _ => ?_
  cases site with
  | cast kind target => rw [Site.remark?]; split <;> rfl
  | typed v type =>
    cases h : (DataType.ofRef type).isUnsizedString <;>
      simp only [Site.remark?, Site.typed?, Option.filter_some, h] <;> rfl
  | procedure name line quiet => cases quiet <;> rfl

theorem filter_procedureWithoutNoCount (sites : List Site) :
    (sites.filterMap Site.remark?).filter (·.kind = .procedureWithoutNoCount) =
      (sites.filterMap Site.uncounted?).map fun p => .procedureWithoutNoCount p.2 p.1 := by
  rw [List.filter_filterMap, List.map_filterMap]
  refine List.filterMap_congr fun site _ => ?_
  cases site with
  | cast kind target => rw [Site.remark?]; split <;> rfl
  | typed v type => rw [Site.remark?]; split <;> rfl
  | procedure name line quiet => cases quiet <;> rfl

/-! ## What is reported -/

/-- A procedure draws a remark as its last diagnostic, at its line and under its base name, unless
`SET NOCOUNT ON` is reached from its body. The other remarks of that kind among its diagnostics are
on the procedures that are defined inside. No statement clears the flag: it is on behind a
statement if it was before or if the statement reaches `SET NOCOUNT ON`. -/
theorem procedure_nocount (name : List String) (line : Nat) (parameters : List Parameter)
    (body : List Statement) (c : Check) :
    (∃ inner, (statement (.procedure name line parameters body) c).diagnostics =
        c.diagnostics ++ inner ++ (if ∃ s ∈ body, s.ReachesNocount then []
          else [.procedureWithoutNoCount line (baseName name)]) ∧
      inner.filter (·.kind = .procedureWithoutNoCount) =
        (Statement.listUncounted body).map fun p => .procedureWithoutNoCount p.2 p.1) ∧
    ∀ (s : Statement) (d : Check),
      (statement s d).nocount = true ↔ d.nocount = true ∨ s.ReachesNocount := by
  refine ⟨?_, fun s d => ?_⟩
  · obtain ⟨visited, hreports, hnocount, heq⟩ :=
      exists_visited_body (passes_statements body) name line parameters c
    obtain ⟨inner, hinner, hkinds⟩ := hreports.exists_found
    refine ⟨inner, ?_, ?_⟩
    · have hlast : (Site.procedure (baseName name) line visited.nocount).remark?.toList =
          if ∃ s ∈ body, s.ReachesNocount then []
          else [.procedureWithoutNoCount line (baseName name)] := by
        rw [hnocount, Site.remark?]
        simp only [← Statement.listSetsNocount_iff]
        split <;> rfl
      rw [heq, closeProcedure_eq, ← hlast, ← hinner]
      rfl
    · rw [hkinds _ rfl, filter_procedureWithoutNoCount, List.filterMap_append,
        Parameter.filterMap_uncounted?_sites]
      rfl
  · rw [(passes_statement s d).nocount, Bool.or_eq_true, Statement.setsNocount_iff]

/-- Among the diagnostics of a script, there is one remark per cast to a character type without a
length, in the order of the nodes of all expressions, and one per variable or parameter that is
declared with such a type. -/
theorem script_unsized (bs : List Batch) (c : Check) :
    ∃ found, (c.script bs).diagnostics = c.diagnostics ++ found ∧
      found.filter (·.kind = .convertWithoutLength) =
        ((bs.flatMap fun b => Expr.listCasts (Statement.listExprs b.statements)).filter fun cast =>
          (DataType.ofRef cast.2).isUnsizedString).map
          (fun cast => .convertWithoutLength cast.2.line cast.1.keyword.text cast.2.name) ∧
      found.filter (·.kind = .implicitLength) =
        ((bs.flatMap fun b => Statement.listTyped b.statements).filter fun typed =>
          (DataType.ofRef typed.2).isUnsizedString).map
          fun typed => .implicitLength typed.1.line typed.1.name := by
  obtain ⟨found, hfound, hkinds⟩ := (reports_script bs c).exists_found
  refine ⟨found, hfound, ?_, ?_⟩
  · rw [hkinds _ rfl, filter_convertWithoutLength, List.filterMap_flatMap]
    simp only [Statement.filterMap_cast?_listSites]
  · rw [hkinds _ rfl, filter_implicitLength, List.filterMap_flatMap]
    rfl

end Check

end SqlLint
