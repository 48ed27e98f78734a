import SqlLint.Proofs.Check.Event

/-!
# Diagnostics about variables

A visit of a batch reports a use exactly if no event before it declares its key, and at the end of
the batch it reports the keys that are not used behind their last declarations. Both are said on
the events of the batch (`SqlLint.Proofs.Check.Event`) and hold for every tree and every state in
which the visit begins.

## The invariant

Two facts tie the state to the events visited so far, and every step of the visit keeps them.

* `SymbolTable.Records es t`: the table `t` has the keys of `es` in order, and under each of them
  what the last declaration said and whether a use has followed it.
* `Check.Visited old es c`: the table of `c` records `es`, and the diagnostics that have been added
  to `old` name the uses that came too early, in order, and no unused variable yet.

An event is the only thing that changes either. Everything else a visit does is to report remarks
of other kinds (`Visited.report`), so the lemma on each sort of statement is a matter of putting
the events of its parts in a row.

## Main results

* `SymbolTable.Records.declare`, `SymbolTable.Records.reference`: a table keeps its record
* `Check.Visited.statement`: a visit of any statement keeps the invariant
* `Check.batch_diagnostics`: the diagnostics about variables in a batch
-/

namespace SqlLint

/-! ## The table and the events -/

namespace SymbolTable

/-- The table has the keys that the events declare, in the order of their first declarations, and
under each the last declaration and whether it has been used since. -/
structure Records (es : List Event) (t : SymbolTable) : Prop where
  keys : t.entries.map (·.1) = Event.declaredKeys es
  symbol : ∀ k, (t.entries.lookup k).map (fun s => (Variable.mk s.name s.line, s.referenced)) =
    (Event.lastDeclaration? k es).map fun v => (v, Event.usedSince k es)

variable {es : List Event} {t : SymbolTable}

theorem records_empty : Records [] empty := ⟨rfl, fun _ => rfl⟩

/-- A name is in the table exactly if an event declares its key. -/
theorem Records.declares_eq (h : Records es t) (v : Variable) :
    t.declares v.name = es.any (Event.declares v.key) := by
  have hs := congrArg Option.isSome (h.symbol v.key)
  rw [Option.isSome_map, Option.isSome_map, Event.isSome_lastDeclaration?] at hs
  exact hs

theorem Records.declare (h : Records es t) (v : Variable) (type : DataType) :
    Records (es ++ [.declare v]) (t.declare v.name type v.line) := by
  constructor
  · rw [Event.declaredKeys_declare, ← h.keys]
    exact keys_put _ _ _
  · intro k
    rw [Event.lastDeclaration?_declare, Event.usedSince_declare]
    by_cases hk : v.key = k
    · subst hk
      rw [if_pos rfl, if_pos rfl]
      exact congrArg _ (lookup_put_self _ _ _)
    · rw [if_neg hk, if_neg hk, ← h.symbol k]
      exact congrArg _ (lookup_put_of_ne (Ne.symm hk) _ _)

/-- A use of a key that is in the table marks its symbol; a use of any other key leaves no trace
in the table, and none in the record. -/
theorem Records.reference (h : Records es t) (v : Variable) :
    Records (es ++ [.use v]) (t.reference v.name) := by
  have hkey := h.symbol v.key
  rw [SymbolTable.reference]
  cases hfound : t.get? v.name with
  | none =>
    have hlast : Event.lastDeclaration? v.key es = none := by
      rw [show t.entries.lookup v.key = none from hfound] at hkey
      exact Option.map_eq_none_iff.1 hkey.symm
    refine ⟨by rw [Event.declaredKeys_use]; exact h.keys, fun k => ?_⟩
    rw [Event.lastDeclaration?_use, h.symbol k, Event.usedSince_use]
    by_cases hk : v.key = k
    · rw [← hk, hlast]; rfl
    · rw [beq_false_of_ne hk, Bool.or_false]
  | some s =>
    rw [show t.entries.lookup v.key = some s from hfound] at hkey
    obtain ⟨w, hlast, hs⟩ := Option.map_eq_some_iff.1 hkey.symm
    constructor
    · have hmem : v.key ∈ t.entries.map (·.1) := by
        obtain ⟨as, bs, hab, _⟩ := List.lookup_eq_some_iff.1 hfound
        rw [hab]
        simp [Variable.key]
      rw [Event.declaredKeys_use, ← h.keys]
      exact (keys_put _ _ _).trans (if_pos hmem)
    · intro k
      rw [Event.lastDeclaration?_use, Event.usedSince_use]
      by_cases hk : v.key = k
      · subst hk
        have hput := lookup_put_self v.key { s with referenced := true } t.entries
        rw [show SymbolTable.key v.name = v.key from rfl, hput, hlast]
        simpa using (congrArg Prod.fst hs).symm
      · have hput := lookup_put_of_ne (Ne.symm hk) { s with referenced := true } t.entries
        rw [show SymbolTable.key v.name = v.key from rfl, hput, h.symbol k,
          beq_false_of_ne hk, Bool.or_false]

/-- The symbols of a table whose keys are all different, found again under their keys. -/
theorem filterMap_lookup_keys : ∀ entries : List (String × Symbol),
    (entries.map (·.1)).Nodup →
      (entries.map (·.1)).filterMap (fun k => entries.lookup k) = entries.map (·.2)
  | [], _ => rfl
  | (k, s) :: entries, h => by
    have hne : k ∉ entries.map (·.1) := (List.nodup_cons.1 h).1
    have hrest : (entries.map (·.1)).filterMap (fun l => ((k, s) :: entries).lookup l) =
        (entries.map (·.1)).filterMap fun l => entries.lookup l := by
      refine List.filterMap_congr fun l hl => ?_
      have hlk : (l == k) = false := beq_eq_false_iff_ne.2 fun e => hne (e ▸ hl)
      rw [List.lookup_cons, hlk]
    rw [List.map_cons, List.filterMap_cons, List.lookup_cons_self, hrest,
      filterMap_lookup_keys entries (List.nodup_cons.1 h).2]
    rfl

/-- The symbols that have not been used are the variables that go without a use. -/
theorem Records.unreferenced_eq (h : Records es t) :
    t.unreferenced.map (fun s => Variable.mk s.name s.line) = Event.unusedVariables es := by
  have hnodup : (t.entries.map (·.1)).Nodup := h.keys ▸ nodup_eraseDups _
  rw [unreferenced, symbols, ← filterMap_lookup_keys _ hnodup, Event.unusedVariables, ← h.keys,
    List.filter_filterMap, List.map_filterMap]
  refine List.filterMap_congr fun k _ => ?_
  have hk := h.symbol k
  cases hfound : t.entries.lookup k with
  | none =>
    rw [hfound] at hk
    rw [Option.map_eq_none_iff.1 hk.symm, ite_self]
    rfl
  | some s =>
    rw [hfound] at hk
    obtain ⟨v, hlast, hv⟩ := Option.map_eq_some_iff.1 hk.symm
    obtain ⟨hv, hused⟩ := Prod.mk.injEq .. ▸ hv
    rw [hlast, hused, hv]
    by_cases hr : s.referenced <;> simp [hr]

end SymbolTable

/-! ## The state and the events -/

/-- The kinds that are neither about an early use nor about a variable without a use. -/
def DiagnosticKind.isOther : DiagnosticKind → Bool
  | undeclaredVariable | unusedVariable => false
  | _ => true

/-- The kinds of remarks on assignments. -/
def DiagnosticKind.isOnAssignment : DiagnosticKind → Bool
  | stringTruncated | stringConverted | implicitConversion | convertToShortString
  | numericOverflow => true
  | _ => false

theorem isOnAssignment_of_mem_renderedRemark {line room : Nat} {name : String} {source : BaseType}
    {d : Diagnostic} (hd : d ∈ renderedRemark line name room source) : d.kind.isOnAssignment := by
  rw [renderedRemark] at hd
  split at hd
  · obtain ⟨_, hd⟩ := List.mem_ite_nil_right.1 hd
    rw [List.mem_singleton.1 hd]; rfl
  · exact absurd hd List.not_mem_nil

theorem isOnAssignment_of_mem_assignmentDiagnostics {line : Nat} {name : String}
    {target source : DataType} {d : Diagnostic}
    (hd : d ∈ assignmentDiagnostics line name target source) : d.kind.isOnAssignment := by
  unfold assignmentDiagnostics at hd
  split at hd
  · simp only [List.mem_append, List.mem_ite_nil_right, List.mem_singleton] at hd
    rcases hd with (((⟨_, rfl⟩ | ⟨_, hd⟩) | ⟨_, rfl⟩) | ⟨_, rfl⟩) | ⟨_, rfl⟩
    · rfl
    · exact isOnAssignment_of_mem_renderedRemark hd
    · rfl
    · rfl
    · rfl
  · exact absurd hd List.not_mem_nil

/-- No remark on an assignment is about a declaration or a use. -/
theorem isOther_of_mem_assignmentDiagnostics {line : Nat} {name : String}
    {target source : DataType} {d : Diagnostic}
    (hd : d ∈ assignmentDiagnostics line name target source) : d.kind.isOther := by
  have hkind := isOnAssignment_of_mem_assignmentDiagnostics hd
  revert hkind
  cases d.kind <;> decide

namespace Check

/-- The diagnostics for uses that come too early. -/
def undeclaredDiagnostics (vs : List Variable) : List Diagnostic :=
  vs.map fun v => .undeclaredVariable v.line v.name

/-- The state after a visit of `es` that began without symbols and with the diagnostics `old`. -/
structure Visited (old : List Diagnostic) (es : List Event) (c : Check) : Prop where
  records : c.symbols.Records es
  reported : ∃ found, c.diagnostics = old ++ found ∧
    found.filter (·.kind = .undeclaredVariable) =
      undeclaredDiagnostics (Event.undeclaredUses es) ∧
    ∀ d ∈ found, d.kind ≠ .unusedVariable

variable {old : List Diagnostic} {es : List Event} {c : Check}

/-- Remarks of other kinds change nothing. -/
theorem Visited.report (h : Visited old es c) {ds : List Diagnostic}
    (hds : ∀ d ∈ ds, d.kind.isOther) : Visited old es (c.report ds) := by
  have hne : ∀ d ∈ ds, d.kind ≠ .undeclaredVariable ∧ d.kind ≠ .unusedVariable := by
    intro d hd
    have := hds d hd
    constructor <;> rintro hk <;> rw [hk] at this <;> exact absurd this (by decide)
  obtain ⟨found, hfound, hearly, hunused⟩ := h.reported
  refine ⟨h.records, found ++ ds, ?_, ?_, fun d hd => ?_⟩
  · rw [Check.report, hfound, List.append_assoc]
  · have hnone : ds.filter (·.kind = .undeclaredVariable) = [] :=
      List.filter_eq_nil_iff.2 fun d hd => by simpa using (hne d hd).1
    rw [List.filter_append, hnone, List.append_nil, hearly]
  · rcases List.mem_append.1 hd with hd | hd
    · exact hunused d hd
    · exact (hne d hd).2

/-- Nor does a change of the flag for row counts. -/
theorem Visited.nocount (h : Visited old es c) (b : Bool) :
    Visited old es { c with nocount := b } :=
  ⟨h.records, h.reported⟩

theorem Visited.declare (h : Visited old es c) (v : Variable) (type : DataType) :
    Visited old (es ++ [.declare v]) (c.declare v type) := by
  obtain ⟨found, hfound, hearly, hunused⟩ := h.reported
  refine ⟨h.records.declare v type, found, hfound, ?_, hunused⟩
  rw [hearly, Event.undeclaredUses_declare]

/-- A variable that is looked up is found in the table, or its use is reported. -/
theorem Visited.lookUp (h : Visited old es c) (v : Variable) :
    Visited old (es ++ [.use v])
      (if c.symbols.declares v.name then { c with symbols := c.symbols.reference v.name }
        else c.report [.undeclaredVariable v.line v.name]) := by
  obtain ⟨found, hfound, hearly, hunused⟩ := h.reported
  have hrecords := h.records.reference v
  have hdecl := h.records.declares_eq v
  by_cases hin : c.symbols.declares v.name
  · rw [if_pos hin]
    refine ⟨hrecords, found, hfound, ?_, hunused⟩
    rw [hearly, Event.undeclaredUses_use, ← hdecl, if_pos hin]
  · rw [if_neg hin]
    have hget : c.symbols.get? v.name = none := by simpa [SymbolTable.declares] using hin
    rw [SymbolTable.reference, hget] at hrecords
    refine ⟨hrecords, found ++ [.undeclaredVariable v.line v.name], ?_, ?_, fun d hd => ?_⟩
    · rw [Check.report, hfound, List.append_assoc]
    · rw [List.filter_append, hearly, Event.undeclaredUses_use, ← hdecl, if_neg hin,
        undeclaredDiagnostics, undeclaredDiagnostics, List.map_append]
      rfl
    · rcases List.mem_append.1 hd with hd | hd
      · exact hunused d hd
      · rw [List.mem_singleton.1 hd]
        exact DiagnosticKind.noConfusion

/-- A variable that is not looked up is no event, and leaves the state as it is. -/
theorem Visited.use (h : Visited old es c) (parameter : Option String) (v : Variable) :
    Visited old (es ++ Event.ofVariables parameter [v]) (c.use parameter v) := by
  rw [Check.use]
  split
  · next hglobal =>
    rw [Event.ofVariables, List.filter_singleton, Variable.isLookedUp, hglobal]
    exact (List.append_nil es).symm ▸ h
  · next hglobal =>
    split
    · next hparam =>
      rw [Event.ofVariables, List.filter_singleton, Variable.isLookedUp, hparam, Bool.not_true,
        Bool.and_false]
      exact (List.append_nil es).symm ▸ h
    · next hparam =>
      rw [Event.ofVariables, List.filter_singleton, Variable.isLookedUp,
        eq_false_of_ne_true hglobal, eq_false_of_ne_true hparam]
      exact h.lookUp v

/-! ## Visiting a tree -/

mutual

/-- Visiting an expression uses its variables in order. -/
theorem Visited.expr (parameter : Option String) : ∀ (e : Expr) {es : List Event} {c : Check},
    Visited old es c →
      Visited old (es ++ Event.ofVariables parameter e.vars) (Check.expr parameter e c)
  | .var v, _, _, h => h.use parameter v
  | .cast kind operand target style, es, c, h => by
    have htarget : Visited old es (c.castTarget kind target) := by
      rw [castTarget]
      split
      · exact h.report fun d hd => by rw [List.mem_singleton.1 hd]; rfl
      · exact h
    rw [Expr.vars, Event.ofVariables_append, ← List.append_assoc]
    exact Visited.optionalExpr parameter style (Visited.expr parameter operand htarget)
  | .binary _ left right, _, _, h => by
    rw [Expr.vars, Event.ofVariables_append, ← List.append_assoc]
    exact Visited.expr parameter right (Visited.expr parameter left h)
  | .unary _ operand, _, _, h => Visited.expr parameter operand h
  | .paren inner, _, _, h => Visited.expr parameter inner h
  | .call _ args, _, _, h => Visited.exprs parameter args h
  | .parts items, _, _, h => Visited.exprs parameter items h
  | .string _ _, es, _, h => (List.append_nil es).symm ▸ h
  | .number _, es, _, h => (List.append_nil es).symm ▸ h
  | .null, es, _, h => (List.append_nil es).symm ▸ h
  | .name _, es, _, h => (List.append_nil es).symm ▸ h

theorem Visited.exprs (parameter : Option String) :
    ∀ (fs : List Expr) {es : List Event} {c : Check}, Visited old es c →
      Visited old (es ++ Event.ofVariables parameter (Expr.listVars fs))
        (Check.exprs parameter fs c)
  | [], es, _, h => (List.append_nil es).symm ▸ h
  | e :: fs, _, _, h => by
    rw [Expr.listVars, Event.ofVariables_append, ← List.append_assoc]
    exact Visited.exprs parameter fs (Visited.expr parameter e h)

theorem Visited.optionalExpr (parameter : Option String) :
    ∀ (o : Option Expr) {es : List Event} {c : Check}, Visited old es c →
      Visited old (es ++ Event.ofVariables parameter (Expr.optionVars o))
        (Check.optionalExpr parameter o c)
  | none, es, _, h => (List.append_nil es).symm ▸ h
  | some e, _, _, h => Visited.expr parameter e h

end

/-- The visits of a list keep the invariant if the visit of each item does. -/
theorem Visited.foldl {α : Type} {visit : Check → α → Check} {events : α → List Event}
    (hvisit : ∀ (a : α) {es : List Event} {c : Check}, Visited old es c →
      Visited old (es ++ events a) (visit c a)) :
    ∀ (as : List α) {es : List Event} {c : Check}, Visited old es c →
      Visited old (es ++ as.flatMap events) (as.foldl visit c)
  | [], es, _, h => (List.append_nil es).symm ▸ h
  | a :: as, _, _, h => by
    rw [List.flatMap_cons, ← List.append_assoc]
    exact Visited.foldl hvisit as (hvisit a h)

theorem Visited.declareTyped (h : Visited old es c) (v : Variable) (type : DataType) :
    Visited old (es ++ [.declare v]) (c.declareTyped v type) := by
  rw [Check.declareTyped]
  refine Visited.declare ?_ v type
  split
  · exact h.report fun d hd => by rw [List.mem_singleton.1 hd]; rfl
  · exact h

theorem Visited.declaration (d : Declaration) (h : Visited old es c) :
    Visited old (es ++ d.events) (c.declaration d) := by
  cases d with
  | table name => exact h.declare name .unknown
  | scalar name type value =>
    have hname := h.declareTyped name (.ofRef type)
    rw [Declaration.events, List.append_cons]
    cases value with
    | none => exact (List.append_nil _).symm ▸ hname
    | some e =>
      exact (Visited.expr none e hname).report fun d hd => isOther_of_mem_assignmentDiagnostics hd

theorem Visited.parameter (p : Parameter) (h : Visited old es c) :
    Visited old (es ++ p.events) (c.parameter p) := by
  rw [Parameter.events, List.append_cons]
  exact Visited.optionalExpr none p.default (h.declareTyped p.name (.ofRef p.type))

theorem Visited.setVariable (target : Variable) (op : Option BinaryOp) (value : Expr)
    (h : Visited old es c) :
    Visited old (es ++ Event.ofVariables none (target :: value.vars))
      (c.setVariable target op value) := by
  have hvalue := Visited.expr none value (h.use none target)
  rw [List.append_assoc, ← Event.ofVariables_append] at hvalue
  rw [Check.setVariable]
  dsimp only
  split
  · exact hvalue
  · exact hvalue.report fun d hd => isOther_of_mem_assignmentDiagnostics hd

theorem Visited.status (h : Visited old es c) (o : Option Variable) :
    Visited old (es ++ Event.ofVariables none o.toList) (Check.status o c) := by
  cases o with
  | none => exact (List.append_nil es).symm ▸ h
  | some v => exact h.use none v

theorem Visited.execution (e : Execution) (h : Visited old es c) :
    Visited old (es ++ e.events) (c.execution e) := by
  rw [Execution.events, Event.ofVariables_append, List.append_assoc, ← List.append_assoc,
    ← List.append_assoc]
  refine Visited.foldl (fun a _ _ ha => ?_) e.arguments
    (Visited.expr none e.procedure (h.status e.status))
  exact Visited.optionalExpr (a.name.map (·.name)) a.value ha

theorem Visited.procedureName (h : Visited old es c) (name : String) (line : Nat) :
    Visited old es (c.procedureName name line) := by
  rw [Check.procedureName]
  split
  · exact h.report fun d hd => by rw [List.mem_singleton.1 hd]; rfl
  · exact h

theorem Visited.closeProcedure (h : Visited old es c) (name : String) (line : Nat)
    (outer : Bool) : Visited old es (c.closeProcedure name line outer) := by
  rw [Check.closeProcedure]
  refine Visited.nocount ?_ outer
  split
  · exact h
  · exact h.report fun d hd => by rw [List.mem_singleton.1 hd]; rfl

mutual

/-- Visiting a statement goes through its events. -/
theorem Visited.statement : ∀ (s : Statement) {es : List Event} {c : Check},
    Visited old es c → Visited old (es ++ s.events) (Check.statement s c)
  | .declare items, _, _, h => Visited.foldl (fun d _ _ hd => hd.declaration d) items h
  | .setVariable target op value, _, _, h => h.setVariable target op value
  | .setOption _ options on, es, c, h => by
    rw [Statement.events, List.append_nil, Check.statement, Check.setOption]
    split
    · exact h.nocount true
    · exact h
  | .procedure name line parameters body, _, c, h => by
    have hopened := Visited.foldl (fun p _ _ hp => hp.parameter p) parameters
      (h.procedureName (baseName name) line)
    have hbody := Visited.statements body (hopened.nocount false)
    rw [Statement.events, ← List.append_assoc]
    exact hbody.closeProcedure (baseName name) line c.nocount
  | .function _ _ parameters result body, es, c, h => by
    have hparams := Visited.foldl (fun p _ _ hp => hp.parameter p) parameters h
    have hresult : Visited old
        (es ++ parameters.flatMap Parameter.events ++ result.toList.map Event.declare)
        (match result with
          | some v => (parameters.foldl (fun c p => c.parameter p) c).declare v .unknown
          | none => parameters.foldl (fun c p => c.parameter p) c) := by
      cases result with
      | none => exact (List.append_nil _).symm ▸ hparams
      | some v => exact hparams.declare v .unknown
    rw [Statement.events, ← List.append_assoc, ← List.append_assoc]
    exact (Visited.statements body (hresult.nocount false)).nocount c.nocount
  | .execute call, _, _, h => h.execution call
  | .block body, _, _, h => Visited.statements body h
  | .conditional condition body otherwise, _, _, h => by
    rw [Statement.events, ← List.append_assoc, ← List.append_assoc]
    exact Visited.optionalStatement otherwise
      (Visited.statement body (Visited.expr none condition h))
  | .returns value, _, _, h => Visited.optionalExpr none value h
  | .other items, _, _, h => Visited.exprs none items h

theorem Visited.statements : ∀ (ss : List Statement) {es : List Event} {c : Check},
    Visited old es c → Visited old (es ++ Statement.listEvents ss) (Check.statements ss c)
  | [], es, _, h => (List.append_nil es).symm ▸ h
  | s :: ss, _, _, h => by
    rw [Statement.listEvents, ← List.append_assoc]
    exact Visited.statements ss (Visited.statement s h)

theorem Visited.optionalStatement : ∀ (o : Option Statement) {es : List Event} {c : Check},
    Visited old es c →
      Visited old (es ++ Statement.optionEvents o) (Check.optionalStatement o c)
  | none, es, _, h => (List.append_nil es).symm ▸ h
  | some s, _, _, h => Visited.statement s h

end

/-! ## A batch -/

/-- **The diagnostics about variables in a batch.** In whatever state the visit begins, it adds to
the diagnostics a list in which the early uses are, in order, the uses of the batch whose key no
earlier event declares. The list ends with the unused variables: one for each key that is declared
and not used behind its last declaration, in the order of the first declarations, with the name
and the line of the last one. No other diagnostic about an unused variable is added. -/
theorem batch_diagnostics (b : Batch) (c : Check) :
    ∃ found,
      (c.batch b).diagnostics = c.diagnostics ++ found ++
        (Event.unusedVariables (Statement.listEvents b.statements)).map
          (fun v => .unusedVariable v.line v.name) ∧
      (∀ d ∈ found, d.kind ≠ .unusedVariable) ∧
      found.filter (·.kind = .undeclaredVariable) =
        (Event.undeclaredUses (Statement.listEvents b.statements)).map
          (fun v => .undeclaredVariable v.line v.name) := by
  have hstart : Visited c.diagnostics [] { c with symbols := .empty, nocount := false } :=
    ⟨SymbolTable.records_empty, [], (List.append_nil _).symm, rfl, fun d hd => by simp at hd⟩
  have hvisited := Visited.statements b.statements hstart
  obtain ⟨found, hfound, hearly, hunused⟩ := hvisited.reported
  refine ⟨found, ?_, hunused, hearly⟩
  have hleft := hvisited.records.unreferenced_eq
  rw [List.nil_append] at hleft
  rw [← hleft, List.map_map, ← hfound]
  rfl

end Check

end SqlLint
