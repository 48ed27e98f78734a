import SqlLint.Check.Analyzer
import SqlLint.Proofs.Check.Occurrence
import SqlLint.Proofs.Syntax.Respell
import SqlLint.Proofs.Text.LowerCase

/-!
# Names in another spelling

Names are kept under their lower case, so it should not matter how a variable is spelled at each of
its places. This module compares the visit of a script with the visit of the same script in another
spelling, `respell g`. The two visits stay alike: their tables hold the same keys in the same order
with the same types, lines and marks, and they have reported the same kinds on the same lines. Names
in tables and texts of diagnostics are all that differs.

## What a spelling has to keep

It has to keep keys, or else variables would become other variables. It also has to keep which
places are looked up, and that is not the same. In an argument `@p = value` a variable of the value
is passed over if it is equal to `@p` up to *ASCII* case, whereas keys are made by the full mapping
of Unicode. Where a letter outside ASCII is written in another case, the two can disagree, and then
a variable is looked up in one spelling and passed over in the other (`not_places_diagnostics`).

A batch in which the two notions agree, `Batch.foldsByKey`, may be put in lower case without
changing what is reported. All such batches with the same plain form are then reported alike. The
two notions agree in particular on names in ASCII.

## Main definitions

* `Check.Alike`: two states that differ in the spelling of names at most
* `Batch.foldsByKey`: comparing up to ASCII case comes to the same as comparing keys

## Main results

* `Check.Alike.statement`, `Check.Alike.script`: visits of scripts in two spellings stay alike
* `Batch.foldsByKey_of_toNat_lt`: the two notions agree on names in ASCII
* `Analyzer.places_diagnostics`: two spellings of one script
* `Analyzer.not_places_diagnostics`: the condition cannot be dropped
-/

namespace SqlLint

/-- The kind of the diagnostic and its line, without the text. -/
def Diagnostic.place (d : Diagnostic) : DiagnosticKind × Nat := (d.kind, d.line)

/-- Remarks on an assignment are made whatever the variable is called. -/
theorem map_place_assignmentDiagnostics (line : Nat) (name name' : String)
    (target source : DataType) :
    (assignmentDiagnostics line name' target source).map Diagnostic.place =
      (assignmentDiagnostics line name target source).map Diagnostic.place := by
  have hremark : ∀ (room : Nat) (base : BaseType),
      (renderedRemark line name' room base).map Diagnostic.place =
        (renderedRemark line name room base).map Diagnostic.place := by
    intro room base
    unfold renderedRemark
    split
    · split <;> rfl
    · rfl
  unfold assignmentDiagnostics
  split
  · simp only [List.map_append, apply_ite (List.map Diagnostic.place), List.map_cons, List.map_nil,
      hremark, Diagnostic.place, Diagnostic.stringTruncated, Diagnostic.stringConverted,
      Diagnostic.implicitConversion, Diagnostic.numericOverflow, Diagnostic.ofKind]
  · rfl

/-- Another spelling of names, which keeps their keys. -/
structure Spelling where
  write : String → String
  key_write : ∀ name, SymbolTable.key (write name) = SymbolTable.key name

/-! ## Symbol tables -/

/-- The symbol with another name. -/
def Symbol.respell (g : String → String) (s : Symbol) : Symbol := { s with name := g s.name }

namespace SymbolTable

/-- The table with other names for its symbols. Keys stay. -/
def respell (g : String → String) (t : SymbolTable) : SymbolTable :=
  ⟨t.entries.map fun entry => (entry.1, entry.2.respell g)⟩

variable (g : Spelling) (t : SymbolTable) (name : String)

theorem get?_respell :
    (t.respell g.write).get? (g.write name) = (t.get? name).map (Symbol.respell g.write) := by
  rw [get?, get?, g.key_write]
  exact lookup_map (Symbol.respell g.write) (key name) t.entries

theorem typeOf?_respell : (t.respell g.write).typeOf? (g.write name) = t.typeOf? name := by
  rw [typeOf?, typeOf?, get?_respell, Option.map_map]
  rfl

theorem declares_respell : (t.respell g.write).declares (g.write name) = t.declares name := by
  rw [declares, declares, get?_respell, Option.isSome_map]

theorem declare_respell (type : DataType) (line : Nat) :
    (t.respell g.write).declare (g.write name) type line =
      (t.declare name type line).respell g.write := by
  rw [declare, declare, g.key_write, respell, respell]
  exact congrArg mk
    (put_map (Symbol.respell g.write) (key name) ⟨name, type, line, false⟩ t.entries)

theorem reference_respell :
    (t.respell g.write).reference (g.write name) = (t.reference name).respell g.write := by
  rw [reference, reference, get?_respell, g.key_write]
  cases t.get? name with
  | none => rfl
  | some symbol =>
    exact congrArg mk
      (put_map (Symbol.respell g.write) (key name) { symbol with referenced := true } t.entries)

theorem lines_unreferenced_respell :
    (t.respell g.write).unreferenced.map Symbol.line = t.unreferenced.map Symbol.line := by
  have hsymbols : (t.respell g.write).symbols = t.symbols.map (Symbol.respell g.write) := by
    simp [symbols, respell]
  rw [unreferenced, unreferenced, hsymbols, List.filter_map, List.map_map]
  rfl

end SymbolTable

/-! ## Places that stay -/

/-- In the other spelling, the variable is looked up if it is in this one. -/
def Variable.Stays (g : Spelling) (parameter : Option String) (v : Variable) : Prop :=
  (v.respell g.write).isLookedUp (parameter.map g.write) = v.isLookedUp parameter

/-- In the other spelling, the occurrence is an event if it is one in this spelling. -/
def Occurrence.Stays (g : Spelling) : Occurrence → Prop
  | declare _ => True
  | met parameter v => v.Stays g parameter

theorem Occurrence.forall_mem_ofVariables {g : Spelling} {parameter : Option String}
    {vs : List Variable} :
    (∀ o ∈ ofVariables parameter vs, o.Stays g) ↔ ∀ v ∈ vs, v.Stays g parameter := by
  rw [ofVariables, List.forall_mem_map]
  rfl

/-- All that a visit of the batch meets. -/
def Batch.occurrences (b : Batch) : List Occurrence := Statement.listOccurrences b.statements

namespace Check

/-- What becomes of a variable that is looked up. -/
theorem use_eq (parameter : Option String) (v : Variable) (c : Check) :
    c.use parameter v =
      if v.isLookedUp parameter then
        if c.symbols.declares v.name then { c with symbols := c.symbols.reference v.name }
        else c.report [.undeclaredVariable v.line v.name]
      else c := by
  rw [use, Variable.isLookedUp]
  cases v.isGlobal with
  | true => rfl
  | false => cases parameter.any fun p => Text.equalFold p v.name <;> rfl

theorem typeOf_respell (g : Spelling) (symbols : SymbolTable) : ∀ e : Expr,
    typeOf (symbols.respell g.write) (e.respell g.write) = typeOf symbols e
  | .var v => by
    rw [Expr.respell, typeOf, typeOf]
    exact congrArg (Option.getD · _) (symbols.typeOf?_respell g v.name)
  | .binary op left right => by
    rw [Expr.respell, typeOf, typeOf, typeOf_respell g symbols left, typeOf_respell g symbols right]
  | .paren inner => by
    rw [Expr.respell, typeOf, typeOf, typeOf_respell g symbols inner]
  | .string _ _ => rfl
  | .number _ => rfl
  | .null => rfl
  | .name _ => rfl
  | .cast _ _ _ _ => rfl
  | .unary _ _ => rfl
  | .call _ _ => rfl
  | .parts _ => rfl

/-- The second state is the first one in another spelling, texts of diagnostics apart. -/
structure Alike (g : Spelling) (c c' : Check) : Prop where
  symbols : c'.symbols = c.symbols.respell g.write
  places : c'.diagnostics.map Diagnostic.place = c.diagnostics.map Diagnostic.place
  nocount : c'.nocount = c.nocount

namespace Alike

variable {g : Spelling} {c c' : Check}

/-! ## Steps -/

theorem report (h : Alike g c c') {ds ds' : List Diagnostic}
    (hds : ds'.map Diagnostic.place = ds.map Diagnostic.place) :
    Alike g (c.report ds) (c'.report ds') := by
  refine ⟨h.symbols, ?_, h.nocount⟩
  rw [Check.report, Check.report, List.map_append, List.map_append, h.places, hds]

theorem setNocount (h : Alike g c c') (b : Bool) :
    Alike g { c with nocount := b } { c' with nocount := b } :=
  ⟨h.symbols, h.places, rfl⟩

theorem declare (h : Alike g c c') (v : Variable) (type : DataType) :
    Alike g (c.declare v type) (c'.declare (v.respell g.write) type) := by
  refine ⟨?_, h.places, h.nocount⟩
  rw [Check.declare, Check.declare, h.symbols]
  exact c.symbols.declare_respell g v.name type v.line

theorem use (h : Alike g c c') {parameter : Option String} {v : Variable}
    (hv : v.Stays g parameter) :
    Alike g (c.use parameter v) (c'.use (parameter.map g.write) (v.respell g.write)) := by
  have hdeclares : c'.symbols.declares (v.respell g.write).name = c.symbols.declares v.name := by
    rw [h.symbols]
    exact c.symbols.declares_respell g v.name
  have hreference : c'.symbols.reference (v.respell g.write).name =
      (c.symbols.reference v.name).respell g.write := by
    rw [h.symbols]
    exact c.symbols.reference_respell g v.name
  rw [Variable.Stays] at hv
  rw [use_eq, use_eq, hv, hdeclares]
  split
  · split
    · exact ⟨hreference, h.places, h.nocount⟩
    · exact h.report rfl
  · exact h

theorem castTarget (h : Alike g c c') (kind : CastKind) (target : TypeRef) :
    Alike g (c.castTarget kind target) (c'.castTarget kind target) := by
  unfold Check.castTarget
  split
  · exact h.report rfl
  · exact h

theorem typeOf (h : Alike g c c') (e : Expr) :
    Check.typeOf c'.symbols (e.respell g.write) = Check.typeOf c.symbols e := by
  rw [h.symbols, typeOf_respell]

/-- Visits in a row. -/
theorem foldl {α : Type} {visit : Check → α → Check} {ρ : α → α} {as : List α}
    (hvisit : ∀ a ∈ as, ∀ {c c'}, Alike g c c' → Alike g (visit c a) (visit c' (ρ a)))
    (h : Alike g c c') : Alike g (as.foldl visit c) ((as.map ρ).foldl visit c') := by
  induction as generalizing c c' with
  | nil => exact h
  | cons a as ih =>
    rw [List.forall_mem_cons] at hvisit
    exact ih hvisit.2 (hvisit.1 h)

/-! ## Expressions -/

mutual

theorem expr (parameter : Option String) : ∀ (e : Expr) {c c' : Check}, Alike g c c' →
    (∀ v ∈ e.vars, v.Stays g parameter) →
    Alike g (Check.expr parameter e c) (Check.expr (parameter.map g.write) (e.respell g.write) c')
  | .var v, _, _, h, hvars => h.use (hvars v (List.mem_singleton_self v))
  | .cast kind operand target style, _, _, h, hvars => by
    rw [Expr.vars, List.forall_mem_append] at hvars
    exact optionalExpr parameter style
      (expr parameter operand (h.castTarget kind target) hvars.1) hvars.2
  | .binary _ left right, _, _, h, hvars => by
    rw [Expr.vars, List.forall_mem_append] at hvars
    exact expr parameter right (expr parameter left h hvars.1) hvars.2
  | .unary _ operand, _, _, h, hvars => expr parameter operand h hvars
  | .paren inner, _, _, h, hvars => expr parameter inner h hvars
  | .call _ args, _, _, h, hvars => exprs parameter args h hvars
  | .parts items, _, _, h, hvars => exprs parameter items h hvars
  | .string _ _, _, _, h, _ => h
  | .number _, _, _, h, _ => h
  | .null, _, _, h, _ => h
  | .name _, _, _, h, _ => h

theorem exprs (parameter : Option String) : ∀ (es : List Expr) {c c' : Check},
    Alike g c c' → (∀ v ∈ Expr.listVars es, v.Stays g parameter) →
    Alike g (Check.exprs parameter es c)
      (Check.exprs (parameter.map g.write) (Expr.listRespell g.write es) c')
  | [], _, _, h, _ => h
  | e :: es, _, _, h, hvars => by
    rw [Expr.listVars, List.forall_mem_append] at hvars
    exact exprs parameter es (expr parameter e h hvars.1) hvars.2

theorem optionalExpr (parameter : Option String) : ∀ (o : Option Expr) {c c' : Check},
    Alike g c c' → (∀ v ∈ Expr.optionVars o, v.Stays g parameter) →
    Alike g (Check.optionalExpr parameter o c)
      (Check.optionalExpr (parameter.map g.write) (Expr.optionRespell g.write o) c')
  | none, _, _, h, _ => h
  | some e, _, _, h, hvars => expr parameter e h hvars

end

/-! ## Declarations, assignments and calls -/

theorem declareTyped (h : Alike g c c') (v : Variable) (type : DataType) :
    Alike g (c.declareTyped v type) (c'.declareTyped (v.respell g.write) type) := by
  unfold Check.declareTyped
  refine declare ?_ v type
  split
  · exact h.report rfl
  · exact h

theorem declaration (h : Alike g c c') {d : Declaration} (hd : ∀ o ∈ d.occurrences, o.Stays g) :
    Alike g (c.declaration d) (c'.declaration (d.respell g.write)) := by
  cases d with
  | table name => exact h.declare name .unknown
  | scalar name type value =>
    have hname := h.declareTyped name (.ofRef type)
    cases value with
    | none => exact hname
    | some e =>
      have hvars := Occurrence.forall_mem_ofVariables.1 (List.forall_mem_cons.1 hd).2
      have hvalue : Alike g (Check.expr none e _) (Check.expr none (e.respell g.write) _) :=
        expr none e hname hvars
      refine hvalue.report ?_
      rw [hvalue.typeOf]
      exact map_place_assignmentDiagnostics type.line name.name (g.write name.name) _ _

theorem parameter (h : Alike g c c') {p : Parameter} (hp : ∀ o ∈ p.occurrences, o.Stays g) :
    Alike g (c.parameter p) (c'.parameter (p.respell g.write)) := by
  have hvars := Occurrence.forall_mem_ofVariables.1 (List.forall_mem_cons.1 hp).2
  exact optionalExpr none p.default (h.declareTyped p.name (.ofRef p.type)) hvars

theorem setVariable (h : Alike g c c') (target : Variable) (op : Option BinaryOp) (value : Expr)
    (hvars : ∀ v ∈ target :: value.vars, v.Stays g none) :
    Alike g (c.setVariable target op value)
      (c'.setVariable (target.respell g.write) op (value.respell g.write)) := by
  rw [List.forall_mem_cons] at hvars
  have hvalue : Alike g (Check.expr none value (c.use none target))
      (Check.expr none (value.respell g.write) (c'.use none (target.respell g.write))) :=
    expr none value (h.use hvars.1) hvars.2
  unfold Check.setVariable
  revert hvalue
  generalize Check.expr none value (c.use none target) = d
  generalize Check.expr none (value.respell g.write) (c'.use none (target.respell g.write)) = d'
  intro hvalue
  have htype : d'.symbols.typeOf? (target.respell g.write).name =
      d.symbols.typeOf? target.name := by
    rw [hvalue.symbols]
    exact d.symbols.typeOf?_respell g target.name
  dsimp only
  rw [htype, hvalue.typeOf]
  cases d.symbols.typeOf? target.name with
  | none => exact hvalue
  | some type =>
    exact hvalue.report (map_place_assignmentDiagnostics target.line target.name _ _ _)

theorem status (h : Alike g c c') {o : Option Variable}
    (hvars : ∀ v ∈ o.toList, v.Stays g none) :
    Alike g (Check.status o c) (Check.status (o.map (Variable.respell g.write)) c') := by
  cases o with
  | none => exact h
  | some v => exact h.use (hvars v (List.mem_singleton_self v))

theorem argument (h : Alike g c c') {a : Argument} (ha : ∀ o ∈ a.occurrences, o.Stays g) :
    Alike g (c.argument a) (c'.argument (a.respell g.write)) := by
  have hname : (a.respell g.write).name.map (·.name) = (a.name.map (·.name)).map g.write := by
    rw [Argument.respell, Option.map_map, Option.map_map]
    rfl
  unfold Check.argument
  rw [hname]
  exact optionalExpr _ a.value h (Occurrence.forall_mem_ofVariables.1 ha)

theorem execution (h : Alike g c c') {e : Execution} (he : ∀ o ∈ e.occurrences, o.Stays g) :
    Alike g (c.execution e) (c'.execution (e.respell g.write)) := by
  rw [Execution.occurrences, List.forall_mem_append, Occurrence.forall_mem_ofVariables,
    List.forall_mem_append, List.forall_mem_flatMap] at he
  obtain ⟨⟨hstatus, hprocedure⟩, harguments⟩ := he
  exact foldl (fun a ha _ _ halike => halike.argument (harguments a ha))
    (expr none e.procedure (h.status hstatus) hprocedure)

/-! ## Statements -/

theorem procedureName (h : Alike g c c') (name : String) (line : Nat) :
    Alike g (c.procedureName name line) (c'.procedureName name line) := by
  unfold Check.procedureName
  split
  · exact h.report rfl
  · exact h

theorem closeProcedure (h : Alike g c c') (name : String) (line : Nat) (outer : Bool) :
    Alike g (c.closeProcedure name line outer) (c'.closeProcedure name line outer) := by
  unfold Check.closeProcedure
  rw [h.nocount]
  refine setNocount ?_ outer
  split
  · exact h
  · exact h.report rfl

mutual

theorem statement : ∀ (s : Statement) {c c' : Check}, Alike g c c' →
    (∀ o ∈ s.occurrences, o.Stays g) →
    Alike g (Check.statement s c) (Check.statement (s.respell g.write) c')
  | .declare items, _, _, h, hs => by
    rw [Statement.occurrences, List.forall_mem_flatMap] at hs
    exact foldl (fun d hd _ _ halike => halike.declaration (hs d hd)) h
  | .setVariable target op value, _, _, h, hs =>
    h.setVariable target op value (Occurrence.forall_mem_ofVariables.1 hs)
  | .setOption _ options on, c, c', h, _ => by
    rw [Statement.respell, Check.statement, Check.statement, Check.setOption, Check.setOption]
    split
    · exact h.setNocount true
    · exact h
  | .procedure name line parameters body, c, c', h, hs => by
    rw [Statement.occurrences, List.forall_mem_append, List.forall_mem_flatMap] at hs
    have hopened := foldl (fun p hp _ _ halike => halike.parameter (hs.1 p hp))
      (h.procedureName (baseName name) line)
    have hbody := statements body (hopened.setNocount false) hs.2
    rw [Statement.respell, Check.statement, Check.statement, h.nocount]
    exact hbody.closeProcedure (baseName name) line c.nocount
  | .function _ _ parameters result body, c, c', h, hs => by
    rw [Statement.occurrences, List.forall_mem_append, List.forall_mem_append,
      List.forall_mem_flatMap] at hs
    have hparameters := foldl (fun p hp _ _ halike => halike.parameter (hs.1.1 p hp)) h
    simp only [Statement.respell, Check.statement, h.nocount]
    refine setNocount (statements body (setNocount ?_ false) hs.2) c.nocount
    cases result with
    | none => exact hparameters
    | some v => exact hparameters.declare v .unknown
  | .execute call, _, _, h, hs => h.execution hs
  | .block body, _, _, h, hs => statements body h hs
  | .conditional condition body otherwise, _, _, h, hs => by
    rw [Statement.occurrences, List.forall_mem_append, List.forall_mem_append,
      Occurrence.forall_mem_ofVariables] at hs
    exact optionalStatement otherwise
      (statement body (expr none condition h hs.1.1) hs.1.2) hs.2
  | .returns value, _, _, h, hs =>
    optionalExpr none value h (Occurrence.forall_mem_ofVariables.1 hs)
  | .other items, _, _, h, hs => exprs none items h (Occurrence.forall_mem_ofVariables.1 hs)

theorem statements : ∀ (ss : List Statement) {c c' : Check}, Alike g c c' →
    (∀ o ∈ Statement.listOccurrences ss, o.Stays g) →
    Alike g (Check.statements ss c) (Check.statements (Statement.listRespell g.write ss) c')
  | [], _, _, h, _ => h
  | s :: ss, _, _, h, hs => by
    rw [Statement.listOccurrences, List.forall_mem_append] at hs
    exact statements ss (statement s h hs.1) hs.2

theorem optionalStatement : ∀ (o : Option Statement) {c c' : Check}, Alike g c c' →
    (∀ o' ∈ Statement.optionOccurrences o, o'.Stays g) →
    Alike g (Check.optionalStatement o c)
      (Check.optionalStatement (Statement.optionRespell g.write o) c')
  | none, _, _, h, _ => h
  | some s, _, _, h, hs => statement s h hs

end

/-! ## Batches -/

theorem unusedDiagnostics (h : Alike g c c') :
    (Check.unusedDiagnostics c'.symbols).map Diagnostic.place =
      (Check.unusedDiagnostics c.symbols).map Diagnostic.place := by
  have hlines : ∀ t : SymbolTable, (Check.unusedDiagnostics t).map Diagnostic.place =
      (t.unreferenced.map Symbol.line).map fun line => (.unusedVariable, line) := by
    intro t
    rw [Check.unusedDiagnostics, List.map_map, List.map_map]
    rfl
  rw [hlines, hlines, h.symbols, SymbolTable.lines_unreferenced_respell]

theorem batch (h : Alike g c c') {b : Batch} (hb : ∀ o ∈ b.occurrences, o.Stays g) :
    Alike g (c.batch b) (c'.batch (b.respell g.write)) := by
  have hstart : Alike g { c with symbols := .empty, nocount := false }
      { c' with symbols := .empty, nocount := false } := ⟨rfl, h.places, rfl⟩
  have hvisited := statements b.statements hstart hb
  exact ⟨rfl, (hvisited.report hvisited.unusedDiagnostics).places, h.nocount⟩

theorem script (h : Alike g c c') {bs : List Batch}
    (hbs : ∀ b ∈ bs, ∀ o ∈ b.occurrences, o.Stays g) :
    Alike g (c.script bs) (c'.script (bs.map (Batch.respell g.write))) :=
  foldl (fun b hb _ _ halike => halike.batch (hbs b hb)) h

end Alike

end Check

/-! ## Lower case as a spelling -/

/-- All names in lower case. -/
def Spelling.plain : Spelling := ⟨SymbolTable.key, Text.lowerCase_lowerCase⟩

theorem Variable.isGlobal_iff {v : Variable} :
    v.isGlobal ↔ v.name.toList.head? = some '@' ∧ v.name.toList.tail.head? = some '@' := by
  unfold isGlobal
  split
  next rest hname => simp [hname]
  next hname =>
    refine iff_of_false Bool.false_ne_true fun ⟨hfirst, hsecond⟩ => ?_
    obtain ⟨cs, hcs⟩ := List.head?_eq_some_iff.1 hfirst
    rw [hcs, List.tail_cons] at hsecond
    obtain ⟨rest, rfl⟩ := List.head?_eq_some_iff.1 hsecond
    exact hname rest hcs

/-- The server's own variables can be told by their lower case. -/
theorem Variable.isGlobal_plain (v : Variable) :
    (v.respell Spelling.plain.write).isGlobal = v.isGlobal := by
  have hname : (v.respell Spelling.plain.write).name.toList = Text.lowerChars [] v.name.toList :=
    Text.toList_lowerCase v.name
  rw [Bool.eq_iff_iff, isGlobal_iff, isGlobal_iff, hname, Text.head?_lowerChars]
  refine and_congr_right fun hhead => ?_
  obtain ⟨cs, hcs⟩ := List.head?_eq_some_iff.1 hhead
  rw [hcs, Text.lowerChars_at, List.tail_cons, List.tail_cons, Text.head?_lowerChars]

/-- Whether comparing with the name of the argument up to ASCII case comes to the same as comparing
keys. -/
def Occurrence.foldsByKey : Occurrence → Bool
  | declare _ => true
  | met parameter v =>
    v.isGlobal || parameter.all fun p => Text.equalFold p v.name == (SymbolTable.key p == v.key)

/-- The two comparisons do not differ on names in ASCII. -/
theorem Occurrence.foldsByKey_of_toNat_lt {p : String} {v : Variable}
    (hp : ∀ c ∈ p.toList, c.toNat < 0x80) (hv : ∀ c ∈ v.name.toList, c.toNat < 0x80) :
    (met (some p) v).foldsByKey := by
  rw [foldsByKey, Option.all_some, Text.equalFold_of_toNat_lt hp hv]
  simp [Variable.key, SymbolTable.key]

/-- Where the two comparisons agree, lower case changes neither. -/
theorem Occurrence.stays_plain {o : Occurrence} (h : o.foldsByKey) : o.Stays .plain := by
  cases o with
  | declare _ => trivial
  | met parameter v =>
    rw [Stays, Variable.Stays, Variable.isLookedUp, Variable.isLookedUp, v.isGlobal_plain]
    rw [foldsByKey, Bool.or_eq_true] at h
    rcases h with hglobal | hfold
    · rw [hglobal, Bool.not_true, Bool.false_and, Bool.false_and]
    · cases parameter with
      | none => rw [Option.map_none, Option.any_none, Option.any_none]
      | some p =>
        rw [Option.all_some, beq_iff_eq] at hfold
        rw [Option.map_some, Option.any_some, Option.any_some, hfold]
        exact congrArg (fun b => !v.isGlobal && !b) (Text.equalFold_lowerCase p v.name)

/-- Whether the two comparisons agree on all that a visit of the batch meets. -/
def Batch.foldsByKey (b : Batch) : Bool := b.occurrences.all Occurrence.foldsByKey

/-- Outside the arguments of calls, names may be in any alphabet. -/
theorem Batch.foldsByKey_of_toNat_lt {b : Batch}
    (h : ∀ p v, .met (some p) v ∈ b.occurrences →
      (∀ c ∈ p.toList, c.toNat < 0x80) ∧ ∀ c ∈ v.name.toList, c.toNat < 0x80) :
    b.foldsByKey := by
  refine List.all_eq_true.2 fun o ho => ?_
  match o, ho with
  | .declare _, _ => rfl
  | .met none v, _ => exact Bool.or_true v.isGlobal
  | .met (some p) v, ho => exact Occurrence.foldsByKey_of_toNat_lt (h p v ho).1 (h p v ho).2

namespace Analyzer

variable (a : Analyzer)

/-- Whether a diagnostic is let through depends on its kind. -/
theorem places_select {ds ds' : List Diagnostic}
    (h : ds'.map Diagnostic.place = ds.map Diagnostic.place) :
    (a.select ds').map Diagnostic.place = (a.select ds).map Diagnostic.place := by
  have hplaces : ∀ ds : List Diagnostic, (a.select ds).map Diagnostic.place =
      ((ds.map Diagnostic.place).filter fun place =>
        place.1.severity ≠ .none && place.1.severity ≤ a.threshold).filter
          fun place => !a.disabled.contains place.1 := by
    intro ds
    rw [List.filter_map, List.filter_map]
    rfl
  rw [hplaces, hplaces, h]

/-- A batch that folds by key is reported as it is in lower case. -/
theorem places_diagnostics_plain {bs : List Batch} (h : ∀ b ∈ bs, b.foldsByKey) :
    (a.diagnostics (bs.map Batch.plain)).map Diagnostic.place =
      (a.diagnostics bs).map Diagnostic.place := by
  have hstart : Check.Alike .plain Check.start Check.start := ⟨rfl, rfl, rfl⟩
  refine a.places_select (hstart.script fun b hb o ho => Occurrence.stays_plain ?_).places
  exact List.all_eq_true.1 (h b hb) o ho

/-- **Variables may be spelled in any case.** Two scripts in which variables, place by place, have
the same lower case are given diagnostics of the same kinds on the same lines in the same order,
whatever the settings, if in the arguments of calls comparing up to ASCII case comes to the same as
comparing keys. -/
theorem places_diagnostics {bs bs' : List Batch} (hplain : bs.map Batch.plain = bs'.map Batch.plain)
    (hbs : ∀ b ∈ bs, b.foldsByKey) (hbs' : ∀ b ∈ bs', b.foldsByKey) :
    (a.diagnostics bs).map Diagnostic.place = (a.diagnostics bs').map Diagnostic.place := by
  rw [← a.places_diagnostics_plain hbs, hplain, a.places_diagnostics_plain hbs']

/-- `EXEC p parameter = value`, with a variable for the value. -/
def callWith (parameter value : String) : Statement :=
  .execute ⟨1, none, .name ["p"], [⟨some ⟨parameter, 1⟩, some (.var ⟨value, 1⟩), false⟩]⟩

/-- `DECLARE size int`, and three calls: one with the variable, one whose value spells the name of
its argument, one with another variable. -/
def declareAndCall (size size' out out' other : String) : Batch where
  line := 1
  statements :=
    [.declare [.scalar ⟨size, 1⟩ ⟨"int", [], 1⟩ none], callWith out size', callWith out out',
     callWith out other]

/-- Letters outside ASCII change their case in the declared variable and its use. -/
theorem places_diagnostics_umlaut :
    let bs := [declareAndCall "@Größe" "@GRÖßE" "@Out" "@OUT" "@other"]
    let bs' := [declareAndCall "@GRÖßE" "@größe" "@out" "@Out" "@Other"]
    (bs.map Batch.plain = bs'.map Batch.plain ∧
      (∀ b ∈ bs, b.foldsByKey) ∧ ∀ b ∈ bs', b.foldsByKey) ∧
    ((default : Analyzer).diagnostics bs).map Diagnostic.place = [(.undeclaredVariable, 1)] ∧
    ((default : Analyzer).diagnostics bs).map Diagnostic.place =
      ((default : Analyzer).diagnostics bs').map Diagnostic.place := by
  intro bs bs'
  have hplain : bs.map Batch.plain = bs'.map Batch.plain := by
    have hrespell : ∀ size size' out out' other, (declareAndCall size size' out out' other).plain =
        declareAndCall (SymbolTable.key size) (SymbolTable.key size') (SymbolTable.key out)
          (SymbolTable.key out') (SymbolTable.key other) := fun _ _ _ _ _ => rfl
    have hkeys : SymbolTable.key "@Größe" = SymbolTable.key "@GRÖßE" ∧
        SymbolTable.key "@GRÖßE" = SymbolTable.key "@größe" ∧
        SymbolTable.key "@Out" = SymbolTable.key "@out" ∧
        SymbolTable.key "@OUT" = SymbolTable.key "@Out" ∧
        SymbolTable.key "@other" = SymbolTable.key "@Other" := by decide +kernel
    obtain ⟨hsize, hsize', hout, hout', hother⟩ := hkeys
    simp only [bs, bs', List.map_cons, List.map_nil, hrespell, hsize, hsize', hout, hout', hother]
  have hbs : ∀ b ∈ bs, b.foldsByKey := List.forall_mem_singleton.2 (by decide +kernel)
  have hbs' : ∀ b ∈ bs', b.foldsByKey := List.forall_mem_singleton.2 (by decide +kernel)
  exact ⟨⟨hplain, hbs, hbs'⟩, by decide +kernel, places_diagnostics default hplain hbs hbs'⟩

/-- The two comparisons do not always agree. `EXEC p @É = @É` is without a diagnostic: the value
spells the name of the argument. In `EXEC p @É = @é` it does so by its key only, and the variable
is reported as undeclared. -/
theorem not_places_diagnostics :
    ¬∀ (a : Analyzer) (bs bs' : List Batch), bs.map Batch.plain = bs'.map Batch.plain →
      (a.diagnostics bs).map Diagnostic.place = (a.diagnostics bs').map Diagnostic.place := by
  intro h
  have hplain : [(⟨1, [callWith "@É" "@É"]⟩ : Batch)].map Batch.plain =
      [(⟨1, [callWith "@É" "@é"]⟩ : Batch)].map Batch.plain := by
    have hrespell : ∀ parameter value, (⟨1, [callWith parameter value]⟩ : Batch).plain =
        ⟨1, [callWith (SymbolTable.key parameter) (SymbolTable.key value)]⟩ := fun _ _ => rfl
    have hkey : SymbolTable.key "@É" = SymbolTable.key "@é" := by decide +kernel
    simp only [List.map_cons, List.map_nil, hrespell, hkey]
  have hplaces := h default _ _ hplain
  revert hplaces
  decide +kernel

/-- Both spellings can be read from a text. -/
example :
    ((default : Analyzer).analyze "EXEC p @É = @É").isClean ∧
    ((default : Analyzer).analyze "EXEC p @É = @é").diagnostics =
      [.undeclaredVariable 1 "@é"] := by
  decide +kernel

end Analyzer

end SqlLint
