import SqlLint.Check.Walk

/-!
# Assignments and their expansions

`SET @v += e` stands for `SET @v = @v + (e)`, and `DECLARE @v int = e` for `DECLARE @v int` with
`SET @v = e` behind it. The checks have a way of their own for each of the three forms: they look up
the target, visit the value and find its type, and not in the same order. This module shows that a
short form is checked like its expansion, for every value, also one in which `@v` is used again.

## The argument

The expansion looks up `@v` once more than the short form does. That adds no diagnostic where `@v`
is known, so all it can do is mark the symbol of `@v` as used, and nothing that happens between two
uses depends on such a mark. `Check.IgnoresUse v visit` says this of a visit: it can be swapped with
a use of `v`, and it keeps the type of every name. It holds of every expression because it holds of
a single use and of the target of a cast, and because such visits can be put in a row.

## Main definitions

* `SymbolTable.unmarked`: a table up to whether one name has been used
* `Check.IgnoresUse`: a visit that takes no notice of a use

## Main results

* `SymbolTable.reference_comm`: the order of two uses is of no account to a table
* `Check.ignoresUse_expr`: nor is a use before or behind an expression
* `Check.sugared_assignment`: compound assignments and initial values are checked like plain
  assignments
-/

namespace SqlLint

/-! ## Marks in a table -/

namespace SymbolTable

variable {t : SymbolTable} {name name' : String}

theorem put_put (k : String) (s r : Symbol) (entries : List (String × Symbol)) :
    put k s (put k r entries) = put k s entries := by
  induction entries with
  | nil => simp [put]
  | cons entry entries ih =>
    by_cases h : entry.1 = k
    · simp [put, h]
    · simp [put, h, ih]

/-- Two symbols can be put in either order, unless both are new: then the first one comes first. -/
theorem put_comm {k l : String} (hne : k ≠ l) (s r : Symbol) {entries : List (String × Symbol)}
    (hk : (entries.lookup k).isSome) :
    put k s (put l r entries) = put l r (put k s entries) := by
  induction entries with
  | nil => simp at hk
  | cons entry entries ih =>
    by_cases hk' : entry.1 = k
    · simp [put, hk', hne]
    · have hbeq : (k == entry.1) = false := beq_eq_false_iff_ne.2 (Ne.symm hk')
      rw [List.lookup_cons, hbeq] at hk
      by_cases hl : entry.1 = l
      · simp [put, hl, Ne.symm hne]
      · simp [put, hk', hl, ih hk]

theorem declares_eq_isSome_typeOf? (t : SymbolTable) (name : String) :
    t.declares name = (t.typeOf? name).isSome :=
  Option.isSome_map.symm

theorem reference_of_get? {s : Symbol} (h : t.get? name = some s) :
    t.reference name = ⟨put (key name) { s with referenced := true } t.entries⟩ := by
  rw [reference, h]

theorem reference_of_get?_eq_none (h : t.get? name = none) : t.reference name = t := by
  rw [reference, h]

theorem reference_congr (h : key name = key name') (t : SymbolTable) :
    t.reference name = t.reference name' := by
  rw [reference, reference, get?, get?, h]

/-- A use changes nothing but the mark of the symbol. -/
theorem get?_reference (t : SymbolTable) (name name' : String) :
    (t.reference name).get? name' = (t.get? name').map fun s =>
      { s with referenced := s.referenced || key name' = key name } := by
  cases h : t.get? name with
  | none =>
    rw [reference_of_get?_eq_none h]
    by_cases hkey : key name' = key name
    · have hnone : t.get? name' = none := by rw [get?, hkey]; exact h
      rw [hnone]; rfl
    · simp [hkey]
  | some s =>
    rw [reference_of_get? h]
    by_cases hkey : key name' = key name
    · have hsome : t.get? name' = some s := by rw [get?, hkey]; exact h
      rw [hsome, get?, hkey, lookup_put_self]
      simp
    · rw [get?, lookup_put_of_ne hkey]
      simp [get?, hkey]

@[simp] theorem typeOf?_reference (t : SymbolTable) (name name' : String) :
    (t.reference name).typeOf? name' = t.typeOf? name' := by
  rw [typeOf?, typeOf?, get?_reference, Option.map_map]
  rfl

@[simp] theorem declares_reference (t : SymbolTable) (name name' : String) :
    (t.reference name).declares name' = t.declares name' := by
  rw [declares_eq_isSome_typeOf?, declares_eq_isSome_typeOf?, typeOf?_reference]

@[simp] theorem reference_reference (t : SymbolTable) (name : String) :
    (t.reference name).reference name = t.reference name := by
  cases h : t.get? name with
  | none => rw [reference_of_get?_eq_none h, reference_of_get?_eq_none h]
  | some s =>
    have hmarked : (t.reference name).get? name = some { s with referenced := true } := by
      simp [get?_reference, h]
    rw [reference_of_get? hmarked, reference_of_get? h, put_put]

/-- The entries of a table, with no mark under the key of the name. -/
def unmarked (name : String) (t : SymbolTable) : List (String × Symbol) :=
  t.entries.map fun entry =>
    (entry.1, if entry.1 = key name then { entry.2 with referenced := false } else entry.2)

theorem unmarked_reference (t : SymbolTable) (name : String) :
    (t.reference name).unmarked name = t.unmarked name := by
  obtain ⟨entries⟩ := t
  cases h : get? name ⟨entries⟩ with
  | none => rw [reference_of_get?_eq_none h]
  | some s =>
    rw [reference_of_get? h, unmarked, unmarked]
    rw [get?] at h
    dsimp only at h ⊢
    induction entries with
    | nil => cases h
    | cons entry entries ih =>
      rw [List.lookup_cons] at h
      by_cases hkey : entry.1 = key name
      · obtain rfl : entry.2 = s := by simpa [hkey] using h
        simp [put, hkey]
      · have hbeq : (key name == entry.1) = false := beq_eq_false_iff_ne.2 (Ne.symm hkey)
        rw [hbeq] at h
        simp [put, hkey, ih h]

/-- Uses can be recorded in either order. -/
theorem reference_comm (t : SymbolTable) (name name' : String) :
    (t.reference name).reference name' = (t.reference name').reference name := by
  by_cases hkey : key name' = key name
  · rw [reference_congr hkey, reference_congr hkey]
  · cases h : t.get? name with
    | none =>
      have hnone : (t.reference name').get? name = none := by rw [get?_reference, h]; rfl
      rw [reference_of_get?_eq_none h, reference_of_get?_eq_none hnone]
    | some s =>
      cases h' : t.get? name' with
      | none =>
        have hnone : (t.reference name).get? name' = none := by rw [get?_reference, h']; rfl
        rw [reference_of_get?_eq_none h', reference_of_get?_eq_none hnone]
      | some s' =>
        have hs : (t.reference name').get? name = some s := by
          simp [get?_reference, h, Ne.symm hkey]
        have hs' : (t.reference name).get? name' = some s' := by
          simp [get?_reference, h', hkey]
        rw [reference_of_get? hs, reference_of_get? hs', reference_of_get? h,
          reference_of_get? h']
        exact congrArg mk (put_comm hkey _ _ (Option.isSome_of_eq_some h'))

end SymbolTable

/-! ## Uses of a known variable -/

namespace Check

variable {c : Check} {v : Variable}

/-- The type of an expression depends on the types of names only. -/
theorem typeOf_congr {t t' : SymbolTable} (h : ∀ name, t'.typeOf? name = t.typeOf? name) :
    ∀ e : Expr, typeOf t' e = typeOf t e
  | .var v => by rw [typeOf, typeOf, h]
  | .binary op left right => by
    rw [typeOf, typeOf, typeOf_congr h left, typeOf_congr h right]
  | .paren inner => by rw [typeOf, typeOf, typeOf_congr h inner]
  | .string _ _ => rfl
  | .number _ => rfl
  | .null => rfl
  | .name _ => rfl
  | .cast _ _ _ _ => rfl
  | .unary _ _ => rfl
  | .call _ _ => rfl
  | .parts _ => rfl

/-- A use of the variable is without a diagnostic: it is one of the server's own, or declared. -/
def Knows (c : Check) (v : Variable) : Prop := v.isGlobal ∨ c.symbols.declares v.name

theorem use_of_isGlobal (hv : v.isGlobal) (parameter : Option String) (c : Check) :
    c.use parameter v = c := by
  rw [use, if_pos hv]

/-- All that a use of a known variable does. -/
theorem Knows.use_eq (h : c.Knows v) :
    c.use none v =
      { c with symbols := if v.isGlobal then c.symbols else c.symbols.reference v.name } := by
  by_cases hv : v.isGlobal
  · rw [use_of_isGlobal hv, if_pos hv]
  · have hdeclared : c.symbols.declares v.name := h.resolve_left hv
    simp [use, hv, hdeclared]

theorem Knows.use_use (h : c.Knows v) : (c.use none v).use none v = c.use none v := by
  by_cases hv : v.isGlobal
  · rw [use_of_isGlobal hv]
  · have hdeclared : c.symbols.declares v.name := h.resolve_left hv
    simp [use, hv, hdeclared]

/-- A visit keeps the types of all names, and takes no notice of whether `v` has been used. -/
structure IgnoresUse (v : Variable) (visit : Check → Check) : Prop where
  typeOf? : ∀ c name, (visit c).symbols.typeOf? name = c.symbols.typeOf? name
  use : ∀ c, c.Knows v → visit (c.use none v) = (visit c).use none v

namespace IgnoresUse

variable {visit visit' : Check → Check}

theorem knows (h : IgnoresUse v visit) (hc : c.Knows v) : (visit c).Knows v := by
  rw [Knows, SymbolTable.declares_eq_isSome_typeOf?, h.typeOf?,
    ← SymbolTable.declares_eq_isSome_typeOf?]
  exact hc

theorem id (v : Variable) : IgnoresUse v fun c => c := ⟨fun _ _ => rfl, fun _ _ => rfl⟩

theorem comp (h' : IgnoresUse v visit') (h : IgnoresUse v visit) :
    IgnoresUse v fun c => visit' (visit c) := by
  refine ⟨fun c name => ?_, fun c hc => ?_⟩
  · rw [h'.typeOf?, h.typeOf?]
  · rw [h.use c hc, h'.use _ (h.knows hc)]

/-- A choice that takes no notice of the mark. -/
theorem ite {p : Check → Bool} (hp : ∀ c, c.Knows v → p (c.use none v) = p c)
    (h : IgnoresUse v visit) (h' : IgnoresUse v visit') :
    IgnoresUse v fun c => if p c then visit c else visit' c := by
  refine ⟨fun c name => ?_, fun c hc => ?_⟩
  · split
    · exact h.typeOf? c name
    · exact h'.typeOf? c name
  · rw [hp c hc]
    split
    · exact h.use c hc
    · exact h'.use c hc

end IgnoresUse

theorem ignoresUse_report (v : Variable) (ds : List Diagnostic) : IgnoresUse v (report ds) := by
  refine ⟨fun _ _ => rfl, fun c hc => ?_⟩
  have hreported : (c.report ds).Knows v := hc
  rw [hc.use_eq, hreported.use_eq]
  rfl

theorem ignoresUse_reference (v : Variable) (name : String) :
    IgnoresUse v fun c => { c with symbols := c.symbols.reference name } := by
  refine ⟨fun c name' => c.symbols.typeOf?_reference name name', fun c hc => ?_⟩
  have hmarked : Knows { c with symbols := c.symbols.reference name } v := by
    simpa [Knows] using hc
  rw [hc.use_eq, hmarked.use_eq]
  split
  · rfl
  · rw [SymbolTable.reference_comm]

theorem ignoresUse_use (v : Variable) (parameter : Option String) (w : Variable) :
    IgnoresUse v (use parameter w) := by
  have hdeclares : ∀ c : Check, c.Knows v →
      (c.use none v).symbols.declares w.name = c.symbols.declares w.name := by
    intro c hc
    rw [hc.use_eq]
    dsimp only
    split
    · rfl
    · exact c.symbols.declares_reference v.name w.name
  exact .ite (fun _ _ => rfl) (.id v) (.ite (fun _ _ => rfl) (.id v)
    (.ite hdeclares (ignoresUse_reference v w.name) (ignoresUse_report v _)))

theorem ignoresUse_castTarget (v : Variable) (kind : CastKind) (target : TypeRef) :
    IgnoresUse v (castTarget kind target) := by
  exact .ite (fun _ _ => rfl) (ignoresUse_report v _) (.id v)

/-! ## Visiting an expression -/

mutual

theorem ignoresUse_expr (v : Variable) (parameter : Option String) : ∀ e : Expr,
    IgnoresUse v (expr parameter e)
  | .var w => ignoresUse_use v parameter w
  | .cast kind operand target style =>
    (ignoresUse_optionalExpr v parameter style).comp
      ((ignoresUse_expr v parameter operand).comp (ignoresUse_castTarget v kind target))
  | .binary _ left right =>
    (ignoresUse_expr v parameter right).comp (ignoresUse_expr v parameter left)
  | .unary _ operand => ignoresUse_expr v parameter operand
  | .paren inner => ignoresUse_expr v parameter inner
  | .call _ args => ignoresUse_exprs v parameter args
  | .parts items => ignoresUse_exprs v parameter items
  | .string _ _ => .id v
  | .number _ => .id v
  | .null => .id v
  | .name _ => .id v

theorem ignoresUse_exprs (v : Variable) (parameter : Option String) : ∀ es : List Expr,
    IgnoresUse v (exprs parameter es)
  | [] => .id v
  | e :: es => (ignoresUse_exprs v parameter es).comp (ignoresUse_expr v parameter e)

theorem ignoresUse_optionalExpr (v : Variable) (parameter : Option String) : ∀ o : Option Expr,
    IgnoresUse v (optionalExpr parameter o)
  | none => .id v
  | some e => ignoresUse_expr v parameter e

end

/-! ## Assignments -/

/-- The target is looked up twice in the expansion, as the target and in the value. -/
theorem setVariable_compound (h : c.Knows v) (op : BinaryOp) (e : Expr) :
    c.setVariable v (some op) e = c.setVariable v none (.binary op (.var v) (.paren e)) := by
  have hvisit : expr none (.binary op (.var v) (.paren e)) (c.use none v) =
      expr none e (c.use none v) := by
    rw [expr, expr, expr, h.use_use]
  unfold setVariable
  rw [hvisit]
  cases htype : (expr none e (c.use none v)).symbols.typeOf? v.name with
  | none => simp only [htype]
  | some type => simp [htype, storedType, typeOf]

theorem typeOf?_declareTyped (v : Variable) (type : DataType) (c : Check) :
    (c.declareTyped v type).symbols.typeOf? v.name = some type := by
  rw [SymbolTable.typeOf?]
  exact congrArg _ (SymbolTable.lookup_put_self _ _ _)

theorem knows_declareTyped (v : Variable) (type : DataType) (c : Check) :
    (c.declareTyped v type).Knows v := by
  refine .inr ?_
  rw [SymbolTable.declares_eq_isSome_typeOf?, typeOf?_declareTyped]
  rfl

/-- The target is looked up in the assignment and not in the declaration. By then it is declared, so
this marks it as used and does nothing else. -/
theorem setVariable_declaration {type : TypeRef} (hline : type.line = v.line) (e : Expr)
    (c : Check) :
    (c.declaration (.scalar v type none)).setVariable v none e =
      (c.declaration (.scalar v type (some e))).use none v := by
  let declared := c.declareTyped v (.ofRef type)
  have htype : declared.symbols.typeOf? v.name = some (.ofRef type) :=
    typeOf?_declareTyped v (.ofRef type) c
  have hknows : declared.Knows v := knows_declareTyped v (.ofRef type) c
  have hvisit := ignoresUse_expr v none e
  have huse : ∀ name, ((expr none e declared).use none v).symbols.typeOf? name =
      declared.symbols.typeOf? name := fun name => by
    rw [(ignoresUse_use v none v).typeOf?, hvisit.typeOf?]
  calc (c.declaration (.scalar v type none)).setVariable v none e
      = declared.setVariable v none e := rfl
    _ = ((expr none e declared).use none v).report
          (assignmentDiagnostics v.line v.name (.ofRef type)
            (typeOf (expr none e declared).symbols e)) := by
        rw [setVariable, hvisit.use declared hknows]
        dsimp only
        rw [huse, htype, typeOf_congr huse, typeOf_congr (hvisit.typeOf? declared)]
        rfl
    _ = ((expr none e declared).report (assignmentDiagnostics v.line v.name (.ofRef type)
          (typeOf (expr none e declared).symbols e))).use none v :=
        (ignoresUse_report v _).use _ (hvisit.knows hknows)
    _ = (c.declaration (.scalar v type (some e))).use none v := by
        rw [← hline]
        rfl

/-- `SET @v op= e` is checked like `SET @v = @v op (e)`, and `DECLARE @v T = e` like `DECLARE @v T`
with `SET @v = e` behind it, except that the latter marks `@v` as used. -/
theorem sugared_assignment (c : Check) (v : Variable) (e : Expr) :
    (v.isGlobal ∨ c.symbols.declares v.name → ∀ op : BinaryOp,
      statement (.setVariable v (some op) e) c =
        statement (.setVariable v none (.binary op (.var v) (.paren e))) c) ∧
    ∀ type : TypeRef, type.line = v.line →
      let short := statement (.declare [.scalar v type (some e)]) c
      let long := statements [.declare [.scalar v type none], .setVariable v none e] c
      long.diagnostics = short.diagnostics ∧
        long.symbols.unmarked v.name = short.symbols.unmarked v.name := by
  refine ⟨fun hknows op => setVariable_compound hknows op e, fun type hline => ?_⟩
  have hlong : statements [.declare [.scalar v type none], .setVariable v none e] c =
      (statement (.declare [.scalar v type (some e)]) c).use none v :=
    setVariable_declaration hline e c
  have hshort : (statement (.declare [.scalar v type (some e)]) c).Knows v :=
    (ignoresUse_report v _).knows
      ((ignoresUse_expr v none e).knows (knows_declareTyped v (.ofRef type) c))
  rw [hlong, hshort.use_eq]
  refine ⟨rfl, ?_⟩
  dsimp only
  split
  · rfl
  · exact SymbolTable.unmarked_reference _ v.name

/-- The value is `CONVERT(nvarchar, @S)`, with a remark of its own. In the second part `@S` is the
variable that is being declared. -/
theorem sugared_assignment_convert :
    let v : Variable := ⟨"@s", 2⟩
    let e : Expr := .cast .convert (.var ⟨"@S", 2⟩) ⟨"nvarchar", [], 2⟩ none
    let c := statement (.declare [.scalar ⟨"@s", 1⟩ ⟨"varchar", [.size 5], 1⟩ none]) start
    let kinds : List DiagnosticKind := [.convertWithoutLength, .stringTruncated, .stringConverted]
    let short := statement (.declare [.scalar v ⟨"char", [.size 3], 2⟩ (some e)]) c
    let long := statements
      [.declare [.scalar v ⟨"char", [.size 3], 2⟩ none], .setVariable v none e] c
    (statement (.setVariable v (some .plus) e) c =
        statement (.setVariable v none (.binary .plus (.var v) (.paren e))) c ∧
      (statement (.setVariable v (some .plus) e) c).diagnostics.map (·.kind) = kinds) ∧
    (long.diagnostics = short.diagnostics ∧
        long.symbols.unmarked v.name = short.symbols.unmarked v.name) ∧
      short.diagnostics.map (·.kind) = kinds := by
  intro v e c kinds short long
  have hdeclared : c.symbols.declares v.name := by decide +kernel
  refine ⟨⟨(sugared_assignment c v e).1 (.inr hdeclared) .plus, ?_⟩,
    (sugared_assignment c v e).2 _ rfl, ?_⟩
  · decide +kernel
  · decide +kernel

end Check

end SqlLint
