import SqlLint.Proofs.Check.Variables

/-!
# Variables that are met and not looked up

A variable that is declared and never used is reported at the end of a batch. What counts as a use
is not every place where the variable is written. The server's own variables, whose names begin
with two signs, are never looked up; nor is a variable inside the value of an argument `@p = value`
that spells `@p`. The events of a batch leave such places out from the start.

This module keeps them. The *occurrences* of a batch are its declarations and all the variables that
a visit meets, each with the name of the argument in whose value it stands, and the events are those
among them that the checks react to. A variable reported as unused can then be compared with
everything that is written behind its last declaration: whatever is met there under its key is one
of the two exceptions. That they are needed is shown by a batch in which both variables are met and
both are reported.

## Main definitions

* `Occurrence`, `Statement.occurrences`: all that a visit meets, in order
* `Occurrence.LastDeclared`: the last declaration of a key and what is met behind it

## Main results

* `Statement.filterMap_occurrences`: the events are the occurrences that the checks react to
* `Check.batch_unused_unmet`: what is met behind the declaration of an unused variable
* `Check.not_batch_unused_unmet`: the exceptions cannot be dropped
-/

namespace SqlLint

/-- A variable is declared, or it is met; `parameter` is the name of the argument in whose value
it is met. -/
inductive Occurrence where
  | declare (v : Variable)
  | met (parameter : Option String) (v : Variable)
  deriving DecidableEq, Repr

namespace Occurrence

/-- What the checks make of an occurrence. -/
def event? : Occurrence → Option Event
  | declare v => some (.declare v)
  | met parameter v => if v.isLookedUp parameter then some (.use v) else none

/-- The occurrences of the variables written in an expression. -/
def ofVariables (parameter : Option String) (vs : List Variable) : List Occurrence :=
  vs.map (met parameter)

theorem filterMap_ofVariables (parameter : Option String) (vs : List Variable) :
    (ofVariables parameter vs).filterMap event? = Event.ofVariables parameter vs := by
  rw [ofVariables, List.filterMap_map, Event.ofVariables, ← List.filterMap_eq_filter,
    List.map_filterMap]
  refine List.filterMap_congr fun v _ => ?_
  by_cases h : v.isLookedUp parameter <;> simp [event?, Option.guard, h]

end Occurrence

/-! ## The occurrences of a tree -/

/-- The name comes first, as in the visit. -/
def Declaration.occurrences : Declaration → List Occurrence
  | scalar name _ value => .declare name :: Occurrence.ofVariables none (Expr.optionVars value)
  | table name => [.declare name]

/-- The name comes first, as in the visit. -/
def Parameter.occurrences (p : Parameter) : List Occurrence :=
  .declare p.name :: Occurrence.ofVariables none (Expr.optionVars p.default)

/-- The variables in the value, each under the name of the argument. -/
def Argument.occurrences (a : Argument) : List Occurrence :=
  Occurrence.ofVariables (a.name.map (·.name)) (Expr.optionVars a.value)

/-- The variable for the status, that of the procedure and those of the arguments. -/
def Execution.occurrences (e : Execution) : List Occurrence :=
  Occurrence.ofVariables none (e.status.toList ++ e.procedure.vars) ++
    e.arguments.flatMap Argument.occurrences

namespace Statement

mutual

/-- The occurrences of a statement. -/
def occurrences : Statement → List Occurrence
  | declare items => items.flatMap Declaration.occurrences
  | setVariable target _ value => Occurrence.ofVariables none (target :: value.vars)
  | setOption _ _ _ => []
  | procedure _ _ parameters body =>
    parameters.flatMap Parameter.occurrences ++ listOccurrences body
  | function _ _ parameters result body =>
    parameters.flatMap Parameter.occurrences ++ result.toList.map Occurrence.declare ++
      listOccurrences body
  | execute call => call.occurrences
  | block body => listOccurrences body
  | conditional condition body otherwise =>
    Occurrence.ofVariables none condition.vars ++ body.occurrences ++ optionOccurrences otherwise
  | returns value => Occurrence.ofVariables none (Expr.optionVars value)
  | other items => Occurrence.ofVariables none (Expr.listVars items)

/-- The occurrences of statements in a row. -/
def listOccurrences : List Statement → List Occurrence
  | [] => []
  | s :: ss => s.occurrences ++ listOccurrences ss

/-- The occurrences of a statement that may be missing. -/
def optionOccurrences : Option Statement → List Occurrence
  | none => []
  | some s => s.occurrences

end

end Statement

/-! ## Occurrences and events -/

open Occurrence (event? filterMap_ofVariables)

theorem Declaration.filterMap_occurrences (d : Declaration) :
    d.occurrences.filterMap event? = d.events := by
  cases d with
  | table name => rfl
  | scalar name type value =>
    rw [occurrences, List.filterMap_cons, filterMap_ofVariables]
    rfl

theorem Parameter.filterMap_occurrences (p : Parameter) :
    p.occurrences.filterMap event? = p.events := by
  rw [occurrences, List.filterMap_cons, filterMap_ofVariables]
  rfl

theorem Execution.filterMap_occurrences (e : Execution) :
    e.occurrences.filterMap event? = e.events := by
  have hargument : ∀ a : Argument, a.occurrences.filterMap event? = a.events :=
    fun a => filterMap_ofVariables _ _
  rw [occurrences, List.filterMap_append, filterMap_ofVariables, List.filterMap_flatMap,
    funext hargument]
  rfl

namespace Statement

mutual

/-- The events of a statement are the occurrences in it that the checks react to. -/
theorem filterMap_occurrences : ∀ s : Statement, s.occurrences.filterMap event? = s.events
  | declare items => by
    rw [occurrences, List.filterMap_flatMap, funext Declaration.filterMap_occurrences, events]
  | setVariable target op value => filterMap_ofVariables none _
  | setOption _ _ _ => rfl
  | procedure _ _ parameters body => by
    rw [occurrences, List.filterMap_append, List.filterMap_flatMap,
      funext Parameter.filterMap_occurrences, filterMap_listOccurrences body, events]
  | function _ _ parameters result body => by
    have hresult : (result.toList.map Occurrence.declare).filterMap event? =
        result.toList.map Event.declare := by
      cases result <;> rfl
    rw [occurrences, List.filterMap_append, List.filterMap_append, List.filterMap_flatMap,
      funext Parameter.filterMap_occurrences, hresult, filterMap_listOccurrences body, events]
  | execute call => call.filterMap_occurrences
  | block body => filterMap_listOccurrences body
  | conditional condition body otherwise => by
    rw [occurrences, List.filterMap_append, List.filterMap_append, filterMap_ofVariables,
      filterMap_occurrences body, filterMap_optionOccurrences otherwise, events]
  | returns value => filterMap_ofVariables none _
  | other items => filterMap_ofVariables none _

theorem filterMap_listOccurrences : ∀ ss : List Statement,
    (listOccurrences ss).filterMap event? = listEvents ss
  | [] => rfl
  | s :: ss => by
    rw [listOccurrences, List.filterMap_append, filterMap_occurrences s,
      filterMap_listOccurrences ss, listEvents]

theorem filterMap_optionOccurrences : ∀ o : Option Statement,
    (optionOccurrences o).filterMap event? = optionEvents o
  | none => rfl
  | some s => filterMap_occurrences s

end

end Statement

/-! ## The last declaration of a key -/

namespace Occurrence

/-- `d` is the last declaration of its key, and `after` is what is met behind it. -/
def LastDeclared (os : List Occurrence) (d : Variable) (after : List Occurrence) : Prop :=
  ∃ before, os = before ++ declare d :: after ∧ ∀ v, declare v ∈ after → v.key ≠ d.key

/-- The occurrence looks a key up. -/
def looksUp (k : String) : Occurrence → Bool
  | declare _ => false
  | met parameter v => v.isLookedUp parameter && v.key == k

variable {os : List Occurrence} {d : Variable} {after : List Occurrence}

theorem lastDeclared_concat (os : List Occurrence) (d : Variable) :
    LastDeclared (os ++ [declare d]) d [] :=
  ⟨os, rfl, by simp⟩

/-- Whatever follows without declaring the key again is met behind the same declaration. -/
theorem LastDeclared.concat (h : LastDeclared os d after) {o : Occurrence}
    (ho : ∀ v, o = declare v → v.key ≠ d.key) :
    LastDeclared (os ++ [o]) d (after ++ [o]) := by
  obtain ⟨before, rfl, hafter⟩ := h
  refine ⟨before, by simp, fun v hv => ?_⟩
  rcases List.mem_append.1 hv with hv | hv
  · exact hafter v hv
  · exact ho v (List.mem_singleton.1 hv).symm

/-- A key that some event declares has a last declaration among the occurrences. -/
theorem exists_lastDeclared {k : String} (os : List Occurrence) :
    Event.lastDeclaration? k (os.filterMap event?) = some d →
      d.key = k ∧ ∃ after, LastDeclared os d after := by
  induction os using List.reverseRecOn with
  | nil => simp
  | append_singleton os o ih =>
    intro h
    rw [List.filterMap_append] at h
    cases o with
    | declare v =>
      rw [show [declare v].filterMap event? = [.declare v] from rfl,
        Event.lastDeclaration?_declare] at h
      by_cases hv : v.key = k
      · rw [if_pos hv, Option.some.injEq] at h
        subst h
        exact ⟨hv, [], lastDeclared_concat os v⟩
      · rw [if_neg hv] at h
        obtain ⟨rfl, after, hlast⟩ := ih h
        exact ⟨rfl, _, hlast.concat (by rintro w ⟨⟩; exact hv)⟩
    | met parameter v =>
      have hsame : Event.lastDeclaration? k (os.filterMap event?) = some d := by
        by_cases hv : v.isLookedUp parameter
        · rwa [show [met parameter v].filterMap event? = [.use v] by simp [event?, hv],
            Event.lastDeclaration?_use] at h
        · rwa [show [met parameter v].filterMap event? = [] by simp [event?, hv],
            List.append_nil] at h
      obtain ⟨rfl, after, hlast⟩ := ih hsame
      exact ⟨rfl, _, hlast.concat (by simp)⟩

theorem LastDeclared.lastDeclaration?_eq (h : LastDeclared os d after) :
    Event.lastDeclaration? d.key (os.filterMap event?) = some d := by
  obtain ⟨before, rfl, hafter⟩ := h
  have hnone : ((after.filterMap event?).filterMap Event.declared?).filter
      (fun v => v.key == d.key) = [] := by
    rw [List.filterMap_filterMap, List.filter_eq_nil_iff]
    intro v hv
    obtain ⟨o, ho, hv⟩ := List.mem_filterMap.1 hv
    cases o with
    | declare w =>
      obtain rfl : w = v := by simpa [event?, Event.declared?] using hv
      simpa using hafter w ho
    | met parameter w =>
      by_cases hw : w.isLookedUp parameter <;> simp [event?, hw, Event.declared?] at hv
  simp [Event.lastDeclaration?, event?, Event.declared?, hnone]

/-- A key has been used since its last declaration exactly if it is looked up behind it. -/
theorem LastDeclared.usedSince_eq (h : LastDeclared os d after) :
    Event.usedSince d.key (os.filterMap event?) = after.any (looksUp d.key) := by
  obtain ⟨before, rfl, hafter⟩ := h
  induction after using List.reverseRecOn with
  | nil =>
    rw [List.filterMap_append]
    exact (Event.usedSince_declare _ _ _).trans (if_pos rfl)
  | append_singleton after o ih =>
    have hused := ih fun v hv => hafter v (List.mem_append_left _ hv)
    rw [← List.cons_append, ← List.append_assoc, List.filterMap_append, List.any_append, ← hused]
    cases o with
    | declare v =>
      have hv : v.key ≠ d.key := hafter v (List.mem_append_right _ List.mem_cons_self)
      rw [show [declare v].filterMap event? = [.declare v] from rfl, Event.usedSince_declare,
        if_neg hv]
      simp [looksUp]
    | met parameter v =>
      by_cases hv : v.isLookedUp parameter
      · rw [show [met parameter v].filterMap event? = [.use v] by simp [event?, hv],
          Event.usedSince_use]
        simp [looksUp, hv]
      · rw [show [met parameter v].filterMap event? = [] by simp [event?, hv], List.append_nil]
        simp [looksUp, hv]

end Occurrence

/-- A declaration goes without a use exactly if it is the last one of its key and the key has not
been used since. -/
theorem Event.mem_unusedVariables_iff {es : List Event} {d : Variable} :
    d ∈ unusedVariables es ↔
      lastDeclaration? d.key es = some d ∧ usedSince d.key es = false := by
  have hmem : ∀ {k}, lastDeclaration? k es = some d →
      d ∈ es.filterMap declared? ∧ d.key = k := by
    intro k h
    simpa using List.mem_filter.1 (List.mem_of_getLast? h)
  rw [unusedVariables, List.mem_filterMap]
  constructor
  · rintro ⟨k, -, hk⟩
    split at hk
    · cases hk
    · next hused =>
      obtain rfl := (hmem hk).2
      exact ⟨hk, eq_false_of_ne_true hused⟩
  · rintro ⟨hlast, hused⟩
    refine ⟨d.key, ?_, by rw [hused]; exact hlast⟩
    exact List.mem_eraseDups.2 (List.mem_map_of_mem (hmem hlast).1)

/-! ## A batch -/

namespace Check

/-- The unused variables that a visit reports are the declarations that go without a use. -/
theorem batch_reports_unused (b : Batch) (c : Check) :
    ∃ added, (c.batch b).diagnostics = c.diagnostics ++ added ∧
      ∀ r, r ∈ added ∧ r.kind = .unusedVariable ↔
        ∃ d ∈ Event.unusedVariables (Statement.listEvents b.statements),
          r = .unusedVariable d.line d.name := by
  have hstart : Visited c.diagnostics [] { c with symbols := .empty, nocount := false } :=
    ⟨SymbolTable.records_empty, [], (List.append_nil _).symm, rfl, fun d hd => by simp at hd⟩
  have hvisited := Visited.statements b.statements hstart
  obtain ⟨found, hfound, -, hother⟩ := hvisited.reported
  have hleft := hvisited.records.unreferenced_eq
  rw [List.nil_append] at hleft
  refine ⟨found ++ unusedDiagnostics (statements b.statements
    { c with symbols := .empty, nocount := false }).symbols, ?_, fun r => ?_⟩
  · rw [← List.append_assoc, ← hfound]
    rfl
  · rw [← hleft, unusedDiagnostics, List.mem_append, List.mem_map]
    constructor
    · rintro ⟨hr | ⟨s, hs, rfl⟩, hkind⟩
      · exact absurd hkind (hother r hr)
      · exact ⟨_, List.mem_map_of_mem hs, rfl⟩
    · rintro ⟨d, hd, rfl⟩
      obtain ⟨s, hs, rfl⟩ := List.mem_map.1 hd
      exact ⟨.inr ⟨s, hs, rfl⟩, rfl⟩

/-- **What is met behind the declaration of an unused variable.** In whatever state the visit of a
batch begins, every unused variable that it reports is the last declaration of its key, and what is
met behind it under that key is one of the server's own variables, or spells the name of the
argument in whose value it stands. A declaration behind which at most the server's own variables are
met under its key is reported. -/
theorem batch_unused_unmet (b : Batch) (c : Check) :
    ∃ added, (c.batch b).diagnostics = c.diagnostics ++ added ∧
      (∀ r ∈ added, r.kind = .unusedVariable →
        ∃ d after, r = .unusedVariable d.line d.name ∧
          Occurrence.LastDeclared (Statement.listOccurrences b.statements) d after ∧
          ∀ parameter v, .met parameter v ∈ after → v.key = d.key →
            v.isGlobal ∨ parameter.any fun p => Text.equalFold p v.name) ∧
      ∀ d after, Occurrence.LastDeclared (Statement.listOccurrences b.statements) d after →
        (∀ parameter v, .met parameter v ∈ after → v.key = d.key → v.isGlobal) →
        .unusedVariable d.line d.name ∈ added := by
  obtain ⟨added, hadded, hunused⟩ := batch_reports_unused b c
  rw [← Statement.filterMap_listOccurrences] at hunused
  refine ⟨added, hadded, fun r hr hkind => ?_, fun d after hlast hmet => ?_⟩
  · obtain ⟨d, hd, rfl⟩ := (hunused r).1 ⟨hr, hkind⟩
    obtain ⟨hdeclared, hused⟩ := Event.mem_unusedVariables_iff.1 hd
    obtain ⟨-, after, hlast⟩ := Occurrence.exists_lastDeclared _ hdeclared
    refine ⟨d, after, rfl, hlast, fun parameter v hv hkey => ?_⟩
    rw [hlast.usedSince_eq, List.any_eq_false] at hused
    have hskipped := hused _ hv
    simp only [Occurrence.looksUp, hkey, beq_self_eq_true, Bool.and_true, Variable.isLookedUp,
      Bool.and_eq_true, Bool.not_eq_true', not_and, Bool.not_eq_false] at hskipped
    by_cases hglobal : v.isGlobal
    · exact .inl hglobal
    · exact .inr (hskipped (eq_false_of_ne_true hglobal))
  · have hused : Event.usedSince d.key
        ((Statement.listOccurrences b.statements).filterMap event?) = false := by
      rw [hlast.usedSince_eq, List.any_eq_false]
      intro o ho
      cases o with
      | declare v => simp [Occurrence.looksUp]
      | met parameter v =>
        by_cases hkey : v.key = d.key
        · simp [Occurrence.looksUp, Variable.isLookedUp, hmet parameter v ho hkey]
        · simp [Occurrence.looksUp, hkey]
    have hd := Event.mem_unusedVariables_iff.2 ⟨hlast.lastDeclaration?_eq, hused⟩
    exact ((hunused _).2 ⟨d, hd, rfl⟩).1

/-- `DECLARE @@x int, @a int; SET @@x = 1; EXEC p @a = @a`. -/
def metUnused : Batch where
  line := 1
  statements :=
    [.declare [.scalar ⟨"@@x", 1⟩ ⟨"int", [], 1⟩ none, .scalar ⟨"@a", 1⟩ ⟨"int", [], 1⟩ none],
     .setVariable ⟨"@@x", 1⟩ none (.number "1"),
     .execute ⟨1, none, .name ["p"], [⟨some ⟨"@a", 1⟩, some (.var ⟨"@a", 1⟩), false⟩]⟩]

/-- A variable that is reported as unused may well be met: in `metUnused` one variable begins with
two signs and the other one stands in the argument of its own name, and both are reported. -/
theorem not_batch_unused_unmet :
    ¬∀ (b : Batch) (c : Check), ∃ added, (c.batch b).diagnostics = c.diagnostics ++ added ∧
      ∀ r ∈ added, r.kind = .unusedVariable →
        ∃ d after, r = .unusedVariable d.line d.name ∧
          Occurrence.LastDeclared (Statement.listOccurrences b.statements) d after ∧
          ∀ parameter v, .met parameter v ∈ after → v.key ≠ d.key := by
  intro h
  obtain ⟨added, hadded, hunmet⟩ := h metUnused .start
  obtain rfl : added = [.unusedVariable 1 "@@x", .unusedVariable 1 "@a"] := by
    rw [← List.nil_append added]
    exact hadded.symm.trans (by decide +kernel)
  obtain ⟨d, after, -, ⟨before, hos, -⟩, hafter⟩ := hunmet _ List.mem_cons_self rfl
  -- Whichever of the two the declaration is, its variable is met behind it.
  have hos : [.declare ⟨"@@x", 1⟩, .declare ⟨"@a", 1⟩, .met none ⟨"@@x", 1⟩,
      .met (some "@a") ⟨"@a", 1⟩] = before ++ Occurrence.declare d :: after := hos
  rcases before with _ | ⟨o, _ | ⟨o', before⟩⟩
  · obtain ⟨⟨⟩, rfl⟩ := List.cons.inj hos
    exact hafter none ⟨"@@x", 1⟩ (by simp) rfl
  · obtain ⟨⟨⟩, rfl⟩ := List.cons.inj (List.cons.inj hos).2
    exact hafter (some "@a") ⟨"@a", 1⟩ (by simp) rfl
  · have hd : Occurrence.declare d ∈ [.met none ⟨"@@x", 1⟩, .met (some "@a") ⟨"@a", 1⟩] := by
      rw [(List.cons.inj (List.cons.inj hos).2).2]
      simp
    simp at hd

end Check

end SqlLint
