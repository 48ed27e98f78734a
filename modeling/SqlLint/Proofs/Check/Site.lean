import SqlLint.Diagnostic.Basic
import SqlLint.Proofs.Syntax.Height
import SqlLint.Proofs.Syntax.Nodes

/-!
# What is remarked on whatever has been declared

Most of what the checks say depends on the table of symbols. Three kinds of remarks do not: a cast
to a character type without a length, a variable or parameter declared with one, and a procedure
that leaves row counts on. They are made at certain *sites* of the tree, and this module lists the
sites of a statement in the order in which a visit comes to them. Neither the table nor the state of
the checks is mentioned.

## Row counts

A procedure leaves row counts on unless `SET NOCOUNT ON` is reached from its body: the statement
stands in it, or in a block or a branch of it, however deep. What a procedure or a function that is
defined inside does is of no account, since a definition runs nothing. The site of a procedure is
where it ends, because by then its body has been seen.

## Main definitions

* `Statement.Reaches`: the statements in a statement, definitions apart
* `Site`, `Statement.sites`: the sites of a statement in the order of a visit
* `Expr.casts`: the casts among all nodes of an expression
* `Statement.listTyped`, `Statement.listUncounted`: the other sites of statements, by their kind

## Main results

* `Statement.setsNocount_iff`: whether `SET NOCOUNT ON` is reached can be computed
* `Statement.filterMap_cast?_listSites`: every cast in every expression is a site, once
-/

namespace SqlLint

/-! ## Reaching `SET NOCOUNT ON` -/

namespace Statement

/-- A statement is reached from another one through blocks and branches. -/
inductive Reaches : Statement → Statement → Prop
  | refl (s : Statement) : Reaches s s
  | block {body : List Statement} {s t : Statement} (hs : s ∈ body) (h : Reaches s t) :
    Reaches (block body) t
  | body {condition : Expr} {body t : Statement} {otherwise : Option Statement}
    (h : Reaches body t) : Reaches (conditional condition body otherwise) t
  | otherwise {condition : Expr} {body s t : Statement} (h : Reaches s t) :
    Reaches (conditional condition body (some s)) t

/-- `SET NOCOUNT ON` is reached, possibly with other options beside it. -/
def ReachesNocount (s : Statement) : Prop :=
  ∃ line options, s.Reaches (setOption line options true) ∧ "NOCOUNT" ∈ options

mutual

/-- Whether the statement switches row counts off. -/
def setsNocount : Statement → Bool
  | setOption _ options on => on && options.contains "NOCOUNT"
  | block body => listSetsNocount body
  | conditional _ body otherwise => body.setsNocount || optionSetsNocount otherwise
  | _ => false

/-- Whether one of several statements switches row counts off. -/
def listSetsNocount : List Statement → Bool
  | [] => false
  | s :: ss => s.setsNocount || listSetsNocount ss

/-- Whether a statement that may be missing switches row counts off. -/
def optionSetsNocount : Option Statement → Bool
  | none => false
  | some s => s.setsNocount

end

theorem listSetsNocount_eq_any (ss : List Statement) : listSetsNocount ss = ss.any setsNocount := by
  induction ss with
  | nil => rfl
  | cons s ss ih => rw [listSetsNocount, ih, List.any_cons]

theorem setsNocount_of_reaches {line : Nat} {options : List String} {s t : Statement}
    (h : s.Reaches t) (ht : t = setOption line options true) (hmem : "NOCOUNT" ∈ options) :
    s.setsNocount := by
  induction h with
  | refl s =>
    subst ht
    simp [setsNocount, hmem]
  | block hs _ ih =>
    rw [setsNocount, listSetsNocount_eq_any]
    exact List.any_eq_true.2 ⟨_, hs, ih ht⟩
  | body _ ih =>
    rw [setsNocount, ih ht, Bool.true_or]
  | otherwise _ ih =>
    rw [setsNocount, optionSetsNocount, ih ht, Bool.or_true]

mutual

theorem reachesNocount_of_setsNocount : ∀ s : Statement, s.setsNocount → s.ReachesNocount
  | setOption line options on, h => by
    obtain ⟨rfl, hmem⟩ : on = true ∧ "NOCOUNT" ∈ options := by simpa [setsNocount] using h
    exact ⟨line, options, .refl _, hmem⟩
  | block body, h => by
    obtain ⟨s, hs, line, options, hreach, hmem⟩ := exists_reachesNocount body h
    exact ⟨line, options, .block hs hreach, hmem⟩
  | conditional _ body otherwise, h => by
    rw [setsNocount, Bool.or_eq_true] at h
    rcases h with h | h
    · obtain ⟨line, options, hreach, hmem⟩ := reachesNocount_of_setsNocount body h
      exact ⟨line, options, .body hreach, hmem⟩
    · cases otherwise with
      | none => cases h
      | some s =>
        obtain ⟨line, options, hreach, hmem⟩ := reachesNocount_of_setsNocount s h
        exact ⟨line, options, .otherwise hreach, hmem⟩
  | declare _, h => by cases h
  | setVariable _ _ _, h => by cases h
  | procedure _ _ _ _, h => by cases h
  | function _ _ _ _ _, h => by cases h
  | execute _, h => by cases h
  | returns _, h => by cases h
  | other _, h => by cases h

theorem exists_reachesNocount : ∀ ss : List Statement, listSetsNocount ss →
    ∃ s ∈ ss, s.ReachesNocount
  | s :: ss, h => by
    rw [listSetsNocount, Bool.or_eq_true] at h
    rcases h with h | h
    · exact ⟨s, List.mem_cons_self, reachesNocount_of_setsNocount s h⟩
    · obtain ⟨t, ht, hreach⟩ := exists_reachesNocount ss h
      exact ⟨t, List.mem_cons_of_mem s ht, hreach⟩

end

theorem setsNocount_iff {s : Statement} : s.setsNocount ↔ s.ReachesNocount :=
  ⟨reachesNocount_of_setsNocount s, fun ⟨_, _, hreach, hmem⟩ =>
    setsNocount_of_reaches hreach rfl hmem⟩

theorem listSetsNocount_iff {ss : List Statement} :
    listSetsNocount ss ↔ ∃ s ∈ ss, s.ReachesNocount := by
  rw [listSetsNocount_eq_any, List.any_eq_true]
  simp only [setsNocount_iff]

instance (s : Statement) : Decidable s.ReachesNocount :=
  decidable_of_iff (s.setsNocount = true) setsNocount_iff

end Statement

/-! ## Casts -/

namespace Expr

/-- The kind and the target of a cast. -/
def cast? : Expr → Option (CastKind × TypeRef)
  | cast kind _ target _ => some (kind, target)
  | _ => none

/-- The casts in an expression, a cast before those in its operand and these before those in its
style. -/
def casts (e : Expr) : List (CastKind × TypeRef) := e.nodes.filterMap cast?

/-- The casts in expressions. -/
def listCasts (es : List Expr) : List (CastKind × TypeRef) := es.flatMap casts

theorem listCasts_append (es fs : List Expr) :
    listCasts (es ++ fs) = listCasts es ++ listCasts fs := List.flatMap_append

theorem casts_cast (kind : CastKind) (operand : Expr) (target : TypeRef) (style : Option Expr) :
    (cast kind operand target style).casts =
      (kind, target) :: (operand.casts ++ listCasts style.toList) := by
  have hstyle : (optionNodes style).filterMap cast? = listCasts style.toList := by
    rw [optionNodes_eq_flatMap]
    exact List.filterMap_flatMap
  rw [casts, nodes, ← hstyle]
  exact congrArg ((kind, target) :: ·) List.filterMap_append

theorem casts_binary (op : BinaryOp) (left right : Expr) :
    (binary op left right).casts = left.casts ++ right.casts := by
  rw [casts, nodes]
  exact List.filterMap_append

theorem casts_call (path : List String) (args : List Expr) :
    (call path args).casts = listCasts args := by
  rw [casts, nodes, listNodes_eq_flatMap]
  exact List.filterMap_flatMap

theorem casts_parts (items : List Expr) : (parts items).casts = listCasts items := by
  rw [casts, nodes, listNodes_eq_flatMap]
  exact List.filterMap_flatMap

end Expr

/-! ## Sites -/

/-- A place that may draw a remark whatever has been declared. -/
inductive Site where
  | cast (kind : CastKind) (target : TypeRef)
  /-- A variable or parameter is given a type. -/
  | typed (v : Variable) (type : TypeRef)
  /-- A procedure ends; `quiet` tells whether its body switches row counts off. -/
  | procedure (name : String) (line : Nat) (quiet : Bool)
  deriving DecidableEq, Repr

namespace Site

/-- The remark on a site. -/
def remark? : Site → Option Diagnostic
  | cast kind target =>
    if (DataType.ofRef target).isUnsizedString then
      some (.convertWithoutLength target.line kind.keyword.text target.name)
    else none
  | typed v type =>
    if (DataType.ofRef type).isUnsizedString then some (.implicitLength v.line v.name) else none
  | procedure name line quiet =>
    if quiet then none else some (.procedureWithoutNoCount line name)

/-- The cast at a site. -/
def cast? : Site → Option (CastKind × TypeRef)
  | cast kind target => some (kind, target)
  | _ => none

/-- The variable and its type at a site. -/
def typed? : Site → Option (Variable × TypeRef)
  | typed v type => some (v, type)
  | _ => none

/-- The name and the line of a procedure that leaves row counts on. -/
def uncounted? : Site → Option (String × Nat)
  | procedure name line false => some (name, line)
  | _ => none

/-- The sites of casts. -/
def ofCasts (cs : List (CastKind × TypeRef)) : List Site := cs.map fun c => cast c.1 c.2

theorem ofCasts_append (cs ds : List (CastKind × TypeRef)) :
    ofCasts (cs ++ ds) = ofCasts cs ++ ofCasts ds := List.map_append

theorem filterMap_cast?_ofCasts (cs : List (CastKind × TypeRef)) :
    (ofCasts cs).filterMap cast? = cs := by
  rw [ofCasts, List.filterMap_map]
  exact List.filterMap_some

end Site

/-- A declaration with a type, then what is in its initial value. -/
def Declaration.sites : Declaration → List Site
  | scalar name type value => .typed name type :: Site.ofCasts (Expr.listCasts value.toList)
  | table _ => []

/-- A parameter, then what is in its default. -/
def Parameter.sites (p : Parameter) : List Site :=
  .typed p.name p.type :: Site.ofCasts (Expr.listCasts p.default.toList)

namespace Statement

mutual

/-- The sites of a statement. -/
def sites : Statement → List Site
  | declare items => items.flatMap Declaration.sites
  | setVariable _ _ value => Site.ofCasts value.casts
  | setOption _ _ _ => []
  | procedure name line parameters body =>
    parameters.flatMap Parameter.sites ++ listSites body ++
      [.procedure (baseName name) line (listSetsNocount body)]
  | function _ _ parameters _ body => parameters.flatMap Parameter.sites ++ listSites body
  | execute call => Site.ofCasts (Expr.listCasts call.exprs)
  | block body => listSites body
  | conditional condition body otherwise =>
    Site.ofCasts condition.casts ++ body.sites ++ optionSites otherwise
  | returns value => Site.ofCasts (Expr.listCasts value.toList)
  | other items => Site.ofCasts (Expr.listCasts items)

/-- The sites of statements in a row. -/
def listSites : List Statement → List Site
  | [] => []
  | s :: ss => s.sites ++ listSites ss

/-- The sites of a statement that may be missing. -/
def optionSites : Option Statement → List Site
  | none => []
  | some s => s.sites

end

/-- The variables and parameters that are given a type, in the order of a visit. -/
def listTyped (ss : List Statement) : List (Variable × TypeRef) :=
  (listSites ss).filterMap Site.typed?

/-- The names and lines of the procedures that leave row counts on, in the order of their ends. -/
def listUncounted (ss : List Statement) : List (String × Nat) :=
  (listSites ss).filterMap Site.uncounted?

end Statement

/-- No procedure ends among parameters. -/
theorem Parameter.filterMap_uncounted?_sites (ps : List Parameter) :
    (ps.flatMap sites).filterMap Site.uncounted? = [] := by
  refine List.filterMap_eq_nil_iff.2 fun site hsite => ?_
  obtain ⟨p, -, hsite⟩ := List.mem_flatMap.1 hsite
  rcases List.mem_cons.1 hsite with rfl | hsite
  · rfl
  · obtain ⟨c, -, rfl⟩ := List.mem_map.1 hsite
    rfl

/-! ## Casts among the sites -/

theorem Declaration.filterMap_cast?_sites (d : Declaration) :
    d.sites.filterMap Site.cast? = Expr.listCasts d.exprs := by
  cases d with
  | table name => rfl
  | scalar name type value => exact Site.filterMap_cast?_ofCasts _

theorem Parameter.filterMap_cast?_sites (ps : List Parameter) :
    (ps.flatMap sites).filterMap Site.cast? = Expr.listCasts (ps.flatMap (·.default.toList)) := by
  rw [Expr.listCasts, List.filterMap_flatMap, List.flatMap_assoc]
  exact congrArg ps.flatMap (funext fun p => Site.filterMap_cast?_ofCasts _)

namespace Statement

mutual

theorem filterMap_cast?_sites : ∀ s : Statement,
    s.sites.filterMap Site.cast? = Expr.listCasts s.exprs
  | declare items => by
    rw [sites, exprs, Expr.listCasts, List.filterMap_flatMap, List.flatMap_assoc]
    exact congrArg items.flatMap (funext Declaration.filterMap_cast?_sites)
  | setVariable _ _ value =>
    (Site.filterMap_cast?_ofCasts value.casts).trans (List.append_nil _).symm
  | setOption _ _ _ => rfl
  | procedure _ _ parameters body => by
    rw [sites, exprs, List.filterMap_append, List.filterMap_append,
      Parameter.filterMap_cast?_sites, filterMap_cast?_listSites body, Expr.listCasts_append]
    exact List.append_nil _
  | function _ _ parameters _ body => by
    rw [sites, exprs, List.filterMap_append, Parameter.filterMap_cast?_sites,
      filterMap_cast?_listSites body, Expr.listCasts_append]
  | execute call => Site.filterMap_cast?_ofCasts _
  | block body => filterMap_cast?_listSites body
  | conditional condition body otherwise => by
    rw [sites, exprs, List.filterMap_append, List.filterMap_append, Site.filterMap_cast?_ofCasts,
      filterMap_cast?_sites body, filterMap_cast?_optionSites otherwise, List.append_assoc,
      ← Expr.listCasts_append]
    rfl
  | returns value => Site.filterMap_cast?_ofCasts _
  | other items => Site.filterMap_cast?_ofCasts _

/-- Every cast in every expression is a site, once and in its place. -/
theorem filterMap_cast?_listSites : ∀ ss : List Statement,
    (listSites ss).filterMap Site.cast? = Expr.listCasts (listExprs ss)
  | [] => rfl
  | s :: ss => by
    rw [listSites, listExprs, List.filterMap_append, filterMap_cast?_sites s,
      filterMap_cast?_listSites ss, Expr.listCasts_append]

theorem filterMap_cast?_optionSites : ∀ o : Option Statement,
    (optionSites o).filterMap Site.cast? = Expr.listCasts (optionExprs o)
  | none => rfl
  | some s => filterMap_cast?_sites s

end

end Statement

end SqlLint
