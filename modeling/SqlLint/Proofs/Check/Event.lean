import Mathlib.Data.List.DropRight
import Mathlib.Data.List.Nodup
import SqlLint.Check.Walk
import SqlLint.Proofs.Syntax.Variables

/-!
# What a batch does with its variables

The checks go through a batch once, with a table that changes on the way. What they say about
variables depends on less than the tree: on the *events* of the batch, that is, on which names it
declares and looks up, and in which order. This module flattens a batch into its events and says
on the list of events alone which uses come too early and which declarations go without a use.

None of the definitions mentions the table of symbols or the state of the checks. A use comes too
early if no event *before its place* declares its key, which is a look at the list up to there and
not a state carried along. A key goes without a use if no event *behind the last declaration* of
it uses it.

## Which variables are looked up

Names of the server's own variables are not, wherever they stand. In an argument `@p = value`,
neither are those occurrences inside the value that spell `@p` in any ASCII case. The name of the
argument itself is a name of the called procedure's and no event at all.

## Main definitions

* `Event`, `Statement.events`: the declarations and uses of a statement in the order of the visit
* `Event.undeclaredUses`: the uses before which their key is not declared
* `Event.unusedVariables`: the last declarations of the keys that are not used behind them
-/

namespace SqlLint

/-- The key under which a variable is declared and looked up. -/
def Variable.key (v : Variable) : String := SymbolTable.key v.name

/-- Whether a variable is looked up where it is used; `parameter` is the name of the argument in
whose value it stands. -/
def Variable.isLookedUp (parameter : Option String) (v : Variable) : Bool :=
  !v.isGlobal && !(parameter.any fun p => Text.equalFold p v.name)

/-- A variable is declared, or it is looked up. -/
inductive Event where
  | declare (v : Variable)
  | use (v : Variable)
  deriving DecidableEq, Repr

namespace Event

/-- The variable that the event declares. -/
def declared? : Event → Option Variable
  | declare v => some v
  | use _ => none

/-- The variable that the event uses. -/
def used? : Event → Option Variable
  | declare _ => none
  | use v => some v

/-- Whether the event declares a key. -/
def declares (k : String) : Event → Bool
  | declare v => v.key == k
  | use _ => false

/-- Whether the event uses a key. -/
def uses (k : String) : Event → Bool
  | declare _ => false
  | use v => v.key == k

/-- The uses among variables written in an expression. -/
def ofVariables (parameter : Option String) (vs : List Variable) : List Event :=
  (vs.filter (Variable.isLookedUp parameter)).map use

theorem ofVariables_append (parameter : Option String) (vs ws : List Variable) :
    ofVariables parameter (vs ++ ws) = ofVariables parameter vs ++ ofVariables parameter ws := by
  rw [ofVariables, List.filter_append, List.map_append]; rfl

end Event

/-! ## The events of a tree -/

/-- A declaration declares its name first, so that its initial value may use it. -/
def Declaration.events : Declaration → List Event
  | scalar name _ value => .declare name :: Event.ofVariables none (Expr.optionVars value)
  | table name => [.declare name]

/-- A parameter declares its name first, like any declaration. -/
def Parameter.events (p : Parameter) : List Event :=
  .declare p.name :: Event.ofVariables none (Expr.optionVars p.default)

/-- An argument uses what its value does; its name is the called procedure's. -/
def Argument.events (a : Argument) : List Event :=
  Event.ofVariables (a.name.map (·.name)) (Expr.optionVars a.value)

/-- A call uses the variable for its status, that of the procedure and those of its arguments. -/
def Execution.events (e : Execution) : List Event :=
  Event.ofVariables none (e.status.toList ++ e.procedure.vars) ++
    e.arguments.flatMap Argument.events

namespace Statement

mutual

/-- The events of a statement. -/
def events : Statement → List Event
  | declare items => items.flatMap Declaration.events
  | setVariable target _ value => Event.ofVariables none (target :: value.vars)
  | setOption _ _ _ => []
  | procedure _ _ parameters body => parameters.flatMap Parameter.events ++ listEvents body
  | function _ _ parameters result body =>
    parameters.flatMap Parameter.events ++ result.toList.map Event.declare ++ listEvents body
  | execute call => call.events
  | block body => listEvents body
  | conditional condition body otherwise =>
    Event.ofVariables none condition.vars ++ body.events ++ optionEvents otherwise
  | returns value => Event.ofVariables none (Expr.optionVars value)
  | other items => Event.ofVariables none (Expr.listVars items)

/-- The events of statements in a row. -/
def listEvents : List Statement → List Event
  | [] => []
  | s :: ss => s.events ++ listEvents ss

/-- The events of a statement that may be missing. -/
def optionEvents : Option Statement → List Event
  | none => []
  | some s => s.events

end

end Statement

/-! ## What the events say -/

/-- One more key is added at the end, unless it is there already. -/
theorem eraseDups_concat (ks : List String) (k : String) :
    (ks ++ [k]).eraseDups = if k ∈ ks.eraseDups then ks.eraseDups else ks.eraseDups ++ [k] := by
  rw [List.eraseDups_append]
  by_cases h : k ∈ ks
  · simp [h, List.removeAll]
  · simp [h, List.removeAll, List.eraseDups_cons]

theorem nodup_eraseDups (ks : List String) : ks.eraseDups.Nodup := by
  induction ks using List.reverseRecOn with
  | nil => exact List.nodup_nil
  | append_singleton ks k ih =>
    rw [eraseDups_concat]
    split
    · exact ih
    · next hk => exact List.nodup_append.2 ⟨ih, List.nodup_singleton _, by grind⟩

namespace Event

/-- The uses before whose place no event declares their key, in order. -/
def undeclaredUses (es : List Event) : List Variable :=
  es.zipIdx.filterMap fun (e, i) => e.used?.filter fun v => !(es.take i).any (declares v.key)

/-- The keys that are declared, in the order of their first declarations. -/
def declaredKeys (es : List Event) : List String :=
  ((es.filterMap declared?).map Variable.key).eraseDups

/-- The last declaration of a key. -/
def lastDeclaration? (k : String) (es : List Event) : Option Variable :=
  ((es.filterMap declared?).filter fun v => v.key == k).getLast?

/-- Whether a key is used behind its last declaration. -/
def usedSince (k : String) (es : List Event) : Bool :=
  (es.rtakeWhile fun e => !e.declares k).any (uses k)

/-- The last declaration of every key that is not used behind it, in the order of the keys' first
declarations. -/
def unusedVariables (es : List Event) : List Variable :=
  (declaredKeys es).filterMap fun k => if usedSince k es then none else lastDeclaration? k es

/-! ### One more event

The invariant of a visit is preserved event by event, so each notion is given at a list with one
event more. -/

@[simp] theorem undeclaredUses_nil : undeclaredUses [] = [] := rfl

theorem undeclaredUses_concat (es : List Event) (e : Event) :
    undeclaredUses (es ++ [e]) =
      undeclaredUses es ++ (e.used?.filter fun v => !es.any (declares v.key)).toList := by
  have hold : (es.zipIdx.filterMap fun (e', i) =>
      e'.used?.filter fun v => !((es ++ [e]).take i).any (declares v.key)) = undeclaredUses es := by
    refine List.filterMap_congr fun ⟨e', i⟩ h => ?_
    have hi : i ≤ es.length := by
      have := (List.mem_zipIdx h).2.1
      omega
    simp only [List.take_append_of_le_length hi]
  have hnew : (es ++ [e]).take (0 + es.length) = es := by simp
  rw [undeclaredUses, List.zipIdx_append, List.filterMap_append, hold, List.zipIdx_singleton]
  congr 1
  cases h : e.used?.filter fun v => !es.any (declares v.key) with
  | none => simp only [List.filterMap_cons, hnew, h, List.filterMap_nil, Option.toList_none]
  | some v => simp only [List.filterMap_cons, hnew, h, List.filterMap_nil, Option.toList_some]

theorem undeclaredUses_declare (es : List Event) (v : Variable) :
    undeclaredUses (es ++ [declare v]) = undeclaredUses es := by
  rw [undeclaredUses_concat]
  exact List.append_nil _

theorem undeclaredUses_use (es : List Event) (v : Variable) :
    undeclaredUses (es ++ [use v]) =
      if es.any (declares v.key) then undeclaredUses es else undeclaredUses es ++ [v] := by
  rw [undeclaredUses_concat, used?]
  by_cases h : es.any (declares v.key)
  · rw [if_pos h, Option.filter_some_neg (by simpa using h)]
    exact List.append_nil _
  · rw [if_neg h, Option.filter_some_pos (by simpa using h)]
    rfl

theorem declarations_use (es : List Event) (v : Variable) :
    (es ++ [use v]).filterMap declared? = es.filterMap declared? := by
  rw [List.filterMap_append]
  exact List.append_nil _

@[simp] theorem declaredKeys_nil : declaredKeys [] = [] := rfl

theorem declaredKeys_declare (es : List Event) (v : Variable) :
    declaredKeys (es ++ [declare v]) =
      if v.key ∈ declaredKeys es then declaredKeys es else declaredKeys es ++ [v.key] := by
  rw [declaredKeys, List.filterMap_append, List.map_append]
  exact eraseDups_concat _ v.key

theorem declaredKeys_use (es : List Event) (v : Variable) :
    declaredKeys (es ++ [use v]) = declaredKeys es := by
  rw [declaredKeys, declarations_use]; rfl

@[simp] theorem lastDeclaration?_nil (k : String) : lastDeclaration? k [] = none := rfl

theorem lastDeclaration?_declare (k : String) (es : List Event) (v : Variable) :
    lastDeclaration? k (es ++ [declare v]) =
      if v.key = k then some v else lastDeclaration? k es := by
  by_cases h : v.key = k <;> simp [lastDeclaration?, declared?, h]

theorem lastDeclaration?_use (k : String) (es : List Event) (v : Variable) :
    lastDeclaration? k (es ++ [use v]) = lastDeclaration? k es := by
  rw [lastDeclaration?, declarations_use]; rfl

theorem usedSince_declare (k : String) (es : List Event) (v : Variable) :
    usedSince k (es ++ [declare v]) = if v.key = k then false else usedSince k es := by
  by_cases h : v.key = k <;> simp [usedSince, declares, uses, h]

theorem usedSince_use (k : String) (es : List Event) (v : Variable) :
    usedSince k (es ++ [use v]) = (usedSince k es || v.key == k) := by
  simp [usedSince, declares, uses]

/-- A key has a last declaration exactly if some event declares it. -/
theorem isSome_lastDeclaration? (k : String) (es : List Event) :
    (lastDeclaration? k es).isSome = es.any (declares k) := by
  induction es using List.reverseRecOn with
  | nil => rfl
  | append_singleton es e ih =>
    cases e with
    | declare v =>
      rw [lastDeclaration?_declare]
      by_cases h : v.key = k <;> simp [h, ih, declares]
    | use v =>
      rw [lastDeclaration?_use, ih]
      simp [declares]

end Event

end SqlLint
