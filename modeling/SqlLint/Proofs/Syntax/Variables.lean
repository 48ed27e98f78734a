import SqlLint.Syntax.Statement

/-!
# The variables of a tree

Every variable written in a tree, in the order in which the tree is visited: a declaration comes
before its initial value, a target before what is assigned to it, the name of an argument before
its value, a condition before the branches and the parameters of a routine before its body. The
operand of a cast comes before its style.

The list forgets what a variable is written for. Which of them declare a name and which look one
up is a matter of the checks and is told apart there; the order is the same.

## Main definitions

* `Expr.vars`, `Statement.vars`: the variables of an expression and of a statement
* `Statement.listVars`: the variables of a list of statements, such as a batch
-/

namespace SqlLint

/-! ## Expressions -/

namespace Expr

mutual

/-- The variables of an expression. -/
def vars : Expr → List Variable
  | var v => [v]
  | cast _ operand _ style => operand.vars ++ optionVars style
  | binary _ left right => left.vars ++ right.vars
  | unary _ operand => operand.vars
  | paren inner => inner.vars
  | call _ args => listVars args
  | parts items => listVars items
  | string _ _ => []
  | number _ => []
  | null => []
  | name _ => []

/-- The variables of expressions in a row. -/
def listVars : List Expr → List Variable
  | [] => []
  | e :: es => e.vars ++ listVars es

/-- The variables of an expression that may be missing. -/
def optionVars : Option Expr → List Variable
  | none => []
  | some e => e.vars

end

@[simp] theorem listVars_append (es fs : List Expr) :
    listVars (es ++ fs) = listVars es ++ listVars fs := by
  induction es with
  | nil => rfl
  | cons e es ih => rw [List.cons_append, listVars, listVars, ih, List.append_assoc]

theorem listVars_eq_flatMap (es : List Expr) : listVars es = es.flatMap vars := by
  induction es with
  | nil => rfl
  | cons e es ih => rw [listVars, ih, List.flatMap_cons]

end Expr

/-! ## The parts of statements -/

/-- The variables of a declaration. -/
def Declaration.vars : Declaration → List Variable
  | scalar name _ value => name :: Expr.optionVars value
  | table name => [name]

/-- The variables of a parameter. -/
def Parameter.vars (p : Parameter) : List Variable :=
  p.name :: Expr.optionVars p.default

/-- The variables of an argument: the parameter it names, then those of its value. -/
def Argument.vars (a : Argument) : List Variable :=
  a.name.toList ++ Expr.optionVars a.value

/-- The variables of a call. -/
def Execution.vars (e : Execution) : List Variable :=
  e.status.toList ++ e.procedure.vars ++ e.arguments.flatMap Argument.vars

/-! ## Statements -/

namespace Statement

mutual

/-- The variables of a statement. -/
def vars : Statement → List Variable
  | declare items => items.flatMap Declaration.vars
  | setVariable target _ value => target :: value.vars
  | setOption _ _ _ => []
  | procedure _ _ parameters body => parameters.flatMap Parameter.vars ++ listVars body
  | function _ _ parameters result body =>
    parameters.flatMap Parameter.vars ++ result.toList ++ listVars body
  | execute call => call.vars
  | block body => listVars body
  | conditional condition body otherwise =>
    condition.vars ++ body.vars ++ optionVars otherwise
  | returns value => Expr.optionVars value
  | other items => Expr.listVars items

/-- The variables of statements in a row. -/
def listVars : List Statement → List Variable
  | [] => []
  | s :: ss => s.vars ++ listVars ss

/-- The variables of a statement that may be missing. -/
def optionVars : Option Statement → List Variable
  | none => []
  | some s => s.vars

end

@[simp] theorem listVars_append (ss ts : List Statement) :
    listVars (ss ++ ts) = listVars ss ++ listVars ts := by
  induction ss with
  | nil => rfl
  | cons s ss ih => rw [List.cons_append, listVars, listVars, ih, List.append_assoc]

end Statement

end SqlLint
