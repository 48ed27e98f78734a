import SqlLint.Check.SymbolTable
import SqlLint.Syntax.Statement

/-!
# Spelling variables in another way

`respell g` replaces the name of every variable in a tree by what `g` makes of it: of those that are
declared, of those that are used, and of the names of arguments. Nothing else changes, so the names
of procedures, columns and types stay, and so does the line of every variable.

With `g` the key of a name, a tree becomes its *plain* form, in which all variables are in lower
case. Two trees with the same plain form differ in the spelling of variables at most. Each place may
have been spelled in its own way, as long as its lower case is the same in both.

## Main definitions

* `Expr.respell`, `Statement.respell`, `Batch.respell`: trees with other names for their variables
* `Batch.plain`: a batch with its variables in lower case
-/

namespace SqlLint

/-- The variable with another name. -/
def Variable.respell (g : String → String) (v : Variable) : Variable := { v with name := g v.name }

/-! ## Expressions -/

namespace Expr

mutual

/-- The expression with other names for its variables. -/
def respell (g : String → String) : Expr → Expr
  | var v => var (v.respell g)
  | string text national => string text national
  | number digits => number digits
  | null => null
  | name path => name path
  | cast kind operand target style =>
    cast kind (operand.respell g) target (optionRespell g style)
  | binary op left right => binary op (left.respell g) (right.respell g)
  | unary op operand => unary op (operand.respell g)
  | paren inner => paren (inner.respell g)
  | call path args => call path (listRespell g args)
  | parts items => parts (listRespell g items)

/-- The expressions with other names for their variables. -/
def listRespell (g : String → String) : List Expr → List Expr
  | [] => []
  | e :: es => e.respell g :: listRespell g es

/-- An expression that may be missing, with other names for its variables. -/
def optionRespell (g : String → String) : Option Expr → Option Expr
  | none => none
  | some e => some (e.respell g)

end

end Expr

/-! ## The parts of statements -/

/-- The declaration with other names for its variables. -/
def Declaration.respell (g : String → String) : Declaration → Declaration
  | scalar name type value => scalar (name.respell g) type (Expr.optionRespell g value)
  | table name => table (name.respell g)

/-- The parameter with other names for its variables. -/
def Parameter.respell (g : String → String) (p : Parameter) : Parameter where
  name := p.name.respell g
  type := p.type
  default := Expr.optionRespell g p.default
  output := p.output

/-- The argument with other names for its variables. Its own name is spelled like one. -/
def Argument.respell (g : String → String) (a : Argument) : Argument where
  name := a.name.map (Variable.respell g)
  value := Expr.optionRespell g a.value
  output := a.output

/-- The call with other names for its variables. -/
def Execution.respell (g : String → String) (e : Execution) : Execution where
  line := e.line
  status := e.status.map (Variable.respell g)
  procedure := e.procedure.respell g
  arguments := e.arguments.map (Argument.respell g)

/-! ## Statements -/

namespace Statement

mutual

/-- The statement with other names for its variables. -/
def respell (g : String → String) : Statement → Statement
  | declare items => declare (items.map (Declaration.respell g))
  | setVariable target op value => setVariable (target.respell g) op (value.respell g)
  | setOption line options on => setOption line options on
  | procedure name line parameters body =>
    procedure name line (parameters.map (Parameter.respell g)) (listRespell g body)
  | function name line parameters result body =>
    function name line (parameters.map (Parameter.respell g)) (result.map (Variable.respell g))
      (listRespell g body)
  | execute call => execute (call.respell g)
  | block body => block (listRespell g body)
  | conditional condition body otherwise =>
    conditional (condition.respell g) (body.respell g) (optionRespell g otherwise)
  | returns value => returns (Expr.optionRespell g value)
  | other items => other (Expr.listRespell g items)

/-- The statements with other names for their variables. -/
def listRespell (g : String → String) : List Statement → List Statement
  | [] => []
  | s :: ss => s.respell g :: listRespell g ss

/-- A statement that may be missing, with other names for its variables. -/
def optionRespell (g : String → String) : Option Statement → Option Statement
  | none => none
  | some s => some (s.respell g)

end

end Statement

/-- The batch with other names for its variables. -/
def Batch.respell (g : String → String) (b : Batch) : Batch where
  line := b.line
  statements := Statement.listRespell g b.statements

/-- The batch with its variables in lower case. -/
def Batch.plain (b : Batch) : Batch := b.respell SymbolTable.key

end SqlLint
