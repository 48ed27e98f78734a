import SqlLint.Syntax.Error
import SqlLint.Syntax.Statement

/-!
# Giving lines other numbers

Lexemes, trees and errors carry the numbers of the lines they come from. `renumber f` replaces
every such number `n` by `f n` and touches nothing else: no name, no text and no length is ever
taken for a line.

The functions are the vocabulary of two kinds of statement. One says that a script whose lines are
numbered in another way is read in the same way. The other compares two runs over the same lexemes,
and there `f` is the identity; `renumber_id` says that nothing has changed then.

## Main definitions

* `Lexeme.renumber`, `SyntaxError.renumber`: what goes into a reader and what is recorded by it
* `Expr.renumber`, `Statement.renumber`, `Batch.renumber`: what comes out of it
-/

namespace SqlLint

/-! ## Lexemes -/

namespace Lexeme

/-- The lexeme with another number for its line. Whether it is the first of its line stays. -/
def renumber (f : Nat → Nat) (l : Lexeme) : Lexeme := { l with line := f l.line }

variable (f : Nat → Nat) (l : Lexeme)

@[simp] theorem token_renumber : (l.renumber f).token = l.token := rfl

@[simp] theorem line_renumber : (l.renumber f).line = f l.line := rfl

@[simp] theorem dispatch?_renumber : (l.renumber f).dispatch? = l.dispatch? := rfl

@[simp] theorem isKeyword_renumber (k : Keyword) :
    (l.renumber f).isKeyword k = l.isKeyword k := rfl

@[simp] theorem isMark_renumber (m : Mark) : (l.renumber f).isMark m = l.isMark m := rfl

@[simp] theorem startsStatement_renumber :
    (l.renumber f).startsStatement = l.startsStatement := rfl

@[simp] theorem namePart?_renumber : (l.renumber f).namePart? = l.namePart? := rfl

@[simp] theorem renumber_id_eq_id : renumber id = id := rfl

end Lexeme

/-- The error with another number for its line. -/
def SyntaxError.renumber (f : Nat → Nat) : SyntaxError → SyntaxError
  | lexical line fault => lexical (f line) fault
  | unexpected line near => unexpected (f line) near
  | expected line what found => expected (f line) what found
  | unsupported line feature version => unsupported (f line) feature version
  | tooDeep line => tooDeep (f line)

theorem SyntaxError.line_renumber (f : Nat → Nat) (e : SyntaxError) :
    (e.renumber f).line = f e.line := by
  cases e <;> rfl

@[simp] theorem SyntaxError.renumber_id (e : SyntaxError) : e.renumber id = e := by
  cases e <;> rfl

/-! ## Expressions -/

/-- The variable with another number for its line. -/
def Variable.renumber (f : Nat → Nat) (v : Variable) : Variable := { v with line := f v.line }

/-- The type reference with another number for its line. -/
def TypeRef.renumber (f : Nat → Nat) (t : TypeRef) : TypeRef := { t with line := f t.line }

namespace Expr

mutual

/-- The expression with other numbers for its lines. -/
def renumber (f : Nat → Nat) : Expr → Expr
  | var v => var (v.renumber f)
  | string text national => string text national
  | number digits => number digits
  | null => null
  | name path => name path
  | cast kind operand target style =>
    cast kind (operand.renumber f) (target.renumber f) (optionRenumber f style)
  | binary op left right => binary op (left.renumber f) (right.renumber f)
  | unary op operand => unary op (operand.renumber f)
  | paren inner => paren (inner.renumber f)
  | call path args => call path (listRenumber f args)
  | parts items => parts (listRenumber f items)

/-- The expressions with other numbers for their lines. -/
def listRenumber (f : Nat → Nat) : List Expr → List Expr
  | [] => []
  | e :: es => e.renumber f :: listRenumber f es

/-- An expression that may be missing, with other numbers for its lines. -/
def optionRenumber (f : Nat → Nat) : Option Expr → Option Expr
  | none => none
  | some e => some (e.renumber f)

end

@[simp] theorem listRenumber_eq_map (f : Nat → Nat) (es : List Expr) :
    listRenumber f es = es.map (renumber f) := by
  induction es with
  | nil => rfl
  | cons e es ih => rw [listRenumber, ih, List.map_cons]

@[simp] theorem optionRenumber_eq_map (f : Nat → Nat) (o : Option Expr) :
    optionRenumber f o = o.map (renumber f) := by
  cases o <;> rfl

mutual

@[simp] theorem renumber_id : ∀ e : Expr, e.renumber id = e
  | var _ => rfl
  | string _ _ => rfl
  | number _ => rfl
  | null => rfl
  | name _ => rfl
  | cast kind operand target style => by
    rw [renumber, renumber_id operand, optionRenumber_id style]; rfl
  | binary op left right => by rw [renumber, renumber_id left, renumber_id right]
  | unary op operand => by rw [renumber, renumber_id operand]
  | paren inner => by rw [renumber, renumber_id inner]
  | call _ args => by rw [renumber, listRenumber_id args]
  | parts items => by rw [renumber, listRenumber_id items]

theorem listRenumber_id : ∀ es : List Expr, listRenumber id es = es
  | [] => rfl
  | e :: es => by rw [listRenumber, renumber_id e, listRenumber_id es]

theorem optionRenumber_id : ∀ o : Option Expr, optionRenumber id o = o
  | none => rfl
  | some e => by rw [optionRenumber, renumber_id e]

end

@[simp] theorem renumber_id_eq_id : renumber id = id := funext renumber_id

end Expr

/-! ## The parts of statements -/

/-- The declaration with other numbers for its lines. -/
def Declaration.renumber (f : Nat → Nat) : Declaration → Declaration
  | scalar name type value =>
    scalar (name.renumber f) (type.renumber f) (value.map (Expr.renumber f))
  | table name => table (name.renumber f)

/-- The parameter with other numbers for its lines. -/
def Parameter.renumber (f : Nat → Nat) (p : Parameter) : Parameter where
  name := p.name.renumber f
  type := p.type.renumber f
  default := p.default.map (Expr.renumber f)
  output := p.output

/-- The argument with other numbers for its lines. -/
def Argument.renumber (f : Nat → Nat) (a : Argument) : Argument where
  name := a.name.map (Variable.renumber f)
  value := a.value.map (Expr.renumber f)
  output := a.output

/-- The call with other numbers for its lines. -/
def Execution.renumber (f : Nat → Nat) (e : Execution) : Execution where
  line := f e.line
  status := e.status.map (Variable.renumber f)
  procedure := e.procedure.renumber f
  arguments := e.arguments.map (Argument.renumber f)

@[simp] theorem Variable.renumber_id_eq_id : Variable.renumber id = id := rfl

@[simp] theorem Declaration.renumber_id (d : Declaration) : d.renumber id = d := by
  cases d with
  | scalar name type value => simp [renumber, Variable.renumber, TypeRef.renumber]
  | table name => rfl

@[simp] theorem Parameter.renumber_id (p : Parameter) : p.renumber id = p := by
  simp [renumber, Variable.renumber, TypeRef.renumber]

@[simp] theorem Argument.renumber_id (a : Argument) : a.renumber id = a := by
  simp [renumber]

@[simp] theorem Execution.renumber_id (e : Execution) : e.renumber id = e := by
  simp [renumber, funext Argument.renumber_id]

/-! ## Statements -/

namespace Statement

mutual

/-- The statement with other numbers for its lines. -/
def renumber (f : Nat → Nat) : Statement → Statement
  | declare items => declare (items.map (Declaration.renumber f))
  | setVariable target op value => setVariable (target.renumber f) op (value.renumber f)
  | setOption line options on => setOption (f line) options on
  | procedure name line parameters body =>
    procedure name (f line) (parameters.map (Parameter.renumber f)) (listRenumber f body)
  | function name line parameters result body =>
    function name (f line) (parameters.map (Parameter.renumber f))
      (result.map (Variable.renumber f)) (listRenumber f body)
  | execute call => execute (call.renumber f)
  | block body => block (listRenumber f body)
  | conditional condition body otherwise =>
    conditional (condition.renumber f) (body.renumber f) (optionRenumber f otherwise)
  | returns value => returns (value.map (Expr.renumber f))
  | other items => other (items.map (Expr.renumber f))

/-- The statements with other numbers for their lines. -/
def listRenumber (f : Nat → Nat) : List Statement → List Statement
  | [] => []
  | s :: ss => s.renumber f :: listRenumber f ss

/-- A statement that may be missing, with other numbers for its lines. -/
def optionRenumber (f : Nat → Nat) : Option Statement → Option Statement
  | none => none
  | some s => some (s.renumber f)

end

@[simp] theorem listRenumber_eq_map (f : Nat → Nat) (ss : List Statement) :
    listRenumber f ss = ss.map (renumber f) := by
  induction ss with
  | nil => rfl
  | cons s ss ih => rw [listRenumber, ih, List.map_cons]

@[simp] theorem optionRenumber_eq_map (f : Nat → Nat) (o : Option Statement) :
    optionRenumber f o = o.map (renumber f) := by
  cases o <;> rfl

mutual

@[simp] theorem renumber_id : ∀ s : Statement, s.renumber id = s
  | declare items => by simp [renumber, funext Declaration.renumber_id]
  | setVariable _ _ _ => by simp [renumber]
  | setOption _ _ _ => rfl
  | procedure _ _ parameters body => by
    rw [renumber, listRenumber_id body]
    simp [funext Parameter.renumber_id]
  | function _ _ parameters _ body => by
    rw [renumber, listRenumber_id body]
    simp [funext Parameter.renumber_id]
  | execute _ => by simp [renumber]
  | block body => by rw [renumber, listRenumber_id body]
  | conditional _ body otherwise => by
    rw [renumber, renumber_id body, optionRenumber_id otherwise, Expr.renumber_id]
  | returns _ => by simp [renumber]
  | other _ => by simp [renumber]

theorem listRenumber_id : ∀ ss : List Statement, listRenumber id ss = ss
  | [] => rfl
  | s :: ss => by rw [listRenumber, renumber_id s, listRenumber_id ss]

theorem optionRenumber_id : ∀ o : Option Statement, optionRenumber id o = o
  | none => rfl
  | some s => by rw [optionRenumber, renumber_id s]

end

@[simp] theorem renumber_id_eq_id : renumber id = id := funext renumber_id

end Statement

/-- The batch with other numbers for its lines. -/
def Batch.renumber (f : Nat → Nat) (b : Batch) : Batch where
  line := f b.line
  statements := b.statements.map (Statement.renumber f)

@[simp] theorem Batch.renumber_id (b : Batch) : b.renumber id = b := by
  simp [renumber]

end SqlLint
