import SqlLint.Syntax.Expr

/-!
# The nodes of an expression

All expressions in an expression, itself included, in the order in which a reader comes to them: a
node before its operands, the left operand before the right one, and the operand of a cast before
its style.

## Main definitions

* `Expr.nodes`: all expressions in an expression, itself included
-/

namespace SqlLint

namespace Expr

mutual

/-- The expression and all expressions in it. -/
def nodes : Expr → List Expr
  | cast kind operand target style =>
    cast kind operand target style :: (operand.nodes ++ optionNodes style)
  | binary op left right => binary op left right :: (left.nodes ++ right.nodes)
  | unary op operand => unary op operand :: operand.nodes
  | paren inner => paren inner :: inner.nodes
  | call path args => call path args :: listNodes args
  | parts items => parts items :: listNodes items
  | var v => [var v]
  | string text national => [string text national]
  | number digits => [number digits]
  | null => [null]
  | name path => [name path]

/-- The expressions and all expressions in them. -/
def listNodes : List Expr → List Expr
  | [] => []
  | e :: es => e.nodes ++ listNodes es

/-- An expression that may be missing, and all expressions in it. -/
def optionNodes : Option Expr → List Expr
  | none => []
  | some e => e.nodes

end

theorem listNodes_eq_flatMap (es : List Expr) : listNodes es = es.flatMap nodes := by
  induction es with
  | nil => rfl
  | cons e es ih => rw [listNodes, ih, List.flatMap_cons]

theorem optionNodes_eq_flatMap (o : Option Expr) : optionNodes o = o.toList.flatMap nodes := by
  cases o with
  | none => rfl
  | some e => exact (List.append_nil _).symm

end Expr

end SqlLint
