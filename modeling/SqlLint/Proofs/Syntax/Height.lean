import SqlLint.Syntax.Statement

/-!
# How deep a tree is

A function that goes down a tree by calling itself needs as much of the stack as the tree is high.
The height of an expression counts every step down from a node to one of its operands.

Operators of equal strength group to the left, so `1 + 1 + 1` is a tree that only gets deeper to
the left, and every further operator makes it higher by one. Such a chain of left operands is long
where text is long, not where anything in it is nested. `Expr.nesting` is the height without the
steps along these chains, and `Expr.longestChain` tells how many of them there are in a row.

Neither of the two alone says how high a tree is. Together they do: the height is at least each of
them and at most their product, the chain being counted with the node it starts from.

## Main definitions

* `Expr.height`, `Expr.nesting`: the height of a tree, and the height without chains
* `Expr.longestChain`: the longest chain of left operands in a tree
* `Statement.exprs`, `Statement.listExprs`: the expressions that stand in statements

## Main results

* `Expr.longestChain_le_height`
* `Expr.height_le`: the height in terms of nesting and chains
-/

namespace SqlLint

namespace Expr

/-! ## Height and nesting -/

mutual

/-- The length of the longest way down a tree, a step to the left operand of an infix operator
counting `left` and every other one counting one. -/
def depth (left : Nat) : Expr → Nat
  | var _ => 1
  | string _ _ => 1
  | number _ => 1
  | null => 1
  | name _ => 1
  | cast _ operand _ style => max (operand.depth left) (optionDepth left style) + 1
  | binary _ l r => max (l.depth left + left) (r.depth left + 1)
  | unary _ operand => operand.depth left + 1
  | paren inner => inner.depth left + 1
  | call _ args => listDepth left args + 1
  | parts items => listDepth left items + 1

/-- The longest way down any of several trees. -/
def listDepth (left : Nat) : List Expr → Nat
  | [] => 0
  | e :: es => max (e.depth left) (listDepth left es)

/-- The longest way down a tree that may be missing. -/
def optionDepth (left : Nat) : Option Expr → Nat
  | none => 0
  | some e => e.depth left

end

/-- The height of a tree: every node on a way down counts one. -/
def height (e : Expr) : Nat := e.depth 1

/-- The height of a tree in which a left operand stands as high as its operator. -/
def nesting (e : Expr) : Nat := e.depth 0

theorem listDepth_le_iff {left n : Nat} {es : List Expr} :
    listDepth left es ≤ n ↔ ∀ e ∈ es, e.depth left ≤ n := by
  induction es with
  | nil => simp [listDepth]
  | cons e es ih => rw [listDepth, Nat.max_le, ih, List.forall_mem_cons]

section

variable {n : Nat} {e : Expr} {es : List Expr}

theorem nesting_cast_le {kind : CastKind} {target : TypeRef} {style : Option Expr}
    (h : e.nesting ≤ n) (hstyle : ∀ e' ∈ style, e'.nesting ≤ n) :
    (cast kind e target style).nesting ≤ n + 1 := by
  rw [nesting, depth]
  refine Nat.succ_le_succ (Nat.max_le.2 ⟨h, ?_⟩)
  cases style with
  | none => exact Nat.zero_le n
  | some e' => exact hstyle e' rfl

/-- The left operand may be as deep as the whole; only the right one adds a level. -/
theorem nesting_binary_le {op : BinaryOp} {l r : Expr} (hl : l.nesting ≤ n + 1)
    (hr : r.nesting ≤ n) : (binary op l r).nesting ≤ n + 1 := by
  rw [nesting, depth]
  exact Nat.max_le.2 ⟨hl, Nat.succ_le_succ hr⟩

theorem nesting_unary_le {op : UnaryOp} (h : e.nesting ≤ n) : (unary op e).nesting ≤ n + 1 :=
  Nat.succ_le_succ h

theorem nesting_paren_le (h : e.nesting ≤ n) : (paren e).nesting ≤ n + 1 := Nat.succ_le_succ h

theorem nesting_call_le {name : List String} (h : ∀ e ∈ es, e.nesting ≤ n) :
    (call name es).nesting ≤ n + 1 :=
  Nat.succ_le_succ (listDepth_le_iff.2 h)

theorem nesting_parts_le (h : ∀ e ∈ es, e.nesting ≤ n) : (parts es).nesting ≤ n + 1 :=
  Nat.succ_le_succ (listDepth_le_iff.2 h)

end

/-! ## Chains of left operands -/

/-- The number of left operands below one another, from the root on. -/
def spine : Expr → Nat
  | binary _ l _ => l.spine + 1
  | _ => 0

mutual

/-- The longest chain of left operands in a tree. -/
def longestChain : Expr → Nat
  | var _ => 0
  | string _ _ => 0
  | number _ => 0
  | null => 0
  | name _ => 0
  | cast _ operand _ style => max operand.longestChain (optionLongestChain style)
  | binary _ l r => max (l.spine + 1) (max l.longestChain r.longestChain)
  | unary _ operand => operand.longestChain
  | paren inner => inner.longestChain
  | call _ args => listLongestChain args
  | parts items => listLongestChain items

/-- The longest chain in any of several trees. -/
def listLongestChain : List Expr → Nat
  | [] => 0
  | e :: es => max e.longestChain (listLongestChain es)

/-- The longest chain in a tree that may be missing. -/
def optionLongestChain : Option Expr → Nat
  | none => 0
  | some e => e.longestChain

end

theorem spine_le_longestChain (e : Expr) : e.spine ≤ e.longestChain := by
  cases e with
  | binary op l r => exact Nat.le_max_left _ _
  | _ => exact Nat.zero_le _

theorem spine_lt_height : ∀ e : Expr, e.spine < e.depth 1
  | binary _ l _ => by
    have ih := spine_lt_height l
    rw [spine, depth]
    omega
  | var _ => Nat.zero_lt_one
  | string _ _ => Nat.zero_lt_one
  | number _ => Nat.zero_lt_one
  | null => Nat.zero_lt_one
  | name _ => Nat.zero_lt_one
  | cast _ _ _ _ => Nat.succ_pos _
  | unary _ _ => Nat.succ_pos _
  | paren _ => Nat.succ_pos _
  | call _ _ => Nat.succ_pos _
  | parts _ => Nat.succ_pos _

/-! ## The height in terms of both -/

mutual

theorem longestChain_le_depth : ∀ e : Expr, e.longestChain ≤ e.depth 1
  | binary _ l r => by
    have hspine := spine_lt_height l
    have hl := longestChain_le_depth l
    have hr := longestChain_le_depth r
    rw [longestChain, depth]
    omega
  | cast _ operand _ style => by
    have hoperand := longestChain_le_depth operand
    have hstyle := optionLongestChain_le_depth style
    rw [longestChain, depth]
    omega
  | unary _ operand => by
    have := longestChain_le_depth operand
    rw [longestChain, depth]
    omega
  | paren inner => by
    have := longestChain_le_depth inner
    rw [longestChain, depth]
    omega
  | call _ args => by
    have := listLongestChain_le_depth args
    rw [longestChain, depth]
    omega
  | parts items => by
    have := listLongestChain_le_depth items
    rw [longestChain, depth]
    omega
  | var _ => Nat.zero_le _
  | string _ _ => Nat.zero_le _
  | number _ => Nat.zero_le _
  | null => Nat.zero_le _
  | name _ => Nat.zero_le _

theorem listLongestChain_le_depth : ∀ es : List Expr, listLongestChain es ≤ listDepth 1 es
  | [] => Nat.zero_le _
  | e :: es => by
    have he := longestChain_le_depth e
    have hes := listLongestChain_le_depth es
    rw [listLongestChain, listDepth]
    omega

theorem optionLongestChain_le_depth : ∀ o : Option Expr, optionLongestChain o ≤ optionDepth 1 o
  | none => Nat.zero_le _
  | some e => longestChain_le_depth e

end

theorem longestChain_le_height (e : Expr) : e.longestChain ≤ e.height := longestChain_le_depth e

theorem max_le_max_mul {a b k m n : Nat} (ha : a ≤ m * k) (hb : b ≤ n * k) :
    max a b ≤ max m n * k := by
  refine Nat.max_le.2 ⟨Nat.le_trans ha ?_, Nat.le_trans hb ?_⟩
  · exact Nat.mul_le_mul_right k (Nat.le_max_left m n)
  · exact Nat.mul_le_mul_right k (Nat.le_max_right m n)

/-- Where the operands of a node are no higher than `m` for each of their levels of nesting, one
more level has room for one more step. -/
theorem succ_le_succ_mul {h m n : Nat} (hle : h ≤ n * (m + 1)) : h + 1 + m ≤ (n + 1) * (m + 1) := by
  rw [Nat.succ_mul]
  omega

mutual

/-- On the chain at the root a tree is higher by one for each of its left operands, so the bound is
the one for a chain of full length less what is missing of it. -/
theorem depth_add_le (m : Nat) : ∀ e : Expr, e.longestChain ≤ m →
    e.depth 1 + m ≤ e.depth 0 * (m + 1) + e.spine
  | binary op l r, h => by
    rw [longestChain] at h
    have hl := depth_add_le m l (by omega)
    have hr := depth_le m r (by omega)
    have hleft : l.depth 0 * (m + 1) ≤ (binary op l r).depth 0 * (m + 1) :=
      Nat.mul_le_mul_right _ (by rw [depth]; omega)
    have hright : (r.depth 0 + 1) * (m + 1) ≤ (binary op l r).depth 0 * (m + 1) :=
      Nat.mul_le_mul_right _ (by rw [depth]; omega)
    have hstep := succ_le_succ_mul hr
    have hheight : (binary op l r).depth 1 = max (l.depth 1 + 1) (r.depth 1 + 1) := by rw [depth]
    rw [hheight, spine]
    omega
  | cast _ operand _ style, h => by
    rw [longestChain] at h
    have hoperand := depth_le m operand (by omega)
    have hstyle := optionDepth_le m style (by omega)
    rw [depth, depth]
    exact succ_le_succ_mul (max_le_max_mul hoperand hstyle)
  | unary _ operand, h => by
    rw [depth, depth]
    exact succ_le_succ_mul (depth_le m operand h)
  | paren inner, h => by
    rw [depth, depth]
    exact succ_le_succ_mul (depth_le m inner h)
  | call _ args, h => by
    rw [depth, depth]
    exact succ_le_succ_mul (listDepth_le m args h)
  | parts items, h => by
    rw [depth, depth]
    exact succ_le_succ_mul (listDepth_le m items h)
  | var _, _ => by simp [depth, spine]; omega
  | string _ _, _ => by simp [depth, spine]; omega
  | number _, _ => by simp [depth, spine]; omega
  | null, _ => by simp [depth, spine]; omega
  | name _, _ => by simp [depth, spine]; omega

theorem depth_le (m : Nat) (e : Expr) (h : e.longestChain ≤ m) :
    e.depth 1 ≤ e.depth 0 * (m + 1) := by
  have hadd := depth_add_le m e h
  have hspine := spine_le_longestChain e
  omega

theorem listDepth_le (m : Nat) : ∀ es : List Expr, listLongestChain es ≤ m →
    listDepth 1 es ≤ listDepth 0 es * (m + 1)
  | [], _ => Nat.zero_le _
  | e :: es, h => by
    rw [listLongestChain] at h
    have he := depth_le m e (by omega)
    have hes := listDepth_le m es (by omega)
    rw [listDepth, listDepth]
    exact max_le_max_mul he hes

theorem optionDepth_le (m : Nat) : ∀ o : Option Expr, optionLongestChain o ≤ m →
    optionDepth 1 o ≤ optionDepth 0 o * (m + 1)
  | none, _ => Nat.zero_le _
  | some e, h => depth_le m e h

end

/-- A tree is at most as high as its nesting allows with its longest chain at every level. -/
theorem height_le (e : Expr) : e.height ≤ e.nesting * (e.longestChain + 1) :=
  depth_le _ e (Nat.le_refl _)

end Expr

/-! ## Expressions in statements -/

/-- The expressions of a declaration. -/
def Declaration.exprs : Declaration → List Expr
  | scalar _ _ value => value.toList
  | table _ => []

/-- The expressions of a call. -/
def Execution.exprs (e : Execution) : List Expr :=
  e.procedure :: e.arguments.flatMap fun a => a.value.toList

namespace Statement

mutual

/-- The expressions that stand in a statement or in a statement inside it. Expressions inside these
are not listed again; none of them is higher. -/
def exprs : Statement → List Expr
  | declare items => items.flatMap Declaration.exprs
  | setVariable _ _ value => [value]
  | setOption _ _ _ => []
  | procedure _ _ parameters body => parameters.flatMap (·.default.toList) ++ listExprs body
  | function _ _ parameters _ body => parameters.flatMap (·.default.toList) ++ listExprs body
  | execute call => call.exprs
  | block body => listExprs body
  | conditional condition body otherwise => condition :: (body.exprs ++ optionExprs otherwise)
  | returns value => value.toList
  | other items => items

/-- The expressions that stand in any of several statements. -/
def listExprs : List Statement → List Expr
  | [] => []
  | s :: ss => s.exprs ++ listExprs ss

/-- The expressions that stand in a statement that may be missing. -/
def optionExprs : Option Statement → List Expr
  | none => []
  | some s => s.exprs

end

theorem listExprs_eq_flatMap (ss : List Statement) : listExprs ss = ss.flatMap exprs := by
  induction ss with
  | nil => rfl
  | cons s ss ih => rw [listExprs, ih, List.flatMap_cons]

end Statement

end SqlLint
