import SqlLint.Proofs.Syntax.Height
import SqlLint.Syntax.Statement

/-!
# Trees as tokens

How trees are written, for a part of the language that has no more than one way of being read back:
expressions of variables, literals, operators and parentheses, and the statements that declare,
assign, switch options, return, group and choose.

A tree is written in order, without parentheses of its own; those that stand in the text are nodes
of the tree. Not every tree can be read back then, only one whose operators bind as they would be
read. Such a tree is *canonical*. An infix operator takes a left operand that binds at least as
strongly as itself, and a right operand that binds more strongly, so operators of equal strength
group to the left. A prefix operator takes as much as it can: inside the left operand of an infix
operator, none that is still open at its right end may bind as weakly as that operator, or it would
take the operator too.

The powers that are still open at the right end of a tree are its *pending* ones. Whether a tree
ends where its tokens end is a matter of these powers and of the next operator alone.

## Main definitions

* `Expr.tokens`, `Statement.tokens`: how trees are written
* `Expr.canonical`, `Statement.canonical`: the trees that are read back
* `Expr.pending`: the powers with which the right end of an expression is still open
* `Statement.nesting`: the levels that it takes to read a statement

## Main results

* `Expr.lt_of_mem_pending`: what is pending in the left operand binds more strongly than the
  operator
-/

namespace SqlLint

/-- The key word as a token. -/
def Keyword.token (k : Keyword) : Token := .word k.text none

/-! ## Operators -/

namespace BinaryOp

/-- The token of an operator. -/
def token : BinaryOp → Token
  | plus => .mark .plus
  | minus => .mark .minus
  | multiply => .mark .star
  | divide => .mark .slash
  | modulo => .mark .percent
  | bitAnd => .mark .ampersand
  | bitOr => .mark .pipe
  | bitXor => .mark .caret
  | eq => .mark .eq
  | notEq => .mark .notEq
  | lt => .mark .lt
  | ltEq => .mark .ltEq
  | gt => .mark .gt
  | gtEq => .mark .gtEq
  | and => Keyword.AND.token
  | or => Keyword.OR.token
  | like => Keyword.LIKE.token
  | isIn => Keyword.IN.token
  | between => Keyword.BETWEEN.token
  | isNull => Keyword.IS.token

/-- The operators whose right operand is one expression in every case. -/
def isPlain : BinaryOp → Bool
  | like | isIn | between | isNull => false
  | _ => true

/-- The operators that can be joined with `=` to a compound assignment. -/
def isCompound (op : BinaryOp) : Bool := ofCompound? op.token = some op

end BinaryOp

/-- The token of a prefix operator. -/
def UnaryOp.token : UnaryOp → Token
  | plus => .mark .plus
  | minus => .mark .minus
  | not => Keyword.NOT.token
  | bitNot => .mark .tilde
  | existsRows => Keyword.EXISTS.token

/-! ## Expressions -/

/-- Whether the name is one that a variable can have. -/
def Variable.isNamed (v : Variable) : Bool := (Token.word v.name none).variableName?.isSome

namespace Expr

/-- The tokens of an expression of variables, literals, operators and parentheses. -/
def tokens : Expr → List Token
  | var v => [.word v.name none]
  | string text national => [if national then .nationalString text else .string text]
  | number digits => [.number digits false]
  | null => [Keyword.NULL.token]
  | binary op l r => l.tokens ++ op.token :: r.tokens
  | unary op operand => op.token :: operand.tokens
  | paren inner => .mark .leftParen :: (inner.tokens ++ [.mark .rightParen])
  | _ => []

/-- Whether the expression, unless it is closed, binds to its left with a power of at least `m`. -/
def binds (m : Nat) : Expr → Bool
  | binary op _ _ => m ≤ op.leftPower
  | _ => true

/-- Whether every prefix operator that is open at the right end binds more strongly than `p`. -/
def prefixesAbove (p : Nat) : Expr → Bool
  | unary op operand => p < op.power && operand.prefixesAbove p
  | binary _ _ r => r.prefixesAbove p
  | _ => true

/-- Whether the expression is made of variables, literals, parentheses, prefix operators and plain
infix operators, and its operators bind as they are read. -/
def canonical : Expr → Bool
  | var v => v.isNamed
  | string _ _ => true
  | number _ => true
  | null => true
  | paren inner => inner.canonical
  | unary op operand => op ≠ .existsRows && operand.binds op.power && operand.canonical
  | binary op l r =>
    op.isPlain && (l.binds op.leftPower && r.binds op.rightPower && l.prefixesAbove op.leftPower) &&
      (l.canonical && r.canonical)
  | _ => false

/-- The powers with which the right end of the expression is open, the outermost first. -/
def pending : Expr → List Nat
  | unary op operand => op.power :: operand.pending
  | binary op _ r => op.rightPower :: r.pending
  | _ => []

theorem binds_of_le {m n : Nat} (h : m ≤ n) {e : Expr} (he : e.binds n) : e.binds m := by
  cases e with
  | binary op l r => exact decide_eq_true (Nat.le_trans h (of_decide_eq_true he))
  | _ => rfl

theorem binds_zero (e : Expr) : e.binds 0 := by
  cases e with
  | binary op l r => exact decide_eq_true (Nat.zero_le op.leftPower)
  | _ => rfl

/-- If an expression can be the left operand of an operator with the left power `p`, then all that
is open at its right end binds more strongly. -/
theorem lt_of_mem_pending {p : Nat} : ∀ e : Expr, e.canonical → e.binds p → e.prefixesAbove p →
    ∀ q ∈ e.pending, p < q
  | unary op operand, hcanonical, _, habove => by
    simp only [canonical, Bool.and_eq_true] at hcanonical
    simp only [prefixesAbove, Bool.and_eq_true, decide_eq_true_eq] at habove
    rw [pending, List.forall_mem_cons]
    have hbinds := binds_of_le (Nat.le_of_lt habove.1) hcanonical.1.2
    exact ⟨habove.1, lt_of_mem_pending operand hcanonical.2 hbinds habove.2⟩
  | binary op l r, hcanonical, hbinds, habove => by
    simp only [canonical, Bool.and_eq_true] at hcanonical
    have hlt : p < op.rightPower := Nat.lt_succ_of_le (of_decide_eq_true hbinds)
    rw [pending, List.forall_mem_cons]
    have hbinds := binds_of_le (Nat.le_of_lt hlt) hcanonical.1.2.1.2
    exact ⟨hlt, lt_of_mem_pending r hcanonical.2.2 hbinds habove⟩
  | var _, _, _, _ => by simp [pending]
  | string _ _, _, _, _ => by simp [pending]
  | number _, _, _, _ => by simp [pending]
  | null, _, _, _ => by simp [pending]
  | paren _, _, _, _ => by simp [pending]
  | name _, h, _, _ => by simp [canonical] at h
  | cast _ _ _ _, h, _, _ => by simp [canonical] at h
  | call _ _, h, _, _ => by simp [canonical] at h
  | parts _, h, _, _ => by simp [canonical] at h

/-- No expression is read without a level. -/
theorem nesting_pos : ∀ e : Expr, 0 < e.nesting
  | binary _ l r => by
    rw [nesting, depth]
    omega
  | var _ => Nat.zero_lt_one
  | string _ _ => Nat.zero_lt_one
  | number _ => Nat.zero_lt_one
  | null => Nat.zero_lt_one
  | name _ => Nat.zero_lt_one
  | cast _ _ _ _ => Nat.succ_pos _
  | unary _ _ => Nat.succ_pos _
  | paren _ => Nat.succ_pos _
  | call _ _ => Nat.succ_pos _
  | parts _ => Nat.succ_pos _

end Expr

/-! ## Types and declarations -/

/-- Items with a comma between any two of them. -/
def commaTokens {α : Type} (tokens : α → List Token) (items : List α) : List Token :=
  [Token.mark .comma].intercalate (items.map tokens)

/-- The token of a parameter of a type. -/
def TypeParam.token : TypeParam → Token
  | size n => .number (toString n) false
  | max => .word "max" none

/-- Whether a length can be held. -/
def TypeParam.fits : TypeParam → Bool
  | size n => n ≤ Text.maxWord64
  | max => true

namespace TypeRef

/-- The tokens of a type reference. -/
def tokens (t : TypeRef) : List Token :=
  .word t.name none ::
    if t.params.isEmpty then []
    else .mark .leftParen :: (commaTokens (fun p => [p.token]) t.params ++ [.mark .rightParen])

/-- Whether the name is that of a base type, in any case, and the parameters can be held. -/
def canonical (t : TypeRef) : Bool :=
  BaseType.all.any (fun b => Text.equalFold t.name b.name) && t.params.all TypeParam.fits

end TypeRef

namespace Declaration

/-- The tokens of the declaration of a variable. -/
def tokens : Declaration → List Token
  | scalar name type value =>
    .word name.name none :: (type.tokens ++ value.elim [] fun e => .mark .eq :: e.tokens)
  | table _ => []

/-- Whether the declaration is one of a variable with a canonical type and value. -/
def canonical : Declaration → Bool
  | scalar name type value => name.isNamed && type.canonical && value.all Expr.canonical
  | table _ => false

end Declaration

/-! ## Statements -/

/-- Whether the text is an option: an ASCII word without small letters that is neither a variable
nor a switch. -/
def isOptionWord (text : String) : Bool :=
  text.toList.all (fun c => c.toNat < 128 && c.toUpper = c) &&
    (Token.word text none).variableName?.isNone && text ≠ "ON" && text ≠ "OFF"

namespace Statement

mutual

/-- The tokens of a statement. -/
def tokens : Statement → List Token
  | declare items => Keyword.DECLARE.token :: commaTokens Declaration.tokens items
  | setVariable target op value =>
    Keyword.SET.token :: .word target.name none ::
      ((op.map BinaryOp.token).toList ++ .mark .eq :: value.tokens)
  | setOption _ options on =>
    Keyword.SET.token :: (commaTokens (fun text => [.word text none]) options ++
      [if on then Keyword.ON.token else Keyword.OFF.token])
  | returns value => Keyword.RETURN.token :: value.elim [] Expr.tokens
  | block body => Keyword.BEGIN.token :: (listTokens body ++ [Keyword.END.token])
  | conditional condition body otherwise =>
    Keyword.IF.token :: (condition.tokens ++ (body.tokens ++ elseTokens otherwise))
  | _ => []

/-- The tokens of statements with a semicolon behind each of them. -/
def listTokens : List Statement → List Token
  | [] => []
  | s :: ss => s.tokens ++ .mark .semicolon :: listTokens ss

/-- The tokens of the other branch of a conditional, if it has one. -/
def elseTokens : Option Statement → List Token
  | none => []
  | some s => Keyword.ELSE.token :: s.tokens

end

/-- Whether the statement ends in a conditional that has no other branch. -/
def endsOpen : Statement → Bool
  | conditional _ _ none => true
  | conditional _ _ (some s) => s.endsOpen
  | _ => false

mutual

/-- Whether the statement is one of those that are written here, and an other branch goes with the
conditional that it is written for. -/
def canonical : Statement → Bool
  | declare items => !items.isEmpty && items.all Declaration.canonical
  | setVariable target op value => target.isNamed && op.all BinaryOp.isCompound && value.canonical
  | setOption _ options _ => !options.isEmpty && options.all isOptionWord
  | returns value => value.all Expr.canonical
  | block body => listCanonical body
  | conditional condition body otherwise =>
    condition.canonical && body.canonical && optionCanonical otherwise &&
      !(otherwise.isSome && body.endsOpen)
  | _ => false

/-- Whether all statements are canonical. -/
def listCanonical : List Statement → Bool
  | [] => true
  | s :: ss => s.canonical && listCanonical ss

/-- Whether a statement that may be missing is canonical. -/
def optionCanonical : Option Statement → Bool
  | none => true
  | some s => s.canonical

end

mutual

/-- The levels that it takes to read the statement. -/
def nesting : Statement → Nat
  | declare items => Expr.listDepth 0 (items.flatMap Declaration.exprs) + 1
  | setVariable _ _ value => value.nesting + 1
  | setOption _ _ _ => 1
  | procedure _ _ parameters body =>
    max (Expr.listDepth 0 (parameters.flatMap (·.default.toList))) (listNesting body) + 1
  | function _ _ parameters _ body =>
    max (Expr.listDepth 0 (parameters.flatMap (·.default.toList))) (listNesting body) + 1
  | execute call => Expr.listDepth 0 call.exprs + 1
  | block body => listNesting body + 1
  | conditional condition body otherwise =>
    max condition.nesting (max body.nesting (optionNesting otherwise)) + 1
  | returns value => Expr.optionDepth 0 value + 1
  | other items => Expr.listDepth 0 items + 1

/-- The levels that it takes to read any of several statements. -/
def listNesting : List Statement → Nat
  | [] => 0
  | s :: ss => max s.nesting (listNesting ss)

/-- The levels that it takes to read a statement that may be missing. -/
def optionNesting : Option Statement → Nat
  | none => 0
  | some s => s.nesting

end

/-- No statement is read without a level. -/
theorem nesting_pos (s : Statement) : 0 < s.nesting := by
  cases s <;> exact Nat.succ_pos _

end Statement

end SqlLint
