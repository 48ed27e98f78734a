import SqlLint.Proofs.Parse.ExprWalk
import SqlLint.Proofs.Parse.Growth
import SqlLint.Proofs.Parse.Pratt
import SqlLint.Proofs.Syntax.Nodes

/-!
# Trees respect precedence

Whatever text an expression is read from, its tree groups operators by their powers: what stands to
the right of an infix operator without parentheses binds more strongly, what stands to its left
binds at least as strongly, and a prefix operator takes no operand that binds less strongly than
itself. This holds of every node of the tree, however deep it stands and by whatever reader it was
put together.

## Two exceptions on the left

The right operand of `IS` and of `IN` is no expression: it is the word `NULL`, or a list in
parentheses. Nothing reads on behind it, so an operator of any power may follow, and
`@a IS NULL + 1` is a sum. `NOT` is the weakest of the prefix operators. To the left of an infix
operator it stands only if that operator is weaker still.

## Why the left operand fits

An infix operator gets as its left operand whatever the loop has put together so far, and the loop
compares no powers there. The left operand fits because of where its own right end was read: the
reader of that operand stopped before the operator, so the operator is too weak for it. What is
carried along the loop is therefore a condition on what comes next. If the tree is open at its right
end, with a certain power, then neither a collation nor an operator of that power follows. A
collation would leave the tree as it is and move on, so this has to be said, too.

## Main definitions

* `Expr.respects`: a node goes with its operands
* `Expr.openPower?`: the power with which the right end of an expression is open

## Main results

* `ends_operatorChain_complete`: what is known of an expression, given the same of those inside
* `expr_respects`: every node of an expression that has been read goes with its operands
-/

namespace SqlLint

namespace Expr

/-! ## Nodes and their operands -/

/-- Whether the expression can stand without parentheses to the left of an operator. -/
def fitsLeft (op : BinaryOp) : Expr → Bool
  | binary o _ _ => op.leftPower ≤ o.leftPower || o = .isNull || o = .isIn
  | unary .not _ => op = .and || op = .or
  | _ => true

/-- Whether the expression can stand without parentheses to the right of an operator. -/
def fitsRight (op : BinaryOp) : Expr → Bool
  | binary o _ _ => op.leftPower < o.leftPower
  | _ => true

/-- Whether the expression can stand without parentheses behind a prefix operator. -/
def fitsUnder (op : UnaryOp) : Expr → Bool
  | binary o _ _ => op = .not && o ≠ .and && o ≠ .or
  | _ => true

/-- Whether an operator at the root goes with its operands. -/
def respects : Expr → Bool
  | binary op left right => left.fitsLeft op && right.fitsRight op
  | unary op operand => operand.fitsUnder op
  | _ => true

/-- Every node of the expression goes with its operands. -/
def Respectful (e : Expr) : Prop := ∀ node ∈ e.nodes, node.respects

theorem forall_mem_listNodes {es : List Expr} (h : ∀ e ∈ es, e.Respectful) :
    ∀ node ∈ listNodes es, node.respects := by
  induction es with
  | nil => simp [listNodes]
  | cons e es ih =>
    rw [List.forall_mem_cons] at h
    rw [listNodes, List.forall_mem_append]
    exact ⟨h.1, ih h.2⟩

theorem respectful_of_isLeaf {e : Expr} (h : e.isLeaf) : e.Respectful := by
  have hnodes : e.nodes = [e] ∧ e.respects := by
    cases e with
    | var => exact ⟨rfl, rfl⟩
    | string => exact ⟨rfl, rfl⟩
    | number => exact ⟨rfl, rfl⟩
    | null => exact ⟨rfl, rfl⟩
    | name => exact ⟨rfl, rfl⟩
    | _ => simp [isLeaf] at h
  rw [Respectful, hnodes.1, List.forall_mem_singleton]
  exact hnodes.2

theorem respectful_cast {kind : CastKind} {e : Expr} {target : TypeRef} {style : Option Expr}
    (h : e.Respectful) (hstyle : ∀ e' ∈ style, e'.Respectful) :
    (cast kind e target style).Respectful := by
  rw [Respectful, nodes, List.forall_mem_cons, List.forall_mem_append]
  refine ⟨rfl, h, ?_⟩
  cases style with
  | none => simp [optionNodes]
  | some e' => exact hstyle e' rfl

theorem respectful_paren {e : Expr} (h : e.Respectful) : (paren e).Respectful := by
  rw [Respectful, nodes, List.forall_mem_cons]
  exact ⟨rfl, h⟩

theorem respectful_call {path : List String} {es : List Expr} (h : ∀ e ∈ es, e.Respectful) :
    (call path es).Respectful := by
  rw [Respectful, nodes, List.forall_mem_cons]
  exact ⟨rfl, forall_mem_listNodes h⟩

theorem respectful_parts {es : List Expr} (h : ∀ e ∈ es, e.Respectful) :
    (parts es).Respectful := by
  rw [Respectful, nodes, List.forall_mem_cons]
  exact ⟨rfl, forall_mem_listNodes h⟩

theorem respectful_unary {op : UnaryOp} {e : Expr} (hfits : e.fitsUnder op) (h : e.Respectful) :
    (unary op e).Respectful := by
  rw [Respectful, nodes, List.forall_mem_cons]
  exact ⟨hfits, h⟩

theorem respectful_binary {op : BinaryOp} {l r : Expr} (hl : l.fitsLeft op) (hr : r.fitsRight op)
    (hleft : l.Respectful) (hright : r.Respectful) : (binary op l r).Respectful := by
  rw [Respectful, nodes, List.forall_mem_cons, List.forall_mem_append]
  refine ⟨?_, hleft, hright⟩
  rw [respects, hl, hr]
  rfl

/-! ## Powers -/

/-- What has been asked for with the power of a prefix operator can stand behind it. -/
theorem fitsUnder_of_binds {op : UnaryOp} {e : Expr} (h : e.binds op.power) : e.fitsUnder op := by
  cases e with
  | binary o l r =>
    have hle : op.power ≤ o.leftPower := of_decide_eq_true h
    revert hle
    change op.power ≤ o.leftPower → (op = .not && o ≠ .and && o ≠ .or) = true
    cases op <;> cases o <;> decide
  | _ => rfl

/-- What has been asked for with the right power of an operator can stand to its right. -/
theorem fitsRight_of_binds {op : BinaryOp} {e : Expr} (h : e.binds op.rightPower) :
    e.fitsRight op := by
  cases e with
  | binary o l r => exact h
  | _ => rfl

/-- The power with which the right end of the expression is open. Behind `IS NULL` and `IN (…)`
it is closed. -/
def openPower? : Expr → Option Nat
  | unary op _ => some op.power
  | binary op _ _ => if op = .isNull ∨ op = .isIn then none else some op.rightPower
  | _ => none

/-- An operator that is too weak for what is open at the right end of an expression can have it to
its left. -/
theorem fitsLeft_of_openPower? {op : BinaryOp} {e : Expr}
    (h : ∀ p ∈ e.openPower?, op.leftPower < p) : e.fitsLeft op := by
  cases e with
  | binary o l r =>
    by_cases hclosed : o = .isNull ∨ o = .isIn
    · rcases hclosed with rfl | rfl
      · simp [fitsLeft]
      · simp [fitsLeft]
    · have hlt : op.leftPower < o.rightPower := h _ (if_neg hclosed)
      have hle : op.leftPower ≤ o.leftPower := Nat.le_of_lt_succ hlt
      simp [fitsLeft, hle]
  | unary o operand =>
    cases o with
    | not =>
      have hlt : op.leftPower < 5 := h _ rfl
      revert hlt
      change op.leftPower < 5 → (op = .and || op = .or) = true
      cases op <;> decide
    | _ => rfl
  | _ => rfl

/-- Whether no operator stands at the root. -/
def isClosed : Expr → Bool
  | unary _ _ => false
  | binary _ _ _ => false
  | _ => true

theorem isClosed_of_isLeaf {e : Expr} (h : e.isLeaf) : e.isClosed := by
  cases e with
  | unary => exact h
  | binary => exact h
  | _ => rfl

theorem binds_of_isClosed {e : Expr} (h : e.isClosed) (m : Nat) : e.binds m := by
  cases e with
  | binary => simp [isClosed] at h
  | _ => rfl

theorem openPower?_of_isClosed {e : Expr} (h : e.isClosed) : e.openPower? = none := by
  cases e with
  | unary => simp [isClosed] at h
  | binary => simp [isClosed] at h
  | _ => rfl

end Expr

namespace Parser

open SqlLint.Expr

/-! ## Heads -/

/-- What is known of a tree while operators are still being looked for behind it: its nodes go with
their operands, it binds with at least the power asked for, and what comes next does not belong to
its right end. -/
structure Settled (m : Nat) (e : Expr) (s : Cursor) : Prop where
  respectful : e.Respectful
  binds : e.binds m
  stops : ∀ p ∈ e.openPower?, Stops p s.rest

/-- What is known of a tree that has been read with a power asked for: no operator of that power
comes next. -/
structure Complete (m : Nat) (e : Expr) (s : Cursor) : Prop where
  respectful : e.Respectful
  binds : e.binds m
  stops : Stops m s.rest

/-- Heads are closed, unless they begin with a prefix operator. -/
theorem growth_respectful :
    Growth Respectful Respectful fun e => e.Respectful ∧ e.isClosed where
  item_of_operand h := h
  item_var _ := respectful_of_isLeaf rfl
  item_cast := respectful_cast
  head_leaf h := ⟨respectful_of_isLeaf h, isClosed_of_isLeaf h⟩
  head_cast he hstyle := ⟨respectful_cast he hstyle, rfl⟩
  head_paren he := ⟨respectful_paren he, rfl⟩
  head_call h := ⟨respectful_call h, rfl⟩
  head_parts h := ⟨respectful_parts h, rfl⟩

theorem settled_of_isClosed {m : Nat} {e : Expr} {s : Cursor} (h : e.Respectful)
    (hclosed : e.isClosed) : Settled m e s :=
  ⟨h, binds_of_isClosed hclosed m, by simp [openPower?_of_isClosed hclosed]⟩

section

variable (cx : Context) {deeper : Nat → Parser Expr}
  (hdeeper : ∀ m s, Ends (deeper m) s (Complete m) fun _ _ => True)

include hdeeper

theorem returns_respectful (m : Nat) : Returns (deeper m) Respectful :=
  fun s => (hdeeper m s).mono (fun _ _ h => h.respectful) fun _ _ h => h

theorem settled_takeHead (m : Nat) (s : Cursor) :
    Ends (takeHead cx deeper) s (Settled m) fun _ _ => True := by
  refine growth_respectful.ends_takeHead cx (returns_respectful hdeeper 0)
    (fun e t h => settled_of_isClosed h.1 h.2) (fun op s => ?_) s
  rw [takeUnary, ends_bind]
  refine (returns_any (advance 1) s).mono (fun _ t _ => ?_) fun _ _ h => h
  rw [ends_bind]
  refine (hdeeper op.power t).mono (fun operand u hu => ?_) fun _ _ h => h
  refine ⟨respectful_unary (fitsUnder_of_binds hu.binds) hu.respectful, rfl, ?_⟩
  rintro p ⟨rfl⟩
  exact hu.stops

/-! ## Infix operators -/

/-- A right operand fits, and its reader has stopped before anything that belongs to it. -/
theorem ends_takeRight_respectful (op : BinaryOp) (s : Cursor) :
    Ends (takeRight cx deeper op) s (fun right t => right.Respectful ∧ right.fitsRight op ∧
      ∀ left, ∀ p ∈ (binary op left right).openPower?, Stops p t.rest) fun _ _ => True := by
  -- an operand that is read with the right power of the operator, and what is made of it
  have hoperand : ∀ {op : BinaryOp} {e : Expr} {t : Cursor}, Complete op.rightPower e t →
      ∀ left right, ∀ p ∈ (binary op left right).openPower?, Stops p t.rest := by
    intro op e t he left right p hp
    have hp : p = op.rightPower := by
      rw [openPower?] at hp
      split at hp
      · cases hp
      · exact (Option.some.inj hp).symm
    exact hp ▸ he.stops
  unfold takeRight
  split
  · rw [ends_bind]
    refine (returns_any _ s).mono (fun _ t _ => ?_) fun _ _ h => h
    rw [ends_bind]
    refine (returns_any _ t).mono (fun _ u _ => ?_) fun _ _ h => h
    exact ⟨respectful_of_isLeaf rfl, rfl, by simp [openPower?]⟩
  · rw [ends_bind]
    refine (returns_any _ s).mono (fun _ t _ => ?_) fun _ _ h => h
    rw [ends_bind]
    have hlist := growth_respectful.returns_listOrQuery cx (returns_respectful hdeeper 0)
    refine (hlist t).mono (fun items u hitems => ?_) fun _ _ h => h
    exact ⟨respectful_parts hitems, rfl, by simp [openPower?]⟩
  · rw [ends_bind]
    refine (hdeeper _ s).mono (fun low t hlow => ?_) fun _ _ h => h
    rw [ends_bind]
    refine (returns_any _ t).mono (fun _ u _ => ?_) fun _ _ h => h
    rw [ends_bind]
    refine (hdeeper _ u).mono (fun high v hhigh => ?_) fun _ _ h => h
    refine ⟨respectful_parts ?_, rfl, fun left => hoperand hhigh left _⟩
    simp [hlow.respectful, hhigh.respectful]
  · rw [ends_bind]
    refine (hdeeper _ s).mono (fun pattern t hpattern => ?_) fun _ _ h => h
    refine ends_bind_eatIf (fun l rest ht hescape => ?_) ?_
    · rw [if_pos rfl, ends_bind]
      refine (hdeeper _ _).mono (fun escape u hescape => ?_) fun _ _ h => h
      refine ⟨respectful_parts ?_, rfl, fun left => hoperand hescape left _⟩
      simp [hpattern.respectful, hescape.respectful]
    · exact ⟨hpattern.respectful, fitsRight_of_binds hpattern.binds, fun left =>
        hoperand hpattern left _⟩
  · refine (hdeeper _ s).mono (fun e t he => ?_) fun _ _ h => h
    exact ⟨he.respectful, fitsRight_of_binds he.binds, fun left => hoperand he left _⟩

/-- A round keeps what is known of the tree. The last one finds nothing that continues it. -/
theorem ends_infixRound_settled (m : Nat) {left : Expr} {s : Cursor} (h : Settled m left s) :
    Ends (infixRound cx deeper m left) s (fun o t => match o with
      | none => Complete m left t
      | some e => Settled m e t) fun _ _ => True := by
  rw [infixRound]
  -- a collation does not follow what is open at its right end
  refine ends_bind_eatIf_or (fun k rest hs hcollate => ?_) fun hcollation => ?_
  · have hclosed : left.openPower? = none := by
      refine Option.eq_none_iff_forall_not_mem.2 fun p hp => ?_
      have hno := (h.stops p hp).noCollation
      rw [hs, List.head?_cons, Option.any_some] at hno
      rw [hno] at hcollate
      cases hcollate
    rw [if_pos rfl, ends_bind]
    refine (returns_any _ _).mono (fun _ t _ => ?_) fun _ _ h => h
    exact ⟨h.respectful, h.binds, by simp [hclosed]⟩
  · rw [if_neg (by decide), ends_bind, ends_ahead]
    split
    · next hnone => exact ⟨h.respectful, h.binds, hcollation, by simp [hnone]⟩
    · next op width hop =>
      split
      · next hweak =>
        refine ⟨h.respectful, h.binds, hcollation, ?_⟩
        rw [hop]
        rintro _ ⟨rfl⟩
        exact hweak
      · next hstrong =>
        rw [ends_bind]
        refine (returns_any _ s).mono (fun _ t _ => ?_) fun _ _ h => h
        rw [ends_bind]
        refine (ends_takeRight_respectful cx hdeeper op t).mono (fun right u hu => ?_)
          fun _ _ h => h
        have hleft : left.fitsLeft op :=
          fitsLeft_of_openPower? fun p hp => (h.stops p hp).weaker _ hop
        refine ⟨respectful_binary hleft hu.2.1 h.respectful hu.1, ?_, hu.2.2 left⟩
        exact decide_eq_true (Nat.le_of_not_lt hstrong)

end

/-! ## Expressions -/

/-- What is known of an expression that has been read, given the same of those one level deeper. The
loop over infix operators ends where nothing continues the tree, or at the end of the batch. -/
theorem ends_operatorChain_complete (cx : Context) {deeper : Nat → Parser Expr}
    (hdeeper : ∀ m s, Ends (deeper m) s (Complete m) fun _ _ => True)
    (hreads : ∀ m, Reads (deeper m) Expr.vars) (m : Nat) (s : Cursor) :
    Ends (operatorChain cx deeper m) s (Complete m) fun _ _ => True := by
  rw [operatorChain, ends_bind]
  refine (settled_takeHead cx hdeeper m s).mono (fun head t hhead => ?_) fun _ _ h => h
  refine ends_repeatWhile (I := Settled m) hhead (fun left u hu => ?_) fun left u hu hend => ?_
  · -- a round that goes on has passed a lexeme
    have hround := ends_infixRound cx hreads m left u
    refine ((ends_infixRound_settled cx hdeeper m hu).and hround).mono (fun o v hv => ?_)
      fun _ _ _ => trivial
    cases o with
    | none => exact hv.1
    | some e => exact ⟨hv.1, hv.2.1⟩
  · exact ⟨hu.respectful, hu.binds, by rw [hend]; exact ⟨rfl, by simp [BinaryOp.atStart?]⟩⟩

theorem ends_expr_complete (cx : Context) : ∀ levels m s,
    Ends (expr cx levels m) s (Complete m) fun _ _ => True
  | 0, _, _ => trivial
  | levels + 1, m, s =>
    ends_operatorChain_complete cx (ends_expr_complete cx levels) (reads_expr cx levels) m s

/-- **Every node of an expression that has been read goes with its operands**, whatever it was read
from, for whatever version and with however many levels left. -/
theorem expr_respects (cx : Context) {levels m : Nat} {s t : Cursor} {e : Expr}
    (h : expr cx levels m s = .ok e t) : ∀ node ∈ e.nodes, node.respects :=
  ((ends_expr_complete cx levels m s).ok h).respectful

/-- `NOT @a IS NULL + 1 < CAST(@b * 2 + 3 AS int) OR @c`: the sum has the test for `NULL` to its
left, and the conversion has a sum in it. -/
theorem expr_respects_not_is_null_plus :
    let ls : List Lexeme := [⟨.word "NOT" none, 1, true⟩, ⟨.word "@a" none, 1, false⟩,
      ⟨.word "IS" none, 1, false⟩, ⟨.word "NULL" none, 1, false⟩, ⟨.mark .plus, 1, false⟩,
      ⟨.number "1" false, 1, false⟩, ⟨.mark .lt, 1, false⟩, ⟨.word "CAST" none, 1, false⟩,
      ⟨.mark .leftParen, 1, false⟩, ⟨.word "@b" none, 1, false⟩, ⟨.mark .star, 1, false⟩,
      ⟨.number "2" false, 1, false⟩, ⟨.mark .plus, 1, false⟩, ⟨.number "3" false, 1, false⟩,
      ⟨.word "AS" none, 1, false⟩, ⟨.word "int" none, 1, false⟩, ⟨.mark .rightParen, 1, false⟩,
      ⟨.word "OR" none, 1, false⟩, ⟨.word "@c" none, 1, false⟩]
    let e : Expr := .binary .or
      (.unary .not (.binary .lt
        (.binary .plus (.binary .isNull (.var ⟨"@a", 1⟩) .null) (.number "1"))
        (.cast .cast (.binary .plus (.binary .multiply (.var ⟨"@b", 1⟩) (.number "2"))
          (.number "3")) ⟨"int", [], 1⟩ none)))
      (.var ⟨"@c", 1⟩)
    expr ⟨.sql2000, 1⟩ 8 0 ⟨ls, []⟩ = .ok e ⟨([] : List Lexeme), []⟩ ∧
      ∀ node ∈ e.nodes, node.respects := by
  intro ls e
  have hread : expr ⟨.sql2000, 1⟩ 8 0 ⟨ls, []⟩ = .ok e ⟨([] : List Lexeme), []⟩ := rfl
  exact ⟨hread, expr_respects _ hread⟩

end Parser

end SqlLint
