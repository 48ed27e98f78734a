import SqlLint.Parse.Expr
import SqlLint.Proofs.Parse.Logic

/-!
# How trees grow

Most readers put a tree together from other trees without looking into them. What they return has a
property as soon as the property passes from the parts to the whole, and which parts go into which
whole is the same for every property. This module follows the readers once, with the property left
open.

Properties of interest are not the same everywhere in a tree. A bound on depth grows on the way up,
and what may stand next to an operator is a matter of the node at the root. So there are three of
them, by the place at which a reader gets a tree: an *operand* has been read one level deeper, an
*item* stands in a list or has been found in a fragment, and a *head* is what an expression begins
with. `Growth` says how they have to go together.

Prefix operators and infix operators are left out. Their operands are read with a power of their
own, so what there is to say about them depends on the property; `Growth.ends_takeHead` takes the
prefix operators as a hypothesis, and the loop over infix operators begins where this module ends.

## Main definitions

* `Growth`: properties of operands, items and heads that go together

## Main results

* `Growth.returns_parenFragment`, `Growth.returns_fragment`: what is found in fragments
* `Growth.returns_listOrQuery`, `Growth.returns_callArguments`: lists
* `Growth.ends_takeHead`: heads
-/

namespace SqlLint

/-- Whether the expression has no expressions in it. -/
def Expr.isLeaf : Expr → Bool
  | var _ | string _ _ | number _ | null | name _ => true
  | _ => false

namespace Parser

/-- Properties of operands, of the items of lists and of heads that pass from the parts of a tree to
the whole, wherever that is not a matter of operators. -/
structure Growth (operand item head : Expr → Prop) : Prop where
  item_of_operand : ∀ {e}, operand e → item e
  item_var : ∀ v, item (.var v)
  item_cast : ∀ {kind e target style}, operand e → (∀ e' ∈ style, operand e') →
    item (.cast kind e target style)
  head_leaf : ∀ {e}, e.isLeaf → head e
  head_cast : ∀ {kind e target style}, operand e → (∀ e' ∈ style, operand e') →
    head (.cast kind e target style)
  head_paren : ∀ {e}, operand e → head (.paren e)
  head_call : ∀ {name args}, (∀ e ∈ args, item e) → head (.call name args)
  head_parts : ∀ {items}, (∀ e ∈ items, item e) → head (.parts items)

namespace Growth

variable {operand item head : Expr → Prop} (cx : Context) {deeper : Nat → Parser Expr}

/-! ## Casts -/

section

variable (hdeeper : Returns (deeper 0) operand)

include hdeeper

/-- Whatever the kind, a cast has an operand and possibly a style, both read one level deeper. -/
theorem returns_takeCast {P : Expr → Prop} (hcast : ∀ {kind e target style}, operand e →
      (∀ e' ∈ style, operand e') → P (.cast kind e target style)) (kind : CastKind) :
    Returns (takeCast cx deeper kind) P := by
  have hplain : Returns (castInside cx deeper kind) P := by
    refine hdeeper.bind fun e he => ?_
    refine returns_bind fun _ => returns_bind fun target => returns_bind fun _ => ?_
    exact returns_pure (hcast he (by simp))
  have hstyled : Returns (convertInside cx deeper kind) P := by
    refine returns_bind fun target => returns_bind fun _ => ?_
    refine hdeeper.bind fun e he => returns_bind fun comma => ?_
    split
    · refine hdeeper.bind fun style hstyle => returns_bind fun _ => ?_
      exact returns_pure (hcast he (by simpa using hstyle))
    · exact returns_bind fun _ => returns_pure (hcast he (by simp))
  refine returns_bind fun _ => returns_bind fun _ => returns_bind fun _ => ?_
  cases kind with
  | cast => exact hplain
  | tryCast => exact hplain
  | convert => exact hstyled
  | tryConvert => exact hstyled

end

variable (G : Growth operand item head) (hdeeper : Returns (deeper 0) operand)

include G hdeeper

/-! ## Fragments -/

theorem returns_fragmentCast? (kind : CastKind) (start : List Lexeme) :
    Returns (fragmentCast? cx deeper kind start) fun o => ∀ e ∈ o, item e := by
  refine Returns.tryCatch ?_ fun e => ?_
  · refine (returns_takeCast cx hdeeper G.item_cast kind).bind fun e he => returns_pure ?_
    rintro e' ⟨rfl⟩
    exact he
  · cases e with
    | unsupported => exact returns_bind fun _ => returns_bind fun _ => returns_pure (by simp)
    | _ => exact returns_bind fun _ => returns_pure (by simp)

theorem returns_fragmentItem? : Returns (fragmentItem? cx deeper) fun o => ∀ e ∈ o, item e := by
  refine returns_bind fun ls => ?_
  split
  · exact returns_pure (by simp)
  · split
    · refine returns_bind fun _ => returns_pure ?_
      rintro e ⟨rfl⟩
      exact G.item_var _
    · split
      · split
        · split
          · exact returns_pure (by simp)
          · exact returns_bind fun _ => returns_pure (by simp)
        · split
          · exact G.returns_fragmentCast? cx hdeeper _ _
          · exact returns_pure (by simp)
      · exact returns_pure (by simp)

theorem returns_scanItem {found : List Expr} (h : ∀ e ∈ found, item e) :
    Returns (scanItem cx deeper found) fun found' => ∀ e ∈ found', item e := by
  refine (G.returns_fragmentItem? cx hdeeper).bind fun o ho => ?_
  cases o with
  | some e => exact returns_pure (List.forall_mem_cons.2 ⟨ho e rfl, h⟩)
  | none => exact returns_bind fun _ => returns_pure h

theorem returns_parenFragment :
    Returns (parenFragment cx deeper) fun items => ∀ e ∈ items, item e := by
  refine Returns.bind (P := fun state : Nat × List Expr => ∀ e ∈ state.2, item e)
    (returns_repeatWhile (by simp) fun state hstate => ?_)
    fun state hstate => returns_pure fun e he => hstate e (List.mem_reverse.1 he)
  refine returns_bind fun ls => ?_
  split
  · exact returns_pure (by simp)
  · split
    · exact returns_bind fun _ => returns_pure (by simpa using hstate)
    · split
      · refine returns_bind fun _ => ?_
        split
        · exact returns_pure (by simp)
        · exact returns_pure (by simpa using hstate)
      · refine (G.returns_scanItem cx hdeeper hstate).bind fun found hfound => ?_
        exact returns_pure (by simpa using hfound)

theorem returns_fragmentTail (inUpdate : Bool) :
    Returns (fragmentTail cx deeper inUpdate) fun items => ∀ e ∈ items, item e := by
  refine Returns.bind (P := fun state : Scanning => ∀ e ∈ state.found, item e)
    (returns_repeatWhile (by simp) fun state hstate => ?_)
    fun state hstate => returns_pure fun e he => hstate e (List.mem_reverse.1 he)
  have hsame : ∀ state' : Scanning, state'.found = state.found →
      ∀ next ∈ some state', ∀ e ∈ next.found, item e := by
    rintro state' hfound next ⟨rfl⟩
    rw [hfound]
    exact hstate
  refine returns_bind fun ls => ?_
  split
  · exact returns_pure (by simp)
  · split
    · exact returns_pure (by simp)
    · dsimp only
      split
      · exact returns_bind fun _ => returns_pure (hsame _ rfl)
      · split
        · exact returns_bind fun _ => returns_pure (hsame _ rfl)
        · split
          · exact returns_bind fun _ => returns_pure (hsame _ rfl)
          · split
            · exact returns_bind fun _ => returns_pure (hsame _ rfl)
            · refine (G.returns_scanItem cx hdeeper hstate).bind fun found hfound => ?_
              exact returns_pure (by simpa using hfound)

theorem returns_fragment : Returns (fragment cx deeper) fun items => ∀ e ∈ items, item e := by
  refine returns_bind fun ls => ?_
  split
  · exact returns_pure (by simp)
  · refine returns_bind fun _ => ?_
    refine (G.returns_fragmentTail cx hdeeper _).bind fun items hitems => returns_pure ?_
    refine List.forall_mem_append.2 ⟨?_, hitems⟩
    rintro e he
    obtain ⟨v, -, rfl⟩ := Option.map_eq_some_iff.1 (Option.mem_toList.1 he)
    exact G.item_var v

/-! ## Lists, calls and `CASE` -/

theorem returns_listOrQuery :
    Returns (listOrQuery cx deeper) fun items => ∀ e ∈ items, item e := by
  refine returns_bind fun ls => ?_
  split
  · exact G.returns_parenFragment cx hdeeper
  · refine (returns_commaSeparated hdeeper).bind fun items hitems => returns_bind fun _ => ?_
    exact returns_pure fun e he => G.item_of_operand (hitems e he)

theorem returns_callArguments :
    Returns (callArguments cx deeper) fun items => ∀ e ∈ items, item e := by
  refine returns_bind fun none => ?_
  split
  · exact returns_pure (by simp)
  · refine returns_bind fun start => ?_
    refine Returns.tryCatch (G.returns_listOrQuery cx hdeeper) fun _ => returns_bind fun _ => ?_
    exact G.returns_parenFragment cx hdeeper

theorem returns_windowClauses :
    Returns (windowClauses cx deeper) fun items => ∀ e ∈ items, item e := by
  have hfragment := G.returns_parenFragment cx hdeeper
  have hwithin : Returns (withinGroup cx deeper) fun items => ∀ e ∈ items, item e := by
    refine returns_bind fun within => ?_
    split
    · exact returns_bind fun _ => returns_bind fun _ => hfragment
    · exact returns_pure (by simp)
  have hover : Returns (overWindow cx deeper) fun items => ∀ e ∈ items, item e := by
    refine returns_bind fun window => ?_
    split
    · exact returns_bind fun _ => hfragment
    · exact returns_pure (by simp)
  refine hwithin.bind fun within hwithin => hover.bind fun window hwindow => ?_
  exact returns_pure (List.forall_mem_append.2 ⟨hwithin, hwindow⟩)

theorem returns_takeNamed : Returns (takeNamed cx deeper) head := by
  refine returns_bind fun name => returns_bind fun _ => returns_bind fun paren => ?_
  split
  · refine (G.returns_callArguments cx hdeeper).bind fun args hargs => ?_
    refine (G.returns_windowClauses cx hdeeper).bind fun more hmore => returns_pure ?_
    exact G.head_call (List.forall_mem_append.2 ⟨hargs, hmore⟩)
  · exact returns_pure (G.head_leaf rfl)

theorem returns_takeCase : Returns (takeCase cx deeper) head := by
  have hinput : Returns (caseInput deeper) fun items => ∀ e ∈ items, operand e := by
    refine returns_bind fun when => ?_
    split
    · exact returns_pure (by simp)
    · exact hdeeper.bind fun e he => returns_pure (by simpa using he)
  have hbranches : ∀ items : List Expr, (∀ e ∈ items, operand e) →
      Returns (whenRound cx deeper items) fun o => ∀ items' ∈ o, ∀ e ∈ items', operand e := by
    intro items hitems
    refine returns_bind fun when => ?_
    split
    · refine hdeeper.bind fun condition hcondition => returns_bind fun _ => ?_
      refine hdeeper.bind fun value hvalue => returns_pure ?_
      rintro items' ⟨rfl⟩
      exact List.forall_mem_append.2 ⟨hitems, by simp [hcondition, hvalue]⟩
    · exact returns_pure (by simp)
  have helse : Returns (caseElse deeper) fun items => ∀ e ∈ items, operand e := by
    refine returns_bind fun otherwise => ?_
    split
    · exact hdeeper.bind fun e he => returns_pure (by simpa using he)
    · exact returns_pure (by simp)
  refine returns_bind fun _ => hinput.bind fun input hinput => ?_
  refine (returns_repeatWhile hinput hbranches).bind fun items hitems => ?_
  refine helse.bind fun otherwise hotherwise => returns_bind fun _ => returns_pure ?_
  refine G.head_parts fun e he => G.item_of_operand ?_
  exact List.forall_mem_append.2 ⟨hitems, hotherwise⟩ e he

/-! ## Heads -/

theorem returns_takeParen : Returns (takeParen cx deeper) head := by
  refine returns_bind fun _ => returns_bind fun ls => ?_
  split
  · refine (G.returns_parenFragment cx hdeeper).bind fun items hitems => ?_
    exact returns_pure (G.head_parts hitems)
  · refine hdeeper.bind fun inner hinner => returns_bind fun comma => ?_
    split
    · refine (G.returns_listOrQuery cx hdeeper).bind fun items hitems => returns_pure ?_
      exact G.head_parts (List.forall_mem_cons.2 ⟨G.item_of_operand hinner, hitems⟩)
    · exact returns_bind fun _ => returns_pure (G.head_paren hinner)

section

variable {Q : Expr → Cursor → Prop} (hhead : ∀ e t, head e → Q e t)
  (hunary : ∀ op s, Ends (takeUnary deeper op) s Q fun _ _ => True)

include hhead hunary

theorem ends_takeWord (l : Lexeme) (ls : List Lexeme) (s : Cursor) :
    Ends (takeWord cx deeper l ls) s Q fun _ _ => True := by
  have hends : ∀ {p : Parser Expr}, Returns p head → Ends p s Q fun _ _ => True :=
    fun h => (h s).mono hhead fun _ _ h => h
  rw [takeWord]
  split
  · exact hends (returns_bind fun _ => returns_pure (G.head_leaf rfl))
  · split
    · exact hends (returns_bind fun _ => returns_pure (G.head_leaf rfl))
    · exact hunary .not s
    · exact hunary .existsRows s
    · exact hends (G.returns_takeCase cx hdeeper)
    · exact hends (returns_bind fun _ => G.returns_takeNamed cx hdeeper)
    · split
      · exact hends (returns_takeCast cx hdeeper G.head_cast _)
      · split
        · exact hends (returns_unexpected cx)
        · exact hends (G.returns_takeNamed cx hdeeper)

/-- A head has the property of heads, unless a prefix operator comes first. -/
theorem ends_takeHead (s : Cursor) : Ends (takeHead cx deeper) s Q fun _ _ => True := by
  have hends : ∀ {p : Parser Expr}, Returns p head → Ends p s Q fun _ _ => True :=
    fun h => (h s).mono hhead fun _ _ h => h
  have hleaf : ∀ {e : Expr}, e.isLeaf → Ends (do advance 1; return e) s Q fun _ _ => True :=
    fun h => hends (returns_bind fun _ => returns_pure (G.head_leaf h))
  rw [takeHead, ends_bind, ends_ahead]
  split
  · exact hends (returns_expected cx _)
  · split
    · exact hleaf rfl
    · exact hleaf rfl
    · exact hleaf rfl
    · exact hleaf rfl
    · exact hunary .minus s
    · exact hunary .plus s
    · exact hunary .bitNot s
    · exact hleaf rfl
    · exact hends (G.returns_takeParen cx hdeeper)
    · exact G.ends_takeWord cx hdeeper hhead hunary _ _ s
    · exact hends (returns_unexpected cx)

end

end Growth

end Parser

end SqlLint
