import SqlLint.Check.Walk

/-!
# The type of arithmetic

Between two types, arithmetic chooses the one of lower rank, and the right one if the ranks are
equal. This is not symmetric: the types `decimal` and `numeric` have the same rank, and two types
of the same base may differ in length. It is associative all the same, since in a row of types
either way of grouping chooses the last one of least rank. An unknown type makes the result unknown
wherever it stands.

The type of a whole expression follows. Parentheses and the four arithmetic operators only group
their operands, so an expression has the type that is chosen among its operands in a row.

## Main definitions

* `Expr.operands`: the operands of an arithmetic expression, in order
* `DataType.IsLastLeast`: the last type of least rank in a row of types

## Main results

* `DataType.meet_assoc`: the choice between types is associative
* `Check.typeOf_operands`: the type of an expression is the last of least rank among its operands
-/

namespace SqlLint

/-- The operands of an arithmetic expression in order: what is left when its parentheses and its
arithmetic operators are taken away. -/
def Expr.operands : Expr → List Expr
  | binary op left right =>
    if op.isArithmetic then left.operands ++ right.operands else [binary op left right]
  | paren inner => inner.operands
  | e => [e]

theorem Expr.operands_ne_nil : ∀ e : Expr, e.operands ≠ []
  | binary op left right => by
    rw [operands]
    split
    · exact List.append_ne_nil_of_left_ne_nil left.operands_ne_nil _
    · exact List.cons_ne_nil _ _
  | paren inner => inner.operands_ne_nil
  | var _ => List.cons_ne_nil _ _
  | string _ _ => List.cons_ne_nil _ _
  | number _ => List.cons_ne_nil _ _
  | null => List.cons_ne_nil _ _
  | name _ => List.cons_ne_nil _ _
  | cast _ _ _ _ => List.cons_ne_nil _ _
  | unary _ _ => List.cons_ne_nil _ _
  | call _ _ => List.cons_ne_nil _ _
  | parts _ => List.cons_ne_nil _ _

namespace DataType

/-! ## Two types -/

theorem meet_unknown (t : DataType) : t.meet unknown = unknown := by
  cases t <;> rfl

theorem unknown_meet (t : DataType) : unknown.meet t = unknown := rfl

theorem meet_of_lt {b c : BaseType} (h : b.rank < c.rank) (l m : Length) :
    (known b l).meet (known c m) = known b l := if_pos h

theorem meet_of_le {b c : BaseType} (h : c.rank ≤ b.rank) (l m : Length) :
    (known b l).meet (known c m) = known c m := if_neg (Nat.not_lt.2 h)

/-- **The choice between types is associative.** -/
theorem meet_assoc : ∀ r s t : DataType, (r.meet s).meet t = r.meet (s.meet t)
  | unknown, _, _ => rfl
  | known _ _, unknown, _ => rfl
  | known _ _, known _ _, unknown => by rw [meet_unknown, meet_unknown, meet_unknown]
  | known b l, known c m, known d n => by
    rcases Nat.lt_or_ge b.rank c.rank with hbc | hcb <;>
      rcases Nat.lt_or_ge c.rank d.rank with hcd | hdc
    · rw [meet_of_lt hbc, meet_of_lt hcd, meet_of_lt hbc, meet_of_lt (Nat.lt_trans hbc hcd)]
    · rw [meet_of_lt hbc, meet_of_le hdc]
    · rw [meet_of_le hcb, meet_of_lt hcd, meet_of_le hcb]
    · rw [meet_of_le hcb, meet_of_le hdc, meet_of_le (Nat.le_trans hdc hcb)]

/-! ## Types in a row -/

/-- The type of arithmetic between types in a row, which is unknown if there are none. -/
def meetAll : List DataType → DataType
  | [] => unknown
  | [t] => t
  | t :: u :: ts => t.meet (meetAll (u :: ts))

theorem meetAll_cons (t : DataType) {ts : List DataType} (h : ts ≠ []) :
    meetAll (t :: ts) = t.meet (meetAll ts) := by
  cases ts with
  | nil => exact absurd rfl h
  | cons u ts => rfl

/-- A row can be cut anywhere. -/
theorem meetAll_append {ts us : List DataType} (hts : ts ≠ []) (hus : us ≠ []) :
    meetAll (ts ++ us) = (meetAll ts).meet (meetAll us) := by
  induction ts with
  | nil => exact absurd rfl hts
  | cons t ts ih =>
    rw [List.cons_append, meetAll_cons t (List.append_ne_nil_of_right_ne_nil ts hus)]
    by_cases hnil : ts = []
    · subst hnil
      rfl
    · rw [ih hnil, meetAll_cons t hnil, meet_assoc]

theorem meetAll_of_unknown_mem {ts : List DataType} (h : unknown ∈ ts) : meetAll ts = unknown := by
  induction ts with
  | nil => rfl
  | cons t ts ih =>
    by_cases hnil : ts = []
    · subst hnil
      exact (List.mem_singleton.1 h).symm
    · rw [meetAll_cons t hnil]
      rcases List.mem_cons.1 h with rfl | hmem
      · exact unknown_meet _
      · rw [ih hmem, meet_unknown]

/-- The type stands in the row, no type has a lower rank, and none behind it has the same one. -/
def IsLastLeast (ts : List DataType) (t : DataType) : Prop :=
  ∃ base length before after, t = known base length ∧ ts = before ++ t :: after ∧
    (∀ b l, known b l ∈ before → base.rank ≤ b.rank) ∧
    ∀ b l, known b l ∈ after → base.rank < b.rank

/-- One more type in front is chosen only if its rank is lower than that of all others. -/
theorem IsLastLeast.cons {b : BaseType} {l : Length} {ts : List DataType} {t : DataType}
    (h : IsLastLeast ts t) : IsLastLeast (known b l :: ts) ((known b l).meet t) := by
  obtain ⟨base, length, before, after, rfl, rfl, hbefore, hafter⟩ := h
  rcases Nat.lt_or_ge b.rank base.rank with hlt | hle
  · rw [meet_of_lt hlt]
    refine ⟨b, l, [], before ++ known base length :: after, rfl, rfl, by simp, ?_⟩
    intro c m hmem
    rcases List.mem_append.1 hmem with hmem | hmem
    · exact Nat.lt_of_lt_of_le hlt (hbefore c m hmem)
    · rcases List.mem_cons.1 hmem with heq | hmem
      · obtain ⟨rfl, rfl⟩ := DataType.known.inj heq
        exact hlt
      · exact Nat.lt_trans hlt (hafter c m hmem)
  · rw [meet_of_le hle]
    refine ⟨base, length, known b l :: before, after, rfl, rfl, ?_, hafter⟩
    intro c m hmem
    rcases List.mem_cons.1 hmem with heq | hmem
    · obtain ⟨rfl, rfl⟩ := DataType.known.inj heq
      exact hle
    · exact hbefore c m hmem

theorem isLastLeast_meetAll {ts : List DataType} (hts : ts ≠ []) (h : unknown ∉ ts) :
    IsLastLeast ts (meetAll ts) := by
  induction ts with
  | nil => exact absurd rfl hts
  | cons t ts ih =>
    rw [List.mem_cons, not_or] at h
    cases t with
    | unknown => exact absurd rfl h.1
    | known b l =>
      by_cases hnil : ts = []
      · subst hnil
        exact ⟨b, l, [], [], rfl, rfl, by simp, by simp⟩
      · rw [meetAll_cons _ hnil]
        exact (ih hnil h.2).cons

end DataType

namespace Check

open DataType

variable (symbols : SymbolTable)

/-! ## Expressions -/

/-- The type of an expression is chosen among its operands in a row. -/
theorem typeOf_eq_meetAll : ∀ e : Expr,
    typeOf symbols e = meetAll (e.operands.map (typeOf symbols))
  | .binary op left right => by
    rw [Expr.operands]
    split
    · next harith =>
      have hleft : left.operands.map (typeOf symbols) ≠ [] :=
        fun h => left.operands_ne_nil (List.map_eq_nil_iff.1 h)
      have hright : right.operands.map (typeOf symbols) ≠ [] :=
        fun h => right.operands_ne_nil (List.map_eq_nil_iff.1 h)
      rw [List.map_append, meetAll_append hleft hright, ← typeOf_eq_meetAll left,
        ← typeOf_eq_meetAll right, typeOf, if_pos harith]
    · rfl
  | .paren inner => typeOf_eq_meetAll inner
  | .var _ => rfl
  | .string _ _ => rfl
  | .number _ => rfl
  | .null => rfl
  | .name _ => rfl
  | .cast _ _ _ _ => rfl
  | .unary _ _ => rfl
  | .call _ _ => rfl
  | .parts _ => rfl

/-- **The type of an expression depends on its operands in order, and not on how they are grouped.**
It is unknown if one of their types is, and otherwise the last of least rank among them. -/
theorem typeOf_operands (e : Expr) :
    let types := e.operands.map (typeOf symbols)
    (.unknown ∈ types → typeOf symbols e = .unknown) ∧
      (.unknown ∉ types → IsLastLeast types (typeOf symbols e)) ∧
      (∀ e' : Expr, e'.operands.map (typeOf symbols) = types →
        typeOf symbols e' = typeOf symbols e) ∧
      ∀ r s t : DataType, (r.meet s).meet t = r.meet (s.meet t) := by
  intro types
  have htypes : types ≠ [] := fun h => e.operands_ne_nil (List.map_eq_nil_iff.1 h)
  rw [typeOf_eq_meetAll symbols e]
  refine ⟨meetAll_of_unknown_mem, isLastLeast_meetAll htypes, fun e' he' => ?_, meet_assoc⟩
  rw [typeOf_eq_meetAll symbols e', he']

/-- `(@d - '5') * (CAST(@x AS numeric) + 'four')`: a `decimal` and a `numeric` have the least rank,
and the one further to the right gives the type. -/
theorem typeOf_operands_decimal_numeric :
    let symbols := SymbolTable.empty.declare "@d" (.known .decimal .implicit) 1
    let e : Expr := .binary .multiply
      (.paren (.binary .minus (.var ⟨"@D", 2⟩) (.string "5" false)))
      (.paren (.binary .plus (.cast .cast (.var ⟨"@x", 2⟩) ⟨"NUMERIC", [.size 10], 2⟩ none)
        (.string "four" false)))
    e.operands.map (typeOf symbols) = [.known .decimal .implicit, .known .varChar (.explicit 1),
      .known .numeric .implicit, .known .varChar (.explicit 4)] ∧
      typeOf symbols e = .known .numeric .implicit ∧
      IsLastLeast (e.operands.map (typeOf symbols)) (typeOf symbols e) := by
  intro symbols e
  have htypes : e.operands.map (typeOf symbols) = [.known .decimal .implicit,
      .known .varChar (.explicit 1), .known .numeric .implicit, .known .varChar (.explicit 4)] := by
    decide +kernel
  have hknown : DataType.unknown ∉ e.operands.map (typeOf symbols) := by
    rw [htypes]
    decide
  refine ⟨htypes, ?_, (typeOf_operands symbols e).2.1 hknown⟩
  rw [typeOf_eq_meetAll, htypes]
  rfl

end Check

end SqlLint
