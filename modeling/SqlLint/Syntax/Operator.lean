import SqlLint.Token.Lexeme

/-!
# Operators

The operators of expressions and how strongly they bind. An infix operator binds with one power
to its left and with the next higher power to its right, so operators of equal strength group to
the left. A prefix operator binds to its right only.
-/

namespace SqlLint

/-- The infix operators. The negated forms `NOT LIKE`, `NOT IN` and `NOT BETWEEN` are not told
apart from the plain ones. -/
inductive BinaryOp where
  | plus
  | minus
  | multiply
  | divide
  | modulo
  | bitAnd
  | bitOr
  | bitXor
  | eq
  | notEq
  | lt
  | ltEq
  | gt
  | gtEq
  | and
  | or
  | like
  | isIn
  | between
  | isNull
  deriving DecidableEq, Repr

namespace BinaryOp

/-- The operators whose result type is derived from their operands. -/
def isArithmetic : BinaryOp → Bool
  | plus | minus | multiply | divide => true
  | _ => false

/-- How strongly the operator binds to its left. -/
def leftPower : BinaryOp → Nat
  | or => 1
  | and => 3
  | eq | notEq | lt | ltEq | gt | gtEq | like | isIn | between | isNull => 7
  | plus | minus | bitAnd | bitOr | bitXor => 9
  | multiply | divide | modulo => 11

/-- How strongly the operator binds to its right. -/
def rightPower (op : BinaryOp) : Nat := op.leftPower + 1

/-- The operators that can be joined with `=` to a compound assignment. -/
def ofCompound? : Token → Option BinaryOp
  | .mark .plus => some plus
  | .mark .minus => some minus
  | .mark .star => some multiply
  | .mark .slash => some divide
  | .mark .percent => some modulo
  | .mark .ampersand => some bitAnd
  | .mark .pipe => some bitOr
  | .mark .caret => some bitXor
  | _ => none

/-- The operator that a mark is. -/
def ofMark? : Mark → Option BinaryOp
  | .plus => some plus
  | .minus => some minus
  | .star => some multiply
  | .slash => some divide
  | .percent => some modulo
  | .ampersand => some bitAnd
  | .pipe => some bitOr
  | .caret => some bitXor
  | .eq => some eq
  | .notEq => some notEq
  | .lt => some lt
  | .ltEq => some ltEq
  | .gt => some gt
  | .gtEq => some gtEq
  | _ => none

/-- The operator that a key word is. -/
def ofKeyword? : Keyword → Option BinaryOp
  | .AND => some and
  | .OR => some or
  | .LIKE => some like
  | .IN => some isIn
  | .BETWEEN => some between
  | .IS => some isNull
  | _ => none

/-- The operator at the start of a list of lexemes, and the number of lexemes it takes. `NOT`
before a key word operator belongs to it. -/
def atStart? : List Lexeme → Option (BinaryOp × Nat)
  | [] => none
  | l :: ls =>
    match l.token with
    | .mark m => (ofMark? m).map (·, 1)
    | .word _ _ =>
      match l.dispatch? with
      | some .NOT => (ls.head?.bind Lexeme.dispatch?).bind fun k => (ofKeyword? k).map (·, 2)
      | some k => (ofKeyword? k).map (·, 1)
      | none => none
    | _ => none

/-- An operator at the start of a list of lexemes, with the number of lexemes that it takes. -/
inductive Found (op : BinaryOp) : Nat → List Lexeme → Prop
  | mark {l : Lexeme} {ls : List Lexeme} {m : Mark} (hl : l.token = .mark m)
    (hop : ofMark? m = some op) : Found op 1 (l :: ls)
  | word {l : Lexeme} {ls : List Lexeme} {k : Keyword} (hl : l.dispatch? = some k)
    (hop : ofKeyword? k = some op) : Found op 1 (l :: ls)
  | negated {l next : Lexeme} {ls : List Lexeme} {k : Keyword} (hl : l.dispatch? = some .NOT)
    (hnext : next.dispatch? = some k) (hop : ofKeyword? k = some op) :
    Found op 2 (l :: next :: ls)

theorem found_of_atStart? {ls : List Lexeme} {op : BinaryOp} {width : Nat}
    (h : atStart? ls = some (op, width)) : Found op width ls := by
  cases ls with
  | nil => cases h
  | cons l ls =>
    rw [atStart?] at h
    split at h
    · next m hm =>
      obtain ⟨_, hop, ⟨⟩⟩ := Option.map_eq_some_iff.1 h
      exact .mark hm hop
    · split at h
      · next hnot =>
        obtain ⟨k, hk, hop⟩ := Option.bind_eq_some_iff.1 h
        obtain ⟨next, hnext, hdispatch⟩ := Option.bind_eq_some_iff.1 hk
        obtain ⟨rest, rfl⟩ := List.head?_eq_some_iff.1 hnext
        obtain ⟨_, hop', ⟨⟩⟩ := Option.map_eq_some_iff.1 hop
        exact .negated hnot hdispatch hop'
      · next k _ hk =>
        obtain ⟨_, hop, ⟨⟩⟩ := Option.map_eq_some_iff.1 h
        exact .word hk hop
      · cases h
    · cases h

end BinaryOp

/-- The prefix operators. -/
inductive UnaryOp where
  | plus
  | minus
  | not
  | bitNot
  | existsRows
  deriving DecidableEq, Repr

/-- How strongly a prefix operator binds to its operand. -/
def UnaryOp.power : UnaryOp → Nat
  | not => 5
  | _ => 13

/-- The explicit conversions. -/
inductive CastKind where
  | cast
  | convert
  | tryCast
  | tryConvert
  deriving DecidableEq, Repr

namespace CastKind

/-- The key word of the conversion. -/
def keyword : CastKind → Keyword
  | cast => .CAST
  | convert => .CONVERT
  | tryCast => .TRY_CAST
  | tryConvert => .TRY_CONVERT

/-- The conversion that a key word begins. -/
def ofKeyword? : Keyword → Option CastKind
  | .CAST => some cast
  | .CONVERT => some convert
  | .TRY_CAST => some tryCast
  | .TRY_CONVERT => some tryConvert
  | _ => none

/-- The feature that the conversion needs. -/
def feature? : CastKind → Option Feature
  | cast => none
  | convert => none
  | tryCast => some .tryCast
  | tryConvert => some .tryConvert

end CastKind

end SqlLint
