import SqlLint.Parse.Expr
import SqlLint.Proofs.Parse.Exact
import SqlLint.Proofs.Parse.StatementFence
import SqlLint.Proofs.Parse.Walk
import SqlLint.Proofs.Syntax.Canonical
import SqlLint.Proofs.Syntax.Renumber
import SqlLint.Proofs.Syntax.Variables

/-!
# Reading expressions back

A canonical expression is read back from its tokens, whatever follows them, provided it is nothing
that continues the expression.

The reader is a loop around a head, not a recursion along the tree. The head of `a * b + c` is `a`,
and the rounds of its loop are the nodes on the way from `a` up to the root. So what is shown for a
tree is not yet that it is read, but that a head is read from which rounds lead to the tree. It
follows for `l + r` from the same for `l` by one more round, and that the loop did not stop earlier
does not have to be said at all.

What remains are the right operands, and the operands of prefix operators. These are read one level
deeper, and there the loop has to stop where the operand ends: the next operator must bind less
strongly than what the operand was asked for. That is the case for every power pending at the right
end of the tree, and `Expr.lt_of_mem_pending` gives it for left operands.

## Main definitions

* `Spells`: lexemes begin with certain tokens, all on one line
* `Writes`: lexemes begin with an expression, its variables on given lines
* `Stops`: no operator of a certain power comes next

## Main results

* `grows_of_canonical`: from a head, rounds lead to a canonical expression
* `parses_expr`: a canonical expression is read back from one line
* `expr_of_tokens`: a canonical expression is read back from any lines, exactly as it was
-/

namespace SqlLint

/-! ## Lexemes and their tokens -/

namespace Keyword

theorem toList_text (k : Keyword) : k.text.toList = k.spelling := by
  cases k <;> rfl

theorem map_toUpper_spelling (k : Keyword) : k.spelling.map Char.toUpper = k.spelling := by
  cases k <;> rfl

end Keyword

theorem BinaryOp.variableName?_token (op : BinaryOp) : op.token.variableName? = none := by
  cases op <;> rfl

theorem UnaryOp.variableName?_token (op : UnaryOp) : op.token.variableName? = none := by
  cases op <;> rfl

namespace Lexeme

variable {l : Lexeme} {k : Keyword}

theorem keyword?_of_token (h : l.token = k.token) : l.keyword? = some k := by
  rw [keyword?, h]
  change Keyword.ofSpelling? (k.text.toList.map Char.toUpper) = some k
  rw [k.toList_text, k.map_toUpper_spelling, k.ofSpelling?_spelling]

theorem dispatch?_of_token (h : l.token = k.token) : l.dispatch? = some k :=
  dispatch?_of_keyword? (keyword?_of_token h)

theorem isKeyword_of_token (h : l.token = k.token) : l.isKeyword k :=
  decide_eq_true (keyword?_of_token h)

theorem isKeyword_eq_false {k' : Keyword} (h : l.keyword? = some k) (hk : k ≠ k') :
    l.isKeyword k' = false := by
  simp [isKeyword, h, hk]

theorem isMark_of_token {m : Mark} (h : l.token = .mark m) : l.isMark m := decide_eq_true h

theorem isMark_eq_false {m m' : Mark} (h : l.token = .mark m) (hm : m ≠ m') :
    l.isMark m' = false := by
  simp [isMark, h, hm]

theorem keyword?_of_mark {m : Mark} (h : l.token = .mark m) : l.keyword? = none := by
  simp [keyword?, h, Token.plainWord?]

theorem isKeyword_of_mark {m : Mark} (h : l.token = .mark m) (key : Keyword) :
    l.isKeyword key = false := by
  simp [isKeyword, keyword?_of_mark h]

theorem variableHere?_of_token {v : Variable} (hv : v.isNamed) (h : l.token = .word v.name none) :
    l.variableHere? = some ⟨v.name, l.line⟩ := by
  obtain ⟨name, hname⟩ := Option.isSome_iff_exists.1 hv
  obtain rfl : v.name = name := Option.some.inj (Option.filter_eq_some_iff.1 hname).1
  rw [variableHere?, variableName?, h, hname]
  rfl

theorem variableHere?_eq_none_of_token {t : Token} (h : l.token = t) (ht : t.variableName? = none) :
    l.variableHere? = none := by
  rw [variableHere?, variableName?, h, ht]
  rfl

/-- A variable is no key word. -/
theorem keyword?_of_variableHere? {v : Variable} (h : l.variableHere? = some v) :
    l.keyword? = none := by
  cases hk : l.keyword? with
  | none => rfl
  | some k =>
    have hnone := (isPlain_of_keyword? hk).noVariable
    rw [hnone] at h
    cases h

end Lexeme

namespace Parser

variable {line : Nat} {ts us : List Token} {ls k : List Lexeme}

/-- The lexemes `ls` begin with the tokens `ts`, each of them on the given line, and go on with
`k`. -/
def Spells (line : Nat) : List Token → List Lexeme → List Lexeme → Prop
  | [], ls, k => ls = k
  | t :: ts, ls, k => ∃ l ms, ls = l :: ms ∧ l.token = t ∧ l.line = line ∧ Spells line ts ms k

theorem spells_append : ∀ {ts : List Token} {ls : List Lexeme},
    Spells line (ts ++ us) ls k ↔ ∃ mid, Spells line ts ls mid ∧ Spells line us mid k
  | [], ls => by simp [Spells]
  | t :: ts, ls => by
    simp only [List.cons_append, Spells, spells_append]
    constructor
    · rintro ⟨l, ms, rfl, ht, hline, mid, hts, hus⟩
      exact ⟨mid, ⟨l, ms, rfl, ht, hline, hts⟩, hus⟩
    · rintro ⟨mid, ⟨l, ms, rfl, ht, hline, hts⟩, hus⟩
      exact ⟨l, ms, rfl, ht, hline, mid, hts, hus⟩

theorem Spells.length_le : ∀ {ts : List Token} {ls : List Lexeme}, Spells line ts ls k →
    k.length ≤ ls.length
  | [], ls, h => Nat.le_of_eq (congrArg List.length h.symm)
  | t :: ts, ls, ⟨l, ms, hls, _, _, hms⟩ => by
    subst hls
    exact Nat.le_succ_of_le hms.length_le

theorem spells_of_map_eq : ∀ {ts : List Token} {ls : List Lexeme},
    ls.map (fun l => (l.token, l.line)) = ts.map (·, line) → Spells line ts ls []
  | [], ls, h => List.map_eq_nil_iff.1 h
  | t :: ts, [], h => by simp at h
  | t :: ts, l :: ls, h => by
    simp only [List.map_cons, List.cons.injEq, Prod.mk.injEq] at h
    exact ⟨l, ls, rfl, h.1.1, h.1.2, spells_of_map_eq h.2⟩

/-! ## Written expressions -/

/-- The lexemes `ls` begin with the expression, written out, and go on with `k`. A variable that the
tree has on line `n` stands on line `f n`; where everything else stands does not matter. -/
def Writes (f : Nat → Nat) : Expr → List Lexeme → List Lexeme → Prop
  | .var v, ls, k => ∃ l, ls = l :: k ∧ l.token = .word v.name none ∧ l.line = f v.line
  | .string text national, ls, k =>
    ∃ l, ls = l :: k ∧ l.token = if national then .nationalString text else .string text
  | .number digits, ls, k => ∃ l, ls = l :: k ∧ l.token = .number digits false
  | .null, ls, k => ∃ l, ls = l :: k ∧ l.token = Keyword.NULL.token
  | .paren inner, ls, k => ∃ l ms r, ls = l :: ms ∧ l.token = .mark .leftParen ∧
      Writes f inner ms (r :: k) ∧ r.token = .mark .rightParen
  | .unary op operand, ls, k => ∃ l ms, ls = l :: ms ∧ l.token = op.token ∧ Writes f operand ms k
  | .binary op left right, ls, k =>
    ∃ o ms, Writes f left ls (o :: ms) ∧ o.token = op.token ∧ Writes f right ms k
  | _, _, _ => False

theorem Writes.length_le {f : Nat → Nat} : ∀ {e : Expr} {ls k : List Lexeme}, Writes f e ls k →
    k.length ≤ ls.length
  | .var _, _, _, ⟨_, rfl, _⟩ => Nat.le_succ _
  | .string _ _, _, _, ⟨_, rfl, _⟩ => Nat.le_succ _
  | .number _, _, _, ⟨_, rfl, _⟩ => Nat.le_succ _
  | .null, _, _, ⟨_, rfl, _⟩ => Nat.le_succ _
  | .paren _, _, _, ⟨_, _, _, rfl, _, hinner, _⟩ =>
    Nat.le_succ_of_le (Nat.le_of_succ_le hinner.length_le)
  | .unary _ _, _, _, ⟨_, _, rfl, _, hoperand⟩ => Nat.le_succ_of_le hoperand.length_le
  | .binary _ _ _, _, _, ⟨_, _, hleft, _, hright⟩ =>
    Nat.le_trans (Nat.le_succ_of_le hright.length_le) hleft.length_le

/-- On one line, the tokens of an expression write it. -/
theorem writes_of_spells : ∀ (e : Expr) {ls k : List Lexeme}, e.canonical →
    Spells line e.tokens ls k → Writes (fun _ => line) e ls k
  | .var _, _, _, _, ⟨l, _, rfl, htoken, hline, rfl⟩ => ⟨l, rfl, htoken, hline⟩
  | .string _ _, _, _, _, ⟨l, _, rfl, htoken, _, rfl⟩ => ⟨l, rfl, htoken⟩
  | .number _, _, _, _, ⟨l, _, rfl, htoken, _, rfl⟩ => ⟨l, rfl, htoken⟩
  | .null, _, _, _, ⟨l, _, rfl, htoken, _, rfl⟩ => ⟨l, rfl, htoken⟩
  | .paren inner, _, _, hcanonical, ⟨l, ms, rfl, htoken, _, hms⟩ => by
    obtain ⟨mid, hinner, r, rs, rfl, hr, -, rfl⟩ := spells_append.1 hms
    exact ⟨l, ms, r, rfl, htoken, writes_of_spells inner hcanonical hinner, hr⟩
  | .unary op operand, _, _, hcanonical, ⟨l, ms, rfl, htoken, _, hms⟩ => by
    simp only [Expr.canonical, Bool.and_eq_true] at hcanonical
    exact ⟨l, ms, rfl, htoken, writes_of_spells operand hcanonical.2 hms⟩
  | .binary op left right, _, _, hcanonical, hspells => by
    simp only [Expr.canonical, Bool.and_eq_true] at hcanonical
    obtain ⟨mid, hleft, o, ms, rfl, ho, -, hright⟩ := spells_append.1 hspells
    exact ⟨o, ms, writes_of_spells left hcanonical.2.1 hleft, ho,
      writes_of_spells right hcanonical.2.2 hright⟩
  | .name _, _, _, h, _ => by simp [Expr.canonical] at h
  | .cast _ _ _ _, _, _, h, _ => by simp [Expr.canonical] at h
  | .call _ _, _, _, h, _ => by simp [Expr.canonical] at h
  | .parts _, _, _, h, _ => by simp [Expr.canonical] at h

/-! ## What comes next -/

/-- What lies ahead does not continue an expression that was asked for with the power `p`: neither a
collation comes next, nor an operator that binds as strongly. -/
structure Stops (p : Nat) (k : List Lexeme) : Prop where
  noCollation : k.head?.any (Lexeme.isKeyword .COLLATE) = false
  weaker : ∀ found ∈ BinaryOp.atStart? k, found.1.leftPower < p

theorem Stops.mono {p q : Nat} (h : Stops p k) (hpq : p ≤ q) : Stops q k :=
  ⟨h.noCollation, fun found hfound => Nat.lt_of_lt_of_le (h.weaker found hfound) hpq⟩

theorem stops_of_mark {l : Lexeme} {m : Mark} (h : l.token = .mark m)
    (hm : BinaryOp.ofMark? m = none) (p : Nat) : Stops p (l :: ls) where
  noCollation := Lexeme.isKeyword_of_mark h .COLLATE
  weaker := by simp [BinaryOp.atStart?, h, hm]

theorem atStart?_of_dispatch? {l : Lexeme} {key : Keyword} (h : l.dispatch? = some key)
    (hnot : key ≠ .NOT) :
    BinaryOp.atStart? (l :: ls) = (BinaryOp.ofKeyword? key).map (·, 1) := by
  cases htoken : l.token with
  | word text quote =>
    rw [BinaryOp.atStart?]
    simp only [htoken, h]
  | _ => simp [Lexeme.dispatch?, htoken, Token.plainWord?] at h

theorem stops_of_keyword? {l : Lexeme} {key : Keyword} (h : l.keyword? = some key)
    (hnot : key ≠ .NOT) (hcollate : key ≠ .COLLATE) (hkey : BinaryOp.ofKeyword? key = none)
    (p : Nat) : Stops p (l :: ls) where
  noCollation := Lexeme.isKeyword_eq_false h hcollate
  weaker := by
    rw [atStart?_of_dispatch? (Lexeme.dispatch?_of_keyword? h) hnot, hkey]
    simp

section

variable {l : Lexeme} {op : BinaryOp} (hplain : op.isPlain) (hop : l.token = op.token)

include hplain hop

theorem atStart?_of_token : BinaryOp.atStart? (l :: ls) = some (op, 1) := by
  have hword : ∀ {key : Keyword}, l.token = key.token → key ≠ .NOT →
      BinaryOp.atStart? (l :: ls) = (BinaryOp.ofKeyword? key).map (·, 1) := fun hkey hnot =>
    atStart?_of_dispatch? (Lexeme.dispatch?_of_token hkey) hnot
  cases op with
  | and => exact hword hop (by decide)
  | or => exact hword hop (by decide)
  | like => cases hplain
  | isIn => cases hplain
  | between => cases hplain
  | isNull => cases hplain
  | _ => simp [BinaryOp.atStart?, hop, BinaryOp.token, BinaryOp.ofMark?]

theorem isKeyword_collate_of_token : l.isKeyword .COLLATE = false := by
  cases op with
  | and => exact Lexeme.isKeyword_eq_false (Lexeme.keyword?_of_token hop) (by decide)
  | or => exact Lexeme.isKeyword_eq_false (Lexeme.keyword?_of_token hop) (by decide)
  | like => cases hplain
  | isIn => cases hplain
  | between => cases hplain
  | isNull => cases hplain
  | _ => exact Lexeme.isKeyword_of_mark hop .COLLATE

theorem stops_of_token {p : Nat} (hp : op.leftPower < p) : Stops p (l :: ls) where
  noCollation := isKeyword_collate_of_token hplain hop
  weaker := by
    rw [atStart?_of_token hplain hop]
    rintro _ ⟨rfl⟩
    exact hp

end

/-- A lexeme that begins a canonical expression. -/
structure Begins (l : Lexeme) : Prop where
  keyword : ∀ key ∈ l.keyword?, key = .NULL ∨ key = .NOT
  mark : ∀ m, l.token = .mark m → m ≠ .semicolon

theorem Begins.isKeyword {l : Lexeme} (h : Begins l) {key : Keyword} (hnull : key ≠ .NULL)
    (hnot : key ≠ .NOT) : l.isKeyword key = false := by
  refine decide_eq_false fun hl => ?_
  rcases h.keyword key hl with rfl | rfl
  · exact hnull rfl
  · exact hnot rfl

theorem Begins.startsStatement {l : Lexeme} (h : Begins l) : l.startsStatement = false := by
  rw [Lexeme.startsStatement]
  cases hl : l.keyword? with
  | none => rfl
  | some key =>
    rcases h.keyword key hl with rfl | rfl
    · rfl
    · rfl

theorem Begins.isMark_semicolon {l : Lexeme} (h : Begins l) : l.isMark .semicolon = false :=
  decide_eq_false fun hl => h.mark .semicolon hl rfl

theorem begins_of_mark {l : Lexeme} {m : Mark} (h : l.token = .mark m) (hm : m ≠ .semicolon) :
    Begins l := by
  refine ⟨by simp [Lexeme.keyword?_of_mark h], fun m' hm' => ?_⟩
  obtain rfl : m = m' := Token.mark.inj (h.symm.trans hm')
  exact hm

theorem begins_of_keyword {l : Lexeme} {key : Keyword} (h : l.token = key.token)
    (hkey : key = .NULL ∨ key = .NOT) : Begins l := by
  refine ⟨?_, by simp [h, Keyword.token]⟩
  rw [Lexeme.keyword?_of_token h]
  rintro _ ⟨rfl⟩
  exact hkey

theorem begins_of_no_word {l : Lexeme} (hword : l.keyword? = none)
    (hmark : ∀ m, l.token ≠ .mark m) : Begins l :=
  ⟨by simp [hword], fun m hm => absurd hm (hmark m)⟩

/-- A canonical expression begins with something that begins no statement. -/
theorem begins_of_writes {f : Nat → Nat} : ∀ (e : Expr) {ls k : List Lexeme}, e.canonical →
    Writes f e ls k → ∃ l ms, ls = l :: ms ∧ Begins l
  | .var v, _, k, hcanonical, ⟨l, hls, htoken, _⟩ => by
    have hword := Lexeme.keyword?_of_variableHere? (Lexeme.variableHere?_of_token hcanonical htoken)
    exact ⟨l, k, hls, begins_of_no_word hword (by simp [htoken])⟩
  | .string text national, _, k, _, ⟨l, hls, htoken⟩ => by
    refine ⟨l, k, hls, begins_of_no_word ?_ fun m hm => ?_⟩
    · cases national <;> simp [Lexeme.keyword?, htoken, Token.plainWord?]
    · cases national <;> simp [htoken] at hm
  | .number digits, _, k, _, ⟨l, hls, htoken⟩ =>
    ⟨l, k, hls, begins_of_no_word (by simp [Lexeme.keyword?, htoken, Token.plainWord?])
      (by simp [htoken])⟩
  | .null, _, k, _, ⟨l, hls, htoken⟩ => ⟨l, k, hls, begins_of_keyword htoken (.inl rfl)⟩
  | .paren inner, _, _, _, ⟨l, ms, _, hls, htoken, _⟩ =>
    ⟨l, ms, hls, begins_of_mark htoken (by decide)⟩
  | .unary op operand, _, _, hcanonical, ⟨l, ms, hls, htoken, _⟩ => by
    refine ⟨l, ms, hls, ?_⟩
    cases op with
    | not => exact begins_of_keyword htoken (.inr rfl)
    | existsRows => simp [Expr.canonical] at hcanonical
    | plus => exact begins_of_mark htoken (by decide)
    | minus => exact begins_of_mark htoken (by decide)
    | bitNot => exact begins_of_mark htoken (by decide)
  | .binary op left right, _, _, hcanonical, ⟨_, _, hleft, _⟩ => by
    simp only [Expr.canonical, Bool.and_eq_true] at hcanonical
    exact begins_of_writes left hcanonical.2.1 hleft

theorem begins_of_spells (e : Expr) (hcanonical : e.canonical)
    (hspells : Spells line e.tokens ls k) : ∃ l ms, ls = l :: ms ∧ Begins l :=
  begins_of_writes e hcanonical (writes_of_spells e hcanonical hspells)

/-! ## Rounds -/

section

variable {cx : Context} {deeper : Nat → Parser Expr}

theorem parses_infixRound_none {m : Nat} (h : Stops m k) (e : Expr) :
    Parses (infixRound cx deeper m e) k none k := by
  refine parses_bind_eatIf_no h.noCollation (parses_bind_ahead ?_)
  split
  · exact parses_pure none k
  · next op width hfound =>
    have hweaker : op.leftPower < m := h.weaker (op, width) hfound
    rw [if_pos hweaker]
    exact parses_pure none k

theorem takeRight_eq {op : BinaryOp} (hplain : op.isPlain) :
    takeRight cx deeper op = deeper op.rightPower := by
  cases op with
  | like => cases hplain
  | isIn => cases hplain
  | between => cases hplain
  | isNull => cases hplain
  | _ => rfl

theorem parses_infixRound_some {m : Nat} {op : BinaryOp} {l : Lexeme} {left right : Expr}
    (hplain : op.isPlain) (hop : l.token = op.token) (hm : m ≤ op.leftPower)
    (hright : Parses (deeper op.rightPower) ls right k) :
    Parses (infixRound cx deeper m left) (l :: ls) (some (.binary op left right)) k := by
  refine parses_bind_eatIf_no (isKeyword_collate_of_token hplain hop) (parses_bind_ahead ?_)
  rw [atStart?_of_token hplain hop]
  have hweaker : ¬op.leftPower < m := Nat.not_lt.2 hm
  simp only [if_neg hweaker, takeRight_eq hplain]
  exact parses_bind_advance_one (hright.bind (parses_pure _ k))

/-! ## Heads -/

theorem parses_takeHead_var {l : Lexeme} {v : Variable} (hv : v.isNamed)
    (h : l.token = .word v.name none) :
    Parses (takeHead cx deeper) (l :: k) (.var ⟨v.name, l.line⟩) k := by
  refine parses_bind_ahead ?_
  simp only [h, takeWord, Lexeme.variableHere?_of_token hv h]
  exact parses_bind_advance_one (parses_pure _ k)

theorem parses_takeHead_null {l : Lexeme} (h : l.token = Keyword.NULL.token) :
    Parses (takeHead cx deeper) (l :: k) .null k := by
  have hvariable := (Lexeme.isPlain_of_keyword? (Lexeme.keyword?_of_token h)).noVariable
  refine parses_bind_ahead ?_
  simp only [h, Keyword.token, takeWord, hvariable, Lexeme.dispatch?_of_token h]
  exact parses_bind_advance_one (parses_pure _ k)

theorem parses_takeHead_unary {l : Lexeme} {op : UnaryOp} {operand : Expr} (hop : op ≠ .existsRows)
    (h : l.token = op.token) (hoperand : Parses (deeper op.power) ls operand k) :
    Parses (takeHead cx deeper) (l :: ls) (.unary op operand) k := by
  have hunary : Parses (takeUnary deeper op) (l :: ls) (.unary op operand) k :=
    parses_bind_advance_one (hoperand.bind (parses_pure _ k))
  refine parses_bind_ahead ?_
  cases op with
  | existsRows => exact absurd rfl hop
  | not =>
    have hvariable := (Lexeme.isPlain_of_keyword? (Lexeme.keyword?_of_token h)).noVariable
    simp only [h, UnaryOp.token, Keyword.token, takeWord, hvariable, Lexeme.dispatch?_of_token h]
    exact hunary
  | plus =>
    simp only [h, UnaryOp.token]
    exact hunary
  | minus =>
    simp only [h, UnaryOp.token]
    exact hunary
  | bitNot =>
    simp only [h, UnaryOp.token]
    exact hunary

theorem parses_takeHead_paren {l l' r : Lexeme} {inner : Expr} {ms : List Lexeme}
    (hl : l.token = .mark .leftParen) (hr : r.token = .mark .rightParen) (hfirst : Begins l')
    (hinner : Parses (deeper 0) (l' :: ms) inner (r :: k)) :
    Parses (takeHead cx deeper) (l :: l' :: ms) (.paren inner) k := by
  have hquery : opensQuery (l' :: ms) = false := by
    simp [opensQuery, hfirst.isKeyword]
  refine parses_bind_ahead ?_
  simp only [hl]
  refine parses_bind_advance_one (parses_bind_ahead ?_)
  simp only [hquery, Bool.false_eq_true, if_false]
  refine hinner.bind (parses_bind_eatIf_no (Lexeme.isMark_eq_false hr (by decide)) ?_)
  exact Parses.bind (parses_expect (Lexeme.isMark_of_token hr)) (parses_pure _ k)

end

/-! ## Expressions -/

section

variable (cx : Context) (line : Nat)

/-- A head is read, and rounds from there lead to the expression `e`. -/
def Grows (levels m : Nat) (ls : List Lexeme) (e : Expr) (k : List Lexeme) : Prop :=
  ∃ head mid, Parses (takeHead cx (expr cx levels)) ls head mid ∧
    Chain (infixRound cx (expr cx levels) m) head mid e k

variable {cx} in
theorem grows_of_head {levels m : Nat} {e : Expr}
    (h : Parses (takeHead cx (expr cx levels)) ls e k) : Grows cx levels m ls e k :=
  ⟨e, k, h, .refl e k⟩

variable {cx} in
/-- What has grown up to a place where no operator continues it has been read. -/
theorem Grows.parses_expr {levels m : Nat} {e : Expr} (h : Grows cx levels m ls e k)
    (hstops : Stops m k) : Parses (expr cx (levels + 1) m) ls e k := by
  obtain ⟨head, mid, hhead, hchain⟩ := h
  exact hhead.bind (hchain.parses_repeatWhile (parses_infixRound_none hstops e))

/-- **Canonical expressions grow from their tokens**, if nothing that lies behind them is as strong
as the powers that are pending at their right end. -/
theorem grows_of_canonical (f : Nat → Nat) : ∀ (e : Expr) {levels m : Nat} {ls k : List Lexeme},
    e.canonical → e.nesting ≤ levels + 1 → e.binds m → Writes f e ls k →
    (∀ p ∈ e.pending, Stops p k) → Grows cx levels m ls (e.renumber f) k
  | .var v, _, _, _, k, hcanonical, _, _, ⟨l, hls, htoken, hline⟩, _ => by
    have hrenumber : (Expr.var v).renumber f = .var ⟨v.name, l.line⟩ := by
      rw [hline]
      rfl
    rw [hls, hrenumber]
    exact grows_of_head (parses_takeHead_var hcanonical htoken)
  | .string text national, _, _, _, k, _, _, _, ⟨l, hls, htoken⟩, _ => by
    subst hls
    refine grows_of_head (parses_bind_ahead ?_)
    cases national <;>
    · simp only [htoken, if_true, if_false, Bool.false_eq_true]
      exact parses_bind_advance_one (parses_pure _ k)
  | .number digits, _, _, _, k, _, _, _, ⟨l, hls, htoken⟩, _ => by
    subst hls
    refine grows_of_head (parses_bind_ahead ?_)
    simp only [htoken]
    exact parses_bind_advance_one (parses_pure _ k)
  | .null, _, _, _, _, _, _, _, ⟨l, hls, htoken⟩, _ => by
    subst hls
    exact grows_of_head (parses_takeHead_null htoken)
  | .paren inner, levels, _, _, k, hcanonical, hnesting, _, ⟨l, ms, r, hls, htoken, hinner, hr⟩,
      _ => by
    subst hls
    obtain ⟨l', ms', rfl, hfirst⟩ := begins_of_writes inner hcanonical hinner
    have hdeep : inner.nesting ≤ levels := Nat.le_of_succ_le_succ hnesting
    obtain ⟨n, rfl⟩ := Nat.exists_eq_add_one.2 (Nat.lt_of_lt_of_le inner.nesting_pos hdeep)
    have hstops : ∀ p, Stops p (r :: k) := stops_of_mark hr rfl
    have hgrows := grows_of_canonical f inner hcanonical hdeep inner.binds_zero hinner
      fun p _ => hstops p
    exact grows_of_head (parses_takeHead_paren htoken hr hfirst (hgrows.parses_expr (hstops 0)))
  | .unary op operand, levels, _, _, _, hcanonical, hnesting, _, ⟨l, ms, hls, htoken, hoperand⟩,
      hpending => by
    subst hls
    simp only [Expr.canonical, Bool.and_eq_true, decide_eq_true_eq] at hcanonical
    rw [Expr.pending, List.forall_mem_cons] at hpending
    have hdeep : operand.nesting ≤ levels := Nat.le_of_succ_le_succ hnesting
    obtain ⟨n, rfl⟩ := Nat.exists_eq_add_one.2 (Nat.lt_of_lt_of_le operand.nesting_pos hdeep)
    have hgrows := grows_of_canonical f operand hcanonical.2 hdeep hcanonical.1.2 hoperand
      hpending.2
    exact grows_of_head
      (parses_takeHead_unary hcanonical.1.1 htoken (hgrows.parses_expr hpending.1))
  | .binary op l r, levels, m, _, _, hcanonical, hnesting, hbinds, ⟨o, ms, hleft, ho, hright⟩,
      hpending => by
    simp only [Expr.canonical, Bool.and_eq_true] at hcanonical
    obtain ⟨⟨hplain, ⟨hl, hr⟩, habove⟩, hcanonical⟩ := hcanonical
    rw [Expr.pending, List.forall_mem_cons] at hpending
    rw [Expr.nesting, Expr.depth, Nat.max_le] at hnesting
    have hm : m ≤ op.leftPower := of_decide_eq_true hbinds
    -- up to the left operand
    have hstops : ∀ p ∈ l.pending, Stops p (o :: ms) := fun p hp =>
      stops_of_token hplain ho (Expr.lt_of_mem_pending l hcanonical.1 hl habove p hp)
    obtain ⟨head, mid, hhead, hchain⟩ :=
      grows_of_canonical f l hcanonical.1 hnesting.1 (Expr.binds_of_le hm hl) hleft hstops
    -- one more round, which reads the right operand
    have hdeep : r.nesting ≤ levels := Nat.le_of_succ_le_succ hnesting.2
    obtain ⟨n, rfl⟩ := Nat.exists_eq_add_one.2 (Nat.lt_of_lt_of_le r.nesting_pos hdeep)
    have hgrows := grows_of_canonical f r hcanonical.2 hdeep hr hright hpending.2
    refine ⟨head, mid, hhead, hchain.trans (Chain.single ?_ (Nat.lt_succ_of_le hright.length_le))⟩
    exact parses_infixRound_some hplain ho hm (hgrows.parses_expr hpending.1)

/-- A canonical expression that is written out is read back, if nothing that lies behind it
continues it. -/
theorem parses_expr_of_writes {f : Nat → Nat} {e : Expr} {levels : Nat} (hcanonical : e.canonical)
    (hnesting : e.nesting ≤ levels) (hwrites : Writes f e ls k) (hstops : Stops 0 k) :
    Parses (expr cx levels 0) ls (e.renumber f) k := by
  obtain ⟨n, rfl⟩ := Nat.exists_eq_add_one.2 (Nat.lt_of_lt_of_le e.nesting_pos hnesting)
  have hgrows := grows_of_canonical cx f e hcanonical hnesting e.binds_zero hwrites
    fun p _ => hstops.mono (Nat.zero_le p)
  exact hgrows.parses_expr hstops

/-- On one line, a canonical expression is read back from its tokens. -/
theorem parses_expr {e : Expr} {levels : Nat} (hcanonical : e.canonical)
    (hnesting : e.nesting ≤ levels) (hspells : Spells line e.tokens ls k) (hstops : Stops 0 k) :
    Parses (expr cx levels 0) ls (e.renumber fun _ => line) k :=
  parses_expr_of_writes cx hcanonical hnesting (writes_of_spells e hcanonical hspells) hstops

end

/-! ## Expressions on any lines -/

/-- Among the tokens of a canonical expression, those of variables are the tree's own. -/
theorem filterMap_variableName?_tokens : ∀ e : Expr, e.canonical →
    e.tokens.filterMap Token.variableName? = e.vars.map (·.name)
  | .var v, hcanonical => by
    obtain ⟨name, hname⟩ := Option.isSome_iff_exists.1 (show v.isNamed from hcanonical)
    obtain rfl : v.name = name := Option.some.inj (Option.filter_eq_some_iff.1 hname).1
    simp [Expr.tokens, Expr.vars, hname]
  | .string _ national, _ => by cases national <;> rfl
  | .number _, _ => rfl
  | .null, _ => rfl
  | .paren inner, hcanonical => by
    have hparens : ∀ m, (Token.mark m).variableName? = none := fun _ => rfl
    rw [Expr.tokens, List.filterMap_cons_none (hparens _), List.filterMap_append,
      List.filterMap_cons_none (hparens _), List.filterMap_nil, List.append_nil]
    exact filterMap_variableName?_tokens inner hcanonical
  | .unary op operand, hcanonical => by
    simp only [Expr.canonical, Bool.and_eq_true] at hcanonical
    rw [Expr.tokens, List.filterMap_cons_none op.variableName?_token]
    exact filterMap_variableName?_tokens operand hcanonical.2
  | .binary op left right, hcanonical => by
    simp only [Expr.canonical, Bool.and_eq_true] at hcanonical
    rw [Expr.tokens, List.filterMap_append, List.filterMap_cons_none op.variableName?_token,
      Expr.vars, List.map_append, filterMap_variableName?_tokens left hcanonical.2.1,
      filterMap_variableName?_tokens right hcanonical.2.2]
  | .name _, h => by simp [Expr.canonical] at h
  | .cast _ _ _ _, h => by simp [Expr.canonical] at h
  | .call _ _, h => by simp [Expr.canonical] at h
  | .parts _, h => by simp [Expr.canonical] at h

/-- Lexemes with the tokens of a canonical expression, and with its variables on their lines, write
it. -/
theorem writes_of_tokens : ∀ (e : Expr) {ls : List Lexeme} (k : List Lexeme), e.canonical →
    ls.map Lexeme.token = e.tokens → ls.filterMap Lexeme.variableHere? = e.vars →
    Writes id e (ls ++ k) k
  | .var v, ls, k, hcanonical, htokens, hvars => by
    obtain ⟨l, rfl, htoken⟩ := List.map_eq_singleton_iff.1 htokens
    have hhere := Lexeme.variableHere?_of_token hcanonical htoken
    have hline : l.line = v.line := by
      rw [List.filterMap_cons_some hhere] at hvars
      exact congrArg Variable.line (List.cons.inj hvars).1
    exact ⟨l, rfl, htoken, hline⟩
  | .string text national, ls, k, _, htokens, _ => by
    obtain ⟨l, rfl, htoken⟩ := List.map_eq_singleton_iff.1 htokens
    exact ⟨l, rfl, htoken⟩
  | .number digits, ls, k, _, htokens, _ => by
    obtain ⟨l, rfl, htoken⟩ := List.map_eq_singleton_iff.1 htokens
    exact ⟨l, rfl, htoken⟩
  | .null, ls, k, _, htokens, _ => by
    obtain ⟨l, rfl, htoken⟩ := List.map_eq_singleton_iff.1 htokens
    exact ⟨l, rfl, htoken⟩
  | .paren inner, ls, k, hcanonical, htokens, hvars => by
    obtain ⟨l, ms, rfl, htoken, hms⟩ := List.map_eq_cons_iff.1 htokens
    obtain ⟨before, rs, rfl, hbefore, hrs⟩ := List.map_eq_append_iff.1 hms
    obtain ⟨r, rfl, hr⟩ := List.map_eq_singleton_iff.1 hrs
    have hopening := Lexeme.variableHere?_eq_none_of_token htoken rfl
    have hclosing := Lexeme.variableHere?_eq_none_of_token hr rfl
    rw [List.filterMap_cons_none hopening, List.filterMap_append,
      List.filterMap_cons_none hclosing, List.filterMap_nil, List.append_nil] at hvars
    refine ⟨l, before ++ r :: k, r, by simp, htoken, ?_, hr⟩
    exact writes_of_tokens inner (r :: k) hcanonical hbefore hvars
  | .unary op operand, ls, k, hcanonical, htokens, hvars => by
    simp only [Expr.canonical, Bool.and_eq_true] at hcanonical
    obtain ⟨l, ms, rfl, htoken, hms⟩ := List.map_eq_cons_iff.1 htokens
    have hplain := Lexeme.variableHere?_eq_none_of_token htoken op.variableName?_token
    rw [List.filterMap_cons_none hplain] at hvars
    exact ⟨l, ms ++ k, rfl, htoken, writes_of_tokens operand k hcanonical.2 hms hvars⟩
  | .binary op left right, ls, k, hcanonical, htokens, hvars => by
    simp only [Expr.canonical, Bool.and_eq_true] at hcanonical
    obtain ⟨before, os, rfl, hbefore, hos⟩ := List.map_eq_append_iff.1 htokens
    obtain ⟨o, ms, rfl, ho, hms⟩ := List.map_eq_cons_iff.1 hos
    have hplain := Lexeme.variableHere?_eq_none_of_token ho op.variableName?_token
    -- the tokens of the left operand say how many of the variables are its own
    have hlength : (before.filterMap Lexeme.variableHere?).length = left.vars.length := by
      have hnames := filterMap_variableName?_tokens left hcanonical.2.1
      rw [← hbefore, List.filterMap_map] at hnames
      have hcount := congrArg List.length hnames
      rw [List.length_map] at hcount
      rw [← hcount, ← List.length_map (f := Variable.name), List.map_filterMap]
      congr 2
      funext l
      simp [Lexeme.variableHere?, Lexeme.variableName?, Option.map_map, Function.comp_def]
    rw [List.filterMap_append, List.filterMap_cons_none hplain] at hvars
    obtain ⟨hleft, hright⟩ := List.append_inj hvars hlength
    refine ⟨o, ms ++ k, ?_, ho, writes_of_tokens right k hcanonical.2.2 hms hright⟩
    rw [List.append_assoc]
    exact writes_of_tokens left (o :: (ms ++ k)) hcanonical.2.1 hbefore hleft
  | .name _, _, _, h, _, _ => by simp [Expr.canonical] at h
  | .cast _ _ _ _, _, _, h, _, _ => by simp [Expr.canonical] at h
  | .call _ _, _, _, h, _, _ => by simp [Expr.canonical] at h
  | .parts _, _, _, h, _, _ => by simp [Expr.canonical] at h

/-- **A canonical expression is read back from its tokens**, whatever the version, whatever has been
recorded before and on whatever lines the tokens stand, as soon as there are enough levels left for
its nesting and neither a collation nor an operator follows. -/
theorem expr_of_tokens (cx : Context) {e : Expr} {levels : Nat} (hcanonical : e.canonical)
    (hnesting : e.nesting ≤ levels) {ls k : List Lexeme} (htokens : ls.map Lexeme.token = e.tokens)
    (hvars : ls.filterMap Lexeme.variableHere? = e.vars)
    (hcollation : k.head?.any (Lexeme.isKeyword .COLLATE) = false)
    (hoperator : BinaryOp.atStart? k = none) {s : Cursor} (hs : s.rest = ls ++ k) :
    expr cx levels 0 s = .ok e (s.moveTo k) := by
  have hstops : Stops 0 k := ⟨hcollation, by simp [hoperator]⟩
  have hparses := parses_expr_of_writes cx hcanonical hnesting
    (writes_of_tokens e k hcanonical htokens hvars) hstops
  rw [Expr.renumber_id] at hparses
  exact hparses s hs

/-- `NOT @a = 1 + 2 * - (@b OR NULL) AND @c` with a line break before each variable, inside
parentheses that were opened before. -/
theorem expr_of_tokens_not_and :
    let e : Expr := .binary .and
      (.unary .not (.binary .eq (.var ⟨"@a", 2⟩) (.binary .plus (.number "1")
        (.binary .multiply (.number "2")
          (.unary .minus (.paren (.binary .or (.var ⟨"@b", 3⟩) .null)))))))
      (.var ⟨"@c", 4⟩)
    let lines := [1, 2, 2, 2, 2, 2, 2, 2, 2, 3, 3, 3, 3, 3, 4]
    let ls : List Lexeme := List.zipWith (fun t n => ⟨t, n, false⟩) e.tokens lines
    let k : List Lexeme := [⟨.mark .rightParen, 4, false⟩]
    e.canonical ∧ e.nesting = 8 ∧
      expr ⟨.sql2000, 4⟩ 8 0 ⟨(ls ++ k : List Lexeme), []⟩ = .ok e ⟨k, []⟩ := by
  intro e lines ls k
  exact ⟨by decide, by decide, expr_of_tokens _ (by decide) (by decide) rfl rfl rfl rfl rfl⟩

end Parser

end SqlLint
