import Mathlib.Data.List.Chain
import Mathlib.Data.List.Forall2
import SqlLint.Proofs.Parse.Declaration
import SqlLint.Proofs.Parse.Precedence

/-!
# Expressions leave a trace of what they pass

A tree can be written in order: the left operand, the operator, the right operand. If it has been
read from variables, literals, parentheses and operators, then what the reader has passed is just
that, up to the case of key words. Together with `expr_of_tokens`, by which canonical trees are read
back, this says what text of operators is accepted, and as what.

## What leaves no trace

`NOT` in front of `LIKE`, `IN` and `BETWEEN` belongs to the operator, and the tree does not tell the
negated operator from the plain one. The same test takes `NOT` in front of `AND` and `OR`, where
nothing is there to be negated: `@a NOT AND @b` is read as `@a AND @b`. `Shown` allows for this one
word, and for nothing else.

`AND` and `OR` are names where an operand is expected, and in front of a parenthesis they are names
of functions. The arguments of a call that are no expressions are scanned, so `OR(1 2)` keeps
neither of the numbers. Nothing is said of trees with a call in them.

## The argument

The reader is a loop around a head. The trace of the loop grows at its right end only: a round puts
an operator and a right operand behind what has been passed, and the node of the two above the tree.
Whether a tree has a call in it is known only when the tree is there. What is carried along the loop
is therefore conditional: if the tree has no call, then it is the trace of what has been passed.

## Main definitions

* `Lexeme.isOperatorText`: variables, literals, parentheses and operators
* `Expr.inOrder`: the tokens of a tree in order
* `Lexeme.Shows`, `Shown`: lexemes that are certain tokens, up to the case of key words
* `Cursor.Traces`: two cursors with certain tokens between them

## Main results

* `traced_infixRound`, `traced_operatorChain`: a round, and the whole loop
* `expr_trace`: an expression is the trace of what has been passed
* `not_expr_trace`: `NOT` before `AND` is passed without a trace
-/

namespace SqlLint

/-! ## Text of operators -/

/-- The marks that are operators, and parentheses. -/
def Mark.isOperatorText : Mark → Bool
  | leftParen | rightParen | tilde => true
  | plus | minus | star | slash | percent | ampersand | pipe | caret => true
  | eq | notEq | lt | ltEq | gt | gtEq => true
  | _ => false

/-- The key words of operator text. -/
def Keyword.isOperatorText : Keyword → Bool
  | NULL | NOT | AND | OR => true
  | _ => false

namespace Lexeme

/-- Whether the lexeme is a variable, a number without a final `L`, a string, `NULL`, a parenthesis
or one of the operators that stand between or before expressions only. -/
def isOperatorText (l : Lexeme) : Bool :=
  match l.token with
  | .number _ long => !long
  | .string _ => true
  | .nationalString _ => true
  | .escapedString _ => true
  | .mark m => m.isOperatorText
  | .word _ _ => l.variableHere?.isSome || l.keyword?.any Keyword.isOperatorText
  | _ => false

/-- Whether `NOT` and the next lexeme would make up a negated `AND` or `OR`. -/
def negates (k l : Lexeme) : Bool :=
  k.isKeyword .NOT && (l.isKeyword .AND || l.isKeyword .OR)

end Lexeme

/-- The lexemes are variables, literals, parentheses and operators. -/
def OperatorText (ls : List Lexeme) : Prop := ∀ l ∈ ls, l.isOperatorText

namespace OperatorText

variable {l : Lexeme} {ls ms : List Lexeme}

theorem of_suffix (h : OperatorText ls) (hms : ms <:+ ls) : OperatorText ms :=
  fun l hl => h l (hms.subset hl)

theorem head (h : OperatorText (l :: ls)) : l.isOperatorText := (List.forall_mem_cons.1 h).1

theorem tail (h : OperatorText (l :: ls)) : OperatorText ls := (List.forall_mem_cons.1 h).2

end OperatorText

/-! ## Words of operator text -/

theorem Token.eq_of_plainWord? {t : Token} {text : String} (h : t.plainWord? = some text) :
    t = .word text none := by
  cases t with
  | word text' quote =>
    cases quote with
    | none => exact congrArg (Token.word · none) (Option.some.inj h)
    | some q => cases h
  | _ => cases h

namespace Lexeme

variable {l : Lexeme} {k : Keyword}

theorem token_of_variableHere? {v : Variable} (h : l.variableHere? = some v) :
    l.token = .word v.name none := by
  obtain ⟨name, hname, rfl⟩ := Option.map_eq_some_iff.1 h
  exact Token.eq_of_plainWord? (Option.filter_eq_some_iff.1 hname).1

theorem token_of_keyword? (h : l.keyword? = some k) : ∃ text, l.token = .word text none := by
  obtain ⟨text, htext, -⟩ := Option.bind_eq_some_iff.1 h
  exact ⟨text, Token.eq_of_plainWord? htext⟩

/-- A word of operator text is a variable or one of its key words. -/
theorem isOperatorText_word {text : String} {quote : Option Quote} (h : l.isOperatorText)
    (hword : l.token = .word text quote) (hv : l.variableHere? = none) :
    ∃ k, l.keyword? = some k ∧ k.isOperatorText := by
  simpa [isOperatorText, hword, hv, Option.any_eq_true] using h

/-- In operator text the two tests for key words agree. -/
theorem keyword?_of_isOperatorText (h : l.isOperatorText) (hk : l.dispatch? = some k) :
    l.keyword? = some k ∧ k.isOperatorText := by
  obtain ⟨text, htext, -⟩ := Option.bind_eq_some_iff.1 hk
  obtain ⟨k', hk', htext⟩ := isOperatorText_word h (Token.eq_of_plainWord? htext)
    (isPlain_of_dispatch? hk).noVariable
  obtain rfl : k' = k := Option.some.inj ((dispatch?_of_keyword? hk').symm.trans hk)
  exact ⟨hk', htext⟩

theorem isMark_of_isOperatorText (h : l.isOperatorText) {m : Mark} (hm : m.isOperatorText = false) :
    l.isMark m = false := by
  rw [isMark, decide_eq_false_iff_not]
  intro htoken
  rw [isOperatorText, htoken] at h
  exact Bool.false_ne_true (hm.symm.trans h)

theorem isKeyword_of_isOperatorText (h : l.isOperatorText) (hk : k.isOperatorText = false) :
    l.isKeyword k = false := by
  rw [isKeyword, decide_eq_false_iff_not]
  intro hkeyword
  have htext := (keyword?_of_isOperatorText h (dispatch?_of_keyword? hkeyword)).2
  exact Bool.false_ne_true (hk.symm.trans htext)

end Lexeme

/-! ## Trees in order -/

/-- The tokens of a name: its parts with periods between them. A star in the place of an operand
is kept as a name, too. -/
def nameTokens (path : List String) : List Token :=
  if path = ["*"] then [.mark .star]
  else [Token.mark .period].intercalate (path.map fun part => [.word part none])

namespace Expr

/-- The tokens of an expression of variables, names, literals, operators and parentheses, in order.
Nothing is said of other expressions. -/
def inOrder : Expr → List Token
  | var v => [.word v.name none]
  | string text national => [if national then .nationalString text else .string text]
  | number digits => [.number digits false]
  | null => [Keyword.NULL.token]
  | name path => nameTokens path
  | binary op l r => l.inOrder ++ op.token :: r.inOrder
  | unary op operand => op.token :: operand.inOrder
  | paren inner => .mark .leftParen :: (inner.inOrder ++ [.mark .rightParen])
  | _ => []

/-- Whether the expression is a call. -/
def isCall : Expr → Bool
  | call _ _ => true
  | _ => false

/-- No node of the expression is a call. -/
def CallFree (e : Expr) : Prop := ∀ node ∈ e.nodes, ¬node.isCall

theorem CallFree.left {op : BinaryOp} {l r : Expr} (h : (binary op l r).CallFree) : l.CallFree := by
  rw [CallFree, nodes, List.forall_mem_cons, List.forall_mem_append] at h
  exact h.2.1

theorem CallFree.right {op : BinaryOp} {l r : Expr} (h : (binary op l r).CallFree) :
    r.CallFree := by
  rw [CallFree, nodes, List.forall_mem_cons, List.forall_mem_append] at h
  exact h.2.2

theorem CallFree.operand {op : UnaryOp} {e : Expr} (h : (unary op e).CallFree) : e.CallFree := by
  rw [CallFree, nodes, List.forall_mem_cons] at h
  exact h.2

theorem CallFree.inner {e : Expr} (h : (paren e).CallFree) : e.CallFree := by
  rw [CallFree, nodes, List.forall_mem_cons] at h
  exact h.2

theorem not_callFree_call (path : List String) (args : List Expr) : ¬(call path args).CallFree := by
  rw [CallFree, nodes, List.forall_mem_cons]
  exact fun h => h.1 rfl

end Expr

/-! ## Traces -/

/-- The lexeme is the token, or the key word that the token is, written in any case. -/
def Lexeme.Shows (l : Lexeme) (t : Token) : Prop :=
  l.token = t ∨ ∃ k, l.keyword? = some k ∧ t = k.token

/-- The lexemes show the tokens one by one, apart from a `NOT` that negates an `AND` or `OR`, which
shows nothing. -/
inductive Shown : List Lexeme → List Token → Prop
  | nil : Shown [] []
  | cons {l x ls ts} : l.Shows x → Shown ls ts → Shown (l :: ls) (x :: ts)
  | negated {k l x ls ts} : k.negates l → l.Shows x → Shown ls ts → Shown (k :: l :: ls) (x :: ts)

namespace Shown

variable {ls ms : List Lexeme} {ts us : List Token}

theorem append (h : Shown ls ts) (h' : Shown ms us) : Shown (ls ++ ms) (ts ++ us) := by
  induction h with
  | nil => exact h'
  | cons hl _ ih => exact .cons hl ih
  | negated hk hl _ ih => exact .negated hk hl ih

/-- Without such a `NOT` there is one lexeme for each token. -/
theorem forall₂ (h : Shown ls ts) (hls : ls.IsChain fun k l => ¬k.negates l) :
    List.Forall₂ Lexeme.Shows ls ts := by
  induction h with
  | nil => exact .nil
  | cons hl _ ih => exact .cons hl (ih hls.tail)
  | negated hk _ _ _ => exact absurd hk (List.isChain_cons_cons.1 hls).1

end Shown

namespace Cursor

/-- The lexemes between two cursors show certain tokens. -/
def Traces (ts : List Token) (s t : Cursor) : Prop := ∃ ls, s.rest = ls ++ t.rest ∧ Shown ls ts

variable {ts us : List Token} {s t u : Cursor}

theorem Traces.trans (h : s.Traces ts t) (h' : t.Traces us u) : s.Traces (ts ++ us) u := by
  obtain ⟨ls, hls, hshown⟩ := h
  obtain ⟨ms, hms, hshown'⟩ := h'
  refine ⟨ls ++ ms, ?_, hshown.append hshown'⟩
  rw [hls, hms, List.append_assoc]

theorem traces_one {l : Lexeme} {rest : List Lexeme} {x : Token} (hs : s.rest = l :: rest)
    (hl : l.Shows x) : s.Traces [x] (s.moveTo rest) :=
  ⟨[l], hs, .cons hl .nil⟩

end Cursor

/-! ## Operators -/

namespace BinaryOp

variable {op : BinaryOp}

theorem token_of_ofMark? {m : Mark} (h : ofMark? m = some op) :
    op.isPlain ∧ op.token = .mark m := by
  revert h
  cases m <;> rintro ⟨⟩ <;> exact ⟨rfl, rfl⟩

theorem token_of_ofKeyword? {k : Keyword} (h : ofKeyword? k = some op) (hk : k.isOperatorText) :
    (k = .AND ∨ k = .OR) ∧ op.isPlain ∧ op.token = k.token := by
  revert h
  cases k with
  | AND => rintro ⟨rfl⟩; exact ⟨.inl rfl, rfl, rfl⟩
  | OR => rintro ⟨rfl⟩; exact ⟨.inr rfl, rfl, rfl⟩
  | NULL => rintro ⟨⟩
  | NOT => rintro ⟨⟩
  | _ => cases hk

/-- The operator at the start of operator text takes one expression as its right operand, and its
lexemes show it. -/
theorem shown_of_atStart? {ls : List Lexeme} {width : Nat} (htext : OperatorText ls)
    (h : atStart? ls = some (op, width)) :
    op.isPlain ∧ ∃ ks rest, ls = ks ++ rest ∧ width = ks.length ∧ Shown ks [op.token] := by
  cases found_of_atStart? h with
  | @mark l ls m hl hop =>
    obtain ⟨hplain, htoken⟩ := token_of_ofMark? hop
    exact ⟨hplain, [l], ls, rfl, rfl, .cons (.inl (hl.trans htoken.symm)) .nil⟩
  | @word l ls k hl hop =>
    obtain ⟨hkeyword, hk⟩ := Lexeme.keyword?_of_isOperatorText htext.head hl
    obtain ⟨-, hplain, htoken⟩ := token_of_ofKeyword? hop hk
    exact ⟨hplain, [l], ls, rfl, rfl, .cons (.inr ⟨k, hkeyword, htoken⟩) .nil⟩
  | @negated l next ls k hl hnext hop =>
    obtain ⟨hnot, -⟩ := Lexeme.keyword?_of_isOperatorText htext.head hl
    obtain ⟨hkeyword, hk⟩ := Lexeme.keyword?_of_isOperatorText htext.tail.head hnext
    obtain ⟨hkey, hplain, htoken⟩ := token_of_ofKeyword? hop hk
    have hnegates : l.negates next := by
      rcases hkey with rfl | rfl <;> simp [Lexeme.negates, Lexeme.isKeyword, hnot, hkeyword]
    exact ⟨hplain, [l, next], ls, rfl, rfl, .negated hnegates (.inr ⟨k, hkeyword, htoken⟩) .nil⟩

end BinaryOp

namespace Parser

/-- The tree is what has been passed, unless it has a call in it. -/
def Traced (s : Cursor) (e : Expr) (t : Cursor) : Prop := e.CallFree → s.Traces e.inOrder t

theorem Parses.ends {α : Type} {p : Parser α} {ls rest : List Lexeme} {a : α}
    (h : Parses p ls a rest) {s : Cursor} (hs : s.rest = ls) {Q : α → Cursor → Prop}
    {E : SyntaxError → Cursor → Prop} : Ends p s Q E ↔ Q a (s.moveTo rest) := by
  rw [Ends, h s hs]

/-- A single lexeme that is an expression by itself. -/
theorem traced_leaf {e : Expr} {x : Token} {l : Lexeme} {rest : List Lexeme} {s : Cursor}
    (hs : s.rest = l :: rest) (hl : l.Shows x) (he : e.inOrder = [x]) :
    Ends (do advance 1; return e) s (Traced s) fun _ _ => True := by
  rw [ends_bind, ends_advance_one hs]
  intro _
  rw [he]
  exact Cursor.traces_one hs hl

section

variable (cx : Context) {deeper : Nat → Parser Expr}
  (hreads : ∀ m, Reads (deeper m) Expr.vars)
  (htraced : ∀ m s, OperatorText s.rest → Ends (deeper m) s (Traced s) fun _ _ => True)

include htraced

/-! ## Heads -/

theorem traced_takeUnary {op : UnaryOp} {l : Lexeme} {rest : List Lexeme} {s : Cursor}
    (hs : s.rest = l :: rest) (htext : OperatorText rest) (hl : l.Shows op.token) :
    Ends (takeUnary deeper op) s (Traced s) fun _ _ => True := by
  rw [takeUnary, ends_bind, ends_advance_one hs, ends_bind]
  refine (htraced op.power (s.moveTo rest) htext).mono (fun operand t ht => ?_) fun _ _ h => h
  exact fun hfree => (Cursor.traces_one hs hl).trans (ht hfree.operand)

omit htraced in
/-- A key word that stands for an operand is a name, or the name of a call. -/
theorem traced_takeNamed {k : Keyword} {l : Lexeme} {rest : List Lexeme} {s : Cursor}
    (hs : s.rest = l :: rest) (htext : OperatorText rest) (hl : l.keyword? = some k) :
    Ends (takeNamed cx deeper) s (Traced s) fun _ _ => True := by
  obtain ⟨text, htoken⟩ := Lexeme.token_of_keyword? hl
  have hpart : l.namePart? = some text := by
    have hv : l.variableName? = none := by
      simpa [Lexeme.variableHere?] using (Lexeme.isPlain_of_keyword? hl).noVariable
    simp [Lexeme.namePart?, hv, htoken, Token.word?]
  have hperiod : rest.head?.any (Lexeme.isMark .period) = false := by
    cases rest with
    | nil => rfl
    | cons k rest => exact Lexeme.isMark_of_isOperatorText htext.head rfl
  have hcolumns : opensAllColumns rest = false := by
    rcases rest with _ | ⟨dot, _ | ⟨star, rest⟩⟩
    · rfl
    · rfl
    · simp [opensAllColumns, show dot.isMark .period = false from hperiod]
  have hname : (Expr.name [text]).inOrder = [.word text none] := by
    have hstar : text ≠ "*" := by
      rintro rfl
      obtain ⟨text', htext', hspelling⟩ := Option.bind_eq_some_iff.1 hl
      rw [htoken] at htext'
      cases htext'
      cases hspelling
    simp [Expr.inOrder, nameTokens, hstar]
  rw [takeNamed, ends_bind, (parses_takeName hpart hperiod).ends hs]
  rw [ends_bind, skipAllColumns, ends_bind, ends_ahead]
  simp only [Cursor.rest_moveTo, hcolumns]
  rw [if_neg (by decide), ends_pure]
  refine ends_bind_eatIf (fun _ _ _ _ => ?_) fun _ => ?_
  · have hcall : Returns (do
        let args ← callArguments cx deeper
        let more ← windowClauses cx deeper
        return Expr.call [text] (args ++ more)) fun e => ¬e.CallFree :=
      returns_bind fun args => returns_bind fun more =>
        returns_pure (Expr.not_callFree_call [text] (args ++ more))
    rw [if_pos rfl]
    exact (hcall _).mono (fun _ _ hcalled hfree => absurd hfree hcalled) fun _ _ h => h
  · rw [hname]
    exact Cursor.traces_one hs (.inl htoken)

theorem traced_takeWord {text : String} {quote : Option Quote} {l : Lexeme} {rest : List Lexeme}
    {s : Cursor} (hs : s.rest = l :: rest) (htext : OperatorText (l :: rest))
    (hword : l.token = .word text quote) :
    Ends (takeWord cx deeper l rest) s (Traced s) fun _ _ => True := by
  rw [takeWord]
  cases hv : l.variableHere? with
  | some v => exact traced_leaf hs (.inl (Lexeme.token_of_variableHere? hv)) rfl
  | none =>
    obtain ⟨k, hk, hoperator⟩ := Lexeme.isOperatorText_word htext.head hword hv
    -- `AND` and `OR` begin neither a cast nor a statement, so they are names
    have hcast : CastKind.ofKeyword? k = none → (if opensParen rest then castKind? l else none) =
        none := fun h => by simp [castKind?, hk, h]
    have hstarts : l.startsStatement = k.startsStatement := by simp [Lexeme.startsStatement, hk]
    have hnamed : Ends (takeNamed cx deeper) s (Traced s) fun _ _ => True :=
      traced_takeNamed cx hs htext.tail hk
    simp only [Lexeme.dispatch?_of_keyword? hk]
    cases k with
    | NULL => exact traced_leaf hs (.inr ⟨_, hk, rfl⟩) rfl
    | NOT => exact traced_takeUnary htraced hs htext.tail (.inr ⟨_, hk, rfl⟩)
    | AND =>
      simp only [hcast rfl, hstarts]
      exact hnamed
    | OR =>
      simp only [hcast rfl, hstarts]
      exact hnamed
    | _ => cases hoperator

include hreads

theorem traced_takeParen {l : Lexeme} {rest : List Lexeme} {s : Cursor} (hs : s.rest = l :: rest)
    (htext : OperatorText rest) (hl : l.token = .mark .leftParen) :
    Ends (takeParen cx deeper) s (Traced s) fun _ _ => True := by
  have hquery : opensQuery rest = false := by
    cases rest with
    | nil => rfl
    | cons k rest =>
      have hkeyword : ∀ key : Keyword, key.isOperatorText = false → k.isKeyword key = false :=
        fun key => Lexeme.isKeyword_of_isOperatorText htext.head
      simp [opensQuery, hkeyword .SELECT rfl, hkeyword .WITH rfl]
  rw [takeParen, ends_bind, ends_advance_one hs, ends_bind, ends_ahead]
  simp only [Cursor.rest_moveTo, hquery]
  rw [if_neg (by decide), ends_bind]
  refine ((hreads 0 (s.moveTo rest)).and (htraced 0 (s.moveTo rest) htext)).mono
    (fun inner t ht => ?_) fun _ _ _ => trivial
  have htext' := htext.of_suffix ht.1.reaches.suffix
  refine ends_bind_eatIf (fun comma after ht' hcomma => ?_) ?_
  · rw [ht'] at htext'
    rw [Lexeme.isMark_of_isOperatorText htext'.head rfl] at hcomma
    cases hcomma
  · rw [if_neg (by decide), ends_bind]
    refine ends_demand cx _ (fun r after ht' hr => ?_) fun _ => trivial
    intro hfree
    have hopen := Cursor.traces_one hs (.inl hl)
    have hclose := Cursor.traces_one ht' (.inl (of_decide_eq_true hr))
    exact hopen.trans ((ht.2 hfree.inner).trans hclose)

theorem traced_takeHead {s : Cursor} (htext : OperatorText s.rest) :
    Ends (takeHead cx deeper) s (Traced s) fun _ _ => True := by
  rw [takeHead, ends_bind, ends_ahead]
  cases hs : s.rest with
  | nil => exact ends_expected cx _ fun _ => trivial
  | cons l rest =>
    rw [hs] at htext
    have hl := htext.head
    have hunary : ∀ {op : UnaryOp}, l.token = op.token →
        Ends (takeUnary deeper op) s (Traced s) fun _ _ => True :=
      fun h => traced_takeUnary htraced hs htext.tail (.inl h)
    simp only
    split
    · next digits long ht =>
      obtain rfl : long = false := by simpa [Lexeme.isOperatorText, ht] using hl
      exact traced_leaf hs (.inl ht) rfl
    · next ht => simp [Lexeme.isOperatorText, ht] at hl
    · next ht => exact traced_leaf hs (.inl ht) rfl
    · next ht => exact traced_leaf hs (.inl ht) rfl
    · next ht => exact hunary ht
    · next ht => exact hunary ht
    · next ht => exact hunary ht
    · next ht => exact traced_leaf hs (.inl ht) rfl
    · next ht => exact traced_takeParen cx hreads htraced hs htext.tail ht
    · next ht => exact traced_takeWord cx htraced hs htext ht
    · exact ends_unexpected cx fun _ => trivial

/-! ## Infix operators -/

omit hreads in
/-- A round that goes on puts an operator and its right operand behind the trace, and the node above
the tree. -/
theorem traced_infixRound (minPower : Nat) (left : Expr) {t : Cursor}
    (htext : OperatorText t.rest) :
    Ends (infixRound cx deeper minPower left) t
      (fun o u => ∀ e ∈ o, ∀ s, Traced s left t → Traced s e u) fun _ _ => True := by
  rw [infixRound]
  refine ends_bind_eatIf (fun k rest ht hcollate => ?_) ?_
  · rw [ht] at htext
    rw [Lexeme.isKeyword_of_isOperatorText htext.head rfl] at hcollate
    cases hcollate
  · rw [if_neg (by decide), ends_bind, ends_ahead]
    split
    · simp [ends_pure]
    · next op width hop =>
      split
      · simp [ends_pure]
      · obtain ⟨hplain, ks, rest, ht, hwidth, hshown⟩ := BinaryOp.shown_of_atStart? htext hop
        have hrest : OperatorText rest := htext.of_suffix ⟨ks, ht.symm⟩
        have hoperator : t.Traces [op.token] (t.moveTo rest) := ⟨ks, ht, hshown⟩
        rw [ends_bind, ends_advance ht hwidth, ends_bind, takeRight_eq hplain]
        refine (htraced op.rightPower (t.moveTo rest) hrest).mono (fun right u hu => ?_)
          fun _ _ h => h
        rintro _ ⟨⟩ s hleft hfree
        exact (hleft hfree.left).trans (hoperator.trans (hu hfree.right))

theorem traced_operatorChain (minPower : Nat) {s : Cursor} (htext : OperatorText s.rest) :
    Ends (operatorChain cx deeper minPower) s (Traced s) fun _ _ => True := by
  rw [operatorChain, ends_bind]
  refine ((reads_takeHead cx hreads s).and (traced_takeHead cx hreads htraced htext)).mono
    (fun head t ht => ?_) fun _ _ _ => trivial
  refine ends_repeatWhile (I := fun e t => s.Reaches t ∧ Traced s e t) ⟨ht.1.reaches, ht.2⟩
    (fun left t ht => ?_) fun e t ht _ => ht.2
  have hround := traced_infixRound cx htraced minPower left (htext.of_suffix ht.1.suffix)
  refine ((ends_infixRound cx hreads minPower left t).and hround).mono (fun o u hu => ?_)
    fun _ _ _ => trivial
  cases o with
  | none =>
    obtain rfl : u = t := hu.1
    exact ht.2
  | some e =>
    obtain ⟨⟨hlt, _, hwalk, -⟩, htraced⟩ := hu
    exact ⟨⟨ht.1.trans hwalk.reaches, htraced e rfl s ht.2⟩, hlt⟩

end

theorem traced_expr (cx : Context) : ∀ levels m s, OperatorText s.rest →
    Ends (expr cx levels m) s (Traced s) fun _ _ => True
  | 0, _, _, _ => ends_tooDeep cx fun _ => trivial
  | levels + 1, m, _, htext =>
    traced_operatorChain cx (reads_expr cx levels) (traced_expr cx levels) m htext

/-- **Whatever the reader of an expression passes leaves its trace in the tree.** If a tree without
calls is read from operator text, then the lexemes passed are the tokens of the tree in order, up to
the case of key words and apart from a `NOT` directly before `AND` or `OR`. Where none stands there,
they are just these tokens. -/
theorem expr_trace (cx : Context) (levels m : Nat) {s t : Cursor} {e : Expr}
    (htext : ∀ l ∈ s.rest, l.isOperatorText) (hexpr : expr cx levels m s = .ok e t)
    (hfree : ∀ node ∈ e.nodes, ¬node.isCall) :
    ∃ ls, s.rest = ls ++ t.rest ∧ Shown ls e.inOrder ∧
      (ls.IsChain (fun k l => ¬k.negates l) → List.Forall₂ Lexeme.Shows ls e.inOrder) := by
  obtain ⟨ls, hls, hshown⟩ := (traced_expr cx levels m s htext).ok hexpr hfree
  exact ⟨ls, hls, hshown, hshown.forall₂⟩

/-- `nOt @a = 1 + * * - (N'x' Or NULL) and @b` before a closing parenthesis, the second star being
the operator. -/
theorem expr_trace_mixed_case :
    let lexemes : List Token → List Lexeme := List.map (⟨·, 1, false⟩)
    let ls := lexemes [.word "nOt" none, .word "@a" none, .mark .eq, .number "1" false, .mark .plus,
      .mark .star, .mark .star, .mark .minus, .mark .leftParen, .nationalString "x",
      .word "Or" none, .word "NULL" none, .mark .rightParen, .word "and" none, .word "@b" none]
    let k := lexemes [.mark .rightParen]
    let e : Expr := .binary .and
      (.unary .not (.binary .eq (.var ⟨"@a", 1⟩) (.binary .plus (.number "1")
        (.binary .multiply (.name ["*"])
          (.unary .minus (.paren (.binary .or (.string "x" true) .null)))))))
      (.var ⟨"@b", 1⟩)
    (∀ l ∈ ls ++ k, l.isOperatorText) ∧
      expr ⟨.sql2000, 1⟩ 8 0 ⟨(ls ++ k : List Lexeme), []⟩ = .ok e ⟨k, []⟩ ∧
      (∀ node ∈ e.nodes, ¬node.isCall) ∧ List.Forall₂ Lexeme.Shows ls e.inOrder := by
  intro lexemes ls k e
  have htext : ∀ l ∈ ls ++ k, l.isOperatorText := by decide
  have hexpr : expr ⟨.sql2000, 1⟩ 8 0 ⟨(ls ++ k : List Lexeme), []⟩ = .ok e ⟨k, []⟩ := rfl
  have hfree : ∀ node ∈ e.nodes, ¬node.isCall := by simp [e, Expr.nodes, Expr.isCall]
  refine ⟨htext, hexpr, hfree, ?_⟩
  obtain ⟨ms, hms, -, hexact⟩ := expr_trace ⟨.sql2000, 1⟩ 8 0
    (s := ⟨(ls ++ k : List Lexeme), []⟩) htext hexpr hfree
  obtain rfl : ms = ls := (List.append_cancel_right hms).symm
  exact hexact (by decide)

/-- `@a NOT AND @b` is read as `@a AND @b`. -/
theorem not_expr_trace :
    ¬∀ (cx : Context) (levels : Nat) (s t : Cursor) (e : Expr), (∀ l ∈ s.rest, l.isOperatorText) →
      expr cx levels 0 s = .ok e t →
        ∃ ls, s.rest = ls ++ t.rest ∧ List.Forall₂ Lexeme.Shows ls e.inOrder := by
  intro h
  let lexemes : List Lexeme := [.word "@a" none, .word "NOT" none, .word "AND" none,
    .word "@b" none].map (⟨·, 1, false⟩)
  let e : Expr := .binary .and (.var ⟨"@a", 1⟩) (.var ⟨"@b", 1⟩)
  obtain ⟨ls, hls, hshows⟩ :=
    h ⟨.sql2000, 1⟩ 2 ⟨lexemes, []⟩ ⟨([] : List Lexeme), []⟩ e (by decide) rfl
  have hlength : ls.length = 3 := hshows.length_eq
  obtain rfl : lexemes = ls := hls.trans (List.append_nil ls)
  cases hlength

end Parser

end SqlLint
