import SqlLint.Parse.Statement
import SqlLint.Proofs.Parse.Pratt

/-!
# Reading declarations back

A declaration is a variable, a type and perhaps a value, and behind it comes a comma with the next
one or the end of the statement. Nothing marks the end of a type: a period would make its name a
qualified one, a parenthesis would give it parameters, and `VARYING` would complete the name. None
of these can stand behind a declaration, nor can the equals sign before a value be taken for one.

The name of a type matters only in so far as it is not `AS`, `TABLE` or `CURSOR`, which would make
the declaration another one, and not `double`, which is read with a second word.

## Main results

* `Text.boundedNumeral?_toString`: a length is read back from its numeral
* `parses_commaSeparated`: items with commas between them
* `parses_takeTypeRef`, `parses_takeDeclare`: types and declarations
-/

namespace SqlLint

/-! ## Words -/

namespace Text

theorem digitsValue?_eq : ∀ {cs : List Char} (value : Nat), (∀ c ∈ cs, c.isDigit) →
    digitsValue? value cs = some (Nat.ofDigitChars 10 cs value)
  | [], _, _ => rfl
  | c :: cs, value, h => by
    rw [List.forall_mem_cons] at h
    rw [digitsValue?, if_pos h.1, digitsValue?_eq _ h.2, Nat.mul_comm value 10]
    rfl

/-- A number is read back from its numeral. -/
theorem boundedNumeral?_toString {n limit : Nat} (h : n ≤ limit) :
    boundedNumeral? limit (toString n) = some n := by
  have hdigits : ∀ c ∈ Nat.toDigits 10 n, c.isDigit := fun c hc =>
    Nat.isDigit_of_mem_toDigits (by decide) (by decide) hc
  have hvalue : numeralValue? n.repr = some n := by
    have hempty : (Nat.toDigits 10 n).isEmpty = false := by
      simp [Nat.toDigits_ne_nil]
    rw [numeralValue?, Nat.toList_repr]
    split
    · next digits hplus => exact absurd (hdigits '+' (by simp [hplus])) (by decide)
    · rw [hempty, digitsValue?_eq 0 hdigits, Nat.ofDigitChars_ten_toDigits]
      rfl
  rw [Nat.toString_eq_repr, boundedNumeral?, hvalue]
  simp [h]

end Text

theorem commaTokens_cons {α : Type} (tokens : α → List Token) : ∀ (a : α) (as : List α),
    commaTokens tokens (a :: as) = tokens a ++ as.flatMap fun a => .mark .comma :: tokens a
  | a, [] => by simp [commaTokens, List.intercalate]
  | a, b :: bs => by
    have ih := commaTokens_cons tokens b bs
    simp only [commaTokens, List.intercalate, List.map_cons, List.intersperse_cons_cons,
      List.flatten_cons] at ih ⊢
    rw [ih]
    simp

namespace Parser

variable {line : Nat} {ls k : List Lexeme} {l : Lexeme}

/-! ## What stands behind an item or a statement -/

/-- Whether the lexeme can stand behind a declaration. -/
def closesItem (l : Lexeme) : Bool :=
  l.isMark .comma || l.isMark .semicolon || l.isKeyword .ELSE

/-- Whether the lexeme can stand behind a statement. -/
def closesStatement (l : Lexeme) : Bool := l.isMark .semicolon || l.isKeyword .ELSE

theorem closesItem_of_closesStatement (h : closesStatement l) : closesItem l := by
  simp only [closesStatement, Bool.or_eq_true] at h
  rcases h with h | h
  · simp [closesItem, h]
  · simp [closesItem, h]

theorem closesStatement_isMark (h : closesStatement l) {m : Mark} (hsemicolon : m ≠ .semicolon) :
    l.isMark m = false := by
  simp only [closesStatement, Bool.or_eq_true] at h
  rcases h with h | h
  · exact Lexeme.isMark_eq_false (of_decide_eq_true h) hsemicolon.symm
  · exact Lexeme.isMark_of_isKeyword h m

theorem endsStatement_of_closesStatement (h : closesStatement l) : endsStatement (l :: ls) := by
  simp only [closesStatement, Bool.or_eq_true] at h
  rcases h with h | h
  · simp [endsStatement, h]
  · have hstarts : l.startsStatement := by
      rw [Lexeme.startsStatement, of_decide_eq_true h]
      rfl
    simp [endsStatement, hstarts]

theorem closesItem_cases (h : closesItem l) :
    l.token = .mark .comma ∨ l.token = .mark .semicolon ∨ l.keyword? = some .ELSE := by
  simpa [closesItem, Lexeme.isMark, Lexeme.isKeyword, or_assoc] using h

theorem closesItem_isMark (h : closesItem l) {m : Mark} (hcomma : m ≠ .comma)
    (hsemicolon : m ≠ .semicolon) : l.isMark m = false := by
  rcases closesItem_cases h with h | h | h
  · exact Lexeme.isMark_eq_false h hcomma.symm
  · exact Lexeme.isMark_eq_false h hsemicolon.symm
  · exact Lexeme.isMark_of_isKeyword (decide_eq_true h) m

theorem closesItem_isKeyword (h : closesItem l) {key : Keyword} (helse : key ≠ .ELSE) :
    l.isKeyword key = false := by
  rcases closesItem_cases h with h | h | h
  · exact Lexeme.isKeyword_of_mark h key
  · exact Lexeme.isKeyword_of_mark h key
  · exact Lexeme.isKeyword_eq_false h helse.symm

theorem stops_of_closesItem (h : closesItem l) (p : Nat) : Stops p (l :: ls) := by
  rcases closesItem_cases h with h | h | h
  · exact stops_of_mark h rfl p
  · exact stops_of_mark h rfl p
  · exact stops_of_keyword? h (by decide) (by decide) rfl p

/-! ## Lists with commas -/

section

variable {α β : Type} {item : Parser α} {tokens : β → List Token} {f : β → α} {b : β} {bs : List β}

/-- Each of the items is read back, whether a comma follows it or what lies behind the list. -/
def ReadsItems (line : Nat) (item : Parser α) (tokens : β → List Token) (f : β → α)
    (k : List Lexeme) (bs : List β) : Prop :=
  ∀ b ∈ bs, ∀ {ls mid : List Lexeme}, Spells line (tokens b) ls mid →
    mid = k ∨ mid.head?.any (Lexeme.isMark .comma) → Parses item ls (f b) mid

/-- Behind an item comes a comma, or what lies behind the list. -/
theorem comma_of_spells (h : Spells line (bs.flatMap fun b => .mark .comma :: tokens b) ls k) :
    ls = k ∨ ls.head?.any (Lexeme.isMark .comma) := by
  cases bs with
  | nil => exact .inl h
  | cons b bs =>
    obtain ⟨c, ms, rfl, hc, -⟩ := h
    exact .inr (Lexeme.isMark_of_token hc)

theorem chain_commaRound : ∀ {bs : List β} {ls : List Lexeme} (items : List α),
    ReadsItems line item tokens f k bs →
    Spells line (bs.flatMap fun b => .mark .comma :: tokens b) ls k →
    Chain (commaRound item) items ls ((bs.map f).reverse ++ items) k
  | [], ls, items, _, h => by
    obtain rfl : ls = k := h
    exact .refl items ls
  | b :: bs, ls, items, hitems, h => by
    obtain ⟨c, ms, rfl, hc, -, hms⟩ := h
    obtain ⟨mid, hb, hbs⟩ := spells_append.1 hms
    have hitem : Parses item ms (f b) mid :=
      hitems b (List.mem_cons_self ..) hb (comma_of_spells hbs)
    have hround : Parses (commaRound item items) (c :: ms) (some (f b :: items)) mid :=
      parses_bind_eatIf_yes (Lexeme.isMark_of_token hc) (hitem.bind (parses_pure _ mid))
    have hrest := chain_commaRound (f b :: items)
      (fun b' hb' => hitems b' (List.mem_cons_of_mem b hb')) hbs
    refine .cons hround (Nat.lt_succ_of_le hb.length_le) ?_
    simpa using hrest

theorem parses_commaSeparated (hitems : ReadsItems line item tokens f k (b :: bs))
    (hk : k.head?.any (Lexeme.isMark .comma) = false)
    (hspells : Spells line (commaTokens tokens (b :: bs)) ls k) :
    Parses (commaSeparated item) ls ((b :: bs).map f) k := by
  rw [commaTokens_cons] at hspells
  obtain ⟨mid, hb, hbs⟩ := spells_append.1 hspells
  have hfirst : Parses item ls (f b) mid :=
    hitems b (List.mem_cons_self ..) hb (comma_of_spells hbs)
  have hchain := chain_commaRound [f b] (fun b' hb' => hitems b' (List.mem_cons_of_mem b hb')) hbs
  have hlast : Parses (commaRound item ((bs.map f).reverse ++ [f b])) k none k :=
    parses_bind_eatIf_no hk (parses_pure none k)
  have hreverse : ((bs.map f).reverse ++ [f b]).reverse = (b :: bs).map f := by simp
  rw [← hreverse]
  exact hfirst.bind ((hchain.parses_repeatWhile hlast).bind (parses_pure _ k))

end

/-! ## Types -/

theorem parses_takeTypeParam {cx : Context} {p : TypeParam} (hp : p.fits) (h : l.token = p.token) :
    Parses (takeTypeParam cx) (l :: k) p k := by
  refine parses_bind_ahead ?_
  cases p with
  | size n =>
    simp only [List.head?_cons, Option.map_some, h, TypeParam.token,
      Text.boundedNumeral?_toString (of_decide_eq_true hp)]
    exact parses_bind_advance_one (parses_pure _ k)
  | max =>
    simp only [List.head?_cons, Option.map_some, h, TypeParam.token, Text.equalFold_refl, if_true]
    exact parses_bind_advance_one (parses_pure _ k)

/-- A word by which a base type is called. All of this depends on its upper case alone. -/
structure IsTypeWord (text : String) : Prop where
  keyword : Keyword.ofSpelling? (text.toList.map Char.toUpper) = none
  noSign : (text.toList.map Char.toUpper).head? ≠ some '@'
  notDouble : text.toList.map Char.toUpper ≠ "double".toList.map Char.toUpper

theorem isTypeWord_name (b : BaseType) : IsTypeWord b.name := by
  cases b <;> exact ⟨by decide +kernel, by decide, by decide⟩

theorem isTypeWord_of_canonical {t : TypeRef} (h : t.canonical) : IsTypeWord t.name := by
  simp only [TypeRef.canonical, Bool.and_eq_true, List.any_eq_true] at h
  obtain ⟨⟨b, -, hname⟩, -⟩ := h
  have hmap : t.name.toList.map Char.toUpper = b.name.toList.map Char.toUpper := by
    simpa [Text.equalFold] using hname
  have hb := isTypeWord_name b
  exact ⟨by rw [hmap, hb.keyword], by rw [hmap]; exact hb.noSign, by rw [hmap]; exact hb.notDouble⟩

theorem IsTypeWord.variableName? {text : String} (h : IsTypeWord text) :
    (Token.word text none).variableName? = none := by
  have hsign := h.noSign
  cases htext : text.toList with
  | nil => simp [Token.variableName?, Token.plainWord?, htext]
  | cons c cs =>
    have hc : c ≠ '@' := by
      rintro rfl
      simp [htext] at hsign
    simp [Token.variableName?, Token.plainWord?, htext, hc]

theorem nameTail_eq (h : ls.head?.any (Lexeme.isMark .period) = false) :
    nameTail ls = ([], ls) := by
  rcases ls with _ | ⟨dot, _ | ⟨part, ls⟩⟩
  · rfl
  · rfl
  · have hdot : dot.isMark .period = false := h
    rw [nameTail]
    cases part.namePart? with
    | none => rfl
    | some text => simp [hdot]

theorem parses_takeName {cx : Context} {what : Expectation} {text : String}
    (hl : l.namePart? = some text) (hk : k.head?.any (Lexeme.isMark .period) = false) :
    Parses (takeName cx what) (l :: k) [text] k := by
  intro s hs
  rw [takeName, hs]
  simp only [hl, nameTail_eq hk]

theorem parses_takeTypeWord {text : String} (htext : IsTypeWord text)
    (hk : k.head?.any (Lexeme.isKeyword .VARYING) = false) :
    Parses (takeTypeWord text) k text k := by
  have hdouble : Text.equalFold text "double" = false := by
    simpa [Text.equalFold] using htext.notDouble
  rw [takeTypeWord, if_neg (by simp [hdouble])]
  split
  · exact parses_bind_eatIf_no hk (parses_pure text k)
  · exact parses_pure text k

/-- Whether the lexeme can stand behind a type. -/
structure EndsType (l : Lexeme) : Prop where
  period : l.isMark .period = false
  leftParen : l.isMark .leftParen = false
  varying : l.isKeyword .VARYING = false

theorem endsType_of_closesItem (h : closesItem l) : EndsType l :=
  ⟨closesItem_isMark h (by decide) (by decide), closesItem_isMark h (by decide) (by decide),
    closesItem_isKeyword h (by decide)⟩

theorem endsType_of_mark {m : Mark} (h : l.token = .mark m) (hperiod : m ≠ .period)
    (hleft : m ≠ .leftParen) : EndsType l :=
  ⟨Lexeme.isMark_eq_false h hperiod, Lexeme.isMark_eq_false h hleft,
    Lexeme.isKeyword_of_mark h .VARYING⟩

theorem keyword?_of_typeWord {text : String} (htext : IsTypeWord text)
    (h : l.token = .word text none) : l.keyword? = none := by
  rw [Lexeme.keyword?, h]
  exact htext.keyword

theorem parses_takeTypeRef {cx : Context} {t : TypeRef} (ht : t.canonical)
    (hspells : Spells line t.tokens ls (l :: k)) (hl : EndsType l) :
    Parses (takeTypeRef cx) ls (t.renumber fun _ => line) (l :: k) := by
  have htext := isTypeWord_of_canonical ht
  obtain ⟨w, ms, rfl, hw, rfl, hms⟩ := hspells
  have hpart : w.namePart? = some t.name := by
    simp [Lexeme.namePart?, Lexeme.variableName?, hw, htext.variableName?, Token.word?]
  have hparams : ∀ p ∈ t.params, p.fits := by
    simp only [TypeRef.canonical, Bool.and_eq_true, List.all_eq_true] at ht
    exact ht.2
  obtain ⟨name, params, line⟩ := t
  refine parses_bind_ahead ?_
  cases params with
  | nil =>
    obtain rfl : ms = l :: k := hms
    refine (parses_takeName (k := l :: k) hpart hl.period).bind ?_
    refine (parses_takeTypeWord (k := l :: k) htext hl.varying).bind ?_
    exact parses_bind_eatIf_no hl.leftParen (parses_pure _ _)
  | cons p ps =>
    obtain ⟨left, ms', rfl, hleft, -, hms⟩ := hms
    obtain ⟨mid, hps, right, rs, rfl, hright, -, rfl⟩ := spells_append.1 hms
    have hperiod : left.isMark .period = false := Lexeme.isMark_eq_false hleft (by decide)
    have hvarying : left.isKeyword .VARYING = false := Lexeme.isKeyword_of_mark hleft .VARYING
    refine (parses_takeName (k := left :: ms') hpart hperiod).bind ?_
    refine (parses_takeTypeWord (k := left :: ms') htext hvarying).bind ?_
    refine parses_bind_eatIf_yes (Lexeme.isMark_of_token hleft) ?_
    have hitems : Parses (commaSeparated (takeTypeParam cx)) ms' ((p :: ps).map id)
        (right :: l :: k) := by
      refine parses_commaSeparated ?_ (Lexeme.isMark_eq_false hright (by decide)) hps
      rintro p' hp' ls' k' ⟨l', ms, rfl, hl', -, rfl⟩ -
      exact parses_takeTypeParam (hparams p' hp') hl'
    rw [List.map_id] at hitems
    refine hitems.bind ?_
    exact Parses.bind (parses_expect (Lexeme.isMark_of_token hright)) (parses_pure _ _)

/-! ## Declarations -/

theorem parses_takeVariable {cx : Context} {v : Variable} (h : l.variableHere? = some v) :
    Parses (takeVariable cx) (l :: k) v k := by
  have hnext : Parses nextVariable? (l :: k) (some v) (l :: k) := by
    refine parses_bind_ahead ?_
    rw [List.head?_cons, Option.bind_some, h]
    exact parses_pure _ _
  exact hnext.bind (parses_bind_advance_one (parses_pure v k))

section

variable {cx : Context} (hversion : .sql2008 ≤ cx.version) {levels : Nat}

include hversion

theorem parses_takeDeclaration {d : Declaration} (hd : d.canonical)
    (hnesting : ∀ e ∈ d.exprs, e.nesting ≤ levels) (hspells : Spells line d.tokens ls (l :: k))
    (hl : closesItem l) :
    Parses (takeDeclaration cx (expr cx levels)) ls (d.renumber fun _ => line) (l :: k) := by
  cases d with
  | table name => simp [Declaration.canonical] at hd
  | scalar name type value =>
    simp only [Declaration.canonical, Bool.and_eq_true] at hd
    obtain ⟨⟨hname, htype⟩, hvalue⟩ := hd
    obtain ⟨v, ms, rfl, hv, rfl, hms⟩ := hspells
    obtain ⟨mid, htokens, hend⟩ := spells_append.1 hms
    -- behind the variable stands a word that is neither `AS` nor `TABLE` nor `CURSOR`
    obtain ⟨w, ms, rfl, hw⟩ : ∃ w ms', ms = w :: ms' ∧ w.keyword? = none := by
      obtain ⟨w, ms', rfl, hw, -⟩ := htokens
      exact ⟨w, ms', rfl, keyword?_of_typeWord (isTypeWord_of_canonical htype) hw⟩
    have hno : ∀ key, (w :: ms).head?.any (Lexeme.isKeyword key) = false := by
      simp [Lexeme.isKeyword, hw]
    obtain ⟨m, ms', rfl, hm⟩ : ∃ m ms', mid = m :: ms' ∧ EndsType m := by
      cases value with
      | none => exact ⟨l, k, hend, endsType_of_closesItem hl⟩
      | some e =>
        obtain ⟨eq, ms', rfl, heq, -⟩ := hend
        exact ⟨eq, ms', rfl, endsType_of_mark heq (by decide) (by decide)⟩
    refine (parses_takeVariable (Lexeme.variableHere?_of_token hname hv)).bind ?_
    refine parses_bind_eatIf_no (hno .AS) ?_
    refine parses_bind_eatIf_no (hno .TABLE) ?_
    refine parses_bind_eatIf_no (hno .CURSOR) ?_
    refine (parses_takeTypeRef htype htokens hm).bind (parses_bind_atNext ?_)
    cases value with
    | none =>
      obtain ⟨rfl, rfl⟩ : m = l ∧ ms' = k := List.cons.inj hend
      have heq : m.isMark .eq = false := closesItem_isMark hl (by decide) (by decide)
      simp only [List.head?_cons, Option.any_some, heq, Bool.false_eq_true, if_false]
      exact parses_pure _ _
    | some e =>
      obtain ⟨eq, ms', hcons, heq, -, hms⟩ := hend
      obtain ⟨rfl, rfl⟩ := List.cons.inj hcons
      simp only [List.head?_cons, Option.any_some, Lexeme.isMark_of_token heq, if_true]
      have hsupports : cx.version.supports .declareInitializer := decide_eq_true hversion
      refine (parses_require hsupports _).bind (parses_bind_advance_one ?_)
      have hvalue := parses_expr cx v.line hvalue (hnesting e (by simp [Declaration.exprs])) hms
        (stops_of_closesItem hl 0)
      exact hvalue.bind (parses_pure _ _)

theorem parses_takeDeclare {items : List Declaration} (hitems : (Statement.declare items).canonical)
    (hnesting : (Statement.declare items).nesting ≤ levels + 1)
    (hspells : Spells line (Statement.declare items).tokens ls (l :: k)) (hl : closesStatement l) :
    Parses (takeDeclare cx (expr cx levels)) ls
      ((Statement.declare items).renumber fun _ => line) (l :: k) := by
  obtain ⟨w, ms, rfl, hw, -, hms⟩ := hspells
  cases items with
  | nil => simp [Statement.canonical] at hitems
  | cons d ds =>
    have hcanonical : ∀ d' ∈ d :: ds, d'.canonical := by
      simp only [Statement.canonical, Bool.and_eq_true, List.all_eq_true] at hitems
      exact hitems.2
    have hdeep : ∀ d' ∈ d :: ds, ∀ e ∈ d'.exprs, e.nesting ≤ levels := fun d' hd' e he =>
      Expr.listDepth_le_iff.1 (Nat.le_of_succ_le_succ hnesting) e (List.mem_flatMap.2 ⟨d', hd', he⟩)
    have hvariable : ms[0]?.bind Lexeme.variableHere? ≠ none := by
      rw [commaTokens_cons] at hms
      obtain ⟨mid, hd, -⟩ := spells_append.1 hms
      have hnamed := hcanonical d (List.mem_cons_self ..)
      cases d with
      | table name => simp [Declaration.canonical] at hnamed
      | scalar name type value =>
        simp only [Declaration.canonical, Bool.and_eq_true] at hnamed
        obtain ⟨v, ms, rfl, hv, -⟩ := hd
        simp [Lexeme.variableHere?_of_token hnamed.1.1 hv]
    obtain ⟨v, hv⟩ := Option.ne_none_iff_exists'.1 hvariable
    refine parses_bind_ahead ?_
    simp only [List.getElem?_cons_succ, hv]
    refine (parses_expectKeyword (Lexeme.isKeyword_of_token hw)).bind ?_
    have hclose := closesItem_of_closesStatement hl
    have hcomma : l.isMark .comma = false := closesStatement_isMark hl (by decide)
    have hlist : Parses (commaSeparated (takeDeclaration cx (expr cx levels))) ms
        ((d :: ds).map (Declaration.renumber fun _ => line)) (l :: k) := by
      refine parses_commaSeparated ?_ hcomma hms
      intro d' hd' ls' k' hls' hk'
      obtain ⟨l', k'', rfl, hl'⟩ : ∃ l' k'', k' = l' :: k'' ∧ closesItem l' := by
        rcases hk' with rfl | hk'
        · exact ⟨l, k, rfl, hclose⟩
        · cases k' with
          | nil => simp at hk'
          | cons l' k'' =>
            have hcomma' : l'.isMark .comma := hk'
            exact ⟨l', k'', rfl, by simp [closesItem, hcomma']⟩
      exact parses_takeDeclaration hversion (hcanonical d' hd') (hdeep d' hd') hls' hl'
    exact hlist.bind (parses_pure _ _)

end

end Parser

end SqlLint
