import SqlLint.Parse.Script
import SqlLint.Proofs.Parse.Block
import SqlLint.Proofs.Parse.Declaration

/-!
# Reading statements back

No statement has to be ended. Each reader therefore has to find out by itself where its statement
ends, and most of them look further ahead than they read: `DECLARE` and `SET` to choose their form,
`RETURN` for a value, and `IF` past all semicolons for an `ELSE`. So that a list of statements is
read back from its tokens is a statement about what can follow what.

Behind a statement stands a semicolon, or an `ELSE`. Both end an expression, a type and a list, and
neither of them is a value. The one case in which more matters is a statement that ends in an `IF`
without an `ELSE`: there must be no `ELSE` behind the semicolons either. In a canonical statement it
does not come at once, since such a statement is no first branch; and behind a semicolon comes the
next statement, the end of the block or the end of the batch.

## Main results

* `parses_takeSet`, `parses_takeReturn`, …: the simple statements
* `parses_statement`: a canonical statement is read back
* `parseBatch_listTokens`: a batch of canonical statements is read back
-/

namespace SqlLint

namespace Parser

variable {line : Nat} {ls k : List Lexeme} {l : Lexeme}

/-! ## Assignments and options -/

section

variable {cx : Context} (hversion : .sql2008 ≤ cx.version) {levels : Nat}

include hversion

theorem parses_takeAssignment {op : Option BinaryOp} (hop : op.all BinaryOp.isCompound)
    (hspells : Spells line ((op.map BinaryOp.token).toList ++ [.mark .eq]) ls k) :
    Parses (takeAssignment cx) ls op k := by
  cases op with
  | none =>
    obtain ⟨eq, ms, rfl, heq, -, rfl⟩ := hspells
    refine parses_bind_ahead ?_
    simp only [Lexeme.isMark_of_token heq, if_true]
    exact parses_bind_advance_one (parses_pure none ms)
  | some op =>
    obtain ⟨o, _, rfl, ho, -, eq, ms, rfl, heq, -, rfl⟩ := hspells
    have hcompound : BinaryOp.ofCompound? o.token = some op := by
      rw [ho]
      exact of_decide_eq_true hop
    have hno : o.isMark .eq = false := by
      refine decide_eq_false fun hmark => ?_
      simp [hmark, BinaryOp.ofCompound?] at hcompound
    have hsupports : cx.version.supports .compoundAssignment := decide_eq_true hversion
    refine parses_bind_ahead ?_
    simp only [hno, Bool.false_eq_true, if_false, hcompound, List.head?_cons, Option.any_some,
      Lexeme.isMark_of_token heq, if_true]
    exact (parses_require hsupports _).bind (parses_bind_advance [o, eq] rfl (parses_pure _ ms))

theorem parses_takeSet {target : Variable} {op : Option BinaryOp} {value : Expr}
    (hcanonical : (Statement.setVariable target op value).canonical)
    (hnesting : (Statement.setVariable target op value).nesting ≤ levels + 1)
    (hspells : Spells line (Statement.setVariable target op value).tokens ls (l :: k))
    (hl : closesStatement l) :
    Parses (takeSet cx (expr cx levels)) ls
      ((Statement.setVariable target op value).renumber fun _ => line) (l :: k) := by
  simp only [Statement.canonical, Bool.and_eq_true] at hcanonical
  obtain ⟨⟨hnamed, hop⟩, hvalue⟩ := hcanonical
  obtain ⟨w, _, rfl, -, -, v, ms, rfl, hv, rfl, hms⟩ := hspells
  rw [List.append_cons, spells_append] at hms
  obtain ⟨mid, hassign, hvalues⟩ := hms
  obtain ⟨b, bs, rfl, hbegin⟩ := begins_of_spells value hvalue hvalues
  have hcursor : b.isKeyword .CURSOR = false := hbegin.isKeyword (by decide) (by decide)
  refine parses_bind_ahead ?_
  simp only [List.getElem?_cons_succ, List.getElem?_cons_zero, Option.bind_some,
    Lexeme.variableHere?_of_token hnamed hv]
  refine parses_bind_advance [w, v] rfl ?_
  refine (parses_takeAssignment hversion hop hassign).bind (parses_bind_atNext ?_)
  simp only [List.head?_cons, Option.any_some, hcursor, Bool.false_eq_true, if_false]
  have hexpr := parses_expr cx v.line hvalue (Nat.le_of_succ_le_succ hnesting) hvalues
    (stops_of_closesItem (closesItem_of_closesStatement hl) 0)
  exact hexpr.bind (parses_pure _ _)

end

/-- An option is read as it is written. -/
theorem upperCase_of_isOptionWord {text : String} (h : isOptionWord text) :
    Text.upperCase text = text := by
  simp only [isOptionWord, Bool.and_eq_true, List.all_eq_true, decide_eq_true_eq] at h
  have hupper : ∀ c ∈ text.toList, Text.upperChar c = [c] := by
    intro c hc
    obtain ⟨hascii, hcase⟩ := h.1.1.1 c hc
    rw [Text.upperChar, if_pos hascii, hcase]
  rw [Text.upperCase, List.flatMap_def, List.map_congr_left hupper, ← List.flatMap_def,
    List.flatMap_singleton', String.ofList_toList]

/-- An option that is a key word is that key word in upper case. -/
theorem eq_text_of_isOptionWord {text : String} {key : Keyword} (h : isOptionWord text)
    (hl : l.token = .word text none) (hkey : l.keyword? = some key) : text = key.text := by
  simp only [isOptionWord, Bool.and_eq_true, List.all_eq_true, decide_eq_true_eq] at h
  have hupper : text.toList.map Char.toUpper = text.toList :=
    (List.map_congr_left fun c hc => (h.1.1.1 c hc).2).trans (List.map_id _)
  rw [Lexeme.keyword?, hl] at hkey
  have hspelling := Keyword.spelling_of_ofSpelling? hkey
  rw [hupper] at hspelling
  exact String.toList_inj.1 (hspelling.symm.trans key.toList_text.symm)

theorem optionNames_cons_cons {text : String} (h : isOptionWord text)
    (hl : l.token = .word text none) (c : Lexeme) (cs : List Lexeme) :
    optionNames (l :: c :: cs) =
      if c.isMark .comma then (text :: (optionNames cs).1, (optionNames cs).2)
      else ([text], c :: cs) := by
  have hswitch : ∀ key, text ≠ key.text → l.isKeyword key = false := fun key hne =>
    decide_eq_false fun hkey => hne (eq_text_of_isOptionWord h hl hkey)
  have hne : text ≠ "ON" ∧ text ≠ "OFF" := by
    simp only [isOptionWord, Bool.and_eq_true, decide_eq_true_eq] at h
    exact ⟨h.1.2, h.2⟩
  rw [optionNames.eq_def]
  simp only [hl, Token.plainWord?, hswitch .ON hne.1, hswitch .OFF hne.2, Bool.or_self,
    Bool.false_eq_true, if_false, upperCase_of_isOptionWord h]

/-- Options are read up to the switch behind them. -/
theorem optionNames_eq {switch : Lexeme} (hswitch : switch.isMark .comma = false) :
    ∀ {options : List String} {text : String} {l : Lexeme} {ls : List Lexeme},
      (∀ text' ∈ text :: options, isOptionWord text') → l.token = .word text none →
      Spells line (options.flatMap fun text => [.mark .comma, .word text none]) ls (switch :: k) →
      optionNames (l :: ls) = (text :: options, switch :: k)
  | [], text, l, ls, hoptions, hl, hls => by
    obtain rfl : ls = switch :: k := hls
    rw [optionNames_cons_cons (hoptions text (List.mem_cons_self ..)) hl]
    simp [hswitch]
  | text' :: options, text, l, ls, hoptions, hl, hls => by
    rw [List.forall_mem_cons] at hoptions
    obtain ⟨comma, _, rfl, hcomma, -, l', ms, rfl, hl', -, hms⟩ := hls
    rw [optionNames_cons_cons hoptions.1 hl]
    simp only [Lexeme.isMark_of_token hcomma, if_true, optionNames_eq hswitch hoptions.2 hl' hms]

theorem switch?_of_token {on : Bool}
    (h : l.token = if on then Keyword.ON.token else Keyword.OFF.token) :
    switch? (l :: k) = some on := by
  cases on with
  | true => simp [switch?, Lexeme.keyword?_of_token h]
  | false => simp [switch?, Lexeme.keyword?_of_token h]

theorem parses_takeSet_option {cx : Context} {expr : Nat → Parser Expr} {number : Nat}
    {options : List String} {on : Bool}
    (hcanonical : (Statement.setOption number options on).canonical)
    (hspells : Spells line (Statement.setOption number options on).tokens ls k) :
    Parses (takeSet cx expr) ls
      ((Statement.setOption number options on).renumber fun _ => line) k := by
  simp only [Statement.canonical, Bool.and_eq_true, List.all_eq_true] at hcanonical
  obtain ⟨w, ms, rfl, hw, rfl, hms⟩ := hspells
  obtain ⟨mid, hoptions, switch, ms', rfl, hswitch, -, rfl⟩ := spells_append.1 hms
  cases options with
  | nil => simp at hcanonical
  | cons text options =>
    rw [commaTokens_cons] at hoptions
    obtain ⟨l, ms, rfl, hl, -, hmore⟩ := hoptions
    have hword := hcanonical.2 text (List.mem_cons_self ..)
    have hvariable : l.variableHere? = none := by
      simp only [isOptionWord, Bool.and_eq_true, Option.isNone_iff_eq_none] at hword
      simp [Lexeme.variableHere?, Lexeme.variableName?, hl, hword.1.1.2]
    have hcomma : switch.isMark .comma = false := by
      cases on with
      | true => exact Lexeme.isMark_of_isKeyword (Lexeme.isKeyword_of_token hswitch) _
      | false => exact Lexeme.isMark_of_isKeyword (Lexeme.isKeyword_of_token hswitch) _
    have hnames := optionNames_eq hcomma hcanonical.2 hl hmore
    refine parses_bind_ahead ?_
    simp only [List.getElem?_cons_succ, List.getElem?_cons_zero, Option.bind_some, hvariable]
    refine parses_bind_ahead ?_
    refine (parses_expectKeyword (Lexeme.isKeyword_of_token hw)).bind (parses_bind_ahead ?_)
    simp only [hnames, switch?_of_token hswitch, List.isEmpty_cons, Bool.false_eq_true, if_false]
    exact parses_bind_moveTo (parses_pure _ ms')

/-! ## Control flow -/

theorem parses_takeReturn {cx : Context} {levels : Nat} {value : Option Expr}
    (hcanonical : (Statement.returns value).canonical)
    (hnesting : (Statement.returns value).nesting ≤ levels + 1)
    (hspells : Spells line (Statement.returns value).tokens ls (l :: k)) (hl : closesStatement l) :
    Parses (takeReturn cx (expr cx levels)) ls ((Statement.returns value).renumber fun _ => line)
      (l :: k) := by
  obtain ⟨w, ms, rfl, hw, -, hms⟩ := hspells
  refine (parses_expectKeyword (Lexeme.isKeyword_of_token hw)).bind (parses_bind_ahead ?_)
  cases value with
  | none =>
    obtain rfl : ms = l :: k := hms
    rw [if_pos (endsStatement_of_closesStatement hl)]
    exact parses_pure _ _
  | some e =>
    obtain ⟨b, bs, rfl, hbegin⟩ := begins_of_spells e hcanonical hms
    have hends : endsStatement (b :: bs) = false := by
      simp [endsStatement, hbegin.isMark_semicolon, hbegin.startsStatement]
    rw [if_neg (by simp [hends])]
    have hvalue := parses_expr cx line hcanonical (Nat.le_of_succ_le_succ hnesting) hms
      (stops_of_closesItem (closesItem_of_closesStatement hl) 0)
    exact hvalue.bind (parses_pure _ _)

/-- The words with which canonical statements begin. -/
def openers : List Keyword := [.DECLARE, .SET, .RETURN, .BEGIN, .IF]

/-- A canonical statement begins with a key word. -/
theorem opens_of_spells {s : Statement} (hs : s.canonical) (hspells : Spells line s.tokens ls k) :
    ∃ l ms, ∃ key ∈ openers, ls = l :: ms ∧ l.keyword? = some key ∧ k.length ≤ ms.length := by
  have hopens : ∀ key ∈ openers, ∀ {ts : List Token}, Spells line (key.token :: ts) ls k →
      ∃ l ms, ∃ key ∈ openers, ls = l :: ms ∧ l.keyword? = some key ∧ k.length ≤ ms.length := by
    rintro key hkey ts ⟨l, ms, rfl, hl, -, hms⟩
    exact ⟨l, ms, key, hkey, rfl, Lexeme.keyword?_of_token hl, hms.length_le⟩
  cases s with
  | declare => exact hopens .DECLARE (by decide) hspells
  | setVariable => exact hopens .SET (by decide) hspells
  | setOption => exact hopens .SET (by decide) hspells
  | returns => exact hopens .RETURN (by decide) hspells
  | block => exact hopens .BEGIN (by decide) hspells
  | conditional => exact hopens .IF (by decide) hspells
  | _ => simp [Statement.canonical] at hs

theorem isMark_of_keyword? {key : Keyword} (h : l.keyword? = some key) (m : Mark) :
    l.isMark m = false :=
  Lexeme.isMark_of_isKeyword (decide_eq_true h) m

/-- In a block, the first statement or the `END` begins with a key word. -/
theorem opens_of_list {ss : List Statement} {e : Lexeme} (hss : Statement.listCanonical ss)
    (hspells : Spells line (Statement.listTokens ss) ls (e :: k))
    (he : e.token = Keyword.END.token) :
    ∃ l ms, ∃ key ∈ Keyword.END :: openers, ls = l :: ms ∧ l.keyword? = some key := by
  cases ss with
  | nil => exact ⟨e, k, .END, List.mem_cons_self .., hspells, Lexeme.keyword?_of_token he⟩
  | cons s ss =>
    simp only [Statement.listCanonical, Bool.and_eq_true] at hss
    obtain ⟨mid, hs, -⟩ := spells_append.1 hspells
    obtain ⟨l, ms, key, hkey, hls, hl, -⟩ := opens_of_spells hss.1 hs
    exact ⟨l, ms, key, List.mem_cons_of_mem _ hkey, hls, hl⟩

/-- A statement ends the expression before it. -/
theorem stops_of_mem_openers {key : Keyword} (hkey : key ∈ openers) (hl : l.keyword? = some key) :
    Stops 0 (l :: ls) := by
  have hopeners : ∀ key ∈ openers,
      key ≠ .NOT ∧ key ≠ .COLLATE ∧ BinaryOp.ofKeyword? key = none := by
    decide
  obtain ⟨hnot, hcollate, hoperator⟩ := hopeners key hkey
  exact stops_of_keyword? hl hnot hcollate hoperator 0

theorem skipSemicolons_cons (h : l.isMark .semicolon = false) :
    skipSemicolons (l :: ls) = l :: ls := by
  simp [skipSemicolons, h]

/-- A statement that another one controls begins with no semicolon, so it is read at once. -/
theorem parses_takeBody {cx : Context} {statement : Parser Statement} {a : Statement}
    (hl : l.isMark .semicolon = false) (hbody : Parses statement (l :: ls) a k) :
    Parses (takeBody cx statement) (l :: ls) a k := by
  refine parses_bind_ahead ?_
  rw [skipSemicolons_cons hl]
  exact parses_bind_moveTo hbody

/-- No `ELSE` comes behind the semicolons that come next. -/
def NoElse (k : List Lexeme) : Prop := (skipSemicolons k).head?.any (Lexeme.isKeyword .ELSE) = false

/-- Canonical statements begin with none. -/
theorem noElse_of_list {ss : List Statement} (hss : Statement.listCanonical ss)
    (hspells : Spells line (Statement.listTokens ss) ls k) (hk : NoElse k) : NoElse ls := by
  cases ss with
  | nil =>
    obtain rfl : ls = k := hspells
    exact hk
  | cons s ss =>
    simp only [Statement.listCanonical, Bool.and_eq_true] at hss
    obtain ⟨mid, hs, -⟩ := spells_append.1 hspells
    obtain ⟨l, ms, key, hkey, rfl, hl, -⟩ := opens_of_spells hss.1 hs
    rw [NoElse, skipSemicolons_cons (isMark_of_keyword? hl _)]
    exact Lexeme.isKeyword_eq_false hl fun helse => absurd hkey (helse ▸ by decide)

theorem parses_takeIf_none {cx : Context} {expr : Nat → Parser Expr} {statement : Parser Statement}
    {w : Lexeme} {mid : List Lexeme} {condition : Expr} {body : Statement} (hw : w.isKeyword .IF)
    (hcondition : Parses (expr 0) ls condition (l :: mid)) (hl : l.isMark .semicolon = false)
    (hbody : Parses statement (l :: mid) body k) (hk : NoElse k) :
    Parses (takeIf cx expr statement) (w :: ls) (.conditional condition body none) k := by
  refine (parses_expectKeyword hw).bind (hcondition.bind ?_)
  refine (parses_takeBody hl hbody).bind (parses_bind_ahead ?_)
  rw [NoElse] at hk
  cases hskip : skipSemicolons k with
  | nil => exact parses_pure _ k
  | cons e es =>
    rw [hskip] at hk
    have helse : e.isKeyword .ELSE = false := hk
    simp only [helse, Bool.false_eq_true, if_false]
    exact parses_pure _ k

theorem parses_takeIf_some {cx : Context} {expr : Nat → Parser Expr} {statement : Parser Statement}
    {w e l' : Lexeme} {mid mid' : List Lexeme} {condition : Expr} {body otherwise : Statement}
    (hw : w.isKeyword .IF) (hcondition : Parses (expr 0) ls condition (l :: mid))
    (hl : l.isMark .semicolon = false) (hbody : Parses statement (l :: mid) body (e :: l' :: mid'))
    (he : e.isKeyword .ELSE) (hl' : l'.isMark .semicolon = false)
    (hotherwise : Parses statement (l' :: mid') otherwise k) :
    Parses (takeIf cx expr statement) (w :: ls) (.conditional condition body (some otherwise))
      k := by
  refine (parses_expectKeyword hw).bind (hcondition.bind ?_)
  refine (parses_takeBody hl hbody).bind (parses_bind_ahead ?_)
  rw [skipSemicolons_cons (Lexeme.isMark_of_isKeyword he _)]
  simp only [he, if_true]
  refine parses_bind_moveTo ((parses_takeBody hl' hotherwise).bind (parses_pure _ k))

theorem parses_takeBegin {cx : Context} {expr : Nat → Parser Expr} {statement : Parser Statement}
    {w e : Lexeme} {key : Keyword} {body : List Statement} (hw : w.isKeyword .BEGIN)
    (hkey : key ∈ Keyword.END :: openers) (hl : l.keyword? = some key)
    (hbody : Chain (listRound statement (Lexeme.isKeyword .END)) [] (l :: ls) body (e :: k))
    (he : e.isKeyword .END) :
    Parses (takeBegin cx expr statement) (w :: l :: ls) (.block body.reverse) k := by
  have hblock : ∀ key ∈ Keyword.END :: openers,
      beginsNoBlock key = false ∧ key ≠ .TRY ∧ key ≠ .CATCH := by
    decide
  obtain ⟨hbegins, htry, hcatch⟩ := hblock key hkey
  have hlast : Parses (listRound statement (Lexeme.isKeyword .END) body) (e :: k) none
      (e :: k) := by
    refine parses_bind_ahead ?_
    simp only [he, if_true]
    exact parses_pure none _
  intro s hs
  have hlist : statementList statement (Lexeme.isKeyword .END) (s.moveTo (l :: ls)) =
      .ok body.reverse (s.moveTo (e :: k)) :=
    (hbody.steps (s.moveTo (l :: ls)) rfl).statementList_eq (hlast _ rfl)
  exact (takeBegin_eq hs hw hl hbegins htry hcatch hlist rfl he).trans rfl

/-! ## Statements -/

section

variable {statement : Parser Statement} {stop : Lexeme → Bool} (hstop : stop l = false)

include hstop

theorem parses_listRound_statement {a : Statement} (hl : l.isMark .semicolon = false)
    (h : Parses statement (l :: ls) a k) (done : List Statement) :
    Parses (listRound statement stop done) (l :: ls) (some (a :: done)) k := by
  have hitem : Parses (listItem statement done) (l :: ls) (a :: done) k := by
    intro s hs
    rw [listItem_eq statement done hs, h s hs]
    rfl
  refine parses_bind_ahead ?_
  simp only [hstop, hl, Bool.false_eq_true, if_false]
  exact hitem.bind (parses_pure _ k)

theorem parses_listRound_semicolon (hl : l.isMark .semicolon) (done : List Statement) :
    Parses (listRound statement stop done) (l :: k) (some done) k := by
  refine parses_bind_ahead ?_
  simp only [hstop, hl, Bool.false_eq_true, if_false, if_true]
  exact parses_bind_advance_one (parses_pure _ k)

end

variable {cx : Context}

mutual

/-- **A canonical statement is read back**, if what stands behind it ends it. -/
theorem parses_statement (hversion : .sql2008 ≤ cx.version) :
    ∀ (s : Statement) {levels : Nat} {ls k : List Lexeme} {l : Lexeme},
    s.canonical → s.nesting ≤ levels + 1 → Spells line s.tokens ls (l :: k) → closesStatement l →
    (s.endsOpen → NoElse (l :: k)) →
    Parses (statement cx (levels + 1)) ls (s.renumber fun _ => line) (l :: k)
  | .declare items, levels, ls, k, l, hs, hnesting, hspells, hl, _ => by
    have htake := parses_takeDeclare hversion hs hnesting hspells hl
    obtain ⟨w, ms, rfl, hw, -⟩ := hspells
    refine parses_bind_ahead ?_
    simp only [List.head?_cons, Option.bind_some, Lexeme.dispatch?_of_token hw]
    exact htake
  | .setVariable target op value, levels, ls, k, l, hs, hnesting, hspells, hl, _ => by
    have htake := parses_takeSet hversion hs hnesting hspells hl
    obtain ⟨w, ms, rfl, hw, -⟩ := hspells
    refine parses_bind_ahead ?_
    simp only [List.head?_cons, Option.bind_some, Lexeme.dispatch?_of_token hw]
    exact htake
  | .setOption number options on, levels, ls, k, l, hs, _, hspells, _, _ => by
    have htake : Parses (takeSet cx (expr cx levels)) ls _ (l :: k) :=
      parses_takeSet_option hs hspells
    obtain ⟨w, ms, rfl, hw, -⟩ := hspells
    refine parses_bind_ahead ?_
    simp only [List.head?_cons, Option.bind_some, Lexeme.dispatch?_of_token hw]
    exact htake
  | .returns value, levels, ls, k, l, hs, hnesting, hspells, hl, _ => by
    have htake : Parses (takeReturn cx (expr cx levels)) ls _ (l :: k) :=
      parses_takeReturn hs hnesting hspells hl
    obtain ⟨w, ms, rfl, hw, -⟩ := hspells
    refine parses_bind_ahead ?_
    simp only [List.head?_cons, Option.bind_some, Lexeme.dispatch?_of_token hw]
    exact htake
  | .block body, levels, ls, k, l, hs, hnesting, hspells, _, _ => by
    obtain ⟨w, ms, rfl, hw, -, hms⟩ := hspells
    obtain ⟨mid, hbody, e, es, rfl, he, -, rfl⟩ := spells_append.1 hms
    have hend : e.isKeyword .END := Lexeme.isKeyword_of_token he
    -- Whatever stands behind the block, its `END` keeps an `ELSE` from the statements inside.
    have hnoElse : NoElse (e :: l :: k) := by
      rw [NoElse, skipSemicolons_cons (Lexeme.isMark_of_isKeyword hend _)]
      exact Lexeme.isKeyword_eq_false (Lexeme.keyword?_of_token he) (by decide)
    have hdeep : Statement.listNesting body ≤ levels := Nat.le_of_succ_le_succ hnesting
    have hchain := chain_listRound hversion body [] hs hdeep hbody hnoElse fun l hl => hl
    obtain ⟨l', ms, key, hkey, rfl, hl'⟩ := opens_of_list hs hbody he
    have htake : Parses (takeBegin cx (expr cx levels) (statement cx levels)) (w :: l' :: ms) _
        (l :: k) :=
      parses_takeBegin (Lexeme.isKeyword_of_token hw) hkey hl' hchain hend
    refine parses_bind_ahead ?_
    simp only [List.head?_cons, Option.bind_some, Lexeme.dispatch?_of_token hw]
    simpa [Statement.renumber] using htake
  | .conditional condition body none, levels, ls, k, l, hs, hnesting, hspells, hl, hopen => by
    simp only [Statement.canonical, Bool.and_eq_true] at hs
    rw [Statement.nesting] at hnesting
    obtain ⟨w, ms, rfl, hw, -, hms⟩ := hspells
    obtain ⟨mid, hcondition, hmid⟩ := spells_append.1 hms
    obtain ⟨_, hbody, rfl⟩ := spells_append.1 hmid
    obtain ⟨l', ms', key, hkey, rfl, hl', -⟩ := opens_of_spells hs.1.1.2 hbody
    have hpos := body.nesting_pos
    obtain ⟨n, rfl⟩ : ∃ n, levels = n + 1 := Nat.exists_eq_add_one.2 (by omega)
    have hdeep : condition.nesting ≤ n + 1 ∧ body.nesting ≤ n + 1 := by omega
    have hcondition := parses_expr cx line hs.1.1.1 hdeep.1 hcondition
      (stops_of_mem_openers hkey hl')
    have hbody := parses_statement hversion body hs.1.1.2 hdeep.2 hbody hl fun _ => hopen rfl
    refine parses_bind_ahead ?_
    simp only [List.head?_cons, Option.bind_some, Lexeme.dispatch?_of_token hw]
    exact parses_takeIf_none (Lexeme.isKeyword_of_token hw) hcondition (isMark_of_keyword? hl' _)
      hbody (hopen rfl)
  | .conditional condition body (some otherwise), levels, ls, k, l, hs, hnesting, hspells, hl,
      hopen => by
    simp only [Statement.canonical, Bool.and_eq_true, Option.isSome_some, Bool.true_and,
      Bool.not_eq_true'] at hs
    rw [Statement.nesting] at hnesting
    obtain ⟨w, ms, rfl, hw, -, hms⟩ := hspells
    obtain ⟨mid, hcondition, hmid⟩ := spells_append.1 hms
    obtain ⟨_, hbody, e, es, rfl, he, -, hother⟩ := spells_append.1 hmid
    obtain ⟨l', ms', key, hkey, rfl, hl', -⟩ := opens_of_spells hs.1.1.2 hbody
    obtain ⟨o, os, _, -, rfl, ho, -⟩ := opens_of_spells hs.1.2 hother
    have helse : e.isKeyword .ELSE := Lexeme.isKeyword_of_token he
    have hpos := body.nesting_pos
    obtain ⟨n, rfl⟩ : ∃ n, levels = n + 1 := Nat.exists_eq_add_one.2 (by omega)
    have hdeep : condition.nesting ≤ n + 1 ∧ body.nesting ≤ n + 1 ∧ otherwise.nesting ≤ n + 1 := by
      rw [Statement.optionNesting] at hnesting
      omega
    have hcondition := parses_expr cx line hs.1.1.1 hdeep.1 hcondition
      (stops_of_mem_openers hkey hl')
    have hcloses : closesStatement e := by simp [closesStatement, helse]
    -- The body does not end open, so it leaves the `ELSE` behind it to this statement.
    have hbody := parses_statement hversion body hs.1.1.2 hdeep.2.1 hbody hcloses (by simp [hs.2])
    have hother := parses_statement hversion otherwise hs.1.2 hdeep.2.2 hother hl hopen
    refine parses_bind_ahead ?_
    simp only [List.head?_cons, Option.bind_some, Lexeme.dispatch?_of_token hw]
    exact parses_takeIf_some (Lexeme.isKeyword_of_token hw) hcondition (isMark_of_keyword? hl' _)
      hbody helse (isMark_of_keyword? ho _) hother
  | .procedure .., _, _, _, _, hs, _, _, _, _ => by simp [Statement.canonical] at hs
  | .function .., _, _, _, _, hs, _, _, _, _ => by simp [Statement.canonical] at hs
  | .execute .., _, _, _, _, hs, _, _, _, _ => by simp [Statement.canonical] at hs
  | .other .., _, _, _, _, hs, _, _, _, _ => by simp [Statement.canonical] at hs

/-- Canonical statements with a semicolon behind each of them are read one by one. -/
theorem chain_listRound (hversion : .sql2008 ≤ cx.version) : ∀ (ss done : List Statement)
    {levels : Nat} {stop : Lexeme → Bool} {ls k : List Lexeme}, Statement.listCanonical ss →
    Statement.listNesting ss ≤ levels → Spells line (Statement.listTokens ss) ls k → NoElse k →
    (∀ l, stop l → l.isKeyword .END) →
    Chain (listRound (statement cx levels) stop) done ls
      ((ss.map (Statement.renumber fun _ => line)).reverse ++ done) k
  | [], done, levels, stop, ls, k, _, _, hspells, _, _ => by
    obtain rfl : ls = k := hspells
    exact .refl done ls
  | s :: ss, done, levels, stop, ls, k, hss, hnesting, hspells, hk, hstop => by
    simp only [Statement.listCanonical, Bool.and_eq_true] at hss
    rw [Statement.listNesting] at hnesting
    have hpos := s.nesting_pos
    obtain ⟨n, rfl⟩ : ∃ n, levels = n + 1 := Nat.exists_eq_add_one.2 (by omega)
    obtain ⟨_, hs, semicolon, ms, rfl, hsemicolon, -, hms⟩ := spells_append.1 hspells
    obtain ⟨l, ls', key, hkey, rfl, hl, hle⟩ := opens_of_spells hss.1 hs
    have hmark := Lexeme.isMark_of_token hsemicolon
    have hnoElse : NoElse (semicolon :: ms) := by
      rw [NoElse, skipSemicolons, List.dropWhile_cons_of_pos hmark]
      exact noElse_of_list hss.2 hms hk
    have hgo : ∀ l', l'.isKeyword .END = false → stop l' = false := by
      intro l' hl'
      rw [Bool.eq_false_iff] at hl' ⊢
      exact fun h => hl' (hstop l' h)
    have hdeep : s.nesting ≤ n + 1 ∧ Statement.listNesting ss ≤ n + 1 := by omega
    have hcloses : closesStatement semicolon := by simp [closesStatement, hmark]
    have hstatement := parses_statement hversion s hss.1 hdeep.1 hs hcloses fun _ => hnoElse
    have hrest := chain_listRound hversion ss (s.renumber (fun _ => line) :: done) hss.2 hdeep.2 hms
      hk hstop
    have hend : l.isKeyword .END = false :=
      Lexeme.isKeyword_eq_false hl fun hend => absurd hkey (hend ▸ by decide)
    have hend' : semicolon.isKeyword .END = false := Lexeme.isKeyword_of_mark hsemicolon .END
    refine .cons (parses_listRound_statement (hgo l hend) (isMark_of_keyword? hl _) hstatement done)
      (Nat.lt_succ_of_le hle) ?_
    refine .cons (parses_listRound_semicolon (hgo semicolon hend') hmark _) (Nat.lt_succ_self _) ?_
    simpa using hrest

end

end Parser

/-- **A batch of canonical statements is read back from its tokens**, all of them on one line, with
a semicolon behind each statement. -/
theorem parseBatch_listTokens {version : Version} (hversion : .sql2008 ≤ version)
    {ss : List Statement} (hss : Statement.listCanonical ss)
    (hnesting : Statement.listNesting ss ≤ maxDepth) {line : Nat} {batch : List Lexeme}
    (hbatch : batch.map (fun l => (l.token, l.line)) = (Statement.listTokens ss).map (·, line)) :
    parseBatch version batch = (ss.map (Statement.renumber fun _ => line), []) := by
  have hversion : .sql2008 ≤ (Context.ofBatch version batch).version := hversion
  have hstop : ∀ l : Lexeme, (fun _ => false : Lexeme → Bool) l → l.isKeyword .END := by simp
  have hspells := Parser.spells_of_map_eq hbatch
  have hchain := Parser.chain_listRound hversion ss [] hss hnesting hspells rfl hstop
  have hsteps := hchain.steps ⟨batch, []⟩ rfl
  rw [parseBatch_eq hsteps rfl]
  simp [Cursor.moveTo]

/-- `DECLARE @a varchar(10) = 'x', @b int; IF NOT @a = 'x' + 'y' BEGIN SET NOCOUNT ON; END ELSE
SET @b += - 1 * (2 - @b); RETURN;` -/
theorem parseBatch_listTokens_if_else :
    let ss : List Statement :=
      [.declare [.scalar ⟨"@a", 1⟩ ⟨"varchar", [.size 10], 1⟩ (some (.string "x" false)),
          .scalar ⟨"@b", 1⟩ ⟨"int", [], 1⟩ none],
        .conditional (.unary .not (.binary .eq (.var ⟨"@a", 2⟩)
            (.binary .plus (.string "x" false) (.string "y" false))))
          (.block [.setOption 3 ["NOCOUNT"] true])
          (some (.setVariable ⟨"@b", 4⟩ (some .plus) (.binary .multiply
            (.unary .minus (.number "1"))
            (.paren (.binary .minus (.number "2") (.var ⟨"@b", 4⟩)))))),
        .returns none]
    parseBatch .sql2008 ((Statement.listTokens ss).map (⟨·, 7, false⟩)) =
      (ss.map (Statement.renumber fun _ => 7), []) := by
  intro ss
  exact parseBatch_listTokens (by decide) (by decide) (by decide) (by simp)

end SqlLint
