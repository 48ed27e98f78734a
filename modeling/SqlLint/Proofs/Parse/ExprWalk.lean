import SqlLint.Parse.Expr
import SqlLint.Proofs.Parse.Walk
import SqlLint.Proofs.Syntax.Variables

/-!
# Readers of expressions walk

Every reader of an expression that succeeds has walked over the lexemes it passed and kept the
variables of its tree. One that fails has passed lexemes that are there, and no more is said of it:
whoever catches the failure goes back.

Each reader is given the reader one level deeper, so its lemma assumes the same of that one; the
knot is tied by induction on the levels, as in the definition.

## Two forms of statement

`Reads p out` says that `p` walks from where it is started and leaves no parenthesis open.
A reader that is started behind an opening parenthesis and passes the closing one does not do that
by itself. `Closes p out` says of it that a walk that has left a parenthesis open, whatever it was
before, is continued to one that has closed it.

## Main results

* `ends_parenRound`, `ends_scanRound`: a round of a scan, by the lexeme it begins with
* `reads_commaSeparated`, `closes_parenFragment`, `reads_fragmentTail`: lists and fragments
* `reads_takeHead`, `reads_operatorChain`: an expression, given the expressions inside
* `reads_expr`: an expression with any number of levels left
-/

namespace SqlLint

/-- An operator is made of at least one lexeme, none of them a variable or a parenthesis. -/
theorem BinaryOp.atStart?_eq_some {ls : List Lexeme} {op : BinaryOp} {width : Nat}
    (h : BinaryOp.atStart? ls = some (op, width)) :
    ∃ l ks rest, ls = (l :: ks) ++ rest ∧ width = (l :: ks).length ∧
      ∀ k ∈ l :: ks, k.IsPlain := by
  cases found_of_atStart? h with
  | @mark l rest m hl hop =>
    have hmark : l.isMark m := by simp [Lexeme.isMark, hl]
    have hplain : l.IsPlain := by
      refine Lexeme.isPlain_of_isMark hmark ?_ ?_
      · rintro rfl
        simp [ofMark?] at hop
      · rintro rfl
        simp [ofMark?] at hop
    exact ⟨l, [], rest, rfl, rfl, by simpa using hplain⟩
  | @word l rest k hl _ =>
    have hplain := Lexeme.isPlain_of_dispatch? hl
    exact ⟨l, [], rest, rfl, rfl, by simpa using hplain⟩
  | @negated l next rest k hl hnext _ =>
    have hplain := Lexeme.isPlain_of_dispatch? hl
    have hplain' := Lexeme.isPlain_of_dispatch? hnext
    exact ⟨l, [next], rest, rfl, rfl, by simp [hplain, hplain']⟩

namespace Parser

variable {α β : Type} {p : Parser α} {out : α → List Variable} {f : α → Parser β}
  {Q : β → Cursor → Prop} {n : Nat} {vs : List Variable} {s t : Cursor}

/-- A success is a walk that leaves no parenthesis open and keeps the variables of the value; a
failure stays in the batch. -/
def Reads (p : Parser α) (out : α → List Variable) : Prop :=
  ∀ s, Ends p s (fun a t => s.Walks 0 (out a) t) fun _ t => s.Reaches t

/-- A success closes a parenthesis that has been left open and keeps the variables of the value. -/
def Closes (p : Parser α) (out : α → List Variable) : Prop :=
  ∀ (n : Nat) (vs : List Variable) (s t : Cursor), s.Walks (n + 1) vs t →
    Ends p t (fun a u => s.Walks n (vs ++ out a) u) fun _ u => s.Reaches u

/-- A reader of something that has no variables. -/
def Passes (p : Parser α) : Prop := Reads p fun _ => []

/-! ## Continuing a walk -/

theorem Reads.from (hp : Reads p out) (h : s.Walks n vs t) :
    Ends p t (fun a u => s.Walks n (vs ++ out a) u) fun _ u => s.Reaches u :=
  (hp t).mono (fun _ _ hu => h.trans hu) fun _ _ hu => h.reaches.trans hu

theorem Reads.bind (hp : Reads p out) (h : s.Walks n vs t)
    (hf : ∀ a u, s.Walks n (vs ++ out a) u → Ends (f a) u Q fun _ v => s.Reaches v) :
    Ends (p >>= f) t Q fun _ v => s.Reaches v :=
  ends_bind.2 ((hp.from h).mono hf fun _ _ hu => hu)

theorem Closes.bind (hp : Closes p out) (h : s.Walks (n + 1) vs t)
    (hf : ∀ a u, s.Walks n (vs ++ out a) u → Ends (f a) u Q fun _ v => s.Reaches v) :
    Ends (p >>= f) t Q fun _ v => s.Reaches v :=
  ends_bind.2 ((hp n vs s t h).mono hf fun _ _ hu => hu)

theorem Passes.bind (hp : Passes p) (h : s.Walks n vs t)
    (hf : ∀ a u, s.Walks n vs u → Ends (f a) u Q fun _ v => s.Reaches v) :
    Ends (p >>= f) t Q fun _ v => s.Reaches v :=
  Reads.bind hp h fun a u hu => hf a u (List.append_nil vs ▸ hu)

/-! ## Single lexemes -/

theorem passes_eatIf {test : Lexeme → Bool} (htest : ∀ l, test l → l.IsPlain) :
    Passes (eatIf test) := by
  intro s
  refine ends_eatIf (.refl s) fun l rest hs hl => ?_
  exact (Cursor.Walks.refl s).skip hs (htest l hl)

theorem passes_eat {m : Mark} (hl : m ≠ .leftParen) (hr : m ≠ .rightParen) : Passes (eat m) :=
  passes_eatIf fun _ h => Lexeme.isPlain_of_isMark h hl hr

theorem passes_eatKeyword (k : Keyword) : Passes (eatKeyword k) :=
  passes_eatIf fun _ h => Lexeme.isPlain_of_isKeyword h

theorem passes_expect (cx : Context) {m : Mark} (hl : m ≠ .leftParen) (hr : m ≠ .rightParen) :
    Passes (expect cx m) := by
  intro s
  refine ends_demand cx (.mark m) (fun l rest hs h => ?_) fun _ => .refl s
  exact (Cursor.Walks.refl s).skip hs (Lexeme.isPlain_of_isMark h hl hr)

theorem passes_expectKeyword (cx : Context) (k : Keyword) : Passes (expectKeyword cx k) := by
  intro s
  refine ends_demand cx (.keyword k) (fun l rest hs h => ?_) fun _ => .refl s
  exact (Cursor.Walks.refl s).skip hs (Lexeme.isPlain_of_isKeyword h)

/-- An opening parenthesis that has to come next. -/
theorem ends_bind_expect_left (cx : Context) {f : Unit → Parser β} (h : s.Walks n vs t)
    (hf : ∀ u, s.Walks (n + 1) vs u → Ends (f ()) u Q fun _ v => s.Reaches v) :
    Ends (expect cx .leftParen >>= f) t Q fun _ v => s.Reaches v := by
  rw [ends_bind]
  refine ends_demand cx _ (fun l rest ht hl => ?_) fun _ => h.reaches
  exact hf _ (h.opening ht hl)

/-- A closing parenthesis that has to come next. -/
theorem closes_expect (cx : Context) : Closes (expect cx .rightParen) fun _ => [] := by
  intro n vs s t h
  refine ends_demand cx _ (fun l rest ht hl => ?_) fun _ => h.reaches
  rw [List.append_nil]
  exact h.closing ht hl

theorem ends_bind_expect_right (cx : Context) {f : Unit → Parser β} (h : s.Walks (n + 1) vs t)
    (hf : ∀ u, s.Walks n vs u → Ends (f ()) u Q fun _ v => s.Reaches v) :
    Ends (expect cx .rightParen >>= f) t Q fun _ v => s.Reaches v :=
  (closes_expect cx).bind h fun _ u hu => hf u (List.append_nil vs ▸ hu)

/-! ## Loops and lists -/

/-- What a round of a loop comes to that only ever adds variables behind those of its value: one
that goes on passes at least one lexeme, and the last one leaves the cursor where it was. -/
def RoundEnd (R : List Variable → Cursor → Cursor → Prop) (out : α → List Variable) (a : α)
    (s : Cursor) (o : Option α) (t : Cursor) : Prop :=
  match o with
  | none => t = s
  | some b => t.rest.length < s.rest.length ∧ ∃ ws, R ws s t ∧ out b = out a ++ ws

section

variable {R : List Variable → Cursor → Cursor → Prop} (hR : Cursor.Tracks R)

include hR

theorem ends_repeatWhile_round (out : α → List Variable) {step : α → Parser (Option α)}
    (hstep : ∀ a t, Ends (step a) t (RoundEnd R out a t) fun _ u => t.Reaches u) {a : α}
    (h : R (out a) s t) :
    Ends (repeatWhile step a) t (fun b u => R (out b) s u) fun _ u => s.Reaches u := by
  refine ends_repeatWhile (I := fun b u => R (out b) s u) h (fun b u hu => ?_) fun b u hu _ => hu
  refine (hstep b u).mono (fun o v ho => ?_) fun _ v hv => (hR.reaches hu).trans hv
  cases o with
  | none =>
    obtain rfl : v = u := ho
    exact hu
  | some c =>
    obtain ⟨hlt, ws, hwalk, hout⟩ := ho
    refine ⟨?_, hlt⟩
    rw [hout]
    exact hR.trans hu hwalk

theorem ends_commaSeparated {item : Parser α}
    (hitem : ∀ s, Ends item s (fun a t => R (out a) s t) fun _ t => s.Reaches t) (s : Cursor) :
    Ends (commaSeparated item) s (fun as t => R (as.flatMap out) s t) fun _ t => s.Reaches t := by
  rw [commaSeparated, ends_bind]
  refine (hitem s).mono (fun first t ht => ?_) fun _ _ h => h
  rw [ends_bind]
  refine ends_repeatWhile_round hR (fun as : List α => as.reverse.flatMap out)
    (fun as u => ?_) (by simpa using ht)
  refine ends_bind_eatIf (fun l rest hl hcomma => ?_) rfl
  have hpast := hR.skip hl (Lexeme.isPlain_of_isMark hcomma (by decide) (by decide))
  rw [if_pos rfl, ends_bind]
  refine (hitem _).mono (fun a v hv => ?_) fun _ v hv => (hR.reaches hpast).trans hv
  refine ⟨(hR.reaches hv).length_lt hl, out a, hR.trans hpast hv, ?_⟩
  simp

end

theorem reads_commaSeparated {item : Parser α} (hitem : Reads item out) :
    Reads (commaSeparated item) fun as => as.flatMap out :=
  ends_commaSeparated Cursor.tracks_walks hitem

/-! ## Variables, names and types -/

/-- Going on after a look for a variable. -/
theorem ends_bind_nextVariable? {f : Option Variable → Parser β} {E : SyntaxError → Cursor → Prop}
    (hsome : ∀ l rest v, s.rest = l :: rest → l.variableHere? = some v → Ends (f (some v)) s Q E)
    (hnone : Ends (f none) s Q E) : Ends (nextVariable? >>= f) s Q E := by
  rw [ends_bind]
  change Ends (f (s.rest.head?.bind Lexeme.variableHere?)) s Q E
  cases hv : s.rest.head?.bind Lexeme.variableHere? with
  | none => exact hnone
  | some v =>
    obtain ⟨l, hl, hv⟩ := Option.bind_eq_some_iff.1 hv
    obtain ⟨rest, hs⟩ := List.head?_eq_some_iff.1 hl
    exact hsome l rest v hs hv

theorem reads_takeVariable (cx : Context) : Reads (takeVariable cx) fun v => [v] := by
  intro s
  rw [takeVariable]
  refine ends_bind_nextVariable? (fun l rest v hs hv => ?_) ?_
  · simp only
    rw [ends_bind, ends_advance_one hs]
    exact (Cursor.Walks.refl s).keep hs hv
  · exact ends_expected cx _ fun _ => .refl s

/-- The further parts of a name are periods and words that are no variables. -/
theorem Walks.nameTail : ∀ (ls : List Lexeme) {n : Nat} {vs : List Variable} {s t : Cursor},
    s.Walks n vs t → t.rest = ls → s.Walks n vs (t.moveTo (Parser.nameTail ls).2)
  | [], _, _, _, _, h, ht => h.congr ht.symm rfl
  | [_], _, _, _, _, h, ht => h.congr ht.symm rfl
  | dot :: part :: rest, _, _, _, t, h, ht => by
    have hsame := h.congr (u := t.moveTo (dot :: part :: rest)) ht.symm rfl
    rw [Parser.nameTail]
    cases htext : part.namePart? with
    | none => exact hsame
    | some text =>
      by_cases hdot : dot.isMark .period
      · have hpast := (h.skip ht (Lexeme.isPlain_of_isMark hdot (by decide) (by decide))).skip rfl
          (Lexeme.isPlain_of_namePart? htext)
        simpa [hdot] using Walks.nameTail rest hpast rfl
      · simpa [hdot] using hsame

theorem passes_takeName (cx : Context) (what : Expectation) : Passes (takeName cx what) := by
  intro s
  rw [Ends, takeName]
  cases hs : s.rest with
  | nil => exact Cursor.Reaches.refl s
  | cons l rest =>
    simp only
    cases htext : l.namePart? with
    | none => exact Cursor.Reaches.refl s
    | some text =>
      have hpast := (Cursor.Walks.refl s).skip hs (Lexeme.isPlain_of_namePart? htext)
      have htail := Walks.nameTail rest hpast rfl
      exact htail

theorem passes_takeTypeParam (cx : Context) : Passes (takeTypeParam cx) := by
  intro s
  rw [takeTypeParam, ends_bind, ends_ahead]
  have hfail : ∀ what, Ends (expected cx what : Parser TypeParam) s
      (fun _ t => s.Walks 0 [] t) fun _ t => s.Reaches t :=
    fun what => ends_expected cx what fun _ => .refl s
  cases hs : s.rest with
  | nil => exact hfail _
  | cons l rest =>
    cases ht : l.token with
    | number digits long =>
      simp only [List.head?_cons, Option.map_some, ht]
      split
      · rw [ends_bind, ends_advance_one hs]
        refine (Cursor.Walks.refl s).skip hs (Lexeme.isPlain_of_ne_mark ?_ (by simp [ht]))
        exact Lexeme.variableHere?_eq_none_of_plainWord? (by rw [ht]; rfl)
      · exact hfail _
    | word text quote =>
      simp only [List.head?_cons, Option.map_some, ht]
      split
      · next hmax =>
        rw [ends_bind, ends_advance_one hs]
        refine (Cursor.Walks.refl s).skip hs (Lexeme.isPlain_of_ne_mark ?_ (by simp [ht]))
        -- a word that reads as `max` does not begin with the sign of a variable
        rw [Lexeme.variableHere?, Lexeme.variableName?, ht, Token.variableName?]
        cases quote with
        | some q => rfl
        | none =>
          have hlist : text.toList.map Char.toUpper = ['M', 'A', 'X'] := by
            simpa [Text.equalFold] using hmax
          cases hcs : text.toList with
          | nil => simp [Token.plainWord?, hcs]
          | cons c cs =>
            have hc : c ≠ '@' := by
              rintro rfl
              rw [hcs] at hlist
              simp at hlist
            cases cs <;> simp [Token.plainWord?, hcs, hc]
      · exact hfail _
    | _ => simpa [ht] using hfail _

theorem passes_takeTypeWord (name : String) : Passes (takeTypeWord name) := by
  intro s
  rw [takeTypeWord]
  split
  · refine (passes_eatKeyword .PRECISION).bind (.refl s) fun b t ht => ?_
    split <;> exact ht
  · split
    · refine (passes_eatKeyword .VARYING).bind (.refl s) fun b t ht => ?_
      split <;> exact ht
    · exact .refl s

theorem passes_takeTypeRef (cx : Context) : Passes (takeTypeRef cx) := by
  intro s
  rw [takeTypeRef, ends_bind, ends_ahead]
  refine (passes_takeName cx .dataType).bind (.refl s) fun parts t ht => ?_
  refine (passes_takeTypeWord _).bind ht fun name t ht => ?_
  refine ends_bind_eatIf (fun l rest hl hparen => ?_) ht
  have hopen := ht.opening hl hparen
  rw [if_pos rfl]
  refine (reads_commaSeparated (passes_takeTypeParam cx)).bind hopen fun params t ht => ?_
  rw [List.flatMap_eq_nil_iff.2 fun _ _ => rfl] at ht
  exact ends_bind_expect_right cx ht fun u hu => hu

/-- What looking for an item of a fragment comes to. An item passes at least one lexeme; without
one the cursor stays where it was, which is then at no variable. -/
def ItemEnd (s : Cursor) (item : Option Expr) (t : Cursor) : Prop :=
  match item with
  | some e => s.Walks 0 e.vars t ∧ t.rest.length < s.rest.length
  | none => t.rest = s.rest ∧ t.overrun = s.overrun ∧
    ∀ l ∈ s.rest.head?, l.variableHere? = none

theorem itemEnd_none {l : Lexeme} {rest : List Lexeme} (hs : s.rest = l :: rest)
    (hv : l.variableHere? = none) (hrest : t.rest = s.rest) (hover : t.overrun = s.overrun) :
    ItemEnd s none t := by
  refine ⟨hrest, hover, fun k hk => ?_⟩
  rw [hs] at hk
  cases hk
  exact hv

theorem ends_requireCast (cx : Context) (kind : CastKind) {Q : Unit → Cursor → Prop}
    {E : SyntaxError → Cursor → Prop} (hQ : Q () s) (hE : ∀ e, E e s) :
    Ends (requireCast cx kind) s Q E := by
  rw [requireCast]
  cases kind.feature? with
  | none => exact hQ
  | some g => exact ends_require cx g hQ hE

theorem ends_requireIif (cx : Context) (ls : List Lexeme) {Q : Unit → Cursor → Prop}
    {E : SyntaxError → Cursor → Prop} (hQ : Q () s) (hE : ∀ e, E e s) :
    Ends (requireIif cx ls) s Q E := by
  rw [requireIif]
  split
  · exact ends_require cx .iif hQ hE
  · exact hQ

theorem exists_of_opensAllColumns {ls : List Lexeme} (h : opensAllColumns ls) :
    ∃ dot star rest, ls = dot :: star :: rest ∧ dot.isMark .period ∧ star.isMark .star := by
  unfold opensAllColumns at h
  split at h
  · next dot star rest =>
    rw [Bool.and_eq_true] at h
    exact ⟨dot, star, rest, rfl, h.1, h.2⟩
  · exact absurd h (by decide)

/-- A star behind a name belongs to it and has no variable. -/
theorem passes_skipAllColumns : Passes skipAllColumns := by
  intro s
  rw [skipAllColumns, ends_bind, ends_ahead]
  split
  · next hopens =>
    obtain ⟨dot, star, rest, hs, hdot, hstar⟩ := exists_of_opensAllColumns hopens
    rw [ends_advance_two hs]
    refine ((Cursor.Walks.refl s).skip hs ?_).skip rfl ?_
    · exact Lexeme.isPlain_of_isMark hdot (by decide) (by decide)
    · exact Lexeme.isPlain_of_isMark hstar (by decide) (by decide)
  · exact .refl s

/-! ## Rounds of a scan -/

section

variable (cx : Context) {deeper : Nat → Parser Expr} {s : Cursor} {l : Lexeme} {rest : List Lexeme}
  {E : SyntaxError → Cursor → Prop}

theorem parenRound_nil (deeper : Nat → Parser Expr) (state : Nat × List Expr) (hs : s.rest = []) :
    parenRound cx deeper state s = .ok none s := by
  rw [parenRound, bind_ahead, hs]
  rfl

theorem scanRound_nil (deeper : Nat → Parser Expr) (inUpdate : Bool) (state : Scanning)
    (hs : s.rest = []) : scanRound cx deeper inUpdate state s = .ok none s := by
  rw [scanRound, bind_ahead, hs]
  rfl

/-- A round of the scan up to a closing parenthesis, by the lexeme it begins with. -/
theorem ends_parenRound {depth : Nat} {found : List Expr}
    {Q : Option (Nat × List Expr) → Cursor → Prop} (hs : s.rest = l :: rest)
    (hopen : l.isMark .leftParen → Q (some (depth + 1, found)) (s.moveTo rest))
    (hlast : l.isMark .rightParen → depth = 0 → Q none (s.moveTo rest))
    (hclose : l.isMark .rightParen → ∀ d, depth = d + 1 → Q (some (d, found)) (s.moveTo rest))
    (hitem : ¬l.isMark .leftParen → ¬l.isMark .rightParen →
      Ends (scanItem cx deeper found) s (fun found' t => Q (some (depth, found')) t) E) :
    Ends (parenRound cx deeper (depth, found)) s Q E := by
  rw [parenRound, ends_bind, ends_ahead]
  simp only [hs]
  split
  · next hleft =>
    rw [ends_bind, ends_advance_one hs]
    exact hopen hleft
  · next hleft =>
    split
    · next hright =>
      rw [ends_bind, ends_advance_one hs]
      split
      · next hd => exact hlast hright hd
      · next hd => exact hclose hright (depth - 1) (by omega)
    · next hright =>
      rw [ends_bind]
      exact hitem hleft hright

/-- A round of the scan of a statement, by the lexeme it begins with. What it remembers of `SET` and
`CASE` is left open. -/
theorem ends_scanRound {inUpdate : Bool} {state : Scanning} {Q : Option Scanning → Cursor → Prop}
    (hs : s.rest = l :: rest) (hlast : state.depth = 0 → Q none s)
    (hopen : l.isMark .leftParen → ∀ seen,
      Q (some { state with setSeen := seen, depth := state.depth + 1 }) (s.moveTo rest))
    (hclose : l.isMark .rightParen → ∀ d, state.depth = d + 1 → ∀ seen,
      Q (some { state with setSeen := seen, depth := d }) (s.moveTo rest))
    (hplain : l.IsPlain → ∀ seen cases,
      Q (some { state with setSeen := seen, cases := cases }) (s.moveTo rest))
    (hitem : ¬l.isMark .leftParen → ¬l.isMark .rightParen → ∀ seen,
      Ends (scanItem cx deeper state.found) s
        (fun found t => Q (some { state with setSeen := seen, found := found }) t) E) :
    Ends (scanRound cx deeper inUpdate state) s Q E := by
  rw [scanRound, ends_bind, ends_ahead]
  simp only [hs]
  split
  · next hends => exact hlast (by simp_all [Scanning.endsAt])
  · next hends =>
    split
    · next hleft =>
      rw [ends_bind, ends_advance_one hs]
      exact hopen hleft _
    · next hleft =>
      split
      · next hright =>
        -- a closing parenthesis does not end the statement, so one is open
        have hdepth : state.depth ≠ 0 := by simp_all [Scanning.endsAt]
        rw [ends_bind, ends_advance_one hs]
        exact hclose hright (state.depth - 1) (by omega) _
      · next hright =>
        split
        · next hcase =>
          rw [ends_bind, ends_advance_one hs]
          exact hplain (Lexeme.isPlain_of_isKeyword hcase) _ _
        · split
          · next hend =>
            rw [Bool.and_eq_true] at hend
            rw [ends_bind, ends_advance_one hs]
            exact hplain (Lexeme.isPlain_of_isKeyword hend.1) _ _
          · rw [ends_bind]
            exact hitem hleft hright _

end

section

variable (cx : Context) {deeper : Nat → Parser Expr}
  (hdeeper : ∀ m, Reads (deeper m) Expr.vars)

include hdeeper

/-! ## Casts -/

theorem closes_castInside (kind : CastKind) :
    Closes (castInside cx deeper kind) Expr.vars := by
  intro n vs s t h
  rw [castInside]
  refine (hdeeper 0).bind h fun operand t ht => ?_
  refine (passes_expectKeyword cx .AS).bind ht fun _ t ht => ?_
  refine (passes_takeTypeRef cx).bind ht fun target t ht => ?_
  refine ends_bind_expect_right cx ht fun t ht => ?_
  simpa [ends_pure, Expr.vars, Expr.optionVars] using ht

theorem closes_convertInside (kind : CastKind) :
    Closes (convertInside cx deeper kind) Expr.vars := by
  intro n vs s t h
  rw [convertInside]
  refine (passes_takeTypeRef cx).bind h fun target t ht => ?_
  refine (passes_expect cx (by decide) (by decide)).bind ht fun _ t ht => ?_
  refine (hdeeper 0).bind ht fun operand t ht => ?_
  refine (passes_eat (m := .comma) (by decide) (by decide)).bind ht fun comma t ht => ?_
  split
  · refine (hdeeper 0).bind ht fun style t ht => ?_
    refine ends_bind_expect_right cx ht fun t ht => ?_
    simpa [ends_pure, Expr.vars, Expr.optionVars] using ht
  · refine ends_bind_expect_right cx ht fun t ht => ?_
    simpa [ends_pure, Expr.vars, Expr.optionVars] using ht

theorem closes_takeCastInside : ∀ kind, Closes (takeCastInside cx deeper kind) Expr.vars
  | .cast => closes_castInside cx hdeeper .cast
  | .tryCast => closes_castInside cx hdeeper .tryCast
  | .convert => closes_convertInside cx hdeeper .convert
  | .tryConvert => closes_convertInside cx hdeeper .tryConvert

/-- A cast passes at least its key word. -/
theorem ends_takeCast (kind : CastKind) {s : Cursor} {l : Lexeme} {rest : List Lexeme}
    (hs : s.rest = l :: rest) (hl : l.IsPlain) :
    Ends (takeCast cx deeper kind) s
      (fun e t => s.Walks 0 e.vars t ∧ t.rest.length < s.rest.length)
      fun _ t => s.Reaches t := by
  have hpast := (Cursor.Walks.refl s).skip hs hl
  rw [takeCast, ends_bind]
  refine ends_requireCast cx kind ?_ fun _ => .refl s
  rw [ends_bind, ends_advance_one hs]
  have hinside : Ends (do expect cx .leftParen; takeCastInside cx deeper kind) (s.moveTo rest)
      (fun e t => (s.moveTo rest).Walks 0 e.vars t) fun _ t => (s.moveTo rest).Reaches t :=
    ends_bind_expect_left cx (.refl _) fun t ht =>
      closes_takeCastInside cx hdeeper kind 0 [] _ t ht
  refine hinside.mono (fun e t ht => ?_) fun _ t ht => hpast.reaches.trans ht
  exact ⟨hpast.trans ht, ht.reaches.length_lt hs⟩

/-! ## Fragments -/

/-- A cast in a fragment that cannot be read leaves the cursor where it was. -/
theorem ends_fragmentCast? (kind : CastKind) {s : Cursor} {l : Lexeme} {rest : List Lexeme}
    (hs : s.rest = l :: rest) (hl : l.IsPlain) :
    Ends (fragmentCast? cx deeper kind (l :: rest)) s (ItemEnd s) fun _ _ => False := by
  rw [fragmentCast?, ends_tryCatch, ends_bind]
  refine (ends_takeCast cx hdeeper kind hs hl).mono (fun e t ht => ht) fun e t ht => ?_
  have hback : ItemEnd s none (t.moveTo (l :: rest)) :=
    itemEnd_none hs hl.noVariable hs.symm ht.overrun
  cases e with
  | unsupported => exact hback
  | _ => exact hback

/-- Looking for an item never fails. -/
theorem ends_fragmentItem? (s : Cursor) :
    Ends (fragmentItem? cx deeper) s (ItemEnd s) fun _ _ => False := by
  rw [fragmentItem?, ends_bind, ends_ahead]
  cases hs : s.rest with
  | nil => exact ⟨rfl, rfl, by simp [hs]⟩
  | cons l rest =>
    simp only
    cases hv : l.variableHere? with
    | some v =>
      rw [ends_bind, ends_advance_one hs]
      exact ⟨(Cursor.Walks.refl s).keep hs hv, (Cursor.Reaches.refl _).length_lt hs⟩
    | none =>
      have hnone : ItemEnd s none s := itemEnd_none hs hv rfl rfl
      simp only
      split
      · split
        · split
          · exact hnone
          · exact hnone
        · cases hkind : castKind? l with
          | none => exact hnone
          | some kind =>
            obtain ⟨k, hk, -⟩ := Option.bind_eq_some_iff.1 hkind
            exact ends_fragmentCast? cx hdeeper kind hs (Lexeme.isPlain_of_keyword? hk)
      · exact hnone

/-- A scan passes at least one lexeme, and keeps the variables of what it adds. -/
theorem ends_scanItem (found : List Expr) {s : Cursor} {l : Lexeme} {rest : List Lexeme}
    (hs : s.rest = l :: rest) (hleft : ¬l.isMark .leftParen) (hright : ¬l.isMark .rightParen) :
    Ends (scanItem cx deeper found) s
      (fun found' t => t.rest.length < s.rest.length ∧ ∃ ws, s.Walks 0 ws t ∧
        Expr.listVars found'.reverse = Expr.listVars found.reverse ++ ws)
      fun _ _ => False := by
  rw [scanItem, ends_bind]
  refine (ends_fragmentItem? cx hdeeper s).mono (fun o t ht => ?_) fun _ _ h => h
  cases o with
  | some e =>
    refine ⟨ht.2, e.vars, ht.1, ?_⟩
    simp [Expr.listVars]
  | none =>
    obtain ⟨hrest, hover, hhead⟩ := ht
    have hplain : l.IsPlain :=
      ⟨hhead l (by rw [hs]; rfl), by simpa using hleft, by simpa using hright⟩
    have ht : t.rest = l :: rest := hrest.trans hs
    have hwalk : s.Walks 0 [] (t.moveTo rest) :=
      ((Cursor.Walks.refl s).congr hrest hover).skip ht hplain
    rw [ends_bind, ends_advance_one ht]
    refine ⟨?_, [], hwalk, (List.append_nil _).symm⟩
    rw [← hrest]
    exact (Cursor.Reaches.refl _).length_lt ht

/-- The scan behind an opening parenthesis does not fail and closes it: `d` more parentheses are
open in the middle of it. -/
theorem ends_parenFragment {n : Nat} {vs : List Variable} {s t : Cursor}
    (h : s.Walks (n + 1) vs t) :
    Ends (parenFragment cx deeper) t (fun items u => s.Walks n (vs ++ Expr.listVars items) u)
      fun _ _ => False := by
  rw [parenFragment, ends_bind]
  refine ends_repeatWhile
    (I := fun state u => s.Walks (n + state.1 + 1) (vs ++ Expr.listVars state.2.reverse) u)
    (by simpa [Expr.listVars] using h) (fun state u hu => ?_)
    fun state u hu hend => (ends_pure _).2 (hu.atEnd hend n)
  obtain ⟨d, found⟩ := state
  cases hrest : u.rest with
  | nil =>
    rw [Ends, parenRound_nil cx deeper _ hrest]
    exact hu.atEnd hrest n
  | cons l rest =>
    have hshort : rest.length < (l :: rest).length := Nat.lt_succ_self _
    refine ends_parenRound cx hrest (fun hleft => ?_) (fun hright hd => ?_)
      (fun hright e hd => ?_) fun hleft hright => ?_
    · exact ⟨hu.opening hrest hleft, hshort⟩
    · subst hd
      exact hu.closing hrest hright
    · subst hd
      exact ⟨hu.closing hrest hright, hshort⟩
    · refine (ends_scanItem cx hdeeper found hrest hleft hright).mono
        (fun found' v hv => ?_) fun _ _ h => h
      obtain ⟨hlt, ws, hwalk, hfound⟩ := hv
      refine ⟨?_, hrest ▸ hlt⟩
      rw [hfound, ← List.append_assoc]
      exact hu.trans hwalk

theorem closes_parenFragment : Closes (parenFragment cx deeper) Expr.listVars :=
  fun _ _ _ _ h => (ends_parenFragment cx hdeeper h).mono (fun _ _ hu => hu) fun _ _ hu => hu.elim

/-- The scan of a statement does not fail and ends with no parenthesis open, or at the end of the
batch. -/
theorem ends_fragmentTail (inUpdate : Bool) (s : Cursor) :
    Ends (fragmentTail cx deeper inUpdate) s (fun items t => s.Walks 0 (Expr.listVars items) t)
      fun _ _ => False := by
  rw [fragmentTail, ends_bind]
  refine ends_repeatWhile
    (I := fun state u => s.Walks state.depth (Expr.listVars state.found.reverse) u)
    (by simpa [Expr.listVars] using Cursor.Walks.refl s) (fun state u hu => ?_)
    fun state u hu hend => (ends_pure _).2 (hu.atEnd hend 0)
  cases hrest : u.rest with
  | nil =>
    rw [Ends, scanRound_nil cx deeper inUpdate state hrest]
    exact hu.atEnd hrest 0
  | cons l rest =>
    have hshort : rest.length < (l :: rest).length := Nat.lt_succ_self _
    refine ends_scanRound cx hrest (fun hdepth => ?_) (fun hleft seen => ?_)
      (fun hright d hdepth seen => ?_) (fun hplain seen cases => ?_) fun hleft hright seen => ?_
    · rw [hdepth] at hu
      exact hu
    · exact ⟨hu.opening hrest hleft, hshort⟩
    · rw [hdepth] at hu
      exact ⟨hu.closing hrest hright, hshort⟩
    · exact ⟨hu.skip hrest hplain, hshort⟩
    · refine (ends_scanItem cx hdeeper state.found hrest hleft hright).mono
        (fun found' v hv => ?_) fun _ _ h => h
      obtain ⟨hlt, ws, hwalk, hfound⟩ := hv
      refine ⟨?_, hrest ▸ hlt⟩
      rw [hfound]
      exact hu.trans hwalk

theorem reads_fragmentTail (inUpdate : Bool) :
    Reads (fragmentTail cx deeper inUpdate) Expr.listVars :=
  fun s => (ends_fragmentTail cx hdeeper inUpdate s).mono (fun _ _ ht => ht) fun _ _ ht => ht.elim

/-! ## Lists, calls and `CASE` -/

theorem closes_listOrQuery : Closes (listOrQuery cx deeper) Expr.listVars := by
  intro n vs s t h
  rw [listOrQuery, ends_bind, ends_ahead]
  split
  · exact closes_parenFragment cx hdeeper n vs s t h
  · refine (reads_commaSeparated (hdeeper 0)).bind h fun items t ht => ?_
    refine ends_bind_expect_right cx ht fun t ht => ?_
    rw [ends_pure, Expr.listVars_eq_flatMap]
    exact ht

/-- Arguments that cannot be read are scanned from where they begin, whatever reading them has
passed. -/
theorem closes_callArguments : Closes (callArguments cx deeper) Expr.listVars := by
  intro n vs s t h
  rw [callArguments]
  refine ends_bind_eatIf (fun l rest ht hright => ?_) ?_
  · rw [if_pos rfl, ends_pure, Expr.listVars, List.append_nil]
    exact h.closing ht hright
  · rw [if_neg (by decide), ends_bind, ends_ahead, ends_tryCatch]
    refine (closes_listOrQuery cx hdeeper n vs s t h).mono (fun _ _ hu => hu) fun _ u hu => ?_
    rw [ends_bind, ends_moveTo]
    refine closes_parenFragment cx hdeeper n vs s _ (h.congr rfl ?_)
    exact hu.overrun.trans h.reaches.overrun.symm

theorem reads_withinGroup : Reads (withinGroup cx deeper) Expr.listVars := by
  intro s
  rw [withinGroup]
  refine (passes_eatKeyword .WITHIN).bind (.refl s) fun within t ht => ?_
  split
  · refine (passes_expectKeyword cx .GROUP).bind ht fun _ t ht => ?_
    refine ends_bind_expect_left cx ht fun t ht => ?_
    exact closes_parenFragment cx hdeeper 0 [] s t ht
  · exact ht

theorem reads_overWindow : Reads (overWindow cx deeper) Expr.listVars := by
  intro s
  rw [overWindow]
  refine (passes_eatKeyword .OVER).bind (.refl s) fun window t ht => ?_
  split
  · refine ends_bind_expect_left cx ht fun t ht => ?_
    exact closes_parenFragment cx hdeeper 0 [] s t ht
  · exact ht

theorem reads_windowClauses : Reads (windowClauses cx deeper) Expr.listVars := by
  intro s
  rw [windowClauses]
  refine (reads_withinGroup cx hdeeper).bind (.refl s) fun within t ht => ?_
  refine (reads_overWindow cx hdeeper).bind ht fun window t ht => ?_
  rw [ends_pure, Expr.listVars_append]
  exact ht

theorem reads_takeNamed : Reads (takeNamed cx deeper) Expr.vars := by
  intro s
  rw [takeNamed]
  refine (passes_takeName cx .name).bind (.refl s) fun name t ht => ?_
  refine passes_skipAllColumns.bind ht fun _ t ht => ?_
  refine ends_bind_eatIf (fun l rest hl hleft => ?_) ht
  rw [if_pos rfl]
  refine (closes_callArguments cx hdeeper).bind (ht.opening hl hleft) fun args t ht => ?_
  refine (reads_windowClauses cx hdeeper).bind ht fun more t ht => ?_
  rw [ends_pure, Expr.vars, Expr.listVars_append]
  exact ht

theorem reads_caseInput : Reads (caseInput deeper) Expr.listVars := by
  intro s
  rw [caseInput, ends_bind, ends_atNext]
  split
  · exact .refl s
  · refine (hdeeper 0).bind (.refl s) fun e t ht => ?_
    simpa [ends_pure, Expr.listVars] using ht

theorem reads_caseElse : Reads (caseElse deeper) Expr.listVars := by
  intro s
  rw [caseElse]
  refine (passes_eatKeyword .ELSE).bind (.refl s) fun otherwise t ht => ?_
  split
  · refine (hdeeper 0).bind ht fun e t ht => ?_
    simpa [ends_pure, Expr.listVars] using ht
  · exact ht

theorem ends_whenRound (items : List Expr) (s : Cursor) :
    Ends (whenRound cx deeper items) s (RoundEnd (Cursor.Walks 0) Expr.listVars items s)
      fun _ t => s.Reaches t := by
  rw [whenRound]
  refine ends_bind_eatIf (fun l rest hs hwhen => ?_) rfl
  have hpast := (Cursor.Walks.refl s).skip hs (Lexeme.isPlain_of_isKeyword hwhen)
  have hbranch : Ends (do
      let condition ← deeper 0
      expectKeyword cx .THEN
      let value ← deeper 0
      return some (items ++ [condition, value])) (s.moveTo rest)
      (fun o t => ∃ condition value, o = some (items ++ [condition, value]) ∧
        (s.moveTo rest).Walks 0 (condition.vars ++ value.vars) t)
      fun _ t => (s.moveTo rest).Reaches t := by
    refine (hdeeper 0).bind (.refl _) fun condition t ht => ?_
    refine (passes_expectKeyword cx .THEN).bind ht fun _ t ht => ?_
    refine (hdeeper 0).bind ht fun value t ht => ?_
    exact ⟨condition, value, rfl, ht⟩
  rw [if_pos rfl]
  refine hbranch.mono (fun o t ho => ?_) fun _ t ht => hpast.reaches.trans ht
  obtain ⟨condition, value, rfl, ht⟩ := ho
  refine ⟨ht.reaches.length_lt hs, _, hpast.trans ht, ?_⟩
  simp [Expr.listVars]

theorem reads_takeCase : Reads (takeCase cx deeper) Expr.vars := by
  intro s
  rw [takeCase]
  refine (passes_expectKeyword cx .CASE).bind (.refl s) fun _ t ht => ?_
  refine (reads_caseInput hdeeper).bind ht fun input t ht => ?_
  rw [ends_bind]
  refine (ends_repeatWhile_round Cursor.tracks_walks Expr.listVars
    (ends_whenRound cx hdeeper) ht).mono (fun items t ht => ?_) fun _ _ h => h
  refine (reads_caseElse hdeeper).bind ht fun otherwise t ht => ?_
  refine (passes_expectKeyword cx .END).bind ht fun _ t ht => ?_
  rw [ends_pure, Expr.vars, Expr.listVars_append]
  exact ht

/-! ## Heads -/

theorem ends_takeUnary (op : UnaryOp) {s : Cursor} {l : Lexeme} {rest : List Lexeme}
    (hs : s.rest = l :: rest) (hl : l.IsPlain) :
    Ends (takeUnary deeper op) s (fun e t => s.Walks 0 e.vars t) fun _ t => s.Reaches t := by
  rw [takeUnary, ends_bind, ends_advance_one hs]
  exact (hdeeper op.power).bind ((Cursor.Walks.refl s).skip hs hl) fun operand t ht => ht

theorem ends_takeParen {s : Cursor} {l : Lexeme} {rest : List Lexeme} (hs : s.rest = l :: rest)
    (hl : l.isMark .leftParen) :
    Ends (takeParen cx deeper) s (fun e t => s.Walks 0 e.vars t) fun _ t => s.Reaches t := by
  have hopen := (Cursor.Walks.refl s).opening hs hl
  rw [takeParen, ends_bind, ends_advance_one hs, ends_bind, ends_ahead]
  split
  · exact (closes_parenFragment cx hdeeper).bind hopen fun items t ht => ht
  · refine (hdeeper 0).bind hopen fun inner t ht => ?_
    refine (passes_eat (m := .comma) (by decide) (by decide)).bind ht fun comma t ht => ?_
    split
    · exact (closes_listOrQuery cx hdeeper).bind ht fun items t ht => ht
    · exact ends_bind_expect_right cx ht fun t ht => ht

theorem ends_takeWord {s : Cursor} {l : Lexeme} {rest : List Lexeme} (hs : s.rest = l :: rest) :
    Ends (takeWord cx deeper l rest) s (fun e t => s.Walks 0 e.vars t)
      fun _ t => s.Reaches t := by
  rw [takeWord]
  cases hv : l.variableHere? with
  | some v =>
    simp only
    rw [ends_bind, ends_advance_one hs]
    exact (Cursor.Walks.refl s).keep hs hv
  | none =>
    simp only
    split
    · next hdispatch =>
      rw [ends_bind, ends_advance_one hs]
      exact (Cursor.Walks.refl s).skip hs (Lexeme.isPlain_of_dispatch? hdispatch)
    · next hdispatch => exact ends_takeUnary hdeeper _ hs (Lexeme.isPlain_of_dispatch? hdispatch)
    · next hdispatch => exact ends_takeUnary hdeeper _ hs (Lexeme.isPlain_of_dispatch? hdispatch)
    · exact reads_takeCase cx hdeeper s
    · rw [ends_bind]
      exact ends_requireIif cx rest (reads_takeNamed cx hdeeper s) fun _ => .refl s
    · split
      · next kind hkind =>
        have hcast : castKind? l = some kind := by
          by_cases hopens : opensParen rest
          · simpa [hopens] using hkind
          · simp [hopens] at hkind
        obtain ⟨k, hk, -⟩ := Option.bind_eq_some_iff.1 hcast
        refine (ends_takeCast cx hdeeper kind hs (Lexeme.isPlain_of_keyword? hk)).mono
          (fun _ _ h => h.1) fun _ _ h => h
      · split
        · exact ends_unexpected cx fun _ => .refl s
        · exact reads_takeNamed cx hdeeper s

theorem reads_takeHead : Reads (takeHead cx deeper) Expr.vars := by
  intro s
  rw [takeHead, ends_bind, ends_ahead]
  cases hs : s.rest with
  | nil => exact ends_expected cx _ fun _ => .refl s
  | cons l rest =>
    have hplain : l.token.plainWord? = none → (∀ m, l.token ≠ .mark m) → l.IsPlain :=
      fun h => Lexeme.isPlain_of_ne_mark (Lexeme.variableHere?_eq_none_of_plainWord? h)
    have hmark : ∀ m, l.token = .mark m → l.isMark m := fun m hm => by simp [Lexeme.isMark, hm]
    have hliteral : ∀ {e : Expr}, l.IsPlain → e.vars = [] →
        Ends (do advance 1; return e) s (fun e t => s.Walks 0 e.vars t)
          fun _ t => s.Reaches t := by
      intro e hl he
      rw [ends_bind, ends_advance_one hs, ends_pure, he]
      exact (Cursor.Walks.refl s).skip hs hl
    simp only
    split
    · next ht => exact hliteral (hplain (by rw [ht]; rfl) (by simp [ht])) rfl
    · next ht => exact hliteral (hplain (by rw [ht]; rfl) (by simp [ht])) rfl
    · next ht => exact hliteral (hplain (by rw [ht]; rfl) (by simp [ht])) rfl
    · next ht => exact hliteral (hplain (by rw [ht]; rfl) (by simp [ht])) rfl
    · next ht =>
      exact ends_takeUnary hdeeper _ hs
        (Lexeme.isPlain_of_isMark (hmark _ ht) (by decide) (by decide))
    · next ht =>
      exact ends_takeUnary hdeeper _ hs
        (Lexeme.isPlain_of_isMark (hmark _ ht) (by decide) (by decide))
    · next ht =>
      exact ends_takeUnary hdeeper _ hs
        (Lexeme.isPlain_of_isMark (hmark _ ht) (by decide) (by decide))
    · next ht =>
      exact hliteral (Lexeme.isPlain_of_isMark (hmark _ ht) (by decide) (by decide)) rfl
    · next ht => exact ends_takeParen cx hdeeper hs (hmark _ ht)
    · exact ends_takeWord cx hdeeper hs
    · exact ends_unexpected cx fun _ => .refl s

/-! ## Infix operators -/

theorem reads_takeRight (op : BinaryOp) : Reads (takeRight cx deeper op) Expr.vars := by
  intro s
  unfold takeRight
  split
  · refine (passes_eatKeyword .NOT).bind (.refl s) fun _ t ht => ?_
    exact (passes_expectKeyword cx .NULL).bind ht fun _ t ht => ht
  · refine ends_bind_expect_left cx (.refl s) fun t ht => ?_
    exact (closes_listOrQuery cx hdeeper).bind ht fun items t ht => ht
  · refine (hdeeper _).bind (.refl s) fun low t ht => ?_
    refine (passes_expectKeyword cx .AND).bind ht fun _ t ht => ?_
    refine (hdeeper _).bind ht fun high t ht => ?_
    simpa [ends_pure, Expr.vars, Expr.listVars] using ht
  · refine (hdeeper _).bind (.refl s) fun pattern t ht => ?_
    refine (passes_eatKeyword .ESCAPE).bind ht fun _ t ht => ?_
    split
    · refine (hdeeper _).bind ht fun escape t ht => ?_
      simpa [ends_pure, Expr.vars, Expr.listVars] using ht
    · exact ht
  · exact hdeeper _ s

theorem ends_infixRound (minPower : Nat) (left : Expr) (s : Cursor) :
    Ends (infixRound cx deeper minPower left) s (RoundEnd (Cursor.Walks 0) Expr.vars left s)
      fun _ t => s.Reaches t := by
  rw [infixRound]
  refine ends_bind_eatIf (fun k rest hs hcollate => ?_) ?_
  · rw [if_pos rfl, ends_bind]
    refine ends_demand cx _ (fun l rest' hrest _ => ?_) fun _ => Cursor.reaches_moveTo_cons hs
    obtain rfl : rest = l :: rest' := hrest
    refine ⟨?_, [], (Cursor.Walks.refl s).collation hs hcollate, (List.append_nil _).symm⟩
    exact (Cursor.reaches_moveTo (List.suffix_cons l rest')).length_lt hs
  · rw [if_neg (by decide), ends_bind, ends_ahead]
    split
    · rfl
    · next op width hop =>
      split
      · rfl
      · obtain ⟨l, ks, rest, hs, hwidth, hplain⟩ := BinaryOp.atStart?_eq_some hop
        have hpast := (Cursor.Walks.refl s).skips hs hplain
        rw [ends_bind, ends_advance hs hwidth, ends_bind]
        refine (reads_takeRight cx hdeeper op _).mono (fun right t ht => ?_)
          fun _ t ht => hpast.reaches.trans ht
        refine ⟨?_, right.vars, hpast.trans ht, rfl⟩
        have hle : t.rest.length ≤ rest.length := ht.reaches.length_le
        rw [hs, List.length_append, List.length_cons]
        omega

theorem reads_operatorChain (minPower : Nat) :
    Reads (operatorChain cx deeper minPower) Expr.vars := by
  intro s
  rw [operatorChain]
  refine (reads_takeHead cx hdeeper).bind (.refl s) fun head t ht => ?_
  exact ends_repeatWhile_round Cursor.tracks_walks Expr.vars
    (ends_infixRound cx hdeeper minPower) ht

end

/-- An expression walks from its first lexeme to its last one, at every level. -/
theorem reads_expr (cx : Context) : ∀ levels minPower, Reads (expr cx levels minPower) Expr.vars
  | 0, _ => fun s => ends_tooDeep cx fun _ => .refl s
  | levels + 1, minPower => reads_operatorChain cx (reads_expr cx levels) minPower

end Parser

end SqlLint
