import SqlLint.Proofs.Parse.Levels
import SqlLint.Proofs.Parse.Mute

/-!
# What a scan finds again

The arguments of a call are tried as expressions first. If a feature is missed in them, the failure
is forgotten and the arguments are scanned. The scan must find the missing feature again, or a
batch that is not supported would be read without an error. This module shows that it does.

A scan does not follow the grammar: it goes from one lexeme to the next and takes whole casts on its
way, with all the levels that the call has left. It could miss the place in two ways. It could jump
over it, inside a cast; but a cast that contains the place fails there too, since more levels make
no difference to a missing feature. And it could end before it, at a closing parenthesis; but
between the start of the arguments and the place every parenthesis that is closed has been opened.

`Trips k ls` says that a scan that has `k` parentheses open before `ls` comes to record an error.
Two lemmas carry the argument. `trips_of_takeCast` is the first point, and `trips_append` the second
one: what trips a scan behind a list in which all parentheses are closed trips a scan from its
start. The rest follows the grammar.

## Following the grammar

Between the start of the arguments and the place where the feature is missed, two kinds of places
occur. `Reflects b u` says that whatever trips a scan from `u` trips one from `b`. An expression
that is read from such a place may end before an opening parenthesis, and the scan could take its
last word for a cast; `Follows b u` therefore only says that an expression has been read. The
grammar goes on behind an expression with a lexeme of its own, and behind that the first kind is
reached again.

## Main results

* `trips_append`, `trips_of_takeCast`: the two points above
* `exposes_expr`: a feature that an expression misses trips a scan from its start
* `parenFragment_of_unsupported`: the arguments of a call
-/

namespace SqlLint

namespace Parser

variable (cx : Context) (levels : Nat)

/-- A scan with `k` parentheses open before `ls` comes to record an error. -/
def Trips (k : Nat) (ls : List Lexeme) : Prop :=
  ∀ (budget : List Lexeme) (found : List Expr) (s : Cursor), s.rest = ls →
    ls.length ≤ budget.length →
    (cursorOf (rounds (parenRound cx (expr cx levels)) budget (k, found) s)).errors ≠ []

variable {cx levels} {k : Nat} {l : Lexeme} {ls : List Lexeme}

theorem keepsErrors_rounds (budget : List Lexeme) (state : Nat × List Expr) :
    KeepsErrors (rounds (parenRound cx (expr cx levels)) budget state) := by
  have A := Coupling.attempts_renumbering id cx
  have hround := (Coupling.renumbering id cx).coupled_parenRound
    (A.coupled_scanItem (A.coupled_expr levels))
  obtain ⟨state', hstate⟩ := (Coupling.renumbering id cx).parenStates.total state
  exact ((Coupling.renumbering id cx).coupled_rounds hround budget budget rfl state state'
    hstate).keeps

/-! ## One round -/

/-- A round that records an error, or after which the scan comes to record one. -/
theorem trips_cons
    (h : ∀ found s, s.rest = l :: ls → ∃ k' found' t,
      parenRound cx (expr cx levels) (k, found) s = .ok (some (k', found')) t ∧
        (t.errors ≠ [] ∨ (Trips cx levels k' t.rest ∧ t.rest.length ≤ ls.length))) :
    Trips cx levels k (l :: ls) := by
  intro budget found s hs hlen
  obtain ⟨k', found', t, hround, ht⟩ := h found s hs
  cases budget with
  | nil => simp at hlen
  | cons b budget =>
    have hnext : rounds (parenRound cx (expr cx levels)) (b :: budget) (k, found) s =
        rounds (parenRound cx (expr cx levels)) budget (k', found') t := by
      rw [rounds]
      change EStateM.bind _ _ s = _
      unfold EStateM.bind
      rw [hround]
    rw [hnext]
    rcases ht with herrors | ⟨htrips, hle⟩
    · exact (keepsErrors_rounds budget (k', found')).ne_nil herrors
    · rw [List.length_cons, List.length_cons] at hlen
      exact htrips budget found' t rfl (by omega)

theorem parenRound_cons (found : List Expr) {s : Cursor} (hs : s.rest = l :: ls) :
    parenRound cx (expr cx levels) (k, found) s =
      if l.isMark .leftParen then .ok (some (k + 1, found)) (s.moveTo ls)
      else if l.isMark .rightParen then
        if k = 0 then .ok none (s.moveTo ls) else .ok (some (k - 1, found)) (s.moveTo ls)
      else
        match scanItem cx (expr cx levels) found s with
        | .ok found' t => .ok (some (k, found')) t
        | .error e t => .error e t := by
  have hpast : s.advance 1 = s.moveTo ls :=
    Cursor.advance_of_rest_eq (show s.rest = [l] ++ ls from hs)
  unfold parenRound
  simp only [bind, EStateM.bind, ahead, hs]
  split
  · rw [← hpast]
    rfl
  · split
    · rw [← hpast]
      split <;> rfl
    · change EStateM.bind _ _ s = _
      unfold EStateM.bind
      cases scanItem cx (expr cx levels) found s <;> rfl

theorem trips_left (hl : l.isMark .leftParen) (h : Trips cx levels (k + 1) ls) :
    Trips cx levels k (l :: ls) := by
  refine trips_cons fun found s hs => ⟨k + 1, found, s.moveTo ls, ?_, .inr ⟨h, Nat.le_refl _⟩⟩
  rw [parenRound_cons found hs, if_pos hl]

theorem trips_right (hl : l.isMark .rightParen) (h : Trips cx levels k ls) :
    Trips cx levels (k + 1) (l :: ls) := by
  refine trips_cons fun found s hs => ⟨k, found, s.moveTo ls, ?_, .inr ⟨h, Nat.le_refl _⟩⟩
  simp [parenRound_cons found hs, not_isMark_left hl, hl]

theorem parenRound_of_scanItem {found found' : List Expr} {s t : Cursor} (hs : s.rest = l :: ls)
    (hleft : l.isMark .leftParen = false) (hright : l.isMark .rightParen = false)
    (hscan : scanItem cx (expr cx levels) found s = .ok found' t) :
    parenRound cx (expr cx levels) (k, found) s = .ok (some (k, found')) t := by
  simp [parenRound_cons found hs, hleft, hright, hscan]

/-- A lexeme with which no cast begins is passed over. -/
theorem trips_skip (hleft : l.isMark .leftParen = false) (hright : l.isMark .rightParen = false)
    (hcast : opensParen ls → castKind? l = none) (h : Trips cx levels k ls) :
    Trips cx levels k (l :: ls) := by
  refine trips_cons fun found s hs => ?_
  have hscan : ∃ found' t, scanItem cx (expr cx levels) found s = .ok found' t ∧ t.rest = ls := by
    rw [scanItem_cons _ _ _ hs]
    split
    · exact ⟨_, _, rfl, rfl⟩
    · split
      · next hopens =>
        split
        · exact ⟨_, _, rfl, rfl⟩
        · rw [hcast hopens]
          exact ⟨_, _, rfl, rfl⟩
      · exact ⟨_, _, rfl, rfl⟩
  obtain ⟨found', t, hscan, ht⟩ := hscan
  refine ⟨k, found', t, parenRound_of_scanItem hs hleft hright hscan, .inr ?_⟩
  rw [ht]
  exact ⟨h, Nat.le_refl _⟩

theorem scanItem_of_castKind? {kind : CastKind} (hkind : castKind? l = some kind)
    (hls : opensParen ls) (found : List Expr) {s : Cursor} (hs : s.rest = l :: ls) :
    scanItem cx (expr cx levels) found s =
      tried found ls (takeCast cx (expr cx levels) kind s) := by
  obtain ⟨k, hk, hkind'⟩ := Option.bind_eq_some_iff.1 hkind
  have hiif : l.isKeyword .IIF = false := by
    rw [Lexeme.isKeyword, hk]
    rw [decide_eq_false_iff_not]
    rintro ⟨⟩
    cases hkind'
  simp [scanItem_cons _ _ _ hs, (Lexeme.isPlain_of_keyword? hk).noVariable, hls, hiif, hkind]

/-- A cast is taken as a whole, or its first word is passed over. -/
theorem trips_cast {kind : CastKind} (hkind : castKind? l = some kind) {p : Lexeme}
    (hp : p.isMark .leftParen) (hregular : Regular (l :: p :: ls))
    (h : Trips cx levels k (p :: ls)) (hclosed : Trips cx levels k (closeParen 0 ls)) :
    Trips cx levels k (l :: p :: ls) := by
  obtain ⟨c, hc, -⟩ := Option.bind_eq_some_iff.1 hkind
  have hplain := Lexeme.isPlain_of_keyword? hc
  refine trips_cons fun found s hs => ?_
  have hscan : scanItem cx (expr cx levels) found s = _ :=
    scanItem_of_castKind? hkind (by simpa [opensParen] using hp) found hs
  have hexact := ends_takeCast_exact cx (reads_expr cx levels) kind hs (hs ▸ hregular.collation)
  unfold Ends at hexact
  revert hscan hexact
  cases takeCast cx (expr cx levels) kind s with
  | ok e t =>
    intro hscan hexact
    refine ⟨k, e :: found, t, parenRound_of_scanItem hs hplain.noLeft hplain.noRight hscan, .inr ?_⟩
    rw [show t.rest = closeParen 0 ls from hexact]
    exact ⟨hclosed, Nat.le_succ_of_le (closeParen_suffix 0 ls).length_le⟩
  | error e t =>
    intro hscan _
    exact ⟨k, found, _, parenRound_of_scanItem hs hplain.noLeft hplain.noRight hscan,
      .inr ⟨h, Nat.le_refl _⟩⟩

/-- A word at which a feature is missed. -/
theorem trips_iif (hl : l.isKeyword .IIF) (hls : opensParen ls)
    (hsupports : cx.version.supports .iif = false) : Trips cx levels k (l :: ls) := by
  have hplain := Lexeme.isPlain_of_isKeyword hl
  refine trips_cons fun found s hs => ⟨k, found, (s.noteIif cx l).moveTo ls, ?_, .inl ?_⟩
  · refine parenRound_of_scanItem hs hplain.noLeft hplain.noRight ?_
    simp [scanItem_cons _ _ _ hs, hplain.noVariable, hls, hl]
  · simp [Cursor.noteIif, hsupports, Cursor.moveTo, Cursor.record]

/-- **A cast in which a feature is missed trips the scan.** The cast was read with `low` levels
left, and the scan tries it with at least as many. -/
theorem trips_of_takeCast {low : Nat} (hlow : low ≤ levels) {kind : CastKind}
    (hkind : castKind? l = some kind) (hls : opensParen ls) (hregular : Regular (l :: ls))
    {s t : Cursor} {e : SyntaxError} (hs : s.rest = l :: ls)
    (herror : takeCast cx (expr cx low) kind s = .error e t) (he : e.IsUnsupported) :
    Trips cx levels k (l :: ls) := by
  obtain ⟨c, hc, -⟩ := Option.bind_eq_some_iff.1 hkind
  have hplain := Lexeme.isPlain_of_keyword? hc
  refine trips_cons fun found u hu => ?_
  obtain ⟨found', v, hv, herrors⟩ : ∃ found' v,
      tried found ls (takeCast cx (expr cx levels) kind u) = .ok found' v ∧ v.errors ≠ [] := by
    have hrecorded : (cursorOf (takeCast cx (expr cx levels) kind u)).errors ≠ [] →
        ∃ found' v, tried found ls (takeCast cx (expr cx levels) kind u) = .ok found' v ∧
          v.errors ≠ [] := by
      cases takeCast cx (expr cx levels) kind u with
      | ok e v => exact fun h => ⟨_, v, rfl, h⟩
      | error e v =>
        refine fun h => ⟨found, _, rfl, ?_⟩
        obtain ⟨e', he'⟩ := List.exists_mem_of_ne_nil _ h
        exact List.ne_nil_of_mem (Cursor.errors_subset_note e v he')
    by_cases hclean : u.errors = []
    · have hstep : (Coupling.levels cx True).Step u s :=
        ⟨hs.trans hu.symm, fun _ => hclean, hu ▸ hregular.collation⟩
      rcases Coupling.takeCast_unsupported cx hlow hkind hls hstep hu herror he with h | ⟨v, h⟩
      · exact hrecorded h
      · obtain ⟨line, feature, version⟩ := he
        exact ⟨found, _, by rw [h]; rfl, by simp [Cursor.note, Cursor.record, Cursor.moveTo]⟩
    · have hexpr := (Coupling.attempts_renumbering id cx).coupled_expr levels
      exact hrecorded (((Coupling.renumbering id cx).keepsErrors_takeCast hexpr kind).ne_nil hclean)
  rw [← scanItem_of_castKind? hkind hls found hu] at hv
  exact ⟨k, found', v, parenRound_of_scanItem hu hplain.noLeft hplain.noRight hv, .inl herrors⟩

/-! ## Many rounds -/

/-- **What trips a scan behind a list in which all parentheses are closed trips one from its
start.** In the middle of the list `d` parentheses are open that the list will close. -/
theorem trips_append {rest : List Lexeme} (hrest : opensParen rest = false) :
    ∀ (n : Nat) (ms : List Lexeme) {d : Nat}, ms.length ≤ n → Regular (ms ++ rest) →
      depthAfter d ms = some 0 → Trips cx levels k rest → Trips cx levels (k + d) (ms ++ rest)
  | _, [], d, _, _, hdepth, h => by
    obtain rfl : d = 0 := by simpa [depthAfter] using hdepth
    exact h
  | 0, _ :: _, _, hlen, _, _, _ => absurd hlen (by simp)
  | n + 1, l :: ms, d, hlen, hregular, hdepth, h => by
    have hlen : ms.length ≤ n := Nat.le_of_succ_le_succ hlen
    rw [List.cons_append] at hregular ⊢
    have htail := hregular.tail
    by_cases hleft : l.isMark .leftParen
    · rw [depthAfter_left hleft] at hdepth
      exact trips_left hleft (trips_append hrest n ms hlen htail hdepth h)
    · by_cases hright : l.isMark .rightParen
      · cases d with
        | zero => simp [depthAfter, not_isMark_left hright, hright] at hdepth
        | succ d =>
          rw [depthAfter_right_succ hright] at hdepth
          exact trips_right hright (trips_append hrest n ms hlen htail hdepth h)
      · rw [Bool.not_eq_true] at hleft hright
        rw [depthAfter_other hleft hright] at hdepth
        have hnext := trips_append hrest n ms hlen htail hdepth h
        cases hkind : castKind? l with
        | none => exact trips_skip hleft hright (fun _ => hkind) hnext
        | some kind =>
          cases ms with
          | nil => exact trips_skip hleft hright (by simp [hrest]) hnext
          | cons p ms =>
            by_cases hp : p.isMark .leftParen
            · rw [depthAfter_left hp] at hdepth
              -- the list that follows the cast closes what was open before it
              obtain ⟨after, hafter, hdepth', hlt⟩ :=
                exists_closeParen_append rest ms (j := 0) hdepth
              have hsuffix : after ++ rest <:+ ms ++ rest := hafter ▸ closeParen_suffix 0 _
              rw [List.length_cons] at hlen
              have hclosed : Trips cx levels (k + d) (closeParen 0 (ms ++ rest)) := by
                rw [hafter]
                exact trips_append hrest n after (by omega) (htail.tail.of_suffix hsuffix) hdepth' h
              exact trips_cast hkind hp hregular hnext hclosed
            · exact trips_skip hleft hright (fun hopens => absurd hopens hp) hnext

/-! ## Following the grammar -/

variable (cx levels)

/-- A failure for want of a feature trips a scan from `b`. -/
def Exposed (b : Cursor) (e : SyntaxError) (_ : Cursor) : Prop :=
  e.IsUnsupported → ∀ k, Trips cx levels k b.rest

/-- A feature that the reader misses trips a scan from where it is started. -/
def Exposes {α : Type} (p : Parser α) : Prop :=
  ∀ s, Regular s.rest → Ends p s (fun _ _ => True) (Exposed cx levels s)

/-- Whatever trips a scan from `u` trips one from `b`. -/
structure Reflects (b u : Cursor) : Prop where
  regular : Regular u.rest
  trips : (∀ k, Trips cx levels k u.rest) → ∀ k, Trips cx levels k b.rest

/-- Between a place that reflects and `u` an expression has been read. -/
def Follows (b u : Cursor) : Prop := ∃ t vs, Reflects cx levels b t ∧ t.Walks 0 vs u

variable {cx levels} {α β : Type} {b u v : Cursor} {p : Parser α} {f : α → Parser β}
  {Q : β → Cursor → Prop}

theorem Reflects.refl (h : Regular b.rest) : Reflects cx levels b b := ⟨h, id⟩

theorem Reflects.follows (h : Reflects cx levels b u) : Follows cx levels b u :=
  ⟨u, [], h, .refl u⟩

theorem Follows.walk {vs : List Variable} (h : Follows cx levels b u) (hv : u.Walks 0 vs v) :
    Follows cx levels b v := by
  obtain ⟨t, ws, ht, hwalk⟩ := h
  exact ⟨t, ws ++ vs, ht, hwalk.trans hv⟩

/-- Behind an opening parenthesis. -/
theorem Reflects.opening (h : Reflects cx levels b u) (hu : u.rest = l :: ls)
    (hl : l.isMark .leftParen) : Reflects cx levels b (u.moveTo ls) where
  regular := (hu ▸ h.regular : Regular (l :: ls)).tail
  trips hls := h.trips fun k => by
    rw [hu]
    exact trips_left hl (hls (k + 1))

/-- Behind a lexeme of the grammar's own. -/
theorem Follows.pass (h : Follows cx levels b u) (hu : u.rest = l :: ls) (hl : l.IsPlain)
    (hcast : castKind? l = none) : Reflects cx levels b (u.moveTo ls) := by
  obtain ⟨t, vs, ht, hwalk⟩ := h
  obtain ⟨ms, hms, hdepth⟩ := hwalk.depthAfter_eq ht.regular.collation (by simp [hu])
  have hregular := ht.regular
  rw [hms] at hregular
  refine ⟨(hu ▸ hregular.of_suffix (List.suffix_append ms _) : Regular (l :: ls)).tail, ?_⟩
  intro hls
  refine ht.trips fun k => ?_
  have hopens : opensParen u.rest = false := by simp [opensParen, hu, hl.noLeft]
  have hskip : Trips cx levels k u.rest := by
    rw [hu]
    exact trips_skip hl.noLeft hl.noRight (fun _ => hcast) (hls k)
  rw [hms]
  exact trips_append hopens ms.length ms (Nat.le_refl _) hregular hdepth hskip

theorem castKind?_of_isKeyword {k : Keyword} (hl : l.isKeyword k)
    (hk : CastKind.ofKeyword? k = none) : castKind? l = none := by
  have hl : l.keyword? = some k := by simpa [Lexeme.isKeyword] using hl
  rw [castKind?, hl, Option.bind_some, hk]

theorem castKind?_of_isMark {m : Mark} (hl : l.isMark m) : castKind? l = none := by
  have hl : l.token = .mark m := by simpa [Lexeme.isMark] using hl
  rw [castKind?, Lexeme.keyword?, hl]
  rfl

theorem Follows.passKeyword (h : Follows cx levels b u) (hu : u.rest = l :: ls) {k : Keyword}
    (hl : l.isKeyword k) (hk : CastKind.ofKeyword? k = none) :
    Reflects cx levels b (u.moveTo ls) :=
  h.pass hu (Lexeme.isPlain_of_isKeyword hl) (castKind?_of_isKeyword hl hk)

theorem Follows.passComma (h : Follows cx levels b u) (hu : u.rest = l :: ls)
    (hl : l.isMark .comma) : Reflects cx levels b (u.moveTo ls) :=
  h.pass hu (Lexeme.isPlain_of_isMark hl (by decide) (by decide)) (castKind?_of_isMark hl)

/-! ### Steps in a row -/

theorem Exposes.run (hp : Exposes cx levels p) (h : Reflects cx levels b u) :
    Ends p u (fun _ _ => True) (Exposed cx levels b) :=
  (hp u h.regular).mono (fun _ _ h => h) fun _ _ hexposed he => h.trips (hexposed he)

/-- Something is read, and something else behind it. -/
theorem Follows.bind {out : α → List Variable} (h : Follows cx levels b u) (hreads : Reads p out)
    (hp : Ends p u (fun _ _ => True) (Exposed cx levels b))
    (hf : ∀ a v, Follows cx levels b v → Ends (f a) v Q (Exposed cx levels b)) :
    Ends (p >>= f) u Q (Exposed cx levels b) := by
  rw [ends_bind]
  refine ((hreads u).and hp).mono (fun a v hv => ?_) fun _ _ he => he.2
  exact hf a v (h.walk hv.1)

theorem Exposes.bind {out : α → List Variable} (hp : Exposes cx levels p) (hreads : Reads p out)
    (h : Reflects cx levels b u)
    (hf : ∀ a v, Follows cx levels b v → Ends (f a) v Q (Exposed cx levels b)) :
    Ends (p >>= f) u Q (Exposed cx levels b) :=
  h.follows.bind hreads (hp.run h) hf

/-- A loop whose rounds walk. -/
theorem Follows.repeatWhile {step : α → Parser (Option α)} {out : α → List Variable}
    (hround : ∀ a t, Ends (step a) t (RoundEnd (Cursor.Walks 0) out a t) fun _ u => t.Reaches u)
    (hstep : ∀ a u, Follows cx levels b u →
      Ends (step a) u (fun _ _ => True) (Exposed cx levels b)) {a : α}
    (h : Follows cx levels b u) :
    Ends (Parser.repeatWhile step a) u (fun _ v => Follows cx levels b v)
      (Exposed cx levels b) := by
  refine ends_repeatWhile (I := fun _ v => Follows cx levels b v) h (fun a v hv => ?_)
    fun _ _ hv _ => hv
  refine ((hround a v).and (hstep a v hv)).mono (fun o w hw => ?_) fun _ _ he => he.2
  cases o with
  | none =>
    obtain rfl : w = v := hw.1
    exact hv
  | some c =>
    obtain ⟨hlt, vs, hwalk, -⟩ := hw.1
    exact ⟨hv.walk hwalk, hlt⟩

/-- A reader that records nothing misses no feature. -/
theorem Mute.exposed (hp : Mute p) : Ends p u (fun _ _ => True) (Exposed cx levels b) :=
  (hp u).mono (fun _ _ _ => trivial) fun _ _ he hmissed => absurd hmissed he.2.not_isUnsupported

/-- A lexeme that has to pass a test, and something else behind it. -/
theorem ends_bind_demand {test : Lexeme → Bool} (what : Expectation) {f : Unit → Parser β}
    (hf : ∀ l ls, u.rest = l :: ls → test l → Ends (f ()) (u.moveTo ls) Q (Exposed cx levels b)) :
    Ends ((do unless ← eatIf test do expected cx what) >>= f) u Q (Exposed cx levels b) := by
  rw [ends_bind]
  exact ends_demand_mismatch cx what hf fun _ he hmissed => absurd hmissed he.not_isUnsupported

/-- A key word that has to come next, and something else behind it. -/
theorem Follows.expectKeyword (h : Follows cx levels b u) {k : Keyword}
    (hk : CastKind.ofKeyword? k = none) {f : Unit → Parser β}
    (hf : ∀ v, Reflects cx levels b v → Ends (f ()) v Q (Exposed cx levels b)) :
    Ends (Parser.expectKeyword cx k >>= f) u Q (Exposed cx levels b) :=
  ends_bind_demand (.keyword k) fun _ _ hu hl => hf _ (h.passKeyword hu hl hk)

/-! ### Names and calls

A call never fails, since its arguments are scanned if they cannot be read. -/

/-- The reader ends at regular lexemes, or fails for something else than want of a feature. -/
def Supported (p : Parser α) : Prop :=
  ∀ s, Regular s.rest → Ends p s (fun _ t => Regular t.rest) fun e _ => ¬e.IsUnsupported

theorem Supported.exposes (hp : Supported p) : Exposes cx levels p :=
  fun s hs => (hp s hs).mono (fun _ _ _ => trivial) fun _ _ he h => absurd h he

theorem Supported.bind (hp : Supported p) (hf : ∀ a, Supported (f a)) : Supported (p >>= f) :=
  fun s hs => ends_bind.2 ((hp s hs).mono (fun a t ht => hf a t ht) fun _ _ he => he)

theorem Mute.supported (hp : Mute p) : Supported p :=
  fun s hs => (hp s).mono (fun _ _ ht => hs.of_suffix ht.1) fun _ _ he => he.2.not_isUnsupported

section

variable (cx : Context) {deeper : Nat → Parser Expr} (hdeeper : ∀ m, Reads (deeper m) Expr.vars)

include hdeeper

theorem supported_parenFragment : Supported (parenFragment cx deeper) := by
  intro s hs
  refine (ends_parenFragment_exact cx hdeeper hs.collation).mono (fun _ t ht => ?_)
    fun _ _ h => h.elim
  rw [ht]
  exact hs.of_suffix (closeParen_suffix 0 s.rest)

theorem supported_callArguments : Supported (callArguments cx deeper) := by
  intro s hs
  refine (ends_callArguments_exact cx hdeeper hs.collation).mono (fun _ t ht => ?_)
    fun _ _ h => h.elim
  rw [ht]
  exact hs.of_suffix (closeParen_suffix 0 s.rest)

theorem supported_windowClauses : Supported (windowClauses cx deeper) := by
  have hparen := supported_parenFragment cx hdeeper
  have hwithin : Supported (withinGroup cx deeper) := by
    refine (mute_eatIf _).supported.bind fun within => ?_
    cases within with
    | true =>
      refine (mute_demand cx _ _).supported.bind fun _ => ?_
      exact (mute_demand cx _ _).supported.bind fun _ => hparen
    | false => exact (mute_pure []).supported
  have hwindow : Supported (overWindow cx deeper) := by
    refine (mute_eatIf _).supported.bind fun window => ?_
    cases window with
    | true => exact (mute_demand cx _ _).supported.bind fun _ => hparen
    | false => exact (mute_pure []).supported
  exact hwithin.bind fun _ => hwindow.bind fun _ => (mute_pure _).supported

theorem supported_takeNamed : Supported (takeNamed cx deeper) := by
  refine (mute_takeName cx .name).supported.bind fun name => ?_
  refine mute_skipAllColumns.supported.bind fun _ => (mute_eatIf _).supported.bind fun call => ?_
  cases call with
  | true =>
    refine (supported_callArguments cx hdeeper).bind fun args => ?_
    exact (supported_windowClauses cx hdeeper).bind fun more => (mute_pure _).supported
  | false => exact (mute_pure _).supported

end

/-! ### Expressions

The readers are given the expressions one level deeper. A cast is not followed inside:
`trips_of_takeCast` says all there is to say about it. -/

theorem castKind?_of_dispatch? (hregular : Regular ls) (hl : l ∈ ls) {k : Keyword}
    (hk : l.dispatch? = some k) (hkind : CastKind.ofKeyword? k = none) : castKind? l = none := by
  rw [castKind?, ← hregular.dispatch?_eq hl, hk, Option.bind_some, hkind]

/-- No word of an operator begins a cast. -/
theorem castKind?_of_atStart? {op : BinaryOp} {width : Nat} (hregular : Regular ls)
    (h : BinaryOp.atStart? ls = some (op, width)) : ∀ l ∈ ls.take width, castKind? l = none := by
  have hofKeyword : ∀ k op, BinaryOp.ofKeyword? k = some op → CastKind.ofKeyword? k = none := by
    intro k op hk
    cases k <;> first | rfl | cases hk
  cases BinaryOp.found_of_atStart? h with
  | @mark l ls m hl _ =>
    simpa using castKind?_of_isMark (show l.isMark m by simp [Lexeme.isMark, hl])
  | @word l ls k hl hop =>
    simpa using castKind?_of_dispatch? hregular (by simp) hl (hofKeyword k _ hop)
  | @negated l next ls k hl hnext hop =>
    have hnot := castKind?_of_dispatch? hregular (by simp) hl rfl
    have hword := castKind?_of_dispatch? hregular (by simp) hnext (hofKeyword k _ hop)
    simp [hnot, hword]

/-- Behind the lexemes of an operator. -/
theorem Follows.passes : ∀ {ks : List Lexeme} {l : Lexeme} {u : Cursor}, Follows cx levels b u →
    u.rest = l :: ks ++ ls → (∀ k ∈ l :: ks, k.IsPlain) → (∀ k ∈ l :: ks, castKind? k = none) →
      Reflects cx levels b (u.moveTo ls)
  | [], l, _, h, hu, hplain, hcast => h.pass hu (hplain l (by simp)) (hcast l (by simp))
  | k :: ks, l, u, h, hu, hplain, hcast => by
    have hpast := h.pass hu (hplain l (by simp)) (hcast l (by simp))
    exact Follows.passes (u := u.moveTo (k :: ks ++ ls)) hpast.follows rfl
      (fun m hm => hplain m (List.mem_cons_of_mem l hm))
      fun m hm => hcast m (List.mem_cons_of_mem l hm)

section

variable {deeper : Nat → Parser Expr} (hdeeper : ∀ m, Reads (deeper m) Expr.vars)
  (hexposes : ∀ m, Exposes cx levels (deeper m))

include hdeeper hexposes

theorem exposes_commaSeparated : Exposes cx levels (commaSeparated (deeper 0)) := by
  intro s hs
  rw [commaSeparated]
  refine (hexposes 0).bind (hdeeper 0) (.refl hs) fun first u hu => ?_
  rw [ends_bind]
  refine ends_repeatWhile (I := fun _ u => Follows cx levels s u) hu (fun items u hu => ?_)
    fun _ _ _ _ => trivial
  refine ends_bind_eatIf (fun l ls hl hcomma => ?_) trivial
  have hpast := hu.passComma hl hcomma
  rw [if_pos rfl]
  rw [ends_bind]
  refine ((hdeeper 0 _).and ((hexposes 0).run hpast)).mono (fun item v hv => ?_) fun _ _ he => he.2
  exact ⟨hpast.follows.walk hv.1, hv.1.reaches.length_lt hl⟩

theorem exposes_listOrQuery : Exposes cx levels (listOrQuery cx deeper) := by
  intro s hs
  rw [listOrQuery, ends_bind, ends_ahead]
  split
  · exact (supported_parenFragment cx hdeeper).exposes s hs
  · refine (exposes_commaSeparated hdeeper hexposes).bind (reads_commaSeparated (hdeeper 0))
      (.refl hs) fun items u _ => ?_
    exact ends_bind_demand _ fun _ _ _ _ => trivial

theorem exposes_caseInput : Exposes cx levels (caseInput deeper) := by
  intro s hs
  rw [caseInput, ends_bind, ends_atNext]
  split
  · trivial
  · exact (hexposes 0).bind (hdeeper 0) (.refl hs) fun _ _ _ => trivial

theorem Follows.whenRound (items : List Expr) (h : Follows cx levels b u) :
    Ends (whenRound cx deeper items) u (fun _ _ => True) (Exposed cx levels b) := by
  rw [Parser.whenRound]
  refine ends_bind_eatIf (fun l ls hu hwhen => ?_) trivial
  rw [if_pos rfl]
  refine (hexposes 0).bind (hdeeper 0) (h.passKeyword hu hwhen rfl) fun condition v hv => ?_
  refine hv.expectKeyword rfl fun v hv => ?_
  exact (hexposes 0).bind (hdeeper 0) hv fun _ _ _ => trivial

theorem Follows.caseElse (h : Follows cx levels b u) :
    Ends (caseElse deeper) u (fun _ _ => True) (Exposed cx levels b) := by
  rw [Parser.caseElse]
  refine ends_bind_eatIf (fun l ls hu helse => ?_) trivial
  exact (hexposes 0).bind (hdeeper 0) (h.passKeyword hu helse rfl) fun _ _ _ => trivial

theorem exposes_takeCase : Exposes cx levels (takeCase cx deeper) := by
  intro s hs
  rw [takeCase]
  refine (Reflects.refl hs).follows.expectKeyword rfl fun u hu => ?_
  refine (exposes_caseInput hdeeper hexposes).bind (reads_caseInput hdeeper) hu
    fun input u hu => ?_
  rw [ends_bind]
  refine (hu.repeatWhile (ends_whenRound cx hdeeper)
    fun items _ h => h.whenRound hdeeper hexposes items).mono
    (fun items u hu => ?_) fun _ _ he => he
  refine hu.bind (reads_caseElse hdeeper) (hu.caseElse hdeeper hexposes) fun otherwise u _ => ?_
  exact ends_bind_demand _ fun _ _ _ _ => trivial

theorem exposes_takeRight (op : BinaryOp) : Exposes cx levels (takeRight cx deeper op) := by
  intro s hs
  unfold takeRight
  split
  · exact ends_bind_eatIf (fun _ _ _ _ => ends_bind_demand _ fun _ _ _ _ => trivial)
      (ends_bind_demand _ fun _ _ _ _ => trivial)
  · refine ends_bind_demand _ fun l ls hl hparen => ?_
    rw [ends_bind]
    exact (exposes_listOrQuery hdeeper hexposes).run ((Reflects.refl hs).opening hl hparen)
  · refine (hexposes _).bind (hdeeper _) (.refl hs) fun low u hu => ?_
    refine hu.expectKeyword rfl fun u hu => ?_
    exact (hexposes _).bind (hdeeper _) hu fun _ _ _ => trivial
  · refine (hexposes _).bind (hdeeper _) (.refl hs) fun pattern u hu => ?_
    refine ends_bind_eatIf (fun l ls hl hescape => ?_) trivial
    exact (hexposes _).bind (hdeeper _) (hu.passKeyword hl hescape rfl) fun _ _ _ => trivial
  · exact hexposes _ s hs

theorem Follows.infixRound (m : Nat) (left : Expr) (h : Follows cx levels b u)
    (hregular : Regular u.rest) :
    Ends (infixRound cx deeper m left) u (fun _ _ => True) (Exposed cx levels b) := by
  rw [Parser.infixRound]
  refine ends_bind_eatIf (fun _ _ _ _ => ends_bind_demand _ fun _ _ _ _ => trivial) ?_
  rw [if_neg (by decide), ends_bind, ends_ahead]
  split
  · trivial
  · next op width hop =>
    split
    · trivial
    · obtain ⟨l, ks, ls, hu, hwidth, hplain⟩ := BinaryOp.atStart?_eq_some hop
      have hcast := castKind?_of_atStart? hregular hop
      rw [hu, hwidth, List.take_left] at hcast
      rw [ends_bind, ends_advance hu hwidth, ends_bind]
      exact (exposes_takeRight hdeeper hexposes op).run (h.passes hu hplain hcast)

theorem ends_takeUnary_exposed (op : UnaryOp) {s : Cursor} (hregular : Regular s.rest)
    (hs : s.rest = l :: ls) (hl : l.IsPlain) (hcast : castKind? l = none) :
    Ends (takeUnary deeper op) s (fun _ _ => True) (Exposed cx levels s) := by
  have hpast : Reflects cx levels s _ := (Reflects.refl hregular).follows.pass hs hl hcast
  rw [takeUnary, ends_bind, ends_advance_one hs]
  exact (hexposes op.power).bind (hdeeper op.power) hpast fun _ _ _ => trivial

theorem ends_takeParen_exposed {s : Cursor} (hregular : Regular s.rest) (hs : s.rest = l :: ls)
    (hl : l.isMark .leftParen) :
    Ends (takeParen cx deeper) s (fun _ _ => True) (Exposed cx levels s) := by
  have hpast : Reflects cx levels s _ := (Reflects.refl hregular).opening hs hl
  rw [takeParen, ends_bind, ends_advance_one hs, ends_bind, ends_ahead]
  split
  · rw [ends_bind]
    exact (supported_parenFragment cx hdeeper).exposes.run hpast
  · refine (hexposes 0).bind (hdeeper 0) hpast fun inner u hu => ?_
    refine ends_bind_eatIf (fun k ks hk hcomma => ?_) ?_
    · rw [if_pos rfl, ends_bind]
      exact (exposes_listOrQuery hdeeper hexposes).run (hu.passComma hk hcomma)
    · exact ends_bind_demand _ fun _ _ _ _ => trivial

variable (hcast : ∀ {kind l ls s}, castKind? l = some kind → opensParen ls → s.rest = l :: ls →
  Regular s.rest → Ends (takeCast cx deeper kind) s (fun _ _ => True) (Exposed cx levels s))

include hcast

theorem ends_takeWord_exposed {s : Cursor} (hregular : Regular s.rest) (hs : s.rest = l :: ls) :
    Ends (takeWord cx deeper l ls) s (fun _ _ => True) (Exposed cx levels s) := by
  have hmem : l ∈ s.rest := by simp [hs]
  have hnamed : Ends (takeNamed cx deeper) s (fun _ _ => True) (Exposed cx levels s) :=
    (supported_takeNamed cx hdeeper).exposes s hregular
  have hunary : ∀ (op : UnaryOp) {k : Keyword}, l.dispatch? = some k →
      CastKind.ofKeyword? k = none →
      Ends (takeUnary deeper op) s (fun _ _ => True) (Exposed cx levels s) :=
    fun op _ hk hkind => ends_takeUnary_exposed hdeeper hexposes op hregular hs
      (Lexeme.isPlain_of_dispatch? hk) (castKind?_of_dispatch? hregular hmem hk hkind)
  rw [takeWord]
  split
  · trivial
  · split
    · trivial
    · next hdispatch => exact hunary _ hdispatch rfl
    · next hdispatch => exact hunary _ hdispatch rfl
    · exact exposes_takeCase hdeeper hexposes s hregular
    · next hdispatch =>
      rw [ends_bind, requireIif]
      split
      · next hopens =>
        unfold Ends Parser.require
        by_cases hsupports : cx.version.supports .iif
        · rw [if_pos hsupports]
          exact hnamed
        · rw [if_neg hsupports]
          intro _ k
          rw [hregular.dispatch?_eq hmem] at hdispatch
          rw [hs]
          exact trips_iif (by simp [Lexeme.isKeyword, hdispatch]) hopens (by simpa using hsupports)
      · exact hnamed
    · split
      · next kind hkind =>
        by_cases hopens : opensParen ls
        · exact hcast (by simpa [hopens] using hkind) hopens hs hregular
        · simp [hopens] at hkind
      · split
        · exact (mute_unexpected cx).exposed
        · exact hnamed

theorem exposes_takeHead : Exposes cx levels (takeHead cx deeper) := by
  intro s hregular
  rw [takeHead, ends_bind, ends_ahead]
  cases hs : s.rest with
  | nil => exact (mute_expected cx _).exposed
  | cons l ls =>
    have hmark : ∀ m, l.token = .mark m → l.isMark m := fun m hm => by simp [Lexeme.isMark, hm]
    have hunary : ∀ (op : UnaryOp) {m : Mark}, l.token = .mark m → m ≠ .leftParen →
        m ≠ .rightParen → Ends (takeUnary deeper op) s (fun _ _ => True) (Exposed cx levels s) :=
      fun op m hm hleft hright => ends_takeUnary_exposed hdeeper hexposes op hregular hs
        (Lexeme.isPlain_of_isMark (hmark m hm) hleft hright) (castKind?_of_isMark (hmark m hm))
    simp only
    split
    · trivial
    · trivial
    · trivial
    · trivial
    · next ht => exact hunary _ ht (by decide) (by decide)
    · next ht => exact hunary _ ht (by decide) (by decide)
    · next ht => exact hunary _ ht (by decide) (by decide)
    · trivial
    · next ht => exact ends_takeParen_exposed hdeeper hexposes hregular hs (hmark _ ht)
    · exact ends_takeWord_exposed hdeeper hexposes hcast hregular hs
    · exact (mute_unexpected cx).exposed

theorem exposes_operatorChain (m : Nat) : Exposes cx levels (operatorChain cx deeper m) := by
  intro s hs
  rw [operatorChain]
  refine (exposes_takeHead hdeeper hexposes hcast).bind (reads_takeHead cx hdeeper) (.refl hs)
    fun head u hu => ?_
  refine (hu.repeatWhile (ends_infixRound cx hdeeper m)
    fun left v hv => hv.infixRound hdeeper hexposes m left ?_).mono (fun _ _ _ => trivial)
    fun _ _ he => he
  obtain ⟨t, vs, ht, hwalk⟩ := hv
  exact ht.regular.of_suffix hwalk.reaches.suffix

end

/-- **A feature that an expression misses trips a scan from its start.** -/
theorem exposes_expr : ∀ {low : Nat}, low ≤ levels → ∀ m, Exposes cx levels (expr cx low m)
  | 0, _, _ => fun _ _ => fun h => by cases h
  | low + 1, hlow, m => by
    have hle := Nat.le_of_succ_le hlow
    refine exposes_operatorChain (reads_expr cx low) (exposes_expr hle) ?_ m
    intro kind l ls s hkind hopens hs hregular
    unfold Ends
    cases hcast : takeCast cx (expr cx low) kind s with
    | ok => trivial
    | error e t =>
      intro he k
      rw [hs] at hregular ⊢
      exact trips_of_takeCast hle hkind hopens hregular hs hcast he

/-! ## The arguments of a call -/

/-- **A feature that is missed in the arguments of a call is found by the scan of them.** -/
theorem parenFragment_of_unsupported {s t : Cursor} {e : SyntaxError} (hs : Regular s.rest)
    (herror : listOrQuery cx (expr cx levels) s = .error e t) (he : e.IsUnsupported) :
    (cursorOf (parenFragment cx (expr cx levels) (t.moveTo s.rest))).errors ≠ [] := by
  have hexposes := exposes_listOrQuery (reads_expr cx levels) (exposes_expr (Nat.le_refl levels))
  have htrips : Trips cx levels 0 s.rest := (hexposes s hs).error herror he 0
  have hscan := htrips s.rest [] (t.moveTo s.rest) rfl (Nat.le_refl _)
  unfold parenFragment
  change (cursorOf (EStateM.bind (repeatWhile (parenRound cx (expr cx levels)) (0, [])) _
    (t.moveTo s.rest))).errors ≠ []
  unfold EStateM.bind
  change (cursorOf (repeatWhile (parenRound cx (expr cx levels)) (0, [])
    (t.moveTo s.rest))).errors ≠ [] at hscan
  revert hscan
  cases repeatWhile (parenRound cx (expr cx levels)) (0, []) (t.moveTo s.rest) <;> exact id

end Parser

end SqlLint
