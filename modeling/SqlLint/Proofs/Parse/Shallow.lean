import SqlLint.Proofs.Parse.Gate
import SqlLint.Proofs.Parse.Mute

/-!
# Calls that are reported once

Whether a failed attempt leaves a trace can be read off the lexemes if the calls that need a feature
do not stand too deep. An attempt records something only where it scans, and it scans only inside
parentheses. So nothing is recorded while the arguments of a call are tried, unless such a call
stands inside parentheses in the arguments; and the scan of a fragment finds such a call only once,
unless it stands inside a cast.

## Zones

`Inside ls rest` says that `rest` is reached from `ls` before the parenthesis that is open before
`ls` is closed, and `Clear ls` that no call that needs a feature stands there. A reader that is
started at a clear place stays in it until it has closed the parenthesis, and no scan in it comes
upon such a call. In the arguments of a call it is enough that every parenthesis opened in them has
a clear inside. The two conditions are zones: a reader cannot leave one by opening and closing
parentheses, and behind a parenthesis that it opens lies a clear place. The grammar is gone through
once, for any zone.

## Main results

* `silent_expr`: an expression in a zone
* `quiet_of_shallow`: no attempt leaves a trace
* `length_reports_le`: reports and calls
-/

namespace SqlLint

namespace Parser

/-! ## Inside a parenthesis -/

theorem depthAfter_append (d : Nat) (ls ms : List Lexeme) :
    depthAfter d (ls ++ ms) = (depthAfter d ls).bind fun e => depthAfter e ms := by
  fun_induction depthAfter d ls with
  | case1 => rfl
  | case2 d l ls hl ih => rw [List.cons_append, depthAfter_left hl, ih]
  | case3 l ls hl hr => simp [depthAfter, hl, hr]
  | case4 d l ls hl hr hd ih => simp [depthAfter, hl, hr, hd, ih]
  | case5 d l ls hl hr ih => simp [depthAfter, hl, hr, ih]

theorem depthAfter_isSome_of_le : ∀ {ls : List Lexeme} {d e : Nat}, d ≤ e →
    (depthAfter d ls).isSome → (depthAfter e ls).isSome
  | [], _, _, _, _ => rfl
  | l :: ls, d, e, hde, h => by
    rw [depthAfter] at h ⊢
    split
    · next hl =>
      rw [if_pos hl] at h
      exact depthAfter_isSome_of_le (Nat.succ_le_succ hde) h
    · next hl =>
      rw [if_neg hl] at h
      split
      · next hr =>
        rw [if_pos hr] at h
        split at h
        · cases h
        · next hd =>
          rw [if_neg (by omega)]
          exact depthAfter_isSome_of_le (by omega) h
      · next hr =>
        rw [if_neg hr] at h
        exact depthAfter_isSome_of_le hde h

/-- From `ls` the lexemes `rest` are reached before the parenthesis open before `ls` is closed. -/
def Inside (ls rest : List Lexeme) : Prop :=
  ∃ before, ls = before ++ rest ∧ (depthAfter 0 before).isSome

theorem Inside.refl (ls : List Lexeme) : Inside ls ls := ⟨[], rfl, rfl⟩

theorem Inside.trans {ls ms rest : List Lexeme} (h : Inside ls ms) (h' : Inside ms rest) :
    Inside ls rest := by
  obtain ⟨before, rfl, hbefore⟩ := h
  obtain ⟨between, rfl, hbetween⟩ := h'
  obtain ⟨d, hd⟩ := Option.isSome_iff_exists.1 hbefore
  refine ⟨before ++ between, (List.append_assoc _ _ _).symm, ?_⟩
  rw [depthAfter_append, hd]
  exact depthAfter_isSome_of_le (Nat.zero_le d) hbetween

theorem Inside.suffix {ls rest : List Lexeme} (h : Inside ls rest) : rest <:+ ls := by
  obtain ⟨before, rfl, -⟩ := h
  exact List.suffix_append before rest

theorem not_isMark_right {l : Lexeme} (h : l.isMark .leftParen) :
    l.isMark .rightParen = false := by
  rw [Bool.eq_false_iff]
  intro hr
  rw [not_isMark_left hr] at h
  cases h

theorem inside_of_not_right {l : Lexeme} {ls : List Lexeme} (h : l.isMark .rightParen = false) :
    Inside (l :: ls) ls := by
  refine ⟨[l], rfl, ?_⟩
  rw [depthAfter, h]
  split <;> rfl

/-- No call that needs a feature stands before the parenthesis open before `ls` is closed. -/
def Clear (ls : List Lexeme) : Prop := ∀ l rest, Inside ls (l :: rest) → call? l rest = none

theorem Clear.inside {ls ms : List Lexeme} (h : Clear ls) (hms : Inside ls ms) : Clear ms :=
  fun l rest hrest => h l rest (hms.trans hrest)

/-- Every parenthesis that is opened before the one open before `ls` is closed has a clear
inside. -/
def Flat (ls : List Lexeme) : Prop :=
  ∀ q ms, Inside ls (q :: ms) → q.isMark .leftParen → Clear ms

end Parser

open SqlLint.Parser

/-- A walk does not close the parenthesis that is open before it. -/
theorem Cursor.Walks.inside {s t : Cursor} {n : Nat} {vs : List Variable} (h : s.Walks n vs t)
    (hs : Regular s.rest) : Inside s.rest t.rest := by
  obtain ⟨d, ls, hls, hwalk, -⟩ := h.walk
  rw [hls] at hs
  have hdepth := hwalk.count_append countsParens_depthAfter [] 0
    ((List.append_nil ls).symm ▸ hs.of_append_left.collation)
  refine ⟨ls, hls, ?_⟩
  rw [← List.append_nil ls, hdepth]
  rfl

/-! ## Zones -/

/-- What is known of a place, and of failures there: a reader cannot leave the zone by opening and
closing parentheses, and behind a parenthesis that it opens lies a clear place. -/
structure Zone (cx : Context) (H : List Lexeme → Prop) (F : SyntaxError → Prop) : Prop where
  inside : ∀ {ls ms}, H ls → Inside ls ms → H ms
  opened : ∀ {q ms}, H (q :: ms) → q.isMark .leftParen → Clear ms
  benign : ∀ {e}, ¬e.IsUnsupported → F e
  missed : ∀ {ls g line}, Regular ls → H ls → CallAhead g ls →
    F (.unsupported line g cx.version)

/-- At a clear place no feature is missed. -/
theorem zone_clear (cx : Context) : Zone cx Clear fun e => ¬e.IsUnsupported where
  inside := Clear.inside
  opened h hq := h.inside (inside_of_not_right (not_isMark_right hq))
  benign h := h
  missed hregular h hcall := by
    obtain ⟨l, rest, rfl, hl⟩ := call?_of_callAhead hregular.ascii hcall
    rw [h l rest (.refl _)] at hl
    cases hl

theorem zone_flat (cx : Context) : Zone cx Flat fun _ => True where
  inside h hms q ls hls := h q ls (hms.trans hls)
  opened h hq := h _ _ (.refl _) hq
  benign _ := trivial
  missed _ _ _ := trivial

namespace Parser

variable {α β : Type} {cx : Context} {H : List Lexeme → Prop} {F : SyntaxError → Prop}

/-- Started in the zone, the reader records nothing. -/
def Silent (H : List Lexeme → Prop) (F : SyntaxError → Prop) (p : Parser α) : Prop :=
  ∀ s, Regular s.rest → H s.rest →
    Ends p s (fun _ t => t.errors = s.errors) fun e t => t.errors = s.errors ∧ F e

/-- Started at a clear place, the reader records nothing and misses no feature. -/
def Calm (p : Parser α) : Prop := Silent Clear (fun e => ¬e.IsUnsupported) p

/-- A reader that is started in the zone at `b` has come to `u`, with `n` parentheses open, and
recorded nothing. -/
structure Within (H : List Lexeme → Prop) (b : Cursor) (n : Nat) (u : Cursor) : Prop where
  regular : Regular b.rest
  zone : H b.rest
  walk : ∃ vs, b.Walks n vs u
  errors : u.errors = b.errors

/-- Started at `u`, the reader ends with what was recorded at `b`. -/
def Leaves (F : SyntaxError → Prop) (b : Cursor) (p : Parser α) (u : Cursor) : Prop :=
  Ends p u (fun _ t => t.errors = b.errors) fun e t => t.errors = b.errors ∧ F e

variable {b u v : Cursor} {n m : Nat} {p : Parser α} {f : α → Parser β} {l : Lexeme}
  {ls : List Lexeme}

theorem Within.refl (hb : Regular b.rest) (h : H b.rest) : Within H b 0 b :=
  ⟨hb, h, ⟨[], .refl b⟩, rfl⟩

theorem Within.regular_rest (h : Within H b n u) : Regular u.rest := by
  obtain ⟨vs, hwalk⟩ := h.walk
  exact h.regular.of_suffix hwalk.reaches.suffix

theorem Within.step (h : Within H b n u)
    (hwalk : ∀ vs, b.Walks n vs u → ∃ ws, b.Walks m ws v) (herrors : v.errors = u.errors) :
    Within H b m v := by
  obtain ⟨vs, hvs⟩ := h.walk
  exact ⟨h.regular, h.zone, hwalk vs hvs, herrors.trans h.errors⟩

theorem Within.moves {vs : List Variable} (h : Within H b n u) (hv : u.Walks 0 vs v)
    (herrors : v.errors = u.errors) : Within H b n v :=
  h.step (fun ws hwalk => ⟨ws ++ vs, hwalk.trans hv⟩) herrors

theorem Within.pass (h : Within H b n u) (hu : u.rest = l :: ls) (hl : l.IsPlain) :
    Within H b n (u.moveTo ls) :=
  h.moves ((Cursor.Walks.refl u).skip hu hl) rfl

/-! ### Steps in a row -/

theorem leaves_bind : Leaves F b (p >>= f) u ↔
    Ends p u (fun a v => Leaves F b (f a) v) fun e v => v.errors = b.errors ∧ F e :=
  ends_bind

theorem leaves_pure (a : α) (h : Within H b n u) : Leaves F b (pure a) u := h.errors

section

variable (Z : Zone cx H F)

include Z

theorem Within.zone_rest (h : Within H b n u) : H u.rest := by
  obtain ⟨vs, hwalk⟩ := h.walk
  exact Z.inside h.zone (hwalk.inside h.regular)

theorem Silent.leaves (hp : Silent H F p) (h : Within H b n u) : Leaves F b p u := by
  have hrun := hp u h.regular_rest (h.zone_rest Z)
  rw [h.errors] at hrun
  exact hrun

/-- Something is read, and something else behind it. -/
theorem Silent.bind {out : α → List Variable} (hp : Silent H F p) (hreads : Reads p out)
    (h : Within H b n u) (hf : ∀ a v, Within H b n v → Leaves F b (f a) v) :
    Leaves F b (p >>= f) u := by
  rw [leaves_bind]
  refine ((hreads u).and (hp.leaves Z h)).mono (fun a v hv => ?_) fun _ _ he => he.2
  exact hf a v (h.moves hv.1 (hv.2.trans h.errors.symm))

theorem Mute.leaves (hp : Mute p) (h : u.errors = b.errors) : Leaves F b p u :=
  (hp u).mono (fun _ _ ht => ht.2.trans h)
    fun _ _ he => ⟨he.1.trans h, Z.benign he.2.not_isUnsupported⟩

theorem Mute.next {out : α → List Variable} (hp : Mute p) (hreads : Reads p out)
    (h : Within H b n u) (hf : ∀ a v, Within H b n v → Leaves F b (f a) v) :
    Leaves F b (p >>= f) u := by
  have hsilent : Silent H F p := fun _ _ _ => hp.leaves Z rfl
  exact hsilent.bind Z hreads h hf

/-- What is read behind an opening parenthesis that comes next. -/
theorem Calm.opening (hp : Calm p) (h : Within H b n u) (hu : u.rest = l :: ls)
    (hl : l.isMark .leftParen) : Leaves F b p (u.moveTo ls) := by
  have hzone := h.zone_rest Z
  have hregular := h.regular_rest
  rw [hu] at hzone hregular
  have hrun := hp (u.moveTo ls) hregular.tail (Z.opened hzone hl)
  refine hrun.mono (fun _ _ ht => ?_) fun _ _ he => ⟨?_, Z.benign he.2⟩
  · exact Eq.trans ht h.errors
  · exact Eq.trans he.1 h.errors

/-- The same, and something else behind the closing parenthesis. -/
theorem Calm.between {out : α → List Variable} (hp : Calm p) (hcloses : Closes p out)
    (h : Within H b n u) (hu : u.rest = l :: ls) (hl : l.isMark .leftParen)
    (hf : ∀ a v, Within H b n v → Leaves F b (f a) v) : Leaves F b (p >>= f) (u.moveTo ls) := by
  obtain ⟨vs, hwalk⟩ := h.walk
  have hend := (hcloses n vs b _ (hwalk.opening hu hl)).and (hp.opening Z h hu hl)
  rw [leaves_bind]
  refine hend.mono (fun a v hv => ?_) fun _ _ he => he.2
  exact hf a v ⟨h.regular, h.zone, ⟨_, hv.1⟩, hv.2⟩

/-- An opening parenthesis that has to come next, and what is read behind it. -/
theorem Calm.expected (hp : Calm p) (h : Within H b n u) :
    Leaves F b (do expect cx .leftParen; p) u := by
  rw [leaves_bind]
  exact ends_demand_mismatch cx _ (fun _ _ hu hl => hp.opening Z h hu hl)
    fun _ he => ⟨h.errors, Z.benign he.not_isUnsupported⟩

/-- A loop whose rounds walk. -/
theorem Within.bind_repeatWhile {step : α → Parser (Option α)} {out : α → List Variable}
    (hround : ∀ a t, Ends (step a) t (RoundEnd (Cursor.Walks 0) out a t) fun _ u => t.Reaches u)
    (hstep : ∀ a, Silent H F (step a)) (h : Within H b n u) {a : α}
    (hf : ∀ a v, Within H b n v → Leaves F b (f a) v) :
    Leaves F b (repeatWhile step a >>= f) u := by
  rw [leaves_bind]
  refine ends_repeatWhile (I := fun _ v => Within H b n v) h (fun a v hv => ?_)
    fun a v hv _ => hf a v hv
  refine ((hround a v).and ((hstep a).leaves Z hv)).mono (fun o w hw => ?_) fun _ _ he => he.2
  cases o with
  | none =>
    obtain rfl : w = v := hw.1
    exact hf a w hv
  | some c =>
    obtain ⟨hlt, vs, hwalk, -⟩ := hw.1
    exact ⟨hv.moves hwalk (hw.2.trans hv.errors.symm), hlt⟩

end

/-- A feature that is required, with the error that says that it is missed. -/
theorem ends_require_missed {g : Feature} {s : Cursor} {Q : Unit → Cursor → Prop}
    {E : SyntaxError → Cursor → Prop} (hQ : Q () s)
    (hE : E (.unsupported (cx.lineAt s.rest) g cx.version) s) : Ends (require cx g) s Q E := by
  unfold Ends require
  by_cases h : cx.version.supports g
  · simpa [h] using hQ
  · simpa [h] using hE

theorem silent_commaSeparated (Z : Zone cx H F) {item : Parser α} {out : α → List Variable}
    (hreads : Reads item out) (hitem : Silent H F item) : Silent H F (commaSeparated item) := by
  intro s hs hzone
  rw [commaSeparated]
  refine hitem.bind Z hreads (.refl hs hzone) fun first u hu => ?_
  rw [leaves_bind]
  refine ends_repeatWhile (I := fun _ u => Within H s 0 u) hu (fun items u hu => ?_)
    fun _ _ hu _ => hu.errors
  refine ends_bind_eatIf (fun l ls hl hcomma => ?_) hu.errors
  have hpast := hu.pass hl (Lexeme.isPlain_of_isMark hcomma (by decide) (by decide))
  rw [if_pos rfl, ends_bind]
  refine ((hreads _).and (hitem.leaves Z hpast)).mono (fun item v hv => ?_) fun _ _ he => he.2
  exact ⟨hpast.moves hv.1 (hv.2.trans hpast.errors.symm), hv.1.reaches.length_lt hl⟩

/-! ### Scans at a clear place -/

section

variable (cx) {deeper : Nat → Parser Expr} (hdeeper : ∀ m, Reads (deeper m) Expr.vars)
  (hcalm : ∀ m, Calm (deeper m))

include hdeeper hcalm

theorem calm_takeCastInside (kind : CastKind) : Calm (takeCastInside cx deeper kind) := by
  have Z := zone_clear cx
  have hclose : ∀ e : Expr, Mute (do expect cx .rightParen; return e) :=
    fun e => (mute_demand cx _ _).bind fun _ => mute_pure e
  have hcast : ∀ kind, Calm (castInside cx deeper kind) := by
    intro kind s hs hclear
    refine (hcalm 0).bind Z (hdeeper 0) (.refl hs hclear) fun operand u hu => ?_
    refine Mute.leaves Z ?_ hu.errors
    exact (mute_demand cx _ _).bind fun _ => (mute_takeTypeRef cx).bind fun _ => hclose _
  have hconvert : ∀ kind, Calm (convertInside cx deeper kind) := by
    intro kind s hs hclear
    refine (mute_takeTypeRef cx).next Z (passes_takeTypeRef cx) (.refl hs hclear)
      fun target u hu => ?_
    refine (mute_demand cx _ _).next Z (passes_expect cx (by decide) (by decide)) hu
      fun _ u hu => ?_
    refine (hcalm 0).bind Z (hdeeper 0) hu fun operand u hu => ?_
    refine (mute_eatIf _).next Z (passes_eat (m := .comma) (by decide) (by decide)) hu
      fun comma u hu => ?_
    split
    · exact (hcalm 0).bind Z (hdeeper 0) hu fun style u hu => (hclose _).leaves Z hu.errors
    · exact (hclose _).leaves Z hu.errors
  cases kind with
  | cast => exact hcast .cast
  | tryCast => exact hcast .tryCast
  | convert => exact hconvert .convert
  | tryConvert => exact hconvert .tryConvert

/-- A cast whose parentheses have a clear inside fails at its own word, if it misses a feature. -/
theorem ends_takeCast_clear {kind : CastKind} {s : Cursor} (hregular : Regular s.rest)
    (hs : s.rest = l :: ls) (hclear : ∀ p ms, ls = p :: ms → p.isMark .leftParen → Clear ms) :
    Ends (takeCast cx deeper kind) s (fun _ t => t.errors = s.errors)
      fun e t => t.errors = s.errors ∧ (e.IsUnsupported → t = s ∧
        ∃ line g, kind.feature? = some g ∧ e = .unsupported line g cx.version) := by
  rw [hs] at hregular
  have hinside : Ends (do advance 1; expect cx .leftParen; takeCastInside cx deeper kind) s
      (fun _ t => t.errors = s.errors) fun e t => t.errors = s.errors ∧ ¬e.IsUnsupported := by
    rw [ends_bind, ends_advance_one hs, ends_bind]
    refine ends_demand_mismatch cx _ (fun p ms hp hparen => ?_)
      fun e he => ⟨rfl, he.not_isUnsupported⟩
    replace hp : ls = p :: ms := hp
    rw [hp] at hregular
    exact calm_takeCastInside cx hdeeper hcalm kind _ hregular.tail.tail (hclear p ms hp hparen)
  have hrest := hinside.mono (F := fun e t => t.errors = s.errors ∧ (e.IsUnsupported → t = s ∧
    ∃ line g, kind.feature? = some g ∧ e = .unsupported line g cx.version)) (fun _ _ h => h)
    fun e _ he => ⟨he.1, fun hmissed => absurd hmissed he.2⟩
  rw [takeCast, ends_bind, requireCast]
  cases hfeature : kind.feature? with
  | none =>
    rw [hfeature] at hrest
    exact hrest
  | some g =>
    rw [hfeature] at hrest
    exact ends_require_missed hrest ⟨rfl, fun _ => ⟨rfl, _, g, rfl, rfl⟩⟩

/-- A cast in a zone. -/
theorem leaves_takeCast (Z : Zone cx H F) {kind : CastKind} {s : Cursor} (hregular : Regular s.rest)
    (hzone : H s.rest) (hs : s.rest = l :: ls) (hkind : castKind? l = some kind)
    (hopens : opensParen ls) : Leaves F s (takeCast cx deeper kind) s := by
  obtain ⟨k, hk, -⟩ := Option.bind_eq_some_iff.1 hkind
  have hclear : ∀ p ms, ls = p :: ms → p.isMark .leftParen → Clear ms := by
    rintro p ms rfl hp
    have hinside : Inside (l :: p :: ms) (p :: ms) :=
      inside_of_not_right (Lexeme.isPlain_of_keyword? hk).noRight
    exact Z.opened (Z.inside hzone (hs ▸ hinside)) hp
  refine (ends_takeCast_clear cx hdeeper hcalm hregular hs hclear).mono (fun _ _ h => h)
    fun e t he => ⟨he.1, ?_⟩
  by_cases hmissed : e.IsUnsupported
  · obtain ⟨-, line, g, hg, rfl⟩ := he.2 hmissed
    exact Z.missed hregular hzone ⟨l, ls, hs, hopens, .inr ⟨kind, hkind, hg⟩⟩
  · exact Z.benign hmissed

theorem scanItem_of_clear (found : List Expr) {s : Cursor} (hregular : Regular s.rest)
    (hclear : Clear s.rest) (hs : s.rest = l :: ls) :
    ∃ found' t, scanItem cx deeper found s = .ok found' t ∧ t.errors = s.errors := by
  rw [scanItem_cons _ _ _ hs]
  split
  · exact ⟨_, _, rfl, rfl⟩
  · split
    · next hopens =>
      split
      · next hiif =>
        have hl : l.keyword? = some .IIF := by simpa [Lexeme.isKeyword] using hiif
        have hcall := hclear l ls (hs ▸ .refl _)
        simp [call?, hopens, hl, Keyword.gate?] at hcall
      · split
        · next kind hkind =>
          have hcast :=
            leaves_takeCast cx hdeeper hcalm (zone_clear cx) hregular hclear hs hkind hopens
          unfold Leaves Ends at hcast
          revert hcast
          cases takeCast cx deeper kind s with
          | ok e t => exact fun herrors => ⟨_, t, rfl, herrors⟩
          | error e t =>
            rintro ⟨herrors, he⟩
            refine ⟨found, _, rfl, ?_⟩
            cases e with
            | unsupported line g version => exact absurd ⟨line, g, version⟩ he
            | _ => exact herrors
        · exact ⟨_, _, rfl, rfl⟩
    · exact ⟨_, _, rfl, rfl⟩

theorem calm_parenFragment : Calm (parenFragment cx deeper) := by
  intro s hs hclear
  rw [parenFragment, ends_bind]
  refine ends_repeatWhile (I := fun state u => Within Clear s state.1 u) (.refl hs hclear)
    (fun state u hu => ?_) fun _ _ hu _ => hu.errors
  obtain ⟨d, found⟩ := state
  cases hrest : u.rest with
  | nil =>
    rw [Ends, parenRound_nil cx deeper _ hrest]
    exact hu.errors
  | cons l rest =>
    have hshort : rest.length < (l :: rest).length := Nat.lt_succ_self _
    refine ends_parenRound cx hrest (fun hleft => ?_) (fun _ _ => hu.errors)
      (fun hright e hd => ?_) fun hleft hright => ?_
    · exact ⟨hu.step (fun _ h => ⟨_, h.opening hrest hleft⟩) rfl, hshort⟩
    · subst hd
      exact ⟨hu.step (fun _ h => ⟨_, h.closing hrest hright⟩) rfl, hshort⟩
    · obtain ⟨found', v, hscan, herrors⟩ := scanItem_of_clear cx hdeeper hcalm found
        hu.regular_rest (hu.zone_rest (zone_clear cx)) hrest
      obtain ⟨hlt, ws, hwalk, -⟩ := (ends_scanItem cx hdeeper found hrest hleft hright).ok hscan
      rw [Ends, hscan]
      exact ⟨hu.moves hwalk herrors, hrest ▸ hlt⟩

omit hcalm in
/-- A list in a zone, up to and including the closing parenthesis. -/
theorem silent_list (Z : Zone cx H F) (hsilent : ∀ m, Silent H F (deeper m)) :
    Silent H F (do let items ← commaSeparated (deeper 0); expect cx .rightParen; return items) := by
  intro s hs hzone
  refine (silent_commaSeparated Z (hdeeper 0) (hsilent 0)).bind Z (reads_commaSeparated (hdeeper 0))
    (.refl hs hzone) fun items u hu => ?_
  exact Mute.leaves Z ((mute_demand cx _ _).bind fun _ => mute_pure items) hu.errors

theorem calm_listOrQuery : Calm (listOrQuery cx deeper) := by
  intro s hs hclear
  rw [listOrQuery, ends_bind, ends_ahead]
  split
  · exact calm_parenFragment cx hdeeper hcalm s hs hclear
  · exact silent_list cx hdeeper (zone_clear cx) hcalm s hs hclear

theorem calm_callArguments : Calm (callArguments cx deeper) := by
  intro s hs hclear
  rw [callArguments]
  refine ends_bind_eatIf (fun _ _ _ _ => rfl) ?_
  rw [if_neg (by decide), ends_bind, ends_ahead, ends_tryCatch]
  refine (calm_listOrQuery cx hdeeper hcalm s hs hclear).mono (fun _ _ h => h) fun _ t ht => ?_
  rw [ends_bind, ends_moveTo, ← ht.1]
  exact calm_parenFragment cx hdeeper hcalm (t.moveTo s.rest) hs hclear

/-! ### Expressions -/

variable (Z : Zone cx H F)

include Z

theorem silent_windowClauses : Silent H F (windowClauses cx deeper) := by
  have hparen := calm_parenFragment cx hdeeper hcalm
  have hwithin : Silent H F (withinGroup cx deeper) := by
    intro s hs hzone
    refine (mute_eatIf _).next Z (passes_eatKeyword .WITHIN) (.refl hs hzone) fun within u hu => ?_
    split
    · refine (mute_demand cx _ _).next Z (passes_expectKeyword cx .GROUP) hu fun _ u hu => ?_
      exact hparen.expected Z hu
    · exact leaves_pure _ hu
  have hwindow : Silent H F (overWindow cx deeper) := by
    intro s hs hzone
    refine (mute_eatIf _).next Z (passes_eatKeyword .OVER) (.refl hs hzone) fun window u hu => ?_
    split
    · exact hparen.expected Z hu
    · exact leaves_pure _ hu
  intro s hs hzone
  refine hwithin.bind Z (reads_withinGroup cx hdeeper) (.refl hs hzone) fun within u hu => ?_
  refine hwindow.bind Z (reads_overWindow cx hdeeper) hu fun window u hu => ?_
  exact leaves_pure _ hu

theorem silent_takeNamed : Silent H F (takeNamed cx deeper) := by
  intro s hs hzone
  refine (mute_takeName cx .name).next Z (passes_takeName cx .name) (.refl hs hzone)
    fun name u hu => ?_
  refine mute_skipAllColumns.next Z passes_skipAllColumns hu fun _ u hu => ?_
  refine ends_bind_eatIf (fun l ls hrest hparen => ?_) hu.errors
  refine (calm_callArguments cx hdeeper hcalm).between Z (closes_callArguments cx hdeeper) hu hrest
    hparen fun args u hu => ?_
  refine (silent_windowClauses cx hdeeper hcalm Z).bind Z (reads_windowClauses cx hdeeper) hu
    fun more u hu => ?_
  exact leaves_pure _ hu

omit hcalm in
theorem silent_takeCase (hsilent : ∀ m, Silent H F (deeper m)) :
    Silent H F (takeCase cx deeper) := by
  have hinput : Silent H F (caseInput deeper) := by
    intro s hs hzone
    rw [caseInput, ends_bind, ends_atNext]
    split
    · rfl
    · exact (hsilent 0).bind Z (hdeeper 0) (.refl hs hzone) fun _ u hu => leaves_pure _ hu
  have hbranch : ∀ items, Silent H F (whenRound cx deeper items) := by
    intro items s hs hzone
    refine (mute_eatIf _).next Z (passes_eatKeyword .WHEN) (.refl hs hzone) fun branch u hu => ?_
    split
    · refine (hsilent 0).bind Z (hdeeper 0) hu fun condition u hu => ?_
      refine (mute_demand cx _ _).next Z (passes_expectKeyword cx .THEN) hu fun _ u hu => ?_
      exact (hsilent 0).bind Z (hdeeper 0) hu fun _ u hu => leaves_pure _ hu
    · exact leaves_pure _ hu
  have helse : Silent H F (caseElse deeper) := by
    intro s hs hzone
    refine (mute_eatIf _).next Z (passes_eatKeyword .ELSE) (.refl hs hzone) fun branch u hu => ?_
    split
    · exact (hsilent 0).bind Z (hdeeper 0) hu fun _ u hu => leaves_pure _ hu
    · exact leaves_pure _ hu
  intro s hs hzone
  refine (mute_demand cx _ _).next Z (passes_expectKeyword cx .CASE) (.refl hs hzone)
    fun _ u hu => ?_
  refine hinput.bind Z (reads_caseInput hdeeper) hu fun input u hu => ?_
  refine hu.bind_repeatWhile Z (ends_whenRound cx hdeeper) hbranch fun items u hu => ?_
  refine helse.bind Z (reads_caseElse hdeeper) hu fun otherwise u hu => ?_
  exact Mute.leaves Z ((mute_demand cx _ _).bind fun _ => mute_pure _) hu.errors

theorem leaves_takeParen {s : Cursor} (hregular : Regular s.rest) (hzone : H s.rest)
    (hs : s.rest = l :: ls) (hl : l.isMark .leftParen) : Leaves F s (takeParen cx deeper) s := by
  have Z' := zone_clear cx
  rw [hs] at hregular hzone
  have hinside : Within Clear (s.moveTo ls) 0 (s.moveTo ls) :=
    .refl hregular.tail (Z.opened hzone hl)
  rw [takeParen, leaves_bind, ends_advance_one hs]
  refine Ends.mono (Q := fun _ t => t.errors = (s.moveTo ls).errors)
    (E := fun e t => t.errors = (s.moveTo ls).errors ∧ ¬e.IsUnsupported) ?_ (fun _ _ h => h)
    fun _ _ he => ⟨he.1, Z.benign he.2⟩
  rw [ends_bind, ends_ahead]
  split
  · rw [ends_bind]
    exact (calm_parenFragment cx hdeeper hcalm).leaves Z' hinside
  · refine (hcalm 0).bind Z' (hdeeper 0) hinside fun inner u hu => ?_
    refine (mute_eatIf _).next Z' (passes_eat (m := .comma) (by decide) (by decide)) hu
      fun comma u hu => ?_
    split
    · rw [leaves_bind]
      exact (calm_listOrQuery cx hdeeper hcalm).leaves Z' hu
    · exact Mute.leaves Z' ((mute_demand cx _ _).bind fun _ => mute_pure _) hu.errors

variable (hsilent : ∀ m, Silent H F (deeper m))

include hsilent

omit hcalm in
theorem leaves_takeUnary (op : UnaryOp) {s : Cursor} (hregular : Regular s.rest) (hzone : H s.rest)
    (hs : s.rest = l :: ls) (hl : l.IsPlain) : Leaves F s (takeUnary deeper op) s := by
  rw [takeUnary, leaves_bind, ends_advance_one hs]
  have hpast := (Within.refl hregular hzone).pass hs hl
  exact (hsilent op.power).bind Z (hdeeper op.power) hpast fun _ u hu => leaves_pure _ hu

theorem leaves_takeWord {s : Cursor} (hregular : Regular s.rest) (hzone : H s.rest)
    (hs : s.rest = l :: ls) : Leaves F s (takeWord cx deeper l ls) s := by
  have hnamed : Leaves F s (takeNamed cx deeper) s :=
    silent_takeNamed cx hdeeper hcalm Z s hregular hzone
  have hunary : ∀ (op : UnaryOp) {k : Keyword}, l.dispatch? = some k →
      Leaves F s (takeUnary deeper op) s :=
    fun op _ hk => leaves_takeUnary cx hdeeper Z hsilent op hregular hzone hs
      (Lexeme.isPlain_of_dispatch? hk)
  rw [takeWord]
  split
  · rfl
  · split
    · rfl
    · next hdispatch => exact hunary _ hdispatch
    · next hdispatch => exact hunary _ hdispatch
    · exact silent_takeCase cx hdeeper Z hsilent s hregular hzone
    · next hdispatch =>
      rw [leaves_bind, requireIif]
      split
      · next hopens =>
        refine ends_require_missed hnamed ⟨rfl, ?_⟩
        exact Z.missed hregular hzone ⟨l, ls, hs, hopens, .inl ⟨rfl, hdispatch⟩⟩
      · exact hnamed
    · split
      · next kind hkind =>
        by_cases hopens : opensParen ls
        · rw [if_pos hopens] at hkind
          exact leaves_takeCast cx hdeeper hcalm Z hregular hzone hs hkind hopens
        · simp [hopens] at hkind
      · split
        · exact (mute_unexpected cx).leaves Z rfl
        · exact hnamed

theorem silent_takeHead : Silent H F (takeHead cx deeper) := by
  intro s hregular hzone
  rw [takeHead, ends_bind, ends_ahead]
  cases hs : s.rest with
  | nil => exact (mute_expected cx _).leaves Z rfl
  | cons l ls =>
    have hmark : ∀ m, l.token = .mark m → l.isMark m := fun m hm => by simp [Lexeme.isMark, hm]
    have hunary : ∀ (op : UnaryOp) {m : Mark}, l.token = .mark m → m ≠ .leftParen →
        m ≠ .rightParen → Leaves F s (takeUnary deeper op) s :=
      fun op m hm hleft hright => leaves_takeUnary cx hdeeper Z hsilent op hregular hzone hs
        (Lexeme.isPlain_of_isMark (hmark m hm) hleft hright)
    simp only
    split
    · rfl
    · rfl
    · rfl
    · rfl
    · next ht => exact hunary _ ht (by decide) (by decide)
    · next ht => exact hunary _ ht (by decide) (by decide)
    · next ht => exact hunary _ ht (by decide) (by decide)
    · rfl
    · next ht => exact leaves_takeParen cx hdeeper hcalm Z hregular hzone hs (hmark _ ht)
    · exact leaves_takeWord cx hdeeper hcalm Z hsilent hregular hzone hs
    · exact (mute_unexpected cx).leaves Z rfl

theorem silent_takeRight (op : BinaryOp) : Silent H F (takeRight cx deeper op) := by
  intro s hs hzone
  have hstart : Within H s 0 s := .refl hs hzone
  unfold takeRight
  split
  · refine Mute.leaves Z ?_ rfl
    exact (mute_eatIf _).bind fun _ => (mute_demand cx _ _).bind fun _ => mute_pure _
  · have hlist : Calm (do return Expr.parts (← listOrQuery cx deeper)) := by
      intro t ht hclear
      rw [ends_bind]
      exact calm_listOrQuery cx hdeeper hcalm t ht hclear
    exact hlist.expected Z hstart
  · refine (hsilent _).bind Z (hdeeper _) hstart fun low u hu => ?_
    refine (mute_demand cx _ _).next Z (passes_expectKeyword cx .AND) hu fun _ u hu => ?_
    exact (hsilent _).bind Z (hdeeper _) hu fun _ u hu => leaves_pure _ hu
  · refine (hsilent _).bind Z (hdeeper _) hstart fun pattern u hu => ?_
    refine (mute_eatIf _).next Z (passes_eatKeyword .ESCAPE) hu fun escape u hu => ?_
    split
    · exact (hsilent _).bind Z (hdeeper _) hu fun _ u hu => leaves_pure _ hu
    · exact leaves_pure _ hu
  · exact hsilent _ s hs hzone

theorem silent_infixRound (m : Nat) (left : Expr) : Silent H F (infixRound cx deeper m left) := by
  intro s hs hzone
  rw [infixRound]
  refine ends_bind_eatIf (fun _ _ _ _ => ?_) ?_
  · exact Mute.leaves Z ((mute_demand cx _ _).bind fun _ => mute_pure _) rfl
  · rw [if_neg (by decide), ends_bind, ends_ahead]
    split
    · rfl
    · next op width hop =>
      split
      · rfl
      · obtain ⟨l, ks, ls, hrest, hwidth, hplain⟩ := BinaryOp.atStart?_eq_some hop
        have hpast := (Within.refl hs hzone).moves ((Cursor.Walks.refl s).skips hrest hplain) rfl
        rw [ends_bind, ends_advance hrest hwidth]
        exact (silent_takeRight cx hdeeper hcalm Z hsilent op).bind Z
          (reads_takeRight cx hdeeper op) hpast fun _ u hu => leaves_pure _ hu

theorem silent_operatorChain (m : Nat) : Silent H F (operatorChain cx deeper m) := by
  intro s hs hzone
  refine (silent_takeHead cx hdeeper hcalm Z hsilent).bind Z (reads_takeHead cx hdeeper)
    (.refl hs hzone) fun head u hu => ?_
  have hloop := hu.bind_repeatWhile (f := fun e => pure e) Z (ends_infixRound cx hdeeper m)
    (silent_infixRound cx hdeeper hcalm Z hsilent m) (a := head) fun e v hv => leaves_pure e hv
  rw [bind_pure] at hloop
  exact hloop

end

theorem calm_expr (cx : Context) : ∀ levels m, Calm (expr cx levels m)
  | 0, _ => fun _ _ _ => ⟨rfl, by rintro ⟨⟩⟩
  | levels + 1, m => silent_operatorChain cx (reads_expr cx levels) (calm_expr cx levels)
    (zone_clear cx) (calm_expr cx levels) m

/-- **An expression in a zone records nothing.** -/
theorem silent_expr (Z : Zone cx H F) : ∀ levels m, Silent H F (expr cx levels m)
  | 0, _ => fun _ _ _ => ⟨rfl, Z.benign (by rintro ⟨⟩)⟩
  | levels + 1, m => silent_operatorChain cx (reads_expr cx levels) (calm_expr cx levels) Z
    (silent_expr Z levels) m

/-! ## Attempts -/

/-- Every cast has a clear inside, and so has every parenthesis that is opened inside another. -/
structure Shallow (batch : List Lexeme) : Prop where
  casts : ∀ l p ls, l :: p :: ls <:+ batch → (castKind? l).isSome → p.isMark .leftParen → Clear ls
  nested : ∀ p ls, p :: ls <:+ batch → p.isMark .leftParen → Flat ls

/-- **No attempt leaves a trace.** -/
theorem quiet_of_shallow {batch : List Lexeme} (hregular : Regular batch) (h : Shallow batch) :
    Quiet cx batch where
  arguments := by
    rintro levels s t e ⟨q, hq, hsuffix⟩ herror
    have hs : Regular s.rest := (hregular.of_suffix hsuffix).tail
    have hlist : Ends (listOrQuery cx (expr cx levels)) s (fun _ _ => True)
        fun _ t => t.errors = s.errors := by
      rw [listOrQuery, ends_bind, ends_ahead]
      split
      · -- the scan of a subquery does not fail
        exact (ends_parenFragment_exact cx (reads_expr cx levels) hs.collation).mono
          (fun _ _ _ => trivial) fun _ _ h => h.elim
      · have hflat := zone_flat cx
        exact (silent_list cx (reads_expr cx levels) hflat (silent_expr hflat levels) s hs
          (h.nested q s.rest hsuffix hq)).mono (fun _ _ _ => trivial) fun _ _ he => he.1
    exact hlist.error herror
  casts := by
    intro levels kind l ls s t e hsuffix hs hkind _ herror
    have hclear : ∀ p ms, ls = p :: ms → p.isMark .leftParen → Clear ms := by
      rintro p ms rfl hp
      exact h.casts l p ms (hs ▸ hsuffix) (by simp [hkind]) hp
    have hend := (ends_takeCast_clear cx (reads_expr cx levels) (calm_expr cx levels)
      (hregular.of_suffix hsuffix) hs hclear).error herror
    exact ⟨hend.1, fun hmissed => congrArg Cursor.rest (hend.2 hmissed).1⟩

theorem clear_of_calls_eq_nil {ls : List Lexeme} (h : calls ls = []) : Clear ls := by
  intro l rest hrest
  have hsublist := calls_sublist hrest.suffix
  rw [h, List.sublist_nil, calls] at hsublist
  simpa using (List.append_eq_nil_iff.1 hsublist).1

theorem Clear.flat {ls : List Lexeme} (h : Clear ls) : Flat ls :=
  fun _ _ hq hparen => (h.inside hq).inside (inside_of_not_right (not_isMark_right hparen))

end Parser

/-! ## Batches -/

/-- **Whatever is reported is a call of the batch, and in a shallow batch each call is reported at
most once.** There are then at most as many reports as calls. -/
theorem length_reports_le {version : Version} {batch : List Lexeme}
    (hascii : ∀ l ∈ batch, l.IsAscii) :
    reports (parseBatch version batch).2 ⊆ Parser.calls batch ∧
      (Regular batch → Parser.Shallow batch →
        (reports (parseBatch version batch).2).Sublist (Parser.calls batch) ∧
          (reports (parseBatch version batch).2).length ≤ (Parser.calls batch).length) := by
  refine ⟨reports_subset_calls hascii, fun hregular hshallow => ?_⟩
  have hquiet : Parser.Quiet (.ofBatch version batch) batch :=
    Parser.quiet_of_shallow hregular hshallow
  have hsublist := reports_sublist_calls hascii hquiet
  exact ⟨hsublist, hsublist.length_le⟩

/-- `RETURN ISNULL(TRY_CAST(@n AS INT), 0)`: the arguments are tried, and `TRY_CAST` is reported
when they are scanned. -/
theorem length_reports_le_try_cast :
    let batch : List Lexeme := [⟨.word "RETURN" none, 1, true⟩, ⟨.word "ISNULL" none, 1, false⟩,
      ⟨.mark .leftParen, 1, false⟩, ⟨.word "TRY_CAST" none, 1, false⟩,
      ⟨.mark .leftParen, 1, false⟩, ⟨.word "@n" none, 1, false⟩, ⟨.word "AS" none, 1, false⟩,
      ⟨.word "INT" none, 1, false⟩, ⟨.mark .rightParen, 1, false⟩, ⟨.mark .comma, 1, false⟩,
      ⟨.number "0" false, 1, false⟩, ⟨.mark .rightParen, 1, false⟩]
    0 < (reports (parseBatch .sql2008 batch).2).length ∧
      (reports (parseBatch .sql2008 batch).2).length ≤ (Parser.calls batch).length := by
  intro batch
  have hascii : ∀ l ∈ batch, l.IsAscii := by simp [batch, Lexeme.IsAscii, Token.plainWord?]
  have hcollate : ∀ k ∈ batch, k.isKeyword .COLLATE = false := by decide
  have hregular : Regular batch := by
    refine ⟨hascii, fun k l rest hrest hk => ?_⟩
    rw [hcollate k (hrest.subset List.mem_cons_self)] at hk
    cases hk
  have hclear : Parser.Clear (batch.drop 5) := Parser.clear_of_calls_eq_nil rfl
  -- two parentheses are opened, and only the second one belongs to a cast
  have hopened : ∀ {p ls}, p :: ls <:+ batch → p.isMark .leftParen →
      ls = batch.drop 3 ∨ ls = batch.drop 5 := by
    intro p ls hls hp
    simp only [batch, List.suffix_cons_iff, List.cons.injEq, List.suffix_nil] at hls
    rcases hls with ⟨rfl, -⟩ | ⟨rfl, -⟩ | ⟨-, h⟩ | ⟨rfl, -⟩ | ⟨-, h⟩ | ⟨rfl, -⟩ | ⟨rfl, -⟩ |
      ⟨rfl, -⟩ | ⟨rfl, -⟩ | ⟨rfl, -⟩ | ⟨rfl, -⟩ | ⟨rfl, -⟩ | h
    all_goals first | exact .inl h | exact .inr h | cases hp | cases h
  have hcast : ∀ {l ls}, l :: ls <:+ batch → (Parser.castKind? l).isSome → ls = batch.drop 4 := by
    intro l ls hls hl
    simp only [batch, List.suffix_cons_iff, List.cons.injEq, List.suffix_nil] at hls
    rcases hls with ⟨rfl, -⟩ | ⟨rfl, -⟩ | ⟨rfl, -⟩ | ⟨-, h⟩ | ⟨rfl, -⟩ | ⟨rfl, -⟩ | ⟨rfl, -⟩ |
      ⟨rfl, -⟩ | ⟨rfl, -⟩ | ⟨rfl, -⟩ | ⟨rfl, -⟩ | ⟨rfl, -⟩ | h
    all_goals first | exact h | cases hl | cases h
  have hshallow : Parser.Shallow batch := by
    constructor
    · intro l p ls hls hl _
      obtain ⟨-, rfl⟩ : p = _ ∧ ls = batch.drop 5 := List.cons.inj (hcast hls hl)
      exact hclear
    · intro p ls hls hp
      rcases hopened hls hp with rfl | rfl
      · intro q ms hms hq
        rcases hopened (hms.suffix.trans (List.drop_suffix 3 batch)) hq with rfl | rfl
        · exact absurd hms.suffix.length_le (Nat.not_succ_le_self _)
        · exact hclear
      · exact hclear.flat
  exact ⟨by decide, ((length_reports_le hascii).2 hregular hshallow).2⟩

/-- A call inside a cast is reported twice: once for the cast, and once for itself. -/
theorem not_length_reports_le :
    ¬∀ (version : Version) (batch : List Lexeme), (∀ l ∈ batch, l.IsAscii) →
      (reports (parseBatch version batch).2).length ≤ (Parser.calls batch).length := by
  intro h
  let batch : List Lexeme := [⟨.word "select" none, 1, true⟩, ⟨.word "cast" none, 1, false⟩,
    ⟨.mark .leftParen, 1, false⟩, ⟨.word "try_cast" none, 1, false⟩, ⟨.mark .leftParen, 1, false⟩,
    ⟨.word "@a" none, 1, false⟩, ⟨.word "as" none, 1, false⟩, ⟨.word "int" none, 1, false⟩,
    ⟨.mark .rightParen, 1, false⟩, ⟨.word "as" none, 1, false⟩, ⟨.word "varchar" none, 1, false⟩,
    ⟨.mark .leftParen, 1, false⟩, ⟨.number "10" false, 1, false⟩, ⟨.mark .rightParen, 1, false⟩,
    ⟨.mark .rightParen, 1, false⟩]
  have hascii : ∀ l ∈ batch, l.IsAscii := by simp [batch, Lexeme.IsAscii, Token.plainWord?]
  have hreports : reports (parseBatch .sql2008 batch).2 = [⟨1, .tryCast⟩, ⟨1, .tryCast⟩] := by rfl
  have hcalls : Parser.calls batch = [⟨1, .tryCast⟩] := by rfl
  have hle := h .sql2008 batch hascii
  rw [hreports, hcalls] at hle
  exact absurd hle (by decide)

end SqlLint
