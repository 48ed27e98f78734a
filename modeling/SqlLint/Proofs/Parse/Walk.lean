import SqlLint.Parse.Name
import SqlLint.Proofs.Parse.Logic

/-!
# Walks over lexemes

What the reader of an expression does to the lexemes it passes is always one of a few things: a
variable is kept, a parenthesis is opened or closed, the name of a collation is dropped together
with the word before it, and every other lexeme carries neither a variable nor a parenthesis. A
*walk* is a list of lexemes passed in this way. It knows the number of parentheses that it has left
open and the variables that it has kept, in order.

The tree of an expression is not part of it. A reader that succeeds has walked over the lexemes it
passed and kept the variables of its tree; the order of variables and the balance of parentheses
are then facts about walks, proved by induction on the six cases, and not about readers.

## Parentheses at the end of a batch

Where the batch ends, open parentheses count as closed, since a scan that does not find the
closing one stops there. `Cursor.Walks n vs s t` therefore says that the walk from `s` to `t` has
left `n` parentheses open *or* that nothing lies ahead of `t`. This is what lets the walks of two
steps in a row be put together without a case distinction in each of them.

## Collations

The name of a collation is any lexeme, even a variable or a parenthesis. That is why it has a case
of its own.

## Statements

Readers of statements drop lexemes of any kind, and on their way out of an error they jump. No
walk describes that. What is left is `Cursor.Keeps`: the variables kept, followed by those that lie
ahead, are among those that lay ahead before, in the same order. Every walk does that, and so does
every move that drops what it passes.

## Main definitions

* `Walk`: lexemes passed, with the open parentheses and the variables kept
* `CollationsAre`: what is known of the lexemes that stand as names of collations
* `Cursor.Reaches`: a cursor lies behind another one, and no move has left the batch
* `Cursor.Walks`: two cursors with a walk between them
* `Cursor.Keeps`: two cursors, some of the variables between them being kept in order
* `Cursor.Tracks`: what is common to the last two
-/

namespace SqlLint

/-! ## Lexemes without a variable or a parenthesis -/

namespace Lexeme

/-- The lexeme is neither a variable nor a parenthesis. -/
structure IsPlain (l : Lexeme) : Prop where
  noVariable : l.variableHere? = none
  noLeft : l.isMark .leftParen = false
  noRight : l.isMark .rightParen = false

variable {l : Lexeme}

theorem variableHere?_eq_none_of_plainWord? (h : l.token.plainWord? = none) :
    l.variableHere? = none := by
  simp [variableHere?, variableName?, Token.variableName?, h]

theorem variableHere?_of_isMark {m : Mark} (h : l.isMark m) : l.variableHere? = none := by
  have ht : l.token = .mark m := by simpa [isMark] using h
  exact variableHere?_eq_none_of_plainWord? (by rw [ht]; rfl)

theorem isPlain_of_isMark {m : Mark} (h : l.isMark m) (hl : m ≠ .leftParen)
    (hr : m ≠ .rightParen) : l.IsPlain := by
  have ht : l.token = .mark m := by simpa [isMark] using h
  exact ⟨variableHere?_of_isMark h, by simp [isMark, ht, hl], by simp [isMark, ht, hr]⟩

/-- A lexeme that is no mark is no parenthesis. -/
theorem isPlain_of_ne_mark (hv : l.variableHere? = none) (h : ∀ m, l.token ≠ .mark m) :
    l.IsPlain :=
  ⟨hv, by simp [isMark, h], by simp [isMark, h]⟩

theorem isPlain_of_word? (hv : l.variableHere? = none) {text : String}
    (h : l.token.word? = some text) : l.IsPlain := by
  refine isPlain_of_ne_mark hv fun m hm => ?_
  rw [hm] at h
  simp [Token.word?] at h

theorem isPlain_of_namePart? {text : String} (h : l.namePart? = some text) : l.IsPlain := by
  rw [namePart?] at h
  split at h
  · simp at h
  · next hv => exact isPlain_of_word? (by simpa [variableHere?] using hv) h

/-- No key word is spelled with the sign of a variable in front. -/
theorem head?_spelling_ne (k : Keyword) : k.spelling.head? ≠ some '@' := by
  cases k <;> decide

/-- A plain word whose letters, each replaced in some way that leaves the sign of a variable as it
is, spell a key word is no variable. -/
theorem isPlain_of_spelling {f : Char → List Char} (hf : f '@' = ['@']) {k : Keyword}
    (h : (l.token.plainWord?.bind fun text => Keyword.ofSpelling? (text.toList.flatMap f)) =
      some k) : l.IsPlain := by
  obtain ⟨text, htext, hk⟩ := Option.bind_eq_some_iff.1 h
  have hword : l.token = .word text none := by
    cases ht : l.token with
    | word text' quote =>
      cases quote with
      | none =>
        rw [ht] at htext
        simpa [Token.plainWord?] using htext
      | some q => simp [ht, Token.plainWord?] at htext
    | _ => simp [ht, Token.plainWord?] at htext
  refine isPlain_of_ne_mark ?_ fun m hm => by simp [hm] at hword
  have hspell := Keyword.spelling_of_ofSpelling? hk
  have hsign : text.toList.head? ≠ some '@' := by
    intro hat
    obtain ⟨cs, hcs⟩ := List.head?_eq_some_iff.1 hat
    rw [hcs, List.flatMap_cons, hf] at hspell
    exact head?_spelling_ne k (by rw [hspell]; rfl)
  rw [variableHere?, variableName?, Token.variableName?, htext]
  cases hcs : text.toList with
  | nil => simp [hcs]
  | cons c cs =>
    have hc : c ≠ '@' := by
      rintro rfl
      exact hsign (by rw [hcs]; rfl)
    cases cs <;> simp [hcs, hc]

theorem isPlain_of_keyword? {k : Keyword} (h : l.keyword? = some k) : l.IsPlain := by
  refine isPlain_of_spelling (f := fun c => [c.toUpper]) (k := k) (by decide) ?_
  rw [keyword?] at h
  rw [← h]
  congr 1
  funext text
  rw [List.map_eq_flatMap]

theorem isPlain_of_isKeyword {k : Keyword} (h : l.isKeyword k) : l.IsPlain :=
  isPlain_of_keyword? (by simpa [isKeyword] using h)

theorem isPlain_of_dispatch? {k : Keyword} (h : l.dispatch? = some k) : l.IsPlain :=
  isPlain_of_spelling (by decide) h

end Lexeme

/-! ## Walks -/

/-- The lexemes `ls` passed one after the other, `d` being the number of parentheses left open and
`vs` the variables kept. -/
inductive Walk : (d : Nat) → (ls : List Lexeme) → (vs : List Variable) → Prop
  | start : Walk 0 [] []
  | skip {d ls vs l} : Walk d ls vs → l.IsPlain → Walk d (ls ++ [l]) vs
  | keep {d ls vs l v} : Walk d ls vs → l.variableHere? = some v → Walk d (ls ++ [l]) (vs ++ [v])
  | opening {d ls vs l} : Walk d ls vs → l.isMark .leftParen → Walk (d + 1) (ls ++ [l]) vs
  | closing {d ls vs l} : Walk (d + 1) ls vs → l.isMark .rightParen → Walk d (ls ++ [l]) vs
  | collation {d ls vs k l} : Walk d ls vs → k.isKeyword .COLLATE → Walk d (ls ++ [k, l]) vs

namespace Walk

variable {d e : Nat} {ls ms : List Lexeme} {vs ws : List Variable}

/-- One walk behind another. -/
theorem append (h : Walk d ls vs) (h' : Walk e ms ws) : Walk (d + e) (ls ++ ms) (vs ++ ws) := by
  induction h' with
  | start => simpa using h
  | skip _ hl ih => rw [← List.append_assoc]; exact ih.skip hl
  | keep _ hv ih => rw [← List.append_assoc, ← List.append_assoc]; exact ih.keep hv
  | opening _ hl ih => rw [← List.append_assoc]; exact ih.opening hl
  | closing _ hl ih => rw [← List.append_assoc]; exact closing ih hl
  | collation _ hk ih => rw [← List.append_assoc]; exact ih.collation hk

/-- The variables kept are among those passed, in the same order. -/
theorem sublist (h : Walk d ls vs) : vs.Sublist (ls.filterMap Lexeme.variableHere?) := by
  induction h with
  | start => exact List.Sublist.refl _
  | skip _ hl ih => simpa [List.filterMap_cons, hl.noVariable] using ih
  | keep _ hv ih => simpa [List.filterMap_cons, hv] using ih
  | opening _ hl ih =>
    simpa [List.filterMap_cons, Lexeme.variableHere?_of_isMark hl] using ih
  | closing _ hl ih =>
    simpa [List.filterMap_cons, Lexeme.variableHere?_of_isMark hl] using ih
  | collation _ _ ih =>
    rw [List.filterMap_append]
    exact ih.trans (List.sublist_append_left _ _)

end Walk

/-- Every lexeme that stands directly behind a `COLLATE` has a property. -/
def CollationsAre (P : Lexeme → Prop) (ls : List Lexeme) : Prop :=
  ∀ k l rest, k :: l :: rest <:+ ls → k.isKeyword .COLLATE → P l

namespace CollationsAre

variable {P P' : Lexeme → Prop} {ls ms : List Lexeme}

theorem mono (h : CollationsAre P ls) (hP : ∀ l, P l → P' l) : CollationsAre P' ls :=
  fun k l rest hrest hk => hP l (h k l rest hrest hk)

theorem of_suffix (h : CollationsAre P ls) (hms : ms <:+ ls) : CollationsAre P ms :=
  fun k l rest hrest => h k l rest (hrest.trans hms)

theorem tail {l : Lexeme} (h : CollationsAre P (l :: ls)) : CollationsAre P ls :=
  h.of_suffix (List.suffix_cons l ls)

theorem of_append_left (h : CollationsAre P (ls ++ ms)) : CollationsAre P ls := by
  rintro k l rest ⟨before, rfl⟩
  exact h k l (rest ++ ms) ⟨before, by simp⟩

theorem cons_cons_iff {k l : Lexeme} :
    CollationsAre P (k :: l :: ls) ↔ (k.isKeyword .COLLATE → P l) ∧ CollationsAre P (l :: ls) := by
  constructor
  · exact fun h => ⟨h k l ls (List.suffix_refl _), h.tail⟩
  · rintro ⟨hk, h⟩ k' l' rest hrest
    rcases List.suffix_cons_iff.1 hrest with heq | hrest
    · obtain ⟨rfl, htail⟩ := List.cons.inj heq
      obtain ⟨rfl, -⟩ := List.cons.inj htail
      exact hk
    · exact h k' l' rest hrest

theorem cons {k : Lexeme} (h : CollationsAre P ls) (hk : k.isKeyword .COLLATE = false) :
    CollationsAre P (k :: ls) := by
  cases ls with
  | nil => exact fun _ _ _ hrest => absurd hrest.length_le (by simp)
  | cons l ls => exact cons_cons_iff.2 ⟨fun hk' => absurd hk' (by simp [hk]), h⟩

instance decidable [DecidablePred P] : DecidablePred (CollationsAre P)
  | [] => isTrue fun _ _ _ hrest => absurd (List.suffix_nil.1 hrest) (by simp)
  | [_] => isTrue fun _ _ _ hrest => absurd hrest.length_le (by simp)
  | k :: l :: ls =>
    have := decidable (l :: ls)
    decidable_of_iff _ cons_cons_iff.symm

theorem of_forall_not (h : ∀ k ∈ ls, k.isKeyword .COLLATE = false) : CollationsAre P ls := by
  intro k l rest hrest hk
  rw [h k (hrest.subset List.mem_cons_self)] at hk
  cases hk

end CollationsAre

/-! ## Cursors with a walk between them -/

namespace Cursor

/-- From `s` the cursor has come to `t` over lexemes that are there. -/
structure Reaches (s t : Cursor) : Prop where
  suffix : t.rest <:+ s.rest
  overrun : t.overrun = s.overrun

/-- The way from `s` to `t` is a walk that keeps `vs` and leaves `n` parentheses open, unless `t`
is at the end of the batch. -/
structure Walks (n : Nat) (vs : List Variable) (s t : Cursor) : Prop where
  overrun : t.overrun = s.overrun
  walk : ∃ d ls, s.rest = ls ++ t.rest ∧ Walk d ls vs ∧ (d = n ∨ t.rest = [])

variable {n m : Nat} {vs ws : List Variable} {s t u : Cursor}

theorem Reaches.refl (s : Cursor) : s.Reaches s := ⟨List.suffix_refl _, rfl⟩

theorem Reaches.trans (h : s.Reaches t) (h' : t.Reaches u) : s.Reaches u :=
  ⟨h'.suffix.trans h.suffix, h'.overrun.trans h.overrun⟩

theorem Reaches.length_le (h : s.Reaches t) : t.rest.length ≤ s.rest.length := h.suffix.length_le

/-- Only what lies ahead and how far the batch has been left matter. -/
theorem Reaches.congr (h : s.Reaches t) (hrest : u.rest = t.rest) (hover : u.overrun = t.overrun) :
    s.Reaches u :=
  ⟨hrest ▸ h.suffix, hover.trans h.overrun⟩

/-- Moving to an end piece of what lies ahead. -/
theorem reaches_moveTo {rest : List Lexeme} (h : rest <:+ s.rest) : s.Reaches (s.moveTo rest) :=
  ⟨h, rfl⟩

theorem reaches_moveTo_cons {l : Lexeme} {rest : List Lexeme} (h : s.rest = l :: rest) :
    s.Reaches (s.moveTo rest) :=
  reaches_moveTo (h ▸ List.suffix_cons l rest)

/-- What is reached from behind a lexeme is shorter than what begins with it. -/
theorem Reaches.length_lt {l : Lexeme} {rest : List Lexeme} (h : (s.moveTo rest).Reaches t)
    (hs : s.rest = l :: rest) : t.rest.length < s.rest.length := by
  have hle : t.rest.length ≤ rest.length := h.length_le
  rw [hs, List.length_cons]
  exact Nat.lt_succ_of_le hle

theorem Walks.reaches (h : s.Walks n vs t) : s.Reaches t := by
  obtain ⟨_, ls, hls, _⟩ := h.walk
  exact ⟨⟨ls, hls.symm⟩, h.overrun⟩

theorem Walks.refl (s : Cursor) : s.Walks 0 [] s := ⟨rfl, 0, [], rfl, .start, .inl rfl⟩

/-- Walks in a row. Unless the second one ends at the end of the batch, neither does the first, so
that both have left open as many parentheses as they say. -/
theorem Walks.trans (h : s.Walks n vs t) (h' : t.Walks m ws u) :
    s.Walks (n + m) (vs ++ ws) u := by
  obtain ⟨d, ls, hls, hwalk, hd⟩ := h.walk
  obtain ⟨e, ms, hms, hwalk', he⟩ := h'.walk
  refine ⟨h'.overrun.trans h.overrun, d + e, ls ++ ms, ?_, hwalk.append hwalk', ?_⟩
  · rw [hls, hms, List.append_assoc]
  · by_cases hu : u.rest = []
    · exact .inr hu
    · have ht : t.rest ≠ [] := by
        rw [hms]
        simp [hu]
      exact .inl (by rw [hd.resolve_right ht, he.resolve_right hu])

/-- A step of a walk that passes `ms` and changes the rest of the record as `Walk` says. -/
theorem Walks.step {ms : List Lexeme} (h : s.Walks n vs t) (hover : u.overrun = t.overrun)
    (ht : t.rest = ms ++ u.rest) (hms : ms ≠ [])
    (hstep : ∀ ls, Walk n ls vs → Walk m (ls ++ ms) ws) : s.Walks m ws u := by
  obtain ⟨d, ls, hls, hwalk, hd⟩ := h.walk
  have hne : t.rest ≠ [] := by simp [ht, hms]
  rw [hd.resolve_right hne] at hwalk
  refine ⟨hover.trans h.overrun, m, ls ++ ms, ?_, hstep ls hwalk, .inl rfl⟩
  rw [hls, ht, List.append_assoc]

variable {l : Lexeme} {rest : List Lexeme}

theorem Walks.skip (h : s.Walks n vs t) (ht : t.rest = l :: rest) (hl : l.IsPlain) :
    s.Walks n vs (t.moveTo rest) :=
  h.step rfl (show t.rest = [l] ++ rest from ht) (by simp) fun _ hw => hw.skip hl

theorem Walks.keep (h : s.Walks n vs t) (ht : t.rest = l :: rest) {v : Variable}
    (hv : l.variableHere? = some v) : s.Walks n (vs ++ [v]) (t.moveTo rest) :=
  h.step rfl (show t.rest = [l] ++ rest from ht) (by simp) fun _ hw => hw.keep hv

theorem Walks.opening (h : s.Walks n vs t) (ht : t.rest = l :: rest) (hl : l.isMark .leftParen) :
    s.Walks (n + 1) vs (t.moveTo rest) :=
  h.step rfl (show t.rest = [l] ++ rest from ht) (by simp) fun _ hw => hw.opening hl

theorem Walks.closing (h : s.Walks (n + 1) vs t) (ht : t.rest = l :: rest)
    (hl : l.isMark .rightParen) : s.Walks n vs (t.moveTo rest) :=
  h.step rfl (show t.rest = [l] ++ rest from ht) (by simp) fun _ hw => hw.closing hl

theorem Walks.collation {k : Lexeme} (h : s.Walks n vs t) (ht : t.rest = k :: l :: rest)
    (hk : k.isKeyword .COLLATE) : s.Walks n vs (t.moveTo rest) :=
  h.step rfl (show t.rest = [k, l] ++ rest from ht) (by simp) fun _ hw => hw.collation hk

/-- At the end of the batch every parenthesis counts as closed. -/
theorem Walks.atEnd (h : s.Walks n vs t) (ht : t.rest = []) (m : Nat) : s.Walks m vs t := by
  obtain ⟨d, ls, hls, hwalk, _⟩ := h.walk
  exact ⟨h.overrun, d, ls, hls, hwalk, .inr ht⟩

theorem Walks.congr (h : s.Walks n vs t) (hrest : u.rest = t.rest)
    (hover : u.overrun = t.overrun) : s.Walks n vs u := by
  obtain ⟨d, ls, hls, hwalk, hd⟩ := h.walk
  exact ⟨hover.trans h.overrun, d, ls, hrest ▸ hls, hwalk, hrest ▸ hd⟩

/-- A run of lexemes that are passed over. -/
theorem Walks.skips : ∀ {ls : List Lexeme} {t : Cursor}, s.Walks n vs t → t.rest = ls ++ rest →
    (∀ l ∈ ls, l.IsPlain) → s.Walks n vs (t.moveTo rest)
  | [], _, h, ht, _ => h.congr ht.symm rfl
  | l :: ls, t, h, ht, hls => by
    have hpast := h.skip ht (hls l List.mem_cons_self)
    exact hpast.skips rfl fun k hk => hls k (List.mem_cons_of_mem l hk)

/-! ## Variables kept in order -/

/-- From `s` the cursor has come to `t`, and `vs` are some of the variables on the way, in order. -/
structure Keeps (vs : List Variable) (s t : Cursor) : Prop where
  reaches : s.Reaches t
  sublist : (vs ++ t.rest.filterMap Lexeme.variableHere?).Sublist
    (s.rest.filterMap Lexeme.variableHere?)

theorem Walks.keeps (h : s.Walks n vs t) : s.Keeps vs t := by
  obtain ⟨d, ls, hls, hwalk, -⟩ := h.walk
  refine ⟨h.reaches, ?_⟩
  rw [hls, List.filterMap_append]
  exact hwalk.sublist.append (List.Sublist.refl _)

theorem Keeps.refl (s : Cursor) : s.Keeps [] s := ⟨.refl s, List.Sublist.refl _⟩

theorem Keeps.trans (h : s.Keeps vs t) (h' : t.Keeps ws u) : s.Keeps (vs ++ ws) u := by
  refine ⟨h.reaches.trans h'.reaches, ?_⟩
  rw [List.append_assoc]
  exact ((List.Sublist.refl vs).append h'.sublist).trans h.sublist

/-- What is passed can always be dropped. -/
theorem Reaches.keeps (h : s.Reaches t) : s.Keeps [] t := by
  refine ⟨h, ?_⟩
  rw [List.nil_append]
  exact h.suffix.sublist.filterMap _

theorem Keeps.drop (h : s.Keeps vs t) (h' : t.Reaches u) : s.Keeps vs u := by
  have := h.trans h'.keeps
  rwa [List.append_nil] at this

theorem Keeps.keep (h : s.Keeps vs t) (ht : t.rest = l :: rest) {v : Variable}
    (hv : l.variableHere? = some v) : s.Keeps (vs ++ [v]) (t.moveTo rest) :=
  h.trans ((Walks.refl t).keep ht hv).keeps

/-- What walks and moves that keep variables have in common: they can be put in a row, and a lexeme
that is neither a variable nor a parenthesis can be passed. -/
structure Tracks (R : List Variable → Cursor → Cursor → Prop) : Prop where
  reaches : ∀ {vs s t}, R vs s t → s.Reaches t
  trans : ∀ {vs ws s t u}, R vs s t → R ws t u → R (vs ++ ws) s u
  skip : ∀ {s l rest}, s.rest = l :: rest → l.IsPlain → R [] s (s.moveTo rest)

theorem tracks_walks : Tracks (Walks 0) where
  reaches := Walks.reaches
  trans := Walks.trans
  skip hs hl := (Walks.refl _).skip hs hl

theorem tracks_keeps : Tracks Keeps where
  reaches := Keeps.reaches
  trans := Keeps.trans
  skip hs _ := (reaches_moveTo_cons hs).keeps

end Cursor

end SqlLint
