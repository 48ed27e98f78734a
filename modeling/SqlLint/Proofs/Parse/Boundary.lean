import SqlLint.Proofs.Parse.Attempt
import SqlLint.Proofs.Parse.Parenthesis

/-!
# Where an unmodelled statement ends

The scan of an unmodelled statement collects variables and casts. A cast is read as a whole if that
is possible, with whatever stands in it: calls, lists, queries, types with parameters. If it is not,
the scan goes on behind its key word.

Neither moves the end of the statement. `plainScan` is a scan that collects nothing: it looks at one
lexeme after the other and counts parentheses. A cast that is read ends where its parenthesis is
closed, and inside parentheses a plain scan only counts, so both come to the same place.

## What is left out

The `END` of a `CASE` does not end a statement, and a plain scan knows of no `CASE`. The name of a
collation may be a parenthesis, which the reader of a cast does not count. Lexemes with either key
word are therefore excluded.

## Main results

* `plainTail_closeParen`: a plain scan inside parentheses goes on behind them
* `ends_scanItem_exact`: where the scan of one item ends
* `ends_scanRound_staysWith`: a round of the scan beside the plain scan
* `fragment_place`: the scan of a statement ends where a plain scan does
-/

namespace SqlLint

theorem Lexeme.keyword?_of_isMark {l : Lexeme} {m : Mark} (h : l.isMark m) : l.keyword? = none := by
  have ht : l.token = .mark m := of_decide_eq_true h
  rw [keyword?, ht]
  rfl

namespace Parser

/-! ## The plain scan -/

/-- Whether a statement ends before a lexeme outside of parentheses. A `SET` does not end it if
`set` says so. -/
def stopsAt (set : Bool) (l : Lexeme) : Bool :=
  l.isMark .semicolon || l.isMark .rightParen ||
    (l.startsStatement && !(l.isKeyword .SET && set))

/-- What a plain scan leaves of the lexemes behind the first one of a statement, `d` parentheses
being open. If `set` says so, the first `SET` outside of parentheses is passed. -/
def plainTail (set : Bool) (d : Nat) : List Lexeme → List Lexeme
  | [] => []
  | l :: ls =>
    if d = 0 && stopsAt set l then l :: ls
    else
      let set := set && !(d = 0 && l.isKeyword .SET)
      if l.isMark .leftParen then plainTail set (d + 1) ls
      else if l.isMark .rightParen then plainTail set (d - 1) ls
      else plainTail set d ls

/-- What a plain scan of a statement leaves. Its first lexeme belongs to it whatever it is, and an
`UPDATE` has a `SET`. -/
def plainScan : List Lexeme → List Lexeme
  | [] => []
  | l :: ls => plainTail (l.isKeyword .UPDATE) 0 ls

variable {set : Bool} {d : Nat} {l : Lexeme} {ls : List Lexeme}

theorem plainTail_stop (h : (d = 0 && stopsAt set l) = true) :
    plainTail set d (l :: ls) = l :: ls := by
  rw [plainTail, if_pos h]

theorem plainTail_go (h : (d = 0 && stopsAt set l) = false) :
    plainTail set d (l :: ls) =
      if l.isMark .leftParen then plainTail (set && !(d = 0 && l.isKeyword .SET)) (d + 1) ls
      else if l.isMark .rightParen then plainTail (set && !(d = 0 && l.isKeyword .SET)) (d - 1) ls
      else plainTail (set && !(d = 0 && l.isKeyword .SET)) d ls := by
  rw [plainTail, if_neg (by simp [h])]

theorem plainTail_left (h : l.isMark .leftParen) :
    plainTail set d (l :: ls) = plainTail set (d + 1) ls := by
  have hword := Lexeme.keyword?_of_isMark h
  have hset : l.isKeyword .SET = false := by simp [Lexeme.isKeyword, hword]
  have ht : l.token = .mark .leftParen := of_decide_eq_true h
  have hstop : stopsAt set l = false := by
    simp [stopsAt, Lexeme.isMark, ht, Lexeme.startsStatement, hword]
  rw [plainTail_go (by simp [hstop]), if_pos h, hset, Bool.and_false, Bool.not_false, Bool.and_true]

theorem plainTail_right_succ (h : l.isMark .rightParen) :
    plainTail set (d + 1) (l :: ls) = plainTail set d ls := by
  rw [plainTail_go (by simp), if_neg (by simp [not_isMark_left h]), if_pos h]
  simp

theorem plainTail_other_succ (hl : l.NoParen) :
    plainTail set (d + 1) (l :: ls) = plainTail set (d + 1) ls := by
  rw [plainTail_go (by simp), if_neg (by simp [hl.1]), if_neg (by simp [hl.2])]
  simp

/-- Inside parentheses a plain scan only counts, so it goes on behind the one that closes them. -/
theorem plainTail_closeParen (set : Bool) (d : Nat) : ∀ (j : Nat) (ls : List Lexeme),
    plainTail set (d + j + 1) ls = plainTail set d (closeParen j ls)
  | _, [] => by rw [plainTail, closeParen, plainTail]
  | j, l :: ls => by
    by_cases hleft : l.isMark .leftParen
    · rw [plainTail_left hleft, closeParen_left hleft, ← plainTail_closeParen set d (j + 1) ls]
      rfl
    · by_cases hright : l.isMark .rightParen
      · rw [plainTail_right_succ hright]
        cases j with
        | zero => rw [closeParen_right hright, Nat.add_zero]
        | succ j =>
          rw [closeParen_right_succ hright, ← plainTail_closeParen set d j ls]
          rfl
      · rw [Bool.not_eq_true] at hleft hright
        rw [plainTail_other_succ ⟨hleft, hright⟩, closeParen_other hleft hright,
          plainTail_closeParen set d j ls]

/-! ## The scan of a statement -/

/-- Outside of every `CASE`, the scan stops where the plain scan does. -/
theorem endsAt_eq {state : Scanning} (h : state.cases = 0) (inUpdate : Bool) (l : Lexeme) :
    state.endsAt inUpdate l =
      (state.depth = 0 && stopsAt (inUpdate && !state.setSeen) l) := by
  simp [Scanning.endsAt, stopsAt, h, Bool.and_assoc]

/-- The scan that was started at `s` has come to `u` outside of every `CASE`, and a plain scan from
there, with what the scan knows of parentheses and of `SET`, stops where one from `s` does. -/
structure StaysWith (inUpdate : Bool) (s : Cursor) (state : Scanning) (u : Cursor) : Prop where
  cases : state.cases = 0
  reaches : s.Reaches u
  plain : plainTail (inUpdate && !state.setSeen) state.depth u.rest = plainTail inUpdate 0 s.rest

namespace StaysWith

variable {inUpdate : Bool} {s u : Cursor} {state : Scanning} (h : StaysWith inUpdate s state u)

include h

theorem rest_of_nil (hu : u.rest = []) : [] = plainTail inUpdate 0 s.rest := by
  rw [← h.plain, hu, plainTail]

theorem rest_of_endsAt (hu : u.rest = l :: ls) (hstop : state.endsAt inUpdate l) :
    l :: ls = plainTail inUpdate 0 s.rest := by
  rw [endsAt_eq h.cases] at hstop
  rw [← h.plain, hu, plainTail_stop hstop]

/-- The scan keeps in mind that it has passed a `SET`, and the plain scan that none is left. -/
theorem plain_cons (hu : u.rest = l :: ls) (hstop : state.endsAt inUpdate l = false) :
    (if l.isMark .leftParen then
      plainTail (inUpdate && !(state.setSeen || (state.depth = 0 && l.isKeyword .SET)))
        (state.depth + 1) ls
    else if l.isMark .rightParen then
      plainTail (inUpdate && !(state.setSeen || (state.depth = 0 && l.isKeyword .SET)))
        (state.depth - 1) ls
    else plainTail (inUpdate && !(state.setSeen || (state.depth = 0 && l.isKeyword .SET)))
      state.depth ls) = plainTail inUpdate 0 s.rest := by
  rw [endsAt_eq h.cases] at hstop
  rw [← h.plain, hu, plainTail_go hstop, Bool.not_or, Bool.and_assoc]

end StaysWith

section

variable (cx : Context) {deeper : Nat → Parser Expr} (hdeeper : ∀ m, Reads (deeper m) Expr.vars)
  {s : Cursor}

include hdeeper

/-- The scan of one item passes one lexeme, or a cast up to where its parenthesis is closed. -/
theorem ends_scanItem_exact (found : List Expr) (hs : s.rest = l :: ls)
    (hcollations : CollationsAre Lexeme.NoParen s.rest) :
    Ends (scanItem cx deeper found) s
      (fun _ t => t.rest = ls ∨
        ∃ p ms, ls = p :: ms ∧ p.isMark .leftParen ∧ t.rest = closeParen 0 ms)
      fun _ _ => False := by
  rw [Ends, scanItem_cons cx deeper found hs]
  cases l.variableHere? with
  | some v => exact .inl rfl
  | none =>
    by_cases hopens : opensParen ls
    · by_cases hiif : l.isKeyword .IIF
      · simp only [hopens, hiif, if_true]
        exact .inl rfl
      · simp only [hopens, hiif, if_true, Bool.false_eq_true, if_false]
        cases castKind? l with
        | none => exact .inl rfl
        | some kind =>
          obtain ⟨p, ms, rfl, hp⟩ : ∃ p ms, ls = p :: ms ∧ p.isMark .leftParen := by
            cases ls with
            | nil => simp [opensParen] at hopens
            | cons p ms => exact ⟨p, ms, rfl, by simpa [opensParen] using hopens⟩
          have hcast := ends_takeCast_exact cx hdeeper kind hs hcollations
          simp only
          cases hrun : takeCast cx deeper kind s with
          | ok e t => exact .inr ⟨p, ms, rfl, hp, hcast.ok hrun⟩
          | error e t => exact .inl rfl
    · simp only [hopens]
      exact .inl rfl

/-- However an item is passed, a plain scan goes on from there as it does behind one lexeme. -/
theorem ends_scanItem_plainTail (found : List Expr) (hs : s.rest = l :: ls)
    (hcollations : CollationsAre Lexeme.NoParen s.rest) :
    Ends (scanItem cx deeper found) s
      (fun _ t => ∀ set d, plainTail set d t.rest = plainTail set d ls) fun _ _ => False := by
  refine (ends_scanItem_exact cx hdeeper found hs hcollations).mono (fun _ t ht => ?_)
    fun _ _ h => h
  intro set d
  rcases ht with ht | ⟨p, ms, rfl, hp, ht⟩
  · rw [ht]
  · rw [ht, plainTail_left hp]
    exact (plainTail_closeParen set d 0 ms).symm

/-- One round stays with the plain scan, and the last one stops with it. -/
theorem ends_scanRound_staysWith (inUpdate : Bool) {state : Scanning} {u : Cursor}
    (hs : ∀ l ∈ s.rest, l.isKeyword .CASE = false ∧ l.isKeyword .COLLATE = false)
    (h : StaysWith inUpdate s state u) :
    Ends (scanRound cx deeper inUpdate state) u
      (fun o v => match o with
        | none => s.Reaches v ∧ v.rest = plainTail inUpdate 0 s.rest
        | some next => StaysWith inUpdate s next v ∧ v.rest.length < u.rest.length)
      fun _ _ => False := by
  rw [scanRound, ends_bind, ends_ahead]
  cases hu : u.rest with
  | nil => exact ⟨h.reaches, hu.trans (h.rest_of_nil hu)⟩
  | cons l rest =>
    have hpast := h.reaches.trans (Cursor.reaches_moveTo_cons hu)
    have hshort : rest.length < (l :: rest).length := Nat.lt_succ_self _
    simp only
    split
    · next hstop => exact ⟨h.reaches, hu.trans (h.rest_of_endsAt hu hstop)⟩
    · next hstop =>
      have hplain := h.plain_cons hu (by simpa using hstop)
      split
      · next hleft =>
        rw [if_pos hleft] at hplain
        rw [ends_bind, ends_advance_one hu]
        exact ⟨⟨h.cases, hpast, hplain⟩, hshort⟩
      · next hleft =>
        rw [if_neg hleft] at hplain
        split
        · next hright =>
          rw [if_pos hright] at hplain
          rw [ends_bind, ends_advance_one hu]
          exact ⟨⟨h.cases, hpast, hplain⟩, hshort⟩
        · next hright =>
          rw [if_neg hright] at hplain
          have hmem : l ∈ s.rest := h.reaches.suffix.subset (by rw [hu]; exact List.mem_cons_self)
          have hcollations : CollationsAre Lexeme.NoParen u.rest :=
            .of_forall_not fun k hk => (hs k (h.reaches.suffix.subset hk)).2
          -- neither a `CASE` nor the `END` of one, so what is left is the scan of an item
          rw [if_neg (by simp [(hs l hmem).1]), if_neg (by simp [h.cases]), ends_bind]
          refine ((ends_scanItem cx hdeeper state.found hu hleft hright).and
            (ends_scanItem_plainTail cx hdeeper state.found hu hcollations)).mono
            (fun found v hv => ?_) fun _ _ h => h.1
          obtain ⟨⟨hlt, ws, hwalk, -⟩, hsame⟩ := hv
          exact ⟨⟨h.cases, h.reaches.trans hwalk.reaches, (hsame _ _).trans hplain⟩, hu ▸ hlt⟩

/-- The scan of what is left of a statement ends where the plain scan does. -/
theorem ends_fragmentTail_place (inUpdate : Bool)
    (hs : ∀ l ∈ s.rest, l.isKeyword .CASE = false ∧ l.isKeyword .COLLATE = false) :
    Ends (fragmentTail cx deeper inUpdate) s
      (fun _ t => t.place = ⟨plainTail inUpdate 0 s.rest, s.overrun⟩) fun _ _ => False := by
  have hdone : ∀ {u : Cursor}, s.Reaches u → u.rest = plainTail inUpdate 0 s.rest →
      u.place = ⟨plainTail inUpdate 0 s.rest, s.overrun⟩ :=
    fun hreach hrest => congr (congrArg Place.mk hrest) hreach.overrun
  rw [fragmentTail, ends_bind]
  refine ends_repeatWhile (I := StaysWith inUpdate s) ⟨rfl, .refl s, by simp⟩ (fun state u hu => ?_)
    fun state u hu hend => hdone hu.reaches (hend.trans (hu.rest_of_nil hend))
  refine (ends_scanRound_staysWith cx hdeeper inUpdate hs hu).mono (fun o v hv => ?_) fun _ _ h => h
  cases o with
  | none => exact hdone hv.1 hv.2
  | some next => exact hv

end

/-- **Collecting casts does not move the end of a statement.**

Without `CASE` and `COLLATE`, the scan of an unmodelled statement does not fail and stops where the
plain scan does, for whatever version and with however many levels left for the casts in it. -/
theorem fragment_place (cx : Context) (levels : Nat) {s : Cursor}
    (hs : ∀ l ∈ s.rest, l.isKeyword .CASE = false ∧ l.isKeyword .COLLATE = false) :
    ∃ items t, fragment cx (expr cx levels) s = .ok items t ∧
      t.place = ⟨plainScan s.rest, s.overrun⟩ := by
  refine Ends.exists_ok (Q := fun _ t => t.place = ⟨plainScan s.rest, s.overrun⟩) ?_
  rw [fragment, ends_bind, ends_ahead]
  cases hrest : s.rest with
  | nil => exact congrArg (Place.mk · s.overrun) hrest
  | cons l rest =>
    rw [hrest] at hs
    simp only
    rw [ends_bind, ends_advance_one hrest, ends_bind]
    exact ends_fragmentTail_place cx (reads_expr cx levels) _
      fun k hk => hs k (List.mem_cons_of_mem l hk)

/-- `UPDATE t SET a = CAST(f(SELECT 1) AS int), b = CAST(@y)` before `SET @x = 1`: the first cast is
read, with a key word in it that would begin a statement, and the second one is scanned. -/
theorem fragment_place_update :
    let ls : List Lexeme := [⟨.word "UPDATE" none, 1, true⟩, ⟨.word "t" none, 1, false⟩,
      ⟨.word "SET" none, 1, false⟩, ⟨.word "a" none, 1, false⟩, ⟨.mark .eq, 1, false⟩,
      ⟨.word "CAST" none, 1, false⟩, ⟨.mark .leftParen, 1, false⟩, ⟨.word "f" none, 1, false⟩,
      ⟨.mark .leftParen, 1, false⟩, ⟨.word "SELECT" none, 1, false⟩, ⟨.number "1" false, 1, false⟩,
      ⟨.mark .rightParen, 1, false⟩, ⟨.word "AS" none, 1, false⟩, ⟨.word "int" none, 1, false⟩,
      ⟨.mark .rightParen, 1, false⟩, ⟨.mark .comma, 1, false⟩, ⟨.word "b" none, 1, false⟩,
      ⟨.mark .eq, 1, false⟩, ⟨.word "CAST" none, 1, false⟩, ⟨.mark .leftParen, 1, false⟩,
      ⟨.word "@y" none, 1, false⟩, ⟨.mark .rightParen, 1, false⟩]
    let rest : List Lexeme := [⟨.word "SET" none, 2, true⟩, ⟨.word "@x" none, 2, false⟩,
      ⟨.mark .eq, 2, false⟩, ⟨.number "1" false, 2, false⟩]
    ∃ items t, fragment ⟨.sql2014, 2⟩ (expr ⟨.sql2014, 2⟩ 8) ⟨ls ++ rest, []⟩ = .ok items t ∧
      t.place = ⟨plainScan (ls ++ rest), 0⟩ ∧ plainScan (ls ++ rest) = rest := by
  intro ls rest
  obtain ⟨items, t, hrun, hplace⟩ :=
    fragment_place ⟨.sql2014, 2⟩ 8 (s := ⟨ls ++ rest, []⟩) (by decide)
  exact ⟨items, t, hrun, hplace, rfl⟩

end Parser

end SqlLint
