import SqlLint.Proofs.Parse.ExprWalk
import SqlLint.Proofs.Parse.Fence

/-!
# Where a parenthesis is closed

What stands behind an opening parenthesis can be read as a list of expressions or scanned, and the
two need not agree on anything but where they end: at the closing parenthesis. `closeParen` says
where that is, counting parentheses and looking at nothing else.

## Regular lexemes

The name of a collation is any lexeme. If it is a parenthesis, the reader of an expression passes it
without opening or closing anything, while a scan counts it, and the two end at different places.
Nobody writes such a thing, and `CollationsAre Lexeme.NoParen` excludes it; nothing else is asked
for here. `Regular` also excludes plain words with characters beyond ASCII, on which the two tests
for key words can differ.

## Main results

* `Cursor.Walks.closeParen_eq`, `Cursor.Walks.depthAfter_eq`: a walk leaves the count as it was
* `exists_closeParen_append`: a parenthesis that is opened and closed in the middle of a list
* `ends_parenFragment_exact`, `ends_callArguments_exact`, `ends_takeCast_exact`: readers that end
  where the parenthesis is closed
-/

namespace SqlLint

/-- The lexeme is no plain word, or one that is made of ASCII characters. -/
def Lexeme.IsAscii (l : Lexeme) : Prop :=
  ∀ text, l.token.plainWord? = some text → ∀ c ∈ text.toList, c.toNat < 128

/-- The two tests for key words agree. -/
theorem Lexeme.IsAscii.dispatch?_eq {l : Lexeme} (h : l.IsAscii) : l.dispatch? = l.keyword? := by
  unfold Lexeme.dispatch? Lexeme.keyword?
  cases htext : l.token.plainWord? with
  | none => rfl
  | some text =>
    have hchar : ∀ c ∈ text.toList, Text.upperChar c = [c.toUpper] :=
      fun c hc => if_pos (h text htext c hc)
    have hupper : text.toList.flatMap Text.upperChar = text.toList.map Char.toUpper := by
      rw [List.map_eq_flatMap, List.flatMap_def, List.flatMap_def, List.map_congr_left hchar]
    exact congrArg Keyword.ofSpelling? hupper

/-- Plain words are made of ASCII characters, and no collation is a parenthesis. -/
structure Regular (ls : List Lexeme) : Prop where
  ascii : ∀ l ∈ ls, l.IsAscii
  collation : ∀ k l rest, k :: l :: rest <:+ ls → k.isKeyword .COLLATE →
    l.isMark .leftParen = false ∧ l.isMark .rightParen = false

namespace Regular

variable {ls ms : List Lexeme}

theorem of_suffix (h : Regular ls) (hms : ms <:+ ls) : Regular ms where
  ascii l hl := h.ascii l (hms.subset hl)
  collation k l rest hrest := h.collation k l rest (hrest.trans hms)

theorem of_append_left (h : Regular (ls ++ ms)) : Regular ls where
  ascii l hl := h.ascii l (List.mem_append_left ms hl)
  collation k l rest hrest := by
    obtain ⟨before, rfl⟩ := hrest
    exact h.collation k l (rest ++ ms) ⟨before, by simp⟩

theorem tail {l : Lexeme} (h : Regular (l :: ls)) : Regular ls :=
  h.of_suffix (List.suffix_cons l ls)

theorem dispatch?_eq (h : Regular ls) {l : Lexeme} (hl : l ∈ ls) : l.dispatch? = l.keyword? :=
  (h.ascii l hl).dispatch?_eq

end Regular

namespace Parser

/-! ## Counting parentheses -/

/-- What follows the parenthesis that closes the innermost one open before `ls`, `d` more having
been opened in it; nothing if there is none. -/
def closeParen : Nat → List Lexeme → List Lexeme
  | _, [] => []
  | d, l :: ls =>
    if l.isMark .leftParen then closeParen (d + 1) ls
    else if l.isMark .rightParen then if d = 0 then ls else closeParen (d - 1) ls
    else closeParen d ls

/-- The parentheses open behind `ls`, `d` being open before it; none if more are closed than
opened. -/
def depthAfter : Nat → List Lexeme → Option Nat
  | d, [] => some d
  | d, l :: ls =>
    if l.isMark .leftParen then depthAfter (d + 1) ls
    else if l.isMark .rightParen then if d = 0 then none else depthAfter (d - 1) ls
    else depthAfter d ls

variable {l : Lexeme} {ls : List Lexeme} {d : Nat}

theorem not_isMark_left (h : l.isMark .rightParen) : l.isMark .leftParen = false := by
  simp_all [Lexeme.isMark]

theorem closeParen_left (h : l.isMark .leftParen) :
    closeParen d (l :: ls) = closeParen (d + 1) ls := by
  rw [closeParen, if_pos h]

theorem closeParen_right (h : l.isMark .rightParen) : closeParen 0 (l :: ls) = ls := by
  simp [closeParen, not_isMark_left h, h]

theorem closeParen_right_succ (h : l.isMark .rightParen) :
    closeParen (d + 1) (l :: ls) = closeParen d ls := by
  simp [closeParen, not_isMark_left h, h]

theorem closeParen_other (hl : l.isMark .leftParen = false) (hr : l.isMark .rightParen = false) :
    closeParen d (l :: ls) = closeParen d ls := by
  simp [closeParen, hl, hr]

theorem closeParen_suffix : ∀ (d : Nat) (ls : List Lexeme), closeParen d ls <:+ ls
  | _, [] => List.suffix_refl _
  | d, l :: ls => by
    rw [closeParen]
    split
    · exact (closeParen_suffix (d + 1) ls).trans (List.suffix_cons l ls)
    · split
      · split
        · exact List.suffix_cons l ls
        · exact (closeParen_suffix (d - 1) ls).trans (List.suffix_cons l ls)
      · exact (closeParen_suffix d ls).trans (List.suffix_cons l ls)

theorem depthAfter_left (h : l.isMark .leftParen) :
    depthAfter d (l :: ls) = depthAfter (d + 1) ls := by
  rw [depthAfter, if_pos h]

theorem depthAfter_right_succ (h : l.isMark .rightParen) :
    depthAfter (d + 1) (l :: ls) = depthAfter d ls := by
  simp [depthAfter, not_isMark_left h, h]

theorem depthAfter_other (hl : l.isMark .leftParen = false) (hr : l.isMark .rightParen = false) :
    depthAfter d (l :: ls) = depthAfter d ls := by
  simp [depthAfter, hl, hr]

/-- A parenthesis that is open in the middle of a list in which all are closed again is closed in
that list. -/
theorem exists_closeParen_append (rest : List Lexeme) : ∀ (ls : List Lexeme) {j d : Nat},
    depthAfter (d + j + 1) ls = some 0 →
      ∃ ms, closeParen j (ls ++ rest) = ms ++ rest ∧ depthAfter d ms = some 0 ∧
        ms.length < ls.length
  | [], j, d, h => by simp [depthAfter] at h
  | l :: ls, j, d, h => by
    have hshort : ∀ {ms : List Lexeme}, ms.length < ls.length → ms.length < (l :: ls).length :=
      fun hms => Nat.lt_succ_of_lt hms
    rw [List.cons_append]
    by_cases hleft : l.isMark .leftParen
    · rw [depthAfter_left hleft] at h
      obtain ⟨ms, hms, hdepth, hlt⟩ := exists_closeParen_append rest ls (j := j + 1) h
      exact ⟨ms, by rw [closeParen_left hleft, hms], hdepth, hshort hlt⟩
    · by_cases hright : l.isMark .rightParen
      · rw [depthAfter_right_succ hright] at h
        cases j with
        | zero => exact ⟨ls, closeParen_right hright, h, Nat.lt_succ_self _⟩
        | succ j =>
          obtain ⟨ms, hms, hdepth, hlt⟩ := exists_closeParen_append rest ls (j := j) h
          exact ⟨ms, by rw [closeParen_right_succ hright, hms], hdepth, hshort hlt⟩
      · rw [Bool.not_eq_true] at hleft hright
        rw [depthAfter_other hleft hright] at h
        obtain ⟨ms, hms, hdepth, hlt⟩ := exists_closeParen_append rest ls h
        exact ⟨ms, by rw [closeParen_other hleft hright, hms], hdepth, hshort hlt⟩

end Parser

/-! ## Walks -/

open SqlLint.Parser

/-- What a count of parentheses has to do to be left as it was by a walk. -/
structure CountsParens {α : Type} (count : Nat → List Lexeme → α) : Prop where
  left : ∀ {d l ls}, l.isMark .leftParen → count d (l :: ls) = count (d + 1) ls
  right : ∀ {d l ls}, l.isMark .rightParen → count (d + 1) (l :: ls) = count d ls
  other : ∀ {d l ls}, l.isMark .leftParen = false → l.isMark .rightParen = false →
    count d (l :: ls) = count d ls

theorem countsParens_closeParen : CountsParens closeParen :=
  ⟨closeParen_left, closeParen_right_succ, closeParen_other⟩

theorem countsParens_depthAfter : CountsParens depthAfter :=
  ⟨depthAfter_left, depthAfter_right_succ, depthAfter_other⟩

/-- A count over a walk and what follows it goes on behind the walk, with the parentheses that the
walk has left open. -/
theorem Walk.count_append {α : Type} {count : Nat → List Lexeme → α} (hcount : CountsParens count)
    {n : Nat} {ls : List Lexeme} {vs : List Variable} (h : Walk n ls vs) :
    ∀ (rest : List Lexeme) (d : Nat), CollationsAre Lexeme.NoParen (ls ++ rest) →
      count d (ls ++ rest) = count (d + n) rest := by
  induction h with
  | start => exact fun _ _ _ => rfl
  | skip _ hl ih =>
    intro rest d hrest
    rw [List.append_assoc] at hrest ⊢
    rw [ih _ d hrest, List.singleton_append, hcount.other hl.noLeft hl.noRight]
  | @keep _ _ _ l _ _ hv ih =>
    intro rest d hrest
    have hparen : ∀ m, l.isMark m = false := by
      intro m
      rw [Bool.eq_false_iff]
      intro hm
      rw [Lexeme.variableHere?_of_isMark hm] at hv
      cases hv
    rw [List.append_assoc] at hrest ⊢
    rw [ih _ d hrest, List.singleton_append, hcount.other (hparen _) (hparen _)]
  | opening _ hl ih =>
    intro rest d hrest
    rw [List.append_assoc] at hrest ⊢
    rw [ih _ d hrest, List.singleton_append, hcount.left hl, Nat.add_assoc]
  | closing _ hl ih =>
    intro rest d hrest
    rw [List.append_assoc] at hrest ⊢
    rw [ih _ d hrest, List.singleton_append, ← Nat.add_assoc, hcount.right hl]
  | @collation _ _ _ k l _ hk ih =>
    intro rest d hrest
    rw [List.append_assoc] at hrest ⊢
    have hplain := Lexeme.isPlain_of_isKeyword hk
    obtain ⟨hleft, hright⟩ := hrest k l rest (List.suffix_append _ _) hk
    rw [ih _ d hrest]
    change count _ (k :: l :: rest) = _
    rw [hcount.other hplain.noLeft hplain.noRight, hcount.other hleft hright]

namespace Cursor

variable {n : Nat} {vs : List Variable} {s t : Cursor}

theorem Walks.closeParen_eq (h : s.Walks n vs t) (hs : CollationsAre Lexeme.NoParen s.rest)
    (d : Nat) : closeParen d s.rest = closeParen (d + n) t.rest := by
  obtain ⟨m, ls, hls, hwalk, hm⟩ := h.walk
  rw [hls] at hs ⊢
  rw [hwalk.count_append countsParens_closeParen _ d hs]
  rcases hm with rfl | hend
  · rfl
  · simp [hend, closeParen]

/-- A walk that does not end with the batch passes a list in which as many parentheses are left
open as it says. -/
theorem Walks.depthAfter_eq (h : s.Walks n vs t) (hs : CollationsAre Lexeme.NoParen s.rest)
    (ht : t.rest ≠ []) : ∃ ls, s.rest = ls ++ t.rest ∧ depthAfter 0 ls = some n := by
  obtain ⟨m, ls, hls, hwalk, hm⟩ := h.walk
  rw [hls] at hs
  have hdepth := hwalk.count_append countsParens_depthAfter [] 0
    ((List.append_nil ls).symm ▸ hs.of_append_left)
  refine ⟨ls, hls, ?_⟩
  rw [← List.append_nil ls, hdepth, hm.resolve_right ht, depthAfter, Nat.zero_add]

/-- Behind the closing parenthesis that comes next. -/
theorem Walks.closed {l : Lexeme} {rest : List Lexeme} (h : s.Walks 0 vs t)
    (hs : CollationsAre Lexeme.NoParen s.rest) (ht : t.rest = l :: rest)
    (hl : l.isMark .rightParen) : rest = closeParen 0 s.rest := by
  rw [h.closeParen_eq hs 0, ht, closeParen_right hl]

end Cursor

/-! ## Readers that close a parenthesis -/

namespace Parser

section

variable (cx : Context) {deeper : Nat → Parser Expr} (hdeeper : ∀ m, Reads (deeper m) Expr.vars)
  {s t : Cursor}

theorem ends_expect_exact {α : Type} (a : α) {vs : List Variable} (h : s.Walks 0 vs t)
    (hs : CollationsAre Lexeme.NoParen s.rest) :
    Ends (do expect cx .rightParen; return a) t (fun _ u => u.rest = closeParen 0 s.rest)
      fun _ u => s.Reaches u := by
  rw [ends_bind]
  exact ends_demand cx _ (fun _ _ ht hl => h.closed hs ht hl) fun _ => h.reaches

include hdeeper

/-- In the middle of the scan, as many parentheses are open as it has counted. -/
theorem ends_parenFragment_exact (hs : CollationsAre Lexeme.NoParen s.rest) :
    Ends (parenFragment cx deeper) s (fun _ t => t.rest = closeParen 0 s.rest)
      fun _ _ => False := by
  rw [parenFragment, ends_bind]
  refine ends_repeatWhile
    (I := fun state u => s.Reaches u ∧ closeParen state.1 u.rest = closeParen 0 s.rest)
    ⟨.refl s, rfl⟩ (fun state u hu => ?_) fun state u hu hend => ?_
  · obtain ⟨d, found⟩ := state
    obtain ⟨hreach, hclose⟩ := hu
    cases hrest : u.rest with
    | nil =>
      rw [hrest] at hclose
      rw [Ends, parenRound_nil cx deeper _ hrest]
      exact hrest.trans hclose
    | cons l rest =>
      have hpast := hreach.trans (Cursor.reaches_moveTo_cons hrest)
      have hshort : rest.length < (l :: rest).length := Nat.lt_succ_self _
      simp only [hrest] at hclose
      refine ends_parenRound cx hrest (fun hleft => ?_) (fun hright hd => ?_)
        (fun hright e hd => ?_) fun hleft hright => ?_
      · rw [closeParen_left hleft] at hclose
        exact ⟨⟨hpast, hclose⟩, hshort⟩
      · rw [hd, closeParen_right hright] at hclose
        exact hclose
      · rw [hd, closeParen_right_succ hright] at hclose
        exact ⟨⟨hpast, hclose⟩, hshort⟩
      · refine (ends_scanItem cx hdeeper found hrest hleft hright).mono
          (fun found' v hv => ?_) fun _ _ h => h
        obtain ⟨hlt, ws, hwalk, -⟩ := hv
        refine ⟨⟨hreach.trans hwalk.reaches, ?_⟩, hrest ▸ hlt⟩
        rw [← hclose, ← hrest]
        exact (hwalk.closeParen_eq (hs.of_suffix hreach.suffix) d).symm
  · obtain ⟨-, hclose⟩ := hu
    rw [hend] at hclose
    exact hend.trans hclose

theorem ends_listOrQuery_exact (hs : CollationsAre Lexeme.NoParen s.rest) :
    Ends (listOrQuery cx deeper) s (fun _ t => t.rest = closeParen 0 s.rest)
      fun _ t => s.Reaches t := by
  rw [listOrQuery, ends_bind, ends_ahead]
  split
  · exact (ends_parenFragment_exact cx hdeeper hs).mono (fun _ _ h => h) fun _ _ h => h.elim
  · refine (reads_commaSeparated (hdeeper 0)).bind (.refl s) fun items t ht => ?_
    exact ends_expect_exact cx _ ht hs

/-- However the arguments of a call are read in the end, that is where the call is closed. -/
theorem ends_callArguments_exact (hs : CollationsAre Lexeme.NoParen s.rest) :
    Ends (callArguments cx deeper) s (fun _ t => t.rest = closeParen 0 s.rest)
      fun _ _ => False := by
  rw [callArguments]
  refine ends_bind_eatIf (fun l rest hrest hright => ?_) ?_
  · exact (Cursor.Walks.refl s).closed hs hrest hright
  · rw [if_neg (by decide), ends_bind, ends_ahead, ends_tryCatch]
    refine (ends_listOrQuery_exact cx hdeeper hs).mono (fun _ _ h => h) fun _ u _ => ?_
    rw [ends_bind, ends_moveTo]
    exact ends_parenFragment_exact cx hdeeper (s := u.moveTo s.rest) hs

theorem ends_takeCastInside_exact (kind : CastKind) (hs : CollationsAre Lexeme.NoParen s.rest) :
    Ends (takeCastInside cx deeper kind) s (fun _ t => t.rest = closeParen 0 s.rest)
      fun _ _ => True := by
  have hcast : ∀ kind, Ends (castInside cx deeper kind) s
      (fun _ t => t.rest = closeParen 0 s.rest) fun _ t => s.Reaches t := by
    intro kind
    rw [castInside]
    refine (hdeeper 0).bind (.refl s) fun operand t ht => ?_
    refine (passes_expectKeyword cx .AS).bind ht fun _ t ht => ?_
    refine (passes_takeTypeRef cx).bind ht fun target t ht => ?_
    exact ends_expect_exact cx _ ht hs
  have hconvert : ∀ kind, Ends (convertInside cx deeper kind) s
      (fun _ t => t.rest = closeParen 0 s.rest) fun _ t => s.Reaches t := by
    intro kind
    rw [convertInside]
    refine (passes_takeTypeRef cx).bind (.refl s) fun target t ht => ?_
    refine (passes_expect cx (by decide) (by decide)).bind ht fun _ t ht => ?_
    refine (hdeeper 0).bind ht fun operand t ht => ?_
    refine (passes_eat (m := .comma) (by decide) (by decide)).bind ht fun comma t ht => ?_
    split
    · refine (hdeeper 0).bind ht fun style t ht => ?_
      exact ends_expect_exact cx _ ht hs
    · exact ends_expect_exact cx _ ht hs
  cases kind with
  | cast => exact (hcast .cast).mono (fun _ _ h => h) fun _ _ _ => trivial
  | tryCast => exact (hcast .tryCast).mono (fun _ _ h => h) fun _ _ _ => trivial
  | convert => exact (hconvert .convert).mono (fun _ _ h => h) fun _ _ _ => trivial
  | tryConvert => exact (hconvert .tryConvert).mono (fun _ _ h => h) fun _ _ _ => trivial

/-- A cast ends where the parenthesis behind its key word is closed. -/
theorem ends_takeCast_exact (kind : CastKind) {l p : Lexeme} {ls : List Lexeme}
    (hs : s.rest = l :: p :: ls) (hcollations : CollationsAre Lexeme.NoParen s.rest) :
    Ends (takeCast cx deeper kind) s (fun _ t => t.rest = closeParen 0 ls) fun _ _ => True := by
  rw [takeCast, ends_bind]
  refine ends_requireCast cx kind ?_ fun _ => trivial
  rw [ends_bind, ends_advance_one hs, ends_bind]
  refine ends_demand cx _ (fun k rest hrest _ => ?_) fun _ => trivial
  obtain ⟨rfl, rfl⟩ := List.cons.inj (show p :: ls = k :: rest from hrest)
  rw [hs] at hcollations
  exact ends_takeCastInside_exact cx hdeeper kind (s := (s.moveTo (p :: ls)).moveTo ls)
    hcollations.tail.tail

end

end Parser

end SqlLint
