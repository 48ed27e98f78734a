import SqlLint.Proofs.Script.Split

/-!
# Every separator, and nothing else

Splitting goes through a script once. It looks at most two lexemes ahead, and moves on by one lexeme
or by the length of the separator it has found. What it gives can be said without the scan: *which*
positions of the script begin a separator is a matter of the lexemes there, and a split is exact if
it takes the script apart at these positions and at no others.

Positions are those of the whole script. Whether a `GO` at the end of a batch is a separator is
decided by what stands behind the batch, so a look at the batch alone would not do.

There is one exact split of a script, and splitting finds it. A separator is one lexeme or two, but
never both at the same position: the number in `GO 5` is on the line of `GO`, and so `GO` alone is
no separator there.

## Main definitions

* `Split.IsSeparator`: a separator before what follows it
* `Split.SeparatorAt`: a separator at a position of a script
* `Split.Exact`: a split takes a script apart at its separators

## Main results

* `Split.exact_cons_iff`, `Split.exact_cut_iff`: what one more lexeme or separator asks of a split
* `Split.splits_exactly`: splitting gives the one exact split
-/

namespace SqlLint

namespace Split

/-- A separator and what follows it: the word `GO` at the start of its line, alone or with a number
on its line, and with nothing else behind it on the line. -/
inductive IsSeparator : List Lexeme → List Lexeme → Prop
  | alone {g : Lexeme} {after : List Lexeme} (hfirst : g.firstOnLine) (hgo : g.isKeyword .GO)
    (hafter : ∀ next ∈ after.head?, next.line ≠ g.line) : IsSeparator [g] after
  | counted {g n : Lexeme} {after : List Lexeme} (hfirst : g.firstOnLine) (hgo : g.isKeyword .GO)
    (hnumber : n.isNumber) (hline : n.line = g.line)
    (hafter : ∀ next ∈ after.head?, next.line ≠ g.line) : IsSeparator [g, n] after

/-- A separator begins at a position of a script. -/
def SeparatorAt (ls : List Lexeme) (position : Nat) (separator : List Lexeme) : Prop :=
  ∃ after, ls.drop position = separator ++ after ∧ IsSeparator separator after

/-- The position at which a batch begins: behind the batch before it and the separator between
them. -/
def batchStart (s : Split) : Nat → Nat
  | 0 => 0
  | i + 1 => s.batchStart i + (s.batches[i]?.getD []).length + (s.separators[i]?.getD []).length

/-- The split takes the script apart at its separators: nothing is lost, a separator stands between
any two batches, it begins where the batch before it ends, and none begins inside a batch. -/
structure Exact (s : Split) (ls : List Lexeme) : Prop where
  restores : s.join = ls
  count : s.batches.length = s.separators.length + 1
  between : ∀ i b separator, s.batches[i]? = some b → s.separators[i]? = some separator →
    SeparatorAt ls (s.batchStart i + b.length) separator
  inside : ∀ i b, s.batches[i]? = some b →
    ∀ j < b.length, ∀ separator, ¬SeparatorAt ls (s.batchStart i + j) separator

/-! ## Positions -/

theorem separatorAt_zero {ls separator : List Lexeme} :
    SeparatorAt (separator ++ ls) 0 separator ↔ IsSeparator separator ls := by
  constructor
  · rintro ⟨after, hdrop, hsep⟩
    rw [List.drop_zero] at hdrop
    rwa [List.append_cancel_left hdrop]
  · exact fun h => ⟨ls, rfl, h⟩

theorem separatorAt_append (ls ms : List Lexeme) (i : Nat) (separator : List Lexeme) :
    SeparatorAt (ls ++ ms) (ls.length + i) separator ↔ SeparatorAt ms i separator := by
  rw [SeparatorAt, ← List.drop_drop, List.drop_left]
  rfl

variable {l : Lexeme} {ls separator : List Lexeme} {s : Split}

theorem batchStart_cons (i : Nat) : (cons l s).batchStart (i + 1) = s.batchStart (i + 1) + 1 := by
  induction i with
  | zero =>
    simp only [batchStart, batches, cons, separators, List.getElem?_cons_zero, Option.getD_some,
      List.length_cons]
    omega
  | succ i ih =>
    rw [batchStart, ih, batchStart.eq_2 s (i + 1)]
    simp only [batches, cons, separators, List.getElem?_cons_succ]
    omega

theorem batchStart_cut (i : Nat) :
    (cut separator s).batchStart (i + 1) = separator.length + s.batchStart i := by
  induction i with
  | zero => simp [batchStart, batches, cut, separators]
  | succ i ih =>
    rw [batchStart, ih, batchStart.eq_2 s i]
    simp only [batches, cut, separators, List.map_cons, List.getElem?_cons_succ]
    omega

/-! ## One more piece -/

theorem join_cut : (cut separator s).join = separator ++ s.join := by
  simp [cut, join]

/-- A lexeme belongs to the first batch exactly if no separator begins with it. -/
theorem exact_cons_iff :
    (cons l s).Exact (l :: ls) ↔
      (∀ separator, ¬SeparatorAt (l :: ls) 0 separator) ∧ s.Exact ls := by
  constructor
  · intro h
    refine ⟨h.inside 0 (l :: s.first) rfl 0 (Nat.succ_pos _), (List.cons.inj h.restores).2,
      h.count, fun i b separator hb hseparator => ?_, fun i b hb j hj separator => ?_⟩
    · cases i with
      | zero =>
        obtain rfl : s.first = b := Option.some.inj hb
        exact h.between 0 (l :: s.first) separator rfl hseparator
      | succ i =>
        have hat := h.between (i + 1) b separator hb hseparator
        rwa [batchStart_cons, Nat.add_right_comm] at hat
    · cases i with
      | zero =>
        obtain rfl : s.first = b := Option.some.inj hb
        exact h.inside 0 (l :: s.first) rfl (j + 1) (Nat.succ_lt_succ hj) separator
      | succ i =>
        have hnot := h.inside (i + 1) b hb j hj separator
        rwa [batchStart_cons, Nat.add_right_comm] at hnot
  · rintro ⟨hl, h⟩
    refine ⟨congrArg (l :: ·) h.restores, h.count, fun i b separator hb hseparator => ?_,
      fun i b hb j hj separator => ?_⟩
    · cases i with
      | zero =>
        obtain rfl : l :: s.first = b := Option.some.inj hb
        exact h.between 0 s.first separator rfl hseparator
      | succ i =>
        rw [batchStart_cons, Nat.add_right_comm]
        exact h.between (i + 1) b separator hb hseparator
    · cases i with
      | zero =>
        obtain rfl : l :: s.first = b := Option.some.inj hb
        cases j with
        | zero => exact hl separator
        | succ j => exact h.inside 0 s.first rfl j (Nat.lt_of_succ_lt_succ hj) separator
      | succ i =>
        rw [batchStart_cons, Nat.add_right_comm]
        exact h.inside (i + 1) b hb j hj separator

/-- A separator stands before a script. -/
theorem exact_cut_iff :
    (cut separator s).Exact (separator ++ ls) ↔ IsSeparator separator ls ∧ s.Exact ls := by
  -- behind the separator, every position is one of the script that follows
  have hat : ∀ i n x, SeparatorAt (separator ++ ls) ((cut separator s).batchStart (i + 1) + n) x ↔
      SeparatorAt ls (s.batchStart i + n) x := by
    intro i n x
    rw [batchStart_cut, Nat.add_assoc, separatorAt_append]
  constructor
  · intro h
    refine ⟨separatorAt_zero.1 (h.between 0 [] separator rfl rfl), ?_, ?_,
      fun i b x hb hx => ?_, fun i b hb j hj x => ?_⟩
    · exact List.append_cancel_left (join_cut.symm.trans h.restores)
    · exact Nat.succ.inj h.count
    · exact (hat i b.length x).1 (h.between (i + 1) b x hb hx)
    · exact fun hx => h.inside (i + 1) b hb j hj x ((hat i j x).2 hx)
  · rintro ⟨hseparator, h⟩
    refine ⟨by rw [join_cut, h.restores], congrArg Nat.succ h.count, fun i b x hb hx => ?_,
      fun i b hb j hj x => ?_⟩
    · cases i with
      | zero =>
        obtain rfl : [] = b := Option.some.inj hb
        obtain rfl : separator = x := Option.some.inj hx
        exact separatorAt_zero.2 hseparator
      | succ i => exact (hat i b.length x).2 (h.between i b x hb hx)
    · cases i with
      | zero =>
        obtain rfl : [] = b := Option.some.inj hb
        exact absurd hj (Nat.not_lt_zero j)
      | succ i => exact fun hx => h.inside i b hb j hj x ((hat i j x).1 hx)

/-! ## Splitting by separators -/

theorem endsLine_iff {line : Nat} : endsLine line ls ↔ ∀ next ∈ ls.head?, next.line ≠ line := by
  cases ls <;> simp [endsLine]

theorem ofLexemes_of_isSeparator (h : IsSeparator separator ls) :
    ofLexemes (separator ++ ls) = cut separator (ofLexemes ls) := by
  cases h with
  | alone hfirst hgo hafter =>
    exact ofLexemes_of_ends (by simp [isGo, hfirst, hgo, endsLine_iff.2 hafter])
  | counted hfirst hgo hnumber hline hafter =>
    exact ofLexemes_of_count (by simp [endsLine, hline])
      (by simp [isGo, hfirst, hgo, hnumber, endsLine_iff.2 hafter])

/-- A lexeme with which no separator begins goes to the first batch. -/
theorem ofLexemes_of_not_separatorAt (h : ∀ separator, ¬SeparatorAt (l :: ls) 0 separator) :
    ofLexemes (l :: ls) = cons l (ofLexemes ls) := by
  have halone : ¬(isGo l && endsLine l.line ls) := by
    intro hl
    simp only [isGo, Bool.and_eq_true, endsLine_iff] at hl
    exact h [l] ⟨ls, rfl, .alone hl.1.1 hl.1.2 hl.2⟩
  cases ls with
  | nil =>
    rw [ofLexemes.eq_def]
    exact if_neg halone
  | cons n ns =>
    refine ofLexemes_of_not halone fun hl => h [l, n] ⟨ns, rfl, ?_⟩
    simp only [isGo, Bool.and_eq_true, endsLine_iff] at hl
    obtain ⟨⟨⟨hfirst, hgo⟩, hnumber⟩, hafter⟩ := hl
    have hline : n.line = l.line := by simpa [isGo, hfirst, hgo, endsLine] using halone
    exact .counted hfirst hgo hnumber hline hafter

theorem IsSeparator.length_pos (h : IsSeparator separator ls) : 0 < separator.length := by
  cases h <;> exact Nat.succ_pos _

theorem exact_nil : (⟨[], []⟩ : Split).Exact [] := by
  refine ⟨rfl, rfl, fun i b x _ hx => ?_, fun i b hb j hj => ?_⟩
  · exact absurd hx (by simp [separators])
  · cases i with
    | zero =>
      obtain rfl : [] = b := Option.some.inj hb
      exact absurd hj (Nat.not_lt_zero j)
    | succ i => exact absurd hb (by simp [batches])

theorem exact_ofLexemes : ∀ ls : List Lexeme, (ofLexemes ls).Exact ls
  | [] => exact_nil
  | l :: ls => by
    by_cases h : ∃ separator, SeparatorAt (l :: ls) 0 separator
    · obtain ⟨separator, after, hdrop, hseparator⟩ := h
      rw [List.drop_zero] at hdrop
      have hshorter : after.length < (l :: ls).length := by
        have := hseparator.length_pos
        rw [hdrop, List.length_append]
        omega
      rw [hdrop, ofLexemes_of_isSeparator hseparator]
      exact exact_cut_iff.2 ⟨hseparator, exact_ofLexemes after⟩
    · rw [not_exists] at h
      rw [ofLexemes_of_not_separatorAt h]
      exact exact_cons_iff.2 ⟨h, exact_ofLexemes ls⟩
termination_by ls => ls.length
decreasing_by
  · exact hshorter
  · exact Nat.lt_succ_self _

/-- There is no other exact split: its first piece tells whether a separator begins the script. -/
theorem Exact.eq_ofLexemes : ∀ (first : List Lexeme) (rest : List (List Lexeme × List Lexeme))
    {ls : List Lexeme}, Exact ⟨first, rest⟩ ls → ⟨first, rest⟩ = ofLexemes ls
  | [], [], _, h => by
    obtain rfl := h.restores
    rfl
  | l :: first, rest, _, h => by
    obtain rfl := h.restores
    have hcons : (cons l ⟨first, rest⟩).Exact (l :: join ⟨first, rest⟩) := h
    obtain ⟨hl, hrest⟩ := exact_cons_iff.1 hcons
    change cons l ⟨first, rest⟩ = ofLexemes (l :: join ⟨first, rest⟩)
    rw [ofLexemes_of_not_separatorAt hl, ← eq_ofLexemes first rest hrest]
  | [], (separator, batch) :: rest, _, h => by
    have hcut : (cut separator ⟨batch, rest⟩).Exact (separator ++ join ⟨batch, rest⟩) := by
      rw [← join_cut, show (cut separator ⟨batch, rest⟩).join = _ from h.restores]
      exact h
    obtain ⟨hseparator, hrest⟩ := exact_cut_iff.1 hcut
    rw [← h.restores]
    change cut separator ⟨batch, rest⟩ = ofLexemes (cut separator ⟨batch, rest⟩).join
    rw [join_cut, ofLexemes_of_isSeparator hseparator, ← eq_ofLexemes batch rest hrest]
termination_by first rest => (rest.length, first.length)

/-- **Splitting loses nothing and finds every separator.** It gives one batch more than there are
separators, and with the separators between them the batches are the script again. Each separator is
one where it stands in the script, and at no position inside a batch does one begin. No other split
of the script is like this. -/
theorem splits_exactly (ls : List Lexeme) :
    (ofLexemes ls).Exact ls ∧ ∀ s : Split, s.Exact ls → s = ofLexemes ls :=
  ⟨exact_ofLexemes ls, fun s h => h.eq_ofLexemes s.first s.rest⟩

end Split

end SqlLint
