import SqlLint.Proofs.Syntax.Renumber
import SqlLint.Token.Batch

/-!
# Where a script is split

A separator is found by looking at the lexemes behind it, so a script cannot be split piece by piece
in general: whether a `GO` at the end of one piece is a separator depends on what the next piece
begins with. It does not if the next piece begins on another line, and the look behind a separator
never reaches further than the next line. This gives two laws of splitting.

* A separator on a line of its own, all of whose neighbours stand on other lines, cuts a script into
  two that are split independently of each other.
* Lines are only ever compared for equality. Other numbers for the lines give the same split if no
  two lines get the same one.

## Main results

* `Split.ofLexemes_append_separator`: splitting at one separator
* `Split.ofLexemes_renumber`: splitting a script with other numbers for its lines
-/

namespace SqlLint

namespace Split

/-- One split behind another, with a separator between them. -/
def append (s : Split) (separator : List Lexeme) (t : Split) : Split :=
  ⟨s.first, s.rest ++ (separator, t.first) :: t.rest⟩

theorem batches_append (s : Split) (separator : List Lexeme) (t : Split) :
    (s.append separator t).batches = s.batches ++ t.batches := by
  simp [append, batches]

theorem cons_append (l : Lexeme) (s : Split) (separator : List Lexeme) (t : Split) :
    cons l (s.append separator t) = (cons l s).append separator t := rfl

theorem cut_append (separator : List Lexeme) (s : Split) (separator' : List Lexeme) (t : Split) :
    cut separator (s.append separator' t) = (cut separator s).append separator' t := rfl

/-! ## Step by step -/

theorem ofLexemes_of_ends {l : Lexeme} {ls : List Lexeme} (h : isGo l && endsLine l.line ls) :
    ofLexemes (l :: ls) = cut [l] (ofLexemes ls) := by
  rw [ofLexemes.eq_def]
  exact if_pos h

theorem ofLexemes_of_count {l n : Lexeme} {ns : List Lexeme}
    (h : ¬(isGo l && endsLine l.line (n :: ns)))
    (hcount : isGo l && n.isNumber && endsLine l.line ns) :
    ofLexemes (l :: n :: ns) = cut [l, n] (ofLexemes ns) := by
  rw [ofLexemes.eq_def]
  exact (if_neg h).trans (if_pos hcount)

theorem ofLexemes_of_not {l n : Lexeme} {ns : List Lexeme}
    (h : ¬(isGo l && endsLine l.line (n :: ns)))
    (hcount : ¬(isGo l && n.isNumber && endsLine l.line ns)) :
    ofLexemes (l :: n :: ns) = cons l (ofLexemes (n :: ns)) := by
  rw [ofLexemes.eq_def]
  exact (if_neg h).trans (if_neg hcount)

/-! ## At a separator -/

/-- What begins on another line ends a line as the end of the script does. -/
theorem endsLine_append {line : Nat} {ls : List Lexeme} {g : Lexeme} (h : g.line ≠ line)
    (rest : List Lexeme) : endsLine line (ls ++ g :: rest) = endsLine line ls := by
  cases ls with
  | nil => simp [endsLine, h]
  | cons l ls => rfl

theorem ofLexemes_append_separator {A B : List Lexeme} {g : Lexeme} (hgo : isGo g)
    (hA : ∀ l ∈ A, g.line ≠ l.line) (hB : endsLine g.line B) :
    ofLexemes (A ++ g :: B) = (ofLexemes A).append [g] (ofLexemes B) := by
  have hcut : ofLexemes (g :: B) = cut [g] (ofLexemes B) := ofLexemes_of_ends (by simp [hgo, hB])
  fun_induction ofLexemes A with
  | case1 => exact hcut
  | case2 l ls hends ih =>
    rw [← endsLine_append (hA l List.mem_cons_self) B] at hends
    rw [List.cons_append, ofLexemes_of_ends hends, ih fun k hk => hA k (List.mem_cons_of_mem l hk),
      cut_append]
  | case3 l hends =>
    have hword : isGo l = false := by simpa [endsLine] using hends
    rw [List.singleton_append, ofLexemes_of_not (by simp [hword]) (by simp [hword]), hcut]
    rfl
  | case4 l n ns hcount hends ih =>
    have hns : ∀ k ∈ ns, g.line ≠ k.line := fun k hk =>
      hA k (List.mem_cons_of_mem l (List.mem_cons_of_mem n hk))
    rw [← endsLine_append (hA l List.mem_cons_self) B] at hends hcount
    rw [List.cons_append] at hends
    rw [List.cons_append, List.cons_append, ofLexemes_of_count hends hcount, ih hns, cut_append]
  | case5 l n ns hcount hends ih =>
    rw [← endsLine_append (hA l List.mem_cons_self) B] at hends hcount
    rw [List.cons_append] at hends
    rw [List.cons_append, List.cons_append, ofLexemes_of_not hends hcount, ← List.cons_append,
      ih fun k hk => hA k (List.mem_cons_of_mem l hk), cons_append]

/-! ## Other numbers for lines -/

/-- The split with other numbers for its lines. -/
def renumber (f : Nat → Nat) (s : Split) : Split where
  first := s.first.map (Lexeme.renumber f)
  rest := s.rest.map fun part =>
    (part.1.map (Lexeme.renumber f), part.2.map (Lexeme.renumber f))

theorem batches_renumber (f : Nat → Nat) (s : Split) :
    (s.renumber f).batches = s.batches.map (List.map (Lexeme.renumber f)) := by
  simp [batches, renumber]

/-- No two lines of a script get the same number. -/
def Separates (f : Nat → Nat) (ls : List Lexeme) : Prop :=
  ∀ k ∈ ls, ∀ l ∈ ls, f k.line = f l.line → k.line = l.line

variable {f : Nat → Nat}

theorem Separates.of_subset {ls ms : List Lexeme} (h : Separates f ls) (hms : ms ⊆ ls) :
    Separates f ms :=
  fun k hk l hl => h k (hms hk) l (hms hl)

theorem endsLine_renumber {l : Lexeme} {ls : List Lexeme} (h : Separates f (l :: ls)) :
    endsLine (f l.line) (ls.map (Lexeme.renumber f)) = endsLine l.line ls := by
  cases ls with
  | nil => rfl
  | cons n ns =>
    have hsame : f n.line = f l.line ↔ n.line = l.line :=
      ⟨h n (by simp) l (by simp), congrArg f⟩
    simp [endsLine, hsame]

theorem ofLexemes_renumber {ls : List Lexeme} (h : Separates f ls) :
    ofLexemes (ls.map (Lexeme.renumber f)) = (ofLexemes ls).renumber f := by
  -- the tests that decide the first step, of the list and of the renumbered one
  have hends : ∀ {l : Lexeme} {ls : List Lexeme}, Separates f (l :: ls) →
      (isGo (l.renumber f) && endsLine (l.renumber f).line (ls.map (Lexeme.renumber f))) =
        (isGo l && endsLine l.line ls) :=
    fun h => congrArg (isGo _ && ·) (endsLine_renumber h)
  have hcount : ∀ {l n : Lexeme} {ns : List Lexeme}, Separates f (l :: n :: ns) →
      (isGo (l.renumber f) && (n.renumber f).isNumber &&
        endsLine (l.renumber f).line (ns.map (Lexeme.renumber f))) =
        (isGo l && n.isNumber && endsLine l.line ns) :=
    fun {l n ns} h => congrArg (isGo l && n.isNumber && ·)
      (endsLine_renumber (h.of_subset (List.cons_subset_cons l (List.subset_cons_self n ns))))
  fun_induction ofLexemes ls with
  | case1 => rfl
  | case2 l ls hl ih =>
    rw [← hends h] at hl
    rw [List.map_cons, ofLexemes_of_ends hl, ih (h.of_subset (List.subset_cons_self l ls))]
    rfl
  | case3 l hl =>
    rw [← hends h] at hl
    rw [List.map_cons, ofLexemes.eq_def]
    exact if_neg hl
  | case4 l n ns hn hl ih =>
    have hns := h.of_subset fun k hk => List.mem_cons_of_mem l (List.mem_cons_of_mem n hk)
    rw [← hends h] at hl
    rw [← hcount h] at hn
    rw [List.map_cons, List.map_cons, ofLexemes_of_count hl hn, ih hns]
    rfl
  | case5 l n ns hn hl ih =>
    rw [← hends h] at hl
    rw [← hcount h] at hn
    rw [List.map_cons, List.map_cons, ofLexemes_of_not hl hn, ← List.map_cons,
      ih (h.of_subset (List.subset_cons_self l _))]
    rfl

end Split

end SqlLint
