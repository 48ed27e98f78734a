import SqlLint.Text.Ascii
import SqlLint.Text.LowerCase

/-!
# Lower case is final

A text in lower case has no other lower case: the mapping does nothing when it is applied again.
The rule for the final sigma looks at what stands around a capital sigma, but there is none left
after the first time, so the second time every character counts by itself. What has to be shown is
that the image of a character is never moved again. Among the characters of the table this is a
fact about pairs of runs: no run ends up where another one begins.

Up to ASCII case, texts in lower case are therefore equal only if they are the same text. For texts
that are in ASCII to begin with, comparing up to case and comparing lower cases come to the same.
And a text begins with the sign `@` exactly if its lower case does, since no other character is
mapped to that sign.

## Main results

* `lowerCase_lowerCase`: a text in lower case is its own lower case
* `equalFold_lowerCase`: two texts in lower case, compared up to ASCII case
* `equalFold_of_toNat_lt`: two texts in ASCII, compared up to case
* `head?_lowerChars`: a text in lower case that begins with the sign `@`
-/

namespace SqlLint.Text

/-! ## Runs -/

namespace CaseRun

/-- Whether no character that `r` maps to is moved by `s`: their ranges do not meet, or `s` moves
every second character only and those that `r` maps to stand between them. -/
def isApart (r s : CaseRun) : Bool :=
  Nat.blt (r.image + (r.last - r.first)) s.first || Nat.blt s.last r.image ||
    ((Nat.beq r.step 2 || Nat.beq r.first r.last) && Nat.beq s.step 2 &&
      !Nat.beq (r.image % 2) (s.first % 2))

theorem covers_of_isApart {r s : CaseRun} {n : Nat} (h : r.isApart s) (hn : r.covers n) :
    s.covers (r.image + (n - r.first)) = false := by
  rw [Bool.eq_false_iff]
  intro hs
  simp only [isApart, Nat.blt_eq, Nat.beq_eq, Bool.or_eq_true, Bool.and_eq_true,
    Bool.not_eq_true', ← Bool.not_eq_true, covers, decide_eq_true_eq] at h hn hs
  obtain ⟨⟨hfirst, hlast⟩, hstep⟩ := hn
  obtain ⟨⟨hfirst', hlast'⟩, hstep'⟩ := hs
  obtain (hbefore | hbehind) | ⟨⟨hr, hs⟩, hodd⟩ := h
  · omega
  · omega
  · rw [hs] at hstep'
    rcases hr with hr | hr
    · rw [hr] at hstep
      omega
    · omega

end CaseRun

theorem isApart_lowerRuns : ∀ r ∈ lowerRuns, ∀ s ∈ lowerRuns, r.isApart s := by
  have hall : (lowerRuns.all fun r => lowerRuns.all fun s => r.isApart s) = true := by
    decide +kernel
  simpa using hall

/-- The capital I with a dot is not in the table. -/
theorem isApart_dottedI : ∀ r ∈ lowerRuns, r.isApart ⟨0x130, 0x130, 1, 0x130⟩ := by
  decide +kernel

/-- Every run ends up at the small letters of ASCII or further on. -/
theorem le_image_lowerRuns : ∀ r ∈ lowerRuns, 97 ≤ r.image := by
  decide +kernel

/-! ## Characters -/

theorem toNat_toLower_of_toNat_lt {c : Char} (h : c.toNat < 0x80) :
    c.toLower.toNat < 0x80 ∧ c.toLower.toLower = c.toLower := by
  have hall : ∀ n < 0x80, (Char.ofNat n).toLower.toNat < 0x80 ∧
      (Char.ofNat n).toLower.toLower = (Char.ofNat n).toLower := by decide
  simpa using hall c.toNat h

theorem lowerChar_of_toNat_lt {c : Char} (h : c.toNat < 0x80) : lowerChar c = [c.toLower] :=
  if_pos h

theorem lowerChar_toLower {c : Char} (h : c.toNat < 0x80) : lowerChar c.toLower = [c.toLower] := by
  obtain ⟨hascii, hlower⟩ := toNat_toLower_of_toNat_lt h
  rw [lowerChar_of_toNat_lt hascii, hlower]

theorem toNat_ofNat (n : Nat) : (Char.ofNat n).toNat = n ∨ Char.ofNat n = '\x00' := by
  by_cases hvalid : n.isValidChar
  · exact .inl (by rw [Char.ofNat, dif_pos hvalid]; rfl)
  · exact .inr (dif_neg hvalid)

theorem toLower_of_le_toNat {c : Char} (h : 97 ≤ c.toNat) : c.toLower = c := by
  refine dif_neg fun hcapital => ?_
  have hle : c.toNat ≤ 90 := hcapital.2
  omega

theorem lowerChar_eq_self {c : Char} (hletter : c.toLower = c) (hdotted : c ≠ 'İ')
    (hruns : ∀ r ∈ lowerRuns, r.covers c.toNat = false) : lowerChar c = [c] := by
  have hmap : CaseRun.map lowerRuns c = c := by
    have hnone : lowerRuns.find? (fun run => run.covers c.toNat) = none := by
      simpa using hruns
    rw [CaseRun.map, hnone]
  rw [lowerChar, hletter, if_neg hdotted, hmap, ite_self]

/-- What a run makes of a character is not moved again. -/
theorem lowerChar_image {r : CaseRun} {n : Nat} (hr : r ∈ lowerRuns) (hn : r.covers n) :
    lowerChar (Char.ofNat (r.image + (n - r.first))) = [Char.ofNat (r.image + (n - r.first))] := by
  rcases toNat_ofNat (r.image + (n - r.first)) with htoNat | hnull
  · have hle := le_image_lowerRuns r hr
    refine lowerChar_eq_self (toLower_of_le_toNat (by omega)) (fun hdotted => ?_) fun s hs => ?_
    · have happart := CaseRun.covers_of_isApart (isApart_dottedI r hr) hn
      rw [← htoNat, hdotted] at happart
      revert happart
      decide
    · rw [htoNat]
      exact CaseRun.covers_of_isApart (isApart_lowerRuns r hr s hs) hn
  · rw [hnull]
    rfl

/-- All that a character can be mapped to: its small letter in ASCII, one of the two characters for
the dotted I, what a run makes of it, or itself. -/
theorem mem_lowerChar_cases {c x : Char} (h : x ∈ lowerChar c) :
    (c.toNat < 0x80 ∧ x = c.toLower) ∨ x ∈ ['i', '\u0307'] ∨
      (∃ r ∈ lowerRuns, r.covers c.toNat ∧ x = Char.ofNat (r.image + (c.toNat - r.first))) ∨
      (x = c ∧ lowerChar c = [c]) := by
  by_cases hascii : c.toNat < 0x80
  · rw [lowerChar_of_toNat_lt hascii, List.mem_singleton] at h
    exact .inl ⟨hascii, h⟩
  · by_cases hdotted : c = 'İ'
    · rw [lowerChar, if_neg hascii, if_pos hdotted] at h
      exact .inr (.inl h)
    · rw [lowerChar, if_neg hascii, if_neg hdotted, List.mem_singleton] at h
      cases hfind : lowerRuns.find? fun run => run.covers c.toNat with
      | some r =>
        have hcovers := List.find?_some hfind
        rw [CaseRun.map, hfind] at h
        exact .inr (.inr (.inl ⟨r, List.mem_of_find?_eq_some hfind, hcovers, h⟩))
      | none =>
        rw [CaseRun.map, hfind] at h
        refine .inr (.inr (.inr ⟨h, ?_⟩))
        rw [lowerChar, if_neg hascii, if_neg hdotted, CaseRun.map, hfind]

/-- The image of a character is not moved again. -/
theorem lowerChar_of_mem {c x : Char} (h : x ∈ lowerChar c) : lowerChar x = [x] := by
  obtain ⟨hascii, rfl⟩ | hdotted | ⟨r, hr, hcovers, rfl⟩ | ⟨rfl, hself⟩ := mem_lowerChar_cases h
  · exact lowerChar_toLower hascii
  · rw [List.mem_cons, List.mem_singleton] at hdotted
    rcases hdotted with rfl | rfl
    · decide +kernel
    · decide +kernel
  · exact lowerChar_image hr hcovers
  · exact hself

/-! ## Texts -/

theorem mem_lowerChars {before cs : List Char} {x : Char} (h : x ∈ lowerChars before cs) :
    lowerChar x = [x] := by
  induction cs generalizing before with
  | nil => simp [lowerChars] at h
  | cons c cs ih =>
    rcases List.mem_append.1 h with hx | hx
    · split at hx
      · split at hx
        · rw [List.mem_singleton.1 hx]
          decide +kernel
        · rw [List.mem_singleton.1 hx]
          decide +kernel
      · exact lowerChar_of_mem hx
    · exact ih hx

/-- Where nothing is moved, the rule for the final sigma has nothing to say either. -/
theorem lowerChars_eq_self {cs : List Char} (h : ∀ c ∈ cs, lowerChar c = [c])
    (before : List Char) : lowerChars before cs = cs := by
  induction cs generalizing before with
  | nil => rfl
  | cons c cs ih =>
    rw [List.forall_mem_cons] at h
    have hsigma : c ≠ 'Σ' := by
      rintro rfl
      have hmoved : lowerChar 'Σ' ≠ ['Σ'] := by decide +kernel
      exact hmoved h.1
    rw [lowerChars, if_neg hsigma, h.1, ih h.2]
    rfl

@[simp] theorem toList_lowerCase (s : String) : (lowerCase s).toList = lowerChars [] s.toList := by
  simp [lowerCase]

/-- **A text in lower case is its own lower case.** -/
@[simp] theorem lowerCase_lowerCase (s : String) : lowerCase (lowerCase s) = lowerCase s := by
  rw [← String.toList_inj, toList_lowerCase (lowerCase s), toList_lowerCase]
  exact lowerChars_eq_self (fun _ => mem_lowerChars) []

/-! ## Comparisons -/

/-- Small letters come back from their capitals, and everything that has no capital stays. -/
theorem toLower_toUpper {c : Char} (h : lowerChar c = [c]) : c.toUpper.toLower = c := by
  by_cases hascii : c.toNat < 0x80
  · have hall : ∀ n < 0x80, (Char.ofNat n).toLower = Char.ofNat n →
        (Char.ofNat n).toUpper.toLower = Char.ofNat n := by decide
    rw [lowerChar_of_toNat_lt hascii, List.singleton_inj] at h
    have hback := hall c.toNat hascii
    rw [Char.ofNat_toNat] at hback
    exact hback h
  · have hupper : c.toUpper = c := by
      refine dif_neg fun hsmall => ?_
      have hle : c.toNat ≤ 122 := hsmall.2
      omega
    rw [hupper, toLower_of_le_toNat (by omega)]

/-- **Texts in lower case that are equal up to ASCII case are the same text.** -/
theorem equalFold_lowerCase (s t : String) :
    equalFold (lowerCase s) (lowerCase t) = (lowerCase s == lowerCase t) := by
  have hback : ∀ s : String, ((lowerCase s).toList.map Char.toUpper).map Char.toLower =
      (lowerCase s).toList := by
    intro s
    rw [List.map_map, toList_lowerCase]
    exact (List.map_congr_left fun c hc => toLower_toUpper (mem_lowerChars hc)).trans
      (List.map_id _)
  rw [Bool.eq_iff_iff, equalFold, beq_iff_eq, beq_iff_eq]
  constructor
  · intro h
    rw [← String.toList_inj, ← hback s, h, hback t]
  · intro h
    rw [h]

theorem lowerChars_of_toNat_lt {cs : List Char} (h : ∀ c ∈ cs, c.toNat < 0x80)
    (before : List Char) : lowerChars before cs = cs.map Char.toLower := by
  induction cs generalizing before with
  | nil => rfl
  | cons c cs ih =>
    rw [List.forall_mem_cons] at h
    have hsigma : c ≠ 'Σ' := by
      rintro rfl
      exact absurd h.1 (by decide)
    rw [lowerChars, if_neg hsigma, lowerChar_of_toNat_lt h.1, ih h.2]
    rfl

/-- **Within ASCII, texts are equal up to case exactly if their lower cases are the same text.** -/
theorem equalFold_of_toNat_lt {s t : String} (hs : ∀ c ∈ s.toList, c.toNat < 0x80)
    (ht : ∀ c ∈ t.toList, c.toNat < 0x80) :
    equalFold s t = (lowerCase s == lowerCase t) := by
  -- Each of the two cases of a character can be read off the other one.
  have hboth : ∀ c : Char, c.toNat < 0x80 →
      c.toLower = c.toUpper.toLower ∧ c.toUpper = c.toLower.toUpper := by
    have hall : ∀ n < 0x80, (Char.ofNat n).toLower = (Char.ofNat n).toUpper.toLower ∧
        (Char.ofNat n).toUpper = (Char.ofNat n).toLower.toUpper := by decide
    intro c hc
    have hcases := hall c.toNat hc
    rwa [Char.ofNat_toNat] at hcases
  have hlower : ∀ s : String, (∀ c ∈ s.toList, c.toNat < 0x80) →
      (lowerCase s).toList = (s.toList.map Char.toUpper).map Char.toLower := by
    intro s hs
    rw [toList_lowerCase, lowerChars_of_toNat_lt hs, List.map_map]
    exact List.map_congr_left fun c hc => (hboth c (hs c hc)).1
  have hupper : ∀ s : String, (∀ c ∈ s.toList, c.toNat < 0x80) →
      s.toList.map Char.toUpper = (lowerCase s).toList.map Char.toUpper := by
    intro s hs
    rw [toList_lowerCase, lowerChars_of_toNat_lt hs, List.map_map]
    exact List.map_congr_left fun c hc => (hboth c (hs c hc)).2
  rw [Bool.eq_iff_iff, equalFold, beq_iff_eq, beq_iff_eq]
  constructor
  · intro h
    rw [← String.toList_inj, hlower s hs, hlower t ht, h]
  · intro h
    rw [hupper s hs, hupper t ht, h]

/-- No other character is mapped to the sign. -/
theorem eq_at_of_mem_lowerChar {c : Char} (h : '@' ∈ lowerChar c) : c = '@' := by
  obtain ⟨hascii, hletter⟩ | hdotted | ⟨r, hr, -, himage⟩ | ⟨hself, -⟩ := mem_lowerChar_cases h
  · have hall : ∀ n < 0x80, '@' = (Char.ofNat n).toLower → Char.ofNat n = '@' := by decide
    simpa [← hletter] using hall c.toNat hascii
  · exact absurd hdotted (by decide)
  · have hle := le_image_lowerRuns r hr
    rcases toNat_ofNat (r.image + (c.toNat - r.first)) with htoNat | hnull
    · rw [← himage] at htoNat
      have hat : '@'.toNat = 64 := rfl
      omega
    · exact absurd (himage.trans hnull) (by decide)
  · exact hself.symm

theorem lowerChar_ne_nil (c : Char) : lowerChar c ≠ [] := by
  unfold lowerChar
  split
  · exact List.cons_ne_nil _ _
  · split <;> exact List.cons_ne_nil _ _

theorem lowerChars_at (before cs : List Char) :
    lowerChars before ('@' :: cs) = '@' :: lowerChars ('@' :: before) cs := rfl

/-- A text begins with the sign exactly if its lower case does. -/
theorem head?_lowerChars (before cs : List Char) :
    (lowerChars before cs).head? = some '@' ↔ cs.head? = some '@' := by
  cases cs with
  | nil => rfl
  | cons c cs =>
    by_cases hat : c = '@'
    · subst hat
      simp [lowerChars_at]
    · refine iff_of_false (fun h => ?_) (by simpa using hat)
      simp only [lowerChars] at h
      split at h
      · split at h <;> simp at h
      · obtain ⟨x, xs, himage⟩ := List.exists_cons_of_ne_nil (lowerChar_ne_nil c)
        rw [himage, List.cons_append, List.head?_cons, Option.some.injEq] at h
        exact hat (eq_at_of_mem_lowerChar (by simp [himage, h]))

end SqlLint.Text
