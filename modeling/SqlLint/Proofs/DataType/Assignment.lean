import Mathlib
import SqlLint.DataType.Assignment

/-!
# Assignments between integers and strings

The checks of assignments compare numbers that stand for sets of values: the bytes of an integer
type for its range, and the number of characters written next to a type for the longest of its
values. Here these numbers are tied to the values themselves. An integer goes into another integer
type without a remark if and only if every value of its type is in the range of the other one, and
into a string if and only if every value can be written in the string's length.

An integer takes at most `k + 1` characters if and only if it lies strictly between `-10 ^ k` and
`10 ^ (k + 1)`, since a sign takes the place of a digit. The longest value of a signed type is
therefore its least one, and that of `tinyint` its greatest.

## Main definitions

* `BaseType.range`: the values of an integer type
* `BaseType.writtenLengths`: the lengths that these values are written in

## Main results

* `BaseType.range_subset_iff`: ranges and widths of integer types
* `BaseType.isGreatest_renderedLength`: values and written lengths of integer types
* `assignmentDiagnostics_exact`: the remarks on assignments between integers and strings
-/

namespace SqlLint

/-! ## Written integers -/

/-- The characters of an integer, its sign included. -/
theorem length_toString_le {k : Nat} (hk : 0 < k) (n : Int) :
    (toString n).length ≤ k + 1 ↔ -10 ^ k < n ∧ n < 10 ^ (k + 1) := by
  rw [Int.toString_eq_repr]
  have hcast : ∀ e : Nat, ((10 ^ e : Nat) : Int) = 10 ^ e := fun e => Int.natCast_pow 10 e
  have hpos : ∀ e : Nat, 0 < 10 ^ e := fun e => Nat.pow_pos (by decide)
  have hk' := hpos k
  rw [← hcast, ← hcast]
  cases n with
  | ofNat m =>
    change m.repr.length ≤ k + 1 ↔ _
    rw [Nat.length_repr_le_iff (Nat.succ_pos k), Int.ofNat_eq_natCast]
    omega
  | negSucc m =>
    change ("-" ++ m.succ.repr).length ≤ k + 1 ↔ _
    rw [String.length_append, show "-".length = 1 from rfl, Nat.add_comm 1,
      Nat.add_le_add_iff_right, Nat.length_repr_le_iff hk, Int.negSucc_eq]
    omega

theorem length_toString_le_of_mem_Icc {k : Nat} (hk : 0 < k) {low high : Int}
    (hlow : -10 ^ k < low) (hhigh : high < 10 ^ (k + 1)) :
    ∀ n ∈ Set.Icc low high, (toString n).length ≤ k + 1 := by
  intro n hn
  exact (length_toString_le hk n).2 ⟨Int.lt_of_lt_of_le hlow hn.1, Int.lt_of_le_of_lt hn.2 hhigh⟩

namespace BaseType

/-! ## Values of integer types -/

/-- The values of an integer type: `tinyint` has eight bits and no sign, and the others are two's
complement numbers of 16, 32 and 64 bits. -/
def range : BaseType → Set Int
  | tinyInt => Set.Icc 0 255
  | smallInt => Set.Icc (-2 ^ 15) (2 ^ 15 - 1)
  | int => Set.Icc (-2 ^ 31) (2 ^ 31 - 1)
  | bigInt => Set.Icc (-2 ^ 63) (2 ^ 63 - 1)
  | _ => ∅

/-- The integer types are ordered by their width. -/
theorem range_subset_iff {source target : BaseType} (hsource : source.isInteger)
    (htarget : target.isInteger) :
    source.range ⊆ target.range ↔ source.integerWidth ≤ target.integerWidth := by
  cases source <;> cases hsource <;> cases target <;> cases htarget <;>
    · simp only [range]
      rw [Set.Icc_subset_Icc_iff (by decide)]
      decide

/-- The lengths that the values of an integer type are written in. -/
def writtenLengths (b : BaseType) : Set Nat := Set.image (fun n => (toString n).length) b.range

/-- The length that is noted for an integer type is that of its longest value. -/
theorem isGreatest_renderedLength {b : BaseType} {needed : Nat}
    (h : b.renderedLength? = some needed) : IsGreatest b.writtenLengths needed := by
  have hgreatest : ∀ longest ∈ b.range, (toString longest).length = needed →
      (∀ n ∈ b.range, (toString n).length ≤ needed) → IsGreatest b.writtenLengths needed :=
    fun longest hmem hlength hle => ⟨⟨longest, hmem, hlength⟩, Set.forall_mem_image.2 hle⟩
  cases b <;> cases h
  · exact hgreatest 255 (Set.right_mem_Icc.2 (by decide)) (by decide)
      (length_toString_le_of_mem_Icc (by decide) (by decide) (by decide))
  · exact hgreatest (-2 ^ 15) (Set.left_mem_Icc.2 (by decide)) (by decide)
      (length_toString_le_of_mem_Icc (by decide) (by decide) (by decide))
  · exact hgreatest (-2 ^ 31) (Set.left_mem_Icc.2 (by decide)) (by decide)
      (length_toString_le_of_mem_Icc (by decide) (by decide) (by decide))
  · exact hgreatest (-2 ^ 63) (Set.left_mem_Icc.2 (by decide)) (by decide)
      (length_toString_le_of_mem_Icc (by decide) (by decide) (by decide))

theorem exists_renderedLength? {b : BaseType} (h : b.isInteger) :
    ∃ needed, b.renderedLength? = some needed := by
  cases b <;> cases h <;> exact ⟨_, rfl⟩

end BaseType

/-! ## Assignments -/

section

variable (line : Nat) (name : String) {source target : BaseType} (size room : Length)

theorem assignmentDiagnostics_integer (hsource : source.isInteger) (htarget : target.isInteger) :
    assignmentDiagnostics line name (.known target room) (.known source size) =
      if source.integerWidth ≤ target.integerWidth then []
      else [.numericOverflow line name (DataType.known target room).text
        (DataType.known source size).text] := by
  cases source <;> cases hsource <;> cases target <;> cases htarget <;> rfl

theorem assignmentDiagnostics_rendered (hsource : source.isInteger) (htarget : target.isString) :
    assignmentDiagnostics line name (.known target room) (.known source size) =
      renderedRemark line name room.resolved source := by
  have houtcome : source.convert target = .checkConvertedLength := by
    cases source <;> cases hsource <;> cases target <;> cases htarget <;> rfl
  simp +decide [assignmentDiagnostics, houtcome]

theorem assignmentDiagnostics_string (hsource : source.isString) (htarget : target.isString) :
    assignmentDiagnostics line name (.known target room) (.known source size) =
      (if room.resolved < size.resolved then
        [.stringTruncated line name room.resolved size.resolved] else []) ++
      if source.isWideString ∧ ¬target.isWideString then [.stringConverted line name] else [] := by
  by_cases hnarrows : source.isWideString ∧ ¬target.isWideString
  · have houtcome : source.convert target = Conversion.checkLength.union .narrowing := by
      simp [BaseType.convert, hsource, htarget, hnarrows]
    rw [if_pos hnarrows]
    simp +decide [assignmentDiagnostics, houtcome]
  · have houtcome : source.convert target = .checkLength := by
      simpa [BaseType.convert, hsource, htarget] using
        fun hwide hnarrow => absurd ⟨hwide, by simp [hnarrow]⟩ hnarrows
    rw [if_neg hnarrows]
    simp +decide [assignmentDiagnostics, houtcome]

theorem assignmentDiagnostics_lossy (hsource : source.isWideString) (htarget : target.isInteger) :
    assignmentDiagnostics line name (.known target room) (.known source size) =
      [.implicitConversion line name (DataType.known target room).text
        (DataType.known source size).text] := by
  cases source <;> cases hsource <;> cases target <;> cases htarget <;> rfl

end

/-- The remark on a written integer is missing if and only if every value of its type can be written
in the length. -/
theorem renderedRemark_eq_nil_iff (line : Nat) (name : String) (room : Nat) {source : BaseType}
    {needed : Nat} (h : source.renderedLength? = some needed) :
    renderedRemark line name room source = [] ↔
      ∀ n ∈ source.range, (toString n).length ≤ room := by
  have hle : needed ≤ room ↔ ∀ n ∈ source.range, (toString n).length ≤ room := by
    rw [isLUB_le_iff (BaseType.isGreatest_renderedLength h).isLUB, mem_upperBounds]
    exact Set.forall_mem_image
  rw [← hle, renderedRemark, h]
  simp

/-- **The remarks on assignments between integers and strings are exact**, whatever the declared
lengths. Between integers nothing is said if and only if all values of the source are values of the
target, and between an integer and a string if and only if all values can be written in the target's
length; otherwise there is one remark. Between strings, a shorter target and the loss of wide
characters are remarked on in this order. A wide string in an integer always draws a remark. -/
theorem assignmentDiagnostics_exact (line : Nat) (name : String) (source target : BaseType)
    (size room : Length) :
    let found := assignmentDiagnostics line name (.known target room) (.known source size)
    let sourceText := (DataType.known source size).text
    let targetText := (DataType.known target room).text
    (source.isInteger → target.isInteger →
      (found = [] ↔ ∀ n ∈ source.range, n ∈ target.range) ∧
        (found ≠ [] → found = [.numericOverflow line name targetText sourceText])) ∧
    (source.isInteger → target.isString →
      (found = [] ↔ ∀ n ∈ source.range, (toString n).length ≤ room.resolved) ∧
        (found ≠ [] → ∃ needed, IsGreatest source.writtenLengths needed ∧
          found = [.convertToShortString line name room.resolved needed])) ∧
    (source.isString → target.isString → found =
      (if room.resolved < size.resolved then
        [.stringTruncated line name room.resolved size.resolved] else []) ++
      if source.isWideString ∧ ¬target.isWideString then [.stringConverted line name] else []) ∧
    (source.isWideString → target.isInteger →
      found = [.implicitConversion line name targetText sourceText]) := by
  intro found sourceText targetText
  refine ⟨fun hsource htarget => ?_, fun hsource htarget => ?_,
    assignmentDiagnostics_string line name size room,
    assignmentDiagnostics_lossy line name size room⟩
  · have hfound : found = _ := assignmentDiagnostics_integer line name size room hsource htarget
    have hrange := BaseType.range_subset_iff hsource htarget
    rw [hfound]
    by_cases hwidth : source.integerWidth ≤ target.integerWidth
    · rw [if_pos hwidth]
      exact ⟨iff_of_true rfl (hrange.2 hwidth), fun h => absurd rfl h⟩
    · rw [if_neg hwidth]
      exact ⟨iff_of_false (List.cons_ne_nil _ _) (mt hrange.1 hwidth), fun _ => rfl⟩
  · have hfound : found = _ := assignmentDiagnostics_rendered line name size room hsource htarget
    obtain ⟨needed, hneeded⟩ := BaseType.exists_renderedLength? hsource
    rw [hfound]
    refine ⟨renderedRemark_eq_nil_iff line name room.resolved hneeded, fun hne =>
      ⟨needed, BaseType.isGreatest_renderedLength hneeded, ?_⟩⟩
    rw [renderedRemark, hneeded] at hne ⊢
    exact if_pos (Decidable.of_not_not fun h => hne (if_neg h))

/-- A `smallint` in a `char(5)`, in which the least value does not fit, and in a `tinyint`; a long
wide string in a `varchar`. -/
theorem assignmentDiagnostics_exact_smallint :
    (-32768 ∈ BaseType.smallInt.range ∧ (toString (-32768 : Int)).length = 6 ∧
      (∃ needed, assignmentDiagnostics 1 "@s" (.known .char (.explicit 5))
        (.known .smallInt .implicit) = [.convertToShortString 1 "@s" 5 needed])) ∧
    (-1 ∈ BaseType.smallInt.range ∧ -1 ∉ BaseType.tinyInt.range ∧
      assignmentDiagnostics 2 "@t" (.known .tinyInt .implicit) (.known .smallInt .implicit) =
        [.numericOverflow 2 "@t" "tinyint" "smallint"]) ∧
    assignmentDiagnostics 3 "@v" (.known .varChar .implicit) (.known .nVarChar .max) =
      [.stringTruncated 3 "@v" 1 maxLength, .stringConverted 3 "@v"] := by
  have hleast : -32768 ∈ BaseType.smallInt.range := ⟨by decide, by decide⟩
  have hminus : -1 ∈ BaseType.smallInt.range := ⟨by decide, by decide⟩
  have hnone : -1 ∉ BaseType.tinyInt.range := fun h => absurd h.1 (by decide)
  refine ⟨⟨hleast, by decide, ?_⟩, ⟨hminus, hnone, ?_⟩, ?_⟩
  · have hexact := assignmentDiagnostics_exact 1 "@s" .smallInt .char .implicit (.explicit 5)
    have h := hexact.2.1 rfl rfl
    obtain ⟨needed, -, hfound⟩ := h.2 fun hnil => absurd (h.1.1 hnil _ hleast) (by decide)
    exact ⟨needed, hfound⟩
  · have h := (assignmentDiagnostics_exact 2 "@t" .smallInt .tinyInt .implicit .implicit).1 rfl rfl
    exact h.2 fun hnil => hnone (h.1.1 hnil _ hminus)
  · exact (assignmentDiagnostics_exact 3 "@v" .nVarChar .varChar .max .implicit).2.2.1 rfl rfl

end SqlLint
