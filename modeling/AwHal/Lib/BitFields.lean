import Mathlib.Algebra.Group.Nat.Defs
import Mathlib.Order.Basic

/-!
# Fields of a word

A word of hardware holds several values in fields of its bits.  A value is put into its field by
reading the word, clearing a mask and adding the value; it is read by shifting and masking.  Whether
the two fit, and whether the rest of the word is left alone, is a matter of the mask alone, which is
settled here bit by bit.
-/

namespace AwHal.Lib

variable {w n : Nat}

/-- The bits of `x` are among those of `mask`. -/
def Within (mask x : BitVec w) : Prop :=
  x &&& ~~~mask = 0

instance (mask x : BitVec w) : Decidable (Within mask x) :=
  inferInstanceAs (Decidable (_ = _))

theorem eq_zero_iff_bits {x : BitVec w} : x = 0 ↔ ∀ i < w, x.getLsbD i = false := by
  rw [BitVec.eq_of_getLsbD_eq_iff]
  simp

theorem within_iff {mask x : BitVec w} :
    Within mask x ↔ ∀ i < w, x.getLsbD i = true → mask.getLsbD i = true := by
  unfold Within
  rw [eq_zero_iff_bits]
  refine forall₂_congr fun i hi ↦ ?_
  simp only [BitVec.getLsbD_and, BitVec.getLsbD_not, hi]
  cases x.getLsbD i <;> cases mask.getLsbD i <;> simp

/-- Outside of `fields` the words have the same bits. -/
def AgreesOutside (fields old new : BitVec w) : Prop :=
  ∀ i < w, fields.getLsbD i = false → new.getLsbD i = old.getLsbD i

theorem agreesOutside_refl (fields x : BitVec w) : AgreesOutside fields x x :=
  fun _ _ _ ↦ rfl

/-! ## Writing -/

/-- Read, mask, add. -/
def maskedStore (keep value old : BitVec w) : BitVec w :=
  (old &&& keep) ||| value

/-- The fields hold the value afterwards iff a bit of a field that is not cleared was clear, or is
set by the value. -/
theorem maskedStore_and_fields {fields keep value old : BitVec w} (hv : Within fields value) :
    maskedStore keep value old &&& fields = value ↔
      old &&& (keep &&& fields) &&& ~~~value = 0 := by
  rw [BitVec.eq_of_getLsbD_eq_iff, eq_zero_iff_bits]
  rw [within_iff] at hv
  refine forall₂_congr fun i hi ↦ ?_
  have hi' := hv i hi
  simp only [maskedStore, BitVec.getLsbD_and, BitVec.getLsbD_or, BitVec.getLsbD_not, hi]
  revert hi'
  cases old.getLsbD i <;> cases keep.getLsbD i <;> cases fields.getLsbD i <;>
    cases value.getLsbD i <;> simp

/-- The rest of the word stays iff a bit of it that is cleared was clear. -/
theorem agreesOutside_maskedStore {fields keep lost value old : BitVec w} (hv : Within fields value)
    (hlost : ~~~(keep ||| fields) = lost) :
    AgreesOutside fields old (maskedStore keep value old) ↔ old &&& lost = 0 := by
  rw [eq_zero_iff_bits, ← hlost]
  rw [within_iff] at hv
  refine forall₂_congr fun i hi ↦ ?_
  have hi' := hv i hi
  simp only [maskedStore, BitVec.getLsbD_and, BitVec.getLsbD_or, BitVec.getLsbD_not, hi]
  revert hi'
  cases old.getLsbD i <;> cases keep.getLsbD i <;> cases fields.getLsbD i <;>
    cases value.getLsbD i <;> simp

theorem agreesOutside_of_exact {fields keep value old : BitVec w} (hv : Within fields value)
    (hlost : ~~~(keep ||| fields) = 0) : AgreesOutside fields old (maskedStore keep value old) :=
  (agreesOutside_maskedStore hv hlost).mpr (by simp)

/-! ## Reading -/

/-- Shift, mask, and the rest is dropped. -/
def maskedLoad (n shift : Nat) (mask x : BitVec w) : BitVec n :=
  ((x.sshiftRight shift) &&& mask).setWidth n

theorem Within.and_self {mask x : BitVec w} (h : Within mask x) : x &&& mask = x := by
  rw [within_iff] at h
  refine BitVec.eq_of_getLsbD_eq fun i hi ↦ ?_
  have hi' := h i hi
  rw [BitVec.getLsbD_and]
  revert hi'
  cases x.getLsbD i <;> simp

/-- A value elsewhere does not show in a field. -/
theorem Within.and_eq_zero {mask field x : BitVec w} (h : Within mask x) (hm : mask &&& field = 0) :
    x &&& field = 0 := by
  rw [← h.and_self, BitVec.and_assoc, hm]
  simp

theorem or_and_of_right {mask field x y : BitVec w} (h : Within mask y) (hm : mask &&& field = 0) :
    (x ||| y) &&& field = x &&& field := by
  rw [BitVec.and_comm, BitVec.and_or_distrib_left, BitVec.and_comm field y, h.and_eq_zero hm]
  simp [BitVec.and_comm]

theorem or_and_of_left {mask field x y : BitVec w} (h : Within mask x) (hm : mask &&& field = 0) :
    (x ||| y) &&& field = y &&& field := by
  rw [BitVec.or_comm]
  exact or_and_of_right h hm

theorem Within.or {m₁ m₂ v₁ v₂ : BitVec w} (h₁ : Within m₁ v₁) (h₂ : Within m₂ v₂) :
    Within (m₁ ||| m₂) (v₁ ||| v₂) := by
  rw [within_iff] at h₁ h₂ ⊢
  intro i hi
  simp only [BitVec.getLsbD_or, Bool.or_eq_true]
  exact Or.imp (h₁ i hi) (h₂ i hi)

theorem and_or_eq_zero {x m₁ m₂ : BitVec w} (h₁ : x &&& m₁ = 0) (h₂ : x &&& m₂ = 0) :
    x &&& (m₁ ||| m₂) = 0 := by
  rw [BitVec.and_or_distrib_left, h₁, h₂]
  simp

theorem two_fields {m₁ m₂ v₁ v₂ : BitVec w} (h₁ : Within m₁ v₁) (h₂ : Within m₂ v₂)
    (hm : m₁ &&& m₂ = 0) : (v₁ ||| v₂) &&& m₁ = v₁ ∧ (v₁ ||| v₂) &&& m₂ = v₂ := by
  constructor
  · rw [or_and_of_right h₂ (by rw [BitVec.and_comm, hm]), h₁.and_self]
  · rw [or_and_of_left h₁ hm, h₂.and_self]

theorem three_fields {m₁ m₂ m₃ v₁ v₂ v₃ : BitVec w} (h₁ : Within m₁ v₁) (h₂ : Within m₂ v₂)
    (h₃ : Within m₃ v₃) (h₁₂ : m₁ &&& m₂ = 0) (h₁₃ : m₁ &&& m₃ = 0) (h₂₃ : m₂ &&& m₃ = 0) :
    (v₁ ||| v₂ ||| v₃) &&& m₁ = v₁ ∧ (v₁ ||| v₂ ||| v₃) &&& m₂ = v₂ ∧
      (v₁ ||| v₂ ||| v₃) &&& m₃ = v₃ := by
  have h := two_fields h₁ h₂ h₁₂
  refine ⟨?_, ?_, ?_⟩
  · rw [or_and_of_right h₃ (by rw [BitVec.and_comm, h₁₃]), h.1]
  · rw [or_and_of_right h₃ (by rw [BitVec.and_comm, h₂₃]), h.2]
  · refine (two_fields (h₁.or h₂) h₃ ?_).2
    rw [BitVec.and_comm]
    exact and_or_eq_zero (by rw [BitVec.and_comm, h₁₃]) (by rw [BitVec.and_comm, h₂₃])

def lowOnes (w width : Nat) : BitVec w :=
  (BitVec.allOnes width).setWidth w

theorem getLsbD_lowOnes {width i : Nat} (hi : i < w) :
    (lowOnes w width).getLsbD i = decide (i < width) := by
  simp [lowOnes, hi]

theorem getLsbD_of_fits {width i : Nat} {v : BitVec n} (hv : v.toNat < 2 ^ width) (hi : width ≤ i) :
    v.getLsbD i = false :=
  Nat.testBit_lt_two_pow (Nat.lt_of_lt_of_le hv (Nat.pow_le_pow_right Nat.two_pos hi))

theorem maskedLoad_eq_iff_bits {shift width : Nat} {x : BitVec w} {v : BitVec n}
    (hw : shift + width ≤ w) (hn : width ≤ n) (hv : v.toNat < 2 ^ width) :
    maskedLoad n shift (lowOnes w width) x = v ↔
      ∀ j < width, x.getLsbD (shift + j) = v.getLsbD j := by
  have hbit : ∀ j < width, (maskedLoad n shift (lowOnes w width) x).getLsbD j =
      x.getLsbD (shift + j) := by
    intro j hj
    have hlow : (lowOnes w width).getLsbD j = decide (j < width) := getLsbD_lowOnes (by omega)
    simp only [maskedLoad, BitVec.getLsbD_setWidth, BitVec.getLsbD_and, BitVec.getLsbD_sshiftRight,
      hlow]
    simp [hj, show j < n by omega, show ¬ w ≤ j by omega, show shift + j < w by omega]
  constructor
  · rintro rfl j hj
    exact (hbit j hj).symm
  · intro h
    refine BitVec.eq_of_getLsbD_eq fun j hj ↦ ?_
    by_cases hjw : j < width
    · rw [hbit j hjw, h j hjw]
    · rw [getLsbD_of_fits hv (by omega)]
      by_cases hj' : j < w
      · simp [maskedLoad, getLsbD_lowOnes hj', hjw]
      · simp [maskedLoad, BitVec.getLsbD_of_ge _ j (by omega : w ≤ j)]

theorem getLsbD_shifted {shift j : Nat} {x : BitVec w} (hi : shift + j < w) :
    (x <<< shift).getLsbD (shift + j) = x.getLsbD j := by
  simp only [BitVec.getLsbD_shiftLeft, hi, Nat.add_sub_cancel_left, decide_true, Bool.true_and]
  simp [show ¬ shift + j < shift by omega]

theorem and_shifted_eq_iff_bits {shift width : Nat} {x : BitVec w} {v : BitVec n}
    (hw : shift + width ≤ w) (hv : v.toNat < 2 ^ width) :
    x &&& lowOnes w width <<< shift = v.setWidth w <<< shift ↔
      ∀ j < width, x.getLsbD (shift + j) = v.getLsbD j := by
  have hmask : ∀ j, shift + j < w →
      (x &&& lowOnes w width <<< shift).getLsbD (shift + j) =
        (x.getLsbD (shift + j) && decide (j < width)) := by
    intro j hj
    rw [BitVec.getLsbD_and, getLsbD_shifted hj, getLsbD_lowOnes (by omega)]
  have hvalue : ∀ j, shift + j < w →
      (v.setWidth w <<< shift).getLsbD (shift + j) = v.getLsbD j := by
    intro j hj
    rw [getLsbD_shifted hj, BitVec.getLsbD_setWidth]
    simp [show j < w by omega]
  rw [BitVec.eq_of_getLsbD_eq_iff]
  constructor
  · intro h j hj
    have hbit := h (shift + j) (by omega)
    rw [hmask j (by omega), hvalue j (by omega)] at hbit
    simpa [hj] using hbit
  · intro h i hi
    by_cases his : i < shift
    · simp [his]
    · obtain ⟨j, rfl⟩ : ∃ j, i = shift + j := ⟨i - shift, by omega⟩
      rw [hmask j hi, hvalue j hi]
      by_cases hj : j < width
      · simp [hj, h j hj]
      · simp [hj, getLsbD_of_fits hv (by omega : width ≤ j)]

/-- Values in different fields may be added. -/
theorem add_eq_or_of_within {m₁ m₂ v₁ v₂ : BitVec w} (h₁ : Within m₁ v₁) (h₂ : Within m₂ v₂)
    (hm : m₁ &&& m₂ = 0) : v₁ + v₂ = v₁ ||| v₂ := by
  refine BitVec.add_eq_or_of_and_eq_zero _ _ ?_
  rw [← h₂.and_self, BitVec.and_comm v₂, ← BitVec.and_assoc, h₁.and_eq_zero hm]
  simp

/-- A field is read back iff the word holds the value there. -/
theorem maskedLoad_eq_iff {shift width : Nat} {x : BitVec w} {v : BitVec n}
    (hw : shift + width ≤ w) (hn : width ≤ n) (hv : v.toNat < 2 ^ width) :
    maskedLoad n shift (lowOnes w width) x = v ↔
      x &&& lowOnes w width <<< shift = v.setWidth w <<< shift := by
  rw [maskedLoad_eq_iff_bits hw hn hv, and_shifted_eq_iff_bits hw hv]

theorem within_shifted {shift width : Nat} {mask : BitVec w} {v : BitVec n}
    (hmask : mask = lowOnes w width) (hv : v.toNat < 2 ^ width) :
    Within (mask <<< shift) (v.setWidth w <<< shift) := by
  subst hmask
  rw [within_iff]
  intro i hi h
  by_cases his : i < shift
  · simp [his] at h
  · obtain ⟨j, rfl⟩ : ∃ j, i = shift + j := ⟨i - shift, by omega⟩
    rw [getLsbD_shifted hi, BitVec.getLsbD_setWidth] at h
    rw [getLsbD_shifted hi, getLsbD_lowOnes (by omega), decide_eq_true_eq]
    by_contra hj
    simp [getLsbD_of_fits hv (by omega : width ≤ j)] at h

theorem within_low {width : Nat} {mask : BitVec w} {v : BitVec n} (hmask : mask = lowOnes w width)
    (hv : v.toNat < 2 ^ width) : Within mask (v.setWidth w) := by
  have h : Within (mask <<< 0) (v.setWidth w <<< 0) := within_shifted hmask hv
  simpa only [BitVec.shiftLeft_zero] using h

/-- A field that the writer clears is read back, whatever else is written. -/
theorem maskedLoad_maskedStore {shift width : Nat} {mask keep value old : BitVec w} {v : BitVec n}
    (hmask : mask = lowOnes w width) (hw : shift + width ≤ w) (hn : width ≤ n)
    (hv : v.toNat < 2 ^ width) (hkeep : keep &&& mask <<< shift = 0)
    (hvalue : value &&& mask <<< shift = v.setWidth w <<< shift) :
    maskedLoad n shift mask (maskedStore keep value old) = v := by
  subst hmask
  rw [maskedLoad_eq_iff hw hn hv, ← hvalue]
  have hold : Within keep (old &&& keep) := by
    rw [within_iff]
    intro i _ h
    rw [BitVec.getLsbD_and, Bool.and_eq_true] at h
    exact h.2
  exact or_and_of_left hold hkeep

theorem maskedLoad_maskedStore_low {width : Nat} {mask keep value old : BitVec w} {v : BitVec n}
    (hmask : mask = lowOnes w width) (hw : width ≤ w) (hn : width ≤ n)
    (hv : v.toNat < 2 ^ width) (hkeep : keep &&& mask = 0) (hvalue : value &&& mask = v.setWidth w) :
    maskedLoad n 0 mask (maskedStore keep value old) = v :=
  maskedLoad_maskedStore hmask (by omega) hn hv (by rwa [BitVec.shiftLeft_zero])
    (by rwa [BitVec.shiftLeft_zero, BitVec.shiftLeft_zero])

theorem maskedLoad_maskedStore_whole {mask keep old : BitVec w} (hmask : mask = lowOnes w n)
    (hw : n ≤ w) (v : BitVec n) (hkeep : keep &&& mask = 0) :
    maskedLoad n 0 mask (maskedStore keep (v.setWidth w) old) = v :=
  maskedLoad_maskedStore_low hmask hw (Nat.le_refl n) v.isLt hkeep (within_low hmask v.isLt).and_self

/-- A field that is alone in its register is read back iff its bits that the writer does not clear
were clear, or are set by the value. -/
theorem maskedLoad_maskedStore_iff {width : Nat} {mask keep stale old : BitVec w} {v : BitVec n}
    (hmask : mask = lowOnes w width) (hw : width ≤ w) (hn : width ≤ n)
    (hv : v.toNat < 2 ^ width) (hstale : keep &&& mask = stale) :
    maskedLoad n 0 mask (maskedStore keep (v.setWidth w) old) = v ↔
      old &&& stale &&& ~~~(v.setWidth w) = 0 := by
  subst hmask
  rw [maskedLoad_eq_iff (by omega) hn hv, BitVec.shiftLeft_zero, BitVec.shiftLeft_zero,
    maskedStore_and_fields (within_low rfl hv), hstale]

/-! ## Flags -/

def truth (n : Nat) (x : BitVec w) : BitVec n :=
  if x ≠ 0 then 1 else 0

theorem toNat_truth_lt (x : BitVec w) : (truth n x).toNat < 2 ^ 1 := by
  unfold truth
  split
  · have h : (1 : BitVec n).toNat = 1 % 2 ^ n := by simp
    have hle := Nat.mod_le 1 (2 ^ n)
    omega
  · simp

theorem getLsbD_truth_zero (hn : 0 < n) (x : BitVec w) :
    (truth n x).getLsbD 0 = decide (x ≠ 0) := by
  unfold truth
  split
  next h => simpa [hn] using h
  next h => simpa using h

theorem setWidth_truth {m : Nat} (hn : 0 < n) (x : BitVec w) :
    (truth n x).setWidth m = truth m x := by
  refine BitVec.eq_of_getLsbD_eq fun i hi ↦ ?_
  rw [BitVec.getLsbD_setWidth]
  rcases Nat.eq_zero_or_pos i with rfl | hpos
  · rw [getLsbD_truth_zero hn, getLsbD_truth_zero hi]
    simp [hi]
  · rw [getLsbD_of_fits (toNat_truth_lt x) hpos, getLsbD_of_fits (toNat_truth_lt x) hpos]
    simp

theorem within_truth {mask : BitVec n} (hmask : mask = lowOnes n 1) (x : BitVec w) :
    Within mask (truth n x) := by
  rw [← BitVec.setWidth_eq (truth n x)]
  exact within_low hmask (toNat_truth_lt x)

/-- Testing a bit where it stands is the same as shifting it down. -/
theorem truth_bit {shift : Nat} {one mask : BitVec w} (hone : one = lowOnes w 1)
    (hmask : mask = one <<< shift) (hw : shift < w) (hn : 0 < n) (x : BitVec w) :
    truth n (x &&& mask) = maskedLoad n shift one x := by
  subst hmask hone
  have hbit : x &&& lowOnes w 1 <<< shift = 0 ↔ x.getLsbD shift = false := by
    have h : x &&& lowOnes w 1 <<< shift = (0 : BitVec 1).setWidth w <<< shift ↔ _ :=
      and_shifted_eq_iff_bits (by omega) (by decide)
    simpa using h
  symm
  rw [maskedLoad_eq_iff_bits (by omega) (by omega) (toNat_truth_lt _)]
  intro j hj
  obtain rfl : j = 0 := by omega
  rw [getLsbD_truth_zero hn, Nat.add_zero]
  cases hx : x.getLsbD shift
  · simpa using hbit.mpr hx
  · simpa [hx] using hbit

end AwHal.Lib
