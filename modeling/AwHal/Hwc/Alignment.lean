import AwHal.Hwc.RotateSession

/-!
# Rounding up to an alignment

`HWC_ALIGN` works on the bits of a `long`.
-/

namespace AwHal.Hwc

/-- A number is what a mask keeps of it and what it clears. -/
theorem toNat_and_not_add (v m : BitVec 64) (hv : v.toNat < 2 ^ 63) :
    (v &&& ~~~m).toNat + (v &&& m).toNat = v.toNat := by
  have hdisjoint : (v &&& ~~~m) &&& (v &&& m) = 0#64 := by
    ext i hi
    simp
    tauto
  have hsum : (v &&& ~~~m) + (v &&& m) = v := by
    rw [BitVec.add_eq_or_of_and_eq_zero _ _ hdisjoint]
    ext i hi
    simp
    cases v[i] <;> cases m[i] <;> rfl
  have hcleared : (v &&& ~~~m).toNat ≤ v.toNat := by
    rw [BitVec.toNat_and]
    exact Nat.and_le_left
  have hkept : (v &&& m).toNat ≤ v.toNat := by
    rw [BitVec.toNat_and]
    exact Nat.and_le_left
  have hnat := congrArg BitVec.toNat hsum
  rw [BitVec.toNat_add, Nat.mod_eq_of_lt (by omega)] at hnat
  exact hnat

/-- What `HWC_ALIGN` computes as long as nothing overflows. -/
theorem HWC_ALIGN_bits {x a : Int32} (hx : 0 ≤ x.toInt) (ha : 0 < a.toInt)
    (hfits : x.toInt + a.toInt < 2 ^ 31) :
    ∃ v m : BitVec 64, (v.toNat : Int) = x.toInt + a.toInt - 1 ∧ (m.toNat : Int) = a.toInt - 1 ∧
      (HWC_ALIGN x a).toInt = ((v &&& ~~~m).toNat : Int) := by
  have hsum : (x + a).toInt = x.toInt + a.toInt := by
    rw [Int32.toInt_add, Int.bmod_eq_of_le (by omega) (by omega)]
  have hv : ((x + a).toInt64 - 1).toInt = x.toInt + a.toInt - 1 := by
    rw [Int64.toInt_sub, Int32.toInt_toInt64, hsum]
    exact Int.bmod_eq_of_le (by simp; omega) (by simp; omega)
  have hm : (a.toInt64 - 1).toInt = a.toInt - 1 := by
    rw [Int64.toInt_sub, Int32.toInt_toInt64]
    exact Int.bmod_eq_of_le (by simp; omega) (by simp; omega)
  -- both are positive, so they are the numbers of their bits
  have hnat : ∀ {y : Int64}, 0 ≤ y.toInt → (y.toBitVec.toNat : Int) = y.toInt := by
    intro y hy
    have h := BitVec.toInt_eq_toNat_cond y.toBitVec
    have hlt := y.toBitVec.isLt
    rw [Int64.toInt] at hy ⊢
    split at h <;> omega
  have hvnat := hnat (y := (x + a).toInt64 - 1) (by omega)
  have hmnat := hnat (y := a.toInt64 - 1) (by omega)
  refine ⟨_, _, hvnat.trans hv, hmnat.trans hm, ?_⟩
  have hadd := toNat_and_not_add ((x + a).toInt64 - 1).toBitVec (a.toInt64 - 1).toBitVec (by omega)
  show (((x + a).toInt64 - 1).toBitVec &&& ~~~(a.toInt64 - 1).toBitVec).toInt = _
  exact BitVec.toInt_eq_toNat_of_lt (by omega)

/-- `HWC_ALIGN` rounds up, to a multiple when the alignment is a power of two. -/
theorem toInt_HWC_ALIGN {x a : Int32} (hx : 0 ≤ x.toInt) (ha : 0 < a.toInt)
    (hfits : x.toInt + a.toInt < 2 ^ 31) :
    x.toInt ≤ (HWC_ALIGN x a).toInt ∧ (HWC_ALIGN x a).toInt < x.toInt + a.toInt := by
  obtain ⟨v, m, hv, hm, heq⟩ := HWC_ALIGN_bits hx ha hfits
  have hadd := toNat_and_not_add v m (by omega)
  have hmask : (v &&& m).toNat ≤ m.toNat := by
    rw [BitVec.toNat_and]
    exact Nat.and_le_right
  omega

theorem toInt_HWC_ALIGN_two_pow {x a : Int32} {k : Nat} (hx : 0 ≤ x.toInt)
    (ha : a.toInt = (2 ^ k : Nat)) (hfits : x.toInt + a.toInt < 2 ^ 31) :
    (HWC_ALIGN x a).toInt = (x.toInt + a.toInt - 1) / a.toInt * a.toInt := by
  have hpow := Nat.two_pow_pos k
  obtain ⟨v, m, hv, hm, heq⟩ := HWC_ALIGN_bits hx (by omega) hfits
  have hadd := toNat_and_not_add v m (by omega)
  have hmask : m.toNat = 2 ^ k - 1 := by omega
  rw [BitVec.toNat_and v m, hmask, Nat.and_two_pow_sub_one_eq_mod] at hadd
  have hdiv := Nat.div_add_mod' v.toNat (2 ^ k)
  have hquot : (v &&& ~~~m).toNat = v.toNat / 2 ^ k * 2 ^ k := by omega
  rw [heq, hquot, ← hv, ha]
  exact_mod_cast rfl

end AwHal.Hwc
