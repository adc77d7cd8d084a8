import Mathlib.Algebra.Order.Floor.Ring
import Mathlib.Tactic.Linarith

/-!
# Scaling an integer by a ratio

A fixed-width integer times a ratio, cut to an integer again.  A value that was scaled once and is scaled
again stays the same only in a few cases: `Steady`.
-/

namespace AwHal.Lib

section Truncate

variable {K : Type*} [Ring K] [LinearOrder K] [FloorRing K]

def truncate (x : K) : Int := if 0 ≤ x then ⌊x⌋ else ⌈x⌉

theorem truncate_of_nonneg {x : K} (hx : 0 ≤ x) : truncate x = ⌊x⌋ := if_pos hx

theorem truncate_neg [IsOrderedRing K] (x : K) : truncate (-x) = -truncate x := by
  rcases lt_trichotomy x 0 with hneg | rfl | hpos
  · rw [truncate, truncate, if_pos (by simpa using hneg.le), if_neg hneg.not_ge, Int.floor_neg]
  · rw [neg_zero, truncate, if_pos le_rfl, Int.floor_zero, neg_zero]
  · rw [truncate, truncate, if_neg (by simpa using hpos), if_pos hpos.le, Int.ceil_neg]

end Truncate

/-- The value next to `x` of a type with the values from `lo` to `hi`. -/
def saturate (lo hi x : Int) : Int := max lo (min x hi)

theorem saturate_neg (lo hi x : Int) (h : lo ≤ hi) :
    saturate lo hi (-x) = -saturate (-hi) (-lo) x := by
  unfold saturate
  omega

theorem saturate_of_nonneg {lo hi x : Int} (hlo : lo ≤ 0) (hhi : 0 ≤ hi) (hx : 0 ≤ x) :
    saturate lo hi x = min x hi := by
  unfold saturate
  omega

theorem saturate_mem {lo hi : Int} (h : lo ≤ hi) (x : Int) :
    lo ≤ saturate lo hi x ∧ saturate lo hi x ≤ hi := by
  unfold saturate
  omega

section Scale

variable {K : Type*} [Field K] [LinearOrder K] [IsStrictOrderedRing K] [FloorRing K]

/-- `v` times `r`, as a type with the values from `lo` to `hi` has it. -/
def scale (lo hi : Int) (r : K) (v : Int) : Int := saturate lo hi (truncate (v * r))

/-- Scaling by `r` more than once has the effect of scaling once, for a value of size `n` and a type whose
largest value of that sign has size `limit`. -/
def Steady (limit : Int) (r : K) (n : Int) : Prop :=
  r = 1 ∨ (r < 1 ∧ n * r < 1) ∨ (1 < r ∧ (limit ≤ n * r ∨ ⌊n * r⌋ * (r - 1) < 1))

instance (limit : Int) (r : K) (n : Int) : Decidable (Steady limit r n) :=
  inferInstanceAs (Decidable (_ ∨ (_ ∧ _) ∨ (_ ∧ (_ ∨ _))))

variable {lo hi : Int} {r : K}

theorem scale_neg (h : lo ≤ hi) (v : Int) : scale lo hi r (-v) = -scale (-hi) (-lo) r v := by
  rw [scale, scale, Int.cast_neg, neg_mul, truncate_neg, saturate_neg _ _ _ h]

theorem scale_of_nonneg (hlo : lo ≤ 0) (hhi : 0 ≤ hi) (hr : 0 < r) {v : Int} (hv : 0 ≤ v) :
    scale lo hi r v = min ⌊(v : K) * r⌋ hi := by
  have hprod : 0 ≤ (v : K) * r := mul_nonneg (by exact_mod_cast hv) hr.le
  rw [scale, truncate_of_nonneg hprod, saturate_of_nonneg hlo hhi (Int.floor_nonneg.mpr hprod)]

/-- The values of one sign that scaling leaves. -/
theorem scale_eq_self_iff (hlo : lo ≤ 0) (hhi : 0 ≤ hi) (hr : 0 < r) {w : Int} (hw : 0 ≤ w)
    (hmax : w ≤ hi) :
    scale lo hi r w = w ↔ r = 1 ∨ (r < 1 ∧ w = 0) ∨ (1 < r ∧ (w = hi ∨ w * (r - 1) < 1)) := by
  have hw' : (0 : K) ≤ w := by exact_mod_cast hw
  rw [scale_of_nonneg hlo hhi hr hw]
  rcases lt_trichotomy r 1 with hlt | rfl | hgt
  · -- a smaller product is cut to a smaller integer, unless there is nothing to take from
    have hzero : w = 0 ↔ ⌊(w : K) * r⌋ = w := by
      constructor
      · rintro rfl
        simp
      · intro hfloor
        by_contra hne
        have hpos : (0 : K) < w := by exact_mod_cast lt_of_le_of_ne hw (Ne.symm hne)
        have hle : (w : K) ≤ w * r := by simpa [hfloor] using Int.floor_le ((w : K) * r)
        nlinarith
    have hle : ⌊(w : K) * r⌋ ≤ w := by
      have hprod : (w : K) * r ≤ w := mul_le_of_le_one_right hw' hlt.le
      exact_mod_cast (Int.floor_le ((w : K) * r)).trans hprod
    simp only [hlt.ne, hlt, hlt.not_gt, true_and, false_and, false_or, or_false, hzero]
    omega
  · simpa using hmax
  · -- a larger product is cut to the value again when less than one is gained
    have hge : w ≤ ⌊(w : K) * r⌋ := Int.le_floor.mpr (le_mul_of_one_le_right hw' hgt.le)
    have hgain : ⌊(w : K) * r⌋ = w ↔ (w : K) * (r - 1) < 1 := by
      rw [Int.floor_eq_iff]
      constructor
      · rintro ⟨-, hlt⟩
        linarith
      · intro hlt
        exact ⟨le_mul_of_one_le_right hw' hgt.le, by linarith⟩
    simp only [hgt.ne', hgt, hgt.not_gt, true_and, false_and, false_or, ← hgain]
    omega

theorem scale_scale_iff_of_nonneg (hlo : lo ≤ 0) (hhi : 0 < hi) (hr : 0 < r) {v : Int}
    (hv : 0 ≤ v) :
    scale lo hi r (scale lo hi r v) = scale lo hi r v ↔ Steady hi r v := by
  have hprod : 0 ≤ (v : K) * r := mul_nonneg (by exact_mod_cast hv) hr.le
  have hfloor := Int.floor_nonneg.mpr hprod
  have hscaled := scale_of_nonneg hlo hhi.le hr hv
  rw [scale_eq_self_iff hlo hhi.le hr (by omega) (by omega), hscaled, Steady]
  have hzero : min ⌊(v : K) * r⌋ hi = 0 ↔ (v : K) * r < 1 := by
    have hlt : ⌊(v : K) * r⌋ < 1 ↔ (v : K) * r < 1 := by simpa using Int.floor_lt (z := 1)
    rw [← hlt]
    omega
  have hmax : min ⌊(v : K) * r⌋ hi = hi ↔ (hi : K) ≤ v * r := by
    rw [← Int.le_floor]
    omega
  rw [hzero, hmax]
  by_cases hlimit : (hi : K) ≤ v * r
  · simp only [hlimit, true_or]
  · have hbelow : min ⌊(v : K) * r⌋ hi = ⌊(v : K) * r⌋ := by
      have := Int.floor_lt.mpr (not_le.mp hlimit)
      omega
    rw [hbelow]

/-- Scaling twice is scaling once exactly for the steady values. -/
theorem scale_scale_iff (hlo : lo < 0) (hhi : 0 < hi) (hr : 0 < r) (v : Int) :
    scale lo hi r (scale lo hi r v) = scale lo hi r v ↔
      Steady (if 0 ≤ v then hi else -lo) r |v| := by
  by_cases hv : 0 ≤ v
  · rw [if_pos hv, abs_of_nonneg hv]
    exact scale_scale_iff_of_nonneg hlo.le hhi hr hv
  · have hneg : v = -(-v) := by omega
    rw [if_neg hv, abs_of_neg (by omega), hneg, scale_neg (by omega), scale_neg (by omega), neg_neg,
      neg_inj]
    exact scale_scale_iff_of_nonneg (by omega) (by omega) hr (by omega)

end Scale

end AwHal.Lib
