import Mathlib.Algebra.Order.Ring.Nat
import Mathlib.Data.Nat.Sqrt
import Mathlib.Tactic.Ring

/-!
# Newton's method for integer square roots

The iteration that rounds up, `x ↦ (x + a / x + 1) / 2`, comes down to the square root of `a` rounded
to the nearest number and stays there.  Every step halves the distance.
-/

namespace AwHal.Lib

def newton (a x : Nat) : Nat := (x + a / x + 1) / 2

/-- `r` is the square root of `a`, rounded to the nearest number. -/
def IsRoot (a r : Nat) : Prop := r * r ≤ a + r ∧ a < r * r + r

/-- `r` is the square root of `a`, rounded down or up. -/
def IsFloorOrCeil (a r : Nat) : Prop :=
  r * r ≤ a ∧ a < (r + 1) * (r + 1) ∨ a ≤ r * r ∧ ∀ y, a ≤ y * y → r ≤ y

theorem exists_isRoot {a : Nat} (ha : 0 < a) : ∃ r, 0 < r ∧ IsRoot a r := by
  have hle := Nat.sqrt_le a
  have hlt := Nat.sqrt_lt'.mp (Nat.lt_succ_self a.sqrt)
  have hpos := Nat.sqrt_pos.mpr ha
  rw [Nat.succ_eq_add_one, pow_two] at hlt
  generalize a.sqrt = s at hle hlt hpos
  have hsquare : (s + 1) * (s + 1) = s * s + 2 * s + 1 := by ring
  by_cases hnear : a < s * s + s
  · exact ⟨s, hpos, by omega, hnear⟩
  · exact ⟨s + 1, by omega, by omega, by omega⟩

theorem IsRoot.floor_or_ceil {a r : Nat} (h : IsRoot a r) (ha : 0 < a) : IsFloorOrCeil a r := by
  obtain ⟨hlo, hhi⟩ := h
  have hsquare : (r + 1) * (r + 1) = r * r + 2 * r + 1 := by ring
  by_cases hle : r * r ≤ a
  · exact Or.inl ⟨hle, by omega⟩
  · refine Or.inr ⟨by omega, ?_⟩
    intro y hy
    by_contra hlt
    -- `y` is at most `r - 1`, whose square is too small
    obtain ⟨s, rfl⟩ : ∃ s, r = s + 1 := ⟨r - 1, by omega⟩
    have hys : y * y ≤ s * s := Nat.mul_le_mul (by omega) (by omega)
    have hs : (s + 1) * (s + 1) = s * s + 2 * s + 1 := by ring
    obtain rfl : s = 0 := by omega
    omega

variable {a r x : Nat}

/-- Of two numbers with an odd sum the product is largest when they are next to each other. -/
theorem mul_add_le {d : Nat} (h : x + d + 1 = 2 * r) : d * x + r ≤ r * r := by
  rcases Nat.lt_or_ge x r with hlt | hge
  · obtain ⟨e, rfl⟩ : ∃ e, r = x + 1 + e := ⟨r - x - 1, by omega⟩
    obtain rfl : d = x + 1 + 2 * e := by omega
    have hsquare : (x + 1 + e) * (x + 1 + e) =
        (x + 1 + 2 * e) * x + (x + 1 + e) + (e * e + e) := by ring
    omega
  · obtain ⟨e, rfl⟩ : ∃ e, r = d + 1 + e := ⟨r - d - 1, by omega⟩
    obtain rfl : x = d + 1 + 2 * e := by omega
    have hsquare : (d + 1 + e) * (d + 1 + e) =
        d * (d + 1 + 2 * e) + (d + 1 + e) + (e * e + e) := by ring
    omega

theorem le_newton (h : IsRoot a r) (hx : 0 < x) : r ≤ newton a x := by
  have hdiv : 2 * r ≤ x + a / x + 1 := by
    by_cases hle : 2 * r ≤ x + 1
    · exact hle.trans (Nat.add_le_add_right (Nat.le_add_right x _) 1)
    · obtain ⟨d, hd⟩ : ∃ d, x + d + 1 = 2 * r := ⟨2 * r - 1 - x, by omega⟩
      have hmul := mul_add_le hd
      have hprod : d * x ≤ a := by
        have hlo := h.1
        omega
      have hquot : d ≤ a / x := (Nat.le_div_iff_mul_le hx).mpr hprod
      generalize a / x = q at hquot
      omega
  unfold newton
  omega

theorem newton_lt (h : IsRoot a r) (hx : r < x) : newton a x < x := by
  obtain ⟨y, rfl⟩ : ∃ y, x = y + 1 := ⟨x - 1, by omega⟩
  have hdiv : a / (y + 1) < y := by
    rw [Nat.div_lt_iff_lt_mul (by omega : 0 < y + 1)]
    have hmul : r * (r + 1) ≤ y * (y + 1) := Nat.mul_le_mul (by omega) (by omega)
    have hhi := h.2
    rw [Nat.mul_succ] at hmul
    omega
  unfold newton
  omega

theorem newton_root (h : IsRoot a r) (hr : 0 < r) : newton a r = r := by
  obtain ⟨s, rfl⟩ : ∃ s, r = s + 1 := ⟨r - 1, by omega⟩
  have hlo : s ≤ a / (s + 1) := by
    rw [Nat.le_div_iff_mul_le hr]
    have hle := h.1
    rw [Nat.succ_mul] at hle
    omega
  have hhi : a / (s + 1) < s + 2 := by
    rw [Nat.div_lt_iff_lt_mul hr]
    have hlt := h.2
    rw [Nat.succ_mul]
    exact hlt
  unfold newton
  omega

theorem newton_le (h : IsRoot a r) (hr : 0 < r) (hx : r ≤ x) : 2 * newton a x ≤ x + r + 1 := by
  have hdiv : a / x < r + 1 := by
    rw [Nat.div_lt_iff_lt_mul (by omega)]
    have hmul : (r + 1) * r ≤ (r + 1) * x := Nat.mul_le_mul_left _ hx
    have hhi := h.2
    rw [Nat.succ_mul] at hmul
    omega
  unfold newton
  omega

/-- `k + 1` steps are enough for a distance of `2 ^ k`. -/
theorem iterate_newton_eq (h : IsRoot a r) (hr : 0 < r) {k : Nat} (hx : r ≤ x)
    (hk : x ≤ r + 2 ^ k) : (newton a)^[k + 1] x = r := by
  induction k generalizing x with
  | zero =>
      rcases hx.eq_or_lt with rfl | hlt
      · exact newton_root h hr
      · have hdown := newton_lt h hlt
        have hup := le_newton h (by omega : 0 < x)
        rw [Nat.pow_zero] at hk
        rw [Function.iterate_succ_apply, Function.iterate_zero_apply]
        omega
  | succ k ih =>
      have hup := le_newton h (by omega : 0 < x)
      have hhalf := newton_le h hr hx
      rw [Nat.pow_succ] at hk
      rw [Function.iterate_succ_apply]
      exact ih hup (by omega)

end AwHal.Lib
