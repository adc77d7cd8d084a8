import AwHal.Lib.NewtonRoot
import Mathlib.Data.UInt

/-!
# `SqrtM` of `isp_math_util.c`

At most a hundred steps of Newton's method for the square root of an `unsigned int`.  The step mixes
an `int` with the argument, so that it is computed with `unsigned int`s and converted back.
-/

namespace AwHal.Isp

open AwHal.Lib

namespace SqrtM

inductive Fault where
  | divisionByZero
  | notInt
deriving DecidableEq, Repr

def toInt (u : UInt32) : Except Fault Int :=
  if u.toNat < 2 ^ 31 then .ok u.toNat else .error .notInt

def newtonStep (a : UInt32) (x : Int) : Except Fault Int :=
  let x : UInt32 := UInt32.ofInt x
  if x = 0 then .error .divisionByZero else toInt ((x + a / x + 1) / 2)

def newtonLoop (a : UInt32) : Nat → Int → Int → Except Fault Int
  | 0, _, x => .ok x
  | i + 1, tmp, x =>
      if 1 < tmp.natAbs then
        match newtonStep a x with
        | .error e => .error e
        | .ok next => newtonLoop a i x next
      else .ok x

end SqrtM

open SqrtM in
def SqrtM (a : UInt32) : Except Fault Int :=
  if a = 0 then .ok 0
  else
    match toInt ((a + 1) / 2) with
    | .error e => .error e
    | .ok x => newtonLoop a 100 (0 - x) x

/-! ## Steps -/

namespace SqrtM

theorem toInt_eq {u : UInt32} (h : u.toNat < 2 ^ 31) : toInt u = .ok u.toNat := if_pos h

theorem newtonStep_eq (a : UInt32) {x : Nat} (hlo : 2 ≤ x) (hhi : x < 2 ^ 31) :
    newtonStep a x = .ok (newton a.toNat x) ∧ newton a.toNat x < 2 ^ 31 := by
  have ha := a.toNat_lt
  have hx : (UInt32.ofInt x).toNat = x := by
    have hmod : ((x : Int) % 2 ^ 32).toNat = x := by omega
    rw [UInt32.ofInt, hmod]
    exact UInt32.toNat_ofNat_of_lt (hhi.trans (by decide))
  have hquot : a.toNat / x < 2 ^ 31 := by
    rw [Nat.div_lt_iff_lt_mul (by omega)]
    omega
  have hlt : newton a.toNat x < 2 ^ 31 := by
    unfold newton
    omega
  refine ⟨?_, hlt⟩
  have hne : UInt32.ofInt x ≠ 0 := by
    intro hzero
    rw [hzero] at hx
    simp at hx
    omega
  have hvalue : ((UInt32.ofInt x + a / UInt32.ofInt x + 1) / 2).toNat = newton a.toNat x := by
    have htwo : (2 : UInt32).toNat = 2 := rfl
    have hone : (1 : UInt32).toNat = 1 := rfl
    rw [UInt32.toNat_div, UInt32.toNat_add, UInt32.toNat_add, UInt32.toNat_div, hx, htwo, hone,
      newton]
    generalize a.toNat / x = q at hquot
    omega
  unfold newtonStep
  dsimp only
  rw [if_neg hne, toInt_eq (by rwa [hvalue]), hvalue]

theorem newtonLoop_eq {a : UInt32} {r : Nat} (h : IsRoot a.toNat r) (hr : 2 ≤ r) (n : Nat)
    {tmp : Int} {x : Nat} (htmp : 1 < tmp.natAbs) (hlo : r ≤ x) (hhi : x < 2 ^ 31) :
    newtonLoop a n tmp x = .ok (((newton a.toNat)^[n] x : Nat) : Int) := by
  induction n generalizing tmp x with
  | zero => rfl
  | succ n ih =>
      obtain ⟨hstep, hnext⟩ := newtonStep_eq a (hr.trans hlo) hhi
      have hup := le_newton h (by omega : 0 < x)
      rw [newtonLoop, if_pos htmp, hstep, Function.iterate_succ_apply]
      exact ih (by omega) hup hnext

end SqrtM

/-! ## The result -/

/-- The result is computed without a fault and is the square root, rounded down or up. -/
def SqrtMRight (a : UInt32) : Prop :=
  ∃ x : Nat, SqrtM a = .ok x ∧ IsFloorOrCeil a.toNat x

theorem root_le_start {a r : Nat} (h : IsRoot a r) (ha : 3 ≤ a) : r ≤ (a + 1) / 2 := by
  by_cases hr : r ≤ 2
  · omega
  · have hmul : 3 * r ≤ r * r := Nat.mul_le_mul_right r (by omega)
    have hlo := h.1
    omega

theorem sqrtM_of_three_le {a : UInt32} (hlo : 3 ≤ a.toNat) (hhi : a.toNat + 1 < 2 ^ 32) :
    SqrtMRight a := by
  obtain ⟨r, hpos, hroot⟩ := exists_isRoot (by omega : 0 < a.toNat)
  have hr : 2 ≤ r := by
    have hlt := hroot.2
    by_contra hsmall
    obtain rfl : r = 1 := by omega
    omega
  have hlow := root_le_start hroot hlo
  have hstart : ((a + 1) / 2).toNat = (a.toNat + 1) / 2 := by
    have htwo : (2 : UInt32).toNat = 2 := rfl
    have hone : (1 : UInt32).toNat = 1 := rfl
    rw [UInt32.toNat_div, UInt32.toNat_add, htwo, hone]
    omega
  have hne : a ≠ 0 := by
    rintro rfl
    exact absurd hlo (by decide)
  -- a hundred steps are more than the 32 that the distance needs
  have hroots : (newton a.toNat)^[99 + 1] ((a.toNat + 1) / 2) = r :=
    iterate_newton_eq hroot hpos hlow (by omega)
  refine ⟨r, ?_, hroot.floor_or_ceil (by omega)⟩
  unfold SqrtM
  rw [if_neg hne, SqrtM.toInt_eq (by omega), hstart]
  dsimp only
  rw [SqrtM.newtonLoop_eq hroot hr 100 (by omega) hlow (by omega), hroots]

/-- `a+1` wraps to zero. -/
theorem sqrtM_last : SqrtM 4294967295 = .ok 0 := by decide

theorem not_right_last : ¬ SqrtMRight 4294967295 := by
  rintro ⟨x, hx, hroot⟩
  rw [sqrtM_last, Except.ok.injEq] at hx
  obtain rfl : x = 0 := by omega
  rcases hroot with ⟨-, hlt⟩ | ⟨hle, -⟩
  · exact absurd hlt (by decide)
  · exact absurd hle (by decide)

/-- `SqrtM` is right for every argument but the largest. -/
theorem SqrtM_right_iff (a : UInt32) : SqrtMRight a ↔ a ≠ 4294967295 := by
  constructor
  · rintro hright rfl
    exact not_right_last hright
  · intro hne
    have hlast : a.toNat ≠ 4294967295 := fun heq => hne (UInt32.toNat_inj.mp heq)
    have hlt := a.toNat_lt
    by_cases hthree : 3 ≤ a.toNat
    · exact sqrtM_of_three_le hthree (by omega)
    · have hsmall : a = 0 ∨ a = 1 ∨ a = 2 := by
        rw [← UInt32.toNat_inj, ← UInt32.toNat_inj, ← UInt32.toNat_inj]
        have hzero : (0 : UInt32).toNat = 0 := rfl
        have hone : (1 : UInt32).toNat = 1 := rfl
        have htwo : (2 : UInt32).toNat = 2 := rfl
        omega
      rcases hsmall with rfl | rfl | rfl
      · exact ⟨0, by decide, Or.inl ⟨by decide, by decide⟩⟩
      · exact ⟨1, by decide, Or.inl ⟨by decide, by decide⟩⟩
      · exact ⟨1, by decide, Or.inl ⟨by decide, by decide⟩⟩

theorem SqrtM_wraps : SqrtM 4294967295 = .ok 0 ∧ ¬ ∀ a : UInt32, SqrtMRight a :=
  ⟨sqrtM_last, fun hall => not_right_last (hall 4294967295)⟩

end AwHal.Isp
