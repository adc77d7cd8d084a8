import Mathlib.Algebra.Order.Floor.Defs
import Mathlib.Data.Rat.Floor

/-!
# The numbers of C

`int` and `size_t` values are integers that every operation reduces to the width of the type.  The
rounding of `float` is left open: `CFloat` has the operations and no laws, so that what is proved
over it holds for single precision as well as for the exact rationals, which make the model run.
-/

namespace AwHal.Lib

/-! ## `int` -/

/-- The 32-bit `int` that an arithmetic operation of exact result `x` leaves. -/
def wrapInt (x : Int) : Int := x.bmod (2 ^ 32)

def FitsInt (x : Int) : Prop := -2 ^ 31 ≤ x ∧ x < 2 ^ 31

instance (x : Int) : Decidable (FitsInt x) := inferInstanceAs (Decidable (_ ∧ _))

theorem wrapInt_of_fits {x : Int} (h : FitsInt x) : wrapInt x = x := by
  unfold FitsInt at h
  exact Int.bmod_eq_of_le (by omega) (by omega)

theorem tdiv_two (x : Int) : x.tdiv 2 = if 0 ≤ x then x / 2 else -(-x / 2) := by
  split
  · rename_i h
    exact Int.tdiv_eq_ediv_of_nonneg h
  · rename_i h
    rw [← Int.tdiv_eq_ediv_of_nonneg (by omega : 0 ≤ -x), Int.neg_tdiv, Int.neg_neg]

/-! ## `size_t` -/

def SIZE_MAX : Nat := 2 ^ 64 - 1

/-- Conversion of an integer to `size_t`. -/
def toSize (x : Int) : Nat := (x % (SIZE_MAX + 1 : Nat)).toNat

theorem toSize_le (x : Int) : toSize x ≤ SIZE_MAX := by
  unfold toSize
  have hpos : (0 : Int) < (SIZE_MAX + 1 : Nat) := by exact_mod_cast Nat.succ_pos _
  have hlt := Int.emod_lt_of_pos x hpos
  omega

/-! ## `float` -/

/-- The `float` operations the code uses.  `ofRat` is the value of a literal or of an `int`. -/
class CFloat (F : Type) where
  ofRat : Rat → F
  add : F → F → F
  sub : F → F → F
  mul : F → F → F
  div : F → F → F
  abs : F → F
  lt : F → F → Bool
  eq : F → F → Bool
  ceil : F → Int
  floor : F → Int

/-- Exact arithmetic, which agrees with `float` wherever no operation has to round. -/
instance : CFloat Rat where
  ofRat := id
  add := (· + ·)
  sub := (· - ·)
  mul := (· * ·)
  div := (· / ·)
  abs x := if x < 0 then -x else x
  lt x y := decide (x < y)
  eq x y := decide (x = y)
  ceil := Rat.ceil
  floor := Rat.floor

namespace CFloat

variable {F : Type} [CFloat F]

def ofInt (x : Int) : F := ofRat (x : Rat)

def min (a b : F) : F := if lt a b then a else b

def max (a b : F) : F := if lt b a then a else b

end CFloat

end AwHal.Lib
