import Mathlib.Order.BoundedOrder.Basic
import Mathlib.Order.Lattice
import AwHal.Lib.GuardedRun

/-!
# Levels with hysteresis

Some levels are in use.  A reading can reach a level, and it can hold one that it does not reach.  The
level found from a reading is the highest one that it reaches; where that is below the level from
before, the highest one that it holds counts.  If the bands between do not overlap, each level in use
is a switch of its own, which goes on where it is reached and off where it is not held.
-/

namespace AwHal.Lib

variable {L V : Type} [LinearOrder L] [OrderBot L]

structure Bands (L V : Type) [LinearOrder L] where
  used : L → Prop
  reached : L → V → Prop
  held : L → V → Prop
  used_of_held : ∀ {i v}, held i v → used i
  held_of_reached : ∀ {i v}, reached i v → held i v
  /-- What holds a level has reached the levels below it. -/
  reached_of_held : ∀ {i j v}, used i → i < j → held j v → reached i v

/-- The highest level above the bottom with a property, or else the bottom. -/
structure IsHighest (p : L → Prop) (top : L) : Prop where
  le_iff : ∀ i, ⊥ < i → (i ≤ top ↔ ∃ j, i ≤ j ∧ p j)

theorem IsHighest.le_of {p : L → Prop} {top i : L} (h : IsHighest p top) (hi : p i) : i ≤ top := by
  rcases (bot_le (a := i)).eq_or_lt with rfl | hpos
  · exact bot_le
  · exact (h.le_iff i hpos).mpr ⟨i, le_refl i, hi⟩

theorem IsHighest.eq_bot_or {p : L → Prop} {top : L} (h : IsHighest p top) : top = ⊥ ∨ p top := by
  rcases (bot_le (a := top)).eq_or_lt with hbot | hpos
  · exact .inl hbot.symm
  · obtain ⟨j, hj, hp⟩ := (h.le_iff top hpos).mp (le_refl top)
    exact .inr (le_antisymm hj (h.le_of hp) ▸ hp)

namespace Bands

variable (b : Bands L V)

/-- The level found from a reading, after `prev`. -/
structure Next (prev : L) (v : V) (next : L) : Prop where
  found : ∃ top hysteresis, IsHighest (b.reached · v) top ∧ IsHighest (b.held · v) hysteresis ∧
    next = if top < prev then hysteresis else top

variable {b} {prev next i : L} {v : V}

theorem Next.used_or_bot (h : b.Next prev v next) : next = ⊥ ∨ b.used next := by
  obtain ⟨top, hysteresis, htop, hhyst, rfl⟩ := h.found
  split
  · exact hhyst.eq_bot_or.imp_right b.used_of_held
  · exact htop.eq_bot_or.imp_right fun hr => b.used_of_held (b.held_of_reached hr)

/-- One reading switches a level on, off, or leaves it as it was. -/
theorem Next.le_iff (h : b.Next prev v next) (hprev : prev = ⊥ ∨ b.used prev) (hi : ⊥ < i)
    (hused : b.used i) : i ≤ next ↔ b.reached i v ∨ b.held i v ∧ i ≤ prev := by
  obtain ⟨top, hysteresis, htop, hhyst, rfl⟩ := h.found
  by_cases hlt : top < prev
  · rw [if_pos hlt, hhyst.le_iff i hi]
    constructor
    · rintro ⟨j, hij, hj⟩
      rcases hij.eq_or_lt with rfl | hij
      · rcases lt_or_ge prev i with hbelow | hle
        · -- the level from before would have been reached
          have hne : prev ≠ ⊥ := (lt_of_le_of_lt bot_le hlt).ne'
          exact absurd (htop.le_of (b.reached_of_held (hprev.resolve_left hne) hbelow hj)) hlt.not_ge
        · exact .inr ⟨hj, hle⟩
      · exact .inl (b.reached_of_held hused hij hj)
    · rintro (hr | ⟨hheld, -⟩)
      · exact ⟨i, le_refl i, b.held_of_reached hr⟩
      · exact ⟨i, le_refl i, hheld⟩
  · rw [if_neg hlt]
    constructor
    · intro hle
      obtain ⟨j, hij, hj⟩ := (htop.le_iff i hi).mp hle
      rcases hij.eq_or_lt with rfl | hij
      · exact .inl hj
      · exact .inl (b.reached_of_held hused hij (b.held_of_reached hj))
    · rintro (hr | ⟨-, hle⟩)
      · exact htop.le_of hr
      · exact hle.trans (not_lt.mp hlt)

/-! ## Runs -/

def switch (b : Bands L V) [∀ i v, Decidable (b.reached i v)] [∀ i v, Decidable (b.held i v)] (i : L)
    (v : V) : Option Bool :=
  if b.reached i v then some true else if b.held i v then none else some false

/-- The levels found from one reading after the other. -/
inductive Follows (b : Bands L V) : L → List V → Prop where
  | start : Follows b ⊥ []
  | next {level next : L} {readings : List V} {v : V} (h : Follows b level readings)
      (hnext : b.Next level v next) : Follows b next (readings ++ [v])

theorem Follows.used_or_bot {level : L} {readings : List V} (h : b.Follows level readings) :
    level = ⊥ ∨ b.used level := by
  cases h with
  | start => exact .inl rfl
  | next _ hnext => exact hnext.used_or_bot

/-- The last reading outside the band of a level decides whether it is on. -/
theorem Follows.le_iff [∀ i v, Decidable (b.reached i v)] [∀ i v, Decidable (b.held i v)] {level : L}
    {readings : List V} (h : b.Follows level readings) (hi : ⊥ < i) (hused : b.used i) :
    i ≤ level ↔ lastOf (b.switch i) false readings = true := by
  induction h with
  | start => exact iff_of_false hi.not_ge Bool.false_ne_true
  | next h hnext ih =>
      rw [hnext.le_iff h.used_or_bot hi hused, lastOf_concat, switch]
      split
      · rename_i hr
        simp [hr]
      · rename_i hr
        split
        · rename_i hheld
          simp [hr, hheld, ih]
        · rename_i hheld
          simp [hr, hheld]

end Bands

end AwHal.Lib
