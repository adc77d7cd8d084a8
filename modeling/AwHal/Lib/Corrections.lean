import Mathlib.Tactic.Common

/-!
# Corrections that count

A correction takes a value together with the number of changes so far, and adds the changes that it
makes itself.  It is honest when it counts whatever it changes, and then corrections can be put one
after the other: as long as nothing is counted, each sees the value that the first was given.
-/

namespace AwHal.Lib

variable {α : Type*}

/-- The correction finds nothing to count in the values with `p`, and leaves these as they are. -/
structure Counts (f : α × Nat → α × Nat) (p : α → Prop) : Prop where
  count : ∀ c, (f c).2 = 0 ↔ c.2 = 0 ∧ p c.1
  kept : ∀ c, p c.1 → (f c).1 = c.1

namespace Counts

variable {f g : α × Nat → α × Nat} {p q : α → Prop}

theorem congr (hf : Counts f p) (h : ∀ a, p a ↔ q a) : Counts f q where
  count c := by rw [hf.count, h]
  kept c hc := hf.kept c ((h c.1).mpr hc)

theorem change (p : α → Prop) [DecidablePred p] (change : α → α) :
    Counts (fun c => if p c.1 then (change c.1, c.2 + 1) else c) (fun a => ¬ p a) where
  count c := by
    by_cases h : p c.1
    · simp only [if_pos h]
      exact iff_of_false (Nat.succ_ne_zero _) fun h' => h'.2 h
    · simp only [if_neg h]
      exact (and_iff_left h).symm
  kept c h := by simp only [if_neg h]

theorem assign (p : α → Prop) [DecidablePred p] (change : α → α) (h : ∀ a, ¬ p a → change a = a) :
    Counts (fun c => (change c.1, if p c.1 then c.2 + 1 else c.2)) (fun a => ¬ p a) where
  count c := by
    by_cases hp : p c.1
    · simp only [if_pos hp]
      exact iff_of_false (Nat.succ_ne_zero _) fun h' => h'.2 hp
    · simp only [if_neg hp]
      exact (and_iff_left hp).symm
  kept c hp := h c.1 hp

theorem skip : Counts (fun c : α × Nat => c) (fun _ => True) where
  count _ := (and_iff_left trivial).symm
  kept _ _ := rfl

theorem branch (b : α → Prop) [DecidablePred b] (hf : Counts f p) (hg : Counts g q) :
    Counts (fun c => if b c.1 then f c else g c) (fun a => if b a then p a else q a) where
  count c := by
    split
    · exact hf.count c
    · exact hg.count c
  kept c h := by
    by_cases hb : b c.1
    · simp only [if_pos hb] at h ⊢
      exact hf.kept c h
    · simp only [if_neg hb] at h ⊢
      exact hg.kept c h

theorem comp (hg : Counts g q) (hf : Counts f p) :
    Counts (fun c => g (f c)) (fun a => p a ∧ q a) where
  count c := by
    rw [hg.count, hf.count, and_assoc]
    refine and_congr_right fun _ => and_congr_right fun hp => ?_
    rw [hf.kept c hp]
  kept c h := by
    have hfirst : (f c).1 = c.1 := hf.kept c h.1
    rw [hg.kept (f c) (hfirst ▸ h.2), hfirst]

end Counts

end AwHal.Lib
