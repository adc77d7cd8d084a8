import Mathlib.Data.List.Count
import Mathlib.Data.List.Perm.Basic
import Mathlib.Logic.Function.Basic
import Mathlib.Tactic.Common

/-!
# Reference counts

A fixed stock of objects, each of which is free or held by someone.  A count is kept for each object;
a holder that has just got the object may still be missing from the count.
-/

namespace AwHal.Lib

variable {ι : Type} [DecidableEq ι]

/-- Each holder is counted once, but for those in `pending`. -/
def Counted (cnt : ι → Int) (pending holders : List ι) : Prop :=
  ∀ i, cnt i + pending.count i = holders.count i

/-- An object that nobody holds is free exactly once, and no other one is free. -/
def FreeUnlessHeld (stock free holders : List ι) : Prop :=
  ∀ i ∈ stock, free.count i = if i ∈ holders then 0 else 1

structure RefCounted (stock free : List ι) (cnt : ι → Int) (pending holders : List ι) : Prop where
  counted : Counted cnt pending holders
  unheld : FreeUnlessHeld stock free holders
  free_subset : free ⊆ stock
  holders_subset : holders ⊆ stock

variable {stock free pending holders holders' : List ι} {cnt : ι → Int} {i : ι}

theorem Counted.perm (h : Counted cnt pending holders) (hperm : holders.Perm holders') :
    Counted cnt pending holders' := by
  intro j
  rw [h j, hperm.count_eq j]

/-- The counts determine the holders. -/
theorem Counted.holders_perm (h : Counted cnt pending holders) (h' : Counted cnt pending holders') :
    holders.Perm holders' := by
  apply List.perm_iff_count.mpr
  intro j
  have heq : (holders.count j : Int) = holders'.count j := (h j).symm.trans (h' j)
  exact_mod_cast heq

/-- A holder that goes without a change of the count is missed. -/
theorem Counted.not_lost (h : Counted cnt pending holders) (hperm : holders.Perm (i :: holders')) :
    ¬ Counted cnt pending holders' := by
  intro h'
  have hlen := (hperm.symm.trans (h.holders_perm h')).length_eq
  simp at hlen

/-- And so is one that comes. -/
theorem Counted.not_gained (h : Counted cnt pending holders)
    (hperm : holders'.Perm (i :: holders)) : ¬ Counted cnt pending holders' := by
  intro h'
  exact h'.not_lost hperm h

namespace RefCounted

theorem perm (h : RefCounted stock free cnt pending holders) (hperm : holders.Perm holders') :
    RefCounted stock free cnt pending holders' where
  counted := h.counted.perm hperm
  unheld := by
    intro j hj
    rw [h.unheld j hj]
    simp only [hperm.mem_iff]
  free_subset := h.free_subset
  holders_subset := fun j hj => h.holders_subset (hperm.mem_iff.mpr hj)

theorem not_mem_holders (h : RefCounted stock free cnt pending holders) (hi : i ∈ free) :
    i ∉ holders := by
  intro hheld
  have hcount := h.unheld i (h.free_subset hi)
  rw [if_pos hheld] at hcount
  exact List.count_eq_zero.mp hcount hi

theorem take (h : RefCounted stock free cnt [] holders) (hi : i ∈ free) :
    RefCounted stock (free.erase i) (Function.update cnt i 1) [] (i :: holders) where
  counted := by
    intro j
    by_cases hj : j = i
    · subst hj
      have hnone : holders.count j = 0 := List.count_eq_zero.mpr (h.not_mem_holders hi)
      simp [hnone]
    · have hcount := h.counted j
      simpa [Function.update_of_ne hj, List.count_cons_of_ne (Ne.symm hj)] using hcount
  unheld := by
    intro j hj
    have hcount := h.unheld j hj
    by_cases hji : j = i
    · subst hji
      rw [if_neg (h.not_mem_holders hi)] at hcount
      simp [hcount]
    · rw [List.count_erase_of_ne hji, hcount]
      simp [hji]
  free_subset := fun j hj => h.free_subset (List.mem_of_mem_erase hj)
  holders_subset := List.cons_subset.mpr ⟨h.free_subset hi, h.holders_subset⟩

theorem hold (h : RefCounted stock free cnt pending holders) (hi : i ∈ holders) :
    RefCounted stock free cnt (i :: pending) (i :: holders) where
  counted := by
    intro j
    have hcount := h.counted j
    simp only [List.count_cons]
    omega
  unheld := by
    intro j hj
    rw [h.unheld j hj]
    by_cases hji : j = i
    · simp [hji, hi]
    · simp [hji]
  free_subset := h.free_subset
  holders_subset := List.cons_subset.mpr ⟨h.holders_subset hi, h.holders_subset⟩

theorem count (h : RefCounted stock free cnt (i :: pending) holders) :
    RefCounted stock free (Function.update cnt i (cnt i + 1)) pending holders where
  counted := by
    intro j
    have hcount := h.counted j
    by_cases hj : j = i
    · subst hj
      simp only [List.count_cons_self, Function.update_self] at hcount ⊢
      omega
    · rw [List.count_cons_of_ne (Ne.symm hj)] at hcount
      rw [Function.update_of_ne hj, hcount]
  unheld := h.unheld
  free_subset := h.free_subset
  holders_subset := h.holders_subset

theorem share (h : RefCounted stock free cnt pending holders) (hi : i ∈ holders) :
    RefCounted stock free (Function.update cnt i (cnt i + 1)) pending (i :: holders) :=
  (h.hold hi).count

theorem release (h : RefCounted stock free cnt [] (i :: holders)) :
    RefCounted stock (if cnt i - 1 = 0 then free ++ [i] else free)
      (Function.update cnt i (cnt i - 1)) [] holders := by
  have hi : i ∈ stock := h.holders_subset List.mem_cons_self
  have hcnt : cnt i - 1 = holders.count i := by
    have hcount := h.counted i
    simp only [List.count_nil, List.count_cons_self] at hcount
    omega
  have hzero : cnt i - 1 = 0 ↔ i ∉ holders := by
    rw [hcnt, ← List.count_eq_zero]
    omega
  have hbusy : free.count i = 0 := by simpa using h.unheld i hi
  constructor
  · intro j
    by_cases hj : j = i
    · subst hj
      simp [hcnt]
    · have hcount := h.counted j
      rw [List.count_cons_of_ne (Ne.symm hj)] at hcount
      rw [Function.update_of_ne hj, hcount]
  · intro j hj
    have hcount := h.unheld j hj
    by_cases hji : j = i
    · subst hji
      by_cases hheld : j ∈ holders
      · rw [if_neg (fun hc => hzero.mp hc hheld), if_pos hheld, hbusy]
      · rw [if_pos (hzero.mpr hheld), if_neg hheld]
        simp [hbusy]
    · have hsame : (if cnt i - 1 = 0 then free ++ [i] else free).count j = free.count j := by
        split
        · simp [List.count_cons_of_ne (Ne.symm hji)]
        · rfl
      rw [hsame, hcount]
      simp [hji]
  · split
    · exact List.append_subset.mpr ⟨h.free_subset, List.cons_subset.mpr ⟨hi, List.nil_subset _⟩⟩
    · exact h.free_subset
  · exact fun j hj => h.holders_subset (List.mem_cons_of_mem i hj)

end RefCounted

end AwHal.Lib
