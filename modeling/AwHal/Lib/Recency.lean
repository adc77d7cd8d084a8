import Mathlib.Data.List.Basic
import Mathlib.Data.Nat.Basic
import Mathlib.Order.Lattice

/-!
# When something was used last

A history of uses, the latest one in front.  The uses are numbered from one, and what has never been
used counts as used at time zero.
-/

namespace AwHal.Lib

variable {α : Type*} [DecidableEq α]

def lastTime (recent : List α) (a : α) : Nat := recent.length - recent.idxOf a

theorem lastTime_le (recent : List α) (a : α) : lastTime recent a ≤ recent.length :=
  Nat.sub_le _ _

theorem lastTime_cons_self (recent : List α) (a : α) :
    lastTime (a :: recent) a = recent.length + 1 := by
  simp [lastTime]

theorem lastTime_cons_of_ne {a b : α} (h : b ≠ a) (recent : List α) :
    lastTime (b :: recent) a = lastTime recent a := by
  rw [lastTime, List.idxOf_cons_ne recent h, List.length_cons, lastTime]
  omega

theorem lastTime_pos_iff {recent : List α} {a : α} : 0 < lastTime recent a ↔ a ∈ recent := by
  rw [lastTime, ← List.idxOf_lt_length_iff]
  omega

/-- What was used later than `a` has been used since. -/
theorem mem_take_of_lastTime_le {recent : List α} {a b : α} (ha : a ∈ recent) (hne : b ≠ a)
    (hle : lastTime recent a ≤ lastTime recent b) : b ∈ recent.take (recent.idxOf a) := by
  have hb : b ∈ recent := lastTime_pos_iff.mp (Nat.lt_of_lt_of_le (lastTime_pos_iff.mpr ha) hle)
  have hia := List.idxOf_lt_length_iff.mpr ha
  have hib := List.idxOf_lt_length_iff.mpr hb
  have hidx : recent.idxOf b ≠ recent.idxOf a := by
    intro heq
    exact hne ((List.idxOf_inj hb).mp heq)
  rw [lastTime, lastTime] at hle
  exact (List.mem_take_iff_idxOf_lt hb).mpr (by omega)

/-! ## The order of the last uses -/

/-- `a` was used last before `b` was; of two that have never been used, it is the smaller one. -/
def UsedBefore [LT α] (recent : List α) (a b : α) : Prop :=
  lastTime recent a < lastTime recent b ∨ lastTime recent a = lastTime recent b ∧ a < b

theorem usedBefore_nil [LT α] {a b : α} : UsedBefore [] a b ↔ a < b := by
  simp [UsedBefore, lastTime]

theorem usedBefore_cons_of_ne [LT α] {a b c : α} (ha : c ≠ a) (hb : c ≠ b) {recent : List α} :
    UsedBefore (c :: recent) a b ↔ UsedBefore recent a b := by
  rw [UsedBefore, lastTime_cons_of_ne ha, lastTime_cons_of_ne hb, UsedBefore]

theorem usedBefore_cons_self [LT α] {a c : α} (ha : c ≠ a) (recent : List α) :
    UsedBefore (c :: recent) a c := by
  have hle := lastTime_le recent a
  refine Or.inl ?_
  rw [lastTime_cons_of_ne ha, lastTime_cons_self]
  omega

section LinearOrder

variable [LinearOrder α] {recent : List α} {a b : α}

theorem UsedBefore.not_usedBefore (h : UsedBefore recent a b) : ¬ UsedBefore recent b a := by
  intro h'
  rcases h with h | ⟨heq, h⟩
  · rcases h' with h' | ⟨heq', -⟩
    · exact Nat.lt_asymm h h'
    · omega
  · rcases h' with h' | ⟨-, h'⟩
    · omega
    · exact lt_asymm h h'

theorem UsedBefore.ne (h : UsedBefore recent a b) : a ≠ b := by
  rintro rfl
  exact h.not_usedBefore h

theorem usedBefore_or (recent : List α) (hne : a ≠ b) : UsedBefore recent a b ∨ UsedBefore recent b a := by
  rcases Nat.lt_trichotomy (lastTime recent a) (lastTime recent b) with hlt | heq | hlt
  · exact .inl (.inl hlt)
  · rcases lt_or_gt_of_ne hne with hab | hba
    · exact .inl (.inr ⟨heq, hab⟩)
    · exact .inr (.inr ⟨heq.symm, hba⟩)
  · exact .inr (.inl hlt)

end LinearOrder

/-! ## Numbers in the order of the last uses -/

/-- The entries of a table grow with the last uses of their places. -/
def OrderedByUse (recent ts : List Nat) : Prop :=
  ∀ (i j s t : Nat), ts[i]? = some s → ts[j]? = some t → UsedBefore recent i j → s < t

theorem orderedByUse_range (n : Nat) : OrderedByUse [] (List.range n) := by
  intro i j s t hi hj hbefore
  obtain ⟨hin, rfl⟩ := List.getElem?_eq_some_iff.mp hi
  obtain ⟨hjn, rfl⟩ := List.getElem?_eq_some_iff.mp hj
  rw [List.getElem_range, List.getElem_range]
  exact usedBefore_nil.mp hbefore

namespace OrderedByUse

variable {recent ts : List Nat}

theorem lt_iff (h : OrderedByUse recent ts) {i j s t : Nat} (hi : ts[i]? = some s)
    (hj : ts[j]? = some t) : s < t ↔ UsedBefore recent i j := by
  constructor
  · intro hlt
    have hne : i ≠ j := by
      rintro rfl
      rw [hi] at hj
      cases hj
      omega
    rcases usedBefore_or recent hne with hij | hji
    · exact hij
    · have hts := h j i t s hj hi hji
      omega
  · exact h i j s t hi hj

theorem nodup (h : OrderedByUse recent ts) : ts.Nodup := by
  rw [List.nodup_iff_pairwise_ne, List.pairwise_iff_getElem]
  intro i j hi hj hij heq
  have hi' := List.getElem?_eq_getElem hi
  have hj' := List.getElem?_eq_getElem hj
  rcases usedBefore_or recent (Nat.ne_of_lt hij) with hbefore | hbefore
  · have hlt := h i j _ _ hi' hj' hbefore
    omega
  · have hlt := h j i _ _ hj' hi' hbefore
    omega

/-- The place that is used gets the largest entry. -/
theorem set (h : OrderedByUse recent ts) {i new : Nat} (hnew : ∀ t ∈ ts, t < new) :
    OrderedByUse (i :: recent) (ts.set i new) := by
  intro j k s t hj hk hbefore
  by_cases hji : i = j
  · subst hji
    exact absurd (usedBefore_cons_self hbefore.ne recent) hbefore.not_usedBefore
  rw [List.getElem?_set_ne hji] at hj
  by_cases hki : i = k
  · subst hki
    have hget := List.getElem?_eq_some_iff.mp hk
    have ht : t = new := by rw [← hget.2, List.getElem_set_self]
    rw [ht]
    exact hnew s (List.mem_of_getElem? hj)
  · rw [List.getElem?_set_ne hki] at hk
    exact h j k s t hj hk ((usedBefore_cons_of_ne hji hki).mp hbefore)

/-- Changing the entries keeps the order exactly when it never turns two of them round. -/
theorem map_iff (h : OrderedByUse recent ts) {f : Nat → Nat} :
    OrderedByUse recent (ts.map f) ↔ ∀ s ∈ ts, ∀ t ∈ ts, s < t → f s < f t := by
  have hmap : ∀ {i s : Nat}, ts[i]? = some s → (ts.map f)[i]? = some (f s) := by
    intro i s hi
    rw [List.getElem?_map, hi]
    rfl
  constructor
  · intro hf s hs t ht hlt
    obtain ⟨i, hi⟩ := List.mem_iff_getElem?.mp hs
    obtain ⟨j, hj⟩ := List.mem_iff_getElem?.mp ht
    exact hf i j _ _ (hmap hi) (hmap hj) ((h.lt_iff hi hj).mp hlt)
  · intro hf i j s t hi hj hbefore
    rw [List.getElem?_map] at hi hj
    obtain ⟨s, hs, rfl⟩ := Option.map_eq_some_iff.mp hi
    obtain ⟨t, ht, rfl⟩ := Option.map_eq_some_iff.mp hj
    exact hf s (List.mem_of_getElem? hs) t (List.mem_of_getElem? ht) (h i j s t hs ht hbefore)

end OrderedByUse

end AwHal.Lib
