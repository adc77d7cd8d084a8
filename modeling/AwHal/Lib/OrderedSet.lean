import Mathlib.Data.List.Induction
import Mathlib.Data.List.Nodup
import Mathlib.Order.Lattice

/-!
# Sets ordered by a key

A `std::set` whose comparator looks at a key of its elements: the elements are kept in the order of
their keys, and an element whose key is already there is not inserted.
-/

namespace AwHal.Lib

variable {α κ : Type*} [LinearOrder κ] (key : α → κ)

def setInsert (x : α) : List α → List α
  | [] => [x]
  | y :: ys =>
      if key x < key y then x :: y :: ys
      else if key y < key x then y :: setInsert x ys
      else y :: ys

def setOf (xs : List α) : List α := xs.foldl (fun s x => setInsert key x s) []

variable {key}

theorem mem_of_mem_setInsert {x a : α} {s : List α} (h : a ∈ setInsert key x s) :
    a = x ∨ a ∈ s := by
  induction s with
  | nil => simpa [setInsert] using h
  | cons y ys ih =>
      rw [setInsert] at h
      split_ifs at h
      · simpa using h
      · rcases List.mem_cons.mp h with rfl | h
        · exact .inr List.mem_cons_self
        · exact (ih h).imp_right (List.mem_cons_of_mem y)
      · exact .inr h

theorem pairwise_setInsert (x : α) {s : List α} (h : s.Pairwise (key · < key ·)) :
    (setInsert key x s).Pairwise (key · < key ·) := by
  induction s with
  | nil => exact List.pairwise_singleton _ x
  | cons y ys ih =>
      obtain ⟨hy, hys⟩ := List.pairwise_cons.mp h
      rw [setInsert]
      split_ifs with hlt hgt
      · apply List.pairwise_cons.mpr
        constructor
        · intro a ha
          rcases List.mem_cons.mp ha with rfl | ha
          · exact hlt
          · exact lt_trans hlt (hy a ha)
        · exact h
      · apply List.pairwise_cons.mpr
        constructor
        · intro a ha
          rcases mem_of_mem_setInsert ha with rfl | ha
          · exact hgt
          · exact hy a ha
        · exact ih hys
      · exact h

theorem setInsert_perm {x : α} {s : List α} (h : ∀ a ∈ s, key a ≠ key x) :
    (setInsert key x s).Perm (x :: s) := by
  induction s with
  | nil => exact List.Perm.refl _
  | cons y ys ih =>
      rw [setInsert]
      split_ifs with hlt hgt
      · exact List.Perm.refl _
      · have hys := ih fun a ha => h a (List.mem_cons_of_mem y ha)
        exact (hys.cons y).trans (List.Perm.swap x y ys)
      · exact absurd (le_antisymm (not_lt.mp hlt) (not_lt.mp hgt)) (h y List.mem_cons_self)

theorem setOf_concat (xs : List α) (x : α) :
    setOf key (xs ++ [x]) = setInsert key x (setOf key xs) := by
  simp [setOf]

theorem pairwise_setOf (xs : List α) : (setOf key xs).Pairwise (key · < key ·) := by
  induction xs using List.reverseRecOn with
  | nil => exact List.Pairwise.nil
  | append_singleton xs x ih =>
      rw [setOf_concat]
      exact pairwise_setInsert x ih

theorem nodup_setOf (xs : List α) : (setOf key xs).Nodup := by
  refine (pairwise_setOf xs).imp ?_
  rintro a b hlt rfl
  exact lt_irrefl _ hlt

theorem mem_of_mem_setOf {a : α} {xs : List α} (h : a ∈ setOf key xs) : a ∈ xs := by
  induction xs using List.reverseRecOn with
  | nil => cases h
  | append_singleton xs x ih =>
      rw [setOf_concat] at h
      rcases mem_of_mem_setInsert h with rfl | h
      · exact List.mem_append_right xs List.mem_cons_self
      · exact List.mem_append_left [x] (ih h)

theorem setOf_perm {xs : List α} (h : (xs.map key).Nodup) : (setOf key xs).Perm xs := by
  induction xs using List.reverseRecOn with
  | nil => exact List.Perm.refl _
  | append_singleton xs x ih =>
      rw [List.map_append, List.map_singleton, List.nodup_append] at h
      obtain ⟨hxs, -, hx⟩ := h
      rw [setOf_concat]
      have hnew : ∀ a ∈ setOf key xs, key a ≠ key x := by
        intro a ha
        exact hx (key a) (List.mem_map_of_mem ((ih hxs).mem_iff.mp ha)) (key x) (by simp)
      calc
        (setInsert key x (setOf key xs)).Perm (x :: setOf key xs) := setInsert_perm hnew
        _ |>.Perm (x :: xs) := (ih hxs).cons x
        _ |>.Perm (xs ++ [x]) := (List.perm_append_singleton x xs).symm

/-- All elements of a list come into the set exactly when their keys differ. -/
theorem forall_mem_setOf_iff {xs : List α} (hxs : xs.Nodup) :
    (∀ x ∈ xs, x ∈ setOf key xs) ↔ (xs.map key).Nodup := by
  constructor
  · intro hall
    apply List.Nodup.map_on _ hxs
    intro a ha b hb heq
    -- the keys of the set increase, so equal keys are one element
    have hkeys : ((setOf key xs).map key).Nodup := by
      rw [List.nodup_iff_pairwise_ne, List.pairwise_map]
      exact (pairwise_setOf xs).imp ne_of_lt
    exact List.inj_on_of_nodup_map hkeys (hall a ha) (hall b hb) heq
  · intro h x hx
    exact (setOf_perm h).mem_iff.mpr hx

end AwHal.Lib
