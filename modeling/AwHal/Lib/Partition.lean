import Mathlib.Data.List.Basic
import Mathlib.Data.List.Count
import Mathlib.Data.List.Perm.Basic

/-!
# Stable partitions

`partitioned p l` lists the items of `l` with property `p` and then the others, each part in the
order of `l`; `partitionIndex p l k` is where the item at position `k` goes.
-/

namespace AwHal.Lib

variable {α : Type*} {p : α → Bool} {l : List α} {k i : Nat} {x : α}

def partitioned (p : α → Bool) (l : List α) : List α := l.filter p ++ l.filter fun x => !p x

def partitionIndex (p : α → Bool) (l : List α) (k : Nat) (x : α) : Nat :=
  if p x then (l.take k).countP p else l.countP p + (l.take k).countP fun x => !p x

theorem partitioned_perm (p : α → Bool) (l : List α) : (partitioned p l).Perm l :=
  List.filter_append_perm p l

theorem getElem?_filter_countP (h : l[k]? = some x) (hx : p x = true) :
    (l.filter p)[(l.take k).countP p]? = some x := by
  induction l generalizing k with
  | nil => simp at h
  | cons y l ih =>
      cases k with
      | zero =>
          simp only [List.getElem?_cons_zero, Option.some.injEq] at h
          subst h
          simp [hx]
      | succ k =>
          rw [List.getElem?_cons_succ] at h
          have hrest := ih h
          cases hy : p y with
          | true => simpa [List.filter_cons, List.countP_cons, hy] using hrest
          | false => simpa [List.filter_cons, List.countP_cons, hy] using hrest

theorem exists_of_getElem?_filter (h : (l.filter p)[i]? = some x) :
    ∃ k, l[k]? = some x ∧ p x = true ∧ (l.take k).countP p = i := by
  induction l generalizing i with
  | nil => simp at h
  | cons y l ih =>
      cases hy : p y with
      | false =>
          rw [List.filter_cons_of_neg (by simp [hy])] at h
          obtain ⟨k, hk, hx, hcount⟩ := ih h
          exact ⟨k + 1, by simpa using hk, hx, by simp [hy, hcount]⟩
      | true =>
          rw [List.filter_cons_of_pos hy] at h
          cases i with
          | zero =>
              simp only [List.getElem?_cons_zero, Option.some.injEq] at h
              subst h
              exact ⟨0, rfl, hy, rfl⟩
          | succ i =>
              rw [List.getElem?_cons_succ] at h
              obtain ⟨k, hk, hx, hcount⟩ := ih h
              exact ⟨k + 1, by simpa using hk, hx, by simp [hy, hcount]⟩

theorem getElem?_partitioned (h : l[k]? = some x) :
    (partitioned p l)[partitionIndex p l k x]? = some x := by
  unfold partitioned partitionIndex
  split
  · rename_i hx
    have hfront := getElem?_filter_countP h hx
    rw [List.getElem?_append_left (List.getElem?_eq_some_iff.mp hfront).1]
    exact hfront
  · rename_i hx
    have hback := getElem?_filter_countP (p := fun x => !p x) h (by simpa using hx)
    rw [List.getElem?_append_right (by simp [List.countP_eq_length_filter])]
    simpa [List.countP_eq_length_filter] using hback

theorem exists_of_getElem?_partitioned (h : (partitioned p l)[i]? = some x) :
    ∃ k, l[k]? = some x ∧ partitionIndex p l k x = i := by
  unfold partitioned at h
  by_cases hi : i < (l.filter p).length
  · rw [List.getElem?_append_left hi] at h
    obtain ⟨k, hk, hx, hcount⟩ := exists_of_getElem?_filter h
    exact ⟨k, hk, by rw [partitionIndex, if_pos hx, hcount]⟩
  · rw [List.getElem?_append_right (by omega)] at h
    obtain ⟨k, hk, hx, hcount⟩ := exists_of_getElem?_filter h
    refine ⟨k, hk, ?_⟩
    rw [partitionIndex, if_neg (by simpa using hx), hcount, List.countP_eq_length_filter]
    omega

theorem partitionIndex_lt (h : l[k]? = some x) (hx : p x = true) :
    partitionIndex p l k x < l.countP p := by
  rw [partitionIndex, if_pos hx, List.countP_eq_length_filter (l := l)]
  exact (List.getElem?_eq_some_iff.mp (getElem?_filter_countP h hx)).1

end AwHal.Lib
