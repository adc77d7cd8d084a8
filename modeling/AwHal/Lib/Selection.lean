import Mathlib.Data.List.Basic

/-!
# Elements that are selected by position

A filter keeps some elements of a list and gives them new positions; a list of positions tells which
elements are to be changed.
-/

namespace AwHal.Lib

variable {α β : Type}

/-! ## Filters -/

/-- An element that is kept goes to the position that counts the kept ones before it. -/
theorem getElem?_findIdxs_iff {p : α → Bool} {l : List α} {m k : Nat} :
    (l.findIdxs p)[m]? = some k ↔
      (∃ a, l[k]? = some a ∧ p a) ∧ (l.take k).countP p = m := by
  induction l generalizing m k with
  | nil => simp
  | cons a l ih =>
      rw [List.findIdxs_cons, List.findIdxs_start (s := 0 + 1)]
      cases k with
      | zero =>
          by_cases ha : p a
          · cases m <;> simp [ha]
          · simp [ha]
      | succ k =>
          by_cases ha : p a
          · cases m with
            | zero => simp [ha]
            | succ m => simp [ha, ih]
          · simp [ha, ih]

/-- What `filterMap` has at a position comes from the element that was kept for it. -/
theorem getElem?_filterMap (f : α → Option β) (l : List α) (m : Nat) :
    (l.filterMap f)[m]? =
      ((l.findIdxs fun a => (f a).isSome)[m]?).bind fun k => l[k]?.bind f := by
  induction l generalizing m with
  | nil => simp
  | cons a l ih =>
      rw [List.findIdxs_cons, List.findIdxs_start (s := 0 + 1)]
      cases ha : f a with
      | none =>
          rw [List.filterMap_cons_none ha, ih]
          simp only [Option.isSome_none, Bool.false_eq_true, if_false, Nat.zero_add,
            List.getElem?_map, Option.bind_map]
          rfl
      | some b =>
          cases m with
          | zero => simp [ha]
          | succ m =>
              rw [List.filterMap_cons_some ha]
              simp only [List.getElem?_cons_succ, ih, Option.isSome_some, if_true, Nat.zero_add,
                List.getElem?_map, Option.bind_map]
              rfl

/-! ## Changes by position -/

/-- A change that is made once or more often is made at the positions that are listed. -/
theorem getElem?_foldl_modify {f : α → α} (hf : ∀ a, f (f a) = f a) (is : List Nat) (l : List α)
    (m : Nat) :
    (is.foldl (fun l i => l.modify i f) l)[m]? = if m ∈ is then l[m]?.map f else l[m]? := by
  induction is generalizing l with
  | nil => simp
  | cons i is ih =>
      rw [List.foldl_cons, ih, List.getElem?_modify]
      by_cases him : i = m
      · have hff : f ∘ f = f := funext hf
        subst him
        simp [hff]
      · have hmi : m ≠ i := Ne.symm him
        simp [him, hmi]

end AwHal.Lib
