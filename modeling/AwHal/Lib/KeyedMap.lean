import Mathlib.Data.List.AList

/-!
# A map updated key by key

`map[key]` makes the value of a missing key.  Read with that value for the missing keys, a run of
updates changes each key by the updates made for it, in their order.
-/

namespace AwHal.Lib

variable {K V A : Type*} [DecidableEq K]

def valueAt (d : V) (m : AList fun _ : K => V) (k : K) : V := (m.lookup k).getD d

def modifyAt (d : V) (k : K) (f : V → V) (m : AList fun _ : K => V) : AList fun _ : K => V :=
  m.insert k (f (valueAt d m k))

def foldAt (d : V) (key : A → K) (f : A → V → V) (l : List A) (m : AList fun _ : K => V) :
    AList fun _ : K => V :=
  l.foldl (fun m a => modifyAt d (key a) (f a) m) m

section

variable {d : V} {m : AList fun _ : K => V} {k : K}

theorem valueAt_of_lookup {v : V} (h : m.lookup k = some v) : valueAt d m k = v := by
  rw [valueAt, h, Option.getD_some]

theorem valueAt_of_lookup_none (h : m.lookup k = none) : valueAt d m k = d := by
  rw [valueAt, h, Option.getD_none]

theorem valueAt_of_mem_entries {v : V} (h : (⟨k, v⟩ : Sigma fun _ : K => V) ∈ m.entries) :
    valueAt d m k = v :=
  valueAt_of_lookup (AList.mem_lookup_iff.mpr h)

theorem lookup_of_mem (d : V) (h : k ∈ m) : m.lookup k = some (valueAt d m k) := by
  obtain ⟨v, hv⟩ := Option.isSome_iff_exists.mp (AList.lookup_isSome.mpr h)
  rw [valueAt_of_lookup hv, hv]

/-- A value other than the default is in the map. -/
theorem mem_entries_valueAt (h : valueAt d m k ≠ d) :
    (⟨k, valueAt d m k⟩ : Sigma fun _ : K => V) ∈ m.entries := by
  have hk : k ∈ m := by
    by_contra hk
    exact h (valueAt_of_lookup_none (AList.lookup_eq_none.mpr hk))
  exact AList.mem_lookup_iff.mp (lookup_of_mem d hk)

theorem valueAt_modifyAt (k' : K) (f : V → V) :
    valueAt d (modifyAt d k' f m) k = if k' = k then f (valueAt d m k) else valueAt d m k := by
  by_cases hk : k' = k
  · subst hk
    rw [if_pos rfl, modifyAt, valueAt, AList.lookup_insert, Option.getD_some]
  · rw [if_neg hk, modifyAt, valueAt, AList.lookup_insert_ne (Ne.symm hk), valueAt]

end

section

variable {d : V} (key : A → K) (f : A → V → V)

theorem valueAt_foldAt (l : List A) (m : AList fun _ : K => V) (k : K) :
    valueAt d (foldAt d key f l m) k =
      (l.filter fun a => key a = k).foldl (fun v a => f a v) (valueAt d m k) := by
  induction l generalizing m with
  | nil => rfl
  | cons a rest ih =>
      rw [foldAt, List.foldl_cons]
      refine (ih _).trans ?_
      rw [valueAt_modifyAt]
      by_cases hk : key a = k
      · simp [hk]
      · simp [hk]

theorem mem_foldAt (l : List A) (m : AList fun _ : K => V) (k : K) :
    k ∈ foldAt d key f l m ↔ k ∈ m ∨ ∃ a ∈ l, key a = k := by
  induction l generalizing m with
  | nil => simp [foldAt]
  | cons a rest ih =>
      rw [foldAt, List.foldl_cons]
      refine (ih _).trans ?_
      rw [modifyAt, AList.mem_insert, List.exists_mem_cons_iff, eq_comm]
      tauto

end

end AwHal.Lib
