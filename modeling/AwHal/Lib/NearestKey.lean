import Mathlib.Algebra.Order.Group.Unbundled.Abs
import Mathlib.Algebra.Order.Group.Abs
import Mathlib.Data.List.TakeWhile

/-!
# The nearest key of a map

A `std::map` is a list ordered by its keys.  The entry whose key is nearest to a given one is beside
the place where `lower_bound` cuts the map.
-/

namespace AwHal.Lib

variable {K V : Type*} [LinearOrder K]

/-- `map::lower_bound`: the entries before it, and those from it on. -/
def lowerBound (map : List (K × V)) (k : K) : List (K × V) × List (K × V) :=
  (map.takeWhile fun kv => decide (kv.1 < k), map.dropWhile fun kv => decide (kv.1 < k))

theorem lowerBound_append (map : List (K × V)) (k : K) :
    (lowerBound map k).1 ++ (lowerBound map k).2 = map :=
  List.takeWhile_append_dropWhile

theorem lt_of_mem_lowerBound {map : List (K × V)} {k : K} {kv : K × V}
    (h : kv ∈ (lowerBound map k).1) : kv.1 < k := by
  simpa using List.mem_takeWhile_imp h

theorem le_of_lowerBound_eq {map : List (K × V)} {k : K} {next : K × V} {rest : List (K × V)}
    (h : (lowerBound map k).2 = next :: rest) : k ≤ next.1 := by
  have hne : map.dropWhile (fun kv => decide (kv.1 < k)) ≠ [] := by
    intro hnil
    rw [lowerBound, hnil] at h
    cases h
  have hnot := List.head_dropWhile_not (fun kv : K × V => decide (kv.1 < k)) hne
  simp only [lowerBound] at h
  simpa [h] using hnot

variable [AddCommGroup K]

/-- Of two keys at the same distance the greater one counts. -/
structure IsNearest (map : List (K × V)) (k : K) (kv : K × V) : Prop where
  mem : kv ∈ map
  le : ∀ kv' ∈ map, |kv.1 - k| ≤ |kv'.1 - k|
  tie : ∀ kv' ∈ map, |kv'.1 - k| = |kv.1 - k| → kv'.1 ≤ kv.1

variable [IsOrderedAddMonoid K] {before after : List (K × V)} {k : K} {prev next : K × V}

theorem dist_of_le {a : K} (h : a ≤ k) : |a - k| = k - a := by
  rw [abs_of_nonpos (sub_nonpos.mpr h), neg_sub]

theorem dist_of_ge {a : K} (h : k ≤ a) : |a - k| = a - k := abs_of_nonneg (sub_nonneg.mpr h)

theorem isNearest_head (hge : k ≤ next.1)
    (hsorted : (next :: after).Pairwise fun a b => a.1 < b.1) : IsNearest (next :: after) k next := by
  have hafter := (List.pairwise_cons.mp hsorted).1
  refine ⟨List.mem_cons_self, ?_, ?_⟩
  · intro kv hkv
    rcases List.mem_cons.mp hkv with rfl | hkv
    · exact le_refl _
    · have hle := (hafter kv hkv).le
      rw [dist_of_ge hge, dist_of_ge (hge.trans hle)]
      exact sub_le_sub_right hle k
  · intro kv hkv heq
    rcases List.mem_cons.mp hkv with rfl | hkv
    · exact le_refl _
    · have hle := (hafter kv hkv).le
      rw [dist_of_ge hge, dist_of_ge (hge.trans hle)] at heq
      exact (sub_left_inj.mp heq).le

theorem isNearest_last (hlt : prev.1 < k)
    (hsorted : (before ++ [prev]).Pairwise fun a b => a.1 < b.1) :
    IsNearest (before ++ [prev]) k prev := by
  have hbefore : ∀ kv ∈ before, kv.1 < prev.1 := fun kv hkv =>
    (List.pairwise_append.mp hsorted).2.2 kv hkv prev (List.mem_singleton_self prev)
  have hle : ∀ kv ∈ before ++ [prev], kv.1 ≤ prev.1 := by
    intro kv hkv
    rcases List.mem_append.mp hkv with hkv | hkv
    · exact (hbefore kv hkv).le
    · rw [List.mem_singleton.mp hkv]
  refine ⟨by simp, ?_, fun kv hkv _ => hle kv hkv⟩
  intro kv hkv
  rw [dist_of_le hlt.le, dist_of_le ((hle kv hkv).trans hlt.le)]
  exact sub_le_sub_left (hle kv hkv) k

theorem isNearest_between (hlt : prev.1 < k) (hge : k ≤ next.1)
    (hsorted : ((before ++ [prev]) ++ next :: after).Pairwise fun a b => a.1 < b.1) :
    IsNearest ((before ++ [prev]) ++ next :: after) k
      (if k - prev.1 < next.1 - k then prev else next) := by
  obtain ⟨hsb, hsa, -⟩ := List.pairwise_append.mp hsorted
  have hb := isNearest_last hlt hsb
  have ha := isNearest_head hge hsa
  have hprev := dist_of_le hlt.le
  have hnext := dist_of_ge hge
  have hbefore : ∀ kv ∈ before ++ [prev], kv.1 < next.1 := fun kv hkv =>
    (List.pairwise_append.mp hsorted).2.2 kv hkv next List.mem_cons_self
  split
  · rename_i hnear
    rw [← hprev, ← hnext] at hnear
    refine ⟨List.mem_append_left _ hb.mem, ?_, ?_⟩
    · intro kv hkv
      rcases List.mem_append.mp hkv with hkv | hkv
      · exact hb.le kv hkv
      · exact hnear.le.trans (ha.le kv hkv)
    · intro kv hkv heq
      rcases List.mem_append.mp hkv with hkv | hkv
      · exact hb.tie kv hkv heq
      · exact absurd heq (hnear.trans_le (ha.le kv hkv)).ne'
  · rename_i hfar
    rw [not_lt, ← hprev, ← hnext] at hfar
    refine ⟨List.mem_append_right _ ha.mem, ?_, ?_⟩
    · intro kv hkv
      rcases List.mem_append.mp hkv with hkv | hkv
      · exact hfar.trans (hb.le kv hkv)
      · exact ha.le kv hkv
    · intro kv hkv heq
      rcases List.mem_append.mp hkv with hkv | hkv
      · exact (hbefore kv hkv).le
      · exact ha.tie kv hkv heq

end AwHal.Lib
