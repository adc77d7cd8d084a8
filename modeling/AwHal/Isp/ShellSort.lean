import AwHal.Lib.GapSort

/-!
# `ShellSort` of `isp_math_util.c`

Two arrays of the same length are sorted by the first one, from the largest value down.  The elements
of both are moved in the same way, so that the pairs stay together.
-/

namespace AwHal.Isp

open AwHal.Lib

namespace ShellSort

structure Arrays where
  a : List Int
  sub : List Int
deriving DecidableEq, Repr

def read (array : List Int) (i : Int) : Option Int :=
  if 0 ≤ i then array[i.toNat]? else none

def write (array : List Int) (i : Int) (value : Int) : Option (List Int) :=
  if 0 ≤ i ∧ i.toNat < array.length then some (array.set i.toNat value) else none

def shift (k : Nat) (hk : 0 < k) (x : Int) (j : Int) (s : Arrays) : Option (Int × Arrays) :=
  if 0 ≤ j then do
    let aj ← read s.a j
    if aj < x then
      let a ← write s.a (j + k) aj
      let subj ← read s.sub j
      let sub ← write s.sub (j + k) subj
      shift k hk x (j - k) ⟨a, sub⟩
    else some (j, s)
  else some (j, s)
termination_by (j + 1).toNat

def insertPair (k : Nat) (hk : 0 < k) (i : Nat) (s : Arrays) : Option Arrays := do
  let x ← read s.a i
  let y ← read s.sub i
  let (j, s) ← shift k hk x (i - k) s
  let a ← write s.a (j + k) x
  let sub ← write s.sub (j + k) y
  some ⟨a, sub⟩

def insertPairs (k : Nat) (hk : 0 < k) : Nat → Nat → Arrays → Option Arrays
  | 0, _, s => some s
  | count + 1, i, s => (insertPair k hk i s).bind (insertPairs k hk count (i + 1))

def gaps (n k : Nat) (s : Arrays) : Option Arrays :=
  if hk : 0 < k then (insertPairs k hk (n - k) k s).bind (gaps n (k / 2)) else some s
termination_by k

end ShellSort

def ShellSort (s : ShellSort.Arrays) (n : Nat) : Option ShellSort.Arrays :=
  ShellSort.gaps n (n / 2) s

namespace ShellSort

/-! ## Pairs -/

def ofPairs (pairs : List (Int × Int)) : Arrays := ⟨pairs.map Prod.fst, pairs.map Prod.snd⟩

def larger (e q : Int × Int) : Bool := q.1 < e.1

theorem read_map {pairs : List (Int × Int)} {p : Nat} {q : Int × Int} (h : pairs[p]? = some q)
    (f : Int × Int → Int) : read (pairs.map f) p = some (f q) := by
  unfold read
  rw [if_pos (Int.natCast_nonneg p), Int.toNat_natCast, List.getElem?_map, h]
  rfl

theorem write_map {pairs : List (Int × Int)} {p : Nat} (h : p < pairs.length) (q : Int × Int)
    (f : Int × Int → Int) : write (pairs.map f) p (f q) = some ((pairs.set p q).map f) := by
  unfold write
  rw [if_pos ⟨Int.natCast_nonneg p, by simpa using h⟩, Int.toNat_natCast, List.map_set]

/-- The loop moves the pairs as the hole of an insertion sinks. -/
theorem shift_eq (k : Nat) (hk : 0 < k) (e : Int × Int) {pairs : List (Int × Int)} {p : Nat}
    (hp : p < pairs.length) :
    shift k hk e.1 (p - k) (ofPairs pairs) =
      some (((sink k hk (larger e) pairs p).2 : Int) - k,
        ofPairs (sink k hk (larger e) pairs p).1) := by
  fun_induction sink k hk (larger e) pairs p with
  | case1 pairs p hle hnone =>
      rw [List.getElem?_eq_none_iff] at hnone
      omega
  | case2 pairs p hle q hq hlarger ih =>
      obtain ⟨hlt, -⟩ := List.getElem?_eq_some_iff.mp hq
      have hj : (p : Int) - k = (p - k : Nat) := by omega
      have hjk : ((p - k : Nat) : Int) + k = p := by omega
      have hless : q.1 < e.1 := of_decide_eq_true hlarger
      rw [hj, shift, if_pos (Int.natCast_nonneg _), hjk]
      simp only [ofPairs, read_map hq, write_map hp, Option.bind_eq_bind, Option.bind_some, hless,
        if_true]
      exact ih (by rw [List.length_set]; omega)
  | case3 pairs p hle q hq hlarger =>
      have hj : (p : Int) - k = (p - k : Nat) := by omega
      have hless : ¬ q.1 < e.1 := fun h => hlarger (decide_eq_true h)
      rw [hj, shift, if_pos (Int.natCast_nonneg _)]
      simp only [ofPairs, read_map hq, Option.bind_eq_bind, Option.bind_some, hless, if_false]
  | case4 pairs p hle => rw [shift, if_neg (by omega)]

theorem insertPair_eq (k : Nat) (hk : 0 < k) {pairs : List (Int × Int)} {i : Nat}
    (hi : i < pairs.length) :
    insertPair k hk i (ofPairs pairs) = some (ofPairs (insertAt k hk larger pairs i)) := by
  obtain ⟨e, he⟩ : ∃ e, pairs[i]? = some e := ⟨_, List.getElem?_eq_getElem hi⟩
  have hplace : (sink k hk (larger e) pairs i).2 < (sink k hk (larger e) pairs i).1.length := by
    rw [sink_length]
    exact Nat.lt_of_le_of_lt (sink_le k hk _ pairs i) hi
  have hread : read (ofPairs pairs).a i = some e.1 ∧ read (ofPairs pairs).sub i = some e.2 :=
    ⟨read_map he Prod.fst, read_map he Prod.snd⟩
  unfold insertPair insertAt
  rw [hread.1, hread.2, he]
  simp only [Option.bind_eq_bind, Option.bind_some, shift_eq k hk e hi, Int.sub_add_cancel]
  simp only [ofPairs, write_map hplace, Option.bind_some]

theorem insertPairs_eq (k : Nat) (hk : 0 < k) {count i : Nat} {pairs : List (Int × Int)}
    (h : i + count ≤ pairs.length) :
    insertPairs k hk count i (ofPairs pairs) =
      some (ofPairs (insertFrom k hk larger count i pairs)) := by
  induction count generalizing i pairs with
  | zero => rfl
  | succ count ih =>
      have hlength := (insertAt_perm k hk larger pairs i).length_eq
      rw [insertPairs, insertPair_eq k hk (by omega), Option.bind_some, ih (by omega)]
      rfl

/-! ## The order -/

theorem larger_asymm (b c : Int × Int) (h : larger b c = true) : larger c b = false := by
  have hlt : c.1 < b.1 := of_decide_eq_true h
  exact decide_eq_false (by omega)

theorem larger_trans (b c d : Int × Int) (h : larger c b = false) (h' : larger d c = false) :
    larger d b = false := by
  have hle : ¬ b.1 < c.1 := of_decide_eq_false h
  have hle' : ¬ c.1 < d.1 := of_decide_eq_false h'
  exact decide_eq_false (by omega)

theorem inOrder_of_short {pairs : List (Int × Int)} (h : pairs.length ≤ 1) :
    InOrder larger pairs := by
  match pairs, h with
  | [], _ => exact List.Pairwise.nil
  | [q], _ => exact List.pairwise_singleton _ q

/-- The passes end with a gap of one, which sorts the pairs. -/
theorem gaps_spec (n k : Nat) (pairs : List (Int × Int)) (hn : pairs.length = n) (hk : k ≤ n)
    (hshort : k = 0 → InOrder larger pairs) :
    ∃ sorted, gaps n k (ofPairs pairs) = some (ofPairs sorted) ∧
      sorted.Perm pairs ∧ InOrder larger sorted := by
  induction k using Nat.strongRecOn generalizing pairs with
  | _ k ih =>
      rw [gaps]
      by_cases hpos : 0 < k
      · have hperm := insertFrom_perm k hpos larger (n - k) k pairs
        have hlast : k / 2 = 0 → InOrder larger (insertFrom k hpos larger (n - k) k pairs) := by
          intro hlast
          obtain rfl : k = 1 := by omega
          refine insertFrom_inOrder larger_asymm larger_trans (by omega) (inOrder_of_short ?_)
          rw [List.length_take]
          omega
        obtain ⟨sorted, hgaps, hsorted, horder⟩ := ih (k / 2) (by omega) _
          (hperm.length_eq.trans hn) (by omega) hlast
        rw [dif_pos hpos, insertPairs_eq k hpos (by omega), Option.bind_some]
        exact ⟨sorted, hgaps, hsorted.trans hperm, horder⟩
      · rw [dif_neg hpos]
        exact ⟨pairs, rfl, List.Perm.refl pairs, hshort (by omega)⟩

end ShellSort

open ShellSort in
/-- The arrays are sorted by `a` from the largest value down, and no pair is torn apart. -/
theorem ShellSort_sorts {a sub : List Int} {n : Nat} (ha : a.length = n) (hsub : sub.length = n) :
    ∃ s, ShellSort ⟨a, sub⟩ n = some s ∧ s.a.length = n ∧ s.sub.length = n ∧
      s.a.Pairwise (fun x y => y ≤ x) ∧ (s.a.zip s.sub).Perm (a.zip sub) := by
  have hlength : (a.zip sub).length = n := by rw [List.length_zip, ha, hsub, Nat.min_self]
  have hpairs : ofPairs (a.zip sub) = ⟨a, sub⟩ := by
    rw [ofPairs, List.map_fst_zip (by omega), List.map_snd_zip (by omega)]
  obtain ⟨sorted, hgaps, hperm, horder⟩ := gaps_spec n (n / 2) (a.zip sub) hlength (by omega)
    fun hshort => inOrder_of_short (by omega)
  rw [hpairs] at hgaps
  have hsorted := hperm.length_eq.trans hlength
  refine ⟨ofPairs sorted, hgaps, ?_, ?_, ?_, ?_⟩
  · rw [ofPairs, List.length_map, hsorted]
  · rw [ofPairs, List.length_map, hsorted]
  · rw [ofPairs, List.pairwise_map]
    exact horder.imp fun h => Int.not_lt.mp (of_decide_eq_false h)
  · rw [ofPairs, ← List.zip_of_prod rfl rfl]
    exact hperm

theorem ShellSort_sorts_five :
    ∃ s, ShellSort ⟨[3, 1, 4, 1, 5], [0, 1, 2, 3, 4]⟩ 5 = some s ∧ s.a.length = 5 ∧
      s.sub.length = 5 ∧ s.a.Pairwise (fun x y => y ≤ x) ∧
      (s.a.zip s.sub).Perm ([3, 1, 4, 1, 5].zip [0, 1, 2, 3, 4]) :=
  ShellSort_sorts rfl rfl

end AwHal.Isp
