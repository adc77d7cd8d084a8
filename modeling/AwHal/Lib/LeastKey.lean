import Mathlib.Data.List.Induction
import Mathlib.Data.List.Nodup

/-!
# The first place of the least key

A table is scanned once, from the front, for the entry with the least key among those that are
eligible; of entries with equal keys the first one stays.
-/

namespace AwHal.Lib

variable {α : Type*} (p : α → Bool) (key : α → Nat)

def leastTurn (best : Option (Nat × Nat)) (entry : α × Nat) : Option (Nat × Nat) :=
  if p entry.1 then
    match best with
    | none => some (key entry.1, entry.2)
    | some (k, i) => if key entry.1 < k then some (key entry.1, entry.2) else some (k, i)
  else best

/-- The place of the first eligible entry with the least key. -/
def findLeast (xs : List α) : Option Nat :=
  (xs.zipIdx.foldl (leastTurn p key) none).map Prod.snd

/-- An eligible entry at place `i` that no eligible one before it equals and none behind it beats. -/
structure LeastAt (xs : List α) (i : Nat) (x : α) : Prop where
  get : xs[i]? = some x
  eligible : p x = true
  before : ∀ (j : Nat) y, j < i → xs[j]? = some y → p y = true → key x < key y
  least : ∀ (j : Nat) y, xs[j]? = some y → p y = true → key x ≤ key y

variable {p key} {xs : List α}

theorem LeastAt.concat {i : Nat} {x y : α} (h : LeastAt p key xs i x)
    (hy : p y = true → key x ≤ key y) : LeastAt p key (xs ++ [y]) i x := by
  have hi : i < xs.length := (List.getElem?_eq_some_iff.mp h.get).1
  refine ⟨?_, h.eligible, ?_, ?_⟩
  · rw [List.getElem?_append_left hi]
    exact h.get
  · intro j z hj hz hp
    rw [List.getElem?_append_left (by omega)] at hz
    exact h.before j z hj hz hp
  · intro j z hz hp
    rcases Nat.lt_or_ge j xs.length with hj | hj
    · rw [List.getElem?_append_left hj] at hz
      exact h.least j z hz hp
    · rw [List.getElem?_append_right hj] at hz
      have hzy : z = y := List.mem_singleton.mp (List.mem_of_getElem? hz)
      rw [hzy] at hp ⊢
      exact hy hp

theorem LeastAt.of_last {y : α} (hp : p y = true)
    (hall : ∀ z ∈ xs, p z = true → key y < key z) : LeastAt p key (xs ++ [y]) xs.length y := by
  refine ⟨by simp, hp, ?_, ?_⟩
  · intro j z hj hz hpz
    rw [List.getElem?_append_left hj] at hz
    exact hall z (List.mem_of_getElem? hz) hpz
  · intro j z hz hpz
    rcases List.mem_append.mp (List.mem_of_getElem? hz) with hmem | hmem
    · exact Nat.le_of_lt (hall z hmem hpz)
    · exact Nat.le_of_eq (by rw [List.mem_singleton.mp hmem])

variable (p key) in
theorem foldl_leastTurn (xs : List α) :
    (xs.zipIdx.foldl (leastTurn p key) none = none ∧ ∀ x ∈ xs, p x = false) ∨
      ∃ i x, xs.zipIdx.foldl (leastTurn p key) none = some (key x, i) ∧ LeastAt p key xs i x := by
  induction xs using List.reverseRecOn with
  | nil => exact .inl ⟨rfl, by simp⟩
  | append_singleton xs y ih =>
      rw [List.zipIdx_append, List.foldl_append]
      simp only [List.zipIdx_singleton, List.foldl_cons, List.foldl_nil, Nat.zero_add]
      rcases ih with ⟨hnone, hall⟩ | ⟨i, x, hsome, hleast⟩
      · rw [hnone]
        cases hp : p y with
        | false =>
            refine .inl ⟨by simp [leastTurn, hp], ?_⟩
            intro x hx
            rcases List.mem_append.mp hx with hx | hx
            · exact hall x hx
            · rw [List.mem_singleton.mp hx]
              exact hp
        | true =>
            refine .inr ⟨xs.length, y, by simp [leastTurn, hp], ?_⟩
            apply LeastAt.of_last hp
            intro z hz hpz
            rw [hall z hz] at hpz
            cases hpz
      · rw [hsome]
        by_cases hbeats : p y = true ∧ key y < key x
        · refine .inr ⟨xs.length, y, by simp [leastTurn, hbeats], ?_⟩
          apply LeastAt.of_last hbeats.1
          intro z hz hpz
          obtain ⟨j, hj⟩ := List.mem_iff_getElem?.mp hz
          have hxz := hleast.least j z hj hpz
          omega
        · refine .inr ⟨i, x, ?_, hleast.concat fun hp => by
            by_contra hlt
            exact hbeats ⟨hp, by omega⟩⟩
          rw [not_and] at hbeats
          cases hp : p y with
          | false => simp [leastTurn, hp]
          | true => simp [leastTurn, hp, hbeats hp]

theorem findLeast_eq_none_iff : findLeast p key xs = none ↔ ∀ x ∈ xs, p x = false := by
  rcases foldl_leastTurn p key xs with ⟨hnone, hall⟩ | ⟨i, x, hsome, hleast⟩
  · simp [findLeast, hnone]
    simpa using hall
  · simp only [findLeast, hsome, Option.map_some, reduceCtorEq, false_iff]
    intro hall
    have hmem := hall x (List.mem_of_getElem? hleast.get)
    rw [hleast.eligible] at hmem
    cases hmem

theorem findLeast_leastAt {i : Nat} (h : findLeast p key xs = some i) :
    ∃ x, LeastAt p key xs i x := by
  rcases foldl_leastTurn p key xs with ⟨hnone, -⟩ | ⟨j, x, hsome, hleast⟩
  · simp [findLeast, hnone] at h
  · simp only [findLeast, hsome, Option.map_some, Option.some.injEq] at h
    subst h
    exact ⟨x, hleast⟩

/-! ## Ranks -/

variable (p key xs) in
def rankBelow (k : Nat) : Nat := xs.countP fun x => p x && decide (key x < k)

def beyond (p : α → Bool) (key : α → Nat) (k : Nat) (x : α) : Bool := p x && decide (k < key x)

theorem countP_or {q r : α → Bool} (h : ∀ x ∈ xs, ¬ (q x = true ∧ r x = true)) :
    xs.countP (fun x => q x || r x) = xs.countP q + xs.countP r := by
  induction xs with
  | nil => rfl
  | cons x xs ih =>
      rw [List.countP_cons, List.countP_cons, List.countP_cons,
        ih fun y hy => h y (List.mem_cons_of_mem x hy)]
      have hx := h x List.mem_cons_self
      cases hq : q x with
      | false => simp [Nat.add_assoc]
      | true =>
          have hr : r x = false := by simpa [hq] using hx
          simp only [hr, Bool.or_false, if_true, Bool.false_eq_true, if_false]
          omega

theorem LeastAt.rankBelow_eq_zero {i : Nat} {x : α} (h : LeastAt p key xs i x) :
    rankBelow p key xs (key x) = 0 := by
  rw [rankBelow, List.countP_eq_zero]
  intro y hy hbelow
  obtain ⟨j, hj⟩ := List.mem_iff_getElem?.mp hy
  simp only [Bool.and_eq_true, decide_eq_true_eq] at hbelow
  have hle := h.least j y hj hbelow.1
  omega

/-- Where no two keys are equal, an entry is the only one that counts with its own key. -/
theorem countP_key_eq (hnodup : (xs.map key).Nodup) {x : α} (hx : x ∈ xs) (hp : p x = true) :
    xs.countP (fun y => p y && decide (key y = key x)) = 1 := by
  have hcount : (xs.map key).count (key x) = 1 :=
    List.count_eq_one_of_mem hnodup (List.mem_map_of_mem hx)
  rw [← hcount, List.count, List.countP_map]
  apply List.countP_congr
  intro y hy
  simp only [Bool.and_eq_true, decide_eq_true_eq, Function.comp_apply, beq_iff_eq]
  constructor
  · exact fun h => h.2
  · intro heq
    rw [List.inj_on_of_nodup_map hnodup hy hx heq]
    exact ⟨hp, rfl⟩

section Next

variable {i : Nat} {x : α}

/-- The least of the keys beyond has the next rank. -/
theorem LeastAt.rankBelow_next {y : α} {j : Nat} (hnodup : (xs.map key).Nodup) (hx : x ∈ xs)
    (hp : p x = true) (h : LeastAt (beyond p key (key x)) key xs j y) :
    rankBelow p key xs (key y) = rankBelow p key xs (key x) + 1 := by
  have hy := h.eligible
  simp only [beyond, Bool.and_eq_true, decide_eq_true_eq] at hy
  rw [rankBelow, rankBelow, ← countP_key_eq hnodup hx hp, ← countP_or]
  · apply List.countP_congr
    intro z hz
    obtain ⟨k, hk⟩ := List.mem_iff_getElem?.mp hz
    have hleast := h.least k z hk
    simp only [beyond, Bool.and_eq_true, decide_eq_true_eq, Bool.or_eq_true] at hleast ⊢
    constructor
    · intro hlt
      rcases Nat.lt_trichotomy (key z) (key x) with hzx | hzx | hzx
      · exact .inl ⟨hlt.1, hzx⟩
      · exact .inr ⟨hlt.1, hzx⟩
      · have hle := hleast ⟨hlt.1, hzx⟩
        omega
    · rintro (hzx | hzx)
      · exact ⟨hzx.1, by omega⟩
      · exact ⟨hzx.1, by omega⟩
  · intro z _ hboth
    simp only [Bool.and_eq_true, decide_eq_true_eq] at hboth
    omega

/-- There is a next one as long as the ranks are not used up. -/
theorem findLeast_beyond (hnodup : (xs.map key).Nodup) (hx : x ∈ xs) (hp : p x = true)
    (hmore : rankBelow p key xs (key x) + 1 < xs.countP p) :
    ∃ j y, findLeast (beyond p key (key x)) key xs = some j ∧ xs[j]? = some y ∧ p y = true ∧
      rankBelow p key xs (key y) = rankBelow p key xs (key x) + 1 := by
  cases hfind : findLeast (beyond p key (key x)) key xs with
  | none =>
      have hnone := findLeast_eq_none_iff.mp hfind
      rw [rankBelow, ← countP_key_eq hnodup hx hp, ← countP_or] at hmore
      · apply absurd hmore
        rw [Nat.not_lt]
        apply Nat.le_of_eq
        apply List.countP_congr
        intro z hz
        have hbeyond := hnone z hz
        simp only [beyond, Bool.and_eq_false_iff, decide_eq_false_iff_not] at hbeyond
        simp only [Bool.and_eq_true, decide_eq_true_eq, Bool.or_eq_true]
        constructor
        · intro hpz
          rcases hbeyond with hfalse | hle
          · rw [hpz] at hfalse
            cases hfalse
          · rcases Nat.lt_or_eq_of_le (Nat.le_of_not_lt hle) with hlt | heq
            · exact .inl ⟨hpz, hlt⟩
            · exact .inr ⟨hpz, heq⟩
        · rintro (h | h) <;> exact h.1
      · intro z _ hboth
        simp only [Bool.and_eq_true, decide_eq_true_eq] at hboth
        omega
  | some j =>
      obtain ⟨y, hleast⟩ := findLeast_leastAt hfind
      have hy := hleast.eligible
      simp only [beyond, Bool.and_eq_true, decide_eq_true_eq] at hy
      exact ⟨j, y, rfl, hleast.get, hy.1, hleast.rankBelow_next hnodup hx hp⟩

end Next

end AwHal.Lib
