import Mathlib.Data.List.Induction
import Mathlib.Data.List.Perm.Basic

/-!
# Insertion with a gap

An element is inserted into a list in place: the elements that it goes in front of move up by `k`
places, one after the other, and leave a hole that comes down.  Between two moves an element is there
twice; with the inserted element in the hole the list is a permutation of the old one.  With a gap of
one, insertion keeps the front of the list in order.
-/

namespace AwHal.Lib

variable {α : Type*}

/-- The hole at `p` comes down by steps of `k` while `above` holds of the element below it. -/
def sink (k : Nat) (hk : 0 < k) (above : α → Bool) (l : List α) (p : Nat) : List α × Nat :=
  if k ≤ p then
    match l[p - k]? with
    | none => (l, p)
    | some b => if above b then sink k hk above (l.set p b) (p - k) else (l, p)
  else (l, p)
termination_by p

section Sink

variable (k : Nat) (hk : 0 < k) (above : α → Bool)

theorem sink_length (l : List α) (p : Nat) : (sink k hk above l p).1.length = l.length := by
  fun_induction sink k hk above l p with
  | case1 | case3 | case4 => rfl
  | case2 l p hle b hb habove ih => rw [ih, List.length_set]

theorem sink_le (l : List α) (p : Nat) : (sink k hk above l p).2 ≤ p := by
  fun_induction sink k hk above l p with
  | case1 | case3 | case4 => exact Nat.le_refl _
  | case2 l p hle b hb habove ih => omega

/-- With `e` in the hole the list is a permutation of the one it was, with `e` in the first hole. -/
theorem sink_perm (e : α) {l : List α} {p : Nat} (hp : p < l.length) :
    ((sink k hk above l p).1.set (sink k hk above l p).2 e).Perm (l.set p e) := by
  fun_induction sink k hk above l p with
  | case1 | case3 | case4 => exact List.Perm.refl _
  | case2 l p hle b hb habove ih =>
      obtain ⟨hlt, hvalue⟩ := List.getElem?_eq_some_iff.mp hb
      -- the hole and the element below it change places
      have hexchange := @List.set_set_perm α (l.set p e) p (p - k) (by simpa using hp)
        (by simpa using hlt)
      rw [List.getElem_set_self, List.getElem_set_ne (by omega), hvalue, List.set_set] at hexchange
      exact (ih (by rw [List.length_set]; omega)).trans hexchange

end Sink

/-- The element at `i` is inserted: it is held, the hole sinks, and the element is put there. -/
def insertAt (k : Nat) (hk : 0 < k) (above : α → α → Bool) (l : List α) (i : Nat) : List α :=
  match l[i]? with
  | none => l
  | some e =>
      let (l, p) := sink k hk (above e) l i
      l.set p e

def insertFrom (k : Nat) (hk : 0 < k) (above : α → α → Bool) : Nat → Nat → List α → List α
  | 0, _, l => l
  | n + 1, i, l => insertFrom k hk above n (i + 1) (insertAt k hk above l i)

section Insertions

variable (k : Nat) (hk : 0 < k) (above : α → α → Bool)

theorem insertAt_perm (l : List α) (i : Nat) : (insertAt k hk above l i).Perm l := by
  unfold insertAt
  cases hi : l[i]? with
  | none => exact List.Perm.refl l
  | some e =>
      obtain ⟨hlt, hvalue⟩ := List.getElem?_eq_some_iff.mp hi
      have hperm := sink_perm k hk (above e) e hlt
      have hsame : l.set i e = l := by rw [← hvalue, List.set_getElem_self]
      rw [hsame] at hperm
      exact hperm

theorem insertFrom_perm (n i : Nat) (l : List α) : (insertFrom k hk above n i l).Perm l := by
  induction n generalizing i l with
  | zero => exact List.Perm.refl l
  | succ n ih => exact (ih (i + 1) (insertAt k hk above l i)).trans (insertAt_perm k hk above l i)

end Insertions

/-! ## A gap of one -/

/-- The elements that are moved stand next to each other in front of the first hole. -/
theorem sink_one (above : α → Bool) (front : List α) (h : α) (back : List α) :
    ∃ below moved g, front = below ++ moved ∧ (∀ b ∈ moved, above b = true) ∧
      (∀ b ∈ below.getLast?, above b = false) ∧
      sink 1 Nat.one_pos above (front ++ h :: back) front.length =
        (below ++ g :: (moved ++ back), below.length) := by
  induction front using List.reverseRecOn generalizing h back with
  | nil => exact ⟨[], [], h, rfl, by simp, by simp, by rw [sink]; rfl⟩
  | append_singleton front b ih =>
      have hlength : (front ++ [b]).length = front.length + 1 := by simp
      have hget : (front ++ [b] ++ h :: back)[front.length + 1 - 1]? = some b := by simp
      by_cases hb : above b = true
      · obtain ⟨below, moved, g, rfl, hmoved, hbelow, hsink⟩ := ih b (b :: back)
        refine ⟨below, moved ++ [b], g, by simp, ?_, hbelow, ?_⟩
        · intro c hc
          rcases List.mem_append.mp hc with hc | hc
          · exact hmoved c hc
          · rwa [List.mem_singleton.mp hc]
        · rw [sink, hlength, if_pos (by omega), hget]
          dsimp only
          have hset : ((below ++ moved) ++ [b] ++ h :: back).set ((below ++ moved).length + 1) b =
              (below ++ moved) ++ b :: b :: back := by
            rw [List.append_assoc, List.set_append_right _ _ (by omega), Nat.add_sub_cancel_left]
            rfl
          rw [if_pos hb, hset, Nat.add_sub_cancel, hsink, List.append_assoc]
          rfl
      · refine ⟨front ++ [b], [], h, by simp, by simp, ?_, ?_⟩
        · simpa using hb
        · rw [sink, hlength, if_pos (by omega), hget]
          dsimp only
          rw [if_neg hb]
          simp

/-- No element stands in front of one that goes in front of it. -/
def InOrder (above : α → α → Bool) (l : List α) : Prop :=
  l.Pairwise fun b c => above c b = false

section Order

variable {above : α → α → Bool} (hasymm : ∀ b c, above b c = true → above c b = false)
  (htrans : ∀ b c d, above c b = false → above d c = false → above d b = false)

include hasymm htrans

/-- An element between those that it does not go in front of and those that it does. -/
theorem InOrder.insert {below moved : List α} (h : InOrder above (below ++ moved)) {e : α}
    (hmoved : ∀ b ∈ moved, above e b = true) (hbelow : ∀ b ∈ below.getLast?, above e b = false) :
    InOrder above (below ++ e :: moved) := by
  obtain ⟨hfront, hback, hcross⟩ := List.pairwise_append.mp h
  have hall : ∀ b ∈ below, above e b = false := by
    intro b hb
    obtain ⟨front, last, hlast⟩ := (List.eq_nil_or_concat below).resolve_left
      (List.ne_nil_of_mem hb)
    rw [List.concat_eq_append] at hlast
    rw [hlast] at hb hbelow hfront
    have hle : above e last = false := hbelow last (by simp)
    rcases List.mem_append.mp hb with hb | hb
    · have hbl := (List.pairwise_append.mp hfront).2.2 b hb last (by simp)
      exact htrans b last e hbl hle
    · rwa [List.mem_singleton.mp hb]
  refine List.pairwise_append.mpr ⟨hfront, List.pairwise_cons.mpr ⟨?_, hback⟩, ?_⟩
  · exact fun c hc => hasymm e c (hmoved c hc)
  · intro b hb c hc
    rcases List.mem_cons.mp hc with rfl | hc
    · exact hall b hb
    · exact hcross b hb c hc

theorem insertAt_inOrder {l : List α} {i : Nat} (hi : i < l.length)
    (h : InOrder above (l.take i)) :
    InOrder above ((insertAt 1 Nat.one_pos above l i).take (i + 1)) := by
  have hlength : (l.take i).length = i := by
    rw [List.length_take]
    omega
  have hsplit : l = l.take i ++ l[i] :: l.drop (i + 1) := by
    rw [List.getElem_cons_drop, List.take_append_drop]
  obtain ⟨below, moved, g, hfront, hmoved, hbelow, hsink⟩ :=
    sink_one (above l[i]) (l.take i) l[i] (l.drop (i + 1))
  rw [← hsplit, hlength] at hsink
  have hbound : (below ++ l[i] :: moved).length = i + 1 := by
    have hparts := congrArg List.length hfront
    simp only [hlength, List.length_append, List.length_cons] at hparts ⊢
    omega
  have hinsert : insertAt 1 Nat.one_pos above l i =
      (below ++ l[i] :: moved) ++ l.drop (i + 1) := by
    unfold insertAt
    rw [List.getElem?_eq_getElem hi]
    dsimp only
    rw [hsink]
    dsimp only
    rw [List.set_append_right _ _ (Nat.le_refl _), Nat.sub_self, List.append_assoc]
    rfl
  rw [hinsert, ← hbound, List.take_left]
  rw [hfront] at h
  exact h.insert hasymm htrans hmoved hbelow

/-- Insertion with a gap of one sorts the list. -/
theorem insertFrom_inOrder {n i : Nat} {l : List α} (hn : i + n = l.length)
    (h : InOrder above (l.take i)) : InOrder above (insertFrom 1 Nat.one_pos above n i l) := by
  induction n generalizing i l with
  | zero =>
      rw [List.take_of_length_le (by omega)] at h
      exact h
  | succ n ih =>
      have hlength := (insertAt_perm 1 Nat.one_pos above l i).length_eq
      exact ih (by omega) (insertAt_inOrder hasymm htrans (by omega) h)

end Order

end AwHal.Lib
