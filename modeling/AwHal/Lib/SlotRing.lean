import Mathlib.Logic.Function.Basic
import Mathlib.Data.List.Basic

/-!
# Rings of slots

A ring has `n` slots, an index to read at, an index to write at and a count of the slots in use.  The
indices move on by one and start again at the end.  The writer fills the slot at its index before it
moves on, so the slot is written first and counted later.
-/

namespace AwHal.Lib

variable {α : Type}

structure SlotRing (α : Type) where
  buf : Nat → α
  write_id : Nat
  read_id : Nat
  buf_used : Int

/-- The index after `i`, among `n`. -/
def nextSlot (n i : Nat) : Nat :=
  if i + 1 ≥ n then 0 else i + 1

/-- The slot `k` places after `i`, among `n`. -/
def slotAfter (n i k : Nat) : Nat := (i + k) % n

namespace SlotRing

def write (slot : Nat) (x : α) (r : SlotRing α) : SlotRing α :=
  { r with buf := Function.update r.buf slot x }

def push (n : Nat) (r : SlotRing α) : SlotRing α :=
  { r with write_id := nextSlot n r.write_id, buf_used := r.buf_used + 1 }

def pop (n : Nat) (r : SlotRing α) : SlotRing α :=
  { r with read_id := nextSlot n r.read_id, buf_used := r.buf_used - 1 }

/-- What is in the slots in use, from the read index on. -/
def contents (n : Nat) (r : SlotRing α) : List α :=
  (List.range r.buf_used.toNat).map fun k => r.buf (slotAfter n r.read_id k)

/-- The count fits the ring and the write index lies behind the slots in use. -/
structure Fits (n : Nat) (r : SlotRing α) : Prop where
  read_lt : r.read_id < n
  used_nonneg : 0 ≤ r.buf_used
  used_le : r.buf_used ≤ n
  write_eq : r.write_id = slotAfter n r.read_id r.buf_used.toNat

end SlotRing

/-! ## Indices -/

variable {n i j k : Nat}

theorem nextSlot_eq (h : i < n) : nextSlot n i = slotAfter n i 1 := by
  unfold nextSlot slotAfter
  split
  · have heq : i + 1 = n := by omega
    rw [heq, Nat.mod_self]
  · rw [Nat.mod_eq_of_lt (by omega)]

theorem slotAfter_lt (h : 0 < n) : slotAfter n i k < n := Nat.mod_lt _ h

theorem slotAfter_zero (h : i < n) : slotAfter n i 0 = i := Nat.mod_eq_of_lt h

theorem slotAfter_slotAfter : slotAfter n (slotAfter n i j) k = slotAfter n i (j + k) := by
  unfold slotAfter
  rw [Nat.mod_add_mod, Nat.add_assoc]

theorem slotAfter_ne (hjk : j < k) (hk : k < n) : slotAfter n i j ≠ slotAfter n i k := by
  unfold slotAfter
  intro heq
  have hmod : (i + k - (i + j)) % n = 0 := Nat.sub_mod_eq_zero_of_mod_eq heq.symm
  rw [Nat.add_sub_add_left, Nat.mod_eq_of_lt (by omega)] at hmod
  omega

namespace SlotRing

variable {r : SlotRing α}

theorem length_contents : (r.contents n).length = r.buf_used.toNat := by simp [contents]

theorem fits_empty (buf : Nat → α) (hn : 0 < n) : Fits n ⟨buf, 0, 0, 0⟩ := by
  refine ⟨hn, Int.le_refl 0, ?_, (slotAfter_zero hn).symm⟩
  show (0 : Int) ≤ n
  omega

/-! ## The writer -/

theorem Fits.write (h : r.Fits n) (slot : Nat) (x : α) : (r.write slot x).Fits n :=
  ⟨h.read_lt, h.used_nonneg, h.used_le, h.write_eq⟩

theorem contents_write (hk : r.buf_used ≤ k) (hn : k < n) (x : α) :
    (r.write (slotAfter n r.read_id k) x).contents n = r.contents n := by
  apply List.map_congr_left
  intro k' hk'
  have hk' : k' < r.buf_used.toNat := List.mem_range.mp hk'
  have hlt : k' < k := by omega
  exact Function.update_of_ne (slotAfter_ne hlt hn) x r.buf

theorem Fits.contents_write_next (h : r.Fits n) (hroom : r.buf_used < n) (x : α) :
    (r.write r.write_id x).contents n = r.contents n := by
  have hused := h.used_nonneg
  rw [h.write_eq]
  apply contents_write
  · omega
  · omega

theorem Fits.push (h : r.Fits n) (hroom : r.buf_used < n) : (r.push n).Fits n := by
  have hused := h.used_nonneg
  have hnext : (r.buf_used + 1).toNat = r.buf_used.toNat + 1 := by omega
  refine ⟨h.read_lt, ?_, ?_, ?_⟩
  · show 0 ≤ r.buf_used + 1
    omega
  · show r.buf_used + 1 ≤ n
    omega
  · show nextSlot n r.write_id = slotAfter n r.read_id (r.buf_used + 1).toNat
    have hlt : r.write_id < n := by
      rw [h.write_eq]
      exact slotAfter_lt (by omega)
    rw [nextSlot_eq hlt, h.write_eq, slotAfter_slotAfter, hnext]

theorem Fits.contents_push (h : r.Fits n) :
    (r.push n).contents n = r.contents n ++ [r.buf r.write_id] := by
  have hused := h.used_nonneg
  have hnext : (r.buf_used + 1).toNat = r.buf_used.toNat + 1 := by omega
  show (List.range (r.buf_used + 1).toNat).map _ = _
  rw [hnext, List.range_succ, List.map_append, h.write_eq]
  rfl

/-! ## The reader -/

theorem Fits.pop (h : r.Fits n) (hsome : 0 < r.buf_used) : (r.pop n).Fits n := by
  have hle := h.used_le
  have hread := h.read_lt
  refine ⟨?_, ?_, ?_, ?_⟩
  · show nextSlot n r.read_id < n
    rw [nextSlot_eq hread]
    exact slotAfter_lt (by omega)
  · show 0 ≤ r.buf_used - 1
    omega
  · show r.buf_used - 1 ≤ n
    omega
  · show r.write_id = slotAfter n (nextSlot n r.read_id) (r.buf_used - 1).toNat
    have hone : 1 + (r.buf_used - 1).toNat = r.buf_used.toNat := by omega
    rw [nextSlot_eq hread, slotAfter_slotAfter, hone]
    exact h.write_eq

theorem Fits.contents_pop (h : r.Fits n) (hsome : 0 < r.buf_used) :
    r.contents n = r.buf r.read_id :: (r.pop n).contents n := by
  have hread := h.read_lt
  have hone : r.buf_used.toNat = (r.buf_used - 1).toNat + 1 := by omega
  show (List.range r.buf_used.toNat).map _ = _
  rw [hone, List.range_succ_eq_map, List.map_cons, List.map_map, slotAfter_zero hread]
  congr 1
  apply List.map_congr_left
  intro k _
  show r.buf (slotAfter n r.read_id (k + 1)) = r.buf (slotAfter n (nextSlot n r.read_id) k)
  rw [nextSlot_eq hread, slotAfter_slotAfter, Nat.add_comm 1 k]

end SlotRing

/-! ## Rings without a count

The slots in use are those from the read index up to the write index, so that one slot is never used. -/

/-- The number of slots from `i` up to `j`, among `n`. -/
def slotsBetween (n i j : Nat) : Nat := (j + n - i) % n

theorem slotsBetween_lt (h : 0 < n) : slotsBetween n i j < n := Nat.mod_lt _ h

theorem slotsBetween_self : slotsBetween n i i = 0 := by
  rw [slotsBetween, Nat.add_sub_cancel_left, Nat.mod_self]

theorem slotAfter_slotsBetween (hi : i < n) (hj : j < n) : slotAfter n i (slotsBetween n i j) = j := by
  have hsum : i + (j + n - i) = j + n := by omega
  rw [slotAfter, slotsBetween, Nat.add_mod_mod, hsum, Nat.add_mod_right, Nat.mod_eq_of_lt hj]

theorem slotsBetween_eq_zero (hi : i < n) (hj : j < n) : slotsBetween n i j = 0 ↔ i = j := by
  constructor
  · intro hzero
    have hslot := slotAfter_slotsBetween hi hj
    rwa [hzero, slotAfter_zero hi] at hslot
  · intro heq
    rw [heq]
    exact slotsBetween_self

theorem slotsBetween_slotAfter (hi : i < n) (hk : k < n) : slotsBetween n i (slotAfter n i k) = k := by
  have hn : 0 < n := Nat.zero_lt_of_lt hi
  by_contra hne
  have hslot := slotAfter_slotsBetween hi (slotAfter_lt hn : slotAfter n i k < n)
  have hlt := slotsBetween_lt (i := i) (j := slotAfter n i k) hn
  rcases Nat.lt_or_gt_of_ne hne with h | h
  · exact slotAfter_ne h hk hslot
  · exact slotAfter_ne h hlt hslot.symm

/-- The next write index is the read index when all slots but one are in use. -/
theorem slotsBetween_next (hi : i < n) (hj : j < n) (hne : slotAfter n j 1 ≠ i) :
    slotsBetween n i (slotAfter n j 1) = slotsBetween n i j + 1 := by
  have hlt := slotsBetween_lt (i := i) (j := j) (Nat.zero_lt_of_lt hi)
  have hstep : slotAfter n j 1 = slotAfter n i (slotsBetween n i j + 1) := by
    rw [← slotAfter_slotAfter, slotAfter_slotsBetween hi hj]
  have hroom : slotsBetween n i j + 1 ≠ n := by
    intro hfull
    apply hne
    rw [hstep, hfull, slotAfter, Nat.add_mod_right, Nat.mod_eq_of_lt hi]
  rw [hstep, slotsBetween_slotAfter hi (by omega)]

theorem slotsBetween_pop (hi : i < n) (hj : j < n) (hne : i ≠ j) :
    slotsBetween n i j = slotsBetween n (slotAfter n i 1) j + 1 := by
  have hn : 0 < n := Nat.zero_lt_of_lt hi
  have hpos : slotsBetween n i j ≠ 0 := fun hzero => hne ((slotsBetween_eq_zero hi hj).mp hzero)
  have hlt := slotsBetween_lt (i := i) (j := j) hn
  have hrest : slotAfter n (slotAfter n i 1) (slotsBetween n i j - 1) = j := by
    rw [slotAfter_slotAfter, Nat.add_sub_cancel' (by omega), slotAfter_slotsBetween hi hj]
  have hcount : slotsBetween n (slotAfter n i 1) j = slotsBetween n i j - 1 := by
    conv_lhs => rw [← hrest]
    exact slotsBetween_slotAfter (slotAfter_lt hn) (by omega)
  omega

/-- A ring of `n` slots with a read and a write index, seen as one with a count. -/
def ringBetween (n : Nat) (buf : Nat → α) (write_id read_id : Nat) : SlotRing α :=
  ⟨buf, write_id, read_id, slotsBetween n read_id write_id⟩

theorem fits_ringBetween (buf : Nat → α) (hi : i < n) (hj : j < n) :
    (ringBetween n buf j i).Fits n := by
  have hlt := slotsBetween_lt (i := i) (j := j) (Nat.zero_lt_of_lt hi)
  refine ⟨hi, Int.natCast_nonneg _, ?_, (slotAfter_slotsBetween hi hj).symm⟩
  show ((slotsBetween n i j : Nat) : Int) ≤ n
  omega

theorem ringBetween_push {buf : Nat → α} (hi : i < n) (hj : j < n) (hne : slotAfter n j 1 ≠ i)
    (x : α) :
    ringBetween n (Function.update buf j x) (slotAfter n j 1) i =
      ((ringBetween n buf j i).write j x).push n := by
  simp only [ringBetween, SlotRing.write, SlotRing.push, slotsBetween_next hi hj hne, nextSlot_eq hj,
    Int.natCast_add, Int.natCast_one]

theorem ringBetween_pop {buf : Nat → α} (hi : i < n) (hj : j < n) (hne : i ≠ j) :
    ringBetween n buf j (slotAfter n i 1) = (ringBetween n buf j i).pop n := by
  simp only [ringBetween, SlotRing.pop, slotsBetween_pop hi hj hne, nextSlot_eq hi,
    Int.natCast_add, Int.natCast_one, Int.add_sub_cancel]

theorem contents_ringBetween_push {buf : Nat → α} (hi : i < n) (hj : j < n)
    (hne : slotAfter n j 1 ≠ i) (x : α) :
    (ringBetween n (Function.update buf j x) (slotAfter n j 1) i).contents n =
      (ringBetween n buf j i).contents n ++ [x] := by
  have hfits := fits_ringBetween buf hi hj
  have hcount : (ringBetween n buf j i).buf_used < n :=
    Int.ofNat_lt.mpr (slotsBetween_lt (Nat.zero_lt_of_lt hj))
  rw [ringBetween_push hi hj hne, (hfits.write j x).contents_push]
  congr 1
  · exact hfits.contents_write_next hcount x
  · exact congrArg (fun y => [y]) (Function.update_self ..)

theorem contents_ringBetween_pop {buf : Nat → α} (hi : i < n) (hj : j < n) (hne : i ≠ j) :
    (ringBetween n buf j i).contents n =
      buf i :: (ringBetween n buf j (slotAfter n i 1)).contents n := by
  have hpos : slotsBetween n i j ≠ 0 := fun hzero => hne ((slotsBetween_eq_zero hi hj).mp hzero)
  rw [ringBetween_pop hi hj hne]
  exact (fits_ringBetween buf hi hj).contents_pop (Int.natCast_pos.mpr (Nat.pos_of_ne_zero hpos))

end AwHal.Lib
