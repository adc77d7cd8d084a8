import AwHal.Lib.Recency
import AwHal.Hwc.BufferPoolRelease

/-!
# Which pool buffer is reused

A pool that has got all its buffers at once hands out the one that nobody has had for the longest time.
The order is kept in generation numbers of 64 bits.
-/

namespace AwHal.Hwc.BufferPoolImpl

open AwHal.Lib

/-! ## Runs -/

def synced (k size usage : Nat) : BufferPoolImpl :=
  ({} : BufferPoolImpl).allocateBuffer k size usage true fun _ => true

/-- What calls of `acquireBuffer` and `release` lead to, with the buffers that have been acquired, the
latest one in front.  A call of `acquireBuffer` that fails changes nothing. -/
inductive Calls (k size usage : Nat) : BufferPoolImpl → List Nat → Prop
  | start : Calls k size usage (synced k size usage) []
  | acquire {p p' : BufferPoolImpl} {recent : List Nat} (h : Calls k size usage p recent)
      {buf : IonBuffer} {fence : Int} (hacquire : p.acquireBuffer = (some (buf, fence), p')) :
      Calls k size usage p' (buf.handle :: recent)
  | release {p p' : BufferPoolImpl} {recent : List Nat} (h : Calls k size usage p recent)
      {fuel handle : Nat} {fence : Int} (hheld : handle ∈ p.held)
      (hrelease : p.release fuel handle fence = .ok (some p')) : Calls k size usage p' recent

/-- What the next `acquireBuffer` does: it returns a free buffer that nobody has had for the longest time,
if there is any; and when no buffer is held, all others have been acquired since that one was. -/
structure Fair (k : Nat) (p : BufferPoolImpl) (recent : List Nat) : Prop where
  exclusive : ∀ buf fence p', p.acquireBuffer = (some (buf, fence), p') →
    buf.handle < k ∧ buf.handle ∉ p.held
  available : p.acquireBuffer.1 = none → ∀ handle < k, handle ∈ p.held
  oldest : ∀ buf fence p', p.acquireBuffer = (some (buf, fence), p') →
    ∀ handle < k, handle ∉ p.held → lastTime recent buf.handle ≤ lastTime recent handle
  turns : ∀ buf fence p', p.acquireBuffer = (some (buf, fence), p') → p.held = [] →
    buf.handle ∈ recent → ∀ handle < k, handle ≠ buf.handle →
      handle ∈ recent.take (recent.idxOf buf.handle)

/-! ## The generation numbers -/

/-- Buffer `i` is in slot `i`, busy when it is held, and the generation of the slot is the time of its
last acquisition. -/
structure Numbered (k : Nat) (p : BufferPoolImpl) (recent : List Nat) : Prop where
  allocated : p.mAllocated = true
  slots : handles p.mSlots = (List.range k).map some
  pending : p.mPendingReleaseBuffers = []
  held : ∀ handle ∈ p.held, handle < k
  generation : p.mGenerationNumber = recent.length
  busy : ∀ (i : Nat) slot, p.mSlots[i]? = some slot → (slot.mBusy = true ↔ i ∈ p.held)
  times : ∀ (i : Nat) slot, p.mSlots[i]? = some slot → slot.mGenerationNumber = lastTime recent i

variable {k size usage : Nat} {p p' : BufferPoolImpl} {recent : List Nat}

theorem Numbered.get (h : Numbered k p recent) {i : Nat} (hi : i < k) :
    ∃ slot, p.mSlots[i]? = some slot ∧ slot.Holds i := by
  have hget : (handles p.mSlots)[i]? = some (some i) := by
    rw [h.slots, List.getElem?_map, List.getElem?_range hi]
    rfl
  rw [handles, List.getElem?_map] at hget
  obtain ⟨slot, hslot, hholds⟩ := Option.map_eq_some_iff.mp hget
  exact ⟨slot, hslot, hholds⟩

theorem Numbered.holds (h : Numbered k p recent) {i : Nat} {slot : BufferSlot}
    (hslot : p.mSlots[i]? = some slot) : i < k ∧ slot.Holds i := by
  have hlength := congrArg List.length h.slots
  rw [handles, List.length_map, List.length_map, List.length_range] at hlength
  have hi : i < k := hlength ▸ (List.getElem?_eq_some_iff.mp hslot).1
  obtain ⟨slot', hslot', hholds⟩ := h.get hi
  rw [hslot] at hslot'
  cases hslot'
  exact ⟨hi, hholds⟩

theorem fillSlots_nil (size usage nextHandle i count : Nat) :
    fillSlots size usage nextHandle (fun _ => true) i count [] =
      (List.range count).map fun j =>
        { mGraphicBuffer := some { handle := nextHandle + (i + j), size, usage } } := by
  induction count generalizing i with
  | zero => rfl
  | succ count ih =>
      rw [fillSlots, List.tail_nil, ih, List.range_succ_eq_map, List.map_cons, List.map_map]
      congr 1
      apply List.map_congr_left
      intro j _
      have hindex : nextHandle + (i + 1 + j) = nextHandle + (i + (j + 1)) := by omega
      rw [hindex]
      rfl

theorem numbered_synced (k size usage : Nat) : Numbered k (synced k size usage) [] := by
  have hslots : (synced k size usage).mSlots = (List.range k).map fun j =>
      { mGraphicBuffer := some { handle := 0 + (0 + j), size, usage } } :=
    fillSlots_nil size usage 0 0 k
  have hslot : ∀ {i : Nat} {slot}, (synced k size usage).mSlots[i]? = some slot →
      slot.mBusy = false ∧ slot.mGenerationNumber = 0 := by
    intro i slot hget
    have hmem := List.mem_of_getElem? hget
    rw [hslots] at hmem
    obtain ⟨j, -, rfl⟩ := List.mem_map.mp hmem
    exact ⟨rfl, rfl⟩
  refine ⟨rfl, ?_, rfl, fun _ hmem => absurd hmem List.not_mem_nil, rfl, ?_, ?_⟩
  · rw [hslots, handles, List.map_map]
    apply List.map_congr_left
    intro j _
    simp
  · intro i slot hget
    rw [(hslot hget).1]
    show false = true ↔ i ∈ []
    simp
  · intro i slot hget
    exact (hslot hget).2

/-- A buffer is looked at exactly when it is free: no generation has come to `UINT64_MAX`. -/
theorem Numbered.acquirable_iff (h : Numbered k p recent) (hlen : recent.length < 2 ^ 64 - 1)
    {i : Nat} {slot : BufferSlot} (hslot : p.mSlots[i]? = some slot) :
    slot.Acquirable = true ↔ i ∉ p.held := by
  have hholds := (h.holds hslot).2
  have hsome : slot.mGraphicBuffer.isSome = true := by
    rw [BufferSlot.Holds] at hholds
    cases hbuf : slot.mGraphicBuffer with
    | none => rw [hbuf] at hholds; cases hholds
    | some buf => rfl
  have hle := lastTime_le recent i
  have hlt : slot.mGenerationNumber < BufferPool.UINT64_MAX := by
    rw [h.times i slot hslot]
    show _ < 2 ^ 64 - 1
    omega
  rw [← h.busy i slot hslot]
  simp [BufferSlot.Acquirable, hsome, hlt]

theorem Numbered.acquire (h : Numbered k p recent) (hlen : recent.length < 2 ^ 64 - 1)
    {buf : IonBuffer} {fence : Int} (hacquire : p.acquireBuffer = (some (buf, fence), p')) :
    Numbered k p' (buf.handle :: recent) := by
  rcases acquireBuffer_cases p with ⟨heq, -⟩ | ⟨found, slot, buf', hleast, hbuf, heq⟩
  · rw [heq] at hacquire
    cases hacquire
  rw [heq] at hacquire
  cases hacquire
  have hget := hleast.get
  have hfound : buf.handle = found := by
    have hholds := (h.holds hget).2
    rw [BufferSlot.Holds, hbuf] at hholds
    exact Option.some.inj hholds
  have hgeneration : (p.mGenerationNumber + 1) % 2 ^ 64 = recent.length + 1 := by
    rw [h.generation]
    exact Nat.mod_eq_of_lt (by omega)
  have hset : ∀ {i : Nat} {s}, (p.take found slot buf).mSlots[i]? = some s →
      (i = found ∧ s = slot.acquired (recent.length + 1)) ∨ (i ≠ found ∧ p.mSlots[i]? = some s) := by
    intro i s hs
    rw [take, List.getElem?_set, hgeneration] at hs
    split at hs
    · rename_i heq
      split at hs
      · exact .inl ⟨heq.symm, (Option.some.inj hs).symm⟩
      · cases hs
    · rename_i hne
      exact .inr ⟨Ne.symm hne, hs⟩
  refine ⟨h.allocated, ?_, h.pending, ?_, ?_, ?_, ?_⟩
  · rw [← h.slots]
    exact handles_set hget rfl
  · intro handle hmem
    rcases List.mem_cons.mp hmem with rfl | hmem
    · rw [hfound]
      exact (h.holds hget).1
    · exact h.held handle hmem
  · rw [List.length_cons]
    exact hgeneration
  · intro i s hs
    show s.mBusy = true ↔ i ∈ buf.handle :: p.held
    rw [List.mem_cons, hfound]
    rcases hset hs with ⟨rfl, rfl⟩ | ⟨hne, hs⟩
    · simp [BufferSlot.acquired]
    · rw [h.busy i s hs, or_iff_right hne]
  · intro i s hs
    rw [hfound]
    rcases hset hs with ⟨rfl, rfl⟩ | ⟨hne, hs⟩
    · exact (lastTime_cons_self recent i).symm
    · rw [lastTime_cons_of_ne hne.symm]
      exact h.times i s hs

theorem Numbered.release (h : Numbered k p recent) (hinv : Inv p) {fuel handle : Nat} {fence : Int}
    (hheld : handle ∈ p.held) (hrelease : p.release fuel handle fence = .ok (some p')) :
    Numbered k p' recent := by
  rcases release_cases hrelease with
    ⟨i, slot, hfirst, rfl⟩ | ⟨hpasses, -, rfl⟩ | ⟨buf, rest, -, hpending, -⟩
  · have hget := hfirst.get
    have hhandle : handle = i := by
      have hholds : some handle = some i := hfirst.holds.symm.trans (h.holds hget).2
      exact Option.some.inj hholds
    have hslots : (p.releaseAt handle i fence).mSlots = p.mSlots.set i (slot.released fence) :=
      releaseAt_mSlots hget
    have hset : ∀ {j : Nat} {s}, (p.releaseAt handle i fence).mSlots[j]? = some s →
        (j = i ∧ s = slot.released fence) ∨ (j ≠ i ∧ p.mSlots[j]? = some s) := by
      intro j s hs
      rw [hslots, List.getElem?_set] at hs
      split at hs
      · rename_i heq
        split at hs
        · exact .inl ⟨heq.symm, (Option.some.inj hs).symm⟩
        · cases hs
      · rename_i hne
        exact .inr ⟨Ne.symm hne, hs⟩
    refine ⟨h.allocated, ?_, h.pending, fun x hx => h.held x (List.mem_of_mem_erase hx),
      h.generation, ?_, ?_⟩
    · rw [← h.slots, hslots]
      exact handles_set hget rfl
    · intro j s hs
      show s.mBusy = true ↔ j ∈ p.held.erase handle
      rw [hhandle]
      rcases hset hs with ⟨rfl, rfl⟩ | ⟨hne, hs⟩
      · simpa [BufferSlot.released] using hinv.nodup.not_mem_erase
      · rw [h.busy j s hs, List.mem_erase_of_ne hne]
    · intro j s hs
      rcases hset hs with ⟨rfl, rfl⟩ | ⟨-, hs⟩
      · exact h.times j slot hget
      · exact h.times j s hs
  · -- a buffer that is held is in its slot
    obtain ⟨slot, hslot, hholds⟩ := h.get (h.held handle hheld)
    exact absurd hholds (hpasses slot (List.mem_of_getElem? hslot)).2
  · rw [h.pending] at hpending
    cases hpending

theorem Calls.reachable (h : Calls k size usage p recent) : Reachable p := by
  induction h with
  | start => exact Reachable.new.allocateBuffer k size usage true _
  | acquire _ hacquire ih =>
      have hnext := ih.acquireBuffer
      rw [hacquire] at hnext
      exact hnext
  | release _ hheld hrelease ih => exact ih.release hheld hrelease

theorem Calls.numbered (h : Calls k size usage p recent) (hlen : recent.length < 2 ^ 64) :
    Numbered k p recent := by
  induction h with
  | start => exact numbered_synced k size usage
  | acquire _ hacquire ih =>
      rw [List.length_cons] at hlen
      exact (ih (by omega)).acquire (by omega) hacquire
  | release h hheld hrelease ih => exact (ih hlen).release h.reachable.inv hheld hrelease

/-! ## Turns -/

/-- As long as fewer than `UINT64_MAX` acquisitions have been made, a buffer is handed out to one caller at
a time, the call fails only when all buffers are held, and the buffer is the one that was acquired longest
ago. -/
theorem calls_fair (h : Calls k size usage p recent) (hlen : recent.length < 2 ^ 64 - 1) :
    Fair k p recent := by
  have hnum := h.numbered (by omega)
  have hfound : ∀ {buf fence p'}, p.acquireBuffer = (some (buf, fence), p') →
      buf.handle < k ∧ buf.handle ∉ p.held ∧
        ∀ handle < k, handle ∉ p.held → lastTime recent buf.handle ≤ lastTime recent handle := by
    intro buf fence p' hacquire
    rcases acquireBuffer_cases p with ⟨heq, -⟩ | ⟨found, slot, buf', hleast, hbuf, heq⟩
    · rw [heq] at hacquire
      cases hacquire
    rw [heq] at hacquire
    cases hacquire
    obtain ⟨hlt, hholds⟩ := hnum.holds hleast.get
    rw [BufferSlot.Holds, hbuf] at hholds
    cases Option.some.inj hholds
    refine ⟨hlt, (hnum.acquirable_iff hlen hleast.get).mp hleast.eligible, ?_⟩
    intro handle hhandle hfree
    obtain ⟨s, hs, -⟩ := hnum.get hhandle
    have hle := hleast.least handle s hs ((hnum.acquirable_iff hlen hs).mpr hfree)
    rw [hnum.times _ slot hleast.get, hnum.times handle s hs] at hle
    exact hle
  refine ⟨?_, ?_, ?_, ?_⟩
  · intro buf fence p' hacquire
    exact ⟨(hfound hacquire).1, (hfound hacquire).2.1⟩
  · intro hnone handle hhandle
    rcases acquireBuffer_cases p with ⟨-, hall⟩ | ⟨found, slot, buf, -, -, heq⟩
    · obtain ⟨s, hs, -⟩ := hnum.get hhandle
      have hbusy := hall hnum.allocated s (List.mem_of_getElem? hs)
      by_contra hfree
      rw [(hnum.acquirable_iff hlen hs).mpr hfree] at hbusy
      cases hbusy
    · rw [heq] at hnone
      cases hnone
  · intro buf fence p' hacquire
    exact (hfound hacquire).2.2
  · intro buf fence p' hacquire hnil hmem handle hhandle hne
    have hfree : handle ∉ p.held := by
      rw [hnil]
      exact List.not_mem_nil
    exact mem_take_of_lastTime_le hmem hne ((hfound hacquire).2.2 handle hhandle hfree)

theorem calls_fair_two : ∃ p, Calls 2 4096 0 p [1, 0] ∧ Fair 2 p [1, 0] := by
  have hstart : Calls 2 4096 0 (synced 2 4096 0) [] := .start
  have hfirst : Calls 2 4096 0 (synced 2 4096 0).acquireBuffer.2 [0] :=
    hstart.acquire (show (synced 2 4096 0).acquireBuffer = (some (⟨0, 4096, 0⟩, -1), _) from rfl)
  have hsecond : Calls 2 4096 0 (synced 2 4096 0).acquireBuffer.2.acquireBuffer.2 [1, 0] :=
    hfirst.acquire (show (synced 2 4096 0).acquireBuffer.2.acquireBuffer =
      (some (⟨1, 4096, 0⟩, -1), _) from rfl)
  exact ⟨_, hsecond, calls_fair hsecond (by decide)⟩

/-! ## The last generation -/

def onlySlot (n : Nat) : BufferSlot :=
  { mGraphicBuffer := some { handle := 0, size := 4096, usage := 0 }, mGenerationNumber := n }

def oneBuffer (n : Nat) : BufferPoolImpl :=
  { synced 1 4096 0 with mSlots := [onlySlot n], mGenerationNumber := n }

theorem acquireBuffer_oneBuffer {n : Nat} (hn : n < 2 ^ 64 - 1) :
    (oneBuffer n).acquireBuffer =
      (some (⟨0, 4096, 0⟩, -1), (oneBuffer n).take 0 (onlySlot n) ⟨0, 4096, 0⟩) := by
  rcases acquireBuffer_cases (oneBuffer n) with ⟨-, hall⟩ | ⟨found, slot, buf, hleast, hbuf, heq⟩
  · have hnot := hall rfl (onlySlot n) List.mem_cons_self
    have hgeneration : decide (n < BufferPool.UINT64_MAX) = false := hnot
    exact absurd hn (of_decide_eq_false hgeneration)
  · have hget : [onlySlot n][found]? = some slot := hleast.get
    have hfound : found = 0 := by
      have hlt := (List.getElem?_eq_some_iff.mp hget).1
      rw [List.length_singleton] at hlt
      omega
    subst hfound
    cases hget
    cases hbuf
    exact heq

theorem calls_oneBuffer {n : Nat} (hn : n ≤ 2 ^ 64 - 1) :
    ∃ recent, recent.length = n ∧ Calls 1 4096 0 (oneBuffer n) recent := by
  induction n with
  | zero => exact ⟨[], rfl, .start⟩
  | succ n ih =>
      obtain ⟨recent, hlength, hcalls⟩ := ih (by omega)
      have hlent := hcalls.acquire (acquireBuffer_oneBuffer (by omega))
      have hfirst : ((oneBuffer n).take 0 (onlySlot n) ⟨0, 4096, 0⟩).FirstAt 0 0
          ((onlySlot n).acquired ((n + 1) % 2 ^ 64)) := ⟨rfl, rfl, by simp⟩
      have hback := release_of_firstAt hfirst 0 (-1)
      have hnext : ((oneBuffer n).take 0 (onlySlot n) ⟨0, 4096, 0⟩).releaseAt 0 0 (-1) =
          oneBuffer (n + 1) := by
        have hgeneration : (n + 1) % 2 ^ 64 = n + 1 := Nat.mod_eq_of_lt (by omega)
        simp only [take, oneBuffer, hgeneration]
        rfl
      rw [hnext] at hback
      exact ⟨0 :: recent, by rw [List.length_cons, hlength],
        hlent.release List.mem_cons_self hback⟩

/-- After `UINT64_MAX` acquisitions the only buffer is free, and is never found again. -/
theorem oneBuffer_not_fair :
    ∃ recent, Calls 1 4096 0 (oneBuffer (2 ^ 64 - 1)) recent ∧
      ¬ Fair 1 (oneBuffer (2 ^ 64 - 1)) recent := by
  obtain ⟨recent, -, hcalls⟩ := calls_oneBuffer (n := 2 ^ 64 - 1) (Nat.le_refl _)
  refine ⟨recent, hcalls, ?_⟩
  intro hfair
  have hnone : (oneBuffer (2 ^ 64 - 1)).acquireBuffer.1 = none := by decide +kernel
  have hheld := hfair.available hnone 0 (by omega)
  exact List.not_mem_nil hheld

end AwHal.Hwc.BufferPoolImpl
