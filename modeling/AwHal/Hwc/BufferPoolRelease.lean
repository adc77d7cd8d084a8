import AwHal.Hwc.BufferPoolImpl

/-!
# Releasing a pool buffer

When `release` ends, and gives back the buffer it is called with and no other: from every state that
calls and the allocating thread lead to, whichever allocations failed.
-/

namespace AwHal.Hwc.BufferPoolImpl

open AwHal.Lib

/-! ## The invariant -/

structure Inv (p : BufferPoolImpl) : Prop where
  busy : ∀ slot ∈ p.mSlots, slot.mBusy = true → slot.mGraphicBuffer.isSome = true
  pending : ∀ b ∈ p.mPendingReleaseBuffers, b.isSome = true
  unique : Unique p.mSlots
  slotsLt : ∀ h, some h ∈ handles p.mSlots → h < p.nextHandle
  pendingLt : ∀ h, some h ∈ p.pendingHandles → h < p.nextHandle
  apart : ∀ h, some h ∈ handles p.mSlots → some h ∉ p.pendingHandles
  running : ∀ i buf, p.running = some { i, buf := some buf } →
    buf.handle < p.nextHandle ∧ some buf.handle ∉ handles p.mSlots ∧
      some buf.handle ∉ p.pendingHandles ∧ buf.handle ∉ p.held
  count : p.mAcquireBufferCount =
    busyCount p.mSlots + p.mPendingReleaseBuffers.length + p.lost
  nodup : p.held.Nodup
  heldLt : ∀ h ∈ p.held, h < p.nextHandle
  heldBusy : ∀ slot ∈ p.mSlots, ∀ h ∈ p.held, slot.Holds h → slot.mBusy = true
  held : p.lost = 0 → ∀ h ∈ p.held, some h ∈ handles p.mSlots ∨ some h ∈ p.pendingHandles

theorem Inv.new : Inv {} := by
  refine ⟨?_, ?_, ?_, ?_, ?_, ?_, ?_, ?_, ?_, ?_, ?_, ?_⟩ <;>
    simp [Unique, handles, pendingHandles, busyCount]

theorem Inv.fill {p : BufferPoolImpl} (h : Inv p) (count size usage : Nat)
    (valid : Nat → Bool) : Inv (p.allocateBuffer count size usage true valid) := by
  have hold : ∀ {j handle : Nat}, (handles (fillSlots size usage p.nextHandle valid 0 count
      p.mSlots))[j]? = some (some handle) →
      handle = p.nextHandle + j ∧ j < count ∨ (handles p.mSlots)[j]? = some (some handle) := by
    intro j handle hj
    have hcases := handles_fillSlots hj
    rwa [Nat.zero_add] at hcases
  have hlt : ∀ {j handle : Nat}, (handles p.mSlots)[j]? = some (some handle) →
      handle < p.nextHandle := fun hj => h.slotsLt _ (List.mem_of_getElem? hj)
  have hle : busyCount (fillSlots size usage p.nextHandle valid 0 count p.mSlots) ≤
      busyCount p.mSlots := busyCount_fillSlots_le
  refine { busy := ?busy, pending := h.pending, unique := ?unique, slotsLt := ?slotsLt,
           pendingLt := ?pendingLt, apart := ?apart, running := ?running, count := ?count,
           nodup := h.nodup, heldLt := ?heldLt, heldBusy := ?heldBusy, held := ?held }
  case busy =>
    intro slot hslot hbusy
    rcases mem_fillSlots_cases hslot with hslot | rfl | ⟨hfree, -⟩
    · exact h.busy slot hslot hbusy
    · cases hbusy
    · rw [hfree] at hbusy
      cases hbusy
  case unique =>
    intro i j handle hi hj
    -- the new handles are told apart by their index, and from the old ones by their size
    rcases hold hi with ⟨hi, -⟩ | hi <;> rcases hold hj with ⟨hj, -⟩ | hj
    · omega
    · have hold := hlt hj
      omega
    · have hold := hlt hi
      omega
    · exact h.unique i j handle hi hj
  case slotsLt =>
    intro handle hmem
    obtain ⟨j, hj⟩ := List.mem_iff_getElem?.mp hmem
    show handle < p.nextHandle + count
    rcases hold hj with hnew | hj
    · omega
    · have hold := hlt hj
      omega
  case pendingLt =>
    intro handle hmem
    exact Nat.lt_of_lt_of_le (h.pendingLt handle hmem) (Nat.le_add_right _ _)
  case apart =>
    intro handle hmem hpend
    obtain ⟨j, hj⟩ := List.mem_iff_getElem?.mp hmem
    rcases hold hj with ⟨hj, -⟩ | hj
    · have hold := h.pendingLt handle hpend
      omega
    · exact h.apart handle (List.mem_of_getElem? hj) hpend
  case running =>
    intro i buf hrunning
    obtain ⟨hbuf, hslots, hrest⟩ := h.running i buf hrunning
    refine ⟨Nat.lt_of_lt_of_le hbuf (Nat.le_add_right _ _), ?_, hrest⟩
    intro hmem
    obtain ⟨j, hj⟩ := List.mem_iff_getElem?.mp hmem
    rcases hold hj with ⟨hj, -⟩ | hj
    · omega
    · exact hslots (List.mem_of_getElem? hj)
  case count =>
    have hcount := h.count
    show p.mAcquireBufferCount = busyCount (fillSlots size usage p.nextHandle valid 0 count
      p.mSlots) + p.mPendingReleaseBuffers.length + (p.lost + (busyCount p.mSlots - busyCount
        (fillSlots size usage p.nextHandle valid 0 count p.mSlots)) : Nat)
    omega
  case heldLt =>
    intro handle hmem
    exact Nat.lt_of_lt_of_le (h.heldLt handle hmem) (Nat.le_add_right _ _)
  case heldBusy =>
    intro slot hslot handle hmem hholds
    rcases mem_fillSlots_cases hslot with hslot | rfl | ⟨-, k, hnew⟩
    · exact h.heldBusy slot hslot handle hmem hholds
    · cases hholds
    · have hhandle : some (p.nextHandle + k) = some handle := hnew.symm.trans hholds
      have hlt := h.heldLt handle hmem
      cases hhandle
      omega
  case held =>
    intro hlost handle hmem
    have hnone : p.lost + (busyCount p.mSlots - busyCount
        (fillSlots size usage p.nextHandle valid 0 count p.mSlots)) = 0 := hlost
    have hkept : busyCount p.mSlots ≤ busyCount
        (fillSlots size usage p.nextHandle valid 0 count p.mSlots) := by omega
    refine (h.held (by omega) handle hmem).imp_left fun hin => ?_
    obtain ⟨slot, hslot, hholds⟩ := mem_handles.mp hin
    exact mem_handles.mpr
      ⟨slot, mem_fillSlots hkept slot hslot (h.heldBusy slot hslot handle hmem hholds), hholds⟩

theorem Inv.allocateBuffer {p : BufferPoolImpl} (h : Inv p) (count size usage : Nat)
    (allocateImmediately : Bool) (valid : Nat → Bool) :
    Inv (p.allocateBuffer count size usage allocateImmediately valid) := by
  cases allocateImmediately with
  | true => exact h.fill count size usage valid
  | false =>
      exact ⟨h.busy, h.pending, h.unique, h.slotsLt, h.pendingLt, h.apart, h.running, h.count,
        h.nodup, h.heldLt, h.heldBusy, h.held⟩

theorem Inv.clearSlots {p : BufferPoolImpl} (h : Inv p) : Inv p.clearSlots := by
  have hpending : p.clearSlots.pendingHandles = p.pendingHandles ++
      (p.mSlots.filter BufferSlot.mBusy).map fun slot =>
        slot.mGraphicBuffer.map IonBuffer.handle := by
    simp [BufferPoolImpl.clearSlots, pendingHandles]
  have hmem : ∀ {handle : Nat}, some handle ∈ p.clearSlots.pendingHandles →
      some handle ∈ p.pendingHandles ∨ some handle ∈ handles p.mSlots := by
    intro handle hin
    rw [hpending] at hin
    rcases List.mem_append.mp hin with hin | hin
    · exact .inl hin
    · obtain ⟨slot, hslot, hholds⟩ := List.mem_map.mp hin
      exact .inr (List.mem_map.mpr ⟨slot, (List.mem_filter.mp hslot).1, hholds⟩)
  refine { busy := ?busy, pending := ?pending, unique := ?unique, slotsLt := ?slotsLt,
           pendingLt := ?pendingLt, apart := ?apart, running := ?running, count := ?count,
           nodup := h.nodup, heldLt := h.heldLt, heldBusy := ?heldBusy, held := ?held }
  case busy =>
    exact fun _ hslot => absurd hslot List.not_mem_nil
  case pending =>
    intro b hb
    rcases List.mem_append.mp hb with hb | hb
    · exact h.pending b hb
    · obtain ⟨slot, hslot, rfl⟩ := List.mem_map.mp hb
      obtain ⟨hslot, hbusy⟩ := List.mem_filter.mp hslot
      exact h.busy slot hslot hbusy
  case unique =>
    intro i j handle hi _
    simp [handles, BufferPoolImpl.clearSlots] at hi
  case slotsLt =>
    exact fun _ hslot => absurd hslot List.not_mem_nil
  case pendingLt =>
    intro handle hin
    exact (hmem hin).elim (h.pendingLt handle) (h.slotsLt handle)
  case apart =>
    exact fun _ hslot => absurd hslot List.not_mem_nil
  case running =>
    intro i buf hrunning
    obtain ⟨hbuf, hslots, hpend, hheld⟩ := h.running i buf hrunning
    exact ⟨hbuf, List.not_mem_nil, fun hin => (hmem hin).elim hpend hslots, hheld⟩
  case count =>
    have hcount := h.count
    show p.mAcquireBufferCount = busyCount [] + (p.mPendingReleaseBuffers ++
      (p.mSlots.filter BufferSlot.mBusy).map BufferSlot.mGraphicBuffer).length + p.lost
    rw [busyCount, List.countP_eq_length_filter] at hcount
    rw [List.length_append, List.length_map, busyCount, List.countP_nil]
    omega
  case heldBusy =>
    exact fun _ hslot => absurd hslot List.not_mem_nil
  case held =>
    intro hlost handle hin
    refine .inr ?_
    rw [hpending]
    rcases h.held hlost handle hin with hslots | hpend
    · obtain ⟨slot, hslot, hholds⟩ := mem_handles.mp hslots
      have hbusy := h.heldBusy slot hslot handle hin hholds
      exact List.mem_append_right _
        (List.mem_map.mpr ⟨slot, List.mem_filter.mpr ⟨hslot, hbusy⟩, hholds⟩)
    · exact List.mem_append_left _ hpend

theorem busyCount_set {slots : List BufferSlot} {i : Nat} {slot slot' : BufferSlot}
    (hslot : slots[i]? = some slot) :
    busyCount (slots.set i slot') + (if slot.mBusy then 1 else 0) =
      busyCount slots + (if slot'.mBusy then 1 else 0) := by
  obtain ⟨hi, rfl⟩ := List.getElem?_eq_some_iff.mp hslot
  have hset : slots.set i slot' = slots.take i ++ slot' :: slots.drop (i + 1) :=
    List.set_eq_take_append_cons_drop.trans (if_pos hi)
  have hsplit : slots = slots.take i ++ slots[i] :: slots.drop (i + 1) := by
    rw [List.getElem_cons_drop, List.take_append_drop]
  have hcount : busyCount slots = busyCount (slots.take i ++ slots[i] :: slots.drop (i + 1)) := by
    rw [← hsplit]
  rw [hcount, hset, busyCount, busyCount, List.countP_append, List.countP_append, List.countP_cons,
    List.countP_cons]
  omega

theorem Inv.acquireBuffer {p : BufferPoolImpl} (h : Inv p) : Inv p.acquireBuffer.2 := by
  rcases acquireBuffer_cases p with ⟨heq, -⟩ | ⟨found, slot, buf, hleast, hbuf, heq⟩
  · rw [heq]
    exact h
  rw [heq]
  have hget := hleast.get
  have hhandles : handles (p.take found slot buf).mSlots = handles p.mSlots := handles_set hget rfl
  have hholds : slot.Holds buf.handle := by
    rw [BufferSlot.Holds, hbuf]
    rfl
  have hbuffers : some buf.handle ∈ handles p.mSlots :=
    mem_handles.mpr ⟨slot, List.mem_of_getElem? hget, hholds⟩
  have hfree : slot.mBusy = false := by
    have heligible := hleast.eligible
    simp only [BufferSlot.Acquirable, Bool.and_eq_true, Bool.not_eq_true'] at heligible
    exact heligible.1.2
  have hnot : buf.handle ∉ p.held := by
    intro hin
    have hbusy := h.heldBusy slot (List.mem_of_getElem? hget) _ hin hholds
    rw [hfree] at hbusy
    cases hbusy
  refine { busy := ?busy, pending := h.pending, unique := ?unique, slotsLt := ?slotsLt,
           pendingLt := h.pendingLt, apart := ?apart, running := ?running, count := ?count,
           nodup := ?nodup, heldLt := ?heldLt, heldBusy := ?heldBusy, held := ?held }
  case busy =>
    intro s hs hbusy
    rcases List.mem_or_eq_of_mem_set hs with hs | rfl
    · exact h.busy s hs hbusy
    · show slot.mGraphicBuffer.isSome = true
      rw [hbuf]
      rfl
  case unique =>
    rw [Unique, hhandles]
    exact h.unique
  case slotsLt =>
    rw [hhandles]
    exact h.slotsLt
  case apart =>
    rw [hhandles]
    exact h.apart
  case running =>
    intro i buf' hrunning
    obtain ⟨hlt, hslots, hpend, hheld⟩ := h.running i buf' hrunning
    rw [hhandles]
    refine ⟨hlt, hslots, hpend, ?_⟩
    intro hin
    rcases List.mem_cons.mp hin with heq | hin
    · rw [heq] at hslots
      exact hslots hbuffers
    · exact hheld hin
  case count =>
    have hcount := h.count
    have hset : busyCount (p.mSlots.set found (slot.acquired ((p.mGenerationNumber + 1) % 2 ^ 64))) +
        (if slot.mBusy then 1 else 0) = busyCount p.mSlots + 1 := busyCount_set hget
    rw [hfree] at hset
    show p.mAcquireBufferCount + 1 = busyCount (p.mSlots.set found
      (slot.acquired ((p.mGenerationNumber + 1) % 2 ^ 64))) + p.mPendingReleaseBuffers.length + p.lost
    simp only [Bool.false_eq_true, if_false] at hset
    omega
  case nodup =>
    exact List.nodup_cons.mpr ⟨hnot, h.nodup⟩
  case heldLt =>
    intro handle hin
    rcases List.mem_cons.mp hin with rfl | hin
    · exact h.slotsLt _ hbuffers
    · exact h.heldLt handle hin
  case heldBusy =>
    intro s hs handle hin hholds'
    obtain ⟨j, hj⟩ := List.mem_iff_getElem?.mp hs
    rw [take, List.getElem?_set] at hj
    split at hj
    · split at hj
      · cases hj
        rfl
      · cases hj
    · rename_i hne
      rcases List.mem_cons.mp hin with rfl | hin
      -- no other slot has the buffer that has been acquired
      · exact absurd (h.unique found j _ (holds_get hget hholds) (holds_get hj hholds')) hne
      · exact h.heldBusy s (List.mem_of_getElem? hj) handle hin hholds'
  case held =>
    intro hlost handle hin
    rw [hhandles]
    rcases List.mem_cons.mp hin with rfl | hin
    · exact .inl hbuffers
    · exact h.held hlost handle hin

def BufferSlot.released (slot : BufferSlot) (fence : Int) : BufferSlot :=
  { slot with mBusy := false, mReleaseFence := fence }

theorem releaseAt_mSlots {p : BufferPoolImpl} {handle i : Nat} {slot : BufferSlot} {fence : Int}
    (hget : p.mSlots[i]? = some slot) :
    (p.releaseAt handle i fence).mSlots = p.mSlots.set i (slot.released fence) := by
  apply List.ext_getElem?
  intro j
  simp only [releaseAt, List.getElem?_modify, List.getElem?_set]
  split
  · rename_i hij
    subst hij
    rw [if_pos (List.getElem?_eq_some_iff.mp hget).1, hget]
    rfl
  · exact id_map _

theorem Inv.forget {p : BufferPoolImpl} (h : Inv p) (handle : Nat) :
    Inv { p with held := p.held.erase handle } := by
  have hsub : ∀ {x}, x ∈ p.held.erase handle → x ∈ p.held := fun hx => List.mem_of_mem_erase hx
  refine ⟨h.busy, h.pending, h.unique, h.slotsLt, h.pendingLt, h.apart, ?_, h.count,
    h.nodup.erase _, fun x hx => h.heldLt x (hsub hx),
    fun s hs x hx => h.heldBusy s hs x (hsub hx), fun hlost x hx => h.held hlost x (hsub hx)⟩
  intro k b hrunning
  obtain ⟨hlt, hslots, hnot, hheld⟩ := h.running k b hrunning
  exact ⟨hlt, hslots, hnot, fun hin => hheld (hsub hin)⟩

theorem Inv.releaseAt {p : BufferPoolImpl} (h : Inv p) {handle i : Nat} {slot : BufferSlot}
    {fence : Int} (hfirst : p.FirstAt handle i slot) (hheld : handle ∈ p.held) :
    Inv (p.releaseAt handle i fence) := by
  have hget := hfirst.get
  have hslots : (p.releaseAt handle i fence).mSlots = p.mSlots.set i (slot.released fence) :=
    releaseAt_mSlots hget
  have hhandles : handles (p.releaseAt handle i fence).mSlots = handles p.mSlots := by
    rw [hslots]
    exact handles_set hget rfl
  have hbusy := h.heldBusy slot (List.mem_of_getElem? hget) handle hheld hfirst.holds
  have hforget := h.forget handle
  refine { busy := ?busy, pending := h.pending, unique := ?unique, slotsLt := ?slotsLt,
           pendingLt := h.pendingLt, apart := ?apart, running := ?running, count := ?count,
           nodup := hforget.nodup, heldLt := hforget.heldLt, heldBusy := ?heldBusy, held := ?held }
  case busy =>
    intro s hs hbusy'
    rw [hslots] at hs
    rcases List.mem_or_eq_of_mem_set hs with hs | rfl
    · exact h.busy s hs hbusy'
    · cases hbusy'
  case unique =>
    rw [Unique, hhandles]
    exact h.unique
  case slotsLt =>
    rw [hhandles]
    exact h.slotsLt
  case apart =>
    rw [hhandles]
    exact h.apart
  case running =>
    rw [hhandles]
    exact hforget.running
  case count =>
    have hcount := h.count
    have hset : busyCount (p.mSlots.set i (slot.released fence)) + (if slot.mBusy then 1 else 0) =
        busyCount p.mSlots + 0 := busyCount_set hget
    rw [hslots]
    show p.mAcquireBufferCount - 1 = _ + p.mPendingReleaseBuffers.length + p.lost
    rw [hbusy, if_pos rfl] at hset
    omega
  case heldBusy =>
    intro s hs x hx hholds
    rw [hslots] at hs
    rcases List.mem_or_eq_of_mem_set hs with hs | rfl
    · exact hforget.heldBusy s hs x hx hholds
    · -- the buffer of this slot is held no more
      have heq : some handle = some x := hfirst.holds.symm.trans hholds
      cases heq
      exact absurd hx (h.nodup.not_mem_erase)
  case held =>
    rw [hhandles]
    exact hforget.held

theorem Inv.releasePending {p : BufferPoolImpl} (h : Inv p) {handle : Nat} {buf : IonBuffer}
    {rest : List (Option IonBuffer)} (hpending : p.mPendingReleaseBuffers = some buf :: rest)
    (heq : buf.handle = handle) : Inv (p.releasePending handle rest) := by
  have hcons : p.pendingHandles = some handle :: (p.releasePending handle rest).pendingHandles := by
    simp [pendingHandles, BufferPoolImpl.releasePending, hpending, heq]
  have hforget := h.forget handle
  have hpend : ∀ {x}, some x ∈ (p.releasePending handle rest).pendingHandles →
      some x ∈ p.pendingHandles := by
    intro x hx
    rw [hcons]
    exact List.mem_cons_of_mem _ hx
  refine { busy := h.busy, pending := ?pending, unique := h.unique, slotsLt := h.slotsLt,
           pendingLt := ?pendingLt, apart := ?apart, running := ?running, count := ?count,
           nodup := hforget.nodup, heldLt := hforget.heldLt, heldBusy := hforget.heldBusy,
           held := ?held }
  case pending =>
    intro b hb
    apply h.pending
    rw [hpending]
    exact List.mem_cons_of_mem _ hb
  case pendingLt =>
    exact fun x hx => h.pendingLt x (hpend hx)
  case apart =>
    exact fun x hx hin => h.apart x hx (hpend hin)
  case running =>
    intro k b hrunning
    obtain ⟨hlt, hslots, hnot, hheld⟩ := hforget.running k b hrunning
    exact ⟨hlt, hslots, fun hin => hnot (hpend hin), hheld⟩
  case count =>
    have hcount := h.count
    rw [hpending, List.length_cons] at hcount
    show p.mAcquireBufferCount - 1 = busyCount p.mSlots + rest.length + p.lost
    omega
  case held =>
    intro hlost x hx
    refine (hforget.held hlost x hx).imp_right fun (hin : some x ∈ p.pendingHandles) => ?_
    rw [hcons] at hin
    rcases List.mem_cons.mp hin with heq | hin
    · cases heq
      exact absurd hx (h.nodup.not_mem_erase)
    · exact hin

theorem Inv.release {p p' : BufferPoolImpl} (h : Inv p) {fuel handle : Nat} {fence : Int}
    (hheld : handle ∈ p.held) (hrelease : p.release fuel handle fence = .ok (some p')) :
    Inv p' := by
  rcases release_cases hrelease with
    ⟨i, slot, hfirst, rfl⟩ | ⟨hpasses, hnil, rfl⟩ | ⟨buf, rest, -, hpending, heq, rfl⟩
  · exact h.releaseAt hfirst hheld
  · exact h.forget handle
  · exact h.releasePending hpending heq

theorem Inv.thread {p : BufferPoolImpl} (h : Inv p) (tasks : Nat) (allocated : Bool)
    {running : Option Allocating} (hnone : ∀ i buf, running ≠ some { i, buf := some buf }) :
    Inv { p with mAllocateTasks := tasks, mAllocated := allocated, running } :=
  ⟨h.busy, h.pending, h.unique, h.slotsLt, h.pendingLt, h.apart,
    fun i buf hrunning => absurd hrunning (hnone i buf), h.count, h.nodup, h.heldLt, h.heldBusy,
    h.held⟩

theorem Inv.beginTask {p : BufferPoolImpl} (h : Inv p) : Inv p.beginTask := by
  unfold BufferPoolImpl.beginTask
  split
  · exact h.thread _ _ (by simp)
  · exact h

theorem Inv.setAllocated {p : BufferPoolImpl} (h : Inv p) : Inv p.setAllocated := by
  unfold BufferPoolImpl.setAllocated
  split
  · split
    · exact h
    · exact h.thread _ _ (by simp)
  · exact h

theorem Inv.newIonBuffer {p : BufferPoolImpl} (h : Inv p) (valid : Bool) :
    Inv (p.newIonBuffer valid) := by
  unfold BufferPoolImpl.newIonBuffer
  split
  · split
    · split
      · refine { busy := h.busy, pending := h.pending, unique := h.unique, slotsLt := ?slotsLt,
                 pendingLt := ?pendingLt, apart := h.apart, running := ?running, count := h.count,
                 nodup := h.nodup, heldLt := ?heldLt, heldBusy := h.heldBusy, held := h.held }
        case slotsLt =>
          exact fun x hx => Nat.lt_succ_of_lt (h.slotsLt x hx)
        case pendingLt =>
          exact fun x hx => Nat.lt_succ_of_lt (h.pendingLt x hx)
        case running =>
          -- the new handle is larger than all others
          intro i buf hrunning
          cases hrunning
          exact ⟨Nat.lt_succ_self _, fun hin => Nat.lt_irrefl _ (h.slotsLt _ hin),
            fun hin => Nat.lt_irrefl _ (h.pendingLt _ hin),
            fun hin => Nat.lt_irrefl _ (h.heldLt _ hin)⟩
        case heldLt =>
          exact fun x hx => Nat.lt_succ_of_lt (h.heldLt x hx)
      · exact h.thread _ _ (by simp)
    · exact h
  · exact h

theorem Inv.pushSlot {p : BufferPoolImpl} (h : Inv p) : Inv p.pushSlot := by
  unfold BufferPoolImpl.pushSlot
  split
  · rename_i i buf hrunning
    obtain ⟨hlt, hslots, hpend, hheld⟩ := h.running i buf hrunning
    have hhandles : handles (p.mSlots ++ [{ mGraphicBuffer := some buf }]) =
        handles p.mSlots ++ [some buf.handle] := by simp [handles]
    have hcases : ∀ {x}, some x ∈ handles (p.mSlots ++ [{ mGraphicBuffer := some buf }]) →
        some x ∈ handles p.mSlots ∨ x = buf.handle := by
      intro x hx
      rw [hhandles] at hx
      rcases List.mem_append.mp hx with hx | hx
      · exact .inl hx
      · exact .inr (Option.some.inj (List.mem_singleton.mp hx))
    refine { busy := ?busy, pending := h.pending, unique := ?unique, slotsLt := ?slotsLt,
             pendingLt := h.pendingLt, apart := ?apart, running := by simp, count := ?count,
             nodup := h.nodup, heldLt := h.heldLt, heldBusy := ?heldBusy, held := ?held }
    case busy =>
      intro s hs hbusy
      rcases List.mem_append.mp hs with hs | hs
      · exact h.busy s hs hbusy
      · rw [List.mem_singleton.mp hs]
        rfl
    case unique =>
      intro j k x hj hk
      have hnew : ∀ {j : Nat}, (handles p.mSlots ++ [some buf.handle])[j]? = some (some x) →
          (handles p.mSlots)[j]? = some (some x) ∨
            j = (handles p.mSlots).length ∧ x = buf.handle := by
        intro j hj
        rcases Nat.lt_or_ge j (handles p.mSlots).length with hlt | hge
        · rw [List.getElem?_append_left hlt] at hj
          exact .inl hj
        · rw [List.getElem?_append_right hge] at hj
          have hlast := (List.getElem?_eq_some_iff.mp hj).1
          rw [List.length_singleton] at hlast
          have hx := List.mem_singleton.mp (List.mem_of_getElem? hj)
          exact .inr ⟨by omega, Option.some.inj hx⟩
      simp only [hhandles] at hj hk
      rcases hnew hj with hj | ⟨hj, hx⟩ <;> rcases hnew hk with hk | ⟨hk, hx'⟩
      · exact h.unique j k x hj hk
      · rw [hx'] at hj
        exact absurd (List.mem_of_getElem? hj) hslots
      · rw [hx] at hk
        exact absurd (List.mem_of_getElem? hk) hslots
      · rw [hj, hk]
    case slotsLt =>
      intro x hx
      rcases hcases hx with hx | rfl
      · exact h.slotsLt x hx
      · exact hlt
    case apart =>
      intro x hx
      rcases hcases hx with hx | rfl
      · exact h.apart x hx
      · exact hpend
    case count =>
      have hcount := h.count
      show p.mAcquireBufferCount = busyCount (p.mSlots ++ [{ mGraphicBuffer := some buf }]) +
        p.mPendingReleaseBuffers.length + p.lost
      rw [busyCount, List.countP_append]
      simpa [busyCount] using hcount
    case heldBusy =>
      intro s hs x hx hholds
      rcases List.mem_append.mp hs with hs | hs
      · exact h.heldBusy s hs x hx hholds
      · rw [List.mem_singleton.mp hs] at hholds
        have heq : buf.handle = x := Option.some.inj hholds
        rw [← heq] at hx
        exact absurd hx hheld
    case held =>
      intro hlost x hx
      refine (h.held hlost x hx).imp_left fun hin => ?_
      simp only [hhandles]
      exact List.mem_append_left _ hin
  · exact h

theorem Reachable.inv {p : BufferPoolImpl} (h : Reachable p) : Inv p := by
  induction h with
  | new => exact Inv.new
  | allocateBuffer _ count size usage allocateImmediately valid ih =>
      exact ih.allocateBuffer count size usage allocateImmediately valid
  | clearSlots _ ih => exact ih.clearSlots
  | acquireBuffer _ ih => exact ih.acquireBuffer
  | release _ hheld hrelease ih => exact ih.release hheld hrelease
  | beginTask _ ih => exact ih.beginTask
  | newIonBuffer _ valid ih => exact ih.newIonBuffer valid
  | pushSlot _ ih => exact ih.pushSlot
  | setAllocated _ ih => exact ih.setAllocated

/-! ## Exact releases -/

/-- The call ends; the buffer, and no other, is free or taken off the pending ones; and the count is
that of the busy slots and the pending buffers. -/
def ReleasesExactly (p : BufferPoolImpl) (handle : Nat) (fence : Int) : Prop :=
  ∃ fuel p', p.release fuel handle fence = .ok (some p') ∧
    ((∃ i slot, p.mSlots[i]? = some slot ∧ slot.Holds handle ∧
        p'.mSlots = p.mSlots.set i (slot.released fence) ∧
        p'.mPendingReleaseBuffers = p.mPendingReleaseBuffers) ∨
      (p'.mSlots = p.mSlots ∧ ∃ pre buf post,
        p.mPendingReleaseBuffers = pre ++ some buf :: post ∧ buf.handle = handle ∧
        p'.mPendingReleaseBuffers = pre ++ post)) ∧
    p'.mAcquireBufferCount = busyCount p'.mSlots + p'.mPendingReleaseBuffers.length

/-- No busy buffer has been replaced, and the buffer is in a slot with no empty one before it, or is the
first pending one while no slot is empty. -/
def Releasable (p : BufferPoolImpl) (handle : Nat) : Prop :=
  p.lost = 0 ∧
    ((∃ (i : Nat) (slot : BufferSlot), p.mSlots[i]? = some slot ∧ slot.Holds handle ∧
        ∀ (j : Nat) (s : BufferSlot), j < i → p.mSlots[j]? = some s → s.mGraphicBuffer.isSome = true) ∨
      ((∀ s ∈ p.mSlots, s.mGraphicBuffer.isSome = true) ∧
        ∃ buf rest, p.mPendingReleaseBuffers = some buf :: rest ∧ buf.handle = handle))

theorem releasesExactly_iff {p : BufferPoolImpl} (h : Reachable p) {handle : Nat}
    (hheld : handle ∈ p.held) (fence : Int) :
    p.ReleasesExactly handle fence ↔ p.Releasable handle := by
  have hinv := h.inv
  constructor
  · intro hexact
    obtain ⟨fuel, p', hrelease, hchange, hcount⟩ := hexact
    have hcount' := (hinv.release hheld hrelease).count
    have hlost : p'.lost = 0 := by omega
    rcases release_cases hrelease with
      ⟨i, slot, hfirst, rfl⟩ | ⟨hpasses, hnil, rfl⟩ | ⟨buf, rest, hpasses, hpending, heq, rfl⟩
    · exact ⟨hlost, .inl ⟨i, slot, hfirst.get, hfirst.holds,
        fun j s hj hs => (hfirst.before j s hj hs).1⟩⟩
    · -- nothing has been released
      rcases hchange with ⟨i, slot, hget, hholds, -⟩ | ⟨-, pre, buf, post, hpending, -⟩
      · exact absurd hholds (hpasses slot (List.mem_of_getElem? hget)).2
      · rw [hnil] at hpending
        exact absurd hpending.symm (by simp)
    · exact ⟨hlost, .inr ⟨fun s hs => (hpasses s hs).1, buf, rest, hpending, heq⟩⟩
  · intro hrel
    obtain ⟨hlost, ⟨i, slot, hget, hholds, hbefore⟩ | ⟨hfull, buf, rest, hpending, heq⟩⟩ := hrel
    · have hfirst : p.FirstAt handle i slot := by
        refine ⟨hget, hholds, fun j s hj hs => ⟨hbefore j s hj hs, ?_⟩⟩
        intro hholds'
        have hij := hinv.unique i j handle (holds_get hget hholds) (holds_get hs hholds')
        omega
      have hcount : (p.releaseAt handle i fence).mAcquireBufferCount = _ + _ + _ :=
        (hinv.releaseAt hfirst hheld).count
      have hnone : (p.releaseAt handle i fence).lost = 0 := hlost
      refine ⟨0, _, release_of_firstAt hfirst 0 fence,
        .inl ⟨i, slot, hget, hholds, releaseAt_mSlots hget, rfl⟩, ?_⟩
      omega
    · have hpasses : p.PassesSlots handle := by
        refine fun s hs => ⟨hfull s hs, ?_⟩
        intro hholds
        apply hinv.apart handle (mem_handles.mpr ⟨s, hs, hholds⟩)
        simp [pendingHandles, hpending, heq]
      have hcount := (hinv.releasePending hpending heq).count
      have hnone : (p.releasePending handle rest).lost = 0 := hlost
      refine ⟨1, _, release_of_pending hpasses hpending heq fence,
        .inr ⟨rfl, [], buf, rest, hpending, heq, rfl⟩, ?_⟩
      omega

def oneHeld (valid : Nat → Bool) : BufferPoolImpl :=
  (allocateBuffer {} 2 4096 0 true valid).acquireBuffer.2

theorem reachable_oneHeld (valid : Nat → Bool) : Reachable (oneHeld valid) :=
  (Reachable.new.allocateBuffer 2 4096 0 true valid).acquireBuffer

theorem releasesExactly_iff_oneHeld :
    (0 ∈ (oneHeld fun _ => true).held) ∧
      ((oneHeld fun _ => true).ReleasesExactly 0 3 ↔ (oneHeld fun _ => true).Releasable 0) :=
  ⟨by decide, releasesExactly_iff (reachable_oneHeld fun _ => true) (by decide) 3⟩

def twoPending : BufferPoolImpl :=
  (oneHeld fun _ => true).acquireBuffer.2.reallocate 8192 fun _ => true

/-- The second of two pending buffers: the loop stays at the first one.  And a buffer behind a slot
that could not be allocated: the empty slot is dereferenced. -/
theorem twoPending_not_releasesExactly :
    (Reachable twoPending ∧ 1 ∈ twoPending.held ∧ ¬ twoPending.ReleasesExactly 1 (-1)) ∧
      (Reachable (oneHeld (· == 1)) ∧ 1 ∈ (oneHeld (· == 1)).held ∧
        ¬ (oneHeld (· == 1)).ReleasesExactly 1 (-1)) := by
  refine ⟨⟨(reachable_oneHeld _).acquireBuffer.reallocate _ _, by decide, ?_⟩,
    reachable_oneHeld _, by decide, ?_⟩
  · intro hexact
    obtain ⟨fuel, p', hrelease, -⟩ := hexact
    rcases release_cases hrelease with
      ⟨i, slot, hfirst, -⟩ | ⟨-, hnil, -⟩ | ⟨buf, rest, -, hpending, heq, -⟩
    · have hnone : ∀ slot ∈ twoPending.mSlots, ¬ slot.Holds 1 := by decide
      exact hnone slot (List.mem_of_getElem? hfirst.get) hfirst.holds
    · exact absurd hnil (by decide)
    · have hhead : twoPending.mPendingReleaseBuffers.head? = some (some buf) := by rw [hpending]; rfl
      have hzero : twoPending.mPendingReleaseBuffers.head?.join.map IonBuffer.handle = some 0 := by
        decide
      rw [hhead] at hzero
      have hbuf : buf.handle = 0 := Option.some.inj hzero
      omega
  · intro hexact
    obtain ⟨fuel, p', hrelease, -⟩ := hexact
    have hfault : (oneHeld (· == 1)).release fuel 1 (-1) = .error .nullPointer := rfl
    rw [hfault] at hrelease
    cases hrelease

end AwHal.Hwc.BufferPoolImpl
