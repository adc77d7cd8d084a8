import AwHal.Lib.LeastKey
import AwHal.Lib.Loop
import AwHal.Hwc.BufferPool

/-!
# Buffer pools with failing allocations

`BufferPoolImpl` (`BufferPool.cpp`) in both allocation modes.  A buffer that could not be allocated
leaves its slot empty in synchronous mode.  The calls are taken one after another; the allocating thread
may come in at any time.
-/

namespace AwHal.Hwc

open AwHal.Lib

/-! ## Data -/

structure BufferPoolImpl.BufferSlot where
  mGraphicBuffer : Option IonBuffer := none
  mReleaseFence : Int := -1
  mBusy : Bool := false
  mGenerationNumber : Nat := 0
deriving DecidableEq, Repr

structure BufferPoolImpl where
  mAllocated : Bool := false
  mSlots : List BufferPoolImpl.BufferSlot := []
  mPendingReleaseBuffers : List (Option IonBuffer) := []
  mBufferCount : Nat := 1
  mSize : Nat := 0
  mUsage : Nat := 0
  mSyncAllocateMode : Bool := true
  mGenerationNumber : Nat := 0
  mAcquireBufferCount : Int := 0
  /-- Tasks of this pool that wait for the thread. -/
  mAllocateTasks : Nat := 0
  /-- The task of this pool that the thread is busy with. -/
  running : Option Allocating := none
  /-- The handle of the next buffer; no handle is used twice. -/
  nextHandle : Nat := 0
  /-- The buffers that callers hold. -/
  held : List Nat := []
  /-- How many busy buffers a call of `allocateBuffer` has replaced or dropped. -/
  lost : Nat := 0
deriving DecidableEq, Repr

inductive PoolFault where
  | nullPointer
deriving DecidableEq, Repr

namespace BufferPoolImpl

def BufferSlot.Holds (slot : BufferSlot) (handle : Nat) : Prop :=
  slot.mGraphicBuffer.map IonBuffer.handle = some handle

instance (slot : BufferSlot) (handle : Nat) : Decidable (slot.Holds handle) :=
  inferInstanceAs (Decidable (_ = _))

def busyCount (slots : List BufferSlot) : Nat := slots.countP BufferSlot.mBusy

/-! ## Calls -/

/-- `mSlots.resize(count)` and the loop of synchronous mode, from index `i` on; `valid` says at which
indices the buffer can be allocated. -/
def fillSlots (size usage nextHandle : Nat) (valid : Nat → Bool) :
    Nat → Nat → List BufferSlot → List BufferSlot
  | _, 0, _ => []
  | i, count + 1, slots =>
      let slot := slots.headD {}
      let slot :=
        if valid i then
          { slot with
            mGraphicBuffer := some { handle := nextHandle + i, size, usage }
            mBusy := false }
        else slot
      slot :: fillSlots size usage nextHandle valid (i + 1) count slots.tail

def allocateBuffer (p : BufferPoolImpl) (count size usage : Nat) (allocateImmediately : Bool)
    (valid : Nat → Bool) : BufferPoolImpl :=
  let p := { p with
    mBufferCount := count
    mSize := size
    mUsage := usage
    mSyncAllocateMode := allocateImmediately }
  if allocateImmediately then
    let slots := fillSlots size usage p.nextHandle valid 0 count p.mSlots
    { p with
      mSlots := slots
      mAllocated := true
      nextHandle := p.nextHandle + count
      lost := p.lost + (busyCount p.mSlots - busyCount slots) }
  else { p with mAllocateTasks := p.mAllocateTasks + 1 }

def clearSlots (p : BufferPoolImpl) : BufferPoolImpl :=
  { p with
    mAllocated := false
    mPendingReleaseBuffers := p.mPendingReleaseBuffers ++
      (p.mSlots.filter BufferSlot.mBusy).map BufferSlot.mGraphicBuffer
    mSlots := [] }

def reallocate (p : BufferPoolImpl) (size : Nat) (valid : Nat → Bool) : BufferPoolImpl :=
  p.clearSlots.allocateBuffer p.mBufferCount size p.mUsage p.mSyncAllocateMode valid

/-- A slot that the search of `acquireBuffer` looks at: `generation` starts as `UINT64_MAX`. -/
def BufferSlot.Acquirable (slot : BufferSlot) : Bool :=
  slot.mGraphicBuffer.isSome && !slot.mBusy && decide (slot.mGenerationNumber < BufferPool.UINT64_MAX)

def acquireBuffer (p : BufferPoolImpl) : Option (IonBuffer × Int) × BufferPoolImpl :=
  if !p.mAllocated then (none, p)
  else match findLeast BufferSlot.Acquirable BufferSlot.mGenerationNumber p.mSlots with
    | none => (none, p)
    | some found =>
        match p.mSlots[found]? with
        | some slot =>
            match slot.mGraphicBuffer with
            | some buf =>
                let generation := (p.mGenerationNumber + 1) % 2 ^ 64
                (some (buf, slot.mReleaseFence),
                  { p with
                    mSlots := p.mSlots.set found
                      { slot with mBusy := true, mGenerationNumber := generation }
                    mGenerationNumber := generation
                    mAcquireBufferCount := p.mAcquireBufferCount + 1
                    held := buf.handle :: p.held })
            | none => (none, p)
        | none => (none, p)

def findSlot (handle : Nat) : List BufferSlot → Except PoolFault (Option Nat)
  | [] => .ok none
  | slot :: slots =>
      match slot.mGraphicBuffer with
      | none => .error .nullPointer
      | some buf =>
          if buf.handle = handle then .ok (some 0)
          else match findSlot handle slots with
            | .error fault => .error fault
            | .ok found => .ok (found.map (· + 1))

/-- A turn of the second loop of `release`: the iterator stands at the first pending buffer, and is
never advanced.  The loop ends with the list that is left, or `none` when nothing was erased. -/
def pendingTurn (handle : Nat) (pending : List (Option IonBuffer)) (_ : Unit) :
    Except PoolFault (Next Unit (Option (List (Option IonBuffer)))) :=
  match pending with
  | [] => .ok (.done none)
  | none :: _ => .error .nullPointer
  | some buf :: rest => if buf.handle = handle then .ok (.done (some rest)) else .ok (.again ())

/-- `release` with at most `fuel` turns of its second loop; `none` when they do not suffice. -/
def release (fuel : Nat) (p : BufferPoolImpl) (handle : Nat) (releaseFence : Int) :
    Except PoolFault (Option BufferPoolImpl) :=
  let p := { p with held := p.held.erase handle }
  match findSlot handle p.mSlots with
  | .error fault => .error fault
  | .ok (some i) =>
      .ok (some { p with
        mSlots := p.mSlots.modify i fun slot =>
          { slot with mBusy := false, mReleaseFence := releaseFence }
        mAcquireBufferCount := p.mAcquireBufferCount - 1 })
  | .ok none =>
      match loop (pendingTurn handle p.mPendingReleaseBuffers) fuel () with
      | .error fault => .error fault
      | .ok none => .ok none
      | .ok (some none) => .ok (some p)
      | .ok (some (some rest)) =>
          .ok (some { p with
            mPendingReleaseBuffers := rest
            mAcquireBufferCount := p.mAcquireBufferCount - 1 })

/-! ## The allocating thread -/

def beginTask (p : BufferPoolImpl) : BufferPoolImpl :=
  if 0 < p.mAllocateTasks ∧ p.running = none then
    { p with mAllocateTasks := p.mAllocateTasks - 1, running := some {} }
  else p

def newIonBuffer (p : BufferPoolImpl) (valid : Bool) : BufferPoolImpl :=
  match p.running with
  | some { i, buf := none } =>
      if i < p.mBufferCount then
        if valid then
          let buf := { handle := p.nextHandle, size := p.mSize, usage := p.mUsage }
          { p with nextHandle := p.nextHandle + 1, running := some { i, buf := some buf } }
        else { p with running := some { i := i + 1 } }
      else p
  | _ => p

def pushSlot (p : BufferPoolImpl) : BufferPoolImpl :=
  match p.running with
  | some { i, buf := some buf } =>
      { p with
        mSlots := p.mSlots ++ [{ mGraphicBuffer := some buf }]
        running := some { i := i + 1 } }
  | _ => p

def setAllocated (p : BufferPoolImpl) : BufferPoolImpl :=
  match p.running with
  | some { i, buf := none } =>
      if i < p.mBufferCount then p else { p with mAllocated := true, running := none }
  | _ => p

/-! ## Reachable states -/

/-- What calls and steps of the thread lead to, callers releasing what they hold.  `reallocate` is its
two parts, between which the thread may come in. -/
inductive Reachable : BufferPoolImpl → Prop
  | new : Reachable {}
  | allocateBuffer {p : BufferPoolImpl} (h : Reachable p) (count size usage : Nat)
      (allocateImmediately : Bool) (valid : Nat → Bool) :
      Reachable (p.allocateBuffer count size usage allocateImmediately valid)
  | clearSlots {p : BufferPoolImpl} (h : Reachable p) : Reachable p.clearSlots
  | acquireBuffer {p : BufferPoolImpl} (h : Reachable p) : Reachable p.acquireBuffer.2
  | release {p p' : BufferPoolImpl} (h : Reachable p) {fuel handle : Nat} {releaseFence : Int}
      (hheld : handle ∈ p.held) (hrelease : p.release fuel handle releaseFence = .ok (some p')) :
      Reachable p'
  | beginTask {p : BufferPoolImpl} (h : Reachable p) : Reachable p.beginTask
  | newIonBuffer {p : BufferPoolImpl} (h : Reachable p) (valid : Bool) :
      Reachable (p.newIonBuffer valid)
  | pushSlot {p : BufferPoolImpl} (h : Reachable p) : Reachable p.pushSlot
  | setAllocated {p : BufferPoolImpl} (h : Reachable p) : Reachable p.setAllocated

theorem Reachable.reallocate {p : BufferPoolImpl} (h : Reachable p) (size : Nat)
    (valid : Nat → Bool) : Reachable (p.reallocate size valid) :=
  h.clearSlots.allocateBuffer _ _ _ _ _

/-! ## The buffers of a pool -/

def handles (slots : List BufferSlot) : List (Option Nat) :=
  slots.map fun slot => slot.mGraphicBuffer.map IonBuffer.handle

def Unique (slots : List BufferSlot) : Prop :=
  ∀ (i j : Nat) (handle : Nat), (handles slots)[i]? = some (some handle) →
    (handles slots)[j]? = some (some handle) → i = j

theorem mem_handles {slots : List BufferSlot} {handle : Nat} :
    some handle ∈ handles slots ↔ ∃ slot ∈ slots, slot.Holds handle := List.mem_map

theorem holds_get {slots : List BufferSlot} {i handle : Nat} {slot : BufferSlot}
    (hslot : slots[i]? = some slot) (hholds : slot.Holds handle) :
    (handles slots)[i]? = some (some handle) := by
  rw [handles, List.getElem?_map, hslot]
  exact congrArg some hholds

theorem handles_set {slots : List BufferSlot} {i : Nat} {slot slot' : BufferSlot}
    (hslot : slots[i]? = some slot) (hbuf : slot'.mGraphicBuffer = slot.mGraphicBuffer) :
    handles (slots.set i slot') = handles slots := by
  apply List.ext_getElem?
  intro j
  simp only [handles, List.getElem?_map, List.getElem?_set]
  split
  · rename_i hij
    subst hij
    rw [if_pos (List.getElem?_eq_some_iff.mp hslot).1, hslot]
    simp [hbuf]
  · rfl

theorem handles_fillSlots {size usage nextHandle i count : Nat} {valid : Nat → Bool}
    {slots : List BufferSlot} {j handle : Nat}
    (h : (handles (fillSlots size usage nextHandle valid i count slots))[j]? = some (some handle)) :
    handle = nextHandle + (i + j) ∧ j < count ∨ (handles slots)[j]? = some (some handle) := by
  induction count generalizing i j slots with
  | zero => simp [fillSlots, handles] at h
  | succ count ih =>
      cases j with
      | zero =>
          simp only [fillSlots, handles, List.map_cons, List.getElem?_cons_zero] at h
          split at h
          · simp only [Option.map_some, Option.some.injEq] at h
            exact .inl ⟨by omega, by omega⟩
          · cases slots with
            | nil => simp at h
            | cons slot slots => exact .inr (by simpa [handles] using h)
      | succ j =>
          have hrest : (handles (fillSlots size usage nextHandle valid (i + 1) count
              slots.tail))[j]? = some (some handle) := h
          rcases ih hrest with ⟨heq, hlt⟩ | hold
          · exact .inl ⟨by omega, by omega⟩
          · refine .inr ?_
            cases slots with
            | nil => simp [handles] at hold
            | cons slot slots => exact hold

theorem busyCount_fillSlots_le {size usage nextHandle i count : Nat} {valid : Nat → Bool}
    {slots : List BufferSlot} :
    busyCount (fillSlots size usage nextHandle valid i count slots) ≤ busyCount slots := by
  induction count generalizing i slots with
  | zero => simp [fillSlots, busyCount]
  | succ count ih =>
      have hrest : busyCount (fillSlots size usage nextHandle valid (i + 1) count slots.tail) ≤
          busyCount slots.tail := ih
      cases slots with
      | nil =>
          simp only [fillSlots, busyCount, List.countP_cons, List.tail_nil, List.headD_nil] at hrest ⊢
          split <;> simp_all
      | cons slot slots =>
          simp only [fillSlots, busyCount, List.countP_cons, List.tail_cons, List.headD_cons] at hrest ⊢
          split <;> simp <;> omega

theorem mem_fillSlots_cases {size usage nextHandle i count : Nat} {valid : Nat → Bool}
    {slots : List BufferSlot} {slot : BufferSlot}
    (hslot : slot ∈ fillSlots size usage nextHandle valid i count slots) :
    slot ∈ slots ∨ slot = {} ∨
      (slot.mBusy = false ∧ ∃ k, slot.Holds (nextHandle + k)) := by
  induction count generalizing i slots with
  | zero => simp [fillSlots] at hslot
  | succ count ih =>
      rcases List.mem_cons.mp hslot with heq | hslot
      · split at heq
        · rw [heq]
          exact .inr (.inr ⟨rfl, i, rfl⟩)
        · cases slots with
          | nil => exact .inr (.inl heq)
          | cons first slots =>
              rw [heq]
              exact .inl List.mem_cons_self
      · exact (ih hslot).imp_left List.mem_of_mem_tail

theorem mem_fillSlots {size usage nextHandle i count : Nat} {valid : Nat → Bool}
    {slots : List BufferSlot}
    (hkept : busyCount slots ≤ busyCount (fillSlots size usage nextHandle valid i count slots)) :
    ∀ slot ∈ slots, slot.mBusy = true →
      slot ∈ fillSlots size usage nextHandle valid i count slots := by
  induction count generalizing i slots with
  | zero =>
      intro slot hslot hbusy
      have hpos : 0 < busyCount slots := List.countP_pos_iff.mpr ⟨slot, hslot, hbusy⟩
      exact absurd hkept (by simpa [fillSlots, busyCount] using hpos)
  | succ count ih =>
      cases slots with
      | nil => simp
      | cons first slots =>
          have hle : busyCount (fillSlots size usage nextHandle valid (i + 1) count slots) ≤
              busyCount slots := busyCount_fillSlots_le
          simp only [fillSlots, busyCount, List.countP_cons, List.tail_cons, List.headD_cons]
            at hkept hle ⊢
          intro slot hslot hbusy
          cases hvalid : valid i with
          | false =>
              simp only [hvalid, Bool.false_eq_true, if_false] at hkept ⊢
              rcases List.mem_cons.mp hslot with rfl | hslot
              · exact List.mem_cons_self
              · have hrest : List.countP BufferSlot.mBusy slots ≤ List.countP BufferSlot.mBusy
                    (fillSlots size usage nextHandle valid (i + 1) count slots) := by omega
                exact List.mem_cons_of_mem _ (ih hrest slot hslot hbusy)
          | true =>
              -- a busy buffer that is replaced would be one less
              simp only [hvalid, if_true, Bool.false_eq_true, if_false] at hkept ⊢
              have hrest : List.countP BufferSlot.mBusy slots ≤ List.countP BufferSlot.mBusy
                  (fillSlots size usage nextHandle valid (i + 1) count slots) := by omega
              rcases List.mem_cons.mp hslot with rfl | hslot
              · rw [if_pos hbusy] at hkept
                omega
              · exact List.mem_cons_of_mem _ (ih hrest slot hslot hbusy)

/-! ## What a call does -/

def BufferSlot.acquired (slot : BufferSlot) (generation : Nat) : BufferSlot :=
  { slot with mBusy := true, mGenerationNumber := generation }

def take (p : BufferPoolImpl) (found : Nat) (slot : BufferSlot) (buf : IonBuffer) :
    BufferPoolImpl :=
  { p with
    mSlots := p.mSlots.set found (slot.acquired ((p.mGenerationNumber + 1) % 2 ^ 64))
    mGenerationNumber := (p.mGenerationNumber + 1) % 2 ^ 64
    mAcquireBufferCount := p.mAcquireBufferCount + 1
    held := buf.handle :: p.held }

theorem acquireBuffer_cases (p : BufferPoolImpl) :
    (p.acquireBuffer = (none, p) ∧
      (p.mAllocated = true → ∀ slot ∈ p.mSlots, slot.Acquirable = false)) ∨
    ∃ found slot buf, LeastAt BufferSlot.Acquirable BufferSlot.mGenerationNumber p.mSlots found slot ∧
      slot.mGraphicBuffer = some buf ∧
      p.acquireBuffer = (some (buf, slot.mReleaseFence), p.take found slot buf) := by
  unfold acquireBuffer
  cases halloc : p.mAllocated with
  | false => exact .inl ⟨by simp, by simp⟩
  | true =>
      simp only [Bool.not_true, Bool.false_eq_true, if_false]
      cases hfound : findLeast BufferSlot.Acquirable BufferSlot.mGenerationNumber p.mSlots with
      | none => exact .inl ⟨rfl, fun _ => findLeast_eq_none_iff.mp hfound⟩
      | some found =>
          obtain ⟨slot, hleast⟩ := findLeast_leastAt hfound
          have heligible := hleast.eligible
          simp only [BufferSlot.Acquirable, Bool.and_eq_true] at heligible
          obtain ⟨buf, hbuf⟩ := Option.isSome_iff_exists.mp heligible.1.1
          refine .inr ⟨found, slot, buf, hleast, hbuf, ?_⟩
          simp only [hleast.get, hbuf, take, BufferSlot.acquired, halloc]

section findSlot

variable {handle i : Nat} {first : BufferSlot} {slots : List BufferSlot}

theorem findSlot_cons_empty (h : first.mGraphicBuffer = none) :
    findSlot handle (first :: slots) = .error .nullPointer := by
  simp [findSlot, h]

theorem findSlot_cons_holds (h : first.Holds handle) :
    findSlot handle (first :: slots) = .ok (some 0) := by
  obtain ⟨buf, hbuf, heq⟩ := Option.map_eq_some_iff.mp h
  simp [findSlot, hbuf, heq]

theorem findSlot_cons_other {buf : IonBuffer} (hbuf : first.mGraphicBuffer = some buf)
    (h : ¬ first.Holds handle) :
    findSlot handle (first :: slots) = (findSlot handle slots).map (Option.map (· + 1)) := by
  have hne : buf.handle ≠ handle := by
    intro heq
    exact h (by simp [BufferSlot.Holds, hbuf, heq])
  simp only [findSlot, hbuf, if_neg hne]
  cases findSlot handle slots <;> rfl

theorem forall_before_succ {P : BufferSlot → Prop} :
    (∀ j s, j < i + 1 → (first :: slots)[j]? = some s → P s) ↔
      P first ∧ ∀ j s, j < i → slots[j]? = some s → P s := by
  constructor
  · intro h
    exact ⟨h 0 first (Nat.succ_pos i) rfl, fun j s hj hs => h (j + 1) s (by omega) hs⟩
  · intro h j s hj hs
    cases j with
    | zero =>
        cases hs
        exact h.1
    | succ j => exact h.2 j s (by omega) hs

theorem findSlot_eq_some_iff :
    findSlot handle slots = .ok (some i) ↔
      ∃ slot, slots[i]? = some slot ∧ slot.Holds handle ∧
        ∀ j s, j < i → slots[j]? = some s → s.mGraphicBuffer.isSome = true ∧ ¬ s.Holds handle := by
  induction slots generalizing i with
  | nil => simp [findSlot]
  | cons first slots ih =>
      by_cases hholds : first.Holds handle
      · rw [findSlot_cons_holds hholds]
        cases i with
        | zero => simp [hholds]
        | succ i =>
            simp only [forall_before_succ]
            simp [hholds]
      · cases hfirst : first.mGraphicBuffer with
        | none =>
            rw [findSlot_cons_empty hfirst]
            cases i with
            | zero => simp [hholds]
            | succ i =>
                simp only [forall_before_succ]
                simp [hfirst]
        | some buf =>
            rw [findSlot_cons_other hfirst hholds]
            cases i with
            | zero =>
                have hpos : (findSlot handle slots).map (Option.map (· + 1)) ≠ .ok (some 0) := by
                  rcases findSlot handle slots with fault | found
                  · simp [Except.map]
                  · cases found <;> simp [Except.map]
                simp [hpos, hholds]
            | succ i =>
                have hstep : (findSlot handle slots).map (Option.map (· + 1)) = .ok (some (i + 1)) ↔
                    findSlot handle slots = .ok (some i) := by
                  rcases findSlot handle slots with fault | found
                  · simp [Except.map]
                  · cases found <;> simp [Except.map]
                rw [hstep, ih]
                simp only [forall_before_succ]
                simp [hfirst, hholds]

theorem findSlot_eq_none_iff :
    findSlot handle slots = .ok none ↔
      ∀ s ∈ slots, s.mGraphicBuffer.isSome = true ∧ ¬ s.Holds handle := by
  induction slots with
  | nil => simp [findSlot]
  | cons first slots ih =>
      rw [List.forall_mem_cons, ← ih]
      by_cases hholds : first.Holds handle
      · simp [findSlot_cons_holds hholds, hholds]
      · cases hfirst : first.mGraphicBuffer with
        | none => simp [findSlot_cons_empty hfirst]
        | some buf =>
            rw [findSlot_cons_other hfirst hholds]
            rcases findSlot handle slots with fault | found
            · simp [Except.map]
            · cases found <;> simp [Except.map, hholds]

end findSlot

def pendingHandles (p : BufferPoolImpl) : List (Option Nat) :=
  p.mPendingReleaseBuffers.map (Option.map IonBuffer.handle)

def releaseAt (p : BufferPoolImpl) (handle i : Nat) (releaseFence : Int) : BufferPoolImpl :=
  { p with
    held := p.held.erase handle
    mSlots := p.mSlots.modify i fun slot =>
      { slot with mBusy := false, mReleaseFence := releaseFence }
    mAcquireBufferCount := p.mAcquireBufferCount - 1 }

def releasePending (p : BufferPoolImpl) (handle : Nat) (rest : List (Option IonBuffer)) :
    BufferPoolImpl :=
  { p with
    held := p.held.erase handle
    mPendingReleaseBuffers := rest
    mAcquireBufferCount := p.mAcquireBufferCount - 1 }

def PassesSlots (p : BufferPoolImpl) (handle : Nat) : Prop :=
  ∀ s ∈ p.mSlots, s.mGraphicBuffer.isSome = true ∧ ¬ s.Holds handle

/-- The slot of the buffer, with no empty slot before it. -/
structure FirstAt (p : BufferPoolImpl) (handle i : Nat) (slot : BufferSlot) : Prop where
  get : p.mSlots[i]? = some slot
  holds : slot.Holds handle
  before : ∀ j s, j < i → p.mSlots[j]? = some s → s.mGraphicBuffer.isSome = true ∧ ¬ s.Holds handle

theorem loop_pendingTurn {handle fuel : Nat} {pending : List (Option IonBuffer)}
    {r : Option (List (Option IonBuffer))}
    (h : loop (pendingTurn handle pending) fuel () = .ok (some r)) :
    (pending = [] ∧ r = none) ∨
      ∃ buf rest, pending = some buf :: rest ∧ buf.handle = handle ∧ r = some rest := by
  obtain ⟨⟨⟩, -, hturn⟩ := loop_done h
  unfold pendingTurn at hturn
  split at hturn
  · cases hturn
    exact .inl ⟨rfl, rfl⟩
  · cases hturn
  · rename_i buf rest
    split at hturn
    · rename_i heq
      cases hturn
      exact .inr ⟨buf, rest, rfl, heq, rfl⟩
    · cases hturn

theorem release_cases {p p' : BufferPoolImpl} {fuel handle : Nat} {fence : Int}
    (h : p.release fuel handle fence = .ok (some p')) :
    (∃ i slot, p.FirstAt handle i slot ∧ p' = p.releaseAt handle i fence) ∨
      (p.PassesSlots handle ∧ p.mPendingReleaseBuffers = [] ∧
        p' = { p with held := p.held.erase handle }) ∨
      ∃ buf rest, p.PassesSlots handle ∧ p.mPendingReleaseBuffers = some buf :: rest ∧
        buf.handle = handle ∧ p' = p.releasePending handle rest := by
  unfold release at h
  dsimp only at h
  split at h
  · cases h
  · rename_i i hfound
    cases h
    obtain ⟨slot, hget, hholds, hbefore⟩ := findSlot_eq_some_iff.mp hfound
    exact .inl ⟨i, slot, ⟨hget, hholds, hbefore⟩, rfl⟩
  · rename_i hfound
    have hpasses : p.PassesSlots handle := findSlot_eq_none_iff.mp hfound
    split at h
    · cases h
    · cases h
    · rename_i hloop
      cases h
      rcases loop_pendingTurn hloop with ⟨hnil, -⟩ | ⟨buf, rest, -, -, hsome⟩
      · exact .inr (.inl ⟨hpasses, hnil, rfl⟩)
      · cases hsome
    · rename_i rest hloop
      cases h
      rcases loop_pendingTurn hloop with ⟨-, hnone⟩ | ⟨buf, rest', hcons, heq, hsome⟩
      · cases hnone
      · cases hsome
        exact .inr (.inr ⟨buf, rest, hpasses, hcons, heq, rfl⟩)

theorem release_of_firstAt {p : BufferPoolImpl} {handle i : Nat} {slot : BufferSlot}
    (h : p.FirstAt handle i slot) (fuel : Nat) (fence : Int) :
    p.release fuel handle fence = .ok (some (p.releaseAt handle i fence)) := by
  have hfound : findSlot handle p.mSlots = .ok (some i) :=
    findSlot_eq_some_iff.mpr ⟨slot, h.get, h.holds, h.before⟩
  simp only [release, hfound, releaseAt]

theorem release_of_pending {p : BufferPoolImpl} {handle : Nat} {buf : IonBuffer}
    {rest : List (Option IonBuffer)} (hpasses : p.PassesSlots handle)
    (hpending : p.mPendingReleaseBuffers = some buf :: rest) (heq : buf.handle = handle)
    (fence : Int) : p.release 1 handle fence = .ok (some (p.releasePending handle rest)) := by
  have hfound : findSlot handle p.mSlots = .ok none := findSlot_eq_none_iff.mpr hpasses
  have hloop : loop (pendingTurn handle p.mPendingReleaseBuffers) 1 () = .ok (some (some rest)) := by
    simp [loop, pendingTurn, hpending, heq]
  simp only [release, hfound, hloop, releasePending]

end BufferPoolImpl

end AwHal.Hwc
