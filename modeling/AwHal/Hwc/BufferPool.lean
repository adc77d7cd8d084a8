import Mathlib.Tactic.Ring
import AwHal.Lib.GuardedRun

/-!
# Buffer pools

`BufferPoolImpl` in asynchronous mode (`BufferPool.cpp`): the buffers are allocated by a thread that
reads the size and the count from the pool while it runs.  The pool and the part of the thread that
works for it are one state machine, with a step for each place where they may interleave; the thread
also works for other pools, whose tasks do not touch this one.
-/

namespace AwHal.Hwc

open AwHal.Lib

/-! ## Data -/

structure IonBuffer where
  handle : Nat
  size : Nat
  usage : Nat
deriving DecidableEq, Repr

structure BufferSlot where
  mGraphicBuffer : IonBuffer
  mBusy : Bool := false
  mGenerationNumber : Nat := 0
deriving DecidableEq, Repr

structure Allocating where
  i : Nat := 0
  buf : Option IonBuffer := none
deriving DecidableEq, Repr

structure BufferPool where
  mAllocated : Bool := false
  mSlots : List BufferSlot := []
  mPendingReleaseBuffers : List IonBuffer := []
  mBufferCount : Nat
  mSize : Nat
  mUsage : Nat
  mGenerationNumber : Nat := 0
  mAcquireBufferCount : Int := 0
  /-- Tasks of this pool that wait for the thread. -/
  mAllocateTasks : Nat := 0
  /-- Tasks of this pool that the thread has taken and not begun. -/
  pendingTasks : Nat := 0
  /-- The task of this pool that the thread is busy with. -/
  running : Option Allocating := none
  /-- The size that a call of `reallocate` is about to hand to `allocateBuffer`. -/
  reallocating : Option Nat := none
  /-- A call of `release` that does not return, with the lock in its hands. -/
  hung : Bool := false
  /-- The handle of the next buffer. -/
  nextHandle : Nat := 0
  /-- The buffer that the last event, if it was a successful `acquireBuffer`, returned. -/
  acquired : Option IonBuffer := none
deriving DecidableEq, Repr

inductive BufferPool.Event where
  /-- The part of `reallocate` under the lock. -/
  | reallocate (size : Nat)
  /-- The call of `allocateBuffer` at the end of `reallocate`. -/
  | allocateBuffer
  | acquireBuffer
  | releaseBuffer (handle : Nat)
  /-- The thread takes all waiting tasks. -/
  | takeTasks
  | beginTask
  /-- `new IonBuffer`, and whether it `isValid`. -/
  | newIonBuffer (valid : Bool)
  | pushSlot
  /-- The end of `onBufferAllocated`. -/
  | setAllocated
deriving DecidableEq, Repr

namespace BufferPool

/-! ## Calls -/

def bufferSize (p : BufferPool) : Nat := p.mSize

def allocateBuffer (p : BufferPool) (size : Nat) : BufferPool :=
  { p with mSize := size, mAllocateTasks := p.mAllocateTasks + 1 }

def new (count size usage : Nat) : BufferPool :=
  allocateBuffer { mBufferCount := count, mSize := size, mUsage := usage } size

/-- The busy buffers are kept until they are released; the others are freed. -/
def reallocate (p : BufferPool) (size : Nat) : BufferPool :=
  { p with
    mAllocated := false
    mPendingReleaseBuffers := p.mPendingReleaseBuffers ++
      (p.mSlots.filter BufferSlot.mBusy).map BufferSlot.mGraphicBuffer
    mSlots := []
    reallocating := some size }

def UINT64_MAX : Nat := 2 ^ 64 - 1

def findTurn (best : Nat × Option Nat) (slot : BufferSlot × Nat) : Nat × Option Nat :=
  if !slot.1.mBusy ∧ slot.1.mGenerationNumber < best.1 then
    (slot.1.mGenerationNumber, some slot.2)
  else best

def findFree (slots : List BufferSlot) : Option Nat :=
  (slots.zipIdx.foldl findTurn (UINT64_MAX, none)).2

def acquireBuffer (p : BufferPool) : BufferPool :=
  if !p.mAllocated then p
  else match findFree p.mSlots with
    | none => p
    | some found =>
        match p.mSlots[found]? with
        | none => p
        | some slot =>
            { p with
              mSlots := p.mSlots.set found
                { slot with mBusy := true, mGenerationNumber := p.mGenerationNumber + 1 }
              mGenerationNumber := p.mGenerationNumber + 1
              mAcquireBufferCount := p.mAcquireBufferCount + 1
              acquired := some slot.mGraphicBuffer }

def release (p : BufferPool) (handle : Nat) : BufferPool :=
  match p.mSlots.findIdx? fun slot => slot.mGraphicBuffer.handle == handle with
  | some i =>
      { p with
        mSlots := p.mSlots.modify i fun slot => { slot with mBusy := false }
        mAcquireBufferCount := p.mAcquireBufferCount - 1 }
  | none =>
      match p.mPendingReleaseBuffers with
      | [] => p
      | buf :: rest =>
          if buf.handle = handle then
            { p with
              mPendingReleaseBuffers := rest
              mAcquireBufferCount := p.mAcquireBufferCount - 1 }
          -- the iterator of the loop is never advanced
          else { p with hung := true }

/-- The steps; one that does not apply changes nothing. -/
def step (p : BufferPool) (event : Event) : BufferPool :=
  let p := { p with acquired := none }
  if p.hung then p
  else match event with
    | .reallocate size => if p.reallocating.isSome then p else p.reallocate size
    | .allocateBuffer =>
        match p.reallocating with
        | none => p
        | some size => { p with reallocating := none }.allocateBuffer size
    | .acquireBuffer => p.acquireBuffer
    | .releaseBuffer handle => p.release handle
    | .takeTasks =>
        if p.pendingTasks = 0 ∧ p.running = none then
          { p with pendingTasks := p.mAllocateTasks, mAllocateTasks := 0 }
        else p
    | .beginTask =>
        if 0 < p.pendingTasks ∧ p.running = none then
          { p with pendingTasks := p.pendingTasks - 1, running := some {} }
        else p
    | .newIonBuffer valid =>
        match p.running with
        | some { i, buf := none } =>
            if i < p.mBufferCount then
              if valid then
                let buf := { handle := p.nextHandle, size := p.mSize, usage := p.mUsage }
                { p with nextHandle := p.nextHandle + 1, running := some { i, buf := some buf } }
              else { p with running := some { i := i + 1 } }
            else p
        | _ => p
    | .pushSlot =>
        match p.running with
        | some { i, buf := some buf } =>
            { p with
              mSlots := p.mSlots ++ [{ mGraphicBuffer := buf }]
              running := some { i := i + 1 } }
        | _ => p
    | .setAllocated =>
        match p.running with
        | some { i, buf := none } =>
            if i < p.mBufferCount then p else { p with mAllocated := true, running := none }
        | _ => p

/-! ## What a step can do -/

/-- The steps that have an effect.  `hung`, `running` and the tasks are as the step requires. -/
inductive Move (p : BufferPool) : Event → BufferPool → Prop
  | idle (event : Event) : Move p event p
  | reallocate (size : Nat) (hhung : p.hung = false) (hnone : p.reallocating = none) :
      Move p (.reallocate size) (p.reallocate size)
  | allocateBuffer {size : Nat} (hsome : p.reallocating = some size) :
      Move p .allocateBuffer ({ p with reallocating := none }.allocateBuffer size)
  | acquireBuffer {found : Nat} {slot : BufferSlot} (hfound : p.mSlots[found]? = some slot) :
      Move p .acquireBuffer
        { p with
          mSlots := p.mSlots.set found
            { slot with mBusy := true, mGenerationNumber := p.mGenerationNumber + 1 }
          mGenerationNumber := p.mGenerationNumber + 1
          mAcquireBufferCount := p.mAcquireBufferCount + 1
          acquired := some slot.mGraphicBuffer }
  | releaseSlot (handle i : Nat) :
      Move p (.releaseBuffer handle)
        { p with
          mSlots := p.mSlots.modify i fun slot => { slot with mBusy := false }
          mAcquireBufferCount := p.mAcquireBufferCount - 1 }
  | releasePending (handle : Nat) (rest : List IonBuffer) :
      Move p (.releaseBuffer handle)
        { p with
          mPendingReleaseBuffers := rest
          mAcquireBufferCount := p.mAcquireBufferCount - 1 }
  | hang (handle : Nat) : Move p (.releaseBuffer handle) { p with hung := true }
  | takeTasks (hpending : p.pendingTasks = 0) (hrunning : p.running = none) :
      Move p .takeTasks { p with pendingTasks := p.mAllocateTasks, mAllocateTasks := 0 }
  | beginTask (hpending : 0 < p.pendingTasks) (hrunning : p.running = none) :
      Move p .beginTask { p with pendingTasks := p.pendingTasks - 1, running := some {} }
  | newIonBuffer {i : Nat} (hrunning : p.running = some { i }) (hi : i < p.mBufferCount) :
      Move p (.newIonBuffer true)
        { p with
          nextHandle := p.nextHandle + 1
          running := some
            { i, buf := some { handle := p.nextHandle, size := p.mSize, usage := p.mUsage } } }
  | invalid {i : Nat} (hrunning : p.running = some { i }) :
      Move p (.newIonBuffer false) { p with running := some { i := i + 1 } }
  | pushSlot {i : Nat} {buf : IonBuffer} (hrunning : p.running = some { i, buf := some buf }) :
      Move p .pushSlot
        { p with
          mSlots := p.mSlots ++ [{ mGraphicBuffer := buf }]
          running := some { i := i + 1 } }
  | setAllocated {i : Nat} (hrunning : p.running = some { i }) (hi : p.mBufferCount ≤ i) :
      Move p .setAllocated { p with mAllocated := true, running := none }

theorem move_acquireBuffer (p : BufferPool) : Move p .acquireBuffer p.acquireBuffer := by
  unfold BufferPool.acquireBuffer
  split
  · exact .idle _
  · split
    · exact .idle _
    · split
      · exact .idle _
      · rename_i hslot
        exact .acquireBuffer hslot

theorem move_release (p : BufferPool) (handle : Nat) :
    Move p (.releaseBuffer handle) (p.release handle) := by
  unfold release
  split
  · rename_i i _
    exact .releaseSlot handle i
  · split
    · exact .idle _
    · split
      · exact .releasePending handle _
      · exact .hang handle

theorem move_step (p : BufferPool) (event : Event) :
    Move { p with acquired := none } event (p.step event) := by
  unfold step
  generalize { p with acquired := none } = p
  dsimp only
  split
  · exact .idle event
  · rename_i hhung
    cases event with
    | reallocate size =>
        dsimp only
        split
        · exact .idle _
        · rename_i hnone
          exact .reallocate size (by simpa using hhung) (by simpa using hnone)
    | allocateBuffer =>
        dsimp only
        split
        · exact .idle _
        · rename_i hsome
          exact .allocateBuffer hsome
    | acquireBuffer => exact move_acquireBuffer p
    | releaseBuffer handle => exact move_release p handle
    | takeTasks =>
        dsimp only
        split
        · rename_i h
          exact .takeTasks h.1 h.2
        · exact .idle _
    | beginTask =>
        dsimp only
        split
        · rename_i h
          exact .beginTask h.1 h.2
        · exact .idle _
    | newIonBuffer valid =>
        dsimp only
        split
        · rename_i hrunning
          split
          · rename_i hi
            cases valid with
            | true => exact .newIonBuffer hrunning hi
            | false => exact .invalid hrunning
          · exact .idle _
        · exact .idle _
    | pushSlot =>
        dsimp only
        split
        · rename_i hrunning
          exact .pushSlot hrunning
        · exact .idle _
    | setAllocated =>
        dsimp only
        split
        · rename_i hrunning
          split
          · exact .idle _
          · rename_i hi
            exact .setAllocated hrunning (Nat.le_of_not_lt hi)
        · exact .idle _

/-! ## The shape of the pool -/

def owed (p : BufferPool) : Nat :=
  (p.mAllocateTasks + p.pendingTasks) * p.mBufferCount +
    p.running.elim 0 fun task => p.mBufferCount - task.i

/-- Not too many slots, and a buffer that was just acquired is large enough. -/
def Shaped (p : BufferPool) : Prop :=
  p.mSlots.length ≤ p.mBufferCount ∧ ∀ buf ∈ p.acquired, p.bufferSize ≤ buf.size

/-- A `reallocate` finds no allocation under way. -/
def Settled (_ : List Event) (p : BufferPool) : Event → Prop
  | .reallocate _ => p.hung = false → p.reallocating = none → p.owed = 0
  | _ => True

/-- What holds as long as every `reallocate` is settled. -/
structure Inv (p : BufferPool) : Prop where
  /-- The slots that are there and those to come fit. -/
  room : p.mSlots.length + p.owed + (p.reallocating.elim 0 fun _ => p.mBufferCount) ≤
    p.mBufferCount
  slots : ∀ slot ∈ p.mSlots, slot.mGraphicBuffer.size = p.mSize
  buf : ∀ task ∈ p.running, ∀ buf ∈ task.buf, task.i < p.mBufferCount ∧ buf.size = p.mSize
  acquired : ∀ buf ∈ p.acquired, p.mSize ≤ buf.size

theorem Inv.shaped {p : BufferPool} (h : Inv p) : p.Shaped :=
  ⟨by have := h.room; omega, h.acquired⟩

theorem inv_new (count size usage : Nat) : Inv (new count size usage) where
  room := by simp [new, BufferPool.allocateBuffer, owed]
  slots := by simp [new, BufferPool.allocateBuffer]
  buf := by simp [new, BufferPool.allocateBuffer]
  acquired := by simp [new, BufferPool.allocateBuffer]

theorem Inv.forget {p : BufferPool} (h : Inv p) : Inv { p with acquired := none } :=
  ⟨h.room, h.slots, h.buf, by simp⟩

theorem Inv.owed_pos {p : BufferPool} (h : Inv p) {task : Allocating} {buf : IonBuffer}
    (htask : p.running = some task) (hbuf : task.buf = some buf) : 0 < p.owed := by
  have hi := (h.buf task htask buf hbuf).1
  rw [owed, htask, Option.elim_some]
  omega

/-- While a `reallocate` is between its parts the pool is empty and the thread has nothing more to
add. -/
theorem Inv.reallocating {p : BufferPool} (h : Inv p) {size : Nat}
    (hsome : p.reallocating = some size) :
    p.mSlots = [] ∧ p.owed = 0 ∧ ∀ task ∈ p.running, task.buf = none := by
  have hroom := h.room
  rw [hsome, Option.elim_some] at hroom
  refine ⟨List.length_eq_zero_iff.mp (by omega), by omega, ?_⟩
  intro task htask
  cases hbuf : task.buf with
  | none => rfl
  | some buf =>
      have := h.owed_pos htask hbuf
      omega

theorem Inv.resume {p p' : BufferPool} (h : Inv p) (hcount : p'.mBufferCount = p.mBufferCount)
    (hsize : p'.mSize = p.mSize) (hre : p'.reallocating = p.reallocating)
    (hroom : p'.mSlots.length + p'.owed ≤ p.mSlots.length + p.owed)
    (hslots : ∀ slot ∈ p'.mSlots, slot.mGraphicBuffer.size = p.mSize)
    (hbuf : ∀ task ∈ p'.running, ∀ buf ∈ task.buf,
      task.i < p.mBufferCount ∧ buf.size = p.mSize)
    (hacquired : ∀ buf ∈ p'.acquired, p.mSize ≤ buf.size) : Inv p' where
  room := by
    have := h.room
    rw [hre, hcount]
    omega
  slots := hsize ▸ hslots
  buf := hcount ▸ hsize ▸ hbuf
  acquired := hsize ▸ hacquired

theorem mem_modify_size {slots : List BufferSlot} {i size : Nat} {f : BufferSlot → BufferSlot}
    (hf : ∀ slot, (f slot).mGraphicBuffer = slot.mGraphicBuffer)
    (h : ∀ slot ∈ slots, slot.mGraphicBuffer.size = size) :
    ∀ slot ∈ slots.modify i f, slot.mGraphicBuffer.size = size := by
  intro slot hmem
  obtain ⟨j, hj⟩ := List.mem_iff_getElem?.mp hmem
  rw [List.getElem?_modify] at hj
  obtain ⟨old, hold, heq⟩ := Option.map_eq_some_iff.mp hj
  have hsize := h old (List.mem_of_getElem? hold)
  rw [← heq]
  split
  · rw [hf, hsize]
  · exact hsize

theorem tasks_beginTask (p : BufferPool) (hpending : 0 < p.pendingTasks) :
    (p.mAllocateTasks + (p.pendingTasks - 1)) * p.mBufferCount + p.mBufferCount =
      (p.mAllocateTasks + p.pendingTasks) * p.mBufferCount := by
  rw [← Nat.succ_mul]
  congr 1
  omega

theorem Inv.move {p p' : BufferPool} {event : Event} (h : Inv p) (hforget : p.acquired = none)
    {past : List Event} (hok : Settled past p event) (hmove : Move p event p') : Inv p' := by
  cases hmove with
  | idle => exact h
  | reallocate size hhung hnone =>
      have howed := hok hhung hnone
      refine ⟨?_, by simp [BufferPool.reallocate], h.buf, h.acquired⟩
      show 0 + p.owed + p.mBufferCount ≤ p.mBufferCount
      omega
  | @allocateBuffer size hsome =>
      obtain ⟨hslots, howed, hbuf⟩ := h.reallocating hsome
      have howed' : ({ p with reallocating := none }.allocateBuffer size).owed =
          p.owed + p.mBufferCount := by
        simp only [owed, BufferPool.allocateBuffer]
        ring
      refine ⟨?_, ?_, ?_, ?_⟩
      · rw [howed', howed]
        simp [BufferPool.allocateBuffer, hslots]
      · simp [BufferPool.allocateBuffer, hslots]
      · intro task htask buf hmem
        rw [hbuf task htask] at hmem
        cases hmem
      · simp [BufferPool.allocateBuffer, hforget]
  | @acquireBuffer found slot hfound =>
      have hslot := h.slots slot (List.mem_of_getElem? hfound)
      refine h.resume rfl rfl rfl ?_ ?_ ?_ ?_
      · simp [owed]
      · intro slot' hmem
        rcases List.mem_or_eq_of_mem_set hmem with hmem | rfl
        · exact h.slots slot' hmem
        · exact hslot
      · exact h.buf
      · rintro _ ⟨⟩
        exact hslot.ge
  | releaseSlot handle i =>
      refine h.resume rfl rfl rfl ?_ ?_ ?_ ?_
      · simp [owed]
      · exact mem_modify_size (fun _ => rfl) h.slots
      · exact h.buf
      · exact h.acquired
  | releasePending handle rest => exact ⟨h.room, h.slots, h.buf, h.acquired⟩
  | hang handle => exact ⟨h.room, h.slots, h.buf, h.acquired⟩
  | takeTasks hpending hrunning =>
      refine h.resume rfl rfl rfl ?_ ?_ ?_ ?_
      · simp [owed, hpending]
      · exact h.slots
      · exact h.buf
      · exact h.acquired
  | beginTask hpending hrunning =>
      have htasks := tasks_beginTask p hpending
      refine h.resume rfl rfl rfl ?_ ?_ ?_ ?_
      · simp only [owed, hrunning, Option.elim]
        omega
      · exact h.slots
      · rintro _ ⟨⟩ _ ⟨⟩
      · exact h.acquired
  | newIonBuffer hrunning hi =>
      refine h.resume rfl rfl rfl ?_ ?_ ?_ ?_
      · simp [owed, hrunning]
      · exact h.slots
      · rintro _ ⟨⟩ _ ⟨⟩
        exact ⟨hi, rfl⟩
      · exact h.acquired
  | invalid hrunning =>
      refine h.resume rfl rfl rfl ?_ ?_ ?_ ?_
      · simp only [owed, hrunning, Option.elim]
        omega
      · exact h.slots
      · rintro _ ⟨⟩ _ ⟨⟩
      · exact h.acquired
  | @pushSlot i buf hrunning =>
      obtain ⟨hi, hsize⟩ := h.buf _ hrunning buf rfl
      refine h.resume rfl rfl rfl ?_ ?_ ?_ ?_
      · simp only [owed, hrunning, Option.elim, List.length_append, List.length_singleton]
        simp only at hi
        omega
      · intro slot hmem
        rcases List.mem_append.mp hmem with hmem | hmem
        · exact h.slots slot hmem
        · rw [List.mem_singleton.mp hmem]
          exact hsize
      · rintro _ ⟨⟩ _ ⟨⟩
      · exact h.acquired
  | setAllocated hrunning hi =>
      refine h.resume rfl rfl rfl ?_ ?_ ?_ ?_
      · simp [owed]
      · exact h.slots
      · simp
      · exact h.acquired

/-! ## What the thread still does -/

/-- The steps of the thread, and the end of a `reallocate` that has begun. -/
def Event.Pending : Event → Prop
  | .allocateBuffer | .takeTasks | .beginTask | .newIonBuffer _ | .pushSlot | .setAllocated => True
  | .reallocate _ | .acquireBuffer | .releaseBuffer _ => False

instance : DecidablePred Event.Pending
  | .allocateBuffer | .takeTasks | .beginTask | .newIonBuffer _ | .pushSlot | .setAllocated =>
      isTrue trivial
  | .reallocate _ | .acquireBuffer | .releaseBuffer _ => isFalse id

def InRange (p : BufferPool) : Prop :=
  ∀ task ∈ p.running, task.buf.isSome → task.i < p.mBufferCount

theorem Move.inRange {p p' : BufferPool} {event : Event} (hmove : Move p event p')
    (h : p.InRange) : p'.InRange ∧ p'.mBufferCount = p.mBufferCount := by
  cases hmove with
  | idle | reallocate | allocateBuffer | acquireBuffer | releaseSlot | releasePending | hang |
    takeTasks => exact ⟨h, rfl⟩
  | beginTask => exact ⟨by rintro _ ⟨⟩ ⟨⟩, rfl⟩
  | newIonBuffer _ hi => exact ⟨by rintro _ ⟨⟩ _; exact hi, rfl⟩
  | invalid => exact ⟨by rintro _ ⟨⟩ ⟨⟩, rfl⟩
  | pushSlot => exact ⟨by rintro _ ⟨⟩ ⟨⟩, rfl⟩
  | setAllocated => exact ⟨by simp [InRange], rfl⟩

theorem inRange_step {p : BufferPool} (h : p.InRange) (event : Event) :
    (p.step event).InRange ∧ (p.step event).mBufferCount = p.mBufferCount :=
  (move_step p event).inRange h

theorem inRange_run (count size usage : Nat) (events : List Event) :
    (events.foldl step (new count size usage)).InRange ∧
      (events.foldl step (new count size usage)).mBufferCount = count := by
  induction events using List.reverseRecOn with
  | nil => exact ⟨by simp [InRange, new, BufferPool.allocateBuffer], rfl⟩
  | append_singleton events event ih =>
      rw [List.foldl_append]
      obtain ⟨hrange, hcount⟩ := inRange_step ih.1 event
      exact ⟨hrange, hcount.trans ih.2⟩

/-- The steps that are left to the thread. -/
def work (p : BufferPool) : Nat :=
  2 * p.owed + 3 * p.mAllocateTasks + 2 * p.pendingTasks +
    p.running.elim 0 fun task => if task.buf.isSome then 0 else 1

theorem exists_step_of_work {p : BufferPool} (hhung : p.hung = false) (hrange : p.InRange)
    (hwork : p.work ≠ 0) :
    ∃ event, event.Pending ∧ (p.step event).work < p.work ∧ (p.step event).hung = false ∧
      (p.step event).mSlots.length + (p.step event).owed = p.mSlots.length + p.owed := by
  cases hrunning : p.running with
  | some task =>
      obtain ⟨i, buf⟩ := task
      cases buf with
      | some buf =>
          have hi : i < p.mBufferCount := hrange _ hrunning rfl
          refine ⟨.pushSlot, trivial, ?_⟩
          simp only [step, hhung, hrunning, Bool.false_eq_true, if_false, work, owed, Option.elim,
            Option.isSome, List.length_append, List.length_singleton, if_true]
          exact ⟨by omega, trivial, by omega⟩
      | none =>
          by_cases hi : i < p.mBufferCount
          · refine ⟨.newIonBuffer true, trivial, ?_⟩
            simp only [step, hhung, hrunning, Bool.false_eq_true, if_false, if_pos hi, work, owed,
              Option.elim, Option.isSome, if_true]
            exact ⟨by omega, trivial, trivial⟩
          · refine ⟨.setAllocated, trivial, ?_⟩
            simp only [step, hhung, hrunning, Bool.false_eq_true, if_false, if_neg hi, work, owed,
              Option.elim, Option.isSome]
            exact ⟨by omega, trivial, by omega⟩
  | none =>
      by_cases hpending : 0 < p.pendingTasks
      · have htasks := tasks_beginTask p hpending
        refine ⟨.beginTask, trivial, ?_⟩
        simp only [step, hhung, hrunning, hpending, Bool.false_eq_true, if_false, and_self, if_true,
          work, owed, Option.elim, Option.isSome]
        exact ⟨by omega, trivial, by omega⟩
      · have hzero : p.pendingTasks = 0 := by omega
        refine ⟨.takeTasks, trivial, ?_⟩
        simp only [step, hhung, hrunning, hzero, Bool.false_eq_true, if_false, and_self, if_true,
          work, owed, Option.elim, Nat.zero_add, Nat.add_zero] at hwork ⊢
        have hposted : 0 < p.mAllocateTasks := by
          rcases Nat.eq_zero_or_pos p.mAllocateTasks with h | h
          · simp [h] at hwork
          · exact h
        exact ⟨by omega, trivial⟩

/-- Left to itself, the thread adds to the pool all that is owed. -/
theorem exists_pending_run (p : BufferPool) (hhung : p.hung = false) (hrange : p.InRange) :
    ∃ more : List Event, (∀ event ∈ more, event.Pending) ∧
      (more.foldl step p).mSlots.length = p.mSlots.length + p.owed := by
  induction hn : p.work using Nat.strong_induction_on generalizing p with
  | h n ih =>
      by_cases hwork : p.work = 0
      · refine ⟨[], by simp, ?_⟩
        have : p.owed = 0 := by
          unfold work at hwork
          omega
        rw [this]
        rfl
      · obtain ⟨event, hpending, hless, hhung', hkeep⟩ := exists_step_of_work hhung hrange hwork
        obtain ⟨more, hmore, hlen⟩ :=
          ih _ (hn ▸ hless) (p.step event) hhung' (inRange_step hrange event).1 rfl
        refine ⟨event :: more, ?_, ?_⟩
        · intro event' hmem
          rcases List.mem_cons.mp hmem with rfl | hmem
          · exact hpending
          · exact hmore event' hmem
        · rw [List.foldl_cons, hlen, hkeep]

/-! ## Every run -/

theorem Inv.step {p : BufferPool} (h : Inv p) {past : List Event} {event : Event}
    (hok : Settled past p event) : Inv (p.step event) := by
  have hok' : Settled past { p with acquired := none } event := by
    cases event <;> exact hok
  exact h.forget.move rfl hok' (move_step p event)

theorem Inv.run {count size usage : Nat} {events : List Event}
    (h : Guarded BufferPool.step Settled (new count size usage) events) :
    Inv (events.foldl BufferPool.step (new count size usage)) :=
  h.invariant (fun _ p => Inv p) (inv_new count size usage) fun _ _ _ hinv hok => hinv.step hok

theorem exists_too_many {p : BufferPool} (hhung : p.hung = false) (hnone : p.reallocating = none)
    (hrange : p.InRange) (howed : p.owed ≠ 0) (size : Nat) :
    ∃ more : List Event, (∀ event ∈ more, event.Pending) ∧
      p.mBufferCount < ((.reallocate size :: more).foldl step p).mSlots.length := by
  -- both parts of the call, and then the thread
  let q := (p.step (.reallocate size)).step .allocateBuffer
  have hq : q.mSlots = [] ∧ q.hung = false ∧ q.owed = p.owed + p.mBufferCount := by
    simp only [q, step, hhung, hnone, Bool.false_eq_true, if_false, Option.isSome,
      BufferPool.reallocate, BufferPool.allocateBuffer, owed, true_and]
    ring
  have hqrange : q.InRange := (inRange_step (inRange_step hrange _).1 _).1
  obtain ⟨more, hmore, hlen⟩ := exists_pending_run q hq.2.1 hqrange
  refine ⟨.allocateBuffer :: more, ?_, ?_⟩
  · intro event hmem
    rcases List.mem_cons.mp hmem with rfl | hmem
    · exact trivial
    · exact hmore event hmem
  · show p.mBufferCount < (more.foldl step q).mSlots.length
    rw [hlen, hq.1, hq.2.2, List.length_nil]
    omega

/-- The pool has the right shape at every moment of a run, whatever the thread does next, exactly when
every `reallocate` of the run finds no allocation under way. -/
theorem shaped_iff_settled (count size usage : Nat) (events : List Event) :
    (∀ past, past <+: events → ∀ more : List Event, (∀ event ∈ more, event.Pending) →
      Shaped ((past ++ more).foldl step (new count size usage))) ↔
      Guarded step Settled (new count size usage) events := by
  constructor
  · intro hall past event rest heq
    obtain ⟨hrange, hcount⟩ := inRange_run count size usage past
    cases event with
    | reallocate size' =>
        intro hhung hnone
        by_contra howed
        obtain ⟨more, hmore, hlt⟩ := exists_too_many hhung hnone hrange howed size'
        have hshaped := (hall (past ++ [.reallocate size']) ⟨rest, by simp [heq]⟩ more hmore).1
        rw [(inRange_run count size usage _).2, List.append_assoc, List.foldl_append] at hshaped
        rw [hcount] at hlt
        exact absurd hshaped (Nat.not_le.mpr hlt)
    | _ => trivial
  · intro hguarded past hpast more hmore
    apply Inv.shaped
    apply Inv.run
    apply (hguarded.of_prefix hpast).append
    intro event hmem past' p
    have hpending := hmore event hmem
    cases event with
    | reallocate size' => exact hpending.elim
    | _ => trivial

/-! ## Pools between calls -/

theorem Move.mUsage {p p' : BufferPool} {event : Event} (hmove : Move p event p') :
    p'.mUsage = p.mUsage := by
  cases hmove <;> rfl

@[simp] theorem step_mUsage (p : BufferPool) (event : Event) :
    (p.step event).mUsage = p.mUsage :=
  (move_step p event).mUsage

/-- A pool that no `reallocate` is at work on, and that was built under the condition. -/
structure Sound (p : BufferPool) : Prop where
  inv : Inv p
  whole : p.reallocating = none

theorem sound_new (count size usage : Nat) : Sound (new count size usage) :=
  ⟨inv_new count size usage, rfl⟩

theorem Move.keeps {p p' : BufferPool} {event : Event} (hmove : Move p event p')
    (hevent : ∀ size, event ≠ .reallocate size) (hwhole : p.reallocating = none) :
    p'.reallocating = none ∧ p'.mSize = p.mSize ∧ p'.owed ≤ p.owed := by
  cases hmove with
  | idle => exact ⟨hwhole, rfl, le_rfl⟩
  | reallocate size => exact absurd rfl (hevent size)
  | allocateBuffer hsome =>
      rw [hwhole] at hsome
      cases hsome
  | acquireBuffer | releaseSlot | releasePending | hang =>
      exact ⟨hwhole, rfl, le_of_eq rfl⟩
  | takeTasks hpending _ =>
      refine ⟨hwhole, rfl, ?_⟩
      simp only [owed, hpending, Nat.zero_add, Nat.add_zero, le_refl]
  | beginTask hpending hrunning =>
      have htasks := tasks_beginTask p hpending
      refine ⟨hwhole, rfl, ?_⟩
      simp only [owed, hrunning, Option.elim]
      omega
  | newIonBuffer hrunning hi =>
      refine ⟨hwhole, rfl, ?_⟩
      simp only [owed, hrunning, Option.elim, le_refl]
  | invalid hrunning =>
      refine ⟨hwhole, rfl, ?_⟩
      simp only [owed, hrunning, Option.elim]
      omega
  | pushSlot hrunning =>
      refine ⟨hwhole, rfl, ?_⟩
      simp only [owed, hrunning, Option.elim]
      omega
  | setAllocated hrunning hi =>
      refine ⟨hwhole, rfl, ?_⟩
      simp only [owed, Option.elim]
      omega

theorem Sound.step {p : BufferPool} (h : Sound p) {event : Event}
    (hevent : ∀ size, event ≠ .reallocate size) :
    Sound (p.step event) ∧ (p.step event).mSize = p.mSize ∧ (p.step event).owed ≤ p.owed := by
  have hok : Settled [] p event := by
    cases event with
    | reallocate size => exact absurd rfl (hevent size)
    | _ => trivial
  obtain ⟨hwhole, hsize, howed⟩ := (move_step p event).keeps hevent h.whole
  exact ⟨⟨h.inv.step hok, hwhole⟩, hsize, howed⟩

theorem Sound.run {p : BufferPool} (h : Sound p) {events : List Event}
    (hevents : ∀ event ∈ events, ∀ size, event ≠ .reallocate size) :
    Sound (events.foldl BufferPool.step p) ∧ (events.foldl BufferPool.step p).mSize = p.mSize ∧
      (events.foldl BufferPool.step p).owed ≤ p.owed := by
  induction events generalizing p with
  | nil => exact ⟨h, rfl, le_rfl⟩
  | cons event events ih =>
      obtain ⟨hp, hsize, howed⟩ := h.step (hevents event List.mem_cons_self)
      obtain ⟨hp', hsize', howed'⟩ := ih hp fun e he => hevents e (List.mem_cons_of_mem event he)
      exact ⟨hp', hsize'.trans hsize, howed'.trans howed⟩

theorem Sound.reallocate {p : BufferPool} (h : Sound p) (howed : p.owed = 0) (size : Nat) :
    Sound ((p.step (.reallocate size)).step .allocateBuffer) ∧
      (p.hung = false → ((p.step (.reallocate size)).step .allocateBuffer).mSize = size) ∧
      ((p.step (.reallocate size)).step .allocateBuffer).hung = p.hung := by
  have hok : Settled [] p (.reallocate size) := fun _ _ => howed
  have hok' : Settled [] (p.step (.reallocate size)) .allocateBuffer := trivial
  have hsecond := (h.inv.step hok).step hok'
  have hwhole := h.whole
  refine ⟨⟨hsecond, ?_⟩, ?_, ?_⟩
  · cases hhung : p.hung <;>
      simp [BufferPool.step, hhung, hwhole, BufferPool.reallocate, BufferPool.allocateBuffer]
  · intro hhung
    simp [BufferPool.step, hhung, hwhole, BufferPool.reallocate, BufferPool.allocateBuffer]
  · cases hhung : p.hung <;>
      simp [BufferPool.step, hhung, hwhole, BufferPool.reallocate, BufferPool.allocateBuffer]

/-! ## A late `reallocate` -/

/-- The geometry changes while the thread holds the first buffer of the old size. -/
def lateReallocate : List Event :=
  [.takeTasks, .beginTask, .newIonBuffer true, .reallocate 8192, .allocateBuffer, .pushSlot,
    .newIonBuffer true, .pushSlot, .newIonBuffer true, .pushSlot, .newIonBuffer true, .pushSlot,
    .setAllocated, .acquireBuffer]

def lateReallocateOn : List Event :=
  lateReallocate ++ [.takeTasks, .beginTask, .newIonBuffer true, .pushSlot]

/-- The old buffer is acquired although the new size is larger, and the second task makes the pool
larger than its count. -/
theorem lateReallocate_not_shaped :
    ((lateReallocate.foldl step (new 4 4096 0)).acquired.map IonBuffer.size = some 4096 ∧
      (lateReallocate.foldl step (new 4 4096 0)).bufferSize = 8192 ∧
      ¬ Shaped (lateReallocate.foldl step (new 4 4096 0))) ∧
    ¬ Shaped (lateReallocateOn.foldl step (new 4 4096 0)) := by
  refine ⟨⟨by decide, by decide, ?_⟩, ?_⟩
  · intro h
    exact absurd (h.2 { handle := 0, size := 4096, usage := 0 } (by decide)) (by decide)
  · intro h
    exact absurd h.1 (by decide)

end BufferPool

end AwHal.Hwc
