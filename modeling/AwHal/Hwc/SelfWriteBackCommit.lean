import AwHal.Hwc.WriteBackPool

/-!
# Commits of the self write-back and their buffers

`SelfWriteBackDisp2::performFrameCommit` takes a buffer from `mBufPool` before it looks for a layer to
render into it.
-/

namespace AwHal.Hwc

open AwHal.Lib

namespace WriteBackBufferPool

open WriteBackBuffer

/-- How many buffers `dequeueBuffer` can still return. -/
def dequeuable (p : WriteBackBufferPool) : Nat :=
  if p.mAllocated then p.states.countP fun s => s == .FREE || s == .QUEUED else 0

variable {p p' : WriteBackBufferPool}

theorem nextBuffer_eq_none_iff :
    p.nextBuffer = none ↔ ∀ b ∈ p.mBuffers, b.isFree = false ∧ b.isQueued = false := by
  rw [nextBuffer]
  cases hfree : findLeast isFree mToken p.mBuffers with
  | none =>
      have hnone := findLeast_eq_none_iff.mp hfree
      show findLeast isQueued mToken p.mBuffers = none ↔ _
      rw [findLeast_eq_none_iff]
      exact ⟨fun h b hb => ⟨hnone b hb, h b hb⟩, fun h b hb => (h b hb).2⟩
  | some i =>
      obtain ⟨b, hleast⟩ := findLeast_leastAt hfree
      constructor
      · intro h
        cases h
      · intro h
        have hfalse := (h b (List.mem_of_getElem? hleast.get)).1
        rw [hleast.eligible] at hfalse
        cases hfalse

theorem dequeueBuffer_of_none (h : p.dequeuable = 0) : p.dequeueBuffer = (none, p) := by
  cases hallocated : p.mAllocated with
  | false => rw [dequeueBuffer, hallocated]; rfl
  | true =>
      rcases dequeueBuffer_cases hallocated with ⟨-, heq⟩ | ⟨i, p', -, hspec⟩
      · exact heq
      · obtain ⟨b, hget, hstate⟩ := nextBuffer_eq_some hspec.next
        rw [dequeuable, hallocated, if_pos rfl, List.countP_eq_zero] at h
        have hmem : b.mState ∈ p.states := List.mem_map_of_mem (List.mem_of_getElem? hget)
        have hnot := h b.mState hmem
        rcases hstate with hstate | hstate <;> rw [hstate] at hnot <;> exact absurd rfl hnot

theorem dequeueBuffer_of_pos (h : 0 < p.dequeuable) :
    ∃ i p', p.dequeueBuffer = (some i, p') ∧ p.Dequeued i p' := by
  cases hallocated : p.mAllocated with
  | false =>
      rw [dequeuable, hallocated] at h
      cases h
  | true =>
      rcases dequeueBuffer_cases hallocated with ⟨hnone, -⟩ | hsome
      · rw [dequeuable, hallocated, if_pos rfl, List.countP_pos_iff] at h
        obtain ⟨s, hs, hstate⟩ := h
        obtain ⟨b, hb, rfl⟩ := List.mem_map.mp hs
        have hboth := nextBuffer_eq_none_iff.mp hnone b hb
        rw [isFree, isQueued] at hboth
        rw [hboth.1, hboth.2] at hstate
        cases hstate
      · exact hsome

theorem Dequeued.dequeuable {i : Nat} (h : p.Dequeued i p') (hallocated : p.mAllocated = true) :
    p'.dequeuable + 1 = p.dequeuable := by
  obtain ⟨b, hget, hstate⟩ := nextBuffer_eq_some h.next
  obtain ⟨hlt, hb⟩ := List.getElem?_eq_some_iff.mp hget
  have hi : i < p.states.length := by
    rw [WriteBackBufferPool.states, List.length_map]
    exact hlt
  have hself : p.states[i] = b.mState := by
    simp only [WriteBackBufferPool.states, List.getElem_map, hb]
  have hcounts : (p.states[i] == .FREE || p.states[i] == .QUEUED) = true := by
    rw [hself]
    rcases hstate with hstate | hstate <;> rw [hstate] <;> rfl
  have hpos : 0 < p.states.countP fun s => s == .FREE || s == .QUEUED :=
    List.countP_pos_iff.mpr ⟨_, List.getElem_mem hi, hcounts⟩
  rw [WriteBackBufferPool.dequeuable, h.allocated, hallocated, h.states, if_pos rfl,
    List.countP_set hi, if_pos hcounts, WriteBackBufferPool.dequeuable, hallocated, if_pos rfl]
  show _ - 1 + 0 + 1 = _
  omega

/-- What a call that has failed must leave of a pool. -/
structure Restored (p p' : WriteBackBufferPool) : Prop where
  states : p'.states = p.states
  tokens : p'.tokens = p.tokens
  dequeuable : p'.dequeuable = p.dequeuable

theorem Restored.refl (p : WriteBackBufferPool) : Restored p p := ⟨rfl, rfl, rfl⟩

end WriteBackBufferPool

/-! ## The commit -/

/-- `SelfWriteBackDisp2` with `mBufPool`.  The layers of `mBuffers` are pointers. -/
structure PooledWriteBack (L : Type) extends SelfWriteBackDisp2 (Option L) where
  mBufPool : WriteBackBufferPool

namespace PooledWriteBack

variable {L : Type}

def hasFront (w : PooledWriteBack L) : Bool :=
  match w.mBuffers with
  | some _ :: _ => true
  | _ => false

/-- The number of the display, the sync number and the configuration go to the hardware only. -/
def performFrameCommit (w : PooledWriteBack L) (timelineCreated : Bool) : PooledWriteBack L × Int :=
  if w.mSyncFd = none then (w, -1)
  else match w.mBufPool.dequeueBuffer with
    | (none, mBufPool) => ({ w with mBufPool }, -1)
    | (some wbBuf, mBufPool) =>
        if !w.hasFront then ({ w with mBufPool }, -1)
        else
          let (disp, ret) := w.toSelfWriteBackDisp2.performFrameCommit true timelineCreated
          ({ toSelfWriteBackDisp2 := disp, mBufPool := mBufPool.releaseBuffer wbBuf true }, ret)

variable (w : PooledWriteBack L) (timelineCreated : Bool)

theorem performFrameCommit_of_sync (hsync : w.mSyncFd = none) :
    w.performFrameCommit timelineCreated = (w, -1) := by
  rw [performFrameCommit, if_pos hsync]

theorem performFrameCommit_of_empty (hpool : w.mBufPool.dequeuable = 0) :
    w.performFrameCommit timelineCreated = (w, -1) := by
  rw [performFrameCommit, WriteBackBufferPool.dequeueBuffer_of_none hpool]
  split <;> rfl

theorem performFrameCommit_of_noFront (hsync : w.mSyncFd ≠ none) (hfront : w.hasFront = false)
    {i : Nat} {mBufPool : WriteBackBufferPool}
    (hdequeue : w.mBufPool.dequeueBuffer = (some i, mBufPool)) :
    w.performFrameCommit timelineCreated = ({ w with mBufPool }, -1) := by
  rw [performFrameCommit, if_neg hsync, hdequeue, hfront]
  rfl

theorem performFrameCommit_of_front (hsync : w.mSyncFd ≠ none) (hfront : w.hasFront = true)
    {i : Nat} {mBufPool : WriteBackBufferPool}
    (hdequeue : w.mBufPool.dequeueBuffer = (some i, mBufPool)) :
    w.performFrameCommit timelineCreated =
      ({ toSelfWriteBackDisp2 := (w.toSelfWriteBackDisp2.performFrameCommit true timelineCreated).1
         mBufPool := mBufPool.releaseBuffer i true },
        (w.toSelfWriteBackDisp2.performFrameCommit true timelineCreated).2) := by
  rw [performFrameCommit, if_neg hsync, hdequeue, hfront]
  rfl

theorem mBuffers_pos (hfront : w.hasFront = true) : 0 < w.mBuffers.length := by
  unfold hasFront at hfront
  split at hfront
  · rename_i heq
    rw [heq]
    exact Nat.succ_pos _
  · cases hfront

theorem disp_performFrameCommit_of_front (hsync : w.mSyncFd ≠ none) (hfront : w.hasFront = true) :
    (w.toSelfWriteBackDisp2.performFrameCommit true timelineCreated).2 = 0 := by
  have hpos := w.mBuffers_pos hfront
  have hnot : ¬ w.mBuffers.length ≤ 0 := by omega
  simp only [SelfWriteBackDisp2.performFrameCommit, hsync, hnot, Bool.true_eq_false, or_false,
    if_false]

/-- A commit that finds no front layer keeps the buffer. -/
theorem performFrameCommit_leaks (hsync : w.mSyncFd ≠ none) (hpool : 0 < w.mBufPool.dequeuable)
    (hfront : w.hasFront = false) :
    (w.performFrameCommit timelineCreated).2 = -1 ∧
      (w.performFrameCommit timelineCreated).1.mBufPool.dequeuable + 1 = w.mBufPool.dequeuable := by
  obtain ⟨i, mBufPool, hdequeue, hspec⟩ := WriteBackBufferPool.dequeueBuffer_of_pos hpool
  rw [w.performFrameCommit_of_noFront timelineCreated hsync hfront hdequeue]
  refine ⟨rfl, hspec.dequeuable ?_⟩
  by_contra hnot
  rw [WriteBackBufferPool.dequeuable, if_neg hnot] at hpool
  exact Nat.lt_irrefl 0 hpool

/-- A failed commit leaves the pool as it was, unless it finds a buffer and no layer. -/
theorem performFrameCommit_restored_iff :
    ((w.performFrameCommit timelineCreated).2 = -1 →
        w.mBufPool.Restored (w.performFrameCommit timelineCreated).1.mBufPool) ↔
      w.mSyncFd = none ∨ w.mBufPool.dequeuable = 0 ∨ w.hasFront = true := by
  by_cases hsync : w.mSyncFd = none
  · rw [w.performFrameCommit_of_sync timelineCreated hsync]
    exact iff_of_true (fun _ => .refl _) (.inl hsync)
  rcases Nat.eq_zero_or_pos w.mBufPool.dequeuable with hpool | hpool
  · rw [w.performFrameCommit_of_empty timelineCreated hpool]
    exact iff_of_true (fun _ => .refl _) (.inr (.inl hpool))
  cases hfront : w.hasFront with
  | false =>
      obtain ⟨hret, hcount⟩ := w.performFrameCommit_leaks timelineCreated hsync hpool hfront
      apply iff_of_false
      · intro h
        have hsame := (h hret).dequeuable
        omega
      · simp [hsync, Nat.ne_of_gt hpool]
  | true =>
      obtain ⟨i, mBufPool, hdequeue, -⟩ := WriteBackBufferPool.dequeueBuffer_of_pos hpool
      apply iff_of_true
      · rw [w.performFrameCommit_of_front timelineCreated hsync hfront hdequeue,
          w.disp_performFrameCommit_of_front timelineCreated hsync hfront]
        intro hret
        cases hret
      · exact .inr (.inr rfl)

def idle : PooledWriteBack Nat where
  toSelfWriteBackDisp2 := SelfWriteBackDisp2.new true
  mBufPool := ({} : WriteBackBufferPool).allocateBuffer (BUFSZ / 3)

theorem not_restored_idle : ¬ ((idle.performFrameCommit true).2 = -1 →
    idle.mBufPool.Restored (idle.performFrameCommit true).1.mBufPool) := by
  intro h
  have hcount := (h (by decide)).dequeuable
  revert hcount
  decide

end PooledWriteBack

end AwHal.Hwc
