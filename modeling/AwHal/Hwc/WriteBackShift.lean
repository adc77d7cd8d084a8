import AwHal.Hwc.WriteBackPool

/-!
# Shifting the fences of the queued buffers

A display that runs some frames behind acquires the oldest queued buffer with the acquire fence of a later
one.
-/

namespace AwHal.Hwc.WriteBackBufferPool

open AwHal.Lib WriteBackBuffer

/-! ## Pools that are not ready -/

/-- Nothing is queued in a pool whose buffers are still being allocated. -/
def Ready (p : WriteBackBufferPool) : Prop :=
  p.mAllocated = false → ∀ b ∈ p.mBuffers, b.isQueued = false

def discard (p : WriteBackBufferPool) : WriteBackBufferPool :=
  { p with mBuffers := [], mAllocated := false }

/-- A turn of the loop of `onBufferAllocated`, of which `b` is the new buffer. -/
def pushBuffer (p : WriteBackBufferPool) (b : WriteBackBuffer) (i : Nat) : WriteBackBufferPool :=
  { p with
    mBuffers := (p.mBuffers ++ [b]).modify i fun b =>
      { b with mToken := i, mFence := -1, mState := .FREE } }

def setAllocated (p : WriteBackBufferPool) : WriteBackBufferPool := { p with mAllocated := true }

def setFence (p : WriteBackBufferPool) (i : Nat) (fence : Int) : WriteBackBufferPool :=
  if !p.mAllocated then p
  else { p with mBuffers := p.mBuffers.modify i fun b => { b with mFence := fence } }

/-- The pools that calls and the allocating thread lead to.  The thread fills an empty pool, one buffer
after the other. -/
inductive Reachable : WriteBackBufferPool → Prop
  | new : Reachable {}
  | allocateBuffer {p : WriteBackBufferPool} (h : Reachable p) (mBufferCount : Nat) :
      Reachable (p.allocateBuffer mBufferCount)
  | discard {p : WriteBackBufferPool} (h : Reachable p) : Reachable p.discard
  | pushBuffer {p : WriteBackBufferPool} (h : Reachable p) (b : WriteBackBuffer) (i : Nat)
      (hlast : p.mAllocated = false → i = p.mBuffers.length) : Reachable (p.pushBuffer b i)
  | setAllocated {p : WriteBackBufferPool} (h : Reachable p) : Reachable p.setAllocated
  | dequeueBuffer {p : WriteBackBufferPool} (h : Reachable p) : Reachable p.dequeueBuffer.2
  | queueBuffer {p : WriteBackBufferPool} (h : Reachable p) (i : Nat) (fence : Int) :
      Reachable (p.queueBuffer i fence)
  | acquireBuffer {p p' : WriteBackBufferPool} (h : Reachable p) {deep : Int} {i : Option Nat}
      (hacquire : p.acquireBuffer deep = .ok (i, p')) : Reachable p'
  | releaseBuffer {p : WriteBackBufferPool} (h : Reachable p) (i : Nat) (clearFence : Bool) :
      Reachable (p.releaseBuffer i clearFence)
  | setFence {p : WriteBackBufferPool} (h : Reachable p) (i : Nat) (fence : Int) :
      Reachable (p.setFence i fence)

variable {p p' : WriteBackBufferPool}

theorem Ready.of_allocated (h : p.mAllocated = true) : Ready p := by
  intro hnot
  rw [h] at hnot
  cases hnot

theorem Ready.of_call (h : Ready p) (hsame : p.mAllocated = false → p' = p)
    (halloc : p.mAllocated = true → p'.mAllocated = true) : Ready p' := by
  cases hallocated : p.mAllocated with
  | false =>
      rw [hsame hallocated]
      exact h
  | true => exact Ready.of_allocated (halloc hallocated)

theorem Ready.pushBuffer (h : Ready p) (b : WriteBackBuffer) {i : Nat}
    (hlast : p.mAllocated = false → i = p.mBuffers.length) : Ready (p.pushBuffer b i) := by
  intro hnot c hc
  obtain ⟨j, hj⟩ := List.mem_iff_getElem?.mp hc
  rw [WriteBackBufferPool.pushBuffer, List.getElem?_modify, hlast hnot] at hj
  obtain ⟨d, hd, heq⟩ := Option.map_eq_some_iff.mp hj
  by_cases hji : p.mBuffers.length = j
  · rw [if_pos hji] at heq
    rw [← heq]
    rfl
  · rw [if_neg hji] at heq
    have hlt : j < p.mBuffers.length := by
      have hj := (List.getElem?_eq_some_iff.mp hd).1
      rw [List.length_append, List.length_singleton] at hj
      omega
    rw [List.getElem?_append_left hlt] at hd
    exact heq ▸ h hnot d (List.mem_of_getElem? hd)

theorem Reachable.ready (h : Reachable p) : Ready p := by
  induction h with
  | new => exact fun _ _ hmem => absurd hmem List.not_mem_nil
  | allocateBuffer => exact Ready.of_allocated rfl
  | discard => exact fun _ _ hmem => absurd hmem List.not_mem_nil
  | pushBuffer _ b i hlast ih => exact ih.pushBuffer b hlast
  | setAllocated => exact Ready.of_allocated rfl
  | dequeueBuffer _ ih =>
      apply ih.of_call
      · intro hnot
        simp [WriteBackBufferPool.dequeueBuffer, hnot]
      · intro hallocated
        rcases dequeueBuffer_cases hallocated with ⟨-, heq⟩ | ⟨i, p', heq, hspec⟩
        · rw [heq]
          exact hallocated
        · rw [heq]
          exact hspec.allocated.trans hallocated
  | queueBuffer _ i fence ih =>
      apply ih.of_call
      · intro hnot
        simp [WriteBackBufferPool.queueBuffer, hnot]
      · exact (mAllocated_queueBuffer ..).trans
  | acquireBuffer _ hacquire ih =>
      apply ih.of_call
      · intro hnot
        simp only [WriteBackBufferPool.acquireBuffer, hnot] at hacquire
        cases hacquire
        rfl
      · exact (acquireBuffer_keeps hacquire).2.trans
  | releaseBuffer _ i clearFence ih =>
      apply ih.of_call
      · intro hnot
        simp [WriteBackBufferPool.releaseBuffer, hnot]
      · exact (mAllocated_releaseBuffer ..).trans
  | setFence _ i fence ih =>
      apply ih.of_call
      · intro hnot
        simp [WriteBackBufferPool.setFence, hnot]
      · intro hallocated
        simp [WriteBackBufferPool.setFence, hallocated]

/-! ## The shift -/

def queueRank (p : WriteBackBufferPool) (token : Nat) : Nat :=
  rankBelow isQueued mToken p.mBuffers token

/-- The oldest queued buffer is acquired, with the acquire fence of the one that `deep` others are in
front of. -/
structure Shifted (p : WriteBackBufferPool) (deep : Int) (i : Nat) (p' : WriteBackBufferPool) :
    Prop where
  allocated : p'.mAllocated = p.mAllocated
  oldest : ∃ b, p.mBuffers[i]? = some b ∧ b.mState = .QUEUED ∧
    (∀ (j : Nat) c, p.mBuffers[j]? = some c → c.mState = .QUEUED → j ≠ i → b.mToken < c.mToken) ∧
    ∃ (j : Nat) (c : WriteBackBuffer), p.mBuffers[j]? = some c ∧ c.mState = .QUEUED ∧
      (p.queueRank c.mToken : Int) = deep ∧
      p'.mBuffers = p.mBuffers.set i { b with mState := .ACQUIRED, acquireFence := c.acquireFence }

theorem isQueuedAfter_eq (token : Nat) : isQueuedAfter token = beyond isQueued mToken token := rfl

theorem tokens_inj (hnodup : p.tokens.Nodup) {i j : Nat} {b c : WriteBackBuffer}
    (hb : p.mBuffers[i]? = some b) (hc : p.mBuffers[j]? = some c) (heq : b.mToken = c.mToken) :
    i = j := by
  have hi : i < p.tokens.length := by
    rw [length_tokens]
    exact (List.getElem?_eq_some_iff.mp hb).1
  apply (List.getElem?_inj hi hnodup).mp
  rw [tokens_get hb, tokens_get hc, heq]

theorem tokenAt_eq {i : Nat} {b : WriteBackBuffer} (h : p.mBuffers[i]? = some b) :
    p.tokenAt i = b.mToken := by
  rw [tokenAt, h]

/-- `first` moves on by `deep` ranks, as long as there are that many queued buffers behind it. -/
theorem advance_ok (hnodup : p.tokens.Nodup) (deep : Nat) {first : Nat} {b : WriteBackBuffer}
    (hget : p.mBuffers[first]? = some b) (hqueued : b.isQueued = true)
    (hmore : p.queueRank b.mToken + deep < p.queuedCnt) :
    ∃ j c, p.advance deep (some first) = .ok (some j) ∧ p.mBuffers[j]? = some c ∧
      c.isQueued = true ∧ p.queueRank c.mToken = p.queueRank b.mToken + deep := by
  induction deep generalizing first b with
  | zero => exact ⟨first, b, rfl, hget, hqueued, rfl⟩
  | succ deep ih =>
      obtain ⟨next, c, hfind, hnext, hc, hrank⟩ := findLeast_beyond hnodup
        (List.mem_of_getElem? hget) hqueued (show p.queueRank b.mToken + 1 < p.queuedCnt by omega)
      have hrank' : p.queueRank c.mToken = p.queueRank b.mToken + 1 := hrank
      obtain ⟨j, d, hadvance, hj, hd, hrankd⟩ := ih hnext hc (by omega)
      refine ⟨j, d, ?_, hj, hd, by omega⟩
      rw [advance, tokenAt_eq hget, isQueuedAfter_eq, hfind]
      exact hadvance

theorem queuedCnt_eq_zero (h : ∀ b ∈ p.mBuffers, b.isQueued = false) : p.queuedCnt = 0 := by
  rw [queuedCnt, List.countP_eq_zero]
  intro b hb hqueued
  rw [h b hb] at hqueued
  cases hqueued

/-- What is left of `acquireBuffer` when enough buffers are queued. -/
theorem acquireBuffer_shift {lastQueued : Nat} {deep : Int} (halloc : p.mAllocated = true)
    (hfind : findLeast isQueued mToken p.mBuffers = some lastQueued) (hdeep : 0 < deep)
    (hmore : deep < p.queuedCnt) {j : Nat}
    (hadvance : p.advance deep.toNat (some lastQueued) = .ok (some j)) :
    p.acquireBuffer deep =
      .ok (some lastQueued, (p.copyFence lastQueued (some j)).setState lastQueued .ACQUIRED) := by
  have hsucc : deep.toNat = (deep - 1).toNat + 1 := by omega
  rw [hsucc, advance] at hadvance
  have hnot : ¬ (p.queuedCnt : Int) ≤ deep := by omega
  rw [acquireBuffer, halloc, hfind]
  simp only [Bool.not_true, Bool.false_eq_true, if_false, hdeep, hnot, and_false, if_true, hadvance]

theorem mBuffers_shift {i j : Nat} {b c : WriteBackBuffer} (hb : p.mBuffers[i]? = some b)
    (hc : p.mBuffers[j]? = some c) :
    ((p.copyFence i (some j)).setState i .ACQUIRED).mBuffers =
      p.mBuffers.set i { b with mState := .ACQUIRED, acquireFence := c.acquireFence } := by
  have hcopy : (p.copyFence i (some j)).mBuffers =
      p.mBuffers.modify i fun d => { d with acquireFence := c.acquireFence } := by
    rw [copyFence, Option.bind_some, hc]
  rw [setState, hcopy, List.modify_modify_eq]
  apply List.ext_getElem?
  intro k
  rw [List.getElem?_modify, List.getElem?_set']
  by_cases hik : i = k
  · subst hik
    rw [hb]
    simp
  · simp [hik]

theorem shifted_copyFence (hnodup : p.tokens.Nodup) {i j : Nat} {b c : WriteBackBuffer} {deep : Int}
    (hleast : LeastAt isQueued mToken p.mBuffers i b) (hc : p.mBuffers[j]? = some c)
    (hqueued : c.isQueued = true) (hrank : (p.queueRank c.mToken : Int) = deep) :
    p.Shifted deep i ((p.copyFence i (some j)).setState i .ACQUIRED) := by
  refine ⟨mAllocated_copyFence .., b, hleast.get, ?_, ?_, j, c, hc, ?_, hrank,
    mBuffers_shift hleast.get hc⟩
  · simpa [isQueued] using hleast.eligible
  · intro k d hd hdqueued hne
    have hle := hleast.least k d hd (by simp [isQueued, hdqueued])
    apply Nat.lt_of_le_of_ne hle
    intro heq
    exact hne (tokens_inj hnodup hd hleast.get heq.symm)
  · simpa [isQueued] using hqueued

/-- A deep `acquireBuffer` finds a buffer exactly when more than `deep` are queued, and it never looks at
a buffer before the first one. -/
theorem acquireBuffer_deep (hnodup : p.tokens.Nodup) (hready : p.Ready) {deep : Int}
    (hdeep : 0 < deep) :
    ∃ found p', p.acquireBuffer deep = .ok (found, p') ∧
      (found.isSome = true ↔ deep < p.queuedCnt) ∧ (found = none → p' = p) ∧
      ∀ i, found = some i → p.Shifted deep i p' := by
  have hfew : p.acquireBuffer deep = .ok (none, p) → ¬ deep < p.queuedCnt →
      ∃ found p', p.acquireBuffer deep = .ok (found, p') ∧
        (found.isSome = true ↔ deep < p.queuedCnt) ∧ (found = none → p' = p) ∧
        ∀ i, found = some i → p.Shifted deep i p' := by
    intro hnone hnot
    refine ⟨none, p, hnone, ?_, fun _ => rfl, ?_⟩
    · simpa using hnot
    · intro i hi
      cases hi
  cases halloc : p.mAllocated with
  | false =>
      apply hfew
      · rw [acquireBuffer, halloc]
        rfl
      · rw [queuedCnt_eq_zero (hready halloc)]
        omega
  | true =>
      cases hfind : findLeast isQueued mToken p.mBuffers with
      | none =>
          apply hfew
          · rw [acquireBuffer, halloc, hfind]
            rfl
          · rw [queuedCnt_eq_zero (findLeast_eq_none_iff.mp hfind)]
            omega
      | some lastQueued =>
          by_cases hmore : deep < p.queuedCnt
          · obtain ⟨b, hleast⟩ := findLeast_leastAt hfind
            have hrank : p.queueRank b.mToken = 0 := hleast.rankBelow_eq_zero
            obtain ⟨j, c, hadvance, hc, hqueued, hrankc⟩ :=
              advance_ok hnodup deep.toNat hleast.get hleast.eligible (by omega)
            refine ⟨_, _, acquireBuffer_shift halloc hfind hdeep hmore hadvance, ?_, ?_, ?_⟩
            · simp [hmore]
            · intro hnone
              cases hnone
            · intro i hi
              cases hi
              exact shifted_copyFence hnodup hleast hc hqueued (by omega)
          · apply hfew
            · rw [acquireBuffer, halloc, hfind]
              have hle : 0 < deep ∧ (p.queuedCnt : Int) ≤ deep := by omega
              simp only [Bool.not_true, Bool.false_eq_true, if_false, hle, and_self, if_true]
            · exact hmore

def threeQueued : WriteBackBufferPool where
  mBuffers := [{ mToken := 6, mState := .QUEUED, acquireFence := 13 },
    { mToken := 4, mState := .QUEUED, acquireFence := 11 }, { mToken := 3 },
    { mToken := 5, mState := .QUEUED, acquireFence := 12 }]
  mAllocated := true

theorem acquireBuffer_threeQueued : ∃ found p', threeQueued.acquireBuffer 2 = .ok (found, p') ∧
    (found.isSome = true ↔ 2 < (threeQueued.queuedCnt : Int)) ∧ (found = none → p' = threeQueued) ∧
    ∀ i, found = some i → threeQueued.Shifted 2 i p' :=
  acquireBuffer_deep (by decide) (Ready.of_allocated rfl) (by decide)

end AwHal.Hwc.WriteBackBufferPool
