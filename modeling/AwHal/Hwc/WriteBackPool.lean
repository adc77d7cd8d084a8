import AwHal.Lib.CNumber
import AwHal.Lib.LeastKey
import AwHal.Hwc.SelfWriteBack

/-!
# The pool of write-back buffers

`WriteBackBufferPool` (`WriteBackBufferPool.cpp`): the composer dequeues a buffer, has it filled and
queues it; the display acquires queued buffers and releases them.  Each buffer has a token that is set
when it is dequeued, and the tokens tell which buffer comes first.
-/

namespace AwHal.Hwc

open AwHal.Lib

/-! ## Data -/

inductive WriteBackState where
  | FREE
  | DEQUEUED
  | QUEUED
  | ACQUIRED
  | RELEASED
deriving DecidableEq, Repr

structure WriteBackBuffer where
  mToken : Nat
  mFence : Int := -1
  mState : WriteBackState := .FREE
  /-- The acquire fence of its layer. -/
  acquireFence : Int := -1
deriving DecidableEq, Repr

structure WriteBackBufferPool where
  mBuffers : List WriteBackBuffer := []
  mAllocated : Bool := false
deriving DecidableEq, Repr

inductive WriteBackFault where
  /-- `mBuffers[-1]`. -/
  | negativeIndex
deriving DecidableEq, Repr

namespace WriteBackBuffer

def isFree (b : WriteBackBuffer) : Bool := b.mState == .FREE

def isQueued (b : WriteBackBuffer) : Bool := b.mState == .QUEUED

def isQueuedAfter (token : Nat) (b : WriteBackBuffer) : Bool := b.isQueued && decide (token < b.mToken)

end WriteBackBuffer

namespace WriteBackBufferPool

open WriteBackBuffer

/-! ## Calls -/

def allocateBuffer (p : WriteBackBufferPool) (mBufferCount : Nat) : WriteBackBufferPool :=
  { p with
    mBuffers := (List.range mBufferCount).map fun i => { mToken := i }
    mAllocated := true }

def sizeSub (a b : Nat) : Nat := toSize ((a : Int) - b)

def tokenAt (p : WriteBackBufferPool) (i : Nat) : Nat :=
  match p.mBuffers[i]? with
  | some b => b.mToken
  | none => 0

def queuedCnt (p : WriteBackBufferPool) : Nat := p.mBuffers.countP isQueued

/-- `setFence(-1)` of the buffer at an index, if there is one; an open fence is closed before. -/
def clearFence (p : WriteBackBufferPool) : Option Nat → WriteBackBufferPool
  | none => p
  | some i => { p with mBuffers := p.mBuffers.modify i fun b => { b with mFence := -1 } }

def firstToken (p : WriteBackBufferPool) : Nat :=
  p.mBuffers.foldl (fun token b => if token < b.mToken then b.mToken else token) 0

/-- The buffer that `dequeueBuffer` picks, with the fences cleared on the way. -/
def pickBuffer (p : WriteBackBufferPool) : Option Nat × WriteBackBufferPool :=
  match findLeast isFree mToken p.mBuffers with
  | none =>
      -- a queued buffer will do when there is no free one
      match findLeast isQueued mToken p.mBuffers with
      | none => (none, p)
      | some lastFree =>
          let recycle := findLeast (isQueuedAfter (p.tokenAt lastFree)) mToken p.mBuffers
          (some lastFree, (p.clearFence (some lastFree)).clearFence recycle)
  | some lastFree =>
      if 0 < lastFree ∧ sizeSub p.mBuffers.length 2 < p.queuedCnt then
        (some lastFree, p.clearFence (findLeast isQueued mToken p.mBuffers))
      else (some lastFree, p)

def mark (p : WriteBackBufferPool) (lastFree token : Nat) : WriteBackBufferPool :=
  { p with
    mBuffers := p.mBuffers.modify lastFree fun b =>
      { b with mToken := token % 2 ^ 32, mState := .DEQUEUED } }

def rebaseAt (size : Nat) : Nat := sizeSub UINT_MAX (20 * size)

def rebaseToken (size token : Nat) : Nat :=
  if token < rebaseAt size then token else token - rebaseAt size

/-- The tokens are about to overflow. -/
def Rebases (size firstToken : Nat) : Prop := sizeSub UINT_MAX (10 * size) < firstToken

instance (size firstToken : Nat) : Decidable (Rebases size firstToken) :=
  inferInstanceAs (Decidable (_ < _))

def protectTokens (p : WriteBackBufferPool) (firstToken : Nat) : WriteBackBufferPool :=
  if Rebases p.mBuffers.length firstToken then
    { p with
      mBuffers := p.mBuffers.map fun b =>
        { b with mToken := rebaseToken p.mBuffers.length b.mToken } }
  else p

def dequeueBuffer (p : WriteBackBufferPool) : Option Nat × WriteBackBufferPool :=
  if !p.mAllocated then (none, p)
  else match p.pickBuffer with
    | (none, p) => (none, p)
    | (some lastFree, q) =>
        (some lastFree, (q.mark lastFree (p.firstToken + 1)).protectTokens p.firstToken)

def queueBuffer (p : WriteBackBufferPool) (i : Nat) (fence : Int) : WriteBackBufferPool :=
  if !p.mAllocated then p
  else
    { p with
      mBuffers := p.mBuffers.modify i fun b =>
        { b with
          acquireFence := if 0 < fence then fence else b.acquireFence
          mState := .QUEUED } }

/-- The loop of `acquireBuffer` that moves `first` on; the scan for `sec` looks at `mBuffers[first]` as
soon as it meets a queued buffer. -/
def advance (p : WriteBackBufferPool) : Nat → Option Nat → Except WriteBackFault (Option Nat)
  | 0, first => .ok first
  | deep + 1, first =>
      match first with
      | some first => advance p deep (findLeast (isQueuedAfter (p.tokenAt first)) mToken p.mBuffers)
      | none => if p.mBuffers.any isQueued then .error .negativeIndex else advance p deep none

/-- `setAcquireFence` with a duplicate of the fence of another layer. -/
def copyFence (p : WriteBackBufferPool) (i : Nat) (first : Option Nat) : WriteBackBufferPool :=
  match first.bind (p.mBuffers[·]?) with
  | some b =>
      { p with
        mBuffers := p.mBuffers.modify i fun c => { c with acquireFence := b.acquireFence } }
  | none => p

def setState (p : WriteBackBufferPool) (i : Nat) (s : WriteBackState) : WriteBackBufferPool :=
  { p with mBuffers := p.mBuffers.modify i fun b => { b with mState := s } }

def acquireBuffer (p : WriteBackBufferPool) (deep : Int) :
    Except WriteBackFault (Option Nat × WriteBackBufferPool) :=
  if !p.mAllocated then .ok (none, p)
  else match findLeast isQueued mToken p.mBuffers with
    | none => .ok (none, p)
    | some lastQueued =>
        if 0 < deep ∧ p.queuedCnt ≤ deep then .ok (none, p)
        else if 0 < deep then
          let first := findLeast (isQueuedAfter (p.tokenAt lastQueued)) mToken p.mBuffers
          match p.advance (deep - 1).toNat first with
          | .error fault => .error fault
          | .ok first =>
              .ok (some lastQueued, (p.copyFence lastQueued first).setState lastQueued .ACQUIRED)
        else .ok (some lastQueued, p.setState lastQueued .ACQUIRED)

def releaseBuffer (p : WriteBackBufferPool) (i : Nat) (clearFence : Bool) : WriteBackBufferPool :=
  if !p.mAllocated then p
  else if clearFence then (p.clearFence (some i)).setState i .FREE
  else p.setState i .RELEASED

/-! ## A column of the pool -/

variable {β : Type}

theorem map_modify_of_eq {g : WriteBackBuffer → β} {f : WriteBackBuffer → WriteBackBuffer}
    (h : ∀ b, g (f b) = g b) (xs : List WriteBackBuffer) (i : Nat) :
    (xs.modify i f).map g = xs.map g := by
  apply List.ext_getElem?
  intro j
  rw [List.getElem?_map, List.getElem?_map, List.getElem?_modify]
  cases xs[j]? with
  | none => rfl
  | some b =>
      by_cases hij : i = j <;> simp [hij, h]

theorem map_modify_of_const {g : WriteBackBuffer → β} {f : WriteBackBuffer → WriteBackBuffer} {c : β}
    (h : ∀ b, g (f b) = c) (xs : List WriteBackBuffer) (i : Nat) :
    (xs.modify i f).map g = (xs.map g).set i c := by
  apply List.ext_getElem?
  intro j
  rw [List.getElem?_map, List.getElem?_modify, List.getElem?_set', List.getElem?_map]
  by_cases hij : i = j
  · subst hij
    cases xs[i]? with
    | none => simp
    | some b => simp [h]
  · simp [hij]

def tokens (p : WriteBackBufferPool) : List Nat := p.mBuffers.map mToken

def states (p : WriteBackBufferPool) : List WriteBackState := p.mBuffers.map mState

theorem length_tokens (p : WriteBackBufferPool) : p.tokens.length = p.mBuffers.length :=
  List.length_map ..

theorem tokens_get {p : WriteBackBufferPool} {i : Nat} {b : WriteBackBuffer}
    (h : p.mBuffers[i]? = some b) : p.tokens[i]? = some b.mToken := by
  rw [tokens, List.getElem?_map, h]
  rfl

@[simp] theorem tokens_clearFence (p : WriteBackBufferPool) (i : Option Nat) :
    (p.clearFence i).tokens = p.tokens := by
  cases i with
  | none => rfl
  | some i => exact map_modify_of_eq (by intro b; rfl) ..

@[simp] theorem states_clearFence (p : WriteBackBufferPool) (i : Option Nat) :
    (p.clearFence i).states = p.states := by
  cases i with
  | none => rfl
  | some i => exact map_modify_of_eq (by intro b; rfl) ..

@[simp] theorem mAllocated_clearFence (p : WriteBackBufferPool) (i : Option Nat) :
    (p.clearFence i).mAllocated = p.mAllocated := by
  cases i <;> rfl

@[simp] theorem tokens_setState (p : WriteBackBufferPool) (i : Nat) (s : WriteBackState) :
    (p.setState i s).tokens = p.tokens :=
  map_modify_of_eq (by intro b; rfl) ..

theorem tokens_mark (p : WriteBackBufferPool) (i token : Nat) :
    (p.mark i token).tokens = p.tokens.set i (token % 2 ^ 32) :=
  map_modify_of_const (by intro b; rfl) ..

theorem states_mark (p : WriteBackBufferPool) (i token : Nat) :
    (p.mark i token).states = p.states.set i .DEQUEUED :=
  map_modify_of_const (by intro b; rfl) ..

theorem copyFence_cases (p : WriteBackBufferPool) (i : Nat) (first : Option Nat) :
    p.copyFence i first = p ∨ ∃ fence, p.copyFence i first = { p with
      mBuffers := p.mBuffers.modify i fun c => { c with acquireFence := fence } } := by
  unfold copyFence
  split
  · exact .inr ⟨_, rfl⟩
  · exact .inl rfl

@[simp] theorem tokens_copyFence (p : WriteBackBufferPool) (i : Nat) (first : Option Nat) :
    (p.copyFence i first).tokens = p.tokens := by
  rcases p.copyFence_cases i first with heq | ⟨fence, heq⟩
  · rw [heq]
  · rw [heq]
    exact map_modify_of_eq (by intro b; rfl) ..

@[simp] theorem mAllocated_copyFence (p : WriteBackBufferPool) (i : Nat) (first : Option Nat) :
    (p.copyFence i first).mAllocated = p.mAllocated := by
  rcases p.copyFence_cases i first with heq | ⟨fence, heq⟩ <;> rw [heq]

/-! ## What the calls do -/

/-- The buffer that is dequeued next: a free one, or else a queued one, of least token. -/
def nextBuffer (p : WriteBackBufferPool) : Option Nat :=
  match findLeast isFree mToken p.mBuffers with
  | none => findLeast isQueued mToken p.mBuffers
  | some i => some i

theorem nextBuffer_eq_some {p : WriteBackBufferPool} {i : Nat} (h : p.nextBuffer = some i) :
    ∃ b, p.mBuffers[i]? = some b ∧ (b.mState = .FREE ∨ b.mState = .QUEUED) := by
  unfold nextBuffer at h
  split at h
  · obtain ⟨b, hleast⟩ := findLeast_leastAt h
    exact ⟨b, hleast.get, .inr (by simpa [isQueued] using hleast.eligible)⟩
  · rename_i j hfree
    obtain ⟨b, hleast⟩ := findLeast_leastAt hfree
    cases h
    exact ⟨b, hleast.get, .inl (by simpa [isFree] using hleast.eligible)⟩

theorem pickBuffer_spec (p : WriteBackBufferPool) :
    p.pickBuffer.1 = p.nextBuffer ∧ p.pickBuffer.2.tokens = p.tokens ∧
      p.pickBuffer.2.states = p.states ∧ p.pickBuffer.2.mAllocated = p.mAllocated := by
  unfold pickBuffer nextBuffer
  cases findLeast isFree mToken p.mBuffers with
  | none =>
      cases findLeast isQueued mToken p.mBuffers with
      | none => exact ⟨rfl, rfl, rfl, rfl⟩
      | some i => simp
  | some i =>
      dsimp only
      split
      · simp
      · exact ⟨rfl, rfl, rfl, rfl⟩

theorem pickBuffer_none {p : WriteBackBufferPool} (h : p.pickBuffer.1 = none) :
    p.pickBuffer.2 = p := by
  unfold pickBuffer at h ⊢
  split at h
  · split at h
    · rfl
    · cases h
  · split at h <;> cases h

theorem firstToken_le_iff {p : WriteBackBufferPool} {bound : Nat} :
    p.firstToken ≤ bound ↔ ∀ t ∈ p.tokens, t ≤ bound := by
  have hfold : ∀ (xs : List WriteBackBuffer) (token : Nat),
      xs.foldl (fun token b => if token < b.mToken then b.mToken else token) token ≤ bound ↔
        token ≤ bound ∧ ∀ t ∈ xs.map mToken, t ≤ bound := by
    intro xs
    induction xs with
    | nil => simp
    | cons b xs ih =>
        intro token
        rw [List.foldl_cons, ih, List.map_cons, List.forall_mem_cons, ← and_assoc]
        apply and_congr_left'
        split <;> omega
  rw [firstToken, hfold, tokens]
  simp

theorem le_firstToken {p : WriteBackBufferPool} {t : Nat} (h : t ∈ p.tokens) : t ≤ p.firstToken :=
  firstToken_le_iff.mp (Nat.le_refl _) t h

/-- A token after `protectTokens`. -/
def protectToken (size firstToken token : Nat) : Nat :=
  if Rebases size firstToken then rebaseToken size token else token

theorem mBuffers_protectTokens (p : WriteBackBufferPool) (firstToken : Nat) :
    (p.protectTokens firstToken).mBuffers = p.mBuffers.map fun b =>
      { b with mToken := protectToken p.tokens.length firstToken b.mToken } := by
  rw [length_tokens]
  by_cases h : Rebases p.mBuffers.length firstToken <;> simp [protectTokens, protectToken, h]

theorem tokens_protectTokens (p : WriteBackBufferPool) (firstToken : Nat) :
    (p.protectTokens firstToken).tokens =
      p.tokens.map (protectToken p.tokens.length firstToken) := by
  rw [WriteBackBufferPool.tokens, mBuffers_protectTokens, List.map_map, WriteBackBufferPool.tokens,
    List.map_map]
  rfl

theorem states_protectTokens (p : WriteBackBufferPool) (firstToken : Nat) :
    (p.protectTokens firstToken).states = p.states := by
  rw [WriteBackBufferPool.states, mBuffers_protectTokens, List.map_map]
  rfl

theorem mAllocated_protectTokens (p : WriteBackBufferPool) (firstToken : Nat) :
    (p.protectTokens firstToken).mAllocated = p.mAllocated := by
  unfold protectTokens
  split <;> rfl

/-- What a call of `dequeueBuffer` that finds a buffer does, with the fences left out. -/
structure Dequeued (p : WriteBackBufferPool) (i : Nat) (p' : WriteBackBufferPool) : Prop where
  next : p.nextBuffer = some i
  allocated : p'.mAllocated = p.mAllocated
  states : p'.states = p.states.set i .DEQUEUED
  tokens : p'.tokens = (p.tokens.set i ((p.firstToken + 1) % 2 ^ 32)).map
    (protectToken p.tokens.length p.firstToken)

theorem dequeueBuffer_cases {p : WriteBackBufferPool} (hallocated : p.mAllocated = true) :
    (p.nextBuffer = none ∧ p.dequeueBuffer = (none, p)) ∨
      ∃ i p', p.dequeueBuffer = (some i, p') ∧ Dequeued p i p' := by
  obtain ⟨hnext, htokens, hstates, halloc⟩ := p.pickBuffer_spec
  rcases hpick : p.pickBuffer with ⟨_ | i, q⟩
  · rw [hpick] at hnext
    have hq := pickBuffer_none (congrArg Prod.fst hpick)
    rw [hpick] at hq
    refine .inl ⟨hnext.symm, ?_⟩
    rw [dequeueBuffer, hallocated, hpick]
    exact congrArg (Prod.mk none) hq
  · rw [hpick] at hnext htokens hstates halloc
    dsimp only at hnext htokens hstates halloc
    refine .inr ⟨i, (q.mark i (p.firstToken + 1)).protectTokens p.firstToken, ?_, ?_⟩
    · rw [dequeueBuffer, hallocated, hpick]
      rfl
    refine ⟨hnext.symm, ?_, ?_, ?_⟩
    · rw [mAllocated_protectTokens]
      exact halloc
    · rw [states_protectTokens, states_mark, hstates]
    · rw [tokens_protectTokens, tokens_mark, htokens, List.length_set]

theorem tokens_queueBuffer (p : WriteBackBufferPool) (i : Nat) (fence : Int) :
    (p.queueBuffer i fence).tokens = p.tokens := by
  unfold queueBuffer
  split
  · rfl
  · exact map_modify_of_eq (by intro b; rfl) ..

theorem mAllocated_queueBuffer (p : WriteBackBufferPool) (i : Nat) (fence : Int) :
    (p.queueBuffer i fence).mAllocated = p.mAllocated := by
  unfold queueBuffer
  split <;> rfl

theorem tokens_releaseBuffer (p : WriteBackBufferPool) (i : Nat) (clearFence : Bool) :
    (p.releaseBuffer i clearFence).tokens = p.tokens := by
  unfold releaseBuffer
  split
  · rfl
  · split <;> simp

theorem mAllocated_releaseBuffer (p : WriteBackBufferPool) (i : Nat) (clearFence : Bool) :
    (p.releaseBuffer i clearFence).mAllocated = p.mAllocated := by
  unfold releaseBuffer
  split
  · rfl
  · split <;> rfl

/-- A buffer that is acquired is the queued one of least token. -/
theorem acquireBuffer_some {p p' : WriteBackBufferPool} {deep : Int} {i : Nat}
    (h : p.acquireBuffer deep = .ok (some i, p')) : findLeast isQueued mToken p.mBuffers = some i := by
  unfold acquireBuffer at h
  split at h
  · cases h
  · split at h
    · cases h
    · rename_i j hleast
      split at h
      · cases h
      · split at h
        · dsimp only at h
          split at h
          · cases h
          · cases h
            exact hleast
        · cases h
          exact hleast

theorem acquireBuffer_keeps {p p' : WriteBackBufferPool} {deep : Int} {i : Option Nat}
    (h : p.acquireBuffer deep = .ok (i, p')) :
    p'.tokens = p.tokens ∧ p'.mAllocated = p.mAllocated := by
  unfold acquireBuffer at h
  split at h
  · cases h
    exact ⟨rfl, rfl⟩
  · split at h
    · cases h
      exact ⟨rfl, rfl⟩
    · split at h
      · cases h
        exact ⟨rfl, rfl⟩
      · split at h
        · dsimp only at h
          split at h
          · cases h
          · cases h
            exact ⟨by rw [tokens_setState, tokens_copyFence], mAllocated_copyFence ..⟩
        · cases h
          exact ⟨tokens_setState .., rfl⟩

end WriteBackBufferPool

end AwHal.Hwc
