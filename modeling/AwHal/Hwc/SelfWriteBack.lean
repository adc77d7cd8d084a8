import Mathlib.Logic.Function.Basic
import Mathlib.Algebra.Ring.Nat
import Mathlib.Data.List.Induction
import AwHal.Lib.GuardedRun

/-!
# Self write-back

`SelfWriteBackDisp2` hands out layers before the hardware has filled them.  Each layer gets an
acquire fence on the timeline `mSyncFd` and waits in `mBuffers`; the timeline is incremented when a
layer leaves the queue, rendered or dropped.  Before the fence counter overflows a new timeline
takes the place of the old one.
-/

namespace AwHal.Hwc

open AwHal.Lib

def BUFSZ : Nat := 6
def MINCACHE : Nat := 3
def UINT_MAX : Nat := 2 ^ 32 - 1

/-- A fence is signalled once its timeline has been incremented `value` times. -/
structure Fence where
  timeline : Nat
  value : Nat
deriving DecidableEq, Repr

/-- Timelines are numbered in the order of their creation; a negative `mSyncFd` is `none`.  The
layers are shared with the buffer pool, so `acquireFence` is a property of the layer and not of its
place in the queue. -/
structure SelfWriteBackDisp2 (L : Type) where
  mSyncFd : Option Nat
  mSyncFdBak : Option Nat := none
  mChangingSync : Bool := false
  mSyncCnt : Nat := 0
  mSigCnt : Nat := 0
  mBuffers : List L := []
  acquireFence : L → Option Fence := fun _ => none
  created : Nat
  increments : Nat → Nat := fun _ => 0

namespace SelfWriteBackDisp2

variable {L : Type}

def fence_timeline_create (w : SelfWriteBackDisp2 L) (succeeds : Bool) :
    SelfWriteBackDisp2 L × Option Nat :=
  if succeeds then ({ w with created := w.created + 1 }, some w.created) else (w, none)

def fence_timeline_inc (w : SelfWriteBackDisp2 L) (fd : Option Nat) : SelfWriteBackDisp2 L :=
  match fd with
  | none => w
  | some timeline =>
      { w with increments := Function.update w.increments timeline (w.increments timeline + 1) }

def fence_create (fd : Option Nat) (value : Nat) (succeeds : Bool) : Option Fence :=
  if succeeds then fd.map fun timeline => ⟨timeline, value⟩ else none

def new (succeeds : Bool) : SelfWriteBackDisp2 L where
  mSyncFd := if succeeds then some 0 else none
  created := if succeeds then 1 else 0

/-! ## The two calls -/

/-- The pool's answer is `lyr`: a layer that is still queued may be handed out again.  Without a
buffer, or with a buffer without a layer, it is `none`. -/
def writebackOneFrame [DecidableEq L] (w : SelfWriteBackDisp2 L) (lyr : Option L)
    (fenceCreated : Bool) : SelfWriteBackDisp2 L × Int :=
  match w.mSyncFd, lyr with
  | some _, some lyr =>
      let mSyncCnt := (w.mSyncCnt + 1) % 2 ^ 32
      let fence := fence_create w.mSyncFd mSyncCnt fenceCreated
      let w := { w with
        mSyncCnt := mSyncCnt
        acquireFence := Function.update w.acquireFence lyr fence }
      let w :=
        if w.mBuffers.length > MINCACHE then
          let w := w.fence_timeline_inc w.mSyncFd
          { w with mSigCnt := (w.mSigCnt + 1) % 2 ^ 32, mBuffers := w.mBuffers.tail }
        else w
      ({ w with mBuffers := w.mBuffers ++ [lyr] }, 0)
  | _, _ => (w, -1)

/-- The counter is about to overflow: later fences are made on a new timeline. -/
def changeSync (w : SelfWriteBackDisp2 L) (timelineCreated : Bool) : SelfWriteBackDisp2 L :=
  if w.mSyncCnt > UINT_MAX - BUFSZ then
    let bak := w.mSyncFd
    let (w, fd) := w.fence_timeline_create timelineCreated
    { w with
      mSyncFdBak := bak
      mSyncFd := fd
      mSyncCnt := 0
      mSigCnt := 0
      mChangingSync := true }
  else w

/-- While layers fenced on the old timeline may be around it is incremented as well. -/
def followBak (w : SelfWriteBackDisp2 L) : SelfWriteBackDisp2 L :=
  if w.mChangingSync ∧ w.mSyncCnt > BUFSZ * 10 then { w with mChangingSync := false }
  else if w.mChangingSync then w.fence_timeline_inc w.mSyncFdBak
  else w

/-- `wbBuf` tells whether the pool has a buffer to write back to.  A commit by the hardware that
fails restarts it and goes on. -/
def performFrameCommit (w : SelfWriteBackDisp2 L) (wbBuf timelineCreated : Bool) :
    SelfWriteBackDisp2 L × Int :=
  if w.mSyncFd = none ∨ wbBuf = false then (w, -1)
  else if w.mBuffers.length ≤ 0 then (w, -1)
  else
    let w := (w.changeSync timelineCreated).followBak
    let w := { w with mBuffers := w.mBuffers.tail }
    let w := w.fence_timeline_inc w.mSyncFd
    ({ w with mSigCnt := (w.mSigCnt + 1) % 2 ^ 32 }, 0)

inductive Event (L : Type) where
  | writebackOneFrame (lyr : Option L) (fenceCreated : Bool)
  | performFrameCommit (wbBuf timelineCreated : Bool)
deriving DecidableEq, Repr

section

variable [DecidableEq L]

def step (w : SelfWriteBackDisp2 L) : Event L → SelfWriteBackDisp2 L
  | .writebackOneFrame lyr fenceCreated => (w.writebackOneFrame lyr fenceCreated).1
  | .performFrameCommit wbBuf timelineCreated => (w.performFrameCommit wbBuf timelineCreated).1

def run (w : SelfWriteBackDisp2 L) (events : List (Event L)) : SelfWriteBackDisp2 L :=
  events.foldl step w

end

/-! ## Fences and rendered buffers -/

def timelineIncrements (w : SelfWriteBackDisp2 L) : Nat :=
  match w.mSyncFd with
  | none => 0
  | some timeline => w.increments timeline

def fencedOnCurrent (w : SelfWriteBackDisp2 L) (lyr : L) : Bool :=
  match w.mSyncFd, w.acquireFence lyr with
  | some timeline, some fence => fence.timeline = timeline
  | _, _ => false

/-- Every fence of the current timeline is either used up by an increment or guards a queued layer,
and a queued layer's fence is not signalled. -/
structure FencesMatch (w : SelfWriteBackDisp2 L) : Prop where
  count : w.timelineIncrements + w.mBuffers.countP w.fencedOnCurrent = w.mSyncCnt
  pending : ∀ lyr ∈ w.mBuffers, ∀ fence, w.acquireFence lyr = some fence →
    w.mSyncFd = some fence.timeline → w.increments fence.timeline < fence.value

/-- A write-back that gets a layer makes its fence and does not overflow the counter; a commit that
renders a layer does not find the counter close to the overflow, unless there is no new timeline to
be had. -/
def Keeps (w : SelfWriteBackDisp2 L) : Event L → Prop
  | .writebackOneFrame lyr fenceCreated =>
      w.mSyncFd ≠ none → lyr ≠ none → fenceCreated = true ∧ w.mSyncCnt ≠ UINT_MAX
  | .performFrameCommit wbBuf timelineCreated =>
      w.mSyncFd ≠ none → wbBuf = true → w.mBuffers ≠ [] → w.mSyncCnt > UINT_MAX - BUFSZ →
        timelineCreated = false

instance (w : SelfWriteBackDisp2 L) (e : Event L) : Decidable (w.Keeps e) := by
  cases e <;> unfold Keeps <;> infer_instance

/-- After `incs` increments no layer's fence is signalled before the layers in front of it leave. -/
def QueueFenced (acquireFence : L → Option Fence) (timeline incs : Nat) (queue : List L) : Prop :=
  ∀ (i : Nat) (lyr : L), queue[i]? = some lyr →
    ∃ value, acquireFence lyr = some ⟨timeline, value⟩ ∧ incs + i < value

structure Fenced (w : SelfWriteBackDisp2 L) (timeline : Nat) : Prop where
  current : w.mSyncFd = some timeline
  unchanged : w.mChangingSync = false
  length : w.mBuffers.length ≤ MINCACHE + 1
  bounded : w.mSyncCnt < 2 ^ 32
  count : w.increments timeline + w.mBuffers.length = w.mSyncCnt
  fences : QueueFenced w.acquireFence timeline (w.increments timeline) w.mBuffers

/-- Without a timeline nothing is done any more. -/
def Inv (w : SelfWriteBackDisp2 L) : Prop :=
  (w.mSyncFd = none ∧ w.mSyncCnt = 0) ∨ ∃ timeline, w.Fenced timeline

section

variable {w : SelfWriteBackDisp2 L} {timeline : Nat}

theorem QueueFenced.pop {queue : List L} {incs : Nat} {acquireFence : L → Option Fence}
    (h : QueueFenced acquireFence timeline incs queue) :
    QueueFenced acquireFence timeline (incs + 1) queue.tail := by
  intro i lyr hi
  rw [List.getElem?_tail] at hi
  obtain ⟨value, hfence, hlt⟩ := h (i + 1) lyr hi
  exact ⟨value, hfence, by omega⟩

theorem Fenced.fencedOnCurrent (h : w.Fenced timeline) {lyr : L} (hmem : lyr ∈ w.mBuffers) :
    w.fencedOnCurrent lyr = true := by
  obtain ⟨i, hi⟩ := List.mem_iff_getElem?.mp hmem
  obtain ⟨value, hfence, _⟩ := h.fences i lyr hi
  simp [SelfWriteBackDisp2.fencedOnCurrent, h.current, hfence]

theorem Fenced.fencesMatch (h : w.Fenced timeline) : w.FencesMatch where
  count := by
    have hall : w.mBuffers.countP w.fencedOnCurrent = w.mBuffers.length :=
      List.countP_eq_length.mpr fun lyr hmem => h.fencedOnCurrent hmem
    rw [hall, timelineIncrements, h.current]
    exact h.count
  pending := by
    intro lyr hmem fence hfence _
    obtain ⟨i, hi⟩ := List.mem_iff_getElem?.mp hmem
    obtain ⟨value, hvalue, hlt⟩ := h.fences i lyr hi
    obtain rfl : fence = ⟨timeline, value⟩ := Option.some.inj (hfence.symm.trans hvalue)
    show w.increments timeline < value
    omega

theorem Inv.fencesMatch (h : w.Inv) : w.FencesMatch := by
  rcases h with ⟨hfd, hcnt⟩ | ⟨timeline, h⟩
  · refine ⟨?_, fun lyr _ fence _ hcurrent => ?_⟩
    · have hnone : w.mBuffers.countP w.fencedOnCurrent = 0 :=
        List.countP_eq_zero.mpr fun lyr _ => by simp [fencedOnCurrent, hfd]
      rw [hnone, timelineIncrements, hfd, hcnt]
    · rw [hfd] at hcurrent
      contradiction
  · exact h.fencesMatch

theorem inv_new (succeeds : Bool) : (new succeeds : SelfWriteBackDisp2 L).Inv := by
  cases succeeds with
  | false => exact Or.inl ⟨rfl, rfl⟩
  | true =>
      refine Or.inr ⟨0, rfl, rfl, Nat.zero_le _, Nat.two_pow_pos 32, rfl, ?_⟩
      intro i lyr hi
      simp [new] at hi

theorem followBak_unchanged (hunchanged : w.mChangingSync = false) : w.followBak = w := by
  simp [followBak, hunchanged]

theorem Fenced.performFrameCommit_eq (h : w.Fenced timeline)
    (hcnt : ¬ w.mSyncCnt > UINT_MAX - BUFSZ) (hqueue : w.mBuffers ≠ []) (timelineCreated : Bool) :
    (w.performFrameCommit true timelineCreated).1 =
      { w with
        mBuffers := w.mBuffers.tail
        mSigCnt := (w.mSigCnt + 1) % 2 ^ 32
        increments := Function.update w.increments timeline (w.increments timeline + 1) } := by
  have hpos : 0 < w.mBuffers.length := List.length_pos_iff.mpr hqueue
  rw [performFrameCommit, if_neg (by simp [h.current]), if_neg (by omega)]
  simp only [changeSync, if_neg hcnt, followBak_unchanged h.unchanged, h.current,
    fence_timeline_inc]

theorem Fenced.performFrameCommit (h : w.Fenced timeline)
    (hcnt : ¬ w.mSyncCnt > UINT_MAX - BUFSZ) (hqueue : w.mBuffers ≠ []) (timelineCreated : Bool) :
    (w.performFrameCommit true timelineCreated).1.Fenced timeline := by
  have hpos : 0 < w.mBuffers.length := List.length_pos_iff.mpr hqueue
  have hlength := h.length
  have hcount := h.count
  rw [h.performFrameCommit_eq hcnt hqueue]
  constructor
  · exact h.current
  · exact h.unchanged
  · show w.mBuffers.tail.length ≤ MINCACHE + 1
    rw [List.length_tail]
    omega
  · exact h.bounded
  · show Function.update w.increments timeline _ timeline + w.mBuffers.tail.length = w.mSyncCnt
    rw [Function.update_self, List.length_tail]
    omega
  · show QueueFenced w.acquireFence timeline (Function.update w.increments timeline _ timeline) _
    rw [Function.update_self]
    exact h.fences.pop

/-- The layer that is rendered when the timelines change was fenced on the old one, but counts on
the new one as well. -/
theorem Fenced.changed (h : w.Fenced timeline) (hcnt : w.mSyncCnt > UINT_MAX - BUFSZ)
    (hqueue : w.mBuffers ≠ []) :
    ¬ (w.performFrameCommit true true).1.FencesMatch := by
  have hpos : 0 < w.mBuffers.length := List.length_pos_iff.mpr hqueue
  intro hmatch
  have hcount := hmatch.count
  rw [SelfWriteBackDisp2.performFrameCommit, if_neg (by simp [h.current]), if_neg (by omega)]
    at hcount
  simp [changeSync, if_pos hcnt, fence_timeline_create, followBak, fence_timeline_inc, h.current,
    timelineIncrements] at hcount

theorem Fenced.stopped (h : w.Fenced timeline) (hcnt : w.mSyncCnt > UINT_MAX - BUFSZ)
    (hqueue : w.mBuffers ≠ []) :
    (w.performFrameCommit true false).1.mSyncFd = none ∧
      (w.performFrameCommit true false).1.mSyncCnt = 0 := by
  have hpos : 0 < w.mBuffers.length := List.length_pos_iff.mpr hqueue
  rw [SelfWriteBackDisp2.performFrameCommit, if_neg (by simp [h.current]), if_neg (by omega)]
  simp [changeSync, if_pos hcnt, fence_timeline_create, followBak, fence_timeline_inc, h.current]

variable [DecidableEq L]

/-- A layer that joins the queue has the highest fence; if it was queued before, its new fence is
later than the old one. -/
theorem QueueFenced.push {queue : List L} {incs cnt : Nat} {acquireFence : L → Option Fence}
    (h : QueueFenced acquireFence timeline incs queue) (hcnt : incs + queue.length < cnt)
    (lyr : L) :
    QueueFenced (Function.update acquireFence lyr (some ⟨timeline, cnt⟩)) timeline incs
      (queue ++ [lyr]) := by
  intro i lyr' hi
  have hlt : i < (queue ++ [lyr]).length := (List.getElem?_eq_some_iff.mp hi).1
  rw [List.length_append, List.length_singleton] at hlt
  by_cases hsame : lyr' = lyr
  · refine ⟨cnt, ?_, by omega⟩
    rw [hsame, Function.update_self]
  · by_cases hlast : i < queue.length
    · rw [List.getElem?_append_left hlast] at hi
      rw [Function.update_of_ne hsame]
      exact h i lyr' hi
    · have heq : i = queue.length := by omega
      subst heq
      rw [List.getElem?_concat_length] at hi
      exact absurd (Option.some.inj hi).symm hsame

/-- With a full queue or not, a layer joins a queue whose fences are in order. -/
theorem Fenced.writebackOneFrame_eq (h : w.Fenced timeline) (lyr : L) (fenceCreated : Bool) :
    ∃ queue incs sig,
      (w.writebackOneFrame (some lyr) fenceCreated).1 =
        { w with
          mSyncCnt := (w.mSyncCnt + 1) % 2 ^ 32
          mSigCnt := sig
          acquireFence := Function.update w.acquireFence lyr
            (fence_create (some timeline) ((w.mSyncCnt + 1) % 2 ^ 32) fenceCreated)
          increments := Function.update w.increments timeline incs
          mBuffers := queue ++ [lyr] } ∧
      queue.length ≤ MINCACHE ∧ incs + queue.length = w.mSyncCnt ∧
      QueueFenced w.acquireFence timeline incs queue := by
  have hcount := h.count
  have hlength := h.length
  by_cases hlen : w.mBuffers.length > MINCACHE
  · refine ⟨w.mBuffers.tail, w.increments timeline + 1, (w.mSigCnt + 1) % 2 ^ 32, ?_, ?_, ?_, ?_⟩
    · simp only [SelfWriteBackDisp2.writebackOneFrame, h.current, if_pos hlen, fence_timeline_inc]
    · rw [List.length_tail]
      omega
    · rw [List.length_tail]
      omega
    · exact h.fences.pop
  · refine ⟨w.mBuffers, w.increments timeline, w.mSigCnt, ?_, by omega, hcount, h.fences⟩
    simp only [SelfWriteBackDisp2.writebackOneFrame, h.current, if_neg hlen,
      Function.update_eq_self]

theorem Fenced.writebackOneFrame (h : w.Fenced timeline) (hcnt : w.mSyncCnt ≠ UINT_MAX) (lyr : L) :
    (w.writebackOneFrame (some lyr) true).1.Fenced timeline := by
  have hbounded := h.bounded
  simp only [UINT_MAX] at hcnt
  have hmod : (w.mSyncCnt + 1) % 2 ^ 32 = w.mSyncCnt + 1 := Nat.mod_eq_of_lt (by omega)
  obtain ⟨queue, incs, sig, heq, hlen, hsum, hfences⟩ := h.writebackOneFrame_eq lyr true
  rw [heq, hmod]
  constructor
  · exact h.current
  · exact h.unchanged
  · show (queue ++ [lyr]).length ≤ MINCACHE + 1
    rw [List.length_append, List.length_singleton]
    omega
  · show w.mSyncCnt + 1 < 2 ^ 32
    omega
  · show Function.update w.increments timeline incs timeline + (queue ++ [lyr]).length = _
    rw [Function.update_self, List.length_append, List.length_singleton]
    show incs + (queue.length + 1) = w.mSyncCnt + 1
    omega
  · show QueueFenced _ timeline (Function.update w.increments timeline incs timeline) _
    rw [Function.update_self]
    exact hfences.push (by omega) lyr

/-- A layer that is queued without a fence is missing from the count, and a counter that overflows
counts none of the fences. -/
theorem Fenced.keeps_of_fencesMatch (h : w.Fenced timeline) {lyr : L} {fenceCreated : Bool}
    (hmatch : (w.writebackOneFrame (some lyr) fenceCreated).1.FencesMatch) :
    fenceCreated = true ∧ w.mSyncCnt ≠ UINT_MAX := by
  have hbounded := h.bounded
  obtain ⟨queue, incs, sig, heq, hlen, hsum, -⟩ := h.writebackOneFrame_eq lyr fenceCreated
  rw [heq] at hmatch
  set w' : SelfWriteBackDisp2 L := { w with
    mSyncCnt := (w.mSyncCnt + 1) % 2 ^ 32
    mSigCnt := sig
    acquireFence := Function.update w.acquireFence lyr
      (fence_create (some timeline) ((w.mSyncCnt + 1) % 2 ^ 32) fenceCreated)
    increments := Function.update w.increments timeline incs
    mBuffers := queue ++ [lyr] } with hw'
  have hlyr : w'.fencedOnCurrent lyr = fenceCreated := by
    cases fenceCreated <;> simp [hw', SelfWriteBackDisp2.fencedOnCurrent, h.current, fence_create]
  have hincs : w'.timelineIncrements = incs := by
    simp [hw', timelineIncrements, h.current]
  have hcount : incs + (queue ++ [lyr]).countP w'.fencedOnCurrent = (w.mSyncCnt + 1) % 2 ^ 32 := by
    rw [← hincs]
    exact hmatch.count
  have hle : queue.countP w'.fencedOnCurrent ≤ queue.length := List.countP_le_length
  rw [List.countP_append, List.countP_singleton, hlyr] at hcount
  simp only [MINCACHE] at hlen
  simp only [UINT_MAX]
  cases fenceCreated with
  | true =>
      refine ⟨rfl, fun hmax => ?_⟩
      rw [if_pos rfl] at hcount
      omega
  | false =>
      rw [if_neg (by decide)] at hcount
      omega

theorem Inv.step {w : SelfWriteBackDisp2 L} {e : Event L} (h : w.Inv) (hkeeps : w.Keeps e) :
    (w.step e).Inv := by
  rcases h with ⟨hfd, hcnt⟩ | ⟨timeline, h⟩
  · have hsame : w.step e = w := by
      cases e with
      | writebackOneFrame lyr fenceCreated =>
          simp [SelfWriteBackDisp2.step, writebackOneFrame, hfd]
      | performFrameCommit wbBuf timelineCreated =>
          simp [SelfWriteBackDisp2.step, performFrameCommit, hfd]
    rw [hsame]
    exact Or.inl ⟨hfd, hcnt⟩
  have hfd : w.mSyncFd ≠ none := by simp [h.current]
  cases e with
  | writebackOneFrame lyr fenceCreated =>
      cases lyr with
      | none =>
          have hsame : w.step (.writebackOneFrame none fenceCreated) = w := by
            simp [SelfWriteBackDisp2.step, writebackOneFrame]
          rw [hsame]
          exact Or.inr ⟨timeline, h⟩
      | some lyr =>
          obtain ⟨rfl, hcnt⟩ := hkeeps hfd (Option.some_ne_none lyr)
          exact Or.inr ⟨timeline, h.writebackOneFrame hcnt lyr⟩
  | performFrameCommit wbBuf timelineCreated =>
      by_cases hready : wbBuf = true ∧ w.mBuffers ≠ []
      · obtain ⟨rfl, hqueue⟩ := hready
        by_cases hcnt : w.mSyncCnt > UINT_MAX - BUFSZ
        · obtain rfl := hkeeps hfd rfl hqueue hcnt
          exact Or.inl (h.stopped hcnt hqueue)
        · exact Or.inr ⟨timeline, h.performFrameCommit hcnt hqueue timelineCreated⟩
      · have hsame : w.step (.performFrameCommit wbBuf timelineCreated) = w := by
          simp only [SelfWriteBackDisp2.step, performFrameCommit]
          split
          · rfl
          · rw [if_pos (by simp_all)]
        rw [hsame]
        exact Or.inr ⟨timeline, h⟩

theorem Inv.keeps {w : SelfWriteBackDisp2 L} {e : Event L} (h : w.Inv)
    (hmatch : (w.step e).FencesMatch) : w.Keeps e := by
  cases e with
  | writebackOneFrame lyr fenceCreated =>
      intro hfd hlyr
      rcases h with ⟨hnone, _⟩ | ⟨timeline, h⟩
      · exact absurd hnone hfd
      obtain ⟨lyr, rfl⟩ := Option.ne_none_iff_exists'.mp hlyr
      exact h.keeps_of_fencesMatch hmatch
  | performFrameCommit wbBuf timelineCreated =>
      intro hfd hbuf hqueue hcnt
      rcases h with ⟨hnone, _⟩ | ⟨timeline, h⟩
      · exact absurd hnone hfd
      subst hbuf
      cases timelineCreated with
      | false => rfl
      | true => exact absurd hmatch (h.changed hcnt hqueue)

/-- The fences match the buffers after every call of a run exactly when each call keeps to `Keeps`:
the change of timelines near the end of the counter's range is what breaks them. -/
theorem fencesMatch_always_iff (succeeds : Bool) (events : List (Event L)) :
    (∀ past, past <+: events → ((new succeeds).run past).FencesMatch) ↔
      Guarded step (fun _ w e => w.Keeps e) (new succeeds) events := by
  apply forall_prefix_iff_guarded_of_invariant fun _ w => w.Inv
  · exact inv_new succeeds
  · intro _ w h
    exact h.fencesMatch
  · intro _ w e h hkeeps
    exact h.step hkeeps
  · intro _ w e h hmatch
    exact h.keeps hmatch

/-! ## The change of timelines -/

def frames (n : Nat) : List (Event Nat) :=
  (List.replicate n [.writebackOneFrame (some 0) true, .performFrameCommit true true]).flatten

theorem frames_succ (n : Nat) :
    frames (n + 1) =
      frames n ++ [.writebackOneFrame (some 0) true, .performFrameCommit true true] := by
  simp [frames, List.replicate_succ']

theorem Fenced.handOut {w : SelfWriteBackDisp2 Nat} (h : w.Fenced 0) (hqueue : w.mBuffers = [])
    (hcnt : w.mSyncCnt ≤ UINT_MAX - BUFSZ) :
    let w' := w.step (.writebackOneFrame (some 0) true)
    w'.Fenced 0 ∧ w'.mSyncCnt = w.mSyncCnt + 1 ∧ w'.mBuffers = [0] := by
  simp only [UINT_MAX, BUFSZ] at hcnt
  refine ⟨h.writebackOneFrame (by simp only [UINT_MAX]; omega) 0, ?_, ?_⟩
  · have hmod : (w.mSyncCnt + 1) % 2 ^ 32 = w.mSyncCnt + 1 := Nat.mod_eq_of_lt (by omega)
    simpa [step, SelfWriteBackDisp2.writebackOneFrame, h.current, hqueue] using hmod
  · simp [step, SelfWriteBackDisp2.writebackOneFrame, h.current, hqueue]

theorem run_frames (n : Nat) (hn : n ≤ UINT_MAX - BUFSZ) :
    ((new true).run (frames n)).Fenced 0 ∧ ((new true).run (frames n)).mSyncCnt = n ∧
      ((new true).run (frames n)).mBuffers = [] := by
  induction n with
  | zero =>
      refine ⟨?_, rfl, rfl⟩
      rcases inv_new (L := Nat) true with ⟨hfd, _⟩ | ⟨timeline, h⟩
      · contradiction
      · obtain rfl : 0 = timeline := Option.some.inj h.current
        exact h
  | succ n ih =>
      obtain ⟨h, hcnt, hqueue⟩ := ih (by omega)
      obtain ⟨h', hcnt', hqueue'⟩ := h.handOut hqueue (by omega)
      have hlow : ¬ n + 1 > UINT_MAX - BUFSZ := by omega
      rw [← hcnt, ← hcnt'] at hlow
      have hne := List.ne_nil_of_length_eq_add_one (congrArg List.length hqueue')
      have heq := h'.performFrameCommit_eq hlow hne true
      rw [frames_succ, run, List.foldl_append]
      refine ⟨h'.performFrameCommit hlow hne true, ?_, ?_⟩
      · exact (congrArg mSyncCnt heq).trans (hcnt'.trans (by rw [hcnt]))
      · exact (congrArg mBuffers heq).trans (by rw [hqueue']; rfl)

theorem not_fencesMatch_frames (n : Nat) (hn : n = UINT_MAX - BUFSZ) :
    ¬ ((new true).run (frames (n + 1))).FencesMatch := by
  obtain ⟨h, hcnt, hqueue⟩ := run_frames n (by omega)
  obtain ⟨h', hcnt', hqueue'⟩ := h.handOut hqueue (by omega)
  rw [frames_succ, run, List.foldl_append]
  refine h'.changed ?_ (by simp [hqueue'])
  rw [hcnt', hcnt]
  omega

theorem fencesMatch_not_always :
    ¬ ∀ past, past <+: frames (UINT_MAX - BUFSZ + 1) → ((new true).run past).FencesMatch :=
  fun hall => not_fencesMatch_frames (UINT_MAX - BUFSZ) (Eq.refl _) (hall _ List.prefix_rfl)

end

end SelfWriteBackDisp2

end AwHal.Hwc
