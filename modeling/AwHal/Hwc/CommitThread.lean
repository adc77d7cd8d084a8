import AwHal.Hwc.Compositor
import AwHal.Lib.GuardedRun
import AwHal.Lib.Overtaking
import Mathlib.Algebra.Order.Group.Multiset
import Mathlib.Tactic.Abel

/-!
# The commit thread

`Compositor::commit` and `blank` hand frames to the thread that submits them to the driver
(`Compositor.cpp`).  A frame keeps its buffers open until it is destroyed.  The calls run under the
lock of the compositor; the thread comes in between them, and between the parts of a `blank` that
has to wait for the composition lock.
-/

namespace AwHal.Hwc.CommitThread

open AwHal.Lib

variable {F : Type}

/-! ## Frames -/

/-- `disp_layer_config2`, with the layer that it shows. -/
structure LayerConfig (F : Type) where
  enable : Bool
  channel : Nat
  layer_id : Nat
  info : Option (Layer F)

structure Frame (F : Type) where
  layerConfigs : List (LayerConfig F)
  /-- The layers whose buffers are duplicated. -/
  deferBufferFds : List (Layer F)
  /-- There is a release fence. -/
  releaseFence : Bool
  frameNumber : UInt32

def Frame.Black (frame : Frame F) : Prop := ∀ cfg ∈ frame.layerConfigs, cfg.enable = false

instance (frame : Frame F) : Decidable frame.Black := inferInstanceAs (Decidable (∀ _ ∈ _, _))

def setupLayerConfig (cfg : ChannelConfig F) (slotIndex : Nat) (slot : ConfigSlot F) :
    LayerConfig F where
  enable := slot.Enable
  channel := cfg.Index
  layer_id := slotIndex
  info := if slot.Enable then slot.InputLayer else none

def setupFrame (configs : List (ChannelConfig F)) : List (LayerConfig F) :=
  configs.flatMap fun cfg => cfg.Slots.mapIdx (setupLayerConfig cfg)

/-- A slot of one colour has no buffer. -/
def deferBuffers (configs : List (ChannelConfig F)) : List (Layer F) :=
  configs.flatMap fun cfg => cfg.Slots.filterMap fun slot =>
    if slot.Enable && !slot.DimLayer then slot.InputLayer else none

/-- What `createSyncpt` fills in; nothing if it fails. -/
abbrev Syncinfo : Type := Option UInt32

def newFrame (plan : PlanningOutput F) (syncpt : Syncinfo) : Frame F where
  layerConfigs := setupFrame plan.Configs
  deferBufferFds := deferBuffers plan.Configs
  releaseFence := syncpt.isSome
  frameNumber := syncpt.getD 0

def blackFrame (attr : Attribute) (syncpt : Syncinfo) : Frame F where
  layerConfigs :=
    (List.range (attr.maxHybridChannelCount + attr.maxRGBChannelCount).toNat).flatMap fun i =>
      (List.range SLOT_PER_CHANNEL).map fun s => ⟨false, i, s, none⟩
  deferBufferFds := []
  releaseFence := syncpt.isSome
  frameNumber := syncpt.getD 0

theorem black_blackFrame (attr : Attribute) (syncpt : Syncinfo) :
    (blackFrame attr syncpt : Frame F).Black := by
  intro cfg hcfg
  obtain ⟨i, -, hmem⟩ := List.mem_flatMap.mp hcfg
  obtain ⟨s, -, rfl⟩ := List.mem_map.mp hmem
  rfl

/-! ## The queue -/

structure Queue (F : Type) where
  mPendingFrames : List (Frame F) := []
  /-- All frames that were queued, oldest first, and those that were thrown out again. -/
  queued : List (Frame F) := []
  dropped : List (Frame F) := []

namespace Queue

/-- The queue is swapped with an empty one. -/
def clear (q : Queue F) : Queue F :=
  { q with mPendingFrames := [], dropped := q.dropped ++ q.mPendingFrames }

def mMaxQueuedFrame : Nat := 32

def queueFrame (q : Queue F) (mSkipFrameEnabled : Bool) (newframe : Frame F) : Queue F :=
  let q := if mSkipFrameEnabled then q.clear else q
  let q := if mMaxQueuedFrame ≤ q.mPendingFrames.length then q.clear else q
  { q with mPendingFrames := q.mPendingFrames ++ [newframe], queued := q.queued ++ [newframe] }

theorem queueFrame_eq (q : Queue F) (mSkipFrameEnabled : Bool) (newframe : Frame F) :
    q.queueFrame mSkipFrameEnabled newframe =
      if mSkipFrameEnabled ∨ mMaxQueuedFrame ≤ q.mPendingFrames.length then
        ⟨[newframe], q.queued ++ [newframe], q.dropped ++ q.mPendingFrames⟩
      else ⟨q.mPendingFrames ++ [newframe], q.queued ++ [newframe], q.dropped⟩ := by
  cases mSkipFrameEnabled with
  | true => simp [queueFrame, clear, mMaxQueuedFrame]
  | false =>
      simp only [queueFrame, Bool.false_eq_true, if_false, false_or]
      split <;> rfl

@[simp] theorem queued_queueFrame (q : Queue F) (skip : Bool) (newframe : Frame F) :
    (q.queueFrame skip newframe).queued = q.queued ++ [newframe] := by
  rw [queueFrame_eq]
  split <;> rfl

theorem overtaking_queueFrame {q : Queue F} {taken : List (Frame F)}
    (h : Overtaking q.queued q.mPendingFrames taken q.dropped) (skip : Bool)
    (newframe : Frame F) :
    Overtaking (q.queueFrame skip newframe).queued (q.queueFrame skip newframe).mPendingFrames taken
      (q.queueFrame skip newframe).dropped := by
  rw [queueFrame_eq]
  split
  · exact h.replace newframe
  · exact h.append newframe

theorem length_queueFrame_le (q : Queue F) (skip : Bool) (newframe : Frame F) :
    (q.queueFrame skip newframe).mPendingFrames.length ≤ mMaxQueuedFrame := by
  rw [queueFrame_eq]
  split
  · exact Nat.le_of_ble_eq_true rfl
  · rename_i hshort
    rw [not_or, not_le] at hshort
    rw [List.length_append, List.length_singleton]
    exact hshort.2

end Queue

/-! ## The compositor and its thread -/

inductive Doing (F : Type) where
  | idle
  /-- In `commitFrame`, at the acquire fence. -/
  | committing (frame : Frame F)
  /-- At the release fence of `mPrevFrame`. -/
  | waiting (frame : Frame F)
  | exited

structure State (F : Type) where
  mBlankOutput : Bool := true
  mAssignment : Option (PlanningOutput F) := none
  /-- `mLocking` of `mCompositionLock`. -/
  mLocking : Bool := false
  /-- A `blank(true)` is in its wait for `mCompositionLock`. -/
  blanking : Bool := false
  mSkipFrameEnabled : Bool := false
  /-- False from the destructor on, after which nobody calls. -/
  mRunning : Bool := true
  queue : Queue F := {}
  thread : Doing F := .idle
  mPrevFrame : Option (Frame F) := none
  /-- The frames submitted to the driver, oldest first, and those destroyed after that. -/
  submitted : List (Frame F) := []
  released : List (Frame F) := []

namespace State

def queueFrame (s : State F) (newframe : Frame F) : State F :=
  { s with queue := s.queue.queueFrame s.mSkipFrameEnabled newframe }

/-- `plan` is what the planner would make of the layers. -/
def prepare (s : State F) (plan : PlanningOutput F) : State F :=
  { s with mLocking := true, mAssignment := if s.mBlankOutput then none else some plan }

def commit (s : State F) (syncpt : Syncinfo) : State F :=
  match s.mAssignment with
  | none => { s with mLocking := false }
  | some plan =>
      { s.queueFrame (newFrame plan syncpt) with mAssignment := none, mLocking := false }

def blank (attr : Attribute) (s : State F) (enabled : Bool) (syncpt : Syncinfo) : State F :=
  if !enabled then { s with mBlankOutput := false }
  else if s.mLocking then { s with mBlankOutput := true, blanking := true }
  else { s.queueFrame (blackFrame attr syncpt) with mBlankOutput := true }

def endWait (attr : Attribute) (s : State F) (syncpt : Syncinfo) : State F :=
  { s.queueFrame (blackFrame attr syncpt) with blanking := false }

def next (s : State F) : State F :=
  match s.queue.mPendingFrames with
  | [] => if s.mRunning then s else { s with thread := .exited }
  | frame :: rest =>
      { s with queue := { s.queue with mPendingFrames := rest }, thread := .committing frame }

def submit (s : State F) (frame : Frame F) : State F :=
  { s with thread := .waiting frame, submitted := s.submitted ++ [frame] }

/-- The release fence of `mPrevFrame` has signalled or timed out. -/
def swap (s : State F) (frame : Frame F) : State F :=
  { s with
    thread := .idle
    mPrevFrame := some frame
    released := s.released ++ s.mPrevFrame.toList }

end State

inductive Event (F : Type) where
  | prepare (plan : PlanningOutput F)
  | commit (syncpt : Syncinfo)
  | blank (enabled : Bool) (syncpt : Syncinfo)
  | endWait (syncpt : Syncinfo)
  | skipFrameEnable (enabled : Bool)
  | stop
  /-- `threadLoop` goes on, wherever it is. -/
  | thread

def call (attr : Attribute) (s : State F) : Event F → State F
  | .prepare plan => s.prepare plan
  | .commit syncpt => s.commit syncpt
  | .blank enabled syncpt => if s.blanking then s else s.blank attr enabled syncpt
  | .endWait syncpt => if s.blanking then s.endWait attr syncpt else s
  | .skipFrameEnable enabled => { s with mSkipFrameEnabled := enabled }
  | .stop => { s with mRunning := false }
  | .thread => s

def threadStep (s : State F) : State F :=
  match s.thread with
  | .idle => s.next
  | .committing frame => s.submit frame
  | .waiting frame => s.swap frame
  | .exited => s

def step (attr : Attribute) (s : State F) : Event F → State F
  | .thread => threadStep s
  | e => if s.mRunning then call attr s e else s

def run (attr : Attribute) (events : List (Event F)) : State F := events.foldl (step attr) {}

/-! ## Where the frames are -/

namespace State

def inHand (s : State F) : List (Frame F) :=
  match s.thread with
  | .committing frame => [frame]
  | _ => []

def atFence (s : State F) : List (Frame F) :=
  match s.thread with
  | .waiting frame => [frame]
  | _ => []

def held (s : State F) : List (Frame F) :=
  s.mPrevFrame.toList ++ s.atFence ++ s.inHand ++ s.queue.mPendingFrames

end State

structure Inv (s : State F) : Prop where
  queue : Overtaking s.queue.queued s.queue.mPendingFrames (s.submitted ++ s.inHand)
    s.queue.dropped
  shown : s.submitted = s.released ++ s.mPrevFrame.toList ++ s.atFence
  bound : s.queue.mPendingFrames.length ≤ Queue.mMaxQueuedFrame
  exited : s.thread = .exited → s.mRunning = false ∧ s.queue.mPendingFrames = []
  first : s.mPrevFrame = none → s.released = []

theorem Inv.start : Inv ({} : State F) :=
  ⟨Overtaking.start, rfl, Nat.zero_le _, nofun, fun _ => rfl⟩

theorem Inv.queueFrame {s s' : State F} (h : Inv s) (hrun : s.mRunning = true)
    (newframe : Frame F)
    (hqueue : s'.queue = s.queue.queueFrame s.mSkipFrameEnabled newframe)
    (hthread : s'.thread = s.thread) (hprev : s'.mPrevFrame = s.mPrevFrame)
    (hsubmitted : s'.submitted = s.submitted) (hreleased : s'.released = s.released) : Inv s' := by
  have hinHand : s'.inHand = s.inHand := by rw [State.inHand, hthread, State.inHand]
  have hatFence : s'.atFence = s.atFence := by rw [State.atFence, hthread, State.atFence]
  have hlive : s.thread ≠ .exited := by
    intro hexited
    rw [(h.exited hexited).1] at hrun
    cases hrun
  refine ⟨?_, ?_, ?_, fun hexited => absurd (hthread ▸ hexited) hlive, ?_⟩
  · rw [hqueue, hsubmitted, hinHand]
    exact Queue.overtaking_queueFrame h.queue _ newframe
  · rw [hsubmitted, hreleased, hprev, hatFence]
    exact h.shown
  · rw [hqueue]
    exact Queue.length_queueFrame_le s.queue _ newframe
  · rw [hprev, hreleased]
    exact h.first

theorem Inv.call {s : State F} (h : Inv s) (hrun : s.mRunning = true) (attr : Attribute)
    (e : Event F) : Inv (call attr s e) := by
  cases e with
  | prepare plan => exact ⟨h.queue, h.shown, h.bound, h.exited, h.first⟩
  | commit syncpt =>
      simp only [CommitThread.call, State.commit]
      cases hplan : s.mAssignment with
      | none => exact ⟨h.queue, h.shown, h.bound, h.exited, h.first⟩
      | some plan => exact h.queueFrame hrun (newFrame plan syncpt) rfl rfl rfl rfl rfl
  | blank enabled syncpt =>
      simp only [CommitThread.call, State.blank]
      split
      · exact h
      · split
        · exact ⟨h.queue, h.shown, h.bound, h.exited, h.first⟩
        · split
          · exact ⟨h.queue, h.shown, h.bound, h.exited, h.first⟩
          · exact h.queueFrame hrun (blackFrame attr syncpt) rfl rfl rfl rfl rfl
  | endWait syncpt =>
      simp only [CommitThread.call, State.endWait]
      split
      · exact h.queueFrame hrun (blackFrame attr syncpt) rfl rfl rfl rfl rfl
      · exact h
  | skipFrameEnable enabled => exact ⟨h.queue, h.shown, h.bound, h.exited, h.first⟩
  | stop =>
      exact ⟨h.queue, h.shown, h.bound, fun hexited => ⟨rfl, (h.exited hexited).2⟩, h.first⟩
  | thread => exact h

theorem Inv.threadStep {s : State F} (h : Inv s) : Inv (threadStep s) := by
  have hqueue := h.queue
  have hshown := h.shown
  rw [State.inHand] at hqueue
  rw [State.atFence] at hshown
  unfold CommitThread.threadStep
  cases hthread : s.thread with
  | idle =>
      simp only [hthread, List.append_nil] at hqueue hshown
      simp only [State.next]
      cases hpending : s.queue.mPendingFrames with
      | nil =>
          dsimp only
          split
          · exact h
          · rename_i hstopped
            have hrun : s.mRunning = false := by simpa using hstopped
            refine ⟨?_, ?_, h.bound, fun _ => ⟨hrun, hpending⟩, h.first⟩
            · simpa [State.inHand] using hqueue
            · simpa [State.atFence] using hshown
      | cons frame rest =>
          rw [hpending] at hqueue
          have hbound := h.bound
          rw [hpending, List.length_cons] at hbound
          refine ⟨hqueue.take, ?_, Nat.le_of_succ_le hbound, nofun,
            h.first⟩
          simpa [State.atFence] using hshown
  | committing frame =>
      simp only [hthread, List.append_nil] at hqueue hshown
      refine ⟨?_, ?_, h.bound, nofun, h.first⟩
      · simpa [State.submit, State.inHand] using hqueue
      · simp only [State.submit, State.atFence, hshown]
  | waiting frame =>
      simp only [hthread, List.append_nil] at hqueue hshown
      refine ⟨?_, ?_, h.bound, nofun, nofun⟩
      · simpa [State.swap, State.inHand] using hqueue
      · simp only [State.swap, State.atFence, hshown, Option.toList_some, List.append_nil]
  | exited => exact h

theorem Inv.step {s : State F} (h : Inv s) (attr : Attribute) (e : Event F) :
    Inv (step attr s e) := by
  cases e with
  | thread => exact h.threadStep
  | _ =>
      simp only [CommitThread.step]
      split
      · rename_i hrun
        exact h.call hrun attr _
      · exact h

theorem inv_run (attr : Attribute) (events : List (Event F)) : Inv (run attr events) := by
  refine List.foldlRecOn events (step attr) Inv.start ?_
  intro s h e _
  exact h.step attr e

/-! ## Stopping -/

def State.work (s : State F) : Nat :=
  3 * s.queue.mPendingFrames.length +
    match s.thread with
    | .idle => 1
    | .committing _ => 3
    | .waiting _ => 2
    | .exited => 0

def State.line (s : State F) : List (Frame F) :=
  s.submitted ++ s.inHand ++ s.queue.mPendingFrames

theorem line_threadStep (s : State F) : (threadStep s).line = s.line := by
  unfold threadStep
  cases hthread : s.thread with
  | idle =>
      simp only [State.next]
      cases hpending : s.queue.mPendingFrames with
      | nil =>
          dsimp only
          split
          · rfl
          · simp [State.line, State.inHand, hthread]
      | cons frame rest => simp [State.line, State.inHand, hthread, hpending]
  | committing frame => simp [State.submit, State.line, State.inHand, hthread]
  | waiting frame => simp [State.swap, State.line, State.inHand, hthread]
  | exited => rfl

theorem work_threadStep {s : State F} (hstop : s.mRunning = false) (h : s.work ≠ 0)
    (hinv : Inv s) : (threadStep s).mRunning = false ∧ (threadStep s).work + 1 = s.work := by
  unfold threadStep
  cases hthread : s.thread with
  | idle =>
      simp only [State.next]
      cases hpending : s.queue.mPendingFrames with
      | nil => simp [State.work, hstop, hthread, hpending]
      | cons frame rest =>
          refine ⟨hstop, ?_⟩
          simp only [State.work, hthread, hpending, List.length_cons]
          omega
  | committing frame => exact ⟨hstop, by simp [State.submit, State.work, hthread]⟩
  | waiting frame => exact ⟨hstop, by simp [State.swap, State.work, hthread]⟩
  | exited =>
      refine absurd ?_ h
      simp [State.work, hthread, (hinv.exited hthread).2]

/-- The thread ends after it has submitted every frame that waits. -/
theorem iterate_threadStep {s : State F} (hstop : s.mRunning = false) (hinv : Inv s) :
    (threadStep^[s.work] s).thread = .exited ∧ (threadStep^[s.work] s).submitted = s.line := by
  induction hwork : s.work generalizing s with
  | zero =>
      have hpending : s.queue.mPendingFrames = [] := by
        rw [State.work] at hwork
        exact List.length_eq_zero_iff.mp (by omega)
      have hthread : s.thread = .exited := by
        rw [State.work] at hwork
        cases h : s.thread with
        | exited => rfl
        | _ => simp [h] at hwork
      refine ⟨hthread, ?_⟩
      simp [State.line, State.inHand, hthread, hpending]
  | succ n ih =>
      obtain ⟨hstop', hless⟩ := work_threadStep hstop (by omega) hinv
      rw [Function.iterate_succ_apply, ← line_threadStep s]
      exact ih hstop' hinv.threadStep (by omega)

/-- The driver gets the frames in the order of queueing; the newest one is never lost, and once the
thread has been stopped it ends with that frame on the screen. -/
theorem submitted_in_order (attr : Attribute) (events : List (Event F)) :
    let s := run attr events
    s.submitted.Sublist s.queue.queued ∧ s.queue.queued.getLast? = s.line.getLast? ∧
      (s.mRunning = false → (threadStep^[s.work] s).thread = .exited ∧
        (threadStep^[s.work] s).submitted.getLast? = s.queue.queued.getLast?) := by
  intro s
  have hinv : Inv s := inv_run attr events
  have hlast : s.queue.queued.getLast? = s.line.getLast? := hinv.queue.getLast?_eq
  refine ⟨?_, hlast, ?_⟩
  · exact (List.sublist_append_left s.submitted s.inHand).trans hinv.queue.sublist
  · intro hstop
    obtain ⟨hexited, hsubmitted⟩ := iterate_threadStep hstop hinv
    exact ⟨hexited, by rw [hsubmitted, hlast]⟩

/-! ## Buffers -/

/-- Every frame is held, was thrown out of the queue or was destroyed behind a newer one.  The frame
on the screen is held, and there are never more than 34 with open buffers. -/
theorem buffers_open (attr : Attribute) (events : List (Event F)) :
    let s := run attr events
    (s.held ++ s.released ++ s.queue.dropped).Perm s.queue.queued ∧
      s.submitted = s.released ++ s.mPrevFrame.toList ++ s.atFence ∧
      s.submitted.getLast? = (s.mPrevFrame.toList ++ s.atFence).getLast? ∧
      s.held.length ≤ Queue.mMaxQueuedFrame + 2 := by
  intro s
  have hinv : Inv s := inv_run attr events
  refine ⟨?_, hinv.shown, ?_, ?_⟩
  · refine List.Perm.trans ?_ hinv.queue.each
    rw [hinv.shown, State.held, ← Multiset.coe_eq_coe]
    simp only [← Multiset.coe_add]
    abel
  · rw [hinv.shown, List.append_assoc]
    cases hprev : s.mPrevFrame with
    | none => rw [hinv.first hprev, List.nil_append]
    | some frame => exact List.getLast?_append_of_ne_nil _ (by simp)
  · have hbusy : (s.atFence ++ s.inHand).length ≤ 1 := by
      rw [State.atFence, State.inHand]
      cases s.thread <;> exact Nat.le_of_ble_eq_true rfl
    have hprev : s.mPrevFrame.toList.length ≤ 1 := by
      cases s.mPrevFrame <;> exact Nat.le_of_ble_eq_true rfl
    have hbound := hinv.bound
    rw [List.length_append] at hbusy
    simp only [State.held, List.length_append]
    omega

/-! ## Blank output -/

/-- While the output is blank, and the `blank` is through, nothing is to be shown. -/
def Dark (s : State F) : Prop :=
  s.mBlankOutput = true → s.blanking = false → ∀ frame ∈ s.queue.queued.getLast?, frame.Black

/-- The call does not commit a plan with something in it while the output is blank. -/
def CommitsNothing (s : State F) : Event F → Prop
  | .commit _ => s.mRunning = true → s.mBlankOutput = true → s.blanking = false →
      ∀ plan ∈ s.mAssignment, ∀ cfg ∈ setupFrame plan.Configs, cfg.enable = false
  | _ => True

theorem dark_queueFrame {s s' : State F} (frame : Frame F) {skip : Bool}
    (hqueue : s'.queue = s.queue.queueFrame skip frame) :
    Dark s' ↔ (s'.mBlankOutput = true → s'.blanking = false → frame.Black) := by
  rw [Dark, hqueue, Queue.queued_queueFrame, List.getLast?_concat]
  simp only [Option.mem_some_iff, forall_eq']

theorem dark_threadStep (s : State F) : Dark (threadStep s) ↔ Dark s := by
  have hsame : (threadStep s).mBlankOutput = s.mBlankOutput ∧
      (threadStep s).blanking = s.blanking ∧ (threadStep s).queue.queued = s.queue.queued := by
    unfold threadStep State.next
    split
    · split
      · split <;> exact ⟨rfl, rfl, rfl⟩
      · exact ⟨rfl, rfl, rfl⟩
    all_goals exact ⟨rfl, rfl, rfl⟩
  obtain ⟨hblank, hblanking, hqueued⟩ := hsame
  rw [Dark, Dark, hblank, hblanking, hqueued]

theorem dark_step {s : State F} (h : Dark s) (attr : Attribute) (e : Event F) :
    Dark (step attr s e) ↔ CommitsNothing s e := by
  cases e with
  | thread => exact iff_of_true ((dark_threadStep s).mpr h) trivial
  | commit syncpt =>
      simp only [step, CommitsNothing]
      cases hrun : s.mRunning with
      | false => exact iff_of_true h nofun
      | true =>
          simp only [if_true, call, State.commit]
          cases hplan : s.mAssignment with
          | none => exact iff_of_true h fun _ _ _ plan hmem => nomatch hmem
          | some plan =>
              dsimp only
              rw [dark_queueFrame (s := s) (newFrame plan syncpt) rfl]
              simp [State.queueFrame, Frame.Black, newFrame]
  | blank enabled syncpt =>
      refine iff_of_true ?_ trivial
      simp only [step, call, State.blank]
      cases hrun : s.mRunning with
      | false => exact h
      | true =>
          cases hblanking : s.blanking with
          | true => exact h
          | false =>
              cases enabled with
              | false => exact fun hblank => nomatch hblank
              | true =>
                  cases hlocking : s.mLocking with
                  | true => exact fun _ hdone => nomatch hdone
                  | false =>
                      exact (dark_queueFrame (s := s) _ rfl).mpr fun _ _ =>
                        black_blackFrame attr syncpt
  | endWait syncpt =>
      refine iff_of_true ?_ trivial
      simp only [step, call, State.endWait]
      cases hrun : s.mRunning with
      | false => exact h
      | true =>
          cases hblanking : s.blanking with
          | false => exact h
          | true =>
              exact (dark_queueFrame (s := s) _ rfl).mpr fun _ _ => black_blackFrame attr syncpt
  | _ =>
      refine iff_of_true ?_ trivial
      simp only [step, call, State.prepare]
      cases s.mRunning <;> exact h

/-- A plan is only there between a `prepare` and its `commit`. -/
def Presented (s : State F) : Prop :=
  (s.mLocking = false → s.mAssignment = none) ∧
    (s.mBlankOutput = true → s.blanking = false → s.mAssignment = none)

/-- The wait of a `blank` ends with the composition lock released. -/
def Waits (s : State F) : Event F → Prop
  | .endWait _ => s.mLocking = false
  | _ => True

theorem presented_threadStep {s : State F} (h : Presented s) : Presented (threadStep s) := by
  unfold threadStep State.next
  split
  · split
    · split <;> exact h
    · exact h
  all_goals exact h

theorem presented_step {s : State F} (h : Presented s) (attr : Attribute) {e : Event F}
    (he : Waits s e) : Presented (step attr s e) := by
  obtain ⟨hlock, hdark⟩ := h
  cases e with
  | thread => exact presented_threadStep ⟨hlock, hdark⟩
  | prepare plan =>
      simp only [step, call, State.prepare]
      split
      · exact ⟨nofun, fun hblank _ => if_pos hblank⟩
      · exact ⟨hlock, hdark⟩
  | commit syncpt =>
      simp only [step, call, State.commit]
      split
      · cases hplan : s.mAssignment with
        | none => exact ⟨fun _ => rfl, fun _ _ => rfl⟩
        | some plan => exact ⟨fun _ => rfl, fun _ _ => rfl⟩
      · exact ⟨hlock, hdark⟩
  | blank enabled syncpt =>
      simp only [step, call, State.blank]
      split
      · split
        · exact ⟨hlock, hdark⟩
        · split
          · exact ⟨hlock, nofun⟩
          · split
            · exact ⟨hlock, nofun⟩
            · rename_i hfree
              have hnone : s.mAssignment = none := hlock (by simpa using hfree)
              exact ⟨fun _ => hnone, fun _ _ => hnone⟩
      · exact ⟨hlock, hdark⟩
  | endWait syncpt =>
      simp only [step, call, State.endWait]
      split
      · split
        · exact ⟨fun _ => hlock he, fun _ _ => hlock he⟩
        · exact ⟨hlock, hdark⟩
      · exact ⟨hlock, hdark⟩
  | _ =>
      simp only [step, call]
      split <;> exact ⟨hlock, hdark⟩

theorem commitsNothing_of_presented {s : State F} (h : Presented s) (e : Event F) :
    CommitsNothing s e := by
  cases e with
  | commit syncpt =>
      intro _ hblank hdone plan hplan
      rw [h.2 hblank hdone] at hplan
      cases hplan
  | _ => trivial

/-- After a `blank` the screen stays black exactly as long as no plan from before it is committed;
and there is no such plan if no `blank` gives up its wait for the composition lock. -/
theorem blank_stays_black (attr : Attribute) (events : List (Event F)) :
    ((∀ past, past <+: events → Dark (run attr past)) ↔
      Guarded (step attr) (fun _ s e => CommitsNothing s e) {} events) ∧
    (Guarded (step attr) (fun _ s e => Waits s e) {} events →
      ∀ past, past <+: events → Dark (run attr past)) := by
  have hiff : (∀ past, past <+: events → Dark (run attr past)) ↔
      Guarded (step attr) (fun _ s e => CommitsNothing s e) {} events :=
    forall_prefix_iff_guarded (fun _ s => Dark s) (fun _ _ => nofun)
      fun _ s e h => dark_step h attr e
  refine ⟨hiff, fun hwaits => hiff.mpr ?_⟩
  intro past e rest heq
  have hpast : Guarded (step attr) (fun _ s e => Waits s e) {} past :=
    hwaits.of_prefix ⟨e :: rest, heq.symm⟩
  have hpresented : Presented (past.foldl (step attr) {}) :=
    hpast.invariant (fun _ s => Presented s) ⟨fun _ => rfl, fun _ _ => rfl⟩
      fun _ s e h he => presented_step h attr he
  exact commitsNothing_of_presented hpresented e

end AwHal.Hwc.CommitThread
