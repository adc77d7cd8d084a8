import Mathlib.Data.List.Perm.Basic
import AwHal.Lib.GuardedRun
import AwHal.Lib.SlotRing
import AwHal.Camera.FrameRefs

/-!
# The camera rings of a `CameraManager`

Each camera puts its frames in a ring of its own, `mCameraBuf[i]`, with a reference taken on each; the
compose thread takes them out, one of each camera at a time, and releases them.  The rings are moved
under `mComposeMutex`, which the compose thread drops before it releases a frame.  It reads
`mCaptureState` without the lock.  The command thread clears the counts when the preview starts.

A step is what a thread does under the lock, or one access or call outside it.
-/

namespace AwHal.Camera.ComposeRings

open AwHal.Lib

def NB_COMPOSE_BUFFER : Nat := 5

structure Frame where
  index : Nat
  addrVirY : Nat
deriving DecidableEq, Repr

inductive CaptureState where
  | pause
  | ready
  | started
  | exit
  | idle
deriving DecidableEq, Repr

inductive CmdCmQueue where
  | startPreview
  | stopPreview
  | releaseCamera
deriving DecidableEq, Repr

def CMD_CM_QUEUE_MAX : Nat := 3

inductive ComposeThread where
  | testExit
  /-- In `releaseAllCameraBuff`, about to go on with camera `i`. -/
  | releaseAll (i : Nat)
  /-- In `releaseAllCameraBuff`, about to release `buffer` of camera `i`. -/
  | releasing (i : Nat) (buffer : Frame)
  | condWait
  /-- In `pthread_cond_wait`, and whether `mComposeCond` was signalled since. -/
  | waiting (signalled : Bool)
  | testPause
  | canCompose
  /-- In `canCompose`, about to release the surplus `buffer` of camera `i`. -/
  | dropping (i : Nat) (buffer : Frame) (canCompose : Bool)
  /-- In `canCompose`, about to go on with camera `i`. -/
  | surplus (i : Nat) (canCompose : Bool)
  | timedWait
  | take
  /-- The frames are composed, and those from camera `i` on are still to be released. -/
  | release (i : Nat) (inbuffer : Nat → Frame)

/-- The command thread waits for a command or carries out `CMD_CM_START_PREVIEW`. -/
inductive CommandThread where
  | dequeue
  | starting
deriving DecidableEq, Repr

structure CameraManager where
  mCaptureState : CaptureState
  mCameraState : Nat → Bool
  mCameraBuf : Nat → SlotRing Frame
  mQueueCMCommand : List CmdCmQueue
  compose : ComposeThread
  command : CommandThread
  /-- The frames of each camera that `queueCameraBuf` took a reference on. -/
  taken : Nat → List Nat
  /-- The frames of each camera that went through `releasePreviewFrame`. -/
  released : Nat → List Nat

structure Cameras where
  mStartCameraID : Nat
  mCameraTotalNum : Nat

inductive Event where
  /-- `frameSize` is the width and height that each camera reports. -/
  | queueCameraBuf (index : Int) (buffer : Frame) (frameSize : Nat → Nat × Nat)
  | composeThread
  | commandThread
  /-- `startPreview` up to the command, and its second part. -/
  | startPreview
  | startPreviewReady
  /-- `stopPreview` and `releaseCamera`, and their commands. -/
  | stopPreview
  | stopPreviewCommand
  | releaseCamera
  | releaseCameraCommand

def initial : CameraManager where
  mCaptureState := .pause
  mCameraState := fun _ => false
  mCameraBuf := fun _ =>
    { buf := fun _ => ⟨0, 0⟩
      write_id := 0
      read_id := 0
      buf_used := 0 }
  mQueueCMCommand := []
  compose := .testExit
  command := .dequeue
  taken := fun _ => []
  released := fun _ => []

section

variable (c : Cameras) (s : CameraManager)

/-! ## The cameras' side -/

def isSameSize (frameSize : Nat → Nat × Nat) : Bool :=
  (List.range c.mCameraTotalNum).all fun i =>
    decide (frameSize (i + c.mStartCameraID) = frameSize c.mStartCameraID)

def allReady (mCameraState : Nat → Bool) : Bool :=
  (List.range c.mCameraTotalNum).all mCameraState

/-- `pthread_cond_signal` on `mComposeCond`: lost when the compose thread does not wait.  A timed wait
ends by itself. -/
def signal : ComposeThread → ComposeThread
  | .waiting _ => .waiting true
  | thread => thread

def putCameraBuf (index : Nat) (buffer : Frame) : CameraManager :=
  let ring := s.mCameraBuf index
  if ring.buf_used < NB_COMPOSE_BUFFER then
    { s with
      mCameraBuf := Function.update s.mCameraBuf index
        ((ring.write ring.write_id buffer).push NB_COMPOSE_BUFFER)
      taken := Function.update s.taken index (s.taken index ++ [buffer.index])
      compose := signal s.compose }
  else { s with compose := signal s.compose }

def inRange (index : Int) : Prop :=
  c.mStartCameraID ≤ index ∧ index < c.mStartCameraID + c.mCameraTotalNum

instance (index : Int) : Decidable (inRange c index) := inferInstanceAs (Decidable (_ ∧ _))

def queueCameraBuf (index : Int) (buffer : Frame) (frameSize : Nat → Nat × Nat) :
    Int × CameraManager :=
  if s.mCaptureState = .exit ∨ s.mCaptureState = .pause then (-1, s)
  else if ¬ inRange c index then (-1, s)
  else
    let i := (index - c.mStartCameraID).toNat
    if s.mCaptureState = .ready then
      let s := { s with mCameraState := Function.update s.mCameraState i true }
      if allReady c s.mCameraState = false then (-1, s)
      else if isSameSize c frameSize = false then (-1, { s with mCaptureState := .pause })
      else (0, putCameraBuf { s with mCaptureState := .started } i buffer)
    else (0, putCameraBuf s i buffer)

/-! ## The compose thread -/

def used (i : Nat) : Int := (s.mCameraBuf i).buf_used

def oldest (i : Nat) : Frame := (s.mCameraBuf i).buf (s.mCameraBuf i).read_id

def pop (i : Nat) : Nat → SlotRing Frame :=
  Function.update s.mCameraBuf i ((s.mCameraBuf i).pop NB_COMPOSE_BUFFER)

def releasePreviewFrame (i : Nat) (buffer : Frame) : CameraManager :=
  { s with released := Function.update s.released i (s.released i ++ [buffer.index]) }

def nextAbove (limit : Int) (i : Nat) : Option Nat :=
  (List.range c.mCameraTotalNum).find? fun j => decide (i ≤ j ∧ limit < used s j)

/-- The rest of `releaseAllCameraBuff` from camera `i` on, up to where it drops the lock. -/
def releaseAllCameraBuff (i : Nat) : CameraManager :=
  match nextAbove c s 0 i with
  | some j =>
      { s with
        mCameraBuf := pop s j
        compose := .releasing j (oldest s j) }
  | none => { s with compose := .condWait }

/-- The rest of `canCompose` from camera `i` on, up to where it drops the lock. -/
def dropSurplus (i : Nat) (canCompose : Bool) : CameraManager :=
  match nextAbove c s (NB_COMPOSE_BUFFER - 2) i with
  | some j =>
      { s with
        mCameraBuf := pop s j
        compose := .dropping j (oldest s j) canCompose }
  | none => { s with compose := if canCompose then .take else .timedWait }

def canCompose : Bool :=
  (List.range c.mCameraTotalNum).all fun i => decide (0 < used s i)

def takeAll : CameraManager :=
  { s with
    mCameraBuf := fun i =>
      if i < c.mCameraTotalNum then (s.mCameraBuf i).pop NB_COMPOSE_BUFFER else s.mCameraBuf i
    compose := .release 0 (oldest s) }

def composeStep : CameraManager :=
  match s.compose with
  | .testExit =>
      { s with compose := if s.mCaptureState = .exit then .releaseAll 0 else .testPause }
  | .releaseAll i => releaseAllCameraBuff c s i
  | .releasing i buffer => { releasePreviewFrame s i buffer with compose := .releaseAll i }
  | .condWait => { s with compose := .waiting false }
  | .waiting _ => { s with compose := .testExit }
  | .testPause =>
      { s with compose := if s.mCaptureState = .pause then .condWait else .canCompose }
  | .canCompose => dropSurplus c s 0 (canCompose c s)
  | .dropping i buffer ready =>
      { releasePreviewFrame s i buffer with compose := .surplus (i + 1) ready }
  | .surplus i ready => dropSurplus c s i ready
  | .timedWait => { s with compose := .testExit }
  | .take => takeAll c s
  | .release i inbuffer =>
      if i < c.mCameraTotalNum then
        let s := { s with compose := .release (i + 1) inbuffer }
        if (inbuffer i).addrVirY ≠ 0 then releasePreviewFrame s i (inbuffer i) else s
      else { s with compose := .testExit }

/-! ## The commands -/

/-- A command that finds the queue full is lost. -/
def queueCommand (cmd : CmdCmQueue) : CameraManager :=
  let queue := s.mQueueCMCommand
  { s with mQueueCMCommand := (OSAL_Queue CMD_CM_QUEUE_MAX queue cmd).getD queue }

/-- `CMD_CM_START_PREVIEW` clears the counts, and only these. -/
def clearUsed (i : Nat) : SlotRing Frame :=
  if i < c.mCameraTotalNum then { s.mCameraBuf i with buf_used := 0 } else s.mCameraBuf i

def commandStep : CameraManager :=
  match s.command with
  | .dequeue =>
      match s.mQueueCMCommand with
      | [] => s
      | .startPreview :: rest =>
          { s with
            mQueueCMCommand := rest
            command := .starting }
      | _ :: rest => { s with mQueueCMCommand := rest }
  | .starting =>
      { s with
        mCameraBuf := clearUsed c s
        command := .dequeue }

def step : Event → CameraManager
  | .queueCameraBuf index buffer frameSize => (queueCameraBuf c s index buffer frameSize).2
  | .composeThread => composeStep c s
  | .commandThread => commandStep c s
  | .startPreview => queueCommand { s with mCameraState := fun _ => false } .startPreview
  | .startPreviewReady => { s with mCaptureState := .ready }
  | .stopPreview => { s with mCaptureState := .pause }
  | .stopPreviewCommand => queueCommand s .stopPreview
  | .releaseCamera => { s with mCaptureState := .exit }
  | .releaseCameraCommand => queueCommand s .releaseCamera

end

def run (c : Cameras) (events : List Event) : CameraManager := events.foldl (step c) initial

/-! ## What the rings are to keep, and when they do -/

def hand (i : Nat) : ComposeThread → List Frame
  | .releasing j buffer => if i = j then [buffer] else []
  | .dropping j buffer _ => if i = j then [buffer] else []
  | .release j inbuffer => if j ≤ i then [inbuffer i] else []
  | _ => []

def stopped : CaptureState → Prop
  | .pause => True
  | .exit => True
  | _ => False

/-- The compose thread sleeps while the preview is stopped: no frame is released any more. -/
def AtRest (s : CameraManager) : Prop :=
  stopped s.mCaptureState ∧ s.compose = .waiting false

def Drained (c : Cameras) (s : CameraManager) : Prop :=
  ∀ i < c.mCameraTotalNum, used s i = 0

structure Sound (c : Cameras) (s : CameraManager) : Prop where
  used_mem : ∀ i < c.mCameraTotalNum, 0 ≤ used s i ∧ used s i ≤ NB_COMPOSE_BUFFER
  write_eq : ∀ i < c.mCameraTotalNum,
    ((s.mCameraBuf i).write_id : Int) = ((s.mCameraBuf i).read_id + used s i) % NB_COMPOSE_BUFFER
  /-- Each frame with a reference was released once, or is about to be, or is in the ring. -/
  frames : ∀ i < c.mCameraTotalNum, (s.taken i).Perm
    (s.released i ++ (hand i s.compose ++ (s.mCameraBuf i).contents NB_COMPOSE_BUFFER).map
      Frame.index)
  /-- When the preview has stopped, none is left in the ring. -/
  drained : AtRest s → Drained c s

/-- `queueCameraBuf` finds cameras of different sizes and pauses the capture. -/
def pauses (c : Cameras) (s : CameraManager) (index : Int) (frameSize : Nat → Nat × Nat) : Prop :=
  s.mCaptureState = .ready ∧ inRange c index ∧
    allReady c (Function.update s.mCameraState (index - c.mStartCameraID).toNat true) = true ∧
    isSameSize c frameSize = false

/-- The counts are cleared, and the thread put to rest, only with empty rings; a composed frame has an
address. -/
def ok (c : Cameras) (s : CameraManager) : Event → Prop
  | .queueCameraBuf index _ frameSize =>
      pauses c s index frameSize → s.compose = .waiting false → Drained c s
  | .composeThread =>
      match s.compose with
      | .condWait => stopped s.mCaptureState → Drained c s
      | .release i inbuffer => i < c.mCameraTotalNum → (inbuffer i).addrVirY ≠ 0
      | _ => True
  | .commandThread => s.command = .starting → Drained c s
  | .stopPreview => s.compose = .waiting false → Drained c s
  | .releaseCamera => s.compose = .waiting false → Drained c s
  | _ => True

/-! ## One camera -/

/-- The frames taken, in order, are those released, the one in hand and those in the ring. -/
structure Accounted (taken released : List Nat) (hand : List Frame) (ring : SlotRing Frame) :
    Prop where
  fits : ring.Fits NB_COMPOSE_BUFFER
  frames : taken = released ++ (hand ++ ring.contents NB_COMPOSE_BUFFER).map Frame.index

section

variable {taken released : List Nat} {held : List Frame} {ring : SlotRing Frame} {buffer : Frame}

theorem Accounted.put (h : Accounted taken released held ring)
    (hroom : ring.buf_used < NB_COMPOSE_BUFFER) :
    Accounted (taken ++ [buffer.index]) released held
      ((ring.write ring.write_id buffer).push NB_COMPOSE_BUFFER) := by
  have hwrite := h.fits.write ring.write_id buffer
  refine ⟨hwrite.push hroom, ?_⟩
  rw [hwrite.contents_push, h.fits.contents_write_next hroom, h.frames]
  simp [SlotRing.write]

theorem Accounted.pop (h : Accounted taken released [] ring) (hsome : 0 < ring.buf_used) :
    Accounted taken released [ring.buf ring.read_id] (ring.pop NB_COMPOSE_BUFFER) := by
  refine ⟨h.fits.pop hsome, ?_⟩
  rw [h.frames, h.fits.contents_pop hsome]
  rfl

theorem Accounted.release (h : Accounted taken released [buffer] ring) :
    Accounted taken (released ++ [buffer.index]) [] ring := by
  refine ⟨h.fits, ?_⟩
  rw [h.frames, List.append_assoc]
  rfl

end

/-! ## All cameras -/

def sure : ComposeThread → Prop
  | .take => True
  | .dropping _ _ canCompose => canCompose = true
  | .surplus _ canCompose => canCompose = true
  | _ => False

structure Inv (c : Cameras) (s : CameraManager) : Prop where
  cameras : ∀ i < c.mCameraTotalNum,
    Accounted (s.taken i) (s.released i) (hand i s.compose) (s.mCameraBuf i)
  sure : sure s.compose → ∀ i < c.mCameraTotalNum, 0 < used s i
  drained : AtRest s → Drained c s

variable {c : Cameras} {s : CameraManager}

theorem Inv.initial : Inv c initial where
  cameras := by
    intro i _
    exact ⟨SlotRing.fits_empty _ (by decide), rfl⟩
  sure := fun h => h.elim
  drained := fun _ _ _ => rfl

theorem Inv.sound (h : Inv c s) : Sound c s where
  used_mem := fun i hi => ⟨(h.cameras i hi).fits.used_nonneg, (h.cameras i hi).fits.used_le⟩
  write_eq := by
    intro i hi
    have hfits := (h.cameras i hi).fits
    have hused : ((s.mCameraBuf i).buf_used.toNat : Int) = used s i :=
      Int.toNat_of_nonneg hfits.used_nonneg
    rw [hfits.write_eq, slotAfter, ← hused]
    push_cast
    rfl
  frames := by
    intro i hi
    rw [(h.cameras i hi).frames]
  drained := h.drained

/-! ## The steps of the compose thread -/

theorem Inv.moveOn (h : Inv c s) (thread : ComposeThread)
    (hhand : ∀ i, hand i thread = hand i s.compose)
    (hsure : ComposeRings.sure thread → ∀ i < c.mCameraTotalNum, 0 < used s i)
    (hrest : thread = .waiting false → stopped s.mCaptureState → Drained c s) :
    Inv c { s with compose := thread } where
  cameras := by
    intro i hi
    show Accounted (s.taken i) (s.released i) (hand i thread) (s.mCameraBuf i)
    rw [hhand i]
    exact h.cameras i hi
  sure := hsure
  drained := fun hrest' => hrest hrest'.2 hrest'.1

theorem nextAbove_spec {limit : Int} {i j : Nat} (h : nextAbove c s limit i = some j) :
    j < c.mCameraTotalNum ∧ i ≤ j ∧ limit < used s j := by
  have hmem := List.mem_of_find?_eq_some h
  have hprop := List.find?_some h
  rw [List.mem_range] at hmem
  rw [decide_eq_true_eq] at hprop
  exact ⟨hmem, hprop.1, hprop.2⟩

theorem Inv.popOne (h : Inv c s) {j : Nat} (hj : j < c.mCameraTotalNum) (hsome : 0 < used s j)
    (thread : ComposeThread) (hbefore : ∀ i, hand i s.compose = [])
    (hhand : ∀ i, hand i thread = if i = j then [oldest s j] else [])
    (hsure : ComposeRings.sure thread →
      1 < used s j ∧ ∀ i < c.mCameraTotalNum, 0 < used s i)
    (hrest : thread ≠ .waiting false) :
    Inv c { s with mCameraBuf := pop s j, compose := thread } where
  cameras := by
    intro i hi
    have hi := h.cameras i hi
    show Accounted (s.taken i) (s.released i) (hand i thread) (pop s j i)
    rw [hhand i]
    rw [hbefore i] at hi
    by_cases hij : i = j
    · subst hij
      rw [if_pos rfl, pop, Function.update_self]
      exact hi.pop hsome
    · rw [if_neg hij, pop, Function.update_of_ne hij]
      exact hi
  sure := by
    intro hs i hi
    obtain ⟨hmany, hall⟩ := hsure hs
    show 0 < (pop s j i).buf_used
    by_cases hij : i = j
    · subst hij
      rw [pop, Function.update_self]
      have hmany : 1 < (s.mCameraBuf i).buf_used := hmany
      show 0 < (s.mCameraBuf i).buf_used - 1
      omega
    · rw [pop, Function.update_of_ne hij]
      exact hall i hi
  drained := fun hrest' => absurd hrest'.2 hrest

theorem Inv.releaseOne (h : Inv c s) {j : Nat} {buffer : Frame} (thread : ComposeThread)
    (hbefore : ∀ i, hand i s.compose = if i = j then [buffer] else [])
    (hhand : ∀ i, hand i thread = [])
    (hsure : ComposeRings.sure thread → ComposeRings.sure s.compose)
    (hrest : thread ≠ .waiting false) :
    Inv c { releasePreviewFrame s j buffer with compose := thread } where
  cameras := by
    intro i hi
    have hi := h.cameras i hi
    show Accounted (s.taken i) (Function.update s.released j _ i) (hand i thread) (s.mCameraBuf i)
    rw [hhand i]
    rw [hbefore i] at hi
    by_cases hij : i = j
    · subst hij
      rw [if_pos rfl] at hi
      rw [Function.update_self]
      exact hi.release
    · rw [if_neg hij] at hi
      rw [Function.update_of_ne hij]
      exact hi
  sure := fun hs => h.sure (hsure hs)
  drained := fun hrest' => absurd hrest'.2 hrest

theorem Inv.releaseAllCameraBuff (h : Inv c s) {i : Nat} (hthread : s.compose = .releaseAll i) :
    Inv c (releaseAllCameraBuff c s i) := by
  have hbefore : ∀ k, hand k s.compose = [] := by
    intro k
    rw [hthread]
    rfl
  unfold ComposeRings.releaseAllCameraBuff
  split
  · rename_i j hj
    obtain ⟨hlt, _, hsome⟩ := nextAbove_spec hj
    exact h.popOne hlt hsome _ hbefore (fun k => rfl) (fun hs => hs.elim) (by simp)
  · exact h.moveOn .condWait (fun k => (hbefore k).symm) (fun hs => hs.elim) (by simp)

theorem Inv.dropSurplus (h : Inv c s) {i : Nat} {ready : Bool} (hbefore : ∀ k, hand k s.compose = [])
    (hready : ready = true → ∀ k < c.mCameraTotalNum, 0 < used s k) :
    Inv c (dropSurplus c s i ready) := by
  unfold ComposeRings.dropSurplus
  split
  · rename_i j hj
    obtain ⟨hlt, _, hmany⟩ := nextAbove_spec hj
    have hmany : (3 : Int) < used s j := hmany
    refine h.popOne hlt (by omega) _ hbefore (fun k => rfl) ?_ (by simp)
    intro hs
    exact ⟨by omega, hready hs⟩
  · cases ready with
    | true => exact h.moveOn .take (fun k => (hbefore k).symm) (fun _ => hready rfl) (by simp)
    | false => exact h.moveOn .timedWait (fun k => (hbefore k).symm) (fun hs => hs.elim) (by simp)

/-- A frame of every camera was seen, and only this thread takes frames out. -/
theorem Inv.takeAll (h : Inv c s) (hthread : s.compose = .take) : Inv c (takeAll c s) where
  cameras := by
    intro i hi
    have hcamera := h.cameras i hi
    have hsome : 0 < used s i := by
      apply h.sure _ i hi
      rw [hthread]
      trivial
    rw [hthread] at hcamera
    show Accounted (s.taken i) (s.released i) [oldest s i] (if _ then _ else _)
    rw [if_pos hi]
    exact hcamera.pop hsome
  sure := fun hs => hs.elim
  drained := fun hrest => by cases hrest.2

theorem canCompose_eq_true (h : canCompose c s = true) :
    ∀ i < c.mCameraTotalNum, 0 < used s i := by
  intro i hi
  have hall := List.all_eq_true.mp h i (List.mem_range.mpr hi)
  rwa [decide_eq_true_eq] at hall

theorem Inv.release (h : Inv c s) {i : Nat} {inbuffer : Nat → Frame}
    (hthread : s.compose = .release i inbuffer) (haddr : (inbuffer i).addrVirY ≠ 0)
    (hi : i < c.mCameraTotalNum) : Inv c (composeStep c s) := by
  have hstep : composeStep c s = releasePreviewFrame
      { s with compose := .release (i + 1) inbuffer } i (inbuffer i) := by
    simp only [composeStep, hthread, if_pos hi, if_pos haddr]
  rw [hstep]
  refine ⟨?_, fun hs => hs.elim, fun hrest => by cases hrest.2⟩
  intro k hk
  have hcamera := h.cameras k hk
  rw [hthread] at hcamera
  show Accounted (s.taken k) (Function.update s.released i _ k)
    (if i + 1 ≤ k then [inbuffer k] else []) (s.mCameraBuf k)
  have hcamera : Accounted (s.taken k) (s.released k) (if i ≤ k then [inbuffer k] else [])
    (s.mCameraBuf k) := hcamera
  by_cases hki : k = i
  · subst hki
    rw [if_pos (Nat.le_refl k)] at hcamera
    rw [Function.update_self, if_neg (by omega)]
    exact hcamera.release
  · rw [Function.update_of_ne hki]
    by_cases hlt : i ≤ k
    · rw [if_pos hlt] at hcamera
      rw [if_pos (by omega)]
      exact hcamera
    · rw [if_neg hlt] at hcamera
      rw [if_neg (by omega)]
      exact hcamera

theorem Inv.releaseEnd (h : Inv c s) {i : Nat} {inbuffer : Nat → Frame}
    (hthread : s.compose = .release i inbuffer) (hi : ¬ i < c.mCameraTotalNum) :
    Inv c { s with compose := .testExit } where
  cameras := by
    intro k hk
    have hcamera := h.cameras k hk
    rw [hthread] at hcamera
    have hcamera : Accounted (s.taken k) (s.released k) (if i ≤ k then [inbuffer k] else [])
      (s.mCameraBuf k) := hcamera
    rw [if_neg (by omega)] at hcamera
    exact hcamera
  sure := fun hs => hs.elim
  drained := fun hrest => by cases hrest.2

theorem Inv.composeStep (h : Inv c s) (hok : ok c s .composeThread) : Inv c (composeStep c s) := by
  cases hthread : s.compose with
  | testExit =>
      simp only [ComposeRings.composeStep, hthread]
      split
      · exact h.moveOn _ (by simp [hthread, hand]) (fun hs => hs.elim) (by simp)
      · exact h.moveOn _ (by simp [hthread, hand]) (fun hs => hs.elim) (by simp)
  | releaseAll i =>
      simp only [ComposeRings.composeStep, hthread]
      exact h.releaseAllCameraBuff hthread
  | releasing i buffer =>
      simp only [ComposeRings.composeStep, hthread]
      exact h.releaseOne (.releaseAll i) (by simp [hthread, hand]) (fun _ => rfl)
        (fun hs => hs.elim) (by simp)
  | condWait =>
      simp only [ComposeRings.composeStep, hthread]
      apply h.moveOn (.waiting false) (by simp [hthread, hand]) (fun hs => hs.elim)
      intro _
      simpa only [ok, hthread] using hok
  | waiting signalled =>
      simp only [ComposeRings.composeStep, hthread]
      exact h.moveOn _ (by simp [hthread, hand]) (fun hs => hs.elim) (by simp)
  | testPause =>
      simp only [ComposeRings.composeStep, hthread]
      split
      · exact h.moveOn _ (by simp [hthread, hand]) (fun hs => hs.elim) (by simp)
      · exact h.moveOn _ (by simp [hthread, hand]) (fun hs => hs.elim) (by simp)
  | canCompose =>
      simp only [ComposeRings.composeStep, hthread]
      exact h.dropSurplus (by simp [hthread, hand]) canCompose_eq_true
  | dropping i buffer ready =>
      simp only [ComposeRings.composeStep, hthread]
      apply h.releaseOne (.surplus (i + 1) ready) (by simp [hthread, hand]) (fun _ => rfl)
      · intro hs
        rw [hthread]
        exact hs
      · simp
  | surplus i ready =>
      simp only [ComposeRings.composeStep, hthread]
      apply h.dropSurplus (by simp [hthread, hand])
      intro hready
      apply h.sure
      rw [hthread]
      exact hready
  | timedWait =>
      simp only [ComposeRings.composeStep, hthread]
      exact h.moveOn _ (by simp [hthread, hand]) (fun hs => hs.elim) (by simp)
  | take =>
      simp only [ComposeRings.composeStep, hthread]
      exact h.takeAll hthread
  | release i inbuffer =>
      by_cases hi : i < c.mCameraTotalNum
      · apply h.release hthread _ hi
        simp only [ok, hthread] at hok
        exact hok hi
      · simp only [ComposeRings.composeStep, hthread, if_neg hi]
        exact h.releaseEnd hthread hi

/-! ## The other steps -/

theorem hand_signal (i : Nat) (thread : ComposeThread) : hand i (signal thread) = hand i thread := by
  cases thread <;> rfl

theorem sure_of_signal {thread : ComposeThread} (h : sure (signal thread)) : sure thread := by
  cases thread <;> exact h

theorem Inv.putCameraBuf (h : Inv c s) (hrunning : ¬ stopped s.mCaptureState) (index : Nat)
    (buffer : Frame) : Inv c (putCameraBuf s index buffer) := by
  simp only [ComposeRings.putCameraBuf]
  split
  · rename_i hroom
    refine ⟨?_, ?_, fun hrest => absurd hrest.1 hrunning⟩
    · intro i hi
      have hcamera := h.cameras i hi
      show Accounted (Function.update s.taken index _ i) (s.released i) (hand i (signal s.compose))
        (Function.update s.mCameraBuf index _ i)
      rw [hand_signal]
      by_cases heq : i = index
      · subst heq
        rw [Function.update_self, Function.update_self]
        exact hcamera.put hroom
      · rw [Function.update_of_ne heq, Function.update_of_ne heq]
        exact hcamera
    · intro hs i hi
      have hsome : 0 < (s.mCameraBuf i).buf_used := h.sure (sure_of_signal hs) i hi
      show 0 < (Function.update s.mCameraBuf index _ i).buf_used
      by_cases heq : i = index
      · subst heq
        rw [Function.update_self]
        show 0 < (s.mCameraBuf i).buf_used + 1
        omega
      · rw [Function.update_of_ne heq]
        exact hsome
  · refine ⟨?_, fun hs => h.sure (sure_of_signal hs), fun hrest => absurd hrest.1 hrunning⟩
    intro i hi
    show Accounted (s.taken i) (s.released i) (hand i (signal s.compose)) (s.mCameraBuf i)
    rw [hand_signal]
    exact h.cameras i hi

theorem Inv.frame (h : Inv c s) (state : CaptureState) (ready : Nat → Bool)
    (queue : List CmdCmQueue) (command : CommandThread)
    (hrest : stopped state → s.compose = .waiting false → Drained c s) :
    Inv c { s with
      mCaptureState := state
      mCameraState := ready
      mQueueCMCommand := queue
      command := command } :=
  ⟨h.cameras, h.sure, fun hrest' => hrest hrest'.1 hrest'.2⟩

theorem Inv.drained_of_rest (h : Inv c s) (hstopped : stopped s.mCaptureState)
    (hthread : s.compose = .waiting false) : Drained c s := h.drained ⟨hstopped, hthread⟩

theorem Inv.queueCameraBuf (h : Inv c s) {index : Int} {buffer : Frame}
    {frameSize : Nat → Nat × Nat}
    (hok : pauses c s index frameSize → s.compose = .waiting false → Drained c s) :
    Inv c (queueCameraBuf c s index buffer frameSize).2 := by
  unfold ComposeRings.queueCameraBuf
  split
  · exact h
  rename_i hstate
  split
  · exact h
  rename_i hrange
  rw [not_not] at hrange
  split
  · rename_i hready
    dsimp only
    split
    · apply h.frame s.mCaptureState _ s.mQueueCMCommand s.command
      rw [hready]
      intro hs
      exact hs.elim
    · rename_i hall
      split
      · rename_i hsize
        apply h.frame .pause _ s.mQueueCMCommand s.command
        intro _
        exact hok ⟨hready, hrange, by simpa using hall, hsize⟩
      · apply Inv.putCameraBuf _ id
        exact h.frame .started _ s.mQueueCMCommand s.command fun hs => hs.elim
  · apply h.putCameraBuf
    intro hs
    cases hcase : s.mCaptureState with
    | pause => exact hstate (.inr hcase)
    | exit => exact hstate (.inl hcase)
    | _ =>
        rw [hcase] at hs
        exact hs.elim

theorem Inv.commandStep (h : Inv c s) (hok : s.command = .starting → Drained c s) :
    Inv c (commandStep c s) := by
  unfold ComposeRings.commandStep
  split
  · split
    · exact h
    · exact h.frame s.mCaptureState s.mCameraState _ .starting h.drained_of_rest
    · exact h.frame s.mCaptureState s.mCameraState _ s.command h.drained_of_rest
  · rename_i hstarting
    have hdrained := hok hstarting
    have hsame : ∀ i < c.mCameraTotalNum, clearUsed c s i = s.mCameraBuf i := by
      intro i hi
      have hzero : (s.mCameraBuf i).buf_used = 0 := hdrained i hi
      rw [clearUsed, if_pos hi, ← hzero]
    refine ⟨?_, ?_, ?_⟩
    · intro i hi
      show Accounted _ _ _ (clearUsed c s i)
      rw [hsame i hi]
      exact h.cameras i hi
    · intro hs i hi
      show 0 < (clearUsed c s i).buf_used
      rw [hsame i hi]
      exact h.sure hs i hi
    · intro _ i hi
      show (clearUsed c s i).buf_used = 0
      rw [hsame i hi]
      exact hdrained i hi

theorem Inv.step (h : Inv c s) {e : Event} (hok : ok c s e) : Inv c (step c s e) := by
  cases e with
  | queueCameraBuf index buffer frameSize => exact h.queueCameraBuf hok
  | composeThread => exact h.composeStep hok
  | commandThread => exact h.commandStep hok
  | startPreview =>
      exact h.frame s.mCaptureState (fun _ => false) _ s.command h.drained_of_rest
  | startPreviewReady =>
      exact h.frame .ready s.mCameraState s.mQueueCMCommand s.command fun hs => hs.elim
  | stopPreview =>
      exact h.frame .pause s.mCameraState s.mQueueCMCommand s.command fun _ => hok
  | stopPreviewCommand =>
      exact h.frame s.mCaptureState s.mCameraState _ s.command h.drained_of_rest
  | releaseCamera =>
      exact h.frame .exit s.mCameraState s.mQueueCMCommand s.command fun _ => hok
  | releaseCameraCommand =>
      exact h.frame s.mCaptureState s.mCameraState _ s.command h.drained_of_rest

/-! ## A step that breaks the condition loses a frame -/

theorem Sound.length_taken (h : Sound c s) {i : Nat} (hi : i < c.mCameraTotalNum) :
    (s.taken i).length =
      (s.released i).length + (hand i s.compose).length + (used s i).toNat := by
  rw [(h.frames i hi).length_eq, List.length_append, List.length_map, List.length_append,
    SlotRing.length_contents, Nat.add_assoc]
  rfl

theorem Inv.drained_of_clear (h : Inv c s) (hstarting : s.command = .starting)
    (hsound : Sound c (ComposeRings.commandStep c s)) : Drained c s := by
  intro i hi
  have hstep : ComposeRings.commandStep c s =
      { s with mCameraBuf := clearUsed c s, command := .dequeue } := by
    simp only [ComposeRings.commandStep, hstarting]
  rw [hstep] at hsound
  have hbefore := h.sound.length_taken hi
  have hafter := hsound.length_taken hi
  have hzero : used { s with mCameraBuf := clearUsed c s, command := .dequeue } i = 0 := by
    show (clearUsed c s i).buf_used = 0
    rw [clearUsed, if_pos hi]
  rw [hzero] at hafter
  have hnonneg : 0 ≤ used s i := (h.cameras i hi).fits.used_nonneg
  have hafter : (s.taken i).length = (s.released i).length + (hand i s.compose).length + 0 := hafter
  omega

theorem Inv.addr_ne_zero (h : Inv c s) {i : Nat} {inbuffer : Nat → Frame}
    (hthread : s.compose = .release i inbuffer) (hi : i < c.mCameraTotalNum)
    (hsound : Sound c (ComposeRings.composeStep c s)) : (inbuffer i).addrVirY ≠ 0 := by
  intro hzero
  have hstep : ComposeRings.composeStep c s = { s with compose := .release (i + 1) inbuffer } := by
    simp [ComposeRings.composeStep, hthread, hi, hzero]
  rw [hstep] at hsound
  have hbefore := h.sound.length_taken hi
  have hafter := hsound.length_taken hi
  have hheld : hand i s.compose = [inbuffer i] := by simp [hthread, hand]
  have hgone : hand i (.release (i + 1) inbuffer) = [] := by simp [hand]
  have hafter : (s.taken i).length = (s.released i).length +
    (hand i (.release (i + 1) inbuffer)).length + (used s i).toNat := hafter
  rw [hheld] at hbefore
  rw [hgone] at hafter
  simp only [List.length_cons, List.length_nil] at hbefore hafter
  omega

theorem queueCameraBuf_of_pauses {index : Int} {buffer : Frame} {frameSize : Nat → Nat × Nat}
    (h : pauses c s index frameSize) :
    (queueCameraBuf c s index buffer frameSize).2 =
      { s with
        mCaptureState := .pause
        mCameraState :=
          Function.update s.mCameraState (index - c.mStartCameraID).toNat true } := by
  obtain ⟨hready, hrange, hall, hsize⟩ := h
  unfold queueCameraBuf
  rw [if_neg (by simp [hready]), if_neg (not_not.mpr hrange)]
  dsimp only
  rw [if_pos hready, if_neg (ne_false_of_eq_true hall), if_pos hsize]

theorem Inv.ok_of_sound (h : Inv c s) {e : Event} (hsound : Sound c (ComposeRings.step c s e)) :
    ok c s e := by
  cases e with
  | queueCameraBuf index buffer frameSize =>
      intro hpauses hthread
      have hsound : Sound c (ComposeRings.queueCameraBuf c s index buffer frameSize).2 := hsound
      rw [queueCameraBuf_of_pauses hpauses] at hsound
      exact hsound.drained ⟨trivial, hthread⟩
  | composeThread =>
      cases hthread : s.compose with
      | condWait =>
          simp only [ok, hthread]
          intro hstopped
          have hstep : ComposeRings.step c s .composeThread = { s with compose := .waiting false } := by
            simp only [ComposeRings.step, ComposeRings.composeStep, hthread]
          rw [hstep] at hsound
          exact hsound.drained ⟨hstopped, rfl⟩
      | release i inbuffer =>
          simp only [ok, hthread]
          intro hi
          exact h.addr_ne_zero hthread hi hsound
      | _ => simp only [ok, hthread]
  | commandThread =>
      intro hstarting
      exact h.drained_of_clear hstarting hsound
  | stopPreview =>
      intro hthread
      exact hsound.drained ⟨trivial, hthread⟩
  | releaseCamera =>
      intro hthread
      exact hsound.drained ⟨trivial, hthread⟩
  | _ => trivial

/-- The frames of every camera are accounted for, and released when the preview has stopped, exactly
in the runs that clear the counts and come to rest with empty rings only. -/
theorem cameraBuf_sound_iff (c : Cameras) (events : List Event) :
    (∀ past, past <+: events → Sound c (run c past)) ↔
      Guarded (step c) (fun _ s e => ok c s e) initial events := by
  apply forall_prefix_iff_guarded_of_invariant (fun _ s => Inv c s) Inv.initial
  · intro _ s h
    exact h.sound
  · intro _ s e h hok
    exact h.step hok
  · intro _ s e h hsound
    exact h.ok_of_sound hsound

/-- Two cameras start: their frames come in before the command thread clears the counts, and the
frame of the second one is lost. -/
theorem cameraBuf_start_loses_frame :
    ¬ ∀ (c : Cameras) (events : List Event), Sound c (run c events) := by
  intro h
  have hsound := h ⟨0, 2⟩ [.startPreview, .startPreviewReady,
    .queueCameraBuf 0 ⟨3, 4096⟩ fun _ => (1280, 720),
    .queueCameraBuf 1 ⟨4, 8192⟩ fun _ => (1280, 720), .commandThread, .commandThread]
  have hlength := hsound.length_taken (by decide : 1 < 2)
  revert hlength
  decide

end AwHal.Camera.ComposeRings
