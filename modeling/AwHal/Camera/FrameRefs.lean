import Mathlib.Data.List.Nodup
import Mathlib.Data.List.Range
import AwHal.Lib.GuardedRun
import AwHal.Lib.RefCount

/-!
# The frames of a `V4L2CameraDevice`

The capture thread takes a frame from the driver and hands it to the preview thread and, while a
picture is taken, to one of the picture threads.  `refCnt` counts the references to each frame, and
`releasePreviewFrame` gives the frame back to the driver when the last one goes.  `mCaptureMutex` is
held by the capture thread while it hands out a frame, and by `releasePreviewFrame`.

The cameras are those with a preview window of their own buffers (CSI, UVC and VFE).
-/

namespace AwHal.Camera

open AwHal.Lib

/-- The queue that `OSAL_QueueCreate` makes for `maxElem` elements has one cell less. -/
def OSAL_Queue {α : Type} (maxElem : Nat) (queue : List α) (data : α) : Option (List α) :=
  if queue.length < maxElem - 1 then some (queue ++ [data]) else none

def ALIGN_16B (x : Nat) : Nat := (x + 15) / 16 * 16

def ALIGN_4K (x : Nat) : Nat := (x + 4095) / 4096 * 4096

def MAX_PICTURE_SIZE : Nat := 4608 * 3456 * 3 / 2

inductive TakePictureState where
  | null
  | normal
  | fast
  | record
  | continuous
  | continuousFast
  | smart
  | sceneMode
deriving DecidableEq, Repr

inductive CaptureThreadState where
  | null
  | paused
  | started
  | exit
deriving DecidableEq, Repr

inductive SceneFactoryMode where
  | none
  | night
  | auto
  | hdr
deriving DecidableEq, Repr

/-- The ways to a picture that shares the frame with the preview, in the order in which
`captureThread` tries them. -/
inductive PicturePath where
  | sceneMode
  | fast
  | smart
  | continuous
deriving DecidableEq, Repr

/-- Where the capture thread is with the frame `index`. -/
inductive CaptureThread where
  | idle
  | captured (index : Nat)
  -- `&mPicBuffer` is in the picture queue, and `mIsPicCopy` is not set yet
  | copyQueued (index : Nat)
  -- the frame is in the preview queue, and not counted yet
  | previewQueued (index : Nat)
  | checking (index : Nat) (path : PicturePath)
  -- the frame is in the picture queue, and not counted yet
  | pictureQueued (index : Nat) (path : PicturePath)
  -- past `DEC_REF`: the mutex is free again
  | releasing (index : Nat)
deriving DecidableEq, Repr

inductive PreviewThread where
  | idle
  | dequeued (index : Nat)
  | notified (index : Nat)
  | releasing (index : Nat)
deriving DecidableEq, Repr

/-- An element of `mQueueBufferPicture`: the copy of a frame, or a frame. -/
inductive PictureBuffer where
  | mPicBuffer
  | mV4l2buf (index : Nat)
deriving DecidableEq, Repr

inductive PictureThread where
  | idle
  | encoding (pbuf : PictureBuffer)
  | releasing (index : Nat)
deriving DecidableEq, Repr

/-- The threads that take pictures out of `mQueueBufferPicture`. -/
inductive PictureThreadName where
  | pictureThread
  | smartPictureThread
  | continuousPictureThread
deriving DecidableEq, Repr

structure V4L2CameraDevice where
  NB_BUFFER : Nat
  mBufferCnt : Nat
  min_undequeued_num : Nat
  refCnt : Nat → Int := fun _ => 0
  -- the frames that are queued with the driver
  driver : List Nat
  mCaptureMutex : Bool := false
  mCaptureThreadState : CaptureThreadState := .started
  mTakePictureState : TakePictureState := .null
  mIsPicCopy : Bool := false
  -- `mPicBuffer.index`
  mPicBufferIndex : Nat := 0
  mQueueBufferPreview : List Nat := []
  mQueueBufferPicture : List PictureBuffer := []
  -- the frames that the preview window shows
  window : List Nat := []
  enqueue_buffer_num : Nat := 0
  -- the frames that the video encoder has
  recording : List Nat := []
  capture : CaptureThread := .idle
  preview : PreviewThread := .idle
  picture : PictureThreadName → PictureThread := fun _ => .idle

structure CaptureInput where
  -- the wait and `VIDIOC_DQBUF` succeed, with the frame `index`
  ready : Bool := true
  index : Nat := 0
  -- one of the first frames, which some platforms discard
  discards : Bool := false
  mFrameWidth : Nat := 640
  mFrameHeight : Nat := 480
  -- `GPU_BUFFER_ALIGN` is `ALIGN_4K`
  aligns : Bool := false
  allocated : Bool := true
  mSceneMode : Option SceneFactoryMode := none
  -- `GetCurrentFrameData` returns `SCENE_CAPTURE_DONE` or `SCENE_CAPTURE_FAIL`
  sceneCaptured : Bool := true
  fast_picture_mode : Bool := false
  -- a flash mode other than `V4L2_FLASH_LED_MODE_NONE`
  mFlashMode : Bool := false
  capture_ok : Bool := true
  fast_capture_ok : Bool := true
  -- always, on the platforms that do not look at it
  flash_ok : Bool := true
  isContinuousPictureTime : Bool := true
deriving DecidableEq, Repr

def CaptureInput.frame_size (found : CaptureInput) : Nat :=
  let size := ALIGN_16B found.mFrameWidth * ALIGN_16B found.mFrameHeight * 3 / 2
  if found.aligns then ALIGN_4K size else size

namespace V4L2CameraDevice

/-- After the start all `mBufferCnt` frames are queued with the driver. -/
def started (NB_BUFFER mBufferCnt min_undequeued_num : Nat) : V4L2CameraDevice where
  NB_BUFFER := NB_BUFFER
  mBufferCnt := mBufferCnt
  min_undequeued_num := min_undequeued_num
  driver := List.range mBufferCnt

/-- The part of `releasePreviewFrame` under the mutex; `VIDIOC_QBUF` succeeds. -/
def releasePreviewFrame (s : V4L2CameraDevice) (index : Nat) : V4L2CameraDevice :=
  { s with
    refCnt := Function.update s.refCnt index (s.refCnt index - 1)
    driver := if s.refCnt index - 1 = 0 then s.driver ++ [index] else s.driver }

def addReference (s : V4L2CameraDevice) (index : Nat) : V4L2CameraDevice :=
  { s with refCnt := Function.update s.refCnt index (s.refCnt index + 1) }

/-! ## The capture thread -/

def decRef (s : V4L2CameraDevice) (index : Nat) : V4L2CameraDevice :=
  { s with mCaptureMutex := false, capture := .releasing index }

def nextCheck (s : V4L2CameraDevice) (index : Nat) : PicturePath → V4L2CameraDevice
  | .sceneMode => { s with capture := .checking index .fast }
  | .fast => { s with capture := .checking index .smart }
  | .smart => { s with capture := .checking index .continuous }
  | .continuous => s.decRef index

def queuePicture (s : V4L2CameraDevice) (index : Nat) (path : PicturePath) : V4L2CameraDevice :=
  match OSAL_Queue 2 s.mQueueBufferPicture (.mV4l2buf index) with
  | none => s.decRef index
  | some queue => { s with mQueueBufferPicture := queue, capture := .pictureQueued index path }

/-- A frame is taken out of the driver, unless the thread is told to stop or there is none. -/
def getPreviewFrame (s : V4L2CameraDevice) (found : CaptureInput) : V4L2CameraDevice :=
  if s.mCaptureMutex then s
  else if s.mCaptureThreadState = .paused ∨ s.mCaptureThreadState = .exit then s
  else if found.ready ∧ found.index ∈ s.driver then
    { s with
      driver := s.driver.erase found.index
      refCnt := Function.update s.refCnt found.index 1
      mCaptureMutex := true
      capture := .captured found.index }
  else s

def copyPicture (s : V4L2CameraDevice) (index : Nat) (found : CaptureInput) : V4L2CameraDevice :=
  if found.frame_size > MAX_PICTURE_SIZE then
    -- `return false`
    { s with mCaptureMutex := false, capture := .idle }
  else
    let s := { s with mPicBufferIndex := index }
    if !found.allocated then
      -- `return __LINE__`
      { s with capture := .idle }
    else
      match OSAL_Queue 2 s.mQueueBufferPicture .mPicBuffer with
      | none => s.decRef index
      | some queue => { s with mQueueBufferPicture := queue, capture := .copyQueued index }

def queuePreview (s : V4L2CameraDevice) (index : Nat) : V4L2CameraDevice :=
  match OSAL_Queue s.NB_BUFFER s.mQueueBufferPreview index with
  | none => s.decRef index
  | some queue => { s with mQueueBufferPreview := queue, capture := .previewQueued index }

def checkPath (s : V4L2CameraDevice) (index : Nat) (found : CaptureInput) :
    PicturePath → V4L2CameraDevice
  | .sceneMode =>
      if s.mTakePictureState = .sceneMode then
        match found.mSceneMode with
        -- `return false`
        | none => { s with mCaptureMutex := false, capture := .idle }
        | some mode =>
            if mode ≠ .hdr ∧ mode ≠ .night then s.decRef index
            else if found.sceneCaptured then s.queuePicture index .sceneMode
            else s.nextCheck index .sceneMode
      else s.nextCheck index .sceneMode
  | .fast =>
      if s.mTakePictureState = .fast ∨ s.mTakePictureState = .record then
        if (found.fast_picture_mode ∨ found.mFlashMode) ∧ s.mTakePictureState = .fast ∧
            (!found.mFlashMode ∧ !found.capture_ok ∨ !found.flash_ok ∧ found.mFlashMode) then
          s.decRef index
        else s.queuePicture index .fast
      else s.nextCheck index .fast
  | .smart =>
      if s.mTakePictureState = .smart then
        if found.fast_picture_mode ∧ !found.fast_capture_ok then s.decRef index
        else s.queuePicture index .smart
      else s.nextCheck index .smart
  | .continuous =>
      if s.mTakePictureState = .continuousFast ∨
          s.mTakePictureState = .continuous ∧ found.isContinuousPictureTime then
        if !found.fast_capture_ok then s.decRef index
        else s.queuePicture index .continuous
      else s.nextCheck index .continuous

def countPicture (s : V4L2CameraDevice) (index : Nat) (path : PicturePath) : V4L2CameraDevice :=
  let s := s.addReference index
  let s := if path = .sceneMode ∨ path = .fast then { s with mTakePictureState := .null } else s
  nextCheck { s with mIsPicCopy := false } index path

def captureStep (s : V4L2CameraDevice) (found : CaptureInput) : V4L2CameraDevice :=
  match s.capture with
  | .idle => s.getPreviewFrame found
  | .captured index =>
      if found.discards then s.decRef index
      else if s.mTakePictureState = .normal then s.copyPicture index found
      else s.queuePreview index
  | .copyQueued index =>
      decRef { s with
        mIsPicCopy := true
        mCaptureThreadState := .paused
        mTakePictureState := .null } index
  | .previewQueued index => { s.addReference index with capture := .checking index .sceneMode }
  | .checking index path => s.checkPath index found path
  | .pictureQueued index path => s.countPicture index path
  | .releasing index =>
      if s.mCaptureMutex then s else { s.releasePreviewFrame index with capture := .idle }

/-! ## The preview thread -/

def dequeuePreview (s : V4L2CameraDevice) : V4L2CameraDevice :=
  match s.preview, s.mQueueBufferPreview with
  | .idle, index :: rest =>
      { s with mQueueBufferPreview := rest, preview := .dequeued index }
  | _, _ => s

/-- `mapped` says that `mMapMem.mem` has the frame, `sized` that its width and height are not 0, and
`records` that `onNextFrameHW` hands it to the video encoder. -/
def notifyPreview (s : V4L2CameraDevice) (mapped sized records : Bool) : V4L2CameraDevice :=
  match s.preview with
  | .dequeued index =>
      if !mapped || !sized then { s with preview := .idle }
      else if records then
        { s.addReference index with
          recording := s.recording ++ [index]
          preview := .notified index }
      else { s with preview := .notified index }
  | _ => s

def enqueueWindow (s : V4L2CameraDevice) (index : Nat) (enqueued : Bool) : V4L2CameraDevice :=
  if enqueued then
    { s with
      window := s.window ++ [index]
      enqueue_buffer_num := s.enqueue_buffer_num + 1
      preview := .idle }
  else { s with preview := .idle }

/-- `dequeue_buffer` gives a frame back that the window has shown.  The error of `lockBuffer` is
`false`, which is `NO_ERROR`. -/
def dequeueWindow (s : V4L2CameraDevice) (dequeued : Option Nat) : V4L2CameraDevice :=
  match dequeued with
  | none => s
  | some index =>
      if s.enqueue_buffer_num > s.min_undequeued_num ∧ index ∈ s.window then
        { s with
          window := s.window.erase index
          enqueue_buffer_num := s.enqueue_buffer_num - 1
          preview := .releasing index }
      else s

def onNextFrameAvailable2 (s : V4L2CameraDevice) (enqueued : Bool) (dequeued : Option Nat) :
    V4L2CameraDevice :=
  match s.preview with
  | .notified index => (s.enqueueWindow index enqueued).dequeueWindow dequeued
  | _ => s

def releasePreview (s : V4L2CameraDevice) : V4L2CameraDevice :=
  match s.preview with
  | .releasing index =>
      if s.mCaptureMutex then s else { s.releasePreviewFrame index with preview := .idle }
  | _ => s

def releaseRecordingFrame (s : V4L2CameraDevice) (index : Nat) : V4L2CameraDevice :=
  if s.mCaptureMutex then s
  else if index ∈ s.recording then
    { s.releasePreviewFrame index with recording := s.recording.erase index }
  else s

/-! ## The picture threads -/

def setPicture (s : V4L2CameraDevice) (who : PictureThreadName) (thread : PictureThread) :
    V4L2CameraDevice :=
  { s with picture := Function.update s.picture who thread }

def dequeuePicture (s : V4L2CameraDevice) (who : PictureThreadName) : V4L2CameraDevice :=
  match s.picture who, s.mQueueBufferPicture with
  | .idle, pbuf :: rest => { s.setPicture who (.encoding pbuf) with mQueueBufferPicture := rest }
  | _, _ => s

def bufferIndex (s : V4L2CameraDevice) : PictureBuffer → Nat
  | .mPicBuffer => s.mPicBufferIndex
  | .mV4l2buf index => index

/-- Whether the thread calls `releasePreviewFrame` for its picture.  `valid` says that `mMapMem.mem`
has the frame and that it has a physical address. -/
def picksRelease (s : V4L2CameraDevice) (valid : Bool) : PictureThreadName → Bool
  | .pictureThread => !s.mIsPicCopy
  | .smartPictureThread => !s.mIsPicCopy
  | .continuousPictureThread => valid

def endsPictures (valid stops : Bool) : PictureThreadName → Bool
  | .pictureThread => false
  | .smartPictureThread => stops
  | .continuousPictureThread => valid && stops

def finishPicture (s : V4L2CameraDevice) (who : PictureThreadName) (valid stops : Bool) :
    V4L2CameraDevice :=
  match s.picture who with
  | .encoding pbuf =>
      let s := if endsPictures valid stops who then { s with mTakePictureState := .null } else s
      if s.picksRelease valid who then s.setPicture who (.releasing (s.bufferIndex pbuf))
      else s.setPicture who .idle
  | _ => s

def releasePicture (s : V4L2CameraDevice) (who : PictureThreadName) : V4L2CameraDevice :=
  match s.picture who with
  | .releasing index =>
      if s.mCaptureMutex then s else (s.releasePreviewFrame index).setPicture who .idle
  | _ => s

/-! ## Runs -/

def setTakePictureState (s : V4L2CameraDevice) (state : TakePictureState) : V4L2CameraDevice :=
  if s.mCaptureMutex then s else { s with mTakePictureState := state }

def setCaptureThreadState (s : V4L2CameraDevice) (state : CaptureThreadState) : V4L2CameraDevice :=
  if s.mCaptureMutex then s else { s with mCaptureThreadState := state }

inductive Event where
  | captureStep (found : CaptureInput)
  | dequeuePreview
  | notifyPreview (mapped sized records : Bool)
  | onNextFrameAvailable2 (enqueued : Bool) (dequeued : Option Nat)
  | releasePreview
  | releaseRecordingFrame (index : Nat)
  | dequeuePicture (who : PictureThreadName)
  | finishPicture (who : PictureThreadName) (valid stops : Bool)
  | releasePicture (who : PictureThreadName)
  | setTakePictureState (state : TakePictureState)
  | setCaptureThreadState (state : CaptureThreadState)
deriving DecidableEq, Repr

def step (s : V4L2CameraDevice) : Event → V4L2CameraDevice
  | .captureStep found => s.captureStep found
  | .dequeuePreview => s.dequeuePreview
  | .notifyPreview mapped sized records => s.notifyPreview mapped sized records
  | .onNextFrameAvailable2 enqueued dequeued => s.onNextFrameAvailable2 enqueued dequeued
  | .releasePreview => s.releasePreview
  | .releaseRecordingFrame index => s.releaseRecordingFrame index
  | .dequeuePicture who => s.dequeuePicture who
  | .finishPicture who valid stops => s.finishPicture who valid stops
  | .releasePicture who => s.releasePicture who
  | .setTakePictureState state => s.setTakePictureState state
  | .setCaptureThreadState state => s.setCaptureThreadState state

end V4L2CameraDevice

/-! ## The holders -/

def CaptureThread.held : CaptureThread → List Nat
  | .idle => []
  | .captured index => [index]
  | .copyQueued index => [index]
  | .previewQueued index => [index]
  | .checking index _ => [index]
  | .pictureQueued index _ => [index]
  | .releasing index => [index]

def CaptureThread.uncounted : CaptureThread → List Nat
  | .previewQueued index => [index]
  | .pictureQueued index _ => [index]
  | _ => []

def CaptureThread.locks : CaptureThread → Bool
  | .idle => false
  | .releasing _ => false
  | _ => true

def PreviewThread.held : PreviewThread → List Nat
  | .idle => []
  | .dequeued index => [index]
  | .notified index => [index]
  | .releasing index => [index]

/-- The copy of a frame is no reference to it. -/
def PictureBuffer.held : PictureBuffer → List Nat
  | .mPicBuffer => []
  | .mV4l2buf index => [index]

def PictureThread.held : PictureThread → List Nat
  | .idle => []
  | .encoding pbuf => pbuf.held
  | .releasing index => [index]

namespace V4L2CameraDevice

/-- The holders of the frames.  A thread that is to release a frame has it until then. -/
def holders (s : V4L2CameraDevice) : List Nat :=
  s.capture.held ++
  (s.mQueueBufferPreview ++ s.preview.held ++ s.window) ++
  (s.mQueueBufferPicture.flatMap PictureBuffer.held ++ (s.picture .pictureThread).held ++
    (s.picture .smartPictureThread).held ++ (s.picture .continuousPictureThread).held) ++
  s.recording

/-- The count of a frame is the number of its holders, but for one that the capture thread is just
adding; a frame is with the driver, once, when it has no holder; and a pass of `captureThread` leaves
the mutex free. -/
structure Balanced (s : V4L2CameraDevice) : Prop where
  counted : Counted s.refCnt s.capture.uncounted s.holders
  driver : FreeUnlessHeld (List.range s.mBufferCnt) s.driver s.holders
  unlocked : s.capture = .idle → s.mCaptureMutex = false

/-- None of the ways out without the release of a frame is taken, and a picture thread finds
`mIsPicCopy` as it was set for its own picture. -/
def KeepsReferences (s : V4L2CameraDevice) : Event → Prop
  | .captureStep found =>
      match s.capture with
      | .captured _ =>
          s.mTakePictureState = .normal → found.discards = false →
            found.frame_size ≤ MAX_PICTURE_SIZE ∧ found.allocated = true
      | .checking _ .sceneMode => s.mTakePictureState = .sceneMode → found.mSceneMode ≠ none
      | _ => True
  | .notifyPreview mapped sized _ =>
      match s.preview with
      | .dequeued _ => mapped = true ∧ sized = true
      | _ => True
  | .onNextFrameAvailable2 enqueued _ =>
      match s.preview with
      | .notified _ => enqueued = true
      | _ => True
  | .finishPicture who valid _ =>
      match s.picture who with
      | .encoding pbuf => s.picksRelease valid who = true ↔ pbuf ≠ .mPicBuffer
      | _ => True
  | _ => True

/-! ## One step -/

structure Inv (s : V4L2CameraDevice) : Prop where
  refs : RefCounted (List.range s.mBufferCnt) s.driver s.refCnt s.capture.uncounted s.holders
  mutex : s.mCaptureMutex = s.capture.locks

variable {s : V4L2CameraDevice} {index : Nat}

theorem inv_started (NB_BUFFER mBufferCnt min_undequeued_num : Nat) :
    Inv (started NB_BUFFER mBufferCnt min_undequeued_num) := by
  have hfree : FreeUnlessHeld (List.range mBufferCnt) (List.range mBufferCnt) [] := by
    intro j hj
    rw [List.count_eq_one_of_mem List.nodup_range hj]
    rfl
  exact ⟨⟨fun _ => rfl, hfree, fun _ hj => hj, List.nil_subset _⟩, rfl⟩

theorem Inv.balanced (h : Inv s) : s.Balanced := by
  refine ⟨h.refs.counted, h.refs.unheld, ?_⟩
  intro hidle
  rw [h.mutex, hidle]
  rfl

theorem count_holders (s : V4L2CameraDevice) (j : Nat) :
    s.holders.count j = s.capture.held.count j + s.mQueueBufferPreview.count j +
      s.preview.held.count j + s.window.count j +
      (s.mQueueBufferPicture.flatMap PictureBuffer.held).count j +
      (s.picture .pictureThread).held.count j + (s.picture .smartPictureThread).held.count j +
      (s.picture .continuousPictureThread).held.count j + s.recording.count j := by
  simp only [holders, List.count_append]
  omega

theorem Inv.setCapture (h : Inv s) {thread : CaptureThread} {mutex : Bool}
    (hheld : thread.held = s.capture.held) (huncounted : thread.uncounted = s.capture.uncounted)
    (hmutex : mutex = thread.locks) :
    Inv { s with mCaptureMutex := mutex, capture := thread } := by
  refine ⟨?_, hmutex⟩
  have hholders : { s with mCaptureMutex := mutex, capture := thread : V4L2CameraDevice }.holders =
      s.holders := by
    simp only [holders, hheld]
  rw [hholders]
  change RefCounted _ s.driver s.refCnt thread.uncounted s.holders
  rw [huncounted]
  exact h.refs

/-- The capture thread has the frame and has put it nowhere that is not counted. -/
structure Has (s : V4L2CameraDevice) (index : Nat) : Prop where
  held : s.capture.held = [index]
  uncounted : s.capture.uncounted = []
  locks : s.capture.locks = true

theorem Inv.decRef (h : Inv s) (hhas : s.Has index) : Inv (s.decRef index) :=
  h.setCapture hhas.held.symm hhas.uncounted.symm rfl

theorem Inv.nextCheck (h : Inv s) (hhas : s.Has index) (path : PicturePath) :
    Inv (s.nextCheck index path) := by
  have hmutex : s.mCaptureMutex = true := h.mutex.trans hhas.locks
  cases path with
  | sceneMode => exact h.setCapture hhas.held.symm hhas.uncounted.symm hmutex
  | fast => exact h.setCapture hhas.held.symm hhas.uncounted.symm hmutex
  | smart => exact h.setCapture hhas.held.symm hhas.uncounted.symm hmutex
  | continuous => exact h.decRef hhas

theorem Has.mem_holders (hhas : s.Has index) : index ∈ s.holders := by
  simp [holders, hhas.held]

theorem eq_append_of_OSAL_Queue {α : Type} {maxElem : Nat} {queue queue' : List α} {data : α}
    (h : OSAL_Queue maxElem queue data = some queue') : queue' = queue ++ [data] := by
  rw [OSAL_Queue, Option.ite_none_right_eq_some] at h
  exact (Option.some.inj h.2).symm

theorem Inv.queuePicture (h : Inv s) (hhas : s.Has index) (path : PicturePath) :
    Inv (s.queuePicture index path) := by
  unfold V4L2CameraDevice.queuePicture
  split
  next => exact h.decRef hhas
  next queue hqueue =>
    obtain rfl := eq_append_of_OSAL_Queue hqueue
    refine ⟨?_, h.mutex.trans hhas.locks⟩
    have hrefs := h.refs.hold hhas.mem_holders
    rw [hhas.uncounted] at hrefs
    apply hrefs.perm
    apply List.perm_iff_count.mpr
    intro j
    rw [List.count_cons, count_holders s, hhas.held, count_holders]
    simp only [CaptureThread.held, List.flatMap_append, List.count_append, List.flatMap_singleton,
      PictureBuffer.held, List.count_singleton]
    omega

theorem Inv.queuePreview (h : Inv s) (hhas : s.Has index) : Inv (s.queuePreview index) := by
  unfold V4L2CameraDevice.queuePreview
  split
  next => exact h.decRef hhas
  next queue hqueue =>
    obtain rfl := eq_append_of_OSAL_Queue hqueue
    refine ⟨?_, h.mutex.trans hhas.locks⟩
    have hrefs := h.refs.hold hhas.mem_holders
    rw [hhas.uncounted] at hrefs
    apply hrefs.perm
    apply List.perm_iff_count.mpr
    intro j
    rw [List.count_cons, count_holders s, hhas.held, count_holders]
    simp only [CaptureThread.held, List.count_append, List.count_singleton]
    omega

theorem Inv.count (h : Inv s) {path : PicturePath} (hheld : s.capture.held = [index])
    (huncounted : s.capture.uncounted = [index]) (hlocks : s.capture.locks = true) :
    Inv { s.addReference index with capture := .checking index path } := by
  refine ⟨?_, h.mutex.trans hlocks⟩
  have hrefs := h.refs
  rw [huncounted] at hrefs
  apply hrefs.count.perm
  apply List.perm_iff_count.mpr
  intro j
  rw [count_holders s, hheld, count_holders]
  rfl

theorem has_of_capture {thread : CaptureThread} (hcapture : s.capture = thread)
    (hheld : thread.held = [index]) (huncounted : thread.uncounted = [])
    (hlocks : thread.locks = true) : s.Has index := by
  subst hcapture
  exact ⟨hheld, huncounted, hlocks⟩

theorem has_checking {path : PicturePath} (hcapture : s.capture = .checking index path) :
    s.Has index :=
  has_of_capture hcapture rfl rfl rfl

theorem Inv.countPicture (h : Inv s) {path : PicturePath}
    (hcapture : s.capture = .pictureQueued index path) : Inv (s.countPicture index path) := by
  have hcounted : Inv { s.addReference index with capture := .checking index path } := by
    apply h.count <;> rw [hcapture] <;> rfl
  -- what else changes is no part of the invariant
  have hall : ∀ state, Inv ({ s.addReference index with
      mTakePictureState := state
      mIsPicCopy := false
      capture := .checking index path }) := fun _ => ⟨hcounted.refs, hcounted.mutex⟩
  cases path with
  | sceneMode => exact (hall .null).nextCheck (has_checking rfl) .sceneMode
  | fast => exact (hall .null).nextCheck (has_checking rfl) .fast
  | smart => exact (hall s.mTakePictureState).nextCheck (has_checking rfl) .smart
  | continuous => exact (hall s.mTakePictureState).nextCheck (has_checking rfl) .continuous

theorem Inv.getPreviewFrame (h : Inv s) (hidle : s.capture = .idle) (found : CaptureInput) :
    Inv (s.getPreviewFrame found) := by
  unfold V4L2CameraDevice.getPreviewFrame
  split_ifs with hmutex hstop hready
  · exact h
  · exact h
  · refine ⟨?_, rfl⟩
    have hrefs := h.refs
    rw [hidle] at hrefs
    apply (hrefs.take hready.2).perm
    apply List.perm_iff_count.mpr
    intro j
    rw [List.count_cons, count_holders s, hidle, count_holders]
    simp only [CaptureThread.held, List.count_nil, List.count_singleton]
    omega
  · exact h

theorem Inv.uncounted_of_free (h : Inv s) (hfree : s.mCaptureMutex = false) :
    s.capture.uncounted = [] := by
  have hlocks : s.capture.locks = false := h.mutex.symm.trans hfree
  cases hcapture : s.capture with
  | idle => rfl
  | releasing index => rfl
  | captured index => rfl
  | copyQueued index => rfl
  | checking index path => rfl
  | previewQueued index =>
      rw [hcapture] at hlocks
      cases hlocks
  | pictureQueued index path =>
      rw [hcapture] at hlocks
      cases hlocks

theorem Inv.release {s' : V4L2CameraDevice} (h : Inv s) (hfree : s.mCaptureMutex = false)
    (hperm : s.holders.Perm (index :: s'.holders))
    (hsame : (s'.mBufferCnt, s'.driver, s'.refCnt, s'.mCaptureMutex) =
      (s.mBufferCnt, (s.releasePreviewFrame index).driver, (s.releasePreviewFrame index).refCnt,
        s.mCaptureMutex))
    (hcapture : s'.capture = .idle ∨ s'.capture = s.capture) : Inv s' := by
  simp only [Prod.mk.injEq] at hsame
  obtain ⟨hcnt, hdriver, hrefCnt, hmutex⟩ := hsame
  have hnone : s'.capture.locks = false ∧ s'.capture.uncounted = [] := by
    rcases hcapture with hidle | hsame
    · rw [hidle]
      exact ⟨rfl, rfl⟩
    · rw [hsame]
      exact ⟨h.mutex.symm.trans hfree, h.uncounted_of_free hfree⟩
  have hrefs := h.refs.perm hperm
  rw [h.uncounted_of_free hfree] at hrefs
  constructor
  · rw [hcnt, hdriver, hrefCnt, hnone.2]
    exact hrefs.release
  · rw [hmutex, hfree, hnone.1]

theorem Inv.move {s' : V4L2CameraDevice} (h : Inv s) (hperm : s.holders.Perm s'.holders)
    (hsame : (s'.mBufferCnt, s'.driver, s'.refCnt, s'.capture, s'.mCaptureMutex) =
      (s.mBufferCnt, s.driver, s.refCnt, s.capture, s.mCaptureMutex)) : Inv s' := by
  simp only [Prod.mk.injEq] at hsame
  obtain ⟨hcnt, hdriver, hrefCnt, hcapture, hmutex⟩ := hsame
  constructor
  · rw [hcnt, hdriver, hrefCnt, hcapture]
    exact h.refs.perm hperm
  · rw [hmutex, hcapture, h.mutex]

theorem Inv.releaseCapture (h : Inv s) (hcapture : s.capture = .releasing index) :
    Inv { s.releasePreviewFrame index with capture := .idle } := by
  have hfree : s.mCaptureMutex = false := by rw [h.mutex, hcapture]; rfl
  refine h.release hfree ?_ rfl (.inl rfl)
  apply List.perm_iff_count.mpr
  intro j
  rw [List.count_cons, count_holders s, hcapture, count_holders]
  simp only [CaptureThread.held, List.count_nil, List.count_singleton, releasePreviewFrame]
  omega

/-! ### The capture thread -/

/-- A pass that ends without the release loses the reference of the capture thread. -/
theorem not_balanced_of_return (h : Inv s) (hhas : s.Has index) (mutex : Bool) (copy : Nat) :
    ¬ Balanced { s with mCaptureMutex := mutex, mPicBufferIndex := copy, capture := .idle } := by
  intro hbalanced
  have hcounted := h.refs.counted
  rw [hhas.uncounted] at hcounted
  refine hcounted.not_lost (i := index) ?_ hbalanced.counted
  apply List.perm_iff_count.mpr
  intro j
  rw [List.count_cons, count_holders s, hhas.held, count_holders]
  simp only [CaptureThread.held, List.count_nil, List.count_singleton]
  omega

theorem Inv.copyPicture (h : Inv s) (hhas : s.Has index) {found : CaptureInput}
    (hfits : found.frame_size ≤ MAX_PICTURE_SIZE) (halloc : found.allocated = true) :
    Inv (s.copyPicture index found) := by
  have hcopy : Inv { s with mPicBufferIndex := index } := ⟨h.refs, h.mutex⟩
  have hhascopy : Has { s with mPicBufferIndex := index } index :=
    ⟨hhas.held, hhas.uncounted, hhas.locks⟩
  unfold V4L2CameraDevice.copyPicture
  rw [if_neg (Nat.not_lt.mpr hfits), halloc]
  simp only [Bool.not_true, Bool.false_eq_true, if_false]
  split
  next => exact hcopy.decRef hhascopy
  next queue hqueue =>
    obtain rfl := eq_append_of_OSAL_Queue hqueue
    refine ⟨?_, h.mutex.trans hhas.locks⟩
    have hrefs := h.refs
    rw [hhas.uncounted] at hrefs
    apply hrefs.perm
    apply List.perm_iff_count.mpr
    intro j
    rw [count_holders s, hhas.held, count_holders]
    simp only [CaptureThread.held, List.flatMap_append, List.count_append, List.flatMap_singleton,
      PictureBuffer.held, List.count_nil]
    omega

theorem Inv.fits_of_balanced (h : Inv s) (hhas : s.Has index) (found : CaptureInput)
    (hbalanced : Balanced (s.copyPicture index found)) :
    found.frame_size ≤ MAX_PICTURE_SIZE ∧ found.allocated = true := by
  by_cases hfits : found.frame_size ≤ MAX_PICTURE_SIZE
  · refine ⟨hfits, ?_⟩
    by_contra hfails
    rw [Bool.not_eq_true] at hfails
    unfold V4L2CameraDevice.copyPicture at hbalanced
    rw [if_neg (Nat.not_lt.mpr hfits), hfails] at hbalanced
    exact not_balanced_of_return h hhas s.mCaptureMutex index hbalanced
  · unfold V4L2CameraDevice.copyPicture at hbalanced
    rw [if_pos (Nat.lt_of_not_le hfits)] at hbalanced
    exact absurd hbalanced (not_balanced_of_return h hhas false s.mPicBufferIndex)

theorem Inv.checkPath (h : Inv s) (hhas : s.Has index) {found : CaptureInput} {path : PicturePath}
    (hscene : path = .sceneMode → s.mTakePictureState = .sceneMode → found.mSceneMode ≠ none) :
    Inv (s.checkPath index found path) := by
  cases path with
  | sceneMode =>
      simp only [V4L2CameraDevice.checkPath]
      by_cases hstate : s.mTakePictureState = .sceneMode
      · rw [if_pos hstate]
        cases hmode : found.mSceneMode with
        | none => exact absurd hmode (hscene rfl hstate)
        | some mode =>
            dsimp only
            split_ifs
            · exact h.decRef hhas
            · exact h.queuePicture hhas .sceneMode
            · exact h.nextCheck hhas .sceneMode
      · rw [if_neg hstate]
        exact h.nextCheck hhas .sceneMode
  | fast =>
      simp only [V4L2CameraDevice.checkPath]
      split_ifs
      · exact h.decRef hhas
      · exact h.queuePicture hhas .fast
      · exact h.nextCheck hhas .fast
  | smart =>
      simp only [V4L2CameraDevice.checkPath]
      split_ifs
      · exact h.decRef hhas
      · exact h.queuePicture hhas .smart
      · exact h.nextCheck hhas .smart
  | continuous =>
      simp only [V4L2CameraDevice.checkPath]
      split_ifs
      · exact h.decRef hhas
      · exact h.queuePicture hhas .continuous
      · exact h.nextCheck hhas .continuous

theorem Inv.captureStep (h : Inv s) {found : CaptureInput}
    (hok : s.KeepsReferences (.captureStep found)) : Inv (s.captureStep found) := by
  simp only [KeepsReferences] at hok
  unfold V4L2CameraDevice.captureStep
  cases hcapture : s.capture with
  | idle => exact h.getPreviewFrame hcapture found
  | captured index =>
      have hhas : s.Has index := has_of_capture hcapture rfl rfl rfl
      rw [hcapture] at hok
      dsimp only at hok ⊢
      split_ifs with hdiscards hnormal
      · exact h.decRef hhas
      · obtain ⟨hfits, halloc⟩ := hok hnormal (Bool.eq_false_iff.mpr hdiscards)
        exact h.copyPicture hhas hfits halloc
      · exact h.queuePreview hhas
  | copyQueued index =>
      have hhas : s.Has index := has_of_capture hcapture rfl rfl rfl
      have hdec := h.decRef hhas
      exact ⟨hdec.refs, hdec.mutex⟩
  | previewQueued index => apply h.count <;> rw [hcapture] <;> rfl
  | checking index path =>
      apply h.checkPath (has_checking hcapture)
      intro hpath hstate
      rw [hcapture, hpath] at hok
      exact hok hstate
  | pictureQueued index path => exact h.countPicture hcapture
  | releasing index =>
      dsimp only
      split_ifs
      · exact h
      · exact h.releaseCapture hcapture

theorem Inv.keeps_of_captureStep (h : Inv s) {found : CaptureInput}
    (hbalanced : Balanced (s.captureStep found)) : s.KeepsReferences (.captureStep found) := by
  simp only [KeepsReferences]
  unfold V4L2CameraDevice.captureStep at hbalanced
  cases hcapture : s.capture with
  | captured index =>
      have hhas : s.Has index := has_of_capture hcapture rfl rfl rfl
      intro hnormal hdiscards
      rw [hcapture] at hbalanced
      simp only [hdiscards, hnormal, Bool.false_eq_true, if_false, if_true] at hbalanced
      exact h.fits_of_balanced hhas found hbalanced
  | checking index path =>
      cases path with
      | sceneMode =>
          intro hstate hnull
          rw [hcapture] at hbalanced
          simp only [V4L2CameraDevice.checkPath] at hbalanced
          rw [if_pos hstate, hnull] at hbalanced
          exact not_balanced_of_return h (has_checking hcapture) false s.mPicBufferIndex hbalanced
      | fast => trivial
      | smart => trivial
      | continuous => trivial
  | idle => trivial
  | copyQueued index => trivial
  | previewQueued index => trivial
  | pictureQueued index path => trivial
  | releasing index => trivial

/-! ### The preview thread -/

theorem Inv.dequeuePreview (h : Inv s) : Inv s.dequeuePreview := by
  unfold V4L2CameraDevice.dequeuePreview
  split
  next index rest hpreview hqueue =>
    refine h.move ?_ rfl
    apply List.perm_iff_count.mpr
    intro j
    rw [count_holders s, hpreview, hqueue, count_holders]
    simp only [PreviewThread.held, List.count_cons, List.count_nil]
    omega
  next => exact h

theorem Inv.notifyPreview (h : Inv s) {mapped sized records : Bool}
    (hok : s.KeepsReferences (.notifyPreview mapped sized records)) :
    Inv (s.notifyPreview mapped sized records) := by
  simp only [KeepsReferences] at hok
  unfold V4L2CameraDevice.notifyPreview
  cases hpreview : s.preview with
  | dequeued index =>
      rw [hpreview] at hok
      obtain ⟨rfl, rfl⟩ := hok
      have hmem : index ∈ s.holders := by simp [holders, hpreview, PreviewThread.held]
      simp only [Bool.not_true, Bool.or_self, Bool.false_eq_true, if_false]
      cases records with
      | true =>
          rw [if_pos rfl]
          refine ⟨?_, h.mutex⟩
          apply (h.refs.share hmem).perm
          apply List.perm_iff_count.mpr
          intro j
          rw [List.count_cons, count_holders s, hpreview, count_holders]
          simp only [PreviewThread.held, List.count_append, List.count_singleton, addReference]
          omega
      | false =>
          rw [if_neg Bool.false_ne_true]
          refine h.move ?_ rfl
          apply List.perm_iff_count.mpr
          intro j
          rw [count_holders s, hpreview, count_holders]
          rfl
  | idle => exact h
  | notified index => exact h
  | releasing index => exact h

/-- The preview thread drops its frame. -/
theorem not_counted_of_drop (h : Inv s) (hheld : s.preview.held = [index]) :
    ¬ Counted s.refCnt s.capture.uncounted { s with preview := .idle : V4L2CameraDevice }.holders := by
  refine h.refs.counted.not_lost (i := index) ?_
  apply List.perm_iff_count.mpr
  intro j
  rw [List.count_cons, count_holders s, hheld, count_holders]
  simp only [PreviewThread.held, List.count_nil, List.count_singleton]
  omega

theorem Inv.keeps_of_notifyPreview (h : Inv s) {mapped sized records : Bool}
    (hbalanced : Balanced (s.notifyPreview mapped sized records)) :
    s.KeepsReferences (.notifyPreview mapped sized records) := by
  simp only [KeepsReferences]
  unfold V4L2CameraDevice.notifyPreview at hbalanced
  cases hpreview : s.preview with
  | dequeued index =>
      have hheld : s.preview.held = [index] := by rw [hpreview]; rfl
      rw [hpreview] at hbalanced
      by_contra hlost
      have hskips : (!mapped || !sized) = true := by
        cases mapped <;> cases sized <;> simp_all
      simp only [hskips, if_true] at hbalanced
      exact not_counted_of_drop h hheld hbalanced.counted
  | idle => trivial
  | notified index => trivial
  | releasing index => trivial

theorem holders_dequeueWindow (hidle : s.preview = .idle) (dequeued : Option Nat) :
    s.holders.Perm (s.dequeueWindow dequeued).holders := by
  unfold dequeueWindow
  cases dequeued with
  | none => exact List.Perm.refl _
  | some index =>
      dsimp only
      split_ifs with hshown
      · apply List.perm_iff_count.mpr
        intro j
        have herase := (List.perm_cons_erase hshown.2).count_eq j
        rw [List.count_cons] at herase
        rw [count_holders s, hidle, count_holders]
        simp only [PreviewThread.held, List.count_nil, List.count_singleton]
        omega
      · exact List.Perm.refl _

theorem dequeueWindow_same (s : V4L2CameraDevice) (dequeued : Option Nat) :
    ((s.dequeueWindow dequeued).mBufferCnt, (s.dequeueWindow dequeued).driver,
      (s.dequeueWindow dequeued).refCnt, (s.dequeueWindow dequeued).capture,
      (s.dequeueWindow dequeued).mCaptureMutex) =
    (s.mBufferCnt, s.driver, s.refCnt, s.capture, s.mCaptureMutex) := by
  unfold dequeueWindow
  cases dequeued with
  | none => rfl
  | some index =>
      dsimp only
      split_ifs <;> rfl

theorem enqueueWindow_preview (s : V4L2CameraDevice) (index : Nat) (enqueued : Bool) :
    (s.enqueueWindow index enqueued).preview = .idle := by
  unfold enqueueWindow
  split_ifs <;> rfl

theorem Inv.onNextFrameAvailable2 (h : Inv s) {enqueued : Bool} {dequeued : Option Nat}
    (hok : s.KeepsReferences (.onNextFrameAvailable2 enqueued dequeued)) :
    Inv (s.onNextFrameAvailable2 enqueued dequeued) := by
  simp only [KeepsReferences] at hok
  unfold V4L2CameraDevice.onNextFrameAvailable2
  cases hpreview : s.preview with
  | notified index =>
      rw [hpreview] at hok
      have hwindow : Inv (s.enqueueWindow index enqueued) := by
        unfold enqueueWindow
        rw [if_pos hok]
        refine h.move ?_ rfl
        apply List.perm_iff_count.mpr
        intro j
        rw [count_holders s, hpreview, count_holders]
        simp only [PreviewThread.held, List.count_append, List.count_nil]
        omega
      have hperm := holders_dequeueWindow (s.enqueueWindow_preview index enqueued) dequeued
      exact hwindow.move hperm (dequeueWindow_same _ dequeued)
  | idle => exact h
  | dequeued index => exact h
  | releasing index => exact h

theorem Inv.keeps_of_onNextFrameAvailable2 (h : Inv s) {enqueued : Bool} {dequeued : Option Nat}
    (hbalanced : Balanced (s.onNextFrameAvailable2 enqueued dequeued)) :
    s.KeepsReferences (.onNextFrameAvailable2 enqueued dequeued) := by
  simp only [KeepsReferences]
  unfold V4L2CameraDevice.onNextFrameAvailable2 at hbalanced
  cases hpreview : s.preview with
  | notified index =>
      have hheld : s.preview.held = [index] := by rw [hpreview]; rfl
      rw [hpreview] at hbalanced
      by_contra hfails
      have hperm := holders_dequeueWindow (s.enqueueWindow_preview index enqueued) dequeued
      have hsame := dequeueWindow_same (s.enqueueWindow index enqueued) dequeued
      simp only [Prod.mk.injEq] at hsame
      have hcounted := hbalanced.counted.perm hperm.symm
      rw [hsame.2.2.1, hsame.2.2.2.1] at hcounted
      unfold enqueueWindow at hcounted
      simp only [hfails, if_false] at hcounted
      exact not_counted_of_drop h hheld hcounted
  | idle => trivial
  | dequeued index => trivial
  | releasing index => trivial

theorem Inv.releasePreview (h : Inv s) : Inv s.releasePreview := by
  unfold V4L2CameraDevice.releasePreview
  cases hpreview : s.preview with
  | releasing index =>
      dsimp only
      split_ifs with hmutex
      · exact h
      · refine h.release (Bool.eq_false_iff.mpr hmutex) ?_ rfl (.inr rfl)
        apply List.perm_iff_count.mpr
        intro j
        rw [List.count_cons, count_holders s, hpreview, count_holders]
        simp only [PreviewThread.held, List.count_nil, List.count_singleton, releasePreviewFrame]
        omega
  | idle => exact h
  | dequeued index => exact h
  | notified index => exact h

theorem Inv.releaseRecordingFrame (h : Inv s) (index : Nat) :
    Inv (s.releaseRecordingFrame index) := by
  unfold V4L2CameraDevice.releaseRecordingFrame
  split_ifs with hmutex hmem
  · exact h
  · refine h.release (Bool.eq_false_iff.mpr hmutex) ?_ rfl (.inr rfl)
    apply List.perm_iff_count.mpr
    intro j
    have herase := (List.perm_cons_erase hmem).count_eq j
    rw [List.count_cons] at herase
    rw [List.count_cons, count_holders s, count_holders]
    simp only [releasePreviewFrame]
    omega
  · exact h

/-! ### The picture threads -/

theorem count_setPicture (s : V4L2CameraDevice) (who : PictureThreadName) (thread : PictureThread)
    (j : Nat) :
    (s.setPicture who thread).holders.count j + (s.picture who).held.count j =
      s.holders.count j + thread.held.count j := by
  rw [count_holders s, count_holders]
  cases who with
  | pictureThread =>
      simp [setPicture, Function.update]
      omega
  | smartPictureThread =>
      simp [setPicture, Function.update]
      omega
  | continuousPictureThread =>
      simp [setPicture, Function.update]
      omega

theorem Inv.dequeuePicture (h : Inv s) (who : PictureThreadName) : Inv (s.dequeuePicture who) := by
  unfold V4L2CameraDevice.dequeuePicture
  split
  next pbuf rest hpicture hqueue =>
    refine h.move ?_ rfl
    apply List.perm_iff_count.mpr
    intro j
    have hset := count_setPicture s who (.encoding pbuf) j
    rw [count_holders (s.setPicture who _)] at hset
    rw [count_holders { s.setPicture who (.encoding pbuf) with mQueueBufferPicture := rest }]
    simp only [hpicture, PictureThread.held, List.count_nil, setPicture, hqueue,
      List.flatMap_cons, List.count_append] at hset ⊢
    omega
  next => exact h

/-- Whether it also ends the taking of pictures or not, the thread goes to release its picture or
drops it. -/
theorem finishPicture_eq {who : PictureThreadName} {pbuf : PictureBuffer}
    (hpicture : s.picture who = .encoding pbuf) (valid stops : Bool) :
    ∃ state, s.finishPicture who valid stops =
      { s.setPicture who (if s.picksRelease valid who then .releasing (s.bufferIndex pbuf) else .idle)
        with mTakePictureState := state } := by
  unfold V4L2CameraDevice.finishPicture
  rw [hpicture]
  have hpicks : picksRelease { s with mTakePictureState := .null } valid who =
      s.picksRelease valid who := by
    cases who <;> rfl
  have hindex : bufferIndex { s with mTakePictureState := .null } pbuf = s.bufferIndex pbuf := by
    cases pbuf <;> rfl
  cases hends : endsPictures valid stops who with
  | true =>
      refine ⟨.null, ?_⟩
      simp only [if_true, hpicks, hindex]
      cases s.picksRelease valid who <;> rfl
  | false =>
      refine ⟨s.mTakePictureState, ?_⟩
      simp only [Bool.false_eq_true, if_false]
      cases s.picksRelease valid who <;> rfl

theorem Inv.finishPicture (h : Inv s) {who : PictureThreadName} {valid stops : Bool}
    (hok : s.KeepsReferences (.finishPicture who valid stops)) :
    Inv (s.finishPicture who valid stops) := by
  simp only [KeepsReferences] at hok
  cases hpicture : s.picture who with
  | encoding pbuf =>
      rw [hpicture] at hok
      obtain ⟨state, heq⟩ := finishPicture_eq hpicture valid stops
      rw [heq]
      refine h.move ?_ rfl
      apply List.perm_iff_count.mpr
      intro j
      have hset := count_setPicture s who
        (if s.picksRelease valid who then .releasing (s.bufferIndex pbuf) else .idle) j
      rw [hpicture] at hset
      change _ = (s.setPicture who _).holders.count j
      cases pbuf with
      | mPicBuffer =>
          have hnot : ¬ s.picksRelease valid who = true := fun hpicks => hok.mp hpicks rfl
          rw [if_neg hnot] at hset ⊢
          simp only [PictureThread.held, PictureBuffer.held, List.count_nil] at hset
          omega
      | mV4l2buf index =>
          have hpicks : s.picksRelease valid who = true := hok.mpr (by simp)
          rw [if_pos hpicks] at hset ⊢
          simp only [PictureThread.held, PictureBuffer.held, bufferIndex] at hset ⊢
          omega
  | idle =>
      unfold V4L2CameraDevice.finishPicture
      rw [hpicture]
      exact h
  | releasing index =>
      unfold V4L2CameraDevice.finishPicture
      rw [hpicture]
      exact h

theorem Inv.keeps_of_finishPicture (h : Inv s) {who : PictureThreadName} {valid stops : Bool}
    (hbalanced : Balanced (s.finishPicture who valid stops)) :
    s.KeepsReferences (.finishPicture who valid stops) := by
  simp only [KeepsReferences]
  cases hpicture : s.picture who with
  | encoding pbuf =>
      obtain ⟨state, heq⟩ := finishPicture_eq hpicture valid stops
      rw [heq] at hbalanced
      have hcounted : Counted s.refCnt s.capture.uncounted (s.setPicture who
        (if s.picksRelease valid who then .releasing (s.bufferIndex pbuf) else .idle)).holders :=
        hbalanced.counted
      have hset := count_setPicture s who
        (if s.picksRelease valid who then .releasing (s.bufferIndex pbuf) else .idle)
      rw [hpicture] at hset
      cases pbuf with
      | mPicBuffer =>
          -- a release of the copy takes a reference away that the thread does not have
          refine ⟨fun hpicks => ?_, fun hne => absurd rfl hne⟩
          rw [if_pos hpicks] at hset hcounted
          refine absurd hcounted (h.refs.counted.not_gained (i := s.mPicBufferIndex) ?_)
          apply List.perm_iff_count.mpr
          intro j
          have hj := hset j
          simp only [PictureThread.held, PictureBuffer.held, bufferIndex, List.count_nil,
            List.count_singleton] at hj
          rw [List.count_cons]
          exact hj
      | mV4l2buf index =>
          refine ⟨fun _ => by simp, fun _ => ?_⟩
          by_contra hpicks
          rw [if_neg hpicks] at hset hcounted
          refine h.refs.counted.not_lost (i := index) ?_ hcounted
          apply List.perm_iff_count.mpr
          intro j
          have hj := hset j
          simp only [PictureThread.held, PictureBuffer.held, List.count_nil,
            List.count_singleton] at hj
          rw [List.count_cons]
          omega
  | idle => trivial
  | releasing index => trivial

theorem Inv.releasePicture (h : Inv s) (who : PictureThreadName) : Inv (s.releasePicture who) := by
  unfold V4L2CameraDevice.releasePicture
  cases hpicture : s.picture who with
  | releasing index =>
      dsimp only
      split_ifs with hmutex
      · exact h
      · refine h.release (Bool.eq_false_iff.mpr hmutex) ?_ rfl (.inr rfl)
        apply List.perm_iff_count.mpr
        intro j
        have hset := count_setPicture s who .idle j
        rw [hpicture] at hset
        simp only [PictureThread.held, List.count_nil, List.count_singleton] at hset
        rw [List.count_cons]
        change _ = (s.setPicture who .idle).holders.count j + _
        omega
  | idle => exact h
  | encoding pbuf => exact h

/-! ## Every run -/

theorem Inv.step (h : Inv s) {e : Event} (hok : s.KeepsReferences e) : Inv (s.step e) := by
  cases e with
  | captureStep found => exact h.captureStep hok
  | dequeuePreview => exact h.dequeuePreview
  | notifyPreview mapped sized records => exact h.notifyPreview hok
  | onNextFrameAvailable2 enqueued dequeued => exact h.onNextFrameAvailable2 hok
  | releasePreview => exact h.releasePreview
  | releaseRecordingFrame index => exact h.releaseRecordingFrame index
  | dequeuePicture who => exact h.dequeuePicture who
  | finishPicture who valid stops => exact h.finishPicture hok
  | releasePicture who => exact h.releasePicture who
  | setTakePictureState state =>
      simp only [V4L2CameraDevice.step, setTakePictureState]
      split_ifs
      · exact h
      · exact ⟨h.refs, h.mutex⟩
  | setCaptureThreadState state =>
      simp only [V4L2CameraDevice.step, setCaptureThreadState]
      split_ifs
      · exact h
      · exact ⟨h.refs, h.mutex⟩

theorem Inv.keeps_of_balanced (h : Inv s) {e : Event} (hbalanced : Balanced (s.step e)) :
    s.KeepsReferences e := by
  cases e with
  | captureStep found => exact h.keeps_of_captureStep hbalanced
  | notifyPreview mapped sized records => exact h.keeps_of_notifyPreview hbalanced
  | onNextFrameAvailable2 enqueued dequeued => exact h.keeps_of_onNextFrameAvailable2 hbalanced
  | finishPicture who valid stops => exact h.keeps_of_finishPicture hbalanced
  | dequeuePreview => trivial
  | releasePreview => trivial
  | releaseRecordingFrame index => trivial
  | dequeuePicture who => trivial
  | releasePicture who => trivial
  | setTakePictureState state => trivial
  | setCaptureThreadState state => trivial

/-- The counts agree with the holders throughout a run, every frame goes back to the driver once, with
its last holder, and every pass of `captureThread` leaves the mutex free, exactly when no step loses
a reference or releases one that it does not have. -/
theorem references_balanced_iff (NB_BUFFER mBufferCnt min_undequeued_num : Nat)
    (events : List Event) :
    (∀ past, past <+: events →
      Balanced (past.foldl step (started NB_BUFFER mBufferCnt min_undequeued_num))) ↔
    Guarded step (fun _ s e => s.KeepsReferences e)
      (started NB_BUFFER mBufferCnt min_undequeued_num) events := by
  apply forall_prefix_iff_guarded_of_invariant (fun _ s => Inv s)
  · exact inv_started NB_BUFFER mBufferCnt min_undequeued_num
  · exact fun _ _ h => h.balanced
  · exact fun _ _ _ h hok => h.step hok
  · exact fun _ _ _ h hbalanced => h.keeps_of_balanced hbalanced

/-- No memory for the copy of a picture: the pass ends with the mutex and the reference. -/
theorem reference_and_mutex_lost :
    let s := [.setTakePictureState .normal, .captureStep {}, .captureStep { allocated := false }].foldl
      step (started 6 6 2)
    s.capture = .idle ∧ s.mCaptureMutex = true ∧ s.refCnt 0 = 1 ∧ s.holders = [] ∧
      s.driver = [1, 2, 3, 4, 5] ∧ ¬ s.Balanced := by
  refine ⟨by decide, by decide, by decide, by decide, by decide, ?_⟩
  intro hbalanced
  exact absurd (hbalanced.unlocked (by decide)) (by decide)

end V4L2CameraDevice

end AwHal.Camera
