import Mathlib.Logic.Function.Basic
import AwHal.Lib.GuardedRun

/-!
# Requests in flight in `V4L2Camera`

`enqueueRequest` queues the requests of the framework in `rfequest_queue_stream_`, and
`sResultCallback` completes them.  A request that is finished before the one at the front is parked
in `wfequest_queue_stream_`.  `in_flight_buffer_count` is kept beside the queue, and a request that
makes it greater than `MAX_BUFFER_NUM` has to wait for `tbuffers_in_flight_`.
-/

namespace AwHal.Camera

open AwHal.Lib Function

def MAX_BUFFER_NUM : Nat := 3

def MAX_STREAM_NUM : Nat := 3

/-- `STREAM_SERIAL`, without the two values that are no stream. -/
inductive StreamSerial where
  | main
  | mainBlob
  | sub0
  | sub0Blob
  | mainMirror
  | mainMirrorBlob
  | sub0Mirror
  | sub0MirrorBlob
deriving DecidableEq, Repr

/-- A `CaptureRequest`: its frame number and the stream of each output buffer. -/
structure CaptureRequest where
  frame_number : Nat
  output_buffers : List StreamSerial
deriving DecidableEq, Repr

structure V4L2Camera where
  rfequest_queue_stream : List CaptureRequest := []
  wfequest_queue_stream : List CaptureRequest := []
  mMapFrameNumRequest : Nat → Option CaptureRequest := fun _ => none
  in_flight_buffer_count : Int := 0
  -- the request whose `enqueueRequest` waits, and whether it has been notified
  waiting : Option (CaptureRequest × Bool) := none
  -- the calls of `completeRequest`, in order
  completed : List CaptureRequest := []

namespace V4L2Camera

def notify (c : V4L2Camera) : V4L2Camera :=
  { c with waiting := c.waiting.map fun w => (w.1, true) }

/-- The rest of the first critical section of `enqueueRequest`.  `emplace` keeps an entry that is
there. -/
def push (c : V4L2Camera) (request : CaptureRequest) : V4L2Camera :=
  { c with
    mMapFrameNumRequest :=
      match c.mMapFrameNumRequest request.frame_number with
      | none => update c.mMapFrameNumRequest request.frame_number (some request)
      | some _ => c.mMapFrameNumRequest
    rfequest_queue_stream := c.rfequest_queue_stream ++ [request]
    waiting := none }

/-- `enqueueRequest` up to the wait.  The framework makes one call at a time. -/
def enqueueRequest (c : V4L2Camera) (request : CaptureRequest) : V4L2Camera :=
  if c.waiting ≠ none then c
  else
    let c := { c with in_flight_buffer_count := c.in_flight_buffer_count + 1 }
    if (MAX_BUFFER_NUM : Int) < c.in_flight_buffer_count then
      { c with waiting := some (request, false) }
    else c.push request

/-- The wait returns, notified or not; the count is not tested again. -/
def wake (c : V4L2Camera) : V4L2Camera :=
  match c.waiting with
  | none => c
  | some (request, _) => c.push request

def complete (c : V4L2Camera) (request : CaptureRequest) (rest : List CaptureRequest) :
    V4L2Camera :=
  { c.notify with
    in_flight_buffer_count := c.in_flight_buffer_count - 1
    completed := c.completed ++ [request]
    rfequest_queue_stream := rest }

def drain (c : V4L2Camera) : List CaptureRequest → V4L2Camera
  | [] => { c with wfequest_queue_stream := [] }
  | w :: parked =>
      match c.rfequest_queue_stream with
      | r :: rest =>
          if r.frame_number = w.frame_number then (c.complete w rest).drain parked
          else { c with wfequest_queue_stream := w :: parked }
      -- the source reads `front()` of a queue that is empty
      | [] => { c with wfequest_queue_stream := w :: parked }

def sResultCallback (c : V4L2Camera) (frameNumber : Nat) : V4L2Camera :=
  match c.mMapFrameNumRequest frameNumber with
  | none => c
  | some request =>
      let c' :=
        match c.rfequest_queue_stream with
        | [] => c
        | front :: rest =>
            if front.frame_number ≠ frameNumber then
              { c with wfequest_queue_stream := c.wfequest_queue_stream ++ [request] }
            else (c.complete request rest).drain c.wfequest_queue_stream
      { c' with mMapFrameNumRequest := update c'.mMapFrameNumRequest frameNumber none }

/-- `setupStreams` empties the queues and leaves the count.  `configureStreams` holds `mFlushLock`,
which `processCaptureRequest` holds while it waits. -/
def setupStreams (c : V4L2Camera) (num_streams : Nat) : V4L2Camera :=
  if num_streams < 1 ∨ MAX_STREAM_NUM < num_streams then c
  else if c.waiting ≠ none then c
  else { c with
    wfequest_queue_stream := []
    rfequest_queue_stream := []
    mMapFrameNumRequest := fun _ => none }

/-- `disconnect` resets the count and leaves the queues. -/
def disconnect (c : V4L2Camera) : V4L2Camera :=
  { c with in_flight_buffer_count := 0 }

/-! ## Back-pressure -/

inductive Call where
  | enqueueRequest (request : CaptureRequest)
  | wake
  | sResultCallback (frameNumber : Nat)
  | setupStreams (num_streams : Nat)
  | disconnect
deriving DecidableEq, Repr

def step (c : V4L2Camera) : Call → V4L2Camera
  | .enqueueRequest request => c.enqueueRequest request
  | .wake => c.wake
  | .sResultCallback frameNumber => c.sResultCallback frameNumber
  | .setupStreams num_streams => c.setupStreams num_streams
  | .disconnect => c.disconnect

/-- With no request waiting the count is the number of requests that are queued; it is not negative;
and a request waits only while `MAX_BUFFER_NUM` others are queued, or has been notified. -/
def Counts (c : V4L2Camera) : Prop :=
  (c.waiting = none → c.in_flight_buffer_count = c.rfequest_queue_stream.length) ∧
    0 ≤ c.in_flight_buffer_count ∧
    (∀ w ∈ c.waiting, w.2 = false → MAX_BUFFER_NUM ≤ c.rfequest_queue_stream.length)

def CountsOn (c : V4L2Camera) : Prop :=
  c.Counts ∧ c.wake.Counts

/-- Streams are set up, and the device is closed, only with no request queued; and it is not closed
while a request waits. -/
def Idle (c : V4L2Camera) : Call → Prop
  | .setupStreams num_streams =>
      1 ≤ num_streams → num_streams ≤ MAX_STREAM_NUM → c.waiting = none →
        c.rfequest_queue_stream = []
  | .disconnect => c.rfequest_queue_stream = [] ∧ c.waiting = none
  | _ => True

instance (c : V4L2Camera) : Decidable c.Counts :=
  inferInstanceAs (Decidable (_ ∧ _ ∧ ∀ w ∈ c.waiting, _))

instance (c : V4L2Camera) : Decidable c.CountsOn :=
  inferInstanceAs (Decidable (_ ∧ _))

instance (c : V4L2Camera) : (e : Call) → Decidable (c.Idle e)
  | .setupStreams _ => inferInstanceAs (Decidable (_ → _ → _ → _))
  | .disconnect => inferInstanceAs (Decidable (_ ∧ _))
  | .enqueueRequest _ => inferInstanceAs (Decidable True)
  | .wake => inferInstanceAs (Decidable True)
  | .sResultCallback _ => inferInstanceAs (Decidable True)

/-- A request that waits is counted but not queued. -/
structure Inv (c : V4L2Camera) : Prop where
  running : c.waiting = none → c.in_flight_buffer_count = c.rfequest_queue_stream.length
  blocked : ∀ w ∈ c.waiting, c.in_flight_buffer_count = c.rfequest_queue_stream.length + 1
  full : ∀ w ∈ c.waiting, w.2 = false → MAX_BUFFER_NUM ≤ c.rfequest_queue_stream.length

theorem Inv.nonneg {c : V4L2Camera} (h : c.Inv) : 0 ≤ c.in_flight_buffer_count := by
  cases hw : c.waiting with
  | none =>
      have := h.running hw
      omega
  | some w =>
      have := h.blocked w hw
      omega

theorem Inv.counts {c : V4L2Camera} (h : c.Inv) : c.Counts :=
  ⟨h.running, h.nonneg, h.full⟩

theorem push_inv {c : V4L2Camera} {request : CaptureRequest}
    (h : c.in_flight_buffer_count = c.rfequest_queue_stream.length + 1) :
    (c.push request).Inv where
  running := by
    intro _
    simpa [push] using h
  blocked := fun _ hw => by simp [push] at hw
  full := fun _ hw => by simp [push] at hw

theorem Inv.wake {c : V4L2Camera} (h : c.Inv) : c.wake.Inv := by
  unfold V4L2Camera.wake
  split
  · exact h
  · rename_i request notified hw
    exact push_inv (h.blocked _ hw)

theorem Inv.enqueueRequest {c : V4L2Camera} (h : c.Inv) (request : CaptureRequest) :
    (c.enqueueRequest request).Inv := by
  unfold V4L2Camera.enqueueRequest
  split
  · exact h
  · rename_i hw
    have hcount := h.running (not_not.mp hw)
    dsimp only
    split
    · rename_i hlt
      refine ⟨?_, ?_, ?_⟩
      · intro hnone
        cases hnone
      · intro w _
        dsimp only
        omega
      · intro w _ _
        dsimp only at hlt ⊢
        omega
    · exact push_inv (by dsimp only; omega)

/-! ## Completing requests -/

def excess (c : V4L2Camera) : Int :=
  c.in_flight_buffer_count - c.rfequest_queue_stream.length

theorem drain_excess (c : V4L2Camera) (parked : List CaptureRequest) :
    (c.drain parked).excess = c.excess := by
  induction parked generalizing c with
  | nil => rfl
  | cons w parked ih =>
      unfold drain
      split
      · rename_i r rest hr
        split
        · rw [ih]
          simp only [excess, complete, hr, List.length_cons]
          omega
        · rfl
      · rfl

theorem drain_waiting {c : V4L2Camera} (h : c.notify = c) (parked : List CaptureRequest) :
    (c.drain parked).waiting = c.waiting := by
  have hwaiting : c.waiting.map (fun w => (w.1, true)) = c.waiting :=
    congrArg V4L2Camera.waiting h
  induction parked generalizing c with
  | nil => rfl
  | cons w parked ih =>
      unfold drain
      split
      · rename_i r rest hr
        split
        · have hnext : (c.complete w rest).waiting = c.waiting := hwaiting
          rw [ih, hnext]
          · simp only [notify, hnext, hwaiting]
            simp [complete, notify, hwaiting]
          · rw [hnext]
            exact hwaiting
        · rfl
      · rfl

theorem Inv.sResultCallback {c : V4L2Camera} (h : c.Inv) (frameNumber : Nat) :
    (c.sResultCallback frameNumber).Inv := by
  unfold V4L2Camera.sResultCallback
  split
  · exact h
  · rename_i request _
    dsimp only
    split
    · exact ⟨h.running, h.blocked, h.full⟩
    · rename_i front rest hr
      split
      · exact ⟨h.running, h.blocked, h.full⟩
      · -- the request at the front is completed, and parked ones after it
        have hnotify : (c.complete request rest).notify = c.complete request rest := by
          simp only [notify, complete, Option.map_map, Function.comp_def]
        have hexcess : ((c.complete request rest).drain c.wfequest_queue_stream).excess =
            c.excess := by
          rw [drain_excess]
          simp only [excess, complete, hr, List.length_cons]
          omega
        have hwaiting : ((c.complete request rest).drain c.wfequest_queue_stream).waiting =
            c.waiting.map fun w => (w.1, true) := by
          rw [drain_waiting hnotify]
          rfl
        simp only [excess] at hexcess
        refine ⟨?_, ?_, ?_⟩
        · intro hnone
          dsimp only at hnone ⊢
          rw [hwaiting, Option.map_eq_none_iff] at hnone
          have hcount := h.running hnone
          omega
        · intro w hw
          dsimp only at hw ⊢
          rw [hwaiting, Option.mem_def, Option.map_eq_some_iff] at hw
          obtain ⟨w', hw', -⟩ := hw
          have hcount := h.blocked w' hw'
          omega
        · intro w hw hfalse
          dsimp only at hw
          rw [hwaiting, Option.mem_def, Option.map_eq_some_iff] at hw
          obtain ⟨w', -, rfl⟩ := hw
          cases hfalse

/-! ## Runs -/

theorem Inv.step {c : V4L2Camera} (h : c.Inv) {e : Call} (hidle : c.Idle e) : (c.step e).Inv := by
  cases e with
  | enqueueRequest request => exact h.enqueueRequest request
  | wake => exact h.wake
  | sResultCallback frameNumber => exact h.sResultCallback frameNumber
  | setupStreams num_streams =>
      simp only [V4L2Camera.step, V4L2Camera.setupStreams]
      split
      · exact h
      · rename_i hnum
        rw [not_or] at hnum
        split
        · exact h
        · rename_i hw
          have hnone := not_not.mp hw
          have hcount := h.running hnone
          rw [hidle (by omega) (by omega) hnone] at hcount
          exact ⟨fun _ => hcount, fun w hw' => by simp [hnone] at hw',
            fun w hw' => by simp [hnone] at hw'⟩
  | disconnect =>
      obtain ⟨hempty, hnone⟩ := hidle
      refine ⟨?_, ?_, ?_⟩
      · intro _
        simp [V4L2Camera.step, disconnect, hempty]
      · intro w hw
        simp [V4L2Camera.step, disconnect, hnone] at hw
      · intro w hw
        simp [V4L2Camera.step, disconnect, hnone] at hw

/-- Requests that are dropped from the queue stay counted, and a count that is reset forgets requests
that stay in the queue or are about to enter it. -/
theorem Inv.idle {c : V4L2Camera} (h : c.Inv) {e : Call} (hcounts : (c.step e).CountsOn) :
    c.Idle e := by
  cases e with
  | enqueueRequest request => trivial
  | wake => trivial
  | sResultCallback frameNumber => trivial
  | setupStreams num_streams =>
      intro hpos hle hnone
      have hcount := h.running hnone
      have hstep : c.step (.setupStreams num_streams) =
          { c with
            wfequest_queue_stream := []
            rfequest_queue_stream := []
            mMapFrameNumRequest := fun _ => none } := by
        have hnum : ¬ (num_streams < 1 ∨ MAX_STREAM_NUM < num_streams) := by omega
        simp only [V4L2Camera.step, V4L2Camera.setupStreams]
        rw [if_neg hnum, if_neg (not_not.mpr hnone)]
      rw [hstep] at hcounts
      have hzero : c.in_flight_buffer_count = 0 := hcounts.1.1 hnone
      rw [hzero] at hcount
      exact List.eq_nil_of_length_eq_zero (by omega)
  | disconnect =>
      cases hw : c.waiting with
      | none =>
          have hzero : (0 : Int) = c.rfequest_queue_stream.length := hcounts.1.1 hw
          exact ⟨List.eq_nil_of_length_eq_zero (by omega), hw⟩
      | some w =>
          -- the request that waits enters the queue uncounted
          have hwake := hcounts.2.1
          simp only [V4L2Camera.step, disconnect, V4L2Camera.wake, hw, push,
            List.length_append, List.length_singleton, forall_const] at hwake
          omega

/-- The count follows the queue in every state of a run exactly when streams are only set up, and the
device is only closed, with no request queued, and it is not closed while a request waits. -/
theorem in_flight_buffer_count_iff (calls : List Call) :
    Guarded step (fun _ c e => (c.step e).CountsOn) {} calls ↔
      Guarded step (fun _ c e => c.Idle e) {} calls := by
  apply guarded_congr fun _ c => c.Inv
  · exact ⟨fun _ => rfl, fun _ hw => (by cases hw), fun _ hw => (by cases hw)⟩
  · intro _ c e h hcounts
    exact h.step (h.idle hcounts)
  · intro _ c e h
    refine ⟨h.idle, fun hidle => ?_⟩
    have hnext := h.step hidle
    exact ⟨hnext.counts, hnext.wake.counts⟩

/-- Three requests are queued when the streams are set up again: the next request waits although
none is queued, and nothing is left to notify it. -/
theorem in_flight_buffer_count_kept_by_setupStreams :
    ¬ Guarded step (fun _ c e => (c.step e).CountsOn) {}
        [.enqueueRequest ⟨1, [.main]⟩, .enqueueRequest ⟨2, [.main]⟩, .enqueueRequest ⟨3, [.main]⟩,
          .setupStreams 1, .enqueueRequest ⟨4, [.main]⟩] ∧
      ¬ Counts ([.enqueueRequest ⟨1, [.main]⟩, .enqueueRequest ⟨2, [.main]⟩,
          .enqueueRequest ⟨3, [.main]⟩, .setupStreams 1,
          .enqueueRequest ⟨4, [.main]⟩].foldl step {}) := by
  decide

end V4L2Camera

end AwHal.Camera
