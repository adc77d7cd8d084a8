import Mathlib.Algebra.BigOperators.Group.Finset.Basic
import Mathlib.Data.Fintype.Basic
import AwHal.Camera.V4L2Camera

/-!
# Capture results

A request is finished once all of its output buffers have been filled.  `StreamManager` counts the
buffers of each frame that are still to be filled in `mMapFrameNumRef`; the threads that dequeue the
streams fill them, one stream independently of another, and report the frame to the camera when its
count is down to zero.
-/

namespace AwHal.Camera

open AwHal.Lib Function

instance : Fintype StreamSerial where
  elems := {.main, .mainBlob, .sub0, .sub0Blob, .mainMirror, .mainMirrorBlob, .sub0Mirror,
    .sub0MirrorBlob}
  complete := by
    intro s
    cases s <;> decide

/-! ## The stream manager -/

def markFrameNumber (mMapFrameNumRef : Nat → Option Int) (frameNumber : Nat) :
    (Nat → Option Int) × Int :=
  match mMapFrameNumRef frameNumber with
  | none => (update mMapFrameNumRef frameNumber (some 1), 0)
  | some refcnt =>
      if refcnt < 1 then (update mMapFrameNumRef frameNumber none, -19)
      else (update mMapFrameNumRef frameNumber (some (refcnt + 1)), 0)

/-- The loop of `enqueueRequest` that marks the frame once for each of `k` buffers and gives up at the
first failure. -/
def markBuffers (frameNumber : Nat) : Nat → (Nat → Option Int) → (Nat → Option Int) × Bool
  | 0, m => (m, true)
  | k + 1, m =>
      let (m, res) := markFrameNumber m frameNumber
      if res ≠ 0 then (m, false) else markBuffers frameNumber k m

/-- `CameraStream::request` for each output buffer: every stream has a queue of its own. -/
def requestBuffers (queues : StreamSerial → List Nat) (request : CaptureRequest) :
    StreamSerial → List Nat :=
  request.output_buffers.foldl
    (fun queues stream => update queues stream (queues stream ++ [request.frame_number])) queues

/-- The camera, its stream manager and the queues of the streams; and, as a record of the run, the
requests that were submitted and the number of buffers of each frame that were reported. -/
structure Capture where
  camera : V4L2Camera := {}
  mMapFrameNumRef : Nat → Option Int := fun _ => none
  queues : StreamSerial → List Nat := fun _ => []
  submitted : List CaptureRequest := []
  reported : Nat → Nat := fun _ => 0

namespace Capture

def issue (s : Capture) (request : CaptureRequest) : Capture :=
  let (ref, ok) :=
    markBuffers request.frame_number request.output_buffers.length s.mMapFrameNumRef
  if ok then { s with mMapFrameNumRef := ref, queues := requestBuffers s.queues request }
  else { s with mMapFrameNumRef := ref }

/-- A call of `enqueueRequest`, up to the wait or to its end. -/
def enqueueRequest (s : Capture) (request : CaptureRequest) : Capture :=
  if s.camera.waiting ≠ none then s
  else
    let s := { s with
      camera := s.camera.enqueueRequest request
      submitted := s.submitted ++ [request] }
    if s.camera.waiting = none then s.issue request else s

def wake (s : Capture) : Capture :=
  match s.camera.waiting with
  | none => s
  | some (request, _) => { s with camera := s.camera.wake }.issue request

def resultCallback (s : Capture) (frameNumber : Nat) : Capture :=
  match s.mMapFrameNumRef frameNumber with
  | none => s
  | some refcnt =>
      if refcnt - 1 = 0 then
        { s with
          mMapFrameNumRef := update s.mMapFrameNumRef frameNumber none
          camera := s.camera.sResultCallback frameNumber }
      else
        { s with mMapFrameNumRef := update s.mMapFrameNumRef frameNumber (some (refcnt - 1)) }

def dequeue (s : Capture) (stream : StreamSerial) : Capture :=
  match s.queues stream with
  | [] => s
  | frameNumber :: rest =>
      { s with
        queues := update s.queues stream rest
        reported := update s.reported frameNumber (s.reported frameNumber + 1) }.resultCallback
        frameNumber

inductive Event where
  | enqueueRequest (request : CaptureRequest)
  | wake
  | dequeue (stream : StreamSerial)
deriving DecidableEq, Repr

def step (s : Capture) : Event → Capture
  | .enqueueRequest request => s.enqueueRequest request
  | .wake => s.wake
  | .dequeue stream => s.dequeue stream

/-- Frame numbers increase, and a request has output buffers. -/
def Valid (s : Capture) : Event → Prop
  | .enqueueRequest request => s.camera.waiting = none →
      (∀ r ∈ s.submitted, r.frame_number < request.frame_number) ∧ request.output_buffers ≠ []
  | _ => True

/-- Requests are completed in the order in which they were submitted, each once, and only when all
of their buffers have been reported. -/
def CompletesInOrder (s : Capture) : Prop :=
  s.camera.completed <+: s.submitted ∧ s.camera.completed.Nodup ∧
    ∀ r ∈ s.camera.completed, s.reported r.frame_number = r.output_buffers.length

def AllReported (s : Capture) : Prop :=
  ∀ r ∈ s.submitted, s.reported r.frame_number = r.output_buffers.length

def Empty (s : Capture) : Prop :=
  s.camera.completed = s.submitted ∧ s.camera.rfequest_queue_stream = [] ∧
    s.camera.wfequest_queue_stream = [] ∧ (∀ f, s.camera.mMapFrameNumRequest f = none) ∧
    ∀ f, s.mMapFrameNumRef f = none

/-- A frame that is finished before the oldest one is newer than all that are parked already. -/
def ParksInOrder (s : Capture) : Event → Prop
  | .dequeue stream =>
      ∀ f ∈ (s.queues stream).head?, s.mMapFrameNumRef f = some 1 →
        (∃ r ∈ s.camera.rfequest_queue_stream.head?, r.frame_number = f) ∨
          ∀ w ∈ s.camera.wfequest_queue_stream, w.frame_number < f
  | _ => True

end Capture

/-! ## Lists of requests with increasing frame numbers -/

def Increasing (l : List CaptureRequest) : Prop :=
  l.Pairwise fun a b => a.frame_number < b.frame_number

theorem Increasing.nodup {l : List CaptureRequest} (h : Increasing l) : l.Nodup :=
  h.imp fun hlt heq => absurd (congrArg CaptureRequest.frame_number heq) (Nat.ne_of_lt hlt)

theorem Increasing.eq_of_frame_number {l : List CaptureRequest} (h : Increasing l)
    {a b : CaptureRequest} (ha : a ∈ l) (hb : b ∈ l) (heq : a.frame_number = b.frame_number) :
    a = b := by
  have hnodup : (l.map CaptureRequest.frame_number).Nodup := by
    rw [List.nodup_iff_pairwise_ne, List.pairwise_map]
    exact h.imp Nat.ne_of_lt
  exact List.inj_on_of_nodup_map hnodup ha hb heq

theorem Increasing.le_of_cons {r w : CaptureRequest} {l : List CaptureRequest}
    (h : Increasing (r :: l)) (hw : w ∈ r :: l) : r.frame_number ≤ w.frame_number := by
  rcases List.mem_cons.mp hw with rfl | hw
  · exact Nat.le_refl _
  · exact Nat.le_of_lt (List.rel_of_pairwise_cons h hw)

namespace V4L2Camera

/-- The parked requests that the loop completes are a prefix of both queues, and it stops where they
differ. -/
theorem drain_spec (c : V4L2Camera) (parked : List CaptureRequest)
    (hinc : Increasing c.rfequest_queue_stream)
    (hsub : ∀ w ∈ parked, w ∈ c.rfequest_queue_stream) (hnodup : parked.Nodup) :
    ∃ ps, parked = ps ++ (c.drain parked).wfequest_queue_stream ∧
      c.rfequest_queue_stream = ps ++ (c.drain parked).rfequest_queue_stream ∧
      (c.drain parked).completed = c.completed ++ ps ∧
      (c.drain parked).mMapFrameNumRequest = c.mMapFrameNumRequest ∧
      (c.drain parked).waiting.map Prod.fst = c.waiting.map Prod.fst ∧
      ∀ w ∈ (c.drain parked).wfequest_queue_stream.head?,
        ∀ r ∈ (c.drain parked).rfequest_queue_stream.head?, r ≠ w := by
  induction parked generalizing c with
  | nil => exact ⟨[], rfl, rfl, by simp [drain], rfl, rfl, fun w hw => by simp [drain] at hw⟩
  | cons w parked ih =>
      cases hr : c.rfequest_queue_stream with
      | nil =>
          have := hsub w (by simp)
          simp [hr] at this
      | cons r rest =>
          rw [hr] at hinc hsub
          by_cases heq : r.frame_number = w.frame_number
          · have hrw : r = w := hinc.eq_of_frame_number (by simp) (hsub w (by simp)) heq
            subst hrw
            have hdrain : c.drain (r :: parked) = (c.complete r rest).drain parked := by
              simp [drain, hr]
            obtain ⟨hnot, hparked⟩ := List.nodup_cons.mp hnodup
            have hsub' : ∀ w ∈ parked, w ∈ rest := by
              intro w hw
              refine (List.mem_cons.mp (hsub w (List.mem_cons_of_mem r hw))).resolve_left ?_
              rintro rfl
              exact hnot hw
            obtain ⟨ps, hwf, hrf, hcompleted, hmap, hwaiting, hstop⟩ :=
              ih (c.complete r rest) (List.Pairwise.of_cons hinc) hsub' hparked
            rw [hdrain]
            refine ⟨r :: ps, ?_, ?_, ?_, hmap, ?_, hstop⟩
            · rw [List.cons_append, ← hwf]
            · rw [List.cons_append, ← hrf]
              rfl
            · rw [hcompleted]
              simp [complete]
            · rw [hwaiting]
              simp [complete, notify, Function.comp_def]
          · have hdrain : c.drain (w :: parked) =
                { c with wfequest_queue_stream := w :: parked } := by simp [drain, hr, heq]
            rw [hdrain]
            refine ⟨[], rfl, hr.symm ▸ rfl, by simp, rfl, rfl, ?_⟩
            intro w' hw' r' hr'
            simp only [hr, List.head?_cons, Option.mem_def, Option.some.injEq] at hw' hr'
            subst hw' hr'
            exact fun h => heq (congrArg _ h)

/-- A request that is finished is parked or completed, and parked ones with it. -/
theorem sResultCallback_spec {c : V4L2Camera} {r : CaptureRequest}
    (hinc : Increasing c.rfequest_queue_stream)
    (hsub : ∀ w ∈ c.wfequest_queue_stream, w ∈ c.rfequest_queue_stream)
    (hnodup : c.wfequest_queue_stream.Nodup) (hr : r ∈ c.rfequest_queue_stream)
    (hnot : r ∉ c.wfequest_queue_stream) (hmap : c.mMapFrameNumRequest r.frame_number = some r) :
    let c' := c.sResultCallback r.frame_number
    c'.mMapFrameNumRequest = update c.mMapFrameNumRequest r.frame_number none ∧
      c'.waiting.map Prod.fst = c.waiting.map Prod.fst ∧
      ((c.rfequest_queue_stream.head? ≠ some r ∧
          c'.rfequest_queue_stream = c.rfequest_queue_stream ∧ c'.completed = c.completed ∧
          c'.wfequest_queue_stream = c.wfequest_queue_stream ++ [r]) ∨
        ∃ ps, c.rfequest_queue_stream = r :: (ps ++ c'.rfequest_queue_stream) ∧
          c'.completed = c.completed ++ r :: ps ∧
          c.wfequest_queue_stream = ps ++ c'.wfequest_queue_stream ∧
          ∀ w ∈ c'.wfequest_queue_stream.head?, ∀ q ∈ c'.rfequest_queue_stream.head?, q ≠ w) := by
  dsimp only
  cases hrf : c.rfequest_queue_stream with
  | nil => simp [hrf] at hr
  | cons q rest =>
      rw [hrf] at hinc hr hsub
      by_cases hq : q.frame_number = r.frame_number
      · have hqr : q = r := hinc.eq_of_frame_number (by simp) hr hq
        subst hqr
        have hsub' : ∀ w ∈ c.wfequest_queue_stream, w ∈ rest := by
          intro w hw
          refine (List.mem_cons.mp (hsub w hw)).resolve_left ?_
          rintro rfl
          exact hnot hw
        obtain ⟨ps, hwf, hrest, hcompleted, hmap', hwaiting, hstop⟩ :=
          (c.complete q rest).drain_spec c.wfequest_queue_stream (List.Pairwise.of_cons hinc) hsub'
            hnodup
        have hcallback : c.sResultCallback q.frame_number =
            { (c.complete q rest).drain c.wfequest_queue_stream with
              mMapFrameNumRequest := update ((c.complete q rest).drain
                c.wfequest_queue_stream).mMapFrameNumRequest q.frame_number none } := by
          simp [sResultCallback, hmap, hrf]
        rw [hcallback]
        refine ⟨?_, ?_, Or.inr ⟨ps, ?_, ?_, hwf, hstop⟩⟩
        · rw [hmap']
          rfl
        · dsimp only
          rw [hwaiting]
          simp [complete, notify, Function.comp_def]
        · exact congrArg (q :: ·) hrest
        · dsimp only
          rw [hcompleted]
          simp [complete]
      · have hcallback : c.sResultCallback r.frame_number =
            { c with
              wfequest_queue_stream := c.wfequest_queue_stream ++ [r]
              mMapFrameNumRequest := update c.mMapFrameNumRequest r.frame_number none } := by
          simp [sResultCallback, hmap, hrf, hq]
        rw [hcallback]
        refine ⟨rfl, rfl, Or.inl ⟨?_, hrf, rfl, rfl⟩⟩
        rw [List.head?_cons, ne_eq, Option.some.injEq]
        rintro rfl
        exact hq rfl

/-- Where the requests are afterwards: only requests that are finished leave the queue, and those that
stay and are finished are parked. -/
theorem sResultCallback_sets {c : V4L2Camera} {r : CaptureRequest}
    (hinc : Increasing c.rfequest_queue_stream)
    (hsub : ∀ w ∈ c.wfequest_queue_stream, w ∈ c.rfequest_queue_stream)
    (hnodup : c.wfequest_queue_stream.Nodup) (hr : r ∈ c.rfequest_queue_stream)
    (hnot : r ∉ c.wfequest_queue_stream) (hmap : c.mMapFrameNumRequest r.frame_number = some r) :
    let c' := c.sResultCallback r.frame_number
    c'.completed ++ c'.rfequest_queue_stream = c.completed ++ c.rfequest_queue_stream ∧
      (∀ w ∈ c'.wfequest_queue_stream, w ∈ c'.rfequest_queue_stream) ∧
      c'.wfequest_queue_stream.Nodup ∧
      (∀ q ∈ c'.rfequest_queue_stream,
        q ∈ c'.wfequest_queue_stream ↔ q ∈ c.wfequest_queue_stream ∨ q = r) ∧
      (∀ q ∈ c'.completed, q ∈ c.completed ∨ q ∈ c.wfequest_queue_stream ∨ q = r) ∧
      (∀ q ∈ c.rfequest_queue_stream, q ∉ c.wfequest_queue_stream → q ≠ r →
        q ∈ c'.rfequest_queue_stream) ∧
      ∀ q ∈ c'.rfequest_queue_stream, q ∈ c.rfequest_queue_stream := by
  obtain ⟨-, -, hcases⟩ := sResultCallback_spec hinc hsub hnodup hr hnot hmap
  dsimp only at hcases ⊢
  rcases hcases with ⟨-, hrf, hcompleted, hwf⟩ | ⟨ps, hrf, hcompleted, hwf, -⟩
  · rw [hrf, hcompleted, hwf]
    refine ⟨rfl, ?_, ?_, ?_, fun q hq => Or.inl hq, fun q hq _ _ => hq, fun q hq => hq⟩
    · intro w hw
      rcases List.mem_append.mp hw with hw | hw
      · exact hsub w hw
      · rw [List.mem_singleton.mp hw]
        exact hr
    · refine List.nodup_append.mpr ⟨hnodup, by simp, ?_⟩
      rintro w hw x hx rfl
      exact hnot (List.mem_singleton.mp hx ▸ hw)
    · intro q _
      rw [List.mem_append, List.mem_singleton]
  · generalize c.sResultCallback r.frame_number = c' at hrf hcompleted hwf ⊢
    have hqueue : (r :: (ps ++ c'.rfequest_queue_stream)).Nodup := hrf ▸ hinc.nodup
    obtain ⟨hrnot, hrest⟩ := List.nodup_cons.mp hqueue
    obtain ⟨-, -, hdisjoint⟩ := List.nodup_append.mp hrest
    rw [hwf] at hsub hnodup hnot
    obtain ⟨-, hnodup', hdisjoint'⟩ := List.nodup_append.mp hnodup
    rw [hcompleted, hrf, hwf]
    refine ⟨by simp, ?_, hnodup', ?_, ?_, ?_, ?_⟩
    · intro w hw
      have hmem := hsub w (List.mem_append_right _ hw)
      rw [hrf, List.mem_cons, List.mem_append] at hmem
      rcases hmem with rfl | hps | hmem
      · exact absurd (List.mem_append_right _ hw) hnot
      · exact absurd rfl (hdisjoint' w hps w hw)
      · exact hmem
    · intro q hq
      rw [List.mem_append]
      constructor
      · exact fun hmem => Or.inl (Or.inr hmem)
      · rintro ((hps | hmem) | rfl)
        · exact absurd rfl (hdisjoint q hps q hq)
        · exact hmem
        · exact absurd (List.mem_append_right _ hq) hrnot
    · intro q hq
      rw [List.mem_append, List.mem_cons] at hq
      rcases hq with hq | rfl | hq
      · exact Or.inl hq
      · exact Or.inr (Or.inr rfl)
      · exact Or.inr (Or.inl (List.mem_append_left _ hq))
    · intro q hq hnotmem hne
      rw [List.mem_cons, List.mem_append] at hq
      rcases hq with rfl | hps | hq
      · exact absurd rfl hne
      · exact absurd (List.mem_append_left _ hps) hnotmem
      · exact hq
    · exact fun q hq => List.mem_cons_of_mem r (List.mem_append_right _ hq)

end V4L2Camera

/-! ## Buffers that are to be filled -/

def pendingIn (queues : StreamSerial → List Nat) (f : Nat) : Nat :=
  ∑ stream, (queues stream).count f

theorem pendingIn_update (queues : StreamSerial → List Nat) (stream : StreamSerial) (l : List Nat)
    (f : Nat) :
    pendingIn (update queues stream l) f + (queues stream).count f =
      pendingIn queues f + l.count f := by
  have hnew := Finset.add_sum_erase Finset.univ (fun x => (update queues stream l x).count f)
    (Finset.mem_univ stream)
  have hold := Finset.add_sum_erase Finset.univ (fun x => (queues x).count f)
    (Finset.mem_univ stream)
  have hrest : ∑ x ∈ Finset.univ.erase stream, (update queues stream l x).count f =
      ∑ x ∈ Finset.univ.erase stream, (queues x).count f := by
    refine Finset.sum_congr rfl fun x hx => ?_
    rw [update_of_ne (Finset.ne_of_mem_erase hx)]
  simp only [update_self] at hnew
  unfold pendingIn
  omega

theorem pendingIn_requestBuffers (queues : StreamSerial → List Nat) (request : CaptureRequest)
    (f : Nat) :
    pendingIn (requestBuffers queues request) f =
      pendingIn queues f +
        if f = request.frame_number then request.output_buffers.length else 0 := by
  unfold requestBuffers
  induction request.output_buffers generalizing queues with
  | nil => simp
  | cons stream streams ih =>
      rw [List.foldl_cons, ih]
      have hupdate := pendingIn_update queues stream (queues stream ++ [request.frame_number]) f
      simp only [List.count_append, List.count_singleton] at hupdate
      by_cases hf : f = request.frame_number
      · subst hf
        simp only [beq_self_eq_true, if_true, List.length_cons] at hupdate ⊢
        omega
      · have hne : (request.frame_number == f) = false := by
          rw [beq_eq_false_iff_ne]
          exact Ne.symm hf
        simp only [hne, Bool.false_eq_true, if_false, hf] at hupdate ⊢
        omega

theorem markBuffers_of_some (f k : Nat) {m : Nat → Option Int} {n : Int} (hn : 1 ≤ n)
    (hm : m f = some n) : markBuffers f k m = (update m f (some (n + k)), true) := by
  induction k generalizing m n with
  | zero => simp [markBuffers, ← hm]
  | succ k ih =>
      have hmark : markFrameNumber m f = (update m f (some (n + 1)), 0) := by
        simp [markFrameNumber, hm, Int.not_lt.mpr hn]
      rw [markBuffers, hmark]
      simp only [ne_eq, not_true_eq_false, if_false]
      rw [ih (n := n + 1) (by omega) (update_self ..), update_idem]
      rw [show n + 1 + (k : Int) = n + ((k + 1 : Nat) : Int) by omega]

theorem markBuffers_of_none (f : Nat) {k : Nat} (hk : 0 < k) {m : Nat → Option Int}
    (hm : m f = none) : markBuffers f k m = (update m f (some (k : Int)), true) := by
  obtain ⟨k, rfl⟩ := Nat.exists_eq_succ_of_ne_zero (Nat.ne_of_gt hk)
  have hmark : markFrameNumber m f = (update m f (some 1), 0) := by simp [markFrameNumber, hm]
  rw [markBuffers, hmark]
  simp only [ne_eq, not_true_eq_false, if_false]
  rw [markBuffers_of_some f k (n := 1) (by omega) (update_self ..), update_idem]
  rw [show (1 : Int) + (k : Int) = ((k.succ : Nat) : Int) by omega]

namespace Capture

def pending (s : Capture) (f : Nat) : Nat :=
  pendingIn s.queues f

def issued (s : Capture) : List CaptureRequest :=
  s.camera.completed ++ s.camera.rfequest_queue_stream

structure Inv (s : Capture) : Prop where
  increasing : Increasing s.submitted
  submitted : s.submitted = s.issued ++ (s.camera.waiting.map Prod.fst).toList
  buffers : ∀ r ∈ s.submitted, r.output_buffers ≠ []
  parked : ∀ w ∈ s.camera.wfequest_queue_stream, w ∈ s.camera.rfequest_queue_stream
  nodup : s.camera.wfequest_queue_stream.Nodup
  completed : ∀ r ∈ s.camera.completed, s.reported r.frame_number = r.output_buffers.length
  finished : ∀ r ∈ s.camera.rfequest_queue_stream,
    r ∈ s.camera.wfequest_queue_stream ↔ s.reported r.frame_number = r.output_buffers.length
  request : ∀ f r, s.camera.mMapFrameNumRequest f = some r ↔
    r ∈ s.camera.rfequest_queue_stream ∧ r ∉ s.camera.wfequest_queue_stream ∧ r.frame_number = f
  ref : ∀ r ∈ s.camera.rfequest_queue_stream, r ∉ s.camera.wfequest_queue_stream →
    s.mMapFrameNumRef r.frame_number = some (s.pending r.frame_number : Int)
  ref_none : ∀ f, (∀ r ∈ s.camera.rfequest_queue_stream, r ∉ s.camera.wfequest_queue_stream →
    r.frame_number ≠ f) → s.mMapFrameNumRef f = none
  pending : ∀ r ∈ s.issued,
    s.pending r.frame_number + s.reported r.frame_number = r.output_buffers.length
  fresh : ∀ f, (∀ r ∈ s.issued, r.frame_number ≠ f) → s.pending f = 0 ∧ s.reported f = 0

theorem Inv.issued_increasing {s : Capture} (h : s.Inv) : Increasing s.issued := by
  have hinc := h.increasing
  rw [h.submitted] at hinc
  exact (List.pairwise_append.mp hinc).1

theorem Inv.queue_increasing {s : Capture} (h : s.Inv) :
    Increasing s.camera.rfequest_queue_stream :=
  (List.pairwise_append.mp h.issued_increasing).2.1

theorem Inv.completesInOrder {s : Capture} (h : s.Inv) : s.CompletesInOrder := by
  refine ⟨?_, ?_, h.completed⟩
  · rw [h.submitted, issued, List.append_assoc]
    exact List.prefix_append _ _
  · exact Increasing.nodup (List.pairwise_append.mp h.issued_increasing).1

theorem Inv.ref_fresh {s : Capture} (h : s.Inv) {f : Nat}
    (hf : ∀ r ∈ s.issued, r.frame_number ≠ f) : s.mMapFrameNumRef f = none := by
  refine h.ref_none f fun r hr _ => hf r ?_
  exact List.mem_append_right _ hr

theorem Inv.increasing_append {s : Capture} (h : s.Inv) {r : CaptureRequest}
    (hnew : ∀ q ∈ s.issued, q.frame_number < r.frame_number) : Increasing (s.issued ++ [r]) := by
  refine List.pairwise_append.mpr ⟨h.issued_increasing, List.pairwise_singleton _ r, ?_⟩
  intro q hq x hx
  rw [List.mem_singleton.mp hx]
  exact hnew q hq

theorem Inv.enter {s s' : Capture} (h : s.Inv) {r : CaptureRequest}
    (hnew : ∀ q ∈ s.issued, q.frame_number < r.frame_number) (hbuffers : r.output_buffers ≠ [])
    (hsubmitted : s'.submitted = s.issued ++ [r]) (hreported : s'.reported = s.reported)
    (hcamera : s'.camera.rfequest_queue_stream = s.camera.rfequest_queue_stream ++ [r])
    (hparked : s'.camera.wfequest_queue_stream = s.camera.wfequest_queue_stream)
    (hcompleted : s'.camera.completed = s.camera.completed) (hwaiting : s'.camera.waiting = none)
    (hmap : s'.camera.mMapFrameNumRequest =
      update s.camera.mMapFrameNumRequest r.frame_number (some r))
    (href : s'.mMapFrameNumRef =
      update s.mMapFrameNumRef r.frame_number (some (r.output_buffers.length : Int)))
    (hqueues : s'.queues = requestBuffers s.queues r) : s'.Inv := by
  have hissued : s'.issued = s.issued ++ [r] := by
    rw [issued, hcompleted, hcamera, ← List.append_assoc, issued]
  have hne : ∀ q ∈ s.issued, q.frame_number ≠ r.frame_number := fun q hq => Nat.ne_of_lt (hnew q hq)
  have hqueued : ∀ q ∈ s.camera.rfequest_queue_stream, q.frame_number ≠ r.frame_number :=
    fun q hq => hne q (List.mem_append_right _ hq)
  obtain ⟨hpending, hzero⟩ := h.fresh r.frame_number hne
  have hr : r ∉ s.camera.wfequest_queue_stream := fun hr => hqueued r (h.parked r hr) rfl
  have hother : ∀ f, f ≠ r.frame_number → s'.pending f = s.pending f := by
    intro f hf
    rw [Capture.pending, hqueues, pendingIn_requestBuffers, if_neg hf]
    rfl
  have hself : s'.pending r.frame_number = r.output_buffers.length := by
    rw [Capture.pending, hqueues, pendingIn_requestBuffers, if_pos rfl]
    change s.pending r.frame_number + _ = _
    rw [hpending, Nat.zero_add]
  refine { increasing := ?increasing, submitted := ?submitted, buffers := ?buffers,
           parked := ?parked, nodup := ?nodup, completed := ?completed, finished := ?finished,
           request := ?inMap, ref := ?ref, ref_none := ?ref_none, pending := ?pending,
           fresh := ?fresh }
  case increasing =>
    rw [hsubmitted]
    exact h.increasing_append hnew
  case submitted =>
    rw [hsubmitted, hissued, hwaiting]
    simp
  case buffers =>
    intro q hq
    rw [hsubmitted, List.mem_append, List.mem_singleton] at hq
    rcases hq with hq | rfl
    · refine h.buffers q ?_
      rw [h.submitted]
      exact List.mem_append_left _ hq
    · exact hbuffers
  case parked =>
    intro w hw
    rw [hparked] at hw
    rw [hcamera]
    exact List.mem_append_left _ (h.parked w hw)
  case nodup =>
    rw [hparked]
    exact h.nodup
  case completed =>
    rw [hcompleted, hreported]
    exact h.completed
  case finished =>
    intro q hq
    rw [hcamera, List.mem_append, List.mem_singleton] at hq
    rw [hparked, hreported]
    rcases hq with hq | rfl
    · exact h.finished q hq
    · have hlength : 0 < q.output_buffers.length := List.length_pos_iff.mpr hbuffers
      constructor
      · exact fun hmem => absurd hmem hr
      · intro heq
        omega
  case inMap =>
    intro f q
    rw [hmap, hcamera, hparked, List.mem_append, List.mem_singleton]
    by_cases hf : f = r.frame_number
    · subst hf
      rw [update_self, Option.some.injEq]
      constructor
      · rintro rfl
        exact ⟨Or.inr rfl, hr, rfl⟩
      · rintro ⟨hq | rfl, -, heq⟩
        · exact absurd heq (hqueued q hq)
        · rfl
    · rw [update_of_ne hf, h.request]
      constructor
      · rintro ⟨hq, hnot, heq⟩
        exact ⟨Or.inl hq, hnot, heq⟩
      · rintro ⟨hq | rfl, hnot, heq⟩
        · exact ⟨hq, hnot, heq⟩
        · exact absurd heq.symm hf
  case ref =>
    intro q hq hnot
    rw [hcamera, List.mem_append, List.mem_singleton] at hq
    rw [hparked] at hnot
    rcases hq with hq | rfl
    · rw [href, update_of_ne (hqueued q hq), hother _ (hqueued q hq)]
      exact h.ref q hq hnot
    · rw [href, update_self, hself]
  case ref_none =>
    intro f hf
    have hfr : f ≠ r.frame_number := fun heq =>
      hf r (by simp [hcamera]) (by rw [hparked]; exact hr) heq.symm
    rw [href, update_of_ne hfr]
    refine h.ref_none f fun q hq hnot => hf q ?_ ?_
    · rw [hcamera]
      exact List.mem_append_left _ hq
    · rwa [hparked]
  case pending =>
    intro q hq
    rw [hissued, List.mem_append, List.mem_singleton] at hq
    rw [hreported]
    rcases hq with hq | rfl
    · rw [hother _ (hne q hq)]
      exact h.pending q hq
    · rw [hself, hzero]
      rfl
  case fresh =>
    intro f hf
    have hfr : f ≠ r.frame_number := fun heq => hf r (by simp [hissued]) heq.symm
    rw [hother f hfr, hreported]
    exact h.fresh f fun q hq => hf q (by rw [hissued]; exact List.mem_append_left _ hq)

theorem Inv.fresh_request {s : Capture} (h : s.Inv) {r : CaptureRequest}
    (hnew : ∀ q ∈ s.issued, q.frame_number < r.frame_number) :
    s.camera.mMapFrameNumRequest r.frame_number = none := by
  cases hmap : s.camera.mMapFrameNumRequest r.frame_number with
  | none => rfl
  | some q =>
      obtain ⟨hq, -, heq⟩ := (h.request _ _).mp hmap
      have hlt := hnew q (List.mem_append_right _ hq)
      omega

theorem issue_eq {s : Capture} {r : CaptureRequest} (hbuffers : r.output_buffers ≠ [])
    (href : s.mMapFrameNumRef r.frame_number = none) :
    s.issue r =
      { s with
        mMapFrameNumRef :=
          update s.mMapFrameNumRef r.frame_number (some (r.output_buffers.length : Int))
        queues := requestBuffers s.queues r } := by
  unfold issue
  rw [markBuffers_of_none _ (List.length_pos_iff.mpr hbuffers) href]
  rfl

theorem Inv.enqueueRequest {s : Capture} (h : s.Inv) {r : CaptureRequest}
    (hvalid : s.Valid (.enqueueRequest r)) : (s.enqueueRequest r).Inv := by
  unfold Capture.enqueueRequest
  split
  · exact h
  · rename_i hwaiting
    have hnone := not_not.mp hwaiting
    obtain ⟨hnew, hbuffers⟩ := hvalid hnone
    have hsubmitted : s.submitted = s.issued := by
      have := h.submitted
      rw [hnone] at this
      simpa using this
    rw [hsubmitted] at hnew
    have href := h.ref_fresh fun q hq => Nat.ne_of_lt (hnew q hq)
    have hmap := h.fresh_request hnew
    dsimp only
    by_cases hfull : (MAX_BUFFER_NUM : Int) < s.camera.in_flight_buffer_count + 1
    · -- the request waits
      have hcamera : s.camera.enqueueRequest r =
          { s.camera with
            in_flight_buffer_count := s.camera.in_flight_buffer_count + 1
            waiting := some (r, false) } := by
        simp [V4L2Camera.enqueueRequest, hnone, hfull]
      rw [hcamera, if_neg (by simp)]
      refine ⟨?_, ?_, ?_, h.parked, h.nodup, h.completed, h.finished, h.request, h.ref,
        h.ref_none, h.pending, h.fresh⟩
      · dsimp only
        rw [hsubmitted]
        exact h.increasing_append hnew
      · change s.submitted ++ [r] = s.issued ++ [r]
        rw [hsubmitted]
      · intro q hq
        rcases List.mem_append.mp hq with hq | hq
        · exact h.buffers q hq
        · rw [List.mem_singleton.mp hq]
          exact hbuffers
    · have hcamera : s.camera.enqueueRequest r =
          { s.camera with in_flight_buffer_count := s.camera.in_flight_buffer_count + 1 }.push
            r := by
        simp [V4L2Camera.enqueueRequest, hnone, hfull]
      rw [hcamera, if_pos (show (V4L2Camera.push _ r).waiting = none from rfl),
        issue_eq hbuffers (by exact href)]
      refine h.enter hnew hbuffers ?_ rfl rfl rfl rfl rfl ?_ rfl rfl
      · change s.submitted ++ [r] = _
        rw [hsubmitted]
      · simp [V4L2Camera.push, hmap]

theorem Inv.wake {s : Capture} (h : s.Inv) : s.wake.Inv := by
  unfold Capture.wake
  split
  · exact h
  · rename_i r notified hwaiting
    have hsubmitted : s.submitted = s.issued ++ [r] := by
      have := h.submitted
      rw [hwaiting] at this
      exact this
    have hnew : ∀ q ∈ s.issued, q.frame_number < r.frame_number := by
      have hinc := h.increasing
      rw [hsubmitted] at hinc
      exact fun q hq => (List.pairwise_append.mp hinc).2.2 q hq r (by simp)
    have hbuffers : r.output_buffers ≠ [] := h.buffers r (by simp [hsubmitted])
    have href := h.ref_fresh fun q hq => Nat.ne_of_lt (hnew q hq)
    have hcamera : s.camera.wake = s.camera.push r := by simp [V4L2Camera.wake, hwaiting]
    rw [hcamera, issue_eq hbuffers (by exact href)]
    refine h.enter hnew hbuffers hsubmitted rfl rfl rfl rfl rfl ?_ rfl rfl
    simp [V4L2Camera.push, h.fresh_request hnew]

/-! ## Filling a buffer -/

def filled (s : Capture) (stream : StreamSerial) (f : Nat) (rest : List Nat) : Capture :=
  { s with
    queues := update s.queues stream rest
    reported := update s.reported f (s.reported f + 1) }

theorem filled_pending_self {s : Capture} {stream : StreamSerial} {f : Nat} {rest : List Nat}
    (hqueue : s.queues stream = f :: rest) :
    (s.filled stream f rest).pending f + 1 = s.pending f := by
  have hupdate := pendingIn_update s.queues stream rest f
  rw [hqueue, List.count_cons_self] at hupdate
  change pendingIn (update s.queues stream rest) f + 1 = pendingIn s.queues f
  omega

theorem filled_pending_of_ne {s : Capture} {stream : StreamSerial} {f : Nat} {rest : List Nat}
    (hqueue : s.queues stream = f :: rest) {g : Nat} (hg : g ≠ f) :
    (s.filled stream f rest).pending g = s.pending g := by
  have hupdate := pendingIn_update s.queues stream rest g
  rw [hqueue, List.count_cons_of_ne hg.symm] at hupdate
  change pendingIn (update s.queues stream rest) g = pendingIn s.queues g
  omega

/-- The next buffer of a stream belongs to a request that is queued and not finished. -/
theorem Inv.request_of_queue {s : Capture} (h : s.Inv) {stream : StreamSerial} {f : Nat}
    {rest : List Nat} (hqueue : s.queues stream = f :: rest) :
    ∃ r ∈ s.camera.rfequest_queue_stream, r ∉ s.camera.wfequest_queue_stream ∧
      r.frame_number = f := by
  have hpos := filled_pending_self hqueue
  by_contra hno
  push Not at hno
  have hissued : ∃ r ∈ s.issued, r.frame_number = f := by
    by_contra hfresh
    push Not at hfresh
    have hzero := (h.fresh f hfresh).1
    omega
  obtain ⟨r, hr, rfl⟩ := hissued
  have hsum := h.pending r hr
  rcases List.mem_append.mp hr with hcompleted | hqueued
  · have := h.completed r hcompleted
    omega
  · by_cases hparked : r ∈ s.camera.wfequest_queue_stream
    · have := (h.finished r hqueued).mp hparked
      omega
    · exact hno r hqueued hparked rfl

theorem Inv.frame_ne {s : Capture} (h : s.Inv) {q r : CaptureRequest} (hq : q ∈ s.issued)
    (hr : r ∈ s.issued) (hne : q ≠ r) : q.frame_number ≠ r.frame_number :=
  fun heq => hne (h.issued_increasing.eq_of_frame_number hq hr heq)

theorem filled_reported_self (s : Capture) (stream : StreamSerial) (f : Nat) (rest : List Nat) :
    (s.filled stream f rest).reported f = s.reported f + 1 :=
  update_self ..

theorem filled_reported_of_ne (s : Capture) (stream : StreamSerial) {f g : Nat} (rest : List Nat)
    (hg : g ≠ f) : (s.filled stream f rest).reported g = s.reported g :=
  update_of_ne hg ..

theorem Inv.filled_pending {s : Capture} (h : s.Inv) {stream : StreamSerial} {rest : List Nat}
    {r : CaptureRequest} (hqueue : s.queues stream = r.frame_number :: rest) (hr : r ∈ s.issued)
    {q : CaptureRequest} (hq : q ∈ s.issued) :
    (s.filled stream r.frame_number rest).pending q.frame_number +
      (s.filled stream r.frame_number rest).reported q.frame_number = q.output_buffers.length := by
  have hsum := h.pending q hq
  by_cases heq : q = r
  · subst heq
    have hself := filled_pending_self hqueue
    rw [filled_reported_self]
    omega
  · have hne := h.frame_ne hq hr heq
    rw [filled_pending_of_ne hqueue hne, filled_reported_of_ne s stream rest hne]
    exact hsum

theorem Inv.filled_fresh {s : Capture} (h : s.Inv) {stream : StreamSerial} {rest : List Nat}
    {r : CaptureRequest} (hqueue : s.queues stream = r.frame_number :: rest) (hr : r ∈ s.issued)
    {f : Nat} (hf : ∀ q ∈ s.issued, q.frame_number ≠ f) :
    (s.filled stream r.frame_number rest).pending f = 0 ∧
      (s.filled stream r.frame_number rest).reported f = 0 := by
  have hne : f ≠ r.frame_number := (hf r hr).symm
  rw [filled_pending_of_ne hqueue hne, filled_reported_of_ne s stream rest hne]
  exact h.fresh f hf

theorem Inv.fill {s : Capture} (h : s.Inv) {stream : StreamSerial} {rest : List Nat}
    {r : CaptureRequest} (hqueue : s.queues stream = r.frame_number :: rest)
    (hr : r ∈ s.camera.rfequest_queue_stream) (hnot : r ∉ s.camera.wfequest_queue_stream)
    (hmore : s.pending r.frame_number ≠ 1) {s' : Capture}
    (hs' : s' = { s.filled stream r.frame_number rest with
      mMapFrameNumRef := update s.mMapFrameNumRef r.frame_number
        (some ((s.filled stream r.frame_number rest).pending r.frame_number : Int)) }) :
    s'.Inv := by
  have hissued : r ∈ s.issued := List.mem_append_right _ hr
  have hself := filled_pending_self hqueue
  have hsum := h.pending r hissued
  have hreported : s'.reported = (s.filled stream r.frame_number rest).reported := by rw [hs']
  have hpending : s'.pending = (s.filled stream r.frame_number rest).pending := by rw [hs']; rfl
  have hcamera : s'.camera = s.camera := by rw [hs']; rfl
  have hissued' : s'.issued = s.issued := by rw [issued, hcamera]; rfl
  have hcompleted : ∀ q ∈ s.camera.completed, q ≠ r := by
    rintro q hq rfl
    have := h.completed q hq
    omega
  refine { increasing := ?increasing, submitted := ?submitted, buffers := ?buffers,
           parked := ?parked, nodup := ?nodup, completed := ?completed, finished := ?finished,
           request := ?request, ref := ?ref, ref_none := ?ref_none, pending := ?pending,
           fresh := ?fresh }
  case increasing =>
    rw [hs']
    exact h.increasing
  case submitted =>
    rw [hissued', hcamera, hs']
    exact h.submitted
  case buffers =>
    rw [hs']
    exact h.buffers
  case parked =>
    rw [hcamera]
    exact h.parked
  case nodup =>
    rw [hcamera]
    exact h.nodup
  case completed =>
    intro q hq
    rw [hcamera] at hq
    have hne := h.frame_ne (List.mem_append_left _ hq) hissued (hcompleted q hq)
    rw [hreported, filled_reported_of_ne s stream rest hne]
    exact h.completed q hq
  case finished =>
    intro q hq
    rw [hcamera] at hq ⊢
    by_cases heq : q = r
    · subst heq
      rw [hreported, filled_reported_self]
      constructor
      · exact fun hmem => absurd hmem hnot
      · intro hlength
        omega
    · have hne := h.frame_ne (List.mem_append_right _ hq) hissued heq
      rw [hreported, filled_reported_of_ne s stream rest hne]
      exact h.finished q hq
  case request =>
    rw [hcamera]
    exact h.request
  case ref =>
    intro q hq hq'
    rw [hcamera] at hq hq'
    rw [hpending]
    by_cases heq : q = r
    · subst heq
      rw [hs']
      exact update_self ..
    · have hne := h.frame_ne (List.mem_append_right _ hq) hissued heq
      rw [filled_pending_of_ne hqueue hne, hs']
      exact (update_of_ne hne ..).trans (h.ref q hq hq')
  case ref_none =>
    intro f hf
    rw [hcamera] at hf
    have hne : f ≠ r.frame_number := (hf r hr hnot).symm
    rw [hs']
    exact (update_of_ne hne ..).trans (h.ref_none f hf)
  case pending =>
    intro q hq
    rw [hissued'] at hq
    rw [hpending, hreported]
    exact h.filled_pending hqueue hissued hq
  case fresh =>
    intro f hf
    rw [hissued'] at hf
    rw [hpending, hreported]
    exact h.filled_fresh hqueue hissued hf

theorem Inv.finish {s : Capture} (h : s.Inv) {stream : StreamSerial} {rest : List Nat}
    {r : CaptureRequest} (hqueue : s.queues stream = r.frame_number :: rest)
    (hr : r ∈ s.camera.rfequest_queue_stream) (hnot : r ∉ s.camera.wfequest_queue_stream)
    (hlast : s.pending r.frame_number = 1) {s' : Capture}
    (hs' : s' = { s.filled stream r.frame_number rest with
      mMapFrameNumRef := update s.mMapFrameNumRef r.frame_number none
      camera := s.camera.sResultCallback r.frame_number }) : s'.Inv := by
  have hissued : r ∈ s.issued := List.mem_append_right _ hr
  have hself := filled_pending_self hqueue
  have hsum := h.pending r hissued
  have hmap : s.camera.mMapFrameNumRequest r.frame_number = some r :=
    (h.request _ _).mpr ⟨hr, hnot, rfl⟩
  obtain ⟨hmap', hwaiting, -⟩ :=
    V4L2Camera.sResultCallback_spec h.queue_increasing h.parked h.nodup hr hnot hmap
  obtain ⟨hsame, hparked, hnodup, hfinished, hcompleted, hstay, hleft⟩ :=
    V4L2Camera.sResultCallback_sets h.queue_increasing h.parked h.nodup hr hnot hmap
  have hcamera : s'.camera = s.camera.sResultCallback r.frame_number := by rw [hs']
  rw [← hcamera] at hmap' hwaiting hsame hparked hnodup hfinished hcompleted hstay hleft
  have hissued' : s'.issued = s.issued := hsame
  have hqueued : ∀ q ∈ s'.camera.rfequest_queue_stream, q ∈ s.issued := fun q hq =>
    hissued' ▸ List.mem_append_right _ hq
  have hreported : s'.reported = (s.filled stream r.frame_number rest).reported := by rw [hs']
  have hpending : s'.pending = (s.filled stream r.frame_number rest).pending := by rw [hs']; rfl
  have hdone : ∀ q ∈ s.issued, q ∈ s.camera.completed ∨ q ∈ s.camera.wfequest_queue_stream ∨
      q = r → s'.reported q.frame_number = q.output_buffers.length := by
    intro q hq hcase
    by_cases heq : q = r
    · subst heq
      rw [hreported, filled_reported_self]
      omega
    · rw [hreported, filled_reported_of_ne s stream rest (h.frame_ne hq hissued heq)]
      rcases hcase with hc | hw | rfl
      · exact h.completed q hc
      · exact (h.finished q (h.parked q hw)).mp hw
      · exact absurd rfl heq
  -- who is still in the queue and not parked was so before, and is not `r`
  have hunfinished : ∀ q ∈ s'.camera.rfequest_queue_stream,
      q ∉ s'.camera.wfequest_queue_stream →
        q ∈ s.camera.rfequest_queue_stream ∧ q ∉ s.camera.wfequest_queue_stream ∧ q ≠ r := by
    intro q hq hq'
    rw [hfinished q hq, not_or] at hq'
    exact ⟨hleft q hq, hq'.1, hq'.2⟩
  have hstays : ∀ q ∈ s.camera.rfequest_queue_stream, q ∉ s.camera.wfequest_queue_stream →
      q ≠ r → q ∈ s'.camera.rfequest_queue_stream ∧ q ∉ s'.camera.wfequest_queue_stream := by
    intro q hq hq' hne
    have hmem := hstay q hq hq' hne
    refine ⟨hmem, ?_⟩
    rw [hfinished q hmem, not_or]
    exact ⟨hq', hne⟩
  refine { increasing := ?increasing, submitted := ?submitted, buffers := ?buffers,
           parked := hparked, nodup := hnodup, completed := ?completed, finished := ?finished,
           request := ?request, ref := ?ref, ref_none := ?ref_none, pending := ?pending,
           fresh := ?fresh }
  case increasing =>
    rw [hs']
    exact h.increasing
  case submitted =>
    rw [hissued', hwaiting, hs']
    exact h.submitted
  case buffers =>
    rw [hs']
    exact h.buffers
  case completed =>
    intro q hq
    exact hdone q (hissued' ▸ List.mem_append_left _ hq) (hcompleted q hq)
  case finished =>
    intro q hq
    rw [hfinished q hq]
    constructor
    · exact fun hcase => hdone q (hqueued q hq) (Or.inr hcase)
    · intro hlength
      by_cases heq : q = r
      · exact Or.inr heq
      · have hne := h.frame_ne (hqueued q hq) hissued heq
        rw [hreported, filled_reported_of_ne s stream rest hne] at hlength
        exact Or.inl ((h.finished q (hleft q hq)).mpr hlength)
  case request =>
    intro f q
    rw [hmap']
    by_cases hf : f = r.frame_number
    · subst hf
      rw [update_self]
      constructor
      · intro hnone
        cases hnone
      · rintro ⟨hq, hq', heq⟩
        obtain ⟨-, -, hne⟩ := hunfinished q hq hq'
        exact absurd heq (h.frame_ne (hqueued q hq) hissued hne)
    · rw [update_of_ne hf, h.request]
      constructor
      · rintro ⟨hq, hq', heq⟩
        have hne : q ≠ r := fun hqr => hf (heq.symm.trans (congrArg _ hqr))
        obtain ⟨hmem, hmem'⟩ := hstays q hq hq' hne
        exact ⟨hmem, hmem', heq⟩
      · rintro ⟨hq, hq', heq⟩
        obtain ⟨hmem, hmem', -⟩ := hunfinished q hq hq'
        exact ⟨hmem, hmem', heq⟩
  case ref =>
    intro q hq hq'
    obtain ⟨hmem, hmem', hqr⟩ := hunfinished q hq hq'
    have hne := h.frame_ne (hqueued q hq) hissued hqr
    rw [hpending, filled_pending_of_ne hqueue hne, hs']
    exact (update_of_ne hne ..).trans (h.ref q hmem hmem')
  case ref_none =>
    intro f hf
    rw [hs']
    change update s.mMapFrameNumRef r.frame_number none f = none
    by_cases hfr : f = r.frame_number
    · rw [hfr, update_self]
    · rw [update_of_ne hfr]
      refine h.ref_none f fun q hq hq' heq => ?_
      have hne : q ≠ r := fun hqr => hfr (heq.symm.trans (congrArg _ hqr))
      obtain ⟨hmem, hmem'⟩ := hstays q hq hq' hne
      exact hf q hmem hmem' heq
  case pending =>
    intro q hq
    rw [hissued'] at hq
    rw [hpending, hreported]
    exact h.filled_pending hqueue hissued hq
  case fresh =>
    intro f hf
    rw [hissued'] at hf
    rw [hpending, hreported]
    exact h.filled_fresh hqueue hissued hf

theorem Inv.dequeue_cases {s : Capture} (h : s.Inv) (stream : StreamSerial) :
    (s.queues stream = [] ∧ s.dequeue stream = s) ∨
      ∃ r rest, s.queues stream = r.frame_number :: rest ∧
        r ∈ s.camera.rfequest_queue_stream ∧ r ∉ s.camera.wfequest_queue_stream ∧
        ((s.pending r.frame_number ≠ 1 ∧ s.mMapFrameNumRef r.frame_number ≠ some 1 ∧
          s.dequeue stream = { s.filled stream r.frame_number rest with
            mMapFrameNumRef := update s.mMapFrameNumRef r.frame_number
              (some ((s.filled stream r.frame_number rest).pending r.frame_number : Int)) }) ∨
        (s.pending r.frame_number = 1 ∧ s.mMapFrameNumRef r.frame_number = some 1 ∧
          s.dequeue stream = { s.filled stream r.frame_number rest with
            mMapFrameNumRef := update s.mMapFrameNumRef r.frame_number none
            camera := s.camera.sResultCallback r.frame_number })) := by
  cases hqueue : s.queues stream with
  | nil => exact Or.inl ⟨rfl, by simp [dequeue, hqueue]⟩
  | cons f rest =>
      obtain ⟨r, hr, hnot, rfl⟩ := h.request_of_queue hqueue
      have href := h.ref r hr hnot
      have hself := filled_pending_self hqueue
      have hdequeue : s.dequeue stream =
          (s.filled stream r.frame_number rest).resultCallback r.frame_number := by
        simp only [dequeue, hqueue]
        rfl
      have href' : (s.filled stream r.frame_number rest).mMapFrameNumRef r.frame_number =
          some (s.pending r.frame_number : Int) := href
      refine Or.inr ⟨r, rest, rfl, hr, hnot, ?_⟩
      rw [hdequeue, href]
      by_cases hlast : s.pending r.frame_number = 1
      · refine Or.inr ⟨hlast, by rw [hlast]; rfl, ?_⟩
        simp only [resultCallback, href', hlast]
        rfl
      · refine Or.inl ⟨hlast, ?_, ?_⟩
        · rw [ne_eq, Option.some.injEq]
          omega
        · have hcount : (s.pending r.frame_number : Int) - 1 =
              ((s.filled stream r.frame_number rest).pending r.frame_number : Int) := by omega
          simp only [resultCallback, href', hcount]
          rw [if_neg (by omega)]
          rfl

theorem Inv.dequeue {s : Capture} (h : s.Inv) (stream : StreamSerial) :
    (s.dequeue stream).Inv := by
  rcases h.dequeue_cases stream with ⟨-, hsame⟩ | ⟨r, rest, hqueue, hr, hnot, hcases⟩
  · rw [hsame]
    exact h
  · rcases hcases with ⟨hmore, -, heq⟩ | ⟨hlast, -, heq⟩
    · exact h.fill hqueue hr hnot hmore heq
    · exact h.finish hqueue hr hnot hlast heq

theorem Inv.step {s : Capture} (h : s.Inv) {e : Event} (hvalid : s.Valid e) : (s.step e).Inv := by
  cases e with
  | enqueueRequest request => exact h.enqueueRequest hvalid
  | wake => exact h.wake
  | dequeue stream => exact h.dequeue stream

theorem inv_init : ({} : Capture).Inv where
  increasing := List.Pairwise.nil
  submitted := rfl
  buffers := fun r hr => by simp at hr
  parked := fun w hw => hw
  nodup := List.nodup_nil
  completed := fun r hr => by simp at hr
  finished := fun r hr => by simp at hr
  request := fun f r => by simp
  ref := fun r hr => by simp at hr
  ref_none := fun _ _ => rfl
  pending := fun r hr => by simp [issued] at hr
  fresh := fun f _ => ⟨by simp [Capture.pending, pendingIn], rfl⟩

/-! ## Parking in order -/

theorem issue_camera (s : Capture) (r : CaptureRequest) : (s.issue r).camera = s.camera := by
  unfold issue
  dsimp only
  split <;> rfl

theorem Inv.step_queues {s : Capture} (h : s.Inv) (e : Event) :
    ((s.step e).camera.wfequest_queue_stream = s.camera.wfequest_queue_stream ∧
        s.camera.rfequest_queue_stream <+: (s.step e).camera.rfequest_queue_stream ∧
        s.ParksInOrder e) ∨
      ∃ stream r rest, e = .dequeue stream ∧ s.queues stream = r.frame_number :: rest ∧
        r ∈ s.camera.rfequest_queue_stream ∧ r ∉ s.camera.wfequest_queue_stream ∧
        s.mMapFrameNumRef r.frame_number = some 1 ∧
        (s.step e).camera = s.camera.sResultCallback r.frame_number := by
  cases e with
  | enqueueRequest request =>
      refine Or.inl ?_
      have hqueue : ∀ c : V4L2Camera,
          (c.enqueueRequest request).wfequest_queue_stream = c.wfequest_queue_stream ∧
            c.rfequest_queue_stream <+: (c.enqueueRequest request).rfequest_queue_stream := by
        intro c
        unfold V4L2Camera.enqueueRequest
        split
        · exact ⟨rfl, List.prefix_rfl⟩
        · dsimp only
          split
          · exact ⟨rfl, List.prefix_rfl⟩
          · exact ⟨rfl, List.prefix_append _ _⟩
      obtain ⟨hwf, hrf⟩ := hqueue s.camera
      simp only [Capture.step, Capture.enqueueRequest]
      split
      · exact ⟨rfl, List.prefix_rfl, trivial⟩
      · split
        · rw [issue_camera]
          exact ⟨hwf, hrf, trivial⟩
        · exact ⟨hwf, hrf, trivial⟩
  | wake =>
      refine Or.inl ?_
      simp only [Capture.step, Capture.wake]
      split
      · exact ⟨rfl, List.prefix_rfl, trivial⟩
      · rename_i r notified hwaiting
        have hcamera : s.camera.wake = s.camera.push r := by simp [V4L2Camera.wake, hwaiting]
        rw [issue_camera]
        dsimp only
        rw [hcamera]
        exact ⟨rfl, List.prefix_append _ _, trivial⟩
  | dequeue stream =>
      rcases h.dequeue_cases stream with ⟨hqueue, hsame⟩ | ⟨r, rest, hqueue, hr, hnot, hcases⟩
      · refine Or.inl ?_
        rw [Capture.step, hsame]
        exact ⟨rfl, List.prefix_rfl, fun f hf => by simp [hqueue] at hf⟩
      · rcases hcases with ⟨-, href, heq⟩ | ⟨-, href, heq⟩
        · refine Or.inl ?_
          rw [Capture.step, heq]
          refine ⟨rfl, List.prefix_rfl, fun f hf href' => ?_⟩
          simp only [hqueue, List.head?_cons, Option.mem_def, Option.some.injEq] at hf
          exact absurd (hf ▸ href') href
        · refine Or.inr ⟨stream, r, rest, rfl, hqueue, hr, hnot, href, ?_⟩
          rw [Capture.step, heq]

/-- The parked requests are in submission order, and the oldest request is not one of them. -/
structure Ordered (s : Capture) : Prop where
  parked : Increasing s.camera.wfequest_queue_stream
  oldest : ∀ r ∈ s.camera.rfequest_queue_stream.head?, r ∉ s.camera.wfequest_queue_stream

theorem Ordered.step {s : Capture} (ho : s.Ordered) (h : s.Inv) {e : Event} (hvalid : s.Valid e)
    (horder : s.ParksInOrder e) : (s.step e).Ordered := by
  rcases h.step_queues e with ⟨hwf, ⟨new, hrf⟩, -⟩ | ⟨stream, r, rest, rfl, hqueue, hr, hnot, href, hc⟩
  · refine ⟨hwf ▸ ho.parked, ?_⟩
    intro q hq
    rw [hwf]
    rw [← hrf] at hq
    cases hqueue : s.camera.rfequest_queue_stream with
    | nil =>
        intro hmem
        have := h.parked q hmem
        simp [hqueue] at this
    | cons r rest =>
        rw [hqueue, List.cons_append, List.head?_cons] at hq
        exact ho.oldest q (by rw [hqueue]; exact hq)
  · have hnext := h.step hvalid
    obtain ⟨-, -, hcases⟩ := V4L2Camera.sResultCallback_spec h.queue_increasing h.parked h.nodup hr
      hnot ((h.request _ _).mpr ⟨hr, hnot, rfl⟩)
    rw [← hc] at hcases
    rcases hcases with ⟨hhead, hrf, -, hwf⟩ | ⟨ps, hrf, -, hwf, hstop⟩
    · -- `r` is parked behind the others
      have hnewer : ∀ w ∈ s.camera.wfequest_queue_stream, w.frame_number < r.frame_number := by
        rcases horder r.frame_number (by simp [hqueue]) href with ⟨q, hq, heq⟩ | hnewer
        · have hqr : q = r :=
            h.queue_increasing.eq_of_frame_number (List.mem_of_mem_head? hq) hr heq
          exact absurd (hqr ▸ hq) hhead
        · exact hnewer
      refine ⟨?_, ?_⟩
      · rw [hwf]
        refine List.pairwise_append.mpr ⟨ho.parked, by simp, ?_⟩
        intro w hw x hx
        rw [List.mem_singleton.mp hx]
        exact hnewer w hw
      · intro q hq
        rw [hrf] at hq
        rw [hwf, List.mem_append, List.mem_singleton, not_or]
        refine ⟨ho.oldest q hq, ?_⟩
        rintro rfl
        exact hhead hq
    · have hparked := ho.parked
      rw [hwf] at hparked
      have hparked' := (List.pairwise_append.mp hparked).2.1
      refine ⟨hparked', ?_⟩
      intro q hq hmem
      -- the loop has stopped, and the oldest of either queue stands at its front
      cases hw : (s.step (.dequeue stream)).camera.wfequest_queue_stream with
      | nil => simp [hw] at hmem
      | cons w parked =>
          have hqinc := hnext.queue_increasing
          have hwmem := hnext.parked w (by simp [hw])
          cases hq' : (s.step (.dequeue stream)).camera.rfequest_queue_stream with
          | nil => simp [hq'] at hq
          | cons q' queue =>
              rw [hq', List.head?_cons, Option.mem_def, Option.some.injEq] at hq
              subst hq
              rw [hq'] at hqinc hwmem
              rw [hw] at hparked' hmem
              have hle := Increasing.le_of_cons hqinc hwmem
              have hge := Increasing.le_of_cons hparked' hmem
              have heq := hqinc.eq_of_frame_number (by simp) hwmem (Nat.le_antisymm hle hge)
              exact hstop w (by simp [hw]) q' (by simp [hq']) heq

/-- With the parked requests in order none of them is left behind. -/
theorem Ordered.empty {s : Capture} (ho : s.Ordered) (h : s.Inv) (hall : s.AllReported) :
    s.Empty := by
  have hwaiting : s.camera.waiting = none := by
    cases hw : s.camera.waiting with
    | none => rfl
    | some w =>
        -- none of the buffers of a request that waits has been reported
        have hsubmitted := h.submitted
        rw [hw] at hsubmitted
        have hmem : w.1 ∈ s.submitted := by simp [hsubmitted]
        have hinc := h.increasing
        rw [hsubmitted] at hinc
        have hfresh := h.fresh w.1.frame_number fun q hq =>
          Nat.ne_of_lt ((List.pairwise_append.mp hinc).2.2 q hq w.1 (by simp))
        have hlength := hall w.1 hmem
        rw [hfresh.2] at hlength
        exact absurd (List.eq_nil_of_length_eq_zero hlength.symm) (h.buffers w.1 hmem)
  have hsubmitted : s.submitted = s.issued := by
    have := h.submitted
    rw [hwaiting] at this
    simpa using this
  have hqueue : s.camera.rfequest_queue_stream = [] := by
    cases hr : s.camera.rfequest_queue_stream with
    | nil => rfl
    | cons r rest =>
        have hmem : r ∈ s.camera.rfequest_queue_stream := by simp [hr]
        have hreported := hall r (hsubmitted ▸ List.mem_append_right _ hmem)
        exact absurd ((h.finished r hmem).mpr hreported) (ho.oldest r (by simp [hr]))
  have hnone : ∀ r, r ∉ s.camera.rfequest_queue_stream := by simp [hqueue]
  refine ⟨?_, hqueue, ?_, ?_, ?_⟩
  · rw [hsubmitted, issued, hqueue, List.append_nil]
  · exact List.eq_nil_iff_forall_not_mem.mpr fun w hw => hnone w (h.parked w hw)
  · intro f
    cases hf : s.camera.mMapFrameNumRequest f with
    | none => rfl
    | some r => exact absurd ((h.request f r).mp hf).1 (hnone r)
  · exact fun f => h.ref_none f fun r hr => absurd hr (hnone r)

/-- A request is parked behind a newer one. -/
def Stuck (s : Capture) : Prop :=
  ∃ w r, [w, r].Sublist s.camera.wfequest_queue_stream ∧ r.frame_number < w.frame_number

theorem Stuck.not_empty {s : Capture} (h : s.Stuck) : ¬ s.Empty := by
  obtain ⟨w, r, hsub, -⟩ := h
  intro hempty
  rw [hempty.2.2.1] at hsub
  cases hsub

/-- The loop stops before the newer one: the older one would have to leave the queue first. -/
theorem Stuck.step {s : Capture} (hs : s.Stuck) (h : s.Inv) (e : Event) : (s.step e).Stuck := by
  obtain ⟨w, r, hsub, hlt⟩ := hs
  refine ⟨w, r, ?_, hlt⟩
  rcases h.step_queues e with ⟨hwf, -, -⟩ | ⟨stream, q, rest, rfl, hqueue, hq, hnot, href, hc⟩
  · rw [hwf]
    exact hsub
  · obtain ⟨-, -, hcases⟩ := V4L2Camera.sResultCallback_spec h.queue_increasing h.parked h.nodup hq
      hnot ((h.request _ _).mpr ⟨hq, hnot, rfl⟩)
    have hparked := V4L2Camera.sResultCallback_sets h.queue_increasing h.parked h.nodup hq
      hnot ((h.request _ _).mpr ⟨hq, hnot, rfl⟩)
    rw [← hc] at hcases hparked
    rcases hcases with ⟨-, -, -, hwf⟩ | ⟨ps, hrf, -, hwf, -⟩
    · rw [hwf]
      exact hsub.trans (List.sublist_append_left _ _)
    · have hinc := h.queue_increasing
      rw [hrf] at hinc
      obtain ⟨hps, -, hbefore⟩ := List.pairwise_append.mp (List.Pairwise.of_cons hinc)
      rw [hwf, List.sublist_append_iff] at hsub
      obtain ⟨l₁, l₂, heq, hl₁, hl₂⟩ := hsub
      cases l₁ with
      | nil =>
          rw [heq]
          exact hl₂
      | cons w' l₁ =>
          exfalso
          rw [List.cons_append, List.cons.injEq] at heq
          obtain ⟨rfl, heq⟩ := heq
          have hwps : w ∈ ps := hl₁.subset (by simp)
          cases l₁ with
          | nil =>
              -- the older one is still parked, so it is still queued
              rw [List.nil_append] at heq
              have hr : r ∈ l₂ := by simp [← heq]
              have := hbefore w hwps r (hparked.2.1 r (hl₂.subset hr))
              omega
          | cons r' l₁ =>
              rw [List.cons_append, List.cons.injEq] at heq
              obtain ⟨rfl, -⟩ := heq
              have := List.rel_of_pairwise_cons (hps.sublist hl₁) (List.mem_cons_self ..)
              omega

/-- A request that is not parked in order is parked behind a newer one. -/
theorem Inv.stuck {s : Capture} (h : s.Inv) {e : Event} (horder : ¬ s.ParksInOrder e) :
    (s.step e).Stuck := by
  rcases h.step_queues e with ⟨-, -, hin⟩ | ⟨stream, r, rest, rfl, hqueue, hr, hnot, href, hc⟩
  · exact absurd hin horder
  · obtain ⟨-, -, hcases⟩ := V4L2Camera.sResultCallback_spec h.queue_increasing h.parked h.nodup hr
      hnot ((h.request _ _).mpr ⟨hr, hnot, rfl⟩)
    rw [← hc] at hcases
    have hframe : (∀ q ∈ s.camera.rfequest_queue_stream.head?, q.frame_number ≠ r.frame_number) ∧
        ∃ w ∈ s.camera.wfequest_queue_stream, ¬ w.frame_number < r.frame_number := by
      by_contra hno
      apply horder
      intro f hf _
      simp only [hqueue, List.head?_cons, Option.mem_def, Option.some.injEq] at hf
      subst hf
      by_contra hneither
      push Not at hneither
      refine hno ⟨hneither.1, ?_⟩
      obtain ⟨w, hw, hle⟩ := hneither.2
      exact ⟨w, hw, by omega⟩
    obtain ⟨hhead, w, hw, hle⟩ := hframe
    rcases hcases with ⟨-, -, -, hwf⟩ | ⟨ps, hrf, -⟩
    · have hne : w.frame_number ≠ r.frame_number := by
        intro heq
        have hwr : w = r := h.queue_increasing.eq_of_frame_number (h.parked w hw) hr heq
        exact hnot (hwr ▸ hw)
      refine ⟨w, r, ?_, by omega⟩
      rw [hwf]
      exact (List.singleton_sublist.mpr hw).append (List.Sublist.refl [r])
    · exact absurd rfl (hhead r (by simp [hrf]))

/-! ## Runs -/

def Completes (s : Capture) : Prop :=
  s.CompletesInOrder ∧ (s.AllReported → s.Empty)

theorem reachable_inv {events : List Event}
    (hvalid : Guarded step (fun _ s e => s.Valid e) {} events) : (events.foldl step {}).Inv :=
  hvalid.invariant (fun _ s => s.Inv) inv_init fun _ _ _ h hv => h.step hv

theorem reachable_ordered {events : List Event}
    (hvalid : Guarded step (fun _ s e => s.Valid e) {} events)
    (horder : Guarded step (fun _ s e => s.ParksInOrder e) {} events) :
    (events.foldl step {}).Ordered := by
  have hboth := (hvalid.and horder).invariant (fun _ s => s.Inv ∧ s.Ordered)
    ⟨inv_init, List.Pairwise.nil, fun r hr => by simp at hr⟩
    fun _ s e h hok => ⟨h.1.step hok.1, h.2.step h.1 hok.1 hok.2⟩
  exact hboth.2

/-- A run that does not park in order is stuck from there on. -/
theorem reachable_stuck {events : List Event}
    (hvalid : Guarded step (fun _ s e => s.Valid e) {} events)
    (horder : ¬ Guarded step (fun _ s e => s.ParksInOrder e) {} events) :
    (events.foldl step {}).Stuck := by
  induction events using List.reverseRecOn with
  | nil => exact absurd (fun past e rest heq => by simp at heq) horder
  | append_singleton events e ih =>
      obtain ⟨hpast, -⟩ := guarded_concat.mp hvalid
      have hinv := reachable_inv hpast
      rw [List.foldl_append]
      by_cases hbefore : Guarded step (fun _ s e => s.ParksInOrder e) {} events
      · refine hinv.stuck fun hin => horder ?_
        exact guarded_concat.mpr ⟨hbefore, hin⟩
      · exact (ih hpast hbefore).step hinv e

/-- Requests are always completed in order, once, and with all of their buffers reported.  If every
request that is finished before the oldest one is newer than those that are parked, none is left
behind; and otherwise one is left when all buffers have been reported. -/
theorem capture_results_iff {events : List Event}
    (hvalid : Guarded step (fun _ s e => s.Valid e) {} events) :
    (∀ past, past <+: events → (past.foldl step {}).CompletesInOrder) ∧
      (Guarded step (fun _ s e => s.ParksInOrder e) {} events →
        ∀ past, past <+: events → (past.foldl step {}).Completes) ∧
      ((events.foldl step {}).AllReported →
        ((events.foldl step {}).Completes ↔
          Guarded step (fun _ s e => s.ParksInOrder e) {} events)) := by
  have hin : ∀ past, past <+: events → (past.foldl step {}).CompletesInOrder := fun past hpast =>
    (reachable_inv (hvalid.of_prefix hpast)).completesInOrder
  have hall : Guarded step (fun _ s e => s.ParksInOrder e) {} events →
      ∀ past, past <+: events → (past.foldl step {}).Completes := by
    intro horder past hpast
    have hvalid' := hvalid.of_prefix hpast
    have hordered := reachable_ordered hvalid' (horder.of_prefix hpast)
    exact ⟨hin past hpast, hordered.empty (reachable_inv hvalid')⟩
  refine ⟨hin, hall, fun hreported => ⟨?_, fun horder => hall horder events List.prefix_rfl⟩⟩
  intro hcompletes
  by_contra horder
  exact (reachable_stuck hvalid horder).not_empty (hcompletes.2 hreported)

instance (s : Capture) : (e : Event) → Decidable (s.Valid e)
  | .enqueueRequest _ => inferInstanceAs (Decidable (_ → _ ∧ _))
  | .wake => inferInstanceAs (Decidable True)
  | .dequeue _ => inferInstanceAs (Decidable True)

instance (s : Capture) : (e : Event) → Decidable (s.ParksInOrder e)
  | .dequeue stream => inferInstanceAs (Decidable (∀ f ∈ (s.queues stream).head?, _))
  | .wake => inferInstanceAs (Decidable True)
  | .enqueueRequest _ => inferInstanceAs (Decidable True)

instance (s : Capture) : Decidable s.AllReported :=
  inferInstanceAs (Decidable (∀ r ∈ s.submitted, _))

/-- The second and the third request are finished, in this order, before the first one. -/
theorem capture_results_two_parked :
    let events : List Event :=
      [.enqueueRequest ⟨1, [.sub0]⟩, .enqueueRequest ⟨2, [.main]⟩,
        .enqueueRequest ⟨3, [.main, .mainBlob]⟩, .dequeue .main, .dequeue .main, .dequeue .mainBlob,
        .dequeue .sub0]
    (events.foldl step {}).AllReported ∧ (events.foldl step {}).Completes := by
  intro events
  have hvalid : Guarded step (fun _ s e => s.Valid e) {} events := by decide
  have hreported : (events.foldl step {}).AllReported := by decide
  have horder : Guarded step (fun _ s e => s.ParksInOrder e) {} events := by decide
  exact ⟨hreported, ((capture_results_iff hvalid).2.2 hreported).mpr horder⟩

/-- Three requests are finished in reverse order: the third and the second one are left. -/
theorem capture_results_reversed :
    let events : List Event :=
      [.enqueueRequest ⟨1, [.sub0]⟩, .enqueueRequest ⟨2, [.mainBlob]⟩,
        .enqueueRequest ⟨3, [.main]⟩, .dequeue .main, .dequeue .mainBlob, .dequeue .sub0]
    Guarded step (fun _ s e => s.Valid e) {} events ∧ (events.foldl step {}).AllReported ∧
      (events.foldl step {}).camera.rfequest_queue_stream.map (·.frame_number) = [2, 3] ∧
      (events.foldl step {}).camera.wfequest_queue_stream.map (·.frame_number) = [3, 2] ∧
      ¬ (events.foldl step {}).Completes := by
  intro events
  have hreported : (events.foldl step {}).AllReported := by decide
  refine ⟨by decide, hreported, by decide, by decide, ?_⟩
  intro hcompletes
  exact absurd (hcompletes.2 hreported).2.1 (by decide)

end Capture

end AwHal.Camera
