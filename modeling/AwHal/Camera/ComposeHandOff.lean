import AwHal.Lib.GuardedRun
import AwHal.Lib.SlotRing

/-!
# The compose buffers of a `CameraManager`

`composeThread` puts the frames of the cameras together in a compose buffer, and `previewThread` shows
it.  The buffers form a ring, `mComposeBuf`, whose indices and count are moved under `mPreviewMutex`.
`previewThread` gives a buffer up when it takes it, before it uses it, and looks whether there is one
without the lock.

A step is what a thread does under the lock, or one access outside it.
-/

namespace AwHal.Camera.ComposeHandOff

open AwHal.Lib

variable {α : Type}

/-- Where `composeThread` is: without a buffer to compose into, or with `writeBuffer`. -/
inductive ComposeThread where
  | idle
  | filling (writeBuffer : Nat)
deriving DecidableEq, Repr

/-- Where `previewThread` is in one iteration. -/
inductive PreviewThread where
  /-- At the test of `buf_used`. -/
  | test
  /-- It saw no buffer and is about to wait on `mPreviewCond`. -/
  | lock
  /-- In `pthread_cond_wait`, and whether `mPreviewCond` was signalled since. -/
  | waiting (signalled : Bool)
  | take
  /-- With `buf`, until the next iteration. -/
  | use (buf : Nat)
deriving DecidableEq, Repr

structure CameraManager (α : Type) where
  mComposeBuf : SlotRing α
  compose : ComposeThread
  preview : PreviewThread
  /-- The frames that `composeThread` has queued, in order. -/
  composed : List α
  /-- The frames that `previewThread` has taken, in order. -/
  previewed : List α

inductive Event (α : Type) where
  | getAvailableWriteBuf
  /-- `composeThread` writes into its buffer. -/
  | fill (frame : α)
  | queueComposeBuf
  | testBufUsed
  | condWait
  | wakeUp
  | take
  /-- `previewThread` writes into its buffer: the size, or a black picture while frames are
  abandoned. -/
  | draw (frame : α)
  | nextIteration

/-- The constructor clears the ring; the buffers hold what `composeBufInit` wrote. -/
def initial (buf : Nat → α) : CameraManager α where
  mComposeBuf :=
    { buf
      write_id := 0
      read_id := 0
      buf_used := 0 }
  compose := .idle
  preview := .test
  composed := []
  previewed := []

section

variable (NB_COMPOSE_BUFFER : Nat) (s : CameraManager α)

def getAvailableWriteBuf : Option Nat :=
  if s.mComposeBuf.buf_used < (NB_COMPOSE_BUFFER : Int) - 1 then some s.mComposeBuf.write_id else none

/-- `pthread_cond_signal` on `mPreviewCond`: lost when nobody waits. -/
def signal : PreviewThread → PreviewThread
  | .waiting _ => .waiting true
  | thread => thread

def queueComposeBuf : CameraManager α :=
  { s with
    mComposeBuf := s.mComposeBuf.push NB_COMPOSE_BUFFER
    preview := signal s.preview }

def takePreview : CameraManager α :=
  { s with
    mComposeBuf := s.mComposeBuf.pop NB_COMPOSE_BUFFER
    preview := .use s.mComposeBuf.read_id
    previewed := s.previewed ++ [s.mComposeBuf.buf s.mComposeBuf.read_id] }

/-- An event that its thread is not ready for leaves the state alone. -/
def step : Event α → CameraManager α
  | .getAvailableWriteBuf =>
      match s.compose, getAvailableWriteBuf NB_COMPOSE_BUFFER s with
      | .idle, some writeBuffer => { s with compose := .filling writeBuffer }
      | _, _ => s
  | .fill frame =>
      match s.compose with
      | .filling writeBuffer => { s with mComposeBuf := s.mComposeBuf.write writeBuffer frame }
      | .idle => s
  | .queueComposeBuf =>
      match s.compose with
      | .filling writeBuffer =>
          { queueComposeBuf NB_COMPOSE_BUFFER s with
            compose := .idle
            composed := s.composed ++ [s.mComposeBuf.buf writeBuffer] }
      | .idle => s
  | .testBufUsed =>
      match s.preview with
      | .test => { s with preview := if s.mComposeBuf.buf_used ≤ 0 then .lock else .take }
      | _ => s
  | .condWait =>
      match s.preview with
      | .lock => { s with preview := .waiting false }
      | _ => s
  | .wakeUp =>
      match s.preview with
      | .waiting true => { s with preview := .take }
      | _ => s
  | .take =>
      match s.preview with
      | .take => takePreview NB_COMPOSE_BUFFER s
      | _ => s
  | .draw frame =>
      match s.preview with
      | .use buf => { s with mComposeBuf := s.mComposeBuf.write buf frame }
      | _ => s
  | .nextIteration =>
      match s.preview with
      | .use _ => { s with preview := .test }
      | _ => s

end

def run (NB_COMPOSE_BUFFER : Nat) (buf : Nat → α) (events : List (Event α)) : CameraManager α :=
  events.foldl (step NB_COMPOSE_BUFFER) (initial buf)

def Event.ofComposeThread : Event α → Prop
  | .getAvailableWriteBuf => True
  | .fill _ => True
  | .queueComposeBuf => True
  | _ => False

/-! ## The invariant -/

def PreviewThread.sure : PreviewThread → Prop
  | .take => True
  | .waiting signalled => signalled = true
  | _ => False

/-- The slot being filled lies right behind the slots in use, and a whole slot more stays free; the
slot that the preview uses is the last one taken, the one furthest behind. -/
structure Inv (N : Nat) (s : CameraManager α) : Prop where
  fits : s.mComposeBuf.Fits N
  used_lt : s.mComposeBuf.buf_used < N
  frames : s.composed = s.previewed ++ s.mComposeBuf.contents N
  filling : ∀ w, s.compose = .filling w →
    w = s.mComposeBuf.write_id ∧ s.mComposeBuf.buf_used + 1 < N
  sure : s.preview.sure → 0 < s.mComposeBuf.buf_used
  use : ∀ b, s.preview = .use b → b = slotAfter N s.mComposeBuf.read_id (N - 1)

variable {N : Nat} {s : CameraManager α}

theorem Inv.initial (hN : 2 ≤ N) (buf : Nat → α) : Inv N (initial buf) where
  fits := SlotRing.fits_empty buf (by omega)
  used_lt := by
    show (0 : Int) < N
    omega
  frames := rfl
  filling := by
    intro w h
    cases h
  sure := fun h => h.elim
  use := by
    intro b h
    cases h

theorem getAvailableWriteBuf_eq_some {w : Nat} (h : getAvailableWriteBuf N s = some w) :
    w = s.mComposeBuf.write_id ∧ s.mComposeBuf.buf_used + 1 < N := by
  unfold getAvailableWriteBuf at h
  split at h
  · rename_i hroom
    cases h
    exact ⟨rfl, by omega⟩
  · cases h

/-- The slot being filled is not the one that the preview uses: the count stays one below the size. -/
theorem Inv.ne (h : Inv N s) {w b : Nat} (hw : s.compose = .filling w) (hb : s.preview = .use b) :
    w ≠ b := by
  obtain ⟨hw, hroom⟩ := h.filling w hw
  have hused := h.fits.used_nonneg
  rw [hw, h.use b hb, h.fits.write_eq]
  exact slotAfter_ne (by omega) (by omega)

theorem Inv.getAvailableWriteBuf (h : Inv N s) : Inv N (step N s .getAvailableWriteBuf) := by
  simp only [step]
  split
  · rename_i w _ hget
    refine ⟨h.fits, h.used_lt, h.frames, ?_, h.sure, h.use⟩
    intro w' hw'
    cases hw'
    exact getAvailableWriteBuf_eq_some hget
  · exact h

theorem Inv.fill (h : Inv N s) (frame : α) : Inv N (step N s (.fill frame)) := by
  simp only [step]
  split
  · rename_i w hw
    refine ⟨h.fits.write w frame, h.used_lt, ?_, h.filling, h.sure, h.use⟩
    show s.composed = s.previewed ++ (s.mComposeBuf.write w frame).contents N
    rw [(h.filling w hw).1, h.fits.contents_write_next h.used_lt]
    exact h.frames
  · exact h

theorem signal_eq_use {thread : PreviewThread} {b : Nat} (h : signal thread = .use b) :
    thread = .use b := by
  cases thread with
  | waiting signalled => cases h
  | _ => exact h

theorem Inv.queueComposeBuf (h : Inv N s) : Inv N (step N s .queueComposeBuf) := by
  simp only [step]
  split
  · rename_i w hw
    obtain ⟨rfl, hroom⟩ := h.filling w hw
    have hused := h.fits.used_nonneg
    refine ⟨h.fits.push h.used_lt, ?_, ?_, ?_, ?_, ?_⟩
    · exact hroom
    · show s.composed ++ _ = s.previewed ++ (s.mComposeBuf.push N).contents N
      rw [h.fits.contents_push, ← List.append_assoc, h.frames]
    · intro w' hw'
      cases hw'
    · intro _
      show 0 < s.mComposeBuf.buf_used + 1
      omega
    · intro b hb
      exact h.use b (signal_eq_use hb)
  · exact h

theorem Inv.testBufUsed (h : Inv N s) : Inv N (step N s .testBufUsed) := by
  simp only [step]
  split
  · refine ⟨h.fits, h.used_lt, h.frames, h.filling, ?_, ?_⟩
    · intro hsure
      by_cases hused : s.mComposeBuf.buf_used ≤ 0
      · rw [if_pos hused] at hsure
        exact hsure.elim
      · show 0 < s.mComposeBuf.buf_used
        omega
    · intro b hb
      have hb : (if s.mComposeBuf.buf_used ≤ 0 then PreviewThread.lock else .take) = .use b := hb
      split at hb <;> cases hb
  · exact h

/-- Only `queueComposeBuf` signals, so a thread that starts to wait finds no buffer for sure. -/
theorem Inv.condWait (h : Inv N s) : Inv N (step N s .condWait) := by
  simp only [step]
  split
  · refine ⟨h.fits, h.used_lt, h.frames, h.filling, ?_, ?_⟩
    · intro hsure
      cases hsure
    · intro b hb
      cases hb
  · exact h

theorem Inv.wakeUp (h : Inv N s) : Inv N (step N s .wakeUp) := by
  simp only [step]
  split
  · rename_i hwaiting
    refine ⟨h.fits, h.used_lt, h.frames, h.filling, ?_, ?_⟩
    · intro _
      apply h.sure
      rw [hwaiting]
      rfl
    · intro b hb
      cases hb
  · exact h

theorem Inv.take (h : Inv N s) : Inv N (step N s .take) := by
  simp only [step]
  split
  · rename_i htake
    have hsome : 0 < s.mComposeBuf.buf_used := by
      apply h.sure
      rw [htake]
      trivial
    have hlt := h.used_lt
    refine ⟨h.fits.pop hsome, ?_, ?_, ?_, ?_, ?_⟩
    · show s.mComposeBuf.buf_used - 1 < N
      omega
    · show s.composed = s.previewed ++ [_] ++ (s.mComposeBuf.pop N).contents N
      rw [h.frames, h.fits.contents_pop hsome, List.append_assoc]
      rfl
    · intro w hw
      obtain ⟨hw, hroom⟩ := h.filling w hw
      refine ⟨hw, ?_⟩
      show s.mComposeBuf.buf_used - 1 + 1 < N
      omega
    · intro hsure
      exact hsure.elim
    · intro b hb
      cases hb
      -- a whole round after the slot before the new read index
      show s.mComposeBuf.read_id = slotAfter N (nextSlot N s.mComposeBuf.read_id) (N - 1)
      have hread := h.fits.read_lt
      have hround : 1 + (N - 1) = N := by omega
      rw [nextSlot_eq hread, slotAfter_slotAfter, hround]
      unfold slotAfter
      rw [Nat.add_mod_right, Nat.mod_eq_of_lt hread]
  · exact h

theorem Inv.draw (h : Inv N s) (frame : α) : Inv N (step N s (.draw frame)) := by
  simp only [step]
  split
  · rename_i b hb
    refine ⟨h.fits.write b frame, h.used_lt, ?_, h.filling, h.sure, h.use⟩
    show s.composed = s.previewed ++ (s.mComposeBuf.write b frame).contents N
    have hlt := h.used_lt
    have hread := h.fits.read_lt
    rw [h.use b hb, SlotRing.contents_write (by omega) (by omega)]
    exact h.frames
  · exact h

theorem Inv.nextIteration (h : Inv N s) : Inv N (step N s .nextIteration) := by
  simp only [step]
  split
  · refine ⟨h.fits, h.used_lt, h.frames, h.filling, fun hsure => hsure.elim, ?_⟩
    intro b hb
    cases hb
  · exact h

theorem Inv.step (h : Inv N s) (e : Event α) : Inv N (step N s e) := by
  cases e with
  | getAvailableWriteBuf => exact h.getAvailableWriteBuf
  | fill frame => exact h.fill frame
  | queueComposeBuf => exact h.queueComposeBuf
  | testBufUsed => exact h.testBufUsed
  | condWait => exact h.condWait
  | wakeUp => exact h.wakeUp
  | take => exact h.take
  | draw frame => exact h.draw frame
  | nextIteration => exact h.nextIteration

theorem Inv.run (hN : 2 ≤ N) (buf : Nat → α) (events : List (Event α)) :
    Inv N (run N buf events) := by
  induction events using List.reverseRecOn with
  | nil => exact Inv.initial hN buf
  | append_singleton events e ih =>
      unfold ComposeHandOff.run at ih ⊢
      rw [List.foldl_append]
      exact ih.step e

theorem Inv.buf_eq (h : Inv N s) {b : Nat} (hb : s.preview = .use b) {e : Event α}
    (he : e.ofComposeThread) :
    (ComposeHandOff.step N s e).mComposeBuf.buf b = s.mComposeBuf.buf b := by
  cases e with
  | getAvailableWriteBuf =>
      simp only [ComposeHandOff.step]
      split <;> rfl
  | fill frame =>
      simp only [ComposeHandOff.step]
      split
      · rename_i w hw
        exact Function.update_of_ne (h.ne hw hb).symm frame s.mComposeBuf.buf
      · rfl
  | queueComposeBuf =>
      simp only [ComposeHandOff.step]
      split <;> rfl
  | _ => exact he.elim

/-- Whatever the order of their steps, the count stays one below the size of the ring, the preview
gets the composed frames in their order, and `composeThread` writes no buffer that the preview
uses. -/
theorem composeBuf_handOff (NB_COMPOSE_BUFFER : Nat) (hsize : 2 ≤ NB_COMPOSE_BUFFER) (buf : Nat → α)
    (events : List (Event α)) :
    let s := run NB_COMPOSE_BUFFER buf events
    0 ≤ s.mComposeBuf.buf_used ∧ s.mComposeBuf.buf_used ≤ NB_COMPOSE_BUFFER - 1 ∧
      s.composed = s.previewed ++ s.mComposeBuf.contents NB_COMPOSE_BUFFER ∧
      ∀ b, s.preview = .use b →
        s.compose ≠ .filling b ∧
        ∀ e : Event α, e.ofComposeThread →
          (step NB_COMPOSE_BUFFER s e).mComposeBuf.buf b = s.mComposeBuf.buf b := by
  intro s
  have h : Inv NB_COMPOSE_BUFFER s := Inv.run hsize buf events
  refine ⟨h.fits.used_nonneg, ?_, h.frames, ?_⟩
  · have hlt := h.used_lt
    omega
  · intro b hb
    exact ⟨fun hw => h.ne hw hb rfl, fun e he => h.buf_eq hb he⟩

/-- Two buffers: the second frame is filled while the first one is shown. -/
theorem composeBuf_handOff_two :
    let s := run 2 (fun _ => 0) [.getAvailableWriteBuf, .fill 7, .queueComposeBuf, .testBufUsed,
      .take, .getAvailableWriteBuf, .fill 8]
    s.preview = .use 0 ∧ s.compose = .filling 1 ∧ s.previewed = [7] ∧
      s.composed = s.previewed ++ s.mComposeBuf.contents 2 ∧
      (step 2 s (.fill 9)).mComposeBuf.buf 0 = s.mComposeBuf.buf 0 := by
  intro s
  have h := composeBuf_handOff 2 (Nat.le_refl 2) (fun _ => 0) [.getAvailableWriteBuf, .fill 7,
    .queueComposeBuf, .testBufUsed, .take, .getAvailableWriteBuf, .fill 8]
  exact ⟨by decide, by decide, by decide, h.2.2.1, (h.2.2.2 0 (by decide)).2 (.fill 9) trivial⟩

end AwHal.Camera.ComposeHandOff
