import Mathlib.Data.List.Nodup
import AwHal.Lib.GuardedRun

/-!
# The buffers of a `V4L2Stream`

The driver of the sensor fills the buffers that are queued with it.  The dequeue thread takes a
filled buffer with `DequeueBuffer`, which puts its index into `buffers_num_` before it returns the
address of the picture; `sYUVmainDequeue` then copies and encodes the picture.  The enqueue thread
takes the indices out of `buffers_num_` in `EnqueueBuffer` and queues the buffers again.
-/

namespace AwHal.Camera

open AwHal.Lib

def DROP_BUFFERS_NUM : Nat := 3

/-- Who gets the picture, in the order of `sYUVmainDequeue`. -/
inductive Consumer where
  | main
  | mainBlob
  | mainMirror
  | mainMirrorBlob
deriving DecidableEq, Repr

def consumers : List Consumer := [.main, .mainBlob, .mainMirror, .mainMirrorBlob]

/-- `copybuffer` holds `cmd_queue_lock_`, which queueing a buffer takes; `encodebuffer` does not. -/
def Consumer.copies : Consumer → Bool
  | .main => true
  | .mainBlob => false
  | .mainMirror => true
  | .mainMirrorBlob => false

/-- Where the dequeue thread is.  `src` is the index whose address is in `src_addr`, and `none` if
that is the address of the test pattern. -/
inductive DequeueThread where
  | idle
  | dequeued (index : Nat) (src : Option Nat)
  | returned (src : Option Nat) (consumer : Consumer) (left : List Consumer)
  | reading (src : Option Nat) (consumer : Consumer) (left : List Consumer)
deriving DecidableEq, Repr

structure StreamBuffers where
  buffers_num : List Nat := []
  -- the indices that are queued with the driver
  driver : List Nat
  -- the index that `EnqueueBuffer` has taken and not yet queued
  taken : Option Nat := none
  thread : DequeueThread := .idle
  drop_number : Nat := 0
  mDrop_main_buffers : Nat := 0
  -- a record of the run: how many indices were free when the last one was put back, and which of the
  -- `VIDIOC_QBUF` since then succeeded
  free : Nat := 0
  queued : List Bool := []
deriving DecidableEq, Repr

namespace StreamBuffers

def prepared (n : Nat) : StreamBuffers := { driver := List.range n }

def nextConsumer (src : Option Nat) : List Consumer → DequeueThread
  | [] => .idle
  | consumer :: left => .returned src consumer left

def dequeueBuffer (s : StreamBuffers) (index : Nat) (mTestPattern : Bool) : StreamBuffers :=
  match s.thread with
  | .idle =>
      if index ∈ s.driver then
        { s with
          driver := s.driver.erase index
          thread := .dequeued index (if mTestPattern then none else some index) }
      else s
  | _ => s

/-- The rest of `DequeueBuffer` puts the index back, and the pass goes on unless the picture is
dropped.  `flashing` says that there is a flash mode and `mFlashOk` is not set. -/
def putBack (s : StreamBuffers) (flashing : Bool) : StreamBuffers :=
  match s.thread with
  | .dequeued index src =>
      let s := { s with
        free := s.taken.toList.length + s.buffers_num.length
        queued := []
        buffers_num := s.buffers_num ++ [index] }
      if flashing ∧ s.drop_number ≤ 5 then
        { s with drop_number := s.drop_number + 1, thread := .idle }
      else
        let s := { s with drop_number := 0 }
        if s.mDrop_main_buffers ≤ DROP_BUFFERS_NUM then
          { s with mDrop_main_buffers := s.mDrop_main_buffers + 1, thread := .idle }
        else
          { s with thread := nextConsumer src consumers }
  | _ => s

def getBuffer (s : StreamBuffers) (found : Bool) : StreamBuffers :=
  match s.thread with
  | .returned src consumer left =>
      { s with thread := if found then .reading src consumer left else nextConsumer src left }
  | _ => s

def finish (s : StreamBuffers) : StreamBuffers :=
  match s.thread with
  | .reading src _ left => { s with thread := nextConsumer src left }
  | _ => s

def takeIndex (s : StreamBuffers) : StreamBuffers :=
  match s.taken, s.buffers_num with
  | none, index :: rest => { s with taken := some index, buffers_num := rest }
  | _, _ => s

def cmdQueueLocked (s : StreamBuffers) : Bool :=
  match s.thread with
  | .reading _ consumer _ => consumer.copies
  | _ => false

def queueBuffer (s : StreamBuffers) (succeeds : Bool) : StreamBuffers :=
  match s.taken with
  | none => s
  | some index =>
      if s.cmdQueueLocked then s
      else
        { s with
          taken := none
          driver := if succeeds then s.driver ++ [index] else s.driver
          queued := s.queued ++ [succeeds] }

inductive Event where
  | dequeueBuffer (index : Nat) (mTestPattern : Bool)
  | putBack (flashing : Bool)
  | getBuffer (found : Bool)
  | finish
  | takeIndex
  | queueBuffer (succeeds : Bool)
deriving DecidableEq, Repr

def step (s : StreamBuffers) : Event → StreamBuffers
  | .dequeueBuffer index mTestPattern => s.dequeueBuffer index mTestPattern
  | .putBack flashing => s.putBack flashing
  | .getBuffer found => s.getBuffer found
  | .finish => s.finish
  | .takeIndex => s.takeIndex
  | .queueBuffer succeeds => s.queueBuffer succeeds

def reading (s : StreamBuffers) : Option Nat :=
  match s.thread with
  | .reading src _ _ => src
  | _ => none

/-- The picture that is read does not belong to the driver. -/
def NotOverwritten (s : StreamBuffers) : Prop :=
  ∀ index ∈ s.reading, index ∉ s.driver

/-- While the picture is read, the enqueue thread has not yet queued more buffers than were free when
the index was put back: the next one it queues would be that of the picture. -/
def InTime (s : StreamBuffers) : Prop :=
  s.reading ≠ none → s.queued[s.free]? ≠ some true

instance (s : StreamBuffers) : Decidable s.NotOverwritten :=
  inferInstanceAs (Decidable (∀ index ∈ s.reading, _))

instance (s : StreamBuffers) : Decidable s.InTime :=
  inferInstanceAs (Decidable (_ → _))

/-! ## Where the indices are -/

def waiting (s : StreamBuffers) : List Nat :=
  s.taken.toList ++ s.buffers_num

def held (s : StreamBuffers) : List Nat :=
  match s.thread with
  | .dequeued index _ => [index]
  | _ => []

def source (s : StreamBuffers) : Option Nat :=
  match s.thread with
  | .returned src _ _ => src
  | .reading src _ _ => src
  | _ => none

/-- Where an index is that was put back behind `free` others, after the buffers in `queued`. -/
def Follows (s : StreamBuffers) (index : Nat) : Prop :=
  if s.queued.length ≤ s.free then s.waiting[s.free - s.queued.length]? = some index
  else index ∉ s.waiting ∧ (index ∈ s.driver ↔ s.queued[s.free]? = some true)

structure Inv (s : StreamBuffers) : Prop where
  nodup : (s.waiting ++ s.held ++ s.driver).Nodup
  held : ∀ index src, s.thread = .dequeued index src → src = none ∨ src = some index
  follows : ∀ index ∈ s.source, s.Follows index

theorem Inv.not_mem_driver {s : StreamBuffers} (h : s.Inv) {index : Nat}
    (hmem : index ∈ s.waiting ++ s.held) : index ∉ s.driver :=
  fun hdriver => (List.nodup_append.mp h.nodup).2.2 index hmem index hdriver rfl

theorem Inv.mem_driver_iff {s : StreamBuffers} (h : s.Inv) {index : Nat}
    (hfollows : s.Follows index) : index ∈ s.driver ↔ s.queued[s.free]? = some true := by
  unfold Follows at hfollows
  split at hfollows
  · rename_i hle
    have hnone : s.queued[s.free]? = none := List.getElem?_eq_none hle
    have hnot := h.not_mem_driver (List.mem_append_left _ (List.mem_of_getElem? hfollows))
    simp [hnone, hnot]
  · exact hfollows.2

theorem reading_source {s : StreamBuffers} {index : Nat} (h : index ∈ s.reading) :
    index ∈ s.source := by
  unfold reading at h
  unfold source
  split at h
  · rename_i hthread
    rw [hthread]
    exact h
  · cases h

theorem Inv.notOverwritten_iff {s : StreamBuffers} (h : s.Inv) : s.NotOverwritten ↔ s.InTime := by
  unfold NotOverwritten InTime
  cases hreading : s.reading with
  | none => simp
  | some index =>
      have hfollows := h.follows index (reading_source hreading)
      simp [h.mem_driver_iff hfollows]

/-! ## Runs -/

theorem prepared_inv (n : Nat) : (prepared n).Inv where
  nodup := by simpa [prepared, waiting, held] using List.nodup_range
  held := fun index src h => by cases h
  follows := fun index h => by cases h

theorem Inv.dequeueBuffer {s : StreamBuffers} (h : s.Inv) (index : Nat) (mTestPattern : Bool) :
    (s.dequeueBuffer index mTestPattern).Inv := by
  unfold StreamBuffers.dequeueBuffer
  split
  · rename_i hidle
    split
    · rename_i hmem
      refine ⟨?_, ?_, fun i hi => by cases hi⟩
      · have hperm : (s.waiting ++ s.driver).Perm
            (s.waiting ++ ([index] ++ s.driver.erase index)) :=
          (List.perm_cons_erase hmem).append_left s.waiting
        have hnodup := h.nodup
        simp only [StreamBuffers.held, hidle, List.append_nil] at hnodup
        have := hperm.nodup_iff.mp hnodup
        rw [← List.append_assoc] at this
        exact this
      · intro i src heq
        cases heq
        cases mTestPattern
        · exact Or.inr rfl
        · exact Or.inl rfl
    · exact h
  · exact h

theorem held_eq_nil {s : StreamBuffers} (h : ∀ index src, s.thread ≠ .dequeued index src) :
    s.held = [] := by
  unfold StreamBuffers.held
  split
  · rename_i index src hthread
    exact absurd hthread (h index src)
  · rfl

theorem Inv.setThread {s : StreamBuffers} (h : s.Inv) (hheld : s.held = []) {t : DequeueThread}
    (ht : ∀ index src, t ≠ .dequeued index src)
    (hsource : ∀ index ∈ source { s with thread := t }, index ∈ s.source) :
    Inv { s with thread := t } where
  nodup := by
    rw [held_eq_nil ht]
    have hnodup := h.nodup
    rw [hheld] at hnodup
    exact hnodup
  held := fun index src heq => absurd heq (ht index src)
  follows := fun index hindex => h.follows index (hsource index hindex)

theorem Inv.place {s s' : StreamBuffers} (h : s.Inv) {index : Nat} {src : Option Nat}
    (hthread : s.thread = .dequeued index src) (htaken : s'.taken = s.taken)
    (hbuffers : s'.buffers_num = s.buffers_num ++ [index]) (hdriver : s'.driver = s.driver)
    (hfree : s'.free = s.waiting.length) (hqueued : s'.queued = [])
    (hthread' : ∀ i src', s'.thread ≠ .dequeued i src') (hsource : ∀ i ∈ s'.source, i ∈ src) :
    s'.Inv := by
  have hwaiting : s'.waiting = s.waiting ++ [index] := by
    rw [waiting, htaken, hbuffers, ← List.append_assoc]
    rfl
  refine ⟨?_, fun i src' heq => absurd heq (hthread' i src'), ?_⟩
  · rw [hwaiting, hdriver, held_eq_nil hthread', List.append_nil]
    have hnodup := h.nodup
    simp only [StreamBuffers.held, hthread] at hnodup
    exact hnodup
  · intro i hi
    have hsrc := hsource i hi
    have hindex : i = index := by
      rcases h.held index src hthread with rfl | rfl
      · cases hsrc
      · exact (Option.some.inj hsrc).symm
    subst hindex
    unfold Follows
    rw [hqueued, List.length_nil, if_pos (Nat.zero_le _), hwaiting, hfree]
    simp

theorem nextConsumer_ne (src : Option Nat) (left : List Consumer) (index : Nat)
    (src' : Option Nat) : nextConsumer src left ≠ .dequeued index src' := by
  cases left <;> simp [nextConsumer]

theorem source_nextConsumer {s : StreamBuffers} {src : Option Nat} (left : List Consumer)
    {index : Nat} (hthread : s.thread = nextConsumer src left) (h : index ∈ s.source) :
    index ∈ src := by
  cases left with
  | nil =>
      simp only [source, hthread, nextConsumer] at h
      cases h
  | cons consumer left =>
      simp only [source, hthread, nextConsumer] at h
      exact h

theorem Inv.putBack {s : StreamBuffers} (h : s.Inv) (flashing : Bool) :
    (s.putBack flashing).Inv := by
  unfold StreamBuffers.putBack
  split
  · rename_i index src hthread
    have hlength : s.taken.toList.length + s.buffers_num.length = s.waiting.length := by
      simp [waiting]
    dsimp only
    split
    · exact h.place hthread rfl rfl rfl hlength rfl (fun _ _ => by simp) fun i hi => by cases hi
    · split
      · exact h.place hthread rfl rfl rfl hlength rfl (fun _ _ => by simp) fun i hi => by cases hi
      · exact h.place hthread rfl rfl rfl hlength rfl (nextConsumer_ne src consumers)
          fun i hi => source_nextConsumer consumers rfl hi
  · exact h

theorem Inv.getBuffer {s : StreamBuffers} (h : s.Inv) (found : Bool) : (s.getBuffer found).Inv := by
  unfold StreamBuffers.getBuffer
  split
  · rename_i src consumer left hthread
    have hheld : s.held = [] := by simp [StreamBuffers.held, hthread]
    have hsource : s.source = src := by simp [source, hthread]
    cases found with
    | false =>
        refine h.setThread hheld (nextConsumer_ne src left) fun i hi => ?_
        rw [hsource]
        exact source_nextConsumer left rfl hi
    | true =>
        refine h.setThread hheld (fun _ _ => by simp) fun i hi => ?_
        rw [hsource]
        exact hi
  · exact h

theorem Inv.finish {s : StreamBuffers} (h : s.Inv) : s.finish.Inv := by
  unfold StreamBuffers.finish
  split
  · rename_i src consumer left hthread
    have hheld : s.held = [] := by simp [StreamBuffers.held, hthread]
    have hsource : s.source = src := by simp [source, hthread]
    refine h.setThread hheld (nextConsumer_ne src left) fun i hi => ?_
    rw [hsource]
    exact source_nextConsumer left rfl hi
  · exact h

theorem Inv.takeIndex {s : StreamBuffers} (h : s.Inv) : s.takeIndex.Inv := by
  unfold StreamBuffers.takeIndex
  split
  · rename_i index rest htaken hbuffers
    have hwaiting : waiting { s with taken := some index, buffers_num := rest } = s.waiting := by
      simp [waiting, htaken, hbuffers]
    refine ⟨?_, h.held, fun i hi => ?_⟩
    · rw [hwaiting]
      exact h.nodup
    · have hfollows := h.follows i hi
      unfold Follows at hfollows ⊢
      rw [hwaiting]
      exact hfollows
  · exact h

theorem Inv.queueBuffer {s : StreamBuffers} (h : s.Inv) (succeeds : Bool) :
    (s.queueBuffer succeeds).Inv := by
  unfold StreamBuffers.queueBuffer
  split
  · exact h
  · rename_i front htaken
    split
    · exact h
    · have hwaiting : s.waiting = front :: s.buffers_num := by simp [waiting, htaken]
      have hnodup := h.nodup
      rw [hwaiting] at hnodup
      have hfront : front ∉ s.buffers_num := by
        simp only [List.cons_append, List.nodup_cons, List.mem_append, not_or] at hnodup
        exact hnodup.1.1.1
      refine ⟨?_, h.held, fun i hi => ?_⟩
      · change (s.buffers_num ++ s.held ++ _).Nodup
        cases succeeds with
        | false =>
            simp only [List.cons_append, List.nodup_cons] at hnodup
            exact hnodup.2
        | true =>
            have hperm : ((front :: s.buffers_num) ++ s.held ++ s.driver).Perm
                (s.buffers_num ++ s.held ++ (s.driver ++ [front])) := by
              rw [← List.append_assoc]
              exact (List.perm_append_singleton front _).symm
            exact hperm.nodup_iff.mp hnodup
      · have hfollows := h.follows i hi
        unfold Follows at hfollows ⊢
        rw [hwaiting] at hfollows
        change if (s.queued ++ [succeeds]).length ≤ s.free then
            s.buffers_num[s.free - (s.queued ++ [succeeds]).length]? = some i
          else i ∉ s.buffers_num ∧ (i ∈ (if succeeds then s.driver ++ [front] else s.driver) ↔
            (s.queued ++ [succeeds])[s.free]? = some true)
        rw [List.length_append, List.length_singleton]
        rcases Nat.lt_trichotomy s.queued.length s.free with hlt | heq | hgt
        · -- one place further to the front
          rw [if_pos (by omega)] at hfollows ⊢
          rw [show s.free - s.queued.length = s.free - (s.queued.length + 1) + 1 by omega,
            List.getElem?_cons_succ] at hfollows
          exact hfollows
        · -- its own turn
          rw [if_pos (by omega), heq, Nat.sub_self, List.getElem?_cons_zero,
            Option.some.injEq] at hfollows
          subst hfollows
          rw [if_neg (by omega), ← heq, List.getElem?_append_right (Nat.le_refl _)]
          have hdriver : front ∉ s.driver := h.not_mem_driver (by simp [hwaiting])
          refine ⟨hfront, ?_⟩
          cases succeeds <;> simp [hdriver]
        · rw [if_neg (by omega)] at hfollows ⊢
          rw [List.mem_cons, not_or] at hfollows
          refine ⟨hfollows.1.2, ?_⟩
          rw [List.getElem?_append_left (by omega), ← hfollows.2]
          cases succeeds with
          | false => rfl
          | true => simp [hfollows.1.1]

theorem Inv.step {s : StreamBuffers} (h : s.Inv) (e : Event) : (s.step e).Inv := by
  cases e with
  | dequeueBuffer index mTestPattern => exact h.dequeueBuffer index mTestPattern
  | putBack flashing => exact h.putBack flashing
  | getBuffer found => exact h.getBuffer found
  | finish => exact h.finish
  | takeIndex => exact h.takeIndex
  | queueBuffer succeeds => exact h.queueBuffer succeeds

theorem reachable_inv (n : Nat) (events : List Event) : (events.foldl step (prepared n)).Inv := by
  induction events using List.reverseRecOn with
  | nil => exact prepared_inv n
  | append_singleton events e ih =>
      rw [List.foldl_append]
      exact ih.step e

/-- No picture is overwritten in any state of a run exactly when, while a picture is read, the enqueue
thread never comes to queue the buffer behind those that were free. -/
theorem pictures_not_overwritten_iff (n : Nat) (events : List Event) :
    (∀ past, past <+: events → (past.foldl step (prepared n)).NotOverwritten) ↔
      ∀ past, past <+: events → (past.foldl step (prepared n)).InTime :=
  forall_congr' fun past => imp_congr_right fun _ => (reachable_inv n past).notOverwritten_iff

/-- Four pictures are dropped; the fifth is encoded, and its buffer is queued meanwhile. -/
theorem picture_overwritten_while_encoded :
    let dropped : List Event :=
      [.dequeueBuffer 0 false, .putBack false, .takeIndex, .queueBuffer true]
    let events := dropped ++ dropped ++ dropped ++ dropped ++
      [.dequeueBuffer 0 false, .putBack false, .getBuffer false, .getBuffer true, .takeIndex,
        .queueBuffer true]
    (events.foldl step (prepared 3)).reading = some 0 ∧
      0 ∈ (events.foldl step (prepared 3)).driver ∧
      ¬ (events.foldl step (prepared 3)).NotOverwritten := by
  decide

end StreamBuffers

end AwHal.Camera
