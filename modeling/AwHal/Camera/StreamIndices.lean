import Mathlib.Data.Finset.Card
import AwHal.Lib.GuardedRun

/-!
# The indices of a `V4L2Stream`

`RequestBuffers` gets a number of buffers from the driver.  From then on an index is in `buffers_num_`,
from where `PrepareBuffer` and `EnqueueBuffer` take it to queue the buffer with the driver, or it
belongs to the driver, until `DequeueBuffer` puts it back.
-/

namespace AwHal.Camera.StreamIndices

open AwHal.Lib

def EAGAIN : Int := 11
def ENODEV : Int := 19

structure V4L2Stream where
  buffers_ : List Bool := []
  buffers_num_ : List Nat := []
  buffer_cnt_inflight_ : Int := 0
  -- the indices that are queued with the driver
  driver : Finset Nat := ∅
deriving DecidableEq

inductive Dqbuf where
  | again
  | fails
  | gives (index : Nat)
deriving DecidableEq, Repr

namespace V4L2Stream

/-- `reqbufs` is the number of buffers that the driver can handle, if `VIDIOC_REQBUFS` succeeds. -/
def RequestBuffers (s : V4L2Stream) (num_requested : Nat) (reqbufs : Option Nat) :
    Int × V4L2Stream :=
  match reqbufs with
  | none => (-ENODEV, s)
  | some count =>
      -- the driver releases all buffers
      let s := { s with driver := ∅ }
      if num_requested > 0 ∧ count < 1 then (-ENODEV, s)
      else
        (0, { s with
          buffer_cnt_inflight_ := 0
          buffers_num_ := List.range count
          buffers_ := s.buffers_.take count ++ List.replicate (count - s.buffers_.length) false })

/-- `qbuf` says whether `VIDIOC_QBUF` succeeds. -/
def queueBuffer (s : V4L2Stream) (index : Nat) (qbuf : Bool) : Int × V4L2Stream :=
  if qbuf then
    (0, { s with
      driver := insert index s.driver
      buffer_cnt_inflight_ := s.buffer_cnt_inflight_ + 1 })
  else (-1, s)

/-- The second loop of `PrepareBuffer`, with `m` passes left; `front` of an empty queue is undefined. -/
def prepareLoop (qbuf : Nat → Bool) : Nat → Nat → V4L2Stream → Option (Int × V4L2Stream)
  | _, 0, s => some (0, s)
  | i, m + 1, s =>
      match s.buffers_num_ with
      | [] => none
      | index :: rest =>
          let (res, s) := { s with buffers_num_ := rest }.queueBuffer index (qbuf i)
          if res < 0 then some (-ENODEV, s) else prepareLoop qbuf (i + 1) m s

/-- `querybuf` and `qbuf` say for each pass of the two loops whether its ioctl succeeds. -/
def PrepareBuffer (s : V4L2Stream) (querybuf qbuf : Nat → Bool) : Option (Int × V4L2Stream) :=
  if ∃ i < s.buffers_.length, querybuf i = false then some (-ENODEV, s)
  else prepareLoop qbuf 0 s.buffers_.length s

/-- With no index in `buffers_num_` the call waits; it returns when the buffers are flushed. -/
def EnqueueBuffer (s : V4L2Stream) (qbuf : Bool) : Int × V4L2Stream :=
  match s.buffers_num_ with
  | [] => (0, s)
  | index :: rest =>
      let (res, s) := { s with buffers_num_ := rest }.queueBuffer index qbuf
      if res < 0 then (-ENODEV, s) else (0, { s with buffers_ := s.buffers_.set index true })

/-- The driver gives one of the buffers that it has.  `dropped` says that the picture is not used
because of the flash. -/
def DequeueBuffer (s : V4L2Stream) (dqbuf : Dqbuf) (dropped : Bool) : Int × V4L2Stream :=
  match dqbuf with
  | .again => (-EAGAIN, s)
  | .fails => (-ENODEV, s)
  | .gives index =>
      if index ∈ s.driver then
        (if dropped then -EAGAIN else 0, { s with
          driver := s.driver.erase index
          buffer_cnt_inflight_ := s.buffer_cnt_inflight_ - 1
          buffers_ := s.buffers_.set index false
          buffers_num_ := s.buffers_num_ ++ [index] })
      else (-EAGAIN, s)

end V4L2Stream

inductive Call where
  | prepareBuffer (querybuf qbuf : Nat → Bool)
  | enqueueBuffer (qbuf : Bool)
  | dequeueBuffer (dqbuf : Dqbuf) (dropped : Bool)

/-- After undefined behaviour there is no state. -/
def step (s : Option V4L2Stream) (c : Call) : Option V4L2Stream :=
  s.bind fun s =>
    match c with
    | .prepareBuffer querybuf qbuf => (s.PrepareBuffer querybuf qbuf).map Prod.snd
    | .enqueueBuffer qbuf => some (s.EnqueueBuffer qbuf).2
    | .dequeueBuffer dqbuf dropped => some (s.DequeueBuffer dqbuf dropped).2

/-- Each of the `n` indices is in one place, and the driver's are counted. -/
structure Conserved (n : Nat) (s : V4L2Stream) : Prop where
  one_place : ∀ i < n, Xor (i ∈ s.buffers_num_) (i ∈ s.driver)
  nodup : s.buffers_num_.Nodup
  inflight : s.buffer_cnt_inflight_ = s.driver.card

/-- `PrepareBuffer` fails before it takes an index, or all indices are there and the driver takes all
buffers; the buffer that `EnqueueBuffer` queues is taken too. -/
def Safe (_ : List Call) (s : Option V4L2Stream) : Call → Prop
  | .prepareBuffer querybuf qbuf => ∀ t ∈ s,
      (∃ i < t.buffers_.length, querybuf i = false) ∨
        t.buffers_.length ≤ t.buffers_num_.length ∧ ∀ i < t.buffers_.length, qbuf i = true
  | .enqueueBuffer qbuf => ∀ t ∈ s, t.buffers_num_ = [] ∨ qbuf = true
  | .dequeueBuffer _ _ => True

instance (past : List Call) (s : Option V4L2Stream) : (c : Call) → Decidable (Safe past s c)
  | .prepareBuffer _ _ => inferInstanceAs (Decidable (∀ t ∈ s, _ ∨ _))
  | .enqueueBuffer _ => inferInstanceAs (Decidable (∀ t ∈ s, _ ∨ _))
  | .dequeueBuffer _ _ => isTrue trivial

/-! ## What the calls keep -/

structure Inv (n : Nat) (s : V4L2Stream) : Prop extends Conserved n s where
  size : s.buffers_.length = n
  free_lt : ∀ i ∈ s.buffers_num_, i < n
  driver_lt : ∀ i ∈ s.driver, i < n

section

variable {n : Nat} {s : V4L2Stream} {index : Nat} {rest : List Nat}

theorem inv_RequestBuffers {prior : V4L2Stream} {num_requested : Nat}
    (h : prior.RequestBuffers num_requested (some n) = (0, s)) : Inv n s := by
  unfold V4L2Stream.RequestBuffers at h
  dsimp only at h
  split at h
  · cases h
  · cases h
    constructor
    case toConserved =>
      refine ⟨fun i hi => ?_, List.nodup_range, rfl⟩
      exact .inl ⟨List.mem_range.mpr hi, Finset.notMem_empty i⟩
    case size =>
      simp only [List.length_append, List.length_take, List.length_replicate]
      omega
    case free_lt => exact fun i hi => List.mem_range.mp hi
    case driver_lt => exact fun i hi => absurd hi (Finset.notMem_empty i)

namespace Inv

theorem queue (h : Inv n s) (hnum : s.buffers_num_ = index :: rest) :
    Inv n ({ s with buffers_num_ := rest }.queueBuffer index true).2 := by
  have hlt : index < n := h.free_lt index (by rw [hnum]; exact List.mem_cons_self)
  have hnodup := h.nodup
  rw [hnum, List.nodup_cons] at hnodup
  have hdriver : index ∉ s.driver := by
    rcases h.one_place index hlt with ⟨_, hnot⟩ | ⟨_, hnot⟩
    · exact hnot
    · rw [hnum] at hnot
      exact absurd List.mem_cons_self hnot
  constructor
  case toConserved =>
    constructor
    case one_place =>
      intro i hi
      show Xor (i ∈ rest) (i ∈ insert index s.driver)
      have hplace := h.one_place i hi
      rw [hnum, List.mem_cons] at hplace
      rw [Finset.mem_insert]
      by_cases heq : i = index
      · rw [heq]
        exact .inr ⟨.inl rfl, hnodup.1⟩
      · simpa only [heq, false_or] using hplace
    case nodup => exact hnodup.2
    case inflight =>
      show s.buffer_cnt_inflight_ + 1 = (insert index s.driver).card
      rw [Finset.card_insert_of_notMem hdriver, h.inflight]
      rfl
  case size => exact h.size
  case free_lt =>
    intro i hi
    exact h.free_lt i (by rw [hnum]; exact List.mem_cons_of_mem index hi)
  case driver_lt =>
    intro i hi
    rcases Finset.mem_insert.mp hi with rfl | hi
    · exact hlt
    · exact h.driver_lt i hi

/-- An index that was taken and not queued is nowhere. -/
theorem not_conserved (h : Inv n s) (hnum : s.buffers_num_ = index :: rest) :
    ¬ Conserved n ({ s with buffers_num_ := rest }.queueBuffer index false).2 := by
  intro hconserved
  have hlt : index < n := h.free_lt index (by rw [hnum]; exact List.mem_cons_self)
  have hnodup := h.nodup
  rw [hnum, List.nodup_cons] at hnodup
  have hplace := h.one_place index hlt
  rw [hnum] at hplace
  rcases hconserved.one_place index hlt with ⟨hrest, _⟩ | ⟨hdriver, _⟩
  · exact hnodup.1 hrest
  · rcases hplace with ⟨_, hnot⟩ | ⟨_, hnot⟩
    · exact hnot hdriver
    · exact hnot List.mem_cons_self

theorem setBuffers (h : Inv n s) (value : Bool) :
    Inv n { s with buffers_ := s.buffers_.set index value } where
  toConserved := ⟨h.one_place, h.nodup, h.inflight⟩
  size := (List.length_set).trans h.size
  free_lt := h.free_lt
  driver_lt := h.driver_lt

theorem prepareLoop {qbuf : Nat → Bool} {i m : Nat} (h : Inv n s)
    (hlen : m ≤ s.buffers_num_.length) (hqbuf : ∀ k < m, qbuf (i + k) = true) :
    ∃ r, V4L2Stream.prepareLoop qbuf i m s = some r ∧ Inv n r.2 := by
  induction m generalizing i s with
  | zero => exact ⟨(0, s), rfl, h⟩
  | succ m ih =>
      rw [V4L2Stream.prepareLoop]
      cases hnum : s.buffers_num_ with
      | nil =>
          rw [hnum] at hlen
          cases hlen
      | cons index rest =>
          rw [hnum, List.length_cons] at hlen
          have hfirst : qbuf i = true := hqbuf 0 (Nat.succ_pos m)
          have hrest : ∀ k < m, qbuf (i + 1 + k) = true := by
            intro k hk
            have hk' := hqbuf (k + 1) (by omega)
            rwa [show i + 1 + k = i + (k + 1) by omega]
          dsimp only
          rw [hfirst]
          exact ih (h.queue hnum) (Nat.le_of_succ_le_succ hlen) hrest

theorem of_prepareLoop {qbuf : Nat → Bool} {i m : Nat} {r : Int × V4L2Stream} (h : Inv n s)
    (hr : V4L2Stream.prepareLoop qbuf i m s = some r) (hconserved : Conserved n r.2) :
    m ≤ s.buffers_num_.length ∧ ∀ k < m, qbuf (i + k) = true := by
  induction m generalizing i s with
  | zero => exact ⟨Nat.zero_le _, fun k hk => absurd hk (Nat.not_lt_zero k)⟩
  | succ m ih =>
      rw [V4L2Stream.prepareLoop] at hr
      cases hnum : s.buffers_num_ with
      | nil =>
          rw [hnum] at hr
          cases hr
      | cons index rest =>
          rw [hnum] at hr
          dsimp only at hr
          cases hfirst : qbuf i with
          | false =>
              -- the loop ends here, and the index is lost
              rw [hfirst] at hr
              cases hr
              exact absurd hconserved (h.not_conserved hnum)
          | true =>
              rw [hfirst] at hr
              obtain ⟨hlen, hqbuf⟩ := ih (h.queue hnum) hr
              refine ⟨Nat.succ_le_succ hlen, fun k hk => ?_⟩
              cases k with
              | zero => exact hfirst
              | succ k =>
                  have hk' := hqbuf k (by omega)
                  rwa [show i + (k + 1) = i + 1 + k by omega]

theorem prepareBuffer {querybuf qbuf : Nat → Bool} (h : Inv n s)
    (hsafe : (∃ i < s.buffers_.length, querybuf i = false) ∨
      s.buffers_.length ≤ s.buffers_num_.length ∧ ∀ i < s.buffers_.length, qbuf i = true) :
    ∃ r, s.PrepareBuffer querybuf qbuf = some r ∧ Inv n r.2 := by
  unfold V4L2Stream.PrepareBuffer
  split
  · exact ⟨(-ENODEV, s), rfl, h⟩
  · rename_i hquery
    obtain ⟨hlen, hqbuf⟩ := hsafe.resolve_left hquery
    refine h.prepareLoop hlen fun k hk => ?_
    rw [Nat.zero_add]
    exact hqbuf k hk

theorem of_prepareBuffer {querybuf qbuf : Nat → Bool} {r : Int × V4L2Stream} (h : Inv n s)
    (hr : s.PrepareBuffer querybuf qbuf = some r) (hconserved : Conserved n r.2) :
    (∃ i < s.buffers_.length, querybuf i = false) ∨
      s.buffers_.length ≤ s.buffers_num_.length ∧ ∀ i < s.buffers_.length, qbuf i = true := by
  unfold V4L2Stream.PrepareBuffer at hr
  split at hr
  · rename_i hquery
    exact .inl hquery
  · obtain ⟨hlen, hqbuf⟩ := h.of_prepareLoop hr hconserved
    refine .inr ⟨hlen, fun k hk => ?_⟩
    have hk' := hqbuf k hk
    rwa [Nat.zero_add] at hk'

theorem enqueueBuffer {qbuf : Bool} (h : Inv n s) (hsafe : s.buffers_num_ = [] ∨ qbuf = true) :
    Inv n (s.EnqueueBuffer qbuf).2 := by
  unfold V4L2Stream.EnqueueBuffer
  cases hnum : s.buffers_num_ with
  | nil => exact h
  | cons index rest =>
      rw [hnum] at hsafe
      rcases hsafe with hnil | rfl
      · cases hnil
      · exact (h.queue hnum).setBuffers true

theorem of_enqueueBuffer {qbuf : Bool} (h : Inv n s)
    (hconserved : Conserved n (s.EnqueueBuffer qbuf).2) : s.buffers_num_ = [] ∨ qbuf = true := by
  unfold V4L2Stream.EnqueueBuffer at hconserved
  cases hnum : s.buffers_num_ with
  | nil => exact .inl rfl
  | cons index rest =>
      rw [hnum] at hconserved
      cases qbuf with
      | true => exact .inr rfl
      | false => exact absurd hconserved (h.not_conserved hnum)

theorem dequeueBuffer (h : Inv n s) (dqbuf : Dqbuf) (dropped : Bool) :
    Inv n (s.DequeueBuffer dqbuf dropped).2 := by
  unfold V4L2Stream.DequeueBuffer
  cases dqbuf with
  | again => exact h
  | fails => exact h
  | gives index =>
      dsimp only
      split
      · -- dropped or not, the index goes back to the queue
        rename_i hdriver
        have hlt := h.driver_lt index hdriver
        have hfree : index ∉ s.buffers_num_ := by
          rcases h.one_place index hlt with ⟨_, hnot⟩ | ⟨_, hnot⟩
          · exact absurd hdriver hnot
          · exact hnot
        constructor
        case toConserved =>
          constructor
          case one_place =>
            intro i hi
            show Xor (i ∈ s.buffers_num_ ++ [index]) (i ∈ s.driver.erase index)
            have hplace := h.one_place i hi
            rw [List.mem_append, List.mem_singleton, Finset.mem_erase]
            by_cases heq : i = index
            · exact .inl ⟨.inr heq, fun hin => hin.1 heq⟩
            · simpa only [heq, or_false, ne_eq, not_false_eq_true, true_and] using hplace
          case nodup =>
            show (s.buffers_num_ ++ [index]).Nodup
            exact List.nodup_append.mpr ⟨h.nodup, List.nodup_singleton index, fun i hi j hj heq =>
              hfree ((List.mem_singleton.mp hj) ▸ heq ▸ hi)⟩
          case inflight =>
            show s.buffer_cnt_inflight_ - 1 = (s.driver.erase index).card
            have hcard := Finset.card_erase_add_one hdriver
            have hinflight := h.inflight
            omega
        case size => exact (List.length_set).trans h.size
        case free_lt =>
          intro i hi
          rcases List.mem_append.mp hi with hi | hi
          · exact h.free_lt i hi
          · rw [List.mem_singleton.mp hi]
            exact hlt
        case driver_lt => exact fun i hi => h.driver_lt i (Finset.mem_of_mem_erase hi)
      · exact h

end Inv

/-! ## Runs -/

theorem inv_step {past : List Call} {c : Call} (h : Inv n s) (hsafe : Safe past (some s) c) :
    ∃ t, step (some s) c = some t ∧ Inv n t := by
  cases c with
  | prepareBuffer querybuf qbuf =>
      obtain ⟨r, hr, hinv⟩ := h.prepareBuffer (hsafe s rfl)
      exact ⟨r.2, congrArg (Option.map Prod.snd) hr, hinv⟩
  | enqueueBuffer qbuf => exact ⟨_, rfl, h.enqueueBuffer (hsafe s rfl)⟩
  | dequeueBuffer dqbuf dropped => exact ⟨_, rfl, h.dequeueBuffer dqbuf dropped⟩

theorem safe_of_conserved {past : List Call} {c : Call} {t : V4L2Stream} (h : Inv n s)
    (ht : step (some s) c = some t) (hconserved : Conserved n t) : Safe past (some s) c := by
  cases c with
  | prepareBuffer querybuf qbuf =>
      rintro _ ⟨⟩
      rw [step, Option.bind_some, Option.map_eq_some_iff] at ht
      obtain ⟨r, hr, rfl⟩ := ht
      exact h.of_prepareBuffer hr hconserved
  | enqueueBuffer qbuf =>
      rintro _ ⟨⟩
      cases ht
      exact h.of_enqueueBuffer hconserved
  | dequeueBuffer dqbuf dropped => trivial

/-- After `n` buffers were granted, the indices are conserved all along a run exactly when every call is
safe. -/
theorem conserved_iff {prior : V4L2Stream} {num_requested : Nat}
    (hgranted : prior.RequestBuffers num_requested (some n) = (0, s)) (calls : List Call) :
    (∀ past, past <+: calls → ∃ t, past.foldl step (some s) = some t ∧ Conserved n t) ↔
      Guarded step Safe (some s) calls := by
  apply forall_prefix_iff_guarded_of_invariant (P := fun s' => ∃ t, s' = some t ∧ Conserved n t)
    (fun _ s' => ∃ t, s' = some t ∧ Inv n t)
  · exact ⟨s, rfl, inv_RequestBuffers hgranted⟩
  · rintro past _ ⟨t, rfl, h⟩
    exact ⟨t, rfl, h.toConserved⟩
  · rintro past _ c ⟨t, rfl, h⟩ hsafe
    exact inv_step h hsafe
  · rintro past _ c ⟨t, rfl, h⟩ ⟨t', ht', hconserved⟩
    exact safe_of_conserved h ht' hconserved

/-- Three buffers go to the driver, and one comes back and is queued again. -/
theorem conserved_three : ∃ s : V4L2Stream, ({} : V4L2Stream).RequestBuffers 3 (some 3) = (0, s) ∧
    ∀ past, past <+: [.prepareBuffer (fun _ => true) (fun _ => true), .dequeueBuffer .again false,
        .dequeueBuffer (.gives 1) false, .enqueueBuffer true] →
      ∃ t, past.foldl step (some s) = some t ∧ Conserved 3 t :=
  ⟨_, rfl, (@conserved_iff 3 _ {} 3 rfl _).mpr (by decide)⟩

/-- When the driver does not take the buffer, its index is lost; and when the driver has buffers,
`PrepareBuffer` takes more indices than there are. -/
theorem not_conserved : ∃ s : V4L2Stream, ({} : V4L2Stream).RequestBuffers 3 (some 3) = (0, s) ∧
    (¬ ∃ t, [.enqueueBuffer false].foldl step (some s) = some t ∧ Conserved 3 t) ∧
    [.enqueueBuffer true, .prepareBuffer (fun _ => true) (fun _ => true)].foldl step (some s) =
      none := by
  refine ⟨_, rfl, ?_, rfl⟩
  rintro ⟨t, ht, hconserved⟩
  cases ht
  exact absurd (hconserved.one_place 0 (by decide)) (by decide)

end

end AwHal.Camera.StreamIndices
