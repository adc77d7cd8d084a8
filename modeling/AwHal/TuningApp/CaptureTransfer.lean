import AwHal.Lib.ByteMemory
import AwHal.Lib.CNumber
import Mathlib.Algebra.BigOperators.Group.List.Basic

/-!
# Captures of several frames

`get_capture_buffer_transfer` (`capture_image.c`) copies frame after frame into the buffer that
`sock_handle_capture_thread` (`server_core.c`) has allocated for it, for ISP version 522.
-/

namespace AwHal.TuningApp.CaptureTransfer

open AwHal.Lib

def CAP_ERR_NONE : Int := 0
def CAP_ERR_GET_FRAME : Int := 9
def CAP_ERR_INVALID_PARAMS : Int := 11

def TRANSFER_SIZE : Int := 2 ^ 22

/-- `vi_frame_info`: the `u32Stride[i]` bytes at `pVirAddr[i]`. -/
abbrev FrameInfo := Nat → List UInt8

/-- A capture: what is asked for, and how the calls into the driver end. -/
structure Capture where
  /-- `cap_fmt` is there and its channel is valid. -/
  valid : Bool
  /-- What `start_video` returns; the fields of `cap_fmt` are those that it leaves. -/
  start_video : Int
  width : Int
  height : Int
  planes_count : Int
  framecount : Int
  /-- What each call of `get_video_frame` gets, or nothing when it fails. -/
  get_video_frame : Nat → Option FrameInfo
  /-- Whether the buffer can be allocated. -/
  malloc : Bool

/-- The variables of the loop, and the writes to the buffer for each frame that is stored; `buffer` is
counted from `cap_fmt->buffer`. -/
structure Copied where
  ret : Int
  length : Int
  buffer : Nat
  stored : List (List Write)

def copyPlanes (frame : FrameInfo) : Nat → Nat → Nat × Int × List Write → Nat × Int × List Write
  | 0, _, c => c
  | n + 1, ret, (buffer, length, writes) =>
      copyPlanes frame n (ret + 1)
        (buffer + (frame ret).length, wrapInt (length + (frame ret).length),
          writes ++ [⟨buffer, frame ret⟩])

namespace Capture

variable (r : Capture)

def area : Int := wrapInt (r.width * r.height)

def frame (c : Copied) : Option FrameInfo → Copied
  | none => { c with ret := CAP_ERR_GET_FRAME }
  | some info =>
      if wrapInt (c.length + wrapInt (r.area * 2)) < 2 ^ 29 then
        let (buffer, length, writes) := copyPlanes info r.planes_count.toNat 0 (c.buffer, c.length, [])
        { ret := if length < r.area then CAP_ERR_GET_FRAME else CAP_ERR_NONE
          length := length
          buffer := buffer
          stored := c.stored ++ [writes] }
      -- too much for one transfer: `ret` is still the 0 of `get_video_frame`
      else { c with ret := 0 }

def loop : Nat → Copied
  | 0 => ⟨CAP_ERR_NONE, 0, 0, []⟩
  | k + 1 => r.frame (loop k) (r.get_video_frame k)

def get_capture_buffer_transfer : Copied :=
  if r.valid then
    if r.start_video = CAP_ERR_NONE then r.loop r.framecount.toNat
    else ⟨r.start_video, 0, 0, []⟩
  else ⟨CAP_ERR_INVALID_PARAMS, 0, 0, []⟩

/-- The bytes of the buffer.  A negative size is one that no allocation has. -/
def allocated : Nat :=
  if r.malloc then (wrapInt (TRANSFER_SIZE * r.framecount)).toNat else 0

/-! ## What a complete capture is -/

def planes (j : Nat) : List (List UInt8) :=
  match r.get_video_frame j with
  | none => []
  | some info => (List.range r.planes_count.toNat).map info

def total (k : Nat) : Nat := ((List.range k).map fun j => (r.planes j).flatten.length).sum

def block (j : Nat) : List Write := Write.consecutive (r.total j) (r.planes j)

def blocks (k : Nat) : List (List Write) :=
  ((List.range k).filter fun j => (r.get_video_frame j).isSome).map r.block

/-- The capture stays within its buffer, and reports success only for all frames, one after the
other. -/
structure CompleteAndFits : Prop where
  fits : ∀ writes ∈ r.get_capture_buffer_transfer.stored, ∀ w ∈ writes,
    w.addr + w.bytes.length ≤ r.allocated
  obtained : r.get_capture_buffer_transfer.ret = CAP_ERR_NONE →
    ∀ j < r.framecount.toNat, (r.get_video_frame j).isSome
  stored : r.get_capture_buffer_transfer.ret = CAP_ERR_NONE →
    r.get_capture_buffer_transfer.stored = r.blocks r.framecount.toNat
  content : r.get_capture_buffer_transfer.ret = CAP_ERR_NONE → ∀ m,
    (Write.run r.get_capture_buffer_transfer.stored.flatten m).load 0
      (r.total r.framecount.toNat) = (List.range r.framecount.toNat).flatMap fun j =>
        (r.planes j).flatten
  length : r.get_capture_buffer_transfer.ret = CAP_ERR_NONE →
    r.get_capture_buffer_transfer.length = r.total r.framecount.toNat

def Started : Prop := r.valid ∧ r.start_video = CAP_ERR_NONE

/-- The check of the transfer limit lets frame `k` through, when all before it are stored. -/
def Below (k : Nat) : Prop := wrapInt (wrapInt (r.total k) + wrapInt (r.area * 2)) < 2 ^ 29

/-- The check lets all frames through that are obtained up to frame `k`. -/
def Storable (k : Nat) : Prop := ∀ j ≤ k, (r.get_video_frame j).isSome → r.Below j

/-- The frames that are stored fit the buffer. -/
def Room : Prop :=
  ∀ k < r.framecount.toNat, (r.get_video_frame k).isSome → r.Storable k → r.total (k + 1) ≤ r.allocated

/-- The last frame is lost; or the check lets it through, and no frame is lost or the frames have less
bytes than one is to have. -/
def LastTells : Prop :=
  ∀ k, r.framecount.toNat = k + 1 → (r.get_video_frame k).isSome →
    r.Storable k ∧
      ((∀ j ≤ k, (r.get_video_frame j).isSome) ∨ wrapInt (r.total (k + 1)) < r.area)

/-! ## The frame loop -/

variable {r}

theorem total_succ (k : Nat) : r.total (k + 1) = r.total k + (r.planes k).flatten.length := by
  rw [total, List.range_succ, List.map_append, List.sum_append]
  simp [total]

theorem blocks_succ (k : Nat) :
    r.blocks (k + 1) =
      r.blocks k ++ if (r.get_video_frame k).isSome then [r.block k] else [] := by
  rw [blocks, List.range_succ, List.filter_append, List.map_append]
  congr 1
  split
  · rename_i h
    simp [h]
  · rename_i h
    simp [h]

theorem wrapInt_wrapInt_add (x y : Int) : wrapInt (wrapInt x + y) = wrapInt (x + y) :=
  Int.bmod_add_bmod

theorem copyPlanes_eq (info : FrameInfo) (n ret buffer : Nat) (x : Int) (writes : List Write) :
    copyPlanes info n ret (buffer, wrapInt x, writes) =
      (buffer + ((List.range' ret n).map info).flatten.length,
        wrapInt (x + ((List.range' ret n).map info).flatten.length),
        writes ++ Write.consecutive buffer ((List.range' ret n).map info)) := by
  induction n generalizing ret buffer x writes with
  | zero => simp [copyPlanes, Write.consecutive]
  | succ n ih =>
      rw [copyPlanes, wrapInt_wrapInt_add, ih, List.range'_succ, List.map_cons, List.flatten_cons,
        List.length_append, Write.consecutive, List.append_assoc, List.singleton_append]
      push_cast
      simp only [Nat.add_assoc, Int.add_assoc]

/-- After `k` passes the frames before `m` are stored: all of them, or those before the frame that the
limit stopped at. -/
structure Stored (k m : Nat) : Prop where
  le : m ≤ k
  below : ∀ j < m, (r.get_video_frame j).isSome → r.Below j
  stopped : m = k ∨ ((r.get_video_frame m).isSome ∧ ¬ r.Below m)
  buffer : (r.loop k).buffer = r.total m
  length : (r.loop k).length = wrapInt (r.total m)
  stored : (r.loop k).stored = r.blocks m

theorem total_of_lost {k : Nat} (h : r.get_video_frame k = none) : r.total (k + 1) = r.total k := by
  rw [total_succ, planes, h]
  rfl

theorem frame_stored {c : Copied} {k : Nat} {info : FrameInfo} (hinfo : r.get_video_frame k = some info)
    (hbuffer : c.buffer = r.total k) (hlength : c.length = wrapInt (r.total k)) (hbelow : r.Below k) :
    r.frame c (some info) =
      { ret := if wrapInt (r.total (k + 1)) < r.area then CAP_ERR_GET_FRAME else CAP_ERR_NONE
        length := wrapInt (r.total (k + 1))
        buffer := r.total (k + 1)
        stored := c.stored ++ [r.block k] } := by
  have hplanes : r.planes k = (List.range' 0 r.planes_count.toNat).map info := by
    rw [planes, hinfo, ← List.range_eq_range']
  have hcheck : wrapInt (c.length + wrapInt (r.area * 2)) < 2 ^ 29 := by
    rw [hlength]
    exact hbelow
  have hcopy := copyPlanes_eq info r.planes_count.toNat 0 c.buffer (r.total k) []
  have hframe : r.frame c (some info) = _ := if_pos hcheck
  rw [hframe, hlength, hcopy, ← hplanes, hbuffer, total_succ, List.nil_append, Int.natCast_add,
    block]

theorem frame_stopped {c : Copied} {m : Nat} {info : FrameInfo}
    (hlength : c.length = wrapInt (r.total m)) (hbelow : ¬ r.Below m) :
    r.frame c (some info) = { c with ret := 0 } := by
  have hcheck : ¬ wrapInt (c.length + wrapInt (r.area * 2)) < 2 ^ 29 := by
    rw [hlength]
    exact hbelow
  exact if_neg hcheck

/-- A pass that stores nothing, after the limit has stopped the loop. -/
theorem Stored.skip {k m : Nat} {ret : Int} (h : Stored (r := r) k m)
    (hstopped : (r.get_video_frame m).isSome ∧ ¬ r.Below m)
    (hloop : r.loop (k + 1) = { r.loop k with ret := ret }) : Stored (r := r) (k + 1) m := by
  constructor
  case le => exact Nat.le_succ_of_le h.le
  case below => exact h.below
  case stopped => exact .inr hstopped
  case buffer =>
    rw [hloop]
    exact h.buffer
  case length =>
    rw [hloop]
    exact h.length
  case stored =>
    rw [hloop]
    exact h.stored

theorem Stored.below_succ {k m : Nat} (h : Stored (r := r) k m)
    (hbelow : (r.get_video_frame m).isSome → r.Below m) :
    ∀ j < m + 1, (r.get_video_frame j).isSome → r.Below j := by
  intro j hj
  rcases Nat.lt_succ_iff_lt_or_eq.mp hj with hlt | rfl
  · exact h.below j hlt
  · exact hbelow

/-- Each pass stores its frame, or the limit has stopped the loop and stops it again. -/
theorem exists_stored (k : Nat) : ∃ m, Stored (r := r) k m := by
  induction k with
  | zero =>
      refine ⟨0, ?_⟩
      constructor
      case le => exact Nat.le_refl 0
      case below => exact fun j hj => absurd hj (Nat.not_lt_zero j)
      case stopped => exact .inl rfl
      case buffer => rfl
      case length => exact (wrapInt_of_fits (show FitsInt 0 by decide)).symm
      case stored => rfl
  | succ k ih =>
      obtain ⟨m, h⟩ := ih
      cases hinfo : r.get_video_frame k with
      | none =>
          have hloop : r.loop (k + 1) = { r.loop k with ret := CAP_ERR_GET_FRAME } := by
            rw [loop, hinfo, frame]
          have hnone : ¬ (r.get_video_frame k).isSome := by
            rw [hinfo]
            exact Bool.false_ne_true
          rcases h.stopped with rfl | hstopped
          · refine ⟨m + 1, ?_⟩
            constructor
            case le => exact Nat.le_refl _
            case below => exact h.below_succ fun hsome => absurd hsome hnone
            case stopped => exact .inl rfl
            case buffer =>
              rw [hloop, total_of_lost hinfo]
              exact h.buffer
            case length =>
              rw [hloop, total_of_lost hinfo]
              exact h.length
            case stored =>
              rw [hloop, blocks_succ, if_neg hnone, List.append_nil]
              exact h.stored
          · exact ⟨m, h.skip hstopped hloop⟩
      | some info =>
          have hsome : (r.get_video_frame k).isSome := by
            rw [hinfo]
            rfl
          have hloop : r.loop (k + 1) = r.frame (r.loop k) (some info) := by rw [loop, hinfo]
          by_cases hbelow : m = k ∧ r.Below k
          · obtain ⟨rfl, hbelow⟩ := hbelow
            rw [frame_stored hinfo h.buffer h.length hbelow] at hloop
            refine ⟨m + 1, ?_⟩
            constructor
            case le => exact Nat.le_refl _
            case below => exact h.below_succ fun _ => hbelow
            case stopped => exact .inl rfl
            case buffer => rw [hloop]
            case length => rw [hloop]
            case stored => rw [hloop, blocks_succ, if_pos hsome, h.stored]
          · have hstopped : (r.get_video_frame m).isSome ∧ ¬ r.Below m := by
              rcases h.stopped with rfl | hstopped
              · exact ⟨hsome, fun hb => hbelow ⟨rfl, hb⟩⟩
              · exact hstopped
            rw [frame_stopped h.length hstopped.2] at hloop
            exact ⟨m, h.skip hstopped hloop⟩

/-! ## What the loop leaves -/

theorem Stored.storable_iff {k m j : Nat} (h : Stored (r := r) k m) (hj : j < k) :
    r.Storable j ↔ j < m := by
  constructor
  · intro hstorable
    by_contra hle
    rcases h.stopped with rfl | ⟨hm, hbelow⟩
    · exact hle hj
    · exact hbelow (hstorable m (by omega) hm)
  · intro hlt i hi
    exact h.below i (by omega)

/-- A last pass whose frame is let through. -/
theorem loop_succ_of_storable {k : Nat} (hsome : (r.get_video_frame k).isSome)
    (hstorable : r.Storable k) :
    r.loop (k + 1) =
      { ret := if wrapInt (r.total (k + 1)) < r.area then CAP_ERR_GET_FRAME else CAP_ERR_NONE
        length := wrapInt (r.total (k + 1))
        buffer := r.total (k + 1)
        stored := r.blocks (k + 1) } := by
  obtain ⟨info, hinfo⟩ := Option.isSome_iff_exists.mp hsome
  obtain ⟨m, h⟩ := r.exists_stored k
  have hm : m = k := by
    rcases h.stopped with hm | ⟨hm, hbelow⟩
    · exact hm
    · exact absurd (hstorable m h.le hm) hbelow
  subst hm
  rw [loop, hinfo, frame_stored hinfo h.buffer h.length (hstorable m (Nat.le_refl m) hsome),
    h.stored, blocks_succ, if_pos hsome]

/-- A last pass whose frame is not let through: it counts as a success. -/
theorem loop_succ_of_not_storable {k : Nat} (hsome : (r.get_video_frame k).isSome)
    (hstorable : ¬ r.Storable k) :
    (r.loop (k + 1)).ret = CAP_ERR_NONE ∧ ∃ m ≤ k, (r.loop (k + 1)).stored = r.blocks m := by
  obtain ⟨info, hinfo⟩ := Option.isSome_iff_exists.mp hsome
  obtain ⟨m, h⟩ := r.exists_stored k
  have hbelow : ¬ r.Below m := by
    intro hbelow
    rcases h.stopped with rfl | hstopped
    · apply hstorable
      intro j hj hsome'
      rcases Nat.lt_or_eq_of_le hj with hlt | rfl
      · exact h.below j hlt hsome'
      · exact hbelow
    · exact hstopped.2 hbelow
  have hloop : r.loop (k + 1) = { r.loop k with ret := 0 } := by
    rw [loop, hinfo, frame_stopped h.length hbelow]
  exact ⟨by rw [hloop]; rfl, m, h.le, by rw [hloop]; exact h.stored⟩

theorem length_blocks_mono {j k : Nat} (h : j ≤ k) : (r.blocks j).length ≤ (r.blocks k).length := by
  induction k with
  | zero => rw [Nat.le_zero.mp h]
  | succ k ih =>
      rcases Nat.lt_or_ge k j with hlt | hle
      · rw [Nat.le_antisymm h hlt]
      · have := ih hle
        rw [blocks_succ, List.length_append]
        omega

theorem blocks_ne {m k : Nat} (h : m ≤ k) (hsome : (r.get_video_frame k).isSome) :
    r.blocks m ≠ r.blocks (k + 1) := by
  intro heq
  have hle := length_blocks_mono (r := r) h
  have hlen := congrArg List.length heq
  rw [blocks_succ, if_pos hsome, List.length_append, List.length_singleton] at hlen
  omega

theorem flatten_blocks (k : Nat) :
    (r.blocks k).flatten = Write.consecutive 0 ((List.range k).flatMap r.planes) ∧
      ((List.range k).flatMap r.planes).flatten.length = r.total k := by
  induction k with
  | zero => exact ⟨rfl, rfl⟩
  | succ k ih =>
      have hblock : (if (r.get_video_frame k).isSome then [r.block k] else []).flatten =
          r.block k := by
        cases hinfo : r.get_video_frame k with
        | some info => exact List.append_nil _
        | none =>
            rw [block, planes, hinfo]
            rfl
      rw [blocks_succ, List.flatten_append, hblock, List.range_succ, List.flatMap_append,
        List.flatMap_singleton, Write.consecutive_append, ih.1, ih.2, List.flatten_append,
        List.length_append, ih.2, total_succ]
      exact ⟨congrArg _ (by rw [block, Nat.zero_add]), rfl⟩

theorem content_blocks (k : Nat) (m : Memory) :
    (Write.run (r.blocks k).flatten m).load 0 (r.total k) =
      (List.range k).flatMap fun j => (r.planes j).flatten := by
  obtain ⟨hblocks, hlen⟩ := r.flatten_blocks k
  rw [hblocks, ← hlen, Write.load_run_consecutive, List.flatMap_def, List.flatMap_def,
    List.flatten_flatten, List.map_map]
  rfl

/-! ## The buffer -/

theorem total_le {k limit : Nat}
    (h : ∀ j < k, (r.get_video_frame j).isSome → r.total (j + 1) ≤ limit) : r.total k ≤ limit := by
  induction k with
  | zero => exact Nat.zero_le limit
  | succ k ih =>
      cases hinfo : r.get_video_frame k with
      | some info =>
          apply h k (Nat.lt_succ_self k)
          rw [hinfo]
          rfl
      | none =>
          rw [total_of_lost hinfo]
          exact ih fun j hj => h j (by omega)

theorem blocks_fit_iff {k limit : Nat} :
    (∀ writes ∈ r.blocks k, ∀ w ∈ writes, w.addr + w.bytes.length ≤ limit) ↔
      ∀ j < k, (r.get_video_frame j).isSome → r.total (j + 1) ≤ limit := by
  induction k with
  | zero => exact iff_of_true (fun _ h => nomatch h) fun j hj => absurd hj (Nat.not_lt_zero j)
  | succ k ih =>
      have hblock (hle : r.total k ≤ limit) :
          (∀ w ∈ r.block k, w.addr + w.bytes.length ≤ limit) ↔ r.total (k + 1) ≤ limit := by
        rw [total_succ]
        exact Write.forall_consecutive_iff hle
      rw [blocks_succ, List.forall_mem_append, ih]
      constructor
      · rintro ⟨hbefore, hlast⟩ j hj hsome
        rcases Nat.lt_succ_iff_lt_or_eq.mp hj with hlt | rfl
        · exact hbefore j hlt hsome
        · rw [if_pos hsome, List.forall_mem_singleton] at hlast
          exact (hblock (total_le hbefore)).mp hlast
      · intro hall
        have hbefore := fun j (hj : j < k) => hall j (Nat.lt_succ_of_lt hj)
        refine ⟨hbefore, ?_⟩
        split
        · rename_i hsome
          rw [List.forall_mem_singleton]
          exact (hblock (total_le hbefore)).mpr (hall k (Nat.lt_succ_self k) hsome)
        · exact fun _ h => nomatch h

/-- The writes of the loop are in the buffer exactly when the frames that are let through fit it. -/
theorem fits_iff :
    (∀ writes ∈ (r.loop r.framecount.toNat).stored, ∀ w ∈ writes,
        w.addr + w.bytes.length ≤ r.allocated) ↔ r.Room := by
  obtain ⟨m, h⟩ := r.exists_stored r.framecount.toNat
  have hle := h.le
  rw [h.stored, blocks_fit_iff]
  constructor
  · intro hall k hk hsome hstorable
    exact hall k ((h.storable_iff hk).mp hstorable) hsome
  · intro hroom j hj hsome
    exact hroom j (by omega) hsome ((h.storable_iff (by omega)).mpr hj)

theorem allocated_lt : r.allocated < 2 ^ 31 := by
  unfold allocated
  split
  · have hlt := Int.bmod_lt (x := TRANSFER_SIZE * r.framecount) (m := 2 ^ 32) (by decide)
    have hwrap : wrapInt (TRANSFER_SIZE * r.framecount) < 2 ^ 31 := by
      unfold wrapInt
      omega
    omega
  · decide

/-! ## A reported success -/

/-- A success is reported for the last frame only. -/
theorem last_obtained {k : Nat} (hret : (r.loop (k + 1)).ret = CAP_ERR_NONE) :
    (r.get_video_frame k).isSome := by
  cases hinfo : r.get_video_frame k with
  | some info => rfl
  | none =>
      have hlost : (r.loop (k + 1)).ret = CAP_ERR_GET_FRAME := by rw [loop, hinfo, frame]
      rw [hlost] at hret
      exact absurd hret (by decide)

/-- When the last frame tells, a reported success means that all frames were obtained and stored. -/
theorem complete_of_lastTells (hroom : r.Room) (htells : r.LastTells)
    (hret : (r.loop r.framecount.toNat).ret = CAP_ERR_NONE) :
    (∀ j < r.framecount.toNat, (r.get_video_frame j).isSome) ∧
      (r.loop r.framecount.toNat).stored = r.blocks r.framecount.toNat ∧
      (r.loop r.framecount.toNat).length = r.total r.framecount.toNat := by
  cases hn : r.framecount.toNat with
  | zero => exact ⟨fun j hj => absurd hj (Nat.not_lt_zero j), rfl, rfl⟩
  | succ k =>
      rw [hn] at hret
      have hsome := last_obtained hret
      obtain ⟨hstorable, hall⟩ := htells k hn hsome
      have hloop := loop_succ_of_storable hsome hstorable
      rw [hloop] at hret
      have hlarge : ¬ wrapInt (r.total (k + 1)) < r.area := by
        intro hsmall
        rw [if_pos hsmall] at hret
        exact absurd hret (show CAP_ERR_GET_FRAME ≠ CAP_ERR_NONE by decide)
      have hobtained := hall.resolve_right hlarge
      -- what fits the buffer has a length that does not wrap around
      have htotal := hroom k (by omega) hsome hstorable
      have hlimit := allocated_lt (r := r)
      have hfits : FitsInt (r.total (k + 1)) := by
        unfold FitsInt
        omega
      refine ⟨fun j hj => hobtained j (by omega), by rw [hloop], ?_⟩
      rw [hloop]
      dsimp only
      rw [wrapInt_of_fits hfits]

/-- A loop that reports success only for all frames has a last frame that tells. -/
theorem lastTells_of_complete
    (hobtained : (r.loop r.framecount.toNat).ret = CAP_ERR_NONE →
      ∀ j < r.framecount.toNat, (r.get_video_frame j).isSome)
    (hstored : (r.loop r.framecount.toNat).ret = CAP_ERR_NONE →
      (r.loop r.framecount.toNat).stored = r.blocks r.framecount.toNat) : r.LastTells := by
  intro k hk hsome
  rw [hk] at hobtained hstored
  by_cases hstorable : r.Storable k
  · refine ⟨hstorable, ?_⟩
    rw [loop_succ_of_storable hsome hstorable] at hobtained
    by_cases hsmall : wrapInt (r.total (k + 1)) < r.area
    · exact .inr hsmall
    · left
      intro j hj
      exact hobtained (if_neg hsmall) j (by omega)
  · obtain ⟨hret, m, hm, heq⟩ := loop_succ_of_not_storable hsome hstorable
    exact absurd (heq.symm.trans (hstored hret)) (blocks_ne hm hsome)

/-! ## Captures -/

theorem get_capture_buffer_transfer_of_started (h : r.Started) :
    r.get_capture_buffer_transfer = r.loop r.framecount.toNat := by
  rw [get_capture_buffer_transfer, if_pos h.1, if_pos h.2]

theorem get_capture_buffer_transfer_of_not_started (h : ¬ r.Started) :
    r.get_capture_buffer_transfer.ret ≠ CAP_ERR_NONE ∧ r.get_capture_buffer_transfer.stored = [] := by
  unfold get_capture_buffer_transfer
  split
  · rename_i hvalid
    split
    · rename_i hstart
      exact absurd ⟨hvalid, hstart⟩ h
    · rename_i hstart
      exact ⟨hstart, rfl⟩
  · exact ⟨by decide, rfl⟩

/-- A capture stays within its buffer and reports success only when it is complete, exactly when it is
not started, or the frames that are stored fit and the last frame tells. -/
theorem completeAndFits_iff (r : Capture) :
    r.CompleteAndFits ↔ ¬ r.Started ∨ (r.Room ∧ r.LastTells) := by
  by_cases hstarted : r.Started
  · have hget := get_capture_buffer_transfer_of_started hstarted
    constructor
    · intro h
      right
      have hfits := h.fits
      have hobtained := h.obtained
      have hstored := h.stored
      rw [hget] at hfits hobtained hstored
      exact ⟨fits_iff.mp hfits, lastTells_of_complete hobtained hstored⟩
    · rintro (hnot | ⟨hroom, htells⟩)
      · exact absurd hstarted hnot
      have hsuccess := complete_of_lastTells hroom htells
      constructor
      case fits =>
        rw [hget]
        exact fits_iff.mpr hroom
      case obtained =>
        rw [hget]
        exact fun hret => (hsuccess hret).1
      case stored =>
        rw [hget]
        exact fun hret => (hsuccess hret).2.1
      case content =>
        rw [hget]
        intro hret m
        rw [(hsuccess hret).2.1]
        exact content_blocks _ m
      case length =>
        rw [hget]
        exact fun hret => (hsuccess hret).2.2
  · obtain ⟨hret, hstored⟩ := get_capture_buffer_transfer_of_not_started hstarted
    refine iff_of_true ?_ (.inl hstarted)
    constructor
    case fits =>
      rw [hstored]
      exact fun _ h => nomatch h
    case obtained => exact fun h => absurd h hret
    case stored => exact fun h => absurd h hret
    case content => exact fun h => absurd h hret
    case length => exact fun h => absurd h hret

def lossyCapture : Capture where
  valid := true
  start_video := CAP_ERR_NONE
  width := 1
  height := 1
  planes_count := 1
  framecount := 2
  get_video_frame j := if j = 0 then none else some fun _ => [7]
  malloc := true

/-- The second frame hides the loss of the first. -/
theorem not_completeAndFits : ¬ ∀ r : Capture, r.CompleteAndFits := by
  intro hall
  have hlost := (hall lossyCapture).obtained (by decide) 0 (by decide)
  exact absurd hlost (by decide)

end Capture

end AwHal.TuningApp.CaptureTransfer
