import AwHal.Lib.GuardedRun
import Mathlib.Tactic.Ring

/-!
# The presentation position

`out_get_presentation_position` of `audio_hw.c` takes the frames that still wait in the driver from
those that `out_write` has counted.  The count goes on when the stream is put into standby, and the
pcm is closed with the frames in it.

`USE_RESAMPLER` and `USE_COCEC_HDMI_OUT` are not defined: the driver gets the bytes as they are.
-/

namespace AwHal.Audio.PresentationPosition

open AwHal.Lib

/-! ## The stream -/

/-- The part of `pcm_config` that a start takes from the profile of the device. -/
structure PcmConfig where
  channels : Nat
  period_size : Nat
  period_count : Nat
deriving DecidableEq, Repr

inductive Pcm where
  | null
  | ready
  /-- A handle that `pcm_is_ready` has refused; it stays in the stream when it has been closed. -/
  | refused
deriving DecidableEq, Repr

/-- What a call of `out_get_presentation_position` has found and returned. -/
structure Report where
  pcm : Pcm
  pcm_get_htimestamp : Int
  /-- The bytes that wait in the driver. -/
  queued : Nat
  /-- The bytes of the stream that the driver has taken so far. -/
  taken : Nat
  ret : Int
  frames : Option Nat
deriving DecidableEq, Repr

structure StreamOut where
  standby : Bool
  pcm : Pcm
  config : PcmConfig
  written : Nat
  /-- The bytes of the stream that the driver has taken so far. -/
  taken : Nat
  /-- The last report first. -/
  reports : List Report
deriving DecidableEq, Repr

structure Write where
  bytes : Nat
  /-- The profile of the device, at a start. -/
  config : PcmConfig
  pcm_is_ready : Bool
  pcm_write : Int
deriving DecidableEq, Repr

/-- What one `out_get_presentation_position` gets from the driver. -/
structure Position where
  pcm_get_htimestamp : Int
  avail : Nat
deriving DecidableEq, Repr

section Stream

variable (frame_size : Nat) (out : StreamOut)

def do_out_standby : StreamOut :=
  if out.standby then out
  else
    { out with
      pcm := .null
      standby := true }

/-- The device is taken from its profile, and the pcm opened.  The result is lost when `out_write`
calls `pcm_write`, which it does with any handle. -/
def start_output_stream (w : Write) : StreamOut :=
  { out with
    config := w.config
    pcm := if w.pcm_is_ready then .ready else .refused }

def out_write (w : Write) : StreamOut :=
  let out_frames := w.bytes / frame_size
  let out := if out.standby then start_output_stream { out with standby := false } w else out
  let ret := if out.pcm = .null then 0 else w.pcm_write
  if ret = 0 then
    { out with
      written := (out.written + w.bytes / (out.config.channels * 2)) % 2 ^ 64
      taken := if out.pcm = .ready then out.taken + out_frames * frame_size else out.taken }
  else do_out_standby out

/-- The result, and `*frames` if it is set.  The size of the buffer is the product of two
`unsigned int`s. -/
def out_get_presentation_position (p : Position) : Int × Option Nat :=
  if out.pcm = .null then (0, none)
  else if p.pcm_get_htimestamp = 0 then
    let kernel_buffer_size : Nat := out.config.period_size * out.config.period_count % 2 ^ 32
    let signed_frames := ((out.written : Int) - kernel_buffer_size + p.avail).bmod (2 ^ 64)
    if 0 ≤ signed_frames then (0, some signed_frames.toNat) else (0, none)
  else (0, none)

def queued (p : Position) : Nat :=
  (out.config.period_size * out.config.period_count - p.avail) * (out.config.channels * 2)

def report (p : Position) : Report :=
  let (ret, frames) := out_get_presentation_position out p
  { pcm := out.pcm
    pcm_get_htimestamp := p.pcm_get_htimestamp
    queued := queued out p
    taken := out.taken
    ret
    frames }

end Stream

inductive Event where
  | out_write (w : Write)
  | out_standby
  | out_get_presentation_position (p : Position)
deriving DecidableEq, Repr

def step (frame_size : Nat) (out : StreamOut) : Event → StreamOut
  | .out_write w => out_write frame_size out w
  | .out_standby => do_out_standby out
  | .out_get_presentation_position p => { out with reports := report out p :: out.reports }

def initial (config : PcmConfig) : StreamOut where
  standby := true
  pcm := .null
  config := config
  written := 0
  taken := 0
  reports := []

/-! ## Honest reports -/

def Report.Fails (r : Report) : Prop :=
  r.pcm ≠ .ready ∨ r.pcm_get_htimestamp ≠ 0 ∨ r.taken < r.queued

/-- A call that succeeds has set the frames to those whose bytes have been taken and do not wait any
more, and one that has to fail does. -/
structure Report.Right (frame_size : Nat) (r : Report) : Prop where
  played : r.ret = 0 → ∃ v, r.frames = some v ∧ v * frame_size + r.queued = r.taken
  failed : r.Fails → r.ret ≠ 0

def Report.position (r : Report) : Option Nat := if r.ret = 0 then r.frames else none

structure Honest (frame_size : Nat) (out : StreamOut) : Prop where
  right : ∀ r ∈ out.reports, r.Right frame_size
  monotone : (out.reports.filterMap Report.position).Pairwise (· ≥ ·)

def last (out : StreamOut) : Nat := (out.reports.filterMap Report.position).headD 0

/-! ## The runs that report honestly -/

def valid (out : StreamOut) : Event → Prop
  | .out_get_presentation_position p =>
      p.avail ≤ out.config.period_size * out.config.period_count
  | _ => True

instance (out : StreamOut) (e : Event) : Decidable (valid out e) := by
  cases e <;> unfold valid <;> infer_instance

/-- A write that starts the stream and succeeds has found a pcm that is ready, with the frames of
the stream and a buffer whose size is an `unsigned int`; and the count does not overflow. -/
def starts (frame_size : Nat) (out : StreamOut) : Event → Prop
  | .out_write w =>
      (out.standby = true → w.pcm_write = 0 →
        w.pcm_is_ready = true ∧ w.config.channels * 2 = frame_size ∧
          w.config.period_size * w.config.period_count < 2 ^ 32) ∧
        out.taken + w.bytes < 2 ^ 63
  | _ => True

instance (frame_size : Nat) (out : StreamOut) (e : Event) :
    Decidable (starts frame_size out e) := by
  cases e <;> unfold starts <;> infer_instance

/-- The pcm is open and gives a time stamp, and no more waits in the driver than it has taken since
the last position. -/
def ok (frame_size : Nat) (out : StreamOut) : Event → Prop
  | .out_get_presentation_position p =>
      out.pcm = .ready ∧ p.pcm_get_htimestamp = 0 ∧
        queued out p + last out * frame_size ≤ out.taken
  | _ => True

instance (frame_size : Nat) (out : StreamOut) (e : Event) : Decidable (ok frame_size out e) := by
  cases e <;> unfold ok <;> infer_instance

structure Inv (frame_size : Nat) (out : StreamOut) : Prop where
  honest : Honest frame_size out
  written : out.written * frame_size = out.taken
  taken_lt : out.taken < 2 ^ 63
  standby : out.standby = true → out.pcm = .null
  started : out.standby = false → out.pcm = .ready ∧ out.config.channels * 2 = frame_size ∧
    out.config.period_size * out.config.period_count < 2 ^ 32

variable {frame_size : Nat} {out : StreamOut}

theorem inv_initial (config : PcmConfig) : Inv frame_size (initial config) where
  honest := ⟨by simp [initial], List.Pairwise.nil⟩
  written := Nat.zero_mul frame_size
  taken_lt := by
    show 0 < 2 ^ 63
    decide
  standby := fun _ => rfl
  started := by simp [initial]

/-! ## The report -/

/-- Whatever is asked, the result is 0. -/
theorem report_ret (out : StreamOut) (p : Position) : (report out p).ret = 0 := by
  unfold report out_get_presentation_position
  dsimp only
  split_ifs <;> rfl

theorem Inv.standby_eq_false (h : Inv frame_size out) (hpcm : out.pcm = .ready) :
    out.standby = false := by
  cases hstandby : out.standby with
  | false => rfl
  | true =>
      rw [h.standby hstandby] at hpcm
      cases hpcm

theorem Inv.written_le (h : Inv frame_size out) (hframe : 0 < frame_size) :
    out.written ≤ out.taken := by
  rw [← h.written]
  exact Nat.le_mul_of_pos_right _ hframe

theorem Inv.report_frames (h : Inv frame_size out) (hframe : 0 < frame_size) {p : Position}
    (hpcm : out.pcm = .ready) (hstamp : p.pcm_get_htimestamp = 0)
    (havail : p.avail ≤ out.config.period_size * out.config.period_count)
    (hqueued : queued out p ≤ out.taken) :
    ∃ v, (report out p).frames = some v ∧ v * frame_size + queued out p = out.taken := by
  obtain ⟨-, hunits, hsize⟩ := h.started (h.standby_eq_false hpcm)
  have hlt : out.written < 2 ^ 63 := lt_of_le_of_lt (h.written_le hframe) h.taken_lt
  unfold queued at hqueued ⊢
  rw [hunits, ← h.written] at hqueued
  have hwaiting := Nat.le_of_mul_le_mul_right hqueued hframe
  refine ⟨out.written - (out.config.period_size * out.config.period_count - p.avail), ?_, ?_⟩
  · unfold report out_get_presentation_position
    rw [Nat.mod_eq_of_lt hsize]
    dsimp only
    generalize out.config.period_size * out.config.period_count = size at *
    have hsigned : ((out.written : Int) - size + p.avail).bmod (2 ^ 64) =
        out.written - size + p.avail := by
      apply Int.bmod_eq_of_le
      · omega
      · omega
    rw [if_neg (by simp [hpcm]), if_pos hstamp, hsigned, if_pos (by omega)]
    apply congrArg some
    omega
  · rw [hunits, ← Nat.add_mul, Nat.sub_add_cancel hwaiting, h.written]

/-! ## Steps -/

theorem Inv.do_out_standby (h : Inv frame_size out) : Inv frame_size (do_out_standby out) := by
  unfold PresentationPosition.do_out_standby
  split
  · exact h
  · exact ⟨⟨h.honest.right, h.honest.monotone⟩, h.written, h.taken_lt, fun _ => rfl, nofun⟩

def opened (out : StreamOut) (w : Write) : StreamOut :=
  if out.standby then start_output_stream { out with standby := false } w else out

theorem opened_standby (out : StreamOut) (w : Write) : (opened out w).standby = false := by
  unfold opened
  split
  · rfl
  · rename_i hstandby
    simpa using hstandby

theorem opened_reports (out : StreamOut) (w : Write) : (opened out w).reports = out.reports := by
  unfold opened
  split <;> rfl

theorem opened_written (out : StreamOut) (w : Write) : (opened out w).written = out.written := by
  unfold opened
  split <;> rfl

theorem opened_taken (out : StreamOut) (w : Write) : (opened out w).taken = out.taken := by
  unfold opened
  split <;> rfl

theorem Inv.opened_pcm (h : Inv frame_size out) (w : Write) : (opened out w).pcm ≠ .null := by
  unfold opened
  split
  · show (if w.pcm_is_ready then Pcm.ready else Pcm.refused) ≠ .null
    split <;> decide
  · rename_i hstandby
    rw [(h.started (by simpa using hstandby)).1]
    decide

theorem Inv.start (h : Inv frame_size out) {w : Write}
    (hstarts : starts frame_size out (.out_write w)) (hwrite : w.pcm_write = 0) :
    Inv frame_size (opened out w) := by
  unfold opened
  split
  · rename_i hstandby
    obtain ⟨hready, hunits, hsize⟩ := hstarts.1 hstandby hwrite
    refine ⟨⟨h.honest.right, h.honest.monotone⟩, h.written, h.taken_lt, nofun, ?_⟩
    intro _
    exact ⟨if_pos hready, hunits, hsize⟩
  · exact h

/-- A started stream is written: the count goes on with the bytes that the driver has taken. -/
theorem Inv.count (h : Inv frame_size out) (hframe : 0 < frame_size)
    (hstandby : out.standby = false) {bytes : Nat} (hbytes : out.taken + bytes < 2 ^ 63) :
    Inv frame_size
      { out with
        written := (out.written + bytes / (out.config.channels * 2)) % 2 ^ 64
        taken := if out.pcm = .ready then out.taken + bytes / frame_size * frame_size
          else out.taken } := by
  obtain ⟨hpcm, hunits, -⟩ := h.started hstandby
  have hwritten := h.written_le hframe
  have hle : bytes / frame_size ≤ bytes := Nat.div_le_self bytes frame_size
  have hfloor : bytes / frame_size * frame_size ≤ bytes := Nat.div_mul_le_self bytes frame_size
  have hcount : (out.written + bytes / frame_size) % 2 ^ 64 = out.written + bytes / frame_size :=
    Nat.mod_eq_of_lt (by omega)
  rw [if_pos hpcm, hunits, hcount]
  refine ⟨⟨h.honest.right, h.honest.monotone⟩, ?_, ?_, h.standby, h.started⟩
  · show (out.written + bytes / frame_size) * frame_size = _
    rw [Nat.add_mul, h.written]
  · show out.taken + bytes / frame_size * frame_size < 2 ^ 63
    omega

theorem Inv.out_write (h : Inv frame_size out) (hframe : 0 < frame_size) {w : Write}
    (hstarts : starts frame_size out (.out_write w)) :
    Inv frame_size (out_write frame_size out w) := by
  have hstandby := opened_standby out w
  have htaken := opened_taken out w
  unfold PresentationPosition.out_write
  change Inv frame_size
    (if (if (opened out w).pcm = .null then 0 else w.pcm_write) = 0
      then _ else _)
  rw [if_neg (h.opened_pcm w)]
  split
  · rename_i hwrite
    apply (h.start hstarts hwrite).count hframe hstandby
    rw [htaken]
    exact hstarts.2
  · -- The pcm is closed with what waits in it, and the count goes on.
    have hstopped : PresentationPosition.do_out_standby (opened out w) =
        { opened out w with
          pcm := .null
          standby := true } := by
      unfold PresentationPosition.do_out_standby
      rw [if_neg (by simp [hstandby])]
    change Inv frame_size
      (PresentationPosition.do_out_standby (opened out w))
    rw [hstopped]
    refine ⟨⟨?_, ?_⟩, ?_, ?_, fun _ => rfl, nofun⟩
    · show ∀ r ∈ (opened out w).reports, _
      rw [opened_reports]
      exact h.honest.right
    · show ((opened out w).reports.filterMap _).Pairwise _
      rw [opened_reports]
      exact h.honest.monotone
    · show (opened out w).written * _ =
        (opened out w).taken
      rw [opened_written, htaken]
      exact h.written
    · show (opened out w).taken < _
      rw [htaken]
      exact h.taken_lt

theorem Inv.le_last (h : Inv frame_size out) {v : Nat}
    (hv : v ∈ out.reports.filterMap Report.position) : v ≤ last out := by
  have hmonotone := h.honest.monotone
  unfold last
  cases hpositions : out.reports.filterMap Report.position with
  | nil =>
      rw [hpositions] at hv
      cases hv
  | cons w rest =>
      rw [hpositions] at hv hmonotone
      rcases List.mem_cons.mp hv with rfl | hrest
      · exact le_rfl
      · exact List.rel_of_pairwise_cons hmonotone hrest

theorem Inv.position (h : Inv frame_size out) (hframe : 0 < frame_size) {p : Position}
    (hvalid : valid out (.out_get_presentation_position p))
    (hok : ok frame_size out (.out_get_presentation_position p)) :
    Inv frame_size { out with reports := report out p :: out.reports } := by
  obtain ⟨hpcm, hstamp, hwaiting⟩ := hok
  have hqueued : queued out p ≤ out.taken := le_trans (Nat.le_add_right _ _) hwaiting
  obtain ⟨v, hframes, hv⟩ := h.report_frames hframe hpcm hstamp hvalid hqueued
  have hposition : (report out p).position = some v := by
    unfold Report.position
    rw [if_pos (report_ret out p), hframes]
  have hlast : last out ≤ v := by
    refine Nat.le_of_mul_le_mul_right ?_ hframe
    omega
  refine ⟨⟨?_, ?_⟩, h.written, h.taken_lt, h.standby, h.started⟩
  · intro r hr
    rcases List.mem_cons.mp hr with rfl | hbefore
    · constructor
      · exact fun _ => ⟨v, hframes, hv⟩
      · rintro (hclosed | hfailed | hnegative)
        · exact absurd hpcm hclosed
        · exact absurd hstamp hfailed
        · exact absurd hqueued (Nat.not_le.mpr hnegative)
    · exact h.honest.right r hbefore
  · rw [List.filterMap_cons, hposition]
    refine List.pairwise_cons.mpr ⟨?_, h.honest.monotone⟩
    intro u hu
    exact le_trans (h.le_last hu) hlast

theorem Inv.step (h : Inv frame_size out) (hframe : 0 < frame_size) {e : Event}
    (hvalid : valid out e) (hstarts : starts frame_size out e) (hok : ok frame_size out e) :
    Inv frame_size (step frame_size out e) := by
  cases e with
  | out_write w => exact h.out_write hframe hstarts
  | out_standby => exact h.do_out_standby
  | out_get_presentation_position p => exact h.position hframe hvalid hok

/-- A position that is asked for at another time is wrong or goes back, since no call fails. -/
theorem ok_of_honest {e : Event} (hhonest : Honest frame_size (step frame_size out e)) :
    ok frame_size out e := by
  cases e with
  | out_write w => trivial
  | out_standby => trivial
  | out_get_presentation_position p =>
      have hright : (report out p).Right frame_size := hhonest.right _ List.mem_cons_self
      have hret := report_ret out p
      have hnot : ¬ (report out p).Fails := fun hfails => hright.failed hfails hret
      unfold Report.Fails at hnot
      push Not at hnot
      obtain ⟨hpcm, hstamp, -⟩ := hnot
      obtain ⟨v, hframes, hv⟩ := hright.played hret
      refine ⟨hpcm, hstamp, ?_⟩
      have hposition : (report out p).position = some v := by
        unfold Report.position
        rw [if_pos hret, hframes]
      have hmonotone : ((report out p :: out.reports).filterMap Report.position).Pairwise (· ≥ ·) :=
        hhonest.monotone
      rw [List.filterMap_cons, hposition] at hmonotone
      have hlast : last out ≤ v := by
        unfold last
        cases hpositions : out.reports.filterMap Report.position with
        | nil => exact Nat.zero_le v
        | cons w rest =>
            rw [hpositions] at hmonotone
            exact List.rel_of_pairwise_cons hmonotone List.mem_cons_self
      calc queued out p + last out * frame_size
          ≤ queued out p + v * frame_size := Nat.add_le_add_left (Nat.mul_le_mul_right _ hlast) _
        _ = out.taken := by rw [Nat.add_comm]; exact hv

/-- The runs whose positions are honest throughout are those in which every position is asked for
with an open pcm and a time stamp, and finds no more waiting than has been taken since the last. -/
theorem out_get_presentation_position_honest_iff {frame_size : Nat} (hframe : 0 < frame_size)
    (config : PcmConfig) {events : List Event}
    (hvalid : Guarded (step frame_size) (fun _ => valid) (initial config) events)
    (hstarts : Guarded (step frame_size) (fun _ => starts frame_size) (initial config) events) :
    (∀ past, past <+: events → Honest frame_size (past.foldl (step frame_size) (initial config))) ↔
      Guarded (step frame_size) (fun _ => ok frame_size) (initial config) events := by
  refine forall_prefix_iff_guarded_of_valid (fun _ => Inv frame_size) (inv_initial config)
    (fun _ _ h => h.honest) ?_ ?_ (hvalid.and hstarts)
  · intro past out e h hboth hok
    exact h.step hframe hboth.1 hboth.2 hok
  · intro past out e _ _ hhonest
    exact ok_of_honest hhonest

/-- Two frames are written, one of them is played, and after a standby two more are written. -/
theorem out_get_presentation_position_honest_run :
    let config : PcmConfig := ⟨2, 2, 2⟩
    let events : List Event :=
      [.out_write ⟨8, config, true, 0⟩, .out_get_presentation_position ⟨0, 3⟩, .out_standby,
        .out_write ⟨8, config, true, 0⟩, .out_get_presentation_position ⟨0, 2⟩]
    ∀ past, past <+: events → Honest 4 (past.foldl (step 4) (initial config)) := by
  intro config events
  have hvalid : Guarded (step 4) (fun _ => valid) (initial config) events := by decide +kernel
  have hstarts : Guarded (step 4) (fun _ => starts 4) (initial config) events := by decide +kernel
  have hok : Guarded (step 4) (fun _ => ok 4) (initial config) events := by decide +kernel
  exact (out_get_presentation_position_honest_iff (by decide) config hvalid hstarts).mpr hok

/-- A position is asked for before anything is written: the call succeeds and sets nothing. -/
theorem out_get_presentation_position_closed :
    ¬ Honest 4
      (step 4 (initial ⟨2, 1024, 4⟩) (.out_get_presentation_position ⟨0, 0⟩)) := by
  intro hhonest
  have hclosed := ok_of_honest hhonest
  exact absurd hclosed.1 (by simp [initial])

end AwHal.Audio.PresentationPosition
