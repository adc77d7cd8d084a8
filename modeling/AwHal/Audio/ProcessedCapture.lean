import AwHal.Lib.GuardedRun
import AwHal.Lib.Loop
import Mathlib.Data.Prod.Lex
import Mathlib.Tactic.Ring

/-!
# Capture through the preprocessors

With preprocessors on the stream, `in_read` of `audio_hw.c` asks `process_frames` for one block of
ten milliseconds after the other.  Each pass of its loop fills `proc_buf` up to a block, offers all of
it to the preprocessors in turn, and moves what they leave to the beginning.

A sample is known by the number of those captured before it.  `USE_RESAMPLER` is not defined.  The
echo reference has a buffer of its own, and a muted microphone clears the buffer of the caller
afterwards.
-/

namespace AwHal.Audio.ProcessedCapture

open AwHal.Lib

/-! ## The stream -/

/-- The part of `pcm_config` that a start takes from the profile of the device. -/
structure PcmConfig where
  rate : Nat
  channels : Nat
deriving DecidableEq, Repr

/-- A sample that `process` has written: the preprocessor, and the samples kept before this one. -/
structure Sample where
  preprocessor : Nat
  index : Nat
deriving DecidableEq, Repr

/-- What one call of `process` finds. -/
structure Offer where
  preprocessor : Nat
  /-- The samples that this preprocessor has consumed before. -/
  consumed : Nat
  /-- Which captured samples the input buffer holds. -/
  in_buf : List (Option Nat)
deriving DecidableEq, Repr

/-- What one `in_read` has done and returned. -/
structure Read where
  /-- The samples that the buffer of the caller has room for. -/
  samples : Nat
  ret : Int
  standby : Bool
  read_failed : Bool
  /-- Whether something outside `proc_buf` has been used. -/
  outside : Bool
  offers : List Offer
  /-- The samples kept in earlier calls. -/
  produced : Nat
  buffer : Nat → Option Sample

structure StreamIn where
  standby : Bool
  config : PcmConfig
  /-- Which captured sample each place of the buffer holds. -/
  proc_buf : Nat → Option Nat
  /-- The samples that `proc_buf` has been allocated for. -/
  proc_buf_len : Nat
  proc_buf_size : Nat
  proc_frames_in : Nat
  /-- The samples captured so far. -/
  captured : Nat
  /-- The samples that each preprocessor has consumed so far. -/
  consumed : Nat → Nat
  /-- The samples of the last preprocessor that have been kept so far. -/
  produced : Nat
  reads : List Read

/-- What `process` makes of its two frame counts. -/
structure Processed (offered asked : Nat) where
  consumed : Nat
  produced : Nat
  consumed_le : consumed ≤ offered
  produced_le : produced ≤ asked

/-- What one `in_read` is given, and what the calls that it makes return.  The passes of all its
blocks are counted together. -/
structure Call where
  bytes : Nat
  start_input_stream : Int
  /-- The profile of the device, at a start. -/
  config : PcmConfig
  realloc : Nat → Bool
  pcm_read : Nat → Int
  process (pass preprocessor offered asked : Nat) : Processed offered asked

structure Work where
  stream : StreamIn
  read : Read
  pass : Nat
  frames_wr : Nat

section Stream

variable (num_preprocessors frame_byte : Nat) (call : Call)

def Work.access (w : Work) (first samples : Nat) : Work :=
  { w with
    read.outside :=
      w.read.outside || decide (samples ≠ 0 ∧ w.stream.proc_buf_len < first + samples) }

def read_process_frames (frames : Nat) (w : Work) : Work :=
  let first := w.stream.proc_frames_in * w.stream.config.channels
  let samples := frames * frame_byte / 2
  let w := w.access first samples
  if call.pcm_read w.pass = 0 then
    { w with
      stream.proc_buf := fun j =>
        if first ≤ j ∧ j < first + samples then some (w.stream.captured + (j - first))
        else w.stream.proc_buf j
      stream.captured := w.stream.captured + samples }
  else { w with read.read_failed := true }

/-- `realloc` keeps what fits into both sizes. -/
def extend (frames : Nat) (w : Work) : Work :=
  { w with
    stream.proc_buf_size := frames
    stream.proc_buf_len :=
      if call.realloc w.pass then frames * w.stream.config.channels else 0
    stream.proc_buf := fun j =>
      if j < w.stream.proc_buf_len then w.stream.proc_buf j else none }

/-- First reload enough frames at the end of process input buffer.  The result of
`read_process_frames` is the number of frames that it has been asked for. -/
def reload (frames : Nat) (w : Work) : Work :=
  if w.stream.proc_frames_in < frames then
    let w := if w.stream.proc_buf_size < frames then extend call frames w else w
    let frames_rd := frames - w.stream.proc_frames_in
    let w := read_process_frames frame_byte call frames_rd w
    { w with stream.proc_frames_in := w.stream.proc_frames_in + frames_rd }
  else w

def processed (position i : Nat) {offered asked : Nat} (r : Processed offered asked) (w : Work) :
    Work :=
  let channels := w.stream.config.channels
  { w.access 0 (offered * channels) with
    stream.consumed :=
      Function.update w.stream.consumed i (w.stream.consumed i + r.consumed * channels)
    read.offers :=
      ⟨i, w.stream.consumed i, (List.range (offered * channels)).map w.stream.proc_buf⟩ ::
        w.read.offers
    read.buffer := fun j =>
      if position ≤ j ∧ j < position + r.produced * channels then
        some ⟨i, w.stream.produced + (j - position)⟩
      else w.read.buffer j }

def preprocess (position : Nat) : (n i offered asked : Nat) → Work → Nat × Nat × Work
  | 0, _, offered, asked, w => (offered, asked, w)
  | n + 1, i, offered, asked, w =>
      let r := call.process w.pass i offered asked
      preprocess position n (i + 1) r.consumed r.produced (processed position i r w)

/-- Move remaining frames to the beginning of `proc_buf`.  `memcpy` does not say what it leaves when
the two places overlap. -/
def compact (consumed : Nat) (w : Work) : Work :=
  let channels := w.stream.config.channels
  let rest := w.stream.proc_frames_in - consumed
  let w := { w with stream.proc_frames_in := rest }
  if rest = 0 then w
  else
    { w.access (consumed * channels) (rest * channels) with
      stream.proc_buf := fun j =>
        if j < rest * channels then
          if rest * channels ≤ consumed * channels then w.stream.proc_buf (consumed * channels + j)
          else none
        else w.stream.proc_buf j }

/-- A pass of `process_frames`.  If nothing has been produced, it reads more and retries. -/
def framesPass (frames position : Nat) (w : Work) : Except Empty (Next Work Work) :=
  if w.frames_wr < frames then
    let w := reload frame_byte call frames w
    let (in_frames, out_frames, w) :=
      preprocess call (position + w.frames_wr * w.stream.config.channels) num_preprocessors 0
        w.stream.proc_frames_in (frames - w.frames_wr) w
    let w := compact in_frames w
    .ok (.again
      { w with
        stream.produced := w.stream.produced + out_frames * w.stream.config.channels
        pass := w.pass + 1
        frames_wr := w.frames_wr + out_frames })
  else .ok (.done w)

def process_frames (fuel frames position : Nat) (w : Work) : Option Work :=
  match loop (framesPass num_preprocessors frame_byte call frames position) fuel
      { w with frames_wr := 0 } with
  | .ok r => r

/-- `(int16_t *)buffer + pro_frames * i * frame_byte / 2`, where the first product is an `int`. -/
def blockPosition (pro_frames i : Nat) : Nat :=
  ((((pro_frames * i : Nat) : Int).bmod (2 ^ 32) * frame_byte) % 2 ^ 64).toNat / 2

def processBlocks (fuel pro_frames : Nat) : List Nat → Int → Work → Option (Int × Work)
  | [], ret, w => some (ret, w)
  | i :: rest, _, w =>
      match process_frames num_preprocessors frame_byte call fuel pro_frames
          (blockPosition frame_byte pro_frames i) w with
      | none => none
      | some w => processBlocks fuel pro_frames rest w.frames_wr w

def start_input_stream (stream : StreamIn) : Int × StreamIn :=
  (call.start_input_stream, { stream with config := call.config })

def exit (ret : Int) (w : Work) : Read × StreamIn :=
  let stream := if ret ≠ 0 then { w.stream with standby := true } else w.stream
  ({ w.read with
      ret := ret
      standby := stream.standby }, stream)

def readStarted (fuel : Nat) (ret : Int) (w : Work) : Option (Read × StreamIn) :=
  let frames := call.bytes / frame_byte
  let pro_frames := w.stream.config.rate / 100
  let pro_num := ((frames / pro_frames : Nat) : Int).bmod (2 ^ 32)
  if num_preprocessors ≠ 0 then
    match processBlocks num_preprocessors frame_byte call fuel pro_frames
        (List.range pro_num.toNat) ret w with
    | none => none
    | some (ret, w) => some (exit (if 0 < ret then 0 else ret) w)
  else
    let ret := call.pcm_read 0
    some (exit ret (if ret = 0 then
      { w with stream.captured := w.stream.captured + call.bytes / 2 }
    else w))

def emptyRead (stream : StreamIn) : Read where
  samples := call.bytes / 2
  ret := -1
  standby := stream.standby
  read_failed := false
  outside := false
  offers := []
  produced := stream.produced
  buffer := fun _ => none

def in_read (fuel : Nat) (stream : StreamIn) : Option (Read × StreamIn) :=
  let read := emptyRead call stream
  if stream.standby then
    let (ret, stream) := start_input_stream call stream
    if ret ≠ 0 then some (exit ret ⟨stream, read, 0, 0⟩)
    else
      readStarted num_preprocessors frame_byte call fuel ret
        ⟨{ stream with standby := false }, read, 0, 0⟩
  else readStarted num_preprocessors frame_byte call fuel (-1) ⟨stream, read, 0, 0⟩

end Stream

inductive Event where
  | in_read (call : Call)
  | in_standby

/-- An `in_read` whose loops are looked at for `fuel` passes each. -/
def step (num_preprocessors frame_byte fuel : Nat) (stream : StreamIn) : Event → Option StreamIn
  | .in_read call =>
      match in_read num_preprocessors frame_byte call fuel stream with
      | none => none
      | some (read, stream) => some { stream with reads := read :: stream.reads }
  | .in_standby => some { stream with standby := true }

def initial (config : PcmConfig) : StreamIn where
  standby := true
  config := config
  proc_buf := fun _ => none
  proc_buf_len := 0
  proc_buf_size := 0
  proc_frames_in := 0
  captured := 0
  consumed := fun _ => 0
  produced := 0
  reads := []

/-! ## Reads that fill the buffer -/

/-- The preprocessor is offered the samples that follow those it has consumed. -/
def Offer.Right (o : Offer) : Prop :=
  o.in_buf = (List.range o.in_buf.length).map fun j => some (o.consumed + j)

/-- Either a `pcm_read` has failed and the stream is in standby, or each sample has been written by
the last preprocessor, in order and from consecutive captured samples. -/
structure Read.Right (num_preprocessors : Nat) (r : Read) : Prop where
  inside : r.outside = false
  fails_or_filled :
    (r.ret ≠ 0 ∧ r.standby = true ∧ r.read_failed = true) ∨
      ((∀ o ∈ r.offers, o.Right) ∧
        ∀ j < r.samples, r.buffer j = some ⟨num_preprocessors - 1, r.produced + j⟩)

def Sound (num_preprocessors : Nat) (stream : StreamIn) : Prop :=
  ∀ r ∈ stream.reads, r.Right num_preprocessors

def Takes (num_preprocessors frame_byte : Nat) (stream : StreamIn) (e : Event)
    (stream' : StreamIn) : Prop :=
  ∃ fuel, step num_preprocessors frame_byte fuel stream e = some stream'

/-! ## The buffer of the preprocessors -/

/-- The buffer holds, in order, what has been captured and no preprocessor has consumed. -/
structure Buffered (num_preprocessors channels : Nat) (s : StreamIn) : Prop where
  cells : ∀ j < s.proc_frames_in * channels, s.proc_buf j = some (s.consumed 0 + j)
  captured : s.captured = s.consumed 0 + s.proc_frames_in * channels
  same : ∀ i < num_preprocessors, s.consumed i = s.consumed 0
  fits : s.proc_frames_in ≤ s.proc_buf_size
  len : s.proc_buf_len = s.proc_buf_size * channels

section Pass

variable {num_preprocessors channels : Nat} {call : Call} {w : Work}

theorem access_eq {first samples : Nat} (h : first + samples ≤ w.stream.proc_buf_len) :
    w.access first samples = w := by
  unfold Work.access
  rw [decide_eq_false (by omega), Bool.or_false]

theorem read_process_frames_eq (hchannels : w.stream.config.channels = channels) {n : Nat}
    (hread : call.pcm_read w.pass = 0)
    (hfits : (w.stream.proc_frames_in + n) * channels ≤ w.stream.proc_buf_len) :
    read_process_frames (channels * 2) call n w =
      { w with
        stream.proc_buf := fun j =>
          if w.stream.proc_frames_in * channels ≤ j ∧
              j < w.stream.proc_frames_in * channels + n * channels then
            some (w.stream.captured + (j - w.stream.proc_frames_in * channels))
          else w.stream.proc_buf j
        stream.captured := w.stream.captured + n * channels } := by
  have hsamples : n * (channels * 2) / 2 = n * channels := by
    rw [← Nat.mul_assoc]
    exact Nat.mul_div_cancel _ (by decide)
  rw [Nat.add_mul] at hfits
  unfold read_process_frames
  dsimp only
  rw [hchannels, hsamples, access_eq hfits, if_pos hread]

theorem Buffered.read (h : Buffered num_preprocessors channels w.stream)
    (hchannels : w.stream.config.channels = channels) (hread : call.pcm_read w.pass = 0) {n : Nat}
    (hfits : w.stream.proc_frames_in + n ≤ w.stream.proc_buf_size) :
    ∃ proc_buf captured,
      let stream : StreamIn :=
        { w.stream with
          proc_buf := proc_buf
          proc_frames_in := w.stream.proc_frames_in + n
          captured := captured }
      let after := read_process_frames (channels * 2) call n w
      { after with stream.proc_frames_in := after.stream.proc_frames_in + n } =
          { w with stream := stream } ∧
        Buffered num_preprocessors channels stream := by
  have hlen : (w.stream.proc_frames_in + n) * channels ≤ w.stream.proc_buf_len := by
    rw [h.len]
    exact Nat.mul_le_mul_right channels hfits
  rw [read_process_frames_eq hchannels hread hlen]
  refine ⟨_, _, rfl, ?_, ?_, h.same, hfits, h.len⟩
  · intro j hj
    have hcaptured := h.captured
    change j < (w.stream.proc_frames_in + n) * channels at hj
    rw [Nat.add_mul] at hj
    dsimp only
    split
    · congr 1
      omega
    · exact h.cells j (by omega)
  · show w.stream.captured + n * channels =
      w.stream.consumed 0 + (w.stream.proc_frames_in + n) * channels
    rw [h.captured, Nat.add_mul, Nat.add_assoc]

theorem Buffered.extend (h : Buffered num_preprocessors channels w.stream)
    (hchannels : w.stream.config.channels = channels) (hrealloc : call.realloc w.pass = true)
    {frames : Nat} (hsize : w.stream.proc_buf_size < frames) :
    Buffered num_preprocessors channels (extend call frames w).stream where
  cells := by
    intro j hj
    have hle : w.stream.proc_frames_in * channels ≤ w.stream.proc_buf_len := by
      rw [h.len]
      exact Nat.mul_le_mul_right channels h.fits
    show (if j < w.stream.proc_buf_len then w.stream.proc_buf j else none) = _
    rw [if_pos (lt_of_lt_of_le hj hle)]
    exact h.cells j hj
  captured := h.captured
  same := h.same
  fits := le_of_lt (lt_of_le_of_lt h.fits hsize)
  len := by
    show (if call.realloc w.pass then frames * w.stream.config.channels else 0) =
      frames * channels
    rw [if_pos hrealloc, hchannels]

theorem Buffered.reload (h : Buffered num_preprocessors channels w.stream)
    (hchannels : w.stream.config.channels = channels) {frames : Nat}
    (hread : w.stream.proc_frames_in < frames → call.pcm_read w.pass = 0)
    (hrealloc : w.stream.proc_buf_size < frames → call.realloc w.pass = true) :
    ∃ after, reload (channels * 2) call frames w = after ∧
      after =
        { w with
          stream.proc_buf := after.stream.proc_buf
          stream.proc_buf_len := after.stream.proc_buf_len
          stream.proc_buf_size := after.stream.proc_buf_size
          stream.proc_frames_in := max w.stream.proc_frames_in frames
          stream.captured := after.stream.captured } ∧
      Buffered num_preprocessors channels after.stream := by
  unfold ProcessedCapture.reload
  split
  · rename_i hless
    have hsum : w.stream.proc_frames_in + (frames - w.stream.proc_frames_in) = frames := by omega
    rw [max_eq_right (le_of_lt hless)]
    dsimp only
    split
    · rename_i hsize
      have hextend := h.extend hchannels (hrealloc hsize) hsize
      have hframes : (ProcessedCapture.extend call frames w).stream.proc_frames_in +
          (frames - w.stream.proc_frames_in) = frames := hsum
      obtain ⟨proc_buf, captured, heq, hbuffered⟩ :=
        hextend.read hchannels (hread hless) (le_of_eq hsum)
      rw [hframes] at heq hbuffered
      exact ⟨_, heq, rfl, hbuffered⟩
    · rename_i hsize
      obtain ⟨proc_buf, captured, heq, hbuffered⟩ :=
        h.read hchannels (hread hless) (n := frames - w.stream.proc_frames_in) (by omega)
      rw [hsum] at heq hbuffered
      exact ⟨_, heq, rfl, hbuffered⟩
  · rename_i hless
    rw [max_eq_left (Nat.not_lt.mp hless)]
    exact ⟨w, rfl, rfl, h⟩

/-! ## The preprocessors in turn -/

/-- The state in which the first `i` preprocessors leave what they have found at `w₀`: each of them
has consumed `used` frames, and the last has written `produced` frames. -/
structure Passed (channels position used i : Nat) (w₀ w : Work) (produced : Nat) : Prop where
  frame : w =
    { w₀ with
      stream.consumed := w.stream.consumed
      read.offers := w.read.offers
      read.buffer := w.read.buffer }
  consumed : ∀ k, w.stream.consumed k =
    if k < i then w₀.stream.consumed k + used * channels else w₀.stream.consumed k
  offers : ∀ o ∈ w.read.offers, o ∈ w₀.read.offers ∨ o.Right
  before : ∀ j < position, w.read.buffer j = w₀.read.buffer j
  written : ∀ j < produced * channels,
    w.read.buffer (position + j) = some ⟨i - 1, w₀.stream.produced + j⟩

theorem offer_right {consumed offered i : Nat} {proc_buf : Nat → Option Nat}
    (hcells : ∀ j < offered, proc_buf j = some (consumed + j)) :
    Offer.Right ⟨i, consumed, (List.range offered).map proc_buf⟩ := by
  unfold Offer.Right
  rw [List.length_map, List.length_range]
  apply List.map_congr_left
  intro j hj
  exact hcells j (List.mem_range.mp hj)

theorem processed_eq (position i : Nat) {offered asked : Nat} (r : Processed offered asked)
    (hchannels : w.stream.config.channels = channels)
    (hlen : offered * channels ≤ w.stream.proc_buf_len) :
    processed position i r w =
      { w with
        stream.consumed :=
          Function.update w.stream.consumed i (w.stream.consumed i + r.consumed * channels)
        read.offers :=
          ⟨i, w.stream.consumed i, (List.range (offered * channels)).map w.stream.proc_buf⟩ ::
            w.read.offers
        read.buffer := fun j =>
          if position ≤ j ∧ j < position + r.produced * channels then
            some ⟨i, w.stream.produced + (j - position)⟩
          else w.read.buffer j } := by
  unfold processed
  dsimp only
  rw [hchannels, access_eq (by rwa [Nat.zero_add])]

theorem passed_zero (channels position used : Nat) (w : Work) :
    Passed channels position used 0 w w 0 where
  frame := rfl
  consumed := by simp
  offers := fun o ho => Or.inl ho
  before := fun _ _ => rfl
  written := by simp

theorem Passed.next {position used i produced offered asked : Nat} {w₀ : Work}
    (h : Passed channels position used i w₀ w produced)
    (hbuffered : Buffered num_preprocessors channels w₀.stream)
    (hchannels : w₀.stream.config.channels = channels) (hi : i < num_preprocessors)
    (hoffered : offered ≤ w₀.stream.proc_frames_in) (r : Processed offered asked)
    (hused : r.consumed = used) :
    Passed channels position used (i + 1) w₀ (processed position i r w) r.produced := by
  have hsamples : offered * channels ≤ w₀.stream.proc_frames_in * channels :=
    Nat.mul_le_mul_right channels hoffered
  have hlen : offered * channels ≤ w.stream.proc_buf_len := by
    rw [h.frame]
    show offered * channels ≤ w₀.stream.proc_buf_len
    rw [hbuffered.len]
    exact Nat.mul_le_mul_right channels (hoffered.trans hbuffered.fits)
  have hconsumed : w.stream.consumed i = w₀.stream.consumed i := by
    rw [h.consumed, if_neg (Nat.lt_irrefl i)]
  have hchannels' : w.stream.config.channels = channels := by
    rw [h.frame]
    exact hchannels
  have hproduced : w.stream.produced = w₀.stream.produced := by rw [h.frame]
  have hcells : ∀ j < offered * channels,
      w.stream.proc_buf j = some (w₀.stream.consumed i + j) := by
    intro j hj
    rw [h.frame, hbuffered.same i hi]
    exact hbuffered.cells j (lt_of_lt_of_le hj hsamples)
  rw [processed_eq position i r hchannels' hlen, hused, hconsumed]
  refine ⟨?_, ?_, ?_, ?_, ?_⟩
  · rw [h.frame]
  · intro k
    dsimp only
    rw [Function.update_apply, h.consumed]
    by_cases hk : k = i
    · subst hk
      rw [if_pos rfl, if_pos (Nat.lt_succ_self k)]
    · rw [if_neg hk]
      exact if_congr (by omega) rfl rfl
  · intro o ho
    rcases List.mem_cons.mp ho with rfl | hbefore
    · exact Or.inr (offer_right hcells)
    · exact h.offers o hbefore
  · intro j hj
    dsimp only
    rw [if_neg (by omega)]
    exact h.before j hj
  · intro j hj
    dsimp only
    rw [if_pos (by omega), hproduced, Nat.add_sub_cancel, Nat.add_sub_cancel_left]

/-- `n` preprocessors from the `i`-th on consume all that they are offered, and write something when
they are asked to. -/
def InStep (call : Call) (pass : Nat) : (n i offered asked : Nat) → Prop
  | 0, _, _, _ => True
  | n + 1, i, offered, asked =>
      let r := call.process pass i offered asked
      r.consumed = offered ∧ (0 < asked → 0 < r.produced) ∧
        InStep call pass n (i + 1) r.consumed r.produced

theorem Passed.rest {position used : Nat} {w₀ : Work}
    (hbuffered : Buffered num_preprocessors channels w₀.stream)
    (hchannels : w₀.stream.config.channels = channels) (hused : used ≤ w₀.stream.proc_frames_in)
    {n i : Nat} (hn : i + n = num_preprocessors) {asked : Nat}
    (hchain : InStep call w₀.pass n i used asked)
    (h : Passed channels position used i w₀ w asked) :
    ∃ produced w', preprocess call position n i used asked w = (used, produced, w') ∧
      Passed channels position used num_preprocessors w₀ w' produced ∧ produced ≤ asked ∧
        (0 < asked → 0 < produced) := by
  induction n generalizing i asked w with
  | zero =>
      obtain rfl : i = num_preprocessors := hn
      exact ⟨asked, w, rfl, h, le_rfl, id⟩
  | succ n ih =>
      have hpass : w.pass = w₀.pass := by rw [h.frame]
      obtain ⟨hall, hsome, hrest⟩ := hchain
      rw [hall] at hrest
      have hnext := h.next hbuffered hchannels (by omega) hused
        (call.process w₀.pass i used asked) hall
      obtain ⟨produced, w', heq, hpassed, hle, hpos⟩ := ih (by omega) hrest hnext
      refine ⟨produced, w', ?_, hpassed, ?_, ?_⟩
      · unfold preprocess
        dsimp only
        rw [hpass, hall]
        exact heq
      · exact hle.trans (call.process w₀.pass i used asked).produced_le
      · exact fun hasked => hpos (hsome hasked)

theorem Buffered.preprocess (h : Buffered num_preprocessors channels w.stream)
    (hnum : 0 < num_preprocessors) (hchannels : w.stream.config.channels = channels)
    (position asked : Nat)
    (hchain : InStep call w.pass (num_preprocessors - 1) 1
      (call.process w.pass 0 w.stream.proc_frames_in asked).consumed
      (call.process w.pass 0 w.stream.proc_frames_in asked).produced) :
    let first := call.process w.pass 0 w.stream.proc_frames_in asked
    ∃ produced w',
      preprocess call position num_preprocessors 0 w.stream.proc_frames_in asked w =
          (first.consumed, produced, w') ∧
        Passed channels position first.consumed num_preprocessors w w' produced ∧
          produced ≤ first.produced ∧ (0 < first.produced → 0 < produced) := by
  intro first
  obtain ⟨n, rfl⟩ : ∃ n, num_preprocessors = n + 1 := ⟨num_preprocessors - 1, by omega⟩
  have hfirst := (passed_zero channels position first.consumed w).next h hchannels
    (Nat.succ_pos n) le_rfl first rfl
  exact hfirst.rest h hchannels first.consumed_le (Nat.add_comm 1 n) hchain

theorem Buffered.compact {w₀ : Work} (h : Buffered num_preprocessors channels w₀.stream)
    (hnum : 0 < num_preprocessors) (hchannels : w₀.stream.config.channels = channels)
    {position used produced : Nat} (hused : used ≤ w₀.stream.proc_frames_in)
    (hhalf : w₀.stream.proc_frames_in ≤ 2 * used)
    (hpassed : Passed channels position used num_preprocessors w₀ w produced) :
    ∃ after, compact used w = after ∧
      after =
        { w with
          stream.proc_buf := after.stream.proc_buf
          stream.proc_frames_in := w₀.stream.proc_frames_in - used } ∧
      Buffered num_preprocessors channels after.stream := by
  have hframes : w.stream.proc_frames_in = w₀.stream.proc_frames_in := by rw [hpassed.frame]
  have hchannels' : w.stream.config.channels = channels := by
    rw [hpassed.frame]
    exact hchannels
  have hconsumed : ∀ i < num_preprocessors,
      w.stream.consumed i = w₀.stream.consumed 0 + used * channels := by
    intro i hi
    rw [hpassed.consumed, if_pos hi, h.same i hi]
  have hsplit : w₀.stream.proc_frames_in * channels =
      used * channels + (w₀.stream.proc_frames_in - used) * channels := by
    rw [← Nat.add_mul, Nat.add_sub_cancel' hused]
  have hrest : (w₀.stream.proc_frames_in - used) * channels ≤ used * channels :=
    Nat.mul_le_mul_right channels (by omega)
  have hlen : used * channels + (w₀.stream.proc_frames_in - used) * channels ≤
      w.stream.proc_buf_len := by
    rw [← hsplit, hpassed.frame]
    show _ ≤ w₀.stream.proc_buf_len
    rw [h.len]
    exact Nat.mul_le_mul_right channels h.fits
  have hbuf : w.stream.proc_buf = w₀.stream.proc_buf := by rw [hpassed.frame]
  have hkept : ∀ proc_buf : Nat → Option Nat,
      (∀ j < (w₀.stream.proc_frames_in - used) * channels,
        proc_buf j = w₀.stream.proc_buf (used * channels + j)) →
      Buffered num_preprocessors channels
        { w.stream with
          proc_buf := proc_buf
          proc_frames_in := w₀.stream.proc_frames_in - used } := by
    intro proc_buf hmoved
    refine ⟨?_, ?_, ?_, ?_, ?_⟩
    · intro j hj
      change j < (w₀.stream.proc_frames_in - used) * channels at hj
      show proc_buf j = some (w.stream.consumed 0 + j)
      rw [hmoved j hj, h.cells _ (by omega), hconsumed 0 hnum, Nat.add_assoc]
    · show w.stream.captured =
        w.stream.consumed 0 + (w₀.stream.proc_frames_in - used) * channels
      rw [hconsumed 0 hnum, Nat.add_assoc, ← hsplit, hpassed.frame]
      exact h.captured
    · intro i hi
      exact (hconsumed i hi).trans (hconsumed 0 hnum).symm
    · show w₀.stream.proc_frames_in - used ≤ w.stream.proc_buf_size
      rw [hpassed.frame]
      exact (Nat.sub_le _ _).trans h.fits
    · rw [hpassed.frame]
      exact h.len
  unfold ProcessedCapture.compact
  dsimp only
  rw [hframes]
  split
  · rename_i hnone
    refine ⟨_, rfl, rfl, hkept _ ?_⟩
    intro j hj
    rw [hnone, Nat.zero_mul] at hj
    exact absurd hj (Nat.not_lt_zero j)
  · have hinside : Work.access
        { w with stream.proc_frames_in := w₀.stream.proc_frames_in - used } (used * channels)
          ((w₀.stream.proc_frames_in - used) * channels) =
        { w with stream.proc_frames_in := w₀.stream.proc_frames_in - used } := access_eq hlen
    rw [hchannels', hinside]
    refine ⟨_, rfl, rfl, hkept _ ?_⟩
    intro j hj
    rw [if_pos hj, if_pos hrest, hbuf]

end Pass

/-! ## Blocks -/

/-- What the driver and the preprocessors do in a pass that begins at `w`. -/
structure Willing (num_preprocessors : Nat) (call : Call) (frames : Nat) (w : Work) : Prop where
  read : w.stream.proc_frames_in < frames → call.pcm_read w.pass = 0
  realloc : w.stream.proc_buf_size < frames → call.realloc w.pass = true
  chain :
    let first :=
      call.process w.pass 0 (max w.stream.proc_frames_in frames) (frames - w.frames_wr)
    InStep call w.pass (num_preprocessors - 1) 1 first.consumed first.produced
  /-- What is left is not longer than what has been consumed. -/
  half : max w.stream.proc_frames_in frames ≤
    2 * (call.process w.pass 0 (max w.stream.proc_frames_in frames)
      (frames - w.frames_wr)).consumed

/-- The first preprocessor produces something again and again when it is offered a block. -/
def Again (call : Call) (frames : Nat) : Prop :=
  ∀ k, ∃ later, k ≤ later ∧ ∀ offered asked, frames ≤ offered → 0 < asked →
    0 < (call.process later 0 offered asked).produced

/-- An `in_read`, on its way since `w₀`, has filled the first `done` samples. -/
structure Filled (num_preprocessors channels : Nat) (w₀ : Work) (done : Nat) (w : Work) : Prop where
  buffered : Buffered num_preprocessors channels w.stream
  config : w.stream.config = w₀.stream.config
  standby : w.stream.standby = false
  reads : w.stream.reads = w₀.stream.reads
  samples : w.read.samples = w₀.read.samples
  inside : w.read.outside = false
  offers : ∀ o ∈ w.read.offers, o.Right
  written : ∀ j < done, w.read.buffer j = some ⟨num_preprocessors - 1, w.read.produced + j⟩
  produced : w.stream.produced = w.read.produced + done

section Blocks

variable {num_preprocessors channels frames position : Nat} {call : Call} {w₀ w : Work}

theorem Filled.pass (h : Filled num_preprocessors channels w₀ (position + w.frames_wr * channels) w)
    (hnum : 0 < num_preprocessors) (hchannels : w₀.stream.config.channels = channels)
    (hless : w.frames_wr < frames) (hwilling : Willing num_preprocessors call frames w) :
    ∃ w', framesPass num_preprocessors (channels * 2) call frames position w = .ok (.again w') ∧
      Filled num_preprocessors channels w₀ (position + w'.frames_wr * channels) w' ∧
      w'.frames_wr ≤ frames ∧ w'.pass = w.pass + 1 ∧ w.frames_wr ≤ w'.frames_wr ∧
      ((∀ offered asked, frames ≤ offered → 0 < asked →
        0 < (call.process w.pass 0 offered asked).produced) → w.frames_wr < w'.frames_wr) := by
  have hchannels' : w.stream.config.channels = channels := by rw [h.config, hchannels]
  obtain ⟨reloaded, hreload, hframe, hbuffered⟩ :=
    h.buffered.reload hchannels' hwilling.read hwilling.realloc
  have hin : reloaded.stream.proc_frames_in = max w.stream.proc_frames_in frames := by rw [hframe]
  have hchannels'' : reloaded.stream.config.channels = channels := by
    rw [hframe]
    exact hchannels'
  have hpass₀ : reloaded.pass = w.pass := by rw [hframe]
  have hchain := hwilling.chain
  have hhalf := hwilling.half
  rw [← hin, ← hpass₀] at hchain hhalf
  obtain ⟨produced, passed, hpreprocess, hpassed, hle, hpos⟩ :=
    hbuffered.preprocess hnum hchannels'' (position + w.frames_wr * channels)
      (frames - w.frames_wr) hchain
  obtain ⟨after, hcompact, hafter, hbuffered'⟩ :=
    hbuffered.compact hnum hchannels''
      (call.process reloaded.pass 0 reloaded.stream.proc_frames_in
        (frames - w.frames_wr)).consumed_le hhalf hpassed
  have hproduced : produced ≤ frames - w.frames_wr :=
    hle.trans (call.process reloaded.pass 0 reloaded.stream.proc_frames_in
      (frames - w.frames_wr)).produced_le
  have hpass : after.pass = w.pass := by
    rw [hafter, hpassed.frame, hframe]
  have hframes : after.frames_wr = w.frames_wr := by
    rw [hafter, hpassed.frame, hframe]
  obtain ⟨hconfig, hstandby, hreads, hkept⟩ : after.stream.config = w.stream.config ∧
      after.stream.standby = w.stream.standby ∧ after.stream.reads = w.stream.reads ∧
      after.stream.produced = w.stream.produced := by
    rw [hafter, hpassed.frame, hframe]
    exact ⟨rfl, rfl, rfl, rfl⟩
  obtain ⟨hsamples, houtside, hfirst⟩ : after.read.samples = w.read.samples ∧
      after.read.outside = w.read.outside ∧ after.read.produced = w.read.produced := by
    rw [hafter, hpassed.frame, hframe]
    exact ⟨rfl, rfl, rfl⟩
  have hoffers : ∀ o ∈ after.read.offers, o.Right := by
    rw [hafter]
    intro o ho
    rcases hpassed.offers o ho with hbefore | hright
    · rw [hframe] at hbefore
      exact h.offers o hbefore
    · exact hright
  have hbuffer : ∀ j < position + (w.frames_wr + produced) * channels,
      after.read.buffer j = some ⟨num_preprocessors - 1, w.read.produced + j⟩ := by
    rw [hafter]
    intro j hj
    rw [Nat.add_mul, ← Nat.add_assoc] at hj
    show passed.read.buffer j = _
    rcases Nat.lt_or_ge j (position + w.frames_wr * channels) with hbefore | hbehind
    · rw [hpassed.before j hbefore, hframe]
      exact h.written j hbefore
    · obtain ⟨k, rfl⟩ := Nat.exists_eq_add_of_le hbehind
      rw [hpassed.written k (by omega), hframe]
      show some (Sample.mk _ (w.stream.produced + k)) = _
      rw [h.produced, Nat.add_assoc]
  refine ⟨
    { after with
      stream.produced := after.stream.produced + produced * channels
      pass := after.pass + 1
      frames_wr := after.frames_wr + produced }, ?_, ?_, ?_, ?_, ?_, ?_⟩
  · have hwr : reloaded.frames_wr = w.frames_wr := by rw [hframe]
    unfold framesPass
    rw [if_pos hless, hreload]
    dsimp only
    rw [hchannels'', hwr, hpreprocess]
    dsimp only
    rw [hcompact, hconfig, hchannels']
  · refine ⟨?_, hconfig.trans h.config, hstandby.trans h.standby, hreads.trans h.reads,
      hsamples.trans h.samples, houtside.trans h.inside, hoffers, ?_, ?_⟩
    · exact ⟨hbuffered'.cells, hbuffered'.captured, hbuffered'.same, hbuffered'.fits,
        hbuffered'.len⟩
    · show ∀ j < position + (after.frames_wr + produced) * channels, after.read.buffer j =
        some ⟨num_preprocessors - 1, after.read.produced + j⟩
      rw [hframes, hfirst]
      exact hbuffer
    · show after.stream.produced + produced * channels =
        after.read.produced + (position + (after.frames_wr + produced) * channels)
      rw [hkept, hfirst, hframes, h.produced, Nat.add_mul]
      omega
  · show after.frames_wr + produced ≤ frames
    omega
  · rw [hpass]
  · show w.frames_wr ≤ after.frames_wr + produced
    omega
  · intro hproduces
    have hfull : frames ≤ reloaded.stream.proc_frames_in := hin ▸ le_max_right _ _
    rw [hpass₀] at hpos
    have hsome := hpos (hproduces _ _ hfull (by omega))
    show w.frames_wr < after.frames_wr + produced
    omega

theorem Filled.process_frames (h : Filled num_preprocessors channels w₀ position w)
    (hnum : 0 < num_preprocessors) (hchannels : w₀.stream.config.channels = channels)
    (hagain : Again call frames)
    (hwilling : ∀ w',
      Heads (framesPass num_preprocessors (channels * 2) call frames position)
        { w with frames_wr := 0 } w' →
      w'.frames_wr < frames → Willing num_preprocessors call frames w') :
    ∃ fuel w', process_frames num_preprocessors (channels * 2) call fuel frames position w =
        some w' ∧
      Filled num_preprocessors channels w₀ (position + frames * channels) w' ∧
      w'.frames_wr = frames := by
  let body := framesPass num_preprocessors (channels * 2) call frames position
  let I : Work → Prop := fun w' =>
    Filled num_preprocessors channels w₀ (position + w'.frames_wr * channels) w' ∧
      w'.frames_wr ≤ frames ∧ Heads body { w with frames_wr := 0 } w'
  have hstart : I { w with frames_wr := 0 } := by
    refine ⟨?_, Nat.zero_le frames, .refl⟩
    show Filled _ _ _ (position + 0 * channels) _
    rw [Nat.zero_mul, Nat.add_zero]
    exact ⟨h.buffered, h.config, h.standby, h.reads, h.samples, h.inside, h.offers, h.written,
      h.produced⟩
  obtain ⟨last, r, hheads, ⟨hlast, hle, -⟩, hdone⟩ : ∃ last r,
      Heads body { w with frames_wr := 0 } last ∧ I last ∧ body last = .ok (.done r) := by
    refine exists_done_of_again Work.pass (fun w => frames - w.frames_wr) hagain ?_ hstart
    rintro w' ⟨hw, hle, hheads⟩
    rcases Nat.lt_or_ge w'.frames_wr frames with hless | hfull
    · obtain ⟨next, hbody, hnext, hle', hpass, hmono, hproduces⟩ :=
        hw.pass hnum hchannels hless (hwilling w' hheads hless)
      refine Or.inr ⟨next, hbody, ⟨hnext, hle', hheads.tail hbody⟩, hpass, by omega, ?_⟩
      intro hsome
      have hless' := hproduces hsome
      omega
    · refine Or.inl ⟨w', ?_⟩
      show framesPass _ _ _ _ _ w' = _
      unfold framesPass
      rw [if_neg (Nat.not_lt.mpr hfull)]
  obtain ⟨fuel, hfuel⟩ := hheads.loop_eq hdone
  by_cases hless : last.frames_wr < frames
  · obtain ⟨w', hbody, -⟩ := hlast.pass hnum hchannels hless (hwilling last hheads hless)
    rw [show body last = _ from hbody] at hdone
    cases hdone
  · have hfull : last.frames_wr = frames := by omega
    change framesPass _ _ _ _ _ last = _ at hdone
    unfold framesPass at hdone
    rw [if_neg hless] at hdone
    cases hdone
    rw [hfull] at hlast
    refine ⟨fuel, last, ?_, hlast, hfull⟩
    unfold ProcessedCapture.process_frames
    rw [hfuel]

theorem process_frames_add {frame_byte fuel : Nat} {w w' : Work}
    (h : process_frames num_preprocessors frame_byte call fuel frames position w = some w')
    (more : Nat) :
    process_frames num_preprocessors frame_byte call (fuel + more) frames position w = some w' := by
  unfold process_frames at h ⊢
  rw [loop_add _ more]
  · exact h
  · intro hnone
    rw [hnone] at h
    cases h

theorem processBlocks_add {frame_byte fuel pro_frames : Nat} {blocks : List Nat} {ret : Int}
    {w : Work} {result : Int × Work}
    (h : processBlocks num_preprocessors frame_byte call fuel pro_frames blocks ret w = some result)
    (more : Nat) :
    processBlocks num_preprocessors frame_byte call (fuel + more) pro_frames blocks ret w =
      some result := by
  induction blocks generalizing ret w with
  | nil => exact h
  | cons i rest ih =>
      unfold processBlocks at h ⊢
      split at h
      · cases h
      · rename_i w' hblock
        rw [process_frames_add hblock more]
        exact ih h

theorem blockPosition_eq {pro_frames i : Nat} (hint : pro_frames * i < 2 ^ 31)
    (hsize : pro_frames * i * (channels * 2) < 2 ^ 64) :
    blockPosition (channels * 2) pro_frames i = pro_frames * i * channels := by
  unfold blockPosition
  generalize pro_frames * i = first at *
  have hbmod : ((first : Nat) : Int).bmod (2 ^ 32) = first := by
    apply Int.bmod_eq_of_le
    · omega
    · omega
  rw [hbmod]
  rw [← Nat.cast_mul]
  have hmod : ((first * (channels * 2) : Nat) : Int) % 2 ^ 64 = (first * (channels * 2) : Nat) := by
    apply Int.emod_eq_of_lt
    · exact Int.natCast_nonneg _
    · exact_mod_cast hsize
  rw [hmod, Int.toNat_natCast, ← Nat.mul_assoc, Nat.mul_div_cancel _ (by decide)]

def Begins (num_preprocessors frame_byte : Nat) (call : Call) (frames : Nat) :
    List Nat → Work → Work → Prop
  | [], _, _ => False
  | i :: rest, w₀, w =>
      let body :=
        framesPass num_preprocessors frame_byte call frames (blockPosition frame_byte frames i)
      (Heads body { w₀ with frames_wr := 0 } w ∧ w.frames_wr < frames) ∨
        ∃ w₁, Ends body { w₀ with frames_wr := 0 } w₁ ∧
          Begins num_preprocessors frame_byte call frames rest w₁ w

theorem ends_of_process_frames {frame_byte fuel : Nat} {w w' : Work}
    (h : process_frames num_preprocessors frame_byte call fuel frames position w = some w') :
    Ends (framesPass num_preprocessors frame_byte call frames position)
      { w with frames_wr := 0 } w' := by
  refine ⟨fuel, ?_⟩
  unfold process_frames at h
  split at h
  rename_i r heq
  rw [heq, h]

theorem Filled.processBlocks (hnum : 0 < num_preprocessors)
    (hchannels : w₀.stream.config.channels = channels) (hagain : Again call frames) {n i : Nat}
    (hint : frames * (i + n) < 2 ^ 31) (hsize : frames * (i + n) * (channels * 2) < 2 ^ 64)
    (ret : Int) (h : Filled num_preprocessors channels w₀ (frames * i * channels) w)
    (hwilling : ∀ w', Begins num_preprocessors (channels * 2) call frames (List.range' i n) w w' →
      Willing num_preprocessors call frames w') :
    ∃ fuel ret' w', processBlocks num_preprocessors (channels * 2) call fuel frames
        (List.range' i n) ret w = some (ret', w') ∧
      Filled num_preprocessors channels w₀ (frames * (i + n) * channels) w' ∧
      ret' = if n = 0 then ret else (frames : Int) := by
  induction n generalizing i ret w with
  | zero => exact ⟨0, ret, w, rfl, h, rfl⟩
  | succ n ih =>
      have hle : frames * i ≤ frames * (i + (n + 1)) :=
        Nat.mul_le_mul_left frames (Nat.le_add_right _ _)
      have hposition : blockPosition (channels * 2) frames i = frames * i * channels := by
        apply blockPosition_eq (lt_of_le_of_lt hle hint)
        exact lt_of_le_of_lt (Nat.mul_le_mul_right _ hle) hsize
      have hnext : frames * i * channels + frames * channels = frames * (i + 1) * channels := by
        ring
      have hsum : i + 1 + n = i + (n + 1) := by omega
      rw [List.range'_succ] at hwilling ⊢
      unfold Begins at hwilling
      rw [hposition] at hwilling
      obtain ⟨fuel, w', hblock, hw', hfull⟩ := h.process_frames hnum hchannels hagain
        fun w' hheads hless => hwilling w' (Or.inl ⟨hheads, hless⟩)
      rw [hnext] at hw'
      obtain ⟨fuel', ret', last, hrest, hlast, hret⟩ :=
        ih (i := i + 1) (by rwa [hsum]) (by rwa [hsum]) w'.frames_wr hw'
          fun last hlast => hwilling last (Or.inr ⟨w', ends_of_process_frames hblock, hlast⟩)
      rw [hsum] at hlast
      refine ⟨fuel + fuel', ret', last, ?_, hlast, ?_⟩
      · unfold ProcessedCapture.processBlocks
        rw [hposition, process_frames_add hblock fuel', Nat.add_comm fuel fuel']
        exact processBlocks_add hrest fuel
      · rw [hret, hfull, if_neg (Nat.succ_ne_zero n), ite_self]

theorem in_read_add {frame_byte fuel : Nat} {stream : StreamIn} {result : Read × StreamIn}
    (h : in_read num_preprocessors frame_byte call fuel stream = some result) (more : Nat) :
    in_read num_preprocessors frame_byte call (fuel + more) stream = some result := by
  have hstarted : ∀ {ret : Int} {w : Work},
      readStarted num_preprocessors frame_byte call fuel ret w = some result →
      readStarted num_preprocessors frame_byte call (fuel + more) ret w = some result := by
    intro ret w h
    unfold readStarted at h ⊢
    dsimp only at h ⊢
    split
    · rename_i hsome
      rw [if_pos hsome] at h
      split at h
      · cases h
      · rename_i hblocks
        rw [processBlocks_add hblocks more]
        exact h
    · rename_i hnone
      rwa [if_neg hnone] at h
  unfold in_read at h ⊢
  dsimp only at h ⊢
  split
  · rename_i hstandby
    rw [if_pos hstandby] at h
    split
    · rename_i hfails
      rwa [if_pos hfails] at h
    · rename_i hready
      rw [if_neg hready] at h
      exact hstarted h
  · rename_i hstandby
    rw [if_neg hstandby] at h
    exact hstarted h

end Blocks

/-! ## Calls -/

def current (call : Call) (stream : StreamIn) : PcmConfig :=
  if stream.standby then call.config else stream.config

/-- The request is a `size_t` and a whole number of frames, and a block is not empty. -/
def valid (frame_byte : Nat) (stream : StreamIn) : Event → Prop
  | .in_read call =>
      call.bytes < 2 ^ 64 ∧ call.bytes % frame_byte = 0 ∧ 100 ≤ (current call stream).rate
  | .in_standby => True

def begun (call : Call) (stream : StreamIn) : Work where
  stream :=
    { stream with
      standby := false
      config := current call stream }
  read := emptyRead call stream
  pass := 0
  frames_wr := 0

/-- A start succeeds, with the frames of the stream; the request is a whole number of blocks, and the
frames fit into an `int`; and the driver and the preprocessors do their part in every pass. -/
structure Fills (num_preprocessors frame_byte : Nat) (call : Call) (stream : StreamIn) : Prop where
  start : stream.standby = true →
    call.start_input_stream = 0 ∧ call.config.channels * 2 = frame_byte
  blocks : call.bytes / frame_byte % ((current call stream).rate / 100) = 0
  frames_lt : call.bytes / frame_byte < 2 ^ 31
  again : Again call ((current call stream).rate / 100)
  willing : ∀ w,
    Begins num_preprocessors frame_byte call ((current call stream).rate / 100)
      (List.range (call.bytes / frame_byte / ((current call stream).rate / 100)))
      (begun call stream) w →
    Willing num_preprocessors call ((current call stream).rate / 100) w

def ok (num_preprocessors frame_byte : Nat) (stream : StreamIn) : Event → Prop
  | .in_read call => Fills num_preprocessors frame_byte call stream
  | .in_standby => True

structure Inv (num_preprocessors frame_byte : Nat) (stream : StreamIn) : Prop where
  sound : Sound num_preprocessors stream
  buffered : Buffered num_preprocessors (frame_byte / 2) stream
  started : stream.standby = false → stream.config.channels * 2 = frame_byte

section Calls

variable {num_preprocessors channels frame_byte : Nat} {call : Call} {stream : StreamIn} {w₀ : Work}

theorem inv_initial (config : PcmConfig) :
    Inv num_preprocessors frame_byte (initial config) where
  sound := by simp [Sound, initial]
  buffered :=
    { cells := by simp [initial]
      captured := by simp [initial]
      same := fun _ _ => rfl
      fits := le_rfl
      len := by simp [initial] }
  started := by simp [initial]

/-- How a call that has filled the buffer leaves the stream. -/
structure Left (num_preprocessors channels : Nat) (stream stream' : StreamIn) (read : Read) :
    Prop where
  right : read.Right num_preprocessors
  buffered : Buffered num_preprocessors channels stream'
  config : stream'.config = stream.config
  reads : stream'.reads = stream.reads

theorem readStarted_left (hnum : 0 < num_preprocessors)
    (h : Filled num_preprocessors channels w₀ 0 w₀)
    (hchannels : w₀.stream.config.channels = channels) (hrate : 100 ≤ w₀.stream.config.rate)
    (hsamples : w₀.read.samples = call.bytes / 2) (hbytes : call.bytes < 2 ^ 64)
    (hwhole : call.bytes % (channels * 2) = 0)
    (hblocks : call.bytes / (channels * 2) % (w₀.stream.config.rate / 100) = 0)
    (hint : call.bytes / (channels * 2) < 2 ^ 31)
    (hagain : Again call (w₀.stream.config.rate / 100))
    (hwilling : ∀ w,
      Begins num_preprocessors (channels * 2) call (w₀.stream.config.rate / 100)
        (List.range (call.bytes / (channels * 2) / (w₀.stream.config.rate / 100))) w₀ w →
      Willing num_preprocessors call (w₀.stream.config.rate / 100) w)
    (ret : Int) :
    ∃ fuel read stream', readStarted num_preprocessors (channels * 2) call fuel ret w₀ =
        some (read, stream') ∧
      Left num_preprocessors channels w₀.stream stream' read := by
  generalize hframes : call.bytes / (channels * 2) = frames at *
  generalize hpro : w₀.stream.config.rate / 100 = pro_frames at *
  have hpos : 0 < pro_frames := by omega
  have hnum' : pro_frames * (0 + frames / pro_frames) = frames := by
    rw [Nat.zero_add]
    exact Nat.mul_div_cancel' (Nat.dvd_of_mod_eq_zero hblocks)
  have hall : frames * (channels * 2) = call.bytes := by
    rw [← hframes]
    exact Nat.div_mul_cancel (Nat.dvd_of_mod_eq_zero hwhole)
  obtain ⟨fuel, ret', w, hrun, hw, hret⟩ :=
    Filled.processBlocks (i := 0) (n := frames / pro_frames) hnum hchannels hagain
      (by rwa [hnum']) (by rwa [hnum', hall]) ret (by rwa [Nat.mul_zero, Nat.zero_mul])
      (by rwa [← List.range_eq_range'])
  rw [hnum'] at hw
  have hpro_num : ((frames / pro_frames : Nat) : Int).bmod (2 ^ 32) =
      (frames / pro_frames : Nat) := by
    have hlt : frames / pro_frames < 2 ^ 31 := (Nat.div_le_self frames pro_frames).trans_lt hint
    generalize frames / pro_frames = blocks at hlt
    apply Int.bmod_eq_of_le
    · omega
    · omega
  have hright : ∀ ret standby, Read.Right num_preprocessors
      { w.read with
        ret := ret
        standby := standby } := by
    intro ret standby
    refine ⟨hw.inside, Or.inr ⟨hw.offers, ?_⟩⟩
    intro j hj
    apply hw.written
    change j < w.read.samples at hj
    rw [hw.samples, hsamples, ← hall, ← Nat.mul_assoc, Nat.mul_div_cancel _ (by decide)] at hj
    exact hj
  refine ⟨fuel, (exit (if 0 < ret' then 0 else ret') w).1,
    (exit (if 0 < ret' then 0 else ret') w).2, ?_, ?_⟩
  · unfold readStarted
    dsimp only
    rw [hframes, hpro, hpro_num, Int.toNat_natCast, if_pos hnum.ne', List.range_eq_range', hrun]
  · generalize (if 0 < ret' then 0 else ret') = result
    have hfails : ∀ standby, Left num_preprocessors channels w₀.stream
        { w.stream with standby := standby }
        { w.read with
          ret := result
          standby := standby } := by
      intro standby
      refine ⟨hright result standby, ?_, hw.config, hw.reads⟩
      exact ⟨hw.buffered.cells, hw.buffered.captured, hw.buffered.same, hw.buffered.fits,
        hw.buffered.len⟩
    unfold exit
    dsimp only
    split
    · exact hfails true
    · exact hfails w.stream.standby

theorem Inv.in_read (h : Inv num_preprocessors frame_byte stream) (hnum : 0 < num_preprocessors)
    (hvalid : valid frame_byte stream (.in_read call))
    (hok : Fills num_preprocessors frame_byte call stream) :
    ∃ fuel read stream', in_read num_preprocessors frame_byte call fuel stream =
        some (read, stream') ∧
      read.Right num_preprocessors ∧ Buffered num_preprocessors (frame_byte / 2) stream' ∧
      stream'.config.channels * 2 = frame_byte ∧ stream'.reads = stream.reads := by
  obtain ⟨hbytes, hwhole, hrate⟩ := hvalid
  have hconfig : (current call stream).channels * 2 = frame_byte := by
    unfold current
    split
    · rename_i hstandby
      exact (hok.start hstandby).2
    · rename_i hstandby
      exact h.started (by simpa using hstandby)
  obtain ⟨channels, rfl⟩ : ∃ channels, frame_byte = channels * 2 := ⟨_, hconfig.symm⟩
  have hchannels : (current call stream).channels = channels := by omega
  have hhalf : channels * 2 / 2 = channels := Nat.mul_div_cancel _ (by decide)
  have hbuffered := h.buffered
  rw [hhalf] at hbuffered ⊢
  have hfilled : Filled num_preprocessors channels (begun call stream) 0 (begun call stream) := by
    refine ⟨?_, rfl, rfl, rfl, rfl, rfl, ?_, ?_, rfl⟩
    · exact ⟨hbuffered.cells, hbuffered.captured, hbuffered.same, hbuffered.fits, hbuffered.len⟩
    · intro o ho
      cases ho
    · intro j hj
      exact absurd hj (Nat.not_lt_zero j)
  have hrun : ∀ ret, ∃ fuel read' stream', readStarted num_preprocessors (channels * 2) call fuel
      ret (begun call stream) = some (read', stream') ∧
        Left num_preprocessors channels (begun call stream).stream stream' read' := fun ret =>
    readStarted_left hnum hfilled hchannels hrate rfl hbytes hwhole hok.blocks hok.frames_lt
      hok.again hok.willing ret
  cases hstandby : stream.standby with
  | true =>
      obtain ⟨fuel, read', stream', heq, hleft⟩ := hrun 0
      refine ⟨fuel, read', stream', ?_, hleft.right, hleft.buffered, ?_, hleft.reads⟩
      · have hcurrent : current call stream = call.config := if_pos hstandby
        unfold ProcessedCapture.in_read start_input_stream
        dsimp only
        rw [if_pos hstandby, (hok.start hstandby).1, if_neg (by decide), ← hcurrent]
        exact heq
      · rw [hleft.config]
        exact hconfig
  | false =>
      obtain ⟨fuel, read', stream', heq, hleft⟩ := hrun (-1)
      refine ⟨fuel, read', stream', ?_, hleft.right, hleft.buffered, ?_, hleft.reads⟩
      · have hbegun : begun call stream = ⟨stream, emptyRead call stream, 0, 0⟩ := by
          have hcurrent : current call stream = stream.config := if_neg (by simp [hstandby])
          unfold begun
          rw [hcurrent, ← hstandby]
        rw [hbegun] at heq
        unfold ProcessedCapture.in_read
        dsimp only
        rw [if_neg (by simp [hstandby])]
        exact heq
      · rw [hleft.config]
        exact hconfig

theorem Inv.takes (h : Inv num_preprocessors frame_byte stream) (hnum : 0 < num_preprocessors)
    {e : Event} (hvalid : valid frame_byte stream e)
    (hok : ok num_preprocessors frame_byte stream e) :
    (∃ stream', Takes num_preprocessors frame_byte stream e stream') ∧
      ∀ stream', Takes num_preprocessors frame_byte stream e stream' →
        Inv num_preprocessors frame_byte stream' := by
  cases e with
  | in_standby =>
      refine ⟨⟨_, 0, rfl⟩, ?_⟩
      rintro stream' ⟨fuel, hstep⟩
      cases hstep
      refine ⟨h.sound, ?_, nofun⟩
      exact ⟨h.buffered.cells, h.buffered.captured, h.buffered.same, h.buffered.fits,
        h.buffered.len⟩
  | in_read call =>
      obtain ⟨fuel, read, after, heq, hright, hbuffered, hconfig, hreads⟩ :=
        h.in_read hnum hvalid hok
      constructor
      · refine ⟨{ after with reads := read :: after.reads }, fuel, ?_⟩
        unfold step
        dsimp only
        rw [heq]
      · rintro stream' ⟨fuel', hstep⟩
        unfold step at hstep
        dsimp only at hstep
        split at hstep
        · cases hstep
        · rename_i read' after' heq'
          have hsame := in_read_add heq fuel'
          rw [Nat.add_comm, in_read_add heq' fuel] at hsame
          cases hsame
          cases hstep
          refine ⟨?_, ?_, fun _ => hconfig⟩
          · intro r hr
            rcases List.mem_cons.mp hr with rfl | hbefore
            · exact hright
            · rw [hreads] at hbefore
              exact h.sound r hbefore
          · exact ⟨hbuffered.cells, hbuffered.captured, hbuffered.same, hbuffered.fits,
              hbuffered.len⟩

/-- In a run whose events meet the condition, every call returns, having filled its buffer. -/
theorem in_read_sound (hnum : 0 < num_preprocessors) (config : PcmConfig) {events : List Event}
    (hvalid : GuardedBy (Takes num_preprocessors frame_byte) (valid frame_byte) (initial config)
      events)
    (hok : GuardedBy (Takes num_preprocessors frame_byte) (ok num_preprocessors frame_byte)
      (initial config) events) :
    ∀ past, past <+: events →
      (∃ stream, Leads (Takes num_preprocessors frame_byte) (initial config) past stream) ∧
        ∀ stream, Leads (Takes num_preprocessors frame_byte) (initial config) past stream →
          Sound num_preprocessors stream := by
  intro past hpast
  have hboth : GuardedBy (Takes num_preprocessors frame_byte)
      (fun stream e => valid frame_byte stream e ∧ ok num_preprocessors frame_byte stream e)
      (initial config) past := by
    intro past' e rest stream heq hleads
    exact ⟨hvalid.of_prefix hpast past' e rest stream heq hleads,
      hok.of_prefix hpast past' e rest stream heq hleads⟩
  obtain ⟨hreached, hinv⟩ := hboth.invariant (Inv num_preprocessors frame_byte)
    (inv_initial config) fun stream e h hcondition => h.takes hnum hcondition.1 hcondition.2
  exact ⟨hreached, fun stream hleads => (hinv stream hleads).sound⟩

end Calls

/-- Two blocks of 160 frames, a standby, and two more.  The first of two preprocessors leaves the
second half of what it is offered, also from one call to the next. -/
theorem in_read_sound_blocks :
    let call : Call :=
      { bytes := 640
        start_input_stream := 0
        config := ⟨16000, 1⟩
        realloc := fun _ => true
        pcm_read := fun _ => 0
        process := fun _ i offered asked =>
          ⟨if i = 0 then offered - offered / 2 else offered, asked, by split <;> omega, le_rfl⟩ }
    ∃ stream, Leads (Takes 2 2) (initial ⟨48000, 2⟩)
        [.in_read call, .in_standby, .in_read call] stream ∧ Sound 2 stream := by
  intro call
  have hevents : [Event.in_read call, .in_standby, .in_read call] =
      [] ++ [.in_read call] ++ [.in_standby] ++ [.in_read call] := rfl
  -- both calls find the stream in standby, and start it anew
  have hstandby : ∀ {past stream},
      Leads (Takes 2 2) (initial ⟨48000, 2⟩) (past ++ [.in_standby]) stream →
        stream.standby = true := by
    intro past stream hleads
    obtain ⟨before, -, fuel, hstep⟩ := leads_concat.mp hleads
    cases hstep
    rfl
  have hcurrent : ∀ {stream : StreamIn}, stream.standby = true → current call stream = ⟨16000, 1⟩ :=
    fun h => if_pos h
  have hvalid_read : ∀ {stream : StreamIn}, stream.standby = true →
      valid 2 stream (.in_read call) := by
    intro stream h
    refine ⟨by decide, by decide, ?_⟩
    rw [hcurrent h]
    decide
  have hok_read : ∀ {stream : StreamIn}, stream.standby = true → ok 2 2 stream (.in_read call) := by
    intro stream h
    refine ⟨fun _ => ⟨rfl, rfl⟩, by rw [hcurrent h]; decide, by decide, ?_, ?_⟩
    · intro k
      exact ⟨k, le_rfl, fun offered asked _ hasked => hasked⟩
    · intro w _
      refine ⟨fun _ => rfl, fun _ => rfl, ⟨rfl, id, trivial⟩, ?_⟩
      show _ ≤ 2 * (_ - _ / 2)
      omega
  have hvalid : GuardedBy (Takes 2 2) (valid 2) (initial ⟨48000, 2⟩)
      [.in_read call, .in_standby, .in_read call] := by
    rw [hevents, guardedBy_concat, guardedBy_concat, guardedBy_concat]
    refine ⟨⟨⟨guardedBy_nil, ?_⟩, fun _ _ => trivial⟩, fun _ hleads => hvalid_read (hstandby hleads)⟩
    intro stream hleads
    rw [leads_nil.mp hleads]
    exact hvalid_read rfl
  have hok : GuardedBy (Takes 2 2) (ok 2 2) (initial ⟨48000, 2⟩)
      [.in_read call, .in_standby, .in_read call] := by
    rw [hevents, guardedBy_concat, guardedBy_concat, guardedBy_concat]
    refine ⟨⟨⟨guardedBy_nil, ?_⟩, fun _ _ => trivial⟩, fun _ hleads => hok_read (hstandby hleads)⟩
    intro stream hleads
    rw [leads_nil.mp hleads]
    exact hok_read rfl
  obtain ⟨⟨stream, hleads⟩, hsound⟩ :=
    in_read_sound (by decide) ⟨48000, 2⟩ hvalid hok _ List.prefix_rfl
  exact ⟨stream, hleads, hsound stream hleads⟩

/-- 960 frames at 44100 Hz are two blocks of 441 and 78 frames more, which nothing writes. -/
theorem in_read_remainder :
    let call : Call :=
      { bytes := 1920
        start_input_stream := 0
        config := ⟨44100, 1⟩
        realloc := fun _ => true
        pcm_read := fun _ => 0
        process := fun _ _ offered asked => ⟨offered, asked, le_rfl, le_rfl⟩ }
    valid 2 (initial ⟨48000, 2⟩) (.in_read call) ∧
      ∃ stream, Takes 1 2 (initial ⟨48000, 2⟩) (.in_read call) stream ∧ ¬ Sound 1 stream := by
  intro call
  have hrun : (in_read 1 2 call 2 (initial ⟨48000, 2⟩)).any (fun result =>
      decide (result.1.ret = 0 ∧ 882 < result.1.samples ∧ result.1.buffer 882 = none)) = true := by
    decide +kernel
  cases hread : in_read 1 2 call 2 (initial ⟨48000, 2⟩) with
  | none =>
      rw [hread] at hrun
      cases hrun
  | some result =>
      rw [hread] at hrun
      obtain ⟨hret, hroom, hnone⟩ := of_decide_eq_true hrun
      refine ⟨⟨by decide, by decide, by decide⟩,
        { result.2 with reads := result.1 :: result.2.reads }, ⟨2, ?_⟩, ?_⟩
      · unfold step
        dsimp only
        rw [hread]
      · intro hsound
        have hright : result.1.Right 1 := hsound _ List.mem_cons_self
        rcases hright.fails_or_filled with ⟨hfails, -⟩ | ⟨-, hfilled⟩
        · exact hfails hret
        · rw [hfilled 882 hroom] at hnone
          cases hnone

end AwHal.Audio.ProcessedCapture
