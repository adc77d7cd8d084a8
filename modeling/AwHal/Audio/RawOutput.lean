import AwHal.Lib.ByteMemory
import AwHal.Lib.GuardedRun
import AwHal.Lib.Handles

/-!
# The raw output of the T507

`out_write` of `audio_hw_rawdata.c` takes the stream out of standby when a buffer has the preamble of
IEC 61937: it opens a pcm for the data and, for HDMI, another one before it.  `out_standby` closes
both, and so does a write that fails.
-/

namespace AwHal.Audio.RawOutput

open AwHal.Lib

def ENOMEM : Int := 12

def PROP_RAWDATA_MODE_HDMI_RAW : String := "HDMI_RAW"

def PROP_RAWDATA_MODE_SPDIF_RAW : String := "SPDIF_RAW"

inductive AudioFormat where
  | AUDIO_FORMAT_PCM_24_BIT_PACKED
  | AUDIO_FORMAT_E_AC3
  | other
deriving DecidableEq, Repr

/-- What `adev_open` and `adev_open_output_stream` have set for good. -/
structure Config where
  card_spdif : Int
  card_ahub : Int
  channels : Nat

structure RawStream where
  standby : Bool
  ext_pcm : Option Nat
  ext_sub_pcm : Option Nat
  format : AudioFormat
  raw_flag : Bool
  raw_enable : Bool
  /-- `PROP_RAWDATA_OUTPUT` is `PROP_RAWDATA_OUTPUT_ON`. -/
  rawdata_output : Bool
  active_output : Bool
  pcms : Handles
  /-- How often `lock` has been locked, and unlocked. -/
  locks : Nat
  unlocks : Nat
  /-- The pcms that the last call has opened, if its start failed. -/
  startFailed : Option (List Nat)
  /-- A call that does not come to an end. -/
  hangs : Bool

structure Write where
  /-- `adev->mode == AUDIO_MODE_IN_CALL` -/
  in_call : Bool
  buffer : Memory
  bytes : Nat
  /-- The value of `PROP_RAWDATA_KEY` at the start, and at the write. -/
  start_mode : String
  write_mode : String
  /-- `pcm_is_ready` for the two pcms. -/
  sub_ready : Bool
  ready : Bool
  /-- `malloc` returns a buffer. -/
  malloc : Bool
  pcm_write : Int

/-! ## The preamble -/

/-- `buf[i + k]` for an `unsigned int i`. -/
def byteAt (buf : Memory) (i k : Nat) : UInt8 := buf ((i + k) % 2 ^ 32)

def preambleAt (buf : Memory) (i : Nat) : Bool :=
  buf i == 0x72 && byteAt buf i 1 == 0xF8 && byteAt buf i 2 == 0x1F && byteAt buf i 3 == 0x4E

def findPreamble (buf : Memory) : Nat → Nat → Option Nat
  | 0, _ => none
  | count + 1, i => if preambleAt buf i then some i else findPreamble buf count (i + 1)

inductive Detection where
  | nothing
  | header (type : UInt8)
  /-- The index wraps around without coming to the end. -/
  | endless
deriving DecidableEq, Repr

/-- The index is an `unsigned int`, whatever `bytes` is.  A `char` is unsigned on this processor. -/
def detectIEC61937 (buf : Memory) (bytes : Nat) : Detection :=
  if bytes < 6 then .nothing
  else
    match findPreamble buf (min (bytes - 3) (2 ^ 32)) 0 with
    | some i => .header (byteAt buf i 4)
    | none => if bytes - 3 < 2 ^ 32 then .nothing else .endless

def IEC61937_EAC3 : UInt8 := 0x15

/-! ## The stream -/

section Stream

variable (config : Config) (out : RawStream)

def RawStream.lock : RawStream := { out with locks := out.locks + 1 }

def RawStream.unlock : RawStream := { out with unlocks := out.unlocks + 1 }

def openPcm (w : Write) (opened : List Nat) : Int × RawStream :=
  let pcm := out.pcms.next
  if w.ready then
    (0,
      { out with
        ext_pcm := some pcm
        pcms := out.pcms.give })
  else
    (-ENOMEM,
      { out with
        ext_pcm := none
        active_output := false
        pcms := out.pcms.give.close pcm
        startFailed := some (opened ++ [pcm]) })

def start_output_stream (w : Write) : Int × RawStream :=
  if w.in_call then (0, out)
  else
    let out :=
      { out with
        rawdata_output := true
        raw_enable := true }
    let hdmi := w.start_mode == PROP_RAWDATA_MODE_HDMI_RAW
    let card := if hdmi then config.card_ahub else config.card_spdif
    if card < 0 then (-ENOMEM, { out with startFailed := some [] })
    else if hdmi then
      let sub := out.pcms.next
      if w.sub_ready then
        -- pcm_start
        let out :=
          { out with
            ext_sub_pcm := some sub
            pcms := out.pcms.give.use (some sub) }
        openPcm out w [sub]
      else
        (-ENOMEM,
          { out with
            ext_sub_pcm := none
            active_output := false
            pcms := out.pcms.give.close sub
            startFailed := some [sub] })
    else openPcm out w []

def closePcm (pcms : Handles) : Option Nat → Handles
  | some pcm => pcms.close pcm
  | none => pcms

def do_output_standby : RawStream :=
  if out.standby then out
  else
    { out with
      rawdata_output := if out.raw_enable then false else out.rawdata_output
      raw_enable := false
      ext_pcm := none
      ext_sub_pcm := none
      pcms := closePcm (closePcm out.pcms out.ext_pcm) out.ext_sub_pcm
      standby := true }

def out_standby : RawStream := (do_output_standby out.lock).unlock

/-- The data for `pcm_write`: samples of 24 bits are copied first, and without memory for that the
write ends. -/
def writeData (w : Write) (out : RawStream) : Option (Int × RawStream) :=
  if out.format = .AUDIO_FORMAT_PCM_24_BIT_PACKED ∧ w.malloc = false then none
  else some (w.pcm_write, { out with pcms := out.pcms.use out.ext_pcm })

def writeLocked (w : Write) : Nat × RawStream :=
  let out := out.lock
  -- pcm_set_avail_min
  let out := { out with pcms := out.pcms.use out.ext_pcm }
  let written :=
    if w.write_mode = PROP_RAWDATA_MODE_HDMI_RAW then writeData w out
    else if w.write_mode = PROP_RAWDATA_MODE_SPDIF_RAW ∧ config.channels = 2 then writeData w out
    else some (0, out)
  match written with
  | none => (0, out.unlock)
  | some (ret, out) =>
      let out := if ret ≠ 0 then do_output_standby out else out
      (w.bytes, out.unlock)

def out_write (w : Write) : Nat × RawStream :=
  if w.in_call then (w.bytes, out)
  else if out.standby then
    match detectIEC61937 w.buffer w.bytes with
    | .endless => (0, { out with hangs := true })
    | .nothing => writeLocked config out w
    | .header type =>
        let out :=
          { out with
            format := if type = IEC61937_EAC3 then .AUDIO_FORMAT_E_AC3 else out.format
            raw_flag := true }
        let (ret, out) := start_output_stream config out w
        -- goto exit
        if ret ≠ 0 then (w.bytes, out.unlock)
        else writeLocked config { out with standby := false } w
  else writeLocked config out w

end Stream

inductive Event where
  | out_write (w : Write)
  | out_standby

def step (config : Config) (out : RawStream) (e : Event) : RawStream :=
  if out.hangs then out
  else
    let out := { out with startFailed := none }
    match e with
    | .out_write w => (out_write config out w).2
    | .out_standby => out_standby out

/-- The stream that `adev_open_output_stream` makes; the property is as it has been left before. -/
def initial (format : AudioFormat) (rawdata_output : Bool) : RawStream where
  standby := true
  ext_pcm := none
  ext_sub_pcm := none
  format := format
  raw_flag := false
  raw_enable := false
  rawdata_output := rawdata_output
  active_output := true
  pcms := Handles.empty
  locks := 0
  unlocks := 0
  startFailed := none
  hangs := false

/-! ## What the stream is to keep, and when it does -/

structure Sound (out : RawStream) : Prop where
  started : out.standby = false → ∃ pcm, out.ext_pcm = some pcm ∧ out.pcms.IsOpen pcm
  /-- Every call on a pcm had an open handle. -/
  used_open : out.pcms.misused = false
  balanced : out.unlocks = out.locks
  failed : ∀ opened, out.startFailed = some opened →
    (∀ pcm ∈ opened, ¬ out.pcms.IsOpen pcm) ∧ out.raw_enable = false ∧ out.rawdata_output = false

def Startable (config : Config) (w : Write) : Prop :=
  if w.start_mode = PROP_RAWDATA_MODE_HDMI_RAW then
    0 ≤ config.card_ahub ∧ w.sub_ready = true ∧ w.ready = true
  else 0 ≤ config.card_spdif ∧ w.ready = true

/-- A write in standby has a preamble and can be started; or it never ends. -/
def ok (config : Config) (out : RawStream) : Event → Prop
  | .out_write w =>
      out.hangs = false → w.in_call = false → out.standby = true →
        match detectIEC61937 w.buffer w.bytes with
        | .endless => True
        | .nothing => False
        | .header _ => Startable config w
  | .out_standby => True

inductive PcmId where
  | pcm
  | sub
deriving DecidableEq, Repr

def held (out : RawStream) : PcmId → Option Nat
  | .pcm => out.ext_pcm
  | .sub => out.ext_sub_pcm

structure Inv (out : RawStream) : Prop where
  ledger : Handles.Ledger out.pcms (held out)
  standby : out.standby = true → out.ext_pcm = none ∧ out.ext_sub_pcm = none
  started : out.standby = false → out.ext_pcm.isSome
  balanced : out.unlocks = out.locks
  failed : out.startFailed = none

variable {config : Config} {out : RawStream} {w : Write}

theorem Inv.sound (h : Inv out) : Sound out where
  started := by
    intro hout
    obtain ⟨pcm, hpcm⟩ := Option.isSome_iff_exists.mp (h.started hout)
    exact ⟨pcm, hpcm, (h.ledger.isOpen_iff pcm).mpr ⟨.pcm, hpcm⟩⟩
  used_open := h.ledger.good
  balanced := h.balanced
  failed := by
    intro opened hopened
    rw [h.failed] at hopened
    cases hopened

theorem inv_initial (format : AudioFormat) (rawdata_output : Bool) :
    Inv (initial format rawdata_output) where
  ledger := by
    have hheld : held (initial format rawdata_output) = fun _ => none := by
      funext id
      cases id <;> rfl
    rw [hheld]
    exact Handles.Ledger.empty
  standby := fun _ => ⟨rfl, rfl⟩
  started := by simp [initial]
  balanced := rfl
  failed := rfl

theorem Inv.congr {out' : RawStream} (h : Inv out) (hpcms : out'.pcms = out.pcms)
    (hpcm : out'.ext_pcm = out.ext_pcm) (hsub : out'.ext_sub_pcm = out.ext_sub_pcm)
    (hstandby : out'.standby = out.standby) (hbalanced : out'.unlocks = out'.locks)
    (hfailed : out'.startFailed = none) : Inv out' where
  ledger := by
    have hheld : held out' = held out := by
      funext id
      cases id with
      | pcm => exact hpcm
      | sub => exact hsub
    rw [hpcms, hheld]
    exact h.ledger
  standby := by
    rw [hstandby, hpcm, hsub]
    exact h.standby
  started := by
    rw [hstandby, hpcm]
    exact h.started
  balanced := hbalanced
  failed := hfailed

/-! ## Standby -/

theorem ledger_closePcm {pcms : Handles} {holder : PcmId → Option Nat} (id : PcmId)
    (pcm : Option Nat) (h : Handles.Ledger pcms holder) (hid : holder id = pcm) :
    Handles.Ledger (closePcm pcms pcm) (Function.update holder id none) := by
  cases pcm with
  | some k => exact h.close hid
  | none =>
      rw [Function.update_eq_self_iff.mpr hid.symm]
      exact h

theorem Inv.do_output_standby (h : Inv out) : Inv (do_output_standby out) := by
  unfold RawOutput.do_output_standby
  split
  · exact h
  · refine ⟨?_, fun _ => ⟨rfl, rfl⟩, nofun, h.balanced, h.failed⟩
    have hpcm := ledger_closePcm .pcm out.ext_pcm h.ledger rfl
    have hsub := ledger_closePcm .sub out.ext_sub_pcm hpcm
      (Function.update_of_ne (by decide) _ _)
    have hheld : Function.update (Function.update (held out) .pcm none) .sub none =
        fun _ => none := by
      funext id
      cases id <;> rfl
    rw [hheld] at hsub
    refine cast (congrArg (Handles.Ledger _) ?_) hsub
    funext id
    cases id <;> rfl

/-- A standby between a lock and its unlock. -/
theorem do_output_standby_lock : do_output_standby out.lock = (do_output_standby out).lock := by
  unfold do_output_standby
  cases hstandby : out.standby <;> simp [RawStream.lock, hstandby]

theorem Inv.lock_unlock (h : Inv out) : Inv out.lock.unlock :=
  h.congr rfl rfl rfl rfl (congrArg (· + 1) h.balanced) h.failed

theorem Inv.out_standby (h : Inv out) : Inv (out_standby out) := by
  unfold RawOutput.out_standby
  rw [do_output_standby_lock]
  exact h.do_output_standby.lock_unlock

/-! ## Writes -/

theorem use_ext_pcm {pcm : Nat} (hpcm : out.ext_pcm = some pcm) (hopen : out.pcms.IsOpen pcm) :
    out.pcms.use out.ext_pcm = out.pcms := by
  rw [hpcm, Handles.use_eq_self hopen]

theorem writeData_eq (w : Write) {pcm : Nat} (hpcm : out.ext_pcm = some pcm)
    (hopen : out.pcms.IsOpen pcm) :
    writeData w out = none ∨ writeData w out = some (w.pcm_write, out) := by
  unfold writeData
  split
  · exact Or.inl rfl
  · rw [use_ext_pcm hpcm hopen]
    exact Or.inr rfl

/-- With an open pcm a write leaves the stream as it is, or in standby. -/
theorem writeLocked_eq (config : Config) (w : Write) {pcm : Nat} (hpcm : out.ext_pcm = some pcm)
    (hopen : out.pcms.IsOpen pcm) :
    (writeLocked config out w).2 = out.lock.unlock ∨
      (writeLocked config out w).2 = (do_output_standby out).lock.unlock := by
  have huse : { out.lock with pcms := out.lock.pcms.use out.lock.ext_pcm } = out.lock := by
    show { out.lock with pcms := out.pcms.use out.ext_pcm } = out.lock
    rw [use_ext_pcm hpcm hopen]
    rfl
  have hdone : ∀ ret : Int,
      (if ret ≠ 0 then do_output_standby out.lock else out.lock).unlock = out.lock.unlock ∨
        (if ret ≠ 0 then do_output_standby out.lock else out.lock).unlock =
          (do_output_standby out).lock.unlock := by
    intro ret
    rw [do_output_standby_lock]
    split
    · exact Or.inr rfl
    · exact Or.inl rfl
  have hdata : writeData w out.lock = none ∨ writeData w out.lock = some (w.pcm_write, out.lock) :=
    writeData_eq w hpcm hopen
  simp only [writeLocked, huse]
  split_ifs
  · rcases hdata with hnone | hsome
    · rw [hnone]
      exact Or.inl rfl
    · rw [hsome]
      exact hdone w.pcm_write
  · rcases hdata with hnone | hsome
    · rw [hnone]
      exact Or.inl rfl
    · rw [hsome]
      exact hdone w.pcm_write
  · exact hdone 0

theorem Inv.writeLocked (h : Inv out) (hout : out.standby = false) :
    Inv (writeLocked config out w).2 := by
  obtain ⟨pcm, hpcm, hopen⟩ := h.sound.started hout
  rcases writeLocked_eq config w hpcm hopen with heq | heq
  · rw [heq]
    exact h.lock_unlock
  · rw [heq]
    exact h.do_output_standby.lock_unlock

/-! ## Starts -/

theorem openPcm_ready (hledger : Handles.Ledger out.pcms (held out)) (hpcm : out.ext_pcm = none)
    (hbalanced : out.unlocks = out.locks) (hfailed : out.startFailed = none)
    (hready : w.ready = true) (opened : List Nat) :
    ∃ out', openPcm out w opened = (0, out') ∧ Inv { out' with standby := false } := by
  unfold openPcm
  rw [if_pos hready]
  refine ⟨_, rfl, ?_, nofun, fun _ => rfl, hbalanced, hfailed⟩
  have hgive := hledger.give (show held out .pcm = none from hpcm)
  refine cast (congrArg (Handles.Ledger _) ?_) hgive
  funext id
  cases id <;> rfl

theorem openPcm_fails (hready : w.ready = false) (opened : List Nat) :
    ∃ out', openPcm out w opened = (-ENOMEM, out') ∧ out'.locks = out.locks ∧
      out'.unlocks = out.unlocks := by
  unfold openPcm
  rw [if_neg (by simp [hready])]
  exact ⟨_, rfl, rfl, rfl⟩

theorem ledger_sub (hledger : Handles.Ledger out.pcms (held out)) (hsub : out.ext_sub_pcm = none)
    {out' : RawStream} (hpcm' : out'.ext_pcm = out.ext_pcm)
    (hsub' : out'.ext_sub_pcm = some out.pcms.next) :
    Handles.Ledger (out.pcms.give.use (some out.pcms.next)) (held out') := by
  have hgive := hledger.give (show held out .sub = none from hsub)
  have hopen : out.pcms.give.IsOpen out.pcms.next :=
    (hgive.isOpen_iff _).mpr ⟨.sub, Function.update_self _ _ _⟩
  rw [Handles.use_eq_self hopen]
  refine cast (congrArg (Handles.Ledger _) ?_) hgive
  funext id
  cases id with
  | pcm => exact hpcm'.symm
  | sub => exact hsub'.symm

theorem Inv.start (h : Inv out) (hout : out.standby = true) (hcall : w.in_call = false)
    (hok : Startable config w) :
    ∃ out', start_output_stream config out w = (0, out') ∧ Inv { out' with standby := false } := by
  obtain ⟨hpcm, hsub⟩ := h.standby hout
  unfold start_output_stream Startable at *
  simp only [hcall, Bool.false_eq_true, if_false, beq_iff_eq]
  split_ifs at hok ⊢
  · omega
  · apply openPcm_ready
    · exact ledger_sub h.ledger hsub rfl rfl
    · exact hpcm
    · exact h.balanced
    · exact h.failed
    · exact hok.2.2
  · simp_all
  · omega
  · apply openPcm_ready
    · exact h.ledger
    · exact hpcm
    · exact h.balanced
    · exact h.failed
    · exact hok.2

theorem start_fails (out : RawStream) (hcall : w.in_call = false) (hok : ¬ Startable config w) :
    ∃ out', start_output_stream config out w = (-ENOMEM, out') ∧ out'.locks = out.locks ∧
      out'.unlocks = out.unlocks := by
  unfold start_output_stream Startable at *
  simp only [hcall, Bool.false_eq_true, if_false, beq_iff_eq]
  split_ifs at hok ⊢
  · exact ⟨_, rfl, rfl, rfl⟩
  · rename_i hsub
    have hready : w.ready = false := by
      rw [Bool.eq_false_iff]
      exact fun hready => hok ⟨by omega, hsub, hready⟩
    exact openPcm_fails hready _
  · exact ⟨_, rfl, rfl, rfl⟩
  · exact ⟨_, rfl, rfl, rfl⟩
  · have hready : w.ready = false := by
      rw [Bool.eq_false_iff]
      exact fun hready => hok ⟨by omega, hready⟩
    exact openPcm_fails hready _

/-! ## Steps -/

theorem misused_do_output_standby (h : out.pcms.misused = true) :
    (do_output_standby out).pcms.misused = true := by
  have hclose : ∀ (pcms : Handles) pcm, pcms.misused = true →
      (closePcm pcms pcm).misused = true := by
    intro pcms pcm hmisused
    cases pcm with
    | none => exact hmisused
    | some k => exact Handles.misused_close hmisused k
  unfold do_output_standby
  split
  · exact h
  · exact hclose _ _ (hclose _ _ h)

theorem misused_writeLocked (h : (out.pcms.use out.ext_pcm).misused = true) :
    (writeLocked config out w).2.pcms.misused = true := by
  have hdata : ∀ {out' : RawStream} {ret : Int} {out'' : RawStream},
      out'.pcms.misused = true → writeData w out' = some (ret, out'') →
      out''.pcms.misused = true := by
    intro out' ret out'' hmisused hdata
    unfold writeData at hdata
    split at hdata
    · cases hdata
    · obtain ⟨-, rfl⟩ := Prod.mk.inj (Option.some.inj hdata)
      exact Handles.misused_use hmisused _
  have hdone : ∀ (ret : Int) {out' : RawStream}, out'.pcms.misused = true →
      (if ret ≠ 0 then do_output_standby out' else out').unlock.pcms.misused = true := by
    intro ret out' hmisused
    split
    · exact misused_do_output_standby hmisused
    · exact hmisused
  have hlocked : ({ out.lock with pcms := out.lock.pcms.use out.lock.ext_pcm } :
      RawStream).pcms.misused = true := h
  simp only [writeLocked]
  split
  · exact h
  · rename_i ret out' hwritten
    apply hdone
    split_ifs at hwritten
    · exact hdata hlocked hwritten
    · exact hdata hlocked hwritten
    · obtain ⟨-, rfl⟩ := Prod.mk.inj (Option.some.inj hwritten)
      exact hlocked

theorem Inv.out_write (h : Inv out) (hangs : out.hangs = false)
    (hok : ok config out (.out_write w)) : Inv (out_write config out w).2 := by
  unfold RawOutput.out_write
  split
  · exact h
  · rename_i hcall
    rw [Bool.not_eq_true] at hcall
    split
    · rename_i hout
      have hdetect := hok hangs hcall hout
      split <;> rename_i heq <;> rw [heq] at hdetect
      · exact h.congr rfl rfl rfl rfl h.balanced h.failed
      · exact hdetect.elim
      · rename_i type
        have hheader : Inv { out with
            format := if type = IEC61937_EAC3 then .AUDIO_FORMAT_E_AC3 else out.format
            raw_flag := true } := h.congr rfl rfl rfl rfl h.balanced h.failed
        obtain ⟨out', hstart, hinv⟩ := hheader.start hout hcall hdetect
        simp only [hstart]
        exact hinv.writeLocked rfl
    · rename_i hout
      exact h.writeLocked (by simpa using hout)

theorem Inv.step (h : Inv out) {e : Event} (hok : ok config out e) : Inv (step config out e) := by
  unfold RawOutput.step
  split
  · exact h
  · rename_i hangs
    have hreset : Inv { out with startFailed := none } := h.congr rfl rfl rfl rfl h.balanced rfl
    cases e with
    | out_write w => exact hreset.out_write (by simpa using hangs) hok
    | out_standby => exact hreset.out_standby

theorem step_out_write (hangs : out.hangs = false) :
    step config out (.out_write w) = (out_write config { out with startFailed := none } w).2 := by
  unfold step
  rw [if_neg (by simp [hangs])]

theorem out_write_nothing (config : Config) (out : RawStream) (hcall : w.in_call = false)
    (hout : out.standby = true) (hdetect : detectIEC61937 w.buffer w.bytes = .nothing) :
    out_write config out w = writeLocked config out w := by
  unfold out_write
  rw [if_neg (by simp [hcall]), if_pos hout, hdetect]

def atHeader (out : RawStream) (type : UInt8) : RawStream :=
  { out with
    format := if type = IEC61937_EAC3 then .AUDIO_FORMAT_E_AC3 else out.format
    raw_flag := true }

theorem out_write_start_error (out : RawStream) {type : UInt8} {out' : RawStream}
    (hcall : w.in_call = false) (hout : out.standby = true)
    (hdetect : detectIEC61937 w.buffer w.bytes = .header type)
    (hstart : start_output_stream config (atHeader out type) w = (-ENOMEM, out')) :
    out_write config out w = (w.bytes, out'.unlock) := by
  unfold atHeader at hstart
  unfold out_write
  rw [if_neg (by simp [hcall]), if_pos hout, hdetect]
  dsimp only
  rw [hstart]
  exact if_pos (show -ENOMEM ≠ 0 by decide)

/-- A write without a preamble uses a pcm that is not there, and a start that fails unlocks what it
has not locked. -/
theorem Inv.ok_of_sound (h : Inv out) {e : Event} (hsound : Sound (RawOutput.step config out e)) :
    ok config out e := by
  cases e with
  | out_standby => trivial
  | out_write w =>
      intro hangs hcall hout
      rw [step_out_write hangs] at hsound
      split <;> rename_i hdetect
      · trivial
      · rw [out_write_nothing config { out with startFailed := none } hcall hout hdetect] at hsound
        have hmisused : (RawOutput.writeLocked config { out with startFailed := none }
            w).2.pcms.misused = true := by
          apply misused_writeLocked
          show (out.pcms.use out.ext_pcm).misused = true
          rw [(h.standby hout).1]
          simp [Handles.use]
        rw [hsound.used_open] at hmisused
        cases hmisused
      · rename_i type
        by_contra hstart
        obtain ⟨out', hfails, hlocks, hunlocks⟩ :=
          start_fails (atHeader { out with startFailed := none } type) hcall hstart
        rw [out_write_start_error { out with startFailed := none } hcall hout hdetect
          hfails] at hsound
        have hbalanced : out'.unlocks + 1 = out'.locks := hsound.balanced
        rw [hlocks, hunlocks] at hbalanced
        have hbefore : out.unlocks + 1 = out.locks := hbalanced
        rw [h.balanced] at hbefore
        omega

/-- The runs that keep the stream sound throughout are those in which every write finds the stream
started, or has a preamble and can start it. -/
theorem out_write_sound_iff (config : Config) (format : AudioFormat) (rawdata_output : Bool)
    (events : List Event) :
    (∀ past, past <+: events →
      Sound (past.foldl (step config) (initial format rawdata_output))) ↔
      Guarded (step config) (fun _ => ok config) (initial format rawdata_output) events := by
  apply forall_prefix_iff_guarded_of_invariant fun _ => Inv
  · exact inv_initial format rawdata_output
  · exact fun _ _ h => h.sound
  · exact fun _ _ _ h hok => h.step hok
  · exact fun _ _ _ h hsound => h.ok_of_sound hsound

/-- The SPDIF pcm cannot be opened: the lock is unlocked once and was never locked. -/
theorem out_write_start_fails :
    let config : Config := ⟨1, 2, 2⟩
    let w : Write :=
      { in_call := false
        buffer := Memory.zero.store 0 [0x72, 0xF8, 0x1F, 0x4E, 1, 0]
        bytes := 6
        start_mode := PROP_RAWDATA_MODE_SPDIF_RAW
        write_mode := PROP_RAWDATA_MODE_SPDIF_RAW
        sub_ready := true
        ready := false
        malloc := true
        pcm_write := 0 }
    ¬ Sound (step config (initial .other false) (.out_write w)) := by
  intro config w hsound
  exact absurd hsound.balanced (by decide +kernel)

end AwHal.Audio.RawOutput
