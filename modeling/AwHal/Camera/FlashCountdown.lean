import AwHal.Lib.GuardedRun
import Mathlib.Logic.Function.Iterate

/-!
# The flash of a still capture

`V4L2Camera::ProbeFlashMode`: it is called for each output buffer of a request and answers with a mode
for the flash, or with none.  After a capture has fired the flash, `MarkFrameNum` holds its frame and
`FlashStatusFlag` keeps the next captures from firing until the countdown is over.
-/

namespace AwHal.Camera.FlashCountdown

open AwHal.Lib

/-- The values of `ANDROID_CONTROL_CAPTURE_INTENT`. -/
inductive CaptureIntent where
  | CUSTOM | PREVIEW | STILL_CAPTURE | VIDEO_RECORD | VIDEO_SNAPSHOT | ZERO_SHUTTER_LAG | MANUAL
  | MOTION_TRACKING
deriving DecidableEq, Repr

/-- The values of `ANDROID_CONTROL_AE_MODE`. -/
inductive AeMode where
  | OFF | ON | ON_AUTO_FLASH | ON_ALWAYS_FLASH | ON_AUTO_FLASH_REDEYE | ON_EXTERNAL_FLASH
deriving DecidableEq, Repr

/-- The values of `ANDROID_FLASH_MODE`. -/
inductive FlashMode where
  | OFF | SINGLE | TORCH
deriving DecidableEq, Repr

inductive CameraFlashModeE where
  | CAM_FLASH_MODE_OFF | CAM_FLASH_MODE_AUTO | CAM_FLASH_MODE_ON | CAM_FLASH_MODE_TORCH
  | CAM_FLASH_MODE_SINGLE | CAM_FLASH_MODE_VIDEO_OFF | CAM_FLASH_MODE_MAX
deriving DecidableEq, Repr

inductive CameraFlashStateE where
  | CAM_FLASH_STATE_UNAVAILABLE | CAM_FLASH_STATE_CHARGINT | CAM_FLASH_STATE_READY
  | CAM_FLASH_STATE_FIRED | CAM_FLASH_STATE_PARTIAL | CAM_FLASH_STATE_MAX
deriving DecidableEq, Repr

structure Settings where
  aeMode : Option AeMode := none
  captureIntent : Option CaptureIntent := none
  flashMode : Option FlashMode := none
deriving DecidableEq, Repr

namespace Settings

def capture_intent (r : Settings) : CaptureIntent := r.captureIntent.getD .CUSTOM

def fwk_aeMode (r : Settings) : AeMode := r.aeMode.getD .OFF

def fwk_flashMode (r : Settings) : FlashMode := r.flashMode.getD .OFF

end Settings

/-- What `V4L2Camera` keeps between two calls. -/
structure Flash where
  FlashStatusFlag : Bool := false
  MarkFrameNum : Int := 0
  curFlashModeE : CameraFlashModeE := .CAM_FLASH_MODE_MAX
  curFlashStateE : CameraFlashStateE := .CAM_FLASH_STATE_MAX
deriving DecidableEq, Repr

/-- And what a call writes for its caller. -/
structure Probe extends Flash where
  camera_flash_mode : CameraFlashModeE := .CAM_FLASH_MODE_MAX
  set_flash_flag : Bool := false
deriving DecidableEq, Repr

namespace Probe

def answer (p : Probe) (mode : CameraFlashModeE) : Probe :=
  { p with camera_flash_mode := mode, set_flash_flag := true }

def answered (p : Probe) : Option CameraFlashModeE :=
  if p.set_flash_flag then some p.camera_flash_mode else none

end Probe

/-! ## The blocks of `ProbeFlashMode`, in their order -/

def fire (mode : CameraFlashModeE) (frame_number : Int) (p : Probe) : Probe :=
  if p.FlashStatusFlag then p
  else { p with MarkFrameNum := frame_number, FlashStatusFlag := true }.answer mode

def captureBlocks (r : Settings) (frame_number : Int) (p : Probe) : Probe :=
  let p :=
    if r.capture_intent = .STILL_CAPTURE ∧ r.fwk_aeMode = .ON_ALWAYS_FLASH then
      fire .CAM_FLASH_MODE_ON frame_number p
    else p
  if r.capture_intent = .STILL_CAPTURE ∧ r.fwk_aeMode = .ON_AUTO_FLASH then
    fire .CAM_FLASH_MODE_AUTO frame_number p
  else p

/-- For a still capture the source compares `curFlashModeE` with the torch once more where it means to
set it. -/
def torchBlocks (r : Settings) (frame_number : Int) (p : Probe) : Probe :=
  let p :=
    if r.capture_intent = .STILL_CAPTURE ∧ r.fwk_aeMode = .ON ∧ r.fwk_flashMode = .TORCH then
      if p.curFlashModeE ≠ .CAM_FLASH_MODE_TORCH then
        { p with MarkFrameNum := 0 }.answer .CAM_FLASH_MODE_TORCH
      else p
    else p
  let p :=
    if r.capture_intent = .VIDEO_RECORD ∧ r.fwk_flashMode = .TORCH then
      { p with MarkFrameNum := 0 }.answer .CAM_FLASH_MODE_TORCH
    else p
  if r.capture_intent = .VIDEO_RECORD ∧ r.fwk_flashMode = .OFF ∧ frame_number > 10 then
    { p with MarkFrameNum := 0 }.answer .CAM_FLASH_MODE_VIDEO_OFF
  else p

def countdownBlocks (frame_number : Int) (p : Probe) : Probe :=
  let p :=
    if p.MarkFrameNum ≠ 0 ∧ frame_number - p.MarkFrameNum = 20 then p.answer .CAM_FLASH_MODE_OFF
    else p
  if p.MarkFrameNum ≠ 0 ∧ frame_number - p.MarkFrameNum > 33 then
    { p with FlashStatusFlag := false, MarkFrameNum := 0 }
  else p

def previewBlocks (r : Settings) (p : Probe) : Probe :=
  if r.capture_intent = .PREVIEW then
    let p :=
      if r.fwk_aeMode = .ON_ALWAYS_FLASH ∧ r.fwk_flashMode = .OFF then
        { p with curFlashStateE := .CAM_FLASH_STATE_READY }
      else p
    let p :=
      if r.fwk_aeMode = .ON_AUTO_FLASH ∧ r.fwk_flashMode = .OFF then
        { p with
          curFlashStateE := .CAM_FLASH_STATE_READY
          curFlashModeE := .CAM_FLASH_MODE_AUTO }
      else p
    let p :=
      if r.fwk_aeMode = .ON ∧ r.fwk_flashMode = .OFF then
        let p :=
          if p.curFlashModeE = .CAM_FLASH_MODE_TORCH then p.answer .CAM_FLASH_MODE_VIDEO_OFF else p
        { p with curFlashStateE := .CAM_FLASH_STATE_READY }
      else p
    let p :=
      if r.fwk_aeMode = .ON_AUTO_FLASH_REDEYE ∧ r.fwk_flashMode = .OFF then
        { p with curFlashStateE := .CAM_FLASH_STATE_READY }
      else p
    let p :=
      if r.fwk_aeMode = .ON ∧ r.fwk_flashMode = .SINGLE then
        { p with curFlashStateE := .CAM_FLASH_STATE_FIRED }
      else p
    if r.fwk_flashMode = .TORCH ∧ r.fwk_aeMode = .ON then
      { p.answer .CAM_FLASH_MODE_TORCH with
        MarkFrameNum := 0
        curFlashModeE := .CAM_FLASH_MODE_TORCH
        curFlashStateE := .CAM_FLASH_STATE_FIRED }
    else p
  else p

def ProbeFlashMode (c : Flash) (r : Settings) (frame_number : Int) : Probe :=
  previewBlocks r
    (countdownBlocks frame_number
      (torchBlocks r frame_number (captureBlocks r frame_number { toFlash := c })))

/-! ## Requests -/

/-- A request has output buffers. -/
structure CaptureRequest where
  settings : Settings
  output_buffers : Nat
  output_buffers_pos : 0 < output_buffers

/-- A call: the frame, the answer, and what the camera keeps. -/
structure Entry where
  frame : Nat
  answered : Option CameraFlashModeE
  after : Flash
deriving DecidableEq, Repr

structure Session where
  camera : Flash := {}
  frame : Nat
  log : List Entry := []

def Session.call (r : Settings) (s : Session) : Session :=
  let p := ProbeFlashMode s.camera r s.frame
  { s with camera := p.toFlash, log := s.log ++ [⟨s.frame, p.answered, p.toFlash⟩] }

def step (s : Session) (r : CaptureRequest) : Session :=
  let s := (Session.call r.settings)^[r.output_buffers] s
  { s with frame := s.frame + 1 }

def Fired (answered : Option CameraFlashModeE) : Prop :=
  answered = some .CAM_FLASH_MODE_ON ∨ answered = some .CAM_FLASH_MODE_AUTO

def OffOrTorch (answered : Option CameraFlashModeE) : Prop :=
  answered = some .CAM_FLASH_MODE_OFF ∨ answered = some .CAM_FLASH_MODE_VIDEO_OFF ∨
    answered = some .CAM_FLASH_MODE_TORCH

def FiredAt (log : List Entry) (n : Nat) : Prop := ∃ e ∈ log, e.frame = n ∧ Fired e.answered

def OffWithin (log : List Entry) (n : Nat) : Prop :=
  ∃ e ∈ log, n < e.frame ∧ e.frame ≤ n + 20 ∧ OffOrTorch e.answered

def Fires (c : Flash) (r : Settings) : Prop :=
  r.capture_intent = .STILL_CAPTURE ∧
    (r.fwk_aeMode = .ON_ALWAYS_FLASH ∨ r.fwk_aeMode = .ON_AUTO_FLASH) ∧ c.FlashStatusFlag = false

def Cancels (c : Flash) (r : Settings) (frame_number : Int) : Prop :=
  (r.capture_intent = .STILL_CAPTURE ∧ r.fwk_aeMode = .ON ∧ r.fwk_flashMode = .TORCH ∧
      c.curFlashModeE ≠ .CAM_FLASH_MODE_TORCH) ∨
    r.capture_intent = .VIDEO_RECORD ∧
      (r.fwk_flashMode = .TORCH ∨ r.fwk_flashMode = .OFF ∧ frame_number > 10)

def PreviewTorch (r : Settings) : Prop :=
  r.capture_intent = .PREVIEW ∧ r.fwk_aeMode = .ON ∧ r.fwk_flashMode = .TORCH

/-- The flash is not fired for frame 0, and while the flag is set the countdown is not cancelled. -/
def SafeCall (c : Flash) (r : Settings) (frame_number : Int) : Prop :=
  (Fires c r → frame_number ≠ 0) ∧
    (c.FlashStatusFlag = true →
      ¬ Cancels c r frame_number ∧ (PreviewTorch r → frame_number - c.MarkFrameNum > 33))

def Safe (_ : List CaptureRequest) (s : Session) (r : CaptureRequest) : Prop :=
  SafeCall s.camera r.settings s.frame

section

variable {c : Flash} {r : Settings} {f : Int} {p : Probe}

theorem captureBlocks_of_fires (h : Fires p.toFlash r) :
    ∃ mode, Fired (some mode) ∧
      captureBlocks r f p = { p with MarkFrameNum := f, FlashStatusFlag := true }.answer mode := by
  obtain ⟨hintent, hae, hflag⟩ := h
  rcases hae with hae | hae
  · exact ⟨_, .inl rfl, by simp [captureBlocks, fire, hintent, hae, hflag]⟩
  · exact ⟨_, .inr rfl, by simp [captureBlocks, fire, hintent, hae, hflag]⟩

theorem captureBlocks_of_not_fires (h : ¬ Fires p.toFlash r) : captureBlocks r f p = p := by
  have hflag : r.capture_intent = .STILL_CAPTURE →
      (r.fwk_aeMode = .ON_ALWAYS_FLASH ∨ r.fwk_aeMode = .ON_AUTO_FLASH) →
      p.FlashStatusFlag = true := by
    intro hintent hae
    by_contra hflag
    exact h ⟨hintent, hae, Bool.eq_false_iff.mpr hflag⟩
  unfold captureBlocks fire
  split
  · rename_i hon
    simp [hflag hon.1 (.inl hon.2)]
  · split
    · rename_i hauto
      simp [hflag hauto.1 (.inr hauto.2)]
    · rfl

theorem torchBlocks_of_not_cancels (h : ¬ Cancels p.toFlash r f) : torchBlocks r f p = p := by
  obtain ⟨hstill, hvideo⟩ := not_or.mp h
  have htorch : ¬ (r.capture_intent = .VIDEO_RECORD ∧ r.fwk_flashMode = .TORCH) :=
    fun hin => hvideo ⟨hin.1, .inl hin.2⟩
  have hoff : ¬ (r.capture_intent = .VIDEO_RECORD ∧ r.fwk_flashMode = .OFF ∧ f > 10) :=
    fun hin => hvideo ⟨hin.1, .inr hin.2⟩
  unfold torchBlocks
  dsimp only
  rw [if_neg hoff, if_neg htorch]
  split
  · rename_i hin
    rw [if_neg fun hcur => hstill ⟨hin.1, hin.2.1, hin.2.2, hcur⟩]
  · rfl

theorem torchBlocks_of_cancels (h : Cancels p.toFlash r f) :
    (torchBlocks r f p).FlashStatusFlag = p.FlashStatusFlag ∧
      (torchBlocks r f p).MarkFrameNum = 0 ∧ OffOrTorch (torchBlocks r f p).answered ∧
      (torchBlocks r f p).curFlashModeE = p.curFlashModeE := by
  rcases h with ⟨hintent, hae, hflash, hcur⟩ | ⟨hintent, hflash | ⟨hflash, hframe⟩⟩
  · simp [torchBlocks, hintent, hae, hflash, hcur, Probe.answer, Probe.answered, OffOrTorch]
  · simp [torchBlocks, hintent, hflash, Probe.answer, Probe.answered, OffOrTorch]
  · simp [torchBlocks, hintent, hflash, hframe, Probe.answer, Probe.answered, OffOrTorch]

theorem countdownBlocks_of_over (hmark : p.MarkFrameNum ≠ 0) (hover : f - p.MarkFrameNum > 33) :
    countdownBlocks f p = { p with FlashStatusFlag := false, MarkFrameNum := 0 } := by
  have hnot : ¬ (p.MarkFrameNum ≠ 0 ∧ f - p.MarkFrameNum = 20) := by omega
  unfold countdownBlocks
  dsimp only
  rw [if_neg hnot, if_pos ⟨hmark, hover⟩]

theorem countdownBlocks_of_not_over (hover : p.MarkFrameNum = 0 ∨ f - p.MarkFrameNum ≤ 33) :
    countdownBlocks f p =
      if p.MarkFrameNum ≠ 0 ∧ f - p.MarkFrameNum = 20 then p.answer .CAM_FLASH_MODE_OFF else p := by
  unfold countdownBlocks
  dsimp only
  rw [if_neg]
  split
  · show ¬ (p.MarkFrameNum ≠ 0 ∧ f - p.MarkFrameNum > 33)
    omega
  · omega

theorem countdownBlocks_of_quiet
    (h : p.MarkFrameNum = 0 ∨ f - p.MarkFrameNum < 20) : countdownBlocks f p = p := by
  rw [countdownBlocks_of_not_over (by omega), if_neg (by omega)]

/-- The preview leaves the flag alone; the mark and the answer it leaves too, but for the torch. -/
theorem previewBlocks_spec (r : Settings) (p : Probe) :
    (previewBlocks r p).FlashStatusFlag = p.FlashStatusFlag ∧
      ((previewBlocks r p).answered = p.answered ∨ OffOrTorch (previewBlocks r p).answered) ∧
      (PreviewTorch r → (previewBlocks r p).MarkFrameNum = 0) ∧
      (¬ PreviewTorch r → (previewBlocks r p).MarkFrameNum = p.MarkFrameNum) := by
  unfold previewBlocks PreviewTorch OffOrTorch Probe.answered Probe.answer
  by_cases hintent : r.capture_intent = .PREVIEW
  · cases r.fwk_aeMode <;> cases r.fwk_flashMode <;> simp [hintent]
    · split <;> simp
  · simp [hintent]

theorem previewBlocks_of_not_preview (h : r.capture_intent ≠ .PREVIEW) : previewBlocks r p = p :=
  if_neg h

theorem Fires.not_cancels (h : Fires c r) (c' : Flash) : ¬ Cancels c' r f := by
  rintro (⟨_, hae, _⟩ | ⟨hintent, _⟩)
  · rcases h.2.1 with hae' | hae' <;> rw [hae'] at hae <;> cases hae
  · rw [h.1] at hintent
    cases hintent

theorem Fires.not_preview (h : Fires c r) : r.capture_intent ≠ .PREVIEW := by
  rw [h.1]
  exact fun heq => nomatch heq

theorem probe_of_fires (h : Fires c r) :
    (ProbeFlashMode c r f).FlashStatusFlag = true ∧ (ProbeFlashMode c r f).MarkFrameNum = f ∧
      Fired (ProbeFlashMode c r f).answered := by
  obtain ⟨mode, hmode, hcapture⟩ := captureBlocks_of_fires (f := f) (p := { toFlash := c }) h
  -- the countdown has just begun
  have hcount : ∀ p : Probe, p.MarkFrameNum = f → countdownBlocks f p = p :=
    fun p hp => countdownBlocks_of_quiet (.inr (by omega))
  rw [ProbeFlashMode, hcapture, torchBlocks_of_not_cancels (h.not_cancels _), hcount _ rfl,
    previewBlocks_of_not_preview h.not_preview]
  exact ⟨rfl, rfl, hmode⟩

theorem OffOrTorch.not_fired {a : Option CameraFlashModeE} (h : OffOrTorch a) : ¬ Fired a := by
  rintro (rfl | rfl)
  · rcases h with h | h | h <;> cases h
  · rcases h with h | h | h <;> cases h

theorem countdownBlocks_answered (f : Int) (p : Probe) :
    (countdownBlocks f p).answered = p.answered ∨ OffOrTorch (countdownBlocks f p).answered := by
  by_cases hover : p.MarkFrameNum ≠ 0 ∧ f - p.MarkFrameNum > 33
  · rw [countdownBlocks_of_over hover.1 hover.2]
    exact .inl rfl
  · rw [countdownBlocks_of_not_over (by omega)]
    split
    · exact .inr (.inl rfl)
    · exact .inl rfl

theorem fires_of_fired (h : Fired (ProbeFlashMode c r f).answered) : Fires c r := by
  by_contra hnot
  have hcapture : captureBlocks r f { toFlash := c } = { toFlash := c } :=
    captureBlocks_of_not_fires hnot
  rw [ProbeFlashMode, hcapture] at h
  have htorch : (torchBlocks r f { toFlash := c }).answered = none ∨
      OffOrTorch (torchBlocks r f { toFlash := c }).answered := by
    by_cases hcancels : Cancels c r f
    · exact .inr (torchBlocks_of_cancels (p := { toFlash := c }) hcancels).2.2.1
    · rw [torchBlocks_of_not_cancels hcancels]
      exact .inl rfl
  -- the answer comes from one of the other blocks
  rcases (previewBlocks_spec r _).2.1 with hpreview | hpreview
  · rw [hpreview] at h
    rcases countdownBlocks_answered f (torchBlocks r f { toFlash := c }) with hcount | hcount
    · rw [hcount] at h
      rcases htorch with htorch | htorch
      · rw [htorch] at h
        rcases h with h | h <;> cases h
      · exact htorch.not_fired h
    · exact hcount.not_fired h
  · exact hpreview.not_fired h

theorem probe_of_not_fires (h : ¬ Fires c r) :
    ProbeFlashMode c r f =
      previewBlocks r (countdownBlocks f (torchBlocks r f { toFlash := c })) := by
  rw [ProbeFlashMode, captureBlocks_of_not_fires h]

theorem probe_of_mark_zero (h : ¬ Fires c r)
    (hmark : (torchBlocks r f { toFlash := c }).MarkFrameNum = 0) :
    (ProbeFlashMode c r f).FlashStatusFlag = c.FlashStatusFlag ∧
      (ProbeFlashMode c r f).MarkFrameNum = 0 := by
  rw [probe_of_not_fires h, countdownBlocks_of_quiet (.inl hmark)]
  obtain ⟨hkeep, _, hzero, hsame⟩ := previewBlocks_spec r (torchBlocks r f { toFlash := c })
  constructor
  · rw [hkeep]
    by_cases hcancels : Cancels c r f
    · exact (torchBlocks_of_cancels (p := { toFlash := c }) hcancels).1
    · rw [torchBlocks_of_not_cancels hcancels]
  · by_cases hpreview : PreviewTorch r
    · exact hzero hpreview
    · exact (hsame hpreview).trans hmark

theorem probe_idle (hflag : c.FlashStatusFlag = false) (hmark : c.MarkFrameNum = 0)
    (h : ¬ Fires c r) :
    (ProbeFlashMode c r f).FlashStatusFlag = false ∧ (ProbeFlashMode c r f).MarkFrameNum = 0 := by
  rw [← hflag]
  apply probe_of_mark_zero h
  by_cases hcancels : Cancels c r f
  · exact (torchBlocks_of_cancels (p := { toFlash := c }) hcancels).2.1
  · rw [torchBlocks_of_not_cancels hcancels]
    exact hmark

theorem not_fires (hflag : c.FlashStatusFlag = true) : ¬ Fires c r := by
  rintro ⟨_, _, hfalse⟩
  rw [hflag] at hfalse
  cases hfalse

theorem probe_over (hflag : c.FlashStatusFlag = true) (hmark : c.MarkFrameNum ≠ 0)
    (hcancels : ¬ Cancels c r f) (hover : f - c.MarkFrameNum > 33) :
    (ProbeFlashMode c r f).FlashStatusFlag = false ∧ (ProbeFlashMode c r f).MarkFrameNum = 0 := by
  rw [probe_of_not_fires (not_fires hflag), torchBlocks_of_not_cancels hcancels,
    countdownBlocks_of_over hmark hover]
  obtain ⟨hkeep, _, hzero, hsame⟩ := previewBlocks_spec r
    { ({ toFlash := c } : Probe) with FlashStatusFlag := false, MarkFrameNum := 0 }
  refine ⟨hkeep, ?_⟩
  by_cases hpreview : PreviewTorch r
  · exact hzero hpreview
  · exact hsame hpreview

theorem probe_counting (hflag : c.FlashStatusFlag = true) (hmark : c.MarkFrameNum ≠ 0)
    (hcancels : ¬ Cancels c r f) (hpreview : ¬ PreviewTorch r) (hover : f - c.MarkFrameNum ≤ 33) :
    (ProbeFlashMode c r f).FlashStatusFlag = true ∧
      (ProbeFlashMode c r f).MarkFrameNum = c.MarkFrameNum ∧
      (f - c.MarkFrameNum = 20 → OffOrTorch (ProbeFlashMode c r f).answered) := by
  rw [probe_of_not_fires (not_fires hflag), torchBlocks_of_not_cancels hcancels,
    countdownBlocks_of_not_over (.inr hover)]
  split
  · obtain ⟨hkeep, hanswered, _, hsame⟩ := previewBlocks_spec r
      (({ toFlash := c } : Probe).answer .CAM_FLASH_MODE_OFF)
    refine ⟨hkeep.trans hflag, hsame hpreview, fun _ => ?_⟩
    rcases hanswered with heq | hoff
    · rw [heq]
      exact .inl rfl
    · exact hoff
  · rename_i hnot
    obtain ⟨hkeep, _, _, hsame⟩ := previewBlocks_spec r { toFlash := c }
    exact ⟨hkeep.trans hflag, hsame hpreview, fun heq => absurd ⟨hmark, heq⟩ hnot⟩

end

/-! ## Runs -/

section

variable {log : List Entry} {e : Entry} {n : Nat}

theorem firedAt_concat :
    FiredAt (log ++ [e]) n ↔ FiredAt log n ∨ e.frame = n ∧ Fired e.answered := by
  simp only [FiredAt, List.mem_append, List.mem_singleton, or_and_right, exists_or,
    exists_eq_left]

theorem OffWithin.concat (h : OffWithin log n) (e : Entry) : OffWithin (log ++ [e]) n := by
  obtain ⟨e', he', h'⟩ := h
  exact ⟨e', List.mem_append_left [e] he', h'⟩

end

/-- The calls for all frames before `d` are in the log, and the flag stands for a countdown that is not
over yet. -/
structure Counting (d : Nat) (c : Flash) (log : List Entry) : Prop where
  frames : ∀ e ∈ log, e.frame < d
  flag_iff : c.FlashStatusFlag = true ↔ c.MarkFrameNum ≠ 0
  mark : c.FlashStatusFlag = true → ∃ n : Nat, c.MarkFrameNum = n ∧ FiredAt log n ∧ d ≤ n + 34 ∧
    (n + 20 < d → OffWithin log n)
  fired : ∀ n, FiredAt log n →
    OffWithin log n ∨ c.FlashStatusFlag = true ∧ c.MarkFrameNum = n
  entries : ∀ e ∈ log, e.after.FlashStatusFlag = true →
    e.after.MarkFrameNum ≠ 0 ∧ ∃ n, n ≤ e.frame ∧ e.frame ≤ n + 33 ∧ FiredAt log n

namespace Counting

variable {d f : Nat} {c : Flash} {r : Settings} {log : List Entry}

theorem concat {e : Entry} (h : Counting d c log) (hd : d ≤ f + 1) (hframe : e.frame = f)
    (hflag : e.after.FlashStatusFlag = true ↔ e.after.MarkFrameNum ≠ 0)
    (hmark : e.after.FlashStatusFlag = true → ∃ n : Nat, e.after.MarkFrameNum = n ∧
      FiredAt (log ++ [e]) n ∧ f ≤ n + 33 ∧ (n + 20 ≤ f → OffWithin (log ++ [e]) n))
    (hfired : ∀ n, FiredAt (log ++ [e]) n →
      OffWithin (log ++ [e]) n ∨ e.after.FlashStatusFlag = true ∧ e.after.MarkFrameNum = n) :
    Counting (f + 1) e.after (log ++ [e]) := by
  have hframes : ∀ e' ∈ log ++ [e], e'.frame < f + 1 := by
    intro e' he'
    rcases List.mem_append.mp he' with he' | he'
    · have hlt := h.frames e' he'
      omega
    · rw [List.mem_singleton.mp he', hframe]
      exact Nat.lt_succ_self f
  constructor
  case frames => exact hframes
  case flag_iff => exact hflag
  case mark =>
    intro hset
    obtain ⟨n, hn, hat, hover, hoff⟩ := hmark hset
    exact ⟨n, hn, hat, by omega, fun hlt => hoff (by omega)⟩
  case fired => exact hfired
  case entries =>
    intro e' he' hset
    rcases List.mem_append.mp he' with he' | he'
    · obtain ⟨hne, n, hle, hover, hat⟩ := h.entries e' he' hset
      exact ⟨hne, n, hle, hover, firedAt_concat.mpr (.inl hat)⟩
    · rw [List.mem_singleton.mp he'] at hset ⊢
      obtain ⟨n, _, hat, hover, _⟩ := hmark hset
      have ⟨e'', he'', hn, _⟩ := hat
      have hlt := hframes e'' he''
      exact ⟨hflag.mp hset, n, by omega, by omega, hat⟩

def entry (c : Flash) (r : Settings) (f : Nat) : Entry :=
  ⟨f, (ProbeFlashMode c r f).answered, (ProbeFlashMode c r f).toFlash⟩

theorem concat_idle (h : Counting d c log) (hd : d ≤ f + 1) (hfires : ¬ Fires c r)
    (hover : c.FlashStatusFlag = true → c.MarkFrameNum + 20 < d)
    (hunset : (ProbeFlashMode c r f).FlashStatusFlag = false)
    (hzero : (ProbeFlashMode c r f).MarkFrameNum = 0) :
    Counting (f + 1) (entry c r f).after (log ++ [entry c r f]) := by
  refine h.concat hd rfl (by simp [entry, hunset, hzero]) (by simp [entry, hunset]) ?_
  intro n hn
  have hold : FiredAt log n :=
    (firedAt_concat.mp hn).resolve_right fun hnew => hfires (fires_of_fired hnew.2)
  rcases h.fired n hold with hoff | ⟨hset, hmark⟩
  · exact .inl (hoff.concat _)
  · obtain ⟨n', hmark', _, _, hoff⟩ := h.mark hset
    have heq : n' = n := by omega
    have hlt := hover hset
    rw [heq] at hoff
    exact .inl ((hoff (by omega)).concat _)

theorem concat_fires (h : Counting d c log) (hd : d ≤ f + 1) (hfires : Fires c r) (hf : f ≠ 0) :
    Counting (f + 1) (entry c r f).after (log ++ [entry c r f]) := by
  obtain ⟨hset, hmark, hanswered⟩ := probe_of_fires (f := f) hfires
  have hat : FiredAt (log ++ [entry c r f]) f := firedAt_concat.mpr (.inr ⟨rfl, hanswered⟩)
  refine h.concat hd rfl ?_ (fun _ => ⟨f, hmark, hat, by omega, by omega⟩) ?_
  · refine iff_of_true hset ?_
    show (ProbeFlashMode c r f).MarkFrameNum ≠ 0
    omega
  · intro n hn
    rcases firedAt_concat.mp hn with hn | ⟨rfl, _⟩
    · rcases h.fired n hn with hoff | ⟨hset', _⟩
      · exact .inl (hoff.concat _)
      · exact absurd hfires (not_fires hset')
    · exact .inr ⟨hset, hmark⟩

/-- In the twentieth frame after the mark the flash is sent off. -/
theorem concat_counting (h : Counting d c log) (hle : f ≤ d) (hd : d ≤ f + 1)
    (hset : c.FlashStatusFlag = true) (hcancels : ¬ Cancels c r f) (hpreview : ¬ PreviewTorch r)
    (hover : (f : Int) - c.MarkFrameNum ≤ 33) :
    Counting (f + 1) (entry c r f).after (log ++ [entry c r f]) := by
  obtain ⟨n, hmark, hat, _, hoff⟩ := h.mark hset
  obtain ⟨hset', hmark', htwenty⟩ :=
    probe_counting hset (h.flag_iff.mp hset) hcancels hpreview hover
  have hat' : FiredAt (log ++ [entry c r f]) n := firedAt_concat.mpr (.inl hat)
  refine h.concat hd rfl ?_ ?_ ?_
  · refine iff_of_true hset' ?_
    show (ProbeFlashMode c r f).MarkFrameNum ≠ 0
    rw [hmark']
    exact h.flag_iff.mp hset
  · intro _
    refine ⟨n, hmark'.trans hmark, hat', by omega, fun hle' => ?_⟩
    by_cases hlt : n + 20 < d
    · exact (hoff hlt).concat _
    · -- this is the twentieth frame
      refine ⟨entry c r f, List.mem_concat_self, ?_, ?_, ?_⟩
      · show n < f
        omega
      · show f ≤ n + 20
        omega
      · exact htwenty (by omega)
  · intro n' hn'
    have hold : FiredAt log n' :=
      (firedAt_concat.mp hn').resolve_right fun hnew => not_fires hset (fires_of_fired hnew.2)
    rcases h.fired n' hold with hoff' | ⟨_, hmark''⟩
    · exact .inl (hoff'.concat _)
    · exact .inr ⟨hset', hmark'.trans hmark''⟩

theorem call (h : Counting d c log) (hle : f ≤ d) (hd : d ≤ f + 1) (hsafe : SafeCall c r f) :
    Counting (f + 1) (entry c r f).after (log ++ [entry c r f]) := by
  by_cases hfires : Fires c r
  · have hf := hsafe.1 hfires
    exact h.concat_fires hd hfires (by omega)
  · by_cases hset : c.FlashStatusFlag = true
    · obtain ⟨hcancels, hpreview⟩ := hsafe.2 hset
      by_cases hover : (f : Int) - c.MarkFrameNum > 33
      · obtain ⟨hunset, hzero⟩ := probe_over hset (h.flag_iff.mp hset) hcancels hover
        exact h.concat_idle hd hfires (fun _ => by omega) hunset hzero
      · exact h.concat_counting hle hd hset hcancels (fun hin => hover (hpreview hin))
          (Int.not_lt.mp hover)
    · have hzero : c.MarkFrameNum = 0 := by
        by_contra hne
        exact hset (h.flag_iff.mpr hne)
      obtain ⟨hunset, hzero'⟩ := probe_idle (f := f) (Bool.eq_false_iff.mpr hset) hzero hfires
      exact h.concat_idle hd hfires (fun hin => absurd hin hset) hunset hzero'

end Counting

section

variable {s : Session}

end

end AwHal.Camera.FlashCountdown
