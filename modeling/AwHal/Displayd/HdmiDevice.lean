import AwHal.Lib.GuardedRun
import AwHal.Displayd.DeviceConfig

/-!
# The dynamic range of the HDMI output

`HdmiDevice::setDataspaceMode` and `onDataspaceChange` (`device_hdmi.cpp`) program the transmitter and
tell the hardware composer what to produce.  The driver is taken to answer `DISP_DEVICE_GET_CONFIG`
with the configuration that was set last.
-/

namespace AwHal.Displayd

open AwHal.Lib SinkInfo

/-! ## `dataspace_t` and the dataspaces of the composer -/

def DATASPACE_MODE_AUTO : Int32 := 0
def DATASPACE_MODE_HDR : Int32 := 1
def DATASPACE_MODE_WCG : Int32 := 2
def DATASPACE_MODE_SDR : Int32 := 3
def DATASPACE_MODE_HDRP : Int32 := 4
def DATASPACE_MODE_DV : Int32 := 5

def DATASPACE_SDR : Int32 := 0x1001
def DATASPACE_HDR : Int32 := 0x1002
def DATASPACE_WCG : Int32 := 0x1003
def DATASPACE_HDRP : Int32 := 0x1004
def DATASPACE_DV : Int32 := 0x1005

structure HdmiDevice where
  config : DispDeviceConfig
  mRequestDataspace : Target
  mDataspace : Int32
  ret : Int32 := 0
  hwcSetDataspace : Option Int32 := none
deriving DecidableEq, Repr

inductive Call where
  | setDataspaceMode (mode : Int32)
  | onDataspaceChange (dataspace : Int32)
deriving DecidableEq, Repr

namespace HdmiDevice

variable (sink : SinkInfo)

/-- The end of `setDataspaceMode` after a branch that wants `eotf`: `dataspace` is sent if the
configuration has to change for it. -/
def reconfigure (s : HdmiDevice) (mode dataspace eotf : Int32) : HdmiDevice :=
  if s.config.eotf ≠ eotf then
    { s with
      config := (sink.checkAndCorrectDeviceConfig { s.config with eotf := eotf }).1
      mDataspace := mode
      ret := 0
      hwcSetDataspace := some dataspace }
  else
    -- the variable is still what it was initialised with
    { s with mDataspace := mode, ret := 0, hwcSetDataspace := some DATASPACE_SDR }

def fail (s : HdmiDevice) : HdmiDevice := { s with ret := -1, hwcSetDataspace := none }

def setDataspaceMode (s : HdmiDevice) (mode : Int32) : HdmiDevice :=
  let request :=
    if mode = DATASPACE_MODE_AUTO ∧ s.mRequestDataspace ≠ .SDR then .SDR else s.mRequestDataspace
  let s := { s with mRequestDataspace := request }
  if mode = DATASPACE_MODE_SDR ∨ (mode = DATASPACE_MODE_AUTO ∧ request = .SDR) then
    s.reconfigure sink mode DATASPACE_SDR DISP_EOTF_GAMMA22
  else if mode = DATASPACE_MODE_HDR ∨ (mode = DATASPACE_MODE_AUTO ∧ request = .HDR) then
    if !sink.supportedHDR then s.fail
    else s.reconfigure sink mode DATASPACE_HDR DISP_EOTF_SMPTE2084
  else if mode = DATASPACE_MODE_HDRP ∨ (mode = DATASPACE_MODE_AUTO ∧ request = .HDRP) then
    -- unlike `setupConfig`, this does not look at the transfer functions of the sink
    if !sink.supportedHDR10P then s.fail
    else s.reconfigure sink mode DATASPACE_HDRP DISP_EOTF_SMPTE2084
  else if mode = DATASPACE_MODE_DV ∨ (mode = DATASPACE_MODE_AUTO ∧ request = .DV) then
    if !sink.supportedHDR then s.fail
    else s.reconfigure sink mode DATASPACE_DV DISP_EOTF_SMPTE2084
  else { s with mDataspace := mode, ret := 0, hwcSetDataspace := some DATASPACE_SDR }

def requestOf (dataspace : Int32) : Target × Int32 :=
  if dataspace = DATASPACE_HDR then (.HDR, dataspace)
  else if dataspace = DATASPACE_WCG then (.WCG, dataspace)
  else if dataspace = DATASPACE_HDRP then (.HDRP, dataspace)
  else if dataspace = DATASPACE_DV then (.DV, dataspace)
  else (.SDR, DATASPACE_SDR)

def onDataspaceChange (s : HdmiDevice) (dataspace : Int32) : HdmiDevice :=
  if s.mDataspace ≠ DATASPACE_MODE_AUTO then { s with ret := 0, hwcSetDataspace := none }
  else
    let (request, dataspace) := requestOf dataspace
    let s := { s with mRequestDataspace := request }
    match sink.setupConfig request s.config with
    | some (config, dirty) =>
        { s with
          config := if 0 < dirty then config else s.config
          ret := 0
          hwcSetDataspace := some dataspace }
    | none => s.fail

def step (s : HdmiDevice) : Call → HdmiDevice
  | .setDataspaceMode mode => s.setDataspaceMode sink mode
  | .onDataspaceChange dataspace => s.onDataspaceChange sink dataspace

/-- What the composer was told by the last call agrees with what the transmitter sends. -/
def Agrees (s : HdmiDevice) : Prop :=
  s.ret = 0 → ∀ dataspace ∈ s.hwcSetDataspace,
    (dataspace = DATASPACE_HDR ∨ dataspace = DATASPACE_HDRP ∨ dataspace = DATASPACE_DV →
      s.config.eotf = DISP_EOTF_SMPTE2084) ∧
    (dataspace = DATASPACE_SDR → s.config.eotf ≠ DISP_EOTF_SMPTE2084)

/-- A mode is set when the transmitter is not yet in the state that it asks for, and the sink supports
what is asked for. -/
def Consistent (_ : List Call) (s : HdmiDevice) : Call → Prop
  | .onDataspaceChange _ => True
  | .setDataspaceMode mode =>
      if mode = DATASPACE_MODE_SDR ∨ mode = DATASPACE_MODE_AUTO then True
      else if mode = DATASPACE_MODE_HDR ∨ mode = DATASPACE_MODE_DV then
        sink.supportedHDR → s.config.eotf ≠ DISP_EOTF_SMPTE2084
      else if mode = DATASPACE_MODE_HDRP then
        sink.supportedHDR10P → sink.supportedHDR ∧ s.config.eotf ≠ DISP_EOTF_SMPTE2084
      else s.config.eotf ≠ DISP_EOTF_SMPTE2084

/-! ## One call -/

theorem agrees_fail (s : HdmiDevice) : s.fail.Agrees := by
  intro h
  exact absurd h (by decide : (-1 : Int32) ≠ 0)

theorem agrees_sdr_iff {s : HdmiDevice} (hret : s.ret = 0)
    (hsent : s.hwcSetDataspace = some DATASPACE_SDR) :
    s.Agrees ↔ s.config.eotf ≠ DISP_EOTF_SMPTE2084 := by
  simp only [Agrees, hret, hsent, Option.mem_def, Option.some.injEq, forall_eq', true_implies]
  constructor
  · exact fun h => h.2
  · exact fun h => ⟨fun h' => absurd h' (by decide), h⟩

theorem agrees_reconfigure_sdr (s : HdmiDevice) (mode : Int32) :
    (s.reconfigure sink mode DATASPACE_SDR DISP_EOTF_GAMMA22).Agrees := by
  unfold reconfigure
  split
  · rw [agrees_sdr_iff rfl rfl, checkAndCorrectDeviceConfig_eotf]
    show (if DISP_EOTF_GAMMA22 = DISP_EOTF_SMPTE2084 ∧ _ then _ else DISP_EOTF_GAMMA22) ≠ _
    rw [if_neg (fun h => absurd h.1 (by decide))]
    decide
  · rename_i heotf
    rw [agrees_sdr_iff rfl rfl, not_not.mp heotf]
    decide

def Hdr (dataspace : Int32) : Prop :=
  dataspace = DATASPACE_HDR ∨ dataspace = DATASPACE_HDRP ∨ dataspace = DATASPACE_DV

theorem Hdr.ne_sdr {dataspace : Int32} (h : Hdr dataspace) : dataspace ≠ DATASPACE_SDR := by
  rcases h with rfl | rfl | rfl <;> decide

theorem agrees_hdr_iff {s : HdmiDevice} {dataspace : Int32} (h : Hdr dataspace) (hret : s.ret = 0)
    (hsent : s.hwcSetDataspace = some dataspace) :
    s.Agrees ↔ s.config.eotf = DISP_EOTF_SMPTE2084 := by
  simp only [Agrees, hret, hsent, Option.mem_def, Option.some.injEq, forall_eq', true_implies]
  constructor
  · exact fun hs => hs.1 h
  · exact fun hs => ⟨fun _ => hs, fun h' => absurd h' h.ne_sdr⟩

theorem agrees_reconfigure_hdr_iff (s : HdmiDevice) (mode : Int32) {dataspace : Int32}
    (h : Hdr dataspace) :
    (s.reconfigure sink mode dataspace DISP_EOTF_SMPTE2084).Agrees ↔
      sink.supportedHDR ∧ s.config.eotf ≠ DISP_EOTF_SMPTE2084 := by
  unfold reconfigure
  split
  · rename_i heotf
    rw [agrees_hdr_iff h rfl rfl, checkAndCorrectDeviceConfig_eotf]
    cases hsink : sink.supportedHDR with
    | true => simp [heotf]
    | false =>
        -- the correction goes back to SDR
        simp only [Bool.not_false, and_self, if_true, Bool.false_eq_true, false_and, iff_false]
        decide
  · rename_i heotf
    rw [agrees_sdr_iff rfl rfl]
    simp [not_not.mp heotf]

/-- In automatic mode the request is SDR by the time it is looked at. -/
theorem setDataspaceMode_auto (s : HdmiDevice) :
    s.setDataspaceMode sink DATASPACE_MODE_AUTO =
      { s with mRequestDataspace := .SDR }.reconfigure sink DATASPACE_MODE_AUTO DATASPACE_SDR
        DISP_EOTF_GAMMA22 := by
  obtain ⟨config, request, mode, ret, sent⟩ := s
  cases request <;> rfl

theorem setDataspaceMode_of_ne {s : HdmiDevice} {mode : Int32} (h : mode ≠ DATASPACE_MODE_AUTO) :
    s.setDataspaceMode sink mode =
      if mode = DATASPACE_MODE_SDR then s.reconfigure sink mode DATASPACE_SDR DISP_EOTF_GAMMA22
      else if mode = DATASPACE_MODE_HDR then
        if !sink.supportedHDR then s.fail
        else s.reconfigure sink mode DATASPACE_HDR DISP_EOTF_SMPTE2084
      else if mode = DATASPACE_MODE_HDRP then
        if !sink.supportedHDR10P then s.fail
        else s.reconfigure sink mode DATASPACE_HDRP DISP_EOTF_SMPTE2084
      else if mode = DATASPACE_MODE_DV then
        if !sink.supportedHDR then s.fail
        else s.reconfigure sink mode DATASPACE_DV DISP_EOTF_SMPTE2084
      else { s with mDataspace := mode, ret := 0, hwcSetDataspace := some DATASPACE_SDR } := by
  simp only [setDataspaceMode, h, false_and, or_false, if_false]

/-- A branch for HDR: it fails, or `agrees_reconfigure_hdr_iff` applies. -/
theorem agrees_hdr_branch_iff (s : HdmiDevice) (mode : Int32) {dataspace : Int32}
    (h : Hdr dataspace) (supported : Bool) :
    (if !supported then s.fail
      else s.reconfigure sink mode dataspace DISP_EOTF_SMPTE2084).Agrees ↔
      (supported → sink.supportedHDR ∧ s.config.eotf ≠ DISP_EOTF_SMPTE2084) := by
  cases supported with
  | true => simpa using agrees_reconfigure_hdr_iff sink s mode h
  | false => simpa using agrees_fail s

theorem agrees_setDataspaceMode_iff (s : HdmiDevice) (mode : Int32) (past : List Call) :
    (s.setDataspaceMode sink mode).Agrees ↔ Consistent sink past s (.setDataspaceMode mode) := by
  by_cases hauto : mode = DATASPACE_MODE_AUTO
  · subst hauto
    rw [setDataspaceMode_auto]
    simp only [Consistent, or_true, if_true, iff_true]
    exact agrees_reconfigure_sdr sink _ _
  · rw [setDataspaceMode_of_ne sink hauto]
    simp only [Consistent, hauto, or_false]
    by_cases hsdr : mode = DATASPACE_MODE_SDR
    · simp only [hsdr, if_true, iff_true]
      exact agrees_reconfigure_sdr sink _ _
    by_cases hhdr : mode = DATASPACE_MODE_HDR
    · subst hhdr
      simp only [hsdr, if_false, if_true, true_or]
      rw [agrees_hdr_branch_iff sink s _ (.inl rfl)]
      tauto
    by_cases hhdrp : mode = DATASPACE_MODE_HDRP
    · subst hhdrp
      have hdv : DATASPACE_MODE_HDRP ≠ DATASPACE_MODE_DV := by decide
      simp only [hsdr, hhdr, hdv, if_false, if_true, or_self]
      rw [agrees_hdr_branch_iff sink s _ (.inr (.inl rfl))]
    by_cases hdv : mode = DATASPACE_MODE_DV
    · subst hdv
      simp only [hsdr, hhdr, hhdrp, if_false, if_true, or_true]
      rw [agrees_hdr_branch_iff sink s _ (.inr (.inr rfl))]
      tauto
    · simp only [hsdr, hhdr, hhdrp, hdv, if_false, or_self]
      rw [agrees_sdr_iff rfl rfl]

theorem requestOf_hdr {dataspace : Int32} (h : Hdr (requestOf dataspace).2) :
    (requestOf dataspace).1.eotf = DISP_EOTF_SMPTE2084 := by
  unfold requestOf at h ⊢
  split_ifs at h ⊢ with hhdr hwcg hhdrp hdv
  · rfl
  · rw [hwcg] at h
    exact absurd h (by unfold Hdr; decide)
  · rfl
  · rfl
  · exact absurd rfl h.ne_sdr

theorem requestOf_sdr {dataspace : Int32} (h : (requestOf dataspace).2 = DATASPACE_SDR) :
    (requestOf dataspace).1.eotf ≠ DISP_EOTF_SMPTE2084 := by
  unfold requestOf at h ⊢
  split_ifs at h ⊢ with hhdr hwcg hhdrp hdv
  · exact absurd (hhdr.symm.trans h) (by decide)
  · show DISP_EOTF_GAMMA22 ≠ DISP_EOTF_SMPTE2084
    decide
  · exact absurd (hhdrp.symm.trans h) (by decide)
  · exact absurd (hdv.symm.trans h) (by decide)
  · decide

theorem agrees_onDataspaceChange (s : HdmiDevice) (dataspace : Int32) :
    (s.onDataspaceChange sink dataspace).Agrees := by
  unfold onDataspaceChange
  split
  · rintro - _ ⟨⟩
  · dsimp only
    split
    · rename_i config dirty hsetup
      obtain ⟨hafter, hbefore⟩ := leads_setupConfig sink hsetup
      -- whether or not the configuration is written, its transfer function is that of the request
      have heotf : (if 0 < dirty then config else s.config).eotf =
          (requestOf dataspace).1.eotf := by
        split
        · exact hafter
        · exact hbefore (by omega)
      rintro - _ ⟨⟩
      exact ⟨fun h => heotf.trans (requestOf_hdr h), fun h => heotf.trans_ne (requestOf_sdr h)⟩
    · exact agrees_fail _

/-! ## Every call -/

def new (config : DispDeviceConfig) (mRequestDataspace : Target) (mDataspace : Int32) :
    HdmiDevice where
  config := config
  mRequestDataspace := mRequestDataspace
  mDataspace := mDataspace

/-- What is sent agrees with the transmitter after each call exactly when each call that sets a mode
is consistent with the state it finds. -/
theorem agrees_iff_guarded (config : DispDeviceConfig) (request : Target) (mode : Int32)
    (calls : List Call) :
    (∀ past, past <+: calls → Agrees (past.foldl (step sink) (new config request mode))) ↔
      Guarded (step sink) (Consistent sink) (new config request mode) calls := by
  have hstart : (new config request mode).Agrees := by
    rintro - _ ⟨⟩
  apply forall_prefix_iff_guarded (fun _ s => Agrees s) hstart
  intro past s call _
  cases call with
  | setDataspaceMode mode => exact agrees_setDataspaceMode_iff sink s mode past
  | onDataspaceChange dataspace =>
      exact iff_of_true (agrees_onDataspaceChange sink s dataspace) trivial

def television : SinkInfo where
  mEotf := 5
  mColorimetry := 0x40
  mAppVer := 0
  mRGBOnly := false
  mSinkType := 2
  mSupportedVIC := [⟨16, 0, 1, 0⟩]
  mY420VIC := []
  mSupportedFormat := fun _ => some ⟨true, true, false⟩

def television1080p : HdmiDevice :=
  new { type := DISP_OUTPUT_TYPE_HDMI, mode := DISP_TV_MOD_1080P_60HZ,
        format := DISP_CSC_TYPE_YUV444, bits := DISP_DATA_8BITS, eotf := DISP_EOTF_GAMMA22,
        cs := DISP_BT709, dvi_hdmi := DISP_HDMI } .SDR DATASPACE_MODE_AUTO

/-- HDR is chosen a second time: the composer is told to go back to SDR, and the transmitter stays in
HDR. -/
theorem television_hdr_twice :
    let s := [Call.setDataspaceMode DATASPACE_MODE_HDR, .setDataspaceMode DATASPACE_MODE_HDR].foldl
      (step television) television1080p
    s.ret = 0 ∧ s.hwcSetDataspace = some DATASPACE_SDR ∧ s.config.eotf = DISP_EOTF_SMPTE2084 ∧
      ¬ s.Agrees := by
  refine ⟨by decide, by decide, by decide, ?_⟩
  intro h
  exact (h rfl DATASPACE_SDR (by decide)).2 rfl (by decide)

end HdmiDevice

end AwHal.Displayd
