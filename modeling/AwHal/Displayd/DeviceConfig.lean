import Mathlib.Tactic.Common
import AwHal.Edid.Parser

/-!
# Device configurations

`disp_device_config` of `sunxi_display2.h` as the display service passes it around, and what
`EdidStrategy` makes of it for the sink at the other end of the cable.
-/

namespace AwHal.Displayd

/-! ## `disp_output_type` -/

def DISP_OUTPUT_TYPE_LCD : Int32 := 1
def DISP_OUTPUT_TYPE_TV : Int32 := 2
def DISP_OUTPUT_TYPE_HDMI : Int32 := 4
def DISP_OUTPUT_TYPE_VGA : Int32 := 8

/-! ## `disp_tv_mode` -/

def DISP_TV_MOD_480I : Int32 := 0
def DISP_TV_MOD_576I : Int32 := 1
def DISP_TV_MOD_480P : Int32 := 2
def DISP_TV_MOD_576P : Int32 := 3
def DISP_TV_MOD_720P_60HZ : Int32 := 5
def DISP_TV_MOD_1080I_50HZ : Int32 := 6
def DISP_TV_MOD_1080I_60HZ : Int32 := 7
def DISP_TV_MOD_1080P_60HZ : Int32 := 0xa
def DISP_TV_MOD_3840_2160P_60HZ : Int32 := 0x22
def DISP_TV_MOD_4096_2160P_60HZ : Int32 := 0x23
def DISP_TV_MOD_3840_2160P_50HZ : Int32 := 0x24
def DISP_TV_MOD_4096_2160P_50HZ : Int32 := 0x25

/-! ## `disp_csc_type`, `disp_data_bits`, `disp_eotf`, `disp_color_space` -/

def DISP_CSC_TYPE_RGB : Int32 := 0
def DISP_CSC_TYPE_YUV444 : Int32 := 1
def DISP_CSC_TYPE_YUV422 : Int32 := 2
def DISP_CSC_TYPE_YUV420 : Int32 := 3

def DISP_DATA_8BITS : Int32 := 0
def DISP_DATA_10BITS : Int32 := 1
def DISP_DATA_12BITS : Int32 := 2
def DISP_DATA_16BITS : Int32 := 3

def DISP_EOTF_GAMMA22 : Int32 := 4
def DISP_EOTF_SMPTE2084 : Int32 := 0x10

def DISP_BT709 : Int32 := 0x101
def DISP_BT601 : Int32 := 0x104
def DISP_BT2020NC : Int32 := 0x107

/-! ## `disp_dvi_hdmi`, `disp_color_range`, `disp_scan_info`, `disp_hdr_type` -/

def DISP_DVI : Int32 := 1
def DISP_HDMI : Int32 := 2

def DISP_COLOR_RANGE_0_255 : Int32 := 1
def DISP_COLOR_RANGE_16_235 : Int32 := 2

def DISP_SCANINFO_NO_DATA : Int32 := 0

def HDR10 : Int32 := 0
def HDR10P : Int32 := 1

structure DispDeviceConfig where
  type : Int32
  mode : Int32
  format : Int32
  bits : Int32
  eotf : Int32
  cs : Int32
  dvi_hdmi : Int32
  range : Int32 := 0
  scan : Int32 := 0
  hdr_type : Int32 := 0
  aspect_ratio : UInt32 := 0
deriving DecidableEq, Repr

/-! ## What the sink says of itself -/

def EOTF_SMPTE_ST_2084 : UInt8 := 4
def BT2020_YCC : UInt8 := 0x40
def SINK_TYPE_DVI : Int32 := 1

/-- The members of `EdidParser` that `EdidStrategy` reads. -/
structure SinkInfo where
  mEotf : UInt8
  mColorimetry : UInt8
  mAppVer : UInt8
  mRGBOnly : Bool
  mSinkType : Int32
  mSupportedVIC : List Edid.VideoInformationCode
  mY420VIC : List Edid.VideoInformationCode
  mSupportedFormat : Int32 → Option Edid.VideoFormat

/-- The pairs of `dispmodeMapTable`: the mode of the display driver and the video code. -/
def dispmodeMapTable : List (Int32 × Int) :=
  [(0, 6), (1, 21), (2, 2), (3, 17), (4, 19), (5, 4), (6, 20), (7, 5), (9, 31), (0xa, 16), (8, 32),
    (0x1a, 33), (0x1b, 34),
    -- the 3D modes have codes of their own
    (0x17, 32 + 0x80), (0x18, 19 + 0x80), (0x19, 4 + 0x80),
    (0x1e, 93), (0x1d, 94), (0x1c, 95), (0x24, 96), (0x22, 97),
    (0x1f, 98), (0x20, 99), (0x21, 100), (0x25, 101), (0x23, 102)]

def dispmode2vic (mode : Int32) : Int := (dispmodeMapTable.lookup mode).getD (-1)

/-- The modes that prefer `DISP_CSC_TYPE_YUV420` with 8 bits. -/
def is2160P (mode : Int32) : Bool :=
  mode == DISP_TV_MOD_3840_2160P_60HZ || mode == DISP_TV_MOD_3840_2160P_50HZ ||
    mode == DISP_TV_MOD_4096_2160P_60HZ || mode == DISP_TV_MOD_4096_2160P_50HZ

/-- Every mode from 720p on has the same color space. -/
def getColorspaceByResolution (mode : Int32) : Int32 :=
  if mode = DISP_TV_MOD_480I ∨ mode = DISP_TV_MOD_576I ∨ mode = DISP_TV_MOD_480P ∨
      mode = DISP_TV_MOD_576P then DISP_BT601
  else DISP_BT709

/-! ## `EdidStrategy` -/

namespace SinkInfo

variable (sink : SinkInfo)

def supportedHDR : Bool := (sink.mEotf &&& EOTF_SMPTE_ST_2084) != 0

def supportedHDR10P : Bool := decide (0 < sink.mAppVer)

def supportedBT2020 : Bool := (sink.mColorimetry &&& BT2020_YCC) != 0

def isOnlySupportY420Sampling (mode : Int32) : Bool :=
  sink.mY420VIC.any fun v => (v.vic : Int) == dispmode2vic mode

def isSupportY420Sampling (mode : Int32) : Bool :=
  (sink.mSupportedVIC.any fun v => (v.vic : Int) == dispmode2vic mode && v.ycbcr420_sampling != 0) ||
    sink.isOnlySupportY420Sampling mode

def checkSamplingBits (format bits : Int32) : Int32 :=
  if bits = DISP_DATA_8BITS then DISP_DATA_8BITS
  else match sink.mSupportedFormat format with
    | none =>
        if bits = DISP_DATA_10BITS ∨ bits = DISP_DATA_12BITS ∨ bits = DISP_DATA_16BITS then bits
        else DISP_DATA_8BITS
    | some fmt =>
        if bits = DISP_DATA_10BITS then if fmt.dc_30bit then bits else DISP_DATA_8BITS
        else if bits = DISP_DATA_12BITS then if fmt.dc_36bit then bits else DISP_DATA_8BITS
        else if bits = DISP_DATA_16BITS then if fmt.dc_48bit then bits else DISP_DATA_8BITS
        else DISP_DATA_8BITS

/-! ### `checkAndCorrectDeviceConfig`

The configuration goes from one correction to the next, with the number of changes so far. -/

def correctEotf (c : DispDeviceConfig × Nat) : DispDeviceConfig × Nat :=
  -- not every sink supports HDR10
  if c.1.eotf = DISP_EOTF_SMPTE2084 ∧ !sink.supportedHDR then
    ({ c.1 with eotf := DISP_EOTF_GAMMA22 }, c.2 + 1)
  else c

def correctColorspace (c : DispDeviceConfig × Nat) : DispDeviceConfig × Nat :=
  let colorspace :=
    if c.1.eotf = DISP_EOTF_SMPTE2084 ∧ sink.supportedBT2020 then DISP_BT2020NC
    else getColorspaceByResolution c.1.mode
  if c.1.cs ≠ colorspace then ({ c.1 with cs := colorspace }, c.2 + 1) else c

def preferFormat (c : DispDeviceConfig × Nat) : DispDeviceConfig × Nat :=
  if is2160P c.1.mode then
    ({ c.1 with format := DISP_CSC_TYPE_YUV420 },
      if c.1.format ≠ DISP_CSC_TYPE_YUV420 then c.2 + 1 else c.2)
  else if c.1.format ≠ DISP_CSC_TYPE_YUV444 ∧ c.1.format ≠ DISP_CSC_TYPE_YUV422 ∧
      c.1.format ≠ DISP_CSC_TYPE_YUV420 ∧ c.1.format ≠ DISP_CSC_TYPE_RGB then
    ({ c.1 with format := DISP_CSC_TYPE_YUV444 }, c.2 + 1)
  else c

def correctFormat (c : DispDeviceConfig × Nat) : DispDeviceConfig × Nat :=
  let pixelformat :=
    if sink.mRGBOnly ∨ sink.mSinkType = SINK_TYPE_DVI then DISP_CSC_TYPE_RGB
    else if sink.isOnlySupportY420Sampling c.1.mode then DISP_CSC_TYPE_YUV420
    else if c.1.format = DISP_CSC_TYPE_YUV420 ∧ !sink.isSupportY420Sampling c.1.mode then
      DISP_CSC_TYPE_YUV444
    else c.1.format
  if c.1.format ≠ pixelformat then ({ c.1 with format := pixelformat }, c.2 + 1) else c

def preferBits (c : DispDeviceConfig × Nat) : DispDeviceConfig × Nat :=
  if is2160P c.1.mode then
    ({ c.1 with bits := DISP_DATA_8BITS },
      if c.1.bits ≠ DISP_DATA_8BITS then c.2 + 1 else c.2)
  else c

def correctBits (c : DispDeviceConfig × Nat) : DispDeviceConfig × Nat :=
  let bits := sink.checkSamplingBits c.1.format c.1.bits
  if c.1.bits ≠ bits then ({ c.1 with bits := bits }, c.2 + 1) else c

def correctMisc (c : DispDeviceConfig × Nat) : DispDeviceConfig × Nat :=
  ({ c.1 with
    dvi_hdmi := if sink.mSinkType = SINK_TYPE_DVI then DISP_DVI else DISP_HDMI
    range := if c.1.format = DISP_CSC_TYPE_RGB then DISP_COLOR_RANGE_0_255
      else DISP_COLOR_RANGE_16_235
    scan := DISP_SCANINFO_NO_DATA
    aspect_ratio := 8 }, c.2)

/-- The corrected configuration, and how many of its fields were not supported. -/
def checkAndCorrectDeviceConfig (config : DispDeviceConfig) : DispDeviceConfig × Nat :=
  sink.correctMisc (sink.correctBits (preferBits (sink.correctFormat (preferFormat
    (sink.correctColorspace (sink.correctEotf (config, 0)))))))

/-! ### The corrections in one -/

def OnlyRgb : Prop := sink.mRGBOnly ∨ sink.mSinkType = SINK_TYPE_DVI

instance : Decidable sink.OnlyRgb := inferInstanceAs (Decidable (_ ∨ _))

def Known (format : Int32) : Prop :=
  format = DISP_CSC_TYPE_YUV444 ∨ format = DISP_CSC_TYPE_YUV422 ∨ format = DISP_CSC_TYPE_YUV420 ∨
    format = DISP_CSC_TYPE_RGB

instance (format : Int32) : Decidable (Known format) := inferInstanceAs (Decidable (_ ∨ _))

def correctedEotf (eotf : Int32) : Int32 :=
  if eotf = DISP_EOTF_SMPTE2084 ∧ !sink.supportedHDR then DISP_EOTF_GAMMA22 else eotf

def correctedCs (mode eotf : Int32) : Int32 :=
  if eotf = DISP_EOTF_SMPTE2084 ∧ sink.supportedBT2020 then DISP_BT2020NC
  else getColorspaceByResolution mode

def preferredFormat (mode format : Int32) : Int32 :=
  if is2160P mode then DISP_CSC_TYPE_YUV420 else if Known format then format
  else DISP_CSC_TYPE_YUV444

def correctedFormat (mode preferred : Int32) : Int32 :=
  if sink.OnlyRgb then DISP_CSC_TYPE_RGB
  else if sink.isOnlySupportY420Sampling mode then DISP_CSC_TYPE_YUV420
  else if preferred = DISP_CSC_TYPE_YUV420 ∧ !sink.isSupportY420Sampling mode then
    DISP_CSC_TYPE_YUV444
  else preferred

def correctedBits (mode format bits : Int32) : Int32 :=
  sink.checkSamplingBits format (if is2160P mode then DISP_DATA_8BITS else bits)

def withMisc (config : DispDeviceConfig) : DispDeviceConfig :=
  { config with
    dvi_hdmi := if sink.mSinkType = SINK_TYPE_DVI then DISP_DVI else DISP_HDMI
    range := if config.format = DISP_CSC_TYPE_RGB then DISP_COLOR_RANGE_0_255
      else DISP_COLOR_RANGE_16_235
    scan := DISP_SCANINFO_NO_DATA
    aspect_ratio := 8 }

def correctedFor (preferred : Int32) (config : DispDeviceConfig) : DispDeviceConfig :=
  let eotf := sink.correctedEotf config.eotf
  let format := sink.correctedFormat config.mode preferred
  sink.withMisc
    { config with
      eotf := eotf
      cs := sink.correctedCs config.mode eotf
      format := format
      bits := sink.correctedBits config.mode format config.bits }

theorem correctEotf_fst (c : DispDeviceConfig × Nat) :
    (sink.correctEotf c).1 = { c.1 with eotf := sink.correctedEotf c.1.eotf } := by
  rw [correctEotf, correctedEotf]
  split_ifs <;> rfl

theorem correctColorspace_fst (c : DispDeviceConfig × Nat) :
    (sink.correctColorspace c).1 = { c.1 with cs := sink.correctedCs c.1.mode c.1.eotf } := by
  show (if c.1.cs ≠ sink.correctedCs c.1.mode c.1.eotf then
    ({ c.1 with cs := sink.correctedCs c.1.mode c.1.eotf }, c.2 + 1) else c).1 = _
  split
  · rfl
  · rename_i heq
    rw [← not_not.mp heq]

theorem preferFormat_fst (c : DispDeviceConfig × Nat) :
    (preferFormat c).1 = { c.1 with format := preferredFormat c.1.mode c.1.format } := by
  rw [preferFormat, preferredFormat]
  by_cases hmode : is2160P c.1.mode
  · rw [if_pos hmode, if_pos hmode]
  · rw [if_neg hmode, if_neg hmode]
    by_cases hknown : Known c.1.format
    · rw [if_pos hknown, if_neg]
      unfold Known at hknown
      tauto
    · rw [if_neg hknown, if_pos]
      unfold Known at hknown
      tauto

theorem correctFormat_fst (c : DispDeviceConfig × Nat) :
    (sink.correctFormat c).1 =
      { c.1 with format := sink.correctedFormat c.1.mode c.1.format } := by
  show (if c.1.format ≠ sink.correctedFormat c.1.mode c.1.format then
    ({ c.1 with format := sink.correctedFormat c.1.mode c.1.format }, c.2 + 1) else c).1 = _
  split
  · rfl
  · rename_i heq
    rw [← not_not.mp heq]

theorem preferBits_fst (c : DispDeviceConfig × Nat) :
    (preferBits c).1 =
      { c.1 with bits := if is2160P c.1.mode then DISP_DATA_8BITS else c.1.bits } := by
  rw [preferBits]
  split_ifs <;> rfl

theorem correctBits_fst (c : DispDeviceConfig × Nat) :
    (sink.correctBits c).1 =
      { c.1 with bits := sink.checkSamplingBits c.1.format c.1.bits } := by
  show (if c.1.bits ≠ sink.checkSamplingBits c.1.format c.1.bits then
    ({ c.1 with bits := sink.checkSamplingBits c.1.format c.1.bits }, c.2 + 1) else c).1 = _
  split
  · rfl
  · rename_i heq
    rw [← not_not.mp heq]

theorem checkAndCorrectDeviceConfig_fst (config : DispDeviceConfig) :
    (sink.checkAndCorrectDeviceConfig config).1 =
      sink.correctedFor (preferredFormat config.mode config.format) config := by
  show sink.withMisc (sink.correctBits _).1 = _
  rw [correctBits_fst, preferBits_fst, correctFormat_fst, preferFormat_fst, correctColorspace_fst,
    correctEotf_fst]
  rfl

theorem checkAndCorrectDeviceConfig_eotf (config : DispDeviceConfig) :
    (sink.checkAndCorrectDeviceConfig config).1.eotf =
      if config.eotf = DISP_EOTF_SMPTE2084 ∧ !sink.supportedHDR then DISP_EOTF_GAMMA22
      else config.eotf := by
  rw [checkAndCorrectDeviceConfig_fst]
  rfl

/-! ### `setupConfig` -/

/-- `eKdataspace` -/
inductive Target where
  | SDR | HDR | WCG | HDRP | DV
deriving DecidableEq, Repr

/-- Set the transfer function, and count a change. -/
def setEotf (eotf : Int32) (c : DispDeviceConfig × Nat) : DispDeviceConfig × Nat :=
  if c.1.eotf ≠ eotf then ({ c.1 with eotf := eotf }, c.2 + 1) else c

def setCs (cs : Int32) (c : DispDeviceConfig × Nat) : DispDeviceConfig × Nat :=
  if c.1.cs ≠ cs then ({ c.1 with cs := cs }, c.2 + 1) else c

/-- The configuration for a dynamic range and the number of changes, if the sink supports it. -/
def setupConfig (target : Target) (config : DispDeviceConfig) : Option (DispDeviceConfig × Nat) :=
  let config := { config with hdr_type := HDR10 }
  match target with
  | .HDRP =>
      if !sink.supportedHDR || !sink.supportedHDR10P then none
      else
        let c := setCs DISP_BT2020NC (setEotf DISP_EOTF_SMPTE2084 (config, 0))
        -- these two are not counted
        some ({ c.1 with bits := DISP_DATA_10BITS, hdr_type := HDR10P }, c.2)
  | .DV =>
      if !sink.supportedHDR then none
      else some (setCs DISP_BT2020NC (setEotf DISP_EOTF_SMPTE2084 (config, 0)))
  | .HDR =>
      if !sink.supportedHDR then none
      else
        let c := setEotf DISP_EOTF_SMPTE2084 (config, 0)
        some (if sink.supportedBT2020 then setCs DISP_BT2020NC c else c)
  | .WCG =>
      if !sink.supportedBT2020 then none
      else some (setEotf DISP_EOTF_GAMMA22 (setCs DISP_BT2020NC (config, 0)))
  | .SDR =>
      some (setEotf DISP_EOTF_GAMMA22 (setCs (getColorspaceByResolution config.mode) (config, 0)))

def Target.eotf : Target → Int32
  | .SDR | .WCG => DISP_EOTF_GAMMA22
  | .HDR | .HDRP | .DV => DISP_EOTF_SMPTE2084

/-- What a change of a configuration has to do with its transfer function: it is `eotf` afterwards,
and was so before if nothing is counted. -/
def Leads (eotf before : Int32) (c : DispDeviceConfig × Nat) : Prop :=
  c.1.eotf = eotf ∧ (c.2 = 0 → before = eotf)

theorem leads_setEotf (eotf : Int32) (c : DispDeviceConfig × Nat) :
    Leads eotf c.1.eotf (setEotf eotf c) := by
  unfold setEotf
  split
  · exact ⟨rfl, fun h => absurd h (Nat.succ_ne_zero _)⟩
  · rename_i heq
    exact ⟨not_not.mp heq, fun _ => not_not.mp heq⟩

theorem Leads.setCs {eotf before cs : Int32} {c : DispDeviceConfig × Nat}
    (h : Leads eotf before c) : Leads eotf before (setCs cs c) := by
  unfold SinkInfo.setCs
  split
  · exact ⟨h.1, fun h' => absurd h' (Nat.succ_ne_zero _)⟩
  · exact h

@[simp] theorem setCs_eotf (cs : Int32) (c : DispDeviceConfig × Nat) :
    (setCs cs c).1.eotf = c.1.eotf := by
  unfold setCs
  split <;> rfl

theorem leads_setupConfig {target : Target} {config : DispDeviceConfig}
    {c : DispDeviceConfig × Nat} (h : sink.setupConfig target config = some c) :
    Leads target.eotf config.eotf c := by
  have hset (eotf : Int32) : Leads eotf config.eotf
      (setEotf eotf ({ config with hdr_type := HDR10 }, 0)) := leads_setEotf eotf _
  have hset' (cs : Int32) : Leads DISP_EOTF_GAMMA22 config.eotf (setEotf DISP_EOTF_GAMMA22
      (setCs cs ({ config with hdr_type := HDR10 }, 0))) := by
    have := leads_setEotf DISP_EOTF_GAMMA22 (setCs cs ({ config with hdr_type := HDR10 }, 0))
    rwa [setCs_eotf] at this
  -- a dynamic range that the sink does not support gives nothing
  have hgranted {p : Prop} [Decidable p] {x : DispDeviceConfig × Nat}
      (h : (if p then none else some x) = some c) : x = c := by
    split at h
    · cases h
    · exact Option.some.inj h
  cases target with
  | HDRP =>
      rw [← hgranted h]
      exact (hset _).setCs
  | DV =>
      rw [← hgranted h]
      exact (hset _).setCs
  | HDR =>
      rw [← hgranted h]
      split
      · exact (hset _).setCs
      · exact hset _
  | WCG =>
      rw [← hgranted h]
      exact hset' _
  | SDR =>
      rw [← Option.some.inj h]
      exact hset' _

end SinkInfo

end AwHal.Displayd
