import AwHal.Displayd.DeviceConfig
import AwHal.Edid.ParseInvariant

/-!
# Configurations that the sink supports

`supportedPixelFormat` checks a format against what the EDID lists, and `checkAndCorrectDeviceConfig`
picks one.  The two are separate code: here what is picked is held against the check.
-/

namespace AwHal.Displayd

open AwHal.Lib Reading

/-! ## What the parser leaves -/

def videoFmt (format : Int32) : Option Edid.VideoFmt :=
  if format = DISP_CSC_TYPE_RGB then some .RGB
  else if format = DISP_CSC_TYPE_YUV444 then some .YUV444
  else if format = DISP_CSC_TYPE_YUV422 then some .YUV422
  else if format = DISP_CSC_TYPE_YUV420 then some .YUV420
  else none

def SINK_TYPE_HDMI : Int32 := 2

def sinkInfo (mParser : Edid.EdidParser) : SinkInfo where
  mEotf := mParser.mEotf
  mColorimetry := mParser.mColorimetry
  mAppVer := mParser.mAppVer
  mRGBOnly := mParser.mRGBOnly
  mSinkType := match mParser.mSinkType with
    | .DVI => SINK_TYPE_DVI
    | .HDMI => SINK_TYPE_HDMI
  mSupportedVIC := mParser.mSupportedVIC
  mY420VIC := mParser.mY420VIC
  mSupportedFormat := fun format => (videoFmt format).bind mParser.mSupportedFormat

def Parsed (sink : SinkInfo) : Prop :=
  ∃ mem depth s s', run (Edid.Memory.cells mem) (Edid.parse depth s) = some (0, s') ∧
    sink = sinkInfo s'

namespace SinkInfo

variable (sink : SinkInfo)

def Lists (format : Int32) : Prop := (sink.mSupportedFormat format).isSome

instance (format : Int32) : Decidable (sink.Lists format) := inferInstanceAs (Decidable (_ = true))

end SinkInfo

theorem Parsed.lists_rgb {sink : SinkInfo} (h : Parsed sink) : sink.Lists DISP_CSC_TYPE_RGB := by
  obtain ⟨mem, depth, s, s', hrun, rfl⟩ := h
  exact (Edid.parse_consistent hrun).rgb

/-- A mode that can be shown in YCbCr 4:2:0 comes with that format. -/
theorem Parsed.lists_yuv420 {sink : SinkInfo} (h : Parsed sink) {mode : Int32}
    (hmode : sink.isSupportY420Sampling mode) : sink.Lists DISP_CSC_TYPE_YUV420 := by
  obtain ⟨mem, depth, s, s', hrun, rfl⟩ := h
  have hformat : (s'.mSupportedFormat .YUV420).isSome := by
    apply (Edid.parse_consistent hrun).y420
    rw [SinkInfo.isSupportY420Sampling, Bool.or_eq_true] at hmode
    rcases hmode with hmarked | honly
    · right
      obtain ⟨v, hv, hv'⟩ := List.any_eq_true.mp hmarked
      rw [Bool.and_eq_true] at hv'
      exact ⟨v, hv, bne_iff_ne.mp hv'.2⟩
    · left
      obtain ⟨v, hv, -⟩ := List.any_eq_true.mp honly
      exact List.ne_nil_of_mem hv
  exact hformat

namespace SinkInfo

variable (sink : SinkInfo)

/-! ## The check -/

def supportedPixelFormat (mode format depth : Int32) : Bool :=
  if format ≠ DISP_CSC_TYPE_RGB ∧ (sink.mSinkType = SINK_TYPE_DVI ∨ sink.mRGBOnly) then false
  else if format = DISP_CSC_TYPE_YUV420 ∧ !sink.isSupportY420Sampling mode then false
  else match sink.mSupportedFormat format with
    | none => false
    | some fmt =>
        if depth = DISP_DATA_8BITS then true
        else if depth = DISP_DATA_10BITS then fmt.dc_30bit
        else if depth = DISP_DATA_12BITS then fmt.dc_36bit
        else if depth = DISP_DATA_16BITS then fmt.dc_48bit
        else false

/-! ## The corrections a second time -/

theorem correctedEotf_idem (eotf : Int32) :
    sink.correctedEotf (sink.correctedEotf eotf) = sink.correctedEotf eotf := by
  unfold correctedEotf
  split_ifs with h h'
  · exact absurd h'.1 (by decide)
  · rfl
  · rfl

theorem correctedEotf_supported {eotf : Int32}
    (h : sink.correctedEotf eotf = DISP_EOTF_SMPTE2084) : sink.supportedHDR := by
  unfold correctedEotf at h
  split_ifs at h with hold
  · exact absurd h (by decide)
  · by_contra hno
    exact hold ⟨h, by simpa using hno⟩

theorem preferredFormat_known (mode format : Int32) : Known (preferredFormat mode format) := by
  unfold preferredFormat
  split_ifs with hmode hknown
  · exact Or.inr (Or.inr (Or.inl rfl))
  · exact hknown
  · exact Or.inl rfl

theorem correctedFormat_known {mode preferred : Int32} (h : Known preferred) :
    Known (sink.correctedFormat mode preferred) := by
  unfold correctedFormat
  split_ifs
  · exact Or.inr (Or.inr (Or.inr rfl))
  · exact Or.inr (Or.inr (Or.inl rfl))
  · exact Or.inl rfl
  · exact h

theorem lacks420_iff (mode format : Int32) :
    format = DISP_CSC_TYPE_YUV420 ∧ !sink.isSupportY420Sampling mode ↔
      ¬ (format = DISP_CSC_TYPE_YUV420 → sink.isSupportY420Sampling mode) := by
  rw [Classical.not_imp, Bool.not_eq_true', Bool.not_eq_true]

theorem correctedFormat_of_free {mode : Int32} (hrgb : ¬ sink.OnlyRgb)
    (honly : ¬ sink.isOnlySupportY420Sampling mode) (preferred : Int32) :
    sink.correctedFormat mode preferred =
      if preferred = DISP_CSC_TYPE_YUV420 → sink.isSupportY420Sampling mode then preferred
      else DISP_CSC_TYPE_YUV444 := by
  rw [correctedFormat, if_neg hrgb, if_neg honly]
  simp only [lacks420_iff, ite_not]

theorem correctedFormat_idem (mode preferred : Int32) :
    sink.correctedFormat mode (sink.correctedFormat mode preferred) =
      sink.correctedFormat mode preferred := by
  by_cases hrgb : sink.OnlyRgb
  · rw [correctedFormat, correctedFormat, if_pos hrgb, if_pos hrgb]
  · by_cases honly : sink.isOnlySupportY420Sampling mode
    · rw [correctedFormat, correctedFormat, if_neg hrgb, if_neg hrgb, if_pos honly, if_pos honly]
    · rw [sink.correctedFormat_of_free hrgb honly, sink.correctedFormat_of_free hrgb honly]
      by_cases h420 : preferred = DISP_CSC_TYPE_YUV420 → sink.isSupportY420Sampling mode
      · rw [if_pos h420, if_pos h420]
      · rw [if_neg h420, if_pos fun h444 => absurd h444 (by decide)]

theorem correctedFormat_again (mode format : Int32) :
    sink.correctedFormat mode
        (preferredFormat mode (sink.correctedFormat mode (preferredFormat mode format))) =
      sink.correctedFormat mode (preferredFormat mode format) := by
  by_cases hmode : is2160P mode
  · -- the mode does not look at what it is given
    have hsame (f : Int32) : preferredFormat mode f = DISP_CSC_TYPE_YUV420 := by
      rw [preferredFormat, if_pos hmode]
    rw [hsame, hsame]
  · have hknown : Known (sink.correctedFormat mode (preferredFormat mode format)) :=
      sink.correctedFormat_known (preferredFormat_known mode format)
    rw [preferredFormat, if_neg hmode, if_pos hknown]
    exact sink.correctedFormat_idem mode _

theorem checkSamplingBits_eq (format bits : Int32) :
    sink.checkSamplingBits format bits = bits ∨
      sink.checkSamplingBits format bits = DISP_DATA_8BITS := by
  unfold checkSamplingBits
  split
  · exact Or.inr rfl
  · split <;> split_ifs <;> first | exact Or.inl rfl | exact Or.inr rfl

theorem checkSamplingBits_8bits (format : Int32) :
    sink.checkSamplingBits format DISP_DATA_8BITS = DISP_DATA_8BITS := if_pos rfl

theorem checkSamplingBits_idem (format bits : Int32) :
    sink.checkSamplingBits format (sink.checkSamplingBits format bits) =
      sink.checkSamplingBits format bits := by
  rcases sink.checkSamplingBits_eq format bits with h | h
  · rw [h, h]
  · rw [h, checkSamplingBits_8bits]

theorem correctedBits_idem (mode format bits : Int32) :
    sink.correctedBits mode format (sink.correctedBits mode format bits) =
      sink.correctedBits mode format bits := by
  unfold correctedBits
  split_ifs
  · rfl
  · exact sink.checkSamplingBits_idem format bits

theorem checkAndCorrectDeviceConfig_again (config : DispDeviceConfig) :
    (sink.checkAndCorrectDeviceConfig (sink.checkAndCorrectDeviceConfig config).1).1 =
      (sink.checkAndCorrectDeviceConfig config).1 := by
  rw [checkAndCorrectDeviceConfig_fst, checkAndCorrectDeviceConfig_fst]
  simp only [correctedFor, withMisc, correctedEotf_idem, correctedFormat_again,
    correctedBits_idem]

/-! ## What is checked of a corrected format -/

/-- The sink can show the format in the mode, and lists it. -/
structure Has (mode format : Int32) : Prop where
  rgb : format = DISP_CSC_TYPE_RGB ∨ ¬ sink.OnlyRgb
  y420 : format = DISP_CSC_TYPE_YUV420 → sink.isSupportY420Sampling mode
  listed : sink.Lists format

theorem yuvForRgb_iff (format : Int32) :
    format ≠ DISP_CSC_TYPE_RGB ∧ (sink.mSinkType = SINK_TYPE_DVI ∨ sink.mRGBOnly) ↔
      ¬ (format = DISP_CSC_TYPE_RGB ∨ ¬ sink.OnlyRgb) := by
  rw [not_or, not_not, OnlyRgb, or_comm]

theorem has_of_supportedPixelFormat {mode format depth : Int32}
    (h : sink.supportedPixelFormat mode format depth) : sink.Has mode format := by
  simp only [supportedPixelFormat, yuvForRgb_iff, lacks420_iff] at h
  split at h
  · cases h
  rename_i hrgb
  split at h
  · cases h
  rename_i h420
  refine ⟨not_not.mp hrgb, not_not.mp h420, ?_⟩
  show (sink.mSupportedFormat format).isSome
  cases hformat : sink.mSupportedFormat format with
  | none =>
      rw [hformat] at h
      exact absurd h Bool.false_ne_true
  | some fmt => rfl

theorem supportedPixelFormat_checked_iff (mode format bits : Int32) :
    sink.supportedPixelFormat mode format (sink.checkSamplingBits format bits) ↔
      sink.Has mode format := by
  constructor
  · exact sink.has_of_supportedPixelFormat
  · intro h
    simp only [supportedPixelFormat, yuvForRgb_iff, lacks420_iff]
    rw [if_neg (not_not.mpr h.rgb), if_neg (not_not.mpr h.y420)]
    obtain ⟨fmt, hformat⟩ := Option.isSome_iff_exists.mp h.listed
    rw [hformat]
    rcases sink.checkSamplingBits_eq format bits with hkept | h8
    · rw [hkept]
      simp only [checkSamplingBits, hformat] at hkept
      split_ifs at hkept ⊢ with h8 <;> first | rfl | assumption | exact absurd hkept.symm h8
    · rw [h8]
      exact if_pos rfl

theorem correctedFormat_rgb (mode preferred : Int32) :
    sink.correctedFormat mode preferred = DISP_CSC_TYPE_RGB ∨ ¬ sink.OnlyRgb := by
  by_cases hrgb : sink.OnlyRgb
  · exact Or.inl (if_pos hrgb)
  · exact Or.inr hrgb

theorem correctedFormat_y420 {mode preferred : Int32}
    (h : sink.correctedFormat mode preferred = DISP_CSC_TYPE_YUV420) :
    sink.isSupportY420Sampling mode := by
  unfold correctedFormat at h
  split_ifs at h with hrgb honly hno
  · exact absurd h (by decide)
  · rw [isSupportY420Sampling, honly, Bool.or_true]
  · exact absurd h (by decide)
  · rw [lacks420_iff, not_not] at hno
    exact hno h

/-- Of a corrected format only the list is left to check. -/
theorem has_correctedFormat_iff (mode preferred : Int32) :
    sink.Has mode (sink.correctedFormat mode preferred) ↔
      sink.Lists (sink.correctedFormat mode preferred) :=
  ⟨Has.listed, fun h => ⟨sink.correctedFormat_rgb mode preferred, sink.correctedFormat_y420, h⟩⟩

/-- The formats that the corrections take over without looking them up. -/
structure FormatListed (mode format : Int32) : Prop where
  /-- 4:4:4 stands in for 4:2:0 where the mode has no 4:2:0 timing, … -/
  y444 : is2160P mode ∨ format = DISP_CSC_TYPE_YUV420 → ¬ sink.isSupportY420Sampling mode →
    sink.Lists DISP_CSC_TYPE_YUV444
  /-- … and for a format that is none. -/
  unknown : ¬ is2160P mode → ¬ Known format → sink.Lists DISP_CSC_TYPE_YUV444
  /-- 4:4:4 and 4:2:2 are taken as they are asked for. -/
  asked : ¬ is2160P mode → format = DISP_CSC_TYPE_YUV444 ∨ format = DISP_CSC_TYPE_YUV422 →
    sink.Lists format

end SinkInfo

theorem Parsed.lists_correctedFormat {sink : SinkInfo} (h : Parsed sink) (mode format : Int32) :
    sink.Lists (sink.correctedFormat mode (SinkInfo.preferredFormat mode format)) ↔
      sink.OnlyRgb ∨ sink.isOnlySupportY420Sampling mode ∨ sink.FormatListed mode format := by
  by_cases hrgb : sink.OnlyRgb
  · rw [SinkInfo.correctedFormat, if_pos hrgb]
    exact iff_of_true h.lists_rgb (Or.inl hrgb)
  by_cases honly : sink.isOnlySupportY420Sampling mode
  · have hsupport : sink.isSupportY420Sampling mode := by
      rw [SinkInfo.isSupportY420Sampling, honly, Bool.or_true]
    rw [SinkInfo.correctedFormat, if_neg hrgb, if_pos honly]
    exact iff_of_true (h.lists_yuv420 hsupport) (Or.inr (Or.inl honly))
  rw [or_iff_right hrgb, or_iff_right honly, sink.correctedFormat_of_free hrgb honly]
  by_cases hmode : is2160P mode
  · -- whatever was asked for, it is 4:2:0 or else 4:4:4
    rw [SinkInfo.preferredFormat, if_pos hmode]
    by_cases hsupport : sink.isSupportY420Sampling mode
    · rw [if_pos fun _ => hsupport]
      exact iff_of_true (h.lists_yuv420 hsupport)
        ⟨fun _ hno => absurd hsupport hno, fun hno => absurd hmode hno, fun hno => absurd hmode hno⟩
    · rw [if_neg fun hno => hsupport (hno rfl)]
      exact ⟨fun hl => ⟨fun _ _ => hl, fun hno => absurd hmode hno, fun hno => absurd hmode hno⟩,
        fun hl => hl.y444 (Or.inl hmode) hsupport⟩
  rw [SinkInfo.preferredFormat, if_neg hmode]
  by_cases hknown : SinkInfo.Known format
  · rw [if_pos hknown]
    by_cases hkept : format = DISP_CSC_TYPE_YUV420 → sink.isSupportY420Sampling mode
    · rw [if_pos hkept]
      refine ⟨fun hl => ⟨fun h420 hno => ?_, fun _ hno => absurd hknown hno, fun _ _ => hl⟩,
        fun hl => ?_⟩
      -- every sink lists RGB, and 4:2:0 if it has a mode for it
      · exact absurd (hkept (h420.resolve_left hmode)) hno
      · rcases hknown with h444 | h422 | h420 | hrgb'
        · exact hl.asked hmode (Or.inl h444)
        · exact hl.asked hmode (Or.inr h422)
        · exact h420 ▸ h.lists_yuv420 (hkept h420)
        · exact hrgb' ▸ h.lists_rgb
    · rw [if_neg hkept]
      obtain ⟨h420, hno⟩ := Classical.not_imp.mp hkept
      refine ⟨fun hl => ⟨fun _ _ => hl, fun _ _ => hl, fun _ hasked => ?_⟩,
        fun hl => hl.y444 (Or.inr h420) hno⟩
      rw [h420] at hasked
      exact absurd hasked (by decide)
  · -- not one of the four formats: 4:4:4
    rw [if_neg hknown, if_pos fun h420 => absurd h420 (by decide)]
    refine ⟨fun hl => ⟨fun _ _ => hl, fun _ _ => hl, fun _ hasked => ?_⟩,
      fun hl => hl.unknown hmode hknown⟩
    exact absurd (hasked.elim Or.inl fun h422 => Or.inr (Or.inl h422)) hknown

/-! ## The corrected configuration -/

/-- The corrected configuration is one that the sink supports. -/
structure Supports (sink : SinkInfo) (config : DispDeviceConfig) : Prop where
  pixel : sink.supportedPixelFormat (sink.checkAndCorrectDeviceConfig config).1.mode
    (sink.checkAndCorrectDeviceConfig config).1.format
    (sink.checkAndCorrectDeviceConfig config).1.bits
  eotf : (sink.checkAndCorrectDeviceConfig config).1.eotf = DISP_EOTF_SMPTE2084 →
    sink.supportedHDR
  again : (sink.checkAndCorrectDeviceConfig (sink.checkAndCorrectDeviceConfig config).1).1 =
    (sink.checkAndCorrectDeviceConfig config).1

/-- The corrections look up the depth and the transfer function, and never the format. -/
theorem supports_iff {sink : SinkInfo} (h : Parsed sink) (config : DispDeviceConfig) :
    Supports sink config ↔ sink.OnlyRgb ∨ sink.isOnlySupportY420Sampling config.mode ∨
      sink.FormatListed config.mode config.format := by
  have hpixel : sink.supportedPixelFormat (sink.checkAndCorrectDeviceConfig config).1.mode
      (sink.checkAndCorrectDeviceConfig config).1.format
      (sink.checkAndCorrectDeviceConfig config).1.bits ↔
      sink.Lists (sink.correctedFormat config.mode
        (SinkInfo.preferredFormat config.mode config.format)) := by
    rw [SinkInfo.checkAndCorrectDeviceConfig_fst, ← sink.has_correctedFormat_iff]
    exact sink.supportedPixelFormat_checked_iff _ _ _
  rw [← h.lists_correctedFormat, ← hpixel]
  constructor
  · exact Supports.pixel
  · intro hp
    refine ⟨hp, fun heotf => ?_, sink.checkAndCorrectDeviceConfig_again config⟩
    rw [SinkInfo.checkAndCorrectDeviceConfig_fst] at heotf
    exact sink.correctedEotf_supported heotf

def sinkOf (mem : Edid.Memory) : SinkInfo :=
  match run mem.cells (Edid.parse 0 {}) with
  | some (_, s) => sinkInfo s
  | none => sinkInfo {}

theorem parsed_sinkOf {mem : Edid.Memory} (hedid : Edid.IsEdid mem)
    (hsome : (run mem.cells (Edid.parse 0 {})).isSome) : Parsed (sinkOf mem) := by
  obtain ⟨s', hrun⟩ := (Edid.parse_succeeds_iff hsome).mpr hedid
  exact ⟨mem, 0, {}, s', hrun, by rw [sinkOf, hrun]⟩

/-- An HDMI sink with a CEA block, which lists RGB and 4:2:2. -/
def rgbAnd422Edid : Edid.Memory := Edid.edidWith
  [(0x7E, 1), (0x7F, 5),
    (0x80, 2), (0x81, 3), (0x82, 0x0A), (0x83, 0x10), (0x84, 0x65), (0x85, 3), (0x86, 0x0C),
    (0x88, 0x10), (0xFF, 0x5D)]

theorem parsed_rgbAnd422Edid : Parsed (sinkOf rgbAnd422Edid) :=
  parsed_sinkOf (by decide +kernel) (by decide +kernel)

def config1080p (format bits : Int32) : DispDeviceConfig :=
  { type := DISP_OUTPUT_TYPE_HDMI, mode := DISP_TV_MOD_1080P_60HZ, format, bits,
    eotf := DISP_EOTF_GAMMA22, cs := DISP_BT709, dvi_hdmi := DISP_HDMI }

theorem supports_rgbAnd422Edid :
    Supports (sinkOf rgbAnd422Edid) (config1080p DISP_CSC_TYPE_YUV422 DISP_DATA_12BITS) :=
  (supports_iff parsed_rgbAnd422Edid _).mpr
    (Or.inr (Or.inr ⟨by decide +kernel, by decide +kernel, by decide +kernel⟩))

/-- 4:4:4 is kept for a sink that does not list it. -/
theorem not_supports_rgbAnd422Edid :
    ¬ ∀ sink, Parsed sink → ∀ config, Supports sink config := by
  intro hall
  have hpixel := (hall (sinkOf rgbAnd422Edid) parsed_rgbAnd422Edid
    (config1080p DISP_CSC_TYPE_YUV444 DISP_DATA_8BITS)).pixel
  exact absurd hpixel (by decide +kernel)

end AwHal.Displayd
