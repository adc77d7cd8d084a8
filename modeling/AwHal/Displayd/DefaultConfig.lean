import AwHal.Displayd.SupportedConfig
import AwHal.Lib.Corrections

/-!
# The configuration at boot

`checkAndCorrectDefaultDeviceConfig` keeps a pixel format that the sink shows, and counts what it
changes.  `performDefaultConfig` writes the result to the hardware if the count says so.
-/

namespace AwHal.Displayd

open AwHal.Lib

namespace SinkInfo

variable (sink : SinkInfo)

/-- The mode is only asked when the format does not pass the check. -/
def preferFormatIfUnsupported (c : DispDeviceConfig × Nat) : DispDeviceConfig × Nat :=
  if sink.supportedPixelFormat c.1.mode c.1.format c.1.bits = false then preferFormat c else c

def correctCounted (c : DispDeviceConfig × Nat) : DispDeviceConfig × Nat :=
  sink.correctBits (preferBits (sink.correctFormat (sink.preferFormatIfUnsupported
    (sink.correctColorspace (sink.correctEotf c)))))

def checkAndCorrectDefaultDeviceConfig (config : DispDeviceConfig) : DispDeviceConfig × Nat :=
  sink.correctMisc (sink.correctCounted (config, 0))

/-! ## The configuration -/

def askedFormat (mode format bits : Int32) : Int32 :=
  if sink.supportedPixelFormat mode format bits = false then preferredFormat mode format else format

theorem correctMisc_fst (c : DispDeviceConfig × Nat) : (sink.correctMisc c).1 = sink.withMisc c.1 :=
  rfl

theorem correctMisc_snd (c : DispDeviceConfig × Nat) : (sink.correctMisc c).2 = c.2 := rfl

theorem preferFormatIfUnsupported_fst (c : DispDeviceConfig × Nat) :
    (sink.preferFormatIfUnsupported c).1 =
      { c.1 with format := sink.askedFormat c.1.mode c.1.format c.1.bits } := by
  unfold preferFormatIfUnsupported askedFormat
  split
  · exact preferFormat_fst c
  · rfl

theorem checkAndCorrectDefaultDeviceConfig_fst (config : DispDeviceConfig) :
    (sink.checkAndCorrectDefaultDeviceConfig config).1 =
      sink.correctedFor (sink.askedFormat config.mode config.format config.bits) config := by
  rw [checkAndCorrectDefaultDeviceConfig, correctMisc_fst, correctCounted, correctBits_fst,
    preferBits_fst, correctFormat_fst, preferFormatIfUnsupported_fst, correctColorspace_fst,
    correctEotf_fst]
  rfl

/-! ## The count -/

theorem counts_correctEotf :
    Counts sink.correctEotf fun config =>
      ¬ (config.eotf = DISP_EOTF_SMPTE2084 ∧ !sink.supportedHDR) :=
  Counts.change (fun config : DispDeviceConfig =>
      config.eotf = DISP_EOTF_SMPTE2084 ∧ !sink.supportedHDR)
    fun config => { config with eotf := DISP_EOTF_GAMMA22 }

theorem counts_correctColorspace :
    Counts sink.correctColorspace fun config =>
      ¬ config.cs ≠ sink.correctedCs config.mode config.eotf :=
  Counts.change (fun config : DispDeviceConfig =>
      config.cs ≠ sink.correctedCs config.mode config.eotf)
    fun config => { config with cs := sink.correctedCs config.mode config.eotf }

theorem counts_correctFormat :
    Counts sink.correctFormat fun config =>
      ¬ config.format ≠ sink.correctedFormat config.mode config.format :=
  Counts.change (fun config : DispDeviceConfig =>
      config.format ≠ sink.correctedFormat config.mode config.format)
    fun config => { config with format := sink.correctedFormat config.mode config.format }

theorem counts_correctBits :
    Counts sink.correctBits fun config =>
      ¬ config.bits ≠ sink.checkSamplingBits config.format config.bits :=
  Counts.change (fun config : DispDeviceConfig =>
      config.bits ≠ sink.checkSamplingBits config.format config.bits)
    fun config => { config with bits := sink.checkSamplingBits config.format config.bits }

theorem counts_preferFormat :
    Counts preferFormat fun config =>
      preferredFormat config.mode config.format = config.format := by
  have h420 : Counts (fun c : DispDeviceConfig × Nat =>
      ({ c.1 with format := DISP_CSC_TYPE_YUV420 },
        if c.1.format ≠ DISP_CSC_TYPE_YUV420 then c.2 + 1 else c.2))
      fun config => ¬ config.format ≠ DISP_CSC_TYPE_YUV420 :=
    Counts.assign (fun config : DispDeviceConfig => config.format ≠ DISP_CSC_TYPE_YUV420)
      (fun config => { config with format := DISP_CSC_TYPE_YUV420 })
      fun config h => by rw [← not_not.mp h]
  have h444 := Counts.change (fun config : DispDeviceConfig =>
      config.format ≠ DISP_CSC_TYPE_YUV444 ∧ config.format ≠ DISP_CSC_TYPE_YUV422 ∧
        config.format ≠ DISP_CSC_TYPE_YUV420 ∧ config.format ≠ DISP_CSC_TYPE_RGB)
    fun config => { config with format := DISP_CSC_TYPE_YUV444 }
  refine (h420.branch (fun config => is2160P config.mode) h444).congr fun config => ?_
  unfold preferredFormat
  split
  · exact not_not.trans eq_comm
  · by_cases hknown : Known config.format
    · rw [if_pos hknown]
      unfold Known at hknown
      tauto
    · rw [if_neg hknown, eq_comm]
      unfold Known at hknown
      tauto

theorem counts_preferFormatIfUnsupported :
    Counts sink.preferFormatIfUnsupported fun config =>
      sink.askedFormat config.mode config.format config.bits = config.format := by
  refine (counts_preferFormat.branch (fun config => sink.supportedPixelFormat config.mode
    config.format config.bits = false) Counts.skip).congr fun config => ?_
  unfold askedFormat
  split
  · exact Iff.rfl
  · exact iff_of_true trivial rfl

theorem counts_preferBits :
    Counts preferBits fun config => is2160P config.mode → config.bits = DISP_DATA_8BITS := by
  have h8 : Counts (fun c : DispDeviceConfig × Nat =>
      ({ c.1 with bits := DISP_DATA_8BITS },
        if c.1.bits ≠ DISP_DATA_8BITS then c.2 + 1 else c.2))
      fun config => ¬ config.bits ≠ DISP_DATA_8BITS :=
    Counts.assign (fun config : DispDeviceConfig => config.bits ≠ DISP_DATA_8BITS)
      (fun config => { config with bits := DISP_DATA_8BITS })
      fun config h => by rw [← not_not.mp h]
  refine (h8.branch (fun config => is2160P config.mode) Counts.skip).congr fun config => ?_
  split <;> tauto

theorem counts_correctCounted :
    Counts sink.correctCounted fun config =>
      ((((¬ (config.eotf = DISP_EOTF_SMPTE2084 ∧ !sink.supportedHDR) ∧
        ¬ config.cs ≠ sink.correctedCs config.mode config.eotf) ∧
        sink.askedFormat config.mode config.format config.bits = config.format) ∧
        ¬ config.format ≠ sink.correctedFormat config.mode config.format) ∧
        (is2160P config.mode → config.bits = DISP_DATA_8BITS)) ∧
        ¬ config.bits ≠ sink.checkSamplingBits config.format config.bits :=
  sink.counts_correctBits.comp (counts_preferBits.comp (sink.counts_correctFormat.comp
    (sink.counts_preferFormatIfUnsupported.comp
      (sink.counts_correctColorspace.comp sink.counts_correctEotf))))

/-- Nothing is counted when each correction finds the field as it wants it. -/
theorem checkAndCorrectDefaultDeviceConfig_snd (config : DispDeviceConfig) :
    (sink.checkAndCorrectDefaultDeviceConfig config).2 = 0 ↔
      (config.eotf = DISP_EOTF_SMPTE2084 → sink.supportedHDR) ∧
      config.cs = sink.correctedCs config.mode config.eotf ∧
      sink.askedFormat config.mode config.format config.bits = config.format ∧
      config.format = sink.correctedFormat config.mode config.format ∧
      (is2160P config.mode → config.bits = DISP_DATA_8BITS) ∧
      config.bits = sink.checkSamplingBits config.format config.bits := by
  rw [checkAndCorrectDefaultDeviceConfig, correctMisc_snd, sink.counts_correctCounted.count,
    and_iff_right rfl]
  constructor
  · rintro ⟨⟨⟨⟨⟨heotf, hcs⟩, hasked⟩, hformat⟩, hmode⟩, hbits⟩
    refine ⟨fun h => ?_, not_not.mp hcs, hasked, not_not.mp hformat, hmode, not_not.mp hbits⟩
    by_contra hno
    exact heotf ⟨h, by rw [Bool.eq_false_of_not_eq_true hno]; rfl⟩
  · rintro ⟨heotf, hcs, hasked, hformat, hmode, hbits⟩
    refine ⟨⟨⟨⟨⟨fun h => ?_, not_not.mpr hcs⟩, hasked⟩, not_not.mpr hformat⟩, hmode⟩,
      not_not.mpr hbits⟩
    rw [heotf h.1] at h
    exact absurd h.2 (by decide)

/-! ## What is left alone -/

def DepthFits (format bits : Int32) : Prop :=
  bits = DISP_DATA_8BITS ∨
  bits = DISP_DATA_10BITS ∧ (∀ fmt ∈ sink.mSupportedFormat format, fmt.dc_30bit) ∨
  bits = DISP_DATA_12BITS ∧ (∀ fmt ∈ sink.mSupportedFormat format, fmt.dc_36bit) ∨
  bits = DISP_DATA_16BITS ∧ ∀ fmt ∈ sink.mSupportedFormat format, fmt.dc_48bit

def FormatFits (mode format : Int32) : Prop :=
  if sink.OnlyRgb then format = DISP_CSC_TYPE_RGB
  else if sink.isOnlySupportY420Sampling mode then format = DISP_CSC_TYPE_YUV420
  else Known format ∧ (format = DISP_CSC_TYPE_YUV420 → sink.isSupportY420Sampling mode) ∧
    (is2160P mode → format = DISP_CSC_TYPE_YUV420 ∨ sink.Lists format ∨
      format = DISP_CSC_TYPE_YUV444 ∧ ¬ sink.isSupportY420Sampling mode)

structure Settled (config : DispDeviceConfig) : Prop where
  eotf : config.eotf = DISP_EOTF_SMPTE2084 → sink.supportedHDR
  cs : config.cs = sink.correctedCs config.mode config.eotf
  format : sink.FormatFits config.mode config.format
  bits2160P : is2160P config.mode → config.bits = DISP_DATA_8BITS
  bits : sink.DepthFits config.format config.bits

/-- The fields that are not counted have the values that they are given. -/
structure MiscSet (config : DispDeviceConfig) : Prop where
  dvi_hdmi : config.dvi_hdmi = if sink.mSinkType = SINK_TYPE_DVI then DISP_DVI else DISP_HDMI
  range : config.range = if config.format = DISP_CSC_TYPE_RGB then DISP_COLOR_RANGE_0_255
    else DISP_COLOR_RANGE_16_235
  scan : config.scan = DISP_SCANINFO_NO_DATA
  aspect_ratio : config.aspect_ratio = 8

/-- The format goes from 4:4:4 to 4:2:0, which the mode prefers, and back, which the sink can show as
little: it counts as two changes. -/
structure ThereAndBack (mode format : Int32) : Prop where
  prefers420 : is2160P mode
  asks444 : format = DISP_CSC_TYPE_YUV444
  ycbcr : ¬ sink.OnlyRgb
  no420 : ¬ sink.isSupportY420Sampling mode
  unlisted : ¬ sink.Lists DISP_CSC_TYPE_YUV444

theorem depthFits_iff (format bits : Int32) :
    bits = sink.checkSamplingBits format bits ↔ sink.DepthFits format bits := by
  have h1012 : DISP_DATA_10BITS ≠ DISP_DATA_12BITS := by decide
  have h1016 : DISP_DATA_10BITS ≠ DISP_DATA_16BITS := by decide
  have h1216 : DISP_DATA_12BITS ≠ DISP_DATA_16BITS := by decide
  cases hformat : sink.mSupportedFormat format with
  | none =>
      simp only [DepthFits, checkSamplingBits, hformat, Option.mem_def, reduceCtorEq, false_imp_iff,
        implies_true, and_true]
      split_ifs <;> tauto
  | some fmt =>
      simp only [DepthFits, checkSamplingBits, hformat, Option.mem_def, Option.some.injEq,
        forall_eq']
      split_ifs with h8 h10 hdc h12 hdc h16 hdc
      · exact iff_of_true h8 (Or.inl h8)
      · exact iff_of_true rfl (Or.inr (Or.inl ⟨h10, hdc⟩))
      · subst h10
        tauto
      · exact iff_of_true rfl (Or.inr (Or.inr (Or.inl ⟨h12, hdc⟩)))
      · subst h12
        tauto
      · exact iff_of_true rfl (Or.inr (Or.inr (Or.inr ⟨h16, hdc⟩)))
      · tauto
      · tauto

theorem correctedBits_eq_iff (mode format bits : Int32) :
    sink.correctedBits mode format bits = bits ↔
      (is2160P mode → bits = DISP_DATA_8BITS) ∧ bits = sink.checkSamplingBits format bits := by
  rw [correctedBits]
  by_cases hmode : is2160P mode
  · rw [if_pos hmode, checkSamplingBits_8bits]
    constructor
    · rintro rfl
      exact ⟨fun _ => rfl, (sink.checkSamplingBits_8bits format).symm⟩
    · exact fun h => (h.1 hmode).symm
  · rw [if_neg hmode, eq_comm]
    exact (and_iff_right fun h => absurd h hmode).symm

theorem checkAndCorrectDefaultDeviceConfig_unchanged_iff (config : DispDeviceConfig) :
    (sink.checkAndCorrectDefaultDeviceConfig config).1 = config ↔
      ((config.eotf = DISP_EOTF_SMPTE2084 → sink.supportedHDR) ∧
      config.cs = sink.correctedCs config.mode config.eotf ∧
      config.format = sink.correctedFormat config.mode
        (sink.askedFormat config.mode config.format config.bits) ∧
      (is2160P config.mode → config.bits = DISP_DATA_8BITS) ∧
      config.bits = sink.checkSamplingBits config.format config.bits) ∧ sink.MiscSet config := by
  rw [checkAndCorrectDefaultDeviceConfig_fst]
  generalize sink.askedFormat config.mode config.format config.bits = asked
  constructor
  · intro h
    have heotf : sink.correctedEotf config.eotf = config.eotf := congrArg DispDeviceConfig.eotf h
    have hcs : sink.correctedCs config.mode (sink.correctedEotf config.eotf) = config.cs :=
      congrArg DispDeviceConfig.cs h
    -- the depth and the range go by the format after the corrections
    have hformat : sink.correctedFormat config.mode asked = config.format :=
      congrArg DispDeviceConfig.format h
    have hbits : sink.correctedBits config.mode (sink.correctedFormat config.mode asked)
        config.bits = config.bits := congrArg DispDeviceConfig.bits h
    have hrange : (if sink.correctedFormat config.mode asked = DISP_CSC_TYPE_RGB then
        DISP_COLOR_RANGE_0_255 else DISP_COLOR_RANGE_16_235) = config.range :=
      congrArg DispDeviceConfig.range h
    rw [heotf] at hcs
    rw [hformat] at hbits hrange
    obtain ⟨hmode, hchecked⟩ := (sink.correctedBits_eq_iff _ _ _).mp hbits
    refine ⟨⟨fun h2084 => ?_, hcs.symm, hformat.symm, hmode, hchecked⟩, ?_⟩
    · exact sink.correctedEotf_supported (heotf.trans h2084)
    · exact ⟨(congrArg DispDeviceConfig.dvi_hdmi h).symm, hrange.symm,
        (congrArg DispDeviceConfig.scan h).symm, (congrArg DispDeviceConfig.aspect_ratio h).symm⟩
  · rintro ⟨⟨heotf, hcs, hformat, hmode, hchecked⟩, hmisc⟩
    have heotf' : sink.correctedEotf config.eotf = config.eotf := by
      rw [correctedEotf, if_neg]
      rintro ⟨h2084, hno⟩
      rw [heotf h2084] at hno
      exact absurd hno (by decide)
    have hbits := (sink.correctedBits_eq_iff _ _ _).mpr ⟨hmode, hchecked⟩
    simp only [correctedFor, withMisc, heotf', ← hformat, hbits, ← hcs, ← hmisc.dvi_hdmi,
      ← hmisc.range, ← hmisc.scan, ← hmisc.aspect_ratio]

theorem supportedPixelFormat_8bits_iff (mode format : Int32) :
    sink.supportedPixelFormat mode format DISP_DATA_8BITS ↔ sink.Has mode format := by
  rw [← sink.supportedPixelFormat_checked_iff mode format DISP_DATA_8BITS, checkSamplingBits_8bits]

variable {sink} in
theorem FormatFits.known {mode format : Int32} (h : sink.FormatFits mode format) :
    Known format := by
  unfold FormatFits at h
  split_ifs at h
  · exact Or.inr (Or.inr (Or.inr h))
  · exact Or.inr (Or.inr (Or.inl h))
  · exact h.1

end SinkInfo

namespace Parsed

variable {sink : SinkInfo}

theorem known_of_lists (h : Parsed sink) {format : Int32} (hl : sink.Lists format) :
    SinkInfo.Known format := by
  obtain ⟨mem, depth, s, s', -, rfl⟩ := h
  by_contra hno
  have hnone : videoFmt format = none := by
    unfold SinkInfo.Known at hno
    unfold videoFmt
    split_ifs <;> tauto
  have hnot : (sinkInfo s').mSupportedFormat format = none := by
    show (videoFmt format).bind _ = none
    rw [hnone]
    rfl
  rw [SinkInfo.Lists, hnot] at hl
  exact absurd hl (by decide)

theorem askedFormat_of_known {mode format bits : Int32} (hmode : ¬ is2160P mode)
    (hknown : SinkInfo.Known format) : sink.askedFormat mode format bits = format := by
  rw [SinkInfo.askedFormat, SinkInfo.preferredFormat, if_neg hmode, if_pos hknown, ite_self]

theorem askedFormat_of_2160P {mode format bits : Int32} (hmode : is2160P mode)
    (hbits : bits = DISP_DATA_8BITS) [Decidable (sink.Has mode format)] :
    sink.askedFormat mode format bits =
      if sink.Has mode format then format else DISP_CSC_TYPE_YUV420 := by
  subst hbits
  rw [SinkInfo.askedFormat, SinkInfo.preferredFormat, if_pos hmode]
  by_cases hhas : sink.Has mode format
  · rw [if_pos hhas, (sink.supportedPixelFormat_8bits_iff mode format).mpr hhas, if_neg (by decide)]
  · rw [if_neg hhas, if_pos]
    rw [← Bool.not_eq_true, sink.supportedPixelFormat_8bits_iff]
    exact hhas

/-- At 2160P a listed format stays, and 4:2:0 takes the place of every other one if the sink has it. -/
theorem format_fixed_2160P_iff (h : Parsed sink) {mode format : Int32} (hmode : is2160P mode)
    (hrgb : ¬ sink.OnlyRgb) (honly : ¬ sink.isOnlySupportY420Sampling mode) :
    format = sink.correctedFormat mode (sink.askedFormat mode format DISP_DATA_8BITS) ↔
      sink.FormatFits mode format := by
  classical
  rw [SinkInfo.FormatFits, if_neg hrgb, if_neg honly, sink.correctedFormat_of_free hrgb honly,
    askedFormat_of_2160P hmode rfl]
  by_cases hhas : sink.Has mode format
  · -- a format that passes the check is neither replaced by the mode nor by the sink
    rw [if_pos hhas, if_pos hhas.y420]
    exact iff_of_true rfl ⟨h.known_of_lists hhas.listed, hhas.y420,
      fun _ => Or.inr (Or.inl hhas.listed)⟩
  rw [if_neg hhas]
  by_cases hsupport : sink.isSupportY420Sampling mode
  · rw [if_pos fun _ => hsupport]
    constructor
    · rintro rfl
      exact ⟨Or.inr (Or.inr (Or.inl rfl)), fun _ => hsupport, fun _ => Or.inl rfl⟩
    · rintro ⟨-, hy420, hlisted⟩
      rcases hlisted hmode with h420 | hl | ⟨-, hno⟩
      · exact h420
      · exact absurd ⟨Or.inr hrgb, hy420, hl⟩ hhas
      · exact absurd hsupport hno
  · rw [if_neg fun hno => hsupport (hno rfl)]
    constructor
    · rintro rfl
      exact ⟨Or.inl rfl, fun h420 => absurd h420 (by decide),
        fun _ => Or.inr (Or.inr ⟨rfl, hsupport⟩)⟩
    · rintro ⟨-, hy420, hlisted⟩
      rcases hlisted hmode with h420 | hl | ⟨h444, -⟩
      · exact absurd (hy420 h420) hsupport
      · exact absurd ⟨Or.inr hrgb, hy420, hl⟩ hhas
      · exact h444

/-- In the other modes a known format stays, but for a 4:2:0 that the sink does not have. -/
theorem format_fixed_other_iff (h : Parsed sink) {mode format bits : Int32} (hmode : ¬ is2160P mode)
    (hrgb : ¬ sink.OnlyRgb) (honly : ¬ sink.isOnlySupportY420Sampling mode) :
    format = sink.correctedFormat mode (sink.askedFormat mode format bits) ↔
      sink.FormatFits mode format := by
  classical
  rw [SinkInfo.FormatFits, if_neg hrgb, if_neg honly, sink.correctedFormat_of_free hrgb honly]
  by_cases hknown : SinkInfo.Known format
  · rw [askedFormat_of_known hmode hknown]
    constructor
    · intro hformat
      refine ⟨hknown, ?_, fun hno => absurd hno hmode⟩
      by_contra hno
      rw [if_neg hno] at hformat
      exact hno fun h420 => absurd (hformat.symm.trans h420) (by decide)
    · rintro ⟨-, hy420, -⟩
      rw [if_pos hy420]
  · -- what the sink does not know is not listed either, and 4:4:4 takes its place
    have hunsupported : sink.supportedPixelFormat mode format bits = false := by
      rw [← Bool.not_eq_true]
      exact fun hs => hknown (h.known_of_lists (sink.has_of_supportedPixelFormat hs).listed)
    rw [SinkInfo.askedFormat, if_pos hunsupported, SinkInfo.preferredFormat, if_neg hmode,
      if_neg hknown, if_pos fun h420 => absurd h420 (by decide)]
    exact iff_of_false (fun h444 => hknown (Or.inl h444)) fun hfits => hknown hfits.1

theorem format_fixed_iff (h : Parsed sink) {mode format bits : Int32}
    (hbits : is2160P mode → bits = DISP_DATA_8BITS) :
    format = sink.correctedFormat mode (sink.askedFormat mode format bits) ↔
      sink.FormatFits mode format := by
  by_cases hrgb : sink.OnlyRgb
  · rw [SinkInfo.FormatFits, if_pos hrgb, SinkInfo.correctedFormat, if_pos hrgb]
  by_cases honly : sink.isOnlySupportY420Sampling mode
  · rw [SinkInfo.FormatFits, if_neg hrgb, if_pos honly, SinkInfo.correctedFormat, if_neg hrgb,
      if_pos honly]
  by_cases hmode : is2160P mode
  · rw [hbits hmode]
    exact h.format_fixed_2160P_iff hmode hrgb honly
  · exact h.format_fixed_other_iff hmode hrgb honly

/-- What fits a mode that prefers 4:2:0: that, a format that the sink has, or 4:4:4 for want of
both. -/
theorem fits_2160P (h : Parsed sink) {mode format : Int32} (hmode : is2160P mode)
    (hfits : sink.FormatFits mode format) :
    format = DISP_CSC_TYPE_YUV420 ∨ sink.Has mode format ∨ sink.ThereAndBack mode format := by
  unfold SinkInfo.FormatFits at hfits
  split_ifs at hfits with hrgb honly
  · subst hfits
    exact Or.inr (Or.inl ⟨Or.inl rfl, fun h420 => absurd h420 (by decide), h.lists_rgb⟩)
  · exact Or.inl hfits
  · obtain ⟨-, hy420, hlisted⟩ := hfits
    rcases hlisted hmode with h420 | hl | ⟨h444, hno⟩
    · exact Or.inl h420
    · exact Or.inr (Or.inl ⟨Or.inr hrgb, hy420, hl⟩)
    · subst h444
      by_cases hl : sink.Lists DISP_CSC_TYPE_YUV444
      · exact Or.inr (Or.inl ⟨Or.inr hrgb, hy420, hl⟩)
      · exact Or.inr (Or.inr ⟨hmode, rfl, hrgb, hno, hl⟩)

theorem askedFormat_eq_iff (h : Parsed sink) {mode format bits : Int32}
    (hbits : is2160P mode → bits = DISP_DATA_8BITS) (hfits : sink.FormatFits mode format) :
    sink.askedFormat mode format bits = format ↔ ¬ sink.ThereAndBack mode format := by
  classical
  by_cases hmode : is2160P mode
  · rw [askedFormat_of_2160P hmode (hbits hmode)]
    by_cases hhas : sink.Has mode format
    · rw [if_pos hhas]
      exact iff_of_true rfl fun hback => hback.unlisted (hback.asks444 ▸ hhas.listed)
    · rw [if_neg hhas]
      rcases h.fits_2160P hmode hfits with h420 | hhas' | hback
      · rw [h420]
        exact iff_of_true rfl fun hback => absurd hback.asks444 (by decide)
      · exact absurd hhas' hhas
      · rw [hback.asks444]
        exact iff_of_false (by decide) (not_not_intro (hback.asks444 ▸ hback))
  · exact iff_of_true (askedFormat_of_known hmode hfits.known)
      fun hback => hmode hback.prefers420

theorem count_eq_zero_iff (h : Parsed sink) (config : DispDeviceConfig) :
    (sink.checkAndCorrectDefaultDeviceConfig config).2 = 0 ↔
      sink.Settled config ∧ ¬ sink.ThereAndBack config.mode config.format := by
  rw [SinkInfo.checkAndCorrectDefaultDeviceConfig_snd]
  constructor
  · rintro ⟨heotf, hcs, hasked, hformat, hmode, hbits⟩
    have hfits : sink.FormatFits config.mode config.format := by
      rw [← h.format_fixed_iff hmode, hasked]
      exact hformat
    exact ⟨⟨heotf, hcs, hfits, hmode, (sink.depthFits_iff _ _).mp hbits⟩,
      (h.askedFormat_eq_iff hmode hfits).mp hasked⟩
  · rintro ⟨hset, hback⟩
    have hasked := (h.askedFormat_eq_iff hset.bits2160P hset.format).mpr hback
    have hformat := (h.format_fixed_iff hset.bits2160P).mpr hset.format
    rw [hasked] at hformat
    exact ⟨hset.eotf, hset.cs, hasked, hformat, hset.bits2160P,
      (sink.depthFits_iff _ _).mpr hset.bits⟩

theorem unchanged_iff (h : Parsed sink) (config : DispDeviceConfig) :
    (sink.checkAndCorrectDefaultDeviceConfig config).1 = config ↔
      sink.Settled config ∧ sink.MiscSet config := by
  rw [SinkInfo.checkAndCorrectDefaultDeviceConfig_unchanged_iff]
  refine and_congr_left fun _ => ?_
  constructor
  · rintro ⟨heotf, hcs, hformat, hmode, hbits⟩
    exact ⟨heotf, hcs, (h.format_fixed_iff hmode).mp hformat, hmode,
      (sink.depthFits_iff _ _).mp hbits⟩
  · intro hset
    exact ⟨hset.eotf, hset.cs, (h.format_fixed_iff hset.bits2160P).mpr hset.format, hset.bits2160P,
      (sink.depthFits_iff _ _).mpr hset.bits⟩

end Parsed

/-- The count says whether a field has changed. -/
def CountsChanges (sink : SinkInfo) (config : DispDeviceConfig) : Prop :=
  (sink.checkAndCorrectDefaultDeviceConfig config).2 = 0 ↔
    (sink.checkAndCorrectDefaultDeviceConfig config).1 = config

theorem countsChanges_iff {sink : SinkInfo} (h : Parsed sink) (config : DispDeviceConfig) :
    CountsChanges sink config ↔ ¬ sink.Settled config ∨
      (sink.MiscSet config ↔ ¬ sink.ThereAndBack config.mode config.format) := by
  rw [CountsChanges, h.count_eq_zero_iff, h.unchanged_iff, and_congr_right_iff, ← imp_iff_not_or]
  exact imp_congr_right fun _ => iff_comm

/-- The sink lists what is asked for, and the cable is still driven as for a DVI sink. -/
def dviConfig : DispDeviceConfig :=
  { config1080p DISP_CSC_TYPE_RGB DISP_DATA_8BITS with
    dvi_hdmi := DISP_DVI, range := DISP_COLOR_RANGE_0_255, aspect_ratio := 8 }

theorem countsChanges_hdmi :
    CountsChanges (sinkOf rgbAnd422Edid) { dviConfig with dvi_hdmi := DISP_HDMI } := by
  refine (countsChanges_iff parsed_rgbAnd422Edid _).mpr (Or.inr (iff_of_true ?_ ?_))
  · exact ⟨by decide +kernel, rfl, rfl, rfl⟩
  · exact fun hback => absurd hback.prefers420 (by decide)

/-- The output goes over to HDMI, and nothing is counted. -/
theorem not_countsChanges_dvi :
    ¬ ∀ sink, Parsed sink → ∀ config, CountsChanges sink config := by
  intro hall
  have hcounts := hall (sinkOf rgbAnd422Edid) parsed_rgbAnd422Edid dviConfig
  have hzero : ((sinkOf rgbAnd422Edid).checkAndCorrectDefaultDeviceConfig dviConfig).2 = 0 := by
    decide +kernel
  exact absurd (hcounts.mp hzero) (by decide +kernel)

/-! ## `performDefaultConfig` -/

section PerformDefaultConfig

variable (sink : SinkInfo) (checkModeSupport : Int32 → Bool) (performOptimalMode : Int32)

/-- The output is HDMI, and the mode of the boot loader stays if it can. -/
def startConfig (c : DispDeviceConfig × Nat) : DispDeviceConfig × Nat :=
  let c := if c.1.type ≠ DISP_OUTPUT_TYPE_HDMI then
    ({ c.1 with type := DISP_OUTPUT_TYPE_HDMI }, c.2 + 1) else c
  if checkModeSupport c.1.mode = false then ({ c.1 with mode := performOptimalMode }, c.2 + 1)
  else c

def selectEotf (c : DispDeviceConfig × Nat) : DispDeviceConfig × Nat :=
  if c.1.eotf ≠ DISP_EOTF_GAMMA22 ∧ c.1.eotf ≠ DISP_EOTF_SMPTE2084 then
    ({ c.1 with eotf := DISP_EOTF_GAMMA22 }, c.2 + 1)
  else c

/-- The new configuration, and the one that the hardware is left with. -/
def performDefaultConfig (config : DispDeviceConfig) : DispDeviceConfig × DispDeviceConfig :=
  let start := startConfig checkModeSupport performOptimalMode (config, 0)
  let corrected := sink.checkAndCorrectDefaultDeviceConfig start.1
  let c := selectEotf (corrected.1, start.2 + corrected.2)
  (c.1, if 0 < c.2 then c.1 else config)

theorem counts_startConfig :
    Counts (startConfig checkModeSupport performOptimalMode) fun config =>
      ¬ config.type ≠ DISP_OUTPUT_TYPE_HDMI ∧ ¬ checkModeSupport config.mode = false :=
  (Counts.change (fun config : DispDeviceConfig => checkModeSupport config.mode = false)
    fun config => { config with mode := performOptimalMode }).comp
  (Counts.change (fun config : DispDeviceConfig => config.type ≠ DISP_OUTPUT_TYPE_HDMI)
    fun config => { config with type := DISP_OUTPUT_TYPE_HDMI })

theorem counts_selectEotf :
    Counts selectEotf fun config =>
      ¬ (config.eotf ≠ DISP_EOTF_GAMMA22 ∧ config.eotf ≠ DISP_EOTF_SMPTE2084) :=
  Counts.change (fun config : DispDeviceConfig =>
      config.eotf ≠ DISP_EOTF_GAMMA22 ∧ config.eotf ≠ DISP_EOTF_SMPTE2084)
    fun config => { config with eotf := DISP_EOTF_GAMMA22 }

/-- As long as the corrections count what they change, the new configuration reaches the hardware. -/
theorem performDefaultConfig_programmed {config : DispDeviceConfig}
    (h : CountsChanges sink (startConfig checkModeSupport performOptimalMode (config, 0)).1) :
    (performDefaultConfig sink checkModeSupport performOptimalMode config).2 =
      (performDefaultConfig sink checkModeSupport performOptimalMode config).1 := by
  unfold performDefaultConfig
  dsimp only
  split
  · rfl
  · rename_i hzero
    obtain ⟨hsum, heotf⟩ := (counts_selectEotf.count _).mp (Nat.eq_zero_of_not_pos hzero)
    obtain ⟨hstart, hcorrected⟩ := Nat.add_eq_zero_iff.mp hsum
    have hstart' := ((counts_startConfig checkModeSupport performOptimalMode).count _).mp hstart
    rw [counts_selectEotf.kept _ heotf]
    -- nothing was counted, so each step has left the configuration that the hardware has
    show config = _
    rw [h.mp hcorrected, (counts_startConfig checkModeSupport performOptimalMode).kept _ hstart'.2]

end PerformDefaultConfig

end AwHal.Displayd
