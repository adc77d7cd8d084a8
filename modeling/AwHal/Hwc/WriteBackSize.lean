import AwHal.Displayd.DeviceConfig
import AwHal.Hwc.Alignment

/-!
# The size of a write-back image

`NormalWriteBackDisp2::setupByDriver` describes the image that the hardware writes back, and the buffers
for it are allocated in the constructor.
-/

namespace AwHal.Hwc

open AwHal.Displayd

/-! ## Data -/

def SCWD : Int32 := 1280
def SCHG : Int32 := 720

def DISP_FORMAT_ABGR_8888 : Nat := 0x01
def DISP_FORMAT_YUV420_P : Nat := 0x48

structure PlaneInfo where
  alloc_width : Int32
  alloc_height : Int32
  byte_stride : Int32
  offset : Int32
deriving DecidableEq, Repr

/-- What `setupByDriver` writes of a `private_handle_t`. -/
structure WriteBackHandle where
  format : Int
  aw_byte_align : Int32 × Int32 × Int32
  width : Int32
  height : Int32
  stride : Int32
  size : Int32
  plane_info : PlaneInfo
deriving DecidableEq, Repr

structure NormalWriteBackDisp2 where
  mCurW : Int32 := 0
  mCurH : Int32 := 0
  mVarWidth : Int32 := SCWD
  mVarHeight : Int32 := SCHG
  mHpercent : Int32 := 100
  mVpercent : Int32 := 100
  mFormat : Nat := DISP_FORMAT_ABGR_8888
  mCnfChanged : Bool := false
deriving DecidableEq, Repr

def bufferSize : Int32 := SCWD * SCHG * 4

/-- The display sends one field of each image at a time. -/
def Interlaced (devCfg : DispDeviceConfig) : Prop :=
  DISP_OUTPUT_TYPE_LCD.toUInt32 < devCfg.type.toUInt32 ∧
    (devCfg.mode = DISP_TV_MOD_480I ∨ devCfg.mode = DISP_TV_MOD_576I ∨
      devCfg.mode = DISP_TV_MOD_1080I_50HZ ∨ devCfg.mode = DISP_TV_MOD_1080I_60HZ)

instance (devCfg : DispDeviceConfig) : Decidable (Interlaced devCfg) :=
  inferInstanceAs (Decidable (_ ∧ _))

/-! ## `setupByDriver` -/

namespace NormalWriteBackDisp2

/-- Write-back cannot scale up. -/
def clampedSize (w : NormalWriteBackDisp2) : Int32 × Int32 :=
  if w.mVarWidth > SCWD ∨ w.mVarHeight > SCHG then (SCWD, SCHG) else (w.mVarWidth, w.mVarHeight)

def curSize (w : NormalWriteBackDisp2) (devCfg : DispDeviceConfig) : Int32 × Int32 :=
  let (mCurW, mCurH) := w.clampedSize
  if Interlaced devCfg then (mCurW, mCurH / 2) else (mCurW, mCurH)

def yuvHandle (width height : Int32) : WriteBackHandle :=
  let stride := (HWC_ALIGN width 32).toInt32
  let size := HWC_ALIGN height 32 * stride.toInt64 +
    2 * HWC_ALIGN (width / 2) 16 * HWC_ALIGN (height / 2) 16
  { format := HAL_PIXEL_FORMAT_YV12
    aw_byte_align := (32, 16, 16)
    width, height, stride
    size := size.toInt32
    plane_info := { alloc_width := width, alloc_height := height, byte_stride := stride, offset := 0 } }

/-- Here `handle->width` becomes the stride. -/
def rgbHandle (width height : Int32) : WriteBackHandle :=
  let stride := (HWC_ALIGN width 64).toInt32
  let size := HWC_ALIGN stride 64 * HWC_ALIGN height 64 * 32 / 8
  { format := HAL_PIXEL_FORMAT_RGBA_8888
    aw_byte_align := (64, 0, 0)
    width := stride, height, stride
    size := size.toInt32
    plane_info := { alloc_width := stride, alloc_height := height, byte_stride := stride, offset := 0 } }

/-- The arguments are the answers to the two calls of `getDeviceConfig`; the second one is made when the
first one fails. -/
def deviceConfig (first second : Option DispDeviceConfig) : Option DispDeviceConfig :=
  match first with
  | some devCfg => some devCfg
  | none => second

def setupByDriver (w : NormalWriteBackDisp2) (first second : Option DispDeviceConfig) :
    Option (NormalWriteBackDisp2 × WriteBackHandle) :=
  match deviceConfig first second with
  | none => none
  | some devCfg =>
      let (mCurW, mCurH) := w.curSize devCfg
      let mFormat :=
        if devCfg.format = DISP_CSC_TYPE_RGB then DISP_FORMAT_ABGR_8888 else DISP_FORMAT_YUV420_P
      let width := mCurW * w.mHpercent / 100
      let height := mCurH * w.mVpercent / 100
      some
        ({ w with
            mCurW, mCurH, mFormat
            mCnfChanged := w.mCnfChanged || w.mFormat != mFormat },
          if mFormat = DISP_FORMAT_YUV420_P then yuvHandle width height else rgbHandle width height)

/-! ## Bounds -/

def Within (size : Int32 × Int32) (w h : Int) : Prop :=
  (0 ≤ size.1.toInt ∧ size.1.toInt ≤ w) ∧ 0 ≤ size.2.toInt ∧ size.2.toInt ≤ h

variable {w : NormalWriteBackDisp2}

theorem clampedSize_within (hwidth : 0 ≤ w.mVarWidth.toInt) (hheight : 0 ≤ w.mVarHeight.toInt) :
    Within w.clampedSize 1280 720 := by
  have hw : SCWD.toInt = 1280 := by decide
  have hh : SCHG.toInt = 720 := by decide
  unfold clampedSize
  split
  · show (0 ≤ SCWD.toInt ∧ SCWD.toInt ≤ 1280) ∧ 0 ≤ SCHG.toInt ∧ SCHG.toInt ≤ 720
    omega
  · rename_i hsmall
    rw [not_or, Int32.not_lt, Int32.not_lt, Int32.le_iff_toInt_le, Int32.le_iff_toInt_le] at hsmall
    show (0 ≤ w.mVarWidth.toInt ∧ w.mVarWidth.toInt ≤ 1280) ∧
      0 ≤ w.mVarHeight.toInt ∧ w.mVarHeight.toInt ≤ 720
    omega

theorem toInt_half {x : Int32} (hx : 0 ≤ x.toInt) : (x / 2).toInt = x.toInt / 2 := by
  have htwo : (2 : Int32).toInt = 2 := by decide
  rw [Int32.toInt_div_of_ne_right _ _ (by decide), htwo, Int.tdiv_eq_ediv_of_nonneg hx]

theorem toInt_percent {x p : Int32} (hx : 0 ≤ x.toInt) (hx' : x.toInt ≤ 1280) (hp : 0 ≤ p.toInt)
    (hp' : p.toInt ≤ 100) : (x * p / 100).toInt = x.toInt * p.toInt / 100 := by
  have hmul : 0 ≤ x.toInt * p.toInt := Int.mul_nonneg hx hp
  have hle : x.toInt * p.toInt ≤ 1280 * 100 := by
    calc x.toInt * p.toInt ≤ 1280 * p.toInt := Int.mul_le_mul_of_nonneg_right hx' hp
      _ ≤ 1280 * 100 := Int.mul_le_mul_of_nonneg_left hp' (by decide)
  have hprod : (x * p).toInt = x.toInt * p.toInt := by
    rw [Int32.toInt_mul, Int.bmod_eq_of_le (by omega) (by omega)]
  have hhundred : (100 : Int32).toInt = 100 := by decide
  rw [Int32.toInt_div_of_ne_right _ _ (by decide), hhundred, hprod,
    Int.tdiv_eq_ediv_of_nonneg hmul]

def roundUp (a x : Int) : Int := (x + a - 1) / a * a

theorem toInt_align {x a : Int32} {k : Nat} (hx : 0 ≤ x.toInt) (hx' : x.toInt ≤ 1280)
    (ha : a.toInt = (2 ^ k : Nat)) (hsmall : a.toInt ≤ 64) :
    (HWC_ALIGN x a).toInt = roundUp a.toInt x.toInt ∧
      (HWC_ALIGN x a).toInt32.toInt = roundUp a.toInt x.toInt := by
  have hpos := Nat.two_pow_pos k
  have heq := toInt_HWC_ALIGN_two_pow hx ha (by omega)
  obtain ⟨hle, hlt⟩ := toInt_HWC_ALIGN (a := a) hx (by omega) (by omega)
  refine ⟨heq, ?_⟩
  rw [Int64.toInt_toInt32, Int.bmod_eq_of_le (by omega) (by omega)]
  exact heq

theorem toInt_rgbHandle_size {width height : Int32} (h : Within (width, height) 1280 720) :
    (rgbHandle width height).size.toInt =
      4 * (roundUp 64 width.toInt * roundUp 64 height.toInt) := by
  obtain ⟨⟨hw, hw'⟩, hh, hh'⟩ := h
  dsimp only at hw hw' hh hh'
  have h64 : (64 : Int32).toInt = 64 := by decide
  obtain ⟨-, hstride⟩ := toInt_align (a := 64) (k := 6) hw hw' h64 (by decide)
  obtain ⟨hheight, -⟩ := toInt_align (a := 64) (k := 6) hh (by omega) h64 (by decide)
  rw [h64] at hstride hheight
  have hwidth : 0 ≤ roundUp 64 width.toInt ∧ roundUp 64 width.toInt ≤ 1280 := by
    unfold roundUp
    omega
  have hlines : 0 ≤ roundUp 64 height.toInt ∧ roundUp 64 height.toInt ≤ 768 := by
    unfold roundUp
    omega
  obtain ⟨hagain, -⟩ := toInt_align (x := (HWC_ALIGN width 64).toInt32) (a := 64) (k := 6)
    (by omega) (by omega) h64 (by decide)
  rw [h64, hstride] at hagain
  have hidem : roundUp 64 (roundUp 64 width.toInt) = roundUp 64 width.toInt := by
    unfold roundUp
    omega
  rw [hidem] at hagain
  have hprod : 0 ≤ roundUp 64 width.toInt * roundUp 64 height.toInt ∧
      roundUp 64 width.toInt * roundUp 64 height.toInt ≤ 1280 * 768 :=
    ⟨Int.mul_nonneg hwidth.1 hlines.1, Int.mul_le_mul hwidth.2 hlines.2 hlines.1 (by decide)⟩
  have h32 : (32 : Int64).toInt = 32 := by decide
  have h8 : (8 : Int64).toInt = 8 := by decide
  have hpixels : (HWC_ALIGN (HWC_ALIGN width 64).toInt32 64 * HWC_ALIGN height 64).toInt =
      roundUp 64 width.toInt * roundUp 64 height.toInt := by
    rw [Int64.toInt_mul, hagain, hheight, Int.bmod_eq_of_le (by omega) (by omega)]
  have hbits : (HWC_ALIGN (HWC_ALIGN width 64).toInt32 64 * HWC_ALIGN height 64 * 32).toInt =
      roundUp 64 width.toInt * roundUp 64 height.toInt * 32 := by
    rw [Int64.toInt_mul, hpixels, h32, Int.bmod_eq_of_le (by omega) (by omega)]
  show (HWC_ALIGN (HWC_ALIGN width 64).toInt32 64 * HWC_ALIGN height 64 * 32 / 8).toInt32.toInt = _
  rw [Int64.toInt_toInt32, Int64.toInt_div_of_ne_right _ _ (by decide), hbits, h8,
    Int.tdiv_eq_ediv_of_nonneg (by omega), Int.bmod_eq_of_le (by omega) (by omega)]
  omega

theorem rgbHandle_fits_iff {width height : Int32} (h : Within (width, height) 1280 720) :
    (rgbHandle width height).size.toInt ≤ bufferSize.toInt ↔
      width.toInt ≤ 1152 ∨ height.toInt ≤ 704 := by
  have hbuffer : bufferSize.toInt = 1280 * 720 * 4 := by decide
  rw [toInt_rgbHandle_size h, hbuffer]
  obtain ⟨⟨hw, hw'⟩, hh, hh'⟩ := h
  dsimp only at hw hw' hh hh'
  -- in tiles of 64 x 64 the buffer has room for 225
  obtain ⟨a, ha⟩ : ∃ a, a = (width.toInt + 63) / 64 := ⟨_, rfl⟩
  obtain ⟨b, hb⟩ : ∃ b, b = (height.toInt + 63) / 64 := ⟨_, rfl⟩
  have hwidth : roundUp 64 width.toInt = 64 * a := by
    unfold roundUp
    omega
  have hheight : roundUp 64 height.toInt = 64 * b := by
    unfold roundUp
    omega
  have htiles : roundUp 64 width.toInt * roundUp 64 height.toInt = 4096 * (a * b) := by
    rw [hwidth, hheight]
    ring
  rw [htiles]
  constructor
  · intro hle
    by_contra hnot
    have ha19 : 19 ≤ a := by omega
    have hb12 : 12 ≤ b := by omega
    have hmul : 19 * 12 ≤ a * b := Int.mul_le_mul ha19 hb12 (by decide) (by omega)
    omega
  · intro hsmall
    rcases hsmall with hsmall | hsmall
    · have hmul : a * b ≤ 18 * 12 :=
        Int.mul_le_mul (by omega) (by omega) (by omega) (by decide)
      omega
    · have hmul : a * b ≤ 20 * 11 :=
        Int.mul_le_mul (by omega) (by omega) (by omega) (by decide)
      omega

theorem toInt_mul64 {x y : Int64} {b c : Int} (hx : 0 ≤ x.toInt) (hx' : x.toInt ≤ b)
    (hy : 0 ≤ y.toInt) (hy' : y.toInt ≤ c) (hfits : b * c < 2 ^ 62) :
    (x * y).toInt = x.toInt * y.toInt ∧ 0 ≤ x.toInt * y.toInt ∧ x.toInt * y.toInt ≤ b * c := by
  have hnonneg := Int.mul_nonneg hx hy
  have hle : x.toInt * y.toInt ≤ b * c := Int.mul_le_mul hx' hy' hy (by omega)
  refine ⟨?_, hnonneg, hle⟩
  rw [Int64.toInt_mul, Int.bmod_eq_of_le (by omega) (by omega)]

theorem yuvHandle_fits {width height : Int32} (h : Within (width, height) 1280 720) :
    (yuvHandle width height).size.toInt ≤ bufferSize.toInt := by
  have hbuffer : bufferSize.toInt = 1280 * 720 * 4 := by decide
  obtain ⟨⟨hw, hw'⟩, hh, hh'⟩ := h
  dsimp only at hw hw' hh hh'
  have h32 : (32 : Int32).toInt = 32 := by decide
  have h16 : (16 : Int32).toInt = 16 := by decide
  have htwo : (2 : Int64).toInt = 2 := by decide
  have hhalfw := toInt_half hw
  have hhalfh := toInt_half hh
  obtain ⟨-, hstride⟩ := toInt_align (a := 32) (k := 5) hw hw' h32 (by decide)
  obtain ⟨hlines, -⟩ := toInt_align (a := 32) (k := 5) hh (by omega) h32 (by decide)
  obtain ⟨hu, -⟩ := toInt_align (x := width / 2) (a := 16) (k := 4) (by omega) (by omega) h16
    (by decide)
  obtain ⟨hv, -⟩ := toInt_align (x := height / 2) (a := 16) (k := 4) (by omega) (by omega) h16
    (by decide)
  rw [h32, roundUp] at hstride hlines
  rw [h16, roundUp] at hu hv
  -- the plane of the luma and the two of the chroma
  obtain ⟨hluma, hluma0, hluma'⟩ := toInt_mul64 (x := HWC_ALIGN height 32)
    (y := (HWC_ALIGN width 32).toInt32.toInt64) (b := 736) (c := 1280) (by omega) (by omega)
    (by rw [Int32.toInt_toInt64]; omega) (by rw [Int32.toInt_toInt64]; omega) (by decide)
  obtain ⟨hdouble, hdouble0, hdouble'⟩ := toInt_mul64 (x := 2) (y := HWC_ALIGN (width / 2) 16)
    (b := 2) (c := 640) (by decide) (by decide) (by omega) (by omega) (by decide)
  obtain ⟨hchroma, hchroma0, hchroma'⟩ := toInt_mul64 (x := 2 * HWC_ALIGN (width / 2) 16)
    (y := HWC_ALIGN (height / 2) 16) (b := 2 * 640) (c := 368) (by omega) (by omega) (by omega)
    (by omega) (by decide)
  have hsum := Int64.toInt_add (HWC_ALIGN height 32 * (HWC_ALIGN width 32).toInt32.toInt64)
    (2 * HWC_ALIGN (width / 2) 16 * HWC_ALIGN (height / 2) 16)
  rw [hluma, hchroma, Int.bmod_eq_of_le (by omega) (by omega)] at hsum
  show (HWC_ALIGN height 32 * (HWC_ALIGN width 32).toInt32.toInt64 +
    2 * HWC_ALIGN (width / 2) 16 * HWC_ALIGN (height / 2) 16).toInt32.toInt ≤ _
  rw [Int64.toInt_toInt32, hsum, hbuffer, Int.bmod_eq_of_le (by omega) (by omega)]
  omega

/-! ## When the image fits -/

/-- The image has more than 18 columns and more than 11 rows of tiles of 64 x 64: at least 1153 pixels of
the width and 705 of the height are left after the scaling. -/
def Overflows (w : NormalWriteBackDisp2) (devCfg : DispDeviceConfig) : Prop :=
  devCfg.format = DISP_CSC_TYPE_RGB ∧ ¬ Interlaced devCfg ∧
    115300 ≤ w.clampedSize.1.toInt * w.mHpercent.toInt ∧
    70500 ≤ w.clampedSize.2.toInt * w.mVpercent.toInt

/-- Sizes and percentages as they are set. -/
structure Valid (w : NormalWriteBackDisp2) : Prop where
  width : 0 ≤ w.mVarWidth.toInt
  height : 0 ≤ w.mVarHeight.toInt
  hpercent : 1 ≤ w.mHpercent.toInt ∧ w.mHpercent.toInt ≤ 100
  vpercent : 1 ≤ w.mVpercent.toInt ∧ w.mVpercent.toInt ≤ 100

theorem Valid.curSize_within (h : w.Valid) (devCfg : DispDeviceConfig) :
    Within (w.curSize devCfg) 1280 720 ∧ (Interlaced devCfg → Within (w.curSize devCfg) 1280 360) ∧
      (¬ Interlaced devCfg → w.curSize devCfg = w.clampedSize) := by
  obtain ⟨hw, hh, hh'⟩ := clampedSize_within h.width h.height
  have hhalf := toInt_half hh
  by_cases hinter : Interlaced devCfg
  · have heq : w.curSize devCfg = (w.clampedSize.1, w.clampedSize.2 / 2) := by
      simp only [curSize, hinter, if_true]
    have hwithin : Within (w.curSize devCfg) 1280 360 := by
      rw [heq]
      exact ⟨hw, by show 0 ≤ (w.clampedSize.2 / 2).toInt; omega,
        by show (w.clampedSize.2 / 2).toInt ≤ 360; omega⟩
    have hle : (w.curSize devCfg).2.toInt ≤ 720 := Int.le_trans hwithin.2.2 (by decide)
    exact ⟨⟨hwithin.1, hwithin.2.1, hle⟩, fun _ => hwithin, fun hnot => absurd hinter hnot⟩
  · have heq : w.curSize devCfg = w.clampedSize := by
      simp only [curSize, hinter, if_false]
    rw [heq]
    exact ⟨⟨hw, hh, hh'⟩, fun hyes => absurd hyes hinter, fun _ => rfl⟩

theorem Valid.toInt_image (h : w.Valid) (devCfg : DispDeviceConfig) :
    ((w.curSize devCfg).1 * w.mHpercent / 100).toInt =
        (w.curSize devCfg).1.toInt * w.mHpercent.toInt / 100 ∧
      ((w.curSize devCfg).2 * w.mVpercent / 100).toInt =
        (w.curSize devCfg).2.toInt * w.mVpercent.toInt / 100 := by
  obtain ⟨⟨⟨hw, hw'⟩, hh, hh'⟩, -, -⟩ := h.curSize_within devCfg
  have hp := h.hpercent
  have vp := h.vpercent
  exact ⟨toInt_percent hw hw' (by omega) hp.2, toInt_percent hh (by omega) (by omega) vp.2⟩

theorem percent_le {x p bound : Int} (hx : 0 ≤ x) (hx' : x ≤ bound) (hp : 1 ≤ p) (hp' : p ≤ 100) :
    0 ≤ x * p / 100 ∧ x * p / 100 ≤ bound := by
  have hnonneg := Int.mul_nonneg hx (by omega : 0 ≤ p)
  have hle : x * p ≤ bound * 100 := Int.mul_le_mul hx' hp' (by omega) (by omega)
  omega

def imageHandle (w : NormalWriteBackDisp2) (devCfg : DispDeviceConfig) : WriteBackHandle :=
  let width := (w.curSize devCfg).1 * w.mHpercent / 100
  let height := (w.curSize devCfg).2 * w.mVpercent / 100
  if devCfg.format = DISP_CSC_TYPE_RGB then rgbHandle width height else yuvHandle width height

theorem setupByDriver_eq {first second : Option DispDeviceConfig} {devCfg : DispDeviceConfig}
    (hcfg : deviceConfig first second = some devCfg) :
    ∃ w', w.setupByDriver first second = some (w', w.imageHandle devCfg) := by
  by_cases hrgb : devCfg.format = DISP_CSC_TYPE_RGB
  · simp only [setupByDriver, hcfg, imageHandle, hrgb, if_true]
    exact ⟨_, rfl⟩
  · simp only [setupByDriver, hcfg, imageHandle, hrgb, if_false]
    exact ⟨_, rfl⟩

theorem Valid.imageHandle_fits_iff (h : w.Valid) (devCfg : DispDeviceConfig) :
    (w.imageHandle devCfg).size.toInt ≤ bufferSize.toInt ↔ ¬ w.Overflows devCfg := by
  obtain ⟨⟨⟨hw, hw'⟩, hh, hh'⟩, hhalved, hfull⟩ := h.curSize_within devCfg
  obtain ⟨hwidth, hheight⟩ := h.toInt_image devCfg
  have hwidthle := percent_le hw hw' h.hpercent.1 h.hpercent.2
  have hheightle := percent_le hh hh' h.vpercent.1 h.vpercent.2
  have hwithin : Within ((w.curSize devCfg).1 * w.mHpercent / 100,
      (w.curSize devCfg).2 * w.mVpercent / 100) 1280 720 := by
    rw [Within]
    dsimp only
    omega
  rw [imageHandle, Overflows]
  by_cases hrgb : devCfg.format = DISP_CSC_TYPE_RGB
  · rw [if_pos hrgb, rgbHandle_fits_iff hwithin, hwidth, hheight]
    by_cases hinter : Interlaced devCfg
    · obtain ⟨-, -, hh360⟩ := hhalved hinter
      have hlow := percent_le hh hh360 h.vpercent.1 h.vpercent.2
      apply iff_of_true
      · omega
      · exact fun hover => hover.2.1 hinter
    · rw [hfull hinter, not_and, not_and]
      constructor
      · intro hsmall _ _ hlarge
        omega
      · intro hnot
        have hnot' := hnot hrgb hinter
        omega
  · rw [if_neg hrgb]
    exact iff_of_true (yuvHandle_fits hwithin) fun hover => hrgb hover.1

/-- What is recorded never exceeds the buffer, but for large RGB images. -/
theorem setupByDriver_fits_iff (h : w.Valid) {first second : Option DispDeviceConfig}
    {devCfg : DispDeviceConfig} (hcfg : deviceConfig first second = some devCfg) :
    ∃ w' handle, w.setupByDriver first second = some (w', handle) ∧
      (handle.size.toInt ≤ bufferSize.toInt ↔ ¬ w.Overflows devCfg) := by
  obtain ⟨w', heq⟩ := setupByDriver_eq (w := w) hcfg
  exact ⟨w', w.imageHandle devCfg, heq, h.imageHandle_fits_iff devCfg⟩

def hdtv (format : Int32) : DispDeviceConfig where
  type := Displayd.DISP_OUTPUT_TYPE_HDMI
  mode := DISP_TV_MOD_720P_60HZ
  format := format
  bits := DISP_DATA_8BITS
  eotf := DISP_EOTF_GAMMA22
  cs := DISP_BT709
  dvi_hdmi := DISP_HDMI

theorem setupByDriver_hdtv : ∃ w' handle,
    ({} : NormalWriteBackDisp2).setupByDriver none (some (hdtv DISP_CSC_TYPE_YUV420)) =
      some (w', handle) ∧
    (handle.size.toInt ≤ bufferSize.toInt ↔
      ¬ ({} : NormalWriteBackDisp2).Overflows (hdtv DISP_CSC_TYPE_YUV420)) :=
  setupByDriver_fits_iff ⟨by decide, by decide, by decide, by decide⟩ rfl

/-- 768 lines are recorded where 720 have been allocated. -/
theorem not_fits_hdtv : ¬ ∀ w' handle,
    ({} : NormalWriteBackDisp2).setupByDriver (some (hdtv DISP_CSC_TYPE_RGB)) none =
      some (w', handle) → handle.size.toInt ≤ bufferSize.toInt := by
  intro h
  have hle := h _ _ rfl
  revert hle
  decide

end NormalWriteBackDisp2

end AwHal.Hwc
