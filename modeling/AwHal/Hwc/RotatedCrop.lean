import AwHal.Lib.PixelGrid
import AwHal.Hwc.Alignment
import AwHal.Hwc.RotateSessionRuns

/-!
# The crop of a rotated layer

For a layer with a transform the rotator turns the whole buffer, and `Compositor::setupLayerConfig`
gives the display engine the part of the output that the source crop of the layer has gone to
(`Compositor.cpp`).
-/

namespace AwHal.Hwc

open AwHal.Lib

/-! ## Transforms -/

inductive Transform where
  | None
  | FlipH
  | FlipV
  | Rotate90
  | Rotate180
  | Rotate270
  | FlipHRotate90
  | FlipVRotate90
deriving DecidableEq, Repr

namespace Transform

/-- The value of the enumeration: a bit for each flip and one for the quarter turn. -/
def code : Transform → Nat
  | .None => 0
  | .FlipH => 1
  | .FlipV => 2
  | .Rotate180 => 3
  | .Rotate90 => 4
  | .FlipHRotate90 => 5
  | .FlipVRotate90 => 6
  | .Rotate270 => 7

/-- Where the transform takes the pixels of a `W` by `H` image: the flips come before the turn. -/
def pixelMap (t : Transform) (W H : Int) (p : Int × Int) : Int × Int :=
  let p := if t.code &&& 1 ≠ 0 then flipColumns W p else p
  let p := if t.code &&& 2 ≠ 0 then flipRows H p else p
  if t.code &&& 4 ≠ 0 then quarterTurn H p else p

end Transform

/-! ## `setupLayerConfig` -/

/-- `crop` of `disp_fb_info2`: 32 bits behind the point. -/
structure DispRect64 where
  x : Int
  y : Int
  width : Int
  height : Int
deriving DecidableEq, Repr

def DispRect64.pixels (r : DispRect64) : Set (Int × Int) :=
  {p | (r.x ≤ p.1 * 2 ^ 32 ∧ p.1 * 2 ^ 32 < r.x + r.width) ∧
    r.y ≤ p.2 * 2 ^ 32 ∧ p.2 * 2 ^ 32 < r.y + r.height}

namespace Compositor

def transformCrop (handle : RotateHandle) (rotatedBuf : OutputBuffer) (transform : Transform)
    (tmp : HwcRect) : HwcRect :=
  match transform with
  | .None => tmp
  | .FlipV =>
      { tmp with
        top := handle.height.toInt - tmp.bottom
        bottom := handle.height.toInt - tmp.top }
  | .FlipH =>
      { tmp with
        left := rotatedBuf.width.toInt - tmp.right
        right := rotatedBuf.width.toInt - tmp.left }
  | .Rotate90 =>
      { left := handle.height.toInt - tmp.bottom
        right := handle.height.toInt - tmp.top
        top := tmp.left
        bottom := tmp.right }
  | .Rotate180 =>
      { left := rotatedBuf.width.toInt - tmp.right
        right := rotatedBuf.width.toInt - tmp.left
        top := handle.height.toInt - tmp.bottom
        bottom := handle.height.toInt - tmp.top }
  | .Rotate270 =>
      { left := tmp.top
        right := tmp.bottom
        top := rotatedBuf.height.toInt - tmp.right
        bottom := rotatedBuf.height.toInt - tmp.left }
  | .FlipHRotate90 =>
      { left := handle.height.toInt - tmp.bottom
        right := handle.height.toInt - tmp.top
        -- the width of the buffer here, not that of the image that was turned
        top := handle.width.toInt - tmp.right
        bottom := handle.width.toInt - tmp.left }
  | .FlipVRotate90 =>
      { left := tmp.top
        right := tmp.bottom
        top := tmp.left
        bottom := tmp.right }

/-- The crop of the layer in its buffer, or in the output of the rotator when there is one. -/
def setupLayerCrop (handle : RotateHandle) (transform : Transform)
    (rotatedBuf : Option OutputBuffer) (sourceCrop : HwcRect) : DispRect64 :=
  let crop :=
    match rotatedBuf with
    | some buf => if transform ≠ Transform.None then transformCrop handle buf transform sourceCrop
        else sourceCrop
    | none => sourceCrop
  { x := crop.left * 2 ^ 32
    y := crop.top * 2 ^ 32
    width := (crop.right - crop.left) * 2 ^ 32
    height := (crop.bottom - crop.top) * 2 ^ 32 }

end Compositor

/-! ## The width of the image that is turned -/

/-- A buffer with an alignment, for which the arithmetic of `HWC_ALIGN` stays within `int`. -/
structure RotateHandle.Valid (handle : RotateHandle) : Prop where
  align : 0 < handle.aw_byte_align.toInt
  width : 0 ≤ handle.width.toInt
  fits : handle.width.toInt * (bytesPerPixel handle.format).toInt +
    handle.aw_byte_align.toInt < 2 ^ 31

def alignedWidth (handle : RotateHandle) : Int32 := (getAlignedWidthAndHeight handle).1

theorem bytesPerPixel_pos (format : Int) :
    0 < (bytesPerPixel format).toInt ∧ (bytesPerPixel format).toInt ≤ 4 := by
  unfold bytesPerPixel
  split_ifs <;> decide

/-- The image that is turned is at least as wide as the buffer. -/
theorem RotateHandle.Valid.width_le {handle : RotateHandle} (h : handle.Valid) :
    handle.width.toInt ≤ (alignedWidth handle).toInt := by
  obtain ⟨hpos, hle⟩ := bytesPerPixel_pos handle.format
  have halign := h.align
  have hwidth := h.width
  have hfits := h.fits
  have hlow : 0 ≤ handle.width.toInt * (bytesPerPixel handle.format).toInt :=
    Int.mul_nonneg hwidth (by omega)
  have hmul : (handle.width * bytesPerPixel handle.format).toInt =
      handle.width.toInt * (bytesPerPixel handle.format).toInt := by
    rw [Int32.toInt_mul, Int.bmod_eq_of_le (by omega) (by omega)]
  obtain ⟨hge, hlt⟩ := toInt_HWC_ALIGN (x := handle.width * bytesPerPixel handle.format)
    (a := handle.aw_byte_align) (by omega) halign (by omega)
  rw [hmul] at hge hlt
  have hquot : (HWC_ALIGN (handle.width * bytesPerPixel handle.format) handle.aw_byte_align).toInt /
      (bytesPerPixel handle.format).toInt < 2 ^ 31 := by
    apply Int.ediv_lt_of_lt_mul hpos
    nlinarith
  have hquot' : handle.width.toInt ≤ (HWC_ALIGN (handle.width * bytesPerPixel handle.format)
      handle.aw_byte_align).toInt / (bytesPerPixel handle.format).toInt := by
    rw [Int.le_ediv_iff_mul_le hpos]
    exact hge
  have hdiv : (HWC_ALIGN (handle.width * bytesPerPixel handle.format) handle.aw_byte_align /
      (bytesPerPixel handle.format).toInt64).toInt = (HWC_ALIGN (handle.width *
        bytesPerPixel handle.format) handle.aw_byte_align).toInt /
          (bytesPerPixel handle.format).toInt := by
    rw [Int64.toInt_div, Int32.toInt_toInt64, Int.tdiv_eq_ediv_of_nonneg (by omega),
      Int.bmod_eq_of_le (by omega) (by omega)]
  show handle.width.toInt ≤ (HWC_ALIGN (handle.width * bytesPerPixel handle.format)
    handle.aw_byte_align / (bytesPerPixel handle.format).toInt64).toInt32.toInt
  rw [Int64.toInt_toInt32, hdiv, Int.bmod_eq_of_le (by omega) (by omega)]
  exact hquot'

/-! ## Where the crop goes -/

def HwcRect.pixels (r : HwcRect) : Set (Int × Int) := pixelRect r.left r.top r.right r.bottom

theorem pixelMap_image (t : Transform) (W H l top r b : Int) :
    t.pixelMap W H '' pixelRect l top r b =
      (match t with
        | .None => pixelRect l top r b
        | .FlipH => pixelRect (W - r) top (W - l) b
        | .FlipV => pixelRect l (H - b) r (H - top)
        | .Rotate90 => pixelRect (H - b) l (H - top) r
        | .Rotate180 => pixelRect (W - r) (H - b) (W - l) (H - top)
        | .Rotate270 => pixelRect top (W - r) b (W - l)
        | .FlipHRotate90 => pixelRect (H - b) (W - r) (H - top) (W - l)
        | .FlipVRotate90 => pixelRect top l b r) := by
  cases t with
  | None => exact Set.image_id _
  | FlipH => exact flipColumns_image W
  | FlipV => exact flipRows_image H
  | Rotate90 => exact quarterTurn_image H
  | Rotate180 =>
      show (fun p => flipRows H (flipColumns W p)) '' _ = _
      rw [← Set.image_image, flipColumns_image, flipRows_image]
  | Rotate270 =>
      show (fun p => quarterTurn H (flipRows H (flipColumns W p))) '' _ = _
      rw [← Set.image_image (quarterTurn H) fun p => flipRows H (flipColumns W p),
        ← Set.image_image (flipRows H) (flipColumns W), flipColumns_image, flipRows_image, quarterTurn_image,
        Int.sub_sub_self, Int.sub_sub_self]
  | FlipHRotate90 =>
      show (fun p => quarterTurn H (flipColumns W p)) '' _ = _
      rw [← Set.image_image, flipColumns_image, quarterTurn_image]
  | FlipVRotate90 =>
      show (fun p => quarterTurn H (flipRows H p)) '' _ = _
      rw [← Set.image_image, flipRows_image, quarterTurn_image, Int.sub_sub_self,
        Int.sub_sub_self]

theorem pixels_fixedPoint (l top r b : Int) :
    DispRect64.pixels ⟨l * 2 ^ 32, top * 2 ^ 32, (r - l) * 2 ^ 32, (b - top) * 2 ^ 32⟩ =
      pixelRect l top r b := by
  ext ⟨x, y⟩
  rw [mem_pixelRect]
  show (l * 2 ^ 32 ≤ x * 2 ^ 32 ∧ x * 2 ^ 32 < l * 2 ^ 32 + (r - l) * 2 ^ 32) ∧
    top * 2 ^ 32 ≤ y * 2 ^ 32 ∧ y * 2 ^ 32 < top * 2 ^ 32 + (b - top) * 2 ^ 32 ↔ _
  omega

/-- The output of a task is as wide as the aligned image, or as high when it is turned. -/
theorem outputBuffer_of_task {s : RotateSession} {cache : List BufferPool} {mNextTaskId : Nat}
    {handle : RotateHandle} {transform : Transform} {steps : List BufferPool.Event}
    {task : RotateTask} (hidle : s.active = false)
    (htask : task ∈ (s.createAsyncRotateTask cache mNextTaskId handle transform.code
      steps).session.mRotateTask) :
    (transform.code &&& HAL_TRANSFORM_ROT_90 = 0 →
        task.mOutputBuffer.width = alignedWidth handle) ∧
      (transform.code &&& HAL_TRANSFORM_ROT_90 ≠ 0 →
        task.mOutputBuffer.height = alignedWidth handle) := by
  have hnone : s.mRotateTask = none := by simpa [RotateSession.active] using hidle
  by_cases hfailed : 3 ≤ s.mRotateFailedCount
  · rw [RotateSession.createAsyncRotateTask_failed _ _ _ _ _ hfailed, hnone] at htask
    cases htask
  rw [RotateSession.createAsyncRotateTask_fresh _ _ _ _ _ (by omega) hidle] at htask
  obtain ⟨buffer, -, rfl⟩ := RotateSession.acquireTask_mRotateTask _ _ _ _ _ _ _ hnone htask
  constructor
  · intro hbit
    simp only [outputGeometry, hbit, ne_eq, not_true_eq_false, if_false]
    rfl
  · intro hbit
    simp only [outputGeometry, ne_eq, hbit, not_false_eq_true, if_true]
    rfl

namespace Compositor

/-- The crop is the place of the source crop in a turned image of width `W`, unless `FLIP_H_ROT_90`
takes another width for it. -/
theorem setupLayerCrop_pixels {handle : RotateHandle} {transform : Transform} {buf : OutputBuffer}
    {W : Int32} (ht : transform ≠ .None)
    (hwidth : transform.code &&& HAL_TRANSFORM_ROT_90 = 0 → buf.width = W)
    (hheight : transform.code &&& HAL_TRANSFORM_ROT_90 ≠ 0 → buf.height = W) (crop : HwcRect) :
    (setupLayerCrop handle transform (some buf) crop).pixels =
      if transform = .FlipHRotate90 then
        pixelRect (handle.height.toInt - crop.bottom) (handle.width.toInt - crop.right)
          (handle.height.toInt - crop.top) (handle.width.toInt - crop.left)
      else transform.pixelMap W.toInt handle.height.toInt '' crop.pixels := by
  simp only [setupLayerCrop, ne_eq, ht, not_false_eq_true, if_true, pixels_fixedPoint,
    HwcRect.pixels, pixelMap_image]
  cases transform with
  | None => exact absurd rfl ht
  | FlipH =>
      rw [← hwidth rfl]
      rfl
  | FlipV => rfl
  | Rotate90 => rfl
  | Rotate180 =>
      rw [← hwidth rfl]
      rfl
  | Rotate270 =>
      rw [← hheight (by decide)]
      rfl
  | FlipHRotate90 => rfl
  | FlipVRotate90 => rfl

end Compositor

/-- The rectangle lies in the buffer. -/
structure HwcRect.Inside (r : HwcRect) (handle : RotateHandle) : Prop where
  left : 0 ≤ r.left
  top : 0 ≤ r.top
  right : r.right ≤ handle.width.toInt
  bottom : r.bottom ≤ handle.height.toInt

namespace Compositor

/-- The display engine shows of the rotated image exactly what the source crop has become, unless the
transform is `FLIP_H_ROT_90`, the width of the buffer is not aligned, and the crop is not empty. -/
theorem setupLayerCrop_exact_iff {handle : RotateHandle} {transform : Transform} {crop : HwcRect}
    {s : RotateSession} {cache : List BufferPool} {mNextTaskId : Nat}
    {steps : List BufferPool.Event} {task : RotateTask} (hvalid : handle.Valid)
    (hcrop : crop.Inside handle) (ht : transform ≠ .None) (hidle : s.active = false)
    (htask : task ∈ (s.createAsyncRotateTask cache mNextTaskId handle transform.code
      steps).session.mRotateTask) :
    (setupLayerCrop handle transform (some task.mOutputBuffer) crop).pixels =
        transform.pixelMap (alignedWidth handle).toInt handle.height.toInt ''
          (crop.pixels ∩
            pixelRect 0 0 (alignedWidth handle).toInt handle.height.toInt) ↔
      transform ≠ .FlipHRotate90 ∨ alignedWidth handle = handle.width ∨
        crop.right ≤ crop.left ∨ crop.bottom ≤ crop.top := by
  obtain ⟨hwidth, hheight⟩ := outputBuffer_of_task hidle htask
  have hle := hvalid.width_le
  have hsource : crop.pixels ∩ pixelRect 0 0 (alignedWidth handle).toInt handle.height.toInt =
      crop.pixels :=
    Set.inter_eq_left.mpr
      (pixelRect_subset hcrop.left hcrop.top (hcrop.right.trans hle) hcrop.bottom)
  rw [hsource, setupLayerCrop_pixels ht hwidth hheight]
  split
  · rename_i hflip
    subst hflip
    rw [HwcRect.pixels, pixelMap_image]
    constructor
    · intro heq
      by_contra hnot
      obtain ⟨hunaligned, hlr, htb⟩ : _ ∧ _ ∧ _ := by simpa [not_or] using hnot
      obtain ⟨-, hplace⟩ := pixelRect_inj (by omega) (by omega) (by omega) (by omega) heq
      exact hunaligned (Int32.toInt_inj.mp (by omega))
    · intro hor
      rcases hor with hne | haligned | hempty | hempty
      · exact absurd rfl hne
      · rw [haligned]
      -- nothing to show, wherever it is
      · ext ⟨x, y⟩
        rw [mem_pixelRect, mem_pixelRect]
        omega
      · ext ⟨x, y⟩
        rw [mem_pixelRect, mem_pixelRect]
        omega
  · rename_i hne
    simp [hne]

def narrowFrame : RotateHandle := { SessionRun.frame 0 16 with width := 60 }

def narrowCrop : HwcRect := { left := 0, top := 0, right := 60, bottom := 64 }

theorem narrowFrame_valid : narrowFrame.Valid := ⟨by decide, by decide, by decide⟩

theorem narrowCrop_inside : narrowCrop.Inside narrowFrame :=
  ⟨by decide, by decide, by decide, by decide⟩

theorem setupLayerCrop_exact_iff_narrowFrame :
    ∃ task ∈ (({} : RotateSession).createAsyncRotateTask [] 0 narrowFrame Transform.Rotate270.code
        SessionRun.allocateAll).session.mRotateTask,
      (setupLayerCrop narrowFrame .Rotate270 (some task.mOutputBuffer) narrowCrop).pixels =
          Transform.Rotate270.pixelMap (alignedWidth narrowFrame).toInt narrowFrame.height.toInt ''
            (narrowCrop.pixels ∩
              pixelRect 0 0 (alignedWidth narrowFrame).toInt narrowFrame.height.toInt) ↔
        Transform.Rotate270 ≠ .FlipHRotate90 ∨ alignedWidth narrowFrame = narrowFrame.width ∨
          narrowCrop.right ≤ narrowCrop.left ∨ narrowCrop.bottom ≤ narrowCrop.top := by
  obtain ⟨task, htask⟩ := Option.isSome_iff_exists.mp (show (({} : RotateSession)
    |>.createAsyncRotateTask [] 0 narrowFrame Transform.Rotate270.code
      SessionRun.allocateAll).session.mRotateTask.isSome = true by decide +kernel)
  exact ⟨task, htask, setupLayerCrop_exact_iff narrowFrame_valid narrowCrop_inside (by decide) rfl
    htask⟩

/-- Mirrored and turned, the padding of the lines comes first; the crop begins with it. -/
theorem narrowFrame_shows_padding :
    ∃ task ∈ (({} : RotateSession).createAsyncRotateTask [] 0 narrowFrame
        Transform.FlipHRotate90.code SessionRun.allocateAll).session.mRotateTask,
      (setupLayerCrop narrowFrame .FlipHRotate90 (some task.mOutputBuffer) narrowCrop).pixels ≠
        Transform.FlipHRotate90.pixelMap (alignedWidth narrowFrame).toInt
          narrowFrame.height.toInt '' (narrowCrop.pixels ∩
            pixelRect 0 0 (alignedWidth narrowFrame).toInt narrowFrame.height.toInt) := by
  obtain ⟨task, htask⟩ := Option.isSome_iff_exists.mp (show (({} : RotateSession)
    |>.createAsyncRotateTask [] 0 narrowFrame Transform.FlipHRotate90.code
      SessionRun.allocateAll).session.mRotateTask.isSome = true by decide +kernel)
  refine ⟨task, htask, ?_⟩
  obtain ⟨hwidth, hheight⟩ := outputBuffer_of_task rfl htask
  rw [setupLayerCrop_pixels (by decide) hwidth hheight, if_pos rfl]
  intro heq
  -- the first line of the crop is one of padding
  have hshown : ((0 : Int), (0 : Int)) ∈ pixelRect
      (narrowFrame.height.toInt - narrowCrop.bottom) (narrowFrame.width.toInt - narrowCrop.right)
      (narrowFrame.height.toInt - narrowCrop.top) (narrowFrame.width.toInt - narrowCrop.left) :=
    ⟨⟨by decide, by decide⟩, by decide, by decide⟩
  rw [heq] at hshown
  have himage := Set.image_mono Set.inter_subset_left hshown
  rw [HwcRect.pixels, pixelMap_image, mem_pixelRect] at himage
  exact absurd himage.2.1 (by decide)

end Compositor

end AwHal.Hwc
