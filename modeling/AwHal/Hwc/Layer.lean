import AwHal.Lib.CNumber

/-!
# Layers

The layers that SurfaceFlinger hands to the hardware composer, and the questions the planner asks
about them (`Layer.cpp`, `Rect.h`, `helper.cpp`).  A `Layer` object is shared and mutable in the
sources; here the attributes that a composition pass only reads are a record, and the validated type
that the pass writes is kept beside it, under the layer's id.
-/

namespace AwHal.Hwc

open AwHal.Lib

/-- `hwc_rect_t`. -/
structure HwcRect where
  left : Int
  top : Int
  right : Int
  bottom : Int
deriving DecidableEq, Repr

namespace HwcRect

def width (r : HwcRect) : Int := wrapInt (r.right - r.left)

def height (r : HwcRect) : Int := wrapInt (r.bottom - r.top)

def HasPixel (r : HwcRect) (x y : Int) : Prop :=
  r.left ≤ x ∧ x < r.right ∧ r.top ≤ y ∧ y < r.bottom

end HwcRect

/-- `HWC2::Composition`. -/
inductive Composition where
  | Invalid | Client | Device | SolidColor | Cursor | Sideband
deriving DecidableEq, Repr

/-- `HWC2::BlendMode`. -/
inductive BlendMode where
  | Invalid | None | Premultiplied | Coverage
deriving DecidableEq, Repr

/-! ## Pixel formats -/

def HAL_PIXEL_FORMAT_RGBA_8888 : Int := 1
def HAL_PIXEL_FORMAT_RGBX_8888 : Int := 2
def HAL_PIXEL_FORMAT_RGB_888 : Int := 3
def HAL_PIXEL_FORMAT_RGB_565 : Int := 4
def HAL_PIXEL_FORMAT_BGRA_8888 : Int := 5
def HAL_PIXEL_FORMAT_YCrCb_420_SP : Int := 0x11
def HAL_PIXEL_FORMAT_RGBA_1010102 : Int := 0x2b
def HAL_PIXEL_FORMAT_AW_NV12 : Int := 0x201
def HAL_PIXEL_FORMAT_AW_NV12_10bit : Int := 0x208
def HAL_PIXEL_FORMAT_AW_NV21_10bit : Int := 0x209
def HAL_PIXEL_FORMAT_AW_YV12_10bit : Int := 0x20a
def HAL_PIXEL_FORMAT_AW_I420_10bit : Int := 0x20b
def HAL_PIXEL_FORMAT_AW_P010_UV : Int := 0x20c
def HAL_PIXEL_FORMAT_AW_P010_VU : Int := 0x20d
def HAL_PIXEL_FORMAT_BGRX_8888 : Int := 0x210
def HAL_PIXEL_FORMAT_YV12 : Int := 0x32315659

def SUNXI_METADATA_FLAG_AFBC_HEADER : Nat := 0x10

/-- The part of the gralloc handle that the composer reads. -/
structure PrivateHandle where
  format : Int
  metadata_fd : Int := -1
  ion_metadata_flag : Nat := 0
deriving DecidableEq, Repr

/-- The attributes of a layer during one composition pass. -/
structure Layer (F : Type) where
  id : Nat
  requestType : Composition
  zOrder : Nat
  alpha : F
  blending : BlendMode
  bufferHandle : Option PrivateHandle
  displayFrame : HwcRect
  sourceCrop : HwcRect
  transform : Nat := 0
  dataspace : Nat := 0

section

variable {F : Type}

def isBlendingLayer (layer : Layer F) : Bool :=
  layer.blending == .Premultiplied || layer.blending == .Coverage

def viExclusiveFormat (format : Int) : Bool :=
  format == HAL_PIXEL_FORMAT_RGBA_1010102

def yuvFormat (format : Int) : Bool :=
  [HAL_PIXEL_FORMAT_YV12, HAL_PIXEL_FORMAT_YCrCb_420_SP, HAL_PIXEL_FORMAT_AW_NV12,
    HAL_PIXEL_FORMAT_AW_YV12_10bit, HAL_PIXEL_FORMAT_AW_I420_10bit,
    HAL_PIXEL_FORMAT_AW_NV21_10bit, HAL_PIXEL_FORMAT_AW_NV12_10bit,
    HAL_PIXEL_FORMAT_AW_P010_UV, HAL_PIXEL_FORMAT_AW_P010_VU].contains format

def isViChannelExclusiveRgbFormat (layer : Layer F) : Bool :=
  match layer.bufferHandle with
  | none => false
  | some handle => viExclusiveFormat handle.format

def isYuvFormat (layer : Layer F) : Bool :=
  match layer.bufferHandle with
  | none => false
  | some handle => yuvFormat handle.format

def isSkipLayer (layer : Layer F) : Bool := layer.requestType == .Client

def isSoildLayer (layer : Layer F) : Bool := layer.requestType == .SolidColor

def getLayerPixelFormat (layer : Layer F) : Int :=
  if isSoildLayer layer then HAL_PIXEL_FORMAT_RGBA_8888
  else match layer.bufferHandle with
    | some handle => handle.format
    | none => -1

/-- As built with `GRALLOC_SUNXI_METADATA_BUF`; a build without it has no buffer with a metadata
fd. -/
def isAfbcBuffer : Option PrivateHandle → Bool
  | none => false
  | some handle =>
      decide (0 ≤ handle.metadata_fd) &&
        (handle.ion_metadata_flag &&& SUNXI_METADATA_FLAG_AFBC_HEADER) != 0

theorem getLayerPixelFormat_of_buffer {layer : Layer F} {handle : PrivateHandle}
    (hsolid : isSoildLayer layer = false) (hbuf : layer.bufferHandle = some handle) :
    getLayerPixelFormat layer = handle.format := by
  simp [getLayerPixelFormat, hsolid, hbuf]

end

/-! ## Memory footprint -/

section

variable {F : Type} [CFloat F]

open CFloat

/-- Bytes read for one pixel, halves included. -/
def bytePerPixel (format : Int) : Rat :=
  if format = HAL_PIXEL_FORMAT_RGBA_8888 ∨ format = HAL_PIXEL_FORMAT_RGBX_8888 ∨
      format = HAL_PIXEL_FORMAT_BGRA_8888 ∨ format = HAL_PIXEL_FORMAT_BGRX_8888 ∨
      format = HAL_PIXEL_FORMAT_RGBA_1010102 then 4
  else if format = HAL_PIXEL_FORMAT_RGB_888 then 3
  else if format = HAL_PIXEL_FORMAT_RGB_565 then 2
  else if format = HAL_PIXEL_FORMAT_YV12 ∨ format = HAL_PIXEL_FORMAT_YCrCb_420_SP ∨
      format = HAL_PIXEL_FORMAT_AW_NV12 ∨ format = HAL_PIXEL_FORMAT_AW_NV12_10bit ∨
      format = HAL_PIXEL_FORMAT_AW_NV21_10bit ∨ format = HAL_PIXEL_FORMAT_AW_I420_10bit ∨
      format = HAL_PIXEL_FORMAT_AW_YV12_10bit then 3 / 2
  else if format = HAL_PIXEL_FORMAT_AW_P010_UV ∨ format = HAL_PIXEL_FORMAT_AW_P010_VU then 3
  else 4

def computeLayerMemoryFootprint (layer : Option (Layer F)) : Nat :=
  match layer with
  | none => 0
  | some layer =>
      if isSoildLayer layer then 0
      else
        let bpp : F := ofRat (bytePerPixel (getLayerPixelFormat layer))
        let src := layer.sourceCrop
        let footprint := mul (ofInt (wrapInt (src.width * src.height))) bpp
        -- a layer that is scaled down needs more bandwidth than its source alone
        let dispFrame := layer.displayFrame
        let dis_footprint := mul (ofInt (wrapInt (dispFrame.width * dispFrame.height))) bpp
        let footprint :=
          if lt dis_footprint footprint then
            add footprint (mul (sub footprint dis_footprint) (ofRat (3 / 2)))
          else footprint
        toSize (ceil footprint)

theorem computeLayerMemoryFootprint_le (layer : Option (Layer F)) :
    computeLayerMemoryFootprint layer ≤ SIZE_MAX := by
  unfold computeLayerMemoryFootprint
  split
  · exact Nat.zero_le _
  · split
    · exact Nat.zero_le _
    · exact toSize_le _

end

/-! ## Screen transform -/

/-- The affine map from framebuffer to screen coordinates, by columns as in `Matrix`. -/
structure ScreenTransform (F : Type) where
  mScreenBounds : HwcRect
  mTransform : Fin 3 → Fin 3 → F

section

variable {F : Type} [CFloat F]

open CFloat

def ScreenTransform.transformPoint (t : ScreenTransform F) (x y : Int) : F × F :=
  let row (j : Fin 3) : F :=
    add (add (mul (t.mTransform 0 j) (ofInt x)) (mul (t.mTransform 1 j) (ofInt y)))
      (mul (t.mTransform 2 j) (ofRat 1))
  (row 0, row 1)

/-- `ScreenTransform::transform`: the bounding box of the mapped corners, clipped to the screen. -/
def ScreenTransform.transform (t : ScreenTransform F) (bounds : HwcRect) : HwcRect :=
  let lt := t.transformPoint bounds.left bounds.top
  let rt := t.transformPoint bounds.right bounds.top
  let lb := t.transformPoint bounds.left bounds.bottom
  let rb := t.transformPoint bounds.right bounds.bottom
  let min4 (a b c d : F) : F := CFloat.min a (CFloat.min b (CFloat.min c d))
  let max4 (a b c d : F) : F := CFloat.max a (CFloat.max b (CFloat.max c d))
  -- rounded outwards, then clipped
  { left := Max.max 0 (floor (min4 lt.1 rt.1 lb.1 rb.1))
    top := Max.max 0 (floor (min4 lt.2 rt.2 lb.2 rb.2))
    right := Min.min t.mScreenBounds.width (ceil (max4 lt.1 rt.1 lb.1 rb.1))
    bottom := Min.min t.mScreenBounds.height (ceil (max4 lt.2 rt.2 lb.2 rb.2)) }

end

end AwHal.Hwc
