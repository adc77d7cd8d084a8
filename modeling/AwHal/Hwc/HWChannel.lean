import AwHal.Hwc.LayerPlanner

/-!
# Hardware channels

`HWChannel`, `rectangle_intersect` and the `BandwidthMeter` of `Strategy.cpp` and
`BandwidthMeter.h`.
-/

namespace AwHal.Hwc

open AwHal.Lib

/-! ## Overlap of display frames -/

/-- C division of `int` truncates towards zero. -/
def rectangle_intersect (a b : HwcRect) : Bool :=
  let x0 := (wrapInt (a.right + a.left)).tdiv 2
  let y0 := (wrapInt (a.bottom + a.top)).tdiv 2
  let x1 := (wrapInt (b.right + b.left)).tdiv 2
  let y1 := (wrapInt (b.bottom + b.top)).tdiv 2
  let distancex : Int := (wrapInt (x0 - x1)).natAbs
  let distancey : Int := (wrapInt (y0 - y1)).natAbs
  let sumw := (wrapInt (wrapInt (a.right - a.left) + wrapInt (b.right - b.left))).tdiv 2
  let sumh := (wrapInt (wrapInt (a.bottom - a.top) + wrapInt (b.bottom - b.top))).tdiv 2
  decide (distancex ≤ sumw) && decide (distancey ≤ sumh)

/-- No `int` operation of `rectangle_intersect a b` overflows. -/
structure IntersectFits (a b : HwcRect) : Prop where
  sumxA : FitsInt (a.right + a.left)
  sumyA : FitsInt (a.bottom + a.top)
  sumxB : FitsInt (b.right + b.left)
  sumyB : FitsInt (b.bottom + b.top)
  widthA : FitsInt (a.right - a.left)
  heightA : FitsInt (a.bottom - a.top)
  widthB : FitsInt (b.right - b.left)
  heightB : FitsInt (b.bottom - b.top)
  sumw : FitsInt (a.right - a.left + (b.right - b.left))
  sumh : FitsInt (a.bottom - a.top + (b.bottom - b.top))

theorem IntersectFits.symm {a b : HwcRect} (h : IntersectFits a b) : IntersectFits b a := by
  refine ⟨h.sumxB, h.sumyB, h.sumxA, h.sumyA, h.widthB, h.heightB, h.widthA, h.heightA, ?_, ?_⟩
  · rw [Int.add_comm]
    exact h.sumw
  · rw [Int.add_comm]
    exact h.sumh

/-- Along one axis: intervals that share a unit cell have centres no further apart than the mean of
their lengths, also after both roundings towards zero. -/
theorem center_distance_le {l r l' r' x : Int} (hl : l ≤ x) (hr : x < r) (hl' : l' ≤ x)
    (hr' : x < r') :
    (((r + l).tdiv 2 - (r' + l').tdiv 2).natAbs : Int) ≤ (r - l + (r' - l')).tdiv 2 := by
  -- the two centres and the mean are each halved towards zero
  simp only [tdiv_two]
  split <;> split <;> split <;> omega

/-- A distance between two halved `int`s is an `int`. -/
theorem fitsInt_center_sub {x y : Int} (hx : FitsInt x) (hy : FitsInt y) :
    FitsInt (x.tdiv 2 - y.tdiv 2) := by
  simp only [FitsInt, tdiv_two] at *
  split <;> split <;> omega

theorem rectangle_intersect_eq {a b : HwcRect} (hfit : IntersectFits a b) :
    rectangle_intersect a b =
      (decide ((((a.right + a.left).tdiv 2 - (b.right + b.left).tdiv 2).natAbs : Int) ≤
          (a.right - a.left + (b.right - b.left)).tdiv 2) &&
        decide ((((a.bottom + a.top).tdiv 2 - (b.bottom + b.top).tdiv 2).natAbs : Int) ≤
          (a.bottom - a.top + (b.bottom - b.top)).tdiv 2)) := by
  unfold rectangle_intersect
  simp only [wrapInt_of_fits hfit.sumxA, wrapInt_of_fits hfit.sumyA, wrapInt_of_fits hfit.sumxB,
    wrapInt_of_fits hfit.sumyB, wrapInt_of_fits hfit.widthA, wrapInt_of_fits hfit.heightA,
    wrapInt_of_fits hfit.widthB, wrapInt_of_fits hfit.heightB, wrapInt_of_fits hfit.sumw,
    wrapInt_of_fits hfit.sumh, wrapInt_of_fits (fitsInt_center_sub hfit.sumxA hfit.sumxB),
    wrapInt_of_fits (fitsInt_center_sub hfit.sumyA hfit.sumyB)]

theorem rectangle_intersect_of_pixel {a b : HwcRect} {x y : Int} (hfit : IntersectFits a b)
    (ha : a.HasPixel x y) (hb : b.HasPixel x y) : rectangle_intersect a b = true := by
  obtain ⟨hal, har, hat, hab⟩ := ha
  obtain ⟨hbl, hbr, hbt, hbb⟩ := hb
  rw [rectangle_intersect_eq hfit, Bool.and_eq_true, decide_eq_true_eq, decide_eq_true_eq]
  exact ⟨center_distance_le hal har hbl hbr, center_distance_le hat hab hbt hbb⟩

/-- Along one axis: if the halved centres are no further apart than the mean of the lengths, at most
one unit cell lies between the intervals. -/
theorem gap_le_of_center_distance_le {l r l' r' : Int}
    (h : (((r + l).tdiv 2 - (r' + l').tdiv 2).natAbs : Int) ≤ (r - l + (r' - l')).tdiv 2)
    (hlr : l ≤ r) (hlr' : l' ≤ r') : l - r' ≤ 1 ∧ l' - r ≤ 1 := by
  simp only [tdiv_two] at h
  split at h <;> split at h <;> split at h <;> omega

/-- A rectangle that is not turned round, with coordinates of magnitude below `2 ^ 29`. -/
structure HwcRect.Moderate (r : HwcRect) : Prop where
  ordered : r.left ≤ r.right ∧ r.top ≤ r.bottom
  horizontal : -2 ^ 29 < r.left ∧ r.right < 2 ^ 29
  vertical : -2 ^ 29 < r.top ∧ r.bottom < 2 ^ 29

theorem intersectFits_of_moderate {a b : HwcRect} (ha : a.Moderate) (hb : b.Moderate) :
    IntersectFits a b := by
  obtain ⟨hlr, hx, hy⟩ := ha
  obtain ⟨hlr', hx', hy'⟩ := hb
  constructor <;> unfold FitsInt <;> omega

/-- Rectangles that share a pixel intersect, and those that intersect are at most one pixel apart; no
operation overflows. -/
theorem rectangle_intersect_tight {a b : HwcRect} (ha : a.Moderate) (hb : b.Moderate) :
    ((∃ x y, a.HasPixel x y ∧ b.HasPixel x y) → rectangle_intersect a b = true) ∧
      (rectangle_intersect a b = true →
        (a.left - b.right ≤ 1 ∧ b.left - a.right ≤ 1) ∧
          (a.top - b.bottom ≤ 1 ∧ b.top - a.bottom ≤ 1)) ∧
      IntersectFits a b ∧
      FitsInt ((a.right + a.left).tdiv 2 - (b.right + b.left).tdiv 2) ∧
      FitsInt ((a.bottom + a.top).tdiv 2 - (b.bottom + b.top).tdiv 2) := by
  have hfit := intersectFits_of_moderate ha hb
  refine ⟨?_, ?_, hfit, fitsInt_center_sub hfit.sumxA hfit.sumxB,
    fitsInt_center_sub hfit.sumyA hfit.sumyB⟩
  · rintro ⟨x, y, hpa, hpb⟩
    exact rectangle_intersect_of_pixel hfit hpa hpb
  · intro h
    rw [rectangle_intersect_eq hfit, Bool.and_eq_true, decide_eq_true_eq, decide_eq_true_eq] at h
    exact ⟨gap_le_of_center_distance_le h.1 ha.ordered.1 hb.ordered.1,
      gap_le_of_center_distance_le h.2 ha.ordered.2 hb.ordered.2⟩

/-- One pixel between two rectangles. -/
theorem rectangle_intersect_tight_gap :
    ((∃ x y, HwcRect.HasPixel ⟨-3, 0, 0, 2⟩ x y ∧ HwcRect.HasPixel ⟨1, 0, 2, 2⟩ x y) →
        rectangle_intersect ⟨-3, 0, 0, 2⟩ ⟨1, 0, 2, 2⟩ = true) ∧
      (rectangle_intersect ⟨-3, 0, 0, 2⟩ ⟨1, 0, 2, 2⟩ = true →
        ((-3 : Int) - 2 ≤ 1 ∧ (1 : Int) - 0 ≤ 1) ∧ ((0 : Int) - 2 ≤ 1 ∧ (0 : Int) - 2 ≤ 1)) ∧
      IntersectFits ⟨-3, 0, 0, 2⟩ ⟨1, 0, 2, 2⟩ ∧
      FitsInt (((0 : Int) + -3).tdiv 2 - ((2 : Int) + 1).tdiv 2) ∧
      FitsInt (((2 : Int) + 0).tdiv 2 - ((2 : Int) + 0).tdiv 2) :=
  rectangle_intersect_tight ⟨by decide, by decide, by decide⟩ ⟨by decide, by decide, by decide⟩

/-! ## Bandwidth -/

structure BandwidthMeter where
  mMaximumBandwidth : Nat
  mCurrentBandwidth : Nat
deriving DecidableEq, Repr

namespace BandwidthMeter

def BANDWIDTH_NO_LIMIT : Nat := 0

def add (m : BandwidthMeter) (bw : Nat) : BandwidthMeter :=
  { m with mCurrentBandwidth := (m.mCurrentBandwidth + bw) % (SIZE_MAX + 1) }

def avaliable (m : BandwidthMeter) : Nat :=
  if m.mMaximumBandwidth = BANDWIDTH_NO_LIMIT then SIZE_MAX
  else if m.mMaximumBandwidth ≤ m.mCurrentBandwidth then 0
  else m.mMaximumBandwidth - m.mCurrentBandwidth

end BandwidthMeter

/-! ## Channels -/

inductive HWChannelType where
  | YUV_CHANNEL | RGB_CHANNEL | RGB_WITHOUT_ALPHA_CHANNEL
deriving DecidableEq, Repr

structure ZoomFactor (F : Type) where
  x : F
  y : F

/-- A slot of an `HWChannel`. -/
structure HWSlot (F : Type) where
  InputLayer : Option (Layer F) := none
  Z : Nat := 0
  DimLayer : Bool := false
  DepthView : Bool := false

structure HWChannel (F : Type) where
  mHardwareIndex : Nat
  mType : HWChannelType
  mAsVideoChannel : Bool
  mAsFrameBufferTarget : Bool
  mPixelFormat : Int
  mBlending : BlendMode
  mIsAFBC : Bool
  mPlaneAlpha : F
  mZoomFactor : ZoomFactor F
  mNextFreeSlot : Nat
  mSlots : List (HWSlot F)
  mDisplayFrameList : List HwcRect

section

variable {F : Type} [CFloat F]

open CFloat

def computeLayerZoomFactor (layer : Option (Layer F)) (transform : ScreenTransform F) :
    ZoomFactor F :=
  match layer with
  | none => { x := ofRat 1, y := ofRat 1 }
  | some layer =>
      if isSoildLayer layer then { x := ofRat 1, y := ofRat 1 }
      else
        let dst := transform.transform layer.displayFrame
        let src := layer.sourceCrop
        -- HAL_TRANSFORM_ROT_90 swaps the sides of the source
        let rotated : Bool := (layer.transform &&& 4) != 0
        let src_width := if rotated then src.height else src.width
        let src_height := if rotated then src.width else src.height
        { x := if src_width = 0 ∨ src_width = 1 then ofRat 1
            else div (ofInt dst.width) (ofInt src_width)
          y := if src_height = 0 ∨ src_height = 1 then ofRat 1
            else div (ofInt dst.height) (ofInt src_height) }

namespace HWChannel

/-- `const float EPSINON = 0.001`: the `float` closest to a thousandth, `8589935 / 2 ^ 33`. -/
def EPSINON : F := ofRat (8589935 / 8589934592)

def new : HWChannel F where
  mHardwareIndex := 0
  mType := .RGB_CHANNEL
  mAsVideoChannel := false
  mAsFrameBufferTarget := false
  mPixelFormat := -1
  mBlending := .Invalid
  mIsAFBC := false
  mPlaneAlpha := ofRat 1
  mZoomFactor := { x := ofRat 0, y := ofRat 0 }
  mNextFreeSlot := 0
  mSlots := List.replicate SLOT_PER_CHANNEL {}
  mDisplayFrameList := []

/-- The channel attributes are those of the layer in the first slot. -/
def insert (ch : HWChannel F) (layer : Layer F) (zoom : ZoomFactor F) (expectSlots : Nat) :
    HWChannel F :=
  let ch :=
    -- init the channel attributes on first ref
    if ch.mNextFreeSlot = 0 then
      { ch with
        mPlaneAlpha := layer.alpha
        mPixelFormat := getLayerPixelFormat layer
        mZoomFactor := zoom
        mBlending := layer.blending
        mIsAFBC := isAfbcBuffer layer.bufferHandle }
    else ch
  { ch with
    mSlots := ch.mSlots.set ch.mNextFreeSlot
      { InputLayer := some layer, Z := 0, DimLayer := isSoildLayer layer, DepthView := false }
    mDisplayFrameList := ch.mDisplayFrameList ++ [layer.displayFrame]
    mNextFreeSlot := ch.mNextFreeSlot + expectSlots }

def freeSlots (ch : HWChannel F) : Nat := SLOT_PER_CHANNEL - ch.mNextFreeSlot

def matchLayer (ch : HWChannel F) (layer : Layer F) (zoom : ZoomFactor F) (slot_expend : Nat) :
    Bool :=
  if ch.freeSlots < slot_expend then false
  -- an AFBC buffer has its channel to itself
  else if ch.mIsAFBC then false
  else if ch.mBlending ≠ layer.blending then false
  else if lt EPSINON (abs (sub layer.alpha ch.mPlaneAlpha)) then false
  else if ch.mPixelFormat ≠ getLayerPixelFormat layer then false
  else if lt EPSINON (abs (sub zoom.x ch.mZoomFactor.x)) ||
      lt EPSINON (abs (sub zoom.y ch.mZoomFactor.y)) then false
  -- a channel that scales does not take a layer with a side below 16 pixels
  else if (!eq ch.mZoomFactor.x (ofRat 1) || !eq ch.mZoomFactor.y (ofRat 1)) &&
      (decide (layer.sourceCrop.width < 16) || decide (layer.sourceCrop.height < 16)) then false
  else true

def intersect (ch : HWChannel F) (layer : Layer F) : Bool :=
  ch.mDisplayFrameList.any fun rect => rectangle_intersect rect layer.displayFrame

def updateDisplayFrame (ch : HWChannel F) (layer : Layer F) : HWChannel F :=
  { ch with mDisplayFrameList := ch.mDisplayFrameList ++ [layer.displayFrame] }

def configSlot (slot : HWSlot F) : ConfigSlot F :=
  match slot.InputLayer with
  | none => {}
  | some layer =>
      { Enable := true, DimLayer := slot.DimLayer, Z := slot.Z, InputLayer := some layer }

/-- `setupChannelConfig` on a configuration fresh from its constructor. -/
def setupChannelConfig (ch : HWChannel F) : ChannelConfig F where
  Index := ch.mHardwareIndex
  VideoChannel := ch.mAsVideoChannel
  ScaleX := ch.mZoomFactor.x
  ScaleY := ch.mZoomFactor.y
  Slots := ch.mSlots.map configSlot

end HWChannel

end

/-! ## The layers of a channel -/

namespace HWChannel

variable {F : Type}

def layers (ch : HWChannel F) : List (Layer F) := ch.mSlots.filterMap HWSlot.InputLayer

/-- Slots are taken from the front, and all layers of a channel agree with its attributes. -/
structure WellFormed (ch : HWChannel F) : Prop where
  slots : ch.mSlots.length = SLOT_PER_CHANNEL
  next : ch.mNextFreeSlot ≤ SLOT_PER_CHANNEL
  unused : ∀ slot ∈ ch.mSlots.drop ch.mNextFreeSlot, slot.InputLayer = none
  frames : ∀ layer ∈ ch.layers, layer.displayFrame ∈ ch.mDisplayFrameList
  format : ∀ layer ∈ ch.layers, getLayerPixelFormat layer = ch.mPixelFormat
  blending : ∀ layer ∈ ch.layers, layer.blending = ch.mBlending

theorem layers_new [CFloat F] : (new : HWChannel F).layers = [] := rfl

theorem wellFormed_new [CFloat F] : (new : HWChannel F).WellFormed where
  slots := rfl
  next := Nat.zero_le _
  unused := by
    intro slot hslot
    rw [List.eq_of_mem_replicate (List.mem_of_mem_drop hslot)]
  frames := by simp [layers_new]
  format := by simp [layers_new]
  blending := by simp [layers_new]

variable {ch : HWChannel F} {layer : Layer F} {zoom : ZoomFactor F} {expectSlots : Nat}

theorem layers_set (h : ch.WellFormed) (hnext : ch.mNextFreeSlot < SLOT_PER_CHANNEL)
    {slot : HWSlot F} (hslot : slot.InputLayer = some layer) :
    (ch.mSlots.set ch.mNextFreeSlot slot).filterMap HWSlot.InputLayer = ch.layers ++ [layer] := by
  have hlt : ch.mNextFreeSlot < ch.mSlots.length := by rw [h.slots]; exact hnext
  have hrest : (ch.mSlots.drop ch.mNextFreeSlot).filterMap HWSlot.InputLayer = [] :=
    List.filterMap_eq_nil_iff.mpr h.unused
  have htail : (ch.mSlots.drop (ch.mNextFreeSlot + 1)).filterMap HWSlot.InputLayer = [] := by
    apply List.filterMap_eq_nil_iff.mpr
    intro s hs
    exact h.unused s (List.drop_subset_drop_left _ (Nat.le_succ _) hs)
  have hall : ch.layers = (ch.mSlots.take ch.mNextFreeSlot).filterMap HWSlot.InputLayer := by
    unfold layers
    conv_lhs => rw [← List.take_append_drop ch.mNextFreeSlot ch.mSlots]
    rw [List.filterMap_append, hrest, List.append_nil]
  rw [List.set_eq_take_append_cons_drop, if_pos hlt, List.filterMap_append,
    List.filterMap_cons_some hslot, htail, hall]

theorem mSlots_insert : (ch.insert layer zoom expectSlots).mSlots =
    ch.mSlots.set ch.mNextFreeSlot
      { InputLayer := some layer, Z := 0, DimLayer := isSoildLayer layer } := by
  unfold insert; split <;> rfl

@[simp]
theorem mNextFreeSlot_insert :
    (ch.insert layer zoom expectSlots).mNextFreeSlot = ch.mNextFreeSlot + expectSlots := by
  unfold insert; split <;> rfl

@[simp]
theorem mDisplayFrameList_insert : (ch.insert layer zoom expectSlots).mDisplayFrameList =
    ch.mDisplayFrameList ++ [layer.displayFrame] := by
  unfold insert; split <;> rfl

@[simp]
theorem mAsVideoChannel_insert :
    (ch.insert layer zoom expectSlots).mAsVideoChannel = ch.mAsVideoChannel := by
  unfold insert; split <;> rfl

theorem mPixelFormat_insert_first (h : ch.mNextFreeSlot = 0) :
    (ch.insert layer zoom expectSlots).mPixelFormat = getLayerPixelFormat layer := by
  unfold insert; rw [if_pos h]

theorem mBlending_insert_first (h : ch.mNextFreeSlot = 0) :
    (ch.insert layer zoom expectSlots).mBlending = layer.blending := by
  unfold insert; rw [if_pos h]

theorem mPixelFormat_insert (h : ch.mNextFreeSlot ≠ 0) :
    (ch.insert layer zoom expectSlots).mPixelFormat = ch.mPixelFormat := by
  unfold insert; rw [if_neg h]

theorem mBlending_insert (h : ch.mNextFreeSlot ≠ 0) :
    (ch.insert layer zoom expectSlots).mBlending = ch.mBlending := by
  unfold insert; rw [if_neg h]

/-- The layer fits into the free slots of the channel and has its format and blending mode. -/
structure Accepts (ch : HWChannel F) (layer : Layer F) (expectSlots : Nat) : Prop where
  pos : 0 < expectSlots
  fit : ch.mNextFreeSlot + expectSlots ≤ SLOT_PER_CHANNEL
  format : ch.mNextFreeSlot ≠ 0 → ch.mPixelFormat = getLayerPixelFormat layer
  blending : ch.mNextFreeSlot ≠ 0 → ch.mBlending = layer.blending

theorem Accepts.mPixelFormat_insert (h : ch.Accepts layer expectSlots) :
    (ch.insert layer zoom expectSlots).mPixelFormat = getLayerPixelFormat layer := by
  by_cases hzero : ch.mNextFreeSlot = 0
  · exact mPixelFormat_insert_first hzero
  · rw [HWChannel.mPixelFormat_insert hzero, h.format hzero]

theorem Accepts.mBlending_insert (h : ch.Accepts layer expectSlots) :
    (ch.insert layer zoom expectSlots).mBlending = layer.blending := by
  by_cases hzero : ch.mNextFreeSlot = 0
  · exact mBlending_insert_first hzero
  · rw [HWChannel.mBlending_insert hzero, h.blending hzero]

theorem layers_insert (h : ch.WellFormed) (hacc : ch.Accepts layer expectSlots)
    (zoom : ZoomFactor F) : (ch.insert layer zoom expectSlots).layers = ch.layers ++ [layer] := by
  have hpos := hacc.pos
  have hfit := hacc.fit
  unfold layers
  rw [mSlots_insert]
  exact layers_set h (by omega) rfl

theorem layers_eq_nil (h : ch.WellFormed) (hnext : ch.mNextFreeSlot = 0) : ch.layers = [] := by
  apply List.filterMap_eq_nil_iff.mpr
  intro slot hslot
  exact h.unused slot (by simpa [hnext] using hslot)

theorem mNextFreeSlot_ne_zero (h : ch.WellFormed) (hl : layer ∈ ch.layers) :
    ch.mNextFreeSlot ≠ 0 := by
  intro hzero
  rw [layers_eq_nil h hzero] at hl
  exact absurd hl List.not_mem_nil

theorem wellFormed_insert (h : ch.WellFormed) (hacc : ch.Accepts layer expectSlots) :
    (ch.insert layer zoom expectSlots).WellFormed := by
  have hpos := hacc.pos
  refine ⟨?_, ?_, ?_, ?_, ?_, ?_⟩
  · rw [mSlots_insert, List.length_set, h.slots]
  · rw [mNextFreeSlot_insert]
    exact hacc.fit
  -- the slot just taken lies below the new `mNextFreeSlot`; one skipped for the right eye is empty
  · intro slot hslot
    rw [mSlots_insert, mNextFreeSlot_insert, List.drop_set_of_lt (by omega)] at hslot
    exact h.unused slot (List.drop_subset_drop_left _ (Nat.le_add_right _ _) hslot)
  · intro l hl
    rw [layers_insert h hacc zoom] at hl
    rw [mDisplayFrameList_insert]
    rcases List.mem_append.mp hl with hl | hl
    · exact List.mem_append_left _ (h.frames l hl)
    · exact List.mem_append_right _ (by simp [List.mem_singleton.mp hl])
  · intro l hl
    rw [layers_insert h hacc zoom] at hl
    rw [hacc.mPixelFormat_insert]
    rcases List.mem_append.mp hl with hl | hl
    · -- an earlier layer, so the channel had a format that the new layer shares
      rw [h.format l hl, hacc.format (mNextFreeSlot_ne_zero h hl)]
    · rw [List.mem_singleton.mp hl]
  · intro l hl
    rw [layers_insert h hacc zoom] at hl
    rw [hacc.mBlending_insert]
    rcases List.mem_append.mp hl with hl | hl
    · rw [h.blending l hl, hacc.blending (mNextFreeSlot_ne_zero h hl)]
    · rw [List.mem_singleton.mp hl]

theorem matchLayer_spec [CFloat F] (hwf : ch.WellFormed) (hpos : 0 < expectSlots)
    (h : ch.matchLayer layer zoom expectSlots = true) :
    ch.Accepts layer expectSlots ∧ ch.mPixelFormat = getLayerPixelFormat layer := by
  unfold matchLayer at h
  by_cases h₁ : ch.freeSlots < expectSlots
  · simp [h₁] at h
  -- of the checks only slots, blending and format matter for the invariant
  by_cases h₂ : ch.mBlending = layer.blending
  · by_cases h₃ : ch.mPixelFormat = getLayerPixelFormat layer
    · have hnext := hwf.next
      unfold freeSlots at h₁
      exact ⟨⟨hpos, by omega, fun _ => h₃, fun _ => h₂⟩, h₃⟩
    · simp [h₃] at h
  · simp [h₂] at h

theorem not_intersect (hwf : ch.WellFormed) (h : ch.intersect layer = false) :
    ∀ a ∈ ch.layers, rectangle_intersect a.displayFrame layer.displayFrame = false := by
  intro a ha
  have hall := List.any_eq_false.mp h a.displayFrame (hwf.frames a ha)
  simpa using hall

end HWChannel

end AwHal.Hwc
