import AwHal.Hwc.HWChannel
import AwHal.Lib.Loop

/-!
# `StrategyHardwareFirst`

The planner of `Strategy.cpp`, statement by statement.  Vectors of channels are lists whose last
element is `back()`.  What would be undefined behaviour or an abort in the sources is a `Fault`.  What
a layer costs is a parameter of a pass, as nothing else depends on the numbers of
`computeLayerMemoryFootprint`.
-/

namespace AwHal.Hwc

open AwHal.Lib

inductive Fault where
  /-- `back()` or `pop_back()` of an empty vector -/
  | emptyVector
  /-- a member of a null pointer -/
  | nullPointer
  /-- a failed `assert` -/
  | assertFailed
  /-- a loop that counts down and starts below zero -/
  | runaway
deriving DecidableEq, Repr

inductive AssignRetCode where
  | ASSIGN_SUCCESS | ASSIGN_FAILED_NO_CLIENT_TARGET_CHANNEL | ASSIGN_FAILED_UNKOWN
deriving DecidableEq, Repr

/-- The members of the planner, and the validated type of every `Layer` object by id. -/
structure StrategyHardwareFirst (F : Type) where
  mTotalInputYuvLayerCnt : Int
  mReservedYUVChannelCnt : Int
  mReservedYUVChannel : List (HWChannel F)
  mFreeChannel : List (HWChannel F)
  mFreeRgbOverlayChannel : List (HWChannel F)
  mAssignedChannel : List (HWChannel F)
  mClientTarget : Option (HWChannel F)
  mChannelExhausted : Bool
  mNeedClientTarget : Bool
  mGpuCompositonLayerCnt : Nat
  mClientCompositionLayers : List (Layer F × Int)
  mBWMeter : BandwidthMeter
  mValidatedType : Nat → Composition

namespace StrategyHardwareFirst

variable {F : Type} [CFloat F]

def new (types : Nat → Composition) : StrategyHardwareFirst F where
  mTotalInputYuvLayerCnt := 0
  mReservedYUVChannelCnt := 0
  mReservedYUVChannel := []
  mFreeChannel := []
  mFreeRgbOverlayChannel := []
  mAssignedChannel := []
  mClientTarget := none
  mChannelExhausted := false
  mNeedClientTarget := false
  mGpuCompositonLayerCnt := 0
  mClientCompositionLayers := []
  mBWMeter := { mMaximumBandwidth := BandwidthMeter.BANDWIDTH_NO_LIMIT, mCurrentBandwidth := 0 }
  mValidatedType := types

def release (s : StrategyHardwareFirst F) : StrategyHardwareFirst F :=
  { s with mAssignedChannel := [], mClientCompositionLayers := [] }

/-- The layers that need a channel with video support. -/
def needsVideoChannel (layer : Layer F) : Bool :=
  isYuvFormat layer || isViChannelExclusiveRgbFormat layer

def pickChannelType (layer : Layer F) : HWChannelType :=
  if needsVideoChannel layer then .YUV_CHANNEL
  else if isBlendingLayer layer then .RGB_CHANNEL
  else .RGB_WITHOUT_ALPHA_CHANNEL

/-! ## Moving channels between the lists -/

/-- `n` calls of `moveOneChannel`, each followed by `setChannelType(t)` on the moved channel. -/
def moveChannels (t : HWChannelType) : Nat → List (HWChannel F) → List (HWChannel F) →
    Except Fault (List (HWChannel F) × List (HWChannel F))
  | 0, dest, source => .ok (dest, source)
  | n + 1, dest, source =>
      match source.getLast? with
      | none => .error .emptyVector
      | some channel => moveChannels t n (dest ++ [{ channel with mType := t }]) source.dropLast

/-- `mergeChannels` takes the channels of `source` from the back. -/
def mergeChannels (dest source : List (HWChannel F)) : List (HWChannel F) :=
  dest ++ source.reverse

/-- The `RGB_CHANNEL` case of `allocateHWChannel`. -/
def allocateFreeChannel (s : StrategyHardwareFirst F) :
    Option (HWChannel F) × StrategyHardwareFirst F :=
  match s.mFreeChannel.getLast? with
  | none => (none, s)
  | some channel => (some channel, { s with mFreeChannel := s.mFreeChannel.dropLast })

def allocateHWChannel (s : StrategyHardwareFirst F) :
    HWChannelType → Option (HWChannel F) × StrategyHardwareFirst F
  | .YUV_CHANNEL =>
      match s.mReservedYUVChannel.getLast? with
      | none => (none, s)
      | some channel =>
          (some { channel with mAsVideoChannel := true },
            { s with mReservedYUVChannel := s.mReservedYUVChannel.dropLast })
  | .RGB_WITHOUT_ALPHA_CHANNEL =>
      match s.mFreeRgbOverlayChannel.getLast? with
      | some channel =>
          (some channel, { s with mFreeRgbOverlayChannel := s.mFreeRgbOverlayChannel.dropLast })
      -- no free overlay channel: fall through to the channels with alpha
      | none => s.allocateFreeChannel
  | .RGB_CHANNEL => s.allocateFreeChannel

/-! ## One pass -/

section

variable (footprint : Option (Layer F) → Nat)

def initAssignmentWith (constraint : PlanConstraint F) (context : CompositionContext F)
    (s : StrategyHardwareFirst F) : Except Fault (StrategyHardwareFirst F × Int) := do
  -- reset every layer's validated type
  let types := context.InputLayers.foldl
    (fun types layer => Function.update types layer.id Composition.Invalid) s.mValidatedType
  let totalChannel := (constraint.MaxHybridChannel + constraint.MaxRGBChannel).toNat
  let free := List.replicate totalChannel HWChannel.new
  let (reserved, free) ←
    moveChannels .YUV_CHANNEL s.mReservedYUVChannelCnt.toNat [] free
  -- the hybrid channels that are not reserved blend only where they have alpha support
  let overlayChannelCount :=
    if constraint.HybridChannelWithAlpha then 0
    else (constraint.MaxHybridChannel - s.mReservedYUVChannelCnt).toNat
  let (overlay, free) ← moveChannels .RGB_WITHOUT_ALPHA_CHANNEL overlayChannelCount [] free
  let s : StrategyHardwareFirst F :=
    { s with
      mValidatedType := types
      mBWMeter := { mMaximumBandwidth := toSize constraint.MaxBandwidth, mCurrentBandwidth := 0 }
      mClientTarget := none
      mGpuCompositonLayerCnt := 0
      mChannelExhausted := false
      mClientCompositionLayers := []
      mAssignedChannel := []
      mReservedYUVChannel := reserved
      mFreeChannel := free
      mFreeRgbOverlayChannel := overlay }
  if s.mNeedClientTarget then
    match s.mFreeChannel.getLast? with
    | some channel =>
        .ok ({ s with
          mClientTarget := some { channel with mAsFrameBufferTarget := true }
          mFreeChannel := s.mFreeChannel.dropLast
          mBWMeter := s.mBWMeter.add (footprint context.FramebufferTarget) }, 0)
    -- "Cannot allocate client target channel": -EINVAL
    | none => .ok (s, -22)
  else .ok (s, 0)

/-- The scan down `mAssignedChannel` for the lowest channel above everything the layer meets;
`none` is `SIZE_MAX`. -/
def lowestNotIntersect (channels : List (HWChannel F)) (layer : Layer F) :
    Nat → Option Nat → Option Nat
  | 0, lowest => lowest
  | index + 1, lowest =>
      match channels[index]? with
      | none => lowest
      | some channel =>
          -- the layer may not sink below a channel it meets
          if channel.intersect layer then lowest
          else lowestNotIntersect channels layer index (some index)

/-- The scan up from `lowestNotIntersectPos` for a channel the layer matches. -/
def findMatch (channels : List (HWChannel F)) (layer : Layer F) (zoom : ZoomFactor F)
    (expectSlot : Nat) : Option Nat → Option Nat
  | none => none
  | some lowest =>
      let matchIndex := lowest +
        (channels.drop lowest).findIdx fun channel => channel.matchLayer layer zoom expectSlot
      if matchIndex < channels.length then some matchIndex else none

def insertAt (s : StrategyHardwareFirst F) (matchIndex : Nat) (layer : Layer F)
    (zoom : ZoomFactor F) (expectSlot memoryFootprint : Nat) : StrategyHardwareFirst F :=
  { s with
    mAssignedChannel :=
      s.mAssignedChannel.modify matchIndex fun channel => channel.insert layer zoom expectSlot
    mBWMeter := s.mBWMeter.add memoryFootprint }

/-- The slots a layer takes: the right eye of a 3D output needs one of its own. -/
def expectSlot (constraint : PlanConstraint F) : Nat := if constraint.Output3D then 2 else 1

/-- The checks of `dispatchToDevice` before it looks for a channel. -/
def checkDeviceWith (constraint : PlanConstraint F) (s : StrategyHardwareFirst F)
    (layer : Layer F) : Int :=
  if !isSoildLayer layer && layer.bufferHandle.isNone then eNullBufferHandle
  else if s.mBWMeter.avaliable < footprint (some layer) then eMemoryLimit
  else if isSoildLayer layer then 0
  else match constraint.Detector with
    | some capable => capable layer
    | none => 0

/-- The assigned channel that `dispatchToDevice` picks for the layer, when there is one. -/
def matchChannel (constraint : PlanConstraint F) (channels : List (HWChannel F))
    (layer : Layer F) : Option Nat :=
  let lowestNotIntersectPos := lowestNotIntersect channels layer channels.length none
  let zoom := computeLayerZoomFactor (some layer) constraint.ScreenTransform
  findMatch channels layer zoom (expectSlot constraint) lowestNotIntersectPos

def dispatchToDeviceWith (constraint : PlanConstraint F) (s : StrategyHardwareFirst F)
    (layer : Layer F) : StrategyHardwareFirst F × Int :=
  let error := s.checkDeviceWith footprint constraint layer
  if error ≠ 0 then (s, error)
  else
    let zoom := computeLayerZoomFactor (some layer) constraint.ScreenTransform
    let memoryFootprint := footprint (some layer)
    match matchChannel constraint s.mAssignedChannel layer with
    | some matchIndex =>
        (s.insertAt matchIndex layer zoom (expectSlot constraint) memoryFootprint, 0)
    | none =>
        match s.allocateHWChannel (pickChannelType layer) with
        -- `perform` reads the flag after the pass, to hand unused video channels to RGB layers
        | (none, s) => ({ s with mChannelExhausted := true }, eNoFreeChannel)
        | (some channel, s) =>
            ({ s with mAssignedChannel := s.mAssignedChannel ++ [channel] }.insertAt
              s.mAssignedChannel.length layer zoom (expectSlot constraint) memoryFootprint, 0)

def dispatchToClientTarget (s : StrategyHardwareFirst F) (layer : Layer F) (reason : Int) :
    Except Fault (StrategyHardwareFirst F) :=
  match s.mClientTarget with
  | none => .error .assertFailed
  | some target =>
      .ok { s with
        mClientTarget := some (target.updateDisplayFrame layer)
        mClientCompositionLayers := s.mClientCompositionLayers ++ [(layer, reason)] }

/-- From the label `__assign_as_gpu_composition` to the end of the loop body; the code, when there
is one, ends the pass. -/
def assignAsGpuCompositionWith (context : CompositionContext F) (s : StrategyHardwareFirst F)
    (layer : Layer F) (fallbackReason : Int) :
    Except Fault (StrategyHardwareFirst F × Option AssignRetCode) :=
  -- no bandwidth for the layer and no client target yet: roll back and reserve the target first
  if fallbackReason = eMemoryLimit ∧ s.mClientTarget.isNone then
    .ok (s, some .ASSIGN_FAILED_NO_CLIENT_TARGET_CHANNEL)
  else
    let allocated : Except AssignRetCode (StrategyHardwareFirst F) :=
      if s.mClientTarget.isSome then .ok s
      else
        let memoryFootprint := footprint context.FramebufferTarget
        if s.mBWMeter.avaliable < memoryFootprint then
          .error .ASSIGN_FAILED_NO_CLIENT_TARGET_CHANNEL
        else
          match s.allocateHWChannel .RGB_CHANNEL with
          | (none, _) => .error .ASSIGN_FAILED_NO_CLIENT_TARGET_CHANNEL
          | (some channel, s) =>
              .ok { s with
                mClientTarget := some { channel with mAsFrameBufferTarget := true }
                mBWMeter := s.mBWMeter.add memoryFootprint }
    match allocated with
    | .error code => .ok (s, some code)
    | .ok s =>
        match s.dispatchToClientTarget layer fallbackReason with
        | .error fault => .error fault
        | .ok s => .ok ({ s with mGpuCompositonLayerCnt := s.mGpuCompositonLayerCnt + 1 }, none)

def assignLayerWith (constraint : PlanConstraint F) (context : CompositionContext F)
    (s : StrategyHardwareFirst F) (layer : Layer F) :
    Except Fault (StrategyHardwareFirst F × Option AssignRetCode) :=
  -- marked for the GPU by SurfaceFlinger
  if isSkipLayer layer then
    s.assignAsGpuCompositionWith footprint context layer eSkipBySurfaceFlinger
  else
    -- a layer over what the GPU has drawn so far is drawn by the GPU too
    let covered : Except Fault Bool :=
      if s.mGpuCompositonLayerCnt = 0 then .ok false
      else match s.mClientTarget with
        | none => .error .nullPointer
        | some target => .ok (target.intersect layer)
    match covered with
    | .error fault => .error fault
    | .ok true => s.assignAsGpuCompositionWith footprint context layer eCoverByClientTarget
    | .ok false =>
        let (s, error) := s.dispatchToDeviceWith footprint constraint layer
        if error = 0 then .ok (s, none)
        else s.assignAsGpuCompositionWith footprint context layer error

def doAssignmentWith (constraint : PlanConstraint F) (context : CompositionContext F) :
    StrategyHardwareFirst F → List (Layer F) →
      Except Fault (StrategyHardwareFirst F × AssignRetCode)
  | s, [] => .ok (s, .ASSIGN_SUCCESS)
  | s, layer :: layers =>
      match s.assignLayerWith footprint constraint context layer with
      | .error fault => .error fault
      | .ok (s, some code) => .ok (s, code)
      | .ok (s, none) => doAssignmentWith constraint context s layers

def performPassWith (constraint : PlanConstraint F) (context : CompositionContext F)
    (s : StrategyHardwareFirst F) :
    Except Fault (Next (StrategyHardwareFirst F) (StrategyHardwareFirst F × Int)) := do
  -- the return value of `initAssignment` is not looked at
  let (s, _) ← s.initAssignmentWith footprint constraint context
  let (s, error) ← doAssignmentWith footprint constraint context s context.InputLayers
  match error with
  | .ASSIGN_SUCCESS =>
      if s.mChannelExhausted && !s.mReservedYUVChannel.isEmpty then
        -- the UI channels ran out while video channels are left: reserve fewer, and start again
        let reserved := s.mReservedYUVChannelCnt - s.mReservedYUVChannel.length
        .ok (.again { s with
          mReservedYUVChannelCnt := if reserved < 0 then 0 else reserved
          mChannelExhausted := false
          mNeedClientTarget := false })
      else .ok (.done (s, 0))
  | .ASSIGN_FAILED_NO_CLIENT_TARGET_CHANNEL =>
      -- `assert(mNeedClientTarget == false)`, which guards against a dead loop
      if s.mNeedClientTarget then .error .assertFailed
      else .ok (.again { s with mNeedClientTarget := true })
  | .ASSIGN_FAILED_UNKOWN => .ok (.done (s, -1))

end

section

variable (constraint : PlanConstraint F) (context : CompositionContext F)
  (s : StrategyHardwareFirst F)

/-! With the footprint of the sources: -/

def initAssignment : Except Fault (StrategyHardwareFirst F × Int) :=
  s.initAssignmentWith computeLayerMemoryFootprint constraint context

def checkDevice (layer : Layer F) : Int :=
  s.checkDeviceWith computeLayerMemoryFootprint constraint layer

def dispatchToDevice (layer : Layer F) : StrategyHardwareFirst F × Int :=
  s.dispatchToDeviceWith computeLayerMemoryFootprint constraint layer

def assignAsGpuComposition (layer : Layer F) (fallbackReason : Int) :
    Except Fault (StrategyHardwareFirst F × Option AssignRetCode) :=
  s.assignAsGpuCompositionWith computeLayerMemoryFootprint context layer fallbackReason

def assignLayer (layer : Layer F) :
    Except Fault (StrategyHardwareFirst F × Option AssignRetCode) :=
  s.assignLayerWith computeLayerMemoryFootprint constraint context layer

def doAssignment (layers : List (Layer F)) :
    Except Fault (StrategyHardwareFirst F × AssignRetCode) :=
  doAssignmentWith computeLayerMemoryFootprint constraint context s layers

def performPass :
    Except Fault (Next (StrategyHardwareFirst F) (StrategyHardwareFirst F × Int)) :=
  s.performPassWith computeLayerMemoryFootprint constraint context

theorem doAssignment_cons (layer : Layer F) (layers : List (Layer F)) :
    doAssignment constraint context s (layer :: layers) =
      match s.assignLayer constraint context layer with
      | .error fault => .error fault
      | .ok (s, some code) => .ok (s, code)
      | .ok (s, none) => doAssignment constraint context s layers := rfl

end

/-! ## Accepting the result -/

/-- What the loops of `acceptAssignResult` thread through the slots. -/
structure Accepted where
  zorder : Nat
  types : Nat → Composition
  Tracks : List (Nat × TrackNode)

def acceptSlot (hardwareIndex i : Nat) (slot : HWSlot F) (a : Accepted) : HWSlot F × Accepted :=
  match slot.InputLayer with
  | none => (slot, a)
  | some layer =>
      ({ slot with Z := a.zorder },
        { zorder := a.zorder + 1
          types := Function.update a.types layer.id
            (if isSoildLayer layer then .SolidColor else .Device)
          Tracks := emplaceTrack a.Tracks layer.id
            { FallbackReason := eHardwareLayer, Channel := some hardwareIndex, Slot := i } })

def acceptSlots (hardwareIndex : Nat) : Nat → List (HWSlot F) → Accepted →
    List (HWSlot F) × Accepted
  | _, [], a => ([], a)
  | i, slot :: slots, a =>
      let (slot, a) := acceptSlot hardwareIndex i slot a
      let (slots, a) := acceptSlots hardwareIndex (i + 1) slots a
      (slot :: slots, a)

def acceptChannels : Nat → List (HWChannel F) → Accepted → List (HWChannel F) × Accepted
  | _, [], a => ([], a)
  | hardwareIndex, channel :: channels, a =>
      let (slots, a) := acceptSlots hardwareIndex 0 channel.mSlots a
      let channel := { channel with mHardwareIndex := hardwareIndex, mSlots := slots }
      let (channels, a) := acceptChannels (hardwareIndex + 1) channels a
      (channel :: channels, a)

def acceptAssignResult (context : CompositionContext F) (s : StrategyHardwareFirst F)
    (out : PlanningOutput F) : StrategyHardwareFirst F × PlanningOutput F :=
  -- the client target lies over every assigned channel; the unused ones follow it
  let assigned :=
    match s.mClientTarget with
    | none => s.mAssignedChannel
    | some target => s.mAssignedChannel ++ [target]
  let assigned := mergeChannels assigned s.mReservedYUVChannel
  let assigned := mergeChannels assigned s.mFreeRgbOverlayChannel
  let assigned := mergeChannels assigned s.mFreeChannel
  let (channels, a) := acceptChannels 0 assigned
    { zorder := 0, types := s.mValidatedType, Tracks := out.Tracks }
  let types := s.mClientCompositionLayers.foldl
    (fun types p => Function.update types p.1.id Composition.Client) a.types
  let tracks := s.mClientCompositionLayers.foldl
    (fun tracks p => emplaceTrack tracks p.1.id { FallbackReason := p.2 }) a.Tracks
  let tracks :=
    match context.FramebufferTarget with
    | none => tracks
    | some target =>
        -- nothing was left to the GPU: the framebuffer target is recorded as not used
        if s.mGpuCompositonLayerCnt = 0 then
          emplaceTrack tracks target.id { FallbackReason := eClientTarget }
        else tracks
  ({ s with
      mClientTarget := none
      mReservedYUVChannel := []
      mFreeRgbOverlayChannel := []
      mFreeChannel := []
      mAssignedChannel := channels
      mValidatedType := types },
    { Configs := out.Configs ++ channels.map HWChannel.setupChannelConfig
      Tracks := tracks })

/-! ## `perform` -/

structure Performed (F : Type) where
  ret : Int
  strategy : StrategyHardwareFirst F
  out : PlanningOutput F

/-- The reservation `perform` starts with: as many YUV channels as possible. -/
def startAssign (constraint : PlanConstraint F) (context : CompositionContext F)
    (s : StrategyHardwareFirst F) : StrategyHardwareFirst F :=
  let total : Int := context.InputLayers.countP needsVideoChannel
  { s with
    mTotalInputYuvLayerCnt := total
    mReservedYUVChannelCnt :=
      if total < constraint.MaxHybridChannel then total else constraint.MaxHybridChannel
    mNeedClientTarget := false }

def finishAssign (constraint : PlanConstraint F) (context : CompositionContext F)
    (s : StrategyHardwareFirst F) (out : PlanningOutput F) : Except Fault (Performed F) := do
  let s : StrategyHardwareFirst F ←
    match s.mClientTarget with
    | none => .ok s
    | some target =>
        match context.FramebufferTarget with
        | none => .error .nullPointer
        | some layer =>
            let zoom := computeLayerZoomFactor (some layer) constraint.ScreenTransform
            .ok { s with mClientTarget := some (target.insert layer zoom 1) }
  let (s, out) := s.acceptAssignResult context out
  .ok { ret := 0, strategy := s, out := out }

/-- `perform` with at most `fuel` turns of the retry loop; `none` when they do not suffice. -/
def performWith (footprint : Option (Layer F) → Nat) (fuel : Nat) (constraint : PlanConstraint F)
    (context : CompositionContext F) (s : StrategyHardwareFirst F) (out : PlanningOutput F) :
    Except Fault (Option (Performed F)) := do
  match ← loop (performPassWith footprint constraint context) fuel
      (s.startAssign constraint context) with
  | none => .ok none
  | some (s, ret) =>
      if ret = 0 then
        let r ← s.finishAssign constraint context out
        .ok (some r)
      else .ok (some { ret := ret, strategy := s, out := out })

def perform (fuel : Nat) (constraint : PlanConstraint F) (context : CompositionContext F)
    (s : StrategyHardwareFirst F) (out : PlanningOutput F) :
    Except Fault (Option (Performed F)) :=
  s.performWith computeLayerMemoryFootprint fuel constraint context out

end StrategyHardwareFirst

end AwHal.Hwc
