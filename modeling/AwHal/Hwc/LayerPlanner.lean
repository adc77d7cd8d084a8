import AwHal.Hwc.Layer

/-!
# What the planner is given and what it returns

`LayerPlanner.h`, `Display.h` and `errorcode.h`: the constraint of the display engine, the layers of
one frame, and the channel configurations with the track of every layer.
-/

namespace AwHal.Hwc

def SLOT_PER_CHANNEL : Nat := 4

def INVALID_SLOT : Int := -1

/-! ## `FallbackErrorCode`

A detector may answer any `int`, so the codes are integers with names. -/

def eHardwareLayer : Int := 0
def eForceGpuComposition : Int := 1
def eNoFreeChannel : Int := 2
def eMemoryLimit : Int := 4
def eCoverByClientTarget : Int := 5
def eNullBufferHandle : Int := 6
def eSkipBySurfaceFlinger : Int := 7
def eClientTarget : Int := 8

/-- The restrictions of the hardware for one frame.  The counts are `int`s in the source.  They come from
the tables of the boards, and there are never more channels than there is memory for, so nothing that
is computed with them overflows. -/
structure PlanConstraint (F : Type) where
  MaxHybridChannel : Int
  MaxRGBChannel : Int
  MaxHdrHybridChannel : Int := 0
  MaxHdrRGBChannel : Int := 0
  usingHdr : Bool := false
  totalChannelCount : Int := 0
  HybridChannelWithAlpha : Bool
  MaxBandwidth : Int
  Output3D : Bool
  ScreenTransform : ScreenTransform F
  /-- `capable` of the registered detector, when there is one. -/
  Detector : Option (Layer F → Int)

/-- The layers of one frame, lowest first, and the layer that shows what the GPU composed. -/
structure CompositionContext (F : Type) where
  InputLayers : List (Layer F)
  FramebufferTarget : Option (Layer F)

structure ConfigSlot (F : Type) where
  Enable : Bool := false
  DimLayer : Bool := false
  Z : Nat := 0
  InputLayer : Option (Layer F) := none

structure ChannelConfig (F : Type) where
  Index : Nat
  VideoChannel : Bool
  ScaleX : F
  ScaleY : F
  Slots : List (ConfigSlot F)

/-- Where a layer went: the position of its configuration in `Configs`, or why it has none. -/
structure TrackNode where
  FallbackReason : Int
  Channel : Option Nat := none
  Slot : Int := INVALID_SLOT
deriving DecidableEq, Repr

structure PlanningOutput (F : Type) where
  Configs : List (ChannelConfig F) := []
  Tracks : List (Nat × TrackNode) := []

/-- `unordered_map::emplace`: an entry that is already there stays. -/
def emplaceTrack (tracks : List (Nat × TrackNode)) (id : Nat) (node : TrackNode) :
    List (Nat × TrackNode) :=
  if id ∈ tracks.map Prod.fst then tracks else tracks ++ [(id, node)]

theorem emplaceTrack_of_not_mem {tracks : List (Nat × TrackNode)} {id : Nat} (node : TrackNode)
    (h : id ∉ tracks.map Prod.fst) : emplaceTrack tracks id node = tracks ++ [(id, node)] := by
  rw [emplaceTrack, if_neg h]

namespace PlanningOutput

variable {F : Type}

/-- Slot `j` of configuration `i` is enabled and shows `layer` at height `z`. -/
def Shows (out : PlanningOutput F) (i j : Nat) (layer : Layer F) (z : Nat) : Prop :=
  ∃ cfg slot, out.Configs[i]? = some cfg ∧ cfg.Slots[j]? = some slot ∧
    slot.Enable = true ∧ slot.InputLayer = some layer ∧ slot.Z = z

def enabledZ (out : PlanningOutput F) : List Nat :=
  (out.Configs.flatMap ChannelConfig.Slots).filterMap fun slot =>
    if slot.Enable then some slot.Z else none

end PlanningOutput

end AwHal.Hwc
