import AwHal.Hwc.Rearrange

/-!
# `Compositor::prepare`

From the hardware table of a board to the configurations of a frame: the plan constraint with its
override in HDR mode, the two strategies of the layer planner, and the rearrangement.  The dataspace
that `prepare` reports to the display service is left out; what is used here is the dataspace in
force when the constraint is built.
-/

namespace AwHal.Hwc

open AwHal.Lib

set_option linter.unusedSectionVars false

/-! ## Hardware tables -/

structure DEHardwareInfo where
  videoChannelCount : Int
  uiChannelCount : Int
  videoHdrCount : Int
  uiHdrCount : Int
  featureMask : Nat
deriving DecidableEq, Repr

def eHybridChannelWithAlpha : Nat := 1
def eAfbcBufferSupported : Nat := 2
def eHdrSupported : Nat := 4

/-- The boards of `CompositionEngineV2Impl_defs.h`; `apollo` stands for `epic` and `mercury` too. -/
inductive Board where
  | dolphin | petrel | venus | ceres | pluto | apollo
deriving DecidableEq, Repr

def HardwareConfigs : Board → List DEHardwareInfo
  | .dolphin | .venus => [⟨1, 3, 0, 0, 0⟩, ⟨1, 1, 0, 0, 0⟩]
  | .petrel | .apollo =>
      [⟨1, 3, 1, 1, eHybridChannelWithAlpha ||| eAfbcBufferSupported ||| eHdrSupported⟩,
        ⟨1, 1, 0, 0, eHybridChannelWithAlpha⟩]
  | .ceres | .pluto =>
      [⟨2, 2, 0, 0, eHybridChannelWithAlpha⟩, ⟨1, 2, 0, 0, eHybridChannelWithAlpha⟩]

/-- `CompositionEngine::Attribute` as `CompositionEngineV2Impl::setup` fills it in. -/
structure Attribute where
  featureMask : Nat
  maxHybridChannelCount : Int
  maxRGBChannelCount : Int
  maxHdrHybridCount : Int
  maxHdrRGBCount : Int
  maxBandwidth : Int

def Attribute.setup (info : DEHardwareInfo) (maxBandwidth : Int) : Attribute where
  featureMask := info.featureMask
  maxHybridChannelCount := info.videoChannelCount
  maxRGBChannelCount := info.uiChannelCount
  maxHdrHybridCount := info.videoHdrCount
  maxHdrRGBCount := info.uiHdrCount
  maxBandwidth := maxBandwidth

/-! ## `StrategyGPUOnly` -/

section

variable {F : Type} [CFloat F]

/-- The members that the constructor of `ChannelConfig` leaves as they are in memory. -/
structure RawConfig (F : Type) where
  VideoChannel : Bool
  ScaleX : F
  ScaleY : F

def ChannelConfig.new (raw : RawConfig F) : ChannelConfig F where
  Index := 0
  VideoChannel := raw.VideoChannel
  ScaleX := raw.ScaleX
  ScaleY := raw.ScaleY
  Slots := List.replicate SLOT_PER_CHANNEL {}

/-- The configuration that shows the framebuffer alone. -/
def framebufferConfig (target : Layer F) : ChannelConfig F where
  Index := 0
  VideoChannel := false
  ScaleX := CFloat.ofRat 1
  ScaleY := CFloat.ofRat 1
  Slots := { Enable := true, DimLayer := false, Z := 0, InputLayer := some target } ::
    List.replicate (SLOT_PER_CHANNEL - 1) {}

/-- `StrategyGPUOnly::perform`, which always returns 0; `raw k` is the memory of the `k`-th empty
configuration. -/
def StrategyGPUOnly.perform (raw : Nat → RawConfig F) (constraint : PlanConstraint F)
    (context : CompositionContext F) (types : Nat → Composition) (out : PlanningOutput F) :
    Except Fault ((Nat → Composition) × PlanningOutput F) :=
  let types := context.InputLayers.foldl
    (fun types layer => Function.update types layer.id Composition.Client) types
  let tracks := context.InputLayers.foldl
    (fun tracks layer => emplaceTrack tracks layer.id { FallbackReason := eForceGpuComposition })
    out.Tracks
  let (types, out) :=
    match context.FramebufferTarget with
    | some target =>
        -- nothing to show: all channels are closed
        if context.InputLayers.isEmpty then (types, { out with Tracks := tracks })
        else (Function.update types target.id .Device,
          { Configs := [framebufferConfig target]
            Tracks := emplaceTrack tracks target.id
              { FallbackReason := eClientTarget, Channel := some 0, Slot := 0 } })
    | none => (types, { out with Tracks := tracks })
  -- so that the unused hardware channels are closed
  let emptyChannelCount : Int := constraint.totalChannelCount - out.Configs.length
  if emptyChannelCount < 0 then .error .runaway
  else .ok (types, { out with
    Configs := out.Configs ++
      (List.range emptyChannelCount.toNat).map fun k => ChannelConfig.new (raw k) })

/-! ## `LayerPlanner` -/

inductive StrategyType where
  | eGPUOnly | eHardwareFirst
deriving DecidableEq, Repr

structure LayerPlanner (F : Type) where
  mActiveStrategy : StrategyType
  hardwareFirst : StrategyHardwareFirst F

def LayerPlanner.setStrategy (p : LayerPlanner F) (type : StrategyType) : LayerPlanner F where
  mActiveStrategy := type
  hardwareFirst :=
    match p.mActiveStrategy with
    | .eHardwareFirst => p.hardwareFirst.release
    | .eGPUOnly => p.hardwareFirst

/-- `none` when `fuel` turns of the retry loop do not suffice. -/
def LayerPlanner.advanceFrame (raw : Nat → RawConfig F) (fuel : Nat) (p : LayerPlanner F)
    (constraint : PlanConstraint F) (context : CompositionContext F) (out : PlanningOutput F) :
    Except Fault (Option (LayerPlanner F × PlanningOutput F)) := do
  match p.mActiveStrategy with
  | .eGPUOnly =>
      let (types, out) ←
        StrategyGPUOnly.perform raw constraint context p.hardwareFirst.mValidatedType out
      .ok (some
        ({ p with hardwareFirst := { p.hardwareFirst with mValidatedType := types } }, out))
  | .eHardwareFirst =>
      match ← p.hardwareFirst.perform fuel constraint context out with
      | none => .ok none
      | some r =>
          -- a strategy that fails is followed by GPU composition
          if r.ret = 0 then .ok (some ({ p with hardwareFirst := r.strategy }, r.out))
          else
            let (types, out) ← StrategyGPUOnly.perform raw constraint context
              r.strategy.mValidatedType r.out
            .ok (some
              ({ p with hardwareFirst := { r.strategy with mValidatedType := types } }, out))

/-! ## `Compositor` -/

def HAL_COLOR_TRANSFORM_IDENTITY : Int := 0

def eDataspaceSdr : Int := 0x1001

def eDataspaceHdr : Int := 0x1002

def MAX_LAYER_COUNT : Int := 16

structure Compositor (F : Type) where
  mAttribute : Attribute
  mTransform : ScreenTransform F
  mLayerDetector : Layer F → Int
  mOutput3D : Bool
  mBlankOutput : Bool
  mDataspace : Int
  mColorTransform : Int
  mCommitIdle : Bool
  /-- The answer of `mFrameRateAuditor.isNeedGPUComposiLastFrame()`. -/
  needGPUComposiLastFrame : Bool

namespace Compositor

def pickCompositionStrategy (c : Compositor F) : StrategyType :=
  if c.mColorTransform ≠ HAL_COLOR_TRANSFORM_IDENTITY ∨
      (c.mCommitIdle ∧ c.needGPUComposiLastFrame) then .eGPUOnly
  else .eHardwareFirst

def createPlanConstraint (c : Compositor F) : Except Fault (PlanConstraint F) :=
  let attr := c.mAttribute
  if (attr.maxHybridChannelCount + attr.maxRGBChannelCount) * SLOT_PER_CHANNEL ≤ MAX_LAYER_COUNT
  then
    .ok
      { MaxBandwidth := attr.maxBandwidth
        MaxHybridChannel := attr.maxHybridChannelCount
        MaxRGBChannel := attr.maxRGBChannelCount
        MaxHdrHybridChannel := attr.maxHdrHybridCount
        MaxHdrRGBChannel := attr.maxHdrRGBCount
        usingHdr := false
        totalChannelCount := attr.maxHybridChannelCount + attr.maxRGBChannelCount
        HybridChannelWithAlpha := (attr.featureMask &&& eHybridChannelWithAlpha) != 0
        Output3D := c.mOutput3D
        Detector := some c.mLayerDetector
        ScreenTransform := c.mTransform }
  else .error .assertFailed

def overrideForHdr (mDataspace : Int) (constraint : PlanConstraint F) : PlanConstraint F :=
  if (constraint.MaxHdrHybridChannel ≠ 0 ∨ constraint.MaxHdrRGBChannel ≠ 0) ∧
      mDataspace ≠ eDataspaceSdr then
    -- `totalChannelCount` stays that of the engine
    { constraint with
      MaxHybridChannel := constraint.MaxHdrHybridChannel
      MaxRGBChannel := constraint.MaxHdrRGBChannel
      usingHdr := true }
  else constraint

/-- The layer planner and `mAssignment` after `prepare`; no assignment while the output is blank. -/
structure Prepared (F : Type) where
  mLayerPlanner : LayerPlanner F
  mAssignment : Option (PlanningOutput F)

def prepare (raw : Nat → RawConfig F) (fuel : Nat) (c : Compositor F)
    (context : CompositionContext F) (planner : LayerPlanner F) :
    Except Fault (Option (Prepared F)) := do
  if c.mBlankOutput then .ok (some { mLayerPlanner := planner, mAssignment := none })
  else
    let constraint ← c.createPlanConstraint
    let constraint := overrideForHdr c.mDataspace constraint
    let planner := planner.setStrategy c.pickCompositionStrategy
    match ← planner.advanceFrame raw fuel constraint context {} with
    | none => .ok none
    | some (planner, out) =>
        .ok (some
          { mLayerPlanner := planner
            mAssignment := some { out with Configs := rearrangeChannel out.Configs } })

/-! ## Every hardware channel is configured -/

def ClosesEveryChannel (total : Nat) (configs : List (ChannelConfig F)) : Prop :=
  configs.length = total ∧ (configs.map ChannelConfig.Index).Perm (List.range total)

theorem index_rearrangeChannel (configs : List (ChannelConfig F)) :
    (rearrangeChannel configs).map ChannelConfig.Index = List.range configs.length := by
  rw [rearrangeChannel_eq]
  apply List.ext_getElem?
  intro i
  rw [List.getElem?_map, List.getElem?_mapIdx]
  have hlen : (hardwareOrder configs).length = configs.length :=
    (partitioned_perm _ configs).length_eq
  by_cases hi : i < configs.length
  · rw [List.getElem?_eq_getElem (hlen ▸ hi), List.getElem?_range hi]
    rfl
  · rw [List.getElem?_eq_none (by omega), List.getElem?_eq_none (by simpa using hi)]
    rfl

theorem closesEveryChannel_rearrange (total : Nat) (configs : List (ChannelConfig F)) :
    ClosesEveryChannel total (rearrangeChannel configs) ↔ configs.length = total := by
  have hindex := index_rearrangeChannel configs
  have hlen : (rearrangeChannel configs).length = configs.length := by
    have h := congrArg List.length hindex
    simpa using h
  unfold ClosesEveryChannel
  rw [hindex, hlen]
  constructor
  · exact fun h => h.1
  · rintro rfl
    exact ⟨rfl, List.Perm.refl _⟩

theorem gpuOnly_configs (raw : Nat → RawConfig F) (constraint : PlanConstraint F)
    (context : CompositionContext F) (types : Nat → Composition)
    (htotal : 1 ≤ constraint.totalChannelCount) :
    ∃ types' out, StrategyGPUOnly.perform raw constraint context types {} = .ok (types', out) ∧
      out.Configs.length = constraint.totalChannelCount.toNat := by
  -- at most the configuration of the framebuffer is there before the empty ones are added
  have hpad : ∀ (types' : Nat → Composition) (out : PlanningOutput F), out.Configs.length ≤ 1 →
      ∃ types'' out', (if constraint.totalChannelCount - (out.Configs.length : Int) < 0 then
          (.error .runaway : Except Fault ((Nat → Composition) × PlanningOutput F))
        else .ok (types', { out with
          Configs := out.Configs ++ (List.range (constraint.totalChannelCount -
            (out.Configs.length : Int)).toNat).map fun k => ChannelConfig.new (raw k) })) =
          .ok (types'', out') ∧
        out'.Configs.length = constraint.totalChannelCount.toNat := by
    intro types' out hle
    refine ⟨types', _, if_neg (by omega), ?_⟩
    simp only [List.length_append, List.length_map, List.length_range]
    omega
  unfold StrategyGPUOnly.perform
  cases context.FramebufferTarget with
  | none => exact hpad _ _ (Nat.zero_le 1)
  | some target =>
      cases context.InputLayers.isEmpty with
      | true => exact hpad _ _ (Nat.zero_le 1)
      | false => exact hpad _ _ le_rfl

theorem hardwareFirst_configs {constraint : PlanConstraint F} {context : CompositionContext F}
    {s : StrategyHardwareFirst F} {fuel : Nat} {r : StrategyHardwareFirst.Performed F}
    (hR : 1 ≤ constraint.MaxRGBChannel) (hfb : context.FramebufferTarget.isSome)
    (h : s.perform fuel constraint context {} = .ok (some r)) :
    r.out.Configs.length = (constraint.MaxHybridChannel + constraint.MaxRGBChannel).toNat := by
  obtain ⟨fb, hfb⟩ := Option.isSome_iff_exists.mp hfb
  obtain ⟨head, last, _, _, hended, hconfigs⟩ :=
    StrategyHardwareFirst.perform_configs hR hfb h
  rw [hconfigs, List.length_map, StrategyHardwareFirst.acceptedChannels,
    StrategyHardwareFirst.length_acceptChannels, hended.inv.length_merged]
  rfl

def plannedChannels (constraint : PlanConstraint F) : StrategyType → Int
  | .eGPUOnly => constraint.totalChannelCount
  | .eHardwareFirst => constraint.MaxHybridChannel + constraint.MaxRGBChannel

theorem advanceFrame_configs (raw : Nat → RawConfig F) {fuel : Nat} (p : LayerPlanner F)
    {constraint : PlanConstraint F} {context : CompositionContext F}
    (hH : 0 ≤ constraint.MaxHybridChannel) (hR : 1 ≤ constraint.MaxRGBChannel)
    (htotal : 1 ≤ constraint.totalChannelCount) (hfb : context.FramebufferTarget.isSome)
    (hfuel : 2 * constraint.MaxHybridChannel.toNat + 2 ≤ fuel) :
    ∃ p' out, p.advanceFrame raw fuel constraint context {} = .ok (some (p', out)) ∧
      out.Configs.length = (plannedChannels constraint p.mActiveStrategy).toNat := by
  obtain ⟨active, s⟩ := p
  cases active with
  | eGPUOnly =>
      obtain ⟨types, out, hperform, hlen⟩ :=
        gpuOnly_configs raw constraint context s.mValidatedType htotal
      refine ⟨⟨.eGPUOnly, { s with mValidatedType := types }⟩, out, ?_, hlen⟩
      simp only [LayerPlanner.advanceFrame, hperform]
      rfl
  | eHardwareFirst =>
      obtain ⟨r, hperform, hret⟩ :=
        StrategyHardwareFirst.perform_returns constraint context s {} hH hR hfb hfuel
      refine ⟨⟨.eHardwareFirst, r.strategy⟩, r.out, ?_, hardwareFirst_configs hR hfb hperform⟩
      simp only [LayerPlanner.advanceFrame, hperform, bind, Except.bind, if_pos hret]

/-- What the tables have in common. -/
structure TableOk (info : DEHardwareInfo) : Prop where
  video : 0 ≤ info.videoChannelCount ∧ info.videoChannelCount ≤ 2
  ui : 1 ≤ info.uiChannelCount
  fits : (info.videoChannelCount + info.uiChannelCount) * 4 ≤ 16
  hdr : (info.videoHdrCount = 0 ∧ info.uiHdrCount = 0) ∨
    (info.videoHdrCount = 1 ∧ info.uiHdrCount = 1 ∧
      info.videoChannelCount + info.uiChannelCount ≠ 2)

theorem tableOk_of_mem {board : Board} {info : DEHardwareInfo}
    (h : info ∈ HardwareConfigs board) : TableOk info := by
  cases board <;> simp only [HardwareConfigs, List.mem_cons, List.not_mem_nil, or_false] at h <;>
    rcases h with rfl | rfl <;> constructor <;> decide

theorem createPlanConstraint_eq {info : DEHardwareInfo} (htable : TableOk info)
    {maxBandwidth : Int} {c : Compositor F} (hattr : c.mAttribute = .setup info maxBandwidth) :
    ∃ constraint, c.createPlanConstraint = .ok constraint ∧
      constraint.MaxHybridChannel = info.videoChannelCount ∧
      constraint.MaxRGBChannel = info.uiChannelCount ∧
      constraint.MaxHdrHybridChannel = info.videoHdrCount ∧
      constraint.MaxHdrRGBChannel = info.uiHdrCount ∧
      constraint.totalChannelCount = info.videoChannelCount + info.uiChannelCount := by
  have hfits : (c.mAttribute.maxHybridChannelCount + c.mAttribute.maxRGBChannelCount) *
      SLOT_PER_CHANNEL ≤ MAX_LAYER_COUNT := by
    rw [hattr]
    exact htable.fits
  refine ⟨_, if_pos hfits, ?_⟩
  rw [hattr]
  exact ⟨rfl, rfl, rfl, rfl, rfl⟩

/-- The constraint of a frame: the channels planned with are those of the engine, or in HDR mode its
two HDR channels. -/
theorem overrideForHdr_counts {info : DEHardwareInfo} (htable : TableOk info)
    {constraint : PlanConstraint F} (mDataspace : Int)
    (hH : constraint.MaxHybridChannel = info.videoChannelCount)
    (hR : constraint.MaxRGBChannel = info.uiChannelCount)
    (hHdrH : constraint.MaxHdrHybridChannel = info.videoHdrCount)
    (hHdrR : constraint.MaxHdrRGBChannel = info.uiHdrCount) :
    0 ≤ (overrideForHdr mDataspace constraint).MaxHybridChannel ∧
      (overrideForHdr mDataspace constraint).MaxHybridChannel ≤ 2 ∧
      1 ≤ (overrideForHdr mDataspace constraint).MaxRGBChannel ∧
      (overrideForHdr mDataspace constraint).totalChannelCount = constraint.totalChannelCount ∧
      ((overrideForHdr mDataspace constraint).MaxHybridChannel +
          (overrideForHdr mDataspace constraint).MaxRGBChannel =
            info.videoChannelCount + info.uiChannelCount ↔
        mDataspace = eDataspaceSdr ∨ (info.videoHdrCount = 0 ∧ info.uiHdrCount = 0)) := by
  obtain ⟨hvideo, hvideo'⟩ := htable.video
  have hui := htable.ui
  have hhdr := htable.hdr
  unfold overrideForHdr
  split
  -- HDR: the one table with HDR channels has 1 + 1 of them, which is never all
  · rename_i hmode
    rw [hHdrH, hHdrR] at hmode
    obtain ⟨hnone, hnotSdr⟩ := hmode
    simp only [hHdrH, hHdrR, hnotSdr, false_or, true_and]
    omega
  · rename_i hmode
    rw [hHdrH, hHdrR] at hmode
    have hsdr : mDataspace = eDataspaceSdr ∨ (info.videoHdrCount = 0 ∧ info.uiHdrCount = 0) := by
      by_contra hnot
      exact hmode ⟨by omega, fun h => hnot (.inl h)⟩
    simp only [hH, hR, hsdr, hvideo, hvideo', hui, and_self]

theorem prepare_configs {info : DEHardwareInfo} (htable : TableOk info) {maxBandwidth : Int}
    (c : Compositor F) (hattr : c.mAttribute = .setup info maxBandwidth)
    (hblank : c.mBlankOutput = false) {context : CompositionContext F}
    (hfb : context.FramebufferTarget.isSome) (planner : LayerPlanner F) (raw : Nat → RawConfig F)
    {fuel : Nat} (hfuel : 6 ≤ fuel) :
    ∃ constraint p out, c.createPlanConstraint = .ok constraint ∧
      c.prepare raw fuel context planner = .ok (some p) ∧ p.mAssignment = some out ∧
      ∀ total, ClosesEveryChannel total out.Configs ↔
        (plannedChannels (overrideForHdr c.mDataspace constraint)
          c.pickCompositionStrategy).toNat = total := by
  obtain ⟨constraint, hcreate, hH, hR, hHdrH, hHdrR, htotal⟩ := createPlanConstraint_eq htable hattr
  obtain ⟨hH0, hH2, hR1, htotal', _⟩ :=
    overrideForHdr_counts htable c.mDataspace hH hR hHdrH hHdrR
  have hvideo := htable.video
  have hui := htable.ui
  obtain ⟨planner', out, hframe, hlen⟩ := advanceFrame_configs raw
    (planner.setStrategy c.pickCompositionStrategy) hH0 hR1 (by omega) hfb
    (by omega : 2 * (overrideForHdr c.mDataspace constraint).MaxHybridChannel.toNat + 2 ≤ fuel)
  refine ⟨constraint, ⟨planner', some { out with Configs := rearrangeChannel out.Configs }⟩,
    { out with Configs := rearrangeChannel out.Configs }, hcreate, ?_, rfl, ?_⟩
  · unfold prepare
    simp only [hblank, hcreate, hframe, bind, Except.bind, Bool.false_eq_true, if_false]
  · intro total
    rw [closesEveryChannel_rearrange, hlen]
    rfl

/-- All hardware channels of an engine get a configuration, enabled or not, exactly when the frame is
left to the GPU, or the output is SDR, or the engine has no HDR channels. -/
theorem prepare_closesEveryChannel_iff {board : Board} {info : DEHardwareInfo}
    (hinfo : info ∈ HardwareConfigs board) {maxBandwidth : Int} (c : Compositor F)
    (hattr : c.mAttribute = .setup info maxBandwidth) (hblank : c.mBlankOutput = false)
    (context : CompositionContext F) (hfb : context.FramebufferTarget.isSome)
    (planner : LayerPlanner F) (raw : Nat → RawConfig F) {fuel : Nat} (hfuel : 6 ≤ fuel) :
    ∃ p out, c.prepare raw fuel context planner = .ok (some p) ∧ p.mAssignment = some out ∧
      (ClosesEveryChannel (info.videoChannelCount + info.uiChannelCount).toNat out.Configs ↔
        c.pickCompositionStrategy = .eGPUOnly ∨ c.mDataspace = eDataspaceSdr ∨
          (info.videoHdrCount = 0 ∧ info.uiHdrCount = 0)) := by
  have htable := tableOk_of_mem hinfo
  obtain ⟨constraint, hcreate, hH, hR, hHdrH, hHdrR, htotal⟩ := createPlanConstraint_eq htable hattr
  obtain ⟨hH0, _, hR1, htotal', hcount⟩ :=
    overrideForHdr_counts htable c.mDataspace hH hR hHdrH hHdrR
  have hvideo := htable.video
  have hui := htable.ui
  obtain ⟨constraint', p, out, hcreate', hprepare, hout, hcloses⟩ :=
    prepare_configs htable c hattr hblank hfb planner raw hfuel
  cases hcreate.symm.trans hcreate'
  refine ⟨p, out, hprepare, hout, ?_⟩
  rw [hcloses]
  -- `StrategyGPUOnly` pads to `totalChannelCount`, the other one stops at the planned channels
  cases c.pickCompositionStrategy with
  | eGPUOnly => simp [plannedChannels, htotal', htotal]
  | eHardwareFirst =>
      have hsum : (plannedChannels (overrideForHdr c.mDataspace constraint)
          .eHardwareFirst).toNat = (info.videoChannelCount + info.uiChannelCount).toNat ↔
          (overrideForHdr c.mDataspace constraint).MaxHybridChannel +
            (overrideForHdr c.mDataspace constraint).MaxRGBChannel =
              info.videoChannelCount + info.uiChannelCount := by
        simp only [plannedChannels]
        omega
      rw [hsum, hcount]
      simp

def petrelInfo : DEHardwareInfo :=
  ⟨1, 3, 1, 1, eHybridChannelWithAlpha ||| eAfbcBufferSupported ||| eHdrSupported⟩

def petrelCompositor (mDataspace : Int) : Compositor Rat where
  mAttribute := .setup petrelInfo 0
  mTransform := StrategyHardwareFirst.desktopConstraint.ScreenTransform
  mLayerDetector := fun _ => 0
  mOutput3D := false
  mBlankOutput := false
  mDataspace := mDataspace
  mColorTransform := HAL_COLOR_TRANSFORM_IDENTITY
  mCommitIdle := false
  needGPUComposiLastFrame := false

theorem prepare_closesEveryChannel_iff_petrel :
    ∃ p out, (petrelCompositor eDataspaceSdr).prepare (fun _ => ⟨false, 0, 0⟩) 6
        StrategyHardwareFirst.desktop ⟨.eHardwareFirst, StrategyHardwareFirst.desktopStrategy⟩ =
          .ok (some p) ∧
      p.mAssignment = some out ∧ ClosesEveryChannel 4 out.Configs := by
  obtain ⟨p, out, hprepare, hout, hiff⟩ := prepare_closesEveryChannel_iff
    (by decide : petrelInfo ∈ HardwareConfigs .petrel) (petrelCompositor eDataspaceSdr) rfl rfl
    StrategyHardwareFirst.desktop rfl ⟨.eHardwareFirst, StrategyHardwareFirst.desktopStrategy⟩
    (fun _ => ⟨false, 0, 0⟩) le_rfl
  exact ⟨p, out, hprepare, hout, hiff.mpr (.inr (.inl rfl))⟩

/-- In HDR mode two of the four channels of `petrel` are left as the previous frame set them. -/
theorem petrel_hdr_leaves_channels :
    ∃ p out, (petrelCompositor eDataspaceHdr).prepare (fun _ => ⟨false, 0, 0⟩) 6
        StrategyHardwareFirst.desktop ⟨.eHardwareFirst, StrategyHardwareFirst.desktopStrategy⟩ =
          .ok (some p) ∧
      p.mAssignment = some out ∧ out.Configs.length = 2 ∧ ¬ ClosesEveryChannel 4 out.Configs := by
  have htable := tableOk_of_mem (by decide : petrelInfo ∈ HardwareConfigs .petrel)
  have hfb : StrategyHardwareFirst.desktop.FramebufferTarget.isSome := rfl
  obtain ⟨constraint, p, out, hcreate, hprepare, hout, hcloses⟩ := prepare_configs htable
    (petrelCompositor eDataspaceHdr) rfl rfl hfb
    ⟨.eHardwareFirst, StrategyHardwareFirst.desktopStrategy⟩ (fun _ => ⟨false, 0, 0⟩) le_rfl
  have htwo : ClosesEveryChannel 2 out.Configs := by
    rw [hcloses]
    cases hcreate
    rfl
  refine ⟨p, out, hprepare, hout, htwo.1, ?_⟩
  intro hfour
  exact absurd (htwo.1.symm.trans hfour.1) (by decide)

end Compositor

end

end AwHal.Hwc
