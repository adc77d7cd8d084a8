import AwHal.Hwc.StrategyGuarantees
import AwHal.Hwc.StrategyKept

/-!
# The bandwidth of a plan

The meter of a pass is charged for each layer that is put in a slot and for the client target, for this
one without a check where it is reserved at the start.  What it shows at the end of the last pass is at
least what the plan costs.
-/

namespace AwHal.Hwc

open AwHal.Lib

/-! ## The meter -/

theorem BandwidthMeter.add_avaliable {m : BandwidthMeter} {bw bound : Nat}
    (hlimit : m.mMaximumBandwidth ≠ BANDWIDTH_NO_LIMIT) (hmax : m.mMaximumBandwidth ≤ bound)
    (hcurrent : m.mCurrentBandwidth ≤ bound) (hbound : bound ≤ SIZE_MAX) (hfit : bw ≤ m.avaliable) :
    (m.add bw).mCurrentBandwidth = m.mCurrentBandwidth + bw ∧
      m.mCurrentBandwidth + bw ≤ bound := by
  unfold avaliable at hfit
  rw [if_neg hlimit] at hfit
  have hle : m.mCurrentBandwidth + bw ≤ bound := by
    split at hfit <;> omega
  refine ⟨?_, hle⟩
  show (m.mCurrentBandwidth + bw) % (SIZE_MAX + 1) = m.mCurrentBandwidth + bw
  exact Nat.mod_eq_of_lt (by omega)

/-! ## The layers of a plan -/

namespace PlanningOutput

variable {F : Type}

def enabledLayers (out : PlanningOutput F) : List (Layer F) :=
  (out.Configs.flatMap ChannelConfig.Slots).filterMap fun slot =>
    if slot.Enable then slot.InputLayer else none

end PlanningOutput

namespace StrategyHardwareFirst

variable {F : Type} [CFloat F]

section

variable (footprint : Option (Layer F) → Nat)

def cost (channels : List (HWChannel F)) : Nat :=
  ((channels.flatMap HWChannel.layers).map fun layer => footprint (some layer)).sum

omit [CFloat F] in
theorem cost_append (channels channels' : List (HWChannel F)) :
    cost footprint (channels ++ channels') = cost footprint channels + cost footprint channels' := by
  simp [cost]

omit [CFloat F] in
theorem cost_blank {channels : List (HWChannel F)} (h : ∀ ch ∈ channels, Blank ch) :
    cost footprint channels = 0 := by
  have hlayers : channels.flatMap HWChannel.layers = [] :=
    List.flatMap_eq_nil_iff.mpr fun ch hch => (h ch hch).layers
  rw [cost, hlayers]
  rfl

theorem sum_set_le {α β : Type} (f : α → Option β) (g : β → Nat) {x : α} {y : β} (hx : f x = some y)
    (l : List α) (i : Nat) :
    (((l.set i x).filterMap f).map g).sum ≤ ((l.filterMap f).map g).sum + g y := by
  induction l generalizing i with
  | nil => simp
  | cons a l ih =>
      cases i with
      | zero =>
          rw [List.set_cons_zero, List.filterMap_cons_some hx, List.map_cons, List.sum_cons,
            List.filterMap_cons]
          cases f a <;> simp <;> omega
      | succ i =>
          rw [List.set_cons_succ, List.filterMap_cons, List.filterMap_cons]
          have hrest := ih i
          cases f a <;> simp <;> omega

omit [CFloat F] in
theorem cost_modify_insert (channels : List (HWChannel F)) (m : Nat) (layer : Layer F)
    (zoom : ZoomFactor F) (n : Nat) :
    cost footprint (channels.modify m fun ch => ch.insert layer zoom n) ≤
      cost footprint channels + footprint (some layer) := by
  induction channels generalizing m with
  | nil => simp [cost]
  | cons ch channels ih =>
      have hcons : ∀ c cs, cost footprint (c :: cs) =
          (c.layers.map fun layer => footprint (some layer)).sum + cost footprint cs := by
        intro c cs
        simp [cost]
      cases m with
      | zero =>
          rw [List.modify_zero_cons, hcons, hcons]
          have hset := sum_set_le HWSlot.InputLayer (fun layer => footprint (some layer))
            (x := { InputLayer := some layer, Z := 0, DimLayer := isSoildLayer layer }) rfl
            ch.mSlots ch.mNextFreeSlot
          rw [HWChannel.layers, HWChannel.mSlots_insert, HWChannel.layers]
          omega
      | succ m =>
          rw [List.modify_succ_cons, hcons, hcons]
          have hrest := ih m
          omega

end

omit [CFloat F] in
/-- The slots that `setupChannelConfig` enables hold the layers of the channel. -/
theorem enabledLayers_eq {out : PlanningOutput F} {channels : List (HWChannel F)}
    (hout : out.Configs = channels.map HWChannel.setupChannelConfig) :
    out.enabledLayers = channels.flatMap HWChannel.layers := by
  rw [PlanningOutput.enabledLayers, hout]
  clear hout
  induction channels with
  | nil => rfl
  | cons ch channels ih =>
      rw [List.map_cons, List.flatMap_cons, List.filterMap_append, ih, List.flatMap_cons]
      congr 1
      show (ch.mSlots.map HWChannel.configSlot).filterMap _ = ch.mSlots.filterMap HWSlot.InputLayer
      rw [List.filterMap_map]
      congr 1
      funext slot
      obtain ⟨layer, _, _, _⟩ := slot
      cases layer <;> rfl

theorem accept_layers (context : CompositionContext F) (s : StrategyHardwareFirst F) :
    (s.acceptAssignResult context {}).2.enabledLayers =
      s.mergedChannels.flatMap HWChannel.layers := by
  have hout := acceptAssignResult_configs context s {}
  rw [List.nil_append] at hout
  rw [enabledLayers_eq hout, ← map_snd_cells 0, ← map_snd_cells 0, cells, acceptedChannels,
    (acceptChannels_eq 0 _ _).1, List.zipIdx_map_fst]

/-! ## What the meter shows during a pass -/

def targetCost (footprint : Option (Layer F) → Nat) (context : CompositionContext F)
    (s : StrategyHardwareFirst F) : Nat :=
  if s.mClientTarget.isSome then footprint context.FramebufferTarget else 0

/-- The meter shows at least what the channels cost. -/
structure Metered (footprint : Option (Layer F) → Nat) (constraint : PlanConstraint F)
    (context : CompositionContext F) (s : StrategyHardwareFirst F) : Prop where
  spare : Spare s
  limit : s.mBWMeter.mMaximumBandwidth = toSize constraint.MaxBandwidth
  charged : cost footprint s.mAssignedChannel + targetCost footprint context s ≤
    s.mBWMeter.mCurrentBandwidth
  bounded : s.mBWMeter.mCurrentBandwidth ≤
    max (toSize constraint.MaxBandwidth) (footprint context.FramebufferTarget)

section

variable {footprint : Option (Layer F) → Nat} {constraint : PlanConstraint F}
  {context : CompositionContext F} {s s' : StrategyHardwareFirst F} {layer : Layer F}

omit [CFloat F] in
theorem Metered.add (h : Metered footprint constraint context s)
    (hlimit : toSize constraint.MaxBandwidth ≠ 0)
    (hsize : footprint context.FramebufferTarget ≤ SIZE_MAX) {bw : Nat}
    (hfit : bw ≤ s.mBWMeter.avaliable) :
    (s.mBWMeter.add bw).mCurrentBandwidth = s.mBWMeter.mCurrentBandwidth + bw ∧
      s.mBWMeter.mCurrentBandwidth + bw ≤
        max (toSize constraint.MaxBandwidth) (footprint context.FramebufferTarget) := by
  apply BandwidthMeter.add_avaliable _ _ h.bounded _ hfit
  · rw [h.limit]
    exact hlimit
  · rw [h.limit]
    exact Nat.le_max_left _ _
  · exact Nat.max_le.mpr ⟨toSize_le _, hsize⟩

theorem Metered.start {error : Int} (hsize : footprint context.FramebufferTarget ≤ SIZE_MAX)
    (h : s.initAssignmentWith footprint constraint context = .ok (s', error)) :
    Metered footprint constraint context s' := by
  obtain ⟨hassigned, hspare, htarget⟩ := initAssignmentWith_ok h
  have hcost : cost footprint s'.mAssignedChannel = 0 := by
    rw [hassigned]
    rfl
  rcases htarget with ⟨hnone, hmeter⟩ | ⟨hsome, hmeter⟩
  · have htarget : targetCost footprint context s' = 0 := by simp [targetCost, hnone]
    exact ⟨hspare, by rw [hmeter], by omega, by simp [hmeter]⟩
  · -- the reserved target is all that is charged so far
    have htarget : targetCost footprint context s' = footprint context.FramebufferTarget := by
      simp [targetCost, hsome]
    have hcurrent : s'.mBWMeter.mCurrentBandwidth = footprint context.FramebufferTarget := by
      rw [hmeter]
      show (0 + footprint context.FramebufferTarget) % (SIZE_MAX + 1) = _
      rw [Nat.zero_add, Nat.mod_eq_of_lt (by omega)]
    have hmax := Nat.le_max_right (toSize constraint.MaxBandwidth)
      (footprint context.FramebufferTarget)
    exact ⟨hspare, by rw [hmeter]; rfl, by omega, by omega⟩

omit [CFloat F] in
theorem Metered.insertAt (h : Metered footprint constraint context s)
    (hlimit : toSize constraint.MaxBandwidth ≠ 0)
    (hsize : footprint context.FramebufferTarget ≤ SIZE_MAX)
    (hfit : footprint (some layer) ≤ s.mBWMeter.avaliable) (m : Nat) (zoom : ZoomFactor F) (n : Nat) :
    Metered footprint constraint context
      (s.insertAt m layer zoom n (footprint (some layer))) := by
  obtain ⟨hcurrent, hbound⟩ := h.add hlimit hsize hfit
  have hcost := cost_modify_insert footprint s.mAssignedChannel m layer zoom n
  have hcharged := h.charged
  refine ⟨⟨h.spare.channels, h.spare.target⟩, h.limit, ?_, ?_⟩
  · show cost footprint (s.mAssignedChannel.modify m fun ch => ch.insert layer zoom n) +
      targetCost footprint context s ≤ (s.mBWMeter.add (footprint (some layer))).mCurrentBandwidth
    omega
  · show (s.mBWMeter.add (footprint (some layer))).mCurrentBandwidth ≤ _
    omega

theorem Metered.device (h : Metered footprint constraint context s)
    (hlimit : toSize constraint.MaxBandwidth ≠ 0)
    (hsize : footprint context.FramebufferTarget ≤ SIZE_MAX)
    (hdispatch : s.dispatchToDeviceWith footprint constraint layer = (s', 0)) :
    Metered footprint constraint context s' := by
  obtain ⟨hfit, ⟨m, -, rfl⟩ | ⟨ch, s₁, halloc, rfl⟩⟩ := dispatchToDeviceWith_ok hdispatch
  -- whether the channel was there before makes no difference to the charge
  · exact h.insertAt hlimit hsize hfit m _ _
  · obtain ⟨hblank, hspare, hassigned, htarget, hmeter⟩ := h.spare.allocate halloc
    have hopened : Metered footprint constraint context
        { s₁ with mAssignedChannel := s₁.mAssignedChannel ++ [ch] } := by
      refine ⟨⟨hspare.channels, hspare.target⟩, ?_, ?_, ?_⟩
      · show s₁.mBWMeter.mMaximumBandwidth = _
        rw [hmeter]
        exact h.limit
      · -- blank until the layer is inserted, so it costs nothing yet
        have hnew : cost footprint [ch] = 0 := cost_blank footprint (by simpa using hblank)
        show cost footprint (s₁.mAssignedChannel ++ [ch]) + targetCost footprint context s₁ ≤
          s₁.mBWMeter.mCurrentBandwidth
        rw [cost_append, hnew, hassigned, targetCost, htarget, hmeter]
        exact h.charged
      · show s₁.mBWMeter.mCurrentBandwidth ≤ _
        rw [hmeter]
        exact h.bounded
    apply hopened.insertAt hlimit hsize
    show footprint (some layer) ≤ s₁.mBWMeter.avaliable
    rw [hmeter]
    exact hfit

theorem Metered.gpu (h : Metered footprint constraint context s)
    (hlimit : toSize constraint.MaxBandwidth ≠ 0)
    (hsize : footprint context.FramebufferTarget ≤ SIZE_MAX) {reason : Int}
    (hgpu : s.assignAsGpuCompositionWith footprint context layer reason = .ok (s', none)) :
    Metered footprint constraint context s' := by
  have hcharged := h.charged
  rcases assignAsGpuCompositionWith_ok hgpu with
    ⟨target, htarget, rfl⟩ | ⟨hnone, hfit, ch, s₁, halloc, rfl⟩
  · -- the target has been charged before
    refine ⟨h.spare.deferTo (h.spare.target target htarget) layer reason, h.limit, ?_, h.bounded⟩
    have hcost : targetCost footprint context s = footprint context.FramebufferTarget := by
      simp [targetCost, htarget]
    show cost footprint s.mAssignedChannel + footprint context.FramebufferTarget ≤ _
    rw [← hcost]
    exact hcharged
  · -- a target allocated now is charged under a check
    obtain ⟨hblank, hspare, hassigned, -, hmeter⟩ := h.spare.allocate halloc
    obtain ⟨hcurrent, hbound⟩ := h.add hlimit hsize hfit
    have hcost : targetCost footprint context s = 0 := by simp [targetCost, hnone]
    refine ⟨hspare.openTarget hblank _ layer reason, ?_, ?_, ?_⟩
    · show s₁.mBWMeter.mMaximumBandwidth = _
      rw [hmeter]
      exact h.limit
    · show cost footprint s₁.mAssignedChannel + footprint context.FramebufferTarget ≤
        (s₁.mBWMeter.add (footprint context.FramebufferTarget)).mCurrentBandwidth
      rw [hassigned, hmeter]
      omega
    · show (s₁.mBWMeter.add (footprint context.FramebufferTarget)).mCurrentBandwidth ≤ _
      rw [hmeter]
      omega

theorem metered_kept (hlimit : toSize constraint.MaxBandwidth ≠ 0)
    (hsize : footprint context.FramebufferTarget ≤ SIZE_MAX) :
    Kept footprint constraint context (Metered footprint constraint context) where
  start _ _ _ h := .start hsize h
  exhausted _ _ h := ⟨⟨h.spare.channels, h.spare.target⟩, h.limit, h.charged, h.bounded⟩
  device _ _ _ h hdispatch := h.device hlimit hsize hdispatch
  gpu _ _ _ _ h hgpu := h.gpu hlimit hsize hgpu

/-! ## The budget -/

theorem toSize_of_pos {x : Int} (hpos : 0 < x) (hint : FitsInt x) : toSize x = x.toNat := by
  unfold toSize SIZE_MAX
  unfold FitsInt at hint
  rw [Int.emod_eq_of_lt (by omega) (by norm_num; omega)]

/-- With its framebuffer the client target costs what was charged for it. -/
theorem cost_target {target : HWChannel F} (h : Blank target) (fb : Layer F) (zoom : ZoomFactor F) :
    cost footprint [target.insert fb zoom 1] = footprint (some fb) := by
  have hlayers : (target.insert fb zoom 1).layers = target.layers ++ [fb] :=
    HWChannel.layers_insert h.wellFormed (h.accepts fb Nat.one_pos (by decide)) zoom
  simp [cost, hlayers, h.layers]

/-- Whatever the layers cost: a plan that `perform` returns costs no more than the bandwidth, or than
the framebuffer where this alone exceeds it. -/
theorem perform_within_bandwidth (footprint : Option (Layer F) → Nat) {fuel : Nat} {r : Performed F}
    (hpos : 0 < constraint.MaxBandwidth) (hint : FitsInt constraint.MaxBandwidth)
    (hsize : footprint context.FramebufferTarget ≤ SIZE_MAX)
    (hrun : s.performWith footprint fuel constraint context {} = .ok (some r)) (_hret : r.ret = 0) :
    (r.out.enabledLayers.map fun layer => footprint (some layer)).sum ≤
      max constraint.MaxBandwidth.toNat (footprint context.FramebufferTarget) := by
  have hmax := toSize_of_pos hpos hint
  have hkept : Kept footprint constraint context (Metered footprint constraint context) :=
    metered_kept (by omega) hsize
  obtain ⟨last, hlast, hfinish⟩ := hkept.performWith hrun
  obtain ⟨t, filled, hout, hmerged, htarget⟩ := finishAssign_merged hfinish
  have hspare : cost footprint last.spareChannels = 0 := cost_blank footprint hlast.spare.channels
  have hfilled : cost footprint filled = targetCost footprint context last := by
    rcases htarget with ⟨hnone, rfl⟩ | ⟨target, fb, hsome, hfb, rfl⟩
    · rw [targetCost, hnone]
      rfl
    · rw [cost_target (hlast.spare.target target hsome), targetCost, hsome, hfb]
      rfl
  have hcharged := hlast.charged
  have hbounded := hlast.bounded
  calc (r.out.enabledLayers.map fun layer => footprint (some layer)).sum
      = cost footprint (last.mAssignedChannel ++ (filled ++ last.spareChannels)) := by
        rw [hout, accept_layers, hmerged]
        rfl
    _ = cost footprint last.mAssignedChannel + targetCost footprint context last := by
        rw [cost_append, cost_append, hfilled, hspare, Nat.add_zero]
    _ ≤ last.mBWMeter.mCurrentBandwidth := hcharged
    _ ≤ max constraint.MaxBandwidth.toNat (footprint context.FramebufferTarget) := by
        rw [← hmax]
        exact hbounded

end

def meteredConstraint : PlanConstraint Rat := { desktopConstraint with MaxBandwidth := 20000000 }

omit [CFloat F] in
theorem exists_of_ret {x : Except Fault (Option (Performed F))}
    (h : x.toOption.join.map Performed.ret = some 0) : ∃ r, x = .ok (some r) ∧ r.ret = 0 := by
  match x with
  | .ok (some r) => exact ⟨r, rfl, Option.some.inj h⟩

theorem perform_within_bandwidth_desktop :
    ∃ r, desktopStrategy.performWith computeLayerMemoryFootprint 4 meteredConstraint desktop {} =
        .ok (some r) ∧
      (r.out.enabledLayers.map fun layer => computeLayerMemoryFootprint (some layer)).sum ≤
        max 20000000 (computeLayerMemoryFootprint (some framebuffer)) := by
  obtain ⟨r, hr, hret⟩ := exists_of_ret
    (x := desktopStrategy.performWith computeLayerMemoryFootprint 4 meteredConstraint desktop {})
    (by decide +kernel)
  exact ⟨r, hr, perform_within_bandwidth computeLayerMemoryFootprint (by decide) (by decide)
    (by decide +kernel) hr hret⟩

end StrategyHardwareFirst

end AwHal.Hwc
