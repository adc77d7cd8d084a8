import AwHal.Hwc.Strategy

/-!
# The steps of a pass

What `initAssignment` leaves, and all that the assignment of one layer can do (`Assigned`).
-/

namespace AwHal.Hwc

open AwHal.Lib

set_option linter.unusedSectionVars false

namespace StrategyHardwareFirst

variable {F : Type} [CFloat F]

/-! ## The start of a pass -/

/-- A channel that nothing has been put in, with the type its list gives it. -/
def freshChannel (t : HWChannelType) : HWChannel F := { HWChannel.new with mType := t }

theorem moveChannels_replicate (t : HWChannelType) (n k : Nat) (dest : List (HWChannel F)) :
    moveChannels t n dest (List.replicate (n + k) HWChannel.new) =
      .ok (dest ++ List.replicate n (freshChannel t), List.replicate k HWChannel.new) := by
  induction n generalizing dest with
  | zero => simp [moveChannels]
  | succ n ih =>
      have hne : n + 1 + k ≠ 0 := by omega
      have hdrop : (List.replicate (n + 1 + k) (HWChannel.new : HWChannel F)).dropLast =
          List.replicate (n + k) HWChannel.new := by
        rw [List.dropLast_replicate]
        congr 1
        omega
      rw [moveChannels, List.getLast?_replicate, if_neg hne]
      simp only
      rw [hdrop, ih, List.append_assoc, List.replicate_succ]
      rfl

def reservedCount (s : StrategyHardwareFirst F) : Nat := s.mReservedYUVChannelCnt.toNat

def overlayCount (constraint : PlanConstraint F) (s : StrategyHardwareFirst F) : Nat :=
  if constraint.HybridChannelWithAlpha then 0
  else (constraint.MaxHybridChannel - s.mReservedYUVChannelCnt).toNat

def totalCount (constraint : PlanConstraint F) : Nat :=
  (constraint.MaxHybridChannel + constraint.MaxRGBChannel).toNat

def freeCount (constraint : PlanConstraint F) (s : StrategyHardwareFirst F) : Nat :=
  totalCount constraint - s.reservedCount - overlayCount constraint s

/-- The reservation never exceeds the hybrid channels. -/
structure ReservationOk (constraint : PlanConstraint F) (s : StrategyHardwareFirst F) : Prop where
  rgb : 1 ≤ constraint.MaxRGBChannel
  le : s.mReservedYUVChannelCnt ≤ constraint.MaxHybridChannel
  ge : min 0 constraint.MaxHybridChannel ≤ s.mReservedYUVChannelCnt

variable {constraint : PlanConstraint F} {context : CompositionContext F}
  {s s' : StrategyHardwareFirst F} {layer : Layer F}

theorem ReservationOk.total_eq (h : ReservationOk constraint s) :
    totalCount constraint =
      s.reservedCount + (overlayCount constraint s + freeCount constraint s) := by
  have := h.rgb
  have := h.le
  have := h.ge
  unfold freeCount totalCount reservedCount overlayCount
  split <;> omega

theorem ReservationOk.free_pos (h : ReservationOk constraint s)
    (hH : 0 ≤ constraint.MaxHybridChannel) : 0 < freeCount constraint s := by
  have := h.rgb
  have := h.le
  have := h.ge
  unfold freeCount totalCount reservedCount overlayCount
  split <;> omega

theorem ReservationOk.reserved_le (h : ReservationOk constraint s) :
    s.reservedCount ≤ constraint.MaxHybridChannel.toNat := by
  have := h.le
  unfold reservedCount
  omega

def cleared (constraint : PlanConstraint F) (context : CompositionContext F)
    (s : StrategyHardwareFirst F) : StrategyHardwareFirst F :=
  { s with
    mValidatedType := context.InputLayers.foldl
      (fun types layer => Function.update types layer.id Composition.Invalid) s.mValidatedType
    mBWMeter := { mMaximumBandwidth := toSize constraint.MaxBandwidth, mCurrentBandwidth := 0 }
    mClientTarget := none
    mGpuCompositonLayerCnt := 0
    mChannelExhausted := false
    mClientCompositionLayers := []
    mAssignedChannel := []
    mReservedYUVChannel := List.replicate s.reservedCount (freshChannel .YUV_CHANNEL)
    mFreeChannel := List.replicate (freeCount constraint s) HWChannel.new
    mFreeRgbOverlayChannel :=
      List.replicate (overlayCount constraint s) (freshChannel .RGB_WITHOUT_ALPHA_CHANNEL) }

def withClientTarget (context : CompositionContext F) (s : StrategyHardwareFirst F) :
    StrategyHardwareFirst F :=
  { s with
    mClientTarget := some { HWChannel.new with mAsFrameBufferTarget := true }
    mFreeChannel := s.mFreeChannel.dropLast
    mBWMeter := s.mBWMeter.add (computeLayerMemoryFootprint context.FramebufferTarget) }

def begun (constraint : PlanConstraint F) (context : CompositionContext F)
    (s : StrategyHardwareFirst F) : StrategyHardwareFirst F :=
  if s.mNeedClientTarget ∧ 0 < freeCount constraint s then
    (cleared constraint context s).withClientTarget context
  else cleared constraint context s

theorem initAssignment_eq (h : ReservationOk constraint s) :
    initAssignment constraint context s =
      .ok (begun constraint context s,
        if s.mNeedClientTarget ∧ freeCount constraint s = 0 then -22 else 0) := by
  have hreserved := moveChannels_replicate (F := F) .YUV_CHANNEL s.reservedCount
    (overlayCount constraint s + freeCount constraint s) []
  rw [← h.total_eq] at hreserved
  have hoverlay := moveChannels_replicate (F := F) .RGB_WITHOUT_ALPHA_CHANNEL
    (overlayCount constraint s) (freeCount constraint s) []
  unfold initAssignment initAssignmentWith
  rw [show (constraint.MaxHybridChannel + constraint.MaxRGBChannel).toNat = totalCount constraint
      from rfl, show s.mReservedYUVChannelCnt.toNat = s.reservedCount from rfl]
  simp only [bind, Except.bind, hreserved]
  rw [show (if constraint.HybridChannelWithAlpha = true then 0 else
    (constraint.MaxHybridChannel - s.mReservedYUVChannelCnt).toNat) = overlayCount constraint s
      from rfl]
  simp only [hoverlay]
  -- what is left in `mFreeChannel` decides whether the reservation of the target succeeds
  rw [List.getLast?_replicate]
  by_cases hneed : s.mNeedClientTarget = true
  · by_cases hfree : freeCount constraint s = 0
    · simp [hneed, hfree, begun, cleared]
    · simp [hneed, hfree, Nat.pos_of_ne_zero hfree, begun, cleared, withClientTarget,
        HWChannel.new]
  · simp [hneed, begun, cleared]

/-! ## The assignment of one layer -/

theorem lowestNotIntersect_spec {channels : List (HWChannel F)} {k m : Nat}
    (h : lowestNotIntersect channels layer k none = some m ∨
      lowestNotIntersect channels layer k (some k) = some m) :
    m ≤ k ∧ ∀ i ch, m ≤ i → i < k → channels[i]? = some ch → ch.intersect layer = false := by
  -- `k` counts the channels not looked at yet.  The scan starts with `none`, and once it has passed
  -- a channel the lowest one so far is `k` itself, so one induction serves both forms of the call.
  induction k generalizing m with
  | zero =>
      simp only [lowestNotIntersect, reduceCtorEq, Option.some.injEq, false_or] at h
      exact ⟨by omega, by omega⟩
  | succ k ih =>
      unfold lowestNotIntersect at h
      split at h
      · rename_i hnone
        simp only [reduceCtorEq, Option.some.injEq, false_or] at h
        refine ⟨by omega, ?_⟩
        intro i ch hmi hik
        omega
      · rename_i ch hch
        split at h
        · simp only [reduceCtorEq, Option.some.injEq, false_or] at h
          refine ⟨by omega, ?_⟩
          intro i ch hmi hik
          omega
        -- channel `k` does not meet the layer, and the scan goes on below it
        · rename_i hmeets
          rw [or_self] at h
          obtain ⟨hle, hall⟩ := ih (Or.inr h)
          refine ⟨by omega, ?_⟩
          intro i ch' hmi hik hch'
          by_cases hlast : i = k
          · subst hlast
            rw [hch] at hch'
            cases hch'
            simpa using hmeets
          · exact hall i ch' hmi (by omega) hch'

theorem findMatch_spec {channels : List (HWChannel F)} {zoom : ZoomFactor F} {n m : Nat}
    {lowest : Option Nat} (h : findMatch channels layer zoom n lowest = some m) :
    ∃ lo ch, lowest = some lo ∧ lo ≤ m ∧ channels[m]? = some ch ∧
      ch.matchLayer layer zoom n = true := by
  cases lowest with
  | none => simp [findMatch] at h
  | some lo =>
      simp only [findMatch] at h
      split at h
      · rename_i hlt
        cases h
        have hidx : (channels.drop lo).findIdx (fun ch => ch.matchLayer layer zoom n) <
            (channels.drop lo).length := by
          rw [List.length_drop]
          omega
        have hp := List.findIdx_getElem (w := hidx)
        refine ⟨lo, _, rfl, Nat.le_add_right _ _, List.getElem?_eq_getElem hlt, ?_⟩
        simpa [List.getElem_drop] using hp
      · cases h

theorem allocateHWChannel_some {t : HWChannelType} {ch : HWChannel F}
    (h : s.allocateHWChannel t = (some ch, s')) :
    (t = .YUV_CHANNEL ∧ ∃ rest c, s.mReservedYUVChannel = rest ++ [c] ∧
        ch = { c with mAsVideoChannel := true } ∧ s' = { s with mReservedYUVChannel := rest }) ∨
      (t = .RGB_WITHOUT_ALPHA_CHANNEL ∧ ∃ rest, s.mFreeRgbOverlayChannel = rest ++ [ch] ∧
        s' = { s with mFreeRgbOverlayChannel := rest }) ∨
      (t ≠ .YUV_CHANNEL ∧ ∃ rest, s.mFreeChannel = rest ++ [ch] ∧
        s' = { s with mFreeChannel := rest }) := by
  -- the last case of the switch, which the overlay case may fall through to
  have hfree : s.allocateFreeChannel = (some ch, s') → ∃ rest, s.mFreeChannel = rest ++ [ch] ∧
      s' = { s with mFreeChannel := rest } := by
    intro h
    unfold allocateFreeChannel at h
    split at h
    · cases h
    · rename_i c hlast
      cases h
      exact ⟨_, (List.dropLast_append_getLast? _ hlast).symm, rfl⟩
  cases t with
  | YUV_CHANNEL =>
      simp only [allocateHWChannel] at h
      split at h
      · cases h
      · rename_i c hlast
        cases h
        exact Or.inl ⟨rfl, _, c, (List.dropLast_append_getLast? _ hlast).symm, rfl, rfl⟩
  | RGB_CHANNEL => exact Or.inr (Or.inr ⟨by decide, hfree h⟩)
  | RGB_WITHOUT_ALPHA_CHANNEL =>
      simp only [allocateHWChannel] at h
      split at h
      · rename_i c hlast
        cases h
        exact Or.inr (Or.inl ⟨rfl, _, (List.dropLast_append_getLast? _ hlast).symm, rfl⟩)
      · exact Or.inr (Or.inr ⟨by decide, hfree h⟩)

theorem allocateHWChannel_none {t : HWChannelType} (h : s.allocateHWChannel t = (none, s')) :
    s' = s := by
  have hfree : s.allocateFreeChannel = (none, s') → s' = s := by
    intro h
    unfold allocateFreeChannel at h
    split at h <;> cases h
    rfl
  cases t with
  | YUV_CHANNEL =>
      simp only [allocateHWChannel] at h
      split at h <;> cases h
      rfl
  | RGB_CHANNEL => exact hfree h
  | RGB_WITHOUT_ALPHA_CHANNEL =>
      simp only [allocateHWChannel] at h
      split at h
      · cases h
      · exact hfree h

/-- The layer is put in a channel: an assigned one that no channel from there on hides it under, or
one allocated for it. -/
inductive Placed (s : StrategyHardwareFirst F) (layer : Layer F) : StrategyHardwareFirst F → Prop
  | join {m : Nat} {ch : HWChannel F} {zoom : ZoomFactor F} {n footprint : Nat}
      (hn : 0 < n) (hch : s.mAssignedChannel[m]? = some ch)
      (hmatch : ch.matchLayer layer zoom n = true)
      (hfree : ∀ i c, m ≤ i → s.mAssignedChannel[i]? = some c → c.intersect layer = false) :
      Placed s layer (s.insertAt m layer zoom n footprint)
  | alloc {ch : HWChannel F} {s₁ : StrategyHardwareFirst F} {zoom : ZoomFactor F}
      {n footprint : Nat} (hn : 0 < n) (hn' : n ≤ SLOT_PER_CHANNEL)
      (halloc : s.allocateHWChannel (pickChannelType layer) = (some ch, s₁)) :
      Placed s layer
        ({ s₁ with mAssignedChannel := s₁.mAssignedChannel ++ [ch] }.insertAt
          s₁.mAssignedChannel.length layer zoom n footprint)

theorem expectSlot_pos (constraint : PlanConstraint F) : 0 < expectSlot constraint := by
  unfold expectSlot
  split <;> decide

theorem expectSlot_le (constraint : PlanConstraint F) :
    expectSlot constraint ≤ SLOT_PER_CHANNEL := by
  unfold expectSlot
  split <;> decide

theorem matchChannel_spec {channels : List (HWChannel F)} {m : Nat}
    (h : matchChannel constraint channels layer = some m) :
    ∃ ch, channels[m]? = some ch ∧
      ch.matchLayer layer (computeLayerZoomFactor (some layer) constraint.ScreenTransform)
        (expectSlot constraint) = true ∧
      ∀ i c, m ≤ i → channels[i]? = some c → c.intersect layer = false := by
  -- the match lies at or above `lo`, and nothing from `lo` on meets the layer
  obtain ⟨lo, ch, hlo, hle, hch, hmatch⟩ := findMatch_spec h
  obtain ⟨_, hclear⟩ := lowestNotIntersect_spec (Or.inl hlo)
  refine ⟨ch, hch, hmatch, ?_⟩
  intro i c hmi hc
  exact hclear i c (by omega) (List.getElem?_eq_some_iff.mp hc).1 hc

section

variable {footprint : Option (Layer F) → Nat}

theorem dispatchToDeviceWith_ok (h : s.dispatchToDeviceWith footprint constraint layer = (s', 0)) :
    footprint (some layer) ≤ s.mBWMeter.avaliable ∧
      ((∃ m, matchChannel constraint s.mAssignedChannel layer = some m ∧
          s' = s.insertAt m layer (computeLayerZoomFactor (some layer) constraint.ScreenTransform)
            (expectSlot constraint) (footprint (some layer))) ∨
        ∃ ch s₁, s.allocateHWChannel (pickChannelType layer) = (some ch, s₁) ∧
          s' = { s₁ with mAssignedChannel := s₁.mAssignedChannel ++ [ch] }.insertAt
            s₁.mAssignedChannel.length layer
            (computeLayerZoomFactor (some layer) constraint.ScreenTransform)
            (expectSlot constraint) (footprint (some layer))) := by
  unfold dispatchToDeviceWith at h
  simp only at h
  split at h
  · rename_i herror
    exact absurd (congrArg Prod.snd h) herror
  rename_i hcheck
  have hfit : footprint (some layer) ≤ s.mBWMeter.avaliable := by
    by_contra hlt
    apply hcheck
    unfold checkDeviceWith
    split
    · decide
    · rw [if_pos (by omega)]
      decide
  refine ⟨hfit, ?_⟩
  split at h
  · rename_i m hm
    cases h
    exact .inl ⟨m, hm, rfl⟩
  · split at h
    · cases h
    · rename_i ch s₁ halloc
      cases h
      exact .inr ⟨ch, s₁, halloc, rfl⟩

theorem dispatchToDeviceWith_error {error : Int} (herror : error ≠ 0)
    (h : s.dispatchToDeviceWith footprint constraint layer = (s', error)) :
    ∃ exhausted, s' = { s with mChannelExhausted := exhausted } := by
  unfold dispatchToDeviceWith at h
  simp only at h
  split at h
  · cases h
    exact ⟨_, rfl⟩
  split at h
  · cases h
    exact absurd rfl herror
  · split at h
    · rename_i s₁ halloc
      cases h
      rw [allocateHWChannel_none halloc]
      exact ⟨_, rfl⟩
    · cases h
      exact absurd rfl herror

end

theorem dispatchToDevice_ok (h : s.dispatchToDevice constraint layer = (s', 0)) :
    Placed s layer s' := by
  have hwith : s.dispatchToDeviceWith computeLayerMemoryFootprint constraint layer = (s', 0) := h
  rcases (dispatchToDeviceWith_ok hwith).2 with ⟨m, hm, rfl⟩ | ⟨ch, s₁, halloc, rfl⟩
  · obtain ⟨ch, hch, hmatch, hclear⟩ := matchChannel_spec hm
    exact Placed.join (expectSlot_pos constraint) hch hmatch hclear
  · exact Placed.alloc (expectSlot_pos constraint) (expectSlot_le constraint) halloc

theorem dispatchToDevice_error {error : Int} (herror : error ≠ 0)
    (h : s.dispatchToDevice constraint layer = (s', error)) :
    ∃ exhausted, s' = { s with mChannelExhausted := exhausted } := by
  have hwith : s.dispatchToDeviceWith computeLayerMemoryFootprint constraint layer = (s', error) := h
  exact dispatchToDeviceWith_error herror hwith

/-- The layer is left to the GPU, which draws it into `target`. -/
def deferTo (s : StrategyHardwareFirst F) (target : HWChannel F) (layer : Layer F) (reason : Int) :
    StrategyHardwareFirst F :=
  { s with
    mClientTarget := some (target.updateDisplayFrame layer)
    mClientCompositionLayers := s.mClientCompositionLayers ++ [(layer, reason)]
    mGpuCompositonLayerCnt := s.mGpuCompositonLayerCnt + 1 }

/-- The layer goes to the client target, the reserved one or one allocated now. -/
inductive Deferred (context : CompositionContext F) (s : StrategyHardwareFirst F)
    (layer : Layer F) : StrategyHardwareFirst F → Prop
  | reserved {target : HWChannel F} {reason : Int} (hreason : reason ≠ eHardwareLayer)
      (htarget : s.mClientTarget = some target) :
      Deferred context s layer (s.deferTo target layer reason)
  | alloc {ch : HWChannel F} {s₁ : StrategyHardwareFirst F} {reason : Int}
      (hreason : reason ≠ eHardwareLayer) (htarget : s.mClientTarget = none)
      (halloc : s.allocateHWChannel .RGB_CHANNEL = (some ch, s₁)) :
      Deferred context s layer
        ({ s₁ with
            mBWMeter := s₁.mBWMeter.add
              (computeLayerMemoryFootprint context.FramebufferTarget) }.deferTo
          { ch with mAsFrameBufferTarget := true } layer reason)

theorem assignAsGpuComposition_cases (context : CompositionContext F)
    (s : StrategyHardwareFirst F) (layer : Layer F) {reason : Int}
    (hreason : reason ≠ eHardwareLayer) :
    (∃ s', s.assignAsGpuComposition context layer reason = .ok (s', none) ∧
        Deferred context s layer s') ∨
      (s.mClientTarget = none ∧ s.assignAsGpuComposition context layer reason =
        .ok (s, some .ASSIGN_FAILED_NO_CLIENT_TARGET_CHANNEL)) := by
  cases htarget : s.mClientTarget with
  -- with a target in place the layer is always taken, whatever the reason
  | some target =>
      refine Or.inl ⟨s.deferTo target layer reason, ?_, Deferred.reserved hreason htarget⟩
      simp [assignAsGpuComposition, assignAsGpuCompositionWith, htarget, dispatchToClientTarget,
        deferTo]
  | none =>
      -- the three ways to fail: the rollback, the bandwidth and the channel of the target
      by_cases hlimit : reason = eMemoryLimit
      · refine Or.inr ⟨rfl, ?_⟩
        simp [assignAsGpuComposition, assignAsGpuCompositionWith, htarget, hlimit]
      by_cases hbw : s.mBWMeter.avaliable < computeLayerMemoryFootprint context.FramebufferTarget
      · refine Or.inr ⟨rfl, ?_⟩
        simp [assignAsGpuComposition, assignAsGpuCompositionWith, htarget, hlimit, hbw]
      · rcases halloc : s.allocateHWChannel .RGB_CHANNEL with ⟨alloc, s₁⟩
        cases alloc with
        | none =>
            refine Or.inr ⟨rfl, ?_⟩
            simp [assignAsGpuComposition, assignAsGpuCompositionWith, htarget, hlimit, hbw, halloc]
        | some ch =>
            refine Or.inl ⟨_, ?_, Deferred.alloc hreason htarget halloc⟩
            simp [assignAsGpuComposition, assignAsGpuCompositionWith, htarget, hlimit, hbw, halloc,
              dispatchToClientTarget, deferTo]

/-- The GPU has drawn nothing that the layer would have to be drawn over. -/
def Uncovered (s : StrategyHardwareFirst F) (layer : Layer F) : Prop :=
  ∀ target, s.mClientTarget = some target → s.mGpuCompositonLayerCnt ≠ 0 →
    target.intersect layer = false

/-- What the assignment of one layer can do. -/
inductive Assigned (context : CompositionContext F) (s : StrategyHardwareFirst F)
    (layer : Layer F) : StrategyHardwareFirst F → Prop
  | placed {s' : StrategyHardwareFirst F} (hcover : s.Uncovered layer) (h : Placed s layer s') :
      Assigned context s layer s'
  | deferred {s' : StrategyHardwareFirst F} (exhausted : Bool)
      (h : Deferred context { s with mChannelExhausted := exhausted } layer s') :
      Assigned context s layer s'

/-- The client target exists as soon as a layer has been left to the GPU. -/
def TargetOk (s : StrategyHardwareFirst F) : Prop :=
  s.mClientTarget = none → s.mGpuCompositonLayerCnt = 0

/-- The answers of the loop body: the layer is assigned, or the pass ends for lack of a client
target. -/
def Answered (context : CompositionContext F) (s : StrategyHardwareFirst F) (layer : Layer F)
    (answer : Except Fault (StrategyHardwareFirst F × Option AssignRetCode)) : Prop :=
  (∃ s', answer = .ok (s', none) ∧ Assigned context s layer s') ∨
    (s.mClientTarget = none ∧ ∃ exhausted,
      answer = .ok ({ s with mChannelExhausted := exhausted },
        some .ASSIGN_FAILED_NO_CLIENT_TARGET_CHANNEL))

theorem assignAsGpuComposition_answered (context : CompositionContext F)
    (s : StrategyHardwareFirst F) (layer : Layer F) {reason : Int}
    (hreason : reason ≠ eHardwareLayer) (exhausted : Bool) :
    Answered context s layer
      (assignAsGpuComposition context { s with mChannelExhausted := exhausted } layer reason) := by
  rcases assignAsGpuComposition_cases context { s with mChannelExhausted := exhausted } layer
    hreason with ⟨s', hok, hdef⟩ | ⟨hnone, hfail⟩
  · exact Or.inl ⟨s', hok, Assigned.deferred exhausted hdef⟩
  · exact Or.inr ⟨hnone, exhausted, hfail⟩

theorem dispatch_answered (constraint : PlanConstraint F) (context : CompositionContext F)
    (hcover : s.Uncovered layer) :
    Answered context s layer
      (if (s.dispatchToDevice constraint layer).2 = 0 then
        .ok ((s.dispatchToDevice constraint layer).1, none)
      else (s.dispatchToDevice constraint layer).1.assignAsGpuComposition context layer
        (s.dispatchToDevice constraint layer).2) := by
  rcases hdispatch : s.dispatchToDevice constraint layer with ⟨s₁, error⟩
  by_cases herror : error = 0
  · subst herror
    exact Or.inl ⟨s₁, by simp, Assigned.placed hcover (dispatchToDevice_ok hdispatch)⟩
  · obtain ⟨exhausted, rfl⟩ := dispatchToDevice_error herror hdispatch
    simp only [herror, if_false]
    exact assignAsGpuComposition_answered context s layer herror exhausted

theorem assignLayer_answered (constraint : PlanConstraint F) (context : CompositionContext F)
    (layer : Layer F) (htarget : s.TargetOk) :
    Answered context s layer (s.assignLayer constraint context layer) := by
  unfold assignLayer assignLayerWith
  split
  · exact assignAsGpuComposition_answered context s layer (by decide) s.mChannelExhausted
  -- nothing drawn by the GPU yet: `mClientTarget` is not dereferenced
  by_cases hcnt : s.mGpuCompositonLayerCnt = 0
  · simp only [hcnt, if_true]
    exact dispatch_answered constraint context (fun _ _ h => absurd hcnt h)
  · cases hclient : s.mClientTarget with
    -- the null pointer the invariant excludes
    | none => exact absurd (htarget hclient) hcnt
    | some target =>
        cases hmeet : target.intersect layer with
        | true =>
            simp only [hcnt, hmeet, if_false]
            exact assignAsGpuComposition_answered context s layer (by decide) s.mChannelExhausted
        | false =>
            simp only [hcnt, hmeet, if_false]
            apply dispatch_answered constraint context
            intro target' htarget' _
            rw [hclient] at htarget'
            cases htarget'
            exact hmeet

end StrategyHardwareFirst

end AwHal.Hwc
