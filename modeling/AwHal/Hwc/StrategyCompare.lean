import AwHal.Hwc.StrategyRetry

/-!
# The failed pass and the one run instead

A pass that has the client target reserved in advance has one free channel less and less bandwidth
left.  Whatever it puts on the hardware, the pass without that reservation puts there too; so where
the latter failed, the former leaves some layer to the GPU.
-/

namespace AwHal.Hwc

open AwHal.Lib

/-! ## Bandwidth -/

namespace BandwidthMeter

/-- `m'` counts `reserved` more than `m`, up to a limit where there is one. -/
structure Ahead (reserved : Nat) (m m' : BandwidthMeter) : Prop where
  maximum : m'.mMaximumBandwidth = m.mMaximumBandwidth
  size : m.mMaximumBandwidth ≤ SIZE_MAX
  current : m.mMaximumBandwidth ≠ BANDWIDTH_NO_LIMIT →
    m'.mCurrentBandwidth = m.mCurrentBandwidth + reserved ∧ m'.mCurrentBandwidth ≤ SIZE_MAX

variable {reserved bw : Nat} {m m' : BandwidthMeter}

theorem Ahead.avaliable_le (h : Ahead reserved m m') : m'.avaliable ≤ m.avaliable := by
  unfold avaliable
  rw [h.maximum]
  split
  · exact le_rfl
  · rename_i hlimit
    obtain ⟨hcur, _⟩ := h.current hlimit
    split <;> split <;> omega

/-- What still fits under the limit does not overflow the meter. -/
theorem Ahead.add (h : Ahead reserved m m') (hfit : bw ≤ m'.avaliable) :
    Ahead reserved (m.add bw) (m'.add bw) := by
  refine ⟨h.maximum, h.size, ?_⟩
  intro hlimit
  change m.mMaximumBandwidth ≠ BANDWIDTH_NO_LIMIT at hlimit
  obtain ⟨hcur, hsize⟩ := h.current hlimit
  have hmax := h.size
  -- neither counter wraps: the larger one stays within the limit
  have hsum : m'.mCurrentBandwidth + bw ≤ SIZE_MAX := by
    unfold avaliable at hfit
    rw [h.maximum, if_neg hlimit] at hfit
    split at hfit <;> omega
  simp only [BandwidthMeter.add]
  rw [Nat.mod_eq_of_lt (by omega), Nat.mod_eq_of_lt (by omega)]
  omega

end BandwidthMeter

namespace StrategyHardwareFirst

variable {F : Type} [CFloat F] {constraint : PlanConstraint F} {context : CompositionContext F}
  {s s' s₁' : StrategyHardwareFirst F} {layer : Layer F} {reserved : Nat}

/-! ## One layer in both passes -/

/-- `s'` is `s` with a client target reserved in advance, before any layer is left to the GPU. -/
structure Tighter (reserved : Nat) (s s' : StrategyHardwareFirst F) : Prop where
  assigned : s'.mAssignedChannel = s.mAssignedChannel
  video : s'.mReservedYUVChannel = s.mReservedYUVChannel
  overlay : s'.mFreeRgbOverlayChannel = s.mFreeRgbOverlayChannel
  free : ∃ k, s.mFreeChannel = List.replicate (k + 1) HWChannel.new ∧
    s'.mFreeChannel = List.replicate k HWChannel.new
  meter : s.mBWMeter.Ahead reserved s'.mBWMeter
  count : s.mGpuCompositonLayerCnt = 0

theorem Tighter.insertAt (h : Tighter reserved s s') {m n footprint : Nat} {zoom : ZoomFactor F}
    (hfit : footprint ≤ s'.mBWMeter.avaliable) :
    Tighter reserved (s.insertAt m layer zoom n footprint)
      (s'.insertAt m layer zoom n footprint) := by
  refine ⟨?_, h.video, h.overlay, h.free, h.meter.add hfit, h.count⟩
  simp only [StrategyHardwareFirst.insertAt, h.assigned]

theorem Tighter.allocateFree (h : Tighter reserved s s') {ch : HWChannel F}
    (halloc : s'.allocateFreeChannel = (some ch, s₁')) :
    ∃ s₁, s.allocateFreeChannel = (some ch, s₁) ∧ Tighter reserved s₁ s₁' ∧
      s₁'.mBWMeter = s'.mBWMeter := by
  obtain ⟨k, hfree, hfree'⟩ := h.free
  unfold allocateFreeChannel at halloc ⊢
  rw [hfree', List.getLast?_replicate] at halloc
  rw [hfree, List.getLast?_replicate]
  cases k with
  -- the tighter pass has no free channel left
  | zero => cases halloc
  | succ k =>
      simp only [Nat.succ_ne_zero, if_false] at halloc ⊢
      cases halloc
      refine ⟨_, rfl, ⟨h.assigned, h.video, h.overlay, ⟨k, ?_, ?_⟩, h.meter, h.count⟩, rfl⟩
      · simp [List.dropLast_replicate]
      · simp [List.dropLast_replicate]

theorem Tighter.allocate (h : Tighter reserved s s') {t : HWChannelType} {ch : HWChannel F}
    (halloc : s'.allocateHWChannel t = (some ch, s₁')) :
    ∃ s₁, s.allocateHWChannel t = (some ch, s₁) ∧ Tighter reserved s₁ s₁' ∧
      s₁'.mBWMeter = s'.mBWMeter := by
  cases t with
  | RGB_CHANNEL => exact h.allocateFree halloc
  | YUV_CHANNEL =>
      simp only [allocateHWChannel] at halloc ⊢
      rw [h.video] at halloc
      split at halloc
      · cases halloc
      · cases halloc
        exact ⟨_, rfl, ⟨h.assigned, rfl, h.overlay, h.free, h.meter, h.count⟩, rfl⟩
  | RGB_WITHOUT_ALPHA_CHANNEL =>
      simp only [allocateHWChannel] at halloc ⊢
      rw [h.overlay] at halloc
      split at halloc
      · cases halloc
        exact ⟨_, rfl, ⟨h.assigned, h.video, rfl, h.free, h.meter, h.count⟩, rfl⟩
      · exact h.allocateFree halloc

theorem checkDevice_fit (h : s.checkDevice constraint layer = 0) :
    computeLayerMemoryFootprint (some layer) ≤ s.mBWMeter.avaliable := by
  unfold checkDevice checkDeviceWith at h
  split at h
  · cases h
  · split at h
    · cases h
    · omega

theorem Tighter.checkDevice (h : Tighter reserved s s')
    (hcheck : s'.checkDevice constraint layer = 0) : s.checkDevice constraint layer = 0 := by
  have hfit := checkDevice_fit hcheck
  have hle := h.meter.avaliable_le
  unfold StrategyHardwareFirst.checkDevice checkDeviceWith at hcheck ⊢
  rw [if_neg (by omega : ¬ s.mBWMeter.avaliable < _)]
  rw [if_neg (by omega : ¬ s'.mBWMeter.avaliable < _)] at hcheck
  exact hcheck

/-- What the tighter pass puts on the hardware the other one puts there too. -/
theorem Tighter.dispatchToDevice (h : Tighter reserved s s')
    (hdispatch : s'.dispatchToDevice constraint layer = (s₁', 0)) :
    ∃ s₁, s.dispatchToDevice constraint layer = (s₁, 0) ∧ Tighter reserved s₁ s₁' := by
  unfold StrategyHardwareFirst.dispatchToDevice dispatchToDeviceWith at hdispatch ⊢
  simp only at hdispatch ⊢
  by_cases hcheck : s'.checkDeviceWith computeLayerMemoryFootprint constraint layer = 0
  · have hfit := checkDevice_fit hcheck
    have hcheck' : s.checkDeviceWith computeLayerMemoryFootprint constraint layer = 0 :=
      h.checkDevice hcheck
    rw [if_neg (not_not.mpr hcheck), h.assigned] at hdispatch
    rw [if_neg (not_not.mpr hcheck')]
    split at hdispatch
    · cases hdispatch
      exact ⟨_, rfl, h.insertAt hfit⟩
    · split at hdispatch
      · cases hdispatch
      · rename_i ch s₂' halloc
        obtain ⟨s₂, halloc₂, htight, hmeter⟩ := h.allocate halloc
        rw [halloc₂]
        cases hdispatch
        refine ⟨_, rfl, ?_⟩
        have happend : Tighter reserved
            { s₂ with mAssignedChannel := s₂.mAssignedChannel ++ [ch] }
            { s₂' with mAssignedChannel := s₂'.mAssignedChannel ++ [ch] } :=
          ⟨by rw [htight.assigned], htight.video, htight.overlay, htight.free, htight.meter,
            htight.count⟩
        -- both passes append to assigned channels that are the same
        rw [show s₂'.mAssignedChannel.length = s₂.mAssignedChannel.length by rw [htight.assigned]]
        exact happend.insertAt (by simpa [hmeter] using hfit)
  · rw [if_pos hcheck] at hdispatch
    exact absurd (congrArg Prod.snd hdispatch) hcheck

/-! ## Both passes -/

theorem assignLayer_hardware (hskip : isSkipLayer layer = false)
    (hcnt : s.mGpuCompositonLayerCnt = 0)
    (hdispatch : s.dispatchToDevice constraint layer = (s₁', 0)) :
    s.assignLayer constraint context layer = .ok (s₁', none) := by
  rw [StrategyHardwareFirst.dispatchToDevice] at hdispatch
  simp [assignLayer, assignLayerWith, hskip, hcnt, hdispatch]

theorem assignAsGpuComposition_count {reason : Int} (hreason : reason ≠ eHardwareLayer)
    (h : s.assignAsGpuComposition context layer reason = .ok (s', none)) :
    s'.mGpuCompositonLayerCnt ≠ 0 := by
  rcases assignAsGpuComposition_cases context s layer hreason with
    ⟨s₁, hok, hdef⟩ | ⟨_, hfail⟩
  · rw [h] at hok
    cases hok
    cases hdef <;> simp [deferTo]
  · rw [h] at hfail
    cases hfail

theorem assignLayer_zero (hcnt : s.mGpuCompositonLayerCnt = 0)
    (h : s.assignLayer constraint context layer = .ok (s', none))
    (hzero : s'.mGpuCompositonLayerCnt = 0) :
    isSkipLayer layer = false ∧ s.dispatchToDevice constraint layer = (s', 0) := by
  unfold assignLayer assignLayerWith at h
  split at h
  · exact absurd hzero (assignAsGpuComposition_count (by decide) h)
  · rename_i hskip
    simp only at h
    split at h
    · rename_i herror
      cases h
      exact ⟨by simpa using hskip, Prod.ext rfl herror⟩
    · rename_i herror
      exact absurd hzero (assignAsGpuComposition_count herror h)

theorem count_le_of_doAssignment {total reserve : Nat} {layers : List (Layer F)}
    {last : StrategyHardwareFirst F} {code : AssignRetCode} (h : PassInv total reserve s)
    (hrun : doAssignment constraint context s layers = .ok (last, code)) :
    s.mGpuCompositonLayerCnt ≤ last.mGpuCompositonLayerCnt := by
  have hpass : ∃ r, doAssignment constraint context s layers = .ok r ∧
      PassEnds (fun _ s' => PassInv total reserve s' ∧ Frame s s') layers r := by
    apply doAssignment_ends
    · intro _ _ hs
      exact hs.1.targetOk
    · intro _ _ _ _ _ _ hs hstep
      exact ⟨hs.1.assigned hstep, Frame.assigned hs.1 hs.2 hstep⟩
    · exact ⟨h, Frame.refl s⟩
  obtain ⟨r, hr, hends⟩ := hpass
  rw [hrun] at hr
  cases hr
  cases hends with
  | success hs => exact hs.2.count
  | failed exhausted hs _ => exact hs.2.count

theorem Tighter.run {total reserve : Nat} {last' : StrategyHardwareFirst F}
    {layers : List (Layer F)} (h : Tighter reserved s s') (hinv : PassInv total reserve s')
    (hrun : doAssignment constraint context s' layers = .ok (last', .ASSIGN_SUCCESS))
    (hzero : last'.mGpuCompositonLayerCnt = 0) :
    ∃ last, doAssignment constraint context s layers = .ok (last, .ASSIGN_SUCCESS) := by
  induction layers generalizing s s' with
  | nil => exact ⟨s, rfl⟩
  | cons layer layers ih =>
      -- the counter only grows and ends at zero, so it is zero at every layer
      have hcnt' : s'.mGpuCompositonLayerCnt = 0 := by
        have hle := count_le_of_doAssignment hinv hrun
        omega
      rcases assignLayer_answered constraint context layer hinv.targetOk with
        ⟨s₁', hanswer, hassigned⟩ | ⟨_, exhausted, hanswer⟩
      · simp only [doAssignment_cons, hanswer] at hrun
        have hinv₁ := hinv.assigned hassigned
        have hcnt₁ : s₁'.mGpuCompositonLayerCnt = 0 := by
          have hle := count_le_of_doAssignment hinv₁ hrun
          omega
        obtain ⟨hskip, hdispatch⟩ := assignLayer_zero hcnt' hanswer hcnt₁
        obtain ⟨s₁, hdispatch₁, htight⟩ := h.dispatchToDevice hdispatch
        simp only [doAssignment_cons, assignLayer_hardware hskip h.count hdispatch₁]
        exact ih htight hinv₁ hrun
      · simp only [doAssignment_cons, hanswer] at hrun
        cases hrun

/-- Where the reserved client target was called for, a layer is left to it. -/
theorem HeadOk.count_ne_zero {last : StrategyHardwareFirst F} (h : HeadOk constraint context s)
    (hneed : s.mNeedClientTarget = true) (hfree : 0 < freeCount constraint s)
    (hrun : doAssignment constraint context (begun constraint context s) context.InputLayers =
      .ok (last, .ASSIGN_SUCCESS)) :
    last.mGpuCompositonLayerCnt ≠ 0 := by
  intro hzero
  -- compare with the pass that failed under the same reservation for video
  obtain ⟨s₀, s₁, hneed₀, hcnt₀, hfail⟩ := h.failed hneed
  have hres : s₀.reservedCount = s.reservedCount := by
    rw [reservedCount, hcnt₀, reservedCount]
  have hover : overlayCount constraint s₀ = overlayCount constraint s := by
    rw [overlayCount, hcnt₀, overlayCount]
  have hfree₀ : freeCount constraint s₀ = freeCount constraint s := by
    rw [freeCount, hres, hover, freeCount]
  have htight : Tighter (computeLayerMemoryFootprint context.FramebufferTarget)
      (begun constraint context s₀) (begun constraint context s) := by
    rw [begun, if_neg (by simp [hneed₀]), begun, if_pos ⟨hneed, hfree⟩]
    refine ⟨rfl, ?_, ?_, ⟨freeCount constraint s - 1, ?_, ?_⟩, ⟨rfl, toSize_le _, ?_⟩, rfl⟩
    · simp only [withClientTarget, cleared, hres]
    · simp only [withClientTarget, cleared, hover]
    · simp only [cleared, hfree₀]
      congr 1
      omega
    · simp only [withClientTarget, cleared, List.dropLast_replicate]
    · intro _
      have hle := computeLayerMemoryFootprint_le context.FramebufferTarget
      simp only [withClientTarget, cleared, BandwidthMeter.add]
      rw [Nat.mod_eq_of_lt (by omega)]
      omega
  obtain ⟨last₀, hlast₀⟩ := htight.run (passInv_begun h.reservation) hrun hzero
  rw [hfail] at hlast₀
  cases hlast₀

end StrategyHardwareFirst

end AwHal.Hwc
