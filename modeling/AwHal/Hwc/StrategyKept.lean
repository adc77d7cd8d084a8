import AwHal.Hwc.StrategyPlan

/-!
# What a finished plan satisfies

With any footprint, every plan that `perform` finishes satisfies what holds at the start of a pass and
is kept by each of the two ways to assign a layer.
-/

namespace AwHal.Hwc.StrategyHardwareFirst

open AwHal.Lib

variable {F : Type} [CFloat F]

/-! ## Spare channels -/

section

variable {s s' : StrategyHardwareFirst F} {ch : HWChannel F}

/-- The channels that are not assigned hold no layer, the client target included. -/
structure Spare (s : StrategyHardwareFirst F) : Prop where
  channels : ∀ ch ∈ s.spareChannels, Blank ch
  target : ∀ target, s.mClientTarget = some target → Blank target

omit [CFloat F] in
theorem Blank.congr {ch' : HWChannel F} (h : Blank ch) (hslots : ch'.mSlots = ch.mSlots)
    (hnext : ch'.mNextFreeSlot = ch.mNextFreeSlot) : Blank ch' := by
  have hlayers : ch'.layers = [] := by
    rw [HWChannel.layers, hslots]
    exact h.layers
  refine ⟨⟨?_, ?_, ?_, ?_, ?_, ?_⟩, hnext.trans h.next, hlayers⟩
  · rw [hslots]
    exact h.wellFormed.slots
  · rw [hnext]
    exact h.wellFormed.next
  · rw [hslots, hnext]
    exact h.wellFormed.unused
  · simp [hlayers]
  · simp [hlayers]
  · simp [hlayers]

omit [CFloat F] in
theorem moveChannels_blank {t : HWChannelType} {n : Nat}
    {dest source dest' source' : List (HWChannel F)}
    (h : moveChannels t n dest source = .ok (dest', source')) (hdest : ∀ ch ∈ dest, Blank ch)
    (hsource : ∀ ch ∈ source, Blank ch) :
    (∀ ch ∈ dest', Blank ch) ∧ ∀ ch ∈ source', Blank ch := by
  induction n generalizing dest source with
  | zero =>
      cases h
      exact ⟨hdest, hsource⟩
  | succ n ih =>
      unfold moveChannels at h
      split at h
      · cases h
      · rename_i ch hlast
        have hblank : Blank ch := hsource ch (List.mem_of_getLast? hlast)
        apply ih h
        · intro c hc
          rcases List.mem_append.mp hc with hc | hc
          · exact hdest c hc
          · rw [List.mem_singleton.mp hc]
            exact hblank.congr rfl rfl
        · exact fun c hc => hsource c (List.dropLast_subset source hc)

omit [CFloat F] in
theorem Spare.of_lists (hreserved : ∀ ch ∈ s.mReservedYUVChannel, Blank ch)
    (hoverlay : ∀ ch ∈ s.mFreeRgbOverlayChannel, Blank ch)
    (hfree : ∀ ch ∈ s.mFreeChannel, Blank ch)
    (htarget : ∀ target, s.mClientTarget = some target → Blank target) : Spare s := by
  refine ⟨?_, htarget⟩
  intro ch hch
  simp only [spareChannels, List.mem_append, List.mem_reverse] at hch
  rcases hch with (hch | hch) | hch
  · exact hreserved ch hch
  · exact hoverlay ch hch
  · exact hfree ch hch

theorem Spare.allocate (h : Spare s) {t : HWChannelType}
    (halloc : s.allocateHWChannel t = (some ch, s')) :
    Blank ch ∧ Spare s' ∧ s'.mAssignedChannel = s.mAssignedChannel ∧
      s'.mClientTarget = s.mClientTarget ∧ s'.mBWMeter = s.mBWMeter := by
  have hmem : ∀ c, c ∈ s.mReservedYUVChannel ∨ c ∈ s.mFreeRgbOverlayChannel ∨ c ∈ s.mFreeChannel →
      Blank c := by
    intro c hc
    apply h.channels
    simpa [spareChannels, or_assoc] using hc
  rcases allocateHWChannel_some halloc with
    ⟨-, rest, c, hlist, rfl, rfl⟩ | ⟨-, rest, hlist, rfl⟩ | ⟨-, rest, hlist, rfl⟩
  · refine ⟨(hmem c (by simp [hlist])).congr rfl rfl, ?_, rfl, rfl, rfl⟩
    exact .of_lists (fun d hd => hmem d (by simp [hlist, hd])) (fun d hd => hmem d (.inr (.inl hd)))
      (fun d hd => hmem d (.inr (.inr hd))) h.target
  · refine ⟨hmem ch (by simp [hlist]), ?_, rfl, rfl, rfl⟩
    exact .of_lists (fun d hd => hmem d (.inl hd)) (fun d hd => hmem d (by simp [hlist, hd]))
      (fun d hd => hmem d (.inr (.inr hd))) h.target
  · refine ⟨hmem ch (by simp [hlist]), ?_, rfl, rfl, rfl⟩
    exact .of_lists (fun d hd => hmem d (.inl hd)) (fun d hd => hmem d (.inr (.inl hd)))
      (fun d hd => hmem d (by simp [hlist, hd])) h.target

omit [CFloat F] in
theorem Spare.deferTo (h : Spare s) {target : HWChannel F} (htarget : Blank target)
    (layer : Layer F) (reason : Int) :
    Spare (s.deferTo target layer reason) := by
  refine ⟨h.channels, ?_⟩
  intro target' heq
  cases heq
  exact htarget.congr rfl rfl

omit [CFloat F] in
theorem Spare.openTarget (h : Spare s) (hblank : Blank ch) (meter : BandwidthMeter)
    (layer : Layer F) (reason : Int) :
    Spare ({ s with mBWMeter := meter }.deferTo { ch with mAsFrameBufferTarget := true } layer
      reason) := by
  have hcharge : Spare { s with mBWMeter := meter } := ⟨h.channels, h.target⟩
  have hnew : Blank { ch with mAsFrameBufferTarget := true } := hblank.congr rfl rfl
  exact hcharge.deferTo hnew layer reason

end

/-! ## Invariants of a pass -/

section

variable {footprint : Option (Layer F) → Nat} {constraint : PlanConstraint F}
  {context : CompositionContext F} {s s' : StrategyHardwareFirst F} {layer : Layer F}

omit [CFloat F] in
theorem assignAsGpuCompositionWith_code {reason : Int} {code : AssignRetCode}
    (h : s.assignAsGpuCompositionWith footprint context layer reason = .ok (s', some code)) :
    code = .ASSIGN_FAILED_NO_CLIENT_TARGET_CHANNEL := by
  unfold assignAsGpuCompositionWith at h
  split at h
  · cases h
    rfl
  dsimp only at h
  split at h
  · rename_i code' hcode
    cases h
    split at hcode
    · cases hcode
    split at hcode
    · cases hcode
      rfl
    split at hcode
    · cases hcode
      rfl
    · cases hcode
  · split at h
    · cases h
    · cases h

theorem assignLayerWith_code {code : AssignRetCode}
    (h : s.assignLayerWith footprint constraint context layer = .ok (s', some code)) :
    code = .ASSIGN_FAILED_NO_CLIENT_TARGET_CHANNEL := by
  unfold assignLayerWith at h
  split at h
  · exact assignAsGpuCompositionWith_code h
  dsimp only at h
  split at h
  · cases h
  · exact assignAsGpuCompositionWith_code h
  · split at h
    · cases h
    · exact assignAsGpuCompositionWith_code h

omit [CFloat F] in
theorem assignAsGpuCompositionWith_ok {reason : Int}
    (h : s.assignAsGpuCompositionWith footprint context layer reason = .ok (s', none)) :
    (∃ target, s.mClientTarget = some target ∧ s' = s.deferTo target layer reason) ∨
      (s.mClientTarget = none ∧ footprint context.FramebufferTarget ≤ s.mBWMeter.avaliable ∧
        ∃ ch s₁, s.allocateHWChannel .RGB_CHANNEL = (some ch, s₁) ∧
          s' = { s₁ with
            mBWMeter := s₁.mBWMeter.add (footprint context.FramebufferTarget) }.deferTo
              { ch with mAsFrameBufferTarget := true } layer reason) := by
  unfold assignAsGpuCompositionWith at h
  split at h
  · cases h
  cases htarget : s.mClientTarget with
  | some target =>
      simp only [htarget, Option.isSome_some, if_true, dispatchToClientTarget] at h
      cases h
      exact .inl ⟨target, rfl, rfl⟩
  | none =>
      simp only [htarget, Option.isSome_none, Bool.false_eq_true, if_false] at h
      by_cases hlimit : s.mBWMeter.avaliable < footprint context.FramebufferTarget
      · simp only [hlimit, if_true] at h
        cases h
      · simp only [hlimit, if_false] at h
        rcases halloc : s.allocateHWChannel .RGB_CHANNEL with ⟨alloc, s₁⟩
        cases alloc with
        | none =>
            simp only [halloc] at h
            cases h
        | some ch =>
            simp only [halloc, dispatchToClientTarget] at h
            cases h
            exact .inr ⟨rfl, by omega, ch, s₁, rfl, rfl⟩

theorem initAssignmentWith_ok {error : Int}
    (h : s.initAssignmentWith footprint constraint context = .ok (s', error)) :
    s'.mAssignedChannel = [] ∧ Spare s' ∧
      ((s'.mClientTarget = none ∧ s'.mBWMeter = ⟨toSize constraint.MaxBandwidth, 0⟩) ∨
        (s'.mClientTarget.isSome ∧ s'.mBWMeter =
          (⟨toSize constraint.MaxBandwidth, 0⟩ : BandwidthMeter).add
            (footprint context.FramebufferTarget))) := by
  have hnew : ∀ n, ∀ ch ∈ List.replicate n (HWChannel.new : HWChannel F), Blank ch := by
    intro n ch hch
    rw [List.eq_of_mem_replicate hch]
    exact blank_fresh .RGB_CHANNEL false
  unfold initAssignmentWith at h
  simp only [bind, Except.bind] at h
  split at h
  · cases h
  rename_i p hreserved
  obtain ⟨reserved, free⟩ := p
  dsimp only at h
  split at h
  · cases h
  rename_i p hoverlay
  obtain ⟨overlay, rest⟩ := p
  dsimp only at h
  obtain ⟨hblank, hfree⟩ := moveChannels_blank hreserved (by simp) (hnew _)
  obtain ⟨hblank', hrest⟩ := moveChannels_blank hoverlay (by simp) hfree
  split at h
  · split at h
    · rename_i ch hlast
      cases h
      have hfront : ∀ c ∈ rest.dropLast, Blank c := fun c hc =>
        hrest c (List.dropLast_subset rest hc)
      refine ⟨rfl, .of_lists hblank hblank' hfront ?_, .inr ⟨rfl, rfl⟩⟩
      intro target htarget
      cases htarget
      exact (hrest ch (List.mem_of_getLast? hlast)).congr rfl rfl
    · cases h
      exact ⟨rfl, .of_lists hblank hblank' hrest (by simp), .inl ⟨rfl, rfl⟩⟩
  · cases h
    exact ⟨rfl, .of_lists hblank hblank' hrest (by simp), .inl ⟨rfl, rfl⟩⟩

/-- What holds of the state whichever way a layer is assigned. -/
structure Kept (footprint : Option (Layer F) → Nat) (constraint : PlanConstraint F)
    (context : CompositionContext F) (I : StrategyHardwareFirst F → Prop) : Prop where
  start : ∀ (s s' : StrategyHardwareFirst F) error,
    s.initAssignmentWith footprint constraint context = .ok (s', error) → I s'
  exhausted : ∀ (s : StrategyHardwareFirst F) exhausted,
    I s → I { s with mChannelExhausted := exhausted }
  device : ∀ (s s' : StrategyHardwareFirst F) layer, I s →
    s.dispatchToDeviceWith footprint constraint layer = (s', 0) → I s'
  gpu : ∀ (s s' : StrategyHardwareFirst F) layer reason, I s →
    s.assignAsGpuCompositionWith footprint context layer reason = .ok (s', none) → I s'

variable {I : StrategyHardwareFirst F → Prop}

theorem Kept.assignLayer (h : Kept footprint constraint context I) (hs : I s)
    (hassign : s.assignLayerWith footprint constraint context layer = .ok (s', none)) : I s' := by
  unfold assignLayerWith at hassign
  split at hassign
  -- a skipped layer, then one that the target covers, then one that goes to the device first
  · exact h.gpu _ _ _ _ hs hassign
  dsimp only at hassign
  split at hassign
  · cases hassign
  · exact h.gpu _ _ _ _ hs hassign
  · rcases hdispatch : s.dispatchToDeviceWith footprint constraint layer with ⟨s₁, error⟩
    rw [hdispatch] at hassign
    dsimp only at hassign
    split at hassign
    · rename_i hzero
      subst hzero
      cases hassign
      exact h.device _ _ _ hs hdispatch
    · rename_i hne
      obtain ⟨exhausted, rfl⟩ := dispatchToDeviceWith_error hne hdispatch
      exact h.gpu _ _ _ _ (h.exhausted s exhausted hs) hassign

theorem Kept.doAssignment (h : Kept footprint constraint context I) {layers : List (Layer F)}
    (hs : I s)
    (hrun : doAssignmentWith footprint constraint context s layers = .ok (s', .ASSIGN_SUCCESS)) :
    I s' := by
  induction layers generalizing s with
  | nil =>
      cases hrun
      exact hs
  | cons layer layers ih =>
      unfold doAssignmentWith at hrun
      split at hrun
      · cases hrun
      · rename_i s₁ code hassign
        cases hrun
        cases assignLayerWith_code hassign
      · rename_i s₁ hassign
        exact ih (h.assignLayer hs hassign) hrun

theorem doAssignmentWith_code {layers : List (Layer F)} {code : AssignRetCode}
    (hrun : doAssignmentWith footprint constraint context s layers = .ok (s', code)) :
    code ≠ .ASSIGN_FAILED_UNKOWN := by
  induction layers generalizing s with
  | nil =>
      cases hrun
      decide
  | cons layer layers ih =>
      unfold doAssignmentWith at hrun
      split at hrun
      · cases hrun
      · rename_i s₁ code' hassign
        cases hrun
        rw [assignLayerWith_code hassign]
        decide
      · exact ih hrun

theorem performPassWith_done {last : StrategyHardwareFirst F} {ret : Int}
    (h : s.performPassWith footprint constraint context = .ok (.done (last, ret))) :
    ret = 0 ∧ ∃ s₁ error, s.initAssignmentWith footprint constraint context = .ok (s₁, error) ∧
      doAssignmentWith footprint constraint context s₁ context.InputLayers =
        .ok (last, .ASSIGN_SUCCESS) := by
  unfold performPassWith at h
  rcases hinit : s.initAssignmentWith footprint constraint context with fault | ⟨s₁, error⟩
  · simp [hinit, bind, Except.bind] at h
  rcases hrun : doAssignmentWith footprint constraint context s₁ context.InputLayers with
    fault | ⟨s₂, code⟩
  · simp [hinit, hrun, bind, Except.bind] at h
  simp only [hinit, hrun, bind, Except.bind] at h
  cases code with
  | ASSIGN_SUCCESS =>
      dsimp only at h
      split at h
      · cases h
      · cases h
        exact ⟨rfl, s₁, error, rfl, hrun⟩
  | ASSIGN_FAILED_NO_CLIENT_TARGET_CHANNEL =>
      dsimp only at h
      split at h <;> cases h
  | ASSIGN_FAILED_UNKOWN => exact absurd rfl (doAssignmentWith_code hrun)

/-- A `perform` that returns has made its plan from the last pass. -/
theorem performWith_last {fuel : Nat} {out : PlanningOutput F} {r : Performed F}
    (hrun : s.performWith footprint fuel constraint context out = .ok (some r)) :
    ∃ head last, Heads (performPassWith footprint constraint context)
        (s.startAssign constraint context) head ∧
      head.performPassWith footprint constraint context = .ok (.done (last, 0)) ∧
      last.finishAssign constraint context out = .ok r := by
  unfold StrategyHardwareFirst.performWith at hrun
  cases hloop : loop (performPassWith footprint constraint context) fuel
      (s.startAssign constraint context) with
  | error fault => simp [hloop, bind, Except.bind] at hrun
  | ok answer =>
      cases answer with
      | none => simp [hloop, bind, Except.bind] at hrun
      | some answer =>
          obtain ⟨last, ret⟩ := answer
          obtain ⟨head, hheads, hdone⟩ := loop_done hloop
          obtain ⟨rfl, -⟩ := performPassWith_done hdone
          refine ⟨head, last, hheads, hdone, ?_⟩
          simp only [hloop, bind, Except.bind] at hrun
          cases hfinish : last.finishAssign constraint context out with
          | error fault => simp [hfinish] at hrun
          | ok r' =>
              simp only [hfinish, if_true, Except.ok.injEq, Option.some.injEq] at hrun
              rw [hrun]

/-- The plan is made from a state with the invariant: the last turn of the loop starts anew. -/
theorem Kept.performWith (h : Kept footprint constraint context I) {fuel : Nat}
    {out : PlanningOutput F} {r : Performed F}
    (hrun : s.performWith footprint fuel constraint context out = .ok (some r)) :
    ∃ last, I last ∧ last.finishAssign constraint context out = .ok r := by
  obtain ⟨head, last, -, hdone, hfinish⟩ := performWith_last hrun
  obtain ⟨-, s₁, error, hinit, hpass⟩ := performPassWith_done hdone
  exact ⟨last, h.doAssignment (h.start head s₁ error hinit) hpass, hfinish⟩

/-- The channels of the plan: the assigned ones, the client target with the framebuffer in it, and the
ones to spare. -/
theorem finishAssign_merged {out : PlanningOutput F} {r : Performed F}
    (h : s.finishAssign constraint context out = .ok r) :
    ∃ (t : StrategyHardwareFirst F) (filled : List (HWChannel F)),
      r.out = (t.acceptAssignResult context out).2 ∧
      t.mergedChannels = s.mAssignedChannel ++ (filled ++ s.spareChannels) ∧
      ((s.mClientTarget = none ∧ filled = []) ∨
        ∃ target fb, s.mClientTarget = some target ∧ context.FramebufferTarget = some fb ∧
          filled = [target.insert fb
            (computeLayerZoomFactor (some fb) constraint.ScreenTransform) 1]) := by
  cases htarget : s.mClientTarget with
  | none =>
      simp only [finishAssign, htarget, bind, Except.bind, Except.ok.injEq] at h
      rw [← h]
      refine ⟨s, [], rfl, ?_, .inl ⟨rfl, rfl⟩⟩
      rw [mergedChannels_eq, htarget]
      rfl
  | some target =>
      cases hfb : context.FramebufferTarget with
      | none => simp [finishAssign, htarget, hfb, bind, Except.bind] at h
      | some fb =>
          rw [finishAssign_eq hfb] at h
          cases h
          refine ⟨s.withFramebuffer constraint fb, _, rfl, ?_, .inr ⟨target, fb, rfl, rfl, rfl⟩⟩
          rw [mergedChannels_eq, withFramebuffer, htarget]
          rfl

end

end AwHal.Hwc.StrategyHardwareFirst
