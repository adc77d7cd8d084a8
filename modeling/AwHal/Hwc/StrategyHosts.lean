import AwHal.Hwc.StrategyAfbc

/-!
# AFBC layers in the layer list

A compressed layer can come into company only over a layer that could host it: the two are alike but for
the compression, neither is certain to be drawn by the GPU, and nothing that lies on the lower one carries
the upper one.  All of this is read off the list of layers.
-/

namespace AwHal.Hwc.StrategyHardwareFirst

open AwHal.Lib

variable {F : Type} [CFloat F] {constraint : PlanConstraint F} {context : CompositionContext F}
  {s s' : StrategyHardwareFirst F} {layer first : Layer F}

/-! ## Piles of layers -/

/-- The layer above `front` is of the kind `Base`, or it overlaps a layer of `front` that rests on that
kind. -/
inductive Rests (Base : Layer F → Prop) : List (Layer F) → Layer F → Prop
  | base {front : List (Layer F)} {layer : Layer F} (h : Base layer) : Rests Base front layer
  | up {front lower upper : List (Layer F)} {m layer : Layer F}
      (hfront : front = lower ++ m :: upper) (h : Rests Base lower m) (hover : Over m layer) :
      Rests Base front layer

/-- The device takes the layer in no state of a pass. -/
inductive TurnedAway (constraint : PlanConstraint F) (layer : Layer F) : Prop
  | skipped (h : isSkipLayer layer = true)
  | noBuffer (hsolid : isSoildLayer layer = false) (h : layer.bufferHandle = none)
  | refused (hsolid : isSoildLayer layer = false) {capable : Layer F → Int}
      (hdetector : constraint.Detector = some capable) (h : capable layer ≠ 0)
  | tooLarge (hlimit : toSize constraint.MaxBandwidth ≠ 0)
      (h : toSize constraint.MaxBandwidth < computeLayerMemoryFootprint (some layer))

/-- The layer lies on a pile at whose foot is a layer that the device turns away. -/
def LeftToGpu (constraint : PlanConstraint F) : List (Layer F) → Layer F → Prop :=
  Rests (TurnedAway constraint)

theorem avaliable_le_limit {m : BandwidthMeter}
    (h : m.mMaximumBandwidth ≠ BandwidthMeter.BANDWIDTH_NO_LIMIT) :
    m.avaliable ≤ m.mMaximumBandwidth := by
  unfold BandwidthMeter.avaliable
  rw [if_neg h]
  split <;> omega

theorem TurnedAway.checkDevice_ne (h : TurnedAway constraint layer)
    (hskip : isSkipLayer layer = false)
    (hlimit : s.mBWMeter.mMaximumBandwidth = toSize constraint.MaxBandwidth) :
    s.checkDevice constraint layer ≠ 0 := by
  unfold checkDevice checkDeviceWith
  split
  · decide
  rename_i hbuffer
  split
  · decide
  rename_i hfit
  cases h with
  | skipped h =>
      rw [hskip] at h
      cases h
  | noBuffer hsolid h =>
      rw [hsolid, h] at hbuffer
      exact absurd rfl hbuffer
  | refused hsolid hdetector h =>
      rw [hsolid, hdetector]
      exact h
  | tooLarge hne h =>
      rw [← hlimit] at hne h
      have hle := avaliable_le_limit hne
      omega

def Drawn (s : StrategyHardwareFirst F) (layer : Layer F) : Prop :=
  s.mGpuCompositonLayerCnt ≠ 0 ∧
    ∃ target, s.mClientTarget = some target ∧ layer.displayFrame ∈ target.mDisplayFrameList

/-- The layer went over channel `i`: to a channel above it, or to the GPU. -/
def Above (s : StrategyHardwareFirst F) (i : Nat) (layer : Layer F) : Prop :=
  s.Drawn layer ∨ ∃ k ch, i < k ∧ s.mAssignedChannel[k]? = some ch ∧
    layer.displayFrame ∈ ch.mDisplayFrameList

omit [CFloat F] in
theorem intersect_of_over {ch : HWChannel F} (hmem : first.displayFrame ∈ ch.mDisplayFrameList)
    (hover : Over first layer) : ch.intersect layer = true :=
  List.any_eq_true.mpr ⟨_, hmem, hover⟩

omit [CFloat F] in
/-- What the GPU draws, an uncovered layer does not overlap. -/
theorem Uncovered.not_over (h : s.Uncovered layer) (hdrawn : s.Drawn first) : ¬ Over first layer := by
  intro hover
  obtain ⟨hcount, target, htarget, hmem⟩ := hdrawn
  have hmeets := intersect_of_over hmem hover
  rw [h target htarget hcount] at hmeets
  cases hmeets

structure Begins (constraint : PlanConstraint F) (first : Layer F) (ch : HWChannel F) : Prop where
  afbc : ch.mIsAFBC = isAfbcBuffer first.bufferHandle
  blending : ch.mBlending = first.blending
  alpha : ch.mPlaneAlpha = first.alpha
  format : ch.mPixelFormat = getLayerPixelFormat first
  zoom : ch.mZoomFactor = computeLayerZoomFactor (some first) constraint.ScreenTransform
  next : expectSlot constraint ≤ ch.mNextFreeSlot
  frame : first.displayFrame ∈ ch.mDisplayFrameList

theorem begins_insert_first {ch : HWChannel F} (h : ch.mNextFreeSlot = 0) :
    Begins constraint layer (ch.insert layer
      (computeLayerZoomFactor (some layer) constraint.ScreenTransform) (expectSlot constraint)) := by
  refine ⟨?_, ?_, ?_, ?_, ?_, ?_, ?_⟩
  · simp [HWChannel.insert, h]
  · exact HWChannel.mBlending_insert_first h
  · exact (HWChannel.insert_first h _ _ _).1
  · exact HWChannel.mPixelFormat_insert_first h
  · exact (HWChannel.insert_first h _ _ _).2
  · rw [HWChannel.mNextFreeSlot_insert]
    exact Nat.le_add_left _ _
  · rw [HWChannel.mDisplayFrameList_insert]
    exact List.mem_append_right _ (List.mem_singleton_self _)

theorem Begins.insert {ch : HWChannel F} (h : Begins constraint first ch) (layer : Layer F)
    (zoom : ZoomFactor F) (n : Nat) : Begins constraint first (ch.insert layer zoom n) := by
  have hpos := expectSlot_pos constraint
  have hnext := h.next
  have hne : ch.mNextFreeSlot ≠ 0 := by omega
  refine ⟨?_, ?_, ?_, ?_, ?_, ?_, ?_⟩
  · rw [HWChannel.mIsAFBC_insert hne]
    exact h.afbc
  · rw [HWChannel.mBlending_insert hne]
    exact h.blending
  · rw [(HWChannel.insert_later hne layer zoom n).1]
    exact h.alpha
  · rw [HWChannel.mPixelFormat_insert hne]
    exact h.format
  · rw [(HWChannel.insert_later hne layer zoom n).2]
    exact h.zoom
  · rw [HWChannel.mNextFreeSlot_insert]
    omega
  · rw [HWChannel.mDisplayFrameList_insert]
    exact List.mem_append_left _ h.frame

theorem Begins.matchLayer {ch ch' : HWChannel F} (h : Begins constraint first ch)
    (h' : Begins constraint first ch') (hslots : ch.freeSlots ≤ ch'.freeSlots) {zoom : ZoomFactor F}
    {n : Nat} (hmatch : ch.matchLayer layer zoom n = true) : ch'.matchLayer layer zoom n = true := by
  unfold HWChannel.matchLayer
  unfold HWChannel.matchLayer at hmatch
  rw [h'.afbc, h'.blending, h'.alpha, h'.format, h'.zoom]
  rw [h.afbc, h.blending, h.alpha, h.format, h.zoom] at hmatch
  split at hmatch
  · cases hmatch
  · rename_i hfit
    rw [if_neg (by omega)]
    exact hmatch

/-- The device has put the layer in channel `p`: nothing from there on meets it. -/
structure TakenAt (constraint : PlanConstraint F) (s s' : StrategyHardwareFirst F) (layer : Layer F)
    (p : Nat) : Prop where
  clear : ∀ (k : Nat) (ch : HWChannel F), p ≤ k → s.mAssignedChannel[k]? = some ch →
    ch.intersect layer = false
  shown : ∃ ch, s'.mAssignedChannel[p]? = some ch ∧ layer.displayFrame ∈ ch.mDisplayFrameList
  grows : ∀ (i : Nat) (ch : HWChannel F), s.mAssignedChannel[i]? = some ch →
    ∃ ch' : HWChannel F, s'.mAssignedChannel[i]? = some ch' ∧
      ∀ rect ∈ ch.mDisplayFrameList, rect ∈ ch'.mDisplayFrameList
  origin : ∀ (i : Nat) (ch' : HWChannel F), s'.mAssignedChannel[i]? = some ch' →
    Begins constraint layer ch' ∨
      ∃ ch : HWChannel F, s.mAssignedChannel[i]? = some ch ∧
        ∀ first, Begins constraint first ch → Begins constraint first ch'
  drawn : ∀ l, s.Drawn l → s'.Drawn l
  limit : s'.mBWMeter.mMaximumBandwidth = s.mBWMeter.mMaximumBandwidth

theorem allocate_count {t : HWChannelType} {ch : HWChannel F}
    (halloc : s.allocateHWChannel t = (some ch, s')) :
    s'.mGpuCompositonLayerCnt = s.mGpuCompositonLayerCnt := by
  rcases allocateHWChannel_some halloc with
    ⟨-, rest, c, -, -, rfl⟩ | ⟨-, rest, -, rfl⟩ | ⟨-, rest, -, rfl⟩
  · rfl
  · rfl
  · rfl

omit [CFloat F] in
theorem getElem?_insertAt (s : StrategyHardwareFirst F) (m : Nat) (layer : Layer F)
    (zoom : ZoomFactor F) (n bw i : Nat) :
    (s.insertAt m layer zoom n bw).mAssignedChannel[i]? =
      if m = i then s.mAssignedChannel[i]?.map fun ch => ch.insert layer zoom n
      else s.mAssignedChannel[i]? := by
  unfold insertAt
  rw [List.getElem?_modify]
  split
  · rfl
  · exact Option.map_id'

theorem takenAt_insertAt {m bw : Nat} {zoom : ZoomFactor F} {n : Nat}
    (hmatch : matchChannel constraint s.mAssignedChannel layer = some m) :
    TakenAt constraint s (s.insertAt m layer zoom n bw) layer m := by
  obtain ⟨ch, hch, -, hclear⟩ := matchChannel_spec hmatch
  refine ⟨fun k c hk hc => hclear k c hk hc, ?_, ?_, ?_, fun _ h => h, rfl⟩
  -- the layer is shown in the channel that matched, and every channel keeps its frames
  · refine ⟨ch.insert layer zoom n, ?_, ?_⟩
    · rw [getElem?_insertAt, if_pos rfl, hch, Option.map_some]
    · rw [HWChannel.mDisplayFrameList_insert]
      exact List.mem_append_right _ (List.mem_singleton_self _)
  · intro i c hc
    rw [getElem?_insertAt, hc]
    split
    · refine ⟨c.insert layer zoom n, rfl, ?_⟩
      rw [HWChannel.mDisplayFrameList_insert]
      exact fun rect h => List.mem_append_left _ h
    · exact ⟨c, rfl, fun _ h => h⟩
  · intro i c hc
    rw [getElem?_insertAt] at hc
    split at hc
    · obtain ⟨c', hc', rfl⟩ := Option.map_eq_some_iff.mp hc
      exact .inr ⟨c', hc', fun first h => h.insert layer zoom n⟩
    · exact .inr ⟨c, hc, fun _ h => h⟩

theorem takenAt_open (h : Spare s) {ch : HWChannel F} {s₁ : StrategyHardwareFirst F}
    {t : HWChannelType} {bw : Nat} (halloc : s.allocateHWChannel t = (some ch, s₁)) :
    TakenAt constraint s ({ s₁ with mAssignedChannel := s₁.mAssignedChannel ++ [ch] }.insertAt
      s₁.mAssignedChannel.length layer
      (computeLayerZoomFactor (some layer) constraint.ScreenTransform) (expectSlot constraint) bw)
      layer s.mAssignedChannel.length := by
  obtain ⟨hblank, -, hassigned, htarget, hmeter⟩ := h.allocate halloc
  have hbegins : Begins constraint layer (ch.insert layer
      (computeLayerZoomFactor (some layer) constraint.ScreenTransform) (expectSlot constraint)) :=
    begins_insert_first hblank.next
  have hchannels : ({ s₁ with mAssignedChannel := s₁.mAssignedChannel ++ [ch] }.insertAt
      s₁.mAssignedChannel.length layer
      (computeLayerZoomFactor (some layer) constraint.ScreenTransform) (expectSlot constraint)
      bw).mAssignedChannel = s.mAssignedChannel ++ [ch.insert layer
        (computeLayerZoomFactor (some layer) constraint.ScreenTransform)
        (expectSlot constraint)] := by
    rw [mAssignedChannel_open, hassigned]
  refine ⟨?_, ?_, ?_, ?_, ?_, ?_⟩
  -- there is no channel above the new one
  · intro k c hk hc
    exact absurd (List.getElem?_eq_some_iff.mp hc).1 (by omega)
  · rw [hchannels]
    exact ⟨_, List.getElem?_concat_length, hbegins.frame⟩
  · intro i c hc
    rw [hchannels]
    exact ⟨c, List.getElem?_append_left (List.getElem?_eq_some_iff.mp hc).1 ▸ hc,
      fun _ h => h⟩
  · intro i c hc
    rw [hchannels] at hc
    by_cases hi : i < s.mAssignedChannel.length
    · rw [List.getElem?_append_left hi] at hc
      exact .inr ⟨c, hc, fun _ h => h⟩
    · rw [List.getElem?_append_right (Nat.not_lt.mp hi), List.getElem?_singleton] at hc
      split at hc
      · cases hc
        exact .inl hbegins
      · cases hc
  · intro l hdrawn
    obtain ⟨hcount, target, hsome, hmem⟩ := hdrawn
    refine ⟨?_, target, ?_, hmem⟩
    · show s₁.mGpuCompositonLayerCnt ≠ 0
      rw [allocate_count halloc]
      exact hcount
    · show s₁.mClientTarget = some target
      rw [htarget]
      exact hsome
  · show s₁.mBWMeter.mMaximumBandwidth = _
    rw [hmeter]

theorem dispatchToDevice_takenAt (h : Spare s)
    (hdispatch : s.dispatchToDevice constraint layer = (s', 0)) :
    ∃ p, TakenAt constraint s s' layer p := by
  have hwith : s.dispatchToDeviceWith computeLayerMemoryFootprint constraint layer = (s', 0) :=
    hdispatch
  rcases (dispatchToDeviceWith_ok hwith).2 with ⟨m, hmatch, rfl⟩ | ⟨ch, s₁, halloc, rfl⟩
  · exact ⟨m, takenAt_insertAt hmatch⟩
  · exact ⟨_, takenAt_open h halloc⟩

/-- The GPU has taken the layer: the channels stay. -/
structure TakenByGpu (s s' : StrategyHardwareFirst F) (layer : Layer F) : Prop where
  channels : s'.mAssignedChannel = s.mAssignedChannel
  layer : s'.Drawn layer
  drawn : ∀ l, s.Drawn l → s'.Drawn l
  limit : s'.mBWMeter.mMaximumBandwidth = s.mBWMeter.mMaximumBandwidth

theorem assignAsGpuComposition_taken (h : Spare s) {reason : Int}
    (hgpu : s.assignAsGpuComposition context layer reason = .ok (s', none)) :
    TakenByGpu s s' layer := by
  have hwith : s.assignAsGpuCompositionWith computeLayerMemoryFootprint context layer reason =
      .ok (s', none) := hgpu
  rcases assignAsGpuCompositionWith_ok hwith with
    ⟨target, htarget, rfl⟩ | ⟨hnone, -, ch, s₁, halloc, rfl⟩
  · refine ⟨rfl, ⟨Nat.succ_ne_zero _, _, rfl, ?_⟩, ?_, rfl⟩
    · exact List.mem_append_right _ (List.mem_singleton_self _)
    · intro l hdrawn
      obtain ⟨hcount, target', htarget', hmem⟩ := hdrawn
      rw [htarget] at htarget'
      cases htarget'
      exact ⟨Nat.succ_ne_zero _, _, rfl, List.mem_append_left _ hmem⟩
  · obtain ⟨-, -, hassigned, -, hmeter⟩ := h.allocate halloc
    refine ⟨hassigned, ⟨Nat.succ_ne_zero _, _, rfl, ?_⟩, ?_, ?_⟩
    · exact List.mem_append_right _ (List.mem_singleton_self _)
    · intro l hdrawn
      obtain ⟨-, target', htarget', -⟩ := hdrawn
      rw [hnone] at htarget'
      cases htarget'
    · show s₁.mBWMeter.mMaximumBandwidth = _
      rw [hmeter]

/-- What the channels and the client target tell about the layers assigned so far. -/
structure Story (constraint : PlanConstraint F) (done : List (Layer F))
    (s : StrategyHardwareFirst F) : Prop where
  separate : Separate s
  limit : s.mBWMeter.mMaximumBandwidth = toSize constraint.MaxBandwidth
  gpu : ∀ lower m upper, done = lower ++ m :: upper → LeftToGpu constraint lower m → s.Drawn m
  opened : ∀ i ch, s.mAssignedChannel[i]? = some ch → ∃ below first between,
    done = below ++ first :: between ∧ Begins constraint first ch ∧
      ¬ LeftToGpu constraint below first ∧
      ∀ lower m upper, between = lower ++ m :: upper → Rests (Over first) lower m → s.Above i m

omit [CFloat F] in
theorem concat_split {done lower upper : List (Layer F)} {m : Layer F}
    (h : done ++ [layer] = lower ++ m :: upper) :
    (lower = done ∧ m = layer) ∨ ∃ upper', done = lower ++ m :: upper' := by
  rcases List.eq_nil_or_concat upper with rfl | ⟨upper', last, rfl⟩
  · obtain ⟨hdone, hlast⟩ := List.append_inj' h rfl
    cases hlast
    exact .inl ⟨hdone.symm, rfl⟩
  · rw [List.concat_eq_append, ← List.cons_append, ← List.append_assoc] at h
    exact .inr ⟨upper', (List.append_inj' h rfl).1⟩

variable {done : List (Layer F)}

/-- A layer that gets as far as the search for a channel lies on no layer left to the GPU. -/
theorem Story.not_leftToGpu (h : Story constraint done s) (hskip : isSkipLayer layer = false)
    (huncovered : s.Uncovered layer) (hcheck : s.checkDevice constraint layer = 0) :
    ¬ LeftToGpu constraint done layer := by
  intro hleft
  -- the layers under it that the GPU draws would have covered it
  cases hleft with
  | base haway => exact haway.checkDevice_ne hskip h.limit hcheck
  | up hfront hrests hover => exact huncovered.not_over (h.gpu _ _ _ hfront hrests) hover

theorem Story.lt_of_rests {i p : Nat} {between : List (Layer F)}
    (hclear : ∀ k ch, p ≤ k → s.mAssignedChannel[k]? = some ch → ch.intersect layer = false)
    (huncovered : s.Uncovered layer) {ch : HWChannel F} (hch : s.mAssignedChannel[i]? = some ch)
    (hbegins : Begins constraint first ch)
    (habove : ∀ lower m upper, between = lower ++ m :: upper → Rests (Over first) lower m →
      s.Above i m) (hrests : Rests (Over first) between layer) : i < p := by
  -- a channel that holds something under the layer is below `p`
  have hbelow : ∀ {k c l}, s.mAssignedChannel[k]? = some c →
      l.displayFrame ∈ c.mDisplayFrameList → Over l layer → k < p := by
    intro k c l hc hmem hover
    by_contra hle
    have hmeets := intersect_of_over hmem hover
    rw [hclear k c (Nat.not_lt.mp hle) hc] at hmeets
    cases hmeets
  cases hrests with
  | base hover => exact hbelow hch hbegins.frame hover
  -- what lies on `first` has gone to a channel above `i`, or to the GPU
  | up hfront hrests hover =>
      rcases habove _ _ _ hfront hrests with hdrawn | ⟨k, c, hik, hc, hmem⟩
      · exact absurd hover (huncovered.not_over hdrawn)
      · exact Nat.lt_trans hik (hbelow hc hmem hover)

theorem Story.device (h : Story constraint done s) (hskip : isSkipLayer layer = false)
    (huncovered : s.Uncovered layer) (hdispatch : s.dispatchToDevice constraint layer = (s', 0)) :
    Story constraint (done ++ [layer]) s' := by
  obtain ⟨hcheck, hseparate, -⟩ := h.separate.device hdispatch
  have hleft := h.not_leftToGpu hskip huncovered hcheck
  obtain ⟨p, htaken⟩ := dispatchToDevice_takenAt h.separate.spare hdispatch
  refine ⟨hseparate, htaken.limit.trans h.limit, ?_, ?_⟩
  · intro lower m upper hdone hm
    rcases concat_split hdone with ⟨rfl, rfl⟩ | ⟨upper', hdone'⟩
    · exact absurd hm hleft
    · exact htaken.drawn m (h.gpu lower m upper' hdone' hm)
  · intro i ch' hch'
    rcases htaken.origin i ch' hch' with hbegins | ⟨ch, hch, hkeeps⟩
    -- a channel opened for the new layer, on which nothing lies yet
    · refine ⟨done, layer, [], rfl, hbegins, hleft, ?_⟩
      intro lower m upper hnil
      simp at hnil
    obtain ⟨below, first, between, hdone, hbegins, hfirst, habove⟩ := h.opened i ch hch
    refine ⟨below, first, between ++ [layer], ?_, hkeeps first hbegins, hfirst, ?_⟩
    · rw [hdone, List.append_assoc, List.cons_append]
    intro lower m upper hbetween hrests
    rcases concat_split hbetween with ⟨rfl, rfl⟩ | ⟨upper', hbetween'⟩
    -- the new layer itself
    · obtain ⟨c, hc, hmem⟩ := htaken.shown
      have hlt := Story.lt_of_rests htaken.clear huncovered hch hbegins habove hrests
      exact .inr ⟨p, c, hlt, hc, hmem⟩
    · rcases habove lower m upper' hbetween' hrests with hdrawn | ⟨k, c, hik, hc, hmem⟩
      · exact .inl (htaken.drawn m hdrawn)
      · obtain ⟨c', hc', hsub⟩ := htaken.grows k c hc
        exact .inr ⟨k, c', hik, hc', hsub _ hmem⟩

theorem Story.takenByGpu (h : Story constraint done s) (hseparate : Separate s')
    (htaken : TakenByGpu s s' layer) : Story constraint (done ++ [layer]) s' := by
  refine ⟨hseparate, htaken.limit.trans h.limit, ?_, ?_⟩
  · intro lower m upper hdone hm
    rcases concat_split hdone with ⟨rfl, rfl⟩ | ⟨upper', hdone'⟩
    · exact htaken.layer
    · exact htaken.drawn m (h.gpu lower m upper' hdone' hm)
  · intro i ch hch
    rw [htaken.channels] at hch
    obtain ⟨below, first, between, hdone, hbegins, hfirst, habove⟩ := h.opened i ch hch
    refine ⟨below, first, between ++ [layer], ?_, hbegins, hfirst, ?_⟩
    · rw [hdone, List.append_assoc, List.cons_append]
    intro lower m upper hbetween hrests
    rcases concat_split hbetween with ⟨rfl, rfl⟩ | ⟨upper', hbetween'⟩
    · exact .inl htaken.layer
    · rcases habove lower m upper' hbetween' hrests with hdrawn | ⟨k, c, hik, hc, hmem⟩
      · exact .inl (htaken.drawn m hdrawn)
      · refine .inr ⟨k, c, hik, ?_, hmem⟩
        rw [htaken.channels]
        exact hc

theorem Story.assignLayer (h : Story constraint done s)
    (hassign : s.assignLayer constraint context layer = .ok (s', none)) :
    Story constraint (done ++ [layer]) s' := by
  rcases assignLayer_cases hassign with
    ⟨hskip, huncovered, hdevice⟩ | ⟨-, exhausted, reason, hgpu⟩
  · exact h.device hskip huncovered hdevice
  · have hspare : Spare { s with mChannelExhausted := exhausted } :=
      ⟨h.separate.spare.channels, h.separate.spare.target⟩
    have htaken := assignAsGpuComposition_taken hspare hgpu
    exact h.takenByGpu (h.separate.assignLayer hassign).1
      ⟨htaken.channels, htaken.layer, htaken.drawn, htaken.limit⟩

theorem Story.doAssignment {layers : List (Layer F)} (h : Story constraint done s)
    (hrun : doAssignment constraint context s layers = .ok (s', .ASSIGN_SUCCESS)) :
    Story constraint (done ++ layers) s' := by
  induction layers generalizing s done with
  | nil =>
      cases hrun
      rw [List.append_nil]
      exact h
  | cons layer layers ih =>
      rw [doAssignment_cons] at hrun
      split at hrun
      · cases hrun
      · rename_i s₁ code hassign
        cases hrun
        have hassign' : s.assignLayerWith computeLayerMemoryFootprint constraint context layer =
            .ok (s', some .ASSIGN_SUCCESS) := hassign
        cases assignLayerWith_code hassign'
      · rename_i s₁ hassign
        rw [List.append_cons]
        exact ih (h.assignLayer hassign) hrun

/-- There is room on the device for two layers besides the framebuffer, and the lower one needs no video
channel. -/
structure Room (constraint : PlanConstraint F) (context : CompositionContext F)
    (first layer : Layer F) : Prop where
  hybrid : 0 ≤ constraint.MaxHybridChannel
  rgb : 2 ≤ constraint.MaxRGBChannel
  video : needsVideoChannel first = false
  bandwidth : toSize constraint.MaxBandwidth = 0 ∨
    computeLayerMemoryFootprint context.FramebufferTarget +
      computeLayerMemoryFootprint (some first) + computeLayerMemoryFootprint (some layer) ≤
        toSize constraint.MaxBandwidth

end AwHal.Hwc.StrategyHardwareFirst
