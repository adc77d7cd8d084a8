import AwHal.Hwc.StrategyStep
import AwHal.Lib.Stacking

/-!
# One pass of `StrategyHardwareFirst`

The invariants that the assignment of a layer keeps, and with it the pass over all input layers:
the book-keeping of the channel lists (`PassInv`) and the order of the layers (`Stacking.Keeps`).
-/

namespace AwHal.Hwc

open AwHal.Lib

set_option linter.unusedSectionVars false

namespace StrategyHardwareFirst

variable {F : Type} [CFloat F] {constraint : PlanConstraint F} {context : CompositionContext F}
  {s s' : StrategyHardwareFirst F} {layer : Layer F}

/-! ## The channel lists -/

/-- The formats that need a channel with video support. -/
def videoFormat (format : Int) : Bool := yuvFormat format || viExclusiveFormat format

theorem needsVideoChannel_of_format (h : videoFormat (getLayerPixelFormat layer) = true) :
    needsVideoChannel layer = true := by
  -- a solid layer counts as RGBA_8888, and a layer without a buffer has no format
  by_cases hsolid : isSoildLayer layer = true
  · rw [getLayerPixelFormat, if_pos hsolid] at h
    exact absurd h (by decide)
  · cases hbuf : layer.bufferHandle with
    | none =>
        simp only [getLayerPixelFormat, hsolid, hbuf] at h
        exact absurd h (by decide)
    | some handle =>
        rw [getLayerPixelFormat_of_buffer (by simpa using hsolid) hbuf] at h
        simpa [needsVideoChannel, isYuvFormat, isViChannelExclusiveRgbFormat, hbuf, videoFormat]
          using h

theorem format_of_needsVideoChannel (hsolid : isSoildLayer layer = false)
    (h : needsVideoChannel layer = true) : videoFormat (getLayerPixelFormat layer) = true := by
  cases hbuf : layer.bufferHandle with
  | none => simp [needsVideoChannel, isYuvFormat, isViChannelExclusiveRgbFormat, hbuf] at h
  | some handle =>
      rw [getLayerPixelFormat_of_buffer hsolid hbuf]
      simpa [needsVideoChannel, isYuvFormat, isViChannelExclusiveRgbFormat, hbuf, videoFormat]
        using h

def clientChannel (layers : List (Layer F × Int)) : HWChannel F :=
  { HWChannel.new with
    mAsFrameBufferTarget := true
    mDisplayFrameList := layers.map fun p => p.1.displayFrame }

def channelCount (s : StrategyHardwareFirst F) : Nat :=
  s.mAssignedChannel.length + s.mClientTarget.toList.length + s.mReservedYUVChannel.length +
    s.mFreeRgbOverlayChannel.length + s.mFreeChannel.length

/-- What holds between two layers of a pass over `total` channels, `reserve` of them for video. -/
structure PassInv (total reserve : Nat) (s : StrategyHardwareFirst F) : Prop where
  wellFormed : ∀ ch ∈ s.mAssignedChannel, ch.WellFormed
  used : ∀ ch ∈ s.mAssignedChannel, ch.layers ≠ []
  video : ∀ ch ∈ s.mAssignedChannel,
    videoFormat ch.mPixelFormat = true → ch.mAsVideoChannel = true
  free : ∀ ch ∈ s.mFreeChannel, ch = HWChannel.new
  reserved : ∀ ch ∈ s.mReservedYUVChannel, ch = freshChannel .YUV_CHANNEL
  overlay : ∀ ch ∈ s.mFreeRgbOverlayChannel, ch = freshChannel .RGB_WITHOUT_ALPHA_CHANNEL
  noTarget : s.mClientTarget = none → s.mClientCompositionLayers = []
  target : ∀ target, s.mClientTarget = some target →
    target = clientChannel s.mClientCompositionLayers
  count : s.mGpuCompositonLayerCnt = s.mClientCompositionLayers.length
  reasons : ∀ p ∈ s.mClientCompositionLayers, p.2 ≠ eHardwareLayer
  total : s.channelCount = total
  videos : s.mAssignedChannel.countP HWChannel.mAsVideoChannel + s.mReservedYUVChannel.length =
    reserve

variable {total reserve : Nat} {ch : HWChannel F} {zoom : ZoomFactor F} {n footprint : Nat}

theorem PassInv.targetOk (h : PassInv total reserve s) : s.TargetOk := by
  intro hnone
  rw [h.count, h.noTarget hnone, List.length_nil]

theorem passInv_cleared (h : ReservationOk constraint s) :
    PassInv (totalCount constraint) s.reservedCount (cleared constraint context s) := by
  refine ⟨by simp [cleared], by simp [cleared], by simp [cleared], ?_, ?_, ?_,
    fun _ => rfl, ?_, rfl, by simp [cleared], ?_, ?_⟩
  · intro ch hch
    exact List.eq_of_mem_replicate hch
  · intro ch hch
    exact List.eq_of_mem_replicate hch
  · intro ch hch
    exact List.eq_of_mem_replicate hch
  · intro target htarget
    cases htarget
  -- the three lists of spare channels make up all channels
  · rw [h.total_eq]
    simp [channelCount, cleared]
    omega
  · simp [cleared]

theorem passInv_withClientTarget (h : ReservationOk constraint s)
    (hfree : 0 < freeCount constraint s) :
    PassInv (totalCount constraint) s.reservedCount
      ((cleared constraint context s).withClientTarget context) := by
  have hinv : PassInv _ _ (cleared constraint context s) := passInv_cleared h
  refine ⟨hinv.wellFormed, hinv.used, hinv.video, ?_, hinv.reserved, hinv.overlay, ?_, ?_,
    hinv.count, hinv.reasons, ?_, hinv.videos⟩
  · intro ch hch
    exact hinv.free ch (List.dropLast_subset _ hch)
  · intro hnone
    cases hnone
  · intro target htarget
    cases htarget
    rfl
  · rw [← hinv.total]
    simp [channelCount, withClientTarget, cleared]
    omega

theorem passInv_begun (h : ReservationOk constraint s) :
    PassInv (totalCount constraint) s.reservedCount (begun constraint context s) := by
  unfold begun
  split
  · rename_i hneed
    exact passInv_withClientTarget h hneed.2
  · exact passInv_cleared h

/-- A channel fresh from its list, with no layer and no covered frame. -/
structure Blank (ch : HWChannel F) : Prop where
  wellFormed : ch.WellFormed
  next : ch.mNextFreeSlot = 0
  layers : ch.layers = []

theorem blank_fresh (t : HWChannelType) (video : Bool) :
    Blank { (freshChannel t : HWChannel F) with mAsVideoChannel := video } := by
  have hwf := HWChannel.wellFormed_new (F := F)
  exact ⟨⟨hwf.slots, hwf.next, hwf.unused, by simp [HWChannel.layers, freshChannel, HWChannel.new],
    by simp [HWChannel.layers, freshChannel, HWChannel.new],
    by simp [HWChannel.layers, freshChannel, HWChannel.new]⟩, rfl, rfl⟩

/-- The parts of the state that the lists of spare channels do not touch. -/
structure SameBook (s s' : StrategyHardwareFirst F) : Prop where
  assigned : s'.mAssignedChannel = s.mAssignedChannel
  target : s'.mClientTarget = s.mClientTarget
  client : s'.mClientCompositionLayers = s.mClientCompositionLayers
  count : s'.mGpuCompositonLayerCnt = s.mGpuCompositonLayerCnt
  need : s'.mNeedClientTarget = s.mNeedClientTarget
  reservedCnt : s'.mReservedYUVChannelCnt = s.mReservedYUVChannelCnt

/-- An allocated channel is blank and has video support exactly when it was reserved for video. -/
structure Allocated (t : HWChannelType) (ch : HWChannel F) (s s' : StrategyHardwareFirst F) :
    Prop where
  blank : Blank ch
  video : ch.mAsVideoChannel = decide (t = .YUV_CHANNEL)
  rgb : t = .RGB_CHANNEL → ch = HWChannel.new
  book : SameBook s s'

theorem PassInv.allocate (h : PassInv total reserve s) {t : HWChannelType}
    (halloc : s.allocateHWChannel t = (some ch, s')) :
    ∃ total' reserve', PassInv total' reserve' s' ∧ total = total' + 1 ∧
      reserve = reserve' + (if ch.mAsVideoChannel then 1 else 0) ∧ Allocated t ch s s' := by
  have htotal := h.total
  have hvideos := h.videos
  unfold channelCount at htotal
  rcases allocateHWChannel_some halloc with
    ⟨rfl, rest, c, hlist, rfl, rfl⟩ | ⟨rfl, rest, hlist, rfl⟩ | ⟨ht, rest, hlist, rfl⟩
  · have hc : c = freshChannel .YUV_CHANNEL := h.reserved c (by simp [hlist])
    subst hc
    rw [hlist, List.length_append, List.length_singleton] at htotal hvideos
    refine ⟨total - 1, reserve - 1, ⟨h.wellFormed, h.used, h.video, h.free, ?_, h.overlay,
      h.noTarget, h.target, h.count, h.reasons, ?_, ?_⟩, by omega, ?_, ⟨blank_fresh _ _, rfl, nofun,
      ⟨rfl, rfl, rfl, rfl, rfl, rfl⟩⟩⟩
    · intro ch hch
      exact h.reserved ch (by rw [hlist]; exact List.mem_append_left _ hch)
    · simp only [channelCount]
      omega
    -- the channel leaves the reserve and is a video channel from now on
    · show s.mAssignedChannel.countP HWChannel.mAsVideoChannel + rest.length = _
      omega
    · simp only [if_true]
      omega
  · have hc : ch = freshChannel .RGB_WITHOUT_ALPHA_CHANNEL := h.overlay ch (by simp [hlist])
    subst hc
    rw [hlist, List.length_append, List.length_singleton] at htotal
    refine ⟨total - 1, reserve, ⟨h.wellFormed, h.used, h.video, h.free, h.reserved, ?_, h.noTarget,
      h.target, h.count, h.reasons, ?_, hvideos⟩, by omega, rfl,
      ⟨blank_fresh .RGB_WITHOUT_ALPHA_CHANNEL false, rfl, nofun,
        ⟨rfl, rfl, rfl, rfl, rfl, rfl⟩⟩⟩
    · intro ch hch
      exact h.overlay ch (by rw [hlist]; exact List.mem_append_left _ hch)
    · simp only [channelCount]
      omega
  · have hc : ch = HWChannel.new := h.free ch (by simp [hlist])
    subst hc
    rw [hlist, List.length_append, List.length_singleton] at htotal
    refine ⟨total - 1, reserve, ⟨h.wellFormed, h.used, h.video, ?_, h.reserved, h.overlay,
      h.noTarget, h.target, h.count, h.reasons, ?_, hvideos⟩, by omega, rfl,
      ⟨blank_fresh .RGB_CHANNEL false, ?_, fun _ => rfl, ⟨rfl, rfl, rfl, rfl, rfl, rfl⟩⟩⟩
    · intro ch hch
      exact h.free ch (by rw [hlist]; exact List.mem_append_left _ hch)
    · simp only [channelCount]
      omega
    · simp [HWChannel.new, ht]

theorem mem_insertAt {m : Nat} {c : HWChannel F}
    (h : c ∈ (s.insertAt m layer zoom n footprint).mAssignedChannel) :
    c ∈ s.mAssignedChannel ∨
      ∃ ch, s.mAssignedChannel[m]? = some ch ∧ c = ch.insert layer zoom n := by
  obtain ⟨i, hi⟩ := List.mem_iff_getElem?.mp h
  simp only [insertAt, List.getElem?_modify] at hi
  by_cases him : m = i
  · subst him
    cases hch : s.mAssignedChannel[m]? with
    | none => simp [hch] at hi
    | some ch =>
        simp only [hch, if_true, Option.map_eq_map, Option.map_some, Option.some.injEq] at hi
        exact Or.inr ⟨ch, rfl, hi.symm⟩
  · simp only [him, if_false, id_map'] at hi
    exact Or.inl (List.mem_of_getElem? hi)

/-- A channel that is opened for a layer is the highest one. -/
theorem mAssignedChannel_open (s : StrategyHardwareFirst F) (ch : HWChannel F) (layer : Layer F)
    (zoom : ZoomFactor F) (n footprint : Nat) :
    ({ s with mAssignedChannel := s.mAssignedChannel ++ [ch] }.insertAt
      s.mAssignedChannel.length layer zoom n footprint).mAssignedChannel =
        s.mAssignedChannel ++ [ch.insert layer zoom n] :=
  modify_concat _ _ _

theorem countP_video_insertAt (m : Nat) :
    (s.insertAt m layer zoom n footprint).mAssignedChannel.countP HWChannel.mAsVideoChannel =
      s.mAssignedChannel.countP HWChannel.mAsVideoChannel := by
  apply countP_eq_of_map_eq
  rw [insertAt, map_modify id (by simp), List.modify_id]

theorem PassInv.join (h : PassInv total reserve s) (hn : 0 < n) {m : Nat}
    (hch : s.mAssignedChannel[m]? = some ch) (hmatch : ch.matchLayer layer zoom n = true) :
    PassInv total reserve (s.insertAt m layer zoom n footprint) := by
  have hmem := List.mem_of_getElem? hch
  -- a channel that matches has the format of the layer, so a video layer joins a video channel only
  obtain ⟨hacc, hformat⟩ := HWChannel.matchLayer_spec (h.wellFormed ch hmem) hn hmatch
  refine ⟨?_, ?_, ?_, h.free, h.reserved, h.overlay, h.noTarget, h.target, h.count, h.reasons,
    ?_, ?_⟩
  · intro c hc
    rcases mem_insertAt hc with hc | ⟨ch', hch', rfl⟩
    · exact h.wellFormed c hc
    · rw [hch] at hch'
      cases hch'
      exact HWChannel.wellFormed_insert (h.wellFormed ch hmem) hacc
  · intro c hc
    rcases mem_insertAt hc with hc | ⟨ch', hch', rfl⟩
    · exact h.used c hc
    · rw [hch] at hch'
      cases hch'
      rw [HWChannel.layers_insert (h.wellFormed ch hmem) hacc]
      exact List.concat_ne_nil _ _
  · intro c hc hvideo
    rcases mem_insertAt hc with hc | ⟨ch', hch', rfl⟩
    · exact h.video c hc hvideo
    · rw [hch] at hch'
      cases hch'
      rw [hacc.mPixelFormat_insert, ← hformat] at hvideo
      rw [HWChannel.mAsVideoChannel_insert]
      exact h.video ch hmem hvideo
  · rw [← h.total]
    simp [channelCount, insertAt]
  · rw [countP_video_insertAt]
    exact h.videos

theorem Blank.accepts (h : Blank ch) (layer : Layer F) (hn : 0 < n)
    (hn' : n ≤ SLOT_PER_CHANNEL) : ch.Accepts layer n := by
  have hnext := h.next
  exact ⟨hn, by omega, fun hne => absurd hnext hne, fun hne => absurd hnext hne⟩

theorem PassInv.append (h : PassInv total reserve s) (hblank : Blank ch) (hn : 0 < n)
    (hn' : n ≤ SLOT_PER_CHANNEL)
    (hvideo : videoFormat (getLayerPixelFormat layer) = true → ch.mAsVideoChannel = true) :
    PassInv (total + 1) (reserve + (if ch.mAsVideoChannel then 1 else 0))
      ({ s with mAssignedChannel := s.mAssignedChannel ++ [ch] }.insertAt
        s.mAssignedChannel.length layer zoom n footprint) := by
  have hassigned := s.mAssignedChannel_open ch layer zoom n footprint
  have hacc := hblank.accepts layer hn hn'
  refine ⟨?_, ?_, ?_, h.free, h.reserved, h.overlay, h.noTarget, h.target, h.count, h.reasons,
    ?_, ?_⟩
  · intro c hc
    rw [hassigned] at hc
    rcases List.mem_append.mp hc with hc | hc
    · exact h.wellFormed c hc
    · rw [List.mem_singleton.mp hc]
      exact HWChannel.wellFormed_insert hblank.wellFormed hacc
  · intro c hc
    rw [hassigned] at hc
    rcases List.mem_append.mp hc with hc | hc
    · exact h.used c hc
    · rw [List.mem_singleton.mp hc, HWChannel.layers_insert hblank.wellFormed hacc]
      exact List.concat_ne_nil _ _
  · intro c hc hformat
    rw [hassigned] at hc
    rcases List.mem_append.mp hc with hc | hc
    · exact h.video c hc hformat
    · rw [List.mem_singleton.mp hc] at hformat ⊢
      rw [hacc.mPixelFormat_insert] at hformat
      rw [HWChannel.mAsVideoChannel_insert]
      exact hvideo hformat
  · rw [← h.total, channelCount, hassigned, channelCount, List.length_append]
    simp only [insertAt, List.length_singleton]
    omega
  · rw [hassigned, List.countP_append, List.countP_singleton, HWChannel.mAsVideoChannel_insert,
      ← h.videos]
    simp only [insertAt]
    omega

theorem PassInv.placed (h : PassInv total reserve s) (hplaced : Placed s layer s') :
    PassInv total reserve s' := by
  cases hplaced with
  | join hn hch hmatch _ => exact h.join hn hch hmatch
  | alloc hn hn' halloc =>
      obtain ⟨total', reserve', h', rfl, rfl, hnew⟩ := h.allocate halloc
      -- the invariant still counts the channel as spent; it comes back as the last assigned one
      refine h'.append hnew.blank hn hn' ?_
      intro hformat
      rw [hnew.video, pickChannelType, if_pos (needsVideoChannel_of_format hformat)]
      rfl

theorem clientChannel_update (layers : List (Layer F × Int)) (layer : Layer F) (reason : Int) :
    (clientChannel layers).updateDisplayFrame layer =
      clientChannel (layers ++ [(layer, reason)]) := by
  simp [clientChannel, HWChannel.updateDisplayFrame]

theorem PassInv.congr (h : PassInv total reserve s) (exhausted : Bool) (meter : BandwidthMeter) :
    PassInv total reserve { s with mChannelExhausted := exhausted, mBWMeter := meter } :=
  ⟨h.wellFormed, h.used, h.video, h.free, h.reserved, h.overlay, h.noTarget, h.target, h.count,
    h.reasons, h.total, h.videos⟩

theorem PassInv.deferTo (h : PassInv total reserve s) (layer : Layer F) {reason : Int}
    (hreason : reason ≠ eHardwareLayer) {target : HWChannel F}
    (htarget : target = clientChannel s.mClientCompositionLayers) :
    PassInv (total + 1 - s.mClientTarget.toList.length) reserve
      (s.deferTo target layer reason) := by
  refine ⟨h.wellFormed, h.used, h.video, h.free, h.reserved, h.overlay, nofun, ?_, ?_, ?_, ?_,
    h.videos⟩
  · intro target' htarget'
    cases htarget'
    rw [htarget]
    exact clientChannel_update _ _ _
  · simp [StrategyHardwareFirst.deferTo, h.count]
  · intro p hp
    rcases List.mem_append.mp hp with hp | hp
    · exact h.reasons p hp
    · rw [List.mem_singleton.mp hp]
      exact hreason
  · have hold := h.total
    simp only [channelCount, StrategyHardwareFirst.deferTo, Option.toList_some,
      List.length_singleton] at hold ⊢
    omega

theorem PassInv.deferred (h : PassInv total reserve s) (hdef : Deferred context s layer s') :
    PassInv total reserve s' := by
  cases hdef with
  | reserved hreason htarget =>
      have hinv := h.deferTo layer hreason (h.target _ htarget)
      simpa [htarget] using hinv
  | @alloc ch s₁ reason hreason htarget halloc =>
      obtain ⟨total', reserve', h', rfl, rfl, hnew⟩ := h.allocate halloc
      -- a channel from `mFreeChannel` is as new, and without a target no layer was deferred before
      obtain rfl := hnew.rgb rfl
      have hnone : s₁.mClientTarget = none := by rw [hnew.book.target, htarget]
      have hclient : ({ HWChannel.new with mAsFrameBufferTarget := true } : HWChannel F) =
          clientChannel s₁.mClientCompositionLayers := by
        rw [h'.noTarget hnone]
        rfl
      have hinv := (h'.congr s₁.mChannelExhausted (s₁.mBWMeter.add
        (computeLayerMemoryFootprint context.FramebufferTarget))).deferTo layer hreason
          hclient
      simpa [hnone, HWChannel.new] using hinv

theorem PassInv.assigned (h : PassInv total reserve s) (hstep : Assigned context s layer s') :
    PassInv total reserve s' := by
  cases hstep with
  | placed _ hplaced => exact h.placed hplaced
  | deferred exhausted hdef => exact (h.congr exhausted s.mBWMeter).deferred hdef

/-! ## The order of the layers -/

/-- The assigned channels from back to front, and the layers left to the GPU. -/
def stacking (s : StrategyHardwareFirst F) : Stacking (Layer F) :=
  { groups := s.mAssignedChannel.map HWChannel.layers
    rest := s.mClientCompositionLayers.map Prod.fst }

/-- The later layer `b` may hide part of `a`. -/
def Over (a b : Layer F) : Prop := rectangle_intersect a.displayFrame b.displayFrame = true

variable {done : List (Layer F)}

/-- A layer that the client target does not meet hides nothing that the GPU draws. -/
theorem PassInv.not_over_rest (h : PassInv total reserve s) (hcover : s.Uncovered layer) :
    ∀ a ∈ s.stacking.rest, ¬ Over a layer := by
  intro a ha hover
  obtain ⟨p, hp, rfl⟩ := List.mem_map.mp ha
  cases htarget : s.mClientTarget with
  | none =>
      rw [h.noTarget htarget] at hp
      exact absurd hp List.not_mem_nil
  | some target =>
      have hcnt : s.mGpuCompositonLayerCnt ≠ 0 := by
        rw [h.count]
        exact List.length_pos_of_mem hp |>.ne'
      have hmeet := hcover target htarget hcnt
      rw [h.target target htarget] at hmeet
      have hframe := List.any_eq_false.mp hmeet p.1.displayFrame (List.mem_map.mpr ⟨p, hp, rfl⟩)
      exact hframe hover

theorem stacking_insertAt {m : Nat}
    (hlayers : ∀ ch, s.mAssignedChannel[m]? = some ch →
      (ch.insert layer zoom n).layers = ch.layers ++ [layer]) :
    (s.insertAt m layer zoom n footprint).stacking = s.stacking.place m layer := by
  unfold stacking Stacking.place insertAt
  rw [map_modify (· ++ [layer]) hlayers]

theorem stacking_append (hblank : Blank ch) (hn : 0 < n) (hn' : n ≤ SLOT_PER_CHANNEL) :
    ({ s with mAssignedChannel := s.mAssignedChannel ++ [ch] }.insertAt
      s.mAssignedChannel.length layer zoom n footprint).stacking = s.stacking.openGroup layer := by
  have hlayers := HWChannel.layers_insert hblank.wellFormed (hblank.accepts layer hn hn') zoom
  rw [hblank.layers, List.nil_append] at hlayers
  unfold stacking Stacking.openGroup insertAt
  simp only [modify_concat, List.map_append, List.map_cons, List.map_nil, hlayers]

theorem SameBook.stacking_eq (h : SameBook s s') : s'.stacking = s.stacking := by
  rw [stacking, h.assigned, h.client, ← stacking]

theorem stacking_deferTo (target : HWChannel F) (reason : Int) :
    (s.deferTo target layer reason).stacking = s.stacking.defer layer := by
  simp [stacking, deferTo, Stacking.defer]

/-- One layer: the channels and the client target keep every pair of overlapping layers in order. -/
theorem Keeps.assigned (h : PassInv total reserve s) (hkeeps : s.stacking.Keeps Over done)
    (hnew : layer ∉ done) (hstep : Assigned context s layer s') :
    s'.stacking.Keeps Over (done ++ [layer]) := by
  cases hstep with
  -- the GPU has drawn nothing under the layer, so it may go below the client target
  | placed hcover hplaced =>
      have hrest := h.not_over_rest hcover
      cases hplaced with
      | @join m ch zoom n footprint hn hch hmatch hfree =>
          have hwf := h.wellFormed ch (List.mem_of_getElem? hch)
          obtain ⟨hacc, _⟩ := HWChannel.matchLayer_spec hwf hn hmatch
          rw [stacking_insertAt]
          · have hm : m < s.stacking.groups.length := by
              rw [stacking, List.length_map]
              exact (List.getElem?_eq_some_iff.mp hch).1
            refine hkeeps.place hnew hm ?_ hrest
            intro g hg a ha hover
            simp only [stacking, ← List.map_drop] at hg
            obtain ⟨c, hc, rfl⟩ := List.mem_map.mp hg
            obtain ⟨i, hi⟩ := List.mem_iff_getElem?.mp hc
            rw [List.getElem?_drop] at hi
            -- the scan down the channels stopped below `m`: nothing from there on meets the layer
            have hclear := hfree (m + i) c (Nat.le_add_right _ _) hi
            have hwfc := h.wellFormed c (List.mem_of_getElem? hi)
            have hno := HWChannel.not_intersect hwfc hclear a ha
            rw [Over, hno] at hover
            cases hover
          · intro ch' hch'
            rw [hch] at hch'
            cases hch'
            exact HWChannel.layers_insert hwf hacc zoom
      | alloc hn hn' halloc =>
          obtain ⟨_, _, _, _, _, halloc'⟩ := h.allocate halloc
          rw [stacking_append halloc'.blank hn hn']
          rw [halloc'.book.stacking_eq]
          exact hkeeps.openGroup hnew hrest
  | deferred exhausted hdef =>
      cases hdef with
      | reserved _ _ =>
          rw [stacking_deferTo]
          exact hkeeps.defer hnew
      | alloc _ _ halloc =>
          obtain ⟨_, _, _, _, _, halloc'⟩ := (h.congr exhausted s.mBWMeter).allocate halloc
          have hsame := halloc'.book.stacking_eq
          rw [stacking_deferTo]
          unfold stacking at hsame ⊢
          rw [hsame]
          exact hkeeps.defer hnew

/-! ## A whole pass -/

/-- What no layer changes: the flags that `perform` reads after the pass, and a client target once
there is one. -/
structure Frame (s₀ s : StrategyHardwareFirst F) : Prop where
  need : s.mNeedClientTarget = s₀.mNeedClientTarget
  reservedCnt : s.mReservedYUVChannelCnt = s₀.mReservedYUVChannelCnt
  target : s.mClientTarget = none → s₀.mClientTarget = none
  count : s₀.mGpuCompositonLayerCnt ≤ s.mGpuCompositonLayerCnt
  used : s₀.mClientTarget = none → s.mClientTarget ≠ none → s.mGpuCompositonLayerCnt ≠ 0

variable {s₀ : StrategyHardwareFirst F}

theorem Frame.refl (s : StrategyHardwareFirst F) : Frame s s :=
  ⟨rfl, rfl, id, le_rfl, fun hnone hsome => absurd hnone hsome⟩

theorem Frame.assigned (h : PassInv total reserve s) (hframe : Frame s₀ s)
    (hstep : Assigned context s layer s') : Frame s₀ s' := by
  obtain ⟨hneed, hreserved, htarget, hcount, hused⟩ := hframe
  cases hstep with
  | placed _ hplaced =>
      cases hplaced with
      | join _ _ _ _ => exact ⟨hneed, hreserved, htarget, hcount, hused⟩
      | alloc _ _ halloc =>
          obtain ⟨_, _, _, _, _, hnew⟩ := h.allocate halloc
          have hbook := hnew.book
          refine ⟨hbook.need.trans hneed, hbook.reservedCnt.trans hreserved, ?_, ?_, ?_⟩
          · intro hnone
            exact htarget (hbook.target.symm.trans hnone)
          · exact hcount.trans hbook.count.ge
          · intro hnone hsome
            exact hbook.count.symm ▸ hused hnone (hbook.target ▸ hsome)
  | deferred exhausted hdef =>
      cases hdef with
      | reserved _ _ =>
          exact ⟨hneed, hreserved, nofun, Nat.le_succ_of_le hcount, fun _ _ => Nat.succ_ne_zero _⟩
      | alloc _ _ halloc =>
          obtain ⟨_, _, _, _, _, hnew⟩ := (h.congr exhausted s.mBWMeter).allocate halloc
          have hbook := hnew.book
          exact ⟨hbook.need.trans hneed, hbook.reservedCnt.trans hreserved, nofun,
            Nat.le_succ_of_le (hcount.trans hbook.count.ge), fun _ _ => Nat.succ_ne_zero _⟩

/-- How a pass over `layers` can end: with every layer assigned, or at a layer that needs a client
target where there is none. -/
inductive PassEnds (I : List (Layer F) → StrategyHardwareFirst F → Prop) (input : List (Layer F)) :
    StrategyHardwareFirst F × AssignRetCode → Prop
  | success {s : StrategyHardwareFirst F} (h : I input s) : PassEnds I input (s, .ASSIGN_SUCCESS)
  | failed {done : List (Layer F)} {s : StrategyHardwareFirst F} (exhausted : Bool) (h : I done s)
      (hnone : s.mClientTarget = none) :
      PassEnds I input ({ s with mChannelExhausted := exhausted },
        .ASSIGN_FAILED_NO_CLIENT_TARGET_CHANNEL)

theorem doAssignment_ends {I : List (Layer F) → StrategyHardwareFirst F → Prop}
    {input : List (Layer F)} (hok : ∀ done s, I done s → s.TargetOk)
    (hstep : ∀ done layer rest s s', input = done ++ layer :: rest → I done s →
      Assigned context s layer s' → I (done ++ [layer]) s')
    (hstart : I [] s) :
    ∃ r, doAssignment constraint context s input = .ok r ∧ PassEnds I input r := by
  -- the induction is on the layers still to come; the invariant is about those already assigned
  have hrun : ∀ rest done s, input = done ++ rest → I done s →
      ∃ r, doAssignment constraint context s rest = .ok r ∧ PassEnds I input r := by
    intro rest
    induction rest with
    | nil =>
        intro done s hinput h
        rw [List.append_nil] at hinput
        subst hinput
        exact ⟨_, rfl, .success h⟩
    | cons layer rest ih =>
        intro done s hinput h
        rcases assignLayer_answered constraint context layer (hok done s h) with
          ⟨s', hanswer, hassigned⟩ | ⟨hnone, exhausted, hanswer⟩
        · simp only [doAssignment_cons, hanswer]
          exact ih (done ++ [layer]) s' (by simp [hinput])
            (hstep done layer rest s s' hinput h hassigned)
        · exact ⟨_, by simp only [doAssignment_cons, hanswer], .failed exhausted h hnone⟩
  exact hrun input [] s rfl hstart

/-- All that is known of the state after the layers `done` of a pass that started in `s₀`. -/
structure PassState (total reserve : Nat) (s₀ : StrategyHardwareFirst F)
    (input done : List (Layer F)) (s : StrategyHardwareFirst F) : Prop where
  inv : PassInv total reserve s
  frame : Frame s₀ s
  keeps : input.Nodup → s.stacking.Keeps Over done

theorem stacking_begun : (begun constraint context s).stacking = ⟨[], []⟩ := by
  unfold begun
  split <;> rfl

/-- The pass never faults, and wherever it ends the invariants hold. -/
theorem doAssignment_begun (context : CompositionContext F) (h : ReservationOk constraint s) :
    ∃ r, doAssignment constraint context (begun constraint context s) context.InputLayers = .ok r ∧
      PassEnds (PassState (totalCount constraint) s.reservedCount (begun constraint context s)
        context.InputLayers) context.InputLayers r := by
  apply doAssignment_ends
  · intro done s hs
    exact hs.inv.targetOk
  · intro done layer rest s s' hinput hs hstep
    refine ⟨hs.inv.assigned hstep, Frame.assigned hs.inv hs.frame hstep, ?_⟩
    intro hnodup
    refine Keeps.assigned hs.inv (hs.keeps hnodup) ?_ hstep
    -- a layer that comes twice would be drawn twice
    intro hmem
    rw [hinput] at hnodup
    exact (List.nodup_append.mp hnodup).2.2 layer hmem layer List.mem_cons_self rfl
  · refine ⟨passInv_begun h, Frame.refl _, fun _ => ?_⟩
    rw [stacking_begun]
    exact Stacking.keeps_nil

end StrategyHardwareFirst

end AwHal.Hwc
