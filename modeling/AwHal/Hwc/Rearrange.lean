import AwHal.Hwc.StrategyGuarantees
import AwHal.Lib.Partition

/-!
# `rearrangeChannel`

The planner orders its configurations by height.  `CompositionEngineV2Impl::rearrangeChannel` moves
those of video channels to the front and numbers all of them, so that a configuration's position is
the hardware channel it is committed to: the first `MaxHybridChannel` ones are the hybrid channels.
-/

namespace AwHal.Hwc

open AwHal.Lib

set_option linter.unusedSectionVars false

variable {F : Type}

/-- The erasing loop: video configurations go to `vchannels`, the others stay. -/
def eraseVideo : List (ChannelConfig F) → List (ChannelConfig F) → List (ChannelConfig F) →
    List (ChannelConfig F) × List (ChannelConfig F)
  | vchannels, kept, [] => (vchannels, kept)
  | vchannels, kept, config :: configs =>
      if config.VideoChannel then eraseVideo (vchannels ++ [config]) kept configs
      else eraseVideo vchannels (kept ++ [config]) configs

def rearrangeChannel (configs : List (ChannelConfig F)) : List (ChannelConfig F) :=
  let (vchannels, kept) := eraseVideo [] [] configs
  (vchannels ++ kept).mapIdx fun hardwareIndex config => { config with Index := hardwareIndex }

def hardwareOrder (configs : List (ChannelConfig F)) : List (ChannelConfig F) :=
  partitioned ChannelConfig.VideoChannel configs

/-- The hardware channel that the configuration at position `k` of the plan is committed to. -/
def hardwarePosition (configs : List (ChannelConfig F)) (k : Nat) (config : ChannelConfig F) :
    Nat :=
  partitionIndex ChannelConfig.VideoChannel configs k config

theorem eraseVideo_eq (vchannels kept configs : List (ChannelConfig F)) :
    eraseVideo vchannels kept configs =
      (vchannels ++ configs.filter ChannelConfig.VideoChannel,
        kept ++ configs.filter fun config => !config.VideoChannel) := by
  induction configs generalizing vchannels kept with
  | nil => simp [eraseVideo]
  | cons config configs ih =>
      unfold eraseVideo
      cases hvideo : config.VideoChannel with
      | true => simp [ih, hvideo]
      | false => simp [ih, hvideo]

theorem rearrangeChannel_eq (configs : List (ChannelConfig F)) :
    rearrangeChannel configs =
      (hardwareOrder configs).mapIdx fun hardwareIndex config =>
        { config with Index := hardwareIndex } := by
  simp [rearrangeChannel, eraseVideo_eq, hardwareOrder, partitioned]

theorem mem_rearrangeChannel {configs : List (ChannelConfig F)} {config : ChannelConfig F} :
    config ∈ rearrangeChannel configs ↔
      ∃ (k : Nat) (c : ChannelConfig F), configs[k]? = some c ∧
        config = { c with Index := hardwarePosition configs k c } := by
  rw [rearrangeChannel_eq, List.mem_mapIdx]
  constructor
  · rintro ⟨i, hi, rfl⟩
    obtain ⟨k, hk, hindex⟩ := exists_of_getElem?_partitioned (List.getElem?_eq_getElem hi)
    exact ⟨k, _, hk, by rw [hardwarePosition, hindex]⟩
  · rintro ⟨k, c, hk, rfl⟩
    obtain ⟨hi, hget⟩ := List.getElem?_eq_some_iff.mp
      (getElem?_partitioned (p := ChannelConfig.VideoChannel) hk)
    refine ⟨_, hi, ?_⟩
    rw [hardwarePosition]
    simp only [hardwareOrder, hget]

/-! ## The configurations of a plan -/

namespace StrategyHardwareFirst

variable [CFloat F] {constraint : PlanConstraint F} {context : CompositionContext F}
  {s : StrategyHardwareFirst F} {fb : Layer F} {fuel : Nat} {r : Performed F}

theorem layers_acceptSlots (i j : Nat) (slots : List (HWSlot F)) (a : Accepted) :
    (acceptSlots i j slots a).1.filterMap HWSlot.InputLayer =
      slots.filterMap HWSlot.InputLayer := by
  rw [← slotCells_layers i j, ← slotCells_layers i j, (acceptSlots_eq i j slots a).1,
    List.zipIdx_map_fst]

theorem acceptChannels_getElem {i k : Nat} {channels : List (HWChannel F)} {a : Accepted}
    {ch' : HWChannel F} (h : (acceptChannels i channels a).1[k]? = some ch') :
    ∃ ch, channels[k]? = some ch ∧ ch'.layers = ch.layers ∧
      ch'.mAsVideoChannel = ch.mAsVideoChannel := by
  induction channels generalizing i k a with
  | nil => simp [acceptChannels] at h
  | cons ch channels ih =>
      cases k with
      | zero =>
          simp only [acceptChannels, List.getElem?_cons_zero, Option.some.injEq] at h
          subst h
          exact ⟨ch, rfl, layers_acceptSlots i 0 ch.mSlots a, rfl⟩
      | succ k =>
          simp only [acceptChannels, List.getElem?_cons_succ] at h
          exact ih h

theorem layer_of_configSlot {ch : HWChannel F} {slot : ConfigSlot F} {layer : Layer F}
    (hslot : slot ∈ ch.setupChannelConfig.Slots) (henable : slot.Enable = true)
    (hlayer : slot.InputLayer = some layer) : layer ∈ ch.layers := by
  obtain ⟨hwslot, hmem, rfl⟩ := List.mem_map.mp hslot
  unfold HWChannel.configSlot at henable hlayer
  cases hin : hwslot.InputLayer with
  | none => simp [hin] at henable
  | some layer' =>
      simp only [hin, Option.some.injEq] at hlayer
      subst hlayer
      exact List.mem_filterMap.mpr ⟨hwslot, hmem, hin⟩

theorem perform_configs (hR : 1 ≤ constraint.MaxRGBChannel)
    (hfb : context.FramebufferTarget = some fb)
    (h : s.perform fuel constraint context {} = .ok (some r)) :
    ∃ head last, HeadOk constraint context head ∧
      doAssignment constraint context (begun constraint context head) context.InputLayers =
        .ok (last, .ASSIGN_SUCCESS) ∧
      Ended constraint context head context.InputLayers last ∧
      r.out.Configs = ((last.withFramebuffer constraint fb).acceptedChannels {}).1.map
        HWChannel.setupChannelConfig := by
  obtain ⟨head, last, hhead, hrun, hended, hfinish⟩ := perform_done hR h
  rw [finishAssign_eq hfb] at hfinish
  cases hfinish
  refine ⟨head, last, hhead, hrun, hended, ?_⟩
  rw [acceptAssignResult_configs, List.nil_append]

theorem channel_of_config {t : StrategyHardwareFirst F} {config : ChannelConfig F}
    (h : config ∈ (t.acceptedChannels {}).1.map HWChannel.setupChannelConfig) :
    ∃ ch ∈ t.mergedChannels, config.VideoChannel = ch.mAsVideoChannel ∧
      ∀ slot ∈ config.Slots, slot.Enable = true → ∀ layer, slot.InputLayer = some layer →
        layer ∈ ch.layers := by
  obtain ⟨ch', hch', rfl⟩ := List.mem_map.mp h
  obtain ⟨k, hk⟩ := List.mem_iff_getElem?.mp hch'
  obtain ⟨ch, hch, hlayers, hvideo⟩ := acceptChannels_getElem hk
  refine ⟨ch, List.mem_of_getElem? hch, hvideo, ?_⟩
  intro slot hslot henable layer hlayer
  rw [← hlayers]
  exact layer_of_configSlot hslot henable hlayer

theorem Ended.mem_frame {head last : StrategyHardwareFirst F} {layer : Layer F}
    (h : Ended constraint context head context.InputLayers last)
    (hnodup : context.InputLayers.Nodup)
    (hmem : layer ∈ (last.withFramebuffer constraint fb).mergedChannels.flatMap HWChannel.layers) :
    layer ∈ context.InputLayers ++ [fb] := by
  rw [h.inv.layers_merged] at hmem
  rcases List.mem_append.mp hmem with hdrawn | hfront
  · exact List.mem_append_left _ ((h.keeps hnodup).perm.subset (List.mem_append_left _ hdrawn))
  · obtain ⟨_, _, rfl⟩ := List.mem_map.mp hfront
    exact List.mem_concat_self

theorem PassInv.countP_video_merged {total reserve : Nat} {last : StrategyHardwareFirst F}
    (h : PassInv total reserve last) (constraint : PlanConstraint F) (fb : Layer F) :
    (last.withFramebuffer constraint fb).mergedChannels.countP HWChannel.mAsVideoChannel ≤
      reserve := by
  have hrest : ((last.withFramebuffer constraint fb).mClientTarget.toList ++
      (last.withFramebuffer constraint fb).spareChannels).countP HWChannel.mAsVideoChannel = 0 := by
    apply List.countP_eq_zero.mpr
    intro ch hch
    rw [(h.unassigned hch).2]
    decide
  rw [mergedChannels_eq, List.countP_append, hrest, ← h.videos]
  exact Nat.le_add_right _ _

theorem countP_video_configs (fb : Layer F) {head last : StrategyHardwareFirst F}
    (h : Ended constraint context head context.InputLayers last) :
    (((last.withFramebuffer constraint fb).acceptedChannels {}).1.map
      HWChannel.setupChannelConfig).countP ChannelConfig.VideoChannel ≤ head.reservedCount := by
  have hcount : (((last.withFramebuffer constraint fb).acceptedChannels {}).1.map
      HWChannel.setupChannelConfig).countP ChannelConfig.VideoChannel =
      (last.withFramebuffer constraint fb).mergedChannels.countP HWChannel.mAsVideoChannel := by
    apply countP_eq_of_map_eq
    rw [List.map_map]
    exact map_video_acceptChannels 0 _ _
  rw [hcount]
  exact h.inv.countP_video_merged constraint fb

theorem video_position_lt (hR : 1 ≤ constraint.MaxRGBChannel)
    (hfb : context.FramebufferTarget = some fb)
    (h : s.perform fuel constraint context {} = .ok (some r)) {k : Nat} {config : ChannelConfig F}
    (hk : r.out.Configs[k]? = some config) (hvideo : config.VideoChannel = true) :
    (hardwarePosition r.out.Configs k config : Int) < constraint.MaxHybridChannel := by
  obtain ⟨head, last, hhead, _, hended, hconfigs⟩ := perform_configs hR hfb h
  -- as many video configurations as channels were reserved at most, and those are hybrid ones
  have hlt := partitionIndex_lt (p := ChannelConfig.VideoChannel) hk hvideo
  have hcount := countP_video_configs fb hended
  have hle := hhead.reservation.reserved_le
  rw [← hconfigs] at hcount
  unfold hardwarePosition
  omega

/-! ## Video formats -/

/-- Layers in a video format only reach the video channels among the hybrid ones, and the
rearrangement is a stable partition that numbers the configurations by position. -/
theorem video_layers_on_hybrid_channels (hR : 1 ≤ constraint.MaxRGBChannel)
    (hdist : context.Distinct fb) (h : s.perform fuel constraint context {} = .ok (some r)) :
    (∀ config ∈ rearrangeChannel r.out.Configs, ∀ slot ∈ config.Slots, slot.Enable = true →
      ∀ layer ∈ context.InputLayers, slot.InputLayer = some layer → isSoildLayer layer = false →
        (isYuvFormat layer || isViChannelExclusiveRgbFormat layer) = true →
        config.VideoChannel = true ∧ (config.Index : Int) < constraint.MaxHybridChannel) ∧
      ∀ configs : List (ChannelConfig F),
        rearrangeChannel configs = (hardwareOrder configs).mapIdx (fun hardwareIndex config =>
          { config with Index := hardwareIndex }) ∧ (hardwareOrder configs).Perm configs := by
  refine ⟨?_, fun configs => ⟨rearrangeChannel_eq configs, partitioned_perm _ configs⟩⟩
  intro config hconfig slot hslot henable layer hin hlayer hsolid hformat
  obtain ⟨k, c, hk, rfl⟩ := mem_rearrangeChannel.mp hconfig
  obtain ⟨head, last, _, _, hended, hconfigs⟩ := perform_configs hR hdist.target h
  have hc := List.mem_of_getElem? hk
  rw [hconfigs] at hc
  obtain ⟨ch, hch, hvideo, hlayers⟩ := channel_of_config hc
  have hmem : layer ∈ ch.layers := hlayers slot hslot henable layer hlayer
  -- an input layer is on an assigned channel: the others show the framebuffer or nothing
  have hassigned : ch ∈ last.mAssignedChannel := by
    rw [mergedChannels_eq] at hch
    rcases List.mem_append.mp hch with hch | hch
    · exact hch
    · rcases (hended.inv.unassigned hch).1 with hfb | hnil
      · rw [hfb, List.mem_singleton] at hmem
        exact absurd (hmem ▸ hin) hdist.not_mem
      · rw [hnil] at hmem
        exact absurd hmem List.not_mem_nil
  have hcvideo : c.VideoChannel = true := by
    rw [hvideo]
    apply hended.inv.video ch hassigned
    -- all layers of a channel share the format that decided on its type
    rw [← (hended.inv.wellFormed ch hassigned).format layer hmem]
    exact format_of_needsVideoChannel hsolid hformat
  exact ⟨hcvideo, video_position_lt hR hdist.target h hk hcvideo⟩

def movie : Layer Rat :=
  { wallpaper with id := 3, bufferHandle := some { format := HAL_PIXEL_FORMAT_YV12 } }

def cinema : CompositionContext Rat := { desktop with InputLayers := [movie, dialog] }

theorem video_layers_on_hybrid_channels_cinema :
    ∃ r, desktopStrategy.perform 4 desktopConstraint cinema {} = .ok (some r) ∧
      ∀ config ∈ rearrangeChannel r.out.Configs, ∀ slot ∈ config.Slots, slot.Enable = true →
        slot.InputLayer = some movie →
          config.VideoChannel = true ∧ (config.Index : Int) < 1 := by
  have hdist : cinema.Distinct framebuffer := ⟨rfl, by decide, by decide⟩
  obtain ⟨r, hr⟩ : ∃ r, desktopStrategy.perform 4 desktopConstraint cinema {} = .ok (some r) :=
    exists_of_isSome (by decide +kernel)
  refine ⟨r, hr, ?_⟩
  intro config hconfig slot hslot henable hlayer
  exact (video_layers_on_hybrid_channels (by decide) hdist hr).1 config hconfig slot hslot henable
    movie (by simp [cinema]) hlayer (by decide) (by decide)

/-! ## Blending -/

/-- An enabled slot shows a layer that is not YUV and has to be blended. -/
def Blends (config : ChannelConfig F) : Prop :=
  ∃ slot ∈ config.Slots, slot.Enable = true ∧ ∃ layer, slot.InputLayer = some layer ∧
    isYuvFormat layer = false ∧ isBlendingLayer layer = true

/-- No hybrid channel, none of which can blend, is given a layer to blend. -/
def AlphaRespected (maxHybrid : Int) (configs : List (ChannelConfig F)) : Prop :=
  ∀ config ∈ configs, (config.Index : Int) < maxHybrid → ¬ Blends config

theorem alphaRespected_rearrange {maxHybrid : Int} {configs : List (ChannelConfig F)} :
    AlphaRespected maxHybrid (rearrangeChannel configs) ↔
      ∀ k config, configs[k]? = some config → Blends config →
        maxHybrid ≤ hardwarePosition configs k config := by
  constructor
  · intro h k config hk hblends
    by_contra hlt
    exact h _ (mem_rearrangeChannel.mpr ⟨k, config, hk, rfl⟩) (by simp only; omega) hblends
  · intro h config hconfig hlt hblends
    obtain ⟨k, c, hk, rfl⟩ := mem_rearrangeChannel.mp hconfig
    have hle := h k c hk hblends
    simp only at hlt
    omega

theorem configSlot_of_layer {ch : HWChannel F} {layer : Layer F} (h : layer ∈ ch.layers) :
    ∃ slot ∈ ch.setupChannelConfig.Slots, slot.Enable = true ∧ slot.InputLayer = some layer := by
  obtain ⟨slot, hslot, hlayer⟩ := List.mem_filterMap.mp h
  refine ⟨HWChannel.configSlot slot, List.mem_map_of_mem hslot, ?_⟩
  simp [HWChannel.configSlot, hlayer]

theorem first_channel {head last : StrategyHardwareFirst F} (hdist : context.Distinct fb)
    (hended : Ended constraint context head context.InputLayers last)
    (hne : context.InputLayers ≠ []) :
    ∃ ch layer, (last.withFramebuffer constraint fb).mergedChannels[0]? = some ch ∧
      layer ∈ ch.layers ∧ layer ∈ context.InputLayers ++ [fb] := by
  have hkeeps := hended.keeps (List.Nodup.of_map _ hdist.ids)
  rw [mergedChannels_eq]
  cases hassigned : last.mAssignedChannel with
  -- the lowest assigned channel holds a layer
  | cons ch channels =>
      have hch : ch ∈ last.mAssignedChannel := by simp [hassigned]
      obtain ⟨layer, hlayer⟩ := List.exists_mem_of_ne_nil _ (hended.inv.used ch hch)
      have hdrawn : layer ∈ last.stacking.drawn :=
        List.mem_flatten.mpr ⟨_, List.mem_map_of_mem hch, hlayer⟩
      refine ⟨ch, layer, ?_, hlayer, ?_⟩
      · simp [withFramebuffer, hassigned]
      · exact List.mem_append_left _ (hkeeps.perm.subset (List.mem_append_left _ hdrawn))
  -- nothing is assigned, so every layer is left to the GPU and the client target comes first
  | nil =>
      have hclient : last.mClientCompositionLayers ≠ [] := by
        intro hempty
        have hperm := hkeeps.perm
        simp only [stacking, Stacking.drawn, hassigned, hempty, List.map_nil, List.flatten_nil,
          List.append_nil] at hperm
        exact hne hperm.symm.eq_nil
      cases htarget : last.mClientTarget with
      | none => exact absurd (hended.inv.noTarget htarget) hclient
      | some target =>
          refine ⟨target.insert fb (computeLayerZoomFactor (some fb) constraint.ScreenTransform) 1,
            fb, ?_, ?_, List.mem_concat_self⟩
          · simp [withFramebuffer, hassigned, htarget]
          · rw [hended.inv.layers_target htarget]
            exact List.mem_singleton_self _

theorem accepted_of_merged {t : StrategyHardwareFirst F} {k : Nat} {ch : HWChannel F}
    (h : t.mergedChannels[k]? = some ch) :
    ∃ ch', (t.acceptedChannels {}).1[k]? = some ch' ∧ ch'.layers = ch.layers := by
  have hlt : k < (t.acceptedChannels {}).1.length := by
    rw [acceptedChannels, length_acceptChannels]
    exact (List.getElem?_eq_some_iff.mp h).1
  obtain ⟨ch₀, hch₀, hlayers, _⟩ := acceptChannels_getElem (List.getElem?_eq_getElem hlt)
  rw [h] at hch₀
  cases hch₀
  exact ⟨_, List.getElem?_eq_getElem hlt, hlayers⟩

/-- Where nothing needs a video channel, the lowest thing shown is on hardware channel 0: there, a
frame of nothing but blended layers is blended without alpha. -/
theorem blended_frame_breaks (hR : 1 ≤ constraint.MaxRGBChannel)
    (hH : 0 < constraint.MaxHybridChannel) (hdist : context.Distinct fb)
    (h : s.perform fuel constraint context {} = .ok (some r)) (hne : context.InputLayers ≠ [])
    (hblend : ∀ layer ∈ context.InputLayers ++ [fb],
      isBlendingLayer layer = true ∧ needsVideoChannel layer = false) :
    ¬ AlphaRespected constraint.MaxHybridChannel (rearrangeChannel r.out.Configs) := by
  obtain ⟨head, last, hhead, _, hended, hconfigs⟩ := perform_configs hR hdist.target h
  obtain ⟨ch, layer, hch, hlayer, hin⟩ := first_channel hdist hended hne
  obtain ⟨ch', hch', hlayers⟩ := accepted_of_merged hch
  have hk : r.out.Configs[0]? = some ch'.setupChannelConfig := by
    rw [hconfigs, List.getElem?_map, hch']
    rfl
  -- no more channels are reserved for video than layers ask for: none
  have hcount : r.out.Configs.countP ChannelConfig.VideoChannel = 0 := by
    have hle := countP_video_configs fb hended
    have hdemand := hhead.demand
    have hnone : context.InputLayers.countP needsVideoChannel = 0 := by
      apply List.countP_eq_zero.mpr
      intro l hl
      rw [(hblend l (List.mem_append_left _ hl)).2]
      decide
    rw [← hconfigs] at hle
    unfold reservedCount at hle
    omega
  intro hrespected
  have hpos := alphaRespected_rearrange.mp hrespected 0 _ hk (by
    obtain ⟨slot, hslot, henable, hshown⟩ := configSlot_of_layer (hlayers ▸ hlayer)
    obtain ⟨hb, hv⟩ := hblend layer hin
    rw [needsVideoChannel, Bool.or_eq_false_iff] at hv
    exact ⟨slot, hslot, henable, layer, hshown, hv.1, hb⟩)
  have hvideo : ch'.setupChannelConfig.VideoChannel ≠ true :=
    List.countP_eq_zero.mp hcount _ (List.mem_of_getElem? hk)
  rw [hardwarePosition, partitionIndex, if_neg hvideo, hcount] at hpos
  simp at hpos
  omega

/-- A frame without a layer to blend, the framebuffer included, is safe wherever it is put. -/
theorem unblended_frame_respected (hR : 1 ≤ constraint.MaxRGBChannel)
    (hdist : context.Distinct fb) (h : s.perform fuel constraint context {} = .ok (some r))
    (hplain : ∀ layer ∈ context.InputLayers ++ [fb],
      isYuvFormat layer = true ∨ isBlendingLayer layer = false) :
    AlphaRespected constraint.MaxHybridChannel (rearrangeChannel r.out.Configs) := by
  obtain ⟨head, last, _, _, hended, hconfigs⟩ := perform_configs hR hdist.target h
  rw [alphaRespected_rearrange]
  rintro k config hk ⟨slot, hslot, henable, layer, hshown, hyuv, hblend⟩
  have hconfig := List.mem_of_getElem? hk
  rw [hconfigs] at hconfig
  obtain ⟨ch, hch, _, hlayers⟩ := channel_of_config hconfig
  have hmem : layer ∈ (last.withFramebuffer constraint fb).mergedChannels.flatMap
      HWChannel.layers :=
    List.mem_flatMap.mpr ⟨ch, hch, hlayers slot hslot henable layer hshown⟩
  have hin := hended.mem_frame (List.Nodup.of_map _ hdist.ids) hmem
  rcases hplain layer hin with hplain | hplain
  · rw [hyuv] at hplain
    cases hplain
  · rw [hblend] at hplain
    cases hplain

def blendedSolid : Layer F where
  id := 1
  requestType := .SolidColor
  zOrder := 0
  alpha := CFloat.ofRat 1
  blending := .Premultiplied
  bufferHandle := none
  displayFrame := { left := 0, top := 0, right := 1920, bottom := 1080 }
  sourceCrop := { left := 0, top := 0, right := 1920, bottom := 1080 }

def blendedFrame : CompositionContext F where
  InputLayers := [blendedSolid]
  FramebufferTarget := some { blendedSolid with id := 0 }

/-- Only an engine without hybrid channels never blends on one.  A frame with nothing to blend is
safe, a frame of nothing but blended layers is not, and in between it depends on the plan: each
blended configuration must be a non-video one with enough configurations ahead of it that are video
or lower. -/
theorem alphaRespected_iff (constraint : PlanConstraint F) (hR : 1 ≤ constraint.MaxRGBChannel) :
    ((∀ (context : CompositionContext F) (fb : Layer F) (s : StrategyHardwareFirst F) (fuel : Nat)
        (r : Performed F), context.Distinct fb →
        s.perform fuel constraint context {} = .ok (some r) →
        AlphaRespected constraint.MaxHybridChannel (rearrangeChannel r.out.Configs)) ↔
      constraint.MaxHybridChannel ≤ 0) ∧
    ∀ (context : CompositionContext F) (fb : Layer F) (s : StrategyHardwareFirst F) (fuel : Nat)
      (r : Performed F), context.Distinct fb →
      s.perform fuel constraint context {} = .ok (some r) →
      ((∀ layer ∈ context.InputLayers ++ [fb],
          isYuvFormat layer = true ∨ isBlendingLayer layer = false) →
        AlphaRespected constraint.MaxHybridChannel (rearrangeChannel r.out.Configs)) ∧
      (0 < constraint.MaxHybridChannel → context.InputLayers ≠ [] →
        (∀ layer ∈ context.InputLayers ++ [fb],
          isBlendingLayer layer = true ∧ needsVideoChannel layer = false) →
        ¬ AlphaRespected constraint.MaxHybridChannel (rearrangeChannel r.out.Configs)) ∧
      (AlphaRespected constraint.MaxHybridChannel (rearrangeChannel r.out.Configs) ↔
        ∀ (k : Nat) config, r.out.Configs[k]? = some config → Blends config →
          config.VideoChannel = false ∧ constraint.MaxHybridChannel ≤
            (r.out.Configs.countP ChannelConfig.VideoChannel +
              (r.out.Configs.take k).countP fun c => !c.VideoChannel : Nat)) := by
  refine ⟨⟨?_, ?_⟩, ?_⟩
  · intro hall
    by_contra hH
    -- a frame of one blended layer already breaks it, on any engine with a hybrid channel
    have hdist : (blendedFrame : CompositionContext F).Distinct { blendedSolid with id := 0 } :=
      ⟨rfl, by simp [blendedFrame], by simp [blendedFrame, blendedSolid]⟩
    obtain ⟨r, hr, _⟩ := perform_returns constraint blendedFrame (new fun _ => .Invalid) {}
      (by omega) hR rfl le_rfl
    refine blended_frame_breaks hR (by omega) hdist hr (List.cons_ne_nil _ _) ?_
      (hall blendedFrame _ _ _ r hdist hr)
    intro layer hlayer
    simp only [blendedFrame, List.cons_append, List.nil_append, List.mem_cons, List.not_mem_nil,
      or_false] at hlayer
    rcases hlayer with rfl | rfl <;> exact ⟨rfl, rfl⟩
  · intro hH context fb s fuel r _ _ config _ hlt
    omega
  · intro context fb s fuel r hdist hr
    refine ⟨unblended_frame_respected hR hdist hr, ?_, ?_⟩
    · intro hH hne hblend
      exact blended_frame_breaks hR hH hdist hr hne hblend
    rw [alphaRespected_rearrange]
    constructor
    · intro hsafe k config hk hblends
      have hle := hsafe k config hk hblends
      -- a video configuration is always among the hybrid channels
      have hvideo : config.VideoChannel = false := by
        by_contra hvideo
        have hlt := video_position_lt hR hdist.target hr hk (by simpa using hvideo)
        omega
      refine ⟨hvideo, ?_⟩
      rw [hardwarePosition, partitionIndex, if_neg (by simp [hvideo])] at hle
      exact hle
    · intro hsafe k config hk hblends
      obtain ⟨hvideo, hle⟩ := hsafe k config hk hblends
      rw [hardwarePosition, partitionIndex, if_neg (by simp [hvideo])]
      exact hle

theorem alphaRespected_iff_desktop :
    ¬ ∀ (context : CompositionContext Rat) (fb : Layer Rat) (s : StrategyHardwareFirst Rat)
      (fuel : Nat) (r : Performed Rat), context.Distinct fb →
      s.perform fuel desktopConstraint context {} = .ok (some r) →
      AlphaRespected desktopConstraint.MaxHybridChannel (rearrangeChannel r.out.Configs) := by
  intro hall
  exact absurd ((alphaRespected_iff desktopConstraint (by decide)).1.mp hall) (by decide)

def launcher : Layer Rat :=
  { dialog with
    requestType := .Device
    bufferHandle := some { format := HAL_PIXEL_FORMAT_RGBA_8888 } }

/-- The launcher alone is blended on hardware channel 0, the hybrid one. -/
theorem launcher_blended_without_alpha :
    desktopConstraint.HybridChannelWithAlpha = false ∧ desktopConstraint.MaxHybridChannel = 1 ∧
      ∃ r, desktopStrategy.perform 4 desktopConstraint
          { desktop with InputLayers := [launcher] } {} = .ok (some r) ∧
        ¬ AlphaRespected desktopConstraint.MaxHybridChannel (rearrangeChannel r.out.Configs) := by
  obtain ⟨r, hr⟩ : ∃ r, desktopStrategy.perform 4 desktopConstraint
      { desktop with InputLayers := [launcher] } {} = .ok (some r) :=
    exists_of_isSome (by decide +kernel)
  have hdist : ({ desktop with InputLayers := [launcher] } : CompositionContext Rat).Distinct
      framebuffer := ⟨rfl, by decide, by decide⟩
  refine ⟨rfl, rfl, r, hr, blended_frame_breaks (by decide) (by decide) hdist hr
    (List.cons_ne_nil _ _) ?_⟩
  intro layer hlayer
  simp only [List.cons_append, List.nil_append, List.mem_cons, List.not_mem_nil, or_false] at hlayer
  rcases hlayer with rfl | rfl <;> exact ⟨by decide, by decide⟩

end StrategyHardwareFirst

end AwHal.Hwc
