import AwHal.Hwc.StrategyOutput

/-!
# The plan of a finished `perform`

What `perform` returns, read off the last pass: where every layer is, at which height, with which
validated type and track.
-/

namespace AwHal.Hwc

open AwHal.Lib

set_option linter.unusedSectionVars false

/-- Every `Layer` object has an id of its own, and the client target is not an input layer. -/
structure CompositionContext.Distinct {F : Type} (context : CompositionContext F) (fb : Layer F) :
    Prop where
  target : context.FramebufferTarget = some fb
  ids : (context.InputLayers.map Layer.id).Nodup
  fresh : fb.id ∉ context.InputLayers.map Layer.id

namespace CompositionContext.Distinct

variable {F : Type} {context : CompositionContext F} {fb : Layer F}

theorem not_mem (h : context.Distinct fb) : fb ∉ context.InputLayers :=
  fun hmem => h.fresh (List.mem_map_of_mem hmem)

theorem ids_nodup (h : context.Distinct fb) :
    (context.InputLayers.map Layer.id ++ [fb.id]).Nodup := by
  rw [List.nodup_append]
  refine ⟨h.ids, List.nodup_singleton _, ?_⟩
  intro a ha b hb
  rw [List.mem_singleton.mp hb]
  rintro rfl
  exact h.fresh ha

theorem id_inj (h : context.Distinct fb) {a b : Layer F}
    (ha : a ∈ context.InputLayers ++ [fb]) (hb : b ∈ context.InputLayers ++ [fb])
    (hid : a.id = b.id) : a = b := by
  have hnodup : ((context.InputLayers ++ [fb]).map Layer.id).Nodup := by
    rw [List.map_append]
    exact h.ids_nodup
  exact List.inj_on_of_nodup_map hnodup ha hb hid

end CompositionContext.Distinct

namespace StrategyHardwareFirst

variable {F : Type} [CFloat F] {constraint : PlanConstraint F} {context : CompositionContext F}
  {s : StrategyHardwareFirst F} {fb : Layer F}

/-! ## All channels together -/

def withFramebuffer (constraint : PlanConstraint F) (fb : Layer F) (s : StrategyHardwareFirst F) :
    StrategyHardwareFirst F :=
  { s with
    mClientTarget := s.mClientTarget.map fun target =>
      target.insert fb (computeLayerZoomFactor (some fb) constraint.ScreenTransform) 1 }

/-- The channels in the order in which `acceptAssignResult` merges them. -/
def mergedChannels (s : StrategyHardwareFirst F) : List (HWChannel F) :=
  s.mAssignedChannel ++ s.mClientTarget.toList ++ s.mReservedYUVChannel.reverse ++
    s.mFreeRgbOverlayChannel.reverse ++ s.mFreeChannel.reverse

def spareChannels (s : StrategyHardwareFirst F) : List (HWChannel F) :=
  s.mReservedYUVChannel.reverse ++ s.mFreeRgbOverlayChannel.reverse ++ s.mFreeChannel.reverse

theorem mergedChannels_eq (s : StrategyHardwareFirst F) :
    s.mergedChannels = s.mAssignedChannel ++ (s.mClientTarget.toList ++ s.spareChannels) := by
  simp [mergedChannels, spareChannels]

/-- The channels after `acceptAssignResult` has numbered them. -/
def acceptedChannels (s : StrategyHardwareFirst F) (out : PlanningOutput F) :
    List (HWChannel F) × Accepted :=
  acceptChannels 0 s.mergedChannels
    { zorder := 0, types := s.mValidatedType, Tracks := out.Tracks }

theorem merge_eq (s : StrategyHardwareFirst F) :
    mergeChannels (mergeChannels (mergeChannels
      (match s.mClientTarget with
        | none => s.mAssignedChannel
        | some target => s.mAssignedChannel ++ [target]) s.mReservedYUVChannel)
      s.mFreeRgbOverlayChannel) s.mFreeChannel = s.mergedChannels := by
  unfold mergeChannels mergedChannels
  cases s.mClientTarget <;> simp

theorem finishAssign_eq (hfb : context.FramebufferTarget = some fb) (out : PlanningOutput F) :
    s.finishAssign constraint context out =
      .ok { ret := 0
            strategy := ((s.withFramebuffer constraint fb).acceptAssignResult context out).1
            out := ((s.withFramebuffer constraint fb).acceptAssignResult context out).2 } := by
  unfold finishAssign withFramebuffer
  rw [hfb]
  cases htarget : s.mClientTarget with
  | none =>
      have hs : { s with mClientTarget := none } = s := by rw [← htarget]
      simp only [Option.map_none, hs]
      rfl
  | some target => rfl

theorem acceptAssignResult_configs (context : CompositionContext F) (s : StrategyHardwareFirst F)
    (out : PlanningOutput F) :
    (s.acceptAssignResult context out).2.Configs =
      out.Configs ++ (s.acceptedChannels out).1.map HWChannel.setupChannelConfig := by
  unfold acceptedChannels
  rw [← merge_eq]
  rfl

theorem acceptAssignResult_types (out : PlanningOutput F) :
    (s.acceptAssignResult context out).1.mValidatedType =
      s.mClientCompositionLayers.foldl
        (fun types p => Function.update types p.1.id Composition.Client)
        (s.acceptedChannels out).2.types := by
  unfold acceptedChannels
  rw [← merge_eq]
  rfl

theorem acceptAssignResult_tracks (hfb : context.FramebufferTarget = some fb)
    (out : PlanningOutput F) :
    (s.acceptAssignResult context out).2.Tracks =
      let tracks := s.mClientCompositionLayers.foldl
        (fun tracks p => emplaceTrack tracks p.1.id { FallbackReason := p.2 })
        (s.acceptedChannels out).2.Tracks
      if s.mGpuCompositonLayerCnt = 0 then
        emplaceTrack tracks fb.id { FallbackReason := eClientTarget }
      else tracks := by
  obtain ⟨layers, target⟩ := context
  cases hfb
  unfold acceptedChannels
  rw [← merge_eq]
  rfl

/-! ## What is accepted -/

def cellTrack (cell : Cell F) : Nat × TrackNode :=
  (cell.2.id, { FallbackReason := eHardwareLayer, Channel := some cell.1.1, Slot := cell.1.2 })

def clientTrack (p : Layer F × Int) : Nat × TrackNode := (p.1.id, { FallbackReason := p.2 })

theorem accept_shows {i j z : Nat} {layer : Layer F} :
    (s.acceptAssignResult context {}).2.Shows i j layer z ↔
      (cells 0 s.mergedChannels)[z]? = some ((i, j), layer) := by
  have hout := acceptAssignResult_configs context s {}
  rw [List.nil_append] at hout
  rw [shows_iff hout, acceptedChannels, (acceptChannels_eq 0 _ _).1,
    List.mk_mem_zipIdx_iff_getElem?]

theorem accept_heights :
    (s.acceptAssignResult context {}).2.enabledZ =
      List.range (cells 0 s.mergedChannels).length := by
  have hout := acceptAssignResult_configs context s {}
  rw [List.nil_append] at hout
  rw [enabledZ_eq hout, acceptedChannels, (acceptChannels_eq 0 _ _).1, List.zipIdx_map_snd,
    List.range_eq_range']

theorem accept_types :
    (s.acceptAssignResult context {}).1.mValidatedType =
      s.mClientCompositionLayers.foldl
        (fun types p => Function.update types p.1.id Composition.Client)
        ((cells 0 s.mergedChannels).foldl (fun types cell => Function.update types cell.2.id
          (if isSoildLayer cell.2 then Composition.SolidColor else .Device)) s.mValidatedType) := by
  rw [acceptAssignResult_types, acceptedChannels, (acceptChannels_eq 0 _ _).2, types_foldl]

theorem accept_tracks (hfb : context.FramebufferTarget = some fb)
    (hnodup : ((cells 0 s.mergedChannels).map (fun cell => cell.2.id) ++
      s.mClientCompositionLayers.map (fun p => p.1.id) ++
      (if s.mGpuCompositonLayerCnt = 0 then [fb.id] else [])).Nodup) :
    (s.acceptAssignResult context {}).2.Tracks =
      (cells 0 s.mergedChannels).map cellTrack ++ s.mClientCompositionLayers.map clientTrack ++
        (if s.mGpuCompositonLayerCnt = 0 then [(fb.id, { FallbackReason := eClientTarget })]
          else []) := by
  obtain ⟨hboth, _, hfresh⟩ := List.nodup_append.mp hnodup
  -- `emplace` keeps an earlier entry, so each of the three groups needs fresh ids
  have hcells : (acceptedChannels s {}).2.Tracks = (cells 0 s.mergedChannels).map cellTrack := by
    rw [acceptedChannels, (acceptChannels_eq 0 _ _).2, tracks_foldl, foldl_emplaceTrack]
    · rfl
    · exact (List.nodup_append.mp hboth).1
  have hclient : s.mClientCompositionLayers.foldl
      (fun tracks p => emplaceTrack tracks p.1.id { FallbackReason := p.2 })
        ((cells 0 s.mergedChannels).map cellTrack) =
      (cells 0 s.mergedChannels).map cellTrack ++ s.mClientCompositionLayers.map clientTrack := by
    rw [foldl_emplaceTrack]
    · rfl
    · rw [List.map_map]
      exact hboth
  rw [acceptAssignResult_tracks hfb, hcells]
  simp only [hclient]
  split
  · rename_i hzero
    rw [emplaceTrack_of_not_mem]
    intro hmem
    rw [List.map_append, List.map_map, List.map_map] at hmem
    rw [if_pos hzero] at hfresh
    exact hfresh _ hmem _ (List.mem_singleton_self _) rfl
  · rw [List.append_nil]

/-! ## The layers of the merged channels -/

variable {total reserve : Nat} {last : StrategyHardwareFirst F}

theorem wellFormed_clientChannel (layers : List (Layer F × Int)) :
    (clientChannel layers).WellFormed := by
  have hwf := HWChannel.wellFormed_new (F := F)
  exact ⟨hwf.slots, hwf.next, hwf.unused, by simp [HWChannel.layers, clientChannel, HWChannel.new],
    by simp [HWChannel.layers, clientChannel, HWChannel.new],
    by simp [HWChannel.layers, clientChannel, HWChannel.new]⟩

theorem PassInv.layers_target (h : PassInv total reserve last) {target : HWChannel F}
    (htarget : last.mClientTarget = some target) (zoom : ZoomFactor F) :
    (target.insert fb zoom 1).layers = [fb] := by
  rw [h.target target htarget]
  have hacc : (clientChannel last.mClientCompositionLayers).Accepts fb 1 :=
    ⟨Nat.one_pos, show 0 + 1 ≤ SLOT_PER_CHANNEL by decide, fun hne => absurd rfl hne,
      fun hne => absurd rfl hne⟩
  exact HWChannel.layers_insert (wellFormed_clientChannel _) hacc zoom

theorem PassInv.spare (h : PassInv total reserve last) {ch : HWChannel F}
    (hch : ch ∈ last.spareChannels) : ch.layers = [] ∧ ch.mAsVideoChannel = false := by
  simp only [spareChannels, List.mem_append, List.mem_reverse] at hch
  rcases hch with (hch | hch) | hch
  · rw [h.reserved ch hch]
    exact ⟨rfl, rfl⟩
  · rw [h.overlay ch hch]
    exact ⟨rfl, rfl⟩
  · rw [h.free ch hch]
    exact ⟨rfl, rfl⟩

theorem PassInv.unassigned (h : PassInv total reserve last) {ch : HWChannel F}
    (hch : ch ∈ (last.withFramebuffer constraint fb).mClientTarget.toList ++ last.spareChannels) :
    (ch.layers = [fb] ∨ ch.layers = []) ∧ ch.mAsVideoChannel = false := by
  rcases List.mem_append.mp hch with hch | hch
  · rw [Option.mem_toList] at hch
    obtain ⟨target, htarget, rfl⟩ := Option.map_eq_some_iff.mp hch
    refine ⟨Or.inl (h.layers_target htarget _), ?_⟩
    rw [HWChannel.mAsVideoChannel_insert, h.target target htarget]
    rfl
  · obtain ⟨hlayers, hvideo⟩ := h.spare hch
    exact ⟨Or.inr hlayers, hvideo⟩

def front (fb : Layer F) (s : StrategyHardwareFirst F) : List (Layer F) :=
  s.mClientTarget.toList.map fun _ => fb

theorem PassInv.layers_merged (h : PassInv total reserve last) (constraint : PlanConstraint F)
    (fb : Layer F) :
    (last.withFramebuffer constraint fb).mergedChannels.flatMap HWChannel.layers =
      last.stacking.drawn ++ front fb last := by
  have hspare : last.spareChannels.flatMap HWChannel.layers = [] :=
    List.flatMap_eq_nil_iff.mpr fun ch hch => (h.spare hch).1
  have htarget : (last.withFramebuffer constraint fb).mClientTarget.toList.flatMap
      HWChannel.layers = front fb last := by
    unfold withFramebuffer front
    cases hsome : last.mClientTarget with
    | none => rfl
    | some target => simp [h.layers_target hsome]
  rw [mergedChannels_eq, List.flatMap_append, List.flatMap_append, htarget]
  change _ ++ (front fb last ++ last.spareChannels.flatMap HWChannel.layers) = _
  rw [hspare, List.append_nil]
  rfl

theorem PassInv.length_merged (h : PassInv total reserve last) (constraint : PlanConstraint F)
    (fb : Layer F) : (last.withFramebuffer constraint fb).mergedChannels.length = total := by
  have htotal := h.total
  unfold channelCount at htotal
  simp only [mergedChannels, withFramebuffer, List.length_append, List.length_reverse]
  cases hsome : last.mClientTarget <;> simp [hsome] at htotal ⊢ <;> omega

theorem PassInv.layers_alone (h : PassInv total reserve last) (hfb : fb ∉ last.stacking.drawn)
    {ch : HWChannel F} (hch : ch ∈ (last.withFramebuffer constraint fb).mergedChannels)
    (hmem : fb ∈ ch.layers) : ch.layers = [fb] := by
  rw [mergedChannels_eq] at hch
  rcases List.mem_append.mp hch with hch | hch
  · exact absurd (List.mem_flatten.mpr ⟨_, List.mem_map_of_mem hch, hmem⟩) hfb
  · rcases (h.unassigned hch).1 with hlayers | hlayers
    · exact hlayers
    · rw [hlayers] at hmem
      exact absurd hmem List.not_mem_nil

theorem Ended.target_iff {head : StrategyHardwareFirst F} (hhead : HeadOk constraint context head)
    (hrun : doAssignment constraint context (begun constraint context head) context.InputLayers =
      .ok (last, .ASSIGN_SUCCESS))
    (h : Ended constraint context head context.InputLayers last) :
    last.mClientTarget = none ↔ last.mClientCompositionLayers = [] := by
  refine ⟨h.inv.noTarget, ?_⟩
  intro hempty
  by_contra hsome
  have hzero : last.mGpuCompositonLayerCnt = 0 := by rw [h.inv.count, hempty, List.length_nil]
  -- a target reserved in advance was called for by a pass that failed without it; any other was
  -- allocated for the layer that needed it
  by_cases hneed : head.mNeedClientTarget ∧ 0 < freeCount constraint head
  · exact hhead.count_ne_zero hneed.1 hneed.2 hrun hzero
  · have hnone : (begun constraint context head).mClientTarget = none := by
      rw [begun, if_neg hneed]
      rfl
    exact h.frame.used hnone hsome hzero

/-! ## The plan -/

/-- `cs` lists the taken slots of the plan by height, `client` the layers left to the GPU. -/
structure Plan (constraint : PlanConstraint F) (context : CompositionContext F) (fb : Layer F)
    (S : Stacking (Layer F)) (client : List (Layer F × Int)) (cs : List (Cell F))
    (r : Performed F) : Prop where
  keeps : S.Keeps Over context.InputLayers
  rest : S.rest = client.map Prod.fst
  layers : cs.map Prod.snd = S.drawn ++ (if client = [] then [] else [fb])
  shows_iff : ∀ i j layer z, r.out.Shows i j layer z ↔ cs[z]? = some ((i, j), layer)
  heights : r.out.enabledZ = List.range cs.length
  configs : r.out.Configs.length = totalCount constraint
  alone : ∀ i j j' layer z z', r.out.Shows i j fb z → r.out.Shows i j' layer z' → layer = fb
  hardware : ∀ layer ∈ S.drawn, r.strategy.mValidatedType layer.id =
    if isSoildLayer layer then .SolidColor else .Device
  reasons : ∀ p ∈ client, p.2 ≠ eHardwareLayer
  gpu : ∀ layer ∈ S.rest, r.strategy.mValidatedType layer.id = .Client
  tracks : r.out.Tracks = cs.map cellTrack ++ client.map clientTrack ++
    (if client = [] then [(fb.id, { FallbackReason := eClientTarget })] else [])

/-- The ids of the cells, of the client layers and of an unused client target, each once. -/
theorem ids_perm {S : Stacking (Layer F)} {input : List (Layer F)} {client : List (Layer F × Int)}
    {cs : List (Cell F)} (hkeeps : S.Keeps Over input) (hrest : S.rest = client.map Prod.fst)
    (hlayers : cs.map Prod.snd = S.drawn ++ (if client = [] then [] else [fb])) :
    (cs.map (fun cell => cell.2.id) ++ client.map (fun p => p.1.id) ++
      (if client = [] then [fb.id] else [])).Perm (input.map Layer.id ++ [fb.id]) := by
  have hcs : cs.map (fun cell => cell.2.id) =
      S.drawn.map Layer.id ++ (if client = [] then [] else [fb.id]) := by
    have h := congrArg (List.map Layer.id) hlayers
    rw [List.map_map] at h
    rw [show (fun cell : Cell F => cell.2.id) = Layer.id ∘ Prod.snd from rfl, h, List.map_append]
    split <;> rfl
  have hclient : client.map (fun p => p.1.id) = S.rest.map Layer.id := by
    rw [hrest, List.map_map]
    rfl
  have hinput : (S.drawn.map Layer.id ++ S.rest.map Layer.id).Perm (input.map Layer.id) := by
    rw [← List.map_append]
    exact hkeeps.perm.map Layer.id
  rw [hcs, hclient]
  by_cases hempty : client = []
  · simp only [hempty, if_true, List.append_nil]
    exact hinput.append_right _
  · simp only [hempty, if_false, List.append_nil, List.append_assoc]
    -- the framebuffer stands among the cells, in front of the layers left to it
    have hswap : ([fb.id] ++ S.rest.map Layer.id).Perm (S.rest.map Layer.id ++ [fb.id]) :=
      List.perm_append_comm
    refine (hswap.append_left _).trans ?_
    rw [← List.append_assoc]
    exact hinput.append_right _

/-- The cells of a pass: what it has drawn, and the framebuffer on top if layers are left to it. -/
theorem Ended.layers_cells {head last : StrategyHardwareFirst F} {layers : List (Layer F)}
    (hended : Ended constraint context head layers last)
    (hiff : last.mClientTarget = none ↔ last.mClientCompositionLayers = []) (target : Layer F) :
    (cells 0 (last.withFramebuffer constraint target).mergedChannels).map Prod.snd =
      last.stacking.drawn ++ (if last.mClientCompositionLayers = [] then [] else [target]) := by
  rw [map_snd_cells, hended.inv.layers_merged, front]
  cases hsome : last.mClientTarget with
  | none => simp [hiff.mp hsome]
  | some channel =>
      have hne : last.mClientCompositionLayers ≠ [] := by
        intro hempty
        rw [hiff.mpr hempty] at hsome
        cases hsome
      simp [hne]

theorem Ended.framebuffer_alone {head last : StrategyHardwareFirst F} {layers : List (Layer F)}
    (hended : Ended constraint context head layers last) (hfb : fb ∉ last.stacking.drawn)
    {i j j' z z' : Nat} {layer : Layer F}
    (hshow : ((last.withFramebuffer constraint fb).acceptAssignResult context {}).2.Shows i j fb z)
    (hshow' : ((last.withFramebuffer constraint fb).acceptAssignResult context {}).2.Shows
      i j' layer z') : layer = fb := by
  obtain ⟨ch, hch, hmem⟩ := layer_of_cell (accept_shows.mp hshow)
  obtain ⟨ch', hch', hmem'⟩ := layer_of_cell (accept_shows.mp hshow')
  rw [hch] at hch'
  cases hch'
  rw [hended.inv.layers_alone hfb (List.mem_of_getElem? hch) hmem] at hmem'
  exact List.mem_singleton.mp hmem'

theorem perform_plan {fuel : Nat} {r : Performed F} (hR : 1 ≤ constraint.MaxRGBChannel)
    (hdist : context.Distinct fb) (h : s.perform fuel constraint context {} = .ok (some r)) :
    ∃ S client cs, Plan constraint context fb S client cs r := by
  obtain ⟨head, last, hhead, hrun, hended, hfinish⟩ := perform_done hR h
  have hinv := hended.inv
  have hnodup : context.InputLayers.Nodup := List.Nodup.of_map _ hdist.ids
  have hkeeps := hended.keeps hnodup
  rw [finishAssign_eq hdist.target] at hfinish
  cases hfinish
  have hlayers := hended.layers_cells (Ended.target_iff hhead hrun hended) fb
  -- the ids of cells, client layers and an unused framebuffer are those of the frame, once each
  have hall := (ids_perm hkeeps rfl hlayers).nodup_iff.mpr hdist.ids_nodup
  obtain ⟨hboth, _, _⟩ := List.nodup_append.mp hall
  obtain ⟨hcells, hclient, hdisj⟩ := List.nodup_append.mp hboth
  have hcount : last.mGpuCompositonLayerCnt = 0 ↔ last.mClientCompositionLayers = [] := by
    rw [hinv.count, List.length_eq_zero_iff]
  refine ⟨last.stacking, last.mClientCompositionLayers,
    cells 0 (last.withFramebuffer constraint fb).mergedChannels, hkeeps, rfl, hlayers,
    fun _ _ _ _ => accept_shows, accept_heights, ?_, ?_, ?_, ?_, ?_, ?_⟩
  · rw [acceptAssignResult_configs, List.nil_append, List.length_map, acceptedChannels,
      length_acceptChannels, hinv.length_merged]
  · intro i j j' layer z z' hshow hshow'
    exact hended.framebuffer_alone (hkeeps.not_mem_drawn hdist.not_mem) hshow hshow'
  · intro layer hlayer
    have hcell : layer ∈
        (cells 0 (last.withFramebuffer constraint fb).mergedChannels).map Prod.snd := by
      rw [hlayers]
      exact List.mem_append_left _ hlayer
    obtain ⟨cell, hin, rfl⟩ := List.mem_map.mp hcell
    -- the client layers are marked last and have other ids
    rw [accept_types, foldl_update_of_not_mem, foldl_update_of_mem hcells hin]
    intro hmem
    exact hdisj _ (List.mem_map_of_mem hin) _ hmem rfl
  · exact hinv.reasons
  · intro layer hlayer
    obtain ⟨p, hp, rfl⟩ := List.mem_map.mp hlayer
    rw [accept_types]
    exact foldl_update_of_mem hclient hp _
  · rw [accept_tracks hdist.target]
    · simp only [withFramebuffer, hcount]
    · simpa only [withFramebuffer, hcount] using hall

end StrategyHardwareFirst

end AwHal.Hwc
