import AwHal.Hwc.StrategyPlan

/-!
# What a finished plan guarantees

The results about `StrategyHardwareFirst::perform` that the composer relies on: layers stay in
order, the framebuffer is shown exactly when the GPU drew something, and no layer is lost.
-/

namespace AwHal.Hwc

open AwHal.Lib

set_option linter.unusedSectionVars false

namespace StrategyHardwareFirst

variable {F : Type} [CFloat F] {constraint : PlanConstraint F} {context : CompositionContext F}
  {fb : Layer F} {S : Stacking (Layer F)} {client : List (Layer F × Int)} {cs : List (Cell F)}
  {r : Performed F}

/-! ## Reading a plan -/

theorem Plan.not_mem_drawn (h : Plan constraint context fb S client cs r)
    (hdist : context.Distinct fb) : fb ∉ S.drawn :=
  h.keeps.not_mem_drawn hdist.not_mem

theorem Plan.nodup (h : Plan constraint context fb S client cs r) (hdist : context.Distinct fb) :
    (S.drawn ++ S.rest).Nodup :=
  h.keeps.perm.nodup_iff.mpr (List.Nodup.of_map _ hdist.ids)

theorem Plan.layers_nodup (h : Plan constraint context fb S client cs r)
    (hdist : context.Distinct fb) : (cs.map Prod.snd).Nodup := by
  have hdrawn := (List.nodup_append.mp (h.nodup hdist)).1
  rw [h.layers]
  split
  · simpa using hdrawn
  · refine List.nodup_append.mpr ⟨hdrawn, List.nodup_singleton _, ?_⟩
    intro a ha b hb
    rw [List.mem_singleton.mp hb]
    rintro rfl
    exact h.not_mem_drawn hdist ha

theorem Plan.shows_getElem (h : Plan constraint context fb S client cs r) {i j z : Nat}
    {layer : Layer F} (hshow : r.out.Shows i j layer z) : (cs.map Prod.snd)[z]? = some layer := by
  rw [List.getElem?_map, (h.shows_iff i j layer z).mp hshow]
  rfl

theorem Plan.shows_unique (h : Plan constraint context fb S client cs r)
    (hdist : context.Distinct fb) {i j z i' j' z' : Nat} {layer : Layer F}
    (hshow : r.out.Shows i j layer z) (hshow' : r.out.Shows i' j' layer z') :
    i = i' ∧ j = j' ∧ z = z' := by
  -- a layer has one position in the list of cells, and the position is the height
  have hz : z = z' := by
    have hlt : z < (cs.map Prod.snd).length :=
      (List.getElem?_eq_some_iff.mp (h.shows_getElem hshow)).1
    refine (List.getElem?_inj hlt (h.layers_nodup hdist)).mp ?_
    rw [h.shows_getElem hshow, h.shows_getElem hshow']
  subst hz
  have hcell := (h.shows_iff i j layer z).mp hshow
  rw [(h.shows_iff i' j' layer z).mp hshow'] at hcell
  cases hcell
  exact ⟨rfl, rfl, rfl⟩

theorem Plan.exists_shows (h : Plan constraint context fb S client cs r) {layer : Layer F}
    (hmem : layer ∈ cs.map Prod.snd) : ∃ i j z, r.out.Shows i j layer z := by
  obtain ⟨⟨⟨i, j⟩, layer⟩, hcell, rfl⟩ := List.mem_map.mp hmem
  obtain ⟨z, hz⟩ := List.mem_iff_getElem?.mp hcell
  exact ⟨i, j, z, (h.shows_iff i j layer z).mpr hz⟩

theorem Plan.mem_drawn (h : Plan constraint context fb S client cs r)
    (hdist : context.Distinct fb) {i j z : Nat} {layer : Layer F}
    (hin : layer ∈ context.InputLayers) (hshow : r.out.Shows i j layer z) : layer ∈ S.drawn := by
  have hmem := List.mem_of_getElem? (h.shows_getElem hshow)
  rw [h.layers] at hmem
  rcases List.mem_append.mp hmem with hmem | hmem
  · exact hmem
  · split at hmem
    · exact absurd hmem List.not_mem_nil
    · rw [List.mem_singleton.mp hmem] at hin
      exact absurd hin hdist.not_mem

theorem Plan.mem_cases (h : Plan constraint context fb S client cs r) {layer : Layer F}
    (hin : layer ∈ context.InputLayers) : layer ∈ S.drawn ∨ layer ∈ S.rest :=
  List.mem_append.mp (h.keeps.perm.mem_iff.mpr hin)

theorem Plan.client_iff (h : Plan constraint context fb S client cs r) {layer : Layer F}
    (hin : layer ∈ context.InputLayers) :
    r.strategy.mValidatedType layer.id = .Client ↔ layer ∈ S.rest := by
  refine ⟨?_, h.gpu layer⟩
  intro htype
  rcases h.mem_cases hin with hmem | hmem
  · rw [h.hardware layer hmem] at htype
    split at htype <;> cases htype
  · exact hmem

theorem Plan.client_ne_nil (h : Plan constraint context fb S client cs r) {layer : Layer F}
    (hmem : layer ∈ S.rest) : client ≠ [] := by
  rintro rfl
  rw [h.rest] at hmem
  exact absurd hmem List.not_mem_nil

/-! ## A frame

A dialog that SurfaceFlinger wants composed by the GPU, over a wallpaper. -/

def wallpaper : Layer Rat where
  id := 1
  requestType := .Device
  zOrder := 0
  alpha := 1
  blending := .None
  bufferHandle := some { format := HAL_PIXEL_FORMAT_RGBX_8888 }
  displayFrame := { left := 0, top := 0, right := 1920, bottom := 1080 }
  sourceCrop := { left := 0, top := 0, right := 1920, bottom := 1080 }

def dialog : Layer Rat :=
  { wallpaper with
    id := 2
    requestType := .Client
    zOrder := 1
    blending := .Premultiplied
    displayFrame := { left := 480, top := 270, right := 1440, bottom := 810 } }

def framebuffer : Layer Rat :=
  { wallpaper with id := 0, blending := .Premultiplied }

def desktop : CompositionContext Rat where
  InputLayers := [wallpaper, dialog]
  FramebufferTarget := some framebuffer

def desktopConstraint : PlanConstraint Rat where
  MaxHybridChannel := 1
  MaxRGBChannel := 3
  HybridChannelWithAlpha := false
  MaxBandwidth := 0
  Output3D := false
  ScreenTransform :=
    { mScreenBounds := { left := 0, top := 0, right := 1920, bottom := 1080 }
      mTransform := fun i j => if i = j then 1 else 0 }
  Detector := none

def desktopStrategy : StrategyHardwareFirst Rat := new fun _ => .Invalid

theorem desktop_distinct : desktop.Distinct framebuffer := ⟨rfl, by decide, by decide⟩

theorem exists_of_isSome {x : Except Fault (Option (Performed F))}
    (h : x.toOption.join.isSome = true) : ∃ r, x = .ok (some r) := by
  match x with
  | .ok (some r) => exact ⟨r, rfl⟩

theorem desktop_performs :
    ∃ r, desktopStrategy.perform 4 desktopConstraint desktop {} = .ok (some r) :=
  exists_of_isSome (by decide +kernel)

/-! ## Termination -/

/-- The retry loop ends after at most `2 * MaxHybridChannel + 2` turns and `perform` returns 0; no
turn fails its assertion, and none starts without a channel for the client target it reserves. -/
theorem perform_terminates (constraint : PlanConstraint F) (context : CompositionContext F)
    (s : StrategyHardwareFirst F) (out : PlanningOutput F)
    (hH : 0 ≤ constraint.MaxHybridChannel) (hR : 1 ≤ constraint.MaxRGBChannel)
    (hfb : context.FramebufferTarget.isSome) :
    (∀ fuel, 2 * constraint.MaxHybridChannel.toNat + 2 ≤ fuel →
      ∃ r, s.perform fuel constraint context out = .ok (some r) ∧ r.ret = 0) ∧
    ∀ head, Heads (performPass constraint context) (s.startAssign constraint context) head →
      (∃ s₁, head.initAssignment constraint context = .ok (s₁, 0)) ∧
        ∀ fault, performPass constraint context head ≠ .error fault := by
  constructor
  · intro fuel hfuel
    exact perform_returns constraint context s out hH hR hfb hfuel
  · intro head hheads
    have hhead := HeadOk.heads hR hheads
    have hfree := hhead.reservation.free_pos hH
    constructor
    · refine ⟨begun constraint context head, ?_⟩
      rw [initAssignment_eq hhead.reservation, if_neg (by omega)]
    · intro fault hfault
      rcases performPass_progress hH hhead with ⟨s', hdone⟩ | ⟨s', hagain, _⟩
      · rw [hfault] at hdone
        cases hdone
      · rw [hfault] at hagain
        cases hagain

theorem perform_terminates_desktop :
    (0 : Int) ≤ desktopConstraint.MaxHybridChannel ∧ ∀ fuel, 4 ≤ fuel →
      ∃ r, desktopStrategy.perform fuel desktopConstraint desktop {} = .ok (some r) ∧ r.ret = 0 :=
  ⟨by decide, (perform_terminates desktopConstraint desktop desktopStrategy {} (by decide)
    (by decide) rfl).1⟩

/-! ## Order -/

variable {s : StrategyHardwareFirst F} {fuel : Nat}

/-- Layers that share a pixel keep their order, on the hardware and between the hardware and the
framebuffer. -/
theorem perform_keeps_zOrder (hR : 1 ≤ constraint.MaxRGBChannel) (hdist : context.Distinct fb)
    (hasc : context.InputLayers.Pairwise fun a b => a.zOrder ≤ b.zOrder)
    (h : s.perform fuel constraint context {} = .ok (some r))
    {A B : Layer F} (hA : A ∈ context.InputLayers) (hB : B ∈ context.InputLayers)
    (hbelow : A.zOrder < B.zOrder) (hfit : IntersectFits A.displayFrame B.displayFrame)
    {x y : Int} (hpA : A.displayFrame.HasPixel x y) (hpB : B.displayFrame.HasPixel x y) :
    (∀ i j z i' j' z', r.out.Shows i j A z → r.out.Shows i' j' B z' → z < z') ∧
      (r.strategy.mValidatedType A.id = .Client → r.strategy.mValidatedType B.id = .Client) ∧
      ∀ i j z, r.out.Shows i j A z → r.strategy.mValidatedType B.id = .Client →
        (∃ i' j' z', r.out.Shows i' j' fb z') ∧
          ∀ i' j' z', r.out.Shows i' j' fb z' → z < z' := by
  obtain ⟨S, client, cs, hplan⟩ := perform_plan hR hdist h
  -- the test of the code sees every pair of frames that share a pixel
  have hover : Over A B := rectangle_intersect_of_pixel hfit hpA hpB
  have hne : A ≠ B := by
    rintro rfl
    exact absurd hbelow (lt_irrefl _)
  have hbefore : Before context.InputLayers A B :=
    before_of_pairwise hasc hA hB hne (by omega)
  refine ⟨?_, ?_, ?_⟩
  · intro i j z i' j' z' hshow hshow'
    have hdrawn := hplan.keeps.order A B hbefore hover (hplan.mem_drawn hdist hA hshow)
      (hplan.mem_drawn hdist hB hshow')
    have hlayers : Before (cs.map Prod.snd) A B := by
      rw [hplan.layers]
      exact hdrawn.sublist (List.sublist_append_left _ _)
    exact hlayers.index_lt (hplan.layers_nodup hdist) (hplan.shows_getElem hshow)
      (hplan.shows_getElem hshow')
  · rw [hplan.client_iff hA, hplan.client_iff hB]
    exact hplan.keeps.closed A B hbefore hover
  · intro i j z hshow hclient
    -- `B` is left to the GPU, so the framebuffer is shown, and shown last
    have hrest := (hplan.client_iff hB).mp hclient
    have hlayers := hplan.layers
    rw [if_neg (hplan.client_ne_nil hrest)] at hlayers
    constructor
    · apply hplan.exists_shows
      rw [hlayers]
      exact List.mem_concat_self
    · intro i' j' z' hshow'
      have hfront : Before (cs.map Prod.snd) A fb := by
        rw [hlayers]
        exact Before.of_append (hplan.mem_drawn hdist hA hshow) (List.mem_singleton_self _)
      exact hfront.index_lt (hplan.layers_nodup hdist) (hplan.shows_getElem hshow)
        (hplan.shows_getElem hshow')

theorem perform_keeps_zOrder_desktop :
    ∃ r, desktopStrategy.perform 4 desktopConstraint desktop {} = .ok (some r) ∧
      (r.strategy.mValidatedType wallpaper.id = .Client →
        r.strategy.mValidatedType dialog.id = .Client) ∧
      ∀ i j z, r.out.Shows i j wallpaper z → r.strategy.mValidatedType dialog.id = .Client →
        (∃ i' j' z', r.out.Shows i' j' framebuffer z') ∧
          ∀ i' j' z', r.out.Shows i' j' framebuffer z' → z < z' := by
  obtain ⟨r, hr⟩ := desktop_performs
  have hfit : IntersectFits wallpaper.displayFrame dialog.displayFrame := by
    constructor <;> decide
  exact ⟨r, hr, (perform_keeps_zOrder (by decide) desktop_distinct (by decide) hr
    (A := wallpaper) (B := dialog) (x := 960) (y := 540) (by simp [desktop])
    (by simp [desktop]) (by decide) hfit ⟨by decide, by decide, by decide, by decide⟩
    ⟨by decide, by decide, by decide, by decide⟩).2⟩

/-! ## The framebuffer -/

/-- The framebuffer is shown exactly when a layer was left to the GPU, once and in a channel of its
own. -/
theorem perform_shows_framebuffer_iff (hR : 1 ≤ constraint.MaxRGBChannel)
    (hdist : context.Distinct fb)
    (h : s.perform fuel constraint context {} = .ok (some r)) :
    ((∃ i j z, r.out.Shows i j fb z) ↔
        ∃ layer ∈ context.InputLayers, r.strategy.mValidatedType layer.id = .Client) ∧
      (∀ i j z i' j' z', r.out.Shows i j fb z → r.out.Shows i' j' fb z' → i = i' ∧ j = j') ∧
      ∀ i j z j' layer z', r.out.Shows i j fb z → r.out.Shows i j' layer z' → layer = fb := by
  obtain ⟨S, client, cs, hplan⟩ := perform_plan hR hdist h
  refine ⟨⟨?_, ?_⟩, ?_, ?_⟩
  · rintro ⟨i, j, z, hshow⟩
    have hne : client ≠ [] := by
      intro hempty
      have hmem := List.mem_of_getElem? (hplan.shows_getElem hshow)
      rw [hplan.layers, if_pos hempty, List.append_nil] at hmem
      exact hplan.not_mem_drawn hdist hmem
    obtain ⟨p, hp⟩ := List.exists_mem_of_ne_nil client hne
    have hrest : p.1 ∈ S.rest := by
      rw [hplan.rest]
      exact List.mem_map_of_mem hp
    exact ⟨p.1, hplan.keeps.perm.subset (List.mem_append_right _ hrest), hplan.gpu p.1 hrest⟩
  · rintro ⟨layer, hin, htype⟩
    apply hplan.exists_shows
    rw [hplan.layers, if_neg (hplan.client_ne_nil ((hplan.client_iff hin).mp htype))]
    exact List.mem_concat_self
  · intro i j z i' j' z' hshow hshow'
    obtain ⟨hi, hj, _⟩ := hplan.shows_unique hdist hshow hshow'
    exact ⟨hi, hj⟩
  · intro i j z j' layer z' hshow hshow'
    exact hplan.alone i j j' layer z z' hshow hshow'

theorem perform_shows_framebuffer_iff_desktop :
    ∃ r, desktopStrategy.perform 4 desktopConstraint desktop {} = .ok (some r) ∧
      ((∃ i j z, r.out.Shows i j framebuffer z) ↔
        ∃ layer ∈ desktop.InputLayers, r.strategy.mValidatedType layer.id = .Client) := by
  obtain ⟨r, hr⟩ := desktop_performs
  exact ⟨r, hr, (perform_shows_framebuffer_iff (by decide) desktop_distinct hr).1⟩

/-! ## Every layer has a place -/

/-- The track of a layer says where the plan shows it, or that it does not. -/
def TrackAgrees (out : PlanningOutput F) (layer : Layer F) (node : TrackNode) : Prop :=
  (∃ i j z, out.Shows i j layer z ∧
      node = { FallbackReason := eHardwareLayer, Channel := some i, Slot := j }) ∨
    ((∀ i j z, ¬ out.Shows i j layer z) ∧ node.FallbackReason ≠ eHardwareLayer ∧
      node.Channel = none ∧ node.Slot = INVALID_SLOT)

theorem Plan.not_shows_rest (h : Plan constraint context fb S client cs r)
    (hdist : context.Distinct fb) {layer : Layer F} (hmem : layer ∈ S.rest) (i j z : Nat) :
    ¬ r.out.Shows i j layer z := by
  intro hshow
  have hin := h.keeps.perm.subset (List.mem_append_right _ hmem)
  have hdrawn := h.mem_drawn hdist hin hshow
  exact (List.nodup_append.mp (h.nodup hdist)).2.2 _ hdrawn _ hmem rfl

/-- An input layer is in exactly one slot or left to the GPU, and its type says which. -/
theorem Plan.placement (h : Plan constraint context fb S client cs r)
    (hdist : context.Distinct fb) {layer : Layer F} (hin : layer ∈ context.InputLayers) :
    ((∃ i j z, r.out.Shows i j layer z ∧
          ∀ i' j' z', r.out.Shows i' j' layer z' → i' = i ∧ j' = j) ∧
        r.strategy.mValidatedType layer.id =
          if isSoildLayer layer then .SolidColor else .Device) ∨
      ((∀ i j z, ¬ r.out.Shows i j layer z) ∧ r.strategy.mValidatedType layer.id = .Client) := by
  rcases h.mem_cases hin with hmem | hmem
  · obtain ⟨i, j, z, hshow⟩ := h.exists_shows (h.layers ▸ List.mem_append_left _ hmem)
    refine Or.inl ⟨⟨i, j, z, hshow, ?_⟩, h.hardware layer hmem⟩
    intro i' j' z' hshow'
    obtain ⟨hi, hj, _⟩ := h.shows_unique hdist hshow' hshow
    exact ⟨hi, hj⟩
  · exact Or.inr ⟨h.not_shows_rest hdist hmem, h.gpu layer hmem⟩

theorem Plan.tracks_agree (h : Plan constraint context fb S client cs r)
    (hdist : context.Distinct fb) {layer : Layer F} (hin : layer ∈ context.InputLayers ++ [fb])
    {node : TrackNode} (htrack : (layer.id, node) ∈ r.out.Tracks) :
    TrackAgrees r.out layer node := by
  rw [h.tracks, List.mem_append, List.mem_append] at htrack
  rcases htrack with (hcell | hclient) | hunused
  · obtain ⟨⟨⟨i, j⟩, shown⟩, hmem, heq⟩ := List.mem_map.mp hcell
    obtain ⟨z, hz⟩ := List.mem_iff_getElem?.mp hmem
    have hshow := (h.shows_iff i j shown z).mpr hz
    -- tracks are found by id, and ids tell the layers of a frame apart
    have hshown : shown ∈ context.InputLayers ++ [fb] := by
      have hlayer := List.mem_of_getElem? (h.shows_getElem hshow)
      rw [h.layers] at hlayer
      rcases List.mem_append.mp hlayer with hdrawn | hfront
      · exact List.mem_append_left _ (h.keeps.perm.subset (List.mem_append_left _ hdrawn))
      · split at hfront
        · exact absurd hfront List.not_mem_nil
        · exact List.mem_append_right _ hfront
    simp only [cellTrack, Prod.mk.injEq] at heq
    obtain rfl := hdist.id_inj hshown hin heq.1
    exact Or.inl ⟨i, j, z, hshow, heq.2.symm⟩
  · obtain ⟨p, hp, heq⟩ := List.mem_map.mp hclient
    simp only [clientTrack, Prod.mk.injEq] at heq
    have hrest : p.1 ∈ S.rest := h.rest ▸ List.mem_map_of_mem hp
    have hp' : p.1 ∈ context.InputLayers ++ [fb] :=
      List.mem_append_left _ (h.keeps.perm.subset (List.mem_append_right _ hrest))
    obtain rfl := hdist.id_inj hp' hin heq.1
    refine Or.inr ⟨h.not_shows_rest hdist hrest, ?_⟩
    rw [← heq.2]
    exact ⟨h.reasons p hp, rfl, rfl⟩
  -- the entry of a framebuffer that is not used
  · split at hunused
    · rename_i hempty
      rw [List.mem_singleton, Prod.mk.injEq] at hunused
      obtain rfl := hdist.id_inj hin List.mem_concat_self hunused.1
      refine Or.inr ⟨?_, ?_⟩
      · intro i j z hshow
        have hmem := List.mem_of_getElem? (h.shows_getElem hshow)
        rw [h.layers, if_pos hempty, List.append_nil] at hmem
        exact h.not_mem_drawn hdist hmem
      · rw [hunused.2]
        exact ⟨by decide, rfl, rfl⟩
    · exact absurd hunused List.not_mem_nil

/-- No layer is lost, shown twice or left undecided; the tracks say where each one is; and the
heights count the enabled slots. -/
theorem perform_places_every_layer (hR : 1 ≤ constraint.MaxRGBChannel)
    (hdist : context.Distinct fb) (h : s.perform fuel constraint context {} = .ok (some r)) :
    r.out.Configs.length = (constraint.MaxHybridChannel + constraint.MaxRGBChannel).toNat ∧
      (∀ layer ∈ context.InputLayers,
        ((∃ i j z, r.out.Shows i j layer z ∧
              ∀ i' j' z', r.out.Shows i' j' layer z' → i' = i ∧ j' = j) ∧
            r.strategy.mValidatedType layer.id =
              if isSoildLayer layer then .SolidColor else .Device) ∨
          ((∀ i j z, ¬ r.out.Shows i j layer z) ∧
            r.strategy.mValidatedType layer.id = .Client)) ∧
      (r.out.Tracks.map Prod.fst).Perm (context.InputLayers.map Layer.id ++ [fb.id]) ∧
      (r.out.Tracks.map Prod.fst).Nodup ∧
      (∀ layer ∈ context.InputLayers ++ [fb], ∀ node, (layer.id, node) ∈ r.out.Tracks →
        TrackAgrees r.out layer node) ∧
      r.out.enabledZ = List.range r.out.enabledZ.length := by
  obtain ⟨S, client, cs, hplan⟩ := perform_plan hR hdist h
  have hkeys : (r.out.Tracks.map Prod.fst).Perm (context.InputLayers.map Layer.id ++ [fb.id]) := by
    have hperm := ids_perm hplan.keeps hplan.rest hplan.layers
    rw [hplan.tracks, List.map_append, List.map_append, List.map_map, List.map_map]
    refine (List.Perm.of_eq ?_).trans hperm
    congr 1
    split <;> rfl
  refine ⟨hplan.configs, fun _ => hplan.placement hdist, hkeys, ?_,
    fun _ hin _ => hplan.tracks_agree hdist hin, ?_⟩
  · exact hkeys.nodup_iff.mpr hdist.ids_nodup
  · rw [hplan.heights, List.length_range]

theorem perform_places_every_layer_desktop :
    ∃ r, desktopStrategy.perform 4 desktopConstraint desktop {} = .ok (some r) ∧
      r.out.Configs.length = 4 ∧
      (r.out.Tracks.map Prod.fst).Perm [1, 2, 0] := by
  obtain ⟨r, hr⟩ := desktop_performs
  obtain ⟨hconfigs, _, htracks, _⟩ := perform_places_every_layer (by decide) desktop_distinct hr
  exact ⟨r, hr, hconfigs, htracks⟩

end StrategyHardwareFirst

end AwHal.Hwc
