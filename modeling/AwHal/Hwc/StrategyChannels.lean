import AwHal.Hwc.StrategyBandwidth

/-!
# Layers that share a channel

A layer joins a channel that was opened for another one when `HWChannel.matchLayer` finds the two alike
and when no layer of the channel, nor of any channel over it, meets it.  What the layers of one channel
have in common in a finished plan is shown here, for any arithmetic of `float`.
-/

namespace AwHal.Hwc

open AwHal.Lib

/-! ## Slots -/

namespace HWChannel

section

variable {F : Type} {ch : HWChannel F} {layer l : Layer F} {zoom : ZoomFactor F} {n j : Nat}

def Holds (ch : HWChannel F) (j : Nat) (layer : Layer F) : Prop :=
  ∃ slot, ch.mSlots[j]? = some slot ∧ slot.InputLayer = some layer

theorem Holds.mem (h : ch.Holds j layer) : layer ∈ ch.layers := by
  obtain ⟨slot, hslot, hlayer⟩ := h
  exact List.mem_filterMap.mpr ⟨slot, List.mem_of_getElem? hslot, hlayer⟩

theorem Holds.lt (h : ch.Holds j layer) (hwf : ch.WellFormed) : j < ch.mNextFreeSlot := by
  obtain ⟨slot, hslot, hlayer⟩ := h
  by_contra hle
  have hmem : slot ∈ ch.mSlots.drop ch.mNextFreeSlot := by
    apply List.mem_iff_getElem?.mpr
    refine ⟨j - ch.mNextFreeSlot, ?_⟩
    rw [List.getElem?_drop, Nat.add_sub_cancel' (by omega), hslot]
  rw [hwf.unused slot hmem] at hlayer
  cases hlayer

theorem holds_insert (hwf : ch.WellFormed) (hacc : ch.Accepts layer n) :
    (ch.insert layer zoom n).Holds j l ↔
      (j = ch.mNextFreeSlot ∧ l = layer) ∨ ch.Holds j l := by
  have hpos := hacc.pos
  have hfit := hacc.fit
  have hlt : ch.mNextFreeSlot < ch.mSlots.length := by
    rw [hwf.slots]
    omega
  unfold Holds
  rw [mSlots_insert, List.getElem?_set]
  by_cases hj : ch.mNextFreeSlot = j
  · subst hj
    simp only [if_true, hlt, Option.some.injEq, exists_eq_left', true_and]
    constructor
    · intro h
      exact .inl h.symm
    · intro h
      rcases h with h | h
      · exact h.symm
      · exact absurd (Holds.lt h hwf) (Nat.lt_irrefl _)
  · simp [hj, Ne.symm hj]

theorem Holds.not_blank (h : ch.Holds j layer) (hblank : StrategyHardwareFirst.Blank ch) : False := by
  have hmem := h.mem
  rw [hblank.layers] at hmem
  exact List.not_mem_nil hmem

theorem insert_first (h : ch.mNextFreeSlot = 0) (layer : Layer F) (zoom : ZoomFactor F) (n : Nat) :
    (ch.insert layer zoom n).mPlaneAlpha = layer.alpha ∧
      (ch.insert layer zoom n).mZoomFactor = zoom := by
  simp [insert, h]

theorem insert_later (h : ch.mNextFreeSlot ≠ 0) (layer : Layer F) (zoom : ZoomFactor F) (n : Nat) :
    (ch.insert layer zoom n).mPlaneAlpha = ch.mPlaneAlpha ∧
      (ch.insert layer zoom n).mZoomFactor = ch.mZoomFactor := by
  simp [insert, h]

end

/-! ## Alpha and zoom -/

section

variable {F : Type} [CFloat F]

def Near (x y : F) : Prop := CFloat.lt EPSINON (CFloat.abs (CFloat.sub x y)) = false

/-- The alpha and the zoom factors of a layer are those of the channel, but for `EPSINON`. -/
structure Close (ch : HWChannel F) (layer : Layer F) (zoom : ZoomFactor F) : Prop where
  alpha : Near layer.alpha ch.mPlaneAlpha
  zoomX : Near zoom.x ch.mZoomFactor.x
  zoomY : Near zoom.y ch.mZoomFactor.y

theorem Close.congr {ch ch' : HWChannel F} {layer : Layer F} {zoom : ZoomFactor F}
    (h : ch.Close layer zoom) (halpha : ch'.mPlaneAlpha = ch.mPlaneAlpha)
    (hzoom : ch'.mZoomFactor = ch.mZoomFactor) : ch'.Close layer zoom := by
  refine ⟨?_, ?_, ?_⟩
  · rw [halpha]
    exact h.alpha
  · rw [hzoom]
    exact h.zoomX
  · rw [hzoom]
    exact h.zoomY

theorem matchLayer_close {ch : HWChannel F} {layer : Layer F} {zoom : ZoomFactor F} {n : Nat}
    (h : ch.matchLayer layer zoom n = true) : ch.Close layer zoom := by
  unfold matchLayer at h
  split at h
  · cases h
  split at h
  · cases h
  split at h
  · cases h
  split at h
  · cases h
  rename_i halpha
  split at h
  · cases h
  split at h
  · cases h
  rename_i hzoom
  rw [Bool.or_eq_true, not_or] at hzoom
  exact ⟨eq_false_of_ne_true halpha, eq_false_of_ne_true hzoom.1, eq_false_of_ne_true hzoom.2⟩

end

theorem near_iff {x y : Rat} : Near x y ↔ |x - y| ≤ 8589935 / 8589934592 := by
  have habs : CFloat.abs (CFloat.sub x y) = |x - y| := by
    show (if x - y < 0 then -(x - y) else x - y) = |x - y|
    split
    · rename_i hneg
      exact (abs_of_neg hneg).symm
    · rename_i hpos
      exact (abs_of_nonneg (not_lt.mp hpos)).symm
  rw [Near, habs]
  show decide ((8589935 / 8589934592 : Rat) < |x - y|) = false ↔ _
  rw [decide_eq_false_iff_not, not_lt]

/-! ## A channel that is shared -/

variable {F : Type} [CFloat F]

/-- The layers of a channel, each taking `n` slots: the first one gives the channel its attributes, the
others are close to it, and no two of them meet. -/
structure Shared (transform : ScreenTransform F) (n : Nat) (ch : HWChannel F) : Prop where
  wellFormed : ch.WellFormed
  next : n ∣ ch.mNextFreeSlot
  slots : ∀ j layer, ch.Holds j layer → n ∣ j
  first : ch.mNextFreeSlot ≠ 0 → ∃ layer, ch.Holds 0 layer ∧ layer.alpha = ch.mPlaneAlpha ∧
    computeLayerZoomFactor (some layer) transform = ch.mZoomFactor
  close : ∀ j layer, ch.Holds j layer → j ≠ 0 →
    ch.Close layer (computeLayerZoomFactor (some layer) transform)
  apart : ∀ j j' a b, j < j' → ch.Holds j a → ch.Holds j' b →
    rectangle_intersect a.displayFrame b.displayFrame = false

variable {transform : ScreenTransform F} {n : Nat} {ch : HWChannel F} {layer : Layer F}

theorem shared_blank (h : StrategyHardwareFirst.Blank ch) : Shared transform n ch where
  wellFormed := h.wellFormed
  next := by
    rw [h.next]
    exact dvd_zero n
  slots _ _ hholds := (hholds.not_blank h).elim
  first hne := absurd h.next hne
  close _ _ hholds := (hholds.not_blank h).elim
  apart _ _ _ _ _ hholds := (hholds.not_blank h).elim

/-- A layer close to the channel, apart from all its layers. -/
structure Joins (ch : HWChannel F) (layer : Layer F) (zoom : ZoomFactor F) (n : Nat) : Prop where
  accepts : ch.Accepts layer n
  close : ch.mNextFreeSlot ≠ 0 → ch.Close layer zoom
  apart : ∀ a ∈ ch.layers, rectangle_intersect a.displayFrame layer.displayFrame = false

theorem Shared.insert (h : Shared transform n ch)
    (hjoin : ch.Joins layer (computeLayerZoomFactor (some layer) transform) n) :
    Shared transform n
      (ch.insert layer (computeLayerZoomFactor (some layer) transform) n) := by
  have hwf := h.wellFormed
  have hacc := hjoin.accepts
  refine ⟨wellFormed_insert hwf hacc, ?_, ?_, ?_, ?_, ?_⟩
  · rw [mNextFreeSlot_insert]
    exact (Nat.dvd_add_right h.next).mpr (dvd_refl n)
  · intro j l hl
    -- the slots before were taken `n` at a time, so the free one is a multiple of `n`
    rcases (holds_insert hwf hacc).mp hl with ⟨rfl, -⟩ | hl
    · exact h.next
    · exact h.slots j l hl
  · intro _
    by_cases hzero : ch.mNextFreeSlot = 0
    · obtain ⟨halpha, hzoom⟩ := insert_first hzero layer
        (computeLayerZoomFactor (some layer) transform) n
      exact ⟨layer, (holds_insert hwf hacc).mpr (.inl ⟨hzero.symm, rfl⟩), halpha.symm, hzoom.symm⟩
    · obtain ⟨halpha, hzoom⟩ := insert_later hzero layer
        (computeLayerZoomFactor (some layer) transform) n
      obtain ⟨l, hl, hlalpha, hlzoom⟩ := h.first hzero
      exact ⟨l, (holds_insert hwf hacc).mpr (.inr hl), hlalpha.trans halpha.symm,
        hlzoom.trans hzoom.symm⟩
  · intro j l hl hj
    -- a layer was there before, so the attributes stay
    have hne : ch.mNextFreeSlot ≠ 0 := by
      rcases (holds_insert hwf hacc).mp hl with ⟨rfl, -⟩ | hl
      · exact hj
      · exact Nat.ne_zero_of_lt (hl.lt hwf)
    obtain ⟨halpha, hzoom⟩ := insert_later hne layer
      (computeLayerZoomFactor (some layer) transform) n
    rcases (holds_insert hwf hacc).mp hl with ⟨-, rfl⟩ | hl
    · exact (hjoin.close hne).congr halpha hzoom
    · exact (h.close j l hl hj).congr halpha hzoom
  · intro j j' a b hlt ha hb
    rcases (holds_insert hwf hacc).mp hb with ⟨rfl, rfl⟩ | hb
    · rcases (holds_insert hwf hacc).mp ha with ⟨rfl, -⟩ | ha
      · exact absurd hlt (Nat.lt_irrefl _)
      · exact hjoin.apart a ha.mem
    · rcases (holds_insert hwf hacc).mp ha with ⟨rfl, -⟩ | ha
      -- nothing is behind the new layer
      · exact absurd (hb.lt hwf) (by omega)
      · exact h.apart j j' a b hlt ha hb

/-! ## What the layers of a channel have in common -/

structure Alike (transform : ScreenTransform F) (first layer : Layer F) : Prop where
  format : getLayerPixelFormat layer = getLayerPixelFormat first
  blending : layer.blending = first.blending
  alpha : Near layer.alpha first.alpha
  zoomX : Near (computeLayerZoomFactor (some layer) transform).x
    (computeLayerZoomFactor (some first) transform).x
  zoomY : Near (computeLayerZoomFactor (some layer) transform).y
    (computeLayerZoomFactor (some first) transform).y

omit [CFloat F] in
theorem Holds.unique {j : Nat} {a b : Layer F} (ha : ch.Holds j a) (hb : ch.Holds j b) : a = b := by
  obtain ⟨slot, hslot, ha⟩ := ha
  obtain ⟨slot', hslot', hb⟩ := hb
  rw [hslot] at hslot'
  cases hslot'
  exact Option.some.inj (ha.symm.trans hb)

/-- What the plan promises of a channel. -/
structure Compatible (constraint : PlanConstraint F) (ch : HWChannel F) : Prop where
  alike : ∀ j layer, ch.Holds j layer →
    ∃ first, ch.Holds 0 first ∧ (layer = first ∨ Alike constraint.ScreenTransform first layer)
  apart : ∀ j j' a b, j < j' → ch.Holds j a → ch.Holds j' b →
    rectangle_intersect a.displayFrame b.displayFrame = false
  eyes : constraint.Output3D = true → ∀ j layer, ch.Holds j layer → j = 0 ∨ j = 2

variable {constraint : PlanConstraint F}

theorem Shared.compatible (h : Shared constraint.ScreenTransform
    (StrategyHardwareFirst.expectSlot constraint) ch) : Compatible constraint ch where
  alike := by
    intro j layer hlayer
    have hwf := h.wellFormed
    obtain ⟨first, hfirst, halpha, hzoom⟩ := h.first (Nat.ne_zero_of_lt (hlayer.lt hwf))
    refine ⟨first, hfirst, ?_⟩
    rcases Nat.eq_zero_or_pos j with rfl | hj
    · exact .inl (hlayer.unique hfirst)
    obtain ⟨ha, hx, hy⟩ := h.close j layer hlayer (Nat.ne_of_gt hj)
    refine .inr ⟨?_, ?_, ?_, ?_, ?_⟩
    · rw [hwf.format layer hlayer.mem, hwf.format first hfirst.mem]
    · rw [hwf.blending layer hlayer.mem, hwf.blending first hfirst.mem]
    · rw [halpha]
      exact ha
    · rw [hzoom]
      exact hx
    · rw [hzoom]
      exact hy
  apart := h.apart
  eyes := by
    intro h3D j layer hlayer
    -- a layer takes two slots, so the others start at an even one
    have hdvd := h.slots j layer hlayer
    rw [StrategyHardwareFirst.expectSlot, if_pos h3D] at hdvd
    have hlt : j < 4 := Nat.lt_of_lt_of_le (hlayer.lt h.wellFormed) h.wellFormed.next
    omega

theorem compatible_target {target : HWChannel F} (h : StrategyHardwareFirst.Blank target)
    (fb : Layer F) (zoom : ZoomFactor F) : Compatible constraint (target.insert fb zoom 1) := by
  have hholds : ∀ j layer, (target.insert fb zoom 1).Holds j layer ↔ j = 0 ∧ layer = fb := by
    intro j layer
    rw [holds_insert h.wellFormed (h.accepts fb Nat.one_pos (by decide)), h.next]
    constructor
    · intro hor
      exact hor.resolve_right fun hlayer => hlayer.not_blank h
    · exact .inl
  refine ⟨?_, ?_, ?_⟩
  · intro j layer hlayer
    rw [((hholds j layer).mp hlayer).2]
    exact ⟨fb, (hholds 0 fb).mpr ⟨rfl, rfl⟩, .inl rfl⟩
  · intro j j' a b hlt _ hb
    have hj := ((hholds j' b).mp hb).1
    omega
  · intro _ j layer hlayer
    exact .inl ((hholds j layer).mp hlayer).1

end HWChannel

namespace StrategyHardwareFirst

variable {F : Type} [CFloat F] {constraint : PlanConstraint F} {context : CompositionContext F}
  {s s' : StrategyHardwareFirst F} {layer : Layer F}

theorem accept_shows_iff {i j : Nat} :
    (∃ z, (s.acceptAssignResult context {}).2.Shows i j layer z) ↔
      ∃ ch, s.mergedChannels[i]? = some ch ∧ ch.Holds j layer := by
  have hcell : ((i, j), layer) ∈ cells 0 s.mergedChannels ↔
      ∃ ch, s.mergedChannels[i]? = some ch ∧ ch.Holds j layer := by
    simp only [cells, List.mem_map, Prod.exists, exists_and_right, exists_eq_right,
      mem_heightCells, HWChannel.Holds]
    grind
  rw [← hcell, List.mem_iff_getElem?]
  simp only [accept_shows]

/-! ## The channels during a pass -/

structure Sharing (constraint : PlanConstraint F) (s : StrategyHardwareFirst F) : Prop where
  spare : Spare s
  assigned : ∀ ch ∈ s.mAssignedChannel,
    HWChannel.Shared constraint.ScreenTransform (expectSlot constraint) ch

/-- A channel that the scan finds takes the layer: the scan has passed the channel itself. -/
theorem Sharing.joins (h : Sharing constraint s) {m : Nat}
    (hmatch : matchChannel constraint s.mAssignedChannel layer = some m) :
    ∀ ch, s.mAssignedChannel[m]? = some ch → ch.Joins layer
      (computeLayerZoomFactor (some layer) constraint.ScreenTransform) (expectSlot constraint) := by
  intro ch hch
  obtain ⟨ch', hch', hlayer, hclear⟩ := matchChannel_spec hmatch
  rw [hch] at hch'
  cases hch'
  have hwf := (h.assigned ch (List.mem_of_getElem? hch)).wellFormed
  refine ⟨?_, fun _ => HWChannel.matchLayer_close hlayer, ?_⟩
  · exact (HWChannel.matchLayer_spec hwf (expectSlot_pos constraint) hlayer).1
  · exact HWChannel.not_intersect hwf (hclear m ch (Nat.le_refl m) hch)

theorem Blank.joins {ch : HWChannel F} (h : Blank ch) (layer : Layer F) (zoom : ZoomFactor F)
    (constraint : PlanConstraint F) : ch.Joins layer zoom (expectSlot constraint) where
  accepts := h.accepts layer (expectSlot_pos constraint) (expectSlot_le constraint)
  close hne := absurd h.next hne
  apart := by simp [h.layers]

theorem Sharing.device {footprint : Option (Layer F) → Nat} (h : Sharing constraint s)
    (hdispatch : s.dispatchToDeviceWith footprint constraint layer = (s', 0)) :
    Sharing constraint s' := by
  obtain ⟨-, ⟨m, hmatch, rfl⟩ | ⟨ch, s₁, halloc, rfl⟩⟩ := dispatchToDeviceWith_ok hdispatch
  · refine ⟨⟨h.spare.channels, h.spare.target⟩, ?_⟩
    intro c hc
    rcases mem_insertAt hc with hc | ⟨ch, hch, rfl⟩
    · exact h.assigned c hc
    · exact (h.assigned ch (List.mem_of_getElem? hch)).insert (h.joins hmatch ch hch)
  · obtain ⟨hblank, hspare, hassigned, -, -⟩ := h.spare.allocate halloc
    refine ⟨⟨hspare.channels, hspare.target⟩, ?_⟩
    intro c hc
    rcases mem_insertAt hc with hc | ⟨ch', hch', rfl⟩
    · rcases List.mem_append.mp hc with hc | hc
      · exact h.assigned c (hassigned ▸ hc)
      · rw [List.mem_singleton.mp hc]
        exact HWChannel.shared_blank hblank
    · -- the last channel is the new one
      have hlast : ch' = ch := by simpa using hch'.symm
      rw [hlast]
      exact (HWChannel.shared_blank hblank).insert (hblank.joins layer _ constraint)

theorem Sharing.gpu {footprint : Option (Layer F) → Nat} (h : Sharing constraint s) {reason : Int}
    (hgpu : s.assignAsGpuCompositionWith footprint context layer reason = .ok (s', none)) :
    Sharing constraint s' := by
  rcases assignAsGpuCompositionWith_ok hgpu with
    ⟨target, htarget, rfl⟩ | ⟨-, -, ch, s₁, halloc, rfl⟩
  · exact ⟨h.spare.deferTo (h.spare.target target htarget) layer reason, h.assigned⟩
  · obtain ⟨hblank, hspare, hassigned, -, -⟩ := h.spare.allocate halloc
    refine ⟨hspare.openTarget hblank _ layer reason, ?_⟩
    show ∀ c ∈ s₁.mAssignedChannel, _
    rw [hassigned]
    exact h.assigned

theorem sharing_kept (footprint : Option (Layer F) → Nat) (constraint : PlanConstraint F)
    (context : CompositionContext F) :
    Kept footprint constraint context (Sharing constraint) where
  start s s' error h := by
    obtain ⟨hassigned, hspare, -⟩ := initAssignmentWith_ok h
    refine ⟨hspare, ?_⟩
    rw [hassigned]
    exact fun _ hch => absurd hch List.not_mem_nil
  exhausted _ _ h := ⟨⟨h.spare.channels, h.spare.target⟩, h.assigned⟩
  device _ _ _ h hdispatch := h.device hdispatch
  gpu _ _ _ _ h hgpu := h.gpu hgpu

/-! ## The channels of a plan -/

/-- Every channel of a finished pass, the client target and the spare ones included. -/
theorem Sharing.compatible (h : Sharing constraint s) {filled : List (HWChannel F)}
    (htarget : (s.mClientTarget = none ∧ filled = []) ∨
      ∃ target fb, s.mClientTarget = some target ∧ context.FramebufferTarget = some fb ∧
        filled = [target.insert fb (computeLayerZoomFactor (some fb) constraint.ScreenTransform) 1]) :
    ∀ ch ∈ s.mAssignedChannel ++ (filled ++ s.spareChannels), ch.Compatible constraint := by
  intro ch hch
  rcases List.mem_append.mp hch with hch | hch
  -- channels of layers, the client target, channels to spare
  · exact (h.assigned ch hch).compatible
  rcases List.mem_append.mp hch with hch | hch
  · rcases htarget with ⟨-, rfl⟩ | ⟨target, fb, hsome, -, rfl⟩
    · exact absurd hch List.not_mem_nil
    · rw [List.mem_singleton.mp hch]
      exact HWChannel.compatible_target (h.spare.target target hsome) fb _
  · exact (HWChannel.shared_blank (h.spare.channels ch hch)).compatible

/-- A plan is the list of its channels, each compatible. -/
theorem perform_channels {fuel : Nat} {r : Performed F}
    (hrun : s.perform fuel constraint context {} = .ok (some r)) :
    ∃ channels : List (HWChannel F), (∀ ch ∈ channels, ch.Compatible constraint) ∧
      ∀ i j layer, (∃ z, r.out.Shows i j layer z) ↔
        ∃ ch, channels[i]? = some ch ∧ ch.Holds j layer := by
  unfold perform at hrun
  obtain ⟨last, hlast, hfinish⟩ := (sharing_kept _ constraint context).performWith hrun
  obtain ⟨t, filled, hout, hmerged, htarget⟩ := finishAssign_merged hfinish
  refine ⟨_, hlast.compatible htarget, ?_⟩
  intro i j layer
  rw [hout, ← hmerged]
  exact accept_shows_iff

/-- Layers that share a channel of a plan agree with the one in its first slot; no two of them have a
pixel in common as long as `rectangle_intersect` does not overflow on their frames; and a 3D output has
two of them at most, one for each pair of slots. -/
structure SharesAlike (constraint : PlanConstraint F) (out : PlanningOutput F) : Prop where
  alike : ∀ i j layer z, out.Shows i j layer z → ∃ first z₀, out.Shows i 0 first z₀ ∧
    (layer = first ∨ HWChannel.Alike constraint.ScreenTransform first layer)
  apart : ∀ i j j' a b z z', j ≠ j' → out.Shows i j a z → out.Shows i j' b z' →
    IntersectFits a.displayFrame b.displayFrame →
      ∀ x y, ¬ (a.displayFrame.HasPixel x y ∧ b.displayFrame.HasPixel x y)
  eyes : constraint.Output3D = true → ∀ i j layer z, out.Shows i j layer z → j = 0 ∨ j = 2

theorem perform_sharesAlike {fuel : Nat} {r : Performed F}
    (hrun : s.perform fuel constraint context {} = .ok (some r)) : SharesAlike constraint r.out := by
  obtain ⟨channels, hcompatible, hshows⟩ := perform_channels hrun
  refine ⟨?_, ?_, ?_⟩
  · intro i j layer z hz
    obtain ⟨ch, hch, hlayer⟩ := (hshows i j layer).mp ⟨z, hz⟩
    obtain ⟨first, hfirst, halike⟩ := (hcompatible ch (List.mem_of_getElem? hch)).alike j layer hlayer
    obtain ⟨z₀, hz₀⟩ := (hshows i 0 first).mpr ⟨ch, hch, hfirst⟩
    exact ⟨first, z₀, hz₀, halike⟩
  · intro i j j' a b z z' hne ha hb hfit x y hpixel
    obtain ⟨ch, hch, hja⟩ := (hshows i j a).mp ⟨z, ha⟩
    obtain ⟨ch', hch', hjb⟩ := (hshows i j' b).mp ⟨z', hb⟩
    rw [hch] at hch'
    cases hch'
    have hapart := (hcompatible ch (List.mem_of_getElem? hch)).apart
    -- the later layer was compared with the earlier one
    rcases Nat.lt_or_gt_of_ne hne with hlt | hlt
    · have hmeet := rectangle_intersect_of_pixel hfit hpixel.1 hpixel.2
      rw [hapart j j' a b hlt hja hjb] at hmeet
      cases hmeet
    · have hmeet := rectangle_intersect_of_pixel hfit.symm hpixel.2 hpixel.1
      rw [hapart j' j b a hlt hjb hja] at hmeet
      cases hmeet
  · intro h3D i j layer z hz
    obtain ⟨ch, hch, hlayer⟩ := (hshows i j layer).mp ⟨z, hz⟩
    exact (hcompatible ch (List.mem_of_getElem? hch)).eyes h3D j layer hlayer

/-- What layers of a channel have in common in any arithmetic of `float`, and their zoom factors as
exact rationals. -/
theorem perform_shares_alike :
    (∀ {F : Type} [CFloat F] {constraint : PlanConstraint F} {context : CompositionContext F}
      {s : StrategyHardwareFirst F} {fuel : Nat} {r : Performed F},
      s.perform fuel constraint context {} = .ok (some r) → SharesAlike constraint r.out) ∧
    ∀ {constraint : PlanConstraint Rat} {context : CompositionContext Rat}
      {s : StrategyHardwareFirst Rat} {fuel : Nat} {r : Performed Rat},
      s.perform fuel constraint context {} = .ok (some r) →
        ∀ i j layer z, r.out.Shows i j layer z → ∃ first z₀, r.out.Shows i 0 first z₀ ∧
          |(computeLayerZoomFactor (some layer) constraint.ScreenTransform).x -
            (computeLayerZoomFactor (some first) constraint.ScreenTransform).x| ≤
              8589935 / 8589934592 ∧
          |(computeLayerZoomFactor (some layer) constraint.ScreenTransform).y -
            (computeLayerZoomFactor (some first) constraint.ScreenTransform).y| ≤
              8589935 / 8589934592 := by
  constructor
  · exact fun hrun => perform_sharesAlike hrun
  · intro constraint context s fuel r hrun i j layer z hz
    obtain ⟨first, z₀, hz₀, hself | halike⟩ := (perform_sharesAlike hrun).alike i j layer z hz
    · have hzero : ∀ x : Rat, |x - x| ≤ 8589935 / 8589934592 := by
        intro x
        rw [sub_self, abs_zero]
        norm_num
      rw [hself]
      exact ⟨first, z₀, hz₀, hzero _, hzero _⟩
    · exact ⟨first, z₀, hz₀, HWChannel.near_iff.mp halike.zoomX, HWChannel.near_iff.mp halike.zoomY⟩

/-! ## Two bars, and two screens that are too wide -/

def readAt {α : Type} (f : Layer F → α) (out : PlanningOutput F) (i j : Nat) : Option α := do
  let config ← out.Configs[i]?
  let slot ← config.Slots[j]?
  if slot.Enable then slot.InputLayer.map f else none

omit [CFloat F] in
theorem shows_of_readAt {α : Type} {f : Layer F → α} {out : PlanningOutput F} {i j : Nat}
    {x : α} (h : readAt f out i j = some x) :
    ∃ layer z, out.Shows i j layer z ∧ f layer = x := by
  unfold readAt at h
  simp only [Option.bind_eq_bind, Option.bind_eq_some_iff] at h
  obtain ⟨config, hconfig, slot, hslot, h⟩ := h
  split at h
  · rename_i henable
    obtain ⟨layer, hlayer, hread⟩ := Option.map_eq_some_iff.mp h
    exact ⟨layer, slot.Z, ⟨config, slot, hconfig, hslot, henable, hlayer, rfl⟩, hread⟩
  · cases h

omit [CFloat F] in
/-- The first two slots of a plan, read off a run. -/
theorem exists_of_reads {α : Type} (f : Layer F → α) (run : Except Fault (Option (Performed F)))
    (x y : α)
    (h : run.toOption.join.map
      (fun r => (readAt f r.out 0 0, readAt f r.out 0 1)) = some (some x, some y)) :
    ∃ r, run = .ok (some r) ∧ ∃ a b z z', r.out.Shows 0 0 a z ∧ r.out.Shows 0 1 b z' ∧
      f a = x ∧ f b = y := by
  match run with
  | .ok (some r) =>
      have hpair := Option.some.inj h
      obtain ⟨a, z, ha, hx⟩ := shows_of_readAt (congrArg Prod.fst hpair)
      obtain ⟨b, z', hb, hy⟩ := shows_of_readAt (congrArg Prod.snd hpair)
      exact ⟨r, rfl, a, b, z, z', ha, hb, hx, hy⟩

def statusBar : Layer Rat :=
  { wallpaper with
    displayFrame := { left := 0, top := 0, right := 1920, bottom := 40 }
    sourceCrop := { left := 0, top := 0, right := 1920, bottom := 40 } }

def navigationBar : Layer Rat :=
  { wallpaper with
    id := 2
    zOrder := 1
    displayFrame := { left := 0, top := 1000, right := 1920, bottom := 1080 }
    sourceCrop := { left := 0, top := 0, right := 1920, bottom := 80 } }

def bars : CompositionContext Rat :=
  { desktop with InputLayers := [statusBar, navigationBar] }

theorem perform_shares_alike_bars :
    ∃ r, desktopStrategy.perform 4 desktopConstraint bars {} = .ok (some r) ∧
      (∃ a b z z', r.out.Shows 0 0 a z ∧ r.out.Shows 0 1 b z' ∧
        a.displayFrame = statusBar.displayFrame ∧ b.displayFrame = navigationBar.displayFrame) ∧
      SharesAlike desktopConstraint r.out := by
  obtain ⟨r, hr, hshown⟩ := exists_of_reads Layer.displayFrame
    (desktopStrategy.perform 4 desktopConstraint bars {}) statusBar.displayFrame
    navigationBar.displayFrame (by decide +kernel)
  exact ⟨r, hr, hshown, perform_shares_alike.1 hr⟩

def wideScreen : Layer Rat :=
  { wallpaper with
    requestType := .SolidColor
    bufferHandle := none
    displayFrame := { left := 0, top := 0, right := 2147483647, bottom := 10 } }

def shiftedScreen : Layer Rat :=
  { wideScreen with
    id := 2
    zOrder := 1
    displayFrame := { left := 1, top := 0, right := 2147483647, bottom := 10 } }

def wideScreens : CompositionContext Rat :=
  { desktop with InputLayers := [wideScreen, shiftedScreen] }

def faintBars : CompositionContext Rat :=
  { desktop with
    InputLayers :=
      [{ statusBar with alpha := 0 }, { navigationBar with alpha := 8589935 / 8589934592 }] }

/-- The sum of the widths comes out negative, and two frames that cover each other share a channel; and
`EPSINON` is more than a thousandth. -/
theorem wideScreens_share_channel :
    (∃ r, desktopStrategy.perform 4 desktopConstraint wideScreens {} = .ok (some r) ∧
      ∃ a b z z', r.out.Shows 0 0 a z ∧ r.out.Shows 0 1 b z' ∧
        a.displayFrame.HasPixel 1 0 ∧ b.displayFrame.HasPixel 1 0) ∧
    ∃ r, desktopStrategy.perform 4 desktopConstraint faintBars {} = .ok (some r) ∧
      ∃ a b z z', r.out.Shows 0 0 a z ∧ r.out.Shows 0 1 b z' ∧ 1 / 1000 < |b.alpha - a.alpha| := by
  constructor
  · obtain ⟨r, hr, a, b, z, z', ha, hb, hframe, hframe'⟩ := exists_of_reads
      Layer.displayFrame (desktopStrategy.perform 4 desktopConstraint wideScreens {})
      wideScreen.displayFrame shiftedScreen.displayFrame (by decide +kernel)
    refine ⟨r, hr, a, b, z, z', ha, hb, ?_, ?_⟩
    · rw [hframe]
      exact ⟨by decide, by decide, by decide, by decide⟩
    · rw [hframe']
      exact ⟨by decide, by decide, by decide, by decide⟩
  · obtain ⟨r, hr, a, b, z, z', ha, hb, halpha, halpha'⟩ := exists_of_reads Layer.alpha
      (desktopStrategy.perform 4 desktopConstraint faintBars {}) 0 (8589935 / 8589934592)
      (by decide +kernel)
    refine ⟨r, hr, a, b, z, z', ha, hb, ?_⟩
    rw [halpha, halpha', sub_zero, abs_of_pos (by norm_num)]
    norm_num

end StrategyHardwareFirst

end AwHal.Hwc
