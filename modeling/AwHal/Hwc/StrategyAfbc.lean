import AwHal.Hwc.StrategyChannels

/-!
# AFBC buffers and shared channels

A compressed buffer needs a channel for itself.  `HWChannel::match` turns layers away from a channel
that was opened for such a buffer; it does not turn away a layer with such a buffer from a channel that
was opened for another one.
-/

namespace AwHal.Hwc

open AwHal.Lib

variable {F : Type} [CFloat F]

/-! ## Channels -/

namespace HWChannel

variable {ch : HWChannel F} {layer : Layer F} {zoom : ZoomFactor F} {n : Nat}

structure Opened (ch : HWChannel F) : Prop where
  wellFormed : ch.WellFormed
  first : ∃ layer, ch.Holds 0 layer ∧ ch.mIsAFBC = isAfbcBuffer layer.bufferHandle

/-- A layer with an AFBC buffer has company. -/
def Mixed (ch : HWChannel F) : Prop :=
  ∃ j j' a b, j ≠ j' ∧ ch.Holds j a ∧ ch.Holds j' b ∧ isAfbcBuffer a.bufferHandle = true

omit [CFloat F] in
theorem mIsAFBC_insert (h : ch.mNextFreeSlot ≠ 0) :
    (ch.insert layer zoom n).mIsAFBC = ch.mIsAFBC := by
  simp [insert, h]

theorem opened_insert_blank (h : StrategyHardwareFirst.Blank ch) (hn : 0 < n)
    (hn' : n ≤ SLOT_PER_CHANNEL) : (ch.insert layer zoom n).Opened := by
  have hacc := h.accepts layer hn hn'
  refine ⟨wellFormed_insert h.wellFormed hacc, layer, ?_, ?_⟩
  · exact (holds_insert h.wellFormed hacc).mpr (.inl ⟨h.next.symm, rfl⟩)
  · simp [insert, h.next]

theorem not_mixed_insert_blank (h : StrategyHardwareFirst.Blank ch) (hn : 0 < n)
    (hn' : n ≤ SLOT_PER_CHANNEL) : ¬ (ch.insert layer zoom n).Mixed := by
  have hacc := h.accepts layer hn hn'
  rintro ⟨j, j', a, b, hne, ha, hb, -⟩
  have hj := ((holds_insert h.wellFormed hacc).mp ha).resolve_right fun hold => hold.not_blank h
  have hj' := ((holds_insert h.wellFormed hacc).mp hb).resolve_right fun hold => hold.not_blank h
  exact hne (hj.1.trans hj'.1.symm)

omit [CFloat F] in
theorem Opened.next_ne_zero (h : ch.Opened) : ch.mNextFreeSlot ≠ 0 := by
  obtain ⟨first, hfirst, -⟩ := h.first
  exact Nat.ne_zero_of_lt (hfirst.lt h.wellFormed)

omit [CFloat F] in
theorem Opened.insert (h : ch.Opened) (hacc : ch.Accepts layer n) :
    (ch.insert layer zoom n).Opened := by
  obtain ⟨first, hfirst, hflag⟩ := h.first
  refine ⟨wellFormed_insert h.wellFormed hacc, first, ?_, ?_⟩
  · exact (holds_insert h.wellFormed hacc).mpr (.inr hfirst)
  · rw [mIsAFBC_insert h.next_ne_zero]
    exact hflag

theorem mIsAFBC_of_match (h : ch.matchLayer layer zoom n = true) : ch.mIsAFBC = false := by
  unfold matchLayer at h
  split at h
  · cases h
  split at h
  · cases h
  · rename_i hflag
    simpa using hflag

omit [CFloat F] in
theorem Opened.mixed_insert (h : ch.Opened) (hacc : ch.Accepts layer n)
    (hflag : ch.mIsAFBC = false) :
    (ch.insert layer zoom n).Mixed ↔ ch.Mixed ∨ isAfbcBuffer layer.bufferHandle = true := by
  obtain ⟨first, hfirst, hafbc⟩ := h.first
  have hwf := h.wellFormed
  rw [hflag] at hafbc
  constructor
  · rintro ⟨j, j', a, b, hne, ha, hb, hcomp⟩
    rcases (holds_insert hwf hacc).mp ha with ⟨rfl, rfl⟩ | ha
    · exact .inr hcomp
    -- a compressed layer that was there before is not the first one
    · refine .inl ⟨j, 0, a, first, ?_, ha, hfirst, hcomp⟩
      rintro rfl
      rw [ha.unique hfirst, ← hafbc] at hcomp
      cases hcomp
  · intro hor
    rcases hor with ⟨j, j', a, b, hne, ha, hb, hcomp⟩ | hcomp
    · exact ⟨j, j', a, b, hne, (holds_insert hwf hacc).mpr (.inr ha),
        (holds_insert hwf hacc).mpr (.inr hb), hcomp⟩
    · exact ⟨ch.mNextFreeSlot, 0, layer, first, h.next_ne_zero,
        (holds_insert hwf hacc).mpr (.inl ⟨rfl, rfl⟩), (holds_insert hwf hacc).mpr (.inr hfirst),
        hcomp⟩

end HWChannel

namespace StrategyHardwareFirst

variable {constraint : PlanConstraint F} {context : CompositionContext F}
  {s s' : StrategyHardwareFirst F} {layer : Layer F}

/-! ## One layer -/

/-- The assigned channels were opened for the layer in their first slot; the others are blank. -/
structure Separate (s : StrategyHardwareFirst F) : Prop where
  spare : Spare s
  opened : ∀ ch ∈ s.mAssignedChannel, ch.Opened

/-- Some AFBC layer shares the channel it has been assigned to. -/
def MixesAfbc (s : StrategyHardwareFirst F) : Prop := ∃ ch ∈ s.mAssignedChannel, ch.Mixed

/-- The layer comes as far as the search for a channel: it is not marked for the GPU, the client target
does not cover it, and the checks of `dispatchToDevice` let it pass. -/
def ReachesDevice (constraint : PlanConstraint F) (s : StrategyHardwareFirst F) (layer : Layer F) :
    Prop :=
  isSkipLayer layer = false ∧ s.Uncovered layer ∧ s.checkDevice constraint layer = 0

/-- An AFBC layer about to join a channel that was opened for another layer. -/
def AfbcJoins (constraint : PlanConstraint F) (s : StrategyHardwareFirst F) (layer : Layer F) :
    Prop :=
  isAfbcBuffer layer.bufferHandle = true ∧ s.ReachesDevice constraint layer ∧
    (matchChannel constraint s.mAssignedChannel layer).isSome = true

theorem Separate.insertAt (h : Separate s) {m : Nat} (bw : Nat)
    (hmatch : matchChannel constraint s.mAssignedChannel layer = some m) :
    let s' := s.insertAt m layer
      (computeLayerZoomFactor (some layer) constraint.ScreenTransform) (expectSlot constraint) bw
    Separate s' ∧ (MixesAfbc s' ↔ MixesAfbc s ∨ isAfbcBuffer layer.bufferHandle = true) := by
  dsimp only
  obtain ⟨ch, hch, hlayer, -⟩ := matchChannel_spec hmatch
  have hopened := h.opened ch (List.mem_of_getElem? hch)
  have hacc := (HWChannel.matchLayer_spec hopened.wellFormed (expectSlot_pos constraint) hlayer).1
  have hmixed : (ch.insert layer (computeLayerZoomFactor (some layer) constraint.ScreenTransform)
      (expectSlot constraint)).Mixed ↔ ch.Mixed ∨ isAfbcBuffer layer.bufferHandle = true :=
    hopened.mixed_insert hacc (HWChannel.mIsAFBC_of_match hlayer)
  have hmem : ch.insert layer (computeLayerZoomFactor (some layer) constraint.ScreenTransform)
      (expectSlot constraint) ∈ (s.insertAt m layer
        (computeLayerZoomFactor (some layer) constraint.ScreenTransform) (expectSlot constraint)
        bw).mAssignedChannel := by
    apply List.mem_of_getElem? (i := m)
    simp [StrategyHardwareFirst.insertAt, hch]
  refine ⟨⟨⟨h.spare.channels, h.spare.target⟩, ?_⟩, ?_⟩
  · intro c hc
    rcases mem_insertAt hc with hc | ⟨ch', hch', rfl⟩
    · exact h.opened c hc
    · rw [hch] at hch'
      cases hch'
      exact hopened.insert hacc
  -- only the channel that matched has changed
  · constructor
    · rintro ⟨c, hc, hmix⟩
      rcases mem_insertAt hc with hc | ⟨ch', hch', rfl⟩
      · exact .inl ⟨c, hc, hmix⟩
      · rw [hch] at hch'
        cases hch'
        exact (hmixed.mp hmix).imp_left fun hold => ⟨ch, List.mem_of_getElem? hch, hold⟩
    · intro hor
      rcases hor with ⟨c, hc, hmix⟩ | hafbc
      · obtain ⟨i, hi⟩ := List.mem_iff_getElem?.mp hc
        by_cases him : m = i
        · subst him
          rw [hch] at hi
          cases hi
          exact ⟨_, hmem, hmixed.mpr (.inl hmix)⟩
        · refine ⟨c, List.mem_of_getElem? (i := i) ?_, hmix⟩
          simp [StrategyHardwareFirst.insertAt, him, hi]
      · exact ⟨_, hmem, hmixed.mpr (.inr hafbc)⟩

theorem Separate.open (h : Separate s) (constraint : PlanConstraint F) {ch : HWChannel F}
    {s₁ : StrategyHardwareFirst F} {t : HWChannelType} {zoom : ZoomFactor F} {bw : Nat}
    (halloc : s.allocateHWChannel t = (some ch, s₁)) :
    let s' := { s₁ with mAssignedChannel := s₁.mAssignedChannel ++ [ch] }.insertAt
      s₁.mAssignedChannel.length layer zoom (expectSlot constraint) bw
    Separate s' ∧ (MixesAfbc s' ↔ MixesAfbc s) := by
  dsimp only
  obtain ⟨hblank, hspare, hassigned, -, -⟩ := h.spare.allocate halloc
  have hpos := expectSlot_pos constraint
  have hle := expectSlot_le constraint
  have hchannels : ({ s₁ with mAssignedChannel := s₁.mAssignedChannel ++ [ch] }.insertAt
      s₁.mAssignedChannel.length layer zoom (expectSlot constraint) bw).mAssignedChannel =
        s.mAssignedChannel ++ [ch.insert layer zoom (expectSlot constraint)] := by
    rw [mAssignedChannel_open, hassigned]
  refine ⟨⟨⟨hspare.channels, hspare.target⟩, ?_⟩, ?_⟩
  · rw [hchannels]
    intro c hc
    rcases List.mem_append.mp hc with hc | hc
    · exact h.opened c hc
    · rw [List.mem_singleton.mp hc]
      exact HWChannel.opened_insert_blank hblank hpos hle
  · rw [MixesAfbc, hchannels]
    constructor
    · intro hmix
      obtain ⟨c, hc, hmix⟩ := hmix
      rcases List.mem_append.mp hc with hc | hc
      · exact ⟨c, hc, hmix⟩
      · rw [List.mem_singleton.mp hc] at hmix
        exact absurd hmix (HWChannel.not_mixed_insert_blank hblank hpos hle)
    · intro hmix
      obtain ⟨c, hc, hmix⟩ := hmix
      exact ⟨c, List.mem_append_left _ hc, hmix⟩

theorem Separate.device (h : Separate s)
    (hdispatch : s.dispatchToDevice constraint layer = (s', 0)) :
    s.checkDevice constraint layer = 0 ∧ Separate s' ∧
      (MixesAfbc s' ↔ MixesAfbc s ∨ (isAfbcBuffer layer.bufferHandle = true ∧
        (matchChannel constraint s.mAssignedChannel layer).isSome = true)) := by
  unfold dispatchToDevice dispatchToDeviceWith at hdispatch
  dsimp only at hdispatch
  split at hdispatch
  · rename_i hcheck
    exact absurd (congrArg Prod.snd hdispatch) hcheck
  rename_i hcheck
  have hzero : s.checkDevice constraint layer = 0 := not_not.mp hcheck
  refine ⟨hzero, ?_⟩
  cases hmatch : matchChannel constraint s.mAssignedChannel layer with
  | some m =>
      simp only [hmatch] at hdispatch
      cases hdispatch
      obtain ⟨hsep, hmix⟩ := h.insertAt (computeLayerMemoryFootprint (some layer)) hmatch
      exact ⟨hsep, by simpa using hmix⟩
  | none =>
      simp only [hmatch] at hdispatch
      split at hdispatch
      · cases hdispatch
      · rename_i ch s₁ halloc
        cases hdispatch
        obtain ⟨hsep, hmix⟩ := h.open constraint halloc
        exact ⟨hsep, by simpa using hmix⟩

theorem Separate.gpu (h : Separate s) {reason : Int}
    (hgpu : s.assignAsGpuComposition context layer reason = .ok (s', none)) :
    Separate s' ∧ (MixesAfbc s' ↔ MixesAfbc s) := by
  have hgpu' : s.assignAsGpuCompositionWith computeLayerMemoryFootprint context layer reason =
      .ok (s', none) := hgpu
  rcases assignAsGpuCompositionWith_ok hgpu' with
    ⟨target, htarget, rfl⟩ | ⟨-, -, ch, s₁, halloc, rfl⟩
  · exact ⟨⟨h.spare.deferTo (h.spare.target target htarget) layer reason, h.opened⟩, Iff.rfl⟩
  -- the client target takes a free channel, which is not one of the assigned ones
  · obtain ⟨hblank, hspare, hassigned, -, -⟩ := h.spare.allocate halloc
    have hchannels : ({ s₁ with
        mBWMeter := s₁.mBWMeter.add (computeLayerMemoryFootprint context.FramebufferTarget) }.deferTo
          { ch with mAsFrameBufferTarget := true } layer reason).mAssignedChannel =
        s.mAssignedChannel := hassigned
    refine ⟨⟨hspare.openTarget hblank _ layer reason, ?_⟩, ?_⟩
    · rw [hchannels]
      exact h.opened
    · rw [MixesAfbc, hchannels, MixesAfbc]

theorem not_afbcJoins_of_error {error : Int} (hne : error ≠ 0)
    (hdispatch : s.dispatchToDevice constraint layer = (s', error)) :
    ¬ AfbcJoins constraint s layer := by
  intro hjoins
  obtain ⟨-, ⟨-, -, hcheck⟩, hmatch⟩ := hjoins
  obtain ⟨m, hm⟩ := Option.isSome_iff_exists.mp hmatch
  have hcheck' : s.checkDeviceWith computeLayerMemoryFootprint constraint layer = 0 := hcheck
  unfold dispatchToDevice dispatchToDeviceWith at hdispatch
  simp only [hcheck', hm, ne_eq, not_true_eq_false, if_false] at hdispatch
  exact hne (congrArg Prod.snd hdispatch).symm

/-- What the assignment of one layer has done: the device has taken it, or the GPU. -/
theorem assignLayer_cases (hassign : s.assignLayer constraint context layer = .ok (s', none)) :
    (isSkipLayer layer = false ∧ s.Uncovered layer ∧
        s.dispatchToDevice constraint layer = (s', 0)) ∨
      (¬ AfbcJoins constraint s layer ∧ ∃ exhausted reason,
        assignAsGpuComposition context { s with mChannelExhausted := exhausted } layer reason =
          .ok (s', none)) := by
  unfold StrategyHardwareFirst.assignLayer assignLayerWith at hassign
  split at hassign
  · rename_i hskip
    exact .inr ⟨by simp [AfbcJoins, ReachesDevice, hskip], s.mChannelExhausted, _, hassign⟩
  rename_i hskip
  dsimp only at hassign
  split at hassign
  · cases hassign
  -- the layer meets one that the GPU draws, and goes there as well
  · rename_i hcovered
    have hnot : ¬ s.Uncovered layer := by
      intro huncovered
      split at hcovered
      · cases hcovered
      rename_i hcnt
      split at hcovered
      · cases hcovered
      · rename_i target htarget
        rw [huncovered target htarget hcnt] at hcovered
        cases hcovered
    exact .inr ⟨by simp [AfbcJoins, ReachesDevice, hnot], s.mChannelExhausted, _, hassign⟩
  rename_i hcovered
  have huncovered : s.Uncovered layer := by
    intro target htarget hcnt
    simpa [hcnt, htarget] using hcovered
  rcases hdispatch : s.dispatchToDeviceWith computeLayerMemoryFootprint constraint layer with
    ⟨s₁, error⟩
  have hdevice : s.dispatchToDevice constraint layer = (s₁, error) := hdispatch
  rw [hdispatch] at hassign
  dsimp only at hassign
  split at hassign
  · rename_i hzero
    subst hzero
    cases hassign
    exact .inl ⟨by simpa using hskip, huncovered, hdevice⟩
  · -- turned away by a check, or for lack of a channel: then there was no match either
    rename_i hne
    have hjoins := not_afbcJoins_of_error hne hdevice
    obtain ⟨exhausted, rfl⟩ := dispatchToDevice_error hne hdevice
    exact .inr ⟨hjoins, exhausted, error, hassign⟩

/-- One layer: an AFBC layer comes into company exactly when it joins a channel. -/
theorem Separate.assignLayer (h : Separate s)
    (hassign : s.assignLayer constraint context layer = .ok (s', none)) :
    Separate s' ∧ (MixesAfbc s' ↔ MixesAfbc s ∨ AfbcJoins constraint s layer) := by
  rcases assignLayer_cases hassign with
    ⟨hskip, huncovered, hdevice⟩ | ⟨hjoins, exhausted, reason, hgpu⟩
  · obtain ⟨hcheck, hsep, hmix⟩ := h.device hdevice
    refine ⟨hsep, ?_⟩
    rw [hmix]
    simp [AfbcJoins, ReachesDevice, hskip, huncovered, hcheck]
  · have hexhausted : Separate { s with mChannelExhausted := exhausted } :=
      ⟨⟨h.spare.channels, h.spare.target⟩, h.opened⟩
    obtain ⟨hsep, hmix⟩ := hexhausted.gpu hgpu
    refine ⟨hsep, ?_⟩
    rw [hmix, or_iff_left hjoins]
    exact Iff.rfl

/-! ## A whole pass -/

/-- At no layer of the list, taken from the state the ones before it lead to, does an AFBC buffer join
a channel. -/
def NeverJoins (constraint : PlanConstraint F) (context : CompositionContext F)
    (s : StrategyHardwareFirst F) (layers : List (Layer F)) : Prop :=
  ∀ before layer after st, layers = before ++ layer :: after →
    doAssignment constraint context s before = .ok (st, .ASSIGN_SUCCESS) →
    ¬ AfbcJoins constraint st layer

theorem doAssignment_step {layers : List (Layer F)}
    (hassign : s.assignLayer constraint context layer = .ok (s', none)) :
    doAssignment constraint context s (layer :: layers) =
      doAssignment constraint context s' layers := by
  rw [doAssignment_cons, hassign]

theorem neverJoins_cons {layers : List (Layer F)}
    (hassign : s.assignLayer constraint context layer = .ok (s', none)) :
    NeverJoins constraint context s (layer :: layers) ↔
      ¬ AfbcJoins constraint s layer ∧ NeverJoins constraint context s' layers := by
  constructor
  · intro h
    refine ⟨h [] layer layers s rfl rfl, ?_⟩
    intro before l after st heq hrun
    apply h (layer :: before) l after st
    · rw [heq, List.cons_append]
    · rw [doAssignment_step hassign]
      exact hrun
  · intro h before l after st heq hrun
    cases before with
    | nil =>
        cases heq
        cases hrun
        exact h.1
    | cons first before =>
        rw [List.cons_append] at heq
        cases heq
        rw [doAssignment_step hassign] at hrun
        exact h.2 before l after st rfl hrun

theorem Separate.doAssignment {layers : List (Layer F)} (h : Separate s)
    (hrun : doAssignment constraint context s layers = .ok (s', .ASSIGN_SUCCESS)) :
    Separate s' ∧ (MixesAfbc s' ↔ MixesAfbc s ∨ ¬ NeverJoins constraint context s layers) := by
  induction layers generalizing s with
  | nil =>
      cases hrun
      refine ⟨h, ?_⟩
      simp [NeverJoins]
  | cons layer layers ih =>
      rw [doAssignment_cons] at hrun
      split at hrun
      · cases hrun
      · rename_i s₁ code hassign
        cases hrun
        have hassign' : s.assignLayerWith computeLayerMemoryFootprint constraint context layer =
            .ok (s', some .ASSIGN_SUCCESS) := hassign
        cases assignLayerWith_code hassign'
      · rename_i s₁ hassign
        obtain ⟨hsep, hmix⟩ := h.assignLayer hassign
        obtain ⟨hsep', hmix'⟩ := ih hsep hrun
        refine ⟨hsep', ?_⟩
        rw [hmix', hmix, neverJoins_cons hassign]
        tauto

/-! ## The plan -/

/-- The last pass of `perform` assigns its layers from `s₁` on. -/
def StartsLast (constraint : PlanConstraint F) (context : CompositionContext F)
    (s s₁ : StrategyHardwareFirst F) : Prop :=
  ∃ head last error, Heads (performPass constraint context) (s.startAssign constraint context) head ∧
    head.performPass constraint context = .ok (.done last) ∧
    head.initAssignment constraint context = .ok (s₁, error)

theorem StartsLast.unique {s₁ s₂ : StrategyHardwareFirst F}
    (h₁ : StartsLast constraint context s s₁) (h₂ : StartsLast constraint context s s₂) :
    s₁ = s₂ := by
  obtain ⟨head, last, error, hheads, hdone, hinit⟩ := h₁
  obtain ⟨head', last', error', hheads', hdone', hinit'⟩ := h₂
  cases hheads.done_unique hdone hheads' hdone'
  rw [hinit] at hinit'
  cases hinit'
  rfl

end StrategyHardwareFirst

end AwHal.Hwc
