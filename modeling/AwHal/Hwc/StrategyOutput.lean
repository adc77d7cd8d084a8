import AwHal.Hwc.StrategyCompare

/-!
# `acceptAssignResult`

The heights, validated types and tracks that the channels of a finished pass come to.  The taken
slots are read off as one list of cells, in channel order and then slot order; the position of a
cell in that list is its height.
-/

namespace AwHal.Hwc

open AwHal.Lib

set_option linter.unusedSectionVars false

/-! ## Folding updates -/

section

variable {α β : Type} {key : α → Nat} {value : α → β}

theorem foldl_update_of_not_mem {l : List α} {k : Nat} (h : k ∉ l.map key) (f : Nat → β) :
    l.foldl (fun f x => Function.update f (key x) (value x)) f k = f k := by
  induction l generalizing f with
  | nil => rfl
  | cons x l ih =>
      simp only [List.map_cons, List.mem_cons, not_or] at h
      rw [List.foldl_cons, ih h.2, Function.update_of_ne h.1]

theorem foldl_update_of_mem {l : List α} (hl : (l.map key).Nodup) {x : α} (hx : x ∈ l)
    (f : Nat → β) :
    l.foldl (fun f x => Function.update f (key x) (value x)) f (key x) = value x := by
  induction l generalizing f with
  | nil => exact absurd hx List.not_mem_nil
  | cons y l ih =>
      rw [List.map_cons, List.nodup_cons] at hl
      rw [List.foldl_cons]
      rcases List.mem_cons.mp hx with rfl | hx
      · rw [foldl_update_of_not_mem hl.1, Function.update_self]
      · exact ih hl.2 hx _

theorem foldl_emplaceTrack {l : List α} {node : α → TrackNode} {tracks : List (Nat × TrackNode)}
    (h : (tracks.map Prod.fst ++ l.map key).Nodup) :
    l.foldl (fun tracks x => emplaceTrack tracks (key x) (node x)) tracks =
      tracks ++ l.map fun x => (key x, node x) := by
  induction l generalizing tracks with
  | nil => simp
  | cons x l ih =>
      have hx : key x ∉ tracks.map Prod.fst := by
        intro hmem
        exact (List.nodup_append.mp h).2.2 _ hmem _ (by simp) rfl
      rw [List.foldl_cons, emplaceTrack_of_not_mem _ hx, ih]
      · simp
      · simpa using h

end

namespace StrategyHardwareFirst

variable {F : Type} [CFloat F]

/-! ## Cells -/

/-- A taken slot: its channel and slot position, and the layer in it. -/
abbrev Cell (F : Type) := (Nat × Nat) × Layer F

/-- The cells of the slots from position `j` on of channel `i`, each with its height. -/
def slotCells (i j : Nat) (slots : List (HWSlot F)) : List (Cell F × Nat) :=
  (slots.zipIdx j).filterMap fun p => p.1.InputLayer.map fun layer => (((i, p.2), layer), p.1.Z)

def heightCells (i : Nat) (channels : List (HWChannel F)) : List (Cell F × Nat) :=
  (channels.zipIdx i).flatMap fun p => slotCells p.2 0 p.1.mSlots

def cells (i : Nat) (channels : List (HWChannel F)) : List (Cell F) :=
  (heightCells i channels).map Prod.fst

def acceptCell (a : Accepted) (cell : Cell F) : Accepted where
  zorder := a.zorder + 1
  types := Function.update a.types cell.2.id
    (if isSoildLayer cell.2 then .SolidColor else .Device)
  Tracks := emplaceTrack a.Tracks cell.2.id
    { FallbackReason := eHardwareLayer, Channel := some cell.1.1, Slot := cell.1.2 }

theorem slotCells_cons (i j : Nat) (slot : HWSlot F) (slots : List (HWSlot F)) :
    slotCells i j (slot :: slots) =
      (slot.InputLayer.map fun layer => (((i, j), layer), slot.Z)).toList ++
        slotCells i (j + 1) slots := by
  unfold slotCells
  rw [List.zipIdx_cons, List.filterMap_cons]
  cases slot.InputLayer <;> rfl

theorem heightCells_cons (i : Nat) (ch : HWChannel F) (channels : List (HWChannel F)) :
    heightCells i (ch :: channels) = slotCells i 0 ch.mSlots ++ heightCells (i + 1) channels := by
  unfold heightCells
  rw [List.zipIdx_cons, List.flatMap_cons]

theorem cells_cons (i : Nat) (ch : HWChannel F) (channels : List (HWChannel F)) :
    cells i (ch :: channels) =
      (slotCells i 0 ch.mSlots).map Prod.fst ++ cells (i + 1) channels := by
  rw [cells, heightCells_cons, List.map_append, cells]

theorem acceptSlots_eq (i j : Nat) (slots : List (HWSlot F)) (a : Accepted) :
    slotCells i j (acceptSlots i j slots a).1 =
        ((slotCells i j slots).map Prod.fst).zipIdx a.zorder ∧
      (acceptSlots i j slots a).2 = ((slotCells i j slots).map Prod.fst).foldl acceptCell a := by
  induction slots generalizing j a with
  | nil => exact ⟨rfl, rfl⟩
  | cons slot slots ih =>
      simp only [acceptSlots]
      obtain ⟨hcells, hfold⟩ := ih (j + 1) (acceptSlot i j slot a).2
      rw [slotCells_cons, slotCells_cons, hcells, hfold]
      unfold acceptSlot
      -- an empty slot takes no height
      cases hlayer : slot.InputLayer with
      | none => simp [hlayer]
      | some layer => simp [List.zipIdx_cons, acceptCell]

theorem zorder_foldl (l : List (Cell F)) (a : Accepted) :
    (l.foldl acceptCell a).zorder = a.zorder + l.length := by
  induction l generalizing a with
  | nil => rfl
  | cons cell l ih =>
      rw [List.foldl_cons, ih, List.length_cons]
      simp only [acceptCell]
      omega

theorem types_foldl (l : List (Cell F)) (a : Accepted) :
    (l.foldl acceptCell a).types =
      l.foldl (fun f cell => Function.update f cell.2.id
        (if isSoildLayer cell.2 then Composition.SolidColor else .Device)) a.types := by
  induction l generalizing a with
  | nil => rfl
  | cons cell l ih => exact ih _

theorem tracks_foldl (l : List (Cell F)) (a : Accepted) :
    (l.foldl acceptCell a).Tracks =
      l.foldl (fun tracks cell => emplaceTrack tracks cell.2.id
        { FallbackReason := eHardwareLayer, Channel := some cell.1.1, Slot := cell.1.2 })
        a.Tracks := by
  induction l generalizing a with
  | nil => rfl
  | cons cell l ih => exact ih _

theorem acceptChannels_eq (i : Nat) (channels : List (HWChannel F)) (a : Accepted) :
    heightCells i (acceptChannels i channels a).1 = (cells i channels).zipIdx a.zorder ∧
      (acceptChannels i channels a).2 = (cells i channels).foldl acceptCell a := by
  induction channels generalizing i a with
  | nil => exact ⟨rfl, rfl⟩
  | cons ch channels ih =>
      obtain ⟨hslots, hfold⟩ := acceptSlots_eq i 0 ch.mSlots a
      obtain ⟨hcells, hrest⟩ := ih (i + 1) (acceptSlots i 0 ch.mSlots a).2
      constructor
      · simp only [acceptChannels]
        rw [heightCells_cons, cells_cons, List.zipIdx_append, hslots, hcells, hfold, zorder_foldl]
      · simp only [acceptChannels]
        rw [hrest, cells_cons, List.foldl_append, hfold]

/-! ## Channels and configurations -/

theorem map_video_acceptChannels (i : Nat) (channels : List (HWChannel F)) (a : Accepted) :
    (acceptChannels i channels a).1.map HWChannel.mAsVideoChannel =
      channels.map HWChannel.mAsVideoChannel := by
  induction channels generalizing i a with
  | nil => rfl
  | cons ch channels ih => simp [acceptChannels, ih]

theorem length_acceptChannels (i : Nat) (channels : List (HWChannel F)) (a : Accepted) :
    (acceptChannels i channels a).1.length = channels.length := by
  have h := congrArg List.length (map_video_acceptChannels i channels a)
  simpa using h

theorem mem_slotCells {i j : Nat} {slots : List (HWSlot F)} {layer : Layer F} {z : Nat} :
    (((i, j), layer), z) ∈ slotCells i 0 slots ↔
      ∃ slot, slots[j]? = some slot ∧ slot.InputLayer = some layer ∧ slot.Z = z := by
  unfold slotCells
  simp only [List.mem_filterMap, Option.map_eq_some_iff]
  constructor
  · rintro ⟨⟨slot, j'⟩, hmem, layer', hlayer, heq⟩
    cases heq
    exact ⟨slot, List.mk_mem_zipIdx_iff_getElem?.mp hmem, hlayer, rfl⟩
  · rintro ⟨slot, hslot, hlayer, rfl⟩
    exact ⟨(slot, j), List.mk_mem_zipIdx_iff_getElem?.mpr hslot, layer, hlayer, rfl⟩

theorem mem_heightCells {i j : Nat} {channels : List (HWChannel F)} {layer : Layer F} {z : Nat} :
    (((i, j), layer), z) ∈ heightCells 0 channels ↔
      ∃ ch slot, channels[i]? = some ch ∧ ch.mSlots[j]? = some slot ∧
        slot.InputLayer = some layer ∧ slot.Z = z := by
  unfold heightCells
  rw [List.mem_flatMap]
  constructor
  · rintro ⟨⟨ch, i'⟩, hmem, hcell⟩
    -- the cells of a channel carry its own position
    have hi : i = i' := by
      obtain ⟨p, _, hp⟩ := List.mem_filterMap.mp hcell
      obtain ⟨_, _, heq⟩ := Option.map_eq_some_iff.mp hp
      cases heq
      rfl
    subst hi
    obtain ⟨slot, hslot⟩ := mem_slotCells.mp hcell
    exact ⟨ch, slot, List.mk_mem_zipIdx_iff_getElem?.mp hmem, hslot⟩
  · rintro ⟨ch, slot, hch, hslot⟩
    exact ⟨(ch, i), List.mk_mem_zipIdx_iff_getElem?.mpr hch, mem_slotCells.mpr ⟨slot, hslot⟩⟩

/-- The enabled slots of the configurations are the cells of the channels. -/
theorem shows_iff {out : PlanningOutput F} {channels : List (HWChannel F)}
    (hout : out.Configs = channels.map HWChannel.setupChannelConfig) {i j : Nat}
    {layer : Layer F} {z : Nat} :
    out.Shows i j layer z ↔ (((i, j), layer), z) ∈ heightCells 0 channels := by
  rw [mem_heightCells, PlanningOutput.Shows, hout]
  constructor
  · rintro ⟨cfg, slot, hcfg, hslot, henable, hlayer, hz⟩
    rw [List.getElem?_map] at hcfg
    obtain ⟨ch, hch, rfl⟩ := Option.map_eq_some_iff.mp hcfg
    simp only [HWChannel.setupChannelConfig, List.getElem?_map] at hslot
    obtain ⟨hwslot, hhwslot, rfl⟩ := Option.map_eq_some_iff.mp hslot
    refine ⟨ch, hwslot, hch, hhwslot, ?_⟩
    unfold HWChannel.configSlot at henable hlayer hz
    -- `setupChannelConfig` enables the slots that hold a layer, and no others
    cases hin : hwslot.InputLayer with
    | none => simp [hin] at henable
    | some layer' =>
        simp only [hin] at hlayer hz
        exact ⟨hlayer, hz⟩
  · rintro ⟨ch, slot, hch, hslot, hlayer, hz⟩
    refine ⟨ch.setupChannelConfig, HWChannel.configSlot slot, ?_, ?_, ?_⟩
    · rw [List.getElem?_map, hch]
      rfl
    · simp only [HWChannel.setupChannelConfig, List.getElem?_map, hslot, Option.map_some]
    · simp only [HWChannel.configSlot, hlayer, hz, and_self]

theorem slotCells_heights (i j : Nat) (slots : List (HWSlot F)) :
    (slots.map HWChannel.configSlot).filterMap
        (fun slot => if slot.Enable then some slot.Z else none) =
      (slotCells i j slots).map Prod.snd := by
  induction slots generalizing j with
  | nil => rfl
  | cons slot slots ih =>
      rw [slotCells_cons, List.map_append, ← ih (j + 1), List.map_cons, List.filterMap_cons]
      unfold HWChannel.configSlot
      cases slot.InputLayer <;> rfl

theorem enabledZ_eq {out : PlanningOutput F} {channels : List (HWChannel F)}
    (hout : out.Configs = channels.map HWChannel.setupChannelConfig) :
    out.enabledZ = (heightCells 0 channels).map Prod.snd := by
  rw [PlanningOutput.enabledZ, hout]
  -- positions do not matter for heights; generalised for the induction over the channels
  clear hout
  generalize 0 = i
  induction channels generalizing i with
  | nil => rfl
  | cons ch channels ih =>
      rw [List.map_cons, List.flatMap_cons, List.filterMap_append, ih (i + 1), heightCells_cons,
        List.map_append, ← slotCells_heights]
      rfl

theorem slotCells_layers (i j : Nat) (slots : List (HWSlot F)) :
    ((slotCells i j slots).map Prod.fst).map Prod.snd = slots.filterMap HWSlot.InputLayer := by
  induction slots generalizing j with
  | nil => rfl
  | cons slot slots ih =>
      rw [slotCells_cons, List.map_append, List.map_append, ih (j + 1), List.filterMap_cons]
      cases slot.InputLayer <;> rfl

theorem map_snd_cells (i : Nat) (channels : List (HWChannel F)) :
    (cells i channels).map Prod.snd = channels.flatMap HWChannel.layers := by
  induction channels generalizing i with
  | nil => rfl
  | cons ch channels ih =>
      rw [cells_cons, List.map_append, slotCells_layers, ih (i + 1), List.flatMap_cons]
      rfl

theorem layer_of_cell {i j z : Nat} {channels : List (HWChannel F)} {layer : Layer F}
    (h : (cells 0 channels)[z]? = some ((i, j), layer)) :
    ∃ ch, channels[i]? = some ch ∧ layer ∈ ch.layers := by
  obtain ⟨⟨cell, height⟩, hmem, heq⟩ := List.mem_map.mp (List.mem_of_getElem? h)
  cases heq
  obtain ⟨ch, slot, hch, hslot, hlayer, _⟩ := mem_heightCells.mp hmem
  exact ⟨ch, hch, List.mem_filterMap.mpr ⟨slot, List.mem_of_getElem? hslot, hlayer⟩⟩

end StrategyHardwareFirst

end AwHal.Hwc
