import AwHal.Lib.Selection
import AwHal.Edid.Parses
import AwHal.Edid.VideoModes

/-!
# The YCbCr 4:2:0 capability map

Bit `k` of the map is about SVD number `k`.  The parser keeps the numbers of the set bits, and in the
end takes them for positions in `mSupportedVIC`, where the SVDs are missing that it does not recognise.
-/

namespace AwHal.Edid

open AwHal.Lib Reading

/-! ## Bits and SVDs -/

def MapBit (map : List UInt8) (k : Nat) : Prop :=
  (map[k / 8]?.map fun b => b.toNat.testBit (k % 8)) = some true

instance (map : List UInt8) (k : Nat) : Decidable (MapBit map k) :=
  inferInstanceAs (Decidable (_ = _))

def recognised (svd : UInt8) : Bool := (svdCode 1 0 svd).isSome

/-- The numbers of the SVDs that the modes were decoded from. -/
def origins (svds : List UInt8) : List Nat := svds.findIdxs recognised

/-- A mode is marked for YCbCr 4:2:0 exactly when the bit of the SVD is set that it was decoded from. -/
def MarkedBySvd (svds map : List UInt8) (vics : List VideoInformationCode) : Prop :=
  ∀ (m : Nat) (v : VideoInformationCode), vics[m]? = some v → ∃ k, (origins svds)[m]? = some k ∧
    svds[k]?.bind (svdCode 1 v.ycbcr420_sampling) = some v ∧
    (v.ycbcr420_sampling = 1 ↔ MapBit map k)

/-- For each recognised SVD, the map has the same bit at its number as at the number of recognised SVDs
before it. -/
def Aligned (svds map : List UInt8) : Prop :=
  ∀ k ∈ origins svds, MapBit map ((svds.take k).countP recognised) ↔ MapBit map k

instance (svds map : List UInt8) : Decidable (Aligned svds map) :=
  inferInstanceAs (Decidable (∀ k ∈ origins svds, _))

theorem mem_capabilityMap_iff {map : List UInt8} {k : Nat} :
    k ∈ capabilityMap map ↔ MapBit map k := by
  simp only [capabilityMap, List.mem_flatMap, List.mem_map, List.mem_filter, List.mem_range,
    MapBit, Option.map_eq_some_iff]
  constructor
  · intro h
    obtain ⟨⟨b, i⟩, hb, j, ⟨hj, hbit⟩, hk⟩ := h
    have hquot : k / 8 = i := by omega
    have hrem : k % 8 = j := by omega
    rw [hquot, hrem]
    exact ⟨b, (List.mem_zipIdx_iff_getElem? (x := (b, i))).mp hb, hbit⟩
  · intro h
    obtain ⟨b, hb, hbit⟩ := h
    exact ⟨(b, k / 8), List.mem_zipIdx_iff_getElem?.mpr hb, k % 8,
      ⟨Nat.mod_lt k (by decide), hbit⟩, by dsimp only; omega⟩

theorem svdCode_eq_map (r y : Nat) (svd : UInt8) :
    svdCode r y svd = (svdCode r 0 svd).map fun v => { v with ycbcr420_sampling := y } := by
  unfold svdCode
  dsimp only
  split
  · rfl
  · split
    · split <;> rfl
    · split <;> rfl

theorem sampling_svdCode {r y : Nat} {svd : UInt8} {v : VideoInformationCode}
    (h : svdCode r y svd = some v) : v.ycbcr420_sampling = y := by
  rw [svdCode_eq_map, Option.map_eq_some_iff] at h
  obtain ⟨v', -, hv⟩ := h
  rw [← hv]

/-! ## The update -/

def mark (v : VideoInformationCode) : VideoInformationCode := { v with ycbcr420_sampling := 1 }

theorem getElem?_update {s : EdidParser} {map : List UInt8} (hany : s.mY420SamplingAny = false)
    (hmap : s.mYCbCr420CapabilityMap = capabilityMap map) (m : Nat) :
    (updateYCbCr420CapabilityVIC s).mSupportedVIC[m]? =
      if MapBit map m then s.mSupportedVIC[m]?.map mark else s.mSupportedVIC[m]? := by
  have hvics : (updateYCbCr420CapabilityVIC s).mSupportedVIC =
      ((capabilityMap map).filter (· < s.mSupportedVIC.length)).foldl
        (fun vics pos => vics.modify pos mark) s.mSupportedVIC := by
    unfold updateYCbCr420CapabilityVIC
    rw [hany, hmap]
    dsimp only
    split <;> rfl
  rw [hvics, getElem?_foldl_modify (f := mark) fun _ => rfl]
  simp only [List.mem_filter, mem_capabilityMap_iff, decide_eq_true_eq]
  by_cases hm : m < s.mSupportedVIC.length
  · simp only [hm, and_true]
  · -- Past the end there is nothing to mark.
    rw [List.getElem?_eq_none (Nat.not_lt.mp hm)]
    simp

/-- The mode at position `m` is that of an SVD, with the mark that bit `m` gives it. -/
theorem getElem?_marked {s : EdidParser} {svds map : List UInt8}
    (hvics : s.mSupportedVIC = svds.filterMap (svdCode 1 0)) (hany : s.mY420SamplingAny = false)
    (hmap : s.mYCbCr420CapabilityMap = capabilityMap map) (m : Nat) :
    (updateYCbCr420CapabilityVIC s).mSupportedVIC[m]? =
      ((origins svds)[m]?).bind fun k =>
        svds[k]?.bind (svdCode 1 (if MapBit map m then 1 else 0)) := by
  have hmode : s.mSupportedVIC[m]? =
      ((origins svds)[m]?).bind fun k => svds[k]?.bind (svdCode 1 0) := by
    rw [hvics, getElem?_filterMap]
    rfl
  rw [getElem?_update hany hmap, hmode]
  split
  · simp only [Option.map_bind, Function.comp_def, svdCode_eq_map 1 1]
    rfl
  · rfl

/-- The modes are marked by the SVDs exactly when the map is aligned with them. -/
theorem markedBySvd_update_iff {s : EdidParser} {svds map : List UInt8}
    (hvics : s.mSupportedVIC = svds.filterMap (svdCode 1 0)) (hany : s.mY420SamplingAny = false)
    (hmap : s.mYCbCr420CapabilityMap = capabilityMap map) :
    MarkedBySvd svds map (updateYCbCr420CapabilityVIC s).mSupportedVIC ↔ Aligned svds map := by
  have hmarked := getElem?_marked hvics hany hmap
  constructor
  · intro h k hk
    obtain ⟨m, hm⟩ := List.mem_iff_getElem?.mp hk
    obtain ⟨⟨svd, hsvd, hrecognised⟩, hcount⟩ := getElem?_findIdxs_iff.mp hm
    obtain ⟨v₀, hv₀⟩ := Option.isSome_iff_exists.mp hrecognised
    have hv := hmarked m
    rw [hm, Option.bind_some, hsvd, Option.bind_some, svdCode_eq_map, hv₀, Option.map_some] at hv
    obtain ⟨k', hk', -, hbit⟩ := h m _ hv
    cases hm.symm.trans hk'
    rw [hcount, ← hbit]
    simp
  · intro h m v hv
    rw [hmarked m, Option.bind_eq_some_iff] at hv
    obtain ⟨k, hk, hfrom⟩ := hv
    obtain ⟨svd, hsvd, hcode⟩ := Option.bind_eq_some_iff.mp hfrom
    have hsampling := sampling_svdCode hcode
    have haligned := h k (List.mem_of_getElem? hk)
    rw [(getElem?_findIdxs_iff.mp hk).2] at haligned
    refine ⟨k, hk, ?_, ?_⟩
    · rw [hsampling]
      exact hfrom
    · rw [hsampling, ← haligned]
      simp

/-! ## Parses -/

variable (mem : Memory)

def resolved (depth : Nat) (s : EdidParser) : Option EdidParser :=
  (run mem.cells (parseCeaExtensionBlock depth (run mem.cells (block0 s.clear)))).map
    updateYCbCr420CapabilityVIC

variable {mem}

def Kept (s s' : EdidParser) : Prop :=
  modes s' = modes s ∧ s'.mExtensionBlockCount = s.mExtensionBlockCount

theorem Kept.trans {s s' s'' : EdidParser} (h : Kept s s') (h' : Kept s' s'') : Kept s s'' :=
  ⟨h'.1.trans h.1, h'.2.trans h.2⟩

theorem kept_parseMonitorInfo (s : EdidParser) : Kept s (run mem.cells (parseMonitorInfo s)) := by
  simp only [parseMonitorInfo, run_bind, run_pure]
  exact ⟨rfl, rfl⟩

theorem kept_parseStandardTiming (s : EdidParser) :
    Kept s (run mem.cells (parseStandardTiming s)) := by
  simp only [parseStandardTiming, run_bind, run_pure]
  exact ⟨rfl, rfl⟩

theorem kept_parseDescriptorBlock (start : Nat) (s : EdidParser) :
    Kept s (run mem.cells (parseDescriptorBlock start s)) := by
  simp only [parseDescriptorBlock, run_bind, run_ite, run_pure]
  split
  · split <;> exact ⟨rfl, rfl⟩
  · exact ⟨rfl, rfl⟩

theorem kept_block0 (s : EdidParser) : Kept s (run mem.cells (block0 s)) := by
  simp only [block0, run_bind]
  exact (kept_parseMonitorInfo s).trans <| (kept_parseStandardTiming _).trans <|
    (kept_parseDescriptorBlock _ _).trans <| (kept_parseDescriptorBlock _ _).trans <|
    (kept_parseDescriptorBlock _ _).trans <| kept_parseDescriptorBlock _ _

/-- With one capability map that is not empty, a parse marks the modes by their SVDs exactly when the
map is aligned with these. -/
theorem markedBySvd_iff_aligned {depth : Nat} {s : EdidParser} {xs : List Addr} {map : List UInt8}
    (hxs : ceaDataBlocks mem depth s.mExtensionBlockCount = some xs)
    (hmap : xs.filterMap (mapOf mem) = [map]) (hne : map ≠ []) :
    ∃ s', resolved mem depth s = some s' ∧
      (MarkedBySvd (xs.flatMap (svdsOf mem)) map s'.mSupportedVIC ↔
        Aligned (xs.flatMap (svdsOf mem)) map) := by
  have hblock0 : Kept s.clear (run mem.cells (block0 s.clear)) := kept_block0 s.clear
  obtain ⟨hmodes, hcount⟩ := hblock0
  obtain ⟨r, hwalk, rfl⟩ := Option.map_eq_some_iff.mp hxs
  have hlearns : Learns mem (parseCeaExtensionBlock depth (run mem.cells (block0 s.clear)))
      s.clear (ceaWalk mem depth s.mExtensionBlockCount) := by
    have hblock1 := @learns_parseCeaExtensionBlock mem depth (run mem.cells (block0 s.clear))
    rw [hcount] at hblock1
    exact hblock1.of_modes_eq hmodes
  rw [hwalk] at hlearns
  obtain ⟨s', hrun, -, hvics, hmap', hany⟩ := hlearns
  refine ⟨updateYCbCr420CapabilityVIC s', by rw [resolved, hrun]; rfl, ?_⟩
  rw [hmap] at hmap' hany
  apply markedBySvd_update_iff hvics
  · have hempty : map.isEmpty = false := by simpa using hne
    simpa [EdidParser.clear, hempty] using hany
  · simpa [EdidParser.clear] using hmap'

/-- Its video data block has VIC 108, which the parser does not know, before the codes 97 and 16; the
map has the bit of the second SVD. -/
def unknownVicEdid : Memory := edidWith
  [(0x7E, 1), (0x7F, 5),
    (0x80, 2), (0x81, 3), (0x82, 0x0B), (0x84, 0x43), (0x85, 0x6C), (0x86, 0x61), (0x87, 0x10),
    (0x88, 0xE2), (0x89, 0x0F), (0x8A, 0x02), (0xFF, 0xDD)]

/-- The mark goes to the third SVD. -/
theorem not_markedBySvd_unknownVicEdid :
    ¬ ∀ (mem : Memory) (depth : Nat) (s : EdidParser) (xs : List Addr) (map : List UInt8),
      IsEdid mem → ceaDataBlocks mem depth s.mExtensionBlockCount = some xs →
      xs.filterMap (mapOf mem) = [map] → map ≠ [] →
      ∃ s', resolved mem depth s = some s' ∧
        MarkedBySvd (xs.flatMap (svdsOf mem)) map s'.mSupportedVIC := by
  intro hall
  obtain ⟨s', hresolved, hmarked⟩ := hall unknownVicEdid 0 {} [⟨1, 4⟩, ⟨1, 8⟩] [0x02]
    (by decide +kernel) (by decide +kernel) (by decide +kernel) (by decide)
  have hvics : (resolved unknownVicEdid 0 {}).map (fun s => s.mSupportedVIC) =
      some [⟨97, 0, 1, 0⟩, ⟨16, 0, 1, 1⟩] := by decide +kernel
  rw [hresolved, Option.map_some, Option.some.injEq] at hvics
  obtain ⟨k, hk, -, hbit⟩ := hmarked 0 ⟨97, 0, 1, 0⟩ (by rw [hvics]; rfl)
  have hfirst : (origins ([(⟨1, 4⟩ : Addr), ⟨1, 8⟩].flatMap (svdsOf unknownVicEdid)))[0]? =
      some 1 := by decide +kernel
  rw [← Option.some.inj (hfirst.symm.trans hk)] at hbit
  exact absurd (hbit.mpr (by decide)) (by decide)

/-- The same modes and the same map, without the SVD that is not known. -/
def knownVicEdid : Memory := edidWith
  [(0x7E, 1), (0x7F, 5),
    (0x80, 2), (0x81, 3), (0x82, 0x0A), (0x84, 0x42), (0x85, 0x61), (0x86, 0x10),
    (0x87, 0xE2), (0x88, 0x0F), (0x89, 0x01), (0xFF, 0x4C)]

theorem markedBySvd_knownVicEdid :
    IsEdid knownVicEdid ∧ ∃ s', resolved knownVicEdid 0 {} = some s' ∧
      MarkedBySvd [0x61, 0x10] [0x01] s'.mSupportedVIC := by
  have hxs : ceaDataBlocks knownVicEdid 0 0 = some [⟨1, 4⟩, ⟨1, 7⟩] := by decide +kernel
  have hsvds : [(⟨1, 4⟩ : Addr), ⟨1, 7⟩].flatMap (svdsOf knownVicEdid) = [0x61, 0x10] := by
    decide +kernel
  obtain ⟨s', hresolved, hiff⟩ := @markedBySvd_iff_aligned knownVicEdid 0 {} _ [0x01] hxs
    (by decide +kernel) (by decide)
  rw [hsvds] at hiff
  exact ⟨by decide +kernel, s', hresolved, hiff.mpr (by decide)⟩

end AwHal.Edid
