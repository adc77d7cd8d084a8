import AwHal.Edid.Parses

/-!
# Invariants of a parse

What the parsers of the data blocks keep, a parse keeps: the walks only put calls of them one after the
other.  The instance here is `Advertised`, which is about the formats and the modes that a sink can have.
-/

namespace AwHal.Edid

open AwHal.Lib Reading

/-- The result of the program has the property. -/
def Yields (I : EdidParser → Prop) (mem : Memory) (p : Reader EdidParser) : Prop :=
  I (run mem.cells p)

/-- What the parsers of single data blocks keep, and the changes that the walks make themselves. -/
structure DataBlockInvariant (I : EdidParser → Prop) (mem : Memory) : Prop where
  videoDataBlock : ∀ x s, I s → Yields I mem (videoDataBlock x s)
  vendorSpecificDataBlock : ∀ x s, I s → Yields I mem (vendorSpecificDataBlock x s)
  colorimetryDataBlock : ∀ x s, I s → Yields I mem (colorimetryDataBlock x s)
  hdrStaticMetadataBlock : ∀ x s, I s → Yields I mem (hdrStaticMetadataBlock x s)
  YCbCr420VideoDataBlock : ∀ x s, I s → Yields I mem (YCbCr420VideoDataBlock x s)
  YCbCr420CapabilityMapDataBlock : ∀ x s, I s → Yields I mem (YCbCr420CapabilityMapDataBlock x s)
  vendorSpecificVideoDataBlock : ∀ x s, I s → Yields I mem (vendorSpecificVideoDataBlock x s)
  count : ∀ c s, I s → I { s with mExtensionBlockCount := c }
  extensions : ∀ n s, I s → I { s with mExtensionBlock := n }
  ceaFormats : ∀ x3 s, I s → I (ceaFormats x3 s)

/-- A result of the program has the property, if there is one. -/
def Ensures (I : EdidParser → Prop) (mem : Memory) (p : Reader (Option EdidParser)) : Prop :=
  ∀ s, run mem.cells p = some s → I s

variable {I : EdidParser → Prop} {mem : Memory}

theorem yields_pure {s : EdidParser} (h : I s) : Yields I mem (pure s) := h

theorem Yields.bind {p : Reader EdidParser} {q : EdidParser → Reader EdidParser}
    (hp : Yields I mem p) (hq : ∀ s, I s → Yields I mem (q s)) : Yields I mem (p >>= q) := by
  rw [Yields, run_bind]
  exact hq _ hp

theorem Yields.read {α : Type} {p : Reader α} {q : α → Reader EdidParser}
    (hq : ∀ a, Yields I mem (q a)) : Yields I mem (p >>= q) := by
  rw [Yields, run_bind]
  exact hq _

theorem Yields.optional {c : Prop} [Decidable c] {p : Reader EdidParser} {s : EdidParser}
    (hp : Yields I mem p) (hs : I s) : Yields I mem (if c then p else pure s) := by
  split
  · exact hp
  · exact yields_pure hs

variable {p : Reader (Option EdidParser)} {q : EdidParser → Reader (Option EdidParser)}

theorem ensures_pure {s : EdidParser} (h : I s) : Ensures I mem (pure (some s)) := by
  intro s' hs'
  cases hs'
  exact h

theorem ensures_none : Ensures I mem (pure none) := by
  intro s hs
  cases hs

theorem ensures_call {p : Reader EdidParser} (h : Yields I mem p) :
    Ensures I mem (do return some (← p)) := by
  intro s hs
  rw [run_call] at hs
  cases hs
  exact h

theorem Ensures.andThen (hp : Ensures I mem p) (hq : ∀ s, I s → Ensures I mem (q s)) :
    Ensures I mem (andThen p q) := by
  intro s hs
  rw [run_andThen, Option.bind_eq_some_iff] at hs
  obtain ⟨s', hrun, hs⟩ := hs
  exact hq s' (hp s' hrun) s hs

theorem Ensures.byte_bind {x : Addr} {i : Nat} {q : UInt8 → Reader (Option EdidParser)}
    (h : Ensures I mem (q (mem.cells (x.add i)))) : Ensures I mem (byte x i >>= q) :=
  fun s hs => h s (by rwa [run_bind, run_byte] at hs)

namespace DataBlockInvariant

variable (hI : DataBlockInvariant I mem)

include hI

theorem extendedDataBlock {hfEeodb : BlockParser}
    (hcall : ∀ x s, I s → Ensures I mem (hfEeodb x s)) (x : Addr) {s : EdidParser} (hs : I s)
    (extended : UInt8) : Ensures I mem (extendedDataBlock hfEeodb x s extended) := by
  unfold Edid.extendedDataBlock
  split
  · exact ensures_call (hI.colorimetryDataBlock x s hs)
  · split
    · exact ensures_call (hI.hdrStaticMetadataBlock x s hs)
    · split
      · exact ensures_call (hI.YCbCr420VideoDataBlock x s hs)
      · split
        · exact ensures_call (hI.YCbCr420CapabilityMapDataBlock x s hs)
        · split
          · exact hcall x s hs
          · split
            · exact ensures_call (hI.vendorSpecificVideoDataBlock x s hs)
            · exact ensures_pure hs

theorem dispatch {hfEeodb : BlockParser} (hcall : ∀ x s, I s → Ensures I mem (hfEeodb x s))
    (x : Addr) {s : EdidParser} (hs : I s) : Ensures I mem (dispatch hfEeodb x s) := by
  apply Ensures.byte_bind
  unfold taggedDataBlock
  split
  · exact ensures_call (hI.videoDataBlock x s hs)
  · split
    · exact ensures_call (hI.vendorSpecificDataBlock x s hs)
    · split
      · exact Ensures.byte_bind (hI.extendedDataBlock hcall x hs _)
      · exact ensures_pure hs

omit hI in
theorem walk {parseDataBlock : BlockParser}
    (hP : ∀ x s, I s → Ensures I mem (parseDataBlock x s)) (block offset n i : Nat)
    {s : EdidParser} (hs : I s) : Ensures I mem (walk parseDataBlock block offset n i s) := by
  induction n generalizing i s with
  | zero => exact ensures_pure hs
  | succ n ih =>
      rw [Edid.walk]
      split
      · apply (hP ⟨block, i⟩ s hs).andThen
        intro s' hs'
        exact Ensures.byte_bind (ih _ hs')
      · exact ensures_pure hs

omit hI in
theorem extensionBlock {parseDataBlock : BlockParser}
    (hP : ∀ x s, I s → Ensures I mem (parseDataBlock x s)) (b : Nat) {s : EdidParser} (hs : I s) :
    Ensures I mem (extensionBlock parseDataBlock b s) := by
  apply Ensures.byte_bind
  apply Ensures.byte_bind
  split
  · exact walk hP _ _ _ _ hs
  · exact ensures_pure hs

omit hI in
theorem extensionBlocks {parseDataBlock : BlockParser}
    (hP : ∀ x s, I s → Ensures I mem (parseDataBlock x s)) (n b : Nat) {s : EdidParser} (hs : I s) :
    Ensures I mem (extensionBlocks parseDataBlock n b s) := by
  induction n generalizing b s with
  | zero => exact ensures_pure hs
  | succ n ih =>
      rw [Edid.extensionBlocks]
      split
      · exact (extensionBlock hP b hs).andThen fun s' hs' => ih (b + 1) hs'
      · exact ensures_pure hs

theorem HfEeodbDataBlock {parseDataBlock : BlockParser}
    (hP : ∀ x s, I s → Ensures I mem (parseDataBlock x s)) (x : Addr) {s : EdidParser} (hs : I s) :
    Ensures I mem (HfEeodbDataBlock parseDataBlock x s) := by
  have hcount := hI.count (mem.cells (x.add 2)).toNat s hs
  apply Ensures.byte_bind
  dsimp only
  split
  · exact ensures_pure hcount
  · exact extensionBlocks hP 254 2 hcount

theorem parseCeaDataBlocks (depth : Nat) :
    ∀ x s, I s → Ensures I mem (parseCeaDataBlocks depth x s) := by
  induction depth with
  | zero =>
      intro x s hs
      exact hI.dispatch (fun _ _ _ => ensures_none) x hs
  | succ depth ih =>
      intro x s hs
      exact hI.dispatch (fun x s hs => hI.HfEeodbDataBlock ih x hs) x hs

theorem ceaTail {s : EdidParser} (hs : I s) : Ensures I mem (ceaTail s) := by
  have hformats := hI.ceaFormats (mem.cells ((⟨1, 0⟩ : Addr).add 3)) s hs
  intro s' hs'
  by_cases hversion : 2 ≤ mem.cells ((⟨1, 0⟩ : Addr).add 1)
  · have hrun : run mem.cells (Edid.ceaTail s) =
        some (Edid.ceaFormats (mem.cells ((⟨1, 0⟩ : Addr).add 3)) s) := by
      simp [Edid.ceaTail, hversion]
    cases hrun.symm.trans hs'
    exact hformats
  · have hrun : run mem.cells (Edid.ceaTail s) = some s := by simp [Edid.ceaTail, hversion]
    cases hrun.symm.trans hs'
    exact hs

theorem parseCeaExtensionBlock (depth : Nat) {s : EdidParser} (hs : I s) :
    Ensures I mem (parseCeaExtensionBlock depth s) := by
  have hext := hI.extensions (mem.cells ((⟨0, 0x7E⟩ : Addr).add 0)).toNat s hs
  apply Ensures.byte_bind
  dsimp only
  split
  · exact ensures_pure hext
  · apply Ensures.byte_bind
    split
    · exact ensures_pure hext
    · exact (extensionBlock (hI.parseCeaDataBlocks depth) 1 hext).andThen fun _ => hI.ceaTail

end DataBlockInvariant

/-! ## What a sink can advertise -/

/-- RGB is listed, modes that are for YCbCr 4:2:0 only come with that format, and no other mode is marked
for it yet. -/
structure Advertised (s : EdidParser) : Prop where
  rgb : (s.mSupportedFormat .RGB).isSome
  y420 : s.mY420VIC ≠ [] → (s.mSupportedFormat .YUV420).isSome
  unmarked : ∀ v ∈ s.mSupportedVIC, v.ycbcr420_sampling = 0

variable {s s' : EdidParser}

theorem isSome_setVideoFormat {f g : VideoFmt} {fmt : VideoFormat}
    (h : (s.mSupportedFormat g).isSome) : ((s.setVideoFormat f fmt).mSupportedFormat g).isSome := by
  show (if g = f then some fmt else s.mSupportedFormat g).isSome
  split
  · rfl
  · exact h

theorem isSome_addVideoFormat_self (s : EdidParser) (f : VideoFmt) :
    ((s.addVideoFormat f).mSupportedFormat f).isSome := by
  show (if f = f then some (s.getVideoFormat f) else s.mSupportedFormat f).isSome
  rw [if_pos rfl]
  rfl

namespace Advertised

theorem of_eq (h : Advertised s) (hformats : s'.mSupportedFormat = s.mSupportedFormat)
    (hy420 : s'.mY420VIC = s.mY420VIC) (hvics : s'.mSupportedVIC = s.mSupportedVIC) :
    Advertised s' := by
  constructor
  · rw [hformats]
    exact h.rgb
  · rw [hformats, hy420]
    exact h.y420
  · rw [hvics]
    exact h.unmarked

theorem setVideoFormat (h : Advertised s) (f : VideoFmt) (fmt : VideoFormat) :
    Advertised (s.setVideoFormat f fmt) where
  rgb := isSome_setVideoFormat h.rgb
  y420 hne := isSome_setVideoFormat (h.y420 hne)
  unmarked := h.unmarked

theorem ite {c : Prop} [Decidable c] (h : Advertised s) (h' : Advertised s') :
    Advertised (if c then s else s') := by
  split
  · exact h
  · exact h'

theorem deepColor (h : Advertised s) (x6 : UInt8) : Advertised (deepColor x6 s) := by
  unfold Edid.deepColor
  exact ite ((h.setVideoFormat _ _).setVideoFormat _ _) (h.setVideoFormat _ _)

theorem ceaFormats (h : Advertised s) (x3 : UInt8) : Advertised (ceaFormats x3 s) := by
  have hyuv444 : Advertised
      (if x3 &&& 0x20 ≠ 0 then { s.addVideoFormat .YUV444 with mRGBOnly := false } else s) :=
    ite ((h.setVideoFormat _ _).of_eq rfl rfl rfl) h
  unfold Edid.ceaFormats
  exact ite ((hyuv444.setVideoFormat _ _).of_eq rfl rfl rfl) hyuv444

theorem hdmi1p4VSDB (h : Advertised s) (x : Addr) : Yields Advertised mem (hdmi1p4VSDB x s) := by
  unfold Edid.hdmi1p4VSDB
  apply Yields.read
  intro header
  apply Yields.bind
  · exact Yields.optional (Yields.read fun x6 => h.deepColor x6) h
  · intro s h
    apply Yields.bind
    · exact Yields.optional (Yields.read fun x7 => h.of_eq rfl rfl rfl) h
    · intro s h
      refine Yields.optional (Yields.read fun x8 => Yields.optional (Yields.read fun field => ?_) h) h
      apply Yields.bind
      · apply Yields.optional _ h
        unfold hdmi4k2kVICParse
        split
        · exact yields_pure h
        · exact Yields.read fun codes => h.of_eq rfl rfl rfl
      · intro s h
        exact Yields.read fun present => Yields.optional (h.of_eq rfl rfl rfl) h

theorem vendorSpecificDataBlock (h : Advertised s) (x : Addr) :
    Yields Advertised mem (vendorSpecificDataBlock x s) := by
  unfold Edid.vendorSpecificDataBlock
  apply Yields.read
  intro x3
  apply Yields.read
  intro x2
  apply Yields.read
  intro x1
  split
  · exact (h.hdmi1p4VSDB x).bind fun s h => yields_pure (h.of_eq rfl rfl rfl)
  · split
    · apply Yields.bind
      · unfold hdmi2p0VSDB
        apply Yields.read
        intro x5
        apply Yields.read
        intro x7
        apply yields_pure
        apply setVideoFormat
        exact h.of_eq rfl rfl rfl
      · intro s h
        exact yields_pure (h.of_eq rfl rfl rfl)
    · exact yields_pure h

theorem hdrStaticMetadataBlock (h : Advertised s) (x : Addr) :
    Yields Advertised mem (hdrStaticMetadataBlock x s) := by
  unfold Edid.hdrStaticMetadataBlock
  apply Yields.read
  intro header
  apply Yields.bind
  · exact Yields.optional (Yields.read fun x2 => Yields.read fun x3 => h.of_eq rfl rfl rfl) h
  · intro s h
    apply Yields.bind
    · exact Yields.optional (Yields.read fun x4 => h.of_eq rfl rfl rfl) h
    · intro s h
      apply Yields.bind
      · exact Yields.optional (Yields.read fun x5 => h.of_eq rfl rfl rfl) h
      · intro s h
        exact Yields.optional (Yields.read fun x6 => h.of_eq rfl rfl rfl) h

end Advertised

theorem unmarked_svdCode {svd : UInt8} {y : Nat} {v : VideoInformationCode}
    (h : svdCode 1 y svd = some v) : v.ycbcr420_sampling = y := by
  unfold svdCode at h
  split at h
  · cases h
  · dsimp only at h
    split at h
    all_goals split at h
    all_goals cases h
    all_goals rfl

theorem advertised_dataBlockInvariant (mem : Memory) : DataBlockInvariant Advertised mem where
  videoDataBlock x s h := by
    apply Yields.read
    intro header
    simp only [Yields, ceaSvd, run_bind, run_pure]
    constructor
    · exact h.rgb
    · exact h.y420
    · intro v hv
      rcases List.mem_append.mp hv with hv | hv
      · exact h.unmarked v hv
      · obtain ⟨svd, -, hsvd⟩ := List.mem_filterMap.mp hv
        exact unmarked_svdCode hsvd
  vendorSpecificDataBlock x s h := h.vendorSpecificDataBlock x
  colorimetryDataBlock x s h := by
    apply Yields.read
    intro header
    exact Yields.optional (Yields.read fun x2 => h.of_eq rfl rfl rfl) h
  hdrStaticMetadataBlock x s h := h.hdrStaticMetadataBlock x
  YCbCr420VideoDataBlock x s h := by
    apply Yields.read
    intro header
    apply Yields.read
    intro codes
    apply yields_pure
    constructor
    · exact isSome_setVideoFormat h.rgb
    · exact fun _ => isSome_addVideoFormat_self _ _
    · exact h.unmarked
  YCbCr420CapabilityMapDataBlock x s h := by
    apply Yields.read
    intro header
    dsimp only
    split
    · exact yields_pure (h.of_eq rfl rfl rfl)
    · exact Yields.read fun maps => yields_pure (h.of_eq rfl rfl rfl)
  vendorSpecificVideoDataBlock x s h := by
    apply Yields.read
    intro x4
    apply Yields.read
    intro x3
    apply Yields.read
    intro x2
    exact Yields.optional (Yields.read fun x5 => h.of_eq rfl rfl rfl) h
  count c s h := h.of_eq rfl rfl rfl
  extensions n s h := h.of_eq rfl rfl rfl
  ceaFormats x3 s h := h.ceaFormats x3

/-! ## After a parse -/

/-- What the parser knows of the formats after a parse: RGB is listed, and a mode that can be shown in
YCbCr 4:2:0 comes with that format. -/
structure Consistent (s : EdidParser) : Prop where
  rgb : (s.mSupportedFormat .RGB).isSome
  y420 : s.mY420VIC ≠ [] ∨ (∃ v ∈ s.mSupportedVIC, v.ycbcr420_sampling ≠ 0) →
    (s.mSupportedFormat .YUV420).isSome

theorem Consistent.correctTmds (h : Consistent s) : Consistent (correctTmds s) := by
  constructor
  · exact h.rgb
  · intro hmode
    apply h.y420
    rcases hmode with hne | ⟨v, hv, hmarked⟩
    · left
      intro hnil
      apply hne
      show s.mY420VIC.filter _ = []
      rw [hnil, List.filter_nil]
    · exact .inr ⟨v, List.mem_of_mem_filter hv, hmarked⟩

theorem Advertised.consistent (h : Advertised s) : Consistent (updateYCbCr420CapabilityVIC s) := by
  unfold updateYCbCr420CapabilityVIC
  dsimp only
  split
  · constructor
    · exact isSome_setVideoFormat h.rgb
    · exact fun _ => isSome_addVideoFormat_self _ _
  · -- then no mode is marked
    rename_i hnone
    rw [Bool.or_eq_true, not_or, Bool.not_eq_true, Bool.not_eq_true, Bool.not_eq_false',
      List.isEmpty_iff] at hnone
    obtain ⟨hany, hknown⟩ := hnone
    rw [hknown, hany]
    constructor
    · exact h.rgb
    · intro hmode
      apply h.y420
      rcases hmode with hne | ⟨v, hv, hmarked⟩
      · exact hne
      · exact absurd (h.unmarked v hv) hmarked

theorem advertised_block0 (mem : Memory) (s : EdidParser) :
    Yields Advertised mem (block0 s.clear) := by
  have htiming (s : EdidParser) (h : Advertised s) : Yields Advertised mem (parseStandardTiming s) :=
    Yields.read fun data => h.of_eq rfl rfl rfl
  have hdescriptor (start : Nat) (s : EdidParser) (h : Advertised s) :
      Yields Advertised mem (parseDescriptorBlock start s) := by
    unfold parseDescriptorBlock
    refine Yields.read fun x0 => Yields.read fun x1 => Yields.read fun x2 => ?_
    split
    · apply Yields.read
      intro x3
      split
      · exact yields_pure h
      · exact Yields.read fun tmp => h.of_eq rfl rfl rfl
    · exact Yields.read fun x4 => Yields.read fun x5 => Yields.read fun x7 => Yields.read fun x17 =>
        h.of_eq rfl rfl rfl
  have hmonitor : Yields Advertised mem (parseMonitorInfo s.clear) := by
    simp only [Yields, parseMonitorInfo, run_bind, run_pure]
    constructor
    · exact isSome_addVideoFormat_self _ _
    · exact fun hne => absurd rfl hne
    · exact List.forall_mem_nil _
  refine hmonitor.bind fun s h => (htiming s h).bind fun s h => (hdescriptor _ s h).bind fun s h =>
    (hdescriptor _ s h).bind fun s h => (hdescriptor _ s h).bind fun s h => hdescriptor _ s h

/-- A parse that succeeds leaves formats and modes that go together. -/
theorem parse_consistent {depth : Nat} (h : run mem.cells (parse depth s) = some (0, s')) :
    Consistent s' := by
  have hsome : (run mem.cells (parse depth s)).isSome := by
    rw [h]
    rfl
  have hedid : IsEdid mem := (parse_succeeds_iff hsome).mp ⟨s', h⟩
  rw [run_parse_of_isEdid mem hedid, Option.map_eq_some_iff] at h
  obtain ⟨s'', hcea, heq⟩ := h
  cases heq
  have hadvertised := (advertised_dataBlockInvariant mem).parseCeaExtensionBlock depth
    (advertised_block0 mem s) s'' hcea
  exact hadvertised.consistent.correctTmds

end AwHal.Edid
