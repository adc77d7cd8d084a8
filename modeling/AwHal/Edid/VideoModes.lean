import AwHal.Edid.Parses

/-!
# The video modes of a parse

A parse comes to data blocks in an order that its HF-EEODBs have a part in.  What it knows of the video
modes in the end is told by the video data blocks and the capability maps among them.
-/

namespace AwHal.Edid

open AwHal.Lib Reading

variable (mem : Memory)

/-! ## The data blocks of a parse -/

/-- The data blocks that a walk through the positions `is` comes to, without the HF-EEODBs, and the
count that is stored in the end. -/
def walkedDataBlocks (follow : Nat → Option (Nat × List Addr)) (block : Nat) :
    List Nat → Nat → Option (Nat × List Addr)
  | [], c => some (c, [])
  | i :: is, c =>
      (if IsHfEeodb mem ⟨block, i⟩ then follow (hfCount mem ⟨block, i⟩)
        else some (c, [⟨block, i⟩])).bind fun r =>
      (walkedDataBlocks follow block is r.1).map fun r' => (r'.1, r.2 ++ r'.2)

/-- The data blocks of the extension blocks from `b` on, with at most `n` of these. -/
def namedDataBlocks (follow : Nat → Option (Nat × List Addr)) :
    Nat → Nat → Nat → Option (Nat × List Addr)
  | 0, _, c => some (c, [])
  | n + 1, b, c =>
      if b ≤ c then
        (walkedDataBlocks mem follow b (dataBlocks mem b) c).bind fun r =>
        (namedDataBlocks follow n (b + 1) r.1).map fun r' => (r'.1, r.2 ++ r'.2)
      else some (c, [])

def followedDataBlocks : Nat → Nat → Option (Nat × List Addr)
  | 0, _ => none
  | depth + 1, k =>
      if Valid k then namedDataBlocks mem (followedDataBlocks depth) 254 2 k else some (k, [])

def ceaWalk (depth c : Nat) : Option (Nat × List Addr) :=
  if mem.cells ⟨0, 0x7E⟩ ≠ 0 ∧ mem.cells ⟨1, 0⟩ = 0x2 then
    walkedDataBlocks mem (followedDataBlocks mem depth) 1 (dataBlocks mem 1) c
  else some (c, [])

/-- The data blocks of a parse in the order in which it comes to them, or none when the parse has no
result; `c` is the count that an earlier parse has left. -/
def ceaDataBlocks (depth c : Nat) : Option (List Addr) := (ceaWalk mem depth c).map Prod.snd

/-! ## What they say about the video modes -/

def cellsOf (x : Addr) (i n : Nat) : List UInt8 := (List.range' i n).map fun j => mem.cells (x.add j)

def svdsOf (x : Addr) : List UInt8 :=
  if (mem.cells (x.add 0) &&& 0xE0) >>> 5 = VIDEO_DATA_BLOCK then cellsOf mem x 1 (payload mem x)
  else []

def mapOf (x : Addr) : Option (List UInt8) :=
  if (mem.cells (x.add 0) &&& 0xE0) >>> 5 = EXTENDED_TAG ∧
      mem.cells (x.add 1) = YCBCR420_CAPABILITY_MAP_DATA_BLOCK ∧ 0 < payload mem x then
    some (cellsOf mem x 2 (payload mem x - 1))
  else none

/-- What the data blocks `xs` do to the members for the video modes. -/
structure Learned (s s' : EdidParser) (xs : List Addr) : Prop where
  vics : s'.mSupportedVIC = s.mSupportedVIC ++ (xs.flatMap (svdsOf mem)).filterMap (svdCode 1 0)
  map : s'.mYCbCr420CapabilityMap =
    s.mYCbCr420CapabilityMap ++ (xs.filterMap (mapOf mem)).flatMap capabilityMap
  any : s'.mY420SamplingAny = (s.mY420SamplingAny || (xs.filterMap (mapOf mem)).any List.isEmpty)

def modes (s : EdidParser) : List VideoInformationCode × List Nat × Bool :=
  (s.mSupportedVIC, s.mYCbCr420CapabilityMap, s.mY420SamplingAny)

variable {mem} {x : Addr} {s s' s'' : EdidParser} {xs ys : List Addr}

theorem Learned.of_modes_eq (h : modes s' = modes s) : Learned mem s s' [] := by
  simp only [modes, Prod.mk.injEq] at h
  obtain ⟨hvics, hmap, hany⟩ := h
  exact ⟨by simp [hvics], by simp [hmap], by simp [hany]⟩

theorem Learned.of_silent (h : modes s' = modes s) (hsvds : svdsOf mem x = [])
    (hmap : mapOf mem x = none) : Learned mem s s' [x] := by
  have hsame : Learned mem s s' [] := of_modes_eq h
  obtain ⟨hvics, hmap', hany⟩ := hsame
  exact ⟨by simp [hvics, hsvds], by simp [hmap', hmap], by simp [hany, hmap]⟩

theorem Learned.append (h : Learned mem s s' xs) (h' : Learned mem s' s'' ys) :
    Learned mem s s'' (xs ++ ys) := by
  obtain ⟨hvics, hmap, hany⟩ := h
  obtain ⟨hvics', hmap', hany'⟩ := h'
  constructor
  · rw [hvics', hvics]
    simp
  · rw [hmap', hmap]
    simp
  · rw [hany', hany]
    simp [Bool.or_assoc]

/-! ## The parsers of data blocks -/

theorem run_bytes (i n : Nat) : run mem.cells (bytes x i n) = cellsOf mem x i n := by
  induction n generalizing i with
  | zero => rfl
  | succ n ih =>
      simp only [bytes, run_bind, run_byte, run_pure, ih]
      rfl

theorem run_bytes_add (a i n : Nat) :
    run mem.cells (bytes (x.add a) i n) = cellsOf mem x (a + i) n := by
  rw [run_bytes, cellsOf, cellsOf, ← List.map_add_range', List.map_map]
  simp [Function.comp_def, Addr.add, Nat.add_assoc]

theorem learned_videoDataBlock
    (h : (mem.cells (x.add 0) &&& 0xE0) >>> 5 = VIDEO_DATA_BLOCK) :
    Learned mem s (run mem.cells (videoDataBlock x s)) [x] := by
  have hsvds : svdsOf mem x = cellsOf mem x 1 (payload mem x) := if_pos h
  have hmap : mapOf mem x = none := if_neg fun hmap => absurd (h.symm.trans hmap.1) (by decide)
  have hrun : run mem.cells (videoDataBlock x s) =
      { s with mSupportedVIC :=
          s.mSupportedVIC ++ (cellsOf mem x 1 (payload mem x)).filterMap (svdCode 1 0) } := by
    simp only [videoDataBlock, ceaSvd, run_bind, run_byte, run_pure, run_bytes_add, toNat_header,
      Nat.add_zero]
  rw [hrun]
  exact ⟨by simp [hsvds], by simp [hmap], by simp [hmap]⟩

theorem learned_capabilityMap
    (htag : (mem.cells (x.add 0) &&& 0xE0) >>> 5 = EXTENDED_TAG)
    (hextended : mem.cells (x.add 1) = YCBCR420_CAPABILITY_MAP_DATA_BLOCK) :
    Learned mem s (run mem.cells (YCbCr420CapabilityMapDataBlock x s)) [x] := by
  have hsvds : svdsOf mem x = [] := if_neg fun h => absurd (htag.symm.trans h) (by decide)
  have hone : mem.cells (x.add 0) &&& 0x1F = 1 ↔ payload mem x = 1 := by
    rw [← UInt8.toNat_inj, toNat_header, UInt8.toNat_one]
  have hrun : run mem.cells (YCbCr420CapabilityMapDataBlock x s) =
      if payload mem x = 1 then { s with mY420SamplingAny := true }
      else { s with mYCbCr420CapabilityMap :=
          s.mYCbCr420CapabilityMap ++ capabilityMap (cellsOf mem x 2 (payload mem x - 1)) } := by
    simp only [YCbCr420CapabilityMapDataBlock, run_bind, run_ite, run_pure]
    simp only [run_byte, run_bytes, toNat_header, hone]
  rw [hrun]
  rcases Nat.lt_or_ge 0 (payload mem x) with hpos | hzero
  · have hmap : mapOf mem x = some (cellsOf mem x 2 (payload mem x - 1)) :=
      if_pos ⟨htag, hextended, hpos⟩
    by_cases hlength : payload mem x = 1
    · have hnil : cellsOf mem x 2 (payload mem x - 1) = [] := by rw [hlength]; rfl
      rw [if_pos hlength]
      exact ⟨by simp [hsvds], by simp [hmap, hnil, capabilityMap], by simp [hmap, hnil]⟩
    · have hne : cellsOf mem x 2 (payload mem x - 1) ≠ [] := by
        rw [cellsOf, ne_eq, List.map_eq_nil_iff, List.range'_eq_nil_iff]
        omega
      rw [if_neg hlength]
      exact ⟨by simp [hsvds], by simp [hmap], by simp [hmap, hne]⟩
  · -- A header alone: the tag is the header of the next data block.
    have hlength : payload mem x = 0 := Nat.le_zero.mp hzero
    have hmap : mapOf mem x = none := if_neg fun h => absurd h.2.2 (Nat.not_lt.mpr hzero)
    rw [if_neg (by omega), hlength]
    exact ⟨by simp [hsvds], by simp [hmap, cellsOf, capabilityMap], by simp [hmap]⟩

/-! The other parsers do nothing to these members. -/

theorem modes_YCbCr420VideoDataBlock :
    modes (run mem.cells (YCbCr420VideoDataBlock x s)) = modes s := by
  simp only [YCbCr420VideoDataBlock, run_bind, run_pure]
  rfl

theorem modes_colorimetryDataBlock :
    modes (run mem.cells (colorimetryDataBlock x s)) = modes s := by
  simp only [colorimetryDataBlock, run_bind, run_ite, run_pure]
  split <;> rfl

theorem modes_hdrStaticMetadataBlock :
    modes (run mem.cells (hdrStaticMetadataBlock x s)) = modes s := by
  simp only [hdrStaticMetadataBlock, run_bind, run_ite, run_pure]
  split <;> split <;> split <;> split <;> rfl

theorem modes_vendorSpecificVideoDataBlock :
    modes (run mem.cells (vendorSpecificVideoDataBlock x s)) = modes s := by
  simp only [vendorSpecificVideoDataBlock, run_bind, run_ite, run_pure]
  split <;> rfl

theorem modes_deepColor (x6 : UInt8) : modes (deepColor x6 s) = modes s := by
  unfold deepColor
  dsimp only
  split <;> rfl

theorem modes_hdmi4k2kVICParse (size : Nat) :
    modes (run mem.cells (hdmi4k2kVICParse x size s)) = modes s := by
  simp only [hdmi4k2kVICParse, run_ite, run_bind, run_pure]
  split <;> rfl

theorem modes_tmds1p4 (rate : Nat) : modes { s with mMaxTmdsCharacterRate1p4 := rate } = modes s := rfl

theorem modes_3Dpresent : modes { s with m3Dpresent := true } = modes s := rfl

theorem modes_hdmi1p4VSDB : modes (run mem.cells (hdmi1p4VSDB x s)) = modes s := by
  simp only [hdmi1p4VSDB, run_bind, run_ite, run_pure, apply_ite modes, modes_hdmi4k2kVICParse,
    modes_deepColor, modes_tmds1p4, modes_3Dpresent, ite_self]

theorem modes_vendorSpecificDataBlock :
    modes (run mem.cells (vendorSpecificDataBlock x s)) = modes s := by
  simp only [vendorSpecificDataBlock, run_bind, run_ite, run_pure]
  split
  · exact modes_hdmi1p4VSDB
  · split <;> rfl

/-! ## The dispatcher -/

theorem learned_extendedDataBlock {hfEeodb : BlockParser}
    (htag : (mem.cells (x.add 0) &&& 0xE0) >>> 5 = EXTENDED_TAG)
    (hother : mem.cells (x.add 1) ≠ HF_EEODB_DATA_BLOCK)
    (h : run mem.cells (extendedDataBlock hfEeodb x s (mem.cells (x.add 1))) = some s') :
    Learned mem s s' [x] := by
  have hsvds : svdsOf mem x = [] := if_neg fun h => absurd (htag.symm.trans h) (by decide)
  have hplain (hmap : mem.cells (x.add 1) ≠ YCBCR420_CAPABILITY_MAP_DATA_BLOCK)
      (hmodes : modes s' = modes s) : Learned mem s s' [x] :=
    Learned.of_silent hmodes hsvds (if_neg fun h => hmap h.2.1)
  unfold extendedDataBlock at h
  split at h
  · rename_i hextended
    rw [run_call] at h
    cases h
    exact hplain (by rw [hextended]; decide) modes_colorimetryDataBlock
  · split at h
    · rename_i hextended
      rw [run_call] at h
      cases h
      exact hplain (by rw [hextended]; decide) modes_hdrStaticMetadataBlock
    · split at h
      · rename_i hextended
        rw [run_call] at h
        cases h
        exact hplain (by rw [hextended]; decide) modes_YCbCr420VideoDataBlock
      · split at h
        · rename_i hextended
          rw [run_call] at h
          cases h
          exact learned_capabilityMap htag hextended
        · rename_i hmap
          split at h
          · rw [run_call] at h
            cases h
            exact hplain hmap modes_vendorSpecificVideoDataBlock
          · cases h
            exact hplain hmap rfl

theorem learned_dispatch {hfEeodb : BlockParser} (hother : ¬ IsHfEeodb mem x)
    (h : run mem.cells (dispatch hfEeodb x s) = some s') : Learned mem s s' [x] := by
  rw [dispatch, run_bind, run_byte] at h
  have hplain (hvideo : (mem.cells (x.add 0) &&& 0xE0) >>> 5 ≠ VIDEO_DATA_BLOCK)
      (hextended : (mem.cells (x.add 0) &&& 0xE0) >>> 5 ≠ EXTENDED_TAG)
      (hmodes : modes s' = modes s) : Learned mem s s' [x] :=
    Learned.of_silent hmodes (if_neg hvideo) (if_neg fun h => hextended h.1)
  unfold taggedDataBlock at h
  split at h
  · rename_i htag
    rw [run_call] at h
    cases h
    exact learned_videoDataBlock htag
  · rename_i hvideo
    split at h
    · rename_i htag
      rw [run_call] at h
      cases h
      exact hplain hvideo (by rw [htag]; decide) modes_vendorSpecificDataBlock
    · split at h
      · rename_i htag
        rw [run_bind, run_byte] at h
        exact learned_extendedDataBlock htag (fun hextended => hother ⟨htag, hextended⟩) h
      · rename_i htag
        cases h
        exact hplain hvideo htag rfl

/-! ## Walks -/

/-- The program has a result when the walk has, with the same count, and what it does to the members for
the video modes is told by the data blocks that the walk lists. -/
def Learns (mem : Memory) (p : Reader (Option EdidParser)) (s : EdidParser) :
    Option (Nat × List Addr) → Prop
  | none => run mem.cells p = none
  | some (c, xs) =>
      ∃ s', run mem.cells p = some s' ∧ s'.mExtensionBlockCount = c ∧ Learned mem s s' xs

theorem Learns.of_modes_eq {p : Reader (Option EdidParser)} {walk : Option (Nat × List Addr)}
    (hp : Learns mem p s' walk) (h : modes s' = modes s) : Learns mem p s walk := by
  cases walk with
  | none => exact hp
  | some r =>
      obtain ⟨s'', hrun, hcount, hlearned⟩ := hp
      exact ⟨s'', hrun, hcount, (Learned.of_modes_eq h).append hlearned⟩

theorem Learns.pure {c : Nat} (hcount : s.mExtensionBlockCount = c) :
    Learns mem (Pure.pure (some s)) s (some (c, [])) :=
  ⟨s, rfl, hcount, Learned.of_modes_eq rfl⟩

theorem Learns.andThen {p : Reader (Option EdidParser)}
    {q : EdidParser → Reader (Option EdidParser)} {walk : Option (Nat × List Addr)}
    {next : Nat → Option (Nat × List Addr)} (hp : Learns mem p s walk)
    (hq : ∀ s', Learns mem (q s') s' (next s'.mExtensionBlockCount)) :
    Learns mem (Edid.andThen p q) s
      (walk.bind fun r => (next r.1).map fun r' => (r'.1, r.2 ++ r'.2)) := by
  cases walk with
  | none =>
      show run mem.cells (Edid.andThen p q) = none
      rw [run_andThen, show run mem.cells p = none from hp]
      rfl
  | some r =>
      obtain ⟨s', hrun, hcount, hlearned⟩ := hp
      have hnext := hq s'
      rw [hcount] at hnext
      rw [Option.bind_some]
      cases hnext' : next r.1 with
      | none =>
          rw [hnext'] at hnext
          show run mem.cells (Edid.andThen p q) = none
          rw [run_andThen, hrun]
          exact hnext
      | some r' =>
          rw [hnext'] at hnext
          obtain ⟨s'', hrun', hcount', hlearned'⟩ := hnext
          refine ⟨s'', ?_, hcount', hlearned.append hlearned'⟩
          rw [run_andThen, hrun]
          exact hrun'

theorem Learns.andThen_silent {p : Reader (Option EdidParser)}
    {q : EdidParser → Reader (Option EdidParser)} {walk : Option (Nat × List Addr)}
    (hp : Learns mem p s walk)
    (hq : ∀ s', Learns mem (q s') s' (some (s'.mExtensionBlockCount, []))) :
    Learns mem (Edid.andThen p q) s walk := by
  have hthen := @Learns.andThen mem s p q walk (fun c => some (c, [])) hp hq
  simpa using hthen

theorem Learns.byte_bind {i : Nat} {q : UInt8 → Reader (Option EdidParser)}
    {walk : Option (Nat × List Addr)} (h : Learns mem (q (mem.cells (x.add i))) s walk) :
    Learns mem (byte x i >>= q) s walk := by
  cases walk with
  | none => exact (run_bind mem.cells _ q).trans h
  | some r =>
      obtain ⟨s', hrun, hcount, hlearned⟩ := h
      exact ⟨s', (run_bind mem.cells _ q).trans hrun, hcount, hlearned⟩

/-- The parser of data blocks does with an HF-EEODB what `f` does with its count, and with another data
block what that says. -/
def LearnsBy (mem : Memory) (parseDataBlock : BlockParser) (f : Nat → Option (Nat × List Addr)) :
    Prop :=
  ∀ x s, Learns mem (parseDataBlock x s) s
    (if IsHfEeodb mem x then f (hfCount mem x) else some (s.mExtensionBlockCount, [x]))

variable {parseDataBlock : BlockParser} {f : Nat → Option (Nat × List Addr)}

theorem LearnsBy.walk (hP : LearnsBy mem parseDataBlock f) (block offset n i : Nat)
    (s : EdidParser) :
    Learns mem (walk parseDataBlock block offset n i s) s
      (walkedDataBlocks mem f block (positions mem block offset n i) s.mExtensionBlockCount) := by
  induction n generalizing i s with
  | zero => exact Learns.pure rfl
  | succ n ih =>
      rw [Edid.walk, positions]
      split
      · rw [walkedDataBlocks]
        apply (hP ⟨block, i⟩ s).andThen
        intro s'
        exact Learns.byte_bind (ih (i + (payload mem ⟨block, i⟩ + 1)) s')
      · exact Learns.pure rfl

theorem LearnsBy.extensionBlock (hP : LearnsBy mem parseDataBlock f) (b : Nat) (s : EdidParser) :
    Learns mem (extensionBlock parseDataBlock b s) s
      (walkedDataBlocks mem f b (dataBlocks mem b) s.mExtensionBlockCount) := by
  have hwalk : Learns mem
      (if mem.cells ⟨b, 1⟩ = 3 then
        Edid.walk parseDataBlock b (mem.cells ⟨b, 2⟩).toNat (mem.cells ⟨b, 2⟩).toNat 4 s
      else pure (some s)) s
      (walkedDataBlocks mem f b (dataBlocks mem b) s.mExtensionBlockCount) := by
    unfold dataBlocks
    dsimp only
    split
    · exact hP.walk b _ _ 4 s
    · exact Learns.pure rfl
  exact Learns.byte_bind (x := ⟨b, 0⟩) (i := 1) (Learns.byte_bind (i := 2) hwalk)

theorem LearnsBy.extensionBlocks (hP : LearnsBy mem parseDataBlock f) (n b : Nat)
    (s : EdidParser) :
    Learns mem (extensionBlocks parseDataBlock n b s) s
      (namedDataBlocks mem f n b s.mExtensionBlockCount) := by
  induction n generalizing b s with
  | zero => exact Learns.pure rfl
  | succ n ih =>
      rw [Edid.extensionBlocks, namedDataBlocks]
      split
      · exact (hP.extensionBlock b s).andThen fun s' => ih (b + 1) s'
      · exact Learns.pure rfl

theorem LearnsBy.HfEeodbDataBlock (hP : LearnsBy mem parseDataBlock f) (x : Addr)
    (s : EdidParser) :
    Learns mem (HfEeodbDataBlock parseDataBlock x s) s
      (if Valid (hfCount mem x) then namedDataBlocks mem f 254 2 (hfCount mem x)
        else some (hfCount mem x, [])) := by
  let s' : EdidParser := { s with mExtensionBlockCount := hfCount mem x }
  have hwalk : Learns mem
      (if hfCount mem x < 2 ∨ EDID_MAX_BLOCK_COUNT ≤ hfCount mem x then pure (some s')
        else Edid.extensionBlocks parseDataBlock 254 2 s') s'
      (if Valid (hfCount mem x) then namedDataBlocks mem f 254 2 (hfCount mem x)
        else some (hfCount mem x, [])) := by
    by_cases hvalid : Valid (hfCount mem x)
    · rw [if_pos hvalid, if_neg fun hstop => stops_iff_not_valid.mp hstop hvalid]
      exact hP.extensionBlocks 254 2 s'
    · rw [if_neg hvalid, if_pos (stops_iff_not_valid.mpr hvalid)]
      exact Learns.pure rfl
  exact Learns.byte_bind (hwalk.of_modes_eq rfl)

theorem LearnsBy.dispatch {hfEeodb : BlockParser}
    (h : ∀ x s, Learns mem (hfEeodb x s) s (f (hfCount mem x))) :
    LearnsBy mem (dispatch hfEeodb) f := by
  intro x s
  by_cases hhf : IsHfEeodb mem x
  · have hcall := h x s
    have hrun := (dispatch_hfEeodb mem hfEeodb s hhf).1
    rw [if_pos hhf]
    cases hnext : f (hfCount mem x) with
    | none =>
        rw [hnext] at hcall
        exact hrun.trans hcall
    | some r =>
        rw [hnext] at hcall
        obtain ⟨s', hrun', hcount, hlearned⟩ := hcall
        exact ⟨s', hrun.trans hrun', hcount, hlearned⟩
  · obtain ⟨⟨s', hrun, hcount⟩, -⟩ := dispatch_other mem hfEeodb s hhf
    rw [if_neg hhf]
    exact ⟨s', hrun, hcount, learned_dispatch hhf hrun⟩

theorem learnsBy_parseCeaDataBlocks (depth : Nat) :
    LearnsBy mem (parseCeaDataBlocks depth) (followedDataBlocks mem depth) := by
  induction depth with
  | zero => exact LearnsBy.dispatch fun _ _ => rfl
  | succ depth ih => exact LearnsBy.dispatch fun x s => ih.HfEeodbDataBlock x s

/-! ## Block 1 -/

theorem modes_ceaFormats (x3 : UInt8) : modes (ceaFormats x3 s) = modes s := by
  unfold ceaFormats
  dsimp only
  split <;> split <;> rfl

theorem learns_ceaTail (s : EdidParser) :
    Learns mem (ceaTail s) s (some (s.mExtensionBlockCount, [])) := by
  by_cases hversion : 2 ≤ mem.cells ((⟨1, 0⟩ : Addr).add 1)
  · refine ⟨ceaFormats (mem.cells ((⟨1, 0⟩ : Addr).add 3)) s, ?_, count_ceaFormats _ s, ?_⟩
    · simp [ceaTail, hversion]
    · exact Learned.of_modes_eq (modes_ceaFormats _)
  · exact ⟨s, by simp [ceaTail, hversion], rfl, Learned.of_modes_eq rfl⟩

/-- A parse of block 1 has a result when the data blocks can be listed, and these tell what it knows of
the video modes. -/
theorem learns_parseCeaExtensionBlock (depth : Nat) (s : EdidParser) :
    Learns mem (parseCeaExtensionBlock depth s) s (ceaWalk mem depth s.mExtensionBlockCount) := by
  let s₁ : EdidParser := { s with mExtensionBlock := (mem.cells ⟨0, 0x7E⟩).toNat }
  have hblocks : LearnsBy mem (parseCeaDataBlocks depth) (followedDataBlocks mem depth) :=
    learnsBy_parseCeaDataBlocks depth
  have hafter : Learns mem (andThen (extensionBlock (parseCeaDataBlocks depth) 1 s₁) ceaTail) s₁
      (walkedDataBlocks mem (followedDataBlocks mem depth) 1 (dataBlocks mem 1)
        s.mExtensionBlockCount) :=
    (hblocks.extensionBlock 1 s₁).andThen_silent learns_ceaTail
  have htagged (hext : mem.cells ⟨0, 0x7E⟩ ≠ 0) : Learns mem
      (byte ⟨1, 0⟩ 0 >>= fun tag => if tag ≠ 0x2 then pure (some s₁)
        else andThen (extensionBlock (parseCeaDataBlocks depth) 1 s₁) ceaTail) s₁
      (ceaWalk mem depth s.mExtensionBlockCount) := by
    apply Learns.byte_bind
    by_cases htag : mem.cells ⟨1, 0⟩ = 0x2
    · rw [show ceaWalk mem depth s.mExtensionBlockCount = _ from if_pos ⟨hext, htag⟩,
        if_neg (show ¬ mem.cells ((⟨1, 0⟩ : Addr).add 0) ≠ 0x2 from not_not_intro htag)]
      exact hafter
    · rw [show ceaWalk mem depth s.mExtensionBlockCount = _ from if_neg fun h => htag h.2,
        if_pos (show mem.cells ((⟨1, 0⟩ : Addr).add 0) ≠ 0x2 from htag)]
      exact Learns.pure rfl
  have hextensions : Learns mem
      (if mem.cells ⟨0, 0x7E⟩ = 0 then pure (some s₁)
        else byte ⟨1, 0⟩ 0 >>= fun tag => if tag ≠ 0x2 then pure (some s₁)
          else andThen (extensionBlock (parseCeaDataBlocks depth) 1 s₁) ceaTail) s₁
      (ceaWalk mem depth s.mExtensionBlockCount) := by
    by_cases hext : mem.cells ⟨0, 0x7E⟩ = 0
    · rw [show ceaWalk mem depth s.mExtensionBlockCount = _ from if_neg fun h => h.1 hext,
        if_pos hext]
      exact Learns.pure rfl
    · rw [if_neg hext]
      exact htagged hext
  exact Learns.byte_bind (hextensions.of_modes_eq rfl)

end AwHal.Edid
