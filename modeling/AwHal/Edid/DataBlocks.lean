import AwHal.Edid.Parser

/-!
# What a data block makes the parser read

Each data block parser reads from the header of its block up to a last byte, which depends on the
kind of the block and, for some, on the length that the header announces.
-/

namespace AwHal.Edid

open AwHal.Lib Reading

/-! ## Addresses -/

/-- The byte is in the array, and in the block whose walk reads it. -/
def InBlock (a : Addr) : Prop := a.index < EDID_MAX_LENGTH ∧ a.offset < BLOCK_LENGTH

theorem inBlock_iff (a : Addr) : InBlock a ↔ a.block < 8 ∧ a.offset < 128 := by
  simp only [InBlock, Addr.index, EDID_MAX_LENGTH, BLOCK_LENGTH, EDID_MAX_BLOCK_COUNT]
  omega

instance (a : Addr) : Decidable (InBlock a) := decidable_of_iff _ (inBlock_iff a).symm

@[simp] theorem inBlock_add (x : Addr) (i : Nat) :
    InBlock (x.add i) ↔ x.block < 8 ∧ x.offset + i < 128 :=
  inBlock_iff (x.add i)

@[simp] theorem add_block (x : Addr) (i : Nat) : (x.add i).block = x.block := rfl

@[simp] theorem add_offset (x : Addr) (i : Nat) : (x.add i).offset = x.offset + i := rfl

variable (mem : Memory)

@[simp] theorem run_byte (x : Addr) (i : Nat) : run mem.cells (byte x i) = mem.cells (x.add i) := rfl

@[simp] theorem onlyReads_byte (x : Addr) (i : Nat) :
    OnlyReads mem.cells InBlock (byte x i) ↔ x.block < 8 ∧ x.offset + i < 128 :=
  (onlyReads_cell mem.cells InBlock (x.add i)).trans (inBlock_add x i)

@[simp] theorem onlyReads_bytes (x : Addr) (i n : Nat) :
    OnlyReads mem.cells InBlock (bytes x i n) ↔
      n = 0 ∨ (x.block < 8 ∧ x.offset + (i + n) ≤ 128) := by
  induction n generalizing i with
  | zero => simp [bytes]
  | succ n ih =>
      simp only [bytes, onlyReads_bind, onlyReads_byte, onlyReads_pure, and_true, ih]
      omega

/-! ## The last byte -/

def payload (x : Addr) : Nat := (mem.cells (x.add 0) &&& 0x1F).toNat

@[simp] theorem toNat_header (x : Addr) :
    (mem.cells (x.add 0) &&& 0x1F).toNat = payload mem x := rfl

def hdmi1p4Extent (x : Addr) : Nat :=
  let skip := skipBytes (mem.cells (x.add 8))
  let viclen := ((mem.cells (x.add (8 + skip)) &&& 0xE0) >>> 5).toNat
  if payload mem x ≤ 5 then 3
  else if payload mem x ≤ 7 then payload mem x
  else if mem.cells (x.add 8) &&& 0x20 = 0 then 8
  else if viclen ≤ 4 then 8 + skip + viclen else 8 + skip

def extendedExtent (x : Addr) (extended : UInt8) : Nat :=
  if extended = COLORIMETRY_DATA_BLOCK then if 3 ≤ payload mem x then 2 else 1
  else if extended = HDR_STATIC_METADATA_DATA_BLOCK then
    if 3 ≤ payload mem x then min 6 (payload mem x) else 1
  else if extended = YCBCR420_VIDEO_DATA_BLOCK then max 1 (payload mem x)
  else if extended = YCBCR420_CAPABILITY_MAP_DATA_BLOCK then max 1 (payload mem x)
  else if extended = HF_EEODB_DATA_BLOCK then 2
  else if extended = VENDOR_SPECIFIC_VIDEO_DATA_BLOCK then
    if oui (mem.cells (x.add 4)) (mem.cells (x.add 3)) (mem.cells (x.add 2)) = HDR10PLUS_Ver
    then 5 else 4
  else 1

def taggedExtent (x : Addr) (tagcode : UInt8) : Nat :=
  if tagcode = VIDEO_DATA_BLOCK then payload mem x
  else if tagcode = VENDOR_SPECIFIC_DATA_BLOCK then
    if oui (mem.cells (x.add 3)) (mem.cells (x.add 2)) (mem.cells (x.add 1)) = HDMI1X_Version
    then hdmi1p4Extent mem x
    else if oui (mem.cells (x.add 3)) (mem.cells (x.add 2)) (mem.cells (x.add 1)) =
      HDMI20_Version then 7 else 3
  else if tagcode = EXTENDED_TAG then extendedExtent mem x (mem.cells (x.add 1))
  else 0

/-- The last byte that the parser of a data block reads, counted from its header. -/
def extent (x : Addr) : Nat := taggedExtent mem x ((mem.cells (x.add 0) &&& 0xE0) >>> 5)

def Fits (x : Addr) : Prop := x.block < 8 ∧ x.offset + extent mem x < 128

instance (x : Addr) : Decidable (Fits mem x) := inferInstanceAs (Decidable (_ ∧ _))

/-! ## The parsers -/

section parsers

variable (x : Addr) (s : EdidParser)

@[simp] theorem count_addVideoFormat (format : VideoFmt) :
    (s.addVideoFormat format).mExtensionBlockCount = s.mExtensionBlockCount := rfl

/-- The parser keeps the count of the last HF-EEODB, and reads up to byte `last` when the bytes up to
`head` were read before. -/
def ReadsTo (p : Reader EdidParser) (head last : Nat) : Prop :=
  (run mem.cells p).mExtensionBlockCount = s.mExtensionBlockCount ∧
    (((x.block < 8 ∧ x.offset + head < 128) ∧ OnlyReads mem.cells InBlock p) ↔
      x.block < 8 ∧ x.offset + last < 128)

theorem readsTo_videoDataBlock : ReadsTo mem x s (videoDataBlock x s) 0 (payload mem x) := by
  refine ⟨by simp [videoDataBlock], ?_⟩
  simp only [videoDataBlock, ceaSvd, onlyReads_bind, onlyReads_byte, onlyReads_bytes,
    onlyReads_pure, and_true, run_byte, toNat_header, add_block, add_offset]
  omega

theorem readsTo_YCbCr420VideoDataBlock :
    ReadsTo mem x s (YCbCr420VideoDataBlock x s) 1 (max 1 (payload mem x)) := by
  refine ⟨by simp [YCbCr420VideoDataBlock], ?_⟩
  simp only [YCbCr420VideoDataBlock, ceaSvd, onlyReads_bind, onlyReads_byte, onlyReads_bytes,
    onlyReads_pure, and_true, run_byte, toNat_header, add_block, add_offset]
  omega

theorem readsTo_YCbCr420CapabilityMapDataBlock :
    ReadsTo mem x s (YCbCr420CapabilityMapDataBlock x s) 1 (max 1 (payload mem x)) := by
  constructor
  · simp only [YCbCr420CapabilityMapDataBlock, run_bind, run_ite, run_pure]
    split <;> rfl
  · simp only [YCbCr420CapabilityMapDataBlock, onlyReads_bind, onlyReads_ite, onlyReads_byte,
      onlyReads_bytes, onlyReads_pure, implies_true, true_and, and_true]
    simp only [run_byte, ← UInt8.toNat_inj, toNat_header, UInt8.reduceToNat]
    omega

theorem readsTo_colorimetryDataBlock :
    ReadsTo mem x s (colorimetryDataBlock x s) 1 (if 3 ≤ payload mem x then 2 else 1) := by
  constructor
  · simp only [colorimetryDataBlock, run_bind, run_ite, run_pure]
    split <;> rfl
  · simp only [colorimetryDataBlock, onlyReads_bind, onlyReads_ite, onlyReads_byte, onlyReads_pure,
      implies_true, and_true]
    simp only [run_byte, UInt8.le_iff_toNat_le, toNat_header, UInt8.reduceToNat]
    split <;> omega

theorem readsTo_hdrStaticMetadataBlock :
    ReadsTo mem x s (hdrStaticMetadataBlock x s) 1
      (if 3 ≤ payload mem x then min 6 (payload mem x) else 1) := by
  constructor
  · simp only [hdrStaticMetadataBlock, run_bind, run_ite, run_pure]
    split <;> split <;> split <;> split <;> rfl
  · simp only [hdrStaticMetadataBlock, onlyReads_bind, onlyReads_ite, onlyReads_byte,
      onlyReads_pure, implies_true, and_true]
    simp only [run_byte, UInt8.le_iff_toNat_le, toNat_header, UInt8.reduceToNat]
    split <;> omega

theorem readsTo_vendorSpecificVideoDataBlock :
    ReadsTo mem x s (vendorSpecificVideoDataBlock x s) 1
      (if oui (mem.cells (x.add 4)) (mem.cells (x.add 3)) (mem.cells (x.add 2)) = HDR10PLUS_Ver
        then 5 else 4) := by
  constructor
  · simp only [vendorSpecificVideoDataBlock, run_bind, run_ite, run_pure]
    split <;> rfl
  · simp only [vendorSpecificVideoDataBlock, onlyReads_bind, onlyReads_ite, onlyReads_byte,
      onlyReads_pure, implies_true, and_true]
    simp only [run_byte]
    split <;> omega

theorem readsTo_hdmi2p0VSDB : ReadsTo mem x s (hdmi2p0VSDB x s) 3 7 := by
  refine ⟨rfl, ?_⟩
  simp only [hdmi2p0VSDB, onlyReads_bind, onlyReads_byte, onlyReads_pure, and_true]
  omega

@[simp] theorem count_deepColor (x6 : UInt8) :
    (deepColor x6 s).mExtensionBlockCount = s.mExtensionBlockCount := by
  unfold deepColor
  dsimp only
  split <;> rfl

theorem count_hdmi4k2kVICParse (size : Nat) :
    (run mem.cells (hdmi4k2kVICParse x size s)).mExtensionBlockCount =
      s.mExtensionBlockCount := by
  simp only [hdmi4k2kVICParse, run_ite, run_bind, run_pure]
  split <;> rfl

theorem readsTo_hdmi1p4VSDB : ReadsTo mem x s (hdmi1p4VSDB x s) 3 (hdmi1p4Extent mem x) := by
  constructor
  · simp only [hdmi1p4VSDB, run_bind, run_ite, run_pure,
      apply_ite EdidParser.mExtensionBlockCount, count_hdmi4k2kVICParse, count_deepColor, ite_self]
  · simp only [hdmi1p4VSDB, hdmi4k2kVICParse, onlyReads_bind, onlyReads_ite, onlyReads_byte,
      onlyReads_bytes, onlyReads_pure, implies_true, true_and, and_true]
    simp only [UInt8.lt_iff_toNat_lt, toNat_header, UInt8.reduceToNat, run_byte, add_block,
      add_offset]
    unfold hdmi1p4Extent
    dsimp only
    generalize mem.cells (x.add 8) = x8
    generalize skipBytes x8 = skip
    generalize (mem.cells (x.add (8 + skip)) &&& 0xE0) >>> 5 = viclen
    generalize payload mem x = length
    by_cases hpresent : x8 &&& 0x20 = 0
    · rw [if_pos hpresent]
      simp only [hpresent, ne_eq, not_true_eq_false, false_implies, and_true]
      split
      · omega
      · split <;> omega
    · rw [if_neg hpresent]
      simp only [hpresent, ne_eq, not_false_eq_true, true_implies, ← UInt8.toNat_inj,
        UInt8.reduceToNat]
      split
      · omega
      · split
        · omega
        · split <;> omega

/-- The bytes of a registration identifier, the last one first. -/
theorem readsOui_iff (Q : Prop) :
    ((x.block < 8 ∧ x.offset + 0 < 128) ∧ (x.block < 8 ∧ x.offset + 3 < 128) ∧
      (x.block < 8 ∧ x.offset + 2 < 128) ∧ (x.block < 8 ∧ x.offset + 1 < 128) ∧ Q) ↔
      (x.block < 8 ∧ x.offset + 3 < 128) ∧ Q := by
  constructor
  · rintro ⟨-, h3, -, -, h⟩
    exact ⟨h3, h⟩
  · rintro ⟨h3, h⟩
    exact ⟨by omega, h3, by omega, by omega, h⟩

theorem readsTo_vendorSpecificDataBlock :
    ReadsTo mem x s (vendorSpecificDataBlock x s) 0
      (if oui (mem.cells (x.add 3)) (mem.cells (x.add 2)) (mem.cells (x.add 1)) = HDMI1X_Version
        then hdmi1p4Extent mem x
        else if oui (mem.cells (x.add 3)) (mem.cells (x.add 2)) (mem.cells (x.add 1)) =
          HDMI20_Version then 7 else 3) := by
  obtain ⟨hcount1, hreads1⟩ := readsTo_hdmi1p4VSDB mem x s
  obtain ⟨hcount2, hreads2⟩ := readsTo_hdmi2p0VSDB mem x s
  constructor
  · simp only [vendorSpecificDataBlock, run_bind, run_ite, run_pure]
    split
    · exact hcount1
    · split
      · exact hcount2
      · rfl
  · simp only [vendorSpecificDataBlock, onlyReads_bind, onlyReads_ite, onlyReads_byte,
      onlyReads_pure, implies_true, and_true]
    simp only [run_byte]
    generalize oui _ _ _ = id
    rw [readsOui_iff]
    by_cases hid : id = HDMI1X_Version
    · simp only [hid, true_implies, not_true_eq_false, false_implies, and_true, if_true]
      exact hreads1
    · simp only [hid, false_implies, true_and, not_false_eq_true, true_implies, if_false]
      by_cases hid' : id = HDMI20_Version
      · simp only [hid', true_implies, if_true]
        exact hreads2
      · simp only [hid', false_implies, and_true, if_false]

end parsers

/-! ## The dispatcher -/

def IsHfEeodb (x : Addr) : Prop :=
  (mem.cells (x.add 0) &&& 0xE0) >>> 5 = EXTENDED_TAG ∧ mem.cells (x.add 1) = HF_EEODB_DATA_BLOCK

instance (x : Addr) : Decidable (IsHfEeodb mem x) := inferInstanceAs (Decidable (_ ∧ _))

theorem dispatch_hfEeodb {x : Addr} (hfEeodb : BlockParser) (s : EdidParser)
    (h : IsHfEeodb mem x) :
    run mem.cells (dispatch hfEeodb x s) = run mem.cells (hfEeodb x s) ∧
      (OnlyReads mem.cells InBlock (dispatch hfEeodb x s) ↔
        (x.block < 8 ∧ x.offset + 1 < 128) ∧ OnlyReads mem.cells InBlock (hfEeodb x s)) := by
  obtain ⟨htag, hextended⟩ := h
  have hswitch : extendedDataBlock hfEeodb x s HF_EEODB_DATA_BLOCK = hfEeodb x s := rfl
  have htagged : taggedDataBlock hfEeodb x s EXTENDED_TAG =
      byte x 1 >>= extendedDataBlock hfEeodb x s := rfl
  constructor
  · rw [dispatch, run_bind, run_byte, htag, htagged, run_bind, run_byte, hextended, hswitch]
  · rw [dispatch, onlyReads_bind, run_byte, htag, htagged, onlyReads_bind, run_byte, hextended,
      hswitch, onlyReads_byte, onlyReads_byte]
    constructor
    · rintro ⟨-, h1, h⟩
      exact ⟨h1, h⟩
    · rintro ⟨h1, h⟩
      exact ⟨by omega, h1, h⟩

/-- The parser leaves the count alone and, with the bytes up to `head`, reads up to `last`. -/
def CallsTo (x : Addr) (s : EdidParser) (p : Reader (Option EdidParser)) (head last : Nat) : Prop :=
  (∃ s', run mem.cells p = some s' ∧ s'.mExtensionBlockCount = s.mExtensionBlockCount) ∧
    ((x.block < 8 ∧ x.offset + head < 128) ∧ OnlyReads mem.cells InBlock p ↔
      x.block < 8 ∧ x.offset + last < 128)

theorem run_call (p : Reader EdidParser) :
    run mem.cells (do return some (← p)) = some (run mem.cells p) := by
  rw [run_bind, run_pure]

theorem ReadsTo.call {x : Addr} {s : EdidParser} {p : Reader EdidParser} {head last : Nat}
    (h : ReadsTo mem x s p head last) : CallsTo mem x s (do return some (← p)) head last := by
  obtain ⟨hcount, hreads⟩ := h
  refine ⟨⟨run mem.cells p, run_call mem p, hcount⟩, ?_⟩
  rw [← hreads]
  simp

theorem callsTo_pure (x : Addr) (s : EdidParser) (head : Nat) :
    CallsTo mem x s (pure (some s)) head head :=
  ⟨⟨s, rfl, rfl⟩, by simp⟩

theorem callsTo_extendedDataBlock {x : Addr} (hfEeodb : BlockParser) (s : EdidParser)
    {extended : UInt8} (h : extended ≠ HF_EEODB_DATA_BLOCK) :
    CallsTo mem x s (extendedDataBlock hfEeodb x s extended) 1 (extendedExtent mem x extended) := by
  unfold extendedDataBlock extendedExtent
  split
  · exact (readsTo_colorimetryDataBlock mem x s).call
  · split
    · exact (readsTo_hdrStaticMetadataBlock mem x s).call
    · split
      · exact (readsTo_YCbCr420VideoDataBlock mem x s).call
      · split
        · exact (readsTo_YCbCr420CapabilityMapDataBlock mem x s).call
        · split
          · exact (readsTo_vendorSpecificVideoDataBlock mem x s).call
          · exact callsTo_pure mem x s 1

theorem dispatch_other {x : Addr} (hfEeodb : BlockParser) (s : EdidParser)
    (h : ¬ IsHfEeodb mem x) :
    (∃ s', run mem.cells (dispatch hfEeodb x s) = some s' ∧
      s'.mExtensionBlockCount = s.mExtensionBlockCount) ∧
      (OnlyReads mem.cells InBlock (dispatch hfEeodb x s) ↔ Fits mem x) := by
  have hcall : CallsTo mem x s
      (taggedDataBlock hfEeodb x s ((mem.cells (x.add 0) &&& 0xE0) >>> 5)) 0 (extent mem x) := by
    unfold taggedDataBlock extent taggedExtent
    split
    · exact (readsTo_videoDataBlock mem x s).call
    · split
      · exact (readsTo_vendorSpecificDataBlock mem x s).call
      · split
        · rename_i htag
          obtain ⟨hrun, hreads⟩ :=
            callsTo_extendedDataBlock mem hfEeodb s fun hextended => h ⟨htag, hextended⟩
          refine ⟨by rw [run_bind, run_byte]; exact hrun, ?_⟩
          rw [onlyReads_bind, onlyReads_byte, run_byte, ← hreads]
          constructor
          · rintro ⟨-, h1, h⟩
            exact ⟨h1, h⟩
          · rintro ⟨h1, h⟩
            exact ⟨by omega, h1, h⟩
        · exact callsTo_pure mem x s 0
  rw [dispatch, run_bind, onlyReads_bind, run_byte, onlyReads_byte]
  exact hcall

end AwHal.Edid
