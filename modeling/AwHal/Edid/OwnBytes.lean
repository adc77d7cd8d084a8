import AwHal.Edid.DataBlocks

/-!
# What a data block means

A data block declares its length in its header.  Its meaning should not depend on the bytes behind it,
which belong to the next block.
-/

namespace AwHal.Edid

open AwHal.Lib Reading

variable (mem : Memory)

/-! ## The bytes of a data block -/

def SameBlock (mem' : Memory) (x : Addr) : Prop :=
  ∀ i ≤ payload mem x, mem'.cells (x.add i) = mem.cells (x.add i)

def Own (x a : Addr) : Prop := ∃ i ≤ payload mem x, a = x.add i

/-- The result of parsing the data block at `x` does not depend on what is behind it. -/
def Determined (depth : Nat) (x : Addr) (s : EdidParser) : Prop :=
  ∀ mem' : Memory, SameBlock mem mem' x → ¬ IsHfEeodb mem' x →
    run mem'.cells (parseCeaDataBlocks depth x s) = run mem.cells (parseCeaDataBlocks depth x s)

/-- The payload goes on with an identifier from byte `i`, as far as it reaches. -/
def Starts (x : Addr) (i : Nat) (id : List UInt8) : Prop :=
  ∀ j b, id[j]? = some b → i + j ≤ payload mem x → mem.cells (x.add (i + j)) = b

/-! ## Complete data blocks -/

def hdmi1xOui : List UInt8 := [0x03, 0x0C, 0x00]
def hdmi20Oui : List UInt8 := [0xD8, 0x5D, 0xC4]
def hdr10PlusOui : List UInt8 := [0x8B, 0x84, 0x90]

/-- All deep color modes are known for YCbCr 4:2:0. -/
def FullDeepColor (s : EdidParser) : Prop := s.mSupportedFormat .YUV420 = some ⟨true, true, true⟩

/-- The sink is known for one of HDMI 1.x. -/
def KnownHdmi1x (s : EdidParser) : Prop := s.mSinkType = .HDMI ∧ s.mHDMIVersion ||| 1 = s.mHDMIVersion

/-- The video fields that byte 8 of an HDMI 1.x block announces are in the payload. -/
def VideoFieldsFit (x : Addr) : Prop :=
  let skip := skipBytes (mem.cells (x.add 8))
  let viclen := ((mem.cells (x.add (8 + skip)) &&& 0xE0) >>> 5).toNat
  7 < payload mem x → mem.cells (x.add 8) &&& 0x20 ≠ 0 →
    8 + skip ≤ payload mem x ∧ (viclen = 0 ∨ 4 < viclen ∨ 8 + skip + viclen ≤ payload mem x)

/-- What is missing of a vendor specific data block cannot matter. -/
def VendorComplete (x : Addr) (s : EdidParser) : Prop :=
  (Starts mem x 1 hdmi20Oui → 7 ≤ payload mem x ∨ 5 ≤ payload mem x ∧ FullDeepColor s) ∧
    (Starts mem x 1 hdmi1xOui → (payload mem x < 3 → KnownHdmi1x s) ∧ VideoFieldsFit mem x)

def ExtendedComplete (x : Addr) : Prop :=
  1 ≤ payload mem x ∧
    (mem.cells (x.add 1) = VENDOR_SPECIFIC_VIDEO_DATA_BLOCK → Starts mem x 2 hdr10PlusOui →
      5 ≤ payload mem x)

def Complete (x : Addr) (s : EdidParser) : Prop :=
  ((mem.cells (x.add 0) &&& 0xE0) >>> 5 = VENDOR_SPECIFIC_DATA_BLOCK → VendorComplete mem x s) ∧
    ((mem.cells (x.add 0) &&& 0xE0) >>> 5 = EXTENDED_TAG → ExtendedComplete mem x)

variable {mem} {mem' : Memory} {x : Addr} {s : EdidParser}

theorem add_inj {i j : Nat} : x.add i = x.add j ↔ i = j := by
  simp [Addr.add]

@[simp] theorem own_add {i : Nat} : Own mem x (x.add i) ↔ i ≤ payload mem x := by
  simp only [Own, add_inj]
  exact ⟨fun ⟨_, hj, heq⟩ => heq ▸ hj, fun hi => ⟨i, hi, rfl⟩⟩

@[simp] theorem own_add_add {i j : Nat} : Own mem x ((x.add i).add j) ↔ i + j ≤ payload mem x := by
  have heq : (x.add i).add j = x.add (i + j) := by simp [Addr.add, Nat.add_assoc]
  rw [heq, own_add]

theorem SameBlock.payload_eq (h : SameBlock mem mem' x) : payload mem' x = payload mem x := by
  rw [payload, payload, h 0 (Nat.zero_le _)]

theorem SameBlock.run_eq {α : Type} (h : SameBlock mem mem' x) {p : Reader α}
    (hreads : OnlyReads mem.cells (Own mem x) p) : run mem'.cells p = run mem.cells p := by
  apply hreads.run_eq
  intro a ha
  obtain ⟨i, hi, rfl⟩ := ha
  exact h i hi

theorem SameBlock.starts_iff (h : SameBlock mem mem' x) {i : Nat} {id : List UInt8} :
    Starts mem' x i id ↔ Starts mem x i id := by
  rw [Starts, Starts, h.payload_eq]
  constructor
  · intro hstarts j b hj hle
    rw [← h (i + j) hle]
    exact hstarts j b hj hle
  · intro hstarts j b hj hle
    rw [h (i + j) hle]
    exact hstarts j b hj hle

theorem onlyReads_own_byte {i : Nat} :
    OnlyReads mem.cells (Own mem x) (byte x i) ↔ i ≤ payload mem x :=
  (onlyReads_cell mem.cells (Own mem x) (x.add i)).trans own_add

theorem onlyReads_own_bytes {i j n : Nat} :
    OnlyReads mem.cells (Own mem x) (bytes (x.add i) j n) ↔ n = 0 ∨ i + j + n ≤ payload mem x + 1 := by
  induction n generalizing j with
  | zero => simp [bytes]
  | succ n ih =>
      simp only [bytes, onlyReads_bind, onlyReads_pure, and_true, ih, byte, onlyReads_cell, own_add_add]
      omega

theorem onlyReads_own_bytes_self {j n : Nat} :
    OnlyReads mem.cells (Own mem x) (bytes x j n) ↔ n = 0 ∨ j + n ≤ payload mem x + 1 := by
  have h := @onlyReads_own_bytes mem x 0 j n
  rw [Nat.zero_add] at h
  exact h

/-! ## Parsers that stay in their data block -/

theorem own_videoDataBlock : OnlyReads mem.cells (Own mem x) (videoDataBlock x s) := by
  simp only [videoDataBlock, ceaSvd, onlyReads_bind, onlyReads_own_byte, onlyReads_own_bytes,
    onlyReads_pure, and_true, run_byte, toNat_header]
  omega

theorem own_YCbCr420VideoDataBlock (h : 1 ≤ payload mem x) :
    OnlyReads mem.cells (Own mem x) (YCbCr420VideoDataBlock x s) := by
  simp only [YCbCr420VideoDataBlock, ceaSvd, onlyReads_bind, onlyReads_own_byte, onlyReads_own_bytes,
    onlyReads_pure, and_true, run_byte, toNat_header]
  omega

theorem own_YCbCr420CapabilityMapDataBlock (h : 1 ≤ payload mem x) :
    OnlyReads mem.cells (Own mem x) (YCbCr420CapabilityMapDataBlock x s) := by
  simp only [YCbCr420CapabilityMapDataBlock, onlyReads_bind, onlyReads_ite, onlyReads_own_byte,
    onlyReads_own_bytes_self, onlyReads_pure, implies_true, true_and, and_true]
  simp only [run_byte, toNat_header]
  omega

theorem own_colorimetryDataBlock : OnlyReads mem.cells (Own mem x) (colorimetryDataBlock x s) := by
  simp only [colorimetryDataBlock, onlyReads_bind, onlyReads_ite, onlyReads_own_byte, onlyReads_pure,
    implies_true, and_true]
  simp only [run_byte, UInt8.le_iff_toNat_le, toNat_header, UInt8.reduceToNat]
  omega

theorem own_hdrStaticMetadataBlock :
    OnlyReads mem.cells (Own mem x) (hdrStaticMetadataBlock x s) := by
  simp only [hdrStaticMetadataBlock, onlyReads_bind, onlyReads_ite, onlyReads_own_byte,
    onlyReads_pure, implies_true, and_true]
  simp only [run_byte, UInt8.le_iff_toNat_le, toNat_header, UInt8.reduceToNat]
  omega

theorem own_vendorSpecificVideoDataBlock (h : 5 ≤ payload mem x) :
    OnlyReads mem.cells (Own mem x) (vendorSpecificVideoDataBlock x s) := by
  simp only [vendorSpecificVideoDataBlock, onlyReads_bind, onlyReads_ite, onlyReads_own_byte,
    onlyReads_pure, implies_true, and_true]
  omega

theorem own_hdmi2p0VSDB (h : 7 ≤ payload mem x) :
    OnlyReads mem.cells (Own mem x) (hdmi2p0VSDB x s) := by
  simp only [hdmi2p0VSDB, onlyReads_bind, onlyReads_own_byte, onlyReads_pure, and_true]
  omega

theorem own_hdmi1p4VSDB (h : VideoFieldsFit mem x) :
    OnlyReads mem.cells (Own mem x) (hdmi1p4VSDB x s) := by
  unfold VideoFieldsFit at h
  dsimp only at h
  simp only [hdmi1p4VSDB, hdmi4k2kVICParse, onlyReads_bind, onlyReads_ite, onlyReads_own_byte,
    onlyReads_own_bytes, onlyReads_pure, implies_true, true_and, and_true]
  simp only [UInt8.lt_iff_toNat_lt, toNat_header, UInt8.reduceToNat, run_byte]
  generalize mem.cells (x.add 8) = x8 at h ⊢
  generalize skipBytes x8 = skip at h ⊢
  generalize (mem.cells (x.add (8 + skip)) &&& 0xE0) >>> 5 = viclen at h ⊢
  generalize payload mem x = length at h ⊢
  refine ⟨Nat.zero_le _, fun _ => by omega, fun _ => by omega, fun hlength => ⟨by omega, ?_⟩⟩
  intro hpresent
  obtain ⟨hskip, hvics⟩ := h hlength hpresent
  refine ⟨hskip, ?_, by omega⟩
  intro hne hsize
  omega

/-! ## Registration identifiers -/

theorem oui_inj {b2 b1 b0 c2 c1 c0 : UInt8} :
    oui b2 b1 b0 = oui c2 c1 c0 ↔ b0 = c0 ∧ b1 = c1 ∧ b2 = c2 := by
  have hb1 := b1.toNat_lt
  have hb0 := b0.toNat_lt
  have hc1 := c1.toNat_lt
  have hc0 := c0.toNat_lt
  simp only [oui, ← UInt8.toNat_inj]
  omega

def ouiAt (mem : Memory) (x : Addr) (i : Nat) : Nat :=
  oui (mem.cells (x.add (i + 2))) (mem.cells (x.add (i + 1))) (mem.cells (x.add i))

/-- An identifier that is read has started in the payload. -/
theorem starts_of_ouiAt {i : Nat} {a b c : UInt8} (h : ouiAt mem x i = oui c b a) :
    Starts mem x i [a, b, c] := by
  obtain ⟨ha, hb, hc⟩ := oui_inj.mp h
  intro j d hj _
  match j with
  | 0 => cases hj; exact ha
  | 1 => cases hj; exact hb
  | 2 => cases hj; exact hc
  | _ + 3 => cases hj

theorem ouiAt_of_starts {i : Nat} {a b c : UInt8} (h : Starts mem x i [a, b, c])
    (hlen : i + 2 ≤ payload mem x) : ouiAt mem x i = oui c b a :=
  oui_inj.mpr ⟨h 0 a rfl (by omega), h 1 b rfl (by omega), h 2 c rfl hlen⟩

theorem SameBlock.ouiAt_eq (h : SameBlock mem mem' x) {i : Nat} (hlen : i + 2 ≤ payload mem x) :
    ouiAt mem' x i = ouiAt mem x i := by
  rw [ouiAt, ouiAt, h (i + 2) hlen, h (i + 1) (by omega), h i (by omega)]

/-! ## Vendor specific data blocks -/

theorem run_vendorSpecificDataBlock :
    run mem.cells (vendorSpecificDataBlock x s) =
      if ouiAt mem x 1 = HDMI1X_Version then
        { run mem.cells (hdmi1p4VSDB x s) with
          mSinkType := .HDMI
          mHDMIVersion := (run mem.cells (hdmi1p4VSDB x s)).mHDMIVersion ||| 1 }
      else if ouiAt mem x 1 = HDMI20_Version then
        { run mem.cells (hdmi2p0VSDB x s) with
          mSinkType := .HDMI
          mHDMIVersion := (run mem.cells (hdmi2p0VSDB x s)).mHDMIVersion ||| 2 }
      else s := by
  simp only [vendorSpecificDataBlock, run_bind, run_ite, run_pure]
  rfl

theorem run_hdmi1p4VSDB_short (h : payload mem x < 6) : run mem.cells (hdmi1p4VSDB x s) = s := by
  have hnot : ∀ n : UInt8, 5 ≤ n.toNat → ¬ n < mem.cells (x.add 0) &&& 0x1F := by
    intro n hn
    rw [UInt8.lt_iff_toNat_lt, toNat_header]
    omega
  simp only [hdmi1p4VSDB, run_bind, run_pure, run_byte, hnot 5 (by decide), hnot 6 (by decide),
    hnot 7 (by decide), if_false]

/-- A vendor block without a whole identifier, that cannot tell anything new. -/
theorem run_vendorSpecificDataBlock_short (h : VendorComplete mem x s) (hshort : payload mem x < 3) :
    run mem.cells (vendorSpecificDataBlock x s) = s := by
  obtain ⟨h20, h1x⟩ := h
  rw [run_vendorSpecificDataBlock]
  split
  · rename_i hid
    obtain ⟨⟨hsink, hversion⟩, -⟩ := (h1x (starts_of_ouiAt hid)).imp_left (· hshort)
    rw [run_hdmi1p4VSDB_short (by omega), hversion, ← hsink]
  · split
    · rename_i hid
      have hlen := h20 (starts_of_ouiAt hid)
      omega
    · rfl

theorem SameBlock.vendorComplete (h : SameBlock mem mem' x) (hc : VendorComplete mem x s)
    (hshort : payload mem x < 3) : VendorComplete mem' x s := by
  obtain ⟨h20, h1x⟩ := hc
  rw [VendorComplete, h.starts_iff, h.starts_iff, h.payload_eq]
  refine ⟨h20, fun hstarts => ⟨(h1x hstarts).1, fun hlong => ?_⟩⟩
  rw [h.payload_eq] at hlong
  omega

/-- With all deep color modes known, byte 7 of an HDMI Forum block has nothing to add. -/
theorem run_hdmi2p0VSDB_full (h : FullDeepColor s) :
    run mem.cells (hdmi2p0VSDB x s) =
      { s with mMaxTmdsCharacterRate2p0 := (mem.cells (x.add 5)).toNat * 5 } := by
  have hformats : (fun f => if f = VideoFmt.YUV420 then some ⟨true, true, true⟩
      else s.mSupportedFormat f) = s.mSupportedFormat := by
    funext f
    split
    · rename_i hf
      rw [hf, h]
    · rfl
  have hget : s.getVideoFormat .YUV420 = ⟨true, true, true⟩ := by
    rw [EdidParser.getVideoFormat, h]
    rfl
  simp only [hdmi2p0VSDB, run_bind, run_pure, run_byte, hget, Bool.true_or, EdidParser.setVideoFormat,
    hformats]

theorem own_vendorSpecificDataBlock (hlen : 3 ≤ payload mem x)
    (h1x : ouiAt mem x 1 = HDMI1X_Version → VideoFieldsFit mem x)
    (h20 : ouiAt mem x 1 = HDMI20_Version → 7 ≤ payload mem x) :
    OnlyReads mem.cells (Own mem x) (vendorSpecificDataBlock x s) := by
  simp only [vendorSpecificDataBlock, onlyReads_bind, onlyReads_ite, onlyReads_own_byte,
    onlyReads_pure, implies_true, and_true]
  refine ⟨hlen, by omega, by omega, fun hid => own_hdmi1p4VSDB (h1x hid), fun _ hid => ?_⟩
  exact own_hdmi2p0VSDB (h20 hid)

theorem SameBlock.run_vendorSpecificDataBlock (h : SameBlock mem mem' x)
    (hc : VendorComplete mem x s) :
    run mem'.cells (vendorSpecificDataBlock x s) = run mem.cells (vendorSpecificDataBlock x s) := by
  rcases Nat.lt_or_ge (payload mem x) 3 with hshort | hlen
  · rw [run_vendorSpecificDataBlock_short hc hshort,
      run_vendorSpecificDataBlock_short (h.vendorComplete hc hshort) (h.payload_eq ▸ hshort)]
  · by_cases hfull : ouiAt mem x 1 = HDMI20_Version ∧ payload mem x < 7
    · obtain ⟨hid, hshort⟩ := hfull
      obtain ⟨h5, hfull⟩ := (hc.1 (starts_of_ouiAt hid)).resolve_left (by omega)
      have hid' := h.ouiAt_eq (i := 1) hlen
      have hne : HDMI20_Version ≠ HDMI1X_Version := by decide
      rw [Edid.run_vendorSpecificDataBlock, Edid.run_vendorSpecificDataBlock, hid', hid, if_neg hne,
        if_neg hne, if_pos rfl, if_pos rfl, run_hdmi2p0VSDB_full hfull, run_hdmi2p0VSDB_full hfull,
        h 5 h5]
    · apply h.run_eq
      apply own_vendorSpecificDataBlock hlen
      · intro hid
        exact (hc.2 (starts_of_ouiAt hid)).2
      · intro hid
        rw [not_and, Nat.not_lt] at hfull
        exact hfull hid

/-! ## Extended data blocks -/

theorem run_vendorSpecificVideoDataBlock :
    run mem.cells (vendorSpecificVideoDataBlock x s) =
      if ouiAt mem x 2 = HDR10PLUS_Ver then { s with mAppVer := mem.cells (x.add 5) &&& 0x01 }
      else s := by
  simp only [vendorSpecificVideoDataBlock, run_bind, run_ite, run_pure]
  rfl

theorem SameBlock.run_vendorSpecificVideoDataBlock (h : SameBlock mem mem' x)
    (hc : Starts mem x 2 hdr10PlusOui → 5 ≤ payload mem x) :
    run mem'.cells (vendorSpecificVideoDataBlock x s) =
      run mem.cells (vendorSpecificVideoDataBlock x s) := by
  by_cases hlen : 5 ≤ payload mem x
  · exact h.run_eq (own_vendorSpecificVideoDataBlock hlen)
  · have hnot : ¬ Starts mem x 2 hdr10PlusOui := fun hstarts => hlen (hc hstarts)
    have hid : ouiAt mem x 2 ≠ HDR10PLUS_Ver := fun hid => hnot (starts_of_ouiAt hid)
    have hid' : ouiAt mem' x 2 ≠ HDR10PLUS_Ver := fun hid =>
      hnot (h.starts_iff.mp (starts_of_ouiAt hid))
    rw [Edid.run_vendorSpecificVideoDataBlock, Edid.run_vendorSpecificVideoDataBlock, if_neg hid,
      if_neg hid']

theorem run_call_congr {p : Reader EdidParser}
    (hp : run mem'.cells p = run mem.cells p) :
    run mem'.cells (do return some (← p)) = run mem.cells (do return some (← p)) := by
  rw [run_call, run_call, hp]

theorem SameBlock.run_extendedDataBlock (h : SameBlock mem mem' x) (hfEeodb : BlockParser)
    (hc : ExtendedComplete mem x) (hother : mem.cells (x.add 1) ≠ HF_EEODB_DATA_BLOCK) :
    run mem'.cells (extendedDataBlock hfEeodb x s (mem.cells (x.add 1))) =
      run mem.cells (extendedDataBlock hfEeodb x s (mem.cells (x.add 1))) := by
  obtain ⟨hlen, hvideo⟩ := hc
  unfold extendedDataBlock
  split
  · exact run_call_congr (h.run_eq own_colorimetryDataBlock)
  · split
    · exact run_call_congr (h.run_eq own_hdrStaticMetadataBlock)
    · split
      · exact run_call_congr (h.run_eq (own_YCbCr420VideoDataBlock hlen))
      · split
        · exact run_call_congr (h.run_eq (own_YCbCr420CapabilityMapDataBlock hlen))
        · split
          · rename_i htag
            exact run_call_congr (h.run_vendorSpecificVideoDataBlock (hvideo htag))
          · rfl

/-! ## Complete data blocks are determined -/

theorem run_dispatch (hfEeodb : BlockParser) :
    run mem.cells (dispatch hfEeodb x s) =
      run mem.cells (taggedDataBlock hfEeodb x s ((mem.cells (x.add 0) &&& 0xE0) >>> 5)) := by
  rw [dispatch, run_bind, run_byte]

theorem SameBlock.run_dispatch (h : SameBlock mem mem' x) (hfEeodb : BlockParser)
    (hc : Complete mem x s) (hother : ¬ IsHfEeodb mem x) :
    run mem'.cells (dispatch hfEeodb x s) = run mem.cells (dispatch hfEeodb x s) := by
  obtain ⟨hvendor, hextended⟩ := hc
  rw [Edid.run_dispatch, Edid.run_dispatch, h 0 (Nat.zero_le _)]
  unfold taggedDataBlock
  split
  · exact run_call_congr (h.run_eq own_videoDataBlock)
  · split
    · rename_i htag
      exact run_call_congr (h.run_vendorSpecificDataBlock (hvendor htag))
    · split
      · rename_i htag
        have hcomplete := hextended htag
        rw [run_bind, run_bind, run_byte, run_byte, h 1 hcomplete.1]
        exact h.run_extendedDataBlock hfEeodb hcomplete fun hhf => hother ⟨htag, hhf⟩
      · rfl

theorem exists_parseCeaDataBlocks (depth : Nat) :
    ∃ hfEeodb, parseCeaDataBlocks depth = dispatch hfEeodb := by
  cases depth <;> exact ⟨_, rfl⟩

theorem Complete.determined (hc : Complete mem x s) (hother : ¬ IsHfEeodb mem x) (depth : Nat) :
    Determined mem depth x s := by
  intro mem' h _
  obtain ⟨hfEeodb, heq⟩ := exists_parseCeaDataBlocks depth
  rw [heq]
  exact h.run_dispatch hfEeodb hc hother

end AwHal.Edid
