import AwHal.Edid.OwnBytes

/-!
# What is behind a data block

A data block that lacks bytes its parser looks at is parsed with the bytes of the next block in their
place, and there are bytes that change the result.
-/

namespace AwHal.Edid

open AwHal.Lib Reading

variable {mem mem' : Memory} {x : Addr} {s : EdidParser}

/-! ## Other bytes behind the data block -/

def extend (mem : Memory) (x : Addr) (f : Nat → UInt8) : Memory :=
  fun k => if k ≤ x.index + payload mem x then mem k else f (k - x.index)

theorem cells_extend (f : Nat → UInt8) (i : Nat) :
    (extend mem x f).cells (x.add i) = if i ≤ payload mem x then mem.cells (x.add i) else f i := by
  have hindex : (x.add i).index = x.index + i := by simp [Addr.index, Addr.add, Nat.add_assoc]
  have hsub : x.index + i - x.index = i := Nat.add_sub_cancel_left ..
  rw [Memory.cells, hindex, extend, hsub, Memory.cells, hindex]
  simp

theorem sameBlock_extend (f : Nat → UInt8) : SameBlock mem (extend mem x f) x := by
  intro i hi
  rw [cells_extend, if_pos hi]

theorem cells_extend_of_lt (f : Nat → UInt8) {i : Nat} (h : payload mem x < i) :
    (extend mem x f).cells (x.add i) = f i := by
  rw [cells_extend, if_neg (by omega)]

theorem ouiAt_extend {i : Nat} {a b c : UInt8} {f : Nat → UInt8} (h : Starts mem x i [a, b, c])
    (ha : f i = a) (hb : f (i + 1) = b) (hc : f (i + 2) = c) :
    ouiAt (extend mem x f) x i = oui c b a := by
  have hcell : ∀ j d, [a, b, c][j]? = some d → f (i + j) = d →
      (extend mem x f).cells (x.add (i + j)) = d := by
    intro j d hj hf
    rw [cells_extend]
    split
    · rename_i hle
      exact h j d hj hle
    · exact hf
  exact oui_inj.mpr ⟨hcell 0 a rfl ha, hcell 1 b rfl hb, hcell 2 c rfl hc⟩

/-- The results for any two memories that go on differently. -/
theorem Determined.extend_eq {depth : Nat} (h : Determined mem depth x s) {f g : Nat → UInt8}
    (hf : ¬ IsHfEeodb (extend mem x f) x) (hg : ¬ IsHfEeodb (extend mem x g) x) :
    run (extend mem x f).cells (parseCeaDataBlocks depth x s) =
      run (extend mem x g).cells (parseCeaDataBlocks depth x s) :=
  (h _ (sameBlock_extend f) hf).trans (h _ (sameBlock_extend g) hg).symm

/-! ## Determined data blocks are complete -/

theorem payload_extend (f : Nat → UInt8) : payload (extend mem x f) x = payload mem x :=
  (sameBlock_extend f).payload_eq

theorem run_parse_vendor (depth : Nat)
    (htag : (mem.cells (x.add 0) &&& 0xE0) >>> 5 = VENDOR_SPECIFIC_DATA_BLOCK) :
    run mem.cells (parseCeaDataBlocks depth x s) =
      some (run mem.cells (vendorSpecificDataBlock x s)) := by
  obtain ⟨hfEeodb, heq⟩ := exists_parseCeaDataBlocks depth
  have htagged : taggedDataBlock hfEeodb x s VENDOR_SPECIFIC_DATA_BLOCK =
      (do return some (← vendorSpecificDataBlock x s)) := rfl
  rw [heq, run_dispatch, htag, htagged, run_bind, run_pure]

theorem run_parse_extended (depth : Nat)
    (htag : (mem.cells (x.add 0) &&& 0xE0) >>> 5 = EXTENDED_TAG)
    (hextended : mem.cells (x.add 1) = VENDOR_SPECIFIC_VIDEO_DATA_BLOCK) :
    run mem.cells (parseCeaDataBlocks depth x s) =
      some (run mem.cells (vendorSpecificVideoDataBlock x s)) := by
  obtain ⟨hfEeodb, heq⟩ := exists_parseCeaDataBlocks depth
  have htagged : taggedDataBlock hfEeodb x s EXTENDED_TAG =
      byte x 1 >>= extendedDataBlock hfEeodb x s := rfl
  have hvideo : extendedDataBlock hfEeodb x s VENDOR_SPECIFIC_VIDEO_DATA_BLOCK =
      (do return some (← vendorSpecificVideoDataBlock x s)) := rfl
  rw [heq, run_dispatch, htag, htagged, run_bind, run_byte, hextended, hvideo, run_bind, run_pure]

theorem full_of_same {entry : Option VideoFormat}
    (h30 : ((entry.getD {}).dc_30bit || (0 : UInt8) &&& 0x01 != 0) =
      ((entry.getD {}).dc_30bit || (7 : UInt8) &&& 0x01 != 0))
    (h36 : ((entry.getD {}).dc_36bit || (0 : UInt8) &&& 0x02 != 0) =
      ((entry.getD {}).dc_36bit || (7 : UInt8) &&& 0x02 != 0))
    (h48 : ((entry.getD {}).dc_48bit || (0 : UInt8) &&& 0x04 != 0) =
      ((entry.getD {}).dc_48bit || (7 : UInt8) &&& 0x04 != 0)) :
    entry = some ⟨true, true, true⟩ := by
  cases entry with
  | none => exact absurd h30 (by decide)
  | some fmt =>
      obtain ⟨dc30, dc36, dc48⟩ := fmt
      revert h30 h36 h48
      revert dc30 dc36 dc48
      decide

section vendor

variable {depth : Nat}
  (htag : (mem.cells (x.add 0) &&& 0xE0) >>> 5 = VENDOR_SPECIFIC_DATA_BLOCK)

include htag

/-- Whatever follows a vendor specific data block, it is parsed to the same state. -/
theorem Determined.vendor_eq (h : Determined mem depth x s) (f g : Nat → UInt8) :
    run (extend mem x f).cells (vendorSpecificDataBlock x s) =
      run (extend mem x g).cells (vendorSpecificDataBlock x s) := by
  have hheader : ∀ f, ((extend mem x f).cells (x.add 0) &&& 0xE0) >>> 5 =
      VENDOR_SPECIFIC_DATA_BLOCK := by
    intro f
    rw [cells_extend, if_pos (Nat.zero_le _), htag]
  have hother : ∀ f, ¬ IsHfEeodb (extend mem x f) x := by
    intro f hhf
    rw [IsHfEeodb, hheader] at hhf
    exact absurd hhf.1 (by decide)
  have heq := h.extend_eq (hother f) (hother g)
  rw [run_parse_vendor depth (hheader f), run_parse_vendor depth (hheader g)] at heq
  exact Option.some.inj heq

def hdmi20Tail (x5 x7 : UInt8) : Nat → UInt8
  | 1 => 0xD8
  | 2 => 0x5D
  | 3 => 0xC4
  | 5 => x5
  | 7 => x7
  | _ => 0

theorem Determined.hdmi20 (h : Determined mem depth x s) (hstarts : Starts mem x 1 hdmi20Oui) :
    7 ≤ payload mem x ∨ 5 ≤ payload mem x ∧ FullDeepColor s := by
  have hrun : ∀ x5 x7, run (extend mem x (hdmi20Tail x5 x7)).cells (vendorSpecificDataBlock x s) =
      { run (extend mem x (hdmi20Tail x5 x7)).cells (hdmi2p0VSDB x s) with
        mSinkType := .HDMI
        mHDMIVersion := s.mHDMIVersion ||| 2 } := by
    intro x5 x7
    have hid : ouiAt (extend mem x (hdmi20Tail x5 x7)) x 1 = HDMI20_Version :=
      ouiAt_extend hstarts rfl rfl rfl
    rw [run_vendorSpecificDataBlock, hid, if_neg (by decide), if_pos rfl]
    rfl
  have heq := h.vendor_eq htag (hdmi20Tail 0 0) (hdmi20Tail 1 7)
  rw [hrun, hrun] at heq
  by_contra hnot
  rw [not_or, not_and, Nat.not_le] at hnot
  obtain ⟨hshort, hformat⟩ := hnot
  have h7 : ∀ x5 x7, (extend mem x (hdmi20Tail x5 x7)).cells (x.add 7) = x7 := fun _ _ =>
    cells_extend_of_lt _ hshort
  by_cases h5 : 5 ≤ payload mem x
  · apply hformat h5
    have hfmt := congrArg (fun s => s.mSupportedFormat .YUV420) heq
    simp only [hdmi2p0VSDB, run_bind, run_pure, run_byte, h7, EdidParser.setVideoFormat,
      EdidParser.getVideoFormat, if_true, Option.some.injEq, VideoFormat.mk.injEq] at hfmt
    exact full_of_same hfmt.1 hfmt.2.1 hfmt.2.2
  · have h5' : ∀ x5 x7, (extend mem x (hdmi20Tail x5 x7)).cells (x.add 5) = x5 := fun _ _ =>
      cells_extend_of_lt _ (by omega)
    have hrate := congrArg EdidParser.mMaxTmdsCharacterRate2p0 heq
    simp only [hdmi2p0VSDB, run_bind, run_pure, run_byte, h5', EdidParser.setVideoFormat] at hrate
    exact absurd hrate (by decide)

def hdmi1xTail (x3 : UInt8) : Nat → UInt8
  | 1 => 0x03
  | 2 => 0x0C
  | 3 => x3
  | _ => 0

theorem Determined.knownHdmi1x (h : Determined mem depth x s) (hstarts : Starts mem x 1 hdmi1xOui)
    (hshort : payload mem x < 3) : KnownHdmi1x s := by
  have hid : ouiAt (extend mem x (hdmi1xTail 0)) x 1 = HDMI1X_Version :=
    ouiAt_extend hstarts rfl rfl rfl
  have h3 : (extend mem x (hdmi1xTail 1)).cells (x.add 3) = 1 := cells_extend_of_lt _ hshort
  have hnot : ∀ b1 b0, oui 1 b1 b0 ≠ HDMI1X_Version ∧ oui 1 b1 b0 ≠ HDMI20_Version := by
    intro b1 b0
    have hlast (c2 c1 c0 : UInt8) (heq : oui 1 b1 b0 = oui c2 c1 c0) : 1 = c2 :=
      (oui_inj.mp heq).2.2
    exact ⟨fun heq => absurd (hlast 0 0x0C 3 heq) (by decide),
      fun heq => absurd (hlast 0xC4 0x5D 0xD8 heq) (by decide)⟩
  have hother : run (extend mem x (hdmi1xTail 1)).cells (vendorSpecificDataBlock x s) = s := by
    rw [run_vendorSpecificDataBlock, ouiAt, h3, if_neg (hnot _ _).1, if_neg (hnot _ _).2]
  have heq := h.vendor_eq htag (hdmi1xTail 0) (hdmi1xTail 1)
  rw [hother, run_vendorSpecificDataBlock, hid, if_pos rfl,
    run_hdmi1p4VSDB_short (by rw [payload_extend]; omega)] at heq
  exact ⟨(congrArg EdidParser.mSinkType heq).symm, congrArg EdidParser.mHDMIVersion heq⟩

end vendor

theorem run_bytes_concat (i n : Nat) :
    run mem.cells (bytes x i (n + 1)) =
      run mem.cells (bytes x i n) ++ [mem.cells (x.add (i + n))] := by
  induction n generalizing i with
  | zero => rfl
  | succ n ih =>
      rw [bytes, run_bind, run_bind, run_pure, ih, bytes, run_bind, run_bind, run_pure, run_byte]
      have hindex : i + 1 + n = i + (n + 1) := by omega
      rw [hindex]
      rfl

theorem run_bytes_congr {i n : Nat}
    (h : ∀ j < n, mem'.cells (x.add (i + j)) = mem.cells (x.add (i + j))) :
    run mem'.cells (bytes x i n) = run mem.cells (bytes x i n) := by
  induction n with
  | zero => rfl
  | succ n ih =>
      rw [run_bytes_concat, run_bytes_concat, ih fun j hj => h j (by omega), h n (Nat.lt_succ_self n)]

@[simp] theorem mHdmi4k2kVIC_deepColor (x6 : UInt8) :
    (deepColor x6 s).mHdmi4k2kVIC = s.mHdmi4k2kVIC := by
  unfold deepColor
  dsimp only
  split <;> rfl

/-- The list of 4k modes of an HDMI 1.x block. -/
theorem mHdmi4k2kVIC_hdmi1p4VSDB {n : Nat} (hlen : 7 < payload mem x)
    (hpresent : mem.cells (x.add 8) &&& 0x20 ≠ 0)
    (hviclen : ((mem.cells (x.add (8 + skipBytes (mem.cells (x.add 8)))) &&& 0xE0) >>> 5).toNat = n)
    (hpos : 1 ≤ n) (hle : n ≤ 4) :
    (run mem.cells (hdmi1p4VSDB x s)).mHdmi4k2kVIC = s.mHdmi4k2kVIC ++
      (run mem.cells (bytes (x.add (8 + skipBytes (mem.cells (x.add 8)) + 1)) 0 n)).filterMap
        hdmi4k2kVIC := by
  have hlong : ∀ k : UInt8, k.toNat ≤ 7 → k < mem.cells (x.add 0) &&& 0x1F := by
    intro k hk
    rw [UInt8.lt_iff_toNat_lt, toNat_header]
    omega
  have hne : (mem.cells (x.add (8 + skipBytes (mem.cells (x.add 8)))) &&& 0xE0) >>> 5 ≠ 0 := by
    intro hzero
    rw [hzero] at hviclen
    rw [← hviclen] at hpos
    exact absurd hpos (by decide)
  have hsize : ¬ (4 < n ∨ n = 0) := by omega
  simp only [hdmi1p4VSDB, hdmi4k2kVICParse, run_bind, run_ite, run_pure,
    apply_ite EdidParser.mHdmi4k2kVIC, mHdmi4k2kVIC_deepColor, ite_self]
  simp only [run_byte, hlong 7 (by decide), hpresent, hne, hviclen, hsize, if_true, if_false, ne_eq,
    not_false_eq_true]

theorem cells_extend_update (f : Nat → UInt8) (k : Nat) (b : UInt8) {i : Nat} (h : i ≠ k) :
    (extend mem x (Function.update f k b)).cells (x.add i) = (extend mem x f).cells (x.add i) := by
  rw [cells_extend, cells_extend, Function.update_of_ne h]

section lastCode

variable {f : Nat → UInt8} {skip n : Nat}

/-- The last code of an HDMI 1.x block is `b`, and nothing else of the list changes with `b`. -/
theorem mHdmi4k2kVIC_extend_update (hlen : 7 < payload mem x) (hid : Starts mem x 1 hdmi1xOui)
    (hpresent : mem.cells (x.add 8) &&& 0x20 ≠ 0) (hskip : skipBytes (mem.cells (x.add 8)) = skip)
    (hviclen : (((extend mem x f).cells (x.add (8 + skip)) &&& 0xE0) >>> 5).toNat = n + 1)
    (hle : n + 1 ≤ 4) (hbehind : payload mem x < 8 + skip + (n + 1)) (b : UInt8) :
    (run (extend mem x (Function.update f (8 + skip + (n + 1)) b)).cells
      (vendorSpecificDataBlock x s)).mHdmi4k2kVIC = s.mHdmi4k2kVIC ++
        (run (extend mem x f).cells (bytes (x.add (8 + skip + 1)) 0 n) ++ [b]).filterMap
          hdmi4k2kVIC := by
  have hother : ∀ i, i ≠ 8 + skip + (n + 1) →
      (extend mem x (Function.update f (8 + skip + (n + 1)) b)).cells (x.add i) =
        (extend mem x f).cells (x.add i) := fun i hi => cells_extend_update f _ b hi
  have hlast : (extend mem x (Function.update f (8 + skip + (n + 1)) b)).cells
      (x.add (8 + skip + (n + 1))) = b := by
    rw [cells_extend_of_lt _ hbehind, Function.update_self]
  have hsame : SameBlock mem (extend mem x (Function.update f (8 + skip + (n + 1)) b)) x :=
    sameBlock_extend _
  generalize extend mem x (Function.update f (8 + skip + (n + 1)) b) = m at hother hlast hsame ⊢
  have h8 := hsame 8 hlen
  have hids : ouiAt m x 1 = HDMI1X_Version :=
    (hsame.ouiAt_eq (by omega)).trans (ouiAt_of_starts hid (by omega))
  have hvic : ((m.cells (x.add (8 + skipBytes (m.cells (x.add 8)))) &&& 0xE0) >>> 5).toNat =
      n + 1 := by
    rw [h8, hskip, hother _ (by omega)]
    exact hviclen
  have hlist := mHdmi4k2kVIC_hdmi1p4VSDB (s := s) (by rw [hsame.payload_eq]; exact hlen)
    (by rw [h8]; exact hpresent) hvic (Nat.succ_pos n) hle
  have hadd : ∀ j, (x.add (8 + skip + 1)).add (0 + j) = x.add (8 + skip + (j + 1)) := by
    intro j
    simp only [Addr.add, Addr.mk.injEq, true_and]
    omega
  have hfirst : run m.cells (bytes (x.add (8 + skip + 1)) 0 n) =
      run (extend mem x f).cells (bytes (x.add (8 + skip + 1)) 0 n) := by
    apply run_bytes_congr
    intro j hj
    rw [hadd, hother _ (by omega)]
  rw [run_vendorSpecificDataBlock, if_pos hids]
  show (run m.cells (hdmi1p4VSDB x s)).mHdmi4k2kVIC = _
  rw [hlist, h8, hskip, run_bytes_concat, hfirst, hadd, hlast]

end lastCode

section videoFields

variable {depth : Nat}
  (htag : (mem.cells (x.add 0) &&& 0xE0) >>> 5 = VENDOR_SPECIFIC_DATA_BLOCK)

include htag

/-- An HDMI 1.x block does not leave its last code to the bytes behind it. -/
theorem Determined.lastCode (h : Determined mem depth x s) (hlen : 7 < payload mem x)
    (hid : Starts mem x 1 hdmi1xOui) (hpresent : mem.cells (x.add 8) &&& 0x20 ≠ 0)
    {f : Nat → UInt8} {n : Nat}
    (hviclen : (((extend mem x f).cells
      (x.add (8 + skipBytes (mem.cells (x.add 8)))) &&& 0xE0) >>> 5).toNat = n)
    (hpos : 1 ≤ n) (hle : n ≤ 4) : 8 + skipBytes (mem.cells (x.add 8)) + n ≤ payload mem x := by
  by_contra hbehind
  obtain ⟨n, rfl⟩ : ∃ k, n = k + 1 := ⟨n - 1, by omega⟩
  have hvics := mHdmi4k2kVIC_extend_update (s := s) hlen hid hpresent rfl hviclen hle
    (Nat.lt_of_not_le hbehind)
  have heq := h.vendor_eq htag (Function.update f (8 + skipBytes (mem.cells (x.add 8)) + (n + 1)) 0)
    (Function.update f (8 + skipBytes (mem.cells (x.add 8)) + (n + 1)) 1)
  have hlists := congrArg EdidParser.mHdmi4k2kVIC heq
  rw [hvics, hvics, List.filterMap_append, List.filterMap_append] at hlists
  have hlast := List.append_cancel_left (List.append_cancel_left hlists)
  exact absurd hlast (by decide)

theorem Determined.videoFieldsFit (h : Determined mem depth x s) (hid : Starts mem x 1 hdmi1xOui) :
    VideoFieldsFit mem x := by
  intro hlen hpresent
  by_cases hskip : 8 + skipBytes (mem.cells (x.add 8)) ≤ payload mem x
  · refine ⟨hskip, ?_⟩
    by_contra hnot
    have hviclen := congrArg (fun b : UInt8 => ((b &&& 0xE0) >>> 5).toNat)
      (@sameBlock_extend mem x (fun _ => 0) _ hskip)
    have hle := h.lastCode htag hlen hid hpresent hviclen (by omega) (by omega)
    exact hnot (.inr (.inr hle))
  · -- a list of one code, right behind the payload
    have hviclen := congrArg (fun b : UInt8 => ((b &&& 0xE0) >>> 5).toNat)
      (@cells_extend_of_lt mem x (fun _ => 0x20) _ (Nat.lt_of_not_le hskip))
    have hle := h.lastCode htag hlen hid hpresent hviclen (by decide) (by decide)
    exact absurd (Nat.le_of_succ_le hle) hskip

theorem Determined.vendorComplete (h : Determined mem depth x s) : VendorComplete mem x s :=
  ⟨h.hdmi20 htag, fun hstarts => ⟨h.knownHdmi1x htag hstarts, h.videoFieldsFit htag hstarts⟩⟩

end videoFields

def hdr10PlusTail (x5 : UInt8) : Nat → UInt8
  | 1 => 0x01
  | 2 => 0x8B
  | 3 => 0x84
  | 4 => 0x90
  | 5 => x5
  | _ => 0

theorem Determined.hdr10Plus {depth : Nat} (h : Determined mem depth x s)
    (htag : (mem.cells (x.add 0) &&& 0xE0) >>> 5 = EXTENDED_TAG)
    (hvideo : 1 ≤ payload mem x → mem.cells (x.add 1) = VENDOR_SPECIFIC_VIDEO_DATA_BLOCK)
    (hstarts : Starts mem x 2 hdr10PlusOui) : 5 ≤ payload mem x := by
  by_contra hshort
  have h1 : ∀ x5, (extend mem x (hdr10PlusTail x5)).cells (x.add 1) =
      VENDOR_SPECIFIC_VIDEO_DATA_BLOCK := by
    intro x5
    rw [cells_extend]
    split
    · rename_i hle
      exact hvideo hle
    · rfl
  have hheader : ∀ x5, ((extend mem x (hdr10PlusTail x5)).cells (x.add 0) &&& 0xE0) >>> 5 =
      EXTENDED_TAG := by
    intro x5
    rw [cells_extend, if_pos (Nat.zero_le _), htag]
  have hother : ∀ x5, ¬ IsHfEeodb (extend mem x (hdr10PlusTail x5)) x := by
    intro x5 hhf
    rw [IsHfEeodb, h1] at hhf
    exact absurd hhf.2 (by decide)
  have h5 : ∀ x5, (extend mem x (hdr10PlusTail x5)).cells (x.add 5) = x5 := fun x5 =>
    cells_extend_of_lt _ (by omega)
  have hrun : ∀ x5, run (extend mem x (hdr10PlusTail x5)).cells (parseCeaDataBlocks depth x s) =
      some { s with mAppVer := x5 &&& 0x01 } := by
    intro x5
    have hid : ouiAt (extend mem x (hdr10PlusTail x5)) x 2 = HDR10PLUS_Ver :=
      ouiAt_extend hstarts rfl rfl rfl
    rw [run_parse_extended depth (hheader x5) (h1 x5), run_vendorSpecificVideoDataBlock, if_pos hid,
      h5]
  have heq := h.extend_eq (hother 0) (hother 1)
  rw [hrun, hrun] at heq
  have happ : (0 : UInt8) &&& 0x01 = 1 &&& 0x01 :=
    congrArg EdidParser.mAppVer (Option.some.inj heq)
  exact absurd happ (by decide)

theorem Determined.extendedComplete {depth : Nat} (h : Determined mem depth x s)
    (htag : (mem.cells (x.add 0) &&& 0xE0) >>> 5 = EXTENDED_TAG) : ExtendedComplete mem x := by
  constructor
  · by_contra hnone
    have hempty : Starts mem x 2 hdr10PlusOui := by
      intro j b _ hle
      omega
    have hlen := h.hdr10Plus htag (fun hsome => absurd hsome hnone) hempty
    omega
  · intro hvideo hstarts
    exact h.hdr10Plus htag (fun _ => hvideo) hstarts

/-! ## The condition -/

/-- A data block means what its own bytes say exactly when what is missing of it cannot matter. -/
theorem determined_iff_complete (depth : Nat) (hother : ¬ IsHfEeodb mem x) :
    Determined mem depth x s ↔ Complete mem x s := by
  constructor
  · intro h
    exact ⟨fun htag => h.vendorComplete htag, fun htag => h.extendedComplete htag⟩
  · intro hc
    exact hc.determined hother depth

def firstDataBlock (block : List UInt8) : Memory := fun k =>
  if k < BLOCK_LENGTH + 4 then 0 else block.getD (k - (BLOCK_LENGTH + 4)) 0

/-- An HDMI 1.4 block with nothing but its address. -/
theorem determined_hdmi1x :
    Determined (firstDataBlock [0x65, 0x03, 0x0C, 0x00, 0x10, 0x00]) 0 ⟨1, 4⟩ {} ↔
      Complete (firstDataBlock [0x65, 0x03, 0x0C, 0x00, 0x10, 0x00]) ⟨1, 4⟩ {} :=
  determined_iff_complete 0 (by decide)

/-- The deep color modes of an HDMI Forum block of five bytes are those of the block behind it. -/
theorem not_determined_hdmi20 :
    ¬ Determined (firstDataBlock [0x65, 0xD8, 0x5D, 0xC4, 0x01, 0x78]) 0 ⟨1, 4⟩ {} := by
  intro h
  have hsame : SameBlock (firstDataBlock [0x65, 0xD8, 0x5D, 0xC4, 0x01, 0x78])
      (firstDataBlock [0x65, 0xD8, 0x5D, 0xC4, 0x01, 0x78, 0x23, 0x07]) ⟨1, 4⟩ := by
    intro i hi
    have hlt : i < 6 := Nat.lt_succ_of_le hi
    revert i
    decide
  have hformat := congrArg (Option.map fun s => s.mSupportedFormat .YUV420) (h _ hsame (by decide))
  exact absurd hformat (by decide)

end AwHal.Edid
