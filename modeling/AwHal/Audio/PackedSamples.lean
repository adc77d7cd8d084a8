import AwHal.Lib.ByteMemory
import AwHal.Lib.CNumber
import Mathlib.Tactic.IntervalCases

/-!
# 24-bit samples for the raw output

A stream of packed 24-bit samples is written to a driver that takes 32-bit ones: `out_write` of
`audio_hw_rawdata.c` copies the samples of one channel after the other into a buffer of its own and
extends each of them with its sign.  The frames it counts are those of `out_get_channels`.
-/

namespace AwHal.Audio.PackedSamples

open AwHal.Lib

/-! ## The branch of `out_write` -/

/-- `ext_config.channels`, the `popcount` of a channel mask. -/
structure Channels where
  count : Nat
  pos : 0 < count
  le : count ≤ 32

/-- What the platform's headers have of formats and channel masks. -/
structure AudioHeaders where
  AUDIO_FORMAT_PCM_24_BIT_PACKED : UInt32
  AUDIO_CHANNEL_OUT_STEREO : UInt32
  audio_bytes_per_sample : UInt32 → Nat
  /-- The function asks the stream for its mask and its format. -/
  audio_stream_out_frame_size : UInt32 → UInt32 → Nat

/-- What is documented of it: a stereo frame has two samples. -/
structure AudioHeaders.Documented (h : AudioHeaders) : Prop where
  bytes_per_sample : h.audio_bytes_per_sample h.AUDIO_FORMAT_PCM_24_BIT_PACKED = 3
  frame_size : h.audio_stream_out_frame_size h.AUDIO_CHANNEL_OUT_STEREO
      h.AUDIO_FORMAT_PCM_24_BIT_PACKED =
    2 * h.audio_bytes_per_sample h.AUDIO_FORMAT_PCM_24_BIT_PACKED

section

variable (headers : AudioHeaders)

def out_get_channels : UInt32 := headers.AUDIO_CHANNEL_OUT_STEREO

/-- The format of the branch. -/
def out_get_format : UInt32 := headers.AUDIO_FORMAT_PCM_24_BIT_PACKED

def frame_size : Nat :=
  headers.audio_stream_out_frame_size (out_get_channels headers) (out_get_format headers)

end

/-- `buf_conv`: a byte that has not been written has no value. -/
abbrev ConvBuffer : Type := Nat → Option UInt8

def extend (src0 src1 src2 : UInt8) : List UInt8 :=
  [src0, src1, src2, if src2 &&& 0x80 ≠ 0 then 0xff else 0x00]

def put (buf : Memory) (dst src : Nat) (conv : ConvBuffer) : ConvBuffer := fun p =>
  if dst ≤ p ∧ p < dst + 4 then (extend (buf src) (buf (src + 1)) (buf (src + 2)))[p - dst]?
  else conv p

def convertChannel (ch : Nat) (buf : Memory) : Nat → Nat → Nat → ConvBuffer → ConvBuffer
  | 0, _, _, conv => conv
  | samples + 1, dst, src, conv =>
      convertChannel ch buf samples (dst + 4 * ch) (src + 3 * ch) (put buf dst src conv)

def convertChannels (ch samples : Nat) (buf : Memory) : Nat → Nat → ConvBuffer → ConvBuffer
  | 0, _, conv => conv
  | left + 1, idx, conv =>
      convertChannels ch samples buf left (idx + 1)
        (convertChannel ch buf samples (4 * idx) (3 * idx) conv)

/-- What `pcm_write` is given.  Nothing if an `int` overflows, or for a size that `malloc` cannot
have. -/
def convert (headers : AudioHeaders) (channels : Channels) (buf : Memory) (bytes : Nat) :
    Option (List (Option UInt8)) :=
  let ch := channels.count
  let out_frames := bytes / frame_size headers
  let write_len := wrapInt (out_frames * frame_size headers : Nat)
  let sample_size := headers.audio_bytes_per_sample headers.AUDIO_FORMAT_PCM_24_BIT_PACKED
  let samples := wrapInt (toSize write_len / sample_size / ch : Nat)
  if FitsInt (write_len * 4) then
    let buf_conv_len := (write_len * 4).tdiv 3
    if buf_conv_len < 0 then none
    else
      let buf_conv := convertChannels ch samples.toNat buf ch 0 fun _ => none
      some ((List.range buf_conv_len.toNat).map buf_conv)
  else none

/-! ## Samples -/

def sample (src0 src1 src2 : UInt8) : BitVec 24 :=
  src2.toBitVec ++ src1.toBitVec ++ src0.toBitVec

def littleEndian (x : BitVec 32) : List UInt8 :=
  [⟨x.extractLsb' 0 8⟩, ⟨x.extractLsb' 8 8⟩, ⟨x.extractLsb' 16 8⟩, ⟨x.extractLsb' 24 8⟩]

def extended (buf : Memory) (n : Nat) : List UInt8 :=
  (List.range n).flatMap fun k =>
    littleEndian ((sample (buf (3 * k)) (buf (3 * k + 1)) (buf (3 * k + 2))).signExtend 32)

/-- The driver gets the first samples of the buffer and no other bytes, and none of the complete
frames is left out. -/
def Converts (channels : Channels) (buf : Memory) (bytes : Nat)
    (written : Option (List (Option UInt8))) : Prop :=
  ∃ n, 3 * n ≤ bytes ∧ bytes / (3 * channels.count) * channels.count ≤ n ∧
    written = some ((extended buf n).map some)

theorem extractLsb'_signExtend {x : BitVec 24} {start : Nat} (h : start + 8 ≤ 24) :
    (x.signExtend 32).extractLsb' start 8 = x.extractLsb' start 8 := by
  apply BitVec.eq_of_getLsbD_eq
  intro i hi
  simp only [BitVec.getLsbD_extractLsb', BitVec.getLsbD_signExtend, hi, decide_true, Bool.true_and,
    if_pos (show start + i < 24 by omega), decide_eq_true (show start + i < 32 by omega)]

theorem extractLsb'_signExtend_high (x : BitVec 24) :
    (x.signExtend 32).extractLsb' 24 8 = if x.msb then 0xff else 0 := by
  apply BitVec.eq_of_getLsbD_eq
  intro i hi
  simp only [BitVec.getLsbD_extractLsb', BitVec.getLsbD_signExtend, hi, decide_true, Bool.true_and,
    if_neg (show ¬ 24 + i < 24 by omega), decide_eq_true (show 24 + i < 32 by omega)]
  cases x.msb with
  | false => simp
  | true =>
      interval_cases i <;> rfl

theorem sample_getLsbD (src0 src1 src2 : UInt8) (i : Nat) :
    (sample src0 src1 src2).getLsbD i =
      if i < 8 then src0.toBitVec.getLsbD i
      else if i < 16 then src1.toBitVec.getLsbD (i - 8)
      else src2.toBitVec.getLsbD (i - 16) := by
  have happend := BitVec.getLsbD_append (x := src2.toBitVec ++ src1.toBitVec) (y := src0.toBitVec)
    (i := i)
  refine happend.trans ?_
  rw [BitVec.getLsbD_append (x := src2.toBitVec) (y := src1.toBitVec)]
  split
  · rfl
  · rename_i hi
    simp only [show i - 8 < 8 ↔ i < 16 by omega, show i - 8 - 8 = i - 16 by omega]

theorem and_sign_ne_zero (b : UInt8) : b &&& 0x80 ≠ 0 ↔ b.toBitVec.getLsbD 7 = true := by
  have hall : ∀ n < 256,
      (UInt8.ofNat n &&& 0x80 ≠ 0 ↔ (UInt8.ofNat n).toBitVec.getLsbD 7 = true) := by
    decide +kernel
  have hb := hall b.toNat b.toNat_lt
  rwa [UInt8.ofNat_toNat] at hb

/-- The last byte repeats the sign. -/
theorem extend_eq (src0 src1 src2 : UInt8) :
    extend src0 src1 src2 = littleEndian ((sample src0 src1 src2).signExtend 32) := by
  have h0 : (sample src0 src1 src2).extractLsb' 0 8 = src0.toBitVec := by
    apply BitVec.eq_of_getLsbD_eq
    intro i hi
    rw [BitVec.getLsbD_extractLsb', sample_getLsbD, if_pos (by omega), decide_eq_true hi,
      Bool.true_and, Nat.zero_add]
  have h1 : (sample src0 src1 src2).extractLsb' 8 8 = src1.toBitVec := by
    apply BitVec.eq_of_getLsbD_eq
    intro i hi
    rw [BitVec.getLsbD_extractLsb', sample_getLsbD, if_neg (by omega), if_pos (by omega),
      decide_eq_true hi, Bool.true_and, Nat.add_sub_cancel_left]
  have h2 : (sample src0 src1 src2).extractLsb' 16 8 = src2.toBitVec := by
    apply BitVec.eq_of_getLsbD_eq
    intro i hi
    rw [BitVec.getLsbD_extractLsb', sample_getLsbD, if_neg (by omega), if_neg (by omega),
      decide_eq_true hi, Bool.true_and, Nat.add_sub_cancel_left]
  have hsign : (sample src0 src1 src2).msb = src2.toBitVec.getLsbD 7 :=
    sample_getLsbD src0 src1 src2 23
  rw [littleEndian, extractLsb'_signExtend (by decide), extractLsb'_signExtend (by decide),
    extractLsb'_signExtend (by decide), extractLsb'_signExtend_high, h0, h1, h2, hsign, extend]
  simp only [and_sign_ne_zero]
  cases src2.toBitVec.getLsbD 7 <;> rfl

/-! ## The copied bytes -/

def extendedByte (buf : Memory) (p : Nat) : Option UInt8 :=
  (extend (buf (3 * (p / 4))) (buf (3 * (p / 4) + 1)) (buf (3 * (p / 4) + 2)))[p % 4]?

theorem put_apply (buf : Memory) (k : Nat) (conv : ConvBuffer) (p : Nat) :
    put buf (4 * k) (3 * k) conv p = if p / 4 = k then extendedByte buf p else conv p := by
  unfold put
  by_cases hk : p / 4 = k
  · rw [if_pos (by omega), if_pos hk, extendedByte, hk, show p - 4 * k = p % 4 by omega]
  · rw [if_neg (by omega), if_neg hk]

theorem convertChannel_apply {ch idx : Nat} (hidx : idx < ch) (buf : Memory) (samples j : Nat)
    (conv : ConvBuffer) (p : Nat) :
    convertChannel ch buf samples (4 * (ch * j + idx)) (3 * (ch * j + idx)) conv p =
      if p / 4 % ch = idx ∧ j ≤ p / 4 / ch ∧ p / 4 / ch < j + samples then extendedByte buf p
      else conv p := by
  induction samples generalizing j conv with
  | zero =>
      rw [convertChannel, if_neg (by omega)]
  | succ samples ih =>
      have hdst : 4 * (ch * j + idx) + 4 * ch = 4 * (ch * (j + 1) + idx) := by
        rw [Nat.mul_succ]
        omega
      have hsrc : 3 * (ch * j + idx) + 3 * ch = 3 * (ch * (j + 1) + idx) := by
        rw [Nat.mul_succ]
        omega
      have hat : p / 4 = ch * j + idx ↔ p / 4 % ch = idx ∧ p / 4 / ch = j := by
        constructor
        · intro heq
          rw [heq, Nat.mul_add_mod, Nat.mod_eq_of_lt hidx, Nat.mul_add_div (by omega),
            Nat.div_eq_of_lt hidx]
          exact ⟨rfl, rfl⟩
        · rintro ⟨hmod, hdiv⟩
          rw [← hmod, ← hdiv, Nat.div_add_mod]
      rw [convertChannel, hdst, hsrc, ih, put_apply]
      simp only [hat]
      split_ifs <;> first | rfl | omega

theorem convertChannels_apply {ch : Nat} (samples : Nat) (buf : Memory) {left idx : Nat}
    (h : idx + left = ch) (conv : ConvBuffer) (p : Nat) :
    convertChannels ch samples buf left idx conv p =
      if idx ≤ p / 4 % ch ∧ p / 4 / ch < samples ∧ 0 < ch then extendedByte buf p else conv p := by
  induction left generalizing idx conv with
  | zero =>
      have hmod : 0 < ch → p / 4 % ch < ch := Nat.mod_lt _
      rw [convertChannels, if_neg]
      rintro ⟨hle, -, hpos⟩
      have := hmod hpos
      omega
  | succ left ih =>
      have hidx : idx < ch := by omega
      have hchannel := convertChannel_apply hidx buf samples 0 conv p
      rw [Nat.mul_zero, Nat.zero_add, Nat.zero_add] at hchannel
      rw [convertChannels, ih (by omega), hchannel]
      generalize p / 4 / ch = q
      split_ifs <;> first | rfl | omega

/-- The samples of whole frames are converted, each at its place; nothing else is written. -/
theorem convertChannels_all {ch : Nat} (hch : 0 < ch) (samples : Nat) (buf : Memory) (p : Nat) :
    convertChannels ch samples buf ch 0 (fun _ => none) p =
      if p / 4 < samples * ch then extendedByte buf p else none := by
  rw [convertChannels_apply samples buf (Nat.zero_add ch)]
  simp only [Nat.zero_le, true_and, hch, and_true, Nat.div_lt_iff_lt_mul hch]

theorem extendedByte_four (buf : Memory) (k : Nat) :
    (List.range 4).map (fun i => extendedByte buf (4 * k + i)) =
      (littleEndian ((sample (buf (3 * k)) (buf (3 * k + 1)) (buf (3 * k + 2))).signExtend 32)).map
        some := by
  have hdiv : ∀ i < 4, (4 * k + i) / 4 = k := fun i hi => by omega
  have hmod : ∀ i < 4, (4 * k + i) % 4 = i := fun i hi => by omega
  rw [← extend_eq]
  simp only [List.range_succ, List.range_zero, List.nil_append, List.map_append, List.map_cons,
    List.map_nil, extendedByte, hdiv 0 (by decide), hdiv 1 (by decide), hdiv 2 (by decide),
    hdiv 3 (by decide), hmod 0 (by decide), hmod 1 (by decide), hmod 2 (by decide),
    hmod 3 (by decide)]
  rfl

theorem map_extended (buf : Memory) (n : Nat) :
    (extended buf n).map some = (List.range (4 * n)).map (extendedByte buf) := by
  induction n with
  | zero => rfl
  | succ n ih =>
      rw [extended, List.range_succ, List.flatMap_append, List.map_append, ← extended, ih,
        List.flatMap_singleton, ← extendedByte_four, Nat.mul_succ, List.range_add, List.map_append,
        List.map_map]
      rfl

theorem extendedByte_eq_some (buf : Memory) (p : Nat) : ∃ b, extendedByte buf p = some b := by
  have hlt : p % 4 < (extend (buf (3 * (p / 4))) (buf (3 * (p / 4) + 1))
      (buf (3 * (p / 4) + 2))).length := Nat.mod_lt p (by decide)
  exact ⟨_, List.getElem?_eq_getElem hlt⟩

/-! ## Lengths -/

theorem toSize_natCast {n : Nat} (h : n < 2 ^ 64) : toSize n = n := by
  have hlt : (n : Int) < (SIZE_MAX + 1 : Nat) := Int.ofNat_lt.mpr h
  rw [toSize, Int.emod_eq_of_lt (Int.natCast_nonneg n) hlt, Int.toNat_natCast]

theorem toNat_tdiv_three_le {x : Int} (h : FitsInt x) : (x.tdiv 3).toNat ≤ 715827882 := by
  unfold FitsInt at h
  by_cases hpos : 0 ≤ x
  · rw [Int.tdiv_eq_ediv_of_nonneg hpos]
    omega
  · have hneg : x.tdiv 3 = -(-x / 3) := by
      rw [← Int.tdiv_eq_ediv_of_nonneg (by omega : 0 ≤ -x), Int.neg_tdiv, Int.neg_neg]
    rw [hneg]
    omega

section Lengths

variable {headers : AudioHeaders} (hdoc : headers.Documented) (channels : Channels) (buf : Memory)
  (bytes : Nat)

include hdoc

theorem frame_size_eq : frame_size headers = 6 := by
  have hframe := hdoc.frame_size
  rw [hdoc.bytes_per_sample] at hframe
  exact hframe

theorem framesLength_eq :
    bytes / frame_size headers * frame_size headers = 6 * (bytes / 6) := by
  rw [frame_size_eq hdoc, Nat.mul_comm]

theorem convert_eq (h : 24 * (bytes / 6) < 2 ^ 31) :
    convert headers channels buf bytes = some ((List.range (8 * (bytes / 6))).map fun p =>
      if p / 4 < 2 * (bytes / 6) / channels.count * channels.count then extendedByte buf p
      else none) := by
  have hframes := framesLength_eq hdoc bytes
  generalize bytes / 6 = m at h hframes ⊢
  have hlen : wrapInt ((6 * m : Nat) : Int) = (6 * m : Nat) := by
    apply wrapInt_of_fits
    unfold FitsInt
    omega
  have hsize : toSize ((6 * m : Nat) : Int) = 6 * m := toSize_natCast (by omega)
  have hdiv : 6 * m / headers.audio_bytes_per_sample headers.AUDIO_FORMAT_PCM_24_BIT_PACKED =
      2 * m := by
    rw [hdoc.bytes_per_sample]
    omega
  have hle : 2 * m / channels.count ≤ 2 * m := Nat.div_le_self _ _
  have hsamples : wrapInt ((2 * m / channels.count : Nat) : Int) =
      (2 * m / channels.count : Nat) := by
    apply wrapInt_of_fits
    unfold FitsInt
    generalize 2 * m / channels.count = q at hle ⊢
    omega
  have hconv : (((6 * m : Nat) : Int) * 4).tdiv 3 = (8 * m : Nat) := by
    rw [Int.tdiv_eq_ediv_of_nonneg (by omega)]
    omega
  have hfits : FitsInt (((6 * m : Nat) : Int) * 4) := by
    unfold FitsInt
    omega
  have hcopied := funext (convertChannels_all channels.pos (2 * m / channels.count) buf)
  simp only [convert, hframes, hlen, hsize, hdiv, hsamples, hconv, Int.toNat_natCast, hcopied]
  rw [if_pos hfits, if_neg (by omega)]

theorem not_converts_of_long (h : 2 ^ 31 ≤ 24 * (bytes / 6)) :
    ¬ Converts channels buf bytes (convert headers channels buf bytes) := by
  rintro ⟨n, -, hframes, hwritten⟩
  -- Complete frames leave out less than one frame.
  have hmany : bytes / 3 < n + channels.count := by
    have hmod := Nat.mod_lt (bytes / 3) channels.pos
    have hsplit := Nat.div_add_mod (bytes / 3) channels.count
    rw [Nat.div_div_eq_div_mul, Nat.mul_comm] at hsplit
    omega
  have hle := channels.le
  simp only [convert, framesLength_eq hdoc] at hwritten
  split at hwritten
  · rename_i hfits
    split at hwritten
    · cases hwritten
    · have hlength := congrArg List.length (Option.some.inj hwritten)
      rw [map_extended, List.length_map, List.length_map, List.length_range,
        List.length_range] at hlength
      have hbound := toNat_tdiv_three_le hfits
      by_cases hshort : 6 * (bytes / 6) < 2 ^ 31
      · rw [wrapInt_of_fits (by unfold FitsInt; omega)] at hfits
        unfold FitsInt at hfits
        omega
      · omega
  · cases hwritten

theorem converts_iff_of_short (h : 24 * (bytes / 6) < 2 ^ 31) :
    Converts channels buf bytes (convert headers channels buf bytes) ↔
      channels.count ∣ 2 * (bytes / 6) ∧ (channels.count = 1 → bytes % 6 < 3) := by
  rw [convert_eq hdoc channels buf bytes h]
  constructor
  · rintro ⟨n, -, hframes, hwritten⟩
    have hmap := Option.some.inj hwritten
    rw [map_extended] at hmap
    have hlength := congrArg List.length hmap
    rw [List.length_map, List.length_map, List.length_range, List.length_range] at hlength
    constructor
    · by_contra hdvd
      have hle : 2 * (bytes / 6) / channels.count * channels.count ≤ 2 * (bytes / 6) :=
        Nat.div_mul_le_self _ _
      have hne : 2 * (bytes / 6) / channels.count * channels.count ≠ 2 * (bytes / 6) := fun heq =>
        hdvd (Dvd.intro_left _ heq)
      -- The last sample has not been copied.
      have hlast := congrArg (fun l => l[4 * (2 * (bytes / 6) - 1)]?) hmap
      obtain ⟨b, hb⟩ := extendedByte_eq_some buf (4 * (2 * (bytes / 6) - 1))
      simp only [List.getElem?_map] at hlast
      rw [List.getElem?_range (by omega), List.getElem?_range (by omega), Option.map_some,
        Option.map_some, if_neg (by omega), hb] at hlast
      cases hlast
    · intro hone
      rw [hone] at hframes
      omega
  · rintro ⟨hdvd, hone⟩
    refine ⟨2 * (bytes / 6), by omega, ?_, ?_⟩
    · rw [← Nat.div_div_eq_div_mul]
      have hle := Nat.div_mul_le_self (bytes / 3) channels.count
      by_contra hmore
      have heq : bytes / 3 / channels.count * channels.count = 2 * (bytes / 6) + 1 := by omega
      have hnext : channels.count ∣ 2 * (bytes / 6) + 1 := Dvd.intro_left _ heq
      have hch : channels.count = 1 := Nat.dvd_one.mp ((Nat.dvd_add_right hdvd).mp hnext)
      have := hone hch
      omega
    · have hlength : 8 * (bytes / 6) = 4 * (2 * (bytes / 6)) := by omega
      rw [map_extended, Nat.div_mul_cancel hdvd, hlength]
      congr 1
      apply List.map_congr_left
      intro p hp
      rw [List.mem_range] at hp
      rw [if_pos (by omega)]

end Lengths

/-- The samples reach the driver whole, in order and with nothing else exactly when the channels divide
the samples of whole stereo frames, a single channel leaves no sample over, and the sizes fit an
`int`. -/
theorem convert_converts_iff {headers : AudioHeaders} (hdoc : headers.Documented)
    (channels : Channels) (buf : Memory) (bytes : Nat) :
    Converts channels buf bytes (convert headers channels buf bytes) ↔
      channels.count ∣ 2 * (bytes / 6) ∧ (channels.count = 1 → bytes % 6 < 3) ∧
        24 * (bytes / 6) < 2 ^ 31 := by
  by_cases h : 24 * (bytes / 6) < 2 ^ 31
  · rw [converts_iff_of_short hdoc channels buf bytes h]
    simp only [h, and_true]
  · constructor
    · exact fun hconverts => absurd hconverts (not_converts_of_long hdoc channels buf bytes (by omega))
    · rintro ⟨-, -, hlt⟩
      exact absurd hlt h

/-- The values of the platform: a mask has a bit for each of its channels. -/
def audioHeaders : AudioHeaders where
  AUDIO_FORMAT_PCM_24_BIT_PACKED := 6
  AUDIO_CHANNEL_OUT_STEREO := 3
  audio_bytes_per_sample format := if format = 6 then 3 else if format = 1 then 2 else 4
  audio_stream_out_frame_size mask format :=
    (List.range 32).countP mask.toNat.testBit *
      if format = 6 then 3 else if format = 1 then 2 else 4

theorem documented_audioHeaders : audioHeaders.Documented := ⟨by decide, by decide⟩

/-- Two channels and two frames. -/
theorem convert_two_channels :
    Converts ⟨2, by decide, by decide⟩ Memory.zero 12
        (convert audioHeaders ⟨2, by decide, by decide⟩ Memory.zero 12) ↔
      2 ∣ 2 * (12 / 6) ∧ (2 = 1 → 12 % 6 < 3) ∧ 24 * (12 / 6) < 2 ^ 31 :=
  convert_converts_iff documented_audioHeaders ⟨2, by decide, by decide⟩ Memory.zero 12

/-- Six channels and two stereo frames: the four samples are no frame, and 16 bytes without a value
are written. -/
theorem convert_six_channels :
    ¬ Converts ⟨6, by decide, by decide⟩ Memory.zero 12
      (convert audioHeaders ⟨6, by decide, by decide⟩ Memory.zero 12) := by
  rw [converts_iff_of_short documented_audioHeaders _ _ _ (by decide)]
  decide

end AwHal.Audio.PackedSamples
