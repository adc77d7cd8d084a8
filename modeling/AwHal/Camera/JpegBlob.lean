import AwHal.Lib.ByteMemory
import AwHal.Lib.CNumber

/-!
# The picture in the blob buffer

`V4L2Stream::EncodeBuffer`: the JPEG encoder writes to the start of the buffer, the 3A parameters and
the debug message of the ISP follow the picture, and a header at the end of the buffer says how long it
all is.  Addresses are counted from `dst_addr`.
-/

namespace AwHal.Camera.JpegBlob

open AwHal.Lib

def ISP_3A_PARAM_SIZE : Nat := 81412
def ISP_DEBUG_MSG_SIZE : Nat := 20796

def CAMERA3_JPEG_BLOB_ID : Nat := 0x00ff
def CAMERA3_JPEG_3A_PARAM_BLOB_ID : Nat := 0xAAFFAAFF
def CAMERA3_JPEG_ISP_MSG_BLOB_ID : Nat := 0xABFFABFF

def ISP_DEBUG_MAGIC_STR : List UInt8 := [73, 83, 80, 68, 69, 66, 85, 71]

/-- What `AWJpecEnc` comes to: its result, the length that it reports and the bytes that it writes. -/
structure JpegEnc where
  ret : Int
  bufSize : Int
  jpeg : Nat → UInt8
  bufSize_fits : FitsInt bufSize

/-- What `awIspGet3AParameters` and `awIspGetDebugMessage` write; nothing if there is no ISP. -/
structure AWIspApi where
  parameters : List UInt8
  message : List UInt8

inductive Part where
  | jpeg
  | jpegHeader
  | parameters
  | message
deriving DecidableEq, Repr

structure Memcpy where
  part : Part
  addr : Int
  bytes : List UInt8
deriving DecidableEq

namespace Memcpy

def Covers (w : Memcpy) (x : Int) : Prop := w.addr ≤ x ∧ x < w.addr + w.bytes.length

def run (ws : List Memcpy) (m : Int → UInt8) : Int → UInt8 :=
  ws.foldl (fun m w x => if w.addr ≤ x then w.bytes.getD (x - w.addr).toNat (m x) else m x) m

end Memcpy

def ispHeader (id size : Nat) : List UInt8 := leBytes 4 id ++ leBytes 4 size ++ ISP_DEBUG_MAGIC_STR

def jpeg_3a_size : Nat := 16 + ISP_3A_PARAM_SIZE

def jpeg_isp_msg_size : Nat := 16 + ISP_DEBUG_MSG_SIZE

def jpeg_size (bufSize : Int) : Nat := ((bufSize + jpeg_3a_size + jpeg_isp_msg_size) % 2 ^ 32).toNat

/-- `camera3_jpeg_blob`, with two bytes between the id and the size. -/
def jpegHeader (padding : UInt8 × UInt8) (bufSize : Int) : List UInt8 :=
  leBytes 2 CAMERA3_JPEG_BLOB_ID ++ [padding.1, padding.2] ++ leBytes 4 (jpeg_size bufSize)

def EncodeBuffer (enc : JpegEnc) (isp : AWIspApi) (padding : UInt8 × UInt8) (mJpegBufferSizes : Nat) :
    Int × List Memcpy :=
  let encoded := [⟨.jpeg, 0, (List.range enc.bufSize.toNat).map enc.jpeg⟩]
  -- `false`, as an `int`
  if enc.ret < 0 then (0, encoded)
  else
    (0, encoded ++ [
      ⟨.jpegHeader, mJpegBufferSizes - 8, jpegHeader padding enc.bufSize⟩,
      ⟨.parameters, enc.bufSize, ispHeader CAMERA3_JPEG_3A_PARAM_BLOB_ID jpeg_3a_size⟩,
      ⟨.parameters, enc.bufSize + 16, isp.parameters⟩,
      ⟨.message, enc.bufSize + jpeg_3a_size,
        ispHeader CAMERA3_JPEG_ISP_MSG_BLOB_ID jpeg_isp_msg_size⟩,
      ⟨.message, enc.bufSize + jpeg_3a_size + 16, isp.message⟩])

def load (m : Int → UInt8) (addr : Int) (n : Nat) : List UInt8 :=
  (List.range n).map fun (i : Nat) => m (addr + i)

/-- The call tells whether the encoder failed; and when it returns 0, the payload lies in front of the
header, which is intact and gives the length of the picture with the two blobs behind it. -/
structure Contains (enc : JpegEnc) (isp : AWIspApi) (padding : UInt8 × UInt8)
    (mJpegBufferSizes : Nat) : Prop where
  reports : (EncodeBuffer enc isp padding mJpegBufferSizes).1 ≠ 0 ↔ enc.ret < 0
  inside : (EncodeBuffer enc isp padding mJpegBufferSizes).1 = 0 →
    ∀ w ∈ (EncodeBuffer enc isp padding mJpegBufferSizes).2, w.part ≠ .jpegHeader →
      ∀ x, w.Covers x → 0 ≤ x ∧ x < mJpegBufferSizes - 8
  header : (EncodeBuffer enc isp padding mJpegBufferSizes).1 = 0 → ∀ m,
    load (Memcpy.run (EncodeBuffer enc isp padding mJpegBufferSizes).2 m) (mJpegBufferSizes - 8) 8 =
      jpegHeader padding enc.bufSize
  size : (EncodeBuffer enc isp padding mJpegBufferSizes).1 = 0 →
    (leValue ((jpegHeader padding enc.bufSize).drop 4) : Int) =
      enc.bufSize + jpeg_3a_size + jpeg_isp_msg_size

def Fits (enc : JpegEnc) (isp : AWIspApi) (mJpegBufferSizes : Nat) : Prop :=
  0 ≤ enc.ret ∧ 0 ≤ enc.bufSize ∧
    enc.bufSize + 16 + isp.parameters.length ≤ mJpegBufferSizes - 8 ∧
    enc.bufSize + jpeg_3a_size + 16 + isp.message.length ≤ mJpegBufferSizes - 8

/-! ## Memory after some writes -/

namespace Memcpy

variable {ws : List Memcpy} {x : Int}

theorem run_append (ws ws' : List Memcpy) (m : Int → UInt8) :
    run (ws ++ ws') m = run ws' (run ws m) := List.foldl_append

theorem run_outside (h : ∀ w ∈ ws, ¬ w.Covers x) (m : Int → UInt8) : run ws m x = m x := by
  induction ws generalizing m with
  | nil => rfl
  | cons w ws ih =>
      show run ws _ x = m x
      rw [ih fun w' hw' => h w' (List.mem_cons_of_mem w hw')]
      have hout := h w List.mem_cons_self
      unfold Covers at hout
      dsimp only
      split
      · exact List.getD_eq_default _ _ (by omega)
      · rfl

theorem load_run_single (w : Memcpy) (m : Int → UInt8) :
    load (run [w] m) w.addr w.bytes.length = w.bytes := by
  apply List.ext_getElem
  · simp [load]
  · intro i hi hi'
    simp [load, run, hi']

end Memcpy

/-! ## The header and what is in front of it -/

variable {enc : JpegEnc} {isp : AWIspApi} {padding : UInt8 × UInt8} {mJpegBufferSizes : Nat}

@[simp] theorem length_ispHeader (id size : Nat) : (ispHeader id size).length = 16 := by
  simp [ispHeader, ISP_DEBUG_MAGIC_STR]

@[simp] theorem length_jpegHeader (padding : UInt8 × UInt8) (bufSize : Int) :
    (jpegHeader padding bufSize).length = 8 := by
  simp [jpegHeader]

theorem jpeg_size_eq (hfits : FitsInt enc.bufSize) (h : 0 ≤ enc.bufSize) :
    (jpeg_size enc.bufSize : Int) = enc.bufSize + jpeg_3a_size + jpeg_isp_msg_size := by
  unfold FitsInt at hfits
  unfold jpeg_size jpeg_3a_size jpeg_isp_msg_size ISP_3A_PARAM_SIZE ISP_DEBUG_MSG_SIZE
  omega

theorem result_eq_zero (enc : JpegEnc) (isp : AWIspApi) (padding : UInt8 × UInt8)
    (mJpegBufferSizes : Nat) : (EncodeBuffer enc isp padding mJpegBufferSizes).1 = 0 := by
  unfold EncodeBuffer
  dsimp only
  split <;> rfl

def blobs (enc : JpegEnc) (isp : AWIspApi) : List Memcpy :=
  [⟨.parameters, enc.bufSize, ispHeader CAMERA3_JPEG_3A_PARAM_BLOB_ID jpeg_3a_size⟩,
    ⟨.parameters, enc.bufSize + 16, isp.parameters⟩,
    ⟨.message, enc.bufSize + jpeg_3a_size, ispHeader CAMERA3_JPEG_ISP_MSG_BLOB_ID jpeg_isp_msg_size⟩,
    ⟨.message, enc.bufSize + jpeg_3a_size + 16, isp.message⟩]

def picture (enc : JpegEnc) : Memcpy := ⟨.jpeg, 0, (List.range enc.bufSize.toNat).map enc.jpeg⟩

def trailer (enc : JpegEnc) (padding : UInt8 × UInt8) (mJpegBufferSizes : Nat) : Memcpy :=
  ⟨.jpegHeader, mJpegBufferSizes - 8, jpegHeader padding enc.bufSize⟩

theorem writes_eq (h : 0 ≤ enc.ret) :
    (EncodeBuffer enc isp padding mJpegBufferSizes).2 =
      [picture enc] ++ ([trailer enc padding mJpegBufferSizes] ++ blobs enc isp) := by
  unfold EncodeBuffer
  dsimp only
  rw [if_neg (Int.not_lt.mpr h)]
  rfl

theorem blobs_inside_iff {limit : Int} :
    (∀ w ∈ blobs enc isp, ∀ x, w.Covers x → 0 ≤ x ∧ x < limit) ↔
      0 ≤ enc.bufSize ∧ enc.bufSize + 16 + isp.parameters.length ≤ limit ∧
        enc.bufSize + jpeg_3a_size + 16 + isp.message.length ≤ limit := by
  simp only [blobs, Memcpy.Covers, List.forall_mem_cons, length_ispHeader]
  constructor
  · -- a blob may be empty, but the header in front of it is not
    rintro ⟨hheader, hparameters, hmsgHeader, hmessage, _⟩
    refine ⟨(hheader enc.bufSize (by omega)).1, ?_, ?_⟩
    · have hfirst := hheader (enc.bufSize + 15) (by omega)
      rcases Nat.eq_zero_or_pos isp.parameters.length with hzero | hpos
      · omega
      · have hlast := hparameters (enc.bufSize + 16 + isp.parameters.length - 1) (by omega)
        omega
    · have hfirst := hmsgHeader (enc.bufSize + jpeg_3a_size + 15) (by omega)
      rcases Nat.eq_zero_or_pos isp.message.length with hzero | hpos
      · omega
      · have hlast := hmessage (enc.bufSize + jpeg_3a_size + 16 + isp.message.length - 1) (by omega)
        omega
  · rintro ⟨hpos, hparameters, hmessage⟩
    have hsize : (0 : Int) ≤ jpeg_3a_size := Int.natCast_nonneg _
    refine ⟨?_, ?_, ?_, ?_, fun w hw => nomatch hw⟩ <;> intro x hx <;> omega

/-- `EncodeBuffer` does what it should exactly when the picture was encoded and all of it fits. -/
theorem contains_iff (enc : JpegEnc) (isp : AWIspApi) (padding : UInt8 × UInt8)
    (mJpegBufferSizes : Nat) :
    Contains enc isp padding mJpegBufferSizes ↔ Fits enc isp mJpegBufferSizes := by
  have hresult := result_eq_zero enc isp padding mJpegBufferSizes
  constructor
  · intro h
    have hret : 0 ≤ enc.ret := by
      by_contra hneg
      exact h.reports.mpr (Int.not_le.mp hneg) hresult
    refine ⟨hret, blobs_inside_iff.mp fun w hw => ?_⟩
    refine h.inside hresult w ?_ ?_
    · rw [writes_eq hret]
      exact List.mem_append_right _ (List.mem_append_right _ hw)
    · simp only [blobs, List.mem_cons, List.not_mem_nil, or_false] at hw
      rcases hw with rfl | rfl | rfl | rfl <;> exact fun heq => nomatch heq
  · rintro ⟨hret, hfits⟩
    have hblobs := blobs_inside_iff.mpr hfits
    constructor
    case reports => exact iff_of_false (fun hne => hne hresult) (Int.not_lt.mpr hret)
    case inside =>
      intro _ w hw hpart x hx
      rw [writes_eq hret] at hw
      rcases List.mem_append.mp hw with hw | hw
      · -- the picture ends where the blobs begin
        rw [List.mem_singleton.mp hw] at hx
        simp only [picture, Memcpy.Covers, List.length_map, List.length_range] at hx
        omega
      · rcases List.mem_append.mp hw with hw | hw
        · rw [List.mem_singleton.mp hw] at hpart
          exact absurd rfl hpart
        · exact hblobs w hw x hx
    case header =>
      intro _ m
      rw [writes_eq hret, Memcpy.run_append, Memcpy.run_append]
      -- the blobs end in front of the header and leave it as it is
      have hkeep : ∀ (m : Int → UInt8) (i : Nat), Memcpy.run (blobs enc isp) m
          (mJpegBufferSizes - 8 + i) = m (mJpegBufferSizes - 8 + i) := by
        intro m i
        apply Memcpy.run_outside
        intro w hw hx
        have hlt := (hblobs w hw _ hx).2
        omega
      simp only [load, hkeep]
      have htrailer := Memcpy.load_run_single (trailer enc padding mJpegBufferSizes)
        (Memcpy.run [picture enc] m)
      rw [trailer, length_jpegHeader] at htrailer
      exact htrailer
    case size =>
      intro _
      have hdrop : (jpegHeader padding enc.bufSize).drop 4 = leBytes 4 (jpeg_size enc.bufSize) := rfl
      have hlt : jpeg_size enc.bufSize < 256 ^ 4 := by
        unfold jpeg_size
        omega
      rw [hdrop, leValue_leBytes hlt, jpeg_size_eq enc.bufSize_fits hfits.1]

/-- A picture that cannot be encoded, and one of 100000 bytes in a buffer of 150000. -/
theorem not_contains :
    ¬ Contains ⟨-1, 0, fun _ => 0, by decide⟩ ⟨[], []⟩ (0, 0) 150000 ∧
      ¬ Contains ⟨0, 100000, fun _ => 0, by decide⟩ ⟨[], []⟩ (0, 0) 150000 := by
  constructor
  · intro h
    exact h.reports.mpr (by decide) rfl
  · intro h
    have hheader := h.inside rfl ⟨.message, 181428, ispHeader 0xABFFABFF 20812⟩ ?_ (by decide) 181428
      ?_
    · exact absurd hheader.2 (by decide)
    · rw [writes_eq (by decide)]
      exact List.mem_append_right _ (List.mem_append_right _ (by simp [blobs, jpeg_3a_size,
        ISP_3A_PARAM_SIZE, CAMERA3_JPEG_ISP_MSG_BLOB_ID, jpeg_isp_msg_size, ISP_DEBUG_MSG_SIZE]))
    · simp [Memcpy.Covers]

end AwHal.Camera.JpegBlob
