import AwHal.Lib.ByteMemory
import Mathlib.Algebra.Group.Nat.Even

/-!
# Pictures from YUYV

`YUYVToNV12` and `YUYVToNV21` of `V4L2CameraDevice2.cpp`: they split a picture, in which two columns
share a U and a V, into a luma plane and a plane of chroma pairs.  Pictures are small enough for their
sizes to be `int`s.
-/

namespace AwHal.Camera.YuyvConvert

open AwHal.Lib

/-- What the loop body writes for column `j` of rows `i` and `i + 1`: two luma bytes, and a chroma byte
if there is one. -/
def bodyWrites (chroma : Option UInt8) (yuyv : Nat → UInt8) (width height i j : Nat) : List Write :=
  [⟨i * width + j, [yuyv (i * width * 2 + j * 2)]⟩,
    ⟨(i + 1) * width + j, [yuyv ((i + 1) * width * 2 + j * 2)]⟩] ++
  chroma.toList.map fun byte => ⟨width * height + i * width / 2 + j, [byte]⟩

def convert (chroma : Nat → Nat → Option UInt8) (yuyv : Nat → UInt8) (width height : Nat) :
    List Write :=
  (List.range ((height + 1) / 2)).flatMap fun r =>
    (List.range width).flatMap fun j =>
      bodyWrites (chroma (2 * r) j) yuyv width height (2 * r) j

def YUYVToNV12 (yuyv : Nat → UInt8) (width height : Nat) : List Write :=
  convert (fun i j => some (yuyv (i * width * 2 + j * 2 + 1))) yuyv width height

/-- The byte for an odd column comes from the next column, that for an even one from the one before. -/
def YUYVToNV21 (yuyv : Nat → UInt8) (width height : Nat) : List Write :=
  convert
    (fun i j =>
      if j % 2 ≠ 0 then
        if j + 1 < width then some (yuyv (i * width * 2 + (j + 1) * 2 + 1)) else none
      else if j > 1 then some (yuyv (i * width * 2 + (j - 1) * 2 + 1)) else none)
    yuyv width height

/-! ## What both have in common -/

variable {chroma : Nat → Nat → Option UInt8} {yuyv : Nat → UInt8} {width height : Nat}

theorem mem_convert {w : Write} :
    w ∈ convert chroma yuyv width height ↔
      ∃ r < (height + 1) / 2, ∃ j < width,
        w ∈ bodyWrites (chroma (2 * r) j) yuyv width height (2 * r) j := by
  simp only [convert, List.mem_flatMap, List.mem_range]

theorem mem_bodyWrites {byte : Option UInt8} {i j : Nat} {w : Write} :
    w ∈ bodyWrites byte yuyv width height i j ↔
      w = ⟨i * width + j, [yuyv (i * width * 2 + j * 2)]⟩ ∨
      w = ⟨(i + 1) * width + j, [yuyv ((i + 1) * width * 2 + j * 2)]⟩ ∨
      ∃ b, byte = some b ∧ ⟨width * height + i * width / 2 + j, [b]⟩ = w := by
  simp [bodyWrites]

theorem chromaRow (width r : Nat) : 2 * r * width / 2 = r * width := by
  rw [Nat.mul_assoc, Nat.mul_div_cancel_left _ Nat.two_pos]

def byteAt (chroma : Nat → Nat → Option UInt8) (yuyv : Nat → UInt8) (width height x : Nat) : UInt8 :=
  if x < width * height then yuyv (x * 2)
  else (chroma (2 * ((x - width * height) / width)) ((x - width * height) % width)).getD 0

theorem place_div {r j : Nat} (hj : j < width) : (r * width + j) / width = r := by
  rw [Nat.mul_comm, Nat.mul_add_div (Nat.zero_lt_of_lt hj), Nat.div_eq_of_lt hj, Nat.add_zero]

theorem place_mod {r j : Nat} (hj : j < width) : (r * width + j) % width = j := by
  rw [Nat.mul_comm, Nat.mul_add_mod, Nat.mod_eq_of_lt hj]

theorem column_lt {i j n : Nat} (hi : i < n) (hj : j < width) : i * width + j < width * n := by
  have hle : (i + 1) * width ≤ n * width := Nat.mul_le_mul_right width hi
  rw [Nat.succ_mul, Nat.mul_comm n] at hle
  omega

theorem bytes_convert (hheight : Even height) :
    ∀ w ∈ convert chroma yuyv width height, w.bytes = [byteAt chroma yuyv width height w.addr] := by
  obtain ⟨h, rfl⟩ := hheight
  intro w hw
  obtain ⟨r, hr, j, hj, hw⟩ := mem_convert.mp hw
  have hluma : ∀ i < h + h, [yuyv (i * width * 2 + j * 2)] =
      [byteAt chroma yuyv width (h + h) (i * width + j)] := by
    intro i hi
    rw [byteAt, if_pos (column_lt hi hj), Nat.add_mul]
  rcases mem_bodyWrites.mp hw with rfl | rfl | ⟨b, hb, rfl⟩
  · exact hluma (2 * r) (by omega)
  · exact hluma (2 * r + 1) (by omega)
  · dsimp only
    rw [byteAt, if_neg (by omega), Nat.add_assoc, Nat.add_sub_cancel_left, chromaRow, place_div hj,
      place_mod hj, hb]
    rfl

theorem covers_convert (hheight : Even height) {x : Nat} :
    Write.Covers (convert chroma yuyv width height) x ↔
      x < width * height ∨
      ∃ r < height / 2, ∃ j < width, (chroma (2 * r) j).isSome ∧
        x = width * height + r * width + j := by
  obtain ⟨h, rfl⟩ := hheight
  constructor
  · rintro ⟨w, hw, hle, hlt⟩
    obtain ⟨r, hr, j, hj, hw⟩ := mem_convert.mp hw
    rcases mem_bodyWrites.mp hw with rfl | rfl | ⟨b, hb, rfl⟩
    · have hin := column_lt (show 2 * r < h + h by omega) hj
      exact .inl (by simp at hle hlt; omega)
    · have hin := column_lt (show 2 * r + 1 < h + h by omega) hj
      exact .inl (by simp at hle hlt; omega)
    · refine .inr ⟨r, by omega, j, hj, by rw [hb]; rfl, ?_⟩
      rw [chromaRow] at hle hlt
      simp at hle hlt
      omega
  · rintro (hx | ⟨r, hr, j, hj, hsome, rfl⟩)
    · -- a luma place is in the upper or in the lower row of the rows that `r` counts
      have hpos : 0 < width := Nat.pos_of_mul_pos_right (Nat.zero_lt_of_lt hx)
      have hj : x % width < width := Nat.mod_lt x hpos
      have hrow : x / width < h + h := Nat.div_lt_of_lt_mul hx
      have hx : x = x / width * width + x % width := (Nat.div_add_mod' x width).symm
      rcases Nat.mod_two_eq_zero_or_one (x / width) with hmod | hmod
      · have hi : 2 * (x / width / 2) = x / width := by omega
        refine ⟨_, mem_convert.mpr ⟨x / width / 2, by omega, x % width, hj, mem_bodyWrites.mpr
          (.inl rfl)⟩, ?_, ?_⟩
        · rw [hi, ← hx]
        · rw [hi, ← hx]
          exact Nat.lt_succ_self x
      · have hi : 2 * (x / width / 2) + 1 = x / width := by omega
        refine ⟨_, mem_convert.mpr ⟨x / width / 2, by omega, x % width, hj, mem_bodyWrites.mpr
          (.inr (.inl rfl))⟩, ?_, ?_⟩
        · rw [hi, ← hx]
        · rw [hi, ← hx]
          exact Nat.lt_succ_self x
    · obtain ⟨b, hb⟩ := Option.isSome_iff_exists.mp hsome
      refine ⟨⟨width * (h + h) + 2 * r * width / 2 + j, [b]⟩, ?_, ?_, ?_⟩
      · exact mem_convert.mpr ⟨r, by omega, j, hj, mem_bodyWrites.mpr (.inr (.inr ⟨b, hb, rfl⟩))⟩
      · rw [chromaRow]
      · rw [chromaRow]
        exact Nat.lt_succ_self _

theorem run_luma (hheight : Even height) {x : Nat} (hx : x < width * height) (m : Memory) :
    Write.run (convert chroma yuyv width height) m x = yuyv (x * 2) := by
  rw [Write.run_of_covers (bytes_convert hheight) ((covers_convert hheight).mpr (.inl hx)), byteAt,
    if_pos hx]

theorem run_chroma (hheight : Even height) {r j : Nat} (hr : r < height / 2) (hj : j < width)
    (m : Memory) :
    Write.run (convert chroma yuyv width height) m (width * height + r * width + j) =
      (chroma (2 * r) j).getD (m (width * height + r * width + j)) := by
  cases hchroma : chroma (2 * r) j with
  | none =>
      apply Write.run_of_not_covers
      rw [covers_convert hheight]
      rintro (hx | ⟨r', _, j', hj', hsome, heq⟩)
      · omega
      · -- no other row and column have this place
        have hplace : r * width + j = r' * width + j' := by omega
        have hrow : r = (r' * width + j') / width := by rw [← hplace, place_div hj]
        have hcolumn : j = (r' * width + j') % width := by rw [← hplace, place_mod hj]
        rw [place_div hj'] at hrow
        rw [place_mod hj'] at hcolumn
        rw [← hrow, ← hcolumn, hchroma] at hsome
        cases hsome
  | some byte =>
      rw [Write.run_of_covers (bytes_convert hheight), byteAt, if_neg (by omega), Nat.add_assoc,
        Nat.add_sub_cancel_left, place_div hj, place_mod hj, hchroma]
      · rfl
      · exact (covers_convert hheight).mpr (.inr ⟨r, hr, j, hj, by rw [hchroma]; rfl, rfl⟩)

/-! ## The two pictures -/

/-- Both fill the whole picture, the luma planes are the same, and so are the chroma pairs but for their
order. -/
structure AgreeUpToChromaOrder (yuyv : Nat → UInt8) (width height : Nat) : Prop where
  covers_nv12 : ∀ x,
    Write.Covers (YUYVToNV12 yuyv width height) x ↔ x < width * height * 3 / 2
  covers_nv21 : ∀ x,
    Write.Covers (YUYVToNV21 yuyv width height) x ↔ x < width * height * 3 / 2
  luma : ∀ nv12 nv21 : Memory, ∀ x < width * height,
    Write.run (YUYVToNV21 yuyv width height) nv21 x =
      Write.run (YUYVToNV12 yuyv width height) nv12 x
  chroma : ∀ nv12 nv21 : Memory, ∀ p < width * height / 4,
    Write.run (YUYVToNV21 yuyv width height) nv21 (width * height + 2 * p) =
        Write.run (YUYVToNV12 yuyv width height) nv12 (width * height + 2 * p + 1) ∧
      Write.run (YUYVToNV21 yuyv width height) nv21 (width * height + 2 * p + 1) =
        Write.run (YUYVToNV12 yuyv width height) nv12 (width * height + 2 * p)

theorem luma_eq (yuyv : Nat → UInt8) (hheight : Even height) (nv12 nv21 : Memory) {x : Nat}
    (hx : x < width * height) :
    Write.run (YUYVToNV21 yuyv width height) nv21 x =
      Write.run (YUYVToNV12 yuyv width height) nv12 x := by
  rw [YUYVToNV21, YUYVToNV12, run_luma hheight hx, run_luma hheight hx]

theorem covers_YUYVToNV12 (yuyv : Nat → UInt8) (width : Nat) (hheight : Even height) (x : Nat) :
    Write.Covers (YUYVToNV12 yuyv width height) x ↔ x < width * height * 3 / 2 := by
  rw [YUYVToNV12, covers_convert hheight]
  obtain ⟨h, rfl⟩ := hheight
  have hsize : width * (h + h) * 3 / 2 = width * (h + h) + width * h := by
    rw [Nat.mul_add]
    omega
  have hhalf : (h + h) / 2 = h := by omega
  rw [hsize, hhalf]
  constructor
  · rintro (hx | ⟨r, hr, j, hj, _, rfl⟩)
    · exact Nat.lt_add_right _ hx
    · have hplace := column_lt hr hj
      omega
  · intro hx
    rcases Nat.lt_or_ge x (width * (h + h)) with hluma | hchroma
    · exact .inl hluma
    · have hy : x - width * (h + h) < width * h := by omega
      have hpos : 0 < width := Nat.pos_of_mul_pos_right (Nat.zero_lt_of_lt hy)
      have hplace := Nat.div_add_mod' (x - width * (h + h)) width
      exact .inr ⟨(x - width * (h + h)) / width, Nat.div_lt_of_lt_mul hy,
        (x - width * (h + h)) % width, Nat.mod_lt _ hpos, rfl, by omega⟩

/-- Between the first and the last column a chroma byte of `YUYVToNV21` is that of the pair next to the
one it belongs to. -/
theorem run_YUYVToNV21 (yuyv : Nat → UInt8) (hheight : Even height) {r j : Nat}
    (hr : r < height / 2) (hfirst : 0 < j) (hlast : j + 1 < width) (nv12 nv21 : Memory) :
    Write.run (YUYVToNV21 yuyv width height) nv21 (width * height + r * width + j) =
      Write.run (YUYVToNV12 yuyv width height) nv12
        (width * height + r * width + if j % 2 ≠ 0 then j + 1 else j - 1) := by
  rw [YUYVToNV21, run_chroma hheight hr (by omega)]
  split
  · rw [YUYVToNV12, run_chroma hheight hr hlast]
    rfl
  · rw [if_pos (by omega), YUYVToNV12, run_chroma hheight hr (by omega)]
    rfl

/-- The two agree for pictures without pixels only: for all others the first chroma byte of a row of
`YUYVToNV21` is not written. -/
theorem agreeUpToChromaOrder_iff (yuyv : Nat → UInt8) (hwidth : Even width) (hheight : Even height) :
    AgreeUpToChromaOrder yuyv width height ↔ width = 0 ∨ height = 0 := by
  constructor
  · intro h
    by_contra hempty
    have hw : 2 ≤ width := by
      obtain ⟨n, rfl⟩ := hwidth
      omega
    have hsize : 2 * 1 ≤ width * height := Nat.mul_le_mul hw (by omega)
    have hcover := (h.covers_nv21 (width * height)).mpr (by omega)
    rcases (covers_convert hheight).mp hcover with hluma | ⟨r, _, j, hj, hsome, heq⟩
    · exact Nat.lt_irrefl _ hluma
    · -- the first place is that of column 0, which has no byte
      have hj : j = 0 := by omega
      rw [hj] at hsome
      cases hsome
  · intro hempty
    have hsize : width * height = 0 := by
      rcases hempty with rfl | rfl
      · exact Nat.zero_mul height
      · exact Nat.mul_zero width
    constructor
    case covers_nv12 => exact covers_YUYVToNV12 yuyv width hheight
    case covers_nv21 =>
      intro x
      rw [YUYVToNV21, covers_convert hheight, hsize]
      constructor
      · rintro (hx | ⟨r, hr, j, hj, _⟩)
        · exact absurd hx (Nat.not_lt_zero x)
        · omega
      · intro hx
        exact absurd hx (Nat.not_lt_zero x)
    case luma => exact fun nv12 nv21 x hx => luma_eq yuyv hheight nv12 nv21 hx
    case chroma =>
      intro nv12 nv21 p hp
      rw [hsize] at hp
      exact absurd hp (Nat.not_lt_zero p)

theorem not_agreeUpToChromaOrder_vga : ¬ AgreeUpToChromaOrder (fun _ => 128) 640 480 := by
  rw [agreeUpToChromaOrder_iff (fun _ => 128) (by decide) (by decide)]
  decide

/-- In the second place of a row of four is the U of the second pair. -/
theorem not_agreeUpToChromaOrder : ¬ AgreeUpToChromaOrder UInt8.ofNat 4 2 := by
  intro h
  have hpair := (h.chroma Memory.zero Memory.zero 0 (by decide)).2
  exact absurd hpair (by decide)

end AwHal.Camera.YuyvConvert
