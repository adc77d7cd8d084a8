import AwHal.Lib.ByteMemory
import Mathlib.Algebra.Group.Nat.Even
import Mathlib.Tactic.Ring

/-!
# Pictures put together by the processor

`composeBuffer4in1` and `composeBuffer2in1` of `CameraManager.cpp` copy NV21 pictures of the same size
next to each other and below each other, as `g2d_compose` and `g2d_compose_two` have the hardware do
it.  All sizes and offsets are `int`s.
-/

namespace AwHal.Camera.ComposePictures

open AwHal.Lib

/-! ## Pictures -/

structure FrameSize where
  mFrameWidth : Nat
  mFrameHeight : Nat
  width_lt : mFrameWidth < 2 ^ 31
  height_lt : mFrameHeight < 2 ^ 31
  even_width : Even mFrameWidth
  even_height : Even mFrameHeight

def luma (picture : Memory) (w x y : Nat) : UInt8 := picture (y * w + x)

/-- The two chroma bytes of column `x` and row `y`: two columns and two rows share them. -/
def chroma (picture : Memory) (w h x y c : Nat) : UInt8 :=
  picture (w * h + (y / 2 * w + (x / 2 * 2 + c)))

/-- The picture shows one luma and one chroma everywhere. -/
def Shows (picture : Memory) (w h : Nat) (y_byte c_byte : UInt8) : Prop :=
  ∀ x < w, ∀ y < h, luma picture w x y = y_byte ∧ ∀ c < 2, chroma picture w h x y c = c_byte

structure Clip where
  psrc : Memory
  src_x : Nat
  src_y : Nat
  w : Nat
  h : Nat
  dst_x : Nat
  dst_y : Nat

def Clip.Covers (clip : Clip) (x y : Nat) : Prop :=
  (clip.dst_x ≤ x ∧ x < clip.dst_x + clip.w) ∧ (clip.dst_y ≤ y ∧ y < clip.dst_y + clip.h)

/-- The clips cover a picture of `w` columns and `h` rows, and it shows what they show; the sources
have `src_w` columns and `src_h` rows. -/
structure Composed (clips : List Clip) (src_w src_h w h : Nat) (picture : Memory) : Prop where
  covered : ∀ x < w, ∀ y < h, ∃ clip ∈ clips, clip.Covers x y
  luma : ∀ x < w, ∀ y < h, ∀ clip ∈ clips, clip.Covers x y →
    luma picture w x y =
      luma clip.psrc src_w (clip.src_x + (x - clip.dst_x)) (clip.src_y + (y - clip.dst_y))
  chroma : ∀ x < w, ∀ y < h, ∀ clip ∈ clips, clip.Covers x y → ∀ c < 2,
    chroma picture w h x y c =
      chroma clip.psrc src_w src_h (clip.src_x + (x - clip.dst_x))
        (clip.src_y + (y - clip.dst_y)) c

/-- The clips of `g2d_compose`, for a picture of twice the width and height. -/
def g2d_compose (psrc1 psrc2 psrc3 psrc4 : Memory) (src_w src_h : Nat) : List Clip :=
  [⟨psrc1, 0, 0, src_w, src_h, 0, 0⟩, ⟨psrc2, 0, 0, src_w, src_h, src_w, 0⟩,
    ⟨psrc3, 0, 0, src_w, src_h, 0, src_h⟩, ⟨psrc4, 0, 0, src_w, src_h, src_w, src_h⟩]

/-- The clips of `g2d_compose_two`, for a picture of twice the height. -/
def g2d_compose_two (psrc1 psrc2 : Memory) (src_w src_h : Nat) : List Clip :=
  [⟨psrc1, 0, 0, src_w / 2, src_h, 0, 0⟩, ⟨psrc1, src_w / 2, 0, src_w / 2, src_h, src_w / 2, 0⟩,
    ⟨psrc2, 0, 0, src_w / 2, src_h, 0, src_h⟩,
    ⟨psrc2, src_w / 2, 0, src_w / 2, src_h, src_w / 2, src_h⟩]

/-! ## Copies -/

/-- The result of an `int` operation; none if it overflows. -/
def int (n : Nat) : Option Nat := if n < 2 ^ 31 then some n else none

def product (a b c : Nat) : Option Nat := (int (a * b)).bind fun ab => int (ab * c)

def memset (buffer : Memory) (offset : Nat) (value : UInt8) (size : Nat) : Memory :=
  buffer.store offset (List.replicate size value)

def memcpy (buffer : Memory) (offset : Nat) (source : Memory) (start size : Nat) : Memory :=
  buffer.store offset (source.load start size)

/-- The loops of `composeBuffer4in1`: `count` passes, with the target at `pbuf` and the sources at
`start`. -/
def copyRows (mFrameWidth pbuf start : Nat) (inBuffer0 inBuffer1 : Memory) :
    Nat → Nat → Nat → Memory → Option Memory
  | 0, _, _, outBuffer => some outBuffer
  | count + 1, i, n, outBuffer => do
      let source ← int (i * mFrameWidth)
      let left ← int (n * mFrameWidth)
      let right ← int ((n + 1) * mFrameWidth)
      let n ← int (n + 2)
      copyRows mFrameWidth pbuf start inBuffer0 inBuffer1 count (i + 1) n
        (memcpy (memcpy outBuffer (pbuf + left) inBuffer0 (start + source) mFrameWidth)
          (pbuf + right) inBuffer1 (start + source) mFrameWidth)

section Compose

variable (f : FrameSize)

/-- A missing input is a null pointer. -/
def composeBuffer2in1 (outBuffer : Memory) (inBuffer0 inBuffer1 : Option Memory) :
    Option Memory := do
  let size_y ← int (f.mFrameWidth * f.mFrameHeight)
  let size_uv := size_y / 2
  match inBuffer0, inBuffer1 with
  | some inBuffer0, some inBuffer1 =>
      let outBuffer := memcpy outBuffer 0 inBuffer0 0 size_y
      let outBuffer := memcpy outBuffer size_y inBuffer1 0 size_y
      let pbuf ← int (size_y * 2)
      let outBuffer := memcpy outBuffer pbuf inBuffer0 size_y size_uv
      some (memcpy outBuffer (pbuf + size_uv) inBuffer1 size_y size_uv)
  | _, _ => some (memset (memset outBuffer 0 0x10 size_y) size_y 0x80 size_uv)

def composeBuffer4in1 (outBuffer : Memory)
    (inBuffer0 inBuffer1 inBuffer2 inBuffer3 : Option Memory) : Option Memory :=
  let mFrameWidth := f.mFrameWidth
  let mFrameHeight := f.mFrameHeight
  match inBuffer0, inBuffer1, inBuffer2, inBuffer3 with
  | some inBuffer0, some inBuffer1, some inBuffer2, some inBuffer3 => do
      let outBuffer ← copyRows mFrameWidth 0 0 inBuffer0 inBuffer1 mFrameHeight 0 0 outBuffer
      let pbuf ← product mFrameHeight mFrameWidth 2
      let outBuffer ← copyRows mFrameWidth pbuf 0 inBuffer2 inBuffer3 mFrameHeight 0 0 outBuffer
      let pbuf ← product mFrameWidth mFrameHeight 4
      let start ← int (mFrameWidth * mFrameHeight)
      let outBuffer ← copyRows mFrameWidth pbuf start inBuffer0 inBuffer1 (mFrameHeight / 2) 0 0
        outBuffer
      let pbuf ← product mFrameWidth mFrameHeight 5
      copyRows mFrameWidth pbuf start inBuffer2 inBuffer3 (mFrameHeight / 2) 0 0 outBuffer
  | _, _, _, _ => do
      let twice ← int (mFrameWidth * 2)
      let size_y ← product twice mFrameHeight 2
      let size_uv ← product mFrameWidth mFrameHeight 2
      some (memset (memset outBuffer 0 0x10 size_y) size_y 0x80 size_uv)

end Compose

/-! ## Rows -/

theorem int_eq {n : Nat} (h : n < 2 ^ 31) : int n = some n := if_pos h

theorem int_eq_some_iff {n m : Nat} : int n = some m ↔ n < 2 ^ 31 ∧ n = m := by
  unfold int
  split <;> simp_all

theorem product_eq {a b c : Nat} (h : a * b < 2 ^ 31) (h' : a * b * c < 2 ^ 31) :
    product a b c = some (a * b * c) := by
  rw [product, int_eq h, Option.bind_some, int_eq h']

theorem memset_inside {buffer : Memory} {offset size i : Nat} {value : UInt8} (h : i < size) :
    memset buffer offset value size (offset + i) = value := by
  rw [memset, Memory.store_inside (by simpa using h), List.getElem_replicate]

theorem memset_outside {buffer : Memory} {offset size x : Nat} {value : UInt8}
    (h : x < offset ∨ offset + size ≤ x) : memset buffer offset value size x = buffer x :=
  Memory.store_outside (by simpa using h)

theorem memcpy_inside {buffer source : Memory} {offset start size i : Nat} (h : i < size) :
    memcpy buffer offset source start size (offset + i) = source (start + i) := by
  rw [memcpy, Memory.store_inside (by simpa using h)]
  simp [Memory.load]

theorem memcpy_outside {buffer source : Memory} {offset start size x : Nat}
    (h : x < offset ∨ offset + size ≤ x) : memcpy buffer offset source start size x = buffer x :=
  Memory.store_outside (by simpa using h)

theorem copyRows_spec {w i n : Nat} (count pbuf start : Nat) (in0 in1 out : Memory)
    (hn : n = 2 * i) (hcount : 2 * (i + count) < 2 ^ 31)
    (hwidth : (i + count) * (2 * w) < 2 ^ 31) :
    ∃ out', copyRows w pbuf start in0 in1 count i n out = some out' ∧
      (∀ r, i ≤ r → r < i + count → ∀ c < w,
        out' (pbuf + (r * (2 * w) + c)) = in0 (start + (r * w + c)) ∧
          out' (pbuf + (r * (2 * w) + (w + c))) = in1 (start + (r * w + c))) ∧
      ∀ x, x < pbuf + i * (2 * w) ∨ pbuf + (i + count) * (2 * w) ≤ x → out' x = out x := by
  induction count generalizing i n out with
  | zero =>
      refine ⟨out, rfl, ?_, fun _ _ => rfl⟩
      intro r hr hlt
      omega
  | succ count ih =>
      subst hn
      have hrow : (i + 1) * (2 * w) ≤ (i + (count + 1)) * (2 * w) :=
        Nat.mul_le_mul_right _ (by omega)
      have hnext : (i + 1) * (2 * w) = i * (2 * w) + (w + w) := by ring
      have hleft : 2 * i * w = i * (2 * w) := by ring
      have hright : (2 * i + 1) * w = i * (2 * w) + w := by ring
      have hsource : i * (2 * w) = i * w + i * w := by ring
      have hsum : i + (count + 1) = i + 1 + count := by omega
      rw [hsum] at hwidth hcount ⊢
      rw [hsum] at hrow
      have hn : 2 * i + 2 = 2 * (i + 1) := by omega
      obtain ⟨out', hrun, hrows, hframe⟩ := ih
        (memcpy (memcpy out (pbuf + 2 * i * w) in0 (start + i * w) w) (pbuf + (2 * i + 1) * w) in1
          (start + i * w) w) hn hcount hwidth
      refine ⟨out', ?_, ?_, ?_⟩
      · have h1 : int (i * w) = some (i * w) := int_eq (by omega)
        have h2 : int (2 * i * w) = some (2 * i * w) := int_eq (by omega)
        have h3 : int ((2 * i + 1) * w) = some ((2 * i + 1) * w) := int_eq (by omega)
        have h4 : int (2 * i + 2) = some (2 * i + 2) := int_eq (by omega)
        simp only [copyRows, h1, h2, h3, h4, Option.bind_eq_bind, Option.bind_some]
        exact hrun
      · intro r hr hlt c hc
        by_cases hri : r = i
        · subst hri
          rw [hframe _ (Or.inl (by omega)), hframe _ (Or.inl (by omega)), hleft, hright]
          constructor
          · rw [memcpy_outside (Or.inl (by omega)), ← Nat.add_assoc, memcpy_inside hc]
            simp only [Nat.add_assoc]
          · have haddr : pbuf + (r * (2 * w) + (w + c)) = pbuf + (r * (2 * w) + w) + c := by omega
            rw [haddr, memcpy_inside hc]
            simp only [Nat.add_assoc]
        · exact hrows r (by omega) (by omega) c hc
      · intro x hx
        rw [hframe x (by omega), memcpy_outside (by omega), memcpy_outside (by omega)]

theorem copyRows_rows {w count : Nat} (pbuf start : Nat) (in0 in1 out : Memory)
    (hcount : 2 * count < 2 ^ 31) (hwidth : count * (2 * w) < 2 ^ 31) :
    ∃ out', copyRows w pbuf start in0 in1 count 0 0 out = some out' ∧
      (∀ r < count, ∀ c < w, out' (pbuf + (r * (2 * w) + c)) = in0 (start + (r * w + c)) ∧
        out' (pbuf + (r * (2 * w) + (w + c))) = in1 (start + (r * w + c))) ∧
      ∀ x, x < pbuf ∨ pbuf + count * (2 * w) ≤ x → out' x = out x := by
  have hspec := copyRows_spec (w := w) (i := 0) (n := 0) count pbuf start in0 in1 out rfl
  simp only [Nat.zero_add, Nat.zero_mul, Nat.add_zero] at hspec
  obtain ⟨out', hrun, hrows, hframe⟩ := hspec hcount hwidth
  exact ⟨out', hrun, fun r hr => hrows r (Nat.zero_le r) hr, hframe⟩

theorem cell_lt {r n c w : Nat} (hr : r < n) (hc : c < w) : r * w + c < n * w := by
  have hle : (r + 1) * w ≤ n * w := Nat.mul_le_mul_right w hr
  rw [Nat.add_mul, Nat.one_mul] at hle
  omega

theorem copyRows_some {w pbuf start : Nat} {in0 in1 : Memory} {count i n : Nat} {out out' : Memory}
    (hrun : copyRows w pbuf start in0 in1 count i n out = some out') (hn : n < 2 ^ 31) :
    n + 2 * count < 2 ^ 31 := by
  induction count generalizing i n out with
  | zero => exact hn
  | succ count ih =>
      simp only [copyRows, Option.bind_eq_bind, Option.bind_eq_some_iff, int_eq_some_iff] at hrun
      obtain ⟨_, _, _, _, _, _, _, ⟨hnext, rfl⟩, hrest⟩ := hrun
      have hlt := ih hrest hnext
      omega

theorem product_eq_some_iff {a b c n : Nat} :
    product a b c = some n ↔ a * b < 2 ^ 31 ∧ a * b * c < 2 ^ 31 ∧ a * b * c = n := by
  simp only [product, Option.bind_eq_some_iff, int_eq_some_iff]
  constructor
  · rintro ⟨_, ⟨h, rfl⟩, h', hn⟩
    exact ⟨h, h', hn⟩
  · rintro ⟨h, h', hn⟩
    exact ⟨_, ⟨h, rfl⟩, h', hn⟩

/-! ## Four pictures -/

section Four

variable (f : FrameSize) (in0 in1 in2 in3 : Memory)

/-- The rows of four pictures in one of twice the width. -/
structure Mosaic (W H : Nat) (out : Memory) : Prop where
  upper : ∀ r < H, ∀ c < W, out (r * (2 * W) + c) = in0 (r * W + c) ∧
    out (r * (2 * W) + (W + c)) = in1 (r * W + c)
  lower : ∀ r < H, ∀ c < W, out ((H + r) * (2 * W) + c) = in2 (r * W + c) ∧
    out ((H + r) * (2 * W) + (W + c)) = in3 (r * W + c)
  upper_chroma : ∀ r < H / 2, ∀ c < W,
    out (2 * W * (2 * H) + (r * (2 * W) + c)) = in0 (W * H + (r * W + c)) ∧
      out (2 * W * (2 * H) + (r * (2 * W) + (W + c))) = in1 (W * H + (r * W + c))
  lower_chroma : ∀ r < H / 2, ∀ c < W,
    out (2 * W * (2 * H) + ((H / 2 + r) * (2 * W) + c)) = in2 (W * H + (r * W + c)) ∧
      out (2 * W * (2 * H) + ((H / 2 + r) * (2 * W) + (W + c))) = in3 (W * H + (r * W + c))

theorem composeBuffer4in1_rows (out : Memory) (hrows : 2 * f.mFrameHeight < 2 ^ 31)
    (hsize : 5 * (f.mFrameWidth * f.mFrameHeight) < 2 ^ 31) :
    ∃ out', composeBuffer4in1 f out (some in0) (some in1) (some in2) (some in3) = some out' ∧
      Mosaic in0 in1 in2 in3 f.mFrameWidth f.mFrameHeight out' := by
  obtain ⟨W, H, _, _, _, heven⟩ := f
  obtain ⟨k, hk⟩ := heven
  have hhalf : H / 2 = k := by omega
  -- Every region is a multiple of one input's luma plane.
  have hq : k * (2 * W) = W * H := by
    rw [hk]
    ring
  have hluma : H * (2 * W) = 2 * (W * H) := by ring
  have hswap : H * W = W * H := Nat.mul_comm H W
  have hplane : 2 * W * (2 * H) = 4 * (W * H) := by ring
  simp only at hrows hsize
  generalize hQ : W * H = q at *
  have hbase2 : product H W 2 = some (2 * q) := by
    rw [product_eq (by omega) (by omega), hswap, Nat.mul_comm]
  have hbase4 : product W H 4 = some (4 * q) := by
    rw [product_eq (by omega) (by omega), hQ, Nat.mul_comm]
  have hbase5 : product W H 5 = some (5 * q) := by
    rw [product_eq (by omega) (by omega), hQ, Nat.mul_comm]
  have hhalf_rows : 2 * k < 2 ^ 31 := by omega
  have hwide : H * (2 * W) < 2 ^ 31 := by omega
  have hnarrow : k * (2 * W) < 2 ^ 31 := by omega
  obtain ⟨o1, hrun1, hrows1, -⟩ := copyRows_rows 0 0 in0 in1 out hrows hwide
  obtain ⟨o2, hrun2, hrows2, hframe2⟩ := copyRows_rows (2 * q) 0 in2 in3 o1 hrows hwide
  obtain ⟨o3, hrun3, hrows3, hframe3⟩ := copyRows_rows (4 * q) q in0 in1 o2 hhalf_rows hnarrow
  obtain ⟨o4, hrun4, hrows4, hframe4⟩ := copyRows_rows (5 * q) q in2 in3 o3 hhalf_rows hnarrow
  rw [hq] at hframe3 hframe4
  rw [hluma] at hframe2
  refine ⟨o4, ?_, ?_⟩
  · have hstart : int (W * H) = some q := by
      rw [hQ]
      exact int_eq (by omega)
    simp only [composeBuffer4in1, hhalf, hrun1, hrun2, hrun3, hrun4, hbase2, hbase4, hbase5, hstart,
      Option.bind_eq_bind, Option.bind_some]
  show Mosaic in0 in1 in2 in3 W H o4
  refine ⟨?_, ?_, ?_, ?_⟩
  · intro r hr c hc
    have hlt := cell_lt hr (show W + c < 2 * W by omega)
    rw [hluma] at hlt
    rw [hframe4 _ (by omega), hframe3 _ (by omega), hframe2 _ (by omega), hframe4 _ (by omega),
      hframe3 _ (by omega), hframe2 _ (by omega)]
    simpa only [Nat.zero_add] using hrows1 r hr c hc
  · intro r hr c hc
    have hlt := cell_lt hr (show W + c < 2 * W by omega)
    rw [hluma] at hlt
    rw [Nat.add_mul, hluma, Nat.add_assoc, Nat.add_assoc, hframe4 _ (by omega),
      hframe3 _ (by omega), hframe4 _ (by omega), hframe3 _ (by omega)]
    simpa only [Nat.zero_add] using hrows2 r hr c hc
  · intro r hr c hc
    rw [hhalf] at hr
    have hlt := cell_lt hr (show W + c < 2 * W by omega)
    rw [hq] at hlt
    rw [hplane, hframe4 _ (by omega), hframe4 _ (by omega), hQ]
    exact hrows3 r hr c hc
  · intro r hr c hc
    rw [hhalf] at hr ⊢
    have haddr : ∀ x, 4 * q + ((k + r) * (2 * W) + x) = 5 * q + (r * (2 * W) + x) := by
      intro x
      rw [Nat.add_mul, hq]
      omega
    rw [hplane, haddr, haddr, hQ]
    exact hrows4 r hr c hc

variable {in0 in1 in2 in3}

theorem Mosaic.composed {W H : Nat} {out : Memory} (heven : Even W) (hrows : Even H)
    (h : Mosaic in0 in1 in2 in3 W H out) :
    Composed (g2d_compose in0 in1 in2 in3 W H) W H (2 * W) (2 * H) out := by
  obtain ⟨m, hm⟩ := heven
  obtain ⟨k, hk⟩ := hrows
  constructor
  · intro x hx y hy
    simp only [g2d_compose, Clip.Covers, List.mem_cons, List.not_mem_nil, or_false,
      exists_eq_or_imp, exists_eq_left]
    omega
  · intro x hx y hy clip hclip hcovers
    simp only [g2d_compose, List.mem_cons, List.not_mem_nil, or_false] at hclip
    rcases hclip with rfl | rfl | rfl | rfl <;> obtain ⟨⟨hx0, hx1⟩, hy0, hy1⟩ := hcovers <;>
      simp only [Nat.zero_add, Nat.sub_zero] at hx0 hx1 hy0 hy1 ⊢
    · exact (h.upper y hy1 x hx1).1
    · have heq := (h.upper y hy1 (x - W) (by omega)).2
      rwa [Nat.add_sub_cancel' hx0] at heq
    · have heq := (h.lower (y - H) (by omega) x hx1).1
      rwa [Nat.add_sub_cancel' hy0] at heq
    · have heq := (h.lower (y - H) (by omega) (x - W) (by omega)).2
      rwa [Nat.add_sub_cancel' hy0, Nat.add_sub_cancel' hx0] at heq
  · intro x hx y hy clip hclip hcovers c hc
    have hcol : W ≤ x → W + ((x - W) / 2 * 2 + c) = x / 2 * 2 + c := by omega
    have hrow : H ≤ y → H / 2 + (y - H) / 2 = y / 2 := by omega
    simp only [g2d_compose, List.mem_cons, List.not_mem_nil, or_false] at hclip
    rcases hclip with rfl | rfl | rfl | rfl <;> obtain ⟨⟨hx0, hx1⟩, hy0, hy1⟩ := hcovers <;>
      simp only [Nat.zero_add, Nat.sub_zero] at hx0 hx1 hy0 hy1 ⊢
    · exact (h.upper_chroma (y / 2) (by omega) (x / 2 * 2 + c) (by omega)).1
    · have heq := (h.upper_chroma (y / 2) (by omega) ((x - W) / 2 * 2 + c) (by omega)).2
      rwa [hcol hx0] at heq
    · have heq := (h.lower_chroma ((y - H) / 2) (by omega) (x / 2 * 2 + c) (by omega)).1
      rwa [hrow hy0] at heq
    · have heq := (h.lower_chroma ((y - H) / 2) (by omega) ((x - W) / 2 * 2 + c) (by omega)).2
      rwa [hrow hy0, hcol hx0] at heq

/-- What the four pictures and the sizes of the copies let `composeBuffer4in1` do. -/
theorem composeBuffer4in1_composed_iff (out in0 in1 in2 in3 : Memory) :
    (∃ out', composeBuffer4in1 f out (some in0) (some in1) (some in2) (some in3) = some out' ∧
      Composed (g2d_compose in0 in1 in2 in3 f.mFrameWidth f.mFrameHeight) f.mFrameWidth
        f.mFrameHeight (2 * f.mFrameWidth) (2 * f.mFrameHeight) out') ↔
      2 * f.mFrameHeight < 2 ^ 31 ∧ 5 * (f.mFrameWidth * f.mFrameHeight) < 2 ^ 31 := by
  constructor
  · rintro ⟨out', hrun, -⟩
    simp only [composeBuffer4in1, Option.bind_eq_bind, Option.bind_eq_some_iff,
      product_eq_some_iff] at hrun
    obtain ⟨_, hupper, _, _, _, _, _, _, _, _, _, _, _, ⟨-, hsize, -⟩, -⟩ := hrun
    have hrows := copyRows_some hupper (by omega)
    omega
  · rintro ⟨hrows, hsize⟩
    obtain ⟨out', hrun, hmosaic⟩ := composeBuffer4in1_rows f in0 in1 in2 in3 out hrows hsize
    exact ⟨out', hrun, hmosaic.composed f.even_width f.even_height⟩

end Four

/-! ## Two pictures -/

section Two

variable (f : FrameSize)

/-- The planes of two pictures one after the other, `q` bytes of luma and `u` of chroma each. -/
structure Stacked (in0 in1 : Memory) (q u : Nat) (out : Memory) : Prop where
  upper : ∀ a < q, out a = in0 a
  lower : ∀ a < q, out (q + a) = in1 a
  upper_chroma : ∀ a < u, out (2 * q + a) = in0 (q + a)
  lower_chroma : ∀ a < u, out (2 * q + u + a) = in1 (q + a)

theorem composeBuffer2in1_planes (out in0 in1 : Memory)
    (hsize : 2 * (f.mFrameWidth * f.mFrameHeight) < 2 ^ 31) :
    ∃ out', composeBuffer2in1 f out (some in0) (some in1) = some out' ∧
      Stacked in0 in1 (f.mFrameWidth * f.mFrameHeight) (f.mFrameWidth * f.mFrameHeight / 2)
        out' := by
  generalize hq : f.mFrameWidth * f.mFrameHeight = q at *
  have hluma : int q = some q := int_eq (by omega)
  have hpbuf : int (q * 2) = some (2 * q) := by
    rw [Nat.mul_comm, int_eq hsize]
  simp only [composeBuffer2in1, hq, hluma, hpbuf, Option.bind_eq_bind, Option.bind_some,
    Option.some.injEq, exists_eq_left']
  constructor
  · intro a ha
    rw [memcpy_outside (by omega), memcpy_outside (by omega), memcpy_outside (by omega),
      ← Nat.zero_add a, memcpy_inside ha, Nat.zero_add]
  · intro a ha
    rw [memcpy_outside (by omega), memcpy_outside (by omega), memcpy_inside ha, Nat.zero_add]
  · intro a ha
    rw [memcpy_outside (by omega), memcpy_inside ha]
  · intro a ha
    rw [memcpy_inside ha]

theorem Stacked.composed {W H : Nat} {in0 in1 out : Memory} (heven : Even W) (hrows : Even H)
    (h : Stacked in0 in1 (W * H) (W * H / 2) out) :
    Composed (g2d_compose_two in0 in1 W H) W H W (2 * H) out := by
  obtain ⟨m, hm⟩ := heven
  obtain ⟨k, hk⟩ := hrows
  have hq : H * W = W * H := Nat.mul_comm H W
  have hplane : W * (2 * H) = 2 * (W * H) := by ring
  have hhalf : H / 2 * W = W * H / 2 := by
    have htwice : W * H = 2 * (H / 2 * W) := by
      rw [show H / 2 = k by omega, hk]
      ring
    omega
  constructor
  · intro x hx y hy
    simp only [g2d_compose_two, Clip.Covers, List.mem_cons, List.not_mem_nil, or_false,
      exists_eq_or_imp, exists_eq_left]
    omega
  · intro x hx y hy clip hclip hcovers
    have hupper : y < H → luma out W x y = luma in0 W x y := by
      intro hlt
      have hcell := cell_lt hlt hx
      exact h.upper _ (by omega)
    have hlower : H ≤ y → luma out W x y = luma in1 W x (y - H) := by
      intro hle
      have hcell := cell_lt (show y - H < H by omega) hx
      have hrow : y * W = W * H + (y - H) * W := by
        rw [Nat.sub_mul, hq]
        have := Nat.mul_le_mul_right W hle
        omega
      rw [luma, hrow, Nat.add_assoc]
      exact h.lower _ (by omega)
    simp only [g2d_compose_two, List.mem_cons, List.not_mem_nil, or_false] at hclip
    rcases hclip with rfl | rfl | rfl | rfl <;> obtain ⟨⟨hx0, hx1⟩, hy0, hy1⟩ := hcovers <;>
      simp only [Nat.zero_add, Nat.sub_zero] at hx0 hx1 hy0 hy1 ⊢
    · exact hupper hy1
    · rw [Nat.add_sub_cancel' hx0]
      exact hupper hy1
    · exact hlower hy0
    · rw [Nat.add_sub_cancel' hx0]
      exact hlower hy0
  · intro x hx y hy clip hclip hcovers c hc
    have hupper : y < H → chroma out W (2 * H) x y c = chroma in0 W H x y c := by
      intro hlt
      have hcell := cell_lt (show y / 2 < H / 2 by omega) (show x / 2 * 2 + c < W by omega)
      rw [chroma, hplane]
      exact h.upper_chroma _ (by omega)
    have hlower : H ≤ y → chroma out W (2 * H) x y c = chroma in1 W H x (y - H) c := by
      intro hle
      have hcell := cell_lt (show (y - H) / 2 < H / 2 by omega) (show x / 2 * 2 + c < W by omega)
      have hrow : y / 2 * W = W * H / 2 + (y - H) / 2 * W := by
        rw [← hhalf, ← Nat.add_mul, show H / 2 + (y - H) / 2 = y / 2 by omega]
      rw [chroma, hplane, hrow, Nat.add_assoc (W * H / 2), ← Nat.add_assoc (2 * (W * H))]
      exact h.lower_chroma _ (by omega)
    simp only [g2d_compose_two, List.mem_cons, List.not_mem_nil, or_false] at hclip
    rcases hclip with rfl | rfl | rfl | rfl <;> obtain ⟨⟨hx0, hx1⟩, hy0, hy1⟩ := hcovers <;>
      simp only [Nat.zero_add, Nat.sub_zero] at hx0 hx1 hy0 hy1 ⊢
    · exact hupper hy1
    · rw [Nat.add_sub_cancel' hx0]
      exact hupper hy1
    · exact hlower hy0
    · rw [Nat.add_sub_cancel' hx0]
      exact hlower hy0

theorem composeBuffer2in1_composed_iff (out in0 in1 : Memory) :
    (∃ out', composeBuffer2in1 f out (some in0) (some in1) = some out' ∧
      Composed (g2d_compose_two in0 in1 f.mFrameWidth f.mFrameHeight) f.mFrameWidth f.mFrameHeight
        f.mFrameWidth (2 * f.mFrameHeight) out') ↔
      2 * (f.mFrameWidth * f.mFrameHeight) < 2 ^ 31 := by
  constructor
  · rintro ⟨out', hrun, -⟩
    simp only [composeBuffer2in1, Option.bind_eq_bind, Option.bind_eq_some_iff,
      int_eq_some_iff] at hrun
    obtain ⟨_, ⟨-, rfl⟩, _, ⟨hsize, -⟩, -⟩ := hrun
    omega
  · intro hsize
    obtain ⟨out', hrun, hstacked⟩ := composeBuffer2in1_planes f out in0 in1 hsize
    exact ⟨out', hrun, hstacked.composed f.even_width f.even_height⟩

end Two

/-! ## Missing pictures -/

theorem memset_shows {w h : Nat} (buffer : Memory) (y_byte c_byte : UInt8) (heven : Even w)
    (hrows : Even h) :
    Shows (memset (memset buffer 0 y_byte (w * h)) (w * h) c_byte (w * h / 2)) w h y_byte
      c_byte := by
  obtain ⟨m, hm⟩ := heven
  obtain ⟨k, hk⟩ := hrows
  have hq : h * w = w * h := Nat.mul_comm h w
  have hhalf : k * w = w * h / 2 := by
    have htwice : w * h = 2 * (k * w) := by
      rw [hk]
      ring
    omega
  intro x hx y hy
  constructor
  · have hcell := cell_lt hy hx
    rw [luma, memset_outside (Or.inl (by omega)), ← Nat.zero_add (y * w + x),
      memset_inside (by omega)]
  · intro c hc
    have hcell := cell_lt (show y / 2 < k by omega) (show x / 2 * 2 + c < w by omega)
    rw [chroma, memset_inside (by omega)]

section Missing

variable (f : FrameSize)

/-- What `composeBuffer4in1` is for: the mosaic of its inputs, or a black picture if one of them is
missing. -/
def Shown4in1 (inBuffer0 inBuffer1 inBuffer2 inBuffer3 : Option Memory) (picture : Memory) : Prop :=
  match inBuffer0, inBuffer1, inBuffer2, inBuffer3 with
  | some psrc1, some psrc2, some psrc3, some psrc4 =>
      Composed (g2d_compose psrc1 psrc2 psrc3 psrc4 f.mFrameWidth f.mFrameHeight) f.mFrameWidth
        f.mFrameHeight (2 * f.mFrameWidth) (2 * f.mFrameHeight) picture
  | _, _, _, _ => Shows picture (2 * f.mFrameWidth) (2 * f.mFrameHeight) 0x10 0x80

/-- The counters and offsets of `composeBuffer4in1` are `int`s. -/
def Fits4in1 (inBuffer0 inBuffer1 inBuffer2 inBuffer3 : Option Memory) : Prop :=
  match inBuffer0, inBuffer1, inBuffer2, inBuffer3 with
  | some _, some _, some _, some _ =>
      2 * f.mFrameHeight < 2 ^ 31 ∧ 5 * (f.mFrameWidth * f.mFrameHeight) < 2 ^ 31
  | _, _, _, _ => 2 * f.mFrameWidth < 2 ^ 31 ∧ 4 * (f.mFrameWidth * f.mFrameHeight) < 2 ^ 31

theorem black_iff (out : Memory) :
    (∃ out', (int (f.mFrameWidth * 2)).bind (fun twice =>
        (product twice f.mFrameHeight 2).bind fun size_y =>
        (product f.mFrameWidth f.mFrameHeight 2).bind fun size_uv =>
        some (memset (memset out 0 0x10 size_y) size_y 0x80 size_uv)) = some out' ∧
      Shows out' (2 * f.mFrameWidth) (2 * f.mFrameHeight) 0x10 0x80) ↔
      2 * f.mFrameWidth < 2 ^ 31 ∧ 4 * (f.mFrameWidth * f.mFrameHeight) < 2 ^ 31 := by
  have hluma :
      f.mFrameWidth * 2 * f.mFrameHeight * 2 = 2 * f.mFrameWidth * (2 * f.mFrameHeight) := by
    ring
  have hchroma :
      f.mFrameWidth * f.mFrameHeight * 2 = 2 * f.mFrameWidth * (2 * f.mFrameHeight) / 2 := by
    rw [← hluma, Nat.mul_div_cancel _ Nat.two_pos]
    ring
  have hfour : f.mFrameWidth * 2 * f.mFrameHeight * 2 = 4 * (f.mFrameWidth * f.mFrameHeight) := by
    ring
  have htwo : f.mFrameWidth * 2 * f.mFrameHeight = 2 * (f.mFrameWidth * f.mFrameHeight) := by ring
  constructor
  · rintro ⟨out', hrun, -⟩
    simp only [Option.bind_eq_some_iff, int_eq_some_iff, product_eq_some_iff] at hrun
    obtain ⟨_, ⟨htwice, rfl⟩, _, ⟨-, hsize, -⟩, -⟩ := hrun
    omega
  · rintro ⟨htwice, hsize⟩
    have hint : int (f.mFrameWidth * 2) = some (f.mFrameWidth * 2) := int_eq (by omega)
    rw [hint, Option.bind_some, product_eq (by omega) (by omega), Option.bind_some,
      product_eq (by omega) (by omega), Option.bind_some, hchroma, hluma]
    exact ⟨_, rfl, memset_shows out 0x10 0x80 (even_two_mul _) (even_two_mul _)⟩

/-- What `composeBuffer2in1` is for: its inputs one below the other, or a black picture if one of them
is missing. -/
def Shown2in1 (inBuffer0 inBuffer1 : Option Memory) (picture : Memory) : Prop :=
  match inBuffer0, inBuffer1 with
  | some psrc1, some psrc2 =>
      Composed (g2d_compose_two psrc1 psrc2 f.mFrameWidth f.mFrameHeight) f.mFrameWidth
        f.mFrameHeight f.mFrameWidth (2 * f.mFrameHeight) picture
  | _, _ => Shows picture f.mFrameWidth (2 * f.mFrameHeight) 0x10 0x80

/-- Both inputs are there and the offsets are `int`s, or the pictures are empty. -/
def Fits2in1 (inBuffer0 inBuffer1 : Option Memory) : Prop :=
  match inBuffer0, inBuffer1 with
  | some _, some _ => 2 * (f.mFrameWidth * f.mFrameHeight) < 2 ^ 31
  | _, _ => f.mFrameWidth = 0 ∨ f.mFrameHeight = 0

/-- The branch for a missing input blackens a picture of one input's size: the chroma that it writes
lies in the luma of the picture. -/
theorem half_black_iff (out : Memory) :
    (∃ out', (int (f.mFrameWidth * f.mFrameHeight)).bind (fun size_y =>
        some (memset (memset out 0 0x10 size_y) size_y 0x80 (size_y / 2))) = some out' ∧
      Shows out' f.mFrameWidth (2 * f.mFrameHeight) 0x10 0x80) ↔
      f.mFrameWidth = 0 ∨ f.mFrameHeight = 0 := by
  constructor
  · rintro ⟨out', hrun, hshows⟩
    obtain ⟨size_y, hint, hout⟩ := Option.bind_eq_some_iff.mp hrun
    obtain ⟨-, rfl⟩ := int_eq_some_iff.mp hint
    obtain rfl := Option.some.inj hout
    by_contra hne
    obtain ⟨hwidth, hheight⟩ := not_or.mp hne
    obtain ⟨m, hm⟩ := f.even_width
    have hsize : 2 * 1 ≤ f.mFrameWidth * f.mFrameHeight :=
      Nat.mul_le_mul (by omega) (Nat.pos_of_ne_zero hheight)
    -- the first byte of row `mFrameHeight`
    have hluma := (hshows 0 (by omega) f.mFrameHeight (by omega)).1
    rw [luma, Nat.mul_comm f.mFrameHeight, memset_inside (by omega)] at hluma
    exact absurd hluma (by decide)
  · intro hempty
    have hsize : f.mFrameWidth * f.mFrameHeight = 0 := Nat.mul_eq_zero.mpr hempty
    rw [hsize, int_eq (by decide), Option.bind_some]
    refine ⟨_, rfl, ?_⟩
    intro x hx y hy
    omega

/-- `composeBuffer4in1` shows its inputs, or black, as far as its sizes fit an `int`;
`composeBuffer2in1` shows its two inputs one below the other, and never black. -/
theorem composeBuffer_pictures (out : Memory) :
    (∀ in0 in1 in2 in3 : Option Memory,
      (∃ out', composeBuffer4in1 f out in0 in1 in2 in3 = some out' ∧
        Shown4in1 f in0 in1 in2 in3 out') ↔ Fits4in1 f in0 in1 in2 in3) ∧
    ∀ in0 in1 : Option Memory,
      (∃ out', composeBuffer2in1 f out in0 in1 = some out' ∧ Shown2in1 f in0 in1 out') ↔
        Fits2in1 f in0 in1 := by
  constructor
  · intro in0 in1 in2 in3
    rcases in0 with _ | in0
    · exact black_iff f out
    rcases in1 with _ | in1
    · exact black_iff f out
    rcases in2 with _ | in2
    · exact black_iff f out
    rcases in3 with _ | in3
    · exact black_iff f out
    exact composeBuffer4in1_composed_iff f out in0 in1 in2 in3
  · intro in0 in1
    rcases in0 with _ | in0
    · exact half_black_iff f out
    rcases in1 with _ | in1
    · exact half_black_iff f out
    exact composeBuffer2in1_composed_iff f out in0 in1

end Missing

/-- With its second input missing a 2 x 4 picture is not black in its third row. -/
theorem composeBuffer2in1_half :
    let f : FrameSize := ⟨2, 2, by decide, by decide, by decide, by decide⟩
    ¬ ∃ out', composeBuffer2in1 f Memory.zero (some Memory.zero) none = some out' ∧
      Shown2in1 f (some Memory.zero) none out' := by
  intro f
  rintro ⟨out', hrun, hshows⟩
  obtain rfl := Option.some.inj hrun
  exact absurd (hshows 0 (by decide) 2 (by decide)).1 (by decide)

end AwHal.Camera.ComposePictures
