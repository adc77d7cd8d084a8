import AwHal.Lib.CNumber
import AwHal.Lib.CellUpdates
import Mathlib.Algebra.Group.Nat.Even
import Mathlib.Data.UInt

/-!
# Watermarks

`watermark_blending` of `water_mark.c` blends pictures of a table, side by side, into a camera
picture.  A picture has a plane of luma bytes and one of chroma bytes for every second row; each plane
is an object of its own.
-/

namespace AwHal.Camera.WaterMark

open AwHal.Lib

/-! ## Pictures -/

inductive Plane where
  | y
  | c
deriving DecidableEq, Repr

/-- Bytes by their distance from `y` or `c`. -/
abbrev Bytes : Type := Cells (Plane × Int) UInt8

structure BackGroudLayerInfo where
  width : Nat
  height : Nat
  bytes : Bytes
  width_lt : width < 2 ^ 31
  height_lt : height < 2 ^ 31
  even_width : Even width
  even_height : Even height
  y_bytes : ∀ p, (bytes (.y, p)).isSome ↔ 0 ≤ p ∧ p < width * height
  c_bytes : ∀ p, (bytes (.c, p)).isSome ↔ 0 ≤ p ∧ p < width * (height / 2)

/-- A glyph, with `ALIGN_2B(height) / 2` rows of chroma bytes. -/
structure SinglePicture where
  width : Nat
  height : Nat
  y : Nat → UInt8
  c : Nat → UInt8
  alph : Nat → UInt8
  width_lt : width < 2 ^ 31
  height_lt : height < 2 ^ 31

def MAX_ICON_PIC : Nat := 49

structure WaterMarkInfo where
  single_pic : Fin MAX_ICON_PIC → SinglePicture

structure WaterMarkPositon where
  x : Int
  y : Int
  x_fits : FitsInt x
  y_fits : FitsInt y

structure ShowWaterMarkParam where
  pos : WaterMarkPositon
  id_list : List (Fin MAX_ICON_PIC)

/-! ## Blending -/

def blend (alph bg fg : UInt8) : UInt8 :=
  UInt8.ofNat (((256 - alph.toNat) * bg.toNat + fg.toNat * alph.toNat) >>> 8)

structure Pointers where
  bg_y_p : Int
  bg_c_p : Int
  fg_y : Nat
  fg_c : Nat
  alph : Nat

def pixel (fg : SinglePicture) (even : Bool) (p : Pointers) :
    List (CellUpdate (Plane × Int) UInt8) × Pointers :=
  let luma := ⟨(.y, p.bg_y_p), fun bg ↦ blend (fg.alph p.alph) bg (fg.y p.fg_y)⟩
  let chroma := ⟨(.c, p.bg_c_p), fun bg ↦ blend (fg.alph p.alph) bg (fg.c p.fg_c)⟩
  if even then
    ([luma, chroma],
      { p with
        bg_y_p := p.bg_y_p + 1
        bg_c_p := p.bg_c_p + 1
        fg_y := p.fg_y + 1
        fg_c := p.fg_c + 1
        alph := p.alph + 1 })
  else
    ([luma], { p with bg_y_p := p.bg_y_p + 1, fg_y := p.fg_y + 1, alph := p.alph + 1 })

def row (fg : SinglePicture) (even : Bool) :
    Nat → Pointers → List (CellUpdate (Plane × Int) UInt8) × Pointers
  | 0, p => ([], p)
  | n + 1, p =>
      let (updates, p) := pixel fg even p
      let (rest, p) := row fg even n p
      (updates ++ rest, p)

def rows (bg_width : Nat) (fg : SinglePicture) :
    Nat → Nat → Pointers → List (CellUpdate (Plane × Int) UInt8)
  | 0, _, _ => []
  | n + 1, i, p =>
      let even := i % 2 == 0
      let (updates, p) := row fg even fg.width p
      let p := if even then { p with bg_c_p := p.bg_c_p + bg_width - fg.width } else p
      updates ++ rows bg_width fg n (i + 1) { p with bg_y_p := p.bg_y_p + bg_width - fg.width }

/-- `top` is an `unsigned int`, and so are the products with it. -/
def yuv420sp_blending (bg_width : Nat) (left : Int) (top : Nat) (fg : SinglePicture) :
    List (CellUpdate (Plane × Int) UInt8) :=
  rows bg_width fg fg.height 0
    { bg_y_p := (top * bg_width % 2 ^ 32 : Nat) + left
      bg_c_p := ((top >>> 1) * bg_width % 2 ^ 32 : Nat) + left
      fg_y := 0
      fg_c := 0
      alph := 0 }

def toUnsigned (x : Int) : Nat := (x % 2 ^ 32).toNat

def totalWidth (wm_info : WaterMarkInfo) (id_list : List (Fin MAX_ICON_PIC)) : Int :=
  id_list.foldl (fun total_width id ↦ wrapInt (total_width + (wm_info.single_pic id).width)) 0

def blendAll (bg_width : Nat) (wm_info : WaterMarkInfo) (top : Nat) :
    Int → List (Fin MAX_ICON_PIC) → List (CellUpdate (Plane × Int) UInt8)
  | _, [] => []
  | pos_x, id :: ids =>
      yuv420sp_blending bg_width pos_x top (wm_info.single_pic id) ++
        blendAll bg_width wm_info top (wrapInt (pos_x + (wm_info.single_pic id).width)) ids

/-- The result and the bytes of the picture; none after an access outside the two planes. -/
def watermark_blending (bg_info : BackGroudLayerInfo) (wm_info : WaterMarkInfo)
    (wm_Param : ShowWaterMarkParam) : Option (Int × Bytes) :=
  if totalWidth wm_info wm_Param.id_list > bg_info.width then some (-1, bg_info.bytes)
  else
    (CellUpdate.run
      (blendAll bg_info.width wm_info (toUnsigned wm_Param.pos.y) wm_Param.pos.x wm_Param.id_list)
      bg_info.bytes).map (0, ·)

/-! ## Rectangles -/

def laid (wm_info : WaterMarkInfo) :
    Int → List (Fin MAX_ICON_PIC) → List (Int × Fin MAX_ICON_PIC)
  | _, [] => []
  | x, id :: ids => (x, id) :: laid wm_info (x + (wm_info.single_pic id).width) ids

/-- Row `i` and column `j` of a glyph that starts at column `left`. -/
structure Pixel where
  left : Int
  id : Fin MAX_ICON_PIC
  i : Nat
  j : Nat

def IsPixel (wm_info : WaterMarkInfo) (wm_Param : ShowWaterMarkParam) (q : Pixel) : Prop :=
  (q.left, q.id) ∈ laid wm_info wm_Param.pos.x wm_Param.id_list ∧
    q.i < (wm_info.single_pic q.id).height ∧ q.j < (wm_info.single_pic q.id).width

def Fits (width height : Nat) (wm_info : WaterMarkInfo) (wm_Param : ShowWaterMarkParam) : Prop :=
  ∀ q, IsPixel wm_info wm_Param q →
    (0 ≤ q.left + q.j ∧ q.left + q.j < width) ∧
      (0 ≤ wm_Param.pos.y + q.i ∧ wm_Param.pos.y + q.i < height)

def Pixel.lumaAt (width : Nat) (top : Int) (q : Pixel) : Plane × Int :=
  (.y, (top + q.i) * width + (q.left + q.j))

def Pixel.chromaAt (width : Nat) (top : Int) (q : Pixel) : Plane × Int :=
  (.c, (top + q.i) / 2 * width + (q.left + q.j))

/-- The bytes under the glyphs are blended, each with its own pixel, and all others are as before. -/
structure Blended (bg_info : BackGroudLayerInfo) (wm_info : WaterMarkInfo)
    (wm_Param : ShowWaterMarkParam) (bytes : Bytes) : Prop where
  luma : ∀ q, IsPixel wm_info wm_Param q →
    let fg := wm_info.single_pic q.id
    bytes (q.lumaAt bg_info.width wm_Param.pos.y) =
      (bg_info.bytes (q.lumaAt bg_info.width wm_Param.pos.y)).map fun bg ↦
        blend (fg.alph (q.i * fg.width + q.j)) bg (fg.y (q.i * fg.width + q.j))
  others : ∀ cell,
    (∀ q, IsPixel wm_info wm_Param q →
      q.lumaAt bg_info.width wm_Param.pos.y ≠ cell ∧
        q.chromaAt bg_info.width wm_Param.pos.y ≠ cell) →
      bytes cell = bg_info.bytes cell

/-- No byte outside the planes is accessed, a request that succeeds has blended the glyphs, and one
that does not fit fails and leaves the picture. -/
def StaysInside (bg_info : BackGroudLayerInfo) (wm_info : WaterMarkInfo)
    (wm_Param : ShowWaterMarkParam) : Prop :=
  ∃ ret bytes, watermark_blending bg_info wm_info wm_Param = some (ret, bytes) ∧
    (ret = 0 → Blended bg_info wm_info wm_Param bytes) ∧
    (¬ Fits bg_info.width bg_info.height wm_info wm_Param → ret = -1 ∧ bytes = bg_info.bytes)

def SameSizes (wm_info wm_info' : WaterMarkInfo) : Prop :=
  ∀ id, (wm_info'.single_pic id).width = (wm_info.single_pic id).width ∧
    (wm_info'.single_pic id).height = (wm_info.single_pic id).height

/-- The distance of the first row is computed without overflow, if there is a pixel. -/
def OffsetFits (width : Nat) (wm_info : WaterMarkInfo) (wm_Param : ShowWaterMarkParam) : Prop :=
  ∀ q, IsPixel wm_info wm_Param q → wm_Param.pos.y * width < 2 ^ 32

/-! ## The loops -/

def updatesAt (bg_width : Nat) (fg : SinglePicture) (y₀ c₀ : Int) (i j : Nat) :
    List (CellUpdate (Plane × Int) UInt8) :=
  ⟨(.y, y₀ + i * bg_width + j),
      fun bg ↦ blend (fg.alph (i * fg.width + j)) bg (fg.y (i * fg.width + j))⟩ ::
    if i % 2 = 0 then
      [⟨(.c, c₀ + (i / 2 : Nat) * bg_width + j),
        fun bg ↦ blend (fg.alph (i * fg.width + j)) bg (fg.c (i / 2 * fg.width + j))⟩]
    else []

section Loops

variable (bg_width : Nat) (fg : SinglePicture) (y₀ c₀ : Int)

/-- Where the pointers are at column `j` of row `i`; the chroma pointers wait in odd rows. -/
def pointersAt (i j : Nat) : Pointers where
  bg_y_p := y₀ + i * bg_width + j
  bg_c_p := c₀ + ((i + 1) / 2 : Nat) * bg_width + if i % 2 = 0 then (j : Int) else 0
  fg_y := i * fg.width + j
  fg_c := (i + 1) / 2 * fg.width + if i % 2 = 0 then j else 0
  alph := i * fg.width + j

theorem pixel_pointersAt (i j : Nat) :
    pixel fg (i % 2 == 0) (pointersAt bg_width fg y₀ c₀ i j) =
      (updatesAt bg_width fg y₀ c₀ i j, pointersAt bg_width fg y₀ c₀ i (j + 1)) := by
  by_cases heven : i % 2 = 0
  · have hhalf : (i + 1) / 2 = i / 2 := by omega
    simp [pixel, pointersAt, updatesAt, heven, hhalf, Int.add_assoc, Nat.add_assoc]
  · simp [pixel, pointersAt, updatesAt, heven, Int.add_assoc, Nat.add_assoc]

theorem row_pointersAt (i j n : Nat) :
    row fg (i % 2 == 0) n (pointersAt bg_width fg y₀ c₀ i j) =
      ((List.range' j n).flatMap (updatesAt bg_width fg y₀ c₀ i),
        pointersAt bg_width fg y₀ c₀ i (j + n)) := by
  induction n generalizing j with
  | zero => rfl
  | succ n ih =>
      rw [row, pixel_pointersAt]
      dsimp only
      rw [ih, List.range'_succ, List.flatMap_cons, Nat.add_right_comm, Nat.add_assoc]

theorem rows_pointersAt (i n : Nat) :
    rows bg_width fg n i (pointersAt bg_width fg y₀ c₀ i 0) =
      (List.range' i n).flatMap fun i ↦
        (List.range fg.width).flatMap (updatesAt bg_width fg y₀ c₀ i) := by
  induction n generalizing i with
  | zero => rfl
  | succ n ih =>
      rw [List.range'_succ, List.flatMap_cons, ← ih (i + 1), rows, row_pointersAt,
        List.range_eq_range']
      dsimp only
      congr 2
      -- the pointers of the next row
      rw [Nat.zero_add]
      by_cases heven : i % 2 = 0
      · have hodd : (i + 1) % 2 ≠ 0 := by omega
        have hhalf : (i + 1 + 1) / 2 = (i + 1) / 2 + 1 := by omega
        simp only [pointersAt, heven, hodd, hhalf, beq_self_eq_true, if_true, if_false]
        congr 1 <;> push_cast <;> ring
      · have hodd : (i + 1) % 2 = 0 := by omega
        have hhalf : (i + 1 + 1) / 2 = (i + 1) / 2 := by omega
        have hbeq : (i % 2 == 0) = false := by simpa using heven
        simp only [pointersAt, heven, hodd, hhalf, hbeq, Bool.false_eq_true, if_true, if_false]
        congr 1 <;> push_cast <;> ring

theorem yuv420sp_blending_eq (left : Int) (top : Nat) :
    yuv420sp_blending bg_width left top fg =
      (List.range fg.height).flatMap fun i ↦ (List.range fg.width).flatMap
        (updatesAt bg_width fg ((top * bg_width % 2 ^ 32 : Nat) + left)
          (((top >>> 1) * bg_width % 2 ^ 32 : Nat) + left) i) := by
  have hrows := rows_pointersAt bg_width fg ((top * bg_width % 2 ^ 32 : Nat) + left)
    (((top >>> 1) * bg_width % 2 ^ 32 : Nat) + left) 0 fg.height
  rw [← List.range_eq_range'] at hrows
  rw [← hrows, yuv420sp_blending]
  congr 1
  simp [pointersAt]

end Loops

theorem wrapInt_add_wrapInt (x y : Int) : wrapInt (wrapInt x + y) = wrapInt (x + y) :=
  Int.bmod_add_bmod

/-- The second loop follows the columns, which overflow as `int`s. -/
theorem blendAll_eq (bg_width : Nat) (wm_info : WaterMarkInfo) (top : Nat) (x : Int)
    (ids : List (Fin MAX_ICON_PIC)) :
    blendAll bg_width wm_info top (wrapInt x) ids =
      (laid wm_info x ids).flatMap fun g ↦
        yuv420sp_blending bg_width (wrapInt g.1) top (wm_info.single_pic g.2) := by
  induction ids generalizing x with
  | nil => rfl
  | cons id ids ih => rw [blendAll, laid, List.flatMap_cons, wrapInt_add_wrapInt, ih]

theorem totalWidth_eq (wm_info : WaterMarkInfo) (ids : List (Fin MAX_ICON_PIC)) :
    totalWidth wm_info ids = wrapInt (ids.map fun id ↦ (wm_info.single_pic id).width).sum := by
  have hfold : ∀ x : Int, ids.foldl
      (fun total_width id ↦ wrapInt (total_width + (wm_info.single_pic id).width)) (wrapInt x) =
        wrapInt (x + (ids.map fun id ↦ (wm_info.single_pic id).width).sum) := by
    induction ids with
    | nil => simp
    | cons id ids ih =>
        intro x
        rw [List.foldl_cons, wrapInt_add_wrapInt, ih, List.map_cons, List.sum_cons]
        push_cast
        rw [Int.add_assoc]
  have hzero := hfold 0
  rw [Int.zero_add] at hzero
  exact hzero

/-! ## Requests that fit -/

section Fitting

variable {bg_info : BackGroudLayerInfo} {wm_info : WaterMarkInfo} {wm_Param : ShowWaterMarkParam}

def pixels (wm_info : WaterMarkInfo) (glyphs : List (Int × Fin MAX_ICON_PIC)) : List Pixel :=
  glyphs.flatMap fun g ↦
    (List.range (wm_info.single_pic g.2).height).flatMap fun i ↦
      (List.range (wm_info.single_pic g.2).width).map fun j ↦ ⟨g.1, g.2, i, j⟩

theorem mem_pixels {glyphs : List (Int × Fin MAX_ICON_PIC)} {q : Pixel} :
    q ∈ pixels wm_info glyphs ↔
      (q.left, q.id) ∈ glyphs ∧ q.i < (wm_info.single_pic q.id).height ∧
        q.j < (wm_info.single_pic q.id).width := by
  simp only [pixels, List.mem_flatMap, List.mem_map, List.mem_range]
  constructor
  · rintro ⟨g, hg, i, hi, j, hj, rfl⟩
    exact ⟨hg, hi, hj⟩
  · rintro ⟨hg, hi, hj⟩
    exact ⟨_, hg, q.i, hi, q.j, hj, rfl⟩

def pixelUpdates (bg_width : Nat) (top : Int) (wm_info : WaterMarkInfo) (q : Pixel) :
    List (CellUpdate (Plane × Int) UInt8) :=
  updatesAt bg_width (wm_info.single_pic q.id) (top * bg_width + q.left)
    (top / 2 * bg_width + q.left) q.i q.j

theorem blendAll_eq_pixels (hfits : Fits bg_info.width bg_info.height wm_info wm_Param)
    (hoffset : OffsetFits bg_info.width wm_info wm_Param) :
    blendAll bg_info.width wm_info (toUnsigned wm_Param.pos.y) wm_Param.pos.x wm_Param.id_list =
      (pixels wm_info (laid wm_info wm_Param.pos.x wm_Param.id_list)).flatMap
        (pixelUpdates bg_info.width wm_Param.pos.y wm_info) := by
  have hx := wrapInt_of_fits wm_Param.pos.x_fits
  have hy := wm_Param.pos.y_fits
  have hwidth := bg_info.width_lt
  conv_lhs => rw [← hx, blendAll_eq]
  simp only [pixels, List.flatMap_assoc, List.flatMap_map]
  refine List.flatMap_congr fun g hg ↦ ?_
  rw [yuv420sp_blending_eq]
  refine List.flatMap_congr fun i hi ↦ List.flatMap_congr fun j hj ↦ ?_
  rw [List.mem_range] at hi hj
  -- some pixel of the glyph is inside the picture, and so is its first column
  have hq : IsPixel wm_info wm_Param ⟨g.1, g.2, i, j⟩ := ⟨hg, hi, hj⟩
  have hfirst := hfits ⟨g.1, g.2, 0, 0⟩ ⟨hg, Nat.zero_lt_of_lt hi, Nat.zero_lt_of_lt hj⟩
  have hlt := hoffset _ hq
  simp only [Nat.cast_zero, Int.add_zero] at hfirst
  have hleft : wrapInt g.1 = g.1 := by
    apply wrapInt_of_fits
    unfold FitsInt
    omega
  obtain ⟨top, htop⟩ := Int.eq_ofNat_of_zero_le hfirst.2.1
  unfold FitsInt at hy
  have hunsigned : toUnsigned wm_Param.pos.y = top := by
    unfold toUnsigned
    omega
  rw [htop] at hlt
  have hlt : top * bg_info.width < 2 ^ 32 := by exact_mod_cast hlt
  have hhalf : top / 2 * bg_info.width ≤ top * bg_info.width :=
    Nat.mul_le_mul_right _ (Nat.div_le_self top 2)
  rw [hunsigned, hleft, pixelUpdates, htop, Nat.shiftRight_one, Nat.mod_eq_of_lt hlt,
    Nat.mod_eq_of_lt (by omega : top / 2 * bg_info.width < 2 ^ 32)]
  push_cast
  rfl

theorem le_of_mem_laid {ids : List (Fin MAX_ICON_PIC)} {x : Int} {g : Int × Fin MAX_ICON_PIC}
    (h : g ∈ laid wm_info x ids) : x ≤ g.1 := by
  induction ids generalizing x with
  | nil => cases h
  | cons id ids ih =>
      rcases List.mem_cons.mp h with rfl | h
      · exact Int.le_refl x
      · have hle := ih h
        omega

/-- A glyph ends before the next one starts. -/
theorem pairwise_laid (ids : List (Fin MAX_ICON_PIC)) (x : Int) :
    (laid wm_info x ids).Pairwise fun g g' : Int × Fin MAX_ICON_PIC ↦
      g.1 + (wm_info.single_pic g.2).width ≤ g'.1 := by
  induction ids generalizing x with
  | nil => exact List.Pairwise.nil
  | cons id ids ih => exact List.pairwise_cons.mpr ⟨fun g hg ↦ le_of_mem_laid hg, ih _⟩

def Apart (q q' : Pixel) : Prop := q.left + q.j ≠ q'.left + q'.j ∨ q.i ≠ q'.i

theorem pairwise_pixels {glyphs : List (Int × Fin MAX_ICON_PIC)}
    (h : glyphs.Pairwise fun g g' : Int × Fin MAX_ICON_PIC ↦
      g.1 + (wm_info.single_pic g.2).width ≤ g'.1) :
    (pixels wm_info glyphs).Pairwise Apart := by
  unfold pixels
  refine List.pairwise_flatMap.mpr ⟨fun g _ ↦ List.pairwise_flatMap.mpr ⟨fun i _ ↦ ?_, ?_⟩, ?_⟩
  · -- two columns of a row
    refine List.pairwise_map.mpr (List.nodup_range.imp fun hne ↦ ?_)
    left
    dsimp only
    omega
  · -- two rows
    refine List.nodup_range.imp fun hne q hq q' hq' ↦ ?_
    obtain ⟨j, -, rfl⟩ := List.mem_map.mp hq
    obtain ⟨j', -, rfl⟩ := List.mem_map.mp hq'
    exact Or.inr hne
  · -- two glyphs
    refine h.imp fun hle q hq q' hq' ↦ ?_
    simp only [List.mem_flatMap, List.mem_map, List.mem_range] at hq hq'
    obtain ⟨i, -, j, hj, rfl⟩ := hq
    obtain ⟨i', -, j', -, rfl⟩ := hq'
    left
    dsimp only
    omega

theorem luma_place (w top : Int) (q : Pixel) :
    top * w + q.left + q.i * w + q.j = (top + q.i) * w + (q.left + q.j) := by
  ring

theorem exists_luma (wm_info : WaterMarkInfo) (bg_width : Nat) (top : Int) (q : Pixel) :
    let fg := wm_info.single_pic q.id
    ∃ u ∈ pixelUpdates bg_width top wm_info q, u.cell = q.lumaAt bg_width top ∧
      u.change = fun bg ↦
        blend (fg.alph (q.i * fg.width + q.j)) bg (fg.y (q.i * fg.width + q.j)) :=
  ⟨_, List.mem_cons_self, congrArg (Plane.y, ·) (luma_place bg_width top q), rfl⟩

theorem map_cell_pixelUpdates (bg_width : Nat) (top : Int) (q : Pixel) :
    (pixelUpdates bg_width top wm_info q).map CellUpdate.cell =
      q.lumaAt bg_width top :: if q.i % 2 = 0 then [q.chromaAt bg_width top] else [] := by
  have hluma := luma_place bg_width top q
  by_cases heven : q.i % 2 = 0
  · have hhalf : (top + q.i) / 2 = top / 2 + (q.i / 2 : Nat) := by omega
    have hchroma : top / 2 * bg_width + q.left + (q.i / 2 : Nat) * bg_width + q.j =
        (top + q.i) / 2 * bg_width + (q.left + q.j) := by
      rw [hhalf]
      ring
    simp [pixelUpdates, updatesAt, heven, Pixel.lumaAt, Pixel.chromaAt, hluma,
      ← hchroma]
  · simp [pixelUpdates, updatesAt, heven, Pixel.lumaAt, hluma]

theorem mem_cells {bg_width : Nat} {top : Int} {q : Pixel} {cell : Plane × Int} :
    cell ∈ (pixelUpdates bg_width top wm_info q).map CellUpdate.cell ↔
      cell = q.lumaAt bg_width top ∨ q.i % 2 = 0 ∧ cell = q.chromaAt bg_width top := by
  rw [map_cell_pixelUpdates]
  by_cases heven : q.i % 2 = 0 <;> simp [heven]

theorem place_inj {w r r' c c' : Int} (hc : 0 ≤ c ∧ c < w) (hc' : 0 ≤ c' ∧ c' < w)
    (h : r * w + c = r' * w + c') : r = r' ∧ c = c' := by
  have hdiv : ∀ r c : Int, 0 ≤ c ∧ c < w → (r * w + c) / w = r := by
    intro r c hc
    rw [Int.add_comm, Int.add_mul_ediv_right _ _ (by omega), Int.ediv_eq_zero_of_lt hc.1 hc.2,
      Int.zero_add]
  have hrow := congrArg (· / w) h
  simp only [hdiv r c hc, hdiv r' c' hc'] at hrow
  subst hrow
  exact ⟨rfl, by omega⟩

theorem nodup_cells {width height : Nat} (hfits : Fits width height wm_info wm_Param) :
    (((pixels wm_info (laid wm_info wm_Param.pos.x wm_Param.id_list)).flatMap
      (pixelUpdates width wm_Param.pos.y wm_info)).map CellUpdate.cell).Nodup := by
  rw [List.map_flatMap]
  refine List.nodup_flatMap.mpr ⟨fun q _ ↦ ?_, ?_⟩
  · rw [map_cell_pixelUpdates]
    by_cases heven : q.i % 2 = 0 <;> simp [heven, Pixel.lumaAt, Pixel.chromaAt]
  · refine (pairwise_pixels (pairwise_laid wm_Param.id_list wm_Param.pos.x)).imp_of_mem ?_
    intro q q' hq hq' hapart cell hcell hcell'
    have hin := (hfits _ (mem_pixels.mp hq)).1
    have hin' := (hfits _ (mem_pixels.mp hq')).1
    rw [mem_cells] at hcell hcell'
    have hplanes : ∀ {q q' : Pixel},
        q.lumaAt width wm_Param.pos.y ≠ q'.chromaAt width wm_Param.pos.y := by
      simp [Pixel.lumaAt, Pixel.chromaAt]
    rcases hcell with hcell | ⟨heven, hcell⟩ <;> rcases hcell' with hcell' | ⟨heven', hcell'⟩
    · have hplace := place_inj hin hin' (congrArg Prod.snd (hcell.symm.trans hcell'))
      rcases hapart with hne | hne <;> omega
    · exact hplanes (hcell.symm.trans hcell')
    · exact hplanes (hcell'.symm.trans hcell)
    · have hplace := place_inj hin hin' (congrArg Prod.snd (hcell.symm.trans hcell'))
      rcases hapart with hne | hne <;> omega

theorem isSome_of_fits (hfits : Fits bg_info.width bg_info.height wm_info wm_Param) {q : Pixel}
    (hq : IsPixel wm_info wm_Param q) {cell : Plane × Int}
    (hcell : cell = q.lumaAt bg_info.width wm_Param.pos.y ∨
      cell = q.chromaAt bg_info.width wm_Param.pos.y) : (bg_info.bytes cell).isSome := by
  obtain ⟨hcolumn, hrow⟩ := hfits q hq
  have hplace : ∀ r h : Int, 0 ≤ r → r < h →
      0 ≤ r * bg_info.width + (q.left + q.j) ∧
        r * bg_info.width + (q.left + q.j) < bg_info.width * h := by
    intro r h hr hlt
    have hpos := Int.mul_nonneg hr (Int.natCast_nonneg bg_info.width)
    have hle := Int.mul_le_mul_of_nonneg_right (by omega : r + 1 ≤ h)
      (Int.natCast_nonneg bg_info.width)
    rw [Int.add_mul, Int.one_mul, Int.mul_comm h] at hle
    omega
  obtain ⟨half, hhalf⟩ := bg_info.even_height
  rcases hcell with rfl | rfl
  · exact (bg_info.y_bytes _).mpr (hplace _ _ hrow.1 hrow.2)
  · refine (bg_info.c_bytes _).mpr (hplace _ _ (by omega) ?_)
    omega

theorem staysInside_of_fits (hfits : Fits bg_info.width bg_info.height wm_info wm_Param)
    (hoffset : OffsetFits bg_info.width wm_info wm_Param) :
    StaysInside bg_info wm_info wm_Param := by
  unfold StaysInside watermark_blending
  split
  · refine ⟨-1, bg_info.bytes, rfl, fun hzero ↦ ?_, fun hnot ↦ absurd hfits hnot⟩
    exact absurd hzero (by decide)
  · rw [blendAll_eq_pixels hfits hoffset]
    have hrun : (CellUpdate.run ((pixels wm_info (laid wm_info wm_Param.pos.x
        wm_Param.id_list)).flatMap (pixelUpdates bg_info.width wm_Param.pos.y wm_info))
          bg_info.bytes).isSome := by
      rw [CellUpdate.isSome_run_iff]
      intro u hu
      obtain ⟨q, hq, hu⟩ := List.mem_flatMap.mp hu
      have hcell := mem_cells.mp (List.mem_map_of_mem hu)
      exact isSome_of_fits hfits (mem_pixels.mp hq) (hcell.imp_right And.right)
    obtain ⟨bytes, hbytes⟩ := Option.isSome_iff_exists.mp hrun
    refine ⟨0, bytes, by rw [hbytes]; rfl, fun _ ↦ ⟨fun q hq ↦ ?_, fun cell hcell ↦ ?_⟩,
      fun hnot ↦ absurd hfits hnot⟩
    · obtain ⟨u, hu, hcell, hchange⟩ := exists_luma wm_info bg_info.width wm_Param.pos.y q
      have hmem := List.mem_flatMap.mpr ⟨q, mem_pixels.mpr hq, hu⟩
      have hblend := CellUpdate.run_of_mem (nodup_cells hfits) hmem hbytes
      rw [hcell, hchange] at hblend
      exact hblend
    · refine CellUpdate.run_of_notMem (fun u hu heq ↦ ?_) hbytes
      obtain ⟨q, hq, hu⟩ := List.mem_flatMap.mp hu
      have hnot := hcell q (mem_pixels.mp hq)
      rcases mem_cells.mp (List.mem_map_of_mem hu) with hluma | ⟨-, hchroma⟩
      · exact hnot.1 (hluma.symm.trans heq)
      · exact hnot.2 (hchroma.symm.trans heq)

/-! ## Requests whose first row is too far -/

def white (wm_info : WaterMarkInfo) : WaterMarkInfo where
  single_pic id := { wm_info.single_pic id with
    y := fun _ ↦ 255
    c := fun _ ↦ 255
    alph := fun _ ↦ 255 }

def BackGroudLayerInfo.black (bg_info : BackGroudLayerInfo) : BackGroudLayerInfo :=
  { bg_info with
    bytes := fun cell ↦ (bg_info.bytes cell).map fun _ ↦ 0
    y_bytes := fun p ↦ by rw [Option.isSome_map, bg_info.y_bytes]
    c_bytes := fun p ↦ by rw [Option.isSome_map, bg_info.c_bytes] }

@[simp] theorem black_width (bg_info : BackGroudLayerInfo) : bg_info.black.width = bg_info.width :=
  rfl

theorem sameSizes_white (wm_info : WaterMarkInfo) : SameSizes wm_info (white wm_info) :=
  fun _ ↦ ⟨rfl, rfl⟩

theorem blend_white (bg : UInt8) : blend 255 bg 255 ≠ 0 := by
  have hlt := bg.toNat_lt
  have hvalue : ((256 - (255 : UInt8).toNat) * bg.toNat +
      (255 : UInt8).toNat * (255 : UInt8).toNat) >>> 8 = (bg.toNat + 65025) / 256 := by
    rw [Nat.shiftRight_eq_div_pow]
    change (1 * bg.toNat + 65025) / 256 = _
    rw [Nat.one_mul]
  rw [blend, hvalue, Ne, ← UInt8.toNat_inj, UInt8.toNat_ofNat']
  change (bg.toNat + 65025) / 256 % 256 ≠ 0
  omega

theorem blendAll_white {bg_width top : Nat} {x : Int} {ids : List (Fin MAX_ICON_PIC)}
    {u : CellUpdate (Plane × Int) UInt8}
    (hu : u ∈ blendAll bg_width (white wm_info) top (wrapInt x) ids) (bg : UInt8) :
    u.change bg ≠ 0 := by
  rw [blendAll_eq] at hu
  obtain ⟨g, -, hu⟩ := List.mem_flatMap.mp hu
  rw [yuv420sp_blending_eq] at hu
  obtain ⟨i, -, hu⟩ := List.mem_flatMap.mp hu
  obtain ⟨j, -, hu⟩ := List.mem_flatMap.mp hu
  rcases List.mem_cons.mp hu with rfl | hu
  · exact blend_white bg
  · by_cases heven : i % 2 = 0
    · rw [if_pos heven, List.mem_singleton] at hu
      subst hu
      exact blend_white bg
    · rw [if_neg heven] at hu
      cases hu

/-- The first byte of a glyph is blended where the computed distance is. -/
theorem exists_first (bg_width top : Nat) {x left : Int} {ids : List (Fin MAX_ICON_PIC)}
    {id : Fin MAX_ICON_PIC} (hmem : (left, id) ∈ laid wm_info x ids)
    (hwidth : 0 < (wm_info.single_pic id).width) (hheight : 0 < (wm_info.single_pic id).height) :
    ∃ u ∈ blendAll bg_width wm_info top (wrapInt x) ids,
      u.cell = (.y, (top * bg_width % 2 ^ 32 : Nat) + wrapInt left) := by
  obtain ⟨u, hu, hcell⟩ : ∃ u ∈ yuv420sp_blending bg_width (wrapInt left) top (wm_info.single_pic id),
      u.cell = (.y, (top * bg_width % 2 ^ 32 : Nat) + wrapInt left) := by
    rw [yuv420sp_blending_eq]
    refine ⟨_, List.mem_flatMap.mpr ⟨0, List.mem_range.mpr hheight, List.mem_flatMap.mpr
      ⟨0, List.mem_range.mpr hwidth, List.mem_cons_self⟩⟩, ?_⟩
    simp
  refine ⟨u, ?_, hcell⟩
  rw [blendAll_eq]
  exact List.mem_flatMap.mpr ⟨(left, id), hmem, hu⟩

/-- A first row behind `2 ^ 32` bytes is blended somewhere in front. -/
theorem offsetFits_of_staysInside
    (hfits : Fits bg_info.width bg_info.height (white wm_info) wm_Param)
    (hwidth : ¬ totalWidth (white wm_info) wm_Param.id_list > bg_info.width)
    (h : StaysInside bg_info.black (white wm_info) wm_Param) :
    OffsetFits bg_info.width (white wm_info) wm_Param := by
  intro q hq
  by_contra hlarge
  have hx := wrapInt_of_fits wm_Param.pos.x_fits
  have hy := wm_Param.pos.y_fits
  have hfirst := hfits ⟨q.left, q.id, 0, 0⟩
    ⟨hq.1, Nat.zero_lt_of_lt hq.2.1, Nat.zero_lt_of_lt hq.2.2⟩
  simp only [Nat.cast_zero, Int.add_zero] at hfirst
  have hbg := bg_info.width_lt
  have hleft : wrapInt q.left = q.left := by
    apply wrapInt_of_fits
    unfold FitsInt
    omega
  obtain ⟨top, htop⟩ := Int.eq_ofNat_of_zero_le hfirst.2.1
  unfold FitsInt at hy
  have hunsigned : toUnsigned wm_Param.pos.y = top := by
    unfold toUnsigned
    omega
  obtain ⟨ret, bytes, hrun, hblended, -⟩ := h
  rw [watermark_blending, black_width, if_neg hwidth, Option.map_eq_some_iff] at hrun
  obtain ⟨bytes', hbytes, heq⟩ := hrun
  cases heq
  -- the byte that is blended
  obtain ⟨u, hu, hcell⟩ := exists_first bg_info.width top hq.1
    (Nat.zero_lt_of_lt hq.2.2) (Nat.zero_lt_of_lt hq.2.1)
  rw [hx] at hu
  rw [hleft] at hcell
  rw [hunsigned] at hbytes
  obtain ⟨v, hv, hne⟩ := CellUpdate.run_establishes (P := (· ≠ 0))
    (fun u hu bg ↦ blendAll_white (by rwa [hx]) bg) hu hbytes
  -- and is not under a glyph
  have hsame := (hblended rfl).others u.cell fun q' hq' ↦ by
    have hcolumn := (hfits q' hq').1
    rw [hcell]
    refine ⟨fun hluma ↦ ?_, by simp [Pixel.chromaAt]⟩
    have hplace := congrArg Prod.snd hluma
    change (wm_Param.pos.y + q'.i) * bg_info.width + (q'.left + q'.j) =
      (top * bg_info.width % 2 ^ 32 : Nat) + q.left at hplace
    have hrow : (0 : Int) ≤ q'.i * bg_info.width :=
      Int.mul_nonneg (Int.natCast_nonneg _) (Int.natCast_nonneg _)
    rw [htop, Int.add_mul] at hplace
    rw [htop] at hlarge
    have hmod := Nat.mod_add_div (top * bg_info.width) (2 ^ 32)
    push_cast at hplace hlarge
    omega
  rw [hv] at hsame
  obtain ⟨w, -, hw⟩ := Option.map_eq_some_iff.mp hsame.symm
  exact hne hw.symm

theorem fits_of_staysInside (hwidth : ¬ totalWidth wm_info wm_Param.id_list > bg_info.width)
    (h : StaysInside bg_info wm_info wm_Param) :
    Fits bg_info.width bg_info.height wm_info wm_Param := by
  by_contra hnot
  obtain ⟨ret, bytes, hrun, -, hfail⟩ := h
  obtain ⟨rfl, -⟩ := hfail hnot
  rw [watermark_blending, if_neg hwidth, Option.map_eq_some_iff] at hrun
  obtain ⟨bytes', -, heq⟩ := hrun
  have hret : (0 : Int) = -1 := congrArg Prod.fst heq
  omega

section Sizes

variable {wm_info' : WaterMarkInfo} (h : SameSizes wm_info wm_info')

include h

theorem laid_of_sameSizes (x : Int) (ids : List (Fin MAX_ICON_PIC)) :
    laid wm_info' x ids = laid wm_info x ids := by
  induction ids generalizing x with
  | nil => rfl
  | cons id ids ih => rw [laid, laid, ih, (h id).1]

theorem isPixel_of_sameSizes (q : Pixel) : IsPixel wm_info' wm_Param q ↔ IsPixel wm_info wm_Param q := by
  rw [IsPixel, IsPixel, laid_of_sameSizes h, (h q.id).1, (h q.id).2]

theorem fits_of_sameSizes (width height : Nat) :
    Fits width height wm_info' wm_Param ↔ Fits width height wm_info wm_Param := by
  simp only [Fits, isPixel_of_sameSizes h]

theorem offsetFits_of_sameSizes (width : Nat) :
    OffsetFits width wm_info' wm_Param ↔ OffsetFits width wm_info wm_Param := by
  simp only [OffsetFits, isPixel_of_sameSizes h]

theorem totalWidth_of_sameSizes (ids : List (Fin MAX_ICON_PIC)) :
    totalWidth wm_info' ids = totalWidth wm_info ids := by
  simp only [totalWidth, (h _).1]

end Sizes

end Fitting

/-- Blending stays inside the glyphs' rectangles, whatever the picture and the glyphs show, iff their
widths together, as an `int`, exceed the width of the picture, so that nothing is done, or every pixel
is inside the picture and the distance of the first row is below `2 ^ 32`. -/
theorem staysInside_iff (bg_info : BackGroudLayerInfo) (wm_info : WaterMarkInfo)
    (wm_Param : ShowWaterMarkParam) :
    (∀ bg_info' : BackGroudLayerInfo, bg_info'.width = bg_info.width →
      bg_info'.height = bg_info.height → ∀ wm_info', SameSizes wm_info wm_info' →
        StaysInside bg_info' wm_info' wm_Param) ↔
      wrapInt (wm_Param.id_list.map fun id ↦ (wm_info.single_pic id).width).sum > bg_info.width ∨
        Fits bg_info.width bg_info.height wm_info wm_Param ∧
          OffsetFits bg_info.width wm_info wm_Param := by
  rw [← totalWidth_eq]
  constructor
  · intro h
    by_cases hwidth : totalWidth wm_info wm_Param.id_list > bg_info.width
    · exact Or.inl hwidth
    · have hfits := fits_of_staysInside hwidth (h bg_info rfl rfl wm_info fun _ ↦ ⟨rfl, rfl⟩)
      have hsizes := sameSizes_white wm_info
      have hblack := h bg_info.black rfl rfl (white wm_info) hsizes
      refine Or.inr ⟨hfits, (offsetFits_of_sameSizes hsizes _).mp ?_⟩
      exact offsetFits_of_staysInside ((fits_of_sameSizes hsizes _ _).mpr hfits)
        (by rwa [totalWidth_of_sameSizes hsizes]) hblack
  · rintro hcondition bg_info' hwidth hheight wm_info' hsizes
    rw [← hwidth, ← hheight, ← totalWidth_of_sameSizes hsizes, ← fits_of_sameSizes hsizes,
      ← offsetFits_of_sameSizes hsizes] at hcondition
    rcases hcondition with htotal | ⟨hfits, hoffset⟩
    · refine ⟨-1, bg_info'.bytes, by rw [watermark_blending, if_pos htotal], fun hzero ↦ ?_,
        fun _ ↦ ⟨rfl, rfl⟩⟩
      exact absurd hzero (by decide)
    · exact staysInside_of_fits hfits hoffset

def black4x4 : BackGroudLayerInfo where
  width := 4
  height := 4
  bytes
    | (.y, p) => if 0 ≤ p ∧ p < (4 : Nat) * (4 : Nat) then some 0 else none
    | (.c, p) => if 0 ≤ p ∧ p < (4 : Nat) * (4 / 2 : Nat) then some 0 else none
  width_lt := by decide
  height_lt := by decide
  even_width := ⟨2, rfl⟩
  even_height := ⟨2, rfl⟩
  y_bytes p := by split <;> simp_all
  c_bytes p := by split <;> simp_all

def white2x1 : WaterMarkInfo where
  single_pic _ :=
    { width := 2
      height := 1
      y := fun _ ↦ 255
      c := fun _ ↦ 255
      alph := fun _ ↦ 255
      width_lt := by decide
      height_lt := by decide }

def lastColumn : ShowWaterMarkParam where
  pos := ⟨3, 0, by decide, by decide⟩
  id_list := [⟨0, by decide⟩]

/-- Its second pixel goes to the first column of the next row, and the request succeeds. -/
theorem last_column_wraps :
    (watermark_blending black4x4 white2x1 lastColumn).map
        (fun r ↦ (r.1, r.2 (.y, 3), r.2 (.y, 4), r.2 (.c, 4))) =
      some (0, some 254, some 254, some 254) ∧
      ¬ StaysInside black4x4 white2x1 lastColumn := by
  refine ⟨by decide, fun h ↦ ?_⟩
  have hfits := fits_of_staysInside (by decide) h
  have hcolumn := (hfits ⟨3, ⟨0, by decide⟩, 0, 1⟩ (by unfold IsPixel; decide)).1
  revert hcolumn
  decide

end AwHal.Camera.WaterMark
