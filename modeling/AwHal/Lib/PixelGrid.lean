import Mathlib.Data.Set.Prod
import Mathlib.Order.Interval.Set.Basic
import Mathlib.Data.Int.ConditionallyCompleteOrder
import Mathlib.Order.ConditionallyCompleteLattice.Basic

/-!
# Rectangles of pixels

The pixels of an image are pairs of a column and a row, the first row on top.  Flips and quarter turns
take rectangles to rectangles.
-/

namespace AwHal.Lib

/-- The pixels from column `l` and row `t` up to, but not at, column `r` and row `b`. -/
def pixelRect (l t r b : Int) : Set (Int × Int) := Set.Ico l r ×ˢ Set.Ico t b

/-- Where the pixels of an image of width `w` go when left and right are exchanged. -/
def flipColumns (w : Int) (p : Int × Int) : Int × Int := (w - 1 - p.1, p.2)

/-- Where the pixels of an image of height `h` go when top and bottom are exchanged. -/
def flipRows (h : Int) (p : Int × Int) : Int × Int := (p.1, h - 1 - p.2)

/-- Where the pixels of an image of height `h` go in a clockwise quarter turn: the last row becomes the
first column. -/
def quarterTurn (h : Int) (p : Int × Int) : Int × Int := (h - 1 - p.2, p.1)

variable {l t r b l' t' r' b' x y : Int}

theorem mem_pixelRect : (x, y) ∈ pixelRect l t r b ↔ (l ≤ x ∧ x < r) ∧ t ≤ y ∧ y < b := Iff.rfl

theorem flipColumns_image (w : Int) :
    flipColumns w '' pixelRect l t r b = pixelRect (w - r) t (w - l) b := by
  ext ⟨x, y⟩
  rw [Set.mem_image, mem_pixelRect]
  constructor
  · intro h
    obtain ⟨⟨x', y'⟩, hmem, heq⟩ := h
    rw [mem_pixelRect] at hmem
    cases heq
    omega
  · intro h
    refine ⟨(w - 1 - x, y), ?_, ?_⟩
    · rw [mem_pixelRect]
      omega
    · exact Prod.ext (Int.sub_sub_self (w - 1) x) rfl

theorem flipRows_image (h : Int) :
    flipRows h '' pixelRect l t r b = pixelRect l (h - b) r (h - t) := by
  ext ⟨x, y⟩
  rw [Set.mem_image, mem_pixelRect]
  constructor
  · intro hp
    obtain ⟨⟨x', y'⟩, hmem, heq⟩ := hp
    rw [mem_pixelRect] at hmem
    cases heq
    omega
  · intro hp
    refine ⟨(x, h - 1 - y), ?_, ?_⟩
    · rw [mem_pixelRect]
      omega
    · exact Prod.ext rfl (Int.sub_sub_self (h - 1) y)

theorem quarterTurn_image (h : Int) :
    quarterTurn h '' pixelRect l t r b = pixelRect (h - b) l (h - t) r := by
  ext ⟨x, y⟩
  rw [Set.mem_image, mem_pixelRect]
  constructor
  · intro hp
    obtain ⟨⟨x', y'⟩, hmem, heq⟩ := hp
    rw [mem_pixelRect] at hmem
    cases heq
    omega
  · intro hp
    refine ⟨(y, h - 1 - x), ?_, ?_⟩
    · rw [mem_pixelRect]
      omega
    · exact Prod.ext (Int.sub_sub_self (h - 1) x) rfl

theorem pixelRect_subset (hl : l' ≤ l) (ht : t' ≤ t) (hr : r ≤ r') (hb : b ≤ b') :
    pixelRect l t r b ⊆ pixelRect l' t' r' b' :=
  Set.prod_mono (Set.Ico_subset_Ico hl hr) (Set.Ico_subset_Ico ht hb)

/-- Rectangles of the same size, neither of them empty, are equal only at the same place. -/
theorem pixelRect_inj (hx : l < r) (hy : t < b) (hx' : l' < r') (hy' : t' < b')
    (h : pixelRect l t r b = pixelRect l' t' r' b') : l = l' ∧ t = t' := by
  have hcorner : (l, t) ∈ pixelRect l' t' r' b' := by
    rw [← h, mem_pixelRect]
    omega
  have hcorner' : (l', t') ∈ pixelRect l t r b := by
    rw [h, mem_pixelRect]
    omega
  rw [mem_pixelRect] at hcorner hcorner'
  omega

end AwHal.Lib
