import Mathlib.Logic.Function.Basic
import Mathlib.Data.List.Basic

/-!
# Circular doubly linked lists

A list head and the nodes of the list are linked in a ring.  Nodes are linked in before the head and
taken out wherever they are; the head of an empty list is linked to itself.
-/

namespace AwHal.Lib

open Function

variable {α : Type}

/-- The two pointers of every node. -/
structure Links (α : Type) where
  next : α → α
  pre : α → α

namespace Links

/-! ## Operations -/

section

variable [DecidableEq α]

/-- A node, or the head of an empty list, is linked to itself. -/
def selfLink (k : Links α) (n : α) : Links α where
  next := update k.next n n
  pre := update k.pre n n

/-- Links `n` in before `head`, at the end of the list.  The four assignments are made one after
another. -/
def linkBefore (k : Links α) (head n : α) : Links α :=
  let next := update k.next n head
  let pre := update k.pre n (k.pre head)
  let next := update next (pre head) n
  let pre := update pre head n
  { next, pre }

def unlink (k : Links α) (n : α) : Links α :=
  let pre := update k.pre (k.next n) (k.pre n)
  let next := update k.next (pre n) (k.next n)
  Links.selfLink { next, pre } n

def isAlone (k : Links α) (n : α) : Bool :=
  k.pre n = n && k.next n = n

end

/-! ## Segments -/

/-- From `x` the nodes of `l` come one after another, and then `y`. -/
def Seg (k : Links α) (x : α) : List α → α → Prop
  | [], y => k.next x = y ∧ k.pre y = x
  | z :: l, y => k.next x = z ∧ k.pre z = x ∧ Seg k z l y

theorem seg_append {k : Links α} {x z y : α} {l₁ l₂ : List α} :
    k.Seg x (l₁ ++ z :: l₂) y ↔ k.Seg x l₁ z ∧ k.Seg z l₂ y := by
  induction l₁ generalizing x with
  | nil => simp [Seg, and_assoc]
  | cons w l₁ ih => simp [Seg, ih, and_assoc]

theorem Seg.congr {k k' : Links α} {x y : α} {l : List α} (h : k.Seg x l y)
    (hnext : ∀ z ∈ x :: l, k'.next z = k.next z) (hpre : ∀ z ∈ l ++ [y], k'.pre z = k.pre z) :
    k'.Seg x l y := by
  induction l generalizing x with
  | nil =>
      refine ⟨?_, ?_⟩
      · rw [hnext x (by simp)]
        exact h.1
      · rw [hpre y (by simp)]
        exact h.2
  | cons z l ih =>
      obtain ⟨hz, hx, hrest⟩ := h
      refine ⟨?_, ?_, ?_⟩
      · rw [hnext x (by simp)]
        exact hz
      · rw [hpre z (by simp)]
        exact hx
      · apply ih hrest
        · exact fun w hw => hnext w (List.mem_cons_of_mem x hw)
        · exact fun w hw => hpre w (List.mem_cons_of_mem z hw)

/-! ## The list behind a head -/

/-- The ring that starts and ends at `head` holds the nodes of `l`, each once. -/
structure Holds (k : Links α) (head : α) (l : List α) : Prop where
  seg : k.Seg head l head
  nodup : (head :: l).Nodup

variable {k : Links α} {head : α} {l : List α}

theorem Holds.next_head {n : α} (h : k.Holds head (n :: l)) : k.next head = n :=
  h.seg.1

variable [DecidableEq α]

theorem Holds.isAlone_iff (h : k.Holds head l) : k.isAlone head = true ↔ l = [] := by
  cases l with
  | nil =>
      obtain ⟨hnext, hpre⟩ := h.seg
      simp [isAlone, hnext, hpre]
  | cons n l =>
      have hne : n ≠ head := fun heq => (List.nodup_cons.mp h.nodup).1 (by simp [heq])
      have hnext : k.next head = n := h.seg.1
      simp [isAlone, hnext, hne]

theorem Holds.selfLink (h : k.Holds head l) {n : α} (hn : n ∉ head :: l) :
    (k.selfLink n).Holds head l := by
  refine ⟨h.seg.congr ?_ ?_, h.nodup⟩
  · intro z hz
    exact update_of_ne (by rintro rfl; exact hn hz) ..
  · intro z hz
    refine update_of_ne ?_ ..
    rintro rfl
    exact hn (by simpa [or_comm] using hz)

theorem Holds.linkBefore (h : k.Holds head l) {n : α} (hn : n ∉ head :: l) :
    (k.linkBefore head n).Holds head (l ++ [n]) := by
  obtain ⟨hseg, hnodup⟩ := h
  have hhead : head ≠ n := fun heq => hn (by simp [heq])
  refine ⟨?_, ?_⟩
  · rcases List.eq_nil_or_concat l with rfl | ⟨l, t, rfl⟩
    · obtain ⟨hnext, hpre⟩ := hseg
      simp [Seg, Links.linkBefore, hpre, hhead, hhead.symm]
    · -- the old tail `t` now points to the new node
      rw [List.concat_eq_append] at hseg hnodup hn ⊢
      obtain ⟨hfront, hlast⟩ := seg_append.mp hseg
      have htail : k.pre head = t := hlast.2
      have htn : t ≠ n := by
        rintro rfl
        exact hn (by simp)
      have hth : t ≠ head := by
        rintro rfl
        simp at hnodup
      rw [List.append_assoc]
      refine seg_append.mpr ⟨hfront.congr ?_ ?_, ?_⟩
      · intro z hz
        have hzt : z ≠ t := by
          rintro rfl
          have := List.nodup_append.mp (show ((head :: l) ++ [z]).Nodup from hnodup)
          exact this.2.2 z hz z (by simp) rfl
        have hzn : z ≠ n := by
          rintro rfl
          exact hn (by
            rcases List.mem_cons.mp hz with rfl | hz
            · simp
            · simp [hz])
        simp [Links.linkBefore, hhead, htail, hzt, hzn]
      · intro z hz
        have hzh : z ≠ head := by
          rintro rfl
          exact (List.nodup_cons.mp hnodup).1 hz
        have hzn : z ≠ n := by
          rintro rfl
          exact hn (List.mem_cons_of_mem head hz)
        simp [Links.linkBefore, hzh, hzn]
      · simp [Seg, Links.linkBefore, hhead, htail, hhead.symm, htn.symm]
  · rw [← List.cons_append]
    exact List.nodup_append.mpr ⟨hnodup, by simp, by
      rintro a ha b hb rfl
      exact hn (List.mem_singleton.mp hb ▸ ha)⟩

theorem Holds.unlink {n : α} (h : k.Holds head (n :: l)) : (k.unlink n).Holds head l := by
  obtain ⟨⟨hnext, hpre, hseg⟩, hnodup⟩ := h
  have hne : head ≠ n := by
    rintro rfl
    simp at hnodup
  have hnodup' : (head :: l).Nodup := hnodup.sublist (by simp)
  refine ⟨?_, hnodup'⟩
  cases l with
  | nil =>
      obtain ⟨hn, hh⟩ := hseg
      simp [Seg, Links.unlink, Links.selfLink, hn, hpre, hne, hne.symm]
  | cons m l =>
      obtain ⟨hm, hpm, hrest⟩ := hseg
      have hmn : m ≠ n := by
        rintro rfl
        simp at hnodup
      refine ⟨?_, ?_, hrest.congr ?_ ?_⟩
      · simp [Links.unlink, Links.selfLink, hm, hpre, hne, hmn.symm]
      · simp [Links.unlink, Links.selfLink, hm, hpre, hmn]
      · intro z hz
        have hzn : z ≠ n := by
          rintro rfl
          exact (List.nodup_cons.mp (List.nodup_cons.mp hnodup).2).1 hz
        have hzh : z ≠ head := by
          rintro rfl
          exact (List.nodup_cons.mp hnodup').1 hz
        simp [Links.unlink, Links.selfLink, hm, hpre, hzn, hzh, hmn.symm]
      · intro z hz
        have hzn : z ≠ n := by
          rintro rfl
          rcases List.mem_append.mp hz with hz | hz
          · exact (List.nodup_cons.mp (List.nodup_cons.mp hnodup).2).1 (List.mem_cons_of_mem m hz)
          · exact hne (List.mem_singleton.mp hz).symm
        have hzm : z ≠ m := by
          rintro rfl
          rcases List.mem_append.mp hz with hz | hz
          · exact (List.nodup_cons.mp (List.nodup_cons.mp hnodup').2).1 hz
          · exact (List.nodup_cons.mp hnodup').1 (by simp [List.mem_singleton.mp hz])
        simp [Links.unlink, Links.selfLink, hm, hzn, hzm]

end Links

end AwHal.Lib
