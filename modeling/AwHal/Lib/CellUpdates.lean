import Mathlib.Data.List.Induction
import Mathlib.Data.List.Nodup
import Mathlib.Logic.Function.Basic

/-!
# Updates of cells

A memory of cells, some of which exist, and programs that change one cell after the other.  A change of
a cell that does not exist makes the program fail.
-/

namespace AwHal.Lib

abbrev Cells (κ α : Type) : Type := κ → Option α

structure CellUpdate (κ α : Type) where
  cell : κ
  change : α → α

namespace CellUpdate

variable {κ α : Type} [DecidableEq κ]

def apply (m : Cells κ α) (u : CellUpdate κ α) : Option (Cells κ α) :=
  (m u.cell).map fun v => Function.update m u.cell (some (u.change v))

def run (us : List (CellUpdate κ α)) (m : Cells κ α) : Option (Cells κ α) := us.foldlM apply m

@[simp] theorem run_nil (m : Cells κ α) : run [] m = some m := rfl

theorem run_cons (u : CellUpdate κ α) (us : List (CellUpdate κ α)) (m : Cells κ α) :
    run (u :: us) m = (apply m u).bind (run us) := rfl

theorem run_cons_eq_some {u : CellUpdate κ α} {us : List (CellUpdate κ α)} {m m' : Cells κ α}
    (h : run (u :: us) m = some m') :
    ∃ v, m u.cell = some v ∧ run us (Function.update m u.cell (some (u.change v))) = some m' := by
  rw [run_cons, apply] at h
  cases hv : m u.cell with
  | none =>
      rw [hv] at h
      cases h
  | some v =>
      rw [hv] at h
      exact ⟨v, rfl, h⟩

variable {us : List (CellUpdate κ α)} {m m' : Cells κ α}

theorem isSome_update {k : κ} {v w : α} (h : m k = some v) (k' : κ) :
    (Function.update m k (some w) k').isSome = (m k').isSome := by
  by_cases hk : k' = k
  · subst hk
    rw [Function.update_self, h]
    rfl
  · rw [Function.update_of_ne hk]

theorem isSome_run_iff : (run us m).isSome ↔ ∀ u ∈ us, (m u.cell).isSome := by
  induction us generalizing m with
  | nil => simp
  | cons u us ih =>
      rw [List.forall_mem_cons, run_cons, apply]
      cases hv : m u.cell with
      | none => simp
      | some v =>
          rw [Option.map_some, Option.bind_some, ih]
          simp only [isSome_update hv, Option.isSome_some, true_and]

theorem run_of_notMem {k : κ} (hk : ∀ u ∈ us, u.cell ≠ k) (h : run us m = some m') :
    m' k = m k := by
  induction us generalizing m with
  | nil =>
      cases h
      rfl
  | cons u us ih =>
      obtain ⟨v, -, hrest⟩ := run_cons_eq_some h
      rw [ih (fun u' hu' => hk u' (List.mem_cons_of_mem _ hu')) hrest,
        Function.update_of_ne (hk u List.mem_cons_self).symm]

theorem run_of_mem (hnodup : (us.map cell).Nodup) {u : CellUpdate κ α} (hu : u ∈ us)
    (h : run us m = some m') : m' u.cell = (m u.cell).map u.change := by
  induction us generalizing m with
  | nil => cases hu
  | cons u' us ih =>
      rw [List.map_cons, List.nodup_cons] at hnodup
      obtain ⟨v, hv, hrest⟩ := run_cons_eq_some h
      rcases List.mem_cons.mp hu with rfl | hu
      · have hlater : ∀ u' ∈ us, u'.cell ≠ u.cell := by
          intro u' hu' heq
          exact hnodup.1 (heq ▸ List.mem_map_of_mem hu')
        rw [run_of_notMem hlater hrest, Function.update_self, hv, Option.map_some]
      · have hne : u.cell ≠ u'.cell := by
          intro heq
          exact hnodup.1 (heq ▸ List.mem_map_of_mem hu)
        rw [ih hnodup.2 hu hrest, Function.update_of_ne hne]

/-- What every change establishes holds of a changed cell, however often it is changed. -/
theorem run_establishes {P : α → Prop} (hP : ∀ u ∈ us, ∀ v, P (u.change v))
    {u : CellUpdate κ α} (hu : u ∈ us) (h : run us m = some m') : ∃ v, m' u.cell = some v ∧ P v := by
  induction us using List.reverseRecOn generalizing m' with
  | nil => cases hu
  | append_singleton us u' ih =>
      rw [run, List.foldlM_append, Option.bind_eq_bind, Option.bind_eq_some_iff] at h
      obtain ⟨m₁, hfirst, hlast⟩ := h
      obtain ⟨v, hv, hrest⟩ := run_cons_eq_some hlast
      cases hrest
      by_cases heq : u.cell = u'.cell
      · rw [heq, Function.update_self]
        exact ⟨_, rfl, hP u' List.mem_concat_self v⟩
      · rw [Function.update_of_ne heq]
        have hmem : u ∈ us := by
          rcases List.mem_append.mp hu with hu | hu
          · exact hu
          · exact absurd (congrArg cell (List.mem_singleton.mp hu)) heq
        exact ih (fun u'' hu'' => hP u'' (List.mem_append_left _ hu'')) hmem hfirst

end CellUpdate

end AwHal.Lib
