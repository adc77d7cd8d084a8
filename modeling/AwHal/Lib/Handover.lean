import Mathlib.Logic.Function.Basic
import Mathlib.Data.List.Nodup

/-!
# Handing resources over, one owner after another

Owners that are to change their resource do so in turn: an owner releases its old resource and takes
the new one, with no regard to what the others have done.  Each of them holds its new resource at the
end exactly when no later owner releases or takes it.
-/

namespace AwHal.Lib

variable {O R S K : Type}

/-- Owners with a key, resources with a state that tells the key of the holder. -/
structure Handover (O R S K : Type) where
  key : O → K
  old : O → R
  new : O → R
  release : S → S
  taken : O → S
  holder : S → Option K
  holder_release : ∀ s, holder (release s) = none
  holder_taken : ∀ o, holder (taken o) = some (key o)

namespace Handover

variable [DecidableEq R] (h : Handover O R S K)

def step (states : R → S) (o : O) : R → S :=
  Function.update (Function.update states (h.old o) (h.release (states (h.old o))))
    (h.new o) (h.taken o)

def run (states : R → S) (owners : List O) : R → S :=
  owners.foldl h.step states

def Untouched (r : R) (owners : List O) : Prop :=
  ∀ o ∈ owners, r ≠ h.old o ∧ r ≠ h.new o

def Apart (owners : List O) : Prop :=
  owners.Pairwise fun a b => h.new a ≠ h.old b ∧ h.new a ≠ h.new b

theorem run_of_untouched {r : R} {owners : List O} (hr : h.Untouched r owners)
    (states : R → S) : h.run states owners r = states r := by
  induction owners generalizing states with
  | nil => rfl
  | cons o owners ih =>
      obtain ⟨hold, hnew⟩ := hr o List.mem_cons_self
      have hrest : h.Untouched r owners := fun b hb => hr b (List.mem_cons_of_mem o hb)
      calc h.run states (o :: owners) r
          = h.step states o r := ih hrest _
        _ = states r := by
            rw [step, Function.update_of_ne hnew, Function.update_of_ne hold]

theorem untouched_of_holder {r : R} {owners : List O} {k : K} (hk : k ∉ owners.map h.key)
    {states : R → S} (hholder : h.holder (h.run states owners r) = some k) :
    h.Untouched r owners := by
  induction owners generalizing states with
  | nil => exact fun o ho => absurd ho List.not_mem_nil
  | cons o owners ih =>
      rw [List.map_cons, List.mem_cons, not_or] at hk
      have hrest : h.Untouched r owners := ih hk.2 hholder
      have hstep : h.holder (h.step states o r) = some k := by
        rw [← h.run_of_untouched hrest (h.step states o)]
        exact hholder
      have hnew : r ≠ h.new o := by
        rintro rfl
        rw [step, Function.update_self, h.holder_taken] at hstep
        exact hk.1 (Option.some.inj hstep).symm
      have hold : r ≠ h.old o := by
        rintro rfl
        rw [step, Function.update_of_ne hnew, Function.update_self, h.holder_release] at hstep
        cases hstep
      intro b hb
      rcases List.mem_cons.mp hb with rfl | hb
      · exact ⟨hold, hnew⟩
      · exact hrest b hb

theorem run_new {owners : List O} (hapart : h.Apart owners) {o : O} (ho : o ∈ owners)
    (states : R → S) : h.run states owners (h.new o) = h.taken o := by
  induction owners generalizing states with
  | nil => exact absurd ho List.not_mem_nil
  | cons a owners ih =>
      obtain ⟨hhead, htail⟩ := List.pairwise_cons.mp hapart
      rcases List.mem_cons.mp ho with rfl | ho
      · calc h.run states (o :: owners) (h.new o)
            = h.step states o (h.new o) := h.run_of_untouched hhead _
          _ = h.taken o := Function.update_self ..
      · exact ih htail ho _

/-- Everyone holds the new resource in the end exactly when the owners keep apart. -/
theorem holder_run_iff {owners : List O} (hkeys : (owners.map h.key).Nodup) (states : R → S) :
    (∀ o ∈ owners, h.holder (h.run states owners (h.new o)) = some (h.key o)) ↔
      h.Apart owners := by
  constructor
  · intro hholds
    induction owners generalizing states with
    | nil => exact List.Pairwise.nil
    | cons a owners ih =>
        obtain ⟨hfresh, hkeys⟩ := List.nodup_cons.mp hkeys
        refine List.pairwise_cons.mpr ⟨?_, ih hkeys (h.step states a) ?_⟩
        · exact h.untouched_of_holder hfresh (hholds a List.mem_cons_self)
        · exact fun o ho => hholds o (List.mem_cons_of_mem a ho)
  · intro hapart o ho
    rw [h.run_new hapart ho, h.holder_taken]

end Handover

end AwHal.Lib
