import AwHal.Lib.Handles

/-!
# Owners of handles

Objects that own at most one handle each: taking another one closes the first, and what one object
gives to another it no longer has.  A handle stands for something, its label, and so does a duplicate
of it.  What the objects stand for can be followed without the handles.
-/

namespace AwHal.Lib

/-- The owners of some handles. -/
structure Owners (U L : Type) where
  handles : Handles
  held : U → Option Nat
  label : Nat → L
  ledger : handles.Ledger held

namespace Owners

variable {U L : Type}

def empty (l : L) : Owners U L := ⟨Handles.empty, fun _ => none, fun _ => l, Handles.Ledger.empty⟩

/-- What an object stands for. -/
def view (o : Owners U L) (u : U) : Option L := (o.held u).map o.label

theorem ledger_of_eq {p : Handles} {held held' : U → Option Nat} (h : p.Ledger held)
    (heq : held' = held) : p.Ledger held' :=
  heq ▸ h

theorem held_ne_next (o : Owners U L) (u : U) : o.held u ≠ some o.handles.next := by
  intro hu
  have hopen : o.handles.IsOpen o.handles.next := (o.ledger.isOpen_iff _).mpr ⟨u, hu⟩
  exact Nat.lt_irrefl _ hopen.1

variable [DecidableEq U]

def drop (o : Owners U L) (u : U) : Owners U L where
  handles := match o.held u with
    | none => o.handles
    | some h => o.handles.close h
  held := Function.update o.held u none
  label := o.label
  ledger := by
    cases hu : o.held u with
    | none => exact ledger_of_eq o.ledger (Function.update_eq_self_iff.mpr hu.symm)
    | some h => exact o.ledger.close hu

@[simp] theorem held_drop (o : Owners U L) (u : U) :
    (o.drop u).held = Function.update o.held u none := rfl

def create (o : Owners U L) (u : U) (l : L) : Owners U L where
  handles := (o.drop u).handles.give
  held := Function.update (o.drop u).held u (some (o.drop u).handles.next)
  label := Function.update o.label (o.drop u).handles.next l
  ledger := (o.drop u).ledger.give (by simp)

def dup (o : Owners U L) (u v : U) : Owners U L :=
  match o.view u with
  | none => o.drop v
  | some l => o.create v l

theorem ledger_transfer {p : Handles} {held : U → Option Nat} {u v : U} (h : p.Ledger held)
    (hv : held v = none) :
    p.Ledger (Function.update (Function.update held v (held u)) u none) := by
  by_cases huv : u = v
  · subst huv
    refine ledger_of_eq h ?_
    rw [Function.update_idem]
    exact Function.update_eq_self_iff.mpr hv.symm
  · refine ⟨h.good, h.nodup, h.closed_lt, ?_, ?_⟩
    · intro k
      rw [h.isOpen_iff]
      constructor
      · rintro ⟨w, hw⟩
        by_cases hwu : w = u
        · subst hwu
          exact ⟨v, by simp [Ne.symm huv, hw]⟩
        · have hwv : w ≠ v := fun hwv => by simp [hwv, hv] at hw
          exact ⟨w, by simp [hwu, hwv, hw]⟩
      · rintro ⟨w, hw⟩
        have hwu : w ≠ u := fun hwu => by simp [hwu] at hw
        rw [Function.update_of_ne hwu] at hw
        by_cases hwv : w = v
        · subst hwv
          exact ⟨u, by simpa using hw⟩
        · exact ⟨w, by simpa [hwv] using hw⟩
    · intro w x k hw hx
      have hwu : w ≠ u := fun hwu => by simp [hwu] at hw
      have hxu : x ≠ u := fun hxu => by simp [hxu] at hx
      rw [Function.update_of_ne hwu] at hw
      rw [Function.update_of_ne hxu] at hx
      by_cases hwv : w = v
      · by_cases hxv : x = v
        · rw [hwv, hxv]
        · subst hwv
          rw [Function.update_self] at hw
          rw [Function.update_of_ne hxv] at hx
          exact absurd (h.unique x u k hx hw) hxu
      · rw [Function.update_of_ne hwv] at hw
        by_cases hxv : x = v
        · subst hxv
          rw [Function.update_self] at hx
          exact absurd (h.unique w u k hw hx) hwu
        · rw [Function.update_of_ne hxv] at hx
          exact h.unique w x k hw hx

def move (o : Owners U L) (u v : U) : Owners U L :=
  if u = v then o
  else
    { handles := (o.drop v).handles
      held := Function.update (Function.update (o.drop v).held v ((o.drop v).held u)) u none
      label := o.label
      ledger := ledger_transfer (o.drop v).ledger (by simp) }

/-! ## What the objects stand for -/

@[simp] theorem view_drop (o : Owners U L) (u : U) :
    (o.drop u).view = Function.update o.view u none := by
  funext w
  by_cases hw : w = u <;> simp [view, drop, hw]

@[simp] theorem view_create (o : Owners U L) (u : U) (l : L) :
    (o.create u l).view = Function.update o.view u (some l) := by
  funext w
  by_cases hw : w = u
  · subst hw
    simp [view, create]
  · have hne := (o.drop u).held_ne_next w
    simp only [held_drop, ne_eq, hw, not_false_eq_true, Function.update_of_ne] at hne
    simp only [view, create, held_drop, ne_eq, hw, not_false_eq_true, Function.update_of_ne]
    cases hheld : o.held w with
    | none => rfl
    | some h =>
        have hh : h ≠ (o.drop u).handles.next := fun heq => hne (heq ▸ hheld)
        simp [hh]

@[simp] theorem view_dup (o : Owners U L) (u v : U) :
    (o.dup u v).view = Function.update o.view v (o.view u) := by
  unfold dup
  split
  · rename_i hu
    rw [view_drop, hu]
  · rename_i l hu
    rw [view_create, hu]

theorem view_move (o : Owners U L) {u v : U} (huv : u ≠ v) :
    (o.move u v).view = Function.update (Function.update o.view v (o.view u)) u none := by
  rw [move, if_neg huv]
  funext w
  by_cases hwu : w = u
  · simp [view, hwu]
  · by_cases hwv : w = v
    · subst hwv
      simp [view, hwu, huv]
    · simp [view, hwu, hwv]

end Owners

end AwHal.Lib
