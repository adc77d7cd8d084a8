import Mathlib.Data.List.Basic

/-!
# Tickets in the order of issue

Tickets are issued one after the other and served in that order.  Whatever the numbering is (it may
wrap around), the ticket that is served next is the one after the last that was served.
-/

namespace AwHal.Lib

variable {T : Type} {next : T → T}

/-- The tickets between the last one served and the last one issued. -/
def Consecutive (next : T → T) : T → List T → T → Prop
  | served, [], issued => served = issued
  | served, ticket :: waiting, issued =>
      ticket = next served ∧ Consecutive next ticket waiting issued

theorem Consecutive.issue {served issued : T} {waiting : List T}
    (h : Consecutive next served waiting issued) :
    Consecutive next served (waiting ++ [next issued]) (next issued) := by
  induction waiting generalizing served with
  | nil =>
      have heq : served = issued := h
      exact ⟨by rw [heq], rfl⟩
  | cons ticket waiting ih => exact ⟨h.1, ih h.2⟩

theorem Consecutive.serve {served issued ticket : T} {waiting : List T}
    (h : Consecutive next served (ticket :: waiting) issued) :
    next served = ticket ∧ Consecutive next (next served) waiting issued := by
  obtain ⟨rfl, hrest⟩ := h
  exact ⟨rfl, hrest⟩

end AwHal.Lib
