import Mathlib.Logic.Function.Basic
import Mathlib.Data.List.Nodup

/-!
# Handles

Handles are given out one after another and closed by their users.  A call with a handle that is not
open, or with none, is a misuse, and so is closing one twice.  The ledger says who holds which handle.
-/

namespace AwHal.Lib

structure Handles where
  /-- The handles given out are those below `next`. -/
  next : Nat
  /-- The handles closed, in order. -/
  closed : List Nat
  misused : Bool
deriving DecidableEq, Repr

namespace Handles

def empty : Handles := ⟨0, [], false⟩

def IsOpen (p : Handles) (h : Nat) : Prop := h < p.next ∧ h ∉ p.closed

instance (p : Handles) (h : Nat) : Decidable (p.IsOpen h) := inferInstanceAs (Decidable (_ ∧ _))

/-- Gives out the handle `p.next`. -/
def give (p : Handles) : Handles := { p with next := p.next + 1 }

def close (h : Nat) (p : Handles) : Handles :=
  { p with
    closed := p.closed ++ [h]
    misused := p.misused || !decide (p.IsOpen h) }

/-- A call with a handle, or with a null pointer. -/
def use (h : Option Nat) (p : Handles) : Handles :=
  { p with misused := p.misused || !h.any fun h => decide (p.IsOpen h) }

/-- Each open handle has one holder, and each handle held is open. -/
structure Ledger {U : Type} (p : Handles) (held : U → Option Nat) : Prop where
  good : p.misused = false
  nodup : p.closed.Nodup
  closed_lt : ∀ h ∈ p.closed, h < p.next
  isOpen_iff : ∀ h, p.IsOpen h ↔ ∃ u, held u = some h
  unique : ∀ u v h, held u = some h → held v = some h → u = v

variable {U : Type} {p : Handles} {held : U → Option Nat} {h : Nat} {u : U}

theorem Ledger.empty : Ledger Handles.empty fun _ : U => none where
  good := rfl
  nodup := List.nodup_nil
  closed_lt := by simp [Handles.empty]
  isOpen_iff := by simp [IsOpen, Handles.empty]
  unique := by simp

theorem misused_use (hp : p.misused = true) (h : Option Nat) : (p.use h).misused = true := by
  simp [use, hp]

theorem misused_close (hp : p.misused = true) (h : Nat) : (p.close h).misused = true := by
  simp [close, hp]

theorem use_eq_self {h : Nat} (hopen : p.IsOpen h) : p.use (some h) = p := by
  simp [use, hopen]

/-- What is held after a handle went to `u`. -/
theorem update_eq_some_iff [DecidableEq U] {k : Nat} {v : U} :
    Function.update held u (some k) v = some h ↔ (v = u ∧ k = h) ∨ (v ≠ u ∧ held v = some h) := by
  by_cases hvu : v = u
  · subst hvu
    simp
  · simp [hvu]

theorem isOpen_give : p.give.IsOpen h ↔ h = p.next ∧ h ∉ p.closed ∨ p.IsOpen h := by
  show (h < p.next + 1 ∧ h ∉ p.closed) ↔ h = p.next ∧ h ∉ p.closed ∨ h < p.next ∧ h ∉ p.closed
  rw [← or_and_right, Nat.lt_succ_iff_lt_or_eq, or_comm]

theorem Ledger.give [DecidableEq U] (hl : Ledger p held) (hu : held u = none) :
    Ledger p.give (Function.update held u (some p.next)) := by
  have hnext : p.next ∉ p.closed := fun hmem => Nat.lt_irrefl _ (hl.closed_lt _ hmem)
  have hold : ∀ v, held v ≠ some p.next := by
    intro v hv
    have hopen : p.IsOpen p.next := (hl.isOpen_iff p.next).mpr ⟨v, hv⟩
    exact Nat.lt_irrefl _ hopen.1
  refine ⟨hl.good, hl.nodup, ?_, ?_, ?_⟩
  · intro h hmem
    exact Nat.lt_succ_of_lt (hl.closed_lt h hmem)
  · intro h
    simp only [isOpen_give, hl.isOpen_iff, update_eq_some_iff]
    constructor
    · intro hopen
      rcases hopen with ⟨rfl, -⟩ | ⟨v, hv⟩
      · exact ⟨u, .inl ⟨rfl, rfl⟩⟩
      · have hvu : v ≠ u := fun hvu => by simp [hvu, hu] at hv
        exact ⟨v, .inr ⟨hvu, hv⟩⟩
    · intro hheld
      obtain ⟨v, ⟨-, rfl⟩ | ⟨-, hv⟩⟩ := hheld
      · exact .inl ⟨rfl, hnext⟩
      · exact .inr ⟨v, hv⟩
  · intro v w h hv hw
    rcases update_eq_some_iff.mp hv with ⟨hvu, hk⟩ | ⟨hvu, hv⟩
    · rcases update_eq_some_iff.mp hw with ⟨hwu, -⟩ | ⟨-, hw⟩
      · exact hvu.trans hwu.symm
      · exact absurd (hk ▸ hw) (hold w)
    · rcases update_eq_some_iff.mp hw with ⟨-, hk⟩ | ⟨-, hw⟩
      · exact absurd (hk ▸ hv) (hold v)
      · exact hl.unique v w h hv hw

theorem Ledger.close [DecidableEq U] (hl : Ledger p held) (hu : held u = some h) :
    Ledger (p.close h) (Function.update held u none) := by
  have hopen : p.IsOpen h := (hl.isOpen_iff h).mpr ⟨u, hu⟩
  refine ⟨by simp [Handles.close, hl.good, hopen], ?_, ?_, ?_, ?_⟩
  · exact List.nodup_append_comm.mp (List.nodup_cons.mpr ⟨hopen.2, hl.nodup⟩)
  · intro h' hmem
    rcases List.mem_append.mp hmem with hmem | hmem
    · exact hl.closed_lt h' hmem
    · rw [List.mem_singleton.mp hmem]
      exact hopen.1
  · intro h'
    have hiff : (p.close h).IsOpen h' ↔ p.IsOpen h' ∧ h' ≠ h := by
      simp [IsOpen, Handles.close, and_assoc]
    rw [hiff, hl.isOpen_iff]
    constructor
    · rintro ⟨⟨v, hv⟩, hne⟩
      have hvu : v ≠ u := fun hvu => hne (Option.some.inj (by rw [← hv, hvu, hu]))
      exact ⟨v, by simpa [hvu] using hv⟩
    · rintro ⟨v, hv⟩
      have hvu : v ≠ u := fun hvu => by simp [hvu] at hv
      rw [Function.update_of_ne hvu] at hv
      refine ⟨⟨v, hv⟩, ?_⟩
      rintro rfl
      exact hvu (hl.unique v u h' hv hu)
  · intro v w h' hv hw
    have hvu : v ≠ u := fun hvu => by simp [hvu] at hv
    have hwu : w ≠ u := fun hwu => by simp [hwu] at hw
    rw [Function.update_of_ne hvu] at hv
    rw [Function.update_of_ne hwu] at hw
    exact hl.unique v w h' hv hw

theorem Ledger.give_close [DecidableEq U] (hl : Ledger p held) (u : U) (hu : held u = none) :
    Ledger (p.give.close p.next) held := by
  have hclosed := (hl.give hu).close (u := u) (h := p.next) (by simp)
  rw [Function.update_idem] at hclosed
  rwa [Function.update_eq_self_iff.mpr hu.symm] at hclosed

end Handles

end AwHal.Lib
