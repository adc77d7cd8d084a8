import Mathlib.Tactic.Common

/-!
# Programs that read a memory

A program reads cells one after another and goes on with what it has read.  On a memory it has a
result, and a list of the cells that it has looked at.
-/

namespace AwHal.Lib

inductive Reading (ι β α : Type) where
  | done (a : α)
  | read (i : ι) (next : β → Reading ι β α)

namespace Reading

variable {ι β α γ : Type}

def bind : Reading ι β α → (α → Reading ι β γ) → Reading ι β γ
  | done a, f => f a
  | read i next, f => read i fun b => (next b).bind f

instance : Monad (Reading ι β) where
  pure := done
  bind := bind

def cell (i : ι) : Reading ι β β := read i done

def run (mem : ι → β) : Reading ι β α → α
  | done a => a
  | read i next => run mem (next (mem i))

def indices (mem : ι → β) : Reading ι β α → List ι
  | done _ => []
  | read i next => i :: indices mem (next (mem i))

variable (mem : ι → β)

@[simp] theorem run_pure (a : α) : run mem (pure a : Reading ι β α) = a := rfl

@[simp] theorem indices_pure (a : α) : indices mem (pure a : Reading ι β α) = [] := rfl

@[simp] theorem run_cell (i : ι) : run mem (cell i) = mem i := rfl

@[simp] theorem indices_cell (i : ι) : indices mem (cell i) = [i] := rfl

@[simp] theorem run_bind (p : Reading ι β α) (f : α → Reading ι β γ) :
    run mem (p >>= f) = run mem (f (run mem p)) := by
  show run mem (p.bind f) = _
  induction p with
  | done a => rfl
  | read i next ih => exact ih (mem i)

@[simp] theorem indices_bind (p : Reading ι β α) (f : α → Reading ι β γ) :
    indices mem (p >>= f) = indices mem p ++ indices mem (f (run mem p)) := by
  show indices mem (p.bind f) = _
  induction p with
  | done a => rfl
  | read i next ih => exact congrArg (i :: ·) (ih (mem i))

@[simp] theorem run_ite (c : Prop) [Decidable c] (p q : Reading ι β α) :
    run mem (if c then p else q) = if c then run mem p else run mem q := by
  split <;> rfl

/-! ## What is read -/

/-- The cells that the program looks at have the property. -/
def OnlyReads (P : ι → Prop) (p : Reading ι β α) : Prop := ∀ i ∈ indices mem p, P i

variable (P : ι → Prop)

@[simp] theorem onlyReads_pure (a : α) : OnlyReads mem P (pure a : Reading ι β α) := by
  simp [OnlyReads]

@[simp] theorem onlyReads_cell (i : ι) : OnlyReads mem P (cell i) ↔ P i := by
  simp [OnlyReads]

@[simp] theorem onlyReads_bind (p : Reading ι β α) (f : α → Reading ι β γ) :
    OnlyReads mem P (p >>= f) ↔ OnlyReads mem P p ∧ OnlyReads mem P (f (run mem p)) := by
  simp only [OnlyReads, indices_bind, List.forall_mem_append]

@[simp] theorem onlyReads_ite (c : Prop) [Decidable c] (p q : Reading ι β α) :
    OnlyReads mem P (if c then p else q) ↔
      (c → OnlyReads mem P p) ∧ (¬ c → OnlyReads mem P q) := by
  split <;> simp [*]

/-- Memories that agree on what the program looks at give the same result. -/
theorem OnlyReads.run_eq {mem mem' : ι → β} {P : ι → Prop} {p : Reading ι β α}
    (h : OnlyReads mem P p) (hagree : ∀ i, P i → mem' i = mem i) : run mem' p = run mem p := by
  induction p with
  | done a => rfl
  | read i next ih =>
      have hi := hagree i (h i List.mem_cons_self)
      show run mem' (next (mem' i)) = run mem (next (mem i))
      rw [hi]
      exact ih (mem i) fun j hj => h j (List.mem_cons_of_mem i hj)

end Reading

end AwHal.Lib
