import Mathlib.Logic.Function.Iterate
import Mathlib.Data.List.Basic

/-!
# Watchers

A watcher keeps a copy of a world that changes under it.  It reads one thing after another, and the
world may change between any two of its actions.  Each change leaves a notice, and for each notice the
watcher goes through all its actions again.  Once it has caught up with the notices, its last round
ran in the world as it is now.  There are no notices until the watcher has got through its first
actions, which is why nothing of the kind holds before it has taken one.
-/

namespace AwHal.Lib

variable {W C : Type}

def runActions (actions : List (W → C → C)) (w : W) (c : C) : C :=
  actions.foldl (fun c action => action w c) c

theorem runActions_append (l l' : List (W → C → C)) (w : W) (c : C) :
    runActions (l ++ l') w c = runActions l' w (runActions l w c) := List.foldl_append

theorem runActions_concat (l : List (W → C → C)) (action : W → C → C) (w : W) (c : C) :
    runActions (l ++ [action]) w c = action w (runActions l w c) := runActions_append l [action] w c

structure Watcher (W C : Type) where
  first : List (W → C → C)
  round : List (W → C → C)

namespace Watcher

structure State (W C : Type) where
  world : W
  copy : C
  todo : List (W → C → C)
  /-- Changes leave notices. -/
  listening : Bool := false
  notices : Nat := 0
  /-- A notice has been taken. -/
  taken : Bool := false

inductive Event (W : Type) where
  | change (w : W)
  | work

variable (p : Watcher W C)

def change (s : State W C) (w : W) : State W C :=
  { s with world := w, notices := if s.listening then s.notices + 1 else s.notices }

def work (s : State W C) : State W C :=
  match s.todo, s.listening, s.notices with
  | action :: rest, _, _ => { s with copy := action s.world s.copy, todo := rest }
  | [], false, _ => { s with listening := true }
  | [], true, 0 => s
  | [], true, n + 1 => { s with notices := n, todo := p.round, taken := true }

def step (s : State W C) : Event W → State W C
  | .change w => change s w
  | .work => p.work s

def start (w : W) (c : C) : State W C where
  world := w
  copy := c
  todo := p.first

def run (w : W) (c : C) (events : List (Event W)) : State W C := events.foldl p.step (p.start w c)

def State.Settled (s : State W C) : Prop :=
  s.todo = [] ∧ s.listening = true ∧ s.notices = 0

theorem world_iterate (s : State W C) (n : Nat) : (p.work^[n] s).world = s.world := by
  induction n generalizing s with
  | zero => rfl
  | succ n ih =>
      rw [Function.iterate_succ_apply, ih]
      unfold work
      split <;> rfl

/-! ## Getting through -/

def left (s : State W C) : Nat :=
  s.todo.length + (if s.listening then 0 else 1) + s.notices * (p.round.length + 1)

theorem settled_of_left {s : State W C} (h : p.left s = 0) : s.Settled := by
  unfold left at h
  refine ⟨List.length_eq_zero_iff.mp (by omega), ?_, ?_⟩
  · cases hlisten : s.listening with
    | true => rfl
    | false =>
        rw [hlisten, if_neg Bool.false_ne_true] at h
        omega
  · have hmul : s.notices * (p.round.length + 1) = 0 := by omega
    rcases Nat.mul_eq_zero.mp hmul with hzero | hzero
    · exact hzero
    · omega

theorem left_work {s : State W C} (h : p.left s ≠ 0) : p.left (p.work s) + 1 = p.left s := by
  obtain ⟨world, copy, todo, listening, notices, taken⟩ := s
  cases todo with
  | cons action rest =>
      show rest.length + (if listening then 0 else 1) + notices * (p.round.length + 1) + 1 =
        rest.length + 1 + (if listening then 0 else 1) + notices * (p.round.length + 1)
      omega
  | nil =>
      cases listening with
      | false =>
          simp only [work, left, List.length_nil, if_true, Bool.false_eq_true, if_false]
          omega
      | true =>
          cases notices with
          | zero => exact absurd (by simp [left]) h
          | succ n =>
              simp only [work, left, List.length_nil, if_true, Nat.succ_mul]
              omega

/-- If the world stays as it is, the watcher catches up. -/
theorem settled_iterate (s : State W C) : (p.work^[p.left s] s).Settled := by
  induction hn : p.left s generalizing s with
  | zero => exact p.settled_of_left hn
  | succ n ih =>
      have hless := p.left_work (s := s) (by omega)
      rw [Function.iterate_succ_apply]
      exact ih (p.work s) (by omega)

/-! ## What it has copied -/

/-- The copy is one that the actions can make, and no change is missing from the part of the round
that is done. -/
structure Inv (I : C → Prop) (s : State W C) : Prop where
  copy : I s.copy
  todo : ∀ action ∈ s.todo, action ∈ p.first ++ p.round
  listening : s.taken = true → s.listening = true
  current : s.taken = true → s.notices ≠ 0 ∨ ∃ done c, I c ∧ p.round = done ++ s.todo ∧
    s.copy = runActions done s.world c

variable {p} {I : C → Prop}

theorem Inv.change {s : State W C} (h : p.Inv I s) (w : W) : p.Inv I (change s w) := by
  refine ⟨h.copy, h.todo, h.listening, fun htaken => .inl ?_⟩
  show (if s.listening then s.notices + 1 else s.notices) ≠ 0
  rw [if_pos (h.listening htaken)]
  exact Nat.succ_ne_zero _

theorem Inv.work {s : State W C} (h : p.Inv I s)
    (hkeep : ∀ action ∈ p.first ++ p.round, ∀ w c, I c → I (action w c)) : p.Inv I (p.work s) := by
  obtain ⟨world, copy, todo, listening, notices, taken⟩ := s
  cases todo with
  | cons action rest =>
      have hmem := h.todo action List.mem_cons_self
      refine ⟨hkeep action hmem world copy h.copy,
        fun a ha => h.todo a (List.mem_cons_of_mem _ ha), h.listening, fun htaken => ?_⟩
      rcases h.current htaken with hnotices | ⟨done, c, hc, hround, hcopy⟩
      · exact .inl hnotices
      · refine .inr ⟨done ++ [action], c, hc, ?_, ?_⟩
        · rw [hround, List.append_assoc]
          rfl
        · rw [runActions_concat]
          exact congrArg (action world) hcopy
  | nil =>
      cases listening with
      | false => exact ⟨h.copy, h.todo, fun _ => rfl, h.current⟩
      | true =>
          cases notices with
          | zero => exact h
          | succ n =>
              refine ⟨h.copy, fun a ha => List.mem_append_right _ ha, fun _ => rfl, fun _ => ?_⟩
              exact .inr ⟨[], copy, h.copy, rfl, rfl⟩

theorem inv_run {w : W} {c : C} (hc : I c)
    (hkeep : ∀ action ∈ p.first ++ p.round, ∀ w c, I c → I (action w c))
    (events : List (Event W)) : p.Inv I (p.run w c events) := by
  refine List.foldlRecOn events p.step ?_ ?_
  · exact ⟨hc, fun a ha => List.mem_append_left _ ha, nofun, nofun⟩
  · intro s h e _
    cases e with
    | change w => exact h.change w
    | work => exact h.work hkeep

theorem Inv.iterate_work {s : State W C} (h : p.Inv I s)
    (hkeep : ∀ action ∈ p.first ++ p.round, ∀ w c, I c → I (action w c)) (n : Nat) :
    p.Inv I (p.work^[n] s) := by
  induction n with
  | zero => exact h
  | succ n ih =>
      rw [Function.iterate_succ_apply']
      exact ih.work hkeep

/-- A watcher that has caught up ran its last round in the world as it is. -/
theorem Inv.copy_eq {s : State W C} (h : p.Inv I s) (hsettled : s.Settled)
    (htaken : s.taken = true) : ∃ c, I c ∧ s.copy = runActions p.round s.world c := by
  obtain ⟨htodo, -, hnotices⟩ := hsettled
  rcases h.current htaken with hne | ⟨done, c, hc, hround, hcopy⟩
  · exact absurd hnotices hne
  · rw [htodo, List.append_nil] at hround
    exact ⟨c, hc, by rw [hround, hcopy]⟩

/-- A notice is there, or has been taken, from the first change on that the watcher listens to. -/
theorem taken_iterate {s : State W C} {n : Nat} (hsettled : (p.work^[n] s).Settled)
    (h : s.taken = true ∨ s.notices ≠ 0) : (p.work^[n] s).taken = true := by
  induction n generalizing s with
  | zero =>
      rcases h with htaken | hnotices
      · exact htaken
      · exact absurd hsettled.2.2 hnotices
  | succ n ih =>
      rw [Function.iterate_succ_apply] at hsettled ⊢
      refine ih hsettled ?_
      obtain ⟨world, copy, todo, listening, notices, taken⟩ := s
      cases todo with
      | cons action rest => exact h
      | nil =>
          cases listening with
          | false => exact h
          | true =>
              cases notices with
              | zero => exact h
              | succ n => exact .inl rfl

end Watcher

end AwHal.Lib
