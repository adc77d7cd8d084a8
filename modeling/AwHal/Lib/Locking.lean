import Mathlib.Data.Set.Insert
import Mathlib.Data.List.Nodup
import Mathlib.Data.Fintype.Defs
import AwHal.Lib.GuardedRun

/-!
# Threads and locks

Threads make calls, each of which runs a program that takes and gives back locks.  A thread at a lock
that another one holds waits.  A deadlock is a set of threads each of which waits for a lock that another
one of the set holds.

The programs here nest their locks around one of them, the gate: a thread that asks for a lock while
it holds others either asks for the gate, or holds it.  Then two threads are enough for a deadlock, and it
takes two calls that nest a lock the opposite way round.
-/

namespace AwHal.Lib

variable {T L C : Type}

inductive LockAction (L : Type) where
  | lock (x : L)
  | unlock (x : L)
deriving DecidableEq, Repr

structure Locking (T L C : Type) where
  owner : L → Option T
  /-- What is left of the program of each thread. -/
  todo : T → List (LockAction L)
  /-- The call that each thread has made last. -/
  call : T → Option C

inductive LockEvent (T C : Type) where
  | call (t : T) (c : C)
  | advance (t : T)

namespace Locking

def initial : Locking T L C where
  owner := fun _ => none
  todo := fun _ => []
  call := fun _ => none

def Waits (s : Locking T L C) (t : T) (x : L) : Prop := ∃ rest, s.todo t = .lock x :: rest

def Deadlock (s : Locking T L C) : Prop :=
  ∃ S : Set T, S.Nonempty ∧ ∀ t ∈ S, ∃ x, s.Waits t x ∧ ∃ u ∈ S, u ≠ t ∧ s.owner x = some u

/-- A thread that is done holds nothing, and nobody gives back what it does not hold. -/
def Balanced (s : Locking T L C) : Prop :=
  ∀ t, (s.todo t = [] → ∀ x, s.owner x ≠ some t) ∧
    ∀ x rest, s.todo t = .unlock x :: rest → s.owner x = some t

def UnderWay (s : Locking T L C) (t : T) (c : C) : Prop := s.call t = some c ∧ s.todo t ≠ []

section

variable [DecidableEq T] [DecidableEq L]

/-- The next action of `t`; a lock that is held makes it wait. -/
def advance (s : Locking T L C) (t : T) : Locking T L C :=
  match s.todo t with
  | [] => s
  | .lock x :: rest =>
      if s.owner x = none then
        { s with
          owner := Function.update s.owner x (some t)
          todo := Function.update s.todo t rest }
      else s
  | .unlock x :: rest =>
      { s with
        owner := Function.update s.owner x none
        todo := Function.update s.todo t rest }

def start (program : C → List (LockAction L)) (s : Locking T L C) (t : T) (c : C) : Locking T L C :=
  if s.todo t = [] then
    { s with
      todo := Function.update s.todo t (program c)
      call := Function.update s.call t (some c) }
  else s

def step (program : C → List (LockAction L)) (s : Locking T L C) :
    LockEvent T C → Locking T L C
  | .call t c => s.start program t c
  | .advance t => s.advance t

end

/-! ## Nesting around a gate -/

/-- `c` asks for a lock within the gate that `c'` holds when it asks for the gate. -/
def Opposed (inner outer : C → List L) (c c' : C) : Prop := ∃ x ∈ inner c, x ∈ outer c'

instance [DecidableEq L] (inner outer : C → List L) (c c' : C) :
    Decidable (Opposed inner outer c c') :=
  inferInstanceAs (Decidable (∃ x ∈ inner c, x ∈ outer c'))

/-- A call is made only while no call that is opposed to it is under way. -/
def mayCall (inner outer : C → List L) (s : Locking T L C) : LockEvent T C → Prop
  | .call t c => s.todo t = [] → ∀ u, u ≠ t → s.todo u ≠ [] → ∀ c' ∈ s.call u,
      ¬ Opposed inner outer c c' ∧ ¬ Opposed inner outer c' c
  | .advance _ => True

instance [DecidableEq T] [DecidableEq L] [Fintype T] (inner outer : C → List L)
    (s : Locking T L C) (e : LockEvent T C) : Decidable (mayCall inner outer s e) :=
  match e with
  | .call t c => inferInstanceAs (Decidable (s.todo t = [] → ∀ u, u ≠ t → s.todo u ≠ [] →
      ∀ c' ∈ s.call u, ¬ Opposed inner outer c c' ∧ ¬ Opposed inner outer c' c))
  | .advance _ => inferInstanceAs (Decidable True)

section

variable [DecidableEq L]

/-- The rest of a program, for a thread that holds `held`: it gives back what it took, and a lock that
it asks for while it holds others is the gate `g`, asked for with `outer` locks in hand, or it is one of
the `inner` ones and `g` is in hand. -/
def Nested (g : L) (inner outer : List L) : List L → List (LockAction L) → Prop
  | held, [] => held = []
  | held, .lock x :: rest =>
      x ∉ held ∧ (held = [] ∨ (x = g ∧ held ⊆ outer) ∨ (g ∈ held ∧ x ∈ inner)) ∧
        Nested g inner outer (x :: held) rest
  | held, .unlock x :: rest => x ∈ held ∧ Nested g inner outer (held.erase x) rest

theorem Nested.mono {g : L} {inner outer inner' outer' : List L} {held : List L}
    {rest : List (LockAction L)} (h : Nested g inner outer held rest)
    (hinner : inner ⊆ inner') (houter : outer ⊆ outer') :
    Nested g inner' outer' held rest := by
  induction rest generalizing held with
  | nil => exact h
  | cons action rest ih =>
      cases action with
      | unlock x => exact ⟨h.1, ih h.2⟩
      | lock x =>
          obtain ⟨hnew, hgate, hrest⟩ := h
          refine ⟨hnew, ?_, ih hrest⟩
          rcases hgate with hnil | ⟨hx, hheld⟩ | ⟨hg, hx⟩
          · exact .inl hnil
          · exact .inr (.inl ⟨hx, fun y hy => houter (hheld hy)⟩)
          · exact .inr (.inr ⟨hg, hinner hx⟩)

variable {g : L} {inner outer : C → List L} {s : Locking T L C} {t u : T} {x y : L}
  {held : List L} {rest : List (LockAction L)}

/-- The locks of `t` are `held`, and the rest of its program goes with them. -/
structure Holds (g : L) (inner outer : C → List L) (s : Locking T L C) (t : T) (held : List L) :
    Prop where
  nodup : held.Nodup
  owner_iff : ∀ x, s.owner x = some t ↔ x ∈ held
  nested : (s.todo t = [] ∧ held = []) ∨
    ∃ c, s.call t = some c ∧ Nested g (inner c) (outer c) held (s.todo t)

def Inv (g : L) (inner outer : C → List L) (s : Locking T L C) : Prop :=
  ∀ t, ∃ held, s.Holds g inner outer t held

theorem inv_initial : Inv g inner outer (initial : Locking T L C) := by
  intro t
  exact ⟨[], List.nodup_nil, by simp [initial], .inl ⟨rfl, rfl⟩⟩

theorem Holds.of_cons {action : LockAction L} (h : s.Holds g inner outer t held)
    (htodo : s.todo t = action :: rest) :
    ∃ c, s.UnderWay t c ∧ Nested g (inner c) (outer c) held (action :: rest) := by
  rcases h.nested with ⟨hnil, -⟩ | ⟨c, hcall, hnested⟩
  · rw [hnil] at htodo
    cases htodo
  · rw [htodo] at hnested
    exact ⟨c, ⟨hcall, by simp [htodo]⟩, hnested⟩

theorem Inv.balanced (h : Inv g inner outer s) : s.Balanced := by
  intro t
  obtain ⟨held, hheld⟩ := h t
  constructor
  · intro htodo x hx
    have hnil : held = [] := by
      rcases hheld.nested with ⟨-, hnil⟩ | ⟨c, -, hnested⟩
      · exact hnil
      · rw [htodo] at hnested
        exact hnested
    rw [hheld.owner_iff, hnil] at hx
    cases hx
  · intro x rest htodo
    obtain ⟨c, -, hnested⟩ := hheld.of_cons htodo
    exact (hheld.owner_iff x).mpr hnested.1

/-- What another thread does to the owners leaves the locks of `u` alone. -/
theorem Holds.of_frame {s' : Locking T L C} (h : s.Holds g inner outer u held)
    (howner : ∀ x, s'.owner x = some u ↔ s.owner x = some u) (htodo : s'.todo u = s.todo u)
    (hcall : s'.call u = s.call u) : s'.Holds g inner outer u held := by
  refine ⟨h.nodup, fun x => (howner x).trans (h.owner_iff x), ?_⟩
  rw [htodo, hcall]
  exact h.nested

/-! ## Two opposed calls -/

/-- A thread that holds a lock and waits for another waits for the gate or holds it. -/
theorem Inv.gate (h : Inv g inner outer s) (hx : s.owner x = some t) (hy : s.Waits t y) :
    y = g ∨ s.owner g = some t := by
  obtain ⟨held, hheld⟩ := h t
  obtain ⟨rest, htodo⟩ := hy
  obtain ⟨c, -, hnested⟩ := hheld.of_cons htodo
  rcases hnested.2.1 with hnil | ⟨hgate, -⟩ | ⟨hgate, -⟩
  · rw [hheld.owner_iff, hnil] at hx
    cases hx
  · exact .inl hgate
  · exact .inr ((hheld.owner_iff g).mpr hgate)

/-- Somebody in a deadlock holds the gate, and whom it waits for waits for the gate. -/
theorem Inv.crossing_of_deadlock (h : Inv g inner outer s) (hdead : s.Deadlock) :
    ∃ t u, t ≠ u ∧ s.owner g = some t ∧ s.Waits u g ∧ ∃ y, s.Waits t y ∧ s.owner y = some u := by
  obtain ⟨S, ⟨t₀, ht₀⟩, hall⟩ := hdead
  -- a member of the set that holds the gate
  have hholder : ∃ t ∈ S, s.owner g = some t := by
    obtain ⟨x, -, t, ht, -, hx⟩ := hall t₀ ht₀
    obtain ⟨y, hy, u, hu, -, howner⟩ := hall t ht
    rcases h.gate hx hy with rfl | hgate
    · exact ⟨u, hu, howner⟩
    · exact ⟨t, ht, hgate⟩
  obtain ⟨t, ht, hgate⟩ := hholder
  obtain ⟨y, hy, u, hu, hne, howner⟩ := hall t ht
  obtain ⟨z, hz, -⟩ := hall u hu
  rcases h.gate howner hz with rfl | hgate'
  · exact ⟨t, u, hne.symm, hgate, hz, y, hy, howner⟩
  · exact absurd (Option.some.inj (hgate'.symm.trans hgate)) hne

theorem Inv.opposed_of_deadlock (h : Inv g inner outer s) (hdead : s.Deadlock) :
    ∃ t u c c', t ≠ u ∧ s.UnderWay t c ∧ s.UnderWay u c' ∧ Opposed inner outer c c' := by
  obtain ⟨t, u, hne, hgate, ⟨rest, hu⟩, y, ⟨rest', ht⟩, howner⟩ := h.crossing_of_deadlock hdead
  obtain ⟨held, hheld⟩ := h t
  obtain ⟨held', hheld'⟩ := h u
  obtain ⟨c, hc, hnested⟩ := hheld.of_cons ht
  obtain ⟨c', hc', hnested'⟩ := hheld'.of_cons hu
  have hg : g ∈ held := (hheld.owner_iff g).mp hgate
  have hy : y ∈ held' := (hheld'.owner_iff y).mp howner
  refine ⟨t, u, c, c', hne, hc, hc', y, ?_, ?_⟩
  · rcases hnested.2.1 with hnil | ⟨rfl, -⟩ | ⟨-, hinner⟩
    · simp [hnil] at hg
    · exact absurd hg hnested.1
    · exact hinner
  · rcases hnested'.2.1 with hnil | ⟨-, houter⟩ | ⟨hgate', -⟩
    · simp [hnil] at hy
    · exact houter hy
    · exact absurd hgate' hnested'.1

/-- No two calls that are under way are opposed. -/
def Peaceful (inner outer : C → List L) (s : Locking T L C) : Prop :=
  ∀ t u c c', t ≠ u → s.UnderWay t c → s.UnderWay u c' → ¬ Opposed inner outer c c'

theorem Peaceful.not_deadlock (h : Peaceful inner outer s) (hinv : Inv g inner outer s) :
    ¬ s.Deadlock := by
  intro hdead
  obtain ⟨t, u, c, c', hne, hc, hc', hopposed⟩ := hinv.opposed_of_deadlock hdead
  exact h t u c c' hne hc hc' hopposed

end

/-! ## Steps -/

section

variable [DecidableEq T] [DecidableEq L] {g : L} {inner outer : C → List L}
  {s : Locking T L C} {t u : T} {x y : L} {held : List L} {rest : List (LockAction L)}
  {program : C → List (LockAction L)} {c : C}

theorem Inv.start (h : Inv g inner outer s) (t : T)
    (hnested : Nested g (inner c) (outer c) [] (program c)) :
    Inv g inner outer (s.start program t c) := by
  unfold Locking.start
  split
  · rename_i htodo
    intro u
    by_cases hut : u = t
    · subst hut
      refine ⟨[], List.nodup_nil, ?_, .inr ⟨c, by simp, ?_⟩⟩
      · intro x
        simp [(h.balanced u).1 htodo x]
      · simpa using hnested
    · obtain ⟨held, hheld⟩ := h u
      exact ⟨held, hheld.of_frame (fun _ => Iff.rfl) (by simp [hut]) (by simp [hut])⟩
  · exact h

theorem advance_lock (htodo : s.todo t = .lock x :: rest) (hfree : s.owner x = none) :
    s.advance t =
      { s with
        owner := Function.update s.owner x (some t)
        todo := Function.update s.todo t rest } := by
  simp [advance, htodo, hfree]

theorem advance_unlock (htodo : s.todo t = .unlock x :: rest) :
    s.advance t =
      { s with
        owner := Function.update s.owner x none
        todo := Function.update s.todo t rest } := by
  simp [advance, htodo]

theorem advance_blocked (htodo : s.todo t = .lock x :: rest) (hheld : s.owner x ≠ none) :
    s.advance t = s := by
  simp [advance, htodo, hheld]

theorem Inv.advance_lock (h : Inv g inner outer s) (htodo : s.todo t = .lock x :: rest)
    (hfree : s.owner x = none) : Inv g inner outer (s.advance t) := by
  rw [Locking.advance_lock htodo hfree]
  intro u
  obtain ⟨held, hheld⟩ := h u
  by_cases hut : u = t
  · subst hut
    obtain ⟨c, hc, hnested⟩ := hheld.of_cons htodo
    refine ⟨x :: held, List.nodup_cons.mpr ⟨hnested.1, hheld.nodup⟩, ?_,
      .inr ⟨c, hc.1, by simpa using hnested.2.2⟩⟩
    intro y
    by_cases hyx : y = x
    · simp [hyx]
    · simp [hyx, hheld.owner_iff]
  · refine ⟨held, hheld.of_frame ?_ (by simp [hut]) rfl⟩
    intro y
    by_cases hyx : y = x
    · subst hyx
      simp [hfree, Ne.symm hut]
    · simp [hyx]

theorem Inv.advance_unlock (h : Inv g inner outer s) (htodo : s.todo t = .unlock x :: rest) :
    Inv g inner outer (s.advance t) := by
  have hmine : s.owner x = some t := (h.balanced t).2 x rest htodo
  rw [Locking.advance_unlock htodo]
  intro u
  obtain ⟨held, hheld⟩ := h u
  by_cases hut : u = t
  · subst hut
    obtain ⟨c, hc, hnested⟩ := hheld.of_cons htodo
    refine ⟨held.erase x, hheld.nodup.erase x, ?_, .inr ⟨c, hc.1, by simpa using hnested.2⟩⟩
    intro y
    rw [hheld.nodup.mem_erase_iff]
    by_cases hyx : y = x
    · simp [hyx]
    · simp [hyx, hheld.owner_iff]
  · refine ⟨held, hheld.of_frame ?_ (by simp [hut]) rfl⟩
    intro y
    by_cases hyx : y = x
    · subst hyx
      simp [hmine, Ne.symm hut]
    · simp [hyx]

theorem Inv.advance (h : Inv g inner outer s) (t : T) : Inv g inner outer (s.advance t) := by
  cases htodo : s.todo t with
  | nil =>
      rw [show s.advance t = s by simp [Locking.advance, htodo]]
      exact h
  | cons action rest =>
      cases action with
      | unlock x => exact h.advance_unlock htodo
      | lock x =>
          by_cases hfree : s.owner x = none
          · exact h.advance_lock htodo hfree
          · rw [advance_blocked htodo hfree]
            exact h

/-- A step brings no call under way. -/
theorem UnderWay.of_advance (h : (s.advance t).UnderWay u c) : s.UnderWay u c := by
  obtain ⟨hcall, htodo⟩ := h
  unfold Locking.advance at hcall htodo
  split at hcall
  · rename_i heq
    simp only [heq] at htodo
    exact ⟨hcall, htodo⟩
  · rename_i x rest heq
    have hbusy : s.todo t ≠ [] := by simp [heq]
    by_cases hut : u = t
    · subst hut
      refine ⟨?_, hbusy⟩
      split at hcall <;> exact hcall
    · split at hcall
      · rename_i hfree
        simp only [heq, hfree, if_true, Function.update_of_ne hut] at htodo
        exact ⟨hcall, htodo⟩
      · rename_i hheld
        simp only [heq, hheld, if_false] at htodo
        exact ⟨hcall, htodo⟩
  · rename_i x rest heq
    by_cases hut : u = t
    · subst hut
      exact ⟨hcall, by simp [heq]⟩
    · simp only [heq, Function.update_of_ne hut] at htodo
      exact ⟨hcall, htodo⟩

theorem Peaceful.advance (h : Peaceful inner outer s) (t : T) :
    Peaceful inner outer (s.advance t) := by
  intro v w c c' hne hc hc'
  exact h v w c c' hne hc.of_advance hc'.of_advance

omit [DecidableEq L] in
theorem Peaceful.start (h : Peaceful inner outer s) (hok : mayCall inner outer s (.call t c)) :
    Peaceful inner outer (s.start program t c) := by
  unfold Locking.start
  split
  · rename_i htodo
    have hothers := hok htodo
    -- a call of another thread was under way before
    have hother : ∀ {v c'}, v ≠ t → Locking.UnderWay
        { s with
          todo := Function.update s.todo t (program c)
          call := Function.update s.call t (some c) } v c' → s.UnderWay v c' := by
      intro v c' hv hc'
      simpa [UnderWay, Function.update_of_ne hv] using hc'
    intro v w c₁ c₂ hne h₁ h₂
    by_cases hv : v = t
    · subst hv
      have hc₁ : c = c₁ := by simpa using h₁.1
      rw [← hc₁]
      obtain ⟨hcall, hbusy⟩ := hother hne.symm h₂
      exact (hothers w hne.symm hbusy c₂ hcall).1
    · by_cases hw : w = t
      · subst hw
        have hc₂ : c = c₂ := by simpa using h₂.1
        rw [← hc₂]
        obtain ⟨hcall, hbusy⟩ := hother hv h₁
        exact (hothers v hv hbusy c₁ hcall).2
      · exact h v w c₁ c₂ hne (hother hv h₁) (hother hw h₂)
  · exact h

theorem inv_run (hnested : ∀ c, Nested g (inner c) (outer c) [] (program c))
    (events : List (LockEvent T C)) :
    Inv g inner outer (events.foldl (step program) initial) := by
  induction events using List.reverseRecOn with
  | nil => exact inv_initial
  | append_singleton past e ih =>
      rw [List.foldl_append]
      cases e with
      | call t c => exact ih.start t (hnested c)
      | advance t => exact ih.advance t

/-- Programs nested around a gate come to no deadlock as long as no two opposed calls are under way at a
time. -/
theorem not_deadlock_of_guarded (hnested : ∀ c, Nested g (inner c) (outer c) [] (program c))
    {events : List (LockEvent T C)}
    (h : Guarded (step program) (fun _ s e => mayCall inner outer s e) initial events) :
    ¬ (events.foldl (step program) initial).Deadlock := by
  have hpeaceful : Peaceful inner outer (events.foldl (step program) initial) := by
    apply h.invariant (fun _ s => Peaceful inner outer s)
    · intro t u c c' _ hc
      exact absurd rfl hc.2
    · intro _ s e hs hok
      cases e with
      | call t c => exact hs.start hok
      | advance t => exact hs.advance t
  exact hpeaceful.not_deadlock (inv_run hnested events)

end

end Locking

end AwHal.Lib
