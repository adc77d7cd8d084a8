import Mathlib.Data.List.Induction

/-!
# Runs whose steps meet a condition

A system takes one event after another.  What holds of every run need not hold of the code under
every run: often it does as long as each event meets a condition on the state it finds and on the
events before it.
-/

namespace AwHal.Lib

variable {S E α : Type}

/-! ## The last event that sets something -/

/-- What the last event that `f` picks has set, or `default` if there is none. -/
def lastOf (f : E → Option α) (default : α) (events : List E) : α :=
  (events.reverse.findSome? f).getD default

theorem lastOf_concat (f : E → Option α) (default : α) (events : List E) (e : E) :
    lastOf f default (events ++ [e]) = (f e).getD (lastOf f default events) := by
  unfold lastOf
  rw [List.reverse_concat, List.findSome?_cons]
  cases f e with
  | none => rfl
  | some a => rfl

theorem lastOf_eq_default {f : E → Option α} {events : List E} (h : ∀ e ∈ events, f e = none)
    (default : α) : lastOf f default events = default := by
  have hnone : events.reverse.findSome? f = none := by simpa using h
  rw [lastOf, hnone]
  rfl

/-! ## Guarded runs -/

variable (step : S → E → S) (ok : List E → S → E → Prop)

/-- Each event meets the condition, in the state that the events before it lead to. -/
def Guarded (s₀ : S) (events : List E) : Prop :=
  ∀ past e rest, events = past ++ e :: rest → ok past (past.foldl step s₀) e

variable {step ok} {s₀ : S} {events : List E}

theorem guarded_concat {e : E} :
    Guarded step ok s₀ (events ++ [e]) ↔
      Guarded step ok s₀ events ∧ ok events (events.foldl step s₀) e := by
  constructor
  · intro h
    constructor
    · intro past a rest heq
      exact h past a (rest ++ [e]) (by simp [heq])
    · exact h events e [] rfl
  · rintro ⟨h, he⟩ past a rest heq
    rcases List.eq_nil_or_concat rest with rfl | ⟨rest, b, rfl⟩
    · obtain ⟨rfl, hlast⟩ := List.append_inj' heq rfl
      rw [← (List.cons.inj hlast).1]
      exact he
    · rw [List.concat_eq_append, ← List.cons_append, ← List.append_assoc] at heq
      obtain ⟨heq, _⟩ := List.append_inj' heq rfl
      exact h past a rest heq

theorem guarded_iff_fin :
    Guarded step ok s₀ events ↔ ∀ i : Fin events.length,
      ok (events.take i) ((events.take i).foldl step s₀) (events.get i) := by
  constructor
  · intro h i
    refine h (events.take i) (events.get i) (events.drop (i + 1)) ?_
    rw [List.get_eq_getElem, List.getElem_cons_drop, List.take_append_drop]
  · rintro h past e rest rfl
    have hlt : past.length < (past ++ e :: rest).length := by simp
    simpa using h ⟨past.length, hlt⟩

instance [∀ past s e, Decidable (ok past s e)] : Decidable (Guarded step ok s₀ events) :=
  decidable_of_iff _ guarded_iff_fin.symm

theorem Guarded.of_prefix {past : List E} (h : Guarded step ok s₀ events)
    (hpast : past <+: events) : Guarded step ok s₀ past := by
  obtain ⟨rest, rfl⟩ := hpast
  intro past' e rest' heq
  exact h past' e (rest' ++ rest) (by simp [heq])

theorem Guarded.and {ok' : List E → S → E → Prop} (h : Guarded step ok s₀ events)
    (h' : Guarded step ok' s₀ events) :
    Guarded step (fun past s e => ok past s e ∧ ok' past s e) s₀ events :=
  fun past e rest heq => ⟨h past e rest heq, h' past e rest heq⟩

theorem guarded_of_forall_mem {P : E → Prop} (h : ∀ e ∈ events, P e) :
    Guarded step (fun _ _ e => P e) s₀ events := by
  intro past e rest heq
  exact h e (by simp [heq])

theorem Guarded.append {more : List E} (h : Guarded step ok s₀ events)
    (hmore : ∀ e ∈ more, ∀ past s, ok past s e) : Guarded step ok s₀ (events ++ more) := by
  induction more using List.reverseRecOn with
  | nil => simpa using h
  | append_singleton more e ih =>
      rw [← List.append_assoc, guarded_concat]
      constructor
      · exact ih fun e' he' => hmore e' (List.mem_append_left [e] he')
      · exact hmore e (by simp) _ _

/-- What holds at the start and is kept by the steps that meet the condition holds at the end of a
guarded run. -/
theorem Guarded.invariant (Inv : List E → S → Prop) (h : Guarded step ok s₀ events)
    (hstart : Inv [] s₀)
    (hstep : ∀ past s e, Inv past s → ok past s e → Inv (past ++ [e]) (step s e)) :
    Inv events (events.foldl step s₀) := by
  induction events using List.reverseRecOn with
  | nil => exact hstart
  | append_singleton past e ih =>
      obtain ⟨hpast, he⟩ := guarded_concat.mp h
      rw [List.foldl_append]
      exact hstep past _ e (ih hpast) he

/-- Where a step keeps an invariant exactly when it meets the condition, the guarded runs are those
that keep the invariant throughout. -/
theorem forall_prefix_iff_guarded (Inv : List E → S → Prop) (hstart : Inv [] s₀)
    (hstep : ∀ past s e, Inv past s → (Inv (past ++ [e]) (step s e) ↔ ok past s e)) :
    (∀ past, past <+: events → Inv past (past.foldl step s₀)) ↔ Guarded step ok s₀ events := by
  constructor
  · intro hall past e rest heq
    have hpast : past <+: events := ⟨e :: rest, heq.symm⟩
    have hnext : past ++ [e] <+: events := ⟨rest, by simp [heq]⟩
    have hinv := hall _ hnext
    rw [List.foldl_append] at hinv
    exact (hstep past _ e (hall past hpast)).mp hinv
  · intro hguarded past hpast
    exact (hguarded.of_prefix hpast).invariant Inv hstart fun past s e hinv hok =>
      (hstep past s e hinv).mpr hok

/-- As `forall_prefix_iff_guarded`, for runs whose events all meet another condition, `valid`, and for
a property that the invariant `Inv` implies: from a state with `Inv`, the steps that meet both
conditions keep `Inv` and the other valid ones break the property. -/
theorem forall_prefix_iff_guarded_of_valid {P : S → Prop} {valid : List E → S → E → Prop}
    (Inv : List E → S → Prop) (hstart : Inv [] s₀) (hP : ∀ past s, Inv past s → P s)
    (hkeep : ∀ past s e, Inv past s → valid past s e → ok past s e → Inv (past ++ [e]) (step s e))
    (hbreak : ∀ past s e, Inv past s → valid past s e → P (step s e) → ok past s e)
    (hvalid : Guarded step valid s₀ events) :
    (∀ past, past <+: events → P (past.foldl step s₀)) ↔ Guarded step ok s₀ events := by
  have hinv : ∀ {past : List E}, Guarded step valid s₀ past → Guarded step ok s₀ past →
      Inv past (past.foldl step s₀) := by
    intro past hvalid hok
    exact (hvalid.and hok).invariant Inv hstart fun past s e h hboth =>
      hkeep past s e h hboth.1 hboth.2
  constructor
  · intro hall
    induction events using List.reverseRecOn with
    | nil =>
        intro past e rest heq
        simp at heq
    | append_singleton events e ih =>
        obtain ⟨hbefore, he⟩ := guarded_concat.mp hvalid
        have hguarded := ih hbefore fun past hpast =>
          hall past (hpast.trans (List.prefix_append events [e]))
        refine guarded_concat.mpr ⟨hguarded, ?_⟩
        have hlast := hall (events ++ [e]) List.prefix_rfl
        rw [List.foldl_append] at hlast
        exact hbreak events _ e (hinv hbefore hguarded) he hlast
  · intro hguarded past hpast
    exact hP past _ (hinv (hvalid.of_prefix hpast) (hguarded.of_prefix hpast))

/-- As `forall_prefix_iff_guarded`, for a property that the invariant `Inv` implies: from a state with
`Inv`, the steps that meet the condition keep `Inv` and the others break the property. -/
theorem forall_prefix_iff_guarded_of_invariant {P : S → Prop} (Inv : List E → S → Prop)
    (hstart : Inv [] s₀) (hP : ∀ past s, Inv past s → P s)
    (hkeep : ∀ past s e, Inv past s → ok past s e → Inv (past ++ [e]) (step s e))
    (hbreak : ∀ past s e, Inv past s → P (step s e) → ok past s e) :
    (∀ past, past <+: events → P (past.foldl step s₀)) ↔ Guarded step ok s₀ events :=
  forall_prefix_iff_guarded_of_valid Inv hstart hP (fun past s e h _ => hkeep past s e h)
    (fun past s e h _ => hbreak past s e h) (guarded_of_forall_mem fun _ _ => trivial)

/-- Two conditions that agree on the states of an invariant, which the steps that meet the first one
keep, are met by the same runs. -/
theorem guarded_congr {ok' : List E → S → E → Prop} (Inv : List E → S → Prop) (hstart : Inv [] s₀)
    (hkeep : ∀ past s e, Inv past s → ok past s e → Inv (past ++ [e]) (step s e))
    (hiff : ∀ past s e, Inv past s → (ok past s e ↔ ok' past s e)) :
    Guarded step ok s₀ events ↔ Guarded step ok' s₀ events := by
  induction events using List.reverseRecOn with
  | nil => simp [Guarded]
  | append_singleton events e ih =>
      rw [guarded_concat, guarded_concat, ← ih]
      refine and_congr_right fun hguarded => ?_
      exact hiff events _ e (hguarded.invariant Inv hstart hkeep)

/-- As `guarded_congr`, for runs whose events all meet a third condition, `valid`. -/
theorem guarded_iff_of_valid {valid ok' : List E → S → E → Prop} (Inv : List E → S → Prop)
    (hstart : Inv [] s₀)
    (hkeep : ∀ past s e, Inv past s → valid past s e → ok' past s e →
      Inv (past ++ [e]) (step s e))
    (hiff : ∀ past s e, Inv past s → valid past s e → (ok past s e ↔ ok' past s e))
    (hvalid : Guarded step valid s₀ events) :
    Guarded step ok s₀ events ↔ Guarded step ok' s₀ events := by
  have hcongr : Guarded step (fun past s e => valid past s e ∧ ok past s e) s₀ events ↔
      Guarded step (fun past s e => valid past s e ∧ ok' past s e) s₀ events := by
    apply guarded_congr Inv hstart
    · intro past s e h hok
      exact hkeep past s e h hok.1 ((hiff past s e h hok.1).mp hok.2)
    · intro past s e h
      exact and_congr_right (hiff past s e h)
  constructor
  · intro h past e rest heq
    exact (hcongr.mp (hvalid.and h) past e rest heq).2
  · intro h past e rest heq
    exact (hcongr.mpr (hvalid.and h) past e rest heq).2

/-! ## Runs of a relation -/

section Relation

variable {rel : S → E → S → Prop} {ok : S → E → Prop}

/-- The states that the events lead to, where a step need not have one result. -/
inductive Leads (rel : S → E → S → Prop) (s₀ : S) : List E → S → Prop where
  | nil : Leads rel s₀ [] s₀
  | concat {past : List E} {s s' : S} {e : E} (h : Leads rel s₀ past s) (hstep : rel s e s') :
      Leads rel s₀ (past ++ [e]) s'

theorem leads_nil {s : S} : Leads rel s₀ [] s ↔ s = s₀ := by
  constructor
  · intro h
    generalize heq : ([] : List E) = events at h
    cases h with
    | nil => rfl
    | concat h hstep => simp at heq
  · rintro rfl
    exact .nil

theorem leads_concat {e : E} {s' : S} :
    Leads rel s₀ (events ++ [e]) s' ↔ ∃ s, Leads rel s₀ events s ∧ rel s e s' := by
  constructor
  · intro h
    generalize heq : events ++ [e] = all at h
    cases h with
    | nil => simp at heq
    | concat h hstep =>
        obtain ⟨rfl, hlast⟩ := List.append_inj' heq rfl
        obtain rfl := (List.cons.inj hlast).1
        exact ⟨_, h, hstep⟩
  · rintro ⟨s, h, hstep⟩
    exact h.concat hstep

/-- Each event meets the condition in the states that the events before it lead to. -/
def GuardedBy (rel : S → E → S → Prop) (ok : S → E → Prop) (s₀ : S) (events : List E) : Prop :=
  ∀ past e rest s, events = past ++ e :: rest → Leads rel s₀ past s → ok s e

theorem GuardedBy.of_prefix {past : List E} (h : GuardedBy rel ok s₀ events)
    (hpast : past <+: events) : GuardedBy rel ok s₀ past := by
  obtain ⟨rest, rfl⟩ := hpast
  intro past' e rest' s heq hs
  exact h past' e (rest' ++ rest) s (by simp [heq]) hs

theorem guardedBy_nil : GuardedBy rel ok s₀ [] := by
  intro past e rest s heq
  simp at heq

theorem guardedBy_concat {e : E} :
    GuardedBy rel ok s₀ (events ++ [e]) ↔
      GuardedBy rel ok s₀ events ∧ ∀ s, Leads rel s₀ events s → ok s e := by
  constructor
  · intro h
    exact ⟨h.of_prefix (List.prefix_append events [e]), fun s hs => h events e [] s rfl hs⟩
  · rintro ⟨h, he⟩ past a rest s heq hs
    rcases List.eq_nil_or_concat rest with rfl | ⟨rest, b, rfl⟩
    · obtain ⟨rfl, hlast⟩ := List.append_inj' heq rfl
      rw [← (List.cons.inj hlast).1]
      exact he s hs
    · rw [List.concat_eq_append, ← List.cons_append, ← List.append_assoc] at heq
      obtain ⟨heq, _⟩ := List.append_inj' heq rfl
      exact h past a rest s heq hs

/-- Where the condition makes a step possible and lets it keep an invariant, a guarded run goes to its
end and has the invariant there. -/
theorem GuardedBy.invariant (Inv : S → Prop) (h : GuardedBy rel ok s₀ events) (hstart : Inv s₀)
    (hstep : ∀ s e, Inv s → ok s e → (∃ s', rel s e s') ∧ ∀ s', rel s e s' → Inv s') :
    (∃ s, Leads rel s₀ events s) ∧ ∀ s, Leads rel s₀ events s → Inv s := by
  induction events using List.reverseRecOn with
  | nil =>
      constructor
      · exact ⟨s₀, .nil⟩
      · intro s hs
        rw [leads_nil.mp hs]
        exact hstart
  | append_singleton past e ih =>
      obtain ⟨hpast, hok⟩ := guardedBy_concat.mp h
      obtain ⟨⟨s, hs⟩, hinv⟩ := ih hpast
      constructor
      · obtain ⟨s', hs'⟩ := (hstep s e (hinv s hs) (hok s hs)).1
        exact ⟨s', hs.concat hs'⟩
      · intro s' hs'
        obtain ⟨s, hs, hrel⟩ := leads_concat.mp hs'
        exact (hstep s e (hinv s hs) (hok s hs)).2 s' hrel

end Relation

end AwHal.Lib
