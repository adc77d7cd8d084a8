import Mathlib.Logic.Relation
import Mathlib.Order.WellFounded

/-!
# Bounded `while (true)` loops

A loop body either starts another pass or leaves the loop, and it may fault.  `loop` runs a body for
at most `fuel` passes; the two rules below are the usual ones: an invariant of the loop head is an
invariant of the result, and a measure that every further pass decreases makes some fuel enough.
-/

namespace AwHal.Lib

/-- What one pass of a loop body decides. -/
inductive Next (σ ρ : Type*) where
  | again (s : σ)
  | done (r : ρ)

variable {σ ρ ε : Type*}

/-- At most `fuel` passes of `body`; `none` when the fuel runs out before the loop is left. -/
def loop (body : σ → Except ε (Next σ ρ)) : Nat → σ → Except ε (Option ρ)
  | 0, _ => .ok none
  | fuel + 1, s =>
      match body s with
      | .error e => .error e
      | .ok (.done r) => .ok (some r)
      | .ok (.again s') => loop body fuel s'

/-- The loop heads that the passes started at `s` go through. -/
def Heads (body : σ → Except ε (Next σ ρ)) : σ → σ → Prop :=
  Relation.ReflTransGen fun s s' => body s = .ok (.again s')

theorem loop_succ (body : σ → Except ε (Next σ ρ)) (fuel : Nat) (s : σ) :
    loop body (fuel + 1) s =
      match body s with
      | .error e => .error e
      | .ok (.done r) => .ok (some r)
      | .ok (.again s') => loop body fuel s' := rfl

/-- An invariant of the loop heads that one further pass keeps holds at every head. -/
theorem Heads.invariant {body : σ → Except ε (Next σ ρ)} {I : σ → Prop}
    (hstep : ∀ s s', I s → body s = .ok (.again s') → I s') {s s' : σ}
    (hs : I s) (h : Heads body s s') : I s' := by
  induction h with
  | refl => exact hs
  | tail _ hlast ih => exact hstep _ _ ih hlast

/-- The result of the loop comes from a last pass, run at a head the loop goes through. -/
theorem loop_done {body : σ → Except ε (Next σ ρ)} {fuel : Nat} {s : σ} {r : ρ}
    (h : loop body fuel s = .ok (some r)) :
    ∃ s', Heads body s s' ∧ body s' = .ok (.done r) := by
  induction fuel generalizing s with
  | zero => simp [loop] at h
  | succ fuel ih =>
      rw [loop_succ] at h
      split at h
      · cases h
      · rename_i r' hbody
        cases h
        exact ⟨s, .refl, hbody⟩
      · rename_i s' hbody
        obtain ⟨last, hheads, hlast⟩ := ih h
        exact ⟨last, .head hbody hheads, hlast⟩

/-- A last pass at a head that the loop goes through gives the result for some fuel. -/
theorem Heads.loop_eq {body : σ → Except ε (Next σ ρ)} {s s' : σ} {r : ρ} (h : Heads body s s')
    (hdone : body s' = .ok (.done r)) : ∃ fuel, loop body fuel s = .ok (some r) := by
  induction h using Relation.ReflTransGen.head_induction_on with
  | refl => exact ⟨1, by rw [loop_succ, hdone]⟩
  | head hstep _ ih =>
      obtain ⟨fuel, hfuel⟩ := ih
      exact ⟨fuel + 1, by rw [loop_succ, hstep]; exact hfuel⟩

/-- The loop is left at one head only. -/
theorem Heads.done_unique {body : σ → Except ε (Next σ ρ)} {s a b : σ} {r r' : ρ}
    (ha : Heads body s a) (hdone : body a = .ok (.done r)) (hb : Heads body s b)
    (hdone' : body b = .ok (.done r')) : a = b := by
  -- nothing follows a head where the loop is left
  have hlast : ∀ {c d : σ} {q : ρ}, body c = .ok (.done q) → Heads body c d → c = d := by
    intro c d q hq h
    rcases h.cases_head with rfl | ⟨e, hstep, -⟩
    · rfl
    · rw [hq] at hstep
      cases hstep
  have hunique : Relator.RightUnique fun s s' => body s = .ok (.again s') := by
    intro c d e hd he
    rw [hd] at he
    cases he
    rfl
  rcases Relation.ReflTransGen.total_of_right_unique hunique ha hb with h | h
  · exact hlast hdone h
  · exact (hlast hdone' h).symm

/-- A measure that every further pass decreases bounds the passes the loop needs. -/
theorem loop_terminates {body : σ → Except ε (Next σ ρ)} {I : σ → Prop} (μ : σ → Nat)
    (hstep : ∀ s, I s → (∃ r, body s = .ok (.done r)) ∨
      ∃ s', body s = .ok (.again s') ∧ I s' ∧ μ s' < μ s)
    {s : σ} (hs : I s) {fuel : Nat} (hfuel : μ s < fuel) :
    ∃ r, loop body fuel s = .ok (some r) := by
  induction fuel generalizing s with
  | zero => omega
  | succ fuel ih =>
      rw [loop_succ]
      obtain ⟨r, hbody⟩ | ⟨s', hbody, hs', hμ⟩ := hstep s hs
      · exact ⟨r, by rw [hbody]⟩
      · rw [hbody]
        exact ih hs' (by omega)

/-- More fuel does not change a result. -/
theorem loop_add {body : σ → Except ε (Next σ ρ)} {fuel : Nat} {s : σ}
    (h : loop body fuel s ≠ .ok none) (more : Nat) :
    loop body (fuel + more) s = loop body fuel s := by
  induction fuel generalizing s with
  | zero => exact absurd rfl h
  | succ fuel ih =>
      rw [Nat.add_right_comm, loop_succ, loop_succ]
      rw [loop_succ] at h
      split
      · rfl
      · rfl
      · rename_i s' hbody
        rw [hbody] at h
        exact ih h

/-- A loop that some fuel is enough for gives the same result with every other fuel, or runs out of
it. -/
theorem loop_eq_none_or {body : σ → Except ε (Next σ ρ)} {fuel : Nat} {s : σ} {r : ρ}
    (h : loop body fuel s = .ok (some r)) (fuel' : Nat) :
    loop body fuel' s = .ok none ∨ loop body fuel' s = .ok (some r) := by
  by_cases hnone : loop body fuel' s = .ok none
  · exact Or.inl hnone
  · have hsome : loop body fuel s ≠ .ok none := by simp [h]
    rw [← loop_add hnone fuel, Nat.add_comm, loop_add hsome]
    exact Or.inr h

/-! ## Results -/

/-- The loop started at `s` is left with `r`. -/
def Ends (body : σ → Except ε (Next σ ρ)) (s : σ) (r : ρ) : Prop :=
  ∃ fuel, loop body fuel s = .ok (some r)

theorem ends_of_again {body : σ → Except ε (Next σ ρ)} {s s' : σ} (h : body s = .ok (.again s'))
    (r : ρ) : Ends body s r ↔ Ends body s' r := by
  constructor
  · rintro ⟨fuel, hfuel⟩
    cases fuel with
    | zero => cases hfuel
    | succ fuel =>
        rw [loop_succ, h] at hfuel
        exact ⟨fuel, hfuel⟩
  · rintro ⟨fuel, hfuel⟩
    exact ⟨fuel + 1, by rw [loop_succ, h]; exact hfuel⟩

theorem Heads.ends_iff {body : σ → Except ε (Next σ ρ)} {s s' : σ} (h : Heads body s s') (r : ρ) :
    Ends body s r ↔ Ends body s' r := by
  induction h using Relation.ReflTransGen.head_induction_on with
  | refl => exact Iff.rfl
  | head hstep _ ih => exact (ends_of_again hstep r).trans ih

theorem ends_of_done {body : σ → Except ε (Next σ ρ)} {s : σ} {r : ρ} (h : body s = .ok (.done r))
    (r' : ρ) : Ends body s r' ↔ r' = r := by
  constructor
  · rintro ⟨fuel, hfuel⟩
    cases fuel with
    | zero => cases hfuel
    | succ fuel =>
        rw [loop_succ, h] at hfuel
        cases hfuel
        rfl
  · rintro rfl
    exact ⟨1, by rw [loop_succ, h]⟩

theorem Ends.unique {body : σ → Except ε (Next σ ρ)} {s : σ} {r r' : ρ} (h : Ends body s r)
    (h' : Ends body s r') : r = r' := by
  obtain ⟨fuel, hfuel⟩ := h
  obtain ⟨fuel', hfuel'⟩ := h'
  rcases loop_eq_none_or hfuel fuel' with hnone | hsome
  · rw [hnone] at hfuel'
    cases hfuel'
  · rw [hsome] at hfuel'
    cases hfuel'
    rfl

/-- A loop that counts its passes is left, with its invariant, when a measure never grows and decreases
in the passes that meet `P`, which come again and again. -/
theorem exists_done_of_again {body : σ → Except ε (Next σ ρ)} {I : σ → Prop} {P : Nat → Prop}
    (pass μ : σ → Nat) (hagain : ∀ k, ∃ later, k ≤ later ∧ P later)
    (hstep : ∀ s, I s → (∃ r, body s = .ok (.done r)) ∨
      ∃ s', body s = .ok (.again s') ∧ I s' ∧ pass s' = pass s + 1 ∧ μ s' ≤ μ s ∧
        (P (pass s) → μ s' < μ s))
    {s : σ} (hs : I s) : ∃ last r, Heads body s last ∧ I last ∧ body last = .ok (.done r) := by
  induction hμ : μ s using Nat.strong_induction_on generalizing s with
  | _ m ihm =>
      -- `wait` passes lie before the next one that meets `P`
      obtain ⟨later, hle, hlater⟩ := hagain (pass s)
      generalize hwait : later - pass s = wait
      induction wait generalizing s with
      | zero =>
          have hnow : pass s = later := by omega
          obtain ⟨r, hdone⟩ | ⟨s', hbody, hs', -, -, hlt⟩ := hstep s hs
          · exact ⟨s, r, .refl, hs, hdone⟩
          · have hdecreases := hlt (hnow ▸ hlater)
            obtain ⟨last, r, hheads, hlast⟩ := ihm (μ s') (hμ ▸ hdecreases) hs' rfl
            exact ⟨last, r, .head hbody hheads, hlast⟩
      | succ wait ihwait =>
          obtain ⟨r, hdone⟩ | ⟨s', hbody, hs', hpass, hmu, -⟩ := hstep s hs
          · exact ⟨s, r, .refl, hs, hdone⟩
          · have hleft : ∃ last r, Heads body s' last ∧ I last ∧ body last = .ok (.done r) := by
              rcases Nat.lt_or_eq_of_le hmu with hlt | heq
              · exact ihm (μ s') (hμ ▸ hlt) hs' rfl
              · exact ihwait hs' (heq.trans hμ) (by omega) (by omega)
            obtain ⟨last, r, hheads, hlast⟩ := hleft
            exact ⟨last, r, .head hbody hheads, hlast⟩

/-- A loop that keeps an invariant and is not left from it has never fuel enough. -/
theorem loop_forever {body : σ → Except ε (Next σ ρ)} {I : σ → Prop}
    (hstep : ∀ s, I s → ∃ s', body s = .ok (.again s') ∧ I s') (fuel : Nat) {s : σ} (hs : I s) :
    loop body fuel s = .ok none := by
  induction fuel generalizing s with
  | zero => rfl
  | succ fuel ih =>
      obtain ⟨s', hbody, hs'⟩ := hstep s hs
      rw [loop_succ, hbody]
      exact ih hs'

end AwHal.Lib
