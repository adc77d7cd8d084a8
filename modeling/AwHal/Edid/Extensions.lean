import Mathlib.Data.List.Basic
import Mathlib.Tactic.Common

/-!
# Extension blocks that name each other

What the HF-EEODB data blocks make of the order in which extension blocks are walked, apart from all
bytes: `E b` has the counts of the HF-EEODBs of block `b`, in their order.  A count that is out of
range is stored and nothing more; any other count starts a walk through the blocks from 2 on, which
goes on as long as the stored count, by then perhaps that of another HF-EEODB, is not passed.
-/

namespace AwHal.Edid

variable (E : Nat → List Nat)

/-! ## Following counts -/

def Valid (k : Nat) : Prop := 2 ≤ k ∧ k < 8

instance (k : Nat) : Decidable (Valid k) := inferInstanceAs (Decidable (_ ∧ _))

/-- The HF-EEODBs of a block, with the count that is stored before it.  The result is the count that
is stored in the end, and the blocks that were walked. -/
def entries (follow : Nat → Option (Nat × List Nat)) : List Nat → Nat → Option (Nat × List Nat)
  | [], c => some (c, [])
  | k :: ks, _ =>
      match follow k with
      | none => none
      | some (c, walked) =>
          match entries follow ks c with
          | none => none
          | some (c', walked') => some (c', walked ++ walked')

/-- The walk from block `b` on, with at most `n` blocks. -/
def blocks (follow : Nat → Option (Nat × List Nat)) : Nat → Nat → Nat → Option (Nat × List Nat)
  | 0, _, c => some (c, [])
  | n + 1, b, c =>
      if b ≤ c then
        match entries follow (E b) c with
        | none => none
        | some (c', walked) =>
            match blocks follow n (b + 1) c' with
            | none => none
            | some (c'', walked') => some (c'', b :: (walked ++ walked'))
      else some (c, [])

/-- What an HF-EEODB leads to, as far as walks nest up to a depth. -/
def follow : Nat → Nat → Option (Nat × List Nat)
  | 0, _ => none
  | depth + 1, k => if Valid k then blocks E (follow depth) 254 2 k else some (k, [])

/-- The blocks that a walk gets to when the walks that it starts on its way end. -/
def reached : Nat → Nat → Nat → List Nat
  | 0, _, _ => []
  | n + 1, b, c => if b ≤ c then b :: reached n (b + 1) ((E b).getLast?.getD c) else []

def Quiet (k : Nat) : Prop := ∀ b, 2 ≤ b → b ≤ k → E b = []

/-- The HF-EEODBs of the block lead only to blocks that have none. -/
def Tame (b : Nat) : Prop := ∀ k ∈ E b, Valid k → Quiet E k

variable {E}

theorem Quiet.lt {k b : Nat} (h : Quiet E k) (hb : 2 ≤ b) (hne : E b ≠ []) : k < b := by
  by_contra hle
  exact hne (h b hb (by omega))

theorem tame_of_nil {b : Nat} (h : E b = []) : Tame E b := by
  rw [Tame, h]
  exact fun _ hk => nomatch hk

theorem entries_cons_eq_some {f : Nat → Option (Nat × List Nat)} {k c : Nat} {ks : List Nat}
    {r : Nat × List Nat} :
    entries f (k :: ks) c = some r ↔
      ∃ r₁ r₂, f k = some r₁ ∧ entries f ks r₁.1 = some r₂ ∧ r = (r₂.1, r₁.2 ++ r₂.2) := by
  rw [entries]
  cases f k with
  | none => simp
  | some r₁ =>
      dsimp only
      cases hrest : entries f ks r₁.1 with
      | none => simp [hrest]
      | some r₂ =>
          obtain ⟨c₂, walked⟩ := r₂
          simp [hrest, eq_comm]

theorem blocks_succ_eq_some {f : Nat → Option (Nat × List Nat)} {n b c : Nat} (hbc : b ≤ c)
    {r : Nat × List Nat} :
    blocks E f (n + 1) b c = some r ↔
      ∃ r₁ r₂, entries f (E b) c = some r₁ ∧ blocks E f n (b + 1) r₁.1 = some r₂ ∧
        r = (r₂.1, b :: (r₁.2 ++ r₂.2)) := by
  rw [blocks, if_pos hbc]
  cases entries f (E b) c with
  | none => simp
  | some r₁ =>
      dsimp only
      cases hrest : blocks E f n (b + 1) r₁.1 with
      | none => simp [hrest]
      | some r₂ =>
          obtain ⟨c₂, walked⟩ := r₂
          simp [hrest, eq_comm]

/-! ### The blocks of a walk -/

theorem mem_reached {n b c v : Nat} (h : v ∈ reached E n b c) : b ≤ v := by
  induction n generalizing b c with
  | zero => cases h
  | succ n ih =>
      rw [reached] at h
      split at h
      · rcases List.mem_cons.mp h with rfl | h
        · exact Nat.le_refl v
        · have := ih h
          omega
      · cases h

theorem mem_reached_of_le {n b c v w : Nat} (h : w ∈ reached E n b c) (hb : b ≤ v) (hle : v ≤ w) :
    v ∈ reached E n b c := by
  induction n generalizing b c with
  | zero => cases h
  | succ n ih =>
      rw [reached] at h ⊢
      split at h
      · rename_i hbc
        rw [if_pos hbc]
        by_cases hv : v = b
        · exact List.mem_cons.mpr (.inl hv)
        · rcases List.mem_cons.mp h with rfl | h
          · omega
          · exact List.mem_cons_of_mem b (ih h (by omega))
      · cases h

theorem mem_reached_quiet {n b c v : Nat} (hquiet : Quiet E c) (hb : 2 ≤ b)
    (h : v ∈ reached E n b c) : v ≤ c := by
  induction n generalizing b with
  | zero => cases h
  | succ n ih =>
      rw [reached] at h
      split at h
      · rename_i hbc
        rw [hquiet b hb hbc] at h
        rcases List.mem_cons.mp h with rfl | h
        · exact hbc
        · exact ih (by omega) h
      · cases h

/-- Behind the first block with an HF-EEODB all walks that get there are the same. -/
theorem mem_reached_of_not_quiet {n b k k' v : Nat} (hb : 2 ≤ b)
    (hbefore : ∀ b', 2 ≤ b' → b' < b → E b' = []) (hk : ¬ Quiet E k) (hv : E v ≠ [])
    (h : v ∈ reached E n b k') : v ∈ reached E n b k := by
  induction n generalizing b with
  | zero => cases h
  | succ n ih =>
      have hbk : b ≤ k := by
        by_contra hlt
        apply hk
        intro b' h2 hle
        exact hbefore b' h2 (by omega)
      rw [reached] at h ⊢
      rw [if_pos hbk]
      split at h
      · cases hE : E b with
        | nil =>
            rw [hE] at h
            rcases List.mem_cons.mp h with rfl | h
            · exact absurd hE hv
            · apply List.mem_cons_of_mem
              apply ih (by omega) _ h
              intro b' h2 hlt
              by_cases heq : b' = b
              · rw [heq, hE]
              · exact hbefore b' h2 (by omega)
        | cons c ks =>
            rw [hE] at h
            have hlast : ((c :: ks).getLast?.getD k) = ((c :: ks).getLast?.getD k') := by
              rw [List.getLast?_cons, Option.getD_some, Option.getD_some]
            rw [hlast]
            exact h
      · cases h

/-! ### Walks that end -/

theorem blocks_quiet {c : Nat} (hquiet : Quiet E c) (f : Nat → Option (Nat × List Nat)) {n b : Nat}
    (hb : 2 ≤ b) : blocks E f n b c = some (c, reached E n b c) := by
  induction n generalizing b with
  | zero => rfl
  | succ n ih =>
      rw [blocks, reached]
      split
      · rename_i hbc
        rw [hquiet b hb hbc]
        simp only [entries, List.getLast?_nil, Option.getD_none, List.nil_append,
          ih (Nat.le_succ_of_le hb)]
      · rfl

theorem entries_tame {ks : List Nat} (htame : ∀ k ∈ ks, Valid k → Quiet E k) (depth c : Nat) :
    ∃ walked, entries (follow E (depth + 1)) ks c = some (ks.getLast?.getD c, walked) ∧
      ∀ v ∈ walked, ∃ k ∈ ks, Valid k ∧ v ∈ reached E 254 2 k := by
  induction ks generalizing c with
  | nil => exact ⟨[], rfl, by simp⟩
  | cons k ks ih =>
      obtain ⟨walked, hrun, hwalked⟩ := ih (fun k' hk' => htame k' (List.mem_cons_of_mem k hk')) k
      have hlast : (k :: ks).getLast?.getD c = ks.getLast?.getD k := by
        rw [List.getLast?_cons, Option.getD_some]
      have hrest : ∀ v ∈ walked, ∃ k' ∈ k :: ks, Valid k' ∧ v ∈ reached E 254 2 k' := by
        intro v hv
        obtain ⟨k', hk', hvalid, hmem⟩ := hwalked v hv
        exact ⟨k', List.mem_cons_of_mem k hk', hvalid, hmem⟩
      by_cases hvalid : Valid k
      · have hfollow : follow E (depth + 1) k = some (k, reached E 254 2 k) := by
          rw [follow, if_pos hvalid]
          exact blocks_quiet (htame k List.mem_cons_self hvalid) _ (Nat.le_refl 2)
        refine ⟨reached E 254 2 k ++ walked, ?_, ?_⟩
        · rw [entries, hfollow, hlast]
          simp only [hrun]
        · intro v hv
          rcases List.mem_append.mp hv with hv | hv
          · exact ⟨k, List.mem_cons_self, hvalid, hv⟩
          · exact hrest v hv
      · have hfollow : follow E (depth + 1) k = some (k, []) := by rw [follow, if_neg hvalid]
        refine ⟨walked, ?_, hrest⟩
        rw [entries, hfollow, hlast]
        simp only [hrun, List.nil_append]

/-- A walk through tame blocks ends.  It walks the blocks that it reaches, and on the way only such as
it has walked before. -/
theorem blocks_tame {n b c : Nat} (hb : 2 ≤ b) (htame : ∀ v ∈ reached E n b c, Tame E v)
    (depth : Nat) :
    ∃ c' walked, blocks E (follow E (depth + 1)) n b c = some (c', walked) ∧
      (∀ v ∈ reached E n b c, v ∈ walked) ∧
      ∀ v ∈ walked, v ∈ reached E n b c ∨ ∃ w ∈ reached E n b c, 2 ≤ v ∧ v < w := by
  induction n generalizing b c with
  | zero => exact ⟨c, [], rfl, by simp [reached], by simp⟩
  | succ n ih =>
      rw [reached] at htame ⊢
      rw [blocks]
      by_cases hbc : b ≤ c
      · simp only [if_pos hbc] at htame ⊢
        have hself : Tame E b := htame b List.mem_cons_self
        obtain ⟨walked, hentries, hwalked⟩ := entries_tame hself depth c
        obtain ⟨c', walked', hblocks, hsub, hsup⟩ := ih (Nat.le_succ_of_le hb)
          fun v hv => htame v (List.mem_cons_of_mem b hv)
        refine ⟨c', b :: (walked ++ walked'), ?_, ?_, ?_⟩
        · simp only [hentries, hblocks]
        · intro v hv
          rcases List.mem_cons.mp hv with rfl | hv
          · exact List.mem_cons_self
          · exact List.mem_cons_of_mem b (List.mem_append_right walked (hsub v hv))
        · intro v hv
          rcases List.mem_cons.mp hv with rfl | hv
          · exact .inl List.mem_cons_self
          · rcases List.mem_append.mp hv with hv | hv
            · -- an HF-EEODB of a tame block leads to blocks before it
              obtain ⟨k, hk, hvalid, hmem⟩ := hwalked v hv
              have hquiet := hself k hk hvalid
              have hle := mem_reached_quiet hquiet (Nat.le_refl 2) hmem
              have hlt := hquiet.lt hb (List.ne_nil_of_mem hk)
              exact .inr ⟨b, List.mem_cons_self, mem_reached hmem, by omega⟩
            · rcases hsup v hv with hv | ⟨w, hw, hlt⟩
              · exact .inl (List.mem_cons_of_mem b hv)
              · exact .inr ⟨w, List.mem_cons_of_mem b hw, hlt⟩
      · simp only [if_neg hbc]
        exact ⟨c, [], rfl, by simp, by simp⟩

theorem follow_tame {k : Nat} (hvalid : Valid k) (htame : ∀ v ∈ reached E 254 2 k, Tame E v)
    (depth : Nat) :
    ∃ c walked, follow E (depth + 2) k = some (c, walked) ∧
      ∀ v, v ∈ walked ↔ v ∈ reached E 254 2 k := by
  obtain ⟨c, walked, hblocks, hsub, hsup⟩ := blocks_tame (Nat.le_refl 2) htame depth
  refine ⟨c, walked, by rw [follow, if_pos hvalid, hblocks], fun v => ⟨?_, hsub v⟩⟩
  intro hv
  rcases hsup v hv with hv | ⟨w, hw, h2, hlt⟩
  · exact hv
  · exact mem_reached_of_le hw h2 (Nat.le_of_lt hlt)

theorem entries_of_tame {ks : List Nat}
    (htame : ∀ k ∈ ks, Valid k → ∀ v ∈ reached E 254 2 k, Tame E v) (depth c : Nat) :
    ∃ c' walked, entries (follow E (depth + 2)) ks c = some (c', walked) ∧
      ∀ v, v ∈ walked ↔ ∃ k ∈ ks, Valid k ∧ v ∈ reached E 254 2 k := by
  induction ks generalizing c with
  | nil => exact ⟨c, [], rfl, by simp⟩
  | cons k ks ih =>
      have hfollow : ∃ c' walked, follow E (depth + 2) k = some (c', walked) ∧
          ∀ v, v ∈ walked ↔ Valid k ∧ v ∈ reached E 254 2 k := by
        by_cases hvalid : Valid k
        · obtain ⟨c', walked, hrun, hwalked⟩ :=
            follow_tame hvalid (htame k List.mem_cons_self hvalid) depth
          exact ⟨c', walked, hrun, fun v => by rw [hwalked v, and_iff_right hvalid]⟩
        · exact ⟨k, [], by rw [follow, if_neg hvalid], fun v => by simp [hvalid]⟩
      obtain ⟨c', walked, hrun, hwalked⟩ := hfollow
      obtain ⟨c'', walked', hrest, hwalked'⟩ :=
        ih (fun k' hk' => htame k' (List.mem_cons_of_mem k hk')) c'
      refine ⟨c'', walked ++ walked', by simp only [entries, hrun, hrest], ?_⟩
      intro v
      rw [List.mem_append, hwalked v, hwalked' v]
      simp

/-! ### Walks that do not end -/

theorem entries_eq_none {f : Nat → Option (Nat × List Nat)} {ks : List Nat} {k : Nat}
    (hk : k ∈ ks) (hf : f k = none) (c : Nat) : entries f ks c = none := by
  induction ks generalizing c with
  | nil => cases hk
  | cons k' ks ih =>
      rw [entries]
      rcases List.mem_cons.mp hk with rfl | hk
      · rw [hf]
      · split
        · rfl
        · rw [ih hk]

theorem blocks_eq_none {depth : Nat}
    (hdepth : ∀ k, Valid k → ¬ Quiet E k → follow E depth k = none) {n b c v : Nat} (hb : 2 ≤ b)
    (hv : v ∈ reached E n b c) (hwild : ¬ Tame E v) : blocks E (follow E depth) n b c = none := by
  induction n generalizing b c with
  | zero => cases hv
  | succ n ih =>
      rw [reached] at hv
      rw [blocks]
      split at hv
      · rename_i hbc
        rw [if_pos hbc]
        by_cases htame : Tame E b
        · have hne : v ≠ b := fun heq => hwild (heq ▸ htame)
          have hrest := (List.mem_cons.mp hv).resolve_left hne
          cases depth with
          | zero =>
              -- without depth the walk ends at the first HF-EEODB of a block
              cases hE : E b with
              | nil =>
                  rw [hE, List.getLast?_nil, Option.getD_none] at hrest
                  simp only [entries]
                  rw [ih (Nat.le_succ_of_le hb) hrest]
              | cons k ks => rfl
          | succ depth =>
              obtain ⟨walked, hentries, -⟩ := entries_tame htame depth c
              rw [hentries]
              simp only
              rw [ih (Nat.le_succ_of_le hb) hrest]
        · obtain ⟨k, hk, hvalid, hloud⟩ : ∃ k ∈ E b, Valid k ∧ ¬ Quiet E k := by
            simpa [Tame] using htame
          rw [entries_eq_none hk (hdepth k hvalid hloud) c]
      · cases hv

/-- From a walk that gets to a block that is not tame, the parser does not return. -/
theorem follow_eq_none {k₀ v : Nat} (hv : v ∈ reached E 254 2 k₀) (hwild : ¬ Tame E v)
    (depth : Nat) : ∀ k, Valid k → ¬ Quiet E k → follow E depth k = none := by
  have hne : E v ≠ [] := fun hnil => hwild (tame_of_nil hnil)
  induction depth with
  | zero => exact fun _ _ _ => rfl
  | succ depth ih =>
      intro k hvalid hloud
      have hmem : v ∈ reached E 254 2 k :=
        mem_reached_of_not_quiet (Nat.le_refl 2) (fun b' h2 hlt => by omega) hloud hne hv
      rw [follow, if_pos hvalid]
      exact blocks_eq_none ih (Nat.le_refl 2) hmem hwild

theorem not_quiet_of_mem_reached {k v : Nat} (hv : v ∈ reached E 254 2 k) (hwild : ¬ Tame E v) :
    ¬ Quiet E k := by
  intro hquiet
  have hnil := hquiet v (mem_reached hv) (mem_reached_quiet hquiet (Nat.le_refl 2) hv)
  exact hwild (tame_of_nil hnil)

/-- The walks end exactly when they get to tame blocks only. -/
theorem exists_entries_iff (ks : List Nat) (c : Nat) :
    (∃ depth, (entries (follow E depth) ks c).isSome) ↔
      ∀ k ∈ ks, Valid k → ∀ v ∈ reached E 254 2 k, Tame E v := by
  constructor
  · rintro ⟨depth, hsome⟩ k hk hvalid v hv
    by_contra hwild
    have hloud := not_quiet_of_mem_reached hv hwild
    rw [entries_eq_none hk (follow_eq_none hv hwild depth k hvalid hloud) c] at hsome
    cases hsome
  · intro htame
    obtain ⟨c', walked, hrun, -⟩ := entries_of_tame htame 0 c
    exact ⟨2, by rw [hrun]; rfl⟩

/-! ### More depth -/

theorem entries_mono {f g : Nat → Option (Nat × List Nat)}
    (hfg : ∀ k r, f k = some r → g k = some r) {ks : List Nat} {c : Nat} {r : Nat × List Nat}
    (h : entries f ks c = some r) : entries g ks c = some r := by
  induction ks generalizing c r with
  | nil => exact h
  | cons k ks ih =>
      obtain ⟨r₁, r₂, hk, hrest, rfl⟩ := entries_cons_eq_some.mp h
      exact entries_cons_eq_some.mpr ⟨r₁, r₂, hfg k r₁ hk, ih hrest, rfl⟩

theorem blocks_mono {f g : Nat → Option (Nat × List Nat)}
    (hfg : ∀ k r, f k = some r → g k = some r) {n b c : Nat} {r : Nat × List Nat}
    (h : blocks E f n b c = some r) : blocks E g n b c = some r := by
  induction n generalizing b c r with
  | zero => exact h
  | succ n ih =>
      by_cases hbc : b ≤ c
      · obtain ⟨r₁, r₂, hentries, hrest, rfl⟩ := (blocks_succ_eq_some hbc).mp h
        exact (blocks_succ_eq_some hbc).mpr
          ⟨r₁, r₂, entries_mono hfg hentries, ih hrest, rfl⟩
      · rw [blocks, if_neg hbc] at h ⊢
        exact h

theorem follow_mono (depth : Nat) :
    ∀ k r, follow E depth k = some r → follow E (depth + 1) k = some r := by
  induction depth with
  | zero => exact fun _ _ h => nomatch h
  | succ depth ih =>
      intro k r h
      rw [follow] at h ⊢
      split at h
      · rename_i hvalid
        rw [if_pos hvalid]
        exact blocks_mono ih h
      · rename_i hvalid
        rw [if_neg hvalid]
        exact h

/-- The blocks of walks that end are the blocks that they reach. -/
theorem walked_iff {depth c c' : Nat} {ks walked : List Nat}
    (h : entries (follow E depth) ks c = some (c', walked)) (v : Nat) :
    v ∈ walked ↔ ∃ k ∈ ks, Valid k ∧ v ∈ reached E 254 2 k := by
  have htame := (exists_entries_iff ks c).mp ⟨depth, by rw [h]; rfl⟩
  obtain ⟨c'', walked', hrun, hwalked⟩ := entries_of_tame htame depth c
  have hmono := entries_mono (follow_mono (depth + 1)) (entries_mono (follow_mono depth) h)
  cases hmono.symm.trans hrun
  exact hwalked v

end AwHal.Edid
