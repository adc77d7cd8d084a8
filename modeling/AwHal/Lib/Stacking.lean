import Mathlib.Data.List.Nodup
import Mathlib.Data.List.Perm.Basic

/-!
# Stackings

Items arrive from back to front.  Each one is drawn in a group of a stack of groups, or left to a
canvas that is shown over the whole stack.  `Keeps` says when nothing that is seen through another
item changes place: an item drawn over an earlier one stays in front of it, and whatever covers an
item of the canvas goes to the canvas as well.
-/

namespace AwHal.Lib

variable {α : Type*}

/-! ## Earlier and later items of a list -/

def Before (l : List α) (a b : α) : Prop := List.Sublist [a, b] l

theorem Before.mem_left {l : List α} {a b : α} (h : Before l a b) : a ∈ l :=
  List.Sublist.subset h List.mem_cons_self

theorem Before.mem_right {l : List α} {a b : α} (h : Before l a b) : b ∈ l :=
  List.Sublist.subset h (List.mem_cons_of_mem _ List.mem_cons_self)

theorem Before.sublist {l l' : List α} {a b : α} (h : Before l a b) (hs : l.Sublist l') :
    Before l' a b :=
  List.Sublist.trans h hs

theorem Before.of_append {l l' : List α} {a b : α} (ha : a ∈ l) (hb : b ∈ l') :
    Before (l ++ l') a b := by
  have h := (List.singleton_sublist.mpr ha).append (List.singleton_sublist.mpr hb)
  simpa [Before] using h

theorem before_cons {l : List α} {a b x : α} :
    Before (x :: l) a b ↔ Before l a b ∨ (a = x ∧ b ∈ l) := by
  unfold Before
  rw [List.cons_sublist_cons', List.singleton_sublist]

theorem before_concat {l : List α} {a b x : α} :
    Before (l ++ [x]) a b ↔ Before l a b ∨ (a ∈ l ∧ b = x) := by
  constructor
  · intro h
    obtain ⟨l₁, l₂, heq, h₁, h₂⟩ := List.sublist_append_iff.mp h
    match l₁, l₂, heq with
    | [], [_, _], rfl => exact absurd h₂.length_le (by simp)
    | [_], [_], rfl =>
        exact Or.inr ⟨List.singleton_sublist.mp h₁, by simpa using h₂⟩
    | [_, _], [], rfl => exact Or.inl h₁
  · rintro (h | ⟨ha, rfl⟩)
    · exact h.sublist (List.sublist_append_left _ _)
    · exact Before.of_append ha List.mem_cons_self

theorem before_of_pairwise {r : α → α → Prop} {l : List α} (hl : l.Pairwise r) {a b : α}
    (ha : a ∈ l) (hb : b ∈ l) (hne : a ≠ b) (hba : ¬ r b a) : Before l a b := by
  induction l with
  | nil => exact absurd ha List.not_mem_nil
  | cons x l ih =>
      obtain ⟨hx, hl'⟩ := List.pairwise_cons.mp hl
      rw [before_cons]
      rcases List.mem_cons.mp ha with hax | ha'
      · rcases List.mem_cons.mp hb with hbx | hb'
        · exact absurd (hax.trans hbx.symm) hne
        · exact Or.inr ⟨hax, hb'⟩
      · rcases List.mem_cons.mp hb with hbx | hb'
        · exact absurd (hbx ▸ hx a ha') hba
        · exact Or.inl (ih hl' ha' hb')

/-- In a list without repetitions, earlier items have the smaller positions. -/
theorem Before.index_lt {l : List α} (hl : l.Nodup) {a b : α} (h : Before l a b) {i j : Nat}
    (hi : l[i]? = some a) (hj : l[j]? = some b) : i < j := by
  induction l generalizing i j with
  | nil => simp at hi
  | cons x l ih =>
      obtain ⟨hx, hl'⟩ := List.nodup_cons.mp hl
      have hbmem : b ∈ l := by
        rcases before_cons.mp h with h | ⟨_, hb⟩
        · exact h.mem_right
        · exact hb
      match i, j with
      | _, 0 =>
          simp only [List.getElem?_cons_zero, Option.some.injEq] at hj
          exact absurd (hj ▸ hbmem) hx
      | 0, j + 1 => omega
      | i + 1, j + 1 =>
          simp only [List.getElem?_cons_succ] at hi hj
          have ha : a ∈ l := List.mem_of_getElem? hi
          have hab : Before l a b := by
            rcases before_cons.mp h with h | ⟨rfl, _⟩
            · exact h
            · exact absurd ha hx
          have := ih hl' hab hi hj
          omega

/-! ## Changing one entry of a list -/

theorem modify_concat (l : List α) (x : α) (f : α → α) :
    (l ++ [x]).modify l.length f = l ++ [f x] := by
  rw [List.modify_eq_take_cons_drop (by simp)]
  simp

theorem map_modify {β : Type*} {l : List α} {m : Nat} {g : α → β} {f : α → α} (f' : β → β)
    (h : ∀ x, l[m]? = some x → g (f x) = f' (g x)) :
    (l.modify m f).map g = (l.map g).modify m f' := by
  apply List.ext_getElem?
  intro i
  rw [List.getElem?_map, List.getElem?_modify, List.getElem?_modify, List.getElem?_map]
  by_cases hmi : m = i
  · subst hmi
    cases hx : l[m]? with
    | none => rfl
    | some x => simp [h x hx]
  · cases l[i]? <;> simp [hmi]

theorem countP_eq_of_map_eq {β : Type*} {p : α → Bool} {q : β → Bool} {l : List α} {l' : List β}
    (h : l.map p = l'.map q) : l.countP p = l'.countP q := by
  have hp : l.countP p = (l.map p).countP id := by rw [List.countP_map, Function.id_comp]
  have hq : l'.countP q = (l'.map q).countP id := by rw [List.countP_map, Function.id_comp]
  rw [hp, hq, h]

/-! ## Stackings -/

/-- Groups from back to front, and the items left to the canvas in front of them. -/
structure Stacking (α : Type*) where
  groups : List (List α)
  rest : List α

namespace Stacking

/-- The grouped items from back to front. -/
def drawn (S : Stacking α) : List α := S.groups.flatten

def place (S : Stacking α) (m : Nat) (x : α) : Stacking α :=
  { S with groups := S.groups.modify m (· ++ [x]) }

def openGroup (S : Stacking α) (x : α) : Stacking α :=
  { S with groups := S.groups ++ [[x]] }

def defer (S : Stacking α) (x : α) : Stacking α :=
  { S with rest := S.rest ++ [x] }

/-- Every item of `input` is drawn or left to the canvas exactly once, and where `covers a b` says
that `b` would hide part of the earlier item `a`, `b` is still in front of it. -/
structure Keeps (covers : α → α → Prop) (input : List α) (S : Stacking α) : Prop where
  perm : (S.drawn ++ S.rest).Perm input
  order : ∀ a b, Before input a b → covers a b → a ∈ S.drawn → b ∈ S.drawn → Before S.drawn a b
  closed : ∀ a b, Before input a b → covers a b → a ∈ S.rest → b ∈ S.rest

variable {covers : α → α → Prop} {input : List α} {S : Stacking α} {x : α}

theorem keeps_nil : Keeps covers [] ⟨[], []⟩ where
  perm := by simp [drawn]
  order := by
    intro a b h
    exact absurd h.mem_left List.not_mem_nil
  closed := by
    intro a b h
    exact absurd h.mem_left List.not_mem_nil

theorem Keeps.not_mem_drawn (h : Keeps covers input S) (hx : x ∉ input) : x ∉ S.drawn :=
  fun hm => hx (h.perm.subset (List.mem_append_left _ hm))

theorem Keeps.perm_concat {S' : Stacking α} (h : Keeps covers input S)
    (hadd : (S'.drawn ++ S'.rest).Perm (x :: (S.drawn ++ S.rest))) :
    (S'.drawn ++ S'.rest).Perm (input ++ [x]) :=
  hadd.trans ((h.perm.cons x).trans (List.perm_append_singleton x input).symm)

theorem drawn_place (S : Stacking α) {m : Nat} (hm : m < S.groups.length) (x : α) :
    (S.place m x).drawn =
      (S.groups.take (m + 1)).flatten ++ x :: (S.groups.drop (m + 1)).flatten := by
  unfold drawn place
  rw [List.modify_eq_take_cons_drop hm, List.take_succ_eq_append_getElem hm]
  simp only [List.flatten_append, List.flatten_cons, List.flatten_nil, List.append_assoc,
    List.append_nil, List.cons_append, List.nil_append]

theorem drawn_split (S : Stacking α) (m : Nat) :
    S.drawn = (S.groups.take m).flatten ++ (S.groups.drop m).flatten := by
  unfold drawn
  rw [← List.flatten_append, List.take_append_drop]

/-- Joining a group is sound when no item from that group on, and none of the canvas, is hidden by
the new item. -/
theorem Keeps.place (h : Keeps covers input S) (hx : x ∉ input) {m : Nat}
    (hm : m < S.groups.length)
    (hfree : ∀ g ∈ S.groups.drop m, ∀ a ∈ g, ¬ covers a x) (hrest : ∀ a ∈ S.rest, ¬ covers a x) :
    Keeps covers (input ++ [x]) (S.place m x) := by
  have hdrawn := drawn_place S hm x
  have hsplit := drawn_split S (m + 1)
  have hsub : S.drawn.Sublist (S.place m x).drawn := by
    rw [hdrawn, hsplit]
    exact (List.Sublist.refl _).append (List.sublist_cons_self _ _)
  have hmem : ∀ {a}, a ∈ (S.place m x).drawn → a = x ∨ a ∈ S.drawn := by
    intro a ha
    rw [hdrawn] at ha
    rw [hsplit]
    simp only [List.mem_append, List.mem_cons] at ha ⊢
    tauto
  refine ⟨?_, ?_, ?_⟩
  · apply h.perm_concat
    show ((S.place m x).drawn ++ S.rest).Perm (x :: (S.drawn ++ S.rest))
    rw [hdrawn, hsplit]
    simp
  -- two earlier items keep their places; the new one may only be the later of a pair
  · intro a b hab hover ha hb
    rcases before_concat.mp hab with hab | ⟨hain, rfl⟩
    · have hne : ∀ {c}, c ∈ input → c ≠ x := fun hc he => hx (he ▸ hc)
      have ha' : a ∈ S.drawn := (hmem ha).resolve_left (hne hab.mem_left)
      have hb' : b ∈ S.drawn := (hmem hb).resolve_left (hne hab.mem_right)
      exact (h.order a b hab hover ha' hb').sublist hsub
    · have ha' : a ∈ S.drawn := (hmem ha).resolve_left (fun he => hx (he ▸ hain))
      rw [drawn_split S m] at ha'
      rcases List.mem_append.mp ha' with hlow | hhigh
      · -- the groups below `m` all stand before the position of the new item
        rw [hdrawn]
        refine Before.of_append ?_ List.mem_cons_self
        rw [List.take_succ_eq_append_getElem hm, List.flatten_append]
        exact List.mem_append_left _ hlow
      · obtain ⟨g, hg, hag⟩ := List.mem_flatten.mp hhigh
        exact absurd hover (hfree g hg a hag)
  · intro a b hab hover ha
    rcases before_concat.mp hab with hab | ⟨_, rfl⟩
    · exact h.closed a b hab hover ha
    · exact absurd hover (hrest a ha)

theorem Keeps.openGroup (h : Keeps covers input S) (hx : x ∉ input)
    (hrest : ∀ a ∈ S.rest, ¬ covers a x) : Keeps covers (input ++ [x]) (S.openGroup x) := by
  have hdrawn : (S.openGroup x).drawn = S.drawn ++ [x] := by
    simp [drawn, Stacking.openGroup]
  refine ⟨?_, ?_, ?_⟩
  · apply h.perm_concat
    show ((S.openGroup x).drawn ++ S.rest).Perm (x :: (S.drawn ++ S.rest))
    rw [hdrawn]
    simp
  · intro a b hab hover ha hb
    rw [hdrawn] at ha hb ⊢
    rcases before_concat.mp hab with hab | ⟨hain, rfl⟩
    · have ha' : a ∈ S.drawn := by
        rcases List.mem_append.mp ha with ha | ha
        · exact ha
        · exact absurd hab.mem_left (by simpa [List.mem_singleton.mp ha] using hx)
      have hb' : b ∈ S.drawn := by
        rcases List.mem_append.mp hb with hb | hb
        · exact hb
        · exact absurd hab.mem_right (by simpa [List.mem_singleton.mp hb] using hx)
      exact (h.order a b hab hover ha' hb').sublist (List.sublist_append_left _ _)
    · rcases List.mem_append.mp ha with ha | ha
      · exact Before.of_append ha List.mem_cons_self
      · exact absurd hain (by simpa [List.mem_singleton.mp ha] using hx)
  · intro a b hab hover ha
    rcases before_concat.mp hab with hab | ⟨_, rfl⟩
    · exact h.closed a b hab hover ha
    · exact absurd hover (hrest a ha)

theorem Keeps.defer (h : Keeps covers input S) (hx : x ∉ input) :
    Keeps covers (input ++ [x]) (S.defer x) := by
  refine ⟨?_, ?_, ?_⟩
  · show (S.drawn ++ (S.rest ++ [x])).Perm (input ++ [x])
    rw [← List.append_assoc]
    exact h.perm.append_right [x]
  · intro a b hab hover ha hb
    rcases before_concat.mp hab with hab | ⟨_, rfl⟩
    · exact h.order a b hab hover ha hb
    · exact absurd hb (h.not_mem_drawn hx)
  · intro a b hab hover ha
    rcases before_concat.mp hab with hab | ⟨hain, rfl⟩
    · rcases List.mem_append.mp ha with ha | ha
      · exact List.mem_append_left _ (h.closed a b hab hover ha)
      · exact absurd hab.mem_left (by simpa [List.mem_singleton.mp ha] using hx)
    · exact List.mem_append_right _ List.mem_cons_self

end Stacking

end AwHal.Lib
