import Mathlib.Logic.Function.Basic
import Mathlib.Data.List.Basic
import Mathlib.Data.List.Nodup
import Mathlib.Data.List.Perm.Subperm

/-!
# Singly linked lists on a heap

A node has an item and a pointer to the next one, or a null pointer.  The heap has nothing at the
addresses that were never allocated or have been freed; an access there is a fault.
-/

namespace AwHal.Lib

variable {α : Type}

structure Node (α : Type) where
  item : α
  next : Option Nat

structure Heap (α : Type) where
  node : Nat → Option (Node α)
  /-- The address of the next allocation; no address is used twice. -/
  fresh : Nat

namespace Heap

def empty : Heap α where
  node := fun _ => none
  fresh := 0

def put (a : Nat) (n : Node α) (h : Heap α) : Heap α :=
  { h with node := Function.update h.node a (some n) }

/-- A new node with a null pointer, at `h.fresh`. -/
def alloc (item : α) (h : Heap α) : Heap α where
  node := Function.update h.node h.fresh (some ⟨item, none⟩)
  fresh := h.fresh + 1

def setNext (a : Nat) (next : Option Nat) (h : Heap α) : Option (Heap α) := do
  let n ← h.node a
  some (h.put a { n with next })

def setItem (a : Nat) (f : α → α) (h : Heap α) : Option (Heap α) := do
  let n ← h.node a
  some (h.put a { n with item := f n.item })

def clear (a : Nat) (h : Heap α) : Heap α :=
  { h with node := Function.update h.node a none }

def free (a : Nat) (h : Heap α) : Option (Heap α) := do
  let _ ← h.node a
  some (h.clear a)

/-- The address of the last node of the list at `a`, in at most `fuel` nodes. -/
def last (h : Heap α) : Nat → Nat → Option Nat
  | 0, _ => none
  | fuel + 1, a => do
      let n ← h.node a
      match n.next with
      | none => some a
      | some next => last h fuel next

/-- The address of the first node of the list at `p` whose item has `P`, or a null pointer, in at most
`fuel` nodes. -/
def search (h : Heap α) (P : α → Bool) : Nat → Option Nat → Option (Option Nat)
  | _, none => some none
  | 0, some _ => none
  | fuel + 1, some a => do
      let n ← h.node a
      if P n.item then some (some a) else search h P fuel n.next

def pushBack (item : α) (head : Option Nat) (h : Heap α) : Option (Heap α × Option Nat) :=
  match head with
  | none => some (h.alloc item, some h.fresh)
  | some a => do
      let cur ← (h.alloc item).last (h.fresh + 1) a
      let h' ← (h.alloc item).setNext cur (some h.fresh)
      some (h', head)

/-! ## Segments -/

/-- From `p` the nodes of `l` come one after another, with these addresses and items, and then `q`. -/
def Seg (h : Heap α) : Option Nat → List (Nat × α) → Option Nat → Prop
  | p, [], q => p = q
  | p, x :: l, q => p = some x.1 ∧ ∃ next, h.node x.1 = some ⟨x.2, next⟩ ∧ Seg h next l q

variable {h h' : Heap α} {p q r : Option Nat} {l l₁ l₂ : List (Nat × α)} {a : Nat} {x : α}

theorem seg_append : h.Seg p (l₁ ++ l₂) r ↔ ∃ q, h.Seg p l₁ q ∧ h.Seg q l₂ r := by
  induction l₁ generalizing p with
  | nil => simp [Seg]
  | cons y l₁ ih =>
      simp only [List.cons_append, Seg, ih]
      constructor
      · rintro ⟨hp, next, hnode, q, h₁, h₂⟩
        exact ⟨q, ⟨hp, next, hnode, h₁⟩, h₂⟩
      · rintro ⟨q, ⟨hp, next, hnode, h₁⟩, h₂⟩
        exact ⟨hp, next, hnode, q, h₁, h₂⟩

theorem seg_singleton :
    h.Seg p [(a, x)] q ↔ p = some a ∧ h.node a = some ⟨x, q⟩ := by
  simp [Seg]

theorem Seg.congr (hseg : h.Seg p l q) (hsame : ∀ a ∈ l.map Prod.fst, h'.node a = h.node a) :
    h'.Seg p l q := by
  induction l generalizing p with
  | nil => exact hseg
  | cons y l ih =>
      obtain ⟨hp, next, hnode, hrest⟩ := hseg
      refine ⟨hp, next, ?_, ?_⟩
      · rw [hsame y.1 (by simp)]
        exact hnode
      · apply ih hrest
        intro a ha
        exact hsame a (List.mem_cons_of_mem _ ha)

theorem Seg.node_eq (hseg : h.Seg p l q) (hmem : (a, x) ∈ l) : ∃ next, h.node a = some ⟨x, next⟩ := by
  induction l generalizing p with
  | nil => cases hmem
  | cons y l ih =>
      obtain ⟨_, next, hnode, hrest⟩ := hseg
      rcases List.mem_cons.mp hmem with rfl | hmem
      · exact ⟨next, hnode⟩
      · exact ih hrest hmem

/-- A list is determined by where it starts. -/
theorem Seg.unique {l' : List (Nat × α)} (hseg : h.Seg p l none) (hseg' : h.Seg p l' none) :
    l = l' := by
  induction l generalizing p l' with
  | nil =>
      cases l' with
      | nil => rfl
      | cons y l' =>
          have hnone : p = none := hseg
          obtain ⟨hsome, -⟩ := hseg'
          rw [hnone] at hsome
          cases hsome
  | cons x l ih =>
      obtain ⟨hp, next, hnode, hrest⟩ := hseg
      cases l' with
      | nil =>
          have hnone : p = none := hseg'
          rw [hp] at hnone
          cases hnone
      | cons y l' =>
          obtain ⟨hp', next', hnode', hrest'⟩ := hseg'
          have haddr : x.1 = y.1 := Option.some.inj (hp.symm.trans hp')
          rw [← haddr, hnode, Option.some_inj, Node.mk.injEq] at hnode'
          rw [← hnode'.2] at hrest'
          rw [Prod.ext haddr hnode'.1, ih hrest hrest']

/-! ## Updates -/

theorem node_put_self (n : Node α) : (h.put a n).node a = some n := by simp [Heap.put]

theorem node_put_of_ne {b : Nat} (hne : b ≠ a) (n : Node α) : (h.put a n).node b = h.node b := by
  simp [Heap.put, hne]

theorem Seg.put (hseg : h.Seg p l q) (ha : a ∉ l.map Prod.fst) (n : Node α) :
    (h.put a n).Seg p l q := by
  apply hseg.congr
  intro b hb
  apply node_put_of_ne
  intro heq
  exact ha (heq ▸ hb)

theorem Seg.put_last (hseg : h.Seg p (l ++ [(a, x)]) q) (ha : a ∉ l.map Prod.fst) (y : α)
    (r : Option Nat) : (h.put a ⟨y, r⟩).Seg p (l ++ [(a, y)]) r := by
  obtain ⟨s, hl, hlast⟩ := seg_append.mp hseg
  rw [seg_singleton] at hlast
  rw [seg_append]
  refine ⟨s, hl.put ha _, ?_⟩
  rw [seg_singleton]
  exact ⟨hlast.1, node_put_self _⟩

theorem Seg.clear (hseg : h.Seg p l q) (ha : a ∉ l.map Prod.fst) : (h.clear a).Seg p l q := by
  apply hseg.congr
  intro b hb
  have hne : b ≠ a := fun heq => ha (heq ▸ hb)
  simp [Heap.clear, hne]

theorem free_eq {n : Node α} (hnode : h.node a = some n) : h.free a = some (h.clear a) := by
  simp [Heap.free, hnode]

theorem Seg.alloc (hseg : h.Seg p l q) (hfresh : ∀ a ∈ l.map Prod.fst, a < h.fresh) (item : α) :
    (h.alloc item).Seg p l q := by
  apply hseg.congr
  intro b hb
  have hlt := hfresh b hb
  exact Function.update_of_ne (by omega) _ h.node

theorem seg_alloc_new (item : α) : (h.alloc item).Seg (some h.fresh) [(h.fresh, item)] none := by
  rw [seg_singleton]
  exact ⟨rfl, Function.update_self h.fresh _ h.node⟩

/-! ## Walks -/

theorem Seg.last_eq {fuel : Nat} {x₀ : Nat × α} (hseg : h.Seg (some a) (l ++ [x₀]) none)
    (hfuel : l.length < fuel) : h.last fuel a = some x₀.1 := by
  induction l generalizing a fuel with
  | nil =>
      obtain ⟨hp, next, hnode, rfl⟩ := hseg
      cases hp
      obtain ⟨fuel, rfl⟩ : ∃ n, fuel = n + 1 := ⟨fuel - 1, by simp at hfuel; omega⟩
      simp [Heap.last, hnode]
  | cons y l ih =>
      obtain ⟨hp, next, hnode, hrest⟩ := hseg
      cases hp
      obtain ⟨fuel, rfl⟩ : ∃ n, fuel = n + 1 := ⟨fuel - 1, by omega⟩
      rw [List.length_cons] at hfuel
      cases next with
      | none => cases l <;> cases hrest.1
      | some b =>
          have hb := ih hrest (by omega : l.length < fuel)
          simp [Heap.last, hnode, hb]

theorem Seg.search_eq {fuel : Nat} {P : α → Bool} (hseg : h.Seg p l none)
    (hfuel : l.length ≤ fuel) :
    h.search P fuel p = some ((l.find? fun x => P x.2).map Prod.fst) := by
  induction l generalizing p fuel with
  | nil =>
      rw [show p = none from hseg]
      cases fuel <;> rfl
  | cons y l ih =>
      obtain ⟨rfl, next, hnode, hrest⟩ := hseg
      rw [List.length_cons] at hfuel
      obtain ⟨fuel, rfl⟩ : ∃ n, fuel = n + 1 := ⟨fuel - 1, by omega⟩
      have hih := ih hrest (by omega : l.length ≤ fuel)
      by_cases hP : P y.2 = true
      · simp [Heap.search, hnode, hP]
      · simp [Heap.search, hnode, hP, hih]

/-! ## Whole lists -/

/-- The nodes of `l` are the list at `head`, with different addresses. -/
structure IsList (h : Heap α) (head : Option Nat) (l : List (Nat × α)) : Prop where
  seg : h.Seg head l none
  nodup : (l.map Prod.fst).Nodup
  lt : ∀ a ∈ l.map Prod.fst, a < h.fresh

variable {head : Option Nat}

theorem IsList.nil : h.IsList none [] := ⟨rfl, List.nodup_nil, by simp⟩

theorem IsList.length_le (hl : h.IsList head l) : l.length ≤ h.fresh := by
  have hsub : l.map Prod.fst ⊆ List.range h.fresh := by
    intro a ha
    exact List.mem_range.mpr (hl.lt a ha)
  have hle := (List.subperm_of_subset hl.nodup hsub).length_le
  rwa [List.length_map, List.length_range] at hle

theorem IsList.head_eq_some (hl : h.IsList head l) (hne : l ≠ []) : ∃ a, head = some a := by
  cases l with
  | nil => exact absurd rfl hne
  | cons y l => exact ⟨y.1, hl.seg.1⟩

theorem IsList.last_not_mem {y : Nat × α} (hl : h.IsList head (l ++ [y])) :
    y.1 ∉ l.map Prod.fst := by
  have hnodup := hl.nodup
  rw [List.map_append] at hnodup
  intro hmem
  exact (List.disjoint_of_nodup_append hnodup) hmem (by simp)

theorem setNext_eq {next : Option Nat} (hnode : h.node a = some ⟨x, next⟩) (q : Option Nat) :
    h.setNext a q = some (h.put a ⟨x, q⟩) := by
  simp [setNext, hnode]

theorem IsList.fresh_append (hl : h.IsList head l) (item : α) :
    ((l ++ [(h.fresh, item)]).map Prod.fst).Nodup ∧
      ∀ a ∈ (l ++ [(h.fresh, item)]).map Prod.fst, a < h.fresh + 1 := by
  have hnew : h.fresh ∉ l.map Prod.fst := fun hmem => Nat.lt_irrefl _ (hl.lt _ hmem)
  rw [List.map_append]
  refine ⟨List.nodup_append_comm.mp (List.nodup_cons.mpr ⟨hnew, hl.nodup⟩), ?_⟩
  intro a ha
  rcases List.mem_append.mp ha with ha | ha
  · exact Nat.lt_succ_of_lt (hl.lt a ha)
  · rw [List.mem_singleton.mp ha]
    exact Nat.lt_succ_self _

theorem IsList.pushBack (hl : h.IsList head l) (item : α) :
    ∃ h' head', h.pushBack item head = some (h', head') ∧
      h'.IsList head' (l ++ [(h.fresh, item)]) ∧ h'.fresh = h.fresh + 1 ∧
      ∀ a ∉ l.map Prod.fst, a ≠ h.fresh → h'.node a = h.node a := by
  obtain ⟨hnodup, hlt⟩ := hl.fresh_append item
  have hsame : ∀ a, a ≠ h.fresh → (h.alloc item).node a = h.node a := by
    intro a ha
    exact Function.update_of_ne ha _ h.node
  rcases List.eq_nil_or_concat l with rfl | ⟨l, y, rfl⟩
  · have hnull : head = none := hl.seg
    subst hnull
    refine ⟨h.alloc item, some h.fresh, rfl, ⟨?_, hnodup, hlt⟩, rfl, fun a _ ha => hsame a ha⟩
    exact seg_alloc_new item
  · rw [List.concat_eq_append] at *
    have hseg := hl.seg.alloc hl.lt item
    obtain ⟨a, rfl⟩ := hl.head_eq_some (by simp)
    have hlength := hl.length_le
    have hlast : (h.alloc item).last (h.fresh + 1) a = some y.1 := by
      apply hseg.last_eq
      rw [List.length_append] at hlength
      simp only [List.length_singleton] at hlength
      omega
    obtain ⟨next, hnode⟩ := hseg.node_eq (List.mem_append_right l (List.mem_singleton_self (y.1, y.2)))
    have hne : y.1 ≠ h.fresh := by
      have := hl.lt y.1 (by simp)
      omega
    refine ⟨(h.alloc item).put y.1 ⟨y.2, some h.fresh⟩, some a, ?_, ⟨?_, hnodup, hlt⟩, rfl, ?_⟩
    · simp [Heap.pushBack, hlast, setNext_eq hnode]
    · rw [seg_append]
      refine ⟨some h.fresh, hseg.put_last hl.last_not_mem y.2 (some h.fresh), ?_⟩
      apply Seg.put (seg_alloc_new item)
      simpa using hne
    · intro b hb hbfresh
      rw [node_put_of_ne, hsame b hbfresh]
      rintro rfl
      exact hb (by simp)

end Heap

end AwHal.Lib
