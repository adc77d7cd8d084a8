import AwHal.Lib.GuardedRun
import AwHal.Lib.SlotRing
import AwHal.Camera.FrameRefs

/-!
# The queues of the cameras

`OSAL_Queue.c`: a ring of linked elements.  Each call runs under `qMutex`, so that calls come one after
another.  The elements are numbered in the order in which they are allocated, and a pointer to one is
its number.
-/

namespace AwHal.Camera.OsalQueue

open AwHal.Lib

variable {α : Type}

/-- `data` is `NULL` or something else. -/
structure OSAL_QElem (α : Type) where
  data : Option α := none
  qNext : Nat := 0

structure OSAL_QUEUE (α : Type) where
  elems : Nat → OSAL_QElem α
  first : Nat
  last : Nat
  numElem : Int
  maxElem : Int

inductive OMX_ERRORTYPE where
  | OMX_ErrorBadParameter | OMX_ErrorInsufficientResources
deriving DecidableEq, Repr

/-! ## The calls -/

def linkElems (malloc : Nat → Bool) :
    Nat → Nat → (Nat → OSAL_QElem α) → Option (Nat × (Nat → OSAL_QElem α))
  | 0, currentqelem, elems => some (currentqelem, elems)
  | n + 1, currentqelem, elems =>
      let newqelem := currentqelem + 1
      if malloc newqelem then
        linkElems malloc n newqelem
          (Function.update elems currentqelem { elems currentqelem with qNext := newqelem })
      else none

/-- `malloc i` says whether element `i` can be allocated. -/
def OSAL_QueueCreate (malloc : Nat → Bool) (maxQueueElem : Int) :
    Except OMX_ERRORTYPE (OSAL_QUEUE α) :=
  if malloc 0 then
    match linkElems malloc (maxQueueElem - 2).toNat 0 fun _ => {} with
    | none => .error .OMX_ErrorInsufficientResources
    | some (currentqelem, elems) =>
        .ok {
          elems := Function.update elems currentqelem { elems currentqelem with qNext := 0 }
          first := 0
          last := 0
          numElem := 0
          maxElem := maxQueueElem }
  else .error .OMX_ErrorInsufficientResources

namespace OSAL_QUEUE

def put (q : OSAL_QUEUE α) (data : α) : OSAL_QUEUE α :=
  { q with
    elems := Function.update q.elems q.last { q.elems q.last with data := some data }
    last := (q.elems q.last).qNext
    numElem := q.numElem + 1 }

def take (q : OSAL_QUEUE α) : OSAL_QUEUE α :=
  { q with
    elems := Function.update q.elems q.first { q.elems q.first with data := none }
    first := (q.elems q.first).qNext
    numElem := q.numElem - 1 }

end OSAL_QUEUE

def OSAL_Queue (q : OSAL_QUEUE α) (data : α) : Int × OSAL_QUEUE α :=
  if (q.elems q.last).data.isSome ∨ q.numElem ≥ q.maxElem then (-1, q) else (0, q.put data)

def OSAL_Dequeue (q : OSAL_QUEUE α) : Option α × OSAL_QUEUE α :=
  if (q.elems q.first).data.isNone ∨ q.numElem ≤ 0 then (none, q)
  else ((q.elems q.first).data, q.take)

def OSAL_SetElemNum (q : OSAL_QUEUE α) (ElemNum : Int) : Int × OSAL_QUEUE α :=
  (ElemNum, { q with numElem := ElemNum })

def OSAL_QueueSetElem [DecidableEq α] (q : OSAL_QUEUE α) (data : α) : Int × OSAL_QUEUE α :=
  if (q.elems q.last).data.isSome ∨ q.numElem ≥ q.maxElem then (-1, q)
  else if (List.range q.numElem.toNat).any fun _ =>
      (q.elems q.first).data = some data || (q.elems q.last).data = some data then (0, q)
  else (0, q.put data)

/-! ## The list that a queue stands for -/

/-- The elements form a ring of one less than `maxElem`; those from `first` on hold the list, and the
others hold nothing. -/
structure Represents (q : OSAL_QUEUE α) (list : List α) : Prop where
  ring : ∀ p < (q.maxElem - 1).toNat, (q.elems p).qNext = slotAfter (q.maxElem - 1).toNat p 1
  first_lt : q.first < (q.maxElem - 1).toNat
  last_eq : q.last = slotAfter (q.maxElem - 1).toNat q.first list.length
  numElem_eq : q.numElem = list.length
  length_le : list.length ≤ (q.maxElem - 1).toNat
  data : ∀ k < (q.maxElem - 1).toNat,
    (q.elems (slotAfter (q.maxElem - 1).toNat q.first k)).data = list[k]?

inductive Call (α : Type) where
  | queue (data : α)
  | dequeue
  | queueSetElem (data : α)
  | clear
deriving DecidableEq, Repr

inductive Returned (α : Type) where
  | code (ret : Int)
  | pointer (data : Option α)
deriving DecidableEq, Repr

section

variable [DecidableEq α]

def call (q : OSAL_QUEUE α) : Call α → Returned α × OSAL_QUEUE α
  | .queue data => (.code (OSAL_Queue q data).1, (OSAL_Queue q data).2)
  | .dequeue => (.pointer (OSAL_Dequeue q).1, (OSAL_Dequeue q).2)
  | .queueSetElem data => (.code (OSAL_QueueSetElem q data).1, (OSAL_QueueSetElem q data).2)
  | .clear => (.code (OSAL_SetElemNum q 0).1, (OSAL_SetElemNum q 0).2)

/-- The calls on a list that is to hold less than `maxQueueElem - 1` elements before another is put
in. -/
def listCall (maxQueueElem : Int) (list : List α) : Call α → Returned α × List α
  | .queue data =>
      if list.length < maxQueueElem - 1 then (.code 0, list ++ [data]) else (.code (-1), list)
  | .dequeue => (.pointer list.head?, list.tail)
  | .queueSetElem data =>
      if list.length < maxQueueElem - 1 then
        (.code 0, if data ∈ list then list else list ++ [data])
      else (.code (-1), list)
  | .clear => (.code 0, [])

/-- A queue, the list beside it, and what the calls returned for the two. -/
structure Session (α : Type) where
  queue : OSAL_QUEUE α
  list : List α := []
  returned : List (Returned α × Returned α) := []

def step (maxQueueElem : Int) (s : Session α) (c : Call α) : Session α where
  queue := (call s.queue c).2
  list := (listCall maxQueueElem s.list c).2
  returned := s.returned ++ [((call s.queue c).1, (listCall maxQueueElem s.list c).1)]

/-- The queue stands for the list, and the calls returned the same for both. -/
structure Refines (s : Session α) : Prop where
  represents : Represents s.queue s.list
  returned : ∀ r ∈ s.returned, r.1 = r.2

/-- An element that is put in if it is not there already is not there, or is the oldest, or the queue is
full; and a queue is cleared only when it is empty. -/
def Safe (maxQueueElem : Int) (_ : List (Call α)) (s : Session α) : Call α → Prop
  | .queueSetElem data =>
      s.list.length < maxQueueElem - 1 → data ∈ s.list → s.list.head? = some data
  | .clear => s.list = []
  | _ => True

instance (maxQueueElem : Int) (past : List (Call α)) (s : Session α) :
    (c : Call α) → Decidable (Safe maxQueueElem past s c)
  | .queue _ => isTrue trivial
  | .dequeue => isTrue trivial
  | .queueSetElem data =>
      inferInstanceAs (Decidable (s.list.length < maxQueueElem - 1 → data ∈ s.list → _))
  | .clear => inferInstanceAs (Decidable (s.list = []))

end

/-! ## A new queue -/

def Linked (n : Nat) (elems : Nat → OSAL_QElem α) : Prop :=
  (∀ p < n, (elems p).qNext = p + 1) ∧ ∀ p, (elems p).data = none

theorem linkElems_eq_some {malloc : Nat → Bool} {n current last : Nat}
    {elems elems' : Nat → OSAL_QElem α} (hlinked : Linked current elems)
    (h : linkElems malloc n current elems = some (last, elems')) :
    last = current + n ∧ Linked last elems' := by
  induction n generalizing current elems with
  | zero =>
      cases h
      exact ⟨rfl, hlinked⟩
  | succ n ih =>
      rw [linkElems] at h
      split at h
      · have hnext : Linked (current + 1)
            (Function.update elems current { elems current with qNext := current + 1 }) := by
          constructor
          · intro p hp
            by_cases heq : p = current
            · rw [heq, Function.update_self]
            · rw [Function.update_of_ne heq]
              exact hlinked.1 p (by omega)
          · intro p
            by_cases heq : p = current
            · rw [heq, Function.update_self]
              exact hlinked.2 current
            · rw [Function.update_of_ne heq]
              exact hlinked.2 p
        obtain ⟨hlast, hlinked'⟩ := ih hnext h
        exact ⟨by omega, hlinked'⟩
      · cases h

theorem represents_create {malloc : Nat → Bool} {maxQueueElem : Int} {q : OSAL_QUEUE α}
    (hmax : 2 ≤ maxQueueElem) (h : OSAL_QueueCreate malloc maxQueueElem = .ok q) :
    Represents q [] ∧ q.maxElem = maxQueueElem := by
  unfold OSAL_QueueCreate at h
  split at h
  · split at h
    · cases h
    · rename_i last elems hlink
      cases h
      have hempty : Linked 0 fun _ => ({} : OSAL_QElem α) :=
        ⟨fun p hp => absurd hp (Nat.not_lt_zero p), fun _ => rfl⟩
      obtain ⟨hlast, hnext, hdata⟩ := linkElems_eq_some hempty hlink
      refine ⟨?_, rfl⟩
      constructor
      case ring =>
        intro p hp
        dsimp only at hp ⊢
        by_cases heq : p = last
        · -- the last element is linked to the first
          have hround : p + 1 = (maxQueueElem - 1).toNat := by omega
          rw [heq, Function.update_self, slotAfter, ← heq, hround, Nat.mod_self]
        · rw [Function.update_of_ne heq, hnext p (by omega), slotAfter, Nat.mod_eq_of_lt (by omega)]
      case first_lt =>
        show 0 < (maxQueueElem - 1).toNat
        omega
      case last_eq =>
        have hpos : 0 < (maxQueueElem - 1).toNat := by omega
        exact (slotAfter_zero hpos).symm
      case numElem_eq => rfl
      case length_le => exact Nat.zero_le _
      case data =>
        intro k _
        dsimp only
        rw [List.getElem?_nil]
        by_cases heq : slotAfter (maxQueueElem - 1).toNat 0 k = last
        · rw [heq, Function.update_self]
          exact hdata last
        · rw [Function.update_of_ne heq]
          exact hdata _
  · cases h

/-! ## What the calls do -/

namespace Represents

variable {q : OSAL_QUEUE α} {list : List α}

theorem cells_pos (h : Represents q list) : 0 < (q.maxElem - 1).toNat := Nat.zero_lt_of_lt h.first_lt

theorem first_data (h : Represents q list) : (q.elems q.first).data = list.head? := by
  have hdata := h.data 0 h.cells_pos
  rw [slotAfter_zero h.first_lt] at hdata
  rw [hdata, List.head?_eq_getElem?]

theorem last_data (h : Represents q list) :
    (q.elems q.last).data = if list.length < (q.maxElem - 1).toNat then none else list.head? := by
  rw [h.last_eq]
  split
  · rename_i hroom
    rw [h.data _ hroom]
    exact List.getElem?_eq_none (Nat.le_refl _)
  · rename_i hfull
    have hlen : list.length = (q.maxElem - 1).toNat := Nat.le_antisymm h.length_le (by omega)
    rw [hlen, slotAfter, Nat.add_mod_right, Nat.mod_eq_of_lt h.first_lt]
    exact h.first_data

theorem full_iff (h : Represents q list) :
    ((q.elems q.last).data.isSome ∨ q.numElem ≥ q.maxElem) ↔ ¬ list.length < q.maxElem - 1 := by
  have hcells := h.cells_pos
  rw [h.last_data, h.numElem_eq]
  by_cases hroom : list.length < (q.maxElem - 1).toNat
  · rw [if_pos hroom]
    constructor
    · rintro (hsome | hge)
      · cases hsome
      · omega
    · intro hfull
      omega
  · rw [if_neg hroom]
    refine iff_of_true (.inl ?_) (by omega)
    cases hlist : list with
    | nil =>
        rw [hlist] at hroom
        exact absurd hcells hroom
    | cons x rest => rfl

theorem put (h : Represents q list) (hroom : list.length < q.maxElem - 1) (data : α) :
    Represents (q.put data) (list ++ [data]) := by
  have hlt : list.length < (q.maxElem - 1).toNat := by omega
  have hlast : q.last < (q.maxElem - 1).toNat := by
    rw [h.last_eq]
    exact slotAfter_lt h.cells_pos
  constructor
  case ring =>
    intro p hp
    show (Function.update q.elems q.last _ p).qNext = _
    by_cases heq : p = q.last
    · rw [heq, Function.update_self]
      exact h.ring q.last hlast
    · rw [Function.update_of_ne heq]
      exact h.ring p hp
  case first_lt => exact h.first_lt
  case last_eq =>
    show (q.elems q.last).qNext = slotAfter _ q.first (list ++ [data]).length
    rw [h.ring q.last hlast, h.last_eq, slotAfter_slotAfter, List.length_append]
    rfl
  case numElem_eq =>
    show q.numElem + 1 = _
    rw [h.numElem_eq, List.length_append]
    rfl
  case length_le =>
    rw [List.length_append]
    exact hlt
  case data =>
    intro k hk
    have hk : k < (q.maxElem - 1).toNat := hk
    show (Function.update q.elems q.last _ (slotAfter (q.maxElem - 1).toNat q.first k)).data = _
    rcases Nat.lt_trichotomy k list.length with hbefore | heq | hbehind
    · rw [Function.update_of_ne, List.getElem?_append_left hbefore]
      · exact h.data k hk
      · rw [h.last_eq]
        exact slotAfter_ne hbefore hlt
    · rw [heq, ← h.last_eq, Function.update_self, List.getElem?_concat_length]
    · rw [Function.update_of_ne, h.data k hk, List.getElem?_eq_none (by omega),
        List.getElem?_eq_none]
      · rw [List.length_append]
        exact hbehind
      · rw [h.last_eq]
        exact (slotAfter_ne hbehind hk).symm

theorem take {x : α} {rest : List α} (h : Represents q (x :: rest)) : Represents q.take rest := by
  have hlen : rest.length + 1 ≤ (q.maxElem - 1).toNat := h.length_le
  have hnext : (q.elems q.first).qNext = slotAfter (q.maxElem - 1).toNat q.first 1 :=
    h.ring q.first h.first_lt
  constructor
  case ring =>
    intro p hp
    show (Function.update q.elems q.first _ p).qNext = _
    by_cases heq : p = q.first
    · rw [heq, Function.update_self]
      exact hnext
    · rw [Function.update_of_ne heq]
      exact h.ring p hp
  case first_lt =>
    show (q.elems q.first).qNext < _
    rw [hnext]
    exact slotAfter_lt h.cells_pos
  case last_eq =>
    show q.last = slotAfter (q.maxElem - 1).toNat (q.elems q.first).qNext rest.length
    rw [hnext, slotAfter_slotAfter, h.last_eq, Nat.add_comm]
    rfl
  case numElem_eq =>
    show q.numElem - 1 = _
    rw [h.numElem_eq, List.length_cons]
    omega
  case length_le =>
    show rest.length ≤ (q.maxElem - 1).toNat
    omega
  case data =>
    intro k hk
    have hk : k < (q.maxElem - 1).toNat := hk
    show (Function.update q.elems q.first _
      (slotAfter (q.maxElem - 1).toNat (q.elems q.first).qNext k)).data = _
    rw [hnext, slotAfter_slotAfter, Nat.add_comm 1 k]
    rcases Nat.lt_or_ge (k + 1) (q.maxElem - 1).toNat with hlt | hge
    · rw [Function.update_of_ne, h.data (k + 1) hlt, List.getElem?_cons_succ]
      have hne := slotAfter_ne (i := q.first) (Nat.succ_pos k) hlt
      rw [slotAfter_zero h.first_lt] at hne
      exact hne.symm
    · -- one round further, where the element that was taken is
      have hround : k + 1 = (q.maxElem - 1).toNat := by omega
      rw [hround, slotAfter, Nat.add_mod_right, Nat.mod_eq_of_lt h.first_lt, Function.update_self,
        List.getElem?_eq_none]
      show rest.length ≤ k
      omega

theorem queue (h : Represents q list) (data : α) :
    (OSAL_Queue q data).1 = (if list.length < q.maxElem - 1 then 0 else -1) ∧
      Represents (OSAL_Queue q data).2
        (if list.length < q.maxElem - 1 then list ++ [data] else list) := by
  unfold OSAL_Queue
  by_cases hroom : list.length < q.maxElem - 1
  · rw [if_neg (fun hfull => h.full_iff.mp hfull hroom), if_pos hroom, if_pos hroom]
    exact ⟨rfl, h.put hroom data⟩
  · rw [if_pos (h.full_iff.mpr hroom), if_neg hroom, if_neg hroom]
    exact ⟨rfl, h⟩

/-- On the list that it stands for the ring does what `Camera.OSAL_Queue` does. -/
theorem queue_list (h : Represents q list) (data : α) :
    match Camera.OSAL_Queue q.maxElem.toNat list data with
    | some list' => (OSAL_Queue q data).1 = 0 ∧ Represents (OSAL_Queue q data).2 list'
    | none => (OSAL_Queue q data).1 = -1 ∧ Represents (OSAL_Queue q data).2 list := by
  have hpos := h.first_lt
  have hroom : list.length < q.maxElem.toNat - 1 ↔ list.length < q.maxElem - 1 := by omega
  obtain ⟨hret, hrep⟩ := h.queue data
  unfold Camera.OSAL_Queue
  by_cases hlt : list.length < q.maxElem - 1
  · rw [if_pos hlt] at hret hrep
    rw [if_pos (hroom.mpr hlt)]
    exact ⟨hret, hrep⟩
  · rw [if_neg hlt] at hret hrep
    rw [if_neg fun hfits => hlt (hroom.mp hfits)]
    exact ⟨hret, hrep⟩

theorem dequeue (h : Represents q list) :
    (OSAL_Dequeue q).1 = list.head? ∧ Represents (OSAL_Dequeue q).2 list.tail := by
  unfold OSAL_Dequeue
  rw [h.first_data, h.numElem_eq]
  cases list with
  | nil =>
      rw [if_pos (.inl rfl)]
      exact ⟨rfl, h⟩
  | cons x rest =>
      rw [if_neg]
      · exact ⟨rfl, h.take⟩
      · rintro (hnone | hle)
        · cases hnone
        · rw [List.length_cons] at hle
          omega

theorem clear (h : Represents q []) : Represents (OSAL_SetElemNum q 0).2 [] :=
  ⟨h.ring, h.first_lt, h.last_eq, rfl, h.length_le, h.data⟩

section

variable [DecidableEq α]

theorem queueSetElem (h : Represents q list) (data : α) :
    OSAL_QueueSetElem q data =
      if list.length < q.maxElem - 1 then
        (0, if list.head? = some data then q else q.put data)
      else (-1, q) := by
  unfold OSAL_QueueSetElem
  by_cases hroom : list.length < q.maxElem - 1
  · have hlast : (q.elems q.last).data = none := by
      rw [h.last_data, if_pos (by omega)]
    rw [if_neg (fun hfull => h.full_iff.mp hfull hroom), if_pos hroom, hlast, h.first_data,
      h.numElem_eq, Int.toNat_natCast]
    cases list with
    | nil => rfl
    | cons x rest =>
        rw [List.length_cons, List.range_succ_eq_map]
        by_cases hx : x = data
        · simp [hx]
        · simp [hx]
  · rw [if_pos (h.full_iff.mpr hroom), if_neg hroom]

end

end Represents

/-! ## Steps and runs -/

section

variable [DecidableEq α] {s : Session α}

theorem maxElem_call (q : OSAL_QUEUE α) (c : Call α) : (call q c).2.maxElem = q.maxElem := by
  cases c with
  | queue data =>
      show (OSAL_Queue q data).2.maxElem = _
      unfold OSAL_Queue
      split <;> rfl
  | dequeue =>
      show (OSAL_Dequeue q).2.maxElem = _
      unfold OSAL_Dequeue
      split <;> rfl
  | queueSetElem data =>
      show (OSAL_QueueSetElem q data).2.maxElem = _
      unfold OSAL_QueueSetElem
      split
      · rfl
      · split <;> rfl
  | clear => rfl

/-- A safe call returns the same for the queue and for the list, and keeps them together. -/
theorem represents_call {past : List (Call α)} {c : Call α} (h : Represents s.queue s.list)
    (hsafe : Safe s.queue.maxElem past s c) :
    (call s.queue c).1 = (listCall s.queue.maxElem s.list c).1 ∧
      Represents (call s.queue c).2 (listCall s.queue.maxElem s.list c).2 := by
  cases c with
  | queue data =>
      obtain ⟨hret, hrep⟩ := h.queue data
      unfold call listCall
      dsimp only
      rw [hret]
      split
      · rename_i hroom
        rw [if_pos hroom] at hrep
        exact ⟨rfl, hrep⟩
      · rename_i hfull
        rw [if_neg hfull] at hrep
        exact ⟨rfl, hrep⟩
  | dequeue =>
      obtain ⟨hret, hrep⟩ := h.dequeue
      exact ⟨congrArg Returned.pointer hret, hrep⟩
  | queueSetElem data =>
      unfold call listCall
      dsimp only
      rw [h.queueSetElem data]
      by_cases hroom : s.list.length < s.queue.maxElem - 1
      · rw [if_pos hroom, if_pos hroom]
        by_cases hmem : data ∈ s.list
        · rw [if_pos hmem, if_pos (hsafe hroom hmem)]
          exact ⟨rfl, h⟩
        · have hhead : s.list.head? ≠ some data := fun heq => hmem (List.mem_of_head? heq)
          rw [if_neg hmem, if_neg hhead]
          exact ⟨rfl, h.put hroom data⟩
      · rw [if_neg hroom, if_neg hroom]
        exact ⟨rfl, h⟩
  | clear =>
      have hnil : s.list = [] := hsafe
      rw [hnil] at h
      exact ⟨rfl, h.clear⟩

theorem Refines.step {past : List (Call α)} {c : Call α} (h : Refines s)
    (hsafe : Safe s.queue.maxElem past s c) : Refines (step s.queue.maxElem s c) := by
  obtain ⟨hret, hrep⟩ := represents_call h.represents hsafe
  constructor
  case represents => exact hrep
  case returned =>
    exact List.forall_mem_append.mpr ⟨h.returned, List.forall_mem_singleton.mpr hret⟩

/-- After a call that is not safe the queue does not stand for the list. -/
theorem Refines.safe {past : List (Call α)} {c : Call α} (h : Refines s)
    (hnext : Refines (OsalQueue.step s.queue.maxElem s c)) : Safe s.queue.maxElem past s c := by
  have hrep := h.represents
  have hrep' : Represents (call s.queue c).2 (listCall s.queue.maxElem s.list c).2 :=
    hnext.represents
  cases c with
  | queue data => trivial
  | dequeue => trivial
  | queueSetElem data =>
      intro hroom hmem
      by_contra hhead
      -- the element was appended though it is there
      have hqueue : (call s.queue (.queueSetElem data)).2 = s.queue.put data := by
        show (OSAL_QueueSetElem s.queue data).2 = _
        rw [hrep.queueSetElem data, if_pos hroom, if_neg hhead]
      have hlist : (listCall s.queue.maxElem s.list (.queueSetElem data)).2 = s.list := by
        show (if _ then _ else _ : Returned α × List α).2 = _
        rw [if_pos hroom, if_pos hmem]
      rw [hqueue, hlist] at hrep'
      have hcount : (s.list.length : Int) = (s.list ++ [data]).length :=
        hrep'.numElem_eq.symm.trans (hrep.put hroom data).numElem_eq
      rw [List.length_append, List.length_singleton] at hcount
      omega
  | clear =>
      -- the oldest element is still there
      have hfirst : (s.queue.elems s.queue.first).data = none := hrep'.first_data
      rw [hrep.first_data] at hfirst
      exact List.head?_eq_none_iff.mp hfirst

/-- All along a run a queue does what the list does exactly when every call is safe. -/
theorem refines_iff {malloc : Nat → Bool} {maxQueueElem : Int} {q : OSAL_QUEUE α}
    (hmax : 2 ≤ maxQueueElem) (hcreate : OSAL_QueueCreate malloc maxQueueElem = .ok q)
    (calls : List (Call α)) :
    (∀ past, past <+: calls → Refines (past.foldl (step maxQueueElem) { queue := q })) ↔
      Guarded (step maxQueueElem) (Safe maxQueueElem) { queue := q } calls := by
  obtain ⟨hrep, heq⟩ := represents_create hmax hcreate
  apply forall_prefix_iff_guarded_of_invariant
    (fun _ s => Refines s ∧ s.queue.maxElem = maxQueueElem)
  · exact ⟨⟨hrep, fun r hr => nomatch hr⟩, heq⟩
  · exact fun past s h => h.1
  · rintro past s c ⟨h, rfl⟩ hsafe
    exact ⟨h.step hsafe, maxElem_call s.queue c⟩
  · rintro past s c ⟨h, rfl⟩ hnext
    exact h.safe hnext

/-- The queue is filled, emptied and cleared, and each element that is put in again is the oldest. -/
theorem refines_filled : ∃ q : OSAL_QUEUE Nat, OSAL_QueueCreate (fun _ => true) 4 = .ok q ∧
    ∀ past, past <+: [.queue 7, .queueSetElem 7, .queue 8, .queueSetElem 9, .queue 6, .dequeue,
        .dequeue, .dequeue, .clear, .dequeue] →
      Refines (past.foldl (step 4) { queue := q }) :=
  ⟨_, rfl, (@refines_iff Nat _ (fun _ => true) 4 _ (by decide) rfl _).mpr (by decide)⟩

/-- A cleared queue gives back what it held before, and an element that is in it behind the first one is
put in again. -/
theorem not_refines : ∃ q : OSAL_QUEUE Nat, OSAL_QueueCreate (fun _ => true) 4 = .ok q ∧
    ¬ Refines ([.queue 7, .clear, .queue 8, .dequeue].foldl (step 4) { queue := q }) ∧
    ¬ Refines ([.queue 7, .queue 8, .queueSetElem 8, .dequeue, .dequeue, .dequeue].foldl (step 4)
      { queue := q }) := by
  refine ⟨_, rfl, ?_, ?_⟩
  · intro h
    exact absurd h.returned (by decide)
  · intro h
    exact absurd h.returned (by decide)

end

end AwHal.Camera.OsalQueue
