import Mathlib.Data.List.Nodup
import Mathlib.Data.List.Induction

/-!
# The thread pool of the tuning server

Works are given to the nodes of a list; each node has a worker thread that polls the node's flags.
The threads share the nodes under one lock per node, and `add_work` and `exit_thread_pool` walk the
list under a global lock.  A step here is what one thread does under a lock, or one access that the
worker makes without: it calls the work's handle outside of any lock.
-/

namespace AwHal.TuningApp.ThreadPool

inductive StopFlag where
  | WORK_THREAD_STOP_NOT | WORK_THREAD_STOP_YES
deriving DecidableEq, Repr

inductive WorkFlag where
  | WORK_THREAD_WORK_NOT | WORK_THREAD_WORK_YES
deriving DecidableEq, Repr

inductive ExitFlag where
  | WORK_THREAD_EXIT_NOT | WORK_THREAD_EXIT_YES
deriving DecidableEq, Repr

open StopFlag WorkFlag ExitFlag

variable {H A : Type}

/-- Where the thread of a node is in `do_work_thread`. -/
inductive Worker where
  | none
  | readStop
  | readWork
  | testHandle
  | callHandle
  | running
  | clearWork
  | finish
deriving DecidableEq, Repr

/-- `work_thread_params` and the node's thread.  `ticket` is not in the source: it tells which of
the accepted works the node holds. -/
structure Node (H A : Type) where
  stop_flag : StopFlag := WORK_THREAD_STOP_NOT
  work_flag : WorkFlag := WORK_THREAD_WORK_NOT
  status : ExitFlag := WORK_THREAD_EXIT_YES
  thread_handle : Option H := none
  handle_params : Option A := none
  worker : Worker := .none
  ticket : Option Nat := none

def set_zero_work_thread_params (n : Node H A) : Node H A :=
  { n with
    stop_flag := WORK_THREAD_STOP_NOT
    work_flag := WORK_THREAD_WORK_NOT
    status := WORK_THREAD_EXIT_YES
    thread_handle := none
    handle_params := none
    ticket := none }

/-- A work as it is accepted for a node, or as a node's thread executes it. -/
structure Work (H A : Type) where
  ticket : Nat
  node : Nat
  handle : Option H
  params : Option A

inductive Holder (H A : Type) where
  | nobody
  | adding (work_func : Option H) (work_func_params : Option A) (i : Nat)
  | leaving
  | stopping (i : Nat)
  | waiting (i : Nat)
  | freeing
  | gone

/-- The pool, with a record of the works that were accepted, executed, and given up by their
node. -/
structure Pool (H A : Type) where
  nodes : List (Node H A)
  g_work_thread_list_count : Nat
  holder : Holder H A := .nobody
  tickets : Nat := 0
  accepted : List (Work H A) := []
  executed : List (Work H A) := []
  released : List Nat := []

def init_thread_pool (count : Nat) : Pool H A where
  nodes := List.replicate count {}
  g_work_thread_list_count := count

/-! ## `do_work_thread` -/

/-- One step of the thread of node `i`; while a handle is executed, its return. -/
def do_work_thread (p : Pool H A) (i : Nat) (n : Node H A) : Pool H A :=
  let put (n : Node H A) : Pool H A := { p with nodes := p.nodes.set i n }
  match n.worker with
  | .none => p
  | .readStop =>
      put { n with worker :=
        if n.stop_flag = WORK_THREAD_STOP_NOT then .readWork else .finish }
  | .readWork =>
      put { n with worker :=
        if n.work_flag = WORK_THREAD_WORK_YES then .testHandle else .readStop }
  | .testHandle =>
      put { n with worker := if n.thread_handle.isSome then .callHandle else .clearWork }
  | .callHandle =>
      { put { n with worker := .running } with
        executed := p.executed ++
          [⟨n.ticket.getD p.tickets, i, n.thread_handle, n.handle_params⟩] }
  | .running => put { n with worker := .clearWork }
  | .clearWork =>
      { put { n with work_flag := WORK_THREAD_WORK_NOT, worker := .readStop, ticket := none } with
        released := p.released ++ n.ticket.toList }
  | .finish =>
      { put { set_zero_work_thread_params n with worker := .none } with
        released := p.released ++ n.ticket.toList }

/-! ## `add_work` -/

def give (n : Node H A) (work_func : Option H) (work_func_params : Option A) (ticket : Nat) :
    Node H A :=
  { n with
    thread_handle := work_func
    handle_params := work_func_params
    work_flag := WORK_THREAD_WORK_YES
    ticket := some ticket }

/-- A node whose thread is not there gets one, if `pthread_create` succeeds. -/
def create (n : Node H A) (work_func : Option H) (work_func_params : Option A) (ticket : Nat) :
    Node H A :=
  give { n with status := WORK_THREAD_EXIT_NOT, worker := .readStop } work_func work_func_params
    ticket

def Pool.accept (p : Pool H A) (nodes : List (Node H A)) (i : Nat) (work_func : Option H)
    (work_func_params : Option A) : Pool H A :=
  { p with
    nodes := nodes
    holder := .leaving
    tickets := p.tickets + 1
    accepted := p.accepted ++ [⟨p.tickets, i, work_func, work_func_params⟩] }

/-- The loop at node `i`, or the node that is appended after all of them were busy. -/
def add_work (p : Pool H A) (work_func : Option H) (work_func_params : Option A) (i : Nat)
    (created : Bool) : Pool H A :=
  if i < p.g_work_thread_list_count then
    match p.nodes[i]? with
    | none => p
    | some n =>
        if n.status = WORK_THREAD_EXIT_YES then
          let n := set_zero_work_thread_params n
          if created then
            p.accept (p.nodes.set i (create n work_func work_func_params p.tickets)) i work_func
              work_func_params
          else { p with nodes := p.nodes.set i n, holder := .leaving }
        else if n.work_flag = WORK_THREAD_WORK_NOT then
          p.accept (p.nodes.set i (give n work_func work_func_params p.tickets)) i work_func
            work_func_params
        else { p with holder := .adding work_func work_func_params (i + 1) }
  else
    let p := { p with g_work_thread_list_count := p.g_work_thread_list_count + 1 }
    let n : Node H A := {}
    if created then
      p.accept (p.nodes ++ [create n work_func work_func_params p.tickets]) p.nodes.length work_func
        work_func_params
    else { p with nodes := p.nodes ++ [n], holder := .leaving }

/-! ## `exit_thread_pool` -/

def stopNode (p : Pool H A) (i : Nat) : Pool H A :=
  if i < p.g_work_thread_list_count then
    match p.nodes[i]? with
    | none => p
    | some n =>
        { p with
          nodes := p.nodes.set i { n with stop_flag := WORK_THREAD_STOP_YES }
          holder := .stopping (i + 1) }
  else { p with holder := .waiting 0 }

def waitNode (p : Pool H A) (i : Nat) : Pool H A :=
  if i < p.g_work_thread_list_count then
    match p.nodes[i]? with
    | none => p
    | some n =>
        if n.status = WORK_THREAD_EXIT_NOT then p else { p with holder := .waiting (i + 1) }
  else { p with holder := .freeing }

def freeNodes (p : Pool H A) : Pool H A :=
  { p with nodes := [], g_work_thread_list_count := 0, holder := .gone }

/-! ## Interleavings -/

/-- Somebody enters `add_work` or `exit_thread_pool`, the one inside the global lock goes on, or the
thread of a node does.  `created` is the outcome of `pthread_create`. -/
inductive Event (H A : Type) where
  | add_work (work_func : Option H) (work_func_params : Option A)
  | exit_thread_pool
  | locked (created : Bool)
  | worker (i : Nat)

/-- A thread that cannot go on leaves everything as it is. -/
def step (p : Pool H A) : Event H A → Pool H A
  | .add_work work_func work_func_params =>
      match p.holder with
      | .nobody => { p with holder := .adding work_func work_func_params 0 }
      | _ => p
  | .exit_thread_pool =>
      match p.holder with
      | .nobody => { p with holder := .stopping 0 }
      | _ => p
  | .locked created =>
      match p.holder with
      | .adding work_func work_func_params i => add_work p work_func work_func_params i created
      | .leaving => { p with holder := .nobody }
      | .stopping i => stopNode p i
      | .waiting i => waitNode p i
      | .freeing => freeNodes p
      | .nobody | .gone => p
  | .worker i =>
      match p.nodes[i]? with
      | none => p
      | some n => do_work_thread p i n

def run (p : Pool H A) (events : List (Event H A)) : Pool H A := events.foldl step p

/-! ## What the pool guarantees -/

def Pool.held (p : Pool H A) (i : Nat) : List (Work H A) :=
  p.accepted.filter fun w => w.node = i ∧ w.ticket ∉ p.released

structure Safe (p : Pool H A) : Prop where
  /-- Accepted works are told apart by their tickets. -/
  distinct : (p.accepted.map Work.ticket).Nodup
  atMostOnce : (p.executed.map Work.ticket).Nodup
  asAccepted : ∀ w ∈ p.executed, w ∈ p.accepted
  single : ∀ i, (p.held i).length ≤ 1
  count : p.g_work_thread_list_count = p.nodes.length
  quiet : p.holder = .freeing → ∀ n ∈ p.nodes, n.worker ≠ .running

/-! ## The invariant -/

def Worker.busy : Worker → Bool
  | .testHandle | .callHandle | .running | .clearWork => true
  | _ => false

def Worker.called : Worker → Bool
  | .running | .clearWork => true
  | _ => false

structure NodeOk (p : Pool H A) (i : Nat) (n : Node H A) : Prop where
  thread : n.status = WORK_THREAD_EXIT_NOT ↔ n.worker ≠ .none
  exited : n.status = WORK_THREAD_EXIT_YES → n.work_flag = WORK_THREAD_WORK_NOT
  holds : n.work_flag = WORK_THREAD_WORK_YES → ∃ t, n.ticket = some t ∧
    ⟨t, i, n.thread_handle, n.handle_params⟩ ∈ p.accepted ∧ t ∉ p.released
  idle : n.work_flag = WORK_THREAD_WORK_NOT → n.ticket = none
  busy : n.worker.busy → n.work_flag = WORK_THREAD_WORK_YES
  uncalled : n.worker.called = false → ∀ w ∈ p.executed, n.ticket ≠ some w.ticket

def Pool.exited (p : Pool H A) : Nat :=
  match p.holder with
  | .waiting i => i
  | .freeing => p.nodes.length
  | _ => 0

structure Inv (p : Pool H A) : Prop where
  count : p.g_work_thread_list_count = p.nodes.length
  node : ∀ i n, p.nodes[i]? = some n → NodeOk p i n
  tickets : ∀ w ∈ p.accepted, w.ticket < p.tickets
  released : ∀ t ∈ p.released, t < p.tickets
  distinct : (p.accepted.map Work.ticket).Nodup
  atMostOnce : (p.executed.map Work.ticket).Nodup
  asAccepted : ∀ w ∈ p.executed, w ∈ p.accepted
  held : ∀ w ∈ p.accepted, w.ticket ∉ p.released →
    ∃ n, p.nodes[w.node]? = some n ∧ n.ticket = some w.ticket
  exits : ∀ i n, i < p.exited → p.nodes[i]? = some n → n.status = WORK_THREAD_EXIT_YES

section

variable {p : Pool H A} {i j t : Nat} {n n' : Node H A}

theorem Inv.eq_of_ticket (h : Inv p) {w w' : Work H A} (hw : w ∈ p.accepted) (hw' : w' ∈ p.accepted)
    (ht : w.ticket = w'.ticket) : w = w' :=
  List.inj_on_of_nodup_map h.distinct hw hw' ht

theorem NodeOk.work_flag_of_ticket (h : NodeOk p i n) (ht : n.ticket = some t) :
    n.work_flag = WORK_THREAD_WORK_YES := by
  cases hflag : n.work_flag with
  | WORK_THREAD_WORK_YES => rfl
  | WORK_THREAD_WORK_NOT =>
      rw [h.idle hflag] at ht
      contradiction

theorem NodeOk.accepted (h : NodeOk p i n) (ht : n.ticket = some t) :
    ⟨t, i, n.thread_handle, n.handle_params⟩ ∈ p.accepted ∧ t ∉ p.released := by
  obtain ⟨t', ht', hmem⟩ := h.holds (h.work_flag_of_ticket ht)
  rw [ht] at ht'
  obtain rfl := Option.some.inj ht'
  exact hmem

/-- No two nodes hold the same work. -/
theorem Inv.ticket_unique (h : Inv p) (hi : p.nodes[i]? = some n) (hj : p.nodes[j]? = some n')
    (ht : n.ticket = some t) (ht' : n'.ticket = some t) : i = j := by
  have hw := ((h.node i n hi).accepted ht).1
  have hw' := ((h.node j n' hj).accepted ht').1
  exact congrArg Work.node (h.eq_of_ticket hw hw' rfl)

theorem Inv.safe (h : Inv p) : Safe p where
  distinct := h.distinct
  atMostOnce := h.atMostOnce
  asAccepted := h.asAccepted
  count := h.count
  single := by
    intro i
    have hnodup : (p.held i).Nodup := (List.Nodup.of_map _ h.distinct).filter _
    match hheld : p.held i with
    | [] => exact Nat.zero_le 1
    | [w] => exact Nat.le_refl 1
    | w :: w' :: rest =>
        -- both are the work whose ticket the node has
        have hmem : ∀ v ∈ p.held i, v ∈ p.accepted ∧ v.node = i ∧ v.ticket ∉ p.released := by
          intro v hv
          simpa [Pool.held] using hv
        obtain ⟨hw, hnode, hrel⟩ := hmem w (by simp [hheld])
        obtain ⟨hw', hnode', hrel'⟩ := hmem w' (by simp [hheld])
        obtain ⟨n, hn, ht⟩ := h.held w hw hrel
        obtain ⟨n', hn', ht'⟩ := h.held w' hw' hrel'
        rw [hnode] at hn
        rw [hnode', hn] at hn'
        obtain rfl := Option.some.inj hn'
        have heq := h.eq_of_ticket hw hw' (Option.some.inj (ht.symm.trans ht'))
        rw [hheld, heq] at hnodup
        simp at hnodup
  quiet := by
    intro hfree n hn
    obtain ⟨i, hi⟩ := List.mem_iff_getElem?.mp hn
    have hlt : i < p.exited := by
      rw [Pool.exited, hfree]
      exact (List.getElem?_eq_some_iff.mp hi).1
    have hstatus := h.exits i n hlt hi
    intro hrun
    have hthread := (h.node i n hi).thread.mpr (by simp [hrun])
    rw [hstatus] at hthread
    contradiction

theorem inv_init (count : Nat) : Inv (init_thread_pool count : Pool H A) := by
  have hnode : ∀ (i : Nat) (n : Node H A),
      (init_thread_pool count : Pool H A).nodes[i]? = some n → n = {} := by
    intro i n hi
    have hmem := List.mem_of_getElem? hi
    exact List.eq_of_mem_replicate hmem
  constructor
  case node =>
    intro i n hi
    obtain rfl := hnode i n hi
    constructor <;> simp [Worker.busy]
  all_goals simp [init_thread_pool, Pool.exited]

/-! ## What a step keeps -/

theorem NodeOk.mono {p' : Pool H A} (h : NodeOk p i n)
    (hacc : ∀ w ∈ p.accepted, w ∈ p'.accepted)
    (hrel : ∀ t ∈ p'.released, t ∈ p.released ∨ n.ticket ≠ some t)
    (hexec : ∀ w ∈ p'.executed, w ∈ p.executed ∨ n.worker.called ∨ n.ticket ≠ some w.ticket) :
    NodeOk p' i n where
  thread := h.thread
  exited := h.exited
  idle := h.idle
  busy := h.busy
  holds := by
    intro hflag
    obtain ⟨t, ht, hmem, hfree⟩ := h.holds hflag
    refine ⟨t, ht, hacc _ hmem, ?_⟩
    intro hmem'
    rcases hrel t hmem' with hold | hne
    · exact hfree hold
    · exact hne ht
  uncalled := by
    intro hcalled w hw
    rcases hexec w hw with hold | hbusy | hne
    · exact h.uncalled hcalled w hold
    · rw [hcalled] at hbusy
      contradiction
    · exact hne

theorem Inv.hold {holder : Holder H A} (h : Inv p)
    (hexits : ∀ i n, i < ({ p with holder := holder } : Pool H A).exited →
      p.nodes[i]? = some n → n.status = WORK_THREAD_EXIT_YES) :
    Inv { p with holder := holder } where
  count := h.count
  node := fun i n hi => (h.node i n hi).mono (fun _ hw => hw) (fun _ ht => .inl ht)
    (fun _ hw => .inl hw)
  tickets := h.tickets
  released := h.released
  distinct := h.distinct
  atMostOnce := h.atMostOnce
  asAccepted := h.asAccepted
  held := h.held
  exits := hexits

theorem Inv.enter {holder : Holder H A} (h : Inv p)
    (hzero : ({ p with holder := holder } : Pool H A).exited = 0) :
    Inv { p with holder := holder } := by
  apply h.hold
  intro i n hlt _
  rw [hzero] at hlt
  exact absurd hlt (Nat.not_lt_zero i)

theorem getElem?_set_cases {nodes : List (Node H A)} {m : Node H A}
    (hj : (nodes.set i n')[j]? = some m) :
    (j = i ∧ m = n') ∨ (j ≠ i ∧ nodes[j]? = some m) := by
  by_cases hij : i = j
  · subst hij
    rw [List.getElem?_set_self'] at hj
    cases hi : nodes[i]? with
    | none => simp [hi] at hj
    | some n =>
        have heq : n' = m := by simpa [hi] using hj
        exact .inl ⟨rfl, heq.symm⟩
  · rw [List.getElem?_set_ne hij] at hj
    exact .inr ⟨fun h => hij h.symm, hj⟩

theorem getElem?_set_of_some {nodes : List (Node H A)} (hi : nodes[i]? = some n) :
    (nodes.set i n')[i]? = some n' := by
  have hlt := (List.getElem?_eq_some_iff.mp hi).1
  rw [List.getElem?_set_self hlt]

theorem Inv.set (h : Inv p) (hi : p.nodes[i]? = some n) (hok : NodeOk p i n')
    (hticket : n'.ticket = n.ticket)
    (hstatus : n.status = WORK_THREAD_EXIT_YES → n'.status = WORK_THREAD_EXIT_YES) :
    Inv { p with nodes := p.nodes.set i n' } where
  count := by
    show p.g_work_thread_list_count = (p.nodes.set i n').length
    rw [List.length_set]
    exact h.count
  node := by
    intro j m hj
    rcases getElem?_set_cases hj with ⟨rfl, rfl⟩ | ⟨-, hj⟩
    · exact hok.mono (fun _ hw => hw) (fun _ ht => .inl ht) (fun _ hw => .inl hw)
    · exact (h.node j m hj).mono (fun _ hw => hw) (fun _ ht => .inl ht) (fun _ hw => .inl hw)
  tickets := h.tickets
  released := h.released
  distinct := h.distinct
  atMostOnce := h.atMostOnce
  asAccepted := h.asAccepted
  held := by
    intro w hw hrel
    obtain ⟨m, hm, ht⟩ := h.held w hw hrel
    by_cases hnode : w.node = i
    · rw [hnode, hi] at hm
      obtain rfl := Option.some.inj hm
      refine ⟨n', ?_, hticket.trans ht⟩
      rw [hnode]
      exact getElem?_set_of_some hi
    · refine ⟨m, ?_, ht⟩
      show (p.nodes.set i n')[w.node]? = some m
      rw [List.getElem?_set_ne (fun h => hnode h.symm)]
      exact hm
  exits := by
    intro j m hlt hj
    have hlt' : j < p.exited := by
      simpa [Pool.exited] using hlt
    rcases getElem?_set_cases hj with ⟨rfl, rfl⟩ | ⟨-, hj⟩
    · exact hstatus (h.exits j n hlt' hi)
    · exact h.exits j m hlt' hj

/-- The thread of node `i` has called the handle of the work that it holds. -/
theorem Inv.execute (h : Inv p) (hi : p.nodes[i]? = some n) (hcalled : n.worker.called)
    (ht : n.ticket = some t) (hnew : ∀ w ∈ p.executed, n.ticket ≠ some w.ticket) :
    Inv { p with executed := p.executed ++ [⟨t, i, n.thread_handle, n.handle_params⟩] } where
  count := h.count
  node := by
    intro j m hj
    refine (h.node j m hj).mono (fun _ hw => hw) (fun _ ht => .inl ht) ?_
    intro w hw
    rcases List.mem_append.mp hw with hold | hlast
    · exact .inl hold
    · obtain rfl := List.mem_singleton.mp hlast
      by_cases hm : m.ticket = some t
      · obtain rfl := h.ticket_unique hi hj ht hm
        rw [hi] at hj
        obtain rfl := Option.some.inj hj
        exact .inr (.inl hcalled)
      · exact .inr (.inr hm)
  tickets := h.tickets
  released := h.released
  distinct := h.distinct
  atMostOnce := by
    show ((p.executed ++ [_]).map Work.ticket).Nodup
    rw [List.map_append, List.map_singleton, ← List.concat_eq_append]
    apply h.atMostOnce.concat
    intro hmem
    obtain ⟨w, hw, rfl⟩ := List.mem_map.mp hmem
    exact hnew w hw ht
  asAccepted := by
    intro w hw
    rcases List.mem_append.mp hw with hold | hlast
    · exact h.asAccepted w hold
    · obtain rfl := List.mem_singleton.mp hlast
      exact ((h.node i n hi).accepted ht).1
  held := h.held
  exits := h.exits

theorem Inv.release (h : Inv p) (hi : p.nodes[i]? = some n)
    (hthread : n'.status = WORK_THREAD_EXIT_NOT ↔ n'.worker ≠ .none)
    (hstatus : n.status = WORK_THREAD_EXIT_YES → n'.status = WORK_THREAD_EXIT_YES)
    (hflag : n'.work_flag = WORK_THREAD_WORK_NOT) (hticket : n'.ticket = none)
    (hbusy : n'.worker.busy = false) :
    Inv { p with nodes := p.nodes.set i n', released := p.released ++ n.ticket.toList } where
  count := by
    show p.g_work_thread_list_count = (p.nodes.set i n').length
    rw [List.length_set]
    exact h.count
  node := by
    intro j m hj
    rcases getElem?_set_cases hj with ⟨rfl, rfl⟩ | ⟨hne, hj⟩
    · constructor <;> simp [hthread, hflag, hticket, hbusy]
    · refine (h.node j m hj).mono (fun _ hw => hw) ?_ (fun _ hw => .inl hw)
      intro t ht
      rcases List.mem_append.mp ht with hold | hlast
      · exact .inl hold
      · have hn : n.ticket = some t := by simpa using hlast
        exact .inr fun hm => hne (h.ticket_unique hj hi hm hn)
  tickets := h.tickets
  released := by
    intro t ht
    rcases List.mem_append.mp ht with hold | hlast
    · exact h.released t hold
    · have hn : n.ticket = some t := by simpa using hlast
      exact h.tickets _ ((h.node i n hi).accepted hn).1
  distinct := h.distinct
  atMostOnce := h.atMostOnce
  asAccepted := h.asAccepted
  held := by
    intro w hw hrel
    have hrel' : w.ticket ∉ p.released ∧ n.ticket ≠ some w.ticket := by simpa using hrel
    obtain ⟨m, hm, ht⟩ := h.held w hw hrel'.1
    have hnode : i ≠ w.node := by
      intro heq
      rw [← heq, hi] at hm
      obtain rfl := Option.some.inj hm
      exact hrel'.2 ht
    refine ⟨m, ?_, ht⟩
    show (p.nodes.set i n')[w.node]? = some m
    rw [List.getElem?_set_ne hnode]
    exact hm
  exits := by
    intro j m hlt hj
    have hlt' : j < p.exited := by
      simpa [Pool.exited] using hlt
    rcases getElem?_set_cases hj with ⟨rfl, rfl⟩ | ⟨-, hj⟩
    · exact hstatus (h.exits j n hlt' hi)
    · exact h.exits j m hlt' hj

theorem Inv.accept {f : Option H} {a : Option A} (h : Inv p) (hi : p.nodes[i]? = some n)
    (hidle : n.ticket = none) (hthread : n'.status = WORK_THREAD_EXIT_NOT)
    (hworker : n'.worker ≠ .none) :
    Inv (p.accept (p.nodes.set i (give n' f a p.tickets)) i f a) where
  count := by
    show p.g_work_thread_list_count = (p.nodes.set i (give n' f a p.tickets)).length
    rw [List.length_set]
    exact h.count
  node := by
    intro j m hj
    rcases getElem?_set_cases hj with ⟨rfl, rfl⟩ | ⟨-, hj⟩
    · constructor
      case holds =>
        intro _
        refine ⟨p.tickets, rfl, List.mem_append_right _ (List.mem_singleton.mpr rfl), ?_⟩
        exact fun hmem => absurd (h.released _ hmem) (Nat.lt_irrefl _)
      case uncalled =>
        intro _ w hw heq
        have hlt := h.tickets w (h.asAccepted w hw)
        have : p.tickets = w.ticket := Option.some.inj heq
        omega
      all_goals simp [give, hthread, hworker]
    · exact (h.node j m hj).mono (fun _ hw => List.mem_append_left _ hw)
        (fun _ ht => .inl ht) (fun _ hw => .inl hw)
  tickets := by
    intro w hw
    show w.ticket < p.tickets + 1
    rcases List.mem_append.mp hw with hold | hlast
    · exact Nat.lt_succ_of_lt (h.tickets w hold)
    · obtain rfl := List.mem_singleton.mp hlast
      exact Nat.lt_succ_self p.tickets
  released := fun t ht => Nat.lt_succ_of_lt (h.released t ht)
  distinct := by
    show ((p.accepted ++ [_]).map Work.ticket).Nodup
    rw [List.map_append, List.map_singleton, ← List.concat_eq_append]
    apply h.distinct.concat
    intro hmem
    obtain ⟨w, hw, heq⟩ := List.mem_map.mp hmem
    have hlt := h.tickets w hw
    rw [heq] at hlt
    exact Nat.lt_irrefl _ hlt
  atMostOnce := h.atMostOnce
  asAccepted := fun w hw => List.mem_append_left _ (h.asAccepted w hw)
  held := by
    intro w hw hrel
    rcases List.mem_append.mp hw with hold | hlast
    · obtain ⟨m, hm, ht⟩ := h.held w hold hrel
      have hnode : i ≠ w.node := by
        intro heq
        rw [← heq, hi] at hm
        obtain rfl := Option.some.inj hm
        rw [hidle] at ht
        contradiction
      refine ⟨m, ?_, ht⟩
      show (p.nodes.set i (give n' f a p.tickets))[w.node]? = some m
      rw [List.getElem?_set_ne hnode]
      exact hm
    · obtain rfl := List.mem_singleton.mp hlast
      exact ⟨_, getElem?_set_of_some hi, rfl⟩
  exits := fun i _ hlt _ => absurd hlt (Nat.not_lt_zero i)

theorem Inv.grow (h : Inv p) :
    Inv { p with
      nodes := p.nodes ++ [{}]
      g_work_thread_list_count := p.g_work_thread_list_count + 1
      holder := .leaving } where
  count := by
    show p.g_work_thread_list_count + 1 = (p.nodes ++ [({} : Node H A)]).length
    rw [List.length_append, List.length_singleton, h.count]
  node := by
    intro j m hj
    by_cases hlt : j < p.nodes.length
    · rw [List.getElem?_append_left hlt] at hj
      exact (h.node j m hj).mono (fun _ hw => hw) (fun _ ht => .inl ht) (fun _ hw => .inl hw)
    · have hm : m = {} := by
        rw [List.getElem?_append_right (Nat.le_of_not_lt hlt)] at hj
        exact List.mem_singleton.mp (List.mem_of_getElem? hj)
      subst hm
      constructor <;> simp [Worker.busy]
  tickets := h.tickets
  released := h.released
  distinct := h.distinct
  atMostOnce := h.atMostOnce
  asAccepted := h.asAccepted
  held := by
    intro w hw hrel
    obtain ⟨m, hm, ht⟩ := h.held w hw hrel
    refine ⟨m, ?_, ht⟩
    show (p.nodes ++ [({} : Node H A)])[w.node]? = some m
    rw [List.getElem?_append_left (List.getElem?_eq_some_iff.mp hm).1]
    exact hm
  exits := fun i _ hlt _ => absurd hlt (Nat.not_lt_zero i)

/-! ## The steps -/

theorem Inv.do_work_thread (h : Inv p) (hi : p.nodes[i]? = some n) :
    Inv (do_work_thread p i n) := by
  have hok := h.node i n hi
  -- a thread that only moves on, and neither reaches nor leaves a call
  have hmove : ∀ pc : Worker, n.worker ≠ .none → pc ≠ .none →
      (pc.busy → n.work_flag = WORK_THREAD_WORK_YES) →
      (pc.called = false → n.worker.called = false) →
      Inv { p with nodes := p.nodes.set i { n with worker := pc } } := by
    intro pc hpc hpc' hbusy hcalled
    refine h.set hi ?_ rfl id
    constructor
    case thread =>
      have hstatus := hok.thread.mpr hpc
      simp [hstatus, hpc']
    case busy => exact hbusy
    case uncalled => exact fun hnot => hok.uncalled (hcalled hnot)
    case exited => exact hok.exited
    case holds => exact hok.holds
    case idle => exact hok.idle
  unfold ThreadPool.do_work_thread
  cases hpc : n.worker with
  | none => exact h
  | readStop =>
      by_cases hstop : n.stop_flag = WORK_THREAD_STOP_NOT
      · apply hmove <;> simp [hpc, hstop, Worker.busy, Worker.called]
      · apply hmove <;> simp [hpc, hstop, Worker.busy, Worker.called]
  | readWork =>
      by_cases hflag : n.work_flag = WORK_THREAD_WORK_YES
      · apply hmove <;> simp [hpc, hflag, Worker.called]
      · apply hmove <;> simp [hpc, hflag, Worker.busy, Worker.called]
  | testHandle =>
      have hflag := hok.busy (by simp [hpc, Worker.busy])
      cases n.thread_handle.isSome with
      | true => apply hmove <;> simp [hpc, hflag, Worker.called]
      | false => apply hmove <;> simp [hpc, hflag, Worker.called]
  | callHandle =>
      have hflag := hok.busy (by simp [hpc, Worker.busy])
      obtain ⟨t, ht, -, -⟩ := hok.holds hflag
      have hrun := hmove .running (by simp [hpc]) (by simp) (fun _ => hflag)
        (by simp [Worker.called])
      have hnew := hok.uncalled (by simp [hpc, Worker.called])
      have hexec := hrun.execute (getElem?_set_of_some hi) rfl ht hnew
      simpa [ht] using hexec
  | running =>
      have hflag := hok.busy (by simp [hpc, Worker.busy])
      apply hmove <;> simp [hpc, hflag, Worker.called]
  | clearWork =>
      have hstatus := hok.thread.mpr (by simp [hpc])
      apply h.release hi <;> simp [hstatus, Worker.busy]
  | finish =>
      apply h.release hi <;> simp [set_zero_work_thread_params, Worker.busy]

theorem Inv.add_work {f : Option H} {a : Option A} {created : Bool} (h : Inv p) :
    Inv (add_work p f a i created) := by
  unfold ThreadPool.add_work
  by_cases hlt : i < p.g_work_thread_list_count
  · rw [if_pos hlt]
    cases hi : p.nodes[i]? with
    | none => exact h
    | some n =>
        have hok := h.node i n hi
        simp only
        split
        next hexit =>
          have hidle := hok.idle (hok.exited hexit)
          cases created with
          | true => exact h.accept hi hidle rfl (by simp)
          | false =>
              have hworker : n.worker = .none := by
                by_contra hne
                have hnot := hok.thread.mpr hne
                rw [hexit] at hnot
                contradiction
              have hset :
                  Inv { p with nodes := p.nodes.set i (set_zero_work_thread_params n) } := by
                refine h.set hi ?_ (by simp [set_zero_work_thread_params, hidle]) (fun _ => rfl)
                constructor <;> simp [set_zero_work_thread_params, hworker, Worker.busy]
              exact hset.enter rfl
        next hthere =>
          split
          next hfree =>
            have hnot : n.status = WORK_THREAD_EXIT_NOT := by
              cases hs : n.status with
              | WORK_THREAD_EXIT_NOT => rfl
              | WORK_THREAD_EXIT_YES => exact absurd hs hthere
            exact h.accept hi (hok.idle hfree) hnot (hok.thread.mp hnot)
          next => exact h.enter rfl
  · rw [if_neg hlt]
    have hgrow := h.grow
    cases created with
    | false => exact hgrow
    | true =>
        have hlast : (p.nodes ++ [({} : Node H A)])[p.nodes.length]? = some {} := by simp
        have hnot : ({ status := WORK_THREAD_EXIT_NOT, worker := .readStop } : Node H A).status =
            WORK_THREAD_EXIT_NOT := rfl
        have hacc := hgrow.accept (f := f) (a := a) hlast rfl hnot (by simp)
        simpa [Pool.accept, create] using hacc

theorem Inv.stopNode (h : Inv p) : Inv (stopNode p i) := by
  unfold ThreadPool.stopNode
  split
  next =>
    cases hi : p.nodes[i]? with
    | none => exact h
    | some n =>
        have hok := h.node i n hi
        have hset : Inv { p with
            nodes := p.nodes.set i { n with stop_flag := WORK_THREAD_STOP_YES } } :=
          h.set hi ⟨hok.thread, hok.exited, hok.holds, hok.idle, hok.busy, hok.uncalled⟩ rfl id
        exact hset.enter rfl
  next => exact h.enter rfl

theorem Inv.waitNode (h : Inv p) (hwait : p.holder = .waiting i) : Inv (waitNode p i) := by
  have hseen : ∀ j n, j < i → p.nodes[j]? = some n → n.status = WORK_THREAD_EXIT_YES := by
    intro j n hlt
    apply h.exits
    rw [Pool.exited, hwait]
    exact hlt
  unfold ThreadPool.waitNode
  split
  next =>
    cases hi : p.nodes[i]? with
    | none => exact h
    | some n =>
        simp only
        split
        next => exact h
        next hdone =>
          apply h.hold
          intro j m hlt hj
          rcases Nat.lt_succ_iff_lt_or_eq.mp hlt with hlt | rfl
          · exact hseen j m hlt hj
          · rw [hi] at hj
            obtain rfl := Option.some.inj hj
            cases hs : n.status with
            | WORK_THREAD_EXIT_YES => rfl
            | WORK_THREAD_EXIT_NOT => exact absurd hs hdone
  next hend =>
    apply h.hold
    intro j m hlt hj
    have hcount := h.count
    have hlen : j < p.nodes.length := hlt
    exact hseen j m (by omega) hj

/-- All the threads have exited, so that no node holds a work. -/
theorem Inv.freeNodes (h : Inv p) (hfree : p.holder = .freeing) : Inv (freeNodes p) where
  count := rfl
  node := by
    intro j m hj
    simp [ThreadPool.freeNodes] at hj
  tickets := h.tickets
  released := h.released
  distinct := h.distinct
  atMostOnce := h.atMostOnce
  asAccepted := h.asAccepted
  held := by
    intro w hw hrel
    obtain ⟨m, hm, ht⟩ := h.held w hw hrel
    have hok := h.node w.node m hm
    have hlt : w.node < p.exited := by
      rw [Pool.exited, hfree]
      exact (List.getElem?_eq_some_iff.mp hm).1
    have hidle := hok.idle (hok.exited (h.exits _ _ hlt hm))
    rw [hidle] at ht
    contradiction
  exits := by
    intro j m _ hj
    simp [ThreadPool.freeNodes] at hj

theorem Inv.step (h : Inv p) (e : Event H A) : Inv (step p e) := by
  unfold ThreadPool.step
  cases e with
  | add_work f a =>
      simp only
      split
      · exact h.enter rfl
      · exact h
  | exit_thread_pool =>
      simp only
      split
      · exact h.enter rfl
      · exact h
  | locked created =>
      simp only
      split
      next => exact h.add_work
      next => exact h.enter rfl
      next => exact h.stopNode
      next hwait => exact h.waitNode hwait
      next hfree => exact h.freeNodes hfree
      next => exact h
      next => exact h
  | worker i =>
      simp only
      cases hi : p.nodes[i]? with
      | none => exact h
      | some n => exact h.do_work_thread hi

theorem Inv.run (h : Inv p) (events : List (Event H A)) : Inv (run p events) := by
  induction events generalizing p with
  | nil => exact h
  | cons e events ih => exact ih (h.step e)

end

/-- Whatever the order in which works are added, worker threads move and the pool is shut down. -/
theorem run_safe (count : Nat) (events : List (Event H A)) :
    Safe (run (init_thread_pool count) events) :=
  ((inv_init count).run events).safe

end AwHal.TuningApp.ThreadPool
