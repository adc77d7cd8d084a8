import Mathlib.Data.List.Infix
import AwHal.Lib.CircularList
import AwHal.Lib.GuardedRun

/-!
# The request queue of the PQ daemon

`connect_thread` hands each package it has read to `send_to_translate`, which links it into
`trans_list` and signals a condition variable.  `translate_thread` tests whether the list is empty,
waits if it is, takes the first package out, carries it out and sends the reply.  The test, the wait
and the removal are separate steps, and so are the insertion and the signal.
-/

namespace AwHal.Pq

open AwHal.Lib Function

/-- A package in memory, as far as the queue and the replies use it. -/
structure TransData where
  client_fd : Int
  cmd : Int
  size : Int
deriving DecidableEq, Repr

/-- What is sent back: the descriptor, the command, the size that is sent and, where there is one,
the `trans_reply` that replaces the data of the package. -/
structure Reply where
  client_fd : Int
  cmd : Int
  size : Int
  ret : Option Int
deriving DecidableEq, Repr

def replySize : Int := 10 + 8

def trans_send (data : TransData) (read : Bool) (reply : Int) : Reply :=
  if (read ∧ reply ≠ 0) ∨ ¬ read then
    { client_fd := data.client_fd, cmd := data.cmd, size := replySize, ret := some reply }
  else { client_fd := data.client_fd, cmd := data.cmd, size := data.size, ret := none }

/-- What the calls that carry out a package return: `trans_to_dexx`, `save_cfg_firmware` and the
`open` of the configuration file. -/
structure Outcome where
  trans_to_dexx : Int := 0
  save_cfg_firmware : Int := 0
  open_config : Int := 0
deriving DecidableEq, Repr

def translate (data : TransData) (o : Outcome) : Reply :=
  if data.cmd = 0 then trans_send data true 0
  else if data.cmd = 1 then trans_send data true o.trans_to_dexx
  else if data.cmd = 3 then
    trans_send data false (if o.trans_to_dexx = 0 then o.save_cfg_firmware else o.trans_to_dexx)
  else if data.cmd = 2 then trans_send data false o.trans_to_dexx
  else if data.cmd = 4 then trans_send data true o.open_config
  else trans_send data false (-1)

theorem translate_client_fd (data : TransData) (o : Outcome) :
    (translate data o).client_fd = data.client_fd := by
  have hsend : ∀ read reply, (trans_send data read reply).client_fd = data.client_fd := by
    intro read reply
    unfold trans_send
    split <;> rfl
  unfold translate
  repeat' split
  all_goals exact hsend _ _

inductive TranslatePc where
  | test
  | toWait
  | waiting
  | remove
  | process (node : Nat)
deriving DecidableEq, Repr

def trans_list : Nat := 0

structure RequestQueue where
  links : Links Nat := { next := id, pre := id }
  data : Nat → TransData := fun _ => ⟨0, 0, 0⟩
  -- `send_to_translate` has linked its package in and not yet signalled
  signalling : Bool := false
  pc : TranslatePc := .test
  can_close : Bool := false
  -- what was handed over, what was carried out and what was sent back, in order
  sent : List (Nat × TransData) := []
  handled : List (Nat × TransData) := []
  replies : List Reply := []

/-- The steps of the two threads; `wake` is a return of `pthread_cond_wait` without a signal. -/
inductive QueueEvent where
  | send (node : Nat) (data : TransData)
  | signal
  | test
  | wait
  | wake
  | remove
  | process (o : Outcome)
deriving DecidableEq, Repr

namespace RequestQueue

def list_empty (q : RequestQueue) : Bool :=
  q.links.isAlone trans_list

/-- A step of a thread that is somewhere else does nothing. -/
def step (q : RequestQueue) : QueueEvent → RequestQueue
  | .send node data =>
      if q.signalling then q
      else { q with
        links := (q.links.selfLink node).linkBefore trans_list node
        data := update q.data node data
        signalling := true
        sent := q.sent ++ [(node, data)] }
  | .signal =>
      if q.signalling then
        { q with signalling := false, pc := if q.pc = .waiting then .remove else q.pc }
      else q
  | .test =>
      if q.pc = .test then
        if q.list_empty then { q with can_close := true, pc := .toWait }
        else { q with pc := .remove }
      else q
  | .wait => if q.pc = .toWait then { q with pc := .waiting } else q
  | .wake => if q.pc = .waiting then { q with pc := .remove } else q
  | .remove =>
      if q.pc = .remove then
        -- whatever follows the head is taken for a package
        { q with
          can_close := false
          links := q.links.unlink (q.links.next trans_list)
          pc := .process (q.links.next trans_list) }
      else q
  | .process o =>
      match q.pc with
      | .process node =>
          { q with
            pc := .test
            handled := q.handled ++ [(node, q.data node)]
            replies := q.replies ++ [translate (q.data node) o] }
      | _ => q

def current (q : RequestQueue) : List (Nat × TransData) :=
  match q.pc with
  | .process node => [(node, q.data node)]
  | _ => []

/-- Only packages that were handed over are taken out, in the order in which they came and each once;
each has one reply, on its own descriptor; and when neither thread has anything left to do, all of
them have been carried out. -/
def Served (q : RequestQueue) : Prop :=
  q.handled ++ q.current <+: q.sent ∧
    q.replies.map Reply.client_fd = q.handled.map (fun p => p.2.client_fd) ∧
    q.pc ≠ .process trans_list ∧
    (q.pc = .waiting → q.signalling = false → q.handled = q.sent)

/-- The memory of a package is not that of `trans_list` or of a package still in use. -/
def Allocated (q : RequestQueue) : QueueEvent → Prop
  | .send node _ => q.signalling = false →
      node ≠ trans_list ∧ node ∉ (q.sent.drop q.handled.length).map Prod.fst
  | _ => True

/-- `translate_thread` comes to the removal only with a package in the list, and does not go to sleep
on one whose signal has already been sent. -/
def InTime (q : RequestQueue) : QueueEvent → Prop
  | .wait => q.pc = .toWait → q.list_empty = true ∨ q.signalling = true
  | .remove => q.pc = .remove → q.list_empty = false
  | _ => True

instance (q : RequestQueue) : Decidable q.Served :=
  inferInstanceAs (Decidable (_ ∧ _))

instance (q : RequestQueue) : (e : QueueEvent) → Decidable (q.Allocated e)
  | .send _ _ => inferInstanceAs (Decidable (_ → _))
  | .signal => inferInstanceAs (Decidable True)
  | .test => inferInstanceAs (Decidable True)
  | .wait => inferInstanceAs (Decidable True)
  | .wake => inferInstanceAs (Decidable True)
  | .remove => inferInstanceAs (Decidable True)
  | .process _ => inferInstanceAs (Decidable True)

instance (q : RequestQueue) : (e : QueueEvent) → Decidable (q.InTime e)
  | .wait => inferInstanceAs (Decidable (_ → _))
  | .remove => inferInstanceAs (Decidable (_ → _))
  | .send _ _ => inferInstanceAs (Decidable True)
  | .signal => inferInstanceAs (Decidable True)
  | .test => inferInstanceAs (Decidable True)
  | .wake => inferInstanceAs (Decidable True)
  | .process _ => inferInstanceAs (Decidable True)

/-! ## The queue behind the pointers -/

/-- The list holds the packages that were handed over and not yet taken out. -/
structure Inv (q : RequestQueue) (nodes : List Nat) : Prop where
  holds : q.links.Holds trans_list nodes
  sent : q.sent = q.handled ++ q.current ++ nodes.map fun n => (n, q.data n)
  replies : q.replies.map Reply.client_fd = q.handled.map fun p => p.2.client_fd
  process : ∀ n, q.pc = .process n → n ∉ trans_list :: nodes
  waiting : q.pc = .waiting → q.signalling = false → nodes = []

theorem Inv.served {q : RequestQueue} {nodes : List Nat} (h : q.Inv nodes) : q.Served := by
  refine ⟨?_, h.replies, ?_, ?_⟩
  · rw [h.sent]
    exact List.prefix_append _ _
  · intro hpc
    exact h.process trans_list hpc (by simp)
  · intro hpc hsig
    rw [h.sent, h.waiting hpc hsig]
    simp [current, hpc]

theorem Inv.list_empty_iff {q : RequestQueue} {nodes : List Nat} (h : q.Inv nodes) :
    q.list_empty = true ↔ nodes = [] :=
  h.holds.isAlone_iff

/-- A step that moves `translate_thread` between states in which it has no package. -/
theorem Inv.move {q q' : RequestQueue} {nodes : List Nat} (h : q.Inv nodes)
    (hlinks : q'.links = q.links) (hdata : q'.data = q.data) (hsent : q'.sent = q.sent)
    (hhandled : q'.handled = q.handled) (hreplies : q'.replies = q.replies)
    (hcurrent : q'.current = q.current)
    (hprocess : ∀ n, q'.pc = .process n → q.pc = .process n)
    (hwaiting : q'.pc = .waiting → q'.signalling = false → nodes = []) : q'.Inv nodes where
  holds := hlinks ▸ h.holds
  sent := by
    rw [hsent, hhandled, hcurrent, hdata]
    exact h.sent
  replies := by
    rw [hreplies, hhandled]
    exact h.replies
  process := fun n hpc => h.process n (hprocess n hpc)
  waiting := hwaiting

theorem Inv.send {q : RequestQueue} {nodes : List Nat} (h : q.Inv nodes) {node : Nat}
    {data : TransData} (hsig : q.signalling = false) (halloc : q.Allocated (.send node data)) :
    (q.step (.send node data)).Inv (nodes ++ [node]) := by
  obtain ⟨hhead, hfree⟩ := halloc hsig
  have hpending : q.sent.drop q.handled.length =
      q.current ++ nodes.map fun n => (n, q.data n) := by
    rw [h.sent, List.append_assoc, List.drop_left]
  rw [hpending, List.map_append, List.mem_append, not_or] at hfree
  have hnodes : node ∉ nodes := by
    intro hmem
    refine hfree.2 ?_
    rw [List.map_map]
    simpa using hmem
  have hnot : node ∉ trans_list :: nodes := by simp [hhead, hnodes]
  have hold : ∀ n ∈ nodes, update q.data node data n = q.data n := by
    intro n hn
    apply update_of_ne
    rintro rfl
    exact hnodes hn
  have hcurrent : ∀ n, q.pc = .process n → n ≠ node := by
    rintro n hpc rfl
    exact hfree.1 (by simp [current, hpc])
  have hstep : q.step (.send node data) =
      { q with
        links := (q.links.selfLink node).linkBefore trans_list node
        data := update q.data node data
        signalling := true
        sent := q.sent ++ [(node, data)] } := by simp [step, hsig]
  rw [hstep]
  refine ⟨(h.holds.selfLink hnot).linkBefore hnot, ?_, h.replies, ?_, ?_⟩
  · change q.sent ++ [(node, data)] = _
    have hcur : (q.step (.send node data)).current = q.current := by
      rw [hstep]
      unfold current
      dsimp only
      split
      · rename_i n hn
        rw [update_of_ne (hcurrent n hn)]
      · rfl
    have hmap : (nodes.map fun n => (n, q.data n)) =
        nodes.map fun n => (n, update q.data node data n) :=
      List.map_congr_left fun n hn => by rw [hold n hn]
    rw [hstep] at hcur
    rw [hcur, h.sent, hmap, List.map_append]
    simp
  · intro n hpc
    have hn := h.process n hpc
    have hne := hcurrent n hpc
    simp only [List.mem_cons, List.mem_append, List.not_mem_nil, or_false, not_or] at hn ⊢
    exact ⟨hn.1, hn.2, hne⟩
  · intro _ hsig'
    cases hsig'

theorem Inv.remove {q : RequestQueue} {nodes : List Nat} (h : q.Inv nodes) (hpc : q.pc = .remove)
    (hne : q.list_empty = false) : ∃ rest, (q.step .remove).Inv rest := by
  cases nodes with
  | nil => simp [h.list_empty_iff.mpr rfl] at hne
  | cons n rest =>
      have hnext : q.links.next trans_list = n := h.holds.next_head
      have hstep : q.step .remove =
          { q with can_close := false, links := q.links.unlink n, pc := .process n } := by
        simp [step, hpc, hnext]
      rw [hstep]
      refine ⟨rest, h.holds.unlink, ?_, h.replies, ?_, ?_⟩
      · change q.sent = q.handled ++ [(n, q.data n)] ++ _
        rw [h.sent]
        simp [current, hpc]
      · rintro m ⟨⟩
        obtain ⟨hhead, hrest⟩ := List.nodup_cons.mp h.holds.nodup
        obtain ⟨hn, -⟩ := List.nodup_cons.mp hrest
        simp only [List.mem_cons, not_or] at hhead ⊢
        exact ⟨Ne.symm hhead.1, hn⟩
      · rintro ⟨⟩

theorem Inv.process_package {q : RequestQueue} {nodes : List Nat} (h : q.Inv nodes) (o : Outcome) :
    (q.step (.process o)).Inv nodes := by
  cases hpc : q.pc with
  | process n =>
      have hstep : q.step (.process o) =
          { q with
            pc := .test
            handled := q.handled ++ [(n, q.data n)]
            replies := q.replies ++ [translate (q.data n) o] } := by simp [step, hpc]
      rw [hstep]
      refine ⟨h.holds, ?_, ?_, ?_, ?_⟩
      · change q.sent = (q.handled ++ [(n, q.data n)]) ++ [] ++ _
        rw [h.sent]
        simp [current, hpc]
      · simp [h.replies, translate_client_fd]
      · rintro m ⟨⟩
      · rintro ⟨⟩
  | test => simpa [step, hpc] using h
  | toWait => simpa [step, hpc] using h
  | waiting => simpa [step, hpc] using h
  | remove => simpa [step, hpc] using h

theorem Inv.step {q : RequestQueue} {nodes : List Nat} (h : q.Inv nodes) {e : QueueEvent}
    (halloc : q.Allocated e) (htime : q.InTime e) : ∃ nodes', (q.step e).Inv nodes' := by
  cases e with
  | send node data =>
      cases hsig : q.signalling with
      | true => exact ⟨nodes, by simpa [RequestQueue.step, hsig] using h⟩
      | false => exact ⟨_, h.send hsig halloc⟩
  | signal =>
      refine ⟨nodes, ?_⟩
      simp only [RequestQueue.step]
      split
      · by_cases hpc : q.pc = .waiting
        · apply h.move <;> simp [hpc, current]
        · apply h.move <;> simp [hpc, current]
      · exact h
  | test =>
      refine ⟨nodes, ?_⟩
      simp only [RequestQueue.step]
      split
      · rename_i hpc
        split
        · apply h.move <;> simp [hpc, current]
        · apply h.move <;> simp [hpc, current]
      · exact h
  | wait =>
      refine ⟨nodes, ?_⟩
      simp only [RequestQueue.step]
      split
      · rename_i hpc
        apply h.move <;> simp [hpc, current]
        -- asleep with nothing to be signalled, the list is empty
        intro hsig
        rcases htime hpc with hempty | hsig'
        · exact h.list_empty_iff.mp hempty
        · rw [hsig] at hsig'
          cases hsig'
      · exact h
  | wake =>
      refine ⟨nodes, ?_⟩
      simp only [RequestQueue.step]
      split
      · rename_i hpc
        apply h.move <;> simp [hpc, current]
      · exact h
  | remove =>
      by_cases hpc : q.pc = .remove
      · exact h.remove hpc (htime hpc)
      · exact ⟨nodes, by simpa [RequestQueue.step, hpc] using h⟩
  | process o => exact ⟨nodes, h.process_package o⟩

/-- Asleep on a package that nobody will signal again, or with the list head in hand. -/
theorem Inv.inTime {q : RequestQueue} {nodes : List Nat} (h : q.Inv nodes) {e : QueueEvent}
    (hserved : (q.step e).Served) : q.InTime e := by
  cases e with
  | send node data => trivial
  | signal => trivial
  | test => trivial
  | wake => trivial
  | process o => trivial
  | wait =>
      intro hpc
      cases hsig : q.signalling with
      | true => exact Or.inr rfl
      | false =>
          left
          rw [h.list_empty_iff]
          have hall : q.handled = q.sent := by
            have := hserved.2.2.2
            simpa [RequestQueue.step, hpc, hsig] using this
          have hsent := h.sent
          rw [← hall, List.append_assoc, List.self_eq_append_right] at hsent
          simpa using (List.append_eq_nil_iff.mp hsent).2
  | remove =>
      intro hpc
      by_contra hempty
      rw [Bool.not_eq_false, h.list_empty_iff] at hempty
      subst hempty
      have hnext : q.links.next trans_list = trans_list := h.holds.seg.1
      refine hserved.2.2.1 ?_
      simp [RequestQueue.step, hpc, hnext]

/-- In every interleaving in which the memory of packages is not shared, the packages are served in
order, each once and with one reply, exactly when `translate_thread` finds a package each time it
comes to the removal and never goes to sleep on a package whose signal is already gone. -/
theorem request_queue_served_iff (events : List QueueEvent)
    (halloc : Guarded step (fun _ q e => q.Allocated e) {} events) :
    Guarded step (fun _ q e => (q.step e).Served) {} events ↔
      Guarded step (fun _ q e => q.InTime e) {} events := by
  refine guarded_iff_of_valid (fun _ q => ∃ nodes, q.Inv nodes) ?_ ?_ ?_ halloc
  · refine ⟨[], ⟨⟨rfl, rfl⟩, by simp⟩, rfl, rfl, ?_, ?_⟩
    · rintro n ⟨⟩
    · rintro ⟨⟩
  · rintro _ q e ⟨nodes, h⟩ ha htime
    exact h.step ha htime
  · rintro _ q e ⟨nodes, h⟩ ha
    refine ⟨h.inTime, fun htime => ?_⟩
    obtain ⟨nodes', h'⟩ := h.step ha htime
    exact h'.served

theorem request_queue_served_two_packages :
    Guarded step (fun _ q e => (q.step e).Served) {}
      [.test, .wait, .send 1 ⟨5, 1, 14⟩, .signal, .send 2 ⟨7, 9, 14⟩, .remove, .process {},
        .signal, .test, .remove, .send 1 ⟨5, 0, 10⟩, .process {}, .test, .signal, .remove,
        .process {}, .test, .wait] :=
  (request_queue_served_iff _ (by decide)).mpr (by decide)

/-- The signal of a package comes when the package has already been carried out: the thread wakes up
with an empty list and takes `trans_list` itself for a package. -/
theorem request_queue_takes_head :
    Guarded step (fun _ q e => q.Allocated e) {}
        [.send 1 ⟨5, 0, 10⟩, .test, .remove, .process {}, .test, .wait, .signal, .remove] ∧
      ¬ Guarded step (fun _ q e => (q.step e).Served) {}
        [.send 1 ⟨5, 0, 10⟩, .test, .remove, .process {}, .test, .wait, .signal, .remove] := by
  decide

end RequestQueue

end AwHal.Pq
