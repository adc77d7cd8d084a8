import Mathlib.Data.Finset.Card
import Mathlib.Data.Finset.Image
import Mathlib.Data.Int.Basic
import AwHal.Lib.GuardedRun

/-!
# The connection table of the PQ daemon

`main` accepts clients and announces each of them to `connect_thread` over a socket pair.
`connect_thread` keeps the clients in `con_fd` and their number in `alive_connect_thread`: it enters
a client that is announced, takes out one that disconnects and empties the table when nothing has
happened for a while.
-/

namespace AwHal.Pq

open AwHal.Lib Function

def MAX_SOCKET_CONNECT_COUNT : Nat := 3

structure ConnectionTable where
  con_fd : Nat → Int := fun _ => -1
  alive_connect_thread : Int := 0

namespace ConnectionTable

/-- The loop that looks for an entry that is not in use; `MAX_SOCKET_CONNECT_COUNT` if all are. -/
def freeEntry (c : ConnectionTable) : Nat :=
  ((List.range MAX_SOCKET_CONNECT_COUNT).find? fun t => decide (c.con_fd t ≤ 0)).getD
    MAX_SOCKET_CONNECT_COUNT

def notify (c : ConnectionTable) (fd : Int) : ConnectionTable :=
  if c.alive_connect_thread < MAX_SOCKET_CONNECT_COUNT then
    let t := c.freeEntry
    if t < MAX_SOCKET_CONNECT_COUNT ∧ 0 < fd then
      { con_fd := update c.con_fd t fd, alive_connect_thread := c.alive_connect_thread + 1 }
    else c
  else c

/-- The client of the event at position `i` of the batch has disconnected.  The loop runs over `t` but
compares the entry `i`. -/
def disconnect (c : ConnectionTable) (i : Nat) (client_fd : Int) : ConnectionTable :=
  (List.range MAX_SOCKET_CONNECT_COUNT).foldl
    (fun c t =>
      if c.con_fd i = client_fd then
        { con_fd := update c.con_fd t (-1), alive_connect_thread := c.alive_connect_thread - 1 }
      else c) c

def timeOut (c : ConnectionTable) : ConnectionTable :=
  { con_fd := fun t => if t < MAX_SOCKET_CONNECT_COUNT then -1 else c.con_fd t
    alive_connect_thread := 0 }

end ConnectionTable

/-- What `connect_thread` handles, one after another.  `i` is the position of the event in the batch
that `epoll_wait` has returned, and `can_close` the flag that the translating thread sets. -/
inductive ConnectEvent where
  | notify (fd : Int)
  | data (i : Nat) (client_fd : Int)
  | disconnect (i : Nat) (client_fd : Int) (can_close : Bool)
  | timeOut (can_close : Bool)
deriving DecidableEq, Repr

/-- The table, and the clients that were admitted and are not gone. -/
structure Connections where
  table : ConnectionTable := {}
  connected : Finset Int := ∅

namespace Connections

/-- A client is admitted while there are fewer than `MAX_SOCKET_CONNECT_COUNT`; it is gone once it
has disconnected or the daemon has dropped it in a time-out. -/
def connectedStep (connected : Finset Int) : ConnectEvent → Finset Int
  | .notify fd =>
      if connected.card < MAX_SOCKET_CONNECT_COUNT ∧ 0 < fd then insert fd connected else connected
  | .data _ _ => connected
  | .disconnect _ fd can_close => if can_close then connected.erase fd else connected
  | .timeOut can_close => if can_close then ∅ else connected

def step (s : Connections) (e : ConnectEvent) : Connections where
  table :=
    match e with
    | .notify fd => s.table.notify fd
    | .data _ _ => s.table
    | .disconnect i fd can_close => if can_close then s.table.disconnect i fd else s.table
    | .timeOut can_close => if can_close then s.table.timeOut else s.table
  connected := connectedStep s.connected e

def live (c : ConnectionTable) : Finset Nat :=
  (Finset.range MAX_SOCKET_CONNECT_COUNT).filter fun t => 0 < c.con_fd t

/-- The counter is the number of entries in use, and these hold the clients that are connected. -/
def Tracks (s : Connections) : Prop :=
  s.table.alive_connect_thread = (live s.table).card ∧
    (live s.table).image s.table.con_fd = s.connected

/-- A client that is announced while fewer than `MAX_SOCKET_CONNECT_COUNT` are connected is
registered. -/
def Registers (s : Connections) : ConnectEvent → Prop
  | .notify fd => 0 < fd → s.connected.card < MAX_SOCKET_CONNECT_COUNT →
      fd ∈ (live (s.step (.notify fd)).table).image (s.step (.notify fd)).table.con_fd
  | _ => True

/-- What the kernel promises: a descriptor that is accepted is not one of a client that is connected,
and events come for descriptors that were opened. -/
def Valid (s : Connections) : ConnectEvent → Prop
  | .notify fd => fd ∉ s.connected
  | .disconnect _ fd _ => 0 ≤ fd
  | _ => True

/-- A client that disconnects is the one of the first entry, and its event is the first of the
batch. -/
def FirstOfBatch (s : Connections) : ConnectEvent → Prop
  | .disconnect i fd can_close =>
      can_close = true → fd ∈ s.connected → i = 0 ∧ s.table.con_fd 0 = fd
  | _ => True

instance (s : Connections) : Decidable s.Tracks :=
  inferInstanceAs (Decidable (_ ∧ _))

instance (s : Connections) : (e : ConnectEvent) → Decidable (s.Registers e)
  | .notify _ => inferInstanceAs (Decidable (_ → _ → _))
  | .data _ _ => inferInstanceAs (Decidable True)
  | .disconnect _ _ _ => inferInstanceAs (Decidable True)
  | .timeOut _ => inferInstanceAs (Decidable True)

instance (s : Connections) : (e : ConnectEvent) → Decidable (s.Valid e)
  | .notify _ => inferInstanceAs (Decidable (_ ∉ _))
  | .data _ _ => inferInstanceAs (Decidable True)
  | .disconnect _ _ _ => inferInstanceAs (Decidable (_ ≤ _))
  | .timeOut _ => inferInstanceAs (Decidable True)

instance (s : Connections) : (e : ConnectEvent) → Decidable (s.FirstOfBatch e)
  | .disconnect _ _ _ => inferInstanceAs (Decidable (_ → _ → _))
  | .notify _ => inferInstanceAs (Decidable True)
  | .data _ _ => inferInstanceAs (Decidable True)
  | .timeOut _ => inferInstanceAs (Decidable True)

/-! ## Operations on the table -/

theorem mem_live {c : ConnectionTable} {t : Nat} :
    t ∈ live c ↔ t < MAX_SOCKET_CONNECT_COUNT ∧ 0 < c.con_fd t := by
  simp [live]

theorem freeEntry_spec {c : ConnectionTable} (h : (live c).card < MAX_SOCKET_CONNECT_COUNT) :
    c.freeEntry < MAX_SOCKET_CONNECT_COUNT ∧ c.con_fd c.freeEntry ≤ 0 := by
  unfold ConnectionTable.freeEntry
  cases hfind : (List.range MAX_SOCKET_CONNECT_COUNT).find? fun t => decide (c.con_fd t ≤ 0) with
  | some t =>
      have hle := List.find?_some hfind
      have hmem := List.mem_of_find?_eq_some hfind
      simp only [Option.getD_some]
      exact ⟨List.mem_range.mp hmem, of_decide_eq_true hle⟩
  | none =>
      -- with no free entry every entry is in use
      have hall : live c = Finset.range MAX_SOCKET_CONNECT_COUNT := by
        refine Finset.filter_true_of_mem fun t ht => ?_
        have hnone := List.find?_eq_none.mp hfind t (List.mem_range.mpr (Finset.mem_range.mp ht))
        simpa using hnone
      rw [hall, Finset.card_range] at h
      exact absurd h (Nat.lt_irrefl _)

theorem disconnect_of_ne {c : ConnectionTable} {i : Nat} {fd : Int} (h : c.con_fd i ≠ fd) :
    c.disconnect i fd = c := by
  simp [ConnectionTable.disconnect, MAX_SOCKET_CONNECT_COUNT, List.range_succ, h]

/-- The first `i + 1` entries are cleared, and each of them is counted. -/
theorem disconnect_of_eq {c : ConnectionTable} {i : Nat} {fd : Int} (hfd : 0 ≤ fd)
    (hi : i < MAX_SOCKET_CONNECT_COUNT) (h : c.con_fd i = fd) :
    (c.disconnect i fd).con_fd = (fun t => if t ≤ i then -1 else c.con_fd t) ∧
      (c.disconnect i fd).alive_connect_thread = c.alive_connect_thread - (i + 1) := by
  have hne : (-1 : Int) ≠ fd := by omega
  have hcases : i = 0 ∨ i = 1 ∨ i = 2 := by
    simp only [MAX_SOCKET_CONNECT_COUNT] at hi
    omega
  rcases hcases with rfl | rfl | rfl
  · constructor
    · funext t
      simp [ConnectionTable.disconnect, MAX_SOCKET_CONNECT_COUNT, List.range_succ, h, hne,
        update_apply]
    · simp [ConnectionTable.disconnect, MAX_SOCKET_CONNECT_COUNT, List.range_succ, h, hne]
  · constructor
    · funext t
      simp [ConnectionTable.disconnect, MAX_SOCKET_CONNECT_COUNT, List.range_succ, h, hne,
        update_apply]
      grind
    · simp [ConnectionTable.disconnect, MAX_SOCKET_CONNECT_COUNT, List.range_succ, h, hne]
      omega
  · constructor
    · funext t
      simp [ConnectionTable.disconnect, MAX_SOCKET_CONNECT_COUNT, List.range_succ, h, update_apply]
      grind
    · simp [ConnectionTable.disconnect, MAX_SOCKET_CONNECT_COUNT, List.range_succ, h]
      omega

/-! ## The invariant -/

/-- The table tracks the clients, no client is in two entries, and what is not in use is `-1`. -/
structure Inv (s : Connections) : Prop where
  tracks : s.Tracks
  inj : Set.InjOn s.table.con_fd (live s.table)
  unused : ∀ t, t ∉ live s.table → s.table.con_fd t = -1

theorem Inv.card_connected {s : Connections} (h : s.Inv) :
    s.connected.card = (live s.table).card := by
  rw [← h.tracks.2]
  exact Finset.card_image_of_injOn h.inj

theorem Inv.mem_connected {s : Connections} (h : s.Inv) {t : Nat} (ht : t ∈ live s.table) :
    s.table.con_fd t ∈ s.connected := by
  rw [← h.tracks.2]
  exact Finset.mem_image_of_mem _ ht

theorem Inv.mem_live_of_nonneg {s : Connections} (h : s.Inv) {t : Nat}
    (ht : 0 ≤ s.table.con_fd t) : t ∈ live s.table := by
  by_contra hnot
  have hunused := h.unused t hnot
  omega

theorem Inv.enter {s : Connections} (h : s.Inv) {fd : Int} (hfd : 0 < fd)
    (hvalid : fd ∉ s.connected) {t : Nat} (ht : t < MAX_SOCKET_CONNECT_COUNT)
    (hfree : s.table.con_fd t ≤ 0) :
    Inv { table :=
            { con_fd := update s.table.con_fd t fd
              alive_connect_thread := s.table.alive_connect_thread + 1 }
          connected := insert fd s.connected } := by
  have hnot : t ∉ live s.table := by
    rw [mem_live]
    omega
  have hold : ∀ t' ∈ live s.table, update s.table.con_fd t fd t' = s.table.con_fd t' := by
    rintro t' ht'
    apply update_of_ne
    rintro rfl
    exact hnot ht'
  have hlive : ∀ alive,
      live ⟨update s.table.con_fd t fd, alive⟩ = insert t (live s.table) := by
    intro alive
    ext t'
    rw [Finset.mem_insert, mem_live, mem_live]
    rcases eq_or_ne t' t with rfl | hne
    · simp [ht, hfd]
    · simp [hne]
  refine ⟨⟨?_, ?_⟩, ?_, ?_⟩
  · rw [hlive, Finset.card_insert_of_notMem hnot]
    change s.table.alive_connect_thread + 1 = _
    rw [h.tracks.1]
    rfl
  · rw [hlive]
    change Finset.image (update s.table.con_fd t fd) _ = _
    rw [Finset.image_insert, update_self, ← h.tracks.2]
    exact congrArg (insert fd) (Finset.image_congr hold)
  · rw [hlive, Finset.coe_insert]
    change Set.InjOn (update s.table.con_fd t fd) _
    rw [Set.injOn_insert (by simpa using hnot)]
    constructor
    · exact h.inj.congr fun t' ht' => (hold t' ht').symm
    · -- the client that is new is in no entry yet
      rintro ⟨t', ht', heq⟩
      rw [update_self, hold t' ht'] at heq
      exact hvalid (heq ▸ h.mem_connected ht')
  · intro t' ht'
    rw [hlive, Finset.mem_insert, not_or] at ht'
    change update s.table.con_fd t fd t' = -1
    rw [update_of_ne ht'.1]
    exact h.unused t' ht'.2

theorem Inv.alive_lt {s : Connections} (h : s.Inv) :
    s.table.alive_connect_thread < MAX_SOCKET_CONNECT_COUNT ↔
      s.connected.card < MAX_SOCKET_CONNECT_COUNT := by
  rw [h.tracks.1, h.card_connected]
  exact Int.ofNat_lt

theorem Inv.notify {s : Connections} (h : s.Inv) {fd : Int} (hvalid : fd ∉ s.connected) :
    (s.step (.notify fd)).Inv ∧ s.Registers (.notify fd) := by
  by_cases hadmit : s.connected.card < MAX_SOCKET_CONNECT_COUNT ∧ 0 < fd
  · obtain ⟨hlt, hle⟩ := freeEntry_spec (h.card_connected ▸ hadmit.1)
    have hstep : s.step (.notify fd) =
        { table :=
            { con_fd := update s.table.con_fd s.table.freeEntry fd
              alive_connect_thread := s.table.alive_connect_thread + 1 }
          connected := insert fd s.connected } := by
      simp [step, ConnectionTable.notify, connectedStep, hadmit, h.alive_lt.mpr hadmit.1, hlt]
    have hinv : (s.step (.notify fd)).Inv := hstep ▸ h.enter hadmit.2 hvalid hlt hle
    refine ⟨hinv, fun _ _ => ?_⟩
    rw [hinv.tracks.2, hstep]
    exact Finset.mem_insert_self _ _
  · have htable : s.table.notify fd = s.table := by
      unfold ConnectionTable.notify
      split
      · rename_i halive
        have hfd : ¬ 0 < fd := fun hfd => hadmit ⟨h.alive_lt.mp halive, hfd⟩
        simp [hfd]
      · rfl
    have hstep : s.step (.notify fd) = s := by simp [step, htable, connectedStep, hadmit]
    refine ⟨by rwa [hstep], fun hfd hcard => absurd ⟨hcard, hfd⟩ hadmit⟩

/-- The client of the first entry disconnects in the first event of a batch. -/
theorem Inv.disconnect_first {s : Connections} (h : s.Inv) {fd : Int} (hfd : 0 ≤ fd)
    (hentry : s.table.con_fd 0 = fd) : (s.step (.disconnect 0 fd true)).Inv := by
  have hmem : 0 ∈ live s.table := h.mem_live_of_nonneg (hentry ▸ hfd)
  obtain ⟨hcon, halive⟩ := disconnect_of_eq hfd (mem_live.mp hmem).1 hentry
  have hcon_fd : (s.step (.disconnect 0 fd true)).table.con_fd = update s.table.con_fd 0 (-1) := by
    change (s.table.disconnect 0 fd).con_fd = _
    rw [hcon]
    funext t
    simp [update_apply]
  have hlive : live (s.step (.disconnect 0 fd true)).table = (live s.table).erase 0 := by
    ext t
    rw [Finset.mem_erase, mem_live, mem_live, hcon_fd]
    rcases eq_or_ne t 0 with rfl | hne
    · simp
    · simp [hne]
  have hold : ∀ t ∈ (live s.table).erase 0, update s.table.con_fd 0 (-1) t = s.table.con_fd t :=
    fun t ht => update_of_ne (Finset.ne_of_mem_erase ht) ..
  have hsub : ((live s.table).erase 0 : Set Nat) ⊆ live s.table :=
    Finset.coe_subset.mpr (Finset.erase_subset 0 _)
  refine ⟨⟨?_, ?_⟩, ?_, ?_⟩
  · have hcard := Finset.card_erase_add_one hmem
    rw [hlive]
    change (s.table.disconnect 0 fd).alive_connect_thread = _
    rw [halive, h.tracks.1]
    omega
  · rw [hlive, hcon_fd, Finset.image_congr hold]
    change _ = s.connected.erase fd
    ext fd'
    simp only [Finset.mem_image, Finset.mem_erase, ← h.tracks.2]
    constructor
    · rintro ⟨t, ⟨hne, ht⟩, rfl⟩
      refine ⟨fun heq => hne ?_, t, ht, rfl⟩
      exact h.inj ht hmem (heq.trans hentry.symm)
    · rintro ⟨hne, t, ht, rfl⟩
      refine ⟨t, ⟨?_, ht⟩, rfl⟩
      rintro rfl
      exact hne hentry
  · rw [hlive, hcon_fd]
    exact (h.inj.mono hsub).congr fun t ht => (hold t ht).symm
  · intro t ht
    rw [hlive, Finset.mem_erase, not_and_or, not_not] at ht
    rw [hcon_fd]
    rcases ht with rfl | ht
    · exact update_self ..
    · rcases eq_or_ne t 0 with rfl | hne
      · exact update_self ..
      · rw [update_of_ne hne]
        exact h.unused t ht

/-- A client that is not in the table changes nothing. -/
theorem Inv.disconnect_unknown {s : Connections} (h : s.Inv) {i : Nat} {fd : Int} (hfd : 0 ≤ fd)
    (hnot : fd ∉ s.connected) : (s.step (.disconnect i fd true)).Inv := by
  have hne : s.table.con_fd i ≠ fd := by
    rintro rfl
    exact hnot (h.mem_connected (h.mem_live_of_nonneg hfd))
  have hstep : s.step (.disconnect i fd true) = s := by
    simp [step, connectedStep, disconnect_of_ne hne, Finset.erase_eq_of_notMem hnot]
  rwa [hstep]

theorem Inv.timeOut {s : Connections} (h : s.Inv) : (s.step (.timeOut true)).Inv := by
  have hcon : ∀ t, (s.step (.timeOut true)).table.con_fd t = -1 := by
    intro t
    change (if t < MAX_SOCKET_CONNECT_COUNT then -1 else s.table.con_fd t) = -1
    split
    · rfl
    · rename_i hge
      exact h.unused t fun hmem => hge (mem_live.mp hmem).1
  have hlive : live (s.step (.timeOut true)).table = ∅ := by
    ext t
    simp [mem_live, hcon]
  refine ⟨⟨?_, ?_⟩, ?_, fun t _ => hcon t⟩
  · rw [hlive]
    rfl
  · rw [hlive]
    rfl
  · rw [hlive]
    simp

theorem Inv.step {s : Connections} (h : s.Inv) {e : ConnectEvent} (hvalid : s.Valid e)
    (hfirst : s.FirstOfBatch e) : (s.step e).Inv ∧ s.Registers e := by
  cases e with
  | notify fd => exact h.notify hvalid
  | data i fd => exact ⟨h, trivial⟩
  | disconnect i fd can_close =>
      refine ⟨?_, trivial⟩
      cases can_close with
      | false => exact h
      | true =>
          by_cases hmem : fd ∈ s.connected
          · obtain ⟨rfl, hentry⟩ := hfirst rfl hmem
            exact h.disconnect_first hvalid hentry
          · exact h.disconnect_unknown hvalid hmem
  | timeOut can_close =>
      refine ⟨?_, trivial⟩
      cases can_close with
      | false => exact h
      | true => exact h.timeOut

/-- Any other client that disconnects either stays in the table or takes the entries before its own
with it. -/
theorem Inv.firstOfBatch {s : Connections} (h : s.Inv) {e : ConnectEvent} (hvalid : s.Valid e)
    (htracks : (s.step e).Tracks) : s.FirstOfBatch e := by
  cases e with
  | notify fd => trivial
  | data i fd => trivial
  | timeOut can_close => trivial
  | disconnect i fd can_close =>
      rintro rfl hmem
      have himage : (live (s.table.disconnect i fd)).image (s.table.disconnect i fd).con_fd =
          s.connected.erase fd := htracks.2
      have hcount : (s.table.disconnect i fd).alive_connect_thread =
          (live (s.table.disconnect i fd)).card := htracks.1
      by_cases hentry : s.table.con_fd i = fd
      · have hi := h.mem_live_of_nonneg (hentry ▸ hvalid)
        obtain ⟨hcon, halive⟩ := disconnect_of_eq hvalid (mem_live.mp hi).1 hentry
        have hlive : live (s.table.disconnect i fd) = (live s.table).filter (i < ·) := by
          ext t
          rw [Finset.mem_filter, mem_live, mem_live, hcon]
          by_cases hle : t ≤ i
          · simp [hle]
          · simp [hle, Nat.lt_of_not_le hle]
        -- all of the entries up to `i` were counted, so all of them were in use
        have hfull : (live s.table).filter (¬ i < ·) = Finset.range (i + 1) := by
          have hsplit := Finset.card_filter_add_card_filter_not (s := live s.table) (i < ·)
          have hsub : (live s.table).filter (¬ i < ·) ⊆ Finset.range (i + 1) := by
            intro t ht
            simp only [Finset.mem_filter, Finset.mem_range] at ht ⊢
            omega
          refine Finset.eq_of_subset_of_card_le hsub ?_
          rw [Finset.card_range]
          rw [halive, hlive, h.tracks.1] at hcount
          omega
        have hzero : 0 ∈ live s.table := by
          have hmem0 : 0 ∈ Finset.range (i + 1) := Finset.mem_range.mpr (Nat.succ_pos i)
          rw [← hfull] at hmem0
          exact (Finset.mem_filter.mp hmem0).1
        have hi0 : i = 0 := by
          by_contra hne
          -- the client of entry 0 is still connected, but no longer in the table
          have hother : s.table.con_fd 0 ∈ s.connected.erase fd := by
            refine Finset.mem_erase.mpr ⟨fun heq => hne ?_, h.mem_connected hzero⟩
            exact h.inj hi hzero (hentry.trans heq.symm)
          rw [← himage, hlive] at hother
          obtain ⟨t, ht, heq⟩ := Finset.mem_image.mp hother
          obtain ⟨ht, hlt⟩ := Finset.mem_filter.mp ht
          rw [hcon] at heq
          simp only [Nat.not_le.mpr hlt, if_false] at heq
          have := h.inj ht hzero heq
          omega
        exact ⟨hi0, hi0 ▸ hentry⟩
      · rw [disconnect_of_ne hentry, h.tracks.2] at himage
        exact absurd (himage ▸ hmem) (Finset.notMem_erase fd _)

/-- In a run in which the kernel hands out descriptors that are free, the table and the counter follow
the clients exactly when each client that disconnects is the one of the first entry and its event
the first of its batch. -/
theorem connection_table_tracks_iff (events : List ConnectEvent)
    (hvalid : Guarded step (fun _ s e => s.Valid e) {} events) :
    Guarded step (fun _ s e => (s.step e).Tracks ∧ s.Registers e) {} events ↔
      Guarded step (fun _ s e => s.FirstOfBatch e) {} events := by
  refine guarded_iff_of_valid (fun _ s => s.Inv) ?_ ?_ ?_ hvalid
  · exact ⟨⟨rfl, rfl⟩, by simp [live], fun _ _ => rfl⟩
  · intro _ s e h hv hfirst
    exact (h.step hv hfirst).1
  · intro _ s e h hv
    refine ⟨fun hok => h.firstOfBatch hv hok.1, fun hfirst => ?_⟩
    obtain ⟨hinv, hregisters⟩ := h.step hv hfirst
    exact ⟨hinv.tracks, hregisters⟩

theorem connection_table_tracks_first_client :
    Guarded step (fun _ s e => (s.step e).Tracks ∧ s.Registers e) {}
      [.notify 5, .notify 7, .data 0 7, .disconnect 0 5 true, .notify 5, .notify 9, .notify 11,
        .disconnect 1 11 true, .disconnect 0 5 true, .timeOut true, .notify 12] :=
  (connection_table_tracks_iff _ (by decide)).mpr (by decide)

/-- The client of the second entry disconnects, alone in its batch, and stays in the table: the fourth
client is refused although two are connected. -/
theorem connection_table_not_tracks :
    Guarded step (fun _ s e => s.Valid e) {}
        [.notify 5, .notify 7, .disconnect 0 7 true, .notify 9, .notify 11] ∧
      ¬ Guarded step (fun _ s e => (s.step e).Tracks ∧ s.Registers e) {}
        [.notify 5, .notify 7, .disconnect 0 7 true, .notify 9, .notify 11] := by
  decide

end Connections

end AwHal.Pq
