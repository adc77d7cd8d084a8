import Mathlib.Data.List.Infix
import Mathlib.Data.UInt

/-!
# Packets on a connection

The tuning server and its client exchange packets of a fixed size over a stream socket.  `sock_read`
collects the bytes of a packet from as many receive events as it takes; when the network has nothing
to offer for too long it returns with what it has, and the handlers call again.
-/

namespace AwHal.TuningApp

/-! ## Packets -/

def sizeof_sock_packet : Nat := 4 + 8 + 4 + 4 + 16 + 4 + 4

def BLOCK_MAX_LENGTH : Nat := 4096

def SERVER_SOCK_HEAD : List UInt8 := [0x41, 0x57, 0x68, 0x77]

def SOCK_CMD_CLOSE : UInt8 := 14
def SOCK_CMD_ACK : UInt8 := 16
def SOCK_CMD_ACK_STATUS : UInt8 := 20
def SOCK_CMD_RET_OK : Nat := 1

def cmd_id (packet : List UInt8) (i : Nat) : UInt8 := packet.getD (4 + i) 0

def ntohl (packet : List UInt8) (offset : Nat) : Nat :=
  ((packet.drop offset).take 4).foldl (fun n b => 256 * n + b.toNat) 0

def check_sock_packet (packet : List UInt8) (sock_cmd : UInt8) : Int :=
  if packet.take 4 ≠ SERVER_SOCK_HEAD then -1
  else if cmd_id packet 0 ≠ sock_cmd then -2
  else 0

/-! ## The network -/

inductive Errno where
  | EAGAIN | EINTR | ETIMEDOUT | ENOTCONN | other (code : Nat)
deriving DecidableEq, Repr

def SHOULD_TRY_AGAIN : Errno → Bool
  | .EAGAIN | .EINTR | .ETIMEDOUT => true
  | .ENOTCONN => false
  | .other code => code = 0

/-- What comes of waiting for data and receiving it: up to `n + 1` bytes, or no byte and an error.
The peer's orderly shutdown is the error `ENOTCONN`. -/
inductive Receive where
  | data (n : Nat)
  | fails (errno : Errno)
deriving DecidableEq, Repr

inductive ReadStatus where
  | complete | failed (errno : Errno) | waiting
deriving DecidableEq, Repr

/-- What a call has read, what ended it, and what is left of the stream and of the events. -/
structure ReadResult where
  got : List UInt8
  status : ReadStatus
  stream : List UInt8
  events : List Receive
deriving DecidableEq, Repr

/-- The events that are left decide how much each `recv` gets; with none left the call waits. -/
def sock_read : Nat → List UInt8 → List Receive → ReadResult
  | 0, stream, events => ⟨[], .complete, stream, events⟩
  | _ + 1, stream, [] => ⟨[], .waiting, stream, []⟩
  | _ + 1, stream, .fails errno :: events => ⟨[], .failed errno, stream, events⟩
  | len + 1, stream, .data n :: events =>
      let recv_ret := min (min (len + 1) BLOCK_MAX_LENGTH) (min (n + 1) stream.length)
      let r := sock_read (len + 1 - recv_ret) (stream.drop recv_ret) events
      { r with got := stream.take recv_ret ++ r.got }

inductive sock_rw_check_ret where
  | SOCK_RW_CHECK_OK | SOCK_RW_WRITE_ERROR | SOCK_RW_READ_ERROR | SOCK_RW_CHECK_ERROR
  | SOCK_RW_RECV_CLOSE | SOCK_RW_RET_ERROR | SOCK_RW_TRY_AGAIN | SOCK_RW_ACK_STATUS
deriving DecidableEq, Repr

open sock_rw_check_ret

def SHOULD_CLOSE_SOCK (ret : sock_rw_check_ret) : Bool :=
  ret = SOCK_RW_RECV_CLOSE ∨ ret = SOCK_RW_WRITE_ERROR ∨ ret = SOCK_RW_READ_ERROR

/-- What is done with a packet that was read; `wrote` is what stopped the reply to an
acknowledgement, if anything did. -/
def check_packet (packet : List UInt8) (sock_cmd : UInt8) (wrote : Option Errno) :
    sock_rw_check_ret :=
  if check_sock_packet packet SOCK_CMD_CLOSE = 0 then SOCK_RW_RECV_CLOSE
  else if check_sock_packet packet SOCK_CMD_ACK = 0 ∧ cmd_id packet 1 = SOCK_CMD_ACK_STATUS then
    match wrote with
    | none => SOCK_RW_ACK_STATUS
    | some errno => if SHOULD_TRY_AGAIN errno then SOCK_RW_TRY_AGAIN else SOCK_RW_WRITE_ERROR
  else if check_sock_packet packet sock_cmd < 0 then SOCK_RW_CHECK_ERROR
  else if ntohl packet 12 ≠ SOCK_CMD_RET_OK then SOCK_RW_RET_ERROR
  else SOCK_RW_CHECK_OK

structure Call where
  start : Nat
  stop : Nat
  ret : sock_rw_check_ret
  packet : Option (List UInt8)
deriving DecidableEq, Repr

/-- The call and what it leaves, or `none` if it waits for ever. -/
def sock_read_check_packet (sock_cmd : UInt8) (wrote : Option Errno) (start : Nat)
    (stream : List UInt8) (events : List Receive) :
    Option (Call × List UInt8 × List Receive) :=
  let r := sock_read sizeof_sock_packet stream events
  let stop := start + r.got.length
  match r.status with
  | .waiting => none
  | .failed errno =>
      let ret := if SHOULD_TRY_AGAIN errno then SOCK_RW_TRY_AGAIN else SOCK_RW_READ_ERROR
      some (⟨start, stop, ret, none⟩, r.stream, r.events)
  | .complete =>
      some (⟨start, stop, check_packet r.got sock_cmd wrote, some r.got⟩, r.stream, r.events)

/-- The first `n` calls of a handler that goes on until the socket should be closed.  The replies to
acknowledgements are written. -/
def handlerCalls (sock_cmd : UInt8) : Nat → Nat → List UInt8 → List Receive → List Call
  | 0, _, _, _ => []
  | n + 1, start, stream, events =>
      match sock_read_check_packet sock_cmd none start stream events with
      | none => []
      | some (call, stream, events) =>
          call :: if SHOULD_CLOSE_SOCK call.ret then []
            else handlerCalls sock_cmd n call.stop stream events

/-! ## Framing -/

/-- The calls return the packets in their order, and read from one packet's end to the next one's;
only a call that finds the connection broken may stop anywhere. -/
structure Framed (packets : List (List UInt8)) (calls : List Call) : Prop where
  order : calls.filterMap Call.packet <+: packets
  boundary : ∀ call ∈ calls, sizeof_sock_packet ∣ call.start ∧
    (call.ret ≠ SOCK_RW_READ_ERROR → sizeof_sock_packet ∣ call.stop)

/-- How far into a stream of `total` bytes the events lead from `pos`, packet by packet. -/
def received (total : Nat) : Nat → List Receive → Nat
  | pos, [] => pos
  | pos, .fails _ :: events => received total pos events
  | pos, .data n :: events =>
      let rest := sizeof_sock_packet - pos % sizeof_sock_packet
      received total (pos + min rest (min (n + 1) (total - pos))) events

/-- While the connection is open nothing but data comes between the first and the last byte of a
packet. -/
def Uncut (packets : List (List UInt8)) (pos : Nat) (events : List Receive) : Prop :=
  let total := sizeof_sock_packet * packets.length
  ∀ past errno rest, events = past ++ .fails errno :: rest → SHOULD_TRY_AGAIN errno →
    (∀ e, .fails e ∈ past → SHOULD_TRY_AGAIN e) →
    (∀ p ∈ packets.take (received total pos past / sizeof_sock_packet),
      check_sock_packet p SOCK_CMD_CLOSE ≠ 0) →
    sizeof_sock_packet ∣ received total pos past

@[simp] theorem sizeof_sock_packet_eq : sizeof_sock_packet = 44 := rfl

theorem received_append (total pos : Nat) (events events' : List Receive) :
    received total pos (events ++ events') =
      received total (received total pos events) events' := by
  induction events generalizing pos with
  | nil => rfl
  | cons e events ih =>
      cases e with
      | data n => exact ih _
      | fails errno => exact ih _

theorem le_received (total pos : Nat) (events : List Receive) :
    pos ≤ received total pos events := by
  induction events generalizing pos with
  | nil => exact le_rfl
  | cons e events ih =>
      cases e with
      | data n => exact (Nat.le_add_right _ _).trans (ih _)
      | fails errno => exact ih _

/-- How a read that starts at `pos` may end. -/
inductive ReadEnd (total pos len : Nat) (events : List Receive) (r : ReadResult) : Prop where
  | complete (used : List Receive) (status : r.status = .complete) (length : r.got.length = len)
      (split : events = used ++ r.events) (data : ∀ errno, .fails errno ∉ used)
      (pos_eq : received total pos used = pos + len)
  | failed (used : List Receive) (errno : Errno) (status : r.status = .failed errno)
      (length : r.got.length < len) (split : events = used ++ .fails errno :: r.events)
      (data : ∀ errno, .fails errno ∉ used)
      (pos_eq : received total pos used = pos + r.got.length)
  | waiting (status : r.status = .waiting) (data : ∀ errno, .fails errno ∉ events)

structure ReadSpec (full : List UInt8) (pos len : Nat) (events : List Receive) (r : ReadResult) :
    Prop where
  got : r.got = (full.drop pos).take r.got.length
  stream : r.stream = full.drop (pos + r.got.length)
  bound : pos + r.got.length ≤ full.length
  ends : ReadEnd full.length pos len events r

/-- A read of the rest of a packet takes the bytes that the events bring, in their order. -/
theorem sock_read_spec (full : List UInt8) (events : List Receive) (pos len : Nat)
    (hpos : pos ≤ full.length) (hlen : len = 44 - pos % 44) :
    ReadSpec full pos len events (sock_read len (full.drop pos) events) := by
  obtain ⟨len, rfl⟩ : ∃ len', len = len' + 1 := ⟨len - 1, by omega⟩
  induction events generalizing pos len with
  | nil => exact ⟨by simp [sock_read], by simp [sock_read], by simpa [sock_read] using hpos,
      .waiting rfl (by simp)⟩
  | cons e events ih =>
      cases e with
      | fails errno =>
          refine ⟨by simp [sock_read], by simp [sock_read], by simpa [sock_read] using hpos, ?_⟩
          exact .failed [] errno rfl (Nat.succ_pos len) rfl (by simp)
            (by simp [sock_read, received])
      | data n =>
          have hblock : min (len + 1) BLOCK_MAX_LENGTH = len + 1 :=
            Nat.min_eq_left (Nat.le_trans (by omega : len + 1 ≤ 44) (by decide))
          rw [sock_read, List.length_drop, List.drop_drop, hblock]
          generalize hk : min (len + 1) (min (n + 1) (full.length - pos)) = k
          have htake : ((full.drop pos).take k).length = k := by
            rw [List.length_take, List.length_drop]
            omega
          have hreceived : ∀ used, received full.length pos (.data n :: used) =
              received full.length (pos + k) used := by
            intro used
            rw [received]
            simp only [sizeof_sock_packet_eq]
            rw [show min (44 - pos % 44) (min (n + 1) (full.length - pos)) = k by omega]
          by_cases hfull : k = len + 1
          · -- the packet is complete
            rw [hfull] at htake hreceived ⊢
            rw [Nat.sub_self, sock_read, List.append_nil]
            refine ⟨by rw [htake], by rw [htake], by rw [htake]; omega, ?_⟩
            refine .complete [.data n] rfl htake rfl (by simp) ?_
            rw [hreceived]
            rfl
          · obtain ⟨rest, hrest⟩ : ∃ rest, len + 1 - k = rest + 1 := ⟨len - k, by omega⟩
            rw [hrest]
            obtain ⟨hgot, hstream, hbound, hends⟩ := ih (pos + k) (by omega) rest (by omega)
            generalize sock_read (rest + 1) (full.drop (pos + k)) events = r at *
            have hlength : ((full.drop pos).take k ++ r.got).length = k + r.got.length := by
              rw [List.length_append, htake]
            refine ⟨?_, ?_, ?_, ?_⟩
            · show (full.drop pos).take k ++ r.got =
                (full.drop pos).take ((full.drop pos).take k ++ r.got).length
              rw [hlength, List.take_add, List.drop_drop, ← hgot]
            · show r.stream = full.drop (pos + ((full.drop pos).take k ++ r.got).length)
              rw [hlength, hstream, Nat.add_assoc]
            · show pos + ((full.drop pos).take k ++ r.got).length ≤ full.length
              omega
            · cases hends with
              | complete used status length split data pos_eq =>
                  refine .complete (.data n :: used) status ?_ ?_ ?_ ?_
                  · show ((full.drop pos).take k ++ r.got).length = len + 1
                    omega
                  · rw [split]
                    rfl
                  · simpa using data
                  · rw [hreceived, pos_eq]
                    omega
              | failed used errno status length split data pos_eq =>
                  refine .failed (.data n :: used) errno status ?_ ?_ ?_ ?_
                  · show ((full.drop pos).take k ++ r.got).length < len + 1
                    omega
                  · rw [split]
                    rfl
                  · simpa using data
                  · show _ = pos + ((full.drop pos).take k ++ r.got).length
                    rw [hreceived, pos_eq]
                    omega
              | waiting status data => exact .waiting status (by simpa using data)

/-! ## Cutting a run at the end of a call -/

section

variable {packets : List (List UInt8)} {pos : Nat} {events : List Receive}

theorem uncut_append {used : List Receive} (hdata : ∀ errno, .fails errno ∉ used) :
    Uncut packets pos (used ++ events) ↔
      Uncut packets (received (sizeof_sock_packet * packets.length) pos used) events := by
  constructor
  · intro h past errno rest hsplit hagain hpast hopen
    rw [← received_append] at hopen ⊢
    refine h (used ++ past) errno rest (by simp [hsplit]) hagain ?_ hopen
    intro e he
    rcases List.mem_append.mp he with he | he
    · exact absurd he (hdata e)
    · exact hpast e he
  · intro h past errno rest hsplit hagain hpast hopen
    rcases List.append_eq_append_iff.mp hsplit with ⟨past', rfl, hevents⟩ | ⟨used', hused, hevents⟩
    · rw [received_append] at hopen ⊢
      exact h past' errno rest hevents hagain
        (fun e he => hpast e (List.mem_append_right used he)) hopen
    · -- the error would be among the data
      cases used' with
      | nil =>
          rw [List.append_nil] at hused
          subst hused
          exact h [] errno rest (by simpa using hevents.symm) hagain (by simp) hopen
      | cons e used' =>
          obtain ⟨rfl, _⟩ := List.cons.inj hevents
          exact absurd (by simp [hused]) (hdata errno)

theorem uncut_fails_cons {errno : Errno} :
    Uncut packets pos (.fails errno :: events) ↔ (SHOULD_TRY_AGAIN errno →
      ((∀ p ∈ packets.take (pos / sizeof_sock_packet), check_sock_packet p SOCK_CMD_CLOSE ≠ 0) →
        sizeof_sock_packet ∣ pos) ∧ Uncut packets pos events) := by
  constructor
  · intro h hagain
    refine ⟨fun hopen => h [] errno events rfl hagain (by simp) hopen, ?_⟩
    intro past errno' rest hsplit hagain' hpast hopen
    refine h (.fails errno :: past) errno' rest (by simp [hsplit]) hagain' ?_ hopen
    intro e he
    rcases List.mem_cons.mp he with heq | he
    · cases heq
      exact hagain
    · exact hpast e he
  · intro h past errno' rest hsplit hagain hpast hopen
    cases past with
    | nil =>
        obtain ⟨heq, _⟩ := List.cons.inj hsplit
        cases heq
        exact (h hagain).1 hopen
    | cons e past =>
        obtain ⟨rfl, hevents⟩ := List.cons.inj hsplit
        have hfirst := hpast errno List.mem_cons_self
        exact (h hfirst).2 past errno' rest hevents hagain
          (fun e he => hpast e (List.mem_cons_of_mem _ he)) hopen

end

theorem drop_flatten {packets : List (List UInt8)} (hsize : ∀ p ∈ packets, p.length = 44)
    (i : Nat) :
    packets.flatten.drop (44 * i) = (packets.drop i).flatten := by
  induction packets generalizing i with
  | nil => simp
  | cons p packets ih =>
      cases i with
      | zero => simp
      | succ i =>
          have hp : p.length = 44 := hsize p List.mem_cons_self
          have hi : 44 * (i + 1) = p.length + 44 * i := by omega
          rw [List.flatten_cons, hi, List.drop_append, List.drop_of_length_le (by omega),
            List.nil_append, Nat.add_sub_cancel_left, List.drop_succ_cons]
          exact ih (fun q hq => hsize q (List.mem_cons_of_mem p hq)) i

theorem length_flatten {packets : List (List UInt8)} (hsize : ∀ p ∈ packets, p.length = 44) :
    packets.flatten.length = 44 * packets.length := by
  induction packets with
  | nil => rfl
  | cons p packets ih =>
      rw [List.flatten_cons, List.length_append, hsize p List.mem_cons_self,
        ih fun q hq => hsize q (List.mem_cons_of_mem p hq), List.length_cons]
      omega

section

variable {packets : List (List UInt8)} {call : Call} {calls : List Call} {i : Nat}

theorem framed_nil : Framed packets [] := ⟨List.nil_prefix, by simp⟩

theorem framed_cons_of_none (hpacket : call.packet = none) :
    Framed packets (call :: calls) ↔ (sizeof_sock_packet ∣ call.start ∧
      (call.ret ≠ SOCK_RW_READ_ERROR → sizeof_sock_packet ∣ call.stop)) ∧ Framed packets calls := by
  constructor
  · rintro ⟨order, boundary⟩
    rw [List.filterMap_cons_none hpacket] at order
    exact ⟨boundary call List.mem_cons_self, order,
      fun c hc => boundary c (List.mem_cons_of_mem call hc)⟩
  · rintro ⟨hcall, order, boundary⟩
    refine ⟨?_, ?_⟩
    · rw [List.filterMap_cons_none hpacket]
      exact order
    · intro c hc
      rcases List.mem_cons.mp hc with rfl | hc
      · exact hcall
      · exact boundary c hc

theorem framed_cons_of_some (hi : i < packets.length) (hpacket : call.packet = some packets[i])
    (hstart : sizeof_sock_packet ∣ call.start) (hstop : sizeof_sock_packet ∣ call.stop) :
    Framed (packets.drop i) (call :: calls) ↔ Framed (packets.drop (i + 1)) calls := by
  have hdrop : packets.drop i = packets[i] :: packets.drop (i + 1) := List.drop_eq_getElem_cons hi
  constructor
  · rintro ⟨order, boundary⟩
    rw [List.filterMap_cons_some hpacket, hdrop, List.cons_prefix_cons] at order
    exact ⟨order.2, fun c hc => boundary c (List.mem_cons_of_mem call hc)⟩
  · rintro ⟨order, boundary⟩
    refine ⟨?_, ?_⟩
    · rw [List.filterMap_cons_some hpacket, hdrop, List.cons_prefix_cons]
      exact ⟨rfl, order⟩
    · intro c hc
      rcases List.mem_cons.mp hc with rfl | hc
      · exact ⟨hstart, fun _ => hstop⟩
      · exact boundary c hc

theorem forall_calls_iff {sock_cmd : UInt8} {start : Nat} {stream stream' : List UInt8}
    {events events' : List Receive} (P : List Call → Prop) (hnil : P [])
    (hcall : sock_read_check_packet sock_cmd none start stream events =
      some (call, stream', events')) :
    (∀ n, P (handlerCalls sock_cmd n start stream events)) ↔
      ∀ n, P (call :: if SHOULD_CLOSE_SOCK call.ret then []
        else handlerCalls sock_cmd n call.stop stream' events') := by
  constructor
  · intro h n
    have hn := h (n + 1)
    rw [handlerCalls, hcall] at hn
    exact hn
  · intro h n
    cases n with
    | zero => exact hnil
    | succ n =>
        rw [handlerCalls, hcall]
        exact h n

end

theorem check_packet_close {packet : List UInt8} {sock_cmd : UInt8} :
    SHOULD_CLOSE_SOCK (check_packet packet sock_cmd none) = true ↔
      check_sock_packet packet SOCK_CMD_CLOSE = 0 := by
  unfold check_packet
  split
  · rename_i h
    simp [SHOULD_CLOSE_SOCK, h]
  · rename_i h
    split
    · simp [SHOULD_CLOSE_SOCK, h]
    · split
      · simp [SHOULD_CLOSE_SOCK, h]
      · split <;> simp [SHOULD_CLOSE_SOCK, h]

theorem framed_from_iff {packets : List (List UInt8)} (hsize : ∀ p ∈ packets, p.length = 44)
    (sock_cmd : UInt8) (events : List Receive) (i : Nat) (hi : i ≤ packets.length)
    (hopen : ∀ p ∈ packets.take i, check_sock_packet p SOCK_CMD_CLOSE ≠ 0) :
    (∀ n, Framed (packets.drop i)
        (handlerCalls sock_cmd n (44 * i) (packets.flatten.drop (44 * i)) events)) ↔
      Uncut packets (44 * i) events := by
  induction hlen : events.length using Nat.strong_induction_on generalizing events i with
  | _ len ih =>
  have hfull := length_flatten hsize
  have hspec := sock_read_spec packets.flatten events (44 * i) 44 (by omega) (by omega)
  generalize hr : sock_read 44 (packets.flatten.drop (44 * i)) events = r at hspec
  obtain ⟨hgot, hstream, hbound, hends⟩ := hspec
  cases hends with
  | waiting status data =>
      have hcalls : ∀ n,
          handlerCalls sock_cmd n (44 * i) (packets.flatten.drop (44 * i)) events = [] := by
        intro n
        cases n with
        | zero => rfl
        | succ n => simp [handlerCalls, sock_read_check_packet, hr, status]
      constructor
      · intro _ past errno rest hsplit
        exact absurd (by simp [hsplit]) (data errno)
      · intro _ n
        rw [hcalls n]
        exact framed_nil
  | failed used errno status length split data pos_eq =>
      have hcall : sock_read_check_packet sock_cmd none (44 * i)
          (packets.flatten.drop (44 * i)) events =
          some (⟨44 * i, 44 * i + r.got.length,
            if SHOULD_TRY_AGAIN errno then SOCK_RW_TRY_AGAIN else SOCK_RW_READ_ERROR, none⟩,
            r.stream, r.events) := by
        simp [sock_read_check_packet, hr, status]
      rw [forall_calls_iff (Framed (packets.drop i)) framed_nil hcall, split, uncut_append data,
        uncut_fails_cons, sizeof_sock_packet_eq, ← hfull, pos_eq]
      simp only [framed_cons_of_none]
      by_cases hagain : SHOULD_TRY_AGAIN errno = true
      · -- tried again: the next call starts where this one has stopped
        have htake : (44 * i + r.got.length) / 44 = i := by omega
        simp only [hagain, htake, if_true, SHOULD_CLOSE_SOCK]
        by_cases hcut : r.got.length = 0
        · have hrest := ih r.events.length (by rw [← hlen, split]; simp; omega) r.events i hi
            hopen rfl
          rw [hstream, hcut, Nat.add_zero]
          simp [hrest]
        · have hndvd : ¬ 44 ∣ 44 * i + r.got.length := by omega
          refine iff_of_false (fun h => ?_) (fun h => hndvd ((h trivial).1 hopen))
          exact hndvd ((h 0).1.2 (by decide))
      · simp [hagain, SHOULD_CLOSE_SOCK, framed_nil]
  | complete used status length split data pos_eq =>
      have hlt : i < packets.length := by omega
      have hpacket : r.got = packets[i] := by
        rw [hgot, length, drop_flatten hsize, List.drop_eq_getElem_cons hlt, List.flatten_cons,
          List.take_left' (hsize _ (List.getElem_mem hlt))]
      have hcall : sock_read_check_packet sock_cmd none (44 * i)
          (packets.flatten.drop (44 * i)) events =
          some (⟨44 * i, 44 * (i + 1), check_packet packets[i] sock_cmd none, some packets[i]⟩,
            packets.flatten.drop (44 * (i + 1)), r.events) := by
        have hlength : packets[i].length = 44 := hsize _ (List.getElem_mem hlt)
        simp only [sock_read_check_packet, sizeof_sock_packet_eq, hr, status, hstream, hpacket,
          hlength]
        rfl
      have hcons : ∀ calls, Framed (packets.drop i)
          (⟨44 * i, 44 * (i + 1), check_packet packets[i] sock_cmd none, some packets[i]⟩ ::
            calls) ↔
          Framed (packets.drop (i + 1)) calls := fun calls =>
        framed_cons_of_some hlt rfl (Nat.dvd_mul_right 44 i) (Nat.dvd_mul_right 44 (i + 1))
      rw [forall_calls_iff (Framed (packets.drop i)) framed_nil hcall, split, uncut_append data,
        sizeof_sock_packet_eq, ← hfull, pos_eq]
      simp only [hcons]
      by_cases hclose : check_sock_packet packets[i] SOCK_CMD_CLOSE = 0
      · -- the handler stops here, whatever comes later
        have hstop : SHOULD_CLOSE_SOCK (check_packet packets[i] sock_cmd none) = true :=
          check_packet_close.mpr hclose
        simp only [if_pos hstop]
        refine iff_of_true (fun _ => framed_nil) ?_
        intro past errno rest _ _ _ hstill
        have hle := le_received (sizeof_sock_packet * packets.length) (44 * i + 44) past
        refine absurd hclose (hstill packets[i] ?_)
        rw [List.mem_take_iff_getElem]
        refine ⟨i, ?_, rfl⟩
        rw [sizeof_sock_packet_eq] at hle ⊢
        omega
      · have hgoes : ¬ SHOULD_CLOSE_SOCK (check_packet packets[i] sock_cmd none) = true :=
          fun h => hclose (check_packet_close.mp h)
        simp only [if_neg hgoes]
        refine ih r.events.length ?_ r.events (i + 1) hlt ?_ rfl
        · rw [← hlen, split]
          have hused : used ≠ [] := by
            rintro rfl
            simp [received] at pos_eq
          have hpos := List.length_pos_iff.mpr hused
          simp
          omega
        · intro p hp
          rw [List.take_succ_eq_append_getElem hlt, List.mem_append, List.mem_singleton] at hp
          rcases hp with hp | rfl
          · exact hopen p hp
          · exact hclose

/-- A handler that tries again gets the packets in order exactly when no call is interrupted within
a packet. -/
theorem framed_iff_uncut {packets : List (List UInt8)}
    (hsize : ∀ p ∈ packets, p.length = sizeof_sock_packet) (sock_cmd : UInt8)
    (events : List Receive) :
    (∀ n, Framed packets (handlerCalls sock_cmd n 0 packets.flatten events)) ↔
      Uncut packets 0 events := by
  have h := framed_from_iff hsize sock_cmd events 0 (Nat.zero_le _) (by simp)
  simpa using h

def tuningPacket : List UInt8 :=
  SERVER_SOCK_HEAD ++ [1, 2, 1, 0, 0, 0, 1, 0] ++ [0, 0, 0, 1] ++ List.replicate 28 0

theorem framed_two_pieces :
    (∀ p ∈ [tuningPacket], p.length = sizeof_sock_packet) ∧
      ∀ n, Framed [tuningPacket]
        (handlerCalls 1 n 0 [tuningPacket].flatten [.data 9, .data 43]) := by
  refine ⟨by decide, (framed_iff_uncut (by decide) 1 _).mpr ?_⟩
  intro past errno rest hsplit
  have hmem : Receive.fails errno ∈ [Receive.data 9, Receive.data 43] := by simp [hsplit]
  simp at hmem

/-- A timeout after twenty bytes of a packet: they are dropped, and the next call reads from the
middle of the packet. -/
theorem not_framed_timeout :
    ¬ ∀ n, Framed [tuningPacket, tuningPacket] (handlerCalls 1 n 0
      [tuningPacket, tuningPacket].flatten [.data 19, .fails .ETIMEDOUT, .data 43, .data 43]) := by
  intro h
  have hcalls : handlerCalls 1 2 0 [tuningPacket, tuningPacket].flatten
      [.data 19, .fails .ETIMEDOUT, .data 43, .data 43] =
      [⟨0, 20, SOCK_RW_TRY_AGAIN, none⟩,
        ⟨20, 64, SOCK_RW_CHECK_ERROR, some (tuningPacket.drop 20 ++ tuningPacket.take 20)⟩] := by
    decide +kernel
  have hframed := h 2
  rw [hcalls] at hframed
  have hstart := (hframed.boundary _ (List.mem_cons_of_mem _ List.mem_cons_self)).1
  exact absurd hstart (by decide)

end AwHal.TuningApp
