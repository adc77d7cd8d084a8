import AwHal.Lib.ByteMemory
import AwHal.Lib.CNumber
import AwHal.Lib.GuardedRun
import AwHal.Lib.SlotRing
import AwHal.TuningApp.CaptureImage

/-!
# The ring of raw frames

`init_raw_flow`, `queue_raw_flow`, `dequeue_raw_flow` and `exit_raw_flow` (`raw_flow_opt.c`).  Each
call runs under the locker of the queue, so that calls come one after another.
-/

namespace AwHal.TuningApp.RawFlow

open AwHal.Lib AwHal.TuningApp.CaptureImage

/-! ## Nodes -/

/-- `capture_format`, as far as the ring reads it.  The bytes are those from `buffer` on; a node without
a buffer has `NULL`. -/
structure capture_format where
  width : Int
  height : Int
  format : Int
  planes_count : Int
  width_stride : Fin 3 → Int
  length : Int
  buffer : Option Memory

/-- What a node says of its frame, and the bytes of the frame. -/
structure Frame where
  width : Int
  height : Int
  format : Int
  planes_count : Int
  width_stride : Fin 3 → Int
  length : Int
  data : List UInt8

namespace capture_format

def bytes (node : capture_format) : Memory := node.buffer.getD Memory.zero

def frame (node : capture_format) : Frame where
  width := node.width
  height := node.height
  format := node.format
  planes_count := node.planes_count
  width_stride := node.width_stride
  length := node.length
  data := node.bytes.load 0 (toSize node.length)

def copyFrom (node source : capture_format) : capture_format :=
  { node with
    planes_count := source.planes_count
    length := source.length
    width_stride := source.width_stride
    buffer := some (node.bytes.store 0 (source.bytes.load 0 (toSize source.length))) }

def SameFormat (node source : capture_format) : Prop :=
  node.width = source.width ∧ node.height = source.height ∧ node.format = source.format

instance (node source : capture_format) : Decidable (node.SameFormat source) :=
  inferInstanceAs (Decidable (_ ∧ _))

theorem frame_copyFrom {node source : capture_format} (h : node.SameFormat source) :
    (node.copyFrom source).frame = source.frame := by
  obtain ⟨hwidth, hheight, hformat⟩ := h
  have hlen := Memory.length_load source.bytes 0 (toSize source.length)
  have hdata := Memory.load_store node.bytes 0 (source.bytes.load 0 (toSize source.length))
  rw [hlen] at hdata
  simp only [frame, copyFrom, bytes, Option.getD_some, hwidth, hheight, hformat] at hdata ⊢
  rw [hdata]

end capture_format

/-! ## The ring -/

inductive eRawFlowErr where
  | ERR_RAW_FLOW_NONE | ERR_RAW_FLOW_INVALID_PARAMS | ERR_RAW_FLOW_EXIT | ERR_RAW_FLOW_NOT_INIT
  | ERR_RAW_FLOW_FORMAT | ERR_RAW_FLOW_QUEUE_FULL | ERR_RAW_FLOW_QUEUE_EMPTY
deriving DecidableEq, Repr

open eRawFlowErr

/-- The global variables, with the number of bytes that each node has room for. -/
structure RawQueue where
  g_raw_queue : Nat → capture_format
  allocated : Nat → Nat
  g_raw_queue_length : Nat
  g_raw_queue_head : Nat
  g_raw_queue_tail : Nat

namespace RawQueue

def frames (q : RawQueue) (i : Nat) : Frame := (q.g_raw_queue i).frame

def stored (q : RawQueue) : List Frame :=
  (ringBetween q.g_raw_queue_length q.frames q.g_raw_queue_head q.g_raw_queue_tail).contents
    q.g_raw_queue_length

end RawQueue

def bayer8Formats : List Int :=
  [v4l2_fourcc 'B' 'A' '8' '1', v4l2_fourcc 'G' 'B' 'R' 'G', v4l2_fourcc 'G' 'R' 'B' 'G',
    v4l2_fourcc 'R' 'G' 'G' 'B']

def buffer_length (raw_fmt : capture_format) : Int :=
  if raw_fmt.format ∈ bayer8Formats then wrapInt (raw_fmt.width * raw_fmt.height)
  else wrapInt (wrapInt (raw_fmt.width * raw_fmt.height) * 2)

/-- Only the array of nodes is freed: the buffers of the frames that are still in it are lost. -/
def exit_raw_flow (q : RawQueue) : RawQueue :=
  if 0 < q.g_raw_queue_length then
    { q with g_raw_queue_length := 0, g_raw_queue_head := 0, g_raw_queue_tail := 0 }
  else q

def ValidParams (raw_fmt : Option capture_format) (queue_length : Int) : Prop :=
  ∃ fmt, raw_fmt = some fmt ∧ 0 ≤ queue_length ∧ 0 ≤ fmt.width ∧ 0 ≤ fmt.height

/-- `malloc i` is what the allocation for node `i` gives: some memory, or `NULL`. -/
def init_raw_flow (raw_fmt : Option capture_format) (queue_length : Int)
    (malloc : Nat → Option Memory) (q : RawQueue) : eRawFlowErr × RawQueue :=
  match raw_fmt with
  | none => (ERR_RAW_FLOW_INVALID_PARAMS, q)
  | some fmt =>
      if queue_length < 0 ∨ fmt.width < 0 ∨ fmt.height < 0 then (ERR_RAW_FLOW_INVALID_PARAMS, q)
      else
        let q := exit_raw_flow q
        (ERR_RAW_FLOW_NONE, { q with
          g_raw_queue := fun i =>
            { width := fmt.width, height := fmt.height, format := fmt.format,
              planes_count := fmt.planes_count, width_stride := fun _ => 0, length := 0,
              buffer := malloc i }
          allocated := fun i => if (malloc i).isSome then toSize (buffer_length fmt) else 0
          g_raw_queue_length := queue_length.toNat
          g_raw_queue_head := 0
          g_raw_queue_tail := 0 })

def RawQueue.next (q : RawQueue) (i : Nat) : Nat := (i + 1) % q.g_raw_queue_length

/-- The loop that writes the frames to the file, with at most `n` passes: what it writes, and the ring
that it leaves. -/
def flush : Nat → RawQueue → List Frame × RawQueue
  | 0, q => ([], q)
  | n + 1, q =>
      if q.g_raw_queue_tail ≠ q.g_raw_queue_head then
        let (rest, q') := flush n { q with g_raw_queue_tail := q.next q.g_raw_queue_tail }
        (q.frames q.g_raw_queue_tail :: rest, q')
      else ([], q)

/-- `fopen` says whether the file can be opened.  The second result is what is written to it. -/
def queue_raw_flow (node : Option capture_format) (fopen : Bool) (q : RawQueue) :
    eRawFlowErr × List Frame × RawQueue :=
  match node with
  | none => (ERR_RAW_FLOW_INVALID_PARAMS, [], q)
  | some node =>
      if node.buffer.isNone then (ERR_RAW_FLOW_INVALID_PARAMS, [], q)
      else if 0 < q.g_raw_queue_length then
        let head_node := q.g_raw_queue q.g_raw_queue_head
        if ¬ head_node.SameFormat node then (ERR_RAW_FLOW_FORMAT, [], q)
        else
          let head := q.next q.g_raw_queue_head
          if head = q.g_raw_queue_tail then
            if fopen then (ERR_RAW_FLOW_QUEUE_FULL, flush q.g_raw_queue_length q)
            else (ERR_RAW_FLOW_QUEUE_FULL, [], q)
          else
            (ERR_RAW_FLOW_NONE, [], { q with
              g_raw_queue := Function.update q.g_raw_queue q.g_raw_queue_head
                (head_node.copyFrom node)
              g_raw_queue_head := head })
      else (ERR_RAW_FLOW_NOT_INIT, [], q)

def dequeue_raw_flow (node : Option capture_format) (q : RawQueue) :
    eRawFlowErr × Option capture_format × RawQueue :=
  if 0 < q.g_raw_queue_length then
    let tail_node := q.g_raw_queue q.g_raw_queue_tail
    if q.g_raw_queue_tail = q.g_raw_queue_head then (ERR_RAW_FLOW_QUEUE_EMPTY, node, q)
    else
      let node := node.map fun node =>
        { node with
          width := tail_node.width, height := tail_node.height, format := tail_node.format }.copyFrom
            tail_node
      (ERR_RAW_FLOW_NONE, node, { q with g_raw_queue_tail := q.next q.g_raw_queue_tail })
  else (ERR_RAW_FLOW_NOT_INIT, node, q)

/-- The conditions under which `queue_raw_flow` takes a frame. -/
def RawQueue.Takes (q : RawQueue) (node : capture_format) : Prop :=
  node.buffer.isSome ∧ 0 < q.g_raw_queue_length ∧
    (q.g_raw_queue q.g_raw_queue_head).SameFormat node ∧
    q.next q.g_raw_queue_head ≠ q.g_raw_queue_tail

instance (q : RawQueue) (node : capture_format) : Decidable (q.Takes node) :=
  inferInstanceAs (Decidable (_ ∧ _ ∧ _ ∧ _))

/-! ## Sessions -/

inductive Call where
  | init (raw_fmt : Option capture_format) (queue_length : Int) (malloc : Nat → Option Memory)
  | exit
  | queue (node : Option capture_format) (fopen : Bool)
  | dequeue (node : Option capture_format)

/-- How a frame leaves the ring: by `dequeue_raw_flow`, to the file, or lost with the nodes. -/
inductive Way where
  | dequeued | written | lost
deriving DecidableEq, Repr

/-- The ring, the frames that it took and that left it, and the copies into nodes: their lengths and
the room that there was. -/
structure Session where
  ring : RawQueue
  accepted : List Frame := []
  left : List (Frame × Way) := []
  copies : List (Nat × Nat) := []

def call (q : RawQueue) : Call → eRawFlowErr × RawQueue
  | .init raw_fmt queue_length malloc => init_raw_flow raw_fmt queue_length malloc q
  | .exit => (ERR_RAW_FLOW_NONE, exit_raw_flow q)
  | .queue node fopen => ((queue_raw_flow node fopen q).1, (queue_raw_flow node fopen q).2.2)
  | .dequeue node => ((dequeue_raw_flow node q).1, (dequeue_raw_flow node q).2.2)

def acceptedBy (q : RawQueue) : Call → List Frame
  | .queue (some node) fopen =>
      if (queue_raw_flow (some node) fopen q).1 = ERR_RAW_FLOW_NONE then [node.frame] else []
  | _ => []

def leftBy (q : RawQueue) : Call → List (Frame × Way)
  | .queue node fopen => (queue_raw_flow node fopen q).2.1.map fun frame => (frame, .written)
  | .dequeue node =>
      if (dequeue_raw_flow node q).1 = ERR_RAW_FLOW_NONE then
        [(q.frames q.g_raw_queue_tail, .dequeued)]
      else []
  | .exit => q.stored.map fun frame => (frame, .lost)
  -- `init_raw_flow` begins with `exit_raw_flow`, unless it refuses its parameters
  | .init raw_fmt queue_length malloc =>
      if (init_raw_flow raw_fmt queue_length malloc q).1 = ERR_RAW_FLOW_NONE then
        q.stored.map fun frame => (frame, .lost)
      else []

def copiesBy (q : RawQueue) : Call → List (Nat × Nat)
  | .queue (some node) fopen =>
      if (queue_raw_flow (some node) fopen q).1 = ERR_RAW_FLOW_NONE then
        [(toSize node.length, q.allocated q.g_raw_queue_head)]
      else []
  | _ => []

def step (s : Session) (c : Call) : Session where
  ring := (call s.ring c).2
  accepted := s.accepted ++ acceptedBy s.ring c
  left := s.left ++ leftBy s.ring c
  copies := s.copies ++ copiesBy s.ring c

def start (nodes : Nat → capture_format) (allocated : Nat → Nat) : Session where
  ring := ⟨nodes, allocated, 0, 0, 0⟩

/-- Each frame that is taken leaves once and in its turn, or is still in the ring; and nothing is written
behind a node. -/
structure KeepsOrder (s : Session) : Prop where
  order : s.accepted = s.left.map Prod.fst ++ s.ring.stored
  handed : ∀ node n, (dequeue_raw_flow node s.ring).1 = ERR_RAW_FLOW_NONE →
    (dequeue_raw_flow node s.ring).2.1 = some n → n.frame = s.ring.frames s.ring.g_raw_queue_tail
  room : s.ring.stored.length ≤ s.ring.g_raw_queue_length - 1
  quiet : ∀ c, (call s.ring c).1 ≠ ERR_RAW_FLOW_NONE → (call s.ring c).1 ≠ ERR_RAW_FLOW_QUEUE_FULL →
    (call s.ring c).2 = s.ring
  copies : ∀ copy ∈ s.copies, copy.1 ≤ copy.2

/-- Nor is a frame lost with the nodes. -/
structure LosesNothing (s : Session) : Prop extends KeepsOrder s where
  delivered : ∀ x ∈ s.left, x.2 ≠ .lost

/-- A frame that is taken fits its node. -/
def Fits (_ : List Call) (s : Session) : Call → Prop
  | .queue (some node) _ =>
      s.ring.Takes node → toSize node.length ≤ s.ring.allocated s.ring.g_raw_queue_head
  | _ => True

instance (past : List Call) (s : Session) (c : Call) : Decidable (Fits past s c) :=
  match c with
  | .queue (some _) _ => inferInstanceAs (Decidable (_ → _))
  | .queue none _ | .init _ _ _ | .exit | .dequeue _ => .isTrue trivial

def Call.GivesUpRing : Call → Prop
  | .init raw_fmt queue_length _ => ValidParams raw_fmt queue_length
  | .exit => True
  | _ => False

/-- A frame that is taken fits its node, and a ring is given up only when it is empty. -/
def Careful (past : List Call) (s : Session) (c : Call) : Prop :=
  Fits past s c ∧ (c.GivesUpRing → s.ring.stored = [])

/-! ## The indices -/

/-- The indices are those of nodes, unless there are none. -/
structure RawQueue.WellFormed (q : RawQueue) : Prop where
  head_lt : q.g_raw_queue_head < q.g_raw_queue_length ∨ q.g_raw_queue_length = 0
  tail_lt : q.g_raw_queue_tail < q.g_raw_queue_length ∨ q.g_raw_queue_length = 0
  empty : q.g_raw_queue_length = 0 → q.g_raw_queue_head = 0 ∧ q.g_raw_queue_tail = 0

variable {q : RawQueue}

theorem RawQueue.WellFormed.lt (h : q.WellFormed) (hlen : 0 < q.g_raw_queue_length) :
    q.g_raw_queue_head < q.g_raw_queue_length ∧ q.g_raw_queue_tail < q.g_raw_queue_length :=
  ⟨h.head_lt.resolve_right (Nat.ne_of_gt hlen), h.tail_lt.resolve_right (Nat.ne_of_gt hlen)⟩

theorem RawQueue.WellFormed.of_lt (hhead : q.g_raw_queue_head < q.g_raw_queue_length)
    (htail : q.g_raw_queue_tail < q.g_raw_queue_length) : q.WellFormed :=
  ⟨.inl hhead, .inl htail, fun hzero => absurd (hzero ▸ hhead) (Nat.not_lt_zero _)⟩

theorem next_lt (h : 0 < q.g_raw_queue_length) (i : Nat) : q.next i < q.g_raw_queue_length :=
  Nat.mod_lt _ h

theorem length_stored :
    q.stored.length =
      slotsBetween q.g_raw_queue_length q.g_raw_queue_tail q.g_raw_queue_head :=
  SlotRing.length_contents

theorem stored_eq_nil_of_length (h : q.WellFormed) (hzero : q.g_raw_queue_length = 0) :
    q.stored = [] := by
  apply List.eq_nil_of_length_eq_zero
  obtain ⟨hhead, htail⟩ := h.empty hzero
  rw [length_stored, hhead, htail, hzero]
  rfl

theorem stored_eq_nil (heq : q.g_raw_queue_tail = q.g_raw_queue_head) : q.stored = [] := by
  apply List.eq_nil_of_length_eq_zero
  rw [length_stored, heq, slotsBetween_self]

theorem RawQueue.WellFormed.room (h : q.WellFormed) :
    q.stored.length ≤ q.g_raw_queue_length - 1 := by
  rcases Nat.eq_zero_or_pos q.g_raw_queue_length with hzero | hpos
  · rw [stored_eq_nil_of_length h hzero]
    exact Nat.zero_le _
  · have hlt := slotsBetween_lt (i := q.g_raw_queue_tail) (j := q.g_raw_queue_head) hpos
    rw [length_stored]
    omega

/-! ## What a call does to the ring -/

theorem stored_pop (hhead : q.g_raw_queue_head < q.g_raw_queue_length)
    (htail : q.g_raw_queue_tail < q.g_raw_queue_length)
    (hne : q.g_raw_queue_tail ≠ q.g_raw_queue_head) :
    q.stored = q.frames q.g_raw_queue_tail ::
      { q with g_raw_queue_tail := q.next q.g_raw_queue_tail : RawQueue }.stored :=
  contents_ringBetween_pop htail hhead hne

theorem with_tail_head (heq : q.g_raw_queue_tail = q.g_raw_queue_head) :
    { q with g_raw_queue_tail := q.g_raw_queue_head } = q := by
  cases q
  cases heq
  rfl

theorem flush_eq {n : Nat} (hhead : q.g_raw_queue_head < q.g_raw_queue_length)
    (htail : q.g_raw_queue_tail < q.g_raw_queue_length) (hn : q.stored.length ≤ n) :
    flush n q = (q.stored, { q with g_raw_queue_tail := q.g_raw_queue_head }) := by
  induction n generalizing q with
  | zero =>
      have hnil : q.stored = [] := List.eq_nil_of_length_eq_zero (Nat.le_zero.mp hn)
      have heq : q.g_raw_queue_tail = q.g_raw_queue_head := by
        by_contra hne
        rw [stored_pop hhead htail hne] at hnil
        cases hnil
      rw [flush, hnil, with_tail_head heq]
  | succ n ih =>
      rw [flush]
      by_cases hne : q.g_raw_queue_tail = q.g_raw_queue_head
      · rw [if_neg (not_not_intro hne), stored_eq_nil hne, with_tail_head hne]
      · have hpop := stored_pop hhead htail hne
        have hlen := congrArg List.length hpop
        rw [List.length_cons] at hlen
        rw [if_pos hne, ih (q := { q with g_raw_queue_tail := q.next q.g_raw_queue_tail }) hhead
          (next_lt (by omega) _) (by omega), hpop]

theorem stored_push (htail : q.g_raw_queue_tail < q.g_raw_queue_length)
    (hhead : q.g_raw_queue_head < q.g_raw_queue_length)
    (hroom : q.next q.g_raw_queue_head ≠ q.g_raw_queue_tail) (node : capture_format) :
    { q with g_raw_queue := Function.update q.g_raw_queue q.g_raw_queue_head node
             g_raw_queue_head := q.next q.g_raw_queue_head : RawQueue }.stored =
      q.stored ++ [node.frame] := by
  have hframes : (fun i => (Function.update q.g_raw_queue q.g_raw_queue_head node i).frame) =
      Function.update q.frames q.g_raw_queue_head node.frame := by
    ext i
    by_cases hi : i = q.g_raw_queue_head
    · rw [hi, Function.update_self, Function.update_self]
    · rw [Function.update_of_ne hi, Function.update_of_ne hi]
      rfl
  show (ringBetween q.g_raw_queue_length
    (fun i => (Function.update q.g_raw_queue q.g_raw_queue_head node i).frame)
    (slotAfter q.g_raw_queue_length q.g_raw_queue_head 1) q.g_raw_queue_tail).contents _ = _
  rw [hframes]
  exact contents_ringBetween_push htail hhead hroom node.frame

/-! ## Calls -/

theorem stored_exit (h : q.WellFormed) : (exit_raw_flow q).stored = [] := by
  unfold exit_raw_flow
  split
  · rfl
  · exact stored_eq_nil_of_length h (by omega)

theorem wellFormed_exit (h : q.WellFormed) : (exit_raw_flow q).WellFormed := by
  unfold exit_raw_flow
  split
  · exact ⟨.inr rfl, .inr rfl, fun _ => ⟨rfl, rfl⟩⟩
  · exact h

/-- An initialisation refuses its parameters, or leaves an empty ring. -/
theorem init_cases (raw_fmt : Option capture_format) (queue_length : Int)
    (malloc : Nat → Option Memory) (q : RawQueue) :
    (¬ ValidParams raw_fmt queue_length ∧
        init_raw_flow raw_fmt queue_length malloc q = (ERR_RAW_FLOW_INVALID_PARAMS, q)) ∨
      (ValidParams raw_fmt queue_length ∧
        (init_raw_flow raw_fmt queue_length malloc q).1 = ERR_RAW_FLOW_NONE ∧
        (init_raw_flow raw_fmt queue_length malloc q).2.stored = [] ∧
        (init_raw_flow raw_fmt queue_length malloc q).2.WellFormed) := by
  cases raw_fmt with
  | none =>
      left
      refine ⟨?_, rfl⟩
      rintro ⟨fmt, hfmt, -⟩
      cases hfmt
  | some fmt =>
      by_cases hbad : queue_length < 0 ∨ fmt.width < 0 ∨ fmt.height < 0
      · left
        refine ⟨?_, if_pos hbad⟩
        rintro ⟨fmt', hfmt, hvalid⟩
        cases hfmt
        omega
      · right
        rw [show init_raw_flow (some fmt) queue_length malloc q = _ from if_neg hbad]
        refine ⟨⟨fmt, rfl, by omega, by omega, by omega⟩, rfl, stored_eq_nil rfl, ?_⟩
        constructor
        case head_lt => exact (Nat.eq_zero_or_pos _).symm
        case tail_lt => exact (Nat.eq_zero_or_pos _).symm
        case empty => exact fun _ => ⟨rfl, rfl⟩

/-- A frame is refused and nothing changes, or all frames go to the file, or the frame is taken. -/
theorem queue_cases (h : q.WellFormed) (node : Option capture_format) (fopen : Bool) :
    ((queue_raw_flow node fopen q).1 ≠ ERR_RAW_FLOW_NONE ∧
        (queue_raw_flow node fopen q).2 = ([], q) ∧ ∀ n, node = some n → ¬ q.Takes n) ∨
      ((queue_raw_flow node fopen q).1 = ERR_RAW_FLOW_QUEUE_FULL ∧
        q.g_raw_queue_head < q.g_raw_queue_length ∧
        (queue_raw_flow node fopen q).2 =
          (q.stored, { q with g_raw_queue_tail := q.g_raw_queue_head }) ∧
        ∀ n, node = some n → ¬ q.Takes n) ∨
      ∃ n, node = some n ∧ q.Takes n ∧
        queue_raw_flow node fopen q = (ERR_RAW_FLOW_NONE, [], { q with
          g_raw_queue := Function.update q.g_raw_queue q.g_raw_queue_head
            ((q.g_raw_queue q.g_raw_queue_head).copyFrom n)
          g_raw_queue_head := q.next q.g_raw_queue_head }) := by
  cases node with
  | none =>
      left
      exact ⟨nofun, rfl, fun n hn => by cases hn⟩
  | some node =>
      simp only [queue_raw_flow, Option.some.injEq, forall_eq', exists_eq_left']
      by_cases hbuffer : node.buffer.isNone
      · left
        rw [if_pos hbuffer]
        refine ⟨nofun, rfl, fun htakes => ?_⟩
        rw [Option.isNone_iff_eq_none] at hbuffer
        have hsome := htakes.1
        rw [hbuffer] at hsome
        cases hsome
      · rw [if_neg hbuffer]
        have hbuffer' : node.buffer.isSome := by simpa [Option.isSome_iff_ne_none] using hbuffer
        by_cases hlen : 0 < q.g_raw_queue_length
        · rw [if_pos hlen]
          by_cases hformat : (q.g_raw_queue q.g_raw_queue_head).SameFormat node
          · rw [if_neg (not_not_intro hformat)]
            obtain ⟨hhead, htail⟩ := h.lt hlen
            by_cases hfull : q.next q.g_raw_queue_head = q.g_raw_queue_tail
            -- a full ring is flushed to the file, if it can be opened
            · have hrefuse : ¬ q.Takes node := fun htakes => htakes.2.2.2 hfull
              rw [if_pos hfull]
              cases fopen with
              | false =>
                  left
                  exact ⟨nofun, rfl, hrefuse⟩
              | true =>
                  right
                  left
                  have hroom := h.room
                  refine ⟨rfl, hhead, ?_, hrefuse⟩
                  exact flush_eq hhead htail (by omega)
            · right
              right
              rw [if_neg hfull]
              exact ⟨⟨hbuffer', hlen, hformat, hfull⟩, rfl⟩
          · left
            rw [if_pos hformat]
            exact ⟨nofun, rfl, fun htakes => hformat htakes.2.2.1⟩
        · left
          rw [if_neg hlen]
          exact ⟨nofun, rfl, fun htakes => hlen htakes.2.1⟩

theorem dequeue_cases (h : q.WellFormed) (node : Option capture_format) :
    ((dequeue_raw_flow node q).1 ≠ ERR_RAW_FLOW_NONE ∧ (dequeue_raw_flow node q).2 = (node, q)) ∨
      ((dequeue_raw_flow node q).1 = ERR_RAW_FLOW_NONE ∧
        q.g_raw_queue_head < q.g_raw_queue_length ∧ q.g_raw_queue_tail < q.g_raw_queue_length ∧
        q.g_raw_queue_tail ≠ q.g_raw_queue_head ∧
        (dequeue_raw_flow node q).2.2 =
          { q with g_raw_queue_tail := q.next q.g_raw_queue_tail } ∧
        ∀ n, (dequeue_raw_flow node q).2.1 = some n → n.frame = q.frames q.g_raw_queue_tail) := by
  unfold dequeue_raw_flow
  by_cases hlen : 0 < q.g_raw_queue_length
  · rw [if_pos hlen]
    by_cases hempty : q.g_raw_queue_tail = q.g_raw_queue_head
    · left
      rw [if_pos hempty]
      exact ⟨nofun, rfl⟩
    · right
      obtain ⟨hhead, htail⟩ := h.lt hlen
      rw [if_neg hempty]
      refine ⟨rfl, hhead, htail, hempty, rfl, ?_⟩
      intro n hn
      obtain ⟨node', -, rfl⟩ := Option.map_eq_some_iff.mp hn
      exact capture_format.frame_copyFrom ⟨rfl, rfl, rfl⟩
  · left
    rw [if_neg hlen]
    exact ⟨nofun, rfl⟩

/-! ## Steps -/

theorem wellFormed_call (h : q.WellFormed) (c : Call) : (call q c).2.WellFormed := by
  cases c with
  | init raw_fmt queue_length malloc =>
      rcases init_cases raw_fmt queue_length malloc q with ⟨-, heq⟩ | ⟨-, -, -, hwell⟩
      · show (init_raw_flow raw_fmt queue_length malloc q).2.WellFormed
        rw [heq]
        exact h
      · exact hwell
  | exit => exact wellFormed_exit h
  | queue node fopen =>
      show (queue_raw_flow node fopen q).2.2.WellFormed
      rcases queue_cases h node fopen with ⟨-, heq, -⟩ | ⟨-, hhead, heq, -⟩ | ⟨n, -, htakes, heq⟩
      · rw [heq]
        exact h
      · rw [heq]
        exact RawQueue.WellFormed.of_lt hhead hhead
      · rw [heq]
        exact RawQueue.WellFormed.of_lt (next_lt htakes.2.1 _) (h.lt htakes.2.1).2
  | dequeue node =>
      show (dequeue_raw_flow node q).2.2.WellFormed
      rcases dequeue_cases h node with ⟨-, heq⟩ | ⟨-, hhead, -, -, heq, -⟩
      · rw [heq]
        exact h
      · rw [heq]
        exact RawQueue.WellFormed.of_lt hhead (next_lt (by omega) _)

/-- A call that fails, other than for a full ring, changes nothing. -/
theorem call_quiet (h : q.WellFormed) (c : Call) (herr : (call q c).1 ≠ ERR_RAW_FLOW_NONE)
    (hfull : (call q c).1 ≠ ERR_RAW_FLOW_QUEUE_FULL) : (call q c).2 = q := by
  cases c with
  | init raw_fmt queue_length malloc =>
      rcases init_cases raw_fmt queue_length malloc q with ⟨-, heq⟩ | ⟨-, hnone, -⟩
      · exact congrArg Prod.snd heq
      · exact absurd hnone herr
  | exit => exact absurd rfl herr
  | queue node fopen =>
      rcases queue_cases h node fopen with ⟨-, heq, -⟩ | ⟨hcode, -⟩ | ⟨n, -, -, heq⟩
      · exact congrArg Prod.snd heq
      · exact absurd hcode hfull
      · exact absurd (congrArg Prod.fst heq) herr
  | dequeue node =>
      rcases dequeue_cases h node with ⟨-, heq⟩ | ⟨hnone, -⟩
      · exact congrArg Prod.snd heq
      · exact absurd hnone herr

theorem frame_dequeue (h : q.WellFormed) (node : Option capture_format) (n : capture_format)
    (hcode : (dequeue_raw_flow node q).1 = ERR_RAW_FLOW_NONE)
    (hn : (dequeue_raw_flow node q).2.1 = some n) : n.frame = q.frames q.g_raw_queue_tail := by
  rcases dequeue_cases h node with ⟨herr, -⟩ | ⟨-, -, -, -, -, hframe⟩
  · exact absurd hcode herr
  · exact hframe n hn

theorem acceptedBy_of_refused {node : Option capture_format} {fopen : Bool}
    (h : (queue_raw_flow node fopen q).1 ≠ ERR_RAW_FLOW_NONE) :
    acceptedBy q (.queue node fopen) = [] := by
  cases node with
  | none => rfl
  | some node => exact if_neg h

theorem stored_queue (h : q.WellFormed) (node : Option capture_format) (fopen : Bool) :
    q.stored ++ acceptedBy q (.queue node fopen) =
      (queue_raw_flow node fopen q).2.1 ++ (queue_raw_flow node fopen q).2.2.stored := by
  rcases queue_cases h node fopen with ⟨hcode, heq, -⟩ | ⟨hcode, -, heq, -⟩ | ⟨n, rfl, htakes, heq⟩
  · rw [acceptedBy_of_refused hcode, heq, List.append_nil, List.nil_append]
  -- the file gets all frames in the ring, and the new one is not taken
  · have hne : (queue_raw_flow node fopen q).1 ≠ ERR_RAW_FLOW_NONE := by
      rw [hcode]
      decide
    rw [acceptedBy_of_refused hne, heq]
    exact congrArg (q.stored ++ ·) (stored_eq_nil rfl).symm
  · have haccepted : acceptedBy q (.queue (some n) fopen) = [n.frame] :=
      if_pos (congrArg Prod.fst heq)
    obtain ⟨hhead, htail⟩ := h.lt htakes.2.1
    rw [haccepted, heq, List.nil_append, stored_push htail hhead htakes.2.2.2,
      capture_format.frame_copyFrom htakes.2.2.1]

theorem map_fst_way (frames : List Frame) (way : Way) :
    (frames.map fun frame => (frame, way)).map Prod.fst = frames := by
  rw [List.map_map]
  exact List.map_id frames

theorem leftBy_of_refused {raw_fmt : Option capture_format} {queue_length : Int}
    {malloc : Nat → Option Memory}
    (h : init_raw_flow raw_fmt queue_length malloc q = (ERR_RAW_FLOW_INVALID_PARAMS, q)) :
    leftBy q (.init raw_fmt queue_length malloc) = [] := by
  rw [leftBy, h]
  rfl

/-- The frames in the ring, then those that the call takes, are those that leave in it, then those in
the ring after it. -/
theorem stored_call (h : q.WellFormed) (c : Call) :
    q.stored ++ acceptedBy q c = (leftBy q c).map Prod.fst ++ (call q c).2.stored := by
  cases c with
  | init raw_fmt queue_length malloc =>
      rcases init_cases raw_fmt queue_length malloc q with ⟨-, heq⟩ | ⟨-, hnone, hnil, -⟩
      · rw [leftBy_of_refused heq]
        show q.stored ++ [] = [] ++ (init_raw_flow raw_fmt queue_length malloc q).2.stored
        rw [heq, List.append_nil, List.nil_append]
      · rw [leftBy, if_pos hnone, map_fst_way]
        exact congrArg (q.stored ++ ·) hnil.symm
  | exit =>
      rw [leftBy, map_fst_way]
      exact congrArg (q.stored ++ ·) (stored_exit h).symm
  | queue node fopen =>
      rw [leftBy, map_fst_way]
      exact stored_queue h node fopen
  | dequeue node =>
      rcases dequeue_cases h node with ⟨hcode, heq⟩ | ⟨hcode, hhead, htail, hne, heq, -⟩
      · rw [leftBy, if_neg hcode]
        show q.stored ++ [] = [] ++ (dequeue_raw_flow node q).2.2.stored
        rw [heq, List.append_nil, List.nil_append]
      · rw [leftBy, if_pos hcode]
        show q.stored ++ [] = [q.frames q.g_raw_queue_tail] ++ (dequeue_raw_flow node q).2.2.stored
        rw [heq, List.append_nil, stored_pop hhead htail hne]
        rfl

/-- Frames are lost in the calls that free the nodes. -/
theorem delivered_iff (c : Call) :
    (∀ x ∈ leftBy q c, x.2 ≠ .lost) ↔ (c.GivesUpRing → q.stored = []) := by
  have hlost : (∀ x ∈ q.stored.map fun frame => (frame, Way.lost), x.2 ≠ .lost) ↔
      q.stored = [] := by
    rw [List.forall_mem_map, List.eq_nil_iff_forall_not_mem]
    exact forall_congr' fun frame => imp_congr_right fun _ => iff_of_false (fun hne => hne rfl) id
  cases c with
  | init raw_fmt queue_length malloc =>
      rcases init_cases raw_fmt queue_length malloc q with ⟨hinvalid, heq⟩ | ⟨hvalid, hnone, -, -⟩
      · rw [leftBy_of_refused heq]
        exact iff_of_true (fun x hx => nomatch hx) fun hgives => absurd hgives hinvalid
      · rw [leftBy, if_pos hnone, hlost]
        exact ⟨fun hnil _ => hnil, fun hnil => hnil hvalid⟩
  | exit =>
      rw [leftBy, hlost]
      exact ⟨fun hnil _ => hnil, fun hnil => hnil trivial⟩
  | queue node fopen =>
      rw [leftBy, List.forall_mem_map]
      exact iff_of_true (fun frame _ => nofun) fun hgives => hgives.elim
  | dequeue node =>
      rw [leftBy]
      refine iff_of_true ?_ fun hgives => hgives.elim
      split
      · exact List.forall_mem_singleton.mpr nofun
      · exact fun x hx => nomatch hx

theorem copiesBy_queue (h : q.WellFormed) (node : capture_format) (fopen : Bool) :
    (q.Takes node ∧ copiesBy q (.queue (some node) fopen) =
        [(toSize node.length, q.allocated q.g_raw_queue_head)]) ∨
      (¬ q.Takes node ∧ copiesBy q (.queue (some node) fopen) = []) := by
  rcases queue_cases h (some node) fopen with ⟨hcode, -, hrefuse⟩ | ⟨hcode, -, -, hrefuse⟩ |
    ⟨n, hn, htakes, heq⟩
  · exact .inr ⟨hrefuse node rfl, if_neg hcode⟩
  · have hne : (queue_raw_flow (some node) fopen q).1 ≠ ERR_RAW_FLOW_NONE := by
      rw [hcode]
      decide
    exact .inr ⟨hrefuse node rfl, if_neg hne⟩
  · cases hn
    exact .inl ⟨htakes, if_pos (congrArg Prod.fst heq)⟩

/-! ## Runs -/

variable {s : Session}

/-- The copies of a call fit their nodes exactly when the frame that it takes does. -/
theorem fits_iff (hwell : s.ring.WellFormed) (past : List Call) (c : Call) :
    (∀ copy ∈ copiesBy s.ring c, copy.1 ≤ copy.2) ↔ Fits past s c := by
  have hnone : ∀ copy ∈ ([] : List (Nat × Nat)), copy.1 ≤ copy.2 := fun copy hcopy => nomatch hcopy
  cases c with
  | init raw_fmt queue_length malloc => exact iff_of_true hnone trivial
  | exit => exact iff_of_true hnone trivial
  | dequeue node => exact iff_of_true hnone trivial
  | queue node fopen =>
      cases node with
      | none => exact iff_of_true hnone trivial
      | some node =>
          rcases copiesBy_queue hwell node fopen with ⟨htakes, heq⟩ | ⟨hrefuse, heq⟩
          · rw [heq, List.forall_mem_singleton]
            exact ⟨fun hle _ => hle, fun hfits => hfits htakes⟩
          · rw [heq]
            exact iff_of_true hnone fun htakes => absurd htakes hrefuse

/-- A call whose frame fits keeps the frames and their order. -/
theorem KeepsOrder.step {past : List Call} {c : Call} (hwell : s.ring.WellFormed)
    (h : KeepsOrder s) (hfits : Fits past s c) : KeepsOrder (step s c) := by
  have hwell' : (call s.ring c).2.WellFormed := wellFormed_call hwell c
  constructor
  case order =>
    show s.accepted ++ acceptedBy s.ring c =
      (s.left ++ leftBy s.ring c).map Prod.fst ++ (call s.ring c).2.stored
    rw [h.order, List.append_assoc, stored_call hwell c, List.map_append, List.append_assoc]
  case handed => exact frame_dequeue hwell'
  case room => exact hwell'.room
  case quiet => exact fun c' => call_quiet hwell' c'
  case copies => exact List.forall_mem_append.mpr ⟨h.copies, (fits_iff hwell past c).mpr hfits⟩

theorem LosesNothing.step {past : List Call} {c : Call} (hwell : s.ring.WellFormed)
    (h : LosesNothing s) (hcareful : Careful past s c) : LosesNothing (step s c) := by
  constructor
  case toKeepsOrder => exact h.toKeepsOrder.step hwell hcareful.1
  case delivered =>
    exact List.forall_mem_append.mpr ⟨h.delivered, (delivered_iff c).mpr hcareful.2⟩

/-- A call that is not careful loses frames or writes behind a node. -/
theorem LosesNothing.careful {past : List Call} {c : Call} (hwell : s.ring.WellFormed)
    (hnext : LosesNothing (RawFlow.step s c)) : Careful past s c := by
  have hcopies : ∀ copy ∈ s.copies ++ copiesBy s.ring c, copy.1 ≤ copy.2 := hnext.copies
  have hdelivered : ∀ x ∈ s.left ++ leftBy s.ring c, x.2 ≠ .lost := hnext.delivered
  constructor
  · exact (fits_iff hwell past c).mp (List.forall_mem_append.mp hcopies).2
  · exact (delivered_iff c).mp (List.forall_mem_append.mp hdelivered).2

variable (nodes : Nat → capture_format) (allocated : Nat → Nat)

theorem wellFormed_start : (start nodes allocated).ring.WellFormed :=
  ⟨.inr rfl, .inr rfl, fun _ => ⟨rfl, rfl⟩⟩

theorem losesNothing_start : LosesNothing (start nodes allocated) := by
  have hwell := wellFormed_start nodes allocated
  constructor
  case delivered => exact fun x hx => nomatch hx
  constructor
  case order => exact (stored_eq_nil_of_length hwell rfl).symm
  case handed => exact frame_dequeue hwell
  case room => exact hwell.room
  case quiet => exact fun c => call_quiet hwell c
  case copies => exact fun copy hcopy => nomatch hcopy

/-- All along a run nothing is lost and nothing is written behind a node exactly when every call is
careful. -/
theorem losesNothing_iff (calls : List Call) :
    (∀ past, past <+: calls → LosesNothing (past.foldl step (start nodes allocated))) ↔
      Guarded step Careful (start nodes allocated) calls := by
  apply forall_prefix_iff_guarded_of_invariant
    (fun _ s => s.ring.WellFormed ∧ LosesNothing s)
  · exact ⟨wellFormed_start nodes allocated, losesNothing_start nodes allocated⟩
  · exact fun past s h => h.2
  · intro past s c h hcareful
    exact ⟨wellFormed_call h.1 c, h.2.step h.1 hcareful⟩
  · intro past s c h hnext
    exact LosesNothing.careful h.1 hnext

/-- In a run whose frames fit their nodes, each frame that is taken leaves once and in its turn, if
only by being lost with the nodes. -/
theorem keepsOrder_of_fits (calls : List Call)
    (hfits : Guarded step Fits (start nodes allocated) calls) :
    ∀ past, past <+: calls → KeepsOrder (past.foldl step (start nodes allocated)) := by
  intro past hpast
  have hinv : (past.foldl step (start nodes allocated)).ring.WellFormed ∧
      KeepsOrder (past.foldl step (start nodes allocated)) := by
    apply (hfits.of_prefix hpast).invariant fun _ s => s.ring.WellFormed ∧ KeepsOrder s
    · exact ⟨wellFormed_start nodes allocated, (losesNothing_start nodes allocated).toKeepsOrder⟩
    · intro past s c h hfits
      exact ⟨wellFormed_call h.1 c, h.2.step h.1 hfits⟩
  exact hinv.2

def smallFormat (length : Int) : capture_format where
  width := 2
  height := 1
  format := v4l2_fourcc 'B' 'A' '8' '1'
  planes_count := 1
  width_stride := fun _ => 64
  length := length
  buffer := some Memory.zero

def oneFrame (length : Int) : List Call :=
  [.init (some (smallFormat 0)) 2 fun _ => some Memory.zero, .queue (some (smallFormat length)) true]

/-- A frame whose lines are padded is written behind its node, and one that is in the ring when it is
given up is lost. -/
theorem not_losesNothing :
    (¬ LosesNothing ((oneFrame 64).foldl step (start (fun _ => smallFormat 0) fun _ => 0))) ∧
    ¬ LosesNothing ((oneFrame 2 ++ [Call.exit]).foldl step
      (start (fun _ => smallFormat 0) fun _ => 0)) := by
  constructor
  · intro h
    exact absurd (h.copies (64, 2) (List.mem_singleton.mpr rfl)) (by decide)
  · intro h
    exact absurd (h.delivered ((smallFormat 2).frame, .lost) (List.mem_singleton.mpr rfl))
      (by decide)

end AwHal.TuningApp.RawFlow
