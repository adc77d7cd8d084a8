import AwHal.TuningApp.CaptureImage
import AwHal.TuningApp.RawFlow

/-!
# The raw flows of several channels

`start_raw_flow`, `stop_raw_flow`, `get_raw_flow_frame` and the frame loops of `capture_image.c` over the
one ring of `raw_flow_opt.c`.  `stop_raw_flow` gives up the ring and `get_raw_flow_frame` takes a frame
out of it after they have unlocked `g_cap_locker`, so that other requests may come in between.
-/

namespace AwHal.TuningApp.RawFlowChannels

open AwHal.Lib AwHal.TuningApp.CaptureImage AwHal.TuningApp.RawFlow eRawFlowErr

def CAPTURE_RAW_FLOW_QUEUE_SIZE : Int := 201

/-- The capture module and the ring, with what the ring does not say: the channel that the frame in each
node was captured on.  `exits` and `gets` are the channels of the requests that are past `g_cap_locker`.
`returned` pairs the channel of a request with that of the frame it got, `discarded` the channel of a
request with that of a frame it freed. -/
structure Server where
  capture : State
  ring : RawQueue
  owner : Nat → Channel
  exits : List Channel := []
  gets : List Channel := []
  returned : List (Channel × Channel) := []
  discarded : List (Channel × Channel) := []

def owners (q : RawQueue) (owner : Nat → Channel) : List Channel :=
  (ringBetween q.g_raw_queue_length owner q.g_raw_queue_head q.g_raw_queue_tail).contents
    q.g_raw_queue_length

def get_raw_flow_frame (channel : Int) (s : Server) : Server :=
  match s.capture.caller, VALID_VIDEO_SEL channel with
  | .nobody, some c =>
      if (s.capture.g_cap_handle c).CAP_RAW_FLOW_RUNNING then { s with gets := s.gets ++ [c] } else s
  | _, _ => s

def get_dequeue (c : Channel) (cap_fmt : capture_format) (s : Server) : Server :=
  if c ∈ s.gets then
    let result := dequeue_raw_flow (some cap_fmt) s.ring
    { s with
      gets := s.gets.erase c
      ring := result.2.2
      returned :=
        if result.1 = ERR_RAW_FLOW_NONE then
          s.returned ++ [(c, s.owner s.ring.g_raw_queue_tail)]
        else s.returned }
  else s

def stop_exit (c : Channel) (s : Server) : Server :=
  if c ∈ s.exits then
    { s with
      exits := s.exits.erase c
      ring := exit_raw_flow s.ring
      discarded := s.discarded ++ (owners s.ring s.owner).map fun o => (c, o) }
  else s

/-- The next section of the request that holds `g_cap_locker`.  `raw_fmt` is the format that
`start_video` has left. -/
def proceed (d : Driver) (raw_fmt : capture_format) (malloc : Nat → Option Memory) (s : Server) :
    Server :=
  match s.capture.caller with
  | .rawFlowInit c =>
      if (s.capture.g_cap_handle c).CAP_RAW_FLOW_RUNNING then
        { s with capture := proceedCaller d s.capture }
      else
        let result := init_raw_flow (some raw_fmt) CAPTURE_RAW_FLOW_QUEUE_SIZE malloc s.ring
        { s with
          capture := proceedCaller { d with init_raw_flow := result.1 = ERR_RAW_FLOW_NONE } s.capture
          ring := result.2
          discarded :=
            if result.1 = ERR_RAW_FLOW_NONE then
              s.discarded ++ (owners s.ring s.owner).map fun o => (c, o)
            else s.discarded }
  | .rawFlowDrain c =>
      let capture := proceedCaller d s.capture
      { s with
        capture
        exits := if capture.caller = .nobody then s.exits ++ [c] else s.exits }
  | _ => { s with capture := proceedCaller d s.capture }

/-- Whether an iteration of a frame loop has a frame for the raw flow of its channel. -/
def rawFrame (d : Driver) (s : State) (c : Channel) (failed_times : Nat) : Bool :=
  !leaves d s c failed_times && get_video_frame d s.video_dev (s.g_cap_handle c).vich &&
    (s.g_cap_handle c).CAP_RAW_FLOW_START

def iteration (d : Driver) (c : Channel) (k : Nat) (cap_fmt : capture_format) (fopen : Bool)
    (s : Server) : Server :=
  let capture := frame_loop d s.capture c k
  match (s.capture.loops c)[k]? with
  | none => { s with capture }
  | some failed_times =>
      if rawFrame d s.capture c failed_times ∧
          ¬ cap_fmt.length < wrapInt (cap_fmt.width * cap_fmt.height) then
        let result := queue_raw_flow (some cap_fmt) fopen s.ring
        { s with
          capture
          ring := result.2.2
          owner :=
            if result.1 = ERR_RAW_FLOW_NONE then
              Function.update s.owner s.ring.g_raw_queue_head (s.capture.g_cap_handle c).vich
            else s.owner }
      else { s with capture }

inductive Event where
  | request (r : Request)
  | proceed (d : Driver) (raw_fmt : capture_format) (malloc : Nat → Option Memory)
  | thread (c : Channel)
  | iteration (d : Driver) (c : Channel) (k : Nat) (cap_fmt : capture_format) (fopen : Bool)
  | get_raw_flow_frame (channel : Int)
  | get_dequeue (c : Channel) (cap_fmt : capture_format)
  | stop_exit (c : Channel)

def step (s : Server) : Event → Server
  | .request r => { s with capture := CaptureImage.step s.capture (.request r) }
  | .proceed d raw_fmt malloc => proceed d raw_fmt malloc s
  | .thread c => { s with capture := frame_loop_thread s.capture c }
  | .iteration d c k cap_fmt fopen => iteration d c k cap_fmt fopen s
  | .get_raw_flow_frame channel => get_raw_flow_frame channel s
  | .get_dequeue c cap_fmt => get_dequeue c cap_fmt s
  | .stop_exit c => stop_exit c s

def start (nodes : Nat → capture_format) (allocated : Nat → Nat) (owner : Nat → Channel) : Server where
  capture := init_capture_module
  ring := ⟨nodes, allocated, 0, 0, 0⟩
  owner

/-! ## What the channels are promised -/

/-- Every frame came from the channel it was asked for, and every frame that a start or a stop freed was
of the channel that was started or stopped. -/
structure Isolated (s : Server) : Prop where
  returned : ∀ p ∈ s.returned, p.2 = p.1
  discarded : ∀ p ∈ s.discarded, p.2 = p.1

def rawFlowOf : Caller → Option Channel
  | .start_video c _ .start_raw_flow => some c
  | .waitThread c .start_raw_flow => some c
  | .rawFlowInit c => some c
  | .rawFlowStart c => some c
  | .rawFlowWait c => some c
  | .rawFlowStop c => some c
  | .rawFlowDrain c => some c
  | _ => none

/-- The raw flow of a channel is on, or being started or stopped under `g_cap_locker`. -/
def Flows (s : State) (c : Channel) : Prop :=
  (s.g_cap_handle c).CAP_RAW_FLOW_START ∨ (s.g_cap_handle c).CAP_RAW_FLOW_RUNNING ∨
    rawFlowOf s.caller = some c

/-- Nor has a request that is past the lock come to its end. -/
def Busy (s : Server) (c : Channel) : Prop := Flows s.capture c ∨ c ∈ s.exits ∨ c ∈ s.gets

instance (s : State) (c : Channel) : Decidable (Flows s c) :=
  inferInstanceAs (Decidable (_ ∨ _ ∨ _))

instance (s : Server) (c : Channel) : Decidable (Busy s c) :=
  inferInstanceAs (Decidable (_ ∨ _ ∨ _))

/-- The raw flow of a channel is started or stopped only while those of the other channels are at rest. -/
def Exclusive (_ : List Event) (s : Server) : Event → Prop
  | .request r => s.capture.caller = .nobody → ∀ c, (enter r).bind rawFlowOf = some c →
      ∀ c', Busy s c' → c' = c
  | _ => True

instance (past : List Event) (s : Server) (e : Event) : Decidable (Exclusive past s e) :=
  match e with
  | .request _ => inferInstanceAs (Decidable (_ → _))
  | .proceed _ _ _ | .thread _ | .iteration _ _ _ _ _ | .get_raw_flow_frame _ | .get_dequeue _ _
  | .stop_exit _ => .isTrue trivial

/-! ## Sections of the capture module -/

/-- A channel that is on has its own device. -/
def OwnDevice (s : State) : Prop :=
  ∀ c, (s.g_cap_handle c).CAP_STATUS_ON → (s.g_cap_handle c).vich = c

/-- The request that holds `g_cap_locker` goes on with the raw flow of the same channel, or ends. -/
structure Follows (before after : Caller) : Prop where
  flow : ∀ c, rawFlowOf after = some c → rawFlowOf before = some c
  drain : ∀ c, before = .rawFlowDrain c → after = .rawFlowDrain c ∨ after = .nobody

theorem Follows.refl (caller : Caller) : Follows caller caller :=
  ⟨fun _ h => h, fun _ h => .inl h⟩

theorem Follows.nobody (caller : Caller) : Follows caller .nobody :=
  ⟨fun _ h => absurd h (Option.some_ne_none _).symm, fun _ _ => .inr rfl⟩

theorem Follows.of_none {before after : Caller} (hbefore : rawFlowOf before = none)
    (hafter : rawFlowOf after = none) : Follows before after := by
  constructor
  · intro c h
    rw [hafter] at h
    cases h
  · intro c h
    rw [h] at hbefore
    cases hbefore

/-- What a section of a thread does to the raw flows. -/
structure Moved (s s' : State) : Prop where
  started : ∀ c, (s'.g_cap_handle c).CAP_RAW_FLOW_START →
    (s.g_cap_handle c).CAP_RAW_FLOW_START ∨ s.caller = .rawFlowStart c
  kept : ∀ c, (s.g_cap_handle c).CAP_RAW_FLOW_START →
    (s'.g_cap_handle c).CAP_RAW_FLOW_START ∨ s'.caller = .rawFlowDrain c
  running : ∀ c, (s'.g_cap_handle c).CAP_RAW_FLOW_RUNNING →
    (s.g_cap_handle c).CAP_RAW_FLOW_RUNNING ∨ (s.g_cap_handle c).CAP_RAW_FLOW_START
  caller : Follows s.caller s'.caller
  device : OwnDevice s → OwnDevice s'

section

variable {s s' : State} {c : Channel} {d : Driver}

theorem Moved.of_update {cap : capture_params}
    (hcap : s'.g_cap_handle = Function.update s.g_cap_handle c cap)
    (hstarted : cap.CAP_RAW_FLOW_START →
      (s.g_cap_handle c).CAP_RAW_FLOW_START ∨ s.caller = .rawFlowStart c)
    (hkept : (s.g_cap_handle c).CAP_RAW_FLOW_START →
      cap.CAP_RAW_FLOW_START ∨ s'.caller = .rawFlowDrain c)
    (hrunning : cap.CAP_RAW_FLOW_RUNNING →
      (s.g_cap_handle c).CAP_RAW_FLOW_RUNNING ∨ (s.g_cap_handle c).CAP_RAW_FLOW_START)
    (hdevice : OwnDevice s → cap.CAP_STATUS_ON → cap.vich = c)
    (hcaller : Follows s.caller s'.caller) : Moved s s' := by
  have hself : s'.g_cap_handle c = cap := by rw [hcap, Function.update_self]
  have hother : ∀ c', c' ≠ c → s'.g_cap_handle c' = s.g_cap_handle c' := by
    intro c' hne
    rw [hcap, Function.update_of_ne hne]
  constructor
  case started =>
    intro c'
    by_cases hc : c' = c
    · rw [hc, hself]
      exact hstarted
    · rw [hother c' hc]
      exact .inl
  case kept =>
    intro c'
    by_cases hc : c' = c
    · rw [hc, hself]
      exact hkept
    · rw [hother c' hc]
      exact .inl
  case running =>
    intro c'
    by_cases hc : c' = c
    · rw [hc, hself]
      exact hrunning
    · rw [hother c' hc]
      exact .inl
  case caller => exact hcaller
  case device =>
    intro hown c'
    by_cases hc : c' = c
    · rw [hc, hself]
      exact hdevice hown
    · rw [hother c' hc]
      exact hown c'

theorem Moved.of_put {cap : capture_params}
    (hcap : s'.g_cap_handle = Function.update s.g_cap_handle c cap)
    (hcaller : Follows s.caller s'.caller)
    (hstart : cap.CAP_RAW_FLOW_START = (s.g_cap_handle c).CAP_RAW_FLOW_START)
    (hrunning : cap.CAP_RAW_FLOW_RUNNING = (s.g_cap_handle c).CAP_RAW_FLOW_RUNNING)
    (hdevice : OwnDevice s → cap.CAP_STATUS_ON → cap.vich = c) : Moved s s' :=
  .of_update hcap (fun h => .inl (hstart ▸ h)) (fun h => .inl (hstart ▸ h))
    (fun h => .inl (hrunning ▸ h)) hdevice hcaller

theorem channel_pos : 0 < CAPTURE_CHANNEL_MAX := by decide

theorem Moved.of_same (hcap : s'.g_cap_handle = s.g_cap_handle)
    (hcaller : Follows s.caller s'.caller) : Moved s s' := by
  have hupdate : s'.g_cap_handle =
      Function.update s.g_cap_handle ⟨0, channel_pos⟩ (s.g_cap_handle ⟨0, channel_pos⟩) := by
    rw [hcap, Function.update_eq_self]
  exact .of_put hupdate hcaller rfl rfl fun hown => hown _

theorem moved_set_sensor_input {width height : Nat} (h : s.caller = .set_sensor_input c width height) :
    Moved s (set_sensor_input d s c width height) := by
  have hwait : Follows s.caller (.waitThread c .set_sensor_input) := by
    rw [h]
    constructor <;> simp [rawFlowOf]
  unfold set_sensor_input
  dsimp only
  -- how the devices are left plays no part
  generalize (if (s.g_cap_handle c).CAP_STATUS_ON = true then
    exit_video (disable_video d s.video_dev c) c else s.video_dev) = devs
  split
  · exact .of_put rfl (.nobody _) rfl rfl fun hown => hown c
  · split
    · exact .of_put rfl (.nobody _) rfl rfl fun _ _ => rfl
    · split
      · exact .of_put rfl (.nobody _) rfl rfl fun _ _ => rfl
      · split
        · exact .of_put rfl (.nobody _) rfl rfl fun _ _ => rfl
        · exact .of_put rfl hwait rfl rfl fun _ _ => rfl

theorem moved_start_video {cap_fmt : Format} {next : Next} (h : s.caller = .start_video c cap_fmt next) :
    Moved s (start_video d s c cap_fmt next) := by
  have hwait : Follows s.caller (.waitThread c next) := by
    rw [h]
    constructor <;> cases next <;> simp [rawFlowOf]
  unfold start_video start_video_get_fmt
  dsimp only
  generalize (if (s.g_cap_handle c).CAP_STATUS_ON = true then
    exit_video (disable_video d s.video_dev c) c else s.video_dev) = devs
  split
  · exact .of_same rfl (.nobody _)
  · split
    · -- the channel is on with the same format
      rename_i hsame
      rw [Bool.and_eq_true] at hsame
      split
      · exact .of_put rfl (.nobody _) rfl rfl fun hown => hown c
      · exact .of_put rfl hwait rfl rfl fun hown _ => hown c hsame.1
    · split
      · exact .of_put rfl (.nobody _) rfl rfl fun _ hon => absurd hon Bool.false_ne_true
      · split
        · exact .of_put rfl (.nobody _) rfl rfl fun _ _ => rfl
        · split
          · exact .of_put rfl (.nobody _) rfl rfl fun _ _ => rfl
          · split
            · exact .of_put rfl (.nobody _) rfl rfl fun _ _ => rfl
            · exact .of_put rfl hwait rfl rfl fun _ _ => rfl

theorem moved_exitOff {caller : Caller} (hcaller : Follows s.caller caller) :
    Moved s { exitOff d s c with caller := caller } := by
  unfold exitOff
  dsimp only
  split
  · exact .of_put rfl hcaller rfl rfl fun _ hon => absurd hon Bool.false_ne_true
  · exact .of_same rfl hcaller

theorem moved_proceedCaller : Moved s (proceedCaller d s) := by
  unfold proceedCaller
  split
  next => exact .of_same rfl (.refl _)
  next => exact .of_same rfl (.refl _)
  next heq => exact moved_set_sensor_input heq
  next heq => exact moved_start_video heq
  next c next heq =>
    split
    · refine .of_same rfl ?_
      rw [heq]
      constructor <;> cases next <;> simp [CaptureImage.proceed, rawFlowOf]
    · exact .of_same rfl (.refl _)
  next => exact .of_same rfl (.nobody _)
  next c heq =>
    split
    · refine .of_same rfl ?_
      rw [heq]
      constructor <;> simp [rawFlowOf]
    · exact .of_same rfl (.nobody _)
  next c heq =>
    -- the start bit is set
    refine .of_update (c := c) rfl (fun _ => .inr heq) (fun _ => .inl rfl) .inl (fun hown => hown c) ?_
    rw [heq]
    constructor <;> simp [rawFlowOf]
  next =>
    split
    · exact .of_same rfl (.nobody _)
    · exact .of_same rfl (.refl _)
  next c heq =>
    -- the start bit is cleared, and the request waits for the frame loop
    refine .of_update (c := c) rfl nofun (fun _ => .inr rfl) .inl (fun hown => hown c) ?_
    rw [heq]
    constructor <;> simp [rawFlowOf]
  next =>
    split
    · exact .of_same rfl (.nobody _)
    · exact .of_same rfl (.refl _)
  next heq =>
    have hnone : rawFlowOf s.caller = none := heq ▸ rfl
    split
    · exact .of_put rfl (.of_none hnone rfl) rfl rfl fun hown => hown _
    · exact .of_same rfl (.of_none hnone rfl)
  next heq =>
    have hnone : rawFlowOf s.caller = none := heq ▸ rfl
    split
    · split
      · exact .of_same rfl (.refl _)
      · exact .of_same rfl (.of_none hnone rfl)
    · exact .of_same rfl (.of_none hnone rfl)
  next heq =>
    have hnone : rawFlowOf s.caller = none := heq ▸ rfl
    split
    · exact moved_exitOff (.of_none hnone rfl)
    · exact .of_same rfl (.refl _)
  next heq => exact .of_same rfl (.of_none (heq ▸ rfl) rfl)

/-! ## The frame loops -/

theorem moved_frame_loop_thread : Moved s (frame_loop_thread s c) := by
  unfold frame_loop_thread
  split
  · exact .of_same rfl (.refl _)
  · dsimp only
    split
    · exact .of_put rfl (.refl _) rfl rfl fun hown => hown c
    · exact .of_same rfl (.refl _)

/-- A frame loop clears the running bit where nobody wants a raw flow. -/
theorem moved_frame_loop {k : Nat} : Moved s (frame_loop d s c k) := by
  unfold frame_loop
  split
  · exact .of_same rfl (.refl _)
  · dsimp only
    split
    · exact .of_put rfl (.refl _) rfl rfl fun _ hon => absurd hon Bool.false_ne_true
    · split
      · exact .of_same rfl (.refl _)
      · exact .of_update rfl .inl .inl .inr (fun hown => hown c) (.refl _)

theorem caller_frame_loop_thread (s : State) (c : Channel) :
    (frame_loop_thread s c).caller = s.caller := by
  unfold frame_loop_thread
  split
  · rfl
  · dsimp only
    split <;> rfl

theorem caller_frame_loop (d : Driver) (s : State) (c : Channel) (k : Nat) :
    (frame_loop d s c k).caller = s.caller := by
  unfold frame_loop
  split
  · rfl
  · dsimp only
    split
    · rfl
    · split <;> rfl

/-- No section begins a raw flow. -/
theorem Moved.flows (h : Moved s s') (hflows : Flows s' c) : Flows s c := by
  rcases hflows with hstart | hrunning | hcaller
  · rcases h.started c hstart with hstart | heq
    · exact .inl hstart
    · exact .inr (.inr (heq ▸ rfl))
  · rcases h.running c hrunning with hrunning | hstart
    · exact .inr (.inl hrunning)
    · exact .inl hstart
  · exact .inr (.inr (h.caller.flow c hcaller))

end

/-! ## The ring -/

section

variable {q : RawQueue} {owner : Nat → Channel}

theorem length_owners (q : RawQueue) (owner : Nat → Channel) :
    (owners q owner).length = q.stored.length := by
  rw [length_stored]
  exact SlotRing.length_contents

theorem owners_eq_nil (h : q.stored = []) (owner : Nat → Channel) : owners q owner = [] := by
  apply List.eq_nil_of_length_eq_zero
  rw [length_owners, h]
  rfl

theorem owners_dequeue (h : q.WellFormed) (owner : Nat → Channel) (node : capture_format) :
    ((dequeue_raw_flow (some node) q).1 ≠ ERR_RAW_FLOW_NONE ∧
        (dequeue_raw_flow (some node) q).2.2 = q) ∨
      ((dequeue_raw_flow (some node) q).1 = ERR_RAW_FLOW_NONE ∧
        owners q owner = owner q.g_raw_queue_tail ::
          owners (dequeue_raw_flow (some node) q).2.2 owner) := by
  rcases dequeue_cases h (some node) with ⟨herr, heq⟩ | ⟨hok, hhead, htail, hne, heq, -⟩
  · exact .inl ⟨herr, congrArg Prod.snd heq⟩
  · refine .inr ⟨hok, ?_⟩
    rw [heq]
    exact contents_ringBetween_pop htail hhead hne

/-- What is in the ring after a frame of channel `c` was brought. -/
theorem mem_owners_queue (h : q.WellFormed) (node : capture_format) (fopen : Bool) (c : Channel)
    {o : Channel}
    (ho : o ∈ owners (queue_raw_flow (some node) fopen q).2.2
      (if (queue_raw_flow (some node) fopen q).1 = ERR_RAW_FLOW_NONE then
        Function.update owner q.g_raw_queue_head c else owner)) :
    o ∈ owners q owner ∨ o = c := by
  rcases queue_cases h (some node) fopen with
    ⟨herr, heq, -⟩ | ⟨hfull, hhead, heq, -⟩ | ⟨n, -, htakes, heq⟩
  · rw [if_neg herr, heq] at ho
    exact .inl ho
  · -- the frames went to the file
    rw [heq, owners_eq_nil (stored_eq_nil rfl)] at ho
    cases ho
  · obtain ⟨hhead, htail⟩ := h.lt htakes.2.1
    rw [heq, if_pos rfl] at ho
    have hpush : owners { q with g_raw_queue_head := q.next q.g_raw_queue_head }
        (Function.update owner q.g_raw_queue_head c) = owners q owner ++ [c] :=
      contents_ringBetween_push htail hhead htakes.2.2.2 c
    have ho : o ∈ owners q owner ++ [c] := hpush ▸ ho
    exact (List.mem_append.mp ho).imp_right List.mem_singleton.mp

theorem wellFormed_queue (h : q.WellFormed) (node : capture_format) (fopen : Bool) :
    (queue_raw_flow (some node) fopen q).2.2.WellFormed :=
  wellFormed_call h (.queue (some node) fopen)

theorem wellFormed_dequeue (h : q.WellFormed) (node : capture_format) :
    (dequeue_raw_flow (some node) q).2.2.WellFormed :=
  wellFormed_call h (.dequeue (some node))

end

/-! ## The invariant -/

/-- Why a frame of a channel may be in the ring. -/
def Holds (s : Server) (c : Channel) : Prop :=
  (s.capture.g_cap_handle c).CAP_RAW_FLOW_START ∨ s.capture.caller = .rawFlowDrain c ∨ c ∈ s.exits

/-- One channel at most has a raw flow, and the frames are its own. -/
structure Inv (s : Server) : Prop where
  ring : s.ring.WellFormed
  device : OwnDevice s.capture
  single : ∀ c c', Busy s c → Busy s c' → c = c'
  held : ∀ c ∈ owners s.ring s.owner, Holds s c
  isolated : Isolated s

section

variable {s : Server} {c : Channel}

theorem Holds.busy (h : Holds s c) : Busy s c := by
  rcases h with hstart | hdrain | hexit
  · exact .inl (.inl hstart)
  · exact .inl (.inr (.inr (hdrain ▸ rfl)))
  · exact .inr (.inl hexit)

/-- A frame in the ring is of the channel that is busy. -/
theorem Inv.owner_eq (h : Inv s) (hbusy : Busy s c) {o : Channel} (ho : o ∈ owners s.ring s.owner) :
    o = c :=
  h.single o c (h.held o ho).busy hbusy

theorem isolated_discard (h : Inv s) (hbusy : Busy s c) :
    ∀ p ∈ s.discarded ++ (owners s.ring s.owner).map fun o => (c, o), p.2 = p.1 := by
  refine List.forall_mem_append.mpr ⟨h.isolated.discarded, ?_⟩
  rintro p hp
  obtain ⟨o, ho, rfl⟩ := List.mem_map.mp hp
  exact h.owner_eq hbusy ho

/-- A step after which no other channel is busy. -/
theorem Inv.of_busy {s' : Server} (h : Inv s) (hbusy : ∀ c, Busy s' c → Busy s c)
    (hring : s'.ring.WellFormed) (hdevice : OwnDevice s'.capture)
    (hheld : ∀ c ∈ owners s'.ring s'.owner, Holds s' c) (hisolated : Isolated s') : Inv s' where
  ring := hring
  device := hdevice
  single := fun c c' hc hc' => h.single c c' (hbusy c hc) (hbusy c' hc')
  held := hheld
  isolated := hisolated

theorem Inv.moved {capture : State} (h : Inv s) (hmoved : Moved s.capture capture)
    (hdrain : ∀ c, s.capture.caller = .rawFlowDrain c → capture.caller = .rawFlowDrain c) :
    Inv { s with capture } := by
  refine h.of_busy (fun c => Or.imp_left hmoved.flows) h.ring (hmoved.device h.device) ?_
    ⟨h.isolated.returned, h.isolated.discarded⟩
  intro c hc
  rcases h.held c hc with hstart | hcaller | hexit
  · exact (hmoved.kept c hstart).imp_right .inl
  · exact .inr (.inl (hdrain c hcaller))
  · exact .inr (.inr hexit)

theorem Inv.request {past : List Event} (h : Inv s) (r : Request)
    (hexclusive : Exclusive past s (.request r)) : Inv (step s (.request r)) := by
  unfold step CaptureImage.step
  dsimp only
  split
  · -- the request takes `g_cap_locker`
    rename_i caller hnobody henter
    have hexclusive : ∀ c, rawFlowOf caller = some c → ∀ c', Busy s c' → c' = c := by
      intro c hc
      exact hexclusive hnobody c (by rw [henter]; exact hc)
    have hbusy : ∀ c, Busy { s with capture := { s.capture with caller := caller } } c →
        Busy s c ∨ rawFlowOf caller = some c := by
      rintro c ((hstart | hrunning | hcaller) | hlists)
      · exact .inl (.inl (.inl hstart))
      · exact .inl (.inl (.inr (.inl hrunning)))
      · exact .inr hcaller
      · exact .inl (.inr hlists)
    constructor
    case ring => exact h.ring
    case device => exact h.device
    case single =>
      intro c c' hc hc'
      rcases hbusy c hc with hc | hc <;> rcases hbusy c' hc' with hc' | hc'
      · exact h.single c c' hc hc'
      · exact hexclusive c' hc' c hc
      · exact (hexclusive c hc c' hc').symm
      · exact Option.some_inj.mp (hc.symm.trans hc')
    case held =>
      intro c hc
      rcases h.held c hc with hstart | hcaller | hexit
      · exact .inl hstart
      · rw [hnobody] at hcaller
        cases hcaller
      · exact .inr (.inr hexit)
    case isolated => exact ⟨h.isolated.returned, h.isolated.discarded⟩
  · exact h

theorem Inv.proceed (h : Inv s) (d : Driver) (raw_fmt : capture_format) (malloc : Nat → Option Memory) :
    Inv (proceed d raw_fmt malloc s) := by
  unfold RawFlowChannels.proceed
  split
  · rename_i c heq
    have hdrain : ∀ c', s.capture.caller ≠ .rawFlowDrain c' := by simp [heq]
    split
    · exact h.moved moved_proceedCaller fun c' hc' => absurd hc' (hdrain c')
    · have hmoved := h.moved (moved_proceedCaller (d := { d with
        init_raw_flow := (init_raw_flow (some raw_fmt) CAPTURE_RAW_FLOW_QUEUE_SIZE malloc s.ring).1 =
          ERR_RAW_FLOW_NONE })) fun c' hc' => absurd hc' (hdrain c')
      rcases init_cases (some raw_fmt) CAPTURE_RAW_FLOW_QUEUE_SIZE malloc s.ring with
        ⟨-, hinit⟩ | ⟨-, hok, hempty, hwell⟩
      · -- the ring is as it was
        rw [hinit] at hmoved ⊢
        exact hmoved
      · -- the frames that are freed are of the channel itself
        have hbusy : Busy s c := .inl (.inr (.inr (heq ▸ rfl)))
        dsimp only
        rw [if_pos hok]
        constructor
        case ring => exact hwell
        case device => exact hmoved.device
        case single => exact hmoved.single
        case held =>
          intro o ho
          rw [owners_eq_nil hempty] at ho
          cases ho
        case isolated => exact ⟨h.isolated.returned, isolated_discard h hbusy⟩
  · rename_i c heq
    have hmoved : Moved s.capture (proceedCaller d s.capture) := moved_proceedCaller
    have hstays := hmoved.caller.drain c heq
    dsimp only
    refine h.of_busy ?_ h.ring (hmoved.device h.device) ?_
      ⟨h.isolated.returned, h.isolated.discarded⟩
    · rintro c' (hflows | hexit | hget)
      · exact .inl (hmoved.flows hflows)
      · dsimp only at hexit
        split at hexit
        · rcases List.mem_append.mp hexit with hexit | hexit
          · exact .inr (.inl hexit)
          · rw [List.mem_singleton.mp hexit]
            exact .inl (.inr (.inr (heq ▸ rfl)))
        · exact .inr (.inl hexit)
      · exact .inr (.inr hget)
    · -- the frames of the channel stay until the ring is given up
      intro o ho
      rcases h.held o ho with hstart | hcaller | hexit
      · exact (hmoved.kept o hstart).imp_right .inl
      · obtain rfl : c = o := by
          rw [heq] at hcaller
          cases hcaller
          rfl
        rcases hstays with hstays | hnobody
        · exact .inr (.inl hstays)
        · refine .inr (.inr ?_)
          dsimp only
          rw [if_pos hnobody]
          exact List.mem_concat_self
      · refine .inr (.inr ?_)
        dsimp only
        split
        · exact List.mem_append_left _ hexit
        · exact hexit
  · rename_i hdrain
    exact h.moved moved_proceedCaller fun c hc => absurd hc (hdrain c)

theorem Inv.iteration (h : Inv s) (d : Driver) (c : Channel) (k : Nat) (cap_fmt : capture_format)
    (fopen : Bool) : Inv (iteration d c k cap_fmt fopen s) := by
  have hmoved : Moved s.capture (frame_loop d s.capture c k) := moved_frame_loop
  have hcapture := h.moved hmoved fun c' hc' => (caller_frame_loop d s.capture c k).trans hc'
  unfold RawFlowChannels.iteration
  dsimp only
  split
  · exact hcapture
  · rename_i failed_times hk
    split
    · rename_i hframe
      have hframe := hframe.1
      simp only [rawFrame, leaves, Bool.and_eq_true, Bool.not_eq_true', Bool.or_eq_false_iff,
        Bool.not_eq_false'] at hframe
      obtain ⟨⟨⟨⟨hon, -⟩, -⟩, -⟩, hstart⟩ := hframe
      constructor
      case ring => exact wellFormed_queue h.ring cap_fmt fopen
      case device => exact hcapture.device
      case single => exact hcapture.single
      case held =>
        intro o ho
        rcases mem_owners_queue h.ring cap_fmt fopen _ ho with ho | rfl
        · exact hcapture.held o ho
        · -- the channel is on, so that the frame is of its own device
          rw [h.device c hon]
          exact (hmoved.kept c hstart).imp_right .inl
      case isolated => exact ⟨h.isolated.returned, h.isolated.discarded⟩
    · exact hcapture

theorem Inv.get_raw_flow_frame (h : Inv s) (channel : Int) : Inv (get_raw_flow_frame channel s) := by
  unfold RawFlowChannels.get_raw_flow_frame
  split
  · rename_i c hnobody hchannel
    split
    · rename_i hrunning
      have hbusy : ∀ c', Busy { s with gets := s.gets ++ [c] } c' → Busy s c' := by
        rintro c' (hflows | hexit | hget)
        · exact .inl hflows
        · exact .inr (.inl hexit)
        · rcases List.mem_append.mp hget with hget | hget
          · exact .inr (.inr hget)
          · rw [List.mem_singleton.mp hget]
            exact .inl (.inr (.inl hrunning))
      exact h.of_busy hbusy h.ring h.device h.held ⟨h.isolated.returned, h.isolated.discarded⟩
    · exact h
  · exact h

theorem Inv.get_dequeue (h : Inv s) (c : Channel) (cap_fmt : capture_format) :
    Inv (get_dequeue c cap_fmt s) := by
  unfold RawFlowChannels.get_dequeue
  split
  · rename_i hget
    dsimp only
    have hbusy : ∀ ring returned c', Busy { s with gets := s.gets.erase c, ring, returned } c' →
        Busy s c' := by
      rintro ring returned c' (hflows | hexit | hget)
      · exact .inl hflows
      · exact .inr (.inl hexit)
      · exact .inr (.inr (List.mem_of_mem_erase hget))
    rcases owners_dequeue h.ring s.owner cap_fmt with ⟨herr, heq⟩ | ⟨hok, howners⟩
    · rw [if_neg herr, heq]
      exact h.of_busy (hbusy _ _) h.ring h.device h.held
        ⟨h.isolated.returned, h.isolated.discarded⟩
    · rw [if_pos hok]
      refine h.of_busy (hbusy _ _) (wellFormed_dequeue h.ring cap_fmt) h.device ?_
        ⟨List.forall_mem_append.mpr ⟨h.isolated.returned, ?_⟩, h.isolated.discarded⟩
      · intro o ho
        exact h.held o (howners ▸ List.mem_cons_of_mem _ ho)
      · rw [List.forall_mem_singleton]
        exact h.owner_eq (.inr (.inr hget)) (howners ▸ List.mem_cons_self)
  · exact h

theorem Inv.stop_exit (h : Inv s) (c : Channel) : Inv (stop_exit c s) := by
  unfold RawFlowChannels.stop_exit
  split
  · rename_i hexit
    have hbusy : ∀ ring discarded c', Busy { s with exits := s.exits.erase c, ring, discarded } c' →
        Busy s c' := by
      rintro ring discarded c' (hflows | hexit | hget)
      · exact .inl hflows
      · exact .inr (.inl (List.mem_of_mem_erase hexit))
      · exact .inr (.inr hget)
    refine h.of_busy (hbusy _ _) (wellFormed_exit h.ring) h.device ?_
      ⟨h.isolated.returned, isolated_discard h (.inr (.inl hexit))⟩
    intro o ho
    rw [owners_eq_nil (stored_exit h.ring)] at ho
    cases ho
  · exact h

/-! ## Runs -/

theorem Inv.step {past : List Event} (h : Inv s) (e : Event) (hexclusive : Exclusive past s e) :
    Inv (step s e) := by
  cases e with
  | request r => exact h.request r hexclusive
  | proceed d raw_fmt malloc => exact h.proceed d raw_fmt malloc
  | thread c =>
      exact h.moved moved_frame_loop_thread fun c' hc' => (caller_frame_loop_thread _ c).trans hc'
  | iteration d c k cap_fmt fopen => exact h.iteration d c k cap_fmt fopen
  | get_raw_flow_frame channel => exact h.get_raw_flow_frame channel
  | get_dequeue c cap_fmt => exact h.get_dequeue c cap_fmt
  | stop_exit c => exact h.stop_exit c

end

variable (nodes : Nat → capture_format) (allocated : Nat → Nat) (owner : Nat → Channel)

theorem not_busy_start (c : Channel) : ¬ Busy (start nodes allocated owner) c := by
  simp [Busy, Flows, start, init_capture_module, rawFlowOf]

theorem inv_start : Inv (start nodes allocated owner) where
  ring := wellFormed_start nodes allocated
  device := fun _ hon => absurd hon Bool.false_ne_true
  single := fun c _ hc => absurd hc (not_busy_start nodes allocated owner c)
  held := by
    intro c hc
    rw [owners_eq_nil (stored_eq_nil rfl)] at hc
    cases hc
  isolated := ⟨nofun, nofun⟩

/-- **In a run that starts and stops a raw flow only while the others are at rest, every frame goes to its
channel.** -/
theorem isolated_of_exclusive (events : List Event)
    (hexclusive : Guarded step Exclusive (start nodes allocated owner) events) :
    ∀ past, past <+: events → Isolated (past.foldl step (start nodes allocated owner)) := by
  intro past hpast
  have hinv : Inv (past.foldl step (start nodes allocated owner)) :=
    (hexclusive.of_prefix hpast).invariant (fun _ s => Inv s) (inv_start nodes allocated owner)
      fun _ _ e h he => h.step e he
  exact hinv.isolated

def driver : Driver := { video_set_fmt := some ⟨v4l2_fourcc 'B' 'A' '8' '1', 2, 1⟩ }

def oneFrame : List Event :=
  let c : Channel := ⟨0, channel_pos⟩
  let go : Event := .proceed driver (smallFormat 0) fun _ => some Memory.zero
  [.request (.set_sensor_input 0 2 1), go, .thread c, go,
    .request (.start_raw_flow 0 ⟨v4l2_fourcc 'B' 'A' '8' '1', 2, 1⟩), go, go, go, go,
    .iteration driver c 0 (smallFormat 2) true, go]

def fetched : List Event :=
  oneFrame ++ [.get_raw_flow_frame 0, .get_dequeue ⟨0, channel_pos⟩ (smallFormat 0)]

theorem isolated_fetched :
    Isolated (fetched.foldl step
      (start (fun _ => smallFormat 0) (fun _ => 0) fun _ => ⟨0, channel_pos⟩)) :=
  isolated_of_exclusive _ _ _ fetched (by decide +kernel) fetched List.prefix_rfl

def otherStopped : List Event :=
  let go : Event := .proceed driver (smallFormat 0) fun _ => some Memory.zero
  oneFrame ++ [.request (.stop_raw_flow 1), go, go, .stop_exit ⟨1, by decide⟩]

/-- The frame of channel 0 is freed. -/
theorem not_isolated :
    ¬ ∀ (nodes : Nat → capture_format) (allocated : Nat → Nat) (owner : Nat → Channel)
      (events past : List Event), past <+: events →
        Isolated (past.foldl step (start nodes allocated owner)) := by
  intro h
  have hdiscarded := (h (fun _ => smallFormat 0) (fun _ => 0) (fun _ => ⟨0, channel_pos⟩) otherStopped
    otherStopped List.prefix_rfl).discarded
  revert hdiscarded
  decide +kernel

end AwHal.TuningApp.RawFlowChannels
