import AwHal.Lib.GuardedRun
import Mathlib.Data.Fintype.Basic
import Mathlib.Logic.Function.Basic
import Mathlib.Algebra.Ring.Nat

/-!
# The capture module of the tuning server

Each channel has a video device, a status and a frame loop.  The requests on the module run one
after another under `g_cap_locker`, the frame loops beside them; the status and the device of a
channel change under the locker of the channel.  A step here is what one thread does while it holds
a channel's locker.
-/

namespace AwHal.TuningApp.CaptureImage

def CAPTURE_CHANNEL_MAX : Nat := 4

abbrev Channel := Fin CAPTURE_CHANNEL_MAX

def VALID_VIDEO_SEL (id : Int) : Option Channel :=
  if h : 0 ≤ id ∧ id < CAPTURE_CHANNEL_MAX then some ⟨id.toNat, by omega⟩ else none

structure Format where
  pixelformat : Nat
  width : Nat
  height : Nat
deriving DecidableEq, Repr

def v4l2_fourcc (a b c d : Char) : Nat :=
  a.toNat + b.toNat * 2 ^ 8 + c.toNat * 2 ^ 16 + d.toNat * 2 ^ 24

def V4L2_PIX_FMT_NV12M : Nat := v4l2_fourcc 'N' 'M' '1' '2'

/-- `V4L2_PIX_FMT_SBGGR8` to `V4L2_PIX_FMT_SRGGB12`: what a raw flow may have. -/
def bayerFormats : List Nat :=
  [v4l2_fourcc 'B' 'A' '8' '1', v4l2_fourcc 'G' 'B' 'R' 'G', v4l2_fourcc 'G' 'R' 'B' 'G',
    v4l2_fourcc 'R' 'G' 'G' 'B', v4l2_fourcc 'B' 'G' '1' '0', v4l2_fourcc 'G' 'B' '1' '0',
    v4l2_fourcc 'B' 'A' '1' '0', v4l2_fourcc 'R' 'G' '1' '0', v4l2_fourcc 'B' 'G' '1' '2',
    v4l2_fourcc 'G' 'B' '1' '2', v4l2_fourcc 'B' 'A' '1' '2', v4l2_fourcc 'R' 'G' '1' '2']

/-! ## The video devices -/

structure VideoDevice where
  format : Format := ⟨0, 0, 0⟩
  streaming : Bool := false
deriving DecidableEq, Repr

/-- `g_media_dev->video_dev`; a device that is not open is `NULL`. -/
abbrev Devices := Channel → Option VideoDevice

structure Driver where
  video_init : Bool := true
  media_video_to_isp_id : Bool := true
  /-- The format that the driver settles on. -/
  video_set_fmt : Option Format := some ⟨0, 0, 0⟩
  buffers_pool_new : Bool := true
  video_req_buffers : Bool := true
  video_stream_on : Bool := true
  video_stream_off : Bool := true
  video_wait_buffer : Bool := true
  video_dequeue_buffer : Bool := true
  pthread_create : Bool := true
  init_raw_flow : Bool := true
deriving DecidableEq, Repr

/-- `isp_video_open`, and whether it returns 0.  It does so without a device if no ISP belongs to
the channel. -/
def init_video (d : Driver) (devs : Devices) (vich : Channel) : Bool × Devices :=
  if (devs vich).isSome then (true, devs)
  else if !d.video_init then (false, devs)
  else if !d.media_video_to_isp_id then (true, devs)
  else (true, Function.update devs vich (some {}))

def exit_video (devs : Devices) (vich : Channel) : Devices := Function.update devs vich none

def set_video_fmt (d : Driver) (devs : Devices) (vich : Channel) : Bool × Devices :=
  match devs vich, d.video_set_fmt with
  | some video, some format =>
      (true, Function.update devs vich (some { video with format := format }))
  | _, _ => (false, devs)

def get_video_fmt (devs : Devices) (vich : Channel) : Option Format := (devs vich).map (·.format)

def enable_video (d : Driver) (devs : Devices) (vich : Channel) : Bool × Devices :=
  match devs vich with
  | none => (false, devs)
  | some video =>
      if !d.buffers_pool_new then (false, devs)
      else if !d.video_req_buffers then (false, devs)
      else if !d.video_stream_on then (false, devs)
      else (true, Function.update devs vich (some { video with streaming := true }))

/-- No caller looks at what it returns, and the buffers are freed only after the stream is off. -/
def disable_video (d : Driver) (devs : Devices) (vich : Channel) : Devices :=
  match devs vich with
  | none => devs
  | some video =>
      if !d.video_stream_off then devs
      else Function.update devs vich (some { video with streaming := false })

def get_video_frame (d : Driver) (devs : Devices) (vich : Channel) : Bool :=
  (devs vich).isSome && d.video_wait_buffer && d.video_dequeue_buffer

/-! ## The channels -/

/-- The status is a bit set in the source. -/
structure capture_params where
  vich : Channel := ⟨0, by decide⟩
  vi_fmt : Format := ⟨0, 0, 0⟩
  CAP_STATUS_ON : Bool := false
  CAP_THREAD_RUNNING : Bool := false
  CAP_THREAD_STOP : Bool := false
  CAP_RAW_FLOW_RUNNING : Bool := false
  CAP_RAW_FLOW_START : Bool := false
deriving DecidableEq, Repr

/-- What the request that waits for a frame loop goes on with. -/
inductive Next where
  | set_sensor_input | get_capture_buffer | start_raw_flow
deriving DecidableEq, Repr

inductive Caller where
  | nobody
  | set_sensor_input (c : Channel) (width height : Nat)
  | start_video (c : Channel) (cap_fmt : Format) (next : Next)
  | waitThread (c : Channel) (next : Next)
  | getFrame (c : Channel)
  | rawFlowInit (c : Channel)
  | rawFlowStart (c : Channel)
  | rawFlowWait (c : Channel)
  | rawFlowStop (c : Channel)
  | rawFlowDrain (c : Channel)
  | exitStop (i : Nat)
  | exitWait (i : Nat)
  | exitOff (i : Nat)
  | exitClose
  | gone
deriving DecidableEq, Repr

/-- `pending` counts the frame loop threads of a channel that were added and have not started yet;
`loops` are those in their loop, each with its `failed_times`. -/
structure State where
  g_cap_handle : Channel → capture_params
  video_dev : Devices
  pending : Channel → Nat
  loops : Channel → List Nat
  g_sensor_set_flag : Nat
  g_media_dev : Bool
  caller : Caller

def init_capture_module : State where
  g_cap_handle := fun _ => {}
  video_dev := fun _ => none
  pending := fun _ => 0
  loops := fun _ => []
  g_sensor_set_flag := 0
  g_media_dev := true
  caller := .nobody

def State.put (s : State) (c : Channel) (cap : capture_params) (devs : Devices) : State :=
  { s with g_cap_handle := Function.update s.g_cap_handle c cap, video_dev := devs }

/-- The end of a successful start: a frame loop is added if none is running, and waited for. -/
def addFrameLoop (d : Driver) (s : State) (c : Channel) (next : Next) : State :=
  let cap := s.g_cap_handle c
  { s with
    pending :=
      if !cap.CAP_THREAD_RUNNING && d.pthread_create then
        Function.update s.pending c (s.pending c + 1)
      else s.pending
    caller := .waitThread c next }

def set_sensor_input (d : Driver) (s : State) (c : Channel) (width height : Nat) : State :=
  let s := { s with caller := .nobody }
  let cap := s.g_cap_handle c
  let devs :=
    if cap.CAP_STATUS_ON then exit_video (disable_video d s.video_dev c) c else s.video_dev
  let (ok, devs) := init_video d devs c
  if !ok then s.put c cap devs
  else
    let cap := { cap with
      CAP_STATUS_ON := false
      vich := c
      vi_fmt := ⟨V4L2_PIX_FMT_NV12M, width, height⟩ }
    let (ok, devs) := set_video_fmt d devs c
    if !ok then s.put c cap (exit_video devs c)
    else
      let (ok, devs) := enable_video d devs c
      if !ok then s.put c cap (exit_video devs c)
      else
        match get_video_fmt devs c with
        | none => s.put c cap (exit_video (disable_video d devs c) c)
        | some format =>
            let s := { s with g_sensor_set_flag := s.g_sensor_set_flag ||| 2 ^ c.val }
            let s := s.put c { cap with vi_fmt := format, CAP_STATUS_ON := true } devs
            addFrameLoop d s c .set_sensor_input

def start_video_get_fmt (d : Driver) (s : State) (c : Channel) (cap : capture_params)
    (devs : Devices) (next : Next) : State :=
  match get_video_fmt devs c with
  | none => s.put c cap (exit_video (disable_video d devs c) c)
  | some format =>
      addFrameLoop d (s.put c { cap with vi_fmt := format, CAP_STATUS_ON := true } devs) c next

def start_video (d : Driver) (s : State) (c : Channel) (cap_fmt : Format) (next : Next) : State :=
  let s := { s with caller := .nobody }
  if s.g_sensor_set_flag = 0 then s
  else
    let cap := s.g_cap_handle c
    if cap.CAP_STATUS_ON && cap.vi_fmt = cap_fmt then
      start_video_get_fmt d s c cap s.video_dev next
    else
      let devs :=
        if cap.CAP_STATUS_ON then exit_video (disable_video d s.video_dev c) c else s.video_dev
      let cap := { cap with CAP_STATUS_ON := false }
      let (ok, devs) := init_video d devs c
      if !ok then s.put c cap devs
      else
        let cap := { cap with vich := c, vi_fmt := cap_fmt }
        let (ok, devs) := set_video_fmt d devs c
        if !ok then s.put c cap (exit_video devs c)
        else
          let (ok, devs) := enable_video d devs c
          if !ok then s.put c cap (exit_video devs c)
          else start_video_get_fmt d s c cap devs next

/-! ## The frame loop -/

/-- A frame loop thread starts; it returns at once if the module is closed. -/
def frame_loop_thread (s : State) (c : Channel) : State :=
  if s.pending c = 0 then s
  else
    let s := { s with pending := Function.update s.pending c (s.pending c - 1) }
    if s.g_media_dev then
      let s := s.put c { s.g_cap_handle c with CAP_THREAD_RUNNING := true } s.video_dev
      { s with loops := Function.update s.loops c (s.loops c ++ [0]) }
    else s

/-- The thread leaves its loop; unless the channel is off already it turns it off. -/
def leave_loop (d : Driver) (s : State) (c : Channel) (k : Nat) : State :=
  let cap := s.g_cap_handle c
  let devs :=
    if cap.CAP_STATUS_ON then exit_video (disable_video d s.video_dev cap.vich) cap.vich
    else s.video_dev
  let s := s.put c { cap with CAP_STATUS_ON := false, CAP_THREAD_RUNNING := false } devs
  { s with loops := Function.update s.loops c ((s.loops c).eraseIdx k) }

def leaves (d : Driver) (s : State) (c : Channel) (failed_times : Nat) : Bool :=
  let cap := s.g_cap_handle c
  !cap.CAP_STATUS_ON || cap.CAP_THREAD_STOP ||
    (!get_video_frame d s.video_dev cap.vich && 10 ≤ failed_times + 1)

def frame_loop (d : Driver) (s : State) (c : Channel) (k : Nat) : State :=
  match (s.loops c)[k]? with
  | none => s
  | some failed_times =>
      let cap := s.g_cap_handle c
      if leaves d s c failed_times then leave_loop d s c k
      else if !get_video_frame d s.video_dev cap.vich then
        { s with loops := Function.update s.loops c ((s.loops c).set k (failed_times + 1)) }
      else
        let s := s.put c { cap with CAP_RAW_FLOW_RUNNING := cap.CAP_RAW_FLOW_START } s.video_dev
        { s with loops := Function.update s.loops c ((s.loops c).set k 0) }

/-! ## The requests -/

inductive Request where
  | set_sensor_input (channel : Int) (width height : Nat)
  | get_capture_buffer (channel : Int) (cap_fmt : Format)
  | start_raw_flow (channel : Int) (cap_fmt : Format)
  | stop_raw_flow (channel : Int)
  | exit_capture_module
deriving DecidableEq, Repr

/-- What a request does after it took `g_cap_locker`; `none` if it is refused before. -/
def enter : Request → Option Caller
  | .set_sensor_input channel width height =>
      (VALID_VIDEO_SEL channel).map fun c => .set_sensor_input c width height
  | .get_capture_buffer channel cap_fmt =>
      (VALID_VIDEO_SEL channel).map fun c => .start_video c cap_fmt .get_capture_buffer
  | .start_raw_flow channel cap_fmt =>
      if cap_fmt.pixelformat ∈ bayerFormats then
        (VALID_VIDEO_SEL channel).map fun c => .start_video c cap_fmt .start_raw_flow
      else none
  | .stop_raw_flow channel => (VALID_VIDEO_SEL channel).map .rawFlowStop
  | .exit_capture_module => some (.exitStop 0)

/-- The frame loop that `start_video` or `set_sensor_input` waited for is running. -/
def proceed (c : Channel) : Next → Caller
  | .set_sensor_input => .nobody
  | .get_capture_buffer => .getFrame c
  | .start_raw_flow => .rawFlowInit c

def exitOff (d : Driver) (s : State) (c : Channel) : State :=
  let cap := s.g_cap_handle c
  if cap.CAP_STATUS_ON then
    s.put c { cap with CAP_STATUS_ON := false }
      (exit_video (disable_video d s.video_dev cap.vich) cap.vich)
  else s

/-- The next section of the request that holds `g_cap_locker`; a request that polls a bit in vain
stays where it is. -/
def proceedCaller (d : Driver) (s : State) : State :=
  match s.caller with
  | .nobody | .gone => s
  | .set_sensor_input c width height => set_sensor_input d s c width height
  | .start_video c cap_fmt next => start_video d s c cap_fmt next
  | .waitThread c next =>
      if (s.g_cap_handle c).CAP_THREAD_RUNNING then { s with caller := proceed c next } else s
  | .getFrame _ => { s with caller := .nobody }
  | .rawFlowInit c =>
      if !(s.g_cap_handle c).CAP_RAW_FLOW_RUNNING && d.init_raw_flow then
        { s with caller := .rawFlowStart c }
      else { s with caller := .nobody }
  | .rawFlowStart c =>
      { s.put c { s.g_cap_handle c with CAP_RAW_FLOW_START := true } s.video_dev with
        caller := .rawFlowWait c }
  | .rawFlowWait c =>
      if (s.g_cap_handle c).CAP_RAW_FLOW_RUNNING then { s with caller := .nobody } else s
  | .rawFlowStop c =>
      { s.put c { s.g_cap_handle c with CAP_RAW_FLOW_START := false } s.video_dev with
        caller := .rawFlowDrain c }
  | .rawFlowDrain c =>
      if !(s.g_cap_handle c).CAP_RAW_FLOW_RUNNING then { s with caller := .nobody } else s
  | .exitStop i =>
      if h : i < CAPTURE_CHANNEL_MAX then
        { s.put ⟨i, h⟩ { s.g_cap_handle ⟨i, h⟩ with CAP_THREAD_STOP := true } s.video_dev with
          caller := .exitStop (i + 1) }
      else { s with caller := .exitWait 0 }
  | .exitWait i =>
      if h : i < CAPTURE_CHANNEL_MAX then
        if (s.g_cap_handle ⟨i, h⟩).CAP_THREAD_RUNNING then s else { s with caller := .exitOff i }
      else { s with caller := .exitClose }
  | .exitOff i =>
      if h : i < CAPTURE_CHANNEL_MAX then
        { exitOff d s ⟨i, h⟩ with caller := .exitWait (i + 1) }
      else s
  | .exitClose => { s with g_media_dev := false, caller := .gone }

/-! ## Interleavings -/

inductive Event where
  | request (r : Request)
  | proceed (d : Driver)
  | thread (c : Channel)
  | iteration (d : Driver) (c : Channel) (k : Nat)
deriving DecidableEq, Repr

def step (s : State) : Event → State
  | .request r =>
      match s.caller, enter r with
      | .nobody, some caller => { s with caller := caller }
      | _, _ => s
  | .proceed d => proceedCaller d s
  | .thread c => frame_loop_thread s c
  | .iteration d c k => frame_loop d s c k

def run (s : State) (events : List Event) : State := events.foldl step s

/-! ## What the status of a channel says -/

def streaming (video : Option VideoDevice) : Bool := video.any (·.streaming)

structure Truthful (s : State) (c : Channel) : Prop where
  on : (s.g_cap_handle c).CAP_STATUS_ON = streaming (s.video_dev c)
  single : (s.loops c).length ≤ 1
  raw : (s.g_cap_handle c).CAP_RAW_FLOW_RUNNING → (s.g_cap_handle c).CAP_THREAD_RUNNING

/-- A sensor input is not set on a channel that is on when its device cannot be opened again, and
no thread leaves the frame loop of a channel with a running raw flow. -/
def Regular (s : State) : Event → Prop
  | .proceed d =>
      match s.caller with
      | .set_sensor_input c _ _ => (s.g_cap_handle c).CAP_STATUS_ON → d.video_init
      | _ => True
  | .iteration d c k =>
      ∀ failed_times, (s.loops c)[k]? = some failed_times → leaves d s c failed_times →
        (s.g_cap_handle c).CAP_RAW_FLOW_RUNNING = false
  | _ => True

/-! ## The invariant -/

structure ChannelOk (s : State) (c : Channel) : Prop where
  on : (s.g_cap_handle c).CAP_STATUS_ON → streaming (s.video_dev c)
  off : (s.g_cap_handle c).CAP_STATUS_ON = false → s.video_dev c = none
  running : (s.g_cap_handle c).CAP_THREAD_RUNNING ↔ s.loops c ≠ []
  single : s.pending c + (s.loops c).length ≤ 1
  added : s.pending c ≠ 0 → ∃ next, s.caller = .waitThread c next
  raw : (s.g_cap_handle c).CAP_RAW_FLOW_RUNNING → (s.g_cap_handle c).CAP_THREAD_RUNNING
  vich : (s.g_cap_handle c).CAP_STATUS_ON → (s.g_cap_handle c).vich = c

def Inv (s : State) : Prop := ∀ c, ChannelOk s c

section

variable {s s' : State} {c : Channel} {d : Driver}

theorem Inv.truthful (h : Inv s) (c : Channel) : Truthful s c where
  on := by
    cases hon : (s.g_cap_handle c).CAP_STATUS_ON with
    | true => exact ((h c).on hon).symm
    | false => rw [(h c).off hon]; rfl
  single := by
    have := (h c).single
    omega
  raw := (h c).raw

theorem inv_init : Inv init_capture_module := by
  intro c
  constructor <;> simp [init_capture_module]

theorem Inv.of_channel (h : Inv s)
    (hframe : ∀ c', c' ≠ c → s'.g_cap_handle c' = s.g_cap_handle c' ∧
      s'.video_dev c' = s.video_dev c' ∧ s'.pending c' = s.pending c' ∧ s'.loops c' = s.loops c')
    (hcaller : s'.caller = s.caller ∨ ∀ c', c' ≠ c → s.pending c' = 0)
    (hok : ChannelOk s' c) : Inv s' := by
  intro c'
  by_cases hc : c' = c
  · rw [hc]
    exact hok
  · obtain ⟨hcap, hdev, hpend, hloops⟩ := hframe c' hc
    have h' := h c'
    constructor
    case added =>
      rw [hpend]
      intro hne
      rcases hcaller with hsame | hzero
      · rw [hsame]
        exact h'.added hne
      · exact absurd (hzero c' hc) hne
    case on => rw [hcap, hdev]; exact h'.on
    case off => rw [hcap, hdev]; exact h'.off
    case running => rw [hcap, hloops]; exact h'.running
    case single => rw [hpend, hloops]; exact h'.single
    case raw => rw [hcap]; exact h'.raw
    case vich => rw [hcap]; exact h'.vich

theorem Inv.pending (h : Inv s) (hcaller : ∀ next, s.caller ≠ .waitThread c next) :
    s.pending c = 0 := by
  by_contra hne
  obtain ⟨next, heq⟩ := (h c).added hne
  exact hcaller next heq

theorem Inv.caller (h : Inv s) (hpend : ∀ c, s.pending c = 0) (caller : Caller) :
    Inv { s with caller := caller } := by
  intro c
  have h' := h c
  exact ⟨h'.on, h'.off, h'.running, h'.single, fun hne => absurd (hpend c) hne, h'.raw, h'.vich⟩

/-! ## The requests keep the invariant -/

def Apart (c : Channel) (devs devs' : Devices) : Prop := ∀ c', c' ≠ c → devs' c' = devs c'

theorem Apart.refl (devs : Devices) : Apart c devs devs := fun _ _ => rfl

theorem Apart.update {devs devs' : Devices} (h : Apart c devs devs') (video : Option VideoDevice) :
    Apart c devs (Function.update devs' c video) := by
  intro c' hc
  rw [Function.update_of_ne hc]
  exact h c' hc

theorem Apart.exit_video {devs devs' : Devices} (h : Apart c devs devs') :
    Apart c devs (exit_video devs' c) := h.update none

theorem Apart.disable_video {devs devs' : Devices} (h : Apart c devs devs') :
    Apart c devs (disable_video d devs' c) := by
  unfold CaptureImage.disable_video
  split
  · exact h
  · split
    · exact h
    · exact h.update _

theorem Apart.init_video {devs devs' : Devices} (h : Apart c devs devs') :
    Apart c devs (init_video d devs' c).2 := by
  unfold CaptureImage.init_video
  repeat' split
  · exact h
  · exact h
  · exact h
  · exact h.update _

theorem Apart.set_video_fmt {devs devs' : Devices} (h : Apart c devs devs') :
    Apart c devs (set_video_fmt d devs' c).2 := by
  unfold CaptureImage.set_video_fmt
  split
  · exact h.update _
  · exact h

theorem Apart.enable_video {devs devs' : Devices} (h : Apart c devs devs') :
    Apart c devs (enable_video d devs' c).2 := by
  unfold CaptureImage.enable_video
  repeat' split
  · exact h
  · exact h
  · exact h
  · exact h
  · exact h.update _

@[simp] theorem exit_video_self (devs : Devices) : exit_video devs c c = none :=
  Function.update_self ..

theorem init_video_of_none {devs : Devices} (h : devs c = none) :
    (init_video d devs c).1 = d.video_init := by
  unfold init_video
  rw [h]
  cases d.video_init <;> cases d.media_video_to_isp_id <;> rfl

theorem init_video_failed {devs : Devices} (h : devs c = none) (hfails : (!d.video_init) = true) :
    (init_video d devs c).2 c = none := by
  simp_all [init_video]

theorem enable_video_streaming {devs : Devices} (h : (enable_video d devs c).1 = true) :
    streaming ((enable_video d devs c).2 c) := by
  unfold enable_video at h ⊢
  repeat' split at h
  · contradiction
  · contradiction
  · contradiction
  · contradiction
  · simp_all [streaming]

theorem get_video_fmt_of_streaming {devs : Devices} (h : streaming (devs c)) :
    ∃ format, get_video_fmt devs c = some format := by
  cases hdev : devs c with
  | none => simp [hdev, streaming] at h
  | some video => exact ⟨video.format, by simp [get_video_fmt, hdev]⟩

theorem Inv.turned_off (h : Inv s) (d : Driver) (c : Channel) :
    ∃ devs, (if (s.g_cap_handle c).CAP_STATUS_ON then
        exit_video (disable_video d s.video_dev c) c else s.video_dev) = devs ∧
      devs c = none ∧ Apart c s.video_dev devs := by
  refine ⟨_, rfl, ?_⟩
  cases hon : (s.g_cap_handle c).CAP_STATUS_ON with
  | true => exact ⟨Function.update_self .., (Apart.refl _).disable_video.exit_video⟩
  | false => exact ⟨(h c).off hon, Apart.refl _⟩

/-- A section that ends with the channel off and its device closed. -/
theorem Inv.put_off {cap : capture_params} {devs : Devices} (h : Inv s)
    (hpend : ∀ c, s.pending c = 0) (hnone : devs c = none) (hapart : Apart c s.video_dev devs)
    (hon : cap.CAP_STATUS_ON = false)
    (hrun : cap.CAP_THREAD_RUNNING = (s.g_cap_handle c).CAP_THREAD_RUNNING)
    (hraw : cap.CAP_RAW_FLOW_RUNNING = (s.g_cap_handle c).CAP_RAW_FLOW_RUNNING) (caller : Caller) :
    Inv ({ s with caller := caller }.put c cap devs) := by
  have h' := h c
  refine h.of_channel (c := c) ?_ (.inr fun c' _ => hpend c') ?_
  · intro c' hc
    simp [State.put, Function.update_of_ne hc, hapart c' hc]
  · constructor <;> simp [State.put, hon, hnone, hpend]
    · rw [hrun]
      exact h'.running
    · have := h'.single
      omega
    · rw [hrun, hraw]
      exact h'.raw

/-- A section that ends with the channel on, its device streaming, and a wait for its frame loop. -/
theorem Inv.put_on {cap : capture_params} {devs : Devices} (h : Inv s)
    (hpend : ∀ c, s.pending c = 0) (hstream : streaming (devs c))
    (hapart : Apart c s.video_dev devs) (hon : cap.CAP_STATUS_ON = true) (hvich : cap.vich = c)
    (hrun : cap.CAP_THREAD_RUNNING = (s.g_cap_handle c).CAP_THREAD_RUNNING)
    (hraw : cap.CAP_RAW_FLOW_RUNNING = (s.g_cap_handle c).CAP_RAW_FLOW_RUNNING)
    (caller : Caller) (flag : Nat) (next : Next) :
    Inv (addFrameLoop d ({ s with caller := caller, g_sensor_set_flag := flag }.put c cap devs) c
      next) := by
  have h' := h c
  refine h.of_channel (c := c) ?_ (.inr fun c' _ => hpend c') ?_
  · intro c' hc
    refine ⟨?_, hapart c' hc, ?_, rfl⟩
    · simp [addFrameLoop, State.put, Function.update_of_ne hc]
    · by_cases hadd : (!cap.CAP_THREAD_RUNNING && d.pthread_create) = true
      · simp [addFrameLoop, State.put, hadd, Function.update_of_ne hc]
      · simp [addFrameLoop, State.put, hadd]
  · constructor <;> simp [addFrameLoop, State.put, hon, hstream, hvich]
    · rw [hrun]
      exact h'.running
    · -- a thread is added only where none is in the loop
      have hsingle := h'.single
      split
      next hadd =>
        have hnil : s.loops c = [] := by
          by_contra hne
          have hrunning := h'.running.mpr hne
          rw [hrun, hrunning] at hadd
          simp at hadd
        simp [hnil, hpend]
      next => exact hsingle
    · rw [hrun, hraw]
      exact h'.raw

theorem Inv.set_sensor_input (h : Inv s) (hpend : ∀ c, s.pending c = 0)
    (hregular : (s.g_cap_handle c).CAP_STATUS_ON → d.video_init) (width height : Nat) :
    Inv (set_sensor_input d s c width height) := by
  obtain ⟨devs, hdevs, hnone, hapart⟩ := h.turned_off d c
  unfold CaptureImage.set_sensor_input
  simp only [hdevs, init_video_of_none hnone]
  split
  next hinit =>
    -- the device stays closed, and the status as it was
    have hon : (s.g_cap_handle c).CAP_STATUS_ON = false := by
      by_contra hon
      simp [hregular (by simpa using hon)] at hinit
    exact h.put_off hpend (init_video_failed hnone hinit) hapart.init_video hon rfl rfl .nobody
  next =>
    have hopen := hapart.init_video (d := d)
    split
    next =>
      apply h.put_off hpend (exit_video_self _)
      · exact hopen.set_video_fmt.exit_video
      all_goals rfl
    next =>
      have hset := hopen.set_video_fmt (d := d)
      split
      next =>
        apply h.put_off hpend (exit_video_self _)
        · exact hset.enable_video.exit_video
        all_goals rfl
      next henable =>
        have hstream := enable_video_streaming (by simpa using henable)
        obtain ⟨format, hformat⟩ := get_video_fmt_of_streaming hstream
        simp only [hformat]
        apply h.put_on hpend hstream hset.enable_video <;> rfl

theorem Inv.start_video (h : Inv s) (hpend : ∀ c, s.pending c = 0) (cap_fmt : Format)
    (next : Next) : Inv (start_video d s c cap_fmt next) := by
  obtain ⟨devs, hdevs, hnone, hapart⟩ := h.turned_off d c
  unfold CaptureImage.start_video start_video_get_fmt
  simp only [hdevs, init_video_of_none hnone]
  split
  next => exact h.caller hpend .nobody
  next =>
    split
    next hsame =>
      have hon : (s.g_cap_handle c).CAP_STATUS_ON = true := by
        simp at hsame
        exact hsame.1
      have hstream := (h c).on hon
      obtain ⟨format, hformat⟩ := get_video_fmt_of_streaming hstream
      simp only [hformat]
      apply h.put_on hpend hstream (Apart.refl _)
      case hvich => exact (h c).vich hon
      all_goals rfl
    next =>
      split
      next hinit =>
        apply h.put_off hpend (init_video_failed hnone hinit) hapart.init_video <;> rfl
      next =>
        have hopen := hapart.init_video (d := d)
        split
        next =>
          apply h.put_off hpend (exit_video_self _)
          · exact hopen.set_video_fmt.exit_video
          all_goals rfl
        next =>
          have hset := hopen.set_video_fmt (d := d)
          split
          next =>
            apply h.put_off hpend (exit_video_self _)
            · exact hset.enable_video.exit_video
            all_goals rfl
          next henable =>
            have hstream := enable_video_streaming (by simpa using henable)
            obtain ⟨format, hformat⟩ := get_video_fmt_of_streaming hstream
            simp only [hformat]
            apply h.put_on hpend hstream hset.enable_video <;> rfl

/-- Only the stop bit or the start bit of a raw flow changes. -/
theorem Inv.put_bits {cap : capture_params} (h : Inv s) (hpend : ∀ c, s.pending c = 0)
    (hon : cap.CAP_STATUS_ON = (s.g_cap_handle c).CAP_STATUS_ON)
    (hrun : cap.CAP_THREAD_RUNNING = (s.g_cap_handle c).CAP_THREAD_RUNNING)
    (hraw : cap.CAP_RAW_FLOW_RUNNING = (s.g_cap_handle c).CAP_RAW_FLOW_RUNNING)
    (hvich : cap.vich = (s.g_cap_handle c).vich) (caller : Caller) :
    Inv { s.put c cap s.video_dev with caller := caller } := by
  have h' := h c
  refine h.of_channel (c := c) ?_ (.inr fun c' _ => hpend c') ?_
  · intro c' hc
    simp [State.put, Function.update_of_ne hc]
  · constructor <;> simp only [State.put, Function.update_self, hon, hrun, hraw, hvich]
    case added => exact fun hne => absurd (hpend c) hne
    case on => exact h'.on
    case off => exact h'.off
    case running => exact h'.running
    case single => exact h'.single
    case raw => exact h'.raw
    case vich => exact h'.vich

theorem Inv.exitOff (h : Inv s) (hpend : ∀ c, s.pending c = 0) (caller : Caller) :
    Inv { exitOff d s c with caller := caller } := by
  unfold CaptureImage.exitOff
  cases hon : (s.g_cap_handle c).CAP_STATUS_ON with
  | false =>
      simp only [hon]
      exact h.caller hpend caller
  | true =>
      simp only [hon, if_true, (h c).vich hon]
      show Inv (State.put { s with caller := caller } c
        { s.g_cap_handle c with CAP_STATUS_ON := false, vich := c }
        (exit_video (disable_video d s.video_dev c) c))
      apply h.put_off hpend (exit_video_self _)
      · exact (Apart.refl _).disable_video.exit_video
      all_goals rfl

theorem Inv.proceedCaller (h : Inv s) (hregular : Regular s (.proceed d)) :
    Inv (proceedCaller d s) := by
  have hpend : (∀ c next, s.caller ≠ .waitThread c next) → ∀ c, s.pending c = 0 :=
    fun hcaller c => h.pending (hcaller c)
  unfold Regular at hregular
  unfold CaptureImage.proceedCaller
  split
  next => exact h
  next => exact h
  next c width height heq =>
    rw [heq] at hregular
    exact h.set_sensor_input (hpend (by simp [heq])) hregular width height
  next c cap_fmt next heq => exact h.start_video (hpend (by simp [heq])) cap_fmt next
  next c next heq =>
    split
    next hrunning =>
      apply h.caller
      intro c'
      by_cases hc : c' = c
      · -- the thread that was waited for is in its loop, so that it is not pending any more
        have hne := (h c).running.mp hrunning
        have hsingle := (h c).single
        have hpos := List.length_pos_iff.mpr hne
        rw [hc]
        omega
      · apply h.pending
        simp [heq, Ne.symm hc]
    next => exact h
  next heq => exact h.caller (hpend (by simp [heq])) _
  next heq =>
    split
    · exact h.caller (hpend (by simp [heq])) _
    · exact h.caller (hpend (by simp [heq])) _
  next heq => apply h.put_bits (hpend (by simp [heq])) <;> rfl
  next heq =>
    split
    · exact h.caller (hpend (by simp [heq])) _
    · exact h
  next heq => apply h.put_bits (hpend (by simp [heq])) <;> rfl
  next heq =>
    split
    · exact h.caller (hpend (by simp [heq])) _
    · exact h
  next heq =>
    split
    · apply h.put_bits (hpend (by simp [heq])) <;> rfl
    · exact h.caller (hpend (by simp [heq])) _
  next heq =>
    split
    · split
      · exact h
      · exact h.caller (hpend (by simp [heq])) _
    · exact h.caller (hpend (by simp [heq])) _
  next heq =>
    split
    · exact h.exitOff (hpend (by simp [heq])) _
    · exact h
  next heq =>
    have hcaller := h.caller (hpend (by simp [heq])) .gone
    intro c
    have h' := hcaller c
    exact ⟨h'.on, h'.off, h'.running, h'.single, h'.added, h'.raw, h'.vich⟩

/-! ## The frame loops keep the invariant -/

theorem Inv.frame_loop_thread (h : Inv s) : Inv (frame_loop_thread s c) := by
  have h' := h c
  have hsingle := h'.single
  unfold CaptureImage.frame_loop_thread
  split
  next => exact h
  next hne =>
    have hnil : s.loops c = [] := List.eq_nil_iff_length_eq_zero.mpr (by omega)
    have hone : s.pending c = 1 := by omega
    simp only
    split
    next =>
      refine h.of_channel (c := c) ?_ (.inl rfl) ?_
      · intro c' hc
        simp [State.put, Function.update_of_ne hc]
      · constructor <;> simp [State.put, hnil, hone]
        · exact h'.on
        · exact h'.off
        · exact h'.vich
    next =>
      refine h.of_channel (c := c) ?_ (.inl rfl) ?_
      · intro c' hc
        simp [Function.update_of_ne hc]
      · constructor <;> simp [hone]
        · exact h'.on
        · exact h'.off
        · exact h'.running
        · omega
        · exact h'.raw
        · exact h'.vich

theorem Inv.leave_loop {k failed_times : Nat} (h : Inv s) (hk : (s.loops c)[k]? = some failed_times)
    (hraw : (s.g_cap_handle c).CAP_RAW_FLOW_RUNNING = false) : Inv (leave_loop d s c k) := by
  have h' := h c
  have hsingle := h'.single
  have hlt := (List.getElem?_eq_some_iff.mp hk).1
  have hnil : (s.loops c).eraseIdx k = [] := by
    apply List.eq_nil_iff_length_eq_zero.mpr
    rw [List.length_eraseIdx_of_lt hlt]
    omega
  have hpend : s.pending c = 0 := by omega
  obtain ⟨devs, hdevs, hnone, hapart⟩ := h.turned_off d c
  have hvich : (if (s.g_cap_handle c).CAP_STATUS_ON then
      exit_video (disable_video d s.video_dev (s.g_cap_handle c).vich) (s.g_cap_handle c).vich
      else s.video_dev) = devs := by
    rw [← hdevs]
    split
    next hon => rw [h'.vich hon]
    next => rfl
  unfold CaptureImage.leave_loop
  simp only [hvich]
  refine h.of_channel (c := c) ?_ (.inl rfl) ?_
  · intro c' hc
    simp [State.put, Function.update_of_ne hc, hapart c' hc]
  · constructor <;> simp [State.put, hnil, hnone, hpend, hraw]

theorem Inv.frame_loop {k : Nat} (h : Inv s) (hregular : Regular s (.iteration d c k)) :
    Inv (frame_loop d s c k) := by
  have h' := h c
  unfold CaptureImage.frame_loop
  split
  next => exact h
  next failed_times hk =>
    simp only
    split
    next hleaves => exact h.leave_loop hk (hregular failed_times hk hleaves)
    next =>
      have hne : s.loops c ≠ [] := by
        intro hnil
        simp [hnil] at hk
      have hrunning := h'.running.mpr hne
      split
      next =>
        refine h.of_channel (c := c) ?_ (.inl rfl) ?_
        · intro c' hc
          simp [Function.update_of_ne hc]
        · constructor <;> simp [hne, hrunning]
          · exact h'.on
          · exact h'.off
          · exact h'.single
          · exact h'.added
          · exact h'.vich
      next =>
        refine h.of_channel (c := c) ?_ (.inl rfl) ?_
        · intro c' hc
          simp [State.put, Function.update_of_ne hc]
        · constructor <;> simp [State.put, hne, hrunning]
          · exact h'.on
          · exact h'.off
          · exact h'.single
          · exact h'.added
          · exact h'.vich

/-! ## Runs -/

theorem Inv.step (h : Inv s) (e : Event) (hregular : Regular s e) : Inv (step s e) := by
  cases e with
  | request r =>
      show Inv (match s.caller, enter r with
        | .nobody, some caller => { s with caller := caller }
        | _, _ => s)
      split
      next heq _ =>
        apply h.caller
        intro c
        apply h.pending
        simp [heq]
      next => exact h
  | proceed d => exact h.proceedCaller hregular
  | thread c => exact h.frame_loop_thread
  | iteration d c k => exact h.frame_loop hregular


/-- A step that is not regular leaves the status of a channel wrong. -/
theorem Inv.regular_of_truthful (h : Inv s) (e : Event)
    (htrue : ∀ c, Truthful (CaptureImage.step s e) c) : Regular s e := by
  cases e with
  | request r => trivial
  | thread c => trivial
  | proceed d =>
      simp only [Regular]
      split
      next c width height heq =>
        intro hon
        by_contra hne
        have hinit : d.video_init = false := by simpa using hne
        obtain ⟨devs, hdevs, hnone, -⟩ := h.turned_off d c
        have hstep : CaptureImage.step s (.proceed d) =
            State.put { s with caller := .nobody } c (s.g_cap_handle c) devs := by
          simp only [CaptureImage.step, CaptureImage.proceedCaller, heq,
            CaptureImage.set_sensor_input, hdevs]
          simp [init_video, hnone, hinit]
        have hfalse := (htrue c).on
        simp [hstep, State.put, hnone, streaming, hon] at hfalse
      next => trivial
  | iteration d c k =>
      intro failed_times hk hleaves
      by_contra hraw
      have hstep : CaptureImage.step s (.iteration d c k) = CaptureImage.leave_loop d s c k := by
        simp [CaptureImage.step, CaptureImage.frame_loop, hk, hleaves]
      have hfalse := (htrue c).raw
      simp [hstep, CaptureImage.leave_loop, State.put, hraw] at hfalse

end

/-- The status of every channel is true in every state of a run exactly when all steps of the run
are regular. -/
theorem truthful_iff_regular (events : List Event) :
    (∀ past, past <+: events → ∀ c, Truthful (run init_capture_module past) c) ↔
      Lib.Guarded step (fun _ s e => Regular s e) init_capture_module events :=
  Lib.forall_prefix_iff_guarded_of_invariant (P := fun s => ∀ c, Truthful s c) (fun _ => Inv)
    inv_init (fun _ _ h => h.truthful) (fun _ _ e h hregular => h.step e hregular)
    (fun _ _ e h => h.regular_of_truthful e)

def staleOn : List Event :=
  [.request (.set_sensor_input 0 640 480), .proceed {}, .thread ⟨0, by decide⟩, .proceed {},
    .request (.set_sensor_input 0 640 480), .proceed { video_init := false }]

/-- After that the status is on and the device is closed. -/
theorem not_truthful_staleOn :
    ¬ ∀ events past, past <+: events → ∀ c, Truthful (run init_capture_module past) c := by
  intro h
  have hfalse := (h staleOn staleOn List.prefix_rfl ⟨0, by decide⟩).on
  revert hfalse
  decide

end AwHal.TuningApp.CaptureImage
