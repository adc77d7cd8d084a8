import AwHal.Lib.GuardedRun
import AwHal.Lib.Handles

/-!
# The pcm handles of the audio HAL

`out_write` and `in_read` start a stream that is in standby: they open a pcm for it, and where the rate
of the device differs from that of the stream they make a resampler.  `out_standby` and `in_standby`,
which they also call when something fails, close the pcm.

What `pcm_open` returns is a handle in any case; `pcm_is_ready` says whether it can be used, and
`pcm_close` has to be called on it once.  The output with `USE_COCEC_HDMI_OUT` is not modelled.
-/

namespace AwHal.Audio.PcmHandles

open AwHal.Lib

def ENOMEM : Int := 12

structure StreamOut where
  standby : Bool
  pcm : Option Nat
  echo_reference : Option Nat
  /-- Whether the last start failed. -/
  startFailed : Bool
deriving DecidableEq, Repr

structure StreamIn where
  standby : Bool
  pcm : Option Nat
  echo_reference : Option Nat
  need_echo_reference : Bool
  num_preprocessors : Nat
  /-- Whether the last start failed. -/
  startFailed : Bool
deriving DecidableEq, Repr

structure AudioDevice where
  active_input : Option Nat
  active_output : Option Nat
  echo_reference : Option Nat
  /-- The echo references made so far. -/
  echoes : Nat
  out : Nat → StreamOut
  input : Nat → StreamIn
  pcms : Handles

structure OutCalls where
  /-- The rates differ. -/
  resample : Bool
  create_resampler : Int
  /-- `calloc` returns a buffer. -/
  buffer : Bool
  /-- `access(EQ_PATH, F_OK)` -/
  access : Int
  pcm_is_ready : Bool
  pcm_write : Int
deriving DecidableEq, Repr

inductive ReadCall where
  | pcm_read
  | pcm_get_htimestamp
deriving DecidableEq, Repr

structure InCalls where
  resample : Bool
  create_resampler : Int
  /-- `in_resampler` is set, also when it could not be made. -/
  itfe : Bool
  buffer : Bool
  /-- `create_echo_reference` returns 0. -/
  create_echo_reference : Bool
  pcm_is_ready : Bool
  /-- The calls made on the pcm while the frames are read, and what the read returns. -/
  reads : List ReadCall
  result : Int
deriving DecidableEq, Repr

section

variable (USE_RESAMPLER : Bool) (s : AudioDevice)

def setOut (o : Nat) (stream : StreamOut) : AudioDevice :=
  { s with out := Function.update s.out o stream }

def setIn (i : Nat) (stream : StreamIn) : AudioDevice :=
  { s with input := Function.update s.input i stream }

/-- Another state of an output, the active output and the pcms with it. -/
def putOut (o : Nat) (stream : StreamOut) (active_output : Option Nat) (pcms : Handles) :
    AudioDevice :=
  { s with
    out := Function.update s.out o stream
    active_output
    pcms }

def putIn (i : Nat) (stream : StreamIn) (active_input : Option Nat) (pcms : Handles) :
    AudioDevice :=
  { s with
    input := Function.update s.input i stream
    active_input
    pcms }

def closePcm (pcm : Option Nat) : Handles :=
  match pcm with
  | some h => s.pcms.close h
  | none => s.pcms

/-! ## Output -/

def do_out_standby (o : Nat) : AudioDevice :=
  if (s.out o).standby then s
  else
    let stream :=
      { s.out o with
        standby := true
        pcm := none
        echo_reference := none }
    putOut s o stream none (closePcm s (s.out o).pcm)

def OutCalls.resamplerFails (calls : OutCalls) : Bool :=
  USE_RESAMPLER && calls.resample && (calls.create_resampler != 0 || !calls.buffer)

def outEcho (o : Nat) : Option Nat := s.echo_reference.or (s.out o).echo_reference

/-- Its result, and the device.  The result of a start that succeeds is that of `access`. -/
def start_output_stream (o : Nat) (calls : OutCalls) : Int × AudioDevice :=
  let stream := { s.out o with echo_reference := outEcho s o }
  let failed := { stream with startFailed := true }
  if USE_RESAMPLER && calls.resample && calls.create_resampler != 0 then
    (calls.create_resampler, putOut s o failed (some o) s.pcms)
  else if USE_RESAMPLER && calls.resample && !calls.buffer then
    (-1, putOut s o failed (some o) s.pcms)
  else
    let pcm := s.pcms.next
    if calls.pcm_is_ready then
      let started :=
        { stream with
          pcm := some pcm
          startFailed := false }
      (calls.access, putOut s o started (some o) s.pcms.give)
    else (-ENOMEM, putOut s o { failed with pcm := some pcm } none (s.pcms.give.close pcm))

def writeData (o : Nat) (ret : Int) (calls : OutCalls) : Int × AudioDevice :=
  let stream := s.out o
  let s := if stream.echo_reference.isSome then { s with pcms := s.pcms.use stream.pcm } else s
  match stream.pcm with
  | some pcm => (calls.pcm_write, { s with pcms := s.pcms.use (some pcm) })
  | none => (ret, s)

def out_standby (o : Nat) : AudioDevice := do_out_standby s o

def out_write (o : Nat) (calls : OutCalls) : AudioDevice :=
  let (ret, s) :=
    if (s.out o).standby then
      start_output_stream USE_RESAMPLER (setOut s o { s.out o with standby := false }) o calls
    else (0, s)
  let (ret, s) := writeData s o ret calls
  if ret ≠ 0 then out_standby s o else s

/-! ## Input -/

/-- The reference is taken from the active output and released. -/
def put_echo_reference (reference : Option Nat) : AudioDevice :=
  if s.echo_reference.isSome ∧ reference = s.echo_reference then
    let s :=
      match s.active_output with
      | some a =>
          if (s.out a).echo_reference = reference then
            setOut s a { s.out a with echo_reference := none }
          else s
      | none => s
    { s with echo_reference := none }
  else s

def get_echo_reference (created : Bool) : Option Nat × AudioDevice :=
  let s := put_echo_reference s s.echo_reference
  match s.active_output, created with
  | some a, true =>
      (some s.echoes,
        { setOut s a { s.out a with echo_reference := some s.echoes } with
          echo_reference := some s.echoes
          echoes := s.echoes + 1 })
  | _, _ => (s.echo_reference, s)

def do_in_standby (i : Nat) : AudioDevice :=
  if (s.input i).standby then s
  else
    let stream :=
      { s.input i with
        standby := true
        pcm := none
        echo_reference := none }
    let echo := (s.input i).echo_reference
    let s := putIn s i stream s.active_input (closePcm s (s.input i).pcm)
    if echo.isSome then put_echo_reference s echo else s

def in_standby (i : Nat) : AudioDevice := do_in_standby s i

def InCalls.resamplerFails (calls : InCalls) : Bool :=
  USE_RESAMPLER && calls.resample && (calls.create_resampler != 0 || !calls.buffer)

def resamplerResult (calls : InCalls) : Int :=
  if USE_RESAMPLER && calls.resample then
    if calls.create_resampler ≠ 0 ∧ calls.itfe then -1
    else if calls.buffer then calls.create_resampler
    else -1
  else 0

def startEcho (i : Nat) (calls : InCalls) : AudioDevice :=
  if (s.input i).need_echo_reference ∧ (s.input i).echo_reference = none then
    let (echo, s) := get_echo_reference s calls.create_echo_reference
    setIn s i { s.input i with echo_reference := echo }
  else s

def start_input_stream (i : Nat) (calls : InCalls) : Int × AudioDevice :=
  let s := startEcho { s with active_input := some i } i calls
  let pcm := s.pcms.next
  if calls.pcm_is_ready then
    let ret := resamplerResult USE_RESAMPLER calls
    let stream :=
      { s.input i with
        pcm := some pcm
        startFailed := ret != 0 }
    (ret, putIn s i stream (some i) s.pcms.give)
  else
    let stream :=
      { s.input i with
        pcm := some pcm
        startFailed := true }
    (-ENOMEM, putIn s i stream none (s.pcms.give.close pcm))

/-- A read with preprocessors also takes time stamps while there is an echo reference; one without
them is made only with a pcm. -/
def readData (i : Nat) (ret : Int) (calls : InCalls) : Int × AudioDevice :=
  let stream := s.input i
  if stream.num_preprocessors ≠ 0 then
    let reads := calls.reads.filter fun call =>
      call = .pcm_read || stream.echo_reference.isSome
    (calls.result, { s with pcms := reads.foldl (fun pcms _ => pcms.use stream.pcm) s.pcms })
  else if stream.pcm.isSome then
    let reads := calls.reads.filter (· = .pcm_read)
    (calls.result, { s with pcms := reads.foldl (fun pcms _ => pcms.use stream.pcm) s.pcms })
  else (ret, s)

def in_read (i : Nat) (calls : InCalls) : AudioDevice :=
  if (s.input i).standby then
    let (ret, s) := start_input_stream USE_RESAMPLER s i calls
    if ret ≠ 0 then in_standby s i
    else
      let (ret, s) := readData (setIn s i { s.input i with standby := false }) i ret calls
      if ret ≠ 0 then in_standby s i else s
  else
    let (ret, s) := readData s i (-1) calls
    if ret ≠ 0 then in_standby s i else s

end

inductive Event where
  | out_write (o : Nat) (calls : OutCalls)
  | out_standby (o : Nat)
  | in_read (i : Nat) (calls : InCalls)
  | in_standby (i : Nat)
deriving DecidableEq, Repr

def step (USE_RESAMPLER : Bool) (s : AudioDevice) : Event → AudioDevice
  | .out_write o calls => out_write USE_RESAMPLER s o calls
  | .out_standby o => out_standby s o
  | .in_read i calls => in_read USE_RESAMPLER s i calls
  | .in_standby i => in_standby s i

def initial (need_echo_reference : Nat → Bool) (num_preprocessors : Nat → Nat) : AudioDevice where
  active_input := none
  active_output := none
  echo_reference := none
  echoes := 0
  out := fun _ => ⟨true, none, none, false⟩
  input := fun i => ⟨true, none, none, need_echo_reference i, num_preprocessors i, false⟩
  pcms := Handles.empty

/-! ## What the handles are to keep, and when they do -/

inductive StreamId where
  | out (o : Nat)
  | input (i : Nat)
deriving DecidableEq, Repr

def held (s : AudioDevice) : StreamId → Option Nat
  | .out o => if (s.out o).standby then none else (s.out o).pcm
  | .input i => if (s.input i).standby then none else (s.input i).pcm

structure Sound (s : AudioDevice) : Prop where
  closed_once : s.pcms.closed.Nodup
  /-- Every call on a pcm, `pcm_close` too, had an open handle. -/
  used_open : s.pcms.misused = false
  /-- A handle that is open belongs to a stream that closes it on standby. -/
  recorded : ∀ h, s.pcms.IsOpen h → ∃ id, held s id = some h
  out_open : ∀ o, (s.out o).standby = false → ∃ h, (s.out o).pcm = some h ∧ s.pcms.IsOpen h
  in_open : ∀ i, (s.input i).standby = false → ∃ h, (s.input i).pcm = some h ∧ s.pcms.IsOpen h
  out_failed : ∀ o, (s.out o).startFailed = true → s.active_output ≠ some o
  in_failed : ∀ i, (s.input i).startFailed = true → s.active_input ≠ some i

/-- The start of an output fails only at the resampler and without an echo reference, that of an input
only at `pcm_open`. -/
def ok (USE_RESAMPLER : Bool) (s : AudioDevice) : Event → Prop
  | .out_write o calls =>
      (s.out o).standby = true →
        if calls.resamplerFails USE_RESAMPLER then
          s.echo_reference = none ∧ (s.out o).echo_reference = none
        else calls.pcm_is_ready = true
  | .in_read i calls =>
      (s.input i).standby = true → calls.pcm_is_ready = true →
        calls.resamplerFails USE_RESAMPLER = false
  | _ => True

/-- With `skip`, the start of that output has just failed. -/
structure Inv (skip : Option Nat) (s : AudioDevice) : Prop where
  ledger : Handles.Ledger s.pcms (held s)
  out_pcm : ∀ o, (s.out o).standby = true → (s.out o).pcm = none
  out_started : ∀ o, some o ≠ skip → (s.out o).standby = false → (s.out o).pcm.isSome
  in_started : ∀ i, (s.input i).standby = false → (s.input i).pcm.isSome
  out_failed : ∀ o, some o ≠ skip → (s.out o).startFailed = true → s.active_output ≠ some o
  in_failed : ∀ i, (s.input i).startFailed = true → s.active_input ≠ some i

variable {s s' : AudioDevice} {o i : Nat} {USE_RESAMPLER : Bool} {skip : Option Nat}

theorem held_out (h : (s.out o).standby = false) : held s (.out o) = (s.out o).pcm := by
  simp [held, h]

theorem held_in (h : (s.input i).standby = false) : held s (.input i) = (s.input i).pcm := by
  simp [held, h]

theorem Inv.sound (h : Inv none s) : Sound s where
  closed_once := h.ledger.nodup
  used_open := h.ledger.good
  recorded := fun k => (h.ledger.isOpen_iff k).mp
  out_open := by
    intro o ho
    obtain ⟨k, hk⟩ := Option.isSome_iff_exists.mp (h.out_started o (by simp) ho)
    exact ⟨k, hk, (h.ledger.isOpen_iff k).mpr ⟨.out o, (held_out ho).trans hk⟩⟩
  in_open := by
    intro i hi
    obtain ⟨k, hk⟩ := Option.isSome_iff_exists.mp (h.in_started i hi)
    exact ⟨k, hk, (h.ledger.isOpen_iff k).mpr ⟨.input i, (held_in hi).trans hk⟩⟩
  out_failed := fun o => h.out_failed o (by simp)
  in_failed := h.in_failed

theorem inv_initial (need : Nat → Bool) (num : Nat → Nat) : Inv none (initial need num) where
  ledger := by
    have hheld : held (initial need num) = fun _ => none := by
      funext id
      cases id <;> rfl
    rw [hheld]
    exact Handles.Ledger.empty
  out_pcm := fun _ _ => rfl
  out_started := by simp [initial]
  in_started := by simp [initial]
  out_failed := by simp [initial]
  in_failed := by simp [initial]

/-! ## Echo references leave the handles alone -/

/-- The two states differ in echo references only. -/
structure SameStreams (s s' : AudioDevice) : Prop where
  pcms : s'.pcms = s.pcms
  active_output : s'.active_output = s.active_output
  active_input : s'.active_input = s.active_input
  out : ∀ o, (s'.out o).standby = (s.out o).standby ∧ (s'.out o).pcm = (s.out o).pcm ∧
    (s'.out o).startFailed = (s.out o).startFailed
  input : ∀ i, (s'.input i).standby = (s.input i).standby ∧ (s'.input i).pcm = (s.input i).pcm ∧
    (s'.input i).startFailed = (s.input i).startFailed

theorem SameStreams.refl (s : AudioDevice) : SameStreams s s :=
  ⟨rfl, rfl, rfl, fun _ => ⟨rfl, rfl, rfl⟩, fun _ => ⟨rfl, rfl, rfl⟩⟩

theorem SameStreams.trans {s'' : AudioDevice} (h : SameStreams s s') (h' : SameStreams s' s'') :
    SameStreams s s'' where
  pcms := h'.pcms.trans h.pcms
  active_output := h'.active_output.trans h.active_output
  active_input := h'.active_input.trans h.active_input
  out := fun o => ⟨(h'.out o).1.trans (h.out o).1, (h'.out o).2.1.trans (h.out o).2.1,
    (h'.out o).2.2.trans (h.out o).2.2⟩
  input := fun i => ⟨(h'.input i).1.trans (h.input i).1, (h'.input i).2.1.trans (h.input i).2.1,
    (h'.input i).2.2.trans (h.input i).2.2⟩

theorem SameStreams.held_eq (h : SameStreams s s') : held s' = held s := by
  funext id
  cases id with
  | out o => simp [held, (h.out o).1, (h.out o).2.1]
  | input i => simp [held, (h.input i).1, (h.input i).2.1]

theorem Inv.congr (h : Inv skip s) (hsame : SameStreams s s') : Inv skip s' where
  ledger := by
    rw [hsame.pcms, hsame.held_eq]
    exact h.ledger
  out_pcm := by
    intro o
    rw [(hsame.out o).1, (hsame.out o).2.1]
    exact h.out_pcm o
  out_started := by
    intro o
    rw [(hsame.out o).1, (hsame.out o).2.1]
    exact h.out_started o
  in_started := by
    intro i
    rw [(hsame.input i).1, (hsame.input i).2.1]
    exact h.in_started i
  out_failed := by
    intro o
    rw [(hsame.out o).2.2, hsame.active_output]
    exact h.out_failed o
  in_failed := by
    intro i
    rw [(hsame.input i).2.2, hsame.active_input]
    exact h.in_failed i

theorem sameStreams_setOut (a : Nat) (echo reference : Option Nat) (echoes : Nat) :
    SameStreams s
      { setOut s a { s.out a with echo_reference := echo } with
        echo_reference := reference
        echoes := echoes } := by
  refine ⟨rfl, rfl, rfl, ?_, fun _ => ⟨rfl, rfl, rfl⟩⟩
  intro o
  by_cases ho : o = a
  · simp [setOut, ho]
  · simp [setOut, ho]

theorem sameStreams_setIn (a : Nat) (echo : Option Nat) :
    SameStreams s (setIn s a { s.input a with echo_reference := echo }) := by
  refine ⟨rfl, rfl, rfl, fun _ => ⟨rfl, rfl, rfl⟩, ?_⟩
  intro i
  by_cases hi : i = a
  · simp [setIn, hi]
  · simp [setIn, hi]

theorem sameStreams_put_echo_reference (s : AudioDevice) (reference : Option Nat) :
    SameStreams s (put_echo_reference s reference) := by
  unfold put_echo_reference
  split
  · dsimp only
    split
    · split
      · exact sameStreams_setOut _ none none s.echoes
      · exact ⟨rfl, rfl, rfl, fun _ => ⟨rfl, rfl, rfl⟩, fun _ => ⟨rfl, rfl, rfl⟩⟩
    · exact ⟨rfl, rfl, rfl, fun _ => ⟨rfl, rfl, rfl⟩, fun _ => ⟨rfl, rfl, rfl⟩⟩
  · exact .refl s

theorem sameStreams_startEcho (s : AudioDevice) (i : Nat) (calls : InCalls) :
    SameStreams s (startEcho s i calls) := by
  unfold startEcho
  split
  · have hget : SameStreams s (get_echo_reference s calls.create_echo_reference).2 := by
      unfold get_echo_reference
      have hput := sameStreams_put_echo_reference s s.echo_reference
      dsimp only
      split
      · exact hput.trans (sameStreams_setOut _ _ _ _)
      · exact hput
    exact hget.trans (sameStreams_setIn i _)
  · exact .refl s

/-! ## New states of a stream -/

theorem held_putOut (stream : StreamOut) (active : Option Nat) (pcms : Handles) :
    held (putOut s o stream active pcms) =
      Function.update (held s) (.out o) (if stream.standby then none else stream.pcm) := by
  funext id
  cases id with
  | input i =>
      rw [Function.update_of_ne (by simp)]
      rfl
  | out o' =>
      by_cases ho : o' = o
      · simp [held, putOut, ho]
      · rw [Function.update_of_ne (by simp [ho])]
        simp only [held, putOut, Function.update_of_ne ho]

theorem held_putIn (stream : StreamIn) (active : Option Nat) (pcms : Handles) :
    held (putIn s i stream active pcms) =
      Function.update (held s) (.input i) (if stream.standby then none else stream.pcm) := by
  funext id
  cases id with
  | out o =>
      rw [Function.update_of_ne (by simp)]
      rfl
  | input i' =>
      by_cases hi : i' = i
      · simp [held, putIn, hi]
      · rw [Function.update_of_ne (by simp [hi])]
        simp only [held, putIn, Function.update_of_ne hi]

theorem Inv.putOut (h : Inv (some o) s) {stream : StreamOut} {active : Option Nat} {pcms : Handles}
    (hledger : Handles.Ledger pcms
      (Function.update (held s) (.out o) (if stream.standby then none else stream.pcm)))
    (hpcm : stream.standby = true → stream.pcm = none)
    (hstarted : some o ≠ skip → stream.standby = false → stream.pcm.isSome)
    (hfailed : some o ≠ skip → stream.startFailed = true → active ≠ some o)
    (hactive : active = none ∨ active = some o) : Inv skip (putOut s o stream active pcms) where
  ledger := by
    rw [held_putOut]
    exact hledger
  out_pcm := by
    intro o' ho'
    by_cases heq : o' = o
    · subst heq
      simp only [PcmHandles.putOut, Function.update_self] at ho' ⊢
      exact hpcm ho'
    · simp only [PcmHandles.putOut, Function.update_of_ne heq] at ho' ⊢
      exact h.out_pcm o' ho'
  out_started := by
    intro o' hskip ho'
    by_cases heq : o' = o
    · subst heq
      simp only [PcmHandles.putOut, Function.update_self] at ho' ⊢
      exact hstarted hskip ho'
    · simp only [PcmHandles.putOut, Function.update_of_ne heq] at ho' ⊢
      exact h.out_started o' (fun hsome => heq (Option.some.inj hsome)) ho'
  in_started := h.in_started
  out_failed := by
    intro o' hskip ho'
    by_cases heq : o' = o
    · subst heq
      simp only [PcmHandles.putOut, Function.update_self] at ho'
      exact hfailed hskip ho'
    · intro hsome
      rcases hactive with hnone | hsome'
      · cases hnone.symm.trans hsome
      · exact heq (Option.some.inj (hsome.symm.trans hsome'))
  in_failed := h.in_failed

theorem Inv.putIn (h : Inv none s) {stream : StreamIn} {active : Option Nat} {pcms : Handles}
    (hledger : Handles.Ledger pcms
      (Function.update (held s) (.input i) (if stream.standby then none else stream.pcm)))
    (hstarted : stream.standby = false → stream.pcm.isSome)
    (hfailed : stream.startFailed = true → active ≠ some i)
    (hactive : active = none ∨ active = some i ∨ active = s.active_input) :
    Inv none (putIn s i stream active pcms) where
  ledger := by
    rw [held_putIn]
    exact hledger
  out_pcm := h.out_pcm
  out_started := h.out_started
  in_started := by
    intro i' hi'
    by_cases heq : i' = i
    · subst heq
      simp only [PcmHandles.putIn, Function.update_self] at hi' ⊢
      exact hstarted hi'
    · simp only [PcmHandles.putIn, Function.update_of_ne heq] at hi' ⊢
      exact h.in_started i' hi'
  out_failed := h.out_failed
  in_failed := by
    intro i' hi'
    by_cases heq : i' = i
    · subst heq
      simp only [PcmHandles.putIn, Function.update_self] at hi'
      exact hfailed hi'
    · simp only [PcmHandles.putIn, Function.update_of_ne heq] at hi'
      show active ≠ some i'
      rcases hactive with hnone | hsome | hsame
      · simp [hnone]
      · simp [hsome, Ne.symm heq]
      · rw [hsame]
        exact h.in_failed i' hi'

theorem Inv.weaken (h : Inv none s) (o : Nat) : Inv (some o) s :=
  ⟨h.ledger, h.out_pcm, fun o' _ => h.out_started o' (by simp), h.in_started,
    fun o' _ => h.out_failed o' (by simp), h.in_failed⟩

/-! ## Standby -/

/-- What a stream that goes to standby holds is closed. -/
theorem ledger_closePcm {id : StreamId} {pcm : Option Nat} (h : Handles.Ledger s.pcms (held s))
    (hid : held s id = pcm) :
    Handles.Ledger (closePcm s pcm) (Function.update (held s) id none) := by
  cases pcm with
  | some k => exact h.close hid
  | none =>
      rw [Function.update_eq_self_iff.mpr hid.symm]
      exact h

theorem Inv.do_out_standby (h : Inv (some o) s) (ho : (s.out o).standby = false) :
    Inv none (do_out_standby s o) := by
  unfold PcmHandles.do_out_standby
  rw [if_neg (by simp [ho])]
  exact h.putOut (ledger_closePcm h.ledger (held_out ho)) (fun _ => rfl) (by simp) (by simp)
    (.inl rfl)

theorem Inv.out_standby (h : Inv none s) (o : Nat) : Inv none (out_standby s o) := by
  cases ho : (s.out o).standby with
  | true =>
      unfold PcmHandles.out_standby PcmHandles.do_out_standby
      rw [if_pos ho]
      exact h
  | false => exact (h.weaken o).do_out_standby ho

theorem Inv.in_standby (h : Inv none s) (i : Nat) : Inv none (in_standby s i) := by
  unfold PcmHandles.in_standby PcmHandles.do_in_standby
  split
  · exact h
  · rename_i hi
    have hi : (s.input i).standby = false := by simpa using hi
    dsimp only
    have hstandby : Inv none (PcmHandles.putIn s i
        { s.input i with
          standby := true
          pcm := none
          echo_reference := none } s.active_input (closePcm s (s.input i).pcm)) :=
      h.putIn (ledger_closePcm h.ledger (held_in hi)) (by simp) (h.in_failed i) (.inr (.inr rfl))
    split
    · exact hstandby.congr (sameStreams_put_echo_reference _ _)
    · exact hstandby

/-! ## Output -/

theorem held_of_standby (h : (s.out o).standby = true) : held s (.out o) = none := by
  simp [held, h]

/-- With an open pcm, the calls on it change nothing. -/
theorem writeData_eq {k : Nat} (hpcm : (s.out o).pcm = some k) (hopen : s.pcms.IsOpen k) (ret : Int)
    (calls : OutCalls) : writeData s o ret calls = (calls.pcm_write, s) := by
  have huse := Handles.use_eq_self hopen
  simp only [writeData, hpcm]
  cases (s.out o).echo_reference with
  | none => simp [huse]
  | some echo => simp [huse]

theorem Inv.writeData (h : Inv none s) (ho : (s.out o).standby = false) (ret : Int)
    (calls : OutCalls) : writeData s o ret calls = (calls.pcm_write, s) := by
  obtain ⟨k, hpcm, hopen⟩ := h.sound.out_open o ho
  exact writeData_eq hpcm hopen ret calls

def awake (s : AudioDevice) (o : Nat) : AudioDevice :=
  setOut s o { s.out o with standby := false }

theorem awake_out (s : AudioDevice) (o : Nat) :
    (awake s o).out o = { s.out o with standby := false } := by
  simp [awake, setOut]

theorem putOut_awake (stream : StreamOut) (active : Option Nat) (pcms : Handles) :
    putOut (awake s o) o stream active pcms = putOut s o stream active pcms := by
  simp [putOut, awake, setOut]

theorem outEcho_awake : outEcho (awake s o) o = outEcho s o := by
  simp [outEcho, awake, setOut]

theorem resamplerFails_eq_false_iff (calls : OutCalls) :
    calls.resamplerFails USE_RESAMPLER = false ↔
      (USE_RESAMPLER && calls.resample && calls.create_resampler != 0) = false ∧
        (USE_RESAMPLER && calls.resample && !calls.buffer) = false := by
  unfold OutCalls.resamplerFails
  cases USE_RESAMPLER && calls.resample <;> simp

theorem Inv.start_ok (h : Inv none s) (ho : (s.out o).standby = true) {calls : OutCalls}
    (hres : calls.resamplerFails USE_RESAMPLER = false) (hready : calls.pcm_is_ready = true) :
    Inv none (start_output_stream USE_RESAMPLER (awake s o) o calls).2 ∧
      (((start_output_stream USE_RESAMPLER (awake s o) o calls).2).out o).standby = false := by
  have hheld : held s (.out o) = none := held_of_standby ho
  obtain ⟨hcreate, hbuffer⟩ := (resamplerFails_eq_false_iff calls).mp hres
  unfold start_output_stream
  simp only [hcreate, hbuffer, hready, Bool.false_eq_true, if_false, if_true, putOut_awake, awake_out]
  constructor
  · refine (h.weaken o).putOut ?_ (by simp) (by simp) (by simp) (.inr rfl)
    exact h.ledger.give hheld
  · simp [PcmHandles.putOut]

def resamplerFailed (s : AudioDevice) (o : Nat) : AudioDevice :=
  let stream :=
    { s.out o with
      standby := false
      echo_reference := outEcho s o
      startFailed := true }
  putOut s o stream (some o) s.pcms

theorem start_resamplerFails {calls : OutCalls}
    (hres : calls.resamplerFails USE_RESAMPLER = true) :
    ∃ ret, ret ≠ 0 ∧ start_output_stream USE_RESAMPLER (awake s o) o calls =
      (ret, resamplerFailed s o) := by
  unfold OutCalls.resamplerFails at hres
  rw [Bool.and_eq_true, Bool.or_eq_true] at hres
  unfold start_output_stream
  simp only [putOut_awake, awake_out, outEcho_awake]
  by_cases hcreate : calls.create_resampler = 0
  · refine ⟨-1, by decide, ?_⟩
    have hbuffer : calls.buffer = false := by simpa [hcreate] using hres.2
    simp [hcreate, hbuffer, hres.1]
    rfl
  · refine ⟨calls.create_resampler, hcreate, ?_⟩
    simp [hcreate, hres.1]
    rfl

theorem writeData_none (hpcm : (s.out o).pcm = none) (hecho : (s.out o).echo_reference = none)
    (ret : Int) (calls : OutCalls) : writeData s o ret calls = (ret, s) := by
  simp [writeData, hpcm, hecho]

theorem resamplerFailed_out (s : AudioDevice) (o : Nat) :
    (resamplerFailed s o).out o =
      { s.out o with
        standby := false
        echo_reference := outEcho s o
        startFailed := true } := by
  simp [resamplerFailed, putOut]

theorem Inv.resamplerFailed (h : Inv none s) (ho : (s.out o).standby = true) :
    Inv (some o) (resamplerFailed s o) := by
  refine (h.weaken o).putOut ?_ (by simp) (by simp) (by simp) (.inr rfl)
  simp only [Bool.false_eq_true, if_false, h.out_pcm o ho]
  rw [Function.update_eq_self_iff.mpr (held_of_standby ho).symm]
  exact h.ledger

theorem Inv.out_write (h : Inv none s) {calls : OutCalls}
    (hok : ok USE_RESAMPLER s (.out_write o calls)) :
    Inv none (out_write USE_RESAMPLER s o calls) := by
  unfold PcmHandles.out_write
  cases ho : (s.out o).standby with
  | false =>
      simp only [Bool.false_eq_true, if_false]
      rw [h.writeData ho]
      dsimp only
      split
      · exact h.out_standby o
      · exact h
  | true =>
      have hok := hok ho
      simp only [if_true]
      rw [show setOut s o { s.out o with standby := false } = awake s o from rfl]
      cases hres : calls.resamplerFails USE_RESAMPLER with
      | false =>
          rw [hres] at hok
          obtain ⟨hinv, hstarted⟩ := h.start_ok ho hres (by simpa using hok)
          rw [hinv.writeData hstarted]
          dsimp only
          split
          · exact hinv.out_standby o
          · exact hinv
      | true =>
          rw [hres] at hok
          simp only [if_true] at hok
          obtain ⟨ret, hret, hstart⟩ := start_resamplerFails (s := s) (o := o) hres
          have hout := resamplerFailed_out s o
          have hpcm : ((PcmHandles.resamplerFailed s o).out o).pcm = none := by
            rw [hout]
            exact h.out_pcm o ho
          have hecho : ((PcmHandles.resamplerFailed s o).out o).echo_reference = none := by
            rw [hout]
            simp [outEcho, hok.1, hok.2]
          rw [hstart, writeData_none hpcm hecho]
          simp only [ne_eq, hret, not_false_eq_true, if_true]
          apply (h.resamplerFailed ho).do_out_standby
          rw [hout]

/-! ## Input -/

theorem foldl_use {p : Handles} {k : Nat} (hopen : p.IsOpen k) (reads : List ReadCall) :
    reads.foldl (fun pcms _ => pcms.use (some k)) p = p := by
  induction reads with
  | nil => rfl
  | cons call reads ih =>
      rw [List.foldl_cons, Handles.use_eq_self hopen]
      exact ih

theorem Inv.readData (h : Inv none s) (hi : (s.input i).standby = false) (ret : Int)
    (calls : InCalls) : readData s i ret calls = (calls.result, s) := by
  obtain ⟨k, hpcm, hopen⟩ := h.sound.in_open i hi
  simp only [PcmHandles.readData, hpcm, foldl_use hopen, Option.isSome_some, if_true, ite_self]

theorem Inv.finish_read (h : Inv none s) (hi : (s.input i).standby = false) (ret : Int)
    (calls : InCalls) :
    Inv none
      (let (ret, s) := PcmHandles.readData s i ret calls
      if ret ≠ 0 then PcmHandles.in_standby s i else s) := by
  rw [h.readData hi]
  dsimp only
  split
  · exact h.in_standby i
  · exact h

theorem resamplerResult_eq_zero_iff (calls : InCalls) :
    resamplerResult USE_RESAMPLER calls = 0 ↔ calls.resamplerFails USE_RESAMPLER = false := by
  unfold resamplerResult InCalls.resamplerFails
  cases USE_RESAMPLER && calls.resample with
  | false => simp
  | true =>
      by_cases hcreate : calls.create_resampler = 0
      · cases hbuffer : calls.buffer <;> simp [hcreate]
      · cases hbuffer : calls.buffer <;> cases hitfe : calls.itfe <;> simp [hcreate]

def echoed (s : AudioDevice) (i : Nat) (calls : InCalls) : AudioDevice :=
  startEcho { s with active_input := some i } i calls

theorem sameStreams_echoed (s : AudioDevice) (i : Nat) (calls : InCalls) :
    SameStreams { s with active_input := none }
      { echoed s i calls with active_input := none } := by
  have hsame := sameStreams_startEcho { s with active_input := some i } i calls
  exact ⟨hsame.pcms, hsame.active_output, rfl, hsame.out, hsame.input⟩

/-- Whatever the active input was before: the start sets it. -/
theorem Inv.echoed (h : Inv none s) (i : Nat) (calls : InCalls) :
    Inv none { echoed s i calls with active_input := none } := by
  have hnone : Inv none { s with active_input := none } :=
    ⟨h.ledger, h.out_pcm, h.out_started, h.in_started, h.out_failed, by simp⟩
  exact hnone.congr (sameStreams_echoed s i calls)

theorem echoed_standby (calls : InCalls) (hi : (s.input i).standby = true) :
    ((echoed s i calls).input i).standby = true :=
  ((sameStreams_echoed s i calls).input i).1.trans hi

theorem setIn_putIn (stream : StreamIn) (active : Option Nat) (pcms : Handles) :
    setIn (putIn s i stream active pcms) i
        { (putIn s i stream active pcms).input i with standby := false } =
      putIn s i { stream with standby := false } active pcms := by
  simp [setIn, putIn]

theorem Inv.in_read (h : Inv none s) {calls : InCalls}
    (hok : ok USE_RESAMPLER s (.in_read i calls)) :
    Inv none (in_read USE_RESAMPLER s i calls) := by
  unfold PcmHandles.in_read
  cases hi : (s.input i).standby with
  | false =>
      simp only [Bool.false_eq_true, if_false]
      exact h.finish_read hi _ calls
  | true =>
      have hechoed := h.echoed i calls
      have hstandby := echoed_standby calls hi
      have hheld : held { PcmHandles.echoed s i calls with active_input := none } (.input i) = none := by
        simp [held, hstandby]
      simp only [if_true, start_input_stream]
      rw [show startEcho { s with active_input := some i } i calls = PcmHandles.echoed s i calls
        from rfl]
      cases hready : calls.pcm_is_ready with
      | false =>
          -- the pcm is closed at once, and standby finds the stream in standby
          simp only [Bool.false_eq_true, if_false]
          rw [if_pos (by decide)]
          apply Inv.in_standby
          refine hechoed.putIn ?_ (by simp [hstandby]) (by simp) (.inl rfl)
          simp only [hstandby, if_true]
          rw [Function.update_eq_self_iff.mpr hheld.symm]
          exact hechoed.ledger.give_close (.input i) hheld
      | true =>
          have hresult := (resamplerResult_eq_zero_iff calls).mpr (hok hi hready)
          simp only [if_true]
          rw [if_neg (by simp [hresult]), setIn_putIn]
          have hstarted : Inv none (PcmHandles.putIn (PcmHandles.echoed s i calls) i
              { (PcmHandles.echoed s i calls).input i with
                standby := false
                pcm := some (PcmHandles.echoed s i calls).pcms.next
                startFailed := resamplerResult USE_RESAMPLER calls != 0 } (some i)
              (PcmHandles.echoed s i calls).pcms.give) := by
            refine hechoed.putIn ?_ (by simp) (by simp [hresult]) (.inr (.inl rfl))
            exact hechoed.ledger.give hheld
          exact hstarted.finish_read (by simp [PcmHandles.putIn]) _ calls

theorem Inv.step (h : Inv none s) {e : Event} (hok : ok USE_RESAMPLER s e) :
    Inv none (step USE_RESAMPLER s e) := by
  cases e with
  | out_write o calls => exact h.out_write hok
  | out_standby o => exact h.out_standby o
  | in_read i calls => exact h.in_read hok
  | in_standby i => exact h.in_standby i

/-! ## The other starts -/

theorem misused_out_standby (h : s.pcms.misused = true) :
    (out_standby s o).pcms.misused = true := by
  unfold out_standby do_out_standby
  split
  · exact h
  · show (closePcm s (s.out o).pcm).misused = true
    cases (s.out o).pcm with
    | none => exact h
    | some k => exact Handles.misused_close h k

theorem misused_out_write {calls : OutCalls} (ho : (s.out o).standby = true)
    (h : (writeData (start_output_stream USE_RESAMPLER (awake s o) o calls).2 o
      (start_output_stream USE_RESAMPLER (awake s o) o calls).1 calls).2.pcms.misused = true) :
    (out_write USE_RESAMPLER s o calls).pcms.misused = true := by
  unfold out_write
  simp only [ho, if_true]
  rw [show setOut s o { s.out o with standby := false } = awake s o from rfl]
  split
  · exact misused_out_standby h
  · exact h

/-- A write without a pcm takes the time stamp of a null pointer. -/
theorem misused_writeData_echo (hpcm : (s.out o).pcm = none)
    (hecho : (s.out o).echo_reference.isSome) (ret : Int) (calls : OutCalls) :
    (writeData s o ret calls).2.pcms.misused = true := by
  simp [writeData, hpcm, hecho, Handles.use]

/-- The pcm that `start_output_stream` closed is still that of the stream. -/
theorem misused_writeData_closed {k : Nat} (hpcm : (s.out o).pcm = some k)
    (hclosed : ¬ s.pcms.IsOpen k) (ret : Int) (calls : OutCalls) :
    (writeData s o ret calls).2.pcms.misused = true := by
  simp only [writeData, hpcm]
  split
  · apply Handles.misused_use
    simp [Handles.use, hclosed]
  · simp [Handles.use, hclosed]

theorem ok_out_write (h : Inv none s) {calls : OutCalls}
    (hsound : Sound (out_write USE_RESAMPLER s o calls)) :
    ok USE_RESAMPLER s (.out_write o calls) := by
  intro ho
  by_contra hnot
  have hmisused : (out_write USE_RESAMPLER s o calls).pcms.misused = true := by
    apply misused_out_write ho
    cases hres : calls.resamplerFails USE_RESAMPLER with
    | true =>
        obtain ⟨ret, hret, hstart⟩ := start_resamplerFails (s := s) (o := o) hres
        rw [hstart]
        have hout := resamplerFailed_out s o
        apply misused_writeData_echo
        · rw [hout]
          exact h.out_pcm o ho
        · rw [hout]
          show (s.echo_reference.or (s.out o).echo_reference).isSome
          simp only [hres, if_true, not_and] at hnot
          cases hecho : s.echo_reference with
          | some echo => simp
          | none => simpa [Option.isSome_iff_ne_none] using hnot hecho
    | false =>
        obtain ⟨hcreate, hbuffer⟩ := (resamplerFails_eq_false_iff calls).mp hres
        have hready : calls.pcm_is_ready = false := by simpa [hres] using hnot
        simp only [start_output_stream, hcreate, hbuffer, hready, Bool.false_eq_true, if_false]
        apply misused_writeData_closed (k := s.pcms.next)
        · simp [putOut, awake, setOut]
        · simp [putOut, awake, setOut, Handles.IsOpen, Handles.close]
  rw [hsound.used_open] at hmisused
  cases hmisused

theorem ok_in_read {calls : InCalls} (hsound : Sound (in_read USE_RESAMPLER s i calls)) :
    ok USE_RESAMPLER s (.in_read i calls) := by
  intro hi hready
  by_contra hfails
  have hresult : resamplerResult USE_RESAMPLER calls ≠ 0 :=
    fun hzero => hfails ((resamplerResult_eq_zero_iff calls).mp hzero)
  -- the stream is still in standby, so that in_standby does nothing
  have hread : in_read USE_RESAMPLER s i calls =
      putIn (echoed s i calls) i
        { (echoed s i calls).input i with
          pcm := some (echoed s i calls).pcms.next
          startFailed := resamplerResult USE_RESAMPLER calls != 0 } (some i)
        (echoed s i calls).pcms.give := by
    unfold in_read
    simp only [hi, if_true, start_input_stream, hready]
    rw [show startEcho { s with active_input := some i } i calls = echoed s i calls from rfl,
      if_pos hresult]
    unfold in_standby do_in_standby
    rw [if_pos (by simp [putIn, echoed_standby calls hi])]
  rw [hread] at hsound
  have hactive := hsound.in_failed i
  simp [putIn, hresult] at hactive

theorem ok_of_sound (h : Inv none s) {e : Event} (hsound : Sound (step USE_RESAMPLER s e)) :
    ok USE_RESAMPLER s e := by
  cases e with
  | out_write o calls => exact ok_out_write h hsound
  | out_standby o => trivial
  | in_read i calls => exact ok_in_read hsound
  | in_standby i => trivial

/-- Over all writes, reads and standbys the handles are sound exactly when each start is as `ok` says. -/
theorem pcms_sound_iff (USE_RESAMPLER : Bool) (need_echo_reference : Nat → Bool)
    (num_preprocessors : Nat → Nat) (events : List Event) :
    (∀ past, past <+: events →
      Sound (past.foldl (step USE_RESAMPLER) (initial need_echo_reference num_preprocessors))) ↔
      Guarded (step USE_RESAMPLER) (fun _ => ok USE_RESAMPLER)
        (initial need_echo_reference num_preprocessors) events := by
  apply forall_prefix_iff_guarded_of_invariant (fun _ s => Inv none s)
  · exact inv_initial _ _
  · exact fun _ _ h => h.sound
  · exact fun _ _ _ h hok => h.step hok
  · exact fun _ _ _ h hsound => ok_of_sound h hsound

/-- `pcm_open` fails: the pcm is closed by `start_output_stream`, written, and closed again. -/
theorem pcms_unsound_pcm_open :
    ¬ Sound ([Event.out_write 0 ⟨false, 0, true, 0, false, -1⟩].foldl (step false)
      (initial (fun _ => false) fun _ => 0)) := by
  intro h
  have honce := h.closed_once
  revert honce
  decide

end AwHal.Audio.PcmHandles
