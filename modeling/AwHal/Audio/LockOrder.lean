import AwHal.Lib.Locking

/-!
# The locks of the audio HAL

The device and each of its streams have a lock.  An entry point is the sequence of its lock and
unlock steps on one path; which path it takes depends on the state of the streams, on the echo
reference and on the results of calls, and here every path is possible.

`out_write`, `out_standby`, `in_read`, `in_standby` and `in_set_parameters` take the lock of the stream
first and that of the device within it; `out_set_parameters` and `in_add_audio_effect` take them the
other way round, and so do the echo reference helpers with the lock of the active output.
-/

namespace AwHal.Audio.LockOrder

open AwHal.Lib

inductive Lock where
  | adev
  | streamOut (out : Nat)
  | streamIn (input : Nat)
deriving DecidableEq, Repr

abbrev Steps := List (LockAction Lock)

/-! ## The echo reference helpers, under the device lock -/

def add_echo_reference (out : Nat) : Steps :=
  [.lock (.streamOut out), .unlock (.streamOut out)]

def remove_echo_reference (out : Nat) : Steps :=
  [.lock (.streamOut out), .unlock (.streamOut out)]

/-- What the helpers find: the active output, whether the reference is the one of the device, and
whether a new one can be made. -/
structure EchoPath where
  active_output : Option Nat
  current : Bool
  created : Bool
deriving DecidableEq, Repr

def put_echo_reference (path : EchoPath) : Steps :=
  match path.current, path.active_output with
  | true, some out => remove_echo_reference out
  | _, _ => []

def get_echo_reference (path : EchoPath) : Steps :=
  put_echo_reference path ++
    match path.active_output, path.created with
    | some out, true => add_echo_reference out
    | _, _ => []

/-- With `echo`, the stream needs an echo reference and has none yet. -/
def start_input_stream (echo : Option EchoPath) : Steps :=
  match echo with
  | some path => get_echo_reference path
  | none => []

/-- With `echo`, the stream is not in standby and has an echo reference. -/
def do_in_standby (echo : Option EchoPath) : Steps :=
  match echo with
  | some path => put_echo_reference path
  | none => []

/-! ## The entry points -/

def out_standby (out : Nat) : Steps :=
  [.lock (.streamOut out), .lock .adev, .unlock .adev, .unlock (.streamOut out)]

def out_write (out : Nat) (standby failed : Bool) : Steps :=
  .lock (.streamOut out) ::
    ((if standby then [.lock .adev, .unlock .adev] else []) ++
      .unlock (.streamOut out) :: if failed then out_standby out else [])

def out_set_parameters (out : Nat) (routing : Bool) : Steps :=
  if routing then
    [.lock .adev, .lock (.streamOut out), .unlock (.streamOut out), .unlock .adev]
  else []

def in_standby (input : Nat) (echo : Option EchoPath) : Steps :=
  .lock (.streamIn input) :: .lock .adev ::
    (do_in_standby echo ++ [.unlock .adev, .unlock (.streamIn input)])

/-- With `start`, the stream was in standby. -/
def in_read (input : Nat) (start : Option (Option EchoPath)) (failed : Option (Option EchoPath)) :
    Steps :=
  .lock (.streamIn input) ::
    ((match start with
      | some echo => .lock .adev :: (start_input_stream echo ++ [.unlock .adev])
      | none => []) ++
      .unlock (.streamIn input) :: failed.elim [] (in_standby input))

def in_set_parameters (input : Nat) : Steps :=
  [.lock (.streamIn input), .lock .adev, .unlock .adev, .unlock (.streamIn input)]

/-- With `aec`, the effect is an echo canceller. -/
def in_add_audio_effect (input : Nat) (aec : Option (Option EchoPath)) : Steps :=
  .lock .adev :: .lock (.streamIn input) ::
    ((match aec with
      | some echo => do_in_standby echo
      | none => []) ++
      [.unlock (.streamIn input), .unlock .adev])

inductive Call where
  | out_write (out : Nat) (standby failed : Bool)
  | out_standby (out : Nat)
  | out_set_parameters (out : Nat) (routing : Bool)
  | in_read (input : Nat) (start failed : Option (Option EchoPath))
  | in_standby (input : Nat) (echo : Option EchoPath)
  | in_set_parameters (input : Nat)
  | in_add_audio_effect (input : Nat) (aec : Option (Option EchoPath))
deriving DecidableEq, Repr

def steps : Call → Steps
  | .out_write out standby failed => out_write out standby failed
  | .out_standby out => out_standby out
  | .out_set_parameters out routing => out_set_parameters out routing
  | .in_read input start failed => in_read input start failed
  | .in_standby input echo => in_standby input echo
  | .in_set_parameters input => in_set_parameters input
  | .in_add_audio_effect input aec => in_add_audio_effect input aec

/-! ## The two orders -/

def asked (steps : Steps) : List Lock :=
  steps.filterMap fun
    | .lock x => some x
    | .unlock _ => none

/-- The stream locks that a call asks for while it holds the device lock. -/
def deviceFirst : Call → List Lock
  | .out_write _ _ _ => []
  | .out_standby _ => []
  | .out_set_parameters out routing => if routing then [.streamOut out] else []
  | .in_read _ start failed => asked (start.elim [] start_input_stream) ++
      asked (failed.elim [] do_in_standby)
  | .in_standby _ echo => asked (do_in_standby echo)
  | .in_set_parameters _ => []
  | .in_add_audio_effect input aec => .streamIn input :: asked (aec.elim [] do_in_standby)

/-- The stream locks that a call holds while it asks for the device lock. -/
def streamFirst : Call → List Lock
  | .out_write out standby failed => if standby || failed then [.streamOut out] else []
  | .out_standby out => [.streamOut out]
  | .out_set_parameters _ _ => []
  | .in_read input start failed => if start.isSome || failed.isSome then [.streamIn input] else []
  | .in_standby input _ => [.streamIn input]
  | .in_set_parameters input => [.streamIn input]
  | .in_add_audio_effect _ _ => []

/-- The steps nest their locks around the device lock: within it they take the locks `inner`, around it
the locks `outer`. -/
abbrev NestedSteps (inner outer : List Lock) : List Lock → Steps → Prop :=
  Locking.Nested .adev inner outer

section

variable {inner outer held : List Lock} {x : Lock} {rest : Steps}

/-- A lock taken and given back within the device lock. -/
theorem nested_section {out : Nat} (hgate : .adev ∈ held) (hout : .streamOut out ∉ held)
    (hinner : .streamOut out ∈ inner) (h : NestedSteps inner outer held rest) :
    NestedSteps inner outer held
      (.lock (.streamOut out) :: .unlock (.streamOut out) :: rest) := by
  refine ⟨hout, .inr (.inr ⟨hgate, hinner⟩), List.mem_cons_self, ?_⟩
  rw [List.erase_cons_head]
  exact h

theorem nested_put_echo_reference (path : EchoPath) (hgate : .adev ∈ held)
    (hout : ∀ out, .streamOut out ∉ held) (hinner : asked (put_echo_reference path) ⊆ inner)
    (h : NestedSteps inner outer held rest) :
    NestedSteps inner outer held (put_echo_reference path ++ rest) := by
  unfold put_echo_reference at hinner ⊢
  split at hinner
  · exact nested_section hgate (hout _) (hinner (List.mem_cons_self)) h
  · exact h

theorem nested_get_echo_reference (path : EchoPath) (hgate : .adev ∈ held)
    (hout : ∀ out, .streamOut out ∉ held) (hinner : asked (get_echo_reference path) ⊆ inner)
    (h : NestedSteps inner outer held rest) :
    NestedSteps inner outer held (get_echo_reference path ++ rest) := by
  unfold get_echo_reference at hinner ⊢
  rw [asked, List.filterMap_append, List.append_subset] at hinner
  obtain ⟨hput, hadd⟩ := hinner
  rw [List.append_assoc]
  apply nested_put_echo_reference path hgate hout hput
  split at hadd
  · exact nested_section hgate (hout _) (hadd (List.mem_cons_self)) h
  · exact h

theorem nested_do_in_standby (echo : Option EchoPath) (hgate : .adev ∈ held)
    (hout : ∀ out, .streamOut out ∉ held) (hinner : asked (do_in_standby echo) ⊆ inner)
    (h : NestedSteps inner outer held rest) :
    NestedSteps inner outer held (do_in_standby echo ++ rest) := by
  cases echo with
  | none => exact h
  | some path => exact nested_put_echo_reference path hgate hout hinner h

theorem nested_start_input_stream (echo : Option EchoPath) (hgate : .adev ∈ held)
    (hout : ∀ out, .streamOut out ∉ held) (hinner : asked (start_input_stream echo) ⊆ inner)
    (h : NestedSteps inner outer held rest) :
    NestedSteps inner outer held (start_input_stream echo ++ rest) := by
  cases echo with
  | none => exact h
  | some path => exact nested_get_echo_reference path hgate hout hinner h

end

theorem nested_out_standby (out : Nat) :
    NestedSteps [] [.streamOut out] [] (out_standby out) := by
  simp [out_standby, NestedSteps, Locking.Nested]

theorem nested_out_write (out : Nat) (standby failed : Bool) :
    NestedSteps [] (if standby || failed then [.streamOut out] else []) []
      (out_write out standby failed) := by
  cases standby <;> cases failed <;> simp [out_write, out_standby, NestedSteps, Locking.Nested]

theorem nested_in_standby (input : Nat) (echo : Option EchoPath) :
    NestedSteps (asked (do_in_standby echo)) [.streamIn input] [] (in_standby input echo) := by
  refine ⟨by simp, .inl rfl, by simp, .inr (.inl ⟨rfl, List.Subset.refl _⟩), ?_⟩
  apply nested_do_in_standby echo (by simp) (by simp) (List.Subset.refl _)
  simp [Locking.Nested]

theorem nested_in_read_end (input : Nat) (failed : Option (Option EchoPath)) :
    NestedSteps (asked (failed.elim [] do_in_standby)) (if failed.isSome then [.streamIn input] else [])
      [.streamIn input] (.unlock (.streamIn input) :: failed.elim [] (in_standby input)) := by
  refine ⟨by simp, ?_⟩
  rw [List.erase_cons_head]
  cases failed with
  | none => rfl
  | some echo => exact nested_in_standby input echo

theorem nested_in_read (input : Nat) (start failed : Option (Option EchoPath)) :
    NestedSteps (deviceFirst (.in_read input start failed))
      (streamFirst (.in_read input start failed)) [] (in_read input start failed) := by
  have hend := nested_in_read_end input failed
  cases start with
  | none => exact ⟨by simp, .inl rfl, hend.mono (List.subset_append_right _ _) (by simp [streamFirst])⟩
  | some echo =>
      refine ⟨by simp, .inl rfl, by simp, .inr (.inl ⟨rfl, by simp [streamFirst]⟩), ?_⟩
      show NestedSteps _ _ _ (start_input_stream echo ++ [.unlock .adev] ++ _)
      rw [List.append_assoc]
      apply nested_start_input_stream echo (by simp) (by simp) (List.subset_append_left _ _)
      refine ⟨by simp, ?_⟩
      rw [List.erase_cons_head]
      apply hend.mono (List.subset_append_right _ _)
      intro x hx
      cases failed with
      | none => cases hx
      | some echo => exact hx

theorem nested_in_add_audio_effect (input : Nat) (aec : Option (Option EchoPath)) :
    NestedSteps (deviceFirst (.in_add_audio_effect input aec)) [] []
      (in_add_audio_effect input aec) := by
  refine ⟨by simp, .inl rfl, by simp, .inr (.inr ⟨by simp, by simp [deviceFirst]⟩), ?_⟩
  have hend : ∀ inner, NestedSteps inner [] [.streamIn input, .adev]
      [.unlock (.streamIn input), .unlock .adev] := by
    simp [NestedSteps, Locking.Nested]
  cases aec with
  | none => exact hend _
  | some echo =>
      exact nested_do_in_standby echo (by simp) (by simp) (List.subset_cons_self _ _) (hend _)

theorem nested_steps (c : Call) : NestedSteps (deviceFirst c) (streamFirst c) [] (steps c) := by
  cases c with
  | out_write out standby failed => exact nested_out_write out standby failed
  | out_standby out => exact nested_out_standby out
  | out_set_parameters out routing =>
      cases routing <;>
        simp [steps, out_set_parameters, NestedSteps, Locking.Nested, deviceFirst]
  | in_read input start failed => exact nested_in_read input start failed
  | in_standby input echo => exact nested_in_standby input echo
  | in_set_parameters input =>
      simp [steps, in_set_parameters, NestedSteps, Locking.Nested, streamFirst]
  | in_add_audio_effect input aec => exact nested_in_add_audio_effect input aec

/-! ## Runs -/

section

variable {T : Type} [DecidableEq T]

def run (events : List (LockEvent T Call)) : Locking T Lock Call :=
  events.foldl (Locking.step steps) Locking.initial

/-- A call is made only while no other thread is in a call that takes the same stream lock and the
device lock the other way round. -/
abbrev mayCall (s : Locking T Lock Call) (e : LockEvent T Call) : Prop :=
  Locking.mayCall deviceFirst streamFirst s e

/-- The entry points always give back the locks they took; and they come to no deadlock as long as no
two calls with opposed orders are under way at a time. -/
theorem live_of_guarded (events : List (LockEvent T Call)) :
    (∀ past, past <+: events → (run past).Balanced) ∧
      (Guarded (Locking.step steps) (fun _ s e => mayCall s e) Locking.initial events →
        ∀ past, past <+: events → ¬ (run past).Deadlock) := by
  constructor
  · intro past _
    exact (Locking.inv_run nested_steps past).balanced
  · intro h past hpast
    exact Locking.not_deadlock_of_guarded nested_steps (h.of_prefix hpast)

end

/-- A write that fails and a read wait for each other's device lock in turn; the routing is changed once
the write is through. -/
def alternating : List (LockEvent Bool Call) :=
  [.call false (.out_write 0 true true), .advance false, .advance false,
    .call true (.in_read 0 (some none) none), .advance true, .advance true,
    .advance false, .advance true, .advance false, .advance true, .advance true,
    .advance false, .advance false, .advance false, .advance false,
    .call true (.out_set_parameters 0 true), .advance true, .advance true]

theorem live_of_guarded_alternating :
    ∀ past, past <+: alternating → ¬ (run past).Deadlock :=
  (live_of_guarded alternating).2 (by decide)

/-- `out_standby` and `out_set_parameters` of one stream meet. -/
theorem deadlock_out_standby_out_set_parameters :
    ¬ ∀ events : List (LockEvent Bool Call), ¬ (run events).Deadlock ∧ (run events).Balanced := by
  intro h
  apply (h [.call false (.out_standby 0), .call true (.out_set_parameters 0 true), .advance false,
    .advance true]).1
  refine ⟨{false, true}, ⟨false, by simp⟩, ?_⟩
  intro t ht
  rcases ht with rfl | rfl
  · exact ⟨.adev, ⟨_, rfl⟩, true, by simp, by simp, rfl⟩
  · exact ⟨.streamOut 0, ⟨_, rfl⟩, false, by simp, by simp, rfl⟩

end AwHal.Audio.LockOrder
