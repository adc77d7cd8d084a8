import Mathlib.Data.Finset.Card
import AwHal.Lib.GuardedRun

/-!
# Sessions with the keymaster's trusted application

`AWTACommunicator::LoadTa` and `KeyMaster_V2_Initialize` open a context and a session and then
configure the application, and each of these steps may fail.  A call that opens a session should
either succeed or leave everything as it was.
-/

namespace AwHal.Keymaster

open AwHal.Lib

/-- The contexts and sessions that are open, named by the `TEEC_Context` and `TEEC_Session` objects
that hold them; `allocated` is the address of the next object. -/
structure Tee where
  contexts : Finset Nat := ∅
  sessions : Finset Nat := ∅
  allocated : Nat := 0
deriving DecidableEq

namespace Tee

def malloc (t : Tee) : Tee × Nat :=
  ({ t with allocated := t.allocated + 1 }, t.allocated)

def TEEC_InitializeContext (t : Tee) (context : Nat) : Tee :=
  { t with contexts := insert context t.contexts }

def TEEC_OpenSession (t : Tee) (session : Nat) : Tee :=
  { t with sessions := insert session t.sessions }

def TEEC_CloseSession (t : Tee) : Option Nat → Tee
  | none => t
  | some session => { t with sessions := t.sessions.erase session }

/-- Destroys the context; the sessions in it have to be closed before. -/
def TEEC_FinalizeContext (t : Tee) : Option Nat → Tee
  | none => t
  | some context => { t with contexts := t.contexts.erase context }

end Tee

structure TeecOutcome where
  initializeContext : Bool
  openSession : Bool
  command : Bool
deriving DecidableEq, Repr

/-! ## `AWTACommunicator` -/

structure AWTACommunicator where
  pTeeContext : Option Nat := none
  pTeeSession : Option Nat := none
  pTeeMutex : Option Nat := none
  tee : Tee := {}
deriving DecidableEq

namespace AWTACommunicator

def repeated (c : AWTACommunicator) : AWTACommunicator × Int :=
  ({ c with pTeeMutex := none }, -1)

def initContextFailed (c : AWTACommunicator) : AWTACommunicator × Int :=
  repeated { c with pTeeContext := none, pTeeSession := none }

def failed (c : AWTACommunicator) : AWTACommunicator × Int :=
  initContextFailed { c with tee := c.tee.TEEC_FinalizeContext c.pTeeContext }

def LoadTa (c : AWTACommunicator) (outcome : TeecOutcome) : AWTACommunicator × Int :=
  let (tee, mutex) := c.tee.malloc
  let c := { c with tee := tee, pTeeMutex := some mutex }
  if c.pTeeContext ≠ none then c.repeated
  else
    let (tee, context) := c.tee.malloc
    let (tee, session) := tee.malloc
    let c := { c with tee := tee, pTeeContext := some context, pTeeSession := some session }
    if outcome.initializeContext then
      let c := { c with tee := c.tee.TEEC_InitializeContext context }
      if outcome.openSession then
        let c := { c with tee := c.tee.TEEC_OpenSession session }
        if outcome.command then (c, 0) else c.failed
      else c.failed
    else c.initContextFailed

def step (c : AWTACommunicator) (outcome : TeecOutcome) : AWTACommunicator :=
  (c.LoadTa outcome).1

/-- A call that fails leaves the pointers and what is open as they were; one that succeeds leaves
one context and one session open. -/
def AllOrNothing (c : AWTACommunicator) (outcome : TeecOutcome) : Prop :=
  ((c.LoadTa outcome).2 ≠ 0 →
    (c.LoadTa outcome).1.pTeeContext = c.pTeeContext ∧
    (c.LoadTa outcome).1.pTeeSession = c.pTeeSession ∧
    (c.LoadTa outcome).1.pTeeMutex = c.pTeeMutex ∧
    (c.LoadTa outcome).1.tee.contexts = c.tee.contexts ∧
    (c.LoadTa outcome).1.tee.sessions = c.tee.sessions) ∧
  ((c.LoadTa outcome).2 = 0 →
    (c.LoadTa outcome).1.tee.contexts.card = 1 ∧ (c.LoadTa outcome).1.tee.sessions.card = 1)

instance (c : AWTACommunicator) (outcome : TeecOutcome) : Decidable (c.AllOrNothing outcome) :=
  inferInstanceAs (Decidable (_ ∧ _))

/-- Nothing is loaded, and the application is not refused its configuration once a session is
open. -/
def Opens (c : AWTACommunicator) (outcome : TeecOutcome) : Prop :=
  c.pTeeContext = none ∧
    (outcome.initializeContext = true → outcome.openSession = true → outcome.command = true)

/-- The mutex is there with the context, and without them nothing is open. -/
structure Inv (c : AWTACommunicator) : Prop where
  mutex : c.pTeeContext ≠ none → c.pTeeMutex ≠ none
  unloaded : c.pTeeContext = none →
    c.pTeeSession = none ∧ c.pTeeMutex = none ∧ c.tee.contexts = ∅ ∧ c.tee.sessions = ∅

theorem Inv.allOrNothing_iff {c : AWTACommunicator} (h : c.Inv) (outcome : TeecOutcome) :
    c.AllOrNothing outcome ↔ c.Opens outcome := by
  obtain ⟨initializeContext, openSession, command⟩ := outcome
  by_cases hloaded : c.pTeeContext = none
  · obtain ⟨hsession, hmutex, hcontexts, hsessions⟩ := h.unloaded hloaded
    cases initializeContext <;> cases openSession <;> cases command <;>
      simp [AllOrNothing, Opens, LoadTa, failed, initContextFailed, repeated, Tee.malloc,
        Tee.TEEC_InitializeContext, Tee.TEEC_OpenSession, Tee.TEEC_FinalizeContext, hloaded,
        hsession, hmutex, hcontexts, hsessions]
  · -- the call that finds the application loaded throws its mutex away
    have hmutex : c.pTeeMutex ≠ none := h.mutex hloaded
    simp [AllOrNothing, Opens, LoadTa, repeated, Tee.malloc, hloaded, Ne.symm hmutex]

theorem Inv.step {c : AWTACommunicator} {outcome : TeecOutcome} (h : c.Inv)
    (hopens : c.Opens outcome) : (c.step outcome).Inv := by
  obtain ⟨initializeContext, openSession, command⟩ := outcome
  obtain ⟨hloaded, hcommand⟩ := hopens
  obtain ⟨hsession, hmutex, hcontexts, hsessions⟩ := h.unloaded hloaded
  constructor <;> cases initializeContext <;> cases openSession <;> cases command <;>
    simp_all [AWTACommunicator.step, LoadTa, failed, initContextFailed, repeated, Tee.malloc,
      Tee.TEEC_InitializeContext, Tee.TEEC_OpenSession, Tee.TEEC_FinalizeContext]

theorem guarded_allOrNothing_iff (outcomes : List TeecOutcome) :
    Guarded step (fun _ c outcome => c.AllOrNothing outcome) {} outcomes ↔
      Guarded step (fun _ c outcome => c.Opens outcome) {} outcomes := by
  apply guarded_congr fun _ c => c.Inv
  · constructor <;> simp
  · intro _ c outcome h hall
    exact h.step ((h.allOrNothing_iff outcome).mp hall)
  · intro _ c outcome h
    exact h.allOrNothing_iff outcome

end AWTACommunicator

/-! ## The second version of the keymaster -/

structure KeyMasterV2 where
  gKeyMasterV2Context : Option Nat := none
  gKeyMasterV2Session : Option Nat := none
  keymaster_v2_configured : Int := 0
  tee : Tee := {}
deriving DecidableEq

namespace KeyMasterV2

def Initialize (k : KeyMasterV2) (outcome : TeecOutcome) : KeyMasterV2 × Int :=
  if k.gKeyMasterV2Context ≠ none then (k, -1)
  else
    let (tee, context) := k.tee.malloc
    let (tee, session) := tee.malloc
    let k := { k with
      tee := tee, gKeyMasterV2Context := some context, gKeyMasterV2Session := some session }
    if outcome.initializeContext then
      let k := { k with tee := k.tee.TEEC_InitializeContext context }
      if outcome.openSession then
        let k := { k with tee := k.tee.TEEC_OpenSession session }
        -- the result of `TEEC_InvokeCommand` is what the call reports
        (k, if outcome.command then 0 else -1)
      else (k, -1)
    else (k, -1)

/-- The session and the context are closed whether the command succeeds or not. -/
def Terminate (k : KeyMasterV2) (command : Bool) : KeyMasterV2 × Int :=
  if k.gKeyMasterV2Context = none then (k, 0)
  else
    let tee := k.tee.TEEC_CloseSession k.gKeyMasterV2Session
    ({ k with
        tee := tee.TEEC_FinalizeContext k.gKeyMasterV2Context
        gKeyMasterV2Context := none
        gKeyMasterV2Session := none
        keymaster_v2_configured := 0 }, if command then 0 else -1)

inductive Event where
  | Initialize (outcome : TeecOutcome)
  | Terminate (command : Bool)
deriving DecidableEq, Repr

def step (k : KeyMasterV2) : Event → KeyMasterV2
  | .Initialize outcome => (k.Initialize outcome).1
  | .Terminate command => (k.Terminate command).1

/-- As for `LoadTa`; a call of `Terminate` opens nothing. -/
def AllOrNothing (k : KeyMasterV2) : Event → Prop
  | .Initialize outcome =>
      ((k.Initialize outcome).2 ≠ 0 →
        (k.Initialize outcome).1.gKeyMasterV2Context = k.gKeyMasterV2Context ∧
        (k.Initialize outcome).1.gKeyMasterV2Session = k.gKeyMasterV2Session ∧
        (k.Initialize outcome).1.tee.contexts = k.tee.contexts ∧
        (k.Initialize outcome).1.tee.sessions = k.tee.sessions) ∧
      ((k.Initialize outcome).2 = 0 →
        (k.Initialize outcome).1.tee.contexts.card = 1 ∧
        (k.Initialize outcome).1.tee.sessions.card = 1)
  | .Terminate _ => True

instance (k : KeyMasterV2) : (e : Event) → Decidable (k.AllOrNothing e)
  | .Initialize _ => inferInstanceAs (Decidable (_ ∧ _))
  | .Terminate _ => inferInstanceAs (Decidable True)

/-- There is a session already, or all three calls succeed. -/
def Opens (k : KeyMasterV2) : Event → Prop
  | .Initialize outcome =>
      k.gKeyMasterV2Context ≠ none ∨
        (outcome.initializeContext = true ∧ outcome.openSession = true ∧ outcome.command = true)
  | .Terminate _ => True

def Inv (k : KeyMasterV2) : Prop :=
  (k.gKeyMasterV2Context = none ∧ k.gKeyMasterV2Session = none ∧ k.tee.contexts = ∅ ∧
    k.tee.sessions = ∅) ∨
  ∃ context session, k.gKeyMasterV2Context = some context ∧ k.gKeyMasterV2Session = some session ∧
    k.tee.contexts = {context} ∧ k.tee.sessions = {session}

theorem Inv.allOrNothing_iff {k : KeyMasterV2} (h : k.Inv) (e : Event) :
    k.AllOrNothing e ↔ k.Opens e := by
  cases e with
  | Terminate command => exact Iff.rfl
  | Initialize outcome =>
      obtain ⟨initializeContext, openSession, command⟩ := outcome
      rcases h with ⟨hcontext, hsession, hcontexts, hsessions⟩ | ⟨context, session, hcontext, -⟩
      · cases initializeContext <;> cases openSession <;> cases command <;>
          simp [AllOrNothing, Opens, Initialize, Tee.malloc, Tee.TEEC_InitializeContext,
            Tee.TEEC_OpenSession, hcontext, hcontexts, hsessions]
      · simp [AllOrNothing, Opens, Initialize, hcontext]

theorem Inv.step {k : KeyMasterV2} {e : Event} (h : k.Inv) (hopens : k.Opens e) :
    (k.step e).Inv := by
  rcases h with ⟨hcontext, hsession, hcontexts, hsessions⟩ |
    ⟨context, session, hcontext, hsession, hcontexts, hsessions⟩
  · cases e with
    | Terminate command =>
        refine Or.inl ?_
        simp [KeyMasterV2.step, Terminate, hcontext, hsession, hcontexts, hsessions]
    | Initialize outcome =>
        obtain ⟨hinit, hopen, hcommand⟩ := hopens.resolve_left (not_not.mpr hcontext)
        refine Or.inr ⟨k.tee.allocated, k.tee.allocated + 1, ?_⟩
        simp [KeyMasterV2.step, Initialize, Tee.malloc, Tee.TEEC_InitializeContext,
          Tee.TEEC_OpenSession, hcontext, hcontexts, hsessions, hinit, hopen, hcommand]
  · cases e with
    | Terminate command =>
        refine Or.inl ?_
        simp [KeyMasterV2.step, Terminate, Tee.TEEC_CloseSession, Tee.TEEC_FinalizeContext,
          hcontext, hsession, hcontexts, hsessions]
    | Initialize outcome =>
        refine Or.inr ⟨context, session, ?_⟩
        simp [KeyMasterV2.step, Initialize, hcontext, hsession, hcontexts, hsessions]

theorem guarded_allOrNothing_iff (events : List Event) :
    Guarded step (fun _ k e => k.AllOrNothing e) {} events ↔
      Guarded step (fun _ k e => k.Opens e) {} events := by
  apply guarded_congr fun _ k => k.Inv
  · exact Or.inl ⟨rfl, rfl, rfl, rfl⟩
  · intro _ k e h hall
    exact h.step ((h.allOrNothing_iff e).mp hall)
  · intro _ k e h
    exact h.allOrNothing_iff e

end KeyMasterV2

/-! ## Both ways of opening a session -/

/-- In a run every opening call is all-or-nothing exactly when `LoadTa` is called with nothing
loaded and never fails after its session is open, and `KeyMaster_V2_Initialize` only fails when
there is a session already. -/
theorem opening_allOrNothing_iff (outcomes : List TeecOutcome) (events : List KeyMasterV2.Event) :
    (Guarded AWTACommunicator.step (fun _ c outcome => c.AllOrNothing outcome) {} outcomes ↔
      Guarded AWTACommunicator.step (fun _ c outcome => c.Opens outcome) {} outcomes) ∧
    (Guarded KeyMasterV2.step (fun _ k e => k.AllOrNothing e) {} events ↔
      Guarded KeyMasterV2.step (fun _ k e => k.Opens e) {} events) :=
  ⟨AWTACommunicator.guarded_allOrNothing_iff outcomes, KeyMasterV2.guarded_allOrNothing_iff events⟩

/-- The second `LoadTa` loses the mutex of the first, a refused configuration leaves the session
open, and a session that cannot be opened leaves the globals set and the context open. -/
theorem opening_not_allOrNothing :
    ¬ Guarded AWTACommunicator.step (fun _ c outcome => c.AllOrNothing outcome) {}
        [⟨true, true, true⟩, ⟨true, true, true⟩] ∧
      ¬ Guarded AWTACommunicator.step (fun _ c outcome => c.AllOrNothing outcome) {}
        [⟨true, true, false⟩] ∧
      ¬ Guarded KeyMasterV2.step (fun _ k e => k.AllOrNothing e) {}
        [.Initialize ⟨true, false, true⟩] := by
  decide

end AwHal.Keymaster
