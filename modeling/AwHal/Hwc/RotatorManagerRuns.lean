import Mathlib.Data.List.Nodup
import AwHal.Lib.GuardedRun
import AwHal.Lib.Tickets
import AwHal.Hwc.RotatorManager
import AwHal.Hwc.RotateSessionRuns

/-!
# Rotation over whole runs

A frame that was validated and not presented is dropped, but the rotate task of a layer stays with its
session until a `commit`.  What is promised of the fences and of the posted tasks holds as long as no
such task is in the way when the next `prepare` begins.

The runs are seen through `View`, which leaves out of a session all but its task.
-/

namespace AwHal.Hwc

open AwHal.Lib

/-! ## The view -/

structure View where
  layers : Nat → RotatedLayer
  /-- The task of each session. -/
  tasks : Nat → Option RotateTask
  mNextTaskId : Nat
  hwRotator : HardwareRotator
  mBlankOutput : Bool
  phase : Phase
  posted : Option (Nat × RotateTask)
  finished : Option Finished

def RotatorRun.view (s : RotatorRun) : View where
  layers := s.layers
  tasks := fun id => (s.mRotateSession id).bind RotateSession.mRotateTask
  mNextTaskId := s.mNextTaskId
  hwRotator := s.hwRotator
  mBlankOutput := s.mBlankOutput
  phase := s.phase
  posted := s.posted
  finished := s.finished

/-- The output of a task is that for the buffer and the transform of a layer. -/
def Describes (layer : RotatedLayer) (task : RotateTask) (handle : RotateHandle) : Prop :=
  task.mOutputBuffer.width = (outputGeometry handle layer.transform).w ∧
    task.mOutputBuffer.height = (outputGeometry handle layer.transform).h ∧
    task.mOutputBuffer.format = (outputGeometry handle layer.transform).format

instance (layer : RotatedLayer) (task : RotateTask) (handle : RotateHandle) :
    Decidable (Describes layer task handle) :=
  inferInstanceAs (Decidable (_ ∧ _ ∧ _))

namespace View

inductive Move (v : View) : RotatorRun.Event → View → Prop
  | stay (event : RotatorRun.Event) : Move v event v
  | setLayer {id : Nat} {layer : RotatedLayer} (hphase : v.phase = .idle) :
      Move v (.setLayer id layer) { v with layers := Function.update v.layers id layer }
  | blank {enabled : Bool} : Move v (.blank enabled) { v with mBlankOutput := enabled }
  | prepare {inputs : InputLayers} (hphase : v.phase = .idle) (hblank : v.mBlankOutput = false) :
      Move v (.prepare inputs) { v with phase := .planning inputs [] }
  | accept {inputs : InputLayers} {accepted : List Nat} {id : Nat}
      {steps : List BufferPool.Event} (hphase : v.phase = .planning inputs accepted)
      (hhandle : (v.layers id).transform ≠ 0 → (v.layers id).handle.isSome) :
      Move v (.capable id steps) { v with phase := .planning inputs (id :: accepted) }
  | create {inputs : InputLayers} {accepted : List Nat} {id : Nat}
      {steps : List BufferPool.Event} {task : RotateTask} {handle : RotateHandle}
      (hphase : v.phase = .planning inputs accepted) (hid : id ∈ inputs.ids)
      (hnone : v.tasks id = none) (hhandle : (v.layers id).handle = some handle)
      (hfresh : task.mTaskId = v.mNextTaskId) (hdescribes : Describes (v.layers id) task handle) :
      Move v (.capable id steps)
        { v with
          tasks := Function.update v.tasks id (some task)
          mNextTaskId := v.mNextTaskId + 1
          phase := .planning inputs (id :: accepted) }
  | assigned {inputs : InputLayers} {accepted device : List Nat}
      (hphase : v.phase = .planning inputs accepted) :
      Move v (.assigned device)
        { v with
          phase := .posting (inputs.ids.filter fun id =>
            (v.layers id).transform ≠ 0 ∧ id ∈ accepted ∧ id ∈ device) }
  | done (hphase : v.phase = .posting []) : Move v .post { v with phase := .idle }
  | skip {id : Nat} {ids : List Nat} (hphase : v.phase = .posting (id :: ids)) :
      Move v .post { v with phase := .posting ids }
  | post {id : Nat} {ids : List Nat} {task : RotateTask}
      (hphase : v.phase = .posting (id :: ids)) (htask : v.tasks id = some task) :
      Move v .post
        { v with
          phase := .posting ids
          hwRotator := v.hwRotator.postRotateTask id task
          posted := some (id, task) }
  | commit (hphase : v.phase = .idle) : Move v .commit { v with tasks := fun _ => none }
  | layerDestroyed (id : Nat) :
      Move v (.layerDestroyed id) { v with tasks := Function.update v.tasks id none }
  | takeTasks : Move v .takeTasks { v with hwRotator := v.hwRotator.takeTasks }
  | finish {err : Bool} {task : PendingTask} {rest : List PendingTask}
      (htask : v.hwRotator.pendingTasks = task :: rest) :
      Move v (.finish err)
        { v with
          hwRotator := v.hwRotator.onTaskFinished
          finished := some
            { task
              mSignaledPtValue := v.hwRotator.mSignaledPtValue + 1
              mSyncFencePt := v.hwRotator.mSyncFencePt task.mTaskId } }

end View

/-! ## What a call does to the task -/

theorem createAsyncRotateTask_task (session : RotateSession) (cache : List BufferPool)
    (mNextTaskId : Nat) (handle : RotateHandle) (layer : RotatedLayer)
    (steps : List BufferPool.Event) :
    let out := session.createAsyncRotateTask cache mNextTaskId handle layer.transform steps
    (out.session.mRotateTask = session.mRotateTask ∧ out.mNextTaskId = mNextTaskId) ∨
      (session.mRotateTask = none ∧ out.ret = 0 ∧ out.mNextTaskId = mNextTaskId + 1 ∧
        ∃ task, out.session.mRotateTask = some task ∧ task.mTaskId = mNextTaskId ∧
          Describes layer task handle) := by
  unfold RotateSession.createAsyncRotateTask
  split
  · exact .inl ⟨rfl, rfl⟩
  · split
    · exact .inl ⟨rfl, rfl⟩
    · rename_i hactive
      have hnone : session.mRotateTask = none := by simpa [RotateSession.active] using hactive
      simp only [RotateSession.acquireTask]
      split
      · exact .inr ⟨hnone, rfl, rfl, _, rfl, rfl, rfl, rfl, rfl⟩
      · exact .inl ⟨rfl, rfl⟩

namespace RotatorRun

theorem tasks_setSession (s : RotatorRun) (id : Nat) (session : Option RotateSession) :
    (s.setSession id session).view.tasks =
      Function.update s.view.tasks id (session.bind RotateSession.mRotateTask) := by
  funext id'
  by_cases hid : id' = id
  · subst hid
    simp [view, setSession]
  · simp [view, setSession, Function.update_of_ne hid]

theorem view_setSession {s : RotatorRun} {id : Nat} {session : Option RotateSession}
    (h : session.bind RotateSession.mRotateTask = s.view.tasks id) :
    (s.setSession id session).view = s.view := by
  have htasks := tasks_setSession s id session
  rw [h, Function.update_eq_self] at htasks
  exact congrArg (fun tasks => { s.view with tasks }) htasks

theorem mRotateTask_getD (session : Option RotateSession) :
    (session.getD {}).mRotateTask = session.bind RotateSession.mRotateTask := by
  cases session <;> rfl

theorem move_capable {s : RotatorRun} {inputs : InputLayers} {accepted : List Nat} {id : Nat}
    (hphase : s.phase = .planning inputs accepted) (hid : id ∈ inputs.ids)
    (steps : List BufferPool.Event) :
    View.Move s.view (.capable id steps) (s.detect inputs accepted id steps).view := by
  unfold detect
  split
  · rename_i htransform
    exact .accept hphase fun h => absurd htransform h
  · simp only [tryUsingHardwareRotator]
    split
    · exact .stay _
    · rename_i handle hhandle
      split
      · exact .stay _
      · have hcall := createAsyncRotateTask_task ((s.mRotateSession id).getD {})
          s.mBufferPoolCache s.mNextTaskId handle (s.layers id) steps
        generalize RotateSession.createAsyncRotateTask ((s.mRotateSession id).getD {})
          s.mBufferPoolCache s.mNextTaskId handle (s.layers id).transform steps = out at hcall ⊢
        let s' := { s.setSession id (some out.session) with
          mBufferPoolCache := out.cache, mNextTaskId := out.mNextTaskId }
        show View.Move s.view (.capable id steps) (if out.ret = 0 then
          { s' with phase := .planning inputs (id :: accepted) } else s').view
        rcases hcall with ⟨hkeep, hnext⟩ | ⟨hnone, hret, hnext, task, htask, hfresh, hdescribes⟩
        · have hview : s'.view = s.view := by
            have hsame : (some out.session).bind RotateSession.mRotateTask = s.view.tasks id :=
              hkeep.trans (mRotateTask_getD _)
            have hsession := view_setSession hsame
            show { (s.setSession id (some out.session)).view with
              mNextTaskId := out.mNextTaskId } = s.view
            rw [hsession, hnext]
            rfl
          split
          · show View.Move s.view _ { s'.view with phase := .planning inputs (id :: accepted) }
            rw [hview]
            exact .accept hphase fun _ => Option.isSome_of_eq_some hhandle
          · rw [hview]
            exact .stay _
        · rw [if_pos hret]
          have htasks : s'.view.tasks = Function.update s.view.tasks id (some task) := by
            rw [← htask]
            exact tasks_setSession s id (some out.session)
          have hmove : View.Move s.view (.capable id steps) _ :=
            .create hphase hid ((mRotateTask_getD _).symm.trans hnone) hhandle hfresh hdescribes
          rw [← htasks, show s.view.mNextTaskId + 1 = out.mNextTaskId from hnext.symm] at hmove
          exact hmove

theorem move_postRotateTask {s : RotatorRun} {id : Nat} {ids : List Nat}
    (hphase : s.phase = .posting (id :: ids)) :
    View.Move s.view .post ({ s.postRotateTask id with phase := .posting ids } : RotatorRun).view := by
  unfold postRotateTask
  split
  · exact .skip hphase
  · rename_i task htask
    exact .post hphase htask

theorem view_postCommit (s : RotatorRun) :
    s.postCommit.view = { s.view with tasks := fun _ => none } := by
  have htasks : s.postCommit.view.tasks = fun _ => none := by
    funext id
    simp only [view, postCommit]
    cases s.mRotateSession id with
    | none => rfl
    | some session =>
        have hidle := RotateSession.active_putRotatedBuffer session
        simpa [RotateSession.active] using hidle
  rw [← htasks]
  rfl

theorem move_finish (s : RotatorRun) (err : Bool) :
    View.Move s.view (.finish err) (s.finish err).view := by
  unfold finish
  split
  · exact .stay _
  · rename_i task rest htask
    dsimp only
    have hview : (if err then s.setSession task.id
        ((s.mRotateSession task.id).map RotateSession.onRotateFailed) else s).view = s.view := by
      split
      · apply view_setSession
        simp only [view]
        cases s.mRotateSession task.id <;> rfl
      · rfl
    generalize (if err then s.setSession task.id
      ((s.mRotateSession task.id).map RotateSession.onRotateFailed) else s) = s' at hview ⊢
    show View.Move s.view (.finish err)
      { s'.view with hwRotator := _, finished := _ }
    rw [hview]
    exact .finish htask

theorem view_removeRotateSession (s : RotatorRun) (id : Nat) :
    (s.removeRotateSession id).view =
      { s.view with tasks := Function.update s.view.tasks id none } := by
  have htasks := tasks_setSession s id none
  rw [Option.bind_none] at htasks
  rw [← htasks]
  rfl

theorem view_allocate (s : RotatorRun) (id : Nat) (steps : List BufferPool.Event) :
    (s.setSession id ((s.mRotateSession id).map fun session =>
      { session with
        mBufferPool := session.mBufferPool.map (RotateSession.threadRun · steps) })).view =
      s.view := by
  apply view_setSession
  simp only [view]
  cases s.mRotateSession id <;> rfl

theorem move_step (s : RotatorRun) (event : Event) :
    View.Move { s.view with posted := none, finished := none } event (s.step event).view := by
  unfold step
  show View.Move ({ s with posted := none, finished := none } : RotatorRun).view event _
  generalize { s with posted := none, finished := none } = s
  dsimp only
  split
  · rename_i hphase
    exact .setLayer hphase
  · exact .blank
  · rename_i hphase
    split
    · exact .stay _
    · rename_i hblank
      exact .prepare hphase (Bool.eq_false_iff.mpr hblank)
  · rename_i hphase
    split
    · rename_i hid
      exact move_capable hphase hid _
    · exact .stay _
  · rename_i hphase
    exact .assigned hphase
  · rename_i hphase
    exact .done hphase
  · rename_i hphase
    exact move_postRotateTask hphase
  · rename_i hphase
    split
    · show View.Move s.view .commit s.postCommit.view
      rw [view_postCommit]
      exact .commit hphase
    · exact .stay _
  · rw [view_removeRotateSession]
    exact .layerDestroyed _
  · exact .takeTasks
  · exact move_finish s _
  · rw [view_allocate]
    exact .stay _
  · exact .stay _

end RotatorRun

/-! ## The queue of the rotator -/

namespace HardwareRotator

theorem unfinished_postRotateTask (r : HardwareRotator) (id : Nat) (task : RotateTask) :
    (r.postRotateTask id task).unfinished =
      r.unfinished ++ [{ mTaskId := task.mTaskId, id, fence := r.mTimelineValue + 1 }] := by
  simp [unfinished, postRotateTask]

@[simp] theorem unfinished_takeTasks (r : HardwareRotator) :
    r.takeTasks.unfinished = r.unfinished := by
  unfold takeTasks
  split
  · rename_i hempty
    simp [unfinished, List.isEmpty_iff.mp hempty]
  · rfl

theorem unfinished_onTaskFinished {r : HardwareRotator} {task : PendingTask}
    {rest : List PendingTask} (h : r.pendingTasks = task :: rest) :
    r.unfinished = task :: r.onTaskFinished.unfinished := by
  simp [unfinished, onTaskFinished, h]

@[simp] theorem takeTasks_mTimelineValue (r : HardwareRotator) :
    r.takeTasks.mTimelineValue = r.mTimelineValue := by
  unfold takeTasks
  split <;> rfl

@[simp] theorem takeTasks_mSignaledPtValue (r : HardwareRotator) :
    r.takeTasks.mSignaledPtValue = r.mSignaledPtValue := by
  unfold takeTasks
  split <;> rfl

@[simp] theorem takeTasks_mSyncFencePt (r : HardwareRotator) :
    r.takeTasks.mSyncFencePt = r.mSyncFencePt := by
  unfold takeTasks
  split <;> rfl

/-- The fences of the unfinished entries, between the point that was signalled last and the one that
was created last. -/
def Ordered (r : HardwareRotator) : Prop :=
  Consecutive (· + 1) r.mSignaledPtValue (r.unfinished.map PendingTask.fence) r.mTimelineValue

theorem Ordered.postRotateTask {r : HardwareRotator} (h : r.Ordered) (id : Nat)
    (task : RotateTask) : (r.postRotateTask id task).Ordered := by
  rw [Ordered, unfinished_postRotateTask, List.map_append]
  exact h.issue

theorem Ordered.takeTasks {r : HardwareRotator} (h : r.Ordered) : r.takeTasks.Ordered := by
  rw [Ordered, unfinished_takeTasks, takeTasks_mTimelineValue, takeTasks_mSignaledPtValue]
  exact h

theorem Ordered.onTaskFinished {r : HardwareRotator} {task : PendingTask}
    {rest : List PendingTask} (h : r.Ordered) (htask : r.pendingTasks = task :: rest) :
    r.mSignaledPtValue + 1 = task.fence ∧ r.onTaskFinished.Ordered := by
  rw [Ordered, unfinished_onTaskFinished htask, List.map_cons] at h
  exact h.serve

/-- No entry for the task is waiting or being rotated. -/
def NotQueued (r : HardwareRotator) (task : RotateTask) : Prop :=
  ∀ entry ∈ r.unfinished, entry.mTaskId ≠ task.mTaskId

instance (r : HardwareRotator) (task : RotateTask) : Decidable (r.NotQueued task) :=
  inferInstanceAs (Decidable (∀ entry ∈ _, _))

end HardwareRotator

/-! ## Fences -/

namespace View

theorem Move.ordered {v v' : View} {event : RotatorRun.Event} (hmove : Move v event v')
    (h : v.hwRotator.Ordered) (hnone : v.finished = none) :
    v'.hwRotator.Ordered ∧ ∀ finished ∈ v'.finished,
      finished.mSignaledPtValue = finished.task.fence := by
  have hfinished : ∀ finished ∈ v.finished, finished.mSignaledPtValue = finished.task.fence := by
    rw [hnone]
    rintro _ ⟨⟩
  cases hmove with
  | post => exact ⟨h.postRotateTask _ _, hfinished⟩
  | takeTasks => exact ⟨h.takeTasks, hfinished⟩
  | finish htask =>
      obtain ⟨hfence, hordered⟩ := h.onTaskFinished htask
      refine ⟨hordered, ?_⟩
      rintro _ ⟨⟩
      exact hfence
  | _ => exact ⟨h, hfinished⟩

/-- Task objects are told apart by their numbers. -/
structure Numbered (v : View) : Prop where
  entries : ∀ entry ∈ v.hwRotator.unfinished, entry.mTaskId < v.mNextTaskId
  tasks : ∀ id, ∀ task ∈ v.tasks id, task.mTaskId < v.mNextTaskId
  apart : ∀ id id', ∀ task ∈ v.tasks id, ∀ task' ∈ v.tasks id',
    task.mTaskId = task'.mTaskId → id = id'

theorem Numbered.of_subset {v : View} (h : v.Numbered) {tasks : Nat → Option RotateTask}
    (hsub : ∀ id, ∀ task ∈ tasks id, task ∈ v.tasks id) : { v with tasks }.Numbered where
  entries := h.entries
  tasks := fun id task htask => h.tasks id task (hsub id task htask)
  apart := fun id id' task htask task' htask' =>
    h.apart id id' task (hsub id task htask) task' (hsub id' task' htask')

theorem mem_update_none {tasks : Nat → Option RotateTask} {id id' : Nat} {task : RotateTask}
    (h : task ∈ Function.update tasks id none id') : task ∈ tasks id' := by
  by_cases hid : id' = id
  · subst hid
    simp at h
  · rwa [Function.update_of_ne hid] at h

theorem mem_update_some {tasks : Nat → Option RotateTask} {id id' : Nat} {new task : RotateTask}
    (h : task ∈ Function.update tasks id (some new) id') :
    (id' = id ∧ task = new) ∨ (id' ≠ id ∧ task ∈ tasks id') := by
  by_cases hid : id' = id
  · subst hid
    rw [Function.update_self] at h
    exact .inl ⟨rfl, (Option.some.inj h).symm⟩
  · rw [Function.update_of_ne hid] at h
    exact .inr ⟨hid, h⟩

theorem Move.numbered {v v' : View} {event : RotatorRun.Event} (hmove : Move v event v')
    (h : v.Numbered) : v'.Numbered := by
  cases hmove with
  | @create _ _ id _ new _ _ _ _ _ hfresh _ =>
      have hold : ∀ id', ∀ task ∈ v.tasks id', task.mTaskId ≠ new.mTaskId := by
        intro id' task htask
        have := h.tasks id' task htask
        omega
      refine ⟨?_, ?_, ?_⟩
      · intro entry hentry
        exact Nat.lt_succ_of_lt (h.entries entry hentry)
      · intro id' task htask
        rcases mem_update_some htask with ⟨-, rfl⟩ | ⟨-, htask⟩
        · exact hfresh ▸ Nat.lt_succ_self _
        · exact Nat.lt_succ_of_lt (h.tasks id' task htask)
      · intro id₁ id₂ task₁ htask₁ task₂ htask₂ heq
        rcases mem_update_some htask₁ with ⟨rfl, rfl⟩ | ⟨-, hold₁⟩
        · rcases mem_update_some htask₂ with ⟨rfl, -⟩ | ⟨-, hold₂⟩
          · rfl
          · exact absurd heq.symm (hold id₂ task₂ hold₂)
        · rcases mem_update_some htask₂ with ⟨-, rfl⟩ | ⟨-, hold₂⟩
          · exact absurd heq (hold id₁ task₁ hold₁)
          · exact h.apart id₁ id₂ task₁ hold₁ task₂ hold₂ heq
  | @post id _ task _ htask =>
      refine ⟨?_, h.tasks, h.apart⟩
      intro entry hentry
      rw [HardwareRotator.unfinished_postRotateTask] at hentry
      rcases List.mem_append.mp hentry with hentry | hentry
      · exact h.entries entry hentry
      · rw [List.mem_singleton.mp hentry]
        exact h.tasks id task htask
  | commit => exact h.of_subset (by rintro _ _ ⟨⟩)
  | layerDestroyed id => exact h.of_subset fun _ _ => mem_update_none
  | takeTasks =>
      refine ⟨?_, h.tasks, h.apart⟩
      rw [HardwareRotator.unfinished_takeTasks]
      exact h.entries
  | finish htask =>
      refine ⟨?_, h.tasks, h.apart⟩
      intro entry hentry
      apply h.entries
      rw [HardwareRotator.unfinished_onTaskFinished htask]
      exact List.mem_cons_of_mem _ hentry
  | _ => exact ⟨h.entries, h.tasks, h.apart⟩

end View

/-! ## Tasks that wait to be posted -/

namespace View

/-- What may be asked of a layer's task. -/
abbrev TaskProp := (Nat → RotatedLayer) → HardwareRotator → Nat → RotateTask → Prop

/-- The tasks that a `prepare` finds, of the layers that it may post, have the property. -/
def Finds (P : TaskProp) (v : View) : RotatorRun.Event → Prop
  | .prepare inputs => v.phase = .idle → v.mBlankOutput = false →
      ∀ id ∈ inputs.ids, (v.layers id).transform ≠ 0 →
        ∀ task ∈ v.tasks id, P v.layers v.hwRotator id task
  | _ => True

instance (P : TaskProp) [∀ layers hwRotator id task, Decidable (P layers hwRotator id task)]
    (v : View) (event : RotatorRun.Event) : Decidable (v.Finds P event) :=
  match event with
  | .prepare _ => inferInstanceAs (Decidable (_ → _ → ∀ id ∈ _, _ → ∀ task ∈ _, _))
  | .setLayer .. | .blank _ | .capable .. | .assigned _ | .post | .commit | .layerDestroyed _ |
    .takeTasks | .finish _ | .allocate .. => isTrue trivial

/-- What is still to be posted has the property. -/
structure Waits (P : TaskProp) (v : View) : Prop where
  planning : ∀ inputs accepted, v.phase = .planning inputs accepted →
    ∀ id ∈ inputs.ids, (v.layers id).transform ≠ 0 →
      ∀ task ∈ v.tasks id, P v.layers v.hwRotator id task
  posting : ∀ ids, v.phase = .posting ids →
    ids.Nodup ∧ ∀ id ∈ ids, ∀ task ∈ v.tasks id, P v.layers v.hwRotator id task

/-- The property is true of a new task and is not lost by the work of the rotate thread, nor by the
posting of another layer's task. -/
structure Lasting (P : TaskProp) (v : View) : Prop where
  fresh : ∀ id task handle, task.mTaskId = v.mNextTaskId → (v.layers id).handle = some handle →
    Describes (v.layers id) task handle → P v.layers v.hwRotator id task
  takeTasks : ∀ id task, P v.layers v.hwRotator id task → P v.layers v.hwRotator.takeTasks id task
  finish : ∀ id task first rest, v.hwRotator.pendingTasks = first :: rest →
    P v.layers v.hwRotator id task → P v.layers v.hwRotator.onTaskFinished id task
  post : ∀ id task id' task', v.tasks id = some task → v.tasks id' = some task' → id' ≠ id →
    P v.layers v.hwRotator id' task' → P v.layers (v.hwRotator.postRotateTask id task) id' task'

theorem Waits.idle {P : TaskProp} {v : View} (hphase : v.phase = .idle) : v.Waits P where
  planning := by
    intro inputs accepted h
    cases hphase.symm.trans h
  posting := by
    intro ids h
    cases hphase.symm.trans h

theorem Waits.of_subset {P : TaskProp} {v : View} (h : v.Waits P)
    {tasks : Nat → Option RotateTask} (hsub : ∀ id, ∀ task ∈ tasks id, task ∈ v.tasks id) :
    { v with tasks }.Waits P where
  planning := fun inputs accepted hphase id hid htransform task htask =>
    h.planning inputs accepted hphase id hid htransform task (hsub id task htask)
  posting := fun ids hphase => ⟨(h.posting ids hphase).1, fun id hid task htask =>
    (h.posting ids hphase).2 id hid task (hsub id task htask)⟩

theorem Waits.hwRotator {P : TaskProp} {v : View} (h : v.Waits P) {hwRotator : HardwareRotator}
    (hkeep : ∀ id task, P v.layers v.hwRotator id task → P v.layers hwRotator id task) :
    { v with hwRotator }.Waits P where
  planning := fun inputs accepted hphase id hid htransform task htask =>
    hkeep id task (h.planning inputs accepted hphase id hid htransform task htask)
  posting := fun ids hphase => ⟨(h.posting ids hphase).1, fun id hid task htask =>
    hkeep id task ((h.posting ids hphase).2 id hid task htask)⟩

theorem Move.waits {P : TaskProp} {v v' : View} {event : RotatorRun.Event}
    (hmove : Move v event v') (h : v.Waits P) (hlasting : Lasting P v) (hfinds : v.Finds P event) :
    v'.Waits P := by
  cases hmove with
  | stay => exact h
  | setLayer hphase => exact .idle hphase
  | blank => exact ⟨h.planning, h.posting⟩
  | @prepare inputs hphase hblank =>
      refine ⟨?_, by rintro _ ⟨⟩⟩
      rintro _ _ ⟨⟩
      exact hfinds hphase hblank
  | @accept inputs accepted id _ hphase _ =>
      refine ⟨?_, by rintro _ ⟨⟩⟩
      rintro _ _ ⟨⟩
      exact h.planning inputs accepted hphase
  | @create inputs accepted id _ new handle hphase _ _ hhandle hfresh hdescribes =>
      refine ⟨?_, by rintro _ ⟨⟩⟩
      rintro _ _ ⟨⟩ id' hid' htransform task htask
      rcases mem_update_some htask with ⟨rfl, rfl⟩ | ⟨-, hold⟩
      · exact hlasting.fresh _ _ handle hfresh hhandle hdescribes
      · exact h.planning inputs accepted hphase id' hid' htransform task hold
  | @assigned inputs accepted device hphase =>
      refine ⟨by rintro _ _ ⟨⟩, ?_⟩
      rintro _ ⟨⟩
      refine ⟨inputs.nodup.filter _, ?_⟩
      intro id hid
      obtain ⟨hmem, hfilter⟩ := List.mem_filter.mp hid
      exact h.planning inputs accepted hphase id hmem (of_decide_eq_true hfilter).1
  | done => exact .idle rfl
  | @skip id ids hphase =>
      refine ⟨by rintro _ _ ⟨⟩, ?_⟩
      rintro _ ⟨⟩
      obtain ⟨hnodup, hids⟩ := h.posting _ hphase
      exact ⟨hnodup.of_cons, fun id' hid' => hids id' (List.mem_cons_of_mem id hid')⟩
  | @post id ids task hphase htask =>
      refine ⟨by rintro _ _ ⟨⟩, ?_⟩
      rintro _ ⟨⟩
      obtain ⟨hnodup, hids⟩ := h.posting _ hphase
      refine ⟨hnodup.of_cons, ?_⟩
      intro id' hid' task' htask'
      have hne : id' ≠ id := fun heq => (List.nodup_cons.mp hnodup).1 (heq ▸ hid')
      exact hlasting.post id task id' task' htask htask' hne
        (hids id' (List.mem_cons_of_mem id hid') task' htask')
  | commit hphase => exact .idle hphase
  | layerDestroyed id => exact h.of_subset fun _ _ => mem_update_none
  | takeTasks => exact h.hwRotator hlasting.takeTasks
  | finish htask =>
      have hkept := h.hwRotator fun id task => hlasting.finish id task _ _ htask
      exact ⟨hkept.planning, hkept.posting⟩

/-! ### Tasks that are not queued -/

def NotQueued : TaskProp := fun _ hwRotator _ task => hwRotator.NotQueued task

instance (layers : Nat → RotatedLayer) (hwRotator : HardwareRotator) (id : Nat)
    (task : RotateTask) : Decidable (NotQueued layers hwRotator id task) :=
  inferInstanceAs (Decidable (hwRotator.NotQueued task))

theorem lasting_notQueued {v : View} (h : v.Numbered) : Lasting NotQueued v where
  fresh := by
    intro id task handle hfresh _ _ entry hentry
    have := h.entries entry hentry
    omega
  takeTasks := by
    intro id task hkeep
    show ∀ entry ∈ v.hwRotator.takeTasks.unfinished, _
    rw [HardwareRotator.unfinished_takeTasks]
    exact hkeep
  finish := by
    intro id task first rest hfirst hkeep entry hentry
    apply hkeep
    rw [HardwareRotator.unfinished_onTaskFinished hfirst]
    exact List.mem_cons_of_mem first hentry
  post := by
    intro id task id' task' htask htask' hne hkeep entry hentry
    rw [HardwareRotator.unfinished_postRotateTask] at hentry
    rcases List.mem_append.mp hentry with hentry | hentry
    · exact hkeep entry hentry
    · rw [List.mem_singleton.mp hentry]
      intro heq
      exact hne (h.apart id' id task' htask' task htask heq.symm)

/-- No task object is in the queue twice, and each still has the point of its fence. -/
structure Once (v : View) : Prop where
  nodup : (v.hwRotator.unfinished.map PendingTask.mTaskId).Nodup
  points : ∀ entry ∈ v.hwRotator.unfinished,
    v.hwRotator.mSyncFencePt entry.mTaskId = entry.fence

theorem Once.postRotateTask {v : View} (h : v.Once) {task : RotateTask} (id : Nat)
    (hqueued : v.hwRotator.NotQueued task) :
    { v with hwRotator := v.hwRotator.postRotateTask id task }.Once where
  nodup := by
    rw [HardwareRotator.unfinished_postRotateTask, List.map_append]
    apply List.Nodup.append h.nodup (List.nodup_singleton _)
    rintro _ hold hnew
    obtain ⟨entry, hentry, rfl⟩ := List.mem_map.mp hold
    exact hqueued entry hentry (List.mem_singleton.mp hnew)
  points := by
    intro entry hentry
    rw [HardwareRotator.unfinished_postRotateTask] at hentry
    show Function.update v.hwRotator.mSyncFencePt task.mTaskId _ entry.mTaskId = entry.fence
    rcases List.mem_append.mp hentry with hentry | hentry
    · rw [Function.update_of_ne (hqueued entry hentry)]
      exact h.points entry hentry
    · rw [List.mem_singleton.mp hentry, Function.update_self]

theorem Move.once {v v' : View} {event : RotatorRun.Event} (hmove : Move v event v')
    (h : v.Once) (hwaits : v.Waits NotQueued) (hnone : v.finished = none) :
    v'.Once ∧ ∀ finished ∈ v'.finished, finished.mSyncFencePt = finished.task.fence := by
  have hfinished : ∀ finished ∈ v.finished, finished.mSyncFencePt = finished.task.fence := by
    rw [hnone]
    rintro _ ⟨⟩
  cases hmove with
  | @post id ids task hphase htask =>
      have hqueued := (hwaits.posting _ hphase).2 id List.mem_cons_self task htask
      have hpost := h.postRotateTask id hqueued
      exact ⟨⟨hpost.nodup, hpost.points⟩, hfinished⟩
  | takeTasks =>
      refine ⟨⟨?_, ?_⟩, hfinished⟩
      · simpa using h.nodup
      · simpa using h.points
  | @finish _ task rest htask =>
      obtain ⟨hnodup, hpoints⟩ := h
      rw [HardwareRotator.unfinished_onTaskFinished htask] at hnodup hpoints
      refine ⟨⟨hnodup.of_cons, ?_⟩, ?_⟩
      · intro entry hentry
        exact hpoints entry (List.mem_cons_of_mem task hentry)
      · rintro _ ⟨⟩
        exact hpoints task List.mem_cons_self
  | _ => exact ⟨⟨h.nodup, h.points⟩, hfinished⟩

end View

namespace RotatorRun

def new (mLegacyHardwareVersion : Bool) : RotatorRun :=
  { hwRotator := { mLegacyHardwareVersion } }

/-- A `prepare` finds no task, of a layer that it may post, in the queue. -/
def FindsNoneQueued (_ : List Event) (s : RotatorRun) (event : Event) : Prop :=
  s.view.Finds View.NotQueued event

/-- The fence that is signalled is the one that was created when the entry was posted, and no task is
in the queue or with the rotate thread twice. -/
def SignalsOnce (s : RotatorRun) : Prop :=
  (∀ finished ∈ s.finished, finished.mSignaledPtValue = finished.task.fence) ∧
    (s.hwRotator.unfinished.map PendingTask.mTaskId).Nodup

theorem ordered_run (mLegacyHardwareVersion : Bool) (events : List Event) :
    (events.foldl step (new mLegacyHardwareVersion)).hwRotator.Ordered ∧
      ∀ finished ∈ (events.foldl step (new mLegacyHardwareVersion)).finished,
        finished.mSignaledPtValue = finished.task.fence := by
  induction events using List.reverseRecOn with
  | nil => exact ⟨rfl, by rintro _ ⟨⟩⟩
  | append_singleton events event ih =>
      rw [List.foldl_append]
      exact (move_step _ event).ordered ih.1 rfl

/-- What holds after every step of a run in which no `prepare` finds a queued task. -/
structure Orderly (s : RotatorRun) : Prop where
  numbered : s.view.Numbered
  waits : s.view.Waits View.NotQueued
  once : s.view.Once
  /-- `onTaskFinished` finds no corruption of the timeline. -/
  sound : ∀ finished ∈ s.finished, finished.mSyncFencePt = finished.task.fence

theorem orderly_new (mLegacyHardwareVersion : Bool) : (new mLegacyHardwareVersion).Orderly where
  numbered := ⟨by rintro _ ⟨⟩, by rintro _ _ ⟨⟩, by rintro _ _ _ ⟨⟩⟩
  waits := .idle rfl
  once := ⟨List.nodup_nil, by rintro _ ⟨⟩⟩
  sound := by rintro _ ⟨⟩

theorem Orderly.step {s : RotatorRun} (h : s.Orderly) {past : List Event} {event : Event}
    (hok : FindsNoneQueued past s event) : (s.step event).Orderly := by
  have hmove := move_step s event
  have hnumbered : { s.view with posted := none, finished := none }.Numbered :=
    ⟨h.numbered.entries, h.numbered.tasks, h.numbered.apart⟩
  have hwaits : { s.view with posted := none, finished := none }.Waits View.NotQueued :=
    ⟨h.waits.planning, h.waits.posting⟩
  have hfinds : { s.view with posted := none, finished := none }.Finds View.NotQueued event := by
    cases event <;> exact hok
  obtain ⟨honce, hsound⟩ := hmove.once ⟨h.once.nodup, h.once.points⟩ hwaits rfl
  exact ⟨hmove.numbered hnumbered,
    hmove.waits hwaits (View.lasting_notQueued hnumbered) hfinds, honce, hsound⟩

theorem Orderly.run {mLegacyHardwareVersion : Bool} {events : List Event}
    (h : Guarded RotatorRun.step FindsNoneQueued (new mLegacyHardwareVersion) events) :
    (events.foldl RotatorRun.step (new mLegacyHardwareVersion)).Orderly :=
  h.invariant (fun _ s => s.Orderly) (orderly_new _) fun _ _ _ hinv hok => hinv.step hok

/-- Fences are signalled in order, and no task is posted while it is queued or being rotated, in every
run in which no `prepare` finds a task of the last frame in the queue. -/
theorem signalsOnce_of_findsNoneQueued (mLegacyHardwareVersion : Bool) (events : List Event)
    (hguarded : Guarded step FindsNoneQueued (new mLegacyHardwareVersion) events) :
    ∀ past, past <+: events → (past.foldl step (new mLegacyHardwareVersion)).SignalsOnce := by
  intro past hpast
  have horderly := Orderly.run (hguarded.of_prefix hpast)
  exact ⟨(ordered_run mLegacyHardwareVersion past).2, horderly.once.nodup⟩

/-! ### A frame that is validated twice -/

instance (past : List Event) (s : RotatorRun) (event : Event) :
    Decidable (FindsNoneQueued past s event) :=
  inferInstanceAs (Decidable (s.view.Finds View.NotQueued event))

def prepareOne (id : Nat) (steps : List BufferPool.Event) : List Event :=
  [.prepare ⟨[id], List.nodup_singleton id⟩, .capable id steps, .assigned [id], .post, .post]

def validate : List Event :=
  [.setLayer 1 ⟨some (SessionRun.frame 0 16), HAL_TRANSFORM_ROT_90⟩, .blank false] ++
    prepareOne 1 SessionRun.allocateAll

def validateAgain : List Event := validate ++ prepareOne 1 []

def rotateAgain : List Event := validateAgain ++ [.takeTasks, .finish false]

/-- The task of the layer is in the queue twice, and the rotate thread finds the timeline corrupted. -/
theorem validateAgain_not_signalsOnce :
    ¬ (validateAgain.foldl step (new false)).SignalsOnce ∧
      (rotateAgain.foldl step (new false)).finished.map
        (fun finished : Finished => (finished.mSignaledPtValue, finished.mSyncFencePt)) =
          some (1, 2) := by
  constructor
  · intro h
    exact absurd h.2 (by decide +kernel)
  · decide +kernel

def present : List Event :=
  validate ++ [.takeTasks, .finish false, .commit] ++ prepareOne 1 [] ++ [.takeTasks, .finish false]

theorem present_signalsOnce :
    (present.foldl step (new false)).finished.map Finished.mSignaledPtValue = some 2 ∧
      ∀ past, past <+: present → (past.foldl step (new false)).SignalsOnce :=
  ⟨by decide +kernel, signalsOnce_of_findsNoneQueued false present (by decide +kernel)⟩

end RotatorRun

/-! ## The layer that is shown -/

namespace View

/-- The task is for the buffer and the transform that the layer has now. -/
def Current : TaskProp := fun layers _ id task =>
  ∀ handle ∈ (layers id).handle, Describes (layers id) task handle

instance (layers : Nat → RotatedLayer) (hwRotator : HardwareRotator) (id : Nat)
    (task : RotateTask) : Decidable (Current layers hwRotator id task) :=
  inferInstanceAs (Decidable (∀ handle ∈ (layers id).handle, Describes (layers id) task handle))

theorem lasting_current (v : View) : Lasting Current v where
  fresh := by
    intro id task handle _ hhandle hdescribes handle' hhandle'
    cases hhandle.symm.trans hhandle'
    exact hdescribes
  takeTasks := fun _ _ hkeep => hkeep
  finish := fun _ _ _ _ _ hkeep => hkeep
  post := fun _ _ _ _ _ _ _ hkeep => hkeep

/-- A layer that the rotator was tried for has a buffer. -/
structure Buffered (v : View) : Prop where
  planning : ∀ inputs accepted, v.phase = .planning inputs accepted →
    ∀ id ∈ accepted, (v.layers id).transform ≠ 0 → (v.layers id).handle.isSome
  posting : ∀ ids, v.phase = .posting ids → ∀ id ∈ ids, (v.layers id).handle.isSome

theorem Buffered.idle {v : View} (hphase : v.phase = .idle) : v.Buffered where
  planning := by
    intro inputs accepted h
    cases hphase.symm.trans h
  posting := by
    intro ids h
    cases hphase.symm.trans h

theorem Move.buffered {v v' : View} {event : RotatorRun.Event} (hmove : Move v event v')
    (h : v.Buffered) : v'.Buffered := by
  cases hmove with
  | setLayer hphase => exact .idle hphase
  | prepare => exact ⟨by rintro _ _ ⟨⟩ _ ⟨⟩, by rintro _ ⟨⟩⟩
  | @accept inputs accepted id _ hphase hhandle =>
      refine ⟨?_, by rintro _ ⟨⟩⟩
      rintro _ _ ⟨⟩ id' hid'
      rcases List.mem_cons.mp hid' with rfl | hid'
      · exact hhandle
      · exact h.planning inputs accepted hphase id' hid'
  | @create inputs accepted id _ _ handle hphase _ _ hhandle =>
      refine ⟨?_, by rintro _ ⟨⟩⟩
      rintro _ _ ⟨⟩ id' hid'
      rcases List.mem_cons.mp hid' with rfl | hid'
      · exact fun _ => Option.isSome_of_eq_some hhandle
      · exact h.planning inputs accepted hphase id' hid'
  | @assigned inputs accepted device hphase =>
      refine ⟨by rintro _ _ ⟨⟩, ?_⟩
      rintro _ ⟨⟩ id hid
      obtain ⟨htransform, haccepted, -⟩ := of_decide_eq_true (List.mem_filter.mp hid).2
      exact h.planning inputs accepted hphase id haccepted htransform
  | done => exact .idle rfl
  | @skip id ids hphase | @post id ids _ hphase =>
      refine ⟨by rintro _ _ ⟨⟩, ?_⟩
      rintro _ ⟨⟩ id' hid'
      exact h.posting _ hphase id' (List.mem_cons_of_mem id hid')
  | _ => exact ⟨h.planning, h.posting⟩

theorem Move.posted {v v' : View} {event : RotatorRun.Event} (hmove : Move v event v')
    (hwaits : v.Waits Current) (hbuffered : v.Buffered) (hnone : v.posted = none) :
    ∀ posted ∈ v'.posted, ∃ handle ∈ (v'.layers posted.1).handle,
      Describes (v'.layers posted.1) posted.2 handle := by
  cases hmove with
  | @post id ids task hphase htask =>
      rintro _ ⟨⟩
      obtain ⟨handle, hhandle⟩ :=
        Option.isSome_iff_exists.mp (hbuffered.posting _ hphase id List.mem_cons_self)
      exact ⟨handle, hhandle,
        (hwaits.posting _ hphase).2 id List.mem_cons_self task htask handle hhandle⟩
  | _ =>
      intro posted hposted
      cases hnone.symm.trans hposted

end View

namespace RotatorRun

/-- The tasks that a `prepare` finds, of layers that it may post, are for the buffers and transforms
that these layers have by then. -/
def FindsCurrent (_ : List Event) (s : RotatorRun) (event : Event) : Prop :=
  s.view.Finds View.Current event

instance (past : List Event) (s : RotatorRun) (event : Event) :
    Decidable (FindsCurrent past s event) :=
  inferInstanceAs (Decidable (s.view.Finds View.Current event))

/-- The output of a task that was just posted is what `createAsyncRotateTask` computes for the layer
as it is. -/
def PostsCurrent (s : RotatorRun) : Prop :=
  ∀ posted ∈ s.posted, ∃ handle ∈ (s.layers posted.1).handle,
    Describes (s.layers posted.1) posted.2 handle

/-- What holds after every step of a run in which a `prepare` finds only current tasks. -/
structure UpToDate (s : RotatorRun) : Prop where
  waits : s.view.Waits View.Current
  buffered : s.view.Buffered
  posts : s.PostsCurrent

theorem UpToDate.step {s : RotatorRun} (h : s.UpToDate) {past : List Event} {event : Event}
    (hok : FindsCurrent past s event) : (s.step event).UpToDate := by
  have hmove := move_step s event
  have hwaits : { s.view with posted := none, finished := none }.Waits View.Current :=
    ⟨h.waits.planning, h.waits.posting⟩
  have hbuffered : { s.view with posted := none, finished := none }.Buffered :=
    ⟨h.buffered.planning, h.buffered.posting⟩
  have hfinds : { s.view with posted := none, finished := none }.Finds View.Current event := by
    cases event <;> exact hok
  exact ⟨hmove.waits hwaits (View.lasting_current _) hfinds, hmove.buffered hbuffered,
    hmove.posted hwaits hbuffered rfl⟩

/-- A posted task describes its layer, in every run in which no `prepare` finds a task of a dropped
frame that was made for another buffer or transform. -/
theorem postsCurrent_of_findsCurrent (mLegacyHardwareVersion : Bool) (events : List Event)
    (hguarded : Guarded step FindsCurrent (new mLegacyHardwareVersion) events) :
    ∀ past, past <+: events → (past.foldl step (new mLegacyHardwareVersion)).PostsCurrent := by
  intro past hpast
  have hrun := (hguarded.of_prefix hpast).invariant (fun _ s => s.UpToDate)
    ⟨.idle rfl, .idle rfl, by rintro _ ⟨⟩⟩ fun _ _ _ hinv hok => hinv.step hok
  exact hrun.posts

def validateWider : List Event :=
  validate ++ [.takeTasks, .finish false,
    .setLayer 1 ⟨some { SessionRun.frame 0 16 with width := 128 }, HAL_TRANSFORM_ROT_90⟩,
    .prepare ⟨[1], List.nodup_singleton 1⟩, .capable 1 [], .assigned [1], .post]

/-- The task that is posted has the output of the narrower buffer. -/
theorem validateWider_not_postsCurrent : ¬ (validateWider.foldl step (new false)).PostsCurrent := by
  intro h
  have hposted : (validateWider.foldl step (new false)).posted = some (1,
      ⟨0, ⟨⟨0, 6144, GRALLOC_USAGE_HW_2D⟩, 64, 64, 16, HAL_PIXEL_FORMAT_YV12⟩,
        HAL_TRANSFORM_ROT_90⟩) := by decide +kernel
  obtain ⟨handle, hhandle, -, hheight, -⟩ := h _ hposted
  have hlayer : ((validateWider.foldl step (new false)).layers 1).handle =
      some { SessionRun.frame 0 16 with width := 128 } := by decide +kernel
  cases hlayer.symm.trans hhandle
  exact absurd hheight (by decide +kernel)

def presentWider : List Event :=
  validate ++ [.takeTasks, .finish false, .commit,
    .setLayer 1 ⟨some { SessionRun.frame 0 16 with width := 128 }, HAL_TRANSFORM_ROT_90⟩,
    .prepare ⟨[1], List.nodup_singleton 1⟩, .capable 1 SessionRun.allocateAll, .assigned [1], .post]

theorem presentWider_postsCurrent :
    (presentWider.foldl step (new false)).posted.map (·.2.mOutputBuffer.height) = some 128 ∧
      ∀ past, past <+: presentWider → (past.foldl step (new false)).PostsCurrent :=
  ⟨by decide +kernel, postsCurrent_of_findsCurrent false presentWider (by decide +kernel)⟩

end RotatorRun

end AwHal.Hwc
