import AwHal.Hwc.RotateSession

/-!
# What a session is given to rotate into

Calls of one session for a layer whose buffer changes from frame to frame, while the allocating thread
works on its pool and other sessions change what is in the cache.
-/

namespace AwHal.Hwc

open AwHal.Lib

/-! ## The cache -/

theorem foldl_getTurn {size usage : Nat} {pools : List (BufferPool × Nat)} {best : Nat × Option Nat}
    {found : Nat} (h : (pools.foldl (getTurn size usage) best).2 = some found) :
    best.2 = some found ∨
      ∃ pool, (pool, found) ∈ pools ∧ pool.mUsage = usage ∧ size ≤ pool.bufferSize := by
  induction pools generalizing best with
  | nil => exact .inl h
  | cons head rest ih =>
      rcases ih h with hbest | ⟨pool, hmem, hfits⟩
      · unfold getTurn at hbest
        split at hbest
        · rename_i hhead
          cases hbest
          exact .inr ⟨head.1, List.mem_cons_self, hhead.1, hhead.2.1⟩
        · exact .inl hbest
      · exact .inr ⟨pool, List.mem_cons_of_mem head hmem, hfits⟩

theorem BufferPoolCache.get_some {cache rest : List BufferPool} {size usage : Nat}
    {pool : BufferPool} (h : get cache size usage = (some pool, rest)) :
    pool.mUsage = usage ∧ size ≤ pool.bufferSize ∧ pool ∈ cache ∧ ∀ q ∈ rest, q ∈ cache := by
  unfold get at h
  split at h
  · cases h
  · rename_i found hfound
    rcases foldl_getTurn hfound with hnone | ⟨pool', hmem, husage, hsize⟩
    · cases hnone
    · obtain ⟨hpool, hrest⟩ := Prod.mk.inj h
      have hget : cache[found]? = some pool' := List.mk_mem_zipIdx_iff_getElem?.mp hmem
      cases hpool.symm.trans hget
      refine ⟨husage, hsize, List.mem_of_getElem? hget, ?_⟩
      intro q hq
      rw [← hrest] at hq
      exact List.mem_of_mem_eraseIdx hq

theorem BufferPoolCache.get_none {cache rest : List BufferPool} {size usage : Nat}
    (h : get cache size usage = (none, rest)) : rest = cache := by
  unfold get at h
  split at h
  · cases h
    rfl
  · rename_i found hfound
    rcases foldl_getTurn hfound with hnone | ⟨pool, hmem, -⟩
    · cases hnone
    · have hget : cache[found]? = some pool := List.mk_mem_zipIdx_iff_getElem?.mp hmem
      rw [hget] at h
      cases h

theorem BufferPoolCache.mem_put {cache : List BufferPool} {pool q : BufferPool}
    (h : q ∈ put cache pool) : q ∈ cache ∨ q = pool := by
  have hmem : q ∈ cache ++ [pool] := by
    simp only [put] at h
    split at h
    · exact List.mem_of_mem_tail h
    · exact h
  rcases List.mem_append.mp hmem with hmem | hmem
  · exact .inl hmem
  · exact .inr (List.mem_singleton.mp hmem)

/-! ## The pool of a call -/

namespace BufferPool

theorem step_hung {p : BufferPool} (h : p.hung = true) (event : Event) :
    p.step event = { p with acquired := none } := by
  simp [step, h]

@[simp] theorem threadRun_mUsage (p : BufferPool) (steps : List Event) :
    (RotateSession.threadRun p steps).mUsage = p.mUsage := by
  unfold RotateSession.threadRun
  induction steps.filter _ generalizing p with
  | nil => rfl
  | cons event steps ih => rw [List.foldl_cons, ih, step_mUsage]

theorem ne_reallocate_of_mem {steps : List Event} :
    ∀ event ∈ steps.filter (fun event => decide event.Pending), ∀ size,
      event ≠ .reallocate size := by
  rintro event hmem size rfl
  have hpending : (Event.reallocate size).Pending := by simpa using (List.mem_filter.mp hmem).2
  exact hpending

/-- A pool that comes from calls in which no `reallocate` found an allocation under way, and that is
not in the middle of one. -/
def Built (p : BufferPool) : Prop :=
  ∃ count size usage events, Guarded step Settled (new count size usage) events ∧
    p = events.foldl step (new count size usage) ∧ p.reallocating = none

theorem Built.sound {p : BufferPool} (h : p.Built) : p.Sound := by
  obtain ⟨count, size, usage, events, hguarded, rfl, hwhole⟩ := h
  exact ⟨Inv.run hguarded, hwhole⟩

/-- The buffers that can be acquired from the pool hold `size` bytes. -/
def Holds (p : BufferPool) (size : Nat) : Prop :=
  p.Sound ∧ (p.hung = true ∨ size ≤ p.mSize)

theorem Holds.step {p : BufferPool} {size : Nat} (h : p.Holds size) {event : Event}
    (hevent : ∀ size, event ≠ .reallocate size) : (p.step event).Holds size := by
  obtain ⟨hsound, hsize⟩ := h
  obtain ⟨hsound', hmSize, -⟩ := hsound.step hevent
  refine ⟨hsound', ?_⟩
  rcases hsize with hhung | hsize
  · rw [step_hung hhung]
    exact .inl hhung
  · rw [hmSize]
    exact .inr hsize

theorem Holds.run {p : BufferPool} {size : Nat} (h : p.Holds size) {events : List Event}
    (hevents : ∀ event ∈ events, ∀ size, event ≠ .reallocate size) :
    (events.foldl BufferPool.step p).Holds size := by
  induction events generalizing p with
  | nil => exact h
  | cons event events ih =>
      exact ih (h.step (hevents event List.mem_cons_self)) fun e he =>
        hevents e (List.mem_cons_of_mem event he)

theorem Holds.threadRun {p : BufferPool} {size : Nat} (h : p.Holds size) (steps : List Event) :
    (RotateSession.threadRun p steps).Holds size :=
  h.run ne_reallocate_of_mem

theorem Holds.acquired {p : BufferPool} {size : Nat} (h : p.Holds size) {buf : IonBuffer}
    (hbuf : buf ∈ (p.step .acquireBuffer).acquired) : size ≤ buf.size := by
  obtain ⟨hsound, hhung | hsize⟩ := h
  · rw [step_hung hhung] at hbuf
    cases hbuf
  · have hevent : ∀ size, Event.acquireBuffer ≠ .reallocate size := by simp
    obtain ⟨hsound', hmSize, -⟩ := hsound.step hevent
    calc
      size ≤ p.mSize := hsize
      _ = (p.step .acquireBuffer).mSize := hmSize.symm
      _ ≤ buf.size := hsound'.inv.acquired buf hbuf

end BufferPool

namespace RotateSession

/-- Secure output is asked of a pool that was secure before, or of one from the cache. -/
def AskedSecure (s : RotateSession) (cache : List BufferPool) (handle : RotateHandle)
    (g : Geometry) (pool : BufferPool) : Prop :=
  IsProtected pool.mUsage ∨
    (s.active = false ∧ ¬ s.SameGeometry g ∧ pool.bufferSize < g.size ∧
      (BufferPoolCache.get cache g.size (outputUsage handle)).1.isSome)

instance (s : RotateSession) (cache : List BufferPool) (handle : RotateHandle) (g : Geometry)
    (pool : BufferPool) : Decidable (s.AskedSecure cache handle g pool) :=
  inferInstanceAs (Decidable (_ ∨ _))

theorem isProtected_outputUsage {handle : RotateHandle} (h : IsProtected handle.usage) :
    IsProtected (outputUsage handle) := by
  rw [outputUsage, if_pos h]
  decide

theorem isProtected_choosePool {s : RotateSession} {cache : List BufferPool}
    {handle : RotateHandle} {g : Geometry} (hsecure : IsProtected handle.usage)
    (hpool : ∀ pool ∈ s.mBufferPool, s.AskedSecure cache handle g pool) :
    IsProtected (s.choosePool cache handle g).1.mUsage := by
  have husage := isProtected_outputUsage hsecure
  unfold choosePool
  split
  · show IsProtected ((BufferPoolCache.get cache g.size (outputUsage handle)).1.getD _).mUsage
    cases hget : (BufferPoolCache.get cache g.size (outputUsage handle)).1 with
    | none => exact husage
    | some pool =>
        rw [Option.getD_some, (BufferPoolCache.get_some (Prod.ext hget rfl)).1]
        exact husage
  · rename_i pool hsome
    rcases hpool pool hsome with hpool | ⟨-, hsame, hsize, hget⟩
    · split
      · exact hpool
      · split
        · split
          · rename_i hget
            rw [(BufferPoolCache.get_some hget).1]
            exact husage
          · simpa [reallocatePool] using hpool
        · exact hpool
    · rw [if_neg hsame, if_pos hsize]
      split
      · rename_i hget
        rw [(BufferPoolCache.get_some hget).1]
        exact husage
      · rename_i hnone
        rw [hnone] at hget
        cases hget

theorem holds_choosePool {s : RotateSession} {cache : List BufferPool} {handle : RotateHandle}
    {g : Geometry} (hpool : ∀ pool ∈ s.mBufferPool, pool.Sound ∧ pool.owed = 0)
    (hcache : ∀ pool ∈ cache, pool.Sound)
    (hsame : ∀ pool ∈ s.mBufferPool, s.SameGeometry g → g.size ≤ pool.bufferSize) :
    (s.choosePool cache handle g).1.Holds g.size ∧
      ∀ pool ∈ (s.choosePool cache handle g).2, pool.Sound := by
  unfold choosePool
  split
  · cases hget : BufferPoolCache.get cache g.size (outputUsage handle) with
    | mk cached rest =>
        cases cached with
        | none =>
            cases BufferPoolCache.get_none hget
            exact ⟨⟨BufferPool.sound_new _ _ _, .inr le_rfl⟩, hcache⟩
        | some pool =>
            obtain ⟨-, hsize, hmem, hrest⟩ := BufferPoolCache.get_some hget
            exact ⟨⟨hcache pool hmem, .inr hsize⟩, fun q hq => hcache q (hrest q hq)⟩
  · rename_i pool hsome
    obtain ⟨hsound, howed⟩ := hpool pool hsome
    split
    · rename_i hgeometry
      exact ⟨⟨hsound, .inr (hsame pool hsome hgeometry)⟩, hcache⟩
    · split
      · split
        · rename_i cached rest hget
          obtain ⟨-, hsize, hmem, hrest⟩ := BufferPoolCache.get_some hget
          refine ⟨⟨hcache cached hmem, .inr hsize⟩, ?_⟩
          intro q hq
          rcases BufferPoolCache.mem_put hq with hq | rfl
          · exact hcache q (hrest q hq)
          · exact hsound
        · rename_i rest hget
          cases BufferPoolCache.get_none hget
          obtain ⟨hsound', hsize, hhung⟩ := hsound.reallocate howed g.size
          refine ⟨⟨hsound', ?_⟩, hcache⟩
          cases hp : pool.hung with
          | true => exact .inl (hhung.trans hp)
          | false => exact .inr (hsize hp).ge
      · rename_i hsize
        exact ⟨⟨hsound, .inr (Nat.le_of_not_lt hsize)⟩, hcache⟩

section createAsyncRotateTask

variable {s : RotateSession} (cache : List BufferPool) (mNextTaskId : Nat) (handle : RotateHandle)
  (transform : Nat) (steps : List BufferPool.Event)

theorem createAsyncRotateTask_failed (hfailed : 3 ≤ s.mRotateFailedCount) :
    s.createAsyncRotateTask cache mNextTaskId handle transform steps =
      { ret := -1, session := s, cache, mNextTaskId } := by
  rw [createAsyncRotateTask, if_pos hfailed]

theorem createAsyncRotateTask_active (hfailed : s.mRotateFailedCount < 3)
    (hactive : s.active = true) :
    s.createAsyncRotateTask cache mNextTaskId handle transform steps =
      { ret := 0, session := s, cache, mNextTaskId } := by
  rw [createAsyncRotateTask, if_neg (Nat.not_le.mpr hfailed), if_pos hactive]

theorem createAsyncRotateTask_fresh (hfailed : s.mRotateFailedCount < 3)
    (hactive : s.active = false) :
    s.createAsyncRotateTask cache mNextTaskId handle transform steps =
      s.acquireTask (s.choosePool cache handle (outputGeometry handle transform)).1
        (s.choosePool cache handle (outputGeometry handle transform)).2 mNextTaskId
        (outputGeometry handle transform) transform steps := by
  rw [createAsyncRotateTask, if_neg (Nat.not_le.mpr hfailed), hactive]
  rfl

end createAsyncRotateTask

section acquireTask

variable (s : RotateSession) (pool : BufferPool) (cache : List BufferPool) (mNextTaskId : Nat)
  (g : Geometry) (transform : Nat) (steps : List BufferPool.Event)

@[simp] theorem acquireTask_mBufferPool :
    (s.acquireTask pool cache mNextTaskId g transform steps).session.mBufferPool =
      some ((threadRun pool steps).step .acquireBuffer) := by
  unfold acquireTask
  dsimp only
  split <;> rfl

@[simp] theorem acquireTask_cache :
    (s.acquireTask pool cache mNextTaskId g transform steps).cache = cache := by
  unfold acquireTask
  dsimp only
  split <;> rfl

theorem acquireTask_mRotateTask (hnone : s.mRotateTask = none) {task : RotateTask}
    (htask : task ∈ (s.acquireTask pool cache mNextTaskId g transform steps).session.mRotateTask) :
    ∃ buffer ∈ ((threadRun pool steps).step .acquireBuffer).acquired,
      task = ⟨mNextTaskId, ⟨buffer, g.w, g.h, g.align, g.format⟩, transform⟩ := by
  unfold acquireTask at htask
  dsimp only at htask
  split at htask
  · rename_i buffer hbuffer
    cases htask
    exact ⟨buffer, hbuffer, rfl⟩
  · rw [hnone] at htask
    cases htask

end acquireTask

theorem active_putRotatedBuffer (s : RotateSession) : s.putRotatedBuffer.active = false := by
  unfold putRotatedBuffer
  split
  · rename_i hnone
    simp [active, hnone]
  · rfl

end RotateSession

/-! ## Runs -/

/-- A session with the cache, and what the last call has done. -/
structure SessionRun where
  session : RotateSession := {}
  cache : List BufferPool := []
  mNextTaskId : Nat := 0
  /-- The buffer and the result of the last event, if it was a `createAsyncRotateTask`. -/
  called : Option (RotateHandle × Int) := none
  /-- The task that the last event acquired an output buffer for. -/
  created : Option RotateTask := none
  /-- The usage of the pool that the output buffer of the present task was acquired from. -/
  acquiredFrom : Option Nat := none

inductive SessionRun.Event where
  /-- A call for a buffer and a transform; the allocating thread may take the given steps before the
  output buffer is acquired. -/
  | createAsyncRotateTask (handle : RotateHandle) (transform : Nat)
      (steps : List BufferPool.Event)
  | putRotatedBuffer
  | onRotateFailed
  /-- The allocating thread works on the pool of the session. -/
  | allocate (steps : List BufferPool.Event)
  /-- Other sessions change what is in the cache. -/
  | recache (pools : List BufferPool)

namespace SessionRun

def step (s : SessionRun) (event : Event) : SessionRun :=
  let s := { s with called := none, created := none }
  match event with
  | .createAsyncRotateTask handle transform steps =>
      let out := s.session.createAsyncRotateTask s.cache s.mNextTaskId handle transform steps
      let s' := { s with
        session := out.session
        cache := out.cache
        mNextTaskId := out.mNextTaskId
        called := some (handle, out.ret) }
      if s.session.active then s'
      else { s' with
        created := out.session.mRotateTask
        acquiredFrom := out.session.mBufferPool.map BufferPool.mUsage }
  | .putRotatedBuffer => { s with session := s.session.putRotatedBuffer }
  | .onRotateFailed => { s with session := s.session.onRotateFailed }
  | .allocate steps =>
      { s with session := { s.session with
          mBufferPool := s.session.mBufferPool.map (RotateSession.threadRun · steps) } }
  | .recache pools => { s with cache := pools }

theorem step_failed {s : SessionRun} (hfailed : 3 ≤ s.session.mRotateFailedCount)
    (handle : RotateHandle) (transform : Nat) (steps : List BufferPool.Event) :
    (s.step (.createAsyncRotateTask handle transform steps)).session = s.session ∧
      (s.step (.createAsyncRotateTask handle transform steps)).cache = s.cache ∧
      (s.step (.createAsyncRotateTask handle transform steps)).called = some (handle, -1) ∧
      (s.step (.createAsyncRotateTask handle transform steps)).created = none ∧
      (s.session.active = true →
        (s.step (.createAsyncRotateTask handle transform steps)).acquiredFrom = s.acquiredFrom) := by
  simp only [step, RotateSession.createAsyncRotateTask_failed _ _ _ _ _ hfailed]
  cases hactive : s.session.active with
  | true => exact ⟨rfl, rfl, rfl, rfl, fun _ => rfl⟩
  | false =>
      have hnone : s.session.mRotateTask = none := by simpa [RotateSession.active] using hactive
      exact ⟨rfl, rfl, rfl, hnone, nofun⟩

/-! ### Secure output -/

/-- A call that succeeds for secure content has its output in a secure buffer. -/
def SecureOutput (s : SessionRun) : Prop :=
  ∀ handle, s.called = some (handle, 0) → IsProtected handle.usage →
    ∃ usage ∈ s.acquiredFrom, IsProtected usage

/-- A call for secure content finds a secure pool, none, or one that it replaces. -/
def FindsSecurePool (_ : List Event) (s : SessionRun) : Event → Prop
  | .createAsyncRotateTask handle transform _ =>
      IsProtected handle.usage → s.session.mRotateFailedCount < 3 →
        ∀ pool ∈ s.session.mBufferPool,
          s.session.AskedSecure s.cache handle (outputGeometry handle transform) pool
  | _ => True

instance (past : List Event) (s : SessionRun) (event : Event) :
    Decidable (FindsSecurePool past s event) :=
  match event with
  | .createAsyncRotateTask .. => inferInstanceAs (Decidable (_ → _ → ∀ pool ∈ _, _))
  | .putRotatedBuffer | .onRotateFailed | .allocate _ | .recache _ => isTrue trivial

/-- The present task has its buffer from the pool of the session, or one of its usage. -/
def FromPool (s : SessionRun) : Prop :=
  s.session.active = true → ∃ pool ∈ s.session.mBufferPool, s.acquiredFrom = some pool.mUsage

theorem secure_createAsyncRotateTask {s : SessionRun} {past : List Event} {handle : RotateHandle}
    {transform : Nat} {steps : List BufferPool.Event} (h : s.FromPool)
    (hok : FindsSecurePool past s (.createAsyncRotateTask handle transform steps)) :
    (s.step (.createAsyncRotateTask handle transform steps)).FromPool ∧
      (s.step (.createAsyncRotateTask handle transform steps)).SecureOutput := by
  by_cases hfailed : s.session.mRotateFailedCount < 3
  · cases hactive : s.session.active with
    | true =>
        simp only [step, hactive, if_true,
          RotateSession.createAsyncRotateTask_active _ _ _ _ _ hfailed hactive]
        refine ⟨h, ?_⟩
        intro _ hcalled hsecure
        cases hcalled
        obtain ⟨pool, hpool, hfrom⟩ := h hactive
        refine ⟨pool.mUsage, hfrom, ?_⟩
        rcases hok hsecure hfailed pool hpool with hpool | ⟨hidle, -⟩
        · exact hpool
        · rw [hactive] at hidle
          cases hidle
    | false =>
        simp only [step, hactive, Bool.false_eq_true, if_false,
          RotateSession.createAsyncRotateTask_fresh _ _ _ _ _ hfailed hactive,
          RotateSession.acquireTask_mBufferPool, Option.map_some]
        constructor
        · intro _
          exact ⟨_, RotateSession.acquireTask_mBufferPool .., rfl⟩
        · intro _ hcalled hsecure
          obtain ⟨rfl, -⟩ := Prod.mk.inj (Option.some.inj hcalled)
          refine ⟨_, rfl, ?_⟩
          rw [BufferPool.step_mUsage, BufferPool.threadRun_mUsage]
          exact RotateSession.isProtected_choosePool hsecure (hok hsecure hfailed)
  · obtain ⟨hsession, -, hcalled, -, hfrom⟩ :=
      step_failed (Nat.le_of_not_lt hfailed) handle transform steps
    constructor
    · intro hactive
      rw [hsession] at hactive ⊢
      rw [hfrom hactive]
      exact h hactive
    · intro _ hzero
      rw [hcalled] at hzero
      cases hzero

theorem secure_step {s : SessionRun} {past : List Event} {event : Event} (h : s.FromPool)
    (hok : FindsSecurePool past s event) :
    (s.step event).FromPool ∧ (s.step event).SecureOutput := by
  cases event with
  | createAsyncRotateTask handle transform steps => exact secure_createAsyncRotateTask h hok
  | putRotatedBuffer =>
      refine ⟨?_, by rintro _ ⟨⟩⟩
      intro hactive
      rw [show (s.step .putRotatedBuffer).session.active = false from
        RotateSession.active_putRotatedBuffer s.session] at hactive
      cases hactive
  | onRotateFailed => exact ⟨h, by rintro _ ⟨⟩⟩
  | allocate steps =>
      refine ⟨?_, by rintro _ ⟨⟩⟩
      intro hactive
      obtain ⟨pool, hpool, hfrom⟩ := h hactive
      refine ⟨RotateSession.threadRun pool steps, Option.mem_map_of_mem _ hpool, ?_⟩
      rw [BufferPool.threadRun_mUsage]
      exact hfrom
  | recache pools => exact ⟨h, by rintro _ ⟨⟩⟩

/-- Secure content is rotated into secure buffers throughout a run in which the calls for it find a
secure pool, none, or one that they replace. -/
theorem secureOutput_of_findsSecurePool (events : List Event)
    (hguarded : Guarded step FindsSecurePool {} events) :
    ∀ past, past <+: events → (past.foldl step {}).SecureOutput := by
  intro past hpast
  have hrun := (hguarded.of_prefix hpast).invariant
    (fun _ s => s.FromPool ∧ s.SecureOutput) ⟨by rintro ⟨⟩, by rintro _ ⟨⟩⟩
    fun _ _ _ hinv hok => secure_step hinv.1 hok
  exact hrun.2

def allocateAll : List BufferPool.Event :=
  [.takeTasks, .beginTask, .newIonBuffer true, .pushSlot, .newIonBuffer true, .pushSlot,
    .newIonBuffer true, .pushSlot, .newIonBuffer true, .pushSlot, .setAllocated]

def frame (usage : Nat) (aw_byte_align : Int32) : RotateHandle :=
  { width := 64, height := 64, format := HAL_PIXEL_FORMAT_YV12, usage, aw_byte_align }

def plainThenSecure : List Event :=
  [.createAsyncRotateTask (frame 0 16) HAL_TRANSFORM_ROT_90 allocateAll, .putRotatedBuffer,
    .createAsyncRotateTask (frame GRALLOC_USAGE_PROTECTED 16) HAL_TRANSFORM_ROT_90 []]

/-- The secure frame is rotated into a buffer of the pool for the other one. -/
theorem plainThenSecure_not_secureOutput :
    (plainThenSecure.foldl step {}).called = some (frame GRALLOC_USAGE_PROTECTED 16, 0) ∧
      ¬ (plainThenSecure.foldl step {}).SecureOutput := by
  have hcalled : (plainThenSecure.foldl step {}).called =
      some (frame GRALLOC_USAGE_PROTECTED 16, 0) := by decide +kernel
  refine ⟨hcalled, ?_⟩
  intro h
  obtain ⟨usage, husage, hsecure⟩ := h _ hcalled (by decide)
  have hplain : (plainThenSecure.foldl step {}).acquiredFrom = some GRALLOC_USAGE_HW_2D := by
    decide +kernel
  cases hplain.symm.trans husage
  exact absurd hsecure (by decide)

def secureVideo : List Event :=
  [.createAsyncRotateTask (frame GRALLOC_USAGE_PROTECTED 16) HAL_TRANSFORM_ROT_90 allocateAll,
    .putRotatedBuffer,
    .recache [.new 4 8192 (GRALLOC_USAGE_HW_2D ||| GRALLOC_USAGE_PROTECTED)],
    .createAsyncRotateTask { frame GRALLOC_USAGE_PROTECTED 16 with width := 80 } 0 allocateAll]

theorem secureVideo_secureOutput :
    ((secureVideo.foldl step {}).called.map Prod.snd = some 0 ∧
      (secureVideo.foldl step {}).acquiredFrom =
        some (GRALLOC_USAGE_HW_2D ||| GRALLOC_USAGE_PROTECTED)) ∧
      ∀ past, past <+: secureVideo → (past.foldl step {}).SecureOutput :=
  ⟨by decide +kernel, secureOutput_of_findsSecurePool secureVideo (by decide +kernel)⟩

/-! ### Large enough output -/

/-- The output buffer that was just acquired has the size for its geometry. -/
def Fits (s : SessionRun) : Prop :=
  ∀ task ∈ s.created,
    (computeBufferSize task.mOutputBuffer.width task.mOutputBuffer.height
      task.mOutputBuffer.align task.mOutputBuffer.format).toNat ≤ task.mOutputBuffer.buffer.size

/-- What was requested of the pool is allocated before a buffer is acquired. -/
def Complete (_ : List Event) (s : SessionRun) : Event → Prop
  | .createAsyncRotateTask handle transform steps =>
      s.session.mRotateFailedCount < 3 → s.session.active = false →
        (RotateSession.threadRun
          (s.session.choosePool s.cache handle (outputGeometry handle transform)).1 steps).owed = 0
  | _ => True

/-- Where the recorded geometry is that of the output, the pool is large enough for the alignment. -/
def AlignFits (_ : List Event) (s : SessionRun) : Event → Prop
  | .createAsyncRotateTask handle transform _ =>
      s.session.mRotateFailedCount < 3 → s.session.active = false →
        ∀ pool ∈ s.session.mBufferPool, s.session.SameGeometry (outputGeometry handle transform) →
          (outputGeometry handle transform).size ≤ pool.bufferSize
  | _ => True

instance (past : List Event) (s : SessionRun) (event : Event) :
    Decidable (Complete past s event) :=
  match event with
  | .createAsyncRotateTask .. => inferInstanceAs (Decidable (_ → _ → _ = _))
  | .putRotatedBuffer | .onRotateFailed | .allocate _ | .recache _ => isTrue trivial

instance (past : List Event) (s : SessionRun) (event : Event) :
    Decidable (AlignFits past s event) :=
  match event with
  | .createAsyncRotateTask .. => inferInstanceAs (Decidable (_ → _ → ∀ pool ∈ _, _ → _))
  | .putRotatedBuffer | .onRotateFailed | .allocate _ | .recache _ => isTrue trivial

/-- The pools that other sessions leave in the cache are built by the code. -/
def Event.CachesBuilt : Event → Prop
  | .recache pools => ∀ pool ∈ pools, pool.Built
  | _ => True

structure Ready (s : SessionRun) : Prop where
  pool : ∀ pool ∈ s.session.mBufferPool, pool.Sound ∧ pool.owed = 0
  cache : ∀ pool ∈ s.cache, pool.Sound

theorem ready_createAsyncRotateTask {s : SessionRun} {past : List Event} {handle : RotateHandle}
    {transform : Nat} {steps : List BufferPool.Event} (h : s.Ready)
    (hcomplete : Complete past s (.createAsyncRotateTask handle transform steps))
    (halign : AlignFits past s (.createAsyncRotateTask handle transform steps)) :
    (s.step (.createAsyncRotateTask handle transform steps)).Ready ∧
      (s.step (.createAsyncRotateTask handle transform steps)).Fits := by
  by_cases hfailed : s.session.mRotateFailedCount < 3
  · cases hactive : s.session.active with
    | true =>
        simp only [step, hactive, if_true,
          RotateSession.createAsyncRotateTask_active _ _ _ _ _ hfailed hactive]
        exact ⟨⟨h.pool, h.cache⟩, by rintro _ ⟨⟩⟩
    | false =>
        simp only [step, hactive, Bool.false_eq_true, if_false,
          RotateSession.createAsyncRotateTask_fresh _ _ _ _ _ hfailed hactive]
        obtain ⟨hholds, hcache⟩ := RotateSession.holds_choosePool h.pool h.cache
          (halign hfailed hactive)
        have hthread := hholds.threadRun steps
        constructor
        · constructor
          · intro pool hpool
            rw [RotateSession.acquireTask_mBufferPool] at hpool
            cases hpool
            have hevent : ∀ size, BufferPool.Event.acquireBuffer ≠ .reallocate size := by simp
            obtain ⟨hsound, -, howed⟩ := hthread.1.step hevent
            have := hcomplete hfailed hactive
            exact ⟨hsound, by omega⟩
          · rw [RotateSession.acquireTask_cache]
            exact hcache
        · intro task htask
          have hnone : s.session.mRotateTask = none := by
            simpa [RotateSession.active] using hactive
          obtain ⟨buffer, hbuffer, rfl⟩ :=
            RotateSession.acquireTask_mRotateTask _ _ _ _ _ _ _ hnone htask
          exact hthread.acquired hbuffer
  · obtain ⟨hsession, hcache, -, hcreated, -⟩ :=
      step_failed (Nat.le_of_not_lt hfailed) handle transform steps
    constructor
    · constructor
      · rw [hsession]
        exact h.pool
      · rw [hcache]
        exact h.cache
    · intro task htask
      rw [hcreated] at htask
      cases htask

theorem sound_putRotatedBuffer {s : RotateSession}
    (h : ∀ pool ∈ s.mBufferPool, pool.Sound ∧ pool.owed = 0) :
    ∀ pool ∈ s.putRotatedBuffer.mBufferPool, pool.Sound ∧ pool.owed = 0 := by
  unfold RotateSession.putRotatedBuffer
  split
  · exact h
  · rename_i task _
    intro pool' hpool'
    obtain ⟨pool, hpool, rfl⟩ := Option.mem_map.mp hpool'
    obtain ⟨hsound, howed⟩ := h pool hpool
    have hevent : ∀ size, BufferPool.Event.releaseBuffer task.mOutputBuffer.buffer.handle ≠
        .reallocate size := by simp
    obtain ⟨hsound', -, howed'⟩ := hsound.step hevent
    exact ⟨hsound', by omega⟩

theorem ready_step {s : SessionRun} {past : List Event} {event : Event} (h : s.Ready)
    (hcomplete : Complete past s event) (halign : AlignFits past s event)
    (hbuilt : event.CachesBuilt) : (s.step event).Ready ∧ (s.step event).Fits := by
  cases event with
  | createAsyncRotateTask handle transform steps =>
      exact ready_createAsyncRotateTask h hcomplete halign
  | putRotatedBuffer => exact ⟨⟨sound_putRotatedBuffer h.pool, h.cache⟩, by rintro _ ⟨⟩⟩
  | onRotateFailed => exact ⟨⟨h.pool, h.cache⟩, by rintro _ ⟨⟩⟩
  | allocate steps =>
      refine ⟨⟨?_, h.cache⟩, by rintro _ ⟨⟩⟩
      intro pool' hpool'
      obtain ⟨pool, hpool, rfl⟩ := Option.mem_map.mp hpool'
      obtain ⟨hsound, howed⟩ := h.pool pool hpool
      obtain ⟨hsound', -, howed'⟩ := hsound.run BufferPool.ne_reallocate_of_mem
      exact ⟨hsound', by unfold RotateSession.threadRun; omega⟩
  | recache pools =>
      exact ⟨⟨h.pool, fun pool hpool => (hbuilt pool hpool).sound⟩, by rintro _ ⟨⟩⟩

/-- When allocations complete before a buffer is acquired, and a session that keeps its geometry is
not asked for a larger alignment than its pool has room for, every output buffer is large enough. -/
theorem fits_of_alignFits (events : List Event) (hbuilt : ∀ event ∈ events, event.CachesBuilt)
    (hcomplete : Guarded step Complete {} events) (halign : Guarded step AlignFits {} events) :
    ∀ past, past <+: events → (past.foldl step {}).Fits := by
  intro past hpast
  have hguarded := (hcomplete.and halign).and (guarded_of_forall_mem hbuilt)
  have hrun := (hguarded.of_prefix hpast).invariant (fun _ s => s.Ready ∧ s.Fits)
    ⟨⟨by rintro _ ⟨⟩, by simp⟩, by rintro _ ⟨⟩⟩
    fun _ _ _ hinv hok => ready_step hinv.1 hok.1.1 hok.1.2 hok.2
  exact hrun.2

def alignGrows : List Event :=
  [.createAsyncRotateTask (frame 0 16) 0 allocateAll, .putRotatedBuffer,
    .createAsyncRotateTask (frame 0 64) 0 []]

/-- The second frame needs 8192 bytes and is given the 6144 of the first. -/
theorem alignGrows_not_fits :
    (∀ event ∈ alignGrows, event.CachesBuilt) ∧ Guarded step Complete {} alignGrows ∧
      ¬ (alignGrows.foldl step {}).Fits := by
  refine ⟨by simp [alignGrows, Event.CachesBuilt], by decide +kernel, ?_⟩
  intro h
  have hcreated : (alignGrows.foldl step {}).created =
      some ⟨1, ⟨⟨1, 6144, GRALLOC_USAGE_HW_2D⟩, 64, 64, 64, HAL_PIXEL_FORMAT_YV12⟩, 0⟩ := by
    decide +kernel
  exact absurd (h _ hcreated) (by decide +kernel)

def frameGrows : List Event :=
  [.createAsyncRotateTask (frame 0 64) 0 allocateAll, .putRotatedBuffer,
    .recache [.new 4 65536 GRALLOC_USAGE_HW_2D],
    .createAsyncRotateTask { frame 0 64 with height := 128 } 0 allocateAll]

theorem frameGrows_fits :
    (frameGrows.foldl step {}).created.map (·.mOutputBuffer.buffer.size) = some 65536 ∧
      ∀ past, past <+: frameGrows → (past.foldl step {}).Fits := by
  refine ⟨by decide +kernel, fits_of_alignFits frameGrows ?_ (by decide +kernel) (by decide +kernel)⟩
  have hbuilt : (BufferPool.new 4 65536 GRALLOC_USAGE_HW_2D).Built :=
    ⟨4, 65536, GRALLOC_USAGE_HW_2D, [], by simp [Guarded], rfl, rfl⟩
  simpa [frameGrows, Event.CachesBuilt] using hbuilt

end SessionRun

end AwHal.Hwc
