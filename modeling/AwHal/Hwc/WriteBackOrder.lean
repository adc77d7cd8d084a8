import AwHal.Hwc.WriteBackPool
import AwHal.Lib.GuardedRun
import AwHal.Lib.Recency

/-!
# The order of the write-back buffers

The tokens are meant to put the buffers in the order in which they were dequeued last.  They grow by one
with every `dequeueBuffer`, and the large ones are reduced before they overflow.
-/

namespace AwHal.Hwc.WriteBackBufferPool

open AwHal.Lib WriteBackBuffer

/-! ## Runs -/

inductive PoolCall where
  | dequeueBuffer
  | queueBuffer (i : Nat) (fence : Int)
  | acquireBuffer (deep : Int)
  | releaseBuffer (i : Nat) (clearFence : Bool)
deriving DecidableEq, Repr

/-- A pool with the buffers that have been dequeued, the latest one in front. -/
structure PoolRun where
  pool : WriteBackBufferPool
  recent : List Nat := []
deriving DecidableEq, Repr

def PoolRun.step (r : PoolRun) : PoolCall → PoolRun
  | .dequeueBuffer =>
      match r.pool.dequeueBuffer with
      | (some i, pool) => { pool, recent := i :: r.recent }
      | (none, pool) => { r with pool }
  | .queueBuffer i fence => { r with pool := r.pool.queueBuffer i fence }
  | .acquireBuffer deep =>
      match r.pool.acquireBuffer deep with
      | .ok (_, pool) => { r with pool }
      | .error _ => r
  | .releaseBuffer i clearFence => { r with pool := r.pool.releaseBuffer i clearFence }

def PoolRun.init (n : Nat) : PoolRun := { pool := ({} : WriteBackBufferPool).allocateBuffer n }

/-- What the tokens are for. -/
structure PoolRun.InOrder (r : PoolRun) : Prop where
  distinct : r.pool.tokens.Nodup
  order : ∀ (i j s t : Nat), r.pool.tokens[i]? = some s → r.pool.tokens[j]? = some t →
    (s < t ↔ UsedBefore r.recent i j)
  dequeued : ∀ i pool, r.pool.dequeueBuffer = (some i, pool) →
    ∃ b, r.pool.mBuffers[i]? = some b ∧ (b.mState = .FREE ∨ b.mState = .QUEUED)
  acquired : ∀ deep i pool, r.pool.acquireBuffer deep = .ok (some i, pool) →
    (∃ b, r.pool.mBuffers[i]? = some b ∧ b.mState = .QUEUED) ∧
      ∀ (j : Nat) c, r.pool.mBuffers[j]? = some c → c.mState = .QUEUED → j ≠ i →
        UsedBefore r.recent i j

/-- With `base` taken off, the tokens from `base` on stay above the smaller ones. -/
def StayAbove (base : Nat) (tokens : List Nat) : Prop :=
  ∀ s ∈ tokens, ∀ t ∈ tokens, s < base → base ≤ t → s < t - base

instance (base : Nat) (tokens : List Nat) : Decidable (StayAbove base tokens) :=
  inferInstanceAs (Decidable (∀ s ∈ tokens, ∀ t ∈ tokens, _))

/-- The next `dequeueBuffer` does not overflow a token, and if it reduces the large tokens, they stay above
the small ones. -/
def KeepsOrder (p : WriteBackBufferPool) : Prop :=
  ∀ i, p.nextBuffer = some i →
    p.firstToken < UINT_MAX ∧
      (Rebases p.tokens.length p.firstToken →
        StayAbove (rebaseAt p.tokens.length) (p.tokens.set i (p.firstToken + 1)))

instance (p : WriteBackBufferPool) : Decidable p.KeepsOrder :=
  match h : p.nextBuffer with
  | none => isTrue fun i hi => by rw [h] at hi; cases hi
  | some i => decidable_of_iff (p.firstToken < UINT_MAX ∧ (Rebases p.tokens.length p.firstToken →
      StayAbove (rebaseAt p.tokens.length) (p.tokens.set i (p.firstToken + 1))))
      ⟨fun hi _ hj => by rw [h] at hj; cases hj; exact hi, fun hkeeps => hkeeps i h⟩

/-- Only `dequeueBuffer` has a condition. -/
def PoolCall.Safe (p : WriteBackBufferPool) (c : PoolCall) : Prop :=
  c = .dequeueBuffer → p.KeepsOrder

instance (p : WriteBackBufferPool) (c : PoolCall) : Decidable (c.Safe p) :=
  inferInstanceAs (Decidable (_ → _))

/-! ## The invariant -/

/-- The tokens are in the order of the last use, and fit `unsigned int`. -/
structure Ranked (r : PoolRun) : Prop where
  allocated : r.pool.mAllocated = true
  two : 2 ≤ r.pool.tokens.length
  bounded : r.pool.firstToken ≤ UINT_MAX
  order : OrderedByUse r.recent r.pool.tokens

variable {r : PoolRun}

theorem Ranked.inOrder (h : Ranked r) : r.InOrder where
  distinct := h.order.nodup
  order _ _ _ _ := h.order.lt_iff
  dequeued i pool hdequeue := by
    rcases dequeueBuffer_cases h.allocated with ⟨-, heq⟩ | ⟨k, p', heq, hspec⟩
    · rw [heq] at hdequeue
      cases hdequeue
    · rw [heq] at hdequeue
      cases hdequeue
      exact nextBuffer_eq_some hspec.next
  acquired deep i pool hacquire := by
    obtain ⟨b, hleast⟩ := findLeast_leastAt (acquireBuffer_some hacquire)
    refine ⟨⟨b, hleast.get, by simpa [isQueued] using hleast.eligible⟩, ?_⟩
    intro j c hc hqueued hne
    have hle := hleast.least j c hc (by simp [isQueued, hqueued])
    rcases usedBefore_or r.recent hne with hji | hij
    · have hlt := h.order j i _ _ (tokens_get hc) (tokens_get hleast.get) hji
      omega
    · exact hij

theorem PoolRun.InOrder.orderedByUse (h : r.InOrder) : OrderedByUse r.recent r.pool.tokens :=
  fun i j s t hi hj => (h.order i j s t hi hj).mpr

theorem ranked_init {n : Nat} (htwo : 2 ≤ n) (hint : n < 2 ^ 31) : Ranked (PoolRun.init n) := by
  have htokens : (PoolRun.init n).pool.tokens = List.range n := by
    show ((List.range n).map _).map mToken = _
    rw [List.map_map]
    exact List.map_id _
  refine ⟨rfl, ?_, ?_, ?_⟩
  · rw [htokens, List.length_range]
    exact htwo
  · rw [firstToken_le_iff, htokens]
    intro t ht
    have hlt := List.mem_range.mp ht
    rw [UINT_MAX]
    omega
  · rw [htokens]
    exact orderedByUse_range n

/-! ## One call -/

theorem Ranked.of_tokens {r' : PoolRun} (h : Ranked r) (hrecent : r'.recent = r.recent)
    (htokens : r'.pool.tokens = r.pool.tokens)
    (halloc : r'.pool.mAllocated = r.pool.mAllocated) : Ranked r' where
  allocated := halloc.trans h.allocated
  two := htokens ▸ h.two
  bounded := by
    rw [firstToken_le_iff, htokens]
    exact firstToken_le_iff.mp h.bounded
  order := by
    rw [hrecent, htokens]
    exact h.order

theorem Ranked.marked (h : Ranked r) (i : Nat) :
    OrderedByUse (i :: r.recent) (r.pool.tokens.set i (r.pool.firstToken + 1)) :=
  h.order.set fun _ ht => Nat.lt_succ_of_le (le_firstToken ht)

theorem protectToken_lt_iff {ts : List Nat} {size firstToken : Nat} :
    (∀ s ∈ ts, ∀ t ∈ ts, s < t →
        protectToken size firstToken s < protectToken size firstToken t) ↔
      (Rebases size firstToken → StayAbove (rebaseAt size) ts) := by
  constructor
  · intro h hrebases s hs t ht hlow hhigh
    have hlt := h s hs t ht (Nat.lt_of_lt_of_le hlow hhigh)
    simpa [protectToken, hrebases, rebaseToken, hlow, Nat.not_lt.mpr hhigh] using hlt
  · intro h s hs t ht hlt
    by_cases hrebases : Rebases size firstToken
    · have hlow := h hrebases s hs t ht
      simp only [protectToken, hrebases, if_true, rebaseToken]
      split <;> split <;> omega
    · simpa [protectToken, hrebases] using hlt

theorem protectToken_le (size firstToken token : Nat) :
    protectToken size firstToken token ≤ token := by
  unfold protectToken rebaseToken
  split
  · split <;> omega
  · exact Nat.le_refl _

theorem Ranked.dequeue (h : Ranked r) {i : Nat} {p' : WriteBackBufferPool}
    (hspec : Dequeued r.pool i p') (hkeeps : r.pool.KeepsOrder) :
    Ranked { pool := p', recent := i :: r.recent } := by
  obtain ⟨hlt, hrebase⟩ := hkeeps i hspec.next
  have htokens := hspec.tokens
  have hmod : (r.pool.firstToken + 1) % 2 ^ 32 = r.pool.firstToken + 1 := by
    rw [UINT_MAX] at hlt
    omega
  rw [hmod] at htokens
  refine ⟨hspec.allocated.trans h.allocated, ?_, ?_, ?_⟩
  · rw [htokens, List.length_map, List.length_set]
    exact h.two
  · rw [firstToken_le_iff, htokens]
    intro t ht
    obtain ⟨s, hs, rfl⟩ := List.mem_map.mp ht
    have hle := protectToken_le r.pool.tokens.length r.pool.firstToken s
    rcases List.mem_or_eq_of_mem_set hs with hmem | heq
    · have := le_firstToken hmem
      omega
    · omega
  · rw [htokens, (h.marked i).map_iff]
    exact protectToken_lt_iff.mpr hrebase

/-- A `dequeueBuffer` after which the tokens are in order has met the condition. -/
theorem Ranked.keepsOrder (h : Ranked r) {i : Nat} {p' : WriteBackBufferPool}
    (hspec : Dequeued r.pool i p') (horder : OrderedByUse (i :: r.recent) p'.tokens) :
    r.pool.KeepsOrder := by
  intro k hnext
  rw [hspec.next] at hnext
  cases hnext
  rw [hspec.tokens] at horder
  have hlt : r.pool.firstToken < UINT_MAX := by
    by_contra hge
    have heq : r.pool.firstToken = UINT_MAX := Nat.le_antisymm h.bounded (Nat.le_of_not_lt hge)
    have hzero : (r.pool.firstToken + 1) % 2 ^ 32 = 0 := by
      rw [heq]
      decide
    rw [hzero] at horder
    -- some other buffer has a token, which the one of the buffer handed out would have to exceed
    obtain ⟨b, hget, -⟩ := nextBuffer_eq_some hspec.next
    have hi : i < r.pool.tokens.length := by
      rw [length_tokens]
      exact (List.getElem?_eq_some_iff.mp hget).1
    obtain ⟨j, hj, hne⟩ : ∃ j, j < r.pool.tokens.length ∧ i ≠ j := by
      have htwo := h.two
      by_cases hi0 : i = 0
      · exact ⟨1, by omega, by omega⟩
      · exact ⟨0, by omega, hi0⟩
    have hself := horder j i
      (protectToken r.pool.tokens.length r.pool.firstToken r.pool.tokens[j])
      (protectToken r.pool.tokens.length r.pool.firstToken 0)
      (by rw [List.getElem?_map, List.getElem?_set_ne hne, List.getElem?_eq_getElem hj]; rfl)
      (by rw [List.getElem?_map, List.getElem?_set_self hi]; rfl)
      (usedBefore_cons_self hne r.recent)
    have hle := protectToken_le r.pool.tokens.length r.pool.firstToken 0
    omega
  have hmod : (r.pool.firstToken + 1) % 2 ^ 32 = r.pool.firstToken + 1 := by
    rw [UINT_MAX] at hlt
    omega
  rw [hmod, (h.marked i).map_iff] at horder
  exact ⟨hlt, protectToken_lt_iff.mp horder⟩

theorem Ranked.step (h : Ranked r) {c : PoolCall} (hsafe : c.Safe r.pool) : Ranked (r.step c) := by
  cases c with
  | dequeueBuffer =>
      rcases dequeueBuffer_cases h.allocated with ⟨-, heq⟩ | ⟨i, p', heq, hspec⟩
      · simp only [PoolRun.step, heq]
        exact h
      · simp only [PoolRun.step, heq]
        exact h.dequeue hspec (hsafe rfl)
  | queueBuffer i fence =>
      exact h.of_tokens rfl (tokens_queueBuffer ..) (mAllocated_queueBuffer ..)
  | acquireBuffer deep =>
      simp only [PoolRun.step]
      split
      · rename_i heq
        exact h.of_tokens rfl (acquireBuffer_keeps heq).1 (acquireBuffer_keeps heq).2
      · exact h
  | releaseBuffer i clearFence =>
      exact h.of_tokens rfl (tokens_releaseBuffer ..) (mAllocated_releaseBuffer ..)

theorem Ranked.safe (h : Ranked r) {c : PoolCall} (hnext : (r.step c).InOrder) :
    c.Safe r.pool := by
  rintro rfl
  rcases dequeueBuffer_cases h.allocated with ⟨hnone, -⟩ | ⟨i, p', heq, hspec⟩
  · intro i hi
    rw [hnone] at hi
    cases hi
  · simp only [PoolRun.step, heq] at hnext
    exact h.keepsOrder hspec hnext.orderedByUse

/-! ## Every run -/

/-- The buffers are consumed in the order of production as long as each `dequeueBuffer` meets its
condition. -/
theorem inOrder_iff {n : Nat} (htwo : 2 ≤ n) (hint : n < 2 ^ 31) (calls : List PoolCall) :
    (∀ past, past <+: calls → (past.foldl PoolRun.step (PoolRun.init n)).InOrder) ↔
      Guarded PoolRun.step (fun _ r c => c.Safe r.pool) (PoolRun.init n) calls :=
  forall_prefix_iff_guarded_of_invariant (fun _ r => Ranked r) (ranked_init htwo hint)
    (fun _ _ h => h.inOrder) (fun _ _ _ h hsafe => h.step hsafe) (fun _ _ _ h => h.safe)

theorem inOrder_two_turns : ([.dequeueBuffer, .queueBuffer 0 7, .dequeueBuffer,
    .queueBuffer 1 8, .acquireBuffer 1, .dequeueBuffer, .releaseBuffer 0 true].foldl PoolRun.step
      (PoolRun.init 2)).InOrder :=
  (inOrder_iff (by decide) (by decide) _).mpr (by decide) _ (List.prefix_refl _)

/-! ## A buffer that is held while the tokens come round -/

def whileHeld (token : Nat) : WriteBackBufferPool where
  mBuffers := [{ mToken := 24, mState := .ACQUIRED }, { mToken := token, mState := .QUEUED }]
  mAllocated := true

theorem rebases_two_iff {token : Nat} : Rebases 2 token ↔ UINT_MAX - 20 < token := by
  have heq : sizeSub UINT_MAX (10 * 2) = UINT_MAX - 20 := by decide
  rw [Rebases, heq]

theorem dequeueBuffer_whileHeld {token : Nat} (hlow : 24 < token) :
    (whileHeld token).dequeueBuffer =
      (some 1, ((whileHeld token).mark 1 (token + 1)).protectTokens token) := by
  have hpick : (whileHeld token).pickBuffer = (some 1, whileHeld token) := by
    simp [pickBuffer, whileHeld, findLeast, leastTurn, isFree, isQueued, tokenAt, isQueuedAfter,
      clearFence]
  have hfirst : (whileHeld token).firstToken = token := by
    simp [firstToken, whileHeld, hlow]
  rw [dequeueBuffer, hpick, hfirst]
  rfl

theorem turn_whileHeld {token : Nat} (hlow : 24 < token) (hhigh : token ≤ UINT_MAX - 20)
    (recent : List Nat) :
    [.dequeueBuffer, .queueBuffer 1 (-1)].foldl PoolRun.step { pool := whileHeld token, recent } =
      { pool := whileHeld (token + 1), recent := 1 :: recent } := by
  have hrebases : ¬ Rebases ((whileHeld token).mark 1 (token + 1)).mBuffers.length token := by
    show ¬ Rebases 2 token
    rw [rebases_two_iff]
    omega
  simp only [List.foldl_cons, List.foldl_nil, PoolRun.step, dequeueBuffer_whileHeld hlow,
    protectTokens, hrebases, if_false]
  simp [queueBuffer, mark, whileHeld]
  rw [UINT_MAX] at hhigh
  omega

theorem turns_whileHeld (k : Nat) {token : Nat} (hlow : 24 < token)
    (hhigh : token + k ≤ UINT_MAX - 19) (recent : List Nat) :
    ∃ recent', (List.replicate k [.dequeueBuffer, .queueBuffer 1 (-1)]).flatten.foldl PoolRun.step
      { pool := whileHeld token, recent } = { pool := whileHeld (token + k), recent := recent' } := by
  induction k generalizing token recent with
  | zero => exact ⟨recent, rfl⟩
  | succ k ih =>
      rw [List.replicate_succ, List.flatten_cons, List.foldl_append,
        turn_whileHeld hlow (by omega)]
      have hnext := ih (show 24 < token + 1 by omega) (by omega) (1 :: recent)
      rw [Nat.add_right_comm, Nat.add_assoc] at hnext
      exact hnext

def firstLap : List PoolCall :=
  (List.range 24).flatMap (fun k => [.dequeueBuffer, .queueBuffer (k % 2) (-1)]) ++
    [.acquireBuffer 0]

theorem firstLap_run : (firstLap.foldl PoolRun.step (PoolRun.init 2)).pool = whileHeld 25 := by
  decide +kernel

/-- The buffer that goes round gets token 22 in the end. -/
theorem not_inOrder_whileHeld : ¬ ∀ past,
    past <+: firstLap ++
      (List.replicate (UINT_MAX - 44) [.dequeueBuffer, .queueBuffer 1 (-1)]).flatten ++
        [.dequeueBuffer] →
      (past.foldl PoolRun.step (PoolRun.init 2)).InOrder := by
  intro h
  have hlast := h _ List.prefix_rfl
  rw [List.foldl_append, List.foldl_append] at hlast
  generalize hrun : firstLap.foldl PoolRun.step (PoolRun.init 2) = r at hlast
  obtain ⟨recent, hturns⟩ := turns_whileHeld (UINT_MAX - 44) (show 24 < 25 by decide)
    (show 25 + (UINT_MAX - 44) ≤ UINT_MAX - 19 by decide) r.recent
  have hr : r = { pool := whileHeld 25, recent := r.recent } := by
    rw [← firstLap_run, hrun]
  rw [hr, hturns] at hlast
  have hstep : PoolRun.step { pool := whileHeld (25 + (UINT_MAX - 44)), recent } .dequeueBuffer =
      { pool := (whileHeld (25 + (UINT_MAX - 44))).dequeueBuffer.2, recent := 1 :: recent } := by
    simp only [PoolRun.step, dequeueBuffer_whileHeld (show 24 < 25 + (UINT_MAX - 44) by decide)]
  have htokens : (whileHeld (25 + (UINT_MAX - 44))).dequeueBuffer.2.tokens = [24, 22] := by
    rw [dequeueBuffer_whileHeld (by decide)]
    decide
  rw [List.foldl_cons, List.foldl_nil, hstep] at hlast
  have hlt := (hlast.order 0 1 24 22 (by rw [htokens]; rfl) (by rw [htokens]; rfl)).mpr
    (usedBefore_cons_self (by decide) recent)
  omega

end AwHal.Hwc.WriteBackBufferPool
