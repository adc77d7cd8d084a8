import AwHal.Hwc.StrategyPass

/-!
# The retry loop of `perform`

A pass is repeated with fewer channels reserved for video, or with the client target reserved in
advance.  What a turn of the loop can do, what holds at every loop head, and why the turns end.
-/

namespace AwHal.Hwc

open AwHal.Lib

set_option linter.unusedSectionVars false

namespace StrategyHardwareFirst

variable {F : Type} [CFloat F] {constraint : PlanConstraint F} {context : CompositionContext F}
  {s s' : StrategyHardwareFirst F} {layer : Layer F}

/-! ## One turn -/

abbrev Ended (constraint : PlanConstraint F) (context : CompositionContext F)
    (s : StrategyHardwareFirst F) (done : List (Layer F)) (s' : StrategyHardwareFirst F) : Prop :=
  PassState (totalCount constraint) s.reservedCount (begun constraint context s)
    context.InputLayers done s'

/-- The head of the turn after one that left video channels unused. -/
def shrunk (s : StrategyHardwareFirst F) : StrategyHardwareFirst F :=
  { s with
    mReservedYUVChannelCnt :=
      if s.mReservedYUVChannelCnt - s.mReservedYUVChannel.length < 0 then 0
      else s.mReservedYUVChannelCnt - s.mReservedYUVChannel.length
    mChannelExhausted := false
    mNeedClientTarget := false }

inductive Turn (constraint : PlanConstraint F) (context : CompositionContext F)
    (s : StrategyHardwareFirst F) :
    Except Fault (Next (StrategyHardwareFirst F) (StrategyHardwareFirst F × Int)) → Prop
  | finished {s' : StrategyHardwareFirst F}
      (hrun : doAssignment constraint context (begun constraint context s) context.InputLayers =
        .ok (s', .ASSIGN_SUCCESS))
      (h : Ended constraint context s context.InputLayers s') :
      Turn constraint context s (.ok (.done (s', 0)))
  | smaller {s' : StrategyHardwareFirst F} (hleft : s'.mReservedYUVChannel ≠ [])
      (h : Ended constraint context s context.InputLayers s') :
      Turn constraint context s (.ok (.again s'.shrunk))
  | retry {done : List (Layer F)} {s' : StrategyHardwareFirst F} {exhausted : Bool}
      (hrun : doAssignment constraint context (begun constraint context s) context.InputLayers =
        .ok ({ s' with mChannelExhausted := exhausted }, .ASSIGN_FAILED_NO_CLIENT_TARGET_CHANNEL))
      (h : Ended constraint context s done s') (hneed : s.mNeedClientTarget = false) :
      Turn constraint context s (.ok (.again
        { s' with mChannelExhausted := exhausted, mNeedClientTarget := true }))
  | stuck (hneed : s.mNeedClientTarget = true) (hfree : freeCount constraint s = 0) :
      Turn constraint context s (.error .assertFailed)

theorem begun_need : (begun constraint context s).mNeedClientTarget = s.mNeedClientTarget := by
  unfold begun
  split <;> rfl

theorem begun_reservedCnt :
    (begun constraint context s).mReservedYUVChannelCnt = s.mReservedYUVChannelCnt := by
  unfold begun
  split <;> rfl

theorem begun_target (hneed : s.mNeedClientTarget = true) (hfree : 0 < freeCount constraint s) :
    (begun constraint context s).mClientTarget ≠ none := by
  rw [begun, if_pos ⟨hneed, hfree⟩]
  exact Option.some_ne_none _

theorem performPass_turn (context : CompositionContext F) (h : ReservationOk constraint s) :
    Turn constraint context s (performPass constraint context s) := by
  obtain ⟨r, hrun, hends⟩ := doAssignment_begun context h
  have hinit : initAssignmentWith computeLayerMemoryFootprint constraint context s = _ :=
    initAssignment_eq h
  have hpass := hrun
  rw [doAssignment] at hpass
  unfold performPass performPassWith
  simp only [hinit, bind, Except.bind, hpass]
  cases hends with
  | @success s' hs =>
      by_cases hagain : (s'.mChannelExhausted && !s'.mReservedYUVChannel.isEmpty) = true
      · simp only [hagain, if_true]
        refine Turn.smaller ?_ hs
        rintro hempty
        simp [hempty] at hagain
      · simp only [hagain]
        exact Turn.finished hrun hs
  | @failed done s' exhausted hs hnone =>
      have hneed : s'.mNeedClientTarget = s.mNeedClientTarget := hs.frame.need.trans begun_need
      by_cases hreserved : s.mNeedClientTarget = true
      · simp only [hneed, hreserved, if_true]
        refine Turn.stuck hreserved ?_
        -- with a free channel the target was there from the start, and no layer takes it away
        by_contra hfree
        exact begun_target hreserved (Nat.pos_of_ne_zero hfree) (hs.frame.target hnone)
      · simp only [hneed, hreserved]
        exact Turn.retry hrun hs (by simpa using hreserved)

/-! ## The loop heads -/

/-- The pass without a client target reserved in advance fails under the reservation of `s`. -/
def FailsUnreserved (constraint : PlanConstraint F) (context : CompositionContext F)
    (s : StrategyHardwareFirst F) : Prop :=
  ∃ s₀ s₁, s₀.mNeedClientTarget = false ∧ s₀.mReservedYUVChannelCnt = s.mReservedYUVChannelCnt ∧
    doAssignment constraint context (begun constraint context s₀) context.InputLayers =
      .ok (s₁, .ASSIGN_FAILED_NO_CLIENT_TARGET_CHANNEL)

structure HeadOk (constraint : PlanConstraint F) (context : CompositionContext F)
    (s : StrategyHardwareFirst F) : Prop where
  reservation : ReservationOk constraint s
  demand : s.mReservedYUVChannelCnt ≤ context.InputLayers.countP needsVideoChannel
  failed : s.mNeedClientTarget = true → FailsUnreserved constraint context s

theorem headOk_startAssign (context : CompositionContext F) (s : StrategyHardwareFirst F)
    (hR : 1 ≤ constraint.MaxRGBChannel) :
    HeadOk constraint context (s.startAssign constraint context) := by
  refine ⟨⟨hR, ?_, ?_⟩, ?_, nofun⟩
  · simp only [startAssign]
    split <;> omega
  · simp only [startAssign]
    split <;> omega
  · simp only [startAssign]
    split <;> omega

theorem Ended.reservedCnt {done : List (Layer F)} (h : Ended constraint context s done s') :
    s'.mReservedYUVChannelCnt = s.mReservedYUVChannelCnt :=
  h.frame.reservedCnt.trans begun_reservedCnt

theorem Ended.left_le {done : List (Layer F)} (h : Ended constraint context s done s') :
    s'.mReservedYUVChannel.length ≤ s.mReservedYUVChannelCnt.toNat := by
  have hvideos := h.inv.videos
  unfold reservedCount at hvideos
  omega

theorem shrunk_reservedCnt {done : List (Layer F)} (h : Ended constraint context s done s')
    (hleft : s'.mReservedYUVChannel ≠ []) :
    0 ≤ s'.shrunk.mReservedYUVChannelCnt ∧
      s'.shrunk.mReservedYUVChannelCnt < s.mReservedYUVChannelCnt := by
  have hle := Ended.left_le h
  have hpos := List.length_pos_of_ne_nil hleft
  have hcnt := Ended.reservedCnt h
  simp only [shrunk, hcnt]
  split <;> omega

theorem HeadOk.again (h : HeadOk constraint context s)
    (hpass : performPass constraint context s = .ok (.again s')) :
    HeadOk constraint context s' := by
  have hturn := performPass_turn context h.reservation
  rw [hpass] at hturn
  have hres := h.reservation
  cases hturn with
  -- the flag is cleared, so nothing is claimed of an earlier failure
  | @smaller s₁ hleft hended =>
      obtain ⟨hnonneg, hlt⟩ := shrunk_reservedCnt hended hleft
      have hle := hres.le
      have hdemand := h.demand
      exact ⟨⟨hres.rgb, by omega, by omega⟩, by omega, nofun⟩
  | @retry done s₁ exhausted hrun hended hneed =>
      have hcnt := Ended.reservedCnt hended
      -- this pass is the failed one that the new head remembers
      refine ⟨⟨hres.rgb, ?_, ?_⟩, ?_, fun _ => ⟨s, _, hneed, ?_, hrun⟩⟩
      · show s₁.mReservedYUVChannelCnt ≤ _
        rw [hcnt]
        exact hres.le
      · show _ ≤ s₁.mReservedYUVChannelCnt
        rw [hcnt]
        exact hres.ge
      · show s₁.mReservedYUVChannelCnt ≤ _
        rw [hcnt]
        exact h.demand
      · exact hcnt.symm

theorem HeadOk.heads (hR : 1 ≤ constraint.MaxRGBChannel)
    (h : Heads (performPass constraint context) (s.startAssign constraint context) s') :
    HeadOk constraint context s' :=
  h.invariant (fun _ _ hs hpass => hs.again hpass) (headOk_startAssign context s hR)

/-! ## The turns end -/

/-- Every further turn reserves fewer video channels, or reserves the client target. -/
def retryMeasure (s : StrategyHardwareFirst F) : Nat :=
  2 * s.mReservedYUVChannelCnt.toNat + if s.mNeedClientTarget then 0 else 1

theorem performPass_progress (hH : 0 ≤ constraint.MaxHybridChannel)
    (h : HeadOk constraint context s) :
    (∃ s', performPass constraint context s = .ok (.done (s', 0))) ∨
      ∃ s', performPass constraint context s = .ok (.again s') ∧ HeadOk constraint context s' ∧
        retryMeasure s' < retryMeasure s := by
  have hturn := performPass_turn context h.reservation
  generalize hpass : performPass constraint context s = answer at hturn
  cases hturn with
  | @finished s' _ _ => exact Or.inl ⟨s', rfl⟩
  | @smaller s' hleft hended =>
      refine Or.inr ⟨_, rfl, h.again hpass, ?_⟩
      obtain ⟨hnonneg, hlt⟩ := shrunk_reservedCnt hended hleft
      have hneed : s'.shrunk.mNeedClientTarget = false := rfl
      -- one channel less outweighs the cleared flag
      unfold retryMeasure
      rw [hneed]
      simp only [Bool.false_eq_true, if_false]
      split <;> omega
  | retry _ hended hneed =>
      refine Or.inr ⟨_, rfl, h.again hpass, ?_⟩
      have hcnt := Ended.reservedCnt hended
      simp only [retryMeasure, hneed, hcnt, if_true]
      simp
  -- at least one RGB channel is never reserved
  | stuck _ hfree =>
      have hpos := h.reservation.free_pos hH
      omega

theorem retryMeasure_startAssign (constraint : PlanConstraint F) (context : CompositionContext F)
    (s : StrategyHardwareFirst F) :
    retryMeasure (s.startAssign constraint context) ≤
      2 * constraint.MaxHybridChannel.toNat + 1 := by
  simp only [retryMeasure, startAssign, Bool.false_eq_true, if_false]
  split <;> omega

theorem finishAssign_ok (constraint : PlanConstraint F)
    (hfb : context.FramebufferTarget = some layer) (s : StrategyHardwareFirst F) (out : PlanningOutput F) :
    ∃ r, s.finishAssign constraint context out = .ok r ∧ r.ret = 0 := by
  unfold finishAssign
  rw [hfb]
  cases s.mClientTarget with
  | none => exact ⟨_, rfl, rfl⟩
  | some target => exact ⟨_, rfl, rfl⟩

theorem perform_returns (constraint : PlanConstraint F) (context : CompositionContext F)
    (s : StrategyHardwareFirst F) (out : PlanningOutput F)
    (hH : 0 ≤ constraint.MaxHybridChannel) (hR : 1 ≤ constraint.MaxRGBChannel)
    (hfb : context.FramebufferTarget.isSome) {fuel : Nat}
    (hfuel : 2 * constraint.MaxHybridChannel.toNat + 2 ≤ fuel) :
    ∃ r, s.perform fuel constraint context out = .ok (some r) ∧ r.ret = 0 := by
  have hstart := headOk_startAssign context s hR
  have hμ := retryMeasure_startAssign constraint context s
  obtain ⟨⟨last, ret⟩, hloop⟩ := loop_terminates retryMeasure
    (fun head hhead => by
      rcases performPass_progress hH hhead with ⟨s', hdone⟩ | ⟨s', hagain⟩
      · exact Or.inl ⟨_, hdone⟩
      · exact Or.inr ⟨s', hagain⟩)
    hstart (by omega : retryMeasure (s.startAssign constraint context) < fuel)
  obtain ⟨head, hheads, hlast⟩ := loop_done hloop
  -- `-1` is returned for `ASSIGN_FAILED_UNKOWN` only, which no pass answers
  have hret : ret = 0 := by
    have hturn := performPass_turn context (HeadOk.heads hR hheads).reservation
    rw [hlast] at hturn
    cases hturn
    rfl
  obtain ⟨layer, hlayer⟩ := Option.isSome_iff_exists.mp hfb
  obtain ⟨r, hr, hr0⟩ := finishAssign_ok constraint hlayer last out
  refine ⟨r, ?_, hr0⟩
  have hlast' : loop (performPassWith computeLayerMemoryFootprint constraint context) fuel
      (s.startAssign constraint context) = .ok (some (last, ret)) := hloop
  unfold perform performWith
  simp only [hlast', hret, hr, bind, Except.bind, if_true]

/-- A finished `perform` is a successful pass from a loop head, accepted. -/
theorem perform_done {fuel : Nat} {out : PlanningOutput F} {r : Performed F}
    (hR : 1 ≤ constraint.MaxRGBChannel)
    (h : s.perform fuel constraint context out = .ok (some r)) :
    ∃ head last, HeadOk constraint context head ∧
      doAssignment constraint context (begun constraint context head) context.InputLayers =
        .ok (last, .ASSIGN_SUCCESS) ∧
      Ended constraint context head context.InputLayers last ∧
      last.finishAssign constraint context out = .ok r := by
  unfold perform performWith at h
  cases hloop : loop (performPassWith computeLayerMemoryFootprint constraint context) fuel
    (s.startAssign constraint context) with
  | error fault => simp [hloop, bind, Except.bind] at h
  | ok answer =>
      cases answer with
      | none => simp [hloop, bind, Except.bind] at h
      | some answer =>
          obtain ⟨head, hheads, hlast⟩ := loop_done hloop
          have hok := HeadOk.heads hR hheads
          have hturn := performPass_turn context hok.reservation
          rw [performPass, hlast] at hturn
          cases hturn with
          | @finished last hrun hended =>
              refine ⟨head, last, hok, hrun, hended, ?_⟩
              cases hfinish : last.finishAssign constraint context out with
              | error fault => simp [hloop, hfinish, bind, Except.bind] at h
              | ok r' =>
                  simp only [hloop, hfinish, bind, Except.bind, if_true, Except.ok.injEq,
                    Option.some.injEq] at h
                  rw [h]

end StrategyHardwareFirst

end AwHal.Hwc
