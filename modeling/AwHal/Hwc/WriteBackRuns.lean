import AwHal.Lib.GuardedRun
import AwHal.Hwc.WriteBack
import AwHal.Hwc.StrategyGuarantees

/-!
# Displays left bypassed

A display is bypassed when it is validated for write-back and has to be brought back when it is
presented, which not every way through `handlePresent` does.  As long as each presentation of a
bypassed display takes one that does, a display that needs no write-back is never found bypassed.
-/

namespace AwHal.Hwc

open AwHal.Lib

namespace WriteBackManager

variable {F : Type}

/-! ## The condition on calls -/

/-- Whether a call leaves the display to be presented. -/
def Event.turn (dpy : Int) : Event F → Option Bool
  | .validate d => if d = dpy then some true else none
  | .present d _ | .disconnect d => if d = dpy then some false else none
  | _ => none

def awaiting (past : List (Event F)) (dpy : Int) : Bool :=
  lastOf (Event.turn dpy) false past

/-- `handleValidate` finds that the display needs no write-back, or that there is nowhere to write
back to. -/
def DecidesNoWriteBack (w : WriteBackManager F) (dpy : Int) : Prop :=
  ¬ (w.mDstBlank ∨ w.mSrcBlank) ∧ ¬ w.mbHotplug ∧
    (w.isWb dpy = false ∨ w.validateRoles.dstDpy = none)

instance (w : WriteBackManager F) (dpy : Int) : Decidable (w.DecidesNoWriteBack dpy) :=
  inferInstanceAs (Decidable (_ ∧ _ ∧ _))

/-- When `handlePresent` brings a display back to the normal mode. -/
def Clears (w : WriteBackManager F) (dpy : Int) (outcome : Outcome) : Prop :=
  ¬ (w.mDstBlank ∨ w.mSrcBlank) ∧ (w.mbHotplug ∨
    ¬ (!w.isWb dpy ∧ w.mMode = .ON_NEED) ∧ w.presentRoles.dstDpy = some dpy ∧ w.mDstState = 1 ∧
      if w.presentRoles.srcDpy = none ∧ w.presentRoles.fakeDpy ≠ none then
        outcome.writebackFails = false
      else outcome.acquired = true)

instance (w : WriteBackManager F) (dpy : Int) (outcome : Outcome) :
    Decidable (w.Clears dpy outcome) :=
  inferInstanceAs (Decidable (_ ∧ (_ ∨ _ ∧ _ ∧ _ ∧ ite _ _ _)))

/-- The condition on a call: displays are validated and presented in turn, a bypassed display is
presented with success, and a new one does not start out as bypassed. -/
def SafeEvent (past : List (Event F)) (w : WriteBackManager F) : Event F → Prop
  | .validate dpy => awaiting past dpy = false
  | .present dpy outcome =>
      (w.displays dpy).mValidMode = .BYPASS → w.mMode ≠ .NO_WB ∧ w.Clears dpy outcome
  | .connect _ raw => raw ≠ .BYPASS
  | _ => True

instance (past : List (Event F)) (w : WriteBackManager F) : ∀ e, Decidable (SafeEvent past w e)
  | .validate _ => inferInstanceAs (Decidable (_ = _))
  | .present .. => inferInstanceAs (Decidable (_ → _))
  | .connect .. => inferInstanceAs (Decidable (_ ≠ _))
  | .layers .. | .onPowerModeChanged .. | .setHotplugState _ | .disconnect _ | .remap _ =>
      isTrue trivial

theorem displays_modifyDisplay_self (w : WriteBackManager F) (dpy : Int)
    (f : Display F → Display F) : (w.modifyDisplay dpy f).displays dpy = f (w.displays dpy) :=
  Function.update_self ..

theorem displays_modifyDisplay_of_ne (w : WriteBackManager F) {dpy d : Int}
    (f : Display F → Display F) (hne : d ≠ dpy) :
    (w.modifyDisplay dpy f).displays d = w.displays d :=
  Function.update_of_ne hne _ _

theorem mode_modifyDisplay (w : WriteBackManager F) (dpy d : Int) {f : Display F → Display F}
    (hf : ∀ x, (f x).mValidMode = x.mValidMode) :
    ((w.modifyDisplay dpy f).displays d).mValidMode = (w.displays d).mValidMode := by
  by_cases hne : d = dpy
  · subst hne
    rw [displays_modifyDisplay_self, hf]
  · rw [displays_modifyDisplay_of_ne w f hne]

def OnEngines (getHwIdx : Int → Int) (roles : Roles) : Prop :=
  (∀ d, roles.srcDpy = some d → getHwIdx d = SRC) ∧ ∀ d, roles.dstDpy = some d → getHwIdx d = DST

theorem OnEngines.presentRole {getHwIdx : Int → Int} {roles : Roles}
    (h : OnEngines getHwIdx roles) (logicalId : Int) :
    OnEngines getHwIdx (presentRole getHwIdx roles logicalId) := by
  unfold WriteBackManager.presentRole
  dsimp only
  split
  · rename_i hhw
    exact ⟨fun d hd => Option.some.inj hd ▸ hhw.1, h.2⟩
  · split
    · rename_i hhw
      exact ⟨h.1, fun d hd => Option.some.inj hd ▸ hhw⟩
    · split <;> exact h

theorem onEngines_presentRoles (w : WriteBackManager F) : OnEngines w.getHwIdx w.presentRoles :=
  List.foldlRecOn (motive := OnEngines w.getHwIdx) w.mDisplays _ ⟨nofun, nofun⟩
    fun _ h logicalId _ => h.presentRole logicalId

theorem srcDpy_ne_of_dstDpy {w : WriteBackManager F} {dpy : Int}
    (h : w.presentRoles.dstDpy = some dpy) : some dpy ≠ w.presentRoles.srcDpy := by
  intro hsrc
  have hd := w.onEngines_presentRoles.2 dpy h
  rw [w.onEngines_presentRoles.1 dpy hsrc.symm] at hd
  exact absurd hd (by decide)

/-- From `w` to `w'` no mode has changed but that of the display `dpy`. -/
structure Touches (w : WriteBackManager F) (dpy : Int) (w' : WriteBackManager F) : Prop where
  mDisplays : w'.mDisplays = w.mDisplays
  others : ∀ d, d ≠ dpy → (w'.displays d).mValidMode = (w.displays d).mValidMode

/-- After a presentation the display `dpy` is in the normal mode if it is to be cleared and in its old
mode otherwise. -/
structure Presented (w : WriteBackManager F) (dpy : Int) (clears : Prop)
    (w' : WriteBackManager F) : Prop extends Touches w dpy w' where
  cleared : clears → (w'.displays dpy).mValidMode = .NORMAL
  kept : ¬ clears → (w'.displays dpy).mValidMode = (w.displays dpy).mValidMode

section

variable {w w' : WriteBackManager F} {dpy : Int} {clears : Prop} {f : Display F → Display F}

theorem Touches.keep (hids : w'.mDisplays = w.mDisplays) (hdisplays : w'.displays = w.displays) :
    Touches w dpy w' where
  mDisplays := hids
  others := fun d _ => by rw [hdisplays]

theorem Touches.modify_self (h : Touches w dpy w') : Touches w dpy (w'.modifyDisplay dpy f) where
  mDisplays := h.mDisplays
  others := fun d hd => by rw [displays_modifyDisplay_of_ne _ _ hd, h.others d hd]

theorem Touches.modify (h : Touches w dpy w') (display : Int)
    (hf : ∀ x, (f x).mValidMode = x.mValidMode) :
    Touches w dpy (w'.modifyDisplay display f) where
  mDisplays := h.mDisplays
  others := fun d hd => by rw [mode_modifyDisplay _ _ _ hf, h.others d hd]

theorem Presented.keep (hids : w'.mDisplays = w.mDisplays) (hdisplays : w'.displays = w.displays)
    (hnot : ¬ clears) : Presented w dpy clears w' where
  toTouches := Touches.keep hids hdisplays
  cleared := fun h => absurd h hnot
  kept := fun _ => by rw [hdisplays]

theorem Presented.clear (hids : w'.mDisplays = w.mDisplays) (hdisplays : w'.displays = w.displays)
    (hf : ∀ x, (f x).mValidMode = .NORMAL) (hclears : clears) :
    Presented w dpy clears (w'.modifyDisplay dpy f) where
  toTouches := (Touches.keep hids hdisplays).modify_self
  cleared := fun _ => by rw [displays_modifyDisplay_self, hf]
  kept := fun h => absurd hclears h

theorem Presented.modify (h : Presented w dpy clears w') (display : Int)
    (hf : ∀ x, (f x).mValidMode = x.mValidMode) :
    Presented w dpy clears (w'.modifyDisplay display f) where
  toTouches := h.toTouches.modify display hf
  cleared := fun hc => by rw [mode_modifyDisplay _ _ _ hf, h.cleared hc]
  kept := fun hnot => by rw [mode_modifyDisplay _ _ _ hf, h.kept hnot]

end

theorem handleValidate_touches (w : WriteBackManager F) (dpy : Int) :
    Touches w dpy (w.handleValidate dpy).1 := by
  by_cases hblank : w.mDstBlank ∨ w.mSrcBlank
  · rw [handleValidate, if_pos hblank]
    exact Touches.keep rfl rfl
  by_cases hhotplug : w.mbHotplug
  · rw [handleValidate, if_neg hblank, if_pos hhotplug]
    dsimp only
    exact (Touches.keep rfl rfl).modify_self
  by_cases hneed : !w.isWb dpy
  · rw [handleValidate, if_neg hblank, if_neg hhotplug, if_pos hneed]
    exact Touches.keep rfl rfl
  rw [handleValidate, if_neg hblank, if_neg hhotplug, if_neg hneed]
  dsimp only
  by_cases hnone : w.validateRoles.dstDpy = none
  · rw [if_pos hnone]
    exact Touches.keep rfl rfl
  rw [if_neg hnone]
  by_cases hfake : w.validateRoles.srcDpy = none ∧ some dpy = w.validateRoles.dstDpy ∧
      w.validateRoles.fakeDpy ≠ none
  · rw [if_pos hfake]
    by_cases hstate : w.mDstState ≠ 0
    · rw [if_pos hstate]
      exact Touches.keep rfl rfl
    · rw [if_neg hstate]
      -- the fake display gets the layers, the destination is bypassed
      dsimp only
      refine Touches.modify_self (Touches.modify (Touches.keep ?_ ?_) _ fun x => ?_) <;> rfl
  rw [if_neg hfake]
  by_cases hsrc : some dpy = w.validateRoles.srcDpy
  · rw [if_pos hsrc]
    split <;> exact Touches.keep rfl rfl
  rw [if_neg hsrc]
  by_cases hdst : some dpy = w.validateRoles.dstDpy
  · rw [if_pos hdst]
    by_cases hstate : w.mDstState ≠ 0
    · rw [if_pos hstate]
      exact Touches.keep rfl rfl
    · rw [if_neg hstate]
      dsimp only
      refine Touches.modify_self (Touches.keep ?_ ?_) <;> rfl
  · rw [if_neg hdst]
    exact Touches.keep rfl rfl

theorem presented_dst {w : WriteBackManager F} {dpy : Int} {outcome : Outcome} {clears : Prop}
    (hsrc : some dpy ≠ w.presentRoles.srcDpy)
    (hclears : clears ↔ w.mDstState = 1 ∧
      if w.presentRoles.srcDpy = none ∧ w.presentRoles.fakeDpy ≠ none then
        outcome.writebackFails = false
      else outcome.acquired = true) (hdst : w.presentRoles.dstDpy = some dpy)
    (hblank : ¬ (w.mDstBlank ∨ w.mSrcBlank)) (hhotplug : ¬ w.mbHotplug)
    (hneed : ¬ (!w.isWb dpy ∧ w.mMode = .ON_NEED)) :
    Presented w dpy clears (w.handlePresent dpy outcome).1 := by
  unfold handlePresent
  rw [if_neg hblank, if_neg hhotplug, if_neg hneed]
  dsimp only
  rw [if_neg (by simp [hdst])]
  by_cases hstate : w.mDstState = 1
  · by_cases hfake : w.presentRoles.srcDpy = none ∧ w.presentRoles.fakeDpy ≠ none
    -- a fake source: the mode is restored with a buffer or without, unless the write-back fails
    · rw [if_pos ⟨hfake.1, hfake.2, hdst.symm⟩, if_neg (not_not.mpr hstate)]
      rw [if_pos hfake] at hclears
      cases hfails : outcome.writebackFails with
      | true =>
          rw [if_pos rfl]
          exact Presented.keep rfl rfl fun h => by simp [hclears, hfails] at h
      | false =>
          have hc : clears := hclears.mpr ⟨hstate, hfails⟩
          rw [if_neg (by decide)]
          split
          · dsimp only
            refine Presented.clear ?_ ?_ (fun x => ?_) hc
            · rfl
            · rfl
            · exact Display.presentDisplay_mValidMode (showWriteBack x)
          · dsimp only
            refine Presented.clear ?_ ?_ (fun x => ?_) hc <;> rfl
    -- a real source: the mode is restored with a buffer only
    · rw [if_neg (fun h => hfake ⟨h.1, h.2.1⟩), if_neg hsrc, if_pos hdst.symm,
        if_neg (not_not.mpr hstate)]
      rw [if_neg hfake] at hclears
      cases hacquired : outcome.acquired with
      | true =>
          rw [if_neg (by decide)]
          refine Presented.clear ?_ ?_ (fun x => ?_) (hclears.mpr ⟨hstate, hacquired⟩) <;> rfl
      | false =>
          rw [if_pos (by decide)]
          refine Presented.modify (Presented.keep ?_ ?_ ?_) dpy fun x => ?_
          · rfl
          · rfl
          · exact fun h => by simp [hclears, hacquired] at h
          · rfl
  · have hnot : ¬ clears := fun h => hstate (hclears.mp h).1
    rw [if_pos hstate, if_neg hsrc, if_pos hdst.symm, if_pos hstate, ite_self]
    exact Presented.keep rfl rfl hnot

theorem handlePresent_presented (w : WriteBackManager F) (dpy : Int) (outcome : Outcome) :
    Presented w dpy (w.Clears dpy outcome) (w.handlePresent dpy outcome).1 := by
  by_cases hblank : w.mDstBlank ∨ w.mSrcBlank
  · rw [handlePresent, if_pos hblank]
    exact Presented.keep rfl rfl fun h => h.1 hblank
  by_cases hhotplug : w.mbHotplug
  · rw [handlePresent, if_neg hblank, if_pos hhotplug]
    have hclears : w.Clears dpy outcome := ⟨hblank, Or.inl hhotplug⟩
    dsimp only
    refine Presented.clear ?_ ?_ (fun x => ?_) hclears <;> rfl
  by_cases hneed : !w.isWb dpy ∧ w.mMode = .ON_NEED
  · rw [handlePresent, if_neg hblank, if_neg hhotplug, if_pos hneed]
    exact Presented.keep rfl rfl fun h => h.2.elim hhotplug fun h => h.1 hneed
  by_cases hdst : w.presentRoles.dstDpy = some dpy
  · refine presented_dst (srcDpy_ne_of_dstDpy hdst) ?_ hdst hblank hhotplug hneed
    simp only [Clears, hblank, hhotplug, hneed, hdst, not_false_eq_true, true_and,
      Bool.false_eq_true, false_or]
  -- the source, or a display that takes no part
  have hnot : ¬ w.Clears dpy outcome := fun h => h.2.elim hhotplug fun h => hdst h.2.1
  rw [handlePresent, if_neg hblank, if_neg hhotplug, if_neg hneed]
  dsimp only
  split
  · exact Presented.keep rfl rfl hnot
  rw [if_neg (fun h => hdst h.2.2.symm)]
  split
  · split <;> exact Presented.keep rfl rfl hnot
  rw [if_neg (fun h => hdst h.symm)]
  exact Presented.keep rfl rfl hnot

theorem step_validate (w : WriteBackManager F) (dpy : Int) :
    Touches w dpy (w.step (.validate dpy)) := by
  by_cases hmem : dpy ∈ w.mDisplays
  · simp only [step, if_pos hmem]
    split
    · exact (w.handleValidate_touches dpy).modify _ Display.validateDisplay_mValidMode
    · exact (Touches.keep rfl rfl).modify _ Display.validateDisplay_mValidMode
  · rw [step, if_neg hmem]
    exact Touches.keep rfl rfl

theorem step_present (w : WriteBackManager F) {dpy : Int} (hmem : dpy ∈ w.mDisplays)
    (outcome : Outcome) :
    Presented w dpy (w.mMode ≠ .NO_WB ∧ w.Clears dpy outcome) (w.step (.present dpy outcome)) := by
  simp only [step, if_pos hmem]
  by_cases hmode : w.mMode ≠ .NO_WB
  · rw [if_pos hmode]
    have hiff : w.mMode ≠ .NO_WB ∧ w.Clears dpy outcome ↔ w.Clears dpy outcome :=
      and_iff_right hmode
    rw [hiff]
    exact (w.handlePresent_presented dpy outcome).modify _ Display.presentDisplay_mValidMode
  · rw [if_neg hmode]
    exact (Presented.keep rfl rfl fun h => hmode h.1).modify _ Display.presentDisplay_mValidMode

/-- Only a display that is to be presented is bypassed. -/
def Inv (past : List (Event F)) (w : WriteBackManager F) : Prop :=
  ∀ d ∈ w.mDisplays, (w.displays d).mValidMode = .BYPASS → awaiting past d = true

theorem awaiting_concat (past : List (Event F)) (e : Event F) (dpy : Int) :
    awaiting (past ++ [e]) dpy = (e.turn dpy).getD (awaiting past dpy) :=
  lastOf_concat ..

section

variable {past : List (Event F)} {w : WriteBackManager F}

theorem Inv.other {w' : WriteBackManager F} {e : Event F} (h : Inv past w) {d : Int}
    (hturn : e.turn d = none) (hids : d ∈ w.mDisplays)
    (hmode : (w'.displays d).mValidMode = (w.displays d).mValidMode)
    (hbypass : (w'.displays d).mValidMode = .BYPASS) : awaiting (past ++ [e]) d = true := by
  rw [awaiting_concat, hturn]
  exact h d hids (hmode ▸ hbypass)

theorem Inv.validate (h : Inv past w) (dpy : Int) :
    Inv (past ++ [.validate dpy]) (w.step (.validate dpy)) := by
  intro d hd hbypass
  have htouches := w.step_validate dpy
  by_cases hne : d = dpy
  · simp [awaiting_concat, Event.turn, hne]
  · exact h.other (if_neg fun heq => hne heq.symm) (htouches.mDisplays ▸ hd)
      (htouches.others d hne) hbypass

theorem Inv.present (h : Inv past w) {dpy : Int} {outcome : Outcome}
    (hsafe : SafeEvent past w (.present dpy outcome)) :
    Inv (past ++ [.present dpy outcome]) (w.step (.present dpy outcome)) := by
  intro d hd hbypass
  by_cases hmem : dpy ∈ w.mDisplays
  · have hpresented := w.step_present hmem outcome
    by_cases hne : d = dpy
    · subst hne
      -- a presentation ends the wait, so the display must have left the bypass mode
      by_cases hclears : w.mMode ≠ .NO_WB ∧ w.Clears d outcome
      · rw [hpresented.cleared hclears] at hbypass
        cases hbypass
      · rw [hpresented.kept hclears] at hbypass
        exact absurd (hsafe hbypass) hclears
    · exact h.other (if_neg fun heq => hne heq.symm) (hpresented.mDisplays ▸ hd)
        (hpresented.others d hne) hbypass
  · rw [step, if_neg hmem] at hd hbypass
    have hne : dpy ≠ d := fun heq => hmem (heq ▸ hd)
    exact h.other (if_neg hne) hd rfl hbypass

theorem Inv.connect (h : Inv past w) (dpy : Int) {raw : ValidMode} (hraw : raw ≠ .BYPASS) :
    Inv (past ++ [.connect dpy raw]) (w.step (.connect dpy raw)) := by
  intro d hd hbypass
  by_cases hmem : dpy ∈ w.mDisplays
  · rw [step, if_pos hmem] at hd hbypass
    exact h.other rfl hd rfl hbypass
  · simp only [step, if_neg hmem] at hd hbypass
    by_cases hne : d = dpy
    · rw [hne, Function.update_self] at hbypass
      exact absurd hbypass hraw
    · rw [List.mem_orderedInsert] at hd
      rw [Function.update_of_ne hne] at hbypass
      exact h.other rfl (hd.resolve_left hne) rfl hbypass

theorem Inv.disconnect (h : Inv past w) (dpy : Int) :
    Inv (past ++ [.disconnect dpy]) (w.step (.disconnect dpy)) := by
  intro d hd hbypass
  by_cases hmem : dpy ∈ w.mDisplays
  · simp only [step, if_pos hmem, List.mem_filter, decide_eq_true_eq] at hd hbypass
    exact h.other (if_neg fun heq => hd.2 heq.symm) hd.1 rfl hbypass
  · rw [step, if_neg hmem] at hd hbypass
    have hne : dpy ≠ d := fun heq => hmem (heq ▸ hd)
    exact h.other (if_neg hne) hd rfl hbypass

theorem Inv.step (h : Inv past w) (e : Event F) (hsafe : SafeEvent past w e) :
    Inv (past ++ [e]) (w.step e) := by
  cases e with
  | validate dpy => exact h.validate dpy
  | present dpy outcome => exact h.present hsafe
  | connect dpy raw => exact h.connect dpy hsafe
  | disconnect dpy => exact h.disconnect dpy
  | layers dpy stack =>
      intro d hd hbypass
      refine h.other rfl hd ?_ hbypass
      rw [WriteBackManager.step, mode_modifyDisplay]
      exact fun _ => rfl
  | onPowerModeChanged id isBlank =>
      simp only [WriteBackManager.step]
      split
      · exact fun d hd hbypass => h.other rfl hd rfl hbypass
      · split <;> exact fun d hd hbypass => h.other rfl hd rfl hbypass
  | setHotplugState pluging => exact fun d hd hbypass => h.other rfl hd rfl hbypass
  | remap getHwIdx => exact fun d hd hbypass => h.other rfl hd rfl hbypass

end

theorem handleValidate_of_noWriteBack {w : WriteBackManager F} {dpy : Int}
    (h : w.DecidesNoWriteBack dpy) : w.handleValidate dpy = (w, dpy) := by
  obtain ⟨hblank, hhotplug, hno⟩ := h
  rw [handleValidate, if_neg hblank, if_neg hhotplug]
  rcases hno with hno | hno
  · rw [if_pos (by simp [hno])]
  · dsimp only
    rw [if_pos hno, ite_self]

theorem validate_builds {w : WriteBackManager F} {dpy : Int} (hmem : dpy ∈ w.mDisplays)
    (hno : w.DecidesNoWriteBack dpy) (hmode : (w.displays dpy).mValidMode ≠ .BYPASS) :
    ((w.step (.validate dpy)).displays dpy).mContext =
      some (w.displays dpy).createComposition := by
  have hstep : w.step (.validate dpy) = w.modifyDisplay dpy (·.validateDisplay) := by
    simp only [step, if_pos hmem, handleValidate_of_noWriteBack hno, ite_self]
  rw [hstep, displays_modifyDisplay_self, Display.validateDisplay]
  simp only [if_neg hmode]
  rfl

/-- In a run of safe calls a display for which `handleValidate` decides against write-back is not
bypassed, so that it gets a new composition. -/
theorem validate_not_bypassed (mMode : WriteBackMode) (getHwIdx : Int → Int)
    (displays : Int → Display F) {events past rest : List (Event F)} {dpy : Int}
    {w : WriteBackManager F}
    (hsafe : Guarded step SafeEvent (new mMode getHwIdx displays) events)
    (hevents : events = past ++ .validate dpy :: rest)
    (hw : w = past.foldl step (new mMode getHwIdx displays)) (hmem : dpy ∈ w.mDisplays)
    (hno : w.DecidesNoWriteBack dpy) :
    w.handleValidate dpy = (w, dpy) ∧ (w.displays dpy).mValidMode ≠ .BYPASS ∧
      ((w.step (.validate dpy)).displays dpy).mContext =
        some (w.displays dpy).createComposition := by
  -- the condition was met up to here, and this call finds no presentation outstanding
  have hinv : Inv past w := by
    rw [hw]
    refine (hsafe.of_prefix ⟨_, hevents.symm⟩).invariant Inv ?_ fun _ _ e h he => h.step e he
    exact fun d hd => absurd hd List.not_mem_nil
  have hturn : awaiting past dpy = false := hsafe past _ rest hevents
  have hmode : (w.displays dpy).mValidMode ≠ .BYPASS := by
    intro hbypass
    rw [hinv dpy hmem hbypass] at hturn
    cases hturn
  exact ⟨handleValidate_of_noWriteBack hno, hmode, validate_builds hmem hno hmode⟩

/-! ### Two frames on the destination

The first one shows a film in 4K, which is written back; the second one a menu, which is not. -/

def film4K : Layer Rat :=
  { StrategyHardwareFirst.wallpaper with
    sourceCrop := { left := 0, top := 0, right := 3840, bottom := 2160 } }

def twoFrames (outcome : Outcome) : List (Event Rat) :=
  [.connect 0 .NORMAL, .connect 1 .NORMAL, .onPowerModeChanged SRC false,
    .onPowerModeChanged DST false, .layers 1 [film4K], .validate 1, .present 1 outcome,
    .layers 1 [StrategyHardwareFirst.wallpaper], .validate 1]

def beforeMenu (outcome : Outcome) : WriteBackManager Rat :=
  (twoFrames outcome).dropLast.foldl step (new .ON_NEED id fun _ => { mValidMode := .NORMAL })

theorem validate_not_bypassed_menu :
    ((beforeMenu ⟨false, true⟩).displays 1).mValidMode ≠ .BYPASS := by
  have hsafe : Guarded step SafeEvent (new .ON_NEED id fun _ => { mValidMode := .NORMAL })
      (twoFrames ⟨false, true⟩) := by decide +kernel
  exact (validate_not_bypassed .ON_NEED id (fun _ => { mValidMode := .NORMAL }) hsafe
    (by rfl : _ = (twoFrames ⟨false, true⟩).dropLast ++ .validate 1 :: []) rfl (by decide +kernel)
    (by decide +kernel)).2.1

/-- No buffer can be acquired for the first frame.  The second one finds the display bypassed: it
keeps the composition of the first. -/
theorem menu_bypassed_without_buffer :
    1 ∈ (beforeMenu ⟨false, false⟩).mDisplays ∧ (beforeMenu ⟨false, false⟩).DecidesNoWriteBack 1 ∧
      ((beforeMenu ⟨false, false⟩).handleValidate 1).2 = 1 ∧
      (((beforeMenu ⟨false, false⟩).handleValidate 1).1.displays 1).mValidMode = .BYPASS := by
  decide +kernel

end WriteBackManager

end AwHal.Hwc
