import AwHal.Lib.GuardedRun
import AwHal.Hwc.Compositor

/-!
# Output settings of `Disp2Device`

The display service sets the resolution, the margins, the dataspace and the 3D mode of a device
through four setters, in any order.  Entering a 3D mode forces the one timing that 3D is supported
with; the settings from before are kept aside in `mBackUpState` and put back as a whole when a mode
without 3D output is set.
-/

namespace AwHal.Hwc

open AwHal.Lib

/-! ## The device -/

def DISPLAY_2D_ORIGINAL : Int := 0
def DISPLAY_3D_LEFT_RIGHT_HDMI : Int := 3
def DISPLAY_3D_TOP_BOTTOM_HDMI : Int := 4
def DISPLAY_3D_DUAL_STREAM : Int := 6

def is3DOutput (mode : Int) : Prop :=
  mode = DISPLAY_3D_LEFT_RIGHT_HDMI ∨ mode = DISPLAY_3D_TOP_BOTTOM_HDMI ∨
    mode = DISPLAY_3D_DUAL_STREAM

instance (mode : Int) : Decidable (is3DOutput mode) :=
  inferInstanceAs (Decidable (_ ∨ _ ∨ _))

structure Timing where
  xres : Int
  yres : Int
  refreshRate : Int
deriving DecidableEq, Repr

/-- `margin[4]`, in percent. -/
structure Margin where
  l : Int
  r : Int
  t : Int
  b : Int
deriving DecidableEq, Repr

structure OutputState where
  timing : Timing
  margin : Margin
  dataspace : Int
  mode3d : Int
deriving DecidableEq, Repr

/-- The constructor leaves the margins as they are in memory. -/
def OutputState.new (raw : Margin) : OutputState where
  timing := { xres := 0, yres := 0, refreshRate := 0 }
  margin := raw
  dataspace := eDataspaceSdr
  mode3d := DISPLAY_2D_ORIGINAL

structure Disp2Device where
  mCurrentState : OutputState
  mBackUpState : OutputState
deriving DecidableEq, Repr

namespace Disp2Device

def new (raw : Margin) : Disp2Device where
  mCurrentState :=
    { OutputState.new raw with
      margin := { l := 100, r := 100, t := 100, b := 100 }
      dataspace := eDataspaceSdr
      mode3d := DISPLAY_2D_ORIGINAL }
  mBackUpState := OutputState.new raw

def setOutput (d : Disp2Device) (xres yres refreshrate : Int) : Disp2Device :=
  -- the whole state is saved, with margins and dataspace as they are
  let state :=
    { d.mCurrentState with
      timing := { xres := xres, yres := yres, refreshRate := refreshrate } }
  { mCurrentState := state, mBackUpState := state }

def setMargin (d : Disp2Device) (l r t b : Int) : Disp2Device :=
  { d with mCurrentState := { d.mCurrentState with margin := { l := l, r := r, t := t, b := b } } }

def setDataSpace (d : Disp2Device) (dataspace : Int) : Disp2Device :=
  { d with mCurrentState := { d.mCurrentState with dataspace := dataspace } }

def set3DMode (d : Disp2Device) (mode : Int) : Disp2Device :=
  if d.mCurrentState.mode3d = mode then d
  else if is3DOutput mode then
    -- 1080p at 24 Hz, frame packing
    { mCurrentState :=
        { d.mCurrentState with
          timing := { xres := 1920, yres := 1080, refreshRate := 24 }
          mode3d := mode }
      mBackUpState := d.mCurrentState }
  else { d with mCurrentState := { d.mBackUpState with mode3d := mode } }

/-! ## Runs -/

inductive Call where
  | setOutput (xres yres refreshrate : Int)
  | setMargin (l r t b : Int)
  | setDataSpace (dataspace : Int)
  | set3DMode (mode : Int)
deriving DecidableEq, Repr

def call (d : Disp2Device) : Call → Disp2Device
  | .setOutput xres yres refreshrate => d.setOutput xres yres refreshrate
  | .setMargin l r t b => d.setMargin l r t b
  | .setDataSpace dataspace => d.setDataSpace dataspace
  | .set3DMode mode => d.set3DMode mode

def Call.timing? : Call → Option Timing
  | .setOutput xres yres refreshrate =>
      some { xres := xres, yres := yres, refreshRate := refreshrate }
  | _ => none

def Call.margin? : Call → Option Margin
  | .setMargin l r t b => some { l := l, r := r, t := t, b := b }
  | _ => none

def Call.dataspace? : Call → Option Int
  | .setDataSpace dataspace => some dataspace
  | _ => none

def Call.mode? : Call → Option Int
  | .set3DMode mode => some mode
  | _ => none

def lastTiming (calls : List Call) : Timing :=
  lastOf Call.timing? { xres := 0, yres := 0, refreshRate := 0 } calls

def lastMargin (calls : List Call) : Margin :=
  lastOf Call.margin? { l := 100, r := 100, t := 100, b := 100 } calls

def lastDataspace (calls : List Call) : Int :=
  lastOf Call.dataspace? eDataspaceSdr calls

def lastMode (calls : List Call) : Int :=
  lastOf Call.mode? DISPLAY_2D_ORIGINAL calls

/-- The settings of a device are those last made. -/
structure Keeps (calls : List Call) (state : OutputState) : Prop where
  margin : state.margin = lastMargin calls
  dataspace : state.dataspace = lastDataspace calls
  mode3d : state.mode3d = lastMode calls
  timing : ¬ is3DOutput state.mode3d → state.timing = lastTiming calls

/-- The condition on a call: a change of the 3D mode finds nothing in the current settings that the
saved ones lack, of what it is about to lose.  Leaving for a mode without 3D output loses the margins
and the dataspace; going from one 3D output to another loses the timing. -/
def SafeCall (_past : List Call) (d : Disp2Device) : Call → Prop
  | .set3DMode mode =>
      d.mCurrentState.mode3d ≠ mode →
        if is3DOutput mode then
          is3DOutput d.mCurrentState.mode3d → d.mCurrentState.timing = d.mBackUpState.timing
        else d.mCurrentState.margin = d.mBackUpState.margin ∧
          d.mCurrentState.dataspace = d.mBackUpState.dataspace
  | _ => True

instance (past : List Call) (d : Disp2Device) : ∀ c, Decidable (SafeCall past d c)
  | .setOutput .. | .setMargin .. | .setDataSpace _ => isTrue trivial
  | .set3DMode _ => inferInstanceAs (Decidable (_ → ite _ _ _))

/-- What a safe run keeps: the timing last set is saved, also while a 3D mode overrides it. -/
structure Inv (calls : List Call) (d : Disp2Device) : Prop where
  keeps : Keeps calls d.mCurrentState
  saved : d.mBackUpState.timing = lastTiming calls

theorem inv_new (raw : Margin) : Inv [] (new raw) where
  keeps := ⟨rfl, rfl, rfl, fun _ => rfl⟩
  saved := rfl

section

variable {past : List Call} {d : Disp2Device}

theorem Inv.concat {c : Call} {d' : Disp2Device}
    (hmargin : d'.mCurrentState.margin = c.margin?.getD (lastMargin past))
    (hdataspace : d'.mCurrentState.dataspace = c.dataspace?.getD (lastDataspace past))
    (hmode : d'.mCurrentState.mode3d = c.mode?.getD (lastMode past))
    (htiming : ¬ is3DOutput d'.mCurrentState.mode3d →
      d'.mCurrentState.timing = c.timing?.getD (lastTiming past))
    (hsaved : d'.mBackUpState.timing = c.timing?.getD (lastTiming past)) :
    Inv (past ++ [c]) d' := by
  refine ⟨⟨?_, ?_, ?_, ?_⟩, ?_⟩
  · rw [lastMargin, lastOf_concat]
    exact hmargin
  · rw [lastDataspace, lastOf_concat]
    exact hdataspace
  · rw [lastMode, lastOf_concat]
    exact hmode
  · rw [lastTiming, lastOf_concat]
    exact htiming
  · rw [lastTiming, lastOf_concat]
    exact hsaved

theorem Inv.setOutput (h : Inv past d) (xres yres refreshrate : Int) :
    Inv (past ++ [.setOutput xres yres refreshrate]) (d.setOutput xres yres refreshrate) :=
  Inv.concat h.keeps.margin h.keeps.dataspace h.keeps.mode3d (fun _ => rfl) rfl

theorem Inv.setMargin (h : Inv past d) (l r t b : Int) :
    Inv (past ++ [.setMargin l r t b]) (d.setMargin l r t b) :=
  Inv.concat rfl h.keeps.dataspace h.keeps.mode3d h.keeps.timing h.saved

theorem Inv.setDataSpace (h : Inv past d) (dataspace : Int) :
    Inv (past ++ [.setDataSpace dataspace]) (d.setDataSpace dataspace) :=
  Inv.concat h.keeps.margin rfl h.keeps.mode3d h.keeps.timing h.saved

theorem Inv.set3DMode (h : Inv past d) {mode : Int} (hsafe : SafeCall past d (.set3DMode mode)) :
    Inv (past ++ [.set3DMode mode]) (d.set3DMode mode) := by
  unfold Disp2Device.set3DMode
  split
  · rename_i hsame
    exact Inv.concat h.keeps.margin h.keeps.dataspace hsame h.keeps.timing h.saved
  · rename_i hchange
    have hsafe := hsafe hchange
    split
    · rename_i h3d
      rw [if_pos h3d] at hsafe
      -- what is saved now is the current timing, which is the one last set
      have hsaved : d.mCurrentState.timing = lastTiming past := by
        by_cases hfrom : is3DOutput d.mCurrentState.mode3d
        · exact (hsafe hfrom).trans h.saved
        · exact h.keeps.timing hfrom
      exact Inv.concat h.keeps.margin h.keeps.dataspace rfl (fun hnot => absurd h3d hnot) hsaved
    · rename_i h2d
      rw [if_neg h2d] at hsafe
      -- the saved state is put back: its timing is the one last set, the rest is as it was
      exact Inv.concat (hsafe.1.symm.trans h.keeps.margin) (hsafe.2.symm.trans h.keeps.dataspace)
        rfl (fun _ => h.saved) h.saved

theorem Inv.call (h : Inv past d) (c : Call)
    (hsafe : SafeCall past d c) : Inv (past ++ [c]) (d.call c) := by
  cases c with
  | setOutput xres yres refreshrate => exact h.setOutput xres yres refreshrate
  | setMargin l r t b => exact h.setMargin l r t b
  | setDataSpace dataspace => exact h.setDataSpace dataspace
  | set3DMode mode => exact h.set3DMode hsafe

/-- The condition asks for no more than it must: a call that is not safe loses a setting, at once or
when 3D is left. -/
theorem safeCall_of_inv {c : Call} (h : Inv past d)
    (h' : Inv (past ++ [c]) (d.call c)) : SafeCall past d c := by
  cases c with
  | setOutput xres yres refreshrate => exact trivial
  | setMargin l r t b => exact trivial
  | setDataSpace dataspace => exact trivial
  | set3DMode mode =>
      intro hchange
      rw [call, Disp2Device.set3DMode, if_neg hchange] at h'
      by_cases h3d : is3DOutput mode
      · rw [if_pos h3d] at h' ⊢
        intro _
        have hsaved := h'.saved
        rw [lastTiming, lastOf_concat] at hsaved
        exact hsaved.trans h.saved.symm
      · rw [if_neg h3d] at h' ⊢
        have hmargin := h'.keeps.margin
        have hdataspace := h'.keeps.dataspace
        rw [lastMargin, lastOf_concat] at hmargin
        rw [lastDataspace, lastOf_concat] at hdataspace
        exact ⟨h.keeps.margin.trans hmargin.symm, h.keeps.dataspace.trans hdataspace.symm⟩

end

theorem guarded_iff_inv (raw : Margin) (calls : List Call) :
    Guarded call SafeCall (new raw) calls ↔
      ∀ past, past <+: calls → Inv past (past.foldl call (new raw)) := by
  constructor
  · intro hsafe past hpast
    exact (hsafe.of_prefix hpast).invariant Inv (inv_new raw) fun _ _ c h hc => h.call c hc
  · rintro hinv past c rest rfl
    have hnext := hinv (past ++ [c]) ⟨rest, by simp⟩
    rw [List.foldl_append] at hnext
    exact safeCall_of_inv (hinv past (List.prefix_append _ _)) hnext

/-- In a run of safe calls the device has the settings last made, after every call. -/
theorem keeps_of_safe (raw : Margin) {calls : List Call}
    (hsafe : Guarded call SafeCall (new raw) calls) {past : List Call} (hpast : past <+: calls) :
    Keeps past (past.foldl call (new raw)).mCurrentState :=
  ((guarded_iff_inv raw calls).mp hsafe past hpast).keeps

def film : List Call :=
  [.setOutput 1280 720 60, .setMargin 90 90 90 90, .set3DMode 3, .set3DMode 0]

theorem keeps_of_safe_film :
    Guarded call SafeCall (new ⟨0, 0, 0, 0⟩) film ∧
      Keeps film (film.foldl call (new ⟨0, 0, 0, 0⟩)).mCurrentState :=
  have hsafe : Guarded call SafeCall (new ⟨0, 0, 0, 0⟩) film := by decide
  ⟨hsafe, keeps_of_safe ⟨0, 0, 0, 0⟩ hsafe (List.prefix_refl _)⟩

def adjustedFilm : List Call :=
  [.setOutput 1280 720 60, .set3DMode 3, .setMargin 90 90 90 90, .set3DMode 0]

/-- At the end of the film these margins are lost. -/
theorem adjustedFilm_loses_margin :
    lastMargin adjustedFilm = ⟨90, 90, 90, 90⟩ ∧
      (adjustedFilm.foldl call (new ⟨0, 0, 0, 0⟩)).mCurrentState.margin = ⟨100, 100, 100, 100⟩ ∧
      ¬ Keeps adjustedFilm (adjustedFilm.foldl call (new ⟨0, 0, 0, 0⟩)).mCurrentState := by
  refine ⟨by decide, by decide, ?_⟩
  intro h
  exact absurd h.margin (by decide)

end Disp2Device

end AwHal.Hwc
