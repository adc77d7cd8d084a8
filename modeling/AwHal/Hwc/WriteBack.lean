import Mathlib.Data.List.Sort
import AwHal.Hwc.DeviceFactory

/-!
# Write-back

With write-back the destination display shows what was composed for the source display: its own
validation is bypassed and made up for with the written back buffer when it is presented.
`WriteBackManager` stands between SurfaceFlinger's calls and the displays.  The manager, the displays
and the calls that reach them are one state machine here; fences are left out, and the outcome of the
write-back hardware is part of the call that asks for it.
-/

namespace AwHal.Hwc

variable {F : Type}

/-! ## Displays -/

inductive ValidMode where
  | NORMAL | BYPASS | WRITEBACK
deriving DecidableEq, Repr

inductive CompositionInput (F : Type) where
  | layerStack (layers : List (Layer F))
  | writeBackLyr

/-- The part of `Display` that write-back is about. -/
structure Display (F : Type) where
  mValidMode : ValidMode
  mSkipPresent : Bool := false
  mFenceUseless : Bool := false
  mLayerStack : List (Layer F) := []
  mContext : Option (CompositionInput F) := none
  mFrameNumber : Nat := 0

namespace Display

def createComposition (d : Display F) : CompositionInput F :=
  if d.mValidMode = .WRITEBACK then .writeBackLyr else .layerStack d.mLayerStack

def validateDisplay (d : Display F) : Display F :=
  let d := { d with mFenceUseless := false, mSkipPresent := false }
  -- a bypassed display keeps the composition it has
  if d.mValidMode = .BYPASS then d else { d with mContext := some d.createComposition }

def presentDisplay (d : Display F) : Display F :=
  if d.mSkipPresent then { d with mFenceUseless := true }
  else match d.mContext with
    | none => d
    | some _ => { d with mFrameNumber := d.mFrameNumber + 1 }

def setValidMode (d : Display F) (mode : ValidMode) : Display F :=
  { d with mValidMode := mode }

def skipNextPresent (d : Display F) : Display F :=
  { d with mSkipPresent := true }

def setFenceUseless (d : Display F) : Display F :=
  { d with mFenceUseless := true }

def cpInputInfo (d dpy : Display F) : Display F :=
  { d with mLayerStack := dpy.mLayerStack }

@[simp] theorem validateDisplay_mValidMode (d : Display F) :
    d.validateDisplay.mValidMode = d.mValidMode := by
  unfold validateDisplay
  dsimp only
  split <;> rfl

@[simp] theorem presentDisplay_mValidMode (d : Display F) :
    d.presentDisplay.mValidMode = d.mValidMode := by
  unfold presentDisplay
  split
  · rfl
  · split <;> rfl

end Display

/-! ## `WriteBackManager` -/

inductive WriteBackMode where
  | NO_WB | ON_NEED | ALWAYS | SELF_WB
deriving DecidableEq, Repr

def SRC : Int := 0
def DST : Int := 1

/-- The manager and the displays it knows, by their ids; `getHwIdx` is the answer of `mDevicePool`.
The states are 0 to accept a validation and 1 to accept a presentation. -/
structure WriteBackManager (F : Type) where
  mMode : WriteBackMode
  mSrcState : Nat
  mDstState : Nat
  mSrcBlank : Bool
  mDstBlank : Bool
  mbHotplug : Bool
  mDisplays : List Int
  getHwIdx : Int → Int
  displays : Int → Display F

/-- The displays that take part in write-back. -/
structure Roles where
  srcDpy : Option Int := none
  dstDpy : Option Int := none
  fakeDpy : Option Int := none
deriving DecidableEq, Repr

/-- What the hardware answers while a display is presented: whether `writebackOneFrame` fails, and
whether `acquireLayer` has a buffer. -/
structure Outcome where
  writebackFails : Bool
  acquired : Bool
deriving DecidableEq, Repr

namespace WriteBackManager

def new (mMode : WriteBackMode) (getHwIdx : Int → Int) (displays : Int → Display F) :
    WriteBackManager F where
  mMode := mMode
  mSrcState := 0
  mDstState := 0
  mSrcBlank := true
  mDstBlank := true
  mbHotplug := false
  mDisplays := []
  getHwIdx := getHwIdx
  displays := displays

def modifyDisplay (w : WriteBackManager F) (dpy : Int) (f : Display F → Display F) :
    WriteBackManager F :=
  { w with displays := Function.update w.displays dpy (f (w.displays dpy)) }

def isNeedWb (w : WriteBackManager F) (layer : Layer F) : Bool :=
  match w.mMode with
  | .NO_WB => false
  | .ALWAYS | .SELF_WB => true
  | .ON_NEED =>
      isAfbcBuffer layer.bufferHandle ||
        (decide (3840 ≤ layer.sourceCrop.width) && decide (2048 ≤ layer.sourceCrop.height))

def isWb (w : WriteBackManager F) (dpy : Int) : Bool :=
  (w.displays dpy).mLayerStack.any w.isNeedWb

def validateRole (getHwIdx : Int → Int) (roles : Roles) (logicalId : Int) : Roles :=
  let hwId := getHwIdx logicalId
  let roles :=
    if hwId = SRC ∧ logicalId ≠ WBID then { roles with srcDpy := some logicalId }
    else if hwId = DST then { roles with dstDpy := some logicalId }
    else roles
  if logicalId = WBID ∧ hwId = SRC then { roles with fakeDpy := some logicalId } else roles

def validateRoles (w : WriteBackManager F) : Roles :=
  w.mDisplays.foldl (validateRole w.getHwIdx) {}

/-- The loop of `handlePresent`, which takes the write-back display from any other engine. -/
def presentRole (getHwIdx : Int → Int) (roles : Roles) (logicalId : Int) : Roles :=
  let hwId := getHwIdx logicalId
  if hwId = SRC ∧ logicalId ≠ WBID then { roles with srcDpy := some logicalId }
  else if hwId = DST then { roles with dstDpy := some logicalId }
  else if logicalId = WBID then { roles with fakeDpy := some logicalId }
  else roles

def presentRoles (w : WriteBackManager F) : Roles :=
  w.mDisplays.foldl (presentRole w.getHwIdx) {}

/-- The display that is validated in place of `dpy`. -/
def handleValidate (w : WriteBackManager F) (dpy : Int) : WriteBackManager F × Int :=
  if w.mDstBlank ∨ w.mSrcBlank then (w, dpy)
  -- while displays come or go nothing is written back
  else if w.mbHotplug then (w.modifyDisplay dpy (·.setValidMode .NORMAL), dpy)
  else if !w.isWb dpy then (w, dpy)
  else
    let { srcDpy, dstDpy, fakeDpy } := w.validateRoles
    if dstDpy = none then (w, dpy)
    else if srcDpy = none ∧ some dpy = dstDpy ∧ fakeDpy ≠ none then
      if w.mDstState ≠ 0 then (w, dpy)
      else
        -- no source, so a fake one is validated
        let fake := fakeDpy.getD dpy
        let w := { w with mDstState := 1 }
        let w := w.modifyDisplay fake (·.cpInputInfo (w.displays dpy))
        (w.modifyDisplay dpy (·.setValidMode .BYPASS), fake)
    -- the source is composed as usual
    else if some dpy = srcDpy then
      if w.mSrcState ≠ 0 then (w, dpy) else ({ w with mSrcState := 1 }, dpy)
    else if some dpy = dstDpy then
      if w.mDstState ≠ 0 then (w, dpy)
      else ({ w with mDstState := 1 }.modifyDisplay dpy (·.setValidMode .BYPASS), dpy)
    else (w, dpy)

/-- The display validates and shows the written back buffer. -/
def showWriteBack (d : Display F) : Display F :=
  ((d.setValidMode .WRITEBACK).validateDisplay.setValidMode .NORMAL).setFenceUseless

/-- The display that is presented in place of `dpy`. -/
def handlePresent (w : WriteBackManager F) (dpy : Int) (outcome : Outcome) :
    WriteBackManager F × Int :=
  if w.mDstBlank ∨ w.mSrcBlank then (w, dpy)
  else if w.mbHotplug then (w.modifyDisplay dpy (·.setValidMode .NORMAL), dpy)
  else if !w.isWb dpy ∧ w.mMode = .ON_NEED then (w, dpy)
  else
    let { srcDpy, dstDpy, fakeDpy } := w.presentRoles
    if dstDpy = none then (w, dpy)
    else if srcDpy = none ∧ fakeDpy ≠ none ∧ some dpy = dstDpy then
      if w.mDstState ≠ 1 then (w, dpy)
      else
        let w := { w with mDstState := 0 }
        -- the mode is left as it is
        if outcome.writebackFails then (w, dpy)
        else if outcome.acquired then
          (w.modifyDisplay dpy fun d => (showWriteBack d).presentDisplay, fakeDpy.getD dpy)
        else (w.modifyDisplay dpy fun d => d.skipNextPresent.setValidMode .NORMAL, dpy)
    else if some dpy = srcDpy then
      if w.mSrcState ≠ 1 then (w, dpy) else ({ w with mSrcState := 0 }, dpy)
    else if some dpy = dstDpy then
      if w.mDstState ≠ 1 then (w, dpy)
      else
        let w := { w with mDstState := 0 }
        -- no buffer: unlike above, the mode stays
        if !outcome.acquired then (w.modifyDisplay dpy (·.skipNextPresent), dpy)
        else (w.modifyDisplay dpy showWriteBack, dpy)
    else (w, dpy)

/-! ## Calls -/

inductive Event (F : Type) where
  /-- `DisplayHook` of `validateDisplay`. -/
  | validate (dpy : Int)
  /-- `DisplayHook` of `presentDisplay`. -/
  | present (dpy : Int) (outcome : Outcome)
  /-- SurfaceFlinger changes the layers of a display. -/
  | layers (dpy : Int) (stack : List (Layer F))
  | onPowerModeChanged (id : Int) (isBlank : Bool)
  | setHotplugState (pluging : Bool)
  /-- `onHotplugReceived`; the constructor of a display leaves its mode as it is in memory. -/
  | connect (dpy : Int) (raw : ValidMode)
  | disconnect (dpy : Int)
  /-- The device pool maps the displays to other engines. -/
  | remap (getHwIdx : Int → Int)

def step (w : WriteBackManager F) : Event F → WriteBackManager F
  | .validate dpy =>
      if dpy ∈ w.mDisplays then
        let (w, display) := if w.mMode ≠ .NO_WB then w.handleValidate dpy else (w, dpy)
        w.modifyDisplay display (·.validateDisplay)
      else w
  | .present dpy outcome =>
      if dpy ∈ w.mDisplays then
        let (w, display) := if w.mMode ≠ .NO_WB then w.handlePresent dpy outcome else (w, dpy)
        w.modifyDisplay display (·.presentDisplay)
      else w
  | .layers dpy stack => w.modifyDisplay dpy fun d => { d with mLayerStack := stack }
  | .onPowerModeChanged id isBlank =>
      if id = SRC then { w with mSrcBlank := isBlank }
      else if id = DST then { w with mDstBlank := isBlank }
      else w
  | .setHotplugState pluging => { w with mbHotplug := pluging }
  | .connect dpy raw =>
      if dpy ∈ w.mDisplays then w
      else
        { w with
          mDisplays := w.mDisplays.orderedInsert (· ≤ ·) dpy
          displays := Function.update w.displays dpy { mValidMode := raw }
          mbHotplug := false }
  | .disconnect dpy =>
      if dpy ∈ w.mDisplays then
        { w with mDisplays := w.mDisplays.filter (· ≠ dpy), mbHotplug := false }
      else w
  | .remap getHwIdx => { w with getHwIdx := getHwIdx }

end WriteBackManager

end AwHal.Hwc
