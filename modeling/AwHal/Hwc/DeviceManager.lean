import AwHal.Lib.Handover
import AwHal.Hwc.Strategy

/-!
# `DeviceManager`

Every connected display has a hub that stands between the display and its device.  When the displays
are mapped to other devices, the event thread tells the hubs which device comes next and waits; the
composer thread then populates all hubs, in the order in which `mDeviceHubs` happens to be iterated,
before it validates the primary display.

The manager is described between the events that it processes one at a time.  Logging and the locks
are left out.
-/

namespace AwHal.Hwc

open AwHal.Lib

abbrev DeviceId := Nat

def HWC_DISPLAY_PRIMARY : Int := 0

/-! ## Devices -/

inductive PowerMode where
  | OFF | DOZE | ON | DOZE_SUSPEND
deriving DecidableEq, Repr

/-- The part of a `Disp2Device` that a hub drives.  The listener is the hub of a display. -/
structure DeviceBase where
  mPowerMode : PowerMode
  mVsyncEnabled : Bool
  mDisplayEventListener : Option Int
  skipFrame : Bool
deriving DecidableEq, Repr

namespace DeviceBase

def setVsyncEnabledInternal (device : DeviceBase) (enabled : Bool) : DeviceBase :=
  { device with mVsyncEnabled := enabled }

def setVsyncEnabled (device : DeviceBase) (enabled : Bool) : DeviceBase :=
  -- vsync cannot be enabled while the device is off
  if enabled ∧ device.mPowerMode ≠ .ON then device
  else device.setVsyncEnabledInternal enabled

def setPowerMode (device : DeviceBase) : PowerMode → DeviceBase
  | .OFF => { device.setVsyncEnabledInternal false with mPowerMode := .OFF }
  | .ON => { device with mPowerMode := .ON }
  | .DOZE | .DOZE_SUSPEND => device

def setEventListener (device : DeviceBase) (listener : Option Int) : DeviceBase :=
  { device with mDisplayEventListener := listener }

def skipFrameEnable (device : DeviceBase) (enabled : Bool) : DeviceBase :=
  { device with skipFrame := enabled }

end DeviceBase

/-! ## Hubs -/

/-- A hub always has a device: one that is given a null device dereferences it at once. -/
structure DeviceHub where
  mDisplayId : Int
  mDevice : DeviceId
  mCurrentDevice : Option DeviceId
  mWaitForPopulate : Bool
deriving DecidableEq, Repr

namespace DeviceHub

def new (id : Int) (dev : DeviceId) : DeviceHub where
  mDisplayId := id
  mDevice := dev
  mCurrentDevice := none
  mWaitForPopulate := false

def primaryDisplay (hub : DeviceHub) : Bool :=
  hub.mDisplayId == HWC_DISPLAY_PRIMARY

def detach (device : DeviceBase) : DeviceBase :=
  (device.setVsyncEnabled false).setEventListener none

def attach (hub : DeviceHub) (device : DeviceBase) : DeviceBase :=
  (((device.setPowerMode .ON).setEventListener (some hub.mDisplayId)).setVsyncEnabled
    hub.primaryDisplay).skipFrameEnable (!hub.primaryDisplay)

def populateDevice (devices : DeviceId → DeviceBase) (hub : DeviceHub) :
    Except Fault ((DeviceId → DeviceBase) × DeviceHub) :=
  if hub.mWaitForPopulate = false then .ok (devices, hub)
  else
    -- the old device is given up first, whoever may have taken it in the meantime
    let devices := Function.update devices hub.mDevice (detach (devices hub.mDevice))
    match hub.mCurrentDevice with
    | none => .error .nullPointer
    | some dev =>
        .ok (Function.update devices dev (hub.attach (devices dev)),
          { hub with mDevice := dev, mCurrentDevice := none, mWaitForPopulate := false })

def onDeviceChanged (devices : DeviceId → DeviceBase) (hub : DeviceHub) (dev : Option DeviceId) :
    (DeviceId → DeviceBase) × DeviceHub :=
  (Function.update devices hub.mDevice ((devices hub.mDevice).setPowerMode .OFF),
    { hub with mWaitForPopulate := true, mCurrentDevice := dev })

end DeviceHub

/-! ## The manager -/

structure ConnectedInfo where
  displayId : Int
  connected : Bool
  device : Option DeviceId
  connected_device : connected = true → device.isSome = true

/-- `mDeviceHubs` is listed in the order in which it is iterated. -/
structure DeviceManager where
  mLogicalDisplays : Int → Option DeviceId
  mDeviceHubs : List DeviceHub
  mSwapPendingFlag : Bool
  devices : DeviceId → DeviceBase

namespace DeviceManager

/-- One entry of the mapping in `deviceChangedEventProcess`; the display may have been connected
before the event. -/
def updateLogicalDisplay (connectedDisplays : Int → Bool)
    (state : (Int → Option DeviceId) × List (Int × Bool)) (info : ConnectedInfo) :
    (Int → Option DeviceId) × List (Int × Bool) :=
  -- hotplug events are reported for displays that come or go, not for those that change device
  let (mLogicalDisplays, pendingHotplugs) := state
  if connectedDisplays info.displayId then
    if !info.connected then
      (Function.update mLogicalDisplays info.displayId none,
        pendingHotplugs ++ [(info.displayId, false)])
    else (Function.update mLogicalDisplays info.displayId info.device, pendingHotplugs)
  else if info.connected then
    (Function.update mLogicalDisplays info.displayId info.device,
      pendingHotplugs ++ [(info.displayId, true)])
  else (mLogicalDisplays, pendingHotplugs)

def changeHub (info : ConnectedInfo) (m : DeviceManager) : DeviceManager :=
  match m.mDeviceHubs.find? (·.mDisplayId = info.displayId) with
  | none => m
  | some hub =>
      -- a hub that already has the device is not disturbed
      if some hub.mDevice ≠ info.device then
        let (devices, changed) := hub.onDeviceChanged m.devices info.device
        { m with
          mDeviceHubs := m.mDeviceHubs.map fun h =>
            if h.mDisplayId = info.displayId then changed else h
          mSwapPendingFlag := true
          devices := devices }
      else m

/-- The loop runs from the last entry to the first; then the event thread waits. -/
def populateDeviceHub (m : DeviceManager) (cinfo : List ConnectedInfo) : DeviceManager :=
  cinfo.foldr changeHub m

/-- The state in which the event thread waits, and the hotplug events that it reports afterwards. -/
def deviceChangedEventProcess (m : DeviceManager) (cinfo : List ConnectedInfo) :
    DeviceManager × List (Int × Bool) :=
  let primaryDisplayCount := cinfo.countP (·.displayId = HWC_DISPLAY_PRIMARY)
  -- a mapping without exactly one primary display is dropped
  if primaryDisplayCount ≠ 1 then (m, [])
  else
    let (mLogicalDisplays, pendingHotplugs) := cinfo.foldl
      (updateLogicalDisplay fun id => (m.mLogicalDisplays id).isSome) (m.mLogicalDisplays, [])
    (({ m with mLogicalDisplays := mLogicalDisplays } : DeviceManager).populateDeviceHub cinfo,
      pendingHotplugs)

def populateDevices : (DeviceId → DeviceBase) → List DeviceHub →
    Except Fault ((DeviceId → DeviceBase) × List DeviceHub)
  | devices, [] => .ok (devices, [])
  | devices, hub :: hubs => do
      let (devices, hub) ← hub.populateDevice devices
      let (devices, hubs) ← populateDevices devices hubs
      .ok (devices, hub :: hubs)

def onPerValidateDisplay (m : DeviceManager) (id : Int) : Except Fault DeviceManager :=
  if m.mSwapPendingFlag ∧ id = HWC_DISPLAY_PRIMARY then do
    let (devices, hubs) ← populateDevices m.devices m.mDeviceHubs
    .ok { m with devices := devices, mDeviceHubs := hubs, mSwapPendingFlag := false }
  else .ok m

/-- A new mapping, up to the moment when the primary display is validated next. -/
def swap (m : DeviceManager) (cinfo : List ConnectedInfo) : Except Fault DeviceManager :=
  (m.deviceChangedEventProcess cinfo).1.onPerValidateDisplay HWC_DISPLAY_PRIMARY

/-! ## Wiring -/

/-- Between two events: one hub for a display, which listens to its device, and no swap pending. -/
structure Wired (m : DeviceManager) : Prop where
  ids : (m.mDeviceHubs.map DeviceHub.mDisplayId).Nodup
  listener : ∀ hub ∈ m.mDeviceHubs,
    (m.devices hub.mDevice).mDisplayEventListener = some hub.mDisplayId
  settled : ∀ hub ∈ m.mDeviceHubs, hub.mWaitForPopulate = false
  flag : m.mSwapPendingFlag = false

/-- Every hub has the device that the mapping names, listens to it, and has it running. -/
def Populated (cinfo : List ConnectedInfo) (m : DeviceManager) : Prop :=
  ∀ hub ∈ m.mDeviceHubs,
    (∀ info ∈ cinfo, info.displayId = hub.mDisplayId → info.device = some hub.mDevice) ∧
      (m.devices hub.mDevice).mDisplayEventListener = some hub.mDisplayId ∧
      (m.devices hub.mDevice).mPowerMode = .ON ∧
      (hub.primaryDisplay = true → (m.devices hub.mDevice).mVsyncEnabled = true)

/-- The device that a mapping gives to a hub; a hub that is not mentioned keeps its own. -/
def named (cinfo : List ConnectedInfo) (hub : DeviceHub) : DeviceId :=
  ((cinfo.find? (·.displayId = hub.mDisplayId)).bind ConnectedInfo.device).getD hub.mDevice

/-- When a swap goes well: every hub mentioned is given a device, and one only; no device is given
to two hubs, nor to a hub before another one that still holds it; and a hub that keeps its device has
it running already. -/
structure SwapOk (m : DeviceManager) (cinfo : List ConnectedInfo) : Prop where
  given : ∀ hub ∈ m.mDeviceHubs, ∀ info ∈ cinfo, info.displayId = hub.mDisplayId →
    info.device = some (named cinfo hub)
  apart : m.mDeviceHubs.Pairwise fun a b =>
    named cinfo a ≠ b.mDevice ∧ named cinfo a ≠ named cinfo b
  running : ∀ hub ∈ m.mDeviceHubs, named cinfo hub = hub.mDevice →
    (m.devices hub.mDevice).mPowerMode = .ON ∧
      (hub.primaryDisplay = true → (m.devices hub.mDevice).mVsyncEnabled = true)

end DeviceManager

end AwHal.Hwc
