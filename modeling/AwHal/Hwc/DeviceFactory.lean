import Mathlib.Data.List.Sort
import AwHal.Hwc.DeviceSwap

/-!
# Where mappings come from

The output policy of the display daemon decides which output each display is shown on, and
`HomletDeviceFactory::updateConnectedDevices` turns that into a mapping from displays to devices.
When the primary output is unplugged the policy moves the primary display to the external output, so
that two displays exchange their devices: the case that the hubs cannot take over.
-/

namespace AwHal.Hwc

/-! ## `DefaultOutputPolicy` -/

/-- An entry of the perfect mapping, or of the mapping in force. -/
structure OutputDeviceInfo where
  logicalId : Int
  type : Int
  connected : Bool
deriving DecidableEq, Repr

def ePrimaryDisplayId : Int := 0
def eExternalDisplayId : Int := 1

def generateDeviceInfo (id type : Int) (enable : Bool) : OutputDeviceInfo :=
  { logicalId := id, type := type, connected := enable }

def buildDualOutput (primary external : OutputDeviceInfo) : List OutputDeviceInfo :=
  -- the primary display is always on: on the external output when only that is connected
  if primary.connected then
    [generateDeviceInfo ePrimaryDisplayId primary.type true,
      generateDeviceInfo eExternalDisplayId external.type external.connected]
  else if external.connected then
    [generateDeviceInfo ePrimaryDisplayId external.type true,
      generateDeviceInfo eExternalDisplayId primary.type false]
  else
    [generateDeviceInfo ePrimaryDisplayId primary.type true,
      generateDeviceInfo eExternalDisplayId external.type false]

/-! ## `HomletDeviceFactory` -/

def DISP_OUTPUT_TYPE_TV : Int := 2
def DISP_OUTPUT_TYPE_HDMI : Int := 4

def outputIntfToHardwareId (type : Int) : Int :=
  if type = DISP_OUTPUT_TYPE_HDMI then 0
  else if type = DISP_OUTPUT_TYPE_TV then 1
  else -1

structure DeviceInfo where
  logicalId : Int
  hardwareIndex : Int
  connected : Bool
deriving DecidableEq, Repr

def switchDevice (info : OutputDeviceInfo) : DeviceInfo where
  logicalId := info.logicalId
  hardwareIndex := outputIntfToHardwareId info.type
  connected := info.connected

/-- The logical id of the write-back display, which is also its key in `mHardwareDevices`. -/
def WBID : Int := 0xff

structure HomletDeviceFactory where
  mHardwareDevices : Int → Option DeviceId
  /-- The next device that is created. -/
  nextDevice : DeviceId

namespace HomletDeviceFactory

def findOrCreate (f : HomletDeviceFactory) (hardwareIndex : Int) :
    DeviceId × HomletDeviceFactory :=
  match f.mHardwareDevices hardwareIndex with
  | some device => (device, f)
  | none => (f.nextDevice,
      { mHardwareDevices :=
          Function.update f.mHardwareDevices hardwareIndex (some f.nextDevice)
        nextDevice := f.nextDevice + 1 })

def connectedInfo (f : HomletDeviceFactory) (devinfo : DeviceInfo) :
    ConnectedInfo × HomletDeviceFactory :=
  if devinfo.connected then
    let (device, f) := f.findOrCreate devinfo.hardwareIndex
    (⟨devinfo.logicalId, true, some device, fun _ => rfl⟩, f)
  else
    -- the entry still names the device that is dropped from the pool
    (⟨devinfo.logicalId, false, f.mHardwareDevices devinfo.hardwareIndex, nofun⟩,
      { f with mHardwareDevices := Function.update f.mHardwareDevices devinfo.hardwareIndex none })

/-- The entry of the write-back display, which is there while the port it writes back from is not
in use.  `writeBackId` is that port, where write-back is supported. -/
def writeBackInfo (f : HomletDeviceFactory) (writeBackId : Option Int) (devinfo : DeviceInfo) :
    List ConnectedInfo × HomletDeviceFactory :=
  if writeBackId = some devinfo.hardwareIndex then
    if devinfo.connected then
      match f.mHardwareDevices WBID with
      | some dev => ([⟨WBID, false, some dev, nofun⟩], f)
      | none => ([], f)
    else
      let (dev, f) := f.findOrCreate WBID
      ([⟨WBID, true, some dev, fun _ => rfl⟩], f)
  else ([], f)

def collect (writeBackId : Option Int) : HomletDeviceFactory → List DeviceInfo →
    List ConnectedInfo × HomletDeviceFactory
  | f, [] => ([], f)
  | f, devinfo :: devices =>
      let (c, f) := f.connectedInfo devinfo
      let (ci, f) := f.writeBackInfo writeBackId devinfo
      let (infos, f) := collect writeBackId f devices
      (c :: (ci ++ infos), f)

def updateConnectedDevices (f : HomletDeviceFactory) (writeBackId : Option Int)
    (devices : List DeviceInfo) : List ConnectedInfo × HomletDeviceFactory :=
  collect writeBackId f (devices.insertionSort fun a b => a.logicalId ≤ b.logicalId)

theorem displayId_writeBackInfo {f : HomletDeviceFactory} {writeBackId : Option Int}
    {devinfo : DeviceInfo} {info : ConnectedInfo}
    (h : info ∈ (f.writeBackInfo writeBackId devinfo).1) : info.displayId = WBID := by
  unfold writeBackInfo at h
  split at h
  · split at h
    · split at h
      · rw [List.mem_singleton.mp h]
      · exact absurd h List.not_mem_nil
    · rw [List.mem_singleton.mp h]
  · exact absurd h List.not_mem_nil

theorem find?_writeBackInfo_append (f : HomletDeviceFactory) (writeBackId : Option Int)
    (devinfo : DeviceInfo) {id : Int} (hid : id ≠ WBID) (infos : List ConnectedInfo) :
    ((f.writeBackInfo writeBackId devinfo).1 ++ infos).find? (·.displayId = id) =
      infos.find? (·.displayId = id) := by
  rw [List.find?_append, List.find?_eq_none.mpr, Option.none_or]
  intro info hinfo
  have := displayId_writeBackInfo hinfo
  simp only [decide_eq_true_eq]
  omega

theorem countP_writeBackInfo (f : HomletDeviceFactory) (writeBackId : Option Int)
    (devinfo : DeviceInfo) {id : Int} (hid : id ≠ WBID) :
    (f.writeBackInfo writeBackId devinfo).1.countP (·.displayId = id) = 0 := by
  rw [List.countP_eq_zero]
  intro info hinfo
  have := displayId_writeBackInfo hinfo
  simp only [decide_eq_true_eq]
  omega

end HomletDeviceFactory

/-! ## Unplugging the primary output -/

namespace DeviceManager

/-- No order of the hubs is good for an exchange. -/
theorem not_swapOk_of_exchange {m : DeviceManager} {cinfo : List ConnectedInfo}
    {a b : DeviceHub} (ha : a ∈ m.mDeviceHubs) (hb : b ∈ m.mDeviceHubs) (hne : a ≠ b)
    (hab : named cinfo a = b.mDevice) (hba : named cinfo b = a.mDevice) : ¬ m.SwapOk cinfo := by
  intro hok
  have hapart := List.pairwise_iff_getElem.mp hok.apart
  obtain ⟨i, hi, rfl⟩ := List.mem_iff_getElem.mp ha
  obtain ⟨j, hj, rfl⟩ := List.mem_iff_getElem.mp hb
  -- whichever comes first is given what the other one still holds
  rcases Nat.lt_trichotomy i j with hlt | heq | hgt
  · exact (hapart i j hi hj hlt).1 hab
  · subst heq
    exact hne rfl
  · exact (hapart j i hj hi hgt).1 hba

end DeviceManager

theorem outputIntfToHardwareId_ne_WBID (type : Int) : outputIntfToHardwareId type ≠ WBID := by
  unfold outputIntfToHardwareId
  split
  · decide
  · split <;> decide

theorem HomletDeviceFactory.mHardwareDevices_findOrCreate (f : HomletDeviceFactory)
    {hardwareIndex other : Int} (hne : hardwareIndex ≠ other) :
    (f.findOrCreate other).2.mHardwareDevices hardwareIndex =
      f.mHardwareDevices hardwareIndex := by
  unfold findOrCreate
  split
  · rfl
  · exact Function.update_of_ne hne _ _

theorem HomletDeviceFactory.mHardwareDevices_writeBackInfo (f : HomletDeviceFactory)
    (writeBackId : Option Int) (devinfo : DeviceInfo) {hardwareIndex : Int}
    (hne : hardwareIndex ≠ WBID) :
    (f.writeBackInfo writeBackId devinfo).2.mHardwareDevices hardwareIndex =
      f.mHardwareDevices hardwareIndex := by
  unfold writeBackInfo
  split
  · split
    · split <;> rfl
    · exact f.mHardwareDevices_findOrCreate hne
  · rfl

variable {f : HomletDeviceFactory} {primary external : OutputDeviceInfo} {p e : DeviceId}

/-- The mapping after the primary output is unplugged: the devices are exchanged.  Entries of the
write-back display may stand between the two. -/
theorem primary_unplugged_mapping (writeBackId : Option Int)
    (hprimary : primary.connected = false) (hexternal : external.connected = true)
    (hp : f.mHardwareDevices (outputIntfToHardwareId primary.type) = some p)
    (he : f.mHardwareDevices (outputIntfToHardwareId external.type) = some e) :
    ∃ f₁ f₂ d₁ d₂, (f.updateConnectedDevices writeBackId
        ((buildDualOutput primary external).map switchDevice)).1 =
      ⟨ePrimaryDisplayId, true, some e, fun _ => rfl⟩ ::
        ((HomletDeviceFactory.writeBackInfo f₁ writeBackId d₁).1 ++
          (⟨eExternalDisplayId, false, some p, nofun⟩ ::
            ((HomletDeviceFactory.writeBackInfo f₂ writeBackId d₂).1 ++ []))) := by
  have hsort : ((buildDualOutput primary external).map switchDevice).insertionSort
      (fun a b => a.logicalId ≤ b.logicalId) =
      [⟨ePrimaryDisplayId, outputIntfToHardwareId external.type, true⟩,
        ⟨eExternalDisplayId, outputIntfToHardwareId primary.type, false⟩] := by
    simp only [buildDualOutput, hprimary, hexternal, Bool.false_eq_true, if_false, if_true]
    rfl
  have hkept := HomletDeviceFactory.mHardwareDevices_writeBackInfo f writeBackId
    ⟨ePrimaryDisplayId, outputIntfToHardwareId external.type, true⟩
    (outputIntfToHardwareId_ne_WBID primary.type)
  rw [HomletDeviceFactory.updateConnectedDevices, hsort]
  simp only [HomletDeviceFactory.collect, HomletDeviceFactory.connectedInfo,
    HomletDeviceFactory.findOrCreate, he, hkept, hp, if_true, Bool.false_eq_true, if_false]
  exact ⟨_, _, _, _, rfl⟩

/-- Unplugging the primary output while the external one is in use leaves a display without its
device, whatever the order of the hubs. -/
theorem not_populated_of_primary_unplugged {m : DeviceManager} (hwired : m.Wired)
    (writeBackId : Option Int) (hprimary : primary.connected = false)
    (hexternal : external.connected = true)
    (hp : f.mHardwareDevices (outputIntfToHardwareId primary.type) = some p)
    (he : f.mHardwareDevices (outputIntfToHardwareId external.type) = some e)
    {a b : DeviceHub} (ha : a ∈ m.mDeviceHubs) (haid : a.mDisplayId = ePrimaryDisplayId)
    (hap : a.mDevice = p) (hb : b ∈ m.mDeviceHubs) (hbid : b.mDisplayId = eExternalDisplayId)
    (hbe : b.mDevice = e) {m' : DeviceManager}
    (hswap : m.swap (f.updateConnectedDevices writeBackId
      ((buildDualOutput primary external).map switchDevice)).1 = .ok m') :
    ¬ DeviceManager.Populated (f.updateConnectedDevices writeBackId
      ((buildDualOutput primary external).map switchDevice)).1 m' := by
  intro hpop
  have hids : ePrimaryDisplayId ≠ eExternalDisplayId := by decide
  have hwb : eExternalDisplayId ≠ WBID := by decide
  obtain ⟨f₁, f₂, d₁, d₂, hmapping⟩ :=
    primary_unplugged_mapping writeBackId hprimary hexternal hp he
  rw [hmapping] at hswap hpop
  have hok := DeviceManager.swapOk_of_populated hwired ?_ hswap hpop
  · refine DeviceManager.not_swapOk_of_exchange ha hb ?_ ?_ ?_ hok
    · rintro rfl
      exact hids (haid.symm.trans hbid)
    · rw [DeviceManager.named, haid, hbe]
      rfl
    · rw [DeviceManager.named, hbid, List.find?_cons_of_neg (by simpa only [decide_eq_true_eq]),
        HomletDeviceFactory.find?_writeBackInfo_append _ _ _ hwb, hap]
      rfl
  · rw [List.countP_cons, List.countP_append, List.countP_cons, List.countP_append,
      HomletDeviceFactory.countP_writeBackInfo _ _ _ (by decide),
      HomletDeviceFactory.countP_writeBackInfo _ _ _ (by decide)]
    rfl

end AwHal.Hwc
