import Mathlib.Data.List.Induction
import AwHal.Lib.Watcher
import AwHal.Hwc.DeviceFactory

/-!
# Hotplug

The display daemon reads which outputs have something plugged in, decides which display goes to which
output, configures the outputs and tells the hardware composer (`device_manager.cpp`,
`output_policy.cpp`).  A uevent of any output makes it do all of this again, so it is a watcher of the
plugs.  The socket of the uevents is opened after the default output is set up.

The displays are numbered from 0 on without a gap.  The maps of the source have no order; here they are
gone through in the order of the displays.  `onDeviceReconnected` and `set3DLayerMode`, which are called
once the displays are turned on, change nothing of this and are left out.
-/

namespace AwHal.Displayd.Hotplug

open AwHal.Lib

open AwHal.Hwc (OutputDeviceInfo generateDeviceInfo buildDualOutput ePrimaryDisplayId
  eExternalDisplayId)

def DISP_OUTPUT_TYPE_LCD : Int := 1

/-- For each type of output, whether its state file has a `1`. -/
abbrev Plugs : Type := Int → Bool

/-- `platformGetDeviceConnectState` does the same. -/
def getConnectState (plugs : Plugs) (type : Int) : Bool :=
  if type = Hwc.DISP_OUTPUT_TYPE_HDMI ∨ type = Hwc.DISP_OUTPUT_TYPE_TV then plugs type
  else decide (type = DISP_OUTPUT_TYPE_LCD)

/-! ## `DefaultOutputPolicy` -/

def refresh (plugs : Plugs) (info : OutputDeviceInfo) : OutputDeviceInfo :=
  { info with connected := getConnectState plugs info.type }

inductive OutputPolicy where
  | eSingleOutput
  | eDualOutput
deriving DecidableEq, Repr

def buildSingleOutput (primary external : OutputDeviceInfo) : List OutputDeviceInfo :=
  if primary.connected then
    [generateDeviceInfo ePrimaryDisplayId primary.type true,
      generateDeviceInfo eExternalDisplayId external.type false]
  else if external.connected then
    [generateDeviceInfo ePrimaryDisplayId external.type true,
      generateDeviceInfo eExternalDisplayId primary.type false]
  else
    [generateDeviceInfo ePrimaryDisplayId primary.type true,
      generateDeviceInfo eExternalDisplayId external.type false]

def OutputPolicy.build (mPolicy : OutputPolicy) (primary external : OutputDeviceInfo) :
    List OutputDeviceInfo :=
  match mPolicy with
  | .eDualOutput => buildDualOutput primary external
  | .eSingleOutput => buildSingleOutput primary external

/-- `rebuildDisplayMappingLocked`.  The `connected` of an entry that is made here is the `enabled` of the
source: the display is on.  In an empty map `operator[]` makes an entry of type 0. -/
def rebuildDisplayMapping (mPolicy : OutputPolicy) : List OutputDeviceInfo → List OutputDeviceInfo
  | [] => [generateDeviceInfo ePrimaryDisplayId 0 true]
  | [primary] => [generateDeviceInfo ePrimaryDisplayId primary.type true]
  | primary :: external :: _ => mPolicy.build primary external

/-! ## `DeviceManager` -/

/-- The types of the outputs, that of `Display0` first. -/
structure Config where
  devices : List Int
  mPolicy : OutputPolicy

namespace Config

variable (config : Config)

def Known (type : Int) : Prop :=
  type = Hwc.DISP_OUTPUT_TYPE_HDMI ∨ type = Hwc.DISP_OUTPUT_TYPE_TV ∨ type = DISP_OUTPUT_TYPE_LCD

instance (type : Int) : Decidable (Known type) := inferInstanceAs (Decidable (_ ∨ _))

def mDevices : List Int := config.devices.filter fun type => decide (Known type)

def getControler (type : Int) : Option Int := config.mDevices.find? fun t => decide (t = type)

def initPerfectMapping : List OutputDeviceInfo :=
  config.devices.mapIdx fun i type => ⟨i, type, false⟩

end Config

structure DeviceControler where
  mLogicalId : Int := -1
  /-- Each call of `setPending` is followed by `latch`. -/
  mConnectState : Bool := false
deriving DecidableEq, Repr

namespace DeviceControler

variable (c : DeviceControler) (plugs : Plugs) (type : Int) (enable : Bool)

def performDefaultConfig : DeviceControler :=
  if !enable then { c with mConnectState := false }
  else if !getConnectState plugs type then c
  else { c with mConnectState := true }

/-- Unlike the others, `HdmiDevice` takes over the state that it reads. -/
def performOptimalConfig : DeviceControler :=
  if type = Hwc.DISP_OUTPUT_TYPE_HDMI then
    if !enable then { c with mConnectState := false }
    else { c with mConnectState := getConnectState plugs type }
  else c.performDefaultConfig plugs type enable

def perform (default : Bool) : DeviceControler :=
  if default then c.performDefaultConfig plugs type enable
  else c.performOptimalConfig plugs type enable

end DeviceControler

structure Daemon where
  mPerfectMapping : List OutputDeviceInfo
  mCurrentMapping : List OutputDeviceInfo := []
  controlers : Int → DeviceControler := fun _ => {}
  /-- The displays, and the types of their controlers. -/
  mDisplayDevices : List (Int × Int) := []
  routing : List OutputDeviceInfo := []
  /-- What `switchDevice` was called with last. -/
  switched : List OutputDeviceInfo := []
  /-- The displays that were turned on after that. -/
  presented : List Int := []

namespace Daemon

def readState (i : Nat) (plugs : Plugs) (d : Daemon) : Daemon :=
  { d with mPerfectMapping := d.mPerfectMapping.modify i (refresh plugs) }

/-- On the first trigger, some time later. -/
def recheckPrimary (plugs : Plugs) (d : Daemon) : Daemon :=
  if d.mPerfectMapping.head?.any (·.connected) then d else d.readState 0 plugs

def rebuild (config : Config) (_ : Plugs) (d : Daemon) : Daemon :=
  { d with
    mCurrentMapping := rebuildDisplayMapping config.mPolicy d.mPerfectMapping
    mDisplayDevices := []
    routing := [] }

def configureDisplay (config : Config) (default : Bool) (plugs : Plugs) (d : Daemon)
    (info : OutputDeviceInfo) : Daemon :=
  match config.getControler info.type with
  | none => d
  | some type =>
      let controler := { d.controlers type with mLogicalId := info.logicalId }
      { d with
        controlers := Function.update d.controlers type
          (controler.perform plugs type info.connected default)
        mDisplayDevices := d.mDisplayDevices ++ [(info.logicalId, type)]
        routing := d.routing ++ [info] }

/-- A pass of the loop over the mapping.  An output whose type has no controler is skipped, and the
composer is not told of it. -/
def configure (config : Config) (default : Bool) (i : Nat) (plugs : Plugs) (d : Daemon) : Daemon :=
  match d.mCurrentMapping.drop i with
  | [] => d
  | info :: _ => d.configureDisplay config default plugs info

def switchDevice (_ : Plugs) (d : Daemon) : Daemon :=
  { d with
    switched := d.routing
    presented := (d.mDisplayDevices.filter fun x => (d.controlers x.2).mConnectState).map
      fun x => (d.controlers x.2).mLogicalId }

end Daemon

def Config.displays (config : Config) : Nat := if config.devices.length ≤ 1 then 1 else 2

open Daemon in
def hotplug (config : Config) : List (Plugs → Daemon → Daemon) :=
  (List.range config.devices.length).map readState ++ [rebuild config] ++
    (List.range config.displays).map (configure config false) ++ [switchDevice]

open Daemon in
def setupDefaultOutput (config : Config) : List (Plugs → Daemon → Daemon) :=
  (List.range config.devices.length).map readState ++ [recheckPrimary, rebuild config] ++
    (List.range config.displays).map (configure config true) ++ [switchDevice]

def watcher (config : Config) : Watcher Plugs Daemon where
  first := setupDefaultOutput config
  round := hotplug config

def start (config : Config) : Daemon where
  mPerfectMapping := config.initPerfectMapping

def run (config : Config) (plugs : Plugs) (events : List (Watcher.Event Plugs)) :
    Watcher.State Plugs Daemon :=
  (watcher config).run plugs (start config) events

/-! ## The mapping for some plugs -/

def Config.mapping (config : Config) (plugs : Plugs) : List OutputDeviceInfo :=
  rebuildDisplayMapping config.mPolicy (config.initPerfectMapping.map (refresh plugs))

variable {config : Config} {plugs : Plugs}

theorem getControler_eq_some {type t : Int} :
    config.getControler type = some t ↔ t = type ∧ type ∈ config.mDevices := by
  unfold Config.getControler
  constructor
  · intro h
    have heq : t = type := by simpa using List.find?_some h
    exact ⟨heq, heq ▸ List.mem_of_find?_eq_some h⟩
  · rintro ⟨rfl, hmem⟩
    obtain ⟨u, hu⟩ : ∃ u, config.mDevices.find? (fun u => decide (u = t)) = some u := by
      rw [← Option.isSome_iff_exists, List.find?_isSome]
      exact ⟨t, hmem, decide_eq_true rfl⟩
    have heq : u = t := by simpa using List.find?_some hu
    rw [hu, heq]

/-- The displays of the mapping: at most two, the first one on. -/
theorem mapping_two (plugs : Plugs) {a b : Int} {rest : List Int} (h : config.devices = a :: b :: rest) :
    ∃ x y, config.mapping plugs = [x, y] ∧ x.logicalId = 0 ∧ y.logicalId = 1 ∧
      (x.type = a ∧ y.type = b ∨ x.type = b ∧ y.type = a) ∧ x.connected = true ∧
      (getConnectState plugs a = true ∨ getConnectState plugs b = true →
        getConnectState plugs x.type = true) ∧
      (y.connected = true ↔ config.mPolicy = .eDualOutput ∧ getConnectState plugs a = true ∧
        getConnectState plugs b = true) := by
  have hmapping : config.mapping plugs = config.mPolicy.build (refresh plugs ⟨0, a, false⟩)
      (refresh plugs ⟨1, b, false⟩) := by
    simp [Config.mapping, Config.initPerfectMapping, h, List.mapIdx_cons, rebuildDisplayMapping]
  rw [hmapping]
  cases ha : getConnectState plugs a <;> cases hb : getConnectState plugs b <;>
    cases config.mPolicy <;>
    simp [OutputPolicy.build, buildDualOutput, buildSingleOutput, refresh, ha, hb,
      generateDeviceInfo, ePrimaryDisplayId, eExternalDisplayId]

theorem mapping_nil (plugs : Plugs) (h : config.devices = []) :
    config.mapping plugs = [⟨ePrimaryDisplayId, 0, true⟩] := by
  simp [Config.mapping, Config.initPerfectMapping, h, rebuildDisplayMapping, generateDeviceInfo]

theorem mapping_one (plugs : Plugs) {a : Int} (h : config.devices = [a]) :
    config.mapping plugs = [⟨ePrimaryDisplayId, a, true⟩] := by
  simp [Config.mapping, Config.initPerfectMapping, h, rebuildDisplayMapping, generateDeviceInfo,
    refresh]

theorem length_mapping (plugs : Plugs) : (config.mapping plugs).length = config.displays := by
  unfold Config.displays
  rcases h : config.devices with - | ⟨a, - | ⟨b, rest⟩⟩
  · rw [mapping_nil plugs h]
    rfl
  · rw [mapping_one plugs h]
    rfl
  · obtain ⟨x, y, hxy, -⟩ := mapping_two plugs h
    rw [hxy]
    simp

theorem nodup_mapping (config : Config) (plugs : Plugs) :
    ((config.mapping plugs).map (·.logicalId)).Nodup ∧
      (config.devices.Nodup → ((config.mapping plugs).map (·.type)).Nodup) := by
  rcases h : config.devices with - | ⟨a, - | ⟨b, rest⟩⟩
  · rw [mapping_nil plugs h]
    simp
  · rw [mapping_one plugs h]
    simp
  · obtain ⟨x, y, hxy, hx, hy, htypes, -⟩ := mapping_two plugs h
    have hids : x.logicalId ≠ y.logicalId := by omega
    rw [hxy]
    refine ⟨by simpa using hids, fun hnodup => ?_⟩
    have hab : a ≠ b := fun heq => (List.nodup_cons.mp hnodup).1 (heq ▸ List.mem_cons_self)
    rcases htypes with ⟨rfl, rfl⟩ | ⟨rfl, rfl⟩
    · simpa using hab
    · simpa using hab.symm

/-! ## One round -/

namespace Daemon

variable {d : Daemon}

/-- Which displays there are and where each is best shown stays. -/
def Keeps (config : Config) (d : Daemon) : Prop :=
  d.mPerfectMapping.map (fun info => { info with connected := false }) = config.initPerfectMapping

theorem getElem?_readStates (n i : Nat) :
    (runActions ((List.range n).map readState) plugs d).mPerfectMapping[i]? =
      (d.mPerfectMapping[i]?).map fun info => if i < n then refresh plugs info else info := by
  induction n with
  | zero => simp [runActions]
  | succ n ih =>
      rw [List.range_succ, List.map_append, List.map_singleton, runActions_concat]
      show (List.modify _ n (refresh plugs))[i]? = _
      rw [List.getElem?_modify, ih]
      cases d.mPerfectMapping[i]? with
      | none => rfl
      | some info =>
          by_cases hn : n = i
          · subst hn
            simp
          · have hlt : i < n + 1 ↔ i < n := by omega
            simp [hn, hlt]

theorem Keeps.readStates (h : Keeps config d) :
    (runActions ((List.range config.devices.length).map readState) plugs d).mPerfectMapping =
      config.initPerfectMapping.map (refresh plugs) := by
  have hlength : d.mPerfectMapping.length = config.devices.length := by
    have := congrArg List.length h
    simpa [Config.initPerfectMapping] using this
  have hmap : config.initPerfectMapping.map (refresh plugs) =
      d.mPerfectMapping.map (refresh plugs) := by
    rw [← h, List.map_map]
    rfl
  rw [hmap]
  refine List.ext_getElem? fun i => ?_
  rw [getElem?_readStates, List.getElem?_map]
  cases hi : d.mPerfectMapping[i]? with
  | none => rfl
  | some info =>
      obtain ⟨hlt, -⟩ := List.getElem?_eq_some_iff.mp hi
      rw [Option.map_some, Option.map_some, if_pos (hlength ▸ hlt)]

/-! ### The loop over the mapping -/

variable {default : Bool}

theorem configureDisplay_of_not_mem {info : OutputDeviceInfo}
    (h : info.type ∉ config.mDevices) : d.configureDisplay config default plugs info = d := by
  have hnone : config.getControler info.type = none := by
    cases hcontroler : config.getControler info.type with
    | none => rfl
    | some t => exact absurd (getControler_eq_some.mp hcontroler).2 h
  rw [configureDisplay, hnone]

def configured (default : Bool) (plugs : Plugs) (d : Daemon) (info : OutputDeviceInfo) :
    DeviceControler :=
  { d.controlers info.type with mLogicalId := info.logicalId }.perform plugs info.type
    info.connected default

theorem configureDisplay_of_mem {info : OutputDeviceInfo} (h : info.type ∈ config.mDevices) :
    d.configureDisplay config default plugs info =
      { d with
        controlers := Function.update d.controlers info.type (configured default plugs d info)
        mDisplayDevices := d.mDisplayDevices ++ [(info.logicalId, info.type)]
        routing := d.routing ++ [info] } := by
  rw [configureDisplay, getControler_eq_some.mpr ⟨rfl, h⟩]
  rfl

theorem mCurrentMapping_configureDisplay (info : OutputDeviceInfo) :
    (d.configureDisplay config default plugs info).mCurrentMapping = d.mCurrentMapping := by
  by_cases h : info.type ∈ config.mDevices
  · rw [configureDisplay_of_mem h]
  · rw [configureDisplay_of_not_mem h]

theorem mPerfectMapping_configureDisplay (info : OutputDeviceInfo) :
    (d.configureDisplay config default plugs info).mPerfectMapping = d.mPerfectMapping := by
  by_cases h : info.type ∈ config.mDevices
  · rw [configureDisplay_of_mem h]
  · rw [configureDisplay_of_not_mem h]

theorem mCurrentMapping_foldl (l : List OutputDeviceInfo) :
    (l.foldl (configureDisplay config default plugs) d).mCurrentMapping = d.mCurrentMapping := by
  induction l generalizing d with
  | nil => rfl
  | cons info l ih => rw [List.foldl_cons, ih, mCurrentMapping_configureDisplay]

theorem runActions_configure (n : Nat) :
    runActions ((List.range n).map (configure config default)) plugs d =
      (d.mCurrentMapping.take n).foldl (configureDisplay config default plugs) d := by
  induction n with
  | zero => rfl
  | succ n ih =>
      rw [List.range_succ, List.map_append, List.map_singleton, runActions_concat, ih, configure,
        mCurrentMapping_foldl, List.take_add_one]
      cases hdrop : d.mCurrentMapping.drop n with
      | nil =>
          have hnone : d.mCurrentMapping[n]? = none :=
            List.getElem?_eq_none (List.drop_eq_nil_iff.mp hdrop)
          rw [hnone]
          simp
      | cons info rest =>
          have hsome : d.mCurrentMapping[n]? = some info := by
            rw [← List.head?_drop, hdrop]
            rfl
          rw [hsome, List.foldl_append]
          rfl

/-- What the loop leaves after the displays `l`. -/
structure Configured (config : Config) (default : Bool) (plugs : Plugs) (d : Daemon)
    (l : List OutputDeviceInfo) (d' : Daemon) : Prop where
  routing : d'.routing = l.filter fun info => decide (info.type ∈ config.mDevices)
  mDisplayDevices : d'.mDisplayDevices = d'.routing.map fun info => (info.logicalId, info.type)
  /-- Two displays on one output would share a controler. -/
  controlers : (l.map (·.type)).Nodup → ∀ info ∈ d'.routing,
    d'.controlers info.type = configured default plugs d info
  others : ∀ type, type ∉ l.map (·.type) → d'.controlers type = d.controlers type

theorem Configured.concat {l : List OutputDeviceInfo} {d' : Daemon}
    (h : Configured config default plugs d l d') (info : OutputDeviceInfo) :
    Configured config default plugs d (l ++ [info])
      (d'.configureDisplay config default plugs info) := by
  by_cases hmem : info.type ∈ config.mDevices
  · have hfilter : [info].filter (fun info => decide (info.type ∈ config.mDevices)) = [info] := by
      simp [hmem]
    rw [configureDisplay_of_mem hmem]
    refine ⟨?_, ?_, fun hnodup other hother => ?_, fun type htype => ?_⟩
    · rw [List.filter_append, hfilter, ← h.routing]
    · rw [List.map_append, ← h.mDisplayDevices]
      rfl
    · rw [List.map_append, List.nodup_append] at hnodup
      obtain ⟨hl, -, hdisjoint⟩ := hnodup
      have hnew : info.type ∉ l.map (·.type) := fun hin =>
        hdisjoint _ hin _ (List.mem_singleton.mpr rfl) rfl
      rcases List.mem_append.mp hother with hold | heq
      · have hin : other ∈ l := by
          rw [h.routing] at hold
          exact (List.mem_filter.mp hold).1
        have hne : other.type ≠ info.type := fun heq =>
          hnew (heq ▸ List.mem_map_of_mem hin)
        show Function.update d'.controlers info.type _ other.type = _
        rw [Function.update_of_ne hne]
        exact h.controlers hl other hold
      · obtain rfl := List.mem_singleton.mp heq
        show Function.update d'.controlers other.type _ other.type = _
        rw [Function.update_self, configured, configured, h.others _ hnew]
    · rw [List.map_append, List.mem_append, not_or] at htype
      have hne : type ≠ info.type := fun heq => htype.2 (List.mem_singleton.mpr heq)
      show Function.update d'.controlers info.type _ type = _
      rw [Function.update_of_ne hne]
      exact h.others type htype.1
  · have hfilter : [info].filter (fun info => decide (info.type ∈ config.mDevices)) = [] := by
      simp [hmem]
    rw [configureDisplay_of_not_mem hmem]
    refine ⟨?_, h.mDisplayDevices, fun hnodup => ?_, fun type htype => ?_⟩
    · rw [List.filter_append, hfilter, List.append_nil]
      exact h.routing
    · rw [List.map_append] at hnodup
      exact h.controlers (List.Nodup.of_append_left hnodup)
    · rw [List.map_append, List.mem_append, not_or] at htype
      exact h.others type htype.1

theorem configured_foldl (hrouting : d.routing = []) (hdevices : d.mDisplayDevices = [])
    (l : List OutputDeviceInfo) :
    Configured config default plugs d l (l.foldl (configureDisplay config default plugs) d) := by
  induction l using List.reverseRecOn with
  | nil =>
      refine ⟨hrouting, ?_, fun _ info hinfo => ?_, fun _ _ => rfl⟩
      · rw [List.foldl_nil, hrouting, hdevices]
        rfl
      · rw [List.foldl_nil, hrouting] at hinfo
        exact absurd hinfo List.not_mem_nil
  | append_singleton l info ih =>
      rw [List.foldl_append]
      exact ih.concat info

theorem mConnectState_configured (info : OutputDeviceInfo) (default : Bool) :
    (info.connected = false → (configured default plugs d info).mConnectState = false) ∧
      (info.connected = true → getConnectState plugs info.type = true →
        (configured default plugs d info).mConnectState = true) := by
  unfold configured DeviceControler.perform DeviceControler.performOptimalConfig
    DeviceControler.performDefaultConfig
  constructor
  · intro hoff
    simp [hoff]
  · intro hon hplug
    simp [hon, hplug]

theorem mLogicalId_configured (info : OutputDeviceInfo) (default : Bool) :
    (configured default plugs d info).mLogicalId = info.logicalId := by
  unfold configured DeviceControler.perform DeviceControler.performOptimalConfig
    DeviceControler.performDefaultConfig
  split_ifs <;> rfl

theorem Configured.mem_presented {l : List OutputDeviceInfo} {d' : Daemon}
    (h : Configured config default plugs d l d') (htypes : (l.map (·.type)).Nodup)
    (hids : (l.map (·.logicalId)).Nodup) {info : OutputDeviceInfo} (hinfo : info ∈ d'.routing) :
    info.logicalId ∈ (switchDevice plugs d').presented ↔
      (configured default plugs d info).mConnectState = true := by
  have hsub : ∀ info ∈ d'.routing, info ∈ l := by
    intro info hinfo
    rw [h.routing] at hinfo
    exact (List.mem_filter.mp hinfo).1
  show info.logicalId ∈ (d'.mDisplayDevices.filter _).map _ ↔ _
  rw [h.mDisplayDevices, List.mem_map]
  constructor
  · rintro ⟨x, hx, hid⟩
    obtain ⟨hmem, hon⟩ := List.mem_filter.mp hx
    obtain ⟨other, hother, rfl⟩ := List.mem_map.mp hmem
    rw [h.controlers htypes other hother] at hon hid
    have heq : other = info := List.inj_on_of_nodup_map hids (hsub other hother) (hsub info hinfo)
      ((mLogicalId_configured other default).symm.trans hid)
    exact heq ▸ hon
  · intro hon
    refine ⟨(info.logicalId, info.type), List.mem_filter.mpr ⟨List.mem_map_of_mem hinfo, ?_⟩, ?_⟩
    · rw [h.controlers htypes info hinfo]
      exact hon
    · rw [h.controlers htypes info hinfo]
      exact mLogicalId_configured info default

/-- The displays are those that the policy makes of the plugs. -/
structure Routed (config : Config) (plugs : Plugs) (d : Daemon) : Prop where
  switched : d.switched =
    (config.mapping plugs).filter fun info => decide (info.type ∈ config.mDevices)
  /-- The primary display is shown where it can be seen, if it can be seen at all. -/
  primary : ∀ info ∈ d.switched, info.logicalId = ePrimaryDisplayId → info.connected = true ∧
    ∀ type ∈ config.devices.take 2, getConnectState plugs type = true →
      getConnectState plugs info.type = true
  external : ∀ info ∈ d.switched, info.logicalId ≠ ePrimaryDisplayId →
    (info.connected = true ↔ config.mPolicy = .eDualOutput ∧
      ∀ type ∈ config.devices.take 2, getConnectState plugs type = true)
  /-- With two devices of one type both displays would have one controler. -/
  on : config.devices.Nodup → ∀ info ∈ d.switched, info.connected = true →
    getConnectState plugs info.type = true → info.logicalId ∈ d.presented
  off : config.devices.Nodup → ∀ info ∈ d.switched, info.connected = false →
    info.logicalId ∉ d.presented

theorem mapping_displays : ∀ info ∈ config.mapping plugs,
    (info.logicalId = ePrimaryDisplayId → info.connected = true ∧
      (info.type ∈ config.mDevices → ∀ type ∈ config.devices.take 2,
        getConnectState plugs type = true → getConnectState plugs info.type = true)) ∧
    (info.logicalId ≠ ePrimaryDisplayId → (info.connected = true ↔
      config.mPolicy = .eDualOutput ∧
        ∀ type ∈ config.devices.take 2, getConnectState plugs type = true)) := by
  intro info hinfo
  rcases h : config.devices with - | ⟨a, - | ⟨b, rest⟩⟩
  · rw [mapping_nil plugs h] at hinfo
    obtain rfl := List.mem_singleton.mp hinfo
    exact ⟨fun _ => ⟨rfl, by simp⟩, fun hne => absurd rfl hne⟩
  · rw [mapping_one plugs h] at hinfo
    obtain rfl := List.mem_singleton.mp hinfo
    exact ⟨fun _ => ⟨rfl, by simp⟩, fun hne => absurd rfl hne⟩
  · obtain ⟨x, y, hxy, hx, hy, htypes, hon, hprimary, hexternal⟩ := mapping_two plugs h
    rw [hxy] at hinfo
    simp only [List.take_succ_cons, List.take_zero, List.mem_cons, List.not_mem_nil, or_false,
      forall_eq_or_imp, forall_eq]
    rcases List.mem_cons.mp hinfo with rfl | hinfo
    · refine ⟨fun _ => ⟨hon, fun _ => ⟨fun ha => hprimary (.inl ha), fun hb => hprimary (.inr hb)⟩⟩,
        fun hne => absurd hx hne⟩
    · obtain rfl := List.mem_singleton.mp hinfo
      exact ⟨fun hid => absurd (hy.symm.trans hid) (by decide), fun _ => hexternal⟩

/-- A round of `hotplug` that no change comes into. -/
theorem Keeps.routed (h : Keeps config d) :
    Routed config plugs (runActions (hotplug config) plugs d) := by
  obtain ⟨dᵣ, hdᵣ⟩ : ∃ dᵣ, dᵣ = rebuild config plugs
    (runActions ((List.range config.devices.length).map readState) plugs d) := ⟨_, rfl⟩
  have hcurrent : dᵣ.mCurrentMapping = config.mapping plugs := by
    rw [hdᵣ, rebuild, h.readStates]
    rfl
  have hloop : Configured config false plugs dᵣ (config.mapping plugs)
      ((config.mapping plugs).foldl (configureDisplay config false plugs) dᵣ) := by
    apply configured_foldl
    · rw [hdᵣ]
      rfl
    · rw [hdᵣ]
      rfl
  have hround : runActions (hotplug config) plugs d = switchDevice plugs
      ((config.mapping plugs).foldl (configureDisplay config false plugs) dᵣ) := by
    have htake : (config.mapping plugs).take config.displays = config.mapping plugs := by
      rw [← length_mapping plugs, List.take_length]
    rw [hotplug, runActions_concat, runActions_append, runActions_concat, ← hdᵣ,
      runActions_configure, hcurrent, htake]
  obtain ⟨d', hd'⟩ : ∃ d', d' =
    (config.mapping plugs).foldl (configureDisplay config false plugs) dᵣ := ⟨_, rfl⟩
  rw [← hd'] at hround hloop
  rw [hround]
  have hswitched : ∀ info ∈ d'.routing, info ∈ config.mapping plugs ∧
      info.type ∈ config.mDevices := by
    intro info hinfo
    rw [hloop.routing, List.mem_filter, decide_eq_true_iff] at hinfo
    exact hinfo
  obtain ⟨hids, htypes⟩ := nodup_mapping config plugs
  refine ⟨hloop.routing, fun info hinfo => ?_, fun info hinfo => ?_,
    fun hnodup info hinfo hon hplug => ?_, fun hnodup info hinfo hoff => ?_⟩
  · obtain ⟨hmem, hknown⟩ := hswitched info hinfo
    intro hid
    obtain ⟨hon, hshown⟩ := (mapping_displays info hmem).1 hid
    exact ⟨hon, hshown hknown⟩
  · exact (mapping_displays info (hswitched info hinfo).1).2
  · rw [hloop.mem_presented (htypes hnodup) hids hinfo]
    exact (mConnectState_configured info false).2 hon hplug
  · rw [hloop.mem_presented (htypes hnodup) hids hinfo,
      (mConnectState_configured info false).1 hoff]
    exact Bool.false_ne_true

/-! ### Whole runs -/

theorem Keeps.readState (h : Keeps config d) (i : Nat) : Keeps config (readState i plugs d) := by
  unfold Keeps at h ⊢
  rw [← h]
  refine List.ext_getElem? fun j => ?_
  show ((d.mPerfectMapping.modify i (refresh plugs)).map _)[j]? = _
  rw [List.getElem?_map, List.getElem?_map, List.getElem?_modify]
  cases d.mPerfectMapping[j]? with
  | none => rfl
  | some info =>
      by_cases hij : i = j
      · simp [hij, refresh]
      · simp [hij]

theorem mPerfectMapping_configure (i : Nat) :
    (configure config default i plugs d).mPerfectMapping = d.mPerfectMapping := by
  unfold configure
  cases d.mCurrentMapping.drop i with
  | nil => rfl
  | cons info rest => exact mPerfectMapping_configureDisplay info

theorem keeps_action : ∀ action ∈ setupDefaultOutput config ++ hotplug config,
    ∀ plugs d, Keeps config d → Keeps config (action plugs d) := by
  have hread : ∀ action ∈ (List.range config.devices.length).map readState,
      ∀ plugs d, Keeps config d → Keeps config (action plugs d) := by
    intro action haction plugs d h
    obtain ⟨i, -, rfl⟩ := List.mem_map.mp haction
    exact h.readState i
  have hconfigure : ∀ default, ∀ action ∈ (List.range config.displays).map
      (configure config default), ∀ plugs d, Keeps config d → Keeps config (action plugs d) := by
    intro default action haction plugs d h
    obtain ⟨i, -, rfl⟩ := List.mem_map.mp haction
    unfold Keeps
    rw [mPerfectMapping_configure]
    exact h
  intro action haction plugs d h
  simp only [setupDefaultOutput, hotplug, List.mem_append, List.mem_cons, List.not_mem_nil,
    or_false] at haction
  rcases haction with (((haction | rfl | rfl) | haction) | rfl) | ((haction | rfl) | haction) | rfl
  · exact hread action haction plugs d h
  · unfold recheckPrimary
    split_ifs
    · exact h
    · exact h.readState 0
  · exact h
  · exact hconfigure true action haction plugs d h
  · exact h
  · exact hread action haction plugs d h
  · exact h
  · exact hconfigure false action haction plugs d h
  · exact h

theorem keeps_start : Keeps config (start config) := by
  refine List.ext_getElem? fun i => ?_
  show (config.initPerfectMapping.map _)[i]? = _
  unfold Config.initPerfectMapping
  rw [List.getElem?_map, List.getElem?_mapIdx, Option.map_map]
  rfl

end Daemon

/-- Once it has handled the uevents, the displays are those for the outputs that are plugged in now,
whenever the plugs changed: also while it handled an earlier uevent.  One change has to come after the
socket is open. -/
theorem follows_plugs (config : Config) (plugs : Plugs) (events : List (Watcher.Event Plugs)) :
    let s := run config plugs events
    let t := (watcher config).work^[(watcher config).left s] s
    t.Settled ∧ (s.taken = true ∨ s.notices ≠ 0 → Daemon.Routed config s.world t.copy) := by
  intro s t
  have hsettled : t.Settled := (watcher config).settled_iterate s
  refine ⟨hsettled, fun hheard => ?_⟩
  have hinv : (watcher config).Inv (Daemon.Keeps config) t :=
    (Watcher.inv_run Daemon.keeps_start Daemon.keeps_action events).iterate_work
      Daemon.keeps_action _
  obtain ⟨c, hc, hcopy⟩ := hinv.copy_eq hsettled (Watcher.taken_iterate hsettled hheard)
  rw [hcopy, (watcher config).world_iterate]
  exact hc.routed

/-- A change that comes earlier is missed: here the second output is plugged in after its state is
read, while the daemon waits for the first. -/
example : let config : Config := ⟨[Hwc.DISP_OUTPUT_TYPE_HDMI, Hwc.DISP_OUTPUT_TYPE_TV], .eDualOutput⟩
    let late : Plugs := fun type => decide (type = Hwc.DISP_OUTPUT_TYPE_TV)
    let s := run config (fun _ => false) ([.work, .work, .change late] ++ List.replicate 6 .work)
    (s.todo.length, s.listening, s.notices) = (0, true, 0) ∧
      s.copy.switched = [⟨0, Hwc.DISP_OUTPUT_TYPE_HDMI, true⟩, ⟨1, Hwc.DISP_OUTPUT_TYPE_TV, false⟩] ∧
      (config.mapping late).map (·.type) = [Hwc.DISP_OUTPUT_TYPE_TV, Hwc.DISP_OUTPUT_TYPE_HDMI] := by
  decide

end AwHal.Displayd.Hotplug
