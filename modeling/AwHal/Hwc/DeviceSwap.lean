import AwHal.Hwc.DeviceManager

/-!
# Swapping devices

What a new mapping does to the hubs and their devices, and when every display comes out wired to the
device that it is given.
-/

namespace AwHal.Hwc

open AwHal.Lib

namespace DeviceManager

/-! ## Announcing the devices -/

/-- The hub is announced another device. -/
def Hit (info : ConnectedInfo) (hub : DeviceHub) : Prop :=
  hub.mDisplayId = info.displayId ∧ some hub.mDevice ≠ info.device

instance (info : ConnectedInfo) (hub : DeviceHub) : Decidable (Hit info hub) :=
  inferInstanceAs (Decidable (_ ∧ _))

def markOne (info : ConnectedInfo) (hub : DeviceHub) : DeviceHub :=
  if Hit info hub then { hub with mWaitForPopulate := true, mCurrentDevice := info.device } else hub

def mark (cinfo : List ConnectedInfo) (hub : DeviceHub) : DeviceHub :=
  cinfo.foldr markOne hub

@[simp] theorem markOne_mDisplayId (info : ConnectedInfo) (hub : DeviceHub) :
    (markOne info hub).mDisplayId = hub.mDisplayId := by
  unfold markOne
  split <;> rfl

@[simp] theorem markOne_mDevice (info : ConnectedInfo) (hub : DeviceHub) :
    (markOne info hub).mDevice = hub.mDevice := by
  unfold markOne
  split <;> rfl

@[simp] theorem mark_mDisplayId (cinfo : List ConnectedInfo) (hub : DeviceHub) :
    (mark cinfo hub).mDisplayId = hub.mDisplayId := by
  induction cinfo with
  | nil => rfl
  | cons info cinfo ih => exact (markOne_mDisplayId info _).trans ih

@[simp] theorem mark_mDevice (cinfo : List ConnectedInfo) (hub : DeviceHub) :
    (mark cinfo hub).mDevice = hub.mDevice := by
  induction cinfo with
  | nil => rfl
  | cons info cinfo ih => exact (markOne_mDevice info _).trans ih

theorem hit_mark {info : ConnectedInfo} {cinfo : List ConnectedInfo} {hub : DeviceHub} :
    Hit info (mark cinfo hub) ↔ Hit info hub := by
  simp [Hit]

theorem eq_of_mDisplayId {hubs : List DeviceHub} (hids : (hubs.map DeviceHub.mDisplayId).Nodup)
    {a b : DeviceHub} (ha : a ∈ hubs) (hb : b ∈ hubs) (h : a.mDisplayId = b.mDisplayId) : a = b :=
  List.inj_on_of_nodup_map hids ha hb h

/-- The entries have marked the hubs of their displays that have another device, and have turned
nothing off but the devices of these hubs. -/
structure Announced (cinfo : List ConnectedInfo) (m m' : DeviceManager) : Prop where
  hubs : m'.mDeviceHubs = m.mDeviceHubs.map (mark cinfo)
  flag : m'.mSwapPendingFlag = true ↔
    m.mSwapPendingFlag = true ∨ ∃ hub ∈ m.mDeviceHubs, ∃ info ∈ cinfo, Hit info hub
  devices : ∀ d, (∀ hub ∈ m.mDeviceHubs, ∀ info ∈ cinfo, Hit info hub → hub.mDevice ≠ d) →
    m'.devices d = m.devices d

theorem mark_of_not_hit {cinfo : List ConnectedInfo} {hub : DeviceHub}
    (hnone : ∀ info ∈ cinfo, ¬ Hit info hub) : mark cinfo hub = hub := by
  induction cinfo with
  | nil => rfl
  | cons info cinfo ih =>
      have hrest := ih fun i hi => hnone i (List.mem_cons_of_mem info hi)
      calc mark (info :: cinfo) hub
          = markOne info (mark cinfo hub) := rfl
        _ = markOne info hub := by rw [hrest]
        _ = hub := if_neg (hnone info List.mem_cons_self)

theorem Announced.of_not_hit {m : DeviceManager} {cinfo : List ConnectedInfo}
    (hnone : ∀ hub ∈ m.mDeviceHubs, ∀ info ∈ cinfo, ¬ Hit info hub) : Announced cinfo m m where
  hubs := by
    conv_lhs => rw [← List.map_id m.mDeviceHubs]
    exact List.map_congr_left fun hub hhub => (mark_of_not_hit (hnone hub hhub)).symm
  flag := by
    constructor
    · exact Or.inl
    · rintro (h | ⟨hub, hhub, info, hinfo, hhit⟩)
      · exact h
      · exact absurd hhit (hnone hub hhub info hinfo)
  devices := fun _ _ => rfl

theorem Announced.cons {m m' m'' : DeviceManager} {info : ConnectedInfo}
    {cinfo : List ConnectedInfo} (h : Announced cinfo m m') (h' : Announced [info] m' m'') :
    Announced (info :: cinfo) m m'' where
  hubs := by
    calc m''.mDeviceHubs
        = (m.mDeviceHubs.map (mark cinfo)).map (mark [info]) := by rw [h'.hubs, h.hubs]
      _ = m.mDeviceHubs.map (mark (info :: cinfo)) := by
          rw [List.map_map]
          rfl
  flag := by
    rw [h'.flag, h.flag, h.hubs]
    simp only [List.exists_mem_cons_iff, List.mem_map, exists_exists_and_eq_and, hit_mark]
    grind
  devices := by
    intro d hd
    calc m''.devices d
        = m'.devices d := by
          apply h'.devices
          intro hub hhub i hi hhit
          rw [List.mem_singleton] at hi
          -- marking a hub changes neither its display nor its device
          rw [h.hubs] at hhub
          obtain ⟨origin, horigin, rfl⟩ := List.mem_map.mp hhub
          rw [mark_mDevice]
          exact hd origin horigin i (hi ▸ List.mem_cons_self) (hit_mark.mp hhit)
      _ = m.devices d :=
          h.devices d fun hub hhub i hi => hd hub hhub i (List.mem_cons_of_mem info hi)

theorem changeHub_announced {m : DeviceManager} (info : ConnectedInfo)
    (hids : (m.mDeviceHubs.map DeviceHub.mDisplayId).Nodup) :
    Announced [info] m (changeHub info m) := by
  unfold changeHub
  cases hfind : m.mDeviceHubs.find? (·.mDisplayId = info.displayId) with
  | none =>
      apply Announced.of_not_hit
      intro hub hhub i hi hhit
      rw [List.mem_singleton.mp hi] at hhit
      exact List.find?_eq_none.mp hfind hub hhub (by simpa using hhit.1)
  | some hub =>
      have hmem := List.mem_of_find?_eq_some hfind
      have hid : hub.mDisplayId = info.displayId := by
        simpa using List.find?_some hfind
      -- it is the only hub of this display
      have hunique : ∀ h ∈ m.mDeviceHubs, h.mDisplayId = info.displayId → h = hub :=
        fun h hh heq => eq_of_mDisplayId hids hh hmem (heq.trans hid.symm)
      by_cases hchange : some hub.mDevice ≠ info.device
      · simp only [if_pos hchange, DeviceHub.onDeviceChanged]
        refine ⟨?_, ?_, ?_⟩
        · apply List.map_congr_left
          intro h hh
          change _ = markOne info h
          by_cases heq : h.mDisplayId = info.displayId
          · obtain rfl := hunique h hh heq
            rw [if_pos heq, markOne, if_pos ⟨heq, hchange⟩]
          · rw [if_neg heq, markOne, if_neg (fun hhit => heq hhit.1)]
        · simp only [true_iff]
          exact Or.inr ⟨hub, hmem, info, List.mem_singleton_self info, hid, hchange⟩
        · intro d hd
          have hne := hd hub hmem info (List.mem_singleton_self info) ⟨hid, hchange⟩
          exact Function.update_of_ne hne.symm _ _
      · simp only [if_neg hchange]
        apply Announced.of_not_hit
        intro h hh i hi hhit
        rw [List.mem_singleton.mp hi] at hhit
        obtain rfl := hunique h hh hhit.1
        exact hchange hhit.2

theorem populateDeviceHub_announced {m : DeviceManager} (cinfo : List ConnectedInfo)
    (hids : (m.mDeviceHubs.map DeviceHub.mDisplayId).Nodup) :
    Announced cinfo m (m.populateDeviceHub cinfo) := by
  induction cinfo with
  | nil => exact Announced.of_not_hit fun _ _ i hi => absurd hi List.not_mem_nil
  -- the loop runs from the back, so the first entry comes last
  | cons info cinfo ih =>
      refine ih.cons (changeHub_announced info ?_)
      rw [ih.hubs, List.map_map]
      simpa [Function.comp_def] using hids

/-! ## The device a hub is given -/

theorem named_of_forall {cinfo : List ConnectedInfo} {hub : DeviceHub} {d : DeviceId}
    (hall : ∀ info ∈ cinfo, info.displayId = hub.mDisplayId → info.device = some d)
    (hex : ∃ info ∈ cinfo, info.displayId = hub.mDisplayId) : named cinfo hub = d := by
  unfold named
  cases hfind : cinfo.find? (·.displayId = hub.mDisplayId) with
  | none =>
      obtain ⟨info, hinfo, hid⟩ := hex
      exact absurd (by simpa using hid) (List.find?_eq_none.mp hfind info hinfo)
  | some info =>
      have hdevice := hall info (List.mem_of_find?_eq_some hfind)
        (by simpa using List.find?_some hfind)
      simp [hdevice]

theorem exists_of_named_ne {cinfo : List ConnectedInfo} {hub : DeviceHub}
    (hne : named cinfo hub ≠ hub.mDevice) : ∃ info ∈ cinfo, info.displayId = hub.mDisplayId := by
  cases hfind : cinfo.find? (·.displayId = hub.mDisplayId) with
  | none => exact absurd (by rw [named, hfind]; rfl) hne
  | some info =>
      exact ⟨info, List.mem_of_find?_eq_some hfind, by simpa using List.find?_some hfind⟩

theorem mark_of_hit {cinfo : List ConnectedInfo} {hub : DeviceHub} {dev : Option DeviceId}
    (hall : ∀ info ∈ cinfo, Hit info hub → info.device = dev) (hex : ∃ info ∈ cinfo, Hit info hub) :
    mark cinfo hub = { hub with mWaitForPopulate := true, mCurrentDevice := dev } := by
  induction cinfo with
  | nil =>
      obtain ⟨info, hinfo, _⟩ := hex
      exact absurd hinfo List.not_mem_nil
  | cons info cinfo ih =>
      have hcons : mark (info :: cinfo) hub = markOne info (mark cinfo hub) := rfl
      -- the first entry has the last word, and all entries agree
      by_cases hhit : Hit info hub
      · rw [hcons, markOne, if_pos (hit_mark.mpr hhit), hall info List.mem_cons_self hhit]
        simp
      · have hrest : ∃ i ∈ cinfo, Hit i hub := by
          obtain ⟨i, hi, hihit⟩ := hex
          rcases List.mem_cons.mp hi with rfl | hi
          · exact absurd hihit hhit
          · exact ⟨i, hi, hihit⟩
        rw [hcons, markOne, if_neg (fun h => hhit (hit_mark.mp h))]
        exact ih (fun i hi => hall i (List.mem_cons_of_mem info hi)) hrest

def Given (cinfo : List ConnectedInfo) (hub : DeviceHub) : Prop :=
  ∀ info ∈ cinfo, info.displayId = hub.mDisplayId → info.device = some (named cinfo hub)

theorem Given.hit_iff {cinfo : List ConnectedInfo} {hub : DeviceHub} (h : Given cinfo hub) :
    (∃ info ∈ cinfo, Hit info hub) ↔ named cinfo hub ≠ hub.mDevice := by
  constructor
  · rintro ⟨info, hinfo, hid, hne⟩ heq
    rw [h info hinfo hid.symm, heq] at hne
    exact hne rfl
  · intro hne
    obtain ⟨info, hinfo, hid⟩ := exists_of_named_ne hne
    refine ⟨info, hinfo, hid.symm, ?_⟩
    rw [h info hinfo hid]
    exact fun heq => hne (Option.some.inj heq).symm

theorem Given.mark_eq {cinfo : List ConnectedInfo} {hub : DeviceHub} (h : Given cinfo hub) :
    mark cinfo hub =
      if named cinfo hub ≠ hub.mDevice then
        { hub with mWaitForPopulate := true, mCurrentDevice := some (named cinfo hub) }
      else hub := by
  split
  · rename_i hne
    exact mark_of_hit (fun info hinfo hhit => h info hinfo hhit.1.symm) (h.hit_iff.mpr hne)
  · rename_i heq
    exact mark_of_not_hit fun info hinfo hhit => heq (h.hit_iff.mp ⟨info, hinfo, hhit⟩)

/-! ## Populating the hubs -/

/-- The hubs hand their devices over in the order of `mDeviceHubs`. -/
def handover (cinfo : List ConnectedInfo) : Handover DeviceHub DeviceId DeviceBase Int where
  key := DeviceHub.mDisplayId
  old := DeviceHub.mDevice
  new := named cinfo
  release := DeviceHub.detach
  taken := fun hub =>
    { mPowerMode := .ON
      mVsyncEnabled := hub.primaryDisplay
      mDisplayEventListener := some hub.mDisplayId
      skipFrame := !hub.primaryDisplay }
  holder := DeviceBase.mDisplayEventListener
  holder_release := fun _ => rfl
  holder_taken := fun _ => rfl

theorem attach_eq (cinfo : List ConnectedInfo) (hub : DeviceHub) (device : DeviceBase) :
    hub.attach device = (handover cinfo).taken hub := by
  unfold DeviceHub.attach DeviceBase.setVsyncEnabled
  rw [if_neg (fun h => h.2 rfl)]
  rfl

def settle (cinfo : List ConnectedInfo) (hub : DeviceHub) : DeviceHub :=
  if named cinfo hub ≠ hub.mDevice then
    { hub with mDevice := named cinfo hub, mCurrentDevice := none, mWaitForPopulate := false }
  else hub

@[simp] theorem settle_mDisplayId (cinfo : List ConnectedInfo) (hub : DeviceHub) :
    (settle cinfo hub).mDisplayId = hub.mDisplayId := by
  unfold settle
  split <;> rfl

@[simp] theorem settle_mDevice (cinfo : List ConnectedInfo) (hub : DeviceHub) :
    (settle cinfo hub).mDevice = named cinfo hub := by
  unfold settle
  split
  · rfl
  · rename_i heq
    exact (not_not.mp heq).symm

def changing (cinfo : List ConnectedInfo) (hubs : List DeviceHub) : List DeviceHub :=
  hubs.filter fun hub => named cinfo hub ≠ hub.mDevice

theorem mem_changing {cinfo : List ConnectedInfo} {hubs : List DeviceHub} {hub : DeviceHub} :
    hub ∈ changing cinfo hubs ↔ hub ∈ hubs ∧ named cinfo hub ≠ hub.mDevice := by
  simp [changing]

theorem populateDevices_mark {cinfo : List ConnectedInfo} {hubs : List DeviceHub}
    (hgiven : ∀ hub ∈ hubs, Given cinfo hub) (hsettled : ∀ hub ∈ hubs, hub.mWaitForPopulate = false)
    (devices : DeviceId → DeviceBase) :
    populateDevices devices (hubs.map (mark cinfo)) =
      .ok ((handover cinfo).run devices (changing cinfo hubs), hubs.map (settle cinfo)) := by
  induction hubs generalizing devices with
  | nil => rfl
  | cons hub hubs ih =>
      have ih := ih (fun h hh => hgiven h (List.mem_cons_of_mem hub hh))
        (fun h hh => hsettled h (List.mem_cons_of_mem hub hh))
      have hmark := (hgiven hub List.mem_cons_self).mark_eq
      by_cases hne : named cinfo hub ≠ hub.mDevice
      · rw [if_pos hne] at hmark
        have hchanging : changing cinfo (hub :: hubs) = hub :: changing cinfo hubs :=
          List.filter_cons_of_pos (by simpa using hne)
        rw [List.map_cons, List.map_cons, hmark, hchanging, settle, if_pos hne]
        simp only [populateDevices, DeviceHub.populateDevice, bind, Except.bind, ih,
          Bool.true_eq_false, if_false, attach_eq cinfo]
        rfl
      · rw [if_neg hne] at hmark
        have hchanging : changing cinfo (hub :: hubs) = changing cinfo hubs :=
          List.filter_cons_of_neg (by simpa using hne)
        rw [List.map_cons, List.map_cons, hmark, hchanging, settle, if_neg hne]
        simp only [populateDevices, DeviceHub.populateDevice, bind, Except.bind, ih,
          hsettled hub List.mem_cons_self, if_true]

theorem bind_ok {α β : Type} {x : Except Fault α} {f : α → Except Fault β} {b : β}
    (h : x >>= f = .ok b) : ∃ a, x = .ok a ∧ f a = .ok b := by
  cases x with
  | error fault => cases h
  | ok a => exact ⟨a, rfl, h⟩

theorem populateDevice_mDisplayId {devices devices' : DeviceId → DeviceBase}
    {hub hub' : DeviceHub} (h : hub.populateDevice devices = .ok (devices', hub')) :
    hub'.mDisplayId = hub.mDisplayId := by
  unfold DeviceHub.populateDevice at h
  split at h
  · cases h
    rfl
  · cases hdev : hub.mCurrentDevice with
    | none =>
        rw [hdev] at h
        cases h
    | some dev =>
        rw [hdev] at h
        cases h
        rfl

theorem populateDevices_ids {devices devices' : DeviceId → DeviceBase}
    {hubs hubs' : List DeviceHub} (h : populateDevices devices hubs = .ok (devices', hubs')) :
    hubs'.map DeviceHub.mDisplayId = hubs.map DeviceHub.mDisplayId := by
  induction hubs generalizing devices devices' hubs' with
  | nil =>
      cases h
      rfl
  | cons hub hubs ih =>
      unfold populateDevices at h
      obtain ⟨⟨devices₁, hub₁⟩, hpop, h⟩ := bind_ok h
      obtain ⟨⟨devices₂, hubs₂⟩, hrest, h⟩ := bind_ok h
      cases h
      rw [List.map_cons, List.map_cons, populateDevice_mDisplayId hpop, ih hrest]

/-! ## A swap -/

variable {m : DeviceManager} {cinfo : List ConnectedInfo}

theorem Wired.announced (hwired : m.Wired)
    (hprimary : cinfo.countP (·.displayId = HWC_DISPLAY_PRIMARY) = 1) :
    Announced cinfo m (m.deviceChangedEventProcess cinfo).1 := by
  unfold deviceChangedEventProcess
  rw [if_neg (not_not.mpr hprimary)]
  have h := populateDeviceHub_announced (m := { m with
    mLogicalDisplays := (cinfo.foldl (updateLogicalDisplay fun id => (m.mLogicalDisplays id).isSome)
      (m.mLogicalDisplays, [])).1 }) cinfo hwired.ids
  exact ⟨h.hubs, h.flag, h.devices⟩

theorem swap_ids (hwired : m.Wired)
    (hprimary : cinfo.countP (·.displayId = HWC_DISPLAY_PRIMARY) = 1) {m' : DeviceManager}
    (h : m.swap cinfo = .ok m') :
    m'.mDeviceHubs.map DeviceHub.mDisplayId = m.mDeviceHubs.map DeviceHub.mDisplayId := by
  have hmark : ((m.deviceChangedEventProcess cinfo).1.mDeviceHubs).map DeviceHub.mDisplayId =
      m.mDeviceHubs.map DeviceHub.mDisplayId := by
    rw [(hwired.announced hprimary).hubs, List.map_map]
    simp [Function.comp_def]
  unfold swap onPerValidateDisplay at h
  split at h
  · obtain ⟨⟨devices, hubs⟩, hpop, h⟩ := bind_ok h
    cases h
    exact (populateDevices_ids hpop).trans hmark
  · cases h
    exact hmark

theorem Wired.mDevice_ne (hwired : m.Wired) {a b : DeviceHub} (ha : a ∈ m.mDeviceHubs)
    (hb : b ∈ m.mDeviceHubs) (hne : a.mDisplayId ≠ b.mDisplayId) : a.mDevice ≠ b.mDevice := by
  intro heq
  have hl := hwired.listener a ha
  rw [heq, hwired.listener b hb] at hl
  exact hne (Option.some.inj hl).symm

theorem Wired.devices_announced (hwired : m.Wired)
    (hprimary : cinfo.countP (·.displayId = HWC_DISPLAY_PRIMARY) = 1)
    (hgiven : ∀ hub ∈ m.mDeviceHubs, Given cinfo hub) {hub : DeviceHub}
    (hhub : hub ∈ m.mDeviceHubs) (hsame : named cinfo hub = hub.mDevice) :
    (m.deviceChangedEventProcess cinfo).1.devices hub.mDevice = m.devices hub.mDevice := by
  apply (hwired.announced hprimary).devices
  intro other hother info hinfo hhit heq
  -- a device has one listener, so this is the same hub
  have hid : other.mDisplayId = hub.mDisplayId := by
    by_contra hne
    exact hwired.mDevice_ne hother hhub hne heq
  obtain rfl := eq_of_mDisplayId hwired.ids hother hhub hid
  exact (hgiven other hother).hit_iff.mp ⟨info, hinfo, hhit⟩ hsame

/-- If every hub is given a device, the swap is a handover between the hubs that change theirs. -/
theorem swap_eq (hwired : m.Wired)
    (hprimary : cinfo.countP (·.displayId = HWC_DISPLAY_PRIMARY) = 1)
    (hgiven : ∀ hub ∈ m.mDeviceHubs, Given cinfo hub) :
    ∃ m', m.swap cinfo = .ok m' ∧ m'.mDeviceHubs = m.mDeviceHubs.map (settle cinfo) ∧
      m'.devices = (handover cinfo).run (m.deviceChangedEventProcess cinfo).1.devices
        (changing cinfo m.mDeviceHubs) := by
  have hann := hwired.announced hprimary
  by_cases hflag : (m.deviceChangedEventProcess cinfo).1.mSwapPendingFlag = true
  · refine ⟨{ (m.deviceChangedEventProcess cinfo).1 with
        devices := (handover cinfo).run (m.deviceChangedEventProcess cinfo).1.devices
          (changing cinfo m.mDeviceHubs)
        mDeviceHubs := m.mDeviceHubs.map (settle cinfo)
        mSwapPendingFlag := false }, ?_, rfl, rfl⟩
    unfold swap onPerValidateDisplay
    rw [if_pos ⟨hflag, rfl⟩, hann.hubs, populateDevices_mark hgiven hwired.settled]
    rfl
  · -- no hub was announced another device, and the handover has no turns
    have hnone : ∀ hub ∈ m.mDeviceHubs, named cinfo hub = hub.mDevice := by
      intro hub hhub
      by_contra hne
      exact hflag (hann.flag.mpr (Or.inr ⟨hub, hhub, (hgiven hub hhub).hit_iff.mpr hne⟩))
    have hchanging : changing cinfo m.mDeviceHubs = [] := by
      rw [changing, List.filter_eq_nil_iff]
      intro hub hhub
      simpa using hnone hub hhub
    refine ⟨_, if_neg fun h => hflag h.1, ?_, ?_⟩
    · rw [hann.hubs]
      apply List.map_congr_left
      intro hub hhub
      rw [(hgiven hub hhub).mark_eq, settle, if_neg (not_not.mpr (hnone hub hhub)),
        if_neg (not_not.mpr (hnone hub hhub))]
    · rw [hchanging]
      rfl

theorem Wired.changing_ids (hwired : m.Wired) :
    ((changing cinfo m.mDeviceHubs).map DeviceHub.mDisplayId).Nodup :=
  hwired.ids.sublist (List.filter_sublist.map _)

theorem Wired.not_mem_changing_ids (hwired : m.Wired) {hub : DeviceHub}
    (hhub : hub ∈ m.mDeviceHubs) (hsame : named cinfo hub = hub.mDevice) :
    hub.mDisplayId ∉ (changing cinfo m.mDeviceHubs).map DeviceHub.mDisplayId := by
  intro hmem
  obtain ⟨other, hother, hid⟩ := List.mem_map.mp hmem
  obtain ⟨hother, hne⟩ := mem_changing.mp hother
  obtain rfl := eq_of_mDisplayId hwired.ids hother hhub hid
  exact hne hsame

theorem given_of_populated (hwired : m.Wired)
    (hprimary : cinfo.countP (·.displayId = HWC_DISPLAY_PRIMARY) = 1) {m' : DeviceManager}
    (h : m.swap cinfo = .ok m') (hpop : Populated cinfo m') {hub : DeviceHub}
    (hhub : hub ∈ m.mDeviceHubs) : Given cinfo hub := by
  have hid : hub.mDisplayId ∈ m'.mDeviceHubs.map DeviceHub.mDisplayId := by
    rw [swap_ids hwired hprimary h]
    exact List.mem_map_of_mem hhub
  obtain ⟨hub', hhub', hid⟩ := List.mem_map.mp hid
  have hall : ∀ info ∈ cinfo, info.displayId = hub.mDisplayId →
      info.device = some hub'.mDevice :=
    fun info hinfo heq => (hpop hub' hhub').1 info hinfo (heq.trans hid.symm)
  intro info hinfo heq
  rw [hall info hinfo heq, named_of_forall hall ⟨info, hinfo, heq⟩]

theorem apart_of_listeners (hwired : m.Wired) {states : DeviceId → DeviceBase}
    (hheld : ∀ hub ∈ m.mDeviceHubs,
      ((handover cinfo).run states (changing cinfo m.mDeviceHubs)
        (named cinfo hub)).mDisplayEventListener = some hub.mDisplayId) :
    m.mDeviceHubs.Pairwise fun a b =>
      named cinfo a ≠ b.mDevice ∧ named cinfo a ≠ named cinfo b := by
  have hids : m.mDeviceHubs.Pairwise fun a b => a.mDisplayId ≠ b.mDisplayId :=
    List.pairwise_map.mp hwired.ids
  -- among the hubs that change it is the rule of handovers; the others keep what nobody else has
  have hturns : (handover cinfo).Apart (changing cinfo m.mDeviceHubs) := by
    rw [← (handover cinfo).holder_run_iff hwired.changing_ids states]
    exact fun hub hhub => hheld hub (mem_changing.mp hhub).1
  have hturns := List.pairwise_filter.mp hturns
  refine (hids.and hturns).imp_of_mem ?_
  rintro a b ha hb ⟨hne, hturn⟩
  have hnamed : named cinfo a ≠ named cinfo b := by
    intro heq
    have hl := hheld a ha
    rw [heq, hheld b hb] at hl
    exact hne (Option.some.inj hl).symm
  refine ⟨?_, hnamed⟩
  by_cases hsame : named cinfo a = a.mDevice
  · rw [hsame]
    exact hwired.mDevice_ne ha hb hne
  · by_cases hsame' : named cinfo b = b.mDevice
    · rw [← hsame']
      exact hnamed
    · exact (hturn (by simpa using hsame) (by simpa using hsame')).1

theorem SwapOk.untouched (hok : m.SwapOk cinfo) (hwired : m.Wired) {hub : DeviceHub}
    (hhub : hub ∈ m.mDeviceHubs) (hsame : named cinfo hub = hub.mDevice) :
    (handover cinfo).Untouched hub.mDevice (changing cinfo m.mDeviceHubs) := by
  intro other hother
  have hfresh := hwired.not_mem_changing_ids hhub hsame
  have hne : hub.mDisplayId ≠ other.mDisplayId := by
    intro heq
    exact hfresh (heq ▸ List.mem_map_of_mem hother)
  have hother := (mem_changing.mp hother).1
  have hnamed : (m.mDeviceHubs.map (named cinfo)).Nodup :=
    List.pairwise_map.mpr (hok.apart.imp fun h => h.2)
  refine ⟨hwired.mDevice_ne hhub hother hne, ?_⟩
  intro heq
  rw [← hsame] at heq
  exact hne (congrArg _ (List.inj_on_of_nodup_map hnamed hhub hother heq))

theorem SwapOk.turns (hok : m.SwapOk cinfo) :
    (handover cinfo).Apart (changing cinfo m.mDeviceHubs) :=
  hok.apart.sublist List.filter_sublist

theorem swapOk_of_populated (hwired : m.Wired)
    (hprimary : cinfo.countP (·.displayId = HWC_DISPLAY_PRIMARY) = 1) {m' : DeviceManager}
    (hswap : m.swap cinfo = .ok m') (hpop : Populated cinfo m') : m.SwapOk cinfo := by
  have hgiven : ∀ hub ∈ m.mDeviceHubs, Given cinfo hub :=
    fun hub hhub => given_of_populated hwired hprimary hswap hpop hhub
  obtain ⟨m₁, hswap₁, hhubs, hdevices⟩ := swap_eq hwired hprimary hgiven
  cases hswap.symm.trans hswap₁
  have hhub : ∀ hub ∈ m.mDeviceHubs,
      (m'.devices (named cinfo hub)).mDisplayEventListener = some hub.mDisplayId ∧
        (m'.devices (named cinfo hub)).mPowerMode = .ON ∧
        (hub.primaryDisplay = true →
          (m'.devices (named cinfo hub)).mVsyncEnabled = true) := by
    intro hub hhub
    have hmem : settle cinfo hub ∈ m'.mDeviceHubs := hhubs ▸ List.mem_map_of_mem hhub
    have h := (hpop _ hmem).2
    rwa [settle_mDevice, settle_mDisplayId, DeviceHub.primaryDisplay, settle_mDisplayId] at h
  refine ⟨hgiven, apart_of_listeners hwired fun hub hh => hdevices ▸ (hhub hub hh).1, ?_⟩
  intro hub hh hsame
  obtain ⟨hlistener, hrunning⟩ := hhub hub hh
  -- it still listens to the device it kept, so no other hub has released or taken it
  have huntouched := (handover cinfo).untouched_of_holder
    (hwired.not_mem_changing_ids hh hsame) (hdevices ▸ hlistener)
  rw [hdevices, (handover cinfo).run_of_untouched huntouched, hsame,
    hwired.devices_announced hprimary hgiven hh hsame] at hrunning
  exact hrunning

theorem SwapOk.populated (hok : m.SwapOk cinfo) (hwired : m.Wired)
    (hprimary : cinfo.countP (·.displayId = HWC_DISPLAY_PRIMARY) = 1) :
    ∃ m', m.swap cinfo = .ok m' ∧ Populated cinfo m' := by
  obtain ⟨m', hswap, hhubs, hdevices⟩ := swap_eq hwired hprimary hok.given
  refine ⟨m', hswap, ?_⟩
  intro hub' hhub'
  rw [hhubs] at hhub'
  obtain ⟨hub, hhub, rfl⟩ := List.mem_map.mp hhub'
  rw [settle_mDevice, settle_mDisplayId, DeviceHub.primaryDisplay, settle_mDisplayId]
  refine ⟨hok.given hub hhub, ?_⟩
  rw [hdevices]
  by_cases hsame : named cinfo hub = hub.mDevice
  · rw [hsame, (handover cinfo).run_of_untouched (hok.untouched hwired hhub hsame),
      hwired.devices_announced hprimary hok.given hhub hsame]
    exact ⟨hwired.listener hub hhub, hok.running hub hhub hsame⟩
  · have hnew : (handover cinfo).run (m.deviceChangedEventProcess cinfo).1.devices
        (changing cinfo m.mDeviceHubs) (named cinfo hub) = (handover cinfo).taken hub :=
      (handover cinfo).run_new hok.turns (mem_changing.mpr ⟨hhub, hsame⟩) _
    rw [hnew]
    exact ⟨rfl, rfl, id⟩

/-- When a new mapping is populated, every display is wired to its device exactly when the mapping
is one that the hubs can take over in their order. -/
theorem swap_populated_iff (m : DeviceManager) (cinfo : List ConnectedInfo) (hwired : m.Wired)
    (hprimary : cinfo.countP (·.displayId = HWC_DISPLAY_PRIMARY) = 1) :
    (∃ m', m.swap cinfo = .ok m' ∧ Populated cinfo m') ↔ m.SwapOk cinfo := by
  constructor
  · rintro ⟨m', hswap, hpop⟩
    exact swapOk_of_populated hwired hprimary hswap hpop
  · intro hok
    exact hok.populated hwired hprimary

def dual : DeviceManager where
  mLogicalDisplays := fun id => if id = 0 then some 0 else if id = 1 then some 1 else none
  mDeviceHubs := [DeviceHub.new 0 0, DeviceHub.new 1 1]
  mSwapPendingFlag := false
  devices := fun d =>
    { mPowerMode := .ON
      mVsyncEnabled := d == 0
      mDisplayEventListener := some d
      skipFrame := d != 0 }

theorem dual_wired : dual.Wired := by
  constructor <;> decide

/-- The primary display moves to a device that nobody had. -/
theorem swap_populated_iff_spare : ∃ m',
    dual.swap [⟨0, true, some 2, fun _ => rfl⟩] = .ok m' ∧
      Populated [⟨0, true, some 2, fun _ => rfl⟩] m' := by
  refine (swap_populated_iff dual _ dual_wired (by decide)).mpr ⟨?_, ?_, ?_⟩
  · intro hub hhub info hinfo _
    rw [List.mem_singleton] at hinfo
    simp only [dual, List.mem_cons, List.not_mem_nil, or_false] at hhub
    subst hinfo
    rcases hhub with rfl | rfl
    · rfl
    · contradiction
  · decide
  · decide

def primaryUnplugged : List ConnectedInfo :=
  [⟨0, true, some 1, fun _ => rfl⟩, ⟨1, false, some 0, nofun⟩]

/-- The hub of the external display silences the device that the primary one has just taken. -/
theorem unplugging_silences_primary :
    dual.Wired ∧ primaryUnplugged.countP (·.displayId = HWC_DISPLAY_PRIMARY) = 1 ∧
      ∃ m', dual.swap primaryUnplugged = .ok m' ∧
        (m'.devices 1).mDisplayEventListener = none ∧ (m'.devices 1).mVsyncEnabled = false ∧
        ¬ Populated primaryUnplugged m' := by
  refine ⟨dual_wired, by decide, _, rfl, rfl, rfl, ?_⟩
  intro hpop
  exact absurd (hpop _ List.mem_cons_self).2.1 (by decide)

end DeviceManager

end AwHal.Hwc
