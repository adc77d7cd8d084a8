import AwHal.Wireless.DeviceId
import AwHal.Wireless.HwInfoMerge

/-!
# The cached module

`get_wifi_hardware_info` stores the module that it detects in a property, and a later process reads
the bus type and the device id from there.  The names stand in front of them.
-/

namespace AwHal.Wireless

open AwHal.Lib

/-! ## The property -/

def PROPERTY_VALUE_MAX : Nat := 92

def printName : Option (List Char) → List Char
  | some name => name
  | none => "(null)".toList

def WifiHardwareInfo.printInfo (info : WifiHardwareInfo) : List Char :=
  printName info.vendor_name ++ ':' :: (printName info.module_name ++ ':' ::
    ('0' :: 'x' :: printHex info.bus_type ++ ':' :: ('0' :: 'x' :: printHexWidth 8 info.device_id)))

def WifiHardwareInfo.stored (info : WifiHardwareInfo) : List Char :=
  info.printInfo.take (PROPERTY_VALUE_MAX - 1)

def strchr (c : Char) (text : List Char) : Option (List Char) :=
  match text.dropWhile (· != c) with
  | [] => none
  | found => some found

/-- The bus type and the device id that are read from the property. -/
def storedDevice (info : List Char) : Option (Nat × Nat) := do
  let pinfo ← strchr ':' info
  let pinfo ← strchr ':' (pinfo.drop 1)
  let bus_type := strtoul0 (pinfo.drop 1)
  let pinfo ← strchr ':' (pinfo.drop 1)
  let device_id := strtoul0 (pinfo.drop 1)
  some (bus_type, device_id)

def hwinfo_default : WifiHardwareInfo where
  bus_type := 0x1
  device_id := 0xFFFFFFFF
  module_name := some "invalid".toList
  driver_name := some "invalid".toList
  driver_module_name := some "invalid".toList
  vendor_name := some "none".toList
  bt_support := 0

/-- The module, what the property is afterwards, and whether there was a detection. -/
structure HardwareInfo where
  wifiinfo : WifiHardwareInfo
  module_info : List Char
  detect : Bool
deriving DecidableEq, Repr

/-- What follows the label `detect`, with the module that the devices or the thread find. -/
def detectInfo (found : Option WifiHardwareInfo) : HardwareInfo :=
  match found with
  | none => ⟨hwinfo_default, [], true⟩
  | some wifiinfo => ⟨wifiinfo, wifiinfo.stored, true⟩

def get_wifi_hardware_info (table : Table) (module_info : List Char)
    (found : Option WifiHardwareInfo) : Option HardwareInfo :=
  if module_info = [] then some (detectInfo found)
  else
    match storedDevice module_info with
    | none => some (detectInfo found)
    | some (bus_type, device_id) => do
        match ← get_hardware_info_by_device_id table bus_type device_id with
        | some wifiinfo => some ⟨wifiinfo, module_info, false⟩
        | none => some (detectInfo found)

/-- An entry that is found by an event, or among the devices that are there. -/
def Detectable (table : Table) (info : WifiHardwareInfo) : Prop :=
  (∃ files, do_coldboot table files = some (some info)) ∨
    ∃ msg, parse_uevent table msg = some (some info)

/-- A process without a property detects and stores the module, and a later process has the same one
from the property, whatever a detection would find then. -/
def FoundAgain (table : Table) (info : WifiHardwareInfo) : Prop :=
  ∃ first, get_wifi_hardware_info table [] (some info) = some first ∧
    ∀ found, ∃ wifiinfo,
      get_wifi_hardware_info table first.module_info found =
        some ⟨wifiinfo, first.module_info, false⟩ ∧
      wifiinfo.bus_type = info.bus_type ∧ wifiinfo.device_id = info.device_id

/-- The text fits, or what is cut is a part of the id 0. -/
def WifiHardwareInfo.Bounded (info : WifiHardwareInfo) : Prop :=
  info.printInfo.length < PROPERTY_VALUE_MAX ∨
    info.device_id = 0 ∧
      (printName info.vendor_name).length + (printName info.module_name).length + 6 <
        PROPERTY_VALUE_MAX

/-- Pieces of the names stand where the numbers are read, and read like them. -/
def WifiHardwareInfo.NamesRead (info : WifiHardwareInfo) : Prop :=
  ∃ bus_type device_id, (info.stored.splitOn ':')[2]? = some bus_type ∧
    (info.stored.splitOn ':')[3]? = some device_id ∧
    strtoul0 bus_type = info.bus_type ∧ strtoul0 device_id = info.device_id

def WifiHardwareInfo.Plain (info : WifiHardwareInfo) : Prop :=
  ':' ∉ printName info.vendor_name ∧ ':' ∉ printName info.module_name

instance (info : WifiHardwareInfo) : Decidable info.Plain := inferInstanceAs (Decidable (_ ∧ _))

/-! ## Reading the pieces -/

theorem stops_colon : Stops ':' := ⟨by decide, by decide, by decide⟩

theorem strchr_of_notMem {c : Char} {text : List Char} (h : c ∉ text) : strchr c text = none := by
  have hall : text.dropWhile (· != c) = [] := by
    rw [List.dropWhile_eq_nil_iff]
    rintro d hd
    rw [bne_iff_ne]
    rintro rfl
    exact h hd
  rw [strchr, hall]

theorem strchr_append {c : Char} {text : List Char} (h : c ∉ text) (rest : List Char) :
    strchr c (text ++ c :: rest) = some (c :: rest) := by
  have hall : ∀ d ∈ text, (d != c) = true := by
    intro d hd
    rw [bne_iff_ne]
    rintro rfl
    exact h hd
  rw [strchr, List.dropWhile_append_of_pos hall, List.dropWhile_cons_of_neg (by simp)]

theorem colon_cases (text : List Char) :
    ':' ∉ text ∨ ∃ piece rest, ':' ∉ piece ∧ text = piece ++ ':' :: rest := by
  by_cases h : ':' ∈ text
  · obtain ⟨piece, rest, rfl, hpiece⟩ := List.eq_append_cons_of_mem h
    exact Or.inr ⟨piece, rest, hpiece, rfl⟩
  · exact Or.inl h

/-- A number is read from a piece. -/
theorem strtoul0_head (text : List Char) :
    some (strtoul0 text) = ((text.splitOn ':')[0]?).map strtoul0 := by
  rcases colon_cases text with h | ⟨piece, rest, hpiece, rfl⟩
  · rw [List.splitOn_eq_singleton h]
    rfl
  · rw [List.splitOn_append_cons_self_of_not_mem hpiece,
      strtoul0_append_stop stops_colon (by decide)]
    rfl

theorem storedDevice_eq (info : List Char) :
    storedDevice info = (info.splitOn ':')[2]?.bind fun bus_type ↦
      (info.splitOn ':')[3]?.map fun device_id ↦ (strtoul0 bus_type, strtoul0 device_id) := by
  rcases colon_cases info with h | ⟨vendor, rest, hvendor, rfl⟩
  · simp [storedDevice, strchr_of_notMem h, List.splitOn_eq_singleton h]
  rw [List.splitOn_append_cons_self_of_not_mem hvendor]
  rcases colon_cases rest with h | ⟨name, rest, hname, rfl⟩
  · simp [storedDevice, strchr_append hvendor, strchr_of_notMem h, List.splitOn_eq_singleton h]
  rw [List.splitOn_append_cons_self_of_not_mem hname]
  rcases colon_cases rest with h | ⟨bus, rest, hbus, rfl⟩
  · simp [storedDevice, strchr_append hvendor, strchr_append hname, strchr_of_notMem h,
      List.splitOn_eq_singleton h]
  have hhead := strtoul0_head rest
  have hvalue := strtoul0_append_stop stops_colon (by decide) bus rest
  rw [List.splitOn_append_cons_self_of_not_mem hbus]
  cases hpiece : (rest.splitOn ':')[0]? with
  | none =>
      rw [hpiece] at hhead
      cases hhead
  | some piece =>
      rw [hpiece, Option.map_some, Option.some_inj] at hhead
      simp [storedDevice, strchr_append hvendor, strchr_append hname, strchr_append hbus, hpiece,
        hhead, hvalue]

/-! ## What is detected -/

theorem strtoul16_le (text : List Char) : strtoul16 text ≤ ULONG_MAX := by
  unfold strtoul16
  dsimp only
  split
  · exact Nat.le_refl _
  · rename_i hle
    split
    · have hlt := Nat.mod_lt (2 ^ 64 - hexDigits 0 (dropHexMark
        (splitSign (text.dropWhile isSpace)).2)) (by decide : 0 < 2 ^ 64)
      unfold ULONG_MAX
      omega
    · omega

theorem search_holds {h : Heap WifiHardwareInfo} {P : WifiHardwareInfo → Bool} {fuel : Nat}
    {p : Option Nat} {a : Nat} (hsearch : h.search P fuel p = some (some a)) :
    ∃ n, h.node a = some n ∧ P n.item = true := by
  induction fuel generalizing p with
  | zero => cases p <;> cases hsearch
  | succ fuel ih =>
      cases p with
      | none => cases hsearch
      | some b =>
          rw [Heap.search, Option.bind_eq_bind, Option.bind_eq_some_iff] at hsearch
          obtain ⟨n, hnode, hsearch⟩ := hsearch
          split at hsearch
          · rename_i hP
            cases hsearch
            exact ⟨n, hnode, hP⟩
          · exact ih hsearch

theorem eq_of_get_hardware_info {table : Table} {bus_type device_id : Nat} {info : WifiHardwareInfo}
    (h : get_hardware_info_by_device_id table bus_type device_id = some (some info)) :
    info.bus_type = bus_type ∧ info.device_id = device_id := by
  rw [get_hardware_info_by_device_id, Option.bind_eq_bind, Option.bind_eq_some_iff] at h
  obtain ⟨cur, hsearch, hcur⟩ := h
  cases cur with
  | none => cases hcur
  | some a =>
      obtain ⟨n, hnode, hP⟩ := search_holds hsearch
      dsimp only at hcur
      rw [hnode] at hcur
      cases hcur
      simpa using hP

structure IsDevice (bus_type device_id : Nat) : Prop where
  bus_type_le : bus_type ≤ 1
  device_id_le : device_id ≤ ULONG_MAX

theorem isDevice_of_busdevId {delim : Char} {text : List Char} {bus_type : Nat} {d : Nat × Nat}
    (hbus : bus_type ≤ 1) (h : (busdevId delim text).map (bus_type, ·) = some d) :
    IsDevice d.1 d.2 := by
  obtain ⟨id, hid, rfl⟩ := Option.map_eq_some_iff.mp h
  refine ⟨hbus, ?_⟩
  rw [busdevId, Option.bind_eq_bind, Option.bind_eq_some_iff] at hid
  obtain ⟨first, -, hid⟩ := hid
  dsimp only at hid
  rw [Option.bind_eq_some_iff] at hid
  obtain ⟨second, -, hid⟩ := hid
  cases hid
  exact strtoul16_le _

theorem isDevice_of_uevent {msg : List (List Char)} {d : Nat × Nat}
    (h : uevent_device msg = some (some d)) : IsDevice d.1 d.2 := by
  unfold uevent_device at h
  dsimp only at h
  split at h
  · cases h
  · split at h
    · exact isDevice_of_busdevId (by decide) (Option.some.inj h)
    · split at h
      · exact isDevice_of_busdevId (by decide) (Option.some.inj h)
      · cases h

theorem isDevice_of_scan {text : List Char} {d : Nat × Nat} (h : scanDevice text = some d) :
    IsDevice d.1 d.2 := by
  induction text with
  | nil => cases h
  | cons c text ih =>
      rw [scanDevice] at h
      split at h
      · exact isDevice_of_busdevId (by decide) h
      · split at h
        · exact isDevice_of_busdevId (by decide) h
        · exact ih h

theorem isDevice_of_do_coldboot {table : Table} {files : List (List Char)} {info : WifiHardwareInfo}
    (h : do_coldboot table files = some (some info)) :
    IsDevice info.bus_type info.device_id ∧
      get_hardware_info_by_device_id table info.bus_type info.device_id = some (some info) := by
  induction files with
  | nil => cases h
  | cons file files ih =>
      rw [do_coldboot] at h
      cases hdevice : coldboot_device file with
      | none =>
          rw [hdevice] at h
          exact ih h
      | some d =>
          rw [hdevice] at h
          dsimp only at h
          rw [Option.bind_eq_bind, Option.bind_eq_some_iff] at h
          obtain ⟨found, hfound, h⟩ := h
          cases found with
          | none => exact ih h
          | some info' =>
              cases h
              obtain ⟨hbus, hid⟩ := eq_of_get_hardware_info hfound
              rw [hbus, hid]
              exact ⟨isDevice_of_scan hdevice, hfound⟩

/-- A detected entry has a bus type and an id of an event, and is the one that is looked up by them. -/
theorem Detectable.lookup {table : Table} {info : WifiHardwareInfo} (h : Detectable table info) :
    IsDevice info.bus_type info.device_id ∧
      get_hardware_info_by_device_id table info.bus_type info.device_id = some (some info) := by
  rcases h with ⟨files, hfiles⟩ | ⟨msg, hmsg⟩
  · exact isDevice_of_do_coldboot hfiles
  · rw [parse_uevent, Option.bind_eq_bind, Option.bind_eq_some_iff] at hmsg
    obtain ⟨d, hdevice, hmsg⟩ := hmsg
    cases d with
    | none => cases hmsg
    | some d =>
        obtain ⟨hbus, hid⟩ := eq_of_get_hardware_info hmsg
        rw [hbus, hid]
        exact ⟨isDevice_of_uevent hdevice, hmsg⟩

/-! ## What is read back -/

theorem foundAgain_iff_stored {table : Table} {info : WifiHardwareInfo} (h : Detectable table info) :
    FoundAgain table info ↔ storedDevice info.stored = some (info.bus_type, info.device_id) := by
  have hfirst : get_wifi_hardware_info table [] (some info) = some ⟨info, info.stored, true⟩ := rfl
  constructor
  · rintro ⟨first, heq, hagain⟩
    rw [hfirst] at heq
    cases heq
    obtain ⟨wifiinfo, hlater, hbus, hid⟩ := hagain none
    have hnot : some (detectInfo none) ≠ some ⟨wifiinfo, info.stored, false⟩ := by
      intro hsame
      have hdetect : true = false := congrArg HardwareInfo.detect (Option.some.inj hsame)
      cases hdetect
    rw [get_wifi_hardware_info] at hlater
    split at hlater
    · exact absurd hlater hnot
    · cases hstored : storedDevice info.stored with
      | none =>
          rw [hstored] at hlater
          exact absurd hlater hnot
      | some d =>
          rw [hstored] at hlater
          dsimp only at hlater
          rw [Option.bind_eq_bind, Option.bind_eq_some_iff] at hlater
          obtain ⟨found, hfound, hlater⟩ := hlater
          cases found with
          | none => exact absurd hlater hnot
          | some info' =>
              have hsame : info' = wifiinfo :=
                congrArg HardwareInfo.wifiinfo (Option.some.inj hlater)
              obtain ⟨hbus', hid'⟩ := eq_of_get_hardware_info hfound
              rw [← hbus, ← hid, ← hsame, hbus', hid']
  · intro hstored
    refine ⟨_, hfirst, fun found ↦ ⟨info, ?_, rfl, rfl⟩⟩
    have hne : info.stored ≠ [] := by
      intro hnil
      rw [hnil] at hstored
      cases hstored
    rw [get_wifi_hardware_info, if_neg hne, hstored]
    dsimp only
    rw [h.lookup.2]
    rfl

/-- What `strtoul` makes of the first characters of `0x` and the digits of `n`. -/
theorem strtoul0_take_hexMark {text : List Char} (h : IsHexText text) (hlength : text.length ≤ 16)
    (k : Nat) : strtoul0 (('0' :: 'x' :: text).take k) =
      if k ≤ 2 then 0 else hexDigits 0 text / 16 ^ (text.length - (k - 2)) := by
  match k with
  | 0 => rfl
  | 1 => rfl
  | 2 => rfl
  | k + 3 =>
      rw [if_neg (by omega), List.take_succ_cons, List.take_succ_cons,
        show k + 3 - 2 = k + 1 from rfl, ← hexDigits_take h]
      by_cases hne : text.take (k + 1) = []
      · rw [hne]
        rfl
      · have hle : (text.take (k + 1)).length ≤ text.length := List.length_take_le' _ _
        rw [strtoul0_hexMark (h.take _) hne (hle.trans hlength)]

/-- The digits of a number other than 0 are all needed. -/
theorem strtoul0_take_eq_iff {text : List Char} (h : IsHexText text) (hlength : text.length ≤ 16)
    (k : Nat) : strtoul0 (('0' :: 'x' :: text).take k) = hexDigits 0 text ↔
      text.length + 2 ≤ k ∨ hexDigits 0 text = 0 := by
  rw [strtoul0_take_hexMark h hlength]
  have hlt := hexDigits_lt h
  split
  · rename_i hk
    constructor
    · intro hzero
      exact Or.inr hzero.symm
    · rintro (hle | hzero)
      · have hnil : text.length = 0 := by omega
        rw [hnil] at hlt
        omega
      · exact hzero.symm
  · constructor
    · intro heq
      by_contra hnot
      obtain ⟨hcut, hne⟩ := not_or.mp hnot
      have hpow : 1 < 16 ^ (text.length - (k - 2)) := Nat.one_lt_pow (by omega) (by decide)
      have hless := Nat.div_lt_self (Nat.pos_of_ne_zero hne) hpow
      omega
    · rintro (hle | hzero)
      · rw [Nat.sub_eq_zero_of_le (by omega), Nat.pow_zero, Nat.div_one]
      · rw [hzero, Nat.zero_div]

/-- With fewer than three colons there is no id. -/
theorem storedDevice_eq_none {text : List Char} (h : text.count ':' < 3) :
    storedDevice text = none := by
  rcases colon_cases text with hnot | ⟨vendor, rest, hvendor, rfl⟩
  · simp [storedDevice, strchr_of_notMem hnot]
  rcases colon_cases rest with hnot | ⟨name, rest, hname, rfl⟩
  · simp [storedDevice, strchr_append hvendor, strchr_of_notMem hnot]
  rcases colon_cases rest with hnot | ⟨bus, rest, hbus, rfl⟩
  · simp [storedDevice, strchr_append hvendor, strchr_append hname, strchr_of_notMem hnot]
  · simp only [List.count_append, List.count_cons_self] at h
    omega

theorem not_mem_hexMark {c : Char} {text : List Char} (h : IsHexText text) (hc : hexValue c = none)
    (hx : c ≠ 'x') : c ∉ '0' :: 'x' :: text := by
  intro hmem
  rcases List.mem_cons.mp hmem with rfl | hmem
  · exact absurd hc (by decide)
  · rcases List.mem_cons.mp hmem with rfl | hmem
    · exact hx rfl
    · exact h.notMem hc hmem

section Plain

variable {info : WifiHardwareInfo} (hdevice : IsDevice info.bus_type info.device_id)

include hdevice

theorem length_bus_type : (printHex info.bus_type).length = 1 := by
  have hle := length_printHex_le (e := 1) (by decide)
    (hdevice.bus_type_le.trans_lt (by decide))
  have hpos : 0 < (printHex info.bus_type).length := List.length_pos_iff.mpr Nat.toDigits_ne_nil
  omega

theorem length_device_id : (printHexWidth 8 info.device_id).length ≤ 16 := by
  have hle := length_printHex_le (e := 16) (by decide)
    (hdevice.device_id_le.trans_lt (by decide))
  rw [length_printHexWidth]
  omega

/-- With plain names the numbers are read where they were printed. -/
theorem storedDevice_iff_bounded (hplain : info.Plain) :
    storedDevice info.stored = some (info.bus_type, info.device_id) ↔ info.Bounded := by
  obtain ⟨hvendor, hname⟩ := hplain
  have hbuslen := length_bus_type hdevice
  have hidlen := length_device_id hdevice
  have hbus : ':' ∉ '0' :: 'x' :: printHex info.bus_type :=
    not_mem_hexMark (isHexText_printHex _) (by decide) (by decide)
  have hbusvalue : strtoul0 ('0' :: 'x' :: printHex info.bus_type) = info.bus_type := by
    rw [strtoul0_hexMark (isHexText_printHex _) Nat.toDigits_ne_nil (by omega),
      hexDigits_printHex]
  have hid := strtoul0_take_eq_iff (isHexText_printHexWidth 8 info.device_id) hidlen
  rw [hexDigits_printHexWidth] at hid
  have hlength : info.printInfo.length = (printName info.vendor_name).length +
      (printName info.module_name).length + 8 + (printHexWidth 8 info.device_id).length := by
    simp only [WifiHardwareInfo.printInfo, List.length_append, List.length_cons, hbuslen]
    omega
  unfold WifiHardwareInfo.Bounded
  rw [hlength]
  by_cases hcut : (printName info.vendor_name).length + (printName info.module_name).length + 6 <
      PROPERTY_VALUE_MAX
  · -- the third colon is stored
    obtain ⟨k, hk⟩ : ∃ k, PROPERTY_VALUE_MAX - 1 = (printName info.vendor_name).length +
        (printName info.module_name).length + 6 + k := Nat.exists_eq_add_of_le (by omega)
    have hstored : info.stored = printName info.vendor_name ++ ':' ::
        (printName info.module_name ++ ':' :: ('0' :: 'x' :: printHex info.bus_type ++ ':' ::
          ('0' :: 'x' :: printHexWidth 8 info.device_id).take k)) := by
      have hfront : (printName info.vendor_name ++ ':' :: (printName info.module_name ++ ':' ::
          ('0' :: 'x' :: printHex info.bus_type ++ [':']))).length =
            (printName info.vendor_name).length + (printName info.module_name).length + 6 := by
        simp only [List.length_append, List.length_cons, List.length_nil, hbuslen]
        omega
      have hsplit : info.printInfo = (printName info.vendor_name ++ ':' ::
          (printName info.module_name ++ ':' :: ('0' :: 'x' :: printHex info.bus_type ++ [':']))) ++
            ('0' :: 'x' :: printHexWidth 8 info.device_id) := by
        simp [WifiHardwareInfo.printInfo]
      rw [WifiHardwareInfo.stored, hk, hsplit, ← hfront, List.take_length_add_append]
      simp
    have hread : storedDevice info.stored = some (info.bus_type,
        strtoul0 (('0' :: 'x' :: printHexWidth 8 info.device_id).take k)) := by
      have hhead := strtoul0_append_stop stops_colon (by decide)
        ('0' :: 'x' :: printHex info.bus_type)
        (('0' :: 'x' :: printHexWidth 8 info.device_id).take k)
      rw [hbusvalue] at hhead
      simp only [storedDevice, hstored, strchr_append hvendor, Option.bind_eq_bind,
        Option.bind_some, List.drop_one, List.tail_cons, strchr_append hname, hhead,
        strchr_append hbus]
    rw [hread, Option.some_inj, Prod.mk.injEq, hid]
    constructor
    · rintro ⟨-, hle | hzero⟩
      · exact Or.inl (by omega)
      · exact Or.inr ⟨hzero, hcut⟩
    · rintro (hle | ⟨hzero, -⟩)
      · exact ⟨rfl, Or.inl (by omega)⟩
      · exact ⟨rfl, Or.inr hzero⟩
  · -- it is cut
    have hcount : info.stored.count ':' < 3 := by
      have hsplit : info.printInfo = (printName info.vendor_name ++ ':' ::
          (printName info.module_name ++ ':' :: '0' :: 'x' :: printHex info.bus_type)) ++
            ':' :: ('0' :: 'x' :: printHexWidth 8 info.device_id) := by
        simp [WifiHardwareInfo.printInfo]
      have hle : PROPERTY_VALUE_MAX - 1 ≤ (printName info.vendor_name ++ ':' ::
          (printName info.module_name ++ ':' :: '0' :: 'x' :: printHex info.bus_type)).length := by
        simp only [List.length_append, List.length_cons, hbuslen]
        omega
      rw [WifiHardwareInfo.stored, hsplit, List.take_append_of_le_length hle]
      refine (List.Sublist.count_le ':' (List.take_sublist _ _)).trans_lt ?_
      rw [List.count_append, List.count_cons_self, List.count_append, List.count_cons_self,
        List.count_eq_zero.mpr hvendor, List.count_eq_zero.mpr hname, List.count_eq_zero.mpr hbus]
      decide
    rw [storedDevice_eq_none hcount]
    constructor
    · intro hnone
      cases hnone
    · rintro (hle | ⟨-, hle⟩) <;> omega

end Plain

/-- With a colon in a name the pieces of the names are in the way. -/
theorem storedDevice_iff_namesRead (info : WifiHardwareInfo) :
    storedDevice info.stored = some (info.bus_type, info.device_id) ↔ info.NamesRead := by
  rw [storedDevice_eq, Option.bind_eq_some_iff, WifiHardwareInfo.NamesRead]
  constructor
  · rintro ⟨bus_type, hbus, heq⟩
    obtain ⟨device_id, hid, heq⟩ := Option.map_eq_some_iff.mp heq
    rw [Prod.mk.injEq] at heq
    exact ⟨bus_type, device_id, hbus, hid, heq.1, heq.2⟩
  · rintro ⟨bus_type, device_id, hbus, hid, hbusvalue, hidvalue⟩
    refine ⟨bus_type, hbus, ?_⟩
    rw [hid, Option.map_some, hbusvalue, hidvalue]

/-- A detected module is found again from the property iff neither name has a colon and the text fits
(or only a part of the id 0 is cut), or pieces of the names read like the bus type and the id. -/
theorem foundAgain_iff (table : Table) {info : WifiHardwareInfo} (h : Detectable table info) :
    FoundAgain table info ↔ if info.Plain then info.Bounded else info.NamesRead := by
  rw [foundAgain_iff_stored h]
  split
  · rename_i hplain
    exact storedDevice_iff_bounded h.lookup.1 hplain
  · exact storedDevice_iff_namesRead info

theorem detectable_of_find? (vq0 : Bool) {file : Option (List Char)}
    (hread : readable false (fileLines file) = true) (info : WifiHardwareInfo)
    (msg : List (List Char))
    (hmsg : uevent_device msg = some (some (info.bus_type, info.device_id)))
    (hfind : (lastOfEach (sequence vq0 file)).find? (Matches info.bus_type info.device_id) =
      some info) :
    ∃ table, load_merged_config vq0 file = some table ∧ Detectable table info := by
  obtain ⟨heap, head, l, hload, hlist, hitems⟩ := load_merged_config_of_readable vq0 hread
  refine ⟨(heap, head), hload, Or.inr ⟨msg, ?_⟩⟩
  rw [parse_uevent, hmsg]
  dsimp only [Option.bind_eq_bind, Option.bind_some]
  rw [get_hardware_info_by_device_id_eq hlist, hitems, hfind]

def rtl8189es : WifiHardwareInfo :=
  wifi 0x1 0x024c8179 "rtl8189es" "8189es" "8189es" "realtek" 0

theorem foundAgain_iff_rtl8189es :
    ∃ table, load_merged_config false none = some table ∧ FoundAgain table rtl8189es := by
  have hread : readable false (fileLines none) = true := rfl
  obtain ⟨table, hload, hdetect⟩ := detectable_of_find? false hread rtl8189es
    ["SUBSYSTEM=sdio".toList, "SDIO_ID=024C:8179".toList] (by decide) (by decide +kernel)
  refine ⟨table, hload, (foundAgain_iff table hdetect).mpr ?_⟩
  rw [if_pos (by decide)]
  exact Or.inl (by decide)

def colonFile : Option (List Char) :=
  some ("[module]\nbus_type = 0x1\ndevice_id = 0x024c8179\n".toList ++
    "module_name = es:2\nvendor_name = realtek\n".toList)

def colonEntry : WifiHardwareInfo :=
  { WifiHardwareInfo.zero with
    bus_type := 0x1
    device_id := 0x024c8179
    module_name := some "es:2".toList
    vendor_name := some "realtek".toList }

/-- The end of the name is read as the bus type, and the bus type as the id. -/
theorem colon_in_name_not_found :
    ∃ table, load_merged_config false colonFile = some table ∧ Detectable table colonEntry ∧
      storedDevice colonEntry.stored = some (2, 1) ∧ ¬ FoundAgain table colonEntry := by
  have hread : readable false (fileLines colonFile) = true := by decide +kernel
  obtain ⟨table, hload, hdetect⟩ := detectable_of_find? false hread colonEntry
    ["SUBSYSTEM=sdio".toList, "SDIO_ID=024C:8179".toList] (by decide) (by decide +kernel)
  have hstored : storedDevice colonEntry.stored = some (2, 1) := by decide +kernel
  refine ⟨table, hload, hdetect, hstored, fun h ↦ ?_⟩
  rw [foundAgain_iff_stored hdetect, hstored] at h
  revert h
  decide

end AwHal.Wireless
