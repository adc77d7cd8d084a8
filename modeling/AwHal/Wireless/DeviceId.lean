import AwHal.Wireless.HwInfo

/-!
# The device of an event

A module is found in the kernel's messages about new devices, or in the `uevent` files of those that
are there already.  Both name a device of the SDIO bus by `SDIO_ID=` and one of the USB bus by
`PRODUCT=`.  `parse_uevent` and `do_coldboot` put the two numbers together as texts and convert the
result.
-/

namespace AwHal.Wireless

open AwHal.Lib

/-! ## The two readers -/

def UEVENT_MSG_LEN : Nat := 1024

def SUBSYSTEM : List Char := "SUBSYSTEM=".toList

def SDIO_ID : List Char := "SDIO_ID=".toList

def PRODUCT : List Char := "PRODUCT=".toList

def strtok (delim : Char) (text : List Char) : Option (List Char × List Char) :=
  match text.dropWhile (· == delim) with
  | [] => none
  | c :: rest =>
      some ((c :: rest).takeWhile (· != delim), ((c :: rest).dropWhile (· != delim)).drop 1)

/-- The device id of the first nine characters. -/
def busdevId (delim : Char) (text : List Char) : Option Nat := do
  let uevent_id := text.take 9
  let (first, rest) ← strtok delim uevent_id
  let (second, _) ← strtok delim rest
  some (strtoul16 (first ++ second))

/-- What `parse_uevent` keeps of a message. -/
structure Uevent where
  subsystem : Option (List Char) := none
  uevent_id : List Char := []
deriving DecidableEq, Repr

def Uevent.string (e : Uevent) (msg : List Char) : Uevent :=
  if SUBSYSTEM <+: msg then { e with subsystem := some (msg.drop 10) }
  else if SDIO_ID <+: msg then { e with uevent_id := (msg.drop 8).take 9 }
  else if PRODUCT <+: msg then { e with uevent_id := (msg.drop 8).take 9 }
  else e

/-- The bus type and the device id.  `msg` is the strings of the message; an empty one ends it. -/
def uevent_device (msg : List (List Char)) : Option (Option (Nat × Nat)) :=
  let e := (msg.takeWhile (· ≠ [])).foldl Uevent.string {}
  match e.subsystem with
  | none => none
  | some subsystem =>
      if "sdio".toList <+: subsystem then some ((busdevId ':' e.uevent_id).map (1, ·))
      else if "usb".toList <+: subsystem then some ((busdevId '/' e.uevent_id).map (0, ·))
      else some none

def parse_uevent (table : Table) (msg : List (List Char)) : Option (Option WifiHardwareInfo) := do
  match ← uevent_device msg with
  | none => some none
  | some (bus_type, device_id) => get_hardware_info_by_device_id table bus_type device_id

/-- The loop of `do_coldboot` over the text that was read. -/
def scanDevice : List Char → Option (Nat × Nat)
  | [] => none
  | c :: buf =>
      if SDIO_ID <+: c :: buf then (busdevId ':' ((c :: buf).drop 8)).map (1, ·)
      else if PRODUCT <+: c :: buf then (busdevId '/' ((c :: buf).drop 8)).map (0, ·)
      else scanDevice buf

/-- The bus type and the device id of a `uevent` file. -/
def coldboot_device (file : List Char) : Option (Nat × Nat) :=
  scanDevice ((file.take UEVENT_MSG_LEN).takeWhile (· != '\x00'))

/-- The `uevent` files of the devices of a bus, one after the other. -/
def do_coldboot (table : Table) : List (List Char) → Option (Option WifiHardwareInfo)
  | [] => some none
  | file :: files => do
      let found ← match coldboot_device file with
        | none => some none
        | some (bus_type, device_id) => get_hardware_info_by_device_id table bus_type device_id
      match found with
      | some info => some (some info)
      | none => do_coldboot table files

/-! ## What the kernel writes -/

inductive Bus where
  | usb
  | sdio
deriving DecidableEq, Repr

def Bus.type : Bus → Nat
  | .usb => 0
  | .sdio => 1

def Bus.mark : Bus → List Char
  | .usb => PRODUCT
  | .sdio => SDIO_ID

def Bus.name : Bus → List Char
  | .usb => "usb".toList
  | .sdio => "sdio".toList

def Bus.delim : Bus → Char
  | .usb => '/'
  | .sdio => ':'

def Bus.number (bus : Bus) (n : Nat) : List Char :=
  match bus with
  | .usb => printHex n
  | .sdio => printHex4 n

/-- A USB device has its release number behind the other two. -/
def Bus.behind (bus : Bus) (bcdDevice : Nat) : List Char :=
  match bus with
  | .usb => '/' :: printHex bcdDevice
  | .sdio => []

def Bus.deviceText (bus : Bus) (vendor product bcdDevice : Nat) : List Char :=
  bus.mark ++
    (bus.number vendor ++ bus.delim :: (bus.number product ++ bus.behind bcdDevice))

/-- A message about a device: its text is one of the strings, no other one is such a text, and the
last subsystem is that of the bus. -/
structure IsMessage (bus : Bus) (text : List Char) (msg : List (List Char)) : Prop where
  strings : ∀ s ∈ msg, s ≠ []
  text_mem : text ∈ msg
  single : ∀ s ∈ msg, SDIO_ID <+: s ∨ PRODUCT <+: s → s = text
  subsystem : ∃ before after, msg = before ++ (SUBSYSTEM ++ bus.name) :: after ∧
    ∀ s ∈ after, ¬ SUBSYSTEM <+: s

/-- A `uevent` file of a device, with the text behind `before`: nothing in front of it looks like the
text of a device. -/
structure IsUeventFile (text : List Char) (before after : List Char) : Prop where
  zero : '\x00' ∉ before
  first : ∀ i < before.length,
    ¬ SDIO_ID <+: (before ++ (text ++ after)).drop i ∧
      ¬ PRODUCT <+: (before ++ (text ++ after)).drop i
  -- a line ends behind the text
  line : after = [] ∨ after.head? = some '\n'

/-- The numbers put together as texts are the device id: those of the SDIO bus have four digits each,
the product of a USB device may have fewer. -/
def Bus.Decodes (bus : Bus) (vendor product : Nat) : Prop :=
  bus = .sdio ∨ vendor = 0 ∨ 0x1000 ≤ product

/-- The part of the file that is read has all digits of the product, or enough zeros. -/
def Bus.InWindow (bus : Bus) (offset vendor product : Nat) : Prop :=
  offset + 8 + (bus.number vendor).length + 1 + (bus.number product).length ≤ UEVENT_MSG_LEN ∨
    bus = .sdio ∧ vendor = 0 ∧ product = 0 ∧ offset + 8 + 6 ≤ UEVENT_MSG_LEN

/-- Both readers find the device. -/
def Detected (bus : Bus) (vendor product : Nat) (msg : List (List Char)) (file : List Char) : Prop :=
  uevent_device msg = some (some (bus.type, vendor * 65536 + product)) ∧
    coldboot_device file = some (bus.type, vendor * 65536 + product)

/-! ## Two numbers as texts -/

section Tokens

variable {delim : Char} (hdelim : hexValue delim = none)

include hdelim

theorem strtok_hex {text rest : List Char} (h : IsHexText text) (hne : text ≠ [])
    (hrest : rest = [] ∨ rest.head? = some delim) :
    strtok delim (text ++ rest) = some (text, rest.drop 1) := by
  have hall : ∀ c ∈ text, (c != delim) = true := by
    intro c hc
    rw [bne_iff_ne]
    rintro rfl
    exact h.notMem hdelim hc
  obtain ⟨c, text, rfl⟩ := List.exists_cons_of_ne_nil hne
  have hc := hall c List.mem_cons_self
  rw [bne_iff_ne] at hc
  have hstop : rest.takeWhile (· != delim) = [] ∧ rest.dropWhile (· != delim) = rest := by
    rcases hrest with rfl | hhead
    · exact ⟨rfl, rfl⟩
    · cases rest with
      | nil => cases hhead
      | cons d rest =>
          obtain rfl : d = delim := by simpa using hhead
          simp
  unfold strtok
  rw [List.cons_append, List.dropWhile_cons_of_neg (by simpa using hc)]
  change some (((c :: text) ++ rest).takeWhile (· != delim),
    (((c :: text) ++ rest).dropWhile (· != delim)).drop 1) = _
  rw [List.takeWhile_append_of_pos hall, List.dropWhile_append_of_pos hall, hstop.1, hstop.2,
    List.append_nil]

theorem busdevId_of_take {v p behind text : List Char} (hv : IsHexText v) (hp : IsHexText p)
    (hvne : v ≠ []) (hpne : p ≠ []) (hbehind : behind = [] ∨ behind.head? = some delim)
    (htext : text.take 9 = v ++ delim :: (p ++ behind)) :
    busdevId delim text = some (strtoul16 (v ++ p)) := by
  have hfirst : strtok delim (v ++ delim :: (p ++ behind)) = some (v, _) :=
    strtok_hex hdelim hv hvne (Or.inr rfl)
  have hsecond := strtok_hex hdelim hp hpne hbehind
  simp only [busdevId, htext, hfirst, List.drop_one, List.tail_cons, Option.bind_eq_bind,
    Option.bind_some, hsecond]

theorem busdevId_of_take_first {v text : List Char} (hv : IsHexText v) {k : Nat}
    (htext : text.take 9 = (v ++ [delim]).take k) : busdevId delim text = none := by
  obtain ⟨rest, hsplit, hrest⟩ : ∃ rest, (v ++ [delim]).take k = v.take k ++ rest ∧
      (rest = [] ∨ rest = [delim]) := by
    refine ⟨[delim].take (k - v.length), List.take_append, ?_⟩
    rcases Nat.eq_zero_or_pos (k - v.length) with hk | hk
    · exact Or.inl (by rw [hk]; rfl)
    · exact Or.inr (List.take_of_length_le hk)
  have hempty : strtok delim rest = none := by
    rcases hrest with rfl | rfl <;> simp [strtok]
  simp only [busdevId, htext, hsplit]
  by_cases hne : v.take k = []
  · simp [hne, hempty]
  · have hfirst : strtok delim (v.take k ++ rest) = some (v.take k, rest.drop 1) :=
      strtok_hex hdelim (hv.take k) hne (hrest.imp_right fun h ↦ by rw [h]; rfl)
    have hsecond : strtok delim (rest.drop 1) = none := by
      rcases hrest with rfl | rfl <;> simp [strtok]
    simp only [hfirst, hsecond, Option.bind_eq_bind, Option.bind_some, Option.bind_none]

end Tokens

/-! ## The numbers -/

structure Numbers (v p : List Char) (vendor product : Nat) : Prop where
  vendor_text : IsHexText v
  product_text : IsHexText p
  vendor_ne : v ≠ []
  product_ne : p ≠ []
  vendor_length : v.length ≤ 4
  product_length : p.length ≤ 4
  vendor_value : hexDigits 0 v = vendor
  product_value : hexDigits 0 p = product

namespace Numbers

variable {v p : List Char} {vendor product : Nat} (h : Numbers v p vendor product)

include h

/-- The value of the vendor's digits and the first digits of the product. -/
theorem strtoul16_take (k : Nat) :
    strtoul16 (v ++ p.take k) =
      vendor * 16 ^ min k p.length + product / 16 ^ (p.length - k) := by
  have hv := h.vendor_length
  have hp := h.product_length
  rw [strtoul16_of_isHexText (h.vendor_text.append (h.product_text.take k)) (by simp; omega),
    hexDigits_append h.vendor_text (h.product_text.take k), hexDigits_take h.product_text,
    h.vendor_value, h.product_value, List.length_take]

/-- All digits make the device id iff the product has four, or the vendor is 0. -/
theorem strtoul16_whole_iff :
    strtoul16 (v ++ p) = vendor * 65536 + product ↔ vendor = 0 ∨ p.length = 4 := by
  have hvalue := h.strtoul16_take p.length
  rw [List.take_length, Nat.min_self, Nat.sub_self, Nat.pow_zero, Nat.div_one] at hvalue
  rw [hvalue, Nat.add_right_cancel_iff]
  have hp := h.product_length
  have hpos : 0 < p.length := List.length_pos_iff.mpr h.product_ne
  constructor
  · intro heq
    rcases Nat.eq_zero_or_pos vendor with hzero | hv
    · exact Or.inl hzero
    · have hpow : 16 ^ p.length = 16 ^ 4 := Nat.eq_of_mul_eq_mul_left hv heq
      exact Or.inr (Nat.pow_right_injective (by decide : 2 ≤ 16) hpow)
  · rintro (rfl | hlength)
    · simp
    · simp [hlength]

/-- With fewer digits of the product the number is too small, but for 0. -/
theorem strtoul16_cut_iff {k : Nat} (hk : k < p.length) :
    strtoul16 (v ++ p.take k) = vendor * 65536 + product ↔ vendor = 0 ∧ product = 0 := by
  rw [h.strtoul16_take, Nat.min_eq_left hk.le]
  have hp := h.product_length
  have hdiv : product / 16 ^ (p.length - k) ≤ product := Nat.div_le_self _ _
  constructor
  · intro heq
    have hpow : 16 ^ k ≤ 16 ^ 3 := Nat.pow_le_pow_right (by decide) (by omega)
    have hmul : vendor * 16 ^ k ≤ vendor * 16 ^ 3 := Nat.mul_le_mul_left _ hpow
    have hvendor : vendor = 0 := by omega
    refine ⟨hvendor, ?_⟩
    subst hvendor
    by_contra hne
    have hlt : product / 16 ^ (p.length - k) < product :=
      Nat.div_lt_self (Nat.pos_of_ne_zero hne)
        (Nat.one_lt_pow (by omega) (by decide))
    omega
  · rintro ⟨rfl, rfl⟩
    simp

/-- What the first `m` characters of the two numbers make, with `behind` behind them. -/
theorem busdevId_iff {delim : Char} (hdelim : hexValue delim = none) {behind text : List Char}
    {m : Nat} (hm : m ≤ 9)
    (hbehind : behind = [] ∨ behind.head? = some delim ∨ v.length + 1 + p.length = 9)
    (htext : text.take 9 = (v ++ delim :: (p ++ behind)).take m) :
    busdevId delim text = some (vendor * 65536 + product) ↔
      (v.length + 1 + p.length ≤ m ∧ (vendor = 0 ∨ p.length = 4)) ∨
        (v.length + 1 < m ∧ m < v.length + 1 + p.length ∧ vendor = 0 ∧ product = 0) := by
  by_cases hfirst : m ≤ v.length + 1
  · -- no second token
    have hcut : text.take 9 = (v ++ [delim]).take m := by
      rw [htext, List.append_cons v delim, List.take_append_of_le_length (by simpa using hfirst)]
    have hpos := List.length_pos_iff.mpr h.product_ne
    rw [busdevId_of_take_first hdelim h.vendor_text hcut]
    constructor
    · intro hnone
      cases hnone
    · rintro (⟨hle, -⟩ | ⟨hlt, -⟩) <;> omega
  · have hrest : text.take 9 =
        v ++ delim :: (p.take (m - v.length - 1) ++ behind.take (m - v.length - 1 - p.length)) := by
      rw [htext, List.take_append, List.take_of_length_le (by omega : v.length ≤ m)]
      obtain ⟨k, hk⟩ : ∃ k, m - v.length = k + 1 := ⟨m - v.length - 1, by omega⟩
      rw [hk, List.take_succ_cons, List.take_append, Nat.add_sub_cancel]
    by_cases hsecond : m < v.length + 1 + p.length
    · -- the product is cut
      rw [Nat.sub_eq_zero_of_le (by omega : m - v.length - 1 ≤ p.length), List.take_zero] at hrest
      have hne : p.take (m - v.length - 1) ≠ [] := by
        rw [Ne, List.take_eq_nil_iff]
        rintro (hzero | hnil)
        · omega
        · exact h.product_ne hnil
      rw [busdevId_of_take hdelim h.vendor_text (h.product_text.take _) h.vendor_ne hne (Or.inl rfl)
        hrest, Option.some_inj, h.strtoul16_cut_iff (by omega)]
      constructor
      · intro hzero
        exact Or.inr ⟨by omega, hsecond, hzero⟩
      · rintro (⟨hle, -⟩ | ⟨-, -, hzero⟩)
        · omega
        · exact hzero
    · rw [List.take_of_length_le (by omega : p.length ≤ m - v.length - 1)] at hrest
      have hbehind' : behind.take (m - v.length - 1 - p.length) = [] ∨
          (behind.take (m - v.length - 1 - p.length)).head? = some delim := by
        rcases Nat.eq_zero_or_pos (m - v.length - 1 - p.length) with hzero | hpos
        · exact Or.inl (by rw [hzero, List.take_zero])
        · rcases hbehind with rfl | hhead | hnine
          · exact Or.inl List.take_nil
          · refine Or.inr ?_
            rw [List.head?_take, if_neg (by omega), hhead]
          · omega
      rw [busdevId_of_take hdelim h.vendor_text h.product_text h.vendor_ne h.product_ne hbehind' hrest,
        Option.some_inj, h.strtoul16_whole_iff]
      constructor
      · intro hvalue
        exact Or.inl ⟨by omega, hvalue⟩
      · rintro (⟨-, hvalue⟩ | ⟨-, hlt, -⟩)
        · exact hvalue
        · omega

end Numbers

theorem Bus.numbers (bus : Bus) {vendor product : Nat} (hv : vendor < 2 ^ 16)
    (hp : product < 2 ^ 16) :
    Numbers (bus.number vendor) (bus.number product) vendor product := by
  cases bus with
  | usb =>
      have hne : ∀ n, printHex n ≠ [] := fun n ↦ Nat.toDigits_ne_nil
      exact ⟨isHexText_printHex _, isHexText_printHex _, hne _, hne _,
        length_printHex_le (by decide) hv, length_printHex_le (by decide) hp,
        hexDigits_printHex _, hexDigits_printHex _⟩
  | sdio =>
      exact ⟨isHexText_printHex4 _, isHexText_printHex4 _, List.cons_ne_nil _ _,
        List.cons_ne_nil _ _, Nat.le_refl 4, Nat.le_refl 4, hexDigits_printHex4 hv,
        hexDigits_printHex4 hp⟩

/-- A USB product has four digits from 0x1000 on, one of the SDIO bus always. -/
theorem Bus.decodes_iff (bus : Bus) {vendor product : Nat} (hp : product < 2 ^ 16) :
    bus.Decodes vendor product ↔ vendor = 0 ∨ (bus.number product).length = 4 := by
  cases bus with
  | usb =>
      have hle : (printHex product).length ≤ 4 := length_printHex_le (by decide) hp
      have hlength : (printHex product).length = 4 ↔ 0x1000 ≤ product := by
        constructor
        · intro hfour
          by_contra hlt
          have := length_printHex_le (n := product) (e := 3) (by decide) (by omega)
          omega
        · intro hge
          have := lt_length_printHex (n := product) (e := 3) (by omega)
          omega
      simp [Bus.Decodes, Bus.number, hlength]
  | sdio => simp [Bus.Decodes, Bus.number, printHex4]

theorem Bus.hexValue_delim (bus : Bus) : hexValue bus.delim = none := by
  cases bus <;> decide

theorem Bus.length_mark (bus : Bus) : bus.mark.length = 8 := by
  cases bus <;> decide

/-! ## Messages -/

theorem string_subsystem (e : Uevent) (rest : List Char) :
    (e.string (SUBSYSTEM ++ rest)).subsystem = some rest := by
  have hmark : SUBSYSTEM <+: SUBSYSTEM ++ rest := List.prefix_append _ _
  rw [Uevent.string, if_pos hmark]
  rfl

theorem string_subsystem_of_not {e : Uevent} {s : List Char} (h : ¬ SUBSYSTEM <+: s) :
    (e.string s).subsystem = e.subsystem := by
  unfold Uevent.string
  rw [if_neg h]
  split
  · rfl
  · split <;> rfl

theorem foldl_subsystem_of_not {msg : List (List Char)} (h : ∀ s ∈ msg, ¬ SUBSYSTEM <+: s)
    (e : Uevent) : (msg.foldl Uevent.string e).subsystem = e.subsystem := by
  induction msg generalizing e with
  | nil => rfl
  | cons s msg ih =>
      rw [List.foldl_cons, ih fun t ht ↦ h t (List.mem_cons_of_mem _ ht)]
      exact string_subsystem_of_not (h s List.mem_cons_self)

/-- A string is a text of a device or leaves the id. -/
theorem string_uevent_id (e : Uevent) (s : List Char) :
    (e.string s).uevent_id = e.uevent_id ∨
      (SDIO_ID <+: s ∨ PRODUCT <+: s) ∧ (e.string s).uevent_id = (s.drop 8).take 9 := by
  unfold Uevent.string
  split
  · exact Or.inl rfl
  · split
    · rename_i hsdio
      exact Or.inr ⟨Or.inl hsdio, rfl⟩
    · split
      · rename_i hproduct
        exact Or.inr ⟨Or.inr hproduct, rfl⟩
      · exact Or.inl rfl

theorem not_prefix_of_take_ne {mark other : List Char} (hmark : 2 ≤ mark.length)
    (hother : 2 ≤ other.length) (h : mark.take 2 ≠ other.take 2) (rest : List Char) :
    ¬ mark <+: other ++ rest := by
  rintro ⟨t, ht⟩
  have htake : (mark ++ t).take 2 = (other ++ rest).take 2 := by rw [ht]
  rw [List.take_append_of_le_length hmark, List.take_append_of_le_length hother] at htake
  exact h htake

theorem Bus.not_subsystem (bus : Bus) (rest : List Char) : ¬ SUBSYSTEM <+: bus.mark ++ rest := by
  cases bus <;> exact not_prefix_of_take_ne (by decide) (by decide) (by decide) rest

theorem not_sdio_of_product (rest : List Char) : ¬ SDIO_ID <+: Bus.usb.mark ++ rest :=
  not_prefix_of_take_ne (by decide) (by decide) (by decide) rest

theorem string_deviceText (bus : Bus) (rest : List Char) (e : Uevent) :
    (e.string (bus.mark ++ rest)).uevent_id = rest.take 9 := by
  have hdrop : (bus.mark ++ rest).drop 8 = rest := List.drop_left' bus.length_mark
  unfold Uevent.string
  rw [if_neg (bus.not_subsystem rest), hdrop]
  cases bus with
  | usb =>
      have hmark : PRODUCT <+: Bus.usb.mark ++ rest := List.prefix_append _ _
      rw [if_neg (not_sdio_of_product rest), if_pos hmark]
  | sdio =>
      have hmark : SDIO_ID <+: Bus.sdio.mark ++ rest := List.prefix_append _ _
      rw [if_pos hmark]

theorem foldl_uevent_id {bus : Bus} {rest : List Char} {msg : List (List Char)}
    (hsingle : ∀ s ∈ msg, SDIO_ID <+: s ∨ PRODUCT <+: s → s = bus.mark ++ rest) (e : Uevent)
    (h : bus.mark ++ rest ∈ msg ∨ e.uevent_id = rest.take 9) :
    (msg.foldl Uevent.string e).uevent_id = rest.take 9 := by
  induction msg generalizing e with
  | nil => exact h.resolve_left List.not_mem_nil
  | cons s msg ih =>
      rw [List.foldl_cons]
      refine ih (fun t ht ↦ hsingle t (List.mem_cons_of_mem _ ht)) _ ?_
      rcases string_uevent_id e s with hkeep | ⟨hmark, -⟩
      · rcases h with hmem | hid
        · rcases List.mem_cons.mp hmem with rfl | hmem
          · exact Or.inr (string_deviceText bus rest e)
          · exact Or.inl hmem
        · exact Or.inr (hkeep.trans hid)
      · rw [hsingle s List.mem_cons_self hmark]
        exact Or.inr (string_deviceText bus rest e)

/-- A message is decoded from the text of its device. -/
theorem uevent_device_of_message {bus : Bus} {rest : List Char} {msg : List (List Char)}
    (h : IsMessage bus (bus.mark ++ rest) msg) :
    uevent_device msg = some ((busdevId bus.delim (rest.take 9)).map (bus.type, ·)) := by
  have hall : msg.takeWhile (· ≠ []) = msg :=
    List.takeWhile_eq_self_iff.mpr fun s hs ↦ by simpa using h.strings s hs
  have hid := foldl_uevent_id h.single {} (Or.inl h.text_mem)
  have hsub : (msg.foldl Uevent.string {}).subsystem = some bus.name := by
    obtain ⟨before, after, rfl, hafter⟩ := h.subsystem
    rw [List.foldl_append, List.foldl_cons, foldl_subsystem_of_not hafter, string_subsystem]
  unfold uevent_device
  rw [hall]
  simp only [hid, hsub]
  cases bus with
  | usb =>
      rw [if_neg (by decide), if_pos (by decide)]
      rfl
  | sdio =>
      rw [if_pos (by decide)]
      rfl

/-! ## Files -/

def Unmarked (text : List Char) : Prop := ¬ SDIO_ID <+: text ∧ ¬ PRODUCT <+: text

theorem scanDevice_skip {before rest : List Char}
    (h : ∀ i < before.length, Unmarked ((before ++ rest).drop i)) :
    scanDevice (before ++ rest) = scanDevice rest := by
  induction before with
  | nil => rfl
  | cons c before ih =>
      have hfirst := h 0 (by simp)
      rw [List.drop_zero, List.cons_append] at hfirst
      rw [List.cons_append, scanDevice, if_neg hfirst.1, if_neg hfirst.2]
      refine ih fun i hi ↦ ?_
      simpa using h (i + 1) (by simpa using hi)

theorem scanDevice_unmarked {text : List Char} (h : ∀ i < text.length, Unmarked (text.drop i)) :
    scanDevice text = none := by
  have hall : ∀ i < text.length, Unmarked ((text ++ []).drop i) := by
    simpa using h
  have hskip := scanDevice_skip hall
  rwa [List.append_nil] at hskip

theorem scanDevice_mark (bus : Bus) (rest : List Char) :
    scanDevice (bus.mark ++ rest) = (busdevId bus.delim rest).map (bus.type, ·) := by
  have hdrop : (bus.mark ++ rest).drop 8 = rest := List.drop_left' bus.length_mark
  have hcons : ∃ c text, bus.mark ++ rest = c :: text :=
    List.exists_cons_of_length_pos (by rw [List.length_append, bus.length_mark]; omega)
  obtain ⟨c, text, hcons⟩ := hcons
  rw [hcons] at hdrop
  rw [hcons, scanDevice, hdrop, ← hcons]
  cases bus with
  | usb =>
      have hmark : PRODUCT <+: Bus.usb.mark ++ rest := List.prefix_append _ _
      rw [if_neg (not_sdio_of_product rest), if_pos hmark]
      rfl
  | sdio =>
      have hmark : SDIO_ID <+: Bus.sdio.mark ++ rest := List.prefix_append _ _
      rw [if_pos hmark]
      rfl

theorem unmarked_of_prefix {buf file : List Char} (hbuf : buf <+: file) {i : Nat}
    (h : Unmarked (file.drop i)) : Unmarked (buf.drop i) := by
  have hdrop : buf.drop i <+: file.drop i := by
    obtain ⟨t, rfl⟩ := hbuf
    rw [List.drop_append]
    exact List.prefix_append _ _
  exact ⟨fun hmark ↦ h.1 (hmark.trans hdrop), fun hmark ↦ h.2 (hmark.trans hdrop)⟩

theorem unmarked_of_length {text : List Char} (h : text.length < 8) : Unmarked text := by
  constructor
  · intro hmark
    have := hmark.length_le
    rw [show SDIO_ID.length = 8 by decide] at this
    omega
  · intro hmark
    have := hmark.length_le
    rw [show PRODUCT.length = 8 by decide] at this
    omega

section File

variable {bus : Bus} {rest before after : List Char}

/-- A file is decoded from what was read behind the mark, if the mark was read whole. -/
theorem coldboot_device_of_file (h : IsUeventFile (bus.mark ++ rest) before after) :
    coldboot_device (before ++ (bus.mark ++ rest ++ after)) =
      if before.length + 8 ≤ UEVENT_MSG_LEN then
        (busdevId bus.delim (((rest ++ after).take
          (UEVENT_MSG_LEN - before.length - 8)).takeWhile (· != '\x00'))).map (bus.type, ·)
      else none := by
  have hprefix : ((before ++ (bus.mark ++ rest ++ after)).take UEVENT_MSG_LEN).takeWhile
      (· != '\x00') <+: before ++ (bus.mark ++ rest ++ after) :=
    (List.takeWhile_prefix _).trans (List.take_prefix _ _)
  have hbefore : ∀ c ∈ before, (c != '\x00') = true := by
    intro c hc
    rw [bne_iff_ne]
    rintro rfl
    exact h.zero hc
  have hmark : ∀ c ∈ bus.mark, (c != '\x00') = true := by
    apply List.all_eq_true.mp
    cases bus <;> decide
  have hlength := bus.length_mark
  unfold coldboot_device
  split
  · rename_i hread
    have hbuf : ((before ++ (bus.mark ++ rest ++ after)).take UEVENT_MSG_LEN).takeWhile
        (· != '\x00') = before ++ (bus.mark ++
          ((rest ++ after).take (UEVENT_MSG_LEN - before.length - 8)).takeWhile (· != '\x00')) := by
      rw [List.append_assoc bus.mark, List.take_append, List.take_append,
        List.take_of_length_le (by omega : before.length ≤ UEVENT_MSG_LEN),
        List.take_of_length_le (by omega : bus.mark.length ≤ UEVENT_MSG_LEN - before.length),
        hlength, List.takeWhile_append_of_pos hbefore, List.takeWhile_append_of_pos hmark]
    rw [hbuf] at hprefix ⊢
    rw [scanDevice_skip fun i hi ↦ unmarked_of_prefix hprefix (h.first i hi), scanDevice_mark]
  · rename_i hcut
    refine scanDevice_unmarked fun i hi ↦ ?_
    by_cases hi' : i < before.length
    · exact unmarked_of_prefix hprefix (h.first i hi')
    · refine unmarked_of_length ?_
      have hle := (List.takeWhile_prefix (· != '\x00')
        (l := (before ++ (bus.mark ++ rest ++ after)).take UEVENT_MSG_LEN)).length_le
      rw [List.length_drop]
      rw [List.length_take] at hle
      omega

/-- What is read behind the mark ends with the window or at a zero behind the text. -/
theorem take_read {rest : List Char} (after : List Char)
    (hrest : ∀ c ∈ rest, (c != '\x00') = true) (k : Nat) :
    ∃ x, ((rest ++ after).take k).takeWhile (· != '\x00') = (rest ++ x).take k := by
  refine ⟨(after.take (k - rest.length)).takeWhile (· != '\x00'), ?_⟩
  have hle := (List.takeWhile_prefix (l := after.take (k - rest.length)) (· != '\x00')).length_le
  rw [List.take_append, List.takeWhile_append_of_pos fun c hc ↦ hrest c (List.mem_of_mem_take hc),
    List.take_append, List.take_of_length_le (hle.trans (List.length_take_le _ _))]

end File

/-! ## Both readers -/

theorem ne_zero_of_isHexText {text : List Char} (h : IsHexText text) :
    ∀ c ∈ text, (c != '\x00') = true := by
  intro c hc
  rw [bne_iff_ne]
  rintro rfl
  exact h.notMem (by decide) hc

theorem Bus.numbers_ne_zero (bus : Bus) {vendor product : Nat} (bcdDevice : Nat)
    (hv : vendor < 2 ^ 16) (hp : product < 2 ^ 16) :
    ∀ c ∈ bus.number vendor ++ bus.delim :: (bus.number product ++ bus.behind bcdDevice),
      (c != '\x00') = true := by
  have h := bus.numbers hv hp
  intro c hc
  rcases List.mem_append.mp hc with hc | hc
  · exact ne_zero_of_isHexText h.vendor_text c hc
  · rcases List.mem_cons.mp hc with rfl | hc
    · cases bus <;> decide
    · rcases List.mem_append.mp hc with hc | hc
      · exact ne_zero_of_isHexText h.product_text c hc
      · cases bus with
        | usb =>
            rcases List.mem_cons.mp hc with rfl | hc
            · decide
            · exact ne_zero_of_isHexText (isHexText_printHex bcdDevice) c hc
        | sdio => cases hc

/-- Behind the product is the separator again, or the nine characters are full. -/
theorem Bus.behind_head (bus : Bus) (vendor product bcdDevice : Nat) (x : List Char) :
    bus.behind bcdDevice ++ x = [] ∨ (bus.behind bcdDevice ++ x).head? = some bus.delim ∨
      (bus.number vendor).length + 1 + (bus.number product).length = 9 := by
  cases bus with
  | usb => exact Or.inr (Or.inl rfl)
  | sdio => exact Or.inr (Or.inr rfl)

section Readers

variable (bus : Bus) {vendor product : Nat} (bcdDevice : Nat)

/-- `parse_uevent` has the whole text. -/
theorem busdevId_message_iff (hv : vendor < 2 ^ 16) (hp : product < 2 ^ 16) :
    busdevId bus.delim ((bus.number vendor ++ bus.delim ::
        (bus.number product ++ bus.behind bcdDevice)).take 9) = some (vendor * 65536 + product) ↔
      bus.Decodes vendor product := by
  have h := bus.numbers hv hp
  have hbehind := bus.behind_head vendor product bcdDevice []
  rw [List.append_nil] at hbehind
  rw [h.busdevId_iff bus.hexValue_delim (Nat.le_refl 9) hbehind (by rw [List.take_take]; rfl),
    bus.decodes_iff hp]
  have hvl := h.vendor_length
  have hpl := h.product_length
  constructor
  · rintro (⟨-, hdecodes⟩ | ⟨-, hcut, -⟩)
    · exact hdecodes
    · omega
  · intro hdecodes
    exact Or.inl ⟨by omega, hdecodes⟩

/-- `do_coldboot` has what is in the window. -/
theorem busdevId_file_iff (hv : vendor < 2 ^ 16) (hp : product < 2 ^ 16) {offset : Nat}
    (hoffset : offset + 8 ≤ UEVENT_MSG_LEN) (after : List Char) :
    busdevId bus.delim (((bus.number vendor ++ bus.delim ::
        (bus.number product ++ bus.behind bcdDevice) ++ after).take
          (UEVENT_MSG_LEN - offset - 8)).takeWhile (· != '\x00')) =
        some (vendor * 65536 + product) ↔
      bus.Decodes vendor product ∧ bus.InWindow offset vendor product := by
  have h := bus.numbers hv hp
  obtain ⟨x, hx⟩ := take_read after (bus.numbers_ne_zero bcdDevice hv hp)
    (UEVENT_MSG_LEN - offset - 8)
  have htake : ((bus.number vendor ++ bus.delim ::
      (bus.number product ++ bus.behind bcdDevice) ++ x).take (UEVENT_MSG_LEN - offset - 8)).take 9 =
        (bus.number vendor ++ bus.delim :: (bus.number product ++ (bus.behind bcdDevice ++ x))).take
          (min 9 (UEVENT_MSG_LEN - offset - 8)) := by
    rw [List.take_take, List.append_assoc, List.cons_append, List.append_assoc]
  rw [hx, h.busdevId_iff bus.hexValue_delim (Nat.min_le_left 9 _)
    (bus.behind_head vendor product bcdDevice x) htake, bus.decodes_iff hp, Bus.InWindow]
  have hvl := h.vendor_length
  have hpl := h.product_length
  constructor
  · rintro (⟨hle, hdecodes⟩ | ⟨hlt, hcut, hvendor, hproduct⟩)
    · exact ⟨hdecodes, Or.inl (by omega)⟩
    · refine ⟨Or.inl hvendor, Or.inr ?_⟩
      subst hvendor hproduct
      cases bus with
      | usb =>
          have hlength : (Bus.usb.number 0).length = 1 := by decide
          omega
      | sdio =>
          have hlength : (Bus.sdio.number 0).length = 4 := rfl
          exact ⟨rfl, rfl, rfl, by omega⟩
  · rintro ⟨hdecodes, hread | ⟨rfl, rfl, rfl, hread⟩⟩
    · exact Or.inl ⟨by omega, hdecodes⟩
    · have hlength : (Bus.sdio.number 0).length = 4 := rfl
      by_cases hwhole : 9 ≤ UEVENT_MSG_LEN - offset - 8
      · exact Or.inl ⟨by omega, Or.inl rfl⟩
      · exact Or.inr ⟨by omega, by omega, rfl, rfl⟩

theorem map_type_iff {bus : Bus} {id : Option Nat} {device_id : Nat} :
    id.map (bus.type, ·) = some (bus.type, device_id) ↔ id = some device_id := by
  cases id with
  | none => simp
  | some n => simp

end Readers

/-- Hot-plug and cold boot find a device by its two numbers iff the texts of them make its id, and
the window of `do_coldboot` reaches far enough. -/
theorem detected_iff (bus : Bus) {vendor product : Nat} (bcdDevice : Nat) (hv : vendor < 2 ^ 16)
    (hp : product < 2 ^ 16) {msg : List (List Char)} {before after : List Char}
    (hmsg : IsMessage bus (bus.deviceText vendor product bcdDevice) msg)
    (hfile : IsUeventFile (bus.deviceText vendor product bcdDevice) before after) :
    Detected bus vendor product msg
        (before ++ (bus.deviceText vendor product bcdDevice ++ after)) ↔
      bus.Decodes vendor product ∧ bus.InWindow before.length vendor product := by
  unfold Detected
  rw [Bus.deviceText] at hmsg hfile ⊢
  rw [uevent_device_of_message hmsg, coldboot_device_of_file hfile, Option.some_inj, map_type_iff,
    busdevId_message_iff bus bcdDevice hv hp]
  by_cases hread : before.length + 8 ≤ UEVENT_MSG_LEN
  · rw [if_pos hread, map_type_iff, busdevId_file_iff bus bcdDevice hv hp hread]
    constructor
    · rintro ⟨-, h⟩
      exact h
    · intro h
      exact ⟨h.1, h⟩
  · rw [if_neg hread]
    constructor
    · rintro ⟨-, hnone⟩
      cases hnone
    · rintro ⟨-, hwindow | ⟨-, -, -, hwindow⟩⟩ <;> omega

/-- A module of the SDIO bus with four digits in both numbers. -/
theorem detected_iff_sdio :
    Detected .sdio 0x024c 0xb723
      ["add@/mmc1:0001:1".toList, "SUBSYSTEM=sdio".toList, "SDIO_ID=024C:B723".toList]
      ("SDIO_CLASS=07\n".toList ++ (Bus.sdio.deviceText 0x024c 0xb723 0 ++ "\n".toList)) := by
  have hmsg : IsMessage .sdio (Bus.sdio.deviceText 0x024c 0xb723 0)
      ["add@/mmc1:0001:1".toList, "SUBSYSTEM=sdio".toList, "SDIO_ID=024C:B723".toList] :=
    ⟨by decide, by decide, by decide,
      ["add@/mmc1:0001:1".toList], ["SDIO_ID=024C:B723".toList], by decide, by decide⟩
  have hfile : IsUeventFile (Bus.sdio.deviceText 0x024c 0xb723 0) "SDIO_CLASS=07\n".toList
      "\n".toList :=
    ⟨by decide, by decide, by decide⟩
  exact (detected_iff .sdio 0 (by decide) (by decide) hmsg hfile).mpr
    ⟨Or.inl rfl, Or.inl (by decide)⟩

/-- The product 0x0179 of the table has three digits in the text, and both readers take it and the
vendor for 0xbda179. -/
theorem rtl8188eu_not_detected :
    let msg := ["add@/usb1/1-1".toList, "SUBSYSTEM=usb".toList, "PRODUCT=bda/179/0".toList]
    let file := "PRODUCT=bda/179/0\n".toList
    IsMessage .usb (Bus.usb.deviceText 0x0bda 0x0179 0) msg ∧
      IsUeventFile (Bus.usb.deviceText 0x0bda 0x0179 0) [] "\n".toList ∧
      file = [] ++ (Bus.usb.deviceText 0x0bda 0x0179 0 ++ "\n".toList) ∧
      uevent_device msg = some (some (0, 0xbda179)) ∧ coldboot_device file = some (0, 0xbda179) ∧
      ¬ Detected .usb 0x0bda 0x0179 msg file := by
  refine ⟨⟨by decide, by decide, by decide, ["add@/usb1/1-1".toList], ["PRODUCT=bda/179/0".toList],
    by decide, by decide⟩, ⟨by decide, by decide, by decide⟩, by decide, by decide, by decide, ?_⟩
  rintro ⟨hmsg, -⟩
  revert hmsg
  decide

/-- Then both find the same entry of the table. -/
theorem parse_uevent_eq_do_coldboot (table : Table) {bus : Bus} {vendor product : Nat}
    {msg : List (List Char)} {file : List Char} (h : Detected bus vendor product msg file) :
    parse_uevent table msg =
        get_hardware_info_by_device_id table bus.type (vendor * 65536 + product) ∧
      do_coldboot table [file] = parse_uevent table msg := by
  have hparse : parse_uevent table msg =
      get_hardware_info_by_device_id table bus.type (vendor * 65536 + product) := by
    rw [parse_uevent, h.1]
    rfl
  refine ⟨hparse, ?_⟩
  rw [hparse, do_coldboot, h.2]
  dsimp only
  cases get_hardware_info_by_device_id table bus.type (vendor * 65536 + product) with
  | none => rfl
  | some found => cases found <;> rfl

end AwHal.Wireless
