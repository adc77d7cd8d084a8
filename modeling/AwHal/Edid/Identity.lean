import AwHal.Edid.Parses
import AwHal.Lib.ByteMemory

/-!
# The identity of a monitor

What the vendor name, the product id and the serial number of `parseMonitorInfo` tell of the bytes of
block 0 that they are made from.
-/

namespace AwHal.Edid

open AwHal.Lib Reading

/-! ## The bytes -/

def vendorBits (mem : Memory) : Nat := ((mem 8).toNat * 256 + (mem 9).toNat) % 2 ^ 15

def productBytes (mem : Memory) : List UInt8 := [mem 10, mem 11]

def serialBytes (mem : Memory) : List UInt8 := [mem 12, mem 13, mem 14, mem 15]

def identityBytes (mem : Memory) : Nat × List UInt8 × List UInt8 :=
  (vendorBits mem, productBytes mem, serialBytes mem)

def monitorInfo (mem : Memory) (s : EdidParser) : EdidParser :=
  run mem.cells (parseMonitorInfo s)

def identity (mem : Memory) (s : EdidParser) : List UInt8 × UInt16 × UInt32 :=
  ((monitorInfo mem s).mVendorName, (monitorInfo mem s).mProductId, (monitorInfo mem s).mSerialNumber)

/-- No other block 0 gives a member that block 0 of `mem` gives, unless the bytes for it are the
same. -/
structure KeepsIdentity (mem : Memory) (s : EdidParser) : Prop where
  vendor : ∀ mem' s', (monitorInfo mem' s').mVendorName = (monitorInfo mem s).mVendorName →
    vendorBits mem' = vendorBits mem
  product : ∀ mem' s', (monitorInfo mem' s').mProductId = (monitorInfo mem s).mProductId →
    productBytes mem' = productBytes mem
  serial : ∀ mem' s', (monitorInfo mem' s').mSerialNumber = (monitorInfo mem s).mSerialNumber →
    serialBytes mem' = serialBytes mem
  serial_value : (monitorInfo mem s).mSerialNumber.toNat = leValue (serialBytes mem)
  identity : ∀ mem' s', identityBytes mem' ≠ identityBytes mem → identity mem' s' ≠ identity mem s

variable {mem mem' : Memory} {s s' : EdidParser}

/-! ## Letters -/

theorem toNat_mask (b : UInt8) {i n : Nat} (hi : i < 8) (m : UInt8)
    (hm : m.toNat >>> i = 2 ^ n - 1) :
    ((b &&& m) >>> UInt8.ofNat i).toNat = b.toNat / 2 ^ i % 2 ^ n := by
  have hi' : (UInt8.ofNat i).toNat % 8 = i := by
    rw [UInt8.toNat_ofNat']
    omega
  rw [UInt8.toNat_shiftRight, hi', UInt8.toNat_and, Nat.shiftRight_and_distrib, hm,
    Nat.and_two_pow_sub_one_eq_mod, Nat.shiftRight_eq_div_pow]

/-- The three letters have five bits each. -/
theorem letters_eq_iff (x8 x9 y8 y9 : UInt8) :
    [((y8 &&& 0x7C) >>> 2) + 64, ((y8 &&& 0x03) <<< 3) + ((y9 &&& 0xE0) >>> 5) + 64,
        (y9 &&& 0x1F) + 64, 0] =
      [((x8 &&& 0x7C) >>> 2) + 64, ((x8 &&& 0x03) <<< 3) + ((x9 &&& 0xE0) >>> 5) + 64,
        (x9 &&& 0x1F) + 64, 0] ↔
    y8.toNat % 128 = x8.toNat % 128 ∧ y9 = x9 := by
  have hfirst (b : UInt8) : ((b &&& 0x7C) >>> 2).toNat = b.toNat / 4 % 32 :=
    toNat_mask b (i := 2) (n := 5) (by decide) 0x7C rfl
  have hlow (b : UInt8) : ((b &&& 0xE0) >>> 5).toNat = b.toNat / 32 % 8 :=
    toNat_mask b (i := 5) (n := 3) (by decide) 0xE0 rfl
  have hlast (b : UInt8) : (b &&& 0x1F).toNat = b.toNat % 32 := by
    rw [UInt8.toNat_and]
    exact Nat.and_two_pow_sub_one_eq_mod b.toNat 5
  have hhigh (b : UInt8) : ((b &&& 0x03) <<< 3).toNat = b.toNat % 4 * 8 := by
    have hand : (b &&& 0x03).toNat = b.toNat % 4 := by
      rw [UInt8.toNat_and]
      exact Nat.and_two_pow_sub_one_eq_mod b.toNat 2
    rw [UInt8.toNat_shiftLeft, hand]
    show (b.toNat % 4) <<< 3 % 256 = _
    rw [Nat.shiftLeft_eq]
    omega
  have hsecond (a b : UInt8) : (((a &&& 0x03) <<< 3) + ((b &&& 0xE0) >>> 5)).toNat =
      a.toNat % 4 * 8 + b.toNat / 32 % 8 := by
    rw [UInt8.toNat_add, hhigh, hlow]
    omega
  simp only [List.cons.injEq, and_true, add_left_inj, ← UInt8.toNat_inj, hfirst, hsecond, hlast]
  have hx9 : x9.toNat < 256 := x9.toNat_lt
  have hy9 : y9.toNat < 256 := y9.toNat_lt
  omega

/-! ## Numbers -/

theorem toNat_word16 (hi lo : UInt8) :
    ((hi.toUInt16 <<< 8) ||| lo.toUInt16).toNat = hi.toNat * 256 + lo.toNat := by
  have hhi : hi.toNat < 256 := hi.toNat_lt
  have hlo : lo.toNat < 2 ^ 8 := lo.toNat_lt
  have hshift : (hi.toUInt16 <<< 8).toNat = hi.toNat <<< 8 := by
    rw [UInt16.toNat_shiftLeft, UInt8.toNat_toUInt16]
    show hi.toNat <<< 8 % 65536 = _
    rw [Nat.shiftLeft_eq]
    omega
  rw [UInt16.toNat_or, hshift, UInt8.toNat_toUInt16, ← Nat.shiftLeft_add_eq_or_of_lt hlo,
    Nat.shiftLeft_eq]

theorem toNat_serial (x15 x14 x13 x12 : UInt8) :
    ((x15.toUInt32 <<< 24) ||| (x14.toUInt32 <<< 16) ||| x13.toUInt32 ||| x12.toUInt32).toNat =
      x15.toNat * 2 ^ 24 + x14.toNat * 2 ^ 16 + (x13.toNat ||| x12.toNat) := by
  have h15 : x15.toNat < 256 := x15.toNat_lt
  have h14 : x14.toNat < 256 := x14.toNat_lt
  have h13 : x13.toNat < 2 ^ 8 := x13.toNat_lt
  have h12 : x12.toNat < 2 ^ 8 := x12.toNat_lt
  have hlow : (x13.toNat ||| x12.toNat) < 2 ^ 8 := Nat.or_lt_two_pow h13 h12
  have hshift15 : (x15.toUInt32 <<< 24).toNat = x15.toNat <<< 24 := by
    rw [UInt32.toNat_shiftLeft, UInt8.toNat_toUInt32]
    show x15.toNat <<< 24 % 4294967296 = _
    rw [Nat.shiftLeft_eq]
    omega
  have hshift14 : (x14.toUInt32 <<< 16).toNat = x14.toNat <<< 16 := by
    rw [UInt32.toNat_shiftLeft, UInt8.toNat_toUInt32]
    show x14.toNat <<< 16 % 4294967296 = _
    rw [Nat.shiftLeft_eq]
    omega
  have hmiddle : x14.toNat <<< 16 + (x13.toNat ||| x12.toNat) < 2 ^ 24 := by
    rw [Nat.shiftLeft_eq]
    omega
  rw [UInt32.toNat_or, UInt32.toNat_or, UInt32.toNat_or, hshift15, hshift14, UInt8.toNat_toUInt32,
    UInt8.toNat_toUInt32, Nat.or_assoc, Nat.or_assoc,
    ← Nat.shiftLeft_add_eq_or_of_lt (by omega : (x13.toNat ||| x12.toNat) < 2 ^ 16),
    ← Nat.shiftLeft_add_eq_or_of_lt hmiddle, Nat.shiftLeft_eq, Nat.shiftLeft_eq, Nat.add_assoc]

/-! ## The members -/

theorem vendorName_eq_iff :
    (monitorInfo mem' s').mVendorName = (monitorInfo mem s).mVendorName ↔
      vendorBits mem' = vendorBits mem := by
  have hletters := letters_eq_iff (mem 8) (mem 9) (mem' 8) (mem' 9)
  refine Iff.trans hletters ?_
  have hx9 : (mem 9).toNat < 256 := (mem 9).toNat_lt
  have hy9 : (mem' 9).toNat < 256 := (mem' 9).toNat_lt
  rw [← UInt8.toNat_inj, vendorBits, vendorBits]
  omega

theorem productId_eq_iff :
    (monitorInfo mem' s').mProductId = (monitorInfo mem s).mProductId ↔
      productBytes mem' = productBytes mem := by
  have hvalue (mem : Memory) (s : EdidParser) :
      (monitorInfo mem s).mProductId.toNat = (mem 11).toNat * 256 + (mem 10).toNat :=
    toNat_word16 (mem 11) (mem 10)
  have hx : (mem 10).toNat < 256 := (mem 10).toNat_lt
  have hy : (mem' 10).toNat < 256 := (mem' 10).toNat_lt
  rw [← UInt16.toNat_inj, hvalue, hvalue]
  simp only [productBytes, List.cons.injEq, and_true, ← UInt8.toNat_inj]
  omega

theorem serialNumber_value (mem : Memory) (s : EdidParser) :
    (monitorInfo mem s).mSerialNumber.toNat =
      (mem 15).toNat * 2 ^ 24 + (mem 14).toNat * 2 ^ 16 + ((mem 13).toNat ||| (mem 12).toNat) :=
  toNat_serial (mem 15) (mem 14) (mem 13) (mem 12)

theorem serialNumber_eq_iff :
    (monitorInfo mem' s').mSerialNumber = (monitorInfo mem s).mSerialNumber ↔
      mem' 15 = mem 15 ∧ mem' 14 = mem 14 ∧
        (mem' 13).toNat ||| (mem' 12).toNat = (mem 13).toNat ||| (mem 12).toNat := by
  have hlow (mem : Memory) : (mem 13).toNat ||| (mem 12).toNat < 2 ^ 8 :=
    Nat.or_lt_two_pow (mem 13).toNat_lt (mem 12).toNat_lt
  have hx := hlow mem
  have hy := hlow mem'
  have hx14 : (mem 14).toNat < 256 := (mem 14).toNat_lt
  have hy14 : (mem' 14).toNat < 256 := (mem' 14).toNat_lt
  rw [← UInt32.toNat_inj, serialNumber_value, serialNumber_value, ← UInt8.toNat_inj,
    ← UInt8.toNat_inj]
  omega

/-! ## Which identities are kept -/

/-- Another block 0 with the same serial number, when a low byte is not 0. -/
theorem exists_same_serialNumber (h : ¬ (mem 12 = 0 ∧ mem 13 = 0)) (s : EdidParser) :
    ∃ mem', serialBytes mem' ≠ serialBytes mem ∧
      (monitorInfo mem' s).mSerialNumber = (monitorInfo mem s).mSerialNumber := by
  by_cases heq : mem 12 = mem 13
  · -- one of two equal bytes is enough for the bits of both
    refine ⟨fun i => if i = 13 then 0 else mem i, ?_, ?_⟩
    · intro hbytes
      simp only [serialBytes, List.cons.injEq] at hbytes
      have h13 : 0 = mem 13 := hbytes.2.1
      exact h ⟨by rw [heq, ← h13], h13.symm⟩
    · rw [serialNumber_eq_iff]
      refine ⟨rfl, rfl, ?_⟩
      show (0 : UInt8).toNat ||| (mem 12).toNat = (mem 13).toNat ||| (mem 12).toNat
      rw [heq, UInt8.toNat_zero, Nat.zero_or, Nat.or_self]
  · -- the two bytes in the other order
    refine ⟨fun i => if i = 12 then mem 13 else if i = 13 then mem 12 else mem i, ?_, ?_⟩
    · intro hbytes
      simp only [serialBytes, List.cons.injEq] at hbytes
      exact heq hbytes.2.1
    · rw [serialNumber_eq_iff]
      exact ⟨rfl, rfl, Nat.or_comm _ _⟩

/-- The members determine the bytes exactly when the two low bytes of the serial number are 0, as
byte 13 is not shifted into its place. -/
theorem keepsIdentity_iff (mem : Memory) (s : EdidParser) :
    KeepsIdentity mem s ↔ mem 12 = 0 ∧ mem 13 = 0 := by
  constructor
  · intro hkeeps
    by_contra hne
    obtain ⟨mem', hbytes, hsame⟩ := exists_same_serialNumber hne s
    exact hbytes (hkeeps.serial mem' s hsame)
  · rintro ⟨h12, h13⟩
    have hserial : ∀ mem' s',
        (monitorInfo mem' s').mSerialNumber = (monitorInfo mem s).mSerialNumber →
        serialBytes mem' = serialBytes mem := by
      intro mem' s' hsame
      obtain ⟨h15', h14', hlow⟩ := serialNumber_eq_iff.mp hsame
      rw [h12, h13, UInt8.toNat_zero, Nat.or_self, Nat.or_eq_zero_iff] at hlow
      have h13' : mem' 13 = 0 := UInt8.toNat_inj.mp hlow.1
      have h12' : mem' 12 = 0 := UInt8.toNat_inj.mp hlow.2
      rw [serialBytes, serialBytes, h12, h13, h12', h13', h14', h15']
    constructor
    case vendor => exact fun mem' s' => vendorName_eq_iff.mp
    case product => exact fun mem' s' => productId_eq_iff.mp
    case serial => exact hserial
    case serial_value =>
      rw [serialNumber_value, serialBytes, h12, h13]
      simp only [leValue, UInt8.toNat_zero, Nat.or_self]
      omega
    case identity =>
      intro mem' s' hbytes hsame
      simp only [identity, Prod.mk.injEq] at hsame
      apply hbytes
      rw [identityBytes, identityBytes, vendorName_eq_iff.mp hsame.1,
        productId_eq_iff.mp hsame.2.1, hserial mem' s' hsame.2.2]

/-- The serial numbers 1 and 256 are decoded alike. -/
theorem not_keepsIdentity : ¬ ∀ (mem : Memory) (s : EdidParser), KeepsIdentity mem s := by
  intro hall
  have hserial := (hall (edidWith [(12, 1)]) {}).serial (edidWith [(13, 1)]) {} (by decide +kernel)
  exact absurd hserial (by decide +kernel)

end AwHal.Edid
