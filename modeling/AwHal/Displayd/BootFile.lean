import Mathlib.Data.List.Infix
import AwHal.Lib.CText
import AwHal.Lib.GuardedRun
import AwHal.Displayd.DeviceConfig

/-!
# The display configuration for the boot loader

`saveDeviceConfigToFile` (`disprslfile.cpp`) keeps the last mode of each kind of output in a small
text file: three numbers, one a line, and a line with the rest of the HDMI configuration.  It reads
back what it wrote before, changes one number, and writes the whole text over the old one.
-/

namespace AwHal.Displayd

open AwHal.Lib

def MAX_MODE_STRING_LEN : Nat := 128

/-- `none` for the -1 of an unknown type. -/
def typeToLineNumbers (type : Int32) : Option Nat :=
  if type = DISP_OUTPUT_TYPE_TV then some 0
  else if type = DISP_OUTPUT_TYPE_HDMI then some 1
  else if type = DISP_OUTPUT_TYPE_VGA then some 2
  else none

def hdmiMark : List Char := ['h', 'd', 'm', 'i', '_', 'c', 'o', 'n', 'f', 'i', 'g', '=']

namespace DispDeviceConfig

def pack (config : DispDeviceConfig) : Int32 :=
  ((config.type &&& 0xFF) <<< 8) ||| (config.mode &&& 0xFF)

def hdmiLine (config : DispDeviceConfig) : List Char :=
  hdmiMark ++ printInt config.format.toInt ++ ',' :: printInt config.bits.toInt ++
    ',' :: printInt config.eotf.toInt ++ ',' :: printInt config.cs.toInt ++
    ',' :: printInt config.dvi_hdmi.toInt

end DispDeviceConfig

/-! ## Reading -/

/-- The local variables of the loop that decodes the file; `written` holds the indices at which it
writes `values`. -/
structure Decoded where
  i : Nat := 0
  values : List Int32 := [0, 0, 0]
  written : List Nat := []
  hdmiconfigStr : Option (List Char) := none
deriving DecidableEq, Repr

def Decoded.endLine (d : Decoded) (line : List Char) : Decoded :=
  if hdmiMark <:+: line then { d with hdmiconfigStr := some line }
  else
    -- no test of `i`, which may have come to 3
    { d with
      i := d.i + 1
      values := d.values.set d.i (Int32.ofNat (strtoul16 line))
      written := d.written ++ [d.i] }

/-- The loop over the characters; `line` is what stands between `begin` and `iter`. -/
def decodeLoop (d : Decoded) (line : List Char) : List Char → Decoded
  | [] => d
  | c :: rest =>
      if d.i < 4 then
        if c = '\n' ∨ c = '\x00' then decodeLoop (d.endLine line) [] rest
        else decodeLoop d (line ++ [c]) rest
      else d

def decode : Option (List Char) → Decoded
  | none => {}
  | some bytes => decodeLoop {} [] (bytes.take (MAX_MODE_STRING_LEN - 1))

/-! ## Writing -/

def hexLine (v : Int32) : List Char := printHex v.toUInt32.toNat ++ ['\n']

/-- The text for the values and the line of the HDMI configuration. -/
def bootText (values : List Int32) (hdmi : Option (List Char)) : List Char :=
  values.flatMap hexLine ++
    match hdmi with
    | some line => line ++ ['\n']
    | none => []

/-- The file, and all indices at which the calls so far wrote their `values`. -/
structure BootFile where
  file : Option (List Char)
  written : List Nat := []
deriving DecidableEq, Repr

def saveDeviceConfigToFile (s : BootFile) (config : DispDeviceConfig) : BootFile :=
  match typeToLineNumbers config.type with
  | none => s
  | some lineNumbers =>
      let d := decode s.file
      let values := d.values.set lineNumbers config.pack
      let hdmi :=
        if config.type = DISP_OUTPUT_TYPE_HDMI then some config.hdmiLine else d.hdmiconfigStr
      -- the file is opened without `O_TRUNC`
      { file := some (overwrite (bootText values hdmi) (s.file.getD []))
        written := s.written ++ d.written ++ [lineNumbers] }

/-! ## Reading back what was written -/

def OneLine (text : List Char) : Prop := '\n' ∉ text ∧ '\x00' ∉ text

theorem decodeLoop_line {text : List Char} (htext : OneLine text) {d : Decoded} (hi : d.i < 4)
    (line rest : List Char) :
    decodeLoop d line (text ++ '\n' :: rest) = decodeLoop (d.endLine (line ++ text)) [] rest := by
  induction text generalizing line with
  | nil => simp [decodeLoop, hi]
  | cons c text ih =>
      obtain ⟨hnl, hnul⟩ := htext
      have hc : ¬ (c = '\n' ∨ c = '\x00') := by
        rintro (rfl | rfl)
        · exact hnl List.mem_cons_self
        · exact hnul List.mem_cons_self
      have htext : OneLine text :=
        ⟨fun h => hnl (List.mem_cons_of_mem c h), fun h => hnul (List.mem_cons_of_mem c h)⟩
      rw [List.cons_append, decodeLoop, if_pos hi, if_neg hc, ih htext, List.append_assoc]
      rfl

theorem oneLine_printHex (n : Nat) : OneLine (printHex n) :=
  ⟨not_mem_printHex (by decide) n, not_mem_printHex (by decide) n⟩

theorem endLine_printHex (d : Decoded) (v : Int32) :
    d.endLine (printHex v.toUInt32.toNat) =
      { d with
        i := d.i + 1
        values := d.values.set d.i v
        written := d.written ++ [d.i] } := by
  have hmark : ¬ hdmiMark <:+: printHex v.toUInt32.toNat := by
    intro h
    exact not_mem_printHex (by decide) _ (h.subset (by decide : 'h' ∈ hdmiMark))
  have hlt := v.toUInt32.toNat_lt
  have hmax : v.toUInt32.toNat ≤ ULONG_MAX := by
    unfold ULONG_MAX
    omega
  have hv : Int32.ofNat v.toUInt32.toNat = v := by
    rw [← UInt32.toInt32_ofNat', UInt32.ofNat_toNat, Int32.toInt32_toUInt32]
  rw [Decoded.endLine, if_neg hmark, strtoul16_printHex hmax, hv]

/-- What `bootText` may get as the line of the HDMI configuration. -/
structure HdmiText (line : List Char) : Prop where
  mark : hdmiMark <:+: line
  oneLine : OneLine line
  length : line.length ≤ 71

theorem length_printInt32_le (v : Int32) : (printInt v.toInt).length ≤ 11 :=
  length_printInt_le v.le_toInt v.toInt_lt

theorem OneLine.append {a b : List Char} (ha : OneLine a) (hb : OneLine b) : OneLine (a ++ b) := by
  simp only [OneLine, List.mem_append, not_or]
  exact ⟨⟨ha.1, hb.1⟩, ha.2, hb.2⟩

theorem oneLine_comma_printInt (n : Int) : OneLine (',' :: printInt n) := by
  constructor
  · intro h
    rcases List.mem_cons.mp h with h | h
    · exact absurd h (by decide)
    · exact (mem_printInt h).elim (by decide) (by decide)
  · intro h
    rcases List.mem_cons.mp h with h | h
    · exact absurd h (by decide)
    · exact (mem_printInt h).elim (by decide) (by decide)

theorem oneLine_printInt (n : Int) : OneLine (printInt n) :=
  ⟨fun h => (oneLine_comma_printInt n).1 (List.mem_cons_of_mem _ h),
    fun h => (oneLine_comma_printInt n).2 (List.mem_cons_of_mem _ h)⟩

theorem hdmiText_hdmiLine (config : DispDeviceConfig) : HdmiText config.hdmiLine where
  mark := by
    simp only [DispDeviceConfig.hdmiLine, List.append_assoc]
    exact List.infix_append [] _ _
  oneLine := by
    have hmark : OneLine hdmiMark := ⟨by decide, by decide⟩
    exact ((((hmark.append (oneLine_printInt _)).append (oneLine_comma_printInt _)).append
      (oneLine_comma_printInt _)).append (oneLine_comma_printInt _)).append
      (oneLine_comma_printInt _)
  length := by
    have hmark : hdmiMark.length = 12 := rfl
    have hformat := length_printInt32_le config.format
    have hbits := length_printInt32_le config.bits
    have heotf := length_printInt32_le config.eotf
    have hcs := length_printInt32_le config.cs
    have hdvi := length_printInt32_le config.dvi_hdmi
    simp only [DispDeviceConfig.hdmiLine, List.length_append, List.length_cons, hmark]
    omega

theorem length_hexLine_le (v : Int32) : (hexLine v).length ≤ 9 := by
  have hlt : v.toUInt32.toNat < 16 ^ 8 := v.toUInt32.toNat_lt
  have := length_printHex_le (by decide) hlt
  simp only [hexLine, List.length_append, List.length_singleton]
  omega

theorem length_bootText_le (a b c : Int32) {hdmi : Option (List Char)}
    (hhdmi : ∀ line ∈ hdmi, HdmiText line) :
    (bootText [a, b, c] hdmi).length ≤ MAX_MODE_STRING_LEN - 1 := by
  have ha := length_hexLine_le a
  have hb := length_hexLine_le b
  have hc := length_hexLine_le c
  cases hdmi with
  | none =>
      simp only [bootText, List.flatMap_cons, List.flatMap_nil, List.length_append,
        List.length_nil, MAX_MODE_STRING_LEN]
      omega
  | some line =>
      have hline := (hhdmi line rfl).length
      simp only [bootText, List.flatMap_cons, List.flatMap_nil, List.length_append,
        List.length_nil, List.length_singleton, MAX_MODE_STRING_LEN]
      omega

theorem decodeLoop_hexLine {d : Decoded} (hi : d.i < 4) (v : Int32) (rest : List Char) :
    decodeLoop d [] (hexLine v ++ rest) =
      decodeLoop { d with
        i := d.i + 1
        values := d.values.set d.i v
        written := d.written ++ [d.i] } [] rest := by
  rw [hexLine, List.append_assoc, List.singleton_append, decodeLoop_line (oneLine_printHex _) hi,
    List.nil_append, endLine_printHex]

theorem decodeLoop_hexLines (a b c : Int32) (rest : List Char) :
    decodeLoop {} [] (hexLine a ++ (hexLine b ++ (hexLine c ++ rest))) =
      decodeLoop { i := 3, values := [a, b, c], written := [0, 1, 2] } [] rest := by
  rw [decodeLoop_hexLine (by simp), decodeLoop_hexLine (by simp), decodeLoop_hexLine (by simp)]
  rfl

/-- The decoding of what was written: the three values and the line, and nothing is written behind
the end of `values`. -/
theorem decode_bootText (a b c : Int32) {hdmi : Option (List Char)}
    (hhdmi : ∀ line ∈ hdmi, HdmiText line) :
    decode (some (bootText [a, b, c] hdmi)) =
      { i := 3, values := [a, b, c], written := [0, 1, 2], hdmiconfigStr := hdmi } := by
  rw [decode, List.take_of_length_le (length_bootText_le a b c hhdmi)]
  simp only [bootText, List.flatMap_cons, List.flatMap_nil, List.append_nil, List.append_assoc]
  rw [decodeLoop_hexLines]
  cases hdmi with
  | none => rfl
  | some line =>
      obtain ⟨hmark, hone, -⟩ := hhdmi line rfl
      show decodeLoop _ [] (line ++ '\n' :: []) = _
      rw [decodeLoop_line hone (by simp), List.nil_append, Decoded.endLine, if_pos hmark]
      rfl

/-! ## One save after another -/

def lastPack (type : Int32) (past : List DispDeviceConfig) : Int32 :=
  lastOf (fun c : DispDeviceConfig => if c.type = type then some c.pack else none) 0 past

def lastHdmi (past : List DispDeviceConfig) : Option (List Char) :=
  lastOf (fun c : DispDeviceConfig =>
    if c.type = DISP_OUTPUT_TYPE_HDMI then some (some c.hdmiLine) else none) none past

def lastValues (past : List DispDeviceConfig) : List Int32 :=
  [lastPack DISP_OUTPUT_TYPE_TV past, lastPack DISP_OUTPUT_TYPE_HDMI past,
    lastPack DISP_OUTPUT_TYPE_VGA past]

def expectedBytes (past : List DispDeviceConfig) : List Char :=
  if past.any fun c => (typeToLineNumbers c.type).isSome then
    bootText (lastValues past) (lastHdmi past)
  else []

/-- The file holds the last configuration of each kind, and no other bytes. -/
structure Survives (past : List DispDeviceConfig) (s : BootFile) : Prop where
  indices : ∀ i ∈ s.written, i < 3
  values : (decode s.file).values = lastValues past
  hdmi : (decode s.file).hdmiconfigStr = lastHdmi past
  bytes : s.file.getD [] = expectedBytes past

/-- An HDMI configuration does not take a shorter line than the last one did. -/
def LineFits (past : List DispDeviceConfig) (_ : BootFile) (config : DispDeviceConfig) : Prop :=
  config.type = DISP_OUTPUT_TYPE_HDMI →
    ∀ line ∈ lastHdmi past, line.length ≤ config.hdmiLine.length

theorem lastPack_concat (type : Int32) (past : List DispDeviceConfig) (c : DispDeviceConfig) :
    lastPack type (past ++ [c]) = if c.type = type then c.pack else lastPack type past := by
  rw [lastPack, lastOf_concat]
  split <;> rfl

theorem lastHdmi_concat (past : List DispDeviceConfig) (c : DispDeviceConfig) :
    lastHdmi (past ++ [c]) =
      if c.type = DISP_OUTPUT_TYPE_HDMI then some c.hdmiLine else lastHdmi past := by
  rw [lastHdmi, lastOf_concat]
  split <;> rfl

theorem hdmiText_lastHdmi (past : List DispDeviceConfig) :
    ∀ line ∈ lastHdmi past, HdmiText line := by
  induction past using List.reverseRecOn with
  | nil => simp [lastHdmi, lastOf]
  | append_singleton past c ih =>
      rw [lastHdmi_concat]
      split
      · rintro _ ⟨⟩
        exact hdmiText_hdmiLine c
      · exact ih

theorem last_of_unknown {past : List DispDeviceConfig}
    (h : (past.any fun c => (typeToLineNumbers c.type).isSome) = false) :
    lastValues past = [0, 0, 0] ∧ lastHdmi past = none := by
  have hunknown : ∀ c ∈ past, c.type ≠ DISP_OUTPUT_TYPE_TV ∧ c.type ≠ DISP_OUTPUT_TYPE_HDMI ∧
      c.type ≠ DISP_OUTPUT_TYPE_VGA := by
    intro c hc
    have := List.any_eq_false.mp h c hc
    simp only [typeToLineNumbers] at this
    split_ifs at this <;> simp_all
  have hpack : ∀ type, (∀ c ∈ past, c.type ≠ type) → lastPack type past = 0 :=
    fun type hne => lastOf_eq_default (fun c hc => if_neg (hne c hc)) 0
  constructor
  · rw [lastValues, hpack _ fun c hc => (hunknown c hc).1, hpack _ fun c hc => (hunknown c hc).2.1,
      hpack _ fun c hc => (hunknown c hc).2.2]
  · exact lastOf_eq_default (fun c hc => if_neg (hunknown c hc).2.1) none

theorem decode_getD (file : Option (List Char)) : decode file = decode (some (file.getD [])) := by
  cases file with
  | none => rfl
  | some bytes => rfl

theorem decode_expectedBytes {past : List DispDeviceConfig} {file : Option (List Char)}
    (h : file.getD [] = expectedBytes past) :
    (decode file).values = lastValues past ∧ (decode file).hdmiconfigStr = lastHdmi past ∧
      ∀ i ∈ (decode file).written, i < 3 := by
  rw [decode_getD, h, expectedBytes]
  split
  · rw [lastValues, decode_bootText _ _ _ (hdmiText_lastHdmi past)]
    exact ⟨rfl, rfl, by simp⟩
  · rename_i hany
    obtain ⟨hvalues, hhdmi⟩ := last_of_unknown (Bool.eq_false_iff.mpr hany)
    rw [hvalues, hhdmi]
    exact ⟨rfl, rfl, by decide⟩

/-! ## The length of the text -/

theorem length_hexLine_pack {c : DispDeviceConfig} {n : Nat}
    (h : typeToLineNumbers c.type = some n) : (hexLine c.pack).length = 4 := by
  have hmode : c.mode.toUInt32.toNat &&& 255 ≤ 255 := Nat.and_le_right
  have hpack : ∀ high, 16 ^ 2 ≤ high → high < 2 ^ 12 →
      c.pack.toUInt32.toNat = high ||| (c.mode.toUInt32.toNat &&& 255) →
      (hexLine c.pack).length = 4 := by
    intro high hlo hhi heq
    have hge : 16 ^ 2 ≤ c.pack.toUInt32.toNat := heq ▸ hlo.trans Nat.left_le_or
    have hlt : c.pack.toUInt32.toNat < 16 ^ 3 := by
      rw [heq]
      exact Nat.or_lt_two_pow hhi (hmode.trans_lt (by decide))
    have h1 := lt_length_printHex hge
    have h2 := length_printHex_le (by decide) hlt
    simp only [hexLine, List.length_append, List.length_singleton]
    omega
  have hor : c.pack.toUInt32.toNat =
      ((c.type.toUInt32 &&& 0xFF) <<< 8).toNat ||| (c.mode.toUInt32.toNat &&& 255) := rfl
  unfold typeToLineNumbers at h
  split_ifs at h with htv hhdmi hvga
  · rw [htv] at hor
    exact hpack 0x200 (by decide) (by decide) hor
  · rw [hhdmi] at hor
    exact hpack 0x400 (by decide) (by decide) hor
  · rw [hvga] at hor
    exact hpack 0x800 (by decide) (by decide) hor

theorem typeToLineNumbers_tv : typeToLineNumbers DISP_OUTPUT_TYPE_TV = some 0 := rfl

theorem typeToLineNumbers_hdmi : typeToLineNumbers DISP_OUTPUT_TYPE_HDMI = some 1 := rfl

theorem typeToLineNumbers_vga : typeToLineNumbers DISP_OUTPUT_TYPE_VGA = some 2 := rfl

theorem length_hexLine_lastPack_le {type : Int32} {n : Nat} (h : typeToLineNumbers type = some n)
    (past : List DispDeviceConfig) : (hexLine (lastPack type past)).length ≤ 4 := by
  induction past using List.reverseRecOn with
  | nil =>
      show (hexLine 0).length ≤ 4
      decide
  | append_singleton past c ih =>
      rw [lastPack_concat]
      split
      · rename_i htype
        exact (length_hexLine_pack (htype ▸ h)).le
      · exact ih

theorem length_hexLine_of_lastHdmi {past : List DispDeviceConfig} {line : List Char}
    (h : lastHdmi past = some line) :
    (hexLine (lastPack DISP_OUTPUT_TYPE_HDMI past)).length = 4 := by
  induction past using List.reverseRecOn with
  | nil => cases h
  | append_singleton past c ih =>
      rw [lastHdmi_concat] at h
      rw [lastPack_concat]
      split
      · rename_i htype
        exact length_hexLine_pack (htype ▸ typeToLineNumbers_hdmi)
      · rename_i htype
        rw [if_neg htype] at h
        exact ih h

theorem length_bootText (a b c : Int32) (hdmi : Option (List Char)) :
    (bootText [a, b, c] hdmi).length = (hexLine a).length + (hexLine b).length +
      (hexLine c).length + (hdmi.elim 0 fun line => line.length + 1) := by
  cases hdmi <;>
    simp only [bootText, List.flatMap_cons, List.flatMap_nil, List.length_append,
      List.length_nil, List.length_singleton, Option.elim] <;>
    omega

theorem length_hexLine_lastPack_mono {type : Int32} {n : Nat} (h : typeToLineNumbers type = some n)
    (past : List DispDeviceConfig) (config : DispDeviceConfig) :
    (hexLine (lastPack type past)).length ≤ (hexLine (lastPack type (past ++ [config]))).length := by
  rw [lastPack_concat]
  split
  · rename_i htype
    rw [length_hexLine_pack (htype ▸ h)]
    exact length_hexLine_lastPack_le h past
  · exact le_rfl

theorem length_expectedBytes_le (past : List DispDeviceConfig) :
    (expectedBytes past).length ≤ (bootText (lastValues past) (lastHdmi past)).length := by
  unfold expectedBytes
  split
  · exact le_rfl
  · exact Nat.zero_le _

theorem expectedBytes_of_lastHdmi {past : List DispDeviceConfig} {line : List Char}
    (h : lastHdmi past = some line) :
    expectedBytes past = bootText (lastValues past) (lastHdmi past) := by
  apply if_pos
  by_contra hany
  rw [(last_of_unknown (Bool.eq_false_iff.mpr hany)).2] at h
  cases h

/-- The new text covers the old one exactly when the HDMI line does. -/
theorem length_expectedBytes_le_iff {past : List DispDeviceConfig} {config : DispDeviceConfig}
    (s : BootFile) :
    (expectedBytes past).length ≤
        (bootText (lastValues (past ++ [config])) (lastHdmi (past ++ [config]))).length ↔
      LineFits past s config := by
  have hold := length_expectedBytes_le past
  have htv := length_hexLine_lastPack_mono typeToLineNumbers_tv past config
  have hhdmi := length_hexLine_lastPack_mono typeToLineNumbers_hdmi past config
  have hvga := length_hexLine_lastPack_mono typeToLineNumbers_vga past config
  rw [lastValues, length_bootText] at hold ⊢
  rw [lastHdmi_concat]
  by_cases htype : config.type = DISP_OUTPUT_TYPE_HDMI
  · simp only [LineFits, htype, if_true, true_implies]
    cases hlast : lastHdmi past with
    | none =>
        simp only [hlast, Option.elim] at hold ⊢
        simp
        omega
    | some line =>
        -- only the line changes its length
        have hnum := length_hexLine_of_lastHdmi hlast
        have hnum' := length_hexLine_pack (htype ▸ typeToLineNumbers_hdmi)
        rw [expectedBytes_of_lastHdmi hlast, lastValues, length_bootText, hlast]
        simp only [lastPack_concat, htype, if_true, Option.elim, hnum, hnum',
          Option.mem_def, Option.some.injEq, forall_eq']
        rw [if_neg (by decide), if_neg (by decide)]
        omega
  · simp only [LineFits, htype, if_false, false_implies, iff_true]
    omega

/-! ## Every save -/

theorem lastValues_concat {past : List DispDeviceConfig} {config : DispDeviceConfig} {n : Nat}
    (h : typeToLineNumbers config.type = some n) :
    lastValues (past ++ [config]) = (lastValues past).set n config.pack := by
  unfold typeToLineNumbers at h
  simp only [lastValues, lastPack_concat]
  split_ifs at h with htv hhdmi hvga
  · cases h
    rw [htv]
    rfl
  · cases h
    rw [hhdmi]
    rfl
  · cases h
    rw [hvga]
    rfl

theorem typeToLineNumbers_lt {type : Int32} {n : Nat} (h : typeToLineNumbers type = some n) :
    n < 3 := by
  unfold typeToLineNumbers at h
  split_ifs at h <;> cases h <;> decide

theorem last_concat_of_unknown (past : List DispDeviceConfig) {config : DispDeviceConfig}
    (h : typeToLineNumbers config.type = none) :
    lastValues (past ++ [config]) = lastValues past ∧
      lastHdmi (past ++ [config]) = lastHdmi past ∧
      expectedBytes (past ++ [config]) = expectedBytes past := by
  have hne : config.type ≠ DISP_OUTPUT_TYPE_TV ∧ config.type ≠ DISP_OUTPUT_TYPE_HDMI ∧
      config.type ≠ DISP_OUTPUT_TYPE_VGA := by
    unfold typeToLineNumbers at h
    split_ifs at h with htv hhdmi hvga
    exact ⟨htv, hhdmi, hvga⟩
  have hvalues : lastValues (past ++ [config]) = lastValues past := by
    simp only [lastValues, lastPack_concat, if_neg hne.1, if_neg hne.2.1, if_neg hne.2.2]
  have hline : lastHdmi (past ++ [config]) = lastHdmi past := by
    rw [lastHdmi_concat, if_neg hne.2.1]
  refine ⟨hvalues, hline, ?_⟩
  simp [expectedBytes, hvalues, hline, h]

theorem save_of_known {past : List DispDeviceConfig} {s : BootFile} {config : DispDeviceConfig}
    {n : Nat} (h : typeToLineNumbers config.type = some n) (hs : Survives past s) :
    saveDeviceConfigToFile s config =
      { file := some (overwrite (bootText (lastValues (past ++ [config]))
          (lastHdmi (past ++ [config]))) (expectedBytes past))
        written := s.written ++ (decode s.file).written ++ [n] } := by
  rw [lastValues_concat h, lastHdmi_concat, ← hs.values, ← hs.hdmi, ← hs.bytes]
  simp only [saveDeviceConfigToFile, h]

theorem expectedBytes_of_known {past : List DispDeviceConfig} {config : DispDeviceConfig} {n : Nat}
    (h : typeToLineNumbers config.type = some n) :
    expectedBytes (past ++ [config]) =
      bootText (lastValues (past ++ [config])) (lastHdmi (past ++ [config])) := by
  apply if_pos
  simp [h]

/-- One save keeps the file right exactly when the line of an HDMI configuration is not shorter than
the one that it replaces. -/
theorem survives_save_iff {past : List DispDeviceConfig} {s : BootFile}
    {config : DispDeviceConfig} (hs : Survives past s) :
    Survives (past ++ [config]) (saveDeviceConfigToFile s config) ↔ LineFits past s config := by
  rw [← length_expectedBytes_le_iff s]
  cases htype : typeToLineNumbers config.type with
  | none =>
      obtain ⟨hvalues, hline, hbytes⟩ := last_concat_of_unknown past htype
      rw [hvalues, hline, saveDeviceConfigToFile, htype]
      constructor
      · intro _
        exact length_expectedBytes_le past
      · intro _
        exact ⟨hs.indices, hvalues ▸ hs.values, hline ▸ hs.hdmi, hbytes ▸ hs.bytes⟩
  | some n =>
      rw [save_of_known htype hs, ← expectedBytes_of_known htype, ← overwrite_eq_self_iff]
      constructor
      · exact fun h => h.bytes
      · intro hfile
        rw [hfile]
        obtain ⟨hvalues, hline, -⟩ := decode_expectedBytes
          (rfl : (some (expectedBytes (past ++ [config]))).getD [] = _)
        refine ⟨?_, hvalues, hline, rfl⟩
        have hread := (decode_expectedBytes hs.bytes).2.2
        intro i hi
        rcases List.mem_append.mp hi with hi | hi
        · rcases List.mem_append.mp hi with hi | hi
          · exact hs.indices i hi
          · exact hread i hi
        · rw [List.mem_singleton.mp hi]
          exact typeToLineNumbers_lt htype

/-- From an absent or empty file on, the saves of a run all leave the file right exactly when no HDMI
configuration takes a shorter line than the HDMI configuration before it. -/
theorem saves_survive_iff {file : Option (List Char)} (hfile : file.getD [] = [])
    (configs : List DispDeviceConfig) :
    (∀ past, past <+: configs →
      Survives past (past.foldl saveDeviceConfigToFile { file := file })) ↔
      Guarded saveDeviceConfigToFile LineFits { file := file } configs := by
  apply forall_prefix_iff_guarded Survives
  · have hbytes : file.getD [] = expectedBytes [] := hfile
    obtain ⟨hvalues, hline, -⟩ := decode_expectedBytes hbytes
    exact ⟨by simp, hvalues, hline, hfile⟩
  · intro past s config hs
    exact survives_save_iff hs

def hdrConfig : DispDeviceConfig where
  type := DISP_OUTPUT_TYPE_HDMI
  mode := 10
  format := 1
  bits := 1
  eotf := 16
  cs := 0x107
  dvi_hdmi := 2

def sdrConfig : DispDeviceConfig := { hdrConfig with eotf := 4, cs := 0x101 }

instance (past : List DispDeviceConfig) (s : BootFile) (config : DispDeviceConfig) :
    Decidable (LineFits past s config) :=
  inferInstanceAs (Decidable (config.type = DISP_OUTPUT_TYPE_HDMI →
    ∀ line ∈ lastHdmi past, line.length ≤ config.hdmiLine.length))

theorem saves_survive_iff_sdr_hdr :
    Survives [sdrConfig, hdrConfig]
      ([sdrConfig, hdrConfig].foldl saveDeviceConfigToFile { file := none }) :=
  (saves_survive_iff rfl [sdrConfig, hdrConfig]).mpr (by decide +kernel) _ List.prefix_rfl

/-- From HDR back to SDR the line gets shorter: the file ends with an empty line, and the next save
writes behind the end of `values`. -/
theorem hdr_sdr_leaves_bytes :
    ¬ Survives [hdrConfig, sdrConfig]
        ([hdrConfig, sdrConfig].foldl saveDeviceConfigToFile { file := none }) ∧
      3 ∈ ([hdrConfig, sdrConfig, sdrConfig].foldl saveDeviceConfigToFile
        { file := none }).written := by
  refine ⟨?_, by decide +kernel⟩
  intro h
  exact absurd h.bytes (by decide +kernel)

end AwHal.Displayd
