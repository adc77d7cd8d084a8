import AwHal.Camera.WaterMark
import Mathlib.Data.Bool.AllAny

/-!
# The text of a watermark

`doWaterMark` of `water_mark_interface.c` looks up a glyph for every character of a text.  It takes
the length of a character from its first byte, and the end of the text from the number of bytes left.
-/

namespace AwHal.Camera.WaterMarkText

open AwHal.Lib AwHal.Camera.WaterMark

/-! ## Texts -/

/-- A string in memory, without the NUL behind it. -/
structure Text where
  bytes : List UInt8
  no_nul : ∀ b ∈ bytes, b ≠ 0

inductive Fault where
  /-- A read behind the terminating NUL. -/
  | behind
  /-- `int` arithmetic that overflows. -/
  | overflow
  /-- An index outside `single_pic`, or a pixel outside the picture. -/
  | outside
deriving DecidableEq, Repr

def Text.read (text : Text) (i : Nat) : Except Fault UInt8 :=
  match (text.bytes ++ [0])[i]? with
  | some b => .ok b
  | none => .error .behind

/-! ## Words -/

def countOnes (val : UInt8) : Nat → Nat → Nat
  | 0, cnt => cnt
  | i + 1, cnt => if val.toNat.testBit i then countOnes val i (cnt + 1) else cnt

def getWordCharNum (val : UInt8) : Nat :=
  let cnt := countOnes val 8 0
  if cnt = 0 then 1 else cnt

def byteIndex (data : UInt8) : Nat :=
  if '0'.toNat ≤ data.toNat ∧ data.toNat ≤ '9'.toNat then data.toNat - 0x30
  else if 'A'.toNat ≤ data.toNat ∧ data.toNat ≤ 'Z'.toNat then data.toNat - 0x2B
  else if data.toNat = ' '.toNat then 19
  else if data.toNat = '-'.toNat then 20
  else if data.toNat = ':'.toNat then 21
  else if data.toNat = '/'.toNat then 48
  else 19

def threeIndex (data : List UInt8) : Nat :=
  if data = String.utf8EncodeChar '日' then 10
  else if data = String.utf8EncodeChar '一' then 11
  else if data = String.utf8EncodeChar '二' then 12
  else if data = String.utf8EncodeChar '三' then 13
  else if data = String.utf8EncodeChar '四' then 14
  else if data = String.utf8EncodeChar '五' then 15
  else if data = String.utf8EncodeChar '六' then 16
  else if data = String.utf8EncodeChar '星' then 17
  else if data = String.utf8EncodeChar '期' then 18
  else 19

def getWordIndex (text : Text) (data len : Nat) : Except Fault Nat :=
  if len = 1 then do
    let b ← text.read data
    return byteIndex b
  else if len = 2 then return 19
  else if len = 3 then do
    let b0 ← text.read data
    let b1 ← text.read (data + 1)
    let b2 ← text.read (data + 2)
    return threeIndex [b0, b1, b2]
  else return 19

/-! ## The loop -/

def DISP_ICON_NUM : Nat := 23

def subInt (a : Int) (b : Nat) : Except Fault Int :=
  if FitsInt (a - b) then .ok (a - b) else .error .overflow

/-- The next words, `count` at most: `dispBuf` is at the first of them, and `buflen` bytes are
left. -/
def words (text : Text) : Nat → Nat → Int → Except Fault (List Nat)
  | 0, _, _ => .ok []
  | count + 1, dispBuf, buflen => do
      let val ← text.read dispBuf
      let wordlen := getWordCharNum val
      let buflen ← subInt buflen wordlen
      if buflen < 0 then return []
      let id ← getWordIndex text dispBuf wordlen
      let ids ← words text count (dispBuf + wordlen) buflen
      return id :: ids

/-- The `id_list` of `doWaterMark`; none if it finds the text empty.  `buflen` is an `int`. -/
def id_list (display : Text) : Except Fault (Option (List Nat)) :=
  let buflen := wrapInt display.bytes.length
  if buflen = 0 then return none
  else do
    let ids ← words display DISP_ICON_NUM 0 buflen
    return some ids

structure WaterMarkInData where
  layer : BackGroudLayerInfo
  pos : WaterMarkPositon
  display : Option Text

def picture (id : Nat) : Except Fault (Fin MAX_ICON_PIC) :=
  if h : id < MAX_ICON_PIC then .ok ⟨id, h⟩ else .error .outside

def doWaterMark (data : Option WaterMarkInData) (ctrl : Option WaterMarkInfo) :
    Except Fault (Int × Option Bytes) :=
  match ctrl, data with
  | some wm_info, some data =>
      match data.display with
      | none => return (-1, data.layer.bytes)
      | some display => do
          match ← id_list display with
          | none => return (-1, data.layer.bytes)
          | some ids =>
              let id_list ← ids.mapM picture
              match watermark_blending data.layer wm_info ⟨data.pos, id_list⟩ with
              | some (_, bytes) => return (0, bytes)
              | none => .error .outside
  | _, data => return (-1, data.map (·.layer.bytes))

/-! ## Glyphs -/

def icons : List Char := "0123456789日一二三四五六星期 -:ABCDEFGHIJKLMNOPQRSTUVWXYZ/".toList

/-- A character without a glyph is left blank. -/
def glyph (c : Char) : Nat := if c ∈ icons then icons.idxOf c else icons.idxOf ' '

def utf8 (chars : List Char) : List UInt8 := chars.flatMap String.utf8EncodeChar

theorem icons_eq : icons =
    ['0', '1', '2', '3', '4', '5', '6', '7', '8', '9', '日', '一', '二', '三', '四', '五', '六', '星',
      '期', ' ', '-', ':', 'A', 'B', 'C', 'D', 'E', 'F', 'G', 'H', 'I', 'J', 'K', 'L', 'M', 'N',
      'O', 'P', 'Q', 'R', 'S', 'T', 'U', 'V', 'W', 'X', 'Y', 'Z', '/'] :=
  String.toList_ofList

theorem length_icons : icons.length = MAX_ICON_PIC := by
  rw [icons_eq]
  rfl

theorem glyph_of_notMem {c : Char} (h : c ∉ icons) : glyph c = 19 := by
  rw [glyph, if_neg h, icons_eq]
  rfl

/-! ## Reads -/

theorem Text.read_ok (text : Text) {i : Nat} (h : i ≤ text.bytes.length) :
    ∃ b, text.read i = .ok b := by
  have hlt : i < (text.bytes ++ [0]).length := by
    rw [List.length_append, List.length_singleton]
    omega
  rw [Text.read, List.getElem?_eq_getElem hlt]
  exact ⟨_, rfl⟩

theorem Text.read_nul (text : Text) : text.read text.bytes.length = .ok 0 := by
  rw [Text.read, List.getElem?_concat_length]

theorem Text.read_word {text : Text} {front word rest : List UInt8}
    (h : text.bytes = front ++ (word ++ rest)) {i : Nat} {b : UInt8} (hb : word[i]? = some b) :
    text.read (front.length + i) = .ok b := by
  obtain ⟨hlt, -⟩ := List.getElem?_eq_some_iff.mp hb
  rw [Text.read, h, List.append_assoc, List.append_assoc, List.getElem?_append_right (by omega),
    Nat.add_sub_cancel_left, List.getElem?_append_left hlt, hb]

/-! ## Words of one character -/

theorem utf8EncodeChar_injective {c d : Char}
    (h : String.utf8EncodeChar c = String.utf8EncodeChar d) : c = d := by
  have hc := ByteArray.utf8DecodeChar?_utf8EncodeChar_append (b := ByteArray.empty) (c := c)
  rw [h, ByteArray.utf8DecodeChar?_utf8EncodeChar_append] at hc
  exact (Option.some.inj hc).symm

theorem getWordCharNum_one : ∀ n < 128, getWordCharNum (UInt8.ofNat n) = 1 := by decide

theorem getWordCharNum_two : ∀ n < 32, getWordCharNum (UInt8.ofNat (n + 0xc0)) = 2 := by
  decide

theorem getWordCharNum_three : ∀ n < 16, getWordCharNum (UInt8.ofNat (n + 0xe0)) = 3 := by
  decide

theorem getWordCharNum_four : ∀ n < 8, getWordCharNum (UInt8.ofNat (n + 0xf0)) = 4 := by
  decide

theorem getWordCharNum_utf8 (c : Char) :
    ∃ val, (String.utf8EncodeChar c)[0]? = some val ∧ getWordCharNum val = c.utf8Size := by
  rw [← String.length_utf8EncodeChar]
  fun_cases String.utf8EncodeChar c with
  | case1 _ hle => exact ⟨_, rfl, getWordCharNum_one _ (Nat.lt_succ_of_le hle)⟩
  | case2 => exact ⟨_, rfl, getWordCharNum_two _ (Nat.mod_lt _ (by decide))⟩
  | case3 => exact ⟨_, rfl, getWordCharNum_three _ (Nat.mod_lt _ (by decide))⟩
  | case4 => exact ⟨_, rfl, getWordCharNum_four _ (Nat.mod_lt _ (by decide))⟩

theorem byteIndex_of_mem : ∀ c ∈ icons, c.utf8Size = 1 →
    byteIndex (UInt8.ofNat c.toNat) = icons.idxOf c := by
  rw [icons_eq]
  exact List.all_iff_forall_prop.mp (by decide)

theorem byteIndex_or_mem :
    ∀ n < 128, byteIndex (UInt8.ofNat n) = 19 ∨ Char.ofNat n ∈ icons := by
  rw [icons_eq]
  decide

theorem icons_size : ∀ c ∈ icons, c.utf8Size = 1 ∨
    c.utf8Size = 3 ∧ c ∈ ['日', '一', '二', '三', '四', '五', '六', '星', '期'] := by
  rw [icons_eq]
  exact List.all_iff_forall_prop.mp (by decide)

theorem threeIndex_eq {c : Char} (h : c.utf8Size = 3) :
    threeIndex (String.utf8EncodeChar c) = glyph c := by
  have heq : ∀ d, String.utf8EncodeChar c = String.utf8EncodeChar d ↔ c = d := fun d =>
    ⟨utf8EncodeChar_injective, fun hcd => hcd ▸ rfl⟩
  simp only [threeIndex, heq]
  by_cases hmem : c ∈ icons
  · rcases icons_size c hmem with hone | ⟨-, hthree⟩
    · omega
    · rw [glyph, if_pos hmem, icons_eq]
      simp only [List.mem_cons, List.not_mem_nil, or_false] at hthree
      rcases hthree with rfl | rfl | rfl | rfl | rfl | rfl | rfl | rfl | rfl <;> decide
  · rw [glyph_of_notMem hmem]
    rw [icons_eq] at hmem
    simp only [List.mem_cons, not_or] at hmem
    simp only [hmem, if_false]

theorem glyph_blank {c : Char} (h : c.utf8Size ≠ 1) (h' : c.utf8Size ≠ 3) : glyph c = 19 := by
  have hmem : c ∉ icons := by
    intro hmem
    rcases icons_size c hmem with hone | ⟨hthree, -⟩
    · exact h hone
    · exact h' hthree
  exact glyph_of_notMem hmem

theorem byteIndex_utf8 {c : Char} (h : c.utf8Size = 1) :
    ∃ b, (String.utf8EncodeChar c)[0]? = some b ∧ byteIndex b = glyph c := by
  have hle : c.toNat < 128 := by
    have hval := Char.utf8Size_eq_one_iff.mp h
    exact Nat.lt_succ_of_le (UInt32.le_iff_toNat_le.mp hval)
  have hindex : byteIndex (UInt8.ofNat c.toNat) = glyph c := by
    by_cases hmem : c ∈ icons
    · rw [glyph, if_pos hmem]
      exact byteIndex_of_mem c hmem h
    · rcases byteIndex_or_mem _ hle with hblank | hicon
      · rw [glyph_of_notMem hmem, hblank]
      · rw [Char.ofNat_toNat] at hicon
        exact absurd hicon hmem
  rw [String.utf8EncodeChar_eq_singleton h]
  exact ⟨_, rfl, hindex⟩

theorem getWordIndex_utf8 {text : Text} {front rest : List UInt8} {c : Char}
    (h : text.bytes = front ++ (String.utf8EncodeChar c ++ rest)) :
    getWordIndex text front.length c.utf8Size = .ok (glyph c) := by
  unfold getWordIndex
  split
  · rename_i hone
    obtain ⟨b, hb, hindex⟩ := byteIndex_utf8 hone
    have hread := Text.read_word h hb
    rw [Nat.add_zero] at hread
    rw [hread, ← hindex]
    rfl
  · split
    · rename_i hone htwo
      rw [glyph_blank hone (by omega)]
      rfl
    · split
      · rename_i hthree
        have hlen : (String.utf8EncodeChar c).length = 3 :=
          (String.length_utf8EncodeChar c).trans hthree
        obtain ⟨b0, b1, b2, hword⟩ := List.length_eq_three.mp hlen
        have h0 := Text.read_word h (i := 0) (b := b0) (by rw [hword]; rfl)
        have h1 := Text.read_word h (i := 1) (b := b1) (by rw [hword]; rfl)
        have h2 := Text.read_word h (i := 2) (b := b2) (by rw [hword]; rfl)
        rw [Nat.add_zero] at h0
        rw [h0, h1, h2, ← threeIndex_eq hthree, hword]
        rfl
      · rename_i hone _ hthree
        rw [glyph_blank hone hthree]
        rfl

theorem byteIndex_lt (data : UInt8) : byteIndex data < MAX_ICON_PIC := by
  have h9 : '9'.toNat = 0x39 := rfl
  have hZ : 'Z'.toNat = 0x5A := rfl
  unfold byteIndex MAX_ICON_PIC
  split_ifs <;> omega

theorem threeIndex_lt (data : List UInt8) : threeIndex data < MAX_ICON_PIC := by
  unfold threeIndex
  repeat refine iteInduction (motive := (· < MAX_ICON_PIC)) (fun _ => by decide) fun _ => ?_
  decide

/-- What lies before the terminating NUL is read, whatever the bytes are. -/
theorem getWordIndex_lt {text : Text} {data len : Nat}
    (h : data + len ≤ text.bytes.length) :
    ∃ id < MAX_ICON_PIC, getWordIndex text data len = .ok id := by
  unfold getWordIndex
  split
  · obtain ⟨b, hb⟩ := text.read_ok (show data ≤ text.bytes.length by omega)
    rw [hb]
    exact ⟨_, byteIndex_lt b, rfl⟩
  · split
    · exact ⟨19, by decide, rfl⟩
    · split
      · obtain ⟨b0, h0⟩ := text.read_ok (show data ≤ text.bytes.length by omega)
        obtain ⟨b1, h1⟩ := text.read_ok (show data + 1 ≤ text.bytes.length by omega)
        obtain ⟨b2, h2⟩ := text.read_ok (show data + 2 ≤ text.bytes.length by omega)
        rw [h0, h1, h2]
        exact ⟨_, threeIndex_lt _, rfl⟩
      · exact ⟨19, by decide, rfl⟩

/-! ## The words of a text -/

@[simp] theorem utf8_cons (c : Char) (chars : List Char) :
    utf8 (c :: chars) = String.utf8EncodeChar c ++ utf8 chars := List.flatMap_cons

/-- The characters whose bytes fit into `buflen`, `count` at most. -/
def fitting : Nat → Int → List Char → List Char
  | count + 1, buflen, c :: chars =>
      if buflen < c.utf8Size then [] else c :: fitting count (buflen - c.utf8Size) chars
  | _, _, _ => []

theorem subInt_eq {a : Int} {b : Nat} (hlo : 0 ≤ a) (hhi : a < 2 ^ 31) (hb : b ≤ 8) :
    subInt a b = .ok (a - b) := by
  rw [subInt, if_pos]
  unfold FitsInt
  omega

theorem words_utf8 {text : Text} (count : Nat) {front : List UInt8} {chars : List Char}
    {buflen : Int} (h : text.bytes = front ++ utf8 chars) (hlo : 0 ≤ buflen)
    (hhi : buflen ≤ (utf8 chars).length) (hint : buflen < 2 ^ 31) :
    words text count front.length buflen = .ok ((fitting count buflen chars).map glyph) := by
  induction count generalizing front chars buflen with
  | zero => rfl
  | succ count ih =>
      cases chars with
      | nil =>
          -- The loop takes the NUL for one more character.
          have hzero : buflen = 0 := by
            simp only [utf8, List.flatMap_nil, List.length_nil] at hhi
            omega
          have hnul : text.read front.length = .ok 0 := by
            have hlen : text.bytes.length = front.length := by
              rw [h, utf8, List.flatMap_nil, List.append_nil]
            rw [← hlen, Text.read_nul]
          subst hzero
          rw [words, hnul]
          rfl
      | cons c chars =>
          rw [utf8_cons] at h
          obtain ⟨val, hval, hnum⟩ := getWordCharNum_utf8 c
          have hread : text.read front.length = .ok val := by
            have hword := Text.read_word h hval
            rwa [Nat.add_zero] at hword
          have hsub : subInt buflen c.utf8Size = .ok (buflen - c.utf8Size) :=
            subInt_eq hlo hint (c.utf8Size_le_four.trans (by decide))
          simp only [words, hread, hnum, hsub, bind, Except.bind, fitting]
          by_cases hshort : buflen < c.utf8Size
          · rw [if_pos (by omega), if_pos hshort]
            rfl
          · have hfront :
                (front ++ String.utf8EncodeChar c).length = front.length + c.utf8Size := by
              rw [List.length_append, String.length_utf8EncodeChar]
            have hsplit : text.bytes = (front ++ String.utf8EncodeChar c) ++ utf8 chars := by
              rw [h, List.append_assoc]
            rw [utf8_cons, List.length_append, String.length_utf8EncodeChar] at hhi
            have hrest := ih hsplit (show 0 ≤ buflen - c.utf8Size by omega) (by omega) (by omega)
            rw [if_neg (by omega), if_neg hshort, getWordIndex_utf8 h, ← hfront, hrest]
            rfl

theorem fitting_eq {count : Nat} {buflen : Int} {chars : List Char}
    (h : (utf8 (chars.take count)).length ≤ buflen) :
    fitting count buflen chars = chars.take count := by
  induction count generalizing buflen chars with
  | zero => simp [fitting]
  | succ count ih =>
      cases chars with
      | nil => rfl
      | cons c chars =>
          rw [List.take_succ_cons, utf8_cons, List.length_append, String.length_utf8EncodeChar] at h
          rw [fitting, if_neg (by omega), List.take_succ_cons, ih (by omega)]

theorem le_of_fitting_length {count : Nat} {buflen : Int} {chars : List Char} (hlo : 0 ≤ buflen)
    (h : (fitting count buflen chars).length = (chars.take count).length) :
    (utf8 (chars.take count)).length ≤ buflen := by
  induction count generalizing buflen chars with
  | zero => simpa [utf8] using hlo
  | succ count ih =>
      cases chars with
      | nil => simpa [utf8] using hlo
      | cons c chars =>
          rw [fitting] at h
          split at h
          · simp at h
          · rw [List.take_succ_cons, List.length_cons, List.length_cons] at h
            have hrest := ih (by omega) (Nat.succ.inj h)
            rw [List.take_succ_cons, utf8_cons, List.length_append, String.length_utf8EncodeChar]
            omega

theorem words_of_neg {text : Text} {count dispBuf : Nat} {buflen : Int} (h : buflen < 0)
    {ids : List Nat} (hids : words text count dispBuf buflen = .ok ids) : ids = [] := by
  cases count with
  | zero => exact (Except.ok.inj hids).symm
  | succ count =>
      rw [words] at hids
      cases hval : text.read dispBuf with
      | error e =>
          rw [hval] at hids
          cases hids
      | ok val =>
          simp only [hval, bind, Except.bind, subInt] at hids
          split_ifs at hids
          · dsimp only at hids
            rw [if_pos (by omega)] at hids
            exact (Except.ok.inj hids).symm

/-- The loop never leaves a text: what it has passed and `buflen` together are at most the length. -/
theorem words_inside {text : Text} (count : Nat) {dispBuf : Nat} {buflen : Int}
    (hdisp : dispBuf ≤ text.bytes.length) (hlen : dispBuf + buflen ≤ text.bytes.length) :
    words text count dispBuf buflen = .error .overflow ∨
      ∃ ids, words text count dispBuf buflen = .ok ids ∧ ids.length ≤ count ∧
        ∀ id ∈ ids, id < MAX_ICON_PIC := by
  induction count generalizing dispBuf buflen with
  | zero => exact Or.inr ⟨[], rfl, Nat.le_refl 0, fun id hid => absurd hid List.not_mem_nil⟩
  | succ count ih =>
      obtain ⟨val, hval⟩ := text.read_ok hdisp
      simp only [words, hval, bind, Except.bind, subInt]
      split
      · rename_i heq
        split at heq
        · cases heq
        · obtain rfl := Except.error.inj heq
          exact Or.inl rfl
      · rename_i rest heq
        split at heq
        · obtain rfl := Except.ok.inj heq
          split
          · exact Or.inr ⟨[], rfl, Nat.zero_le _, fun id hid => absurd hid List.not_mem_nil⟩
          · rename_i hrest
            have hword : dispBuf + getWordCharNum val ≤ text.bytes.length := by omega
            have hleft : (dispBuf + getWordCharNum val : Nat) + (buflen - getWordCharNum val) ≤
                (text.bytes.length : Int) := by omega
            obtain ⟨id, hid, hindex⟩ := getWordIndex_lt hword
            rw [hindex]
            rcases ih hword hleft with hover | ⟨ids, hids, hcount, hlt⟩
            · rw [hover]
              exact Or.inl rfl
            · rw [hids]
              refine Or.inr ⟨id :: ids, rfl, Nat.succ_le_succ hcount, ?_⟩
              intro id' hid'
              rcases List.mem_cons.mp hid' with rfl | hmem
              · exact hid
              · exact hlt id' hmem
        · cases heq

/-! ## Texts to glyphs -/

theorem wrapInt_le {n : Nat} : wrapInt n ≤ n := by
  rw [wrapInt, Int.bmod_def]
  split <;> omega

theorem id_list_inside (text : Text) :
    id_list text = .error .overflow ∨ id_list text = .ok none ∨
      ∃ ids, id_list text = .ok (some ids) ∧ ids.length ≤ DISP_ICON_NUM ∧
        ∀ id ∈ ids, id < MAX_ICON_PIC := by
  simp only [id_list]
  split
  · exact Or.inr (Or.inl rfl)
  · have hlen : ((0 : Nat) : Int) + wrapInt text.bytes.length ≤ text.bytes.length := by
      rw [Nat.cast_zero, Int.zero_add]
      exact wrapInt_le
    rcases words_inside DISP_ICON_NUM (Nat.zero_le _) hlen with hover | ⟨ids, hids, h⟩
    · rw [hover]
      exact Or.inl rfl
    · rw [hids]
      exact Or.inr (Or.inr ⟨ids, rfl, h⟩)

theorem utf8EncodeChar_ne_zero {c : Char} (h : c ≠ Char.ofNat 0) :
    ∀ b ∈ String.utf8EncodeChar c, b ≠ 0 := by
  have hofNat : ∀ n, n ≠ 0 → n < 256 → UInt8.ofNat n ≠ 0 := by
    intro n hn hlt hzero
    have hnat : n % 2 ^ 8 = 0 := by
      rw [← UInt8.toNat_ofNat', hzero]
      rfl
    omega
  have hne : c.val.toNat ≠ 0 := by
    intro hzero
    apply h
    rw [← Char.ofNat_toNat c]
    exact congrArg Char.ofNat hzero
  intro b
  fun_cases String.utf8EncodeChar c with
  | case1 v hle =>
      intro hb
      obtain rfl := List.mem_singleton.mp hb
      exact hofNat _ hne (by omega)
  | case2 =>
      simp only [List.mem_cons, List.not_mem_nil, or_false]
      rintro (rfl | rfl)
      · exact hofNat _ (by omega) (by omega)
      · exact hofNat _ (by omega) (by omega)
  | case3 =>
      simp only [List.mem_cons, List.not_mem_nil, or_false]
      rintro (rfl | rfl | rfl)
      · exact hofNat _ (by omega) (by omega)
      · exact hofNat _ (by omega) (by omega)
      · exact hofNat _ (by omega) (by omega)
  | case4 =>
      simp only [List.mem_cons, List.not_mem_nil, or_false]
      rintro (rfl | rfl | rfl | rfl)
      · exact hofNat _ (by omega) (by omega)
      · exact hofNat _ (by omega) (by omega)
      · exact hofNat _ (by omega) (by omega)
      · exact hofNat _ (by omega) (by omega)

/-- A valid UTF-8 text that is not empty. -/
structure DisplayString where
  chars : List Char
  ne_nil : chars ≠ []
  no_nul : ∀ c ∈ chars, c ≠ Char.ofNat 0

def DisplayString.text (s : DisplayString) : Text where
  bytes := utf8 s.chars
  no_nul := by
    intro b hb
    obtain ⟨c, hc, hmem⟩ := List.mem_flatMap.mp hb
    exact utf8EncodeChar_ne_zero (s.no_nul c hc) b hmem

/-- One glyph for each character in order, as many as there is room for. -/
structure DisplayString.Shows (s : DisplayString) (ids : List Nat) : Prop where
  glyphs : ids = (s.chars.take DISP_ICON_NUM).map glyph
  number : ids.length = min DISP_ICON_NUM s.chars.length
  pictures : ∀ id ∈ ids, id < MAX_ICON_PIC

theorem glyph_lt (c : Char) : glyph c < MAX_ICON_PIC := by
  by_cases hmem : c ∈ icons
  · rw [← length_icons, glyph, if_pos hmem]
    exact List.idxOf_lt_length_of_mem hmem
  · rw [glyph_of_notMem hmem]
    decide

theorem DisplayString.shows_iff (s : DisplayString) {ids : List Nat} :
    s.Shows ids ↔ ids = (s.chars.take DISP_ICON_NUM).map glyph := by
  constructor
  · exact fun h => h.glyphs
  · rintro rfl
    refine ⟨rfl, ?_, ?_⟩
    · rw [List.length_map, List.length_take]
    · intro id hid
      obtain ⟨c, -, rfl⟩ := List.mem_map.mp hid
      exact glyph_lt c

/-- The first characters are shown when their bytes are no more than the `int` that the length of the
text is taken for. -/
theorem DisplayString.shown_iff (s : DisplayString) :
    (∃ ids, id_list s.text = .ok (some ids) ∧ s.Shows ids) ↔
      (utf8 (s.chars.take DISP_ICON_NUM)).length ≤ wrapInt (utf8 s.chars).length := by
  obtain ⟨c, chars, hchars⟩ := List.exists_cons_of_ne_nil s.ne_nil
  have hpos : 0 < (utf8 (s.chars.take DISP_ICON_NUM)).length := by
    have hsize := c.utf8Size_pos
    rw [hchars, DISP_ICON_NUM, List.take_succ_cons, utf8_cons, List.length_append,
      String.length_utf8EncodeChar]
    omega
  have hbuf : wrapInt (s.text.bytes.length) = wrapInt (utf8 s.chars).length := rfl
  simp only [s.shows_iff, id_list, hbuf]
  have hle : wrapInt (utf8 s.chars).length ≤ (utf8 s.chars).length := wrapInt_le
  have hint : wrapInt (utf8 s.chars).length < 2 ^ 31 := Int.bmod_lt (by decide)
  generalize wrapInt (utf8 s.chars).length = buflen at *
  by_cases hneg : 0 < buflen
  · have hbytes : s.text.bytes = [] ++ utf8 s.chars := rfl
    have hwords := words_utf8 DISP_ICON_NUM hbytes (Int.le_of_lt hneg) hle hint
    rw [List.length_nil] at hwords
    rw [if_neg (by omega), hwords]
    constructor
    · rintro ⟨ids, hids, rfl⟩
      have hmap := Option.some.inj (Except.ok.inj hids)
      have hlength := congrArg List.length hmap
      rw [List.length_map, List.length_map] at hlength
      exact le_of_fitting_length (Int.le_of_lt hneg) hlength
    · intro hfit
      rw [fitting_eq hfit]
      exact ⟨_, rfl, rfl⟩
  · constructor
    · rintro ⟨ids, hids, rfl⟩
      split at hids
      · cases hids
      · rw [hchars, DISP_ICON_NUM, List.take_succ_cons, List.map_cons] at hids
        cases hwords : words s.text 23 0 buflen with
        | error e =>
            rw [hwords] at hids
            cases hids
        | ok ids =>
            rw [hwords, words_of_neg (by omega) hwords] at hids
            cases hids
    · omega

theorem DisplayString.length_take_le (s : DisplayString) (n : Nat) :
    (utf8 (s.chars.take n)).length ≤ (utf8 s.chars).length := by
  have hsplit : utf8 s.chars = utf8 (s.chars.take n) ++ utf8 (s.chars.drop n) := by
    rw [utf8, utf8, utf8, ← List.flatMap_append, List.take_append_drop]
  rw [hsplit, List.length_append]
  exact Nat.le_add_right _ _

/-- The loop shows every text whose length is an `int`, and no text makes it read behind the NUL. -/
theorem id_list_glyphs :
    (∀ s : DisplayString, (utf8 s.chars).length < 2 ^ 31 →
      ∃ ids, id_list s.text = .ok (some ids) ∧ s.Shows ids) ∧
    (∀ c, c ∉ icons → glyph c = 19) ∧
    ∀ text : Text, id_list text ≠ .error .behind := by
  refine ⟨?_, ?_, ?_⟩
  · intro s hlen
    have hint : wrapInt (utf8 s.chars).length = (utf8 s.chars).length :=
      wrapInt_of_fits (by unfold FitsInt; omega)
    apply s.shown_iff.mpr
    rw [hint]
    exact Int.ofNat_le.mpr (s.length_take_le DISP_ICON_NUM)
  · exact fun c => glyph_of_notMem
  · intro text
    rcases id_list_inside text with h | h | ⟨ids, h, -⟩ <;> rw [h] <;> exact nofun

def letters (n : Nat) (h : 0 < n) : DisplayString where
  chars := List.replicate n 'A'
  ne_nil := List.ne_nil_of_length_pos (by rwa [List.length_replicate])
  no_nul := by
    intro c hc
    rw [List.eq_of_mem_replicate hc]
    decide

theorem length_letters (n : Nat) : (utf8 (List.replicate n 'A')).length = n := by
  induction n with
  | zero => rfl
  | succ n ih =>
      rw [List.replicate_succ, utf8_cons, List.length_append, ih, String.length_utf8EncodeChar]
      exact Nat.add_comm 1 n

theorem words_short {text : Text} {dispBuf : Nat} {buflen : Int} {val : UInt8} (count : Nat)
    (hval : text.read dispBuf = .ok val) (hfits : FitsInt (buflen - getWordCharNum val))
    (hneg : buflen - getWordCharNum val < 0) :
    words text (count + 1) dispBuf buflen = .ok [] := by
  simp only [words, hval, subInt, if_pos hfits, if_pos hneg, bind, Except.bind]
  rfl

/-- The loop ends before the first glyph if the length is a negative `int`. -/
theorem id_list_letters {n : Nat} (h : 0 < n) (hneg : wrapInt n < 0)
    (hfits : FitsInt (wrapInt n - 1)) : id_list (letters n h).text = .ok (some []) := by
  have hread : (letters n h).text.read 0 = .ok 65 := by
    obtain ⟨m, rfl⟩ := Nat.exists_eq_add_of_lt h
    have hsplit : (letters (0 + m + 1) h).text.bytes =
        [] ++ (String.utf8EncodeChar 'A' ++ utf8 (List.replicate (0 + m) 'A')) :=
      congrArg utf8 List.replicate_succ
    have hfirst : (String.utf8EncodeChar 'A')[0]? = some 65 := by decide
    exact Text.read_word hsplit hfirst
  have hlen : (letters n h).text.bytes.length = n := length_letters n
  have hword : getWordCharNum 65 = 1 := by decide
  have hwords : words (letters n h).text DISP_ICON_NUM 0 (wrapInt n) = .ok [] := by
    apply words_short 22 hread
    · rwa [hword]
    · rw [hword]
      omega
  rw [id_list, hlen, if_neg (Int.ne_of_lt hneg), hwords]
  rfl

/-- A length of 2^31 + 1 is a negative `int`. -/
theorem id_list_long :
    id_list (letters (2 ^ 31 + 1) (by decide)).text = .ok (some []) ∧
      ¬ ∃ ids, id_list (letters (2 ^ 31 + 1) (by decide)).text = .ok (some ids) ∧
        (letters (2 ^ 31 + 1) (by decide)).Shows ids := by
  have hnone := id_list_letters (n := 2 ^ 31 + 1) (by decide) (by decide) (by decide)
  constructor
  · exact hnone
  · rintro ⟨ids, hids, hshows⟩
    obtain rfl := Option.some.inj (Except.ok.inj (hnone.symm.trans hids))
    have hnumber := hshows.number
    rw [letters, List.length_replicate, List.length_nil, DISP_ICON_NUM] at hnumber
    omega

/-! ## From the text to the picture -/

theorem mapM_picture {ids : List Nat} (h : ∀ id ∈ ids, id < MAX_ICON_PIC) :
    ∃ id_list, ids.mapM picture = .ok id_list ∧ id_list.map Fin.val = ids := by
  induction ids with
  | nil => exact ⟨[], rfl, rfl⟩
  | cons id ids ih =>
      obtain ⟨id_list, hrun, hval⟩ := ih fun id hid => h id (List.mem_cons_of_mem _ hid)
      have hid : id < MAX_ICON_PIC := h id List.mem_cons_self
      refine ⟨⟨id, hid⟩ :: id_list, ?_, ?_⟩
      · rw [List.mapM_cons, hrun, picture, dif_pos hid]
        rfl
      · rw [List.map_cons, hval]

/-- `doWaterMark` blends one glyph for each character of the text. -/
theorem doWaterMark_shows {data : WaterMarkInData} {s : DisplayString} (wm_info : WaterMarkInfo)
    (hdisplay : data.display = some s.text)
    (hlen : (utf8 (s.chars.take DISP_ICON_NUM)).length ≤ wrapInt (utf8 s.chars).length) :
    ∃ id_list : List (Fin MAX_ICON_PIC),
      id_list.map Fin.val = (s.chars.take DISP_ICON_NUM).map glyph ∧
      doWaterMark (some data) (some wm_info) =
        match watermark_blending data.layer wm_info ⟨data.pos, id_list⟩ with
        | some (_, bytes) => .ok (0, some bytes)
        | none => .error .outside := by
  obtain ⟨ids, hids, hshows⟩ := s.shown_iff.mpr hlen
  obtain ⟨id_list, hrun, hval⟩ := mapM_picture hshows.pictures
  refine ⟨id_list, hval.trans hshows.glyphs, ?_⟩
  have hmark : doWaterMark (some data) (some wm_info) =
      (ids.mapM picture).bind fun id_list =>
        match watermark_blending data.layer wm_info ⟨data.pos, id_list⟩ with
        | some (_, bytes) => .ok ((0 : Int), some bytes)
        | none => .error .outside := by
    simp only [doWaterMark, hdisplay, hids]
    rfl
  rw [hmark, hrun]
  rfl

end AwHal.Camera.WaterMarkText
