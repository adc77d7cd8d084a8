import Mathlib.Data.Nat.Digits.Defs
import Mathlib.Tactic.IntervalCases

/-!
# Numbers as text

What `printf` makes of a number with `%x` and `%d`, what `strtoul` reads from a text in base 16, and
a file that is written over without being truncated.
-/

namespace AwHal.Lib

/-! ## Printing -/

def printHex (n : Nat) : List Char := Nat.toDigits 16 n

def printInt : Int → List Char
  | .ofNat n => Nat.toDigits 10 n
  | .negSucc n => '-' :: Nat.toDigits 10 (n + 1)

theorem length_printHex_le {n e : Nat} (he : 0 < e) (h : n < 16 ^ e) : (printHex n).length ≤ e :=
  Nat.toDigits_length 16 n e he h

theorem lt_length_printHex {n e : Nat} (h : 16 ^ e ≤ n) : e < (printHex n).length := by
  unfold printHex
  induction e generalizing n with
  | zero => exact List.length_pos_iff.mpr Nat.toDigits_ne_nil
  | succ e ih =>
      rw [Nat.pow_succ] at h
      have hdiv : 16 ^ e ≤ n / 16 := by omega
      have hpos : 0 < 16 ^ e := Nat.pow_pos (by decide)
      rw [Nat.toDigits_eq_if (by decide), if_neg (by omega), List.length_append]
      have := ih hdiv
      simp only [List.length_singleton]
      omega

theorem length_printInt_le {n : Int} (hlo : -2 ^ 31 ≤ n) (hhi : n < 2 ^ 31) :
    (printInt n).length ≤ 11 := by
  cases n with
  | ofNat n =>
      have hn : n < 10 ^ 10 := by
        simp only [Int.ofNat_eq_natCast] at hhi
        omega
      exact (Nat.toDigits_length 10 n 10 (by decide) hn).trans (by decide)
  | negSucc n =>
      have hn : n + 1 < 10 ^ 10 := by omega
      have := Nat.toDigits_length 10 (n + 1) 10 (by decide) hn
      simp only [printInt, List.length_cons]
      omega

theorem mem_printInt {n : Int} {c : Char} (h : c ∈ printInt n) : c = '-' ∨ c.isDigit := by
  cases n with
  | ofNat n => exact .inr (Nat.isDigit_of_mem_toDigits (by decide) (by decide) h)
  | negSucc n =>
      rcases List.mem_cons.mp h with rfl | h
      · exact .inl rfl
      · exact .inr (Nat.isDigit_of_mem_toDigits (by decide) (by decide) h)

/-! ## `strtoul` -/

def hexValue (c : Char) : Option Nat :=
  if '0' ≤ c ∧ c ≤ '9' then some (c.toNat - '0'.toNat)
  else if 'a' ≤ c ∧ c ≤ 'f' then some (c.toNat - 'a'.toNat + 10)
  else if 'A' ≤ c ∧ c ≤ 'F' then some (c.toNat - 'A'.toNat + 10)
  else none

/-- The number that the hexadecimal digits at the start of a text append to `acc`. -/
def hexDigits (acc : Nat) : List Char → Nat
  | [] => acc
  | c :: rest =>
      match hexValue c with
      | some d => hexDigits (16 * acc + d) rest
      | none => acc

def isSpace (c : Char) : Bool := c == ' ' || decide ('\t' ≤ c ∧ c ≤ '\r')

def ULONG_MAX : Nat := 2 ^ 64 - 1

def splitSign : List Char → Bool × List Char
  | '-' :: rest => (true, rest)
  | '+' :: rest => (false, rest)
  | text => (false, text)

def dropHexMark : List Char → List Char
  | '0' :: x :: d :: rest =>
      if (x = 'x' ∨ x = 'X') ∧ (hexValue d).isSome then d :: rest else '0' :: x :: d :: rest
  | text => text

/-- `strtoul(text, NULL, 16)` with a 64-bit `unsigned long`. -/
def strtoul16 (text : List Char) : Nat :=
  let (negative, text) := splitSign (text.dropWhile isSpace)
  let n := hexDigits 0 (dropHexMark text)
  if ULONG_MAX < n then ULONG_MAX
  else if negative then (2 ^ 64 - n) % 2 ^ 64
  else n

/-- The number that the digits below `base` at the start of a text append to `acc`. -/
def digitsIn (base acc : Nat) : List Char → Nat
  | [] => acc
  | c :: rest =>
      match hexValue c with
      | some d => if d < base then digitsIn base (base * acc + d) rest else acc
      | none => acc

/-- `strtoul(text, NULL, 0)`: the text says its base. -/
def strtoul0 (text : List Char) : Nat :=
  let (negative, text) := splitSign (text.dropWhile isSpace)
  let n :=
    if dropHexMark text ≠ text then digitsIn 16 0 (dropHexMark text)
    else if text.head? = some '0' then digitsIn 8 0 text
    else digitsIn 10 0 text
  if ULONG_MAX < n then ULONG_MAX
  else if negative then (2 ^ 64 - n) % 2 ^ 64
  else n

theorem hexValue_digitChar {d : Nat} (h : d < 16) : hexValue d.digitChar = some d := by
  interval_cases d <;> decide

theorem printHex_eq (n : Nat) :
    printHex n = (if n < 16 then [] else printHex (n / 16)) ++ [(n % 16).digitChar] := by
  unfold printHex
  rw [Nat.toDigits_eq_if (by decide)]
  split
  · rename_i hlt
    rw [Nat.mod_eq_of_lt hlt, List.nil_append]
  · rfl

theorem mem_printHex {n : Nat} {c : Char} (h : c ∈ printHex n) :
    ∃ d, d < 16 ∧ c = d.digitChar := by
  induction n using Nat.strong_induction_on with
  | h n ih =>
      rw [printHex_eq, List.mem_append, List.mem_singleton] at h
      rcases h with h | h
      · split at h
        · exact absurd h List.not_mem_nil
        · exact ih (n / 16) (by omega) h
      · exact ⟨n % 16, Nat.mod_lt n (by decide), h⟩

theorem not_mem_printHex {c : Char} (hc : hexValue c = none) (n : Nat) : c ∉ printHex n := by
  intro h
  obtain ⟨d, hd, rfl⟩ := mem_printHex h
  rw [hexValue_digitChar hd] at hc
  cases hc

theorem hexDigits_concat (acc : Nat) {digits : List Char}
    (h : ∀ c ∈ digits, ∃ d, d < 16 ∧ c = d.digitChar) {d : Nat} (hd : d < 16) :
    hexDigits acc (digits ++ [d.digitChar]) = 16 * hexDigits acc digits + d := by
  induction digits generalizing acc with
  | nil => simp only [List.nil_append, hexDigits, hexValue_digitChar hd]
  | cons c digits ih =>
      obtain ⟨d', hd', rfl⟩ := h c List.mem_cons_self
      simp only [List.cons_append, hexDigits, hexValue_digitChar hd']
      exact ih _ fun c' hc' => h c' (List.mem_cons_of_mem _ hc')

theorem hexDigits_printHex (n : Nat) : hexDigits 0 (printHex n) = n := by
  induction n using Nat.strong_induction_on with
  | h n ih =>
      have hlast : n % 16 < 16 := Nat.mod_lt n (by decide)
      rw [printHex_eq]
      split
      · simp only [List.nil_append, hexDigits, hexValue_digitChar hlast]
        omega
      · rw [hexDigits_concat 0 (fun c hc => mem_printHex hc) hlast, ih (n / 16) (by omega)]
        omega

theorem isSpace_digitChar {d : Nat} (h : d < 16) : isSpace d.digitChar = false := by
  interval_cases d <;> decide

theorem splitSign_digitChar {d : Nat} (h : d < 16) (rest : List Char) :
    splitSign (d.digitChar :: rest) = (false, d.digitChar :: rest) := by
  interval_cases d <;> rfl

theorem dropHexMark_of_not_mem {text : List Char} (hx : 'x' ∉ text) (hX : 'X' ∉ text) :
    dropHexMark text = text := by
  unfold dropHexMark
  split
  · rename_i x d rest
    apply if_neg
    rintro ⟨rfl | rfl, -⟩
    · exact hx (by simp)
    · exact hX (by simp)
  · rfl

/-- What is printed with `%x` is read back. -/
theorem strtoul16_printHex {n : Nat} (h : n ≤ ULONG_MAX) : strtoul16 (printHex n) = n := by
  have hsign : splitSign ((printHex n).dropWhile isSpace) = (false, printHex n) := by
    cases htext : printHex n with
    | nil => rfl
    | cons c rest =>
        obtain ⟨d, hd, rfl⟩ := mem_printHex (htext ▸ List.mem_cons_self : c ∈ printHex n)
        rw [List.dropWhile_cons_of_neg (by simp [isSpace_digitChar hd]), splitSign_digitChar hd]
  have hmark : dropHexMark (printHex n) = printHex n :=
    dropHexMark_of_not_mem (not_mem_printHex (by decide) n) (not_mem_printHex (by decide) n)
  simp only [strtoul16, hsign, hmark, hexDigits_printHex]
  rw [if_neg (by omega)]
  rfl

/-! ## Hexadecimal texts -/

/-- `%X` has capital letters. -/
def upperDigit (d : Nat) : Char := d.digitChar.toUpper

/-- `%04X` of a number below `2 ^ 16`. -/
def printHex4 (n : Nat) : List Char :=
  [upperDigit (n / 4096 % 16), upperDigit (n / 256 % 16), upperDigit (n / 16 % 16),
    upperDigit (n % 16)]

def IsHexText (text : List Char) : Prop :=
  ∀ c ∈ text, ∃ d, d < 16 ∧ (c = d.digitChar ∨ c = upperDigit d)

theorem hexValue_of_digit {d : Nat} (h : d < 16) {c : Char}
    (hc : c = d.digitChar ∨ c = upperDigit d) : hexValue c = some d := by
  rcases hc with rfl | rfl <;> interval_cases d <;> decide

theorem isHexText_printHex (n : Nat) : IsHexText (printHex n) := by
  intro c hc
  obtain ⟨d, hd, rfl⟩ := mem_printHex hc
  exact ⟨d, hd, Or.inl rfl⟩

theorem isHexText_printHex4 (n : Nat) : IsHexText (printHex4 n) := by
  intro c hc
  simp only [printHex4, List.mem_cons, List.not_mem_nil, or_false] at hc
  rcases hc with rfl | rfl | rfl | rfl
  all_goals exact ⟨_, Nat.mod_lt _ (by decide), Or.inr rfl⟩

theorem IsHexText.append {a b : List Char} (ha : IsHexText a) (hb : IsHexText b) :
    IsHexText (a ++ b) := by
  intro c hc
  rcases List.mem_append.mp hc with hc | hc
  · exact ha c hc
  · exact hb c hc

theorem IsHexText.take {a : List Char} (ha : IsHexText a) (k : Nat) : IsHexText (a.take k) :=
  fun c hc => ha c (List.mem_of_mem_take hc)

theorem IsHexText.drop {a : List Char} (ha : IsHexText a) (k : Nat) : IsHexText (a.drop k) :=
  fun c hc => ha c (List.mem_of_mem_drop hc)

theorem IsHexText.notMem {text : List Char} (h : IsHexText text) {c : Char}
    (hc : hexValue c = none) : c ∉ text := by
  intro hmem
  obtain ⟨d, hd, hdigit⟩ := h c hmem
  rw [hexValue_of_digit hd hdigit] at hc
  cases hc

theorem hexDigits_acc (acc : Nat) {text : List Char} (h : IsHexText text) :
    hexDigits acc text = acc * 16 ^ text.length + hexDigits 0 text := by
  induction text generalizing acc with
  | nil => simp [hexDigits]
  | cons c text ih =>
      have hrest : IsHexText text := fun c' hc' => h c' (List.mem_cons_of_mem _ hc')
      obtain ⟨d, hd, hdigit⟩ := h c List.mem_cons_self
      simp only [hexDigits, hexValue_of_digit hd hdigit]
      rw [ih (16 * acc + d) hrest, ih (16 * 0 + d) hrest, List.length_cons, Nat.pow_succ]
      ring

theorem hexDigits_append {a b : List Char} (ha : IsHexText a) (hb : IsHexText b) :
    hexDigits 0 (a ++ b) = hexDigits 0 a * 16 ^ b.length + hexDigits 0 b := by
  have happend : ∀ acc, hexDigits acc (a ++ b) = hexDigits (hexDigits acc a) b := by
    induction a with
    | nil => exact fun _ => rfl
    | cons c a ih =>
        intro acc
        obtain ⟨d, hd, hdigit⟩ := ha c List.mem_cons_self
        simp only [List.cons_append, hexDigits, hexValue_of_digit hd hdigit]
        exact ih (fun c' hc' => ha c' (List.mem_cons_of_mem _ hc')) _
  rw [happend, hexDigits_acc _ hb]

theorem hexDigits_lt {text : List Char} (h : IsHexText text) :
    hexDigits 0 text < 16 ^ text.length := by
  induction text with
  | nil => decide
  | cons c text ih =>
      have hrest := ih fun c' hc' => h c' (List.mem_cons_of_mem _ hc')
      obtain ⟨d, hd, hdigit⟩ := h c List.mem_cons_self
      simp only [hexDigits, hexValue_of_digit hd hdigit]
      rw [hexDigits_acc _ fun c' hc' => h c' (List.mem_cons_of_mem _ hc'), List.length_cons,
        Nat.pow_succ]
      have hmul := Nat.mul_le_mul_right (16 ^ text.length) (by omega : 16 * 0 + d ≤ 15)
      omega

theorem hexDigits_take {text : List Char} (h : IsHexText text) (k : Nat) :
    hexDigits 0 (text.take k) = hexDigits 0 text / 16 ^ (text.length - k) := by
  have hsplit := hexDigits_append (h.take k) (h.drop k)
  have hlt := hexDigits_lt (h.drop k)
  rw [List.take_append_drop] at hsplit
  rw [List.length_drop] at hsplit hlt
  rw [hsplit, Nat.mul_comm, Nat.mul_add_div (Nat.pow_pos (by decide)), Nat.div_eq_of_lt hlt,
    Nat.add_zero]

/-- `strtoul` reads a text of digits whole. -/
theorem strtoul16_of_isHexText {text : List Char} (h : IsHexText text) (hlength : text.length ≤ 16) :
    strtoul16 text = hexDigits 0 text := by
  have hsign : splitSign (text.dropWhile isSpace) = (false, text) := by
    cases text with
    | nil => rfl
    | cons c rest =>
        obtain ⟨d, hd, hdigit⟩ := h c List.mem_cons_self
        have hspace : isSpace c = false := by
          rcases hdigit with rfl | rfl <;> interval_cases d <;> decide
        rw [List.dropWhile_cons_of_neg (by simp [hspace])]
        rcases hdigit with rfl | rfl <;> interval_cases d <;> rfl
  have hmark : dropHexMark text = text :=
    dropHexMark_of_not_mem (h.notMem (by decide)) (h.notMem (by decide))
  have hlt := (hexDigits_lt h).trans_le (Nat.pow_le_pow_right (by decide) hlength)
  simp only [strtoul16, hsign, hmark]
  rw [if_neg (by unfold ULONG_MAX; omega)]
  rfl

theorem hexDigits_printHex4 {n : Nat} (h : n < 2 ^ 16) : hexDigits 0 (printHex4 n) = n := by
  have hdigit : ∀ k, hexValue (upperDigit (k % 16)) = some (k % 16) :=
    fun k => hexValue_of_digit (Nat.mod_lt _ (by decide)) (Or.inr rfl)
  simp only [printHex4, hexDigits, hdigit]
  omega

/-! ## `strtoul` with base 0 -/

def printHexWidth (width n : Nat) : List Char :=
  List.replicate (width - (printHex n).length) '0' ++ printHex n

theorem isHexText_printHexWidth (width n : Nat) : IsHexText (printHexWidth width n) := by
  refine IsHexText.append ?_ (isHexText_printHex n)
  intro c hc
  exact ⟨0, by decide, Or.inl (List.eq_of_mem_replicate hc)⟩

theorem hexDigits_printHexWidth (width n : Nat) : hexDigits 0 (printHexWidth width n) = n := by
  have hzeros : ∀ k, hexDigits 0 (List.replicate k '0' ++ printHex n) = n := by
    intro k
    induction k with
    | zero => exact hexDigits_printHex n
    | succ k ih => exact ih
  exact hzeros _

theorem length_printHexWidth (width n : Nat) :
    (printHexWidth width n).length = max width (printHex n).length := by
  rw [printHexWidth, List.length_append, List.length_replicate]
  omega

theorem hexValue_lt {c : Char} {d : Nat} (h : hexValue c = some d) : d < 16 := by
  unfold hexValue at h
  have hzero : '0'.toNat = 48 := rfl
  have ha : 'a'.toNat = 97 := rfl
  have hA : 'A'.toNat = 65 := rfl
  split at h
  · rename_i hc
    have hle : c.toNat ≤ '9'.toNat := hc.2
    cases h
    have : '9'.toNat = 57 := rfl
    omega
  · split at h
    · rename_i hc
      have hle : c.toNat ≤ 'f'.toNat := hc.2
      cases h
      have : 'f'.toNat = 102 := rfl
      omega
    · split at h
      · rename_i hc
        have hle : c.toNat ≤ 'F'.toNat := hc.2
        cases h
        have : 'F'.toNat = 70 := rfl
        omega
      · cases h

theorem digitsIn_sixteen (acc : Nat) (text : List Char) :
    digitsIn 16 acc text = hexDigits acc text := by
  induction text generalizing acc with
  | nil => rfl
  | cons c text ih =>
      rw [digitsIn, hexDigits]
      cases hc : hexValue c with
      | none => rfl
      | some d =>
          dsimp only
          rw [if_pos (hexValue_lt hc), ih]

/-- A text of digits behind `0x` is read in base 16. -/
theorem strtoul0_hexMark {text : List Char} (h : IsHexText text) (hne : text ≠ [])
    (hlength : text.length ≤ 16) : strtoul0 ('0' :: 'x' :: text) = hexDigits 0 text := by
  obtain ⟨c, rest, rfl⟩ := List.exists_cons_of_ne_nil hne
  obtain ⟨d, hd, hdigit⟩ := h c List.mem_cons_self
  have hmark : dropHexMark ('0' :: 'x' :: c :: rest) = c :: rest := by
    rw [dropHexMark, if_pos ⟨Or.inl rfl, by rw [hexValue_of_digit hd hdigit]; rfl⟩]
  have hne : c :: rest ≠ '0' :: 'x' :: c :: rest := by
    intro heq
    have hlen := congrArg List.length heq
    simp at hlen
  have hlt := (hexDigits_lt h).trans_le (Nat.pow_le_pow_right (by decide) hlength)
  have hsign : splitSign (('0' :: 'x' :: c :: rest).dropWhile isSpace) =
      (false, '0' :: 'x' :: c :: rest) := rfl
  simp only [strtoul0, hsign, hmark, if_pos hne, digitsIn_sixteen]
  rw [if_neg (by unfold ULONG_MAX; omega)]
  rfl

structure Stops (c : Char) : Prop where
  value : hexValue c = none
  mark : c ≠ 'x' ∧ c ≠ 'X'
  sign : c ≠ '-' ∧ c ≠ '+'

theorem digitsIn_append_stop {c : Char} (hc : Stops c) (base acc : Nat) (text rest : List Char) :
    digitsIn base acc (text ++ c :: rest) = digitsIn base acc text := by
  induction text generalizing acc with
  | nil => simp only [List.nil_append, digitsIn, hc.value]
  | cons d text ih =>
      rw [List.cons_append, digitsIn, digitsIn]
      cases hexValue d with
      | none => rfl
      | some n =>
          dsimp only
          rw [ih]

theorem splitSign_append_stop {c : Char} (hc : Stops c) (text rest : List Char) :
    splitSign (text ++ c :: rest) = ((splitSign text).1, (splitSign text).2 ++ c :: rest) := by
  cases text with
  | nil =>
      rw [List.nil_append, splitSign]
      · rfl
      · intro rest' heq
        exact hc.sign.1 (List.cons.inj heq).1
      · intro rest' heq
        exact hc.sign.2 (List.cons.inj heq).1
  | cons d text =>
      by_cases hminus : d = '-'
      · subst hminus
        rfl
      · by_cases hplus : d = '+'
        · subst hplus
          rfl
        · have hnot : ∀ t, splitSign (d :: t) = (false, d :: t) := by
            intro t
            rw [splitSign]
            · exact fun rest' heq => hminus (List.cons.inj heq).1
            · exact fun rest' heq => hplus (List.cons.inj heq).1
          rw [List.cons_append, hnot, hnot, List.cons_append]

theorem dropHexMark_of_ne {c : Char} (hc : c ≠ '0') (text : List Char) :
    dropHexMark (c :: text) = c :: text := by
  rw [dropHexMark]
  rintro x d rest heq
  exact hc (List.cons.inj heq).1

/-- The mark of a base ends in front of the character. -/
theorem dropHexMark_append_stop {c : Char} (hc : Stops c) (text rest : List Char) :
    dropHexMark (text ++ c :: rest) = dropHexMark text ++ c :: rest := by
  cases text with
  | nil =>
      refine dropHexMark_of_ne ?_ rest
      rintro rfl
      exact absurd hc.value (by decide)
  | cons a text =>
      by_cases ha : a = '0'
      · subst ha
        match text with
        | [] => cases rest <;> simp [dropHexMark, hc.mark]
        | [b] => simp [dropHexMark, hc.value]
        | b :: d :: text =>
            simp only [List.cons_append, dropHexMark]
            split <;> rfl
      · rw [List.cons_append, dropHexMark_of_ne ha, dropHexMark_of_ne ha, List.cons_append]

theorem strtoul0_of_dropWhile {c : Char} (hc : Stops c) {a b rest : List Char}
    (h : a.dropWhile isSpace = b.dropWhile isSpace ++ c :: rest) : strtoul0 a = strtoul0 b := by
  have hhead : ∀ t : List Char, (t ++ c :: rest).head? = some '0' ↔ t.head? = some '0' := by
    intro t
    cases t with
    | nil =>
        have hne : c ≠ '0' := by
          rintro rfl
          exact absurd hc.value (by decide)
        simp [hne]
    | cons d t => simp
  simp only [strtoul0, h, splitSign_append_stop hc, dropHexMark_append_stop hc,
    digitsIn_append_stop hc, hhead, Ne, List.append_left_inj]

theorem dropWhile_append_of_not {p : Char → Bool} {c : Char} (hc : p c = false)
    (text rest : List Char) : (text ++ c :: rest).dropWhile p = text.dropWhile p ++ c :: rest := by
  induction text with
  | nil => exact List.dropWhile_cons_of_neg (by simp [hc])
  | cons d text ih =>
      by_cases hd : p d = true
      · rw [List.cons_append, List.dropWhile_cons_of_pos hd, List.dropWhile_cons_of_pos hd, ih]
      · rw [List.cons_append, List.dropWhile_cons_of_neg hd, List.dropWhile_cons_of_neg hd,
          List.cons_append]

/-- `strtoul` does not look behind the character. -/
theorem strtoul0_append_stop {c : Char} (hc : Stops c) (hspace : isSpace c = false)
    (text rest : List Char) : strtoul0 (text ++ c :: rest) = strtoul0 text :=
  strtoul0_of_dropWhile hc (dropWhile_append_of_not hspace text rest)

/-- Spaces behind a number do not matter. -/
theorem strtoul0_append_spaces (text : List Char) (n : Nat) :
    strtoul0 (text ++ List.replicate n ' ') = strtoul0 text := by
  have hspaces : (List.replicate n ' ').dropWhile isSpace = [] := by
    rw [List.dropWhile_replicate]
    rfl
  by_cases htext : text.dropWhile isSpace = []
  · have hall : (text ++ List.replicate n ' ').dropWhile isSpace = [] := by
      rw [List.dropWhile_append, htext, hspaces]
      rfl
    simp only [strtoul0, hall, htext]
  · have happend : (text ++ List.replicate n ' ').dropWhile isSpace =
        text.dropWhile isSpace ++ List.replicate n ' ' := by
      rw [List.dropWhile_append, if_neg (by simpa using htext)]
    cases n with
    | zero => rw [List.replicate_zero, List.append_nil]
    | succ n =>
        rw [List.replicate_succ] at happend ⊢
        exact strtoul0_of_dropWhile ⟨by decide, by decide, by decide⟩ happend

/-! ## Files -/

/-- What is in a file after `text` is written over its start. -/
def overwrite (text file : List Char) : List Char := text ++ file.drop text.length

theorem overwrite_eq_self_iff (text file : List Char) :
    overwrite text file = text ↔ file.length ≤ text.length := by
  rw [overwrite, List.append_right_eq_self, List.drop_eq_nil_iff]

end AwHal.Lib
