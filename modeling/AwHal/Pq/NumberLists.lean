import Mathlib.Data.Nat.Digits.Defs
import Mathlib.Tactic.IntervalCases
import AwHal.Pq.Firmware

/-!
# Lists of numbers as text

`data_to_firm` writes one number of a section behind the others, `trans_firm_data` reads the list
again.  The digits are taken from the right, and the loop that takes them stops before the last one,
so that a number with several digits loses the one it begins with.
-/

namespace AwHal.Pq

open AwHal.Lib Memory

/-! ## Numbers and their texts -/

def numberText (v : Nat) : List UInt8 :=
  (Nat.toDigits 10 v).map Char.toUInt8

def textValue (text : List UInt8) : Nat :=
  text.foldl (fun n c ↦ 10 * n + (c.toNat - 48)) 0

theorem textValue_concat (text : List UInt8) (c : UInt8) :
    textValue (text ++ [c]) = 10 * textValue text + (c.toNat - 48) := by
  simp [textValue, List.foldl_append]

def digit (d : Nat) : UInt8 := UInt8.ofNat (d + 48)

theorem digit_eq {d : Nat} (h : d < 10) :
    (Nat.digitChar d).toUInt8 = digit d ∧ toByte ((d : Int) + 48) = digit d := by
  interval_cases d <;> decide

theorem isDigit_digit {d : Nat} (h : d < 10) : isDigit (digit d) = true := by
  interval_cases d <;> decide

theorem toNat_digit {d : Nat} (h : d < 10) : (digit d).toNat = d + 48 := by
  interval_cases d <;> decide

theorem numberText_of_lt {v : Nat} (h : v < 10) : numberText v = [digit v] := by
  rw [numberText, Nat.toDigits_of_lt_base h, List.map_singleton, (digit_eq h).1]

theorem numberText_of_le {v : Nat} (h : 10 ≤ v) :
    numberText v = numberText (v / 10) ++ [digit (v % 10)] := by
  rw [numberText, Nat.toDigits_of_base_le (by decide) h, List.map_append, List.map_singleton,
    (digit_eq (Nat.mod_lt _ (by decide))).1]
  rfl

theorem numberText_ne_nil (v : Nat) : numberText v ≠ [] := by
  simp [numberText]

theorem isDigit_numberText (v : Nat) : ∀ c ∈ numberText v, isDigit c = true := by
  induction v using Nat.strong_induction_on with
  | _ v ih =>
      by_cases h : v < 10
      · simp [numberText_of_lt h, isDigit_digit h]
      · rw [numberText_of_le (by omega)]
        intro c hc
        rcases List.mem_append.mp hc with hc | hc
        · exact ih (v / 10) (by omega) c hc
        · rw [List.mem_singleton.mp hc]
          exact isDigit_digit (Nat.mod_lt _ (by decide))

theorem textValue_numberText (v : Nat) : textValue (numberText v) = v := by
  induction v using Nat.strong_induction_on with
  | _ v ih =>
      by_cases h : v < 10
      · simp [numberText_of_lt h, textValue, toNat_digit h]
      · rw [numberText_of_le (by omega), textValue_concat, ih (v / 10) (by omega),
          toNat_digit (Nat.mod_lt _ (by decide))]
        omega

theorem textValue_lt {text : List UInt8} (h : ∀ c ∈ text, isDigit c = true) :
    textValue text < 10 ^ text.length := by
  induction text using List.reverseRecOn with
  | nil => decide
  | append_singleton text c ih =>
      have hc : isDigit c = true := h c (by simp)
      have hlt := ih fun d hd ↦ h d (by simp [hd])
      have hle : c.toNat ≤ 57 := by
        simp only [isDigit, Bool.and_eq_true, decide_eq_true_eq] at hc
        exact UInt8.le_iff_toNat_le.mp hc.2
      rw [textValue_concat, List.length_append, List.length_singleton, Nat.pow_succ]
      omega

/-! ## What `data_to_firm` writes -/

/-- The digits that the loop takes are all but the first. -/
theorem valueDigits_eq {room v : Nat} (h : v < 10 ^ (room + 1)) :
    (valueDigits room v).reverse.map toByte = (numberText v).tail := by
  induction room generalizing v with
  | zero => simp [valueDigits, numberText_of_lt (by omega : v < 10)]
  | succ room ih =>
      unfold valueDigits
      by_cases hv : v < 10
      · have hzero : (v : Int).tdiv 10 = 0 := by
          rw [Int.tdiv_eq_ediv_of_nonneg (by omega)]
          omega
        simp [hzero, numberText_of_lt hv]
      · have hdiv : (v : Int).tdiv 10 = ((v / 10 : Nat) : Int) := by
          rw [Int.tdiv_eq_ediv_of_nonneg (by omega)]
          omega
        have hmod : (v : Int).tmod 10 = ((v % 10 : Nat) : Int) := by
          rw [Int.tmod_eq_emod_of_nonneg (by omega)]
          omega
        have hlt : v / 10 < 10 ^ (room + 1) := by
          apply Nat.div_lt_of_lt_mul
          rwa [Nat.mul_comm, ← Nat.pow_succ]
        rw [hdiv, hmod, if_neg (by omega), List.reverse_cons, List.map_append, ih hlt,
          List.map_singleton, (digit_eq (Nat.mod_lt _ (by decide))).2,
          numberText_of_le (v := v) (by omega), List.tail_append_of_ne_nil (numberText_ne_nil _)]

theorem valueText_eq {v : Nat} (h : v < 2 ^ 31) :
    valueText v = if v < 10 then numberText v else (numberText v).tail := by
  have hdigits : (valueDigits 20 v).reverse.map toByte = (numberText v).tail :=
    valueDigits_eq (h.trans (by decide))
  have hempty : valueDigits 20 v = [] ↔ (numberText v).tail = [] := by
    rw [← hdigits, List.map_eq_nil_iff, List.reverse_eq_nil_iff]
  unfold valueText
  dsimp only
  by_cases hv : v < 10
  · have hmod : (v : Int).tmod 10 = v := by
      rw [Int.tmod_eq_emod_of_nonneg (by omega)]
      omega
    rw [if_pos hv, if_pos (hempty.mpr (by rw [numberText_of_lt hv]; rfl)), hmod,
      numberText_of_lt hv, List.reverse_singleton, List.map_singleton, (digit_eq hv).2]
  · have htail : (numberText v).tail ≠ [] := by
      rw [numberText_of_le (by omega), List.tail_append_of_ne_nil (numberText_ne_nil _)]
      simp
    rw [if_neg hv, if_neg (hempty.not.mpr htail), hdigits]

theorem pow_length_tail_le {v : Nat} (h : 10 ≤ v) : 10 ^ (numberText v).tail.length ≤ v := by
  have hiff : ∀ k, 0 < k → ((numberText v).length ≤ k ↔ v < 10 ^ k) := by
    intro k hk
    rw [numberText, List.length_map]
    exact Nat.length_toDigits_le_iff (by decide) hk
  have hlength := (hiff 1 (by decide)).not.mpr (by omega)
  rw [List.length_tail]
  exact not_lt.mp ((hiff _ (by omega)).not.mp (by omega))

/-- The text of a number that has lost its first digit has a smaller value. -/
theorem textValue_valueText {v : Nat} (h : v < 2 ^ 31) :
    textValue (valueText v) ≤ v ∧ (textValue (valueText v) = v ↔ v < 10) := by
  rw [valueText_eq h]
  by_cases hv : v < 10
  · rw [if_pos hv, textValue_numberText]
    exact ⟨Nat.le_refl v, fun _ ↦ hv, fun _ ↦ rfl⟩
  · rw [if_neg hv]
    have hlt := textValue_lt fun c hc ↦ isDigit_numberText v c (List.mem_of_mem_tail hc)
    have hle := pow_length_tail_le (not_lt.mp hv)
    exact ⟨by omega, fun heq ↦ by omega, fun hlt ↦ absurd hlt hv⟩

theorem isDigit_valueText {v : Nat} (h : v < 2 ^ 31) : ∀ c ∈ valueText v, isDigit c = true := by
  rw [valueText_eq h]
  intro c hc
  split at hc
  · exact isDigit_numberText v c hc
  · exact isDigit_numberText v c (List.mem_of_mem_tail hc)

theorem valueText_ne_nil (v : Int) : valueText v ≠ [] := by
  unfold valueText
  dsimp only
  split <;> simp_all

/-! ## Reading a list -/

theorem not_blank_of_digit {c : UInt8} (h : isDigit c = true) :
    isBlank c = false ∧ c ≠ '-'.toUInt8 ∧ c ≠ '+'.toUInt8 := by
  simp only [isDigit, Bool.and_eq_true, decide_eq_true_eq, UInt8.le_iff_toNat_le] at h
  have hlo : 48 ≤ c.toNat := h.1
  refine ⟨?_, ?_, ?_⟩
  · simp only [isBlank, Bool.or_eq_false_iff, Bool.and_eq_false_iff, beq_eq_false_iff_ne,
      decide_eq_false_iff_not, UInt8.le_iff_toNat_le]
    refine ⟨?_, Or.inr ?_⟩
    · rintro rfl
      exact absurd hlo (by decide)
    · have hthirteen : (13 : UInt8).toNat = 13 := rfl
      omega
  · rintro rfl
    exact absurd hlo (by decide)
  · rintro rfl
    exact absurd hlo (by decide)

theorem atoi_digits {text : List UInt8} (hdigits : ∀ c ∈ text, isDigit c = true) (hne : text ≠ [])
    (hvalue : textValue text < 2 ^ 31) {c : UInt8} (hc : isDigit c = false) (rest : List UInt8) :
    atoi (text ++ c :: rest) = textValue text := by
  obtain ⟨d, text, rfl⟩ := List.exists_cons_of_ne_nil hne
  have hd := hdigits d (by simp)
  obtain ⟨hblank, hminus, hplus⟩ := not_blank_of_digit hd
  have htake : (d :: text ++ c :: rest).takeWhile isDigit = d :: text := by
    rw [List.takeWhile_append_of_pos hdigits, List.takeWhile_cons_of_neg (by simp [hc]),
      List.append_nil]
  have hcast : ∀ (l : List UInt8) (n : Nat), (∀ c ∈ l, isDigit c = true) →
      l.foldl (fun (n : Int) c ↦ 10 * n + ((c.toNat : Int) - 48)) n =
        ((l.foldl (fun n c ↦ 10 * n + (c.toNat - 48)) n : Nat) : Int) := by
    intro l
    induction l with
    | nil => simp
    | cons e l ih =>
        intro n hl
        have he : 48 ≤ e.toNat := by
          have := hl e (by simp)
          simp only [isDigit, Bool.and_eq_true, decide_eq_true_eq, UInt8.le_iff_toNat_le] at this
          exact this.1
        rw [List.foldl_cons, List.foldl_cons, ← ih _ fun c hc ↦ hl c (by simp [hc])]
        congr 1
        omega
  have hvalue' : digitsValue (d :: text ++ c :: rest) = textValue (d :: text) := by
    rw [digitsValue, htake]
    exact hcast _ 0 hdigits
  have hdrop : (d :: text ++ c :: rest).dropWhile isBlank = d :: (text ++ c :: rest) := by
    rw [List.cons_append, List.dropWhile_cons_of_neg (by simp [hblank])]
  unfold atoi
  simp only [hdrop, hminus, hplus, if_false]
  rw [← List.cons_append, hvalue']
  have hfits : FitsInt (textValue (d :: text)) := by
    unfold FitsInt
    omega
  rw [min_eq_right (by omega), max_eq_right (by omega), wrapInt_of_fits hfits]

def startsFrom (k : Nat) (text : List UInt8) : List Nat :=
  ((text.zipIdx k).filter fun c ↦ c.1 = ','.toUInt8).map fun c ↦ c.2 + 1

theorem startsFrom_comma (k : Nat) (text : List UInt8) :
    startsFrom k (','.toUInt8 :: text) = (k + 1) :: startsFrom (k + 1) text := by
  simp [startsFrom]

theorem startsFrom_append {part : List UInt8} (h : ','.toUInt8 ∉ part) (k : Nat)
    (text : List UInt8) : startsFrom k (part ++ text) = startsFrom (k + part.length) text := by
  induction part generalizing k with
  | nil => rfl
  | cons c part ih =>
      rw [List.mem_cons, not_or] at h
      have hskip : startsFrom k (c :: (part ++ text)) = startsFrom (k + 1) (part ++ text) := by
        simp [startsFrom, Ne.symm h.1]
      rw [List.cons_append, hskip, ih h.2, List.length_cons]
      congr 1
      omega

def joined : List (List UInt8) → List UInt8
  | [] => []
  | [text] => text
  | text :: u :: us => text ++ ','.toUInt8 :: joined (u :: us)

/-- A text that `atoi` takes for a number. -/
structure IsNumber (text : List UInt8) : Prop where
  digits : ∀ c ∈ text, isDigit c = true
  ne_nil : text ≠ []
  value : textValue text < 2 ^ 31

theorem IsNumber.notMem {text : List UInt8} (h : IsNumber text) {c : UInt8}
    (hc : isDigit c = false) : c ∉ text := by
  intro hmem
  rw [h.digits c hmem] at hc
  cases hc

/-- Each number of a list is read from the place behind its comma. -/
theorem map_atoi_joined {texts : List (List UInt8)} (hne : texts ≠ [])
    (hnumber : ∀ text ∈ texts, IsNumber text) (before tail : List UInt8) :
    ((before.length :: startsFrom before.length (joined texts)).map fun start ↦
        atoi ((before ++ (joined texts ++ '\x7d'.toUInt8 :: tail)).drop start)) =
      texts.map fun text ↦ (textValue text : Int) := by
  induction texts generalizing before with
  | nil => exact absurd rfl hne
  | cons text texts ih =>
      have htext := hnumber text (by simp)
      have hcomma : ','.toUInt8 ∉ text := htext.notMem (by decide)
      cases texts with
      | nil =>
          have hstarts : startsFrom before.length text = [] := by
            have := startsFrom_append hcomma before.length []
            simpa [startsFrom] using this
          simp only [joined, hstarts, List.map_cons, List.map_nil, List.drop_left]
          rw [atoi_digits htext.digits htext.ne_nil htext.value (by decide)]
      | cons u us =>
          have hrest := ih (by simp) (fun t ht ↦ hnumber t (by simp [ht]))
            (before ++ text ++ [','.toUInt8])
          have hlength : (before ++ text ++ [','.toUInt8]).length =
              before.length + text.length + 1 := by simp [Nat.add_assoc]
          have happend : before ++ (joined (text :: u :: us) ++ '\x7d'.toUInt8 :: tail) =
              before ++ text ++ [','.toUInt8] ++ (joined (u :: us) ++ '\x7d'.toUInt8 :: tail) := by
            simp [joined]
          rw [happend, joined, startsFrom_append hcomma, startsFrom_comma, List.map_cons,
            ← hlength, hrest, List.map_cons]
          congr 1
          simp only [List.append_assoc, List.drop_left]
          exact atoi_digits htext.digits htext.ne_nil htext.value (by decide) _

theorem mem_joined {texts : List (List UInt8)} {c : UInt8} (h : c ∈ joined texts) :
    c = ','.toUInt8 ∨ ∃ text ∈ texts, c ∈ text := by
  induction texts with
  | nil => simp [joined] at h
  | cons text texts ih =>
      cases texts with
      | nil => exact Or.inr ⟨text, by simp, h⟩
      | cons u us =>
          rw [joined, List.mem_append, List.mem_cons] at h
          rcases h with h | h | h
          · exact Or.inr ⟨text, by simp, h⟩
          · exact Or.inl h
          · refine (ih h).imp_right ?_
            rintro ⟨t, ht, hc⟩
            exact ⟨t, by simp [ht], hc⟩

/-- The parser reads a list of numbers between braces, whatever stands behind it. -/
theorem trans_firm_data_joined {texts : List (List UInt8)} (hne : texts ≠ [])
    (hnumber : ∀ text ∈ texts, IsNumber text) (tail : List UInt8) :
    trans_firm_data ('\x7b'.toUInt8 :: (joined texts ++ '\x7d'.toUInt8 :: tail)) 0 =
      some (texts.map fun text ↦ (textValue text : Int)) := by
  have hbrace : ∀ c ∈ joined texts, c ≠ '\x7d'.toUInt8 := by
    rintro c hc rfl
    rcases mem_joined hc with hcomma | ⟨text, htext, hmem⟩
    · exact absurd hcomma (by decide)
    · exact (hnumber text htext).notMem (by decide) hmem
  have htake : ('\x7b'.toUInt8 :: (joined texts ++ '\x7d'.toUInt8 :: tail)).takeWhile
      (· ≠ '\x7d'.toUInt8) = '\x7b'.toUInt8 :: joined texts := by
    rw [List.takeWhile_cons_of_pos (by decide),
      List.takeWhile_append_of_pos (fun c hc ↦ by simpa using hbrace c hc),
      List.takeWhile_cons_of_neg (by simp), List.append_nil]
  have hstarts : startsFrom 0 ('\x7b'.toUInt8 :: joined texts) = startsFrom 1 (joined texts) :=
    startsFrom_append (by decide : ','.toUInt8 ∉ ['\x7b'.toUInt8]) 0 _
  have hmap := map_atoi_joined hne hnumber ['\x7b'.toUInt8] tail
  unfold trans_firm_data
  rw [htake]
  dsimp only
  rw [if_neg (by omega)]
  exact congrArg some ((congrArg (fun l ↦ (1 :: l).map fun start ↦ atoi
    (('\x7b'.toUInt8 :: (joined texts ++ '\x7d'.toUInt8 :: tail)).drop start)) hstarts).trans hmap)

/-! ## Writing a list -/

/-- The opening brace comes in front of the first number. -/
def opening (next : Nat) : List UInt8 :=
  if next = 0 then ['\x7b'.toUInt8] else []

theorem data_to_firm_fits (firm : Memory) {length : Int} {next : Nat} (value : Int)
    (hfits : ((next + (opening next).length + (valueText value).length : Nat) : Int) < length) :
    data_to_firm (some firm) length next value =
      (some (firm.store next (opening next ++ valueText value ++ [','.toUInt8])),
        ((next + (opening next ++ valueText value ++ [','.toUInt8]).length : Nat) : Int)) := by
  have htake : ∀ start : Nat, ((start + (valueText value).length : Nat) : Int) < length →
      (valueText value).take (length - start).toNat = valueText value := by
    intro start hstart
    exact List.take_of_length_le (by omega)
  unfold data_to_firm
  by_cases hnext : next = 0
  · subst hnext
    simp only [opening, if_true, List.length_singleton, Nat.zero_add] at hfits
    have hstart := htake 1 hfits
    simp only [Nat.cast_one] at hstart
    simp only [opening, if_true, Nat.cast_zero, zero_add, hstart, Int.toNat_one]
    rw [if_neg (by omega), if_neg (by omega), store_append, store_append]
    simp only [List.length_append, List.length_singleton, Nat.zero_add]
    congr 2
  · simp only [opening, if_neg hnext, List.length_nil, Nat.add_zero] at hfits
    have hne : ((next : Nat) : Int) ≠ 0 := by omega
    simp only [opening, if_neg hnext, if_neg hne, htake next hfits, Int.toNat_natCast,
      List.nil_append]
    rw [if_neg (by omega), if_neg (by omega), store_append]
    simp only [List.length_append, List.length_singleton]
    congr 2

/-- Nothing behind the buffer changes; and where a number and its comma do not fit, the position is
the one before. -/
theorem data_to_firm_bounded (firm : Memory) (length : Int) (next : Nat) (value : Int) :
    ∃ firm' next', data_to_firm (some firm) length next value = (some firm', next') ∧
      (∀ x : Nat, length ≤ x → firm' x = firm x) ∧
      (length ≤ ((next + (opening next).length + (valueText value).length : Nat) : Int) →
        next' = next) := by
  unfold data_to_firm
  dsimp only
  split
  · exact ⟨firm, next, rfl, fun _ _ ↦ rfl, fun _ ↦ rfl⟩
  · rename_i hroom
    -- the brace is at index 0, which is inside of the buffer
    have hopened : ∀ x : Nat, length ≤ x →
        (if (next : Int) = 0 then firm.store 0 ['\x7b'.toUInt8] else firm) x = firm x := by
      intro x hx
      split
      · exact store_outside (Or.inr (by simp; omega))
      · rfl
    generalize hfirst : (if (next : Int) = 0 then firm.store 0 ['\x7b'.toUInt8] else firm) = opened
      at hopened
    have hstart : (if (next : Int) = 0 then (next : Int) + 1 else next) =
        ((next + (opening next).length : Nat) : Int) := by
      unfold opening
      by_cases hnext : next = 0
      · simp [hnext]
      · simp [hnext]
    have hlength : (opening next).length ≤ 1 := by
      unfold opening
      split <;> simp
    have hle : ((next + (opening next).length : Nat) : Int) ≤ length := by omega
    rw [hstart]
    generalize next + (opening next).length = start at hle ⊢
    have htake : ((valueText value).take (length - start).toNat).length =
        min (length - start).toNat (valueText value).length := List.length_take
    generalize (valueText value).take (length - start).toNat = text at htake ⊢
    rw [Int.toNat_natCast]
    have hwritten : ∀ x : Nat, length ≤ x → opened.store start text x = firm x := by
      intro x hx
      rw [store_outside (Or.inr (by omega)), hopened x hx]
    split
    · exact ⟨_, _, rfl, hwritten, fun _ ↦ rfl⟩
    · refine ⟨_, _, rfl, ?_, fun hfull ↦ by omega⟩
      intro x hx
      rw [store_outside (Or.inr (by simp only [List.length_singleton]; omega)), hwritten x hx]

def withCommas (texts : List (List UInt8)) : List UInt8 :=
  texts.flatMap (· ++ [','.toUInt8])

theorem withCommas_eq {texts : List (List UInt8)} (hne : texts ≠ []) :
    withCommas texts = joined texts ++ [','.toUInt8] := by
  induction texts with
  | nil => exact absurd rfl hne
  | cons text texts ih =>
      cases texts with
      | nil => simp [withCommas, joined]
      | cons u us =>
          have hrest := ih (by simp)
          unfold withCommas at hrest ⊢
          rw [List.flatMap_cons, hrest, joined]
          simp

def writeNumber (length : Int) (s : Option Memory × Int) (v : Nat) : Option Memory × Int :=
  data_to_firm s.1 length s.2 v

def writeNumbers (length : Int) (firm : Option Memory) (vs : List Nat) : Option Memory × Int :=
  vs.foldl (writeNumber length) (firm, 0)

def valueTexts (vs : List Nat) : List (List UInt8) :=
  vs.map fun v : Nat ↦ valueText v

theorem withCommas_cons (v : Nat) (vs : List Nat) :
    withCommas (valueTexts (v :: vs)) = (valueText v ++ [','.toUInt8]) ++ withCommas (valueTexts vs) :=
  rfl

theorem foldl_writeNumber (firm : Memory) {length next : Nat} (hnext : 0 < next) (vs : List Nat)
    (hfits : next + (withCommas (valueTexts vs)).length ≤ length) :
    vs.foldl (writeNumber length) (some firm, (next : Int)) =
      (some (firm.store next (withCommas (valueTexts vs))),
        ((next + (withCommas (valueTexts vs)).length : Nat) : Int)) := by
  induction vs generalizing firm next with
  | nil => simp [withCommas, valueTexts, store_nil]
  | cons v vs ih =>
      have hopening : opening next = [] := if_neg (by omega)
      rw [withCommas_cons, List.length_append, List.length_append, List.length_singleton] at hfits
      have hone : writeNumber length (some firm, (next : Int)) v = _ :=
        data_to_firm_fits firm v (by rw [hopening, List.length_nil]; omega)
      have hlength : (valueText v ++ [','.toUInt8]).length = (valueText v).length + 1 := by simp
      rw [hopening, List.nil_append] at hone
      rw [List.foldl_cons, hone, ih _ (by omega) (by omega), withCommas_cons, ← store_append,
        Nat.add_assoc, ← List.length_append]

/-- A list is written as its numbers with commas behind the opening brace. -/
theorem writeNumbers_eq (firm : Memory) {length : Nat} {vs : List Nat} (hne : vs ≠ [])
    (hfits : 1 + (withCommas (valueTexts vs)).length ≤ length) :
    writeNumbers length (some firm) vs =
      (some (firm.store 0 ('\x7b'.toUInt8 :: withCommas (valueTexts vs))),
        ((1 + (withCommas (valueTexts vs)).length : Nat) : Int)) := by
  obtain ⟨v, vs, rfl⟩ := List.exists_cons_of_ne_nil hne
  have hopening : opening 0 = ['\x7b'.toUInt8] := rfl
  rw [withCommas_cons, List.length_append, List.length_append, List.length_singleton] at hfits
  have hone : writeNumber length (some firm, ((0 : Nat) : Int)) v = _ :=
    data_to_firm_fits firm v (by rw [hopening, List.length_singleton]; omega)
  rw [hopening] at hone
  have hlength : (['\x7b'.toUInt8] ++ valueText v ++ [','.toUInt8]).length =
      (valueText v).length + 2 := by simp
  unfold writeNumbers
  change List.foldl (writeNumber length) (writeNumber length (some firm, ((0 : Nat) : Int)) v) vs = _
  rw [hone, foldl_writeNumber _ (by omega) vs (by omega), ← store_append, withCommas_cons]
  congr 2
  simp
  omega

/-! ## Reading back what was written -/

def listText (vs : List Nat) : List UInt8 :=
  '\x7b'.toUInt8 :: (joined (vs.map numberText) ++ ['\x7d'.toUInt8])

/-- The numbers are written, the last comma becomes the closing brace, and the buffer is read. -/
def reload (firm : Memory) (length : Nat) (vs : List Nat) : Option (List Int) :=
  match writeNumbers length (some firm) vs with
  | (some firm, next) =>
      trans_firm_data ((firm.store (next - 1).toNat ['\x7d'.toUInt8]).load 0 length) 0
  | (none, _) => none

theorem isNumber_valueTexts {vs : List Nat} (hrange : ∀ v ∈ vs, v < 2 ^ 31) :
    ∀ text ∈ valueTexts vs, IsNumber text := by
  intro text htext
  obtain ⟨v, hv, rfl⟩ := List.mem_map.mp htext
  have hlt := hrange v hv
  exact ⟨isDigit_valueText hlt, valueText_ne_nil v, (textValue_valueText hlt).1.trans_lt hlt⟩

theorem length_withCommas_le {vs : List Nat} (hrange : ∀ v ∈ vs, v < 2 ^ 31) :
    (withCommas (valueTexts vs)).length ≤ (withCommas (vs.map numberText)).length := by
  induction vs with
  | nil => exact Nat.le_refl 0
  | cons v vs ih =>
      have hrest := ih fun u hu ↦ hrange u (by simp [hu])
      have hv : (valueText v).length ≤ (numberText v).length := by
        rw [valueText_eq (hrange v (by simp))]
        split
        · exact Nat.le_refl _
        · rw [List.length_tail]
          omega
      have hcons : withCommas ((v :: vs).map numberText) =
          (numberText v ++ [','.toUInt8]) ++ withCommas (vs.map numberText) := rfl
      rw [withCommas_cons, hcons]
      simp only [List.length_append]
      omega

theorem load_closed (firm : Memory) (texts : List UInt8) (c d : UInt8) {length : Nat}
    (h : texts.length < length) :
    ((firm.store 0 (texts ++ [c])).store texts.length [d]).load 0 length =
      texts ++ d :: ((firm.store 0 (texts ++ [c])).store texts.length [d]).load (texts.length + 1)
        (length - (texts.length + 1)) := by
  have hsplit : length = texts.length + (1 + (length - (texts.length + 1))) := by omega
  have hfirst : ((firm.store 0 (texts ++ [c])).store texts.length [d]).load 0 texts.length = texts := by
    calc ((firm.store 0 (texts ++ [c])).store texts.length [d]).load 0 texts.length
      _ = (firm.store 0 texts).load 0 texts.length := by
          refine load_congr fun x _ hx ↦ ?_
          rw [store_outside (Or.inl (by omega)), store_append, store_outside (Or.inl (by omega))]
      _ = texts := load_store firm 0 texts
  have hlast : ((firm.store 0 (texts ++ [c])).store texts.length [d]).load texts.length 1 = [d] :=
    load_store _ _ [d]
  conv_lhs => rw [hsplit]
  rw [load_append, load_append, Nat.zero_add, hfirst, hlast]
  rfl

theorem reload_eq (firm : Memory) {length : Nat} {vs : List Nat} (hne : vs ≠ [])
    (hrange : ∀ v ∈ vs, v < 2 ^ 31) (hroom : (listText vs).length ≤ length) :
    reload firm length vs = some (vs.map fun v : Nat ↦ (textValue (valueText v) : Int)) := by
  have htexts : valueTexts vs ≠ [] := by simp [valueTexts, hne]
  have hjoined := withCommas_eq htexts
  have hle := length_withCommas_le hrange
  rw [withCommas_eq (by simp [hne] : vs.map numberText ≠ [])] at hle
  simp only [listText, List.length_cons, List.length_append, List.length_nil] at hroom hle
  have hlength : (withCommas (valueTexts vs)).length = (joined (valueTexts vs)).length + 1 := by
    rw [hjoined, List.length_append, List.length_singleton]
  have hclose : (((1 + (withCommas (valueTexts vs)).length : Nat) : Int) - 1).toNat =
      ('\x7b'.toUInt8 :: joined (valueTexts vs)).length := by
    rw [List.length_cons, hlength]
    omega
  unfold reload
  rw [writeNumbers_eq firm hne (by omega)]
  dsimp only
  rw [hclose, hjoined, ← List.cons_append, load_closed firm _ _ _ (by rw [List.length_cons]; omega),
    List.cons_append, trans_firm_data_joined htexts (isNumber_valueTexts hrange), valueTexts,
    List.map_map]
  rfl

/-- A list of numbers is read back as it was written iff no number has more than one digit; the
buffer is kept to for every number, and a number that does not fit leaves the position. -/
theorem number_lists_round_trip_iff (firm : Memory) {length : Nat} {vs : List Nat} (hne : vs ≠ [])
    (hrange : ∀ v ∈ vs, v < 2 ^ 31) (hroom : (listText vs).length ≤ length) :
    (reload firm length vs = some (vs.map Int.ofNat) ↔ ∀ v ∈ vs, v < 10) ∧
      ∀ (firm : Memory) (length : Int) (next : Nat) (value : Int),
        ∃ firm' next', data_to_firm (some firm) length next value = (some firm', next') ∧
          (∀ x : Nat, length ≤ x → firm' x = firm x) ∧
          (length ≤ ((next + (opening next).length + (valueText value).length : Nat) : Int) →
            next' = next) := by
  refine ⟨?_, data_to_firm_bounded⟩
  rw [reload_eq firm hne hrange hroom, Option.some_inj, List.map_inj_left]
  refine forall₂_congr fun v hv ↦ ?_
  rw [← (textValue_valueText (hrange v hv)).2]
  exact Int.ofNat_inj

theorem number_lists_round_trip_iff_digits :
    (reload zero 8 [3, 0] = some ([3, 0].map Int.ofNat) ↔ ∀ v ∈ [3, 0], v < 10) ∧
      ∀ (firm : Memory) (length : Int) (next : Nat) (value : Int),
        ∃ firm' next', data_to_firm (some firm) length next value = (some firm', next') ∧
          (∀ x : Nat, length ≤ x → firm' x = firm x) ∧
          (length ≤ ((next + (opening next).length + (valueText value).length : Nat) : Int) →
            next' = next) :=
  number_lists_round_trip_iff zero (by decide) (by decide) (by decide)

/-- The number 12 is read back as 2. -/
theorem twelve_reloads_as_two : reload zero 8 [12] = some [2] ∧ reload zero 8 [12] ≠ some [12] := by
  decide

end AwHal.Pq
