import Mathlib.Data.List.Infix
import Mathlib.Data.List.TakeWhile
import AwHal.Pq.SectionWindow

/-!
# What `download_firmware` reads

Every search stays in the mapped window.  The numbers of `[id,de]` do not: the loop that skips what
stands in front of a number, and `atoi`, go on until they come to a character that stops them.
-/

namespace AwHal.Pq

open AwHal.Lib

/-! ## Numbers -/

theorem not_below_of_digit {c : UInt8} (h : isDigit c = true) :
    ¬ c < '0'.toUInt8 ∧ ¬ '9'.toUInt8 < c := by
  simp only [isDigit, Bool.and_eq_true, decide_eq_true_eq] at h
  exact ⟨UInt8.not_lt.mpr h.1, UInt8.not_lt.mpr h.2⟩

theorem skipBelow_append {low : List UInt8} (hlow : ∀ c ∈ low, c < '0'.toUInt8) {d : UInt8}
    (hd : ¬ d < '0'.toUInt8) (rest : List UInt8) (i : Nat) :
    skipBelow (low ++ d :: rest) i = .ok (i + low.length + 1) := by
  induction low generalizing i with
  | nil => rw [List.nil_append, skipBelow, if_neg hd, List.length_nil]
  | cons c low ih =>
      rw [List.forall_mem_cons] at hlow
      rw [List.cons_append, skipBelow, if_pos hlow.1, ih hlow.2, List.length_cons]
      congr 1
      omega

/-- Nothing but characters below the digits up to the end of the mapping. -/
theorem skipBelow_error {low : List UInt8} (hlow : ∀ c ∈ low, c < '0'.toUInt8) (i : Nat) :
    skipBelow low i = .error .badAddress := by
  induction low generalizing i with
  | nil => rfl
  | cons c low ih =>
      rw [List.forall_mem_cons] at hlow
      rw [skipBelow, if_pos hlow.1, ih hlow.2]

theorem getElem?_of_drop {t : List UInt8} {k : Nat} {c : UInt8} {rest : List UInt8}
    (h : t.drop k = c :: rest) : t[k]? = some c := by
  rw [← Nat.add_zero k, ← List.getElem?_drop, h]
  rfl

theorem drop_of_drop {t : List UInt8} {k : Nat} {front rest : List UInt8}
    (h : t.drop k = front ++ rest) : t.drop (k + front.length) = rest := by
  rw [← List.drop_drop, h, List.drop_left]

/-- A number that the end of the mapping cuts, or that is not there. -/
theorem numberAt_error {t : List UInt8} {k : Nat} (low : List UInt8) {digits : List UInt8}
    (h : t.drop k = low ++ digits) (hlow : ∀ c ∈ low, c < '0'.toUInt8)
    (hdigits : ∀ c ∈ digits, isDigit c = true) : numberAt t k = .error .badAddress := by
  unfold numberAt
  cases digits with
  | nil =>
      rw [List.append_nil] at h
      rw [h, skipBelow_error hlow]
  | cons d text =>
      have hd := not_below_of_digit (hdigits d List.mem_cons_self)
      have hat := drop_of_drop h
      have hnone : (t.drop (k + low.length)).dropWhile isDigit = [] := by
        rw [hat, List.dropWhile_eq_nil_iff]
        exact hdigits
      rw [h, skipBelow_append hlow hd.1]
      dsimp only
      rw [Nat.add_sub_cancel, getElem?_of_drop hat]
      dsimp only
      rw [if_neg hd.2, if_pos hnone]

def isBelow (c : UInt8) : Bool := c < '0'.toUInt8

theorem below_of_mem_takeWhile {text : List UInt8} :
    ∀ c ∈ text.takeWhile isBelow, c < '0'.toUInt8 := by
  intro c hc
  have hbelow : isBelow c = true := List.mem_takeWhile_imp hc
  exact of_decide_eq_true hbelow

/-- What stands behind `k` and could belong to a number ends in front of the end of the mapping. -/
def NumberEnds (t_buff : List UInt8) (k : Nat) : Prop :=
  ((t_buff.drop k).dropWhile isBelow).dropWhile isDigit ≠ []

variable {t_buff : List UInt8} {size : Int}

/-- A number that is not cut off is read, and there is another character behind its first digit. -/
theorem numberAt_of_ends {k : Nat} (h : NumberEnds t_buff k) :
    ∃ r, numberAt t_buff k = .ok r ∧ ∀ j v, r = some (j, v) → k < j ∧ j < t_buff.length := by
  obtain ⟨low, hlow⟩ : ∃ low, low = (t_buff.drop k).takeWhile isBelow := ⟨_, rfl⟩
  obtain ⟨rest, hrest⟩ : ∃ rest, rest = (t_buff.drop k).dropWhile isBelow := ⟨_, rfl⟩
  have hdrop : t_buff.drop k = low ++ rest := by
    rw [hlow, hrest, List.takeWhile_append_dropWhile]
  have hends : rest.dropWhile isDigit ≠ [] := by
    rw [hrest]
    exact h
  cases rest with
  | nil => exact absurd rfl hends
  | cons d rest =>
      have hd : ¬ d < '0'.toUInt8 := by
        have hhead := List.head?_dropWhile_not isBelow (t_buff.drop k)
        rw [← hrest] at hhead
        exact of_decide_eq_false hhead
      have hskip : skipBelow (t_buff.drop k) k = .ok (k + low.length + 1) := by
        rw [hdrop]
        exact skipBelow_append (hlow ▸ below_of_mem_takeWhile) hd rest k
      have hat := drop_of_drop hdrop
      unfold numberAt
      rw [hskip]
      dsimp only
      rw [Nat.add_sub_cancel, getElem?_of_drop hat]
      dsimp only
      by_cases hnine : '9'.toUInt8 < d
      · rw [if_pos hnine]
        exact ⟨none, rfl, by simp⟩
      · have hdigit : isDigit d = true := by
          simp only [isDigit, Bool.and_eq_true, decide_eq_true_eq]
          exact ⟨UInt8.not_lt.mp hd, UInt8.not_lt.mp hnine⟩
        have hmore : 0 < rest.length := by
          apply List.length_pos_of_ne_nil
          rintro rfl
          exact hends (by rw [List.dropWhile_cons_of_pos hdigit]; rfl)
        have hlength := congrArg List.length hdrop
        rw [List.length_drop, List.length_append, List.length_cons] at hlength
        rw [if_neg hnine, hat, if_neg hends]
        refine ⟨_, rfl, ?_⟩
        rintro j v hj
        cases hj
        omega

theorem numberAt_of_not_ends {k : Nat} (h : ¬ NumberEnds t_buff k) :
    numberAt t_buff k = .error .badAddress := by
  have hnil : ((t_buff.drop k).dropWhile isBelow).dropWhile isDigit = [] := not_not.mp h
  rw [List.dropWhile_eq_nil_iff] at hnil
  exact numberAt_error _ List.takeWhile_append_dropWhile.symm below_of_mem_takeWhile hnil

/-! ## Heads of sections -/

/-- The commas at which the loop over the rest of `[id,de]` reads a number. -/
def deCommas (t_buff : List UInt8) (size : Int) : Nat → Nat → List Nat
  | 0, _ => []
  | passes + 1, i =>
      if size ≤ i then []
      else if t_buff[i]? = some ','.toUInt8 then
        i :: match numberAt t_buff i with
          | .ok (some (j, _)) =>
              if t_buff[j]? = some ']'.toUInt8 then [] else deCommas t_buff size passes (j + 1)
          | _ => []
      else if t_buff[i]? = some ']'.toUInt8 then []
      else deCommas t_buff size passes (i + 1)

/-- The loop reads behind the mapping if and only if one of its numbers is cut off. -/
theorem readDe_cases (hsize : size ≤ t_buff.length) (passes i : Nat) (de : Int) :
    (∃ r, readDe t_buff size passes i de = .ok r ∧ (∀ j de', r = (some j, de') → i ≤ j) ∧
        ∀ k ∈ deCommas t_buff size passes i, NumberEnds t_buff k) ∨
      readDe t_buff size passes i de = .error .badAddress ∧
        ∃ k ∈ deCommas t_buff size passes i, ¬ NumberEnds t_buff k := by
  induction passes generalizing i de with
  | zero =>
      refine Or.inl ⟨_, rfl, ?_, by simp [deCommas]⟩
      rintro j de' hj
      cases hj
      exact Nat.le_refl i
  | succ passes ih =>
      rw [readDe, deCommas]
      by_cases hend : size ≤ i
      · rw [if_pos hend, if_pos hend]
        refine Or.inl ⟨_, rfl, ?_, by simp⟩
        rintro j de' hj
        cases hj
        exact Nat.le_refl i
      · obtain ⟨c, hc⟩ : ∃ c, t_buff[i]? = some c :=
          ⟨_, List.getElem?_eq_getElem (by omega : i < t_buff.length)⟩
        rw [if_neg hend, if_neg hend, hc]
        dsimp only
        simp only [Option.some.injEq]
        by_cases hcomma : c = ','.toUInt8
        · rw [if_pos hcomma, if_pos hcomma]
          by_cases hends : NumberEnds t_buff i
          · obtain ⟨r, hr, hin⟩ := numberAt_of_ends hends
            rw [hr]
            rcases r with - | ⟨j, v⟩
            · exact Or.inl ⟨_, rfl, by simp, by simpa using hends⟩
            · obtain ⟨hij, hj⟩ := hin j v rfl
              dsimp only
              rw [List.getElem?_eq_getElem hj]
              generalize t_buff[j] = d
              dsimp only
              simp only [Option.some.injEq]
              by_cases hbracket : d = ']'.toUInt8
              · rw [if_pos hbracket, if_pos hbracket]
                refine Or.inl ⟨_, rfl, ?_, by simpa using hends⟩
                rintro j' de' hj'
                cases hj'
                omega
              · rw [if_neg hbracket, if_neg hbracket]
                obtain ⟨r, hr', hle, hall⟩ | ⟨herror, k, hk, hcut⟩ := ih (j + 1) v
                · refine Or.inl ⟨r, hr', ?_, List.forall_mem_cons.mpr ⟨hends, hall⟩⟩
                  intro j' de' hj'
                  have hbehind := hle j' de' hj'
                  omega
                · exact Or.inr ⟨herror, k, List.mem_cons_of_mem i hk, hcut⟩
          · rw [numberAt_of_not_ends hends]
            exact Or.inr ⟨rfl, i, by simp, hends⟩
        · rw [if_neg hcomma, if_neg hcomma]
          dsimp only
          rw [hc]
          dsimp only
          by_cases hbracket : c = ']'.toUInt8
          · rw [if_pos hbracket, if_pos hbracket]
            refine Or.inl ⟨_, rfl, ?_, by simp⟩
            rintro j' de' hj'
            cases hj'
            omega
          · rw [if_neg hbracket, if_neg hbracket]
            obtain ⟨r, hr', hle, hall⟩ | ⟨herror, k, hk, hcut⟩ := ih (i + 1) de
            · refine Or.inl ⟨r, hr', ?_, hall⟩
              intro j' de' hj'
              have hbehind := hle j' de' hj'
              omega
            · exact Or.inr ⟨herror, k, hk, hcut⟩

theorem le_of_readDe {passes i c : Nat} {de de' : Int} (hsize : size ≤ t_buff.length)
    (h : readDe t_buff size passes i de = .ok (some c, de')) : i ≤ c := by
  obtain ⟨r, hr, hle, -⟩ | ⟨herror, -⟩ := readDe_cases hsize passes i de
  · rw [hr] at h
    cases h
    exact hle c de' rfl
  · rw [herror] at h
    cases h

/-- The numbers of the head at the bracket `i` end in front of the end of the mapping. -/
def HeadEnds (t_buff : List UInt8) (size : Int) (i : Nat) : Prop :=
  NumberEnds t_buff (i + 1) ∧
    ∀ j id, numberAt t_buff (i + 1) = .ok (some (j, id)) →
      ∀ k ∈ deCommas t_buff size size.toNat (j - 1), NumberEnds t_buff k

/-- The head at the bracket `i` is read up to `c`, where the mapping goes on. -/
def HeadStops (t_buff : List UInt8) (size : Int) (i c : Nat) : Prop :=
  ∃ j id de, numberAt t_buff (i + 1) = .ok (some (j, id)) ∧
    readDe t_buff size size.toNat (j - 1) 0 = .ok (some c, de) ∧ (c : Int) < size

/-! ## The same bytes from another place on -/

theorem lt_of_skipBelow {text : List UInt8} {i j : Nat} (h : skipBelow text i = .ok j) : i < j := by
  induction text generalizing i with
  | nil => cases h
  | cons c text ih =>
      rw [skipBelow] at h
      split at h
      · exact Nat.lt_of_succ_lt (ih h)
      · cases h
        exact Nat.lt_succ_self i

theorem skipBelow_add (text : List UInt8) (f i : Nat) :
    skipBelow text (f + i) = (skipBelow text i).map (f + ·) := by
  induction text generalizing i with
  | nil => rfl
  | cons c text ih =>
      rw [skipBelow, skipBelow]
      split
      · exact ih (i + 1)
      · rfl

theorem numberAt_drop (t_buff : List UInt8) (f k : Nat) :
    numberAt t_buff (f + k) =
      (numberAt (t_buff.drop f) k).map (Option.map (Prod.map (f + ·) id)) := by
  unfold numberAt
  rw [List.drop_drop, skipBelow_add]
  cases hskip : skipBelow (t_buff.drop (f + k)) k with
  | error e => rfl
  | ok i =>
      have hpos := lt_of_skipBelow hskip
      have hpred : f + i - 1 = f + (i - 1) := by omega
      simp only [Except.map, List.getElem?_drop, List.drop_drop, hpred]
      split
      · rfl
      · split
        · rfl
        · split
          · rfl
          · rfl

theorem lt_of_numberAt {k j : Nat} {v : Int} (h : numberAt t_buff k = .ok (some (j, v))) :
    k < j := by
  unfold numberAt at h
  cases hskip : skipBelow (t_buff.drop k) k with
  | error e =>
      rw [hskip] at h
      cases h
  | ok i =>
      have hlt := lt_of_skipBelow hskip
      rw [hskip] at h
      dsimp only at h
      split at h
      · cases h
      · split at h
        · cases h
        · split at h
          · cases h
          · cases h
            exact hlt

/-- Passes that are not needed do not matter. -/
theorem readDe_drop (t_buff : List UInt8) (f : Nat) {passes passes' i : Nat} (de : Int)
    (hpasses : size ≤ passes + i) (hpasses' : size ≤ passes' + i) :
    readDe t_buff (f + size) passes' (f + i) de =
      (readDe (t_buff.drop f) size passes i de).map (Prod.map (Option.map (f + ·)) id) := by
  induction passes generalizing passes' i de with
  | zero =>
      cases passes' with
      | zero => rfl
      | succ passes' =>
          rw [readDe, readDe, if_pos (by omega)]
          rfl
  | succ passes ih =>
      by_cases hend : size ≤ i
      · rw [readDe, if_pos hend]
        cases passes' with
        | zero => rfl
        | succ passes' =>
            rw [readDe, if_pos (by omega)]
            rfl
      · obtain ⟨passes', rfl⟩ : ∃ n, passes' = n + 1 := ⟨passes' - 1, by omega⟩
        rw [readDe, readDe, if_neg hend, if_neg (by omega), List.getElem?_drop]
        cases t_buff[f + i]? with
        | none => rfl
        | some c =>
            dsimp only
            by_cases hcomma : c = ','.toUInt8
            · rw [if_pos hcomma, if_pos hcomma, numberAt_drop]
              cases hnumber : numberAt (t_buff.drop f) i with
              | error e => rfl
              | ok r =>
                  rcases r with - | ⟨j, v⟩
                  · rfl
                  · have hij := lt_of_numberAt hnumber
                    simp only [Except.map, Option.map_some, Prod.map, List.getElem?_drop, id]
                    cases t_buff[f + j]? with
                    | none => rfl
                    | some d =>
                        dsimp only
                        split
                        · rfl
                        · exact ih (i := j + 1) v (by omega) (by omega)
            · rw [if_neg hcomma, if_neg hcomma]
              simp only [List.getElem?_drop]
              cases t_buff[f + i]? with
              | none => rfl
              | some d =>
                  dsimp only
                  split
                  · rfl
                  · exact ih (i := i + 1) de (by omega) (by omega)

/-- The same from the place where a window begins. -/
theorem numberAt_window (t_buff : List UInt8) (f k : Nat) :
    numberAt (t_buff.drop f) k =
      (numberAt t_buff (f + k)).map (Option.map (Prod.map (· - f) id)) := by
  rw [numberAt_drop]
  cases numberAt (t_buff.drop f) k with
  | error e => rfl
  | ok r =>
      rcases r with - | ⟨j, v⟩
      · rfl
      · simp [Except.map]

theorem readDe_window (t_buff : List UInt8) (f : Nat) {passes passes' i : Nat} (de : Int)
    (hpasses : size ≤ passes + i) (hpasses' : size ≤ passes' + i) :
    readDe (t_buff.drop f) size passes i de =
      (readDe t_buff (f + size) passes' (f + i) de).map (Prod.map (Option.map (· - f)) id) := by
  rw [readDe_drop t_buff f de hpasses hpasses']
  cases readDe (t_buff.drop f) size passes i de with
  | error e => rfl
  | ok r =>
      rcases r with ⟨- | i', de'⟩
      · rfl
      · simp [Except.map]

/-! ## A larger mapping -/

section Larger

variable {more : List UInt8}

theorem dropWhile_append_of_ne {p : UInt8 → Bool} {text : List UInt8}
    (h : text.dropWhile p ≠ []) (more : List UInt8) :
    (text ++ more).dropWhile p = text.dropWhile p ++ more := by
  rw [List.dropWhile_append, if_neg (by rwa [List.isEmpty_iff])]

theorem NumberEnds.append {k : Nat} (h : NumberEnds t_buff k) (more : List UInt8) :
    NumberEnds (t_buff ++ more) k := by
  unfold NumberEnds at h ⊢
  have hin : k ≤ t_buff.length := by
    by_contra hout
    rw [List.drop_eq_nil_of_le (by omega)] at h
    exact h rfl
  have hbelow : (t_buff.drop k).dropWhile isBelow ≠ [] := by
    intro hnil
    rw [hnil] at h
    exact h rfl
  rw [List.drop_append_of_le_length hin, dropWhile_append_of_ne hbelow, dropWhile_append_of_ne h]
  exact List.append_ne_nil_of_left_ne_nil h more

theorem skipBelow_append_right {text : List UInt8} {i j : Nat} (h : skipBelow text i = .ok j)
    (more : List UInt8) : skipBelow (text ++ more) i = .ok j := by
  induction text generalizing i with
  | nil => cases h
  | cons c text ih =>
      rw [skipBelow] at h
      rw [List.cons_append, skipBelow]
      split at h
      · rename_i hbelow
        rw [if_pos hbelow]
        exact ih h
      · rename_i hbelow
        rw [if_neg hbelow]
        exact h

theorem getElem?_append {i : Nat} {c : UInt8} (h : t_buff[i]? = some c) (more : List UInt8) :
    (t_buff ++ more)[i]? = some c := by
  obtain ⟨hlt, -⟩ := List.getElem?_eq_some_iff.mp h
  rw [List.getElem?_append_left hlt, h]

/-- A number that was read, or is not there, is the same in a larger mapping. -/
theorem numberAt_append {k : Nat} {r : Option (Nat × Int)} (h : numberAt t_buff k = .ok r)
    (more : List UInt8) :
    ∃ r', numberAt (t_buff ++ more) k = .ok r' ∧ r'.map Prod.fst = r.map Prod.fst := by
  unfold numberAt at h ⊢
  cases hskip : skipBelow (t_buff.drop k) k with
  | error e =>
      rw [hskip] at h
      cases h
  | ok i =>
      have hin : k ≤ t_buff.length := by
        by_contra hout
        rw [List.drop_eq_nil_of_le (by omega)] at hskip
        cases hskip
      rw [hskip] at h
      rw [List.drop_append_of_le_length hin, skipBelow_append_right hskip more]
      dsimp only at h ⊢
      cases hget : t_buff[i - 1]? with
      | none =>
          rw [hget] at h
          cases h
      | some c =>
          obtain ⟨hlt, -⟩ := List.getElem?_eq_some_iff.mp hget
          rw [hget] at h
          rw [getElem?_append hget more]
          dsimp only at h ⊢
          by_cases hnine : '9'.toUInt8 < c
          · rw [if_pos hnine] at h ⊢
            cases h
            exact ⟨none, rfl, rfl⟩
          · rw [if_neg hnine] at h ⊢
            by_cases hends : (t_buff.drop (i - 1)).dropWhile isDigit = []
            · rw [if_pos hends] at h
              cases h
            · rw [if_neg hends] at h
              rw [List.drop_append_of_le_length hlt.le, dropWhile_append_of_ne hends,
                if_neg (List.append_ne_nil_of_left_ne_nil hends more)]
              cases h
              exact ⟨_, rfl, rfl⟩

/-- A head that ends in front of the end of the mapping is read in a larger one as well, up to the
same place and with the same commas; another head does not end there in a larger one either. -/
theorem readDe_append {passes p i : Nat} {size' de : Int} {r : Option Nat × Int}
    (h : readDe t_buff size passes i de = .ok r) (hpasses : size ≤ passes + i)
    (hsize : size ≤ size') (hp : size' ≤ p + i) (more : List UInt8)
    (hlength : size' ≤ (t_buff ++ more).length) (d : Int) :
    (∃ c d', r.1 = some c ∧ (c : Int) < size ∧
        readDe (t_buff ++ more) size' p i d = .ok (some c, d') ∧
        deCommas (t_buff ++ more) size' p i = deCommas t_buff size passes i) ∨
      (∀ c, r.1 = some c → size ≤ c) ∧
        ∀ c d', readDe (t_buff ++ more) size' p i d = .ok (some c, d') → size ≤ c := by
  induction passes generalizing p i de d with
  | zero =>
      cases h
      refine Or.inr ⟨?_, ?_⟩
      · intro c hc
        cases hc
        omega
      · intro c d' hc
        have hle := le_of_readDe hlength hc
        omega
  | succ passes ih =>
      rw [readDe] at h
      rw [deCommas]
      by_cases hend : size ≤ i
      · rw [if_pos hend] at h
        cases h
        refine Or.inr ⟨?_, ?_⟩
        · intro c hc
          cases hc
          exact hend
        · intro c d' hc
          have hle := le_of_readDe hlength hc
          omega
      · obtain ⟨p, rfl⟩ : ∃ n, p = n + 1 := ⟨p - 1, by omega⟩
        have hend' : ¬ size' ≤ i := by omega
        rw [if_neg hend] at h
        rw [if_neg hend, deCommas, if_neg hend']
        simp only [readDe, if_neg hend']
        cases hget : t_buff[i]? with
        | none =>
            rw [hget] at h
            cases h
        | some ch =>
            rw [hget] at h
            rw [getElem?_append hget more]
            simp only [Option.some.injEq] at h ⊢
            by_cases hcomma : ch = ','.toUInt8
            · simp only [if_pos hcomma] at h ⊢
              cases hnumber : numberAt t_buff i with
              | error e =>
                  rw [hnumber] at h
                  cases h
              | ok r' =>
                  obtain ⟨r'', hnumber', heq⟩ := numberAt_append hnumber more
                  rw [hnumber] at h
                  rw [hnumber']
                  rcases r' with - | ⟨j, v⟩
                  · -- there is no number in the larger mapping either
                    obtain rfl := Option.map_eq_none_iff.mp heq
                    cases h
                    exact Or.inr ⟨by simp, by simp⟩
                  · obtain ⟨⟨j', v'⟩, rfl, rfl⟩ := Option.map_eq_some_iff.mp heq
                    have hij := lt_of_numberAt hnumber
                    dsimp only at h ⊢
                    cases hgetj : t_buff[j']? with
                    | none =>
                        rw [hgetj] at h
                        cases h
                    | some d =>
                        rw [hgetj] at h
                        rw [getElem?_append hgetj more]
                        simp only [Option.some.injEq] at h ⊢
                        by_cases hbracket : d = ']'.toUInt8
                        · simp only [if_pos hbracket] at h ⊢
                          cases h
                          by_cases hlt : ((j' + 1 : Nat) : Int) < size
                          · exact Or.inl ⟨_, _, rfl, hlt, rfl, trivial⟩
                          · refine Or.inr ⟨?_, ?_⟩
                            · rintro c ⟨⟩
                              omega
                            · rintro c d' ⟨⟩
                              omega
                        · simp only [if_neg hbracket] at h ⊢
                          obtain ⟨c, d', hc, hlt, hread, hcommas⟩ | hcut :=
                            ih (p := p) h (by omega) (by omega) v'
                          · exact Or.inl ⟨c, d', hc, hlt, hread, by rw [hcommas]⟩
                          · exact Or.inr hcut
            -- the same character in both, so both loops go on or stop here
            · simp only [if_neg hcomma, getElem?_append hget more] at h ⊢
              rw [hget] at h
              by_cases hbracket : ch = ']'.toUInt8
              · simp only [if_pos hbracket] at h ⊢
                cases h
                by_cases hlt : ((i + 1 : Nat) : Int) < size
                · exact Or.inl ⟨_, _, rfl, hlt, rfl, trivial⟩
                · refine Or.inr ⟨?_, ?_⟩
                  · rintro c ⟨⟩
                    omega
                  · rintro c d' ⟨⟩
                    omega
              · simp only [if_neg hbracket] at h ⊢
                exact ih h (by omega) (by omega) d

variable {size' : Int} {i c j : Nat} {id : Int}

/-- The display that was read before does not matter. -/
theorem readDe_eq {de de' : Int} (hlength : size ≤ t_buff.length)
    (hstop : readDe t_buff size size.toNat (j - 1) de = .ok (some c, de')) (hc : (c : Int) < size)
    (d : Int) : ∃ d', readDe t_buff size size.toNat (j - 1) d = .ok (some c, d') := by
  have hcases := readDe_append hstop (by omega) (Int.le_refl size)
    (by omega : size ≤ size.toNat + (j - 1 : Nat)) [] (by rwa [List.append_nil]) d
  rw [List.append_nil] at hcases
  obtain ⟨c', d', heq, -, hread, -⟩ | ⟨hcut, -⟩ := hcases
  · cases heq
    exact ⟨d', hread⟩
  · have hle := hcut c rfl
    omega

theorem headStops_iff (hlength : size ≤ t_buff.length)
    (hnumber : numberAt t_buff (i + 1) = .ok (some (j, id))) (de : Int) :
    HeadStops t_buff size i c ↔
      (c : Int) < size ∧ ∃ de', readDe t_buff size size.toNat (j - 1) de = .ok (some c, de') := by
  constructor
  · rintro ⟨j', id', de', hnumber', hstop, hc⟩
    rw [hnumber] at hnumber'
    cases hnumber'
    exact ⟨hc, readDe_eq hlength hstop hc de⟩
  · rintro ⟨hc, de', hstop⟩
    obtain ⟨d', hzero⟩ := readDe_eq hlength hstop hc 0
    exact ⟨j, id, d', hnumber, hzero, hc⟩

/-- Nothing more is read once the bracket of the head is there. -/
theorem HeadEnds.append (h : HeadEnds t_buff size i) (hstops : HeadStops t_buff size i c)
    (hsize : size ≤ size') (more : List UInt8) (hlength : size' ≤ (t_buff ++ more).length) :
    HeadEnds (t_buff ++ more) size' i ∧ HeadStops (t_buff ++ more) size' i c := by
  obtain ⟨j, id, de, hnumber, hstop, hc⟩ := hstops
  obtain ⟨r, hnumber', heq⟩ := numberAt_append hnumber more
  obtain ⟨⟨j', id'⟩, rfl, rfl⟩ := Option.map_eq_some_iff.mp heq
  obtain ⟨c', d', heq', -, hread, hcommas⟩ | ⟨hcut, -⟩ := readDe_append hstop (by omega) hsize
    (by omega : size' ≤ size'.toNat + (j' - 1 : Nat)) more hlength 0
  · cases heq'
    refine ⟨⟨h.1.append more, ?_⟩, j', id', d', hnumber', hread, by omega⟩
    intro k v hk
    rw [hnumber'] at hk
    cases hk
    rw [hcommas]
    intro k hk
    exact (h.2 j' id hnumber k hk).append more
  · have hle := hcut c rfl
    omega

/-- A head that ends in front of the end of a mapping is read in that mapping already. -/
theorem HeadEnds.of_append (h : HeadEnds t_buff size i) {more : List UInt8}
    (hstops : HeadStops (t_buff ++ more) size' i c) (hc : (c : Int) < size)
    (hsize : size ≤ size') (hle : size ≤ t_buff.length)
    (hlength : size' ≤ (t_buff ++ more).length) : HeadStops t_buff size i c := by
  obtain ⟨j, id, de, hnumber', hstop', -⟩ := hstops
  obtain ⟨r, hnumber, -⟩ := numberAt_of_ends h.1
  obtain ⟨r', happend, heq⟩ := numberAt_append hnumber more
  rw [hnumber'] at happend
  cases happend
  obtain ⟨⟨j', id'⟩, rfl, hj⟩ := Option.map_eq_some_iff.mp heq.symm
  obtain rfl : j' = j := hj
  obtain ⟨r, hr, -, -⟩ | ⟨-, k, hk, hcut⟩ := readDe_cases hle size.toNat (j' - 1) 0
  · obtain ⟨c', d', heq', hlt, hread, -⟩ | ⟨-, hbehind⟩ := readDe_append hr (by omega) hsize
      (by omega : size' ≤ size'.toNat + (j' - 1 : Nat)) more hlength 0
    · rw [hread] at hstop'
      cases hstop'
      obtain ⟨stop, de'⟩ := r
      cases heq'
      exact ⟨j', id', de', hnumber, hr, hlt⟩
    · have hle := hbehind c de hstop'
      omega
  · exact absurd (h.2 j' id' hnumber k hk) hcut

theorem HeadStops.unique {c' : Nat} (h : HeadStops t_buff size i c)
    (h' : HeadStops t_buff size i c') : c = c' := by
  obtain ⟨j, id, de, hnumber, hstop, -⟩ := h
  obtain ⟨j', id', de', hnumber', hstop', -⟩ := h'
  rw [hnumber] at hnumber'
  cases hnumber'
  rw [hstop] at hstop'
  cases hstop'
  rfl

/-- What is read at the bracket `i`, where `de` is the display that was read before. -/
theorem numbers_cases (hsize : size ≤ t_buff.length) (i : Nat) (de : Int) :
    numberAt t_buff (i + 1) = .error .badAddress ∧ ¬ HeadEnds t_buff size i ∨
      numberAt t_buff (i + 1) = .ok none ∧ HeadEnds t_buff size i ∧
        (∀ c, ¬ HeadStops t_buff size i c) ∨
      ∃ j id, numberAt t_buff (i + 1) = .ok (some (j, id)) ∧ i + 1 < j ∧
        (readDe t_buff size size.toNat (j - 1) de = .error .badAddress ∧
            ¬ HeadEnds t_buff size i ∨
          ∃ stop de', readDe t_buff size size.toNat (j - 1) de = .ok (stop, de') ∧
            HeadEnds t_buff size i ∧ (∀ c, stop = some c → i < c) ∧
            ∀ c, HeadStops t_buff size i c ↔ stop = some c ∧ (c : Int) < size) := by
  by_cases hends : NumberEnds t_buff (i + 1)
  · obtain ⟨r, hr, -⟩ := numberAt_of_ends hends
    rcases r with - | ⟨j, id⟩
    -- what stands behind the bracket is above the digits
    · refine Or.inr (Or.inl ⟨hr, ⟨hends, ?_⟩, ?_⟩)
      · intro j id hj
        rw [hr] at hj
        cases hj
      · rintro c ⟨j, id, de', hj, -⟩
        rw [hr] at hj
        cases hj
    · have hij := lt_of_numberAt hr
      refine Or.inr (Or.inr ⟨j, id, hr, hij, ?_⟩)
      obtain ⟨⟨stop, de'⟩, hread, hbehind, hall⟩ | ⟨herror, k, hk, hcut⟩ :=
        readDe_cases hsize size.toNat (j - 1) de
      · refine Or.inr ⟨stop, de', hread, ⟨hends, ?_⟩, ?_, ?_⟩
        · intro j' id' hj'
          rw [hr] at hj'
          cases hj'
          exact hall
        · rintro c rfl
          have hle := hbehind c de' rfl
          omega
        · intro c
          rw [headStops_iff hsize hr de, hread]
          constructor
          · rintro ⟨hc, de'', heq⟩
            cases heq
            exact ⟨rfl, hc⟩
          · rintro ⟨rfl, hc⟩
            exact ⟨hc, de', rfl⟩
      · exact Or.inl ⟨herror, fun h => hcut (h.2 j id hr k hk)⟩
  · exact Or.inl ⟨numberAt_of_not_ends hends, fun h => hends h.1⟩

end Larger

end AwHal.Pq
