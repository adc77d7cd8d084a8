import Mathlib.Data.List.Infix

/-!
# Replacement of a list in another

`findSub` is the first occurrence of a list, and `replaceAll` puts another one in the place of every
occurrence, from left to right and without overlaps.
-/

namespace AwHal.Lib

variable {α : Type*} [DecidableEq α]

def findSub (pat : List α) : List α → Option Nat
  | [] => if pat = [] then some 0 else none
  | c :: text => if pat <+: c :: text then some 0 else (findSub pat text).map (· + 1)

/-- `skip` elements of an occurrence are still to be left out. -/
def replaceFrom (pat new : List α) : Nat → List α → List α
  | _, [] => []
  | skip + 1, _ :: text => replaceFrom pat new skip text
  | 0, c :: text =>
      if pat <+: c :: text then new ++ replaceFrom pat new (pat.length - 1) text
      else c :: replaceFrom pat new 0 text

def replaceAll (pat new text : List α) : List α := replaceFrom pat new 0 text

def countFrom (pat : List α) : Nat → List α → Nat
  | _, [] => 0
  | skip + 1, _ :: text => countFrom pat skip text
  | 0, c :: text =>
      if pat <+: c :: text then countFrom pat (pat.length - 1) text + 1 else countFrom pat 0 text

/-- The number of occurrences that `replaceAll` replaces. -/
def occurrences (pat text : List α) : Nat := countFrom pat 0 text

variable {pat : List α}

@[simp] theorem replaceAll_nil (pat new : List α) : replaceAll pat new [] = [] := rfl

@[simp] theorem occurrences_nil (pat : List α) : occurrences pat [] = 0 := rfl

theorem replaceFrom_eq_drop (pat new : List α) (skip : Nat) (text : List α) :
    replaceFrom pat new skip text = replaceAll pat new (text.drop skip) := by
  induction text generalizing skip with
  | nil => simp [replaceFrom]
  | cons c text ih =>
      cases skip with
      | zero => rfl
      | succ skip => exact ih skip

theorem countFrom_eq_drop (pat : List α) (skip : Nat) (text : List α) :
    countFrom pat skip text = occurrences pat (text.drop skip) := by
  induction text generalizing skip with
  | nil => simp [countFrom]
  | cons c text ih =>
      cases skip with
      | zero => rfl
      | succ skip => exact ih skip

theorem replaceAll_cons_of_not {c : α} {text : List α} (h : ¬ pat <+: c :: text) (new : List α) :
    replaceAll pat new (c :: text) = c :: replaceAll pat new text := if_neg h

theorem occurrences_cons_of_not {c : α} {text : List α} (h : ¬ pat <+: c :: text) :
    occurrences pat (c :: text) = occurrences pat text := if_neg h

omit [DecidableEq α] in
theorem drop_pred_length (hpat : pat ≠ []) {c : α} {text rest : List α}
    (h : c :: text = pat ++ rest) : text.drop (pat.length - 1) = rest := by
  obtain ⟨d, pat, rfl⟩ := List.exists_cons_of_ne_nil hpat
  injection h with _ htext
  rw [htext]
  simp

theorem replaceAll_append (hpat : pat ≠ []) (new rest : List α) :
    replaceAll pat new (pat ++ rest) = new ++ replaceAll pat new rest := by
  obtain ⟨c, text, htext⟩ := List.exists_cons_of_ne_nil
    (fun h => hpat (List.append_eq_nil_iff.mp h).1 : pat ++ rest ≠ [])
  have hprefix : pat <+: c :: text := ⟨rest, htext⟩
  have hstep : replaceAll pat new (c :: text) =
      new ++ replaceFrom pat new (pat.length - 1) text := if_pos hprefix
  rw [htext, hstep, replaceFrom_eq_drop, drop_pred_length hpat htext.symm]

theorem occurrences_append (hpat : pat ≠ []) (rest : List α) :
    occurrences pat (pat ++ rest) = occurrences pat rest + 1 := by
  obtain ⟨c, text, htext⟩ := List.exists_cons_of_ne_nil
    (fun h => hpat (List.append_eq_nil_iff.mp h).1 : pat ++ rest ≠ [])
  have hprefix : pat <+: c :: text := ⟨rest, htext⟩
  have hstep : occurrences pat (c :: text) = countFrom pat (pat.length - 1) text + 1 :=
    if_pos hprefix
  rw [htext, hstep, countFrom_eq_drop, drop_pred_length hpat htext.symm]

/-! ## The first occurrence -/

theorem replaceAll_of_findSub_none {text : List α} (h : findSub pat text = none) (new : List α) :
    replaceAll pat new text = text := by
  induction text with
  | nil => rfl
  | cons c text ih =>
      by_cases hprefix : pat <+: c :: text
      · rw [findSub, if_pos hprefix] at h
        cases h
      · rw [findSub, if_neg hprefix, Option.map_eq_none_iff] at h
        rw [replaceAll_cons_of_not hprefix, ih h]

theorem occurrences_of_findSub_none {text : List α} (h : findSub pat text = none) :
    occurrences pat text = 0 := by
  induction text with
  | nil => rfl
  | cons c text ih =>
      by_cases hprefix : pat <+: c :: text
      · rw [findSub, if_pos hprefix] at h
        cases h
      · rw [findSub, if_neg hprefix, Option.map_eq_none_iff] at h
        rw [occurrences_cons_of_not hprefix, ih h]

theorem exists_of_findSub (hpat : pat ≠ []) {text : List α} {i : Nat}
    (h : findSub pat text = some i) (new : List α) :
    ∃ front rest, text = front ++ (pat ++ rest) ∧ front.length = i ∧
      replaceAll pat new text = front ++ (new ++ replaceAll pat new rest) ∧
        occurrences pat text = occurrences pat rest + 1 := by
  induction text generalizing i with
  | nil =>
      rw [findSub, if_neg hpat] at h
      cases h
  | cons c text ih =>
      by_cases hprefix : pat <+: c :: text
      · rw [findSub, if_pos hprefix] at h
        cases h
        obtain ⟨rest, hrest⟩ := hprefix
        refine ⟨[], rest, hrest.symm, rfl, ?_, ?_⟩
        · rw [← hrest, replaceAll_append hpat, List.nil_append]
        · rw [← hrest, occurrences_append hpat]
      · rw [findSub, if_neg hprefix, Option.map_eq_some_iff] at h
        obtain ⟨j, hj, rfl⟩ := h
        obtain ⟨front, rest, htext, hlength, hreplace, hcount⟩ := ih hj
        refine ⟨c :: front, rest, by rw [htext, List.cons_append], by simp [hlength], ?_, ?_⟩
        · rw [replaceAll_cons_of_not hprefix, hreplace, List.cons_append]
        · rw [occurrences_cons_of_not hprefix, hcount]

theorem length_replaceAll (hpat : pat ≠ []) (new text : List α) :
    (replaceAll pat new text).length + occurrences pat text * pat.length =
      text.length + occurrences pat text * new.length := by
  induction hn : text.length using Nat.strong_induction_on generalizing text with
  | _ n ih =>
      cases h : findSub pat text with
      | none =>
          rw [replaceAll_of_findSub_none h, occurrences_of_findSub_none h]
          simpa using hn
      | some i =>
          obtain ⟨front, rest, htext, -, hreplace, hcount⟩ := exists_of_findSub hpat h new
          have hpos := List.length_pos_of_ne_nil hpat
          have hlength : text.length = front.length + (pat.length + rest.length) := by
            rw [htext, List.length_append, List.length_append]
          have hrest := ih rest.length (by omega) rest rfl
          rw [hreplace, hcount, ← hn, hlength]
          simp only [List.length_append, Nat.add_mul, Nat.one_mul]
          omega

theorem occurrences_le (hpat : pat ≠ []) (text : List α) : occurrences pat text ≤ text.length := by
  induction hn : text.length using Nat.strong_induction_on generalizing text with
  | _ n ih =>
      cases h : findSub pat text with
      | none =>
          rw [occurrences_of_findSub_none h]
          exact Nat.zero_le _
      | some i =>
          obtain ⟨front, rest, htext, -, -, hcount⟩ := exists_of_findSub hpat h pat
          have hpos := List.length_pos_of_ne_nil hpat
          have hlength : text.length = front.length + (pat.length + rest.length) := by
            rw [htext, List.length_append, List.length_append]
          have hrest := ih rest.length (by omega) rest rfl
          omega

/-! ## A text with a part that has no occurrence -/

omit [DecidableEq α] in
theorem not_prefix_of_head_ne {p c : α} {pat text : List α} (h : c ≠ p) :
    ¬ p :: pat <+: c :: text := by
  rintro ⟨rest, hrest⟩
  injection hrest with hp
  exact h hp.symm

theorem replaceAll_append_of_notMem {p : α} {pat front : List α} (h : p ∉ front)
    (new text : List α) :
    replaceAll (p :: pat) new (front ++ text) = front ++ replaceAll (p :: pat) new text := by
  induction front with
  | nil => rfl
  | cons c front ih =>
      rw [List.mem_cons, not_or] at h
      rw [List.cons_append, replaceAll_cons_of_not (not_prefix_of_head_ne (Ne.symm h.1)), ih h.2]
      rfl

end AwHal.Lib
