import AwHal.Wireless.HwInfo

/-!
# The value of a line

`search_key_val` trims the end of a line in a fixed order, from the right and without a look at where
the value starts: spaces, one quotation mark, line ends.  The value is copied into 256 bytes.
-/

namespace AwHal.Wireless

open AwHal.Lib

/-! ## Trimming -/

theorem rdropWhile_append {α : Type} (p : α → Bool) (l m : List α) :
    (l ++ m).rdropWhile p =
      if m.rdropWhile p = [] then l.rdropWhile p else l ++ m.rdropWhile p := by
  simp only [List.rdropWhile, List.reverse_append, List.dropWhile_append, List.isEmpty_iff,
    List.reverse_eq_nil_iff]
  split
  · rfl
  · rw [List.reverse_append, List.reverse_reverse]

theorem rdropWhile_of_getLast? {α : Type} {p : α → Bool} {l : List α} {c : α}
    (hlast : l.getLast? = some c) (hc : p c = false) : l.rdropWhile p = l := by
  obtain ⟨l, rfl⟩ := List.getLast?_eq_some_iff.mp hlast
  exact List.rdropWhile_concat_neg p l c (by simp [hc])

def isEnding (ch : Char) : Bool := ch == '\r' || ch == '\n'

def trimmed (text : List Char) : List Char :=
  let p := text.rdropWhile (· == ' ')
  let p := if p.getLast? = some '"' then p.dropLast else p
  p.rdropWhile isEnding

theorem valueEnd_eq (str : List Char) : valueEnd str = (trimmed str).length := rfl

theorem trimmed_isStart (text : List Char) : trimmed text <+: text := by
  unfold trimmed
  dsimp only
  refine (List.rdropWhile_prefix _ _).trans ?_
  split
  · exact (List.dropLast_prefix _).trans (List.rdropWhile_prefix _ _)
  · exact List.rdropWhile_prefix _ _

/-- With something other than spaces in the second part, trimming stays in it. -/
theorem trimmed_append {front text : List Char} {c : Char} (hfront : front.getLast? = some c)
    (hc : isEnding c = false) (htext : text.rdropWhile (· == ' ') ≠ []) :
    trimmed (front ++ text) = front ++ trimmed text := by
  have hend : ∀ rest, (front ++ rest).rdropWhile isEnding = front ++ rest.rdropWhile isEnding := by
    intro rest
    rw [rdropWhile_append]
    split
    · rename_i hnil
      rw [hnil, List.append_nil, rdropWhile_of_getLast? hfront hc]
    · rfl
  have hlast : (front ++ text.rdropWhile (· == ' ')).getLast? =
      (text.rdropWhile (· == ' ')).getLast? := by
    rw [List.getLast?_append, List.getLast?_eq_some_getLast htext]
    rfl
  unfold trimmed
  dsimp only
  rw [rdropWhile_append, if_neg htext, hlast]
  split
  · rw [List.dropLast_append_of_ne_nil htext, hend]
  · rw [hend]

theorem trimmed_spaces (text : List Char) (n : Nat) :
    trimmed (text ++ List.replicate n ' ') = trimmed text := by
  have hnil : (List.replicate n ' ').rdropWhile (· == ' ') = [] := by
    rw [List.rdropWhile_eq_nil_iff]
    intro c hc
    rw [List.eq_of_mem_replicate hc]
    rfl
  unfold trimmed
  rw [rdropWhile_append, if_pos hnil]

theorem trimmed_quote (text : List Char) : trimmed (text ++ ['"']) = text.rdropWhile isEnding := by
  unfold trimmed
  rw [List.rdropWhile_concat_neg _ _ _ (by decide)]
  dsimp only
  rw [List.getLast?_concat, if_pos rfl, List.dropLast_concat]

theorem trimmed_of_getLast? {text : List Char} {c : Char} (hlast : text.getLast? = some c)
    (hspace : c ≠ ' ') (hquote : c ≠ '"') (hend : isEnding c = false) : trimmed text = text := by
  unfold trimmed
  rw [rdropWhile_of_getLast? hlast (by simpa using hspace)]
  dsimp only
  rw [hlast, if_neg (by simpa using hquote), rdropWhile_of_getLast? hlast hend]

/-! ## Lines for a key -/

def valueText (p : List Char) : List Char :=
  let p := skipSpaces p
  if p.head? = some '"' then p.drop 1 else p

/-- Nothing but spaces, perhaps with a quotation mark in front of or between them, follows the `=`:
the right end comes to lie in front of the left one. -/
def Crosses (p : List Char) : Prop := p ≠ [] ∧ ∀ c ∈ valueText p, c = ' '

instance (p : List Char) : Decidable (Crosses p) := inferInstanceAs (Decidable (_ ∧ _))

theorem skipSpaces_split (text : List Char) :
    ∃ n, text = List.replicate n ' ' ++ skipSpaces text := by
  refine ⟨(text.takeWhile (· == ' ')).length, ?_⟩
  conv_lhs => rw [← List.takeWhile_append_dropWhile (p := (· == ' ')) (l := text)]
  congr 1
  refine List.eq_replicate_iff.mpr ⟨rfl, fun c hc ↦ ?_⟩
  simpa using List.mem_takeWhile_imp hc

theorem head?_skipSpaces (text : List Char) : (skipSpaces text).head? ≠ some ' ' := by
  intro hhead
  have hnot := List.head?_dropWhile_not (· == ' ') text
  unfold skipSpaces at hhead
  rw [hhead] at hnot
  simp at hnot

theorem afterKey_split {str key p : List Char} (h : afterKey str key = some p) :
    ∃ front, str = front ++ p := by
  unfold afterKey at h
  dsimp only at h
  split at h
  · cases h
  · split at h
    · rename_i hkey
      cases h
      obtain ⟨n, hn⟩ := skipSpaces_split str
      obtain ⟨rest, hrest⟩ := hkey
      rw [← hrest, List.drop_left]
      obtain ⟨m, hm⟩ := skipSpaces_split rest
      refine ⟨List.replicate n ' ' ++ (key ++ List.replicate m ' '), ?_⟩
      rw [List.append_assoc, List.append_assoc, ← hm, hrest, ← hn]
    · cases h

/-- Where the text of the value starts, and what stands in front of it. -/
theorem valueText_split {str key p : List Char} (h : afterKey str key = some ('=' :: p)) :
    ∃ front c, str = front ++ c :: valueText p ∧
      (c = '=' ∧ skipSpaces p = p ∧ valueText p = p ∨
        c = ' ' ∧ p ≠ [] ∧ (∃ m n, front = m ++ '=' :: List.replicate n ' ') ∨
        c = '"' ∧ p ≠ []) := by
  obtain ⟨line, hline⟩ := afterKey_split h
  obtain ⟨n, hn⟩ := skipSpaces_split p
  unfold valueText
  dsimp only
  split
  · -- behind a quotation mark
    rename_i hquote
    obtain ⟨rest, hrest⟩ := List.head?_eq_some_iff.mp hquote
    refine ⟨line ++ '=' :: List.replicate n ' ', '"', ?_, Or.inr (Or.inr ⟨rfl, ?_⟩)⟩
    · rw [hline, hrest, List.drop_one, List.tail_cons]
      conv_lhs => rw [hn, hrest]
      simp
    · rintro rfl
      cases hrest
  · cases n with
    | zero =>
        have hp : skipSpaces p = p := by simpa using hn.symm
        exact ⟨line, '=', by rw [hline, hp], Or.inl ⟨rfl, hp, hp⟩⟩
    | succ n =>
        refine ⟨line ++ '=' :: List.replicate n ' ', ' ', ?_, Or.inr (Or.inl ⟨rfl, ?_, line, n, rfl⟩)⟩
        · rw [hline]
          conv_lhs => rw [hn, List.replicate_succ']
          simp
        · rintro rfl
          simp [skipSpaces] at hn

/-- The value of a line for the key: its text without what is trimmed, if that is not in front of it
and fits. -/
theorem search_key_val_eq {str key p : List Char} (h : afterKey str key = some ('=' :: p)) :
    search_key_val str key = some (if Crosses p ∨ CONF_SIZE ≤ (trimmed (valueText p)).length then none
      else some (trimmed (valueText p))) := by
  obtain ⟨front, c, hstr, hc⟩ := valueText_split h
  have hstart : str.length - (valueText p).length = front.length + 1 := by
    rw [hstr, List.length_append, List.length_cons]
    omega
  have hval : search_key_val str key =
      if valueEnd str < front.length + 1 ∨ CONF_SIZE ≤ valueEnd str - (front.length + 1) then some none
      else some (some ((str.take (valueEnd str)).drop (front.length + 1))) := by
    rw [search_key_val, h]
    dsimp only
    rw [← hstart]
    rfl
  have hnotEnd : isEnding c = false := by
    rcases hc with ⟨rfl, -⟩ | ⟨rfl, -⟩ | ⟨rfl, -⟩ <;> decide
  rw [hval, valueEnd_eq]
  by_cases hspaces : ∀ d ∈ valueText p, d = ' '
  · -- nothing but spaces
    obtain ⟨k, hk⟩ : ∃ k, valueText p = List.replicate k ' ' :=
      ⟨_, List.eq_replicate_iff.mpr ⟨rfl, hspaces⟩⟩
    have htrim : trimmed str = trimmed (front ++ [c]) := by
      rw [hstr, hk, List.append_cons, trimmed_spaces]
    rcases hc with ⟨rfl, hskip, hp⟩ | ⟨rfl, hne, m, n, hfront⟩ | ⟨rfl, hne⟩
    · have hnil : p = [] := by
        cases p with
        | nil => rfl
        | cons d p =>
            have hd := hspaces d (by rw [hp]; exact List.mem_cons_self)
            have hhead := head?_skipSpaces (d :: p)
            rw [hskip, hd] at hhead
            exact absurd rfl hhead
      have hwhole : trimmed (front ++ ['=']) = front ++ ['='] :=
        trimmed_of_getLast? List.getLast?_concat (by decide) (by decide) (by decide)
      have hlen : (front ++ ['=']).length = front.length + 1 := List.length_append
      subst hnil
      rw [htrim, hwhole, hlen, if_neg (by unfold CONF_SIZE; omega),
        if_neg (by unfold Crosses CONF_SIZE; simp [valueText, skipSpaces, trimmed]), ← hlen,
        List.drop_eq_nil_of_le (List.length_take_le _ _)]
      rfl
    · have hshort : (trimmed str).length < front.length + 1 := by
        have hback : front ++ [' '] = m ++ ['='] ++ List.replicate (n + 1) ' ' := by
          rw [hfront, List.replicate_succ']
          simp
        have hwhole : trimmed (m ++ ['=']) = m ++ ['='] :=
          trimmed_of_getLast? List.getLast?_concat (by decide) (by decide) (by decide)
        rw [htrim, hback, trimmed_spaces, hwhole, hfront]
        simp
      rw [if_pos (Or.inl hshort), if_pos (Or.inl ⟨hne, hspaces⟩)]
    · have hshort : (trimmed str).length < front.length + 1 := by
        rw [htrim, trimmed_quote]
        exact Nat.lt_succ_of_le (List.rdropWhile_prefix _ _).length_le
      rw [if_pos (Or.inl hshort), if_pos (Or.inl ⟨hne, hspaces⟩)]
  · -- trimming stops in the value
    have htext : (valueText p).rdropWhile (· == ' ') ≠ [] := by
      rw [Ne, List.rdropWhile_eq_nil_iff]
      simpa using hspaces
    have htrim : trimmed str = (front ++ [c]) ++ trimmed (valueText p) := by
      rw [hstr, List.append_cons, trimmed_append List.getLast?_concat hnotEnd htext]
    have hlen : (trimmed str).length = front.length + 1 + (trimmed (valueText p)).length := by
      rw [htrim, List.length_append, List.length_append]
      rfl
    have htake : str.take (trimmed str).length = trimmed str :=
      (List.prefix_iff_eq_take.mp (trimmed_isStart str)).symm
    have hdrop : (trimmed str).drop (front.length + 1) = trimmed (valueText p) := by
      rw [htrim]
      exact List.drop_left' List.length_append
    have hnot : ¬ Crosses p := fun hcross ↦ hspaces hcross.2
    rw [htake, hdrop, hlen, Nat.add_sub_cancel_left]
    by_cases hsize : CONF_SIZE ≤ (trimmed (valueText p)).length
    · rw [if_pos (Or.inr hsize), if_pos (Or.inr hsize)]
    · rw [if_neg (by omega), if_neg (by tauto)]

def Safe (str key : List Char) : Prop := search_key_val str key ≠ some none

/-- The value of a line for the key has its end behind its start, and fits. -/
def ValueFits (str key : List Char) : Prop :=
  ∀ p, afterKey str key = some ('=' :: p) →
    ¬ Crosses p ∧ (trimmed (valueText p)).length < CONF_SIZE

theorem safe_iff (str key : List Char) : Safe str key ↔ ValueFits str key := by
  unfold Safe ValueFits
  by_cases h : ∃ p, afterKey str key = some ('=' :: p)
  · obtain ⟨p, hp⟩ := h
    rw [search_key_val_eq hp, hp]
    constructor
    · intro hsafe p' hp'
      cases hp'
      by_contra hnot
      rw [not_and_or, not_not, Nat.not_lt] at hnot
      exact hsafe (by rw [if_pos hnot])
    · intro hfits
      obtain ⟨hcross, hlt⟩ := hfits p rfl
      rw [if_neg (not_or.mpr ⟨hcross, Nat.not_le.mpr hlt⟩)]
      simp
  · constructor
    · intro _ p hp
      exact absurd ⟨p, hp⟩ h
    · intro _ hnone
      unfold search_key_val at hnone
      split at hnone
      · rename_i p hp
        exact h ⟨p, hp⟩
      · cases hnone

end AwHal.Wireless
