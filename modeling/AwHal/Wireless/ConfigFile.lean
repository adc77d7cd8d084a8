import AwHal.Wireless.ConfigText
import AwHal.Wireless.HwInfoMerge
import Mathlib.Data.Bool.AllAny

/-!
# Configuration files

A file of `[module]` lines, comments and settings, and the entries that `load_config_from_file` makes
of it.
-/

namespace AwHal.Wireless

open AwHal.Lib

/-! ## Files -/

inductive Ending where
  | lf
  | crlf
deriving DecidableEq, Repr

def Ending.text : Ending → List Char
  | .lf => ['\n']
  | .crlf => ['\r', '\n']

def spaces (n : Nat) : List Char := List.replicate n ' '

/-- `key = value`, with the numbers of spaces in front of the `=`, behind it and at the end. -/
structure Setting where
  node : MatchNode
  value : List Char
  quoted : Bool
  before : Nat
  after : Nat
  trail : Nat
deriving DecidableEq, Repr

def Setting.quote (s : Setting) : List Char := if s.quoted then ['"'] else []

def Setting.text (s : Setting) : List Char :=
  s.node.keyname ++ (spaces s.before ++ '=' :: (spaces s.after ++ (s.quote ++ (s.value ++ (s.quote ++
    spaces s.trail)))))

inductive ConfLine where
  | module (trail : Nat)
  | comment (text : List Char)
  | setting (s : Setting)
deriving DecidableEq, Repr

def ConfLine.text : ConfLine → List Char
  | .module trail => CONFIG_SESSION_KEY ++ spaces trail
  | .comment text => '#' :: text
  | .setting s => s.text

abbrev FileLine : Type := ConfLine × Ending

def lineText (l : FileLine) : List Char := l.1.text ++ l.2.text

def fileText (conf : List FileLine) : List Char := conf.flatMap lineText

/-- A value is a text without quotation marks; without them around it, it neither starts nor ends with
a space. -/
structure Setting.Valid (s : Setting) : Prop where
  chars : ∀ c ∈ s.value, c ≠ '"' ∧ c ≠ '\r' ∧ c ≠ '\n' ∧ c ≠ '\x00'
  ends : s.quoted = false → s.value.head? ≠ some ' ' ∧ s.value.getLast? ≠ some ' '

def ConfLine.Valid : ConfLine → Prop
  | .module _ => True
  | .comment text => ∀ c ∈ text, c ≠ '\n' ∧ c ≠ '\x00'
  | .setting s => s.Valid

structure IsConfig (conf : List FileLine) : Prop where
  valid : ∀ l ∈ conf, l.1.Valid
  short : ∀ l ∈ conf, (lineText l).length < LINE_MAX

/-! ## What the file says -/

def addLine (sections : List (List Setting)) : ConfLine → List (List Setting)
  | .module _ => sections ++ [[]]
  | .comment _ => sections
  | .setting s => sections.dropLast ++ (sections.getLast?.map (· ++ [s])).toList

def sections (conf : List FileLine) : List (List Setting) := (conf.map Prod.fst).foldl addLine []

def entryOf (value : Setting → List Char) (settings : List Setting) : WifiHardwareInfo :=
  settings.foldl (fun info s ↦ s.node.set (value s) info) .zero

/-- The file is read into one entry for each `[module]` line, with the values given for it. -/
def LoadsValues (conf : List FileLine) : Prop :=
  ∀ heap, ∃ heap' head l, load_config_from_file heap (some (fileText conf)) = some (heap', head) ∧
    heap'.IsList head l ∧ l.map Prod.snd = (sections conf).map (entryOf Setting.value)

/-! ## When it is read so -/

/-- No setting stands in front of the first `[module]` line. -/
def StartsWithModule : List FileLine → Prop
  | [] => True
  | (.module _, _) :: _ => True
  | (.comment _, _) :: conf => StartsWithModule conf
  | (.setting _, _) :: _ => False

/-- The value up to the end of the line, with the closing quotation mark and the spaces behind it. -/
def Setting.untilEnd (s : Setting) : List Char :=
  if s.value = [] ∧ s.quoted = false then [] else s.value ++ (s.quote ++ spaces s.trail)

def ConfLine.Fits : ConfLine → Prop
  | .setting s => s.untilEnd.length < CONF_SIZE
  | _ => True

def AllFit (conf : List FileLine) : Prop := ∀ l ∈ conf, l.1.Fits

/-- No quotation mark and no space stands between the value and the end of the line. -/
def Setting.Bare (s : Setting) : Prop := s.quoted = false ∧ (s.value = [] ∨ s.trail = 0)

def MatchNode.isText : MatchNode → Bool
  | .moduleName | .driverName | .driverModuleName | .vendorName => true
  | .busType | .deviceId | .btSupport => false

def lastFor (node : MatchNode) (settings : List Setting) : Option Setting :=
  (settings.filter fun s ↦ s.node = node).getLast?

structure ReadsValues (conf : List FileLine) : Prop where
  started : StartsWithModule conf
  fits : AllFit conf
  bare : ∀ settings ∈ sections conf, ∀ node ∈ matchtab, node.isText = true →
    ∀ s ∈ lastFor node settings, s.Bare

instance (s : Setting) : Decidable s.Bare := inferInstanceAs (Decidable (_ ∧ _))

instance (l : ConfLine) : Decidable l.Fits :=
  match l with
  | .setting s => inferInstanceAs (Decidable (s.untilEnd.length < CONF_SIZE))
  | .module _ => isTrue trivial
  | .comment _ => isTrue trivial

instance (conf : List FileLine) : Decidable (AllFit conf) :=
  inferInstanceAs (Decidable (∀ l ∈ conf, l.1.Fits))

instance (s : Setting) : Decidable s.Valid :=
  -- decided on the value, not on all characters
  haveI : Decidable (∀ c ∈ s.value, c ≠ '"' ∧ c ≠ '\r' ∧ c ≠ '\n' ∧ c ≠ '\x00') :=
    List.decidableBAll _ s.value
  decidable_of_iff ((∀ c ∈ s.value, c ≠ '"' ∧ c ≠ '\r' ∧ c ≠ '\n' ∧ c ≠ '\x00') ∧
      (s.quoted = false → s.value.head? ≠ some ' ' ∧ s.value.getLast? ≠ some ' '))
    ⟨fun h ↦ ⟨h.1, h.2⟩, fun h ↦ ⟨h.chars, h.ends⟩⟩

instance (l : ConfLine) : Decidable l.Valid :=
  match l with
  | .module _ => isTrue trivial
  | .comment text => List.decidableBAll (fun c ↦ c ≠ '\n' ∧ c ≠ '\x00') text
  | .setting s => inferInstanceAs (Decidable s.Valid)

/-! ## Lines -/

/-- Lines of a file that `fgets` reads whole. -/
theorem readLines_flatten {ls : List (List Char)} (hzero : ∀ l ∈ ls, '\x00' ∉ l)
    (hline : ∀ l ∈ ls, ∃ text, l = text ++ ['\n'] ∧ '\n' ∉ text)
    (hshort : ∀ l ∈ ls, l.length < LINE_MAX) {fuel : Nat} (hfuel : ls.length ≤ fuel) :
    readLines fuel ls.flatten = ls := by
  have hread : ∀ (n : Nat) (text rest : List Char), '\n' ∉ text → text.length < n →
      readLine n (text ++ '\n' :: rest) = (text ++ ['\n'], rest) := by
    intro n text rest hnot hlt
    induction text generalizing n with
    | nil =>
        obtain ⟨n, rfl⟩ : ∃ k, n = k + 1 := ⟨n - 1, by simp at hlt; omega⟩
        rfl
    | cons c text ih =>
        obtain ⟨n, rfl⟩ : ∃ k, n = k + 1 := ⟨n - 1, by simp at hlt; omega⟩
        have hc : c ≠ '\n' := fun heq ↦ hnot (heq ▸ List.mem_cons_self)
        rw [List.cons_append, readLine, if_neg hc,
          ih n (fun hmem ↦ hnot (List.mem_cons_of_mem _ hmem)) (by simpa using hlt)]
        rfl
  induction ls generalizing fuel with
  | nil => cases fuel <;> rfl
  | cons l ls ih =>
      obtain ⟨fuel, rfl⟩ : ∃ k, fuel = k + 1 := ⟨fuel - 1, by simp at hfuel; omega⟩
      obtain ⟨text, rfl, hnot⟩ := hline l List.mem_cons_self
      have hlen := hshort _ List.mem_cons_self
      have hstop : (text ++ ['\n']).takeWhile (· != '\x00') = text ++ ['\n'] := by
        rw [List.takeWhile_eq_self_iff]
        intro c hc
        rw [bne_iff_ne]
        rintro rfl
        exact hzero _ List.mem_cons_self hc
      have hne : ∃ c rest, (text ++ ['\n']) ++ ls.flatten = c :: rest :=
        List.exists_cons_of_ne_nil (by simp)
      obtain ⟨c, rest, hcons⟩ := hne
      have hsplit := hread (LINE_MAX - 1) text ls.flatten hnot (by
        rw [List.length_append] at hlen
        simp at hlen
        omega)
      rw [List.append_cons text '\n' ls.flatten, hcons] at hsplit
      have hstep : readLines (fuel + 1) (c :: rest) =
          (readLine (LINE_MAX - 1) (c :: rest)).1.takeWhile (· != '\x00') ::
            readLines fuel (readLine (LINE_MAX - 1) (c :: rest)).2 := rfl
      rw [List.flatten_cons, hcons, hstep, hsplit]
      dsimp only
      rw [hstop, ih (fun l hl ↦ hzero l (List.mem_cons_of_mem _ hl))
        (fun l hl ↦ hline l (List.mem_cons_of_mem _ hl))
        (fun l hl ↦ hshort l (List.mem_cons_of_mem _ hl)) (by simpa using hfuel)]

theorem Ending.text_split (e : Ending) : ∃ text, e.text = text ++ ['\n'] ∧ ∀ c ∈ text, c = '\r' := by
  cases e with
  | lf => exact ⟨[], rfl, by simp⟩
  | crlf => exact ⟨['\r'], rfl, by simp⟩

theorem notMem_keyname (node : MatchNode) : ∀ c ∈ node.keyname, c ≠ '\n' ∧ c ≠ '\x00' := by
  refine List.all_iff_forall_prop.mp ?_
  cases node <;> decide

theorem eq_of_mem_spaces {n : Nat} {c : Char} (h : c ∈ spaces n) : c = ' ' := List.eq_of_mem_replicate h

theorem eq_of_mem_quote {s : Setting} {c : Char} (h : c ∈ s.quote) : c = '"' := by
  unfold Setting.quote at h
  split at h
  · exact List.mem_singleton.mp h
  · cases h

theorem Setting.notMem_text {s : Setting} (h : s.Valid) : ∀ c ∈ s.text, c ≠ '\n' ∧ c ≠ '\x00' := by
  have hspace : ∀ {n : Nat} {c : Char}, c ∈ spaces n → c ≠ '\n' ∧ c ≠ '\x00' := by
    intro n c hc
    rw [eq_of_mem_spaces hc]
    decide
  have hquote : ∀ c ∈ s.quote, c ≠ '\n' ∧ c ≠ '\x00' := by
    intro c hc
    rw [eq_of_mem_quote hc]
    decide
  intro c hc
  simp only [Setting.text, List.mem_append, List.mem_cons] at hc
  rcases hc with hc | hc | rfl | hc | hc | hc | hc | hc
  · exact notMem_keyname _ c hc
  · exact hspace hc
  · decide
  · exact hspace hc
  · exact hquote c hc
  · exact ⟨(h.chars c hc).2.2.1, (h.chars c hc).2.2.2⟩
  · exact hquote c hc
  · exact hspace hc

theorem ConfLine.notMem_text {l : ConfLine} (h : l.Valid) : ∀ c ∈ l.text, c ≠ '\n' ∧ c ≠ '\x00' := by
  cases l with
  | module trail =>
      have hkey : ∀ c ∈ CONFIG_SESSION_KEY, c ≠ '\n' ∧ c ≠ '\x00' :=
        List.all_iff_forall_prop.mp (by decide)
      intro c hc
      rcases List.mem_append.mp hc with hc | hc
      · exact hkey c hc
      · rw [eq_of_mem_spaces hc]
        decide
  | comment text =>
      intro c hc
      rcases List.mem_cons.mp hc with rfl | hc
      · decide
      · exact h c hc
  | setting s => exact Setting.notMem_text h

theorem lines_fileText {conf : List FileLine} (h : IsConfig conf) :
    lines (fileText conf) = conf.map lineText := by
  have hflatten : fileText conf = (conf.map lineText).flatten := List.flatMap_def
  have hsplit : ∀ l ∈ conf, ∃ text, lineText l = text ++ ['\n'] ∧
      ∀ c ∈ text, c ≠ '\n' ∧ c ≠ '\x00' := by
    intro l hl
    obtain ⟨text, htext, hreturn⟩ := l.2.text_split
    refine ⟨l.1.text ++ text, by rw [lineText, htext, List.append_assoc], fun c hc ↦ ?_⟩
    rcases List.mem_append.mp hc with hc | hc
    · exact ConfLine.notMem_text (h.valid l hl) c hc
    · rw [hreturn c hc]
      decide
  have hlength : (conf.map lineText).length ≤ (fileText conf).length := by
    rw [hflatten, List.length_flatten, List.map_map]
    have hsum := List.length_le_sum_of_one_le (conf.map (List.length ∘ lineText)) fun n hn ↦ by
      obtain ⟨l, hl, rfl⟩ := List.mem_map.mp hn
      obtain ⟨text, htext, -⟩ := hsplit l hl
      rw [Function.comp_apply, htext, List.length_append]
      exact Nat.le_add_left 1 _
    simpa using hsum
  rw [lines]
  conv_lhs => rw [hflatten]
  refine readLines_flatten ?_ ?_ ?_ (by rwa [← hflatten])
  · intro line hline hzero
    obtain ⟨l, hl, rfl⟩ := List.mem_map.mp hline
    obtain ⟨text, htext, hchars⟩ := hsplit l hl
    rw [htext] at hzero
    rcases List.mem_append.mp hzero with hzero | hzero
    · exact (hchars _ hzero).2 rfl
    · revert hzero
      decide
  · intro line hline
    obtain ⟨l, hl, rfl⟩ := List.mem_map.mp hline
    obtain ⟨text, htext, hchars⟩ := hsplit l hl
    exact ⟨text, htext, fun hmem ↦ (hchars _ hmem).1 rfl⟩
  · intro line hline
    obtain ⟨l, hl, rfl⟩ := List.mem_map.mp hline
    exact h.short l hl

/-! ## What a line is read as -/

theorem skipSpaces_of_head {c : Char} (hc : c ≠ ' ') (rest : List Char) :
    skipSpaces (c :: rest) = c :: rest :=
  List.dropWhile_cons_of_neg (by simpa using hc)

theorem skipSpaces_spaces (n : Nat) (rest : List Char) :
    skipSpaces (spaces n ++ rest) = skipSpaces rest := by
  unfold skipSpaces spaces
  rw [List.dropWhile_append_of_pos]
  intro c hc
  rw [List.eq_of_mem_replicate hc]
  rfl

/-- A key starts with a letter or a bracket. -/
structure IsKey (key : List Char) (c : Char) : Prop where
  head : key.head? = some c
  not_space : c ≠ ' '
  not_comment : c ≠ '#'

theorem isKey_session : IsKey CONFIG_SESSION_KEY '[' := ⟨by decide, by decide, by decide⟩

theorem exists_isKey (node : MatchNode) : ∃ c, IsKey node.keyname c ∧ c ≠ '[' := by
  cases node
  all_goals exact ⟨_, ⟨rfl, by decide, by decide⟩, by decide⟩

theorem afterKey_of_isKey {key : List Char} {c : Char} (h : IsKey key c) (rest : List Char) :
    afterKey (key ++ rest) key = some (skipSpaces rest) := by
  obtain ⟨tail, rfl⟩ := List.head?_eq_some_iff.mp h.head
  have hskip : skipSpaces (c :: tail ++ rest) = c :: tail ++ rest := skipSpaces_of_head h.not_space _
  unfold afterKey
  rw [hskip]
  dsimp only
  rw [if_neg (by simpa using h.not_comment), if_pos (List.prefix_append _ _), List.drop_left]

theorem afterKey_of_no_match {str key : List Char} {c : Char} (hhead : str.head? = some c)
    (hc : c ≠ ' ') (h : ¬ key <+: str) : afterKey str key = none := by
  obtain ⟨tail, rfl⟩ := List.head?_eq_some_iff.mp hhead
  unfold afterKey
  rw [skipSpaces_of_head hc]
  dsimp only
  rw [if_neg h, ite_self]

theorem search_key_val_of_afterKey {str key : List Char} (h : afterKey str key = none) :
    search_key_val str key = none := by
  unfold search_key_val
  rw [h]

theorem keyname_inj {node node' : MatchNode} (h : node.keyname <+: node'.keyname) : node = node' := by
  revert h
  cases node <;> cases node' <;> decide

theorem not_prefix_of_ne {node node' : MatchNode} (h : node' ≠ node) (rest : List Char) :
    ¬ node'.keyname <+: node.keyname ++ rest := by
  intro hprefix
  rcases List.prefix_or_prefix_of_prefix hprefix (List.prefix_append _ _) with hpre | hpre
  · exact h (keyname_inj hpre)
  · exact h (keyname_inj hpre).symm

theorem mem_matchtab (node : MatchNode) : node ∈ matchtab := by
  cases node <;> decide

theorem findSome?_matchtab {β : Type} {f : MatchNode → Option β} (node : MatchNode)
    (h : ∀ node', node' ≠ node → f node' = none) : matchtab.findSome? f = f node := by
  have hmem := mem_matchtab node
  cases hf : f node with
  | none =>
      rw [List.findSome?_eq_none_iff]
      intro node' _
      by_cases heq : node' = node
      · rw [heq, hf]
      · exact h node' heq
  | some x =>
      have hsome : (matchtab.findSome? f).isSome := by
        rw [List.isSome_findSome?, List.any_eq_true]
        exact ⟨node, hmem, by rw [hf]; rfl⟩
      obtain ⟨y, hy⟩ := Option.isSome_iff_exists.mp hsome
      obtain ⟨node', -, hnode'⟩ := List.exists_of_findSome?_eq_some hy
      by_cases heq : node' = node
      · rw [hy, ← hf, ← heq, hnode']
      · rw [h node' heq] at hnode'
        cases hnode'

theorem skipSpaces_ending (e : Ending) : skipSpaces e.text = e.text := by
  cases e <;> rfl

theorem parseLine_module (trail : Nat) (e : Ending) :
    parseLine (lineText (.module trail, e)) = .session := by
  have hafter : afterKey (lineText (.module trail, e)) CONFIG_SESSION_KEY = some e.text := by
    change afterKey (CONFIG_SESSION_KEY ++ spaces trail ++ e.text) _ = _
    rw [List.append_assoc, afterKey_of_isKey isKey_session, skipSpaces_spaces, skipSpaces_ending]
  have hfound : search_key (lineText (.module trail, e)) CONFIG_SESSION_KEY = true := by
    rw [search_key, hafter]
    cases e <;> rfl
  rw [parseLine, if_pos hfound]

theorem parseLine_comment (text : List Char) (e : Ending) :
    parseLine (lineText (.comment text, e)) = .other := by
  have hafter : ∀ key, afterKey (lineText (.comment text, e)) key = none := by
    intro key
    change afterKey ('#' :: text ++ e.text) key = none
    rw [List.cons_append, afterKey, skipSpaces_of_head (by decide)]
    rfl
  have hfound : search_key (lineText (.comment text, e)) CONFIG_SESSION_KEY = false := by
    rw [search_key, hafter]
  have hnone : matchtab.findSome? (fun node ↦
      (search_key_val (lineText (.comment text, e)) node.keyname).map (node, ·)) = none := by
    rw [List.findSome?_eq_none_iff]
    intro node _
    rw [search_key_val_of_afterKey (hafter _)]
    rfl
  rw [parseLine, hfound, hnone]
  rfl

def Setting.rest (s : Setting) (e : Ending) : List Char :=
  spaces s.after ++ (s.quote ++ (s.value ++ (s.quote ++ (spaces s.trail ++ e.text))))

theorem afterKey_setting (s : Setting) (e : Ending) :
    afterKey (lineText (.setting s, e)) s.node.keyname = some ('=' :: s.rest e) := by
  obtain ⟨c, hkey, -⟩ := exists_isKey s.node
  have htext : lineText (.setting s, e) =
      s.node.keyname ++ (spaces s.before ++ '=' :: s.rest e) := by
    simp [lineText, ConfLine.text, Setting.text, Setting.rest]
  rw [htext, afterKey_of_isKey hkey, skipSpaces_spaces, skipSpaces_of_head (by decide)]

/-- The text of the value ends with the line. -/
theorem valueText_rest {s : Setting} (h : s.Valid) (e : Ending) :
    valueText (s.rest e) = s.untilEnd ++ e.text := by
  unfold valueText Setting.rest Setting.untilEnd Setting.quote
  rw [skipSpaces_spaces]
  cases hquoted : s.quoted with
  | true =>
      simp [skipSpaces_of_head]
  | false =>
      cases hvalue : s.value with
      | nil =>
          have hend : e.text.head? ≠ some '"' := by
            cases e <;> decide
          simp [skipSpaces_spaces, skipSpaces_ending, hend]
      | cons c value =>
          have hspace : c ≠ ' ' := by
            have hhead := (h.ends hquoted).1
            rw [hvalue] at hhead
            simpa using hhead
          have hquote : c ≠ '"' := (h.chars c (by rw [hvalue]; exact List.mem_cons_self)).1
          simp [skipSpaces_of_head hspace, hquote]

theorem Setting.notEnding {s : Setting} (h : s.Valid) : ∀ c ∈ s.untilEnd, isEnding c = false := by
  intro c hc
  unfold Setting.untilEnd at hc
  split at hc
  · cases hc
  · rcases List.mem_append.mp hc with hc | hc
    · obtain ⟨-, hreturn, hline, -⟩ := h.chars c hc
      simp [isEnding, hreturn, hline]
    · rcases List.mem_append.mp hc with hc | hc
      · rw [eq_of_mem_quote hc]
        rfl
      · rw [eq_of_mem_spaces hc]
        rfl

theorem trimmed_untilEnd {s : Setting} (h : s.Valid) (e : Ending) :
    trimmed (s.untilEnd ++ e.text) = s.untilEnd := by
  obtain ⟨text, htext, hreturn⟩ := e.text_split
  have hlast : (s.untilEnd ++ e.text).getLast? = some '\n' := by
    rw [htext, ← List.append_assoc, List.getLast?_concat]
  have hend : e.text.rdropWhile isEnding = [] := by
    cases e <;> rfl
  have hself : s.untilEnd.rdropWhile isEnding = s.untilEnd := by
    rw [List.rdropWhile_eq_self_iff]
    intro hne
    simp [s.notEnding h _ (List.getLast_mem hne)]
  unfold trimmed
  rw [rdropWhile_of_getLast? hlast (by decide)]
  dsimp only
  rw [hlast, if_neg (by decide), rdropWhile_append, if_pos hend, hself]

theorem search_key_val_setting {s : Setting} (h : s.Valid) (e : Ending) :
    search_key_val (lineText (.setting s, e)) s.node.keyname =
      some (if s.untilEnd.length < CONF_SIZE then some s.untilEnd else none) := by
  have hcross : ¬ Crosses (s.rest e) := by
    rintro ⟨-, hall⟩
    obtain ⟨text, htext, -⟩ := e.text_split
    have hmem : '\n' ∈ valueText (s.rest e) := by
      rw [valueText_rest h, htext]
      simp
    exact absurd (hall _ hmem) (by decide)
  rw [search_key_val_eq (afterKey_setting s e), valueText_rest h, trimmed_untilEnd h]
  by_cases hlt : s.untilEnd.length < CONF_SIZE
  · rw [if_pos hlt, if_neg (not_or.mpr ⟨hcross, Nat.not_le.mpr hlt⟩)]
  · rw [if_neg hlt, if_pos (Or.inr (Nat.not_lt.mp hlt))]

/-- A setting is read as the text up to the end of its line. -/
theorem parseLine_setting {s : Setting} (h : s.Valid) (e : Ending) :
    parseLine (lineText (.setting s, e)) =
      .setting s.node (if s.untilEnd.length < CONF_SIZE then some s.untilEnd else none) := by
  obtain ⟨c, hkey, hc⟩ := exists_isKey s.node
  obtain ⟨tail, htail⟩ := List.head?_eq_some_iff.mp hkey.head
  obtain ⟨rest, hrest⟩ : ∃ rest, lineText (.setting s, e) = s.node.keyname ++ rest :=
    ⟨_, by rw [lineText, ConfLine.text, Setting.text, List.append_assoc]⟩
  have hhead : (lineText (.setting s, e)).head? = some c := by
    rw [hrest, htail]
    rfl
  have hfound : search_key (lineText (.setting s, e)) CONFIG_SESSION_KEY = false := by
    rw [search_key, afterKey_of_no_match hhead hkey.not_space]
    rintro ⟨t, ht⟩
    have hfirst := congrArg List.head? ht
    rw [hhead] at hfirst
    exact hc (Option.some.inj hfirst).symm
  have hvalue : matchtab.findSome? (fun node ↦
      (search_key_val (lineText (.setting s, e)) node.keyname).map (node, ·)) =
        some (s.node, if s.untilEnd.length < CONF_SIZE then some s.untilEnd else none) := by
    rw [findSome?_matchtab s.node fun node' hne ↦ ?_, search_key_val_setting h]
    · rfl
    · have hnot : ¬ node'.keyname <+: lineText (.setting s, e) := by
        rw [hrest]
        exact not_prefix_of_ne hne rest
      rw [search_key_val_of_afterKey (afterKey_of_no_match hhead hkey.not_space hnot)]
      rfl
  rw [parseLine, hfound, hvalue]
  rfl

/-! ## What is read from the file -/

def lineOf (l : FileLine) : Line :=
  match l.1 with
  | .module _ => .session
  | .comment _ => .other
  | .setting s => .setting s.node (if s.untilEnd.length < CONF_SIZE then some s.untilEnd else none)

theorem parseLine_lineText {l : FileLine} (h : l.1.Valid) : parseLine (lineText l) = lineOf l := by
  obtain ⟨line, e⟩ := l
  cases line with
  | module trail => exact parseLine_module trail e
  | comment text => exact parseLine_comment text e
  | setting s => exact parseLine_setting h e

theorem fileLines_fileText {conf : List FileLine} (h : IsConfig conf) :
    fileLines (some (fileText conf)) = conf.map lineOf := by
  rw [fileLines, lines_fileText h, List.map_map]
  exact List.map_congr_left fun l hl ↦ parseLine_lineText (h.valid l hl)

theorem readable_iff (started : Bool) (conf : List FileLine) :
    readable started (conf.map lineOf) = true ↔
      (started = true ∨ StartsWithModule conf) ∧ AllFit conf := by
  induction conf generalizing started with
  | nil => simp [readable, StartsWithModule, AllFit]
  | cons l conf ih =>
      obtain ⟨line, e⟩ := l
      rw [List.map_cons, readable, Bool.and_eq_true, ih]
      cases line with
      | module trail => simp [lineOf, lineReadable, StartsWithModule, AllFit, ConfLine.Fits]
      | comment text => simp [lineOf, lineReadable, StartsWithModule, AllFit, ConfLine.Fits]
      | setting s =>
          by_cases hfit : s.untilEnd.length < CONF_SIZE
          · cases started <;> simp [lineOf, lineReadable, StartsWithModule, AllFit, ConfLine.Fits, hfit]
          · cases started <;> simp [lineOf, lineReadable, StartsWithModule, AllFit, ConfLine.Fits, hfit]

theorem entryOf_concat (value : Setting → List Char) (settings : List Setting) (s : Setting) :
    entryOf value (settings ++ [s]) = s.node.set (value s) (entryOf value settings) :=
  List.foldl_concat _ _ _ _

/-- A line of the file changes the entries as it changes the sections. -/
theorem readEntry_lineOf {l : FileLine} (hfit : AllFit [l]) (secs : List (List Setting)) :
    readEntry (secs.map (entryOf Setting.untilEnd)) (lineOf l) =
      (addLine secs l.1).map (entryOf Setting.untilEnd) := by
  obtain ⟨line, e⟩ := l
  cases line with
  | module trail => rw [lineOf, readEntry, addLine, List.map_append]; rfl
  | comment text => rfl
  | setting s =>
      have hlt : s.untilEnd.length < CONF_SIZE := hfit _ List.mem_cons_self
      rw [lineOf]
      dsimp only
      rw [if_pos hlt, readEntry, addLine, List.map_append, List.map_dropLast, List.getLast?_map]
      cases secs.getLast? with
      | none => rfl
      | some settings =>
          dsimp only [Option.map_some, Option.toList_some]
          rw [List.map_singleton, entryOf_concat]

theorem fileEntries_fileText {conf : List FileLine} (h : IsConfig conf) (hfit : AllFit conf) :
    fileEntries (some (fileText conf)) = (sections conf).map (entryOf Setting.untilEnd) := by
  have hfold : ∀ secs, (conf.map lineOf).foldl readEntry (secs.map (entryOf Setting.untilEnd)) =
      ((conf.map Prod.fst).foldl addLine secs).map (entryOf Setting.untilEnd) := by
    clear h
    induction conf with
    | nil => exact fun _ ↦ rfl
    | cons l conf ih =>
        intro secs
        have hfirst : AllFit [l] := fun l' hl' ↦ by
          rw [List.mem_singleton.mp hl']
          exact hfit l List.mem_cons_self
        rw [List.map_cons, List.map_cons, List.foldl_cons, List.foldl_cons, readEntry_lineOf hfirst,
          ih fun l' hl' ↦ hfit l' (List.mem_cons_of_mem _ hl')]
  rw [fileEntries, fileLines_fileText h]
  exact hfold []

/-! ## The values of an entry -/

def MatchNode.textOf : MatchNode → WifiHardwareInfo → Option (List Char)
  | .moduleName, info => info.module_name
  | .driverName, info => info.driver_name
  | .driverModuleName, info => info.driver_module_name
  | .vendorName, info => info.vendor_name
  | _, _ => none

/-- The fields that hold numbers. -/
structure SameNumbers (a b : WifiHardwareInfo) : Prop where
  bus_type : a.bus_type = b.bus_type
  device_id : a.device_id = b.device_id
  bt_support : a.bt_support = b.bt_support

theorem eq_iff_fields (a b : WifiHardwareInfo) :
    a = b ↔ SameNumbers a b ∧ ∀ node : MatchNode, node.textOf a = node.textOf b := by
  constructor
  · rintro rfl
    exact ⟨⟨rfl, rfl, rfl⟩, fun _ ↦ rfl⟩
  · rintro ⟨hnumbers, htexts⟩
    obtain ⟨hbus, hid, hbt⟩ := hnumbers
    have hmodule := htexts .moduleName
    have hdriver := htexts .driverName
    have hdriverModule := htexts .driverModuleName
    have hvendor := htexts .vendorName
    cases a
    cases b
    simp only [MatchNode.textOf] at *
    subst_vars
    rfl

/-- Stated for rewriting: comparing the sides by evaluation would compute with `2 ^ 64`. -/
theorem set_btSupport (conf : List Char) (info : WifiHardwareInfo) :
    MatchNode.btSupport.set conf info = { info with bt_support := wrapInt (strtoul0 conf) } := by
  rw [MatchNode.set]

theorem textOf_btSupport (node : MatchNode) (info : WifiHardwareInfo) (n : Int) :
    node.textOf { info with bt_support := n } = node.textOf info := by
  cases node <;> rfl

theorem textOf_set {node : MatchNode} (hnode : node.isText = true) (other : MatchNode)
    (conf : List Char) (info : WifiHardwareInfo) :
    node.textOf (other.set conf info) = if other = node then some conf else node.textOf info := by
  by_cases hother : other = .btSupport
  · subst hother
    have hne : MatchNode.btSupport ≠ node := by
      rintro rfl
      cases hnode
    rw [set_btSupport, if_neg hne, textOf_btSupport]
  · cases node <;> cases hnode <;> cases other <;> first | exact absurd rfl hother | rfl

theorem lastFor_concat (node : MatchNode) (settings : List Setting) (s : Setting) :
    lastFor node (settings ++ [s]) = if s.node = node then some s else lastFor node settings := by
  unfold lastFor
  rw [List.filter_append, List.filter_singleton]
  by_cases h : s.node = node <;> simp [h]

/-- A text field has the value of the last setting for it. -/
theorem textOf_entryOf {node : MatchNode} (hnode : node.isText = true) (value : Setting → List Char)
    (settings : List Setting) :
    node.textOf (entryOf value settings) = (lastFor node settings).map value := by
  induction settings using List.reverseRecOn with
  | nil => cases node <;> rfl
  | append_singleton settings s ih =>
      rw [entryOf_concat, textOf_set hnode, lastFor_concat, ih]
      split <;> rfl

/-- What stands behind a number does not matter. -/
theorem strtoul0_untilEnd (s : Setting) : strtoul0 s.untilEnd = strtoul0 s.value := by
  unfold Setting.untilEnd
  split
  · rename_i hempty
    rw [hempty.1]
  · unfold Setting.quote
    split
    · exact strtoul0_append_stop ⟨by decide, by decide, by decide⟩ (by decide) s.value _
    · exact strtoul0_append_spaces s.value s.trail

theorem SameNumbers.set {a b : WifiHardwareInfo} (h : SameNumbers a b) {conf conf' : List Char}
    (hconf : strtoul0 conf = strtoul0 conf') (node : MatchNode) :
    SameNumbers (node.set conf a) (node.set conf' b) := by
  obtain ⟨hbus, hid, hbt⟩ := h
  cases node with
  | busType => exact ⟨hconf, hid, hbt⟩
  | deviceId => exact ⟨hbus, hconf, hbt⟩
  | btSupport =>
      rw [set_btSupport, set_btSupport]
      exact ⟨hbus, hid, by rw [hconf]⟩
  | moduleName | driverName | driverModuleName | vendorName => exact ⟨hbus, hid, hbt⟩

theorem sameNumbers_entryOf (settings : List Setting) :
    SameNumbers (entryOf Setting.untilEnd settings) (entryOf Setting.value settings) := by
  induction settings using List.reverseRecOn with
  | nil => exact ⟨rfl, rfl, rfl⟩
  | append_singleton settings s ih =>
      rw [entryOf_concat, entryOf_concat]
      exact ih.set (strtoul0_untilEnd s) s.node

theorem untilEnd_eq_value_iff (s : Setting) : s.untilEnd = s.value ↔ s.Bare := by
  unfold Setting.untilEnd Setting.Bare Setting.quote spaces
  cases hquoted : s.quoted with
  | true => simp
  | false =>
      by_cases hvalue : s.value = []
      · simp [hvalue]
      · simp [hvalue]

/-- The entry has the given values iff the last setting of each text is a bare one. -/
theorem entryOf_eq_iff (settings : List Setting) :
    entryOf Setting.untilEnd settings = entryOf Setting.value settings ↔
      ∀ node ∈ matchtab, node.isText = true → ∀ s ∈ lastFor node settings, s.Bare := by
  rw [eq_iff_fields]
  constructor
  · rintro ⟨-, htexts⟩ node - hnode s hs
    have htext := htexts node
    rw [textOf_entryOf hnode, textOf_entryOf hnode, Option.mem_def.mp hs] at htext
    exact (untilEnd_eq_value_iff s).mp (Option.some.inj htext)
  · intro hbare
    refine ⟨sameNumbers_entryOf settings, fun node ↦ ?_⟩
    by_cases hnode : node.isText = true
    · rw [textOf_entryOf hnode, textOf_entryOf hnode]
      cases hs : lastFor node settings with
      | none => rfl
      | some s =>
          have hlast := hbare node (mem_matchtab node) hnode s hs
          rw [Option.map_some, Option.map_some, (untilEnd_eq_value_iff s).mpr hlast]
    · cases node <;> first | rfl | exact absurd rfl hnode

/-! ## The file -/

/-- A file is read into the values given in it iff no setting stands in front of the first `[module]`,
every text fits, and the last setting of each text in a section has neither quotation marks nor spaces
at the end. -/
theorem loadsValues_iff {conf : List FileLine} (h : IsConfig conf) :
    LoadsValues conf ↔ ReadsValues conf := by
  have hreadable : readable false (fileLines (some (fileText conf))) = true ↔
      StartsWithModule conf ∧ AllFit conf := by
    rw [fileLines_fileText h, readable_iff]
    simp
  constructor
  · intro hloads
    obtain ⟨heap', head, l, hload, hlist, hitems⟩ := hloads Heap.empty
    have hread : readable false (fileLines (some (fileText conf))) = true := by
      by_contra hnot
      rw [load_config_from_file_eq_none Heap.empty (Bool.eq_false_iff.mpr hnot)] at hload
      cases hload
    obtain ⟨hstart, hfit⟩ := hreadable.mp hread
    obtain ⟨heap₁, head₁, cur, l₁, hload₁, hloading, hitems₁⟩ :=
      load_config_from_file_of_readable Heap.empty hread
    cases hload.symm.trans hload₁
    rw [← hlist.seg.unique hloading.list.seg, hitems, fileEntries_fileText h hfit] at hitems₁
    refine ⟨hstart, hfit, fun settings hmem ↦ ?_⟩
    exact (entryOf_eq_iff settings).mp (List.map_inj_left.mp hitems₁ settings hmem).symm
  · intro hreads heap
    obtain ⟨heap', head, cur, l, hload, hloading, hitems⟩ :=
      load_config_from_file_of_readable heap (hreadable.mpr ⟨hreads.started, hreads.fits⟩)
    refine ⟨heap', head, l, hload, hloading.list, ?_⟩
    rw [hitems, fileEntries_fileText h hreads.fits]
    exact List.map_congr_left fun settings hmem ↦
      (entryOf_eq_iff settings).mpr (hreads.bare settings hmem)

/-- Files of modules, comments and settings, and lines of any file. -/
theorem config_parsing_iff (conf : List FileLine) :
    (IsConfig conf → (LoadsValues conf ↔ ReadsValues conf)) ∧
      ∀ text, (∀ line ∈ lines text, ∀ node : MatchNode, Safe line node.keyname) ↔
        ∀ line ∈ lines text, ∀ node : MatchNode, ValueFits line node.keyname := by
  refine ⟨loadsValues_iff, fun text ↦ ?_⟩
  simp only [safe_iff]

def setting (node : MatchNode) (value : String) : Setting where
  node
  value := value.toList
  quoted := false
  before := 1
  after := 1
  trail := 0

def dummyConf : List FileLine :=
  [(.comment " example".toList, .lf), (.module 0, .lf), (.setting (setting .busType "0x1"), .lf),
    (.setting (setting .deviceId "0x000018F0"), .lf), (.setting (setting .moduleName "dummy"), .lf),
    (.setting (setting .vendorName "allwinnertech"), .crlf)]

theorem config_parsing_dummy : LoadsValues dummyConf :=
  ((config_parsing_iff dummyConf).1 ⟨by decide +kernel, by decide +kernel⟩).mpr
    ⟨trivial, by decide +kernel, by decide +kernel⟩

def quotedConf : List FileLine :=
  [(.module 0, .lf), (.setting { setting .moduleName "dummy" with quoted := true }, .lf)]

/-- The closing quotation mark stays in the name, because the line end is trimmed after it; and of a
last line without a value the end is in front of the start. -/
theorem quoted_value_keeps_quote :
    IsConfig quotedConf ∧
      fileText quotedConf = "[module]\nmodule_name = \"dummy\"\n".toList ∧
      fileEntries (some (fileText quotedConf)) =
        [{ WifiHardwareInfo.zero with module_name := some "dummy\"".toList }] ∧
      ¬ LoadsValues quotedConf ∧
      search_key_val "bus_type = ".toList MatchNode.busType.keyname = some none := by
  have hconf : IsConfig quotedConf := ⟨by decide +kernel, by decide +kernel⟩
  refine ⟨hconf, by decide +kernel, by decide +kernel, fun hloads ↦ ?_, by decide +kernel⟩
  have hbare := ((loadsValues_iff hconf).mp hloads).bare
  revert hbare
  decide +kernel

end AwHal.Wireless
