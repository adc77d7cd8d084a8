import Mathlib.Data.List.TakeWhile
import AwHal.Wireless.StrReplace

/-!
# The arguments of a driver

`str_expand` puts the values of environment variables for the `${name}` of a text, one name after the
other, in the text that came out of the replacement before.  `get_driver_module_arg` makes the
arguments of a driver with it.
-/

namespace AwHal.Wireless

open AwHal.Lib

/-! ## Matches of the pattern -/

/-- The name of the `${name}` that the text starts with.  `[^}]+` goes up to the first `}`. -/
def nameAt : List Char → Option (List Char)
  | '$' :: '{' :: rest =>
      let name := rest.takeWhile (· ≠ '}')
      if name ≠ [] ∧ name.length < rest.length then some name else none
  | _ => none

/-- `rm_so` and `rm_eo` of the leftmost match. -/
def regexec : List Char → Option (Nat × Nat)
  | [] => none
  | c :: text =>
      match nameAt (c :: text) with
      | some name => some (0, name.length + 3)
      | none => (regexec text).map fun m => (m.1 + 1, m.2 + 1)

/-! ## The two functions -/

def CString : Type := { text : List Char // NUL ∉ text }

abbrev Environment : Type := List Char → Option CString

/-- The string in a block; a cell nothing was written to cannot be read. -/
def stringOf : Block → Except StrFault (List Char)
  | [] => throw .outside
  | none :: _ => throw .outside
  | some c :: block => if c = NUL then return [] else return c :: (← stringOf block)

def copy32 (text : List Char) : Except StrFault (List Char) :=
  if text.length < 32 then .ok text else .error .outside

def memcpyText (expand text : List Char) : Except StrFault (List Char) :=
  if text.length ≤ expand.length then .ok (text ++ expand.drop text.length) else .error .outside

structure Expanding where
  orig : List Char
  expand : List Char
  count : Nat
deriving DecidableEq, Repr

variable (malloc : Nat → Bool) (env : Environment)

def expandPass (s : Expanding) : Except StrFault (Next Expanding Expanding) := do
  match regexec s.orig with
  | none => return .done s
  | some (rm_so, rm_eo) =>
      let matchstr ← copy32 ((s.orig.drop rm_so).take (rm_eo - rm_so))
      let env_name ← copy32 ((s.orig.drop (rm_so + 2)).take (rm_eo - rm_so - 3))
      let env_val := (env env_name).map Subtype.val
      match ← str_replace malloc (some s.orig) (some matchstr) env_val with
      | some out =>
          let text ← stringOf out
          return .again ⟨text, ← memcpyText s.expand (strcpyText text), s.count + 1⟩
      | none => return .again { s with count := s.count + 1 }

/-- `expand` afterwards; `none` when the passes are not enough. -/
def str_expand (fuel : Nat) (text : CString) (expand : List Char) :
    Except StrFault (Option (List Char)) := do
  match ← loop (expandPass malloc env) fuel ⟨text.val, expand, 0⟩ with
  | none => return none
  | some s =>
      if s.count = 0 then some <$> memcpyText expand text.val else return some s.expand

/-! ## What the expansion is for -/

inductive Piece where
  | char (c : Char)
  | var (name : List Char)
deriving DecidableEq, Repr

/-- `skip` characters of a `${name}` are still to be left out. -/
def piecesFrom : Nat → List Char → List Piece
  | _, [] => []
  | skip + 1, _ :: text => piecesFrom skip text
  | 0, c :: text =>
      match nameAt (c :: text) with
      | some name => .var name :: piecesFrom (name.length + 2) text
      | none => .char c :: piecesFrom 0 text

def pieces (text : List Char) : List Piece := piecesFrom 0 text

def token (name : List Char) : List Char := '$' :: '{' :: name ++ ['}']

def value (name : List Char) : List Char := ((env name).map Subtype.val).getD []

def Piece.expanded : Piece → List Char
  | .char c => [c]
  | .var name => value env name

def expanded (text : List Char) : List Char := (pieces text).flatMap (Piece.expanded env)

/-- The run ends, and `expand` starts with the expanded text and its NUL. -/
def Expands (text : CString) (expand : List Char) : Prop :=
  ∃ fuel expand', str_expand malloc env fuel text expand = .ok (some expand') ∧
    strcpyText (expanded env text.val) <+: expand'

/-! ## Matches and pieces -/

def IsName (name : List Char) : Prop := name ≠ [] ∧ '}' ∉ name

theorem takeWhile_append_stop {c : Char} {front : List Char} (h : c ∉ front) (rest : List Char) :
    (front ++ c :: rest).takeWhile (· ≠ c) = front := by
  rw [List.takeWhile_append_of_pos]
  · simp
  · intro d hd
    simp only [decide_eq_true_eq]
    rintro rfl
    exact h hd

theorem nameAt_token {name : List Char} (h : IsName name) (rest : List Char) :
    nameAt (token name ++ rest) = some name := by
  have htext : token name ++ rest = '$' :: '{' :: (name ++ '}' :: rest) := by simp [token]
  rw [htext, nameAt, takeWhile_append_stop h.2, if_pos ⟨h.1, by simp⟩]

theorem eq_token_of_nameAt {text name : List Char} (h : nameAt text = some name) :
    IsName name ∧ ∃ rest, text = token name ++ rest := by
  unfold nameAt at h
  split at h
  · rename_i rest
    dsimp only at h
    split at h
    · rename_i hname
      cases h
      have hnot : '}' ∉ rest.takeWhile (· ≠ '}') := by
        intro hc
        simpa using List.mem_takeWhile_imp hc
      refine ⟨⟨hname.1, hnot⟩, ?_⟩
      have hsplit := List.takeWhile_append_dropWhile (p := (· ≠ '}')) (l := rest)
      obtain ⟨c, after, hafter⟩ : ∃ c after, rest.dropWhile (· ≠ '}') = c :: after := by
        apply List.exists_cons_of_ne_nil
        intro hnil
        have hlength := congrArg List.length hsplit
        rw [hnil, List.append_nil] at hlength
        omega
      have hc : c = '}' := by
        have hhead := List.head?_dropWhile_not (fun x => decide (x ≠ '}')) rest
        rw [hafter] at hhead
        simpa using hhead
      rw [hafter, hc] at hsplit
      refine ⟨after, (congrArg (fun t => '$' :: '{' :: t) hsplit.symm).trans ?_⟩
      simp [token]
    · cases h
  · cases h

theorem nameAt_of_ne {c : Char} (h : c ≠ '$') (text : List Char) : nameAt (c :: text) = none := by
  unfold nameAt
  split
  · rename_i heq
    injection heq with hc
    exact absurd hc h
  · rfl

theorem piecesFrom_eq_drop (skip : Nat) (text : List Char) :
    piecesFrom skip text = pieces (text.drop skip) := by
  induction text generalizing skip with
  | nil => simp [pieces, piecesFrom]
  | cons c text ih =>
      cases skip with
      | zero => rfl
      | succ skip => exact ih skip

theorem pieces_token {name : List Char} (h : IsName name) (rest : List Char) :
    pieces (token name ++ rest) = .var name :: pieces rest := by
  have hname := nameAt_token h rest
  have htext : token name ++ rest = '$' :: ('{' :: name ++ ('}' :: rest)) := by simp [token]
  have hdrop : ('{' :: name ++ ('}' :: rest)).drop (name.length + 2) = rest := by
    rw [List.cons_append, List.drop_succ_cons, List.drop_append]
    simp
  rw [htext] at hname ⊢
  rw [pieces, piecesFrom, hname]
  dsimp only
  rw [piecesFrom_eq_drop, hdrop]

theorem pieces_char {c : Char} {text : List Char} (h : nameAt (c :: text) = none) :
    pieces (c :: text) = .char c :: pieces text := by
  rw [pieces, piecesFrom, h]
  rfl

/-- A text is read character by character and `${name}` by `${name}`. -/
theorem pieces_induction {motive : List Char → Prop} (hnil : motive [])
    (hchar : ∀ c text, nameAt (c :: text) = none → motive text → motive (c :: text))
    (htoken : ∀ name rest, IsName name → motive rest → motive (token name ++ rest))
    (text : List Char) : motive text := by
  induction hn : text.length using Nat.strong_induction_on generalizing text with
  | _ n ih =>
      cases text with
      | nil => exact hnil
      | cons c text =>
          cases h : nameAt (c :: text) with
          | none => exact hchar c text h (ih text.length (by simp at hn; omega) text rfl)
          | some name =>
              obtain ⟨hname, rest, htext⟩ := eq_token_of_nameAt h
              have hlength := congrArg List.length htext
              rw [htext]
              exact htoken name rest hname (ih rest.length (by simp [token] at hlength hn; omega)
                rest rfl)

def names (text : List Char) : List (List Char) :=
  (pieces text).filterMap fun
    | .char _ => none
    | .var name => some name

theorem names_char {c : Char} {text : List Char} (h : nameAt (c :: text) = none) :
    names (c :: text) = names text := by
  rw [names, pieces_char h]
  rfl

theorem names_token {name : List Char} (h : IsName name) (rest : List Char) :
    names (token name ++ rest) = name :: names rest := by
  rw [names, pieces_token h]
  rfl

def nextName (text : List Char) (done : List (List Char)) : Option (List Char) :=
  ((names text).filter (· ∉ done)).head?

def Piece.stage (done : List (List Char)) : Piece → List Char
  | .char c => [c]
  | .var name => if name ∈ done then value env name else token name

def stage (done : List (List Char)) (text : List Char) : List Char :=
  (pieces text).flatMap (Piece.stage env done)

/-- The names are dealt with one after the other. -/
inductive Dealt (text : List Char) : List (List Char) → Prop
  | nil : Dealt text []
  | next {done : List (List Char)} {name : List Char} (h : Dealt text done)
      (hname : nextName text done = some name) : Dealt text (done ++ [name])

/-- What the text, the environment, the buffers and the heap have to be.  In each text that a pass
starts from, the leftmost `${name}` is the first one of the input that is left, and its characters
occur nowhere else. -/
structure Expandable (text expand : List Char) : Prop where
  leftmost : ∀ done, Dealt text done → (names (stage env done text)).head? = nextName text done
  nowhereElse : ∀ done name, Dealt text done → nextName text done = some name →
    replaceAll (token name) (value env name) (stage env done text) = stage env (done ++ [name]) text
  short : ∀ name ∈ names text, (token name).length < 32
  room : ∀ done name, Dealt text done → nextName text done = some name →
    (stage env (done ++ [name]) text).length < expand.length
  sized : ∀ done name, Dealt text done → nextName text done = some name →
    Sized (stage env done text) ∧ Sized (value env name) ∧
      FitsInt (((value env name).length - (token name).length) *
        occurrences (token name) (stage env done text))
  allocated : ∀ done name, Dealt text done → nextName text done = some name →
    malloc ((stage env (done ++ [name]) text).length + 1)
  /-- The path without a match writes no NUL. -/
  ended : names text = [] → expand[text.length]? = some NUL

theorem regexec_eq (text : List Char) :
    match (names text).head? with
    | none => regexec text = none
    | some name => IsName name ∧ ∃ front rest, text = front ++ (token name ++ rest) ∧
        regexec text = some (front.length, front.length + (token name).length) := by
  induction text using pieces_induction with
  | hnil => rfl
  | hchar c text h ih =>
      rw [names_char h]
      cases hhead : (names text).head? with
      | none =>
          rw [hhead] at ih
          dsimp only at ih ⊢
          rw [regexec, h, ih]
          rfl
      | some name =>
          rw [hhead] at ih
          obtain ⟨hname, front, rest, htext, hmatch⟩ := ih
          refine ⟨hname, c :: front, rest, by rw [htext, List.cons_append], ?_⟩
          rw [regexec, h, hmatch, List.length_cons]
          simp only [Option.map_some, Nat.add_right_comm]
  | htoken name rest h ih =>
      rw [names_token h]
      refine ⟨h, [], rest, rfl, ?_⟩
      have hname := nameAt_token h rest
      have htext : token name ++ rest = '$' :: ('{' :: name ++ ['}'] ++ rest) := rfl
      rw [htext] at hname ⊢
      rw [regexec, hname]
      simp [token]

/-! ## Stages -/

theorem mem_done_of_nextName_none {text : List Char} {done : List (List Char)}
    (h : nextName text done = none) {name : List Char} (hname : name ∈ names text) : name ∈ done := by
  rw [nextName, List.head?_eq_none_iff, List.filter_eq_nil_iff] at h
  simpa using h name hname

theorem nextName_eq_some {text : List Char} {done : List (List Char)} {name : List Char}
    (h : nextName text done = some name) : name ∈ names text ∧ name ∉ done := by
  have hmem := List.mem_of_mem_head? h
  simpa using List.mem_filter.mp hmem

theorem stage_char {c : Char} {text : List Char} (h : nameAt (c :: text) = none)
    (done : List (List Char)) : stage env done (c :: text) = c :: stage env done text := by
  rw [stage, pieces_char h]
  rfl

theorem stage_token {name : List Char} (h : IsName name) (done : List (List Char))
    (rest : List Char) :
    stage env done (token name ++ rest) =
      (if name ∈ done then value env name else token name) ++ stage env done rest := by
  rw [stage, pieces_token h]
  rfl

theorem stage_nil (text : List Char) : stage env [] text = text := by
  induction text using pieces_induction with
  | hnil => rfl
  | hchar c text h ih => rw [stage_char env h, ih]
  | htoken name rest h ih => rw [stage_token env h, ih, if_neg (List.not_mem_nil)]

theorem stage_of_all {text : List Char} {done : List (List Char)}
    (h : ∀ name ∈ names text, name ∈ done) : stage env done text = expanded env text := by
  apply List.flatMap_congr
  intro piece hpiece
  cases piece with
  | char c => rfl
  | var name =>
      have hname : name ∈ names text := List.mem_filterMap.mpr ⟨_, hpiece, rfl⟩
      exact if_pos (h name hname)

theorem nul_notMem_value (name : List Char) : NUL ∉ value env name := by
  unfold value
  cases env name with
  | none => exact List.not_mem_nil
  | some text => exact text.property

theorem nul_notMem_stage {text : List Char} (h : NUL ∉ text) (done : List (List Char)) :
    NUL ∉ stage env done text := by
  induction text using pieces_induction with
  | hnil => exact h
  | hchar c text hc ih =>
      rw [stage_char env hc, List.mem_cons]
      rw [List.mem_cons] at h
      rintro (hc | htext)
      · exact h (Or.inl hc)
      · exact ih (fun hmem => h (Or.inr hmem)) htext
  | htoken name rest hname ih =>
      rw [stage_token env hname, List.mem_append]
      rw [List.mem_append] at h
      rintro (hfirst | hrest)
      · split at hfirst
        · exact nul_notMem_value env name hfirst
        · exact h (Or.inl hfirst)
      · exact ih (fun hmem => h (Or.inr hmem)) hrest

theorem isName_of_mem {text name : List Char} (h : name ∈ names text) : IsName name := by
  induction text using pieces_induction with
  | hnil => cases h
  | hchar c text hc ih =>
      rw [names_char hc] at h
      exact ih h
  | htoken first rest hname ih =>
      rw [names_token hname, List.mem_cons] at h
      rcases h with rfl | h
      · exact hname
      · exact ih h

/-! ## A pass -/

theorem stringOf_strcpyText {text : List Char} (h : NUL ∉ text) :
    stringOf ((strcpyText text).map some) = .ok text := by
  induction text with
  | nil => rfl
  | cons c text ih =>
      rw [List.mem_cons, not_or] at h
      have hc : ¬ c = NUL := fun hc => h.1 hc.symm
      have htext : stringOf (((text ++ [NUL])).map some) = .ok text := ih h.2
      rw [strcpyText, List.cons_append, List.map_cons, stringOf, if_neg hc, htext, ok_bind]
      rfl

variable {malloc env} {text expand : List Char}

theorem token_ne_nil (name : List Char) : token name ≠ [] := List.cons_ne_nil _ _

/-- The two strings that a pass copies out of its match. -/
theorem match_parts (front name rest : List Char) :
    ((front ++ (token name ++ rest)).drop front.length).take
        (front.length + (token name).length - front.length) = token name ∧
      ((front ++ (token name ++ rest)).drop (front.length + 2)).take
        (front.length + (token name).length - front.length - 3) = name := by
  constructor
  · rw [List.drop_left, Nat.add_sub_cancel_left, List.take_left]
  · have htoken : token name ++ rest = '$' :: '{' :: (name ++ ('}' :: rest)) := by simp [token]
    have hlength : (token name).length = name.length + 3 := by simp [token]
    rw [← List.drop_drop, List.drop_left, hlength, htoken, Nat.add_sub_cancel_left,
      Nat.add_sub_cancel, List.drop_succ_cons, List.drop_succ_cons, List.drop_zero, List.take_left]

theorem replaces_stage (h : Expandable malloc env text expand) {done : List (List Char)}
    {name : List Char} (hdone : Dealt text done) (hname : nextName text done = some name) :
    Replaces malloc (stage env done text) (token name) ((env name).map Subtype.val) := by
  obtain ⟨horig, hvalue, hfits⟩ := h.sized done name hdone hname
  have hshort := h.short name (nextName_eq_some hname).1
  have htoken : Sized (token name) := lt_trans hshort (by decide)
  refine (replaces_iff (token_ne_nil name) horig htoken hvalue).mpr ⟨hfits, ?_⟩
  have hnext : replaceAll (token name) (((env name).map Subtype.val).getD []) (stage env done text) =
      stage env (done ++ [name]) text := h.nowhereElse done name hdone hname
  rw [hnext]
  exact h.allocated done name hdone hname

theorem expandPass_eq (h : Expandable malloc env text expand) (hnul : NUL ∉ text)
    {done : List (List Char)} {name : List Char} (hdone : Dealt text done)
    (hname : nextName text done = some name) (cells : List Char)
    (hcells : cells.length = expand.length) (count : Nat) :
    ∃ cells', expandPass malloc env ⟨stage env done text, cells, count⟩ =
        .ok (.again ⟨stage env (done ++ [name]) text, cells', count + 1⟩) ∧
      cells'.length = expand.length ∧
      strcpyText (stage env (done ++ [name]) text) <+: cells' := by
  have hmatch := regexec_eq (stage env done text)
  rw [h.leftmost done hdone, hname] at hmatch
  obtain ⟨-, front, rest, htext, hmatch⟩ := hmatch
  obtain ⟨hfirst, hsecond⟩ := match_parts front name rest
  rw [← htext] at hfirst hsecond
  have hshort := h.short name (nextName_eq_some hname).1
  have hmatchstr : copy32 (token name) = .ok (token name) := if_pos hshort
  have hlength : name.length < 32 := by
    simp only [token, List.length_append, List.length_cons] at hshort
    omega
  have henv_name : copy32 name = .ok name := if_pos hlength
  have hreplace : str_replace malloc (some (stage env done text)) (some (token name))
      ((env name).map Subtype.val) =
        .ok (some ((strcpyText (stage env (done ++ [name]) text)).map some)) := by
    rw [← h.nowhereElse done name hdone hname]
    exact replaces_stage h hdone hname
  have hroom := h.room done name hdone hname
  have hcopy : (strcpyText (stage env (done ++ [name]) text)).length ≤ cells.length := by
    rw [strcpyText, List.length_append, List.length_singleton]
    omega
  have hmemcpy : memcpyText cells (strcpyText (stage env (done ++ [name]) text)) = _ := if_pos hcopy
  refine ⟨strcpyText (stage env (done ++ [name]) text) ++
    cells.drop (strcpyText (stage env (done ++ [name]) text)).length, ?_, ?_,
      List.prefix_append _ _⟩
  · unfold expandPass
    rw [hmatch]
    dsimp only
    rw [hfirst, hsecond, hmatchstr, ok_bind, henv_name, ok_bind, hreplace, ok_bind]
    dsimp only
    rw [stringOf_strcpyText (nul_notMem_stage env hnul _), ok_bind, hmemcpy, ok_bind]
    rfl
  · rw [List.length_append, List.length_drop]
    omega

/-! ## The run -/

def remaining (text : List Char) (done : List (List Char)) : Nat :=
  ((names text).filter (· ∉ done)).length

theorem remaining_lt {done : List (List Char)} {name : List Char}
    (h : nextName text done = some name) : remaining text (done ++ [name]) < remaining text done := by
  obtain ⟨hmem, hnot⟩ := nextName_eq_some h
  have hfilter : (names text).filter (· ∉ done ++ [name]) =
      ((names text).filter (· ∉ done)).filter (· ≠ name) := by
    rw [List.filter_filter]
    apply List.filter_congr
    intro other _
    simp [and_comm]
  unfold remaining
  rw [hfilter]
  apply List.length_filter_lt_length_iff_exists.mpr
  exact ⟨name, List.mem_filter.mpr ⟨hmem, by simpa using hnot⟩, by simp⟩

theorem heads_expanded (h : Expandable malloc env text expand) (hnul : NUL ∉ text)
    {done : List (List Char)} (hdone : Dealt text done) (cells : List Char)
    (hcells : cells.length = expand.length) (count : Nat)
    (hwritten : 0 < count → strcpyText (stage env done text) <+: cells) :
    ∃ cells' count', Heads (expandPass malloc env) ⟨stage env done text, cells, count⟩
        ⟨expanded env text, cells', count'⟩ ∧
      count ≤ count' ∧ (nextName text done ≠ none → 0 < count') ∧
      (0 < count' → strcpyText (expanded env text) <+: cells') ∧
      names (expanded env text) = [] := by
  induction hn : remaining text done using Nat.strong_induction_on
    generalizing done cells count with
  | _ n ih =>
      cases hname : nextName text done with
      | none =>
          have hlast : stage env done text = expanded env text :=
            stage_of_all env fun name => mem_done_of_nextName_none hname
          have hnone := h.leftmost done hdone
          rw [hname, hlast, List.head?_eq_none_iff] at hnone
          rw [hlast] at hwritten ⊢
          exact ⟨cells, count, .refl, le_rfl, fun h => absurd rfl h, hwritten, hnone⟩
      | some name =>
          obtain ⟨cells₁, hpass, hcells₁, hwritten₁⟩ :=
            expandPass_eq h hnul hdone hname cells hcells count
          obtain ⟨cells', count', hheads, hcount, -, hlast, hnone⟩ :=
            ih (remaining text (done ++ [name])) (hn ▸ remaining_lt hname) (.next hdone hname)
              cells₁ hcells₁ (count + 1) (fun _ => hwritten₁) rfl
          exact ⟨cells', count', .head hpass hheads, by omega, fun _ => by omega, hlast, hnone⟩

theorem expandPass_done {s : Expanding} (h : names s.orig = []) :
    expandPass malloc env s = .ok (.done s) := by
  have hmatch := regexec_eq s.orig
  rw [h] at hmatch
  unfold expandPass
  rw [hmatch]
  rfl

theorem expanded_of_noMatch (h : names text = []) : expanded env text = text := by
  have hstage : stage env [] text = expanded env text :=
    stage_of_all env fun name hname => by rw [h] at hname; cases hname
  rw [← hstage, stage_nil]

/-- Without a match the text is copied and nothing is written behind it. -/
theorem str_expand_noMatch {text : CString} (h : names text.val = []) (fuel : Nat) :
    str_expand malloc env (fuel + 1) text expand = some <$> memcpyText expand text.val := by
  have hdone : expandPass malloc env ⟨text.val, expand, 0⟩ = .ok (.done ⟨text.val, expand, 0⟩) :=
    expandPass_done h
  unfold str_expand
  rw [loop_succ, hdone]
  rfl

theorem expands_iff_of_noMatch {text : CString} (h : names text.val = []) :
    Expands malloc env text expand ↔ expand[text.val.length]? = some NUL := by
  unfold Expands
  rw [expanded_of_noMatch h]
  constructor
  · rintro ⟨fuel, expand', hrun, hwritten⟩
    cases fuel with
    | zero => cases hrun
    | succ fuel =>
        rw [str_expand_noMatch h, memcpyText] at hrun
        split at hrun
        · cases hrun
          rw [strcpyText, List.prefix_append_right_inj] at hwritten
          obtain ⟨rest, hrest⟩ := hwritten
          rw [← Nat.add_zero text.val.length, ← List.getElem?_drop, ← hrest]
          rfl
        · cases hrun
  · intro hend
    have hlt : text.val.length < expand.length := by
      by_contra hge
      rw [List.getElem?_eq_none (by omega)] at hend
      cases hend
    refine ⟨1, text.val ++ expand.drop text.val.length, ?_, ?_⟩
    · rw [str_expand_noMatch h, memcpyText, if_pos hlt.le]
      rfl
    · rw [strcpyText, List.prefix_append_right_inj, List.drop_eq_getElem_cons hlt]
      rw [List.getElem?_eq_getElem hlt, Option.some.injEq] at hend
      rw [hend]
      exact ⟨_, rfl⟩

/-- What the conditions ask for is enough. -/
theorem expands_of_expandable {text : CString} (h : Expandable malloc env text.val expand) :
    Expands malloc env text expand := by
  by_cases hnames : names text.val = []
  · exact (expands_iff_of_noMatch hnames).mpr (h.ended hnames)
  · have hfirst : nextName text.val [] ≠ none := by
      intro hnone
      obtain ⟨name, hname⟩ := List.exists_mem_of_ne_nil _ hnames
      exact List.not_mem_nil (mem_done_of_nextName_none hnone hname)
    obtain ⟨cells, count, hheads, -, hcount, hwritten, hnone⟩ :=
      heads_expanded h text.property .nil expand rfl 0 (fun h => absurd h (Nat.lt_irrefl 0))
    rw [stage_nil] at hheads
    obtain ⟨fuel, hrun⟩ := hheads.loop_eq (expandPass_done hnone)
    have hne : count ≠ 0 := (hcount hfirst).ne'
    refine ⟨fuel, cells, ?_, hwritten (hcount hfirst)⟩
    unfold str_expand
    rw [hrun, ok_bind]
    exact if_neg hne

/-! ## What every run that ends has in common -/

theorem nul_notMem_stringOf {block : Block} {text : List Char} (h : stringOf block = .ok text) :
    NUL ∉ text := by
  induction block generalizing text with
  | nil => cases h
  | cons cell block ih =>
      cases cell with
      | none => cases h
      | some c =>
          rw [stringOf] at h
          split at h
          · cases h
            exact List.not_mem_nil
          · rename_i hc
            obtain ⟨rest, hrest, h⟩ := exists_of_bind_ok h
            cases h
            rw [List.mem_cons, not_or]
            exact ⟨fun hnul => hc hnul.symm, ih hrest⟩

/-- `str_replace` has no block for the text, and nothing but the count changes. -/
def Stuck (malloc : Nat → Bool) (env : Environment) (s : Expanding) : Prop :=
  ∀ count, expandPass malloc env { s with count := count } =
    .ok (.again { s with count := count + 1 })

/-- Where the text of the next pass is. -/
structure Written (malloc : Nat → Bool) (env : Environment) (text : List Char) (s : Expanding) :
    Prop where
  nul : NUL ∉ s.orig
  start : s.count = 0 → s.orig = text
  later : 0 < s.count → Stuck malloc env s ∨ strcpyText s.orig <+: s.expand

theorem expandPass_again {s s' : Expanding} (h : expandPass malloc env s = .ok (.again s'))
    (hnul : NUL ∉ s.orig) : Written malloc env text s' := by
  unfold expandPass at h
  cases hmatch : regexec s.orig with
  | none =>
      rw [hmatch] at h
      cases h
  | some m =>
      rw [hmatch] at h
      dsimp only at h
      obtain ⟨matchstr, hmatchstr, h⟩ := exists_of_bind_ok h
      obtain ⟨env_name, henv_name, h⟩ := exists_of_bind_ok h
      obtain ⟨out, hout, h⟩ := exists_of_bind_ok h
      cases out with
      | none =>
          cases h
          refine ⟨hnul, fun h => absurd h (Nat.succ_ne_zero _), fun _ => Or.inl fun count => ?_⟩
          unfold expandPass
          rw [hmatch]
          dsimp only
          rw [hmatchstr, ok_bind, henv_name, ok_bind, hout, ok_bind]
          rfl
      | some out =>
          obtain ⟨text, htext, h⟩ := exists_of_bind_ok h
          obtain ⟨cells, hcells, h⟩ := exists_of_bind_ok h
          cases h
          refine ⟨nul_notMem_stringOf htext, fun h => absurd h (Nat.succ_ne_zero _),
            fun _ => Or.inr ?_⟩
          unfold memcpyText at hcells
          split at hcells
          · cases hcells
            exact List.prefix_append _ _
          · cases hcells

theorem names_of_done {s r : Expanding} (h : expandPass malloc env s = .ok (.done r)) :
    names s.orig = [] ∧ r = s := by
  have hmatch := regexec_eq s.orig
  cases hhead : (names s.orig).head? with
  | none =>
      rw [expandPass_done (List.head?_eq_none_iff.mp hhead)] at h
      cases h
      exact ⟨List.head?_eq_none_iff.mp hhead, rfl⟩
  | some name =>
      rw [hhead] at hmatch
      obtain ⟨-, front, rest, -, hmatch⟩ := hmatch
      unfold expandPass at h
      rw [hmatch] at h
      dsimp only at h
      obtain ⟨matchstr, -, h⟩ := exists_of_bind_ok h
      obtain ⟨env_name, -, h⟩ := exists_of_bind_ok h
      obtain ⟨out, -, h⟩ := exists_of_bind_ok h
      cases out with
      | none => cases h
      | some out =>
          obtain ⟨text, -, h⟩ := exists_of_bind_ok h
          obtain ⟨cells, -, h⟩ := exists_of_bind_ok h
          cases h

theorem eq_of_strcpyText_starts {a b cells : List Char} (ha : NUL ∉ a) (hb : NUL ∉ b)
    (h : strcpyText a <+: cells) (h' : strcpyText b <+: cells) : a = b := by
  obtain ⟨rest, hrest⟩ := h
  obtain ⟨rest', hrest'⟩ := h'
  have htake : cells.takeWhile (· ≠ NUL) = a := by
    rw [← hrest, strcpyText, List.append_assoc]
    exact takeWhile_append_stop ha rest
  have htake' : cells.takeWhile (· ≠ NUL) = b := by
    rw [← hrest', strcpyText, List.append_assoc]
    exact takeWhile_append_stop hb rest'
  exact htake.symm.trans htake'

/-- An expansion leaves no `${name}`. -/
theorem names_expanded_of_expands {text : CString} (h : Expands malloc env text expand) :
    names (expanded env text.val) = [] := by
  obtain ⟨fuel, expand', hrun, hwritten⟩ := h
  unfold str_expand at hrun
  obtain ⟨last, hlast, hrun⟩ := exists_of_bind_ok hrun
  cases last with
  | none => cases hrun
  | some last =>
      obtain ⟨s, hheads, hdone⟩ := loop_done hlast
      obtain ⟨hnone, rfl⟩ := names_of_done hdone
      have hinv : Written malloc env text.val last :=
        hheads.invariant (fun s s' hs hpass => expandPass_again hpass hs.nul)
          ⟨text.property, fun _ => rfl, fun h => absurd h (Nat.lt_irrefl 0)⟩
      dsimp only at hrun
      by_cases hzero : last.count = 0
      · rw [hinv.start hzero] at hnone
        rw [expanded_of_noMatch hnone, hnone]
      · rw [if_neg hzero] at hrun
        cases hrun
        obtain hstuck | hlater := hinv.later (Nat.pos_of_ne_zero hzero)
        · have hagain : expandPass malloc env last = _ := hstuck last.count
          rw [hdone] at hagain
          cases hagain
        · have hnul : NUL ∉ expanded env text.val := by
            rw [← stage_of_all env fun name (h : name ∈ names text.val) => h]
            exact nul_notMem_stage env text.property _
          rw [eq_of_strcpyText_starts hnul hinv.nul hwritten hlater, hnone]

/-- The first `${name}` fits in the buffers of a run that ends. -/
theorem short_of_expands {text : CString} (h : Expands malloc env text expand) {name : List Char}
    (hname : (names text.val).head? = some name) : (token name).length < 32 := by
  obtain ⟨fuel, expand', hrun, -⟩ := h
  have hmatch := regexec_eq text.val
  rw [hname] at hmatch
  obtain ⟨-, front, rest, htext, hmatch⟩ := hmatch
  obtain ⟨hfirst, -⟩ := match_parts front name rest
  by_contra hlong
  have hcopy : copy32 (token name) = .error .outside := if_neg hlong
  have hpass : expandPass malloc env ⟨text.val, expand, 0⟩ = .error .outside := by
    unfold expandPass
    rw [hmatch]
    dsimp only
    rw [htext, hfirst, hcopy]
    rfl
  cases fuel with
  | zero => cases hrun
  | succ fuel =>
      unfold str_expand at hrun
      rw [loop_succ, hpass] at hrun
      cases hrun

/-! ## Texts that only use `$` for their names -/

/-- No `$` in the text but at its names, and none in names and values. -/
structure Plain (env : Environment) (text : List Char) : Prop where
  chars : Piece.char '$' ∉ pieces text
  ofName : ∀ name ∈ names text, '$' ∉ name
  ofValue : ∀ name ∈ names text, '$' ∉ value env name

theorem Plain.of_char {c : Char} (hc : nameAt (c :: text) = none) (h : Plain env (c :: text)) :
    c ≠ '$' ∧ Plain env text := by
  obtain ⟨hchars, hname, hvalue⟩ := h
  rw [pieces_char hc, List.mem_cons, not_or] at hchars
  rw [names_char hc] at hname hvalue
  refine ⟨?_, hchars.2, hname, hvalue⟩
  rintro rfl
  exact hchars.1 rfl

theorem Plain.of_token {name : List Char} (hname : IsName name) (h : Plain env (token name ++ text)) :
    ('$' ∉ name ∧ '$' ∉ value env name) ∧ Plain env text := by
  obtain ⟨hchars, hnames, hvalues⟩ := h
  rw [pieces_token hname, List.mem_cons, not_or] at hchars
  rw [names_token hname, List.forall_mem_cons] at hnames hvalues
  exact ⟨⟨hnames.1, hvalues.1⟩, hchars.2, hnames.2, hvalues.2⟩

theorem names_append {front : List Char} (h : '$' ∉ front) (rest : List Char) :
    names (front ++ rest) = names rest := by
  induction front with
  | nil => rfl
  | cons c front ih =>
      rw [List.mem_cons, not_or] at h
      rw [List.cons_append, names_char (nameAt_of_ne (Ne.symm h.1) _), ih h.2]

theorem names_stage (h : Plain env text) (done : List (List Char)) :
    names (stage env done text) = (names text).filter (· ∉ done) := by
  induction text using pieces_induction with
  | hnil => rfl
  | hchar c text hc ih =>
      obtain ⟨hdollar, hrest⟩ := h.of_char hc
      rw [stage_char env hc, names_char hc, names_char (nameAt_of_ne hdollar _), ih hrest]
  | htoken name rest hname ih =>
      obtain ⟨⟨-, hvalue⟩, hrest⟩ := h.of_token hname
      rw [stage_token env hname, names_token hname]
      by_cases hdone : name ∈ done
      · rw [if_pos hdone, names_append hvalue, ih hrest, List.filter_cons_of_neg (by simpa)]
      · rw [if_neg hdone, names_token hname, ih hrest, List.filter_cons_of_pos (by simpa)]

theorem token_not_prefix {name other : List Char} (hname : IsName name) (hother : IsName other)
    (hne : other ≠ name) (rest : List Char) : ¬ token name <+: token other ++ rest := by
  rintro ⟨after, hafter⟩
  have h := nameAt_token hname after
  rw [hafter, nameAt_token hother] at h
  exact hne (Option.some.inj h)

theorem replaceAll_stage (h : Plain env text) {done : List (List Char)} {name : List Char}
    (hname : IsName name) (hnot : name ∉ done) :
    replaceAll (token name) (value env name) (stage env done text) =
      stage env (done ++ [name]) text := by
  induction text using pieces_induction with
  | hnil => rfl
  | hchar c text hc ih =>
      obtain ⟨hdollar, hrest⟩ := h.of_char hc
      rw [stage_char env hc, stage_char env hc, ← ih hrest]
      exact replaceAll_cons_of_not (not_prefix_of_head_ne hdollar) _
  | htoken other rest hother ih =>
      obtain ⟨⟨hplain, hvalue⟩, hrest⟩ := h.of_token hother
      rw [stage_token env hother, stage_token env hother, ← ih hrest]
      by_cases heq : other = name
      · subst heq
        rw [if_neg hnot, if_pos (List.mem_append_right _ List.mem_cons_self),
          replaceAll_append (token_ne_nil other)]
      · have hdone : other ∈ done ++ [name] ↔ other ∈ done := by simp [heq]
        rw [if_congr hdone rfl rfl]
        by_cases hin : other ∈ done
        · rw [if_pos hin]
          exact replaceAll_append_of_notMem hvalue _ _
        · rw [if_neg hin]
          have htail : '$' ∉ '{' :: other ++ ['}'] := by simpa using hplain
          have hfirst := token_not_prefix hname hother heq (stage env done rest)
          refine (replaceAll_cons_of_not hfirst _).trans ?_
          exact congrArg ('$' :: ·) (replaceAll_append_of_notMem htail _ _)

/-- The leftmost `${name}` is the next one, and it is nowhere else. -/
theorem Plain.undisturbed (h : Plain env text) (done : List (List Char)) :
    (names (stage env done text)).head? = nextName text done ∧
      ∀ name, nextName text done = some name →
        replaceAll (token name) (value env name) (stage env done text) =
          stage env (done ++ [name]) text := by
  constructor
  · rw [names_stage h, nextName]
  · intro name hname
    obtain ⟨hmem, hnot⟩ := nextName_eq_some hname
    exact replaceAll_stage h (isName_of_mem hmem) hnot

theorem length_stage_le {b : Nat} (h : ∀ name ∈ names text, (value env name).length ≤ b)
    (done : List (List Char)) :
    (stage env done text).length ≤ text.length + (names text).length * b := by
  induction text using pieces_induction with
  | hnil => exact Nat.zero_le _
  | hchar c text hc ih =>
      rw [names_char hc] at h ⊢
      have hrest := ih h
      rw [stage_char env hc, List.length_cons, List.length_cons]
      omega
  | htoken name rest hname ih =>
      rw [names_token hname, List.forall_mem_cons] at h
      have hrest := ih h.2
      have hfirst : (if name ∈ done then value env name else token name).length ≤
          (token name).length + b := by
        split
        · exact le_trans h.1 (Nat.le_add_left _ _)
        · exact Nat.le_add_right _ _
      rw [stage_token env hname, names_token hname, List.length_append, List.length_append,
        List.length_cons, Nat.succ_mul]
      omega

theorem fitsInt_mul {x y : Int} (hlo : -32768 ≤ x) (hhi : x ≤ 32768) (hpos : 0 ≤ y)
    (hy : y ≤ 32768) : FitsInt (x * y) := by
  have hupper : x * y ≤ 32768 * y := Int.mul_le_mul_of_nonneg_right hhi hpos
  have hlower : -32768 * y ≤ x * y := Int.mul_le_mul_of_nonneg_right hlo hpos
  unfold FitsInt
  omega

/-- Plain texts and values of a moderate length are expanded. -/
theorem expandable_of_plain (h : Plain env text) (b : Nat)
    (hshort : ∀ name ∈ names text, (token name).length < 32)
    (hvalue : ∀ name ∈ names text, (value env name).length ≤ b)
    (hroom : text.length + (names text).length * b < expand.length)
    (hsize : text.length + (names text).length * b < 2 ^ 15)
    (hmalloc : ∀ n ≤ expand.length, malloc n)
    (hended : names text = [] → expand[text.length]? = some NUL) :
    Expandable malloc env text expand where
  leftmost done _ := (h.undisturbed done).1
  nowhereElse done name _ hname := (h.undisturbed done).2 name hname
  short := hshort
  room done name _ _ := lt_of_le_of_lt (length_stage_le hvalue _) hroom
  sized done name _ hname := by
    obtain ⟨hmem, -⟩ := nextName_eq_some hname
    have hstage := length_stage_le hvalue done
    have hb : b ≤ (names text).length * b :=
      Nat.le_mul_of_pos_left b (List.length_pos_of_mem hmem)
    have hval := hvalue name hmem
    have htoken := hshort name hmem
    have hcount := occurrences_le (token_ne_nil name) (stage env done text)
    refine ⟨?_, ?_, ?_⟩
    · unfold Sized
      omega
    · unfold Sized
      omega
    · exact fitsInt_mul (by omega) (by omega) (by omega) (by omega)
  allocated done name _ _ := hmalloc _ (by
    have hstage := length_stage_le hvalue (done ++ [name])
    omega)
  ended := hended

/-! ## The arguments -/

def INFO_SESSION_MAX : Nat := 10

def wifi_drv_para : List (List Char × List (List Char)) :=
  [("broadcom".toList,
      ["nvram_path=/vendor/etc/firmware/nvram_${module_name}.txt".toList,
       "config_path=/vendor/etc/firmware/config_${module_name}.txt".toList]),
   ("realtek".toList, ["ifname=wlan0 if2name=p2p0".toList]),
   ("ssv".toList,
      ["stacfgpath=/vendor/etc/firmware/${module_name}/${module_name}-wifi.cfg".toList])]

def cstring (buffer : List Char) : CString :=
  ⟨buffer.takeWhile (· ≠ NUL), fun h => by simpa using List.mem_takeWhile_imp h⟩

def argBuffer (info : List (List Char)) : CString :=
  cstring ((info.take INFO_SESSION_MAX).flatMap (· ++ [' '])).dropLast

/-- `module_arg` is the buffer of the call before. -/
def get_driver_module_arg (malloc : Nat → Bool) (env : Environment) (fuel : Nat)
    (vendor_name module_arg : List Char) : Except StrFault (Option (List Char)) :=
  match wifi_drv_para.find? fun entry => vendor_name <+: entry.1 with
  | none => return some module_arg
  | some entry => str_expand malloc env fuel (argBuffer entry.2) module_arg

def module_name : List Char := "module_name".toList

theorem wifi_drv_para_plain : ∀ entry ∈ wifi_drv_para,
    Piece.char '$' ∉ pieces (argBuffer entry.2).val ∧
      (∀ name ∈ names (argBuffer entry.2).val, name = module_name) ∧
      (argBuffer entry.2).val.length ≤ 122 ∧ (names (argBuffer entry.2).val).length ≤ 2 := by
  decide +kernel

/-- A plain module name gives the arguments of every vendor. -/
theorem get_driver_module_arg_expands {vendor_name module_arg : List Char}
    {entry : List Char × List (List Char)}
    (hentry : wifi_drv_para.find? (fun entry => vendor_name <+: entry.1) = some entry)
    (hplain : '$' ∉ value env module_name) (hvalue : (value env module_name).length ≤ 400)
    (hmalloc : ∀ n ≤ 1024, malloc n) (harg : module_arg.length = 1024)
    (hended : names (argBuffer entry.2).val = [] →
      module_arg[(argBuffer entry.2).val.length]? = some NUL) :
    ∃ fuel module_arg',
      get_driver_module_arg malloc env fuel vendor_name module_arg = .ok (some module_arg') ∧
        strcpyText (expanded env (argBuffer entry.2).val) <+: module_arg' := by
  obtain ⟨hchars, hnames, hlength, hcount⟩ :=
    wifi_drv_para_plain entry (List.mem_of_find?_eq_some hentry)
  have htext : Plain env (argBuffer entry.2).val := by
    refine ⟨hchars, ?_, ?_⟩
    · intro name hname
      rw [hnames name hname]
      decide
    · intro name hname
      rw [hnames name hname]
      exact hplain
  have hbound : (names (argBuffer entry.2).val).length * 400 ≤ 2 * 400 :=
    Nat.mul_le_mul_right 400 hcount
  have h : Expandable malloc env (argBuffer entry.2).val module_arg := by
    apply expandable_of_plain htext 400
    · intro name hname
      rw [hnames name hname]
      decide
    · intro name hname
      rw [hnames name hname]
      exact hvalue
    · omega
    · omega
    · rwa [harg]
    · exact hended
  obtain ⟨fuel, module_arg', hrun, hwritten⟩ := expands_of_expandable h
  refine ⟨fuel, module_arg', ?_, hwritten⟩
  unfold get_driver_module_arg
  rw [hentry]
  exact hrun

/-! ## When the expansion is right -/

/-- `str_replace` is right on strings with `int` lengths unless its size overflows, and `str_expand`
under `Expandable`.  The last two parts are what no run that ends gets around. -/
theorem expansion_right (malloc : Nat → Bool) (env : Environment) :
    (∀ (orig rep : List Char) (new : Option (List Char)), rep ≠ [] → Sized orig → Sized rep →
      Sized (new.getD []) →
        (Replaces malloc orig rep new ↔
          FitsInt (((new.getD []).length - rep.length) * occurrences rep orig) ∧
            malloc ((replaceAll rep (new.getD []) orig).length + 1))) ∧
      ∀ (text : CString) (expand : List Char),
        (Expandable malloc env text.val expand → Expands malloc env text expand) ∧
        (names text.val = [] →
          (Expands malloc env text expand ↔ expand[text.val.length]? = some NUL)) ∧
        (Expands malloc env text expand → names (expanded env text.val) = [] ∧
          ∀ name, (names text.val).head? = some name → (token name).length < 32) := by
  refine ⟨fun orig rep new hrep horig hsrep hnew => replaces_iff hrep horig hsrep hnew,
    fun text expand => ⟨expands_of_expandable, expands_iff_of_noMatch, fun h => ?_⟩⟩
  exact ⟨names_expanded_of_expands h, fun name hname => short_of_expands h hname⟩

def moduleNamed (name : CString) : Environment :=
  fun variable_name => if variable_name = module_name then some name else none

def ssvText : CString :=
  argBuffer ["stacfgpath=/vendor/etc/firmware/${module_name}/${module_name}-wifi.cfg".toList]

theorem expandable_ssv :
    Expandable (fun _ => true) (moduleNamed (cstring "ssv6x5x".toList)) ssvText.val
      (List.replicate 1024 NUL) :=
  expandable_of_plain ⟨by decide +kernel, by decide +kernel, by decide +kernel⟩ 7
    (by decide +kernel) (by decide +kernel) (by decide +kernel) (by decide +kernel)
    (fun _ _ => rfl) (by decide +kernel)

theorem expansion_right_ssv :
    Expands (fun _ => true) (moduleNamed (cstring "ssv6x5x".toList)) ssvText
        (List.replicate 1024 NUL) ∧
      Replaces (fun _ => true) "n=abab".toList "ab".toList (some "c".toList) := by
  have h := expansion_right (fun _ => true) (moduleNamed (cstring "ssv6x5x".toList))
  refine ⟨(h.2 ssvText _).1 expandable_ssv, ?_⟩
  refine (h.1 "n=abab".toList "ab".toList (some "c".toList) ?_ ?_ ?_ ?_).mpr ?_
  · decide
  · decide
  · decide
  · decide
  · decide

def chanceEnv : Environment := fun name =>
  if name = "A".toList ∨ name = "$\x7bB".toList then some (cstring "$\x7b".toList) else none

def chanceText : CString := cstring "$\x7bA\x7d$\x7bB\x7d".toList

/-- A replacement of what is no `${name}` of the input may end in the right text all the same. -/
theorem expands_by_chance :
    Expands (fun _ => true) chanceEnv chanceText (List.replicate 12 NUL) ∧
      ¬ Expandable (fun _ => true) chanceEnv chanceText.val (List.replicate 12 NUL) := by
  constructor
  · refine ⟨3, "$\x7b".toList ++ NUL :: "\x7bB\x7d".toList ++ List.replicate 6 NUL, ?_, ?_⟩
    · decide +kernel
    · decide +kernel
  · intro h
    have hdealt : Dealt chanceText.val ["A".toList] := .next .nil (by decide +kernel)
    exact absurd (h.leftmost _ hdealt) (by decide +kernel)

/-! ## Three expansions that go wrong -/

def ownName : CString := cstring "${module_name}".toList

theorem expandPass_ownName {cells : List Char} (h : cells.length = 1024) (count : Nat) :
    expandPass (fun _ => true) (moduleNamed ownName) ⟨ownName.val, cells, count⟩ =
      .ok (.again ⟨ownName.val, strcpyText ownName.val ++ cells.drop (strcpyText ownName.val).length,
        count + 1⟩) := by
  have hmatch : regexec ownName.val = some (0, 14) := by decide +kernel
  have hmatchstr : copy32 ((ownName.val.drop 0).take 14) = .ok ownName.val := by decide +kernel
  have henv_name : copy32 ((ownName.val.drop 2).take (14 - 0 - 3)) = .ok module_name := by
    decide +kernel
  have hreplace : str_replace (fun _ => true) (some ownName.val) (some ownName.val)
      ((moduleNamed ownName module_name).map Subtype.val) =
        .ok (some ((strcpyText ownName.val).map some)) := by decide +kernel
  have hcopy : (strcpyText ownName.val).length ≤ cells.length := by
    rw [h]
    decide +kernel
  have hmemcpy : memcpyText cells (strcpyText ownName.val) = _ := if_pos hcopy
  unfold expandPass
  rw [hmatch]
  dsimp only
  rw [hmatchstr, ok_bind, henv_name, ok_bind, hreplace, ok_bind]
  dsimp only
  rw [stringOf_strcpyText ownName.property, ok_bind, hmemcpy, ok_bind]
  rfl

def longName : CString := cstring "${a_variable_with_a_rather_long_name}".toList

def realtekText : CString := argBuffer ["ifname=wlan0 if2name=p2p0".toList]

/-- A name whose value is its own `${name}` is replaced for ever, a long name leaves the buffers, and
a text without a name gets no NUL. -/
theorem expansion_wrong :
    (∀ fuel, str_expand (fun _ => true) (moduleNamed ownName) fuel ownName
      (List.replicate 1024 NUL) = .ok none) ∧
    (∀ fuel, str_expand (fun _ => true) (moduleNamed ownName) (fuel + 1) longName
      (List.replicate 1024 NUL) = .error .outside) ∧
    ¬ Expands (fun _ => true) (moduleNamed ownName) realtekText (List.replicate 1024 'x') := by
  refine ⟨fun fuel => ?_, fun fuel => ?_, ?_⟩
  · have hstep : ∀ s : Expanding, s.orig = ownName.val ∧ s.expand.length = 1024 →
        ∃ s', expandPass (fun _ => true) (moduleNamed ownName) s = .ok (.again s') ∧
          s'.orig = ownName.val ∧ s'.expand.length = 1024 := by
      rintro ⟨orig, cells, count⟩ ⟨rfl, hcells⟩
      dsimp only at hcells
      have hlength : (strcpyText ownName.val).length = 15 := by decide +kernel
      refine ⟨_, expandPass_ownName hcells count, rfl, ?_⟩
      rw [List.length_append, List.length_drop, hlength, hcells]
    have hforever := loop_forever hstep fuel (s := ⟨ownName.val, List.replicate 1024 NUL, 0⟩)
      ⟨rfl, List.length_replicate⟩
    unfold str_expand
    rw [hforever]
    rfl
  · have hmatch : regexec longName.val = some (0, 37) := by decide +kernel
    have hcopy : copy32 ((longName.val.drop 0).take (37 - 0)) = .error .outside := by
      decide +kernel
    have hpass : expandPass (fun _ => true) (moduleNamed ownName)
        ⟨longName.val, List.replicate 1024 NUL, 0⟩ = .error .outside := by
      unfold expandPass
      rw [hmatch]
      dsimp only
      rw [hcopy]
      rfl
    unfold str_expand
    rw [loop_succ, hpass]
    rfl
  · rw [expands_iff_of_noMatch (by decide +kernel)]
    decide +kernel

end AwHal.Wireless
