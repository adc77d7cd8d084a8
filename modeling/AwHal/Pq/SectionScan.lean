import Mathlib.Data.List.TakeWhile
import AwHal.Pq.NumberLists
import AwHal.Pq.SectionReads

/-!
# The sections that `download_firmware` finds

A firmware data file holds any number of sections behind its first line.  `download_firmware` hands
on all of them as long as no search has to go on in a window that cannot be mapped.
-/

namespace AwHal.Pq

open AwHal.Lib

/-! ## The file -/

def IsBreak (c : UInt8) : Prop := c = 10 ∨ c = 13

/-- A section `[id,de]` and its list, each behind a line break.  The list is any text without a
closing brace, so that it may go over several lines. -/
structure SectionText where
  lead : List UInt8
  id : Nat
  de : Nat
  mid : List UInt8
  numbers : List UInt8
  lead_ne : lead ≠ []
  lead_break : ∀ c ∈ lead, IsBreak c
  id_lt : id < 2 ^ 31
  de_lt : de < 2 ^ 31
  mid_ne : mid ≠ []
  mid_break : ∀ c ∈ mid, IsBreak c
  numbers_ne : numbers ≠ []
  numbers_open : Mark.endDa.find ∉ numbers

namespace SectionText

def body (s : SectionText) : List UInt8 :=
  numberText s.id ++ ','.toUInt8 :: (numberText s.de ++ [']'.toUInt8])

def list (s : SectionText) : List UInt8 := Mark.beginDa.find :: s.numbers

def bytes (s : SectionText) : List UInt8 :=
  s.lead ++ Mark.beginFang.find :: (s.body ++ (s.mid ++ (s.list ++ [Mark.endDa.find])))

end SectionText

structure FirmFile where
  de_version : Nat
  sections : List SectionText
  tail : List UInt8
  de_version_lt : de_version < 2 ^ 31
  tail_break : ∀ c ∈ tail, IsBreak c

namespace FirmFile

def start (f : FirmFile) : List UInt8 :=
  '#'.toUInt8 :: 'D'.toUInt8 :: 'E'.toUInt8 :: numberText f.de_version

def bytes (f : FirmFile) : List UInt8 :=
  f.start ++ (f.sections.flatMap SectionText.bytes ++ f.tail)

end FirmFile

/-! ## What every section needs -/

/-- A search from `S` gets to `T`: they lie in one block of 8192 bytes, or `S` begins a page. -/
def Crosses (S T : Nat) : Prop := S / 8192 = T / 8192 ∨ S % 4096 = 0

instance (S T : Nat) : Decidable (Crosses S T) := inferInstanceAs (Decidable (_ ∨ _))

namespace SectionText

variable (s : SectionText) (pos : Nat)

/-- The places of a section that starts at `pos`: its `[`, behind its `]`, and its two braces. -/
def fang : Nat := pos + s.lead.length

def behind : Nat := s.fang pos + 1 + s.body.length

def da : Nat := s.behind pos + s.mid.length

def close : Nat := s.da pos + s.list.length

/-- The searches for the section get there, the first one from `S`, and its head is in one block. -/
def Unbroken (S : Nat) : Prop :=
  Crosses S (s.fang pos) ∧ s.fang pos / 8192 = s.behind pos / 8192 ∧
    Crosses (s.behind pos) (s.da pos) ∧ Crosses (s.da pos) (s.close pos)

instance (S : Nat) : Decidable (s.Unbroken pos S) := inferInstanceAs (Decidable (_ ∧ _ ∧ _ ∧ _))

end SectionText

/-- The sections from `pos` on are unbroken; `S` is where the search for the first one starts. -/
def Unbroken : Nat → Nat → List SectionText → Prop
  | _, _, [] => True
  | S, pos, s :: rest => s.Unbroken pos S ∧ Unbroken (s.close pos) (s.close pos + 1) rest

instance decidableUnbroken : ∀ (S pos : Nat) (sections : List SectionText),
    Decidable (Unbroken S pos sections)
  | _, _, [] => inferInstanceAs (Decidable True)
  | _, pos, s :: rest =>
      have := decidableUnbroken (s.close pos) (s.close pos + 1) rest
      inferInstanceAs (Decidable (_ ∧ _))

/-- The section that is handed on has these numbers, and its buffer starts with this list. -/
def Matches (s : SectionText) (found : FirmSection) : Prop :=
  found.id = s.id ∧ found.de = s.de ∧ s.list ++ [Mark.endDa.find] <+: found.buffer

theorem numberAt_eq {t : List UInt8} {k : Nat} (low : List UInt8) {v : Nat} {c : UInt8}
    {rest : List UInt8} (h : t.drop k = low ++ (numberText v ++ c :: rest))
    (hlow : ∀ c ∈ low, c < '0'.toUInt8) (hv : v < 2 ^ 31) (hc : isDigit c = false) :
    numberAt t k = .ok (some (k + low.length + 1, v)) := by
  have hdigits := isDigit_numberText v
  have hat := drop_of_drop h
  obtain ⟨d, text, htext⟩ := List.exists_cons_of_ne_nil (numberText_ne_nil v)
  have hd := not_below_of_digit (hdigits d (by rw [htext]; exact List.mem_cons_self))
  have hskip : skipBelow (t.drop k) k = .ok (k + low.length + 1) := by
    rw [h, htext, List.cons_append]
    exact skipBelow_append hlow hd.1 _ k
  have hget : t[k + low.length]? = some d := by
    rw [htext, List.cons_append] at hat
    exact getElem?_of_drop hat
  have hends : (t.drop (k + low.length)).dropWhile isDigit ≠ [] := by
    rw [hat, List.dropWhile_append_of_pos hdigits, List.dropWhile_cons_of_neg (by simp [hc])]
    exact List.cons_ne_nil _ _
  have hvalue : atoi (t.drop (k + low.length)) = v := by
    rw [hat, atoi_digits hdigits (numberText_ne_nil v) _ hc, textValue_numberText]
    rwa [textValue_numberText]
  unfold numberAt
  rw [hskip]
  dsimp only
  rw [Nat.add_sub_cancel, hget]
  dsimp only
  rw [if_neg hd.2, if_neg hends, hvalue]

/-! ## The head of a section -/

section Head

variable {t : List UInt8} {size : Int} {k passes : Nat} {de : Int} {rest : List UInt8}

theorem readDe_skip (passes : Nat) (de : Int) {plain : List UInt8}
    (hplain : ∀ c ∈ plain, c ≠ ','.toUInt8 ∧ c ≠ ']'.toUInt8) (h : t.drop k = plain ++ rest)
    (hsize : (k : Int) + plain.length ≤ size) (hpasses : size ≤ passes + k) :
    ∃ passes' : Nat, size ≤ passes' + ((k + plain.length : Nat) : Int) ∧
      readDe t size passes k de = readDe t size passes' (k + plain.length) de := by
  induction plain generalizing k passes with
  | nil => exact ⟨passes, hpasses, rfl⟩
  | cons c plain ih =>
      rw [List.forall_mem_cons] at hplain
      rw [List.length_cons] at hsize ⊢
      have hlt : ¬ size ≤ (k : Int) := by omega
      obtain ⟨passes, rfl⟩ : ∃ n, passes = n + 1 := ⟨passes - 1, by omega⟩
      have hnext : t.drop (k + 1) = plain ++ rest := by
        rw [← List.drop_drop, h]
        rfl
      obtain ⟨passes', hpasses', hrest⟩ := ih passes hplain.2 hnext (by omega) (by omega)
      refine ⟨passes', by omega, ?_⟩
      rw [readDe, if_neg hlt, getElem?_of_drop h]
      dsimp only
      rw [if_neg hplain.1.1]
      dsimp only
      rw [getElem?_of_drop h]
      dsimp only
      rw [if_neg hplain.1.2, hrest, Nat.add_assoc, Nat.add_comm 1]

theorem readDe_close (h : t.drop k = ']'.toUInt8 :: rest) (hlt : (k : Int) < size)
    (hpasses : size ≤ passes + k) : readDe t size passes k de = .ok (some (k + 1), de) := by
  obtain ⟨passes, rfl⟩ : ∃ n, passes = n + 1 := ⟨passes - 1, by omega⟩
  rw [readDe, if_neg (by omega), getElem?_of_drop h]
  dsimp only
  rw [if_neg (by decide)]
  dsimp only
  rw [getElem?_of_drop h]
  dsimp only
  rw [if_pos rfl]

theorem ne_of_isDigit {c : UInt8} (h : isDigit c = true) : c ≠ ','.toUInt8 ∧ c ≠ ']'.toUInt8 := by
  constructor
  · rintro rfl
    exact absurd h (by decide)
  · rintro rfl
    exact absurd h (by decide)

theorem comma_below : ∀ c ∈ [','.toUInt8], c < '0'.toUInt8 := by
  intro c hc
  rw [List.mem_singleton.mp hc]
  decide

theorem readDe_comma {v : Nat} (hv : v < 2 ^ 31)
    (h : t.drop k = ','.toUInt8 :: (numberText v ++ ']'.toUInt8 :: rest))
    (hsize : (k : Int) + (numberText v).length + 2 ≤ size) (hpasses : size ≤ passes + k) :
    readDe t size passes k de = .ok (some (k + (numberText v).length + 2), v) := by
  obtain ⟨d, text, htext⟩ := List.exists_cons_of_ne_nil (numberText_ne_nil v)
  have hdigits := isDigit_numberText v
  have hnumber : numberAt t k = .ok (some (k + 1 + 1, v)) :=
    numberAt_eq [','.toUInt8] h comma_below hv (by decide)
  have hbehind : t.drop (k + 1 + 1) = text ++ ']'.toUInt8 :: rest := by
    rw [← List.drop_drop, ← List.drop_drop, h, htext]
    rfl
  rw [htext] at hdigits hsize ⊢
  rw [List.length_cons] at hsize ⊢
  obtain ⟨passes, rfl⟩ : ∃ n, passes = n + 1 := ⟨passes - 1, by omega⟩
  rw [readDe, if_neg (by omega), getElem?_of_drop h]
  dsimp only
  rw [if_pos rfl, hnumber]
  dsimp only
  cases text with
  | nil =>
      rw [getElem?_of_drop hbehind]
      dsimp only
      rw [if_pos rfl]
      rfl
  | cons e text =>
      -- the character behind the first digit is passed over
      have hmore : ∀ c ∈ text, c ≠ ','.toUInt8 ∧ c ≠ ']'.toUInt8 := fun c hc =>
        ne_of_isDigit (hdigits c (List.mem_cons_of_mem _ (List.mem_cons_of_mem _ hc)))
      have he := ne_of_isDigit (hdigits e (List.mem_cons_of_mem _ List.mem_cons_self))
      have htail : t.drop (k + 1 + 1 + 1) = text ++ ']'.toUInt8 :: rest := by
        rw [← List.drop_drop, hbehind]
        rfl
      rw [List.length_cons] at hsize
      obtain ⟨passes', hpasses', hskip⟩ :=
        readDe_skip passes v hmore htail (by omega)
          (by omega : size ≤ passes + (k + 1 + 1 + 1 : Nat))
      rw [getElem?_of_drop hbehind]
      dsimp only
      rw [if_neg he.2, hskip, readDe_close (drop_of_drop htail) (by omega) hpasses']
      simp only [List.length_cons]
      congr 3
      omega

theorem readHead (s : SectionText) (h : t.drop k = s.body ++ rest)
    (hsize : (k : Int) + s.body.length ≤ size) (hpasses : size ≤ passes + k) :
    numberAt t k = .ok (some (k + 1, s.id)) ∧
      readDe t size passes k de = .ok (some (k + s.body.length), s.de) := by
  have hlength : s.body.length = (numberText s.id).length + ((numberText s.de).length + 2) := by
    simp [SectionText.body]
  have hbody : t.drop k =
      numberText s.id ++ (','.toUInt8 :: (numberText s.de ++ ']'.toUInt8 :: rest)) := by
    rw [h]
    simp [SectionText.body]
  constructor
  · exact numberAt_eq [] hbody (by simp) s.id_lt (by decide)
  · obtain ⟨passes', hpasses', hskip⟩ :=
      readDe_skip passes de (fun c hc => ne_of_isDigit (isDigit_numberText s.id c hc)) hbody
        (by omega) hpasses
    rw [hskip, readDe_comma s.de_lt (drop_of_drop hbody) (by omega) hpasses', hlength]
    congr 3
    omega

end Head

section Fang

variable {file : List UInt8} {S E : Nat} {s : Reader} {front rest : List UInt8}
  (sec : SectionText)

def Reader.behindHead (s : Reader) (i j : Nat) (id de : Int) : Reader :=
  if s.size ≤ j then { s with label := .remap, off_set := i, i := j, id := id, de := de }
  else { s with off_set := i, i := j, id := id, de := de, next := .beginDa }

theorem pass_fang {i j : Nat} {id de : Int} (hlabel : s.label = .find_str)
    (hnext : s.next = .beginFang)
    (hfound : search s.next.find s.size (s.t_buff.drop s.i) s.i = .ok (some i))
    (hnumber : numberAt s.t_buff (i + 1) = .ok (some (i + 1 + 1, id)))
    (hde : readDe s.t_buff s.size s.size.toNat (i + 1) s.de = .ok (some j, de)) :
    Reader.pass file s = .ok (.again (s.behindHead i j id de)) := by
  unfold Reader.pass Reader.behindHead
  rw [hlabel]
  dsimp only
  rw [hfound]
  dsimp only
  rw [hnext]
  dsimp only
  rw [hnumber]
  dsimp only
  rw [Nat.add_sub_cancel, hde]
  dsimp only
  split
  · rfl
  · rfl

/-- A head that ends in front of the end of the window. -/
theorem AtSearch.head (h : AtSearch file S E s) (hnext : s.next = .beginFang)
    (hfile : file.drop S = front ++ Mark.beginFang.find :: (sec.body ++ rest))
    (hfind : Mark.beginFang.find ∉ front) (hlt : S + front.length + 1 + sec.body.length < E) :
    ∃ s', Reader.pass file s = .ok (.again s') ∧
      AtSearch file (S + front.length + 1 + sec.body.length) E s' ∧
      s'.next = .beginDa ∧ s'.id = sec.id ∧ s'.de = sec.de ∧ s'.sections = s.sections := by
  have hmark : file.drop S = front ++ s.next.find :: (sec.body ++ rest) := by rw [hnext, hfile]
  have hnone : s.next.find ∉ front := by rwa [hnext]
  have hfound := h.found hmark hnone (by omega)
  have hpos := h.pos
  have hstop := h.stop
  obtain ⟨zeros, hview, -, -⟩ := h.view
  obtain ⟨n, hn⟩ : ∃ n, E - S = front.length + (1 + (sec.body.length + n)) :=
    ⟨E - S - front.length - 1 - sec.body.length, by omega⟩
  have hseen : s.t_buff.drop (s.i + front.length + 1) = sec.body ++ (rest.take n ++ zeros) := by
    have htake : (file.drop S).take (E - S) =
        front ++ Mark.beginFang.find :: (sec.body ++ rest.take n) := by
      rw [hfile, hn, List.take_length_add_append, Nat.add_comm 1, List.take_succ_cons,
        List.take_length_add_append]
    rw [htake, List.append_assoc, List.cons_append, List.append_assoc] at hview
    rw [← List.drop_drop, drop_of_drop hview]
    rfl
  have hread : _ ∧ readDe s.t_buff s.size s.size.toNat (s.i + front.length + 1) s.de = _ :=
    readHead sec hseen (by omega) (by omega)
  obtain ⟨hnumber, hde⟩ := hread
  have hin : ¬ s.size ≤ ((s.i + front.length + 1 + sec.body.length : Nat) : Int) := by omega
  have hpass : Reader.pass file s = _ := pass_fang h.label hnext hfound hnumber hde
  unfold Reader.behindHead at hpass
  rw [if_neg hin] at hpass
  refine ⟨_, hpass, ?_, rfl, rfl, rfl, rfl⟩
  refine h.move hlt h.label rfl rfl rfl rfl ?_ (by simp)
  dsimp only
  omega

end Fang

/-! ## A section -/

/-- If the function returns, it has handed on nothing more. -/
def Loses (file : List UInt8) (s : Reader) : Prop :=
  ∀ r, Ends (Reader.pass file) s r → r.2 = s.sections

section Step

variable {file : List UInt8} {S : Nat} {s : Reader} {front rest : List UInt8}

/-- A search gets to what it looks for, or nothing more is handed on. -/
theorem AtSearch.reach (h : AtSearch file S (windowEnd file S) s)
    (hfile : file.drop S = front ++ s.next.find :: rest) (hfind : s.next.find ∉ front) :
    (Crosses S (S + front.length) →
        ∃ s', Heads (Reader.pass file) s s' ∧
          AtSearch file S (windowEnd file (S + front.length)) s' ∧ SameFound s s') ∧
      (¬ Crosses S (S + front.length) → Loses file s) := by
  have hlength := congrArg List.length hfile
  rw [List.length_drop, List.length_append, List.length_cons] at hlength
  constructor
  · intro hcrosses
    apply h.cross hfile hfind
    · unfold windowEnd
      omega
    · exact hcrosses.imp_left windowEnd_eq
  · intro hnot r hr
    obtain ⟨hblock, hpage⟩ := not_or.mp hnot
    have hbehind : windowEnd file S ≤ S + front.length := by
      unfold windowEnd
      omega
    rw [(h.lost hfile hfind hbehind hpage r).mp hr]

end Step

end AwHal.Pq
