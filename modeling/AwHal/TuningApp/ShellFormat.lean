import AwHal.Lib.ByteMemory
import AwHal.Lib.Loop

/-!
# Colours taken out of the output of scripts

`shell_format` of `server_core.c`: it copies a string without its colour codes to a buffer of 1024 bytes
on the stack and from there back to where it was.
-/

namespace AwHal.TuningApp.ShellFormat

open AwHal.Lib

def ESC : UInt8 := 27
def BRACKET : UInt8 := 91
def LETTER_M : UInt8 := 109

/-- Where the function is, what it has written to `tmp_buf`, and the addresses that it has read. -/
structure Cursor where
  src_ptr : Nat
  -- in the inner loop
  skipping : Bool := false
  tmp_buf : List UInt8 := []
  read : List Nat := []
deriving DecidableEq, Repr

/-- A pass of the inner loop, or of the outer one up to the inner one. -/
def pass (buffer : Memory) (c : Cursor) : Except Empty (Next Cursor Cursor) :=
  let b := buffer c.src_ptr
  if c.skipping then
    .ok (.again { c with
      src_ptr := c.src_ptr + 1
      skipping := b ≠ LETTER_M
      read := c.read ++ [c.src_ptr] })
  else if b = 0 then .ok (.done { c with read := c.read ++ [c.src_ptr] })
  else
    -- what follows is read only behind an escape
    let c := { c with read := c.read ++ if b = ESC then [c.src_ptr, c.src_ptr + 1] else [c.src_ptr] }
    if b = ESC ∧ buffer (c.src_ptr + 1) = BRACKET then .ok (.again { c with skipping := true })
    else .ok (.again { c with src_ptr := c.src_ptr + 1, tmp_buf := c.tmp_buf ++ [b] })

/-- The length that is returned, the buffer after the copy back, and the cursor at the end. -/
structure Formatted where
  length : Nat
  buffer : Memory
  cursor : Cursor

def shell_format (buffer : Memory) (fuel : Nat) : Option Formatted :=
  match loop (pass buffer) fuel { src_ptr := 0 } with
  | .ok (some c) => some ⟨c.tmp_buf.length, buffer.store 0 (c.tmp_buf ++ [0]), c⟩
  | _ => none

/-! ## What it is for -/

def behind (text : List UInt8) : List UInt8 := (text.dropWhile (· ≠ LETTER_M)).tail

theorem length_behind_le (text : List UInt8) : (behind text).length ≤ text.length := by
  rw [behind, List.length_tail]
  have hle := (List.dropWhile_sublist (p := (· ≠ LETTER_M)) (l := text)).length_le
  omega

/-- The text without the sequences from an escape and a bracket to the next `m`. -/
def strip : List UInt8 → List UInt8
  | [] => []
  | b :: rest =>
      if b = ESC ∧ rest.head? = some BRACKET ∧ LETTER_M ∈ rest then strip (behind rest)
      else b :: strip rest
termination_by text => text.length
decreasing_by
  · exact Nat.lt_succ_of_le (length_behind_le rest)
  · exact Nat.lt_succ_self _

/-- Behind every escape with a bracket there is an `m`. -/
def Closed : List UInt8 → Prop
  | [] => True
  | b :: rest => (b = ESC ∧ rest.head? = some BRACKET → LETTER_M ∈ rest) ∧ Closed rest

/-- The bytes from `addr` on are the text, which has no 0 in it, and a 0. -/
def HasString (m : Memory) : Nat → List UInt8 → Prop
  | addr, [] => m addr = 0
  | addr, b :: rest => b ≠ 0 ∧ m addr = b ∧ HasString m (addr + 1) rest

/-- The call comes to an end, has read nothing behind the terminator and written at most 1024 bytes to
`tmp_buf`, and leaves the stripped text with its length. -/
def Formats (text : List UInt8) (buffer : Memory) : Prop :=
  ∃ fuel r, shell_format buffer fuel = some r ∧
    (∀ i ∈ r.cursor.read, i ≤ text.length) ∧ (r.cursor.tmp_buf ++ [0]).length ≤ 1024 ∧
    r.length = (strip text).length ∧ r.buffer.load 0 (r.length + 1) = strip text ++ [0]

/-! ## Texts -/

theorem behind_cons_of_ne {b : UInt8} (h : b ≠ LETTER_M) (rest : List UInt8) :
    behind (b :: rest) = behind rest := by
  simp [behind, h]

theorem behind_cons_self (rest : List UInt8) : behind (LETTER_M :: rest) = rest := by
  simp [behind]

theorem Closed.behind {text : List UInt8} (h : Closed text) : Closed (behind text) := by
  induction text with
  | nil => exact trivial
  | cons b rest ih =>
      by_cases hb : b = LETTER_M
      · rw [hb, behind_cons_self]
        exact h.2
      · rw [behind_cons_of_ne hb]
        exact ih h.2

/-- A sequence that has no end is behind every `m`. -/
theorem not_closed_behind {text : List UInt8} (hm : LETTER_M ∈ text) (h : ¬ Closed text) :
    ¬ Closed (behind text) := by
  induction text with
  | nil => cases hm
  | cons b rest ih =>
      by_cases hb : b = LETTER_M
      · rw [hb, behind_cons_self]
        intro hrest
        refine h ⟨fun hin => ?_, hrest⟩
        rw [hb] at hin
        exact absurd hin.1 (by decide)
      · rw [behind_cons_of_ne hb]
        have hrest := (List.mem_cons.mp hm).resolve_left (Ne.symm hb)
        exact ih hrest fun hclosed => h ⟨fun _ => hrest, hclosed⟩

theorem length_strip_le (text : List UInt8) : (strip text).length ≤ text.length := by
  induction text using strip.induct with
  | case1 => simp [strip]
  | case2 b rest hsequence ih =>
      rw [strip, if_pos hsequence]
      have hle := length_behind_le rest
      rw [List.length_cons]
      omega
  | case3 b rest hkeep ih =>
      rw [strip, if_neg hkeep, List.length_cons, List.length_cons]
      omega

/-! ## Passes -/

/-- The rest of the string, which ends at `stop`, is the text. -/
structure At (buffer : Memory) (stop : Nat) (c : Cursor) (text : List UInt8) : Prop where
  string : HasString buffer c.src_ptr text
  ends : c.src_ptr + text.length = stop

def lookedAt (buffer : Memory) (src_ptr : Nat) : List Nat :=
  if buffer src_ptr = ESC then [src_ptr, src_ptr + 1] else [src_ptr]

def Cursor.scan (c : Cursor) (buffer : Memory) : Cursor :=
  { c with
    src_ptr := c.src_ptr + 1
    skipping := buffer c.src_ptr ≠ LETTER_M
    read := c.read ++ [c.src_ptr] }

def Cursor.enter (c : Cursor) (buffer : Memory) : Cursor :=
  { c with skipping := true, read := c.read ++ lookedAt buffer c.src_ptr }

def Cursor.copy (c : Cursor) (buffer : Memory) : Cursor :=
  { c with
    src_ptr := c.src_ptr + 1
    tmp_buf := c.tmp_buf ++ [buffer c.src_ptr]
    read := c.read ++ lookedAt buffer c.src_ptr }

theorem pass_skipping (buffer : Memory) {c : Cursor} (h : c.skipping = true) :
    pass buffer c = .ok (.again (c.scan buffer)) := by
  simp [pass, h, Cursor.scan]

theorem pass_terminator {buffer : Memory} {c : Cursor} (h : c.skipping = false)
    (hzero : buffer c.src_ptr = 0) :
    pass buffer c = .ok (.done { c with read := c.read ++ [c.src_ptr] }) := by
  simp [pass, h, hzero]

theorem pass_sequence {buffer : Memory} {c : Cursor} (h : c.skipping = false)
    (hesc : buffer c.src_ptr = ESC) (hbracket : buffer (c.src_ptr + 1) = BRACKET) :
    pass buffer c = .ok (.again (c.enter buffer)) := by
  have hzero : ESC ≠ 0 := by decide
  simp [pass, Cursor.enter, lookedAt, h, hesc, hbracket, hzero]

theorem pass_copy {buffer : Memory} {c : Cursor} (h : c.skipping = false)
    (hzero : buffer c.src_ptr ≠ 0)
    (hkeep : ¬ (buffer c.src_ptr = ESC ∧ buffer (c.src_ptr + 1) = BRACKET)) :
    pass buffer c = .ok (.again (c.copy buffer)) := by
  simp only [pass, h, Bool.false_eq_true, if_false, if_neg hzero, if_neg hkeep, Cursor.copy, lookedAt]

theorem pass_cases (buffer : Memory) (c : Cursor) :
    pass buffer c = .ok (.again (c.scan buffer)) ∨
      pass buffer c = .ok (.done { c with read := c.read ++ [c.src_ptr] }) ∨
      pass buffer c = .ok (.again (c.enter buffer)) ∨
      pass buffer c = .ok (.again (c.copy buffer)) := by
  by_cases hskipping : c.skipping = true
  · exact .inl (pass_skipping buffer hskipping)
  · rw [Bool.not_eq_true] at hskipping
    by_cases hzero : buffer c.src_ptr = 0
    · exact .inr (.inl (pass_terminator hskipping hzero))
    · by_cases hopens : buffer c.src_ptr = ESC ∧ buffer (c.src_ptr + 1) = BRACKET
      · exact .inr (.inr (.inl (pass_sequence hskipping hopens.1 hopens.2)))
      · exact .inr (.inr (.inr (pass_copy hskipping hzero hopens)))

namespace At

variable {buffer : Memory} {stop : Nat} {c : Cursor} {b : UInt8} {rest text : List UInt8}

theorem terminator (h : At buffer stop c []) : buffer c.src_ptr = 0 ∧ c.src_ptr = stop :=
  ⟨h.string, h.ends⟩

theorem head (h : At buffer stop c (b :: rest)) : buffer c.src_ptr = b :=
  h.string.2.1

theorem head_ne_zero (h : At buffer stop c (b :: rest)) : buffer c.src_ptr ≠ 0 := by
  rw [h.head]
  exact h.string.1

theorem tail (h : At buffer stop c (b :: rest)) {d : Cursor} (hd : d.src_ptr = c.src_ptr + 1) :
    At buffer stop d rest := by
  have hends := h.ends
  rw [List.length_cons] at hends
  exact ⟨hd ▸ h.string.2.2, by omega⟩

theorem congr (h : At buffer stop c text) {d : Cursor} (hd : d.src_ptr = c.src_ptr) :
    At buffer stop d text :=
  ⟨hd ▸ h.string, hd ▸ h.ends⟩

theorem src_ptr_lt (h : At buffer stop c (b :: rest)) : c.src_ptr < stop := by
  have hends := h.ends
  rw [List.length_cons] at hends
  omega

/-- The byte behind the first one is in the string or its terminator. -/
theorem next_eq_bracket_iff (h : At buffer stop c (b :: rest)) :
    buffer (c.src_ptr + 1) = BRACKET ↔ rest.head? = some BRACKET := by
  have hrest := h.string.2.2
  cases rest with
  | nil =>
      rw [show buffer (c.src_ptr + 1) = 0 from hrest]
      decide
  | cons b' rest =>
      rw [hrest.2.1, List.head?_cons, Option.some_inj]

/-- The test of the outer loop, on the text. -/
theorem opens_iff (h : At buffer stop c (b :: rest)) :
    buffer c.src_ptr = ESC ∧ buffer (c.src_ptr + 1) = BRACKET ↔
      b = ESC ∧ rest.head? = some BRACKET := by
  rw [h.head, h.next_eq_bracket_iff]

theorem lookedAt_le (h : At buffer stop c (b :: rest)) : ∀ i ∈ lookedAt buffer c.src_ptr, i ≤ stop := by
  have hlt := h.src_ptr_lt
  intro i hi
  unfold lookedAt at hi
  split at hi <;> simp at hi <;> omega

end At

/-! ## Strings with every sequence closed -/

section Closed

variable {buffer : Memory} {stop : Nat}

def Within (stop : Nat) (c : Cursor) : Prop := ∀ i ∈ c.read, i ≤ stop

theorem Within.append {c : Cursor} (h : Within stop c) {more : List Nat} (hmore : ∀ i ∈ more, i ≤ stop)
    {d : Cursor} (hd : d.read = c.read ++ more) : Within stop d := by
  intro i hi
  rw [hd, List.mem_append] at hi
  exact hi.elim (h i) (hmore i)

theorem heads_skipping {text : List UInt8} (hm : LETTER_M ∈ text) {c : Cursor}
    (h : At buffer stop c text) (hskipping : c.skipping = true) (hread : Within stop c) :
    ∃ d, Heads (pass buffer) c d ∧ At buffer stop d (behind text) ∧ d.skipping = false ∧
      Within stop d ∧ d.tmp_buf = c.tmp_buf := by
  induction text generalizing c with
  | nil => cases hm
  | cons b rest ih =>
      have hpass := pass_skipping buffer hskipping
      have hlt := h.src_ptr_lt
      have hone : ∀ i ∈ [c.src_ptr], i ≤ stop := by
        intro i hi
        rw [List.mem_singleton.mp hi]
        exact hlt.le
      have hscan : Within stop (c.scan buffer) := hread.append hone rfl
      by_cases hb : b = LETTER_M
      · refine ⟨c.scan buffer, .single hpass, ?_, ?_, hscan, rfl⟩
        · rw [hb, behind_cons_self]
          exact h.tail rfl
        · simp [Cursor.scan, h.head, hb]
      · have hrest := (List.mem_cons.mp hm).resolve_left (Ne.symm hb)
        obtain ⟨d, hheads, hd, hout, hwithin, htmp⟩ :=
          ih hrest (h.tail rfl) (by simp [Cursor.scan, h.head, hb]) hscan
        rw [behind_cons_of_ne hb]
        exact ⟨d, .head hpass hheads, hd, hout, hwithin, htmp⟩

theorem heads_strip {text : List UInt8} (hclosed : Closed text) {c : Cursor}
    (h : At buffer stop c text) (hout : c.skipping = false) (hread : Within stop c) :
    ∃ d r, Heads (pass buffer) c d ∧ pass buffer d = .ok (.done r) ∧ Within stop r ∧
      r.tmp_buf = c.tmp_buf ++ strip text := by
  induction text using strip.induct generalizing c with
  | case1 =>
      obtain ⟨hzero, hstop⟩ := h.terminator
      refine ⟨c, _, .refl, pass_terminator hout hzero, ?_, ?_⟩
      · have hone : ∀ i ∈ [c.src_ptr], i ≤ stop := by simp [hstop]
        exact hread.append hone rfl
      · rw [strip, List.append_nil]
  | case2 b rest hsequence ih =>
      obtain ⟨hb, hbracket, hm⟩ := hsequence
      have hopens := h.opens_iff.mpr ⟨hb, hbracket⟩
      have hpass := pass_sequence hout hopens.1 hopens.2
      have hmem : LETTER_M ∈ b :: rest := List.mem_cons_of_mem b hm
      have hne : b ≠ LETTER_M := by
        rw [hb]
        decide
      have henter : Within stop (c.enter buffer) := hread.append h.lookedAt_le rfl
      obtain ⟨d, hskip, hd, hdout, hdread, hdtmp⟩ :=
        heads_skipping (c := c.enter buffer) hmem (h.congr rfl) rfl henter
      rw [behind_cons_of_ne hne] at hd
      obtain ⟨last, r, hheads, hdone, hwithin, htmp⟩ := ih hclosed.2.behind hd hdout hdread
      have hall : Heads (pass buffer) c last := .head hpass (hskip.trans hheads)
      refine ⟨last, r, hall, hdone, hwithin, ?_⟩
      rw [strip, if_pos ⟨hb, hbracket, hm⟩, htmp, hdtmp]
      rfl
  | case3 b rest hkeep ih =>
      -- a sequence that opens here would be closed
      have hopens : ¬ (buffer c.src_ptr = ESC ∧ buffer (c.src_ptr + 1) = BRACKET) := by
        rw [h.opens_iff]
        intro hboth
        exact hkeep ⟨hboth.1, hboth.2, hclosed.1 hboth⟩
      have hpass := pass_copy hout h.head_ne_zero hopens
      have hcopy : Within stop (c.copy buffer) := hread.append h.lookedAt_le rfl
      obtain ⟨last, r, hheads, hdone, hwithin, htmp⟩ :=
        ih (c := c.copy buffer) hclosed.2 (h.tail rfl) hout hcopy
      refine ⟨last, r, .head hpass hheads, hdone, hwithin, ?_⟩
      rw [strip, if_neg hkeep, htmp, Cursor.copy, h.head, List.append_assoc]
      rfl

end Closed

/-! ## Strings that end in the middle of a sequence -/

/-- The terminator is passed, or will be. -/
inductive Runaway (buffer : Memory) (stop : Nat) (c : Cursor) : Prop where
  | outside (text : List UInt8) (at_ : At buffer stop c text) (hout : c.skipping = false)
      (hopen : ¬ Closed text)
  | inside (text : List UInt8) (at_ : At buffer stop c text) (hskipping : c.skipping = true)
      (hopen : LETTER_M ∈ text → ¬ Closed (behind text))
  | beyond (hskipping : c.skipping = true) (hptr : c.src_ptr = stop + 1)
  | passed (hread : stop + 1 ∈ c.read)

/-- A pass of a run that goes too far does not end it, unless the damage is done. -/
theorem Runaway.step {buffer : Memory} {stop : Nat} {c : Cursor} (h : Runaway buffer stop c) :
    (∃ d, pass buffer c = .ok (.again d) ∧ Runaway buffer stop d) ∨ stop + 1 ∈ c.read := by
  cases h with
  | outside text hat hout hopen =>
      left
      cases text with
      | nil => exact absurd trivial hopen
      | cons b rest =>
          by_cases hopens : buffer c.src_ptr = ESC ∧ buffer (c.src_ptr + 1) = BRACKET
          · refine ⟨_, pass_sequence hout hopens.1 hopens.2, .inside (b :: rest) (hat.congr rfl) rfl ?_⟩
            exact fun hm => not_closed_behind hm hopen
          · refine ⟨_, pass_copy hout hat.head_ne_zero hopens, .outside rest (hat.tail rfl) hout ?_⟩
            rw [hat.opens_iff] at hopens
            exact fun hrest => hopen ⟨fun hboth => absurd hboth hopens, hrest⟩
  | inside text hat hskipping hopen =>
      left
      refine ⟨_, pass_skipping buffer hskipping, ?_⟩
      cases text with
      | nil =>
          -- the terminator is no `m`
          obtain ⟨hzero, hstop⟩ := hat.terminator
          have hne : 0 ≠ LETTER_M := by decide
          refine .beyond ?_ (congrArg (· + 1) hstop)
          simp [Cursor.scan, hzero, hne]
      | cons b rest =>
          by_cases hb : b = LETTER_M
          · refine .outside rest (hat.tail rfl) ?_ ?_
            · simp [Cursor.scan, hat.head, hb]
            · have hrest := hopen (hb ▸ List.mem_cons_self)
              rwa [hb, behind_cons_self] at hrest
          · refine .inside rest (hat.tail rfl) ?_ ?_
            · simp [Cursor.scan, hat.head, hb]
            · intro hm
              have hrest := hopen (List.mem_cons_of_mem b hm)
              rwa [behind_cons_of_ne hb] at hrest
  | beyond hskipping hptr =>
      left
      refine ⟨_, pass_skipping buffer hskipping, .passed ?_⟩
      rw [Cursor.scan, hptr]
      exact List.mem_concat_self
  | passed hread => exact .inr hread

theorem read_subset {buffer : Memory} {c d : Cursor}
    (h : pass buffer c = .ok (.again d) ∨ pass buffer c = .ok (.done d)) : c.read ⊆ d.read := by
  rcases pass_cases buffer c with hpass | hpass | hpass | hpass <;> rw [hpass] at h <;>
    obtain h | h := h <;> cases h <;> exact List.subset_append_left _ _

/-- A run that ends has gone beyond the terminator. -/
theorem Runaway.heads {buffer : Memory} {stop : Nat} {c d r : Cursor} (h : Runaway buffer stop c)
    (hheads : Heads (pass buffer) c d) (hdone : pass buffer d = .ok (.done r)) :
    stop + 1 ∈ r.read := by
  have hstep : ∀ s s', Runaway buffer stop s → pass buffer s = .ok (.again s') →
      Runaway buffer stop s' := by
    intro s s' hs hpass
    obtain ⟨t, ht, hrun⟩ | hread := hs.step
    · rw [ht] at hpass
      cases hpass
      exact hrun
    · exact .passed (read_subset (.inl hpass) hread)
  obtain ⟨t, ht, -⟩ | hread := (hheads.invariant hstep h).step
  · rw [ht] at hdone
    cases hdone
  · exact read_subset (.inr hdone) hread

/-! ## The claim of the function -/

theorem shell_format_eq_some {buffer : Memory} {fuel : Nat} {r : Formatted}
    (h : shell_format buffer fuel = some r) :
    loop (pass buffer) fuel { src_ptr := 0 } = .ok (some r.cursor) := by
  unfold shell_format at h
  split at h
  · rename_i c hloop
    cases h
    exact hloop
  · cases h

/-- **The colours are taken out of the strings in which every sequence is closed, and of no others.** -/
theorem formats_iff {text : List UInt8} {buffer : Memory} (hstring : HasString buffer 0 text)
    (hlength : text.length ≤ 1023) : Formats text buffer ↔ Closed text := by
  have hat : At buffer text.length { src_ptr := 0 } text := ⟨hstring, Nat.zero_add _⟩
  constructor
  · rintro ⟨fuel, r, hr, hread, -⟩
    by_contra hopen
    obtain ⟨d, hheads, hdone⟩ := loop_done (shell_format_eq_some hr)
    have hbeyond := (Runaway.outside text hat rfl hopen).heads hheads hdone
    exact absurd (hread _ hbeyond) (by omega)
  · intro hclosed
    have hnone : Within text.length { src_ptr := 0 } := by
      intro i hi
      cases hi
    obtain ⟨d, r, hheads, hdone, hread, htmp⟩ := heads_strip hclosed hat rfl hnone
    obtain ⟨fuel, hfuel⟩ := hheads.loop_eq hdone
    have hr : shell_format buffer fuel = some ⟨r.tmp_buf.length, buffer.store 0 (r.tmp_buf ++ [0]), r⟩ := by
      rw [shell_format, hfuel]
    have htmp' : r.tmp_buf = strip text := htmp
    have hle := length_strip_le text
    refine ⟨fuel, _, hr, hread, ?_, congrArg List.length htmp', ?_⟩
    · show (r.tmp_buf ++ [0]).length ≤ 1024
      rw [htmp', List.length_append, List.length_singleton]
      omega
    · show (buffer.store 0 (r.tmp_buf ++ [0])).load 0 (r.tmp_buf.length + 1) = strip text ++ [0]
      rw [← htmp']
      have hload := Memory.load_store buffer 0 (r.tmp_buf ++ [0])
      rwa [List.length_append, List.length_singleton] at hload

/-- `ESC [ 0 m` in front of a letter goes. -/
theorem formats_letter :
    Formats [27, 91, 48, 109, 65] (Memory.zero.store 0 [27, 91, 48, 109, 65]) := by
  have hstring : HasString (Memory.zero.store 0 [27, 91, 48, 109, 65]) 0 [27, 91, 48, 109, 65] := by
    simp [HasString, Memory.store, Memory.zero]
  refine (formats_iff hstring (by decide)).mpr ?_
  simp [Closed, LETTER_M, ESC, BRACKET]

/-- A string that ends in `ESC [ 1` takes the function behind the terminator. -/
theorem not_formats :
    ¬ ∀ (text : List UInt8) (buffer : Memory), HasString buffer 0 text → text.length ≤ 1023 →
      Formats text buffer := by
  intro h
  have hstring : HasString (Memory.zero.store 0 [27, 91, 49]) 0 [27, 91, 49] := by
    simp [HasString, Memory.store, Memory.zero]
  obtain ⟨fuel, r, hr, hread, -⟩ := h _ _ hstring (by decide)
  obtain ⟨d, hheads, hdone⟩ := loop_done (shell_format_eq_some hr)
  have hopen : ¬ Closed [27, 91, 49] := by simp [Closed, LETTER_M, ESC, BRACKET]
  have hbeyond := (Runaway.outside _ ⟨hstring, rfl⟩ rfl hopen).heads hheads hdone
  exact absurd (hread _ hbeyond) (by decide)

end AwHal.TuningApp.ShellFormat
