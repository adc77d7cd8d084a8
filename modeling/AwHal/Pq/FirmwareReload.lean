import Mathlib.Tactic.IntervalCases
import AwHal.Pq.Firmware

/-!
# Saving settings and reading them back

The loops of `updata_firm_spec` never come to the next value: they write the first one until the
buffer is full and fail.  So no save changes the firmware data file.
-/

namespace AwHal.Pq

open AwHal.Lib

/-! ## No text is made -/

/-- `data_to_firm` fails or moves on inside the buffer. -/
theorem data_to_firm_next (firm : Memory) (length next value : Int) :
    ∃ firm', (data_to_firm (some firm) length next value).1 = some firm' ∧
      ((data_to_firm (some firm) length next value).2 = next ∨
        next < (data_to_firm (some firm) length next value).2 ∧
          (data_to_firm (some firm) length next value).2 ≤ length) := by
  simp only [data_to_firm]
  by_cases hfull : length ≤ next
  · rw [if_pos hfull]
    exact ⟨firm, rfl, Or.inl rfl⟩
  · rw [if_neg hfull]
    -- an opening brace comes first, at index 0
    generalize hstart : (if next = 0 then next + 1 else next) = start
    have hle : next ≤ start := by
      rw [← hstart]
      split <;> omega
    split
    · exact ⟨_, rfl, Or.inl rfl⟩
    · rename_i hroom
      refine ⟨_, rfl, Or.inr ?_⟩
      dsimp only
      omega

/-- The loop is at its first value, and without a buffer at its first pass. -/
def AtFirstValue : Nat × Option Memory × Int → Prop
  | (i, buf, next) => i = 0 ∧ 0 ≤ next ∧ (buf = none → next = 0)

theorem updataPass_cases (data : SaveData) {count : Nat} (hcount : 0 < count) (length : Int)
    {s : Nat × Option Memory × Int} (hs : AtFirstValue s) :
    (∃ buf, updataPass data count length s = .ok (.done (buf, -1))) ∨
      ∃ s', updataPass data count length s = .ok (.again s') ∧ AtFirstValue s' ∧
        (length - s'.2.2).toNat < (length - s.2.2).toNat := by
  obtain ⟨i, buf, next⟩ := s
  obtain ⟨rfl, hnext, hnone⟩ := hs
  simp only [updataPass, if_pos hcount]
  cases buf with
  | none =>
      rw [hnone rfl]
      exact Or.inl ⟨none, rfl⟩
  | some firm =>
      obtain ⟨firm', hfirm, hcases⟩ :=
        data_to_firm_next firm length next ((data.values.getD 0 0).toNat : Int)
      split
      · exact Or.inl ⟨_, rfl⟩
      · rename_i hmoved
        have hlt := hcases.resolve_left (Ne.symm hmoved)
        refine Or.inr ⟨_, rfl, ⟨rfl, by omega, ?_⟩, by dsimp only; omega⟩
        intro hempty
        rw [hfirm] at hempty
        cases hempty

theorem updata_loop_fails (data : SaveData) {count : Nat} (hcount : 0 < count) (buf : Option Memory)
    (length : Int) :
    ∃ buf', loop (updataPass data count length) (length.toNat + 1) (0, buf, 0) =
      .ok (some (buf', -1)) := by
  have hstart : AtFirstValue (0, buf, 0) := ⟨rfl, Int.le_refl 0, fun _ => rfl⟩
  have hterminates : ∃ r, loop (updataPass data count length) (length.toNat + 1) (0, buf, 0) =
      .ok (some r) := by
    apply loop_terminates (I := AtFirstValue) (fun s => (length - s.2.2).toNat) ?_ hstart
    · dsimp only
      omega
    · intro s hs
      rcases updataPass_cases data hcount length hs with ⟨buf', hdone⟩ | hagain
      · exact Or.inl ⟨_, hdone⟩
      · exact Or.inr hagain
  obtain ⟨r, hr⟩ := hterminates
  obtain ⟨last, hheads, hlast⟩ := loop_done hr
  have hinv : AtFirstValue last := hheads.invariant (I := AtFirstValue) (fun s s' hs hagain => by
    rcases updataPass_cases data hcount length hs with ⟨buf', hdone⟩ | ⟨s'', hnext, hs'', -⟩
    · rw [hdone] at hagain
      cases hagain
    · rw [hnext] at hagain
      cases hagain
      exact hs'') hstart
  rcases updataPass_cases data hcount length hinv with ⟨buf', hdone⟩ | ⟨s', hnext, -⟩
  · rw [hdone] at hlast
    cases hlast
    exact ⟨buf', hr⟩
  · rw [hnext] at hlast
    cases hlast

/-- A gamma table or peaking settings never become a text. -/
theorem updata_firm_generic_fails (data : SaveData) (hid : data.id = 11 ∨ data.id = 12)
    (mallocs : Bool) :
    ∃ passes, updata_firm_generic passes mallocs data = .ok (some (none, -1)) ∧
      ∀ fuel, updata_firm_generic fuel mallocs data = .ok none ∨
        updata_firm_generic fuel mallocs data = .ok (some (none, -1)) := by
  have hgeneric : ¬ (1 ≤ data.id ∧ data.id ≤ 5) := by omega
  simp only [updata_firm_generic, if_neg hgeneric]
  generalize (if mallocs then some Memory.zero else none) = buf
  generalize wrapInt (data.size * 4 + 10) = length
  have hspec : ∃ count, 0 < count ∧ ∀ fuel, updata_firm_spec fuel buf length data =
      loop (updataPass data count length) fuel (0, buf, 0) := by
    rcases hid with hid | hid
    · exact ⟨256 * 3, by decide, fun fuel => by simp [updata_firm_spec, hid]⟩
    · exact ⟨8, by decide, fun fuel => by simp [updata_firm_spec, hid]⟩
  obtain ⟨count, hcount, hspec⟩ := hspec
  obtain ⟨buf', hfails⟩ := updata_loop_fails data hcount buf length
  refine ⟨length.toNat + 1, ?_, ?_⟩
  · rw [hspec, hfails]
    rfl
  · intro fuel
    rw [hspec]
    rcases loop_eq_none_or hfails fuel with hnone | hsome
    · rw [hnone]
      exact Or.inl rfl
    · rw [hsome]
      exact Or.inr rfl

structure Save where
  data : SaveData
  de : Int
  mallocs : Bool
  id_mem : data.id = 11 ∨ data.id = 12
  de_range : 0 ≤ de ∧ de ≤ 9
  values_length : data.values.length = if data.id = 11 then 256 * 3 else 8

def saveAll (fuel : Nat) : List Save → List UInt8 → Except Fault (Option (List UInt8))
  | [], file => .ok (some file)
  | save :: saves, file =>
      match save_cfg_firmware fuel save.mallocs save.de save.data file with
      | .error e => .error e
      | .ok none => .ok none
      | .ok (some file) => saveAll fuel saves file

theorem save_cfg_firmware_keeps (save : Save) (file : List UInt8) (fuel : Nat) :
    save_cfg_firmware fuel save.mallocs save.de save.data file = .ok none ∨
      save_cfg_firmware fuel save.mallocs save.de save.data file = .ok (some file) := by
  obtain ⟨-, -, hall⟩ := updata_firm_generic_fails save.data save.id_mem save.mallocs
  unfold save_cfg_firmware
  rcases hall fuel with hnone | hsome
  · rw [hnone]
    exact Or.inl rfl
  · rw [hsome]
    exact Or.inr rfl

/-- No sequence of saves changes the file. -/
theorem saveAll_keeps (saves : List Save) (file : List UInt8) (fuel : Nat) :
    saveAll fuel saves file = .ok none ∨ saveAll fuel saves file = .ok (some file) := by
  induction saves with
  | nil => exact Or.inr rfl
  | cons save saves ih =>
      unfold saveAll
      rcases save_cfg_firmware_keeps save file fuel with hnone | hsome
      · rw [hnone]
        exact Or.inl rfl
      · rw [hsome]
        exact ih

/-! ## A file without sections -/

/-- How the line of the version ends; `PQ_translate_init` ends it with nothing. -/
inductive LineEnd where
  | none
  | cr
  | lf
  | crlf
deriving DecidableEq, Repr

def LineEnd.bytes : LineEnd → List UInt8
  | .none => []
  | .cr => [13]
  | .lf => [10]
  | .crlf => [13, 10]

def headerFile (de_version : Int) (lineEnd : LineEnd) : List UInt8 :=
  ['#'.toUInt8, 'D'.toUInt8, 'E'.toUInt8] ++ decimalText de_version ++ lineEnd.bytes

theorem decimalDigits_range (room : Nat) (value : Int) :
    ∀ d ∈ decimalDigits room value, -9 ≤ d ∧ d ≤ 9 := by
  induction room generalizing value with
  | zero => simp [decimalDigits]
  | succ room ih =>
      intro d hd
      unfold decimalDigits at hd
      split at hd
      · simp at hd
      · rcases List.mem_cons.mp hd with rfl | hd
        · have hlo := Int.lt_tmod_of_pos value (show (0 : Int) < 10 by decide)
          have hhi := Int.tmod_lt_of_pos value (show (0 : Int) < 10 by decide)
          omega
        · exact ih _ d hd

theorem length_decimalDigits_le (room : Nat) (value : Int) :
    (decimalDigits room value).length ≤ room := by
  induction room generalizing value with
  | zero => simp [decimalDigits]
  | succ room ih =>
      unfold decimalDigits
      split
      · simp
      · rw [List.length_cons]
        exact Nat.succ_le_succ (ih _)

theorem headerFile_length (de_version : Int) (lineEnd : LineEnd) :
    3 ≤ (headerFile de_version lineEnd).length ∧ (headerFile de_version lineEnd).length ≤ 25 := by
  have hdigits := length_decimalDigits_le 20 de_version
  have hend : lineEnd.bytes.length ≤ 2 := by cases lineEnd <;> decide
  simp only [headerFile, decimalText, List.length_append, List.length_map, List.length_reverse,
    List.length_cons, List.length_nil]
  omega

theorem headerFile_no_section (de_version : Int) (lineEnd : LineEnd) :
    Mark.beginFang.find ∉ headerFile de_version lineEnd := by
  intro hmem
  simp only [headerFile, List.mem_append] at hmem
  rcases hmem with (hmem | hmem) | hmem
  · revert hmem
    decide
  · simp only [decimalText, List.mem_map, List.mem_reverse] at hmem
    obtain ⟨d, hd, heq⟩ := hmem
    obtain ⟨hlo, hhi⟩ := decimalDigits_range 20 de_version d hd
    revert heq
    interval_cases d <;> decide
  · revert hmem
    cases lineEnd <;> decide

/-- The end of the mapping is reached. -/
theorem search_none {find : UInt8} {text : List UInt8} (hfind : find ∉ text) (hne : text ≠ [])
    (padding : List UInt8) {size : Int} {i : Nat} (hsize : size = i + text.length) :
    search find size (text ++ padding) i = .ok none := by
  induction text generalizing i with
  | nil => exact absurd rfl hne
  | cons c rest ih =>
      rw [List.mem_cons, not_or] at hfind
      rw [List.length_cons] at hsize
      rw [List.cons_append, search, if_neg (Ne.symm hfind.1)]
      split
      · rfl
      · refine ih hfind.2 ?_ (by omega)
        rintro rfl
        simp only [List.length_nil] at hsize
        omega

def mapped (file : List UInt8) : List UInt8 :=
  file ++ List.replicate ((4096 - file.length % 4096) % 4096) 0

theorem mapFile_whole {file : List UInt8} (hpos : 0 < file.length) (hlength : file.length ≤ 4096) :
    mapFile file 0 file.length = some (mapped file) := by
  have hpages : (mapped file).length ≤ (file.length + 4095) / 4096 * 4096 := by
    simp only [mapped, List.length_append, List.length_replicate]
    omega
  unfold mapFile
  rw [if_pos ⟨Int.le_refl 0, rfl, by omega⟩]
  exact congrArg some (List.take_of_length_le hpages)

theorem off_end_le_ALLIGN {size : Int} (hsize : 0 ≤ size) : size ≤ ALLIGN (size + 4096) 4096 := by
  unfold ALLIGN
  rw [Int.tdiv_eq_ediv_of_nonneg (by omega)]
  omega

/-- The states of `xchang_data` on its way through a short file without a section. -/
def Walks (file : List UInt8) (s : Writer) : Prop :=
  s.next = .beginFang ∧ s.file_off = 0 ∧ s.off_set = 0 ∧ s.find_size = 0 ∧
    match s.label with
    | .whileHead => True
    | .remap => s.size = file.length
    | .find_str => s.size = file.length ∧ s.i = 0 ∧ s.t_buff = mapped file

section NoSections

variable {file : List UInt8} (hfind : Mark.beginFang.find ∉ file) (hlo : 3 ≤ file.length)
  (hhi : file.length ≤ 4096)

include hfind hlo

theorem search_mapped : search Mark.beginFang.find file.length (mapped file) 0 = .ok none := by
  refine search_none hfind ?_ _ (by omega)
  rintro rfl
  simp at hlo

include hhi

/-- `download_firmware` maps the file, does not find a section, maps it once more and is done. -/
theorem reader_no_sections : loop (Reader.pass file) 4 {} = .ok (some (0, [])) := by
  have hle := off_end_le_ALLIGN (Int.natCast_nonneg file.length)
  have hmap := mapFile_whole (by omega) hhi
  have hsearch := search_mapped hfind hlo
  have hhead : Reader.pass file {} = .ok (.again
      { label := .remap, id := -1, size := file.length }) := by
    simp only [Reader.pass]
    rw [if_pos (by omega), if_neg (by omega)]
    simp
  have hremap : Reader.pass file { label := .remap, id := -1, size := file.length } = .ok (.again
      { label := .find_str, id := -1, size := file.length, go_end := 1, t_buff := mapped file }) := by
    simp [Reader.pass, hle, hmap]
  have hfind_str : Reader.pass file
      { label := .find_str, id := -1, size := file.length, go_end := 1, t_buff := mapped file } =
      .ok (.again
      { label := .remap, id := -1, size := file.length, go_end := 1, t_buff := mapped file }) := by
    simp [Reader.pass, hsearch]
  have hend : Reader.pass file
      { label := .remap, id := -1, size := file.length, go_end := 1, t_buff := mapped file } =
      .ok (.done (0, [])) := by
    simp [Reader.pass, hle]
  rw [loop_succ, hhead]
  dsimp only
  rw [loop_succ, hremap]
  dsimp only
  rw [loop_succ, hfind_str]
  dsimp only
  rw [loop_succ, hend]

/-- `xchang_data` has no such count: it maps a file without a section again and again. -/
theorem xchang_data_no_sections (fuel : Nat) (buff : List UInt8) (f_id de : Int) :
    xchang_data fuel file buff f_id de = .ok none := by
  have hle := off_end_le_ALLIGN (Int.natCast_nonneg file.length)
  have hmap := mapFile_whole (by omega) hhi
  have hsearch := search_mapped hfind hlo
  have hstep : ∀ s, Walks file s →
      ∃ s', Writer.pass file f_id de s = .ok (.again s') ∧ Walks file s' := by
    intro s hs
    obtain ⟨hnext, hfile_off, hoff_set, hfind_size, hlabel⟩ := hs
    cases hl : s.label with
    | whileHead =>
        refine ⟨{ s with
          label := .remap
          next := .beginFang
          de_need := 0
          off_set := 0
          size := file.length }, ?_, rfl, hfile_off, rfl, hfind_size, rfl⟩
        simp only [Writer.pass, hl, hfile_off, hfind_size]
        rw [if_pos ⟨by omega, trivial⟩, if_neg (by omega)]
        simp
    | remap =>
        rw [hl] at hlabel
        refine ⟨{ s with
          label := .find_str
          i := 0
          begin_id := 0
          file_off := 0
          size := file.length
          t_buff := mapped file }, ?_, hnext, rfl, hoff_set, hfind_size, rfl, rfl, rfl⟩
        simp [Writer.pass, hl, hfile_off, hoff_set, hlabel, hle, hmap]
    | find_str =>
        rw [hl] at hlabel
        obtain ⟨hsize, hi, ht_buff⟩ := hlabel
        refine ⟨{ s with label := .remap, off_set := 0 }, ?_, hnext, hfile_off, rfl, hfind_size,
          hsize⟩
        simp [Writer.pass, hl, hnext, hsize, hi, ht_buff, hsearch]
  have hforever := loop_forever hstep fuel (s := {}) ⟨rfl, rfl, rfl, rfl, trivial⟩
  rw [xchang_data, hforever]

end NoSections

/-! ## Reading back -/

/-- `download_firmware` returns for the file that holds only the version and programs nothing. -/
theorem download_firmware_header (de_version : Int) (lineEnd : LineEnd) (stack : List UInt8) :
    ∃ ret, download_firmware 4 de_version stack (headerFile de_version lineEnd) =
        .ok (some (ret, [])) ∧
      ∀ fuel, download_firmware fuel de_version stack (headerFile de_version lineEnd) = .ok none ∨
        download_firmware fuel de_version stack (headerFile de_version lineEnd) =
          .ok (some (ret, [])) := by
  have hlength := headerFile_length de_version lineEnd
  have hloop := reader_no_sections (headerFile_no_section de_version lineEnd) hlength.1
    (by omega)
  have hstrstr : ∃ rest, strstr ['#'.toUInt8, 'D'.toUInt8, 'E'.toUInt8]
      ((headerFile de_version lineEnd).take 20 ++
        stack.drop (min 20 (headerFile de_version lineEnd).length)) = some rest := by
    simp [headerFile, strstr]
  obtain ⟨rest, hrest⟩ := hstrstr
  have hne : headerFile de_version lineEnd ≠ [] := by simp [headerFile]
  simp only [download_firmware, if_neg hne, hrest]
  split
  · exact ⟨-1, rfl, fun _ => Or.inr rfl⟩
  · exact ⟨0, hloop, loop_eq_none_or hloop⟩

def lastSaved (saves : List Save) (id de : Int) : Option (List UInt8) :=
  (saves.reverse.find? fun save => save.data.id = id ∧ save.de = de).map fun save =>
    save.data.values

/-- Every setting that was saved is programmed, with the values of its last save, and nothing else
is. -/
def Reloads (saves : List Save) (sections : List FirmSection) : Prop :=
  (∀ s ∈ sections, ∃ values, lastSaved saves s.id s.de = some values ∧
      s.programmed = some values) ∧
    ∀ save ∈ saves, ∃ s ∈ sections, s.id = save.data.id ∧ s.de = save.de

/-- The saves and the `download_firmware` after them come to an end and agree. -/
def Agrees (de_version : Int) (lineEnd : LineEnd) (stack : List UInt8) (saves : List Save) : Prop :=
  ∃ fuel file ret sections,
    saveAll fuel saves (headerFile de_version lineEnd) = .ok (some file) ∧
      download_firmware fuel de_version stack file = .ok (some (ret, sections)) ∧
      Reloads saves sections

/-- After any sequence of saves nothing is programmed. -/
theorem programs_nothing {de_version : Int} {lineEnd : LineEnd} {stack : List UInt8}
    {saves : List Save} {fuel : Nat} {file : List UInt8} {ret : Int} {sections : List FirmSection}
    (hsave : saveAll fuel saves (headerFile de_version lineEnd) = .ok (some file))
    (hdownload : download_firmware fuel de_version stack file = .ok (some (ret, sections))) :
    sections = [] := by
  have hfile : file = headerFile de_version lineEnd := by
    rcases saveAll_keeps saves (headerFile de_version lineEnd) fuel with hnone | hsome
    · rw [hnone] at hsave
      cases hsave
    · rw [hsome] at hsave
      cases hsave
      rfl
  subst hfile
  obtain ⟨ret', -, hall⟩ := download_firmware_header de_version lineEnd stack
  rcases hall fuel with hnone | hsome
  · rw [hnone] at hdownload
    cases hdownload
  · rw [hsome] at hdownload
    cases hdownload
    rfl

theorem not_agrees_of_save {de_version : Int} {lineEnd : LineEnd} {stack : List UInt8}
    {saves : List Save} {save : Save} (hmem : save ∈ saves) :
    ¬ Agrees de_version lineEnd stack saves := by
  rintro ⟨fuel, file, ret, sections, hsave, hdownload, hreloads⟩
  rw [programs_nothing hsave hdownload] at hreloads
  obtain ⟨s, hs, -⟩ := hreloads.2 save hmem
  cases hs

/-- What is read back agrees with what was saved exactly when nothing was saved. -/
theorem save_reload_agrees_iff (de_version : Int) (lineEnd : LineEnd) (stack : List UInt8)
    (saves : List Save) : Agrees de_version lineEnd stack saves ↔ saves = [] := by
  constructor
  · intro hagrees
    cases saves with
    | nil => rfl
    | cons save saves => exact absurd hagrees (not_agrees_of_save (List.mem_cons_self ..))
  · rintro rfl
    obtain ⟨ret, hdownload, -⟩ := download_firmware_header de_version lineEnd stack
    refine ⟨4, _, ret, [], rfl, hdownload, ?_, ?_⟩
    · intro s hs
      cases hs
    · intro save hs
      cases hs

def peakingSave : Save where
  data := ⟨23, 12, [16, 16, 4, 8, 0, 8, 2, 0]⟩
  de := 0
  mallocs := true
  id_mem := Or.inr rfl
  de_range := by decide
  values_length := rfl

/-- One save of peaking settings: they are not programmed at the next start. -/
theorem save_reload_loses_peaking : ¬ Agrees 201 .none [] [peakingSave] :=
  not_agrees_of_save (List.mem_singleton.mpr rfl)

end AwHal.Pq
