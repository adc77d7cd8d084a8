import AwHal.Pq.FirmwareReload

/-!
# The windows of `download_firmware`

`download_firmware` looks at the firmware data file through a mapped window.  A search that comes to
the end of the window maps another one, which starts where the search started and can only be mapped
at the beginning of a page.
-/

namespace AwHal.Pq

open AwHal.Lib

/-! ## Searches -/

theorem search_found {find : UInt8} {front : List UInt8} (hfind : find ∉ front)
    (rest : List UInt8) {size : Int} {i : Nat} (hlt : (i : Int) + front.length < size) :
    search find size (front ++ find :: rest) i = .ok (some (i + front.length)) := by
  induction front generalizing i with
  | nil => simp [search]
  | cons c front ih =>
      rw [List.mem_cons, not_or] at hfind
      rw [List.length_cons] at hlt
      have hne : ¬ ((i + 1 : Nat) : Int) = size := by omega
      rw [List.cons_append, search, if_neg (Ne.symm hfind.1), if_neg hne,
        ih hfind.2 (by omega), List.length_cons, Nat.add_right_comm, Nat.add_assoc]

/-! ## Windows -/

theorem length_pages (n : Nat) : (n + 4095) / 4096 * 4096 = n + (4096 - n % 4096) % 4096 := by
  omega

/-- A window that ends with the file, or with a page. -/
theorem mapFile_eq {file : List UInt8} {F E : Nat} (haligned : F % 4096 = 0) (hlt : F < E)
    (hle : E ≤ file.length) (hstop : E = file.length ∨ E % 4096 = 0) :
    mapFile file F ((E : Int) - F) =
      some ((file.drop F).take (E - F) ++
        if E = file.length then List.replicate ((4096 - (E - F) % 4096) % 4096) 0 else []) := by
  have hsize : ((E : Int) - F).toNat = E - F := by omega
  unfold mapFile
  rw [if_pos ⟨by omega, by omega, by omega⟩, hsize, Int.toNat_natCast, length_pages]
  dsimp only
  by_cases hend : E = file.length
  · have hall : (file.drop F).length = E - F := by rw [List.length_drop, ← hend]
    rw [if_pos hend, hall, List.take_of_length_le (by simp [hall]),
      List.take_of_length_le (by omega)]
  · have hzero : (4096 - (E - F) % 4096) % 4096 = 0 := by omega
    have hwithin : E - F ≤ (file.drop F).length := by
      rw [List.length_drop]
      omega
    rw [if_neg hend, hzero, Nat.add_zero, List.append_nil, List.take_append_of_le_length hwithin]

theorem mapFile_unaligned {file : List UInt8} {F : Nat} (h : F % 4096 ≠ 0) (size : Int) :
    mapFile file F size = none := by
  unfold mapFile
  rw [if_neg]
  omega

theorem ALLIGN_eq {n : Nat} (h : n % 4096 = 0) : ALLIGN n 4096 = n + 4096 := by
  unfold ALLIGN
  rw [Int.tdiv_eq_ediv_of_nonneg (by omega)]
  omega

theorem lt_ALLIGN {x : Int} (h : 0 ≤ x) : x < ALLIGN x 4096 := by
  unfold ALLIGN
  rw [Int.tdiv_eq_ediv_of_nonneg (by omega)]
  omega

/-! ## A search in progress -/

/-- A search of the file at `S`, in a window that ends at `E`. -/
structure AtSearch (file : List UInt8) (S E : Nat) (s : Reader) : Prop where
  label : s.label = .find_str
  nonneg : 0 ≤ s.file_off
  aligned : s.file_off % 4096 = 0
  pos : s.file_off + s.i = S
  stop : s.file_off + s.size = E
  lt : S < E
  le : E ≤ file.length
  block : E = file.length ∨ E % 8192 = 0
  go_end : s.go_end = if E = file.length then 1 else 0
  mapping : mapFile file s.file_off s.size = some s.t_buff
  begins : s.next = .endDa → s.begin_id = s.i

variable {file : List UInt8} {S E : Nat} {s : Reader}

/-- What the search can see: the file up to the end of the window, with zeros behind its end. -/
theorem AtSearch.view (h : AtSearch file S E s) :
    ∃ zeros : List UInt8, s.t_buff.drop s.i = (file.drop S).take (E - S) ++ zeros ∧
      (E < file.length → zeros = []) ∧ ∀ c ∈ zeros, c = 0 := by
  obtain ⟨F, hF⟩ := Int.eq_ofNat_of_zero_le h.nonneg
  have hpos := h.pos
  have hstop := h.stop
  have haligned := h.aligned
  have hlt := h.lt
  have hle := h.le
  rw [hF] at hpos hstop haligned
  have hsize : s.size = (E : Int) - F := by omega
  have hmapping := h.mapping
  rw [hF, hsize, mapFile_eq (by omega) (by omega) h.le
    (h.block.imp_right fun hblock => by omega), Option.some.injEq] at hmapping
  rw [← hmapping]
  have htake : s.i ≤ ((file.drop F).take (E - F)).length := by
    rw [List.length_take, List.length_drop]
    omega
  have hdrop : ((file.drop F).take (E - F)).drop s.i = (file.drop S).take (E - S) := by
    have hF' : F + s.i = S := by omega
    have hE : E - F - s.i = E - S := by omega
    rw [List.drop_take, List.drop_drop, hF', hE]
  rw [List.drop_append_of_le_length htake, hdrop]
  refine ⟨_, rfl, ?_, ?_⟩
  · intro hlt
    exact if_neg hlt.ne
  · intro c hc
    split at hc
    · exact List.eq_of_mem_replicate hc
    · cases hc

/-! ## The next window -/

/-- A new window for the search at `S` is to be mapped; the last one ended at `E`. -/
structure AtRemap (file : List UInt8) (S E : Nat) (s : Reader) : Prop where
  label : s.label = .remap
  pos : s.file_off + s.off_set = S
  stop : s.file_off + s.size = E
  lt : S < E
  le : E ≤ file.length
  block : E = file.length ∨ E % 8192 = 0
  go_end : s.go_end = if E = file.length then 1 else 0

/-- The last window is mapped once. -/
theorem AtRemap.over (h : AtRemap file S file.length s) :
    Reader.pass file s = .ok (.done (0, s.sections)) := by
  have hpos := h.pos
  have hstop := h.stop
  have hlt := h.lt
  have hgo := h.go_end
  have halign := lt_ALLIGN (x := s.size - s.off_set + 4096) (by omega)
  have hend : (file.length : Int) ≤
      s.file_off + s.off_set + ALLIGN (s.size - s.off_set + 4096) 4096 := by omega
  rw [if_pos rfl] at hgo
  unfold Reader.pass
  rw [h.label]
  simp [hend, hgo]

/-- In front of the end of the file the next window has to start with a page. -/
theorem AtRemap.lost (h : AtRemap file S E s) (hlt : E < file.length) (hS : S % 4096 ≠ 0) :
    Reader.pass file s = .ok (.done (-1, s.sections)) := by
  have hgo := h.go_end
  rw [if_neg hlt.ne] at hgo
  unfold Reader.pass
  rw [h.label]
  dsimp only
  rw [h.pos, hgo]
  have hless : ∀ b : Bool, ¬ 2 ≤ (if b = true then 0 + 1 else 0) := by decide
  rw [if_neg (hless _), mapFile_unaligned hS]

/-- The states agree in what a search leaves alone. -/
structure SameFound (s s' : Reader) : Prop where
  next : s'.next = s.next
  id : s'.id = s.id
  de : s'.de = s.de
  sections : s'.sections = s.sections

theorem SameFound.refl (s : Reader) : SameFound s s := ⟨rfl, rfl, rfl, rfl⟩

theorem SameFound.trans {s s' s'' : Reader} (h : SameFound s s') (h' : SameFound s' s'') :
    SameFound s s'' :=
  ⟨h'.next.trans h.next, h'.id.trans h.id, h'.de.trans h.de, h'.sections.trans h.sections⟩

/-- A window from the beginning of a page on is mapped: it ends at the end of the file, or where its
size says. -/
theorem pass_remap (hlabel : s.label = .remap) (hpos : s.file_off + s.off_set = S)
    (hgo : s.go_end = 0) (hS : S % 4096 = 0) (hlt : S < E)
    (hend : E = file.length ∧ E ≤ S + ALLIGN (s.size - s.off_set + 4096) 4096 ∨
      E < file.length ∧ E % 8192 = 0 ∧ E = S + ALLIGN (s.size - s.off_set + 4096) 4096) :
    ∃ s', Reader.pass file s = .ok (.again s') ∧ AtSearch file S E s' ∧ SameFound s s' := by
  have hE : E ≤ file.length := by omega
  have hmap := mapFile_eq (F := S) (E := E) hS hlt hE (by omega)
  generalize (file.drop S).take (E - S) ++ _ = t_buff at hmap
  refine ⟨{ s with
    label := .find_str
    i := 0
    begin_id := 0
    file_off := S
    size := (E : Int) - S
    go_end := if E = file.length then 1 else 0
    t_buff := t_buff }, ?_, ?_, ⟨rfl, rfl, rfl, rfl⟩⟩
  · unfold Reader.pass
    rw [hlabel]
    dsimp only
    rw [hpos, hgo]
    rcases hend with ⟨heq, hreach⟩ | ⟨hless, -, hreach⟩
    · rw [heq] at hreach hmap
      simp only [hreach, decide_true, if_true, Nat.zero_add, hmap, heq]
      exact if_neg (by decide)
    · have hwidth : ALLIGN (s.size - s.off_set + 4096) 4096 = (E : Int) - S := by omega
      have hin : ¬ (file.length : Int) ≤ S + ((E : Int) - S) := by omega
      simp only [hwidth, hin, decide_false, Bool.false_eq_true, if_false, hmap, hless.ne]
      exact if_neg (by decide)
  · refine ⟨rfl, ?_, ?_, ?_, ?_, hlt, by omega, by omega, rfl, hmap, fun _ => rfl⟩
    · exact Int.natCast_nonneg S
    · dsimp only
      omega
    · exact Int.add_zero _
    · dsimp only
      omega

/-- The next window reaches 8192 bytes further. -/
theorem AtRemap.again (h : AtRemap file S E s) (hlt : E < file.length) (hS : S % 4096 = 0) :
    ∃ s', Reader.pass file s = .ok (.again s') ∧
      AtSearch file S (min file.length (E + 8192)) s' ∧ SameFound s s' := by
  have hpos := h.pos
  have hstop := h.stop
  have hSE := h.lt
  have hgo := h.go_end
  have hblock : E % 8192 = 0 := h.block.resolve_left hlt.ne
  rw [if_neg hlt.ne] at hgo
  have hsize : s.size - s.off_set + 4096 = ((E - S + 4096 : Nat) : Int) := by omega
  have halign : ALLIGN (s.size - s.off_set + 4096) 4096 = (E : Int) - S + 8192 := by
    rw [hsize, ALLIGN_eq (by omega)]
    omega
  exact pass_remap h.label h.pos hgo hS (by omega) (by omega)

/-- Where the window ends in which the search finds something at `x`. -/
def windowEnd (file : List UInt8) (x : Nat) : Nat := min file.length (8192 * (x / 8192 + 1))

theorem windowEnd_eq {x y : Nat} (h : x / 8192 = y / 8192) :
    windowEnd file x = windowEnd file y := by
  rw [windowEnd, windowEnd, h]

theorem lt_windowEnd {x : Nat} (h : x < file.length) : x < windowEnd file x := by
  unfold windowEnd
  omega

theorem opens (hlength : 2 < file.length) :
    ∃ s, Heads (Reader.pass file) {} s ∧ AtSearch file 0 (windowEnd file 0) s ∧
      s.next = .beginFang ∧ s.sections = [] := by
  have hlast : (0 : Int) < file.length - 2 := by omega
  obtain ⟨size, hsize⟩ : ∃ size : Int,
      size = if 4096 < (file.length : Int) then (1 : Int) else (file.length : Int) := ⟨_, rfl⟩
  have hhead : Reader.pass file {} = .ok (.again { label := .remap, id := -1, size := size }) := by
    unfold Reader.pass
    dsimp only
    rw [if_pos hlast, Int.sub_zero, hsize]
  have hend : windowEnd file 0 = file.length ∧
        windowEnd file 0 ≤ (0 : Nat) + ALLIGN (size - (0 : Nat) + 4096) 4096 ∨
      windowEnd file 0 < file.length ∧ windowEnd file 0 % 8192 = 0 ∧
        windowEnd file 0 = (0 : Nat) + ALLIGN (size - (0 : Nat) + 4096) 4096 := by
    have hwindow : windowEnd file 0 = min file.length 8192 := rfl
    by_cases hlong : 4096 < (file.length : Int)
    · rw [if_pos hlong] at hsize
      have halign : ALLIGN (size - (0 : Nat) + 4096) 4096 = 8192 := by
        rw [hsize]
        rfl
      omega
    · rw [if_neg hlong] at hsize
      have halign := lt_ALLIGN (x := size - (0 : Nat) + 4096) (by omega)
      omega
  have hlt : 0 < windowEnd file 0 := lt_windowEnd (by omega)
  obtain ⟨s, hpass, hs, hsame⟩ := pass_remap (s := { label := .remap, id := -1, size := size })
    rfl rfl rfl rfl hlt hend
  exact ⟨s, .head hhead (.head hpass .refl), hs, hsame.next, hsame.sections⟩

/-! ## Searches that find nothing -/

/-- What the search reads up to the end of the window. -/
theorem AtSearch.search_eq (h : AtSearch file S E s) (find : UInt8) :
    ∃ zeros : List UInt8,
      search find s.size (s.t_buff.drop s.i) s.i =
        search find s.size ((file.drop S).take (E - S) ++ zeros) s.i := by
  obtain ⟨zeros, hview, -, -⟩ := h.view
  exact ⟨zeros, by rw [hview]⟩

/-- Nothing is found in the window: the search goes on in another one. -/
theorem AtSearch.missed (h : AtSearch file S E s)
    (hfind : s.next.find ∉ (file.drop S).take (E - S)) :
    Reader.pass file s = .ok (.again { s with label := .remap, off_set := s.i }) ∧
      AtRemap file S E { s with label := .remap, off_set := s.i } := by
  have hpos := h.pos
  have hstop := h.stop
  have hlt := h.lt
  have hle := h.le
  obtain ⟨zeros, hsearch⟩ := h.search_eq s.next.find
  have hlength : ((file.drop S).take (E - S)).length = E - S := by
    rw [List.length_take, List.length_drop]
    omega
  have hnone : search s.next.find s.size ((file.drop S).take (E - S) ++ zeros) s.i = .ok none := by
    apply search_none hfind
    · rintro hnil
      rw [hnil, List.length_nil] at hlength
      omega
    · omega
  constructor
  · unfold Reader.pass
    rw [h.label]
    dsimp only
    rw [hsearch, hnone]
  · exact ⟨rfl, hpos, hstop, hlt, hle, h.block, h.go_end⟩

/-- A search that starts with a page gets to every place of the file. -/
theorem AtSearch.cross (h : AtSearch file S E s) {front rest : List UInt8}
    (hfile : file.drop S = front ++ s.next.find :: rest) (hfind : s.next.find ∉ front)
    (hE : E ≤ windowEnd file (S + front.length))
    (hS : E = windowEnd file (S + front.length) ∨ S % 4096 = 0) :
    ∃ s', Heads (Reader.pass file) s s' ∧
      AtSearch file S (windowEnd file (S + front.length)) s' ∧ SameFound s s' := by
  induction hn : windowEnd file (S + front.length) - E using Nat.strong_induction_on
    generalizing s E with
  | _ n ih =>
      by_cases heq : E = windowEnd file (S + front.length)
      · exact ⟨s, .refl, heq ▸ h, .refl s⟩
      · have hS' := hS.resolve_left heq
        have hlt : E < file.length := by
          unfold windowEnd at hE heq
          omega
        have hblock : E % 8192 = 0 := h.block.resolve_left hlt.ne
        have hbehind : E ≤ S + front.length := by
          unfold windowEnd at hE heq
          omega
        have hmissed : s.next.find ∉ (file.drop S).take (E - S) := by
          rw [hfile, List.take_append_of_le_length (by omega)]
          exact fun hmem => hfind (List.mem_of_mem_take hmem)
        obtain ⟨hpass, hremap⟩ := h.missed hmissed
        obtain ⟨s', hagain, hs', hsame'⟩ := hremap.again hlt hS'
        have hle : min file.length (E + 8192) ≤ windowEnd file (S + front.length) := by
          unfold windowEnd at hE heq ⊢
          omega
        obtain ⟨last, hheads, hlast, hsame⟩ :=
          ih (windowEnd file (S + front.length) - min file.length (E + 8192)) (by omega) hs'
            (by rw [hsame'.next]; exact hfile) (by rw [hsame'.next]; exact hfind) hle (Or.inr hS')
            rfl
        exact ⟨last, .head hpass (.head hagain hheads), hlast,
          SameFound.trans ⟨hsame'.next, hsame'.id, hsame'.de, hsame'.sections⟩ hsame⟩

/-- A search that starts inside a page is lost at the end of its window. -/
theorem AtSearch.lost (h : AtSearch file S E s) {front rest : List UInt8}
    (hfile : file.drop S = front ++ s.next.find :: rest) (hfind : s.next.find ∉ front)
    (hbehind : E ≤ S + front.length) (hS : S % 4096 ≠ 0) (r : Int × List FirmSection) :
    Ends (Reader.pass file) s r ↔ r = (-1, s.sections) := by
  have hlength := congrArg List.length hfile
  rw [List.length_drop, List.length_append, List.length_cons] at hlength
  have hlt : E < file.length := by omega
  have hmissed : s.next.find ∉ (file.drop S).take (E - S) := by
    rw [hfile, List.take_append_of_le_length (by omega)]
    exact fun hmem => hfind (List.mem_of_mem_take hmem)
  obtain ⟨hpass, hremap⟩ := h.missed hmissed
  rw [ends_of_again hpass, ends_of_done (hremap.lost hlt hS)]

/-! ## Searches that find something -/

theorem AtSearch.found (h : AtSearch file S E s) {front rest : List UInt8}
    (hfile : file.drop S = front ++ s.next.find :: rest) (hfind : s.next.find ∉ front)
    (hlt : S + front.length < E) :
    search s.next.find s.size (s.t_buff.drop s.i) s.i = .ok (some (s.i + front.length)) := by
  obtain ⟨zeros, hview, -, -⟩ := h.view
  have hpos := h.pos
  have hstop := h.stop
  obtain ⟨n, hn⟩ : ∃ n, E - S - front.length = n + 1 := ⟨E - S - front.length - 1, by omega⟩
  have hseen : s.t_buff.drop s.i = front ++ s.next.find :: (rest.take n ++ zeros) := by
    rw [hview, hfile, List.take_append, List.take_of_length_le (by omega), hn,
      List.take_succ_cons, List.append_assoc, List.cons_append]
  rw [hseen]
  exact search_found hfind _ (by omega)

theorem AtSearch.move (h : AtSearch file S E s) {T : Nat} (hT : T < E) {s' : Reader}
    (hlabel : s'.label = .find_str) (hfile_off : s'.file_off = s.file_off)
    (hsize : s'.size = s.size) (hgo : s'.go_end = s.go_end) (ht_buff : s'.t_buff = s.t_buff)
    (hi : s.file_off + s'.i = T) (hbegins : s'.next = .endDa → s'.begin_id = s'.i) :
    AtSearch file T E s' where
  label := hlabel
  nonneg := hfile_off ▸ h.nonneg
  aligned := hfile_off ▸ h.aligned
  pos := hfile_off ▸ hi
  stop := by rw [hfile_off, hsize, h.stop]
  lt := hT
  le := h.le
  block := h.block
  go_end := hgo.trans h.go_end
  mapping := by rw [hfile_off, hsize, ht_buff, h.mapping]
  begins := hbegins

theorem AtSearch.brace (h : AtSearch file S E s) (hnext : s.next = .beginDa)
    {front rest : List UInt8} (hfile : file.drop S = front ++ Mark.beginDa.find :: rest)
    (hfind : Mark.beginDa.find ∉ front) (hlt : S + front.length < E) :
    ∃ s', Reader.pass file s = .ok (.again s') ∧ AtSearch file (S + front.length) E s' ∧
      s'.next = .endDa ∧ s'.id = s.id ∧ s'.de = s.de ∧ s'.sections = s.sections := by
  rw [← hnext] at hfile hfind
  have hfound := h.found hfile hfind hlt
  have hpos := h.pos
  refine ⟨{ s with
    off_set := s.i + front.length
    i := s.i + front.length
    begin_id := s.i + front.length
    next := .endDa }, ?_, ?_, rfl, rfl, rfl, rfl⟩
  · unfold Reader.pass
    rw [h.label]
    dsimp only
    rw [hfound]
    dsimp only
    rw [hnext]
  · refine h.move hlt h.label rfl rfl rfl rfl ?_ fun _ => rfl
    dsimp only
    omega

/-- The loop starts again at `T`, at most ten bytes in front of the end `E` of the last window. -/
structure AtHead (file : List UInt8) (T E : Nat) (s : Reader) : Prop where
  label : s.label = .whileHead
  file_off : s.file_off = T
  lt : T < E
  near : E ≤ T + 10
  le : E ≤ file.length
  block : E = file.length ∨ E % 8192 = 0
  go_end : s.go_end = if E = file.length then 1 else 0

def Reader.found (s : Reader) : FirmSection := ⟨s.id, s.de, s.t_buff.drop s.begin_id⟩

/-- The closing brace: the section is handed on.  Close to the end of the window the loop starts
again. -/
theorem AtSearch.close (h : AtSearch file S E s) (hnext : s.next = .endDa)
    {front rest : List UInt8} (hfile : file.drop S = front ++ Mark.endDa.find :: rest)
    (hfind : Mark.endDa.find ∉ front) (hlt : S + front.length < E) :
    ∃ s', Reader.pass file s = .ok (.again s') ∧ s'.next = .beginFang ∧
      s'.sections = s.sections ++ [s.found] ∧
      if S + front.length + 10 < E then AtSearch file (S + front.length) E s'
      else AtHead file (S + front.length) E s' := by
  rw [← hnext] at hfile hfind
  have hfound := h.found hfile hfind hlt
  have hpos := h.pos
  have hstop := h.stop
  have hpass : Reader.pass file s = .ok (.again
      (if 10 < s.size - ((s.i + front.length : Nat) : Int) then
        { s with
          off_set := s.i + front.length
          i := s.i + front.length
          sections := s.sections ++ [s.found]
          next := .beginFang }
      else
        { s with
          label := .whileHead
          off_set := s.i + front.length
          i := s.i + front.length
          file_off := s.file_off + (s.i + front.length : Nat)
          sections := s.sections ++ [s.found]
          next := .beginFang })) := by
    unfold Reader.pass
    rw [h.label]
    dsimp only
    rw [hfound]
    dsimp only
    rw [hnext]
    dsimp only
    rw [if_pos rfl]
    split
    · rfl
    · rfl
  refine ⟨_, hpass, ?_, ?_, ?_⟩
  · split <;> rfl
  · split <;> rfl
  · by_cases hroom : S + front.length + 10 < E
    · rw [if_pos hroom, if_pos (by omega)]
      refine h.move hlt h.label rfl rfl rfl rfl ?_ (by simp)
      dsimp only
      omega
    · rw [if_neg hroom, if_neg (by omega)]
      refine ⟨rfl, ?_, hlt, by omega, h.le, h.block, h.go_end⟩
      dsimp only
      omega

/-! ## Runs that hand on nothing more -/

def Quits (file : List UInt8) (s : Reader) : Prop :=
  ∃ ret, Ends (Reader.pass file) s (ret, s.sections)

theorem Quits.of_again {s' : Reader} (h : Quits file s')
    (hpass : Reader.pass file s = .ok (.again s'))
    (hsections : s'.sections = s.sections) : Quits file s := by
  obtain ⟨ret, hends⟩ := h
  exact ⟨ret, (ends_of_again hpass _).mpr (hsections ▸ hends)⟩

theorem AtHead.quits {T : Nat} (h : AtHead file T E s) : Quits file s := by
  have hlt := h.lt
  have hnear := h.near
  have hgo := h.go_end
  by_cases hlast : (T : Int) < file.length - 2
  · have hpass : Reader.pass file s = .ok (.again { s with
        label := .remap
        id := -1
        next := .beginFang
        de := 0
        off_set := 0
        size := if 4096 < (file.length : Int) - T then 1 else file.length - T }) := by
      unfold Reader.pass
      rw [h.label, h.file_off]
      dsimp only
      rw [if_pos hlast]
    refine Quits.of_again ?_ hpass rfl
    by_cases hE : E = file.length
    · rw [if_pos hE] at hgo
      have hsmall : ¬ 4096 < (file.length : Int) - T := by omega
      have hreach : (file.length : Int) ≤ T + ALLIGN ((file.length : Int) - T + 4096) 4096 := by
        have halign := lt_ALLIGN (x := (file.length : Int) - T + 4096) (by omega)
        omega
      refine ⟨0, (ends_of_done ?_ _).mpr rfl⟩
      unfold Reader.pass
      dsimp only
      rw [h.file_off, if_neg hsmall, hgo]
      simp [hreach]
    · have hblock := h.block.resolve_left hE
      rw [if_neg hE] at hgo
      refine ⟨-1, (ends_of_done ?_ _).mpr rfl⟩
      unfold Reader.pass
      dsimp only
      have hless : ∀ b : Bool, ¬ 2 ≤ (if b = true then 0 + 1 else 0) := by decide
      rw [h.file_off, hgo, if_neg (hless _), Int.natCast_zero, Int.add_zero,
        mapFile_unaligned (by omega)]
  · refine ⟨0, (ends_of_done ?_ _).mpr rfl⟩
    unfold Reader.pass
    rw [h.label, h.file_off]
    dsimp only
    rw [if_neg hlast]

/-- Behind the last section. -/
theorem AtSearch.quits (h : AtSearch file S E s) (hfind : s.next.find ∉ file.drop S) :
    Quits file s := by
  induction hn : file.length - E using Nat.strong_induction_on generalizing s E with
  | _ n ih =>
      obtain ⟨hpass, hremap⟩ := h.missed fun hmem => hfind (List.mem_of_mem_take hmem)
      refine Quits.of_again ?_ hpass rfl
      by_cases hE : E = file.length
      · subst hE
        exact ⟨0, (ends_of_done hremap.over _).mpr rfl⟩
      · have hlt : E < file.length := lt_of_le_of_ne h.le hE
        by_cases hS : S % 4096 = 0
        · obtain ⟨s', hagain, hs', hsame⟩ := hremap.again hlt hS
          refine Quits.of_again ?_ hagain hsame.sections
          exact ih (file.length - min file.length (E + 8192)) (by omega) hs'
            (by rw [hsame.next]; exact hfind) rfl
        · exact ⟨-1, (ends_of_done (hremap.lost hlt hS) _).mpr rfl⟩

end AwHal.Pq
