import AwHal.Pq.SectionScan

/-!
# The brackets that `download_firmware` comes to

`download_firmware` returns if and only if the numbers behind the brackets it comes to end in front
of the end of the mapping.  Which brackets these are can be told from the bytes of the file: a search
gets from one mark to the next as long as it does not leave its block of 8192 bytes, or begins with a
page.
-/

namespace AwHal.Pq

open AwHal.Lib

/-! ## The way through a file -/

/-- From `S` on, `c` stands at `T` first. -/
def FirstAt (file : List UInt8) (c : UInt8) (S T : Nat) : Prop :=
  S ≤ T ∧ file[T]? = some c ∧ ∀ k, S ≤ k → k < T → file[k]? ≠ some c

/-- What can be read in front of the end of a window that ends at `E`: behind the end of the file
there are zeros up to the end of its last page. -/
def seen (file : List UInt8) (E : Nat) : List UInt8 :=
  if E = file.length then mapped file else file.take E

/-- The head at `b` is looked at in a window that ends at `E`: the window of its block, or, since a
head that does not end in it is looked for again from `b` on, a later one if `b` begins a page. -/
def Shows (file : List UInt8) (b E : Nat) : Prop :=
  E = windowEnd file b ∨
    b % 4096 = 0 ∧ windowEnd file b ≤ E ∧ E ≤ file.length ∧ (E = file.length ∨ E % 8192 = 0)

/-- The number behind the bracket at `b`, and the numbers behind the commas up to the next bracket,
end in front of the end of the mapping. -/
def ReadsAt (file : List UInt8) (b : Nat) : Prop :=
  ∀ E, Shows file b E → HeadEnds (seen file E) E b

def Leads (file : List UInt8) (b c : Nat) : Prop :=
  ∃ E, Shows file b E ∧ HeadStops (seen file E) E b c

def Opens (file : List UInt8) (S b : Nat) : Prop :=
  FirstAt file Mark.beginFang.find S b ∧ Crosses S b

/-- There is a section behind `S` that is found, and the search goes on at its closing brace `e`. -/
def Passes (file : List UInt8) (S e : Nat) : Prop :=
  ∃ b c d, Opens file S b ∧ Leads file b c ∧
    FirstAt file Mark.beginDa.find c d ∧ Crosses c d ∧
    FirstAt file Mark.endDa.find d e ∧ Crosses d e ∧ e + 10 < windowEnd file e

variable {file : List UInt8}

theorem FirstAt.unique {c : UInt8} {S T T' : Nat} (h : FirstAt file c S T)
    (h' : FirstAt file c S T') : T = T' := by
  obtain ⟨hle, hat, hfirst⟩ := h
  obtain ⟨hle', hat', hfirst'⟩ := h'
  rcases lt_trichotomy T T' with hlt | heq | hlt
  · exact absurd hat (hfirst' T hle hlt)
  · exact heq
  · exact absurd hat' (hfirst T' hle' hlt)

theorem FirstAt.lt_length {c : UInt8} {S T : Nat} (h : FirstAt file c S T) : T < file.length :=
  (List.getElem?_eq_some_iff.mp h.2.1).1

theorem FirstAt.split {c : UInt8} {S T : Nat} (h : FirstAt file c S T) :
    ∃ front rest, file.drop S = front ++ c :: rest ∧ c ∉ front ∧ S + front.length = T := by
  obtain ⟨hle, hat, hfirst⟩ := h
  obtain ⟨hlt, hget⟩ := List.getElem?_eq_some_iff.mp hat
  refine ⟨(file.drop S).take (T - S), file.drop (T + 1), ?_, ?_, ?_⟩
  · have hT : S + (T - S) = T := Nat.add_sub_cancel' hle
    calc file.drop S
        = (file.drop S).take (T - S) ++ (file.drop S).drop (T - S) :=
          (List.take_append_drop _ _).symm
      _ = (file.drop S).take (T - S) ++ c :: file.drop (T + 1) := by
          rw [List.drop_drop, hT, List.drop_eq_getElem_cons hlt, hget]
  · intro hmem
    obtain ⟨k, hk⟩ := List.mem_iff_getElem?.mp hmem
    rw [List.getElem?_take] at hk
    split at hk
    · rw [List.getElem?_drop] at hk
      exact hfirst (S + k) (by omega) (by omega) hk
    · cases hk
  · rw [List.length_take, List.length_drop]
    omega

theorem exists_firstAt (file : List UInt8) (c : UInt8) (S : Nat) :
    c ∉ file.drop S ∨ ∃ T, FirstAt file c S T := by
  by_cases hmem : c ∈ file.drop S
  · right
    have hex : ∃ k, file[S + k]? = some c := by
      obtain ⟨k, hk⟩ := List.mem_iff_getElem?.mp hmem
      rw [List.getElem?_drop] at hk
      exact ⟨k, hk⟩
    refine ⟨S + Nat.find hex, Nat.le_add_right _ _, Nat.find_spec hex, ?_⟩
    intro k hSk hk
    have hmin := Nat.find_min hex (m := k - S) (by omega)
    rwa [Nat.add_sub_cancel' hSk] at hmin
  · exact Or.inl hmem

/-! ## What a window shows -/

section Window

variable {S E : Nat} {s : Reader}

theorem length_seen {E : Nat} (hle : E ≤ file.length) : E ≤ (seen file E).length := by
  unfold seen
  split
  · rw [mapped, List.length_append]
    omega
  · rw [List.length_take]
    omega

/-- A later window shows more. -/
theorem seen_append {E E' : Nat} (h : E ≤ E') (hle : E' ≤ file.length) :
    ∃ more, seen file E' = seen file E ++ more := by
  unfold seen
  by_cases hend : E = file.length
  · have hend' : E' = file.length := by omega
    exact ⟨[], by rw [if_pos hend, if_pos hend', List.append_nil]⟩
  · rw [if_neg hend]
    split
    · exact ⟨file.drop E ++ List.replicate ((4096 - file.length % 4096) % 4096) 0, by
        rw [mapped, ← List.append_assoc, List.take_append_drop]⟩
    · obtain ⟨more, hmore⟩ := List.take_prefix_take_left h (l := file)
      exact ⟨more, hmore.symm⟩

theorem AtSearch.t_buff_eq (h : AtSearch file S E s) :
    ∃ F : Nat, s.file_off = F ∧ F + s.i = S ∧ (F : Int) + s.size = E ∧
      s.t_buff = (seen file E).drop F := by
  obtain ⟨F, hF⟩ := Int.eq_ofNat_of_zero_le h.nonneg
  have hpos := h.pos
  have hstop := h.stop
  have haligned := h.aligned
  have hlt := h.lt
  have hle := h.le
  rw [hF] at hpos hstop haligned
  refine ⟨F, hF, by omega, hstop, ?_⟩
  have hsize : s.size = (E : Int) - F := by omega
  have hmapping := h.mapping
  rw [hF, hsize, mapFile_eq (by omega) (by omega) h.le
    (h.block.imp_right fun hblock => by omega), Option.some.injEq] at hmapping
  rw [← hmapping, seen]
  by_cases hend : E = file.length
  · have hzeros : (4096 - (E - F) % 4096) % 4096 = (4096 - file.length % 4096) % 4096 := by omega
    rw [if_pos hend, if_pos hend, hzeros, mapped, List.drop_append_of_le_length (by omega),
      List.take_of_length_le (by rw [List.length_drop]; omega)]
  · rw [if_neg hend, if_neg hend, List.append_nil, List.drop_take]

/-- The search goes on in another window, from the bracket on. -/
theorem AtSearch.remap_at (h : AtSearch file S E s) {b i : Nat} (hi : s.file_off + i = b)
    (hlt : b < E) {s' : Reader} (hlabel : s'.label = .remap) (hfile_off : s'.file_off = s.file_off)
    (hsize : s'.size = s.size) (hgo : s'.go_end = s.go_end) (hoff_set : s'.off_set = i) :
    AtRemap file b E s' where
  label := hlabel
  pos := by rw [hfile_off, hoff_set, hi]
  stop := by rw [hfile_off, hsize, h.stop]
  lt := hlt
  le := h.le
  block := h.block
  go_end := hgo.trans h.go_end

/-- The bracket that a search finds, and its place in the window. -/
theorem AtSearch.at_fang (h : AtSearch file S E s) (hnext : s.next = .beginFang) {b : Nat}
    (hb : FirstAt file Mark.beginFang.find S b) (hlt : b < E) :
    ∃ F i : Nat, s.file_off = F ∧ F + i = b ∧ F + s.size = E ∧
      s.t_buff = (seen file E).drop F ∧
      search s.next.find s.size (s.t_buff.drop s.i) s.i = .ok (some i) := by
  obtain ⟨front, rest, hfile, hnone, hlength⟩ := hb.split
  obtain ⟨F, hF, hpos, hsize, ht_buff⟩ := h.t_buff_eq
  refine ⟨F, s.i + front.length, hF, by omega, hsize, ht_buff, ?_⟩
  apply h.found
  · rw [hnext, hfile]
  · rwa [hnext]
  · omega

/-- The bracket of a section in a window: a number behind it is cut off, the head is not read to its
end, or the opening brace is looked for. -/
theorem AtSearch.fang (h : AtSearch file S E s) (hnext : s.next = .beginFang) {b : Nat}
    (hb : FirstAt file Mark.beginFang.find S b) (hlt : b < E) :
    Reader.pass file s = .error .badAddress ∧ ¬ HeadEnds (seen file E) E b ∨
      HeadEnds (seen file E) E b ∧
        ((∃ s', Reader.pass file s = .ok (.again s') ∧ AtRemap file b E s' ∧
            s'.next = .beginFang ∧ ∀ c, ¬ HeadStops (seen file E) E b c) ∨
          ∃ c s', HeadStops (seen file E) E b c ∧ b < c ∧ Reader.pass file s = .ok (.again s') ∧
            AtSearch file c E s' ∧ s'.next = .beginDa) := by
  obtain ⟨F, i, hF, hi, hsize, ht_buff, hfound⟩ := h.at_fang hnext hb hlt
  have hseen : (E : Int) ≤ (seen file E).length := by
    exact_mod_cast length_seen h.le
  have hat : s.file_off + i = b := by omega
  have hbehind : F + (i + 1) = b + 1 := by omega
  unfold Reader.pass
  rw [h.label]
  dsimp only
  rw [hfound]
  dsimp only
  rw [hnext]
  dsimp only
  -- the numbers are read in the window, but are those of the whole file
  rw [ht_buff, numberAt_window, hbehind]
  obtain ⟨herror, hcut⟩ | ⟨hnumber, hends, hnone⟩ | ⟨j, id, hnumber, hj, hcases⟩ :=
    numbers_cases hseen b s.de
  · rw [herror]
    exact Or.inl ⟨rfl, hcut⟩
  · rw [hnumber]
    refine Or.inr ⟨hends, Or.inl ⟨_, rfl, ?_, rfl, hnone⟩⟩
    exact h.remap_at hat hlt rfl rfl rfl rfl rfl
  · have hpred : F + (j - F - 1) = j - 1 := by omega
    have hread := readDe_window (seen file E) F s.de
      (by omega : s.size ≤ s.size.toNat + (j - F - 1 : Nat))
      (by omega : s.size ≤ (E : Int).toNat + (j - F - 1 : Nat))
    rw [hsize, hpred] at hread
    rw [hnumber]
    dsimp only [Except.map, Option.map_some, Prod.map]
    rw [hread]
    obtain ⟨herror, hcut⟩ | ⟨stop, de', hstop, hends, hbehind, hstops⟩ := hcases
    · rw [herror]
      exact Or.inl ⟨rfl, hcut⟩
    · rw [hstop]
      refine Or.inr ⟨hends, ?_⟩
      cases stop with
      | none =>
          refine Or.inl ⟨_, rfl, ?_, rfl, ?_⟩
          · exact h.remap_at hat hlt rfl rfl rfl rfl rfl
          · intro c hc
            cases ((hstops c).mp hc).1
      | some c =>
          have hbc := hbehind c rfl
          have hplace : F + (c - F) = c := by omega
          dsimp only [Except.map, Option.map_some, Prod.map]
          by_cases hend : s.size ≤ (c - F : Nat)
          · rw [if_pos hend]
            refine Or.inl ⟨_, rfl, ?_, rfl, ?_⟩
            · exact h.remap_at hat hlt rfl rfl rfl rfl rfl
            · intro c' hc'
              obtain ⟨heq, hin⟩ := (hstops c').mp hc'
              cases heq
              omega
          · rw [if_neg hend]
            have hin : (c : Int) < E := by omega
            refine Or.inr ⟨c, _, (hstops c).mpr ⟨rfl, hin⟩, hbc, rfl, ?_, rfl⟩
            refine h.move (by omega) rfl rfl rfl rfl ht_buff.symm ?_ (by simp)
            dsimp only
            omega

/-! ## A bracket in all its windows -/

theorem Shows.bounds {b : Nat} (h : Shows file b E) : windowEnd file b ≤ E ∧ E ≤ file.length := by
  unfold Shows windowEnd at *
  omega

/-- A later window of the same head reaches 8192 bytes further. -/
theorem Shows.next {b : Nat} (h : Shows file b E) (hb : b % 4096 = 0) :
    Shows file b (min file.length (E + 8192)) := by
  unfold Shows windowEnd at *
  omega

theorem Shows.windowEnd_eq {b c : Nat} (h : Shows file b E) (hbc : b < c) (hc : c < E)
    (hnew : E ≤ windowEnd file c) : windowEnd file c = E := by
  unfold Shows windowEnd at *
  omega

theorem HeadStops.lt {b c : Nat} (h : HeadStops (seen file E) E b c)
    (hle : E ≤ (seen file E).length) : b < c := by
  obtain ⟨j, id, de, hnumber, hstop, -⟩ := h
  have hbj := lt_of_numberAt hnumber
  have hjc := le_of_readDe (by omega : (E : Int) ≤ (seen file E).length) hstop
  omega

theorem HeadStops.later {b c E' : Nat} (hends : HeadEnds (seen file E) E b)
    (hstops : HeadStops (seen file E) E b c) (hle : E ≤ E') (hin : E' ≤ file.length) :
    HeadEnds (seen file E') E' b ∧ HeadStops (seen file E') E' b c := by
  obtain ⟨more, hmore⟩ := seen_append hle hin
  have hlength := length_seen hin
  rw [hmore] at hlength ⊢
  exact hends.append hstops (by omega) more (by omega)

theorem Leads.unique {b c c' : Nat} (hreads : ReadsAt file b) (h : Leads file b c)
    (h' : Leads file b c') : c = c' := by
  obtain ⟨E, hshows, hstops⟩ := h
  obtain ⟨E', hshows', hstops'⟩ := h'
  rcases Nat.le_total E E' with hle | hle
  · have hlater := (HeadStops.later (hreads E hshows) hstops hle hshows'.bounds.2).2
    exact hlater.unique hstops'
  · have hlater := (HeadStops.later (hreads E' hshows') hstops' hle hshows.bounds.2).2
    exact hstops.unique hlater

theorem Passes.unique {e e' : Nat} (hreads : ∀ b, Opens file S b → ReadsAt file b)
    (h : Passes file S e) (h' : Passes file S e') : e = e' := by
  obtain ⟨b, c, d, hopens, hleads, hda, -, hclose, -⟩ := h
  obtain ⟨b', c', d', hopens', hleads', hda', -, hclose', -⟩ := h'
  obtain rfl := hopens.1.unique hopens'.1
  obtain rfl := hleads.unique (hreads b hopens) hleads'
  obtain rfl := hda.unique hda'
  exact hclose.unique hclose'

/-- A search for a mark: the function returns, or the search gets to the mark. -/
theorem AtSearch.mark (h : AtSearch file S (windowEnd file S) s) {mark : Mark}
    (hnext : s.next = mark) :
    ((∃ r, Ends (Reader.pass file) s r) ∧ ∀ T, FirstAt file mark.find S T → ¬ Crosses S T) ∨
      ∃ T s', FirstAt file mark.find S T ∧ Crosses S T ∧ Heads (Reader.pass file) s s' ∧
        AtSearch file S (windowEnd file T) s' ∧ s'.next = mark := by
  subst hnext
  obtain hnone | ⟨T, hT⟩ := exists_firstAt file s.next.find S
  · obtain ⟨ret, hends⟩ := h.quits hnone
    refine Or.inl ⟨⟨_, hends⟩, ?_⟩
    intro T hT
    obtain ⟨front, rest, hfile, -, -⟩ := hT.split
    exact absurd (by rw [hfile]; simp) hnone
  · obtain ⟨front, rest, hfile, hfind, hlength⟩ := hT.split
    by_cases hcrosses : Crosses S T
    · obtain ⟨s', hheads, hs', hsame⟩ := (h.reach hfile hfind).1 (by rwa [hlength])
      rw [hlength] at hs'
      exact Or.inr ⟨T, s', hT, hcrosses, hheads, hs', hsame.next⟩
    · obtain ⟨hblock, hpage⟩ := not_or.mp hcrosses
      have hbehind : windowEnd file S ≤ S + front.length := by
        have hlt := hT.lt_length
        unfold windowEnd
        omega
      refine Or.inl ⟨⟨_, (h.lost hfile hfind hbehind hpage _).mpr rfl⟩, ?_⟩
      intro T' hT'
      rwa [← hT.unique hT']

/-- The list of a section, looked for from `c` on: the function returns, or the search for the next
section starts at the closing brace. -/
theorem AtSearch.list {c : Nat} (h : AtSearch file c (windowEnd file c) s)
    (hnext : s.next = .beginDa) :
    (∃ r, Ends (Reader.pass file) s r) ∧
        (¬ ∃ d e, FirstAt file Mark.beginDa.find c d ∧ Crosses c d ∧
          FirstAt file Mark.endDa.find d e ∧ Crosses d e ∧ e + 10 < windowEnd file e) ∨
      ∃ d e s', (FirstAt file Mark.beginDa.find c d ∧ Crosses c d ∧
          FirstAt file Mark.endDa.find d e ∧ Crosses d e ∧ e + 10 < windowEnd file e) ∧
        Heads (Reader.pass file) s s' ∧ AtSearch file e (windowEnd file e) s' ∧
        s'.next = .beginFang := by
  obtain ⟨hreturns, hnone⟩ | ⟨d, s₁, hd, hcd, hheads₁, h₁, hnext₁⟩ := h.mark hnext
  · refine Or.inl ⟨hreturns, ?_⟩
    rintro ⟨d, e, hd, hcd, -⟩
    exact hnone d hd hcd
  · obtain ⟨front, rest, hfile, hfind, hlength⟩ := hd.split
    obtain ⟨s₂, hpass₂, h₂, hnext₂, -⟩ := h₁.brace hnext₁ hfile hfind
      (by rw [hlength]; exact lt_windowEnd hd.lt_length)
    rw [hlength] at h₂
    have hheads₂ : Heads (Reader.pass file) s s₂ := hheads₁.tail hpass₂
    obtain ⟨hreturns, hnone⟩ | ⟨e, s₃, he, hde, hheads₃, h₃, hnext₃⟩ := h₂.mark hnext₂
    · refine Or.inl ⟨?_, ?_⟩
      · obtain ⟨r, hr⟩ := hreturns
        exact ⟨r, (hheads₂.ends_iff r).mpr hr⟩
      · rintro ⟨d', e, hd', -, he, hde, -⟩
        obtain rfl := hd.unique hd'
        exact hnone e he hde
    · obtain ⟨front', rest', hfile', hfind', hlength'⟩ := he.split
      obtain ⟨s₄, hpass₄, hnext₄, -, hrest⟩ := h₃.close hnext₃ hfile' hfind'
        (by rw [hlength']; exact lt_windowEnd he.lt_length)
      rw [hlength'] at hrest
      have hheads₄ : Heads (Reader.pass file) s s₄ := (hheads₂.trans hheads₃).tail hpass₄
      by_cases hroom : e + 10 < windowEnd file e
      · rw [if_pos hroom] at hrest
        exact Or.inr ⟨d, e, s₄, ⟨hd, hcd, he, hde, hroom⟩, hheads₄, hrest, hnext₄⟩
      · rw [if_neg hroom] at hrest
        obtain ⟨ret, hends⟩ := hrest.quits
        refine Or.inl ⟨⟨_, (hheads₄.ends_iff _).mpr hends⟩, ?_⟩
        rintro ⟨d', e', hd', -, he', -, hroom'⟩
        obtain rfl := hd.unique hd'
        obtain rfl := he.unique he'
        exact hroom hroom'

end Window

/-! ## The whole function -/

end AwHal.Pq
