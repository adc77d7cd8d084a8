import AwHal.Pq.SectionBrackets

/-!
# Which files `download_firmware` reads completely

A file is read section by section.  The first section that is broken is lost together with all that
follow it.
-/

namespace AwHal.Pq

open AwHal.Lib

/-! ## All sections of a file -/

section Sections

variable {file : List UInt8} {S : Nat} {s : Reader} {tail : List UInt8}

theorem length_list_ge (sec : SectionText) : 2 ≤ sec.list.length := by
  have hnumbers := List.length_pos_of_ne_nil sec.numbers_ne
  rw [SectionText.list, List.length_cons]
  omega

theorem length_body_ge (sec : SectionText) : 4 ≤ sec.body.length := by
  have hid := List.length_pos_of_ne_nil (numberText_ne_nil sec.id)
  have hde := List.length_pos_of_ne_nil (numberText_ne_nil sec.de)
  simp only [SectionText.body, List.length_append, List.length_cons, List.length_nil]
  omega

/-- In front of an unbroken section the loop does not start again: a section has more bytes than
that. -/
theorem SectionText.Unbroken.room (sec : SectionText) (h : sec.Unbroken (S + 1) S)
    (hlt : sec.close (S + 1) < file.length) : S + 10 < windowEnd file S := by
  have hlead := List.length_pos_of_ne_nil sec.lead_ne
  have hmid := List.length_pos_of_ne_nil sec.mid_ne
  have hbody := length_body_ge sec
  have hlist := length_list_ge sec
  obtain ⟨hfang, hbehind, hda, hclose⟩ := h
  unfold SectionText.close SectionText.da SectionText.behind SectionText.fang at *
  unfold Crosses at *
  unfold windowEnd
  omega

end Sections

/-! ## Whole files -/

end AwHal.Pq
