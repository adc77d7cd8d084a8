import Mathlib.Data.List.Perm.Basic

/-!
# A queue that the newest item may clear

A producer puts items into a queue and may throw away what waits there, but never the item that it
puts; a consumer takes them from the front.  `put`, `taken` and `dropped` are histories, oldest first.
-/

namespace AwHal.Lib

variable {α : Type}

/-- What the histories and the queue have to do with each other. -/
structure Overtaking (put pending taken dropped : List α) : Prop where
  /-- What waits is the end of what was put, and the rest was taken in the order of putting. -/
  order : ∃ earlier, put = earlier ++ pending ∧ List.Sublist taken earlier
  /-- The newest item is the last to be taken. -/
  newest : pending = [] → taken.getLast? = put.getLast?
  each : (taken ++ dropped ++ pending).Perm put

namespace Overtaking

variable {put pending taken dropped : List α}

theorem start : Overtaking ([] : List α) [] [] [] :=
  ⟨⟨[], rfl, List.Sublist.refl []⟩, fun _ => rfl, List.Perm.refl []⟩

theorem append (h : Overtaking put pending taken dropped) (a : α) :
    Overtaking (put ++ [a]) (pending ++ [a]) taken dropped := by
  obtain ⟨earlier, hput, htaken⟩ := h.order
  refine ⟨⟨earlier, ?_, htaken⟩, fun hnil => absurd hnil (by simp), ?_⟩
  · rw [hput, List.append_assoc]
  · rw [← List.append_assoc]
    exact h.each.append_right [a]

theorem replace (h : Overtaking put pending taken dropped) (a : α) :
    Overtaking (put ++ [a]) [a] taken (dropped ++ pending) := by
  obtain ⟨earlier, hput, htaken⟩ := h.order
  refine ⟨⟨put, rfl, ?_⟩, fun hnil => absurd hnil (by simp), ?_⟩
  · rw [hput]
    exact htaken.trans (List.sublist_append_left earlier pending)
  · rw [← List.append_assoc]
    exact h.each.append_right [a]

theorem take {a : α} (h : Overtaking put (a :: pending) taken dropped) :
    Overtaking put pending (taken ++ [a]) dropped := by
  obtain ⟨earlier, hput, htaken⟩ := h.order
  refine ⟨⟨earlier ++ [a], ?_, htaken.append (List.Sublist.refl [a])⟩, ?_, ?_⟩
  · rw [hput, List.append_assoc, List.singleton_append]
  · rintro rfl
    rw [hput, List.getLast?_concat, List.getLast?_concat]
  · have hmove : (taken ++ [a] ++ dropped ++ pending).Perm (taken ++ dropped ++ a :: pending) := by
      simp only [List.append_assoc, List.singleton_append]
      exact List.Perm.append_left taken List.perm_middle.symm
    exact hmove.trans h.each

theorem sublist (h : Overtaking put pending taken dropped) : List.Sublist taken put := by
  obtain ⟨earlier, hput, htaken⟩ := h.order
  rw [hput]
  exact htaken.trans (List.sublist_append_left earlier pending)

/-- The newest item is in the queue or was the last to be taken. -/
theorem getLast?_eq (h : Overtaking put pending taken dropped) :
    put.getLast? = (taken ++ pending).getLast? := by
  rcases List.eq_nil_or_concat pending with rfl | ⟨front, a, rfl⟩
  · rw [List.append_nil, h.newest rfl]
  · obtain ⟨earlier, hput, -⟩ := h.order
    rw [hput, List.concat_eq_append, ← List.append_assoc, ← List.append_assoc, List.getLast?_concat,
      List.getLast?_concat]

end Overtaking

end AwHal.Lib
