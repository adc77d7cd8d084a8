import Mathlib.Data.List.Pairwise

/-!
# Fields of a text

The parts of a text between separators, each with the position it starts at, and the tokens
`strtok_r` takes from the same text.
-/

namespace AwHal.Lib

variable {α : Type}

/-- A part of a text and its position. -/
structure Piece (α : Type) where
  start : Nat
  text : List α
deriving DecidableEq, Repr

variable (sep : α → Bool)

/-- The fields of a text that starts at `start`.  They may be empty. -/
def fields : Nat → List α → List (Piece α)
  | start, [] => [⟨start, []⟩]
  | start, c :: rest =>
      if sep c then ⟨start, []⟩ :: fields (start + 1) rest
      else
        match fields (start + 1) rest with
        | [] => [⟨start, [c]⟩]
        | field :: more => ⟨start, c :: field.text⟩ :: more

/-- The next token from `start` on, and where the rest begins.  Separators in front of it are left
out, and one behind it. -/
def strtok_r : Nat → List α → Option (Piece α × Nat × List α)
  | _, [] => none
  | start, c :: rest =>
      if sep c then strtok_r (start + 1) rest
      else
        let after := rest.dropWhile fun c => !sep c
        let text := c :: rest.takeWhile fun c => !sep c
        some (⟨start, text⟩, start + text.length + min after.length 1, after.tail)

def Piece.nonempty (piece : Piece α) : Bool := !piece.text.isEmpty

/-- The fields that are not empty. -/
def tokens (start : Nat) (text : List α) : List (Piece α) :=
  (fields sep start text).filter Piece.nonempty

/-! ## Positions -/

theorem fields_ne_nil (start : Nat) (text : List α) : fields sep start text ≠ [] := by
  fun_cases fields sep start text <;> exact List.cons_ne_nil _ _

variable {sep}

theorem fields_separator {start : Nat} {c : α} {rest : List α} (h : sep c = true) :
    fields sep start (c :: rest) = ⟨start, []⟩ :: fields sep (start + 1) rest := by
  rw [fields, if_pos h]

theorem fields_cons (start : Nat) {c : α} (rest : List α) (h : sep c = false) :
    ∃ field more, fields sep (start + 1) rest = field :: more ∧
      fields sep start (c :: rest) = ⟨start, c :: field.text⟩ :: more := by
  have hne := fields_ne_nil sep (start + 1) rest
  obtain ⟨field, more, hrest⟩ := List.exists_cons_of_ne_nil hne
  refine ⟨field, more, hrest, ?_⟩
  rw [fields, if_neg (by simp [h]), hrest]

theorem fields_starts (sep : α → Bool) (start : Nat) (text : List α) :
    (fields sep start text).Pairwise (fun f g => f.start < g.start) ∧
      ∀ f ∈ fields sep start text, start ≤ f.start := by
  induction text generalizing start with
  | nil => simp [fields]
  | cons c rest ih =>
      obtain ⟨hpairwise, hstart⟩ := ih (start + 1)
      cases hc : sep c with
      | true =>
          rw [fields_separator hc, List.pairwise_cons]
          refine ⟨⟨fun f hf => hstart f hf, hpairwise⟩, ?_⟩
          intro f hf
          rcases List.mem_cons.mp hf with rfl | hf
          · exact Nat.le_refl start
          · exact Nat.le_of_lt (hstart f hf)
      | false =>
          obtain ⟨field, more, hrest, heq⟩ := fields_cons start rest hc
          rw [hrest, List.pairwise_cons] at hpairwise
          rw [hrest] at hstart
          rw [heq, List.pairwise_cons]
          refine ⟨⟨fun f hf => hstart f (List.mem_cons_of_mem _ hf), hpairwise.2⟩, ?_⟩
          intro f hf
          rcases List.mem_cons.mp hf with rfl | hf
          · exact Nat.le_refl start
          · exact Nat.le_of_lt (hstart f (List.mem_cons_of_mem _ hf))

theorem fields_start_injective {start : Nat} {text : List α} {m n : Nat} {f g : Piece α}
    (hf : (fields sep start text)[m]? = some f) (hg : (fields sep start text)[n]? = some g)
    (h : f.start = g.start) : f = g := by
  have hpairwise := (fields_starts sep start text).1
  obtain ⟨hm, rfl⟩ := List.getElem?_eq_some_iff.mp hf
  obtain ⟨hn, rfl⟩ := List.getElem?_eq_some_iff.mp hg
  rw [List.pairwise_iff_getElem] at hpairwise
  rcases Nat.lt_trichotomy m n with hlt | rfl | hlt
  · exact absurd h (Nat.ne_of_lt (hpairwise m n hm hn hlt))
  · rfl
  · exact absurd h (Nat.ne_of_gt (hpairwise n m hn hm hlt))

/-! ## Tokens -/

theorem fields_word (sep : α → Bool) (start : Nat) (text : List α) :
    ∃ rest, fields sep start text = ⟨start, text.takeWhile fun c => !sep c⟩ :: rest ∧
      rest.filter Piece.nonempty =
        tokens sep (start + (text.takeWhile fun c => !sep c).length +
          min (text.dropWhile fun c => !sep c).length 1) (text.dropWhile fun c => !sep c).tail := by
  induction text generalizing start with
  | nil => exact ⟨[], rfl, rfl⟩
  | cons c rest ih =>
      cases hc : sep c with
      | true =>
          rw [fields_separator hc]
          refine ⟨fields sep (start + 1) rest, ?_, ?_⟩
          · simp [hc]
          · simp [hc, tokens]
      | false =>
          obtain ⟨field, more, hrest, heq⟩ := fields_cons start rest hc
          obtain ⟨more', heq', hmore⟩ := ih (start + 1)
          obtain ⟨rfl, rfl⟩ := List.cons.inj (hrest.symm.trans heq')
          refine ⟨more, ?_, ?_⟩
          · simp [heq, hc]
          · rw [hmore]
            simp [hc, Nat.add_assoc, Nat.add_comm]

/-- `strtok_r` takes the fields that are not empty, one after the other. -/
theorem strtok_r_eq (sep : α → Bool) (start : Nat) (text : List α) :
    match strtok_r sep start text with
    | none => tokens sep start text = []
    | some (token, start', rest) => tokens sep start text = token :: tokens sep start' rest := by
  induction text generalizing start with
  | nil => rfl
  | cons c rest ih =>
      cases hc : sep c with
      | true =>
          have hskip : tokens sep start (c :: rest) = tokens sep (start + 1) rest := by
            rw [tokens, fields_separator hc]
            rfl
          rw [strtok_r, if_pos hc, hskip]
          exact ih (start + 1)
      | false =>
          obtain ⟨more, heq, hmore⟩ := fields_word sep start (c :: rest)
          rw [strtok_r, if_neg (by simp [hc])]
          simp only [hc, List.takeWhile_cons, List.dropWhile_cons, Bool.not_false, if_true]
            at heq hmore
          rw [tokens, heq, List.filter_cons, hmore]
          rfl

end AwHal.Lib
