import AwHal.Lib.CNumber
import AwHal.Lib.Loop
import AwHal.Lib.Replacing

/-!
# `str_replace`

The arguments of a driver are texts with `${name}` in them, which `str_expand` puts values for.  The
replacement itself is a C string function that counts the occurrences, allocates the result and fills
it.  Lengths and counts are of type `int`.
-/

namespace AwHal.Wireless

open AwHal.Lib

/-- What leaves the meaning of the code open. -/
inductive StrFault where
  /-- A pointer to nothing, or a cell outside of its object. -/
  | outside
  /-- An `int` operation whose result is no `int`. -/
  | overflow
deriving DecidableEq, Repr

def NUL : Char := '\x00'

def intResult (x : Int) : Except StrFault Int :=
  if FitsInt x then .ok x else .error .overflow

theorem ok_bind {α β : Type} (a : α) (f : α → Except StrFault β) : (.ok a >>= f) = f a := rfl

theorem error_bind {α β : Type} (e : StrFault) (f : α → Except StrFault β) :
    (.error e >>= f) = .error e := rfl

theorem exists_of_bind_ok {α β : Type} {x : Except StrFault α} {f : α → Except StrFault β} {b : β}
    (h : (x >>= f) = .ok b) : ∃ a, x = .ok a ∧ f a = .ok b := by
  cases x with
  | error e => cases h
  | ok a => exact ⟨a, rfl, h⟩

/-! ## Strings and blocks -/

def stringAt (text : List Char) (p : Int) : Except StrFault (List Char) :=
  if 0 ≤ p ∧ p ≤ text.length then .ok (text.drop p.toNat) else .error .outside

/-- A block of the heap.  A cell nothing was written to is `none`. -/
abbrev Block : Type := List (Option Char)

def write (block : Block) (p : Int) (chars : List Char) : Except StrFault Block :=
  if 0 ≤ p ∧ p + chars.length ≤ block.length then
    .ok (block.take p.toNat ++ chars.map some ++ block.drop (p.toNat + chars.length))
  else .error .outside

def strncpyText (text : List Char) (n : Nat) : List Char :=
  text.take n ++ List.replicate (n - text.length) NUL

def strcpyText (text : List Char) : List Char := text ++ [NUL]

/-! ## The function -/

/-- One pass of the `for` that counts; the state is `ins` and `count`. -/
def countPass (orig rep : List Char) (len_rep : Int) (s : Int × Int) :
    Except StrFault (Next (Int × Int) Int) := do
  match findSub rep (← stringAt orig s.1) with
  | none => return .done s.2
  | some i =>
      let ins := s.1 + i + len_rep
      return .again (ins, ← intResult (s.2 + 1))

structure Filling where
  orig : Int
  tmp : Int
  result : Block
deriving Repr

def fillPass (orig rep new : List Char) (len_rep len_with : Int) (s : Filling) :
    Except StrFault Filling := do
  let rest ← stringAt orig s.orig
  match findSub rep rest with
  | none => throw .outside
  | some i =>
      let len_front := wrapInt i
      let result ← write s.result s.tmp (strncpyText rest (toSize len_front))
      let tmp := s.tmp + len_front
      let result ← write result tmp (strcpyText new)
      return ⟨s.orig + (← intResult (len_front + len_rep)), tmp + len_with, result⟩

def fill (orig rep new : List Char) (len_rep len_with : Int) :
    Nat → Filling → Except StrFault Filling
  | 0, s => return s
  | count + 1, s => do
      fill orig rep new len_rep len_with count (← fillPass orig rep new len_rep len_with s)

/-- `malloc` says which sizes the heap has a block for. -/
def str_replace (malloc : Nat → Bool) (orig rep new : Option (List Char)) :
    Except StrFault (Option Block) := do
  match orig, rep with
  | some orig, some rep =>
      let len_rep := wrapInt rep.length
      if len_rep = 0 then return none
      let new := new.getD []
      let len_with := wrapInt new.length
      match ← loop (countPass orig rep len_rep) (orig.length + 2) (0, 0) with
      -- a negative `len_rep` finds the same occurrence until `count` overflows
      | none => throw .overflow
      | some count =>
          let longer ← intResult (len_with - len_rep)
          let size := toSize (orig.length + (← intResult (longer * count)) + 1)
          if malloc size then
            let s ← fill orig rep new len_rep len_with count.toNat
              ⟨0, 0, List.replicate size none⟩
            some <$> write s.result s.tmp (strcpyText (← stringAt orig s.orig))
          else return none
  | _, _ => return none

/-- The block that holds the replaced text and nothing else. -/
def Replaces (malloc : Nat → Bool) (orig rep : List Char) (new : Option (List Char)) : Prop :=
  str_replace malloc (some orig) (some rep) new =
    .ok (some ((strcpyText (replaceAll rep (new.getD []) orig)).map some))

instance (malloc : Nat → Bool) (orig rep : List Char) (new : Option (List Char)) :
    Decidable (Replaces malloc orig rep new) :=
  inferInstanceAs (Decidable (_ = Except.ok _))

/-! ## Lengths that are `int`s -/

def Sized (text : List Char) : Prop := text.length < 2 ^ 31

instance (text : List Char) : Decidable (Sized text) := inferInstanceAs (Decidable (_ < _))

theorem intResult_of_fits {x : Int} (h : FitsInt x) : intResult x = .ok x := if_pos h

theorem fitsInt_natCast {n : Nat} (h : n < 2 ^ 31) : FitsInt n := by
  unfold FitsInt
  omega

theorem wrapInt_length {text : List Char} (h : Sized text) :
    wrapInt text.length = text.length := wrapInt_of_fits (fitsInt_natCast h)

theorem toSize_natCast {n : Nat} (h : n ≤ SIZE_MAX) : toSize n = n := by
  unfold toSize
  have hlt : n < SIZE_MAX + 1 := Nat.lt_succ_of_le h
  rw [← Int.natCast_emod, Nat.mod_eq_of_lt hlt, Int.toNat_natCast]

theorem stringAt_append (front text : List Char) :
    stringAt (front ++ text) front.length = .ok text := by
  unfold stringAt
  rw [if_pos]
  · rw [Int.toNat_natCast, List.drop_left]
  · rw [List.length_append]
    omega

theorem write_append (written : List Char) {rest : Block} {chars : List Char}
    (h : chars.length ≤ rest.length) :
    write (written.map some ++ rest) written.length chars =
      .ok ((written ++ chars).map some ++ rest.drop chars.length) := by
  unfold write
  rw [if_pos]
  · have hlength : (written.map some).length = written.length := List.length_map ..
    rw [Int.toNat_natCast, List.map_append, ← hlength, List.take_left, List.drop_append]
    simp
  · rw [List.length_append, List.length_map]
    omega

/-! ## The count -/

theorem countPass_none {rep text : List Char} (h : findSub rep text = none) (front : List Char)
    (len_rep count : Int) :
    countPass (front ++ text) rep len_rep (front.length, count) = .ok (.done count) := by
  unfold countPass
  rw [stringAt_append, ok_bind, h]
  rfl

theorem countPass_some {rep text : List Char} {i : Nat} (h : findSub rep text = some i) {count : Nat}
    (hcount : count + 1 < 2 ^ 31) (front : List Char) (len_rep : Int) :
    countPass (front ++ text) rep len_rep (front.length, count) =
      .ok (.again (front.length + i + len_rep, (count + 1 : Nat))) := by
  have hnext : intResult ((count : Int) + 1) = .ok ((count + 1 : Nat) : Int) :=
    intResult_of_fits (fitsInt_natCast hcount)
  unfold countPass
  rw [stringAt_append, ok_bind, h]
  change (intResult ((count : Int) + 1) >>= _) = _
  rw [hnext, ok_bind]
  rfl

section Sized

variable {rep : List Char} (hrep : rep ≠ [])

include hrep

theorem loop_countPass (fuel : Nat) (front text : List Char) (count : Nat)
    (hfuel : text.length < fuel) (hfits : count + occurrences rep text < 2 ^ 31) :
    loop (countPass (front ++ text) rep rep.length) fuel (front.length, count) =
      .ok (some ((count + occurrences rep text : Nat) : Int)) := by
  induction fuel generalizing front text count with
  | zero => omega
  | succ fuel ih =>
      rw [loop_succ]
      cases h : findSub rep text with
      | none => rw [countPass_none h, occurrences_of_findSub_none h, Nat.add_zero]
      | some i =>
          obtain ⟨before, rest, htext, hi, -, hcount⟩ := exists_of_findSub hrep h rep
          have hpos := List.length_pos_of_ne_nil hrep
          have hlength : text.length = before.length + (rep.length + rest.length) := by
            rw [htext, List.length_append, List.length_append]
          have hins : (front.length : Int) + i + rep.length =
              ((front ++ (before ++ rep)).length : Nat) := by
            simp only [List.length_append, hi]
            omega
          have hrest := ih (front ++ (before ++ rep)) rest (count + 1) (by omega) (by omega)
          have hsum : count + 1 + occurrences rep rest = count + occurrences rep text := by omega
          have horig : front ++ text = front ++ (before ++ rep) ++ rest := by
            rw [htext]
            simp only [List.append_assoc]
          rw [countPass_some h (by omega), hins, horig, ← hsum]
          exact hrest

end Sized

/-! ## The filled block -/

theorem strncpyText_append (front text : List Char) :
    strncpyText (front ++ text) front.length = front := by
  unfold strncpyText
  have hnone : front.length - (front ++ text).length = 0 := by
    rw [List.length_append]
    omega
  rw [List.take_left, hnone, List.replicate_zero, List.append_nil]

/-- One pass writes what stands in front of the occurrence and the new text. -/
theorem fillPass_eq {rep : List Char} (new front before after written : List Char) (rest : Block)
    (hfind : findSub rep (before ++ (rep ++ after)) = some before.length)
    (hbefore : before.length + rep.length < 2 ^ 31)
    (hroom : before.length + new.length < rest.length) :
    ∃ rest' : Block, before.length + new.length + rest'.length = rest.length ∧
      fillPass (front ++ (before ++ (rep ++ after))) rep new rep.length new.length
          ⟨front.length, written.length, written.map some ++ rest⟩ =
        .ok ⟨(front ++ (before ++ rep)).length, (written ++ (before ++ new)).length,
          (written ++ (before ++ new)).map some ++ rest'⟩ := by
  have hlt : before.length < 2 ^ 31 := by omega
  have hfront : wrapInt before.length = before.length := wrapInt_of_fits (fitsInt_natCast hlt)
  have hsize : toSize before.length = before.length :=
    toSize_natCast (le_trans hlt.le (by decide))
  have hfirst : write (written.map some ++ rest) written.length before = _ :=
    write_append written (by omega)
  have hsecond : write ((written ++ before).map some ++ rest.drop before.length)
      (written ++ before).length (strcpyText new) = _ :=
    write_append (written ++ before) (by simp [strcpyText]; omega)
  have hnext : intResult ((before.length : Int) + rep.length) =
      .ok ((before.length + rep.length : Nat) : Int) := intResult_of_fits (fitsInt_natCast hbefore)
  have htmp : (written.length : Int) + before.length = ((written ++ before).length : Nat) := by
    rw [List.length_append, Int.natCast_add]
  refine ⟨some NUL :: (rest.drop before.length).drop (new.length + 1), ?_, ?_⟩
  · rw [List.length_cons, List.length_drop, List.length_drop]
    omega
  · unfold fillPass
    rw [stringAt_append, ok_bind, hfind]
    dsimp only
    rw [hfront, hsize, strncpyText_append, hfirst, ok_bind, htmp, hsecond, ok_bind, hnext, ok_bind]
    simp only [strcpyText, List.map_append, List.append_assoc, List.length_append,
      List.map_cons, List.map_nil, List.cons_append, List.nil_append, pure, Except.pure,
      Int.natCast_add, List.length_cons, List.length_nil, Int.add_assoc, Nat.zero_add]

section Sized

variable {rep : List Char} (hrep : rep ≠ [])

include hrep

theorem fill_eq (new front text written : List Char) (rest : Block) (horig : Sized (front ++ text))
    (hroom : (replaceAll rep new text).length < rest.length) :
    ∃ (orig tail filled : List Char) (rest' : Block), front ++ text = orig ++ tail ∧
      filled ++ tail = written ++ replaceAll rep new text ∧
      filled.length + rest'.length = written.length + rest.length ∧
      fill (front ++ text) rep new rep.length new.length (occurrences rep text)
          ⟨front.length, written.length, written.map some ++ rest⟩ =
        .ok ⟨orig.length, filled.length, filled.map some ++ rest'⟩ := by
  induction hn : text.length using Nat.strong_induction_on generalizing front text written rest with
  | _ n ih =>
      cases h : findSub rep text with
      | none =>
          refine ⟨front, text, written, rest, rfl, ?_, rfl, ?_⟩
          · rw [replaceAll_of_findSub_none h]
          · rw [occurrences_of_findSub_none h]
            rfl
      | some i =>
          obtain ⟨before, after, htext, rfl, hreplace, hcount⟩ := exists_of_findSub hrep h new
          have hpos := List.length_pos_of_ne_nil hrep
          have hlength : text.length = before.length + (rep.length + after.length) := by
            rw [htext, List.length_append, List.length_append]
          have hsized : front.length + text.length < 2 ^ 31 := by
            rw [← List.length_append]
            exact horig
          have hlen : (replaceAll rep new text).length =
              before.length + (new.length + (replaceAll rep new after).length) := by
            rw [hreplace, List.length_append, List.length_append]
          have hnext : front ++ text = front ++ (before ++ rep) ++ after := by
            rw [htext]
            simp only [List.append_assoc]
          obtain ⟨rest₁, hrest₁, hpass⟩ := fillPass_eq new front before after written rest
            (htext ▸ h) (by omega) (by omega)
          rw [hnext] at horig
          obtain ⟨orig, tail, filled, rest', htail, hfilled, hrest', hfill⟩ :=
            ih after.length (by omega) (front ++ (before ++ rep)) after (written ++ (before ++ new))
              rest₁ horig (by omega) rfl
          refine ⟨orig, tail, filled, rest', hnext.trans htail, ?_, ?_, ?_⟩
          · rw [hfilled, hreplace]
            simp only [List.append_assoc]
          · rw [hrest', List.length_append, List.length_append]
            omega
          · rw [hcount, fill, htext, hpass, ok_bind, ← htext, hnext]
            exact hfill

/-! ## The allocation -/

variable {malloc : Nat → Bool} {orig : List Char} {new : Option (List Char)}

theorem length_replaceAll_int (orig new : List Char) :
    ((replaceAll rep new orig).length : Int) =
      orig.length + ((new.length : Int) - rep.length) * occurrences rep orig := by
  have h := congrArg (Nat.cast (R := Int)) (length_replaceAll hrep new orig)
  rw [Int.natCast_add, Int.natCast_add, Int.natCast_mul, Int.natCast_mul] at h
  rw [Int.sub_mul, Int.mul_comm (new.length : Int), Int.mul_comm (rep.length : Int)]
  omega

theorem fill_block (new : List Char) (horig : Sized orig) :
    (do
      let s ← fill orig rep new rep.length new.length (occurrences rep orig)
        ⟨0, 0, List.replicate ((replaceAll rep new orig).length + 1) none⟩
      some <$> write s.result s.tmp (strcpyText (← stringAt orig s.orig))) =
        .ok (some ((strcpyText (replaceAll rep new orig)).map some)) := by
  obtain ⟨front, tail, filled, rest, htail, hfilled, hrest, hfill⟩ :=
    fill_eq hrep new [] orig [] (List.replicate ((replaceAll rep new orig).length + 1) none) horig
      (by simp)
  rw [List.nil_append] at htail hfilled hfill
  have hlength : filled.length + tail.length = (replaceAll rep new orig).length := by
    rw [← hfilled, List.length_append]
  rw [List.length_replicate, List.length_nil] at hrest
  have hroom : (strcpyText tail).length ≤ rest.length := by
    rw [strcpyText, List.length_append, List.length_singleton]
    omega
  have hdrop : rest.drop (strcpyText tail).length = [] := by
    apply List.drop_of_length_le
    rw [strcpyText, List.length_append, List.length_singleton]
    omega
  have hstring : stringAt orig front.length = .ok tail := by
    rw [htail]
    exact stringAt_append front tail
  refine Eq.trans (congrArg (· >>= _) hfill) ?_
  rw [ok_bind, hstring, ok_bind, write_append filled hroom, hdrop, List.append_nil]
  rw [strcpyText, ← List.append_assoc, hfilled]
  rfl

/-- On strings whose lengths are `int`s the replacement is right unless the difference of the lengths
times the count overflows. -/
theorem replaces_iff (horig : Sized orig) (hsrep : Sized rep) (hnew : Sized (new.getD [])) :
    Replaces malloc orig rep new ↔
      FitsInt (((new.getD []).length - rep.length) * occurrences rep orig) ∧
        malloc ((replaceAll rep (new.getD []) orig).length + 1) := by
  have hzero : (rep.length : Int) ≠ 0 := by
    have hpos := List.length_pos_of_ne_nil hrep
    omega
  have hle := occurrences_le hrep orig
  have hcount : occurrences rep orig < 2 ^ 31 := lt_of_le_of_lt hle horig
  have hloop : loop (countPass orig rep rep.length) (orig.length + 2) (0, 0) =
      .ok (some (occurrences rep orig : Int)) := by
    simpa using loop_countPass hrep (orig.length + 2) [] orig 0 (by omega) (by simpa using hcount)
  have hlonger : intResult ((new.getD []).length - rep.length) =
      .ok ((new.getD []).length - rep.length) := by
    refine intResult_of_fits ?_
    unfold Sized at hsrep hnew
    unfold FitsInt
    omega
  unfold Replaces str_replace
  dsimp only
  rw [wrapInt_length hsrep, wrapInt_length hnew, if_neg hzero, hloop, ok_bind]
  dsimp only
  rw [hlonger, ok_bind]
  by_cases hfits : FitsInt (((new.getD []).length - rep.length) * occurrences rep orig)
  · have hsize : toSize (orig.length +
        ((new.getD []).length - rep.length) * occurrences rep orig + 1) =
          (replaceAll rep (new.getD []) orig).length + 1 := by
      rw [← length_replaceAll_int hrep, ← Int.natCast_succ]
      apply toSize_natCast
      have hlength := length_replaceAll_int hrep orig (new.getD [])
      unfold Sized at horig
      unfold FitsInt at hfits
      unfold SIZE_MAX
      omega
    rw [intResult_of_fits hfits, ok_bind, hsize]
    cases hgranted : malloc ((replaceAll rep (new.getD []) orig).length + 1) with
    | false =>
        refine iff_of_false ?_ (by simp)
        intro h
        cases h
    | true =>
        rw [if_pos rfl, Int.toNat_natCast, fill_block hrep _ horig]
        simp [hfits]
  · have hover : intResult (((new.getD []).length - rep.length) * occurrences rep orig) =
        .error .overflow := if_neg hfits
    rw [hover, error_bind]
    refine iff_of_false ?_ (fun h => hfits h.1)
    intro h
    cases h

end Sized

end AwHal.Wireless
