import AwHal.Camera.WaterMarkText
import AwHal.Lib.Fields
import AwHal.Pq.Firmware

/-!
# Several watermarks in one text

`doWaterMarkMultiple` of `water_mark_interface.c` takes a text of comma-separated fields apart, three
fields to a mark, and draws the marks.
-/

namespace AwHal.Camera.WaterMarkTriples

open AwHal.Lib AwHal.Camera.WaterMarkText
open AwHal.Pq (atoi)

def MAX_WATERMARK_NUM : Nat := 5

def MAX_WATERMARK_LENGTH : Nat := 20

/-- The bytes of `content` in front of its NUL. -/
structure SingleWaterMark where
  mPositionX : Int
  mPositionY : Int
  content : List UInt8
  fits : content.length < MAX_WATERMARK_LENGTH

structure WaterMarkMultiple where
  mWaterMarkNum : Nat
  mSingleWaterMark : Vector SingleWaterMark MAX_WATERMARK_NUM

def initWaterMarkMultiple : WaterMarkMultiple :=
  ⟨0, Vector.replicate MAX_WATERMARK_NUM ⟨0, 0, [], by decide⟩⟩

structure Call where
  mark : Nat
  posx : Int
  posy : Int
  display : List UInt8

/-- What `doWaterMarkMultiple` leaves: its tokens, the marks and the calls it has made. -/
structure Result where
  allContent : List (Piece UInt8)
  multi : WaterMarkMultiple
  drawn : List Call

/-! ## Reading -/

def comma (c : UInt8) : Bool := c == ','.toUInt8

/-- The loop around `strtok_r`, with `room` entries of `allContent` left.  The null pointer at the end
needs one of them. -/
def tokenize : Nat → Nat → List UInt8 → Option (List (Piece UInt8))
  | 0, _, _ => none
  | room + 1, start, rest =>
      match strtok_r comma start rest with
      | none => some []
      | some (token, start, rest) => do
          let more ← tokenize room start rest
          return token :: more

def strcpy (mPositionX mPositionY : Int) (source : List UInt8) : Option SingleWaterMark :=
  if h : source.length < MAX_WATERMARK_LENGTH then some ⟨mPositionX, mPositionY, source, h⟩
  else none

def store (allContent : List (Piece UInt8)) :
    Nat → Nat → Nat → Vector SingleWaterMark MAX_WATERMARK_NUM →
    Option (Vector SingleWaterMark MAX_WATERMARK_NUM)
  | 0, _, _, marks => some marks
  | count + 1, i, j, marks => do
      let x ← allContent[j]?
      let y ← allContent[j + 1]?
      let text ← allContent[j + 2]?
      let mark ← strcpy (atoi x.text) (atoi y.text) text.text
      if h : i < MAX_WATERMARK_NUM then store allContent count (i + 1) (j + 3) (marks.set i mark)
      else none

/-! ## Drawing -/

section Draw

variable {F : Type} [CFloat F]

structure WaterMarkInData (F : Type) where
  height : Nat
  resolution_rate : F

def scaled (resolution_rate : F) (position : Int) : Int :=
  let value := CFloat.mul (CFloat.ofInt position) resolution_rate
  if CFloat.lt value (CFloat.ofInt 0 : F) then CFloat.ceil value else CFloat.floor value

def call (data : WaterMarkInData F) (i : Nat) (mark : SingleWaterMark) (display : List UInt8) :
    Call :=
  if data.height = 540 then
    ⟨i, scaled data.resolution_rate mark.mPositionX, scaled data.resolution_rate mark.mPositionY,
      display⟩
  else ⟨i, mark.mPositionX, mark.mPositionY, display⟩

def draw (data : WaterMarkInData F) (marks : Vector SingleWaterMark MAX_WATERMARK_NUM) :
    Nat → Nat → Option (List Call)
  | 0, _ => some []
  | count + 1, i => do
      let mark ← marks[i]?
      let more ← draw data marks count (i + 1)
      return call data i mark mark.content :: more

/-- None after an access outside an array. -/
def doWaterMarkMultiple (data : WaterMarkInData F) (wm_multi : WaterMarkMultiple)
    (content time_watermark : Text) : Option Result := do
  let allContent ← tokenize (MAX_WATERMARK_NUM * 3) 0 content.bytes
  let count := allContent.length
  let marks ← store allContent (count / 3) 0 0 wm_multi.mSingleWaterMark
  let first ← marks[0]?
  let more ← draw data marks (count / 3 - 1) 1
  return ⟨allContent, ⟨count / 3, marks⟩, call data 0 first time_watermark.bytes :: more⟩

end Draw

/-! ## Triples -/

def contentFields (content : Text) : List (Piece UInt8) := fields comma 0 content.bytes

def triples (content : Text) : Nat := (contentFields content).length / 3

/-- The marks are the first triples of fields, and a mark that an earlier call has stored is drawn
only if this one has stored it, too. -/
structure Reads (content : Text) (stored : Nat → Prop) (result : Result) : Prop where
  number : result.multi.mWaterMarkNum = min MAX_WATERMARK_NUM (triples content)
  pointers : ∀ m < 3 * result.multi.mWaterMarkNum,
    result.allContent[m]?.map Piece.start = (contentFields content)[m]?.map Piece.start
  marks : ∀ i < result.multi.mWaterMarkNum, ∀ mark, result.multi.mSingleWaterMark[i]? = some mark →
    (contentFields content)[3 * i]?.map (fun x => atoi x.text) = some mark.mPositionX ∧
      (contentFields content)[3 * i + 1]?.map (fun y => atoi y.text) = some mark.mPositionY ∧
      (contentFields content)[3 * i + 2]?.map Piece.text = some mark.content
  drawn : ∀ c ∈ result.drawn, c.mark < result.multi.mWaterMarkNum ∨ ¬ stored c.mark

/-- Four triples at most, without an empty field in them and with texts that fit. -/
structure Fits (content : Text) : Prop where
  number : triples content < MAX_WATERMARK_NUM
  nonempty : ∀ field ∈ (contentFields content).take (3 * triples content), field.text ≠ []
  length : ∀ i < triples content, ∀ field, (contentFields content)[3 * i + 2]? = some field →
    field.text.length < MAX_WATERMARK_LENGTH

/-! ## The loops -/

theorem tokenize_eq (room start : Nat) (rest : List UInt8) :
    tokenize room start rest =
      if (tokens comma start rest).length < room then some (tokens comma start rest) else none := by
  induction room generalizing start rest with
  | zero => rfl
  | succ room ih =>
      have htoken := strtok_r_eq comma start rest
      rw [tokenize]
      cases hnext : strtok_r comma start rest with
      | none =>
          rw [hnext] at htoken
          rw [htoken]
          rfl
      | some next =>
          obtain ⟨token, start', rest'⟩ := next
          simp only [hnext] at htoken
          simp only [htoken, ih, List.length_cons, Nat.add_lt_add_iff_right]
          split <;> rfl

/-- The entries of `allContent` that mark `i` comes from. -/
structure StoredFrom (allContent : List (Piece UInt8)) (i : Nat) (mark : SingleWaterMark) : Prop where
  x : allContent[3 * i]?.map (fun x => atoi x.text) = some mark.mPositionX
  y : allContent[3 * i + 1]?.map (fun y => atoi y.text) = some mark.mPositionY
  content : allContent[3 * i + 2]?.map Piece.text = some mark.content

theorem store_storedFrom {allContent : List (Piece UInt8)} {count i j : Nat}
    {marks marks' : Vector SingleWaterMark MAX_WATERMARK_NUM} (hj : j = 3 * i)
    (hrun : store allContent count i j marks = some marks')
    (hbefore : ∀ k < i, ∀ mark, marks[k]? = some mark → StoredFrom allContent k mark) :
    ∀ k < i + count, ∀ mark, marks'[k]? = some mark → StoredFrom allContent k mark := by
  induction count generalizing i j marks with
  | zero =>
      obtain rfl := Option.some.inj hrun
      exact hbefore
  | succ count ih =>
      subst hj
      simp only [store, Option.bind_eq_bind, Option.bind_eq_some_iff] at hrun
      obtain ⟨x, hx, y, hy, text, htext, mark, hmark, hrest⟩ := hrun
      split at hrest
      · rename_i hi
        have hpass := ih (i := i + 1) rfl hrest
        rw [show i + 1 + count = i + (count + 1) by omega] at hpass
        apply hpass
        intro k hk mark' hmark'
        by_cases hki : k = i
        · subst hki
          rw [Vector.getElem?_set_self hi, Option.some.injEq] at hmark'
          subst hmark'
          unfold strcpy at hmark
          split at hmark
          · obtain rfl := Option.some.inj hmark
            exact ⟨by rw [hx]; rfl, by rw [hy]; rfl, by rw [htext]; rfl⟩
          · cases hmark
        · rw [Vector.getElem?_set_ne hi (Ne.symm hki)] at hmark'
          exact hbefore k (by omega) mark' hmark'
      · cases hrest

theorem store_some {allContent : List (Piece UInt8)} (count i j : Nat)
    (marks : Vector SingleWaterMark MAX_WATERMARK_NUM) (hj : j = 3 * i)
    (htokens : 3 * (i + count) ≤ allContent.length) (hmarks : i + count ≤ MAX_WATERMARK_NUM)
    (hfits : ∀ k < i + count, ∀ text, allContent[3 * k + 2]? = some text →
      text.text.length < MAX_WATERMARK_LENGTH) :
    ∃ marks', store allContent count i j marks = some marks' := by
  induction count generalizing i j marks with
  | zero => exact ⟨marks, rfl⟩
  | succ count ih =>
      subst hj
      have hx := List.getElem?_eq_getElem (l := allContent) (i := 3 * i) (by omega)
      have hy := List.getElem?_eq_getElem (l := allContent) (i := 3 * i + 1) (by omega)
      have htext := List.getElem?_eq_getElem (l := allContent) (i := 3 * i + 2) (by omega)
      have hshort := hfits i (by omega) _ htext
      simp only [store, hx, hy, htext, strcpy, dif_pos hshort, Option.bind_eq_bind,
        Option.bind_some, dif_pos (show i < MAX_WATERMARK_NUM by omega)]
      exact ih (i + 1) _ _ (by omega) (by omega) (by omega) fun k hk => hfits k (by omega)

/-! ## Fields and tokens -/

theorem token_mem_fields {content : Text} {m : Nat} {token : Piece UInt8}
    (h : (tokens comma 0 content.bytes)[m]? = some token) :
    token.text ≠ [] ∧ ∃ n : Nat, (contentFields content)[n]? = some token := by
  have hmem := List.mem_of_getElem? h
  rw [tokens, List.mem_filter] at hmem
  obtain ⟨hfield, hnonempty⟩ := hmem
  obtain ⟨n, hn⟩ := List.getElem?_of_mem hfield
  refine ⟨?_, n, hn⟩
  intro hnil
  simp [Piece.nonempty, hnil] at hnonempty

theorem tokens_of_nonempty {content : Text}
    (h : ∀ field ∈ (contentFields content).take (3 * triples content), field.text ≠ []) :
    (tokens comma 0 content.bytes).length / 3 = triples content ∧
      ∀ m < 3 * triples content,
        (tokens comma 0 content.bytes)[m]? = (contentFields content)[m]? := by
  have hle : 3 * triples content ≤ (contentFields content).length := by
    unfold triples
    omega
  have hrest : (contentFields content).length < 3 * triples content + 3 := by
    unfold triples
    omega
  have hfront : ((contentFields content).take (3 * triples content)).filter Piece.nonempty =
      (contentFields content).take (3 * triples content) := by
    rw [List.filter_eq_self]
    intro field hfield
    simpa [Piece.nonempty] using h field hfield
  have hsplit : tokens comma 0 content.bytes =
      (contentFields content).take (3 * triples content) ++
        ((contentFields content).drop (3 * triples content)).filter Piece.nonempty := by
    rw [tokens, ← hfront, ← List.filter_append, List.take_append_drop, contentFields]
  have htail := List.length_filter_le Piece.nonempty
    ((contentFields content).drop (3 * triples content))
  rw [List.length_drop] at htail
  have hlength : ((contentFields content).take (3 * triples content)).length =
      3 * triples content := List.length_take_of_le hle
  constructor
  · rw [hsplit, List.length_append, hlength]
    omega
  · intro m hm
    rw [hsplit, List.getElem?_append_left (by omega), List.getElem?_take_of_lt hm]

section Draw

variable {F : Type} [CFloat F]

theorem draw_some (data : WaterMarkInData F) (marks : Vector SingleWaterMark MAX_WATERMARK_NUM)
    (count i : Nat) (h : i + count ≤ MAX_WATERMARK_NUM) :
    ∃ calls, draw data marks count i = some calls ∧ ∀ c ∈ calls, c.mark < i + count := by
  induction count generalizing i with
  | zero => exact ⟨[], rfl, fun c hc => absurd hc List.not_mem_nil⟩
  | succ count ih =>
      obtain ⟨calls, hcalls, hmark⟩ := ih (i + 1) (by omega)
      have hi : marks[i]? = some marks[i] := Vector.getElem?_eq_getElem (by omega)
      refine ⟨call data i marks[i] marks[i].content :: calls, ?_, ?_⟩
      · simp only [draw, hi, hcalls, Option.bind_eq_bind, Option.bind_some]
        rfl
      · intro c hc
        rcases List.mem_cons.mp hc with rfl | hc
        · simp only [call]
          split <;> exact Nat.lt_add_of_pos_right (Nat.succ_pos count)
        · have := hmark c hc
          omega

theorem doWaterMarkMultiple_eq_some_iff (data : WaterMarkInData F) (wm_multi : WaterMarkMultiple)
    (content time_watermark : Text) (result : Result) :
    doWaterMarkMultiple data wm_multi content time_watermark = some result ↔
      (tokens comma 0 content.bytes).length < MAX_WATERMARK_NUM * 3 ∧
      result.allContent = tokens comma 0 content.bytes ∧
      result.multi.mWaterMarkNum = result.allContent.length / 3 ∧
      store result.allContent result.multi.mWaterMarkNum 0 0 wm_multi.mSingleWaterMark =
        some result.multi.mSingleWaterMark ∧
      ∃ more,
        draw data result.multi.mSingleWaterMark (result.multi.mWaterMarkNum - 1) 1 = some more ∧
        result.drawn =
          call data 0 result.multi.mSingleWaterMark[0] time_watermark.bytes :: more := by
  have hfirst : ∀ marks : Vector SingleWaterMark MAX_WATERMARK_NUM, marks[0]? = some marks[0] :=
    fun marks => Vector.getElem?_eq_getElem (by decide)
  simp only [doWaterMarkMultiple, tokenize_eq, Option.bind_eq_bind, Option.bind_eq_some_iff,
    Option.ite_none_right_eq_some, hfirst, Option.some.injEq, Option.pure_def]
  constructor
  · rintro ⟨_, ⟨hroom, rfl⟩, marks, hstore, _, rfl, more, hdraw, rfl⟩
    exact ⟨hroom, rfl, rfl, hstore, more, hdraw, rfl⟩
  · obtain ⟨allContent, ⟨num, marks⟩, drawn⟩ := result
    rintro ⟨hroom, hcontent, hnum, hstore, more, hdraw, hdrawn⟩
    dsimp only at hcontent hnum hstore hdraw hdrawn
    subst hcontent hnum hdrawn
    exact ⟨_, ⟨hroom, rfl⟩, marks, hstore, _, rfl, more, hdraw, rfl⟩

end Draw

/-! ## A text of triples -/

section Triples

variable {F : Type} [CFloat F] (data : WaterMarkInData F) (wm_multi : WaterMarkMultiple)
  (content time_watermark : Text)

theorem fits_of_reads {stored : Nat → Prop} {result : Result}
    (hrun : doWaterMarkMultiple data wm_multi content time_watermark = some result)
    (hreads : Reads content stored result) :
    Fits content ∧ (0 < triples content ∨ ¬ stored 0) := by
  obtain ⟨hroom, hcontent, hnum, hstore, more, -, hdrawn⟩ :=
    (doWaterMarkMultiple_eq_some_iff data wm_multi content time_watermark result).mp hrun
  have hlt : result.multi.mWaterMarkNum < MAX_WATERMARK_NUM := by
    rw [hnum, hcontent]
    unfold MAX_WATERMARK_NUM at hroom ⊢
    omega
  have htriples : result.multi.mWaterMarkNum = triples content := by
    have := hreads.number
    omega
  -- A token and a field that start together are the same.
  have hfield : ∀ m < 3 * triples content, ∀ field, (contentFields content)[m]? = some field →
      (tokens comma 0 content.bytes)[m]? = some field ∧ field.text ≠ [] := by
    intro m hm field hfield
    have hstart := hreads.pointers m (by omega)
    rw [hfield, hcontent, Option.map_some, Option.map_eq_some_iff] at hstart
    obtain ⟨token, htoken, hsame⟩ := hstart
    obtain ⟨hne, n, hn⟩ := token_mem_fields htoken
    obtain rfl := fields_start_injective hn hfield hsame
    exact ⟨htoken, hne⟩
  refine ⟨⟨htriples ▸ hlt, ?_, ?_⟩, ?_⟩
  · intro field hmem
    obtain ⟨m, hm⟩ := List.getElem?_of_mem hmem
    rw [List.getElem?_take] at hm
    split at hm
    · rename_i hlt
      exact (hfield m hlt field hm).2
    · cases hm
  · intro i hi field hthird
    obtain ⟨htoken, -⟩ := hfield (3 * i + 2) (by omega) field hthird
    have hindex : i < MAX_WATERMARK_NUM := by omega
    have hmark : result.multi.mSingleWaterMark[i]? = some result.multi.mSingleWaterMark[i] :=
      Vector.getElem?_eq_getElem hindex
    have hfrom := store_storedFrom rfl hstore (fun k hk => absurd hk (Nat.not_lt_zero k)) i
      (by omega) _ hmark
    have htext := hfrom.content
    rw [hcontent, htoken, Option.map_some, Option.some.injEq] at htext
    rw [htext]
    exact SingleWaterMark.fits _
  · have hzero := hreads.drawn (call data 0 result.multi.mSingleWaterMark[0] time_watermark.bytes)
      (hdrawn ▸ List.mem_cons_self)
    have hmark : (call data 0 result.multi.mSingleWaterMark[0] time_watermark.bytes).mark = 0 := by
      unfold call
      split <;> rfl
    rwa [hmark, htriples] at hzero

theorem reads_of_fits {stored : Nat → Prop} (hfits : Fits content)
    (hzero : 0 < triples content ∨ ¬ stored 0) :
    ∃ result, doWaterMarkMultiple data wm_multi content time_watermark = some result ∧
      Reads content stored result := by
  obtain ⟨hnum, htokens⟩ := tokens_of_nonempty hfits.nonempty
  have hmax := hfits.number
  have hmany : 3 * triples content ≤ (tokens comma 0 content.bytes).length := by omega
  have hroom : (tokens comma 0 content.bytes).length < MAX_WATERMARK_NUM * 3 := by
    unfold MAX_WATERMARK_NUM at hmax ⊢
    omega
  have hshort : ∀ k < 0 + triples content, ∀ text,
      (tokens comma 0 content.bytes)[3 * k + 2]? = some text →
        text.text.length < MAX_WATERMARK_LENGTH := by
    intro k hk text htext
    rw [htokens _ (by omega)] at htext
    exact hfits.length k (by omega) text htext
  obtain ⟨marks, hstore⟩ := store_some (triples content) 0 0 wm_multi.mSingleWaterMark rfl
    (by omega) (by omega) hshort
  have hfrom := store_storedFrom rfl hstore fun k hk => absurd hk (Nat.not_lt_zero k)
  obtain ⟨more, hdraw, hmore⟩ := draw_some data marks (triples content - 1) 1
    (by omega)
  refine ⟨⟨tokens comma 0 content.bytes, ⟨triples content, marks⟩,
    call data 0 marks[0] time_watermark.bytes :: more⟩, ?_, ?_, ?_, ?_, ?_⟩
  · exact (doWaterMarkMultiple_eq_some_iff data wm_multi content time_watermark _).mpr
      ⟨hroom, rfl, hnum.symm, hstore, more, hdraw, rfl⟩
  · show triples content = min MAX_WATERMARK_NUM (triples content)
    omega
  · intro m hm
    exact congrArg (Option.map Piece.start) (htokens m hm)
  · intro i hi mark hmark
    have hlt : i < triples content := hi
    obtain ⟨hx, hy, htext⟩ := hfrom i (by omega) mark hmark
    rw [htokens _ (by omega)] at hx hy htext
    exact ⟨hx, hy, htext⟩
  · intro c hc
    rcases List.mem_cons.mp hc with rfl | hc
    · have hmark : (call data 0 marks[0] time_watermark.bytes).mark = 0 := by
        unfold call
        split <;> rfl
      rw [hmark]
      exact hzero
    · have hlt := hmore c hc
      by_cases hpos : 0 < triples content
      · exact Or.inl (show c.mark < triples content by omega)
      · have hnone : triples content - 1 = 0 := by omega
        rw [hnone] at hdraw
        obtain rfl := Option.some.inj hdraw
        exact absurd hc List.not_mem_nil

end Triples

/-- `doWaterMarkMultiple` reads a text as triples of fields exactly when these fit, whatever marks
are there before. -/
theorem doWaterMarkMultiple_reads_iff {F : Type} [CFloat F] (data : WaterMarkInData F)
    (wm_multi : WaterMarkMultiple) (content time_watermark : Text) (stored : Nat → Prop) :
    (∃ result, doWaterMarkMultiple data wm_multi content time_watermark = some result ∧
      Reads content stored result) ↔
      Fits content ∧ (0 < triples content ∨ ¬ stored 0) := by
  constructor
  · rintro ⟨result, hrun, hreads⟩
    exact fits_of_reads data wm_multi content time_watermark hrun hreads
  · rintro ⟨hfits, hzero⟩
    exact reads_of_fits data wm_multi content time_watermark hfits hzero

/-- Five marks fill `allContent`, and the null pointer behind them has no room. -/
theorem doWaterMarkMultiple_five_marks :
    let content : Text :=
      ⟨"0,0,a,0,9,b,0,18,c,0,27,d,0,36,e".toList.map Char.toUInt8,
        List.all_iff_forall_prop.mp (by decide)⟩
    let data : WaterMarkInData Rat := ⟨720, 1⟩
    ¬ ∃ result, doWaterMarkMultiple data initWaterMarkMultiple content content = some result ∧
      Reads content (fun _ => False) result := by
  intro content data
  rintro ⟨result, hrun, -⟩
  have hroom := ((doWaterMarkMultiple_eq_some_iff data initWaterMarkMultiple content content
    result).mp hrun).1
  exact absurd hroom (by decide +kernel)

end AwHal.Camera.WaterMarkTriples
