import AwHal.Lib.CNumber
import Mathlib.Logic.Function.Basic

/-!
# Streams to slots

`V4L2Camera::setupStreams` gives each stream of a configuration to a slot of the stream manager: the
largest one to the main stream of the sensor, the next one to the sub stream, and a third one to a slot
that is still free.
-/

namespace AwHal.Camera.SetupStreams

open AwHal.Lib

def MAIN_STREAM : Nat := 0
def MAIN_STREAM_BLOB : Nat := 1
def SUB_0_STREAM : Nat := 2
def SUB_0_STREAM_BLOB : Nat := 3
def SUB_0_MIRROR_STREAM : Nat := 6
def MAX_STREAM_NUM : Nat := 3

def HAL_PIXEL_FORMAT_BLOB : Nat := 0x21

structure Camera3Stream where
  width : Nat
  height : Nat
  format : Nat
deriving DecidableEq, Repr

namespace Camera3Stream

def pixels (stream : Camera3Stream) : Nat := stream.width * stream.height

def area (stream : Camera3Stream) : Nat := stream.pixels % 2 ^ 32

def isBlob (stream : Camera3Stream) : Bool := stream.format == HAL_PIXEL_FORMAT_BLOB

end Camera3Stream

/-- A call of `createStream`, and whether its result, the new `priv` of the stream, is a stream. -/
structure Created where
  stream : Nat
  slot : Nat
  nonnull : Bool
deriving DecidableEq, Repr

structure Setup where
  mStreamTracker : Nat → Bool := fun _ => false
  mSourceStreamTracker : Nat → Bool := fun _ => false
  mConnection : Nat → Bool := fun _ => false
  numStreamsSet : Nat := 0
  mainIndex : Int := -1
  subIndex : Int := -1
  thirdIndex : Int := -1
  -- a record of the calls
  created : List Created := []

/-- Why `setupStreams` stops: it returns `-EINVAL`, or it indexes an array outside of its bounds. -/
inductive Stop where
  | einval (s : Setup)
  | outside (s : Setup)

/-! ## The roles of the streams -/

def max (a b c : Int) : Int :=
  if a ≥ b then if a ≥ c then 0 else 2
  else if b ≥ c then 1 else 2

def min (a b c : Int) : Int :=
  if a ≥ b then if b ≥ c then 2 else 1
  else if a ≥ c then 2 else 0

section

variable (streams : List Camera3Stream)

def streamAt (i : Int) : Option Camera3Stream := if i < 0 then none else streams[i.toNat]?

/-- The index, and whether the stream under it is a blob; nothing if there is none under it. -/
def modeOf (i : Int) : Option (Int × Bool) :=
  (streamAt streams i).map fun stream => (i, stream.isBlob)

def findMain : Option (Int × Bool) :=
  match streams with
  | [_] => modeOf streams 0
  | [a, b] => modeOf streams (if a.area ≥ b.area then 0 else 1)
  | [a, b, c] => modeOf streams (max (wrapInt a.area) (wrapInt b.area) (wrapInt c.area))
  | _ => some (-1, false)

def findSub : Option (Int × Bool) :=
  match streams with
  | [] => modeOf streams (-1)
  | [_] => modeOf streams (-1)
  | [_, _] => (findMain streams).bind fun (maintmp, _) => modeOf streams (if maintmp = 1 then 0 else 1)
  | [a, b, c] =>
      let maxtmp := max (wrapInt a.area) (wrapInt b.area) (wrapInt c.area)
      let mintmp := min (wrapInt a.area) (wrapInt b.area) (wrapInt c.area)
      modeOf streams (([0, 1, 2] : List Int).foldl
        (fun mStreamIndex i => if i ≠ maxtmp ∧ i ≠ mintmp then i else mStreamIndex) (-1))
  | _ => some (-1, false)

/-! ## Passes of the loop -/

variable (opens : Nat → Bool)

def Setup.placed (s : Setup) (index slot : Nat) : Setup :=
  { s with
    mConnection := Function.update s.mConnection slot true
    mSourceStreamTracker := Function.update s.mSourceStreamTracker index true
    mStreamTracker := Function.update s.mStreamTracker slot true
    numStreamsSet := s.numStreamsSet + 1
    created := s.created ++ [⟨index, slot, true⟩] }

/-- `createStream` for a slot, and what `setupStreams` does after it.  A slot that is connected already
gives no stream; `opens` says whether the call with that number gets one otherwise. -/
def place (index slot : Nat) (s : Setup) : Except Stop Setup :=
  if s.mConnection slot = false ∧ opens s.created.length = true then .ok (s.placed index slot)
  else .error (.einval { s with created := s.created ++ [⟨index, slot, false⟩] })

def detectSource (s : Setup) : Int × Bool :=
  (List.range streams.length).foldl
    (fun (found : Int × Bool) k =>
      if s.mSourceStreamTracker k = false then
        (k, found.2 || (streams[k]?.map Camera3Stream.isBlob).getD false)
      else found)
    (-1, false)

def thirdBlob (thirdIndex : Nat) (isBlob : Bool) : List Nat → Setup → Except Stop Setup
  | [], s => .ok s
  | j :: rest, s =>
      if s.mStreamTracker j = false ∧ isBlob then place opens thirdIndex j s
      else if s.numStreamsSet = streams.length then .ok s
      else thirdBlob thirdIndex isBlob rest s

/-- The picture of the sub stream is not larger than the third one by a factor of 5. -/
def linksTo (s : Setup) (thirdIndex : Int) : Option Bool :=
  if s.numStreamsSet ≠ streams.length then
    (streamAt streams s.subIndex).bind fun sub =>
      (streamAt streams thirdIndex).map fun third =>
        sub.width / third.width < 5 && sub.height / third.height < 5
  else some false

def mirror (thirdIndex : Nat) (isBlob : Bool) (s : Setup) : Except Stop Setup :=
  if s.numStreamsSet ≠ streams.length then
    if s.mStreamTracker SUB_0_MIRROR_STREAM = false then
      place opens thirdIndex (SUB_0_MIRROR_STREAM + isBlob.toNat) s
    else .ok s
  else .ok s

def thirdStream (s : Setup) : Except Stop Setup :=
  let (thirdIndex, isBlob) := detectSource streams s
  let s := { s with thirdIndex := if thirdIndex = -1 then s.thirdIndex else thirdIndex }
  match linksTo streams s s.thirdIndex with
  | none => .error (.outside s)
  | some links =>
      (if links then
        thirdBlob streams opens s.thirdIndex.toNat isBlob [SUB_0_STREAM_BLOB, MAIN_STREAM_BLOB] s
      else .ok s).bind (mirror streams opens s.thirdIndex.toNat isBlob)

def subStream (s : Setup) : Except Stop Setup :=
  match findSub streams with
  | none => .error (.outside s)
  | some (retIndex, isBlob) =>
      if retIndex ≥ 0 ∧ s.mStreamTracker (SUB_0_STREAM + isBlob.toNat) = false then
        place opens retIndex.toNat (SUB_0_STREAM + isBlob.toNat) { s with subIndex := retIndex }
      else thirdStream streams opens s

def mainStream (s : Setup) : Except Stop Setup :=
  match findMain streams with
  | none => .error (.outside s)
  | some (retIndex, isBlob) =>
      if retIndex ≥ 0 ∧ s.mStreamTracker (MAIN_STREAM + isBlob.toNat) = false then
        place opens retIndex.toNat (MAIN_STREAM + isBlob.toNat) { s with mainIndex := retIndex }
      else subStream streams opens s

def passes : Nat → Setup → Except Stop Setup
  | 0, s => .ok s
  | n + 1, s => (mainStream streams opens s).bind (passes n)

/-- What `setupStreams` returns 0 with, or why it stops. -/
def setupStreams : Except Stop Setup :=
  if streams.length < 1 ∨ streams.length > MAX_STREAM_NUM then .error (.einval {})
  else passes streams opens streams.length {}

end

def calls : Except Stop Setup → List Created
  | .ok s => s.created
  | .error (.einval s) => s.created
  | .error (.outside s) => s.created

/-! ## What is promised -/

/-- Each stream has a slot of its own; the main one is a largest one, and the sub one of three is
between the others. -/
structure AssignsEvery (streams : List Camera3Stream) (s : Setup) : Prop where
  numStreamsSet : s.numStreamsSet = streams.length
  once : ∀ k < streams.length, (s.created.map Created.stream).count k = 1
  slots : (s.created.map Created.slot).Nodup
  main : ∃ m main, s.mainIndex = (m : Nat) ∧ streams[m]? = some main ∧
    ⟨m, MAIN_STREAM + main.isBlob.toNat, true⟩ ∈ s.created ∧
    ∀ stream ∈ streams, stream.pixels ≤ main.pixels
  sub : streams.length = 3 → ∃ u sub, s.subIndex = (u : Nat) ∧ streams[u]? = some sub ∧
    ⟨u, SUB_0_STREAM + sub.isBlob.toNat, true⟩ ∈ s.created ∧
    ∃ i j larger smaller, streams[i]? = some larger ∧ streams[j]? = some smaller ∧
      i ≠ u ∧ j ≠ u ∧ i ≠ j ∧ smaller.pixels ≤ sub.pixels ∧
      sub.pixels ≤ larger.pixels

/-! ## The passes one by one -/

section

variable {streams : List Camera3Stream} {opens : Nat → Bool} {s : Setup}

theorem passes_place {n index slot : Nat} {s' : Setup}
    (hpass : mainStream streams opens s = place opens index slot s')
    (hcreated : ∀ c ∈ calls (passes streams opens (n + 1) s), c.nonnull = true) :
    passes streams opens (n + 1) s = passes streams opens n (s'.placed index slot) := by
  rw [passes, hpass] at hcreated ⊢
  unfold place at hcreated ⊢
  split
  · rfl
  · rename_i hfail
    rw [if_neg hfail] at hcreated
    exact nomatch hcreated ⟨index, slot, false⟩ List.mem_concat_self

theorem place_bind_self {index slot : Nat} {rest : Setup → Except Stop Setup}
    (hrest : rest (s.placed index slot) = .ok (s.placed index slot)) :
    (place opens index slot s).bind rest = place opens index slot s := by
  unfold place
  split
  · exact hrest
  · rfl

theorem mainStream_of_free {m : Nat} {blob : Bool}
    (hmain : findMain streams = some ((m : Int), blob))
    (hfree : s.mStreamTracker (MAIN_STREAM + blob.toNat) = false) :
    mainStream streams opens s =
      place opens m (MAIN_STREAM + blob.toNat) { s with mainIndex := m } := by
  rw [mainStream, hmain]
  dsimp only
  rw [if_pos ⟨Int.natCast_nonneg m, hfree⟩, Int.toNat_natCast]

theorem mainStream_of_taken {m : Nat} {blob : Bool}
    (hmain : findMain streams = some ((m : Int), blob))
    (htaken : s.mStreamTracker (MAIN_STREAM + blob.toNat) = true) :
    mainStream streams opens s = subStream streams opens s := by
  rw [mainStream, hmain]
  dsimp only
  rw [if_neg fun hin => Bool.false_ne_true (hin.2.symm.trans htaken)]

theorem subStream_of_free {u : Nat} {blob : Bool}
    (hsub : findSub streams = some ((u : Int), blob))
    (hfree : s.mStreamTracker (SUB_0_STREAM + blob.toNat) = false) :
    subStream streams opens s =
      place opens u (SUB_0_STREAM + blob.toNat) { s with subIndex := u } := by
  rw [subStream, hsub]
  dsimp only
  rw [if_pos ⟨Int.natCast_nonneg u, hfree⟩, Int.toNat_natCast]

theorem subStream_of_taken {u : Nat} {blob : Bool}
    (hsub : findSub streams = some ((u : Int), blob))
    (htaken : s.mStreamTracker (SUB_0_STREAM + blob.toNat) = true) :
    subStream streams opens s = thirdStream streams opens s := by
  rw [subStream, hsub]
  dsimp only
  rw [if_neg fun hin => Bool.false_ne_true (hin.2.symm.trans htaken)]

theorem thirdBlob_eq {t : Nat} {bm bu bt : Bool} (hnum : s.numStreamsSet ≠ streams.length)
    (hmainBlob : s.mStreamTracker MAIN_STREAM_BLOB = bm)
    (hsubBlob : s.mStreamTracker SUB_0_STREAM_BLOB = bu) :
    thirdBlob streams opens t bt [SUB_0_STREAM_BLOB, MAIN_STREAM_BLOB] s =
      if bu = false ∧ bt then place opens t SUB_0_STREAM_BLOB s
      else if bm = false ∧ bt then place opens t MAIN_STREAM_BLOB s
      else .ok s := by
  rw [thirdBlob, hsubBlob]
  split
  · rfl
  · rw [thirdBlob, hmainBlob]
    split
    · rfl
    · rw [thirdBlob]

/-- With the main and the sub stream in their slots, the third stream gets a slot that is free. -/
theorem thirdStream_eq {t : Nat} {sub third : Camera3Stream} {bm bu bt : Bool}
    (hdetect : detectSource streams s = ((t : Int), bt)) (hnum : s.numStreamsSet + 1 = streams.length)
    (hsub : streamAt streams s.subIndex = some sub) (hthird : streamAt streams t = some third)
    (htracker : s.mStreamTracker = Function.update
      (Function.update (fun _ => false) (MAIN_STREAM + bm.toNat) true) (SUB_0_STREAM + bu.toNat) true) :
    ∃ slot, slot ≠ MAIN_STREAM + bm.toNat ∧ slot ≠ SUB_0_STREAM + bu.toNat ∧
      thirdStream streams opens s = place opens t slot { s with thirdIndex := t } := by
  have hne : s.numStreamsSet ≠ streams.length := by omega
  have hset : ∀ slot, mirror streams opens t bt (({ s with thirdIndex := t }).placed t slot) =
      .ok (({ s with thirdIndex := t }).placed t slot) := by
    intro slot
    rw [mirror, if_neg]
    exact fun hin => hin hnum
  have hmirror : mirror streams opens t bt { s with thirdIndex := t } =
      place opens t (SUB_0_MIRROR_STREAM + bt.toNat) { s with thirdIndex := t } := by
    have hfree : s.mStreamTracker SUB_0_MIRROR_STREAM = false := by
      rw [htracker]
      cases bm <;> cases bu <;> rfl
    rw [mirror, if_pos hne, if_pos hfree]
  have hlast : ∃ slot, slot ≠ MAIN_STREAM + bm.toNat ∧ slot ≠ SUB_0_STREAM + bu.toNat ∧
      mirror streams opens t bt { s with thirdIndex := t } =
        place opens t slot { s with thirdIndex := t } :=
    ⟨_, by cases bm <;> cases bt <;> decide, by cases bu <;> cases bt <;> decide, hmirror⟩
  have hindex : (t : Int) ≠ -1 := by omega
  have hlinks : linksTo streams { s with thirdIndex := t } t =
      some (sub.width / third.width < 5 && sub.height / third.height < 5) := by
    rw [linksTo, if_pos hne, hsub, hthird]
    rfl
  rw [thirdStream, hdetect]
  dsimp only
  rw [if_neg hindex, hlinks, Int.toNat_natCast]
  dsimp only
  split
  · have hmainBlob : s.mStreamTracker MAIN_STREAM_BLOB = bm := by
      rw [htracker]
      cases bm <;> cases bu <;> rfl
    have hsubBlob : s.mStreamTracker SUB_0_STREAM_BLOB = bu := by
      rw [htracker]
      cases bm <;> cases bu <;> rfl
    rw [@thirdBlob_eq _ _ { s with thirdIndex := t } t bm bu bt hne hmainBlob hsubBlob]
    split
    · rename_i hblob
      refine ⟨SUB_0_STREAM_BLOB, ?_, ?_, place_bind_self (hset _)⟩
      · cases bm <;> decide
      · rw [hblob.1]
        decide
    · split
      · rename_i hblob
        refine ⟨MAIN_STREAM_BLOB, ?_, ?_, place_bind_self (hset _)⟩
        · rw [hblob.1]
          decide
        · cases bu <;> decide
      · exact hlast
  · exact hlast

theorem detectSource_eq {m u t : Nat} {third : Camera3Stream} (hlen : streams.length = 3)
    (hm : m < 3) (hu : u < 3) (hmu : m ≠ u) (htm : t ≠ m) (htu : t ≠ u)
    (hthird : streams[t]? = some third)
    (htracker : s.mSourceStreamTracker =
      Function.update (Function.update (fun _ => false) m true) u true) :
    detectSource streams s = ((t : Int), third.isBlob) := by
  have ht : t < 3 := by
    rw [← hlen]
    exact (List.getElem?_eq_some_iff.mp hthird).1
  have hfree : ∀ k, s.mSourceStreamTracker k = false ↔ k ≠ m ∧ k ≠ u := by
    intro k
    rw [htracker]
    by_cases hku : k = u
    · simp [hku]
    · by_cases hkm : k = m
      · simp [hkm, hmu]
      · simp [hku, hkm]
  have hrange : List.range streams.length = [0, 1, 2] := by
    rw [hlen]
    rfl
  simp only [detectSource, hrange, List.foldl_cons, List.foldl_nil, hfree]
  have hcases : t = 0 ∨ t = 1 ∨ t = 2 := by omega
  rcases hcases with rfl | rfl | rfl
  · have h1 : ¬ (1 ≠ m ∧ 1 ≠ u) := by omega
    have h2 : ¬ (2 ≠ m ∧ 2 ≠ u) := by omega
    rw [if_neg h2, if_neg h1, if_pos ⟨htm, htu⟩, hthird]
    rfl
  · have h0 : ¬ (0 ≠ m ∧ 0 ≠ u) := by omega
    have h2 : ¬ (2 ≠ m ∧ 2 ≠ u) := by omega
    rw [if_neg h2, if_pos ⟨htm, htu⟩, if_neg h0, hthird]
    rfl
  · have h0 : ¬ (0 ≠ m ∧ 0 ≠ u) := by omega
    have h1 : ¬ (1 ≠ m ∧ 1 ≠ u) := by omega
    rw [if_pos ⟨htm, htu⟩, if_neg h1, if_neg h0, hthird]
    rfl

theorem streamAt_natCast (streams : List Camera3Stream) (k : Nat) :
    streamAt streams (k : Int) = streams[k]? := by
  rw [streamAt, if_neg (Int.not_lt.mpr (Int.natCast_nonneg k)), Int.toNat_natCast]

theorem mainSlot_ne_subSlot (a b : Bool) : MAIN_STREAM + a.toNat ≠ SUB_0_STREAM + b.toNat := by
  cases a <;> cases b <;> decide

def mainPlaced (m : Nat) (main : Camera3Stream) : Setup :=
  ({ ({} : Setup) with mainIndex := m }).placed m (MAIN_STREAM + main.isBlob.toNat)

def subPlaced (m : Nat) (main : Camera3Stream) (u : Nat) (sub : Camera3Stream) : Setup :=
  ({ mainPlaced m main with subIndex := u }).placed u (SUB_0_STREAM + sub.isBlob.toNat)

theorem passes_first {n m : Nat} {main : Camera3Stream}
    (hmain : findMain streams = some ((m : Int), main.isBlob))
    (hcreated : ∀ c ∈ calls (passes streams opens (n + 1) {}), c.nonnull = true) :
    passes streams opens (n + 1) {} = passes streams opens n (mainPlaced m main) :=
  passes_place (mainStream_of_free hmain rfl) hcreated

theorem passes_second {n m u : Nat} {main sub : Camera3Stream}
    (hmain : findMain streams = some ((m : Int), main.isBlob))
    (hsub : findSub streams = some ((u : Int), sub.isBlob))
    (hcreated : ∀ c ∈ calls (passes streams opens (n + 1) (mainPlaced m main)), c.nonnull = true) :
    passes streams opens (n + 1) (mainPlaced m main) =
      passes streams opens n (subPlaced m main u sub) := by
  have htaken : (mainPlaced m main).mStreamTracker (MAIN_STREAM + main.isBlob.toNat) = true :=
    Function.update_self _ _ _
  have hfree : (mainPlaced m main).mStreamTracker (SUB_0_STREAM + sub.isBlob.toNat) = false := by
    show Function.update (fun _ => false) _ true _ = false
    rw [Function.update_of_ne (mainSlot_ne_subSlot _ _).symm]
  exact passes_place ((mainStream_of_taken hmain htaken).trans (subStream_of_free hsub hfree))
    hcreated

/-- A configuration of one to three streams makes one pass a stream. -/
theorem setupStreams_eq_passes (hone : 1 ≤ streams.length) (hthree : streams.length ≤ 3) :
    setupStreams streams opens = passes streams opens streams.length {} := by
  have hvalid : ¬ (streams.length < 1 ∨ streams.length > MAX_STREAM_NUM) := by
    show ¬ (streams.length < 1 ∨ streams.length > 3)
    omega
  rw [setupStreams, if_neg hvalid]

theorem setupStreams_three {m u t : Nat} {main sub third : Camera3Stream}
    (hlen : streams.length = 3) (hmu : m ≠ u) (htm : t ≠ m) (htu : t ≠ u)
    (hm : streams[m]? = some main) (hu : streams[u]? = some sub) (ht : streams[t]? = some third)
    (hmain : findMain streams = some ((m : Int), main.isBlob))
    (hsub : findSub streams = some ((u : Int), sub.isBlob))
    (hcreated : ∀ c ∈ calls (setupStreams streams opens), c.nonnull = true) :
    ∃ s slot, setupStreams streams opens = .ok s ∧ s.numStreamsSet = 3 ∧ s.mainIndex = m ∧
      s.subIndex = u ∧ slot ≠ MAIN_STREAM + main.isBlob.toNat ∧
      slot ≠ SUB_0_STREAM + sub.isBlob.toNat ∧
      s.created = [⟨m, MAIN_STREAM + main.isBlob.toNat, true⟩,
        ⟨u, SUB_0_STREAM + sub.isBlob.toNat, true⟩, ⟨t, slot, true⟩] := by
  have hlt : ∀ {k : Nat} {stream : Camera3Stream}, streams[k]? = some stream → k < 3 := by
    intro k stream hk
    rw [← hlen]
    exact (List.getElem?_eq_some_iff.mp hk).1
  rw [setupStreams_eq_passes (by omega) (by omega), hlen] at hcreated ⊢
  have hfirst := passes_first hmain hcreated
  rw [hfirst] at hcreated ⊢
  have hsecond := passes_second hmain hsub hcreated
  rw [hsecond] at hcreated ⊢
  -- the third pass finds both slots taken
  have hmainTaken : (subPlaced m main u sub).mStreamTracker (MAIN_STREAM + main.isBlob.toNat) =
      true := by
    show Function.update (mainPlaced m main).mStreamTracker _ true _ = true
    rw [Function.update_of_ne (mainSlot_ne_subSlot _ _)]
    exact Function.update_self _ _ _
  have hsubTaken : (subPlaced m main u sub).mStreamTracker (SUB_0_STREAM + sub.isBlob.toNat) =
      true := Function.update_self _ _ _
  have hdetect : detectSource streams (subPlaced m main u sub) = ((t : Int), third.isBlob) :=
    detectSource_eq hlen (hlt hm) (hlt hu) hmu htm htu ht rfl
  obtain ⟨slot, hslotMain, hslotSub, hthird⟩ := @thirdStream_eq _ opens _ _ _ _ main.isBlob
    sub.isBlob _ hdetect hlen.symm ((streamAt_natCast streams u).trans hu)
    ((streamAt_natCast streams t).trans ht) rfl
  have hpass := (mainStream_of_taken hmain hmainTaken).trans
    ((subStream_of_taken hsub hsubTaken).trans hthird)
  rw [passes_place hpass hcreated, passes]
  exact ⟨_, slot, rfl, rfl, rfl, rfl, hslotMain, hslotSub, rfl⟩

theorem setupStreams_two {m u : Nat} {main sub : Camera3Stream} (hlen : streams.length = 2)
    (hmain : findMain streams = some ((m : Int), main.isBlob))
    (hsub : findSub streams = some ((u : Int), sub.isBlob))
    (hcreated : ∀ c ∈ calls (setupStreams streams opens), c.nonnull = true) :
    ∃ s, setupStreams streams opens = .ok s ∧ s.numStreamsSet = 2 ∧ s.mainIndex = m ∧
      s.created = [⟨m, MAIN_STREAM + main.isBlob.toNat, true⟩,
        ⟨u, SUB_0_STREAM + sub.isBlob.toNat, true⟩] := by
  rw [setupStreams_eq_passes (by omega) (by omega), hlen] at hcreated ⊢
  have hfirst := passes_first hmain hcreated
  rw [hfirst] at hcreated ⊢
  rw [passes_second hmain hsub hcreated, passes]
  exact ⟨_, rfl, rfl, rfl, rfl⟩

theorem setupStreams_one {m : Nat} {main : Camera3Stream} (hlen : streams.length = 1)
    (hmain : findMain streams = some ((m : Int), main.isBlob))
    (hcreated : ∀ c ∈ calls (setupStreams streams opens), c.nonnull = true) :
    ∃ s, setupStreams streams opens = .ok s ∧ s.numStreamsSet = 1 ∧ s.mainIndex = m ∧
      s.created = [⟨m, MAIN_STREAM + main.isBlob.toNat, true⟩] := by
  rw [setupStreams_eq_passes (by omega) (by omega), hlen] at hcreated ⊢
  rw [passes_first hmain hcreated, passes]
  exact ⟨_, rfl, rfl, rfl, rfl⟩

/-! ## Roles -/

/-- The three indices in the order of three values, as `max` and `min` see them. -/
structure Roles (v : Nat → Int) (m u t : Nat) : Prop where
  ne : m ≠ u ∧ t ≠ m ∧ t ≠ u
  lt : m < 3 ∧ u < 3 ∧ t < 3
  max_eq : max (v 0) (v 1) (v 2) = m
  min_eq : min (v 0) (v 1) (v 2) = t
  third_le : v t ≤ v u
  sub_le : v u ≤ v m

theorem exists_roles (v : Nat → Int) : ∃ m u t, Roles v m u t := by
  by_cases h01 : v 0 ≥ v 1
  · by_cases h02 : v 0 ≥ v 2
    · by_cases h12 : v 1 ≥ v 2
      · exact ⟨0, 1, 2, by decide, by decide, by simp [max, h01, h02], by simp [min, h01, h12], h12,
          h01⟩
      · exact ⟨0, 2, 1, by decide, by decide, by simp [max, h01, h02], by simp [min, h01, h12],
          by omega, h02⟩
    · have h12 : ¬ v 1 ≥ v 2 := by omega
      exact ⟨2, 0, 1, by decide, by decide, by simp [max, h01, h02], by simp [min, h01, h12], h01,
        by omega⟩
  · by_cases h12 : v 1 ≥ v 2
    · by_cases h02 : v 0 ≥ v 2
      · exact ⟨1, 0, 2, by decide, by decide, by simp [max, h01, h12], by simp [min, h01, h02], h02,
          by omega⟩
      · exact ⟨1, 2, 0, by decide, by decide, by simp [max, h01, h12], by simp [min, h01, h02],
          by omega, h12⟩
    · have h02 : ¬ v 0 ≥ v 2 := by omega
      exact ⟨2, 1, 0, by decide, by decide, by simp [max, h01, h12], by simp [min, h01, h02],
        by omega, by omega⟩

theorem Roles.le_main {v : Nat → Int} {m u t k : Nat} (h : Roles v m u t) (hk : k < 3) :
    v k ≤ v m := by
  obtain ⟨hm, hu, ht⟩ := h.lt
  obtain ⟨hmu, htm, htu⟩ := h.ne
  have hsub := h.sub_le
  have hthird := h.third_le
  have hcases : k = m ∨ k = u ∨ k = t := by omega
  rcases hcases with rfl | rfl | rfl
  · exact Int.le_refl _
  · exact hsub
  · exact Int.le_trans hthird hsub

theorem modeOf_natCast {k : Nat} {stream : Camera3Stream} (hk : streams[k]? = some stream) :
    modeOf streams (k : Int) = some ((k : Int), stream.isBlob) := by
  rw [modeOf, streamAt_natCast, hk]
  rfl

def areaAt (streams : List Camera3Stream) (k : Nat) : Int :=
  wrapInt ((streams[k]?.map Camera3Stream.area).getD 0 : Nat)

theorem findMain_three {m u t : Nat} {main : Camera3Stream} (hlen : streams.length = 3)
    (h : Roles (areaAt streams) m u t) (hm : streams[m]? = some main) :
    findMain streams = some ((m : Int), main.isBlob) := by
  obtain ⟨a, b, c, rfl⟩ := List.length_eq_three.mp hlen
  rw [← modeOf_natCast hm, ← h.max_eq]
  rfl

theorem findSub_three {m u t : Nat} {sub : Camera3Stream} (hlen : streams.length = 3)
    (h : Roles (areaAt streams) m u t) (hu : streams[u]? = some sub) :
    findSub streams = some ((u : Int), sub.isBlob) := by
  have hfold : ([0, 1, 2] : List Int).foldl (fun mStreamIndex i =>
      if i ≠ (m : Int) ∧ i ≠ (t : Int) then i else mStreamIndex) (-1) = u := by
    obtain ⟨hm, hu, ht⟩ := h.lt
    obtain ⟨hmu, htm, htu⟩ := h.ne
    simp only [List.foldl_cons, List.foldl_nil]
    split
    · omega
    · split
      · omega
      · split <;> omega
  rw [← modeOf_natCast hu, ← hfold, ← h.max_eq, ← h.min_eq]
  obtain ⟨a, b, c, rfl⟩ := List.length_eq_three.mp hlen
  rfl

/-! ## Every configuration -/

/-- Sizes are positive, and the number of pixels fits into 32 bits. -/
def Sized (streams : List Camera3Stream) : Prop :=
  ∀ stream ∈ streams, 0 < stream.width ∧ 0 < stream.height ∧ stream.pixels < 2 ^ 32

/-- With three streams the areas are all positive as `int`s, or all negative. -/
def SameSign (streams : List Camera3Stream) : Prop :=
  streams.length = 3 →
    (∀ stream ∈ streams, stream.pixels < 2 ^ 31) ∨
      ∀ stream ∈ streams, 2 ^ 31 ≤ stream.pixels

theorem area_eq {stream : Camera3Stream} (hsized : Sized streams) (h : stream ∈ streams) :
    stream.area = stream.pixels :=
  Nat.mod_eq_of_lt (hsized stream h).2.2

theorem areaAt_eq {k : Nat} {stream : Camera3Stream} (hsized : Sized streams)
    (hk : streams[k]? = some stream) :
    areaAt streams k =
      if stream.pixels < 2 ^ 31 then (stream.pixels : Int) else (stream.pixels : Int) - 2 ^ 32 := by
  have hmem := List.mem_of_getElem? hk
  have hlt := (hsized stream hmem).2.2
  rw [areaAt, hk, Option.map_some, Option.getD_some, area_eq hsized hmem, wrapInt, Int.bmod]
  split <;> split <;> omega

theorem le_of_areaAt_le {i k : Nat} {a b : Camera3Stream} (hsized : Sized streams)
    (hsign : (∀ stream ∈ streams, stream.pixels < 2 ^ 31) ∨
      ∀ stream ∈ streams, 2 ^ 31 ≤ stream.pixels)
    (hi : streams[i]? = some a) (hk : streams[k]? = some b)
    (hle : areaAt streams i ≤ areaAt streams k) : a.pixels ≤ b.pixels := by
  rw [areaAt_eq hsized hi, areaAt_eq hsized hk] at hle
  have ha := List.mem_of_getElem? hi
  have hb := List.mem_of_getElem? hk
  rcases hsign with hsign | hsign
  · have ha' := hsign a ha
    have hb' := hsign b hb
    rw [if_pos ha', if_pos hb'] at hle
    omega
  · have ha' := hsign a ha
    have hb' := hsign b hb
    rw [if_neg (by omega), if_neg (by omega)] at hle
    omega

/-- A largest stream of more than `int` size is the main stream only if all are of that size. -/
theorem sameSign_of_main_max {m : Nat} {main : Camera3Stream} (hsized : Sized streams)
    (hm : streams[m]? = some main) (hroles : ∀ k < streams.length, areaAt streams k ≤ areaAt streams m)
    (hmax : ∀ stream ∈ streams, stream.pixels ≤ main.pixels) :
    (∀ stream ∈ streams, stream.pixels < 2 ^ 31) ∨
      ∀ stream ∈ streams, 2 ^ 31 ≤ stream.pixels := by
  by_cases hmain : main.pixels < 2 ^ 31
  · exact .inl fun stream hstream => Nat.lt_of_le_of_lt (hmax stream hstream) hmain
  · refine .inr fun stream hstream => ?_
    by_contra hsmall
    obtain ⟨k, hk, hget⟩ := List.getElem_of_mem hstream
    have hk' : streams[k]? = some stream := by rw [List.getElem?_eq_getElem hk, hget]
    have hle := hroles k hk
    rw [areaAt_eq hsized hk', areaAt_eq hsized hm, if_pos (by omega), if_neg hmain] at hle
    have hlt := (hsized main (List.mem_of_getElem? hm)).2.2
    omega

theorem count_three {m u t : Nat} (hm : m < 3) (hu : u < 3) (ht : t < 3) (hmu : m ≠ u)
    (htm : t ≠ m) (htu : t ≠ u) {k : Nat} (hk : k < 3) : [m, u, t].count k = 1 := by
  have hcases : k = m ∨ k = u ∨ k = t := by omega
  rcases hcases with rfl | rfl | rfl
  · simp [hmu.symm, htm]
  · simp [hmu, htu]
  · simp [htm.symm, htu.symm]

theorem assignsEvery_three (hlen : streams.length = 3) (hsized : Sized streams)
    (hcreated : ∀ c ∈ calls (setupStreams streams opens), c.nonnull = true) :
    (∃ s, setupStreams streams opens = .ok s ∧ AssignsEvery streams s) ↔ SameSign streams := by
  obtain ⟨m, u, t, hroles⟩ := exists_roles (areaAt streams)
  obtain ⟨hm, hu, ht⟩ := hroles.lt
  obtain ⟨hmu, htm, htu⟩ := hroles.ne
  obtain ⟨main, hmain⟩ : ∃ main, streams[m]? = some main :=
    ⟨streams[m], List.getElem?_eq_getElem (by omega)⟩
  obtain ⟨sub, hsub⟩ : ∃ sub, streams[u]? = some sub :=
    ⟨streams[u], List.getElem?_eq_getElem (by omega)⟩
  obtain ⟨third, hthird⟩ : ∃ third, streams[t]? = some third :=
    ⟨streams[t], List.getElem?_eq_getElem (by omega)⟩
  obtain ⟨s, slot, hs, hnum, hmainIndex, hsubIndex, hslotMain, hslotSub, hlog⟩ :=
    setupStreams_three hlen hmu htm htu hmain hsub hthird (findMain_three hlen hroles hmain)
      (findSub_three hlen hroles hsub) hcreated
  constructor
  · rintro ⟨s', hs', h⟩ _
    cases hs.symm.trans hs'
    obtain ⟨m', main', hm', hmain', _, hmax⟩ := h.main
    have heq : m = m' := Int.natCast_inj.mp (hmainIndex.symm.trans hm')
    rw [← heq] at hmain'
    exact sameSign_of_main_max hsized hmain' (fun k hk => hroles.le_main (hlen ▸ hk)) hmax
  · intro hsame
    have hsign := hsame hlen
    refine ⟨s, hs, ?_⟩
    constructor
    case numStreamsSet => rw [hnum, hlen]
    case once =>
      intro k hk
      rw [hlog]
      exact count_three hm hu ht hmu htm htu (hlen ▸ hk)
    case slots =>
      rw [hlog]
      simp [mainSlot_ne_subSlot, hslotMain.symm, hslotSub.symm]
    case main =>
      refine ⟨m, main, hmainIndex, hmain, by rw [hlog]; exact List.mem_cons_self, ?_⟩
      intro stream hstream
      obtain ⟨k, hk, hget⟩ := List.getElem_of_mem hstream
      have hk' : streams[k]? = some stream := by rw [List.getElem?_eq_getElem hk, hget]
      exact le_of_areaAt_le hsized hsign hk' hmain (hroles.le_main (hlen ▸ hk))
    case sub =>
      intro _
      refine ⟨u, sub, hsubIndex, hsub, by rw [hlog]; simp, m, t, main, third, hmain, hthird, hmu, htu,
        htm.symm, ?_, ?_⟩
      · exact le_of_areaAt_le hsized hsign hthird hsub hroles.third_le
      · exact le_of_areaAt_le hsized hsign hsub hmain hroles.sub_le

theorem assignsEvery_two {a b : Camera3Stream} (hsized : Sized [a, b])
    (hcreated : ∀ c ∈ calls (setupStreams [a, b] opens), c.nonnull = true) :
    ∃ s, setupStreams [a, b] opens = .ok s ∧ AssignsEvery [a, b] s := by
  have ha : a.area = a.pixels := area_eq hsized List.mem_cons_self
  have hb : b.area = b.pixels := area_eq hsized (List.mem_cons_of_mem a List.mem_cons_self)
  have hroles : ∃ (m u : Nat) (main sub : Camera3Stream), m < 2 ∧ u < 2 ∧ m ≠ u ∧
      [a, b][m]? = some main ∧ findMain [a, b] = some ((m : Int), main.isBlob) ∧
      findSub [a, b] = some ((u : Int), sub.isBlob) ∧ a.pixels ≤ main.pixels ∧
      b.pixels ≤ main.pixels := by
    by_cases hge : a.area ≥ b.area
    · refine ⟨0, 1, a, b, by decide, by decide, by decide, rfl, ?_, ?_, Nat.le_refl _, by omega⟩
      · rw [findMain, if_pos hge]
        rfl
      · rw [findSub, findMain, if_pos hge]
        rfl
    · refine ⟨1, 0, b, a, by decide, by decide, by decide, rfl, ?_, ?_, by omega, Nat.le_refl _⟩
      · rw [findMain, if_neg hge]
        rfl
      · rw [findSub, findMain, if_neg hge]
        rfl
  obtain ⟨m, u, main, sub, hm, hu, hmu, hget, hmain, hsub, hmaxA, hmaxB⟩ := hroles
  obtain ⟨s, hs, hnum, hmainIndex, hlog⟩ := setupStreams_two rfl hmain hsub hcreated
  refine ⟨s, hs, ?_⟩
  constructor
  case numStreamsSet => exact hnum
  case once =>
    intro k hk
    have hk : k < 2 := hk
    have hcases : k = m ∨ k = u := by omega
    rw [hlog]
    rcases hcases with rfl | rfl
    · simp [hmu.symm]
    · simp [hmu]
  case slots =>
    rw [hlog]
    simp [mainSlot_ne_subSlot]
  case main =>
    refine ⟨m, main, hmainIndex, hget, by rw [hlog]; exact List.mem_cons_self, ?_⟩
    simp only [List.forall_mem_cons]
    exact ⟨hmaxA, hmaxB, fun stream hstream => nomatch hstream⟩
  case sub => exact fun hlen => nomatch hlen

theorem assignsEvery_one {a : Camera3Stream}
    (hcreated : ∀ c ∈ calls (setupStreams [a] opens), c.nonnull = true) :
    ∃ s, setupStreams [a] opens = .ok s ∧ AssignsEvery [a] s := by
  obtain ⟨s, hs, hnum, hmainIndex, hlog⟩ := @setupStreams_one _ _ 0 a rfl rfl hcreated
  refine ⟨s, hs, ?_⟩
  constructor
  case numStreamsSet => exact hnum
  case once =>
    intro k hk
    have hzero : k = 0 := Nat.lt_one_iff.mp hk
    rw [hlog, hzero]
    rfl
  case slots =>
    rw [hlog]
    simp
  case main =>
    refine ⟨0, a, hmainIndex, rfl, by rw [hlog]; exact List.mem_cons_self, ?_⟩
    intro stream hstream
    rw [List.mem_singleton.mp hstream]
  case sub => exact fun hlen => nomatch hlen

/-- Every stream gets its slot and the roles go by the areas, unless the `int`s that three areas are
compared as differ in sign. -/
theorem assignsEvery_iff (hone : 1 ≤ streams.length) (hthree : streams.length ≤ 3)
    (hsized : Sized streams)
    (hcreated : ∀ c ∈ calls (setupStreams streams opens), c.nonnull = true) :
    (∃ s, setupStreams streams opens = .ok s ∧ AssignsEvery streams s) ↔ SameSign streams := by
  have hlen : streams.length = 1 ∨ streams.length = 2 ∨ streams.length = 3 := by omega
  rcases hlen with hlen | hlen | hlen
  · obtain ⟨a, rfl⟩ := List.length_eq_one_iff.mp hlen
    exact iff_of_true (assignsEvery_one hcreated) fun hin => nomatch hin
  · obtain ⟨a, b, rfl⟩ := List.length_eq_two.mp hlen
    exact iff_of_true (assignsEvery_two hsized hcreated) fun hin => nomatch hin
  · exact assignsEvery_three hlen hsized hcreated

/-- A preview, a video and a picture. -/
theorem assignsEvery_preview :
    ∃ s, setupStreams [⟨1920, 1080, 0x22⟩, ⟨1280, 720, 0x22⟩, ⟨3264, 2448, 0x21⟩] (fun _ => true) =
        .ok s ∧
      AssignsEvery [⟨1920, 1080, 0x22⟩, ⟨1280, 720, 0x22⟩, ⟨3264, 2448, 0x21⟩] s := by
  refine (assignsEvery_iff (by decide) (by decide) ?_ (by decide)).mpr ?_
  · unfold Sized
    decide
  · exact fun _ => .inl (by decide)

/-- The largest of these streams has 2^31 pixels, which is the smallest `int`. -/
theorem not_assignsEvery :
    (∀ c ∈ calls (setupStreams [⟨65536, 32768, 0x22⟩, ⟨1, 1, 0x22⟩, ⟨2, 1, 0x22⟩] fun _ => true),
        c.nonnull = true) ∧
      ¬ ∃ s, setupStreams [⟨65536, 32768, 0x22⟩, ⟨1, 1, 0x22⟩, ⟨2, 1, 0x22⟩] (fun _ => true) =
          .ok s ∧
        AssignsEvery [⟨65536, 32768, 0x22⟩, ⟨1, 1, 0x22⟩, ⟨2, 1, 0x22⟩] s := by
  refine ⟨by decide, ?_⟩
  rintro ⟨s, hs, h⟩
  cases hs
  obtain ⟨m, main, hindex, hmain, _, hmax⟩ := h.main
  have hm : m = 2 := Int.natCast_inj.mp hindex.symm
  rw [hm] at hmain
  cases hmain
  exact absurd (hmax ⟨65536, 32768, 0x22⟩ List.mem_cons_self) (by decide)

end

end AwHal.Camera.SetupStreams
