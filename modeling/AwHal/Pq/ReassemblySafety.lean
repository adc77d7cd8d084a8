import AwHal.Pq.Reassembly

/-!
# Malformed packages

The size of a package is never checked.  A pass of `connect_thread` copies outside its buffers, or
gives on memory that was not written, for sizes that are too small, for packages that come in parts
and whenever the magic is missing.
-/

namespace AwHal.Pq

open AwHal.Lib

/-! ## Reading the size -/

theorem sizeField_congr {p q : List Byte} (h : p.take headSize = q.take headSize) :
    sizeField p = sizeField q := by
  have htake : ∀ l : List Byte, (l.drop 6).take 4 = (l.take headSize).drop 6 := by
    intro l
    rw [List.take_drop]
    rfl
  unfold sizeField
  rw [htake, htake, h]

theorem sizeField_of_short {p : List Byte} (h : p.length < headSize) : sizeField p = none := by
  unfold sizeField
  have hlength : ((p.drop 6).take 4).length < 4 := by
    simp only [List.length_take, List.length_drop]
    unfold headSize at h
    omega
  split
  · rename_i heq
    rw [heq] at hlength
    simp at hlength
  · rfl

theorem exists_sizeField {p : List Byte} (h : headSize ≤ p.length) (hinit : none ∉ p) :
    ∃ size, sizeField p = some size := by
  have hlength : ((p.drop 6).take 4).length = 4 := by
    simp only [List.length_take, List.length_drop]
    unfold headSize at h
    omega
  have hnone : none ∉ (p.drop 6).take 4 := fun hmem =>
    hinit (List.mem_of_mem_drop (List.mem_of_mem_take hmem))
  unfold sizeField
  match hp : (p.drop 6).take 4 with
  | [some a, some b, some c, some d] => exact ⟨_, rfl⟩
  | [] => simp [hp] at hlength
  | [_] => simp [hp] at hlength
  | [_, _] => simp [hp] at hlength
  | [_, _, _] => simp [hp] at hlength
  | _ :: _ :: _ :: _ :: _ :: _ => simp [hp] at hlength
  | [none, _, _, _] => simp [hp] at hnone
  | [_, none, _, _] => simp [hp] at hnone
  | [_, _, none, _] => simp [hp] at hnone
  | [_, _, _, none] => simp [hp] at hnone

theorem none_not_mem_map_some (l : List UInt8) : none ∉ l.map some := by simp

namespace Connect

/-! ## The property and the condition -/

/-- All bytes of a package have been written, those of the head at least. -/
def Initialised (package : List Byte) : Prop :=
  none ∉ package ∧ headSize ≤ package.length

/-- A pass stays inside the buffers, gives on packages that are initialised, and consumes bytes unless
it waits for more. -/
def SafePass (s : Connect) (ok : Bool) : Prop :=
  ∃ s', s.pass ok = .ok s' ∧ (s'.label = .many_head → s'.recvlen < s.recvlen) ∧
    ∀ package ∈ s'.sent.drop s.sent.length, Initialised package

def head (s : Connect) : List Byte :=
  (s.recv_buf.load s.rev_cnt headSize).map some

def joinedHead (s : Connect) : List Byte :=
  s.tempackage.take s.tail ++ (s.recv_buf.load 0 (headSize - s.tail)).map some

/-- With no package under way: less than a head is left, or a head with the magic and a size of at
least a head, unless there is no memory.  With a part of a head: there is memory, the size is at least
a head, and the package is complete; or the head is not, and the size is small enough that old bytes
of `recv_buf` fill the package.  With a part of a body: the package stays incomplete. -/
def Sound (s : Connect) (ok : Bool) : Prop :=
  match s.tmp_head with
  | .null =>
      s.recvlen < headSize ∨
        (s.head.take 4 = AWPQ ∧ (ok = true → ∀ size ∈ sizeField s.head, headSize ≤ size))
  | .tempackage =>
      ok = true ∧ ∀ size ∈ sizeField s.joinedHead, headSize ≤ size ∧
        (size - s.tail ≤ s.recvlen ∨
          (s.recvlen < headSize - s.tail ∧ size - s.tail ≤ EVENT_MSG_LEN))
  | .package => ∀ size ∈ sizeField s.trans_da, s.recvlen + s.tail < size

/-! ## The invariant -/

structure Inv (s : Connect) : Prop where
  length : s.tempackage.length = headSize
  written : none ∉ s.tempackage
  left : s.label = .many_head → 0 < s.recvlen ∧ s.rev_cnt + s.recvlen ≤ EVENT_MSG_LEN
  start : s.label = .many_head → s.tmp_head ≠ .null → s.rev_cnt = 0
  tail : s.label ≠ .wait_event → s.tmp_head = .tempackage → 0 < s.tail ∧ s.tail < headSize
  package : s.label ≠ .wait_event → s.tmp_head = .package →
    sizeField s.trans_da = some (s.trans_da.length : Int) ∧ s.tail < s.trans_da.length

theorem copyFrom_ok {s : Connect} {off : Nat} {n : Int} (hn : 0 ≤ n)
    (hfits : off + n ≤ EVENT_MSG_LEN) :
    s.copyFrom off n = .ok ((s.recv_buf.load off n.toNat).map some) := by
  rw [copyFrom, if_neg (by omega)]

theorem copyFrom_error {s : Connect} {off : Nat} {n : Int}
    (h : n < 0 ∨ (EVENT_MSG_LEN : Int) < off + n) : s.copyFrom off n = .error .outOfBounds := by
  rw [copyFrom, if_pos h]

theorem deal_data_safe {s : Connect} (package : List Byte) (hlength : s.tempackage.length = headSize)
    (hwritten : none ∉ s.tempackage) (hinit : none ∉ package)
    (hpackage : s.recvlen ≤ package.length ∨ headSize ≤ package.length)
    (hsend : headSize ≤ s.recvlen ∨ s.recvlen ≤ 0 → headSize ≤ package.length)
    (hleft : 0 < s.recvlen → s.rev_cnt + s.recvlen ≤ EVENT_MSG_LEN) :
    (s.deal_data package).Inv ∧ (s.deal_data package).recvlen = s.recvlen ∧
      ∀ p ∈ (s.deal_data package).sent.drop s.sent.length, Initialised p := by
  unfold deal_data
  split
  · rename_i hpart
    have hn : s.recvlen.toNat < headSize := by omega
    refine ⟨⟨?_, ?_, ?_, ?_, ?_, ?_⟩, rfl, ?_⟩
    · simp only [List.length_append, List.length_take, List.length_drop, hlength]
      omega
    · rw [List.mem_append, not_or]
      exact ⟨fun h => hinit (List.mem_of_mem_take h), fun h => hwritten (List.mem_of_mem_drop h)⟩
    · intro h
      cases h
    · intro h
      cases h
    · intro _ _
      dsimp only
      omega
    · intro _ h
      cases h
    · simp
  · rename_i hwhole
    refine ⟨⟨hlength, hwritten, ?_, ?_, ?_, ?_⟩, rfl, ?_⟩
    · intro hlabel
      dsimp only at hlabel ⊢
      split at hlabel
      · rename_i hpos
        exact ⟨hpos, hleft hpos⟩
      · cases hlabel
    · intro hlabel htmp
      dsimp only at hlabel htmp
      split at hlabel
      · rename_i hpos
        rw [if_pos hpos] at htmp
        exact absurd rfl htmp
      · cases hlabel
    · intro hlabel htmp
      dsimp only at hlabel htmp
      split at hlabel
      · rename_i hpos
        rw [if_pos hpos] at htmp
        cases htmp
      · exact absurd rfl hlabel
    · intro hlabel htmp
      dsimp only at hlabel htmp
      split at hlabel
      · rename_i hpos
        rw [if_pos hpos] at htmp
        cases htmp
      · exact absurd rfl hlabel
    · intro p hp
      rw [List.drop_left, List.mem_singleton] at hp
      subst hp
      exact ⟨hinit, hsend (by omega)⟩

def Passes (s : Connect) (r : Except ConnectFault Connect) : Prop :=
  ∃ s', r = .ok s' ∧ s'.Inv ∧ (s'.label = .many_head → s'.recvlen < s.recvlen) ∧
    ∀ package ∈ s'.sent.drop s.sent.length, Initialised package

/-! ## No package under way -/

/-- A prefix of what is left begins with the same head. -/
theorem sizeField_prefix (s : Connect) {n : Nat} (hn : headSize ≤ n) (rest : List Byte) :
    sizeField ((s.recv_buf.load s.rev_cnt n).map some ++ rest) = sizeField s.head := by
  refine sizeField_congr ?_
  rw [List.take_append_of_le_length (by simpa using hn), head, ← List.map_take, ← List.map_take,
    Memory.take_load _ _ hn, Memory.take_load _ _ (Nat.le_refl _)]

section Null

variable {s : Connect} (h : s.Inv) (hlabel : s.label = .many_head)

include h hlabel

theorem Inv.copy_left {n : Int} (hn : 0 ≤ n) (hle : n ≤ s.recvlen) :
    s.copyFrom s.rev_cnt n = .ok ((s.recv_buf.load s.rev_cnt n.toNat).map some) := by
  have hleft := (h.left hlabel).2
  exact copyFrom_ok hn (by omega)

theorem Inv.copy_head (hle : headSize ≤ s.recvlen) :
    s.copyFrom s.rev_cnt headSize = .ok s.head :=
  h.copy_left hlabel (Int.natCast_nonneg _) hle

theorem Inv.passNull_short (ok : Bool) (hlt : s.recvlen < headSize) : s.Passes (s.passNull ok) := by
  have hpos := (h.left hlabel).1
  have hcopy := h.copy_left hlabel (Int.le_of_lt hpos) (Int.le_refl _)
  have hpass : s.passNull ok =
      .ok (s.deal_data ((s.recv_buf.load s.rev_cnt s.recvlen.toNat).map some)) := by
    rw [passNull, if_neg (by omega), hcopy]
    dsimp only
    rw [if_pos hpos]
  obtain ⟨hinv, hrecvlen, hsent⟩ := deal_data_safe
    ((s.recv_buf.load s.rev_cnt s.recvlen.toNat).map some) h.length h.written
    (none_not_mem_map_some _) (Or.inl (by simp)) (fun hcase => by omega)
    (fun _ => (h.left hlabel).2)
  refine ⟨_, hpass, hinv, ?_, hsent⟩
  intro hmany
  rw [deal_data, if_pos ⟨hpos, hlt⟩] at hmany
  cases hmany

/-- The magic is missing: what is given on is not initialised. -/
theorem Inv.not_safe_of_magic (htmp : s.tmp_head = .null) {ok : Bool}
    (hle : headSize ≤ s.recvlen) (hmagic : s.head.take 4 ≠ AWPQ) : ¬ s.SafePass ok := by
  rintro ⟨s', hpass, -, hsent⟩
  rw [pass, htmp] at hpass
  simp only [passNull, if_pos hle, h.copy_head hlabel hle, if_pos hmagic] at hpass
  cases ok with
  | false => cases hpass
  | true =>
      cases hpass
      have hbad := hsent badPackage (by simp)
      exact hbad.1 (by decide)

/-- With the magic it depends on memory and on the size. -/
theorem Inv.passNull_magic (hle : headSize ≤ s.recvlen) (hmagic : s.head.take 4 = AWPQ) :
    ∃ size, sizeField s.head = some size ∧ ∀ ok, s.passNull ok = s.passHead ok size := by
  obtain ⟨size, hsize⟩ := exists_sizeField (p := s.head) (by simp [head])
    (none_not_mem_map_some _)
  refine ⟨size, hsize, fun ok => ?_⟩
  simp only [passNull, if_pos hle, h.copy_head hlabel hle, if_neg (not_not.mpr hmagic), hsize]

theorem Inv.passHead_safe {size : Int} (hsize : sizeField s.head = some size)
    (hle : headSize ≤ s.recvlen) (hsound : headSize ≤ size) : s.Passes (s.passHead true size) := by
  have hhead : headSize = 10 := rfl
  have hleft := (h.left hlabel).2
  simp only [passHead, not_true_eq_false, if_false]
  split
  · -- the whole package is there
    rename_i hwhole
    have hcopy := h.copy_left hlabel (by omega) hwhole
    have hsame : sizeField ((s.recv_buf.load s.rev_cnt size.toNat).map some) = some size := by
      have hfront := s.sizeField_prefix (n := size.toNat) (by omega) []
      rw [List.append_nil] at hfront
      rw [hfront, hsize]
    rw [hcopy]
    simp only [hsame]
    obtain ⟨hinv, hrecvlen, hsent⟩ := deal_data_safe
      (s := { s with
        tmp_head := .package
        recvlen := s.recvlen - size
        rev_cnt := s.rev_cnt + size.toNat })
      ((s.recv_buf.load s.rev_cnt size.toNat).map some) h.length h.written
      (none_not_mem_map_some _) (Or.inr (by simp; omega)) (fun _ => by simp; omega)
      (fun _ => by dsimp only; omega)
    refine ⟨_, rfl, hinv, fun _ => ?_, hsent⟩
    rw [hrecvlen]
    dsimp only
    omega
  · -- the body is not complete
    rename_i hpart
    have hcopy := h.copy_left hlabel (by omega) (Int.le_refl s.recvlen)
    rw [hcopy]
    refine ⟨_, rfl, ⟨h.length, h.written, ?_, ?_, ?_, ?_⟩, ?_, ?_⟩
    · intro hmany
      cases hmany
    · intro hmany
      cases hmany
    · intro _ htmp
      cases htmp
    · intro _ _
      dsimp only
      rw [s.sizeField_prefix (by omega), hsize]
      simp only [List.length_append, List.length_map, Memory.length_load, List.length_replicate,
        Option.some.injEq]
      omega
    · intro hmany
      cases hmany
    · simp

theorem Inv.passHead_short {size : Int} (hle : headSize ≤ s.recvlen) (hshort : size < headSize) :
    ∃ e, s.passHead true size = .error e := by
  simp only [passHead, not_true_eq_false, if_false]
  rw [if_pos (by omega)]
  by_cases hneg : size < 0
  · rw [copyFrom_error (Or.inl hneg)]
    exact ⟨_, rfl⟩
  · rw [h.copy_left hlabel (by omega) (by omega)]
    dsimp only
    rw [sizeField_of_short (by simp; omega)]
    exact ⟨_, rfl⟩

end Null

theorem Inv.safePass_of_passes {s : Connect} {ok : Bool} (h : s.Passes (s.pass ok)) :
    s.SafePass ok := by
  obtain ⟨s', hpass, -, hprogress, hsent⟩ := h
  exact ⟨s', hpass, hprogress, hsent⟩

/-- With no package under way a pass is safe exactly if what it finds is sound. -/
theorem Inv.null_iff {s : Connect} (h : s.Inv) (hlabel : s.label = .many_head)
    (htmp : s.tmp_head = .null) (ok : Bool) :
    (s.SafePass ok → s.Sound ok) ∧ (s.Sound ok → s.Passes (s.pass ok)) := by
  have hpass : s.pass ok = s.passNull ok := by rw [pass, htmp]
  simp only [Sound, htmp]
  by_cases hlt : s.recvlen < headSize
  · rw [hpass]
    exact ⟨fun _ => Or.inl hlt, fun _ => h.passNull_short hlabel ok hlt⟩
  · have hle : headSize ≤ s.recvlen := by omega
    by_cases hmagic : s.head.take 4 = AWPQ
    · obtain ⟨size, hsize, hhead⟩ := h.passNull_magic hlabel hle hmagic
      rw [hhead] at hpass
      constructor
      · intro hsafe
        refine Or.inr ⟨hmagic, fun hok size' hsize' => ?_⟩
        subst hok
        rw [hsize, Option.mem_def, Option.some.injEq] at hsize'
        subst hsize'
        by_contra hshort
        obtain ⟨e, herror⟩ := h.passHead_short hlabel hle (Int.not_le.mp hshort)
        obtain ⟨s', hok, -⟩ := hsafe
        rw [hpass, herror] at hok
        cases hok
      · intro hsound
        rw [hpass]
        cases ok with
        | false =>
            refine ⟨{ s with label := .wait_event }, rfl, ⟨h.length, h.written, ?_, ?_, ?_, ?_⟩,
              ?_, by simp⟩
            · intro hmany
              cases hmany
            · intro hmany
              cases hmany
            · exact fun hwait => absurd rfl hwait
            · exact fun hwait => absurd rfl hwait
            · intro hmany
              cases hmany
        | true =>
            have hmin := (hsound.resolve_left hlt).2 rfl size hsize
            exact h.passHead_safe hlabel hsize hle hmin
    · constructor
      · exact fun hsafe => absurd hsafe (h.not_safe_of_magic hlabel htmp hle hmagic)
      · intro hsound
        exact absurd (hsound.resolve_left hlt).1 hmagic

/-! ## A part of a head -/

section Tempackage

variable {s : Connect} (h : s.Inv) (hlabel : s.label = .many_head)
  (htmp : s.tmp_head = .tempackage)

include h

theorem Inv.joinedHead_written : none ∉ s.joinedHead := by
  rw [joinedHead, List.mem_append, not_or]
  exact ⟨fun hmem => h.written (List.mem_of_mem_take hmem), none_not_mem_map_some _⟩

include hlabel htmp

theorem Inv.tail_range : 0 < s.tail ∧ s.tail < headSize :=
  h.tail (by simp [hlabel]) htmp

theorem Inv.length_joinedHead : s.joinedHead.length = headSize := by
  have htail := h.tail_range hlabel htmp
  simp only [joinedHead, List.length_append, List.length_take, List.length_map,
    Memory.length_load, h.length]
  omega

/-- The rest of the head is copied, whether it was received or not. -/
theorem Inv.passTempackage_eq : ∃ size, sizeField s.joinedHead = some size ∧
    ∀ ok, s.passTempackage ok =
      if ¬ ok then .error .nullTransData
      else if size < headSize then .error .outOfBounds
      else s.passJoined s.joinedHead size := by
  have hmsg : headSize ≤ EVENT_MSG_LEN := by decide
  have htail := h.tail_range hlabel htmp
  have hpart : s.copyFrom 0 (headSize - s.tail) =
      .ok ((s.recv_buf.load 0 (headSize - s.tail)).map some) := by
    rw [copyFrom_ok (by omega) (by omega)]
    congr 3
    omega
  have hlength := h.length_joinedHead hlabel htmp
  obtain ⟨size, hsize⟩ := exists_sizeField (Nat.le_of_eq hlength.symm) h.joinedHead_written
  refine ⟨size, hsize, fun ok => ?_⟩
  simp only [passTempackage, hpart]
  rw [← joinedHead, hsize]

theorem Inv.passJoined_safe {size : Int} (hsize : headSize ≤ size)
    (hwhole : size - s.tail ≤ s.recvlen ∨
      (s.recvlen < headSize - s.tail ∧ size - s.tail ≤ EVENT_MSG_LEN)) :
    s.Passes (s.passJoined s.joinedHead size) := by
  have htail := h.tail_range hlabel htmp
  obtain ⟨hpos, hleft⟩ := h.left hlabel
  have hstart : s.rev_cnt = 0 := h.start hlabel (by simp [htmp])
  have hcopy : s.copyFrom (s.rev_cnt + (headSize - s.tail)) (size - headSize) =
      .ok ((s.recv_buf.load (s.rev_cnt + (headSize - s.tail)) (size - headSize).toNat).map some) :=
    copyFrom_ok (by omega) (by omega)
  have hn : s.recvlen - (headSize - s.tail) < 0 ∨
      size - headSize ≤ s.recvlen - (headSize - s.tail) := by omega
  have hnone : size.toNat - headSize - (size - headSize).toNat = 0 := by omega
  simp only [passJoined, if_pos hn, hcopy, List.length_map, Memory.length_load, hnone,
    List.replicate_zero, List.append_nil]
  have hinit : none ∉ s.joinedHead ++
      (s.recv_buf.load (s.rev_cnt + (headSize - s.tail)) (size - headSize).toNat).map some := by
    rw [List.mem_append, not_or]
    exact ⟨h.joinedHead_written, none_not_mem_map_some _⟩
  have hlength := h.length_joinedHead hlabel htmp
  obtain ⟨hinv, hrecvlen, hsent⟩ := deal_data_safe
    (s := { s with
      tempackage := s.joinedHead
      tmp_head := .package
      rev_cnt := s.rev_cnt + (headSize - s.tail) + (size - headSize).toNat
      recvlen := s.recvlen - (headSize - s.tail) - (size - headSize) }) _ hlength
    h.joinedHead_written hinit (Or.inr (by simp [hlength]))
    (fun _ => by simp [hlength]) (fun _ => by dsimp only; omega)
  refine ⟨_, rfl, hinv, fun _ => ?_, hsent⟩
  rw [hrecvlen]
  dsimp only
  omega

/-- The body is not complete, and it is given on with what is in the memory. -/
theorem Inv.passJoined_unsafe {size : Int} (hsize : headSize ≤ size)
    (hpart : ¬ (size - s.tail ≤ s.recvlen ∨
      (s.recvlen < headSize - s.tail ∧ size - s.tail ≤ EVENT_MSG_LEN))) {s' : Connect}
    (hpass : s.passJoined s.joinedHead size = .ok s') :
    ∃ package ∈ s'.sent.drop s.sent.length, ¬ Initialised package := by
  have htail := h.tail_range hlabel htmp
  obtain ⟨hpos, hleft⟩ := h.left hlabel
  have hstart : s.rev_cnt = 0 := h.start hlabel (by simp [htmp])
  by_cases hstale : s.recvlen - (headSize - s.tail) < 0
  · -- the old bytes of `recv_buf` do not suffice
    simp only [passJoined, if_pos (Or.inl hstale)] at hpass
    rw [copyFrom_error (Or.inr (by omega))] at hpass
    cases hpass
  · have hn : ¬ (s.recvlen - (headSize - s.tail) < 0 ∨
        size - headSize ≤ s.recvlen - (headSize - s.tail)) := by omega
    simp only [passJoined, if_neg hn] at hpass
    rw [copyFrom_ok (by omega) (by omega)] at hpass
    simp only [deal_data, Int.sub_self, Int.lt_irrefl, false_and, if_false, Except.ok.injEq]
      at hpass
    subst hpass
    rw [List.drop_left]
    refine ⟨_, List.mem_singleton.mpr rfl, fun hinitialised => hinitialised.1 ?_⟩
    rw [List.mem_append, List.mem_replicate]
    refine Or.inr ⟨?_, rfl⟩
    rw [List.length_map, Memory.length_load]
    omega

/-- With a part of a head a pass is safe exactly if what it finds is sound. -/
theorem Inv.tempackage_iff (ok : Bool) :
    (s.SafePass ok → s.Sound ok) ∧ (s.Sound ok → s.Passes (s.pass ok)) := by
  obtain ⟨size, hsize, heq⟩ := h.passTempackage_eq hlabel htmp
  have hpass : s.pass ok = s.passTempackage ok := by rw [pass, htmp]
  rw [heq] at hpass
  simp only [Sound, htmp, hsize, Option.mem_def, Option.some.injEq, forall_eq']
  constructor
  · rintro ⟨s', hok, -, hsent⟩
    rw [hpass] at hok
    split at hok
    · cases hok
    · rename_i hmemory
      split at hok
      · cases hok
      · rename_i hlong
        have hlong' : headSize ≤ size := by omega
        refine ⟨not_not.mp hmemory, hlong', ?_⟩
        by_contra hpart
        obtain ⟨package, hmem, hnot⟩ := h.passJoined_unsafe hlabel htmp hlong' hpart hok
        exact hnot (hsent package hmem)
  · rintro ⟨hmemory, hlong, hwhole⟩
    rw [hpass, if_neg (not_not.mpr hmemory), if_neg (by omega)]
    exact h.passJoined_safe hlabel htmp hlong hwhole

end Tempackage

/-! ## A part of a body -/

/-- What completes a package is written ten bytes too far. -/
theorem Inv.package_iff {s : Connect} (h : s.Inv) (hlabel : s.label = .many_head)
    (htmp : s.tmp_head = .package) (ok : Bool) :
    (s.SafePass ok → s.Sound ok) ∧ (s.Sound ok → s.Passes (s.pass ok)) := by
  have hpos : 0 < headSize := by decide
  obtain ⟨hsize, htail⟩ := h.package (by simp [hlabel]) htmp
  obtain ⟨-, hleft⟩ := h.left hlabel
  have hpass : s.pass ok = s.passPackage := by rw [pass, htmp]
  simp only [Sound, htmp, hsize, Option.mem_def, Option.some.injEq, forall_eq']
  constructor
  · rintro ⟨s', hok, -⟩
    by_contra hcomplete
    simp only [hpass, passPackage, hsize] at hok
    rw [if_pos (by omega), copyFrom_ok (by omega) (by omega)] at hok
    simp only [List.length_map, Memory.length_load] at hok
    rw [if_pos (by omega)] at hok
    cases hok
  · intro hpart
    rw [hpass]
    simp only [passPackage, hsize]
    rw [if_neg (by omega)]
    refine ⟨_, rfl, ⟨h.length, h.written, ?_, ?_, ?_, ?_⟩, ?_, by simp⟩
    · intro hmany
      cases hmany
    · intro hmany
      cases hmany
    · intro _ htmp'
      rw [htmp] at htmp'
      cases htmp'
    · exact fun _ _ => ⟨hsize, htail⟩
    · intro hmany
      cases hmany

/-! ## Runs -/

inductive Event where
  | receive (r : Recv)
  | pass (ok : Bool)
deriving DecidableEq, Repr

def step : Except ConnectFault Connect → Event → Except ConnectFault Connect
  | .error e, _ => .error e
  | .ok s, .receive r => .ok (s.receive r)
  | .ok s, .pass ok => if s.label = .many_head then s.pass ok else .ok s

/-- `recv` returns as many bytes as fit into the buffer. -/
def ValidRecv : Event → Prop
  | .receive (.bytes chunk) => 0 < chunk.length ∧ chunk.length ≤ EVENT_MSG_LEN
  | _ => True

def SafeStep : Except ConnectFault Connect → Event → Prop
  | .ok s, .pass ok => s.label = .many_head → s.SafePass ok
  | _, _ => True

def SoundStep : Except ConnectFault Connect → Event → Prop
  | .ok s, .pass ok => s.label = .many_head → s.Sound ok
  | _, _ => True

theorem Inv.pass_iff {s : Connect} (h : s.Inv) (hlabel : s.label = .many_head) (ok : Bool) :
    (s.SafePass ok → s.Sound ok) ∧ (s.Sound ok → s.Passes (s.pass ok)) := by
  cases htmp : s.tmp_head with
  | null => exact h.null_iff hlabel htmp ok
  | tempackage => exact h.tempackage_iff hlabel htmp ok
  | package => exact h.package_iff hlabel htmp ok

theorem Inv.receive {s : Connect} (h : s.Inv) {r : Recv} (hvalid : ValidRecv (.receive r)) :
    (s.receive r).Inv := by
  have hbegin : ∀ s₀ : Connect, s₀ = (if s.label = .wait_event then
      { s with tmp_head := .null, tail := 0 } else s) → s₀.Inv ∧ (s₀.label = .wait_event →
        s₀.tmp_head = .null) := by
    rintro s₀ rfl
    split
    · rename_i hwait
      refine ⟨⟨h.length, h.written, ?_, ?_, ?_, ?_⟩, fun _ => rfl⟩
      · intro hmany
        rw [hwait] at hmany
        cases hmany
      · exact fun _ hnull => absurd rfl hnull
      · intro _ htmp
        cases htmp
      · intro _ htmp
        cases htmp
    · rename_i hnot
      exact ⟨h, fun hwait => absurd hwait hnot⟩
  unfold Connect.receive
  obtain ⟨h₀, hnull⟩ := hbegin _ rfl
  generalize (if s.label = .wait_event then { s with tmp_head := .null, tail := 0 } else s) = s₀
    at h₀ hnull ⊢
  dsimp only
  split
  · exact h₀
  · rename_i hmany
    have htail : s₀.tmp_head = .tempackage → 0 < s₀.tail ∧ s₀.tail < headSize := by
      intro htmp
      refine h₀.tail (fun hwait => ?_) htmp
      rw [hnull hwait] at htmp
      cases htmp
    have hpackage : s₀.tmp_head = .package → sizeField s₀.trans_da =
        some (s₀.trans_da.length : Int) ∧ s₀.tail < s₀.trans_da.length := by
      intro htmp
      refine h₀.package (fun hwait => ?_) htmp
      rw [hnull hwait] at htmp
      cases htmp
    cases r with
    | fails =>
        refine ⟨h₀.length, h₀.written, ?_, ?_, ?_, ?_⟩
        · intro hlabel
          cases hlabel
        · intro hlabel
          cases hlabel
        · exact fun hlabel => absurd rfl hlabel
        · exact fun hlabel => absurd rfl hlabel
    | bytes chunk =>
        obtain ⟨hpos, hle⟩ := hvalid
        dsimp only
        split
        · refine ⟨h₀.length, h₀.written, ?_, ?_, fun _ => htail, fun _ => hpackage⟩
          · intro hlabel
            cases hlabel
          · intro hlabel
            cases hlabel
        · refine ⟨h₀.length, h₀.written, ?_, fun _ _ => rfl, fun _ => htail, fun _ => hpackage⟩
          intro _
          dsimp only
          omega

theorem inv_init : ({} : Connect).Inv where
  length := by simp
  written := by simp [List.mem_replicate]
  left := fun hmany => by cases hmany
  start := fun hmany => by cases hmany
  tail := fun hwait => absurd rfl hwait
  package := fun hwait => absurd rfl hwait

/-- Every pass of a run is safe exactly when every pass finds what is sound. -/
theorem passes_safe_iff {events : List Event} (hvalid : ∀ e ∈ events, ValidRecv e) :
    Guarded step (fun _ s e => SafeStep s e) (.ok {}) events ↔
      Guarded step (fun _ s e => SoundStep s e) (.ok {}) events := by
  apply guarded_iff_of_valid (fun _ r => ∀ s, r = .ok s → s.Inv) ?_ ?_ ?_
    (guarded_of_forall_mem hvalid)
  · rintro s ⟨⟩
    exact inv_init
  · intro _ r e h hv hsound s' hs'
    cases r with
    | error e => cases hs'
    | ok s =>
        have hinv := h s rfl
        cases e with
        | receive r =>
            cases hs'
            exact hinv.receive hv
        | pass ok =>
            simp only [step] at hs'
            split at hs'
            · rename_i hlabel
              obtain ⟨s'', hpass, hnext, -⟩ := (hinv.pass_iff hlabel ok).2 (hsound hlabel)
              rw [hpass] at hs'
              cases hs'
              exact hnext
            · cases hs'
              exact hinv
  · intro _ r e h _
    cases r with
    | error e => exact Iff.rfl
    | ok s =>
        have hinv := h s rfl
        cases e with
        | receive r => exact Iff.rfl
        | pass ok =>
            simp only [SafeStep, SoundStep]
            refine forall_congr' fun hlabel => ?_
            obtain ⟨hsound, hsafe⟩ := hinv.pass_iff hlabel ok
            exact ⟨hsound, fun hs => Inv.safePass_of_passes (hsafe hs)⟩

instance (ok : Bool) : (s : Connect) → Decidable (s.Sound ok)
  | ⟨_, _, _, _, .null, _, _, _, _⟩ =>
      inferInstanceAs (Decidable (_ ∨ (_ ∧ (_ → ∀ size ∈ sizeField _, _))))
  | ⟨_, _, _, _, .tempackage, _, _, _, _⟩ =>
      inferInstanceAs (Decidable (_ ∧ ∀ size ∈ sizeField _, _ ∧ (_ ∨ (_ ∧ _))))
  | ⟨_, _, _, _, .package, _, _, _, _⟩ => inferInstanceAs (Decidable (∀ size ∈ sizeField _, _))

instance : (s : Except ConnectFault Connect) → (e : Event) → Decidable (SoundStep s e)
  | .ok s, .pass _ => inferInstanceAs (Decidable (s.label = .many_head → _))
  | .error _, _ => inferInstanceAs (Decidable True)
  | .ok _, .receive _ => inferInstanceAs (Decidable True)

instance : (e : Event) → Decidable (ValidRecv e)
  | .receive (.bytes _) => inferInstanceAs (Decidable (_ ∧ _))
  | .receive .fails => inferInstanceAs (Decidable True)
  | .pass _ => inferInstanceAs (Decidable True)

def headOf (size : UInt8) : List UInt8 :=
  ['A'.toUInt8, 'W'.toUInt8, 'P'.toUInt8, 'Q'.toUInt8, 1, 0, size, 0, 0, 0]

/-- Two packages in one chunk, and a part of a head that is continued. -/
theorem passes_safe_three_packages :
    Guarded step (fun _ s e => SafeStep s e) (.ok {})
      [.receive (.bytes (headOf 12 ++ [5, 0] ++ headOf 10)), .pass true, .pass true,
        .receive (.bytes ((headOf 10).take 3)), .pass true,
        .receive (.bytes ((headOf 10).drop 3)), .pass true] :=
  (passes_safe_iff (by decide)).mpr (by decide)

/-- A run of safe passes meets no fault. -/
theorem ok_of_safe {events : List Event}
    (h : Guarded step (fun _ s e => SafeStep s e) (.ok {}) events) :
    (events.foldl step (.ok {})).toBool = true := by
  apply h.invariant (fun _ r => r.toBool = true) rfl
  intro _ r e hok hsafe
  cases r with
  | error e => exact hok
  | ok s =>
      cases e with
      | receive r => rfl
      | pass ok =>
          simp only [step]
          split
          · rename_i hlabel
            obtain ⟨s', hpass, -⟩ := hsafe hlabel
            rw [hpass]
            rfl
          · rfl

/-- A package of size 0, and a package of 20 bytes that comes in two parts. -/
theorem passes_unsafe :
    ¬ Guarded step (fun _ s e => SafeStep s e) (.ok {})
        [.receive (.bytes (headOf 0)), .pass true] ∧
      ¬ Guarded step (fun _ s e => SafeStep s e) (.ok {})
        [.receive (.bytes (headOf 20 ++ [5, 0])), .pass true,
          .receive (.bytes (List.replicate 8 7)), .pass true] := by
  constructor
  · intro h
    exact absurd (ok_of_safe h) (by decide +kernel)
  · intro h
    exact absurd (ok_of_safe h) (by decide +kernel)

end Connect

end AwHal.Pq
