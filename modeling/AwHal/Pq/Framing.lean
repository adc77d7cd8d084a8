import AwHal.Lib.ByteRuns
import AwHal.Pq.ReassemblySafety

/-!
# Packages that arrive whole

As long as `recv` returns whole packages, or a part of a head and then the rest, the packages are given
on as they were sent.
-/

namespace AwHal.Pq

open AwHal.Lib

structure Package where
  bytes : List UInt8
  head_le : headSize ≤ bytes.length
  magic : (bytes.take 4).map some = AWPQ
  size : sizeField (bytes.map some) = some (bytes.length : Int)

def stream (packages : List Package) : List UInt8 := packages.flatMap Package.bytes

@[simp] theorem stream_cons (p : Package) (packages : List Package) :
    stream (p :: packages) = p.bytes ++ stream packages := rfl

theorem headSize_le_length_stream {packages : List Package} (h : packages ≠ []) :
    headSize ≤ (stream packages).length := by
  cases packages with
  | nil => exact absurd rfl h
  | cons p packages =>
      have := p.head_le
      rw [stream_cons, List.length_append]
      omega

def contents (packages : List Package) : List (List Byte) := packages.map fun p => p.bytes.map some

namespace Connect

/-- `recv` and the passes after it, at most one for each byte. -/
def feed (s : Except ConnectFault Connect) (r : Recv) : Except ConnectFault Connect :=
  let n := match r with
    | .bytes chunk => chunk.length
    | .fails => 0
  (fun s => step s (.pass true))^[n] (step s (.receive r))

def receivedBytes (recvs : List Recv) : List UInt8 :=
  recvs.flatMap fun
    | .bytes chunk => chunk
    | .fails => []

/-- Everything is dealt with, and exactly the packages were given on. -/
def Delivers (packages : List Package) (recvs : List Recv) : Prop :=
  ∃ s, recvs.foldl feed (.ok {}) = .ok s ∧ s.label ≠ .many_head ∧ s.sent = contents packages

/-- A number of bytes that `recv` can return and that is not taken for an error. -/
def Counted (n : Nat) : Prop :=
  0 < n ∧ n ≤ EVENT_MSG_LEN ∧ n ≠ EINTR ∧ n ≠ EAGAIN

instance (n : Nat) : Decidable (Counted n) := inferInstanceAs (Decidable (_ ∧ _ ∧ _ ∧ _))

/-- `recv` returns whole packages, or a part of a head and at once the rest of the package, with other
whole packages after it.  It may fail between packages. -/
inductive ComesWhole : List Package → List Recv → Prop
  | nil : ComesWhole [] []
  | fails {packages : List Package} {recvs : List Recv} :
      ComesWhole packages recvs → ComesWhole packages (.fails :: recvs)
  | whole {group packages : List Package} {recvs : List Recv} :
      Counted (stream group).length → ComesWhole packages recvs →
      ComesWhole (group ++ packages) (.bytes (stream group) :: recvs)
  | parts {p : Package} {group packages : List Package} {recvs : List Recv} {t : Nat} :
      0 < t → t < headSize → Counted t → Counted ((p.bytes.drop t ++ stream group).length) →
      ComesWhole packages recvs →
      ComesWhole (p :: group ++ packages)
        (.bytes (p.bytes.take t) :: .bytes (p.bytes.drop t ++ stream group) :: recvs)

/-! ## Whole packages in a chunk -/

/-- The next bytes of `recv_buf` are those of `group`. -/
structure Holds (s : Connect) (group : List Package) : Prop where
  recvlen : s.recvlen = (stream group).length
  fits : s.rev_cnt + (stream group).length ≤ EVENT_MSG_LEN
  bytes : s.recv_buf.load s.rev_cnt (stream group).length = stream group

/-- The packages in `group` are to be dealt with, or all have been. -/
def Before (s : Connect) (group : List Package) : Prop :=
  if group = [] then s.label = .wait_event
  else s.label = .many_head ∧ s.tmp_head = .null ∧ s.Holds group

theorem deal_data_before {s : Connect} {group : List Package} (h : s.Holds group)
    (package : List Byte) :
    (s.deal_data package).Before group ∧ (s.deal_data package).sent = s.sent ++ [package] := by
  have hrecvlen := h.recvlen
  by_cases hgroup : group = []
  · subst hgroup
    have hzero : s.recvlen = 0 := hrecvlen
    simp [deal_data, Before, hzero]
  · have hle := headSize_le_length_stream hgroup
    have hpos : 0 < headSize := by decide
    have hnot : ¬ (0 < s.recvlen ∧ s.recvlen < headSize) := by omega
    have hmore : 0 < s.recvlen := by omega
    simp only [deal_data, if_neg hnot, if_pos hmore, Before, if_neg hgroup, true_and, and_true]
    exact ⟨h.recvlen, h.fits, h.bytes⟩

section FirstPackage

variable {s : Connect} {p : Package} {group : List Package} (h : s.Holds (p :: group))

include h

theorem Holds.load_first : s.recv_buf.load s.rev_cnt p.bytes.length = p.bytes := by
  have hbytes := h.bytes
  rw [stream_cons, List.length_append] at hbytes
  rw [← Memory.take_load s.recv_buf s.rev_cnt (Nat.le_add_right _ (stream group).length), hbytes,
    List.take_left]

theorem Holds.load_rest :
    s.recv_buf.load (s.rev_cnt + p.bytes.length) (stream group).length = stream group := by
  have hbytes := h.bytes
  rw [stream_cons, List.length_append] at hbytes
  have hdrop := Memory.drop_load s.recv_buf s.rev_cnt (p.bytes.length + (stream group).length)
    p.bytes.length
  rw [hbytes, List.drop_left, Nat.add_sub_cancel_left] at hdrop
  exact hdrop.symm

theorem Holds.head_first : s.head = (p.bytes.take headSize).map some := by
  rw [head, ← Memory.take_load s.recv_buf s.rev_cnt p.head_le, h.load_first]

end FirstPackage

theorem sizeField_take (p : Package) :
    sizeField ((p.bytes.take headSize).map some) = some (p.bytes.length : Int) := by
  rw [← p.size]
  refine sizeField_congr ?_
  rw [← List.map_take, ← List.map_take, List.take_take, Nat.min_self]

theorem Before.pass {s : Connect} {p : Package} {group : List Package} (h : s.Before (p :: group)) :
    ∃ s', s.pass true = .ok s' ∧ s'.Before group ∧ s'.sent = s.sent ++ [p.bytes.map some] := by
  rw [Before, if_neg (List.cons_ne_nil _ _)] at h
  obtain ⟨hlabel, htmp, h⟩ := h
  have hrecvlen := h.recvlen
  have hfits := h.fits
  rw [stream_cons, List.length_append] at hrecvlen hfits
  have hle := p.head_le
  have hcopy_head : s.copyFrom s.rev_cnt headSize = .ok s.head :=
    copyFrom_ok (Int.natCast_nonneg _) (by omega)
  have hcopy : s.copyFrom s.rev_cnt p.bytes.length = .ok (p.bytes.map some) := by
    rw [copyFrom_ok (Int.natCast_nonneg _) (by omega), Int.toNat_natCast, h.load_first]
  have hmagic : s.head.take 4 = AWPQ := by
    rw [h.head_first, ← List.map_take, List.take_take]
    exact p.magic
  have hsize : sizeField s.head = some (p.bytes.length : Int) := by
    rw [h.head_first, sizeField_take]
  refine ⟨deal_data { s with
    tmp_head := .package
    recvlen := s.recvlen - p.bytes.length
    rev_cnt := s.rev_cnt + p.bytes.length } (p.bytes.map some), ?_, ?_⟩
  · rw [Connect.pass, htmp]
    simp only [passNull, hcopy_head, hsize, passHead, hcopy, p.size, Int.toNat_natCast]
    rw [if_pos (by omega), if_neg (not_not.mpr hmagic), if_neg (by simp), if_pos (by omega)]
  · refine deal_data_before ⟨?_, ?_, ?_⟩ _
    · dsimp only
      omega
    · dsimp only
      omega
    · exact h.load_rest

theorem Before.passes {s : Connect} {group : List Package} (h : s.Before group) {n : Nat}
    (hn : group.length ≤ n) :
    ∃ s', (fun r => step r (.pass true))^[n] (.ok s) = .ok s' ∧ s'.label = .wait_event ∧
      s'.sent = s.sent ++ contents group := by
  induction n generalizing s group with
  | zero =>
      have hnil : group = [] := List.eq_nil_of_length_eq_zero (by omega)
      subst hnil
      exact ⟨s, rfl, h, by simp [contents]⟩
  | succ n ih =>
      rw [Function.iterate_succ_apply]
      cases group with
      | nil =>
          have hwait : s.label = .wait_event := h
          have hstep : step (.ok s) (.pass true) = .ok s := by simp [step, hwait]
          rw [hstep]
          exact ih h (Nat.zero_le _)
      | cons p group =>
          obtain ⟨s', hpass, hbefore, hsent⟩ := h.pass
          rw [Before, if_neg (List.cons_ne_nil _ _)] at h
          have hstep : step (.ok s) (.pass true) = .ok s' := by simp [step, h.1, hpass]
          obtain ⟨s'', hiterate, hwait, hsent'⟩ := ih hbefore (by simpa using hn)
          rw [hstep]
          refine ⟨s'', hiterate, hwait, ?_⟩
          rw [hsent', hsent]
          simp [contents]

theorem length_le_length_stream (packages : List Package) :
    packages.length ≤ (stream packages).length := by
  induction packages with
  | nil => exact Nat.le_refl 0
  | cons p packages ih =>
      have := p.head_le
      have hpos : 0 < headSize := by decide
      simp only [stream_cons, List.length_append, List.length_cons]
      omega

/-! ## Chunks -/

theorem receive_bytes {s : Connect} (hlabel : s.label ≠ .many_head) {chunk : List UInt8}
    (hcount : Counted chunk.length) :
    s.receive (.bytes chunk) =
      { s with
        label := .many_head
        tmp_head := if s.label = .wait_event then .null else s.tmp_head
        tail := if s.label = .wait_event then 0 else s.tail
        recv_buf := s.recv_buf.store 0 chunk
        rev_cnt := 0
        recvlen := chunk.length } := by
  obtain ⟨-, -, hintr, hagain⟩ := hcount
  have hnot : ¬ (chunk.length = EINTR ∨ chunk.length = EAGAIN) := not_or.mpr ⟨hintr, hagain⟩
  cases hl : s.label with
  | wait_event => simp [receive, hl, hnot]
  | receiv => simp [receive, hl, hnot]
  | many_head => exact absurd hl hlabel

theorem feed_whole {s : Connect} (hwait : s.label = .wait_event) {group : List Package}
    (hcount : Counted (stream group).length) :
    ∃ s', feed (.ok s) (.bytes (stream group)) = .ok s' ∧ s'.label = .wait_event ∧
      s'.sent = s.sent ++ contents group := by
  have hreceive := receive_bytes (s := s) (by simp [hwait]) hcount
  have hne : group ≠ [] := by
    rintro rfl
    exact absurd hcount.1 (Nat.lt_irrefl 0)
  have hbefore : (s.receive (.bytes (stream group))).Before group := by
    rw [hreceive, Before, if_neg hne]
    refine ⟨rfl, if_pos hwait, rfl, ?_, ?_⟩
    · dsimp only
      have := hcount.2.1
      omega
    · exact Memory.load_store s.recv_buf 0 (stream group)
  obtain ⟨s', hpasses, hwait', hsent⟩ := hbefore.passes (length_le_length_stream group)
  refine ⟨s', hpasses, hwait', ?_⟩
  rw [hsent, hreceive]

/-- A part of the head of `p` is kept in `tempackage`. -/
structure Keeps (s : Connect) (p : Package) (t : Nat) : Prop where
  label : s.label = .receiv
  tmp_head : s.tmp_head = .tempackage
  tail : s.tail = t
  tempackage : s.tempackage.take t = (p.bytes.take t).map some

theorem passes_of_label {s : Connect} (hlabel : s.label ≠ .many_head) (n : Nat) :
    (fun r => step r (.pass true))^[n] (.ok s) = .ok s := by
  have hstep : step (.ok s) (.pass true) = .ok s := by simp [step, hlabel]
  exact Function.iterate_fixed hstep n

theorem feed_first_pass {s s' : Connect} (hlabel : s.label ≠ .many_head) {chunk : List UInt8}
    (hcount : Counted chunk.length) (hpass : (s.receive (.bytes chunk)).pass true = .ok s') :
    feed (.ok s) (.bytes chunk) =
      (fun r => step r (.pass true))^[chunk.length - 1] (.ok s') := by
  have hmany : (s.receive (.bytes chunk)).label = .many_head := by
    rw [receive_bytes hlabel hcount]
  have hstep : step (step (.ok s) (.receive (.bytes chunk))) (.pass true) = .ok s' := by
    simp [step, hmany, hpass]
  obtain ⟨n, hn⟩ := Nat.exists_eq_succ_of_ne_zero (Nat.ne_of_gt hcount.1)
  simp only [feed, hn, Nat.succ_sub_one]
  rw [Function.iterate_succ_apply, hstep]

theorem feed_part {s : Connect} (hwait : s.label = .wait_event) (p : Package) {t : Nat}
    (hpos : 0 < t) (hlt : t < headSize) (hcount : Counted t) :
    ∃ s', feed (.ok s) (.bytes (p.bytes.take t)) = .ok s' ∧ s'.Keeps p t ∧ s'.sent = s.sent := by
  have hlength : (p.bytes.take t).length = t := by
    have := p.head_le
    rw [List.length_take]
    omega
  have hlabel : s.label ≠ .many_head := by simp [hwait]
  have hcount' : Counted (p.bytes.take t).length := by
    rw [hlength]
    exact hcount
  have hreceive := receive_bytes hlabel hcount'
  rw [if_pos hwait, if_pos hwait, hlength] at hreceive
  have hload : (s.recv_buf.store 0 (p.bytes.take t)).load 0 t = p.bytes.take t := by
    have := Memory.load_store s.recv_buf 0 (p.bytes.take t)
    rw [hlength] at this
    exact this
  have hpass : (s.receive (.bytes (p.bytes.take t))).pass true =
      .ok ((s.receive (.bytes (p.bytes.take t))).deal_data ((p.bytes.take t).map some)) := by
    have hfits := hcount.2.1
    rw [hreceive, pass]
    simp only [passNull]
    rw [if_neg (by omega), copyFrom_ok (by omega) (by omega), Int.toNat_natCast, hload]
    simp only
    rw [if_pos (by omega)]
  have hdeal : (s.receive (.bytes (p.bytes.take t))).deal_data ((p.bytes.take t).map some) =
      { s.receive (.bytes (p.bytes.take t)) with
        tempackage := ((p.bytes.take t).map some).take t ++ s.tempackage.drop t
        tmp_head := .tempackage
        tail := t
        label := .receiv } := by
    rw [hreceive, deal_data, if_pos (by dsimp only; omega)]
    rfl
  rw [hdeal] at hpass
  have hfeed := feed_first_pass hlabel hcount' hpass
  rw [passes_of_label (by simp)] at hfeed
  refine ⟨_, hfeed, ⟨rfl, rfl, rfl, ?_⟩, ?_⟩
  · have hsame : ((p.bytes.take t).map some).take t = (p.bytes.take t).map some :=
      List.take_of_length_le (by simp)
    dsimp only
    rw [hsame, List.take_left' (by rw [List.length_map]; exact hlength)]
  · rw [hreceive]

/-- The rest of the head, the body and what follows, in a buffer that holds the rest of a package. -/
theorem pieces_of_rest {buf : Memory} {p : Package} {t : Nat} (hlt : t < headSize)
    {more : List UInt8}
    (hload : buf.load 0 (p.bytes.length - t + more.length) = p.bytes.drop t ++ more) :
    buf.load 0 (headSize - t) = (p.bytes.take headSize).drop t ∧
      buf.load (headSize - t) (p.bytes.length - headSize) = p.bytes.drop headSize ∧
      buf.load (p.bytes.length - t) more.length = more := by
  have hle := p.head_le
  have hpiece : ∀ i k, i + k ≤ p.bytes.length - t + more.length →
      buf.load i k = ((p.bytes.drop t ++ more).drop i).take k := by
    intro i k hle
    rw [← hload, Memory.drop_load, Memory.take_load _ _ (by omega), Nat.zero_add]
  refine ⟨?_, ?_, ?_⟩
  · rw [hpiece _ _ (by omega), List.drop_zero,
      List.take_append_of_le_length (by rw [List.length_drop]; omega), List.drop_take]
  · rw [hpiece _ _ (by omega), List.drop_append_of_le_length (by rw [List.length_drop]; omega),
      List.drop_drop, Nat.add_sub_cancel' (Nat.le_of_lt hlt),
      List.take_left' (by rw [List.length_drop])]
  · rw [hpiece _ _ (Nat.le_refl _), List.drop_left' (by rw [List.length_drop]),
      List.take_of_length_le (Nat.le_refl _)]

theorem join_package (p : Package) :
    (p.bytes.take headSize).map some ++ (p.bytes.drop headSize).map some ++
      List.replicate ((p.bytes.length : Int).toNat - headSize -
        ((p.bytes.drop headSize).map some).length) none = p.bytes.map some := by
  rw [← List.map_append, List.take_append_drop, List.length_map, List.length_drop,
    Int.toNat_natCast, Nat.sub_self, List.replicate_zero, List.append_nil]

section Rest

variable {s : Connect} {p : Package} {t : Nat} (h : s.Keeps p t) (hlt : t < headSize)
  {group : List Package}

include h hlt

theorem Keeps.pass (hcount : Counted (p.bytes.drop t ++ stream group).length) :
    ∃ s', (s.receive (.bytes (p.bytes.drop t ++ stream group))).pass true = .ok s' ∧
      s'.Before group ∧ s'.sent = s.sent ++ [p.bytes.map some] := by
  have hle := p.head_le
  have hlabel : s.label ≠ .many_head := by simp [h.label]
  have hreceive := receive_bytes hlabel hcount
  have hnot : s.label ≠ .wait_event := by simp [h.label]
  rw [if_neg hnot, if_neg hnot] at hreceive
  have hlength : (p.bytes.drop t ++ stream group).length =
      p.bytes.length - t + (stream group).length := by simp
  have hfits := hcount.2.1
  rw [hlength] at hfits
  have hload := Memory.load_store s.recv_buf 0 (p.bytes.drop t ++ stream group)
  rw [hlength] at hload hreceive
  generalize s.recv_buf.store 0 (p.bytes.drop t ++ stream group) = buf at hload hreceive
  obtain ⟨hhead, hbody, hrest⟩ := pieces_of_rest hlt hload
  have hjoined : s.tempackage.take t ++ (buf.load 0 (headSize - t)).map some =
      (p.bytes.take headSize).map some := by
    rw [h.tempackage, hhead, ← List.map_append]
    congr 1
    have := List.take_append_drop t (p.bytes.take headSize)
    rw [List.take_take, Nat.min_eq_left (Nat.le_of_lt hlt)] at this
    exact this
  refine ⟨deal_data { s.receive (.bytes (p.bytes.drop t ++ stream group)) with
    tempackage := (p.bytes.take headSize).map some
    tmp_head := .package
    rev_cnt := p.bytes.length - t
    recvlen := (stream group).length } (p.bytes.map some), ?_, ?_⟩
  · have hpart : (s.receive (.bytes (p.bytes.drop t ++ stream group))).copyFrom 0
        (headSize - t) = .ok ((buf.load 0 (headSize - t)).map some) := by
      rw [hreceive, copyFrom_ok (by omega) (by omega)]
      congr 3
      omega
    have hcopy : (s.receive (.bytes (p.bytes.drop t ++ stream group))).copyFrom (headSize - t)
        ((p.bytes.length : Int) - headSize) = .ok ((p.bytes.drop headSize).map some) := by
      rw [hreceive, copyFrom_ok (by omega) (by omega)]
      dsimp only
      rw [show ((p.bytes.length : Int) - headSize).toNat = p.bytes.length - headSize by omega,
        hbody]
    have hn : (((p.bytes.length - t + (stream group).length : Nat) : Int) - (headSize - t) < 0 ∨
        (p.bytes.length : Int) - headSize ≤
          ((p.bytes.length - t + (stream group).length : Nat) : Int) - (headSize - t)) := by omega
    rw [hreceive] at hpart hcopy ⊢
    simp only [Connect.pass, h.tmp_head, passTempackage, h.tail] at hpart hcopy ⊢
    rw [hpart]
    dsimp only
    rw [hjoined, sizeField_take]
    dsimp only
    rw [if_neg (by simp), if_neg (by omega)]
    simp only [passJoined, if_pos hn, Nat.zero_add]
    rw [hcopy]
    dsimp only
    rw [join_package]
    congr 3
    · omega
    · omega
  · have hholds : Holds { s.receive (.bytes (p.bytes.drop t ++ stream group)) with
        tempackage := (p.bytes.take headSize).map some
        tmp_head := .package
        rev_cnt := p.bytes.length - t
        recvlen := (stream group).length } group := by
      refine ⟨rfl, by dsimp only; omega, ?_⟩
      rw [hreceive]
      exact hrest
    have hdeal := deal_data_before hholds (p.bytes.map some)
    rw [hreceive] at hdeal ⊢
    exact hdeal

theorem feed_rest (hcount : Counted (p.bytes.drop t ++ stream group).length) :
    ∃ s', feed (.ok s) (.bytes (p.bytes.drop t ++ stream group)) = .ok s' ∧
      s'.label = .wait_event ∧ s'.sent = s.sent ++ contents (p :: group) := by
  obtain ⟨s₁, hpass, hbefore, hsent⟩ := h.pass hlt hcount
  have hmore : group.length ≤ (p.bytes.drop t ++ stream group).length - 1 := by
    have hle := p.head_le
    have hgroup := length_le_length_stream group
    rw [List.length_append, List.length_drop]
    omega
  obtain ⟨s', hpasses, hwait, hsent'⟩ := hbefore.passes hmore
  refine ⟨s', ?_, hwait, ?_⟩
  · rw [feed_first_pass (by simp [h.label]) hcount hpass]
    exact hpasses
  · rw [hsent', hsent]
    simp [contents]

end Rest

/-! ## Runs -/

theorem feed_fails {s : Connect} (hwait : s.label = .wait_event) :
    ∃ s', feed (.ok s) .fails = .ok s' ∧ s'.label = .wait_event ∧ s'.sent = s.sent := by
  refine ⟨s.receive .fails, rfl, ?_, ?_⟩
  · simp [receive, hwait]
  · simp [receive, hwait]

theorem contents_append (packages more : List Package) :
    contents (packages ++ more) = contents packages ++ contents more := List.map_append

theorem stream_append (packages more : List Package) :
    stream (packages ++ more) = stream packages ++ stream more := List.flatMap_append

theorem ComesWhole.receivedBytes {packages : List Package} {recvs : List Recv}
    (h : ComesWhole packages recvs) : receivedBytes recvs = stream packages := by
  induction h with
  | nil => rfl
  | fails _ ih => exact ih
  | @whole group packages recvs _ _ ih =>
      rw [stream_append, ← ih]
      rfl
  | @parts p group packages recvs t _ _ _ _ _ ih =>
      have hrecvs : Connect.receivedBytes (.bytes (p.bytes.take t) ::
          .bytes (p.bytes.drop t ++ stream group) :: recvs) =
          p.bytes.take t ++ (p.bytes.drop t ++ stream group ++ Connect.receivedBytes recvs) := rfl
      rw [hrecvs, stream_append, stream_cons, ih, ← List.append_assoc, ← List.append_assoc,
        List.take_append_drop]

theorem ComesWhole.feed {packages : List Package} {recvs : List Recv}
    (h : ComesWhole packages recvs) {s : Connect} (hwait : s.label = .wait_event) :
    ∃ s', recvs.foldl feed (.ok s) = .ok s' ∧ s'.label = .wait_event ∧
      s'.sent = s.sent ++ contents packages := by
  induction h generalizing s with
  | nil => exact ⟨s, rfl, hwait, by simp [contents]⟩
  | fails _ ih =>
      obtain ⟨s₁, hfeed, hwait₁, hsent₁⟩ := feed_fails hwait
      obtain ⟨s', hrun, hwait', hsent'⟩ := ih hwait₁
      refine ⟨s', ?_, hwait', ?_⟩
      · rw [List.foldl_cons, hfeed, hrun]
      · rw [hsent', hsent₁]
  | whole hcount _ ih =>
      obtain ⟨s₁, hfeed, hwait₁, hsent₁⟩ := feed_whole hwait hcount
      obtain ⟨s', hrun, hwait', hsent'⟩ := ih hwait₁
      refine ⟨s', ?_, hwait', ?_⟩
      · rw [List.foldl_cons, hfeed, hrun]
      · rw [hsent', hsent₁, contents_append, List.append_assoc]
  | @parts p group packages recvs t hpos hlt hpart hrest _ ih =>
      obtain ⟨s₁, hfeed₁, hkeeps, hsent₁⟩ := feed_part hwait p hpos hlt hpart
      obtain ⟨s₂, hfeed₂, hwait₂, hsent₂⟩ := feed_rest hkeeps hlt hrest
      obtain ⟨s', hrun, hwait', hsent'⟩ := ih hwait₂
      refine ⟨s', ?_, hwait', ?_⟩
      · rw [List.foldl_cons, hfeed₁, List.foldl_cons, hfeed₂, hrun]
      · rw [hsent', hsent₂, hsent₁, contents_append, List.append_assoc]

/-- Packages that come whole, or in a part of a head and the rest, are given on, each once, in order
and byte for byte. -/
theorem framing_delivers {packages : List Package} {recvs : List Recv}
    (h : ComesWhole packages recvs) :
    receivedBytes recvs = stream packages ∧ Delivers packages recvs := by
  refine ⟨h.receivedBytes, ?_⟩
  obtain ⟨s', hrun, hwait, hsent⟩ := h.feed (s := {}) rfl
  refine ⟨s', hrun, by simp [hwait], ?_⟩
  rw [hsent]
  rfl

def zeroPackage (size : UInt8) : List UInt8 :=
  headOf size ++ List.replicate (size.toNat - headSize) 0

def package10 : Package := ⟨zeroPackage 10, by decide, by decide, by decide⟩

def package11 : Package := ⟨zeroPackage 11, by decide, by decide, by decide⟩

def package12 : Package := ⟨zeroPackage 12, by decide, by decide, by decide⟩

/-- Two packages in a chunk, and one whose head is split. -/
theorem framing_delivers_three_packages :
    Delivers [package12, package11, package10]
      [.bytes (stream [package12, package11]), .fails, .bytes (package10.bytes.take 3),
        .bytes (package10.bytes.drop 3 ++ stream [])] :=
  (framing_delivers (@ComesWhole.whole [package12, package11] [package10] _ (by decide)
    (.fails (@ComesWhole.parts package10 [] [] [] 3 (by decide) (by decide) (by decide) (by decide)
      .nil)))).2

def sentOf : Except ConnectFault Connect → Option (List (List Byte))
  | .ok s => some s.sent
  | .error _ => none

theorem Delivers.sentOf {packages : List Package} {recvs : List Recv} (h : Delivers packages recvs) :
    sentOf (recvs.foldl feed (.ok {})) = some (contents packages) := by
  obtain ⟨s, hrun, -, hsent⟩ := h
  rw [hrun, ← hsent]
  rfl

/-- The first of two packages is lost if a part of the second one comes with it; and a package of 11
bytes is lost although it comes whole. -/
theorem framing_loses_packages :
    receivedBytes [.bytes (package12.bytes ++ package10.bytes.take 3),
        .bytes (package10.bytes.drop 3)] = stream [package12, package10] ∧
      ¬ Delivers [package12, package10] [.bytes (package12.bytes ++ package10.bytes.take 3),
        .bytes (package10.bytes.drop 3)] ∧
      ¬ Delivers [package11] [.bytes package11.bytes, .fails] := by
  refine ⟨by decide, fun h => ?_, fun h => ?_⟩
  · exact absurd h.sentOf (by decide +kernel)
  · exact absurd h.sentOf (by decide +kernel)

end Connect

end AwHal.Pq
