import AwHal.Lib.ByteMemory

/-!
# Received audio to the speaker

The loop of `vohci_recv_thread` in `vohci.c`: it passes what a `recv` brings to `pcm_write`, and where the
link has 16 kHz the averages of its pairs of samples, which it computes in place.
-/

namespace AwHal.Wireless.VohciRecv

open AwHal.Lib

def int16 (bytes : List UInt8) : Int := Int.bmod (leValue bytes) 65536

def int16Bytes (value : Int) : List UInt8 := leBytes 2 (value % 65536).toNat

def average (a b : List UInt8) : List UInt8 := int16Bytes ((int16 a + int16 b).tdiv 2)

def resampleAt (buffer : Memory) (n : Nat) : Memory :=
  buffer.store (2 * n) (average (buffer.load (2 * (n * 2)) 2) (buffer.load (2 * (n * 2 + 1)) 2))

def resample (count : Nat) (buffer : Memory) : Memory := (List.range count).foldl resampleAt buffer

/-- An iteration with what `recv` has brought: the buffer, and the bytes for `pcm_write`. -/
def iteration (input_rate : UInt16) (buffer : Memory) (received : List UInt8) : Memory × List UInt8 :=
  let buffer := buffer.store 0 received
  let len := received.length
  if input_rate = 16000 then
    let len := len / 2
    let buffer := resample (len / 2) buffer
    (buffer, buffer.load 0 len)
  else (buffer, buffer.load 0 len)

def vohci_recv_thread (input_rate : UInt16) : List (List UInt8) → Memory → List (List UInt8)
  | [], _ => []
  | received :: chunks, buffer =>
      -- no bytes: the pipe is broken
      if received.length = 0 then []
      else
        let (buffer, written) := iteration input_rate buffer received
        written :: vohci_recv_thread input_rate chunks buffer

/-! ## What it is for -/

def averages : List UInt8 → List UInt8
  | a :: b :: c :: d :: rest => average [a, b] [c, d] ++ averages rest
  | _ => []

/-- The output is that of the whole stream.  For an incomplete last pair it may have half of its bytes
more. -/
def Downsamples (stream : List UInt8) (written : List (List UInt8)) : Prop :=
  ∃ tail, written.flatten = averages stream ++ tail ∧ tail.length ≤ stream.length % 4 / 2

/-- Every chunk of these lengths begins between two pairs, or in an incomplete last one. -/
def WholePairs (lengths : List Nat) : Prop :=
  ∀ before n after, lengths = before ++ n :: after →
    before.sum % 4 = 0 ∨ 4 * (lengths.sum / 4) ≤ before.sum

/-! ## Averages -/

theorem length_average (a b : List UInt8) : (average a b).length = 2 := length_leBytes 2 _

theorem averages_of_short {l : List UInt8} (h : l.length < 4) : averages l = [] := by
  match l, h with
  | [], _ => rfl
  | [_], _ => rfl
  | [_, _], _ => rfl
  | [_, _, _], _ => rfl

theorem length_lt_four {l : List UInt8}
    (h : ∀ a b c d rest, l = a :: b :: c :: d :: rest → False) : l.length < 4 := by
  match l, h with
  | [], _ | [_], _ | [_, _], _ | [_, _, _], _ => simp
  | a :: b :: c :: d :: rest, h => exact absurd rfl (h a b c d rest)

theorem averages_append {l : List UInt8} (h : l.length % 4 = 0) (l' : List UInt8) :
    averages (l ++ l') = averages l ++ averages l' := by
  induction l using averages.induct with
  | case1 a b c d rest ih =>
      simp only [List.length_cons] at h
      simp only [List.cons_append, averages, ih (by omega), List.append_assoc]
  | case2 l hshort =>
      have hlt := length_lt_four hshort
      obtain rfl : l = [] := List.eq_nil_of_length_eq_zero (by omega)
      rfl

theorem averages_take (l : List UInt8) : averages (l.take (4 * (l.length / 4))) = averages l := by
  have hle : 4 * (l.length / 4) ≤ l.length := Nat.mul_div_le _ _
  have hlen : (l.take (4 * (l.length / 4))).length = 4 * (l.length / 4) := List.length_take_of_le hle
  have hrest : averages (l.drop (4 * (l.length / 4))) = [] := by
    apply averages_of_short
    rw [List.length_drop]
    omega
  conv_rhs => rw [← List.take_append_drop (4 * (l.length / 4)) l]
  rw [averages_append (by omega), hrest, List.append_nil]

theorem averages_append_of_le {l l' : List UInt8}
    (h : 4 * ((l.length + l'.length) / 4) ≤ l.length) : averages (l ++ l') = averages l := by
  have heq : (l.length + l'.length) / 4 = l.length / 4 := by omega
  rw [← averages_take (l ++ l'), List.length_append, heq, List.take_append_of_le_length (by omega),
    averages_take]

theorem length_averages (l : List UInt8) : (averages l).length = 2 * (l.length / 4) := by
  induction l using averages.induct with
  | case1 a b c d rest ih =>
      simp only [averages, List.length_append, length_average, ih, List.length_cons]
      omega
  | case2 l hshort =>
      have hlt := length_lt_four hshort
      rw [averages_of_short hlt, Nat.div_eq_of_lt hlt]
      rfl

theorem averages_replicate_zero (n : Nat) : ∀ b ∈ averages (List.replicate n 0), b = 0 := by
  induction n using Nat.strong_induction_on with
  | _ n ih =>
      match n with
      | 0 | 1 | 2 | 3 => exact fun b hb => nomatch hb
      | n + 4 =>
          have hzero : average [0, 0] [0, 0] = List.replicate 2 0 := by decide
          intro b hb
          rcases List.mem_append.mp hb with hb | hb
          · exact List.eq_of_mem_replicate (hzero ▸ hb)
          · exact ih n (by omega) b hb

/-! ## One chunk -/

theorem resample_succ (n : Nat) (buffer : Memory) :
    resample (n + 1) buffer = resampleAt (resample n buffer) n := by
  rw [resample, List.range_succ, List.foldl_concat]
  rfl

theorem resample_outside {count : Nat} {buffer : Memory} {x : Nat} (h : 2 * count ≤ x) :
    resample count buffer x = buffer x := by
  induction count with
  | zero => rfl
  | succ n ih =>
      rw [resample_succ, resampleAt, Memory.store_outside, ih (by omega)]
      rw [length_average]
      omega

/-- The averages overwrite only what is read already. -/
theorem load_resample (count : Nat) (buffer : Memory) :
    (resample count buffer).load 0 (2 * count) = averages (buffer.load 0 (4 * count)) := by
  induction count with
  | zero => rfl
  | succ n ih =>
      -- the averages so far lie in front of what is still to be read
      have hread : ∀ addr, 2 * n ≤ addr → (resample n buffer).load addr 2 = buffer.load addr 2 :=
        fun addr haddr => Memory.load_congr fun x hx _ => resample_outside (haddr.trans hx)
      have hfour : averages (buffer.load (4 * n) 4) =
          average (buffer.load (4 * n) 2) (buffer.load (4 * n + 2) 2) := List.append_nil _
      have hkeep : (resample (n + 1) buffer).load 0 (2 * n) = (resample n buffer).load 0 (2 * n) := by
        refine Memory.load_congr fun x _ hx => ?_
        rw [resample_succ, resampleAt, Memory.store_outside (by omega)]
      have hnew : (resample (n + 1) buffer).load (2 * n) 2 =
          average (buffer.load (4 * n) 2) (buffer.load (4 * n + 2) 2) := by
        have hlo : 2 * (n * 2) = 4 * n := by omega
        have hhi : 2 * (n * 2 + 1) = 4 * n + 2 := by omega
        rw [resample_succ, resampleAt, hlo, hhi, hread _ (by omega), hread _ (by omega)]
        have hload := Memory.load_store (resample n buffer) (2 * n)
          (average (buffer.load (4 * n) 2) (buffer.load (4 * n + 2) 2))
        rwa [length_average] at hload
      rw [Nat.mul_succ, Nat.mul_succ, Memory.load_append, Memory.load_append, Nat.zero_add, Nat.zero_add,
        hkeep, hnew, ih, averages_append, hfour]
      rw [Memory.length_load]
      omega

/-- What a chunk of a 16 kHz link becomes: of an incomplete last pair half of the bytes stay, as they
are. -/
def downsampled (chunk : List UInt8) : List UInt8 :=
  averages chunk ++ (chunk.drop (2 * (chunk.length / 4))).take (chunk.length % 4 / 2)

theorem written_iteration (buffer : Memory) (chunk : List UInt8) :
    (iteration 16000 buffer chunk).2 = downsampled chunk := by
  have hwhole := Memory.load_store buffer 0 chunk
  have hfour : (buffer.store 0 chunk).load 0 (4 * (chunk.length / 4)) =
      chunk.take (4 * (chunk.length / 4)) := by
    rw [← Memory.take_load _ _ (Nat.mul_div_le chunk.length 4), hwhole]
  have hrest : (buffer.store 0 chunk).load (2 * (chunk.length / 4)) (chunk.length % 4 / 2) =
      (chunk.drop (2 * (chunk.length / 4))).take (chunk.length % 4 / 2) := by
    have hload := Memory.take_drop_load (buffer.store 0 chunk) 0
      (show 2 * (chunk.length / 4) + chunk.length % 4 / 2 ≤ chunk.length by omega)
    rw [hwhole, Nat.zero_add] at hload
    exact hload.symm
  have hkeep : (resample (chunk.length / 4) (buffer.store 0 chunk)).load (2 * (chunk.length / 4))
      (chunk.length % 4 / 2) =
        (buffer.store 0 chunk).load (2 * (chunk.length / 4)) (chunk.length % 4 / 2) :=
    Memory.load_congr fun x hx _ => resample_outside hx
  have hcount : chunk.length / 2 / 2 = chunk.length / 4 := Nat.div_div_eq_div_mul _ 2 2
  have hlen : chunk.length / 2 = 2 * (chunk.length / 4) + chunk.length % 4 / 2 := by omega
  show (resample (chunk.length / 2 / 2) (buffer.store 0 chunk)).load 0 (chunk.length / 2) = _
  rw [hcount, hlen, Memory.load_append, Nat.zero_add, load_resample, hfour, averages_take, hkeep, hrest,
    downsampled]

theorem length_downsampled (chunk : List UInt8) : (downsampled chunk).length = chunk.length / 2 := by
  rw [downsampled, List.length_append, length_averages, List.length_take, List.length_drop]
  omega

theorem downsampled_of_whole {chunk : List UInt8} (h : chunk.length % 4 = 0) :
    downsampled chunk = averages chunk := by
  rw [downsampled, h, Nat.zero_div, List.take_zero, List.append_nil]

theorem mem_downsampled {chunk : List UInt8} {b : UInt8} (h : b ∈ downsampled chunk) :
    b ∈ averages chunk ∨ b ∈ chunk :=
  (List.mem_append.mp h).imp_right fun hb => List.mem_of_mem_drop (List.mem_of_mem_take hb)

/-! ## Streams -/

/-- What the chunks become does not depend on the buffer. -/
theorem vohci_recv_thread_eq {chunks : List (List UInt8)} (h : ∀ c ∈ chunks, 0 < c.length)
    (buffer : Memory) : vohci_recv_thread 16000 chunks buffer = chunks.map downsampled := by
  induction chunks generalizing buffer with
  | nil => rfl
  | cons c chunks ih =>
      have hc := h c List.mem_cons_self
      rw [vohci_recv_thread, if_neg (by omega), List.map_cons, ← written_iteration buffer c]
      exact congrArg _ (ih (fun c' hc' => h c' (List.mem_cons_of_mem c hc')) _)

theorem length_flatten_downsampled_le (chunks : List (List UInt8)) :
    (chunks.map downsampled).flatten.length ≤ chunks.flatten.length / 2 := by
  induction chunks with
  | nil => exact Nat.le_refl 0
  | cons c chunks ih =>
      rw [List.map_cons, List.flatten_cons, List.flatten_cons, List.length_append, List.length_append,
        length_downsampled]
      omega

theorem downsamples_cons_iff {chunk : List UInt8} (h : chunk.length % 4 = 0) (stream : List UInt8)
    (written : List (List UInt8)) :
    Downsamples (chunk ++ stream) (downsampled chunk :: written) ↔ Downsamples stream written := by
  have hmod : (chunk ++ stream).length % 4 = stream.length % 4 := by
    rw [List.length_append]
    omega
  unfold Downsamples
  simp only [averages_append h, List.flatten_cons, downsampled_of_whole h, List.append_assoc,
    List.append_cancel_left_eq, hmod]

theorem wholePairs_cons {n : Nat} {rest : List Nat} :
    WholePairs (n :: rest) ↔
      n % 4 = 0 ∧ WholePairs rest ∨ 4 * ((n + rest.sum) / 4) ≤ n := by
  constructor
  · intro h
    cases rest with
    | nil => exact .inr (Nat.mul_div_le n 4)
    | cons n' rest =>
        have hnext := h [n] n' rest rfl
        rw [List.sum_singleton, List.sum_cons] at hnext
        refine hnext.imp (fun hmod => ⟨hmod, ?_⟩) id
        intro before m after heq
        have hlater := h (n :: before) m after (by rw [heq]; rfl)
        rw [List.sum_cons, List.sum_cons] at hlater
        omega
  · rintro h before m after heq
    cases before with
    | nil => exact .inl rfl
    | cons b before =>
        obtain ⟨rfl, hrest⟩ := List.cons.inj heq
        rw [List.sum_cons, List.sum_cons]
        rcases h with ⟨hmod, hwhole⟩ | hle
        · have hbefore := hwhole before m after hrest
          omega
        · omega

theorem downsamples_of_wholePairs {chunks : List (List UInt8)}
    (h : WholePairs (chunks.map List.length)) :
    Downsamples chunks.flatten (chunks.map downsampled) := by
  induction chunks with
  | nil => exact ⟨[], rfl, Nat.le_refl 0⟩
  | cons c chunks ih =>
      rw [List.map_cons, wholePairs_cons, ← List.length_flatten] at h
      rcases h with ⟨hmod, hrest⟩ | hle
      · exact (downsamples_cons_iff hmod _ _).mpr (ih hrest)
      · -- what follows belongs to the incomplete pair
        have hlen := length_flatten_downsampled_le chunks
        refine ⟨(c.drop (2 * (c.length / 4))).take (c.length % 4 / 2) ++
          (chunks.map downsampled).flatten, ?_, ?_⟩
        · rw [List.map_cons, List.flatten_cons, List.flatten_cons, averages_append_of_le hle, downsampled,
            List.append_assoc]
        · rw [List.length_append, List.length_take, List.length_drop, List.flatten_cons, List.length_append]
          omega

/-! ## A stream that shows a cut -/

def marked (n : Nat) : List UInt8 :=
  List.replicate (4 * (n / 4)) 0 ++ 2 :: List.replicate (n % 4 - 1) 0

theorem length_marked {n : Nat} (h : n % 4 ≠ 0) : (marked n).length = n := by
  rw [marked, List.length_append, List.length_cons, List.length_replicate, List.length_replicate]
  omega

/-- The average of the pair is 1. -/
theorem one_mem_averages {n rest : Nat} (h : n % 4 ≠ 0) (hcut : n < 4 * ((n + rest) / 4)) :
    1 ∈ averages (marked n ++ List.replicate rest 0) := by
  have hpair : 2 :: List.replicate (n % 4 - 1) 0 ++ List.replicate rest 0 =
      [2, 0, 0, 0] ++ List.replicate (n % 4 + rest - 4) (0 : UInt8) := by
    have hzeros : n % 4 - 1 + rest = 3 + (n % 4 + rest - 4) := by omega
    rw [List.cons_append, List.replicate_append_replicate, hzeros, ← List.replicate_append_replicate]
    rfl
  have hone : 1 ∈ averages [2, 0, 0, 0] := by decide
  have hwhole : (List.replicate (4 * (n / 4)) (0 : UInt8)).length % 4 = 0 := by
    rw [List.length_replicate, Nat.mul_mod_right]
  rw [marked, List.append_assoc, hpair, averages_append hwhole, averages_append (by decide)]
  exact List.mem_append_right _ (List.mem_append_left _ hone)

theorem downsampled_replicate_zero (n : Nat) : ∀ b ∈ downsampled (List.replicate n 0), b = 0 := by
  intro b hb
  rcases mem_downsampled hb with hb | hb
  · exact averages_replicate_zero n b hb
  · exact List.eq_of_mem_replicate hb

/-- No byte of what is written in front of the cut is 1. -/
theorem one_notMem_downsampled_marked (n : Nat) : 1 ∉ downsampled (marked n) := by
  intro hb
  rcases mem_downsampled hb with hb | hb
  · rw [marked, averages_append_of_le] at hb
    · exact absurd (averages_replicate_zero _ 1 hb) (by decide)
    · rw [List.length_cons, List.length_replicate, List.length_replicate]
      omega
  · rcases List.mem_append.mp hb with hb | hb
    · exact absurd (List.eq_of_mem_replicate hb) (by decide)
    · rcases List.mem_cons.mp hb with hb | hb
      · exact absurd hb (by decide)
      · exact absurd (List.eq_of_mem_replicate hb) (by decide)

theorem flatten_zeros (lengths : List Nat) :
    (lengths.map fun n => List.replicate n (0 : UInt8)).flatten = List.replicate lengths.sum 0 := by
  induction lengths with
  | nil => rfl
  | cons n lengths ih =>
      rw [List.map_cons, List.flatten_cons, ih, List.replicate_append_replicate, List.sum_cons]

/-- Where a pair is cut, some stream comes out wrong. -/
theorem exists_not_downsamples {lengths : List Nat} (h : ¬ WholePairs lengths) :
    ∃ chunks : List (List UInt8), chunks.map List.length = lengths ∧
      ¬ Downsamples chunks.flatten (chunks.map downsampled) := by
  induction lengths with
  | nil => exact absurd (fun before n after heq => absurd heq (by simp)) h
  | cons n rest ih =>
      rw [wholePairs_cons, not_or, not_and, Nat.not_le] at h
      by_cases hmod : n % 4 = 0
      · -- the first chunk is whole, and the cut comes later
        obtain ⟨chunks, hlengths, hwrong⟩ := ih (h.1 hmod)
        have hzeros : (List.replicate n (0 : UInt8)).length = n := List.length_replicate
        refine ⟨List.replicate n 0 :: chunks, congrArg₂ List.cons hzeros hlengths, fun hright => ?_⟩
        exact hwrong ((downsamples_cons_iff (hzeros.symm ▸ hmod) _ _).mp hright)
      · -- the pair at the end of the first chunk is cut, and all samples behind it are 0
        refine ⟨marked n :: rest.map fun m => List.replicate m 0, ?_, ?_⟩
        · simp [length_marked hmod, Function.comp_def]
        · rintro ⟨tail, heq, -⟩
          have hone : 1 ∈ averages (marked n ++ List.replicate rest.sum 0) := one_mem_averages hmod h.2
          have hmem := List.mem_append_left tail hone
          rw [List.flatten_cons, flatten_zeros] at heq
          rw [← heq, List.map_cons, List.flatten_cons] at hmem
          rcases List.mem_append.mp hmem with hmem | hmem
          · exact one_notMem_downsampled_marked n hmem
          · obtain ⟨written, hwritten, hmem⟩ := List.mem_flatten.mp hmem
            simp only [List.mem_map] at hwritten
            obtain ⟨_, ⟨m, -, rfl⟩, rfl⟩ := hwritten
            exact absurd (downsampled_replicate_zero m 1 hmem) (by decide)

/-! ## The claim of the thread -/

/-- **A cut of the stream into chunks is right for every stream exactly when it is between pairs.** -/
theorem downsamples_iff {lengths : List Nat} (hrecv : ∀ n ∈ lengths, 0 < n ∧ n ≤ 240)
    (buffer : Memory) :
    (∀ chunks : List (List UInt8), chunks.map List.length = lengths →
        Downsamples chunks.flatten (vohci_recv_thread 16000 chunks buffer)) ↔
      WholePairs lengths := by
  have hthread : ∀ chunks : List (List UInt8), chunks.map List.length = lengths →
      vohci_recv_thread 16000 chunks buffer = chunks.map downsampled := by
    rintro chunks rfl
    apply vohci_recv_thread_eq
    intro c hc
    exact (hrecv c.length (List.mem_map_of_mem hc)).1
  constructor
  · intro h
    by_contra hcut
    obtain ⟨chunks, hlengths, hwrong⟩ := exists_not_downsamples hcut
    have hright := h chunks hlengths
    rw [hthread chunks hlengths] at hright
    exact hwrong hright
  · rintro hwhole chunks hlengths
    rw [hthread chunks hlengths]
    exact downsamples_of_wholePairs (hlengths ▸ hwhole)

/-- Two full chunks, of bytes 1 and of bytes 2. -/
theorem downsamples_full :
    Downsamples [List.replicate 240 1, List.replicate 240 2].flatten
      (vohci_recv_thread 16000 [List.replicate 240 1, List.replicate 240 2] Memory.zero) := by
  have hwhole : WholePairs [240, 240] := by
    rw [wholePairs_cons, wholePairs_cons]
    exact .inl ⟨rfl, .inr (Nat.le_refl 240)⟩
  exact (downsamples_iff (by decide) Memory.zero).mpr hwhole
    [List.replicate 240 1, List.replicate 240 2] (by simp only [List.map, List.length_replicate])

/-- A pair whose samples come one by one. -/
theorem not_downsamples :
    ¬ ∀ (chunks : List (List UInt8)) (buffer : Memory), (∀ c ∈ chunks, 0 < c.length ∧ c.length ≤ 240) →
      Downsamples chunks.flatten (vohci_recv_thread 16000 chunks buffer) := by
  intro h
  obtain ⟨tail, heq, -⟩ := h [[2, 0], [0, 0]] Memory.zero (by decide)
  have hwritten : ([[2, 0], [0, 0]].map downsampled).flatten = [2, 0] := by decide
  have haverages : averages [[2, 0], [0, 0]].flatten = [1, 0] := by decide
  rw [vohci_recv_thread_eq (by decide), hwritten, haverages] at heq
  exact absurd (List.cons.inj heq).1 (by decide)

end AwHal.Wireless.VohciRecv
