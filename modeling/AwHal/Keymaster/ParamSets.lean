import Mathlib.Algebra.Order.BigOperators.Group.List
import Mathlib.Algebra.Order.Group.Nat
import AwHal.Keymaster.RequestPacking

/-!
# Parameter sets on the wire

A set travels as a table of 16-byte entries behind an 8-byte descriptor; the bytes of its blobs follow
the table, and an entry has the offset of its blob.  All offsets and lengths on the wire have 32 bits.
-/

namespace AwHal.Keymaster

open AwHal.Lib

/-! ## Reading -/

def word (block : List UInt8) (addr : Nat) : Option Nat := (loadBlock block addr 4).map leValue

def longWord (block : List UInt8) (addr : Nat) : Option Nat := (loadBlock block addr 8).map leValue

def read_blob (block : List UInt8) (base entry : Nat) : Option (List UInt8) := do
  let data_offset ← word block (entry + 8)
  let data_length ← word block (entry + 12)
  loadBlock block (base + data_offset) data_length

def read_value (block : List UInt8) (base entry : Nat) (tag : UInt32) :
    Option keymaster_key_param_t :=
  match keymaster_tag_get_type tag with
  | .KM_INVALID => some { tag }
  | .KM_ENUM | .KM_ENUM_REP =>
      (word block (entry + 8)).map fun v => { tag, enumerated := UInt32.ofNat v }
  | .KM_BOOL => (loadBlock block (entry + 8) 1).map fun v => { tag, boolean := leValue v ≠ 0 }
  | .KM_UINT | .KM_UINT_REP =>
      (word block (entry + 8)).map fun v => { tag, integer := UInt32.ofNat v }
  | .KM_ULONG | .KM_ULONG_REP =>
      (longWord block (entry + 8)).map fun v => { tag, long_integer := UInt64.ofNat v }
  | .KM_DATE => (longWord block (entry + 8)).map fun v => { tag, date_time := UInt64.ofNat v }
  | .KM_BIGNUM | .KM_BYTES =>
      (read_blob block base entry).map fun blob => { tag, blob }
  | .other _ => some { tag }

def read_param (block : List UInt8) (base entry : Nat) : Option keymaster_key_param_t :=
  (word block entry).bind fun tag => read_value block base entry (UInt32.ofNat tag)

/-- The set whose descriptor is at `src`.  Without a result, a byte outside the block was read. -/
def tee_CopyToParamSet (block : List UInt8) (src base : Nat) :
    Option (List keymaster_key_param_t) := do
  let params ← word block src
  let length ← word block (src + 4)
  (List.range length).mapM fun i =>
    read_param block base (base + params + sizeof_tee_keymaster_key_param_t * i)

section

variable {block : List UInt8} {a e base : Nat}

theorem tag_of_read_value {tag : UInt32} {p : keymaster_key_param_t}
    (h : read_value block base e tag = some p) : p.tag = tag := by
  unfold read_value at h
  split at h
  all_goals simp only [Option.some.injEq, Option.map_eq_some_iff] at h
  all_goals first
    | rw [← h]
    | obtain ⟨v, -, rfl⟩ := h
      rfl

theorem tee_CopyToParamSet_eq_some_iff {set : List keymaster_key_param_t} :
    tee_CopyToParamSet block a 0 = some set ↔
      ∃ params, word block a = some params ∧ word block (a + 4) = some set.length ∧
        ∀ i < set.length, read_param block 0 (params + 16 * i) = set[i]? := by
  unfold tee_CopyToParamSet
  simp only [Option.bind_eq_bind, Option.bind_eq_some_iff, mapM_range_eq_some_iff, Nat.zero_add,
    sizeof_tee_keymaster_key_param_t]
  constructor
  · rintro ⟨params, hparams, length, hlength, rfl, hread⟩
    exact ⟨params, hparams, hlength, hread⟩
  · rintro ⟨params, hparams, hlength, hread⟩
    exact ⟨params, hparams, set.length, hlength, rfl, hread⟩

end

/-- The member of the union that the tag selects; the others are as `memset` leaves them. -/
def keymaster_key_param_t.selected (p : keymaster_key_param_t) : keymaster_key_param_t :=
  match keymaster_tag_get_type p.tag with
  | .KM_INVALID => { tag := p.tag }
  | .KM_ENUM | .KM_ENUM_REP => { tag := p.tag, enumerated := p.enumerated }
  | .KM_BOOL => { tag := p.tag, boolean := p.boolean }
  | .KM_UINT | .KM_UINT_REP => { tag := p.tag, integer := p.integer }
  | .KM_ULONG | .KM_ULONG_REP => { tag := p.tag, long_integer := p.long_integer }
  | .KM_DATE => { tag := p.tag, date_time := p.date_time }
  | .KM_BIGNUM | .KM_BYTES => { tag := p.tag, blob := p.blob }
  | .other _ => { tag := p.tag }

/-! ## Where the blobs stand -/

/-- How far the case of a parameter moves `tee_data_buf`. -/
def advance (p : keymaster_key_param_t) : Nat :=
  match keymaster_tag_get_type p.tag with
  | .KM_BIGNUM | .KM_BYTES => p.blob.length
  | _ => 0

/-- `tee_data_buf - buf` before parameter `k`. -/
def data_offset (params : List keymaster_key_param_t) (k : Nat) : Nat :=
  (params.take k).foldl (fun data p => data + advance p)
    (sizeof_tee_keymaster_key_param_set_t + sizeof_tee_keymaster_key_param_t * params.length)

/-- The number that `tee_copy_params2_buf` returns. -/
def buf_size (params : List keymaster_key_param_t) : Nat := data_offset params params.length

/-- The loop and `compute_param_set_length` sort the tags alike. -/
theorem advance_eq (p : keymaster_key_param_t) : advance p = blob_length p := by
  unfold advance blob_length tag_is_blob
  cases keymaster_tag_get_type p.tag <;> simp

theorem data_offset_eq (params : List keymaster_key_param_t) (k : Nat) :
    data_offset params k = 8 + 16 * params.length + ((params.take k).map blob_length).sum := by
  have hfold : ∀ (ps : List keymaster_key_param_t) (data : Nat),
      ps.foldl (fun data p => data + advance p) data = data + (ps.map blob_length).sum := by
    intro ps
    induction ps with
    | nil => simp
    | cons p ps ih =>
        intro data
        rw [List.foldl_cons, ih, advance_eq, List.map_cons, List.sum_cons]
        omega
  exact hfold _ _

theorem buf_size_eq (params : List keymaster_key_param_t) :
    buf_size params = compute_param_set_length params := by
  rw [buf_size, data_offset_eq, List.take_length]
  rfl

/-! ## What the encoder leaves in memory -/

def entry_writes (i data : Nat) (p : keymaster_key_param_t) : List Write :=
  ⟨8 + 16 * i, leBytes 4 p.tag.toNat⟩ :: copy_value (8 + 16 * i + 8) data p

theorem copy_params_cons (i data : Nat) (p : keymaster_key_param_t)
    (params : List keymaster_key_param_t) :
    copy_params i data (p :: params) =
      entry_writes i data p ++ copy_params (i + 1) (data + blob_length p) params := rfl

def Placed (i j lo hi : Nat) (w : Write) : Prop :=
  w.Within (8 + 16 * i) (8 + 16 * j) ∨ w.Within lo hi

theorem entry_writes_placed (i data : Nat) (p : keymaster_key_param_t) :
    ∀ w ∈ entry_writes i data p, Placed i (i + 1) data (data + blob_length p) w := by
  intro w hw
  unfold entry_writes at hw
  rcases List.mem_cons.mp hw with rfl | hw
  · left
    simp only [Write.Within, length_leBytes]
    omega
  · unfold copy_value at hw
    split at hw <;> rename_i htype <;> simp at hw
    all_goals try (subst hw; left; simp [Write.Within]; omega)
    all_goals
      rcases hw with rfl | rfl | rfl
      · left
        simp [Write.Within]
        omega
      · left
        simp [Write.Within]
        omega
      · right
        simp [Write.Within, blob_length, tag_is_blob, htype]

theorem copy_params_placed (params : List keymaster_key_param_t) (i data : Nat) :
    ∀ w ∈ copy_params i data params,
      Placed i (i + params.length) data (data + (params.map blob_length).sum) w := by
  induction params generalizing i data with
  | nil => simp [copy_params]
  | cons p params ih =>
      intro w hw
      rw [copy_params_cons] at hw
      simp only [List.length_cons, List.map_cons, List.sum_cons]
      unfold Placed Write.Within
      rcases List.mem_append.mp hw with hw | hw
      · have hplaced := entry_writes_placed i data p w hw
        unfold Placed Write.Within at hplaced
        omega
      · have hplaced := ih (i + 1) (data + blob_length p) w hw
        unfold Placed Write.Within at hplaced
        omega

theorem entry_writes_pairwise {i data : Nat} (p : keymaster_key_param_t)
    (htable : 8 + 16 * (i + 1) ≤ data) : (entry_writes i data p).Pairwise Write.Disjoint := by
  unfold entry_writes copy_value
  split <;> simp [Write.Disjoint] <;> omega

/-- No byte of the table or of the blobs is written twice. -/
theorem copy_params_pairwise (params : List keymaster_key_param_t) {i data : Nat}
    (htable : 8 + 16 * (i + params.length) ≤ data) :
    (copy_params i data params).Pairwise Write.Disjoint := by
  induction params generalizing i data with
  | nil => exact List.Pairwise.nil
  | cons p params ih =>
      rw [List.length_cons] at htable
      rw [copy_params_cons, List.pairwise_append]
      refine ⟨entry_writes_pairwise p (by omega), ih (by omega), ?_⟩
      intro w hw w' hw'
      have hplaced := entry_writes_placed i data p w hw
      have hplaced' := copy_params_placed params (i + 1) (data + blob_length p) w' hw'
      unfold Placed Write.Within at hplaced hplaced'
      unfold Write.Disjoint
      omega

theorem tee_copy_params2_buf_pairwise (params : List keymaster_key_param_t) :
    (tee_copy_params2_buf params).Pairwise Write.Disjoint := by
  have hplaced := copy_params_placed params 0 (8 + 16 * params.length)
  have hafter : ∀ w ∈ copy_params 0 (8 + 16 * params.length) params, 8 ≤ w.addr := by
    intro w hw
    have hplaced := hplaced w hw
    unfold Placed Write.Within at hplaced
    omega
  refine List.pairwise_cons.mpr ⟨?_, List.pairwise_cons.mpr ⟨?_, ?_⟩⟩
  · intro w hw
    unfold Write.Disjoint
    rw [length_leBytes]
    rcases List.mem_cons.mp hw with rfl | hw
    · exact .inl le_rfl
    · have := hafter w hw
      dsimp only
      omega
  · intro w hw
    have := hafter w hw
    unfold Write.Disjoint
    rw [length_leBytes]
    dsimp only
    omega
  · exact copy_params_pairwise params (by simp)

theorem mem_copy_params {params : List keymaster_key_param_t} {k : Nat} {p : keymaster_key_param_t}
    (hk : params[k]? = some p) {i data : Nat} {w : Write}
    (hw : w ∈ entry_writes (i + k) (data + ((params.take k).map blob_length).sum) p) :
    w ∈ copy_params i data params := by
  induction params generalizing i data k with
  | nil => simp at hk
  | cons q params ih =>
      rw [copy_params_cons, List.mem_append]
      cases k with
      | zero =>
          left
          simp only [List.getElem?_cons_zero, Option.some.injEq] at hk
          subst hk
          simpa using hw
      | succ k =>
          right
          apply ih (k := k)
          · simpa using hk
          · rw [List.take_succ_cons, List.map_cons, List.sum_cons] at hw
            rwa [show i + 1 + k = i + (k + 1) by omega, Nat.add_assoc data]

def encoded (params : List keymaster_key_param_t) (m : Memory) : Memory :=
  Write.run (tee_copy_params2_buf params) m

theorem load_encoded {params : List keymaster_key_param_t} {w : Write}
    (hw : w ∈ tee_copy_params2_buf params) (m : Memory) :
    (encoded params m).load w.addr w.bytes.length = w.bytes :=
  Write.load_run (tee_copy_params2_buf_pairwise params) hw m

def wire (params : List keymaster_key_param_t) (m : Memory) : List UInt8 :=
  (encoded params m).load 0 (buf_size params)

theorem loadBlock_wire {params : List keymaster_key_param_t} {w : Write}
    (hw : w ∈ tee_copy_params2_buf params) (m : Memory) :
    loadBlock (wire params m) w.addr w.bytes.length = some w.bytes := by
  have hwithin := tee_copy_params2_buf_within params w hw
  rw [wire, buf_size_eq, loadBlock_load _ hwithin.2, load_encoded hw]

/-! ## The round trip -/

section

variable {block : List UInt8} {addr v : Nat}

theorem word_of_load (h : loadBlock block addr 4 = some (leBytes 4 v)) :
    word block addr = some (v % 2 ^ 32) := by
  rw [word, h, Option.map_some, leValue_leBytes_mod]
  rfl

theorem word_toNat {x : UInt32} (h : loadBlock block addr 4 = some (leBytes 4 x.toNat)) :
    word block addr = some x.toNat := by
  rw [word_of_load h, Nat.mod_eq_of_lt x.toNat_lt]

theorem longWord_toNat {x : UInt64} (h : loadBlock block addr 8 = some (leBytes 8 x.toNat)) :
    longWord block addr = some x.toNat := by
  rw [longWord, h, Option.map_some, leValue_leBytes x.toNat_lt]

end

section

variable {params : List keymaster_key_param_t} {k : Nat} {p : keymaster_key_param_t}

theorem loadBlock_entry (hk : params[k]? = some p) (m : Memory) :
    ∀ w ∈ entry_writes k (data_offset params k) p,
      loadBlock (wire params m) w.addr w.bytes.length = some w.bytes := by
  intro w hw
  apply loadBlock_wire
  apply List.mem_cons_of_mem
  apply List.mem_cons_of_mem
  apply mem_copy_params hk
  rw [data_offset_eq] at hw
  rwa [Nat.zero_add]

section

variable (hk : params[k]? = some p) (m : Memory)
include hk

theorem word_tag : word (wire params m) (8 + 16 * k) = some p.tag.toNat := by
  have hload := loadBlock_entry hk m _ List.mem_cons_self
  rw [length_leBytes] at hload
  exact word_toNat hload

theorem loadBlock_value {w : Write} (hw : w ∈ copy_value (8 + 16 * k + 8) (data_offset params k) p) :
    loadBlock (wire params m) w.addr w.bytes.length = some w.bytes :=
  loadBlock_entry hk m w (List.mem_cons_of_mem _ hw)

theorem word_value {x : UInt32}
    (hw : ⟨8 + 16 * k + 8, leBytes 4 x.toNat⟩ ∈
      copy_value (8 + 16 * k + 8) (data_offset params k) p) :
    word (wire params m) (8 + 16 * k + 8) = some x.toNat := by
  have hload := loadBlock_value hk m hw
  rw [length_leBytes] at hload
  exact word_toNat hload

theorem longWord_value {x : UInt64}
    (hw : ⟨8 + 16 * k + 8, leBytes 8 x.toNat⟩ ∈
      copy_value (8 + 16 * k + 8) (data_offset params k) p) :
    longWord (wire params m) (8 + 16 * k + 8) = some x.toNat := by
  have hload := loadBlock_value hk m hw
  rw [length_leBytes] at hload
  exact longWord_toNat hload

theorem blob_value (hlength : p.blob.length < 2 ^ 32)
    (hoffset : 0 < p.blob.length → data_offset params k < 2 ^ 32)
    (hvalue : copy_value (8 + 16 * k + 8) (data_offset params k) p =
      [⟨8 + 16 * k + 8, leBytes 4 (data_offset params k)⟩,
        ⟨8 + 16 * k + 8 + 4, leBytes 4 p.blob.length⟩, ⟨data_offset params k, p.blob⟩]) :
    word (wire params m) (8 + 16 * k + 8) = some (data_offset params k % 2 ^ 32) ∧
      word (wire params m) (8 + 16 * k + 12) = some p.blob.length ∧
      loadBlock (wire params m) (data_offset params k % 2 ^ 32) p.blob.length = some p.blob := by
  have hload := fun w hw => loadBlock_value hk m (w := w) hw
  rw [hvalue] at hload
  refine ⟨?_, ?_, ?_⟩
  · have hword := hload ⟨8 + 16 * k + 8, leBytes 4 (data_offset params k)⟩ (by simp)
    rw [length_leBytes] at hword
    exact word_of_load hword
  · have hword := hload ⟨8 + 16 * k + 8 + 4, leBytes 4 p.blob.length⟩ (by simp)
    rw [length_leBytes] at hword
    rw [← Nat.mod_eq_of_lt hlength]
    exact word_of_load hword
  · cases hcontent : p.blob with
    | nil => rfl
    | cons b bs =>
        rw [hcontent] at hoffset
        rw [Nat.mod_eq_of_lt (hoffset (by simp)), ← hcontent]
        exact hload ⟨data_offset params k, p.blob⟩ (by simp)

theorem read_param_wire (hlength : blob_length p < 2 ^ 32)
    (hoffset : 0 < blob_length p → data_offset params k < 2 ^ 32) :
    read_param (wire params m) 0 (8 + 16 * k) = some p.selected := by
  rw [read_param, word_tag hk m, Option.bind_some, UInt32.ofNat_toNat]
  unfold read_value keymaster_key_param_t.selected
  cases htype : keymaster_tag_get_type p.tag with
  | KM_INVALID => rfl
  | other n => rfl
  | KM_ENUM | KM_ENUM_REP =>
      have hvalue := word_value hk m (x := p.enumerated) (by simp [copy_value, htype])
      simp [hvalue]
  | KM_UINT | KM_UINT_REP =>
      have hvalue := word_value hk m (x := p.integer) (by simp [copy_value, htype])
      simp [hvalue]
  | KM_ULONG | KM_ULONG_REP =>
      have hvalue := longWord_value hk m (x := p.long_integer) (by simp [copy_value, htype])
      simp [hvalue]
  | KM_DATE =>
      have hvalue := longWord_value hk m (x := p.date_time) (by simp [copy_value, htype])
      simp [hvalue]
  | KM_BOOL =>
      have hvalue := loadBlock_value hk m (w := ⟨8 + 16 * k + 8, [if p.boolean then 1 else 0]⟩)
        (by simp [copy_value, htype])
      rw [List.length_singleton] at hvalue
      rw [hvalue]
      cases p.boolean <;> rfl
  | KM_BIGNUM | KM_BYTES =>
      rw [show blob_length p = p.blob.length by simp [blob_length, tag_is_blob, htype]]
        at hlength hoffset
      obtain ⟨hdata, hsize, hblob⟩ :=
        blob_value hk m hlength hoffset (by simp [copy_value, htype])
      simp only [read_blob, hdata, hsize, hblob, Option.bind_eq_bind, Option.bind_some,
        Option.map_some, Nat.zero_add]

end

end

theorem word_params (params : List keymaster_key_param_t) (m : Memory) :
    word (wire params m) 0 = some 8 := by
  have hload := loadBlock_wire (List.mem_cons_self : _ ∈ tee_copy_params2_buf params) m
  rw [length_leBytes] at hload
  exact word_of_load hload

theorem word_length (params : List keymaster_key_param_t) (m : Memory) :
    word (wire params m) 4 = some (params.length % 2 ^ 32) := by
  have hload := loadBlock_wire
    (List.mem_cons_of_mem _ List.mem_cons_self : _ ∈ tee_copy_params2_buf params) m
  rw [length_leBytes] at hload
  exact word_of_load hload

/-- As many entries are read as the 32 bits of the length say. -/
theorem tee_CopyToParamSet_wire (params : List keymaster_key_param_t) (m : Memory) :
    tee_CopyToParamSet (wire params m) 0 0 =
      (List.range (params.length % 2 ^ 32)).mapM fun i => read_param (wire params m) 0 (8 + 16 * i) := by
  unfold tee_CopyToParamSet
  rw [word_params, Nat.zero_add, word_length]
  rfl

/-- The encoder returns the length that was computed and writes nothing behind it, and the decoder gets
the set from these bytes alone. -/
structure RoundTrips (params : List keymaster_key_param_t) (m : Memory) : Prop where
  size : buf_size params = compute_param_set_length params
  within : ∀ x, compute_param_set_length params ≤ x → encoded params m x = m x
  decoded : tee_CopyToParamSet ((encoded params m).load 0 (compute_param_set_length params)) 0 0 =
    some (params.map keymaster_key_param_t.selected)

/-- The length, and the offset of every blob that has bytes, fit into 32 bits. -/
structure Addressable (params : List keymaster_key_param_t) : Prop where
  length : params.length < 2 ^ 32
  blobs : ∀ k p, params[k]? = some p → 0 < blob_length p → data_offset params k < 2 ^ 32

theorem addressable_of_le {params : List keymaster_key_param_t}
    (h : compute_param_set_length params ≤ 2 ^ 32) : Addressable params where
  length := by
    simp only [compute_param_set_length, sizeof_tee_keymaster_key_param_set_t,
      sizeof_tee_keymaster_key_param_t] at h
    omega
  blobs := by
    intro k p hk hpos
    -- the blob lies behind its offset
    have hsplit := List.sum_take_add_sum_drop (params.map blob_length) k
    have hmem : blob_length p ∈ (params.map blob_length).drop k := by
      rw [List.mem_iff_getElem?]
      exact ⟨0, by simp [hk]⟩
    have hle := List.le_sum_of_mem hmem
    rw [← List.map_take] at hsplit
    rw [data_offset_eq]
    simp only [compute_param_set_length, sizeof_tee_keymaster_key_param_set_t,
      sizeof_tee_keymaster_key_param_t] at h
    omega

theorem roundTrips {params : List keymaster_key_param_t}
    (hsum : (params.map blob_length).sum < 2 ^ 31) (h : Addressable params) (m : Memory) :
    RoundTrips params m where
  size := buf_size_eq params
  within := by
    intro x hx
    exact Write.run_outside (tee_copy_params2_buf_within params) (.inr hx) m
  decoded := by
    have hparam : ∀ i < params.length, read_param (wire params m) 0 (8 + 16 * i) =
        (params.map keymaster_key_param_t.selected)[i]? := by
      intro i hi
      have hk : params[i]? = some params[i] := List.getElem?_eq_getElem hi
      have hle : blob_length params[i] ≤ (params.map blob_length).sum :=
        List.le_sum_of_mem (List.mem_map_of_mem (List.getElem_mem hi))
      rw [read_param_wire hk m (by omega) (h.blobs i _ hk), List.getElem?_map, hk]
      rfl
    rw [← buf_size_eq]
    show tee_CopyToParamSet (wire params m) 0 0 = _
    rw [tee_CopyToParamSet_wire, Nat.mod_eq_of_lt h.length]
    exact mapM_range_eq_some_iff.mpr ⟨List.length_map _, hparam⟩

def sampleSet : List keymaster_key_param_t :=
  [{ tag := 0x10000002, enumerated := 32 }, { tag := 0x90000259, blob := [1, 2, 3] },
    { tag := 0x700001f7, boolean := true }, { tag := 0x30000003, integer := 2048 },
    { tag := 0x500000c8, long_integer := 65537 }, { tag := 0x60000191, date_time := 7 },
    { tag := 0x80000001, blob := [4] }]

theorem roundTrips_sampleSet :
    (sampleSet.map blob_length).sum < 2 ^ 31 ∧ RoundTrips sampleSet Memory.zero :=
  ⟨by decide, roundTrips (by decide) (addressable_of_le (by decide)) Memory.zero⟩

/-- The length of the set is cut off on the wire, and the decoder finds it empty. -/
theorem not_roundTrips_two_pow_32 :
    ((List.replicate (2 ^ 32) { tag := 0x700001f7, boolean := true }).map blob_length).sum < 2 ^ 31 ∧
      ¬ RoundTrips (List.replicate (2 ^ 32) { tag := 0x700001f7, boolean := true }) Memory.zero := by
  constructor
  · rw [List.map_replicate, List.sum_replicate,
      show blob_length { tag := 0x700001f7, boolean := true } = 0 from rfl, nsmul_zero]
    decide
  · intro h
    have hdecoded := h.decoded
    rw [← buf_size_eq] at hdecoded
    change tee_CopyToParamSet (wire _ Memory.zero) 0 0 = _ at hdecoded
    rw [tee_CopyToParamSet_wire, List.length_replicate, Nat.mod_self, List.map_replicate] at hdecoded
    have hlength := congrArg (Option.map List.length) hdecoded
    rw [Option.map_some, List.length_replicate] at hlength
    exact absurd hlength (by decide)

end AwHal.Keymaster
