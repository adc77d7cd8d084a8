import AwHal.Lib.ByteMemory

/-!
# Requests to the keymaster

A request is packed into shared memory: a header, a table with the place and the size of every
argument, and the arguments.  Each function computes the size of the memory in one expression and
places its arguments with another.
-/

namespace AwHal.Keymaster

open AwHal.Lib

/-! ## Parameter sets -/

/-- The upper four bits of a tag. -/
inductive keymaster_tag_type_t where
  | KM_INVALID | KM_ENUM | KM_ENUM_REP | KM_UINT | KM_UINT_REP | KM_ULONG | KM_DATE | KM_BOOL
  | KM_BIGNUM | KM_BYTES | KM_ULONG_REP | other (value : Nat)
deriving DecidableEq, Repr

def keymaster_tag_get_type (tag : UInt32) : keymaster_tag_type_t :=
  match tag.toNat / 2 ^ 28 with
  | 0 => .KM_INVALID
  | 1 => .KM_ENUM
  | 2 => .KM_ENUM_REP
  | 3 => .KM_UINT
  | 4 => .KM_UINT_REP
  | 5 => .KM_ULONG
  | 6 => .KM_DATE
  | 7 => .KM_BOOL
  | 8 => .KM_BIGNUM
  | 9 => .KM_BYTES
  | 10 => .KM_ULONG_REP
  | n => .other n

def tag_is_blob (tag : UInt32) : Bool :=
  keymaster_tag_get_type tag = .KM_BYTES ∨ keymaster_tag_get_type tag = .KM_BIGNUM

/-- The members of the union that the tag's type selects from. -/
structure keymaster_key_param_t where
  tag : UInt32
  enumerated : UInt32 := 0
  boolean : Bool := false
  integer : UInt32 := 0
  long_integer : UInt64 := 0
  date_time : UInt64 := 0
  blob : List UInt8 := []

@[simp] def sizeof_TEE_params_set : Nat := 8
@[simp] def sizeof_TEE_params_expand : Nat := 8
@[simp] def sizeof_tee_keymaster_key_param_set_t : Nat := 8
@[simp] def sizeof_tee_keymaster_key_param_t : Nat := 16
@[simp] def sizeof_keymaster_key_format_t : Nat := 4
@[simp] def sizeof_keymaster_purpose_t : Nat := 4
@[simp] def sizeof_keymaster_operation_handle_t : Nat := 8

def blob_length (p : keymaster_key_param_t) : Nat :=
  if tag_is_blob p.tag then p.blob.length else 0

def compute_param_set_length (params : List keymaster_key_param_t) : Nat :=
  sizeof_tee_keymaster_key_param_set_t + sizeof_tee_keymaster_key_param_t * params.length +
    (params.map blob_length).sum

/-- The value of a parameter, with the union of its slot at `slot` and the next blob at `data`. -/
def copy_value (slot data : Nat) (p : keymaster_key_param_t) : List Write :=
  match keymaster_tag_get_type p.tag with
  | .KM_INVALID => []
  | .KM_ENUM | .KM_ENUM_REP => [⟨slot, leBytes 4 p.enumerated.toNat⟩]
  | .KM_BOOL => [⟨slot, [if p.boolean then 1 else 0]⟩]
  | .KM_UINT | .KM_UINT_REP => [⟨slot, leBytes 4 p.integer.toNat⟩]
  | .KM_ULONG | .KM_ULONG_REP => [⟨slot, leBytes 8 p.long_integer.toNat⟩]
  | .KM_DATE => [⟨slot, leBytes 8 p.date_time.toNat⟩]
  | .KM_BIGNUM | .KM_BYTES =>
      [⟨slot, leBytes 4 data⟩, ⟨slot + 4, leBytes 4 p.blob.length⟩, ⟨data, p.blob⟩]
  | .other _ => []

def copy_params (i data : Nat) : List keymaster_key_param_t → List Write
  | [] => []
  | p :: params =>
      let entry := sizeof_tee_keymaster_key_param_set_t + sizeof_tee_keymaster_key_param_t * i
      ⟨entry, leBytes 4 p.tag.toNat⟩ :: copy_value (entry + 8) data p ++
        copy_params (i + 1) (data + blob_length p) params

/-- What is written, relative to the start of the set. -/
def tee_copy_params2_buf (params : List keymaster_key_param_t) : List Write :=
  ⟨0, leBytes 4 sizeof_tee_keymaster_key_param_set_t⟩ :: ⟨4, leBytes 4 params.length⟩ ::
    copy_params 0 (sizeof_tee_keymaster_key_param_set_t +
      sizeof_tee_keymaster_key_param_t * params.length) params

def packed_params (params : List keymaster_key_param_t) : List UInt8 :=
  (Write.run (tee_copy_params2_buf params) Memory.zero).load 0 (compute_param_set_length params)

/-! ## Packing -/

/-- An argument: what is written from its offset on, its size, and how far the offset moves. -/
structure Field where
  data : List Write
  size : Nat
  advance : Nat

def roundUp (len : Nat) : Nat := (len + 3) / 4 * 4

def Field.bytes (bytes : List UInt8) : Field :=
  ⟨[⟨0, bytes⟩], bytes.length, bytes.length⟩

def Field.rounded (bytes : List UInt8) : Field :=
  ⟨[⟨0, bytes⟩], bytes.length, roundUp bytes.length⟩

def Field.params (params : List keymaster_key_param_t) : Field :=
  ⟨tee_copy_params2_buf params, compute_param_set_length params, compute_param_set_length params⟩

def describe (i buf size : Nat) : List Write :=
  [⟨sizeof_TEE_params_expand + sizeof_TEE_params_set * i, leBytes 4 buf⟩,
    ⟨sizeof_TEE_params_expand + sizeof_TEE_params_set * i + 4, leBytes 4 size⟩]

/-- The arguments from the `i`-th on, one after the other; one that is not there has no bytes. -/
def packFields (i offset : Nat) : List (Option Field) → List Write
  | [] => []
  | none :: fields => describe i 0 0 ++ packFields (i + 1) offset fields
  | some f :: fields =>
      describe i offset f.size ++ f.data.map (Write.shift offset) ++
        packFields (i + 1) (offset + f.advance) fields

def tableSize (count : Nat) : Nat := count * sizeof_TEE_params_set + sizeof_TEE_params_expand

def pack (paramsize : Nat) (fields : List (Option Field)) : List Write :=
  ⟨0, List.replicate paramsize 0⟩ :: ⟨0, leBytes 4 fields.length⟩ ::
    packFields 0 (tableSize fields.length) fields

/-! ## The requests -/

inductive Request where
  | Import_Key (params : List keymaster_key_param_t) (key_format : UInt32) (key_data : List UInt8)
  | Export_Key (export_format : UInt32) (key_to_export : List UInt8)
      (client_id app_data : Option (List UInt8))
  | Begin (purpose : UInt32) (key : List UInt8) (in_params : List keymaster_key_param_t)
  | Update (operation_handle : UInt64) (in_params : Option (List keymaster_key_param_t))
      (input : List UInt8)
  | Finish (operation_handle : UInt64) (in_params : List keymaster_key_param_t)
      (input signature : Option (List UInt8))

namespace Request

def optLength (bytes : Option (List UInt8)) : Nat := (bytes.getD []).length

def paramsize : Request → Nat
  | Import_Key params _ key_data =>
      sizeof_TEE_params_expand + sizeof_TEE_params_set + sizeof_TEE_params_set +
        sizeof_TEE_params_set + compute_param_set_length params +
        sizeof_keymaster_key_format_t + key_data.length
  | Export_Key _ key_to_export client_id app_data =>
      sizeof_TEE_params_set + sizeof_keymaster_key_format_t +
        sizeof_TEE_params_set + key_to_export.length +
        sizeof_TEE_params_set + sizeof_TEE_params_set + sizeof_TEE_params_expand +
        optLength client_id + optLength app_data
  | Begin _ key in_params =>
      sizeof_TEE_params_expand + sizeof_TEE_params_set + sizeof_keymaster_purpose_t +
        sizeof_TEE_params_set + key.length +
        sizeof_TEE_params_set + compute_param_set_length in_params
  | Update _ in_params input =>
      sizeof_TEE_params_expand + sizeof_TEE_params_set + sizeof_keymaster_operation_handle_t +
        sizeof_TEE_params_set + (in_params.map compute_param_set_length).getD 0 +
        sizeof_TEE_params_set + input.length
  | Finish _ in_params input signature =>
      -- the header `TEE_params_expand` is not counted here
      sizeof_TEE_params_set + sizeof_keymaster_operation_handle_t +
        sizeof_TEE_params_set + compute_param_set_length in_params +
        sizeof_TEE_params_set + sizeof_TEE_params_set + optLength input + optLength signature

def fields : Request → List (Option Field)
  | Import_Key params key_format key_data =>
      [some (.params params), some (.bytes (leBytes 4 key_format.toNat)), some (.bytes key_data)]
  | Export_Key export_format key_to_export client_id app_data =>
      [some (.bytes (leBytes 4 export_format.toNat)), some (.rounded key_to_export),
        client_id.map .rounded, app_data.map .rounded]
  | Begin purpose key in_params =>
      [some (.bytes (leBytes 4 purpose.toNat)), some (.rounded key), some (.params in_params)]
  | Update operation_handle in_params input =>
      [some (.bytes (leBytes 8 operation_handle.toNat)), in_params.map .params,
        some (.bytes input)]
  | Finish operation_handle in_params input signature =>
      [some (.bytes (leBytes 8 operation_handle.toNat)), some (.params in_params),
        input.map .bytes, signature.map .bytes]

def writes (r : Request) : List Write := pack r.paramsize r.fields

/-- What the trusted application should find in each of the fields. -/
def arguments : Request → List (List UInt8)
  | Import_Key params key_format key_data =>
      [packed_params params, leBytes 4 key_format.toNat, key_data]
  | Export_Key export_format key_to_export client_id app_data =>
      [leBytes 4 export_format.toNat, key_to_export, client_id.getD [], app_data.getD []]
  | Begin purpose key in_params => [leBytes 4 purpose.toNat, key, packed_params in_params]
  | Update operation_handle in_params input =>
      [leBytes 8 operation_handle.toNat, (in_params.map packed_params).getD [], input]
  | Finish operation_handle in_params input signature =>
      [leBytes 8 operation_handle.toNat, packed_params in_params, input.getD [],
        signature.getD []]

end Request

/-! ## Where the writes go -/

theorem copy_value_within (slot data total : Nat) (p : keymaster_key_param_t)
    (hslot : slot + 8 ≤ total) (hdata : data + blob_length p ≤ total) :
    ∀ w ∈ copy_value slot data p, w.Within 0 total := by
  intro w hw
  unfold copy_value at hw
  -- only a blob is written outside the slot, and there its length is counted
  split at hw <;> rename_i htype <;>
    simp [blob_length, tag_is_blob, htype] at hw hdata
  all_goals try (subst hw; simp [Write.Within]; omega)
  all_goals rcases hw with rfl | rfl | rfl <;> simp [Write.Within] <;> omega

theorem copy_params_within (n total : Nat) (params : List keymaster_key_param_t) (i data : Nat)
    (hi : i + params.length ≤ n)
    (htable : sizeof_tee_keymaster_key_param_set_t + sizeof_tee_keymaster_key_param_t * n ≤ data)
    (htotal : data + (params.map blob_length).sum = total) :
    ∀ w ∈ copy_params i data params, w.Within 0 total := by
  induction params generalizing i data with
  | nil => simp [copy_params]
  | cons p params ih =>
      simp only [List.length_cons] at hi
      simp only [List.map_cons, List.sum_cons] at htotal
      simp only [sizeof_tee_keymaster_key_param_set_t, sizeof_tee_keymaster_key_param_t] at htable
      intro w hw
      simp only [copy_params, sizeof_tee_keymaster_key_param_set_t,
        sizeof_tee_keymaster_key_param_t, List.cons_append, List.mem_cons, List.mem_append] at hw
      rcases hw with rfl | hw | hw
      · simp only [Write.Within, length_leBytes]
        omega
      · exact copy_value_within _ data total p (by omega) (by omega) w hw
      · refine ih (i + 1) (data + blob_length p) (by omega) ?_ (by omega) w hw
        simp only [sizeof_tee_keymaster_key_param_set_t, sizeof_tee_keymaster_key_param_t]
        omega

theorem tee_copy_params2_buf_within (params : List keymaster_key_param_t) :
    ∀ w ∈ tee_copy_params2_buf params, w.Within 0 (compute_param_set_length params) := by
  intro w hw
  simp only [tee_copy_params2_buf, List.mem_cons] at hw
  rcases hw with rfl | rfl | hw
  · simp only [Write.Within, length_leBytes, compute_param_set_length,
      sizeof_tee_keymaster_key_param_set_t]
    omega
  · simp only [Write.Within, length_leBytes, compute_param_set_length,
      sizeof_tee_keymaster_key_param_set_t]
    omega
  · exact copy_params_within params.length _ params 0 _ (by omega) le_rfl rfl w hw

structure Field.Valid (f : Field) : Prop where
  within : ∀ w ∈ f.data, w.Within 0 f.size
  size_le : f.size ≤ f.advance

theorem le_roundUp (len : Nat) : len ≤ roundUp len := by
  unfold roundUp
  omega

theorem Field.valid_bytes (bytes : List UInt8) : (Field.bytes bytes).Valid where
  within := by simp [Field.bytes, Write.Within]
  size_le := le_rfl

theorem Field.valid_rounded (bytes : List UInt8) : (Field.rounded bytes).Valid where
  within := by simp [Field.rounded, Write.Within]
  size_le := le_roundUp bytes.length

theorem Field.valid_params (params : List keymaster_key_param_t) : (Field.params params).Valid where
  within := tee_copy_params2_buf_within params
  size_le := le_rfl

theorem describe_within (i buf size : Nat) :
    ∀ w ∈ describe i buf size, w.Within (8 + 8 * i) (8 + 8 * (i + 1)) := by
  simp [describe, Write.Within, sizeof_TEE_params_expand, sizeof_TEE_params_set]
  omega

theorem Field.Valid.within_shift {f : Field} (h : f.Valid) (offset : Nat) :
    ∀ w ∈ f.data.map (Write.shift offset), w.Within offset (offset + f.size) := by
  intro w hw
  obtain ⟨w, hmem, rfl⟩ := List.mem_map.mp hw
  exact Write.within_shift (h.within w hmem) offset

theorem run_packFields_outside {fields : List (Option Field)}
    (hvalid : ∀ f, some f ∈ fields → f.Valid) (i offset x : Nat) (hx : x < offset)
    (htable : x < 8 + 8 * i ∨ 8 + 8 * (i + fields.length) ≤ x) (m : Memory) :
    Write.run (packFields i offset fields) m x = m x := by
  induction fields generalizing i offset m with
  | nil => rfl
  | cons field fields ih =>
      have hvalid' : ∀ f, some f ∈ fields → f.Valid := fun f hf =>
        hvalid f (List.mem_cons_of_mem field hf)
      rw [List.length_cons] at htable
      cases field with
      | none =>
          rw [packFields, Write.run_append, ih hvalid' (i + 1) offset hx (by omega)]
          exact Write.run_outside (describe_within i 0 0) (by omega) m
      | some f =>
          rw [packFields, Write.run_append, Write.run_append,
            ih hvalid' (i + 1) (offset + f.advance) (by omega) (by omega),
            Write.run_outside ((hvalid f List.mem_cons_self).within_shift offset) (Or.inl hx)]
          exact Write.run_outside (describe_within i offset f.size) (by omega) m

/-! ## Reading the fields back -/

def entryBuf (m : Memory) (i : Nat) : Nat :=
  leValue (m.load (sizeof_TEE_params_expand + sizeof_TEE_params_set * i) 4)

def entrySize (m : Memory) (i : Nat) : Nat :=
  leValue (m.load (sizeof_TEE_params_expand + sizeof_TEE_params_set * i + 4) 4)

structure Place where
  buf : Nat
  size : Nat
  content : List UInt8

def Field.content (f : Field) : List UInt8 := (Write.run f.data Memory.zero).load 0 f.size

def layout (offset : Nat) : List (Option Field) → List Place
  | [] => []
  | none :: fields => ⟨0, 0, []⟩ :: layout offset fields
  | some f :: fields => ⟨offset, f.size, f.content⟩ :: layout (offset + f.advance) fields

theorem entry_describe (i buf size : Nat) (m : Memory) (hbuf : buf < 2 ^ 32)
    (hsize : size < 2 ^ 32) :
    entryBuf (Write.run (describe i buf size) m) i = buf ∧
      entrySize (Write.run (describe i buf size) m) i = size := by
  constructor
  · have hload : (Write.run (describe i buf size) m).load
        (sizeof_TEE_params_expand + sizeof_TEE_params_set * i) 4 = leBytes 4 buf := by
      rw [describe, Write.run_cons, Write.run_cons, Write.run_nil]
      dsimp only
      rw [Memory.load_congr fun x _ hx => Memory.store_outside (Or.inl hx)]
      simpa using Memory.load_store m _ (leBytes 4 buf)
    rw [entryBuf, hload]
    exact leValue_leBytes hbuf
  · have hload : (Write.run (describe i buf size) m).load
        (sizeof_TEE_params_expand + sizeof_TEE_params_set * i + 4) 4 = leBytes 4 size := by
      rw [describe, Write.run_cons, Write.run_cons, Write.run_nil]
      simpa using Memory.load_store _ _ (leBytes 4 size)
    rw [entrySize, hload]
    exact leValue_leBytes hsize

theorem entry_congr {m m' : Memory} {i : Nat}
    (h : ∀ x, 8 + 8 * i ≤ x → x < 8 + 8 * (i + 1) → m x = m' x) :
    entryBuf m i = entryBuf m' i ∧ entrySize m i = entrySize m' i := by
  unfold entryBuf entrySize
  simp only [sizeof_TEE_params_expand, sizeof_TEE_params_set]
  constructor
  · rw [Memory.load_congr fun x hlo hhi => h x (by omega) (by omega)]
  · rw [Memory.load_congr fun x hlo hhi => h x (by omega) (by omega)]

theorem entry_packFields {fields : List (Option Field)} (hvalid : ∀ f, some f ∈ fields → f.Valid)
    (i offset k : Nat) (p : Place) (htable : 8 + 8 * (i + fields.length) ≤ offset)
    (hk : (layout offset fields)[k]? = some p) (hbuf : p.buf < 2 ^ 32) (hsize : p.size < 2 ^ 32)
    (m : Memory) :
    entryBuf (Write.run (packFields i offset fields) m) (i + k) = p.buf ∧
      entrySize (Write.run (packFields i offset fields) m) (i + k) = p.size := by
  induction fields generalizing i offset k m with
  | nil => simp [layout] at hk
  | cons field fields ih =>
      have hvalid' : ∀ f, some f ∈ fields → f.Valid := fun f hf =>
        hvalid f (List.mem_cons_of_mem field hf)
      rw [List.length_cons] at htable
      cases field with
      | none =>
          rw [packFields, Write.run_append]
          cases k with
          | zero =>
              obtain rfl : (⟨0, 0, []⟩ : Place) = p := by simpa [layout] using hk
              have hframe : ∀ x, 8 + 8 * i ≤ x → x < 8 + 8 * (i + 1) →
                  Write.run (packFields (i + 1) offset fields) (Write.run (describe i 0 0) m) x =
                  Write.run (describe i 0 0) m x := by
                intro x _ hx
                exact run_packFields_outside hvalid' (i + 1) offset x (by omega) (by omega) _
              obtain ⟨hb, hs⟩ := entry_congr hframe
              show entryBuf _ i = 0 ∧ entrySize _ i = 0
              rw [hb, hs]
              exact entry_describe i 0 0 m (by decide) (by decide)
          | succ k =>
              rw [show i + (k + 1) = i + 1 + k by omega]
              exact ih hvalid' (i + 1) offset k (by omega) (by simpa [layout] using hk) _
      | some f =>
          rw [packFields, Write.run_append, Write.run_append]
          cases k with
          | zero =>
              obtain rfl : (⟨offset, f.size, f.content⟩ : Place) = p := by simpa [layout] using hk
              have hframe : ∀ x, 8 + 8 * i ≤ x → x < 8 + 8 * (i + 1) →
                  Write.run (packFields (i + 1) (offset + f.advance) fields)
                    (Write.run (f.data.map (Write.shift offset))
                      (Write.run (describe i offset f.size) m)) x =
                  Write.run (describe i offset f.size) m x := by
                intro x _ hx
                rw [run_packFields_outside hvalid' (i + 1) (offset + f.advance) x (by omega)
                  (by omega)]
                exact Write.run_outside ((hvalid f List.mem_cons_self).within_shift offset)
                  (Or.inl (by omega)) _
              obtain ⟨hb, hs⟩ := entry_congr hframe
              show entryBuf _ i = offset ∧ entrySize _ i = f.size
              rw [hb, hs]
              exact entry_describe i offset f.size m hbuf hsize
          | succ k =>
              rw [show i + (k + 1) = i + 1 + k by omega]
              exact ih hvalid' (i + 1) (offset + f.advance) k (by omega)
                (by simpa [layout] using hk) _

theorem load_packFields {fields : List (Option Field)} (hvalid : ∀ f, some f ∈ fields → f.Valid)
    (i offset k limit : Nat) (p : Place) (htable : 8 + 8 * (i + fields.length) ≤ offset)
    (hk : (layout offset fields)[k]? = some p) (hlimit : p.size ≠ 0 → p.buf + p.size ≤ limit)
    (m : Memory) (hclear : ∀ x, offset ≤ x → x < limit → m x = 0) :
    (Write.run (packFields i offset fields) m).load p.buf p.size = p.content := by
  induction fields generalizing i offset k m with
  | nil => simp [layout] at hk
  | cons field fields ih =>
      have hvalid' : ∀ f, some f ∈ fields → f.Valid := fun f hf =>
        hvalid f (List.mem_cons_of_mem field hf)
      rw [List.length_cons] at htable
      cases field with
      | none =>
          rw [packFields, Write.run_append]
          cases k with
          | zero =>
              obtain rfl : (⟨0, 0, []⟩ : Place) = p := by simpa [layout] using hk
              rfl
          | succ k =>
              refine ih hvalid' (i + 1) offset k (by omega) (by simpa [layout] using hk) _ ?_
              intro x hlo hhi
              rw [Write.run_outside (describe_within i 0 0) (Or.inr (by omega))]
              exact hclear x hlo hhi
      | some f =>
          have hf := hvalid f List.mem_cons_self
          have hadvance := hf.size_le
          have hclear' : ∀ x, offset ≤ x → x < limit →
              Write.run (describe i offset f.size) m x = 0 := by
            intro x hlo hhi
            rw [Write.run_outside (describe_within i offset f.size) (Or.inr (by omega))]
            exact hclear x hlo hhi
          rw [packFields, Write.run_append, Write.run_append]
          cases k with
          | zero =>
              obtain rfl : (⟨offset, f.size, f.content⟩ : Place) = p := by simpa [layout] using hk
              dsimp only at hlimit ⊢
              rw [Memory.load_congr fun x hlo hhi => run_packFields_outside hvalid' (i + 1)
                (offset + f.advance) x (by omega) (by omega) _]
              rw [Field.content, Memory.load, Memory.load]
              apply List.map_congr_left
              intro j hj
              rw [List.mem_range] at hj
              rw [Write.run_shift, Nat.zero_add]
              exact Write.run_congr (hclear' (offset + j) (by omega) (by omega)) f.data
          | succ k =>
              refine ih hvalid' (i + 1) (offset + f.advance) k (by omega)
                (by simpa [layout] using hk) _ ?_
              intro x hlo hhi
              rw [Write.run_outside (hf.within_shift offset) (Or.inr (by omega))]
              exact hclear' x (by omega) hhi

/-! ## Well packed requests -/

def Covers (buf size x : Nat) : Prop := buf ≤ x ∧ x < buf + size

/-- What is packed stays inside the memory, the table and the fields are apart, and each field is
found where the table says. -/
structure WellPacked (paramsize : Nat) (fields : List (Option Field))
    (arguments : List (List UInt8)) (m : Memory) : Prop where
  bounded : ∀ w ∈ pack paramsize fields, ∀ x, Covers w.addr w.bytes.length x → x < paramsize
  table : tableSize fields.length ≤ paramsize
  inside : ∀ i < fields.length, ∀ x, Covers (entryBuf m i) (entrySize m i) x →
    tableSize fields.length ≤ x ∧ x < paramsize
  apart : ∀ i j, i < j → j < fields.length → ∀ x, Covers (entryBuf m i) (entrySize m i) x →
    ¬ Covers (entryBuf m j) (entrySize m j) x
  content : ∀ i < fields.length, arguments[i]? = some (m.load (entryBuf m i) (entrySize m i))

@[simp] theorem length_layout (offset : Nat) (fields : List (Option Field)) :
    (layout offset fields).length = fields.length := by
  induction fields generalizing offset with
  | nil => rfl
  | cons field fields ih => cases field <;> simp [layout, ih]

theorem le_buf_of_mem_layout {fields : List (Option Field)} {offset : Nat} {p : Place}
    (hp : p ∈ layout offset fields) (hsize : p.size ≠ 0) : offset ≤ p.buf := by
  induction fields generalizing offset with
  | nil => simp [layout] at hp
  | cons field fields ih =>
      cases field with
      | none =>
          rcases List.mem_cons.mp hp with rfl | hp
          · exact absurd rfl hsize
          · exact ih hp
      | some f =>
          rcases List.mem_cons.mp hp with rfl | hp
          · exact le_rfl
          · have hle := ih hp
            omega

theorem pairwise_layout {fields : List (Option Field)} (hvalid : ∀ f, some f ∈ fields → f.Valid)
    (offset : Nat) :
    (layout offset fields).Pairwise fun p q =>
      p.size ≠ 0 → q.size ≠ 0 → p.buf + p.size ≤ q.buf := by
  induction fields generalizing offset with
  | nil => exact List.Pairwise.nil
  | cons field fields ih =>
      have hvalid' : ∀ f, some f ∈ fields → f.Valid := fun f hf =>
        hvalid f (List.mem_cons_of_mem field hf)
      cases field with
      | none => exact List.pairwise_cons.mpr ⟨fun q _ hp => absurd rfl hp, ih hvalid' offset⟩
      | some f =>
          refine List.pairwise_cons.mpr ⟨fun q hq _ hsize => ?_, ih hvalid' (offset + f.advance)⟩
          have hle := le_buf_of_mem_layout hq hsize
          have hadvance := (hvalid f List.mem_cons_self).size_le
          show offset + f.size ≤ q.buf
          omega

theorem within_of_mem_packFields {fields : List (Option Field)}
    (hvalid : ∀ f, some f ∈ fields → f.Valid) {i offset : Nat} {w : Write}
    (hw : w ∈ packFields i offset fields) :
    w.Within (8 + 8 * i) (8 + 8 * (i + fields.length)) ∨
      ∃ p ∈ layout offset fields, w.Within p.buf (p.buf + p.size) := by
  induction fields generalizing i offset with
  | nil => simp [packFields] at hw
  | cons field fields ih =>
      have hvalid' : ∀ f, some f ∈ fields → f.Valid := fun f hf =>
        hvalid f (List.mem_cons_of_mem field hf)
      have hentry : ∀ buf size, w ∈ describe i buf size →
          w.Within (8 + 8 * i) (8 + 8 * (i + (field :: fields).length)) := by
        intro buf size hmem
        have hwithin := describe_within i buf size w hmem
        simp only [Write.Within, List.length_cons] at hwithin ⊢
        omega
      have hrest : ∀ offset', w ∈ packFields (i + 1) offset' fields →
          w.Within (8 + 8 * i) (8 + 8 * (i + (field :: fields).length)) ∨
            ∃ p ∈ layout offset' fields, w.Within p.buf (p.buf + p.size) := by
        intro offset' hmem
        rcases ih hvalid' hmem with hwithin | hfield
        · left
          simp only [Write.Within, List.length_cons] at hwithin ⊢
          omega
        · exact Or.inr hfield
      cases field with
      | none =>
          rcases List.mem_append.mp hw with hw | hw
          · exact Or.inl (hentry 0 0 hw)
          · rcases hrest offset hw with hwithin | ⟨p, hp, hwithin⟩
            · exact Or.inl hwithin
            · exact Or.inr ⟨p, List.mem_cons_of_mem _ hp, hwithin⟩
      | some f =>
          rcases List.mem_append.mp hw with hw | hw
          · rcases List.mem_append.mp hw with hw | hw
            · exact Or.inl (hentry offset f.size hw)
            · have hwithin := (hvalid f List.mem_cons_self).within_shift offset w hw
              exact Or.inr ⟨⟨offset, f.size, f.content⟩, List.mem_cons_self, hwithin⟩
          · rcases hrest (offset + f.advance) hw with hwithin | ⟨p, hp, hwithin⟩
            · exact Or.inl hwithin
            · exact Or.inr ⟨p, List.mem_cons_of_mem _ hp, hwithin⟩

section

variable {fields : List (Option Field)} (hvalid : ∀ f, some f ∈ fields → f.Valid)
  (hsmall : ∀ p ∈ layout (tableSize fields.length) fields, p.buf < 2 ^ 32 ∧ p.size < 2 ^ 32)
  (paramsize : Nat) (m₀ : Memory)

include hvalid

theorem load_pack {i : Nat} {p : Place}
    (hp : (layout (tableSize fields.length) fields)[i]? = some p)
    (hfits : p.size ≠ 0 → p.buf + p.size ≤ paramsize) :
    (Write.run (pack paramsize fields) m₀).load p.buf p.size = p.content := by
  rw [pack, Write.run_cons, Write.run_cons]
  apply load_packFields hvalid 0 (tableSize fields.length) i paramsize p ?_ hp hfits
  · intro x hlo hhi
    simp only [tableSize, sizeof_TEE_params_set, sizeof_TEE_params_expand] at hlo
    rw [Memory.store_outside (Or.inr (by rw [length_leBytes]; dsimp only; omega))]
    -- what is not written since holds the zeros of `memset`
    have hzero : m₀.store 0 (List.replicate paramsize 0) (0 + x) = _ :=
      Memory.store_inside (by simpa using hhi)
    rw [Nat.zero_add, List.getElem_replicate] at hzero
    exact hzero
  · simp only [tableSize, sizeof_TEE_params_set, sizeof_TEE_params_expand]
    omega

include hsmall

theorem entry_pack {i : Nat} {p : Place}
    (hp : (layout (tableSize fields.length) fields)[i]? = some p) :
    entryBuf (Write.run (pack paramsize fields) m₀) i = p.buf ∧
      entrySize (Write.run (pack paramsize fields) m₀) i = p.size := by
  obtain ⟨hbuf, hsize⟩ := hsmall p (List.mem_of_getElem? hp)
  rw [pack, Write.run_cons, Write.run_cons]
  have hentry := entry_packFields hvalid 0 (tableSize fields.length) i p
    (by simp only [tableSize, sizeof_TEE_params_set, sizeof_TEE_params_expand]; omega) hp hbuf hsize
  rw [Nat.zero_add] at hentry
  exact hentry _

theorem exists_place {i : Nat} (hi : i < fields.length) :
    ∃ p, (layout (tableSize fields.length) fields)[i]? = some p ∧
      entryBuf (Write.run (pack paramsize fields) m₀) i = p.buf ∧
      entrySize (Write.run (pack paramsize fields) m₀) i = p.size := by
  have hlt : i < (layout (tableSize fields.length) fields).length := by rwa [length_layout]
  have hp := List.getElem?_eq_getElem hlt
  exact ⟨_, hp, entry_pack hvalid hsmall paramsize m₀ hp⟩

/-- A request is well packed exactly when no field reaches beyond the memory: the fields never
overlap each other or the table. -/
theorem wellPacked_iff (htable : tableSize fields.length ≤ paramsize) :
    WellPacked paramsize fields ((layout (tableSize fields.length) fields).map Place.content)
        (Write.run (pack paramsize fields) m₀) ↔
      ∀ p ∈ layout (tableSize fields.length) fields, p.size ≠ 0 → p.buf + p.size ≤ paramsize := by
  constructor
  · intro h p hp hsize
    obtain ⟨i, hi⟩ := List.mem_iff_getElem?.mp hp
    have hlt : i < fields.length := by
      rw [← length_layout (tableSize fields.length) fields]
      exact (List.getElem?_eq_some_iff.mp hi).1
    obtain ⟨hbuf, hsz⟩ := entry_pack hvalid hsmall paramsize m₀ hi
    have hinside := h.inside i hlt (p.buf + p.size - 1)
    rw [hbuf, hsz] at hinside
    have hlast := hinside ⟨by omega, by omega⟩
    omega
  · intro hfits
    constructor
    case table => exact htable
    case bounded =>
      intro w hw x hx
      simp only [pack, List.mem_cons] at hw
      unfold Covers at hx
      rcases hw with rfl | rfl | hw
      · simpa using hx.2
      · simp only [length_leBytes, tableSize, sizeof_TEE_params_set, sizeof_TEE_params_expand]
          at hx htable
        omega
      · rcases within_of_mem_packFields hvalid hw with hwithin | ⟨p, hp, hwithin⟩
        · simp only [Write.Within, tableSize, sizeof_TEE_params_set, sizeof_TEE_params_expand]
            at hwithin htable
          omega
        · have hle := hfits p hp
          unfold Write.Within at hwithin
          omega
    case inside =>
      intro i hi x hx
      obtain ⟨p, hp, hbuf, hsize⟩ := exists_place hvalid hsmall paramsize m₀ hi
      rw [hbuf, hsize] at hx
      unfold Covers at hx
      have hmem := List.mem_of_getElem? hp
      have hle := hfits p hmem (by omega)
      have hge := le_buf_of_mem_layout hmem (by omega)
      omega
    case apart =>
      intro i j hij hj x hx hx'
      obtain ⟨p, hp, hbuf, hsize⟩ := exists_place hvalid hsmall paramsize m₀ (hij.trans hj)
      obtain ⟨q, hq, hbuf', hsize'⟩ := exists_place hvalid hsmall paramsize m₀ hj
      rw [hbuf, hsize] at hx
      rw [hbuf', hsize'] at hx'
      unfold Covers at hx hx'
      obtain ⟨hi', rfl⟩ := List.getElem?_eq_some_iff.mp hp
      obtain ⟨hj', rfl⟩ := List.getElem?_eq_some_iff.mp hq
      have hle := List.pairwise_iff_getElem.mp
        (pairwise_layout hvalid (tableSize fields.length)) i j hi' hj' hij
      omega
    case content =>
      intro i hi
      obtain ⟨p, hp, hbuf, hsize⟩ := exists_place hvalid hsmall paramsize m₀ hi
      rw [List.getElem?_map, hp, hbuf, hsize,
        load_pack hvalid paramsize m₀ hp (hfits p (List.mem_of_getElem? hp))]
      rfl

end

@[simp] theorem content_bytes (bytes : List UInt8) : (Field.bytes bytes).content = bytes :=
  Memory.load_store Memory.zero 0 bytes

@[simp] theorem content_rounded (bytes : List UInt8) : (Field.rounded bytes).content = bytes :=
  Memory.load_store Memory.zero 0 bytes

theorem le_compute_param_set_length (params : List keymaster_key_param_t) :
    8 ≤ compute_param_set_length params := by
  simp only [compute_param_set_length, sizeof_tee_keymaster_key_param_set_t]
  omega

namespace Request

def WellPacked (r : Request) (m₀ : Memory) : Prop :=
  Keymaster.WellPacked r.paramsize r.fields r.arguments (Write.run r.writes m₀)

/-- A key is rounded up when it is placed but not when the memory is allocated, so what follows it
may reach beyond; a call of `Finish` allocates less than the header needs. -/
def Fits : Request → Prop
  | Import_Key _ _ _ => True
  | Export_Key _ key_to_export client_id app_data =>
      (optLength client_id ≠ 0 ∨ optLength app_data ≠ 0 → key_to_export.length % 4 = 0) ∧
        (optLength app_data ≠ 0 → optLength client_id % 4 = 0)
  | Begin _ key _ => key.length % 4 = 0
  | Update _ _ _ => True
  | Finish _ _ _ _ => False

theorem valid_fields (r : Request) : ∀ f, some f ∈ r.fields → f.Valid := by
  intro f hf
  cases r with
  | Import_Key params key_format key_data =>
      simp only [fields, List.mem_cons, Option.some.injEq, List.not_mem_nil, or_false] at hf
      rcases hf with rfl | rfl | rfl
      · exact Field.valid_params params
      · exact Field.valid_bytes _
      · exact Field.valid_bytes key_data
  | Export_Key export_format key_to_export client_id app_data =>
      simp only [fields, List.mem_cons, Option.some.injEq, List.not_mem_nil, or_false,
        @eq_comm _ (some f), Option.map_eq_some_iff] at hf
      rcases hf with rfl | rfl | ⟨bytes, _, rfl⟩ | ⟨bytes, _, rfl⟩
      · exact Field.valid_bytes _
      · exact Field.valid_rounded key_to_export
      · exact Field.valid_rounded bytes
      · exact Field.valid_rounded bytes
  | Begin purpose key in_params =>
      simp only [fields, List.mem_cons, Option.some.injEq, List.not_mem_nil, or_false] at hf
      rcases hf with rfl | rfl | rfl
      · exact Field.valid_bytes _
      · exact Field.valid_rounded key
      · exact Field.valid_params in_params
  | Update operation_handle in_params input =>
      simp only [fields, List.mem_cons, Option.some.injEq, List.not_mem_nil, or_false,
        @eq_comm _ (some f), Option.map_eq_some_iff] at hf
      rcases hf with rfl | ⟨params, _, rfl⟩ | rfl
      · exact Field.valid_bytes _
      · exact Field.valid_params params
      · exact Field.valid_bytes input
  | Finish operation_handle in_params input signature =>
      simp only [fields, List.mem_cons, Option.some.injEq, List.not_mem_nil, or_false,
        @eq_comm _ (some f), Option.map_eq_some_iff] at hf
      rcases hf with rfl | rfl | ⟨bytes, _, rfl⟩ | ⟨bytes, _, rfl⟩
      · exact Field.valid_bytes _
      · exact Field.valid_params in_params
      · exact Field.valid_bytes bytes
      · exact Field.valid_bytes bytes

theorem arguments_eq (r : Request) :
    r.arguments = (layout (tableSize r.fields.length) r.fields).map Place.content := by
  cases r with
  | Import_Key params key_format key_data => simp [arguments, fields, layout]; rfl
  | Export_Key export_format key_to_export client_id app_data =>
      cases client_id <;> cases app_data <;> simp [arguments, fields, layout]
  | Begin purpose key in_params => simp [arguments, fields, layout]; rfl
  | Update operation_handle in_params input =>
      cases in_params <;> simp [arguments, fields, layout]
      rfl
  | Finish operation_handle in_params input signature =>
      cases input <;> cases signature <;> simp [arguments, fields, layout] <;> rfl

/-- Where the fields of each request are, and the size that is allocated for it. -/
def places : Request → List (Nat × Nat)
  | Import_Key params _ key_data =>
      let size := compute_param_set_length params
      [(32, size), (32 + size, 4), (36 + size, key_data.length)]
  | Export_Key _ key_to_export client_id app_data =>
      let client := 44 + roundUp key_to_export.length
      let app := client + roundUp (optLength client_id)
      [(40, 4), (44, key_to_export.length),
        (if client_id.isSome then client else 0, optLength client_id),
        (if app_data.isSome then app else 0, optLength app_data)]
  | Begin _ key in_params =>
      [(32, 4), (36, key.length), (36 + roundUp key.length, compute_param_set_length in_params)]
  | Update _ in_params input =>
      let size := (in_params.map compute_param_set_length).getD 0
      [(32, 8), (if in_params.isSome then 40 else 0, size), (40 + size, input.length)]
  | Finish _ in_params input signature =>
      let size := compute_param_set_length in_params
      [(40, 8), (48, size), (if input.isSome then 48 + size else 0, optLength input),
        (if signature.isSome then 48 + size + optLength input else 0, optLength signature)]

theorem layout_eq_places (r : Request) :
    (layout (tableSize r.fields.length) r.fields).map (fun p => (p.buf, p.size)) = r.places := by
  cases r with
  | Import_Key params key_format key_data =>
      simp [fields, layout, places, tableSize, Field.params, Field.bytes]
      omega
  | Export_Key export_format key_to_export client_id app_data =>
      cases client_id <;> cases app_data <;>
        simp [fields, layout, places, tableSize, Field.rounded, Field.bytes, optLength, roundUp]
  | Begin purpose key in_params =>
      simp [fields, layout, places, tableSize, Field.params, Field.rounded, Field.bytes]
  | Update operation_handle in_params input =>
      cases in_params <;> simp [fields, layout, places, tableSize, Field.params, Field.bytes]
  | Finish operation_handle in_params input signature =>
      cases input <;> cases signature <;>
        simp [fields, layout, places, tableSize, Field.params, Field.bytes, optLength]

theorem forall_layout_iff (r : Request) (P : Nat → Nat → Prop) :
    (∀ p ∈ layout (tableSize r.fields.length) r.fields, P p.buf p.size) ↔
      ∀ q ∈ r.places, P q.1 q.2 := by
  rw [← layout_eq_places]
  simp only [List.mem_map, forall_exists_index, and_imp, forall_apply_eq_imp_iff₂]

theorem layout_small (r : Request) (h : r.paramsize < 2 ^ 31) :
    ∀ p ∈ layout (tableSize r.fields.length) r.fields, p.buf < 2 ^ 32 ∧ p.size < 2 ^ 32 := by
  rw [r.forall_layout_iff fun buf size => buf < 2 ^ 32 ∧ size < 2 ^ 32]
  cases r <;> simp [places, paramsize, roundUp] at h ⊢
  · omega
  · split <;> split <;> omega
  · omega
  · split <;> omega
  · split <;> split <;> omega

theorem table_le (r : Request) : tableSize r.fields.length ≤ r.paramsize := by
  cases r <;> simp [fields, paramsize, tableSize] <;> omega

theorem fits_iff (r : Request) :
    (∀ p ∈ layout (tableSize r.fields.length) r.fields, p.size ≠ 0 →
      p.buf + p.size ≤ r.paramsize) ↔ r.Fits := by
  rw [r.forall_layout_iff fun buf size => size ≠ 0 → buf + size ≤ r.paramsize]
  cases r with
  | Import_Key params key_format key_data =>
      simp [places, paramsize, Fits]
      omega
  | Export_Key export_format key_to_export client_id app_data =>
      cases client_id <;> cases app_data <;>
        simp [places, paramsize, Fits, optLength, roundUp, -List.length_eq_zero_iff] <;> omega
  | Begin purpose key in_params =>
      have hpos := le_compute_param_set_length in_params
      simp [places, paramsize, Fits, roundUp]
      omega
  | Update operation_handle in_params input =>
      cases in_params <;> simp [places, paramsize, Fits]
      omega
  | Finish operation_handle in_params input signature =>
      -- the last field that is there ends eight bytes beyond the memory
      have hpos := le_compute_param_set_length in_params
      cases input <;> cases signature <;>
        simp [places, paramsize, Fits, optLength, -List.length_eq_zero_iff] <;> omega

theorem wellPacked_iff_layout (r : Request) (h : r.paramsize < 2 ^ 31) (m₀ : Memory) :
    r.WellPacked m₀ ↔ ∀ p ∈ layout (tableSize r.fields.length) r.fields, p.size ≠ 0 →
      p.buf + p.size ≤ r.paramsize := by
  rw [WellPacked, arguments_eq, writes]
  exact wellPacked_iff r.valid_fields (r.layout_small h) r.paramsize m₀ r.table_le

/-- Whatever the memory held before, a request is well packed exactly when it fits. -/
theorem wellPacked_iff_fits (r : Request) (h : r.paramsize < 2 ^ 31) (m₀ : Memory) :
    r.WellPacked m₀ ↔ r.Fits :=
  (r.wellPacked_iff_layout h m₀).trans r.fits_iff

theorem wellPacked_begin :
    (Begin 0 [1, 2, 3, 4] [{ tag := 0x90000001, blob := [5, 6, 7] }]).paramsize < 2 ^ 31 ∧
      (Begin 0 [1, 2, 3, 4] [{ tag := 0x90000001, blob := [5, 6, 7] }]).WellPacked Memory.zero :=
  ⟨by decide, (wellPacked_iff_fits _ (by decide) Memory.zero).mpr rfl⟩

/-- A key of one byte moves what follows it by three bytes too many, and the smallest `Finish` has
its parameters end beyond the memory. -/
theorem not_wellPacked :
    ¬ (Begin 0 [1] []).WellPacked Memory.zero ∧
      ¬ (Export_Key 0 [1] (some [2]) none).WellPacked Memory.zero ∧
      ¬ (Finish 0 [] none none).WellPacked Memory.zero := by
  refine ⟨fun h => ?_, fun h => ?_, fun h => ?_⟩
  · have hfits := (fits_iff _).mp ((wellPacked_iff_layout _ (by decide) _).mp h)
    exact absurd hfits (by decide : ¬ 1 % 4 = 0)
  · have hfits := (fits_iff _).mp ((wellPacked_iff_layout _ (by decide) _).mp h)
    exact absurd (hfits.1 (Or.inl (by decide))) (by decide : ¬ 1 % 4 = 0)
  · exact (fits_iff _).mp ((wellPacked_iff_layout _ (by decide) _).mp h)

end Request

end AwHal.Keymaster
