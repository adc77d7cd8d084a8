import AwHal.Keymaster.KeyCalls

/-!
# The blocks of a call

A call that returns has released the blocks that it allocated, unless `KeyMaster_V2_Import_Key` lost
one of them.  It does not return when `tee_CopyToParamSet` reads outside a block or writes through a
null pointer.
-/

namespace AwHal.Keymaster

open AwHal.Lib

/-! ## Sets that can be copied -/

section

variable (block : List UInt8) (src : Nat)

def setLength : Nat := (word block (src + 4)).getD 0

def setEntry (i : Nat) : Nat := (word block src).getD 0 + sizeof_tee_keymaster_key_param_t * i

def entryTag (e : Nat) : UInt32 := UInt32.ofNat ((word block e).getD 0)

def entryBlobLength (e : Nat) : Nat := (word block (e + 12)).getD 0

/-- The entry at `e` and its blob lie in the block. -/
def EntryInside (e : Nat) : Prop :=
  e + 4 ≤ block.length ∧
    match keymaster_tag_get_type (entryTag block e) with
    | .KM_INVALID | .other _ => True
    | .KM_BOOL => e + 9 ≤ block.length
    | .KM_ENUM | .KM_ENUM_REP | .KM_UINT | .KM_UINT_REP => e + 12 ≤ block.length
    | .KM_ULONG | .KM_ULONG_REP | .KM_DATE => e + 16 ≤ block.length
    | .KM_BIGNUM | .KM_BYTES =>
        e + 16 ≤ block.length ∧
          (0 < entryBlobLength block e →
            (word block (e + 8)).getD 0 + entryBlobLength block e ≤ block.length)

def blobsBefore (i : Nat) : Nat :=
  (List.range i).countP fun k => tag_is_blob (entryTag block (setEntry block src k))

/-- The allocation after those for the set, when these begin with `n`. -/
def nextMalloc (n : Nat) : Nat :=
  if setLength block src = 0 then n else n + 1 + blobsBefore block src (setLength block src)

/-- The set lies in the block, and there is memory for its table and for its blobs. -/
structure CanCopySet (malloc : Nat → Bool) (n : Nat) : Prop where
  descriptor : src + 8 ≤ block.length
  entries : ∀ i < setLength block src, EntryInside block (setEntry block src i)
  table : 0 < setLength block src → malloc n = true
  blobs : ∀ i < setLength block src, tag_is_blob (entryTag block (setEntry block src i)) →
    0 < entryBlobLength block (setEntry block src i) →
      malloc (n + 1 + blobsBefore block src i) = true

end

/-! ## Results that can be copied -/

section

variable (teec : Teec)

/-- The two sets, where `sw_enforced` is the offset of the second descriptor. -/
def CanCopyCharacteristics (n : Nat) (block : List UInt8) (sw_enforced : Nat) : Prop :=
  CanCopySet block 0 teec.malloc n ∧
    CanCopySet block sw_enforced teec.malloc (nextMalloc block 0 n)

def CanCopyKey (characteristics : Bool) (sw_enforced : Nat) : Prop :=
  teec.malloc 0 = true →
    teec.size 1 ≤ (teec.buffer 1).length ∧
      (characteristics = true → CanCopyCharacteristics teec 1 (teec.buffer 2) sw_enforced)

def CanCopyOutParams (out_params : Bool) : Prop :=
  8 ≤ (teec.buffer 1).length ∧
    (0 < setLength (teec.buffer 1) 0 → out_params = true →
      CanCopySet (teec.buffer 1) 0 teec.malloc 0)

def CanCopyOutput (n : Nat) (output : Bool) : Prop :=
  output = true → teec.malloc n = true → teec.size 2 ≤ (teec.buffer 2).length

end

namespace Call

variable (teec : Teec) (configured : Bool)

def Invokes : Call → Prop
  | Generate_Key dev key_blob _ =>
      dev = true ∧ key_blob = true ∧ configured = true ∧ ∀ i < 3, teec.allocate i = true
  | Get_Key_Characteristics dev characteristics client_id app_data =>
      dev = true ∧ characteristics = true ∧ configured = true ∧ teec.allocate 0 = true ∧
        (client_id = true → teec.allocate 1 = true) ∧ (app_data = true → teec.allocate 2 = true) ∧
          teec.allocate 3 = true
  | Import_Key dev params key_data key_blob characteristics =>
      dev = true ∧ params = true ∧ key_data = true ∧ key_blob = true ∧ configured = true ∧
        teec.allocate 0 = true ∧ teec.allocate 1 = true ∧
          (characteristics = true → teec.allocate 2 = true)
  | Export_Key dev key_material export_data =>
      dev = true ∧ key_material = true ∧ export_data = true ∧ configured = true ∧
        ∀ i < 2, teec.allocate i = true
  | Begin dev key_material operation_handle _ =>
      dev = true ∧ key_material = true ∧ operation_handle = true ∧ configured = true ∧
        ∀ i < 2, teec.allocate i = true
  | Update dev input input_consumed _ _ =>
      dev = true ∧ input = true ∧ input_consumed = true ∧ configured = true ∧
        ∀ i < 3, teec.allocate i = true
  | Finish dev _ _ => dev = true ∧ configured = true ∧ ∀ i < 3, teec.allocate i = true

/-- What a command that succeeds has left in the blocks can be copied. -/
def CanCopy : Call → Prop
  | Generate_Key _ _ characteristics =>
      CanCopyKey teec characteristics sizeof_tee_keymaster_key_param_set_t
  | Get_Key_Characteristics _ _ _ _ =>
      CanCopyCharacteristics teec 0 (teec.buffer 3) sizeof_tee_keymaster_key_param_set_t
  | Import_Key _ _ _ _ characteristics =>
      CanCopyKey teec characteristics sizeof_keymaster_key_param_set_t
  | Export_Key _ _ _ => teec.malloc 0 = true → teec.size 1 ≤ (teec.buffer 1).length
  | Begin _ _ _ out_params => CanCopyOutParams teec out_params
  -- `KeyMaster_V2_Update` does not ask whether `out_params` is there
  | Update _ _ _ out_params output =>
      out_params = true ∧ CanCopySet (teec.buffer 1) 0 teec.malloc 0 ∧
        CanCopyOutput teec (nextMalloc (teec.buffer 1) 0 0) output
  | Finish _ out_params output =>
      CanCopyOutParams teec out_params ∧
        ((0 < setLength (teec.buffer 1) 0 → out_params = true) →
          CanCopyOutput teec (nextMalloc (teec.buffer 1) 0 0) output)

def Returns (call : Call) : Prop :=
  call.Invokes teec configured → teec.success = 0 → call.CanCopy teec

end Call

/-! ## Sets that are copied -/

section

variable {block : List UInt8} {src e n : Nat} {malloc : Nat → Bool}

theorem isSome_word_iff : (word block e).isSome ↔ e + 4 ≤ block.length := by
  rw [word, Option.isSome_map, isSome_loadBlock_iff]
  exact ⟨fun h => h (by decide), fun h _ => h⟩

theorem isSome_longWord_iff : (longWord block e).isSome ↔ e + 8 ≤ block.length := by
  rw [longWord, Option.isSome_map, isSome_loadBlock_iff]
  exact ⟨fun h => h (by decide), fun h _ => h⟩

theorem word_of_le (h : e + 4 ≤ block.length) : word block e = some ((word block e).getD 0) := by
  obtain ⟨v, hv⟩ := Option.isSome_iff_exists.mp (isSome_word_iff.mpr h)
  rw [hv, Option.getD_some]

theorem word_eq_none (h : ¬ e + 4 ≤ block.length) : word block e = none :=
  Option.not_isSome_iff_eq_none.mp fun hsome => h (isSome_word_iff.mp hsome)

theorem isSome_read_blob_iff :
    (read_blob block 0 e).isSome ↔ e + 16 ≤ block.length ∧
      (0 < entryBlobLength block e →
        (word block (e + 8)).getD 0 + entryBlobLength block e ≤ block.length) := by
  unfold read_blob entryBlobLength
  by_cases hoffset : e + 8 + 4 ≤ block.length
  · rw [word_of_le hoffset]
    by_cases hlength : e + 12 + 4 ≤ block.length
    · rw [word_of_le hlength]
      simp only [Option.bind_eq_bind, Option.bind_some, Option.getD_some, Nat.zero_add,
        isSome_loadBlock_iff]
      exact ⟨fun h => ⟨by omega, h⟩, fun h => h.2⟩
    · rw [word_eq_none hlength]
      exact iff_of_false (by simp) fun h => hlength (by omega)
  · rw [word_eq_none hoffset]
    exact iff_of_false (by simp) fun h => hoffset (by omega)

theorem isSome_read_param_iff : (read_param block 0 e).isSome ↔ EntryInside block e := by
  unfold EntryInside
  by_cases htag : e + 4 ≤ block.length
  · rw [read_param, word_of_le htag, Option.bind_some]
    show (read_value block 0 e (entryTag block e)).isSome ↔ _
    unfold read_value
    cases keymaster_tag_get_type (entryTag block e) with
    | KM_INVALID | other _ => simp [htag]
    | KM_BOOL =>
        simp only [Option.isSome_map, isSome_loadBlock_iff]
        omega
    | KM_ENUM | KM_ENUM_REP | KM_UINT | KM_UINT_REP =>
        simp only [Option.isSome_map, isSome_word_iff]
        omega
    | KM_ULONG | KM_ULONG_REP | KM_DATE =>
        simp only [Option.isSome_map, isSome_longWord_iff]
        omega
    | KM_BIGNUM | KM_BYTES =>
        simp only [Option.isSome_map, isSome_read_blob_iff]
        exact ⟨fun h => ⟨htag, h⟩, fun h => h.2⟩
  · rw [read_param, word_eq_none htag]
    exact iff_of_false (by simp) fun h => htag h.1

theorem isSome_tee_CopyToParamSet_iff :
    (tee_CopyToParamSet block src 0).isSome ↔
      src + 8 ≤ block.length ∧
        ∀ i < setLength block src, EntryInside block (setEntry block src i) := by
  unfold tee_CopyToParamSet setEntry setLength
  by_cases hdescriptor : src + 8 ≤ block.length
  · rw [word_of_le (show src + 4 ≤ block.length by omega),
      word_of_le (show src + 4 + 4 ≤ block.length by omega)]
    simp only [Option.bind_eq_bind, Option.bind_some, Option.getD_some, Nat.zero_add,
      isSome_mapM_range_iff, isSome_read_param_iff]
    exact ⟨fun h => ⟨hdescriptor, h⟩, fun h => h.2⟩
  · rw [word_eq_none hdescriptor]
    refine iff_of_false ?_ fun h => hdescriptor h.1
    cases word block src <;> simp

theorem read_param_entry {p : keymaster_key_param_t} (h : read_param block 0 e = some p) :
    p.tag = entryTag block e ∧
      (tag_is_blob p.tag → p.blob.length = entryBlobLength block e) := by
  obtain ⟨tag, htag, hvalue⟩ := Option.bind_eq_some_iff.mp h
  have heq : p.tag = entryTag block e := by
    rw [tag_of_read_value hvalue, entryTag, htag, Option.getD_some]
  refine ⟨heq, ?_⟩
  rw [tag_of_read_value hvalue]
  unfold tag_is_blob read_value at *
  cases htype : keymaster_tag_get_type (UInt32.ofNat tag) with
  | KM_BIGNUM | KM_BYTES =>
      rw [htype] at hvalue
      obtain ⟨blob, hblob, rfl⟩ := Option.map_eq_some_iff.mp hvalue
      simp only [read_blob, Option.bind_eq_bind, Option.bind_eq_some_iff] at hblob
      obtain ⟨offset, -, length, hlength, hload⟩ := hblob
      intro _
      rw [entryBlobLength, hlength, Option.getD_some]
      exact (mapM_range_eq_some_iff.mp hload).1
  | _ => simp

/-- As many allocations as there are blobs; one that fails matters if its blob has bytes. -/
theorem copyBlobs_eq_some_iff {set : List keymaster_key_param_t} {m : Nat} :
    copyBlobs malloc n set = some m ↔
      n + set.countP (fun p => tag_is_blob p.tag) = m ∧
        ∀ i p, set[i]? = some p → tag_is_blob p.tag → 0 < p.blob.length →
          malloc (n + (set.take i).countP fun p => tag_is_blob p.tag) = true := by
  -- each blob takes the next allocation, so the claim is for every `n`
  induction set generalizing n with
  | nil => simp [copyBlobs]
  | cons q set ih =>
      have hsplit : ∀ P : Nat → keymaster_key_param_t → Prop,
          (∀ i p, (q :: set)[i]? = some p → P i p) ↔
            P 0 q ∧ ∀ i p, set[i]? = some p → P (i + 1) p := by
        intro P
        constructor
        · intro h
          exact ⟨h 0 q rfl, fun i p hp => h (i + 1) p hp⟩
        · intro h i p hp
          cases i with
          | zero =>
              obtain rfl := Option.some.inj hp
              exact h.1
          | succ i => exact h.2 i p hp
      rw [hsplit]
      simp only [List.take_zero, List.countP_nil, List.take_succ_cons, List.countP_cons, Nat.add_zero]
      unfold copyBlobs
      cases hblob : tag_is_blob q.tag with
      | false => simp [ih]
      | true =>
          have hnext : ∀ k, n + 1 + k = n + (k + 1) := fun k => by omega
          by_cases hmalloc : malloc n = true ∨ q.blob = []
          · simp only [if_true, if_pos hmalloc, ih, hnext]
            refine and_congr_right fun _ => ⟨fun h => ⟨fun _ hpos => ?_, h⟩, fun h => h.2⟩
            rcases hmalloc with hmalloc | hnil
            · exact hmalloc
            · rw [hnil] at hpos
              exact absurd hpos (Nat.lt_irrefl 0)
          · rw [not_or] at hmalloc
            rw [if_pos rfl, if_neg (not_or.mpr hmalloc)]
            refine iff_of_false nofun fun h => hmalloc.1 (h.2.1 rfl ?_)
            exact List.length_pos_of_ne_nil hmalloc.2

theorem entries_of_copied {set : List keymaster_key_param_t}
    (h : tee_CopyToParamSet block src 0 = some set) :
    setLength block src = set.length ∧
      ∀ i < set.length, read_param block 0 (setEntry block src i) = set[i]? := by
  obtain ⟨params, hparams, hlength, hread⟩ := tee_CopyToParamSet_eq_some_iff.mp h
  unfold setLength setEntry
  rw [hparams, hlength]
  exact ⟨rfl, hread⟩

theorem blobsBefore_eq {set : List keymaster_key_param_t}
    (h : tee_CopyToParamSet block src 0 = some set) {i : Nat} (hi : i ≤ set.length) :
    blobsBefore block src i = (set.take i).countP fun p => tag_is_blob p.tag := by
  obtain ⟨-, hread⟩ := entries_of_copied h
  induction i with
  | zero => rfl
  | succ i ih =>
      have hget : set[i]? = some set[i] := List.getElem?_eq_getElem hi
      have htag := (read_param_entry ((hread i hi).trans hget)).1
      rw [blobsBefore, List.range_succ, List.countP_append, List.take_succ_eq_append_getElem hi,
        List.countP_append, ← ih (Nat.le_of_succ_le hi), List.countP_singleton,
        List.countP_singleton, htag]
      rfl

theorem canCopySet_iff {set : List keymaster_key_param_t}
    (h : tee_CopyToParamSet block src 0 = some set) :
    CanCopySet block src malloc n ↔
      (0 < set.length → malloc n = true) ∧
        ∀ i p, set[i]? = some p → tag_is_blob p.tag → 0 < p.blob.length →
          malloc (n + 1 + (set.take i).countP fun p => tag_is_blob p.tag) = true := by
  obtain ⟨hlength, hread⟩ := entries_of_copied h
  obtain ⟨hdescriptor, hentries⟩ := isSome_tee_CopyToParamSet_iff.mp (Option.isSome_of_eq_some h)
  constructor
  · intro hcopy
    refine ⟨fun hpos => hcopy.table (hlength ▸ hpos), ?_⟩
    intro i p hp hblob hpos
    have hi := (List.getElem?_eq_some_iff.mp hp).1
    obtain ⟨htag, hbytes⟩ := read_param_entry ((hread i hi).trans hp)
    rw [← blobsBefore_eq h (Nat.le_of_lt hi)]
    apply hcopy.blobs i (hlength ▸ hi)
    · rwa [← htag]
    · rwa [← hbytes hblob]
  · rintro ⟨htable, hblobs⟩
    refine ⟨hdescriptor, hentries, fun hpos => htable (hlength ▸ hpos), ?_⟩
    rw [hlength]
    intro i hi hblob hpos
    have hget : set[i]? = some set[i] := List.getElem?_eq_getElem hi
    obtain ⟨htag, hbytes⟩ := read_param_entry ((hread i hi).trans hget)
    rw [← htag] at hblob
    rw [blobsBefore_eq h (Nat.le_of_lt hi)]
    exact hblobs i _ hget hblob (by rwa [hbytes hblob])

theorem copySet_cases (block : List UInt8) (src n : Nat) (malloc : Nat → Bool) :
    (CanCopySet block src malloc n ∧
        ∃ set, copySet malloc n block src = some (set, nextMalloc block src n)) ∨
      (¬ CanCopySet block src malloc n ∧ copySet malloc n block src = none) := by
  unfold copySet nextMalloc
  cases h : tee_CopyToParamSet block src 0 with
  -- something of the set lies outside the block
  | none =>
      right
      refine ⟨fun hcopy => ?_, rfl⟩
      have hsome := isSome_tee_CopyToParamSet_iff.mpr ⟨hcopy.descriptor, hcopy.entries⟩
      rw [h] at hsome
      exact absurd hsome (by decide)
  | some set =>
      rw [canCopySet_iff h, (entries_of_copied h).1, blobsBefore_eq h (Nat.le_refl _),
        List.take_length]
      simp only [Option.bind_eq_bind, Option.bind_some, List.isEmpty_iff_length_eq_zero]
      by_cases hempty : set.length = 0
      -- an empty set needs no table
      · left
        rw [if_pos hempty, if_pos hempty]
        obtain rfl := List.eq_nil_of_length_eq_zero hempty
        exact ⟨⟨fun hpos => absurd hpos (Nat.lt_irrefl 0), fun i p hp => by simp at hp⟩, _, rfl⟩
      · have hpos := Nat.pos_of_ne_zero hempty
        rw [if_neg hempty, if_neg hempty]
        by_cases htable : malloc n = true
        · rw [if_pos htable]
          by_cases hblobs : ∀ i p, set[i]? = some p → tag_is_blob p.tag → 0 < p.blob.length →
              malloc (n + 1 + (set.take i).countP fun p => tag_is_blob p.tag) = true
          · left
            rw [copyBlobs_eq_some_iff.mpr ⟨rfl, hblobs⟩]
            exact ⟨⟨fun _ => htable, hblobs⟩, _, rfl⟩
          · right
            have hnone : copyBlobs malloc (n + 1) set = none := by
              apply Option.eq_none_iff_forall_ne_some.mpr
              exact fun m hm => hblobs (copyBlobs_eq_some_iff.mp hm).2
            rw [hnone]
            exact ⟨fun hcopy => hblobs hcopy.2, rfl⟩
        · right
          rw [if_neg htable]
          exact ⟨fun hcopy => htable (hcopy.1 hpos), rfl⟩

end

/-! ## Results that are copied -/

section

variable {teec : Teec}

theorem isSome_copyCharacteristics_iff {n : Nat} {block : List UInt8} {sw_enforced : Nat} :
    (copyCharacteristics teec n block sw_enforced).isSome ↔
      CanCopyCharacteristics teec n block sw_enforced := by
  unfold copyCharacteristics CanCopyCharacteristics
  rcases copySet_cases block 0 n teec.malloc with
    ⟨hhw, hw, heq⟩ | ⟨hhw, heq⟩
  · rcases copySet_cases block sw_enforced (nextMalloc block 0 n) teec.malloc with
      ⟨hsw, sw, heq'⟩ | ⟨hsw, heq'⟩
    · simp [heq, heq', hhw, hsw]
    · simp [heq, heq', hsw]
  · simp [heq, hhw]

theorem isSome_loadBlock_zero_iff {block : List UInt8} {len : Nat} :
    (loadBlock block 0 len).isSome ↔ len ≤ block.length := by
  rw [isSome_loadBlock_iff]
  omega

theorem isSome_keyOutputs_iff {characteristics : Bool} {sw_enforced : Nat} :
    (keyOutputs teec characteristics sw_enforced).isSome ↔
      (teec.success = 0 → CanCopyKey teec characteristics sw_enforced) := by
  unfold keyOutputs CanCopyKey
  rw [← isSome_loadBlock_zero_iff, ← isSome_copyCharacteristics_iff]
  by_cases hsuccess : teec.success = 0
  · cases hmalloc : teec.malloc 0 with
    | false => simp [hsuccess]
    | true =>
        cases loadBlock (teec.buffer 1) 0 (teec.size 1) with
        | none => simp [hsuccess]
        | some data =>
            cases characteristics with
            | false => simp [hsuccess]
            | true =>
                cases copyCharacteristics teec 1 (teec.buffer 2) sw_enforced <;> simp [hsuccess]
  · simp [hsuccess]

theorem isSome_keyCharacteristics_iff :
    (keyCharacteristics teec).isSome ↔
      (teec.success = 0 → CanCopyCharacteristics teec 0 (teec.buffer 3)
        sizeof_tee_keymaster_key_param_set_t) := by
  unfold keyCharacteristics
  rw [← isSome_copyCharacteristics_iff]
  by_cases hsuccess : teec.success = 0
  · cases copyCharacteristics teec 0 (teec.buffer 3) sizeof_tee_keymaster_key_param_set_t <;>
      simp [hsuccess]
  · simp [hsuccess]

theorem isSome_exportedKey_iff :
    (exportedKey teec).isSome ↔
      (teec.success = 0 → teec.malloc 0 = true → teec.size 1 ≤ (teec.buffer 1).length) := by
  unfold exportedKey
  rw [← isSome_loadBlock_zero_iff]
  by_cases hsuccess : teec.success = 0
  · cases teec.malloc 0 with
    | false => simp [hsuccess]
    | true => cases loadBlock (teec.buffer 1) 0 (teec.size 1) <;> simp [hsuccess]
  · simp [hsuccess]

theorem copyOutParams_cases (teec : Teec) (out_params : Bool) :
    (CanCopyOutParams teec out_params ∧
      if 0 < setLength (teec.buffer 1) 0 → out_params = true then
        ∃ set, copyOutParams teec out_params =
          some (some (set, nextMalloc (teec.buffer 1) 0 0))
      else copyOutParams teec out_params = some none) ∨
    (¬ CanCopyOutParams teec out_params ∧ copyOutParams teec out_params = none) := by
  unfold copyOutParams CanCopyOutParams
  by_cases hdescriptor : 8 ≤ (teec.buffer 1).length
  · have hword := word_of_le (show 4 + 4 ≤ (teec.buffer 1).length by omega)
    have hlength : setLength (teec.buffer 1) 0 = (word (teec.buffer 1) 4).getD 0 := rfl
    rw [hword]
    simp only [Option.bind_eq_bind, Option.bind_some, ← hlength]
    by_cases hempty : setLength (teec.buffer 1) 0 = 0
    -- the length is looked at first, and `out_params` only if there is an entry
    · left
      simp [hempty, hdescriptor, nextMalloc]
    · have hpos := Nat.pos_of_ne_zero hempty
      cases out_params with
      | false =>
          left
          simp [hempty, hdescriptor]
      | true =>
          rcases copySet_cases (teec.buffer 1) 0 0 teec.malloc with ⟨hcopy, set, heq⟩ | ⟨hcopy, heq⟩
          · left
            simp [hempty, hdescriptor, hcopy, heq]
          · right
            simp [hempty, hpos, hcopy, heq]
  · right
    rw [word_eq_none hdescriptor]
    exact ⟨fun h => hdescriptor h.1, rfl⟩

theorem isSome_begun_iff (out_params : Bool) :
    (begun teec out_params).isSome ↔
      (teec.success = 0 → CanCopyOutParams teec out_params) := by
  unfold begun
  by_cases hsuccess : teec.success = 0
  · rcases copyOutParams_cases teec out_params with ⟨hcopy, heq⟩ | ⟨hcopy, heq⟩
    · split at heq
      · obtain ⟨set, heq⟩ := heq
        simp [hsuccess, hcopy, heq]
      · simp [hsuccess, hcopy, heq]
    · simp [hsuccess, hcopy, heq]
  · simp [hsuccess]

theorem isSome_copyOutput_iff (n : Nat) (output : Bool) :
    (copyOutput teec n output).isSome ↔ CanCopyOutput teec n output := by
  unfold copyOutput CanCopyOutput
  cases output with
  | false => by_cases hsize : 0 < teec.size 2 <;> simp [hsize]
  | true => cases teec.malloc n <;> simp [isSome_loadBlock_zero_iff]

theorem isSome_updated_iff (out_params output : Bool) :
    (updated teec out_params output).isSome ↔
      (teec.success = 0 → out_params = true ∧ CanCopySet (teec.buffer 1) 0 teec.malloc 0 ∧
        CanCopyOutput teec (nextMalloc (teec.buffer 1) 0 0) output) := by
  unfold updated
  rw [← isSome_copyOutput_iff]
  by_cases hsuccess : teec.success = 0
  · cases out_params with
    | false => simp [hsuccess]
    | true =>
        rcases copySet_cases (teec.buffer 1) 0 0 teec.malloc with ⟨hcopy, set, heq⟩ | ⟨hcopy, heq⟩
        · cases houtput : copyOutput teec (nextMalloc (teec.buffer 1) 0 0) output <;>
            simp [hsuccess, hcopy, heq, houtput]
        · simp [hsuccess, hcopy, heq]
  · simp [hsuccess]

theorem isSome_finished_iff (out_params output : Bool) :
    (finished teec out_params output).isSome ↔
      (teec.success = 0 → CanCopyOutParams teec out_params ∧
        ((0 < setLength (teec.buffer 1) 0 → out_params = true) →
          CanCopyOutput teec (nextMalloc (teec.buffer 1) 0 0) output)) := by
  unfold finished
  rw [← isSome_copyOutput_iff]
  by_cases hsuccess : teec.success = 0
  · rcases copyOutParams_cases teec out_params with ⟨hcopy, heq⟩ | ⟨hcopy, heq⟩
    · split at heq
      · obtain ⟨set, heq⟩ := heq
        rename_i hthere
        cases houtput : copyOutput teec (nextMalloc (teec.buffer 1) 0 0) output with
        | none =>
            refine iff_of_false (by simp [hsuccess, heq, houtput]) fun h => ?_
            exact absurd ((h hsuccess).2 hthere) (by simp)
        | some data => simp [hsuccess, hcopy, heq, houtput]
      · rename_i hthere
        simp [hsuccess, hcopy, heq, hthere]
    · simp [hsuccess, hcopy, heq]
  · simp [hsuccess]

end

/-! ## Calls that return -/

section

variable (teec : Teec) (configured : Bool)

theorem isSome_check_iff {c : Prop} [Decidable c] {err_type : keymaster_error_t} {pool : Handles}
    {outcome : Option Outcome} :
    (if c then failed err_type pool else outcome).isSome ↔ (¬ c → outcome.isSome) := by
  split <;> simp_all [failed]

theorem isSome_finishCall {outputs : Option Outputs} {blocks : List (Option Nat)} {pool : Handles} :
    (finishCall outputs blocks pool).isSome = outputs.isSome := Option.isSome_map

theorem isSome_twoBlocks_iff (outputs : Option Outputs) :
    (twoBlocks teec outputs).isSome ↔
      ((∀ i < 2, teec.allocate i = true) → outputs.isSome) := by
  unfold twoBlocks
  simp only [isSome_check_iff, isSome_finishCall, Bool.not_eq_true', Bool.not_eq_false]
  constructor
  · exact fun h hall => h (hall 0 (by decide)) (hall 1 (by decide))
  · intro h h₀ h₁
    apply h
    intro i hi
    obtain rfl | rfl : i = 0 ∨ i = 1 := by omega
    · exact h₀
    · exact h₁

theorem isSome_threeBlocks_iff (outputs : Option Outputs) :
    (threeBlocks teec outputs).isSome ↔
      ((∀ i < 3, teec.allocate i = true) → outputs.isSome) := by
  unfold threeBlocks
  simp only [isSome_check_iff, isSome_finishCall, Bool.not_eq_true', Bool.not_eq_false]
  constructor
  · exact fun h hall => h (hall 0 (by decide)) (hall 1 (by decide)) (hall 2 (by decide))
  · intro h h₀ h₁ h₂
    apply h
    intro i hi
    obtain rfl | rfl | rfl : i = 0 ∨ i = 1 ∨ i = 2 := by omega
    · exact h₀
    · exact h₁
    · exact h₂

theorem isSome_run_iff (call : Call) :
    (call.run teec configured).isSome ↔ call.Returns teec configured := by
  cases call with
  | Generate_Key dev key_blob characteristics =>
      simp only [Call.run, KeyMaster_V2_Generate_Key, generatedKey, Call.Returns, Call.Invokes,
        Call.CanCopy, isSome_check_iff, isSome_threeBlocks_iff, isSome_keyOutputs_iff]
      simp
  | Get_Key_Characteristics dev characteristics client_id app_data =>
      simp only [Call.run, KeyMaster_V2_Get_Key_Characteristics, Call.Returns, Call.Invokes,
        Call.CanCopy, isSome_check_iff, isSome_finishCall, isSome_keyCharacteristics_iff]
      simp
  | Import_Key dev params key_data key_blob characteristics =>
      simp only [Call.run, KeyMaster_V2_Import_Key, importedKey, Call.Returns, Call.Invokes,
        Call.CanCopy, isSome_check_iff, isSome_finishCall, isSome_keyOutputs_iff]
      simp
  | Export_Key dev key_material export_data =>
      simp only [Call.run, KeyMaster_V2_Export_Key, Call.Returns, Call.Invokes, Call.CanCopy,
        isSome_check_iff, isSome_twoBlocks_iff, isSome_exportedKey_iff]
      simp
  | Begin dev key_material operation_handle out_params =>
      simp only [Call.run, KeyMaster_V2_Begin, Call.Returns, Call.Invokes, Call.CanCopy,
        isSome_check_iff, isSome_twoBlocks_iff, isSome_begun_iff]
      simp
  | Update dev input input_consumed out_params output =>
      simp only [Call.run, KeyMaster_V2_Update, Call.Returns, Call.Invokes, Call.CanCopy,
        isSome_check_iff, isSome_threeBlocks_iff, isSome_updated_iff]
      simp
  | Finish dev out_params output =>
      simp only [Call.run, KeyMaster_V2_Finish, Call.Returns, Call.Invokes, Call.CanCopy,
        isSome_check_iff, isSome_threeBlocks_iff, isSome_finished_iff]
      simp

end

/-! ## Every block is released -/

/-- Each block that was allocated has been released once, and no other. -/
structure Released (pool : Handles) : Prop where
  once : ∀ h < pool.next, pool.closed.count h = 1
  good : pool.misused = false

/-- `Import_Key` past its checks gets all its blocks, or not the first. -/
def Call.LeakFree (teec : Teec) (configured : Bool) : Call → Prop
  | Import_Key dev params key_data key_blob characteristics =>
      dev = true → params = true → key_data = true → key_blob = true → configured = true →
        teec.allocate 0 = true →
          teec.allocate 1 = true ∧ (characteristics = true → teec.allocate 2 = true)
  | _ => True

instance (pool : Handles) : Decidable (Released pool) :=
  decidable_of_iff ((∀ h < pool.next, pool.closed.count h = 1) ∧ pool.misused = false)
    ⟨fun h => ⟨h.1, h.2⟩, fun h => ⟨h.once, h.good⟩⟩

/-- If the call returns, its blocks are released. -/
def Tidy (outcome : Option Outcome) : Prop := ∀ r, outcome = some r → Released r.pool

theorem tidy_failed_iff (err_type : keymaster_error_t) (pool : Handles) :
    Tidy (failed err_type pool) ↔ Released pool := by
  unfold Tidy failed
  constructor
  · intro h
    exact h _ rfl
  · intro h r hr
    rw [← Option.some.inj hr]
    exact h

theorem tidy_finishCall (outputs : Option Outputs) {blocks : List (Option Nat)} {pool : Handles}
    (h : Released (releaseAll blocks pool)) : Tidy (finishCall outputs blocks pool) := by
  intro r hr
  obtain ⟨o, -, rfl⟩ := Option.map_eq_some_iff.mp hr
  exact h

theorem tidy_check {c : Prop} [Decidable c] {err_type : keymaster_error_t} {outcome : Option Outcome}
    (h : Tidy outcome) : Tidy (if c then failed err_type Handles.empty else outcome) := by
  split
  · exact (tidy_failed_iff _ _).mpr (by decide)
  · exact h

section

variable (teec : Teec) (configured : Bool)

theorem tidy_twoBlocks (outputs : Option Outputs) : Tidy (twoBlocks teec outputs) := by
  unfold twoBlocks
  cases teec.allocate 0 with
  | false => exact (tidy_failed_iff _ _).mpr (by decide)
  | true =>
      cases teec.allocate 1 with
      | false => exact (tidy_failed_iff _ _).mpr (by decide)
      | true => exact tidy_finishCall outputs (by decide)

theorem tidy_threeBlocks (outputs : Option Outputs) : Tidy (threeBlocks teec outputs) := by
  unfold threeBlocks
  cases teec.allocate 0 with
  | false => exact (tidy_failed_iff _ _).mpr (by decide)
  | true =>
      cases teec.allocate 1 with
      | false => exact (tidy_failed_iff _ _).mpr (by decide)
      | true =>
          cases teec.allocate 2 with
          | false => exact (tidy_failed_iff _ _).mpr (by decide)
          | true => exact tidy_finishCall outputs (by decide)

/-- Which blocks there are depends on the arguments and the allocations only. -/
theorem tidy_Get_Key_Characteristics (dev characteristics client_id app_data : Bool) :
    Tidy (KeyMaster_V2_Get_Key_Characteristics teec configured dev characteristics client_id
      app_data) := by
  apply tidy_check
  apply tidy_check
  apply tidy_check
  cases teec.allocate 0 with
  | false => exact (tidy_failed_iff _ _).mpr (by decide)
  | true =>
      cases client_id <;> cases app_data <;> cases teec.allocate 1 <;> cases teec.allocate 2 <;>
        cases teec.allocate 3
      all_goals first
        | exact (tidy_failed_iff _ _).mpr (by decide)
        | exact tidy_finishCall _ (by decide)

theorem tidy_Import_Key_iff (dev params key_data key_blob characteristics : Bool) :
    Tidy (KeyMaster_V2_Import_Key teec configured dev params key_data key_blob characteristics) ↔
      (Call.Import_Key dev params key_data key_blob characteristics).LeakFree teec configured := by
  have hempty := fun err_type => (tidy_failed_iff err_type Handles.empty).mpr (by decide)
  unfold KeyMaster_V2_Import_Key Call.LeakFree
  cases dev <;> cases params <;> cases key_data <;> cases key_blob <;> cases configured
  all_goals try (simp [hempty]; done)
  -- past the checks
  cases h₀ : teec.allocate 0 with
  | false => simp [hempty, TEEC_AllocateSharedMemory]
  | true =>
      cases h₁ : teec.allocate 1 with
      | false =>
          have hleak : ¬ Released Handles.empty.give := by decide
          simp [TEEC_AllocateSharedMemory, tidy_failed_iff, hleak]
      | true =>
          cases characteristics with
          | false =>
              cases h₂ : teec.allocate 2 <;>
                exact iff_of_true (tidy_finishCall _ (by decide)) (by simp)
          | true =>
              cases h₂ : teec.allocate 2 with
              | false =>
                  -- the first of two blocks stays, the second is released
                  have hleak : ¬ Released (releaseAll [some 1] Handles.empty.give.give) := by decide
                  refine iff_of_false ?_ (by simp)
                  intro htidy
                  exact hleak ((tidy_failed_iff _ _).mp htidy)
              | true => exact iff_of_true (tidy_finishCall _ (by decide)) (by simp)

theorem tidy_run_iff (call : Call) :
    Tidy (call.run teec configured) ↔ call.LeakFree teec configured := by
  cases call with
  | Import_Key dev params key_data key_blob characteristics =>
      exact tidy_Import_Key_iff teec configured dev params key_data key_blob characteristics
  | Generate_Key dev key_blob characteristics =>
      exact iff_of_true
        (tidy_check (tidy_check (tidy_check (tidy_threeBlocks teec _)))) trivial
  | Get_Key_Characteristics dev characteristics client_id app_data =>
      exact iff_of_true (tidy_Get_Key_Characteristics _ _ _ _ _ _) trivial
  | Export_Key dev key_material export_data =>
      exact iff_of_true (tidy_check (tidy_check (tidy_check (tidy_twoBlocks teec _)))) trivial
  | Begin dev key_material operation_handle out_params =>
      exact iff_of_true (tidy_check (tidy_check (tidy_check (tidy_twoBlocks teec _)))) trivial
  | Update dev input input_consumed out_params output =>
      exact iff_of_true (tidy_check (tidy_check (tidy_check (tidy_threeBlocks teec _)))) trivial
  | Finish dev out_params output =>
      exact iff_of_true (tidy_check (tidy_check (tidy_threeBlocks teec _))) trivial

/-- A call returns and has released its blocks, unless its results cannot be copied or an import lost
its second or third block. -/
theorem released_iff (call : Call) :
    (∃ outcome, call.run teec configured = some outcome ∧ Released outcome.pool) ↔
      call.Returns teec configured ∧ call.LeakFree teec configured := by
  rw [← isSome_run_iff, ← tidy_run_iff]
  constructor
  · rintro ⟨outcome, hrun, hreleased⟩
    rw [hrun]
    refine ⟨rfl, ?_⟩
    intro r hr
    rwa [← Option.some.inj hr]
  · rintro ⟨hsome, htidy⟩
    obtain ⟨outcome, hrun⟩ := Option.isSome_iff_exists.mp hsome
    exact ⟨outcome, hrun, htidy outcome hrun⟩

end

def importTeec : Teec where
  allocate := fun i => i != 1
  malloc := fun _ => true
  success := 0
  buffer := fun _ => []
  size := fun _ => 0
  value := fun _ => (0, 0)

theorem not_released_import : ∃ outcome,
    (Call.Import_Key true true true true true).run importTeec true = some outcome ∧
      ¬ Released outcome.pool :=
  ⟨_, rfl, by decide⟩

end AwHal.Keymaster
