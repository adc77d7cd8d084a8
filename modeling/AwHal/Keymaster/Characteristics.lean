import AwHal.Keymaster.KeyCalls

/-!
# The characteristics of a key

The trusted application returns the characteristics as two descriptors of 8 bytes and the sets they
describe.  `KeyMaster_V2_Import_Key` reads them through the structure of the host, in which a descriptor
takes 16 bytes.
-/

namespace AwHal.Keymaster

open AwHal.Lib

/-! ## Sets that read alike -/

/-- The entries at `e` and `e'` have the same value in the member that the tag selects. -/
def SameValue (block : List UInt8) (e e' : Nat) (tag : UInt32) : Prop :=
  match keymaster_tag_get_type tag with
  | .KM_INVALID | .other _ => True
  | .KM_ENUM | .KM_ENUM_REP | .KM_UINT | .KM_UINT_REP =>
      word block (e + 8) = word block (e' + 8)
  | .KM_BOOL =>
      (loadBlock block (e + 8) 1).map (fun v => decide (leValue v ≠ 0)) =
        (loadBlock block (e' + 8) 1).map fun v => decide (leValue v ≠ 0)
  | .KM_ULONG | .KM_ULONG_REP | .KM_DATE => longWord block (e + 8) = longWord block (e' + 8)
  | .KM_BIGNUM | .KM_BYTES => read_blob block 0 e = read_blob block 0 e'

/-- Two entries have the same tag and the same value. -/
def SameParam (block : List UInt8) (e e' : Nat) : Prop :=
  word block e = word block e' ∧ ∀ tag ∈ word block e, SameValue block e e' (UInt32.ofNat tag)

/-- The descriptors at `a` and `b` have one length, and their tables the same entries. -/
def SameSet (block : List UInt8) (a b : Nat) : Prop :=
  ∃ length params params',
    word block (a + 4) = some length ∧ word block (b + 4) = some length ∧
      word block a = some params ∧ word block b = some params' ∧
      ∀ i < length, SameParam block (params + 16 * i) (params' + 16 * i)

section

variable {block : List UInt8} {a b e e' : Nat}

theorem length_of_loadBlock {len : Nat} {bytes : List UInt8}
    (h : loadBlock block a len = some bytes) : bytes.length = len :=
  (mapM_range_eq_some_iff.mp h).1

theorem word_lt {v : Nat} (h : word block a = some v) : v < 2 ^ 32 := by
  obtain ⟨bytes, hload, rfl⟩ := Option.map_eq_some_iff.mp h
  have hlt := leValue_lt bytes
  rw [length_of_loadBlock hload] at hlt
  exact hlt

theorem longWord_lt {v : Nat} (h : longWord block a = some v) : v < 2 ^ 64 := by
  obtain ⟨bytes, hload, rfl⟩ := Option.map_eq_some_iff.mp h
  have hlt := leValue_lt bytes
  rw [length_of_loadBlock hload] at hlt
  exact hlt

theorem map_eq_some_iff_eq {α β : Type} {f : α → β} {x x' : Option α} {p : β}
    (hf : ∀ v v', x = some v → x' = some v' → f v = f v' → v = v') (h : x.map f = some p) :
    x'.map f = some p ↔ x = x' := by
  constructor
  · intro h'
    obtain ⟨v, hv, hp⟩ := Option.map_eq_some_iff.mp h
    obtain ⟨v', hv', hp'⟩ := Option.map_eq_some_iff.mp h'
    rw [hv, hv', hf v v' hv hv' (hp.trans hp'.symm)]
  · intro heq
    rw [← heq]
    exact h

theorem ofNat32_inj {v v' : Nat} (hv : v < 2 ^ 32) (hv' : v' < 2 ^ 32)
    (h : UInt32.ofNat v = UInt32.ofNat v') : v = v' := by
  have hnat := congrArg UInt32.toNat h
  rwa [UInt32.toNat_ofNat_of_lt' hv, UInt32.toNat_ofNat_of_lt' hv'] at hnat

theorem ofNat64_inj {v v' : Nat} (hv : v < 2 ^ 64) (hv' : v' < 2 ^ 64)
    (h : UInt64.ofNat v = UInt64.ofNat v') : v = v' := by
  have hnat := congrArg UInt64.toNat h
  rwa [UInt64.toNat_ofNat_of_lt' hv, UInt64.toNat_ofNat_of_lt' hv'] at hnat

theorem read_value_iff {tag : UInt32} {p : keymaster_key_param_t}
    (h : read_value block 0 e tag = some p) :
    read_value block 0 e' tag = some p ↔ SameValue block e e' tag := by
  unfold read_value SameValue at *
  cases htype : keymaster_tag_get_type tag with
  | KM_INVALID | other n =>
      rw [htype] at h
      exact iff_of_true h trivial
  | KM_ENUM | KM_ENUM_REP | KM_UINT | KM_UINT_REP =>
      rw [htype] at h
      refine map_eq_some_iff_eq (fun v v' hv hv' heq => ?_) h
      simp only [keymaster_key_param_t.mk.injEq] at heq
      exact ofNat32_inj (word_lt hv) (word_lt hv') (by tauto)
  | KM_ULONG | KM_ULONG_REP | KM_DATE =>
      rw [htype] at h
      refine map_eq_some_iff_eq (fun v v' hv hv' heq => ?_) h
      simp only [keymaster_key_param_t.mk.injEq] at heq
      exact ofNat64_inj (longWord_lt hv) (longWord_lt hv') (by tauto)
  | KM_BIGNUM | KM_BYTES =>
      rw [htype] at h
      refine map_eq_some_iff_eq (fun v v' _ _ heq => ?_) h
      simp only [keymaster_key_param_t.mk.injEq] at heq
      tauto
  | KM_BOOL =>
      rw [htype] at h
      -- a bool is any value but zero, so the bytes themselves need not be the same
      have hmap : ∀ x : Option (List UInt8),
          (x.map fun v => ({ tag, boolean := leValue v ≠ 0 } : keymaster_key_param_t)) =
            (x.map fun v => decide (leValue v ≠ 0)).map fun v => { tag, boolean := v } := by
        intro x
        rw [Option.map_map]
        rfl
      simp only [hmap] at h ⊢
      refine map_eq_some_iff_eq (fun v v' _ _ heq => ?_) h
      simp only [keymaster_key_param_t.mk.injEq] at heq
      tauto

theorem read_param_iff {p : keymaster_key_param_t} (h : read_param block 0 e = some p) :
    read_param block 0 e' = some p ↔ SameParam block e e' := by
  obtain ⟨tag, htag, hvalue⟩ := Option.bind_eq_some_iff.mp h
  unfold SameParam
  constructor
  · intro h'
    obtain ⟨tag', htag', hvalue'⟩ := Option.bind_eq_some_iff.mp h'
    have heq : tag = tag' := ofNat32_inj (word_lt htag) (word_lt htag')
      ((tag_of_read_value hvalue).symm.trans (tag_of_read_value hvalue'))
    subst heq
    refine ⟨htag.trans htag'.symm, ?_⟩
    intro t ht
    have ht : t = tag := Option.some.inj (ht.symm.trans htag)
    rw [ht]
    exact (read_value_iff hvalue).mp hvalue'
  · intro hsame
    rw [read_param, ← hsame.1, htag]
    exact (read_value_iff hvalue).mpr (hsame.2 tag htag)

theorem sameSet_iff {set : List keymaster_key_param_t}
    (h : tee_CopyToParamSet block a 0 = some set) :
    tee_CopyToParamSet block b 0 = some set ↔ SameSet block a b := by
  obtain ⟨params, hparams, hlength, hread⟩ := tee_CopyToParamSet_eq_some_iff.mp h
  rw [tee_CopyToParamSet_eq_some_iff]
  have hiff : ∀ params', (∀ i < set.length, read_param block 0 (params' + 16 * i) = set[i]?) ↔
      ∀ i < set.length, SameParam block (params + 16 * i) (params' + 16 * i) := by
    intro params'
    apply forall₂_congr
    intro i hi
    have hget : set[i]? = some set[i] := List.getElem?_eq_getElem hi
    rw [hget]
    exact read_param_iff ((hread i hi).trans hget)
  constructor
  · rintro ⟨params', hparams', hlength', hread'⟩
    exact ⟨set.length, params, params', hlength, hlength', hparams, hparams', (hiff params').mp hread'⟩
  · rintro ⟨length, p, params', hlength₁, hlength', hp, hparams', hsame⟩
    have hl : length = set.length := Option.some.inj (hlength₁.symm.trans hlength)
    have hpp : p = params := Option.some.inj (hp.symm.trans hparams)
    subst hl hpp
    exact ⟨params', hparams', hlength', (hiff params').mpr hsame⟩

end

/-! ## What the calls deliver -/

/-- The command and every allocation succeed, and the key lies in its block. -/
structure Serves (teec : Teec) : Prop where
  allocate : ∀ i, teec.allocate i = true
  malloc : ∀ i, teec.malloc i = true
  success : teec.success = 0
  key_material : teec.size 1 ≤ (teec.buffer 1).length

def delivered (outcome : Option Outcome) : Option keymaster_key_characteristics_t :=
  outcome.bind fun outcome => outcome.outputs.characteristics

def readCharacteristics (block : List UInt8) (sw_enforced : Nat) :
    Option keymaster_key_characteristics_t :=
  (tee_CopyToParamSet block 0 0).bind fun hw =>
    (tee_CopyToParamSet block sw_enforced 0).map fun sw => ⟨hw, sw⟩

section

variable {teec : Teec} {block : List UInt8} {malloc : Nat → Bool}

theorem copyBlobs_isSome (hmalloc : ∀ i, malloc i = true) (set : List keymaster_key_param_t)
    (n : Nat) : (copyBlobs malloc n set).isSome := by
  induction set generalizing n with
  | nil => rfl
  | cons p set ih =>
      unfold copyBlobs
      split
      · rw [if_pos (.inl (hmalloc n))]
        exact ih (n + 1)
      · exact ih n

theorem copySet_eq (hmalloc : ∀ i, malloc i = true) (block : List UInt8) (n src : Nat) :
    ∃ next : List keymaster_key_param_t → Nat,
      copySet malloc n block src = (tee_CopyToParamSet block src 0).map fun set => (set, next set) := by
  refine ⟨fun set => if set.isEmpty then n else (copyBlobs malloc (n + 1) set).getD 0, ?_⟩
  unfold copySet
  cases tee_CopyToParamSet block src 0 with
  | none => rfl
  | some set =>
      obtain ⟨k, hk⟩ := Option.isSome_iff_exists.mp (copyBlobs_isSome hmalloc set (n + 1))
      simp only [Option.bind_eq_bind, Option.bind_some, Option.map_some, hmalloc, if_true, hk]
      split <;> simp

theorem copyCharacteristics_eq (h : Serves teec) (n sw_enforced : Nat) :
    copyCharacteristics teec n block sw_enforced = readCharacteristics block sw_enforced := by
  unfold copyCharacteristics readCharacteristics
  obtain ⟨next, hhw⟩ := copySet_eq h.malloc block n 0
  rw [hhw]
  cases tee_CopyToParamSet block 0 0 with
  | none => rfl
  | some hw =>
      obtain ⟨next', hsw⟩ := copySet_eq h.malloc block (next hw) sw_enforced
      simp only [Option.map_some, Option.bind_eq_bind, Option.bind_some, hsw]
      cases tee_CopyToParamSet block sw_enforced 0 with
      | none => rfl
      | some sw => rfl

theorem loadBlock_isSome {len : Nat} (h : len ≤ block.length) :
    ∃ bytes, loadBlock block 0 len = some bytes := by
  refine ⟨block.take len, mapM_range_eq_some_iff.mpr ⟨by simp [h], ?_⟩⟩
  intro i hi
  simp [hi]

theorem keyOutputs_characteristics (h : Serves teec) (sw_enforced : Nat) :
    (keyOutputs teec true sw_enforced).bind Outputs.characteristics =
      readCharacteristics (teec.buffer 2) sw_enforced := by
  obtain ⟨bytes, hbytes⟩ := loadBlock_isSome h.key_material
  unfold keyOutputs
  simp only [h.success, h.malloc, hbytes, copyCharacteristics_eq h, ne_eq, not_true_eq_false,
    if_false, if_true, Option.bind_eq_bind, Option.bind_some]
  cases readCharacteristics (teec.buffer 2) sw_enforced with
  | none => rfl
  | some c => rfl

theorem delivered_finishCall (outputs : Option Outputs) (blocks : List (Option Nat))
    (pool : Handles) :
    delivered (finishCall outputs blocks pool) = outputs.bind Outputs.characteristics := by
  cases outputs <;> rfl

theorem delivered_Generate_Key (h : Serves teec) :
    delivered (KeyMaster_V2_Generate_Key teec true true true true) =
      readCharacteristics (teec.buffer 2) 8 := by
  unfold KeyMaster_V2_Generate_Key threeBlocks
  simp only [h.allocate, Bool.not_true, Bool.false_eq_true, if_false, delivered_finishCall]
  exact keyOutputs_characteristics h 8

theorem delivered_Import_Key (h : Serves teec) :
    delivered (KeyMaster_V2_Import_Key teec true true true true true true) =
      readCharacteristics (teec.buffer 2) 16 := by
  unfold KeyMaster_V2_Import_Key
  simp only [h.allocate, Bool.not_true, Bool.or_false, Bool.and_false, Bool.false_eq_true, if_false,
    delivered_finishCall]
  exact keyOutputs_characteristics h 16

theorem delivered_Get_Key_Characteristics (h : Serves teec) (client_id app_data : Bool) :
    delivered (KeyMaster_V2_Get_Key_Characteristics teec true true true client_id app_data) =
      readCharacteristics (teec.buffer 3) 8 := by
  unfold KeyMaster_V2_Get_Key_Characteristics
  simp only [h.allocate, Bool.not_true, Bool.and_false, Bool.false_eq_true, if_false,
    delivered_finishCall]
  unfold keyCharacteristics
  simp only [h.success, copyCharacteristics_eq h, ne_eq, not_true_eq_false, if_false]
  show ((readCharacteristics (teec.buffer 3) 8).bind _).bind _ = _
  cases readCharacteristics (teec.buffer 3) 8 with
  | none => rfl
  | some c => rfl

end

/-- Both sets of the wire's layout lie in the block. -/
def Holds (block : List UInt8) : Prop :=
  (tee_CopyToParamSet block 0 0).isSome ∧ (tee_CopyToParamSet block 8 0).isSome

/-- The three calls deliver the same sets exactly when the descriptors at 8 and 16 describe the same. -/
theorem characteristics_alike_iff {block : List UInt8} (hblock : Holds block) {g c i : Teec}
    (hg : Serves g) (hc : Serves c) (hi : Serves i) (hgb : g.buffer 2 = block)
    (hcb : c.buffer 3 = block) (hib : i.buffer 2 = block) (client_id app_data : Bool) :
    (delivered (KeyMaster_V2_Generate_Key g true true true true) =
        delivered (KeyMaster_V2_Get_Key_Characteristics c true true true client_id app_data) ∧
      delivered (KeyMaster_V2_Generate_Key g true true true true) =
        delivered (KeyMaster_V2_Import_Key i true true true true true true)) ↔
      SameSet block 8 16 := by
  rw [delivered_Generate_Key hg, delivered_Get_Key_Characteristics hc, delivered_Import_Key hi, hgb,
    hcb, hib]
  obtain ⟨hw, hhw⟩ := Option.isSome_iff_exists.mp hblock.1
  obtain ⟨sw, hsw⟩ := Option.isSome_iff_exists.mp hblock.2
  rw [← sameSet_iff hsw]
  unfold readCharacteristics
  rw [hhw, hsw]
  cases h16 : tee_CopyToParamSet block 16 0 with
  | none => simp
  | some sw' => simp [eq_comm]

def swBlock : List UInt8 :=
  leBytes 4 16 ++ leBytes 4 0 ++ leBytes 4 16 ++ leBytes 4 1 ++
    leBytes 4 0x700001f7 ++ leBytes 4 0 ++ leBytes 8 1

def served (block : List UInt8) : Teec where
  allocate := fun _ => true
  malloc := fun _ => true
  success := 0
  buffer := fun _ => block
  size := fun _ => 0
  value := fun _ => (0, 0)

theorem serves_served (block : List UInt8) : Serves (served block) :=
  ⟨fun _ => rfl, fun _ => rfl, rfl, Nat.zero_le _⟩

/-- One parameter in each set.  The second descriptor is repeated where an import looks for it. -/
def repeatedBlock : List UInt8 :=
  leBytes 4 24 ++ leBytes 4 1 ++ leBytes 4 40 ++ leBytes 4 1 ++ leBytes 4 40 ++ leBytes 4 1 ++
    (leBytes 4 0x30000003 ++ leBytes 4 0 ++ leBytes 8 2048) ++
    (leBytes 4 0x90000259 ++ leBytes 4 0 ++ leBytes 4 56 ++ leBytes 4 3) ++ [1, 2, 3]

theorem sameSet_repeatedBlock : SameSet repeatedBlock 8 16 :=
  ⟨1, 40, 40, by decide, by decide, by decide, by decide, fun _ _ =>
    ⟨rfl, fun tag _ => by unfold SameValue; split <;> first | rfl | trivial⟩⟩

theorem characteristics_alike_repeatedBlock :
    Holds repeatedBlock ∧
      (delivered (KeyMaster_V2_Generate_Key (served repeatedBlock) true true true true) =
          delivered (KeyMaster_V2_Get_Key_Characteristics (served repeatedBlock) true true true true
            true) ∧
        delivered (KeyMaster_V2_Generate_Key (served repeatedBlock) true true true true) =
          delivered (KeyMaster_V2_Import_Key (served repeatedBlock) true true true true true true)) ∧
      delivered (KeyMaster_V2_Generate_Key (served repeatedBlock) true true true true) =
        some ⟨[{ tag := 0x30000003, integer := 2048 }], [{ tag := 0x90000259, blob := [1, 2, 3] }]⟩ := by
  refine ⟨⟨by decide, by decide⟩, ?_, by rfl⟩
  exact (characteristics_alike_iff ⟨by decide, by decide⟩ (serves_served _) (serves_served _)
    (serves_served _) rfl rfl rfl true true).mpr sameSet_repeatedBlock

/-- An import takes the tag of the first entry for a descriptor, and finds no parameter. -/
theorem not_alike_swBlock :
    Holds swBlock ∧
      delivered (KeyMaster_V2_Generate_Key (served swBlock) true true true true) ≠
        delivered (KeyMaster_V2_Import_Key (served swBlock) true true true true true true) := by
  refine ⟨⟨by decide, by decide⟩, ?_⟩
  intro heq
  have hlength := congrArg (Option.map fun c => c.sw_enforced.length) heq
  revert hlength
  decide

end AwHal.Keymaster
