import AwHal.TuningApp.BufferLeftover
import Mathlib.Data.List.Flatten

/-!
# Getting and setting configurations

`isp_tuning_get_cfg` and `isp_tuning_set_cfg` are walks of their own over the same structs.  What one
writes the other reads, up to the ratio of a denoise item, which has no parameter, and the half of
`awb_skin_info` that is not copied.
-/

namespace AwHal.TuningApp

open Lib

set_option maxRecDepth 10000

/-! ## The bytes of a parameter -/

/-- The members have no byte of a parameter in common. -/
def Member.Apart (f g : Member) : Prop :=
  f.param = g.param → f.param.isSome → f.pos + f.copied ≤ g.pos ∨ g.pos + g.copied ≤ f.pos

instance : DecidableRel Member.Apart := fun f g =>
  inferInstanceAs (Decidable (f.param = g.param → f.param.isSome → _))

theorem Cfg.members_apart (c : Cfg) : c.members.Pairwise Member.Apart := by
  cases c <;> decide +kernel

def Param.base : Param → Param
  | .isp_dynamic_cfg _ p => .isp_dynamic_cfg 0 p
  | q => q

def Cfg.bases (c : Cfg) : List Param :=
  (c.members.filterMap fun f => f.param.map Param.base).dedup

theorem Cfg.apart_of_bases {c c' : Cfg} (h : ∀ q ∈ c.bases, q ∉ c'.bases) :
    ∀ f ∈ c.members, ∀ g ∈ c'.members, f.Apart g := by
  intro f hf g hg heq hsome
  obtain ⟨q, hq⟩ := Option.isSome_iff_exists.mp hsome
  have hmem {c : Cfg} {f : Member} (hf : f ∈ c.members) (hq : f.param = some q) :
      q.base ∈ c.bases := by
    rw [Cfg.bases, List.mem_dedup, List.mem_filterMap]
    exact ⟨f, hf, by rw [hq]; rfl⟩
  exact absurd (hmem hg (heq ▸ hq)) (h _ (hmem hf hq))

theorem members_apart (group_id : Nat) :
    (((cfgs group_id).getD []).flatMap Cfg.members).Pairwise Member.Apart := by
  rw [List.pairwise_flatMap]
  refine ⟨fun c _ => c.members_apart, ?_⟩
  unfold cfgs
  split
  · decide +kernel
  · decide +kernel
  · decide +kernel
  · decide +kernel
  · -- the structs with an item for each mapping point are compared without their numbers
    have hbases : ((cfgs 5).getD []).Pairwise fun c c' => ∀ q ∈ c.bases, q ∉ c'.bases := by
      decide +kernel
    exact hbases.imp Cfg.apart_of_bases
  · exact List.Pairwise.nil

theorem Member.Apart.not_touches {f g : Member} {q : Param} (h : f.Apart g) (hf : f.param = some q)
    {k : Nat} (hk : k < f.copied) : ¬ g.Touches q (f.pos + k) := by
  rintro ⟨hg, hlo, hhi⟩
  have hdisjoint := h (hf.trans hg.symm) (by rw [hf]; rfl)
  omega

/-- No other selected member is copied to the bytes of a member. -/
theorem selected_apart {group_id cfg_ids : Nat} {front more : List Cfg} {c : Cfg}
    {before after : List Member} {f : Member}
    (hsel : selected group_id cfg_ids = front ++ c :: more)
    (hc : c.members = before ++ f :: after) :
    (∀ g ∈ after, f.Apart g) ∧ ∀ c' ∈ more, ∀ g ∈ c'.members, f.Apart g := by
  have hapart : ((selected group_id cfg_ids).flatMap Cfg.members).Pairwise Member.Apart :=
    (members_apart group_id).sublist (List.filter_sublist.flatMap Cfg.members)
  rw [hsel, List.flatMap_append, List.flatMap_cons, hc, List.append_assoc, List.cons_append] at hapart
  have hbehind := (List.pairwise_append.mp (List.pairwise_append.mp hapart).2.1).2.1
  have hf := (List.pairwise_cons.mp hbehind).1
  constructor
  · intro g hg
    exact hf g (List.mem_append_left _ hg)
  · intro c' hc' g hg
    exact hf g (List.mem_append_right _ (List.mem_flatMap.mpr ⟨c', hc', hg⟩))

/-! ## What is got after it was set -/

def setParams (params : Params) (group_id cfg_ids : Nat) (d : Memory) : Params :=
  (isp_tuning_set_cfg params group_id cfg_ids d).2.1

def gotBuffer (params : Params) (group_id cfg_ids : Nat) (m : Memory) : Memory :=
  (isp_tuning_get_cfg params group_id cfg_ids m).2

theorem gotBuffer_holds {group_id cfg_ids : Nat} {front more : List Cfg} {c : Cfg}
    (hsel : selected group_id cfg_ids = front ++ c :: more) (params : Params) (m : Memory) :
    Holds params (gotBuffer params group_id cfg_ids m) c.members (total Cfg.size front) := by
  rw [gotBuffer, getCfg_buffer, hsel]
  exact filled_holds params m

theorem gotBuffer_member {group_id cfg_ids : Nat} {front more : List Cfg} {c : Cfg}
    {before after : List Member} {f : Member}
    (hsel : selected group_id cfg_ids = front ++ c :: more)
    (hc : c.members = before ++ f :: after) (hf : f.param.isSome) (params : Params)
    (d m : Memory) :
    (gotBuffer (setParams params group_id cfg_ids d) group_id cfg_ids m).load
        (total Cfg.size front + extent (before.map Member.run)) f.copied =
      (c.prepare (total Cfg.size front) d).load
        (total Cfg.size front + extent (before.map Member.run)) f.copied := by
  obtain ⟨q, hq⟩ := Option.isSome_iff_exists.mp hf
  obtain ⟨hafter, hmore⟩ := selected_apart hsel hc
  have hheld := gotBuffer_holds hsel (setParams params group_id cfg_ids d) m
  rw [hc] at hheld
  -- the buffer has the bytes of the parameter, and these are the ones that were set
  have hbytes : f.bytes (setParams params group_id cfg_ids d) =
      (setParams params group_id cfg_ids d q).load f.pos f.copied := by
    rw [Member.bytes, hq]
  have hload := hheld.member
  rw [hbytes, Memory.length_load] at hload
  rw [hload]
  apply List.map_congr_left
  intro k hk
  rw [List.mem_range] at hk
  -- the struct has room for what is copied
  have hsize : extent (before.map Member.run) + k < c.size := by
    have hfit := c.fits params f (by rw [hc]; simp)
    have hle := c.extent_le_size
    rw [hc, List.map_append, List.map_cons, extent_append, extent_cons] at hle
    rw [Member.bytes, hq] at hfit
    simp only [Memory.length_load] at hfit
    have hlen : f.length = f.run.length := rfl
    omega
  rw [setParams, setCfg_eq, hsel]
  exact setCfgs_byte hc hq hk (fun g hg => (hafter g hg).not_touches hq hk)
    (fun c' hc' g hg => (hmore c' hc' g hg).not_touches hq hk) hsize d params

/-! ## Denoise items -/

theorem take_drop_flatMap {α : Type} {width : Nat} (g : Nat → List α)
    (hg : ∀ j, (g j).length = width) {n j : Nat} (hj : j < n) :
    (((List.range n).flatMap g).drop (width * j)).take width = g j := by
  induction j generalizing n g with
  | zero =>
      obtain ⟨n, rfl⟩ := Nat.exists_eq_succ_of_ne_zero (Nat.ne_of_gt hj)
      rw [List.range_succ_eq_map, List.flatMap_cons, Nat.mul_zero, List.drop_zero]
      exact List.take_left' (hg 0)
  | succ j ih =>
      obtain ⟨n, rfl⟩ := Nat.exists_eq_succ_of_ne_zero (Nat.ne_of_gt (Nat.zero_lt_of_lt hj))
      rw [List.range_succ_eq_map, List.flatMap_cons, Nat.mul_succ, Nat.add_comm, ← List.drop_drop,
        List.drop_left' (hg 0), List.flatMap_map]
      exact ih (fun i => g (i + 1)) (fun i => hg (i + 1)) (Nat.lt_of_succ_lt_succ hj)

def itemNumber (item : List UInt8) (j : Nat) : Nat := leValue ((item.drop (4 * j)).take 4)

/-- The ratio of a denoise item, the last of its numbers; 0 counts as 1. -/
def itemRatio (item : List UInt8) : Nat := if itemNumber item 21 = 0 then 1 else itemNumber item 21

theorem itemRatio_of_one {item : List UInt8} (h : item.drop 84 = leBytes 4 1) :
    itemRatio item = 1 := by
  have hone : itemNumber item 21 = 1 := by
    show leValue ((item.drop 84).take 4) = 1
    rw [h]
    rfl
  rw [itemRatio, hone, if_neg Nat.one_ne_zero]

theorem itemNumber_congr {item item' : List UInt8} (h : item.take 80 = item'.take 80) {j : Nat}
    (hj : j < 20) : itemNumber item j = itemNumber item' j := by
  have hpart (item : List UInt8) :
      (item.drop (4 * j)).take 4 = ((item.take 80).drop (4 * j)).take 4 := by
    rw [List.drop_take, List.take_take, Nat.min_eq_left (by omega)]
  rw [itemNumber, itemNumber, hpart, hpart item', h]

theorem scaleItem_eq (item : List UInt8) : scaleItem item =
    (List.range 20).flatMap (fun j => leBytes 4 (itemNumber item j * itemRatio item)) ++
      leBytes 4 (itemNumber item 20) ++ leBytes 4 (itemRatio item) := rfl

theorem length_scaled (item : List UInt8) :
    ((List.range 20).flatMap fun j => leBytes 4 (itemNumber item j * itemRatio item)).length =
      80 := by
  simp [List.length_flatMap]

theorem itemNumber_scaleItem (item : List UInt8) {j : Nat} (hj : j < 20) :
    itemNumber (scaleItem item) j = itemNumber item j * itemRatio item % 2 ^ 32 := by
  have hlen := length_scaled item
  have hvalue : ((scaleItem item).drop (4 * j)).take 4 =
      leBytes 4 (itemNumber item j * itemRatio item) := by
    rw [scaleItem_eq, List.append_assoc, List.drop_append_of_le_length (by omega),
      List.take_append_of_le_length (by rw [List.length_drop]; omega)]
    exact take_drop_flatMap (fun j => leBytes 4 (itemNumber item j * itemRatio item))
      (fun j => length_leBytes 4 _) hj
  rw [itemNumber, hvalue]
  exact leValue_leBytes_mod 4 _

theorem scaleItem_color {item : List UInt8} (hlen : item.length = 88) :
    ((scaleItem item).drop 80).take 4 = (item.drop 80).take 4 := by
  have hfour : ((item.drop 80).take 4).length = 4 := by
    rw [List.length_take, List.length_drop]
    omega
  have hbytes := leBytes_leValue ((item.drop 80).take 4)
  rw [hfour] at hbytes
  rw [scaleItem_eq, List.append_assoc, List.drop_left' (length_scaled item),
    List.take_left' (length_leBytes 4 _)]
  exact hbytes

def denoiseItem (m : Memory) (addr i : Nat) : List UInt8 := m.load (addr + 8 + 88 * i) 88

theorem denoiseItem_prepare (m : Memory) (addr : Nat) {i : Nat} (hi : i < ISP_DYNAMIC_GROUP_COUNT) :
    denoiseItem (Cfg.DYNAMIC_DENOISE.prepare addr m) addr i = scaleItem (denoiseItem m addr i) :=
  Memory.load_mapElems (fun bytes _ => length_scaleItem bytes) hi m

def denoiseValue (m : Memory) (addr i j : Nat) : Nat :=
  itemNumber (denoiseItem m addr i) j * itemRatio (denoiseItem m addr i) % 2 ^ 32

/-! ## The laws -/

/-- What comes back of a struct at `addr` that was set from `d`: of each member `part` bytes, and of
the denoise items the numbers times the ratios. -/
structure Cfg.Returns (part : Member → Nat) (c : Cfg) (addr : Nat) (d m : Memory) : Prop where
  members : ∀ before f after, c.members = before ++ f :: after → f.param.isSome →
    (∀ i, f.param ≠ some (.isp_dynamic_cfg i .denoise_cfg)) →
      m.load (addr + extent (before.map Member.run)) (part f) =
        d.load (addr + extent (before.map Member.run)) (part f)
  denoise : c = .DYNAMIC_DENOISE → ∀ i < ISP_DYNAMIC_GROUP_COUNT, ∀ j < 20,
    denoiseValue m addr i j = denoiseValue d addr i j

/-- Getting and setting between the parameters, a buffer `d` to set from and a buffer `m` to get
into. -/
structure Lens (part : Member → Nat) (params : Params) (group_id cfg_ids : Nat) (d m : Memory) :
    Prop where
  set_get : setParams params group_id cfg_ids (gotBuffer params group_id cfg_ids m) = params
  get_set : ∀ front c more, selected group_id cfg_ids = front ++ c :: more →
    c.Returns part (total Cfg.size front) d
      (gotBuffer (setParams params group_id cfg_ids d) group_id cfg_ids m)
  length : (isp_tuning_get_cfg params group_id cfg_ids m).1 =
    (isp_tuning_set_cfg params group_id cfg_ids d).1
  frame : ∀ q x, (∀ c ∈ selected group_id cfg_ids, ∀ f ∈ c.members, ¬ f.Touches q x) →
    setParams params group_id cfg_ids d q x = params q x

theorem setParams_gotBuffer (params : Params) (group_id cfg_ids : Nat) (m : Memory) :
    setParams params group_id cfg_ids (gotBuffer params group_id cfg_ids m) = params := by
  have hheld : ∀ front c more, selected group_id cfg_ids = front ++ c :: more →
      Holds params (gotBuffer params group_id cfg_ids m) c.members (0 + total Cfg.size front) := by
    intro front c more hsel
    rw [Nat.zero_add]
    exact gotBuffer_holds hsel params m
  rw [setParams, setCfg_eq,
    setCfgs_of_holds (fun front c more hsel => Cfg.prepare_of_holds (hheld front c more hsel)) hheld]

/-- Where the members of the denoise struct are that are copied but not scaled. -/
theorem denoise_unscaled : ∀ n < Cfg.DYNAMIC_DENOISE.members.length,
    ∀ f ∈ Cfg.DYNAMIC_DENOISE.members[n]?, f.param.isSome →
      (∃ i < ISP_DYNAMIC_GROUP_COUNT, f.param = some (.isp_dynamic_cfg i .denoise_cfg)) ∨
      f.copied = 4 ∧ (extent ((Cfg.DYNAMIC_DENOISE.members.take n).map Member.run) + 4 ≤ 8 ∨
        ∃ i < ISP_DYNAMIC_GROUP_COUNT,
          extent ((Cfg.DYNAMIC_DENOISE.members.take n).map Member.run) = 8 + 88 * i + 80) := by
  decide +kernel

theorem denoise_numbers_member : ∀ i < ISP_DYNAMIC_GROUP_COUNT,
    Cfg.DYNAMIC_DENOISE.members = Cfg.DYNAMIC_DENOISE.members.take (3 * i + 2) ++
      s32s 20 (.isp_dynamic_cfg i .denoise_cfg) :: Cfg.DYNAMIC_DENOISE.members.drop (3 * i + 3) ∧
    extent ((Cfg.DYNAMIC_DENOISE.members.take (3 * i + 2)).map Member.run) = 8 + 88 * i := by
  decide

/-- Preparing a struct leaves its members alone, but for the numbers of the denoise items. -/
theorem Cfg.load_prepare {c : Cfg} {before after : List Member} {f : Member}
    (hc : c.members = before ++ f :: after) (hf : f.param.isSome)
    (hother : ∀ i, f.param ≠ some (.isp_dynamic_cfg i .denoise_cfg)) (addr : Nat) (m : Memory) :
    (c.prepare addr m).load (addr + extent (before.map Member.run)) f.copied =
      m.load (addr + extent (before.map Member.run)) f.copied := by
  by_cases hdenoise : c = .DYNAMIC_DENOISE
  · subst hdenoise
    have hplace := denoise_unscaled before.length (by rw [hc]; simp) f (by rw [hc]; simp) hf
    rw [hc, List.take_left] at hplace
    rcases hplace with ⟨i, -, hscaled⟩ | ⟨hfour, hhead | ⟨i, hi, hcolor⟩⟩
    · exact absurd hscaled (hother i)
    · -- the trigers are in front of the items
      apply Memory.load_congr
      intro x _ hx
      exact Memory.mapElems_outside (fun bytes _ => length_scaleItem bytes) _
        (Or.inl (by omega)) m
    · have hitem : ((denoiseItem (Cfg.DYNAMIC_DENOISE.prepare addr m) addr i).drop 80).take 4 =
          ((denoiseItem m addr i).drop 80).take 4 := by
        rw [denoiseItem_prepare m addr hi]
        exact scaleItem_color (Memory.length_load _ _ _)
      simp only [denoiseItem, Memory.drop_load] at hitem
      rw [Memory.take_load _ _ (by decide), Memory.take_load _ _ (by decide)] at hitem
      rw [hfour, hcolor, ← Nat.add_assoc, ← Nat.add_assoc]
      exact hitem
  · rw [Cfg.prepare_other hdenoise]

theorem returns_gotBuffer {group_id cfg_ids : Nat} {front more : List Cfg} {c : Cfg}
    (hsel : selected group_id cfg_ids = front ++ c :: more) (params : Params) (d m : Memory) :
    c.Returns Member.copied (total Cfg.size front) d
      (gotBuffer (setParams params group_id cfg_ids d) group_id cfg_ids m) where
  members before f after hc hf hother := by
    rw [gotBuffer_member hsel hc hf, Cfg.load_prepare hc hf hother]
  denoise hc i hi j hj := by
    subst hc
    obtain ⟨hmembers, hextent⟩ := denoise_numbers_member i hi
    have hnumbers := gotBuffer_member hsel hmembers rfl params d m
    rw [hextent, ← Nat.add_assoc] at hnumbers
    have hratio := (gotBuffer_holds hsel (setParams params group_id cfg_ids d) m).denoise_ratio hi
    generalize gotBuffer (setParams params group_id cfg_ids d) group_id cfg_ids m = got
      at hnumbers hratio ⊢
    have hitems : (denoiseItem got (total Cfg.size front) i).take 80 =
        (scaleItem (denoiseItem d (total Cfg.size front) i)).take 80 := by
      rw [← denoiseItem_prepare d _ hi, denoiseItem, denoiseItem, Memory.take_load _ _ (by decide),
        Memory.take_load _ _ (by decide)]
      exact hnumbers
    have hone : itemRatio (denoiseItem got (total Cfg.size front) i) = 1 := itemRatio_of_one hratio
    -- the ratio that comes back is 1, and the numbers are the products
    rw [denoiseValue, hone, Nat.mul_one, itemNumber_congr hitems hj,
      itemNumber_scaleItem _ hj, Nat.mod_mod]
    rfl

theorem lens (params : Params) (group_id cfg_ids : Nat) (d m : Memory) :
    Lens Member.copied params group_id cfg_ids d m := by
  refine ⟨setParams_gotBuffer params group_id cfg_ids m, ?_, ?_, ?_⟩
  · intro front c more hsel
    exact returns_gotBuffer hsel params d m
  · unfold isp_tuning_get_cfg isp_tuning_set_cfg
    split <;> rfl
  · intro q x hno
    rw [setParams, setCfg_eq]
    exact setCfgs_untouched hno 0 d params

/-- A number of `awb_skin_info` behind the 160 that are copied. -/
theorem not_lens_skin_info :
    ¬ ∀ params group_id cfg_ids d m, Lens Member.length params group_id cfg_ids d m := by
  intro hall
  have hlens := hall (fun _ => Memory.zero) 2 0x800 (fun x => if x = 4 + 4 * 160 then 1 else 0)
    Memory.zero
  have hreturns := (hlens.get_set [] .AWB_SKIN_INFO [] (by decide)).members
    [isp3a .awb_skin_color_num] _ [] rfl rfl (fun _ => nofun)
  have hbyte := congrArg (fun bytes => bytes[4 * 160]?) hreturns
  exact absurd hbyte (by decide +kernel)

end AwHal.TuningApp
