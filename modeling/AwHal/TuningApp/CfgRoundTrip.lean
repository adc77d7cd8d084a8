import AwHal.TuningApp.CfgByteOrder
import AwHal.TuningApp.TuningServer

/-!
# Configurations that come back

A client that reads configurations and sends them back unchanged.
-/

namespace AwHal.TuningApp

open Lib

set_option maxRecDepth 10000

/-! ## A buffer that holds the parameters -/

def Holds (params : Params) (m : Memory) : List Member → Nat → Prop
  | [], _ => True
  | f :: members, addr =>
      m.load addr (f.bytes params).length = f.bytes params ∧
        Holds params m members (addr + f.length)

theorem Holds.congr {params : Params} {m m' : Memory} {members : List Member} {addr : Nat}
    (hfits : ∀ f ∈ members, (f.bytes params).length ≤ f.length)
    (hm : ∀ x, addr ≤ x → x < addr + extent (members.map Member.run) → m x = m' x)
    (h : Holds params m members addr) : Holds params m' members addr := by
  induction members generalizing addr with
  | nil => trivial
  | cons f members ih =>
      rw [List.map_cons, extent_cons] at hm
      have hlen : f.length = f.run.length := rfl
      have hfit := hfits f List.mem_cons_self
      have hload : m.load addr (f.bytes params).length = m'.load addr (f.bytes params).length := by
        apply Memory.load_congr
        intro x hlo hhi
        exact hm x hlo (by omega)
      refine ⟨hload ▸ h.1, ih (fun f' hf' => hfits f' (List.mem_cons_of_mem f hf')) ?_ h.2⟩
      intro x hlo hhi
      exact hm x (by omega) (by omega)

theorem Holds.member {params : Params} {m : Memory} {front more : List Member} {f : Member}
    {addr : Nat} (h : Holds params m (front ++ f :: more) addr) :
    m.load (addr + extent (front.map Member.run)) (f.bytes params).length = f.bytes params := by
  induction front generalizing addr with
  | nil => exact h.1
  | cons f' front ih =>
      rw [List.map_cons, extent_cons, ← Nat.add_assoc]
      exact ih h.2

/-! ## `isp_tuning_get_cfg` fills the buffer -/

theorem getMembers_outside {params : Params} {members : List Member} {addr x : Nat}
    (hfits : ∀ f ∈ members, (f.bytes params).length ≤ f.length)
    (hx : x < addr ∨ addr + extent (members.map Member.run) ≤ x) (m : Memory) :
    getMembers params members addr m x = m x := by
  induction members generalizing addr m with
  | nil => rfl
  | cons f members ih =>
      rw [List.map_cons, extent_cons] at hx
      have hlen : f.length = f.run.length := rfl
      have hfit := hfits f List.mem_cons_self
      rw [getMembers, ih (fun f' hf' => hfits f' (List.mem_cons_of_mem f hf')) (by omega)]
      apply Memory.store_outside
      omega

theorem getMembers_holds {params : Params} {members : List Member} {addr : Nat}
    (hfits : ∀ f ∈ members, (f.bytes params).length ≤ f.length) (m : Memory) :
    Holds params (getMembers params members addr m) members addr := by
  induction members generalizing addr m with
  | nil => trivial
  | cons f members ih =>
      have hrest := fun f' hf' => hfits f' (List.mem_cons_of_mem f hf')
      have hfit := hfits f List.mem_cons_self
      refine ⟨?_, ih hrest _⟩
      rw [getMembers]
      -- the other members are behind this one
      have hload : (getMembers params members (addr + f.length)
          (m.store addr (f.bytes params))).load addr (f.bytes params).length =
          (m.store addr (f.bytes params)).load addr (f.bytes params).length := by
        apply Memory.load_congr
        intro x _ hx
        exact getMembers_outside hrest (.inl (by omega)) _
      rw [hload, Memory.load_store]

theorem getMembers_inside {params : Params} {members : List Member} {addr lo hi x : Nat}
    {m m' : Memory} (h : ∀ x, lo ≤ x → x < hi → m x = m' x) (hlo : lo ≤ x) (hhi : x < hi) :
    getMembers params members addr m x = getMembers params members addr m' x := by
  induction members generalizing addr m m' with
  | nil => exact h x hlo hhi
  | cons f members ih =>
      rw [getMembers, getMembers]
      apply ih
      intro y hy hy'
      exact Memory.store_congr (h y hy hy') addr _

theorem Cfg.copied_le (c : Cfg) :
    ∀ f ∈ c.members, (match f.param with | some _ => f.copied | none => 4) ≤ f.length := by
  cases c <;> decide

theorem Cfg.fits (c : Cfg) (params : Params) :
    ∀ f ∈ c.members, (f.bytes params).length ≤ f.length := by
  intro f hf
  have hle := c.copied_le f hf
  unfold Member.bytes
  cases hq : f.param with
  | none =>
      rw [hq] at hle
      exact hle
  | some q =>
      rw [hq] at hle
      show ((params q).load f.pos f.copied).length ≤ f.length
      rw [Memory.length_load]
      exact hle

theorem confined_get (params : Params) :
    Confined Cfg.size fun c => getMembers params c.members where
  outside := fun c _ m _ hx =>
    getMembers_outside (c.fits params) (by have := c.extent_le_size; omega) m
  inside := fun _ _ _ _ h _ hx hx' => getMembers_inside h hx hx'

/-! ## `isp_tuning_set_cfg` reads what it holds -/

theorem setMembers_of_holds {params : Params} {m : Memory} {members : List Member} {addr : Nat}
    (h : Holds params m members addr) : setMembers members addr m params = params := by
  induction members generalizing addr with
  | nil => rfl
  | cons f members ih =>
      rw [setMembers]
      have hload := h.1
      unfold Member.bytes at hload
      split
      · rename_i q hq
        rw [hq, Memory.length_load] at hload
        rw [hload, Memory.store_load, Function.update_eq_self]
        exact ih h.2
      · exact ih h.2

theorem setCfgs_of_holds {params : Params} {m : Memory} {cfgs : List Cfg} {addr : Nat}
    (hprepare : ∀ front c more, cfgs = front ++ c :: more →
      c.prepare (addr + total Cfg.size front) m = m)
    (h : ∀ front c more, cfgs = front ++ c :: more →
      Holds params m c.members (addr + total Cfg.size front)) :
    setCfgs cfgs addr m params = (params, m) := by
  induction cfgs generalizing addr with
  | nil => rfl
  | cons c cfgs ih =>
      have hm : c.prepare addr m = m := hprepare [] c cfgs rfl
      have hset : setMembers c.members addr m params = params :=
        setMembers_of_holds (h [] c cfgs rfl)
      rw [setCfgs]
      simp only [hm, hset]
      apply ih
      · intro front c' more hcfgs
        have hnext := hprepare (c :: front) c' more (by rw [hcfgs]; rfl)
        rwa [total_cons, ← Nat.add_assoc] at hnext
      · intro front c' more hcfgs
        have hnext := h (c :: front) c' more (by rw [hcfgs]; rfl)
        rwa [total_cons, ← Nat.add_assoc] at hnext

/-! ## Denoise items -/

theorem leBytes_leValue (bytes : List UInt8) : leBytes bytes.length (leValue bytes) = bytes := by
  induction bytes with
  | nil => rfl
  | cons b bytes ih =>
      have hlt := b.toNat_lt
      have hdiv : (b.toNat + 256 * leValue bytes) / 256 = leValue bytes := by omega
      have hlow : UInt8.ofNat (b.toNat + 256 * leValue bytes) = b := by
        apply UInt8.toNat_inj.mp
        rw [UInt8.toNat_ofNat']
        omega
      rw [List.length_cons, leValue, leBytes, hdiv, ih, hlow]

theorem length_scaleItem (item : List UInt8) : (scaleItem item).length = 88 := by
  simp [scaleItem, List.length_flatMap]

theorem flatMap_elements (width : Nat) (bytes : List UInt8) (n : Nat) :
    (List.range n).flatMap (fun j => (bytes.drop (width * j)).take width) =
      bytes.take (width * n) := by
  induction n with
  | zero => simp
  | succ n ih =>
      rw [List.range_succ, List.flatMap_append, ih, Nat.mul_succ, List.take_add]
      simp

theorem scaleItem_of_one {item : List UInt8} (hlen : item.length = 88)
    (hratio : item.drop 84 = leBytes 4 1) : scaleItem item = item := by
  have hnumber : ∀ j < 22, leBytes 4 (leValue ((item.drop (4 * j)).take 4)) =
      (item.drop (4 * j)).take 4 := by
    intro j hj
    have hfour : ((item.drop (4 * j)).take 4).length = 4 := by
      rw [List.length_take, List.length_drop]
      omega
    have hbytes := leBytes_leValue ((item.drop (4 * j)).take 4)
    rwa [hfour] at hbytes
  have hone : leValue ((item.drop (4 * 21)).take 4) = 1 := by
    rw [hratio]
    rfl
  have hvalues : (List.range 20).flatMap
      (fun j => leBytes 4 (leValue ((item.drop (4 * j)).take 4) * 1)) = item.take (4 * 20) := by
    rw [← flatMap_elements]
    apply List.flatMap_congr
    intro j hj
    rw [List.mem_range] at hj
    rw [Nat.mul_one, hnumber j (by omega)]
  have hratio' : leBytes 4 1 = (item.drop (4 * 20 + 4)).take 4 := by
    rw [hratio]
    rfl
  have hlast : item.take (4 * 20) ++ (item.drop (4 * 20)).take 4 ++
      (item.drop (4 * 20 + 4)).take 4 = item := by
    rw [← List.take_add, ← List.take_add, List.take_of_length_le (by omega)]
  simp only [scaleItem, hone]
  rw [if_neg Nat.one_ne_zero, hvalues, hnumber 20 (by decide), hratio', hlast]

theorem denoise_ratio_member : ∀ i < ISP_DYNAMIC_GROUP_COUNT,
    Cfg.DYNAMIC_DENOISE.members = Cfg.DYNAMIC_DENOISE.members.take (3 * i + 4) ++
      one :: Cfg.DYNAMIC_DENOISE.members.drop (3 * i + 5) ∧
    extent ((Cfg.DYNAMIC_DENOISE.members.take (3 * i + 4)).map Member.run) = 8 + 88 * i + 84 := by
  decide

theorem Holds.denoise_ratio {params : Params} {m : Memory} {addr : Nat}
    (h : Holds params m Cfg.DYNAMIC_DENOISE.members addr) {i : Nat}
    (hi : i < ISP_DYNAMIC_GROUP_COUNT) :
    (m.load (addr + 8 + 88 * i) 88).drop 84 = leBytes 4 1 := by
  obtain ⟨hmembers, hextent⟩ := denoise_ratio_member i hi
  rw [hmembers] at h
  have hload : m.load (addr + extent _) 4 = leBytes 4 1 := h.member
  rw [hextent] at hload
  rw [Memory.drop_load, Nat.add_assoc, Nat.add_assoc, ← Nat.add_assoc 8]
  exact hload

/-- The struct with the denoise items holds ratios of 1, which prepare nothing. -/
theorem Cfg.prepare_of_holds {c : Cfg} {params : Params} {m : Memory} {addr : Nat}
    (h : Holds params m c.members addr) : c.prepare addr m = m := by
  unfold Cfg.prepare
  split
  · funext x
    by_cases hx : x < addr + 8 ∨ addr + 8 + 88 * ISP_DYNAMIC_GROUP_COUNT ≤ x
    · exact Memory.mapElems_outside (fun bytes _ => length_scaleItem bytes) _ hx m
    · obtain ⟨i, j, hi, hj, rfl⟩ := exists_element (by omega : addr + 8 ≤ x)
        (by omega : x < addr + 8 + 88 * ISP_DYNAMIC_GROUP_COUNT)
      rw [Memory.mapElems_inside (fun bytes _ => length_scaleItem bytes) hi hj,
        scaleItem_of_one (Memory.length_load _ _ _) (h.denoise_ratio hi),
        List.getD_eq_getElem _ _ (by simpa using hj), Memory.load_getElem, Nat.add_assoc]
  · rfl

/-! ## There and back -/

def filled (params : Params) (cfgs : List Cfg) (m : Memory) : Memory :=
  walk Cfg.size (fun c => getMembers params c.members) cfgs 0 m

def converted (cfgs : List Cfg) (m : Memory) : Memory :=
  walk Cfg.size (fun c => runAccesses hton c.accesses) cfgs 0 m

theorem filled_holds (params : Params) {front more : List Cfg} {c : Cfg} (m : Memory) :
    Holds params (filled params (front ++ c :: more) m) c.members (total Cfg.size front) := by
  have hstruct : Holds params (getMembers params c.members (total Cfg.size front) m) c.members
      (total Cfg.size front) := getMembers_holds (c.fits params) m
  apply hstruct.congr (c.fits params)
  intro x hlo hhi
  have hle := c.extent_le_size
  have hwalk : filled params (front ++ c :: more) m x =
      getMembers params c.members (0 + total Cfg.size front) m x :=
    walk_inside (confined_get params) (by omega) (by omega) m
  rw [hwalk, Nat.zero_add]

theorem converted_twice {front more : List Cfg} {c : Cfg} {x : Nat}
    (hlo : total Cfg.size front ≤ x) (hhi : x < total Cfg.size front + c.size) (m : Memory) :
    converted (front ++ c :: more) (converted (front ++ c :: more) m) x =
      runAccesses hton c.accesses (total Cfg.size front)
        (runAccesses hton c.accesses (total Cfg.size front) m) x := by
  have hwalk : converted (front ++ c :: more) (converted (front ++ c :: more) m) x =
      runAccesses hton c.accesses (0 + total Cfg.size front)
        (runAccesses hton c.accesses (0 + total Cfg.size front) m) x :=
    walk_walk_inside confined_convert (by omega) (by omega) m
  rwa [Nat.zero_add] at hwalk

theorem Cfg.convert_twice {c : Cfg} (hgtm : c ≠ .TUNING_GTM) (addr : Nat) (m : Memory) (x : Nat) :
    runAccesses hton c.accesses addr (runAccesses hton c.accesses addr m) x = m x := by
  rw [Cfg.convert_apply hgtm, Cfg.convert_apply hgtm, runsIndex_involutive]

/-- The first six members of the struct with `plum_var` come back; both bytes of a `plum_var` are its
sign. -/
theorem convert_twice_gtm_head (addr : Nat) (m : Memory) {x : Nat} (hlo : addr ≤ x)
    (hx : x < addr + 24) :
    runAccesses hton Cfg.TUNING_GTM.accesses addr
      (runAccesses hton Cfg.TUNING_GTM.accesses addr m) x = m x := by
  have hend : x < addr + extent [⟨4, 6⟩] := hx
  have hmem : runsIndex [⟨4, 6⟩] addr x < addr + 24 := (runsIndex_mem hlo hend).2
  rw [convert_gtm_head addr _ hx, convert_gtm_head addr m hmem, runsIndex_involutive]

theorem convert_twice_plum_var (addr : Nat) (m : Memory) {i j : Nat} (hi : i < 9 * 9)
    (hj : j < 2) :
    runAccesses hton Cfg.TUNING_GTM.accesses addr
        (runAccesses hton Cfg.TUNING_GTM.accesses addr m) (addr + 24 + (2 * i + j)) =
      if 128 ≤ m (addr + 24 + 2 * i + 1) then 255 else 0 := by
  have hhigh := convert_plum_var addr m hi (by decide : 1 < 2)
  rw [← Nat.add_assoc] at hhigh
  rw [convert_plum_var addr _ hi hj, hhigh]
  exact sign_eq_self (sign_cases _)

/-- A `plum_var` that is 0 or -1. -/
def PlumVarSign (params : Params) : Prop :=
  ∀ i < 9 * 9,
    params (.isp_tunning_settings .plum_var) (2 * i) =
        params (.isp_tunning_settings .plum_var) (2 * i + 1) ∧
      (params (.isp_tunning_settings .plum_var) (2 * i) = 0 ∨
        params (.isp_tunning_settings .plum_var) (2 * i) = 255)

/-- The bytes of `plum_var` in a buffer that holds the parameters. -/
theorem Holds.plum_var {params : Params} {m : Memory} {addr : Nat}
    (h : Holds params m Cfg.TUNING_GTM.members addr) {k : Nat} (hk : k < 2 * (9 * 9)) :
    m (addr + 24 + k) = params (.isp_tunning_settings .plum_var) k := by
  have hmembers : Cfg.TUNING_GTM.members = Cfg.TUNING_GTM.members.take 6 ++
      u16s (9 * 9) (.isp_tunning_settings .plum_var) :: [] := rfl
  rw [hmembers] at h
  have hload : m.load (addr + 24) (2 * (9 * 9)) =
      (params (.isp_tunning_settings .plum_var)).load 0 (2 * (9 * 9)) := h.member
  have hbyte := congrArg (fun bytes => bytes[k]?) hload
  simpa [Memory.load, hk] using hbyte

/-- What the structs have become when they come back. -/
theorem converted_twice_holds {params : Params} {front more : List Cfg} {c : Cfg}
    (hc : c = .TUNING_GTM → PlumVarSign params) (m : Memory) :
    Holds params (converted (front ++ c :: more) (converted (front ++ c :: more)
      (filled params (front ++ c :: more) m))) c.members (total Cfg.size front) := by
  have hheld : Holds params (filled params (front ++ c :: more) m) c.members _ :=
    filled_holds params m
  generalize filled params (front ++ c :: more) m = m₁ at hheld ⊢
  apply hheld.congr (c.fits params)
  intro x hlo hhi
  have hle := c.extent_le_size
  -- within the struct two walks are two conversions of it
  rw [converted_twice hlo (by omega)]
  by_cases hgtm : c = .TUNING_GTM
  · subst hgtm
    by_cases hx : x < total Cfg.size front + 24
    · rw [convert_twice_gtm_head _ m₁ hlo hx]
    · have hextent : extent (Cfg.TUNING_GTM.members.map Member.run) = 24 + 2 * (9 * 9) := rfl
      obtain ⟨i, j, hi, hj, rfl⟩ := exists_element (Nat.le_of_not_lt hx)
        (by omega : x < total Cfg.size front + 24 + 2 * (9 * 9))
      obtain ⟨hsame, hsign⟩ := hc rfl i hi
      have hhigh := hheld.plum_var (by omega : 2 * i + 1 < 2 * (9 * 9))
      rw [← Nat.add_assoc] at hhigh
      rw [convert_twice_plum_var _ m₁ hi hj, hheld.plum_var (element_lt hi hj), hhigh, ← hsame]
      have hbyte : params (.isp_tunning_settings .plum_var) (2 * i + j) =
          params (.isp_tunning_settings .plum_var) (2 * i) := by
        match j with
        | 0 => rfl
        | 1 => exact hsame.symm
      rw [hbyte, sign_eq_self hsign]
  · rw [Cfg.convert_twice hgtm]

/-! ## What `plum_var` becomes -/

def Member.Touches (f : Member) (q : Param) (x : Nat) : Prop :=
  f.param = some q ∧ f.pos ≤ x ∧ x < f.pos + f.copied

theorem setMembers_untouched {q : Param} {x : Nat} {members : List Member}
    (h : ∀ f ∈ members, ¬ f.Touches q x) (addr : Nat) (m : Memory) (params : Params) :
    setMembers members addr m params q x = params q x := by
  induction members generalizing addr params with
  | nil => rfl
  | cons f members ih =>
      rw [setMembers, ih fun f' hf' => h f' (List.mem_cons_of_mem f hf')]
      cases hp : f.param with
      | none => rfl
      | some p =>
          by_cases heq : p = q
          · subst heq
            simp only [Function.update_self]
            apply Memory.store_outside
            have hno := h f List.mem_cons_self
            rw [Member.Touches, hp] at hno
            rw [Memory.length_load]
            by_contra hin
            exact hno ⟨rfl, by omega, by omega⟩
          · exact congrFun (Function.update_of_ne (Ne.symm heq) _ _) x

theorem setMembers_byte {q : Param} {front more : List Member} {f : Member} (hf : f.param = some q)
    {k : Nat} (hk : k < f.copied) (hmore : ∀ f' ∈ more, ¬ f'.Touches q (f.pos + k)) (addr : Nat)
    (m : Memory) (params : Params) :
    setMembers (front ++ f :: more) addr m params q (f.pos + k) =
      m (addr + extent (front.map Member.run) + k) := by
  induction front generalizing addr params with
  | nil =>
      rw [List.nil_append, setMembers, setMembers_untouched hmore, hf]
      simp only [Function.update_self]
      exact Memory.store_load_inside _ m f.pos addr hk
  | cons f' front ih =>
      rw [List.cons_append, setMembers, ih, List.map_cons, extent_cons, ← Nat.add_assoc]
      rfl

theorem setCfgs_untouched {q : Param} {x : Nat} {cfgs : List Cfg}
    (h : ∀ c ∈ cfgs, ∀ f ∈ c.members, ¬ f.Touches q x) (addr : Nat) (m : Memory)
    (params : Params) : (setCfgs cfgs addr m params).1 q x = params q x := by
  induction cfgs generalizing addr m params with
  | nil => rfl
  | cons c cfgs ih =>
      rw [setCfgs, ih fun c' hc' => h c' (List.mem_cons_of_mem c hc'),
        setMembers_untouched (h c List.mem_cons_self)]

theorem setCfgs_append (front more : List Cfg) (addr : Nat) (m : Memory) (params : Params) :
    setCfgs (front ++ more) addr m params =
      setCfgs more (addr + total Cfg.size front) (setCfgs front addr m params).2
        (setCfgs front addr m params).1 := by
  induction front generalizing addr m params with
  | nil => rfl
  | cons c front ih => rw [List.cons_append, setCfgs, ih, setCfgs, total_cons, Nat.add_assoc]

theorem setCfgs_buffer {cfgs : List Cfg} (h : .DYNAMIC_DENOISE ∉ cfgs) (addr : Nat) (m : Memory)
    (params : Params) : (setCfgs cfgs addr m params).2 = m := by
  induction cfgs generalizing addr params with
  | nil => rfl
  | cons c cfgs ih =>
      have hc : c.prepare addr m = m := by
        unfold Cfg.prepare
        split
        · exact absurd List.mem_cons_self h
        · rfl
      rw [setCfgs]
      simp only [hc]
      exact ih (fun hmem => h (List.mem_cons_of_mem c hmem)) _ _

theorem Cfg.plum_var_only {c : Cfg} (hgtm : c ≠ .TUNING_GTM) :
    ∀ f ∈ c.members, f.param ≠ some (.isp_tunning_settings .plum_var) := by
  revert hgtm
  cases c <;> decide

/-- The struct with `plum_var` is in the third group only, and there once. -/
theorem selected_gtm {group_id cfg_ids : Nat} {front more : List Cfg}
    (h : selected group_id cfg_ids = front ++ .TUNING_GTM :: more) :
    (group_id = 3 ∧ cfg_ids.testBit 3) ∧ .TUNING_GTM ∉ front ∧ .TUNING_GTM ∉ more ∧
      .DYNAMIC_DENOISE ∉ front := by
  have hmem : Cfg.TUNING_GTM ∈ selected group_id cfg_ids := by
    rw [h]
    simp
  rw [selected, List.mem_filter] at hmem
  have hgroup : group_id = 3 := by
    have hgtm := hmem.1
    unfold cfgs at hgtm
    split at hgtm
    all_goals first | rfl | (exfalso; revert hgtm; decide)
  subst hgroup
  have hnodup : (selected 3 cfg_ids).Nodup := List.Nodup.filter _ (by decide)
  have hdenoise : Cfg.DYNAMIC_DENOISE ∉ selected 3 cfg_ids := by
    rw [selected, List.mem_filter]
    intro hmem
    exact absurd hmem.1 (by decide)
  rw [h, List.nodup_append] at hnodup
  rw [h] at hdenoise
  refine ⟨⟨rfl, hmem.2⟩, ?_, ?_, ?_⟩
  · intro hfront
    exact hnodup.2.2 _ hfront _ List.mem_cons_self rfl
  · exact (List.nodup_cons.mp hnodup.2.1).1
  · intro hfront
    exact hdenoise (List.mem_append_left _ hfront)

theorem mem_selected_gtm {cfg_ids : Nat} (h : cfg_ids.testBit 3) :
    .TUNING_GTM ∈ selected 3 cfg_ids := by
  rw [selected, List.mem_filter]
  exact ⟨by decide, h⟩

theorem setCfgs_plum_var {front more : List Cfg} (hfront : .DYNAMIC_DENOISE ∉ front)
    (hmore : .TUNING_GTM ∉ more) (m : Memory) (params : Params) {k : Nat} (hk : k < 2 * (9 * 9)) :
    (setCfgs (front ++ .TUNING_GTM :: more) 0 m params).1 (.isp_tunning_settings .plum_var) k =
      m (total Cfg.size front + 24 + k) := by
  have hother : ∀ c ∈ more, ∀ f ∈ c.members,
      ¬ f.Touches (.isp_tunning_settings .plum_var) k := by
    intro c hc f hf htouches
    refine Cfg.plum_var_only ?_ f hf htouches.1
    rintro rfl
    exact hmore hc
  rw [setCfgs_append, setCfgs, setCfgs_untouched hother, setCfgs_buffer hfront, Nat.zero_add]
  generalize (setCfgs front 0 m params).1 = params'
  generalize total Cfg.size front = addr
  have hset : setMembers (Cfg.TUNING_GTM.members.take 6 ++
      [u16s (9 * 9) (.isp_tunning_settings .plum_var)]) addr m params'
        (.isp_tunning_settings .plum_var) (0 + k) = m (addr + 24 + k) := by
    apply setMembers_byte
    · rfl
    · exact hk
    · exact List.forall_mem_nil _
  rwa [Nat.zero_add] at hset

/-- What is set is what was got, unless `plum_var` has lost its bytes. -/
theorem setCfgs_filled_iff (params : Params) (group_id cfg_ids : Nat) (m : Memory) :
    let cfgs := selected group_id cfg_ids
    (setCfgs cfgs 0 (converted cfgs (converted cfgs (filled params cfgs m))) params).1 = params ↔
      (group_id = 3 → cfg_ids.testBit 3 → PlumVarSign params) := by
  intro cfgs
  constructor
  · intro h hgroup hbit
    subst hgroup
    obtain ⟨front, more, hsel⟩ := List.append_of_mem (mem_selected_gtm hbit)
    obtain ⟨-, hfront, hmore, hdenoise⟩ := selected_gtm hsel
    have hheld : Holds params (filled params cfgs m) Cfg.TUNING_GTM.members
        (total Cfg.size front) := by
      show Holds params (filled params (selected 3 cfg_ids) m) _ _
      rw [hsel]
      exact filled_holds params m
    -- no other struct sets `plum_var`, so its bytes are the ones that came back
    have hset : ∀ i j, i < 9 * 9 → j < 2 →
        params (.isp_tunning_settings .plum_var) (2 * i + j) =
          if 128 ≤ params (.isp_tunning_settings .plum_var) (2 * i + 1) then 255 else 0 := by
      intro i j hi hj
      have hk := element_lt hi hj
      have hsize : total Cfg.size front + 24 + (2 * i + j) <
          total Cfg.size front + Cfg.TUNING_GTM.size := by
        have : Cfg.TUNING_GTM.size = 188 := by decide
        omega
      have hbyte := congrArg (fun params => params (.isp_tunning_settings .plum_var) (2 * i + j)) h
      have hhigh := hheld.plum_var (by omega : 2 * i + 1 < 2 * (9 * 9))
      simp only [cfgs, hsel] at hbyte hhigh
      rw [setCfgs_plum_var hdenoise hmore _ _ hk, converted_twice (by omega) hsize,
        convert_twice_plum_var _ _ hi hj, Nat.add_assoc _ (2 * i), hhigh] at hbyte
      exact hbyte.symm
    intro i hi
    have hlow := hset i 0 hi (by decide)
    have hhigh := hset i 1 hi (by decide)
    refine ⟨hlow.trans hhigh.symm, ?_⟩
    rw [Nat.add_zero] at hlow
    rw [hlow]
    exact sign_cases _
  · intro h
    have hheld : ∀ front c more, cfgs = front ++ c :: more →
        Holds params (converted cfgs (converted cfgs (filled params cfgs m))) c.members
          (0 + total Cfg.size front) := by
      intro front c more hcfgs
      have hplum : c = .TUNING_GTM → PlumVarSign params := by
        rintro rfl
        obtain ⟨⟨hgroup, hbit⟩, -⟩ := selected_gtm hcfgs
        exact h hgroup hbit
      rw [hcfgs, Nat.zero_add]
      exact converted_twice_holds hplum m
    -- a buffer that holds the ratios of 1 is not changed by scaling
    have hset := setCfgs_of_holds
      (fun front c more hcfgs => Cfg.prepare_of_holds (hheld front c more hcfgs)) hheld
    rw [hset]

/-! ## A request and its echo -/

theorem selected_of_invalid {group_id : Nat} (h : ¬ (cfgs group_id).isSome) (cfg_ids : Nat) :
    selected group_id cfg_ids = [] := by
  rw [selected, Option.not_isSome_iff_eq_none.mp h]
  rfl

theorem getCfg_buffer (params : Params) (group_id cfg_ids : Nat) (m : Memory) :
    (isp_tuning_get_cfg params group_id cfg_ids m).2 =
      filled params (selected group_id cfg_ids) m := by
  unfold isp_tuning_get_cfg
  split
  · rfl
  · rename_i hnone
    rw [selected_of_invalid hnone]
    rfl

theorem getCfg_length (params : Params) (group_id cfg_ids : Nat) (m : Memory) :
    (isp_tuning_get_cfg params group_id cfg_ids m).1.toNat =
      total Cfg.size (selected group_id cfg_ids) := by
  unfold isp_tuning_get_cfg
  split
  · exact Int.toNat_natCast _
  · rename_i hnone
    rw [selected_of_invalid hnone]
    rfl

theorem setCfg_eq (params : Params) (group_id cfg_ids : Nat) (m : Memory) :
    (isp_tuning_set_cfg params group_id cfg_ids m).2 =
      setCfgs (selected group_id cfg_ids) 0 m params := by
  unfold isp_tuning_set_cfg
  split
  · rfl
  · rename_i hnone
    rw [selected_of_invalid hnone]
    rfl

/-- The client gets the converted structs, which stay in the buffer. -/
theorem handle_get (s : Server) (group_id cfg_ids isp_sel : Nat) (data_length : Int)
    (arrived : List UInt8) :
    let cfgs := selected group_id cfg_ids
    let buffer := converted cfgs (filled (s.params isp_sel) cfgs s.buffer)
    s.handle ⟨.SOCK_CMD_GET_CFG, group_id, cfg_ids, data_length, isp_sel⟩ (.ok arrived) =
      ({ s with buffer := buffer }, buffer.load 0 (total Cfg.size cfgs)) := by
  intro cfgs buffer
  show Server.getCfg _ _ _ = _
  simp only [Server.getCfg, Outcome.ok, if_true, getCfg_buffer, getCfg_length]
  split
  · rfl
  · rename_i hret
    have hnone : total Cfg.size cfgs = 0 := by
      have hlength := getCfg_length (id s.params isp_sel) group_id cfg_ids s.buffer
      show total Cfg.size (selected group_id cfg_ids) = 0
      omega
    -- nothing is selected, so there is nothing to convert
    have hsame : buffer = filled (s.params isp_sel) cfgs s.buffer := by
      funext x
      exact walk_outside confined_convert (.inr (by omega)) _
    rw [hsame, hnone]
    rfl

theorem handle_set (s : Server) (group_id cfg_ids isp_sel : Nat) (arrived : List UInt8) :
    let cfgs := selected group_id cfg_ids
    (s.handle ⟨.SOCK_CMD_SET_CFG, group_id, cfg_ids, arrived.length, isp_sel⟩
      (.ok arrived)).1.params =
        Function.update s.params isp_sel (setCfgs cfgs 0
          (converted cfgs (s.buffer.store 0 arrived)) (s.params isp_sel)).1 := by
  intro cfgs
  show (Server.setCfg _ _ _).params = _
  simp only [Server.setCfg, Outcome.ok, if_true, Int.toNat_natCast, List.take_length, setCfg_eq]
  rfl

/-- What is sent back is converted once more, and set. -/
theorem handle_set_get (s : Server) (group_id cfg_ids isp_sel : Nat) (data_length : Int)
    (arrived : List UInt8) :
    let got := s.handle ⟨.SOCK_CMD_GET_CFG, group_id, cfg_ids, data_length, isp_sel⟩ (.ok arrived)
    let set := got.1.handle ⟨.SOCK_CMD_SET_CFG, group_id, cfg_ids, got.2.length, isp_sel⟩
      (.ok got.2)
    let cfgs := selected group_id cfg_ids
    set.1.params = Function.update s.params isp_sel (setCfgs cfgs 0
      (converted cfgs (converted cfgs (filled (s.params isp_sel) cfgs s.buffer)))
        (s.params isp_sel)).1 := by
  intro got set cfgs
  have hset := handle_set got.1 group_id cfg_ids isp_sel got.2
  have hgot : got = _ := handle_get s group_id cfg_ids isp_sel data_length arrived
  show (Server.handle got.1 _ _).1.params = _
  rw [hset, hgot]
  simp only [Memory.store_load]
  rfl

/-- Configurations that are sent back as they came leave the parameters as they are, unless `plum_var`
is among them and has a number other than 0 and -1. -/
theorem set_get_iff_plumVarSign (s : Server) (group_id cfg_ids isp_sel : Nat) (data_length : Int)
    (arrived : List UInt8) :
    let got := s.handle ⟨.SOCK_CMD_GET_CFG, group_id, cfg_ids, data_length, isp_sel⟩ (.ok arrived)
    let set := got.1.handle ⟨.SOCK_CMD_SET_CFG, group_id, cfg_ids, got.2.length, isp_sel⟩
      (.ok got.2)
    set.1.params = s.params ↔
      (group_id = 3 → cfg_ids.testBit 3 → PlumVarSign (s.params isp_sel)) := by
  intro got set
  rw [handle_set_get s group_id cfg_ids isp_sel data_length arrived, Function.update_eq_self_iff]
  exact setCfgs_filled_iff (s.params isp_sel) group_id cfg_ids s.buffer

/-- A `plum_var` of 0x0101 comes back as 0. -/
theorem not_set_get_plum_var :
    let s : Server := ⟨fun _ _ _ => 1, fun _ => 0⟩
    let got := s.handle ⟨.SOCK_CMD_GET_CFG, 3, 8, 0, 0⟩ (.ok [])
    let set := got.1.handle ⟨.SOCK_CMD_SET_CFG, 3, 8, got.2.length, 0⟩ (.ok got.2)
    set.1.params ≠ s.params := by
  intro s got set h
  rw [handle_set_get s 3 8 0 0 [], Function.update_eq_self_iff] at h
  have hsign : PlumVarSign fun _ _ => 1 :=
    (setCfgs_filled_iff (s.params 0) 3 8 s.buffer).mp h rfl (by decide)
  exact absurd (hsign 0 (by decide)).2 (by decide)

end AwHal.TuningApp
