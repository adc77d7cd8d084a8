import Mathlib.Data.Rat.Floor
import Mathlib.Logic.Function.Basic
import AwHal.Lib.Scaling

/-!
# Applying the configuration

`isp_ctx_config_update` hands the tuned configuration to the modules and to the algorithms.  It also
changes the configuration in three places; the white balance lights are the one where applying it twice is
not applying it once.

The algorithms and the register tables come as binary libraries.  They are parameters, and so is what the
update copies into their parameters and into the modules: none of it is part of `isp_ini_cfg`.
-/

namespace AwHal.Isp

open AwHal.Lib Function

/-! ## The context -/

/-- The members of `struct isp_param_config` that the update itself uses.  `awb_light_info` goes on behind
the table, as the index of the loop does; `others` stands for the members that are only copied. -/
@[ext] structure IniCfg where
  wdr_en : Int32
  gamma_en : Int32
  lsc_en : Int32
  msc_en : Int32
  wdr_cfg : Nat → Int32
  awb_light_num : Int32
  awb_light_info : Nat → Int32
  others : Nat → Int32

inductive Entity where
  | iso | af | ae | awb | gtm | pltm | afs | md | rolloff
deriving DecidableEq, Repr

/-- What the update goes by besides the configuration: the mode of the sensor, the memory of the sensor
module with its white balance table, and which algorithms have their parameters. -/
structure Given where
  wdr_mode : Int32
  otp_enable : Int32
  pwb_table : Nat → UInt16
  has_param : Entity → Bool

/-- `struct isp_lib_context`; `rest` is everything else in it. -/
structure IspContext (σ : Type) where
  isp_ini_cfg : IniCfg
  given : Given
  wb_golden_ratio : Nat → ℚ
  rest : σ

inductive ParamsCmd where
  | ISP_ISO_UPDATE_PARAMS | ISP_AF_INI_DATA | ISP_AE_INI_DATA | ISP_AE_UPDATE_AE_TABLE
  | ISP_AWB_INI_DATA | ISP_GTM_INI_DATA | ISP_ROLLOFF_INI_DATA
deriving DecidableEq, Repr

inductive LibCall where
  | config_wdr (flag : Int32)
  | config_dig_gain (exp_digital_gain : UInt32)
  | config_band_step
  | config_gamma
  | config_lens_table (vcm_std_pos : Int32)
  | config_lens_center
  | config_msc_table (vcm_std_pos : Int32)
  | set_params (entity : Entity) (cmd_type : ParamsCmd)
  | isp_iso_run
deriving DecidableEq, Repr

/-- The places where settings are copied out of the configuration. -/
inductive Copy where
  | features | modules | msc | cem | gains | lsc
  | params (entity : Entity)
  | test_cfg (entity : Entity)
deriving DecidableEq, Repr

structure Outside (σ : Type) where
  call : LibCall → IspContext σ → IspContext σ
  copy : Copy → IspContext σ → σ

variable {σ : Type} (outside : Outside σ)

def Outside.copyTo (c : Copy) (isp_gen : IspContext σ) : IspContext σ :=
  { isp_gen with rest := outside.copy c isp_gen }

def WDR_MODE : Nat := 3
def AWB_LIGHT_SIZE : Nat := 10
def HW_S32_MIN : Int := -2 ^ 31
def HW_S32_MAX : Int := 2 ^ 31 - 1

/-! ## The white balance lights -/

/-- The ratio of a channel: the corner of this module to that of the golden one. -/
def cornerRatio (t : Nat → UInt16) : Nat → ℚ
  | 0 => (max (t 0).toNat 1 : ℚ) / (max (t (0 + 4)).toNat 1 : ℚ)
  | 1 => (max ((t 1).toNat + (t 2).toNat) 1 : ℚ) / (max ((t (1 + 4)).toNat + (t (2 + 4)).toNat) 1 : ℚ)
  | _ => (max (t 3).toNat 1 : ℚ) / (max (t (3 + 4)).toNat 1 : ℚ)

def scaleS32 (ratio : ℚ) (v : Int32) : Int32 :=
  Int32.ofInt (scale HW_S32_MIN HW_S32_MAX ratio v.toInt)

def adjustLight (ratio : Nat → ℚ) (info : Nat → Int32) (i : Nat) : Nat → Int32 :=
  let info := update info (AWB_LIGHT_SIZE * i + 0) (scaleS32 (ratio 0) (info (AWB_LIGHT_SIZE * i + 0)))
  let info := update info (AWB_LIGHT_SIZE * i + 1) (scaleS32 (ratio 1) (info (AWB_LIGHT_SIZE * i + 1)))
  update info (AWB_LIGHT_SIZE * i + 2) (scaleS32 (ratio 2) (info (AWB_LIGHT_SIZE * i + 2)))

def adjustLights (ratio : Nat → ℚ) (awb_light_num : Int32) (info : Nat → Int32) : Nat → Int32 :=
  (List.range awb_light_num.toInt.toNat).foldl (adjustLight ratio) info

def cfgModWb (isp_gen : IspContext σ) : IspContext σ :=
  if isp_gen.given.otp_enable = 1 then
    let ratio := fun k =>
      if k < 3 then cornerRatio isp_gen.given.pwb_table k else isp_gen.wb_golden_ratio k
    let cfg := isp_gen.isp_ini_cfg
    { isp_gen with
      wb_golden_ratio := ratio
      isp_ini_cfg :=
        { cfg with awb_light_info := adjustLights ratio cfg.awb_light_num cfg.awb_light_info } }
  else isp_gen

/-! ## The update -/

def applyEnable (isp_gen : IspContext σ) : IspContext σ :=
  let isp_gen :=
    if isp_gen.given.wdr_mode = 0 then
      { isp_gen with isp_ini_cfg := { isp_gen.isp_ini_cfg with wdr_en := 0 } }
    else isp_gen
  outside.copyTo .features isp_gen

def cfgMod (isp_gen : IspContext σ) : IspContext σ :=
  let isp_gen := outside.copyTo .modules isp_gen
  let isp_gen := outside.call (.config_wdr 1) isp_gen
  let isp_gen := outside.call (.config_dig_gain 1024) isp_gen
  let isp_gen := if isp_gen.isp_ini_cfg.msc_en ≠ 0 then outside.copyTo .msc isp_gen else isp_gen
  let isp_gen := cfgModWb isp_gen
  let isp_gen := outside.call .config_band_step isp_gen
  let isp_gen :=
    if isp_gen.isp_ini_cfg.gamma_en ≠ 0 then outside.call .config_gamma isp_gen else isp_gen
  let isp_gen :=
    if isp_gen.isp_ini_cfg.lsc_en ≠ 0 then
      outside.call .config_lens_center (outside.call (.config_lens_table 512) isp_gen)
    else isp_gen
  let isp_gen :=
    if isp_gen.isp_ini_cfg.msc_en ≠ 0 then outside.call (.config_msc_table 512) isp_gen else isp_gen
  outside.copyTo .cem isp_gen

/-- `__isp_ctx_update_ae_cfg`, which clears the mode of the wide dynamic range. -/
def updateAeCfg (isp_gen : IspContext σ) : IspContext σ :=
  if isp_gen.given.has_param .ae then
    let cfg := isp_gen.isp_ini_cfg
    let isp_gen :=
      { isp_gen with isp_ini_cfg := { cfg with wdr_cfg := update cfg.wdr_cfg WDR_MODE 0 } }
    let isp_gen := outside.copyTo (.params .ae) isp_gen
    let isp_gen := outside.call (.set_params .ae .ISP_AE_INI_DATA) isp_gen
    let isp_gen := outside.copyTo (.test_cfg .ae) isp_gen
    let isp_gen := outside.call (.set_params .ae .ISP_AE_UPDATE_AE_TABLE) isp_gen
    outside.copyTo .gains isp_gen
  else isp_gen

/-- A step of the other updates: settings are copied, or a library is called. -/
inductive Step where
  | copy (c : Copy)
  | call (c : LibCall)
deriving DecidableEq, Repr

def Outside.step (isp_gen : IspContext σ) : Step → IspContext σ
  | .copy c => outside.copyTo c isp_gen
  | .call c => outside.call c isp_gen

def updateCfg (entity : Entity) (steps : List Step) (isp_gen : IspContext σ) : IspContext σ :=
  if isp_gen.given.has_param entity then steps.foldl outside.step isp_gen else isp_gen

/-- `__isp_ctx_update_iso_cfg`, which runs the algorithm as well. -/
def updateIsoCfg : IspContext σ → IspContext σ :=
  updateCfg outside .iso [.copy (.params .iso), .call (.set_params .iso .ISP_ISO_UPDATE_PARAMS),
    .copy (.test_cfg .iso), .call .isp_iso_run]

def updateAfCfg : IspContext σ → IspContext σ :=
  updateCfg outside .af [.copy (.params .af), .call (.set_params .af .ISP_AF_INI_DATA),
    .copy (.test_cfg .af)]

def updateAwbCfg : IspContext σ → IspContext σ :=
  updateCfg outside .awb [.copy (.params .awb), .call (.set_params .awb .ISP_AWB_INI_DATA),
    .copy (.test_cfg .awb)]

def updateGtmCfg : IspContext σ → IspContext σ :=
  updateCfg outside .gtm [.copy (.params .gtm), .call (.set_params .gtm .ISP_GTM_INI_DATA),
    .copy (.test_cfg .gtm)]

def updatePltmCfg : IspContext σ → IspContext σ := updateCfg outside .pltm [.copy (.params .pltm)]

def updateAfsCfg : IspContext σ → IspContext σ := updateCfg outside .afs [.copy (.params .afs)]

def updateMdCfg : IspContext σ → IspContext σ := updateCfg outside .md [.copy (.params .md)]

def updateRolloffCfg : IspContext σ → IspContext σ :=
  updateCfg outside .rolloff [.copy (.params .rolloff),
    .call (.set_params .rolloff .ISP_ROLLOFF_INI_DATA), .copy .lsc]

/-- `__isp_ctx_update`, which is all that `isp_ctx_config_update` does under its lock. -/
def configUpdate (isp_gen : IspContext σ) : IspContext σ :=
  let isp_gen := applyEnable outside isp_gen
  let isp_gen := cfgMod outside isp_gen
  let isp_gen := updateIsoCfg outside isp_gen
  let isp_gen := updateAfCfg outside isp_gen
  let isp_gen := updateAeCfg outside isp_gen
  let isp_gen := updateAwbCfg outside isp_gen
  let isp_gen := updateGtmCfg outside isp_gen
  let isp_gen := updatePltmCfg outside isp_gen
  let isp_gen := updateAfsCfg outside isp_gen
  let isp_gen := updateMdCfg outside isp_gen
  updateRolloffCfg outside isp_gen

/-! ## What the libraries leave alone -/

/-- The libraries read the configuration, and what goes with it, and write their own data. -/
structure Outside.KeepConfig : Prop where
  isp_ini_cfg : ∀ c isp_gen, (outside.call c isp_gen).isp_ini_cfg = isp_gen.isp_ini_cfg
  given : ∀ c isp_gen, (outside.call c isp_gen).given = isp_gen.given

/-- A part of the update that has an effect `change` on the configuration. -/
structure Applies (change : Given → IniCfg → IniCfg) (f : IspContext σ → IspContext σ) : Prop where
  isp_ini_cfg : ∀ isp_gen, (f isp_gen).isp_ini_cfg = change isp_gen.given isp_gen.isp_ini_cfg
  given : ∀ isp_gen, (f isp_gen).given = isp_gen.given

variable {outside}

theorem Applies.comp {change change' : Given → IniCfg → IniCfg} {f f' : IspContext σ → IspContext σ}
    (h : Applies change f) (h' : Applies change' f') :
    Applies (fun given cfg => change' given (change given cfg)) (fun isp_gen => f' (f isp_gen)) where
  isp_ini_cfg isp_gen := by rw [h'.isp_ini_cfg, h.given, h.isp_ini_cfg]
  given isp_gen := by rw [h'.given, h.given]

abbrev Keeps (f : IspContext σ → IspContext σ) : Prop := Applies (fun _ cfg => cfg) f

theorem keeps_copyTo (outside : Outside σ) (c : Copy) : Keeps (outside.copyTo c) where
  isp_ini_cfg _ := rfl
  given _ := rfl

theorem Outside.KeepConfig.keeps (h : outside.KeepConfig) (c : LibCall) : Keeps (outside.call c) where
  isp_ini_cfg := h.isp_ini_cfg c
  given := h.given c

theorem Keeps.ite {p : IspContext σ → Prop} [DecidablePred p] {f : IspContext σ → IspContext σ}
    (h : Keeps f) : Keeps fun isp_gen => if p isp_gen then f isp_gen else isp_gen := by
  constructor
  case isp_ini_cfg =>
    intro isp_gen
    split
    · exact h.isp_ini_cfg isp_gen
    · rfl
  case given =>
    intro isp_gen
    split
    · exact h.given isp_gen
    · rfl

theorem keeps_steps (h : outside.KeepConfig) (steps : List Step) :
    Keeps fun isp_gen => steps.foldl outside.step isp_gen := by
  induction steps with
  | nil => exact ⟨fun _ => rfl, fun _ => rfl⟩
  | cons step steps ih =>
      have hstep : Keeps fun isp_gen => outside.step isp_gen step := by
        cases step with
        | copy c => exact keeps_copyTo outside c
        | call c => exact h.keeps c
      exact hstep.comp ih

theorem keeps_updateCfg (h : outside.KeepConfig) (entity : Entity) (steps : List Step) :
    Keeps (updateCfg outside entity steps) :=
  (keeps_steps h steps).ite

/-! ## What the update does to the configuration -/

def clearWdr (given : Given) (cfg : IniCfg) : IniCfg :=
  if given.wdr_mode = 0 then { cfg with wdr_en := 0 } else cfg

def scaleLights (given : Given) (cfg : IniCfg) : IniCfg :=
  if given.otp_enable = 1 then
    { cfg with
      awb_light_info := adjustLights (cornerRatio given.pwb_table) cfg.awb_light_num cfg.awb_light_info }
  else cfg

def clearWdrMode (given : Given) (cfg : IniCfg) : IniCfg :=
  if given.has_param .ae then { cfg with wdr_cfg := update cfg.wdr_cfg WDR_MODE 0 } else cfg

def updatedCfg (given : Given) (cfg : IniCfg) : IniCfg :=
  clearWdrMode given (scaleLights given (clearWdr given cfg))

theorem adjustLights_congr {ratio ratio' : Nat → ℚ} (h : ∀ k < 3, ratio k = ratio' k)
    (awb_light_num : Int32) (info : Nat → Int32) :
    adjustLights ratio awb_light_num info = adjustLights ratio' awb_light_num info := by
  have hlight : adjustLight ratio = adjustLight ratio' := by
    ext info i
    simp only [adjustLight, h 0 (by decide), h 1 (by decide), h 2 (by decide)]
  rw [adjustLights, adjustLights, hlight]

theorem applies_cfgModWb : Applies (σ := σ) scaleLights cfgModWb := by
  constructor
  case isp_ini_cfg =>
    intro isp_gen
    rw [cfgModWb, scaleLights]
    split
    · rw [adjustLights_congr (fun k hk => (if_pos hk).symm)]
    · rfl
  case given =>
    intro isp_gen
    rw [cfgModWb]
    split
    · rfl
    · rfl

theorem applies_applyEnable (outside : Outside σ) : Applies clearWdr (applyEnable outside) := by
  have hclear : Applies (σ := σ) clearWdr fun isp_gen =>
      if isp_gen.given.wdr_mode = 0 then
        { isp_gen with isp_ini_cfg := { isp_gen.isp_ini_cfg with wdr_en := 0 } }
      else isp_gen := by
    constructor
    case isp_ini_cfg =>
      intro isp_gen
      rw [clearWdr]
      split
      · rfl
      · rfl
    case given =>
      intro isp_gen
      split
      · rfl
      · rfl
  exact hclear.comp (keeps_copyTo outside .features)

theorem applies_cfgMod (h : outside.KeepConfig) : Applies scaleLights (cfgMod outside) := by
  have hmsc : Keeps fun isp_gen : IspContext σ =>
      if isp_gen.isp_ini_cfg.msc_en ≠ 0 then outside.copyTo .msc isp_gen else isp_gen :=
    (keeps_copyTo outside .msc).ite
  have hgamma : Keeps fun isp_gen : IspContext σ =>
      if isp_gen.isp_ini_cfg.gamma_en ≠ 0 then outside.call .config_gamma isp_gen else isp_gen :=
    (h.keeps .config_gamma).ite
  have hlens : Keeps fun isp_gen : IspContext σ =>
      if isp_gen.isp_ini_cfg.lsc_en ≠ 0 then
        outside.call .config_lens_center (outside.call (.config_lens_table 512) isp_gen)
      else isp_gen :=
    Keeps.ite ((h.keeps (.config_lens_table 512)).comp (h.keeps .config_lens_center))
  have htable : Keeps fun isp_gen : IspContext σ =>
      if isp_gen.isp_ini_cfg.msc_en ≠ 0 then outside.call (.config_msc_table 512) isp_gen
      else isp_gen :=
    (h.keeps (.config_msc_table 512)).ite
  have hbefore := (((keeps_copyTo outside .modules).comp (h.keeps (.config_wdr 1))).comp
    (h.keeps (.config_dig_gain 1024))).comp hmsc
  have hbehind := ((((h.keeps .config_band_step).comp hgamma).comp hlens).comp htable).comp
    (keeps_copyTo outside .cem)
  exact (hbefore.comp applies_cfgModWb).comp hbehind

theorem applies_updateAeCfg (h : outside.KeepConfig) :
    Applies clearWdrMode (updateAeCfg outside) := by
  have htell := keeps_steps h [.copy (.params .ae), .call (.set_params .ae .ISP_AE_INI_DATA),
    .copy (.test_cfg .ae), .call (.set_params .ae .ISP_AE_UPDATE_AE_TABLE), .copy .gains]
  constructor
  case isp_ini_cfg =>
    intro isp_gen
    rw [updateAeCfg, clearWdrMode]
    split
    · exact htell.isp_ini_cfg _
    · rfl
  case given =>
    intro isp_gen
    rw [updateAeCfg]
    split
    · exact htell.given _
    · rfl

theorem applies_configUpdate (h : outside.KeepConfig) :
    Applies updatedCfg (configUpdate outside) := by
  have hiso : Keeps (updateIsoCfg outside) := keeps_updateCfg h _ _
  have haf : Keeps (updateAfCfg outside) := keeps_updateCfg h _ _
  have hawb : Keeps (updateAwbCfg outside) := keeps_updateCfg h _ _
  have hgtm : Keeps (updateGtmCfg outside) := keeps_updateCfg h _ _
  have hpltm : Keeps (updatePltmCfg outside) := keeps_updateCfg h _ _
  have hafs : Keeps (updateAfsCfg outside) := keeps_updateCfg h _ _
  have hmd : Keeps (updateMdCfg outside) := keeps_updateCfg h _ _
  have hrolloff : Keeps (updateRolloffCfg outside) := keeps_updateCfg h _ _
  have hbefore := (((applies_applyEnable outside).comp (applies_cfgMod h)).comp hiso).comp haf
  have hbehind := (((((hawb.comp hgtm).comp hpltm).comp hafs).comp hmd)).comp hrolloff
  exact (hbefore.comp (applies_updateAeCfg h)).comp hbehind

/-! ## The lights after the loop -/

theorem adjustLight_apply (ratio : Nat → ℚ) (info : Nat → Int32) (i j : Nat) :
    adjustLight ratio info i j =
      if j / AWB_LIGHT_SIZE = i ∧ j % AWB_LIGHT_SIZE < 3 then
        scaleS32 (ratio (j % AWB_LIGHT_SIZE)) (info j)
      else info j := by
  have hsize : AWB_LIGHT_SIZE = 10 := rfl
  have hj := Nat.div_add_mod j 10
  have hne : ∀ k k' : Nat, k ≠ k' → 10 * i + k ≠ 10 * i + k' := by omega
  simp only [adjustLight, hsize]
  by_cases hlight : j / 10 = i ∧ j % 10 < 3
  · obtain ⟨hdiv, hmod⟩ := hlight
    rw [if_pos ⟨hdiv, hmod⟩]
    have hplace : j = 10 * i + j % 10 := by omega
    have hcases : j % 10 = 0 ∨ j % 10 = 1 ∨ j % 10 = 2 := by omega
    rcases hcases with hk | hk | hk
    · rw [hk] at hplace ⊢
      rw [hplace, update_of_ne (hne 0 2 (by decide)), update_of_ne (hne 0 1 (by decide)), update_self]
    · rw [hk] at hplace ⊢
      rw [hplace, update_of_ne (hne 1 2 (by decide)), update_self, update_of_ne (hne 1 0 (by decide))]
    · rw [hk] at hplace ⊢
      rw [hplace, update_self, update_of_ne (hne 2 1 (by decide)), update_of_ne (hne 2 0 (by decide))]
  · rw [if_neg hlight, update_of_ne (by omega), update_of_ne (by omega), update_of_ne (by omega)]

theorem foldl_adjustLight (ratio : Nat → ℚ) (info : Nat → Int32) (n j : Nat) :
    (List.range n).foldl (adjustLight ratio) info j =
      if j / AWB_LIGHT_SIZE < n ∧ j % AWB_LIGHT_SIZE < 3 then
        scaleS32 (ratio (j % AWB_LIGHT_SIZE)) (info j)
      else info j := by
  induction n with
  | zero => simp
  | succ n ih =>
      rw [List.range_succ, List.foldl_append, List.foldl_cons, List.foldl_nil, adjustLight_apply, ih]
      by_cases hn : j / AWB_LIGHT_SIZE = n
      · have hlt : j / AWB_LIGHT_SIZE < n + 1 := by omega
        simp only [hn, true_and, lt_irrefl, false_and, if_false, Nat.lt_succ_self]
      · have hlt : j / AWB_LIGHT_SIZE < n + 1 ↔ j / AWB_LIGHT_SIZE < n := by omega
        simp only [hn, false_and, if_false, hlt]

def IsLight (awb_light_num : Int32) (j : Nat) : Prop :=
  j / AWB_LIGHT_SIZE < awb_light_num.toInt.toNat ∧ j % AWB_LIGHT_SIZE < 3

instance (awb_light_num : Int32) (j : Nat) : Decidable (IsLight awb_light_num j) :=
  inferInstanceAs (Decidable (_ ∧ _))

theorem adjustLights_apply (ratio : Nat → ℚ) (awb_light_num : Int32) (info : Nat → Int32) (j : Nat) :
    adjustLights ratio awb_light_num info j =
      if IsLight awb_light_num j then scaleS32 (ratio (j % AWB_LIGHT_SIZE)) (info j) else info j :=
  foldl_adjustLight ratio info _ j

/-! ## Twice -/

theorem cornerRatio_pos (t : Nat → UInt16) (k : Nat) : 0 < cornerRatio t k := by
  have hpos : ∀ a b : ℚ, 0 < max a 1 / max b 1 := by
    intro a b
    exact div_pos (lt_max_of_lt_right one_pos) (lt_max_of_lt_right one_pos)
  unfold cornerRatio
  split
  · exact hpos _ _
  · exact hpos _ _
  · exact hpos _ _

theorem toInt_scaleS32 (ratio : ℚ) (v : Int32) :
    (scaleS32 ratio v).toInt = scale HW_S32_MIN HW_S32_MAX ratio v.toInt := by
  have hmem := saturate_mem (by decide : HW_S32_MIN ≤ HW_S32_MAX) (truncate (v.toInt * ratio))
  rw [scaleS32, Int32.toInt_ofInt, scale]
  have hmin : HW_S32_MIN = -2147483648 := rfl
  have hmax : HW_S32_MAX = 2147483647 := rfl
  exact Int.bmod_eq_of_le (by rw [Int32.size]; omega) (by rw [Int32.size]; omega)

/-- Scaling the word by the ratio again leaves it. -/
def SteadyWord (ratio : ℚ) (v : Int32) : Prop :=
  Steady (if 0 ≤ v.toInt then HW_S32_MAX else -HW_S32_MIN) ratio |v.toInt|

instance (ratio : ℚ) (v : Int32) : Decidable (SteadyWord ratio v) :=
  inferInstanceAs (Decidable (Steady _ _ _))

theorem scaleS32_scaleS32_iff {ratio : ℚ} (hratio : 0 < ratio) (v : Int32) :
    scaleS32 ratio (scaleS32 ratio v) = scaleS32 ratio v ↔ SteadyWord ratio v := by
  rw [← Int32.toInt_inj, toInt_scaleS32, toInt_scaleS32]
  exact scale_scale_iff (by decide) (by decide) hratio v.toInt

theorem updatedCfg_eq (given : Given) (cfg : IniCfg) :
    updatedCfg given cfg =
      { cfg with
        wdr_en := if given.wdr_mode = 0 then 0 else cfg.wdr_en
        wdr_cfg := if given.has_param .ae then update cfg.wdr_cfg WDR_MODE 0 else cfg.wdr_cfg
        awb_light_info :=
          if given.otp_enable = 1 then
            adjustLights (cornerRatio given.pwb_table) cfg.awb_light_num cfg.awb_light_info
          else cfg.awb_light_info } := by
  rw [updatedCfg, clearWdr, scaleLights, clearWdrMode]
  split_ifs
  all_goals rfl

theorem updatedCfg_updatedCfg (given : Given) (cfg : IniCfg) :
    updatedCfg given (updatedCfg given cfg) =
      { updatedCfg given cfg with
        awb_light_info :=
          if given.otp_enable = 1 then
            adjustLights (cornerRatio given.pwb_table) cfg.awb_light_num
              (updatedCfg given cfg).awb_light_info
          else cfg.awb_light_info } := by
  rw [updatedCfg_eq given (updatedCfg given cfg), updatedCfg_eq given cfg]
  split_ifs
  all_goals simp only [update_idem]

theorem updatedCfg_updatedCfg_iff (given : Given) (cfg : IniCfg) :
    updatedCfg given (updatedCfg given cfg) = updatedCfg given cfg ↔
      (given.otp_enable = 1 → ∀ j, IsLight cfg.awb_light_num j →
        SteadyWord (cornerRatio given.pwb_table (j % AWB_LIGHT_SIZE)) (cfg.awb_light_info j)) := by
  have hlights : updatedCfg given (updatedCfg given cfg) = updatedCfg given cfg ↔
      (updatedCfg given (updatedCfg given cfg)).awb_light_info =
        (updatedCfg given cfg).awb_light_info := by
    rw [updatedCfg_updatedCfg, IniCfg.ext_iff]
    simp only [true_and, and_true]
  rw [hlights, updatedCfg_updatedCfg, updatedCfg_eq]
  by_cases hotp : given.otp_enable = 1
  · simp only [hotp, if_true, forall_const]
    rw [funext_iff]
    apply forall_congr'
    intro j
    rw [adjustLights_apply, adjustLights_apply]
    by_cases hj : IsLight cfg.awb_light_num j
    · rw [if_pos hj, if_pos hj, scaleS32_scaleS32_iff (cornerRatio_pos _ _)]
      simp only [hj, forall_const]
    · simp only [hj, if_false, false_imp_iff]
  · simp only [hotp, if_false, false_imp_iff]

/-- The configuration after two updates is the one after the first exactly when the sensor module has no
data of its own, or scaling leaves every channel of every light. -/
theorem configUpdate_configUpdate_iff (h : outside.KeepConfig) (isp_gen : IspContext σ) :
    (configUpdate outside (configUpdate outside isp_gen)).isp_ini_cfg =
        (configUpdate outside isp_gen).isp_ini_cfg ↔
      (isp_gen.given.otp_enable = 1 → ∀ j, IsLight isp_gen.isp_ini_cfg.awb_light_num j →
        SteadyWord (cornerRatio isp_gen.given.pwb_table (j % AWB_LIGHT_SIZE))
          (isp_gen.isp_ini_cfg.awb_light_info j)) := by
  have happlies := applies_configUpdate h
  rw [happlies.isp_ini_cfg, happlies.given, happlies.isp_ini_cfg]
  exact updatedCfg_updatedCfg_iff _ _

/-! ## Many updates -/

/-- A light is scaled once more by every update. -/
theorem configUpdate_iterate_light (h : outside.KeepConfig) (isp_gen : IspContext σ)
    (hotp : isp_gen.given.otp_enable = 1) {j : Nat}
    (hj : IsLight isp_gen.isp_ini_cfg.awb_light_num j) (n : Nat) :
    ((configUpdate outside)^[n] isp_gen).isp_ini_cfg.awb_light_info j =
      (scaleS32 (cornerRatio isp_gen.given.pwb_table (j % AWB_LIGHT_SIZE)))^[n]
        (isp_gen.isp_ini_cfg.awb_light_info j) := by
  have happlies := applies_configUpdate h
  have hgiven : ∀ n, ((configUpdate outside)^[n] isp_gen).given = isp_gen.given ∧
      ((configUpdate outside)^[n] isp_gen).isp_ini_cfg.awb_light_num =
        isp_gen.isp_ini_cfg.awb_light_num := by
    intro n
    induction n with
    | zero => exact ⟨rfl, rfl⟩
    | succ n ih =>
        rw [iterate_succ_apply', happlies.given, happlies.isp_ini_cfg, updatedCfg_eq]
        exact ih
  induction n with
  | zero => rfl
  | succ n ih =>
      obtain ⟨hgiven, hnum⟩ := hgiven n
      rw [iterate_succ_apply', iterate_succ_apply', happlies.isp_ini_cfg, updatedCfg_eq]
      dsimp only
      rw [hgiven, if_pos hotp, adjustLights_apply, hnum, if_pos hj, ih]

/-! ## Instances -/

def idle : Outside Unit where
  call _ isp_gen := isp_gen
  copy _ isp_gen := isp_gen.rest

def otpContext (corner : UInt16) (info : Nat → Int32) : IspContext Unit where
  isp_ini_cfg :=
    { wdr_en := 0, gamma_en := 1, lsc_en := 1, msc_en := 1, wdr_cfg := fun _ => 0, awb_light_num := 1
      awb_light_info := info, others := fun _ => 0 }
  given :=
    { wdr_mode := 0, otp_enable := 1, has_param := fun _ => true
      pwb_table := fun i => if i = 0 then corner else 100 }
  wb_golden_ratio := fun _ => 1
  rest := ()

/-- A module like the golden one. -/
theorem configUpdate_golden :
    (configUpdate idle (configUpdate idle (otpContext 100 fun _ => 256))).isp_ini_cfg =
      (configUpdate idle (otpContext 100 fun _ => 256)).isp_ini_cfg := by
  have hkeep : idle.KeepConfig := ⟨fun _ _ => rfl, fun _ _ => rfl⟩
  apply (configUpdate_configUpdate_iff hkeep _).mpr
  intro _ j hj
  have hone : ∀ k < 3, cornerRatio (otpContext 100 fun _ => 256).given.pwb_table k = 1 := by
    decide +kernel
  exact Or.inl (hone _ hj.2)

/-- A module whose red corner is 10 percent above the golden one. -/
theorem not_configUpdate_idempotent :
    ¬ ∀ isp_gen : IspContext Unit,
      (configUpdate idle (configUpdate idle isp_gen)).isp_ini_cfg =
        (configUpdate idle isp_gen).isp_ini_cfg := by
  intro hall
  have hlight := congrArg (fun cfg => cfg.awb_light_info 0) (hall (otpContext 110 fun _ => 1000))
  exact absurd hlight (by decide +kernel)

end AwHal.Isp
