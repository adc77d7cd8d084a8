import AwHal.TuningApp.BufferLeftover

/-!
# The buffers of the server

Three handlers of the server read what a client sends into buffers of a fixed size: configurations
into one that has the size of `struct isp_params_cfg`, scripts into 1024 bytes, and the name of a
sensor into 128 bytes.
-/

namespace AwHal.TuningApp

open Lib

set_option maxRecDepth 10000

/-! ## `sizeof(struct isp_params_cfg)` -/

/-- A struct starts at a multiple of the width of its widest member. -/
def Cfg.align (c : Cfg) : Nat := (c.members.map Member.width).foldl max 1

def alignUp (n align : Nat) : Nat := (n + align - 1) / align * align

def sizeofAll (cfgs : List Cfg) : Nat :=
  alignUp (cfgs.foldl (fun offset c => alignUp offset c.align + c.size) 0)
    ((cfgs.map Cfg.align).foldl max 1)

def isp_test_param_cfg : List Cfg :=
  [.TEST_PUB, .TEST_EXPTIME, .TEST_GAIN, .TEST_FOCUS, .TEST_FORCED, .TEST_ENABLE]

def isp_3a_param_cfg : List Cfg :=
  [.AE_PUB, .AE_PREVIEW_TBL, .AE_CAPTURE_TBL, .AE_VIDEO_TBL, .AE_WIN_WEIGHT, .AE_DELAY, .AWB_PUB,
   .AWB_TEMP_RANGE, .AWB_DIST, .AWB_LIGHT_INFO, .AWB_EXT_LIGHT_INFO, .AWB_SKIN_INFO,
   .AWB_SPECIAL_INFO, .AWB_PRESET_GAIN, .AWB_FAVOR, .AF_VCM_CODE, .AF_OTP, .AF_SPEED,
   .AF_FINE_SEARCH, .AF_REFOCUS, .AF_TOLERANCE, .AF_SCENE]

/-- There is neither `gca` nor `msc` in it; `lca_pf` and `lca_gf` are one struct here. -/
def isp_tuning_param_cfg : List Cfg :=
  [.TUNING_FLASH, .TUNING_FLICKER, .TUNING_VISUAL_ANGLE, .TUNING_GTM, .TUNING_CFA, .TUNING_CTC,
   .TUNING_DIGITAL_GAIN, .TUNING_CCM_LOW, .TUNING_CCM_MID, .TUNING_CCM_HIGH, .TUNING_PLTM,
   .TUNING_LSC, .TUNING_GAMMA, .TUNING_LINEARITY, .TUNING_DISTORTION, .TUNING_BDNF, .TUNING_TDNF,
   .TUNING_CONTRAST, .TUNING_SHARP, .TUNING_CEM, .TUNING_CEM_1, .TUNING_LCA_TBL]

/-- There is no `lca` in it. -/
def isp_dynamic_param_cfg : List Cfg :=
  [.DYNAMIC_LUM_POINT, .DYNAMIC_GAIN_POINT, .DYNAMIC_SHARP, .DYNAMIC_CONTRAST, .DYNAMIC_DENOISE,
   .DYNAMIC_SENSOR_OFFSET, .DYNAMIC_BLACK_LV, .DYNAMIC_DPC, .DYNAMIC_PLTM, .DYNAMIC_DEFOG,
   .DYNAMIC_HISTOGRAM, .DYNAMIC_SATURATION, .DYNAMIC_CEM, .DYNAMIC_TDF, .DYNAMIC_AE, .DYNAMIC_GTM]

/-- Every one of the four starts with a member of four bytes, and has a size that is a multiple of
four. -/
def sizeof_isp_params_cfg : Nat :=
  sizeofAll isp_test_param_cfg + sizeofAll isp_3a_param_cfg + sizeofAll isp_tuning_param_cfg +
    sizeofAll isp_dynamic_param_cfg

theorem sizeof_isp_params_cfg_eq : sizeof_isp_params_cfg = 80152 := by
  decide

/-! ## The selections that do not fit -/

theorem total_filter_le (p : Cfg → Bool) (cfgs : List Cfg) :
    total Cfg.size (cfgs.filter p) ≤ total Cfg.size cfgs := by
  induction cfgs with
  | nil => exact Nat.le_refl _
  | cons c cfgs ih =>
      rw [List.filter_cons]
      split
      · rw [total_cons, total_cons]
        omega
      · rw [total_cons]
        omega

def tables (cfg_ids : Nat) (cfgs : List Cfg) : Nat :=
  total Cfg.size (cfgs.filter fun c => cfg_ids.testBit c.bit)

/-- The tables that do not decide alone whether all fit. -/
def smallTables : List Cfg :=
  [.TUNING_LINEARITY, .TUNING_DISTORTION, .TUNING_BDNF, .TUNING_TDNF, .TUNING_CONTRAST,
   .TUNING_SHARP, .TUNING_LCA_TBL]

/-- More tables than the buffer has room for: the gamma and the mesh shading table, and the lens
shading table or both color enhancement tables with too many of the others. -/
def Oversized (group_id cfg_ids : Nat) : Prop :=
  group_id = 4 ∧ cfg_ids.testBit Cfg.TUNING_GAMMA.bit ∧ cfg_ids.testBit Cfg.TUNING_MSC.bit ∧
    (cfg_ids.testBit Cfg.TUNING_LSC.bit ∨
      cfg_ids.testBit Cfg.TUNING_CEM.bit ∧ cfg_ids.testBit Cfg.TUNING_CEM_1.bit ∧
        2588 < tables cfg_ids smallTables)

theorem tables_cons (cfg_ids : Nat) (c : Cfg) (cfgs : List Cfg) :
    tables cfg_ids (c :: cfgs) =
      (if cfg_ids.testBit c.bit then c.size else 0) + tables cfg_ids cfgs := by
  rw [tables, List.filter_cons]
  split
  · rfl
  · exact (Nat.zero_add _).symm

theorem tables_four (cfg_ids : Nat) :
    total Cfg.size (selected 4 cfg_ids) =
      tables cfg_ids [.TUNING_LSC, .TUNING_GAMMA, .TUNING_CEM, .TUNING_CEM_1, .TUNING_MSC] +
        tables cfg_ids smallTables := by
  show tables cfg_ids [.TUNING_LSC, .TUNING_GAMMA, .TUNING_LINEARITY, .TUNING_DISTORTION,
    .TUNING_BDNF, .TUNING_TDNF, .TUNING_CONTRAST, .TUNING_SHARP, .TUNING_CEM, .TUNING_CEM_1,
    .TUNING_LCA_TBL, .TUNING_MSC] = _
  have hnil : tables cfg_ids [] = 0 := rfl
  simp only [smallTables, tables_cons, hnil]
  omega

theorem total_four_le_iff (cfg_ids : Nat) :
    total Cfg.size (selected 4 cfg_ids) ≤ 80152 ↔ ¬ Oversized 4 cfg_ids := by
  have hsmall : tables cfg_ids smallTables ≤ 4212 :=
    Nat.le_trans (total_filter_le _ _) (by decide)
  have hlsc : Cfg.TUNING_LSC.size = 18464 := by decide
  have hgamma : Cfg.TUNING_GAMMA.size = 30736 := by decide
  have hcem : Cfg.TUNING_CEM.size = 5888 := by decide
  have hcem_1 : Cfg.TUNING_CEM_1.size = 5888 := by decide
  have hmsc : Cfg.TUNING_MSC.size = 35052 := by decide
  have hnil : tables cfg_ids [] = 0 := rfl
  rw [tables_four]
  simp only [tables_cons, hnil, hlsc, hgamma, hcem, hcem_1, hmsc]
  unfold Oversized
  -- the gamma and the mesh shading table leave 14364 bytes, both color tables 2588 of these
  generalize tables cfg_ids smallTables = small at hsmall ⊢
  split_ifs
  all_goals simp_all
  all_goals omega

/-- What is selected fits into the buffer unless it is one of those tables. -/
theorem total_le_iff (group_id cfg_ids : Nat) :
    total Cfg.size (selected group_id cfg_ids) ≤ sizeof_isp_params_cfg ↔
      ¬ Oversized group_id cfg_ids := by
  rw [sizeof_isp_params_cfg_eq]
  by_cases hfour : group_id = 4
  · subst hfour
    exact total_four_le_iff cfg_ids
  · have hle : total Cfg.size ((cfgs group_id).getD []) ≤ 80152 := by
      unfold cfgs
      split
      · decide
      · decide
      · decide
      · contradiction
      · decide
      · decide
    constructor
    · intro _ hover
      exact hfour hover.1
    · intro _
      exact Nat.le_trans (total_filter_le _ _) hle

/-! ## The handlers -/

/-- A text is read, and terminated if all of it has come. -/
def receiveText (data_length : Int) (arrived : List UInt8) (m : Memory) : Memory :=
  -- as many bytes as the client says, whatever the size of the buffer
  let read := arrived.take data_length.toNat
  let m := m.store 0 read
  if (read.length : Int) = data_length then m.store data_length.toNat [0] else m

inductive RegCmd where
  | SOCK_CMD_REG_READ | SOCK_CMD_REG_WRITE | SOCK_CMD_REG_SETCFG | unknown
deriving DecidableEq, Repr

inductive Step where
  | tuning (packet : Packet) (o : Outcome)
  | script (data_length : Int) (arrived : List UInt8)
  | register (type : RegCmd) (data_length : Int) (written : Bool) (arrived : List UInt8)

/-- The tuning connection, the buffer for scripts, and `sensor_name`. -/
structure Buffers where
  server : Server
  script : Memory
  sensor_name : Memory

def Buffers.step (s : Buffers) : Step → Buffers
  | .tuning packet o => { s with server := (s.server.handle packet o).1 }
  | .script data_length arrived =>
      if data_length > 0 then { s with script := receiveText data_length arrived s.script } else s
  | .register .SOCK_CMD_REG_SETCFG data_length written arrived =>
      if written then { s with sensor_name := receiveText data_length arrived s.sensor_name } else s
  | .register _ _ _ _ => s

def Buffers.run (s : Buffers) (steps : List Step) : Buffers := steps.foldl Buffers.step s

def SCRIPT_BUFFER_SIZE : Nat := 1024
def SENSOR_NAME_SIZE : Nat := 128

/-! ## Nothing is written past a buffer -/

def textLength (data_length : Int) (arrived : List UInt8) : Nat :=
  let read := arrived.take data_length.toNat
  if (read.length : Int) = data_length then read.length + 1 else read.length

/-- What is got, and what is read and then converted in place, has room in the buffer. -/
def Packet.Fits (packet : Packet) (o : Outcome) : Prop :=
  match packet.type with
  | .SOCK_CMD_GET_CFG => o.select_isp.isSome → o.tuning → ∀ params m,
      (isp_tuning_get_cfg params packet.group_id packet.cfg_ids m).1 ≤ sizeof_isp_params_cfg
  | .SOCK_CMD_SET_CFG => o.select_isp.isSome → o.written →
      let read := o.arrived.take packet.data_length.toNat
      read.length ≤ sizeof_isp_params_cfg ∧
        ((read.length : Int) = packet.data_length →
          total Cfg.size (selected packet.group_id packet.cfg_ids) ≤ sizeof_isp_params_cfg)
  | _ => True

def Step.Fits : Step → Prop
  | .tuning packet o => packet.Fits o
  | .script data_length arrived =>
      data_length > 0 → textLength data_length arrived ≤ SCRIPT_BUFFER_SIZE
  | .register type data_length written arrived =>
      type = .SOCK_CMD_REG_SETCFG → written → textLength data_length arrived ≤ SENSOR_NAME_SIZE

/-- The bytes past the buffers are as they were. -/
structure Contained (s t : Buffers) : Prop where
  tuning : ∀ x, sizeof_isp_params_cfg ≤ x → t.server.buffer x = s.server.buffer x
  script : ∀ x, SCRIPT_BUFFER_SIZE ≤ x → t.script x = s.script x
  sensor_name : ∀ x, SENSOR_NAME_SIZE ≤ x → t.sensor_name x = s.sensor_name x

/-- Every packet fits, and no state that is reached has a byte changed past a buffer. -/
structure Safe (s : Buffers) (steps : List Step) : Prop where
  fits : ∀ step ∈ steps, step.Fits
  contained : ∀ n, Contained s (s.run (steps.take n))

/-- A text leaves room for its terminator, or not all of it arrives and the rest has room. -/
def TextBounded (capacity : Nat) (data_length : Int) (arrived : List UInt8) : Prop :=
  data_length < capacity ∨ (arrived.length < data_length ∧ arrived.length ≤ capacity)

def Packet.Bounded (packet : Packet) (o : Outcome) : Prop :=
  match packet.type with
  | .SOCK_CMD_GET_CFG => o.select_isp.isSome → o.tuning →
      ¬ Oversized packet.group_id packet.cfg_ids
  | .SOCK_CMD_SET_CFG => o.select_isp.isSome → o.written →
      (packet.data_length ≤ 80152 ∨ o.arrived.length ≤ 80152) ∧
        (0 ≤ packet.data_length → packet.data_length ≤ o.arrived.length →
          ¬ Oversized packet.group_id packet.cfg_ids)
  | _ => True

/-- What a client may send. -/
def Step.Bounded : Step → Prop
  | .tuning packet o => packet.Bounded o
  | .script data_length arrived => data_length > 0 → TextBounded 1024 data_length arrived
  | .register type data_length written arrived =>
      type = .SOCK_CMD_REG_SETCFG → written → TextBounded 128 data_length arrived

theorem textLength_le_iff {capacity : Nat} {data_length : Int} {arrived : List UInt8} :
    textLength data_length arrived ≤ capacity ↔ TextBounded capacity data_length arrived := by
  unfold textLength TextBounded
  simp only [List.length_take]
  split
  · omega
  · omega

theorem getCfg_le_iff (params : Params) (group_id cfg_ids : Nat) (m : Memory) :
    (isp_tuning_get_cfg params group_id cfg_ids m).1 ≤ sizeof_isp_params_cfg ↔
      ¬ Oversized group_id cfg_ids := by
  rw [← total_le_iff, ← getCfg_length params group_id cfg_ids m]
  omega

theorem Packet.fits_iff (packet : Packet) (o : Outcome) : packet.Fits o ↔ packet.Bounded o := by
  unfold Packet.Fits Packet.Bounded
  split
  · simp only [getCfg_le_iff, forall_const]
  · have hsize := sizeof_isp_params_cfg_eq
    apply imp_congr_right
    intro _
    apply imp_congr_right
    intro _
    simp only [List.length_take]
    have hcomplete : ((min packet.data_length.toNat o.arrived.length : Nat) : Int) =
        packet.data_length ↔ 0 ≤ packet.data_length ∧ packet.data_length ≤ o.arrived.length := by
      omega
    apply and_congr
    · omega
    · rw [hcomplete, total_le_iff, and_imp]
  · rfl

theorem Step.fits_iff (step : Step) : step.Fits ↔ step.Bounded := by
  cases step with
  | tuning packet o => exact packet.fits_iff o
  | script data_length arrived => exact imp_congr_right fun _ => textLength_le_iff
  | register type data_length written arrived =>
      exact imp_congr_right fun _ => imp_congr_right fun _ => textLength_le_iff

/-! ## Runs -/

theorem receiveText_outside {capacity : Nat} {data_length : Int} {arrived : List UInt8}
    (h : textLength data_length arrived ≤ capacity) {x : Nat} (hx : capacity ≤ x) (m : Memory) :
    receiveText data_length arrived m x = m x := by
  unfold textLength at h
  unfold receiveText
  dsimp only at h ⊢
  split at h
  · rename_i hall
    rw [if_pos hall, Memory.store_outside (.inr (by simp; omega)),
      Memory.store_outside (.inr (by omega))]
  · rename_i hsome
    rw [if_neg hsome, Memory.store_outside (.inr (by omega))]

theorem getCfg_outside {s : Server} {packet : Packet} {o : Outcome}
    (h : o.tuning → total Cfg.size (selected packet.group_id packet.cfg_ids) ≤
      sizeof_isp_params_cfg) {x : Nat} (hx : sizeof_isp_params_cfg ≤ x) :
    (s.getCfg packet o).1.buffer x = s.buffer x := by
  unfold Server.getCfg
  split
  · rename_i htuning
    have hle := h htuning
    have hfilled : (isp_tuning_get_cfg (s.params packet.isp_sel) packet.group_id packet.cfg_ids
        s.buffer).2 x = s.buffer x := by
      rw [getCfg_buffer]
      exact walk_outside (confined_get _) (.inr (by omega)) _
    dsimp only
    split
    · have hconverted : convert_tuning_cfg_to_network packet.group_id packet.cfg_ids
          (isp_tuning_get_cfg (s.params packet.isp_sel) packet.group_id packet.cfg_ids
            s.buffer).2 x = _ := walk_outside confined_convert (.inr (by omega)) _
      exact hconverted.trans hfilled
    · exact hfilled
  · rfl

theorem setCfg_outside {s : Server} {packet : Packet} {o : Outcome}
    (h : o.written →
      (o.arrived.take packet.data_length.toNat).length ≤ sizeof_isp_params_cfg ∧
        (((o.arrived.take packet.data_length.toNat).length : Int) = packet.data_length →
          total Cfg.size (selected packet.group_id packet.cfg_ids) ≤ sizeof_isp_params_cfg))
    {x : Nat} (hx : sizeof_isp_params_cfg ≤ x) : (s.setCfg packet o).buffer x = s.buffer x := by
  unfold Server.setCfg
  split
  · rename_i hwritten
    obtain ⟨hread, htotal⟩ := h hwritten
    have hstored : s.buffer.store 0 (o.arrived.take packet.data_length.toNat) x = s.buffer x :=
      Memory.store_outside (.inr (by omega))
    dsimp only
    split
    · rename_i hall
      have hle := htotal hall
      -- conversion and scaling are done in place, up to the end of the last struct
      have hconverted : convert_tuning_cfg_to_local packet.group_id packet.cfg_ids
          (s.buffer.store 0 (o.arrived.take packet.data_length.toNat)) x = _ :=
        walk_outside confined_convert (.inr (by omega)) _
      split
      · show (isp_tuning_set_cfg _ _ _ _).2.2 x = _
        rw [setCfg_eq, setCfgs_buffer_outside (.inr (by omega))]
        exact hconverted.trans hstored
      · exact hconverted.trans hstored
    · exact hstored
  · rfl

theorem handle_outside {s : Server} {packet : Packet} {o : Outcome} (h : packet.Fits o) {x : Nat}
    (hx : sizeof_isp_params_cfg ≤ x) : (s.handle packet o).1.buffer x = s.buffer x := by
  obtain ⟨type, group_id, cfg_ids, data_length, isp_sel⟩ := packet
  cases hselect : o.select_isp with
  | none => cases type <;> simp [Server.handle, hselect]
  | some start =>
      have hsome : o.select_isp.isSome := by rw [hselect]; rfl
      cases type with
      | SOCK_CMD_GET_CFG =>
          simp only [Server.handle, hselect]
          apply getCfg_outside _ hx
          intro htuning
          rw [total_le_iff]
          exact (getCfg_le_iff (fun _ => Memory.zero) _ _ Memory.zero).mp (h hsome htuning _ _)
      | SOCK_CMD_SET_CFG =>
          simp only [Server.handle, hselect]
          exact setCfg_outside (h hsome) hx
      | SOCK_CMD_UPDATE_CFG => simp only [Server.handle, hselect]
      | SOCK_CMD_ISP_SEL => simp only [Server.handle, hselect]
      | unknown => rfl

theorem Contained.refl (s : Buffers) : Contained s s :=
  ⟨fun _ _ => rfl, fun _ _ => rfl, fun _ _ => rfl⟩

theorem Contained.trans {s t u : Buffers} (h : Contained s t) (h' : Contained t u) :
    Contained s u where
  tuning := fun x hx => (h'.tuning x hx).trans (h.tuning x hx)
  script := fun x hx => (h'.script x hx).trans (h.script x hx)
  sensor_name := fun x hx => (h'.sensor_name x hx).trans (h.sensor_name x hx)

theorem contained_step {step : Step} (h : step.Fits) (s : Buffers) : Contained s (s.step step) := by
  cases step with
  | tuning packet o =>
      exact ⟨fun x hx => handle_outside h hx, fun _ _ => rfl, fun _ _ => rfl⟩
  | script data_length arrived =>
      unfold Buffers.step
      dsimp only
      split
      · rename_i hpos
        exact ⟨fun _ _ => rfl, fun x hx => receiveText_outside (h hpos) hx _, fun _ _ => rfl⟩
      · exact Contained.refl s
  | register type data_length written arrived =>
      unfold Buffers.step
      split
      · contradiction
      · contradiction
      · rename_i heq
        cases heq
        split
        · rename_i hwritten
          exact ⟨fun _ _ => rfl, fun _ _ => rfl,
            fun x hx => receiveText_outside (h rfl hwritten) hx _⟩
        · exact Contained.refl s
      · exact Contained.refl s

theorem contained_run {steps : List Step} (h : ∀ step ∈ steps, step.Fits) (s : Buffers) :
    Contained s (s.run steps) := by
  induction steps generalizing s with
  | nil => exact Contained.refl s
  | cons step steps ih =>
      have hstep := contained_step (h step List.mem_cons_self) s
      exact hstep.trans (ih (fun step' hstep' => h step' (List.mem_cons_of_mem step hstep')) _)

/-- The server stays within its buffers if the clients do. -/
theorem safe_iff_bounded (s : Buffers) (steps : List Step) :
    Safe s steps ↔ ∀ step ∈ steps, step.Bounded := by
  constructor
  · intro h step hstep
    exact step.fits_iff.mp (h.fits step hstep)
  · intro h
    have hfits : ∀ step ∈ steps, step.Fits := fun step hstep => step.fits_iff.mpr (h step hstep)
    refine ⟨hfits, ?_⟩
    intro n
    exact contained_run (fun step hstep => hfits step (List.mem_of_mem_take hstep)) s

/-- The terminator of a name of 128 bytes is written behind `sensor_name`. -/
theorem not_safe_sensor_name :
    let s : Buffers := ⟨⟨fun _ _ _ => 0, fun _ => 1⟩, fun _ => 1, fun _ => 1⟩
    let name : Step := .register .SOCK_CMD_REG_SETCFG 128 true (List.replicate 128 97)
    ¬ Safe s [name] ∧ (s.run [name]).sensor_name 128 = 0 ∧ s.sensor_name 128 = 1 := by
  intro s name
  have hbyte : (s.run [name]).sensor_name 128 = 0 := by decide
  refine ⟨?_, hbyte, rfl⟩
  intro h
  have hsame : (s.run [name]).sensor_name 128 = 1 := (h.contained 1).sensor_name 128 (by decide)
  rw [hbyte] at hsame
  exact absurd hsame (by decide)

end AwHal.TuningApp
