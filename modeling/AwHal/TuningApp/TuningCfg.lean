import AwHal.Lib.ByteRuns

/-!
# Tuning configurations

`isp_tuning_get_cfg` and `isp_tuning_set_cfg` copy between the parameters of an ISP and a buffer
that holds one struct for each selected bit of a group; `convert_tuning_cfg_func` changes the byte
order of such a buffer.  All of this is for `ISP_VERSION` 522 on a little-endian host.
-/

namespace AwHal.TuningApp

open Lib

/-! ## `struct isp_param_config` -/

inductive TestParam where
  | isp_test_mode | isp_test_exptime | exp_line_start | exp_line_step | exp_line_end
  | exp_change_interval | isp_test_gain | gain_start | gain_step | gain_end | gain_change_interval
  | isp_test_focus | focus_start | focus_step | focus_end | focus_change_interval | isp_log_param
  | isp_gain | isp_exp_line | isp_color_temp | ae_forced | lum_forced | manual_en | afs_en
  | sharp_en | contrast_en | denoise_en | drc_en | cem_en | lsc_en | msc_en | gamma_en | cm_en
  | ae_en | af_en | awb_en | hist_en | blc_en | so_en | wb_en | otf_dpc_en | cfa_en | tdf_en
  | cnr_en | lca_en | gca_en | satur_en | defog_en | linear_en | gtm_en | dig_gain_en | pltm_en
  | wdr_en | ctc_en
deriving DecidableEq, Repr

inductive Isp3aParam where
  | define_ae_table | ae_max_lv | ae_table_preview_length | ae_table_capture_length
  | ae_table_video_length | ae_table_preview | ae_table_capture | ae_table_video | ae_win_weight
  | ae_hist_mod_en | ae_hist_sel | ae_stat_sel | ae_ki | ae_ConvDataIndex | ae_blowout_pre_en
  | ae_blowout_attr | ae_delay_frame | exp_delay_frame | gain_delay_frame | exp_comp_step
  | ae_touch_dist_ind | ae_iso2gain_ratio | ae_fno_step | wdr_cfg | awb_interval | awb_speed
  | awb_stat_sel | awb_color_temper_low | awb_color_temper_high | awb_base_temper
  | awb_green_zone_dist | awb_blue_sky_dist | awb_light_num | awb_ext_light_num
  | awb_skin_color_num | awb_special_color_num | awb_light_info | awb_ext_light_info
  | awb_skin_color_info | awb_special_color_info | awb_preset_gain | awb_rgain_favor
  | awb_bgain_favor | af_use_otp | vcm_min_code | vcm_max_code | af_interval_time | af_speed_ind
  | af_auto_fine_en | af_single_fine_en | af_fine_step | af_move_cnt | af_still_cnt
  | af_move_monitor_cnt | af_still_monitor_cnt | af_stable_min | af_stable_max | af_low_light_lv
  | af_near_tolerance | af_far_tolerance | af_tolerance_off | af_peak_th | af_dir_th
  | af_change_ratio | af_move_minus | af_still_minus | af_scene_motion_th | af_tolerance_tbl_len
  | af_std_code_tbl | af_tolerance_value_tbl
deriving DecidableEq, Repr

inductive TunningParam where
  | flash_gain | flash_delay_frame | flicker_type | flicker_ratio | hor_visual_angle
  | ver_visual_angle | focus_length | gamma_num | rolloff_ratio | gtm_type | gamma_type
  | auto_alpha_en | hist_pix_cnt | dark_minval | bright_minval | plum_var | cfa_dir_th
  | cfa_interp_mode | cfa_zig_zag | ctc_th_max | ctc_th_min | ctc_th_slope | ctc_dir_wt
  | ctc_dir_th | bayer_gain | lsc_mode | ff_mod | lsc_center_x | lsc_center_y | lsc_tbl
  | lsc_trig_cfg | msc_mode | mff_mod | msc_blw_lut | msc_blh_lut | msc_blw_dlt_lut
  | msc_blh_dlt_lut | msc_trig_cfg | msc_tbl | gamma_tbl_ini | gamma_trig_cfg | linear_tbl
  | disc_tbl | color_matrix_ini | cm_trig_cfg | gca_cfg | lca_pf_satu_lut | lca_gf_satu_lut
  | pltm_cfg | isp_bdnf_th | isp_tdnf_th | isp_tdnf_ref_noise | isp_tdnf_k | isp_contrast_val
  | isp_contrast_lum | isp_sharp_val | isp_sharp_lum | isp_sharp_edge_lum | isp_sharp_hfrq_lum
  | isp_sharp_hsv | isp_sharp_s_map | isp_d3d_k3d_incre_curve | isp_tdnf_diff | isp_contrat_pe
  | isp_cem_table | isp_cem_table1
deriving DecidableEq, Repr

inductive Triger where
  | sharp_triger | contrast_triger | denoise_triger | sensor_offset_triger | black_level_triger
  | dpc_triger | defog_value_triger | pltm_dynamic_triger | brightness_triger | gcontrast_triger
  | saturation_triger | cem_ratio_triger | tdf_triger | color_denoise_triger | ae_cfg_triger
  | gtm_cfg_triger | lca_cfg_triger
deriving DecidableEq, Repr

inductive DynamicParam where
  | sharp_cfg | contrast_cfg | denoise_cfg | sensor_offset | black_level | dpc_cfg
  | pltm_dynamic_cfg | defog_value | brightness | contrast | saturation_cb | saturation_cr
  | saturation_cfg | cem_ratio | tdf_cfg | color_denoise | ae_cfg | gtm_cfg | lca_cfg
deriving DecidableEq, Repr

/-- A field of `struct isp_param_config`; only those that a configuration names. -/
inductive Param where
  | isp_test_settings (p : TestParam)
  | isp_3a_settings (p : Isp3aParam)
  | isp_tunning_settings (p : TunningParam)
  | triger (t : Triger)
  | isp_lum_mapping_point
  | isp_gain_mapping_point
  | isp_dynamic_cfg (i : Nat) (p : DynamicParam)
deriving DecidableEq, Repr

abbrev Params := Param → Memory

/-! ## The structs of the configurations -/

def ISP_GAMMA_TBL_LENGTH : Nat := 3 * 1024
def ISP_REG_TBL_LENGTH : Nat := 33
def ISP_CEM_MEM_SIZE : Nat := 0x0cc0 + 0x0a40
def ISP_DYNAMIC_GROUP_COUNT : Nat := 14

/-- A member of a struct: `count` elements of `width` bytes.  Its first `copied` bytes go from and
to the parameter `param`, from byte `pos` on; the `ratio` of a denoise item has no parameter, it is
read as 1. -/
structure Member where
  width : Nat
  count : Nat
  param : Option Param
  pos : Nat := 0
  copied : Nat
deriving DecidableEq, Repr

def Member.run (f : Member) : Run := ⟨f.width, f.count⟩

def Member.length (f : Member) : Nat := f.run.length

/-- An array of `HW_S32`, `HW_U16` (or `HW_S16`) or `HW_U8`. -/
def array (width count : Nat) (param : Param) : Member where
  width := width
  count := count
  param := some param
  copied := width * count

def s32s (count : Nat) (param : Param) : Member := array 4 count param
def u16s (count : Nat) (param : Param) : Member := array 2 count param
def u8s (count : Nat) (param : Param) : Member := array 1 count param
def s32 (param : Param) : Member := s32s 1 param

def test (p : TestParam) : Member := s32 (.isp_test_settings p)
def isp3a (p : Isp3aParam) : Member := s32 (.isp_3a_settings p)
def tunning (p : TunningParam) : Member := s32 (.isp_tunning_settings p)

def one : Member := ⟨4, 1, none, 0, 0⟩

/-- Triggers, and an item for each of the mapping points. -/
def dynamic (trigers : List Triger) (item : Nat → List Member) : List Member :=
  trigers.map (fun t => s32 (.triger t)) ++ (List.range ISP_DYNAMIC_GROUP_COUNT).flatMap item

/-- `struct isp_tuning_ccm_cfg` with the `i`-th color matrix. -/
def ccm (i : Nat) : List Member :=
  [{ u16s 1 (.isp_tunning_settings .cm_trig_cfg) with pos := 2 * i },
    { u16s 12 (.isp_tunning_settings .color_matrix_ini) with pos := 24 * i }]

/-- The bits of all groups, `HW_ISP_CFG_TEST_PUB` to `HW_ISP_CFG_DYNAMIC_LCA`. -/
inductive Cfg where
  | TEST_PUB | TEST_EXPTIME | TEST_GAIN | TEST_FOCUS | TEST_FORCED | TEST_ENABLE | AE_PUB
  | AE_PREVIEW_TBL | AE_CAPTURE_TBL | AE_VIDEO_TBL | AE_WIN_WEIGHT | AE_DELAY | AWB_PUB
  | AWB_TEMP_RANGE | AWB_DIST | AWB_LIGHT_INFO | AWB_EXT_LIGHT_INFO | AWB_SKIN_INFO
  | AWB_SPECIAL_INFO | AWB_PRESET_GAIN | AWB_FAVOR | AF_VCM_CODE | AF_OTP | AF_SPEED
  | AF_FINE_SEARCH | AF_REFOCUS | AF_TOLERANCE | AF_SCENE | TUNING_FLASH | TUNING_FLICKER
  | TUNING_VISUAL_ANGLE | TUNING_GTM | TUNING_CFA | TUNING_CTC | TUNING_DIGITAL_GAIN
  | TUNING_CCM_LOW | TUNING_CCM_MID | TUNING_CCM_HIGH | TUNING_PLTM | TUNING_GCA | TUNING_LSC
  | TUNING_GAMMA | TUNING_LINEARITY | TUNING_DISTORTION | TUNING_BDNF | TUNING_TDNF
  | TUNING_CONTRAST | TUNING_SHARP | TUNING_CEM | TUNING_CEM_1 | TUNING_LCA_TBL | TUNING_MSC
  | DYNAMIC_LUM_POINT | DYNAMIC_GAIN_POINT | DYNAMIC_SHARP | DYNAMIC_CONTRAST | DYNAMIC_DENOISE
  | DYNAMIC_SENSOR_OFFSET | DYNAMIC_BLACK_LV | DYNAMIC_DPC | DYNAMIC_PLTM | DYNAMIC_DEFOG
  | DYNAMIC_HISTOGRAM | DYNAMIC_SATURATION | DYNAMIC_CEM | DYNAMIC_TDF | DYNAMIC_AE | DYNAMIC_GTM
  | DYNAMIC_LCA
deriving DecidableEq, Repr

/-- Group `HW_ISP_CFG_TEST` to `HW_ISP_CFG_DYNAMIC`: the bits in the order in which the functions
below test them. -/
def cfgs : Nat → Option (List Cfg)
  | 1 => some
      [.TEST_PUB, .TEST_EXPTIME, .TEST_GAIN, .TEST_FOCUS, .TEST_FORCED, .TEST_ENABLE]
  | 2 => some
      [.AE_PUB, .AE_PREVIEW_TBL, .AE_CAPTURE_TBL, .AE_VIDEO_TBL, .AE_WIN_WEIGHT, .AE_DELAY,
       .AWB_PUB, .AWB_TEMP_RANGE, .AWB_DIST, .AWB_LIGHT_INFO, .AWB_EXT_LIGHT_INFO, .AWB_SKIN_INFO,
       .AWB_SPECIAL_INFO, .AWB_PRESET_GAIN, .AWB_FAVOR, .AF_VCM_CODE, .AF_OTP, .AF_SPEED,
       .AF_FINE_SEARCH, .AF_REFOCUS, .AF_TOLERANCE, .AF_SCENE]
  | 3 => some
      [.TUNING_FLASH, .TUNING_FLICKER, .TUNING_VISUAL_ANGLE, .TUNING_GTM, .TUNING_CFA,
       .TUNING_CTC, .TUNING_DIGITAL_GAIN, .TUNING_CCM_LOW, .TUNING_CCM_MID, .TUNING_CCM_HIGH,
       .TUNING_PLTM, .TUNING_GCA]
  | 4 => some
      [.TUNING_LSC, .TUNING_GAMMA, .TUNING_LINEARITY, .TUNING_DISTORTION, .TUNING_BDNF,
       .TUNING_TDNF, .TUNING_CONTRAST, .TUNING_SHARP, .TUNING_CEM, .TUNING_CEM_1, .TUNING_LCA_TBL,
       .TUNING_MSC]
  | 5 => some
      [.DYNAMIC_LUM_POINT, .DYNAMIC_GAIN_POINT, .DYNAMIC_SHARP, .DYNAMIC_CONTRAST,
       .DYNAMIC_DENOISE, .DYNAMIC_SENSOR_OFFSET, .DYNAMIC_BLACK_LV, .DYNAMIC_DPC, .DYNAMIC_PLTM,
       .DYNAMIC_DEFOG, .DYNAMIC_HISTOGRAM, .DYNAMIC_SATURATION, .DYNAMIC_CEM, .DYNAMIC_TDF,
       .DYNAMIC_AE, .DYNAMIC_GTM, .DYNAMIC_LCA]
  | _ => none

def Cfg.bit : Cfg → Nat
  | .TEST_PUB | .AE_PUB | .TUNING_FLASH | .TUNING_LSC | .DYNAMIC_LUM_POINT => 0
  | .TEST_EXPTIME | .AE_PREVIEW_TBL | .TUNING_FLICKER | .TUNING_GAMMA | .DYNAMIC_GAIN_POINT => 1
  | .TEST_GAIN | .AE_CAPTURE_TBL | .TUNING_VISUAL_ANGLE | .TUNING_LINEARITY | .DYNAMIC_SHARP => 2
  | .TEST_FOCUS | .AE_VIDEO_TBL | .TUNING_GTM | .TUNING_DISTORTION | .DYNAMIC_CONTRAST => 3
  | .TEST_FORCED | .AE_WIN_WEIGHT | .TUNING_CFA | .TUNING_BDNF | .DYNAMIC_DENOISE => 4
  | .TEST_ENABLE | .AE_DELAY | .TUNING_CTC | .TUNING_TDNF | .DYNAMIC_SENSOR_OFFSET => 5
  | .AWB_PUB | .TUNING_DIGITAL_GAIN | .TUNING_CONTRAST | .DYNAMIC_BLACK_LV => 6
  | .AWB_TEMP_RANGE | .TUNING_CCM_LOW | .TUNING_SHARP | .DYNAMIC_DPC => 7
  | .AWB_DIST | .TUNING_CCM_MID | .TUNING_CEM | .DYNAMIC_PLTM => 8
  | .AWB_LIGHT_INFO | .TUNING_CCM_HIGH | .TUNING_CEM_1 | .DYNAMIC_DEFOG => 9
  | .AWB_EXT_LIGHT_INFO | .TUNING_PLTM | .DYNAMIC_HISTOGRAM => 10
  | .AWB_SKIN_INFO | .TUNING_GCA | .DYNAMIC_SATURATION => 11
  | .AWB_SPECIAL_INFO | .TUNING_MSC | .DYNAMIC_CEM => 12
  | .AWB_PRESET_GAIN | .TUNING_LCA_TBL | .DYNAMIC_TDF => 13
  | .AWB_FAVOR | .DYNAMIC_AE => 14
  | .AF_VCM_CODE | .DYNAMIC_GTM => 15
  | .AF_OTP | .DYNAMIC_LCA => 16
  | .AF_SPEED => 17
  | .AF_FINE_SEARCH => 18
  | .AF_REFOCUS => 19
  | .AF_TOLERANCE => 20
  | .AF_SCENE => 21

def Cfg.members : Cfg → List Member
  | .TEST_PUB =>
      [test .isp_test_mode, test .isp_gain, test .isp_exp_line, test .isp_color_temp,
       test .isp_log_param]
  | .TEST_EXPTIME =>
      [test .isp_test_exptime, test .exp_line_start, test .exp_line_step, test .exp_line_end,
       test .exp_change_interval]
  | .TEST_GAIN =>
      [test .isp_test_gain, test .gain_start, test .gain_step, test .gain_end,
       test .gain_change_interval]
  | .TEST_FOCUS =>
      [test .isp_test_focus, test .focus_start, test .focus_step, test .focus_end,
       test .focus_change_interval]
  | .TEST_FORCED => [test .ae_forced, test .lum_forced]
  | .TEST_ENABLE =>
      [test .manual_en, test .afs_en, test .sharp_en, test .contrast_en, test .denoise_en,
       test .drc_en, test .cem_en, test .lsc_en, test .msc_en, test .gamma_en, test .cm_en,
       test .ae_en, test .af_en, test .awb_en, test .hist_en, test .blc_en, test .so_en,
       test .wb_en, test .otf_dpc_en, test .cfa_en, test .tdf_en, test .cnr_en, test .lca_en,
       test .gca_en, test .satur_en, test .defog_en, test .linear_en, test .gtm_en,
       test .dig_gain_en, test .pltm_en, test .wdr_en, test .ctc_en]
  | .AE_PUB =>
      [isp3a .define_ae_table, isp3a .ae_max_lv, isp3a .ae_hist_mod_en, isp3a .ae_hist_sel,
       isp3a .ae_stat_sel, isp3a .exp_comp_step, isp3a .ae_touch_dist_ind,
       isp3a .ae_iso2gain_ratio, s32s 16 (.isp_3a_settings .ae_fno_step), isp3a .ae_ki,
       isp3a .ae_ConvDataIndex, isp3a .ae_blowout_pre_en, isp3a .ae_blowout_attr,
       s32s 3 (.isp_3a_settings .wdr_cfg)]
  | .AE_PREVIEW_TBL =>
      [isp3a .ae_table_preview_length, s32s 42 (.isp_3a_settings .ae_table_preview)]
  | .AE_CAPTURE_TBL =>
      [isp3a .ae_table_capture_length, s32s 42 (.isp_3a_settings .ae_table_capture)]
  | .AE_VIDEO_TBL => [isp3a .ae_table_video_length, s32s 42 (.isp_3a_settings .ae_table_video)]
  | .AE_WIN_WEIGHT => [s32s 64 (.isp_3a_settings .ae_win_weight)]
  | .AE_DELAY => [isp3a .ae_delay_frame, isp3a .exp_delay_frame, isp3a .gain_delay_frame]
  | .AWB_PUB => [isp3a .awb_interval, isp3a .awb_speed, isp3a .awb_stat_sel]
  | .AWB_TEMP_RANGE =>
      [isp3a .awb_color_temper_low, isp3a .awb_color_temper_high, isp3a .awb_base_temper]
  | .AWB_DIST => [isp3a .awb_green_zone_dist, isp3a .awb_blue_sky_dist]
  | .AWB_LIGHT_INFO => [isp3a .awb_light_num, s32s 320 (.isp_3a_settings .awb_light_info)]
  | .AWB_EXT_LIGHT_INFO =>
      [isp3a .awb_ext_light_num, s32s 320 (.isp_3a_settings .awb_ext_light_info)]
  | .AWB_SKIN_INFO =>
      [isp3a .awb_skin_color_num,
       { s32s 320 (.isp_3a_settings .awb_skin_color_info) with copied := 4 * 160 }]
  | .AWB_SPECIAL_INFO =>
      [isp3a .awb_special_color_num, s32s 320 (.isp_3a_settings .awb_special_color_info)]
  | .AWB_PRESET_GAIN => [s32s 22 (.isp_3a_settings .awb_preset_gain)]
  | .AWB_FAVOR => [isp3a .awb_rgain_favor, isp3a .awb_bgain_favor]
  | .AF_VCM_CODE => [isp3a .vcm_min_code, isp3a .vcm_max_code]
  | .AF_OTP => [isp3a .af_use_otp]
  | .AF_SPEED => [isp3a .af_interval_time, isp3a .af_speed_ind]
  | .AF_FINE_SEARCH => [isp3a .af_auto_fine_en, isp3a .af_single_fine_en, isp3a .af_fine_step]
  | .AF_REFOCUS =>
      [isp3a .af_move_cnt, isp3a .af_still_cnt, isp3a .af_move_monitor_cnt,
       isp3a .af_still_monitor_cnt]
  | .AF_TOLERANCE =>
      [isp3a .af_near_tolerance, isp3a .af_far_tolerance, isp3a .af_tolerance_off,
       isp3a .af_tolerance_tbl_len, s32s 20 (.isp_3a_settings .af_std_code_tbl),
       s32s 20 (.isp_3a_settings .af_tolerance_value_tbl)]
  | .AF_SCENE =>
      [isp3a .af_stable_min, isp3a .af_stable_max, isp3a .af_low_light_lv, isp3a .af_peak_th,
       isp3a .af_dir_th, isp3a .af_change_ratio, isp3a .af_move_minus, isp3a .af_still_minus,
       isp3a .af_scene_motion_th]
  | .TUNING_FLASH => [tunning .flash_gain, tunning .flash_delay_frame]
  | .TUNING_FLICKER => [tunning .flicker_type, tunning .flicker_ratio]
  | .TUNING_VISUAL_ANGLE =>
      [tunning .hor_visual_angle, tunning .ver_visual_angle, tunning .focus_length]
  | .TUNING_GTM =>
      [tunning .gtm_type, tunning .gamma_type, tunning .auto_alpha_en, tunning .hist_pix_cnt,
       tunning .dark_minval, tunning .bright_minval,
       u16s (9 * 9) (.isp_tunning_settings .plum_var)]
  | .TUNING_CFA => [tunning .cfa_dir_th, tunning .cfa_interp_mode, tunning .cfa_zig_zag]
  | .TUNING_CTC =>
      [u16s 1 (.isp_tunning_settings .ctc_th_min), u16s 1 (.isp_tunning_settings .ctc_th_max),
       u16s 1 (.isp_tunning_settings .ctc_th_slope), u16s 1 (.isp_tunning_settings .ctc_dir_wt),
       u16s 1 (.isp_tunning_settings .ctc_dir_th)]
  | .TUNING_DIGITAL_GAIN => [s32s 4 (.isp_tunning_settings .bayer_gain)]
  | .TUNING_CCM_LOW => ccm 0
  | .TUNING_CCM_MID => ccm 1
  | .TUNING_CCM_HIGH => ccm 2
  | .TUNING_PLTM => [s32s 19 (.isp_tunning_settings .pltm_cfg)]
  | .TUNING_GCA => [s32s 7 (.isp_tunning_settings .gca_cfg)]
  | .TUNING_LSC =>
      [tunning .ff_mod, tunning .lsc_mode, tunning .lsc_center_x, tunning .lsc_center_y,
       tunning .rolloff_ratio, u16s (12 * 768) (.isp_tunning_settings .lsc_tbl),
       u16s 6 (.isp_tunning_settings .lsc_trig_cfg)]
  | .TUNING_GAMMA =>
      [tunning .gamma_num, u16s (5 * ISP_GAMMA_TBL_LENGTH) (.isp_tunning_settings .gamma_tbl_ini),
       u16s 5 (.isp_tunning_settings .gamma_trig_cfg)]
  | .TUNING_LINEARITY => [u16s 768 (.isp_tunning_settings .linear_tbl)]
  | .TUNING_DISTORTION => [u16s 512 (.isp_tunning_settings .disc_tbl)]
  | .TUNING_BDNF => [u16s ISP_REG_TBL_LENGTH (.isp_tunning_settings .isp_bdnf_th)]
  | .TUNING_TDNF =>
      [u16s ISP_REG_TBL_LENGTH (.isp_tunning_settings .isp_tdnf_th),
       u16s ISP_REG_TBL_LENGTH (.isp_tunning_settings .isp_tdnf_ref_noise),
       u8s (ISP_REG_TBL_LENGTH - 1) (.isp_tunning_settings .isp_tdnf_k),
       u8s 256 (.isp_tunning_settings .isp_tdnf_diff),
       u8s 256 (.isp_tunning_settings .isp_d3d_k3d_incre_curve)]
  | .TUNING_CONTRAST =>
      [u16s ISP_REG_TBL_LENGTH (.isp_tunning_settings .isp_contrast_val),
       u16s ISP_REG_TBL_LENGTH (.isp_tunning_settings .isp_contrast_lum),
       u16s 128 (.isp_tunning_settings .isp_contrat_pe)]
  | .TUNING_SHARP =>
      [u16s ISP_REG_TBL_LENGTH (.isp_tunning_settings .isp_sharp_val),
       u16s ISP_REG_TBL_LENGTH (.isp_tunning_settings .isp_sharp_lum),
       u16s ISP_REG_TBL_LENGTH (.isp_tunning_settings .isp_sharp_edge_lum),
       u16s ISP_REG_TBL_LENGTH (.isp_tunning_settings .isp_sharp_hfrq_lum),
       u16s 46 (.isp_tunning_settings .isp_sharp_hsv),
       u8s ISP_REG_TBL_LENGTH (.isp_tunning_settings .isp_sharp_s_map)]
  | .TUNING_CEM => [u8s ISP_CEM_MEM_SIZE (.isp_tunning_settings .isp_cem_table)]
  | .TUNING_CEM_1 => [u8s ISP_CEM_MEM_SIZE (.isp_tunning_settings .isp_cem_table1)]
  | .TUNING_LCA_TBL =>
      [u16s ISP_REG_TBL_LENGTH (.isp_tunning_settings .lca_pf_satu_lut),
       u16s ISP_REG_TBL_LENGTH (.isp_tunning_settings .lca_gf_satu_lut)]
  | .TUNING_MSC =>
      [tunning .mff_mod, tunning .msc_mode, s32s 11 (.isp_tunning_settings .msc_blw_lut),
       s32s 11 (.isp_tunning_settings .msc_blh_lut),
       s32s 12 (.isp_tunning_settings .msc_blw_dlt_lut),
       s32s 12 (.isp_tunning_settings .msc_blh_dlt_lut),
       u16s (12 * 1452) (.isp_tunning_settings .msc_tbl),
       u16s 6 (.isp_tunning_settings .msc_trig_cfg)]
  | .DYNAMIC_LUM_POINT => [s32s ISP_DYNAMIC_GROUP_COUNT .isp_lum_mapping_point]
  | .DYNAMIC_GAIN_POINT => [s32s ISP_DYNAMIC_GROUP_COUNT .isp_gain_mapping_point]
  | .DYNAMIC_SHARP => dynamic [.sharp_triger] fun i => [s32s 29 (.isp_dynamic_cfg i .sharp_cfg)]
  | .DYNAMIC_CONTRAST =>
      dynamic [.contrast_triger] fun i => [s32s 11 (.isp_dynamic_cfg i .contrast_cfg)]
  | .DYNAMIC_DENOISE =>
      dynamic [.denoise_triger, .color_denoise_triger] fun i =>
        [s32s 20 (.isp_dynamic_cfg i .denoise_cfg), s32 (.isp_dynamic_cfg i .color_denoise), one]
  | .DYNAMIC_SENSOR_OFFSET =>
      dynamic [.sensor_offset_triger] fun i => [s32s 4 (.isp_dynamic_cfg i .sensor_offset)]
  | .DYNAMIC_BLACK_LV =>
      dynamic [.black_level_triger] fun i => [s32s 4 (.isp_dynamic_cfg i .black_level)]
  | .DYNAMIC_DPC => dynamic [.dpc_triger] fun i => [s32s 6 (.isp_dynamic_cfg i .dpc_cfg)]
  | .DYNAMIC_PLTM =>
      dynamic [.pltm_dynamic_triger] fun i => [s32s 4 (.isp_dynamic_cfg i .pltm_dynamic_cfg)]
  | .DYNAMIC_DEFOG =>
      dynamic [.defog_value_triger] fun i => [s32 (.isp_dynamic_cfg i .defog_value)]
  | .DYNAMIC_HISTOGRAM =>
      dynamic [.brightness_triger, .gcontrast_triger] fun i =>
        [s32 (.isp_dynamic_cfg i .brightness), s32 (.isp_dynamic_cfg i .contrast)]
  | .DYNAMIC_SATURATION =>
      dynamic [.saturation_triger] fun i =>
        [s32 (.isp_dynamic_cfg i .saturation_cb), s32 (.isp_dynamic_cfg i .saturation_cr),
         s32s 7 (.isp_dynamic_cfg i .saturation_cfg)]
  | .DYNAMIC_CEM => dynamic [.cem_ratio_triger] fun i => [s32 (.isp_dynamic_cfg i .cem_ratio)]
  | .DYNAMIC_TDF => dynamic [.tdf_triger] fun i => [s32s 22 (.isp_dynamic_cfg i .tdf_cfg)]
  | .DYNAMIC_AE => dynamic [.ae_cfg_triger] fun i => [s32s 14 (.isp_dynamic_cfg i .ae_cfg)]
  | .DYNAMIC_GTM => dynamic [.gtm_cfg_triger] fun i => [s32s 9 (.isp_dynamic_cfg i .gtm_cfg)]
  | .DYNAMIC_LCA => dynamic [.lca_cfg_triger] fun i => [s32s 11 (.isp_dynamic_cfg i .lca_cfg)]

/-- A struct is as long as its members, rounded up to its widest one. -/
def sizeof (members : List Member) : Nat :=
  let length := extent (members.map Member.run)
  let align := (members.map Member.width).foldl max 1
  (length + align - 1) / align * align

def Cfg.size (c : Cfg) : Nat := sizeof c.members

def selected (group_id cfg_ids : Nat) : List Cfg :=
  ((cfgs group_id).getD []).filter fun c => cfg_ids.testBit c.bit

/-! ## `isp_tuning_get_cfg` -/

def AW_ERR_VI_INVALID_PARA : Int := -1

def Member.bytes (params : Params) (f : Member) : List UInt8 :=
  match f.param with
  | some p => (params p).load f.pos f.copied
  | none => leBytes 4 1

def getMembers (params : Params) : List Member → Nat → Memory → Memory
  | [], _, m => m
  | f :: members, addr, m =>
      getMembers params members (addr + f.length) (m.store addr (f.bytes params))

def isp_tuning_get_cfg (params : Params) (group_id cfg_ids : Nat) (cfg_data : Memory) :
    Int × Memory :=
  if (cfgs group_id).isSome then
    let cfgs := selected group_id cfg_ids
    (total Cfg.size cfgs, walk Cfg.size (fun c => getMembers params c.members) cfgs 0 cfg_data)
  else (AW_ERR_VI_INVALID_PARA, cfg_data)

/-! ## `isp_tuning_set_cfg` -/

def setMembers : List Member → Nat → Memory → Params → Params
  | [], _, _, params => params
  | f :: members, addr, m, params =>
      setMembers members (addr + f.length) m <|
        match f.param with
        | some p => Function.update params p ((params p).store f.pos (m.load addr f.copied))
        | none => params

/-- The 22 numbers of a denoise item: each of the first 20 is multiplied by the last one, the ratio,
which counts as 1 if it is 0. -/
def scaleItem (item : List UInt8) : List UInt8 :=
  let number (j : Nat) : Nat := leValue ((item.drop (4 * j)).take 4)
  let ratio := if number 21 = 0 then 1 else number 21
  (List.range 20).flatMap (fun j => leBytes 4 (number j * ratio)) ++
    leBytes 4 (number 20) ++ leBytes 4 ratio

/-- The denoise items are scaled in the buffer before they are copied. -/
def Cfg.prepare (c : Cfg) (addr : Nat) (m : Memory) : Memory :=
  match c with
  | .DYNAMIC_DENOISE => m.mapElems 88 scaleItem ISP_DYNAMIC_GROUP_COUNT (addr + 8)
  | _ => m

def setCfgs : List Cfg → Nat → Memory → Params → Params × Memory
  | [], _, m, params => (params, m)
  | c :: cfgs, addr, m, params =>
      let m := c.prepare addr m
      setCfgs cfgs (addr + c.size) m (setMembers c.members addr m params)

def isp_tuning_set_cfg (params : Params) (group_id cfg_ids : Nat) (cfg_data : Memory) :
    Int × Params × Memory :=
  if (cfgs group_id).isSome then
    let cfgs := selected group_id cfg_ids
    (total Cfg.size cfgs, setCfgs cfgs 0 cfg_data params)
  else (AW_ERR_VI_INVALID_PARA, params, cfg_data)

/-! ## `convert_tuning_cfg_func` -/

/-- `cvt_long` and `cvt_short`, on the bytes of their argument. -/
structure Converter where
  cvt_long : List UInt8 → List UInt8
  cvt_short : List UInt8 → List UInt8

/-- A loop over `n` numbers from the pointer on, which it leaves behind them.  `long` converts the
number under the pointer and does not move it; `shortsAsLong` gives `HW_S16` numbers to
`cvt_long`. -/
inductive Access where
  | longs (n : Nat)
  | shorts (n : Nat)
  | long
  | shortsAsLong (n : Nat)
deriving DecidableEq, Repr

def Access.length : Access → Nat
  | .longs n => 4 * n
  | .shorts n => 2 * n
  | .long => 0
  | .shortsAsLong n => 2 * n

/-- The two upper bytes that the promotion of an `HW_S16` to `int` adds. -/
def signExtend (bytes : List UInt8) : List UInt8 :=
  bytes ++ List.replicate 2 (if 128 ≤ bytes.getLastD 0 then 255 else 0)

def Access.run (cvt : Converter) (addr : Nat) (m : Memory) : Access → Memory
  | .longs n => m.mapElems 4 cvt.cvt_long n addr
  | .shorts n => m.mapElems 2 cvt.cvt_short n addr
  | .long => m.mapElems 4 cvt.cvt_long 1 addr
  | .shortsAsLong n => m.mapElems 2 (fun bytes => (cvt.cvt_long (signExtend bytes)).take 2) n addr

def runAccesses (cvt : Converter) : List Access → Nat → Memory → Memory
  | [], _, m => m
  | a :: accesses, addr, m => runAccesses cvt accesses (addr + a.length) (a.run cvt addr m)

/-- How the bytes of a struct are converted. -/
def Cfg.accesses (c : Cfg) : List Access :=
  match c with
  | .TUNING_GTM => [.longs 6, .shortsAsLong (9 * 9)]
  | .TUNING_CCM_LOW | .TUNING_CCM_MID | .TUNING_CCM_HIGH => [.shorts 1, .shorts (24 / 2)]
  | .TUNING_LSC => [.long, .longs 4, .shorts (12 * 768), .shorts 6]
  | .TUNING_GAMMA => [.longs 1, .shorts (5 * ISP_GAMMA_TBL_LENGTH), .shorts 5]
  | .TUNING_CTC | .TUNING_LINEARITY | .TUNING_DISTORTION | .TUNING_BDNF | .TUNING_CONTRAST
  | .TUNING_SHARP => [.shorts (c.size / 2)]
  | .TUNING_TDNF => [.shorts (ISP_REG_TBL_LENGTH + ISP_REG_TBL_LENGTH)]
  | .TUNING_CEM | .TUNING_CEM_1 => []
  | .TUNING_LCA_TBL => [.shorts ISP_REG_TBL_LENGTH, .shorts ISP_REG_TBL_LENGTH]
  | .TUNING_MSC => [.longs 2, .longs (11 + 11), .longs (12 + 12), .shorts (12 * 1452), .shorts 6]
  | _ => [.longs (c.size / 4)]

def convert_tuning_cfg_func (group_id cfg_ids : Nat) (cvt : Converter) (cfg_data : Memory) :
    Memory :=
  walk Cfg.size (fun c => runAccesses cvt c.accesses) (selected group_id cfg_ids) 0 cfg_data

def hton : Converter where
  cvt_long := List.reverse
  cvt_short := List.reverse

def ntoh : Converter where
  cvt_long := List.reverse
  cvt_short := List.reverse

def convert_tuning_cfg_to_network (group_id cfg_ids : Nat) (cfg_data : Memory) : Memory :=
  convert_tuning_cfg_func group_id cfg_ids hton cfg_data

def convert_tuning_cfg_to_local (group_id cfg_ids : Nat) (cfg_data : Memory) : Memory :=
  convert_tuning_cfg_func group_id cfg_ids ntoh cfg_data

end AwHal.TuningApp
