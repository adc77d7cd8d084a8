import AwHal.Lib.BitFields
import AwHal.Pq.DispDriver

/-!
# Peaking and LTI settings in the display registers

`tans_to_peak` and `tans_to_lti` put the fields of a setting into registers, `peak_to_trans` and
`lti_to_trans` read them out again.  A register holds several fields, so each is read first, masked
and written back; the masks of the writers and of the readers are written out by hand.
-/

namespace AwHal.Pq

open AwHal.Lib Function DispDriver

/-- `char` is unsigned. -/
structure PeakSharp where
  id : Int
  enable : BitVec 8
  gain : BitVec 8
  neg_gain : BitVec 8
  hp_ratio : BitVec 8
  bp0_ratio : BitVec 8
  bp1_ratio : BitVec 8
  dif_up : BitVec 8
  corth : BitVec 8
  beta : BitVec 8
deriving DecidableEq, Repr

structure LtiSharp where
  id : Int
  enable : BitVec 8
  cstm_coeff0 : BitVec 8
  cstm_coeff1 : BitVec 8
  cstm_coeff2 : BitVec 8
  cstm_coeff3 : BitVec 8
  cstm_coeff4 : BitVec 8
  fir_gain : BitVec 8
  cor_th : BitVec 16
  diff_slope : BitVec 8
  diff_offset : BitVec 8
  edge_gain : BitVec 8
  sel : BitVec 8
  win_expansion : BitVec 8
  nolinear_limmit_en : BitVec 8
  peak_limmit : BitVec 8
  core_x : BitVec 8
  clip_y : BitVec 8
  edge_level_th : BitVec 8
deriving DecidableEq, Repr

/-! ## The functions -/

/-- A list of registers that is read, changed and written back.  `mallocs` says whether `malloc` has
memory for the list. -/
def transToRegs (mallocs : Bool) (disp : DispDriver) (de : Int) (offsets : List Word)
    (change : (Nat → Word) → List Word) : Int × DispDriver :=
  if mallocs then
    let (ret, call, disp) := disp.ioctl (.getReg de (offsets.map fun o ↦ ⟨o, 0⟩))
    if ret ≠ 0 then (ret, disp)
    else
      let value := fun k ↦ (values call).getD k 0
      let (ret, _, disp) := disp.ioctl (.setReg de (List.zipWith .mk offsets (change value)))
      (ret, disp)
  else (-1, disp)

/-- A list of registers that is read; `take` takes the fields out of them. -/
def regsToTrans {α : Type} (mallocs : Bool) (disp : DispDriver) (de : Int) (offsets : List Word)
    (old : α) (take : (Nat → Word) → α) : Int × α × DispDriver :=
  if mallocs then
    let (ret, call, disp) := disp.ioctl (.getReg de (offsets.map fun o ↦ ⟨o, 0⟩))
    if ret ≠ 0 then (ret, old, disp) else (0, take fun k ↦ (values call).getD k 0, disp)
  else (-1, old, disp)

def PEAK_OFST : Word := 0xA6000

def peakOffsets : List Word :=
  [PEAK_OFST, PEAK_OFST + 0x10, PEAK_OFST + 0x20, PEAK_OFST + 0x24, PEAK_OFST + 0x28,
    PEAK_OFST + 0x2c]

def peakSet (peak : PeakSharp) (value : Nat → Word) : List Word :=
  [maskedStore 0xfffffffe (truth 32 peak.enable) (value 0),
    maskedStore 0xff000000
      ((peak.hp_ratio.setWidth 32 <<< 16) + (peak.bp0_ratio.setWidth 32 <<< 8)
        + peak.bp1_ratio.setWidth 32) (value 1),
    maskedStore 0xffffff00 (peak.gain.setWidth 32) (value 2),
    maskedStore 0xff000000 ((peak.dif_up.setWidth 32 <<< 16) + peak.beta.setWidth 32) (value 3),
    maskedStore 0xffffffa0 (peak.neg_gain.setWidth 32) (value 4),
    maskedStore 0xffffff00 (peak.corth.setWidth 32) (value 5)]

def tans_to_peak (mallocs : Bool) (disp : DispDriver) (de : Int) (peak : PeakSharp) :
    Int × DispDriver :=
  transToRegs mallocs disp de peakOffsets (peakSet peak)

def peakGet (peak : PeakSharp) (value : Nat → Word) : PeakSharp :=
  { peak with
    enable := maskedLoad 8 0 0x1 (value 0)
    hp_ratio := maskedLoad 8 16 0x3f (value 1)
    bp0_ratio := maskedLoad 8 8 0x3f (value 1)
    bp1_ratio := maskedLoad 8 0 0x3f (value 1)
    gain := maskedLoad 8 0 0xff (value 2)
    dif_up := maskedLoad 8 16 0xff (value 3)
    beta := maskedLoad 8 0 0xff (value 3)
    neg_gain := maskedLoad 8 0 0x3f (value 4)
    corth := maskedLoad 8 0 0xff (value 5) }

def peak_to_trans (mallocs : Bool) (disp : DispDriver) (de : Int) (peak : PeakSharp) :
    Int × PeakSharp × DispDriver :=
  regsToTrans mallocs disp de peakOffsets peak (peakGet peak)

def LTI_OFST : Word := 0xA4000

def ltiOffsets : List Word :=
  [LTI_OFST, LTI_OFST + 0x10, LTI_OFST + 0x14, LTI_OFST + 0x18, LTI_OFST + 0x1c, LTI_OFST + 0x20,
    LTI_OFST + 0x24, LTI_OFST + 0x28, LTI_OFST + 0x2c, LTI_OFST + 0x30, LTI_OFST + 0x34]

def ltiSet (lti : LtiSharp) (value : Nat → Word) : List Word :=
  [maskedStore 0xfffefefe
      (truth 32 lti.enable ||| (truth 32 lti.sel <<< 8)
        ||| (truth 32 lti.nolinear_limmit_en <<< 16)) (value 0),
    maskedStore 0xff00ff00
      ((lti.cstm_coeff1.setWidth 32 <<< 16) + lti.cstm_coeff0.setWidth 32) (value 1),
    maskedStore 0xff00ff00
      ((lti.cstm_coeff3.setWidth 32 <<< 16) + lti.cstm_coeff2.setWidth 32) (value 2),
    maskedStore 0xffffff00 (lti.cstm_coeff4.setWidth 32) (value 3),
    maskedStore 0xfffffff0 (lti.fir_gain.setWidth 32) (value 4),
    maskedStore 0xfffffc00 (lti.cor_th.signExtend 32) (value 5),
    maskedStore 0xff00ff00
      ((lti.diff_slope.setWidth 32 <<< 16) ||| lti.diff_offset.setWidth 32) (value 6),
    maskedStore 0xfffffff0 (lti.edge_gain.setWidth 32) (value 7),
    maskedStore 0x8f00ff00
      (lti.core_x.setWidth 32 ||| (lti.clip_y.setWidth 32 <<< 16)
        ||| (lti.peak_limmit.setWidth 32 <<< 28)) (value 8),
    maskedStore 0xffffff00 (lti.win_expansion.setWidth 32) (value 9),
    maskedStore 0xffffff00 (lti.edge_level_th.setWidth 32) (value 10)]

def tans_to_lti (mallocs : Bool) (disp : DispDriver) (de : Int) (lti : LtiSharp) :
    Int × DispDriver :=
  transToRegs mallocs disp de ltiOffsets (ltiSet lti)

def ltiGet (lti : LtiSharp) (value : Nat → Word) : LtiSharp :=
  { lti with
    enable := maskedLoad 8 0 0x1 (value 0)
    sel := truth 8 (value 0 &&& 0x100)
    nolinear_limmit_en := truth 8 (value 0 &&& 0x10000)
    cstm_coeff0 := maskedLoad 8 0 0xff (value 1)
    cstm_coeff1 := maskedLoad 8 16 0xff (value 1)
    cstm_coeff2 := maskedLoad 8 0 0xff (value 2)
    cstm_coeff3 := maskedLoad 8 16 0xff (value 2)
    cstm_coeff4 := maskedLoad 8 0 0xff (value 3)
    fir_gain := maskedLoad 8 0 0xf (value 4)
    cor_th := maskedLoad 16 0 0x3ff (value 5)
    diff_offset := maskedLoad 8 0 0xff (value 6)
    diff_slope := maskedLoad 8 16 0x1f (value 6)
    edge_gain := maskedLoad 8 0 0x1f (value 7)
    core_x := maskedLoad 8 0 0xff (value 8)
    clip_y := maskedLoad 8 16 0xff (value 8)
    peak_limmit := maskedLoad 8 28 0x07 (value 8)
    win_expansion := maskedLoad 8 0 0xff (value 9)
    edge_level_th := maskedLoad 8 0 0xff (value 10) }

def lti_to_trans (mallocs : Bool) (disp : DispDriver) (de : Int) (lti : LtiSharp) :
    Int × LtiSharp × DispDriver :=
  regsToTrans mallocs disp de ltiOffsets lti (ltiGet lti)

/-! ## What the registers should hold -/

def peakFields (offset : Word) : Word :=
  if offset = PEAK_OFST then 0x1
  else if offset = PEAK_OFST + 0x10 then 0x3f3f3f
  else if offset = PEAK_OFST + 0x20 then 0xff
  else if offset = PEAK_OFST + 0x24 then 0xff00ff
  else if offset = PEAK_OFST + 0x28 then 0x3f
  else if offset = PEAK_OFST + 0x2c then 0xff
  else 0

def ltiFields (offset : Word) : Word :=
  if offset = LTI_OFST then 0x10101
  else if offset = LTI_OFST + 0x10 then 0xff00ff
  else if offset = LTI_OFST + 0x14 then 0xff00ff
  else if offset = LTI_OFST + 0x18 then 0xff
  else if offset = LTI_OFST + 0x1c then 0xf
  else if offset = LTI_OFST + 0x20 then 0x3ff
  else if offset = LTI_OFST + 0x24 then 0x1f00ff
  else if offset = LTI_OFST + 0x28 then 0x1f
  else if offset = LTI_OFST + 0x2c then 0x70ff00ff
  else if offset = LTI_OFST + 0x30 then 0xff
  else if offset = LTI_OFST + 0x34 then 0xff
  else 0

/-- The fields have no more bits than the registers have for them. -/
structure PeakSharp.Fits (peak : PeakSharp) : Prop where
  hp_ratio : peak.hp_ratio.toNat < 2 ^ 6
  bp0_ratio : peak.bp0_ratio.toNat < 2 ^ 6
  bp1_ratio : peak.bp1_ratio.toNat < 2 ^ 6
  neg_gain : peak.neg_gain.toNat < 2 ^ 6

structure LtiSharp.Fits (lti : LtiSharp) : Prop where
  fir_gain : lti.fir_gain.toNat < 2 ^ 4
  cor_th : lti.cor_th.toNat < 2 ^ 10
  diff_slope : lti.diff_slope.toNat < 2 ^ 5
  edge_gain : lti.edge_gain.toNat < 2 ^ 5
  peak_limmit : lti.peak_limmit.toNat < 2 ^ 3

def PeakSharp.switched (peak : PeakSharp) : PeakSharp :=
  { peak with enable := truth 8 peak.enable }

def LtiSharp.switched (lti : LtiSharp) : LtiSharp :=
  { lti with
    enable := truth 8 lti.enable
    sel := truth 8 lti.sel
    nolinear_limmit_en := truth 8 lti.nolinear_limmit_en }

/-- What is written is read back, into any package, and nothing else changes. -/
def PeakRoundTrips (disp : DispDriver) (de : Int) (peak : PeakSharp) : Prop :=
  let disp' := (tans_to_peak true disp de peak).2
  (∀ old : PeakSharp, (peak_to_trans true disp' de old).2.1 = { peak.switched with id := old.id }) ∧
    ∀ offset, AgreesOutside (peakFields offset) (disp.reg de offset) (disp'.reg de offset)

def LtiRoundTrips (disp : DispDriver) (de : Int) (lti : LtiSharp) : Prop :=
  let disp' := (tans_to_lti true disp de lti).2
  (∀ old : LtiSharp, (lti_to_trans true disp' de old).2.1 = { lti.switched with id := old.id }) ∧
    ∀ offset, AgreesOutside (ltiFields offset) (disp.reg de offset) (disp'.reg de offset)

/-- What the masks of `tans_to_peak` ask of the registers: the bits between the ratios, between
`dif_up` and `beta` and above `neg_gain` are cleared, and bit 5 of `neg_gain` is not. -/
structure PeakMasksFit (reg : Word → Word) (peak : PeakSharp) : Prop where
  ratios : reg (PEAK_OFST + 0x10) &&& 0xc0c0c0 = 0
  dif_up_beta : reg (PEAK_OFST + 0x24) &&& 0xff00 = 0
  above_neg_gain : reg (PEAK_OFST + 0x28) &&& 0x40 = 0
  neg_gain : reg (PEAK_OFST + 0x28) &&& 0x20 &&& ~~~(peak.neg_gain.setWidth 32) = 0

/-- What the masks of `tans_to_lti` ask of the registers: the bits above `diff_slope` are cleared,
and bit 4 of `edge_gain` is not. -/
structure LtiMasksFit (reg : Word → Word) (lti : LtiSharp) : Prop where
  diff_slope : reg (LTI_OFST + 0x24) &&& 0xe00000 = 0
  edge_gain : reg (LTI_OFST + 0x28) &&& 0x10 &&& ~~~(lti.edge_gain.setWidth 32) = 0

/-! ## Lists of registers -/

theorem values_getReg (reg : Word → Word) (de : Int) (offsets : List Word) :
    values (.getReg de (load reg (offsets.map fun o ↦ ⟨o, 0⟩))) = offsets.map reg := by
  simp [values, load]

theorem transToRegs_reg {disp : DispDriver} (hok : ∀ k, disp.results k = 0) (de : Int)
    (offsets : List Word) (change : (Nat → Word) → List Word) :
    (transToRegs true disp de offsets change).2.reg de =
      store (disp.reg de)
        (List.zipWith .mk offsets (change fun k ↦ (offsets.map (disp.reg de)).getD k 0)) := by
  unfold transToRegs
  simp only [if_true, ioctl_getReg (hok _), values_getReg, ne_eq, not_true_eq_false, if_false]
  rw [ioctl_setReg_reg _ (by exact hok _)]

theorem transToRegs_results (mallocs : Bool) (disp : DispDriver) (de : Int)
    (offsets : List Word) (change : (Nat → Word) → List Word) :
    (transToRegs mallocs disp de offsets change).2.results = disp.results := by
  unfold transToRegs
  split
  · dsimp only
    split <;> simp
  · rfl

theorem regsToTrans_get {α : Type} {disp : DispDriver} (hok : ∀ k, disp.results k = 0) (de : Int)
    (offsets : List Word) (old : α) (take : (Nat → Word) → α) :
    (regsToTrans true disp de offsets old take).2.1 =
      take fun k ↦ (offsets.map (disp.reg de)).getD k 0 := by
  unfold regsToTrans
  simp only [if_true, ioctl_getReg (hok _), values_getReg, ne_eq, not_true_eq_false, if_false]

theorem regsToTrans_transToRegs {α : Type} {disp : DispDriver} (hok : ∀ k, disp.results k = 0)
    (de : Int) {offsets : List Word} {change : (Nat → Word) → List Word} (hnodup : offsets.Nodup)
    (hlen : ∀ value, (change value).length = offsets.length) (old : α)
    (take : (Nat → Word) → α) :
    (regsToTrans true (transToRegs true disp de offsets change).2 de offsets old take).2.1 =
      take fun k ↦ (change fun k ↦ (offsets.map (disp.reg de)).getD k 0).getD k 0 := by
  have hok' : ∀ k, (transToRegs true disp de offsets change).2.results k = 0 := by
    intro k
    rw [transToRegs_results, hok]
  rw [regsToTrans_get hok', transToRegs_reg hok, map_store hnodup (hlen _)]

/-- All registers keep the bits outside of their fields iff those of the list do. -/
theorem agreesOutside_transToRegs {disp : DispDriver} (hok : ∀ k, disp.results k = 0) (de : Int)
    {offsets : List Word} {change : (Nat → Word) → List Word} (hnodup : offsets.Nodup)
    (hlen : ∀ value, (change value).length = offsets.length) (fields : Word → Word) :
    (∀ offset, AgreesOutside (fields offset) (disp.reg de offset)
        ((transToRegs true disp de offsets change).2.reg de offset)) ↔
      ∀ p ∈ offsets.zip (change fun k ↦ (offsets.map (disp.reg de)).getD k 0),
        AgreesOutside (fields p.1) (disp.reg de p.1) p.2 := by
  rw [transToRegs_reg hok]
  have hlen' := hlen fun k ↦ (offsets.map (disp.reg de)).getD k 0
  generalize (change fun k ↦ (offsets.map (disp.reg de)).getD k 0) = words at hlen' ⊢
  have hoffsets := offsets_zipWith hlen'
  have hmap : offsets.map (store (disp.reg de) _) = words := map_store hnodup hlen'
  have hstore : ∀ (i : Nat) (hi : i < offsets.length) (hi' : i < words.length),
      store (disp.reg de) (List.zipWith .mk offsets words) offsets[i] = words[i] := by
    intro i hi hi'
    have hget := List.getElem_of_eq hmap (by simpa using hi : i < _)
    simpa using hget
  constructor
  · intro h p hp
    obtain ⟨i, hi, rfl⟩ := List.mem_iff_getElem.mp hp
    rw [List.length_zip] at hi
    have hoff : i < offsets.length := by omega
    have h' := h offsets[i]
    rw [hstore i hoff (by omega)] at h'
    simpa using h'
  · intro h offset
    by_cases hin : offset ∈ offsets
    · obtain ⟨i, hi, rfl⟩ := List.mem_iff_getElem.mp hin
      have hi' : i < words.length := by omega
      rw [hstore i hi hi']
      exact h (offsets[i], words[i]) (List.mem_iff_getElem.mpr ⟨i, by simp; omega, by simp⟩)
    · rw [store_of_notMem (by rwa [hoffsets])]
      exact agreesOutside_refl _ _

/-! ## Peaking -/

theorem pair_within (low high : BitVec 8) :
    Within ((0xff : Word) <<< 16) (high.setWidth 32 <<< 16) ∧
      Within (0xff : Word) (low.setWidth 32) :=
  ⟨within_shifted (by decide) high.isLt, within_low (by decide) low.isLt⟩

theorem pair_eq_or (low high : BitVec 8) :
    ((high.setWidth 32 <<< 16) + low.setWidth 32 : Word) =
      (high.setWidth 32 <<< 16) ||| low.setWidth 32 :=
  add_eq_or_of_within (pair_within low high).1 (pair_within low high).2 (by decide)

section Peak

variable {peak : PeakSharp} (h : peak.Fits) (value : Nat → Word)

include h

theorem ratios_within :
    Within ((0x3f : Word) <<< 16) (peak.hp_ratio.setWidth 32 <<< 16) ∧
      Within ((0x3f : Word) <<< 8) (peak.bp0_ratio.setWidth 32 <<< 8) ∧
        Within (0x3f : Word) (peak.bp1_ratio.setWidth 32) :=
  ⟨within_shifted (by decide) h.hp_ratio, within_shifted (by decide) h.bp0_ratio,
    within_low (by decide) h.bp1_ratio⟩

theorem ratios_eq_or :
    (peak.hp_ratio.setWidth 32 <<< 16) + (peak.bp0_ratio.setWidth 32 <<< 8)
        + peak.bp1_ratio.setWidth 32 =
      ((peak.hp_ratio.setWidth 32 <<< 16) ||| (peak.bp0_ratio.setWidth 32 <<< 8)
        ||| peak.bp1_ratio.setWidth 32 : Word) := by
  obtain ⟨hhp, hbp0, hbp1⟩ := ratios_within h
  rw [add_eq_or_of_within hhp hbp0 (by decide), add_eq_or_of_within (hhp.or hbp0) hbp1 (by decide)]

/-- Only `neg_gain` may be read back as something else. -/
theorem peakGet_peakSet_iff (old : PeakSharp) :
    peakGet old (fun k ↦ (peakSet peak value).getD k 0) = { peak.switched with id := old.id } ↔
      value 4 &&& 0x20 &&& ~~~(peak.neg_gain.setWidth 32) = 0 := by
  obtain ⟨hhp, hbp0, hbp1⟩ := ratios_within h
  obtain ⟨vhp, vbp0, vbp1⟩ := three_fields hhp hbp0 hbp1 (by decide) (by decide) (by decide)
  rw [← ratios_eq_or h] at vhp vbp0 vbp1
  obtain ⟨hdif, hbeta⟩ := pair_within peak.beta peak.dif_up
  obtain ⟨vdif, vbeta⟩ := two_fields hdif hbeta (by decide)
  rw [← pair_eq_or] at vdif vbeta
  have henable : maskedLoad 8 0 0x1 ((peakSet peak value).getD 0 0) = truth 8 peak.enable :=
    maskedLoad_maskedStore_low (by decide) (by decide) (by decide) (toNat_truth_lt _) (by decide)
      (by rw [setWidth_truth (by decide)]; exact (within_truth (by decide) _).and_self)
  have hhp' : maskedLoad 8 16 0x3f ((peakSet peak value).getD 1 0) = peak.hp_ratio :=
    maskedLoad_maskedStore (by decide) (by decide) (by decide) h.hp_ratio (by decide) vhp
  have hbp0' : maskedLoad 8 8 0x3f ((peakSet peak value).getD 1 0) = peak.bp0_ratio :=
    maskedLoad_maskedStore (by decide) (by decide) (by decide) h.bp0_ratio (by decide) vbp0
  have hbp1' : maskedLoad 8 0 0x3f ((peakSet peak value).getD 1 0) = peak.bp1_ratio :=
    maskedLoad_maskedStore_low (by decide) (by decide) (by decide) h.bp1_ratio (by decide) vbp1
  have hgain : maskedLoad 8 0 0xff ((peakSet peak value).getD 2 0) = peak.gain :=
    maskedLoad_maskedStore_whole (by decide) (by decide) peak.gain (by decide)
  have hdif' : maskedLoad 8 16 0xff ((peakSet peak value).getD 3 0) = peak.dif_up :=
    maskedLoad_maskedStore (by decide) (by decide) (by decide) peak.dif_up.isLt (by decide) vdif
  have hbeta' : maskedLoad 8 0 0xff ((peakSet peak value).getD 3 0) = peak.beta :=
    maskedLoad_maskedStore_low (by decide) (by decide) (by decide) peak.beta.isLt (by decide) vbeta
  have hcorth : maskedLoad 8 0 0xff ((peakSet peak value).getD 5 0) = peak.corth :=
    maskedLoad_maskedStore_whole (by decide) (by decide) peak.corth (by decide)
  have hneg : maskedLoad 8 0 0x3f ((peakSet peak value).getD 4 0) = peak.neg_gain ↔
      value 4 &&& 0x20 &&& ~~~(peak.neg_gain.setWidth 32) = 0 :=
    maskedLoad_maskedStore_iff (by decide) (by decide) (by decide) h.neg_gain (by decide)
  rw [← hneg]
  simp only [peakGet, PeakSharp.switched, PeakSharp.mk.injEq, henable, hhp', hbp0', hbp1', hgain,
    hdif', hbeta', hcorth, true_and, and_true]

/-- The bits that `tans_to_peak` clears beside the fields. -/
theorem peakSet_agreesOutside_iff (reg : Word → Word) :
    (∀ p ∈ peakOffsets.zip (peakSet peak fun k ↦ (peakOffsets.map reg).getD k 0),
        AgreesOutside (peakFields p.1) (reg p.1) p.2) ↔
      reg (PEAK_OFST + 0x10) &&& 0xc0c0c0 = 0 ∧ reg (PEAK_OFST + 0x24) &&& 0xff00 = 0 ∧
        reg (PEAK_OFST + 0x28) &&& 0x40 = 0 := by
  obtain ⟨hhp, hbp0, hbp1⟩ := ratios_within h
  obtain ⟨hdif, hbeta⟩ := pair_within peak.beta peak.dif_up
  have hratios : Within 0x3f3f3f ((peak.hp_ratio.setWidth 32 <<< 16)
      + (peak.bp0_ratio.setWidth 32 <<< 8) + peak.bp1_ratio.setWidth 32) := by
    rw [ratios_eq_or h]
    exact (hhp.or hbp0).or hbp1
  have hdif_beta : Within 0xff00ff
      ((peak.dif_up.setWidth 32 <<< 16) + peak.beta.setWidth 32) := by
    rw [pair_eq_or]
    exact hdif.or hbeta
  have h0 : AgreesOutside (peakFields PEAK_OFST) (reg PEAK_OFST)
      (maskedStore 0xfffffffe (truth 32 peak.enable) (reg PEAK_OFST)) :=
    agreesOutside_of_exact (within_truth (by decide) _) (by decide)
  have h1 : AgreesOutside (peakFields (PEAK_OFST + 0x10)) (reg (PEAK_OFST + 0x10))
      (maskedStore 0xff000000 _ (reg (PEAK_OFST + 0x10))) ↔
      reg (PEAK_OFST + 0x10) &&& 0xc0c0c0 = 0 :=
    agreesOutside_maskedStore hratios (by decide)
  have h2 : AgreesOutside (peakFields (PEAK_OFST + 0x20)) (reg (PEAK_OFST + 0x20))
      (maskedStore 0xffffff00 _ (reg (PEAK_OFST + 0x20))) :=
    agreesOutside_of_exact (within_low (by decide) peak.gain.isLt) (by decide)
  have h3 : AgreesOutside (peakFields (PEAK_OFST + 0x24)) (reg (PEAK_OFST + 0x24))
      (maskedStore 0xff000000 _ (reg (PEAK_OFST + 0x24))) ↔
      reg (PEAK_OFST + 0x24) &&& 0xff00 = 0 :=
    agreesOutside_maskedStore hdif_beta (by decide)
  have h4 : AgreesOutside (peakFields (PEAK_OFST + 0x28)) (reg (PEAK_OFST + 0x28))
      (maskedStore 0xffffffa0 _ (reg (PEAK_OFST + 0x28))) ↔
      reg (PEAK_OFST + 0x28) &&& 0x40 = 0 :=
    agreesOutside_maskedStore (within_low (by decide) h.neg_gain) (by decide)
  have h5 : AgreesOutside (peakFields (PEAK_OFST + 0x2c)) (reg (PEAK_OFST + 0x2c))
      (maskedStore 0xffffff00 _ (reg (PEAK_OFST + 0x2c))) :=
    agreesOutside_of_exact (within_low (by decide) peak.corth.isLt) (by decide)
  simp only [peakOffsets, peakSet, List.map_cons, List.getD_cons_zero, List.getD_cons_succ,
    List.zip_cons_cons, List.forall_mem_cons, h0, h1, h2, h3, h4, h5, true_and]
  simp

theorem peakRoundTrips_iff {disp : DispDriver} (hok : ∀ k, disp.results k = 0) (de : Int) :
    PeakRoundTrips disp de peak ↔ PeakMasksFit (disp.reg de) peak := by
  have hnodup : peakOffsets.Nodup := by decide
  have hlen : ∀ value, (peakSet peak value).length = peakOffsets.length := fun _ ↦ rfl
  have hread : (∀ old : PeakSharp,
      (peak_to_trans true (tans_to_peak true disp de peak).2 de old).2.1 =
        { peak.switched with id := old.id }) ↔
      disp.reg de (PEAK_OFST + 0x28) &&& 0x20 &&& ~~~(peak.neg_gain.setWidth 32) = 0 := by
    have hold : ∀ old, _ ↔ _ :=
      peakGet_peakSet_iff h fun k ↦ (peakOffsets.map (disp.reg de)).getD k 0
    unfold peak_to_trans tans_to_peak
    simp only [regsToTrans_transToRegs hok de hnodup hlen]
    exact ⟨fun hall ↦ (hold peak).mp (hall peak), fun hbit old ↦ (hold old).mpr hbit⟩
  have hkeep : (∀ offset, AgreesOutside (peakFields offset) (disp.reg de offset)
      ((tans_to_peak true disp de peak).2.reg de offset)) ↔ _ :=
    (agreesOutside_transToRegs hok de hnodup hlen _).trans (peakSet_agreesOutside_iff h _)
  refine (and_congr hread hkeep).trans ?_
  constructor
  · rintro ⟨hneg, hratios, hdif, habove⟩
    exact ⟨hratios, hdif, habove, hneg⟩
  · rintro ⟨hratios, hdif, habove, hneg⟩
    exact ⟨hneg, hratios, hdif, habove⟩

end Peak

/-! ## LTI -/

section Lti

variable {lti : LtiSharp} (h : lti.Fits) (value : Nat → Word)

theorem switches_within (lti : LtiSharp) :
    Within (0x1 : Word) (truth 32 lti.enable) ∧
      Within ((0x1 : Word) <<< 8) (truth 32 lti.sel <<< 8) ∧
        Within ((0x1 : Word) <<< 16) (truth 32 lti.nolinear_limmit_en <<< 16) := by
  refine ⟨within_truth (by decide) _, ?_, ?_⟩
  · rw [← setWidth_truth (by decide : 0 < 8) lti.sel]
    exact within_shifted (by decide) (toNat_truth_lt _)
  · rw [← setWidth_truth (by decide : 0 < 8) lti.nolinear_limmit_en]
    exact within_shifted (by decide) (toNat_truth_lt _)

include h

theorem diff_within :
    Within ((0x1f : Word) <<< 16) (lti.diff_slope.setWidth 32 <<< 16) ∧
      Within (0xff : Word) (lti.diff_offset.setWidth 32) :=
  ⟨within_shifted (by decide) h.diff_slope, within_low (by decide) lti.diff_offset.isLt⟩

theorem clips_within :
    Within (0xff : Word) (lti.core_x.setWidth 32) ∧
      Within ((0xff : Word) <<< 16) (lti.clip_y.setWidth 32 <<< 16) ∧
        Within ((0x7 : Word) <<< 28) (lti.peak_limmit.setWidth 32 <<< 28) :=
  ⟨within_low (by decide) lti.core_x.isLt, within_shifted (by decide) lti.clip_y.isLt,
    within_shifted (by decide) h.peak_limmit⟩

theorem cor_th_signExtend : lti.cor_th.signExtend 32 = lti.cor_th.setWidth 32 := by
  have hmsb : lti.cor_th.msb = false := by
    rw [BitVec.msb_eq_false_iff_two_mul_lt]
    have := h.cor_th
    omega
  exact BitVec.signExtend_eq_setWidth_of_msb_false hmsb

/-- Only `edge_gain` may be read back as something else. -/
theorem ltiGet_ltiSet_iff (old : LtiSharp) :
    ltiGet old (fun k ↦ (ltiSet lti value).getD k 0) = { lti.switched with id := old.id } ↔
      value 7 &&& 0x10 &&& ~~~(lti.edge_gain.setWidth 32) = 0 := by
  obtain ⟨hen, hsel, hnl⟩ := switches_within lti
  obtain ⟨ven, vsel, vnl⟩ := three_fields hen hsel hnl (by decide) (by decide) (by decide)
  obtain ⟨hslope, hoffset⟩ := diff_within h
  obtain ⟨vslope, voffset⟩ := two_fields hslope hoffset (by decide)
  obtain ⟨hcore, hclip, hpeak⟩ := clips_within h
  obtain ⟨vcore, vclip, vpeak⟩ := three_fields hcore hclip hpeak (by decide) (by decide) (by decide)
  have henable : maskedLoad 8 0 0x1 ((ltiSet lti value).getD 0 0) = truth 8 lti.enable :=
    maskedLoad_maskedStore_low (by decide) (by decide) (by decide) (toNat_truth_lt _) (by decide)
      (by rw [setWidth_truth (by decide)]; exact ven)
  have hsel' : truth 8 ((ltiSet lti value).getD 0 0 &&& 0x100) = truth 8 lti.sel := by
    rw [truth_bit (by decide) (by decide : (0x100 : Word) = (0x1 : Word) <<< 8) (by decide)
      (by decide)]
    exact maskedLoad_maskedStore (by decide) (by decide : 8 + 1 ≤ 32) (by decide)
      (toNat_truth_lt _) (by decide) (by rw [setWidth_truth (by decide)]; exact vsel)
  have hnl' : truth 8 ((ltiSet lti value).getD 0 0 &&& 0x10000) =
      truth 8 lti.nolinear_limmit_en := by
    rw [truth_bit (by decide) (by decide : (0x10000 : Word) = (0x1 : Word) <<< 16) (by decide)
      (by decide)]
    exact maskedLoad_maskedStore (by decide) (by decide : 16 + 1 ≤ 32) (by decide)
      (toNat_truth_lt _) (by decide) (by rw [setWidth_truth (by decide)]; exact vnl)
  -- the two registers with two coefficients each
  have hpair : ∀ (low high : BitVec 8) (old : Word),
      maskedLoad 8 0 0xff
          (maskedStore 0xff00ff00 ((high.setWidth 32 <<< 16) + low.setWidth 32) old) = low ∧
        maskedLoad 8 16 0xff
          (maskedStore 0xff00ff00 ((high.setWidth 32 <<< 16) + low.setWidth 32) old) = high := by
    intro low high old
    obtain ⟨hhigh, hlow⟩ := pair_within low high
    obtain ⟨vhigh, vlow⟩ := two_fields hhigh hlow (by decide)
    rw [pair_eq_or]
    exact ⟨maskedLoad_maskedStore_low (by decide) (by decide) (by decide) low.isLt (by decide) vlow,
      maskedLoad_maskedStore (by decide) (by decide) (by decide) high.isLt (by decide) vhigh⟩
  obtain ⟨h0, h1⟩ := hpair lti.cstm_coeff0 lti.cstm_coeff1 (value 1)
  obtain ⟨h2, h3⟩ := hpair lti.cstm_coeff2 lti.cstm_coeff3 (value 2)
  have h4 : maskedLoad 8 0 0xff ((ltiSet lti value).getD 3 0) = lti.cstm_coeff4 :=
    maskedLoad_maskedStore_whole (by decide) (by decide) lti.cstm_coeff4 (by decide)
  have hfir : maskedLoad 8 0 0xf ((ltiSet lti value).getD 4 0) = lti.fir_gain :=
    maskedLoad_maskedStore_low (by decide) (by decide) (by decide) h.fir_gain (by decide)
      (within_low (by decide) h.fir_gain).and_self
  have hcor : maskedLoad 16 0 0x3ff ((ltiSet lti value).getD 5 0) = lti.cor_th :=
    maskedLoad_maskedStore_low (by decide) (by decide) (by decide) h.cor_th (by decide)
      (by rw [cor_th_signExtend h]; exact (within_low (by decide) h.cor_th).and_self)
  have hoffset' : maskedLoad 8 0 0xff ((ltiSet lti value).getD 6 0) = lti.diff_offset :=
    maskedLoad_maskedStore_low (by decide) (by decide) (by decide) lti.diff_offset.isLt (by decide)
      voffset
  have hslope' : maskedLoad 8 16 0x1f ((ltiSet lti value).getD 6 0) = lti.diff_slope :=
    maskedLoad_maskedStore (by decide) (by decide) (by decide) h.diff_slope (by decide) vslope
  have hedge : maskedLoad 8 0 0x1f ((ltiSet lti value).getD 7 0) = lti.edge_gain ↔
      value 7 &&& 0x10 &&& ~~~(lti.edge_gain.setWidth 32) = 0 :=
    maskedLoad_maskedStore_iff (by decide) (by decide) (by decide) h.edge_gain (by decide)
  have hcore' : maskedLoad 8 0 0xff ((ltiSet lti value).getD 8 0) = lti.core_x :=
    maskedLoad_maskedStore_low (by decide) (by decide) (by decide) lti.core_x.isLt (by decide) vcore
  have hclip' : maskedLoad 8 16 0xff ((ltiSet lti value).getD 8 0) = lti.clip_y :=
    maskedLoad_maskedStore (by decide) (by decide) (by decide) lti.clip_y.isLt (by decide) vclip
  have hpeak' : maskedLoad 8 28 0x7 ((ltiSet lti value).getD 8 0) = lti.peak_limmit :=
    maskedLoad_maskedStore (by decide) (by decide) (by decide) h.peak_limmit (by decide) vpeak
  have hwin : maskedLoad 8 0 0xff ((ltiSet lti value).getD 9 0) = lti.win_expansion :=
    maskedLoad_maskedStore_whole (by decide) (by decide) lti.win_expansion (by decide)
  have hlevel : maskedLoad 8 0 0xff ((ltiSet lti value).getD 10 0) = lti.edge_level_th :=
    maskedLoad_maskedStore_whole (by decide) (by decide) lti.edge_level_th (by decide)
  rw [← hedge]
  have h0' : maskedLoad 8 0 0xff ((ltiSet lti value).getD 1 0) = lti.cstm_coeff0 := h0
  have h1' : maskedLoad 8 16 0xff ((ltiSet lti value).getD 1 0) = lti.cstm_coeff1 := h1
  have h2' : maskedLoad 8 0 0xff ((ltiSet lti value).getD 2 0) = lti.cstm_coeff2 := h2
  have h3' : maskedLoad 8 16 0xff ((ltiSet lti value).getD 2 0) = lti.cstm_coeff3 := h3
  simp only [ltiGet, LtiSharp.switched, LtiSharp.mk.injEq, henable, hsel', hnl', h0', h1', h2', h3',
    h4, hfir, hcor, hoffset', hslope', hcore', hclip', hpeak', hwin, hlevel, true_and, and_true]

/-- The bits that `tans_to_lti` clears beside the fields. -/
theorem ltiSet_agreesOutside_iff (reg : Word → Word) :
    (∀ p ∈ ltiOffsets.zip (ltiSet lti fun k ↦ (ltiOffsets.map reg).getD k 0),
        AgreesOutside (ltiFields p.1) (reg p.1) p.2) ↔
      reg (LTI_OFST + 0x24) &&& 0xe00000 = 0 := by
  obtain ⟨hen, hsel, hnl⟩ := switches_within lti
  obtain ⟨hslope, hoffset⟩ := diff_within h
  obtain ⟨hcore, hclip, hpeak⟩ := clips_within h
  have hpair : ∀ low high : BitVec 8,
      Within 0xff00ff ((high.setWidth 32 <<< 16) + low.setWidth 32 : Word) := by
    intro low high
    rw [pair_eq_or]
    exact (pair_within low high).1.or (pair_within low high).2
  have hcor : Within 0x3ff (lti.cor_th.signExtend 32) := by
    rw [cor_th_signExtend h]
    exact within_low (by decide) h.cor_th
  have h0 : AgreesOutside (ltiFields LTI_OFST) (reg LTI_OFST)
      (maskedStore 0xfffefefe _ (reg LTI_OFST)) :=
    agreesOutside_of_exact ((hen.or hsel).or hnl) (by decide)
  have h1 : AgreesOutside (ltiFields (LTI_OFST + 0x10)) (reg (LTI_OFST + 0x10))
      (maskedStore 0xff00ff00 _ (reg (LTI_OFST + 0x10))) :=
    agreesOutside_of_exact (hpair lti.cstm_coeff0 lti.cstm_coeff1) (by decide)
  have h2 : AgreesOutside (ltiFields (LTI_OFST + 0x14)) (reg (LTI_OFST + 0x14))
      (maskedStore 0xff00ff00 _ (reg (LTI_OFST + 0x14))) :=
    agreesOutside_of_exact (hpair lti.cstm_coeff2 lti.cstm_coeff3) (by decide)
  have h3 : AgreesOutside (ltiFields (LTI_OFST + 0x18)) (reg (LTI_OFST + 0x18))
      (maskedStore 0xffffff00 _ (reg (LTI_OFST + 0x18))) :=
    agreesOutside_of_exact (within_low (by decide) lti.cstm_coeff4.isLt) (by decide)
  have h4 : AgreesOutside (ltiFields (LTI_OFST + 0x1c)) (reg (LTI_OFST + 0x1c))
      (maskedStore 0xfffffff0 _ (reg (LTI_OFST + 0x1c))) :=
    agreesOutside_of_exact (within_low (by decide) h.fir_gain) (by decide)
  have h5 : AgreesOutside (ltiFields (LTI_OFST + 0x20)) (reg (LTI_OFST + 0x20))
      (maskedStore 0xfffffc00 _ (reg (LTI_OFST + 0x20))) :=
    agreesOutside_of_exact hcor (by decide)
  have h6 : AgreesOutside (ltiFields (LTI_OFST + 0x24)) (reg (LTI_OFST + 0x24))
      (maskedStore 0xff00ff00 _ (reg (LTI_OFST + 0x24))) ↔
      reg (LTI_OFST + 0x24) &&& 0xe00000 = 0 :=
    agreesOutside_maskedStore (hslope.or hoffset) (by decide)
  have h7 : AgreesOutside (ltiFields (LTI_OFST + 0x28)) (reg (LTI_OFST + 0x28))
      (maskedStore 0xfffffff0 _ (reg (LTI_OFST + 0x28))) :=
    agreesOutside_of_exact (within_low (by decide) h.edge_gain) (by decide)
  have h8 : AgreesOutside (ltiFields (LTI_OFST + 0x2c)) (reg (LTI_OFST + 0x2c))
      (maskedStore 0x8f00ff00 _ (reg (LTI_OFST + 0x2c))) :=
    agreesOutside_of_exact ((hcore.or hclip).or hpeak) (by decide)
  have h9 : AgreesOutside (ltiFields (LTI_OFST + 0x30)) (reg (LTI_OFST + 0x30))
      (maskedStore 0xffffff00 _ (reg (LTI_OFST + 0x30))) :=
    agreesOutside_of_exact (within_low (by decide) lti.win_expansion.isLt) (by decide)
  have h10 : AgreesOutside (ltiFields (LTI_OFST + 0x34)) (reg (LTI_OFST + 0x34))
      (maskedStore 0xffffff00 _ (reg (LTI_OFST + 0x34))) :=
    agreesOutside_of_exact (within_low (by decide) lti.edge_level_th.isLt) (by decide)
  simp only [ltiOffsets, ltiSet, List.map_cons, List.getD_cons_zero, List.getD_cons_succ,
    List.zip_cons_cons, List.forall_mem_cons, h0, h1, h2, h3, h4, h5, h6, h7, h8, h9, h10, true_and]
  simp

theorem ltiRoundTrips_iff {disp : DispDriver} (hok : ∀ k, disp.results k = 0) (de : Int) :
    LtiRoundTrips disp de lti ↔ LtiMasksFit (disp.reg de) lti := by
  have hnodup : ltiOffsets.Nodup := by decide
  have hlen : ∀ value, (ltiSet lti value).length = ltiOffsets.length := fun _ ↦ rfl
  have hread : (∀ old : LtiSharp,
      (lti_to_trans true (tans_to_lti true disp de lti).2 de old).2.1 =
        { lti.switched with id := old.id }) ↔
      disp.reg de (LTI_OFST + 0x28) &&& 0x10 &&& ~~~(lti.edge_gain.setWidth 32) = 0 := by
    have hold : ∀ old, _ ↔ _ :=
      ltiGet_ltiSet_iff h fun k ↦ (ltiOffsets.map (disp.reg de)).getD k 0
    unfold lti_to_trans tans_to_lti
    simp only [regsToTrans_transToRegs hok de hnodup hlen]
    exact ⟨fun hall ↦ (hold lti).mp (hall lti), fun hbit old ↦ (hold old).mpr hbit⟩
  have hkeep : (∀ offset, AgreesOutside (ltiFields offset) (disp.reg de offset)
      ((tans_to_lti true disp de lti).2.reg de offset)) ↔ _ :=
    (agreesOutside_transToRegs hok de hnodup hlen _).trans (ltiSet_agreesOutside_iff h _)
  refine (and_congr hread hkeep).trans ?_
  constructor
  · rintro ⟨hedge, hslope⟩
    exact ⟨hslope, hedge⟩
  · rintro ⟨hslope, hedge⟩
    exact ⟨hedge, hslope⟩

end Lti

/-! ## Both settings -/

/-- When the driver answers, a peaking setting is kept and read back, with the rest of the registers
unchanged, iff the registers have nothing where the masks do not fit; and so is an LTI setting. -/
theorem sharpness_round_trips_iff (disp : DispDriver) (hok : ∀ k, disp.results k = 0) (de : Int)
    (peak : PeakSharp) (hpeak : peak.Fits) (lti : LtiSharp) (hlti : lti.Fits) :
    (PeakRoundTrips disp de peak ↔ PeakMasksFit (disp.reg de) peak) ∧
      (LtiRoundTrips disp de lti ↔ LtiMasksFit (disp.reg de) lti) :=
  ⟨peakRoundTrips_iff hpeak hok de, ltiRoundTrips_iff hlti hok de⟩

def uniformDriver (word : Word) : DispDriver where
  reg _ _ := word
  fill := id
  results _ := 0
  calls := []

def flatPeak : PeakSharp := ⟨12, 1, 0, 0, 0, 0, 0, 0, 0, 0⟩

theorem flatPeak_fits : flatPeak.Fits := ⟨by decide, by decide, by decide, by decide⟩

def sharpPeak : PeakSharp := ⟨12, 1, 40, 33, 10, 20, 30, 5, 7, 9⟩

def sharpLti : LtiSharp := ⟨13, 1, 1, 2, 3, 4, 5, 9, 600, 17, 21, 18, 1, 3, 1, 5, 6, 7, 8⟩

/-- The registers hold bits beside the fields, and earlier values in them. -/
theorem sharpness_round_trips_set :
    PeakRoundTrips (uniformDriver 0x5f00003f) 0 sharpPeak ∧
      LtiRoundTrips (uniformDriver 0x5f00003f) 0 sharpLti := by
  have h := sharpness_round_trips_iff (uniformDriver 0x5f00003f) (fun _ ↦ rfl) 0
    sharpPeak ⟨by decide, by decide, by decide, by decide⟩
    sharpLti ⟨by decide, by decide, by decide, by decide, by decide⟩
  exact ⟨h.1.mpr ⟨by decide, by decide, by decide, by decide⟩, h.2.mpr ⟨by decide, by decide⟩⟩

/-- Bit 5 of the earlier `neg_gain` is still there when the new one is read back. -/
theorem neg_gain_keeps_bit :
    flatPeak.Fits ∧ ¬ PeakRoundTrips (uniformDriver 0x20) 0 flatPeak := by
  refine ⟨flatPeak_fits, fun h ↦ ?_⟩
  have hread := h.1 flatPeak
  revert hread
  decide

end AwHal.Pq
