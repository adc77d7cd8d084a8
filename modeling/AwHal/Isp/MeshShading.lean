import Mathlib.Data.UInt
import Mathlib.Logic.Function.Basic
import AwHal.Lib.Reading

/-!
# The tables of the mesh shading

The part of `__isp_ctx_cfg_mod` that hands the block sizes of the mesh to the module and computes, for
each axis, the steps from one block boundary to the next.  The sizes are read one by one, so that the
entries that the computation looks at can be told.
-/

namespace AwHal.Isp

open AwHal.Lib Reading Function

def ISP_MSC_TBL_LUT_SIZE : Nat := 11
def ISP_MSC_TBL_LUT_DLT_SIZE : Nat := 12

/-! ## The module -/

/-- A table of `HW_U16`, with what lies behind it. -/
abbrev Table := Nat → UInt16

/-- The tables of block sizes, along the width and along the height. -/
inductive MscLut where
  | msc_blw_lut | msc_blh_lut
deriving DecidableEq, Repr

/-- `struct isp_msc_config`; both kinds of tables have `ISP_MSC_TBL_LUT_DLT_SIZE` entries. -/
structure MscCfg where
  lut : MscLut → Table
  dlt_lut : MscLut → Table

structure MscSettings where
  msc_en : Int32
  msc_mode : Int32
  lut : MscLut → Nat → Int32

def clamp (val lo hi : Nat) : Nat := min (max val lo) hi

abbrev LutReader := Reading (MscLut × Nat) UInt16

def edgeDelta (size : UInt16) : UInt16 :=
  UInt16.ofNat (clamp (4096 / max size.toNat 1) 0 4095)

def innerDelta (size before : UInt16) : UInt16 :=
  UInt16.ofNat (clamp (8192 / max (size.toNat + before.toNat) 1) 0 4095)

def innerDeltas (axis : MscLut) : Nat → Nat → Table → LutReader Table
  | 0, _, dlt => pure dlt
  | n + 1, i, dlt => do
      let size ← cell (axis, i)
      let before ← cell (axis, i - 1)
      innerDeltas axis n (i + 1) (update dlt i (innerDelta size before))

/-- The steps of one axis: the first entry, entry `last` from the block `lastBlock`, then the loop up to
`bound`. -/
def axisDeltas (axis : MscLut) (last lastBlock bound : Nat) (dlt : Table) : LutReader Table := do
  let first ← cell (axis, 0)
  let dlt := update dlt 0 (edgeDelta first)
  let size ← cell (axis, lastBlock)
  let dlt := update dlt last (edgeDelta size)
  innerDeltas axis (bound - 1) 1 dlt

def mscDeltas (msc_mode : Int32) (dlt_lut : MscLut → Table) : LutReader (MscLut → Table) := do
  let deltas := fun axis : MscLut =>
    if 4 ≤ msc_mode then
      axisDeltas axis (ISP_MSC_TBL_LUT_DLT_SIZE - 1) (ISP_MSC_TBL_LUT_SIZE - 1)
        ISP_MSC_TBL_LUT_DLT_SIZE (dlt_lut axis)
    else axisDeltas axis 8 7 8 (dlt_lut axis)
  let blw ← deltas .msc_blw_lut
  let blh ← deltas .msc_blh_lut
  pure fun
    | .msc_blw_lut => blw
    | .msc_blh_lut => blh

/-- The sizes of the settings are cut to 16 bits; the last entry of the table is not set. -/
def copyLut (settings : Nat → Int32) (lut : Table) : Table :=
  fun i => if i < ISP_MSC_TBL_LUT_SIZE then UInt16.ofInt (settings i).toInt else lut i

def lutCells (lut : MscLut → Table) (c : MscLut × Nat) : UInt16 := lut c.1 c.2

def cfgModMsc (settings : MscSettings) (cfg : MscCfg) : MscCfg :=
  if settings.msc_en ≠ 0 then
    let lut := fun axis => copyLut (settings.lut axis) (cfg.lut axis)
    { lut := lut, dlt_lut := run (lutCells lut) (mscDeltas settings.msc_mode cfg.dlt_lut) }
  else cfg

/-! ## What the loops do -/

variable (lut : MscLut → Table) (axis : MscLut) (dlt : Table)

theorem run_innerDeltas (n i : Nat) (hi : 1 ≤ i) :
    run (lutCells lut) (innerDeltas axis n i dlt) = fun j =>
      if i ≤ j ∧ j < i + n then innerDelta (lut axis j) (lut axis (j - 1)) else dlt j := by
  induction n generalizing i dlt with
  | zero =>
      ext j
      rw [if_neg (by omega)]
      rfl
  | succ n ih =>
      rw [innerDeltas, run_bind, run_bind, ih _ (i + 1) (by omega)]
      ext j
      by_cases hj : j = i
      · rw [if_neg (by omega), if_pos (by omega), hj, update_self]
        rfl
      · have hbounds : (i + 1 ≤ j ∧ j < i + 1 + n) ↔ (i ≤ j ∧ j < i + (n + 1)) := by omega
        simp only [hbounds, update_of_ne hj]

theorem mem_indices_innerDeltas {n i : Nat} (hi : 1 ≤ i) {c : MscLut × Nat} :
    c ∈ indices (lutCells lut) (innerDeltas axis n i dlt) ↔
      c.1 = axis ∧ 0 < n ∧ i - 1 ≤ c.2 ∧ c.2 < i + n := by
  induction n generalizing i dlt with
  | zero => simp [innerDeltas]
  | succ n ih =>
      obtain ⟨axis', j⟩ := c
      rw [innerDeltas, indices_bind, indices_bind, indices_cell, indices_cell, List.singleton_append,
        List.singleton_append, List.mem_cons, List.mem_cons, ih _ (by omega : 1 ≤ i + 1)]
      by_cases haxis : axis' = axis
      · simp only [Prod.mk.injEq, haxis, true_and]
        omega
      · simp only [Prod.mk.injEq, haxis, false_and, or_self]

theorem run_axisDeltas (last lastBlock bound : Nat) :
    run (lutCells lut) (axisDeltas axis last lastBlock bound dlt) = fun j =>
      if 1 ≤ j ∧ j < bound then innerDelta (lut axis j) (lut axis (j - 1))
      else if j = last then edgeDelta (lut axis lastBlock)
      else if j = 0 then edgeDelta (lut axis 0)
      else dlt j := by
  rw [axisDeltas, run_bind, run_bind, run_innerDeltas _ _ _ _ _ (Nat.le_refl 1)]
  ext j
  have hbounds : (1 ≤ j ∧ j < 1 + (bound - 1)) ↔ (1 ≤ j ∧ j < bound) := by omega
  simp only [hbounds, run_cell, lutCells, update_apply]

theorem mem_indices_axisDeltas {last lastBlock bound : Nat} {c : MscLut × Nat} :
    c ∈ indices (lutCells lut) (axisDeltas axis last lastBlock bound dlt) ↔
      c.1 = axis ∧ (c.2 = 0 ∨ c.2 = lastBlock ∨ c.2 < bound) := by
  obtain ⟨axis', j⟩ := c
  rw [axisDeltas, indices_bind, indices_bind, indices_cell, indices_cell, List.singleton_append,
    List.singleton_append, List.mem_cons, List.mem_cons,
    mem_indices_innerDeltas _ _ _ (Nat.le_refl 1)]
  by_cases haxis : axis' = axis
  · simp only [Prod.mk.injEq, haxis, true_and]
    omega
  · simp only [Prod.mk.injEq, haxis, false_and, or_self]

theorem run_mscDeltas (msc_mode : Int32) (dlt_lut : MscLut → Table) :
    run (lutCells lut) (mscDeltas msc_mode dlt_lut) axis =
      if 4 ≤ msc_mode then
        run (lutCells lut) (axisDeltas axis 11 10 12 (dlt_lut axis))
      else run (lutCells lut) (axisDeltas axis 8 7 8 (dlt_lut axis)) := by
  rw [mscDeltas]
  simp only [run_bind, run_pure]
  cases axis <;> exact run_ite _ _ _ _

theorem mem_indices_mscDeltas {msc_mode : Int32} {dlt_lut : MscLut → Table} {c : MscLut × Nat} :
    c ∈ indices (lutCells lut) (mscDeltas msc_mode dlt_lut) ↔
      c.2 < if 4 ≤ msc_mode then 12 else 8 := by
  rw [mscDeltas]
  simp only [indices_bind, indices_pure, List.append_nil, List.mem_append]
  split
  · rw [mem_indices_axisDeltas, mem_indices_axisDeltas]
    show _ ∧ (_ ∨ c.2 = 10 ∨ c.2 < 12) ∨ _ ∧ (_ ∨ c.2 = 10 ∨ c.2 < 12) ↔ c.2 < 12
    cases c.1 <;> simp <;> omega
  · rw [mem_indices_axisDeltas, mem_indices_axisDeltas]
    cases c.1 <;> simp <;> omega

/-! ## The tables -/

def boundaries (msc_mode : Int32) : Nat := if 4 ≤ msc_mode then ISP_MSC_TBL_LUT_SIZE else 8

/-- The steps of an axis with `n` block boundaries. -/
structure Steps (n : Nat) (lut dlt : Table) : Prop where
  first : dlt 0 = edgeDelta (lut 0)
  inner : ∀ i, 1 ≤ i → i < n → dlt i = innerDelta (lut i) (lut (i - 1))
  last : dlt n = edgeDelta (lut (n - 1))

/-- The computation reads block sizes of the tables only, and gives the steps of both axes. -/
structure DeltasInside (msc_mode : Int32) (lut dlt_lut : MscLut → Table) : Prop where
  reads : ∀ c ∈ indices (lutCells lut) (mscDeltas msc_mode dlt_lut), c.2 < ISP_MSC_TBL_LUT_SIZE
  steps : ∀ axis, Steps (boundaries msc_mode) (lut axis)
    (run (lutCells lut) (mscDeltas msc_mode dlt_lut) axis)

theorem steps_of_axisDeltas :
    Steps 8 (lut axis) (run (lutCells lut) (axisDeltas axis 8 7 8 dlt)) := by
  rw [run_axisDeltas]
  constructor
  case first => rfl
  case inner =>
    intro i hlo hhi
    exact if_pos ⟨hlo, hhi⟩
  case last => rfl

/-- With 11 boundaries all steps but the last are right; the last one is that of an inner boundary, and
made from an entry that no block has. -/
theorem axisDeltas_eleven :
    (∀ i, 1 ≤ i → i < 11 → run (lutCells lut) (axisDeltas axis 11 10 12 dlt) i =
        innerDelta (lut axis i) (lut axis (i - 1))) ∧
      run (lutCells lut) (axisDeltas axis 11 10 12 dlt) 0 = edgeDelta (lut axis 0) ∧
      run (lutCells lut) (axisDeltas axis 11 10 12 dlt) 11 =
        innerDelta (lut axis 11) (lut axis 10) := by
  rw [run_axisDeltas]
  refine ⟨?_, rfl, rfl⟩
  intro i hlo hhi
  exact if_pos ⟨hlo, by omega⟩

/-- The delta tables are not left. -/
theorem mscDeltas_outside (msc_mode : Int32) (dlt_lut : MscLut → Table) {i : Nat}
    (hi : ISP_MSC_TBL_LUT_DLT_SIZE ≤ i) :
    run (lutCells lut) (mscDeltas msc_mode dlt_lut) axis i = dlt_lut axis i := by
  have hi' : 12 ≤ i := hi
  rw [run_mscDeltas, run_axisDeltas, run_axisDeltas]
  split
  · dsimp only
    rw [if_neg (by omega), if_neg (by omega), if_neg (by omega)]
  · dsimp only
    rw [if_neg (by omega), if_neg (by omega), if_neg (by omega)]

/-- The computation is what it is to be exactly for the modes with 8 boundaries. -/
theorem deltasInside_iff (msc_mode : Int32) (lut dlt_lut : MscLut → Table) :
    DeltasInside msc_mode lut dlt_lut ↔ ¬ 4 ≤ msc_mode := by
  constructor
  · intro hinside hmode
    have hread : (MscLut.msc_blw_lut, 11) ∈ indices (lutCells lut) (mscDeltas msc_mode dlt_lut) := by
      rw [mem_indices_mscDeltas, if_pos hmode]
      decide
    exact absurd (hinside.reads _ hread) (by decide)
  · intro hmode
    constructor
    case reads =>
      intro c hc
      rw [mem_indices_mscDeltas, if_neg hmode] at hc
      exact Nat.lt_trans hc (by decide)
    case steps =>
      intro axis
      rw [run_mscDeltas, boundaries, if_neg hmode, if_neg hmode]
      exact steps_of_axisDeltas lut axis (dlt_lut axis)

/-- A mode with 11 boundaries. -/
theorem not_deltasInside :
    ¬ ∀ (msc_mode : Int32) (lut dlt_lut : MscLut → Table), DeltasInside msc_mode lut dlt_lut := by
  intro hall
  have hlast := ((hall 4 (fun _ i => if i < 11 then 4096 else 0) fun _ _ => 0).steps .msc_blw_lut).last
  exact absurd hlast (by decide +kernel)

/-! ## In the module -/

/-- The last step of a large mesh depends on what the table had before. -/
theorem cfgModMsc_last (settings : MscSettings) (cfg : MscCfg) (hen : settings.msc_en ≠ 0)
    (hmode : 4 ≤ settings.msc_mode) (axis : MscLut) :
    (cfgModMsc settings cfg).dlt_lut axis 11 =
      innerDelta (cfg.lut axis 11) (UInt16.ofInt (settings.lut axis 10).toInt) := by
  rw [cfgModMsc, if_pos hen]
  dsimp only
  rw [run_mscDeltas, if_pos hmode, (axisDeltas_eleven _ axis _).2.2]
  rfl

/-- With 8 boundaries the module gets the steps of the settings. -/
theorem cfgModMsc_steps (settings : MscSettings) (cfg : MscCfg) (hen : settings.msc_en ≠ 0)
    (hmode : ¬ 4 ≤ settings.msc_mode) (axis : MscLut) :
    Steps 8 (fun i => UInt16.ofInt (settings.lut axis i).toInt)
      ((cfgModMsc settings cfg).dlt_lut axis) := by
  have hcopied : ∀ i < 8, copyLut (settings.lut axis) (cfg.lut axis) i =
      UInt16.ofInt (settings.lut axis i).toInt :=
    fun i hi => if_pos (Nat.lt_trans hi (by decide))
  have hsteps := steps_of_axisDeltas (fun axis => copyLut (settings.lut axis) (cfg.lut axis)) axis
    (cfg.dlt_lut axis)
  rw [cfgModMsc, if_pos hen]
  dsimp only
  rw [run_mscDeltas, if_neg hmode]
  constructor
  case first => rw [hsteps.first, hcopied 0 (by decide)]
  case inner =>
    intro i hlo hhi
    rw [hsteps.inner i hlo hhi, hcopied i hhi, hcopied (i - 1) (by omega)]
  case last => rw [hsteps.last, hcopied 7 (by decide)]

end AwHal.Isp
