import Mathlib.Data.Finset.Basic
import Mathlib.Algebra.Ring.Nat
import AwHal.Lib.GuardedRun

/-!
# Use counting in the ISP library

`isp_init` and `isp_exit` count the users of each ISP in `isp_use_cnt`: the first user opens the
device and binds the tuning to it, the last one closes it.  Opening takes several steps, and each of
them may fail.
-/

namespace AwHal.Isp

open AwHal.Lib Function

def HW_ISP_DEVICE_NUM : Nat := 2

/-- The open file descriptors of the process, numbered in the order in which they were opened. -/
structure Files where
  fds : Finset Nat := ∅
  opened : Nat := 0
deriving DecidableEq

namespace Files

def openFile (f : Files) : Files × Nat :=
  ({ fds := insert f.opened f.fds, opened := f.opened + 1 }, f.opened)

def close (f : Files) (fd : Nat) : Files :=
  { f with fds := f.fds.erase fd }

end Files

/-- `struct isp_lib_context`, as far as `isp_init` sets it.  Configurations and sensor descriptions
are named by numbers. -/
structure IspLibContext where
  isp_id : Nat := 0
  pmsc_table : Option Nat := none
  otp_enable : Int := 0
  sensor_info : Nat := 0
  isp_ini_cfg : Nat := 0
  algo : Bool := false
deriving DecidableEq, Repr

/-- `struct hw_isp_device`: the descriptors of its three subdevices and what is bound to it. -/
structure HwIspDevice where
  stat : Nat
  subdev : Nat
  sensor : Nat
  ctx : Bool := false
  tuning : Option Nat := none
deriving DecidableEq, Repr

def HwIspDevice.fds (isp : HwIspDevice) : Finset Nat :=
  {isp.stat, isp.subdev, isp.sensor}

/-- `media_params`, with the contexts, the event lists and the files beside it. -/
structure MediaParams where
  mdev : Option Nat := none
  isp_dev : Nat → Option HwIspDevice := fun _ => none
  isp_tid : Nat → Bool := fun _ => false
  isp_use_cnt : Nat → Nat := fun _ => 0
  isp_ctx : Nat → IspLibContext := fun _ => {}
  tuning : Nat → Option Nat := fun _ => none
  eventsDone : Nat → Bool := fun _ => false
  allocated : Nat := 0
  files : Files := {}

/-- What the driver, the file system and the allocator answer during one `isp_init`. -/
structure InitOutcome where
  media_open : Bool := true
  malloc_isp : Bool := true
  stat_open : Bool := true
  stat_req_buffers : Bool := true
  subdev_open : Bool := true
  sensor_open : Bool := true
  otp_info : Bool := true
  sensor_info : Nat := 0
  params : Option Nat := some 0
  tuning : Bool := true
deriving DecidableEq, Repr

namespace MediaParams

/-! ## Opening and closing a device -/

/-- Opens the three subdevices one after another.  A failure frees the device but closes none of
the descriptors that were opened before it. -/
def isp_dev_open (m : MediaParams) (id : Nat) (o : InitOutcome) : MediaParams × Int :=
  if HW_ISP_DEVICE_NUM ≤ id then (m, -1)
  else if m.isp_dev id ≠ none then (m, 0)
  else
    let failed (files : Files) : MediaParams × Int :=
      ({ m with isp_dev := update m.isp_dev id none, files := files }, -1)
    if o.malloc_isp = false then failed m.files
    else if o.stat_open = false then failed m.files
    else
      let (files, stat) := m.files.openFile
      if o.stat_req_buffers = false then failed files
      else if o.subdev_open = false then failed files
      else
        let (files, subdev) := files.openFile
        if o.sensor_open = false then failed files
        else
          let (files, sensor) := files.openFile
          ({ m with
              isp_dev := update m.isp_dev id (some { stat, subdev, sensor })
              files := files }, 0)

def isp_dev_close (m : MediaParams) (id : Nat) : MediaParams :=
  match m.isp_dev id with
  | none => m
  | some isp =>
      { m with
        isp_dev := update m.isp_dev id none
        files := ((m.files.close isp.stat).close isp.subdev).close isp.sensor }

def media_close (m : MediaParams) : MediaParams :=
  match m.mdev with
  | none => m
  | some fd => { m with mdev := none, files := m.files.close fd }

def media_open (m : MediaParams) : MediaParams :=
  { m with mdev := some m.files.openFile.2, files := m.files.openFile.1 }

/-- The part of `isp_init` between `isp_dev_banding_ctx` and `isp_ctx_algo_init`.  None of the calls
in it is checked. -/
def ctx_init (m : MediaParams) (dev_id : Nat) (o : InitOutcome) : IspLibContext :=
  { isp_id := dev_id
    -- `isp_sensor_otp_init` allocates the table on every call
    pmsc_table := some m.allocated
    otp_enable := if o.otp_info then 1 else -1
    sensor_info := o.sensor_info
    isp_ini_cfg :=
      match o.params with
      | some cfg => cfg
      -- the second device falls back on the configuration of the first
      | none =>
          if 1 ≤ dev_id then (m.isp_ctx 0).isp_ini_cfg else (m.isp_ctx dev_id).isp_ini_cfg
    algo := true }

/-! ## The calls -/

/-- `isp_init` from where it has the device: it binds the context and then the tuning.  A tuning that
cannot be allocated leaves the device open and the context changed. -/
def isp_init_tuning (m : MediaParams) (dev_id : Nat) (o : InitOutcome) : MediaParams × Int :=
  match m.isp_dev dev_id with
  | none => (m, -1)
  | some isp =>
      let isp := { isp with ctx := true }
      let m := { m with
        isp_dev := update m.isp_dev dev_id (some isp)
        isp_ctx := update m.isp_ctx dev_id (m.ctx_init dev_id o)
        allocated := m.allocated + 1 }
      if o.tuning = false then ({ m with tuning := update m.tuning dev_id none }, -1)
      else
        ({ m with
            isp_dev := update m.isp_dev dev_id (some { isp with tuning := some m.allocated })
            tuning := update m.tuning dev_id (some m.allocated)
            allocated := m.allocated + 1
            eventsDone := update m.eventsDone dev_id false }, 0)

def isp_init (m : MediaParams) (dev_id : Nat) (o : InitOutcome) : MediaParams × Int :=
  if HW_ISP_DEVICE_NUM ≤ dev_id then (m, -1)
  else
    let cnt := m.isp_use_cnt dev_id
    -- `isp_use_cnt[dev_id]++` on an `unsigned int`, before anything else is done
    let m := { m with isp_use_cnt := update m.isp_use_cnt dev_id ((cnt + 1) % 2 ^ 32) }
    if 0 < cnt then (m, 0)
    else
      let m := m.media_close
      if o.media_open = false then (m, -1)
      else
        let (m, ret) := m.media_open.isp_dev_open dev_id o
        if ret < 0 then (m, ret) else m.isp_init_tuning dev_id o

def isp_run (m : MediaParams) (dev_id : Nat) (created : Bool) : MediaParams × Int :=
  if HW_ISP_DEVICE_NUM ≤ dev_id then (m, -1)
  else if 1 < m.isp_use_cnt dev_id then (m, 0)
  else if m.isp_dev dev_id = none then (m, -1)
  else if created then ({ m with isp_tid := update m.isp_tid dev_id true }, 0)
  -- the error number of `pthread_create`
  else (m, 11)

def isp_stop (m : MediaParams) (dev_id : Nat) : MediaParams × Int :=
  if HW_ISP_DEVICE_NUM ≤ dev_id then (m, -1)
  else if m.isp_use_cnt dev_id = 1 then
    ({ m with eventsDone := update m.eventsDone dev_id true }, 0)
  else (m, 0)

/-- `isp_tuning_exit`, which does nothing for a device without a tuning. -/
def isp_tuning_exit (m : MediaParams) (dev_id : Nat) : MediaParams :=
  let isp := (m.isp_dev dev_id).map fun isp => { isp with tuning := none }
  { m with isp_dev := update m.isp_dev dev_id isp }

def isp_exit (m : MediaParams) (dev_id : Nat) : MediaParams × Int :=
  if HW_ISP_DEVICE_NUM ≤ dev_id then (m, -1)
  else if m.isp_use_cnt dev_id = 0 then (m, 0)
  else
    let m := { m with isp_use_cnt := update m.isp_use_cnt dev_id (m.isp_use_cnt dev_id - 1) }
    if 0 < m.isp_use_cnt dev_id then (m, 0)
    else if m.isp_dev dev_id = none then (m, -1)
    else
      -- `pthread_join`, then the context gives up its algorithms and its table
      let m := { m with isp_tid := update m.isp_tid dev_id false }
      let m := m.isp_tuning_exit dev_id
      let ctx := { m.isp_ctx dev_id with algo := false, pmsc_table := none }
      ({ m with isp_ctx := update m.isp_ctx dev_id ctx }.isp_dev_close dev_id, 0)

/-- The device of `i` is there, its three descriptors are open and a tuning is bound to it. -/
def Open (m : MediaParams) (i : Nat) : Prop :=
  ∃ isp ∈ m.isp_dev i, isp.tuning ≠ none ∧ isp.fds ⊆ m.files.fds

instance (m : MediaParams) (i : Nat) : Decidable (m.Open i) :=
  inferInstanceAs (Decidable (∃ isp ∈ m.isp_dev i, _))

/-! ## What one `isp_init` does -/

@[simp] theorem media_close_isp_dev (m : MediaParams) : m.media_close.isp_dev = m.isp_dev := by
  unfold media_close
  split <;> rfl

@[simp] theorem media_close_isp_use_cnt (m : MediaParams) :
    m.media_close.isp_use_cnt = m.isp_use_cnt := by
  unfold media_close
  split <;> rfl

theorem isp_dev_open_isp_use_cnt (m : MediaParams) (id : Nat) (o : InitOutcome) :
    (m.isp_dev_open id o).1.isp_use_cnt = m.isp_use_cnt := by
  unfold isp_dev_open
  repeat' split
  all_goals rfl

theorem isp_init_tuning_isp_use_cnt (m : MediaParams) (id : Nat) (o : InitOutcome) :
    (m.isp_init_tuning id o).1.isp_use_cnt = m.isp_use_cnt := by
  unfold isp_init_tuning
  repeat' split
  all_goals rfl

end MediaParams

def InitOutcome.OpensDevice (o : InitOutcome) : Prop :=
  o.malloc_isp = true ∧ o.stat_open = true ∧ o.stat_req_buffers = true ∧ o.subdev_open = true ∧
    o.sensor_open = true

def InitOutcome.Succeeds (o : InitOutcome) : Prop :=
  o.media_open = true ∧ o.OpensDevice ∧ o.tuning = true

instance (o : InitOutcome) : Decidable o.OpensDevice :=
  inferInstanceAs (Decidable (_ ∧ _))

instance (o : InitOutcome) : Decidable o.Succeeds :=
  inferInstanceAs (Decidable (_ ∧ _))

namespace MediaParams

theorem isp_dev_open_eq {m : MediaParams} {i : Nat} (hi : i < HW_ISP_DEVICE_NUM)
    (hdev : m.isp_dev i = none) {o : InitOutcome} (ho : o.OpensDevice) :
    m.isp_dev_open i o =
      ({ m with
          isp_dev := update m.isp_dev i (some
            { stat := m.files.opened, subdev := m.files.opened + 1
              sensor := m.files.opened + 2 })
          files :=
            { fds := insert (m.files.opened + 2) (insert (m.files.opened + 1)
                (insert m.files.opened m.files.fds))
              opened := m.files.opened + 3 } }, 0) := by
  obtain ⟨hmalloc, hstat, hbuffers, hsubdev, hsensor⟩ := ho
  unfold isp_dev_open
  rw [if_neg (Nat.not_le.mpr hi), if_neg (not_not.mpr hdev)]
  simp [hmalloc, hstat, hbuffers, hsubdev, hsensor, Files.openFile]

theorem isp_dev_open_fails {m : MediaParams} {i : Nat} (hi : i < HW_ISP_DEVICE_NUM)
    (hdev : m.isp_dev i = none) {o : InitOutcome} (ho : ¬ o.OpensDevice) :
    (m.isp_dev_open i o).2 < 0 := by
  unfold InitOutcome.OpensDevice at ho
  unfold isp_dev_open
  rw [if_neg (Nat.not_le.mpr hi), if_neg (not_not.mpr hdev)]
  dsimp only
  grind

theorem isp_init_of_pos (m : MediaParams) {i : Nat} (hi : i < HW_ISP_DEVICE_NUM)
    (hcnt : 0 < m.isp_use_cnt i) (o : InitOutcome) :
    m.isp_init i o =
      ({ m with isp_use_cnt := update m.isp_use_cnt i ((m.isp_use_cnt i + 1) % 2 ^ 32) }, 0) := by
  unfold isp_init
  rw [if_neg (Nat.not_le.mpr hi)]
  exact if_pos hcnt

def reopened (m : MediaParams) (i : Nat) : MediaParams :=
  { m with isp_use_cnt := update m.isp_use_cnt i 1 }.media_close.media_open

theorem isp_init_of_zero {m : MediaParams} {i : Nat} (hi : i < HW_ISP_DEVICE_NUM)
    (hcnt : m.isp_use_cnt i = 0) {o : InitOutcome} (hmedia : o.media_open = true) :
    m.isp_init i o =
      if ((m.reopened i).isp_dev_open i o).2 < 0 then (m.reopened i).isp_dev_open i o
      else ((m.reopened i).isp_dev_open i o).1.isp_init_tuning i o := by
  unfold isp_init
  rw [if_neg (Nat.not_le.mpr hi)]
  dsimp only
  rw [hcnt, if_neg (by omega), if_neg (by simp [hmedia])]
  rfl

theorem isp_init_isp_use_cnt (m : MediaParams) {i : Nat} (hi : i < HW_ISP_DEVICE_NUM)
    (o : InitOutcome) :
    (m.isp_init i o).1.isp_use_cnt =
      update m.isp_use_cnt i ((m.isp_use_cnt i + 1) % 2 ^ 32) := by
  unfold isp_init
  rw [if_neg (Nat.not_le.mpr hi)]
  dsimp only
  repeat' split
  · rfl
  · rw [media_close_isp_use_cnt]
  · rw [isp_dev_open_isp_use_cnt]
    exact media_close_isp_use_cnt _
  · rw [isp_init_tuning_isp_use_cnt, isp_dev_open_isp_use_cnt]
    exact media_close_isp_use_cnt _

theorem reopened_isp_dev (m : MediaParams) (i : Nat) : (m.reopened i).isp_dev = m.isp_dev :=
  media_close_isp_dev _

/-- The first user finds no device: the call succeeds exactly when all its steps do. -/
theorem isp_init_eq_zero_iff {m : MediaParams} {i : Nat} (hi : i < HW_ISP_DEVICE_NUM)
    (hcnt : m.isp_use_cnt i = 0) (hdev : m.isp_dev i = none) (o : InitOutcome) :
    (m.isp_init i o).2 = 0 ↔ o.Succeeds := by
  have hnone : (m.reopened i).isp_dev i = none := by rw [reopened_isp_dev, hdev]
  by_cases hmedia : o.media_open = true
  · rw [isp_init_of_zero hi hcnt hmedia]
    by_cases hopens : o.OpensDevice
    · rw [isp_dev_open_eq hi hnone hopens]
      cases htuning : o.tuning <;>
        simp [isp_init_tuning, InitOutcome.Succeeds, hmedia, hopens, htuning]
    · have hlt := isp_dev_open_fails hi hnone hopens
      rw [if_pos hlt]
      constructor
      · intro h
        omega
      · exact fun h => absurd h.2.1 hopens
  · simp [isp_init, InitOutcome.Succeeds, Nat.not_le.mpr hi, hcnt, hmedia]

end MediaParams

/-! ## Who holds which descriptor -/

/-- The media device and the ISP devices hold open descriptors, and no two of them the same one. -/
structure HeldBy (files : Files) (mdev : Option Nat) (dev : Nat → Finset Nat) : Prop where
  lt : ∀ fd ∈ files.fds, fd < files.opened
  mdev_mem : ∀ fd ∈ mdev, fd ∈ files.fds
  dev_subset : ∀ i, dev i ⊆ files.fds
  mdev_not_mem : ∀ fd ∈ mdev, ∀ i, fd ∉ dev i
  disjoint : ∀ i j, i ≠ j → Disjoint (dev i) (dev j)

namespace HeldBy

variable {files : Files} {mdev : Option Nat} {dev : Nat → Finset Nat}

theorem close_mdev {fd : Nat} (h : HeldBy files (some fd) dev) :
    HeldBy (files.close fd) none dev where
  lt := fun fd' hmem => h.lt fd' (Finset.mem_of_mem_erase hmem)
  mdev_mem := fun _ hmem => by cases hmem
  dev_subset := by
    intro i fd' hmem
    refine Finset.mem_erase.mpr ⟨?_, h.dev_subset i hmem⟩
    rintro rfl
    exact h.mdev_not_mem fd' rfl i hmem
  mdev_not_mem := fun _ hmem => by cases hmem
  disjoint := h.disjoint

theorem dev_lt (h : HeldBy files mdev dev) {i fd : Nat} (hmem : fd ∈ dev i) : fd < files.opened :=
  h.lt fd (h.dev_subset i hmem)

theorem open_mdev (h : HeldBy files none dev) :
    HeldBy files.openFile.1 (some files.opened) dev where
  lt := by
    intro fd hmem
    rcases Finset.mem_insert.mp hmem with rfl | hmem
    · exact Nat.lt_succ_self _
    · exact Nat.lt_succ_of_lt (h.lt fd hmem)
  mdev_mem := by
    intro fd hmem
    cases hmem
    exact Finset.mem_insert_self _ _
  dev_subset := fun i fd hmem => Finset.mem_insert_of_mem (h.dev_subset i hmem)
  mdev_not_mem := by
    intro fd hmem i hdev
    cases hmem
    exact absurd (h.dev_lt hdev) (Nat.lt_irrefl _)
  disjoint := h.disjoint

theorem open_dev (h : HeldBy files mdev dev) (i : Nat) (fds : Finset Nat) {opened : Nat}
    (hfresh : ∀ fd ∈ fds, files.opened ≤ fd ∧ fd < opened) (hle : files.opened ≤ opened) :
    HeldBy { fds := files.fds ∪ fds, opened := opened } mdev (update dev i fds) where
  lt := by
    intro fd hmem
    rcases Finset.mem_union.mp hmem with hmem | hmem
    · exact lt_of_lt_of_le (h.lt fd hmem) hle
    · exact (hfresh fd hmem).2
  mdev_mem := fun fd hmem => Finset.mem_union_left _ (h.mdev_mem fd hmem)
  dev_subset := by
    intro j
    rcases eq_or_ne j i with rfl | hne
    · rw [update_self]
      exact Finset.subset_union_right
    · rw [update_of_ne hne]
      exact (h.dev_subset j).trans Finset.subset_union_left
  mdev_not_mem := by
    intro fd hmem j hdev
    rcases eq_or_ne j i with rfl | hne
    · rw [update_self] at hdev
      have hlt := h.lt fd (h.mdev_mem fd hmem)
      have hge := (hfresh fd hdev).1
      omega
    · rw [update_of_ne hne] at hdev
      exact h.mdev_not_mem fd hmem j hdev
  disjoint := by
    have hnew : ∀ j, Disjoint fds (dev j) := by
      intro j
      refine Finset.disjoint_left.mpr fun fd hfd hdev => ?_
      have hlt := h.dev_lt hdev
      have hge := (hfresh fd hfd).1
      omega
    intro j k hjk
    rcases eq_or_ne j i with rfl | hj
    · rw [update_self, update_of_ne hjk.symm]
      exact hnew k
    · rcases eq_or_ne k i with rfl | hk
      · rw [update_self, update_of_ne hj]
        exact (hnew j).symm
      · rw [update_of_ne hj, update_of_ne hk]
        exact h.disjoint j k hjk

theorem close_dev (h : HeldBy files mdev dev) (i : Nat) :
    HeldBy { files with fds := files.fds \ dev i } mdev (update dev i ∅) where
  lt := fun fd hmem => h.lt fd (Finset.mem_sdiff.mp hmem).1
  mdev_mem := fun fd hmem =>
    Finset.mem_sdiff.mpr ⟨h.mdev_mem fd hmem, h.mdev_not_mem fd hmem i⟩
  dev_subset := by
    intro j
    rcases eq_or_ne j i with rfl | hne
    · simp
    · rw [update_of_ne hne]
      exact Finset.subset_sdiff.mpr ⟨h.dev_subset j, h.disjoint j i hne⟩
  mdev_not_mem := by
    intro fd hmem j hdev
    rcases eq_or_ne j i with rfl | hne
    · simp at hdev
    · rw [update_of_ne hne] at hdev
      exact h.mdev_not_mem fd hmem j hdev
  disjoint := by
    intro j k hjk
    rcases eq_or_ne j i with rfl | hj
    · simp
    · rcases eq_or_ne k i with rfl | hk
      · simp
      · rw [update_of_ne hj, update_of_ne hk]
        exact h.disjoint j k hjk

end HeldBy

namespace MediaParams

def devFds (m : MediaParams) (i : Nat) : Finset Nat :=
  ((m.isp_dev i).map HwIspDevice.fds).getD ∅

theorem devFds_of_some {m : MediaParams} {i : Nat} {isp : HwIspDevice}
    (h : m.isp_dev i = some isp) : m.devFds i = isp.fds := by
  simp [devFds, h]

theorem devFds_update {m m' : MediaParams} {i : Nat} {isp : Option HwIspDevice}
    (h : m'.isp_dev = update m.isp_dev i isp) :
    m'.devFds = update m.devFds i ((isp.map HwIspDevice.fds).getD ∅) := by
  funext j
  rcases eq_or_ne j i with rfl | hne
  · simp [devFds, h]
  · simp [devFds, h, hne]

theorem reopened_held {m : MediaParams} (h : HeldBy m.files m.mdev m.devFds) (i : Nat) :
    HeldBy (m.reopened i).files (m.reopened i).mdev m.devFds := by
  unfold reopened media_open media_close
  cases hmdev : m.mdev with
  | none =>
      rw [hmdev] at h
      exact h.open_mdev
  | some fd =>
      rw [hmdev] at h
      exact h.close_mdev.open_mdev

theorem isp_init_first {m : MediaParams} {i : Nat} (hi : i < HW_ISP_DEVICE_NUM)
    (hcnt : m.isp_use_cnt i = 0) (hdev : m.isp_dev i = none)
    (hheld : HeldBy m.files m.mdev m.devFds) {o : InitOutcome} (ho : o.Succeeds) :
    ∃ isp : HwIspDevice, isp.tuning ≠ none ∧
      (m.isp_init i o).1.isp_dev = update m.isp_dev i (some isp) ∧
      HeldBy (m.isp_init i o).1.files (m.isp_init i o).1.mdev (m.isp_init i o).1.devFds := by
  have hnone : (m.reopened i).isp_dev i = none := by rw [reopened_isp_dev, hdev]
  have hopen := isp_dev_open_eq hi hnone ho.2.1
  have hinit := isp_init_of_zero hi hcnt ho.1
  rw [hopen, if_neg (Int.lt_irrefl 0)] at hinit
  let n := (m.reopened i).files.opened
  let isp : HwIspDevice :=
    { stat := n, subdev := n + 1, sensor := n + 2, ctx := true
      tuning := some ((m.reopened i).allocated + 1) }
  have hisp : (m.isp_init i o).1.isp_dev = update m.isp_dev i (some isp) := by
    simp [hinit, isp_init_tuning, ho.2.2, reopened_isp_dev, isp, n]
  refine ⟨isp, by simp [isp], hisp, ?_⟩
  have hfiles : (m.isp_init i o).1.files =
      { fds := (m.reopened i).files.fds ∪ isp.fds, opened := n + 3 } := by
    have hfds : insert (n + 2) (insert (n + 1) (insert n (m.reopened i).files.fds)) =
        (m.reopened i).files.fds ∪ isp.fds := by
      ext fd
      simp only [isp, HwIspDevice.fds, Finset.mem_insert, Finset.mem_union, Finset.mem_singleton]
      tauto
    rw [← hfds]
    simp [hinit, isp_init_tuning, ho.2.2, n]
  have hmdev : (m.isp_init i o).1.mdev = (m.reopened i).mdev := by
    simp [hinit, isp_init_tuning, ho.2.2]
  rw [hfiles, hmdev, devFds_update hisp]
  refine (reopened_held hheld i).open_dev i isp.fds ?_ (Nat.le_add_right _ _)
  intro fd hfd
  simp only [isp, HwIspDevice.fds, Finset.mem_insert, Finset.mem_singleton] at hfd
  change n ≤ fd ∧ fd < n + 3
  omega

theorem isp_exit_last {m : MediaParams} {i : Nat} (hi : i < HW_ISP_DEVICE_NUM)
    (hcnt : m.isp_use_cnt i = 1) {isp : HwIspDevice} (hdev : m.isp_dev i = some isp)
    (hheld : HeldBy m.files m.mdev m.devFds) :
    (m.isp_exit i).1.isp_use_cnt = update m.isp_use_cnt i 0 ∧
      (m.isp_exit i).1.isp_dev = update m.isp_dev i none ∧
      HeldBy (m.isp_exit i).1.files (m.isp_exit i).1.mdev (m.isp_exit i).1.devFds := by
  have hexit : (m.isp_exit i).1.isp_use_cnt = update m.isp_use_cnt i 0 ∧
      (m.isp_exit i).1.isp_dev = update m.isp_dev i none ∧ (m.isp_exit i).1.mdev = m.mdev ∧
      (m.isp_exit i).1.files =
        ((m.files.close isp.stat).close isp.subdev).close isp.sensor := by
    simp [isp_exit, isp_tuning_exit, isp_dev_close, Nat.not_le.mpr hi, hcnt, hdev]
  obtain ⟨huse, hisp, hmdev, hfiles⟩ := hexit
  refine ⟨huse, hisp, ?_⟩
  have hclose : ((m.files.close isp.stat).close isp.subdev).close isp.sensor =
      { m.files with fds := m.files.fds \ m.devFds i } := by
    rw [devFds_of_some hdev]
    simp only [Files.close, HwIspDevice.fds, Files.mk.injEq, and_true]
    ext fd
    simp only [Finset.mem_erase, Finset.mem_sdiff, Finset.mem_insert, Finset.mem_singleton]
    tauto
  rw [hfiles, hmdev, hclose, devFds_update hisp]
  exact hheld.close_dev i

end MediaParams

/-! ## Runs -/

/-- The library with the number of `isp_init` calls that succeeded and of `isp_exit` calls. -/
structure System where
  media : MediaParams := {}
  inits : Nat → Nat := fun _ => 0
  exits : Nat → Nat := fun _ => 0

inductive Call where
  | init (dev_id : Nat) (o : InitOutcome)
  | run (dev_id : Nat) (created : Bool)
  | stop (dev_id : Nat)
  | exit (dev_id : Nat)
deriving DecidableEq, Repr

namespace System

def step (s : System) : Call → System
  | .init i o =>
      { s with
        media := (s.media.isp_init i o).1
        inits := if (s.media.isp_init i o).2 = 0 then update s.inits i (s.inits i + 1)
          else s.inits }
  | .run i created => { s with media := (s.media.isp_run i created).1 }
  | .stop i => { s with media := (s.media.isp_stop i).1 }
  | .exit i => { s with
      media := (s.media.isp_exit i).1
      exits := update s.exits i (s.exits i + 1) }

/-- Each `isp_exit` follows an `isp_init` that succeeded. -/
def ExitFollows (s : System) : Call → Prop
  | .exit i => s.exits i < s.inits i
  | _ => True

/-- The counter is the number of users, and it is positive exactly when the device is open. -/
def Counted (s : System) : Prop :=
  ∀ i < HW_ISP_DEVICE_NUM,
    s.media.isp_use_cnt i + s.exits i = s.inits i ∧
      (0 < s.media.isp_use_cnt i ↔ s.media.Open i)

/-- A call of `isp_init` that fails changes neither the counter nor the context nor what is open. -/
def FailsClean (s : System) : Call → Prop
  | .init i o => (s.media.isp_init i o).2 ≠ 0 →
      (s.media.isp_init i o).1.isp_use_cnt i = s.media.isp_use_cnt i ∧
      (s.media.isp_init i o).1.isp_ctx i = s.media.isp_ctx i ∧
      (s.media.isp_init i o).1.files.fds = s.media.files.fds
  | _ => True

/-- No `isp_init` of the first user fails, and the number of users stays below `2 ^ 32`. -/
def FirstSucceeds (s : System) : Call → Prop
  | .init i o => i < HW_ISP_DEVICE_NUM →
      if s.media.isp_use_cnt i = 0 then o.Succeeds else s.media.isp_use_cnt i + 1 < 2 ^ 32
  | _ => True

instance (s : System) : (e : Call) → Decidable (s.ExitFollows e)
  | .exit _ => inferInstanceAs (Decidable (_ < _))
  | .init _ _ => inferInstanceAs (Decidable True)
  | .run _ _ => inferInstanceAs (Decidable True)
  | .stop _ => inferInstanceAs (Decidable True)

instance (s : System) : Decidable s.Counted :=
  inferInstanceAs (Decidable (∀ i < HW_ISP_DEVICE_NUM, _))

instance (s : System) : (e : Call) → Decidable (s.FailsClean e)
  | .init _ _ => inferInstanceAs (Decidable (_ → _))
  | .run _ _ => inferInstanceAs (Decidable True)
  | .stop _ => inferInstanceAs (Decidable True)
  | .exit _ => inferInstanceAs (Decidable True)

/-- What holds between calls as long as no first user fails. -/
structure Inv (s : System) : Prop where
  count : ∀ i, s.media.isp_use_cnt i + s.exits i = s.inits i
  outside : ∀ i, HW_ISP_DEVICE_NUM ≤ i → s.media.isp_use_cnt i = 0
  closed : ∀ i, s.media.isp_use_cnt i = 0 → s.media.isp_dev i = none
  bound : ∀ i, 0 < s.media.isp_use_cnt i →
    ∃ isp, s.media.isp_dev i = some isp ∧ isp.tuning ≠ none
  held : HeldBy s.media.files s.media.mdev s.media.devFds

theorem Inv.counted {s : System} (h : s.Inv) : s.Counted := by
  intro i _
  refine ⟨h.count i, ?_, ?_⟩
  · intro hpos
    obtain ⟨isp, hisp, htuning⟩ := h.bound i hpos
    refine ⟨isp, hisp, htuning, ?_⟩
    rw [← MediaParams.devFds_of_some hisp]
    exact h.held.dev_subset i
  · rintro ⟨isp, hisp, -⟩
    by_contra hzero
    have hnone := h.closed i (by omega)
    rw [Option.mem_def, hnone] at hisp
    cases hisp

theorem Inv.of_dev {s s' : System} (h : s.Inv) (i cnt : Nat) (dev : Option HwIspDevice)
    (hcnt : s'.media.isp_use_cnt = update s.media.isp_use_cnt i cnt)
    (hdev : s'.media.isp_dev = update s.media.isp_dev i dev)
    (houtside : HW_ISP_DEVICE_NUM ≤ i → cnt = 0) (hclosed : cnt = 0 → dev = none)
    (hbound : 0 < cnt → ∃ isp, dev = some isp ∧ isp.tuning ≠ none)
    (hcount : ∀ j, s'.media.isp_use_cnt j + s'.exits j = s'.inits j)
    (hheld : HeldBy s'.media.files s'.media.mdev s'.media.devFds) : s'.Inv where
  count := hcount
  outside := by
    intro j hj
    rw [hcnt]
    rcases eq_or_ne j i with rfl | hne
    · rw [update_self]
      exact houtside hj
    · rw [update_of_ne hne]
      exact h.outside j hj
  closed := by
    intro j hzero
    rw [hcnt] at hzero
    rw [hdev]
    rcases eq_or_ne j i with rfl | hne
    · rw [update_self] at hzero ⊢
      exact hclosed hzero
    · rw [update_of_ne hne] at hzero ⊢
      exact h.closed j hzero
  bound := by
    intro j hpos
    rw [hcnt] at hpos
    rw [hdev]
    rcases eq_or_ne j i with rfl | hne
    · rw [update_self] at hpos ⊢
      exact hbound hpos
    · rw [update_of_ne hne] at hpos ⊢
      exact h.bound j hpos
  held := hheld

theorem Inv.of_count {s s' : System} (h : s.Inv) (i cnt : Nat)
    (hdev : s'.media.isp_dev = s.media.isp_dev) (hfiles : s'.media.files = s.media.files)
    (hmdev : s'.media.mdev = s.media.mdev)
    (hcnt : s'.media.isp_use_cnt = update s.media.isp_use_cnt i cnt)
    (hpos : 0 < cnt ↔ 0 < s.media.isp_use_cnt i)
    (hcount : ∀ j, s'.media.isp_use_cnt j + s'.exits j = s'.inits j) : s'.Inv := by
  apply h.of_dev i cnt (s.media.isp_dev i) hcnt
  · rw [hdev, update_eq_self]
  · intro hi
    have hzero := h.outside i hi
    omega
  · intro hzero
    exact h.closed i (by omega)
  · intro hlt
    exact h.bound i (hpos.mp hlt)
  · exact hcount
  · have hfds : s'.media.devFds = s.media.devFds := by
      funext j
      simp only [MediaParams.devFds, hdev]
    rw [hfiles, hmdev, hfds]
    exact h.held

theorem Inv.init {s : System} (h : s.Inv) {i : Nat} {o : InitOutcome}
    (ho : s.FirstSucceeds (.init i o)) :
    (s.step (.init i o)).Inv ∧ s.FailsClean (.init i o) := by
  by_cases hi : i < HW_ISP_DEVICE_NUM
  · have hcall := ho hi
    have hcnt := s.media.isp_init_isp_use_cnt hi o
    split at hcall
    · -- the first user
      rename_i hzero
      have hdev := h.closed i hzero
      have hret := (MediaParams.isp_init_eq_zero_iff hi hzero hdev o).mpr hcall
      obtain ⟨isp, htuning, hisp, hheld⟩ := MediaParams.isp_init_first hi hzero hdev h.held hcall
      refine ⟨?_, fun hne => absurd hret hne⟩
      apply h.of_dev i 1 (some isp)
      · simp only [step, hcnt, hzero]
        rfl
      · exact hisp
      · exact fun hge => absurd hge (Nat.not_le.mpr hi)
      · intro hfalse
        cases hfalse
      · exact fun _ => ⟨isp, rfl, htuning⟩
      · intro j
        have hj := h.count j
        simp only [step, hcnt, if_pos hret]
        rcases eq_or_ne j i with rfl | hne
        · simp only [update_self, hzero] at hj ⊢
          omega
        · simpa only [update_of_ne hne] using hj
      · exact hheld
    · rename_i hpos
      have heq := s.media.isp_init_of_pos hi (Nat.pos_of_ne_zero hpos) o
      have hmod := Nat.mod_eq_of_lt hcall
      have hstep : s.step (.init i o) =
          { s with
            media := { s.media with
              isp_use_cnt := update s.media.isp_use_cnt i (s.media.isp_use_cnt i + 1) }
            inits := update s.inits i (s.inits i + 1) } := by
        simp only [step, heq, hmod, if_pos]
      refine ⟨?_, fun hne => absurd (by rw [heq]) hne⟩
      rw [hstep]
      refine h.of_count i (s.media.isp_use_cnt i + 1) rfl rfl rfl rfl (by omega) ?_
      intro j
      have hj := h.count j
      rcases eq_or_ne j i with rfl | hne
      · simp only [update_self]
        omega
      · simpa only [update_of_ne hne] using hj
  · have heq : s.media.isp_init i o = (s.media, -1) := if_pos (Nat.not_lt.mp hi)
    constructor
    · have hstep : s.step (.init i o) = s := by simp [step, heq]
      rw [hstep]
      exact h
    · intro _
      rw [heq]
      exact ⟨rfl, rfl, rfl⟩

theorem Inv.of_eq {s s' : System} (h : s.Inv) (hdev : s'.media.isp_dev = s.media.isp_dev)
    (hfiles : s'.media.files = s.media.files) (hmdev : s'.media.mdev = s.media.mdev)
    (hcnt : s'.media.isp_use_cnt = s.media.isp_use_cnt) (hinits : s'.inits = s.inits)
    (hexits : s'.exits = s.exits) : s'.Inv := by
  refine h.of_count 0 (s.media.isp_use_cnt 0) hdev hfiles hmdev ?_ Iff.rfl ?_
  · rw [hcnt, update_eq_self]
  · intro j
    rw [hcnt, hinits, hexits]
    exact h.count j

theorem Inv.run {s : System} (h : s.Inv) (i : Nat) (created : Bool) :
    (s.step (.run i created)).Inv := by
  apply h.of_eq <;>
    · simp only [step, MediaParams.isp_run]
      repeat' split
      all_goals rfl

theorem Inv.stop {s : System} (h : s.Inv) (i : Nat) : (s.step (.stop i)).Inv := by
  apply h.of_eq <;>
    · simp only [step, MediaParams.isp_stop]
      repeat' split
      all_goals rfl

theorem Inv.exit {s : System} (h : s.Inv) {i : Nat} (hfollows : s.ExitFollows (.exit i)) :
    (s.step (.exit i)).Inv := by
  have hlt : s.exits i < s.inits i := hfollows
  have hcount := h.count i
  have hi : i < HW_ISP_DEVICE_NUM := by
    by_contra hge
    have hzero := h.outside i (Nat.not_lt.mp hge)
    omega
  obtain ⟨isp, hisp, htuning⟩ := h.bound i (by omega)
  by_cases hone : s.media.isp_use_cnt i = 1
  · obtain ⟨hcnt, hdev, hheld⟩ := MediaParams.isp_exit_last hi hone hisp h.held
    apply h.of_dev i 0 none hcnt hdev
    · exact fun _ => rfl
    · exact fun _ => rfl
    · intro hfalse
      omega
    · intro j
      have hj := h.count j
      simp only [step, hcnt]
      rcases eq_or_ne j i with rfl | hne
      · simp only [update_self]
        omega
      · simpa only [update_of_ne hne] using hj
    · exact hheld
  · -- other users remain, and only the counter changes
    have hexit : s.media.isp_exit i =
        ({ s.media with
            isp_use_cnt := update s.media.isp_use_cnt i (s.media.isp_use_cnt i - 1) }, 0) := by
      have hne : s.media.isp_use_cnt i ≠ 0 := by omega
      have hgt : 0 < s.media.isp_use_cnt i - 1 := by omega
      simp [MediaParams.isp_exit, Nat.not_le.mpr hi, hne, hgt]
    refine h.of_count i (s.media.isp_use_cnt i - 1) ?_ ?_ ?_ ?_ (by omega) ?_
    · simp only [step, hexit]
    · simp only [step, hexit]
    · simp only [step, hexit]
    · simp only [step, hexit]
    · intro j
      have hj := h.count j
      simp only [step, hexit]
      rcases eq_or_ne j i with rfl | hne
      · simp only [update_self]
        omega
      · simpa only [update_of_ne hne] using hj

theorem Inv.start : Inv {} where
  count := fun _ => rfl
  outside := fun _ _ => rfl
  closed := fun _ _ => rfl
  bound := fun _ hpos => absurd hpos (Nat.lt_irrefl 0)
  held :=
    { lt := fun _ hmem => absurd hmem (Finset.notMem_empty _)
      mdev_mem := fun _ hmem => by cases hmem
      dev_subset := fun _ => Finset.Subset.refl _
      mdev_not_mem := fun _ hmem => by cases hmem
      disjoint := fun _ _ _ => Finset.disjoint_empty_left _ }

theorem Inv.step {s : System} (h : s.Inv) {e : Call} (hfollows : s.ExitFollows e)
    (hfirst : s.FirstSucceeds e) : (s.step e).Inv := by
  cases e with
  | init i o => exact (h.init hfirst).1
  | run i created => exact h.run i created
  | stop i => exact h.stop i
  | exit i => exact h.exit hfollows

/-- A first user that fails is counted, and so is one too many for the counter. -/
theorem Inv.firstSucceeds {s : System} (h : s.Inv) {e : Call} (hcounted : (s.step e).Counted) :
    s.FirstSucceeds e := by
  cases e with
  | run i created => trivial
  | stop i => trivial
  | exit i => trivial
  | init i o =>
      intro hi
      have hnext := (hcounted i hi).1
      have hcount := h.count i
      simp only [System.step, s.media.isp_init_isp_use_cnt hi o, update_self] at hnext
      split
      · rename_i hzero
        by_contra hfails
        have hret : (s.media.isp_init i o).2 ≠ 0 :=
          mt (MediaParams.isp_init_eq_zero_iff hi hzero (h.closed i hzero) o).mp hfails
        rw [if_neg hret, hzero, Nat.mod_eq_of_lt (by decide)] at hnext
        omega
      · rename_i hpos
        have hret := s.media.isp_init_of_pos hi (Nat.pos_of_ne_zero hpos) o
        rw [hret, if_pos rfl, update_self] at hnext
        have hlt := Nat.mod_lt (s.media.isp_use_cnt i + 1) (show 0 < 2 ^ 32 by decide)
        omega

instance (s : System) : (e : Call) → Decidable (s.FirstSucceeds e)
  | .init i o => inferInstanceAs (Decidable (i < HW_ISP_DEVICE_NUM →
      if s.media.isp_use_cnt i = 0 then o.Succeeds else s.media.isp_use_cnt i + 1 < 2 ^ 32))
  | .run _ _ => inferInstanceAs (Decidable True)
  | .stop _ => inferInstanceAs (Decidable True)
  | .exit _ => inferInstanceAs (Decidable True)

/-- In a run in which each `isp_exit` follows an `isp_init` that succeeded, the counters match what
is open and failing calls change nothing exactly when no first user of a device fails, at the media
device, at the device or at the tuning, and no device gets `2 ^ 32` users. -/
theorem isp_use_cnt_counts_iff (calls : List Call)
    (hfollows : Guarded step (fun _ s e => s.ExitFollows e) {} calls) :
    Guarded step (fun _ s e => (s.step e).Counted ∧ s.FailsClean e) {} calls ↔
      Guarded step (fun _ s e => s.FirstSucceeds e) {} calls := by
  refine guarded_iff_of_valid (fun _ s => s.Inv) Inv.start ?_ ?_ hfollows
  · intro _ s e h hexit hfirst
    exact h.step hexit hfirst
  · intro _ s e h hexit
    refine ⟨fun hok => h.firstSucceeds hok.1, fun hfirst => ?_⟩
    refine ⟨(h.step hexit hfirst).counted, ?_⟩
    cases e with
    | init i o => exact (h.init hfirst).2
    | run i created => trivial
    | stop i => trivial
    | exit i => trivial

set_option maxRecDepth 10000 in
theorem isp_use_cnt_counts_two_users :
    Guarded step (fun _ s e => (s.step e).Counted ∧ s.FailsClean e) {}
      [.init 0 {}, .init 1 { otp_info := false, params := none }, .init 0 {}, .run 0 true,
        .init 2 {}, .stop 0, .exit 0, .exit 0, .init 0 {}] :=
  (isp_use_cnt_counts_iff _ (by decide)).mpr (by decide)

set_option maxRecDepth 10000 in
/-- A sensor that cannot be opened: the counter is 1 and two descriptors are left open, so that the
next user is told all is well with no device there. -/
theorem isp_use_cnt_counts_failed_sensor :
    ¬ Guarded step (fun _ s e => (s.step e).Counted ∧ s.FailsClean e) {}
        [.init 0 { sensor_open := false }] ∧
      (MediaParams.isp_init (step {} (.init 0 { sensor_open := false })).media 0 {}).2 = 0 ∧
      (step (step {} (.init 0 { sensor_open := false })) (.init 0 {})).media.isp_dev 0 = none := by
  decide

end System

end AwHal.Isp
