import AwHal.Pq.FirmwareReload
import AwHal.Pq.RequestQueue
import AwHal.Pq.Sharpness

/-!
# Carrying out the packages of the PQ daemon

`translate_thread` gives the data of a package to `trans_to_dexx`, which sets or reads what its id
stands for with calls of `ioctl`, alone or through `trans_to_spec`.  What comes back decides the reply.
-/

namespace AwHal.Pq

open AwHal.Lib DispDriver

/-! ## The data of a package -/

/-- What is behind the id of `trans_base`.  `float` values are words. -/
inductive TransBase where
  | ic_base (ic de : Int)
  | single (reg : RegiserPair)
  -- `count` pairs
  | registers (set : List RegiserPair)
  -- the ids 4 and 5
  | unused (second : Bool)
  | gamma_lut (value : List (BitVec 8))
  | peak (peak : PeakSharp)
  | lti (lti : LtiSharp)
  | color_enhance (contrast brightness saturation hue : BitVec 8)
  -- `matrix_in_out` with its three rows and its offsets
  | matrix (isOut : Bool) (space : BitVec 8) (rows : List (List Word)) (offsets : List Word)
  | other (id : Int)
deriving DecidableEq, Repr

def TransBase.id : TransBase → Int
  | .ic_base _ _ => 1
  | .single _ => 2
  | .registers _ => 3
  | .unused second => if second then 5 else 4
  | .gamma_lut _ => 11
  | .peak p => p.id
  | .lti l => l.id
  | .color_enhance _ _ _ _ => 14
  | .matrix isOut _ _ _ => if isOut then 16 else 15
  | .other id => id

structure Surroundings where
  -- whether `malloc` has memory, and what is in it
  mallocs : Bool
  heap : List Word
  -- `ceil` of 4096 times a `float`, and the `float` of a 4096th
  ceil : Word → Int
  float : Int → Word
  ic : Int
  de_version : Int
  -- whether the firmware data file is open or can be opened, and what it holds
  opens : Bool
  file : List UInt8

/-! ## `trans_to_spec` -/

def trans_x_gamma (value : List (BitVec 8)) (cout : Nat) : List Word :=
  (List.range cout).map fun i ↦
    ((value.getD i 0).setWidth 32 <<< 16) ||| ((value.getD (i + cout) 0).setWidth 32 <<< 8)
      ||| (value.getD (i + cout * 2) 0).setWidth 32

def gamma_x_trans (cout : Nat) (data : List Word) : List (BitVec 8) :=
  [16, 8, 0].flatMap fun shift ↦
    (List.range cout).map fun i ↦ (data.getD i 0 >>> shift).setWidth 8

/-- `malloc` is asked for the size of the matrix alone.  The last two numbers of the constant row, which
are written behind that, are taken to hit nothing that is read again. -/
def trans_to_matix (s : Surroundings) (space : BitVec 8) (rows : List (List Word))
    (offsets : List Word) : Option MatrixUser :=
  if s.mallocs then
    some
      { cmd := 0
        read := false
        choice := space.toNat
        matrix := (List.zipWith (fun row offset ↦ row ++ [offset]) rows offsets).flatten.map s.ceil }
  else none

def matix_to_trans (s : Surroundings) (us : MatrixUser) : List (List Word) × List Word :=
  let value := fun k ↦ s.float (us.matrix.getD k 0)
  ([[value 0, value 1, value 2], [value 4, value 5, value 6], [value 8, value 9, value 10]],
    [value 3, value 7, value 11])

def NUM_SUM : Int := 4

def trans_to_spec (s : Surroundings) (disp : DispDriver) (de : Int) (data : TransBase)
    (write : Bool) : Int × TransBase × DispDriver :=
  match data with
  | .gamma_lut value =>
      if write then
        let lut_d := if s.mallocs then trans_x_gamma value 256 else []
        let (_, _, disp) := disp.ioctl .gammaEnable
        let (_, _, disp) := disp.ioctl (.setGammaTable de lut_d)
        (0, data, disp)
      else if s.mallocs then
        let (_, call, disp) := disp.ioctl (.getGammaTable de s.heap)
        let lut_d := match call with
          | .getGammaTable _ lut => lut
          | _ => s.heap
        (0, .gamma_lut (gamma_x_trans 256 lut_d), disp)
      else (-1, data, disp)
  | .peak peak =>
      if write then
        let (_, disp) := tans_to_peak s.mallocs disp de peak
        (0, data, disp)
      else
        let (_, peak, disp) := peak_to_trans s.mallocs disp de peak
        (0, .peak peak, disp)
  | .lti lti =>
      if write then
        let (_, disp) := tans_to_lti s.mallocs disp de lti
        (0, data, disp)
      else
        let (_, lti, disp) := lti_to_trans s.mallocs disp de lti
        (0, .lti lti, disp)
  | .color_enhance contrast brightness saturation hue =>
      let cm : ColorEnhanc := ⟨!write, contrast.toNat, brightness.toNat, saturation.toNat, hue.toNat⟩
      let (_, call, disp) := disp.ioctl (.enhance de cm)
      let cm := match call with
        | .enhance _ cm => cm
        | _ => cm
      (0, if write then data
        else .color_enhance (.ofInt 8 cm.contrast) (.ofInt 8 cm.brightness) (.ofInt 8 cm.saturation)
          (.ofInt 8 cm.hue), disp)
  | .matrix isOut space rows offsets =>
      match trans_to_matix s space rows offsets with
      | none => (-1, data, disp)
      | some ma_us =>
          if NUM_SUM ≤ ma_us.choice then (-1, data, disp)
          else
            let ma_us := { ma_us with cmd := data.id - 14, read := !write }
            let (_, call, disp) := disp.ioctl (.matrix de ma_us)
            let ma_us := match call with
              | .matrix _ us => us
              | _ => ma_us
            let (rows', offsets') := matix_to_trans s ma_us
            (0, if write then data else .matrix isOut space rows' offsets', disp)
  | _ => (0, data, disp)

/-! ## `trans_to_dexx` -/

/-- What is left after `trans_to_dexx`: its result, the data, the display that is set and the
driver. -/
structure Translated where
  ret : Int
  data : TransBase
  de : Int
  disp : DispDriver

def trans_to_dexx (s : Surroundings) (disp : DispDriver) (de : Int) (data : TransBase)
    (write : Bool) : Translated :=
  match data with
  | .ic_base _ ic_de =>
      if write then ⟨0, data, ic_de, disp⟩ else ⟨0, .ic_base s.ic s.de_version, de, disp⟩
  | .single reg =>
      let (ret, call, disp) := disp.ioctl (if write then .setReg de [reg] else .getReg de [reg])
      let reg := match call with
        | .getReg _ [reg] => reg
        | _ => reg
      if ret ≠ 0 then ⟨-1, .single reg, de, disp⟩ else ⟨0, .single reg, de, disp⟩
  | .registers set =>
      let (ret, call, disp) := disp.ioctl (if write then .setReg de set else .getReg de set)
      let set := match call with
        | .getReg _ set => set
        | _ => set
      if ret ≠ 0 then ⟨-1, .registers set, de, disp⟩ else ⟨0, .registers set, de, disp⟩
  | .unused _ => ⟨0, data, de, disp⟩
  | _ =>
      -- what `trans_to_spec` returns is printed if it is negative
      let (_, data, disp) := trans_to_spec s disp de data write
      ⟨0, data, de, disp⟩

/-! ## `translate_thread` -/

inductive Command where
  | read
  | set
  | save
deriving DecidableEq, Repr

def Command.code : Command → Int
  | .read => 1
  | .set => 2
  | .save => 3

def TransBase.saveData (data : TransBase) (size : Int) : SaveData where
  size := size
  id := data.id
  values := match data with
    | .gamma_lut value => value.map fun v ↦ UInt8.ofBitVec v
    | .peak p =>
        [p.gain, p.neg_gain, p.hp_ratio, p.bp0_ratio, p.bp1_ratio, p.dif_up, p.corth, p.beta].map
          fun v ↦ UInt8.ofBitVec v
    | _ => []

def saved (fuel : Nat) (s : Surroundings) (de : Int) (data : SaveData) :
    Except Fault (Option Int) :=
  if s.opens then
    match save_cfg_firmware fuel s.mallocs de data s.file with
    | .error e => .error e
    | .ok none => .ok none
    | .ok (some _) => .ok (some 0)
  else .ok (some (-1))

def answer (fuel : Nat) (s : Surroundings) (disp : DispDriver) (de : Int) (command : Command)
    (client_fd size : Int) (data : TransBase) :
    Except Fault (Option (Reply × TransBase × DispDriver)) :=
  let t := trans_to_dexx s disp de data (command ≠ .read)
  let reply := fun save ↦
    translate ⟨client_fd, command.code, size⟩
      { trans_to_dexx := t.ret, save_cfg_firmware := save }
  if command = .save ∧ t.ret = 0 then
    match saved fuel s t.de (t.data.saveData size) with
    | .error e => .error e
    | .ok none => .ok none
    | .ok (some ret) => .ok (some (reply ret, t.data, t.disp))
  else .ok (some (reply 0, t.data, t.disp))

/-! ## Truthful replies -/

/-- Every call between two states of the driver succeeded. -/
def AllSucceeded (before after : DispDriver) : Prop :=
  ∀ k, before.calls.length ≤ k → k < after.calls.length → before.results k = 0

/-- A reply comes, and it tells whether every call succeeded: with `ret` for a set or a save, and
with the data of the package or an error for a read. -/
def Truthful (s : Surroundings) (disp : DispDriver) (de : Int) (command : Command)
    (client_fd size : Int) (data : TransBase) : Prop :=
  ∃ fuel reply data' disp',
    answer fuel s disp de command client_fd size data = .ok (some (reply, data', disp')) ∧
      match command with
      | .read =>
          (AllSucceeded disp disp' → reply.ret = none ∧ reply.size = size) ∧
            (¬ AllSucceeded disp disp' → ∃ e, reply.ret = some e ∧ e ≠ 0)
      | _ => reply.ret = some 0 ↔ AllSucceeded disp disp'

/-- The calls that a package makes as long as none of them fails. -/
def TransBase.callsMade (s : Surroundings) (write : Bool) : TransBase → Nat
  | .single _ => 1
  | .registers _ => 1
  | .gamma_lut _ => if write then 2 else if s.mallocs then 1 else 0
  | .peak _ => if s.mallocs then if write then 2 else 1 else 0
  | .lti _ => if s.mallocs then if write then 2 else 1 else 0
  | .color_enhance _ _ _ _ => 1
  | .matrix _ space _ _ => if s.mallocs ∧ (space.toNat : Int) < NUM_SUM then 1 else 0
  | _ => 0

/-- None of the calls that the package makes fails. -/
def NoneFails (s : Surroundings) (disp : DispDriver) (data : TransBase) (write : Bool) : Prop :=
  ∀ k < data.callsMade s write, disp.results (disp.calls.length + k) = 0

/-- `trans_to_dexx` sees the failures of its own calls, but not those of `trans_to_spec`. -/
def TransBase.IsGeneric : TransBase → Prop
  | .ic_base _ _ => True
  | .single _ => True
  | .registers _ => True
  | .unused _ => True
  | _ => False

/-- The replies that are right.  A save that is not refused needs the file; where `updata_firm_spec`
does not fail or is not called, `save_cfg_firmware` writes in front of its buffer. -/
def Reported (s : Surroundings) (disp : DispDriver) (command : Command) (data : TransBase) : Prop :=
  match command with
  | .read => data.IsGeneric ∨ NoneFails s disp data false
  | .set => data.IsGeneric ∨ NoneFails s disp data true
  | .save =>
      (NoneFails s disp data true ∧ s.opens = true ∧
          (s.mallocs = true → data.id = 11 ∨ data.id = 12)) ∨
        (¬ NoneFails s disp data true ∧ (data.IsGeneric ∨ s.opens = false))

/-! ## The calls -/

theorem allSucceeded_iff {before after : DispDriver} {made : Nat}
    (h : after.calls.length = before.calls.length + made) :
    AllSucceeded before after ↔ ∀ k < made, before.results (before.calls.length + k) = 0 := by
  unfold AllSucceeded
  rw [h]
  constructor
  · intro hall k hk
    exact hall _ (by omega) (by omega)
  · intro hall k hle hlt
    have hk := hall (k - before.calls.length) (by omega)
    rwa [show before.calls.length + (k - before.calls.length) = k by omega] at hk

/-- The call that writes the registers is made only if the one that reads them succeeded. -/
theorem allSucceeded_transToRegs (mallocs : Bool) (disp : DispDriver) (de : Int)
    (offsets : List Word) (change : (Nat → Word) → List Word) :
    AllSucceeded disp (transToRegs mallocs disp de offsets change).2 ↔
      ∀ k < if mallocs then 2 else 0, disp.results (disp.calls.length + k) = 0 := by
  unfold transToRegs
  cases mallocs with
  | false => exact allSucceeded_iff rfl
  | true =>
      simp only [if_true, ioctl_ret]
      by_cases hget : disp.results disp.calls.length = 0
      · rw [if_neg (by simp [hget])]
        exact allSucceeded_iff (by simp)
      · rw [if_pos hget, allSucceeded_iff (by simp : _ = _ + 1)]
        constructor
        · intro h
          exact absurd (h 0 (by decide)) hget
        · intro h
          exact absurd (h 0 (by decide)) hget

theorem allSucceeded_regsToTrans {α : Type} (mallocs : Bool) (disp : DispDriver) (de : Int)
    (offsets : List Word) (old : α) (take : (Nat → Word) → α) :
    AllSucceeded disp (regsToTrans mallocs disp de offsets old take).2.2 ↔
      ∀ k < if mallocs then 1 else 0, disp.results (disp.calls.length + k) = 0 := by
  unfold regsToTrans
  cases mallocs with
  | false => exact allSucceeded_iff rfl
  | true =>
      refine allSucceeded_iff ?_
      simp only [if_true]
      split <;> simp

theorem noneFails_one (s : Surroundings) (disp : DispDriver) (data : TransBase) (write : Bool)
    (h : data.callsMade s write = 1) :
    NoneFails s disp data write ↔ disp.results disp.calls.length = 0 := by
  unfold NoneFails
  rw [h]
  constructor
  · intro hall
    exact hall 0 (by decide)
  · intro hret k hk
    obtain rfl : k = 0 := by omega
    exact hret

/-- The calls that a package makes succeed iff none of those fails that it should make. -/
theorem allSucceeded_trans_to_dexx (s : Surroundings) (disp : DispDriver) (de : Int)
    (data : TransBase) (write : Bool) :
    AllSucceeded disp (trans_to_dexx s disp de data write).disp ↔ NoneFails s disp data write := by
  cases data with
  | ic_base ic ic_de =>
      refine allSucceeded_iff ?_
      cases write <;> rfl
  | single reg =>
      refine allSucceeded_iff ?_
      by_cases hret : disp.results disp.calls.length = 0 <;> cases write <;>
        simp [trans_to_dexx, TransBase.callsMade, hret]
  | registers set =>
      refine allSucceeded_iff ?_
      by_cases hret : disp.results disp.calls.length = 0 <;> cases write <;>
        simp [trans_to_dexx, TransBase.callsMade, hret]
  | unused second => exact allSucceeded_iff rfl
  | gamma_lut value =>
      refine allSucceeded_iff ?_
      cases write with
      | true => simp [trans_to_dexx, trans_to_spec, TransBase.callsMade]
      | false => cases hm : s.mallocs <;> simp [trans_to_dexx, trans_to_spec, TransBase.callsMade, hm]
  | peak p =>
      cases write with
      | true => exact allSucceeded_transToRegs s.mallocs disp de _ _
      | false => exact allSucceeded_regsToTrans s.mallocs disp de _ _ _
  | lti l =>
      cases write with
      | true => exact allSucceeded_transToRegs s.mallocs disp de _ _
      | false => exact allSucceeded_regsToTrans s.mallocs disp de _ _ _
  | color_enhance contrast brightness saturation hue =>
      refine allSucceeded_iff ?_
      simp [trans_to_dexx, trans_to_spec, TransBase.callsMade]
  | matrix isOut space rows offsets =>
      refine allSucceeded_iff ?_
      cases hm : s.mallocs with
      | false => simp [trans_to_dexx, trans_to_spec, trans_to_matix, TransBase.callsMade, hm]
      | true =>
          simp only [trans_to_dexx, trans_to_spec, trans_to_matix, TransBase.callsMade, hm, if_true,
            true_and]
          by_cases hspace : NUM_SUM ≤ (space.toNat : Int)
          · rw [if_pos hspace, if_neg (not_lt.mpr hspace)]
            rfl
          · rw [if_neg hspace, if_pos (lt_of_not_ge hspace)]
            simp
  | other id => exact allSucceeded_iff rfl

/-! ## The results -/

theorem trans_to_dexx_ret_of_generic (s : Surroundings) (disp : DispDriver) (de : Int)
    {data : TransBase} (hgeneric : data.IsGeneric) (write : Bool) :
    ((trans_to_dexx s disp de data write).ret = 0 ∧ NoneFails s disp data write) ∨
      ((trans_to_dexx s disp de data write).ret = -1 ∧ ¬ NoneFails s disp data write) := by
  have hnone : data.callsMade s write = 0 → NoneFails s disp data write := by
    intro h k hk
    omega
  cases data with
  | ic_base ic ic_de => exact Or.inl ⟨by cases write <;> rfl, hnone rfl⟩
  | single reg =>
      rw [noneFails_one s disp _ write rfl]
      by_cases hret : disp.results disp.calls.length = 0 <;> cases write <;>
        simp [trans_to_dexx, hret]
  | registers set =>
      rw [noneFails_one s disp _ write rfl]
      by_cases hret : disp.results disp.calls.length = 0 <;> cases write <;>
        simp [trans_to_dexx, hret]
  | unused second => exact Or.inl ⟨rfl, hnone rfl⟩
  | gamma_lut value => exact hgeneric.elim
  | peak p => exact hgeneric.elim
  | lti l => exact hgeneric.elim
  | color_enhance contrast brightness saturation hue => exact hgeneric.elim
  | matrix isOut space rows offsets => exact hgeneric.elim
  | other id => exact hgeneric.elim

/-- What `trans_to_spec` does never fails. -/
theorem trans_to_dexx_ret_of_specific (s : Surroundings) (disp : DispDriver) (de : Int)
    {data : TransBase} (hspecific : ¬ data.IsGeneric) (write : Bool) :
    (trans_to_dexx s disp de data write).ret = 0 := by
  cases data with
  | ic_base ic ic_de => exact absurd trivial hspecific
  | single reg => exact absurd trivial hspecific
  | registers set => exact absurd trivial hspecific
  | unused second => exact absurd trivial hspecific
  | gamma_lut value => rfl
  | peak p => rfl
  | lti l => rfl
  | color_enhance contrast brightness saturation hue => rfl
  | matrix isOut space rows offsets => rfl
  | other id => rfl

theorem trans_to_dexx_data (s : Surroundings) (disp : DispDriver) (de : Int) (data : TransBase) :
    (trans_to_dexx s disp de data true).data = data := by
  have hset : ∀ set, (disp.ioctl (.setReg de set)).2.1 = .setReg de set := by
    intro set
    unfold ioctl
    dsimp only
    split <;> rfl
  cases data with
  | ic_base ic ic_de => rfl
  | single reg =>
      simp only [trans_to_dexx, if_true, hset]
      split <;> rfl
  | registers set =>
      simp only [trans_to_dexx, if_true, hset]
      split <;> rfl
  | unused second => rfl
  | gamma_lut value => rfl
  | peak p => rfl
  | lti l => rfl
  | color_enhance contrast brightness saturation hue => rfl
  | matrix isOut space rows offsets =>
      simp only [trans_to_dexx, trans_to_spec]
      cases trans_to_matix s space rows offsets with
      | none => rfl
      | some us =>
          dsimp only
          split <;> rfl
  | other id => rfl

/-! ## Saves -/

/-- Without memory there is no text, and nothing to write. -/
theorem save_cfg_firmware_no_memory (de : Int) (data : SaveData) (file : List UInt8)
    (hid : ¬ (data.id = 11 ∨ data.id = 12)) (fuel : Nat) :
    save_cfg_firmware fuel false de data file = .ok (some file) := by
  unfold save_cfg_firmware updata_firm_generic
  by_cases hgeneric : 1 ≤ data.id ∧ data.id ≤ 5
  · simp [if_pos hgeneric]
  · have hspec : updata_firm_spec fuel none (wrapInt (data.size * 4 + 10)) data =
        .ok (some (none, 0)) := by
      unfold updata_firm_spec
      rw [if_neg (by omega), if_neg (by omega)]
    simp [if_neg hgeneric, hspec]

/-- For the other settings the closing brace is written in front of the buffer. -/
theorem save_cfg_firmware_faults (de : Int) (data : SaveData) (file : List UInt8)
    (hid : ¬ (data.id = 11 ∨ data.id = 12)) (fuel : Nat) :
    save_cfg_firmware fuel true de data file = .error .badAddress := by
  unfold save_cfg_firmware updata_firm_generic
  by_cases hgeneric : 1 ≤ data.id ∧ data.id ≤ 5
  · simp [if_pos hgeneric]
  · have hspec : updata_firm_spec fuel (some Memory.zero) (wrapInt (data.size * 4 + 10)) data =
        .ok (some (some Memory.zero, 0)) := by
      unfold updata_firm_spec
      rw [if_neg (by omega), if_neg (by omega)]
    simp [if_neg hgeneric, hspec]

/-- What a save returns when the file is there. -/
theorem saved_iff {s : Surroundings} (hopens : s.opens = true) (de : Int) (data : SaveData) :
    ((∃ fuel, saved fuel s de data = .ok (some 0)) ↔
        (s.mallocs = true → data.id = 11 ∨ data.id = 12)) ∧
      ∀ fuel ret, saved fuel s de data = .ok (some ret) → ret = 0 := by
  have hret : ∀ fuel ret, saved fuel s de data = .ok (some ret) → ret = 0 := by
    intro fuel ret h
    simp only [saved, if_pos hopens] at h
    split at h <;> cases h
    rfl
  refine ⟨⟨?_, ?_⟩, hret⟩
  · rintro ⟨fuel, h⟩ hmallocs
    by_contra hid
    rw [saved, if_pos hopens, hmallocs, save_cfg_firmware_faults de data s.file hid] at h
    cases h
  · intro h
    by_cases hid : data.id = 11 ∨ data.id = 12
    · obtain ⟨passes, hfails, -⟩ := updata_firm_generic_fails data hid s.mallocs
      refine ⟨passes, ?_⟩
      rw [saved, if_pos hopens, save_cfg_firmware, hfails]
    · have hmallocs : s.mallocs = false := by
        rw [← Bool.not_eq_true]
        exact fun hm ↦ hid (h hm)
      refine ⟨0, ?_⟩
      rw [saved, if_pos hopens, hmallocs, save_cfg_firmware_no_memory de data s.file hid]

/-! ## Replies -/

section Answer

variable (s : Surroundings) (disp : DispDriver) (de client_fd size : Int) (data : TransBase)

theorem trans_send_set (d : TransData) (reply : Int) :
    (trans_send d false reply).ret = some reply := by
  simp [trans_send]

theorem trans_send_data (d : TransData) :
    (trans_send d true 0).ret = none ∧ (trans_send d true 0).size = d.size := by
  simp [trans_send]

theorem trans_send_error (d : TransData) {reply : Int} (h : reply ≠ 0) :
    (trans_send d true reply).ret = some reply := by
  simp [trans_send, h]

/-- The two replies that go without a file. -/
theorem answer_read (fuel : Nat) :
    answer fuel s disp de .read client_fd size data =
      .ok (some (trans_send ⟨client_fd, 1, size⟩ true (trans_to_dexx s disp de data false).ret,
        (trans_to_dexx s disp de data false).data, (trans_to_dexx s disp de data false).disp)) :=
  rfl

theorem answer_set (fuel : Nat) :
    answer fuel s disp de .set client_fd size data =
      .ok (some (trans_send ⟨client_fd, 2, size⟩ false (trans_to_dexx s disp de data true).ret,
        (trans_to_dexx s disp de data true).data, (trans_to_dexx s disp de data true).disp)) :=
  rfl

theorem truthful_read_iff :
    Truthful s disp de .read client_fd size data ↔
      data.IsGeneric ∨ NoneFails s disp data false := by
  have hall := allSucceeded_trans_to_dexx s disp de data false
  constructor
  · rintro ⟨fuel, reply, data', disp', hanswer, -, herror⟩
    rw [answer_read] at hanswer
    cases hanswer
    by_contra hnot
    rw [not_or] at hnot
    obtain ⟨e, he, hne⟩ := herror (hall.not.mpr hnot.2)
    rw [trans_to_dexx_ret_of_specific s disp de hnot.1, (trans_send_data _).1] at he
    cases he
  · intro h
    refine ⟨0, _, _, _, answer_read s disp de client_fd size data 0, ?_⟩
    dsimp only
    rw [hall]
    by_cases hgeneric : data.IsGeneric
    · rcases trans_to_dexx_ret_of_generic s disp de hgeneric false with ⟨hret, hnone⟩ | ⟨hret, hfail⟩
      · rw [hret]
        exact ⟨fun _ ↦ trans_send_data _, fun hfail ↦ absurd hnone hfail⟩
      · rw [hret]
        exact ⟨fun hnone ↦ absurd hnone hfail,
          fun _ ↦ ⟨-1, trans_send_error _ (by decide), by decide⟩⟩
    · rw [trans_to_dexx_ret_of_specific s disp de hgeneric]
      exact ⟨fun _ ↦ trans_send_data _, fun hfail ↦ absurd (h.resolve_left hgeneric) hfail⟩

theorem truthful_set_iff :
    Truthful s disp de .set client_fd size data ↔
      data.IsGeneric ∨ NoneFails s disp data true := by
  have hall := allSucceeded_trans_to_dexx s disp de data true
  have htruth : Truthful s disp de .set client_fd size data ↔
      ((trans_to_dexx s disp de data true).ret = 0 ↔ NoneFails s disp data true) := by
    constructor
    · rintro ⟨fuel, reply, data', disp', hanswer, h⟩
      rw [answer_set] at hanswer
      cases hanswer
      rw [trans_send_set, Option.some_inj, hall] at h
      exact h
    · intro h
      refine ⟨0, _, _, _, answer_set s disp de client_fd size data 0, ?_⟩
      dsimp only
      rwa [trans_send_set, Option.some_inj, hall]
  rw [htruth]
  by_cases hgeneric : data.IsGeneric
  · rcases trans_to_dexx_ret_of_generic s disp de hgeneric true with ⟨hret, hnone⟩ | ⟨hret, hfail⟩
    · simp [hgeneric, hret, hnone]
    · simp [hgeneric, hret, hfail]
  · simp [hgeneric, trans_to_dexx_ret_of_specific s disp de hgeneric]

/-- A save whose settings were refused is answered like a set. -/
theorem answer_save_refused (fuel : Nat) (h : (trans_to_dexx s disp de data true).ret ≠ 0) :
    answer fuel s disp de .save client_fd size data =
      .ok (some (trans_send ⟨client_fd, 3, size⟩ false (trans_to_dexx s disp de data true).ret,
        (trans_to_dexx s disp de data true).data, (trans_to_dexx s disp de data true).disp)) := by
  simp [answer, translate, Command.code, h]

theorem answer_save (fuel : Nat) (h : (trans_to_dexx s disp de data true).ret = 0) :
    answer fuel s disp de .save client_fd size data =
      match saved fuel s (trans_to_dexx s disp de data true).de (data.saveData size) with
      | .error e => .error e
      | .ok none => .ok none
      | .ok (some ret) =>
          .ok (some (trans_send ⟨client_fd, 3, size⟩ false ret, data,
            (trans_to_dexx s disp de data true).disp)) := by
  simp only [answer, translate, Command.code, h, trans_to_dexx_data, ne_eq, reduceCtorEq,
    not_false_eq_true, decide_true, and_self, if_true]
  split <;> simp_all

/-- A save that was not refused is answered with what `save_cfg_firmware` returns. -/
theorem truthful_save_iff_saved (h : (trans_to_dexx s disp de data true).ret = 0) :
    Truthful s disp de .save client_fd size data ↔
      ∃ fuel ret, saved fuel s (trans_to_dexx s disp de data true).de (data.saveData size) =
          .ok (some ret) ∧ (ret = 0 ↔ NoneFails s disp data true) := by
  have hall := allSucceeded_trans_to_dexx s disp de data true
  constructor
  · rintro ⟨fuel, reply, data', disp', hanswer, htruth⟩
    rw [answer_save s disp de client_fd size data fuel h] at hanswer
    split at hanswer
    · cases hanswer
    · cases hanswer
    · rename_i ret hsaved
      cases hanswer
      rw [trans_send_set, Option.some_inj, hall] at htruth
      exact ⟨fuel, ret, hsaved, htruth⟩
  · rintro ⟨fuel, ret, hsaved, htruth⟩
    have hanswer := answer_save s disp de client_fd size data fuel h
    rw [hsaved] at hanswer
    refine ⟨fuel, _, _, _, hanswer, ?_⟩
    dsimp only
    rwa [trans_send_set, Option.some_inj, hall]

theorem truthful_save_iff :
    Truthful s disp de .save client_fd size data ↔ Reported s disp .save data := by
  unfold Reported
  dsimp only
  by_cases hret : (trans_to_dexx s disp de data true).ret = 0
  · rw [truthful_save_iff_saved s disp de client_fd size data hret]
    have hgeneric : data.IsGeneric → NoneFails s disp data true := by
      intro hg
      rcases trans_to_dexx_ret_of_generic s disp de hg true with ⟨-, hnone⟩ | ⟨hneg, -⟩
      · exact hnone
      · rw [hret] at hneg
        cases hneg
    by_cases hopens : s.opens = true
    · obtain ⟨hiff, hzero⟩ :=
        saved_iff hopens (trans_to_dexx s disp de data true).de (data.saveData size)
      constructor
      · rintro ⟨fuel, ret, hsaved, htruth⟩
        obtain rfl := hzero fuel ret hsaved
        exact Or.inl ⟨htruth.mp rfl, hopens, hiff.mp ⟨fuel, hsaved⟩⟩
      · rintro (⟨hnone, -, hid⟩ | ⟨hfail, hg | hclosed⟩)
        · obtain ⟨fuel, hsaved⟩ := hiff.mpr hid
          exact ⟨fuel, 0, hsaved, fun _ ↦ hnone, fun _ ↦ rfl⟩
        · exact absurd (hgeneric hg) hfail
        · rw [hopens] at hclosed
          cases hclosed
    · have hsaved : ∀ fuel, saved fuel s (trans_to_dexx s disp de data true).de
          (data.saveData size) = .ok (some (-1)) := by
        intro fuel
        rw [saved, if_neg hopens]
      simp only [hsaved, Except.ok.injEq, Option.some.injEq]
      rw [Bool.not_eq_true] at hopens
      simp [hopens]
  · -- only the functions of `trans_to_dexx` itself refuse a package
    have hg : data.IsGeneric := by
      by_contra hspecific
      exact hret (trans_to_dexx_ret_of_specific s disp de hspecific true)
    rcases trans_to_dexx_ret_of_generic s disp de hg true with ⟨hzero, -⟩ | ⟨hneg, hfail⟩
    · exact absurd hzero hret
    · refine ⟨fun _ ↦ Or.inr ⟨hfail, Or.inl hg⟩, fun _ ↦ ?_⟩
      refine ⟨0, _, _, _, answer_save_refused s disp de client_fd size data 0 hret, ?_⟩
      dsimp only
      rw [trans_send_set, Option.some_inj, allSucceeded_trans_to_dexx]
      exact ⟨fun hzero ↦ absurd hzero hret, fun hnone ↦ absurd hnone hfail⟩

/-- The reply to a package is truthful iff the calls it makes all succeed or `trans_to_dexx` makes
them itself, and a save gets through. -/
theorem reply_truthful_iff (command : Command) :
    Truthful s disp de command client_fd size data ↔ Reported s disp command data := by
  cases command with
  | read => exact truthful_read_iff s disp de client_fd size data
  | set => exact truthful_set_iff s disp de client_fd size data
  | save => exact truthful_save_iff s disp de client_fd size data

end Answer

/-- The registers can be read, and no later call succeeds. -/
def refusingDriver : DispDriver where
  reg _ _ := 0
  fill := id
  results k := if k = 0 then 0 else -1
  calls := []

def plainSurroundings : Surroundings where
  mallocs := true
  heap := []
  ceil _ := 0
  float _ := 0
  ic := 1855
  de_version := 201
  opens := true
  file := []

/-- Peaking settings that no register took are answered with 0. -/
theorem failed_peaking_reported_set :
    ¬ Truthful plainSurroundings refusingDriver 0 .set 5 23 (.peak flatPeak) := by
  rintro ⟨fuel, reply, data', disp', hanswer, hret⟩
  rw [answer_set] at hanswer
  cases hanswer
  have hfail := hret.mp (by decide) 1
  revert hfail
  decide

end AwHal.Pq
