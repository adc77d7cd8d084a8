import AwHal.Pq.Translate

/-!
# Programming the sections of the firmware file

`download_firmware_generic` sets `de` to the display of a section for as long as it programs the
section.  A section of registers is a list of numbers; it is copied into pairs of an offset and a
value, which go to the driver in one call.
-/

namespace AwHal.Pq

open AwHal.Lib DispDriver

/-! ## The functions -/

def parsed (s : Surroundings) (buffer : List UInt8) (need : Int) : Option (List Int) :=
  if s.mallocs then trans_firm_data buffer need else none

def toChar (x : Int) : BitVec 8 := .ofInt 8 x

def commas (buffer : List UInt8) : List Nat :=
  (((buffer.takeWhile (· ≠ '\x7d'.toUInt8)).zipIdx).filter fun c ↦ c.1 = ','.toUInt8).map (·.2)

/-- The result and the driver afterwards.  `atof` reads a `float`. -/
def download_firmware_spec (s : Surroundings) (atof : List UInt8 → Word) (disp : DispDriver)
    (id de : Int) (buffer : List UInt8) : Int × DispDriver :=
  if id = 11 then
    match parsed s buffer 0 with
    | none => (-1, disp)
    | some data =>
        let (_, _, disp) := disp.ioctl .gammaEnable
        let (_, _, disp) := disp.ioctl
          (.setGammaTable de (trans_x_gamma (data.map toChar) (data.length / 3)))
        (0, disp)
  else if id = 12 then
    match parsed s buffer 0 with
    | some [gain, neg_gain, hp_ratio, bp0_ratio, bp1_ratio, dif_up, corth, beta] =>
        let peak : PeakSharp :=
          { id := 12
            -- `enable` is not set
            enable := (s.heap.getD 1 0).setWidth 8
            gain := toChar gain
            neg_gain := toChar neg_gain
            hp_ratio := toChar hp_ratio
            bp0_ratio := toChar bp0_ratio
            bp1_ratio := toChar bp1_ratio
            dif_up := toChar dif_up
            corth := toChar corth
            beta := toChar beta }
        (0, (tans_to_peak s.mallocs disp de peak).2)
    | _ => (-1, disp)
  else if id = 13 then
    match parsed s buffer 0 with
    | some [enable, cstm_coeff0, cstm_coeff1, cstm_coeff2, cstm_coeff3, cstm_coeff4, fir_gain, cor_th,
        diff_slope, diff_offset, edge_gain, sel, win_expansion, nolinear_limmit_en, peak_limmit,
        core_x, clip_y, edge_level_th] =>
        let lti : LtiSharp :=
          { id := 13
            enable := toChar enable
            cstm_coeff0 := toChar cstm_coeff0
            cstm_coeff1 := toChar cstm_coeff1
            cstm_coeff2 := toChar cstm_coeff2
            cstm_coeff3 := toChar cstm_coeff3
            cstm_coeff4 := toChar cstm_coeff4
            fir_gain := toChar fir_gain
            cor_th := .ofInt 16 cor_th
            diff_slope := toChar diff_slope
            diff_offset := toChar diff_offset
            edge_gain := toChar edge_gain
            sel := toChar sel
            win_expansion := toChar win_expansion
            nolinear_limmit_en := toChar nolinear_limmit_en
            peak_limmit := toChar peak_limmit
            core_x := toChar core_x
            clip_y := toChar clip_y
            edge_level_th := toChar edge_level_th }
        (0, (tans_to_lti s.mallocs disp de lti).2)
    | _ => (-1, disp)
  else if id = 14 then
    match parsed s buffer 0 with
    | some [contrast, brightness, saturation, hue] =>
        let ce := .color_enhance (toChar contrast) (toChar brightness) (toChar saturation)
          (toChar hue)
        (0, (trans_to_spec s disp de ce true).2.2)
    | _ => (-1, disp)
  else if id = 15 ∨ id = 16 then
    let ne := commas buffer
    if ne.length ≠ 12 ∨ s.mallocs = false then (-1, disp)
    else
      let value := fun k ↦ atof (buffer.drop (ne.getD k 0 + 1))
      let ma := .matrix (id = 16) (toChar (atoi (buffer.drop 1)))
        [[value 0, value 1, value 2], [value 3, value 4, value 5], [value 6, value 7, value 8]]
        [value 9, value 10, value 11]
      (0, (trans_to_spec s disp de ma true).2.2)
  else (0, disp)

/-- What `download_firmware_generic` returns and leaves behind, with the indices of the parsed
numbers and of the allocated pairs that the copying of registers uses. -/
structure Downloaded where
  ret : Int
  de : Int
  disp : DispDriver
  reads : List Nat := []
  writes : List Nat := []

/-- `behind` is what stands in memory behind the parsed numbers. -/
def download_firmware_generic (s : Surroundings) (atof : List UInt8 → Word)
    (behind : Nat → Int) (disp : DispDriver) (de id de_d : Int) (buffer : List UInt8) : Downloaded :=
  let de_swp := de
  if id = 1 ∨ id = 4 ∨ id = 5 then ⟨0, de_swp, disp, [], []⟩
  else if id = 2 then
    match parsed s buffer 2 with
    | none => ⟨-1, de_swp, disp, [], []⟩
    | some data =>
        let reg : RegiserPair := ⟨.ofInt 32 (data.getD 0 0), .ofInt 32 (data.getD 1 0)⟩
        ⟨0, de_swp, (trans_to_dexx s disp de_d (.single reg) true).disp, [0, 1], []⟩
  else if id = 3 then
    match parsed s buffer 0 with
    | none => ⟨-1, de_swp, disp, [], []⟩
    | some data =>
        -- the number of numbers, which `i / 2` pairs are allocated for
        let i := data.length
        let value := fun k ↦ data.getD k (behind k)
        let set := (List.range i).map fun j ↦
          (⟨.ofInt 32 (value (2 * j)), .ofInt 32 (value (2 * j + 1))⟩ : RegiserPair)
        ⟨0, de_swp, (trans_to_dexx s disp de_d (.registers set) true).disp,
          (List.range i).flatMap fun j ↦ [2 * j, 2 * j + 1], List.range i⟩
  else
    let (_, disp) := download_firmware_spec s atof disp id de_d buffer
    ⟨0, de_swp, disp, [], []⟩

/-! ## Sections of registers -/

def pairsOf (v : List Int) : List RegiserPair :=
  (List.range (v.length / 2)).map fun j ↦
    ⟨.ofInt 32 (v.getD (2 * j) 0), .ofInt 32 (v.getD (2 * j + 1) 0)⟩

/-- One call writes exactly the pairs of the section, the copying stays inside the numbers and the
allocated pairs, and `de` is what it was. -/
def AppliedExactly (before : DispDriver) (de de_d : Int) (v : List Int) (d : Downloaded) : Prop :=
  d.disp.calls = before.calls ++ [.setReg de_d (pairsOf v)] ∧
    (∀ k ∈ d.reads, k < v.length) ∧ (∀ k ∈ d.writes, k < v.length / 2) ∧ d.de = de

instance (before : DispDriver) (de de_d : Int) (v : List Int) (d : Downloaded) :
    Decidable (AppliedExactly before de de_d v d) :=
  inferInstanceAs (Decidable (_ ∧ _))

/-- Whatever the section is, `de` is restored. -/
theorem download_firmware_generic_de (s : Surroundings) (atof : List UInt8 → Word)
    (behind : Nat → Int) (disp : DispDriver) (de id de_d : Int) (buffer : List UInt8) :
    (download_firmware_generic s atof behind disp de id de_d buffer).de = de := by
  unfold download_firmware_generic
  split
  · rfl
  · split
    · split <;> rfl
    · split
      · split <;> rfl
      · rfl

section Registers

variable (s : Surroundings) (atof : List UInt8 → Word) (behind : Nat → Int) (disp : DispDriver)
  (de de_d : Int) {buffer : List UInt8} {v : List Int}

theorem registers_copied (hmallocs : s.mallocs = true) (hv : trans_firm_data buffer 0 = some v) :
    (∃ set, (download_firmware_generic s atof behind disp de 3 de_d buffer).disp.calls =
        disp.calls ++ [.setReg de_d set] ∧ set.length = v.length) ∧
      (∀ j < v.length,
        2 * j + 1 ∈ (download_firmware_generic s atof behind disp de 3 de_d buffer).reads) ∧
      (download_firmware_generic s atof behind disp de 3 de_d buffer).writes =
        List.range v.length := by
  have hparsed : parsed s buffer 0 = some v := by rw [parsed, if_pos hmallocs, hv]
  have hcalls : ∀ set, (trans_to_dexx s disp de_d (.registers set) true).disp.calls =
      disp.calls ++ [.setReg de_d set] := by
    intro set
    by_cases hret : disp.results disp.calls.length = 0 <;> simp [trans_to_dexx, hret]
  simp only [download_firmware_generic, hparsed, show ¬ (3 : Int) = 1 ∧ ¬ (3 : Int) = 4 ∧
    ¬ (3 : Int) = 5 ∧ ¬ (3 : Int) = 2 by decide, or_self, if_false, if_true, hcalls]
  refine ⟨⟨_, rfl, by simp⟩, fun j hj ↦ ?_, trivial⟩
  exact List.mem_flatMap.mpr ⟨j, List.mem_range.mpr hj, by simp⟩

/-- Every number of a section counts as a pair, so the copying leaves the numbers and the allocated
pairs for every section; `de` is restored for every id and every text. -/
theorem registers_never_applied_exactly {n : Nat} (hn : 1 ≤ n)
    (hv : trans_firm_data buffer 0 = some v) (hlength : v.length = 2 * n) :
    ¬ AppliedExactly disp de de_d v
        (download_firmware_generic s atof behind disp de 3 de_d buffer) ∧
      ∀ id text, (download_firmware_generic s atof behind disp de id de_d text).de = de := by
  refine ⟨?_, fun id text ↦ download_firmware_generic_de s atof behind disp de id de_d text⟩
  rintro ⟨hcalls, hreads, hwrites, -⟩
  cases hmallocs : s.mallocs with
  | false =>
      -- without memory there is no call
      have hparsed : parsed s buffer 0 = none := by simp [parsed, hmallocs]
      simp [download_firmware_generic, hparsed] at hcalls
  | true =>
      obtain ⟨-, hread, -⟩ := registers_copied s atof behind disp de de_d hmallocs hv
      have hbeyond := hreads _ (hread n (by omega))
      omega

end Registers

def onePair : List UInt8 :=
  ['\x7b'.toUInt8, '1'.toUInt8, ','.toUInt8, '2'.toUInt8, '\x7d'.toUInt8]

theorem registers_never_applied_exactly_one_pair :
    ¬ AppliedExactly (uniformDriver 7) 0 1 [1, 2]
        (download_firmware_generic plainSurroundings (fun _ ↦ 0) (fun _ ↦ 0) (uniformDriver 7)
          0 3 1 onePair) ∧
      ∀ id text, (download_firmware_generic plainSurroundings (fun _ ↦ 0) (fun _ ↦ 0) (uniformDriver 7)
        0 id 1 text).de = 0 :=
  registers_never_applied_exactly plainSurroundings (fun _ ↦ 0) (fun _ ↦ 0) (uniformDriver 7)
    0 1 (n := 1) (by decide) (by decide) rfl

/-- A section with one pair writes a second one, from behind its numbers. -/
theorem one_pair_written_as_two :
    ¬ AppliedExactly (uniformDriver 7) 0 1 [1, 2]
      (download_firmware_generic plainSurroundings (fun _ ↦ 0) (fun _ ↦ 7) (uniformDriver 7) 0 3
        1 onePair) := by
  decide

end AwHal.Pq
