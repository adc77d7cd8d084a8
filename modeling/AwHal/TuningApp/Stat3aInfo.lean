import AwHal.Lib.ByteRuns

/-!
# The 3A statistics on the network

`hton_3a_info` and `ntoh_3a_info` (`isp_handle.c`) go over the arrays of a statistics structure, in
place.  The structures are in the memory of a little-endian machine, for ISP version 522.
-/

namespace AwHal.TuningApp

open AwHal.Lib Memory

/-! ## The structures -/

def ISP_AE_ROW : Nat := 16
def ISP_AE_COL : Nat := 24
def ISP_AWB_ROW : Nat := 32
def ISP_AWB_COL : Nat := 32
def ISP_AF_ROW : Nat := 16
def ISP_AF_COL : Nat := 24
def ISP_HIST_NUM : Nat := 256

/-- `SOCK_CMD_STAT_AE`, `SOCK_CMD_STAT_AWB`, `SOCK_CMD_STAT_AF`. -/
inductive StatType where
  | AE | AWB | AF
deriving DecidableEq, Repr

inductive StatMember where
  | win_pix_n | accum_r | accum_g | accum_b | avg | hist
  | awb_sum_r | awb_sum_g | awb_sum_b | awb_sum_cnt | awb_avg_r | awb_avg_g | awb_avg_b | awb_avg
  | af_iir | af_fir | af_iir_cnt | af_fir_cnt | af_hlt_cnt
  | af_count | af_h_d1 | af_h_d2 | af_v_d1 | af_v_d2
deriving DecidableEq, Repr

namespace StatMember

/-- The elements of a member: `HW_U32` or, in the AF statistics, `HW_U64`. -/
def run : StatMember → Run
  | win_pix_n => ⟨4, 1⟩
  | accum_r | accum_g | accum_b | avg => ⟨4, ISP_AE_ROW * ISP_AE_COL⟩
  | hist => ⟨4, ISP_HIST_NUM⟩
  | awb_sum_r | awb_sum_g | awb_sum_b | awb_sum_cnt
  | awb_avg_r | awb_avg_g | awb_avg_b | awb_avg => ⟨4, ISP_AWB_ROW * ISP_AWB_COL⟩
  | af_iir | af_fir | af_iir_cnt | af_fir_cnt | af_hlt_cnt
  | af_count | af_h_d1 | af_h_d2 | af_v_d1 | af_v_d2 => ⟨8, ISP_AF_ROW * ISP_AF_COL⟩

def size (f : StatMember) : Nat := f.run.length

end StatMember

open StatMember

def StatType.members : StatType → List StatMember
  | .AE => [win_pix_n, accum_r, accum_g, accum_b, avg, hist]
  | .AWB => [awb_sum_r, awb_sum_g, awb_sum_b, awb_sum_cnt, awb_avg_r, awb_avg_g, awb_avg_b, awb_avg]
  | .AF => [af_iir, af_fir, af_iir_cnt, af_fir_cnt, af_hlt_cnt, af_count, af_h_d1, af_h_d2, af_v_d1,
      af_v_d2]

def StatType.offset (type : StatType) (f : StatMember) : Nat := place size type.members f

def StatType.element (type : StatType) (m : Memory) (f : StatMember) (i : Nat) : List UInt8 :=
  m.load (type.offset f + f.run.width * i) f.run.width

/-! ## The conversions -/

def htonlBytes (bytes : List UInt8) : List UInt8 := bytes.reverse

def ntohlBytes (bytes : List UInt8) : List UInt8 := bytes.reverse

/-- A loop of the conversions: the member whose first element the pointer is set to, what it points to,
and the number of elements. -/
structure StatLoop where
  member : StatMember
  width : Nat
  count : Nat

/-- `*ptr = convert(*ptr)`: the argument of `convert` is the low half of an `HW_U64`, and its result is
widened. -/
def convertElement (convert : List UInt8 → List UInt8) (width : Nat) (bytes : List UInt8) :
    List UInt8 :=
  if width = 8 then convert (bytes.take 4) ++ [0, 0, 0, 0] else convert bytes

def StatType.loops : StatType → List StatLoop
  | .AE => [⟨win_pix_n, 4, 1⟩, ⟨accum_r, 4, ISP_AE_ROW * ISP_AE_COL⟩,
      ⟨accum_g, 4, ISP_AE_ROW * ISP_AE_COL⟩, ⟨accum_b, 4, ISP_AE_ROW * ISP_AE_COL⟩,
      ⟨avg, 4, ISP_AE_ROW * ISP_AE_COL⟩, ⟨hist, 4, ISP_HIST_NUM⟩]
  | .AWB => [⟨awb_sum_r, 4, ISP_AWB_ROW * ISP_AWB_COL⟩, ⟨awb_sum_g, 4, ISP_AWB_ROW * ISP_AWB_COL⟩,
      ⟨awb_sum_b, 4, ISP_AWB_ROW * ISP_AWB_COL⟩, ⟨awb_sum_cnt, 4, ISP_AWB_ROW * ISP_AWB_COL⟩,
      ⟨awb_avg_r, 4, ISP_AWB_ROW * ISP_AWB_COL⟩, ⟨awb_avg_g, 4, ISP_AWB_ROW * ISP_AWB_COL⟩,
      ⟨awb_avg_b, 4, ISP_AWB_ROW * ISP_AWB_COL⟩, ⟨awb_avg, 4, ISP_AWB_ROW * ISP_AWB_COL⟩]
  -- the members that ISP version 520 added in front are left out
  | .AF => [⟨af_count, 8, ISP_AF_ROW * ISP_AF_COL⟩, ⟨af_h_d1, 8, ISP_AF_ROW * ISP_AF_COL⟩,
      ⟨af_h_d2, 8, ISP_AF_ROW * ISP_AF_COL⟩, ⟨af_v_d1, 8, ISP_AF_ROW * ISP_AF_COL⟩,
      ⟨af_v_d2, 8, ISP_AF_ROW * ISP_AF_COL⟩]

def convert_3a_info (convert : List UInt8 → List UInt8) (type : StatType) (m : Memory) : Memory :=
  type.loops.foldl (fun m l =>
    m.mapElems l.width (convertElement convert l.width) l.count (type.offset l.member)) m

def hton_3a_info (m : Memory) (type : StatType) : Memory := convert_3a_info htonlBytes type m

def ntoh_3a_info (m : Memory) (type : StatType) : Memory := convert_3a_info ntohlBytes type m

def StatType.converted (type : StatType) : List StatMember := type.loops.map StatLoop.member

/-- The statistics are what they were after both conversions, and big-endian after the first. -/
structure SurvivesNetwork (m : Memory) (type : StatType) : Prop where
  round_trip : ∀ f ∈ type.members, ∀ i < f.run.count,
    type.element (ntoh_3a_info (hton_3a_info m type) type) f i = type.element m f i
  big_endian : ∀ f ∈ type.members, ∀ i < f.run.count,
    type.element (hton_3a_info m type) f i = (type.element m f i).reverse

/-! ## Loops over members -/

section

variable {type : StatType} {f g : StatMember} {i : Nat}

theorem length_element (m : Memory) : (type.element m f i).length = f.run.width := length_load _ _ _

theorem element_bounds (hi : i < f.run.count) :
    f.run.width * i + f.run.width ≤ size f := by
  rw [← Nat.mul_succ]
  exact Nat.mul_le_mul_left _ hi

theorem load_outside {conv : List UInt8 → List UInt8}
    (hconv : ∀ bytes, bytes.length = g.run.width → (conv bytes).length = g.run.width)
    (hf : f ∈ type.members) (hg : g ∈ type.members) (hne : f ≠ g) (hi : i < f.run.count)
    (m : Memory) :
    type.element (m.mapElems g.run.width conv g.run.count (type.offset g)) f i =
      type.element m f i := by
  have hbounds := element_bounds hi
  apply load_congr
  intro x hlo hhi
  apply mapElems_outside hconv
  have hdisjoint : type.offset f + size f ≤ type.offset g ∨ type.offset g + size g ≤ type.offset f :=
    place_disjoint hf hg hne
  have hsize : size g = g.run.width * g.run.count := rfl
  omega

theorem element_foldl {conv : List UInt8 → List UInt8} {l : List StatMember} (hnodup : l.Nodup)
    (hl : ∀ g ∈ l, g ∈ type.members)
    (hconv : ∀ g ∈ l, ∀ bytes, bytes.length = g.run.width → (conv bytes).length = g.run.width)
    (hf : f ∈ type.members) (hi : i < f.run.count) (m : Memory) :
    type.element (l.foldl (fun m g => m.mapElems g.run.width conv g.run.count (type.offset g)) m)
        f i =
      if f ∈ l then conv (type.element m f i) else type.element m f i := by
  induction l generalizing m with
  | nil => rfl
  | cons g l ih =>
      rw [List.nodup_cons] at hnodup
      rw [List.forall_mem_cons] at hl hconv
      rw [List.foldl_cons, ih hnodup.2 hl.2 hconv.2]
      by_cases heq : f = g
      · subst heq
        rw [if_neg hnodup.1, if_pos List.mem_cons_self]
        exact load_mapElems hconv.1 hi m
      · rw [load_outside hconv.1 hf hl.1 heq hi]
        simp [heq]

end

/-! ## The loops of the two functions -/

/-- Each loop has the width and the number of the elements of its member. -/
theorem loops_fit (type : StatType) :
    ∀ l ∈ type.loops, l.width = l.member.run.width ∧ l.count = l.member.run.count := by
  cases type <;> decide

theorem nodup_converted (type : StatType) : type.converted.Nodup := by
  cases type <;> decide

theorem converted_subset (type : StatType) : ∀ f ∈ type.converted, f ∈ type.members := by
  cases type <;> decide

theorem width_eq (type : StatType) :
    ∀ f ∈ type.members, f.run.width = if type = .AF then 8 else 4 := by
  cases type <;> decide

theorem length_convertElement {convert : List UInt8 → List UInt8}
    (hconvert : ∀ bytes, (convert bytes).length = bytes.length) {width : Nat} (bytes : List UInt8)
    (h : bytes.length = width) : (convertElement convert width bytes).length = width := by
  unfold convertElement
  split
  · rename_i hwidth
    rw [List.length_append, hconvert, List.length_take, h, hwidth]
    rfl
  · rw [hconvert, h]

theorem element_convert_3a_info {convert : List UInt8 → List UInt8}
    (hconvert : ∀ bytes, (convert bytes).length = bytes.length) {type : StatType} {f : StatMember}
    (hf : f ∈ type.members) {i : Nat} (hi : i < f.run.count) (m : Memory) :
    type.element (convert_3a_info convert type m) f i =
      if f ∈ type.converted then convertElement convert f.run.width (type.element m f i)
      else type.element m f i := by
  have hloops : convert_3a_info convert type m =
      type.converted.foldl (fun m g => m.mapElems g.run.width
        (convertElement convert f.run.width) g.run.count (type.offset g)) m := by
    rw [convert_3a_info, StatType.converted, List.foldl_map]
    apply List.foldl_ext
    intro m l hl
    obtain ⟨hwidth, hcount⟩ := loops_fit type l hl
    have hmember : l.member ∈ type.members :=
      converted_subset type _ (List.mem_map_of_mem hl)
    rw [hwidth, hcount, width_eq type _ hmember, width_eq type f hf]
  rw [hloops]
  apply element_foldl (nodup_converted type) (converted_subset type) _ hf hi
  intro g hg bytes hbytes
  have hwidth : g.run.width = f.run.width := by
    rw [width_eq type g (converted_subset type g hg), width_eq type f hf]
  rw [hwidth] at hbytes ⊢
  exact length_convertElement hconvert bytes hbytes

/-! ## One element -/

theorem ntohl_htonl (bytes : List UInt8) : ntohlBytes (htonlBytes bytes) = bytes :=
  List.reverse_reverse bytes

/-- What is left of an `HW_U64` is its low half. -/
theorem convertElement_convertElement {bytes : List UInt8} (hlen : bytes.length = 8) :
    convertElement ntohlBytes 8 (convertElement htonlBytes 8 bytes) =
      bytes.take 4 ++ [0, 0, 0, 0] := by
  have hhalf : (htonlBytes (bytes.take 4)).length = 4 := by
    rw [htonlBytes, List.length_reverse, List.length_take, hlen]
    rfl
  show ntohlBytes ((htonlBytes (bytes.take 4) ++ [0, 0, 0, 0]).take 4) ++ [0, 0, 0, 0] = _
  rw [List.take_left' hhalf, ntohl_htonl]

theorem convertElement_round_trip_iff {bytes : List UInt8} (hlen : bytes.length = 8) :
    convertElement ntohlBytes 8 (convertElement htonlBytes 8 bytes) = bytes ↔
      leValue bytes < 2 ^ 32 := by
  have hhigh : leValue bytes < 256 ^ 4 ↔ bytes.drop 4 = List.replicate (bytes.length - 4) 0 :=
    leValue_lt_iff (by omega)
  rw [convertElement_convertElement hlen, show (2 : Nat) ^ 32 = 256 ^ 4 from rfl, hhigh, hlen]
  constructor
  · intro heq
    rw [← heq, List.drop_left' (by rw [List.length_take, hlen]; rfl)]
    rfl
  · intro hzeros
    conv_rhs => rw [← List.take_append_drop 4 bytes, hzeros]
    rfl

theorem convertElement_big_endian_iff {bytes : List UInt8} (hlen : bytes.length = 8) :
    convertElement htonlBytes 8 bytes = bytes.reverse ↔ leValue bytes = 0 := by
  have hsplit : bytes.reverse = (bytes.drop 4).reverse ++ (bytes.take 4).reverse := by
    rw [← List.reverse_append, List.take_append_drop]
  have hhalves : (bytes.take 4).reverse.length = (bytes.drop 4).reverse.length := by
    rw [List.length_reverse, List.length_reverse, List.length_take, List.length_drop, hlen]
    rfl
  rw [leValue_eq_zero_iff, hlen]
  show (bytes.take 4).reverse ++ [0, 0, 0, 0] = bytes.reverse ↔ _
  constructor
  · intro heq
    rw [hsplit] at heq
    obtain ⟨hlow, hzeros⟩ := List.append_inj heq hhalves
    have hlow' : bytes.take 4 = [0, 0, 0, 0] := by
      rw [← List.reverse_reverse (bytes.take 4), ← hzeros]
      rfl
    have hhigh' : bytes.drop 4 = [0, 0, 0, 0] := by
      rw [← List.reverse_reverse (bytes.drop 4), ← hlow, hlow']
      rfl
    rw [← List.take_append_drop 4 bytes, hlow', hhigh']
    rfl
  · intro hzeros
    rw [hzeros]
    rfl

/-! ## Whole structures -/

section

variable {type : StatType} {f : StatMember} {i : Nat} (m : Memory)

theorem element_hton_3a_info (hf : f ∈ type.members) (hi : i < f.run.count) :
    type.element (hton_3a_info m type) f i =
      if f ∈ type.converted then convertElement htonlBytes f.run.width (type.element m f i)
      else type.element m f i :=
  element_convert_3a_info (fun _ => List.length_reverse) hf hi m

theorem element_round_trip (hf : f ∈ type.members) (hi : i < f.run.count) :
    type.element (ntoh_3a_info (hton_3a_info m type) type) f i =
      if f ∈ type.converted then
        convertElement ntohlBytes f.run.width
          (convertElement htonlBytes f.run.width (type.element m f i))
      else type.element m f i := by
  have houter : type.element (convert_3a_info ntohlBytes type (hton_3a_info m type)) f i = _ :=
    element_convert_3a_info (fun _ => List.length_reverse) hf hi (hton_3a_info m type)
  rw [ntoh_3a_info, houter, element_hton_3a_info m hf hi]
  split <;> rfl

/-- In the AE and the AWB statistics all members are converted. -/
theorem converted_of_ne_AF (htype : type ≠ .AF) (hf : f ∈ type.members) : f ∈ type.converted := by
  cases type with
  | AE => exact hf
  | AWB => exact hf
  | AF => exact absurd rfl htype

/-- An element is back after both conversions exactly when it is not converted or fits into 32 bits. -/
theorem element_round_trip_iff (hf : f ∈ type.members) (hi : i < f.run.count) :
    type.element (ntoh_3a_info (hton_3a_info m type) type) f i = type.element m f i ↔
      (f ∈ type.converted → leValue (type.element m f i) < 2 ^ 32) := by
  have hwidth := width_eq type f hf
  have hlen : (type.element m f i).length = f.run.width := length_element m
  rw [element_round_trip m hf hi]
  by_cases hconverted : f ∈ type.converted
  · simp only [hconverted, if_true, true_implies]
    by_cases htype : type = .AF
    · rw [if_pos htype] at hwidth
      rw [hwidth] at hlen ⊢
      exact convertElement_round_trip_iff hlen
    · rw [if_neg htype] at hwidth
      rw [hwidth] at hlen ⊢
      have hlt := leValue_lt (type.element m f i)
      rw [hlen] at hlt
      exact iff_of_true (ntohl_htonl _) hlt
  · simp only [hconverted, if_false, false_implies]

theorem element_big_endian_iff (hf : f ∈ type.members) (hi : i < f.run.count) :
    type.element (hton_3a_info m type) f i = (type.element m f i).reverse ↔
      (type = .AF → if f ∈ type.converted then leValue (type.element m f i) = 0
        else (type.element m f i).reverse = type.element m f i) := by
  have hwidth := width_eq type f hf
  have hlen : (type.element m f i).length = f.run.width := length_element m
  rw [element_hton_3a_info m hf hi]
  by_cases htype : type = .AF
  · rw [if_pos htype] at hwidth
    simp only [htype, true_implies] at *
    split
    · rw [hwidth] at hlen ⊢
      exact convertElement_big_endian_iff hlen
    · exact eq_comm
  · rw [if_neg htype] at hwidth
    rw [if_pos (converted_of_ne_AF htype hf), hwidth]
    exact iff_of_true rfl fun h => absurd h htype

end

/-- AE and AWB statistics always survive.  AF statistics do when the accumulators that are converted
are 0, and those that are not converted have the same bytes in both orders. -/
theorem survivesNetwork_iff (m : Memory) (type : StatType) :
    SurvivesNetwork m type ↔
      (type = .AF → ∀ f ∈ type.members, ∀ i < f.run.count,
        if f ∈ type.converted then leValue (type.element m f i) = 0
        else (type.element m f i).reverse = type.element m f i) := by
  constructor
  · intro hsurvives htype f hf i hi
    exact (element_big_endian_iff m hf hi).mp (hsurvives.big_endian f hf i hi) htype
  · intro hmembers
    constructor
    case round_trip =>
      intro f hf i hi
      rw [element_round_trip_iff m hf hi]
      intro hconverted
      by_cases htype : type = .AF
      · have hmember := hmembers htype f hf i hi
        rw [if_pos hconverted] at hmember
        rw [hmember]
        decide
      · have hlen : (type.element m f i).length = 4 := by
          rw [length_element, width_eq type f hf, if_neg htype]
        have hlt := leValue_lt (type.element m f i)
        rwa [hlen] at hlt
    case big_endian =>
      intro f hf i hi
      exact (element_big_endian_iff m hf hi).mpr fun htype => hmembers htype f hf i hi

def largeAfStats : Memory := fun x => if x = StatType.AF.offset af_count + 4 then 1 else 0

/-- The high half of an accumulator is lost. -/
theorem not_survivesNetwork : ¬ ∀ (m : Memory) (type : StatType), SurvivesNetwork m type := by
  intro hall
  have hmember : af_count ∈ StatType.AF.members := by decide
  have hback := (hall largeAfStats .AF).round_trip af_count hmember 0 (by decide)
  have hsmall := (element_round_trip_iff largeAfStats hmember (by decide)).mp hback (by decide)
  exact absurd hsmall (by decide)

end AwHal.TuningApp
