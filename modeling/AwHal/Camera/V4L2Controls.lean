import AwHal.Camera.PartialMetadata
import AwHal.Lib.NearestKey
import Mathlib.Algebra.Order.Group.Int
import Mathlib.Tactic.Linarith

/-!
# Controls of the video device

A control of the camera can stand for one of the V4L2 device.  A converter goes between their values
(`enum_converter.cpp`, `map_converter.h`, `ranged_converter.h`, `scaling_converter.h`), and
`V4L2Control` asks the device for the range to make the options (`partial_metadata_factory.h`).  An
`int32_t` is an integer here, and a sum or difference that does not fit is undefined.
-/

namespace AwHal.Camera.PartialMetadata

open AwHal.Lib

/-! ## Converters -/

def int32 (x : Int) : Except Failure Int :=
  if -2 ^ 31 ≤ x ∧ x < 2 ^ 31 then .ok x else .error .undefined

theorem int32_ok {x y : Int} (h : int32 x = .ok y) : y = x := by
  unfold int32 at h
  split at h
  · exact (Except.ok.inj h).symm
  · cases h

def scalingConverter (v4l2_to_metadata_numerator_ v4l2_to_metadata_denominator_ : Int) :
    Converter Int where
  MetadataToV4L2 value := do
    let product ← int32 (value * v4l2_to_metadata_denominator_)
    if v4l2_to_metadata_numerator_ = 0 then .error .undefined
    else int32 (product.tdiv v4l2_to_metadata_numerator_)
  V4L2ToMetadata value := do
    let product ← int32 (value * v4l2_to_metadata_numerator_)
    if v4l2_to_metadata_denominator_ = 0 then .error .undefined
    else int32 (product.tdiv v4l2_to_metadata_denominator_)

section

variable {T : Type}

/-- The entry that `MapConverter` takes, beside `lower_bound`. -/
def nearestEntry (conversion_map_ : List (Int × Int)) (raw_conversion : Int) :
    Except Failure (Int × Int) :=
  match (lowerBound conversion_map_ raw_conversion).1.getLast?,
      (lowerBound conversion_map_ raw_conversion).2 with
  | none, [] => .error .EINVAL
  | none, next :: _ => .ok next
  | some prev, [] => .ok prev
  | some prev, next :: _ => do
      let diff ← int32 (next.1 - raw_conversion)
      let below ← int32 (raw_conversion - prev.1)
      .ok (if below < diff then prev else next)

def mapConverter (wrapped_converter_ : Converter T) (conversion_map_ : List (Int × Int)) :
    Converter T where
  MetadataToV4L2 value :=
    if conversion_map_.isEmpty then .error .EINVAL
    else do
      let raw_conversion ← wrapped_converter_.MetadataToV4L2 value
      let kv ← nearestEntry conversion_map_ raw_conversion
      .ok kv.2
  V4L2ToMetadata value :=
    match conversion_map_.find? fun kv => kv.2 = value with
    | some kv => wrapped_converter_.V4L2ToMetadata kv.1
    | none => .error .EINVAL

theorem nearestEntry_isNearest {conversion_map_ : List (Int × Int)}
    (hsorted : conversion_map_.Pairwise fun a b => a.1 < b.1) {raw_conversion : Int}
    {kv : Int × Int} (h : nearestEntry conversion_map_ raw_conversion = .ok kv) :
    IsNearest conversion_map_ raw_conversion kv := by
  have hsplit := lowerBound_append conversion_map_ raw_conversion
  rw [← hsplit] at hsorted
  rw [← hsplit]
  unfold nearestEntry at h
  split at h
  · cases h
  · rename_i next rest hlast hafter
    obtain rfl := Except.ok.inj h
    have hge := le_of_lowerBound_eq hafter
    rw [List.getLast?_eq_none_iff.mp hlast, hafter, List.nil_append] at hsorted ⊢
    exact isNearest_head hge hsorted
  · rename_i prev hlast hafter
    obtain rfl := Except.ok.inj h
    obtain ⟨before, hbefore⟩ := List.getLast?_eq_some_iff.mp hlast
    have hlt := lt_of_mem_lowerBound (hbefore ▸ List.mem_append_right before List.mem_cons_self)
    rw [hbefore, hafter, List.append_nil] at hsorted ⊢
    exact isNearest_last hlt hsorted
  · rename_i prev next rest hlast hafter
    obtain ⟨before, hbefore⟩ := List.getLast?_eq_some_iff.mp hlast
    have hlt : prev.1 < raw_conversion :=
      lt_of_mem_lowerBound (hbefore ▸ List.mem_append_right before List.mem_cons_self)
    have hge := le_of_lowerBound_eq hafter
    obtain ⟨diff, hdiff, h⟩ := bind_ok h
    obtain ⟨below, hsub, h⟩ := bind_ok h
    obtain rfl := Except.ok.inj h
    rw [int32_ok hdiff, int32_ok hsub]
    rw [hbefore, hafter] at hsorted ⊢
    exact isNearest_between hlt hge hsorted

/-- A conversion through a map takes the value of the nearest key, the greater one of two. -/
theorem mapConverter_nearest {wrapped_converter_ : Converter T} {conversion_map_ : List (Int × Int)}
    (hsorted : conversion_map_.Pairwise fun a b => a.1 < b.1) {value : T} {y : Int}
    (h : (mapConverter wrapped_converter_ conversion_map_).MetadataToV4L2 value = .ok y) :
    ∃ raw_conversion kv, wrapped_converter_.MetadataToV4L2 value = .ok raw_conversion ∧
      IsNearest conversion_map_ raw_conversion kv ∧ y = kv.2 := by
  simp only [mapConverter] at h
  split at h
  · cases h
  · obtain ⟨raw_conversion, hraw, h⟩ := bind_ok h
    obtain ⟨kv, hnearest, h⟩ := bind_ok h
    exact ⟨raw_conversion, kv, hraw, nearestEntry_isNearest hsorted hnearest,
      (Except.ok.inj h).symm⟩

/-! ### The range -/

end

/-! ## `V4L2Control` -/

def toInt32 (x : Int) : Int := x.bmod (2 ^ 32)

section

variable {D T : Type}

variable {C : Type} [CameraMetadata C] [MetadataValue T] [LinearOrder T]

end

end AwHal.Camera.PartialMetadata
