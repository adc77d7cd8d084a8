import Mathlib.Data.List.Nodup
import Mathlib.Data.Vector.Basic
import Mathlib.Order.Basic

/-!
# The parts of the metadata

A property, a state or a control has the values for a tag of the metadata (`property.h`, `state.h`,
`control.h`).  It says what it adds to the static metadata, to a request template and to the result
of a request, and a control takes what a request sets.  `CameraMetadata` is the library's.
-/

namespace AwHal.Camera.PartialMetadata

/-- The negated error codes. -/
inductive Failure where
  | EINVAL | ENOENT | ENODEV
  /-- What the device, a converter or the metadata answer. -/
  | other (res : Int)
  /-- An array is written past its end, a sum overflows or a divisor is zero. -/
  | undefined
deriving DecidableEq, Repr

/-! ## `CameraMetadata` -/

inductive TagType where
  | BYTE | INT32 | FLOAT | INT64 | DOUBLE | RATIONAL
deriving DecidableEq, Repr

structure Entry where
  tag : Int
  type : TagType
  items : List Int
deriving DecidableEq, Repr

/-- The platform's `CameraMetadata`, as far as it is used; an update or an append can fail with a
status. -/
class CameraMetadata (C : Type) where
  empty : C
  isEmpty : C → Bool
  find : C → Int → Option Entry
  update : C → Entry → Except Int C
  append : C → C → Except Int C

export CameraMetadata (empty isEmpty find update append)

/-- What is documented of it.  Where two entries have the same tag, `find` gives one of them. -/
class LawfulCameraMetadata (C : Type) [CameraMetadata C] : Prop where
  find_empty : ∀ tag, find (empty : C) tag = none
  isEmpty_iff : ∀ m : C, isEmpty m = true ↔ ∀ tag, find m tag = none
  find_update : ∀ {m m' : C} {e : Entry}, update m e = .ok m' →
    ∀ tag, find m' tag = if e.tag = tag then some e else find m tag
  find_append : ∀ {m a m' : C}, append m a = .ok m' →
    ∀ tag e, find m' tag = some e → find m tag = some e ∨ find a tag = some e
  find_append_none : ∀ {m a m' : C}, append m a = .ok m' →
    ∀ tag, find m' tag = none ↔ find m tag = none ∧ find a tag = none

def Has {C : Type} [CameraMetadata C] (m : C) (tag : Int) : Prop := find m tag ≠ none

section

variable {C : Type} [CameraMetadata C] [LawfulCameraMetadata C] {m a m' : C} {tag : Int}

theorem not_has_empty (tag : Int) : ¬ Has (empty : C) tag :=
  not_not.mpr (LawfulCameraMetadata.find_empty tag)

theorem find_of_isEmpty (h : isEmpty m = true) (tag : Int) : find m tag = none :=
  (LawfulCameraMetadata.isEmpty_iff m).mp h tag

theorem has_append (h : append m a = .ok m') (tag : Int) : Has m' tag ↔ Has m tag ∨ Has a tag := by
  rw [Has, Has, Has, ← not_and_or, not_iff_not]
  exact LawfulCameraMetadata.find_append_none h tag

theorem find_update_self {e : Entry} (h : update m e = .ok m') : find m' e.tag = some e :=
  (LawfulCameraMetadata.find_update h e.tag).trans (if_pos rfl)

theorem find_update_ne {e : Entry} (h : update m e = .ok m') (hne : e.tag ≠ tag) :
    find m' tag = find m tag :=
  (LawfulCameraMetadata.find_update h tag).trans (if_neg hne)

theorem has_update {e : Entry} (h : update m e = .ok m') (tag : Int) :
    Has m' tag ↔ Has m tag ∨ tag = e.tag := by
  rw [Has, LawfulCameraMetadata.find_update h]
  by_cases htag : e.tag = tag
  · simp [htag]
  · simp [htag, Ne.symm htag, Has]

end

def updateEntry (e : Entry) : List Entry → List Entry
  | [] => [e]
  | x :: rest => if x.tag = e.tag then e :: rest else x :: updateEntry e rest

/-- One way to keep them: the entries in the order of a buffer, where the first one with a tag is
found. -/
instance entryList : CameraMetadata (List Entry) where
  empty := []
  isEmpty m := m.isEmpty
  find m tag := List.find? (fun e => e.tag = tag) m
  update m e := .ok (updateEntry e m)
  append m a := .ok (m ++ a)

theorem find?_updateEntry (e : Entry) (m : List Entry) (tag : Int) :
    List.find? (fun x => x.tag = tag) (updateEntry e m) =
      if e.tag = tag then some e else List.find? (fun x => x.tag = tag) m := by
  induction m with
  | nil => by_cases h : e.tag = tag <;> simp [updateEntry, h]
  | cons x rest ih =>
      rw [updateEntry]
      by_cases hx : x.tag = e.tag
      · by_cases h : e.tag = tag <;> simp [hx, h]
      · rw [if_neg hx, List.find?_cons, List.find?_cons, ih]
        by_cases h : x.tag = tag
        · have he : e.tag ≠ tag := fun he => hx (h.trans he.symm)
          simp [h, he]
        · simp [h]

instance lawfulEntryList : LawfulCameraMetadata (List Entry) where
  find_empty _ := rfl
  isEmpty_iff m := by
    constructor
    · intro h tag
      rw [List.isEmpty_iff.mp h]
      rfl
    · intro h
      cases m with
      | nil => rfl
      | cons e rest =>
          have hfind : List.find? (fun x => x.tag = e.tag) (e :: rest) = none := h e.tag
          simp at hfind
  find_update h tag := by
    cases h
    exact find?_updateEntry _ _ tag
  find_append h tag e he := by
    cases h
    have hor := List.find?_append.symm.trans he
    exact (Option.or_eq_some_iff.mp hor).imp_right And.right
  find_append_none h tag := by
    cases h
    show List.find? _ (_ ++ _) = none ↔ _
    rw [List.find?_append, Option.or_eq_none_iff]
    rfl

/-- A type with a `SingleTagValue` and an `UpdateMetadata`.  `read` fills a variable that is not
initialised yet from the items of an entry. -/
class MetadataValue (T : Type) where
  type : TagType
  items : T → List Int
  read : T → List Int → Except Failure T
  read_items : ∀ val v, read val (items v) = .ok v
  items_ne_nil : ∀ v, items v ≠ []

/-- Exactly one item. -/
@[reducible] def MetadataValue.single {T : Type} (type : TagType) (toInt : T → Int)
    (ofInt : Int → T) (h : ∀ v, ofInt (toInt v) = v) : MetadataValue T where
  type := type
  items v := [toInt v]
  read _
    | [x] => .ok (ofInt x)
    | _ => .error .EINVAL
  read_items _ v := congrArg _ (h v)
  items_ne_nil _ := by simp

instance : MetadataValue UInt8 :=
  .single .BYTE (fun v => v.toNat) (fun x => UInt8.ofNat x.toNat) (by simp)

instance : MetadataValue Int32 := .single .INT32 Int32.toInt Int32.ofInt (by simp)

instance : MetadataValue Int64 := .single .INT64 Int64.toInt Int64.ofInt (by simp)

/-- A `std::array`: a shorter entry leaves the rest as it is, a longer one is written all the
same. -/
instance {n : Nat} : MetadataValue (List.Vector Int32 (n + 1)) where
  type := .INT32
  items v := v.toList.map Int32.toInt
  read val items :=
    if items.length ≤ n + 1 then
      .ok (List.Vector.ofFn fun i =>
        if h : i.val < items.length then Int32.ofInt (items.get ⟨i, h⟩) else val.get i)
    else .error .undefined
  read_items val v := by
    have hlen : (v.toList.map Int32.toInt).length = n + 1 := by simp
    rw [if_pos hlen.le]
    refine congrArg _ (List.Vector.ext fun i => ?_)
    rw [List.Vector.get_ofFn, dif_pos (i.isLt.trans_eq hlen.symm)]
    simp only [List.get_eq_getElem, List.getElem_map, Int32.ofInt_toInt]
    rfl
  items_ne_nil v := by
    intro h
    have hlen := congrArg List.length h
    simp at hlen

section

variable {T : Type} [MetadataValue T]

def valueEntry (tag : Int) (v : T) : Entry := ⟨tag, MetadataValue.type T, MetadataValue.items v⟩

def vectorEntry (tag : Int) (vs : List T) : Entry :=
  ⟨tag, MetadataValue.type T, vs.flatMap MetadataValue.items⟩

variable {C : Type} [CameraMetadata C]

def UpdateMetadata (m : C) (e : Entry) : Except Failure C :=
  match update m e with
  | .ok m => .ok m
  | .error _ => .error .ENODEV

def SingleTagValue (m : C) (tag : Int) (val : T) : Except Failure T :=
  match find m tag with
  | none => .error .ENOENT
  | some e => if e.items = [] then .error .ENOENT else MetadataValue.read val e.items

theorem SingleTagValue_of_find {m : C} {tag : Int} {v : T}
    (h : find m tag = some (valueEntry tag v)) (val : T) : SingleTagValue m tag val = .ok v := by
  simp only [SingleTagValue, h, valueEntry, MetadataValue.items_ne_nil, if_false]
  exact MetadataValue.read_items val v

theorem SingleTagValue_of_none {m : C} {tag : Int} (h : find m tag = none) (val : T) :
    SingleTagValue m tag val = .error .ENOENT := by
  rw [SingleTagValue, h]

theorem UpdateMetadata_ok {m m' : C} {e : Entry} (h : UpdateMetadata m e = .ok m') :
    update m e = .ok m' := by
  unfold UpdateMetadata at h
  split at h
  · rename_i hupdate
    rw [hupdate, Except.ok.inj h]
  · cases h

end

/-! ## Options -/

instance linearOrderUInt8 : LinearOrder UInt8 := LinearOrder.lift' UInt8.toNat fun _ _ => UInt8.toNat_inj.mp

instance linearOrderInt32 : LinearOrder Int32 := LinearOrder.lift' Int32.toInt fun _ _ => Int32.toInt_inj.mp

instance linearOrderInt64 : LinearOrder Int64 := LinearOrder.lift' Int64.toInt fun _ _ => Int64.toInt_inj.mp

def CAMERA3_TEMPLATE_COUNT : Int := 7

def OTHER_TEMPLATES : Int := CAMERA3_TEMPLATE_COUNT

def defaultOption {T : Type} (defaults_ : Int → Option T) (template_type : Int) : Option T :=
  (defaults_ template_type).or (defaults_ OTHER_TEMPLATES)

inductive ControlOptions (T : Type) where
  | menu (options_ : List T) (defaults_ : Int → Option T)
  | slider (min_ max_ : T) (defaults_ : Int → Option T)

namespace ControlOptions

variable {T : Type} [LinearOrder T]

def MetadataRepresentation : ControlOptions T → List T
  | .menu options_ _ => options_
  | .slider min_ max_ _ => [min_, max_]

def IsSupported (option : T) : ControlOptions T → Bool
  | .menu options_ _ => options_.contains option
  | .slider min_ max_ _ => decide (min_ ≤ option) && decide (option ≤ max_)

def DefaultValueForTemplate (template_type : Int) : ControlOptions T → Except Failure T
  | .menu [] _ => .error .ENODEV
  | .menu (first :: rest) defaults_ =>
      match defaultOption defaults_ template_type with
      | some default_value =>
          if (first :: rest).contains default_value then .ok default_value else .ok first
      | none => .ok first
  | .slider min_ max_ defaults_ =>
      if max_ < min_ then .error .ENODEV
      else match defaultOption defaults_ template_type with
        | some default_value =>
            if default_value < min_ then .ok min_
            else if max_ < default_value then .ok max_
            else .ok default_value
        | none => .ok min_

/-- Whatever defaults are given, a template asks for a supported value. -/
theorem IsSupported_of_default {options : ControlOptions T} {template_type : Int} {v : T}
    (h : options.DefaultValueForTemplate template_type = .ok v) : options.IsSupported v = true := by
  cases options with
  | menu options_ defaults_ =>
      cases options_ with
      | nil => cases h
      | cons first rest =>
          simp only [DefaultValueForTemplate] at h
          split at h
          · split at h
            · rename_i hmem
              cases h
              exact hmem
            · cases h
              simp [IsSupported]
          · cases h
            simp [IsSupported]
  | slider min_ max_ defaults_ =>
      simp only [DefaultValueForTemplate] at h
      split at h
      · cases h
      · rename_i hrange
        have hle : min_ ≤ max_ := not_lt.mp hrange
        split at h
        · split at h
          · cases h
            simp [IsSupported, hle]
          · rename_i hmin
            split at h
            · cases h
              simp [IsSupported, hle]
            · rename_i hmax
              cases h
              simp [IsSupported, not_lt.mp hmin, not_lt.mp hmax]
        · cases h
          simp [IsSupported, hle]

end ControlOptions

def DO_NOT_REPORT_OPTIONS : Int := -1

structure TaggedControlOptions (T : Type) where
  tag : Int
  options_ : ControlOptions T

/-! ## Delegates -/

structure Converter (T : Type) where
  MetadataToV4L2 : T → Except Failure Int
  V4L2ToMetadata : Int → Except Failure T

/-- The controls of the video device, which is in some state. -/
structure Device (D : Type) where
  GetControl : Nat → D → Except Failure Int
  SetControl : Nat → Int → D → Except Failure Unit × D

inductive ControlDelegate (T : Type) where
  /-- It has a `value_` of its own. -/
  | noEffect
  | ignored (value_ : T)
  | v4l2 (control_id_ : Nat) (converter_ : Converter T)

namespace ControlDelegate

variable {D T : Type} (dev : Device D)

def GetValue (device : D) (value_ : T) : ControlDelegate T → Except Failure T
  | .noEffect => .ok value_
  | .ignored value => .ok value
  | .v4l2 control_id_ converter_ =>
      match dev.GetControl control_id_ device with
      | .error res => .error res
      | .ok v4l2_value => converter_.V4L2ToMetadata v4l2_value

def SetValue (value : T) (device : D) (value_ : T) :
    ControlDelegate T → Except Failure Unit × D × T
  | .noEffect => (.ok (), device, value)
  | .ignored _ => (.ok (), device, value_)
  | .v4l2 control_id_ converter_ =>
      match converter_.MetadataToV4L2 value with
      | .error res => (.error res, device, value_)
      | .ok v4l2_value =>
          let (res, device) := dev.SetControl control_id_ v4l2_value device
          (res, device, value_)

end ControlDelegate

/-! ## Components -/

inductive Component (T : Type) where
  | property (tag_ : Int) (value_ : T)
  | state (tag_ : Int) (delegate_ : ControlDelegate T)
  | control (tag : Int) (delegate_ : ControlDelegate T) (options_ : Option (TaggedControlOptions T))

def ANDROID_CONTROL_AF_REGIONS : Int := 0x10008
def ANDROID_SCALER_CROP_REGION : Int := 0xd0000

namespace Component

variable {C D T : Type} [CameraMetadata C] [MetadataValue T] [LinearOrder T] (dev : Device D)

def StaticTags : Component T → List Int
  | .property tag_ _ => [tag_]
  | .state _ _ => []
  | .control _ _ none => []
  | .control _ _ (some options_) =>
      if options_.tag ≠ DO_NOT_REPORT_OPTIONS then [options_.tag] else []

def ControlTags : Component T → List Int
  | .control tag _ _ => [tag]
  | _ => []

def DynamicTags : Component T → List Int
  | .property _ _ => []
  | .state tag_ _ => [tag_]
  | .control tag _ _ => [tag]

def PopulateStaticFields (m : C) : Component T → Except Failure C
  | .property tag_ value_ => UpdateMetadata m (valueEntry tag_ value_)
  | .state _ _ => .ok m
  | .control _ _ none => .ok m
  | .control _ _ (some options_) =>
      if options_.tag = DO_NOT_REPORT_OPTIONS then .ok m
      else UpdateMetadata m
        (vectorEntry options_.tag options_.options_.MetadataRepresentation)

def PopulateDynamicFields (device : D) (value_ : T) (m : C) :
    Component T → Except Failure C
  | .property _ _ => .ok m
  | .state tag delegate_ | .control tag delegate_ _ => do
      let value ← delegate_.GetValue dev device value_
      UpdateMetadata m (valueEntry tag value)

/-- Without options the template has the current value. -/
def templateValue (template_type : Int) (device : D) (value_ : T) (delegate_ : ControlDelegate T) :
    Option (TaggedControlOptions T) → Except Failure T
  | some options_ => options_.options_.DefaultValueForTemplate template_type
  | none => delegate_.GetValue dev device value_

def PopulateTemplateRequest (template_type : Int) (device : D) (value_ : T) (m : C) :
    Component T → Except Failure C
  | .property _ _ | .state _ _ => .ok m
  | .control tag delegate_ options_ => do
      let value ← templateValue dev template_type device value_ delegate_ options_
      UpdateMetadata m (valueEntry tag value)

/-- `requested` is not initialised. -/
def SupportsRequestValues (requested : T) (m : C) : Component T → Bool
  | .property _ _ | .state _ _ => true
  | .control tag _ options_ =>
      if isEmpty m then true
      else match SingleTagValue m tag requested with
        | .error res => res = .ENOENT
        | .ok requested =>
            match options_ with
            | none => true
            | some options_ => options_.options_.IsSupported requested

def Accepts (tag : Int) (options_ : Option (TaggedControlOptions T)) (value : T) : Bool :=
  match options_ with
  | none => true
  | some options_ =>
      options_.options_.IsSupported value ||
        tag = ANDROID_SCALER_CROP_REGION || tag = ANDROID_CONTROL_AF_REGIONS

def SetRequestValues (requested : T) (m : C) (device : D) (value_ : T) :
    Component T → Except Failure Unit × D × T
  | .property _ _ | .state _ _ => (.ok (), device, value_)
  | .control tag delegate_ options_ =>
      if isEmpty m then (.ok (), device, value_)
      else match SingleTagValue m tag requested with
        | .error .ENOENT => (.ok (), device, value_)
        | .error res => (.error res, device, value_)
        | .ok requested =>
            if Accepts tag options_ requested then delegate_.SetValue dev requested device value_
            else (.error .EINVAL, device, value_)

end Component

/-! ## What the components add -/

theorem bind_ok {α β : Type} {x : Except Failure α} {f : α → Except Failure β} {b : β}
    (h : x >>= f = .ok b) : ∃ a, x = .ok a ∧ f a = .ok b := by
  cases x with
  | error res => cases h
  | ok a => exact ⟨a, rfl, h⟩

namespace Component

variable {C D T : Type} [CameraMetadata C] [LawfulCameraMetadata C] [MetadataValue T]
  {dev : Device D} {c : Component T} {m : C}

theorem has_of_update {e : Entry} (h : UpdateMetadata empty e = .ok m) (tag : Int) :
    Has m tag ↔ tag ∈ [e.tag] := by
  rw [has_update (UpdateMetadata_ok h), or_iff_right (not_has_empty tag), List.mem_singleton]

theorem has_of_empty (h : (.ok empty : Except Failure C) = .ok m) (tag : Int) :
    Has m tag ↔ tag ∈ ([] : List Int) := by
  obtain rfl := Except.ok.inj h
  simp [not_has_empty]

theorem has_static (h : c.PopulateStaticFields (empty : C) = .ok m) (tag : Int) :
    Has m tag ↔ tag ∈ c.StaticTags := by
  cases c with
  | property tag_ value_ => exact has_of_update h tag
  | state tag_ delegate_ => exact has_of_empty h tag
  | control tag_ delegate_ options_ =>
      cases options_ with
      | none => exact has_of_empty h tag
      | some options_ =>
          simp only [PopulateStaticFields] at h
          rw [StaticTags]
          split at h
          · rename_i hreport
            rw [if_neg (not_not.mpr hreport)]
            exact has_of_empty h tag
          · rename_i hreport
            rw [if_pos hreport]
            exact has_of_update h tag

theorem has_dynamic {device : D} {value_ : T}
    (h : c.PopulateDynamicFields dev device value_ (empty : C) = .ok m) (tag : Int) :
    Has m tag ↔ tag ∈ c.DynamicTags := by
  cases c with
  | property tag_ value => exact has_of_empty h tag
  | state tag_ delegate_ =>
      obtain ⟨v, -, hupdate⟩ := bind_ok h
      exact has_of_update hupdate tag
  | control tag_ delegate_ options_ =>
      obtain ⟨v, -, hupdate⟩ := bind_ok h
      exact has_of_update hupdate tag

theorem find_dynamic {device : D} {value_ : T} {tag : Int} {delegate_ : ControlDelegate T}
    {options_ : Option (TaggedControlOptions T)}
    (h : (control tag delegate_ options_).PopulateDynamicFields dev device value_ (empty : C) =
      .ok m) :
    ∃ v, delegate_.GetValue dev device value_ = .ok v ∧ find m tag = some (valueEntry tag v) := by
  obtain ⟨v, hget, hupdate⟩ := bind_ok h
  exact ⟨v, hget, find_update_self (UpdateMetadata_ok hupdate)⟩

variable [LinearOrder T]

theorem has_template {template_type : Int} {device : D} {value_ : T}
    (h : c.PopulateTemplateRequest dev template_type device value_ (empty : C) = .ok m)
    (tag : Int) : Has m tag ↔ tag ∈ c.ControlTags := by
  cases c with
  | property tag_ value => exact has_of_empty h tag
  | state tag_ delegate_ => exact has_of_empty h tag
  | control tag_ delegate_ options_ =>
      obtain ⟨v, -, hupdate⟩ := bind_ok h
      exact has_of_update hupdate tag

theorem find_template {template_type : Int} {device : D} {value_ : T} {tag : Int}
    {delegate_ : ControlDelegate T} {options_ : Option (TaggedControlOptions T)}
    (h : (control tag delegate_ options_).PopulateTemplateRequest dev template_type device value_
      (empty : C) = .ok m) :
    ∃ v, find m tag = some (valueEntry tag v) ∧
      ∀ options, options_ = some options → options.options_.IsSupported v = true := by
  obtain ⟨v, hvalue, hupdate⟩ := bind_ok h
  refine ⟨v, find_update_self (UpdateMetadata_ok hupdate), ?_⟩
  rintro options rfl
  exact ControlOptions.IsSupported_of_default hvalue

end Component

end AwHal.Camera.PartialMetadata
