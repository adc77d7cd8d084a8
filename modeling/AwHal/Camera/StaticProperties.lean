import Mathlib.Data.Finset.Card
import AwHal.Camera.PartialMetadata
import AwHal.Lib.KeyedMap

/-!
# The static properties

`StaticProperties` is what the camera device checks a stream configuration against
(`static_properties.cpp`).  It is made from the static metadata by a `MetadataReader`
(`metadata_reader.cpp`).
-/

namespace AwHal.Camera.StaticInfo

open AwHal.Lib AwHal.Camera.PartialMetadata

/-! ## Reading the metadata -/

def ANDROID_LENS_FACING : Int := 0x80005
def ANDROID_SENSOR_ORIENTATION : Int := 0xe000e
def ANDROID_REQUEST_MAX_NUM_OUTPUT_STREAMS : Int := 0xc0006
def ANDROID_REQUEST_MAX_NUM_INPUT_STREAMS : Int := 0xc0008
def ANDROID_REQUEST_AVAILABLE_CAPABILITIES : Int := 0xc000c
def ANDROID_SCALER_AVAILABLE_INPUT_OUTPUT_FORMATS_MAP : Int := 0xd0009
def ANDROID_SCALER_AVAILABLE_STREAM_CONFIGURATIONS : Int := 0xd000a
def ANDROID_SCALER_AVAILABLE_STALL_DURATIONS : Int := 0xd000c

def ANDROID_SCALER_AVAILABLE_STREAM_CONFIGURATIONS_OUTPUT : Int32 := 0
def ANDROID_SCALER_AVAILABLE_STREAM_CONFIGURATIONS_INPUT : Int32 := 1

def ANDROID_LENS_FACING_FRONT : UInt8 := 0
def ANDROID_LENS_FACING_BACK : UInt8 := 1
def ANDROID_LENS_FACING_EXTERNAL : UInt8 := 2

def CAMERA_FACING_BACK : Int := 0
def CAMERA_FACING_FRONT : Int := 1
def CAMERA_FACING_EXTERNAL : Int := 2

structure StreamSpec where
  format : Int32
  width : Int32
  height : Int32
deriving DecidableEq, Repr

structure StreamConfiguration where
  spec : StreamSpec
  direction : Int32
deriving DecidableEq, Repr

structure StreamStallDuration where
  spec : StreamSpec
  duration : Int64
deriving DecidableEq, Repr

abbrev ReprocessFormatMap : Type := AList fun _ : Int32 => Finset Int32

variable {C : Type} [CameraMetadata C]

def quadruples {T : Type} : List T → List (T × T × T × T)
  | a :: b :: c :: d :: rest => (a, b, c, d) :: quadruples rest
  | _ => []

def VectorTagValue {T : Type} (ofInt : Int → T) (m : C) (tag : Int) :
    Except Failure (List T) :=
  match find m tag with
  | none => .error .ENOENT
  | some e => if e.items = [] then .error .ENOENT else .ok (e.items.map ofInt)

def VectorTagValueArray {T : Type} (ofInt : Int → T) (m : C) (tag : Int) :
    Except Failure (List (T × T × T × T)) :=
  match find m tag with
  | none => .error .ENOENT
  | some e =>
      if e.items = [] then .error .ENOENT
      else if e.items.length % 4 ≠ 0 then .error .EINVAL
      else .ok (quadruples (e.items.map ofInt))

namespace MetadataReader

def Facing (m : C) : Except Failure Int :=
  match SingleTagValue m ANDROID_LENS_FACING (0 : UInt8) with
  | .error res => .error res
  | .ok metadata_facing =>
      if metadata_facing = ANDROID_LENS_FACING_FRONT then .ok CAMERA_FACING_FRONT
      else if metadata_facing = ANDROID_LENS_FACING_BACK then .ok CAMERA_FACING_BACK
      else if metadata_facing = ANDROID_LENS_FACING_EXTERNAL then .ok CAMERA_FACING_EXTERNAL
      else .error .EINVAL

def Orientation (m : C) : Except Failure Int32 :=
  match SingleTagValue m ANDROID_SENSOR_ORIENTATION (0 : Int32) with
  | .error res => .error res
  | .ok metadata_orientation =>
      if metadata_orientation < 0 ∨ 270 < metadata_orientation ∨ metadata_orientation % 90 ≠ 0 then
        .error .EINVAL
      else .ok metadata_orientation

def MaxInputStreams (m : C) : Except Failure Int32 :=
  match SingleTagValue m ANDROID_REQUEST_MAX_NUM_INPUT_STREAMS (0 : Int32) with
  | .error .ENOENT => .ok 0
  | res => res

/-- The raw, the non stalling and the stalling maximum.  `val` is the array before it is filled. -/
def MaxOutputStreams (val : List.Vector Int32 3) (m : C) :
    Except Failure (List.Vector Int32 3) :=
  SingleTagValue m ANDROID_REQUEST_MAX_NUM_OUTPUT_STREAMS val

def RequestCapabilities (m : C) : Except Failure (Finset UInt8) :=
  match VectorTagValue (fun x => UInt8.ofNat x.toNat) m ANDROID_REQUEST_AVAILABLE_CAPABILITIES with
  | .error res => .error res
  | .ok raw_capabilities => .ok raw_capabilities.toFinset

def ofRawConfiguration (raw : Int32 × Int32 × Int32 × Int32) : StreamConfiguration :=
  { spec := { format := raw.1, width := raw.2.1, height := raw.2.2.1 }, direction := raw.2.2.2 }

def ofRawStallDuration (raw : Int64 × Int64 × Int64 × Int64) : StreamStallDuration :=
  { spec := { format := raw.1.toInt32, width := raw.2.1.toInt32, height := raw.2.2.1.toInt32 }
    duration := raw.2.2.2 }

def ValidConfiguration (config : StreamConfiguration) : Prop :=
  ¬(config.spec.width < 1 ∨ config.spec.height < 1) ∧
    (config.direction = ANDROID_SCALER_AVAILABLE_STREAM_CONFIGURATIONS_OUTPUT ∨
      config.direction = ANDROID_SCALER_AVAILABLE_STREAM_CONFIGURATIONS_INPUT)

def ValidStallDuration (stall : StreamStallDuration) : Prop :=
  ¬(stall.spec.width < 1 ∨ stall.spec.height < 1) ∧ ¬stall.duration < 0

instance : DecidablePred ValidConfiguration := fun config =>
  inferInstanceAs (Decidable (¬(config.spec.width < 1 ∨ config.spec.height < 1) ∧ (_ ∨ _)))

instance : DecidablePred ValidStallDuration := fun stall =>
  inferInstanceAs
    (Decidable (¬(stall.spec.width < 1 ∨ stall.spec.height < 1) ∧ ¬stall.duration < 0))

def StreamConfigurations (m : C) : Except Failure (List StreamConfiguration) :=
  match VectorTagValueArray Int32.ofInt m ANDROID_SCALER_AVAILABLE_STREAM_CONFIGURATIONS with
  | .error res => .error res
  | .ok raw_stream_configs =>
      let configs := raw_stream_configs.map ofRawConfiguration
      if ∀ config ∈ configs, ValidConfiguration config then .ok configs else .error .EINVAL

def StreamStallDurations (m : C) : Except Failure (List StreamStallDuration) :=
  match VectorTagValueArray Int64.ofInt m ANDROID_SCALER_AVAILABLE_STALL_DURATIONS with
  | .error res => .error res
  | .ok raw_stream_stall_durations =>
      let stalls := raw_stream_stall_durations.map ofRawStallDuration
      if ∀ stall ∈ stalls, ValidStallDuration stall then .ok stalls else .error .EINVAL

def insertFormats (input_format : Int32) (outputs : List Int32)
    (reprocess_map : ReprocessFormatMap) : ReprocessFormatMap :=
  modifyAt ∅ input_format (· ∪ outputs.toFinset) reprocess_map

/-- The loop of `ReprocessFormats` over the rest of the vector.  It does not look whether the number
of outputs is still in it. -/
def reprocessLoop (reprocess_map : ReprocessFormatMap) :
    List Int32 → Except Failure ReprocessFormatMap
  | [] => .ok reprocess_map
  | [_] => .error .undefined
  | input_format :: num_output_formats :: rest =>
      if num_output_formats < 1 then .error .EINVAL
      else if rest.length < num_output_formats.toInt.toNat then .error .EINVAL
      else
        reprocessLoop
          (insertFormats input_format (rest.take num_output_formats.toInt.toNat) reprocess_map)
          (rest.drop num_output_formats.toInt.toNat)
termination_by l => l.length

def ReprocessFormats (m : C) : Except Failure ReprocessFormatMap :=
  match VectorTagValue Int32.ofInt m ANDROID_SCALER_AVAILABLE_INPUT_OUTPUT_FORMATS_MAP with
  | .error res => .error res
  | .ok input_output_formats => reprocessLoop ∅ input_output_formats

end MetadataReader

/-! ## The capabilities of the streams -/

structure StreamCapabilities where
  stall_duration : Int64 := -1
  input_supported : Bool := false
  output_supported : Bool := false
deriving DecidableEq, Repr

abbrev CapabilitiesMap : Type := AList fun _ : StreamSpec => StreamCapabilities

def addConfigurations (capabilities : CapabilitiesMap) :
    List StreamConfiguration → Option CapabilitiesMap
  | [] => some capabilities
  | config :: configs =>
      if config.direction = ANDROID_SCALER_AVAILABLE_STREAM_CONFIGURATIONS_OUTPUT then
        addConfigurations
          (modifyAt {} config.spec (fun c => { c with output_supported := true }) capabilities)
          configs
      else if config.direction = ANDROID_SCALER_AVAILABLE_STREAM_CONFIGURATIONS_INPUT then
        addConfigurations
          (modifyAt {} config.spec (fun c => { c with input_supported := true }) capabilities)
          configs
      else none

def setStall (stall : StreamStallDuration) (c : StreamCapabilities) : StreamCapabilities :=
  { c with stall_duration := stall.duration }

def ConstructStreamCapabilities (configs : List StreamConfiguration)
    (stalls : List StreamStallDuration) : Option CapabilitiesMap :=
  (addConfigurations ∅ configs).map (foldAt {} StreamStallDuration.spec setStall stalls)

def ValidateStreamCapabilities (capabilities : CapabilitiesMap) : Bool :=
  capabilities.entries.all fun e => !(e.2.output_supported && decide (e.2.stall_duration < 0))

def inputFormats (capabilities : CapabilitiesMap) : Finset Int32 :=
  ((capabilities.entries.filter fun e => e.2.input_supported).map fun e => e.1.format).toFinset

def outputFormats (capabilities : CapabilitiesMap) : Finset Int32 :=
  ((capabilities.entries.filter fun e => e.2.output_supported).map fun e => e.1.format).toFinset

def inputFormatReprocessed (all_output_formats : Finset Int32) (reprocess_map : ReprocessFormatMap)
    (input_format : Int32) : Bool :=
  match reprocess_map.lookup input_format with
  | none => false
  | some outputs => decide (outputs ⊆ all_output_formats)

def ValidateReprocessFormats (capabilities : CapabilitiesMap) (reprocess_map : ReprocessFormatMap) :
    Bool :=
  let all_input_formats := inputFormats capabilities
  let all_output_formats := outputFormats capabilities
  if all_input_formats.card < 1 then false
  else if all_input_formats.card ≠ reprocess_map.entries.length then false
  else
    decide (all_input_formats.filter (fun input_format =>
      inputFormatReprocessed all_output_formats reprocess_map input_format = true) =
        all_input_formats)

/-! ## What they are -/

theorem valid_direction {config : StreamConfiguration}
    (h : MetadataReader.ValidConfiguration config) :
    config.direction = ANDROID_SCALER_AVAILABLE_STREAM_CONFIGURATIONS_OUTPUT ∨
      config.direction = ANDROID_SCALER_AVAILABLE_STREAM_CONFIGURATIONS_INPUT := h.2

def setSupported (config : StreamConfiguration) (c : StreamCapabilities) : StreamCapabilities :=
  if config.direction = ANDROID_SCALER_AVAILABLE_STREAM_CONFIGURATIONS_OUTPUT then
    { c with output_supported := true }
  else { c with input_supported := true }

theorem addConfigurations_eq {configs : List StreamConfiguration}
    (h : ∀ config ∈ configs, MetadataReader.ValidConfiguration config)
    (capabilities : CapabilitiesMap) :
    addConfigurations capabilities configs =
      some (foldAt {} StreamConfiguration.spec setSupported configs capabilities) := by
  induction configs generalizing capabilities with
  | nil => rfl
  | cons config configs ih =>
      have hrest := ih fun c hc => h c (List.mem_cons_of_mem _ hc)
      rw [addConfigurations]
      by_cases hout : config.direction = ANDROID_SCALER_AVAILABLE_STREAM_CONFIGURATIONS_OUTPUT
      · have hset : setSupported config = fun c => { c with output_supported := true } := by
          funext c
          rw [setSupported, if_pos hout]
        rw [if_pos hout, hrest, foldAt, foldAt, List.foldl_cons, hset]
      · have hin := (valid_direction (h config List.mem_cons_self)).resolve_left hout
        have hset : setSupported config = fun c => { c with input_supported := true } := by
          funext c
          rw [setSupported, if_neg hout]
        rw [if_neg hout, if_pos hin, hrest, foldAt, foldAt, List.foldl_cons, hset]

theorem foldl_setSupported (l : List StreamConfiguration) (c : StreamCapabilities) :
    (l.foldl (fun v a => setSupported a v) c).stall_duration = c.stall_duration ∧
    ((l.foldl (fun v a => setSupported a v) c).output_supported = true ↔
      c.output_supported = true ∨ ∃ config ∈ l,
        config.direction = ANDROID_SCALER_AVAILABLE_STREAM_CONFIGURATIONS_OUTPUT) ∧
    ((l.foldl (fun v a => setSupported a v) c).input_supported = true ↔
      c.input_supported = true ∨ ∃ config ∈ l,
        config.direction ≠ ANDROID_SCALER_AVAILABLE_STREAM_CONFIGURATIONS_OUTPUT) := by
  induction l generalizing c with
  | nil => simp
  | cons config rest ih =>
      obtain ⟨hstall, hout, hin⟩ := ih (setSupported config c)
      rw [List.foldl_cons, hstall, hout, hin]
      by_cases h : config.direction = ANDROID_SCALER_AVAILABLE_STREAM_CONFIGURATIONS_OUTPUT
      · simp [setSupported, h]
      · simp [setSupported, h]

theorem foldl_setStall (l : List StreamStallDuration) (c : StreamCapabilities) :
    l.foldl (fun v a => setStall a v) c =
      { c with stall_duration := (l.getLast?.map (·.duration)).getD c.stall_duration } := by
  induction l using List.reverseRecOn with
  | nil => rfl
  | append_singleton rest stall ih =>
      rw [List.foldl_append, ih, List.getLast?_append]
      rfl

def stallOf (stalls : List StreamStallDuration) (spec : StreamSpec) : Int64 :=
  ((stalls.filter fun s => s.spec = spec).getLast?.map (·.duration)).getD (-1)

theorem construct_spec {configs : List StreamConfiguration} {stalls : List StreamStallDuration}
    {capabilities : CapabilitiesMap}
    (hvalid : ∀ config ∈ configs, MetadataReader.ValidConfiguration config)
    (h : ConstructStreamCapabilities configs stalls = some capabilities) (spec : StreamSpec) :
    (valueAt {} capabilities spec).stall_duration = stallOf stalls spec ∧
    ((valueAt {} capabilities spec).output_supported = true ↔ ∃ c ∈ configs, c.spec = spec ∧
      c.direction = ANDROID_SCALER_AVAILABLE_STREAM_CONFIGURATIONS_OUTPUT) ∧
    ((valueAt {} capabilities spec).input_supported = true ↔ ∃ c ∈ configs, c.spec = spec ∧
      c.direction = ANDROID_SCALER_AVAILABLE_STREAM_CONFIGURATIONS_INPUT) := by
  rw [ConstructStreamCapabilities, addConfigurations_eq hvalid, Option.map_some] at h
  obtain rfl := Option.some.inj h
  rw [valueAt_foldAt, foldl_setStall, valueAt_foldAt]
  have hempty : valueAt {} (∅ : CapabilitiesMap) spec = {} :=
    valueAt_of_lookup_none (AList.lookup_empty spec)
  rw [hempty]
  obtain ⟨hstall, hout, hin⟩ := foldl_setSupported (configs.filter fun c => c.spec = spec) {}
  refine ⟨?_, ?_, ?_⟩
  · simp only [hstall, stallOf]
  · simp only [hout, List.mem_filter, decide_eq_true_eq, and_assoc, Bool.false_eq_true, false_or]
  · simp only [hin, List.mem_filter, decide_eq_true_eq, and_assoc, Bool.false_eq_true, false_or]
    constructor
    · rintro ⟨c, hc, hspec, hdir⟩
      exact ⟨c, hc, hspec, (valid_direction (hvalid c hc)).resolve_left hdir⟩
    · rintro ⟨c, hc, hspec, hdir⟩
      exact ⟨c, hc, hspec, by rw [hdir]; decide⟩

theorem stallOf_nonneg {stalls : List StreamStallDuration}
    (h : ∀ s ∈ stalls, MetadataReader.ValidStallDuration s) (spec : StreamSpec) :
    ¬stallOf stalls spec < 0 ↔ ∃ s ∈ stalls, s.spec = spec := by
  rw [stallOf]
  rcases List.eq_nil_or_concat (stalls.filter fun s => s.spec = spec) with hnil | ⟨l, s, hl⟩
  · have hnone : ¬∃ s ∈ stalls, s.spec = spec := by
      rintro ⟨s, hs, hspec⟩
      have hmem : s ∈ stalls.filter fun s => s.spec = spec :=
        List.mem_filter.mpr ⟨hs, decide_eq_true hspec⟩
      rw [hnil] at hmem
      exact absurd hmem List.not_mem_nil
    rw [hnil]
    simp only [hnone, iff_false, not_not]
    decide
  · have hmem : s ∈ stalls.filter fun s => s.spec = spec := by
      rw [hl, List.concat_eq_append]
      exact List.mem_concat_self
    have hs := List.mem_filter.mp hmem
    rw [hl, List.concat_eq_append, List.getLast?_append]
    simp only [List.getLast?_singleton, Option.some_or, Option.map_some, Option.getD_some]
    exact ⟨fun _ => ⟨s, hs.1, of_decide_eq_true hs.2⟩, fun _ => (h s hs.1).2⟩

theorem ValidateStreamCapabilities_iff (capabilities : CapabilitiesMap) :
    ValidateStreamCapabilities capabilities = true ↔ ∀ spec,
      (valueAt {} capabilities spec).output_supported = true →
        ¬(valueAt {} capabilities spec).stall_duration < 0 := by
  rw [ValidateStreamCapabilities, List.all_eq_true]
  constructor
  · intro h spec hout
    have hne : valueAt {} capabilities spec ≠ {} := by
      intro hdefault
      rw [hdefault] at hout
      cases hout
    have he := h _ (mem_entries_valueAt hne)
    simpa [hout] using he
  · rintro h ⟨spec, c⟩ he
    have hc := h spec
    rw [valueAt_of_mem_entries he] at hc
    cases hout : c.output_supported with
    | false => rfl
    | true => simpa [hout] using hc hout

theorem mem_formats {supported : StreamCapabilities → Bool} (hdefault : supported {} = false)
    (capabilities : CapabilitiesMap) (format : Int32) :
    format ∈
        ((capabilities.entries.filter fun e => supported e.2).map fun e => e.1.format).toFinset ↔
      ∃ spec, supported (valueAt {} capabilities spec) = true ∧ spec.format = format := by
  rw [List.mem_toFinset, List.mem_map]
  constructor
  · rintro ⟨⟨spec, c⟩, he, rfl⟩
    have he := List.mem_filter.mp he
    exact ⟨spec, by rw [valueAt_of_mem_entries he.1]; exact he.2, rfl⟩
  · rintro ⟨spec, hsupported, rfl⟩
    have hne : valueAt {} capabilities spec ≠ {} := by
      intro heq
      rw [heq, hdefault] at hsupported
      cases hsupported
    exact ⟨_, List.mem_filter.mpr ⟨mem_entries_valueAt hne, hsupported⟩, rfl⟩

theorem mem_inputFormats (capabilities : CapabilitiesMap) (format : Int32) :
    format ∈ inputFormats capabilities ↔
      ∃ spec, (valueAt {} capabilities spec).input_supported = true ∧ spec.format = format :=
  mem_formats rfl capabilities format

theorem mem_outputFormats (capabilities : CapabilitiesMap) (format : Int32) :
    format ∈ outputFormats capabilities ↔
      ∃ spec, (valueAt {} capabilities spec).output_supported = true ∧ spec.format = format :=
  mem_formats rfl capabilities format

theorem keys_card (reprocess_map : ReprocessFormatMap) :
    reprocess_map.keys.toFinset.card = reprocess_map.entries.length := by
  rw [List.toFinset_card_of_nodup reprocess_map.keys_nodup, AList.keys, List.keys, List.length_map]

theorem inputFormatReprocessed_iff {all_output_formats : Finset Int32}
    {reprocess_map : ReprocessFormatMap} {input_format : Int32} :
    inputFormatReprocessed all_output_formats reprocess_map input_format = true ↔
      ∃ outputs ∈ reprocess_map.lookup input_format, outputs ⊆ all_output_formats := by
  unfold inputFormatReprocessed
  cases reprocess_map.lookup input_format with
  | none => simp
  | some outputs => simp

/-- The comparison of the sizes and the search for each input format leave the map no other keys. -/
theorem ValidateReprocessFormats_iff (capabilities : CapabilitiesMap)
    (reprocess_map : ReprocessFormatMap) :
    ValidateReprocessFormats capabilities reprocess_map = true ↔
      (∃ format, format ∈ inputFormats capabilities) ∧
      (∀ format, format ∈ reprocess_map ↔ format ∈ inputFormats capabilities) ∧
      ∀ input output, output ∈ valueAt ∅ reprocess_map input →
        output ∈ outputFormats capabilities := by
  have hkeys : ∀ format, format ∈ reprocess_map.keys.toFinset ↔ format ∈ reprocess_map :=
    fun format => List.mem_toFinset.trans AList.mem_keys.symm
  rw [ValidateReprocessFormats]
  constructor
  · intro h
    split at h
    · cases h
    · rename_i hne
      split at h
      · cases h
      · rename_i hcard
        have hall := fun format hf =>
          inputFormatReprocessed_iff.mp (Finset.filter_eq_self.mp (of_decide_eq_true h) format hf)
        have hsub : inputFormats capabilities ⊆ reprocess_map.keys.toFinset := by
          intro format hf
          obtain ⟨outputs, hlookup, -⟩ := hall format hf
          rw [hkeys]
          exact AList.lookup_isSome.mp (Option.isSome_iff_exists.mpr ⟨outputs, hlookup⟩)
        have heq := Finset.eq_of_subset_of_card_le hsub
          (by rw [keys_card]; exact (not_not.mp hcard).ge)
        have hiff : ∀ format, format ∈ reprocess_map ↔ format ∈ inputFormats capabilities :=
          fun format => by rw [heq, hkeys]
        refine ⟨Finset.card_pos.mp (by omega), hiff, ?_⟩
        intro input output houtput
        by_cases hin : input ∈ reprocess_map
        · obtain ⟨outputs, hlookup, hout⟩ := hall input ((hiff input).mp hin)
          rw [valueAt_of_lookup hlookup] at houtput
          exact hout houtput
        · rw [valueAt_of_lookup_none (AList.lookup_eq_none.mpr hin)] at houtput
          exact absurd houtput (Finset.notMem_empty output)
  · rintro ⟨hne, hiff, hout⟩
    have heq : inputFormats capabilities = reprocess_map.keys.toFinset := by
      ext format
      rw [hkeys, hiff]
    have hpos := Finset.card_pos.mpr hne
    have hcard : (inputFormats capabilities).card = reprocess_map.entries.length := by
      rw [heq, keys_card]
    rw [if_neg (by omega), if_neg (not_not.mpr hcard), decide_eq_true_iff, Finset.filter_eq_self]
    intro input hin
    exact inputFormatReprocessed_iff.mpr ⟨_, lookup_of_mem ∅ ((hiff input).mpr hin), hout input⟩

/-! ## The object -/

structure StaticProperties where
  facing_ : Int
  orientation_ : Int32
  max_input_streams_ : Int32
  /-- The raw, the non stalling and the stalling maximum. -/
  max_output_streams_ : List.Vector Int32 3
  request_capabilities_ : Finset UInt8
  stream_capabilities_ : CapabilitiesMap
  supported_reprocess_outputs_ : ReprocessFormatMap

/-- An error of a reader gives the null pointer. -/
def orNull {T P : Type} (res : Except Failure T) (next : T → Except Failure (Option P)) :
    Except Failure (Option P) :=
  match res with
  | .ok v => next v
  | .error .undefined => .error .undefined
  | .error _ => .ok none

def readReprocessFormats (m : C) (max_input_streams : Int32) :
    Except Failure ReprocessFormatMap :=
  if 0 < max_input_streams then MetadataReader.ReprocessFormats m else .ok ∅

def NewStaticProperties (val : List.Vector Int32 3) (m : C) :
    Except Failure (Option StaticProperties) :=
  orNull (MetadataReader.Facing m) fun facing =>
  orNull (MetadataReader.Orientation m) fun orientation =>
  orNull (MetadataReader.MaxInputStreams m) fun max_input_streams =>
  orNull (MetadataReader.MaxOutputStreams val m) fun max_output_streams =>
  orNull (MetadataReader.RequestCapabilities m) fun request_capabilities =>
  orNull (MetadataReader.StreamConfigurations m) fun configs =>
  orNull (MetadataReader.StreamStallDurations m) fun stalls =>
  match ConstructStreamCapabilities configs stalls with
  | none => .ok none
  | some stream_capabilities =>
      if ValidateStreamCapabilities stream_capabilities = false then .ok none
      else
        orNull (readReprocessFormats m max_input_streams) fun reprocess_map =>
          if 0 < max_input_streams ∧
              ValidateReprocessFormats stream_capabilities reprocess_map = false then .ok none
          else .ok (some
            { facing_ := facing
              orientation_ := orientation
              max_input_streams_ := max_input_streams
              max_output_streams_ := max_output_streams
              request_capabilities_ := request_capabilities
              stream_capabilities_ := stream_capabilities
              supported_reprocess_outputs_ := reprocess_map })

theorem orNull_eq_some {T P : Type} {res : Except Failure T}
    {next : T → Except Failure (Option P)} {p : P} :
    orNull res next = .ok (some p) ↔ ∃ v, res = .ok v ∧ next v = .ok (some p) := by
  constructor
  · intro h
    match res, h with
    | .ok v, h => exact ⟨v, rfl, h⟩
    | .error .undefined, h => exact nomatch h
  · rintro ⟨v, rfl, h⟩
    exact h

/-! ## What the metadata declares -/

structure FormatBlock where
  input : Int32
  outputs : List Int32

def FormatBlock.items (b : FormatBlock) : List Int32 :=
  b.input :: Int32.ofNat b.outputs.length :: b.outputs

def FormatBlock.Fits (b : FormatBlock) : Prop := b.outputs ≠ [] ∧ b.outputs.length < 2 ^ 31

def formatMap (formats : List FormatBlock) (reprocess_map : ReprocessFormatMap) :
    ReprocessFormatMap :=
  foldAt ∅ FormatBlock.input (fun b outputs => outputs ∪ b.outputs.toFinset) formats reprocess_map

theorem toNat_length {outputs : List Int32} (h : outputs.length < 2 ^ 31) :
    (Int32.ofNat outputs.length).toInt.toNat = outputs.length := by
  rw [Int32.toInt_ofNat_of_lt h, Int.toNat_natCast]

theorem reprocessLoop_iff (reprocess_map result : ReprocessFormatMap) (l : List Int32) :
    MetadataReader.reprocessLoop reprocess_map l = .ok result ↔
      ∃ formats : List FormatBlock, l = formats.flatMap FormatBlock.items ∧
        (∀ b ∈ formats, b.Fits) ∧ result = formatMap formats reprocess_map := by
  constructor
  · intro h
    fun_induction MetadataReader.reprocessLoop reprocess_map l with
    | case1 reprocess_map =>
        exact ⟨[], rfl, by simp, (Except.ok.inj h).symm⟩
    | case2 => cases h
    | case3 => cases h
    | case4 => cases h
    | case5 reprocess_map input_format num_output_formats rest hpos hlen ih =>
        obtain ⟨formats, hl, hfits, hresult⟩ := ih h
        have hnum : 1 ≤ num_output_formats.toInt :=
          not_lt.mp fun hlt => hpos (Int32.lt_iff_toInt_lt.mpr hlt)
        have htake : (rest.take num_output_formats.toInt.toNat).length =
            num_output_formats.toInt.toNat := by
          rw [List.length_take]
          omega
        have hlt := num_output_formats.toInt_lt
        have hof : Int32.ofNat num_output_formats.toInt.toNat = num_output_formats := by
          apply Int32.toInt_inj.mp
          rw [Int32.toInt_ofNat_of_lt (by omega)]
          omega
        refine ⟨⟨input_format, rest.take num_output_formats.toInt.toNat⟩ :: formats, ?_, ?_, ?_⟩
        · rw [List.flatMap_cons, ← hl, FormatBlock.items, htake, hof]
          simp
        · intro b hb
          rcases List.mem_cons.mp hb with rfl | hb
          · refine ⟨?_, by rw [htake]; omega⟩
            intro hnil
            have hnil := congrArg List.length hnil
            rw [htake, List.length_nil] at hnil
            omega
          · exact hfits b hb
        · rw [hresult]
          rfl
  · rintro ⟨formats, rfl, hfits, rfl⟩
    induction formats generalizing reprocess_map with
    | nil => rw [List.flatMap_nil, MetadataReader.reprocessLoop, formatMap, foldAt, List.foldl_nil]
    | cons b rest ih =>
        obtain ⟨hne, hlen⟩ := hfits b List.mem_cons_self
        have hnat := toNat_length hlen
        have hpos := List.length_pos_of_ne_nil hne
        have hone : ¬Int32.ofNat b.outputs.length < 1 := by
          rw [Int32.lt_iff_toInt_lt, Int32.toInt_ofNat_of_lt hlen, Int32.toInt_one]
          omega
        rw [List.flatMap_cons, FormatBlock.items, List.cons_append, List.cons_append,
          MetadataReader.reprocessLoop, if_neg hone, hnat, if_neg (by simp), List.take_left',
          List.drop_left', ih _ fun b hb => hfits b (List.mem_cons_of_mem _ hb)]
        · rfl
        · rfl
        · rfl

theorem mem_formatMap_keys (formats : List FormatBlock) (input : Int32) :
    input ∈ formatMap formats ∅ ↔ ∃ b ∈ formats, b.input = input := by
  rw [formatMap, mem_foldAt, or_iff_right (AList.notMem_empty input)]

theorem mem_foldl_outputs (formats : List FormatBlock) (outputs : Finset Int32) (output : Int32) :
    output ∈ formats.foldl (fun outputs b => outputs ∪ b.outputs.toFinset) outputs ↔
      output ∈ outputs ∨ ∃ b ∈ formats, output ∈ b.outputs := by
  induction formats generalizing outputs with
  | nil => simp
  | cons b rest ih =>
      rw [List.foldl_cons, ih, Finset.mem_union, List.mem_toFinset, List.exists_mem_cons_iff,
        or_assoc]

theorem mem_formatMap (formats : List FormatBlock) (input output : Int32) :
    output ∈ valueAt ∅ (formatMap formats ∅) input ↔
      ∃ b ∈ formats, b.input = input ∧ output ∈ b.outputs := by
  have hempty : valueAt ∅ (∅ : ReprocessFormatMap) input = ∅ :=
    valueAt_of_lookup_none (AList.lookup_empty input)
  rw [formatMap, valueAt_foldAt, mem_foldl_outputs, hempty]
  simp only [Finset.notMem_empty, false_or, List.mem_filter, decide_eq_true_eq, and_assoc]

structure Declared where
  facing : UInt8
  orientation : Int32
  max_input_streams : Int32
  max_output_streams : List.Vector Int32 3
  request_capabilities : List UInt8
  configs : List StreamConfiguration
  stalls : List StreamStallDuration
  /-- Without input streams nobody looks at them. -/
  formats : List FormatBlock

namespace Declared

/-- The entries of the metadata hold the declaration. -/
structure In (d : Declared) (val : List.Vector Int32 3) (m : C) : Prop where
  facing : SingleTagValue m ANDROID_LENS_FACING (0 : UInt8) = .ok d.facing
  orientation : SingleTagValue m ANDROID_SENSOR_ORIENTATION (0 : Int32) = .ok d.orientation
  max_input_streams :
    SingleTagValue m ANDROID_REQUEST_MAX_NUM_INPUT_STREAMS (0 : Int32) = .ok d.max_input_streams ∨
      SingleTagValue m ANDROID_REQUEST_MAX_NUM_INPUT_STREAMS (0 : Int32) = .error .ENOENT ∧
        d.max_input_streams = 0
  max_output_streams :
    SingleTagValue m ANDROID_REQUEST_MAX_NUM_OUTPUT_STREAMS val = .ok d.max_output_streams
  request_capabilities :
    VectorTagValue (fun x => UInt8.ofNat x.toNat) m ANDROID_REQUEST_AVAILABLE_CAPABILITIES =
      .ok d.request_capabilities
  configs : ∃ raw,
    VectorTagValueArray Int32.ofInt m ANDROID_SCALER_AVAILABLE_STREAM_CONFIGURATIONS = .ok raw ∧
      d.configs = raw.map MetadataReader.ofRawConfiguration
  stalls : ∃ raw,
    VectorTagValueArray Int64.ofInt m ANDROID_SCALER_AVAILABLE_STALL_DURATIONS = .ok raw ∧
      d.stalls = raw.map MetadataReader.ofRawStallDuration
  formats : 0 < d.max_input_streams →
    VectorTagValue Int32.ofInt m ANDROID_SCALER_AVAILABLE_INPUT_OUTPUT_FORMATS_MAP =
      .ok (d.formats.flatMap FormatBlock.items)

def Input (d : Declared) (spec : StreamSpec) : Prop :=
  ∃ c ∈ d.configs, c.spec = spec ∧
    c.direction = ANDROID_SCALER_AVAILABLE_STREAM_CONFIGURATIONS_INPUT

def Output (d : Declared) (spec : StreamSpec) : Prop :=
  ∃ c ∈ d.configs, c.spec = spec ∧
    c.direction = ANDROID_SCALER_AVAILABLE_STREAM_CONFIGURATIONS_OUTPUT

def Reprocess (d : Declared) (input output : Int32) : Prop :=
  ∃ b ∈ d.formats, b.input = input ∧ output ∈ b.outputs

structure ReprocessConsistent (d : Declared) : Prop where
  fits : ∀ b ∈ d.formats, b.Fits
  inputs : ∃ spec, d.Input spec
  formats : ∀ format, (∃ b ∈ d.formats, b.input = format) ↔ ∃ spec, d.Input spec ∧
    spec.format = format
  outputs : ∀ input output, d.Reprocess input output → ∃ spec, d.Output spec ∧
    spec.format = output

structure Consistent (d : Declared) : Prop where
  facing : d.facing = ANDROID_LENS_FACING_FRONT ∨ d.facing = ANDROID_LENS_FACING_BACK ∨
    d.facing = ANDROID_LENS_FACING_EXTERNAL
  orientation : d.orientation = 0 ∨ d.orientation = 90 ∨ d.orientation = 180 ∨ d.orientation = 270
  configs : ∀ c ∈ d.configs, 0 < c.spec.width ∧ 0 < c.spec.height ∧
    (c.direction = ANDROID_SCALER_AVAILABLE_STREAM_CONFIGURATIONS_OUTPUT ∨
      c.direction = ANDROID_SCALER_AVAILABLE_STREAM_CONFIGURATIONS_INPUT)
  stalls : ∀ s ∈ d.stalls, 0 < s.spec.width ∧ 0 < s.spec.height ∧ 0 ≤ s.duration
  stalled : ∀ spec, d.Output spec → ∃ s ∈ d.stalls, s.spec = spec
  reprocess : 0 < d.max_input_streams → d.ReprocessConsistent

end Declared

/-! ## Accepted metadata -/

theorem rejected_if {T : Type} {p : Prop} [Decidable p] {res : Failure} {v w : T} :
    (if p then Except.error res else Except.ok v) = Except.ok w ↔ ¬p ∧ v = w := by
  by_cases h : p <;> simp [h]

theorem accepted_if {T : Type} {p : Prop} [Decidable p] {res : Failure} {v w : T} :
    (if p then Except.ok v else Except.error res) = Except.ok w ↔ p ∧ v = w := by
  by_cases h : p <;> simp [h]

namespace MetadataReader

variable (m : C)

theorem Facing_iff :
    (∃ facing, Facing m = .ok facing) ↔
      ∃ v, SingleTagValue m ANDROID_LENS_FACING (0 : UInt8) = .ok v ∧
      (v = ANDROID_LENS_FACING_FRONT ∨ v = ANDROID_LENS_FACING_BACK ∨
        v = ANDROID_LENS_FACING_EXTERNAL) := by
  rw [Facing]
  cases SingleTagValue m ANDROID_LENS_FACING (0 : UInt8) with
  | error res => simp
  | ok v =>
      dsimp only
      by_cases hfront : v = ANDROID_LENS_FACING_FRONT
      · exact ⟨fun _ => ⟨v, rfl, .inl hfront⟩, fun _ => ⟨_, if_pos hfront⟩⟩
      · rw [if_neg hfront]
        by_cases hback : v = ANDROID_LENS_FACING_BACK
        · exact ⟨fun _ => ⟨v, rfl, .inr (.inl hback)⟩, fun _ => ⟨_, if_pos hback⟩⟩
        · rw [if_neg hback]
          simp [accepted_if, hfront, hback]

theorem quarter_turns (o : Int32) :
    ¬(o < 0 ∨ 270 < o ∨ o % 90 ≠ 0) ↔ o = 0 ∨ o = 90 ∨ o = 180 ∨ o = 270 := by
  constructor
  · intro h
    have hmin : 0 ≤ o.toInt := not_lt.mp fun hlt => h (.inl (Int32.lt_iff_toInt_lt.mpr hlt))
    have hmax : o.toInt ≤ 270 :=
      not_lt.mp fun hlt => h (.inr (.inl (Int32.lt_iff_toInt_lt.mpr hlt)))
    have hmod : (o % 90).toInt = 0 := by
      have hzero : o % 90 = 0 := not_not.mp fun hne => h (.inr (.inr hne))
      rw [hzero, Int32.toInt_zero]
    rw [Int32.toInt_mod, show (90 : Int32).toInt = 90 by decide] at hmod
    have hval : o.toInt = 0 ∨ o.toInt = 90 ∨ o.toInt = 180 ∨ o.toInt = 270 := by
      rw [Int.tmod_eq_emod_of_nonneg hmin] at hmod
      omega
    rcases hval with hval | hval | hval | hval
    · exact .inl (Int32.toInt_inj.mp hval)
    · exact .inr (.inl (Int32.toInt_inj.mp (hval.trans (by decide))))
    · exact .inr (.inr (.inl (Int32.toInt_inj.mp (hval.trans (by decide)))))
    · exact .inr (.inr (.inr (Int32.toInt_inj.mp (hval.trans (by decide)))))
  · rintro (rfl | rfl | rfl | rfl) <;> decide

theorem Orientation_iff (orientation : Int32) :
    Orientation m = .ok orientation ↔
      SingleTagValue m ANDROID_SENSOR_ORIENTATION (0 : Int32) = .ok orientation ∧
        (orientation = 0 ∨ orientation = 90 ∨ orientation = 180 ∨ orientation = 270) := by
  rw [Orientation]
  cases SingleTagValue m ANDROID_SENSOR_ORIENTATION (0 : Int32) with
  | error res => simp
  | ok o =>
      dsimp only
      rw [rejected_if, quarter_turns, Except.ok.injEq]
      constructor
      · rintro ⟨hturn, rfl⟩
        exact ⟨rfl, hturn⟩
      · rintro ⟨rfl, hturn⟩
        exact ⟨hturn, rfl⟩

theorem MaxInputStreams_iff (max_input : Int32) :
    MaxInputStreams m = .ok max_input ↔
      SingleTagValue m ANDROID_REQUEST_MAX_NUM_INPUT_STREAMS (0 : Int32) = .ok max_input ∨
        SingleTagValue m ANDROID_REQUEST_MAX_NUM_INPUT_STREAMS (0 : Int32) = .error .ENOENT ∧
          max_input = 0 := by
  rw [MaxInputStreams]
  split
  · rename_i h
    simp [h, eq_comm]
  · rename_i hne
    constructor
    · exact .inl
    · rintro (h | ⟨h, -⟩)
      · exact h
      · exact absurd h hne

theorem RequestCapabilities_iff (capabilities : Finset UInt8) :
    RequestCapabilities m = .ok capabilities ↔ ∃ l,
      VectorTagValue (fun x => UInt8.ofNat x.toNat) m ANDROID_REQUEST_AVAILABLE_CAPABILITIES =
        .ok l ∧ capabilities = l.toFinset := by
  rw [RequestCapabilities]
  cases VectorTagValue (fun x => UInt8.ofNat x.toNat) m ANDROID_REQUEST_AVAILABLE_CAPABILITIES with
  | error res => simp
  | ok l => simp [eq_comm]

theorem StreamConfigurations_iff (configs : List StreamConfiguration) :
    StreamConfigurations m = .ok configs ↔
      (∃ raw, VectorTagValueArray Int32.ofInt m ANDROID_SCALER_AVAILABLE_STREAM_CONFIGURATIONS =
        .ok raw ∧ configs = raw.map ofRawConfiguration) ∧
      ∀ config ∈ configs, ValidConfiguration config := by
  rw [StreamConfigurations]
  cases VectorTagValueArray Int32.ofInt m ANDROID_SCALER_AVAILABLE_STREAM_CONFIGURATIONS with
  | error res => simp
  | ok raw =>
      dsimp only
      rw [accepted_if]
      constructor
      · rintro ⟨hall, rfl⟩
        exact ⟨⟨raw, rfl, rfl⟩, hall⟩
      · rintro ⟨⟨raw', hraw, rfl⟩, hall⟩
        obtain rfl := Except.ok.inj hraw
        exact ⟨hall, rfl⟩

theorem StreamStallDurations_iff (stalls : List StreamStallDuration) :
    StreamStallDurations m = .ok stalls ↔
      (∃ raw, VectorTagValueArray Int64.ofInt m ANDROID_SCALER_AVAILABLE_STALL_DURATIONS =
        .ok raw ∧ stalls = raw.map ofRawStallDuration) ∧
      ∀ stall ∈ stalls, ValidStallDuration stall := by
  rw [StreamStallDurations]
  cases VectorTagValueArray Int64.ofInt m ANDROID_SCALER_AVAILABLE_STALL_DURATIONS with
  | error res => simp
  | ok raw =>
      dsimp only
      rw [accepted_if]
      constructor
      · rintro ⟨hall, rfl⟩
        exact ⟨⟨raw, rfl, rfl⟩, hall⟩
      · rintro ⟨⟨raw', hraw, rfl⟩, hall⟩
        obtain rfl := Except.ok.inj hraw
        exact ⟨hall, rfl⟩

theorem ReprocessFormats_iff (reprocess_map : ReprocessFormatMap) :
    ReprocessFormats m = .ok reprocess_map ↔ ∃ formats : List FormatBlock,
      VectorTagValue Int32.ofInt m ANDROID_SCALER_AVAILABLE_INPUT_OUTPUT_FORMATS_MAP =
        .ok (formats.flatMap FormatBlock.items) ∧
      (∀ b ∈ formats, b.Fits) ∧ reprocess_map = formatMap formats ∅ := by
  rw [ReprocessFormats]
  cases VectorTagValue Int32.ofInt m ANDROID_SCALER_AVAILABLE_INPUT_OUTPUT_FORMATS_MAP with
  | error res => simp
  | ok l =>
      refine (reprocessLoop_iff ∅ reprocess_map l).trans ?_
      simp only [Except.ok.injEq]

end MetadataReader

theorem not_lt_one (x : Int32) : ¬x < 1 ↔ 0 < x := by
  rw [Int32.lt_iff_toInt_lt, Int32.lt_iff_toInt_lt, Int32.toInt_one, Int32.toInt_zero]
  omega

theorem validConfiguration_iff (c : StreamConfiguration) :
    MetadataReader.ValidConfiguration c ↔ 0 < c.spec.width ∧ 0 < c.spec.height ∧
      (c.direction = ANDROID_SCALER_AVAILABLE_STREAM_CONFIGURATIONS_OUTPUT ∨
        c.direction = ANDROID_SCALER_AVAILABLE_STREAM_CONFIGURATIONS_INPUT) := by
  rw [MetadataReader.ValidConfiguration, not_or, not_lt_one, not_lt_one, and_assoc]

theorem validStallDuration_iff (s : StreamStallDuration) :
    MetadataReader.ValidStallDuration s ↔ 0 < s.spec.width ∧ 0 < s.spec.height ∧
      0 ≤ s.duration := by
  rw [MetadataReader.ValidStallDuration, not_or, not_lt_one, not_lt_one, and_assoc,
    Int64.lt_iff_toInt_lt, Int64.le_iff_toInt_le, not_lt]

namespace Declared

variable {d : Declared} {capabilities : CapabilitiesMap}

theorem validateStreams_iff (hconfigs : ∀ c ∈ d.configs, MetadataReader.ValidConfiguration c)
    (hstalls : ∀ s ∈ d.stalls, MetadataReader.ValidStallDuration s)
    (h : ConstructStreamCapabilities d.configs d.stalls = some capabilities) :
    ValidateStreamCapabilities capabilities = true ↔
      ∀ spec, d.Output spec → ∃ s ∈ d.stalls, s.spec = spec := by
  rw [ValidateStreamCapabilities_iff]
  refine forall_congr' fun spec => ?_
  obtain ⟨hstall, hout, -⟩ := construct_spec hconfigs h spec
  rw [hstall, hout, stallOf_nonneg hstalls]
  rfl

theorem validateFormats_iff (hconfigs : ∀ c ∈ d.configs, MetadataReader.ValidConfiguration c)
    (h : ConstructStreamCapabilities d.configs d.stalls = some capabilities)
    (hfits : ∀ b ∈ d.formats, b.Fits) :
    ValidateReprocessFormats capabilities (formatMap d.formats ∅) = true ↔
      d.ReprocessConsistent := by
  have hinput : ∀ format, format ∈ inputFormats capabilities ↔
      ∃ spec, d.Input spec ∧ spec.format = format := by
    intro format
    rw [mem_inputFormats]
    exact exists_congr fun spec => and_congr_left' (construct_spec hconfigs h spec).2.2
  have houtput : ∀ format, format ∈ outputFormats capabilities ↔
      ∃ spec, d.Output spec ∧ spec.format = format := by
    intro format
    rw [mem_outputFormats]
    exact exists_congr fun spec => and_congr_left' (construct_spec hconfigs h spec).2.1
  rw [ValidateReprocessFormats_iff]
  simp only [hinput, houtput, mem_formatMap_keys, mem_formatMap]
  constructor
  · rintro ⟨⟨format, spec, hspec, -⟩, hformats, houtputs⟩
    exact ⟨hfits, ⟨spec, hspec⟩, hformats, houtputs⟩
  · intro hr
    obtain ⟨spec, hspec⟩ := hr.inputs
    exact ⟨⟨spec.format, spec, hspec, rfl⟩, hr.formats, hr.outputs⟩

def reprocessMap (d : Declared) : ReprocessFormatMap :=
  if 0 < d.max_input_streams then formatMap d.formats ∅ else ∅

theorem In.readReprocessFormats {val : List.Vector Int32 3} {m : C} (hin : d.In val m)
    (hcons : d.Consistent) : readReprocessFormats m d.max_input_streams = .ok d.reprocessMap := by
  rw [StaticInfo.readReprocessFormats, reprocessMap]
  by_cases hmax : 0 < d.max_input_streams
  · rw [if_pos hmax, if_pos hmax, MetadataReader.ReprocessFormats_iff]
    exact ⟨d.formats, hin.formats hmax, (hcons.reprocess hmax).fits, rfl⟩
  · rw [if_neg hmax, if_neg hmax]

/-- The object made from metadata that hold the declaration. -/
theorem In.accepted {val : List.Vector Int32 3} {m : C} (hin : d.In val m)
    (hcons : d.Consistent) : ∃ facing capabilities,
      ConstructStreamCapabilities d.configs d.stalls = some capabilities ∧
      NewStaticProperties val m = .ok (some
        { facing_ := facing
          orientation_ := d.orientation
          max_input_streams_ := d.max_input_streams
          max_output_streams_ := d.max_output_streams
          request_capabilities_ := d.request_capabilities.toFinset
          stream_capabilities_ := capabilities
          supported_reprocess_outputs_ := d.reprocessMap }) := by
  have hconfigs : ∀ c ∈ d.configs, MetadataReader.ValidConfiguration c :=
    fun c hc => (validConfiguration_iff c).mpr (hcons.configs c hc)
  have hstalls : ∀ s ∈ d.stalls, MetadataReader.ValidStallDuration s :=
    fun s hs => (validStallDuration_iff s).mpr (hcons.stalls s hs)
  obtain ⟨facing, hfacing⟩ := (MetadataReader.Facing_iff m).mpr ⟨_, hin.facing, hcons.facing⟩
  obtain ⟨capabilities, hcap⟩ : ∃ capabilities,
      ConstructStreamCapabilities d.configs d.stalls = some capabilities := by
    rw [ConstructStreamCapabilities, addConfigurations_eq hconfigs]
    exact ⟨_, rfl⟩
  have hstreams := (validateStreams_iff hconfigs hstalls hcap).mpr hcons.stalled
  have hformats : ¬(0 < d.max_input_streams ∧
      ValidateReprocessFormats capabilities d.reprocessMap = false) := by
    rintro ⟨hmax, hfalse⟩
    have hr := hcons.reprocess hmax
    rw [reprocessMap, if_pos hmax, (validateFormats_iff hconfigs hcap hr.fits).mpr hr] at hfalse
    cases hfalse
  refine ⟨facing, capabilities, hcap, ?_⟩
  simp only [NewStaticProperties, hfacing,
    (MetadataReader.Orientation_iff m _).mpr ⟨hin.orientation, hcons.orientation⟩,
    (MetadataReader.MaxInputStreams_iff m _).mpr hin.max_input_streams,
    MetadataReader.MaxOutputStreams, hin.max_output_streams,
    (MetadataReader.RequestCapabilities_iff m _).mpr ⟨_, hin.request_capabilities, rfl⟩,
    (MetadataReader.StreamConfigurations_iff m _).mpr ⟨hin.configs, hconfigs⟩,
    (MetadataReader.StreamStallDurations_iff m _).mpr ⟨hin.stalls, hstalls⟩, hcap, hstreams,
    hin.readReprocessFormats hcons, orNull, Bool.true_eq_false, if_false, if_neg hformats]

theorem exists_of_accepted {val : List.Vector Int32 3} {m : C} {p : StaticProperties}
    (h : NewStaticProperties val m = .ok (some p)) : ∃ d : Declared, d.In val m ∧ d.Consistent := by
  rw [NewStaticProperties] at h
  obtain ⟨facing, hfacing, h⟩ := orNull_eq_some.mp h
  obtain ⟨orientation, horientation, h⟩ := orNull_eq_some.mp h
  obtain ⟨max_input_streams, hmaxin, h⟩ := orNull_eq_some.mp h
  obtain ⟨max_output_streams, hmaxout, h⟩ := orNull_eq_some.mp h
  obtain ⟨request_capabilities, hcaps, h⟩ := orNull_eq_some.mp h
  obtain ⟨configs, hconfigs, h⟩ := orNull_eq_some.mp h
  obtain ⟨stalls, hstalls, h⟩ := orNull_eq_some.mp h
  obtain ⟨v, hv, hvfacing⟩ := (MetadataReader.Facing_iff m).mp ⟨facing, hfacing⟩
  obtain ⟨horientation, hturn⟩ := (MetadataReader.Orientation_iff m _).mp horientation
  obtain ⟨l, hl, -⟩ := (MetadataReader.RequestCapabilities_iff m _).mp hcaps
  obtain ⟨hraw, hvalid⟩ := (MetadataReader.StreamConfigurations_iff m _).mp hconfigs
  obtain ⟨hrawstalls, hvalidstalls⟩ := (MetadataReader.StreamStallDurations_iff m _).mp hstalls
  cases hcap : ConstructStreamCapabilities configs stalls with
  | none => simp only [hcap] at h; cases h
  | some capabilities =>
      simp only [hcap] at h
      split at h
      · cases h
      · rename_i hstreams
        have hstreams := Bool.eq_true_of_not_eq_false hstreams
        obtain ⟨reprocess_map, hread, h⟩ := orNull_eq_some.mp h
        split at h
        · cases h
        · rename_i hformats
          have hconfigs' := fun c hc => (validConfiguration_iff c).mp (hvalid c hc)
          have hstalls' := fun s hs => (validStallDuration_iff s).mp (hvalidstalls s hs)
          let d (formats : List FormatBlock) : Declared :=
            { facing := v, orientation, max_input_streams, max_output_streams
              request_capabilities := l, configs, stalls, formats }
          have hd : ∀ formats, ∀ spec, (d formats).Output spec → ∃ s ∈ stalls, s.spec = spec :=
            fun formats =>
              (validateStreams_iff (d := d formats) hvalid hvalidstalls hcap).mp hstreams
          have hmaxin := (MetadataReader.MaxInputStreams_iff m _).mp hmaxin
          by_cases hmax : 0 < max_input_streams
          · rw [readReprocessFormats, if_pos hmax] at hread
            obtain ⟨formats, hformatsRead, hfits, rfl⟩ :=
              (MetadataReader.ReprocessFormats_iff m _).mp hread
            have hvalidFormats :
                ValidateReprocessFormats capabilities (formatMap formats ∅) = true :=
              Bool.eq_true_of_not_eq_false fun hfalse => hformats ⟨hmax, hfalse⟩
            have hr := (validateFormats_iff (d := d formats) hvalid hcap hfits).mp hvalidFormats
            exact ⟨d formats,
              ⟨hv, horientation, hmaxin, hmaxout, hl, hraw, hrawstalls, fun _ => hformatsRead⟩,
              ⟨hvfacing, hturn, hconfigs', hstalls', hd formats, fun _ => hr⟩⟩
          · exact ⟨d [],
              ⟨hv, horientation, hmaxin, hmaxout, hl, hraw, hrawstalls, fun h => absurd h hmax⟩,
              ⟨hvfacing, hturn, hconfigs', hstalls', hd [], fun h => absurd h hmax⟩⟩

end Declared

/-- The properties are made exactly from the metadata that hold a consistent declaration: a known
facing and orientation, positive sizes, a stall duration for each output configuration and, where
input streams are allowed, output formats for exactly the formats of the input configurations. -/
theorem accepted_iff (val : List.Vector Int32 3) (m : C) :
    (∃ p, NewStaticProperties val m = .ok (some p)) ↔
      ∃ d : Declared, d.In val m ∧ d.Consistent := by
  constructor
  · rintro ⟨p, hp⟩
    exact Declared.exists_of_accepted hp
  · rintro ⟨d, hin, hcons⟩
    obtain ⟨facing, capabilities, -, hp⟩ := hin.accepted hcons
    exact ⟨_, hp⟩

end AwHal.Camera.StaticInfo
