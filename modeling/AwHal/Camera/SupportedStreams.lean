import AwHal.Camera.StaticProperties

/-!
# Supported stream configurations

The checks of `StaticProperties` against the streams of a configuration, of a reprocessing request
and against a template (`static_properties.cpp`).
-/

namespace AwHal.Camera.StaticInfo

open AwHal.Lib AwHal.Camera.PartialMetadata

def CAMERA3_STREAM_OUTPUT : Int := 0
def CAMERA3_STREAM_INPUT : Int := 1
def CAMERA3_STREAM_BIDIRECTIONAL : Int := 2

def CAMERA3_STREAM_CONFIGURATION_NORMAL_MODE : Nat := 0
def CAMERA3_STREAM_CONFIGURATION_CONSTRAINED_HIGH_SPEED_MODE : Nat := 1

def HAL_PIXEL_FORMAT_RAW16 : Int32 := 0x20
def HAL_PIXEL_FORMAT_RAW_OPAQUE : Int32 := 0x24
def HAL_PIXEL_FORMAT_RAW10 : Int32 := 0x25
def HAL_PIXEL_FORMAT_RAW12 : Int32 := 0x26

def CAMERA3_TEMPLATE_PREVIEW : Int := 1
def CAMERA3_TEMPLATE_ZERO_SHUTTER_LAG : Int := 5
def CAMERA3_TEMPLATE_MANUAL : Int := 6

def ANDROID_REQUEST_AVAILABLE_CAPABILITIES_MANUAL_SENSOR : UInt8 := 1
def ANDROID_REQUEST_AVAILABLE_CAPABILITIES_PRIVATE_REPROCESSING : UInt8 := 4

structure Camera3Stream where
  stream_type : Int
  width : UInt32
  height : UInt32
  format : Int32
deriving DecidableEq, Repr

/-- An `int` counts the streams. -/
structure Camera3StreamConfiguration where
  streams : List Camera3Stream
  operation_mode : Nat
  num_streams_lt : streams.length < 2 ^ 31

def Camera3Stream.spec (stream : Camera3Stream) : StreamSpec :=
  { format := stream.format, width := stream.width.toInt32, height := stream.height.toInt32 }

def IsInputType (stream_type : Int) : Bool :=
  decide (stream_type = CAMERA3_STREAM_INPUT) ||
    decide (stream_type = CAMERA3_STREAM_BIDIRECTIONAL)

def IsOutputType (stream_type : Int) : Bool :=
  decide (stream_type = CAMERA3_STREAM_OUTPUT) ||
    decide (stream_type = CAMERA3_STREAM_BIDIRECTIONAL)

def IsRawFormat (format : Int32) : Bool :=
  decide (format = HAL_PIXEL_FORMAT_RAW10) || decide (format = HAL_PIXEL_FORMAT_RAW12) ||
    decide (format = HAL_PIXEL_FORMAT_RAW16) || decide (format = HAL_PIXEL_FORMAT_RAW_OPAQUE)

/-- Converted to a `size_t` to be compared with one. -/
def toSize (max : Int32) : Nat := (max.toInt % 2 ^ 64).toNat

namespace StaticProperties

variable (p : StaticProperties)

def TemplateSupported (type : Int) : Bool :=
  if type = CAMERA3_TEMPLATE_PREVIEW then true
  else if type = CAMERA3_TEMPLATE_MANUAL then
    decide (ANDROID_REQUEST_AVAILABLE_CAPABILITIES_MANUAL_SENSOR ∈ p.request_capabilities_)
  else if type = CAMERA3_TEMPLATE_ZERO_SHUTTER_LAG then
    decide (ANDROID_REQUEST_AVAILABLE_CAPABILITIES_PRIVATE_REPROCESSING ∈ p.request_capabilities_)
  else true

def SanityCheckStreamConfiguration (stream_config : Camera3StreamConfiguration) : Bool :=
  if stream_config.streams.length = 0 then false
  else stream_config.streams.all fun s => IsInputType s.stream_type || IsOutputType s.stream_type

def findInputs (num_input_streams : Nat) (input_format : Int32) :
    List Camera3Stream → Option (Nat × Int32)
  | [] => some (num_input_streams, input_format)
  | stream :: rest =>
      if IsInputType stream.stream_type then
        match p.stream_capabilities_.lookup stream.spec with
        | none => none
        | some capabilities =>
            if capabilities.input_supported = false then none
            else findInputs (num_input_streams + 1) stream.format rest
      else findInputs num_input_streams input_format rest

def InputStreamsSupported (stream_config : Camera3StreamConfiguration) : Bool :=
  match findInputs p 0 (-1) stream_config.streams with
  | none => false
  | some (num_input_streams, input_format) =>
      if toSize p.max_input_streams_ < num_input_streams then false
      else if 1 < num_input_streams then false
      else if 0 < num_input_streams then
        match p.supported_reprocess_outputs_.lookup input_format with
        | none => false
        | some formats =>
            stream_config.streams.any fun s =>
              IsOutputType s.stream_type && decide (s.format ∈ formats)
      else true

structure OutputCounts where
  num_raw : Nat := 0
  num_stalling : Nat := 0
  num_non_stalling : Nat := 0
deriving DecidableEq, Repr

def countOutputs (counts : OutputCounts) : List Camera3Stream → Option OutputCounts
  | [] => some counts
  | stream :: rest =>
      if IsOutputType stream.stream_type then
        match p.stream_capabilities_.lookup stream.spec with
        | none => none
        | some capabilities =>
            if capabilities.output_supported = false then none
            else if IsRawFormat stream.format then
              countOutputs { counts with num_raw := counts.num_raw + 1 } rest
            else if 0 < capabilities.stall_duration then
              countOutputs { counts with num_stalling := counts.num_stalling + 1 } rest
            else countOutputs { counts with num_non_stalling := counts.num_non_stalling + 1 } rest
      else countOutputs counts rest

def OutputStreamsSupported (stream_config : Camera3StreamConfiguration) : Bool :=
  match countOutputs p {} stream_config.streams with
  | none => false
  | some counts =>
      -- raw, not stalling and stalling
      let max_raw := p.max_output_streams_.head
      let max_non_stalling := p.max_output_streams_.tail.head
      let max_stalling := p.max_output_streams_.tail.tail.head
      if toSize max_raw < counts.num_raw then false
      else if toSize max_stalling < counts.num_stalling then false
      else if toSize max_non_stalling < counts.num_non_stalling then false
      else true

/-- High speed is not implemented. -/
def OperationModeSupported (stream_config : Camera3StreamConfiguration) : Bool :=
  if stream_config.operation_mode = CAMERA3_STREAM_CONFIGURATION_NORMAL_MODE then true
  else if stream_config.operation_mode =
      CAMERA3_STREAM_CONFIGURATION_CONSTRAINED_HIGH_SPEED_MODE then false
  else false

def StreamConfigurationSupported (stream_config : Camera3StreamConfiguration) : Bool :=
  SanityCheckStreamConfiguration stream_config && p.InputStreamsSupported stream_config &&
    p.OutputStreamsSupported stream_config && OperationModeSupported stream_config

/-- `output_streams` is a set of pointers. -/
def ReprocessingSupported (input_stream : Option Camera3Stream)
    (output_streams : List Camera3Stream) : Bool :=
  match input_stream with
  | none => false
  | some input_stream =>
      if output_streams.length < 1 then false
      else
        match p.supported_reprocess_outputs_.lookup input_stream.format with
        | none => false
        | some supported_output_formats =>
            output_streams.all fun s => decide (s.format ∈ supported_output_formats)

end StaticProperties

/-! ## What the declaration allows -/

/-- A negative maximum is none. -/
def Within (max : Int32) (num : Nat) : Prop := 0 ≤ max.toInt → (num : Int) ≤ max.toInt

namespace Declared

def isInput (s : Camera3Stream) : Bool := IsInputType s.stream_type

def isRaw (s : Camera3Stream) : Bool := IsOutputType s.stream_type && IsRawFormat s.format

def isStalling (d : Declared) (s : Camera3Stream) : Bool :=
  IsOutputType s.stream_type && !IsRawFormat s.format && decide (0 < stallOf d.stalls s.spec)

def isNonStalling (d : Declared) (s : Camera3Stream) : Bool :=
  IsOutputType s.stream_type && !IsRawFormat s.format && !decide (0 < stallOf d.stalls s.spec)

structure Allows (d : Declared) (stream_config : Camera3StreamConfiguration) : Prop where
  nonempty : stream_config.streams ≠ []
  directed : ∀ s ∈ stream_config.streams,
    IsInputType s.stream_type = true ∨ IsOutputType s.stream_type = true
  inputs : ∀ s ∈ stream_config.streams, IsInputType s.stream_type = true → d.Input s.spec
  oneInput : stream_config.streams.countP isInput ≤ 1
  outputs : ∀ s ∈ stream_config.streams, IsOutputType s.stream_type = true → d.Output s.spec
  /-- The input stream can be reprocessed to one of the output streams. -/
  reprocessed : ∀ s ∈ stream_config.streams, IsInputType s.stream_type = true →
    0 < d.max_input_streams ∧ ∃ o ∈ stream_config.streams, IsOutputType o.stream_type = true ∧
      d.Reprocess s.format o.format
  raw : Within (d.max_output_streams.get 0) (stream_config.streams.countP isRaw)
  nonStalling : Within (d.max_output_streams.get 1) (stream_config.streams.countP d.isNonStalling)
  stalling : Within (d.max_output_streams.get 2) (stream_config.streams.countP d.isStalling)
  mode : stream_config.operation_mode = CAMERA3_STREAM_CONFIGURATION_NORMAL_MODE

end Declared

theorem not_toSize_lt {max : Int32} {num : Nat} (h : num < 2 ^ 31) :
    ¬toSize max < num ↔ Within max num := by
  have hmin := max.le_toInt
  have hmax := max.toInt_lt
  rw [toSize, Within]
  by_cases hneg : max.toInt < 0
  · have hmod : max.toInt % 2 ^ 64 = max.toInt + 2 ^ 64 := by omega
    rw [hmod]
    omega
  · have hmod : max.toInt % 2 ^ 64 = max.toInt := by omega
    rw [hmod]
    omega

/-! ## What the loops find -/

namespace StaticProperties

variable {p : StaticProperties}

theorem lookup_supported {α : Type} {supported : StreamCapabilities → Bool}
    (hdefault : supported {} = false) (spec : StreamSpec) (next : StreamCapabilities → Option α) :
    (match p.stream_capabilities_.lookup spec with
      | none => none
      | some capabilities => if supported capabilities = false then none else next capabilities) =
    if supported (valueAt {} p.stream_capabilities_ spec) = true then
      next (valueAt {} p.stream_capabilities_ spec)
    else none := by
  cases h : p.stream_capabilities_.lookup spec with
  | none =>
      rw [valueAt_of_lookup_none h]
      simp [hdefault]
  | some capabilities =>
      rw [valueAt_of_lookup h]
      cases hs : supported capabilities <;> simp [hs]

theorem findInputs_iff (n : Nat) (format : Int32) (streams : List Camera3Stream)
    (res : Nat × Int32) :
    findInputs p n format streams = some res ↔
      (∀ s ∈ streams, IsInputType s.stream_type = true →
        (valueAt {} p.stream_capabilities_ s.spec).input_supported = true) ∧
      res.1 = n + streams.countP Declared.isInput ∧
      res.2 = ((streams.filter Declared.isInput).getLast?.map (·.format)).getD format := by
  induction streams generalizing n format with
  | nil =>
      rw [findInputs, Option.some.injEq]
      constructor
      · rintro rfl
        simp
      · rintro ⟨-, hnum, hformat⟩
        exact (Prod.ext hnum hformat).symm
  | cons s rest ih =>
      rw [findInputs]
      by_cases hin : IsInputType s.stream_type = true
      · rw [if_pos hin, lookup_supported rfl]
        have hfilter : (s :: rest).filter Declared.isInput = s :: rest.filter Declared.isInput :=
          List.filter_cons_of_pos hin
        rw [hfilter, List.forall_mem_cons]
        by_cases hs : (valueAt {} p.stream_capabilities_ s.spec).input_supported = true
        · have hlast : ((s :: rest.filter Declared.isInput).getLast?.map (·.format)).getD format =
              ((rest.filter Declared.isInput).getLast?.map (·.format)).getD s.format := by
            rw [List.getLast?_cons]
            cases (rest.filter Declared.isInput).getLast? <;> rfl
          have hcount : (s :: rest).countP Declared.isInput = rest.countP Declared.isInput + 1 :=
            List.countP_cons_of_pos hin
          rw [if_pos hs, ih, hlast, hcount, Nat.add_right_comm, Nat.add_assoc]
          simp [hs]
        · rw [if_neg hs]
          simp [hs, hin]
      · have hfilter : (s :: rest).filter Declared.isInput = rest.filter Declared.isInput :=
          List.filter_cons_of_neg hin
        have hcount : (s :: rest).countP Declared.isInput = rest.countP Declared.isInput :=
          List.countP_cons_of_neg hin
        rw [if_neg hin, ih, List.forall_mem_cons, hfilter, hcount]
        simp [hin]

variable {d : Declared}

theorem countOutputs_iff
    (hstall : ∀ spec, (valueAt {} p.stream_capabilities_ spec).stall_duration =
      stallOf d.stalls spec) (counts : OutputCounts) (streams : List Camera3Stream)
    (res : OutputCounts) :
    countOutputs p counts streams = some res ↔
      (∀ s ∈ streams, IsOutputType s.stream_type = true →
        (valueAt {} p.stream_capabilities_ s.spec).output_supported = true) ∧
      res.num_raw = counts.num_raw + streams.countP Declared.isRaw ∧
      res.num_stalling = counts.num_stalling + streams.countP d.isStalling ∧
      res.num_non_stalling = counts.num_non_stalling + streams.countP d.isNonStalling := by
  induction streams generalizing counts with
  | nil =>
      rw [countOutputs, Option.some.injEq]
      constructor
      · rintro rfl
        simp
      · rintro ⟨-, hraw, hstalling, hnon⟩
        cases res
        cases counts
        simp_all
  | cons s rest ih =>
      rw [countOutputs, List.forall_mem_cons, List.countP_cons, List.countP_cons, List.countP_cons]
      simp only [Declared.isRaw, Declared.isStalling, Declared.isNonStalling] at ih ⊢
      by_cases hout : IsOutputType s.stream_type = true
      · rw [if_pos hout, lookup_supported rfl]
        by_cases hs : (valueAt {} p.stream_capabilities_ s.spec).output_supported = true
        · rw [if_pos hs]
          by_cases hraw : IsRawFormat s.format = true
          · rw [if_pos hraw, ih]
            simp [hs, hout, hraw, Nat.add_assoc, Nat.add_comm 1]
          · rw [if_neg hraw, hstall]
            by_cases hlong : 0 < stallOf d.stalls s.spec
            · rw [if_pos hlong, ih]
              simp [hs, hout, hraw, hlong, Nat.add_assoc, Nat.add_comm 1]
            · rw [if_neg hlong, ih]
              simp [hs, hout, hraw, hlong, Nat.add_assoc, Nat.add_comm 1]
        · rw [if_neg hs]
          simp [hs, hout]
      · rw [if_neg hout, ih]
        simp [hout]

end StaticProperties

/-! ## The checks and the declaration -/

/-- The object has what the declaration says. -/
structure Declared.Describes (d : Declared) (p : StaticProperties) : Prop where
  stall : ∀ spec, (valueAt {} p.stream_capabilities_ spec).stall_duration = stallOf d.stalls spec
  output : ∀ spec,
    (valueAt {} p.stream_capabilities_ spec).output_supported = true ↔ d.Output spec
  input : ∀ spec, (valueAt {} p.stream_capabilities_ spec).input_supported = true ↔ d.Input spec
  max_input_streams : p.max_input_streams_ = d.max_input_streams
  max_output_streams : p.max_output_streams_ = d.max_output_streams
  capability : ∀ c, c ∈ p.request_capabilities_ ↔ c ∈ d.request_capabilities
  reprocess : p.supported_reprocess_outputs_ = d.reprocessMap

variable {C : Type} [CameraMetadata C]

theorem Declared.In.describes {d : Declared} {val : List.Vector Int32 3} {m : C}
    {p : StaticProperties} (hin : d.In val m) (hcons : d.Consistent)
    (hp : NewStaticProperties val m = .ok (some p)) : d.Describes p := by
  obtain ⟨facing, capabilities, hcap, hnew⟩ := hin.accepted hcons
  obtain rfl := Option.some.inj (Except.ok.inj (hnew.symm.trans hp))
  have hspec := construct_spec
    (fun c hc => (validConfiguration_iff c).mpr (hcons.configs c hc)) hcap
  exact
    { stall := fun spec => (hspec spec).1
      output := fun spec => (hspec spec).2.1
      input := fun spec => (hspec spec).2.2
      max_input_streams := rfl
      max_output_streams := rfl
      capability := fun c => List.mem_toFinset
      reprocess := rfl }

theorem Declared.mem_reprocessMap (d : Declared) (input output : Int32) :
    output ∈ valueAt ∅ d.reprocessMap input ↔
      0 < d.max_input_streams ∧ d.Reprocess input output := by
  rw [Declared.reprocessMap]
  by_cases hmax : 0 < d.max_input_streams
  · rw [if_pos hmax, mem_formatMap]
    simp only [hmax, true_and, Declared.Reprocess]
  · have hempty : valueAt ∅ (∅ : ReprocessFormatMap) input = ∅ :=
      valueAt_of_lookup_none (AList.lookup_empty input)
    rw [if_neg hmax, hempty]
    simp [hmax]

theorem lookup_formats {check : Finset Int32 → Bool} (hempty : check ∅ = false)
    (reprocess_map : ReprocessFormatMap) (input : Int32) :
    (match reprocess_map.lookup input with | none => false | some formats => check formats) =
      check (valueAt ∅ reprocess_map input) := by
  cases h : reprocess_map.lookup input with
  | none => rw [valueAt_of_lookup_none h, hempty]
  | some formats => rw [valueAt_of_lookup h]

namespace StaticProperties

variable {d : Declared} {p : StaticProperties}

theorem SanityCheckStreamConfiguration_iff (sc : Camera3StreamConfiguration) :
    SanityCheckStreamConfiguration sc = true ↔ sc.streams ≠ [] ∧
      ∀ s ∈ sc.streams, IsInputType s.stream_type = true ∨ IsOutputType s.stream_type = true := by
  rw [SanityCheckStreamConfiguration]
  by_cases hnil : sc.streams = []
  · simp [hnil]
  · rw [if_neg (fun h => hnil (List.eq_nil_of_length_eq_zero h))]
    simp [hnil]

theorem one_le_toSize {max : Int32} (h : 0 < max) : 1 ≤ toSize max := by
  have hpos := Int32.lt_iff_toInt_lt.mp h
  have hmax := max.toInt_lt
  rw [Int32.toInt_zero] at hpos
  rw [toSize]
  omega

theorem InputStreamsSupported_iff (h : d.Describes p) (sc : Camera3StreamConfiguration) :
    p.InputStreamsSupported sc = true ↔
      (∀ s ∈ sc.streams, IsInputType s.stream_type = true → d.Input s.spec) ∧
      sc.streams.countP Declared.isInput ≤ 1 ∧
      ∀ s ∈ sc.streams, IsInputType s.stream_type = true →
        0 < d.max_input_streams ∧ ∃ o ∈ sc.streams, IsOutputType o.stream_type = true ∧
          d.Reprocess s.format o.format := by
  have hinputs : ∀ res, findInputs p 0 (-1) sc.streams = some res ↔
      (∀ s ∈ sc.streams, IsInputType s.stream_type = true → d.Input s.spec) ∧
      res.1 = sc.streams.countP Declared.isInput ∧
      res.2 = ((sc.streams.filter Declared.isInput).getLast?.map (·.format)).getD (-1) := by
    intro res
    rw [findInputs_iff, Nat.zero_add]
    simp only [h.input]
  rw [InputStreamsSupported]
  cases hfind : findInputs p 0 (-1) sc.streams with
  | none =>
      refine iff_of_false Bool.false_ne_true fun hall => ?_
      have hsome := (hinputs (_, _)).mpr ⟨hall.1, rfl, rfl⟩
      rw [hfind] at hsome
      cases hsome
  | some res =>
      obtain ⟨n, format⟩ := res
      obtain ⟨hin, rfl, rfl⟩ := (hinputs _).mp hfind
      rw [iff_true_intro hin, true_and]
      dsimp only
      rw [List.countP_eq_length_filter]
      rcases hfilter : sc.streams.filter Declared.isInput with _ | ⟨s, _ | ⟨s', rest⟩⟩
      · -- no input stream
        have hnone : ∀ s ∈ sc.streams, ¬IsInputType s.stream_type = true :=
          fun s hs => List.filter_eq_nil_iff.mp hfilter s hs
        simp only [List.length_nil, Nat.not_lt_zero, if_false, true_iff]
        exact ⟨Nat.zero_le _, fun s hs hs' => absurd hs' (hnone s hs)⟩
      · -- one
        have hmem := List.mem_filter.mp (hfilter ▸ List.mem_singleton_self s)
        have honly : ∀ s' ∈ sc.streams, IsInputType s'.stream_type = true → s' = s := by
          intro s' hs' hin'
          have hs' : s' ∈ sc.streams.filter Declared.isInput := List.mem_filter.mpr ⟨hs', hin'⟩
          rw [hfilter] at hs'
          exact List.mem_singleton.mp hs'
        have hone : (∀ s' ∈ sc.streams, IsInputType s'.stream_type = true →
            0 < d.max_input_streams ∧ ∃ o ∈ sc.streams, IsOutputType o.stream_type = true ∧
              d.Reprocess s'.format o.format) ↔
            0 < d.max_input_streams ∧ ∃ o ∈ sc.streams, IsOutputType o.stream_type = true ∧
              d.Reprocess s.format o.format := by
          constructor
          · exact fun hall => hall s hmem.1 hmem.2
          · intro hs s' hs' hin'
            rw [honly s' hs' hin']
            exact hs
        have hlast : (([s] : List Camera3Stream).getLast?.map (·.format)).getD (-1) = s.format :=
          rfl
        rw [hone, h.max_input_streams, h.reprocess, hlast, lookup_formats (by simp)]
        simp only [List.length_singleton, Nat.lt_irrefl, Nat.lt_one_iff, if_false, if_true,
          le_refl, true_and]
        by_cases hmax : 0 < d.max_input_streams
        · have hsize := one_le_toSize hmax
          have hformat : ∀ o : Camera3Stream,
              decide (o.format ∈ valueAt ∅ d.reprocessMap s.format) = true ↔
                d.Reprocess s.format o.format := fun o => by
            rw [decide_eq_true_iff, d.mem_reprocessMap, and_iff_right hmax]
          rw [if_neg (by omega), List.any_eq_true, and_iff_right hmax]
          simp only [Bool.and_eq_true, hformat]
        · simp [d.mem_reprocessMap, hmax]
      · simp

theorem head_eq_get (v : List.Vector Int32 3) : v.head = v.get 0 ∧ v.tail.head = v.get 1 ∧
    v.tail.tail.head = v.get 2 := by
  refine ⟨(List.Vector.get_zero v).symm, ?_, ?_⟩
  · rw [← List.Vector.get_zero, List.Vector.get_tail_succ]
    rfl
  · rw [← List.Vector.get_zero, List.Vector.get_tail_succ, List.Vector.get_tail_succ]
    rfl

theorem OutputStreamsSupported_iff (h : d.Describes p) (sc : Camera3StreamConfiguration) :
    p.OutputStreamsSupported sc = true ↔
      (∀ s ∈ sc.streams, IsOutputType s.stream_type = true → d.Output s.spec) ∧
      Within (d.max_output_streams.get 0) (sc.streams.countP Declared.isRaw) ∧
      Within (d.max_output_streams.get 1) (sc.streams.countP d.isNonStalling) ∧
      Within (d.max_output_streams.get 2) (sc.streams.countP d.isStalling) := by
  have hcounts : ∀ counts, countOutputs p {} sc.streams = some counts ↔
      (∀ s ∈ sc.streams, IsOutputType s.stream_type = true → d.Output s.spec) ∧
      counts.num_raw = sc.streams.countP Declared.isRaw ∧
      counts.num_stalling = sc.streams.countP d.isStalling ∧
      counts.num_non_stalling = sc.streams.countP d.isNonStalling := by
    intro counts
    rw [countOutputs_iff h.stall]
    simp only [h.output, Nat.zero_add]
  have hlt : ∀ kind : Camera3Stream → Bool, sc.streams.countP kind < 2 ^ 31 :=
    fun kind => lt_of_le_of_lt List.countP_le_length sc.num_streams_lt
  rw [OutputStreamsSupported]
  cases hfind : countOutputs p {} sc.streams with
  | none =>
      refine iff_of_false Bool.false_ne_true fun hall => ?_
      have hsome := (hcounts ⟨_, _, _⟩).mpr ⟨hall.1, rfl, rfl, rfl⟩
      rw [hfind] at hsome
      cases hsome
  | some counts =>
      obtain ⟨raw, stalling, nonStalling⟩ := counts
      obtain ⟨hout, rfl, rfl, rfl⟩ := (hcounts _).mp hfind
      rw [iff_true_intro hout, true_and, ← not_toSize_lt (hlt _), ← not_toSize_lt (hlt _),
        ← not_toSize_lt (hlt _), h.max_output_streams]
      obtain ⟨hmaxRaw, hmaxNon, hmaxStalling⟩ := head_eq_get d.max_output_streams
      dsimp only
      rw [hmaxRaw, hmaxNon, hmaxStalling]
      by_cases hraw : toSize (d.max_output_streams.get 0) < sc.streams.countP Declared.isRaw
      · rw [if_pos hraw]
        exact iff_of_false Bool.false_ne_true fun hall => hall.1 hraw
      · rw [if_neg hraw]
        by_cases hstalling : toSize (d.max_output_streams.get 2) < sc.streams.countP d.isStalling
        · rw [if_pos hstalling]
          exact iff_of_false Bool.false_ne_true fun hall => hall.2.2 hstalling
        · rw [if_neg hstalling]
          by_cases hnon : toSize (d.max_output_streams.get 1) < sc.streams.countP d.isNonStalling
          · rw [if_pos hnon]
            exact iff_of_false Bool.false_ne_true fun hall => hall.2.1 hnon
          · rw [if_neg hnon]
            exact iff_of_true rfl ⟨hraw, hnon, hstalling⟩

theorem ReprocessingSupported_iff (h : d.Describes p) (input_stream : Camera3Stream)
    (output_streams : List Camera3Stream) :
    p.ReprocessingSupported (some input_stream) output_streams = true ↔ output_streams ≠ [] ∧
      ∀ o ∈ output_streams, 0 < d.max_input_streams ∧ d.Reprocess input_stream.format o.format := by
  rw [ReprocessingSupported]
  match output_streams with
  | [] => simp
  | o :: rest =>
      have hformat : ∀ o : Camera3Stream,
          decide (o.format ∈ valueAt ∅ d.reprocessMap input_stream.format) = true ↔
            0 < d.max_input_streams ∧ d.Reprocess input_stream.format o.format := fun o => by
        rw [decide_eq_true_iff, d.mem_reprocessMap]
      rw [if_neg (by simp), h.reprocess, lookup_formats (by simp), List.all_eq_true]
      simp only [hformat, ne_eq, reduceCtorEq, not_false_eq_true, true_and]

theorem TemplateSupported_iff (h : d.Describes p) (type : Int) :
    p.TemplateSupported type = true ↔
      (type = CAMERA3_TEMPLATE_MANUAL →
        ANDROID_REQUEST_AVAILABLE_CAPABILITIES_MANUAL_SENSOR ∈ d.request_capabilities) ∧
      (type = CAMERA3_TEMPLATE_ZERO_SHUTTER_LAG →
        ANDROID_REQUEST_AVAILABLE_CAPABILITIES_PRIVATE_REPROCESSING ∈ d.request_capabilities) := by
  simp only [TemplateSupported, h.capability, CAMERA3_TEMPLATE_PREVIEW, CAMERA3_TEMPLATE_MANUAL,
    CAMERA3_TEMPLATE_ZERO_SHUTTER_LAG]
  split
  · simp [*]
  · split
    · simp [*]
    · split <;> simp [*]

end StaticProperties

/-- An input stream of a supported configuration can be reprocessed: a request from it to some
output stream of the configuration passes. -/
theorem StaticProperties.reprocessing_passes {d : Declared} {p : StaticProperties}
    (h : d.Describes p) {sc : Camera3StreamConfiguration}
    (hsc : p.StreamConfigurationSupported sc = true) {s : Camera3Stream} (hs : s ∈ sc.streams)
    (hinput : IsInputType s.stream_type = true) : ∃ o ∈ sc.streams,
      IsOutputType o.stream_type = true ∧ p.ReprocessingSupported (some s) [o] = true := by
  rw [StreamConfigurationSupported, Bool.and_eq_true, Bool.and_eq_true, Bool.and_eq_true] at hsc
  obtain ⟨hmax, o, ho, hout, hr⟩ := ((InputStreamsSupported_iff h sc).mp hsc.1.1.2).2.2 s hs hinput
  refine ⟨o, ho, hout, (ReprocessingSupported_iff h s _).mpr ?_⟩
  simpa using ⟨hmax, hr⟩

/-- A configuration is supported exactly when the declaration in the metadata allows it: each stream
is listed for its directions, at most one is an input and can be reprocessed to one of the outputs,
and no maximum that is not negative is exceeded. -/
theorem configuration_supported_iff {d : Declared} {val : List.Vector Int32 3} {m : C}
    {p : StaticProperties} (hin : d.In val m) (hcons : d.Consistent)
    (hp : NewStaticProperties val m = .ok (some p)) (sc : Camera3StreamConfiguration) :
    p.StreamConfigurationSupported sc = true ↔ d.Allows sc := by
  have h := hin.describes hcons hp
  have hmode : StaticProperties.OperationModeSupported sc = true ↔
      sc.operation_mode = CAMERA3_STREAM_CONFIGURATION_NORMAL_MODE := by
    rw [StaticProperties.OperationModeSupported]
    split <;> simp [*]
  rw [StaticProperties.StreamConfigurationSupported, Bool.and_eq_true, Bool.and_eq_true,
    Bool.and_eq_true, StaticProperties.SanityCheckStreamConfiguration_iff,
    StaticProperties.InputStreamsSupported_iff h, StaticProperties.OutputStreamsSupported_iff h,
    hmode]
  constructor
  · rintro ⟨⟨⟨⟨hne, hdir⟩, hinputs, hone, hreprocess⟩, houtputs, hraw, hnon, hstalling⟩, hmode⟩
    exact ⟨hne, hdir, hinputs, hone, houtputs, hreprocess, hraw, hnon, hstalling, hmode⟩
  · intro ha
    exact ⟨⟨⟨⟨ha.nonempty, ha.directed⟩, ha.inputs, ha.oneInput, ha.reprocessed⟩, ha.outputs,
      ha.raw, ha.nonStalling, ha.stalling⟩, ha.mode⟩

def smallDeclared : Declared where
  facing := ANDROID_LENS_FACING_BACK
  orientation := 90
  max_input_streams := 1
  max_output_streams := ⟨[0, 2, 1], rfl⟩
  request_capabilities := [0, 4]
  configs :=
    [⟨⟨0x22, 640, 480⟩, 1⟩, ⟨⟨0x22, 640, 480⟩, 0⟩, ⟨⟨0x23, 640, 480⟩, 0⟩, ⟨⟨0x21, 640, 480⟩, 0⟩]
  stalls := [⟨⟨0x22, 640, 480⟩, 0⟩, ⟨⟨0x23, 640, 480⟩, 0⟩, ⟨⟨0x21, 640, 480⟩, 500⟩]
  formats := [⟨0x22, [0x23, 0x21]⟩]

def smallMetadata : List Entry :=
  [⟨ANDROID_LENS_FACING, .BYTE, [1]⟩,
    ⟨ANDROID_SENSOR_ORIENTATION, .INT32, [90]⟩,
    ⟨ANDROID_REQUEST_MAX_NUM_INPUT_STREAMS, .INT32, [1]⟩,
    ⟨ANDROID_REQUEST_MAX_NUM_OUTPUT_STREAMS, .INT32, [0, 2, 1]⟩,
    ⟨ANDROID_REQUEST_AVAILABLE_CAPABILITIES, .BYTE, [0, 4]⟩,
    ⟨ANDROID_SCALER_AVAILABLE_STREAM_CONFIGURATIONS, .INT32,
      [0x22, 640, 480, 1, 0x22, 640, 480, 0, 0x23, 640, 480, 0, 0x21, 640, 480, 0]⟩,
    ⟨ANDROID_SCALER_AVAILABLE_STALL_DURATIONS, .INT64,
      [0x22, 640, 480, 0, 0x23, 640, 480, 0, 0x21, 640, 480, 500]⟩,
    ⟨ANDROID_SCALER_AVAILABLE_INPUT_OUTPUT_FORMATS_MAP, .INT32, [0x22, 2, 0x23, 0x21]⟩]

theorem smallDeclared_in (val : List.Vector Int32 3) : smallDeclared.In val smallMetadata where
  facing := rfl
  orientation := rfl
  max_input_streams := .inl rfl
  max_output_streams := rfl
  request_capabilities := rfl
  configs := ⟨_, rfl, rfl⟩
  stalls := ⟨_, rfl, rfl⟩
  formats := fun _ => rfl

theorem smallDeclared_consistent : smallDeclared.Consistent where
  facing := by decide
  orientation := by decide
  configs := by decide
  stalls := by decide
  stalled := by
    rintro spec ⟨c, hc, rfl, hdir⟩
    simp only [smallDeclared, List.mem_cons, List.not_mem_nil, or_false] at hc
    rcases hc with rfl | rfl | rfl | rfl <;> decide
  reprocess _ :=
    { fits := by simp [smallDeclared, FormatBlock.Fits]
      inputs := ⟨_, _, List.mem_cons_self, rfl, rfl⟩
      formats := by
        intro format
        constructor
        · rintro ⟨b, hb, rfl⟩
          obtain rfl := List.mem_singleton.mp hb
          exact ⟨_, ⟨_, List.mem_cons_self, rfl, rfl⟩, rfl⟩
        · rintro ⟨spec, ⟨c, hc, rfl, hdir⟩, rfl⟩
          simp only [smallDeclared, List.mem_cons, List.not_mem_nil, or_false] at hc
          rcases hc with rfl | rfl | rfl | rfl
          · exact ⟨_, List.mem_cons_self, rfl⟩
          all_goals exact absurd hdir (by decide)
      outputs := by
        rintro input output ⟨b, hb, -, hout⟩
        obtain rfl := List.mem_singleton.mp hb
        simp only [List.mem_cons, List.not_mem_nil, or_false] at hout
        rcases hout with rfl | rfl
        · exact ⟨⟨0x23, 640, 480⟩, ⟨⟨⟨0x23, 640, 480⟩, 0⟩, by decide, rfl, rfl⟩, rfl⟩
        · exact ⟨⟨0x21, 640, 480⟩, ⟨⟨⟨0x21, 640, 480⟩, 0⟩, by decide, rfl, rfl⟩, rfl⟩ }

theorem configuration_supported_iff_small : ∃ p,
    NewStaticProperties ⟨[7, 7, 7], rfl⟩ smallMetadata = .ok (some p) ∧
      ∀ sc, p.StreamConfigurationSupported sc = true ↔ smallDeclared.Allows sc := by
  obtain ⟨facing, capabilities, -, hp⟩ :=
    (smallDeclared_in ⟨[7, 7, 7], rfl⟩).accepted smallDeclared_consistent
  exact ⟨_, hp, configuration_supported_iff (smallDeclared_in _) smallDeclared_consistent hp⟩

end AwHal.Camera.StaticInfo
