import Mathlib.Data.List.Pairwise
import AwHal.Camera.PartialMetadata

/-!
# The metadata of a camera

`Metadata` asks its components for the static metadata, the request templates and the results, and
gives them what a request sets (`metadata.cpp`).  The factory makes controls that have no effect on
the device (`partial_metadata_factory.h`).
-/

namespace AwHal.Camera.PartialMetadata

/-- The state of the video device and the values of the delegates that have one. -/
structure State {ι : Type} (D : Type) (T : ι → Type) where
  device : D
  value_ : ∀ i, T i

structure Metadata {ι : Type} (D : Type) (T : ι → Type) where
  component : ∀ i, Component (T i)
  /-- The components in the order of the set. -/
  components_ : List ι
  dev : Device D
  uninitialised : ∀ i, T i

def ANDROID_JPEG_ORIENTATION : Int := 0x70003
def ANDROID_JPEG_QUALITY : Int := 0x70004
def ANDROID_JPEG_THUMBNAIL_QUALITY : Int := 0x70005
def ANDROID_REQUEST_AVAILABLE_REQUEST_KEYS : Int := 0xc000d
def ANDROID_REQUEST_AVAILABLE_RESULT_KEYS : Int := 0xc000e
def ANDROID_REQUEST_AVAILABLE_CHARACTERISTICS_KEYS : Int := 0xc000f

def tags_jpeg : List Int :=
  [ANDROID_JPEG_ORIENTATION, ANDROID_JPEG_QUALITY, ANDROID_JPEG_THUMBNAIL_QUALITY]

/-- The loop over the components: each fills a `CameraMetadata` of its own, which is appended. -/
def gather {ι C : Type} [CameraMetadata C] (populate : ι → Except Failure C) (m : C) :
    List ι → Except Failure C
  | [] => .ok m
  | i :: rest => do
      let additional_metadata ← populate i
      if isEmpty additional_metadata then gather populate m rest
      else
        match append m additional_metadata with
        | .ok m => gather populate m rest
        | .error res => .error (.other res)

namespace Metadata

variable {C ι D : Type} [CameraMetadata C] [DecidableEq ι] {T : ι → Type}
  [∀ i, MetadataValue (T i)] [∀ i, LinearOrder (T i)]

/-- `CropRegionsSupported` and `FocusSupported` come from the configuration of the camera. -/
def FillStaticMetadata (M : Metadata D T) (m : C)
    (DeviceId FocusSupported CropRegionsSupported : Int) : Except Failure C := do
  let m ← gather (fun i => (M.component i).PopulateStaticFields empty) m M.components_
  let extra :=
    (if DeviceId = 0 ∧ FocusSupported = 1 then [ANDROID_CONTROL_AF_REGIONS] else []) ++
      (if CropRegionsSupported = 1 then [ANDROID_SCALER_CROP_REGION] else [])
  let static_tags := M.components_.flatMap fun i => (M.component i).StaticTags
  let control_tags := (M.components_.flatMap fun i => (M.component i).ControlTags) ++ tags_jpeg ++
    extra
  let dynamic_tags := (M.components_.flatMap fun i => (M.component i).DynamicTags) ++ tags_jpeg ++
    extra
  let static_tags := static_tags ++ [ANDROID_REQUEST_AVAILABLE_REQUEST_KEYS]
  let m ← UpdateMetadata m ⟨ANDROID_REQUEST_AVAILABLE_REQUEST_KEYS, .INT32, control_tags⟩
  let static_tags := static_tags ++ [ANDROID_REQUEST_AVAILABLE_RESULT_KEYS]
  let m ← UpdateMetadata m ⟨ANDROID_REQUEST_AVAILABLE_RESULT_KEYS, .INT32, dynamic_tags⟩
  let static_tags := static_tags ++ [ANDROID_REQUEST_AVAILABLE_CHARACTERISTICS_KEYS]
  UpdateMetadata m
    ⟨ANDROID_REQUEST_AVAILABLE_CHARACTERISTICS_KEYS, .INT32, static_tags⟩

def GetRequestTemplate (M : Metadata D T) (template_type : Int) (m : C)
    (s : State D T) : Except Failure C :=
  if template_type < 1 ∨ CAMERA3_TEMPLATE_COUNT ≤ template_type then .error .EINVAL
  else gather (fun i => (M.component i).PopulateTemplateRequest M.dev template_type
    s.device (s.value_ i) empty) m M.components_

def FillResultMetadata (M : Metadata D T) (m : C) (s : State D T) :
    Except Failure C :=
  gather (fun i => (M.component i).PopulateDynamicFields M.dev s.device (s.value_ i) empty)
    m M.components_

def setValues (M : Metadata D T) (m : C) (s : State D T) :
    List ι → Except Failure Unit × State D T
  | [] => (.ok (), s)
  | i :: rest =>
      match (M.component i).SetRequestValues M.dev (M.uninitialised i) m s.device (s.value_ i) with
      | (.ok (), device, value_) =>
          setValues M m ⟨device, Function.update s.value_ i value_⟩ rest
      | (.error res, device, value_) =>
          (.error res, ⟨device, Function.update s.value_ i value_⟩)

def SetRequestSettings (M : Metadata D T) (m : C) (s : State D T) :
    Except Failure Unit × State D T :=
  if isEmpty m then (.ok (), s) else M.setValues m s M.components_

end Metadata

/-! ## Gathering -/

section

variable {C ι : Type} [CameraMetadata C] [LawfulCameraMetadata C]
  {populate : ι → Except Failure C} {m m' : C}

theorem gather_cons {i : ι} {rest : List ι} (h : gather populate m (i :: rest) = .ok m') :
    ∃ a m₁, populate i = .ok a ∧ gather populate m₁ rest = .ok m' ∧
      (∀ tag, Has m₁ tag ↔ Has m tag ∨ Has a tag) ∧
      ∀ tag e, find m₁ tag = some e → find m tag = some e ∨ find a tag = some e := by
  obtain ⟨a, ha, hrest⟩ := bind_ok h
  split at hrest
  · rename_i hempty
    refine ⟨a, m, ha, hrest, ?_, fun tag e he => .inl he⟩
    intro tag
    have hnone := find_of_isEmpty hempty tag
    simp [Has, hnone]
  · split at hrest
    · rename_i m₁ happend
      exact ⟨a, m₁, ha, hrest, has_append happend, LawfulCameraMetadata.find_append happend⟩
    · cases hrest

variable {t : ι → List Int}

theorem has_gather (ht : ∀ i a, populate i = .ok a → ∀ tag, Has a tag ↔ tag ∈ t i)
    {components_ : List ι} (h : gather populate m components_ = .ok m') (tag : Int) :
    Has m' tag ↔ Has m tag ∨ tag ∈ components_.flatMap t := by
  induction components_ generalizing m with
  | nil =>
      cases h
      simp
  | cons i rest ih =>
      obtain ⟨a, m₁, ha, hrest, hhas, -⟩ := gather_cons h
      rw [ih hrest, hhas, ht i a ha, List.flatMap_cons, List.mem_append, or_assoc]

/-- An entry comes from the metadata that were there or from a component. -/
theorem find_gather {components_ : List ι} (h : gather populate m components_ = .ok m') {tag : Int}
    {e : Entry} (he : find m' tag = some e) :
    find m tag = some e ∨ ∃ i ∈ components_, ∃ a, populate i = .ok a ∧ find a tag = some e := by
  induction components_ generalizing m with
  | nil =>
      cases h
      exact .inl he
  | cons i rest ih =>
      obtain ⟨a, m₁, ha, hrest, -, hfind⟩ := gather_cons h
      rcases ih hrest with hm₁ | ⟨j, hj, hrest'⟩
      · rcases hfind tag e hm₁ with hm | ha'
        · exact .inl hm
        · exact .inr ⟨i, List.mem_cons_self, a, ha, ha'⟩
      · exact .inr ⟨j, List.mem_cons_of_mem i hj, hrest'⟩

theorem gather_populates {components_ : List ι} (h : gather populate m components_ = .ok m') :
    ∀ i ∈ components_, ∃ a, populate i = .ok a := by
  induction components_ generalizing m with
  | nil => nofun
  | cons i rest ih =>
      obtain ⟨a, m₁, ha, hrest, -⟩ := gather_cons h
      exact List.forall_mem_cons.mpr ⟨⟨a, ha⟩, ih hrest⟩

theorem find_gather_other (ht : ∀ i a, populate i = .ok a → ∀ tag, Has a tag ↔ tag ∈ t i)
    {components_ : List ι} (h : gather populate m components_ = .ok m') {tag : Int}
    (htag : tag ∉ components_.flatMap t) : find m' tag = find m tag := by
  have hhas := has_gather ht h tag
  rw [or_iff_left htag] at hhas
  cases hfind : find m' tag with
  | none => exact (not_not.mp (mt hhas.mpr (not_not.mpr hfind))).symm
  | some e =>
      rcases find_gather h hfind with hm | ⟨i, hi, a, ha, hae⟩
      · exact hm.symm
      · exact absurd (List.mem_flatMap.mpr ⟨i, hi, (ht i a ha tag).mp (by simp [Has, hae])⟩) htag

theorem eq_of_mem_flatMap {l : List ι} (hnodup : (l.flatMap t).Nodup) {i j : ι} (hi : i ∈ l)
    (hj : j ∈ l) {tag : Int} (hti : tag ∈ t i) (htj : tag ∈ t j) : i = j := by
  by_contra hne
  have hsymm : Std.Symm (Function.onFun List.Disjoint t) :=
    ⟨fun _ _ hdisjoint _ hj hi => hdisjoint hi hj⟩
  exact ((List.nodup_flatMap.mp hnodup).2.forall hi hj hne) hti htj

/-- When no two components have a tag in common, one that only a component has is found as the
component has it. -/
theorem find_gather_component
    (ht : ∀ i a, populate i = .ok a → ∀ tag, Has a tag ↔ tag ∈ t i) {components_ : List ι}
    (hnodup : (components_.flatMap t).Nodup) (h : gather populate m components_ = .ok m') {i : ι}
    (hi : i ∈ components_) {a : C} (ha : populate i = .ok a) {tag : Int} {e : Entry}
    (hae : find a tag = some e) :
    find m' tag = some e ∨ find m' tag = find m tag ∧ Has m tag := by
  have hti : tag ∈ t i := (ht i a ha tag).mp (by simp [Has, hae])
  have hhas : Has m' tag :=
    (has_gather ht h tag).mpr (.inr (List.mem_flatMap.mpr ⟨i, hi, hti⟩))
  obtain ⟨e', he'⟩ := Option.ne_none_iff_exists'.mp hhas
  rcases find_gather h he' with hm | ⟨j, hj, a', ha', hae'⟩
  · exact .inr ⟨he'.trans hm.symm, by simp [Has, hm]⟩
  · have htj : tag ∈ t j := (ht j a' ha' tag).mp (by simp [Has, hae'])
    obtain rfl := eq_of_mem_flatMap hnodup hi hj hti htj
    rw [ha] at ha'
    cases ha'
    rw [hae] at hae'
    cases hae'
    exact .inl he'

end

namespace Metadata

variable {C ι D : Type} [CameraMetadata C] {T : ι → Type} {M : Metadata D T}

/-! ## The keys -/

theorem controlTags_sublist (l : List ι) :
    (l.flatMap fun i => (M.component i).ControlTags).Sublist
      (l.flatMap fun i => (M.component i).DynamicTags) := by
  induction l with
  | nil => exact List.Sublist.refl _
  | cons i rest ih =>
      refine List.Sublist.append ?_ ih
      show (M.component i).ControlTags.Sublist (M.component i).DynamicTags
      cases M.component i with
      | control tag delegate_ options_ => exact List.Sublist.refl _
      | _ => exact List.nil_sublist _

variable [∀ i, MetadataValue (T i)] [∀ i, LinearOrder (T i)]

theorem gather_of_template {m q : C} {s : State D T} {template_type : Int}
    (h : M.GetRequestTemplate template_type m s = .ok q) :
    gather (fun i => (M.component i).PopulateTemplateRequest M.dev template_type s.device
      (s.value_ i) empty) m M.components_ = .ok q := by
  unfold GetRequestTemplate at h
  split at h
  · cases h
  · exact h

variable [LawfulCameraMetadata C]

omit [∀ i, LinearOrder (T i)] in
theorem has_FillResultMetadata {m r : C} {s : State D T} (h : M.FillResultMetadata m s = .ok r)
    (tag : Int) :
    Has r tag ↔ Has m tag ∨ tag ∈ M.components_.flatMap fun i => (M.component i).DynamicTags :=
  has_gather (fun _ _ ha => Component.has_dynamic ha) h tag

theorem has_GetRequestTemplate {m q : C} {s : State D T} {template_type : Int}
    (h : M.GetRequestTemplate template_type m s = .ok q) (tag : Int) :
    Has q tag ↔ Has m tag ∨ tag ∈ M.components_.flatMap fun i => (M.component i).ControlTags :=
  has_gather (fun _ _ ha => Component.has_template ha) (gather_of_template h) tag

/-- The static metadata lists its own tags, all tags that a template can set, and all tags that a
result can have beside those of the settings in front of it. -/
theorem keys_complete {m : C} {DeviceId FocusSupported CropRegionsSupported : Int}
    (h : M.FillStaticMetadata empty DeviceId FocusSupported CropRegionsSupported = .ok m) :
    ∃ static_keys request_keys result_keys,
      find m ANDROID_REQUEST_AVAILABLE_CHARACTERISTICS_KEYS =
        some ⟨ANDROID_REQUEST_AVAILABLE_CHARACTERISTICS_KEYS, .INT32, static_keys⟩ ∧
      find m ANDROID_REQUEST_AVAILABLE_REQUEST_KEYS =
        some ⟨ANDROID_REQUEST_AVAILABLE_REQUEST_KEYS, .INT32, request_keys⟩ ∧
      find m ANDROID_REQUEST_AVAILABLE_RESULT_KEYS =
        some ⟨ANDROID_REQUEST_AVAILABLE_RESULT_KEYS, .INT32, result_keys⟩ ∧
      (∀ tag, tag ∈ static_keys ↔ Has m tag) ∧
      (∀ template_type s (q : C), M.GetRequestTemplate template_type empty s = .ok q →
        ∀ tag, Has q tag → tag ∈ request_keys) ∧
      request_keys ⊆ result_keys ∧
      ∀ (settings : C) s r, M.FillResultMetadata settings s = .ok r →
        ∀ tag, Has r tag → Has settings tag ∨ tag ∈ result_keys := by
  unfold FillStaticMetadata at h
  obtain ⟨m₁, hgather, h⟩ := bind_ok h
  obtain ⟨m₂, hrequest, h⟩ := bind_ok h
  obtain ⟨m₃, hresult, hstatic⟩ := bind_ok h
  have hhas := fun tag => (has_update (UpdateMetadata_ok hstatic) tag).trans
    (or_congr_left ((has_update (UpdateMetadata_ok hresult) tag).trans
      (or_congr_left (has_update (UpdateMetadata_ok hrequest) tag))))
  have hgathered := has_gather (fun _ _ ha => Component.has_static ha) hgather
  replace hrequest := UpdateMetadata_ok hrequest
  replace hresult := UpdateMetadata_ok hresult
  replace hstatic := UpdateMetadata_ok hstatic
  -- the lists are three entries, none of which replaces another
  have hne : ANDROID_REQUEST_AVAILABLE_CHARACTERISTICS_KEYS ≠
      ANDROID_REQUEST_AVAILABLE_RESULT_KEYS := by decide
  have hne' : ANDROID_REQUEST_AVAILABLE_CHARACTERISTICS_KEYS ≠
      ANDROID_REQUEST_AVAILABLE_REQUEST_KEYS := by decide
  have hne'' : ANDROID_REQUEST_AVAILABLE_RESULT_KEYS ≠
      ANDROID_REQUEST_AVAILABLE_REQUEST_KEYS := by decide
  have hresult_keys := (find_update_ne hstatic hne).trans (find_update_self hresult)
  have hrequest_keys := (find_update_ne hstatic hne').trans
    ((find_update_ne hresult hne'').trans (find_update_self hrequest))
  refine ⟨_, _, _, find_update_self hstatic, hrequest_keys, hresult_keys, ?_, ?_, ?_, ?_⟩
  · intro tag
    rw [hhas, hgathered, or_iff_right (not_has_empty tag)]
    simp only [List.mem_append, List.mem_singleton]
  · intro template_type s q hq tag htag
    rw [has_GetRequestTemplate hq] at htag
    exact List.mem_append_left _ (List.mem_append_left _ (htag.resolve_left (not_has_empty tag)))
  · intro tag htag
    simp only [List.mem_append] at htag ⊢
    exact htag.imp_left (Or.imp_left fun hmem => (controlTags_sublist M.components_).mem hmem)
  · intro settings s r hr tag htag
    rw [has_FillResultMetadata hr] at htag
    exact htag.imp_right fun hmem => List.mem_append_left _ (List.mem_append_left _ hmem)

/-! ## What a request sets -/

def requestedValue {T : Type} [MetadataValue T] (m : C) (tag : Int) (requested value_ : T) : T :=
  match SingleTagValue m tag requested with
  | .ok value => value
  | .error _ => value_

section

variable {T : Type} [MetadataValue T] {m : C} {tag : Int}

omit [LawfulCameraMetadata C] in
theorem requestedValue_of_find {v : T} (h : find m tag = some (valueEntry tag v))
    (requested value_ : T) : requestedValue m tag requested value_ = v := by
  rw [requestedValue, SingleTagValue_of_find h]

omit [LawfulCameraMetadata C] in
theorem requestedValue_of_none (h : find m tag = none) (requested value_ : T) :
    requestedValue m tag requested value_ = value_ := by
  rw [requestedValue, SingleTagValue_of_none h]

variable [LinearOrder T] {dev : Device D} {requested value_ value' : T} {device device' : D}
  {options_ : Option (TaggedControlOptions T)} {res : Except Failure Unit}

/-- A control without effect takes the requested value, if its options allow it. -/
theorem SetRequestValues_noEffect
    (h : (Component.control tag .noEffect options_).SetRequestValues dev requested m device value_ =
      (res, device', value')) :
    (value' = value_ ∨ ∃ v, SingleTagValue m tag requested = .ok v ∧
        Component.Accepts tag options_ v = true ∧ value' = v) ∧
      (res = .ok () → value' = requestedValue m tag requested value_) := by
  simp only [Component.SetRequestValues] at h
  split at h
  · rename_i hempty
    cases h
    exact ⟨.inl rfl, fun _ => (requestedValue_of_none (find_of_isEmpty hempty tag) _ _).symm⟩
  · split at h
    · rename_i hread
      cases h
      exact ⟨.inl rfl, fun _ => by rw [requestedValue, hread]⟩
    · cases h
      exact ⟨.inl rfl, nofun⟩
    · rename_i v hread
      split at h
      · rename_i haccepts
        cases h
        exact ⟨.inr ⟨_, hread, haccepts, rfl⟩, fun _ => by rw [requestedValue, hread]⟩
      · cases h
        exact ⟨.inl rfl, nofun⟩

end

variable [DecidableEq ι] {m : C} {s s' : State D T} {i : ι} {tag : Int}
  {options_ : Option (TaggedControlOptions (T i))}

theorem setValues_of_ok (hc : M.component i = .control tag .noEffect options_) {l : List ι}
    (h : M.setValues m s l = (.ok (), s')) :
    s'.value_ i =
      if i ∈ l then requestedValue m tag (M.uninitialised i) (s.value_ i) else s.value_ i := by
  induction l generalizing s with
  | nil =>
      cases h
      rfl
  | cons j rest ih =>
      rw [setValues] at h
      split at h
      · rename_i device value hset
        rw [ih h]
        by_cases hj : i = j
        · subst hj
          rw [hc] at hset
          have hvalue := (SetRequestValues_noEffect hset).2 rfl
          simp only [Function.update_self, List.mem_cons_self, if_true, hvalue, requestedValue]
          cases SingleTagValue m tag (M.uninitialised i) <;> simp
        · simp [hj]
      · cases h

/-- What holds of the value and of each value that the options let through holds in the end, also
when some component fails. -/
theorem setValues_kept (P : T i → Prop) (hc : M.component i = .control tag .noEffect options_)
    (hrequested : ∀ v, SingleTagValue m tag (M.uninitialised i) = .ok v →
      Component.Accepts tag options_ v = true → P v) (l : List ι) (hs : P (s.value_ i)) :
    P ((M.setValues m s l).2.value_ i) := by
  induction l generalizing s with
  | nil => exact hs
  | cons j rest ih =>
      have hnext : ∀ res device value, (M.component j).SetRequestValues M.dev (M.uninitialised j) m
          s.device (s.value_ j) = (res, device, value) →
            P (Function.update s.value_ j value i) := by
        intro res device value hset
        by_cases hj : i = j
        · subst hj
          rw [hc] at hset
          rw [Function.update_self]
          rcases (SetRequestValues_noEffect hset).1 with heq | ⟨v, hread, haccepts, heq⟩
          · rw [heq]
            exact hs
          · rw [heq]
            exact hrequested v hread haccepts
        · rw [Function.update_of_ne hj]
          exact hs
      rw [setValues]
      split
      · rename_i device value hset
        exact ih (hnext _ _ _ hset)
      · rename_i res device value hset
        exact hnext _ _ _ hset

theorem SetRequestSettings_kept (P : T i → Prop)
    (hc : M.component i = .control tag .noEffect options_)
    (hrequested : ∀ v, SingleTagValue m tag (M.uninitialised i) = .ok v →
      Component.Accepts tag options_ v = true → P v) (hs : P (s.value_ i)) :
    P ((M.SetRequestSettings m s).2.value_ i) := by
  unfold SetRequestSettings
  split
  · exact hs
  · exact setValues_kept P hc hrequested M.components_ hs

theorem SetRequestSettings_of_ok (hi : i ∈ M.components_)
    (hc : M.component i = .control tag .noEffect options_)
    (h : M.SetRequestSettings m s = (.ok (), s')) :
    s'.value_ i = requestedValue m tag (M.uninitialised i) (s.value_ i) := by
  unfold SetRequestSettings at h
  split at h
  · rename_i hempty
    cases h
    exact (requestedValue_of_none (find_of_isEmpty hempty tag) _ _).symm
  · rw [setValues_of_ok hc h, if_pos hi]

/-! ## Templates and results -/

omit [∀ i, LinearOrder (T i)] [DecidableEq ι] in
/-- A control without effect reports its value, which can stand beside an entry that was there. -/
theorem find_FillResultMetadata
    (hnodup : (M.components_.flatMap fun i => (M.component i).DynamicTags).Nodup)
    (hi : i ∈ M.components_) (hc : M.component i = .control tag .noEffect options_) {r : C}
    (h : M.FillResultMetadata m s = .ok r) :
    find r tag = some (valueEntry tag (s.value_ i)) ∨ find r tag = find m tag ∧ Has m tag := by
  obtain ⟨a, ha⟩ := gather_populates h i hi
  have hpopulate := ha
  rw [hc] at hpopulate
  obtain ⟨v, hget, hfind⟩ := Component.find_dynamic hpopulate
  cases hget
  exact find_gather_component (fun _ _ ha => Component.has_dynamic ha) hnodup h hi ha hfind

/-- The result of a request, filled in behind its settings: what no component reports is echoed, and
a control without effect reports the value that it has been asked for, if this could be set, and the
value that it has had, if it has not been asked. -/
theorem request_answered
    (hnodup : (M.components_.flatMap fun i => (M.component i).DynamicTags).Nodup)
    {res : Except Failure Unit} (hset : M.SetRequestSettings m s = (res, s')) {r : C}
    (h : M.FillResultMetadata m s' = .ok r) :
    (∀ tag, (∀ i ∈ M.components_, tag ∉ (M.component i).DynamicTags) →
      find r tag = find m tag) ∧
    ∀ i ∈ M.components_, ∀ tag options_, M.component i = .control tag .noEffect options_ →
      (find m tag = none → find r tag = some (valueEntry tag (s.value_ i))) ∧
      ∀ v : T i, find m tag = some (valueEntry tag v) →
        find r tag = some (valueEntry tag v) ∨
          res ≠ .ok () ∧ find r tag = some (valueEntry tag (s'.value_ i)) := by
  refine ⟨?_, ?_⟩
  · intro tag hother
    exact find_gather_other (fun _ _ ha => Component.has_dynamic ha) h
      (by simpa [List.mem_flatMap] using hother)
  · intro i hi tag options_ hc
    have hreport := find_FillResultMetadata hnodup hi hc h
    refine ⟨?_, ?_⟩
    · intro hnone
      have hkept := SetRequestSettings_kept (m := m) (s := s) (fun v => v = s.value_ i) hc (by
        intro v hread
        rw [SingleTagValue_of_none hnone] at hread
        cases hread) rfl
      rw [hset] at hkept
      rw [← hkept]
      exact hreport.resolve_right fun hthere => hthere.2 hnone
    · intro v hv
      rcases hreport with hvalue | ⟨hthere, -⟩
      -- a request that was refused may have been refused before it came to this control
      · by_cases hres : res = .ok ()
        · subst hres
          rw [SetRequestSettings_of_ok hi hc hset, requestedValue_of_find hv] at hvalue
          exact .inl hvalue
        · exact .inr ⟨hres, hvalue⟩
      · exact .inl (hthere.trans hv)

omit [DecidableEq ι] in
/-- What a template has for a control. -/
theorem template_value
    (hnodup : (M.components_.flatMap fun i => (M.component i).DynamicTags).Nodup)
    {template_type : Int} {q : C} (hq : M.GetRequestTemplate template_type empty s = .ok q)
    (hi : i ∈ M.components_) {delegate_ : ControlDelegate (T i)}
    (hc : M.component i = .control tag delegate_ options_) :
    ∃ v, find q tag = some (valueEntry tag v) ∧
      ∀ options, options_ = some options → options.options_.IsSupported v = true := by
  have hgather := gather_of_template hq
  obtain ⟨a, ha⟩ := gather_populates hgather i hi
  have hpopulate := ha
  rw [hc] at hpopulate
  obtain ⟨v, hfind, hsupported⟩ := Component.find_template hpopulate
  refine ⟨v, ?_, hsupported⟩
  have hreport := find_gather_component (fun _ _ ha => Component.has_template ha)
    (hnodup.sublist (controlTags_sublist M.components_)) hgather hi ha hfind
  exact hreport.resolve_right fun hthere => not_has_empty tag hthere.2

def IsNoEffect {T : Type} : Component T → Prop
  | .control _ (.v4l2 _ _) _ => False
  | _ => True

omit [LawfulCameraMetadata C] in
theorem setValues_ok {l : List ι}
    (h : ∀ i ∈ l, ∀ device value_, ((M.component i).SetRequestValues M.dev (M.uninitialised i) m
      device value_).1 = .ok ()) (s : State D T) : (M.setValues m s l).1 = .ok () := by
  induction l generalizing s with
  | nil => rfl
  | cons j rest ih =>
      have hj := h j List.mem_cons_self s.device (s.value_ j)
      rw [setValues]
      split
      · exact ih (fun i hi => h i (List.mem_cons_of_mem j hi)) _
      · rename_i res device value hset
        rw [hset] at hj
        cases hj

omit [DecidableEq ι] in
theorem template_supported
    (hnodup : (M.components_.flatMap fun i => (M.component i).DynamicTags).Nodup)
    {template_type : Int} {q : C} (hq : M.GetRequestTemplate template_type empty s = .ok q)
    (hi : i ∈ M.components_) :
    (M.component i).SupportsRequestValues (M.uninitialised i) q = true := by
  cases hc : M.component i with
  | property tag_ value_ => rfl
  | state tag_ delegate_ => rfl
  | control tag delegate_ options_ =>
      obtain ⟨v, hfind, hsupported⟩ := template_value hnodup hq hi hc
      simp only [Component.SupportsRequestValues, SingleTagValue_of_find hfind]
      split
      · rfl
      · cases options_ with
        | none => rfl
        | some options => exact hsupported options rfl

omit [DecidableEq ι] in
/-- A component that does not go to the device takes what a template has for it. -/
theorem template_set
    (hnodup : (M.components_.flatMap fun i => (M.component i).DynamicTags).Nodup)
    {template_type : Int} {q : C} (hq : M.GetRequestTemplate template_type empty s = .ok q)
    (hi : i ∈ M.components_) (heffect : IsNoEffect (M.component i)) (device : D) (value_ : T i) :
    ((M.component i).SetRequestValues M.dev (M.uninitialised i) q device value_).1 = .ok () := by
  cases hc : M.component i with
  | property tag_ value_ => rfl
  | state tag_ delegate_ => rfl
  | control tag delegate_ options_ =>
      obtain ⟨v, hfind, hsupported⟩ := template_value hnodup hq hi hc
      have haccepts : Component.Accepts tag options_ v = true := by
        cases options_ with
        | none => rfl
        | some options => simp [Component.Accepts, hsupported options rfl]
      simp only [Component.SetRequestValues, SingleTagValue_of_find hfind, haccepts, if_true]
      split
      · rfl
      · rw [hc] at heffect
        cases delegate_ with
        | noEffect => rfl
        | ignored value_ => rfl
        | v4l2 control_id_ converter_ => exact heffect.elim

/-- A template is supported by all components.  A request for it is not refused as long as it does
not go to the device, and then the result, filled in behind settings that agree with the template,
has the values of the template. -/
theorem template_round_trip
    (hnodup : (M.components_.flatMap fun i => (M.component i).DynamicTags).Nodup)
    {template_type : Int} {q : C} (hq : M.GetRequestTemplate template_type empty s = .ok q) :
    (∀ i ∈ M.components_, (M.component i).SupportsRequestValues (M.uninitialised i) q = true) ∧
      (∀ s₁ : State D T, (∀ i ∈ M.components_, IsNoEffect (M.component i)) →
        (M.SetRequestSettings q s₁).1 = .ok ()) ∧
      ∀ (s₁ s₂ : State D T) (settings r : C), M.SetRequestSettings q s₁ = (.ok (), s₂) →
        (∀ tag, Has settings tag → find settings tag = find q tag) →
        M.FillResultMetadata settings s₂ = .ok r →
        ∀ i ∈ M.components_, ∀ tag options_, M.component i = .control tag .noEffect options_ →
          find r tag = find q tag := by
  refine ⟨fun i hi => template_supported hnodup hq hi, ?_, ?_⟩
  · intro s₁ heffect
    unfold SetRequestSettings
    split
    · rfl
    · apply setValues_ok
      exact fun i hi => template_set hnodup hq hi (heffect i hi)
  · intro s₁ s₂ settings r hset hagree hfill i hi tag options_ hc
    obtain ⟨v, hfind, -⟩ := template_value hnodup hq hi hc
    -- the control reports its value, unless the settings have answered for it already
    rcases find_FillResultMetadata hnodup hi hc hfill with hvalue | ⟨hthere, hhas⟩
    · rw [hvalue, SetRequestSettings_of_ok hi hc hset, requestedValue_of_find hfind, hfind]
    · exact hthere.trans (hagree tag hhas)

/-! ## Controls of the factory -/

section

variable {T : Type}

end

def run (M : Metadata D T) (requests : List C) (s : State D T) : State D T :=
  requests.foldl (fun s m => (M.SetRequestSettings m s).2) s

def modeDefaults (template_type : Int) : Option UInt8 := if template_type = 1 then some 4 else none

inductive SmallPart where
  | focusMode | lensFacing | flashState
deriving DecidableEq

def small : Metadata Unit fun _ : SmallPart => UInt8 where
  component
    | .focusMode => .control 0x10007 .noEffect (some ⟨0x10019, .menu [0, 1, 4] modeDefaults⟩)
    | .lensFacing => .property 0x80005 1
    | .flashState => .state 0x40005 (.ignored 2)
  components_ := [.focusMode, .lensFacing, .flashState]
  dev := ⟨fun _ _ => .ok 0, fun _ _ device => (.ok (), device)⟩
  uninitialised _ := 0

def smallState : State Unit fun _ : SmallPart => UInt8 := ⟨(), fun _ => 0⟩

theorem keys_complete_small : ∃ (m : List Entry) (static_keys request_keys result_keys : List Int),
    small.FillStaticMetadata empty 0 1 1 = .ok m ∧
      find m ANDROID_REQUEST_AVAILABLE_CHARACTERISTICS_KEYS =
        some ⟨ANDROID_REQUEST_AVAILABLE_CHARACTERISTICS_KEYS, .INT32, static_keys⟩ ∧
      (∀ tag, tag ∈ static_keys ↔ Has m tag) ∧ request_keys ⊆ result_keys ∧
      ∀ (settings : List Entry) s r, small.FillResultMetadata settings s = .ok r →
        ∀ tag, Has r tag → Has settings tag ∨ tag ∈ result_keys := by
  have h : small.FillStaticMetadata (empty : List Entry) 0 1 1 =
      .ok ((small.FillStaticMetadata (empty : List Entry) 0 1 1).toOption.getD []) := by rfl
  obtain ⟨static_keys, request_keys, result_keys, hstatic, -, -, hall, -, hsub, hresult⟩ :=
    keys_complete h
  exact ⟨_, static_keys, request_keys, result_keys, h, hstatic, hall, hsub, hresult⟩

/-- The default mode of the preview is set and reported behind the template itself. -/
theorem template_round_trip_small :
    let q : List Entry := [⟨0x10007, .BYTE, [4]⟩]
    small.GetRequestTemplate 1 empty smallState = .ok q ∧
      (∀ i ∈ small.components_,
        (small.component i).SupportsRequestValues (small.uninitialised i) q = true) ∧
      ∃ r, small.FillResultMetadata q (small.SetRequestSettings q smallState).2 = .ok r ∧
        find r 0x10007 = find q 0x10007 := by
  intro q
  have h : small.GetRequestTemplate 1 (empty : List Entry) smallState = .ok q := by rfl
  have hr : small.FillResultMetadata q (small.SetRequestSettings q smallState).2 =
      .ok [⟨0x10007, .BYTE, [4]⟩, ⟨0x10007, .BYTE, [4]⟩, ⟨0x40005, .BYTE, [2]⟩] := by rfl
  obtain ⟨hsupports, -, hreports⟩ := template_round_trip (by decide) h
  exact ⟨h, hsupports, _, hr, hreports smallState _ q _ rfl (fun _ _ => rfl) hr .focusMode
    List.mem_cons_self 0x10007 _ rfl⟩

/-- The mode 1 is set and reported, beside an entry that no component knows. -/
theorem request_answered_small :
    let m : List Entry := [⟨0x10007, .BYTE, [1]⟩, ⟨0x70004, .BYTE, [90]⟩]
    ∃ r, small.FillResultMetadata m (small.SetRequestSettings m smallState).2 = .ok r ∧
      find r 0x70004 = find m 0x70004 ∧
      find r 0x10007 = some (valueEntry 0x10007 (1 : UInt8)) := by
  intro m
  have h : small.FillResultMetadata m (small.SetRequestSettings m smallState).2 =
      .ok [⟨0x10007, .BYTE, [1]⟩, ⟨0x70004, .BYTE, [90]⟩, ⟨0x10007, .BYTE, [1]⟩,
        ⟨0x40005, .BYTE, [2]⟩] := by rfl
  have hset : small.SetRequestSettings m smallState =
      (.ok (), (small.SetRequestSettings m smallState).2) := rfl
  obtain ⟨hother, hcontrols⟩ := request_answered (by decide) hset h
  have hmode := (hcontrols .focusMode List.mem_cons_self 0x10007 _ rfl).2 1 rfl
  exact ⟨_, h, hother 0x70004 (by decide), hmode.resolve_right fun hrefused => hrefused.1 rfl⟩

end Metadata

end AwHal.Camera.PartialMetadata
