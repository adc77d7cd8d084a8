import Mathlib.Data.List.Chain
import Mathlib.Data.Int.Order.Basic
import AwHal.Lib.Hysteresis

/-!
# Throttling severities

The thermal HAL watches some sensors and tells its client about each change of their throttling
severity (`thermal-helper.cpp`).  A severity has a hot and a cold threshold; falling back from it
takes a hysteresis.  The temperatures are of any ordered type with a sum and a difference.
-/

namespace AwHal.Thermal

open AwHal.Lib

inductive ThrottlingSeverity where
  | NONE | LIGHT | MODERATE | SEVERE | CRITICAL | EMERGENCY | SHUTDOWN
deriving DecidableEq, Repr

namespace ThrottlingSeverity

def size : ThrottlingSeverity → Nat
  | NONE => 0
  | LIGHT => 1
  | MODERATE => 2
  | SEVERE => 3
  | CRITICAL => 4
  | EMERGENCY => 5
  | SHUTDOWN => 6

theorem size_injective : Function.Injective size := by
  intro a b h
  cases a <;> cases b <;> first | rfl | cases h

instance : LinearOrder ThrottlingSeverity := LinearOrder.lift' size size_injective

instance : OrderBot ThrottlingSeverity where
  bot := NONE
  bot_le a := Nat.zero_le a.size

end ThrottlingSeverity

open ThrottlingSeverity

variable {α : Type} [LinearOrder α] [Add α] [Sub α]

/-- `none` is a threshold that is not a number. -/
structure SensorInfo (α : Type) where
  hot_thresholds : ThrottlingSeverity → Option α
  cold_thresholds : ThrottlingSeverity → Option α
  hot_hysteresis : ThrottlingSeverity → α
  cold_hysteresis : ThrottlingSeverity → α
  is_monitor : Bool

def downwards : List ThrottlingSeverity := [SHUTDOWN, EMERGENCY, CRITICAL, SEVERE, MODERATE, LIGHT]

/-- One of the four results of the loop, which the first severity with its condition gets. -/
def severityLoop (cond : ThrottlingSeverity → Bool) : ThrottlingSeverity :=
  downwards.foldl (fun ret i => if cond i && decide (ret = NONE) then i else ret) NONE

namespace SensorInfo

variable (info : SensorInfo α)

def getSeverityFromThresholds (prev_hot_severity prev_cold_severity : ThrottlingSeverity)
    (value : α) : ThrottlingSeverity × ThrottlingSeverity :=
  let ret_hot := severityLoop fun i =>
    (info.hot_thresholds i).any fun t => decide (t ≤ value)
  let ret_hot_hysteresis := severityLoop fun i =>
    (info.hot_thresholds i).any fun t => decide (t - info.hot_hysteresis i < value)
  let ret_cold := severityLoop fun i =>
    (info.cold_thresholds i).any fun t => decide (value ≤ t)
  let ret_cold_hysteresis := severityLoop fun i =>
    (info.cold_thresholds i).any fun t => decide (value < t + info.cold_hysteresis i)
  (if ret_hot < prev_hot_severity then ret_hot_hysteresis else ret_hot,
    if ret_cold < prev_cold_severity then ret_cold_hysteresis else ret_cold)

end SensorInfo

/-! ## The watcher's callback -/

variable {K : Type} [DecidableEq K]

structure SensorStatus where
  severity : ThrottlingSeverity := NONE
  prev_hot_severity : ThrottlingSeverity := NONE
  prev_cold_severity : ThrottlingSeverity := NONE

structure Temperature (K α : Type) where
  name : K
  value : α
  throttlingStatus : ThrottlingSeverity

/-- A call of the watcher, and what the sensors read then. -/
structure Call (K α : Type) where
  uevent_sensors : List K
  readThermalFile : K → Option α

/-- If a uevent triggers the call, only the sensors that it names are checked. -/
def Call.Checks (call : Call K α) (name : K) : Prop :=
  call.uevent_sensors = [] ∨ name ∈ call.uevent_sensors

instance (call : Call K α) (name : K) : Decidable (call.Checks name) :=
  inferInstanceAs (Decidable (_ ∨ _))

structure Watch (K α : Type) where
  sensor_status_map_ : K → SensorStatus
  temps : List (Temperature K α) := []
  thermal_triggered : Bool := false

def readTemperature (info : SensorInfo α) (status : SensorStatus) (value : α) : SensorStatus :=
  let throtting_status :=
    info.getSeverityFromThresholds status.prev_hot_severity status.prev_cold_severity value
  { severity :=
      if throtting_status.2 < throtting_status.1 then throtting_status.1 else throtting_status.2
    prev_hot_severity := throtting_status.1
    prev_cold_severity := throtting_status.2 }

def watchSensor (call : Call K α) (w : Watch K α) (sensor : K × SensorInfo α) : Watch K α :=
  let sensor_status := w.sensor_status_map_ sensor.1
  if sensor.2.is_monitor = false then w
  else if ¬call.Checks sensor.1 then
    { w with thermal_triggered := w.thermal_triggered || decide (sensor_status.severity ≠ NONE) }
  else
    match call.readThermalFile sensor.1 with
    | none => w
    | some value =>
        let status := readTemperature sensor.2 sensor_status value
        { sensor_status_map_ := Function.update w.sensor_status_map_ sensor.1 status
          temps :=
            if status.severity ≠ sensor_status.severity then
              w.temps ++ [⟨sensor.1, value, status.severity⟩]
            else w.temps
          thermal_triggered := w.thermal_triggered || decide (status.severity ≠ NONE) }

/-- The sensors have different names. -/
structure ThermalHelper (K α : Type) where
  sensors : List (K × SensorInfo α)
  nodup : (sensors.map Prod.fst).Nodup

structure State (K α : Type) where
  sensor_status_map_ : K → SensorStatus := fun _ => {}
  /-- What `cb_` has been given so far. -/
  notified : List (Temperature K α) := []
  /-- What the last call has returned. -/
  thermal_triggered : Bool := true

namespace ThermalHelper

variable (helper : ThermalHelper K α)

def thermalWatcherCallbackFunc (s : State K α) (call : Call K α) : State K α :=
  let w := helper.sensors.foldl (watchSensor call) { sensor_status_map_ := s.sensor_status_map_ }
  { sensor_status_map_ := w.sensor_status_map_
    notified := s.notified ++ w.temps
    thermal_triggered := w.thermal_triggered }

def run (calls : List (Call K α)) : State K α :=
  calls.foldl helper.thermalWatcherCallbackFunc {}

end ThermalHelper

/-! ## The loops -/

theorem le_foldl_pick {cond : ThrottlingSeverity → Bool} {l : List ThrottlingSeverity}
    (hpos : ∀ j ∈ l, NONE < j) (hsorted : l.Pairwise (· > ·)) {i : ThrottlingSeverity}
    (hi : NONE < i) :
    i ≤ l.foldl (fun ret i => if cond i && decide (ret = NONE) then i else ret) NONE ↔
      ∃ j ∈ l, i ≤ j ∧ cond j = true := by
  have hkeep : ∀ (l : List ThrottlingSeverity) (a : ThrottlingSeverity), a ≠ NONE →
      l.foldl (fun ret i => if cond i && decide (ret = NONE) then i else ret) a = a := by
    intro l a ha
    induction l with
    | nil => rfl
    | cons b rest ih =>
        rw [List.foldl_cons, decide_eq_false ha, Bool.and_false]
        exact ih
  induction l with
  | nil => exact iff_of_false hi.not_ge (by simp)
  | cons a rest ih =>
      obtain ⟨hbelow, hsorted⟩ := List.pairwise_cons.mp hsorted
      have hrest := ih (fun j hj => hpos j (List.mem_cons_of_mem _ hj)) hsorted
      rw [List.foldl_cons, decide_eq_true rfl, Bool.and_true, List.exists_mem_cons_iff]
      cases hcond : cond a with
      | false =>
          rw [if_neg Bool.false_ne_true]
          refine hrest.trans ?_
          simp
      | true =>
          rw [if_pos rfl, hkeep rest a (hpos a List.mem_cons_self).ne']
          constructor
          · exact fun hle => .inl ⟨hle, rfl⟩
          · rintro (⟨hle, -⟩ | ⟨j, hj, hle, -⟩)
            · exact hle
            · exact hle.trans (hbelow j hj).le

theorem mem_downwards (i : ThrottlingSeverity) : i ∈ downwards ↔ NONE < i := by
  cases i <;> decide

theorem isHighest_severityLoop {cond : ThrottlingSeverity → Bool} {p : ThrottlingSeverity → Prop}
    (hcond : ∀ i, NONE < i → (cond i = true ↔ p i)) (hp : ∀ i, p i → NONE < i) :
    IsHighest p (severityLoop cond) where
  le_iff i hi := by
    refine (le_foldl_pick (fun j hj => (mem_downwards j).mp hj) (by decide) hi).trans ?_
    constructor
    · rintro ⟨j, hj, hle, hc⟩
      exact ⟨j, hle, (hcond j ((mem_downwards j).mp hj)).mp hc⟩
    · rintro ⟨j, hle, hj⟩
      exact ⟨j, (mem_downwards j).mpr (hp j hj), hle, (hcond j (hp j hj)).mpr hj⟩

/-! ## The bands of a sensor -/

namespace SensorInfo

variable (info : SensorInfo α)

/-- Each severity takes a hysteresis, in which no lower severity has its threshold. -/
structure HotSeparate : Prop where
  hysteresis : ∀ i, ∀ t ∈ info.hot_thresholds i, t - info.hot_hysteresis i < t
  separate : ∀ i j, NONE < i → i < j → ∀ t ∈ info.hot_thresholds i, ∀ u ∈ info.hot_thresholds j,
    t ≤ u - info.hot_hysteresis j

structure ColdSeparate : Prop where
  hysteresis : ∀ i, ∀ t ∈ info.cold_thresholds i, t < t + info.cold_hysteresis i
  separate : ∀ i j, NONE < i → i < j → ∀ t ∈ info.cold_thresholds i, ∀ u ∈ info.cold_thresholds j,
    u + info.cold_hysteresis j ≤ t

variable {info}

def hotBands (h : info.HotSeparate) : Bands ThrottlingSeverity α where
  used i := NONE < i ∧ (info.hot_thresholds i).isSome
  reached i v := NONE < i ∧ ∃ t ∈ info.hot_thresholds i, t ≤ v
  held i v := NONE < i ∧ ∃ t ∈ info.hot_thresholds i, t - info.hot_hysteresis i < v
  used_of_held := fun ⟨hi, t, ht, _⟩ => ⟨hi, Option.isSome_iff_exists.mpr ⟨t, ht⟩⟩
  held_of_reached := fun ⟨hi, t, ht, hle⟩ => ⟨hi, t, ht, (h.hysteresis _ t ht).trans_le hle⟩
  reached_of_held := by
    rintro i j v ⟨hi, hsome⟩ hij ⟨-, u, hu, hlt⟩
    obtain ⟨t, ht⟩ := Option.isSome_iff_exists.mp hsome
    exact ⟨hi, t, ht, (h.separate i j hi hij t ht u hu).trans hlt.le⟩

def coldBands (h : info.ColdSeparate) : Bands ThrottlingSeverity α where
  used i := NONE < i ∧ (info.cold_thresholds i).isSome
  reached i v := NONE < i ∧ ∃ t ∈ info.cold_thresholds i, v ≤ t
  held i v := NONE < i ∧ ∃ t ∈ info.cold_thresholds i, v < t + info.cold_hysteresis i
  used_of_held := fun ⟨hi, t, ht, _⟩ => ⟨hi, Option.isSome_iff_exists.mpr ⟨t, ht⟩⟩
  held_of_reached := fun ⟨hi, t, ht, hle⟩ => ⟨hi, t, ht, hle.trans_lt (h.hysteresis _ t ht)⟩
  reached_of_held := by
    rintro i j v ⟨hi, hsome⟩ hij ⟨-, u, hu, hlt⟩
    obtain ⟨t, ht⟩ := Option.isSome_iff_exists.mp hsome
    exact ⟨hi, t, ht, hlt.le.trans (h.separate i j hi hij t ht u hu)⟩

omit [LinearOrder α] [Add α] [Sub α] in
/-- A loop over thresholds finds the highest severity whose threshold meets the condition. -/
theorem isHighest_thresholds (thresholds : ThrottlingSeverity → Option α)
    (cond : ThrottlingSeverity → α → Prop) [∀ i t, Decidable (cond i t)] :
    IsHighest (fun i => NONE < i ∧ ∃ t ∈ thresholds i, cond i t)
      (severityLoop fun i => (thresholds i).any fun t => decide (cond i t)) := by
  refine isHighest_severityLoop (fun i hi => ?_) fun i hi => hi.1
  rw [Option.any_eq_true]
  simp only [hi, true_and, decide_eq_true_eq]
  rfl

theorem next_hot (h : info.HotSeparate) (prev_hot prev_cold : ThrottlingSeverity) (value : α) :
    (hotBands h).Next prev_hot value
      (info.getSeverityFromThresholds prev_hot prev_cold value).1 where
  found := ⟨_, _, isHighest_thresholds info.hot_thresholds fun _ t => t ≤ value,
    isHighest_thresholds info.hot_thresholds fun i t => t - info.hot_hysteresis i < value, rfl⟩

theorem next_cold (h : info.ColdSeparate) (prev_hot prev_cold : ThrottlingSeverity) (value : α) :
    (coldBands h).Next prev_cold value
      (info.getSeverityFromThresholds prev_hot prev_cold value).2 where
  found := ⟨_, _, isHighest_thresholds info.cold_thresholds fun _ t => value ≤ t,
    isHighest_thresholds info.cold_thresholds fun i t => value < t + info.cold_hysteresis i, rfl⟩

end SensorInfo

/-! ## What a call does to one sensor -/

def Call.reading (call : Call K α) (sensor : K × SensorInfo α) : Option α :=
  if sensor.2.is_monitor = true ∧ call.Checks sensor.1 then call.readThermalFile sensor.1 else none

def statusAfter (sensor : K × SensorInfo α) (status : SensorStatus) (reading : Option α) :
    SensorStatus :=
  match reading with
  | none => status
  | some value => readTemperature sensor.2 status value

def toldOf (sensor : K × SensorInfo α) (status : SensorStatus) (reading : Option α) :
    List (Temperature K α) :=
  match reading with
  | none => []
  | some value =>
      if (readTemperature sensor.2 status value).severity ≠ status.severity then
        [⟨sensor.1, value, (readTemperature sensor.2 status value).severity⟩]
      else []

theorem watchSensor_eq (call : Call K α) (w : Watch K α) (sensor : K × SensorInfo α) :
    (watchSensor call w sensor).sensor_status_map_ =
        Function.update w.sensor_status_map_ sensor.1
          (statusAfter sensor (w.sensor_status_map_ sensor.1) (call.reading sensor)) ∧
      (watchSensor call w sensor).temps =
        w.temps ++ toldOf sensor (w.sensor_status_map_ sensor.1) (call.reading sensor) := by
  rw [watchSensor, Call.reading]
  cases hmon : sensor.2.is_monitor with
  | false => simp [statusAfter, toldOf]
  | true =>
      by_cases hchecks : call.Checks sensor.1
      · cases hread : call.readThermalFile sensor.1 with
        | none => simp [statusAfter, toldOf, hchecks]
        | some value =>
            by_cases hchange : (readTemperature sensor.2 (w.sensor_status_map_ sensor.1)
                value).severity = (w.sensor_status_map_ sensor.1).severity <;>
              simp [statusAfter, toldOf, hchecks, hchange]
      · simp [statusAfter, toldOf, hchecks]

theorem filter_toldOf (sensor : K × SensorInfo α) (status : SensorStatus) (reading : Option α)
    (name : K) :
    (toldOf sensor status reading).filter (fun t => t.name = name) =
      if sensor.1 = name then toldOf sensor status reading else [] := by
  unfold toldOf
  split
  · rw [ite_self]
    rfl
  · split
    · by_cases hname : sensor.1 = name <;> simp [hname]
    · rw [ite_self]
      rfl

theorem foldl_watchSensor_of_notMem (call : Call K α) {l : List (K × SensorInfo α)} {name : K}
    (h : name ∉ l.map Prod.fst) (w : Watch K α) :
    (l.foldl (watchSensor call) w).sensor_status_map_ name = w.sensor_status_map_ name ∧
      (l.foldl (watchSensor call) w).temps.filter (fun t => t.name = name) =
        w.temps.filter fun t => t.name = name := by
  induction l generalizing w with
  | nil => exact ⟨rfl, rfl⟩
  | cons other rest ih =>
      rw [List.map_cons, List.mem_cons, not_or] at h
      obtain ⟨hne, hrest⟩ := h
      obtain ⟨hstatus, htemps⟩ := ih hrest (watchSensor call w other)
      obtain ⟨hstatus', htemps'⟩ := watchSensor_eq call w other
      rw [List.foldl_cons, hstatus, htemps, hstatus', htemps', Function.update_of_ne hne,
        List.filter_append, filter_toldOf, if_neg (Ne.symm hne), List.append_nil]
      exact ⟨rfl, rfl⟩

theorem foldl_watchSensor (call : Call K α) {l : List (K × SensorInfo α)} {sensor : K × SensorInfo α}
    (hnodup : (l.map Prod.fst).Nodup) (hmem : sensor ∈ l) (w : Watch K α) :
    (l.foldl (watchSensor call) w).sensor_status_map_ sensor.1 =
        statusAfter sensor (w.sensor_status_map_ sensor.1) (call.reading sensor) ∧
      (l.foldl (watchSensor call) w).temps.filter (fun t => t.name = sensor.1) =
        w.temps.filter (fun t => t.name = sensor.1) ++
          toldOf sensor (w.sensor_status_map_ sensor.1) (call.reading sensor) := by
  induction l generalizing w with
  | nil => cases hmem
  | cons other rest ih =>
      rw [List.map_cons, List.nodup_cons] at hnodup
      obtain ⟨hstatus', htemps'⟩ := watchSensor_eq call w other
      rw [List.foldl_cons]
      rcases List.mem_cons.mp hmem with rfl | hmem
      · obtain ⟨hstatus, htemps⟩ :=
          foldl_watchSensor_of_notMem call hnodup.1 (watchSensor call w sensor)
        rw [hstatus, htemps, hstatus', htemps', Function.update_self, List.filter_append,
          filter_toldOf, if_pos rfl]
        exact ⟨rfl, rfl⟩
      · have hne : sensor.1 ≠ other.1 := by
          intro heq
          exact hnodup.1 (heq ▸ List.mem_map_of_mem hmem)
        obtain ⟨hstatus, htemps⟩ := ih hnodup.2 hmem (watchSensor call w other)
        rw [hstatus, htemps, hstatus', htemps', Function.update_of_ne hne, List.filter_append,
          filter_toldOf, if_neg (Ne.symm hne), List.append_nil]
        exact ⟨rfl, rfl⟩

/-! ## Runs -/

def State.told (s : State K α) (name : K) : List ThrottlingSeverity :=
  (s.notified.filter fun t => t.name = name).map Temperature.throttlingStatus

namespace ThermalHelper

variable {helper : ThermalHelper K α} {sensor : K × SensorInfo α}

theorem run_concat (helper : ThermalHelper K α) (calls : List (Call K α)) (call : Call K α) :
    helper.run (calls ++ [call]) = helper.thermalWatcherCallbackFunc (helper.run calls) call := by
  rw [run, List.foldl_append]
  rfl

theorem status_call (h : sensor ∈ helper.sensors) (s : State K α) (call : Call K α) :
    (helper.thermalWatcherCallbackFunc s call).sensor_status_map_ sensor.1 =
      statusAfter sensor (s.sensor_status_map_ sensor.1) (call.reading sensor) :=
  (foldl_watchSensor call helper.nodup h { sensor_status_map_ := s.sensor_status_map_ }).1

theorem told_call (h : sensor ∈ helper.sensors) (s : State K α) (call : Call K α) :
    (helper.thermalWatcherCallbackFunc s call).told sensor.1 = s.told sensor.1 ++
      (toldOf sensor (s.sensor_status_map_ sensor.1) (call.reading sensor)).map
        Temperature.throttlingStatus := by
  have htemps :=
    (foldl_watchSensor call helper.nodup h { sensor_status_map_ := s.sensor_status_map_ }).2
  rw [List.filter_nil, List.nil_append] at htemps
  rw [State.told, State.told, thermalWatcherCallbackFunc, List.filter_append, htemps,
    List.map_append]

def readings (sensor : K × SensorInfo α) (calls : List (Call K α)) : List α :=
  calls.filterMap fun call => call.reading sensor

/-- The client is told of every change of the severity, and of nothing else: what it is told for a
sensor changes each time, and last it has been told the present severity. -/
theorem told_each_change (h : sensor ∈ helper.sensors) (calls : List (Call K α)) :
    (NONE :: (helper.run calls).told sensor.1).IsChain (· ≠ ·) ∧
      (NONE :: (helper.run calls).told sensor.1).getLast? =
        some ((helper.run calls).sensor_status_map_ sensor.1).severity := by
  induction calls using List.reverseRecOn with
  | nil => exact ⟨List.isChain_singleton _, rfl⟩
  | append_singleton calls call ih =>
      obtain ⟨hchain, hlast⟩ := ih
      rw [run_concat, status_call h, told_call h]
      cases hreading : call.reading sensor with
      | none =>
          simpa [toldOf, statusAfter] using ⟨hchain, hlast⟩
      | some value =>
          by_cases hchange : (readTemperature sensor.2
              ((helper.run calls).sensor_status_map_ sensor.1) value).severity =
              ((helper.run calls).sensor_status_map_ sensor.1).severity
          · simp only [toldOf, statusAfter, hchange, ne_eq, not_true_eq_false, if_false,
              List.map_nil, List.append_nil]
            exact ⟨hchain, hlast⟩
          · simp only [toldOf, statusAfter, ne_eq, hchange, not_false_eq_true, if_true,
              List.map_cons, List.map_nil, ← List.cons_append]
            refine ⟨List.isChain_append.mpr ⟨hchain, List.isChain_singleton _, ?_⟩, ?_⟩
            · rw [hlast]
              simpa using Ne.symm hchange
            · exact List.getLast?_concat ..

omit [LinearOrder α] [Add α] [Sub α] in
theorem readings_concat (calls : List (Call K α)) (call : Call K α) :
    readings sensor (calls ++ [call]) = readings sensor calls ++ (call.reading sensor).toList := by
  rw [readings, List.filterMap_append, readings]
  cases hreading : call.reading sensor <;> simp [hreading]

theorem follows_hot (h : sensor ∈ helper.sensors) (hhot : sensor.2.HotSeparate)
    (calls : List (Call K α)) : (SensorInfo.hotBands hhot).Follows
      ((helper.run calls).sensor_status_map_ sensor.1).prev_hot_severity
      (readings sensor calls) := by
  induction calls using List.reverseRecOn with
  | nil => exact .start
  | append_singleton calls call ih =>
      rw [run_concat, status_call h, readings_concat]
      cases call.reading sensor with
      | none => rwa [Option.toList_none, List.append_nil]
      | some value =>
          exact .next ih (SensorInfo.next_hot hhot _
            ((helper.run calls).sensor_status_map_ sensor.1).prev_cold_severity value)

theorem follows_cold (h : sensor ∈ helper.sensors) (hcold : sensor.2.ColdSeparate)
    (calls : List (Call K α)) : (SensorInfo.coldBands hcold).Follows
      ((helper.run calls).sensor_status_map_ sensor.1).prev_cold_severity
      (readings sensor calls) := by
  induction calls using List.reverseRecOn with
  | nil => exact .start
  | append_singleton calls call ih =>
      rw [run_concat, status_call h, readings_concat]
      cases call.reading sensor with
      | none => rwa [Option.toList_none, List.append_nil]
      | some value =>
          exact .next ih (SensorInfo.next_cold hcold
            ((helper.run calls).sensor_status_map_ sensor.1).prev_hot_severity _ value)

theorem severity_eq (h : sensor ∈ helper.sensors) (calls : List (Call K α)) :
    ((helper.run calls).sensor_status_map_ sensor.1).severity =
      max ((helper.run calls).sensor_status_map_ sensor.1).prev_cold_severity
        ((helper.run calls).sensor_status_map_ sensor.1).prev_hot_severity := by
  induction calls using List.reverseRecOn with
  | nil => exact (max_self NONE).symm
  | append_singleton calls call ih =>
      rw [run_concat, status_call h]
      cases call.reading sensor with
      | none => exact ih
      | some value => exact (max_def_lt _ _).symm

/-- What a temperature says about a hot severity with the threshold `t`. -/
def hotSwitch (info : SensorInfo α) (i : ThrottlingSeverity) (t value : α) : Option Bool :=
  if t ≤ value then some true else if t - info.hot_hysteresis i < value then none else some false

def coldSwitch (info : SensorInfo α) (i : ThrottlingSeverity) (t value : α) : Option Bool :=
  if value ≤ t then some true else if value < t + info.cold_hysteresis i then none else some false

/-- Each hot and each cold severity with a threshold is a switch of its own: it is reached from the
last temperature outside its band on, if that was beyond the threshold.  The severity is the greater
of the highest hot and the highest cold one. -/
theorem severity_switches (h : sensor ∈ helper.sensors) (hhot : sensor.2.HotSeparate)
    (hcold : sensor.2.ColdSeparate) (calls : List (Call K α)) :
    (∀ i, NONE < i → ∀ t ∈ sensor.2.hot_thresholds i,
      (i ≤ ((helper.run calls).sensor_status_map_ sensor.1).prev_hot_severity ↔
        lastOf (hotSwitch sensor.2 i t) false (readings sensor calls) = true)) ∧
    (∀ i, NONE < i → ∀ t ∈ sensor.2.cold_thresholds i,
      (i ≤ ((helper.run calls).sensor_status_map_ sensor.1).prev_cold_severity ↔
        lastOf (coldSwitch sensor.2 i t) false (readings sensor calls) = true)) ∧
    ((helper.run calls).sensor_status_map_ sensor.1).severity =
      max ((helper.run calls).sensor_status_map_ sensor.1).prev_cold_severity
        ((helper.run calls).sensor_status_map_ sensor.1).prev_hot_severity := by
  refine ⟨fun i hi t ht => ?_, fun i hi t ht => ?_, severity_eq h calls⟩
  · classical
    have hused : (SensorInfo.hotBands hhot).used i := ⟨hi, Option.isSome_iff_exists.mpr ⟨t, ht⟩⟩
    have hswitch : (SensorInfo.hotBands hhot).switch i = hotSwitch sensor.2 i t := by
      funext value
      have ht := Option.mem_def.mp ht
      simp [Bands.switch, SensorInfo.hotBands, hotSwitch, hi, ht]
    rw [← hswitch]
    exact (follows_hot h hhot calls).le_iff hi hused
  · classical
    have hused : (SensorInfo.coldBands hcold).used i := ⟨hi, Option.isSome_iff_exists.mpr ⟨t, ht⟩⟩
    have hswitch : (SensorInfo.coldBands hcold).switch i = coldSwitch sensor.2 i t := by
      funext value
      have ht := Option.mem_def.mp ht
      simp [Bands.switch, SensorInfo.coldBands, coldSwitch, hi, ht]
    rw [← hswitch]
    exact (follows_cold h hcold calls).le_iff hi hused

def skin : SensorInfo Int where
  hot_thresholds
    | LIGHT => some 40
    | SEVERE => some 50
    | _ => none
  cold_thresholds
    | LIGHT => some 0
    | _ => none
  hot_hysteresis _ := 5
  cold_hysteresis _ := 3
  is_monitor := true

theorem skin_hotSeparate : skin.HotSeparate where
  hysteresis i t _ := by
    have hhyst : skin.hot_hysteresis i = 5 := rfl
    omega
  separate i j hi hij t ht u hu := by
    have hhyst : skin.hot_hysteresis j = 5 := rfl
    have ht : skin.hot_thresholds i = some t := ht
    have hu : skin.hot_thresholds j = some u := hu
    cases i <;> cases ht <;> cases j <;> cases hu <;> revert hij <;> decide

theorem skin_coldSeparate : skin.ColdSeparate where
  hysteresis i t _ := by
    have hhyst : skin.cold_hysteresis i = 3 := rfl
    omega
  separate i j hi hij t ht u hu := by
    have ht : skin.cold_thresholds i = some t := ht
    have hu : skin.cold_thresholds j = some u := hu
    cases i <;> cases ht
    cases j <;> cases hu
    exact absurd hij (by decide)

def skinHelper : ThermalHelper Nat Int where
  sensors := [(0, skin)]
  nodup := by decide

def skinCalls : List (Call Nat Int) :=
  [51, 44, 36, 35].map fun value => ⟨[], fun _ => some value⟩

theorem severity_switches_skin :
    (SEVERE ≤ ((skinHelper.run (skinCalls.take 1)).sensor_status_map_ 0).prev_hot_severity ∧
      LIGHT ≤ ((skinHelper.run (skinCalls.take 3)).sensor_status_map_ 0).prev_hot_severity ∧
      ¬LIGHT ≤ ((skinHelper.run skinCalls).sensor_status_map_ 0).prev_hot_severity) := by
  have hmem : ((0 : Nat), skin) ∈ skinHelper.sensors := List.mem_cons_self
  have hswitches := fun calls =>
    (severity_switches hmem skin_hotSeparate skin_coldSeparate calls).1
  exact ⟨(hswitches _ SEVERE (by decide) 50 rfl).mpr (by decide),
    (hswitches _ LIGHT (by decide) 40 rfl).mpr (by decide),
    fun hle => absurd ((hswitches _ LIGHT (by decide) 40 rfl).mp hle) (by decide)⟩

theorem told_each_change_skin :
    (NONE :: (skinHelper.run skinCalls).told 0).IsChain (· ≠ ·) ∧
      (NONE :: (skinHelper.run skinCalls).told 0).getLast? = some NONE := by
  have hmem : ((0 : Nat), skin) ∈ skinHelper.sensors := List.mem_cons_self
  obtain ⟨hchain, hlast⟩ := told_each_change hmem skinCalls
  have hnow : ((skinHelper.run skinCalls).sensor_status_map_ 0).severity = NONE := by decide
  exact ⟨hchain, hlast.trans (congrArg some hnow)⟩

end ThermalHelper

end AwHal.Thermal
