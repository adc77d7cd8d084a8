import Mathlib.Data.Nat.ModEq
import Mathlib.Order.MinMax
import AwHal.Lib.ByteMemory
import AwHal.Lib.SlotRing

/-!
# The events of the acceleration sensor

The input device gives axis values and, after them, a synchronisation.  `InputEventCircularReader`
keeps what is read in a ring (`InputEventReader.cpp`), and `AccelSensor::readEvents` makes sensor
events of it (`AccelSensor.cpp`), as many as the caller has room for.
-/

namespace AwHal.Sensors

open AwHal.Lib

structure InputEvent where
  /-- In nanoseconds. -/
  time : Int
  type : Nat
  code : Nat
  value : Int
deriving DecidableEq, Repr, Inhabited

/-- `struct input_event` of the platform: its size and how its bytes are read. -/
structure InputEventLayout where
  size : Nat
  ofBytes : List UInt8 → InputEvent
  size_pos : 0 < size

def InputEventLayout.events (L : InputEventLayout) (bytes : List UInt8) : List InputEvent :=
  (List.range (bytes.length / L.size)).map fun k =>
    L.ofBytes ((bytes.drop (L.size * k)).take L.size)

theorem InputEventLayout.length_events (L : InputEventLayout) (bytes : List UInt8) :
    (L.events bytes).length = bytes.length / L.size := by
  simp [InputEventLayout.events]

theorem InputEventLayout.events_append (L : InputEventLayout) {a : List UInt8}
    (ha : L.size ∣ a.length) (b : List UInt8) : L.events (a ++ b) = L.events a ++ L.events b := by
  have hcount : (a ++ b).length / L.size = a.length / L.size + b.length / L.size := by
    rw [List.length_append, Nat.add_div_of_dvd_right ha]
  rw [events, events, events, hcount, List.range_add, List.map_append, List.map_map]
  congr 1
  · refine List.map_congr_left fun k hk => ?_
    have hin : L.size * (k + 1) ≤ a.length :=
      (Nat.mul_le_mul_left _ (List.mem_range.mp hk)).trans (Nat.mul_div_le _ _)
    rw [Nat.mul_succ] at hin
    rw [List.drop_append_of_le_length (by omega),
      List.take_append_of_le_length (by rw [List.length_drop]; omega)]
  · refine List.map_congr_left fun k _ => ?_
    rw [Function.comp_apply, Nat.mul_add, Nat.mul_div_cancel' ha, List.drop_append,
      List.drop_eq_nil_of_le (Nat.le_add_right _ _), List.nil_append, Nat.add_sub_cancel_left]

theorem dvd_min {a b d : Nat} (ha : d ∣ a) (hb : d ∣ b) : d ∣ min a b := by
  rcases min_choice a b with hmin | hmin
  · rwa [hmin]
  · rwa [hmin]

/-- A read of whole events leaves whole events. -/
theorem InputEventLayout.events_split (L : InputEventLayout) {bytes : List UInt8} {n : Nat}
    (hbytes : L.size ∣ bytes.length) (hn : L.size ∣ n) :
    L.size ∣ (bytes.take n).length ∧ L.size ∣ (bytes.drop n).length ∧
      L.events bytes = L.events (bytes.take n) ++ L.events (bytes.drop n) := by
  have htake : L.size ∣ (bytes.take n).length := by
    rw [List.length_take]
    exact dvd_min hn hbytes
  refine ⟨htake, ?_, ?_⟩
  · rw [List.length_drop]
    exact Nat.dvd_sub hbytes hn
  · rw [← L.events_append htake, List.take_append_drop]

def EV_SYN : Nat := 0
def EV_KEY : Nat := 1
def EV_REL : Nat := 2
def EV_ABS : Nat := 3

def ACC_EVENT_X : Nat := 0
def ACC_EVENT_Y : Nat := 1
def ACC_EVENT_Z : Nat := 2

def EINVAL : Int := 22

/-! ## The reader -/

/-- There are `2 * numEvents` cells: the second half takes what a read writes past the end of the
ring. -/
structure InputEventCircularReader where
  mBuffer : Nat → InputEvent := fun _ => default
  mHead : Nat := 0
  mCurr : Nat := 0
  mFreeSpace : Nat

namespace InputEventCircularReader

variable (numEvents : Nat)

def readInto (r : InputEventCircularReader) (events : List InputEvent) (i : Nat) : InputEvent :=
  if r.mHead ≤ i ∧ i < r.mHead + events.length then events.getD (i - r.mHead) default
  else r.mBuffer i

def store (r : InputEventCircularReader) (events : List InputEvent) : InputEventCircularReader :=
  let head := r.mHead + events.length
  let buffer := r.readInto events
  if numEvents < head then
    { r with
      mBuffer := fun i => if i < head - numEvents then buffer (numEvents + i) else buffer i
      mHead := head - numEvents
      mFreeSpace := r.mFreeSpace - events.length }
  else
    { r with mBuffer := buffer, mHead := head, mFreeSpace := r.mFreeSpace - events.length }

def next (r : InputEventCircularReader) : InputEventCircularReader :=
  { r with
    mCurr := nextSlot numEvents r.mCurr
    mFreeSpace := r.mFreeSpace + 1 }

/-- The result of `read`: the negative result's `errno`, or how many bytes there are at most. -/
abbrev ReadResult : Type := Except Int Nat

/-- Gives the result, the reader and what is left in the device. -/
def fill (L : InputEventLayout) (r : InputEventCircularReader) (device : List UInt8)
    (fd : ReadResult) : Int × InputEventCircularReader × List UInt8 :=
  if 0 < r.mFreeSpace then
    match fd with
    | .error errno => (-errno, r, device)
    | .ok most =>
        let nread := min most (r.mFreeSpace * L.size)
        let bytes := device.take nread
        -- with a partial event the whole ones in front of it are dropped as well
        if bytes.length = 0 ∨ bytes.length % L.size ≠ 0 then (-EINVAL, r, device.drop nread)
        else
          ((bytes.length / L.size : Nat), r.store numEvents (L.events bytes), device.drop nread)
  else (0, r, device)

end InputEventCircularReader

/-! ## The sensor -/

structure SensorsEvent (F : Type) where
  x : F
  y : F
  z : F
  timestamp : Int
deriving DecidableEq, Repr

/-- The products of a value with the factors of the configuration. -/
structure AccelConfig (F : Type) where
  direct_x : Int → F
  direct_y : Int → F
  direct_z : Int → F
  direct_xy : Bool

structure AccelSensor (F : Type) where
  mPendingMask : Bool := false
  mPendingEvent : SensorsEvent F
deriving DecidableEq, Repr

namespace AccelSensor

variable {F : Type} (cfg : AccelConfig F)

def processEvent (code : Nat) (value : Int) (s : AccelSensor F) : AccelSensor F :=
  if code = ACC_EVENT_X then
    if cfg.direct_xy then
      { s with
        mPendingMask := true
        mPendingEvent := { s.mPendingEvent with y := cfg.direct_y value } }
    else
      { s with
        mPendingMask := true
        mPendingEvent := { s.mPendingEvent with x := cfg.direct_x value } }
  else if code = ACC_EVENT_Y then
    if cfg.direct_xy then
      { s with
        mPendingMask := true
        mPendingEvent := { s.mPendingEvent with x := cfg.direct_x value } }
    else
      { s with
        mPendingMask := true
        mPendingEvent := { s.mPendingEvent with y := cfg.direct_y value } }
  else if code = ACC_EVENT_Z then
    { s with
      mPendingMask := true
      mPendingEvent := { s.mPendingEvent with z := cfg.direct_z value } }
  else s

def pass (s : AccelSensor F) (event : InputEvent) : AccelSensor F × List (SensorsEvent F) :=
  if event.type = EV_ABS ∨ event.type = EV_REL ∨ event.type = EV_KEY then
    (processEvent cfg event.code event.value s, [])
  else if event.type = EV_SYN then
    if s.mPendingMask then
      let pending := { s.mPendingEvent with timestamp := event.time }
      ({ mPendingMask := false, mPendingEvent := pending }, [pending])
    else (s, [])
  else (s, [])

/-- The loop of `readEvents`, with the number of events in the ring: each pass calls `next` once.
Gives the reader, the sensor and the sensor events. -/
def readLoop (numEvents : Nat) (count : Nat) :
    Nat → InputEventCircularReader → AccelSensor F →
      InputEventCircularReader × AccelSensor F × List (SensorsEvent F)
  | 0, r, s => (r, s, [])
  | available + 1, r, s =>
      if count = 0 then (r, s, [])
      else
        let (s, data) := s.pass cfg (r.mBuffer r.mCurr)
        let (r, s, rest) := readLoop numEvents (count - data.length) available (r.next numEvents) s
        (r, s, data ++ rest)

end AccelSensor

/-! ## Runs -/

/-- A call of `readEvents`, after some events have arrived at the device. -/
structure Call where
  arrived : List UInt8
  fd : InputEventCircularReader.ReadResult
  count : Int

structure State (F : Type) where
  device : List UInt8 := []
  reader : InputEventCircularReader
  sensor : AccelSensor F
  /-- What the callers have been given so far. -/
  delivered : List (SensorsEvent F) := []
  ret : Int := 0

/-- The device only has whole events to give, as input devices do. -/
def Call.WholeEvents (L : InputEventLayout) (call : Call) : Prop :=
  L.size ∣ call.arrived.length ∧ ∀ most, call.fd = .ok most → L.size ∣ most

variable {F : Type} (L : InputEventLayout) (cfg : AccelConfig F) (numEvents : Nat)

def readEvents (s : State F) (call : Call) : State F :=
  let device := s.device ++ call.arrived
  if call.count < 1 then { s with device := device, ret := -EINVAL }
  else
    let (n, reader, device) := s.reader.fill numEvents L device call.fd
    if n < 0 then { s with device := device, reader := reader, ret := n }
    else
      let (reader, sensor, data) := AccelSensor.readLoop cfg numEvents call.count.toNat
        (numEvents - reader.mFreeSpace) reader s.sensor
      { device := device
        reader := reader
        sensor := sensor
        delivered := s.delivered ++ data
        ret := data.length }

/-- The pending event is all zero at first. -/
def start (zero : F) : State F where
  reader := { mFreeSpace := numEvents }
  sensor := { mPendingEvent := ⟨zero, zero, zero, 0⟩ }

def run (zero : F) (calls : List Call) : State F :=
  calls.foldl (readEvents L cfg numEvents) (start numEvents zero)

/-! ## What is in the ring -/

namespace InputEventCircularReader

variable {numEvents : Nat} {r : InputEventCircularReader} {events : List InputEvent}

def contents (numEvents : Nat) (r : InputEventCircularReader) : List InputEvent :=
  (List.range (numEvents - r.mFreeSpace)).map fun k => r.mBuffer (slotAfter numEvents r.mCurr k)

/-- The head may stand at the end of the ring. -/
structure Fits (numEvents : Nat) (r : InputEventCircularReader) : Prop where
  curr_lt : r.mCurr < numEvents
  free_le : r.mFreeSpace ≤ numEvents
  head_le : r.mHead ≤ numEvents
  head_mod : r.mHead % numEvents = slotAfter numEvents r.mCurr (numEvents - r.mFreeSpace)

theorem length_contents : (r.contents numEvents).length = numEvents - r.mFreeSpace := by
  simp [contents]

theorem store_new (h : r.Fits numEvents) (hlen : events.length ≤ r.mFreeSpace) {j : Nat}
    (hj : j < events.length) :
    (r.store numEvents events).mBuffer ((r.mHead + j) % numEvents) = events.getD j default := by
  have hfree := h.free_le
  have hhead := h.head_le
  have hread : r.readInto events (r.mHead + j) = events.getD j default := by
    rw [readInto, if_pos ⟨by omega, by omega⟩, Nat.add_sub_cancel_left]
  unfold store
  dsimp only
  rcases Nat.lt_or_ge (r.mHead + j) numEvents with hlt | hge
  · rw [Nat.mod_eq_of_lt hlt]
    split
    · rw [← hread]
      exact if_neg (by omega)
    · exact hread
  · -- past the end of the ring, so that it is copied to the front
    have hmod : (r.mHead + j) % numEvents = r.mHead + j - numEvents := by
      rw [Nat.mod_eq_sub_mod hge, Nat.mod_eq_of_lt (by omega)]
    rw [hmod, if_pos (by omega)]
    dsimp only
    rw [if_pos (by omega), Nat.add_sub_cancel' hge, hread]

theorem store_old (h : r.Fits numEvents) {i : Nat} (hi : i < numEvents)
    (hother : ∀ j < events.length, (r.mHead + j) % numEvents ≠ i) :
    (r.store numEvents events).mBuffer i = r.mBuffer i := by
  have hfree := h.free_le
  have hhead := h.head_le
  have hread : r.readInto events i = r.mBuffer i := by
    refine if_neg fun ⟨hle, hlt⟩ => hother (i - r.mHead) (by omega) ?_
    rw [Nat.add_sub_cancel' hle, Nat.mod_eq_of_lt hi]
  unfold store
  dsimp only
  split
  · dsimp only
    split
    · refine absurd ?_ (hother (numEvents + i - r.mHead) (by omega))
      rw [Nat.add_sub_cancel' (by omega), Nat.add_mod_left, Nat.mod_eq_of_lt hi]
    · exact hread
  · exact hread

theorem store_mCurr : (r.store numEvents events).mCurr = r.mCurr := by
  unfold store
  dsimp only
  split <;> rfl

theorem store_mFreeSpace :
    (r.store numEvents events).mFreeSpace = r.mFreeSpace - events.length := by
  unfold store
  dsimp only
  split <;> rfl

theorem Fits.store (h : r.Fits numEvents) (hlen : events.length ≤ r.mFreeSpace) :
    (r.store numEvents events).Fits numEvents := by
  have hfree := h.free_le
  have hhead := h.head_le
  have hcount : numEvents - (r.mFreeSpace - events.length) =
      numEvents - r.mFreeSpace + events.length := by omega
  have hmod : (r.mHead + events.length) % numEvents =
      slotAfter numEvents r.mCurr (numEvents - (r.mFreeSpace - events.length)) := by
    rw [hcount, ← slotAfter_slotAfter, ← h.head_mod, slotAfter, Nat.mod_add_mod]
  refine ⟨?_, ?_, ?_, ?_⟩
  · rw [store_mCurr]
    exact h.curr_lt
  · rw [store_mFreeSpace]
    omega
  · unfold InputEventCircularReader.store
    dsimp only
    split
    · show r.mHead + events.length - numEvents ≤ numEvents
      omega
    · show r.mHead + events.length ≤ numEvents
      omega
  · rw [store_mCurr, store_mFreeSpace, ← hmod]
    unfold InputEventCircularReader.store
    dsimp only
    split
    · rename_i hlt
      show (r.mHead + events.length - numEvents) % numEvents = _
      rw [← Nat.mod_eq_sub_mod (Nat.le_of_lt hlt)]
    · rfl

/-- What is read goes behind what is in the ring. -/
theorem Fits.contents_store (h : r.Fits numEvents) (hlen : events.length ≤ r.mFreeSpace) :
    (r.store numEvents events).contents numEvents = r.contents numEvents ++ events := by
  have hfree := h.free_le
  have hslot : ∀ j, (r.mHead + j) % numEvents =
      slotAfter numEvents r.mCurr (numEvents - r.mFreeSpace + j) := by
    intro j
    rw [← slotAfter_slotAfter, ← h.head_mod, slotAfter, Nat.mod_add_mod]
  have hcount : numEvents - (r.mFreeSpace - events.length) =
      numEvents - r.mFreeSpace + events.length := by omega
  rw [contents, store_mCurr, store_mFreeSpace, hcount, List.range_add, List.map_append,
    List.map_map]
  congr 1
  · refine List.map_congr_left fun k hk => ?_
    have hk := List.mem_range.mp hk
    have hn : 0 < numEvents := by omega
    refine store_old h (slotAfter_lt hn) fun j hj => ?_
    rw [hslot]
    exact (slotAfter_ne (by omega) (by omega)).symm
  · refine List.ext_getElem (by simp) fun j hj hj' => ?_
    rw [List.getElem_map, List.getElem_range, Function.comp_apply, ← hslot, store_new h hlen hj',
      List.getD_eq_getElem?_getD, List.getElem?_eq_getElem hj', Option.getD_some]

theorem Fits.next (h : r.Fits numEvents) (hsome : r.mFreeSpace < numEvents) :
    (r.next numEvents).Fits numEvents := by
  have hcurr := h.curr_lt
  refine ⟨?_, hsome, h.head_le, ?_⟩
  · show nextSlot numEvents r.mCurr < numEvents
    rw [nextSlot_eq hcurr]
    exact slotAfter_lt (by omega)
  · show r.mHead % numEvents =
      slotAfter numEvents (nextSlot numEvents r.mCurr) (numEvents - (r.mFreeSpace + 1))
    have hone : 1 + (numEvents - (r.mFreeSpace + 1)) = numEvents - r.mFreeSpace := by omega
    rw [nextSlot_eq hcurr, slotAfter_slotAfter, hone]
    exact h.head_mod

theorem Fits.contents_next (h : r.Fits numEvents) (hsome : r.mFreeSpace < numEvents) :
    r.contents numEvents = r.mBuffer r.mCurr :: (r.next numEvents).contents numEvents := by
  have hcurr := h.curr_lt
  have hone : numEvents - r.mFreeSpace = (numEvents - (r.mFreeSpace + 1)) + 1 := by omega
  rw [contents, hone, List.range_succ_eq_map, List.map_cons, List.map_map, slotAfter_zero hcurr]
  congr 1
  refine List.map_congr_left fun k _ => ?_
  show r.mBuffer (slotAfter numEvents r.mCurr (k + 1)) =
    r.mBuffer (slotAfter numEvents (nextSlot numEvents r.mCurr) k)
  rw [nextSlot_eq hcurr, slotAfter_slotAfter, Nat.add_comm 1 k]

theorem length_take_events (L : InputEventLayout) (device : List UInt8) (most free : Nat) :
    (L.events (device.take (min most (free * L.size)))).length ≤ free := by
  rw [L.length_events, List.length_take]
  have hle : min (min most (free * L.size)) device.length ≤ free * L.size := by omega
  exact (Nat.div_le_div_right hle).trans_eq (Nat.mul_div_cancel free L.size_pos)

theorem Fits.fill (h : r.Fits numEvents) (L : InputEventLayout) (device : List UInt8)
    (fd : ReadResult) : (r.fill numEvents L device fd).2.1.Fits numEvents := by
  unfold InputEventCircularReader.fill
  by_cases hfree : 0 < r.mFreeSpace
  · rw [if_pos hfree]
    cases fd with
    | error errno => exact h
    | ok most =>
        dsimp only
        split
        · exact h
        · exact h.store (length_take_events L device most r.mFreeSpace)
  · rw [if_neg hfree]
    exact h

/-- `fill` moves whole events from the device to the ring; none is lost. -/
theorem Fits.contents_fill (h : r.Fits numEvents) {L : InputEventLayout} {device : List UInt8}
    (hdevice : L.size ∣ device.length) {fd : ReadResult}
    (hfd : ∀ most, fd = .ok most → L.size ∣ most) :
    L.size ∣ (r.fill numEvents L device fd).2.2.length ∧
      (r.fill numEvents L device fd).2.1.contents numEvents ++
          L.events (r.fill numEvents L device fd).2.2 =
        r.contents numEvents ++ L.events device := by
  unfold InputEventCircularReader.fill
  by_cases hfree : 0 < r.mFreeSpace
  · rw [if_pos hfree]
    cases fd with
    | error errno => exact ⟨hdevice, rfl⟩
    | ok most =>
        have hmost := hfd most rfl
        have hlen := length_take_events L device most r.mFreeSpace
        dsimp only
        generalize hnread : min most (r.mFreeSpace * L.size) = nread at hlen ⊢
        have hdvd : L.size ∣ nread := by
          rw [← hnread]
          exact dvd_min hmost (Nat.dvd_mul_left _ _)
        obtain ⟨htake, hdrop, hsplit⟩ := L.events_split hdevice hdvd
        split
        -- whole events are never a partial one, so nothing was read
        · rename_i hnone
          have hnil : (device.take nread).length = 0 :=
            hnone.resolve_right fun hpartial => hpartial (Nat.mod_eq_zero_of_dvd htake)
          have hevents : L.events (device.take nread) = [] := by
            rw [List.length_eq_zero_iff.mp hnil]
            simp [InputEventLayout.events]
          refine ⟨hdrop, ?_⟩
          rw [hsplit, hevents, List.nil_append]
        · refine ⟨hdrop, ?_⟩
          rw [h.contents_store hlen, List.append_assoc, hsplit]
  · rw [if_neg hfree]
    exact ⟨hdevice, rfl⟩

end InputEventCircularReader

/-! ## Decoding the events -/

namespace AccelSensor

variable {cfg : AccelConfig F}

def decode (cfg : AccelConfig F) (s : AccelSensor F) :
    List InputEvent → AccelSensor F × List (SensorsEvent F)
  | [] => (s, [])
  | event :: rest =>
      ((decode cfg (s.pass cfg event).1 rest).1,
        (s.pass cfg event).2 ++ (decode cfg (s.pass cfg event).1 rest).2)

theorem decode_append (s : AccelSensor F) (l l' : List InputEvent) :
    decode cfg s (l ++ l') =
      ((decode cfg (decode cfg s l).1 l').1,
        (decode cfg s l).2 ++ (decode cfg (decode cfg s l).1 l').2) := by
  induction l generalizing s with
  | nil => rfl
  | cons event rest ih =>
      rw [List.cons_append, decode, ih, decode]
      simp only [List.append_assoc]

theorem length_pass_le (cfg : AccelConfig F) (s : AccelSensor F) (event : InputEvent) :
    (s.pass cfg event).2.length ≤ 1 := by
  unfold pass
  split
  · exact Nat.zero_le 1
  · split
    · split
      · exact Nat.le_refl 1
      · exact Nat.zero_le 1
    · exact Nat.zero_le 1

/-- The loop decodes what it takes out of the ring; it leaves something there only when there is no
room for more sensor events. -/
theorem readLoop_spec (cfg : AccelConfig F) {numEvents : Nat} {r : InputEventCircularReader}
    (h : r.Fits numEvents) (s : AccelSensor F) (count : Nat) {available : Nat}
    (havailable : numEvents - r.mFreeSpace = available) :
    ∃ taken, r.contents numEvents =
        taken ++ (readLoop cfg numEvents count available r s).1.contents numEvents ∧
      decode cfg s taken = (readLoop cfg numEvents count available r s).2 ∧
      (readLoop cfg numEvents count available r s).1.Fits numEvents ∧
      (readLoop cfg numEvents count available r s).2.2.length ≤ count ∧
      ((readLoop cfg numEvents count available r s).2.2.length < count →
        (readLoop cfg numEvents count available r s).1.contents numEvents = []) := by
  induction available generalizing r s count with
  | zero =>
      have hnil : r.contents numEvents = [] := by
        rw [InputEventCircularReader.contents, havailable]
        rfl
      exact ⟨[], rfl, rfl, h, Nat.zero_le _, fun _ => hnil⟩
  | succ available ih =>
      rw [readLoop]
      -- without room the loop leaves the ring alone
      by_cases hcount : count = 0
      · rw [if_pos hcount]
        exact ⟨[], rfl, rfl, h, Nat.zero_le _, fun hlt => absurd hlt (by omega)⟩
      · rw [if_neg hcount]
        have hsome : r.mFreeSpace < numEvents := by omega
        have hnext : numEvents - (r.next numEvents).mFreeSpace = available := by
          show numEvents - (r.mFreeSpace + 1) = available
          omega
        have hpass := length_pass_le cfg s (r.mBuffer r.mCurr)
        obtain ⟨taken, hcontents, hdecode, hfits, hlen, hrest⟩ :=
          ih (h.next hsome) (s.pass cfg (r.mBuffer r.mCurr)).1
            (count - (s.pass cfg (r.mBuffer r.mCurr)).2.length) hnext
        rcases hpassed : s.pass cfg (r.mBuffer r.mCurr) with ⟨s', data⟩
        rw [hpassed] at hpass hcontents hdecode hfits hlen hrest
        dsimp only at hpass hcontents hdecode hfits hlen hrest ⊢
        rcases hloop : readLoop cfg numEvents (count - data.length) available (r.next numEvents) s'
          with ⟨r', s'', rest⟩
        rw [hloop] at hcontents hdecode hfits hlen hrest
        dsimp only at hcontents hdecode hfits hlen hrest ⊢
        refine ⟨r.mBuffer r.mCurr :: taken, ?_, ?_, hfits, ?_, ?_⟩
        · rw [h.contents_next hsome, hcontents, List.cons_append]
        · rw [decode, hpassed, hdecode]
        · rw [List.length_append]
          omega
        · intro hlt
          rw [List.length_append] at hlt
          exact hrest (by omega)

end AccelSensor

/-! ## Runs of calls -/

variable {L : InputEventLayout} {cfg : AccelConfig F} {numEvents : Nat}

theorem fits_readEvents {s : State F} (h : s.reader.Fits numEvents) (call : Call) :
    (readEvents L cfg numEvents s call).reader.Fits numEvents := by
  unfold readEvents
  dsimp only
  split
  · exact h
  · have hfits := h.fill L (s.device ++ call.arrived) call.fd
    rcases hfill : s.reader.fill numEvents L (s.device ++ call.arrived) call.fd with
      ⟨n, reader, device⟩
    rw [hfill] at hfits
    dsimp only
    split
    · exact hfits
    · obtain ⟨-, -, -, hfits', -⟩ := AccelSensor.readLoop_spec cfg hfits s.sensor
        call.count.toNat rfl
      exact hfits'

theorem fits_start (zero : F) (hpos : 0 < numEvents) :
    (start numEvents zero).reader.Fits numEvents := by
  refine ⟨hpos, Nat.le_refl _, Nat.zero_le _, ?_⟩
  show 0 % numEvents = slotAfter numEvents 0 (numEvents - numEvents)
  rw [Nat.sub_self, slotAfter, Nat.zero_add]

theorem fits_run (L : InputEventLayout) (cfg : AccelConfig F) (zero : F) (hpos : 0 < numEvents)
    (calls : List Call) :
    (run L cfg numEvents zero calls).reader.Fits numEvents :=
  List.foldlRecOn (motive := fun s : State F => s.reader.Fits numEvents) calls _
    (fits_start zero hpos) fun _ hs call _ => fits_readEvents hs call

/-- The caller has been given what `taken` decodes to; what is not taken is in the ring or in the
device. -/
structure Decoded (L : InputEventLayout) (cfg : AccelConfig F) (numEvents : Nat)
    (first : AccelSensor F) (arrived : List UInt8) (taken : List InputEvent) (s : State F) :
    Prop where
  fits : s.reader.Fits numEvents
  arrived_whole : L.size ∣ arrived.length
  device_whole : L.size ∣ s.device.length
  arrived_eq : L.events arrived = taken ++ s.reader.contents numEvents ++ L.events s.device
  decode_eq : AccelSensor.decode cfg first taken = (s.sensor, s.delivered)

/-- One call: what it takes is decoded behind what was taken before. -/
theorem Decoded.readEvents {first : AccelSensor F} {arrived : List UInt8} {taken : List InputEvent}
    {s : State F} (h : Decoded L cfg numEvents first arrived taken s) {call : Call}
    (hcall : call.WholeEvents L) :
    ∃ more, Decoded L cfg numEvents first (arrived ++ call.arrived) (taken ++ more)
      (readEvents L cfg numEvents s call) := by
  have harrived : L.events (arrived ++ call.arrived) =
      taken ++ s.reader.contents numEvents ++ L.events (s.device ++ call.arrived) := by
    rw [L.events_append h.arrived_whole, h.arrived_eq, L.events_append h.device_whole,
      List.append_assoc _ (L.events s.device)]
  have hwhole : L.size ∣ (arrived ++ call.arrived).length := by
    rw [List.length_append]
    exact Nat.dvd_add h.arrived_whole hcall.1
  have hdevice : L.size ∣ (s.device ++ call.arrived).length := by
    rw [List.length_append]
    exact Nat.dvd_add h.device_whole hcall.1
  unfold Sensors.readEvents
  dsimp only
  by_cases hcount : call.count < 1
  · rw [if_pos hcount]
    refine ⟨[], h.fits, hwhole, hdevice, ?_, ?_⟩
    · rw [List.append_nil]
      exact harrived
    · rw [List.append_nil]
      exact h.decode_eq
  · rw [if_neg hcount]
    have hfits := h.fits.fill L (s.device ++ call.arrived) call.fd
    obtain ⟨hrest, hcontents⟩ := h.fits.contents_fill hdevice hcall.2
    rcases hfill : s.reader.fill numEvents L (s.device ++ call.arrived) call.fd with
      ⟨n, reader, device⟩
    rw [hfill] at hfits hrest hcontents
    dsimp only at hfits hrest hcontents ⊢
    rw [List.append_assoc, ← hcontents, ← List.append_assoc] at harrived
    split
    -- `fill` has failed, with the ring as it was
    · refine ⟨[], hfits, hwhole, hrest, ?_, ?_⟩
      · rw [List.append_nil]
        exact harrived
      · rw [List.append_nil]
        exact h.decode_eq
    · obtain ⟨more, hmore, hdecode, hfits', -, -⟩ :=
        AccelSensor.readLoop_spec cfg hfits s.sensor call.count.toNat rfl
      refine ⟨more, hfits', hwhole, hrest, ?_, ?_⟩
      · rw [harrived, hmore]
        simp only [List.append_assoc]
      · rw [AccelSensor.decode_append, h.decode_eq]
        dsimp only
        rw [hdecode]

theorem Decoded.start (L : InputEventLayout) (cfg : AccelConfig F) (zero : F)
    (hpos : 0 < numEvents) :
    Decoded L cfg numEvents (start numEvents zero).sensor [] [] (start numEvents zero) := by
  have hnil : (Sensors.start numEvents zero).reader.contents numEvents = [] := by
    rw [← List.length_eq_zero_iff, InputEventCircularReader.length_contents]
    exact Nat.sub_self numEvents
  refine ⟨fits_start zero hpos, Nat.dvd_zero _, Nat.dvd_zero _, ?_, rfl⟩
  rw [hnil]
  simp [InputEventLayout.events, Sensors.start]

theorem Decoded.foldl {first : AccelSensor F} {arrived : List UInt8} {taken : List InputEvent}
    {s : State F} (h : Decoded L cfg numEvents first arrived taken s) {calls : List Call}
    (hcalls : ∀ call ∈ calls, call.WholeEvents L) :
    ∃ more, Decoded L cfg numEvents first (arrived ++ calls.flatMap Call.arrived) (taken ++ more)
      (calls.foldl (Sensors.readEvents L cfg numEvents) s) := by
  induction calls generalizing arrived taken s with
  | nil =>
      refine ⟨[], ?_⟩
      rw [List.flatMap_nil, List.append_nil, List.append_nil]
      exact h
  | cons call rest ih =>
      obtain ⟨hcall, hrest⟩ := List.forall_mem_cons.mp hcalls
      obtain ⟨more, hmore⟩ := h.readEvents hcall
      obtain ⟨more', hmore'⟩ := ih hmore hrest
      refine ⟨more ++ more', ?_⟩
      rw [List.flatMap_cons, ← List.append_assoc, ← List.append_assoc]
      exact hmore'

/-- A call gives at most as many sensor events as there is room for, and leaves input events in the
ring only when the room is full. -/
theorem readEvents_ret (L : InputEventLayout) (cfg : AccelConfig F) {s : State F}
    (h : s.reader.Fits numEvents) (call : Call) :
    (readEvents L cfg numEvents s call).ret ≤ max call.count 0 ∧
      (readEvents L cfg numEvents s call).delivered.length =
        s.delivered.length + (readEvents L cfg numEvents s call).ret.toNat ∧
      (0 ≤ (readEvents L cfg numEvents s call).ret →
        (readEvents L cfg numEvents s call).ret < call.count →
          (readEvents L cfg numEvents s call).reader.contents numEvents = []) := by
  unfold readEvents
  dsimp only
  by_cases hcount : call.count < 1
  · rw [if_pos hcount]
    dsimp only
    refine ⟨Int.le_trans ?_ (Int.le_max_right _ _), rfl, fun hret => absurd hret ?_⟩
    · decide
    · decide
  · rw [if_neg hcount]
    have hfits := h.fill L (s.device ++ call.arrived) call.fd
    rcases hfill : s.reader.fill numEvents L (s.device ++ call.arrived) call.fd with
      ⟨n, reader, device⟩
    rw [hfill] at hfits
    dsimp only at hfits ⊢
    by_cases hn : n < 0
    · rw [if_pos hn]
      dsimp only
      refine ⟨by omega, ?_, fun hret => absurd hn (by omega)⟩
      rw [Int.toNat_of_nonpos (Int.le_of_lt hn), Nat.add_zero]
    · rw [if_neg hn]
      obtain ⟨-, -, -, -, hlen, hrest⟩ :=
        AccelSensor.readLoop_spec cfg hfits s.sensor call.count.toNat rfl
      rcases hloop : AccelSensor.readLoop cfg numEvents call.count.toNat
        (numEvents - reader.mFreeSpace) reader s.sensor with ⟨reader', sensor, data⟩
      rw [hloop] at hlen hrest
      dsimp only at hlen hrest ⊢
      refine ⟨by omega, ?_, fun _ hlt => hrest (by omega)⟩
      rw [List.length_append, Int.toNat_natCast]

def ACCEL_NUM_EVENTS : Nat := 16

/-- As long as the device gives whole events, no input event is lost, taken twice or taken out of
order, whatever else the reads give and however little room the callers have. -/
theorem events_decoded_in_order (L : InputEventLayout) (cfg : AccelConfig F) (zero : F)
    (calls : List Call) (hcalls : ∀ call ∈ calls, call.WholeEvents L) :
    ∃ taken, L.events (calls.flatMap Call.arrived) =
        taken ++ (run L cfg ACCEL_NUM_EVENTS zero calls).reader.contents ACCEL_NUM_EVENTS ++
          L.events (run L cfg ACCEL_NUM_EVENTS zero calls).device ∧
      AccelSensor.decode cfg (start ACCEL_NUM_EVENTS zero).sensor taken =
        ((run L cfg ACCEL_NUM_EVENTS zero calls).sensor,
          (run L cfg ACCEL_NUM_EVENTS zero calls).delivered) := by
  obtain ⟨taken, h⟩ :=
    (Decoded.start L cfg zero (by decide : 0 < ACCEL_NUM_EVENTS)).foldl hcalls
  exact ⟨taken, h.arrived_eq, h.decode_eq⟩

/-- The layout with a 64-bit `timeval`. -/
def inputEvent64 : InputEventLayout where
  size := 24
  ofBytes b :=
    { time := leValue (b.take 8) * 1000000000 + leValue ((b.drop 8).take 8) * 1000
      type := leValue ((b.drop 16).take 2)
      code := leValue ((b.drop 18).take 2)
      value := (leValue ((b.drop 20).take 4) : Int).bmod (2 ^ 32) }
  size_pos := by decide

def eventBytes (usec type code value : Nat) : List UInt8 :=
  leBytes 8 0 ++ leBytes 8 usec ++ leBytes 2 type ++ leBytes 2 code ++ leBytes 4 value

/-- Three events arrive.  The synchronisation is read after a read that fails. -/
def threeCalls : List Call :=
  [⟨eventBytes 1 EV_ABS ACC_EVENT_X 7 ++ eventBytes 2 EV_ABS ACC_EVENT_Z 9 ++
      eventBytes 3 EV_SYN 0 0, .ok 48, 1⟩, ⟨[], .error 11, 1⟩, ⟨[], .ok 384, 1⟩]

theorem events_decoded_in_order_three :
    ∃ taken, inputEvent64.events (threeCalls.flatMap Call.arrived) =
        taken ++ (run inputEvent64 ⟨id, id, id, true⟩ ACCEL_NUM_EVENTS (0 : Int)
            threeCalls).reader.contents ACCEL_NUM_EVENTS ++
          inputEvent64.events (run inputEvent64 ⟨id, id, id, true⟩ ACCEL_NUM_EVENTS (0 : Int)
            threeCalls).device ∧
      AccelSensor.decode ⟨id, id, id, true⟩ (start ACCEL_NUM_EVENTS (0 : Int)).sensor taken =
        ((run inputEvent64 ⟨id, id, id, true⟩ ACCEL_NUM_EVENTS 0 threeCalls).sensor,
          (run inputEvent64 ⟨id, id, id, true⟩ ACCEL_NUM_EVENTS 0 threeCalls).delivered) := by
  refine events_decoded_in_order inputEvent64 ⟨id, id, id, true⟩ 0 threeCalls ?_
  simp [threeCalls, Call.WholeEvents, inputEvent64, eventBytes]

example : (run inputEvent64 ⟨id, id, id, true⟩ ACCEL_NUM_EVENTS (0 : Int) threeCalls).delivered =
    [⟨0, 7, 9, 3000⟩] := by decide

/-- `pollEvents` takes a sensor that gives fewer events than there is room for as one with no more
data. -/
theorem fewer_only_if_drained (L : InputEventLayout) (cfg : AccelConfig F) (zero : F)
    (calls : List Call) (call : Call) :
    (run L cfg ACCEL_NUM_EVENTS zero (calls ++ [call])).ret ≤ max call.count 0 ∧
      (0 ≤ (run L cfg ACCEL_NUM_EVENTS zero (calls ++ [call])).ret →
        (run L cfg ACCEL_NUM_EVENTS zero (calls ++ [call])).ret < call.count →
          (run L cfg ACCEL_NUM_EVENTS zero (calls ++ [call])).reader.contents ACCEL_NUM_EVENTS =
            []) := by
  have hfits := fits_run L cfg zero (by decide : 0 < ACCEL_NUM_EVENTS) calls
  obtain ⟨hle, -, hrest⟩ := readEvents_ret L cfg hfits call
  rw [run, List.foldl_append]
  exact ⟨hle, hrest⟩

end AwHal.Sensors
