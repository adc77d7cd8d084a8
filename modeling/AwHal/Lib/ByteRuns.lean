import AwHal.Lib.ByteMemory
import Mathlib.Algebra.BigOperators.Group.List.Basic

/-!
# Elements one after the other

A record in memory is a sequence of runs of elements of one width.  Loops that go over the elements of
a run, records that follow each other in a buffer, and the order of the bytes of an element.
-/

namespace AwHal.Lib

/-! ## Loops over the elements of a run -/

namespace Memory

/-- `f` is applied to the bytes of `count` elements, in place. -/
def mapElems (width : Nat) (f : List UInt8 → List UInt8) : Nat → Nat → Memory → Memory
  | 0, _, m => m
  | count + 1, addr, m =>
      mapElems width f count (addr + width) (m.store addr (f (m.load addr width)))

section

variable {width addr x : Nat} {f : List UInt8 → List UInt8}
  (hf : ∀ bytes, bytes.length = width → (f bytes).length = width)

include hf

theorem mapElems_outside (count : Nat) (hx : x < addr ∨ addr + width * count ≤ x) (m : Memory) :
    mapElems width f count addr m x = m x := by
  induction count generalizing addr m with
  | zero => rfl
  | succ count ih =>
      have hlen : (f (m.load addr width)).length = width := hf _ (length_load m addr width)
      have hmul : width * (count + 1) = width * count + width := Nat.mul_succ width count
      rw [mapElems, ih (by omega)]
      apply store_outside
      omega

theorem load_mapElems {count i : Nat} (hi : i < count) (m : Memory) :
    (mapElems width f count addr m).load (addr + width * i) width =
      f (m.load (addr + width * i) width) := by
  induction count generalizing addr i m with
  | zero => exact absurd hi (Nat.not_lt_zero i)
  | succ count ih =>
      have hlen : (f (m.load addr width)).length = width := hf _ (length_load m addr width)
      rw [mapElems]
      cases i with
      | zero =>
          -- the rest of the loop is behind the first element
          rw [Nat.mul_zero, Nat.add_zero]
          have hrest : (mapElems width f count (addr + width)
              (m.store addr (f (m.load addr width)))).load addr width =
              (m.store addr (f (m.load addr width))).load addr width := by
            apply load_congr
            intro x _ hx
            exact mapElems_outside hf count (.inl hx) _
          have hstored := load_store m addr (f (m.load addr width))
          rw [hlen] at hstored
          rw [hrest, hstored]
      | succ i =>
          have haddr : addr + width * (i + 1) = addr + width + width * i := by
            rw [Nat.mul_succ]
            omega
          rw [haddr, ih (Nat.lt_of_succ_lt_succ hi)]
          congr 1
          apply load_congr
          intro x hx _
          apply store_outside
          omega

theorem mapElems_inside {count i j : Nat} (hi : i < count) (hj : j < width) (m : Memory) :
    mapElems width f count addr m (addr + (width * i + j)) =
      (f (m.load (addr + width * i) width)).getD j 0 := by
  have hload : (mapElems width f count addr m).load (addr + width * i) width = _ :=
    load_mapElems hf hi m
  rw [← hload, load, List.getD_eq_getElem _ _ (by simpa using hj)]
  simp [Nat.add_assoc]

end

theorem load_getElem (m : Memory) (addr len : Nat) {i : Nat} (hi : i < (m.load addr len).length) :
    (m.load addr len)[i] = m (addr + i) := by
  simp [load]

theorem drop_load (m : Memory) (addr len n : Nat) :
    (m.load addr len).drop n = m.load (addr + n) (len - n) := by
  apply List.ext_getElem
  · simp
  · intro i hi hi'
    rw [List.getElem_drop, load_getElem, load_getElem, Nat.add_assoc]

theorem store_load_inside (m m' : Memory) (addr addr' : Nat) {len k : Nat} (hk : k < len) :
    m.store addr (m'.load addr' len) (addr + k) = m' (addr' + k) := by
  rw [store_inside (by simpa using hk), load_getElem]

theorem store_load (m : Memory) (addr len : Nat) : m.store addr (m.load addr len) = m := by
  funext x
  by_cases hx : x < addr ∨ addr + (m.load addr len).length ≤ x
  · exact store_outside hx
  · have hi : x - addr < (m.load addr len).length := by omega
    have heq : m.store addr (m.load addr len) (addr + (x - addr)) = _ := store_inside hi
    rw [Nat.add_sub_cancel' (by omega), load_getElem] at heq
    rw [heq]
    congr 1
    omega

end Memory

/-! ## Runs -/

structure Run where
  width : Nat
  count : Nat
deriving DecidableEq, Repr

def Run.length (r : Run) : Nat := r.width * r.count

def extent (runs : List Run) : Nat := (runs.map Run.length).sum

@[simp] theorem extent_nil : extent [] = 0 := rfl

@[simp] theorem extent_cons (r : Run) (runs : List Run) :
    extent (r :: runs) = r.length + extent runs := rfl

theorem extent_append (runs more : List Run) :
    extent (runs ++ more) = extent runs + extent more := by
  rw [extent, extent, extent, List.map_append, List.sum_append]

/-- The bytes of every element are reversed. -/
def reverseRuns : List Run → Nat → Memory → Memory
  | [], _, m => m
  | r :: runs, addr, m =>
      reverseRuns runs (addr + r.length) (m.mapElems r.width List.reverse r.count addr)

/-- Where the byte at `x` comes from. -/
def runsIndex : List Run → Nat → Nat → Nat
  | [], _, x => x
  | r :: runs, addr, x =>
      if x < addr then x
      else if x < addr + r.length then
        addr + (x - addr) / r.width * r.width + (r.width - 1 - (x - addr) % r.width)
      else runsIndex runs (addr + r.length) x

theorem runsIndex_below {runs : List Run} {addr x : Nat} (hx : x < addr) :
    runsIndex runs addr x = x := by
  cases runs with
  | nil => rfl
  | cons r runs => rw [runsIndex, if_pos hx]

theorem runsIndex_behind {runs : List Run} {addr x : Nat} (hx : addr + extent runs ≤ x) :
    runsIndex runs addr x = x := by
  induction runs generalizing addr with
  | nil => rfl
  | cons r runs ih =>
      rw [extent_cons] at hx
      rw [runsIndex, if_neg (by omega), if_neg (by omega), ih (by omega)]

theorem element_lt {width count i j : Nat} (hi : i < count) (hj : j < width) :
    width * i + j < width * count := by
  have := Nat.mul_le_mul_left width (Nat.succ_le_of_lt hi)
  rw [Nat.mul_succ] at this
  omega

/-- Byte `j` of element `i` of a run comes from the other end of the element. -/
theorem runsIndex_single {width count addr i j : Nat} (hi : i < count) (hj : j < width) :
    runsIndex [⟨width, count⟩] addr (addr + (width * i + j)) =
      addr + (width * i + (width - 1 - j)) := by
  have hpos : 0 < width := by omega
  have hlt := element_lt hi hj
  have hdiv : (width * i + j) / width = i := by
    rw [Nat.mul_add_div hpos, Nat.div_eq_of_lt hj, Nat.add_zero]
  have hmod : (width * i + j) % width = j := by
    rw [Nat.mul_add_mod, Nat.mod_eq_of_lt hj]
  rw [runsIndex, if_neg (by omega), if_pos (by simpa [Run.length] using hlt),
    Nat.add_sub_cancel_left]
  show addr + (width * i + j) / width * width + (width - 1 - (width * i + j) % width) = _
  rw [hdiv, hmod, Nat.mul_comm width]
  omega

/-- Every byte of a run is a byte of one of its elements. -/
theorem exists_element {width count addr x : Nat} (hlo : addr ≤ x)
    (hhi : x < addr + width * count) :
    ∃ i j, i < count ∧ j < width ∧ x = addr + (width * i + j) := by
  have hlt : x - addr < width * count := by omega
  have hpos : 0 < width := Nat.pos_of_ne_zero fun h => by simp [h] at hlt
  refine ⟨(x - addr) / width, (x - addr) % width, ?_, Nat.mod_lt _ hpos, ?_⟩
  · apply (Nat.div_lt_iff_lt_mul hpos).mpr
    rw [Nat.mul_comm]
    exact hlt
  · rw [Nat.div_add_mod]
    omega

theorem mapElems_reverse (width count addr : Nat) (m : Memory) (x : Nat) :
    m.mapElems width List.reverse count addr x = m (runsIndex [⟨width, count⟩] addr x) := by
  have hf : ∀ bytes : List UInt8, bytes.length = width → bytes.reverse.length = width :=
    fun _ h => List.length_reverse.trans h
  by_cases hx : x < addr ∨ addr + width * count ≤ x
  · rw [Memory.mapElems_outside hf count hx]
    rcases hx with hx | hx
    · rw [runsIndex_below hx]
    · rw [runsIndex_behind (by simpa [Run.length] using hx)]
  · obtain ⟨i, j, hi, hj, rfl⟩ := exists_element (by omega : addr ≤ x)
      (by omega : x < addr + width * count)
    rw [Memory.mapElems_inside hf hi hj, runsIndex_single hi hj,
      List.getD_eq_getElem _ _ (by simpa using hj), List.getElem_reverse, Memory.load_getElem,
      Memory.length_load, Nat.add_assoc]

theorem Memory.mapElems_congr {width count addr x : Nat} {f : List UInt8 → List UInt8}
    (hf : ∀ bytes, bytes.length = width → (f bytes).length = width) {m m' : Memory}
    (h : ∀ x, addr ≤ x → x < addr + width * count → m x = m' x) (hlo : addr ≤ x)
    (hhi : x < addr + width * count) :
    mapElems width f count addr m x = mapElems width f count addr m' x := by
  obtain ⟨i, j, hi, hj, rfl⟩ := exists_element hlo hhi
  have hload : m.load (addr + width * i) width = m'.load (addr + width * i) width := by
    apply Memory.load_congr
    intro y hy hy'
    have hlt := element_lt hi (by omega : y - (addr + width * i) < width)
    exact h y (by omega) (by omega)
  rw [Memory.mapElems_inside hf hi hj, Memory.mapElems_inside hf hi hj, hload]

theorem runsIndex_cons_of_lt {r : Run} {runs : List Run} {addr x : Nat}
    (hx : x < addr + r.length) : runsIndex (r :: runs) addr x = runsIndex [r] addr x := by
  by_cases hlo : x < addr
  · rw [runsIndex_below hlo, runsIndex_below hlo]
  · rw [runsIndex, if_neg hlo, if_pos hx, runsIndex, if_neg hlo, if_pos hx]

theorem runsIndex_cons_of_le {r : Run} {runs : List Run} {addr x : Nat}
    (hx : addr + r.length ≤ x) :
    runsIndex (r :: runs) addr x = runsIndex runs (addr + r.length) x := by
  rw [runsIndex, if_neg (by omega), if_neg (by omega)]

theorem runsIndex_shift (runs : List Run) (base addr x : Nat) :
    runsIndex runs (base + addr) (base + x) = base + runsIndex runs addr x := by
  induction runs generalizing addr with
  | nil => rfl
  | cons r runs ih =>
      rw [runsIndex, runsIndex, Nat.add_sub_add_left, Nat.add_assoc base addr r.length, ih]
      split_ifs
      · rfl
      · omega
      · omega
      · omega
      · rw [Nat.add_assoc, Nat.add_assoc, Nat.add_assoc]
      · omega
      · omega
      · omega
      · rfl

theorem runsIndex_mem {runs : List Run} {addr x : Nat} (hlo : addr ≤ x)
    (hhi : x < addr + extent runs) :
    addr ≤ runsIndex runs addr x ∧ runsIndex runs addr x < addr + extent runs := by
  induction runs generalizing addr with
  | nil => simp at hhi; omega
  | cons r runs ih =>
      rw [extent_cons] at hhi ⊢
      by_cases hx : x < addr + r.length
      · obtain ⟨i, j, hi, hj, rfl⟩ := exists_element hlo hx
        have hlt := element_lt hi (by omega : r.width - 1 - j < r.width)
        rw [runsIndex_cons_of_lt hx, runsIndex_single hi hj]
        have : r.length = r.width * r.count := rfl
        omega
      · rw [runsIndex_cons_of_le (by omega)]
        have := ih (by omega : addr + r.length ≤ x) (by omega)
        omega

theorem le_runsIndex {runs : List Run} {addr x : Nat} (hx : addr ≤ x) :
    addr ≤ runsIndex runs addr x := by
  by_cases hend : addr + extent runs ≤ x
  · rw [runsIndex_behind hend]
    exact hx
  · exact (runsIndex_mem hx (by omega)).1

theorem runsIndex_append (runs more : List Run) (addr x : Nat) :
    runsIndex (runs ++ more) addr x =
      if x < addr + extent runs then runsIndex runs addr x
      else runsIndex more (addr + extent runs) x := by
  induction runs generalizing addr with
  | nil =>
      by_cases hx : x < addr
      · simp [runsIndex_below hx]
      · simp [hx]
  | cons r runs ih =>
      rw [List.cons_append, extent_cons]
      by_cases hx : x < addr + r.length
      · have hfirst : runsIndex (r :: runs) addr x = runsIndex [r] addr x :=
          runsIndex_cons_of_lt hx
        rw [runsIndex_cons_of_lt hx, if_pos (by omega), hfirst]
      · have hrest : runsIndex (r :: runs) addr x = runsIndex runs (addr + r.length) x :=
          runsIndex_cons_of_le (by omega)
        rw [runsIndex_cons_of_le (by omega), hrest, ih, Nat.add_assoc]

/-- Reversing twice changes nothing. -/
theorem runsIndex_involutive (runs : List Run) (addr x : Nat) :
    runsIndex runs addr (runsIndex runs addr x) = x := by
  induction runs generalizing addr with
  | nil => rfl
  | cons r runs ih =>
      by_cases hlo : x < addr
      · rw [runsIndex_below hlo, runsIndex_below hlo]
      by_cases hx : x < addr + r.length
      · obtain ⟨i, j, hi, hj, rfl⟩ := exists_element (Nat.le_of_not_lt hlo) hx
        have hj' : r.width - 1 - j < r.width := by omega
        have hlt := element_lt hi hj'
        have hin : addr + (r.width * i + (r.width - 1 - j)) < addr + r.length :=
          Nat.add_lt_add_left hlt addr
        rw [runsIndex_cons_of_lt hx, runsIndex_single hi hj, runsIndex_cons_of_lt hin,
          runsIndex_single hi hj']
        omega
      · have hrest : runsIndex (r :: runs) addr x = runsIndex runs (addr + r.length) x :=
          runsIndex_cons_of_le (by omega)
        rw [hrest, runsIndex_cons_of_le (le_runsIndex (by omega)), ih]

theorem reverseRuns_apply (runs : List Run) (addr : Nat) (m : Memory) (x : Nat) :
    reverseRuns runs addr m x = m (runsIndex runs addr x) := by
  induction runs generalizing addr m with
  | nil => rfl
  | cons r runs ih =>
      rw [reverseRuns, ih, mapElems_reverse]
      by_cases hx : x < addr + r.length
      · have hfirst : runsIndex (r :: runs) addr x = runsIndex [r] addr x :=
          runsIndex_cons_of_lt hx
        rw [runsIndex_below hx, hfirst]
      · -- the later runs move the byte within themselves, where the first one does nothing
        have hrest : runsIndex (r :: runs) addr x = runsIndex runs (addr + r.length) x :=
          runsIndex_cons_of_le (by omega)
        have hle : addr + r.length ≤ runsIndex runs (addr + r.length) x := le_runsIndex (by omega)
        have hid : runsIndex [r] addr (runsIndex runs (addr + r.length) x) =
            runsIndex runs (addr + r.length) x := runsIndex_behind (by simpa using hle)
        rw [hrest]
        exact congrArg m hid

/-! ## Runs that say the same -/

/-- Neighbouring runs of one width are joined. -/
def coalesce : List Run → List Run
  | [] => []
  | r :: runs =>
      match coalesce runs with
      | [] => [r]
      | r' :: rest =>
          if r.width = r'.width then ⟨r.width, r.count + r'.count⟩ :: rest else r :: r' :: rest

theorem runsIndex_join (width count count' : Nat) (rest : List Run) (addr x : Nat) :
    runsIndex (⟨width, count⟩ :: ⟨width, count'⟩ :: rest) addr x =
      runsIndex (⟨width, count + count'⟩ :: rest) addr x := by
  have hlen : (Run.mk width (count + count')).length =
      (Run.mk width count).length + (Run.mk width count').length := Nat.mul_add width count count'
  by_cases hlo : x < addr
  · rw [runsIndex_below hlo, runsIndex_below hlo]
  by_cases hx : x < addr + (Run.mk width count).length
  · obtain ⟨i, j, hi, hj, rfl⟩ := exists_element (Nat.le_of_not_lt hlo) hx
    rw [runsIndex_cons_of_lt hx, runsIndex_single hi hj, runsIndex_cons_of_lt (by omega),
      runsIndex_single (Nat.lt_add_right count' hi) hj]
  · rw [runsIndex_cons_of_le (by omega)]
    by_cases hx' : x < addr + (Run.mk width count).length + (Run.mk width count').length
    · obtain ⟨i, j, hi, hj, rfl⟩ : ∃ i j, i < count' ∧ j < width ∧
          x = addr + (Run.mk width count).length + (width * i + j) :=
        exists_element (Nat.le_of_not_lt hx) hx'
      have hmul : (Run.mk width count).length + width * i = width * (count + i) :=
        (Nat.mul_add width count i).symm
      rw [runsIndex_cons_of_lt hx', runsIndex_single hi hj, runsIndex_cons_of_lt (by omega),
        show addr + (Run.mk width count).length + (width * i + j) =
          addr + (width * (count + i) + j) by omega,
        runsIndex_single (Nat.add_lt_add_left hi count) hj, ← hmul, Nat.add_assoc, Nat.add_assoc]
    · rw [runsIndex_cons_of_le (by omega), runsIndex_cons_of_le (by omega), hlen, Nat.add_assoc]

/-- Elements of one byte are as they were. -/
theorem runsIndex_bytes (count addr x : Nat) : runsIndex [⟨1, count⟩] addr x = x := by
  by_cases hlo : x < addr
  · exact runsIndex_below hlo
  by_cases hhi : x < addr + 1 * count
  · obtain ⟨i, j, hi, hj, rfl⟩ := exists_element (Nat.le_of_not_lt hlo) hhi
    rw [runsIndex_single hi hj]
    omega
  · exact runsIndex_behind (by simpa [Run.length] using hhi)

theorem runsIndex_append_bytes (runs : List Run) (count addr x : Nat) :
    runsIndex (runs ++ [⟨1, count⟩]) addr x = runsIndex runs addr x := by
  rw [runsIndex_append, runsIndex_bytes]
  split
  · rfl
  · rw [runsIndex_behind (by omega)]

theorem runsIndex_coalesce (runs : List Run) (addr x : Nat) :
    runsIndex (coalesce runs) addr x = runsIndex runs addr x := by
  have hcons : ∀ (r : Run) (runs more : List Run),
      (∀ addr x, runsIndex runs addr x = runsIndex more addr x) →
      ∀ addr x, runsIndex (r :: runs) addr x = runsIndex (r :: more) addr x := by
    intro r runs more h addr x
    simp only [runsIndex, h]
  induction runs generalizing addr x with
  | nil => rfl
  | cons r runs ih =>
      rw [coalesce]
      split
      next heq =>
        rw [heq] at ih
        exact hcons r [] runs ih addr x
      next r' rest heq =>
        rw [heq] at ih
        rw [← hcons r (r' :: rest) runs ih addr x]
        split
        next hwidth =>
          obtain ⟨width', count'⟩ := r'
          obtain ⟨width, count⟩ := r
          subst hwidth
          rw [runsIndex_join]
        next => rfl

/-- Runs that are the same when they are joined move the same bytes. -/
theorem runsIndex_congr {runs runs' : List Run} (h : coalesce runs = coalesce runs')
    (addr x : Nat) : runsIndex runs addr x = runsIndex runs' addr x := by
  rw [← runsIndex_coalesce, h, runsIndex_coalesce]

theorem extent_coalesce (runs : List Run) : extent (coalesce runs) = extent runs := by
  induction runs with
  | nil => rfl
  | cons r runs ih =>
      rw [coalesce]
      split
      next heq =>
        rw [extent_cons, extent_cons, ← ih, heq]
      next r' rest heq =>
        rw [heq, extent_cons] at ih
        rw [extent_cons, ← ih]
        split
        next hwidth =>
          have hlen : (Run.mk r.width (r.count + r'.count)).length = r.length + r'.length := by
            show r.width * (r.count + r'.count) = r.width * r.count + r'.width * r'.count
            rw [Nat.mul_add, hwidth]
          rw [extent_cons, hlen, Nat.add_assoc]
        next => rfl

/-! ## Records one after the other -/

section

variable {ι : Type} (size : ι → Nat) (op : ι → Nat → Memory → Memory)

def walk : List ι → Nat → Memory → Memory
  | [], _, m => m
  | i :: records, addr, m => walk records (addr + size i) (op i addr m)

def total (records : List ι) : Nat := (records.map size).sum

/-- The operation stays within its record, and looks nowhere else. -/
structure Confined : Prop where
  outside : ∀ i addr m x, x < addr ∨ addr + size i ≤ x → op i addr m x = m x
  inside : ∀ i addr m m', (∀ x, addr ≤ x → x < addr + size i → m x = m' x) →
    ∀ x, addr ≤ x → x < addr + size i → op i addr m x = op i addr m' x

variable {size op}

@[simp] theorem total_cons (i : ι) (records : List ι) :
    total size (i :: records) = size i + total size records := rfl

theorem walk_append (records more : List ι) (addr : Nat) (m : Memory) :
    walk size op (records ++ more) addr m =
      walk size op more (addr + total size records) (walk size op records addr m) := by
  induction records generalizing addr m with
  | nil => rfl
  | cons i records ih => rw [List.cons_append, walk, ih, walk, total_cons, Nat.add_assoc]

theorem walk_outside (h : Confined size op) {records : List ι} {addr x : Nat}
    (hx : x < addr ∨ addr + total size records ≤ x) (m : Memory) :
    walk size op records addr m x = m x := by
  induction records generalizing addr m with
  | nil => rfl
  | cons i records ih =>
      rw [total_cons] at hx
      rw [walk, ih (by omega), h.outside i addr m x (by omega)]

theorem walk_inside (h : Confined size op) {records more : List ι} {i : ι} {addr x : Nat}
    (hlo : addr + total size records ≤ x) (hhi : x < addr + total size records + size i)
    (m : Memory) :
    walk size op (records ++ i :: more) addr m x = op i (addr + total size records) m x := by
  -- the records behind do not touch it, those before have not touched it
  rw [walk_append, walk, walk_outside h (.inl hhi)]
  apply h.inside _ _ _ _ _ x hlo hhi
  intro y hy _
  exact walk_outside h (.inr hy) m

/-- Within a record, two walks are the operation done twice. -/
theorem walk_walk_inside (h : Confined size op) {records more : List ι} {i : ι} {addr x : Nat}
    (hlo : addr + total size records ≤ x) (hhi : x < addr + total size records + size i)
    (m : Memory) :
    walk size op (records ++ i :: more) addr (walk size op (records ++ i :: more) addr m) x =
      op i (addr + total size records) (op i (addr + total size records) m) x := by
  rw [walk_inside h hlo hhi]
  apply h.inside _ _ _ _ _ x hlo hhi
  intro y hy hy'
  exact walk_inside h hy hy' m

end

/-! ## Where a record is -/

section

variable {ι : Type} [DecidableEq ι] (size : ι → Nat)

/-- Where the first record of a name starts. -/
def place : List ι → ι → Nat
  | [], _ => 0
  | j :: records, i => if j = i then 0 else size j + place records i

variable {size} {records : List ι} {i j : ι}

theorem place_disjoint (hi : i ∈ records) (hj : j ∈ records) (hne : i ≠ j) :
    place size records i + size i ≤ place size records j ∨
      place size records j + size j ≤ place size records i := by
  induction records with
  | nil => cases hi
  | cons k records ih =>
      rw [place, place]
      by_cases hki : k = i
      · rw [if_pos hki, if_neg (fun hkj => hne (hki.symm.trans hkj)), hki]
        omega
      · by_cases hkj : k = j
        · rw [if_neg hki, if_pos hkj, hkj]
          omega
        · rw [if_neg hki, if_neg hkj]
          have := ih ((List.mem_cons.mp hi).resolve_left (Ne.symm hki))
            ((List.mem_cons.mp hj).resolve_left (Ne.symm hkj))
          omega

end

end AwHal.Lib
