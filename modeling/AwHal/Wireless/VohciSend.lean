import AwHal.Lib.ByteMemory
import AwHal.Lib.GuardedRun
import Mathlib.Data.PNat.Basic

/-!
# Captured audio to the data socket

The loop of `vohci_send_thread` in `vohci.c`: it captures 120 bytes at 8 kHz, doubles the samples in
place if the link has 16 kHz, and calls `send` until the package is gone.  `send` takes one byte at least
and possibly fewer than it is given.
-/

namespace AwHal.Wireless.VohciSend

open AwHal.Lib

def INT32_MAX : Nat := 2147483647

structure Captured where
  bytes : List UInt8
  length_bytes : bytes.length = 120

def package_size (output_rate : UInt16) : Nat := if output_rate = 16000 then 240 else 120

def resampleAt (n : Nat) (buffer : Memory) : Memory :=
  let buffer := buffer.store (2 * (n * 2 + 0)) (buffer.load (2 * n) 2)
  buffer.store (2 * (n * 2 + 1)) (buffer.load (2 * n) 2)

/-- The loop, from the last of `count` samples down to the first. -/
def resample (count : Nat) (buffer : Memory) : Memory := (List.range count).foldr resampleAt buffer

/-- What one call of `send` has taken, and from where in the buffer. -/
structure Sent where
  offset : Nat
  bytes : List UInt8

structure Thread where
  buffer : Memory
  total : Nat := 0
  calls : Nat := 0
  sent : List Sent := []

/-- The retry loop.  `bytes` is the result of the last call. -/
def sendPackage (answers : Nat → ℕ+) (bytes needs : Nat) (t : Thread) : Thread :=
  if 0 < needs ∧ t.total < INT32_MAX then
    let result := min (answers t.calls : Nat) needs
    sendPackage answers result (needs - result)
      { t with
        total := t.total + result
        calls := t.calls + 1
        -- from the offset that the last call returned, not from the sum
        sent := t.sent ++ [⟨bytes, t.buffer.load bytes result⟩] }
  else t
termination_by needs
decreasing_by
  have hpos := (answers t.calls).pos
  omega

def iteration (output_rate : UInt16) (answers : Nat → ℕ+) (t : Thread) (captured : Captured) : Thread :=
  let t := { t with buffer := t.buffer.store 0 captured.bytes }
  let t :=
    if output_rate = 16000 then { t with buffer := resample (package_size output_rate / 2) t.buffer }
    else t
  sendPackage answers 0 (package_size output_rate) t

/-- The thread, as long as it is not stopped and `send` does not fail. -/
def vohci_send_thread (output_rate : UInt16) (answers : Nat → ℕ+) (packages : List Captured)
    (buffer : Memory) : Thread :=
  packages.foldl (iteration output_rate answers) { buffer }

/-! ## What it is for -/

def twice : List UInt8 → List UInt8
  | lo :: hi :: rest => lo :: hi :: lo :: hi :: twice rest
  | _ => []

def package (output_rate : UInt16) (captured : Captured) : List UInt8 :=
  if output_rate = 16000 then twice captured.bytes else captured.bytes

/-- The socket has got the packages in order, and nothing from outside the current one. -/
def Intact (output_rate : UInt16) (packages : List Captured) (t : Thread) : Prop :=
  t.sent.flatMap Sent.bytes = packages.flatMap (package output_rate) ∧
    ∀ s ∈ t.sent, s.offset + s.bytes.length ≤ package_size output_rate

/-- The results of the calls for a package of `needs` bytes, from call `k` on. -/
def results (answers : Nat → ℕ+) (k needs : Nat) : List Nat :=
  if 0 < needs then
    let result := min (answers k : Nat) needs
    result :: results answers (k + 1) (needs - result)
  else []
termination_by needs
decreasing_by
  have hpos := (answers k).pos
  omega

/-- Before each call fewer than `INT32_MAX` bytes are sent, and the bytes of the package at the offset of
the result before it are those at the sum of all results before it. -/
def Resumes (pkg : List UInt8) (total : Nat) (rs : List Nat) : Prop :=
  ∀ before result after, rs = before ++ result :: after →
    total + before.sum < INT32_MAX ∧
      (pkg.drop (before.getLastD 0)).take result = (pkg.drop before.sum).take result

/-! ## Samples -/

theorem load_two (m : Memory) (addr : Nat) : m.load addr 2 = [m addr, m (addr + 1)] := rfl

theorem store_two (m : Memory) (addr : Nat) (a b : UInt8) (x : Nat) :
    m.store addr [a, b] x = if x = addr then a else if x = addr + 1 then b else m x := by
  by_cases hlo : x = addr
  · rw [if_pos hlo, hlo]
    have hin : 0 < [a, b].length := Nat.two_pos
    exact Memory.store_inside hin
  · rw [if_neg hlo]
    by_cases hhi : x = addr + 1
    · rw [if_pos hhi, hhi]
      have hin : 1 < [a, b].length := Nat.one_lt_two
      exact Memory.store_inside hin
    · rw [if_neg hhi]
      apply Memory.store_outside
      simp only [List.length_cons, List.length_nil]
      omega

/-- The second copy is read where the first one may have been written, over itself. -/
theorem resampleAt_apply (n : Nat) (buffer : Memory) (x : Nat) :
    resampleAt n buffer x = if 4 * n ≤ x ∧ x < 4 * n + 4 then buffer (2 * n + x % 2) else buffer x := by
  have hsame : ∀ y, y = 2 * n ∨ y = 2 * n + 1 →
      buffer.store (2 * (n * 2 + 0)) (buffer.load (2 * n) 2) y = buffer y := by
    intro y hy
    rw [load_two, store_two]
    split
    · congr 1
      omega
    · split
      · congr 1
        omega
      · rfl
  have hload : (buffer.store (2 * (n * 2 + 0)) (buffer.load (2 * n) 2)).load (2 * n) 2 =
      [buffer (2 * n), buffer (2 * n + 1)] := by
    -- also for `n = 0`, where the first copy lies on the sample
    rw [load_two _ (2 * n), hsame _ (.inl rfl), hsame _ (.inr rfl)]
  unfold resampleAt
  rw [hload, store_two, load_two, store_two]
  split
  · rw [if_pos (by omega)]
    congr 1
    omega
  · split
    · rw [if_pos (by omega)]
      congr 1
      omega
    · split
      · rw [if_pos (by omega)]
        congr 1
        omega
      · split
        · rw [if_pos (by omega)]
          congr 1
          omega
        · rw [if_neg (by omega)]

/-- Downwards, no sample is overwritten before it is read. -/
theorem resample_apply (count : Nat) (buffer : Memory) (x : Nat) :
    resample count buffer x = if x < 4 * count then buffer (2 * (x / 4) + x % 2) else buffer x := by
  induction count generalizing buffer with
  | zero => rfl
  | succ n ih =>
      have hstep : resample (n + 1) buffer = resample n (resampleAt n buffer) := by
        rw [resample, List.range_succ, List.foldr_append]
        rfl
      rw [hstep, ih]
      by_cases hlow : x < 4 * n
      · -- the iterations below `n` read nothing that iteration `n` wrote
        have hread : ¬ (4 * n ≤ 2 * (x / 4) + x % 2 ∧ 2 * (x / 4) + x % 2 < 4 * n + 4) := by omega
        rw [if_pos hlow, if_pos (by omega), resampleAt_apply, if_neg hread]
      · rw [if_neg hlow, resampleAt_apply]
        by_cases hhere : x < 4 * n + 4
        · rw [if_pos ⟨by omega, hhere⟩, if_pos (by omega)]
          congr 2
          omega
        · rw [if_neg (by omega), if_neg (by omega)]

theorem length_twice {l : List UInt8} (h : l.length % 2 = 0) : (twice l).length = 2 * l.length := by
  induction l using twice.induct with
  | case1 lo hi rest ih =>
      simp only [List.length_cons] at h
      simp only [twice, List.length_cons, ih (by omega)]
      omega
  | case2 l hshort =>
      match l, hshort, h with
      | [], _, _ => rfl
      | [_], _, h => simp at h
      | lo :: hi :: rest, hshort, _ => exact absurd rfl (hshort lo hi rest)

theorem getElem?_twice {l : List UInt8} (h : l.length % 2 = 0) {x : Nat} (hx : x < 2 * l.length) :
    (twice l)[x]? = l[2 * (x / 4) + x % 2]? := by
  induction l using twice.induct generalizing x with
  | case1 lo hi rest ih =>
      simp only [List.length_cons] at h hx
      match x with
      | 0 => rfl
      | 1 => rfl
      | 2 => rfl
      | 3 => rfl
      | x + 4 =>
          have hread : 2 * ((x + 4) / 4) + (x + 4) % 2 = 2 * (x / 4) + x % 2 + 2 := by omega
          rw [hread]
          simp only [twice, List.getElem?_cons_succ]
          exact ih (by omega) (by omega)
  | case2 l hshort =>
      match l, hshort, h with
      | [], _, _ => simp at hx
      | [_], _, h => simp at h
      | lo :: hi :: rest, hshort, _ => exact absurd rfl (hshort lo hi rest)

/-! ## Packages in the buffer -/

theorem length_package (output_rate : UInt16) (captured : Captured) :
    (package output_rate captured).length = package_size output_rate := by
  have hlength := captured.length_bytes
  unfold package package_size
  split
  · rw [length_twice (by omega), hlength]
  · exact hlength

def prepared (output_rate : UInt16) (buffer : Memory) (captured : Captured) : Memory :=
  let buffer := buffer.store 0 captured.bytes
  if output_rate = 16000 then resample (package_size output_rate / 2) buffer else buffer

theorem iteration_eq (output_rate : UInt16) (answers : Nat → ℕ+) (t : Thread) (captured : Captured) :
    iteration output_rate answers t captured =
      sendPackage answers 0 (package_size output_rate)
        { t with buffer := prepared output_rate t.buffer captured } := by
  unfold iteration prepared
  split <;> rfl

theorem load_prepared (output_rate : UInt16) (buffer : Memory) (captured : Captured) :
    (prepared output_rate buffer captured).load 0 (package_size output_rate) =
      package output_rate captured := by
  have hlength := captured.length_bytes
  have hstore := Memory.load_store buffer 0 captured.bytes
  by_cases hwide : output_rate = 16000
  · have hsize : package_size output_rate = 240 := if_pos hwide
    apply List.ext_getElem?
    intro x
    by_cases hx : x < 240
    · have hread : 2 * (x / 4) + x % 2 < captured.bytes.length := by omega
      have hbyte : buffer.store 0 captured.bytes (0 + (2 * (x / 4) + x % 2)) =
          captured.bytes[2 * (x / 4) + x % 2] := Memory.store_inside hread
      rw [Nat.zero_add] at hbyte
      rw [package, if_pos hwide, getElem?_twice (by omega) (by omega), List.getElem?_eq_getElem hread,
        prepared, if_pos hwide, hsize, Memory.load, List.getElem?_map, List.getElem?_range hx,
        Option.map_some, Nat.zero_add, resample_apply, if_pos (by omega), hbyte]
    · have hlen := length_package output_rate captured
      rw [List.getElem?_eq_none (by rw [Memory.length_load]; omega),
        List.getElem?_eq_none (by omega)]
  · have hsize : package_size output_rate = captured.bytes.length := (if_neg hwide).trans hlength.symm
    rw [prepared, if_neg hwide, package, if_neg hwide, hsize, hstore]

/-! ## What a package sends -/

theorem results_of_pos (answers : Nat → ℕ+) (k : Nat) {needs : Nat} (h : 0 < needs) :
    results answers k needs =
      min (answers k : Nat) needs :: results answers (k + 1) (needs - min (answers k : Nat) needs) := by
  rw [results, if_pos h]

theorem results_zero (answers : Nat → ℕ+) (k : Nat) : results answers k 0 = [] := by
  rw [results, if_neg (Nat.lt_irrefl 0)]

theorem sum_results (answers : Nat → ℕ+) (k needs : Nat) : (results answers k needs).sum = needs := by
  induction k, needs using results.induct answers with
  | case1 k needs hpos result ih =>
      have hle : result ≤ needs := Nat.min_le_right _ _
      rw [results_of_pos answers k hpos, List.sum_cons, ih]
      exact Nat.add_sub_cancel' hle
  | case2 k needs hzero =>
      obtain rfl : needs = 0 := by omega
      rw [results_zero]
      rfl

theorem pos_of_mem_results {answers : Nat → ℕ+} {k needs r : Nat} (h : r ∈ results answers k needs) :
    0 < r := by
  induction k, needs using results.induct answers with
  | case1 k needs hpos result ih =>
      have hanswer := (answers k).pos
      rw [results_of_pos answers k hpos] at h
      rcases List.mem_cons.mp h with rfl | h
      · omega
      · exact ih h
  | case2 k needs hzero =>
      obtain rfl : needs = 0 := by omega
      rw [results_zero] at h
      cases h

def transmitted (buffer : Memory) : Nat → Nat → List Nat → List Sent
  | _, _, [] => []
  | total, bytes, r :: rs =>
      if total < INT32_MAX then ⟨bytes, buffer.load bytes r⟩ :: transmitted buffer (total + r) r rs
      else []

theorem sent_sendPackage (answers : Nat → ℕ+) (bytes needs : Nat) (t : Thread) :
    (sendPackage answers bytes needs t).sent =
      t.sent ++ transmitted t.buffer t.total bytes (results answers t.calls needs) := by
  induction bytes, needs, t using sendPackage.induct answers with
  | case1 bytes needs t hcall result ih =>
      rw [sendPackage, if_pos hcall, results_of_pos answers _ hcall.1, transmitted, if_pos hcall.2]
      exact ih.trans (List.append_assoc _ _ _)
  | case2 bytes needs t hstop =>
      rw [sendPackage, if_neg hstop]
      by_cases hpos : 0 < needs
      · rw [results_of_pos answers _ hpos, transmitted, if_neg fun htotal => hstop ⟨hpos, htotal⟩,
          List.append_nil]
      · obtain rfl : needs = 0 := by omega
        rw [results_zero, transmitted, List.append_nil]

section

variable {buffer : Memory} {pkg : List UInt8} {size : Nat}

theorem length_transmitted_le (buffer : Memory) (total bytes : Nat) (rs : List Nat) :
    ((transmitted buffer total bytes rs).flatMap Sent.bytes).length ≤ rs.sum := by
  induction rs generalizing total bytes with
  | nil => exact Nat.le_refl 0
  | cons r rs ih =>
      rw [transmitted]
      split
      · rw [List.flatMap_cons, List.length_append, Memory.length_load, List.sum_cons]
        exact Nat.add_le_add_left (ih (total + r) r) r
      · exact Nat.zero_le _

/-- A wrong offset is too small, not too large. -/
theorem transmitted_inside {total bytes : Nat} {rs : List Nat} (h : bytes + rs.sum ≤ size) :
    ∀ s ∈ transmitted buffer total bytes rs, s.offset + s.bytes.length ≤ size := by
  induction rs generalizing total bytes with
  | nil => exact fun s hs => nomatch hs
  | cons r rs ih =>
      rw [List.sum_cons] at h
      rw [transmitted]
      split
      · intro s hs
        rcases List.mem_cons.mp hs with rfl | hs
        · show bytes + (buffer.load bytes r).length ≤ size
          rw [Memory.length_load]
          omega
        · exact ih (by omega) s hs
      · exact fun s hs => nomatch hs

/-- `Resumes` behind `done` bytes of the package, where the last result was `bytes`. -/
def ResumesFrom (pkg : List UInt8) (total bytes done : Nat) (rs : List Nat) : Prop :=
  ∀ before result after, rs = before ++ result :: after →
    total + before.sum < INT32_MAX ∧
      (pkg.drop (before.getLastD bytes)).take result = (pkg.drop (done + before.sum)).take result

theorem resumes_iff (pkg : List UInt8) (total : Nat) (rs : List Nat) :
    Resumes pkg total rs ↔ ResumesFrom pkg total 0 0 rs := by
  unfold Resumes ResumesFrom
  simp only [Nat.zero_add]

theorem resumesFrom_cons {total bytes done r : Nat} {rs : List Nat} :
    ResumesFrom pkg total bytes done (r :: rs) ↔
      total < INT32_MAX ∧ (pkg.drop bytes).take r = (pkg.drop done).take r ∧
        ResumesFrom pkg (total + r) r (done + r) rs := by
  constructor
  · intro h
    obtain ⟨htotal, hseg⟩ := h [] r rs rfl
    refine ⟨htotal, hseg, ?_⟩
    rintro before result after rfl
    have hnext := h (r :: before) result after rfl
    rwa [List.sum_cons, ← Nat.add_assoc, ← Nat.add_assoc, List.getLastD_cons] at hnext
  · rintro ⟨htotal, hseg, hrest⟩ before result after heq
    cases before with
    | nil =>
        obtain ⟨rfl, -⟩ := List.cons.inj heq
        exact ⟨htotal, hseg⟩
    | cons b before =>
        obtain ⟨rfl, rfl⟩ := List.cons.inj heq
        rw [List.sum_cons, ← Nat.add_assoc, ← Nat.add_assoc, List.getLastD_cons]
        exact hrest before result after rfl

theorem transmitted_eq_iff (hpkg : buffer.load 0 size = pkg) {total bytes done : Nat} {rs : List Nat}
    (hpos : ∀ r ∈ rs, 0 < r) (hbytes : bytes ≤ done) (hdone : done + rs.sum = size) :
    (transmitted buffer total bytes rs).flatMap Sent.bytes = pkg.drop done ↔
      ResumesFrom pkg total bytes done rs := by
  have hlength : pkg.length = size := by rw [← hpkg, Memory.length_load]
  induction rs generalizing total bytes done with
  | nil =>
      have hnil : pkg.drop done = [] := List.drop_of_length_le (by simp at hdone; omega)
      rw [hnil]
      refine iff_of_true rfl ?_
      intro before result after heq
      exact absurd heq (by simp)
  | cons r rs ih =>
      have hr := hpos r List.mem_cons_self
      rw [List.sum_cons] at hdone
      rw [resumesFrom_cons, transmitted]
      split
      · rename_i htotal
        have hload : buffer.load bytes r = (pkg.drop bytes).take r := by
          rw [← hpkg, Memory.take_drop_load _ _ (by omega), Nat.zero_add]
        have hrest : pkg.drop done = (pkg.drop done).take r ++ pkg.drop (done + r) := by
          rw [← List.drop_drop, List.take_append_drop]
        have hlen : (buffer.load bytes r).length = ((pkg.drop done).take r).length := by
          rw [Memory.length_load, List.length_take, List.length_drop]
          omega
        have hih : (transmitted buffer (total + r) r rs).flatMap Sent.bytes = pkg.drop (done + r) ↔
            ResumesFrom pkg (total + r) r (done + r) rs :=
          ih (fun r' hr' => hpos r' (List.mem_cons_of_mem r hr')) (by omega) (by omega)
        -- the heads have one length, so that equal lists have equal heads
        rw [List.flatMap_cons, ← hih, ← hload]
        constructor
        · intro h
          rw [hrest] at h
          exact ⟨htotal, List.append_inj h hlen⟩
        · rintro ⟨-, hseg, htail⟩
          rw [hrest, ← hseg, ← htail]
      · -- there is no further call, but bytes are left
        rename_i htotal
        refine iff_of_false ?_ fun h => htotal h.1
        intro hnil
        have hlen := congrArg List.length hnil
        rw [List.length_drop] at hlen
        simp at hlen
        omega

end

/-! ## Runs -/

section

variable {output_rate : UInt16} {answers : Nat → ℕ+} {packages : List Captured} {t : Thread}

/-- The condition on a package, in the state before it is captured. -/
def Whole (output_rate : UInt16) (answers : Nat → ℕ+) (t : Thread) (captured : Captured) : Prop :=
  Resumes (package output_rate captured) t.total
    (results answers t.calls (package_size output_rate))

def added (output_rate : UInt16) (answers : Nat → ℕ+) (t : Thread) (captured : Captured) : List Sent :=
  transmitted (prepared output_rate t.buffer captured) t.total 0
    (results answers t.calls (package_size output_rate))

theorem sent_iteration (captured : Captured) :
    (iteration output_rate answers t captured).sent =
      t.sent ++ added output_rate answers t captured := by
  rw [iteration_eq, sent_sendPackage]
  rfl

theorem length_added_le (output_rate : UInt16) (answers : Nat → ℕ+) (t : Thread)
    (captured : Captured) :
    ((added output_rate answers t captured).flatMap Sent.bytes).length ≤ package_size output_rate := by
  have hle := length_transmitted_le (prepared output_rate t.buffer captured) t.total 0
    (results answers t.calls (package_size output_rate))
  rwa [sum_results] at hle

theorem added_inside (t : Thread) (captured : Captured) :
    ∀ s ∈ added output_rate answers t captured,
      s.offset + s.bytes.length ≤ package_size output_rate := by
  apply transmitted_inside
  rw [sum_results, Nat.zero_add]

theorem added_eq_iff (captured : Captured) :
    (added output_rate answers t captured).flatMap Sent.bytes = package output_rate captured ↔
      Whole output_rate answers t captured := by
  have hsum : 0 + (results answers t.calls (package_size output_rate)).sum = package_size output_rate := by
    rw [sum_results, Nat.zero_add]
  have hiff : (added output_rate answers t captured).flatMap Sent.bytes =
      (package output_rate captured).drop 0 ↔ ResumesFrom (package output_rate captured) t.total 0 0
        (results answers t.calls (package_size output_rate)) :=
    transmitted_eq_iff (load_prepared output_rate t.buffer captured)
      (fun r hr => pos_of_mem_results hr) (Nat.le_refl 0) hsum
  rwa [List.drop_zero, ← resumes_iff] at hiff

theorem length_flatMap_package (output_rate : UInt16) (packages : List Captured) :
    (packages.flatMap (package output_rate)).length = packages.length * package_size output_rate := by
  induction packages with
  | nil => rw [List.flatMap_nil, List.length_nil, List.length_nil, Nat.zero_mul]
  | cons c packages ih =>
      rw [List.flatMap_cons, List.length_append, length_package, ih, List.length_cons, Nat.succ_mul,
        Nat.add_comm]

theorem sent_concat (packages : List Captured) (captured : Captured) (buffer : Memory) :
    (vohci_send_thread output_rate answers (packages ++ [captured]) buffer).sent =
      (vohci_send_thread output_rate answers packages buffer).sent ++
        added output_rate answers (vohci_send_thread output_rate answers packages buffer) captured := by
  rw [vohci_send_thread, List.foldl_concat, sent_iteration]
  rfl

/-- Never more bytes than the packages have, and none from outside. -/
theorem run_bounded (output_rate : UInt16) (answers : Nat → ℕ+) (packages : List Captured)
    (buffer : Memory) :
    ((vohci_send_thread output_rate answers packages buffer).sent.flatMap Sent.bytes).length ≤
        packages.length * package_size output_rate ∧
      ∀ s ∈ (vohci_send_thread output_rate answers packages buffer).sent,
        s.offset + s.bytes.length ≤ package_size output_rate := by
  induction packages using List.reverseRecOn with
  | nil => exact ⟨Nat.zero_le _, fun s hs => nomatch hs⟩
  | append_singleton packages captured ih =>
      rw [sent_concat]
      constructor
      · rw [List.flatMap_append, List.length_append, List.length_append, List.length_singleton,
          Nat.succ_mul]
        exact Nat.add_le_add ih.1 (length_added_le output_rate answers _ captured)
      · intro s hs
        exact (List.mem_append.mp hs).elim (ih.2 s) (added_inside _ captured s)

/-- A package that is cut short is not made up for by the next one. -/
theorem intact_concat (packages : List Captured) (captured : Captured) (buffer : Memory) :
    Intact output_rate (packages ++ [captured])
        (vohci_send_thread output_rate answers (packages ++ [captured]) buffer) ↔
      Intact output_rate packages (vohci_send_thread output_rate answers packages buffer) ∧
        Whole output_rate answers (vohci_send_thread output_rate answers packages buffer) captured := by
  obtain ⟨hpast, hinside⟩ := run_bounded output_rate answers packages buffer
  have hlast := length_added_le output_rate answers
    (vohci_send_thread output_rate answers packages buffer) captured
  have hpackages := length_flatMap_package output_rate packages
  have hpackage := length_package output_rate captured
  unfold Intact
  rw [← added_eq_iff, sent_concat, List.flatMap_append, List.flatMap_append, List.flatMap_singleton]
  constructor
  · rintro ⟨hbytes, -⟩
    -- neither part is longer than what it is compared with, so both are as long
    have hlength := congrArg List.length hbytes
    rw [List.length_append, List.length_append] at hlength
    obtain ⟨hbefore, hhere⟩ := List.append_inj hbytes (by omega)
    exact ⟨⟨hbefore, hinside⟩, hhere⟩
  · rintro ⟨⟨hbefore, -⟩, hhere⟩
    refine ⟨congrArg₂ (· ++ ·) hbefore hhere, fun s hs => ?_⟩
    exact (List.mem_append.mp hs).elim (hinside s) (added_inside _ captured s)

/-- **The packages arrive intact exactly when each of them resumes where it has to.** -/
theorem intact_iff (output_rate : UInt16) (answers : Nat → ℕ+) (packages : List Captured)
    (buffer : Memory) :
    Intact output_rate packages (vohci_send_thread output_rate answers packages buffer) ↔
      Guarded (iteration output_rate answers) (fun _ t captured => Whole output_rate answers t captured)
        { buffer } packages := by
  induction packages using List.reverseRecOn with
  | nil =>
      refine iff_of_true ⟨rfl, fun s hs => nomatch hs⟩ ?_
      intro past e rest heq
      simp at heq
  | append_singleton packages captured ih =>
      rw [intact_concat, guarded_concat, ih]
      rfl

/-- The first two calls for a package are at the right offsets. -/
theorem whole_of_two_results (captured : Captured)
    (htwo : (results answers t.calls (package_size output_rate)).length ≤ 2)
    (htotal : t.total + package_size output_rate ≤ INT32_MAX) :
    Whole output_rate answers t captured := by
  have hsum := sum_results answers t.calls (package_size output_rate)
  intro before result after heq
  have hpos := pos_of_mem_results (heq ▸ List.mem_append_right before List.mem_cons_self)
  rw [heq] at htwo hsum
  rw [List.sum_append, List.sum_cons] at hsum
  refine ⟨by omega, ?_⟩
  match before, htwo with
  | [], _ => rfl
  | [_], _ => rfl
  | _ :: _ :: before, htwo => simp at htwo

end

/-- 120 bytes that go in three pieces: the last one is taken from offset 50. -/
theorem not_intact :
    ¬ ∀ (output_rate : UInt16) (answers : Nat → ℕ+) (packages : List Captured) (buffer : Memory),
      Intact output_rate packages (vohci_send_thread output_rate answers packages buffer) := by
  intro h
  have hintact := h 8000 (fun _ => 50) [⟨List.replicate 100 0 ++ List.replicate 20 1, rfl⟩] Memory.zero
  have hwhole := ((intact_concat [] _ _).mp hintact).2
  have hresults : results (fun _ => 50) 0 120 = [50, 50, 20] := by
    rw [results_of_pos _ _ (by decide), results_of_pos _ _ (by decide), results_of_pos _ _ (by decide)]
    exact congrArg ([50, 50, 20] ++ ·) (results_zero _ _)
  have hthird := (hwhole [50, 50] 20 [] hresults).2
  revert hthird
  decide

end AwHal.Wireless.VohciSend
