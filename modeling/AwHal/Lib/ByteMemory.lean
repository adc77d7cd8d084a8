import Mathlib.Data.UInt
import Mathlib.Data.List.GetD

/-!
# Bytes in memory

A memory maps every address to a byte, so that a program which writes too far still has a meaning.
Programs that fill a buffer are lists of writes.
-/

namespace AwHal.Lib

/-! ## Little-endian numbers -/

def leBytes : Nat → Nat → List UInt8
  | 0, _ => []
  | n + 1, v => UInt8.ofNat v :: leBytes n (v / 256)

def leValue : List UInt8 → Nat
  | [] => 0
  | b :: bs => b.toNat + 256 * leValue bs

@[simp] theorem length_leBytes (n v : Nat) : (leBytes n v).length = n := by
  induction n generalizing v with
  | zero => rfl
  | succ n ih => simp [leBytes, ih]

/-- What does not fit into the bytes is lost. -/
theorem leValue_leBytes_mod (n v : Nat) : leValue (leBytes n v) = v % 256 ^ n := by
  induction n generalizing v with
  | zero =>
      rw [Nat.pow_zero, Nat.mod_one]
      rfl
  | succ n ih =>
      have hlow : (UInt8.ofNat v).toNat = v % 256 := UInt8.toNat_ofNat
      show (UInt8.ofNat v).toNat + 256 * leValue (leBytes n (v / 256)) = v % 256 ^ (n + 1)
      rw [ih, hlow, Nat.pow_succ, Nat.mul_comm (256 ^ n), Nat.mod_mul]

theorem leValue_leBytes {n v : Nat} (hv : v < 256 ^ n) : leValue (leBytes n v) = v := by
  rw [leValue_leBytes_mod, Nat.mod_eq_of_lt hv]

theorem leValue_lt (bs : List UInt8) : leValue bs < 256 ^ bs.length := by
  induction bs with
  | nil => decide
  | cons b bs ih =>
      have hb : b.toNat < 256 := b.toNat_lt
      rw [List.length_cons, Nat.pow_succ]
      show b.toNat + 256 * leValue bs < _
      omega

theorem leValue_append (bs cs : List UInt8) :
    leValue (bs ++ cs) = leValue bs + 256 ^ bs.length * leValue cs := by
  induction bs with
  | nil => simp [leValue]
  | cons b bs ih =>
      rw [List.cons_append, leValue, leValue, ih, List.length_cons, Nat.pow_succ, Nat.mul_add,
        Nat.add_assoc, Nat.mul_comm (256 ^ bs.length) 256, Nat.mul_assoc]

theorem leValue_eq_zero_iff {bs : List UInt8} : leValue bs = 0 ↔ bs = List.replicate bs.length 0 := by
  induction bs with
  | nil => simp [leValue]
  | cons b bs ih =>
      rw [leValue, Nat.add_eq_zero_iff, Nat.mul_eq_zero, ih, List.length_cons, List.replicate_succ,
        List.cons.injEq, ← UInt8.toNat_inj, UInt8.toNat_zero]
      simp

theorem leValue_lt_iff {bs : List UInt8} {n : Nat} (hn : n ≤ bs.length) :
    leValue bs < 256 ^ n ↔ bs.drop n = List.replicate (bs.length - n) 0 := by
  have hlen : (bs.take n).length = n := List.length_take_of_le hn
  have hsplit : leValue bs = leValue (bs.take n) + 256 ^ n * leValue (bs.drop n) := by
    conv_lhs => rw [← List.take_append_drop n bs]
    rw [leValue_append, hlen]
  have hlow : leValue (bs.take n) < 256 ^ n := by
    have hlt := leValue_lt (bs.take n)
    rwa [hlen] at hlt
  rw [← List.length_drop, ← leValue_eq_zero_iff, hsplit]
  constructor
  · intro hlt
    by_contra hne
    have hle := Nat.mul_le_mul_left (256 ^ n) (Nat.one_le_iff_ne_zero.mpr hne)
    omega
  · intro hzero
    rw [hzero]
    omega

/-! ## Loads and stores -/

abbrev Memory : Type := Nat → UInt8

namespace Memory

def zero : Memory := fun _ => 0

def store (m : Memory) (addr : Nat) (bytes : List UInt8) : Memory :=
  fun x => if addr ≤ x then bytes.getD (x - addr) (m x) else m x

def load (m : Memory) (addr len : Nat) : List UInt8 :=
  (List.range len).map fun i => m (addr + i)

@[simp] theorem length_load (m : Memory) (addr len : Nat) : (m.load addr len).length = len := by
  simp [load]

theorem take_load (m : Memory) (addr : Nat) {len n : Nat} (h : n ≤ len) :
    (m.load addr len).take n = m.load addr n := by
  rw [load, ← List.map_take, List.take_range, Nat.min_eq_left h]
  rfl

theorem store_outside {m : Memory} {addr x : Nat} {bytes : List UInt8}
    (h : x < addr ∨ addr + bytes.length ≤ x) : m.store addr bytes x = m x := by
  unfold store
  split
  · rw [List.getD_eq_default]
    omega
  · rfl

theorem store_inside {m : Memory} {addr i : Nat} {bytes : List UInt8} (hi : i < bytes.length) :
    m.store addr bytes (addr + i) = bytes[i] := by
  rw [store, if_pos (by omega), Nat.add_sub_cancel_left, List.getD_eq_getElem bytes _ hi]

theorem store_congr {m m' : Memory} {x : Nat} (h : m x = m' x) (addr : Nat) (bytes : List UInt8) :
    m.store addr bytes x = m'.store addr bytes x := by
  simp only [store, h]

theorem store_nil (m : Memory) (addr : Nat) : m.store addr [] = m := by
  funext x
  exact store_outside (by simp only [List.length_nil]; omega)

theorem store_append (m : Memory) (addr : Nat) (bytes more : List UInt8) :
    m.store addr (bytes ++ more) = (m.store addr bytes).store (addr + bytes.length) more := by
  funext x
  unfold store
  by_cases hx : addr ≤ x
  · obtain ⟨i, rfl⟩ : ∃ i, x = addr + i := ⟨x - addr, by omega⟩
    by_cases hi : i < bytes.length
    · rw [if_pos hx, if_neg (by omega), if_pos hx, Nat.add_sub_cancel_left,
        List.getD_eq_getElem _ _ hi, List.getD_eq_getElem _ _ (by simp; omega),
        List.getElem_append_left hi]
    · rw [if_pos hx, if_pos (by omega), if_pos hx, Nat.add_sub_cancel_left,
        List.getD_append_right _ _ _ _ (by omega),
        List.getD_eq_default _ _ (by omega : bytes.length ≤ i)]
      congr 1
      omega
  · rw [if_neg hx, if_neg (by omega), if_neg hx]

theorem load_congr {m m' : Memory} {addr len : Nat}
    (h : ∀ x, addr ≤ x → x < addr + len → m x = m' x) : m.load addr len = m'.load addr len := by
  apply List.map_congr_left
  intro i hi
  rw [List.mem_range] at hi
  exact h (addr + i) (by omega) (by omega)

theorem load_append (m : Memory) (addr len len' : Nat) :
    m.load addr (len + len') = m.load addr len ++ m.load (addr + len) len' := by
  rw [load, load, load, List.range_add, List.map_append, List.map_map]
  congr 1
  apply List.map_congr_left
  intro i _
  exact congrArg m (Nat.add_assoc addr len i).symm

theorem take_drop_load (m : Memory) (addr : Nat) {lo n len : Nat} (h : lo + n ≤ len) :
    ((m.load addr len).drop lo).take n = m.load (addr + lo) n := by
  have hsplit : len = lo + (len - lo) := by omega
  rw [hsplit, load_append, List.drop_left' (length_load _ _ _), take_load _ _ (by omega)]

theorem load_store (m : Memory) (addr : Nat) (bytes : List UInt8) :
    (m.store addr bytes).load addr bytes.length = bytes := by
  apply List.ext_getElem
  · exact length_load _ _ _
  · intro i hi hi'
    simp only [load, List.getElem_map, List.getElem_range]
    exact store_inside hi'

end Memory

/-! ## Blocks -/

/-- A load from a block of bytes; a byte outside of it makes it fail. -/
def loadBlock (block : List UInt8) (addr len : Nat) : Option (List UInt8) :=
  (List.range len).mapM fun i => block[addr + i]?

theorem mapM_range_eq_some_iff {β : Type} {n : Nat} {f : Nat → Option β} {l : List β} :
    (List.range n).mapM f = some l ↔ l.length = n ∧ ∀ i < n, f i = l[i]? := by
  induction n generalizing f l with
  | zero => simp [eq_comm]
  | succ n ih =>
      rw [List.range_succ_eq_map, List.mapM_cons, List.mapM_map]
      cases l with
      | nil =>
          cases f 0 <;> cases (List.range n).mapM (f ∘ Nat.succ) <;> simp
      | cons b l =>
          have htail : (∀ i < n + 1, f i = (b :: l)[i]?) ↔
              f 0 = some b ∧ ∀ i < n, (f ∘ Nat.succ) i = l[i]? := by
            constructor
            · intro h
              exact ⟨h 0 (by omega), fun i hi => h (i + 1) (by omega)⟩
            · intro h i hi
              cases i with
              | zero => exact h.1
              | succ i => exact h.2 i (by omega)
          rw [htail, List.length_cons, Nat.add_right_cancel_iff, and_left_comm, ← ih]
          cases f 0 <;> cases (List.range n).mapM (f ∘ Nat.succ) <;> simp

theorem isSome_mapM_range_iff {β : Type} {n : Nat} {f : Nat → Option β} :
    ((List.range n).mapM f).isSome ↔ ∀ i < n, (f i).isSome := by
  induction n generalizing f with
  | zero => simp
  | succ n ih =>
      have hpasses : (∀ i < n + 1, (f i).isSome) ↔
          (f 0).isSome ∧ ∀ i < n, ((f ∘ Nat.succ) i).isSome := by
        constructor
        · intro h
          exact ⟨h 0 (by omega), fun i hi => h (i + 1) (by omega)⟩
        · intro h i hi
          cases i with
          | zero => exact h.1
          | succ i => exact h.2 i (by omega)
      rw [hpasses, ← ih, List.range_succ_eq_map, List.mapM_cons, List.mapM_map]
      cases f 0 <;> cases (List.range n).mapM (f ∘ Nat.succ) <;> simp

theorem isSome_loadBlock_iff {block : List UInt8} {addr len : Nat} :
    (loadBlock block addr len).isSome ↔ 0 < len → addr + len ≤ block.length := by
  rw [loadBlock, isSome_mapM_range_iff]
  simp only [isSome_getElem?]
  constructor
  · intro h hpos
    have hlast := h (len - 1) (by omega)
    omega
  · intro h i hi
    have hle := h (by omega)
    omega

theorem loadBlock_load (m : Memory) {n addr len : Nat} (h : addr + len ≤ n) :
    loadBlock (m.load 0 n) addr len = some (m.load addr len) := by
  refine mapM_range_eq_some_iff.mpr ⟨Memory.length_load m addr len, ?_⟩
  intro i hi
  have hlt : addr + i < n := by omega
  simp [Memory.load, hlt, hi]

/-! ## Programs that write -/

structure Write where
  addr : Nat
  bytes : List UInt8
deriving DecidableEq

namespace Write

def shift (base : Nat) (w : Write) : Write := { w with addr := base + w.addr }

def Within (lo hi : Nat) (w : Write) : Prop :=
  lo ≤ w.addr ∧ w.addr + w.bytes.length ≤ hi

def run (ws : List Write) (m : Memory) : Memory :=
  ws.foldl (fun m w => m.store w.addr w.bytes) m

@[simp] theorem run_nil (m : Memory) : run [] m = m := rfl

@[simp] theorem run_cons (w : Write) (ws : List Write) (m : Memory) :
    run (w :: ws) m = run ws (m.store w.addr w.bytes) := rfl

theorem run_append (ws ws' : List Write) (m : Memory) :
    run (ws ++ ws') m = run ws' (run ws m) :=
  List.foldl_append

theorem run_eq_of_outside {ws : List Write} {x : Nat}
    (h : ∀ w ∈ ws, x < w.addr ∨ w.addr + w.bytes.length ≤ x) (m : Memory) : run ws m x = m x := by
  induction ws generalizing m with
  | nil => rfl
  | cons w ws ih =>
      rw [run_cons, ih fun w' hw' => h w' (List.mem_cons_of_mem w hw')]
      exact Memory.store_outside (h w List.mem_cons_self)

theorem run_outside {ws : List Write} {lo hi x : Nat} (hws : ∀ w ∈ ws, w.Within lo hi)
    (hx : x < lo ∨ hi ≤ x) (m : Memory) : run ws m x = m x := by
  apply run_eq_of_outside
  intro w hw
  have hwithin := hws w hw
  unfold Within at hwithin
  omega

theorem run_congr {m m' : Memory} {x : Nat} (h : m x = m' x) (ws : List Write) :
    run ws m x = run ws m' x := by
  induction ws generalizing m m' with
  | nil => exact h
  | cons w ws ih => exact ih (Memory.store_congr h w.addr w.bytes)

/-- Some write goes to the address `x`. -/
def Covers (ws : List Write) (x : Nat) : Prop :=
  ∃ w ∈ ws, w.addr ≤ x ∧ x < w.addr + w.bytes.length

/-- Writes of single bytes, where the address decides about the byte: their order does not matter. -/
theorem run_of_covers {ws : List Write} {f : Nat → UInt8} (h : ∀ w ∈ ws, w.bytes = [f w.addr])
    {x : Nat} (hx : Covers ws x) (m : Memory) : run ws m x = f x := by
  induction ws using List.reverseRecOn with
  | nil =>
      obtain ⟨w, hw, _⟩ := hx
      cases hw
  | append_singleton ws w ih =>
      have hw : w.bytes = [f w.addr] := h w List.mem_concat_self
      have hlen : w.bytes.length = 1 := congrArg List.length hw
      rw [run_append, run_cons, run_nil]
      by_cases heq : x = w.addr
      · rw [heq, Memory.store, if_pos (Nat.le_refl _), Nat.sub_self, hw]
        rfl
      · rw [Memory.store_outside (by omega)]
        apply ih fun w' hw' => h w' (List.mem_append_left [w] hw')
        obtain ⟨w', hw', hle, hlt⟩ := hx
        rcases List.mem_append.mp hw' with hw' | hw'
        · exact ⟨w', hw', hle, hlt⟩
        · rw [List.mem_singleton.mp hw'] at hle hlt
          omega

theorem run_of_not_covers {ws : List Write} {x : Nat} (hx : ¬ Covers ws x) (m : Memory) :
    run ws m x = m x := by
  apply run_eq_of_outside
  intro w hw
  by_contra hcover
  exact hx ⟨w, hw, by omega, by omega⟩

/-- The places of two writes have no byte in common. -/
def Disjoint (w w' : Write) : Prop :=
  w.addr + w.bytes.length ≤ w'.addr ∨ w'.addr + w'.bytes.length ≤ w.addr

theorem load_run {ws : List Write} (hws : ws.Pairwise Disjoint) {w : Write} (hw : w ∈ ws)
    (m : Memory) : (run ws m).load w.addr w.bytes.length = w.bytes := by
  induction ws generalizing m with
  | nil => cases hw
  | cons w' ws ih =>
      rw [List.pairwise_cons] at hws
      rw [run_cons]
      rcases List.mem_cons.mp hw with rfl | hw
      · have hkeep : ∀ x, w.addr ≤ x → x < w.addr + w.bytes.length →
            run ws (m.store w.addr w.bytes) x = m.store w.addr w.bytes x := by
          intro x hlo hhi
          apply run_eq_of_outside
          intro w' hw'
          have hdisj := hws.1 w' hw'
          unfold Disjoint at hdisj
          omega
        rw [Memory.load_congr hkeep]
        exact Memory.load_store m w.addr w.bytes
      · exact ih hws.2 hw _

theorem run_shift (base : Nat) (ws : List Write) (m : Memory) (x : Nat) :
    run (ws.map (shift base)) m (base + x) = run ws (fun y => m (base + y)) x := by
  induction ws generalizing m with
  | nil => rfl
  | cons w ws ih =>
      rw [List.map_cons, run_cons, ih, run_cons]
      apply run_congr
      show m.store (base + w.addr) w.bytes (base + x) = Memory.store _ w.addr w.bytes x
      simp only [Memory.store]
      rw [Nat.add_sub_add_left]
      by_cases hle : w.addr ≤ x
      · rw [if_pos hle, if_pos (by omega)]
      · rw [if_neg hle, if_neg (by omega)]

theorem within_shift {w : Write} {lo hi : Nat} (h : w.Within lo hi) (base : Nat) :
    (w.shift base).Within (base + lo) (base + hi) := by
  unfold Within shift at *
  dsimp only
  omega

/-- Blocks of bytes, written one after the other. -/
def consecutive : Nat → List (List UInt8) → List Write
  | _, [] => []
  | addr, b :: bs => ⟨addr, b⟩ :: consecutive (addr + b.length) bs

theorem consecutive_append (addr : Nat) (bs bs' : List (List UInt8)) :
    consecutive addr (bs ++ bs') =
      consecutive addr bs ++ consecutive (addr + bs.flatten.length) bs' := by
  induction bs generalizing addr with
  | nil => rfl
  | cons b bs ih =>
      rw [List.cons_append, consecutive, ih, consecutive, List.cons_append, List.flatten_cons,
        List.length_append, Nat.add_assoc]

theorem within_consecutive {addr : Nat} {bs : List (List UInt8)} :
    ∀ w ∈ consecutive addr bs, w.Within addr (addr + bs.flatten.length) := by
  induction bs generalizing addr with
  | nil => exact fun w hw => nomatch hw
  | cons b bs ih =>
      intro w hw
      rw [List.flatten_cons, List.length_append]
      rcases List.mem_cons.mp hw with rfl | hw
      · unfold Within
        dsimp only
        omega
      · have hwithin := ih w hw
        unfold Within at *
        omega

/-- The last byte is written by some block, unless there are no bytes. -/
theorem forall_consecutive_iff {addr limit : Nat} {bs : List (List UInt8)} (h : addr ≤ limit) :
    (∀ w ∈ consecutive addr bs, w.addr + w.bytes.length ≤ limit) ↔
      addr + bs.flatten.length ≤ limit := by
  induction bs generalizing addr with
  | nil => exact iff_of_true (fun w hw => nomatch hw) h
  | cons b bs ih =>
      rw [consecutive, List.forall_mem_cons, List.flatten_cons, List.length_append]
      constructor
      · intro hall
        have hfirst : addr + b.length ≤ limit := hall.1
        have := (ih hfirst).mp hall.2
        omega
      · intro hlimit
        have hfirst : addr + b.length ≤ limit := by omega
        exact ⟨hfirst, (ih hfirst).mpr (by omega)⟩

theorem load_run_consecutive (addr : Nat) (bs : List (List UInt8)) (m : Memory) :
    (run (consecutive addr bs) m).load addr bs.flatten.length = bs.flatten := by
  induction bs generalizing addr m with
  | nil => rfl
  | cons b bs ih =>
      rw [consecutive, run_cons, List.flatten_cons, List.length_append, Memory.load_append, ih]
      congr 1
      -- the later blocks are behind the first one
      have hkeep : ∀ x, addr ≤ x → x < addr + b.length →
          run (consecutive (addr + b.length) bs) (m.store addr b) x = m.store addr b x := by
        intro x _ hx
        exact run_outside within_consecutive (.inl hx) _
      rw [Memory.load_congr hkeep]
      exact Memory.load_store m addr b

end Write

end AwHal.Lib
