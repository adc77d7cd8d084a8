import AwHal.TuningApp.TuningCfg

/-!
# The byte order of tuning configurations

What `convert_tuning_cfg_to_network` makes of each struct, and which structs it gets right.
-/

namespace AwHal.TuningApp

open Lib

set_option maxRecDepth 10000

/-! ## Loops stay within their struct -/

def Access.reach : Access → Nat
  | .long => 4
  | a => a.length

/-- How far the accesses get from where they start. -/
def reach : List Access → Nat
  | [] => 0
  | a :: accesses => max a.reach (a.length + reach accesses)

def Access.width : Access → Nat
  | .longs _ | .long => 4
  | .shorts _ | .shortsAsLong _ => 2

def Access.count : Access → Nat
  | .longs n | .shorts n | .shortsAsLong n => n
  | .long => 1

def Access.convert : Access → List UInt8 → List UInt8
  | .shortsAsLong _ => fun bytes => (signExtend bytes).reverse.take 2
  | _ => List.reverse

theorem Access.run_eq (a : Access) (addr : Nat) (m : Memory) :
    a.run hton addr m = m.mapElems a.width a.convert a.count addr := by
  cases a <;> rfl

theorem Access.reach_eq (a : Access) : a.reach = a.width * a.count := by
  cases a <;> rfl

theorem Access.length_convert (a : Access) (bytes : List UInt8) (h : bytes.length = a.width) :
    (a.convert bytes).length = a.width := by
  cases a <;> simp [Access.convert, Access.width, signExtend] at h ⊢ <;> omega

theorem Access.run_outside (a : Access) {addr x : Nat} (hx : x < addr ∨ addr + a.reach ≤ x)
    (m : Memory) : a.run hton addr m x = m x := by
  rw [Access.reach_eq] at hx
  rw [Access.run_eq]
  exact Memory.mapElems_outside a.length_convert a.count hx m

theorem Access.run_inside (a : Access) {addr x : Nat} {m m' : Memory}
    (h : ∀ x, addr ≤ x → x < addr + a.reach → m x = m' x) (hlo : addr ≤ x)
    (hhi : x < addr + a.reach) : a.run hton addr m x = a.run hton addr m' x := by
  rw [Access.reach_eq] at hhi h
  rw [Access.run_eq, Access.run_eq]
  exact Memory.mapElems_congr a.length_convert h hlo hhi

theorem runAccesses_outside (accesses : List Access) {addr x : Nat}
    (hx : x < addr ∨ addr + reach accesses ≤ x) (m : Memory) :
    runAccesses hton accesses addr m x = m x := by
  induction accesses generalizing addr m with
  | nil => rfl
  | cons a accesses ih =>
      rw [reach] at hx
      rw [runAccesses, ih (by omega), a.run_outside (by omega)]

theorem runAccesses_inside (accesses : List Access) {addr lo hi x : Nat} {m m' : Memory}
    (hlo : lo ≤ addr) (hhi : addr + reach accesses ≤ hi)
    (h : ∀ x, lo ≤ x → x < hi → m x = m' x) (hx : lo ≤ x) (hx' : x < hi) :
    runAccesses hton accesses addr m x = runAccesses hton accesses addr m' x := by
  induction accesses generalizing addr m m' with
  | nil => exact h x hx hx'
  | cons a accesses ih =>
      rw [reach] at hhi
      rw [runAccesses, runAccesses]
      -- the first access keeps the agreement, within its elements and outside of them
      refine ih (by omega) (by omega) ?_
      intro y hy hy'
      by_cases hin : addr ≤ y ∧ y < addr + a.reach
      · exact a.run_inside (fun z hz hz' => h z (by omega) (by omega)) hin.1 hin.2
      · rw [a.run_outside (by omega), a.run_outside (by omega)]
        exact h y hy hy'

theorem Cfg.reach_le (c : Cfg) : reach c.accesses ≤ c.size := by
  cases c <;> decide

theorem confined_convert : Confined Cfg.size fun c => runAccesses hton c.accesses where
  outside := fun c _ m _ hx => runAccesses_outside c.accesses (by have := c.reach_le; omega) m
  inside := fun c _ _ _ h _ hx hx' =>
    runAccesses_inside c.accesses (Nat.le_refl _) (by have := c.reach_le; omega) h hx hx'

/-! ## Accesses as reversed runs -/

/-- The runs of elements that the accesses reverse, one after the other.  Of the struct with the lens
shading table the first number is reversed twice, and the numbers from the fifth on as shorts. -/
def Cfg.runs (c : Cfg) : List Run :=
  match c with
  | .TUNING_LSC => [⟨1, 4⟩, ⟨4, 3⟩, ⟨2, 12 * 768 + 6⟩]
  | _ => c.accesses.map fun a => ⟨a.width, a.count⟩

/-- Accesses that move the pointer, and give numbers to the function for their width. -/
def Access.plain : Access → Bool
  | .longs _ | .shorts _ => true
  | _ => false

theorem runAccesses_plain {accesses : List Access} (h : ∀ a ∈ accesses, a.plain) (addr : Nat)
    (m : Memory) :
    runAccesses hton accesses addr m =
      reverseRuns (accesses.map fun a => ⟨a.width, a.count⟩) addr m := by
  induction accesses generalizing addr m with
  | nil => rfl
  | cons a accesses ih =>
      have hrest := ih fun a' ha' => h a' (List.mem_cons_of_mem a ha')
      have ha := h a List.mem_cons_self
      rw [runAccesses, hrest, List.map_cons, reverseRuns]
      cases a with
      | longs n => rfl
      | shorts n => rfl
      | long => contradiction
      | shortsAsLong n => contradiction

theorem Cfg.plain_of_ne {c : Cfg} (hgtm : c ≠ .TUNING_GTM) (hlsc : c ≠ .TUNING_LSC) :
    ∀ a ∈ c.accesses, a.plain := by
  revert hgtm hlsc
  cases c <;> decide

theorem runAccesses_lsc (addr : Nat) (m : Memory) (x : Nat) :
    runAccesses hton Cfg.TUNING_LSC.accesses addr m x =
      m (runsIndex Cfg.TUNING_LSC.runs addr x) := by
  have hplain : ∀ a ∈ [Access.longs 4, .shorts (12 * 768), .shorts 6], a.plain := by decide
  have hrest : runsIndex [⟨4, 4⟩, ⟨2, 12 * 768⟩, ⟨2, 6⟩] addr x =
      runsIndex [⟨4, 1⟩, ⟨4, 3⟩, ⟨2, 12 * 768 + 6⟩] addr x := runsIndex_congr (by rfl) addr x
  show runAccesses hton [.longs 4, .shorts (12 * 768), .shorts 6] addr
    (m.mapElems 4 List.reverse 1 addr) x = _
  rw [runAccesses_plain hplain, reverseRuns_apply, mapElems_reverse]
  show m (runsIndex [⟨4, 1⟩] addr (runsIndex [⟨4, 4⟩, ⟨2, 12 * 768⟩, ⟨2, 6⟩] addr x)) =
    m (runsIndex [⟨1, 4⟩, ⟨4, 3⟩, ⟨2, 12 * 768 + 6⟩] addr x)
  rw [hrest]
  congr 1
  by_cases hx : x < addr + 4
  · -- the first number is reversed once more
    have hfirst : runsIndex [⟨4, 1⟩, ⟨4, 3⟩, ⟨2, 12 * 768 + 6⟩] addr x =
        runsIndex [⟨4, 1⟩] addr x := runsIndex_cons_of_lt hx
    have hbytes : runsIndex [⟨1, 4⟩, ⟨4, 3⟩, ⟨2, 12 * 768 + 6⟩] addr x =
        runsIndex [⟨1, 4⟩] addr x := runsIndex_cons_of_lt hx
    rw [hfirst, runsIndex_involutive, hbytes, runsIndex_bytes]
  · have hle : addr + 4 ≤ x := by omega
    have hrun : runsIndex [⟨4, 1⟩, ⟨4, 3⟩, ⟨2, 12 * 768 + 6⟩] addr x =
        runsIndex [⟨4, 3⟩, ⟨2, 12 * 768 + 6⟩] (addr + 4) x := runsIndex_cons_of_le hle
    have hbytes : runsIndex [⟨1, 4⟩, ⟨4, 3⟩, ⟨2, 12 * 768 + 6⟩] addr x =
        runsIndex [⟨4, 3⟩, ⟨2, 12 * 768 + 6⟩] (addr + 4) x := runsIndex_cons_of_le hle
    rw [hrun, hbytes]
    exact runsIndex_behind (le_runsIndex hle)

/-- Every byte of a converted struct but the one with `plum_var` is a byte of the struct. -/
theorem Cfg.convert_apply {c : Cfg} (hgtm : c ≠ .TUNING_GTM) (addr : Nat) (m : Memory) (x : Nat) :
    runAccesses hton c.accesses addr m x = m (runsIndex c.runs addr x) := by
  by_cases hlsc : c = .TUNING_LSC
  · subst hlsc
    exact runAccesses_lsc addr m x
  · have hruns : c.runs = c.accesses.map fun a => ⟨a.width, a.count⟩ := by
      unfold Cfg.runs
      split
      · contradiction
      · rfl
    rw [runAccesses_plain (Cfg.plain_of_ne hgtm hlsc), reverseRuns_apply, hruns]

/-! ## Network order -/

def Reversed (m m' : Memory) : List Member → Nat → Prop
  | [], _ => True
  | f :: members, addr =>
      (∀ i, i < f.count → m'.load (addr + f.width * i) f.width =
        (m.load (addr + f.width * i) f.width).reverse) ∧
      Reversed m m' members (addr + f.length)

/-- Each element of each struct is in network order, where it was in host order: elements of one byte
are as before, and so is everything behind the structs. -/
structure BigEndian (cfgs : List Cfg) (m m' : Memory) : Prop where
  fields : ∀ front c more, cfgs = front ++ c :: more →
    Reversed m m' c.members (total Cfg.size front)
  beyond : ∀ x, total Cfg.size cfgs ≤ x → m' x = m x

theorem load_eq_reverse_iff {m m' : Memory} {addr width : Nat} :
    m'.load addr width = (m.load addr width).reverse ↔
      ∀ j, j < width → m' (addr + j) = m (addr + (width - 1 - j)) := by
  constructor
  · intro h j hj
    have hj' := congrArg (fun bytes => bytes[j]?) h
    simpa [Memory.load, hj] using hj'
  · intro h
    apply List.ext_getElem
    · simp
    · intro j hj hj'
      rw [Memory.load_getElem, List.getElem_reverse, Memory.load_getElem, Memory.length_load]
      exact h j (by simpa using hj)

theorem reversed_iff {m m' : Memory} {members : List Member} {addr : Nat} :
    Reversed m m' members addr ↔
      ∀ x, addr ≤ x → x < addr + extent (members.map Member.run) →
        m' x = m (runsIndex (members.map Member.run) addr x) := by
  induction members generalizing addr with
  | nil =>
      have hnone : ∀ x, addr ≤ x → x < addr + 0 → m' x = m x := by
        intro x hlo hhi
        omega
      exact ⟨fun _ => hnone, fun _ => trivial⟩
  | cons f members ih =>
      rw [Reversed, ih, List.map_cons, extent_cons]
      have hlen : f.length = f.run.length := rfl
      constructor
      · intro ⟨hfirst, hrest⟩ x hlo hhi
        by_cases hx : x < addr + f.run.length
        · obtain ⟨i, j, hi, hj, rfl⟩ := exists_element hlo hx
          have hbyte : m' (addr + f.run.width * i + j) =
              m (addr + f.run.width * i + (f.run.width - 1 - j)) :=
            load_eq_reverse_iff.mp (hfirst i hi) j hj
          rw [runsIndex_cons_of_lt hx, runsIndex_single hi hj, ← Nat.add_assoc, hbyte,
            ← Nat.add_assoc]
        · rw [hrest x (by omega) (by omega), runsIndex_cons_of_le (by omega), hlen]
      · intro h
        constructor
        · intro i hi
          rw [load_eq_reverse_iff]
          intro j hj
          have hlt : f.width * i + j < f.run.length := element_lt hi hj
          rw [Nat.add_assoc, h _ (by omega) (by omega), runsIndex_cons_of_lt (by omega),
            Nat.add_assoc]
          exact congrArg m (runsIndex_single hi hj)
        · intro x hlo hhi
          rw [h x (by omega) (by omega), runsIndex_cons_of_le (by omega), hlen]

/-! ## Which structs are right -/

def Agree (m : Memory) (runs runs' : List Run) (addr : Nat) : Prop :=
  ∀ x, addr ≤ x → x < addr + extent runs' →
    m (runsIndex runs addr x) = m (runsIndex runs' addr x)

theorem agree_refl (m : Memory) (runs : List Run) (addr : Nat) : Agree m runs runs addr :=
  fun _ _ _ => rfl

theorem agree_congr {m : Memory} {runs runs' more more' : List Run} {addr : Nat}
    (h : ∀ x, runsIndex runs addr x = runsIndex runs' addr x) (h' : coalesce more = coalesce more') :
    Agree m runs more addr ↔ Agree m runs' more' addr := by
  have hextent : extent more = extent more' := by
    rw [← extent_coalesce, h', extent_coalesce]
  unfold Agree
  simp only [h, runsIndex_congr h', hextent]

theorem agree_cons {m : Memory} (r r' : Run) {runs runs' : List Run} {addr : Nat}
    (hlen : r.length = r'.length) :
    Agree m (r :: runs) (r' :: runs') addr ↔
      Agree m [r] [r'] addr ∧ Agree m runs runs' (addr + r'.length) := by
  constructor
  · intro h
    constructor
    · intro x hlo hhi
      rw [extent_cons, extent_nil] at hhi
      have hx := h x hlo (by rw [extent_cons]; omega)
      rw [runsIndex_cons_of_lt (by omega)] at hx
      rw [hx, runsIndex_cons_of_lt (by omega)]
    · intro x hlo hhi
      have hx := h x (by omega) (by rw [extent_cons]; omega)
      rw [runsIndex_cons_of_le (by omega), runsIndex_cons_of_le (by omega), hlen] at hx
      exact hx
  · intro ⟨hfirst, hrest⟩ x hlo hhi
    rw [extent_cons] at hhi
    by_cases hx : x < addr + r'.length
    · rw [runsIndex_cons_of_lt (by omega), hfirst x hlo (by simpa using hx),
        ← runsIndex_cons_of_lt hx]
    · rw [runsIndex_cons_of_le (by omega), runsIndex_cons_of_le (by omega), hlen]
      exact hrest x (by omega) (by omega)

theorem agree_four {m : Memory} (r r' : Run) {addr : Nat} (hlen : r'.length = 4) :
    Agree m [r] [r'] addr ↔
      ∀ j < 4, m (runsIndex [r] addr (addr + j)) = m (runsIndex [r'] addr (addr + j)) := by
  have hextent : extent [r'] = 4 := by simp [hlen]
  rw [Agree, hextent]
  constructor
  · intro h j hj
    exact h (addr + j) (by omega) (by omega)
  · intro h x hlo hhi
    have hx := h (x - addr) (by omega)
    rwa [Nat.add_sub_cancel' hlo] at hx

theorem agree_twice {m : Memory} {addr : Nat} :
    Agree m [⟨1, 4⟩] [⟨4, 1⟩] addr ↔ m addr = m (addr + 3) ∧ m (addr + 1) = m (addr + 2) := by
  rw [agree_four ⟨1, 4⟩ ⟨4, 1⟩ rfl]
  simp only [Nat.forall_lt_succ_right, runsIndex_bytes]
  simp [runsIndex, Run.length]
  grind

theorem agree_halves {m : Memory} {addr : Nat} :
    Agree m [⟨2, 2⟩] [⟨4, 1⟩] addr ↔ m addr = m (addr + 2) ∧ m (addr + 1) = m (addr + 3) := by
  rw [agree_four ⟨2, 2⟩ ⟨4, 1⟩ rfl]
  simp [Nat.forall_lt_succ_right, runsIndex, Run.length]
  grind

theorem agree_kept {m : Memory} {addr : Nat} :
    Agree m [⟨1, 4⟩] [⟨2, 2⟩] addr ↔ m addr = m (addr + 1) ∧ m (addr + 2) = m (addr + 3) := by
  rw [agree_four ⟨1, 4⟩ ⟨2, 2⟩ rfl]
  simp only [Nat.forall_lt_succ_right, runsIndex_bytes]
  simp [runsIndex, Run.length]
  grind

/-- Each struct is converted as its members are, but for those with a slip: the last member of the
struct with `plum_var` is given to `cvt_long`; of the struct with the lens shading table the first
member is converted twice, the fifth one as shorts, and the last two shorts not at all; the bytes of
`smap` are converted as shorts.  None of this shows if the bytes are the same the other way round. -/
def Cfg.Spared (c : Cfg) (m : Memory) (addr : Nat) : Prop :=
  match c with
  | .TUNING_GTM => ∀ i < 9 * 9, m (addr + 24 + 2 * i) = m (addr + 24 + 2 * i + 1) ∧
      (m (addr + 24 + 2 * i) = 0 ∨ m (addr + 24 + 2 * i) = 255)
  | .TUNING_LSC => (m addr = m (addr + 3) ∧ m (addr + 1) = m (addr + 2)) ∧
      (m (addr + 16) = m (addr + 18) ∧ m (addr + 17) = m (addr + 19)) ∧
      (m (addr + 18460) = m (addr + 18461) ∧ m (addr + 18462) = m (addr + 18463))
  | .TUNING_SHARP => ∀ i < 17, m (addr + 356 + 2 * i) = m (addr + 356 + 2 * i + 1)
  | _ => True

theorem agree_lsc {m : Memory} {addr : Nat} :
    Agree m Cfg.TUNING_LSC.runs (Cfg.TUNING_LSC.members.map Member.run) addr ↔
      Cfg.TUNING_LSC.Spared m addr := by
  have hruns : ∀ x, runsIndex Cfg.TUNING_LSC.runs addr x =
      runsIndex [⟨1, 4⟩, ⟨4, 3⟩, ⟨2, 2⟩, ⟨2, 9220⟩, ⟨1, 4⟩] addr x := by
    intro x
    rw [← runsIndex_append_bytes Cfg.TUNING_LSC.runs 4]
    exact runsIndex_congr (by rfl) addr x
  have hmembers : coalesce (Cfg.TUNING_LSC.members.map Member.run) =
      coalesce [⟨4, 1⟩, ⟨4, 3⟩, ⟨4, 1⟩, ⟨2, 9220⟩, ⟨2, 2⟩] := rfl
  rw [agree_congr hruns hmembers]
  -- both are cut at the slips: the first number, the fifth one, and the last two shorts
  rw [agree_cons ⟨1, 4⟩ ⟨4, 1⟩ rfl, agree_cons ⟨4, 3⟩ ⟨4, 3⟩ rfl, agree_cons ⟨2, 2⟩ ⟨4, 1⟩ rfl,
    agree_cons ⟨2, 9220⟩ ⟨2, 9220⟩ rfl, agree_twice, agree_halves, agree_kept]
  simp only [agree_refl, true_and, Run.length, Nat.add_assoc, Nat.reduceMul, Nat.reduceAdd,
    Cfg.Spared]

theorem agree_sharp {m : Memory} {addr : Nat} :
    Agree m Cfg.TUNING_SHARP.runs (Cfg.TUNING_SHARP.members.map Member.run) addr ↔
      Cfg.TUNING_SHARP.Spared m addr := by
  have hruns : ∀ x, runsIndex Cfg.TUNING_SHARP.runs addr x =
      runsIndex [⟨2, 178⟩, ⟨2, 17⟩] addr x := runsIndex_congr (by rfl) addr
  have hmembers : coalesce (Cfg.TUNING_SHARP.members.map Member.run) =
      coalesce [⟨2, 178⟩, ⟨1, 33⟩] := rfl
  rw [agree_congr hruns hmembers]
  -- the shorts over `smap` go one byte further than it does
  rw [agree_cons ⟨2, 178⟩ ⟨2, 178⟩ rfl]
  simp only [agree_refl, true_and]
  show Agree m [⟨2, 17⟩] [⟨1, 33⟩] (addr + 356) ↔
    ∀ i < 17, m (addr + 356 + 2 * i) = m (addr + 356 + 2 * i + 1)
  generalize addr + 356 = start
  have hend : extent [⟨1, 33⟩] = 33 := rfl
  constructor
  · intro h i hi
    have hbyte := h (start + (2 * i + 0)) (by omega) (by omega)
    rw [runsIndex_single hi (by decide), runsIndex_bytes] at hbyte
    exact hbyte.symm
  · intro h x hlo hhi
    obtain ⟨i, j, hi, hj, rfl⟩ : ∃ i j, i < 17 ∧ j < 2 ∧ x = start + (2 * i + j) :=
      exists_element hlo (by omega)
    have hpair : m (start + (2 * i + 0)) = m (start + (2 * i + 1)) := h i hi
    rw [runsIndex_single hi hj, runsIndex_bytes]
    match j with
    | 0 => exact hpair.symm
    | 1 => exact hpair

/-- The accesses of the other structs follow the members, up to the last bytes. -/
theorem Cfg.coalesce_runs {c : Cfg} (hgtm : c ≠ .TUNING_GTM) (hlsc : c ≠ .TUNING_LSC)
    (hsharp : c ≠ .TUNING_SHARP) :
    ∃ rest ∈ [[], [Run.mk 1 544], [Run.mk 1 ISP_CEM_MEM_SIZE]],
      coalesce (c.runs ++ rest) = coalesce (c.members.map Member.run) := by
  revert hgtm hlsc hsharp
  cases c <;> decide

theorem Cfg.agree_iff {c : Cfg} (hgtm : c ≠ .TUNING_GTM) {m : Memory} {addr : Nat} :
    Agree m c.runs (c.members.map Member.run) addr ↔ c.Spared m addr := by
  by_cases hlsc : c = .TUNING_LSC
  · subst hlsc
    exact agree_lsc
  by_cases hsharp : c = .TUNING_SHARP
  · subst hsharp
    exact agree_sharp
  -- what the accesses leave out are elements of one byte
  obtain ⟨rest, hrest, hruns⟩ := Cfg.coalesce_runs hgtm hlsc hsharp
  have hindex : ∀ x, runsIndex c.runs addr x = runsIndex (c.members.map Member.run) addr x := by
    intro x
    rw [← runsIndex_congr hruns]
    simp only [List.mem_cons, List.not_mem_nil, or_false] at hrest
    rcases hrest with rfl | rfl | rfl
    · rw [List.append_nil]
    · rw [runsIndex_append_bytes]
    · rw [runsIndex_append_bytes]
  have hspared : c.Spared m addr := by
    unfold Cfg.Spared
    split
    · contradiction
    · contradiction
    · contradiction
    · trivial
  constructor
  · intro _
    exact hspared
  · intro _ x _ _
    rw [hindex]

theorem sign_cases (b : UInt8) :
    (if 128 ≤ b then (255 : UInt8) else 0) = 0 ∨ (if 128 ≤ b then (255 : UInt8) else 0) = 255 := by
  split
  · exact .inr rfl
  · exact .inl rfl

theorem sign_eq_self {b : UInt8} (h : b = 0 ∨ b = 255) :
    (if 128 ≤ b then (255 : UInt8) else 0) = b := by
  rcases h with rfl | rfl
  · rfl
  · rfl

theorem length_shortsAsLong (bytes : List UInt8) (h : bytes.length = 2) :
    ((Access.shortsAsLong (9 * 9)).convert bytes).length = 2 :=
  Access.length_convert (.shortsAsLong (9 * 9)) bytes h

/-- Both bytes of a converted `plum_var` are its sign. -/
theorem convert_plum_var (addr : Nat) (m : Memory) {i j : Nat} (hi : i < 9 * 9) (hj : j < 2) :
    runAccesses hton Cfg.TUNING_GTM.accesses addr m (addr + 24 + (2 * i + j)) =
      if 128 ≤ m (addr + 24 + 2 * i + 1) then 255 else 0 := by
  show (m.mapElems 4 List.reverse 6 addr).mapElems 2 (Access.shortsAsLong (9 * 9)).convert (9 * 9)
    (addr + 24) (addr + 24 + (2 * i + j)) = _
  have hload : (m.mapElems 4 List.reverse 6 addr).load (addr + 24 + 2 * i) 2 =
      m.load (addr + 24 + 2 * i) 2 := by
    apply Memory.load_congr
    intro x hx _
    exact Memory.mapElems_outside (fun _ h => List.length_reverse.trans h) 6 (.inr (by omega)) m
  rw [Memory.mapElems_inside length_shortsAsLong hi hj, hload]
  match j with
  | 0 => rfl
  | 1 => rfl

theorem convert_gtm_head (addr : Nat) (m : Memory) {x : Nat} (hx : x < addr + 24) :
    runAccesses hton Cfg.TUNING_GTM.accesses addr m x = m (runsIndex [⟨4, 6⟩] addr x) := by
  show (m.mapElems 4 List.reverse 6 addr).mapElems 2 (Access.shortsAsLong (9 * 9)).convert (9 * 9)
    (addr + 24) x = _
  rw [Memory.mapElems_outside length_shortsAsLong _ (.inl hx),
    mapElems_reverse]

theorem reversed_gtm {m : Memory} {addr : Nat} :
    Reversed m (runAccesses hton Cfg.TUNING_GTM.accesses addr m) Cfg.TUNING_GTM.members addr ↔
      Cfg.TUNING_GTM.Spared m addr := by
  have hmembers : ∀ x, runsIndex (Cfg.TUNING_GTM.members.map Member.run) addr x =
      runsIndex [⟨4, 6⟩, ⟨2, 9 * 9⟩] addr x := runsIndex_congr (by rfl) addr
  have hextent : extent (Cfg.TUNING_GTM.members.map Member.run) = 24 + 2 * (9 * 9) := rfl
  have hvar : ∀ i j, i < 9 * 9 → j < 2 →
      runsIndex [⟨4, 6⟩, ⟨2, 9 * 9⟩] addr (addr + 24 + (2 * i + j)) =
        addr + 24 + (2 * i + (2 - 1 - j)) := by
    intro i j hi hj
    have hhead : (Run.mk 4 6).length = 24 := rfl
    rw [runsIndex_cons_of_le (by omega), hhead]
    exact runsIndex_single hi hj
  rw [reversed_iff, hextent]
  simp only [hmembers]
  constructor
  · -- both bytes of a converted `plum_var` are its sign, so both bytes before were
    intro h i hi
    have hlow := h (addr + 24 + (2 * i + 0)) (by omega) (by omega)
    have hhigh := h (addr + 24 + (2 * i + 1)) (by omega) (by omega)
    rw [convert_plum_var addr m hi (by decide), hvar i _ hi (by decide)] at hlow hhigh
    have hsame : m (addr + 24 + 2 * i) = m (addr + 24 + 2 * i + 1) := hhigh.symm.trans hlow
    refine ⟨hsame, ?_⟩
    have hsign := sign_cases (m (addr + 24 + 2 * i + 1))
    rw [hlow] at hsign
    rw [hsame]
    exact hsign
  · intro h x hlo hhi
    by_cases hx : x < addr + 24
    · have hhead : runsIndex [⟨4, 6⟩, ⟨2, 9 * 9⟩] addr x = runsIndex [⟨4, 6⟩] addr x :=
        runsIndex_cons_of_lt hx
      rw [convert_gtm_head addr m hx, hhead]
    · obtain ⟨i, j, hi, hj, rfl⟩ := exists_element (Nat.le_of_not_lt hx)
        (by omega : x < addr + 24 + 2 * (9 * 9))
      have hsame : m (addr + 24 + 2 * i) = m (addr + 24 + 2 * i + 1) := (h i hi).1
      have hbyte : m (addr + 24 + (2 * i + (2 - 1 - j))) = m (addr + 24 + 2 * i + 1) := by
        match j with
        | 0 => rfl
        | 1 => exact hsame
      rw [convert_plum_var addr m hi hj, hvar i j hi hj, hbyte, ← hsame]
      exact sign_eq_self (h i hi).2

/-- A struct is converted to network order if its bytes are spared. -/
theorem Cfg.reversed_iff_spared (c : Cfg) {m : Memory} {addr : Nat} :
    Reversed m (runAccesses hton c.accesses addr m) c.members addr ↔ c.Spared m addr := by
  by_cases hgtm : c = .TUNING_GTM
  · subst hgtm
    exact reversed_gtm
  · rw [reversed_iff, ← Cfg.agree_iff hgtm]
    simp only [Cfg.convert_apply hgtm]
    rfl

theorem Cfg.extent_le_size (c : Cfg) : extent (c.members.map Member.run) ≤ c.size := by
  cases c <;> decide

/-- What comes out for a struct depends on nothing but the struct. -/
theorem reversed_convert_iff {front more : List Cfg} {c : Cfg} {m : Memory} :
    Reversed m (walk Cfg.size (fun c => runAccesses hton c.accesses) (front ++ c :: more) 0 m)
      c.members (total Cfg.size front) ↔ c.Spared m (total Cfg.size front) := by
  have hinside : ∀ x, total Cfg.size front ≤ x → x < total Cfg.size front + c.size →
      walk Cfg.size (fun c => runAccesses hton c.accesses) (front ++ c :: more) 0 m x =
        runAccesses hton c.accesses (total Cfg.size front) m x := by
    intro x hlo hhi
    have hwalk : walk Cfg.size (fun c => runAccesses hton c.accesses) (front ++ c :: more) 0 m x =
        runAccesses hton c.accesses (0 + total Cfg.size front) m x :=
      walk_inside confined_convert (by omega) (by omega) m
    rwa [Nat.zero_add] at hwalk
  rw [← c.reversed_iff_spared, reversed_iff, reversed_iff]
  have hle := c.extent_le_size
  constructor
  · intro h x hlo hhi
    rw [← h x hlo hhi, hinside x hlo (by omega)]
  · intro h x hlo hhi
    rw [← h x hlo hhi, hinside x hlo (by omega)]

theorem bigEndian_iff_spared (params : Params) (group_id cfg_ids : Nat) (cfg_data : Memory) :
    let buffer := (isp_tuning_get_cfg params group_id cfg_ids cfg_data).2
    BigEndian (selected group_id cfg_ids) buffer
        (convert_tuning_cfg_to_network group_id cfg_ids buffer) ↔
      ∀ front c more, selected group_id cfg_ids = front ++ c :: more →
        c.Spared buffer (total Cfg.size front) := by
  intro buffer
  constructor
  · intro h front c more hsel
    have hfields := h.fields front c more hsel
    rw [convert_tuning_cfg_to_network, convert_tuning_cfg_func, hsel] at hfields
    exact reversed_convert_iff.mp hfields
  · intro h
    constructor
    · intro front c more hsel
      rw [convert_tuning_cfg_to_network, convert_tuning_cfg_func, hsel]
      exact reversed_convert_iff.mpr (h front c more hsel)
    · intro x hx
      exact walk_outside confined_convert (.inr (by omega)) buffer

/-- A `plum_var` of 0x0101 is sent as 0. -/
theorem not_bigEndian_plum_var :
    ¬ BigEndian (selected 3 8) (isp_tuning_get_cfg (fun _ _ => 1) 3 8 fun _ => 0).2
      (convert_tuning_cfg_to_network 3 8
        (isp_tuning_get_cfg (fun _ _ => 1) 3 8 fun _ => 0).2) := by
  intro h
  have hsel : selected 3 8 = [] ++ .TUNING_GTM :: [] := by decide
  have hfields := h.fields [] .TUNING_GTM [] hsel
  rw [convert_tuning_cfg_to_network, convert_tuning_cfg_func, hsel] at hfields
  have hbyte := (reversed_convert_iff.mp hfields 0 (by decide)).2
  revert hbyte
  decide

end AwHal.TuningApp
