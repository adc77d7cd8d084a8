import Mathlib.Logic.Function.Basic

/-!
# The display driver as the PQ daemon sees it

Everything that the daemon sets goes through `ioctl` on `/dev/disp`.  The driver keeps the registers
of each display; what it keeps for the gamma table and the colour matrices is its own affair, and so
is which of the calls fail.
-/

namespace AwHal.Pq

open Function

abbrev Word := BitVec 32

structure RegiserPair where
  offset : Word
  value : Word
deriving DecidableEq, Repr

structure ColorEnhanc where
  read : Bool
  contrast : Int
  brightness : Int
  saturation : Int
  hue : Int
deriving DecidableEq, Repr

/-- `struct matrix_user` with the first three rows of its matrix; the last one is constant. -/
structure MatrixUser where
  cmd : Int
  read : Bool
  choice : Int
  matrix : List Int
deriving DecidableEq, Repr

/-- The calls of `ioctl`, with what they point to. -/
inductive DispCall where
  | gammaEnable
  | setGammaTable (de : Int) (lut : List Word)
  | getGammaTable (de : Int) (lut : List Word)
  | setReg (de : Int) (set : List RegiserPair)
  | getReg (de : Int) (set : List RegiserPair)
  | enhance (de : Int) (cm : ColorEnhanc)
  | matrix (de : Int) (us : MatrixUser)
deriving DecidableEq, Repr

structure DispDriver where
  reg : Int → Word → Word
  -- what a call other than those for registers leaves where it points to
  fill : DispCall → DispCall
  -- the result of each call
  results : Nat → Int
  -- the calls so far
  calls : List DispCall

namespace DispDriver

def store (reg : Word → Word) (set : List RegiserPair) : Word → Word :=
  set.foldl (fun reg p => update reg p.offset p.value) reg

def load (reg : Word → Word) (set : List RegiserPair) : List RegiserPair :=
  set.map fun p => { p with value := reg p.offset }

/-- The result of a call, what it points to afterwards, and the driver.  A call that fails does
nothing. -/
def ioctl (disp : DispDriver) (call : DispCall) : Int × DispCall × DispDriver :=
  let ret := disp.results disp.calls.length
  let disp := { disp with calls := disp.calls ++ [call] }
  if ret ≠ 0 then (ret, call, disp)
  else
    match call with
    | .setReg de set =>
        (ret, call, { disp with reg := update disp.reg de (store (disp.reg de) set) })
    | .getReg de set => (ret, .getReg de (load (disp.reg de) set), disp)
    | call => (ret, disp.fill call, disp)

def values : DispCall → List Word
  | .setReg _ set => set.map RegiserPair.value
  | .getReg _ set => set.map RegiserPair.value
  | _ => []

@[simp] theorem ioctl_ret (disp : DispDriver) (call : DispCall) :
    (disp.ioctl call).1 = disp.results disp.calls.length := by
  unfold ioctl
  cases call <;> simp only <;> split <;> rfl

@[simp] theorem ioctl_calls (disp : DispDriver) (call : DispCall) :
    (disp.ioctl call).2.2.calls = disp.calls ++ [call] := by
  unfold ioctl
  cases call <;> simp only <;> split <;> rfl

@[simp] theorem ioctl_results (disp : DispDriver) (call : DispCall) :
    (disp.ioctl call).2.2.results = disp.results := by
  unfold ioctl
  cases call <;> simp only <;> split <;> rfl

theorem ioctl_getReg {disp : DispDriver} (h : disp.results disp.calls.length = 0) (de : Int)
    (set : List RegiserPair) :
    disp.ioctl (.getReg de set) =
      (0, .getReg de (load (disp.reg de) set),
        { disp with calls := disp.calls ++ [.getReg de set] }) := by
  simp [ioctl, h]

theorem ioctl_setReg_reg (disp : DispDriver) (h : disp.results disp.calls.length = 0) (de : Int)
    (set : List RegiserPair) :
    (disp.ioctl (.setReg de set)).2.2.reg de = store (disp.reg de) set := by
  simp [ioctl, h]

theorem store_of_notMem {reg : Word → Word} {set : List RegiserPair} {offset : Word}
    (h : offset ∉ set.map RegiserPair.offset) : store reg set offset = reg offset := by
  induction set generalizing reg with
  | nil => rfl
  | cons p set ih =>
      simp only [List.map_cons, List.mem_cons, not_or] at h
      calc store reg (p :: set) offset
        _ = store (update reg p.offset p.value) set offset := rfl
        _ = update reg p.offset p.value offset := ih h.2
        _ = reg offset := update_of_ne h.1 _ _

theorem store_of_mem {reg : Word → Word} {set : List RegiserPair} {p : RegiserPair}
    (h : (set.map RegiserPair.offset).Nodup) (hp : p ∈ set) :
    store reg set p.offset = p.value := by
  induction set generalizing reg with
  | nil => simp at hp
  | cons q set ih =>
      simp only [List.map_cons, List.nodup_cons] at h
      obtain ⟨hq, hset⟩ := h
      rcases List.mem_cons.mp hp with rfl | hp
      · change store (update reg p.offset p.value) set p.offset = p.value
        rw [store_of_notMem hq, update_self]
      · exact ih hset hp

theorem offsets_zipWith {offsets words : List Word} (hlen : words.length = offsets.length) :
    (List.zipWith RegiserPair.mk offsets words).map RegiserPair.offset = offsets := by
  apply List.ext_getElem
  · simp [hlen]
  · intro i _ _
    simp

theorem map_store {reg : Word → Word} {offsets words : List Word} (h : offsets.Nodup)
    (hlen : words.length = offsets.length) :
    offsets.map (store reg (List.zipWith .mk offsets words)) = words := by
  apply List.ext_getElem
  · simp [hlen]
  · intro i hi hi'
    have hoff : i < offsets.length := by omega
    have hmem : (⟨offsets[i], words[i]⟩ : RegiserPair) ∈
        List.zipWith .mk offsets words := by
      refine List.mem_iff_getElem.mpr ⟨i, by simp; omega, by simp⟩
    have hstore : store reg (List.zipWith .mk offsets words) offsets[i] = words[i] :=
      store_of_mem ((offsets_zipWith hlen).symm ▸ h) hmem
    simpa using hstore

end DispDriver

end AwHal.Pq
