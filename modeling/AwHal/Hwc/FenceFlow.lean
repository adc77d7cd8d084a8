import AwHal.Hwc.WriteBack
import AwHal.Lib.OrderedSet
import AwHal.Lib.Owners
import Mathlib.Data.List.ReduceOption

/-!
# Where the fences go

`Compositor::commit` makes a sync point for a frame and hands duplicates of its fence to everybody
who has to know when the frame is on the screen (`Compositor.cpp`, `Layer.h`, `RotatorManager.cpp`).
`presentDisplay` and `getReleaseFences` pass them on to the client (`Display.cpp`).  A `uniquefd` is
an owner of a descriptor here; no fence has descriptor 0.  The display keeps its device, and its
layers are not those of a write-back.
-/

namespace AwHal.Hwc.FenceFlow

open AwHal.Lib

/-- The `uniquefd` objects, and the variables of the client that hold a descriptor. -/
inductive Owner where
  /-- `mReleaseFence[0]` and `mReleaseFence[1]` of a layer. -/
  | mReleaseFence0 (id : Nat)
  | mReleaseFence1 (id : Nat)
  /-- `mRetireFence` of the display, `RetireFence` of its context. -/
  | mRetireFence
  | contextRetireFence
  | mPreviousPresentFence
  /-- `releaseFence` of the frame for a sync point. -/
  | frame (syncpt : Nat)
  /-- `mReleaseFence` of a slot in a buffer pool of the rotator. -/
  | slot (n : Nat)
  /-- The local `fence` of `commit` and `blank`, of `setReleaseFence` and `postCommit`, and of
  `release`. -/
  | fence
  | argument
  | released
  | client (n : Nat)
deriving DecidableEq

/-- A fence is labelled with the number of its sync point. -/
abbrev Fences : Type := Owners Owner Nat

/-! ## Compositor and layers -/

def setReleaseFence (fds : Fences) (id : Nat) : Fences :=
  let fds := fds.dup .fence .argument
  let fds := fds.move (.mReleaseFence0 id) (.mReleaseFence1 id)
  fds.move .argument (.mReleaseFence0 id)

/-- The buffer is in a slot of the pool, or in none any more. -/
def putRotatedBuffer (fds : Fences) (slot : Option Nat) : Fences :=
  let fds := fds.dup .argument .released
  match slot with
  | some n => fds.move .released (.slot n)
  | none => fds.drop .released

def postCommit (buffers : List (Option Nat)) (fds : Fences) : Fences :=
  (buffers.foldl putRotatedBuffer (fds.dup .fence .argument)).drop .argument

/-- The sync point may fail. -/
def createSyncpt (fds : Fences) (k : Nat) (ok : Bool) : Fences :=
  if ok then fds.create .fence k else fds.drop .fence

def syncPoint (k : Nat) (ok : Bool) : Option Nat := if ok then some k else none

def commitFences (k : Nat) (ok : Bool) (device : List Nat)
    (mRotator : Option (List (Option Nat))) (fds : Fences) : Fences :=
  let fds := createSyncpt fds k ok
  let fds := fds.dup .fence (.frame k)
  let fds := device.foldl setReleaseFence fds
  let fds := fds.dup .fence .contextRetireFence
  let fds := match mRotator with
    | some buffers => postCommit buffers fds
    | none => fds
  fds.move .fence .mPreviousPresentFence

def blankFences (k : Nat) (ok : Bool) (fds : Fences) : Fences :=
  let fds := createSyncpt fds k ok
  let fds := fds.dup .fence (.frame k)
  fds.move .fence .mPreviousPresentFence

def destroyFences (fds : Fences) (id : Nat) : Fences :=
  (fds.drop (.mReleaseFence1 id)).drop (.mReleaseFence0 id)

/-! ## The display -/

structure State where
  fds : Fences := Owners.empty 0
  mNextLayerId : Nat := 0
  /-- The layers of the hash map in the order in which it is iterated. -/
  mLayerStack : List Nat := []
  /-- `InputLayers` of `mContext`. -/
  mContext : Option (List Nat) := none
  mValidatedType : Nat → Composition := fun _ => .Invalid
  mBypass : Bool := false
  mSkipPresent : Bool := false
  mFenceUseless : Bool := false
  /-- The compositor has a plan. -/
  mAssignment : Bool := false
  mBlankOutput : Bool := true
  syncpts : Nat := 0
  clients : Nat := 0
  /-- For each layer the sync points of the commits in which the device composed it, where they
  could be made, and those of the fences that the client got for it. -/
  commits : Nat → List (Option Nat) := fun _ => []
  given : Nat → List Nat := fun _ => []
  /-- The sync points that the presents made, and those of the retire fences they took out, also
  where `mFenceUseless` makes the present close the fence and return -1. -/
  made : List (Option Nat) := []
  retired : List (Option Nat) := []

namespace State

def inputs (s : State) : List Nat := s.mContext.getD []

/-- The layer goes to the front of its bucket. -/
def createLayer (s : State) (bucket : Nat) : State :=
  { s with
    mNextLayerId := s.mNextLayerId + 1
    mLayerStack := s.mLayerStack.take bucket ++ s.mNextLayerId :: s.mLayerStack.drop bucket }

/-- The layer lives on in the context. -/
def destroyLayer (s : State) (id : Nat) : State :=
  if id ∉ s.mLayerStack then s
  else
    { s with
      mLayerStack := s.mLayerStack.erase id
      fds := if id ∈ s.inputs then s.fds else destroyFences s.fds id }

def dead (s : State) : List Nat := s.inputs.filter fun id => id ∉ s.mLayerStack

/-- `types` are what the planner would decide.  The branch of `createComposition` for the valid mode
`WRITEBACK` and the swap of devices by `onPerValidateDisplay` are left out. -/
def validateDisplay (s : State) (zOrder : Nat → Nat) (types : Nat → Composition) : State :=
  if s.mBypass then { s with mFenceUseless := false, mSkipPresent := false }
  else
    -- the old context goes after `prepare`
    { s with
      mFenceUseless := false
      mSkipPresent := false
      mContext := some (setOf zOrder s.mLayerStack)
      mAssignment := !s.mBlankOutput
      mValidatedType := if s.mBlankOutput then s.mValidatedType else types
      fds := s.dead.foldl destroyFences (s.fds.drop .contextRetireFence) }

def device (s : State) (inputs : List Nat) : List Nat :=
  inputs.filter fun id => s.mValidatedType id = .Device

def commit (s : State) (inputs : List Nat) (syncpt : Bool)
    (mRotator : Option (List (Option Nat))) : State :=
  if !s.mAssignment then { s with made := s.made ++ [none] }
  else
    let fds := commitFences s.syncpts syncpt (s.device inputs) mRotator s.fds
    let point := syncPoint s.syncpts syncpt
    { s with
      fds := fds
      mAssignment := false
      syncpts := s.syncpts + 1
      made := s.made ++ [point]
      commits := fun id =>
        if id ∈ s.device inputs then s.commits id ++ [point] else s.commits id }

/-- `*retire_fence` is a new variable of the client. -/
def takeRetireFence (s : State) : State :=
  let fds := s.fds.move .mRetireFence (.client s.clients)
  let fds := fds.move .contextRetireFence .mRetireFence
  { s with
    fds := if s.mFenceUseless then fds.drop (.client s.clients) else fds
    clients := s.clients + 1
    retired := s.retired ++ [s.fds.view .mRetireFence] }

def presentDisplay (s : State) (syncpt : Bool) (mRotator : Option (List (Option Nat))) : State :=
  if s.mSkipPresent then { s with mFenceUseless := true }
  else match s.mContext with
    | none => s
    | some inputs => (s.commit inputs syncpt mRotator).takeRetireFence

def takeReleaseFence (s : State) (id : Nat) : State :=
  let fds := s.fds.move (.mReleaseFence1 id) (.client s.clients)
  let got := if s.mFenceUseless then [] else (s.fds.view (.mReleaseFence1 id)).toList
  { s with
    fds := if s.mFenceUseless then fds.drop (.client s.clients) else fds
    clients := s.clients + 1
    given := Function.update s.given id (s.given id ++ got) }

/-- Without arrays the call asks for the number of layers. -/
def getReleaseFences (s : State) (num_elements : Nat) (arrays : Bool) : State :=
  if arrays then (s.mLayerStack.take num_elements).foldl takeReleaseFence s else s

def blank (s : State) (enabled syncpt : Bool) : State :=
  if !enabled then { s with mBlankOutput := false }
  else
    { s with
      mBlankOutput := true
      fds := blankFences s.syncpts syncpt s.fds
      syncpts := s.syncpts + 1 }

end State

inductive Event where
  | createLayer (bucket : Nat)
  | destroyLayer (id : Nat)
  | validateDisplay (zOrder : Nat → Nat) (types : Nat → Composition)
  | presentDisplay (syncpt : Bool) (mRotator : Option (List (Option Nat)))
  | getReleaseFences (num_elements : Nat) (arrays : Bool)
  | blank (enabled syncpt : Bool)
  | setBypass (bypass : Bool)
  | skipNextPresent
  | setFenceUseless
  /-- `dup(getRetireFence())` of the write-back. -/
  | dupRetireFence
  /-- The thread is done with a frame, a pool with a slot, the client with a fence. -/
  | destroyFrame (syncpt : Nat)
  | destroySlot (n : Nat)
  | close (n : Nat)

def step (s : State) : Event → State
  | .createLayer bucket => s.createLayer bucket
  | .destroyLayer id => s.destroyLayer id
  | .validateDisplay zOrder types => s.validateDisplay zOrder types
  | .presentDisplay syncpt mRotator => s.presentDisplay syncpt mRotator
  | .getReleaseFences num_elements arrays => s.getReleaseFences num_elements arrays
  | .blank enabled syncpt => s.blank enabled syncpt
  | .setBypass bypass => { s with mBypass := bypass }
  | .skipNextPresent => { s with mSkipPresent := true }
  | .setFenceUseless => { s with mFenceUseless := true }
  | .dupRetireFence =>
      { s with fds := s.fds.dup .mRetireFence (.client s.clients), clients := s.clients + 1 }
  | .destroyFrame k => { s with fds := s.fds.drop (.frame k) }
  | .destroySlot n => { s with fds := s.fds.drop (.slot n) }
  | .close n => { s with fds := s.fds.drop (.client n) }

def run (events : List Event) : State := events.foldl step {}

/-! ## What the owners have after a commit -/

theorem view_setReleaseFence (fds : Fences) (id : Nat) (u : Owner) :
    (setReleaseFence fds id).view u =
      if u = .mReleaseFence0 id then fds.view .fence
      else if u = .mReleaseFence1 id then fds.view (.mReleaseFence0 id)
      else if u = .argument then none
      else fds.view u := by
  rw [setReleaseFence, Owners.view_move _ (by simp), Owners.view_move _ (by simp), Owners.view_dup]
  simp only [Function.update_apply]
  split_ifs <;> simp_all

def shift (device : List Nat) (view : Owner → Option Nat) : Owner → Option Nat
  | .mReleaseFence0 id => if id ∈ device then view .fence else view (.mReleaseFence0 id)
  | .mReleaseFence1 id =>
      if id ∈ device then view (.mReleaseFence0 id) else view (.mReleaseFence1 id)
  | u => view u

theorem view_foldl_setReleaseFence {device : List Nat} (hdevice : device.Nodup) {fds : Fences}
    (harg : fds.view .argument = none) :
    (device.foldl setReleaseFence fds).view = shift device fds.view := by
  induction device generalizing fds with
  | nil =>
      funext u
      cases u <;> simp [shift]
  | cons id rest ih =>
      obtain ⟨hid, hrest⟩ := List.nodup_cons.mp hdevice
      rw [List.foldl_cons, ih hrest (by simp [view_setReleaseFence])]
      funext u
      cases u with
      | mReleaseFence0 i =>
          simp only [shift, view_setReleaseFence, List.mem_cons]
          by_cases hi : i = id
          · subst hi
            simp [hid]
          · simp [hi]
      | mReleaseFence1 i =>
          simp only [shift, view_setReleaseFence, List.mem_cons]
          by_cases hi : i = id
          · subst hi
            simp [hid]
          · simp [hi]
      | argument => simp [shift, view_setReleaseFence, harg]
      | _ => simp [shift, view_setReleaseFence]

theorem view_putRotatedBuffer (fds : Fences) (slot : Option Nat) (u : Owner)
    (hu : ∀ n, u ≠ .slot n) :
    (putRotatedBuffer fds slot).view u = if u = .released then none else fds.view u := by
  cases slot with
  | none =>
      simp only [putRotatedBuffer, Owners.view_drop, Owners.view_dup, Function.update_apply]
      split_ifs <;> rfl
  | some n =>
      simp only [putRotatedBuffer]
      rw [Owners.view_move _ (by simp), Owners.view_dup]
      simp only [Function.update_apply, if_neg (hu n)]
      split_ifs <;> rfl

theorem view_postCommit (fds : Fences) (hrel : fds.view .released = none)
    (harg : fds.view .argument = none) (buffers : List (Option Nat)) (u : Owner)
    (hu : ∀ n, u ≠ .slot n) : (postCommit buffers fds).view u = fds.view u := by
  have hfold : ∀ fds : Fences, fds.view .released = none →
      (buffers.foldl putRotatedBuffer fds).view u = fds.view u := by
    intro fds
    induction buffers generalizing fds with
    | nil => exact fun _ => rfl
    | cons slot rest ih =>
        intro hrel
        rw [List.foldl_cons, ih _ (by simp [view_putRotatedBuffer]),
          view_putRotatedBuffer fds slot u hu]
        split
        · rename_i heq
          rw [heq, hrel]
        · rfl
  rw [postCommit, Owners.view_drop, Function.update_apply, hfold _ (by simpa using hrel)]
  split
  · rename_i heq
    rw [heq, harg]
  · rename_i hne
    rw [Owners.view_dup, Function.update_of_ne hne]

@[simp] theorem view_createSyncpt (fds : Fences) (k : Nat) (ok : Bool) :
    (createSyncpt fds k ok).view = Function.update fds.view .fence (syncPoint k ok) := by
  cases ok <;> simp [createSyncpt, syncPoint]

def handOut (k : Nat) (point : Option Nat) (device : List Nat) (view : Owner → Option Nat) :
    Owner → Option Nat
  | .mReleaseFence0 id => if id ∈ device then point else view (.mReleaseFence0 id)
  | .mReleaseFence1 id =>
      if id ∈ device then view (.mReleaseFence0 id) else view (.mReleaseFence1 id)
  | .contextRetireFence | .mPreviousPresentFence => point
  | .frame i => if i = k then point else view (.frame i)
  | .fence => none
  | u => view u

theorem view_commitFences {fds : Fences} (hrel : fds.view .released = none)
    (harg : fds.view .argument = none) (k : Nat) (ok : Bool) {device : List Nat}
    (hdevice : device.Nodup) (mRotator : Option (List (Option Nat))) (u : Owner)
    (hu : ∀ n, u ≠ .slot n) :
    (commitFences k ok device mRotator fds).view u =
      handOut k (syncPoint k ok) device fds.view u := by
  -- up to the part of the rotator
  have hmid : ∀ u, (((device.foldl setReleaseFence
      ((createSyncpt fds k ok).dup .fence (.frame k))).dup .fence .contextRetireFence).view u) =
        if u = .fence then syncPoint k ok
        else if u = .mPreviousPresentFence then fds.view u
        else handOut k (syncPoint k ok) device fds.view u := by
    intro u
    rw [Owners.view_dup, view_foldl_setReleaseFence hdevice (by simp [harg]), Owners.view_dup,
      view_createSyncpt]
    cases u <;> simp [Function.update_apply, shift, handOut]
  unfold commitFences
  rw [Owners.view_move _ (by simp)]
  simp only [Function.update_apply]
  cases mRotator with
  | none =>
      simp only [hmid]
      cases u <;> simp [handOut]
  | some buffers =>
      have hpost := view_postCommit ((device.foldl setReleaseFence
        ((createSyncpt fds k ok).dup .fence (.frame k))).dup .fence .contextRetireFence)
        (by simp [hmid, handOut, hrel]) (by simp [hmid, handOut, harg]) buffers
      simp only [hpost u hu, hpost .fence (by simp), hmid]
      cases u <;> simp [handOut]

theorem view_blankFences (k : Nat) (ok : Bool) (fds : Fences) (u : Owner) :
    (blankFences k ok fds).view u =
      if u = .fence then none
      else if u = .mPreviousPresentFence ∨ u = .frame k then syncPoint k ok
      else fds.view u := by
  rw [blankFences, Owners.view_move _ (by simp), Owners.view_dup, view_createSyncpt]
  simp only [Function.update_apply]
  split_ifs <;> simp_all

@[simp] theorem view_destroyFences (fds : Fences) (id : Nat) (u : Owner) :
    (destroyFences fds id).view u =
      if u = .mReleaseFence0 id ∨ u = .mReleaseFence1 id then none else fds.view u := by
  simp only [destroyFences, Owners.view_drop, Function.update_apply]
  split_ifs <;> simp_all

theorem view_foldl_destroyFences (dead : List Nat) (fds : Fences) (u : Owner) :
    (dead.foldl destroyFences fds).view u =
      if ∃ id ∈ dead, u = .mReleaseFence0 id ∨ u = .mReleaseFence1 id then none
      else fds.view u := by
  induction dead generalizing fds with
  | nil => simp
  | cons id rest ih =>
      rw [List.foldl_cons, ih, view_destroyFences]
      simp only [List.mem_cons, exists_eq_or_imp]
      by_cases hrest : ∃ id ∈ rest, u = .mReleaseFence0 id ∨ u = .mReleaseFence1 id
      · simp only [hrest, or_true, if_true]
      · simp only [hrest, or_false, if_false]

theorem view_takeRetireFence (s : State) (u : Owner) :
    s.takeRetireFence.fds.view u =
      if u = .mRetireFence then s.fds.view .contextRetireFence
      else if u = .contextRetireFence then none
      else if u = .client s.clients then
        if s.mFenceUseless then none else s.fds.view .mRetireFence
      else s.fds.view u := by
  have hmove : ∀ u, ((s.fds.move .mRetireFence (.client s.clients)).move .contextRetireFence
      .mRetireFence).view u =
        if u = .mRetireFence then s.fds.view .contextRetireFence
        else if u = .contextRetireFence then none
        else if u = .client s.clients then s.fds.view .mRetireFence
        else s.fds.view u := by
    intro u
    rw [Owners.view_move _ (by simp), Owners.view_move _ (by simp)]
    simp only [Function.update_apply]
    split_ifs <;> simp_all
  unfold State.takeRetireFence
  cases s.mFenceUseless with
  | false => simpa using hmove u
  | true =>
      simp only [if_true, Owners.view_drop, Function.update_apply, hmove]
      split_ifs <;> simp_all

theorem view_takeReleaseFence (s : State) (id : Nat) (u : Owner) :
    (s.takeReleaseFence id).fds.view u =
      if u = .mReleaseFence1 id then none
      else if u = .client s.clients then
        if s.mFenceUseless then none else s.fds.view (.mReleaseFence1 id)
      else s.fds.view u := by
  unfold State.takeReleaseFence
  cases s.mFenceUseless with
  | false =>
      simp only [Bool.false_eq_true, if_false]
      rw [Owners.view_move _ (by simp)]
      simp only [Function.update_apply]
  | true =>
      simp only [if_true, Owners.view_drop]
      rw [Owners.view_move _ (by simp)]
      simp only [Function.update_apply]
      split_ifs <;> simp_all

/-! ## The fences of one layer -/

/-- What is known of the two fences of a layer; one that is dead has none. -/
structure LayerInv (commits : List (Option Nat)) (given : List Nat) (mReleaseFence0 mReleaseFence1 :
    Option Nat) (alive : Prop) : Prop where
  sublist : (given.map some).Sublist commits.dropLast
  replaced : ∀ p, mReleaseFence1 = some p →
    ∃ older, commits.dropLast = older ++ [some p] ∧ (given.map some).Sublist older
  queued : alive → mReleaseFence0 = commits.getLast?.getD none

namespace LayerInv

variable {commits : List (Option Nat)} {given : List Nat} {fence0 fence1 : Option Nat}
  {alive : Prop}

theorem start (alive : Prop) : LayerInv [] [] none none alive :=
  ⟨List.Sublist.refl _, nofun, fun _ => rfl⟩

theorem dead (h : LayerInv commits given fence0 fence1 alive) :
    LayerInv commits given none none False :=
  ⟨h.sublist, nofun, nofun⟩

theorem of_imp {alive' : Prop} (h : LayerInv commits given fence0 fence1 alive)
    (himp : alive' → alive) : LayerInv commits given fence0 fence1 alive' :=
  ⟨h.sublist, h.replaced, fun halive => h.queued (himp halive)⟩

theorem commit (h : LayerInv commits given fence0 fence1 alive) (halive : alive)
    (point : Option Nat) : LayerInv (commits ++ [point]) given point fence0 alive := by
  refine ⟨?_, ?_, fun _ => by simp⟩
  · rw [List.dropLast_concat]
    exact h.sublist.trans (List.dropLast_sublist commits)
  · intro p hp
    rw [List.dropLast_concat]
    have hlast : commits.getLast? = some (some p) := by
      have hqueued := h.queued halive
      rw [hp] at hqueued
      cases hget : commits.getLast? with
      | none => simp [hget] at hqueued
      | some q => simpa [hget] using hqueued.symm
    exact ⟨commits.dropLast, (List.dropLast_append_getLast? _ hlast).symm, h.sublist⟩

theorem take (h : LayerInv commits given fence0 fence1 alive) :
    LayerInv commits (given ++ fence1.toList) fence0 none alive := by
  refine ⟨?_, nofun, h.queued⟩
  cases fence1 with
  | none => simpa using h.sublist
  | some p =>
      obtain ⟨older, hdrop, hgiven⟩ := h.replaced p rfl
      rw [hdrop]
      simpa using hgiven

theorem close (h : LayerInv commits given fence0 fence1 alive) :
    LayerInv commits given fence0 none alive :=
  ⟨h.sublist, nofun, h.queued⟩

theorem eq_of_nil (h : LayerInv [] given fence0 fence1 alive) : given = [] ∧ fence1 = none := by
  constructor
  · simpa using h.sublist
  · cases fence1 with
    | none => rfl
    | some p =>
        obtain ⟨older, hdrop, -⟩ := h.replaced p rfl
        simp at hdrop

end LayerInv

/-! ## The invariant -/

namespace State

def Alive (s : State) (id : Nat) : Prop := id ∈ s.mLayerStack ∨ id ∈ s.inputs

def Owns (s : State) : Owner → Prop
  | .mReleaseFence0 id | .mReleaseFence1 id => s.Alive id
  | .mRetireFence | .mPreviousPresentFence | .slot _ => True
  | .frame k => k < s.syncpts
  | .client n => n < s.clients
  | .contextRetireFence | .fence | .argument | .released => False

end State

structure Base (s : State) : Prop where
  stack : s.mLayerStack.Nodup
  inputs : s.inputs.Nodup
  ids : ∀ id, s.Alive id → id < s.mNextLayerId
  unborn : ∀ id, s.mNextLayerId ≤ id → s.commits id = []
  layer : ∀ id, LayerInv (s.commits id) (s.given id) (s.fds.view (.mReleaseFence0 id))
    (s.fds.view (.mReleaseFence1 id)) (s.Alive id)
  points : ∀ id p, some p ∈ s.commits id → p < s.syncpts
  increasing : ∀ id, (s.commits id).reduceOption.Pairwise (· < ·)

structure Inv (s : State) : Prop extends Base s where
  owns : ∀ u, s.fds.view u ≠ none → s.Owns u
  retire : none :: s.made = s.retired ++ [s.fds.view .mRetireFence]

/-- In `presentDisplay`, when the frame is committed. -/
structure Committed (s : State) : Prop extends Base s where
  owns : ∀ u, s.fds.view u ≠ none → u = .contextRetireFence ∨ s.Owns u
  retire : none :: s.made =
    s.retired ++ [s.fds.view .mRetireFence, s.fds.view .contextRetireFence]

namespace Inv

variable {s : State}

theorem start : Inv {} where
  stack := List.nodup_nil
  inputs := List.nodup_nil
  ids := by simp [State.Alive, State.inputs]
  unborn _ _ := rfl
  owns u hu := absurd rfl hu
  layer id := LayerInv.start _
  retire := rfl
  points := by simp
  increasing _ := List.Pairwise.nil

theorem view_eq_none (h : Inv s) {u : Owner} (hu : ¬ s.Owns u) : s.fds.view u = none :=
  not_not.mp fun hne => hu (h.owns u hne)

theorem createLayer (h : Inv s) (bucket : Nat) : Inv (s.createLayer bucket) := by
  have hperm : (s.createLayer bucket).mLayerStack.Perm (s.mNextLayerId :: s.mLayerStack) := by
    refine List.perm_middle.trans (List.Perm.cons _ ?_)
    rw [List.take_append_drop]
  have hnew : ¬ s.Alive s.mNextLayerId := fun halive => Nat.lt_irrefl _ (h.ids _ halive)
  have halive : ∀ id, (s.createLayer bucket).Alive id ↔ id = s.mNextLayerId ∨ s.Alive id := by
    intro id
    rw [State.Alive, hperm.mem_iff, List.mem_cons, or_assoc]
    rfl
  refine ⟨⟨?_, h.inputs, ?_, ?_, ?_, h.points, h.increasing⟩, ?_, h.retire⟩
  · rw [hperm.nodup_iff]
    exact List.nodup_cons.mpr ⟨fun hmem => hnew (.inl hmem), h.stack⟩
  · intro id hid
    rcases (halive id).mp hid with rfl | hid
    · exact Nat.lt_succ_self _
    · exact Nat.lt_succ_of_lt (h.ids id hid)
  · exact fun id hid => h.unborn id (Nat.le_of_succ_le hid)
  · intro id
    have hlayer := h.layer id
    by_cases hid : id = s.mNextLayerId
    · subst hid
      have hnil := h.unborn _ (Nat.le_refl _)
      have hnone := h.view_eq_none (u := .mReleaseFence0 s.mNextLayerId) hnew
      show LayerInv (s.commits _) (s.given _) (s.fds.view _) (s.fds.view _) _
      rw [hnil] at hlayer
      rw [hnil, hlayer.eq_of_nil.1, hlayer.eq_of_nil.2, hnone]
      exact LayerInv.start _
    · exact hlayer.of_imp fun hid' => ((halive id).mp hid').resolve_left hid
  · intro u hu
    have howns := h.owns u hu
    cases u with
    | mReleaseFence0 id => exact (halive id).mpr (.inr howns)
    | mReleaseFence1 id => exact (halive id).mpr (.inr howns)
    | _ => exact howns

theorem destroyLayer (h : Inv s) (id : Nat) : Inv (s.destroyLayer id) := by
  unfold State.destroyLayer
  split
  · exact h
  · rename_i hmem
    rw [not_not] at hmem
    -- the layer is alive in the new state if the context still has it
    have halive : ∀ i, (i ∈ s.mLayerStack.erase id ∨ i ∈ s.inputs) ↔
        s.Alive i ∧ (i = id → id ∈ s.inputs) := by
      intro i
      rw [State.Alive, h.stack.mem_erase_iff]
      by_cases hi : i = id
      · subst hi
        simp [hmem]
      · simp [hi]
    refine ⟨⟨h.stack.erase id, h.inputs, ?_, h.unborn, ?_, h.points, h.increasing⟩, ?_, ?_⟩
    · exact fun i hi => h.ids i ((halive i).mp hi).1
    · intro i
      by_cases hin : id ∈ s.inputs
      · simp only [hin, if_true]
        exact (h.layer i).of_imp fun hi => ((halive i).mp hi).1
      · simp only [hin, if_false, view_destroyFences]
        simp only [Owner.mReleaseFence0.injEq, Owner.mReleaseFence1.injEq, reduceCtorEq, or_false,
          false_or]
        by_cases hi : i = id
        · subst hi
          simp only [if_true]
          exact (h.layer i).dead.of_imp fun hi => hin (((halive i).mp hi).2 rfl)
        · simp only [if_neg hi]
          exact (h.layer i).of_imp fun hi => ((halive i).mp hi).1
    · intro u hu
      by_cases hin : id ∈ s.inputs
      · simp only [hin, if_true] at hu
        have howns := h.owns u hu
        cases u with
        | mReleaseFence0 i => exact (halive i).mpr ⟨howns, fun _ => hin⟩
        | mReleaseFence1 i => exact (halive i).mpr ⟨howns, fun _ => hin⟩
        | _ => exact howns
      · simp only [hin, if_false, view_destroyFences] at hu
        rw [ne_eq, ite_eq_left_iff, not_forall] at hu
        obtain ⟨hne, hu⟩ := hu
        have howns := h.owns u hu
        cases u with
        | mReleaseFence0 i => exact (halive i).mpr ⟨howns, fun hi => absurd (by simp [hi]) hne⟩
        | mReleaseFence1 i => exact (halive i).mpr ⟨howns, fun hi => absurd (by simp [hi]) hne⟩
        | _ => exact howns
    · by_cases hin : id ∈ s.inputs
      · simpa [hin] using h.retire
      · simpa [hin] using h.retire

theorem validateDisplay (h : Inv s) (zOrder : Nat → Nat) (types : Nat → Composition) :
    Inv (s.validateDisplay zOrder types) := by
  unfold State.validateDisplay
  split
  · exact ⟨⟨h.stack, h.inputs, h.ids, h.unborn, h.layer, h.points, h.increasing⟩, h.owns, h.retire⟩
  · have hdead : ∀ id, id ∈ s.dead ↔ id ∈ s.inputs ∧ id ∉ s.mLayerStack := by
      intro id
      rw [State.dead, List.mem_filter, decide_eq_true_iff]
    have halive : ∀ id, (id ∈ s.mLayerStack ∨ id ∈ setOf zOrder s.mLayerStack) ↔
        id ∈ s.mLayerStack := fun id => or_iff_left_of_imp mem_of_mem_setOf
    have hview : ∀ u, (s.dead.foldl destroyFences (s.fds.drop .contextRetireFence)).view u =
        if ∃ id ∈ s.dead, u = .mReleaseFence0 id ∨ u = .mReleaseFence1 id then none
        else s.fds.view u := by
      intro u
      have hcontext := h.view_eq_none (u := .contextRetireFence) not_false
      rw [view_foldl_destroyFences, Owners.view_drop,
        Function.update_eq_self_iff.mpr hcontext.symm]
    refine ⟨⟨h.stack, nodup_setOf s.mLayerStack, ?_, h.unborn, ?_, h.points, h.increasing⟩, ?_, ?_⟩
    · exact fun id hid => h.ids id (.inl ((halive id).mp hid))
    · intro id
      have hlayer := h.layer id
      have hfence : ∀ u : Owner, (u = .mReleaseFence0 id ∨ u = .mReleaseFence1 id) →
          ((∃ i ∈ s.dead, u = .mReleaseFence0 i ∨ u = .mReleaseFence1 i) ↔
            id ∈ s.inputs ∧ id ∉ s.mLayerStack) := by
        intro u hu
        simp only [hdead]
        constructor
        · rintro ⟨i, hi, hui⟩
          rcases hu with rfl | rfl <;> simp_all
        · exact fun hid => ⟨id, hid, hu⟩
      simp only [hview, hfence _ (.inl rfl), hfence _ (.inr rfl)]
      by_cases hid : id ∈ s.inputs ∧ id ∉ s.mLayerStack
      · simp only [if_pos hid]
        exact hlayer.dead.of_imp fun hi => hid.2 ((halive id).mp hi)
      · simp only [if_neg hid]
        exact hlayer.of_imp fun hi => .inl ((halive id).mp hi)
    · intro u hu
      rw [hview, ne_eq, ite_eq_left_iff, not_forall] at hu
      obtain ⟨hlive, hu⟩ := hu
      have howns := h.owns u hu
      -- a layer that only the old context had is dead
      have hkept : ∀ id, (u = .mReleaseFence0 id ∨ u = .mReleaseFence1 id) → s.Alive id →
          id ∈ s.mLayerStack := by
        intro id hid halive
        by_contra hmem
        exact hlive ⟨id, (hdead id).mpr ⟨halive.resolve_left hmem, hmem⟩, hid⟩
      cases u with
      | mReleaseFence0 id => exact (halive id).mpr (hkept id (.inl rfl) howns)
      | mReleaseFence1 id => exact (halive id).mpr (hkept id (.inr rfl) howns)
      | _ => exact howns
    · have hretire := h.retire
      simpa [hview] using hretire

/-! ### `presentDisplay` -/

theorem commit (h : Inv s) (syncpt : Bool) (mRotator : Option (List (Option Nat))) :
    Committed (s.commit s.inputs syncpt mRotator) := by
  unfold State.commit
  split
  · refine ⟨⟨h.stack, h.inputs, h.ids, h.unborn, h.layer, h.points, h.increasing⟩,
      fun u hu => .inr (h.owns u hu), ?_⟩
    rw [h.view_eq_none (u := .contextRetireFence) not_false, ← List.cons_append, h.retire,
      List.append_assoc, List.singleton_append]
  · have hview := fun u => view_commitFences (h.view_eq_none (u := .released) not_false)
      (h.view_eq_none (u := .argument) not_false) s.syncpts syncpt
      (h.inputs.filter fun id => s.mValidatedType id = .Device) mRotator u
    have halive : ∀ id ∈ s.device s.inputs, s.Alive id :=
      fun id hid => .inr (List.mem_of_mem_filter hid)
    have hpoint : ∀ p, syncPoint s.syncpts syncpt = some p → p = s.syncpts := by
      intro p hp
      cases syncpt with
      | false => cases hp
      | true => exact (Option.some.inj hp).symm
    refine ⟨⟨h.stack, h.inputs, h.ids, ?_, ?_, ?_, ?_⟩, ?_, ?_⟩
    · intro id hid
      have hnot : id ∉ s.device s.inputs :=
        fun hmem => Nat.not_lt.mpr hid (h.ids id (halive id hmem))
      simpa [hnot] using h.unborn id hid
    · intro id
      have hlayer := h.layer id
      dsimp only
      rw [State.device, hview _ (by simp), hview _ (by simp)]
      simp only [handOut]
      by_cases hid : id ∈ s.device s.inputs
      · rw [State.device] at hid
        simp only [if_pos hid]
        exact hlayer.commit (halive id hid) _
      · rw [State.device] at hid
        simp only [if_neg hid]
        exact hlayer
    · intro id p hp
      dsimp only at hp
      split at hp
      · rcases List.mem_append.mp hp with hp | hp
        · exact Nat.lt_succ_of_lt (h.points id p hp)
        · rw [hpoint p (List.mem_singleton.mp hp).symm]
          exact Nat.lt_succ_self _
      · exact Nat.lt_succ_of_lt (h.points id p hp)
    · intro id
      dsimp only
      split
      · rw [List.reduceOption_append, List.pairwise_append]
        refine ⟨h.increasing id, ?_, ?_⟩
        · cases syncpt <;> simp [syncPoint, List.reduceOption]
        · intro p hp q hq
          rw [List.reduceOption_mem_iff] at hp hq
          rw [hpoint q (List.mem_singleton.mp hq).symm]
          exact h.points id p hp
      · exact h.increasing id
    · intro u hu
      by_cases hslot : ∃ n, u = .slot n
      · obtain ⟨n, rfl⟩ := hslot
        exact .inr trivial
      · rw [State.device, hview u (not_exists.mp hslot)] at hu
        cases u with
        | mReleaseFence0 id =>
            simp only [handOut] at hu
            split at hu
            · rename_i hid
              exact .inr (halive id hid)
            · exact .inr (h.owns _ hu)
        | mReleaseFence1 id =>
            simp only [handOut] at hu
            split at hu
            · rename_i hid
              exact .inr (halive id hid)
            · exact .inr (h.owns _ hu)
        | mRetireFence => exact .inr trivial
        | contextRetireFence => exact .inl rfl
        | mPreviousPresentFence => exact .inr trivial
        | frame k =>
            simp only [handOut] at hu
            split at hu
            · rename_i hk
              exact .inr (hk ▸ Nat.lt_succ_self _)
            · exact .inr (Nat.lt_succ_of_lt (h.owns _ hu))
        | slot n => exact .inr trivial
        | fence => exact absurd rfl hu
        | argument => exact .inr (h.owns _ hu)
        | released => exact .inr (h.owns _ hu)
        | client n => exact .inr (h.owns _ hu)
    · dsimp only
      rw [State.device, hview _ (by simp), hview _ (by simp), ← List.cons_append, h.retire,
        List.append_assoc, List.singleton_append]
      rfl

theorem takeRetireFence (h : Committed s) : Inv s.takeRetireFence := by
  have hview := view_takeRetireFence s
  refine ⟨⟨h.stack, h.inputs, h.ids, h.unborn, ?_, h.points, h.increasing⟩, ?_, ?_⟩
  · intro id
    rw [hview, hview]
    simp only [reduceCtorEq, if_false]
    exact h.layer id
  · intro u hu
    rw [hview] at hu
    have howns := h.owns u
    cases u with
    | mRetireFence => trivial
    | contextRetireFence => simp at hu
    | client n =>
        by_cases hn : n = s.clients
        · exact hn ▸ Nat.lt_succ_self _
        · have hu' : s.fds.view (.client n) ≠ none := by simpa [hn] using hu
          exact Nat.lt_succ_of_lt ((howns hu').resolve_left (by simp))
    | _ => exact (howns (by simpa using hu)).resolve_left (by simp)
  · rw [hview, if_pos rfl]
    show none :: s.made = (s.retired ++ [_]) ++ _
    rw [h.retire, List.append_assoc]
    rfl

theorem presentDisplay (h : Inv s) (syncpt : Bool) (mRotator : Option (List (Option Nat))) :
    Inv (s.presentDisplay syncpt mRotator) := by
  unfold State.presentDisplay
  split
  · exact ⟨⟨h.stack, h.inputs, h.ids, h.unborn, h.layer, h.points, h.increasing⟩, h.owns, h.retire⟩
  · split
    · exact h
    · rename_i inputs hcontext
      have hinputs : inputs = s.inputs := by rw [State.inputs, hcontext, Option.getD_some]
      rw [hinputs]
      exact takeRetireFence (h.commit syncpt mRotator)

/-! ### The other calls -/

theorem takeReleaseFence (h : Inv s) (id : Nat) : Inv (s.takeReleaseFence id) := by
  have hview := view_takeReleaseFence s id
  refine ⟨⟨h.stack, h.inputs, h.ids, h.unborn, ?_, h.points, h.increasing⟩, ?_, ?_⟩
  · intro i
    have hlayer := h.layer i
    rw [hview, hview]
    simp only [reduceCtorEq, if_false, Owner.mReleaseFence1.injEq]
    by_cases hi : i = id
    · subst hi
      simp only [State.takeReleaseFence, Function.update_self, if_true]
      cases s.mFenceUseless with
      | true =>
          simp only [if_true, List.append_nil]
          exact hlayer.close
      | false => exact hlayer.take
    · simp only [State.takeReleaseFence, Function.update_of_ne hi, if_neg hi]
      exact hlayer
  · intro u hu
    rw [hview] at hu
    have howns := h.owns u
    cases u with
    | mReleaseFence1 i =>
        refine howns ?_
        by_cases hi : i = id <;> simp_all
    | client n =>
        by_cases hn : n = s.clients
        · exact hn ▸ Nat.lt_succ_self _
        · exact Nat.lt_succ_of_lt (howns (by simpa [hn] using hu))
    | _ => exact howns (by simpa using hu)
  · rw [hview]
    exact h.retire

theorem of_view (h : Inv s) {fds : Fences} {syncpts : Nat} (clients : Nat)
    (hsyncpts : s.syncpts ≤ syncpts)
    (hlayer : ∀ id, fds.view (.mReleaseFence0 id) = s.fds.view (.mReleaseFence0 id) ∧
      fds.view (.mReleaseFence1 id) = s.fds.view (.mReleaseFence1 id))
    (hretire : fds.view .mRetireFence = s.fds.view .mRetireFence)
    (howns : ∀ u, fds.view u ≠ none →
      State.Owns { s with syncpts := syncpts, clients := clients } u) (blank : Bool) :
    Inv { s with fds := fds, syncpts := syncpts, clients := clients, mBlankOutput := blank } := by
  refine ⟨⟨h.stack, h.inputs, h.ids, h.unborn, ?_, ?_, h.increasing⟩, howns, ?_⟩
  · intro id
    dsimp only
    rw [(hlayer id).1, (hlayer id).2]
    exact h.layer id
  · exact fun id p hp => Nat.lt_of_lt_of_le (h.points id p hp) hsyncpts
  · dsimp only
    rw [hretire]
    exact h.retire

theorem drop (h : Inv s) {u : Owner}
    (hlayer : ∀ id, u ≠ .mReleaseFence0 id ∧ u ≠ .mReleaseFence1 id) (hretire : u ≠ .mRetireFence) :
    Inv { s with fds := s.fds.drop u } := by
  refine h.of_view s.clients (Nat.le_refl _) ?_ ?_ ?_ s.mBlankOutput
  · intro id
    simp [(hlayer id).1.symm, (hlayer id).2.symm]
  · simp [hretire.symm]
  · intro v hv
    rw [Owners.view_drop, Function.update_apply] at hv
    split at hv
    · exact absurd rfl hv
    · exact h.owns v hv

theorem blank (h : Inv s) (enabled syncpt : Bool) : Inv (s.blank enabled syncpt) := by
  unfold State.blank
  split
  · exact ⟨⟨h.stack, h.inputs, h.ids, h.unborn, h.layer, h.points, h.increasing⟩, h.owns, h.retire⟩
  · have hview := view_blankFences s.syncpts syncpt s.fds
    refine h.of_view s.clients (Nat.le_succ _) ?_ ?_ ?_ true
    · intro id
      simp [hview]
    · simp [hview]
    · intro u hu
      rw [hview] at hu
      split_ifs at hu with hfence hpoint
      · exact absurd rfl hu
      · rcases hpoint with rfl | rfl
        · trivial
        · exact Nat.lt_succ_self _
      · have howns := h.owns u hu
        cases u with
        | frame k => exact Nat.lt_succ_of_lt howns
        | _ => exact howns

theorem dupRetireFence (h : Inv s) : Inv (step s .dupRetireFence) := by
  refine h.of_view _ (Nat.le_refl _) ?_ ?_ ?_ s.mBlankOutput
  · simp
  · simp
  · intro u hu
    rw [Owners.view_dup, Function.update_apply] at hu
    split at hu
    · rename_i heq
      exact heq ▸ Nat.lt_succ_self _
    · have howns := h.owns u hu
      cases u with
      | client n => exact Nat.lt_succ_of_lt howns
      | _ => exact howns

theorem step (h : Inv s) (e : Event) : Inv (step s e) := by
  cases e with
  | createLayer bucket => exact h.createLayer bucket
  | destroyLayer id => exact h.destroyLayer id
  | validateDisplay zOrder types => exact h.validateDisplay zOrder types
  | presentDisplay syncpt mRotator => exact h.presentDisplay syncpt mRotator
  | getReleaseFences num_elements arrays =>
      simp only [FenceFlow.step, State.getReleaseFences]
      split
      · refine List.foldlRecOn _ _ h ?_
        intro t ht id _
        exact ht.takeReleaseFence id
      · exact h
  | blank enabled syncpt => exact h.blank enabled syncpt
  | dupRetireFence => exact h.dupRetireFence
  | destroyFrame k => exact h.drop (by simp) (by simp)
  | destroySlot n => exact h.drop (by simp) (by simp)
  | close n => exact h.drop (by simp) (by simp)
  | _ =>
      exact ⟨⟨h.stack, h.inputs, h.ids, h.unborn, h.layer, h.points, h.increasing⟩, h.owns,
        h.retire⟩

end Inv

theorem inv_run (events : List Event) : Inv (run events) := by
  refine List.foldlRecOn events step Inv.start ?_
  intro s h e _
  exact h.step e

/-! ## What the client gets -/

/-- For a layer the client gets fences of earlier commits than the last one that put the layer on
the screen, in order and each at most once; the next one it gets is that of the commit before the
last. -/
theorem release_fences_behind (events : List Event) (id : Nat) :
    (((run events).given id).map some).Sublist ((run events).commits id).dropLast ∧
      ((run events).given id).Pairwise (· < ·) ∧
      ∀ p, (run events).fds.view (.mReleaseFence1 id) = some p →
        ∃ older, ((run events).commits id).dropLast = older ++ [some p] ∧
          (((run events).given id).map some).Sublist older := by
  have hinv := inv_run events
  have hlayer := hinv.layer id
  refine ⟨hlayer.sublist, ?_, hlayer.replaced⟩
  have hsub : ((run events).given id).Sublist ((run events).commits id).reduceOption := by
    have hmap := (hlayer.sublist.trans (List.dropLast_sublist _)).filterMap fun p => p
    rw [List.filterMap_map, show (fun p : Option Nat => p) ∘ some = some from rfl,
      List.filterMap_some] at hmap
    exact hmap
  exact (hinv.increasing id).sublist hsub

/-- A layer on the screen for three frames. -/
example :
    let frame : List Event :=
      [.validateDisplay id fun _ => .Device, .presentDisplay true none, .getReleaseFences 1 true]
    (run (.blank false true :: .createLayer 0 :: (frame ++ frame ++ frame))).given 0 = [0, 1] := by
  decide

end AwHal.Hwc.FenceFlow
