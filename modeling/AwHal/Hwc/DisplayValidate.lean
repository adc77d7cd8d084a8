import AwHal.Lib.OrderedSet
import AwHal.Hwc.Compositor
import AwHal.Hwc.WriteBack

/-!
# The layers that `validateDisplay` sees

`mLayerStack` is a hash map, listed here in the order in which it is iterated; a composition holds a
set of layers ordered by their z.  `validateDisplay` counts changed layers in the set, and
`getChangedCompositionTypes` counts them in the map.
-/

namespace AwHal.Hwc

open AwHal.Lib

variable {F : Type}

def Layer.compositionChanged (types : Nat → Composition) (layer : Layer F) : Bool :=
  layer.requestType != types layer.id

/-- The `CompositionContext` that `createComposition` fills in, before it is prepared. -/
def CompositionInput.context (mWriteBackLyr : Layer F) (mClientTarget : Option (Layer F)) :
    CompositionInput F → CompositionContext F
  | .layerStack layers =>
      { InputLayers := setOf Layer.zOrder layers, FramebufferTarget := mClientTarget }
  | .writeBackLyr =>
      { InputLayers := setOf Layer.zOrder [mWriteBackLyr], FramebufferTarget := mClientTarget }

/-- What a display composes with: the written back layer, the client target, and `prepare` of its
connection, of which only the validated types that it leaves matter here. -/
structure Connection (F : Type) where
  mWriteBackLyr : Layer F
  mClientTarget : Option (Layer F)
  prepare : CompositionContext F → (Nat → Composition) → Nat → Composition

/-- What `validateDisplay` answers, and the validated types it leaves. -/
structure Validation where
  num_types : Nat
  mValidatedType : Nat → Composition

/-- What `getChangedCompositionTypes` writes. -/
structure ChangedTypes where
  num_elements : Nat
  layers : List Nat
  types : List Composition
deriving DecidableEq, Repr

namespace Display

def context (c : Connection F) (d : Display F) : CompositionContext F :=
  d.createComposition.context c.mWriteBackLyr c.mClientTarget

def validateTypes (c : Connection F) (d : Display F) (types : Nat → Composition) : Validation :=
  if d.mValidMode = .BYPASS then { num_types := 0, mValidatedType := types }
  else
    let types := c.prepare (d.context c) types
    { num_types := (d.context c).InputLayers.countP (Layer.compositionChanged types)
      mValidatedType := types }

def changedTurn (types : Nat → Composition) (num_elements : Nat) (wantLayers wantTypes : Bool)
    (out : ChangedTypes) (layer : Layer F) : ChangedTypes :=
  if layer.compositionChanged types then
    let room := decide (out.num_elements < num_elements)
    { num_elements := out.num_elements + 1
      layers := if wantLayers && room then out.layers ++ [layer.id] else out.layers
      types := if wantTypes && room then out.types ++ [types layer.id] else out.types }
  else out

/-- `wantLayers` and `wantTypes`: the caller gives an array to write to.  Without any the call is a
query for their number. -/
def getChangedCompositionTypes (d : Display F) (types : Nat → Composition) (num_elements : Nat)
    (wantLayers wantTypes : Bool) : ChangedTypes :=
  let out := d.mLayerStack.foldl (changedTurn types num_elements wantLayers wantTypes)
    { num_elements := 0, layers := [], types := [] }
  if !wantLayers && !wantTypes then out else { out with num_elements := num_elements }

theorem foldl_changedTurn (types : Nat → Composition) (num_elements : Nat)
    (wantLayers wantTypes : Bool) (stack : List (Layer F)) (out : ChangedTypes) :
    (stack.foldl (changedTurn types num_elements wantLayers wantTypes) out).num_elements =
      out.num_elements + stack.countP (Layer.compositionChanged types) := by
  induction stack generalizing out with
  | nil => rfl
  | cons layer rest ih =>
      rw [List.foldl_cons, ih, List.countP_cons, changedTurn]
      split
      · show out.num_elements + 1 + _ = _
        omega
      · rfl

theorem getChangedCompositionTypes_query (d : Display F) (types : Nat → Composition)
    (num_elements : Nat) :
    (d.getChangedCompositionTypes types num_elements false false).num_elements =
      d.mLayerStack.countP (Layer.compositionChanged types) := by
  simp [getChangedCompositionTypes, foldl_changedTurn]

theorem context_normal {d : Display F} (hmode : d.mValidMode = .NORMAL) (c : Connection F) :
    (d.context c).InputLayers = setOf Layer.zOrder d.mLayerStack := by
  simp [context, createComposition, hmode, CompositionInput.context]

theorem validateTypes_normal {d : Display F} (hmode : d.mValidMode = .NORMAL) (c : Connection F)
    (types : Nat → Composition) :
    (d.validateTypes c types).num_types =
      (setOf Layer.zOrder d.mLayerStack).countP
        (Layer.compositionChanged (d.validateTypes c types).mValidatedType) := by
  simp [validateTypes, hmode, context_normal hmode]

/-- Every layer of the stack is validated, and the two counts agree, exactly when no two layers of
the stack have the same z. -/
theorem validates_every_layer_iff (c : Connection F) (d : Display F)
    (hmode : d.mValidMode = .NORMAL) (hids : (d.mLayerStack.map Layer.id).Nodup)
    (types : Nat → Composition) (num_elements : Nat) :
    ((∀ layer ∈ d.mLayerStack, layer ∈ (d.context c).InputLayers) ∧
      (d.validateTypes c types).num_types =
        (d.getChangedCompositionTypes (d.validateTypes c types).mValidatedType num_elements
          false false).num_elements) ↔
      (d.mLayerStack.map Layer.zOrder).Nodup := by
  rw [context_normal hmode, getChangedCompositionTypes_query, validateTypes_normal hmode,
    forall_mem_setOf_iff (List.Nodup.of_map Layer.id hids)]
  constructor
  · exact fun h => h.1
  · intro hz
    exact ⟨hz, (setOf_perm hz).countP_eq _⟩

/-! ## Two layers at the same height -/

def petrelConnection : Connection Rat where
  mWriteBackLyr := StrategyHardwareFirst.framebuffer
  mClientTarget := some StrategyHardwareFirst.framebuffer
  prepare := fun context types =>
    match { Compositor.petrelCompositor eDataspaceSdr with mColorTransform := 1 }.prepare
        (fun _ => ⟨false, 0, 0⟩) 6 context
        ⟨.eHardwareFirst, { StrategyHardwareFirst.desktopStrategy with
          mValidatedType := types }⟩ with
    | .ok (some p) => p.mLayerPlanner.hardwareFirst.mValidatedType
    | _ => types

def flatDesktop : Display Rat where
  mValidMode := .NORMAL
  mLayerStack := [{ StrategyHardwareFirst.wallpaper with zOrder := 0 },
    { StrategyHardwareFirst.dialog with zOrder := 0 }]

def stackedDesktop : Display Rat where
  mValidMode := .NORMAL
  mLayerStack := StrategyHardwareFirst.desktop.InputLayers

theorem validates_every_layer_iff_desktop :
    (∀ layer ∈ stackedDesktop.mLayerStack,
      layer ∈ (stackedDesktop.context petrelConnection).InputLayers) ∧
    (stackedDesktop.validateTypes petrelConnection fun _ => .Invalid).num_types =
      (stackedDesktop.getChangedCompositionTypes (stackedDesktop.validateTypes petrelConnection
        fun _ => .Invalid).mValidatedType 0 false false).num_elements :=
  (validates_every_layer_iff petrelConnection stackedDesktop rfl (by decide)
    (fun _ => .Invalid) 0).mpr (by decide)

/-- The dialog is not validated; one changed layer is announced, and two are reported. -/
theorem flatDesktop_loses_dialog :
    ¬ (∀ layer ∈ flatDesktop.mLayerStack,
      layer ∈ (flatDesktop.context petrelConnection).InputLayers) ∧
    (flatDesktop.validateTypes petrelConnection fun _ => .Invalid).num_types = 1 ∧
    (flatDesktop.getChangedCompositionTypes (flatDesktop.validateTypes petrelConnection
      fun _ => .Invalid).mValidatedType 0 false false).num_elements = 2 := by
  refine ⟨?_, by decide +kernel, by decide +kernel⟩
  intro hall
  have hdialog := List.mem_map_of_mem (f := Layer.id)
    (hall { StrategyHardwareFirst.dialog with zOrder := 0 } (by simp [flatDesktop]))
  exact absurd hdialog (by decide +kernel)

end Display

end AwHal.Hwc
