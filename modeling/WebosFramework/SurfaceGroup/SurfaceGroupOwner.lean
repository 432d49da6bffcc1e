import WebosFramework.Lib.EventLoop

/-!
# Owners of a surface group

`Eos/SurfaceGroup/eossurfacegroupowner.cpp` creates a group for a window when the window is visible,
and in it one layer for each `EosSurfaceGroupLayer` that has been declared by then. The group is
created once. What is declared afterwards is kept in the owner and its layers, and not all of it
reaches the group.

* A layer is named by a `LayerId`, so that the list of an owner may contain it twice, or a null
  pointer. `SurfaceGroupLayer` is the state of `EosSurfaceGroupLayer`, `GroupLayer` that of the
  layer in the group, as far as the owner can set it: the name is given once, `z` may also be
  changed by the compositor.
* Whether there is a compositor, and which calls give an object, is an argument.

**`declared_iff`**: the group is as it has been declared, just in case nothing is declared or
changed by the compositor after the group has been created, apart from the `z` of a layer.

An event changes the owner alone, or its layers. `layer_createLayers` says what the creation does
to each layer, and `SameOwner` that it leaves the owner as it is. `declared_step` is the step
lemma, in which each kind of event is exact; the condition on one event is `KeepsDeclared`.
-/

namespace Eos

open EventLoop

/-- A layer is known by a number. -/
abbrev LayerId := Nat

/-- The layer of the group. -/
structure GroupLayer where
  name : String
  z : Int
  deriving DecidableEq

/-- The members of `EosSurfaceGroupLayer`. -/
structure SurfaceGroupLayer where
  /-- `INT_MIN` until it is declared. -/
  z : Int := -2147483648
  /-- Empty until it is declared. -/
  layerName : String := ""
  isSurfaceAttached : Bool := false
  /-- `m_SurfaceGroupLayer`, which is null until the layer has been created. -/
  surfaceGroupLayer : Option GroupLayer := none

/-- The group has created the layer, with the name and the `z` that have been declared. -/
def SurfaceGroupLayer.setSurfaceGroupLayer (l : SurfaceGroupLayer) : SurfaceGroupLayer :=
  { l with surfaceGroupLayer := some ⟨l.layerName, l.z⟩ }

/-- The members of `EosSurfaceGroupOwner`, and all the layers. -/
structure SurfaceGroupOwner (Window : Type) where
  webOSWindow : Option Window := none
  groupName : String := ""
  allowAnonymous : Bool := false
  /-- `m_layers`, where `none` is a null pointer. -/
  layers : List (Option LayerId) := []
  /-- Whether the group allows anonymous layers, if there is a group. -/
  surfaceGroup : Option Bool := none
  layer : LayerId → SurfaceGroupLayer := fun _ => {}

/-- The calls on the compositor, on the group and on its layers. -/
inductive OwnerCall (Window : Type) where
  | createGroup (window : Window) (groupName : String)
  | setAllowAnonymousLayers (allow : Bool)
  | createNamedLayer (id : LayerId) (layerName : String) (z : Int)
  | setZ (id : LayerId) (z : Int)
  | focusLayer (layerName : String)
  | focusOwner
  deriving DecidableEq

/-- What `handleWindowVisibility` sees: `isVisible` of the window, whether there is a compositor,
whether it creates the group, and whether the group creates the layers. -/
structure OwnerSurroundings where
  visible : Bool
  compositor : Bool
  createsGroup : Bool
  createsLayer : LayerId → Bool

variable {Window : Type}

namespace SurfaceGroupOwner

variable (o : SurfaceGroupOwner Window)

/-- One layer changes. -/
def updateLayer (id : LayerId) (f : SurfaceGroupLayer → SurfaceGroupLayer) :
    SurfaceGroupOwner Window :=
  { o with layer := Function.update o.layer id (f (o.layer id)) }

/-- `createWebOSSurfaceGroupLayer` of one layer. -/
def createLayer (s : OwnerSurroundings) (id : LayerId) :
    SurfaceGroupOwner Window × List (OwnerCall Window) :=
  if (o.layer id).surfaceGroupLayer.isSome then (o, [])
  else
    (if s.createsLayer id then o.updateLayer id SurfaceGroupLayer.setSurfaceGroupLayer else o,
      [.createNamedLayer id (o.layer id).layerName (o.layer id).z])

/-- The loop over the layers, which skips null pointers. -/
def createLayers (s : OwnerSurroundings) :
    SurfaceGroupOwner Window → List (Option LayerId) →
      SurfaceGroupOwner Window × List (OwnerCall Window)
  | o, [] => (o, [])
  | o, none :: ids => createLayers s o ids
  | o, some id :: ids =>
    let created := o.createLayer s id
    let rest := createLayers s created.1 ids
    (rest.1, created.2 ++ rest.2)

/-- The group is new: it allows no anonymous layers until it is told to. -/
def setSurfaceGroup : SurfaceGroupOwner Window × List (OwnerCall Window) :=
  ({ o with surfaceGroup := some o.allowAnonymous },
    if o.allowAnonymous then [.setAllowAnonymousLayers true] else [])

/-- The slot `handleWindowVisibility`: the group is created when the window is seen for the first
time with everything that is needed, and then its layers. -/
def handleWindowVisibility (s : OwnerSurroundings) :
    SurfaceGroupOwner Window × List (OwnerCall Window) :=
  if o.surfaceGroup.isSome then (o, [])
  else
    match o.webOSWindow with
    | none => (o, [])
    | some window =>
      if s.visible ∧ s.compositor ∧ o.groupName ≠ "" then
        if s.createsGroup then
          let grouped := o.setSurfaceGroup
          let layered := createLayers s grouped.1 o.layers
          (layered.1, .createGroup window o.groupName :: (grouped.2 ++ layered.2))
        else (o, [.createGroup window o.groupName])
      else (o, [])

/-- `componentComplete`: the window and the name of the group are needed. -/
def componentComplete (s : OwnerSurroundings) :
    SurfaceGroupOwner Window × List (OwnerCall Window) :=
  if o.webOSWindow.isNone then (o, [])
  else if o.groupName = "" then (o, [])
  else o.handleWindowVisibility s

/-- `setGroupName`: the name is set once, and not to the empty one. -/
def setGroupName (groupName : String) : SurfaceGroupOwner Window :=
  if o.groupName = "" ∧ groupName ≠ "" then { o with groupName } else o

/-- `nullptr` is ignored, and so is another window. -/
def setWebOSWindow (webOSWindow : Option Window) : SurfaceGroupOwner Window :=
  if o.webOSWindow.isNone ∧ webOSWindow.isSome then { o with webOSWindow } else o

/-- `setAllowAnonymous`: a group that is already there is not told. -/
def setAllowAnonymous (allowAnonymous : Bool) : SurfaceGroupOwner Window :=
  { o with allowAnonymous }

/-- The list property lets QML append to `m_layers`, clear it and replace its elements. -/
def setLayers (layers : List (Option LayerId)) : SurfaceGroupOwner Window := { o with layers }

/-- `EosSurfaceGroupLayer::z`, which takes over the value of the group. -/
def readZ (id : LayerId) : SurfaceGroupOwner Window :=
  o.updateLayer id fun l => { l with z := (l.surfaceGroupLayer.map (·.z)).getD l.z }

/-- The getter of `layerName` takes the name from the layer of the group, if there is one. -/
def readLayerName (id : LayerId) : SurfaceGroupOwner Window :=
  o.updateLayer id fun l =>
    { l with layerName := (l.surfaceGroupLayer.map (·.name)).getD l.layerName }

/-- The setter of `z`: a layer that has been created is told. -/
def setZ (id : LayerId) (z : Int) : SurfaceGroupOwner Window × List (OwnerCall Window) :=
  if (o.layer id).z = z then (o, [])
  else
    (o.updateLayer id fun l =>
        { l with z, surfaceGroupLayer := l.surfaceGroupLayer.map fun g => { g with z } },
      if (o.layer id).surfaceGroupLayer.isSome then [.setZ id z] else [])

/-- The setter of `layerName`: the name is set once. A layer that has been created is not told. -/
def setLayerName (id : LayerId) (layerName : String) : SurfaceGroupOwner Window :=
  if (o.layer id).layerName = "" ∧ layerName ≠ "" then
    o.updateLayer id fun l => { l with layerName }
  else o

/-- The slots `onSurfaceAttached` and `onSurfaceDetached`. -/
def onSurfaceAttached (id : LayerId) (attached : Bool) : SurfaceGroupOwner Window :=
  o.updateLayer id fun l => { l with isSurfaceAttached := attached }

/-- The compositor changes the `z` of a layer of the group. -/
def moveLayer (id : LayerId) (z : Int) : SurfaceGroupOwner Window :=
  o.updateLayer id fun l =>
    { l with surfaceGroupLayer := l.surfaceGroupLayer.map fun g => { g with z } }

/-- `focusLayer`: the getter of the name is used to ask for it, and again for the call. -/
def focusLayer (id : Option LayerId) : SurfaceGroupOwner Window × List (OwnerCall Window) :=
  match o.surfaceGroup, id with
  | some _, some id =>
    let read := o.readLayerName id
    let layerName := (read.layer id).layerName
    -- the getter runs twice, which makes no difference
    (read, if layerName = "" then [] else [.focusLayer layerName])
  | _, _ => (o, [])

/-- `focusOwner` is a call on the group. -/
def focusOwner : List (OwnerCall Window) := if o.surfaceGroup.isSome then [.focusOwner] else []

end SurfaceGroupOwner

/-- The slots, the setters and the getters that write, and what the compositor does to a layer. -/
inductive OwnerEvent (Window : Type) where
  | handleWindowVisibility (s : OwnerSurroundings)
  | componentComplete (s : OwnerSurroundings)
  | setWebOSWindow (webOSWindow : Option Window)
  | setGroupName (groupName : String)
  | setAllowAnonymous (allowAnonymous : Bool)
  | setLayers (layers : List (Option LayerId))
  | readZ (id : LayerId)
  | readLayerName (id : LayerId)
  | setZ (id : LayerId) (z : Int)
  | setLayerName (id : LayerId) (layerName : String)
  | surfaceAttached (id : LayerId) (attached : Bool)
  | moveLayer (id : LayerId) (z : Int)
  | focusLayer (id : Option LayerId)
  | focusOwner

/-- An owner and its layers, reacting to one event after the other. -/
def surfaceGroupOwner (Window : Type) :
    Machine (SurfaceGroupOwner Window) (OwnerEvent Window) (OwnerCall Window) where
  handle o
    | .handleWindowVisibility s => o.handleWindowVisibility s
    | .componentComplete s => o.componentComplete s
    | .setWebOSWindow webOSWindow => (o.setWebOSWindow webOSWindow, [])
    | .setGroupName groupName => (o.setGroupName groupName, [])
    | .setAllowAnonymous allowAnonymous => (o.setAllowAnonymous allowAnonymous, [])
    | .setLayers layers => (o.setLayers layers, [])
    | .readZ id => (o.readZ id, [])
    | .readLayerName id => (o.readLayerName id, [])
    | .setZ id z => o.setZ id z
    | .setLayerName id layerName => (o.setLayerName id layerName, [])
    | .surfaceAttached id attached => (o.onSurfaceAttached id attached, [])
    | .moveLayer id z => (o.moveLayer id z, [])
    | .focusLayer id => o.focusLayer id
    | .focusOwner => (o, o.focusOwner)

/-- An owner with its past. -/
abbrev OwnerHistory (Window : Type) :=
  History (SurfaceGroupOwner Window) (OwnerEvent Window) (OwnerCall Window)

/-! ## The group and what has been declared

What the group has to be like, and the condition on one event. -/

/-- The layer of the group has the name and the `z` that have been declared. -/
def SurfaceGroupLayer.InStep (l : SurfaceGroupLayer) : Prop :=
  l.surfaceGroupLayer = some ⟨l.layerName, l.z⟩

namespace SurfaceGroupOwner

/-- The group, if there is one, is as declared. -/
def Declared (o : SurfaceGroupOwner Window) : Prop :=
  ∀ allow, o.surfaceGroup = some allow →
    allow = o.allowAnonymous ∧ ∀ id, some id ∈ o.layers → (o.layer id).InStep

/-- Layers are created in the group. -/
def Grouped (o : SurfaceGroupOwner Window) : Prop :=
  o.surfaceGroup = none → ∀ id, (o.layer id).surfaceGroupLayer = none

/-- A notification creates the group. -/
def Creates (o : SurfaceGroupOwner Window) (s : OwnerSurroundings) : Prop :=
  o.surfaceGroup = none ∧ o.webOSWindow ≠ none ∧
    (s.visible = true ∧ s.compositor = true ∧ o.groupName ≠ "") ∧ s.createsGroup = true

/-- What leaves the group as declared: it is created with all its layers, and later events declare
nothing new. -/
def KeepsDeclared (h : OwnerHistory Window) : OwnerEvent Window → Prop
  | .handleWindowVisibility s | .componentComplete s =>
    h.state.Creates s → ∀ id, some id ∈ h.state.layers → s.createsLayer id = true
  | .setAllowAnonymous allowAnonymous =>
    h.state.surfaceGroup ≠ none → allowAnonymous = h.state.allowAnonymous
  | .setLayers layers =>
    h.state.surfaceGroup ≠ none → ∀ id, some id ∈ layers → (h.state.layer id).InStep
  | .setLayerName id layerName => h.state.surfaceGroup ≠ none → some id ∈ h.state.layers →
      (h.state.layer id).layerName = "" → layerName = ""
  | .moveLayer id z => h.state.surfaceGroup ≠ none → some id ∈ h.state.layers →
      z = (h.state.layer id).z
  | _ => True

variable {o : SurfaceGroupOwner Window} {s : OwnerSurroundings} {id id' : LayerId}
  {layerName : String} {z : Int} {f : SurfaceGroupLayer → SurfaceGroupLayer}

/-- The other layers stay as they are. -/
theorem layer_updateLayer : (o.updateLayer id f).layer id' =
    if id' = id then f (o.layer id) else o.layer id' :=
  Function.update_apply _ _ _ _

/-- A change of one layer matters if the layer is in the list. -/
theorem declared_updateLayer_iff (h : o.Declared) : (o.updateLayer id f).Declared ↔
    (o.surfaceGroup ≠ none → some id ∈ o.layers → (f (o.layer id)).InStep) := by
  constructor
  · intro hafter hgroup hmem
    obtain ⟨allow, hallow⟩ := Option.ne_none_iff_exists'.mp hgroup
    have hstep := (hafter allow hallow).2 id hmem
    rwa [layer_updateLayer, if_pos rfl] at hstep
  · intro hf allow hallow
    have hgroup : o.surfaceGroup = some allow := hallow
    refine ⟨(h allow hgroup).1, fun id' hmem => ?_⟩
    rw [layer_updateLayer]
    split
    · rename_i heq
      exact hf (hgroup ▸ Option.some_ne_none allow) (heq ▸ hmem)
    · exact (h allow hgroup).2 id' hmem

/-- A change that keeps a layer in step. -/
theorem declared_updateLayer (h : o.Declared)
    (hf : ∀ l : SurfaceGroupLayer, l.InStep → (f l).InStep) : (o.updateLayer id f).Declared :=
  (declared_updateLayer_iff h).mpr fun hgroup hmem => by
    obtain ⟨allow, hallow⟩ := Option.ne_none_iff_exists'.mp hgroup
    exact hf _ ((h allow hallow).2 id hmem)

/-- Without a group there is no layer of a group, unless the update made one. -/
theorem grouped_updateLayer (h : o.Grouped)
    (hf : ∀ l : SurfaceGroupLayer, l.surfaceGroupLayer = none →
      (f l).surfaceGroupLayer = none) : (o.updateLayer id f).Grouped := by
  intro hgroup id'
  rw [layer_updateLayer]
  split
  · exact hf _ (h hgroup id)
  · exact h hgroup id'

/-! ## Creating the layers

The loop over the layers, by induction on the list. A layer that is in the list twice is created
once. -/

/-- The fields that are no layer's. -/
structure SameOwner (o o' : SurfaceGroupOwner Window) : Prop where
  /-- The list of layers is the same. -/
  layers : o'.layers = o.layers
  /-- So is the permission of anonymous layers. -/
  allowAnonymous : o'.allowAnonymous = o.allowAnonymous
  /-- And the group. -/
  surfaceGroup : o'.surfaceGroup = o.surfaceGroup

/-- Creating one layer changes that layer only. -/
theorem sameOwner_createLayer (s : OwnerSurroundings) (o : SurfaceGroupOwner Window)
    (id : LayerId) : SameOwner o (o.createLayer s id).1 := by
  unfold createLayer
  split
  · exact ⟨rfl, rfl, rfl⟩
  · dsimp only
    split <;> exact ⟨rfl, rfl, rfl⟩

/-- So does creating all of them. -/
theorem sameOwner_createLayers (s : OwnerSurroundings) (o : SurfaceGroupOwner Window)
    (ids : List (Option LayerId)) : SameOwner o (createLayers s o ids).1 := by
  induction ids generalizing o with
  | nil => exact ⟨rfl, rfl, rfl⟩
  | cons head ids ih =>
    cases head with
    | none => exact ih o
    | some id =>
      have hfirst := sameOwner_createLayer s o id
      have hrest := ih (o.createLayer s id).1
      exact ⟨hrest.layers.trans hfirst.layers, hrest.allowAnonymous.trans hfirst.allowAnonymous,
        hrest.surfaceGroup.trans hfirst.surfaceGroup⟩

/-- A layer that is there already stays as it is. -/
theorem layer_createLayer : (o.createLayer s id).1.layer id' =
    if id' = id ∧ (o.layer id).surfaceGroupLayer = none ∧ s.createsLayer id = true then
      (o.layer id).setSurfaceGroupLayer
    else o.layer id' := by
  unfold createLayer
  by_cases hcreated : (o.layer id).surfaceGroupLayer = none
  · rw [if_neg (by simp [hcreated])]
    by_cases hcreates : s.createsLayer id = true
    · show (if s.createsLayer id = true then _ else _ : SurfaceGroupOwner Window).layer id' = _
      rw [if_pos hcreates, layer_updateLayer]
      simp [hcreated, hcreates]
    · show (if s.createsLayer id = true then _ else _ : SurfaceGroupOwner Window).layer id' = _
      rw [if_neg hcreates, if_neg fun h => hcreates h.2.2]
  · rw [if_pos (Option.isSome_iff_ne_none.mpr hcreated), if_neg fun h => hcreated h.2.1]

/-- The loop: each layer of the list that has not been there and that the group creates. A layer
that is listed twice is created once. -/
theorem layer_createLayers (s : OwnerSurroundings) (ids : List (Option LayerId))
    (o : SurfaceGroupOwner Window) (id' : LayerId) :
    (createLayers s o ids).1.layer id' =
      if some id' ∈ ids ∧ (o.layer id').surfaceGroupLayer = none ∧ s.createsLayer id' = true then
        (o.layer id').setSurfaceGroupLayer
      else o.layer id' := by
  induction ids generalizing o with
  | nil => simp [createLayers]
  | cons head ids ih =>
    cases head with
    -- a layer that is not there (a null in the list) is skipped
    | none =>
      show (createLayers s o ids).1.layer id' = _
      rw [ih]
      simp
    | some id =>
      show (createLayers s (o.createLayer s id).1 ids).1.layer id' = _
      rw [ih]
      -- the first layer is the one asked about, or another one
      by_cases hfirst : id' = id ∧ (o.layer id).surfaceGroupLayer = none ∧ s.createsLayer id = true
      · obtain ⟨rfl, hnew⟩ := hfirst
        have hfirst : (o.createLayer s id').1.layer id' =
            (o.layer id').setSurfaceGroupLayer := by
          rw [layer_createLayer, if_pos ⟨rfl, hnew⟩]
        rw [hfirst]
        simp [hnew, SurfaceGroupLayer.setSurfaceGroupLayer]
      · have hsame : (o.createLayer s id).1.layer id' = o.layer id' := by
          rw [layer_createLayer, if_neg hfirst]
        rw [hsame]
        refine if_congr (and_congr_left fun hnew => ?_) rfl rfl
        -- a layer that is to be created and is not the first one is in the rest of the list
        have hid : id' ≠ id := fun heq => hfirst ⟨heq, heq ▸ hnew⟩
        simp [hid]

/-- A group that is created is as declared if it creates each layer. Before that no layer was in a
group, so what is there has been created by the loop. -/
theorem declared_createLayers (hgrouped : o.Grouped) (hgroup : o.surfaceGroup = none) :
    (createLayers s o.setSurfaceGroup.1 o.layers).1.Declared ↔
      ∀ id, some id ∈ o.layers → s.createsLayer id = true := by
  have hsame := sameOwner_createLayers s o.setSurfaceGroup.1 o.layers
  have hlayer : ∀ id, some id ∈ o.layers →
      (((createLayers s o.setSurfaceGroup.1 o.layers).1.layer id).InStep ↔
        s.createsLayer id = true) := by
    intro id hmem
    have hnew : (o.setSurfaceGroup.1.layer id).surfaceGroupLayer = none := hgrouped hgroup id
    rw [layer_createLayers]
    by_cases hcreates : s.createsLayer id = true
    · rw [if_pos ⟨hmem, hnew, hcreates⟩]
      exact iff_of_true rfl hcreates
    · rw [if_neg fun h => hcreates h.2.2]
      refine iff_of_false (fun hstep => ?_) hcreates
      exact Option.some_ne_none _ (hstep.symm.trans hnew)
  constructor
  · intro h id hmem
    have hmem' : some id ∈ (createLayers s o.setSurfaceGroup.1 o.layers).1.layers := by
      rw [hsame.layers]
      exact hmem
    exact (hlayer id hmem).mp ((h o.allowAnonymous hsame.surfaceGroup).2 id hmem')
  · intro h allow hallow
    have hset : some o.allowAnonymous = some allow := hsame.surfaceGroup.symm.trans hallow
    refine ⟨(Option.some.inj hset).symm.trans hsame.allowAnonymous.symm, fun id hmem => ?_⟩
    rw [hsame.layers] at hmem
    exact (hlayer id hmem).mpr (h id hmem)

/-! ## What one event does

One lemma for each kind of event, and the step lemma from them. -/

/-- When the group is created, the layers that have been declared by then are created in it. -/
theorem handleWindowVisibility_of_creates (h : o.Creates s) :
    (o.handleWindowVisibility s).1 = (createLayers s o.setSurfaceGroup.1 o.layers).1 := by
  obtain ⟨hgroup, hwindow, hvisible, hcreates⟩ := h
  obtain ⟨window, hwindow⟩ := Option.ne_none_iff_exists'.mp hwindow
  unfold handleWindowVisibility
  rw [if_neg (by simp [hgroup]), hwindow]
  simp only [if_pos hvisible, if_pos hcreates]

/-- Otherwise nothing happens, apart from a call that failed. -/
theorem handleWindowVisibility_of_not_creates (h : ¬ o.Creates s) :
    (o.handleWindowVisibility s).1 = o := by
  unfold handleWindowVisibility
  split
  · rfl
  · rename_i hgroup
    split
    · rfl
    · rename_i window hwindow
      split
      · rename_i hvisible
        split
        · rename_i hcreates
          exact absurd ⟨Option.not_isSome_iff_eq_none.mp hgroup,
            hwindow ▸ Option.some_ne_none window, hvisible, hcreates⟩ h
        · rfl
      · rfl

/-- The checks that come first are made again. -/
theorem componentComplete_eq (o : SurfaceGroupOwner Window) (s : OwnerSurroundings) :
    (o.componentComplete s).1 = (o.handleWindowVisibility s).1 := by
  unfold componentComplete
  split
  · rename_i hwindow
    refine (handleWindowVisibility_of_not_creates fun h => h.2.1 ?_).symm
    exact Option.isNone_iff_eq_none.mp hwindow
  · split
    · rename_i hname
      exact (handleWindowVisibility_of_not_creates fun h => h.2.2.1.2.2 hname).symm
    · rfl

/-- The group is as it has been declared if each of its layers could be created. -/
theorem declared_handleWindowVisibility (hgrouped : o.Grouped) (h : o.Declared) :
    (o.handleWindowVisibility s).1.Declared ↔
      (o.Creates s → ∀ id, some id ∈ o.layers → s.createsLayer id = true) := by
  by_cases hcreates : o.Creates s
  · rw [handleWindowVisibility_of_creates hcreates, declared_createLayers hgrouped hcreates.1]
    exact ⟨fun hall _ => hall, fun hall => hall hcreates⟩
  · rw [handleWindowVisibility_of_not_creates hcreates]
    exact iff_of_true h fun hcreates' => absurd hcreates' hcreates

/-- Layers are created in a group. -/
theorem grouped_handleWindowVisibility (hgrouped : o.Grouped) :
    (o.handleWindowVisibility s).1.Grouped := by
  by_cases hcreates : o.Creates s
  · intro hnone
    rw [handleWindowVisibility_of_creates hcreates,
      (sameOwner_createLayers s o.setSurfaceGroup.1 o.layers).surfaceGroup] at hnone
    exact absurd hnone (Option.some_ne_none _)
  · rwa [handleWindowVisibility_of_not_creates hcreates]

/-- Reading the getters of a layer in step changes nothing. -/
theorem declared_readLayerName (h : o.Declared) : (o.readLayerName id).Declared :=
  declared_updateLayer h fun l hl => by
    unfold SurfaceGroupLayer.InStep at hl ⊢
    simp [hl]

/-- So does the getter of `z`. -/
theorem declared_readZ (h : o.Declared) : (o.readZ id).Declared :=
  declared_updateLayer h fun l hl => by
    unfold SurfaceGroupLayer.InStep at hl ⊢
    simp [hl]

/-- A new `z` goes to the layer of the group as well. -/
theorem declared_setZ (h : o.Declared) : (o.setZ id z).1.Declared := by
  unfold setZ
  split
  · exact h
  · refine declared_updateLayer h fun l hl => ?_
    unfold SurfaceGroupLayer.InStep at hl ⊢
    simp [hl]

/-- Setting it creates no layer. -/
theorem grouped_setZ (h : o.Grouped) : (o.setZ id z).1.Grouped := by
  unfold setZ
  split
  · exact h
  · exact grouped_updateLayer h fun l hl => by simp [hl]

/-- A name that comes after the layer has been created is not its name in the group. -/
theorem declared_setLayerName (h : o.Declared) : (o.setLayerName id layerName).Declared ↔
    (o.surfaceGroup ≠ none → some id ∈ o.layers → (o.layer id).layerName = "" →
      layerName = "") := by
  unfold setLayerName
  split
  · rename_i hname
    rw [declared_updateLayer_iff h]
    refine forall₂_congr fun hgroup hmem => ?_
    obtain ⟨allow, hallow⟩ := Option.ne_none_iff_exists'.mp hgroup
    have hstep : (o.layer id).InStep := (h allow hallow).2 id hmem
    -- the group keeps the empty name
    refine iff_of_false (fun hafter => hname.2 ?_) fun hempty => hname.2 (hempty hname.1)
    have hboth := Option.some.inj (hstep.symm.trans hafter)
    exact (congrArg GroupLayer.name hboth).symm.trans hname.1
  · rename_i hname
    exact iff_of_true h fun _ _ hempty => not_not.mp fun hne => hname ⟨hempty, hne⟩

/-- The compositor may only put the layer where it has been declared. -/
theorem declared_moveLayer (h : o.Declared) : (o.moveLayer id z).Declared ↔
    (o.surfaceGroup ≠ none → some id ∈ o.layers → z = (o.layer id).z) := by
  unfold moveLayer
  rw [declared_updateLayer_iff h]
  refine forall₂_congr fun hgroup hmem => ?_
  obtain ⟨allow, hallow⟩ := Option.ne_none_iff_exists'.mp hgroup
  have hstep : (o.layer id).InStep := (h allow hallow).2 id hmem
  unfold SurfaceGroupLayer.InStep at hstep ⊢
  simp [hstep]

/-- The group has been told what was declared when it was created. -/
theorem declared_setAllowAnonymous (h : o.Declared) (allowAnonymous : Bool) :
    (o.setAllowAnonymous allowAnonymous).Declared ↔
      (o.surfaceGroup ≠ none → allowAnonymous = o.allowAnonymous) := by
  constructor
  · intro hafter hgroup
    obtain ⟨allow, hallow⟩ := Option.ne_none_iff_exists'.mp hgroup
    exact (hafter allow hallow).1.symm.trans (h allow hallow).1
  · intro hsame allow hallow
    have hgroup : o.surfaceGroup = some allow := hallow
    refine ⟨?_, (h allow hgroup).2⟩
    exact (h allow hgroup).1.trans (hsame (hgroup ▸ Option.some_ne_none allow)).symm

/-- Layers that are added to the list have to be in step already. -/
theorem declared_setLayers (h : o.Declared) (layers : List (Option LayerId)) :
    (o.setLayers layers).Declared ↔
      (o.surfaceGroup ≠ none → ∀ id, some id ∈ layers → (o.layer id).InStep) := by
  constructor
  · intro hafter hgroup
    obtain ⟨allow, hallow⟩ := Option.ne_none_iff_exists'.mp hgroup
    exact (hafter allow hallow).2
  · intro hlayers allow hallow
    have hgroup : o.surfaceGroup = some allow := hallow
    exact ⟨(h allow hgroup).1, hlayers (hgroup ▸ Option.some_ne_none allow)⟩

/-- Asking for the focus reads a name at most. -/
theorem focusLayer_eq (o : SurfaceGroupOwner Window) (id : Option LayerId) :
    (o.focusLayer id).1 = o ∨ ∃ i, (o.focusLayer id).1 = o.readLayerName i := by
  unfold focusLayer
  split
  · exact .inr ⟨_, rfl⟩
  · exact .inl rfl

end SurfaceGroupOwner

open SurfaceGroupOwner

/-- No event creates a layer without a group. Only a notification creates layers, and it creates the
group before them. -/
theorem grouped_step (h : OwnerHistory Window) (e : OwnerEvent Window) (hg : h.state.Grouped) :
    ((surfaceGroupOwner Window).step h e).state.Grouped := by
  cases e with
  | handleWindowVisibility s => exact grouped_handleWindowVisibility hg
  | componentComplete s =>
    show (h.state.componentComplete s).1.Grouped
    rw [componentComplete_eq]
    exact grouped_handleWindowVisibility hg
  | setWebOSWindow webOSWindow =>
    show (h.state.setWebOSWindow webOSWindow).Grouped
    unfold SurfaceGroupOwner.setWebOSWindow
    split <;> exact hg
  | setGroupName groupName =>
    show (h.state.setGroupName groupName).Grouped
    unfold SurfaceGroupOwner.setGroupName
    split <;> exact hg
  | setAllowAnonymous allowAnonymous => exact hg
  | setLayers layers => exact hg
  | readZ id => exact grouped_updateLayer hg fun l hl => hl
  | readLayerName id => exact grouped_updateLayer hg fun l hl => hl
  | setZ id z => exact grouped_setZ hg
  | setLayerName id layerName =>
    show (h.state.setLayerName id layerName).Grouped
    unfold SurfaceGroupOwner.setLayerName
    split
    · exact grouped_updateLayer hg fun l hl => hl
    · exact hg
  | surfaceAttached id attached => exact grouped_updateLayer hg fun l hl => hl
  | moveLayer id z => exact grouped_updateLayer hg fun l hl => by simp [hl]
  | focusLayer id =>
    rcases focusLayer_eq h.state id with heq | ⟨i, heq⟩
    · exact (congrArg Grouped heq).mpr hg
    · exact (congrArg Grouped heq).mpr (grouped_updateLayer hg fun l hl => hl)
  | focusOwner => exact hg

/-- One step: what `KeepsDeclared` says of an event is what keeps the group as declared. It says of
each event that it changes nothing that only one side would hear of. -/
theorem declared_step (h : OwnerHistory Window) (e : OwnerEvent Window) (hg : h.state.Grouped)
    (hd : h.state.Declared) :
    ((surfaceGroupOwner Window).step h e).state.Declared ↔ KeepsDeclared h e := by
  cases e with
  | handleWindowVisibility s => exact declared_handleWindowVisibility hg hd
  | componentComplete s =>
    show (h.state.componentComplete s).1.Declared ↔ _
    rw [componentComplete_eq]
    exact declared_handleWindowVisibility hg hd
  | setWebOSWindow webOSWindow =>
    refine iff_of_true ?_ trivial
    show (h.state.setWebOSWindow webOSWindow).Declared
    unfold SurfaceGroupOwner.setWebOSWindow
    split <;> exact hd
  | setGroupName groupName =>
    refine iff_of_true ?_ trivial
    show (h.state.setGroupName groupName).Declared
    unfold SurfaceGroupOwner.setGroupName
    split <;> exact hd
  | setAllowAnonymous allowAnonymous => exact declared_setAllowAnonymous hd allowAnonymous
  | setLayers layers => exact declared_setLayers hd layers
  | readZ id => exact iff_of_true (declared_readZ hd) trivial
  | readLayerName id => exact iff_of_true (declared_readLayerName hd) trivial
  | setZ id z => exact iff_of_true (declared_setZ hd) trivial
  | setLayerName id layerName => exact declared_setLayerName hd
  | surfaceAttached id attached =>
    exact iff_of_true (declared_updateLayer hd fun l hl => hl) trivial
  | moveLayer id z => exact declared_moveLayer hd
  | focusLayer id =>
    refine iff_of_true ?_ trivial
    rcases focusLayer_eq h.state id with heq | ⟨i, heq⟩
    · exact (congrArg Declared heq).mpr hd
    · exact (congrArg Declared heq).mpr (declared_readLayerName hd)
  | focusOwner => exact iff_of_true hd trivial

/-- An owner without a group: the group is as declared at every event boundary, just in case it is
created with all its layers, and no later event declares anything that does not reach it.

By `Machine.always_iff_admits` with `Grouped`: before there is a group no layer is in one, so only
the step that creates the group and those after it have anything to declare. -/
theorem declared_iff (o : SurfaceGroupOwner Window) (hgroup : o.surfaceGroup = none)
    (hlayers : ∀ id, (o.layer id).surfaceGroupLayer = none) (es : List (OwnerEvent Window)) :
    (surfaceGroupOwner Window).Always (fun h => h.state.Declared) (.init o) es ↔
      (surfaceGroupOwner Window).Admits KeepsDeclared (.init o) es :=
  Machine.always_iff_admits (fun h e hg _ => grouped_step h e hg)
    (fun h e hg hd _ => declared_step h e hg hd) (fun _ => hlayers)
    (fun allow hallow => absurd (hallow.symm.trans hgroup) (Option.some_ne_none allow))
    (Machine.admits_true _ _ es)

/-- A group with one layer, which is created when the window is shown. -/
def shownWithLayer : List (OwnerEvent Unit) :=
  [.setWebOSWindow (some ()), .setGroupName "group", .setLayerName 0 "layer", .setZ 0 3,
    .setLayers [some 0, none], .componentComplete ⟨false, true, true, fun _ => true⟩,
    .handleWindowVisibility ⟨true, true, true, fun _ => true⟩, .setZ 0 5]

/-- The group is as declared, until anonymous layers are allowed too late. -/
theorem declared_iff_shownWithLayer :
    (surfaceGroupOwner Unit).Always (fun h => h.state.Declared) (.init {}) shownWithLayer ∧
      ¬ (surfaceGroupOwner Unit).Always (fun h => h.state.Declared) (.init {})
        (shownWithLayer ++ [.setAllowAnonymous true]) := by
  have hadmits : (surfaceGroupOwner Unit).Admits KeepsDeclared (.init {}) shownWithLayer := by
    refine ⟨trivial, trivial, ?_, trivial, ?_, ?_, ?_, trivial, trivial⟩
    · exact fun hgroup => absurd rfl hgroup
    · exact fun hgroup => absurd rfl hgroup
    · exact fun _ _ _ => rfl
    · exact fun _ _ _ => rfl
  refine ⟨(declared_iff {} rfl (fun _ => rfl) shownWithLayer).mpr hadmits, fun hall => ?_⟩
  have hlast := (declared_iff {} rfl (fun _ => rfl) _).mp hall
  have hallow := ((Machine.admits_append _).mp hlast).2.1
  exact Bool.noConfusion (hallow (Option.some_ne_none _) : true = false)

end Eos
