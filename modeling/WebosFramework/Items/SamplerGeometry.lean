import WebosFramework.Lib.EventLoop
import WebosFramework.Lib.Signals
import WebosFramework.Qt.Geometry

/-!
# Items that sample a texture

`Item` of `Eos/Items/src/samplergeometry.cpp` paints a shape with the texture of another item, its
source item. In the scene graph it has a node for the body of the shape, and one for the fringe if
it is antialiased. Each of the two has a solid and a sampled material, of which the sampled one
keeps a pointer to the texture provider of the source item.

* A provider, an item or a node is known by a number. `nodes` counts the geometry nodes there have
  been.
* A material is what the item sets on it. Which of its two materials a node uses at the moment, the
  geometry itself and how the texture is scaled are left out, and so are the calls that only ask for
  another frame.
* The signals of the providers, which the item connects to its nodes and to itself, are explicit.
  The slots of the item's own signals are called where these are emitted.
* `updatePaintNode` gets what `textureProvider()` of the source item returns. A null pointer that it
  would follow, and its call of `qFatal`, are outputs.
-/

namespace SamplerGeometry

open EventLoop Qt Signals

abbrev ProviderId := Nat

abbrev SourceId := Nat

abbrev NodeId := Nat

structure QColor where
  red : UInt16
  green : UInt16
  blue : UInt16
  alpha : UInt16
  deriving DecidableEq

def QColor.transparent : QColor := ⟨0, 0, 0, 0⟩

/-- `alphaF() < 1.0f` -/
def QColor.isTranslucent (color : QColor) : Bool := color.alpha < 0xFFFF

/-- The signals of a texture provider that the item connects. -/
inductive ProviderSignal where
  | textureChanged
  | destroyed
  deriving DecidableEq

/-- The slots that the item connects to the signals of a provider. -/
inductive Slot where
  | markDirtyNode (node : NodeId)
  | sourceProviderDestroyed (node : NodeId)
  | markDirtyMaterial
  deriving DecidableEq

/-- The node that the slot belongs to. -/
def Slot.node? : Slot → Option NodeId
  | .markDirtyNode node | .sourceProviderDestroyed node => some node
  | .markDirtyMaterial => none

/-- What is set on a solid material. Materials of this kind differ in nothing else. -/
structure SolidMaterial where
  color : Option QColor := none
  blending : Bool := false
  deriving DecidableEq

/-- What is set on a sampled material, with the pointer to the provider of its texture. -/
structure SampledMaterial (K : Type) where
  color : Option QColor := none
  blending : Bool := false
  dest : Option (QRectF K) := none
  textureProvider : Option ProviderId := none
  deriving DecidableEq

/-- A node with its two materials, either of which may be missing until the first paint. -/
structure GeometryNode (K : Type) where
  id : NodeId
  solidMaterial : Option SolidMaterial := none
  sampledMaterial : Option (SampledMaterial K) := none
  deriving DecidableEq

/-- The node of an item: the body, and the fringe if there is one. -/
structure ComposedNode (K : Type) where
  body : GeometryNode K
  fringe : Option (GeometryNode K) := none
  deriving DecidableEq

/-- What can be observed from outside: calls of `refWindow`, new materials, and the two ways in
which a paint may fail. -/
inductive Output where
  | refWindow (item : SourceId)
  | derefWindow (item : SourceId)
  | createSolidMaterial (node : NodeId)
  | createSampledMaterial (node : NodeId)
  | nullPointer
  | shouldHaveFringe
  deriving DecidableEq

structure Item (K : Type) where
  width : K
  height : K
  /-- The item is in a window. -/
  window : Bool := false
  color : QColor := .transparent
  blending : Bool := false
  antialiasing : Bool := true
  clampToEdge : Bool := false
  sourceItem : Option SourceId := none
  dest : QRectF K
  geometryDirty : Bool := false
  materialDirty : Bool := false
  newMaterial : Bool := false
  /-- The slots that calculate the blending and the destination are connected. -/
  calculatesBlending : Bool := true
  calculatesDest : Bool := true
  textureChangedToNodeMarkDirty : Option Nat := none
  destroyedToItemMarkDirty : Option Nat := none
  destroyedToNodeSourceDestroyed : Option Nat := none
  connections : Connections (ProviderId × ProviderSignal) Slot := {}
  node : Option (ComposedNode K) := none
  nodes : Nat := 0

namespace Item

variable {K : Type} (it : Item K)

/-! ## Setters

The setters raise the flags that the next paint looks at. The color decides about blending until
blending is set, and the size about `dest` until that is set. -/

/-- The slot that the setters of `blending` end in. A change asks for a new geometry too, "to
disable the antialiasing fringe", though only `antialiasing` decides about that. -/
def updateBlending (blending : Bool) : Item K :=
  if it.blending = blending then it
  else { it with blending, materialDirty := true, geometryDirty := true }

/-- While `blending` has not been set it follows from the color. -/
def calculateBlending : Item K := it.updateBlending it.color.isTranslucent

/-- `setBlending`: from now on the color does not decide, as the connection is cut. -/
def setBlending (blending : Bool) : Item K :=
  { it with calculatesBlending := false }.updateBlending blending

/-- `setColor`, with the slot of `colorChanged` as long as it is connected. -/
def setColor (color : QColor) : Item K :=
  if it.color = color then it
  else
    let it := { it with color, materialDirty := true }
    if it.calculatesBlending then it.calculateBlending else it

/-- `setAntialiasing`. The fringe comes or goes with the next geometry, and needs materials of its
own. -/
def setAntialiasing (antialiasing : Bool) : Item K :=
  if it.antialiasing = antialiasing then it
  else { it with antialiasing, geometryDirty := true, newMaterial := true }

/-- `setClampToEdge`, which chooses another sampled material. -/
def setClampToEdge (clampToEdge : Bool) : Item K :=
  if it.clampToEdge = clampToEdge then it else { it with clampToEdge, newMaterial := true }

/-- `setDest`: from now on the size of the item does not decide. -/
def setDest [DecidableEq K] (dest : QRectF K) : Item K :=
  let it := { it with calculatesDest := false }
  if it.dest = dest then it else { it with dest, materialDirty := true }

/-- While `dest` has not been set it is the whole item. No flag is raised, unlike in `setDest`. -/
def calculateDest [Zero K] : Item K := { it with dest := ⟨0, 0, it.width, it.height⟩ }

/-- The size of the item changes. -/
def resize [Zero K] (width height : K) : Item K :=
  let it := { it with width, height }
  if it.calculatesDest then it.calculateDest else it

/-- `isTextureProvider` is about the new source item. -/
def setSourceItem (sourceItem : Option SourceId) (isTextureProvider : Bool) :
    Item K × List Output :=
  let sourceItem := if isTextureProvider then sourceItem else none
  if it.sourceItem = sourceItem then (it, [])
  else
    -- sampling begins or ends; another source item by itself needs no new materials
    let newMaterial := it.newMaterial || it.sourceItem.isNone || sourceItem.isNone
    -- the old item is let go of before the new one is held
    let deref := if it.window then it.sourceItem.toList.map .derefWindow else []
    let ref := if it.window then sourceItem.toList.map .refWindow else []
    ({ it with sourceItem, newMaterial, materialDirty := true }, deref ++ ref)

/-- An item is destroyed; the signal of the source item is connected. -/
def sourceItemDestroyed (item : SourceId) : Item K × List Output :=
  if it.sourceItem = some item then it.setSourceItem none false else (it, [])

/-- `itemChange`, for `ItemSceneChange` -/
def sceneChange (window : Bool) : Item K × List Output :=
  ({ it with window },
    it.sourceItem.toList.map (if window then Output.refWindow else Output.derefWindow))

/-! ## Connections

The item keeps three handles, one for each kind of signal, whichever node a connection is for. -/

/-- The three handles are disconnected. They are kept all the same, so that they may be
disconnected again, which has no effect. -/
def disconnectProvider : Item K :=
  { it with connections :=
      ((it.connections.disconnect it.textureChangedToNodeMarkDirty).disconnect
        it.destroyedToNodeSourceDestroyed).disconnect it.destroyedToItemMarkDirty }

/-- The three connections to a provider. Each handle takes the place of the one before, which may
have been that of another node. -/
def connectProvider (provider : ProviderId) (node : NodeId) : Item K :=
  let toNode := it.connections.connect (provider, .textureChanged) (.markDirtyNode node)
  let destroyed := toNode.connect (provider, .destroyed) (.sourceProviderDestroyed node)
  { it with
    textureChangedToNodeMarkDirty := some it.connections.next
    destroyedToNodeSourceDestroyed := some toNode.next
    destroyedToItemMarkDirty := some destroyed.next
    connections := destroyed.connect (provider, .destroyed) .markDirtyMaterial }

/-- The connections of a node end with it. -/
def forgetNode (node : NodeId) : Item K :=
  { it with connections := it.connections.forget fun _ slot => slot.node? = some node }

/-! ## Painting

The three parts of `updatePaintNode`, in their order. Each of them looks at its own flag. -/

/-- A node that has never been there before. -/
def newGeometryNode : Item K × GeometryNode K :=
  ({ it with nodes := it.nodes + 1 }, { id := it.nodes })

/-- `enableFringe`, which keeps a fringe that is there. -/
def enableFringe (node : ComposedNode K) : Item K × ComposedNode K :=
  match node.fringe with
  | some _ => (it, node)
  | none => (it.newGeometryNode.1, { node with fringe := some it.newGeometryNode.2 })

/-- `disableFringe`, with the end of the connections of the fringe. -/
def disableFringe (node : ComposedNode K) : Item K × ComposedNode K :=
  match node.fringe with
  | some fringe => (it.forgetNode fringe.id, { node with fringe := none })
  | none => (it, node)

/-- The node that is painted. -/
def composedNode : Item K × ComposedNode K :=
  match it.node with
  | some node => (it, node)
  | none =>
    ({ it.newGeometryNode.1 with newMaterial := true, materialDirty := true, geometryDirty := true },
      { body := it.newGeometryNode.2 })

/-- The part of `updatePaintNode` for `m_geometryDirty`: the fringe comes and goes with the
geometry. -/
def updateGeometry (node : ComposedNode K) : Item K × ComposedNode K :=
  if it.geometryDirty then
    let it := { it with geometryDirty := false }
    if it.antialiasing then it.enableFringe node else it.disableFringe node
  else (it, node)

/-- `setSolidMaterial` and `setSampledMaterial`, with new materials. -/
def createMaterials (node : GeometryNode K) : GeometryNode K × List Output :=
  ({ node with solidMaterial := some {}, sampledMaterial := some {} },
    [.createSolidMaterial node.id, .createSampledMaterial node.id])

/-- The part of `updatePaintNode` for `m_newMaterial`, which is not lowered here or anywhere else.
An antialiased item without a fringe would follow a null pointer. -/
def renewMaterials (node : ComposedNode K) : Item K × ComposedNode K × List Output :=
  if it.newMaterial then
    let body := createMaterials node.body
    let node := { node with body := body.1 }
    let it := { it with materialDirty := true }
    if it.antialiasing then
      match node.fringe with
      | some fringe =>
        let fringe := createMaterials fringe
        (it, { node with fringe := some fringe.1 }, body.2 ++ fringe.2)
      -- `node->fringe()->setSolidMaterial(..)` without a fringe
      | none => (it, node, body.2 ++ [.nullPointer])
    else (it, node, body.2)
  else (it, node, [])

/-- `updateSolidMaterial` -/
def updateSolidMaterial (mat : SolidMaterial) : SolidMaterial := { mat with color := some it.color }

/-- `updateSampledMaterial`, as far as it sets the material and connects the provider. `provider`
is what `textureProvider()` of the source item returns; if it is the one that the material has,
the connections stay as they are. -/
def updateSampledMaterial (provider : Option ProviderId) (node : NodeId)
    (mat : SampledMaterial K) : Item K × SampledMaterial K :=
  let mat := { mat with color := some it.color, dest := some it.dest }
  match it.sourceItem with
  -- the source item has been unset, and the material keeps its provider
  | none => (it.disconnectProvider, mat)
  | some _ =>
    if provider = mat.textureProvider then (it, mat)
    else
      let it := it.disconnectProvider
      let mat := { mat with textureProvider := provider }
      match provider with
      | none => (it, mat)
      | some provider => (it.connectProvider provider node, mat)

/-- The materials of a node are set. -/
def updateMaterials (provider : Option ProviderId) (blending : Bool) (node : GeometryNode K) :
    Item K × GeometryNode K × List Output :=
  match node.solidMaterial, node.sampledMaterial with
  | some solid, some sampled =>
    let solid := it.updateSolidMaterial solid
    let sampled := it.updateSampledMaterial provider node.id sampled
    (sampled.1,
      { node with
        solidMaterial := some { solid with blending }
        sampledMaterial := some { sampled.2 with blending } }, [])
  | _, _ => (it, node, [.nullPointer])

/-- The part of `updatePaintNode` for `m_materialDirty`. The fringe is always blended. -/
def updateDirtyMaterials (provider : Option ProviderId) (node : ComposedNode K) :
    Item K × ComposedNode K × List Output :=
  if it.materialDirty then
    let it := { it with materialDirty := false }
    let body := it.updateMaterials provider it.blending node.body
    let node := { node with body := body.2.1 }
    if it.antialiasing then
      match node.fringe with
      | some fringe =>
        let fringe := body.1.updateMaterials provider true fringe
        (fringe.1, { node with fringe := some fringe.2.1 }, body.2.2 ++ fringe.2.2)
      -- `qFatal("should have fringe!")`
      | none => (body.1, node, body.2.2 ++ [.shouldHaveFringe])
    else (body.1, node, body.2.2)
  else (it, node, [])

/-- `updatePaintNode`: its three parts, each of which sees what the ones before have left of the
flags. -/
def updatePaintNode (provider : Option ProviderId) : Item K × List Output :=
  let old := it.composedNode
  let geometry := old.1.updateGeometry old.2
  let renewed := geometry.1.renewMaterials geometry.2
  let updated := renewed.1.updateDirtyMaterials provider renewed.2.1
  ({ updated.1 with node := some updated.2.1 }, renewed.2.2 ++ updated.2.2)

/-- The scene graph drops the node. -/
def deleteNode : Item K :=
  match it.node with
  | none => it
  | some node =>
    let it := it.forgetNode node.body.id
    let it := match node.fringe with
      | some fringe => it.forgetNode fringe.id
      | none => it
    { it with node := none }

end Item

/-! ## A provider is destroyed

The slots that are connected to the provider run, and its connections end. -/

variable {K : Type}

/-- `sourceProviderDestroyed` of the node `id`. -/
def GeometryNode.invalidate (id : NodeId) (node : GeometryNode K) : GeometryNode K :=
  if node.id = id then
    { node with sampledMaterial := node.sampledMaterial.map ({ · with textureProvider := none }) }
  else node

/-- The signal may be meant for either of the two nodes. -/
def ComposedNode.invalidate (id : NodeId) (node : ComposedNode K) : ComposedNode K where
  body := node.body.invalidate id
  fringe := node.fringe.map (·.invalidate id)

namespace Item

variable (it : Item K)

/-- The slot that is called when a provider is destroyed. -/
def call : Slot → Item K
  | .markDirtyNode _ => it
  | .sourceProviderDestroyed id => { it with node := it.node.map (·.invalidate id) }
  | .markDirtyMaterial => { it with materialDirty := true }

/-- A provider is destroyed: its slots are called, in the order in which they were connected, and
its connections end. -/
def providerDestroyed (provider : ProviderId) : Item K :=
  let it := (it.connections.receivers (provider, .destroyed)).foldl call it
  { it with connections := it.connections.forget fun signal _ => signal.1 = provider }

end Item

/-- What is called on an item, by its owner and by the scene graph, and the ends of the objects it
points to. -/
inductive ItemEvent (K : Type) where
  | setColor (color : QColor)
  | setBlending (blending : Bool)
  | setAntialiasing (antialiasing : Bool)
  | setClampToEdge (clampToEdge : Bool)
  | setDest (dest : QRectF K)
  | setSourceItem (sourceItem : Option SourceId) (isTextureProvider : Bool)
  | resize (width height : K)
  | markDirtyGeometry
  | sceneChange (window : Bool)
  | updatePaintNode (provider : Option ProviderId)
  | deleteNode
  | providerDestroyed (provider : ProviderId)
  | sourceItemDestroyed (item : SourceId)
  deriving DecidableEq

/-- The item reacting to one event after the other. -/
def item (K : Type) [Zero K] [DecidableEq K] : Machine (Item K) (ItemEvent K) Output where
  handle it
    | .setColor color => (it.setColor color, [])
    | .setBlending blending => (it.setBlending blending, [])
    | .setAntialiasing antialiasing => (it.setAntialiasing antialiasing, [])
    | .setClampToEdge clampToEdge => (it.setClampToEdge clampToEdge, [])
    | .setDest dest => (it.setDest dest, [])
    | .setSourceItem sourceItem isTextureProvider => it.setSourceItem sourceItem isTextureProvider
    | .resize width height => (it.resize width height, [])
    | .markDirtyGeometry => ({ it with geometryDirty := true }, [])
    | .sceneChange window => it.sceneChange window
    | .updatePaintNode provider => it.updatePaintNode provider
    | .deleteNode => (it.deleteNode, [])
    | .providerDestroyed provider => (it.providerDestroyed provider, [])
    | .sourceItemDestroyed item => it.sourceItemDestroyed item

/-- A new item. -/
def Item.new [Zero K] : Item K := { width := 0, height := 0, dest := ⟨0, 0, 0, 0⟩ }

end SamplerGeometry
