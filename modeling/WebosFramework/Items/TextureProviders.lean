import Mathlib.Algebra.GroupWithZero.Nat
import WebosFramework.Items.SamplerGeometry

/-!
# Texture providers that are destroyed

The sampled material of a geometry node points to a texture provider. When that is destroyed, its
signal is to make the node forget it. The item keeps the handles of the connections it makes, one
for each signal and not one for each node: when it has connected the provider to the body and
connects it to the fringe, it first disconnects the body.

**`provider_forgotten_iff`**: no node points to a provider that has just been destroyed exactly when
there never is a fringe while the body points to the provider that is destroyed.

Every paint makes new materials, as `newMaterial` is never cleared. So both nodes get the provider
in every paint, in that order, and the connections that are left are those of the last one.

The invariant `ProvidersInv` says which of the two nodes is connected to its provider: the fringe
if there is one, and the body only if there is none. A paint establishes it from new materials, by
one lemma for each part of `updatePaintNode`; the setters leave alone all that it reads
(`Item.SameNodes`), and the end of a provider takes away what it says of that provider.
-/

namespace SamplerGeometry

open EventLoop Signals

variable {K : Type}

/-! ## Which node points to which provider

The pointers and the connections of an item, and the invariant that ties them together: whoever
points to a provider hears of its end, with one exception. -/

/-- The provider that the node points to, if it has a sampled material with one. -/
def GeometryNode.textureProvider (node : GeometryNode K) : Option ProviderId :=
  node.sampledMaterial.bind (·.textureProvider)

/-- The nodes of the item that exist. -/
def Item.geometryNodes (it : Item K) : List (GeometryNode K) :=
  it.node.toList.flatMap fun node => node.body :: node.fringe.toList

/-- No node points to the provider. -/
def Item.Forgets (it : Item K) (provider : ProviderId) : Prop :=
  ∀ node ∈ it.geometryNodes, node.textureProvider ≠ some provider

instance (it : Item K) (provider : ProviderId) : Decidable (it.Forgets provider) :=
  inferInstanceAs (Decidable (∀ node ∈ it.geometryNodes, node.textureProvider ≠ some provider))

/-- The slots that make a node forget its provider. -/
def Slot.Forgetting (slot : Slot) : Prop := ∃ node, slot = .sourceProviderDestroyed node

/-- The node gets to know of the end of the provider. -/
def Item.Notifies (it : Item K) (provider : ProviderId) (node : NodeId) : Prop :=
  it.connections.Connected (provider, .destroyed) (.sourceProviderDestroyed node)

/-- The item knows the handle of every connection that makes a node forget its provider. -/
def Item.Owns (it : Item K) : Prop :=
  it.connections.Owned Slot.Forgetting it.destroyedToNodeSourceDestroyed

/-- The body and the fringe are different nodes, among the first `nodes`. -/
structure ComposedNode.Distinct (nodes : Nat) (node : ComposedNode K) : Prop where
  body : node.body.id < nodes
  fringe : ∀ fringe ∈ node.fringe, fringe.id < nodes ∧ fringe.id ≠ node.body.id

/-- What holds of the node from one paint to the next. The body hears of the end of its provider
only if there is no fringe. -/
structure ComposedNode.Connected (it : Item K) (node : ComposedNode K) : Prop where
  distinct : node.Distinct it.nodes
  fringe : ∀ fringe ∈ node.fringe, ∀ p, fringe.textureProvider = some p → it.Notifies p fringe.id
  body : node.fringe = none → ∀ p, node.body.textureProvider = some p → it.Notifies p node.body.id
  /-- The connection to the fringe has taken the place of the one to the body. -/
  body_lost : node.fringe.isSome = true → ∀ p, node.body.textureProvider = some p →
    ¬ it.Notifies p node.body.id

structure ProvidersInv (it : Item K) : Prop where
  owns : it.Owns
  /-- The flag is raised for the first paint and never lowered. -/
  newMaterial : ∀ node ∈ it.node, it.newMaterial = true
  /-- There is a fringe just in case the item is antialiased, until the geometry is asked for
  again. -/
  antialiased : ∀ node ∈ it.node, it.geometryDirty = false → node.fringe.isSome = it.antialiasing
  connected : ∀ node ∈ it.node, node.Connected it

/-! ## Connecting a provider

A new connection disconnects the one that the item has a handle of. The handle is kept for one
node at a time. -/

section Connecting

variable {it : Item K}

/-- The slot of the item itself is not one that makes a node forget its provider. -/
theorem not_forgetting_markDirtyMaterial : ¬ Slot.markDirtyMaterial.Forgetting := by
  rintro ⟨node, h⟩
  cases h

/-- Nor is the slot that only marks the node. -/
theorem not_forgetting_markDirtyNode (node : NodeId) : ¬ (Slot.markDirtyNode node).Forgetting := by
  rintro ⟨node', h⟩
  cases h

/-- Disconnecting takes away connections only, so that the item still knows the handles of those
that are left. -/
theorem owns_disconnectProvider (h : it.Owns) : it.disconnectProvider.Owns :=
  ((h.disconnect _).disconnect _).disconnect _

/-- Nothing is left of the connections that make a node forget its provider, as the item has known
the handle of each. -/
theorem not_connected_disconnectProvider (h : it.Owns) (sender : ProviderId × ProviderSignal)
    {slot : Slot} (hslot : slot.Forgetting) :
    ¬ it.disconnectProvider.connections.Connected sender slot := by
  intro hconnected
  have hinner := Connections.connected_of_disconnect hconnected
  exact (h.disconnect it.textureChangedToNodeMarkDirty).not_connected hslot hinner

/-- After a connection one node and one provider are connected, and no other pair: there were none
before, by the hypothesis. -/
theorem connectProvider_spec (provider : ProviderId) (node : NodeId)
    (hnone : ∀ (sender : ProviderId × ProviderSignal) (slot : Slot), slot.Forgetting →
      ¬ it.connections.Connected sender slot) :
    (it.connectProvider provider node).Owns ∧
      ∀ p n, (it.connectProvider provider node).Notifies p n ↔ p = provider ∧ n = node := by
  -- the first of the three connections, which is of another kind
  let toNode := it.connections.connect (provider, .textureChanged) (.markDirtyNode node)
  have hnone' (sender : ProviderId × ProviderSignal) (slot : Slot) (hslot : slot.Forgetting) :
      ¬ toNode.Connected sender slot := by
    intro hconnected
    rcases Connections.connected_connect.mp hconnected with hconnected | ⟨-, rfl⟩
    · exact hnone sender slot hslot hconnected
    · exact not_forgetting_markDirtyNode node hslot
  constructor
  · exact (Connections.Owned.reconnect hnone').connect not_forgetting_markDirtyMaterial
  · intro p n
    -- of the three connections the second one is of this kind
    have hlast : (it.connectProvider provider node).Notifies p n ↔
        (toNode.connect (provider, .destroyed) (.sourceProviderDestroyed node)).Connected
          (p, .destroyed) (.sourceProviderDestroyed n) := by
      refine Connections.connected_connect.trans (or_iff_left ?_)
      rintro ⟨-, h⟩
      cases h
    rw [hlast, Connections.connected_connect, or_iff_right (hnone' _ _ ⟨n, rfl⟩)]
    simp [eq_comm]

end Connecting

/-! ## Painting

The parts of a paint, each with what it does to pointers and connections. The fringe comes after
the body, and takes over the handle. -/

/-- The two items do not differ in what painting reads and leaves alone. -/
structure Item.SameSettings (it it' : Item K) : Prop where
  sourceItem : it'.sourceItem = it.sourceItem
  antialiasing : it'.antialiasing = it.antialiasing
  newMaterial : it'.newMaterial = it.newMaterial
  geometryDirty : it'.geometryDirty = it.geometryDirty
  nodes : it'.nodes = it.nodes

theorem Item.SameSettings.trans {it it' it'' : Item K} (h : it.SameSettings it')
    (h' : it'.SameSettings it'') : it.SameSettings it'' where
  sourceItem := h'.sourceItem.trans h.sourceItem
  antialiasing := h'.antialiasing.trans h.antialiasing
  newMaterial := h'.newMaterial.trans h.newMaterial
  geometryDirty := h'.geometryDirty.trans h.geometryDirty
  nodes := h'.nodes.trans h.nodes

/-- The provider that a new material gets. -/
def Item.sampled (it : Item K) (provider : Option ProviderId) : Option ProviderId :=
  if it.sourceItem.isSome then provider else none

section Painting

variable {it : Item K} (provider : Option ProviderId) {node : GeometryNode K}

/-- A new material gets the provider, and its node becomes the only one that is notified. Whatever
the connection was for before, it has been taken down, as the item keeps the handles of one only. -/
theorem updateSampledMaterial_spec (h : it.Owns) (id : NodeId) {mat : SampledMaterial K}
    (hmat : mat.textureProvider = none) :
    (it.updateSampledMaterial provider id mat).2.textureProvider = it.sampled provider ∧
      (it.updateSampledMaterial provider id mat).1.Owns ∧
      it.SameSettings (it.updateSampledMaterial provider id mat).1 ∧
      ∀ p, it.sampled provider = some p → ∀ q n,
        (it.updateSampledMaterial provider id mat).1.Notifies q n ↔ q = p ∧ n = id := by
  unfold Item.updateSampledMaterial
  cases hsource : it.sourceItem with
  -- without a source item there is no provider to be told of
  | none =>
    have hnone : it.sampled provider = none := by simp [Item.sampled, hsource]
    refine ⟨hmat.trans hnone.symm, owns_disconnectProvider h, by constructor <;> rfl, ?_⟩
    intro p hp
    rw [hnone] at hp
    cases hp
  -- with one the provider is the one that the source has now
  | some source =>
    have hsome : it.sampled provider = provider := by simp [Item.sampled, hsource]
    dsimp only
    rw [hmat, hsome]
    cases provider with
    -- a new material has no provider, so there is nothing to change
    | none =>
      rw [if_pos rfl]
      exact ⟨rfl, h, by constructor <;> rfl, fun p hp => by cases hp⟩
    | some provider =>
      rw [if_neg (by simp)]
      obtain ⟨howns, hnotifies⟩ := connectProvider_spec provider id
        fun sender slot hslot => not_connected_disconnectProvider h sender hslot
      refine ⟨rfl, howns, by constructor <;> rfl, fun p hp => ?_⟩
      rw [← Option.some.inj hp]
      exact hnotifies

/-- A node whose materials are new. -/
def GeometryNode.Fresh (node : GeometryNode K) : Prop :=
  node.solidMaterial = some {} ∧ node.sampledMaterial = some {}

/-- A node whose materials are new gets the provider, and becomes the only one that is notified. -/
theorem updateMaterials_spec (h : it.Owns) (hnode : node.Fresh) (blending : Bool) :
    (it.updateMaterials provider blending node).2.1.id = node.id ∧
      (it.updateMaterials provider blending node).2.1.textureProvider = it.sampled provider ∧
      (it.updateMaterials provider blending node).1.Owns ∧
      it.SameSettings (it.updateMaterials provider blending node).1 ∧
      ∀ p, it.sampled provider = some p → ∀ q n,
        (it.updateMaterials provider blending node).1.Notifies q n ↔ q = p ∧ n = node.id := by
  have hfresh : ({} : SampledMaterial K).textureProvider = none := rfl
  obtain ⟨hprovider, hspec⟩ := updateSampledMaterial_spec provider h node.id hfresh
  unfold Item.updateMaterials
  rw [hnode.1, hnode.2]
  exact ⟨rfl, hprovider, hspec⟩

/-- The node that is painted, whether it is an old one or new: new materials are asked for in
either case. -/
theorem composedNode_spec (hI : ProvidersInv it) :
    it.composedNode.1.Owns ∧ it.composedNode.1.newMaterial = true ∧
      (it.composedNode.1.geometryDirty = false →
        it.composedNode.2.fringe.isSome = it.composedNode.1.antialiasing) ∧
      it.composedNode.2.Distinct it.composedNode.1.nodes := by
  unfold Item.composedNode
  cases hnode : it.node with
  | some node =>
    exact ⟨hI.owns, hI.newMaterial node hnode, hI.antialiased node hnode,
      (hI.connected node hnode).distinct⟩
  | none =>
    dsimp only
    refine ⟨hI.owns, rfl, ?_, Nat.lt_succ_self _, ?_⟩
    · intro hclean
      cases hclean
    · intro fringe hfringe
      cases hfringe

variable {node' : ComposedNode K}

/-- There is a fringe after the geometry has been updated just in case the item is antialiased. A
node that has not been dirty has the fringe that the last paint has given it. -/
theorem updateGeometry_spec (h : it.Owns)
    (hfringe : it.geometryDirty = false → node'.fringe.isSome = it.antialiasing)
    (hdistinct : node'.Distinct it.nodes) :
    (it.updateGeometry node').1.Owns ∧
      (it.updateGeometry node').1.newMaterial = it.newMaterial ∧
      (it.updateGeometry node').2.fringe.isSome = (it.updateGeometry node').1.antialiasing ∧
      (it.updateGeometry node').2.Distinct (it.updateGeometry node').1.nodes := by
  unfold Item.updateGeometry
  by_cases hdirty : it.geometryDirty = true
  · rw [if_pos hdirty]
    dsimp only
    cases hantialiasing : it.antialiasing with
    -- with antialiasing a fringe is added where there was none
    | true =>
      rw [if_pos rfl, Item.enableFringe]
      cases hold : node'.fringe with
      | some fringe => exact ⟨h, rfl, by simp [hold], hdistinct⟩
      | none =>
        -- the fringe is a new node
        refine ⟨h, rfl, rfl, Nat.lt_succ_of_lt hdistinct.body, ?_⟩
        intro fringe hnew
        obtain rfl := Option.some.inj hnew
        exact ⟨Nat.lt_succ_self _, (Nat.ne_of_lt hdistinct.body).symm⟩
    -- without it the fringe goes, and with it what it was connected to
    | false =>
      rw [if_neg (by simp), Item.disableFringe]
      cases hold : node'.fringe with
      | some fringe =>
        refine ⟨h.forget _, rfl, rfl, hdistinct.body, ?_⟩
        intro fringe hnone
        cases hnone
      | none => exact ⟨h, rfl, by simp [hold], hdistinct⟩
  · rw [if_neg hdirty]
    exact ⟨h, rfl, hfringe (by simpa using hdirty), hdistinct⟩

/-- Both nodes get new materials, and nothing else changes but that these have to be set. That there
is a fringe wherever one is asked for is what `updateGeometry` has seen to before. -/
theorem renewMaterials_spec (hnew : it.newMaterial = true)
    (hfringe : node'.fringe.isSome = it.antialiasing) (hdistinct : node'.Distinct it.nodes) :
    (it.renewMaterials node').1 = { it with materialDirty := true } ∧
      (it.renewMaterials node').2.1.fringe.isSome = it.antialiasing ∧
      (it.renewMaterials node').2.1.Distinct it.nodes ∧
      (it.renewMaterials node').2.1.body.Fresh ∧
      ∀ fringe ∈ (it.renewMaterials node').2.1.fringe, fringe.Fresh := by
  unfold Item.renewMaterials
  rw [if_pos hnew]
  dsimp only
  cases hantialiasing : it.antialiasing with
  | true =>
    rw [if_pos rfl]
    cases hold : node'.fringe with
    | none => simp [hold, hantialiasing] at hfringe
    | some fringe =>
      refine ⟨rfl, rfl, ⟨hdistinct.body, ?_⟩, ⟨rfl, rfl⟩, ?_⟩
      · intro fringe' hfringe'
        obtain rfl := Option.some.inj hfringe'
        exact hdistinct.fringe fringe hold
      · intro fringe' hfringe'
        obtain rfl := Option.some.inj hfringe'
        exact ⟨rfl, rfl⟩
  | false =>
    rw [if_neg (by simp)]
    have hnone : node'.fringe = none := by simpa [hantialiasing] using hfringe
    refine ⟨rfl, by simp [hnone], ⟨hdistinct.body, hdistinct.fringe⟩, ⟨rfl, rfl⟩, ?_⟩
    intro fringe hfringe'
    dsimp only at hfringe'
    rw [hnone] at hfringe'
    cases hfringe'

/-- Setting the materials connects the body first and the fringe after it, by which the connection
of the body is lost. So the node ends up connected as `Connected` says, with or without a fringe. -/
theorem updateDirtyMaterials_spec (h : it.Owns) (hdirty : it.materialDirty = true)
    (hfringe : node'.fringe.isSome = it.antialiasing) (hdistinct : node'.Distinct it.nodes)
    (hbody : node'.body.Fresh) (hfresh : ∀ fringe ∈ node'.fringe, fringe.Fresh) :
    (it.updateDirtyMaterials provider node').1.Owns ∧
      it.SameSettings (it.updateDirtyMaterials provider node').1 ∧
      (it.updateDirtyMaterials provider node').2.1.fringe.isSome = it.antialiasing ∧
      (it.updateDirtyMaterials provider node').2.1.Connected
        (it.updateDirtyMaterials provider node').1 := by
  have howns : ({ it with materialDirty := false } : Item K).Owns := h
  obtain ⟨hid, hprovider, howns, hsame, hnotifies⟩ :=
    updateMaterials_spec provider howns hbody it.blending
  unfold Item.updateDirtyMaterials
  rw [if_pos hdirty]
  dsimp only
  by_cases hantialiasing : it.antialiasing = true
  -- the body alone gets a provider
  case neg =>
    rw [if_neg hantialiasing]
    have hnone : node'.fringe = none := by simpa [hantialiasing] using hfringe
    refine ⟨howns, ⟨hsame.1, hsame.2, hsame.3, hsame.4, hsame.5⟩, by simp [hnone, hantialiasing],
      ⟨?_, ?_⟩, ?_, ?_, ?_⟩
    · exact Nat.lt_of_le_of_lt hid.le (Nat.lt_of_lt_of_eq hdistinct.body hsame.nodes.symm)
    · simp [hnone]
    · simp [hnone]
    · intro _ p hp
      rw [hid]
      exact (hnotifies p (hprovider.symm.trans hp) p node'.body.id).mpr ⟨rfl, rfl⟩
    · simp [hnone]
  -- the body gets it first and the fringe after it, over the same member
  case pos =>
    rw [if_pos hantialiasing]
    cases hold : node'.fringe with
    | none => simp [hold, hantialiasing] at hfringe
    | some fringe =>
      obtain ⟨hid', hprovider', howns', hsame', hnotifies'⟩ := updateMaterials_spec provider howns
        (hfresh fringe hold) true
      obtain ⟨hlt, hne⟩ := hdistinct.fringe fringe hold
      have hnodes := (hsame.trans hsame').nodes
      -- both nodes get the same provider
      have hsampled : ({ it with materialDirty := false } : Item K).sampled provider =
          (({ it with materialDirty := false } : Item K).updateMaterials provider it.blending
            node'.body).1.sampled provider := by
        rw [Item.sampled, Item.sampled, hsame.sourceItem]
      have hall := hsame.trans hsame'
      refine ⟨howns', ⟨hall.1, hall.2, hall.3, hall.4, hall.5⟩, hantialiasing.symm, ⟨?_, ?_⟩, ?_,
        ?_, ?_⟩
      · exact Nat.lt_of_le_of_lt hid.le (Nat.lt_of_lt_of_eq hdistinct.body hnodes.symm)
      · intro fringe' hfringe'
        obtain rfl := Option.some.inj hfringe'
        rw [hid', hid]
        exact ⟨Nat.lt_of_lt_of_eq hlt hnodes.symm, hne⟩
      · intro fringe' hfringe' p hp
        obtain rfl := Option.some.inj hfringe'
        rw [hid']
        exact (hnotifies' p (hprovider'.symm.trans hp) p fringe.id).mpr ⟨rfl, rfl⟩
      · intro hnone
        cases hnone
      · intro _ p hp hbody'
        rw [hid] at hbody'
        have hboth := hsampled.symm.trans (hprovider.symm.trans hp)
        exact hne ((hnotifies' p hboth p node'.body.id).mp hbody').2.symm

/-- A paint establishes the invariant anew. Its four parts are taken one after the other, each
from what the lemma about the one before says. -/
theorem providersInv_updatePaintNode (hI : ProvidersInv it) :
    ProvidersInv (it.updatePaintNode provider).1 := by
  obtain ⟨howns, hnew, hfringe, hdistinct⟩ := composedNode_spec hI
  obtain ⟨howns, hnew', hfringe, hdistinct⟩ := updateGeometry_spec howns hfringe hdistinct
  obtain ⟨hrenewed, hfringe, hdistinct, hbody, hfresh⟩ :=
    renewMaterials_spec (hnew'.trans hnew) hfringe hdistinct
  unfold Item.updatePaintNode
  extract_lets old geometry renewed updated
  -- new materials are dirty, and nothing else has changed
  have hrenewed : renewed.1 = { geometry.1 with materialDirty := true } := hrenewed
  have howns' : renewed.1.Owns := by
    rw [hrenewed]
    exact howns
  have hdirty : renewed.1.materialDirty = true := by rw [hrenewed]
  have hfringe' : renewed.2.1.fringe.isSome = renewed.1.antialiasing := by
    rw [hrenewed]
    exact hfringe
  have hdistinct' : renewed.2.1.Distinct renewed.1.nodes := by
    rw [hrenewed]
    exact hdistinct
  obtain ⟨howns, hsame, hfringe, hconnected⟩ :=
    updateDirtyMaterials_spec provider howns' hdirty hfringe' hdistinct' hbody hfresh
  constructor
  case owns => exact howns
  case newMaterial =>
    intro _ _
    have hkept : renewed.1.newMaterial = true := by
      rw [hrenewed]
      exact hnew'.trans hnew
    exact hsame.newMaterial.trans hkept
  case antialiased =>
    intro node hnode _
    obtain rfl := Option.some.inj hnode
    exact hfringe.trans hsame.antialiasing.symm
  case connected =>
    intro node hnode
    obtain rfl := Option.some.inj hnode
    exact { hconnected with }

end Painting

/-! ## A provider is destroyed

The slots make the nodes forget the provider. A node that is not connected does not hear of it. -/

/-- The slots of a node among those that are called. -/
def GeometryNode.notified (slots : List Slot) (node : GeometryNode K) : GeometryNode K :=
  slots.foldl (fun node slot =>
    match slot with
    | .sourceProviderDestroyed id => node.invalidate id
    | _ => node) node

/-- Being notified does not make another node of it. -/
theorem notified_id (slots : List Slot) (node : GeometryNode K) :
    (node.notified slots).id = node.id := by
  induction slots generalizing node with
  | nil => rfl
  | cons slot slots ih =>
    refine (ih _).trans ?_
    cases slot with
    | sourceProviderDestroyed id =>
      simp only [GeometryNode.invalidate]
      split <;> rfl
    | _ => rfl

/-- The slot is meant for one node, and the other one keeps its provider. -/
theorem textureProvider_invalidate (id : NodeId) (node : GeometryNode K) :
    (node.invalidate id).textureProvider =
      if node.id = id then none else node.textureProvider := by
  unfold GeometryNode.invalidate
  split
  · cases node.sampledMaterial <;> simp [GeometryNode.textureProvider]
  · rfl

/-- A node has lost its provider just in case its slot was among those that have been called. -/
theorem textureProvider_notified (slots : List Slot) (node : GeometryNode K) :
    (node.notified slots).textureProvider =
      if .sourceProviderDestroyed node.id ∈ slots then none else node.textureProvider := by
  induction slots generalizing node with
  | nil => rfl
  | cons slot slots ih =>
    refine (ih _).trans ?_
    cases slot with
    | sourceProviderDestroyed id =>
      have hid : (node.invalidate id).id = node.id := notified_id [.sourceProviderDestroyed id] node
      dsimp only
      rw [hid, textureProvider_invalidate]
      by_cases hsame : node.id = id
      · simp [hsame]
      · simp [hsame]
    | _ => simp

section Destroyed

variable {it : Item K}

/-- The slots change the flag for the materials and the two nodes, each of them by what is meant
for it. By induction on the slots. -/
theorem foldl_call (it : Item K) (slots : List Slot) :
    ∃ materialDirty, slots.foldl Item.call it =
      { it with
        materialDirty
        node := it.node.map fun node =>
          ⟨node.body.notified slots, node.fringe.map (GeometryNode.notified slots)⟩ } := by
  induction slots generalizing it with
  | nil =>
    refine ⟨it.materialDirty, ?_⟩
    have hnode : (it.node.map fun node : ComposedNode K =>
        ⟨node.body.notified [], node.fringe.map (GeometryNode.notified [])⟩) = it.node := by
      have hid : GeometryNode.notified [] = (id : GeometryNode K → GeometryNode K) := rfl
      cases it.node <;> simp [hid]
    rw [hnode]
    rfl
  | cons slot slots ih =>
    obtain ⟨materialDirty, h⟩ := ih (it.call slot)
    refine ⟨materialDirty, ?_⟩
    rw [List.foldl_cons, h]
    cases slot with
    | sourceProviderDestroyed id =>
      simp only [Item.call, Option.map_map]
      congr 2
      funext node
      simp only [Function.comp_apply, ComposedNode.invalidate, Option.map_map]
      rfl
    | _ => rfl

/-- The end of a provider reaches the nodes that are connected to it. -/
theorem providerDestroyed_node (it : Item K) (p : ProviderId) :
    ∃ notified : GeometryNode K → GeometryNode K,
      (it.providerDestroyed p).node = it.node.map
        (fun node => ⟨notified node.body, node.fringe.map notified⟩) ∧
      ∀ node, (notified node).id = node.id ∧ ∀ q, (notified node).textureProvider = some q ↔
        node.textureProvider = some q ∧ ¬ it.Notifies p node.id := by
  obtain ⟨materialDirty, h⟩ := foldl_call it (it.connections.receivers (p, .destroyed))
  refine ⟨GeometryNode.notified (it.connections.receivers (p, .destroyed)), ?_, fun node => ?_⟩
  · rw [Item.providerDestroyed]
    exact congrArg Item.node h
  · refine ⟨notified_id _ node, fun q => ?_⟩
    rw [textureProvider_notified, Item.Notifies, ← Connections.mem_receivers]
    split
    · rename_i hmem
      simp [hmem]
    · rename_i hmem
      simp [hmem]

/-- The connections of the provider end with it, and no others do. -/
theorem providerDestroyed_notifies {p q : ProviderId} {node : NodeId} :
    (it.providerDestroyed p).Notifies q node ↔ it.Notifies q node ∧ q ≠ p := by
  obtain ⟨materialDirty, h⟩ := foldl_call it (it.connections.receivers (p, .destroyed))
  unfold Item.providerDestroyed
  dsimp only
  rw [h]
  refine Connections.connected_forget.trans (and_congr_right fun _ => ?_)
  simp

/-- Nothing that painting reads changes, and the item still knows its handles. -/
theorem providerDestroyed_settings (it : Item K) (p : ProviderId) :
    it.SameSettings (it.providerDestroyed p) ∧
      (it.Owns → (it.providerDestroyed p).Owns) := by
  obtain ⟨materialDirty, h⟩ := foldl_call it (it.connections.receivers (p, .destroyed))
  unfold Item.providerDestroyed
  dsimp only
  rw [h]
  exact ⟨by constructor <;> rfl, fun howns => howns.forget _⟩

/-- The end of a provider keeps the invariant: a node that still points to a provider points to
another one, and is connected to it as before. -/
theorem providersInv_providerDestroyed (hI : ProvidersInv it) (p : ProviderId) :
    ProvidersInv (it.providerDestroyed p) := by
  obtain ⟨notified, hnode, hnotified⟩ := providerDestroyed_node it p
  obtain ⟨hsame, howns⟩ := providerDestroyed_settings it p
  -- what a node still points to is another provider, and the node is still connected to it
  have hstill {node : GeometryNode K} {q : ProviderId}
      (hconnected : ∀ q, node.textureProvider = some q → it.Notifies q node.id)
      (hq : (notified node).textureProvider = some q) :
      (it.providerDestroyed p).Notifies q (notified node).id := by
    obtain ⟨hold, hnot⟩ := ((hnotified node).2 q).mp hq
    rw [(hnotified node).1, providerDestroyed_notifies]
    refine ⟨hconnected q hold, fun hqp => hnot ?_⟩
    rw [← hqp]
    exact hconnected q hold
  have hcases {node' : ComposedNode K} (hnode' : node' ∈ (it.providerDestroyed p).node) :
      ∃ node ∈ it.node, (⟨notified node.body, node.fringe.map notified⟩ : ComposedNode K) =
        node' := by
    rw [hnode] at hnode'
    exact Option.mem_map.mp hnode'
  -- each part of the invariant is that before the signal, seen through the nodes as they are now
  constructor
  case owns => exact howns hI.owns
  case newMaterial =>
    intro node' hnode'
    obtain ⟨node, hold, -⟩ := hcases hnode'
    exact hsame.newMaterial.trans (hI.newMaterial node hold)
  case antialiased =>
    intro node' hnode' hclean
    obtain ⟨node, hold, rfl⟩ := hcases hnode'
    rw [hsame.geometryDirty] at hclean
    rw [hsame.antialiasing, Option.isSome_map]
    exact hI.antialiased node hold hclean
  case connected =>
    intro node' hnode'
    obtain ⟨node, hold, rfl⟩ := hcases hnode'
    have hconnected := hI.connected node hold
    constructor
    -- the ids of the nodes are not touched
    case distinct =>
      refine ⟨?_, ?_⟩
      · rw [(hnotified _).1, hsame.nodes]
        exact hconnected.distinct.body
      · intro fringe' hfringe'
        obtain ⟨fringe, hfringe, rfl⟩ := Option.mem_map.mp hfringe'
        rw [(hnotified _).1, (hnotified _).1, hsame.nodes]
        exact hconnected.distinct.fringe fringe hfringe
    -- the fringe was connected last, so it has been told
    case fringe =>
      intro fringe' hfringe' q hq
      obtain ⟨fringe, hfringe, rfl⟩ := Option.mem_map.mp hfringe'
      exact hstill (hconnected.fringe fringe hfringe) hq
    -- without a fringe the body was connected last
    case body =>
      intro hnone q hq
      exact hstill (hconnected.body (Option.map_eq_none_iff.mp hnone)) hq
    -- with one the body has lost its connection, and is told nothing
    case body_lost =>
      intro hsome q hq hnotifies
      rw [(hnotified _).1, providerDestroyed_notifies] at hnotifies
      rw [Option.isSome_map] at hsome
      exact hconnected.body_lost hsome q (((hnotified _).2 q).mp hq).1 hnotifies.1

/-- The body of an item with a fringe does not hear of the end of its provider. In all other cases
the node that points to the provider is connected to it, and forgets it. -/
theorem forgets_providerDestroyed_iff (hI : ProvidersInv it) (p : ProviderId) :
    (it.providerDestroyed p).Forgets p ↔
      ∀ node ∈ it.node, node.fringe = none ∨ node.body.textureProvider ≠ some p := by
  obtain ⟨notified, hnode, hnotified⟩ := providerDestroyed_node it p
  have hforgets : (it.providerDestroyed p).Forgets p ↔ ∀ node ∈ it.node,
      (notified node.body).textureProvider ≠ some p ∧
        ∀ fringe ∈ node.fringe, (notified fringe).textureProvider ≠ some p := by
    unfold Item.Forgets Item.geometryNodes
    rw [hnode]
    cases it.node with
    | none => simp
    | some node =>
      cases hfringe : node.fringe <;> simp [hfringe]
  rw [hforgets]
  refine forall_congr' fun node => forall_congr' fun hold => ?_
  have hconnected := hI.connected node hold
  -- a node that is connected to its provider has forgotten it
  have hgone {node : GeometryNode K}
      (h : ∀ q, node.textureProvider = some q → it.Notifies q node.id) :
      (notified node).textureProvider ≠ some p := by
    intro hp
    obtain ⟨hold, hnot⟩ := ((hnotified node).2 p).mp hp
    exact hnot (h p hold)
  have hfringe (fringe : GeometryNode K) (h : fringe ∈ node.fringe) :
      (notified fringe).textureProvider ≠ some p :=
    hgone (hconnected.fringe fringe h)
  rw [and_iff_left hfringe]
  cases hnone : node.fringe with
  | none =>
    exact iff_of_true (hgone (hconnected.body hnone)) (.inl rfl)
  | some fringe =>
    have hlost := hconnected.body_lost (by simp [hnone])
    rw [or_iff_right (by simp)]
    constructor
    · intro hbody hp
      exact hbody (((hnotified _).2 p).mpr ⟨hp, hlost p hp⟩)
    · intro hbody hp
      exact hbody (((hnotified _).2 p).mp hp).1

end Destroyed

/-! ## Runs of an item

The setters leave nodes and connections alone, and everything else has been dealt with above. -/

/-- What the setters leave alone. They may ask for a new geometry or new materials, and have to ask
for the geometry if they change the antialiasing. -/
structure Item.SameNodes (it it' : Item K) : Prop where
  node : it'.node = it.node
  nodes : it'.nodes = it.nodes
  connections : it'.connections = it.connections
  handle : it'.destroyedToNodeSourceDestroyed = it.destroyedToNodeSourceDestroyed
  newMaterial : it.newMaterial = true → it'.newMaterial = true
  antialiasing : it'.geometryDirty = false →
    it.geometryDirty = false ∧ it'.antialiasing = it.antialiasing

section Setters

variable {it it' it'' : Item K}

namespace Item.SameNodes

/-- A setter that finds nothing to change changes nothing. -/
theorem refl (it : Item K) : it.SameNodes it := by
  constructor <;> simp

/-- Setters that follow each other. -/
theorem trans (h : it.SameNodes it') (h' : it'.SameNodes it'') : it.SameNodes it'' where
  node := h'.node.trans h.node
  nodes := h'.nodes.trans h.nodes
  connections := h'.connections.trans h.connections
  handle := h'.handle.trans h.handle
  newMaterial hnew := h'.newMaterial (h.newMaterial hnew)
  antialiasing hclean :=
    have ⟨hclean', hsame'⟩ := h'.antialiasing hclean
    have ⟨hclean, hsame⟩ := h.antialiasing hclean'
    ⟨hclean, hsame'.trans hsame⟩

theorem notifies (h : it.SameNodes it') {p : ProviderId} {node : NodeId} :
    it'.Notifies p node ↔ it.Notifies p node := by
  unfold Item.Notifies
  rw [h.connections]

end Item.SameNodes

/-- What the setters leave alone is all that the invariant reads. -/
theorem ProvidersInv.of_same (hI : ProvidersInv it) (h : it.SameNodes it') :
    ProvidersInv it' where
  owns := by
    unfold Item.Owns
    rw [h.connections, h.handle]
    exact hI.owns
  newMaterial node hnode := h.newMaterial (hI.newMaterial node (h.node ▸ hnode))
  antialiased node hnode hclean :=
    have ⟨hclean, hsame⟩ := h.antialiasing hclean
    (hI.antialiased node (h.node ▸ hnode) hclean).trans hsame.symm
  connected node hnode := by
    have hconnected := hI.connected node (h.node ▸ hnode)
    refine ⟨h.nodes ▸ hconnected.distinct, ?_, ?_, ?_⟩ <;> simp only [h.notifies]
    · exact hconnected.fringe
    · exact hconnected.body
    · exact hconnected.body_lost

/-- Blending is a matter of the flags. -/
theorem sameNodes_updateBlending (it : Item K) (blending : Bool) :
    it.SameNodes (it.updateBlending blending) := by
  unfold Item.updateBlending
  split
  · exact .refl it
  · constructor <;> simp

/-- So is the color, with the blending that may follow from it. -/
theorem sameNodes_setColor (it : Item K) (color : QColor) : it.SameNodes (it.setColor color) := by
  unfold Item.setColor
  split
  · exact .refl it
  · have hcolor : it.SameNodes { it with color, materialDirty := true } := by
      constructor <;> simp
    dsimp only
    split
    · exact hcolor.trans (sameNodes_updateBlending _ _)
    · exact hcolor

/-- Another source item leaves the nodes and their connections to the next paint. -/
theorem sameNodes_setSourceItem (it : Item K) (sourceItem : Option SourceId)
    (isTextureProvider : Bool) :
    it.SameNodes (it.setSourceItem sourceItem isTextureProvider).1 := by
  unfold Item.setSourceItem
  extract_lets accepted newMaterial deref ref
  split
  · exact .refl it
  · constructor <;> simp +contextual [newMaterial]

/-- Without a node there is nothing to say but that the item knows its handles. -/
theorem providersInv_deleteNode (hI : ProvidersInv it) :
    ProvidersInv it.deleteNode := by
  unfold Item.deleteNode
  split
  · exact hI
  · rename_i node hnode
    have howns (it : Item K) (howns : it.Owns) (id : NodeId) : (it.forgetNode id).Owns :=
      howns.forget _
    constructor
    case owns =>
      dsimp only
      split
      · exact howns _ (howns _ hI.owns _) _
      · exact howns _ hI.owns _
    all_goals
      intro _ hnone
      cases hnone

/-- A new item has no node, no connections and no handles. -/
theorem providersInv_new [Zero K] : ProvidersInv (.new : Item K) := by
  constructor <;> simp [Item.new, Item.Owns, Connections.Owned]

end Setters

section Runs

variable [Zero K] [DecidableEq K]

/-- **One event** keeps the invariant, whatever it is. Setters ask for a paint and do not touch the
nodes; that is done by a paint, by the deletion of the node and by the end of a provider. -/
theorem providersInv_handle {it : Item K} (hI : ProvidersInv it) (e : ItemEvent K) :
    ProvidersInv ((item K).handle it e).1 := by
  cases e with
  | setColor color => exact hI.of_same (sameNodes_setColor it color)
  | setBlending blending =>
    -- the color does not decide any more
    have hmanual : it.SameNodes { it with calculatesBlending := false } := by
      constructor <;> simp
    exact hI.of_same (hmanual.trans (sameNodes_updateBlending _ _))
  | setAntialiasing antialiasing =>
    refine hI.of_same ?_
    simp only [item, Item.setAntialiasing]
    split
    · exact .refl it
    · constructor <;> simp
  | setClampToEdge clampToEdge =>
    refine hI.of_same ?_
    simp only [item, Item.setClampToEdge]
    split
    · exact .refl it
    · constructor <;> simp
  | setDest dest =>
    refine hI.of_same ?_
    simp only [item, Item.setDest]
    split <;> constructor <;> simp
  | setSourceItem sourceItem isTextureProvider =>
    exact hI.of_same (sameNodes_setSourceItem it sourceItem isTextureProvider)
  | resize width height =>
    refine hI.of_same ?_
    simp only [item, Item.resize, Item.calculateDest]
    split <;> constructor <;> simp
  | markDirtyGeometry =>
    refine hI.of_same ?_
    constructor <;> simp [item]
  | sceneChange window =>
    refine hI.of_same ?_
    constructor <;> simp [item, Item.sceneChange]
  | updatePaintNode provider => exact providersInv_updatePaintNode provider hI
  | deleteNode => exact providersInv_deleteNode hI
  | providerDestroyed p => exact providersInv_providerDestroyed hI p
  -- the signal of another item than the source is ignored
  | sourceItemDestroyed source =>
    simp only [item, Item.sourceItemDestroyed]
    split
    · exact hI.of_same (sameNodes_setSourceItem it none false)
    · exact hI

/-- A provider that has just been destroyed is forgotten. -/
def ForgetsDestroyed (h : History (Item K) (ItemEvent K) Output) : Prop :=
  ∀ p, h.inputs.getLast? = some (.providerDestroyed p) → h.state.Forgets p

/-- There is no fringe while the body points to a provider that is destroyed. -/
def NoFringeWhenDestroyed (it : Item K) : ItemEvent K → Prop
  | .providerDestroyed p =>
    ∀ node ∈ it.node, node.fringe = none ∨ node.body.textureProvider ≠ some p
  | _ => True

instance (it : Item K) (e : ItemEvent K) : Decidable (NoFringeWhenDestroyed it e) := by
  cases e <;> unfold NoFringeWhenDestroyed <;> infer_instance

/-- In every run, no node of the item points to a provider that has just been destroyed, if and
only if there is no fringe whenever the provider of the body is destroyed.

By `Machine.always_iff_admits`: only the end of a provider has anything to say of what has just
been destroyed, and `forgets_providerDestroyed_iff` says what. -/
theorem provider_forgotten_iff (es : List (ItemEvent K)) :
    (item K).Always ForgetsDestroyed (.init .new) es ↔
      (item K).Admits (fun h => NoFringeWhenDestroyed h.state) (.init .new) es := by
  refine Machine.always_iff_admits (E := fun _ _ => True) (I := fun h => ProvidersInv h.state)
    (fun h e hI _ => providersInv_handle hI e) ?_ providersInv_new ?_ (Machine.admits_true _ _ es)
  · intro h e hI _ _
    unfold ForgetsDestroyed
    rw [Machine.step_inputs, List.getLast?_concat]
    cases e with
    | providerDestroyed p =>
      refine Iff.trans ?_ (forgets_providerDestroyed_iff hI p)
      simp [item]
    | _ => simp [NoFringeWhenDestroyed]
  · intro p hp
    simp [History.init] at hp

/-- An antialiased item is painted with the texture of its source item, whose provider is then
destroyed. -/
def paintThenDestroy : List (ItemEvent Nat) :=
  [.sceneChange true, .setSourceItem (some 0) true, .updatePaintNode (some 0),
    .providerDestroyed 0]

/-- The body of that item still points to the provider. -/
theorem not_forgetsDestroyed_paintThenDestroy :
    ¬ (item Nat).Always ForgetsDestroyed (.init .new) paintThenDestroy := by
  intro hall
  have hlast := hall.last 0 rfl
  revert hlast
  decide

end Runs

end SamplerGeometry
