import WebosFramework.Items.Painting
import WebosFramework.Lib.Resources

/-!
# The materials of the nodes

A `GeometryNode` of `Eos/Items/src/samplergeometry.cpp` manages a solid and a sampled material by
itself. The scene graph draws it with one of the two, by a pointer of its own, which `preprocess`
turns to the sampled one as long as there is a texture. Every paint makes new materials, and deletes
the old ones.

* A material is known by a number. What a material holds is in `Items.SamplerGeometry`, the nodes of
  which go along with the pointers.
* Before a frame is drawn, the scene graph calls `preprocess` of each node, which asks the provider
  of its sampled material for a texture. The pointer to the provider is the one in
  `Items.SamplerGeometry`, which is null again once the node has been told of the end of the
  provider. Which of the providers have a texture at that time is part of the event.

**`materials_kept`**: over whole runs no material is lost or deleted twice, and no node is drawn
with a material that has been deleted, or without one.

The books are kept as in `Lib.Resources`: a material is taken when it is made and given back when
it is deleted. Each operation of a node is balanced by itself (`balanced_renew`,
`balanced_destroy`), touches nothing of what other nodes hold (`Touches`), and so the books of the
two nodes of an item add up.
-/

namespace SamplerGeometry

open EventLoop Resources

abbrev MaterialId := Nat

/-- What happens to materials. A node that is drawn without a material would show as `none`. -/
inductive MaterialAction where
  | create (id : MaterialId)
  | delete (id : MaterialId)
  /-- A node is drawn. -/
  | draw (material : Option MaterialId)
  deriving DecidableEq

/-- Making a material and deleting it are what the books are about; drawing is not. -/
def materialUse : MaterialAction → Option (Use MaterialId)
  | .create id => some (.take id)
  | .delete id => some (.giveBack id)
  | .draw _ => none

/-! ## A node

`GeometryNode` with its pointers as they are: two materials that it owns, and the one that the
scene graph draws with. The order of `delete` and of the assignments is that of the source. -/

/-- The pointers of a `GeometryNode`. -/
structure MaterialPointers where
  solidMaterial : Option MaterialId := none
  sampledMaterial : Option MaterialId := none
  /-- `material()` of `QSGGeometryNode`. -/
  material : Option MaterialId := none
  deriving DecidableEq

/-- `delete` of a pointer, which does nothing for a null pointer. -/
def deleteAll (materials : Option MaterialId) : List MaterialAction :=
  materials.toList.map .delete

namespace MaterialPointers

variable (n : MaterialPointers)

/-- `setMaterial` of `QSGGeometryNode`, which does not own its material here. -/
def setMaterial (mat : Option MaterialId) : MaterialPointers := { n with material := mat }

/-- `setSolidMaterial`: the pointer of the scene graph is turned to the new material first, if it
was at the old one, which is then deleted. -/
def setSolidMaterial (mat : MaterialId) : MaterialPointers × List MaterialAction :=
  if some mat = n.solidMaterial then (n, [])
  else
    let n' := if n.material = n.solidMaterial then n.setMaterial mat else n
    ({ n' with solidMaterial := mat }, deleteAll n.solidMaterial)

/-- `setSampledMaterial`, which is the same for the other material. -/
def setSampledMaterial (mat : MaterialId) : MaterialPointers × List MaterialAction :=
  if some mat = n.sampledMaterial then (n, [])
  else
    let n' := if n.material = n.sampledMaterial then n.setMaterial mat else n
    ({ n' with sampledMaterial := mat }, deleteAll n.sampledMaterial)

/-- What `updatePaintNode` does to a node for new materials. -/
def renew (next : MaterialId) : MaterialPointers × List MaterialAction :=
  let solid := n.setSolidMaterial next
  let sampled := solid.1.setSampledMaterial (next + 1)
  (sampled.1.setMaterial sampled.1.solidMaterial,
    .create next :: solid.2 ++ .create (next + 1) :: sampled.2)

/-- `textureProvider` is the one of the sampled material, and `textured` are the providers that have
a texture. -/
def sampling (textureProvider : Option ProviderId) (textured : List ProviderId) : Bool :=
  n.sampledMaterial.isSome && textureProvider.any (textured.contains ·)

/-- The assignments are made for another pointer only, which is the same. -/
def preprocess (textureProvider : Option ProviderId) (textured : List ProviderId) :
    MaterialPointers :=
  if n.sampling textureProvider textured then
    if n.material ≠ n.sampledMaterial then n.setMaterial n.sampledMaterial else n
  else if n.material ≠ n.solidMaterial then n.setMaterial n.solidMaterial else n

/-- `~GeometryNode` -/
def destroy : List MaterialAction := deleteAll n.solidMaterial ++ deleteAll n.sampledMaterial

end MaterialPointers

/-! ## The nodes of an item

A composed node has a body and may have a fringe. The items of `Items.SamplerGeometry` run along,
so that a node is painted when they say so. -/

/-- The pointers of a `ComposedNode`. -/
structure ComposedPointers where
  body : MaterialPointers := {}
  fringe : Option MaterialPointers := none

namespace ComposedPointers

variable (node : ComposedPointers)

/-- `enableFringe`, which keeps a fringe that is there. -/
def enableFringe : ComposedPointers := { node with fringe := some (node.fringe.getD {}) }

/-- `disableFringe`, with the destructor of the fringe. -/
def disableFringe : ComposedPointers × List MaterialAction :=
  ({ node with fringe := none }, node.fringe.elim [] MaterialPointers.destroy)

/-- The fringe comes and goes with the geometry, as in `Items.SamplerGeometry`. -/
def updateGeometry (geometryDirty antialiasing : Bool) : ComposedPointers × List MaterialAction :=
  if geometryDirty then
    if antialiasing then (node.enableFringe, []) else node.disableFringe
  else (node, [])

/-- A fringe that is missing is in `Items.SamplerGeometry`. -/
def renewMaterials (antialiasing : Bool) (next : MaterialId) :
    ComposedPointers × MaterialId × List MaterialAction :=
  let body := node.body.renew next
  match if antialiasing then node.fringe else none with
  | some fringe =>
    let fringe := fringe.renew (next + 2)
    ({ node with body := body.1, fringe := some fringe.1 }, next + 4, body.2 ++ fringe.2)
  | none => ({ node with body := body.1 }, next + 2, body.2)

/-- Each node asks the provider of its own material. -/
def preprocess (bodyProvider fringeProvider : Option ProviderId) (textured : List ProviderId) :
    ComposedPointers where
  body := node.body.preprocess bodyProvider textured
  fringe := node.fringe.map (·.preprocess fringeProvider textured)

/-- The nodes that the scene graph draws. -/
def geometryNodes : List MaterialPointers := node.body :: node.fringe.toList

end ComposedPointers

/-- An item together with the pointers of its nodes. `nextMaterial` is the number of the next
material that is made, so that no two materials have one number. -/
structure SceneItem (K : Type) where
  it : Item K
  node : Option ComposedPointers := none
  nextMaterial : MaterialId := 0

/-- What happens to the item, and frames that are drawn in between. -/
inductive SceneEvent (K : Type) where
  | item (e : ItemEvent K)
  /-- A frame is drawn, at a time when these providers have a texture. -/
  | draw (textured : List ProviderId)
  deriving DecidableEq

namespace SceneItem

variable {K : Type} (s : SceneItem K)

/-- The materials in `updatePaintNode`. -/
def updatePaintNode : SceneItem K × List MaterialAction :=
  let it := s.it.composedNode.1
  let geometry := (s.node.getD {}).updateGeometry it.geometryDirty it.antialiasing
  if it.newMaterial then
    let renewed := geometry.1.renewMaterials it.antialiasing s.nextMaterial
    ({ s with node := some renewed.1, nextMaterial := renewed.2.1 }, geometry.2 ++ renewed.2.2)
  else ({ s with node := some geometry.1 }, geometry.2)

/-- `~ComposedNode` -/
def deleteNode : SceneItem K × List MaterialAction :=
  ({ s with node := none },
    s.node.elim [] fun node => node.body.destroy ++ node.fringe.elim [] MaterialPointers.destroy)

/-- What becomes of the materials. -/
def handleMaterials : ItemEvent K → SceneItem K × List MaterialAction
  | .updatePaintNode _ => s.updatePaintNode
  | .deleteNode => s.deleteNode
  | _ => (s, [])

/-- `m_textureProvider` of the sampled material of the body -/
def bodyProvider : Option ProviderId := s.it.node.bind (·.body.textureProvider)

/-- `m_textureProvider` of the sampled material of the fringe -/
def fringeProvider : Option ProviderId :=
  s.it.node.bind fun node => node.fringe.bind (·.textureProvider)

/-- A frame: both nodes are preprocessed, and then drawn. -/
def draw (textured : List ProviderId) : SceneItem K × List MaterialAction :=
  let node := s.node.map (·.preprocess s.bodyProvider s.fringeProvider textured)
  ({ s with node },
    node.toList.flatMap fun node => node.geometryNodes.map fun n => .draw n.material)

end SceneItem

/-- The item of `Items.SamplerGeometry`, with the materials of its nodes along. -/
def sceneItem (K : Type) [Zero K] [DecidableEq K] :
    Machine (SceneItem K) (SceneEvent K) MaterialAction where
  handle s
    | .item e =>
      let materials := s.handleMaterials e
      ({ materials.1 with it := ((item K).handle s.it e).1 }, materials.2)
    | .draw textured => s.draw textured

/-! ## What a node holds

The two materials of a node, and the books of what the node does to them: it takes new ones and
gives back its own. -/

namespace MaterialPointers

/-- The materials that the node manages. -/
def held (n : MaterialPointers) : Set MaterialId :=
  {id | n.solidMaterial = some id ∨ n.sampledMaterial = some id}

/-- The node has two materials, and is drawn with one of them. -/
structure Ready (n : MaterialPointers) : Prop where
  solid : n.solidMaterial.isSome = true
  sampled : n.sampledMaterial.isSome = true
  material : n.material = n.solidMaterial ∨ n.material = n.sampledMaterial

/-- The materials of the node have been made, and are two different ones. -/
structure Distinct (n : MaterialPointers) (next : MaterialId) : Prop where
  bounded : ∀ id ∈ n.held, id < next
  distinct : ∀ id, n.solidMaterial = some id → n.sampledMaterial ≠ some id

variable {n : MaterialPointers} {next : MaterialId}

/-- A new node has no materials. -/
theorem distinct_none : Distinct {} next where
  bounded id hid := by
    rcases hid with hid | hid <;> cases hid
  distinct id hid := by cases hid

/-- So it holds none. -/
theorem held_none : held {} = ∅ := by
  ext id
  refine iff_of_false (fun hid => ?_) (Set.notMem_empty id)
  rcases hid with hid | hid <;> cases hid

/-- Deleting what the pointer points to gives it back. -/
theorem balanced_deleteAll {materials : Option MaterialId} {s : Set MaterialId}
    (hheld : ∀ id ∈ materials, id ∈ s) :
    Balanced materialUse s (deleteAll materials) (s \ {id | materials = some id}) := by
  cases materials with
  | none =>
    have hsame : s \ {id | (none : Option MaterialId) = some id} = s := by
      ext id
      simp
    rw [hsame]
    exact .nil
  | some mat =>
    have hsame : {id | some mat = some id} = ({mat} : Set MaterialId) := by
      ext id
      simp [eq_comm]
    rw [hsame]
    exact .giveBack rfl (hheld mat rfl) .nil

/-- New materials take the place of the old ones, and the node is solid at first. The two tests
for another pointer always find one, as the materials are new. -/
theorem renew_eq (hD : n.Distinct next) :
    n.renew next = (⟨some next, some (next + 1), some next⟩,
      .create next :: deleteAll n.solidMaterial ++
        .create (next + 1) :: deleteAll n.sampledMaterial) := by
  have hsolid : some next ≠ n.solidMaterial := fun h =>
    Nat.lt_irrefl next (hD.bounded next (.inl h.symm))
  have hsampled : some (next + 1) ≠ n.sampledMaterial := fun h =>
    Nat.not_succ_lt_self (hD.bounded (next + 1) (.inr h.symm))
  have hkeeps : (n.setSolidMaterial next).1.sampledMaterial = n.sampledMaterial := by
    unfold setSolidMaterial
    rw [if_neg hsolid]
    dsimp only
    split <;> rfl
  have hactions : (n.setSolidMaterial next).2 = deleteAll n.solidMaterial := by
    unfold setSolidMaterial
    rw [if_neg hsolid]
  have hset : (n.setSolidMaterial next).1.solidMaterial = some next := by
    unfold setSolidMaterial
    rw [if_neg hsolid]
  unfold renew setSampledMaterial
  dsimp only
  rw [hkeeps, if_neg hsampled, hactions]
  dsimp only
  split
  · exact Prod.ext (by rw [setMaterial, setMaterial, hset]) rfl
  · exact Prod.ext (by rw [setMaterial, hset]) rfl

/-- The materials that a paint has made. -/
theorem mem_held_renew (hD : n.Distinct next) {id : MaterialId} (hid : id ∈ (n.renew next).1.held) :
    next ≤ id ∧ id < next + 2 := by
  rw [renew_eq hD] at hid
  rcases hid with hid | hid
  · obtain rfl := Option.some.inj hid
    exact ⟨Nat.le_refl _, Nat.lt_add_of_pos_right Nat.two_pos⟩
  · obtain rfl := Option.some.inj hid
    exact ⟨Nat.le_succ _, Nat.lt_succ_self _⟩

/-- The new materials are two different ones. -/
theorem distinct_renew (hD : n.Distinct next) : (n.renew next).1.Distinct (next + 2) where
  bounded _ hid := (mem_held_renew hD hid).2
  distinct _ hsolid hsampled := by
    rw [renew_eq hD] at hsolid hsampled
    exact Nat.succ_ne_self next (Option.some.inj (hsampled.trans hsolid.symm))

/-- A node that has got materials can be drawn, and is drawn with the solid one. -/
theorem ready_renew (hD : n.Distinct next) : (n.renew next).1.Ready := by
  rw [renew_eq hD]
  exact ⟨rfl, rfl, .inl rfl⟩

theorem Distinct.mono (hD : n.Distinct next) {next' : MaterialId} (hle : next ≤ next') :
    n.Distinct next' where
  bounded id hid := Nat.lt_of_lt_of_le (hD.bounded id hid) hle
  distinct := hD.distinct

/-- The books of `renew`: two materials are taken and those that the node had are given back. The
solid one goes before the second new one is made, so that the books are kept in this order. -/
theorem balanced_renew (hD : n.Distinct next) :
    Balanced materialUse n.held (n.renew next).2 (n.renew next).1.held := by
  rw [renew_eq hD]
  have hfree : next ∉ n.held := fun h => Nat.lt_irrefl next (hD.bounded next h)
  have hfree' : next + 1 ∉ insert next n.held \ {id | n.solidMaterial = some id} := by
    rintro ⟨hmem | hmem, -⟩
    · exact Nat.succ_ne_self next hmem
    · exact Nat.not_succ_lt_self (hD.bounded _ hmem)
  have hsampled : ∀ id ∈ n.sampledMaterial,
      id ∈ insert (next + 1) (insert next n.held \ {id | n.solidMaterial = some id}) :=
    fun id hid => .inr ⟨.inr (.inr hid), fun hsolid => hD.distinct id hsolid hid⟩
  have hcreate : Balanced materialUse n.held [.create next] (insert next n.held) :=
    .take rfl hfree .nil
  have hcreate' : Balanced materialUse _ [.create (next + 1)] _ := .take rfl hfree' .nil
  have hsolid : ∀ id ∈ n.solidMaterial, id ∈ insert next n.held := fun _ hid => .inr (.inl hid)
  have hbooks := hcreate.append ((balanced_deleteAll hsolid).append
    (hcreate'.append (balanced_deleteAll hsampled)))
  have hend : insert (next + 1) (insert next n.held \ {id | n.solidMaterial = some id}) \
      {id | n.sampledMaterial = some id} = held ⟨some next, some (next + 1), some next⟩ := by
    ext id
    constructor
    · rintro ⟨rfl | ⟨rfl | hsolid | hsampled, hnot⟩, hnot'⟩
      · exact .inr rfl
      · exact .inl rfl
      · exact absurd hsolid hnot
      · exact absurd hsampled hnot'
    · rintro (hid | hid)
      · obtain rfl := Option.some.inj hid
        exact ⟨.inr ⟨.inl rfl, fun h => hfree (.inl h)⟩, fun h => hfree (.inr h)⟩
      · obtain rfl := Option.some.inj hid
        exact ⟨.inl rfl, fun h => Nat.not_succ_lt_self (hD.bounded _ (.inr h))⟩
  rw [hend] at hbooks
  exact hbooks

/-- The books of the destructor: whatever the node holds is given back. -/
theorem balanced_destroy (hD : n.Distinct next) : Balanced materialUse n.held n.destroy ∅ := by
  have hsampled : ∀ id ∈ n.sampledMaterial, id ∈ n.held \ {id | n.solidMaterial = some id} :=
    fun id hid => ⟨.inr hid, fun hsolid => hD.distinct id hsolid hid⟩
  have hsolid : ∀ id ∈ n.solidMaterial, id ∈ n.held := fun _ hid => .inl hid
  have hbooks := (balanced_deleteAll hsolid).append (balanced_deleteAll hsampled)
  have hend : (n.held \ {id | n.solidMaterial = some id}) \ {id | n.sampledMaterial = some id} =
      ∅ := by
    ext id
    refine iff_of_false ?_ (Set.notMem_empty id)
    rintro ⟨⟨hsolid | hsampled, hnot⟩, hnot'⟩
    · exact hnot hsolid
    · exact hnot' hsampled
  rw [hend] at hbooks
  exact hbooks

/-! ### What others hold

The books of one node next to the materials of everybody else, which it does not touch. -/

/-- Only new materials are taken, and only materials of the node are given back. -/
def Touches (n : MaterialPointers) (next : MaterialId) (actions : List MaterialAction) : Prop :=
  ∀ action ∈ actions, ∀ id, (materialUse action = some (.take id) → next ≤ id) ∧
    (materialUse action = some (.giveBack id) → id ∈ n.held)

/-- Deleting touches what the pointer points to. -/
theorem touches_deleteAll {materials : Option MaterialId}
    (hheld : ∀ id ∈ materials, id ∈ n.held) : n.Touches next (deleteAll materials) := by
  intro action haction id
  obtain ⟨mat, hmat, rfl⟩ := List.mem_map.mp haction
  refine ⟨fun htake => (by cases htake), fun hgive => ?_⟩
  cases hgive
  exact hheld id (Option.mem_toList.mp hmat)

/-- New materials have new numbers. -/
theorem touches_renew (hD : n.Distinct next) : n.Touches next (n.renew next).2 := by
  have htake {mat : MaterialId} (hmat : next ≤ mat) : n.Touches next [.create mat] := by
    intro action haction id
    cases List.mem_singleton.mp haction
    refine ⟨fun htake => ?_, fun hgive => (by cases hgive)⟩
    cases htake
    exact hmat
  rw [renew_eq hD]
  intro action haction
  rcases List.mem_append.mp haction with haction | haction
  · rcases List.mem_cons.mp haction with rfl | haction
    · exact htake (Nat.le_refl next) _ List.mem_cons_self
    · exact touches_deleteAll (fun id hid => .inl hid) action haction
  · rcases List.mem_cons.mp haction with rfl | haction
    · exact htake (Nat.le_succ next) _ List.mem_cons_self
    · exact touches_deleteAll (fun id hid => .inr hid) action haction

/-- The destructor touches what the node holds. -/
theorem touches_destroy : n.Touches next n.destroy := by
  intro action haction
  rcases List.mem_append.mp haction with haction | haction
  · exact touches_deleteAll (fun id hid => .inl hid) action haction
  · exact touches_deleteAll (fun id hid => .inr hid) action haction

/-- The books of a node hold next to what others have, since it takes new materials only and gives
back its own. -/
theorem Touches.frame {actions : List MaterialAction} (hT : n.Touches next actions)
    {t f : Set MaterialId} (hbooks : Balanced materialUse n.held actions t)
    (hbounded : ∀ id ∈ f, id < next) (hother : ∀ id ∈ f, id ∉ n.held) :
    Balanced materialUse (n.held ∪ f) actions (t ∪ f) :=
  hbooks.frame fun action haction id hid =>
    ⟨fun htake => Nat.not_le_of_lt (hbounded id hid) ((hT action haction id).1 htake),
      fun hgive => hother id hid ((hT action haction id).2 hgive)⟩

/-! ### Drawing

The scene graph may draw with a material only while the node holds it. `preprocess` chooses one of
the two, and `preprocess_eq` says which. -/

/-- `preprocess` turns to the sampled material if its provider has a texture, and to the solid one
otherwise. In particular it turns to the solid one when there is no provider, or none any more. -/
theorem preprocess_eq (hR : n.Ready) (textureProvider : Option ProviderId)
    (textured : List ProviderId) :
    n.preprocess textureProvider textured =
      n.setMaterial (if textureProvider.any (textured.contains ·) then n.sampledMaterial
        else n.solidMaterial) := by
  have hsame (mat : Option MaterialId) :
      (if n.material ≠ mat then n.setMaterial mat else n) = n.setMaterial mat := by
    split
    · rfl
    · rename_i hmat
      rw [← not_not.mp hmat]
      rfl
  unfold preprocess sampling
  rw [hR.sampled, Bool.true_and]
  cases textureProvider.any (textured.contains ·) with
  | true => exact hsame _
  | false => exact hsame _

/-- After `preprocess` the scene graph draws with what the texture of the provider decides, whatever
the node was drawn with before. -/
theorem material_preprocess (hR : n.Ready) (textureProvider : Option ProviderId)
    (textured : List ProviderId) :
    (n.preprocess textureProvider textured).material =
      if textureProvider.any (textured.contains ·)
      then (n.preprocess textureProvider textured).sampledMaterial
      else (n.preprocess textureProvider textured).solidMaterial := by
  rw [preprocess_eq hR]
  rfl

/-- A node that can be drawn is drawn with one of its two materials after `preprocess` as well. -/
theorem ready_preprocess (hR : n.Ready) (textureProvider : Option ProviderId)
    (textured : List ProviderId) : (n.preprocess textureProvider textured).Ready := by
  rw [preprocess_eq hR]
  refine ⟨hR.solid, hR.sampled, ?_⟩
  cases textureProvider.any (textured.contains ·) with
  | true => exact .inr rfl
  | false => exact .inl rfl

/-- The node is drawn with a material that it holds. -/
theorem exists_held (hR : n.Ready) : ∃ id ∈ n.held, n.material = some id := by
  rcases hR.material with hmaterial | hmaterial
  · obtain ⟨id, hid⟩ := Option.isSome_iff_exists.mp hR.solid
    exact ⟨id, .inl hid, hmaterial.trans hid⟩
  · obtain ⟨id, hid⟩ := Option.isSome_iff_exists.mp hR.sampled
    exact ⟨id, .inr hid, hmaterial.trans hid⟩

end MaterialPointers

/-! ## What the nodes of an item hold

The same for the body and the fringe together. Each part of a paint keeps the books. -/

namespace ComposedPointers

open MaterialPointers

/-- The materials that the two nodes manage. -/
def held (node : ComposedPointers) : Set MaterialId :=
  node.body.held ∪ node.fringe.elim ∅ MaterialPointers.held

/-- No material is managed by both nodes. -/
structure Distinct (node : ComposedPointers) (next : MaterialId) : Prop where
  body : node.body.Distinct next
  fringe : ∀ fringe ∈ node.fringe, fringe.Distinct next ∧ ∀ id ∈ fringe.held, id ∉ node.body.held

variable {node : ComposedPointers} {next : MaterialId}

theorem held_some {body fringe : MaterialPointers} :
    held ⟨body, some fringe⟩ = body.held ∪ fringe.held := rfl

theorem held_none {body : MaterialPointers} : held ⟨body, none⟩ = body.held := Set.union_empty _

theorem mem_held {n : MaterialPointers} (hn : n ∈ node.geometryNodes) {id : MaterialId}
    (hid : id ∈ n.held) : id ∈ node.held := by
  rcases List.mem_cons.mp hn with rfl | hn
  · exact .inl hid
  · have hfringe : node.fringe = some n := Option.mem_toList.mp hn
    refine .inr ?_
    rw [hfringe]
    exact hid

/-- The fringe comes and goes. A new fringe holds nothing, and one that goes gives back what it
holds. -/
theorem updateGeometry_kept (hD : node.Distinct next) (geometryDirty antialiasing : Bool) :
    (node.updateGeometry geometryDirty antialiasing).1.Distinct next ∧
      Balanced materialUse node.held (node.updateGeometry geometryDirty antialiasing).2
        (node.updateGeometry geometryDirty antialiasing).1.held := by
  obtain ⟨body, fringe⟩ := node
  cases geometryDirty with
  | false => exact ⟨hD, .nil⟩
  | true =>
    cases antialiasing with
    | true =>
      cases fringe with
      | some fringe => exact ⟨hD, .nil⟩
      | none =>
        refine ⟨⟨hD.body, fun fringe hfringe => ?_⟩, ?_⟩
        · obtain rfl := Option.some.inj hfringe
          refine ⟨distinct_none, fun id hid => ?_⟩
          have hid : id ∈ MaterialPointers.held {} := hid
          rw [MaterialPointers.held_none] at hid
          exact absurd hid (Set.notMem_empty id)
        · show Balanced materialUse _ [] (held ⟨body, some {}⟩)
          rw [held_some, MaterialPointers.held_none]
          exact .nil
    | false =>
      refine ⟨⟨hD.body, fun fringe hfringe => by cases hfringe⟩, ?_⟩
      cases fringe with
      | none => exact .nil
      | some fringe =>
        obtain ⟨hdistinct, hdisjoint⟩ := hD.fringe fringe rfl
        have hbooks := touches_destroy.frame (balanced_destroy hdistinct) hD.body.bounded
          fun id hbody hid => hdisjoint id hid hbody
        rw [Set.union_comm, Set.empty_union] at hbooks
        show Balanced materialUse _ _ (held ⟨body, none⟩)
        rw [held_some, ComposedPointers.held_none]
        exact hbooks

/-- All nodes get new materials, and nothing but the old ones is deleted. The body is renewed next
to the old fringe, and the fringe next to the new body. -/
theorem renewMaterials_kept (hD : node.Distinct next) {antialiasing : Bool}
    (hfringe : node.fringe.isSome = antialiasing) :
    (node.renewMaterials antialiasing next).1.Distinct
        (node.renewMaterials antialiasing next).2.1 ∧
      (∀ n ∈ (node.renewMaterials antialiasing next).1.geometryNodes, n.Ready) ∧
      (node.renewMaterials antialiasing next).1.fringe.isSome = antialiasing ∧
      Balanced materialUse node.held (node.renewMaterials antialiasing next).2.2
        (node.renewMaterials antialiasing next).1.held := by
  obtain ⟨body, fringe⟩ := node
  have hbodyBooks := balanced_renew hD.body
  cases fringe with
  | none =>
    obtain rfl : false = antialiasing := hfringe
    have hrenewed : renewMaterials ⟨body, none⟩ false next =
        (⟨(body.renew next).1, none⟩, next + 2, (body.renew next).2) := rfl
    rw [hrenewed, held_none, held_none]
    refine ⟨⟨distinct_renew hD.body, fun fringe hfringe => by cases hfringe⟩, fun n hn => ?_, rfl,
      hbodyBooks⟩
    rw [List.mem_singleton.mp hn]
    exact ready_renew hD.body
  | some fringe =>
    obtain rfl : true = antialiasing := hfringe
    obtain ⟨hdistinct, hdisjoint⟩ := hD.fringe fringe rfl
    have hdistinct' := hdistinct.mono (Nat.le_add_right next 2)
    have hrenewed : renewMaterials ⟨body, some fringe⟩ true next =
        (⟨(body.renew next).1, some (fringe.renew (next + 2)).1⟩, next + 4,
          (body.renew next).2 ++ (fringe.renew (next + 2)).2) := rfl
    -- first the body, next to the old fringe, then the fringe next to the new body
    have hfirst := (touches_renew hD.body).frame hbodyBooks hdistinct.bounded hdisjoint
    have hsecond := (touches_renew hdistinct').frame (balanced_renew hdistinct')
      (fun id hid => (mem_held_renew hD.body hid).2)
      fun id hid hold =>
        Nat.not_le_of_lt (hdistinct.bounded id hold) (mem_held_renew hD.body hid).1
    rw [Set.union_comm, Set.union_comm _ (body.renew next).1.held] at hsecond
    rw [hrenewed, held_some, held_some]
    refine ⟨⟨(distinct_renew hD.body).mono (Nat.le_add_right (next + 2) 2),
      fun fringe' hfringe' => ?_⟩, fun n hn => ?_, rfl, hfirst.append hsecond⟩
    · obtain rfl := Option.some.inj hfringe'
      exact ⟨distinct_renew hdistinct', fun id hid hold => Nat.not_le_of_lt
        (mem_held_renew hD.body hold).2 (mem_held_renew hdistinct' hid).1⟩
    · rcases List.mem_cons.mp hn with rfl | hn
      · exact ready_renew hD.body
      · rw [List.mem_singleton.mp hn]
        exact ready_renew hdistinct'

/-- Drawing changes no pointer but those of the scene graph, so that what the nodes hold is the
same, and they can be drawn again. -/
theorem preprocess_kept (hD : node.Distinct next) (hready : ∀ n ∈ node.geometryNodes, n.Ready)
    (bodyProvider fringeProvider : Option ProviderId) (textured : List ProviderId) :
    (node.preprocess bodyProvider fringeProvider textured).Distinct next ∧
      (∀ n ∈ (node.preprocess bodyProvider fringeProvider textured).geometryNodes, n.Ready) ∧
      (node.preprocess bodyProvider fringeProvider textured).held = node.held := by
  obtain ⟨body, fringe⟩ := node
  have hbody : body.Ready := hready body List.mem_cons_self
  have hkept {n : MaterialPointers} (hn : n.Ready) (textureProvider : Option ProviderId) :
      (n.preprocess textureProvider textured).held = n.held ∧
        (n.Distinct next → (n.preprocess textureProvider textured).Distinct next) := by
    rw [preprocess_eq hn]
    exact ⟨rfl, fun hD => ⟨hD.bounded, hD.distinct⟩⟩
  cases fringe with
  | none =>
    refine ⟨⟨(hkept hbody _).2 hD.body, fun fringe hfringe => by cases hfringe⟩, fun n hn => ?_, ?_⟩
    · rw [List.mem_singleton.mp hn]
      exact ready_preprocess hbody bodyProvider textured
    · show held ⟨body.preprocess bodyProvider textured, none⟩ = _
      rw [held_none, held_none, (hkept hbody _).1]
  | some fringe =>
    have hfringe : fringe.Ready := hready fringe (List.mem_cons_of_mem _ List.mem_cons_self)
    obtain ⟨hdistinct, hdisjoint⟩ := hD.fringe fringe rfl
    refine ⟨⟨(hkept hbody _).2 hD.body, fun fringe' hfringe' => ?_⟩, fun n hn => ?_, ?_⟩
    · obtain rfl := Option.some.inj hfringe'
      refine ⟨(hkept hfringe _).2 hdistinct, fun id hid => ?_⟩
      show id ∉ (body.preprocess bodyProvider textured).held
      rw [(hkept hbody _).1]
      exact hdisjoint id ((hkept hfringe _).1 ▸ hid)
    · rcases List.mem_cons.mp hn with rfl | hn
      · exact ready_preprocess hbody bodyProvider textured
      · rw [List.mem_singleton.mp hn]
        exact ready_preprocess hfringe fringeProvider textured
    · show held ⟨body.preprocess bodyProvider textured,
        some (fringe.preprocess fringeProvider textured)⟩ = _
      rw [held_some, held_some, (hkept hbody _).1, (hkept hfringe _).1]

theorem balanced_destroy (hD : node.Distinct next) :
    Balanced materialUse node.held
      (node.body.destroy ++ node.fringe.elim [] MaterialPointers.destroy) ∅ := by
  obtain ⟨body, fringe⟩ := node
  cases fringe with
  | none =>
    rw [held_none]
    show Balanced _ _ (body.destroy ++ []) _
    rw [List.append_nil]
    exact MaterialPointers.balanced_destroy hD.body
  | some fringe =>
    obtain ⟨hdistinct, hdisjoint⟩ := hD.fringe fringe rfl
    have hbody := touches_destroy.frame (MaterialPointers.balanced_destroy hD.body)
      hdistinct.bounded hdisjoint
    rw [Set.empty_union] at hbody
    exact hbody.append (MaterialPointers.balanced_destroy hdistinct)

end ComposedPointers

/-! ## Steps

What ties the pointers to the item, and the step lemma: only a paint, a frame and the end of the
node have to do with materials. -/

section Steps

variable {K : Type}

/-- Whether there is a node, and whether it has a fringe. -/
def Item.fringed (it : Item K) : Option Bool := it.node.map (·.fringe.isSome)

namespace SceneItem

def fringed (s : SceneItem K) : Option Bool := s.node.map (·.fringe.isSome)

/-- The materials that the item's nodes manage, if it has any. -/
def held (s : SceneItem K) : Set MaterialId := s.node.elim ∅ ComposedPointers.held

end SceneItem

/-- What ties the pointers to the item: there is a node, and a fringe, when the item has one; all
materials are different ones, and all nodes can be drawn. -/
structure SceneInv (s : SceneItem K) : Prop where
  providers : ProvidersInv s.it
  fringed : s.fringed = s.it.fringed
  distinct : ∀ node ∈ s.node, node.Distinct s.nextMaterial
  ready : ∀ node ∈ s.node, ∀ n ∈ node.geometryNodes, n.Ready

variable {s : SceneItem K}

theorem SceneItem.mem_held {node : ComposedPointers} (hnode : s.node = some node) {id : MaterialId}
    (hid : id ∈ node.held) : id ∈ s.held := by
  unfold SceneItem.held
  rw [hnode]
  exact hid

/-- The pointers have a fringe where the node has one. -/
theorem SceneInv.fringe_getD (hI : SceneInv s) :
    (s.node.getD {}).fringe.isSome = s.it.composedNode.2.fringe.isSome := by
  have hfringed := hI.fringed
  unfold SceneItem.fringed Item.fringed at hfringed
  unfold Item.composedNode
  cases hnode : s.it.node with
  | none =>
    rw [hnode] at hfringed
    rw [Option.map_eq_none_iff.mp hfringed]
    rfl
  | some node =>
    rw [hnode] at hfringed
    obtain ⟨pointers, hpointers, hsame⟩ := Option.map_eq_some_iff.mp hfringed
    rw [hpointers]
    exact hsame

/-- A node that is new when it is painted holds nothing. -/
theorem SceneInv.distinct_getD (hI : SceneInv s) :
    (s.node.getD {}).Distinct s.nextMaterial ∧ (s.node.getD {}).held = s.held := by
  unfold SceneItem.held
  cases hnode : s.node with
  | none =>
    refine ⟨⟨MaterialPointers.distinct_none, fun fringe hfringe => by cases hfringe⟩, ?_⟩
    show ComposedPointers.held ⟨{}, none⟩ = ∅
    rw [ComposedPointers.held_none, MaterialPointers.held_none]
  | some node => exact ⟨hI.distinct node hnode, rfl⟩

/-- After the geometry there is a fringe just in case the item is antialiased. -/
theorem fringe_updateGeometry {node : ComposedPointers} {geometryDirty antialiasing : Bool}
    (hclean : geometryDirty = false → node.fringe.isSome = antialiasing) :
    (node.updateGeometry geometryDirty antialiasing).1.fringe.isSome = antialiasing := by
  cases geometryDirty with
  | false => exact hclean rfl
  | true => cases antialiasing <;> rfl

/-- A paint keeps the books, and leaves the nodes ready. Every paint makes new materials, as
`m_newMaterial` is never lowered. -/
theorem updatePaintNode_kept (hI : SceneInv s) :
    s.updatePaintNode.1.it = s.it ∧
      s.updatePaintNode.1.fringed = some s.it.antialiasing ∧
      (∀ node ∈ s.updatePaintNode.1.node, node.Distinct s.updatePaintNode.1.nextMaterial) ∧
      (∀ node ∈ s.updatePaintNode.1.node, ∀ n ∈ node.geometryNodes, n.Ready) ∧
      Balanced materialUse s.held s.updatePaintNode.2 s.updatePaintNode.1.held := by
  obtain ⟨-, hnew, hfringe, -⟩ := composedNode_spec hI.providers
  have hantialiasing := (sameProperties_composedNode s.it).antialiasing
  obtain ⟨hdistinct, hheld⟩ := hI.distinct_getD
  rw [← hI.fringe_getD] at hfringe
  obtain ⟨hdistinct, hbooks⟩ := ComposedPointers.updateGeometry_kept hdistinct
    s.it.composedNode.1.geometryDirty s.it.composedNode.1.antialiasing
  obtain ⟨hdistinct, hready, hfringed, hbooks'⟩ :=
    ComposedPointers.renewMaterials_kept hdistinct (fringe_updateGeometry hfringe)
  unfold SceneItem.updatePaintNode
  extract_lets it geometry renewed
  rw [if_pos hnew]
  refine ⟨rfl, ?_, fun node hnode => ?_, fun node hnode => ?_, ?_⟩
  · show some renewed.1.fringe.isSome = some s.it.antialiasing
    exact congrArg some (hfringed.trans hantialiasing)
  · obtain rfl := Option.some.inj hnode
    exact hdistinct
  · obtain rfl := Option.some.inj hnode
    exact hready
  · rw [hheld] at hbooks
    exact hbooks.append hbooks'

/-- The end of the node gives back all that its nodes hold. -/
theorem deleteNode_kept (hI : SceneInv s) : Balanced materialUse s.held s.deleteNode.2 ∅ := by
  unfold SceneItem.deleteNode SceneItem.held
  cases hnode : s.node with
  | none => exact .nil
  | some node => exact ComposedPointers.balanced_destroy (hI.distinct node hnode)

/-- A frame keeps the invariant and touches no material. -/
theorem draw_kept (hI : SceneInv s) (textured : List ProviderId) :
    SceneInv (s.draw textured).1 ∧ (s.draw textured).1.held = s.held := by
  obtain ⟨it, node, next⟩ := s
  cases node with
  | none => exact ⟨⟨hI.providers, hI.fringed, hI.distinct, hI.ready⟩, rfl⟩
  | some node =>
    obtain ⟨hdistinct, hready, hheld⟩ := ComposedPointers.preprocess_kept (hI.distinct node rfl)
      (hI.ready node rfl) (SceneItem.bodyProvider ⟨it, some node, next⟩)
      (SceneItem.fringeProvider ⟨it, some node, next⟩) textured
    refine ⟨⟨hI.providers, ?_, fun node' hnode' => ?_, fun node' hnode' => ?_⟩, hheld⟩
    · refine Eq.trans ?_ hI.fringed
      exact congrArg some Option.isSome_map
    · obtain rfl := Option.some.inj hnode'
      exact hdistinct
    · obtain rfl := Option.some.inj hnode'
      exact hready

variable [Zero K] [DecidableEq K]

/-- Only a paint, or the end of the node, makes a fringe come or go. All other events leave the
nodes where they are, and ask for a paint at most. -/
theorem fringed_handle (it : Item K) {e : ItemEvent K}
    (hpaint : ∀ provider, e ≠ .updatePaintNode provider) (hdelete : e ≠ .deleteNode) :
    ((item K).handle it e).1.fringed = it.fringed := by
  have hsame {it' : Item K} (h : it.SameNodes it') : it'.fringed = it.fringed :=
    congrArg (Option.map _) h.node
  cases e with
  | setColor color => exact hsame (sameNodes_setColor it color)
  | setBlending blending =>
    exact congrArg (Option.map _)
      (sameNodes_updateBlending { it with calculatesBlending := false } blending).node
  | setAntialiasing antialiasing =>
    simp only [item, Item.setAntialiasing]
    split <;> rfl
  | setClampToEdge clampToEdge =>
    simp only [item, Item.setClampToEdge]
    split <;> rfl
  | setDest dest =>
    simp only [item, Item.setDest]
    split <;> rfl
  | setSourceItem sourceItem isTextureProvider =>
    exact hsame (sameNodes_setSourceItem it sourceItem isTextureProvider)
  | resize width height =>
    simp only [item, Item.resize, Item.calculateDest]
    split <;> rfl
  | markDirtyGeometry | sceneChange window => rfl
  | updatePaintNode provider => exact absurd rfl (hpaint provider)
  | deleteNode => exact absurd rfl hdelete
  | providerDestroyed provider =>
    obtain ⟨notified, hnode, -⟩ := providerDestroyed_node it provider
    show (it.providerDestroyed provider).node.map _ = it.node.map _
    rw [hnode, Option.map_map]
    congr 1
    funext node
    exact Option.isSome_map
  | sourceItemDestroyed source =>
    simp only [item, Item.sourceItemDestroyed]
    split
    · exact hsame (sameNodes_setSourceItem it none false)
    · rfl

/-- **One event** keeps the invariant and the books. Only paints, frames and the end of the node
have to do with materials; of the others it is to be seen that they do not make a fringe come or
go. -/
theorem scene_step (hI : SceneInv s) (e : SceneEvent K) :
    SceneInv ((sceneItem K).handle s e).1 ∧
      Balanced materialUse s.held ((sceneItem K).handle s e).2
        ((sceneItem K).handle s e).1.held := by
  cases e with
  | draw textured =>
    obtain ⟨hI', hheld⟩ := draw_kept hI textured
    refine ⟨hI', ?_⟩
    show Balanced materialUse s.held (s.draw textured).2 (s.draw textured).1.held
    rw [hheld]
    refine .of_none fun action haction => ?_
    obtain ⟨node, -, haction⟩ := List.mem_flatMap.mp haction
    obtain ⟨n, -, rfl⟩ := List.mem_map.mp haction
    rfl
  | item e =>
    have hproviders := providersInv_handle hI.providers e
    cases e with
    | updatePaintNode provider =>
      obtain ⟨-, hfringed, hdistinct, hready, hbooks⟩ := updatePaintNode_kept hI
      have hpainted := painted_updatePaintNode provider hI.providers
      obtain ⟨node, hnode, hshows⟩ := hpainted.upToDate
      refine ⟨⟨hproviders, ?_, hdistinct, hready⟩, hbooks⟩
      show s.updatePaintNode.1.fringed = (s.it.updatePaintNode provider).1.fringed
      rw [hfringed, Item.fringed, hnode, Option.map_some, hshows.fringed,
        hpainted.sameProperties.antialiasing]
    | deleteNode =>
      refine ⟨⟨hproviders, ?_, fun node hnode => ?_, fun node hnode => ?_⟩, deleteNode_kept hI⟩
      · show none = s.it.deleteNode.fringed
        unfold Item.deleteNode Item.fringed
        split
        · rename_i hnone
          rw [hnone]
          rfl
        · rfl
      · cases hnode
      · cases hnode
    | setColor | setBlending | setAntialiasing | setClampToEdge | setDest | setSourceItem | resize
    | markDirtyGeometry | sceneChange | providerDestroyed | sourceItemDestroyed =>
      refine ⟨⟨hproviders, hI.fringed.trans (fringed_handle s.it ?_ ?_).symm, hI.distinct,
        hI.ready⟩, .nil⟩
      · intro provider hpaint
        cases hpaint
      · intro hdelete
        cases hdelete

/-! ## Runs

What a run has made of the materials, in four parts: the books of all materials, and three
statements about what is drawn next. -/

abbrev SceneHistory (K : Type) := History (SceneItem K) (SceneEvent K) MaterialAction

structure MaterialsKept (h : SceneHistory K) : Prop where
  /-- The materials there are belong to the nodes, and the others have been deleted once. -/
  books : Balanced materialUse ∅ h.outputs h.state.held
  /-- Whatever is drawn next is drawn with a material that there is. -/
  drawn : ∀ textured, ∀ action ∈ (h.state.draw textured).2,
    ∃ id ∈ h.state.held, action = .draw (some id)
  /-- It is the sampled one if its provider has a texture, and else the solid one. -/
  chosen : ∀ node ∈ h.state.node, ∀ n ∈ node.geometryNodes, ∀ textureProvider textured,
    (n.preprocess textureProvider textured).material =
      if textureProvider.any (textured.contains ·) then n.sampledMaterial else n.solidMaterial
  /-- In a frame both nodes have asked the provider that their own material points to then. -/
  asked : ∀ textured, ∀ node ∈ (h.state.draw textured).1.node,
    (node.body.material = if h.state.bodyProvider.any (textured.contains ·)
      then node.body.sampledMaterial else node.body.solidMaterial) ∧
    ∀ fringe ∈ node.fringe, fringe.material = if h.state.fringeProvider.any (textured.contains ·)
      then fringe.sampledMaterial else fringe.solidMaterial

end Steps

end SamplerGeometry
