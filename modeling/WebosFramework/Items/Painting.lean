import WebosFramework.Items.TextureProviders

/-!
# Painting an item

`updatePaintNode` of `Eos/Items/src/samplergeometry.cpp` consults three flags: one for the
geometry, with which the fringe comes and goes, one for new materials and one for what the
materials are set to. The setters raise them, and a paint lowers the first and the last of them
only.

**`painted_upToDate`**: every paint of a run leaves the nodes up to date, without following a null
pointer and without `qFatal`. It does so although some changes raise no flag, since every paint
makes new materials and sets them.

**`rebuilds_consumed_iff`**: a run in which requests for new materials are served once each is one
without a paint.

The proof follows the parts of `updatePaintNode`, of which each has a lemma about what it does to
the properties, to the flags and to the nodes. `Item.Painted` puts them together, and it needs
nothing but the invariant of `Items.TextureProviders`.
-/

namespace SamplerGeometry

open EventLoop

variable {K : Type}

/-! ## What has been painted

What it means that a node shows the item: each of its materials has been set to the properties
that the item has now. -/

/-- The material is set to the color and the blending that the item has now. -/
structure SolidMaterial.Shows (mat : SolidMaterial) (it : Item K) (blending : Bool) : Prop where
  color : mat.color = some it.color
  blending : mat.blending = blending

/-- The same for a sampled material, which has `dest` besides. -/
structure SampledMaterial.Shows (mat : SampledMaterial K) (it : Item K) (blending : Bool) :
    Prop where
  color : mat.color = some it.color
  dest : mat.dest = some it.dest
  blending : mat.blending = blending

/-- The node has both materials, and they are those of the item as it is now. -/
structure GeometryNode.Shows (node : GeometryNode K) (it : Item K) (blending : Bool) : Prop where
  solid : ∃ mat, node.solidMaterial = some mat ∧ mat.Shows it blending
  sampled : ∃ mat, node.sampledMaterial = some mat ∧ mat.Shows it blending

/-- The nodes show the item as it is now. The fringe is always blended. -/
structure ComposedNode.Shows (node : ComposedNode K) (it : Item K) : Prop where
  fringed : node.fringe.isSome = it.antialiasing
  body : node.body.Shows it it.blending
  fringe : ∀ fringe ∈ node.fringe, fringe.Shows it true

/-- There is a node, and it shows the item as it is now. -/
def Item.UpToDate (it : Item K) : Prop := ∃ node, it.node = some node ∧ node.Shows it

/-- Painting leaves the properties alone. -/
structure Item.SameProperties (it it' : Item K) : Prop where
  color : it'.color = it.color
  dest : it'.dest = it.dest
  blending : it'.blending = it.blending
  antialiasing : it'.antialiasing = it.antialiasing
  sourceItem : it'.sourceItem = it.sourceItem
  window : it'.window = it.window

section Shows

variable {it it' it'' : Item K}

theorem Item.SameProperties.refl (it : Item K) : it.SameProperties it :=
  ⟨rfl, rfl, rfl, rfl, rfl, rfl⟩

/-- Parts of a paint that follow each other. -/
theorem Item.SameProperties.trans (h : it.SameProperties it') (h' : it'.SameProperties it'') :
    it.SameProperties it'' where
  color := h'.color.trans h.color
  dest := h'.dest.trans h.dest
  blending := h'.blending.trans h.blending
  antialiasing := h'.antialiasing.trans h.antialiasing
  sourceItem := h'.sourceItem.trans h.sourceItem
  window := h'.window.trans h.window

theorem Item.SameProperties.symm (h : it.SameProperties it') : it'.SameProperties it :=
  ⟨h.color.symm, h.dest.symm, h.blending.symm, h.antialiasing.symm, h.sourceItem.symm,
    h.window.symm⟩

/-- Whether a node is up to date depends on the properties only. -/
theorem GeometryNode.Shows.of_sameProperties {node : GeometryNode K} {blending : Bool}
    (hnode : node.Shows it blending) (h : it.SameProperties it') : node.Shows it' blending := by
  obtain ⟨⟨solid, hsolid, hshows⟩, sampled, hsampled, hshows'⟩ := hnode
  refine ⟨⟨solid, hsolid, ?_, hshows.blending⟩, sampled, hsampled, ?_, ?_, hshows'.blending⟩
  · exact hshows.color.trans (congrArg some h.color.symm)
  · exact hshows'.color.trans (congrArg some h.color.symm)
  · exact hshows'.dest.trans (congrArg some h.dest.symm)

theorem ComposedNode.Shows.of_sameProperties {node : ComposedNode K} (hnode : node.Shows it)
    (h : it.SameProperties it') : node.Shows it' where
  fringed := hnode.fringed.trans h.antialiasing.symm
  body := by
    rw [h.blending]
    exact hnode.body.of_sameProperties h
  fringe fringe hfringe := (hnode.fringe fringe hfringe).of_sameProperties h

end Shows

/-! ## The steps of a paint

The three parts of `updatePaintNode`, one lemma each. They are put together in
`painted_updatePaintNode`, which needs nothing of the flags. -/

section Painting

variable {it : Item K} (provider : Option ProviderId)

/-- A new node asks for everything, and changes nothing of the item. -/
theorem sameProperties_composedNode (it : Item K) : it.SameProperties it.composedNode.1 := by
  unfold Item.composedNode
  split <;> exact ⟨rfl, rfl, rfl, rfl, rfl, rfl⟩

/-- The geometry is up to date after this part, whether it was asked for or not. -/
theorem sameProperties_updateGeometry (it : Item K) (node : ComposedNode K) :
    it.SameProperties (it.updateGeometry node).1 ∧
      (it.updateGeometry node).1.geometryDirty = false := by
  unfold Item.updateGeometry
  split
  · dsimp only
    split
    · unfold Item.enableFringe
      split <;> exact ⟨⟨rfl, rfl, rfl, rfl, rfl, rfl⟩, rfl⟩
    · unfold Item.disableFringe
      split <;> exact ⟨⟨rfl, rfl, rfl, rfl, rfl, rfl⟩, rfl⟩
  · rename_i hclean
    exact ⟨.refl it, by simpa using hclean⟩

/-- A material is created. -/
def Output.isCreate : Output → Bool
  | .createSolidMaterial _ | .createSampledMaterial _ => true
  | _ => false

/-- Making materials is all that can be observed of it. -/
theorem isCreate_createMaterials (node : GeometryNode K) :
    ∀ o ∈ (Item.createMaterials node).2, o.isCreate = true := by
  intro o ho
  simp only [Item.createMaterials, List.mem_cons, List.not_mem_nil, or_false] at ho
  rcases ho with rfl | rfl <;> rfl

/-- New materials are created for the nodes, and there is a fringe when there has to be one. This is
why the paint follows no null pointer: `enableFringe` has been called before. -/
theorem renewMaterials_outputs {node : ComposedNode K} (hnew : it.newMaterial = true)
    (hfringe : node.fringe.isSome = it.antialiasing) :
    (∀ o ∈ (it.renewMaterials node).2.2, o.isCreate = true) ∧
      .createSolidMaterial node.body.id ∈ (it.renewMaterials node).2.2 := by
  have hbody := isCreate_createMaterials node.body
  unfold Item.renewMaterials
  rw [if_pos hnew]
  dsimp only
  cases hantialiasing : it.antialiasing with
  | true =>
    rw [if_pos rfl]
    cases hold : node.fringe with
    -- an antialiased item has a fringe, so no null pointer is followed
    | none => simp [hold, hantialiasing] at hfringe
    | some fringe =>
      refine ⟨fun o ho => ?_, List.mem_append_left _ List.mem_cons_self⟩
      rcases List.mem_append.mp ho with ho | ho
      · exact hbody o ho
      · exact isCreate_createMaterials fringe o ho
  | false =>
    rw [if_neg (by simp)]
    exact ⟨hbody, List.mem_cons_self⟩

/-- However the provider has changed, the material gets the color and `dest` of the item. -/
theorem updateSampledMaterial_shows (it : Item K) (id : NodeId) (mat : SampledMaterial K) :
    it.SameProperties (it.updateSampledMaterial provider id mat).1 ∧
      (it.updateSampledMaterial provider id mat).1.materialDirty = it.materialDirty ∧
      (it.updateSampledMaterial provider id mat).2.color = some it.color ∧
      (it.updateSampledMaterial provider id mat).2.dest = some it.dest := by
  unfold Item.updateSampledMaterial
  split
  · exact ⟨⟨rfl, rfl, rfl, rfl, rfl, rfl⟩, rfl, rfl, rfl⟩
  · dsimp only
    split
    · exact ⟨⟨rfl, rfl, rfl, rfl, rfl, rfl⟩, rfl, rfl, rfl⟩
    · cases provider with
      | none => exact ⟨⟨rfl, rfl, rfl, rfl, rfl, rfl⟩, rfl, rfl, rfl⟩
      | some provider => exact ⟨⟨rfl, rfl, rfl, rfl, rfl, rfl⟩, rfl, rfl, rfl⟩

/-- A node that has its materials is set to what the item is. -/
theorem updateMaterials_shows {node : GeometryNode K} (hnode : node.Fresh) (it : Item K)
    (blending : Bool) :
    it.SameProperties (it.updateMaterials provider blending node).1 ∧
      (it.updateMaterials provider blending node).1.materialDirty = it.materialDirty ∧
      (it.updateMaterials provider blending node).2.1.Shows it blending ∧
      (it.updateMaterials provider blending node).2.2 = [] := by
  obtain ⟨hsame, hdirty, hcolor, hdest⟩ := updateSampledMaterial_shows provider it node.id {}
  unfold Item.updateMaterials
  rw [hnode.1, hnode.2]
  exact ⟨hsame, hdirty, ⟨⟨_, rfl, rfl, rfl⟩, _, rfl, hcolor, hdest, rfl⟩, rfl⟩

/-- Both nodes are set to what the item is, and `qFatal` is not called, as there is a fringe when
there has to be one. -/
theorem updateDirtyMaterials_shows {node : ComposedNode K} (hdirty : it.materialDirty = true)
    (hfringe : node.fringe.isSome = it.antialiasing) (hbody : node.body.Fresh)
    (hfresh : ∀ fringe ∈ node.fringe, fringe.Fresh) :
    it.SameProperties (it.updateDirtyMaterials provider node).1 ∧
      (it.updateDirtyMaterials provider node).1.materialDirty = false ∧
      (it.updateDirtyMaterials provider node).2.1.Shows it ∧
      (it.updateDirtyMaterials provider node).2.2 = [] := by
  have hproperties : it.SameProperties { it with materialDirty := false } :=
    ⟨rfl, rfl, rfl, rfl, rfl, rfl⟩
  obtain ⟨hafter, hclean, hshows, hnone⟩ :=
    updateMaterials_shows provider hbody { it with materialDirty := false } it.blending
  unfold Item.updateDirtyMaterials
  rw [if_pos hdirty]
  dsimp only
  by_cases hantialiasing : it.antialiasing = true
  -- without antialiasing there is no fringe, and the body alone is painted
  case neg =>
    rw [if_neg hantialiasing]
    have hfringe' : node.fringe = none := by simpa [hantialiasing] using hfringe
    refine ⟨hproperties.trans hafter, hclean,
      ⟨?_, hshows.of_sameProperties hproperties.symm, ?_⟩, hnone⟩
    · simp [hfringe', hantialiasing]
    · simp [hfringe']
  -- with a fringe both nodes are painted, one after the other
  case pos =>
    rw [if_pos hantialiasing]
    cases hold : node.fringe with
    | none => simp [hold, hantialiasing] at hfringe
    | some fringe =>
      obtain ⟨hafter', hclean', hshows', hnone'⟩ := updateMaterials_shows provider
        (hfresh fringe hold) (Item.updateMaterials { it with materialDirty := false } provider
          it.blending node.body).1 true
      dsimp only
      refine ⟨(hproperties.trans hafter).trans hafter', hclean'.trans hclean,
        ⟨hantialiasing.symm, hshows.of_sameProperties hproperties.symm, ?_⟩, ?_⟩
      · intro fringe' hfringe'
        obtain rfl := Option.some.inj hfringe'
        -- setting the body has not changed how the item looks
        exact hshows'.of_sameProperties (hproperties.trans hafter).symm
      · rw [hnone, hnone']
        rfl

/-- What a paint does to an item. -/
structure Item.Painted (it : Item K) (result : Item K × List Output) : Prop where
  sameProperties : it.SameProperties result.1
  upToDate : result.1.UpToDate
  outputs : ∀ o ∈ result.2, o.isCreate = true
  creates : ∃ node, .createSolidMaterial node ∈ result.2
  newMaterial : result.1.newMaterial = true
  geometryDirty : result.1.geometryDirty = false
  materialDirty : result.1.materialDirty = false

/-- **A paint** makes new materials and sets them, whatever the flags are. The parts are taken in
their order; the only thing that a later part reads of an earlier one is that materials are new
and have to be set. -/
theorem painted_updatePaintNode (hI : ProvidersInv it) :
    it.Painted (it.updatePaintNode provider) := by
  obtain ⟨howns, hnew, hfringe, hdistinct⟩ := composedNode_spec hI
  obtain ⟨howns', hnew', hfringe', hdistinct'⟩ := updateGeometry_spec howns hfringe hdistinct
  obtain ⟨hgeometry, hclean⟩ := sameProperties_updateGeometry it.composedNode.1 it.composedNode.2
  obtain ⟨hrenewed, hfringed, hdistinct'', hbody, hfresh⟩ :=
    renewMaterials_spec (hnew'.trans hnew) hfringe' hdistinct'
  obtain ⟨houtputs, hcreated⟩ := renewMaterials_outputs (hnew'.trans hnew) hfringe'
  have hcomposed := (sameProperties_composedNode it).trans hgeometry
  unfold Item.updatePaintNode
  extract_lets old geometry renewed updated
  have hrenewed : renewed.1 = { geometry.1 with materialDirty := true } := hrenewed
  have hdirty : renewed.1.materialDirty = true := by rw [hrenewed]
  have hfringed : renewed.2.1.fringe.isSome = renewed.1.antialiasing := by
    rw [hrenewed]
    exact hfringed
  have hproperties : it.SameProperties renewed.1 := by
    rw [hrenewed]
    exact { hcomposed with }
  obtain ⟨hafter, hclean', hshows, hnone⟩ :=
    updateDirtyMaterials_shows provider hdirty hfringed hbody hfresh
  obtain ⟨-, hsame, -⟩ := updateDirtyMaterials_spec provider (by rw [hrenewed]; exact howns') hdirty
    hfringed (by rw [hrenewed]; exact hdistinct'') hbody hfresh
  have hupdated : renewed.1.SameProperties updated.1 := hafter
  have hshown : updated.2.1.Shows updated.1 := hshows.of_sameProperties hupdated
  have hall : renewed.2.2 ++ updated.2.2 = renewed.2.2 := by
    show renewed.2.2 ++ (renewed.1.updateDirtyMaterials provider renewed.2.1).2.2 = _
    rw [hnone, List.append_nil]
  -- the paint as a whole, from what its four stages do
  constructor
  case sameProperties =>
    have hproperties' := hproperties.trans hupdated
    exact { hproperties' with }
  case upToDate => exact ⟨updated.2.1, rfl, hshown.of_sameProperties ⟨rfl, rfl, rfl, rfl, rfl, rfl⟩⟩
  case outputs =>
    rw [hall]
    exact houtputs
  case creates =>
    rw [hall]
    exact ⟨_, hcreated⟩
  case newMaterial =>
    have hkept : renewed.1.newMaterial = true := by
      rw [hrenewed]
      exact hnew'.trans hnew
    exact hsame.newMaterial.trans hkept
  case geometryDirty =>
    have hkept : renewed.1.geometryDirty = false := by
      rw [hrenewed]
      exact hclean
    exact hsame.geometryDirty.trans hkept
  case materialDirty => exact hclean'

end Painting

/-! ## Runs

Whatever happened before the last paint, the paint brings the nodes up to date. -/

section Runs

variable [Zero K] [DecidableEq K]

theorem providersInv_run (es : List (ItemEvent K)) :
    ProvidersInv ((item K).run (.init .new) es).state :=
  Machine.invariant (I := fun h => ProvidersInv h.state) (E := fun _ _ => True)
    (fun _ e hI _ => providersInv_handle hI e) providersInv_new (Machine.admits_true _ _ es)

/-- The item is painted in a window only. -/
def PaintedInWindow (it : Item K) : ItemEvent K → Prop
  | .updatePaintNode _ => it.window = true
  | _ => True

instance (it : Item K) : (e : ItemEvent K) → Decidable (PaintedInWindow it e)
  | .updatePaintNode _ => inferInstanceAs (Decidable (it.window = true))
  | .setColor _ | .setBlending _ | .setAntialiasing _ | .setClampToEdge _ | .setDest _
  | .setSourceItem .. | .resize .. | .markDirtyGeometry | .sceneChange _ | .deleteNode
  | .providerDestroyed _ | .sourceItemDestroyed _ => .isTrue trivial

/-- **Painting brings the nodes up to date**, whatever has happened before: the nodes show the
properties as they are, the fringe is there just in case the item is antialiased, and neither a
null pointer is followed nor `qFatal` called.

That the item is painted in a window only is how the scene graph calls it; the proof does not need
it. -/
theorem painted_upToDate (es : List (ItemEvent K)) (provider : Option ProviderId)
    (_ : (item K).Admits (fun h => PaintedInWindow h.state) (.init .new)
      (es ++ [.updatePaintNode provider])) :
    let it := ((item K).run (.init .new) es).state
    Output.nullPointer ∉ (it.updatePaintNode provider).2 ∧
      Output.shouldHaveFringe ∉ (it.updatePaintNode provider).2 ∧
      it.SameProperties (it.updatePaintNode provider).1 ∧
      (it.updatePaintNode provider).1.UpToDate := by
  intro it
  have hpainted := painted_updatePaintNode provider (providersInv_run es)
  refine ⟨fun hnull => ?_, fun hfringe => ?_, hpainted.sameProperties, hpainted.upToDate⟩
  · exact Bool.false_ne_true (hpainted.outputs _ hnull)
  · exact Bool.false_ne_true (hpainted.outputs _ hfringe)

/-- The size changes between two paints, and `dest` with it. -/
theorem painted_upToDate_resized :
    let es : List (ItemEvent Nat) :=
      [.sceneChange true, .setColor ⟨1, 2, 3, 4⟩, .resize 4 4, .updatePaintNode none,
        .setAntialiasing false, .resize 8 4]
    let it := ((item Nat).run (.init .new) es).state
    Output.nullPointer ∉ (it.updatePaintNode none).2 ∧
      Output.shouldHaveFringe ∉ (it.updatePaintNode none).2 ∧
      it.SameProperties (it.updatePaintNode none).1 ∧ (it.updatePaintNode none).1.UpToDate :=
  painted_upToDate _ none (by decide)

/-! ## Requests for new materials

How often new materials are asked for, against how often they are made. -/

/-- The event is a paint. -/
def ItemEvent.isPaint : ItemEvent K → Bool
  | .updatePaintNode _ => true
  | _ => false

/-- New materials are needed: for a new node, for another kind of material, or because sampling
begins or ends. -/
def requestsMaterials (it : Item K) : ItemEvent K → Bool
  | .updatePaintNode _ => it.node.isNone
  | .setAntialiasing antialiasing => antialiasing ≠ it.antialiasing
  | .setClampToEdge clampToEdge => clampToEdge ≠ it.clampToEdge
  | .setSourceItem sourceItem isTextureProvider =>
    (isTextureProvider && sourceItem.isSome) ≠ it.sourceItem.isSome
  | .sourceItemDestroyed item => it.sourceItem = some item
  | _ => false

/-- How often new materials are needed in a run. -/
def requests (es : List (ItemEvent K)) : Nat :=
  (item K).count (fun h e => requestsMaterials h.state e) (.init .new) es

/-- How many paints create materials. -/
def rebuilds (es : List (ItemEvent K)) : Nat :=
  (item K).count (fun h e => e.isPaint && ((item K).handle h.state e).2.any Output.isCreate)
    (.init .new) es

/-- Every request for new materials is served once. -/
structure RebuildsConsumed (es : List (ItemEvent K)) : Prop where
  rebuilds_le : rebuilds es ≤ requests es
  /-- A paint right after another one creates nothing. -/
  consecutive : ∀ fs p q gs, es = fs ++ .updatePaintNode p :: .updatePaintNode q :: gs →
    ∀ o ∈ (((item K).run (.init .new) (fs ++ [.updatePaintNode p])).state.updatePaintNode q).2,
      o.isCreate = false
  /-- No flag is left by a paint. -/
  cleared : ∀ fs p gs, es = fs ++ .updatePaintNode p :: gs →
    let it := ((item K).run (.init .new) (fs ++ [.updatePaintNode p])).state
    it.geometryDirty = false ∧ it.materialDirty = false ∧ it.newMaterial = false

/-- The state after the last event, which is a paint. -/
theorem painted_run (fs : List (ItemEvent K)) (p : Option ProviderId) :
    ((item K).run (.init .new) fs).state.Painted
      (((item K).run (.init .new) (fs ++ [.updatePaintNode p])).state,
        (((item K).run (.init .new) fs).state.updatePaintNode p).2) := by
  rw [Machine.run_append]
  exact painted_updatePaintNode p (providersInv_run fs)

/-- Every paint creates materials, as the flag for them is up at each. -/
theorem rebuilds_eq (es : List (ItemEvent K)) : rebuilds es = es.countP ItemEvent.isPaint := by
  rw [← Machine.count_eq_countP (M := item K) ItemEvent.isPaint (.init .new)]
  refine Machine.count_congr (I := fun h => ProvidersInv h.state)
    (fun _ e hI => providersInv_handle hI e) (fun h e hI => ?_) providersInv_new es
  cases e with
  | updatePaintNode p =>
    obtain ⟨node, hcreated⟩ := (painted_updatePaintNode p hI).creates
    exact List.any_eq_true.mpr ⟨_, hcreated, rfl⟩
  | _ => rfl

/-- **Requests are not consumed** by any paint, so they are served once each only in a run without
one. New materials are not made more often than they are requested just in case the item is not
painted more often than that.

A paint leaves `newMaterial` set, by `painted_updatePaintNode`, so the first paint of a run is
already one that does not consume. -/
theorem rebuilds_consumed_iff (es : List (ItemEvent K)) :
    (RebuildsConsumed es ↔ ∀ e ∈ es, e.isPaint = false) ∧
      (rebuilds es ≤ requests es ↔ es.countP ItemEvent.isPaint ≤ requests es) := by
  refine ⟨⟨fun h e he => ?_, fun h => ?_⟩, by rw [rebuilds_eq]⟩
  · cases e with
    | updatePaintNode p =>
      obtain ⟨fs, gs, rfl⟩ := List.append_of_mem he
      have hkept := (painted_run fs p).newMaterial
      have hcleared := (h.cleared fs p gs rfl).2.2
      exact absurd (hkept.symm.trans hcleared) Bool.true_eq_false.mp
    | _ => rfl
  · have hnever (fs gs : List (ItemEvent K)) (p : Option ProviderId)
        (hes : es = fs ++ .updatePaintNode p :: gs) : False := by
      have hpaint := h (.updatePaintNode p) (by simp [hes])
      exact Bool.false_ne_true hpaint.symm
    refine ⟨?_, fun fs p q gs hes => ?_, fun fs p gs hes => ?_⟩
    · rw [rebuilds_eq, List.countP_eq_zero.mpr fun e he => by simp [h e he]]
      exact Nat.zero_le _
    · exact (hnever fs _ p hes).elim
    · exact (hnever fs gs p hes).elim

/-- An item is painted twice, with no change in between. -/
def paintTwice : List (ItemEvent Nat) :=
  [.sceneChange true, .updatePaintNode none, .updatePaintNode none]

/-- The second paint creates materials that nobody has asked for. -/
theorem not_rebuildsConsumed_paintTwice :
    rebuilds paintTwice = 2 ∧ requests paintTwice = 1 ∧ ¬ RebuildsConsumed paintTwice := by
  refine ⟨by decide, by decide, fun h => ?_⟩
  have hle : rebuilds paintTwice ≤ requests paintTwice := h.rebuilds_le
  revert hle
  decide

end Runs

end SamplerGeometry
