import Mathlib.Algebra.Ring.Int.Defs
import WebosFramework.Items.Painting

/-!
# Window references

A source item may have no parent, and then gets its window from the items that sample it.
`setSourceItem` and `itemChange` of `Eos/Items/src/samplergeometry.cpp` take and drop the references
that keep it in the window: the first as the source changes, if there is a window, the second as the
window does, if there is a source.

**`references_balanced`**: if the item enters and leaves windows in turns, then it holds one
reference on its source item while it is in a window, and none on any other item.

What an event adds to the references on an item is the difference of what the item should hold
after it and before it (`references_handle`). Summing up over a run the differences cancel, and a
new item holds nothing.
-/

namespace SamplerGeometry

open EventLoop

variable {K : Type}

/-- What a call adds to the references on an item. -/
def Output.delta (item : SourceId) : Output → Int
  | .refWindow source => if source = item then 1 else 0
  | .derefWindow source => if source = item then -1 else 0
  | _ => 0

/-- The calls of `refWindow` on an item less those of `derefWindow`. -/
def references (item : SourceId) (outputs : List Output) : Int :=
  (outputs.map (Output.delta item)).sum

/-- The references that an item should hold on another one. -/
def Item.held (it : Item K) (item : SourceId) : Int :=
  if it.sourceItem = some item ∧ it.window = true then 1 else 0

@[simp] theorem references_nil (item : SourceId) : references item [] = 0 := rfl

@[simp] theorem references_append (item : SourceId) (os os' : List Output) :
    references item (os ++ os') = references item os + references item os' := by
  simp [references]

/-- The item that is held gets one reference, and no other does. -/
theorem references_refWindow (item : SourceId) (source : Option SourceId) :
    references item (source.toList.map .refWindow) = if source = some item then 1 else 0 := by
  cases source <;> simp [references, Output.delta]

/-- The item that is let go of loses one reference. -/
theorem references_derefWindow (item : SourceId) (source : Option SourceId) :
    references item (source.toList.map .derefWindow) = if source = some item then -1 else 0 := by
  cases source <;> simp [references, Output.delta]

/-- Making materials has nothing to do with windows. -/
theorem references_create (item : SourceId) {os : List Output}
    (hos : ∀ o ∈ os, o.isCreate = true) : references item os = 0 := by
  induction os with
  | nil => rfl
  | cons o os ih =>
    have hzero : o.delta item = 0 := by
      have hcreate := hos o List.mem_cons_self
      cases o with
      | refWindow _ | derefWindow _ => cases hcreate
      | _ => rfl
    have htail := ih fun o ho => hos o (List.mem_cons_of_mem _ ho)
    show o.delta item + references item os = 0
    rw [hzero, htail]
    rfl

/-! ## One event

An event adds to the references what it should: they follow the source item and the window. -/

section Steps

variable {it it' : Item K}

/-- The source item and the window are the same, and so are the references to hold. -/
structure Item.SameSource (it it' : Item K) : Prop where
  sourceItem : it'.sourceItem = it.sourceItem
  window : it'.window = it.window

/-- What is to be held depends on the source item and on the window only. -/
theorem Item.SameSource.held (h : it.SameSource it') (item : SourceId) :
    it'.held item = it.held item := by
  unfold Item.held
  rw [h.sourceItem, h.window]

/-- An event without a call. -/
theorem Item.SameSource.silent (h : it.SameSource it') (item : SourceId) :
    references item [] = it'.held item - it.held item := by
  rw [h.held, Int.sub_self, references_nil]

/-- Blending does not change either of the two. -/
theorem sameSource_updateBlending (it : Item K) (blending : Bool) :
    it.SameSource (it.updateBlending blending) := by
  unfold Item.updateBlending
  split <;> exact ⟨rfl, rfl⟩

/-- Nor does the color. -/
theorem sameSource_setColor (it : Item K) (color : QColor) : it.SameSource (it.setColor color) := by
  unfold Item.setColor
  split
  · exact ⟨rfl, rfl⟩
  · dsimp only
    split
    · have hblending := sameSource_updateBlending { it with color, materialDirty := true }
        color.isTranslucent
      exact ⟨hblending.sourceItem, hblending.window⟩
    · exact ⟨rfl, rfl⟩

/-- The end of the node does not either: the item stays in its window. -/
theorem sameSource_deleteNode (it : Item K) : it.SameSource it.deleteNode := by
  unfold Item.deleteNode
  split
  · exact ⟨rfl, rfl⟩
  · dsimp only
    split <;> exact ⟨rfl, rfl⟩

/-- Nor does the end of a provider, which is not the end of the source item. -/
theorem sameSource_providerDestroyed (it : Item K) (provider : ProviderId) :
    it.SameSource (it.providerDestroyed provider) := by
  obtain ⟨materialDirty, h⟩ := foldl_call it (it.connections.receivers (provider, .destroyed))
  unfold Item.providerDestroyed
  dsimp only
  rw [h]
  exact ⟨rfl, rfl⟩

/-- What a change of the source drops and takes. In a window the old item is let go of and the new
one is held; without one nothing is called, and nothing should be held either. An item that is
refused counts as none. -/
theorem references_setSourceItem (it : Item K) (source : Option SourceId) (isTextureProvider : Bool)
    (item : SourceId) :
    references item (it.setSourceItem source isTextureProvider).2 =
      (it.setSourceItem source isTextureProvider).1.held item - it.held item := by
  unfold Item.setSourceItem
  extract_lets accepted newMaterial deref ref
  split
  · simp
  · dsimp only
    rw [references_append]
    show references item (if it.window then _ else _) + references item (if it.window then _ else _)
      = (if accepted = some item ∧ it.window = true then 1 else 0)
        - if it.sourceItem = some item ∧ it.window = true then 1 else 0
    cases it.window with
    | true =>
      rw [if_pos rfl, if_pos rfl, references_derefWindow, references_refWindow]
      simp only [and_true]
      split <;> split <;> omega
    | false => simp

/-- Entering a window takes a reference, and leaving it drops one. This is right only if the
window changes: a second entrance would take a second reference. -/
theorem references_sceneChange {window : Bool} (hwindow : window ≠ it.window) (item : SourceId) :
    references item (it.sceneChange window).2 =
      (it.sceneChange window).1.held item - it.held item := by
  unfold Item.sceneChange Item.held
  dsimp only
  cases window with
  | true =>
    have hout : it.window = false := by simpa using hwindow.symm
    rw [hout]
    refine (references_refWindow item it.sourceItem).trans ?_
    simp
  | false =>
    have hin : it.window = true := by simpa using hwindow.symm
    rw [hin]
    refine (references_derefWindow item it.sourceItem).trans ?_
    simp only [and_true]
    split <;> simp_all

/-- The item enters a window when it is in none, and leaves it when it is in one. -/
def SceneChangesAlternate (it : Item K) : ItemEvent K → Prop
  | .sceneChange window => window ≠ it.window
  | _ => True

/-- **One event** adds what it should. The setters add nothing; for a paint this is known from
`painted_updatePaintNode`, as it calls nothing but what makes materials. -/
theorem references_handle [Zero K] [DecidableEq K] (hI : ProvidersInv it) {e : ItemEvent K}
    (hwindow : SceneChangesAlternate it e) (item : SourceId) :
    references item ((SamplerGeometry.item K).handle it e).2 =
      ((SamplerGeometry.item K).handle it e).1.held item - it.held item := by
  cases e with
  -- a change of the source gives one reference back and takes one
  | setSourceItem source isTextureProvider =>
    exact references_setSourceItem it source isTextureProvider item
  | sourceItemDestroyed source =>
    simp only [SamplerGeometry.item, Item.sourceItemDestroyed]
    split
    · exact references_setSourceItem it none false item
    · simp
  -- so does a change of the scene, for the same source
  | sceneChange window => exact references_sceneChange hwindow item
  -- the other events touch neither the source nor the window
  | updatePaintNode provider =>
    have hpainted := painted_updatePaintNode provider hI
    have hsame : it.SameSource (it.updatePaintNode provider).1 :=
      ⟨hpainted.sameProperties.sourceItem, hpainted.sameProperties.window⟩
    refine (references_create item hpainted.outputs).trans ?_
    exact hsame.silent item
  | setColor color => exact (sameSource_setColor it color).silent item
  | setBlending blending =>
    have hblending := sameSource_updateBlending { it with calculatesBlending := false } blending
    have hsame : it.SameSource (it.setBlending blending) := ⟨hblending.sourceItem, hblending.window⟩
    exact hsame.silent item
  | deleteNode => exact (sameSource_deleteNode it).silent item
  | providerDestroyed provider => exact (sameSource_providerDestroyed it provider).silent item
  | setAntialiasing antialiasing =>
    refine Item.SameSource.silent ?_ item
    simp only [SamplerGeometry.item, Item.setAntialiasing]
    split <;> exact ⟨rfl, rfl⟩
  | setClampToEdge clampToEdge =>
    refine Item.SameSource.silent ?_ item
    simp only [SamplerGeometry.item, Item.setClampToEdge]
    split <;> exact ⟨rfl, rfl⟩
  | setDest dest =>
    refine Item.SameSource.silent ?_ item
    simp only [SamplerGeometry.item, Item.setDest]
    split <;> exact ⟨rfl, rfl⟩
  | resize width height =>
    refine Item.SameSource.silent ?_ item
    simp only [SamplerGeometry.item, Item.resize]
    split <;> exact ⟨rfl, rfl⟩
  | markDirtyGeometry =>
    refine Item.SameSource.silent ?_ item
    exact ⟨rfl, rfl⟩

end Steps

/-! ## Runs

The sums over the steps. -/

section Runs

variable [Zero K] [DecidableEq K]

/-- The item holds the references it should hold. -/
def ReferencesBalanced (h : History (Item K) (ItemEvent K) Output) : Prop :=
  ∀ item, references item h.outputs = h.state.held item

/-- **Window references are balanced** at every event boundary: there is one on the source item of
an item in a window, and no other one. By induction on the run, with the invariant of
`Items.TextureProviders` for the paints. -/
theorem references_balanced {es : List (ItemEvent K)}
    (hes : (item K).Admits (fun h => SceneChangesAlternate h.state) (.init .new) es) :
    (item K).Always ReferencesBalanced (.init .new) es := by
  refine Machine.Always.mono (P := fun h => ProvidersInv h.state ∧ ReferencesBalanced h) ?_
    fun h hh => hh.2
  refine Machine.always_of_admits (fun h e hh hwindow => ⟨?_, fun item => ?_⟩) ⟨?_, ?_⟩ hes
  · exact providersInv_handle hh.1 e
  · have hstep := references_handle hh.1 hwindow item
    rw [Machine.step_outputs, references_append, hh.2 item, hstep]
    show _ = ((SamplerGeometry.item K).handle h.state e).1.held item
    omega
  · exact providersInv_new
  · intro item
    rfl

/-- The source changes in a window, is destroyed there, and another item is refused. -/
def changeSources : List (ItemEvent Nat) :=
  [.setSourceItem (some 1) true, .sceneChange true, .setSourceItem (some 2) true,
    .sourceItemDestroyed 2, .setSourceItem (some 3) true, .setSourceItem (some 4) false,
    .sceneChange false]

theorem references_balanced_changeSources :
    (item Nat).Always ReferencesBalanced (.init .new) changeSources :=
  have henters : true ≠ false := by decide
  have hleaves : false ≠ true := by decide
  references_balanced ⟨trivial, henters, trivial, trivial, trivial, trivial, hleaves, trivial⟩

end Runs

end SamplerGeometry
