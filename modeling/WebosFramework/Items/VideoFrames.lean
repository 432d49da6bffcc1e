import WebosFramework.Items.VideoCapture

/-!
# The frame on screen

`updatePaintNode` of `VideoCapture` tells by the ids alone what to show, and swaps the current and
the next id when it shows the next texture. After that the next texture is the one that was on
screen before, and nothing keeps a repaint from showing it again.

`latest` is the texture that the last attempt to generate one has returned, if it has succeeded. The
code does not keep it; the machine `frames` runs the item and writes it down.

**`shows_latest_iff`**: every paint shows the latest texture, exactly in the runs in which each
paint finds no other texture for the next one.

The invariant is that the latest texture is one of the two (`LatestInv`). What a paint does with
them is the same in every state, so that a single paint is described exactly
(`showsLatest_handle_iff`), and the runs follow paint by paint.
-/

namespace Eos

open EventLoop

namespace VideoCapture

/-- An item with the result of the last attempt to generate a texture. -/
structure Frames where
  item : VideoCapture := {}
  latest : Option Nat := none

/-- The latest texture after an event. Terminating deletes all textures. -/
def latestAfter (v : VideoCapture) (latest : Option Nat) : CaptureEvent → Option Nat
  | .acquireVideoTexture generated =>
    if v.isVTAvailable && v.initialized then generated else latest
  | .terminate => none
  | .initializeCapture _ | .onEvent _ | .updatePaintNode _ _ => latest

/-- The item, with the latest texture beside it. Its calls are those of the item. -/
def frames : Machine Frames CaptureEvent VtCall where
  handle f e :=
    ({ item := (videoCapture.handle f.item e).1, latest := latestAfter f.item f.latest e },
      (videoCapture.handle f.item e).2)

/-- An item with its latest texture, and the events so far. -/
abbrev FramesHistory := History Frames CaptureEvent VtCall

/-- Writing down what was generated does not interfere with the item. -/
theorem item_run (h : FramesHistory) (es : List CaptureEvent) :
    (frames.run h es).state.item =
      (videoCapture.run ⟨h.state.item, h.inputs, h.outputs⟩ es).state := by
  induction es generalizing h with
  | nil => rfl
  | cons e es ih => exact ih (frames.step h e)

/-- The event paints an item that is visible, enabled and initialized. -/
def Paints (v : VideoCapture) : CaptureEvent → Prop
  | .updatePaintNode visible enabled => visible = true ∧ enabled = true ∧ v.initialized = true
  | _ => False

instance (v : VideoCapture) : DecidablePred v.Paints
  | .updatePaintNode visible enabled =>
    inferInstanceAs (Decidable (visible = true ∧ enabled = true ∧ v.initialized = true))
  | .initializeCapture _ | .terminate | .onEvent _ | .acquireVideoTexture _ => .isFalse id

/-- What is on screen is the latest texture, if the last attempt has succeeded. -/
def ShowsLatest (f : Frames) : Prop :=
  ∀ textureId ∈ f.latest, ∃ texture, f.item.node = some (.simpleTexture texture) ∧
    texture.textureId = textureId

/-- There is no next texture, or it is the latest one. -/
def NextIsLatest (f : Frames) : Prop :=
  ∀ textureId ∈ f.latest, f.item.nextTextureId = 0 ∨ f.item.nextTextureId = textureId

instance (f : Frames) : Decidable (NextIsLatest f) :=
  inferInstanceAs (Decidable (∀ textureId ∈ f.latest, _))

/-! ## Where the latest texture is

The latest texture is the next one until it is painted, and the current one from then on. A paint
that finds another texture than the latest one as the next goes back to it. -/

variable {v : VideoCapture} {f : Frames}

/-- The latest texture is the next one or the current one. -/
structure LatestInv (f : Frames) : Prop where
  item : CaptureInv f.item
  latest : ∀ textureId ∈ f.latest, textureId ≠ 0 ∧
    (f.item.nextTextureId = textureId ∨ f.item.currentTextureId = textureId)

/-- What is known of the item without its books. -/
theorem captureInv_handle (h : CaptureInv v) {e : CaptureEvent} (he : v.FreshTexture e) :
    CaptureInv (videoCapture.handle v e).1 := by
  let vt : Vt :=
    { resources := if v.initialized then [v.resourceId] else []
      contexts := if v.initialized then [v.contextId] else []
      handlers := if v.initialized then [v.contextId] else []
      textures := v.glTextures }
  have hbooks : Books v vt := ⟨rfl, rfl, rfl, rfl⟩
  exact (handled_handle h hbooks he).inv

/-- A paint that finds no next texture leaves the item as it is: the current texture is on screen
already. -/
theorem updatePaintNode_of_zero (h : CaptureInv v) (hnext : v.nextTextureId = 0)
    (hcurrent : v.currentTextureId ≠ 0) (visible enabled : Bool) :
    v.updatePaintNode visible enabled = v := by
  obtain ⟨texture, htexture, -⟩ := h.displayed hcurrent
  unfold updatePaintNode
  split
  · rfl
  · rw [h.selectTexture_of_zero hnext]
    dsimp only
    rw [htexture]
    dsimp only
    rw [showTexture, if_neg (not_not.mpr (h.node texture htexture))]

/-- A paint that finds a next texture shows it and swaps the ids. -/
theorem updatePaintNode_of_next (h : CaptureInv v) (hnext : v.nextTextureId ≠ 0)
    (hinitialized : v.initialized = true) :
    (v.updatePaintNode true true).nextTextureId = v.currentTextureId ∧
      (v.updatePaintNode true true).currentTextureId = v.nextTextureId ∧
      (v.updatePaintNode true true).node =
        some (.simpleTexture ⟨v.nextAddress, v.nextTextureId⟩) := by
  have hpaint : v.updatePaintNode true true =
      (v.createTexture v.nextTextureId).showTexture ⟨v.nextAddress, v.nextTextureId⟩ := by
    rw [updatePaintNode, if_neg (by simp [hinitialized]), h.selectTexture_of_ne hnext]
    rfl
  rw [hpaint, h.showTexture_next hnext]
  exact ⟨rfl, rfl, rfl⟩

/-- Initializing does not touch the textures. -/
theorem ids_initializeCapture (v : VideoCapture) (replies : InitializeReplies) :
    (v.initializeCapture replies).1.nextTextureId = v.nextTextureId ∧
      (v.initializeCapture replies).1.currentTextureId = v.currentTextureId := by
  fun_cases v.initializeCapture replies <;> exact ⟨rfl, rfl⟩

/-- An item that is hidden, disabled or not initialized is not painted. -/
theorem updatePaintNode_of_not_paints {visible enabled : Bool}
    (hnot : ¬ v.Paints (.updatePaintNode visible enabled)) :
    v.updatePaintNode visible enabled = v := by
  rw [updatePaintNode, if_pos]
  by_contra hpaints
  simp only [Bool.or_eq_true, Bool.not_eq_true', not_or, Bool.not_eq_false] at hpaints
  exact hnot ⟨hpaints.1.1, hpaints.1.2, hpaints.2⟩

/-- The latest texture stays one of the two. A new one is the next one, a paint that shows it
makes it the current one, and only a paint that shows another one makes it the next one again. -/
theorem latestInv_handle (h : LatestInv f) {e : CaptureEvent} (he : f.item.FreshTexture e) :
    LatestInv (frames.handle f e).1 := by
  refine ⟨captureInv_handle h.item he, ?_⟩
  cases e with
  -- neither the ids nor the latest one are touched
  | initializeCapture replies =>
    obtain ⟨hnext, hcurrent⟩ := ids_initializeCapture f.item replies
    intro textureId hlatest
    show textureId ≠ 0 ∧ ((f.item.initializeCapture replies).1.nextTextureId = textureId ∨
      (f.item.initializeCapture replies).1.currentTextureId = textureId)
    rw [hnext, hcurrent]
    exact h.latest textureId hlatest
  | terminate => exact fun textureId hlatest => by cases hlatest
  | onEvent type =>
    cases type with
    | available | unavailable | resourceBusy => exact h.latest
  -- a new id is the latest one and waits to be shown
  | acquireVideoTexture generated =>
    intro textureId hlatest
    show textureId ≠ 0 ∧ ((f.item.acquireVideoTexture generated).1.nextTextureId = textureId ∨
      (f.item.acquireVideoTexture generated).1.currentTextureId = textureId)
    simp only [frames, latestAfter] at hlatest
    split at hlatest
    · -- the attempt has succeeded
      rename_i hcalled
      cases hlatest
      have hboth := hcalled
      rw [Bool.and_eq_true] at hboth
      refine ⟨(he hboth.1 hboth.2).1, .inl ?_⟩
      rw [acquireVideoTexture, if_pos hcalled]
    · rename_i hcalled
      rw [acquireVideoTexture, if_neg hcalled]
      exact h.latest textureId hlatest
  -- a paint shows the id that waits, if there is one
  | updatePaintNode visible enabled =>
    intro textureId hlatest
    obtain ⟨hne, hwhere⟩ := h.latest textureId hlatest
    refine ⟨hne, ?_⟩
    show (f.item.updatePaintNode visible enabled).nextTextureId = textureId ∨
      (f.item.updatePaintNode visible enabled).currentTextureId = textureId
    by_cases hpaints : f.item.Paints (.updatePaintNode visible enabled)
    · obtain ⟨rfl, rfl, hinitialized⟩ := hpaints
      by_cases hnext : f.item.nextTextureId = 0
      · have hcurrent : f.item.currentTextureId = textureId :=
          hwhere.resolve_left fun heq => hne (heq.symm.trans hnext)
        rw [updatePaintNode_of_zero h.item hnext (hcurrent ▸ hne)]
        exact .inr hcurrent
      · obtain ⟨hnext', hcurrent', -⟩ := updatePaintNode_of_next h.item hnext hinitialized
        rw [hnext', hcurrent']
        exact hwhere.symm
    · rw [updatePaintNode_of_not_paints hpaints]
      exact hwhere

/-- **One paint.** It shows the latest texture exactly when it finds no other one for the next. If
one waits for the paint the ids change places, and otherwise the current one is shown again. -/
theorem showsLatest_handle_iff (h : LatestInv f) {e : CaptureEvent} (he : f.item.Paints e) :
    ShowsLatest (frames.handle f e).1 ↔ NextIsLatest f := by
  cases e with
  | initializeCapture | terminate | onEvent | acquireVideoTexture => exact he.elim
  | updatePaintNode visible enabled =>
    obtain ⟨rfl, rfl, hinitialized⟩ := he
    refine forall₂_congr fun textureId hlatest => ?_
    obtain ⟨hne, hwhere⟩ := h.latest textureId hlatest
    show (∃ texture, (f.item.updatePaintNode true true).node = some (.simpleTexture texture) ∧
      texture.textureId = textureId) ↔ _
    by_cases hnext : f.item.nextTextureId = 0
    · -- nothing changes, and the current texture is the latest one
      have hcurrent : f.item.currentTextureId = textureId :=
        hwhere.resolve_left fun heq => hne (heq.symm.trans hnext)
      rw [updatePaintNode_of_zero h.item hnext (hcurrent ▸ hne)]
      obtain ⟨texture, htexture, hid⟩ := h.item.displayed (hcurrent ▸ hne)
      exact iff_of_true ⟨texture, h.item.node texture htexture, hid.trans hcurrent⟩ (.inl hnext)
    · obtain ⟨-, -, hnode⟩ := updatePaintNode_of_next h.item hnext hinitialized
      rw [hnode]
      constructor
      · intro ⟨texture, htexture, hid⟩
        cases htexture
        exact .inr hid
      · exact fun hor => ⟨_, rfl, hor.resolve_left hnext⟩

/-! ## Runs

The condition is about the state before each paint. -/

/-- A new item has no texture, and nothing has been generated. -/
theorem latestInv_init : LatestInv {} :=
  ⟨historyInv_init.item, fun _ hlatest => by cases hlatest⟩

/-- **No older frame.** In every run in which the library returns fresh textures: every paint of a
visible, enabled and initialized item shows the texture generated last, unless the last attempt to
generate one has failed, if and only if every such paint finds that texture for the next one, or
none. -/
theorem shows_latest_iff (es : List CaptureEvent)
    (hes : frames.Admits (fun h e => h.state.item.FreshTexture e) (.init {}) es) :
    frames.Admits (fun h e => h.state.item.Paints e → ShowsLatest (frames.step h e).state)
        (.init {}) es ↔
      frames.Admits (fun h e => h.state.item.Paints e → NextIsLatest h.state) (.init {}) es := by
  refine Machine.admits_congr (I := fun h => LatestInv h.state) ?_ ?_ latestInv_init hes
  · exact fun _ _ hinv he => latestInv_handle hinv he
  · exact fun _ _ hinv _ => forall_congr' fun hpaints => showsLatest_handle_iff hinv hpaints

/-- Each of three frames is painted once, and the last one twice more after an attempt to generate
another one has failed. -/
def paintedOnce : List CaptureEvent :=
  [.initializeCapture ⟨some 1, some 2, some 3, true, true⟩, .onEvent .available,
    .acquireVideoTexture (some 5), .updatePaintNode true true, .onEvent .available,
    .acquireVideoTexture (some 6), .updatePaintNode true true, .onEvent .available,
    .acquireVideoTexture (some 7), .updatePaintNode true true, .onEvent .available,
    .acquireVideoTexture none, .updatePaintNode true true, .updatePaintNode true true]

/-- Nothing is painted twice while there is a next texture, so each paint is right. The failed
attempt leaves no next texture, and the paints after it change nothing. -/
theorem shows_latest_paintedOnce :
    frames.Admits (fun h e => h.state.item.Paints e → ShowsLatest (frames.step h e).state)
      (.init {}) paintedOnce :=
  (shows_latest_iff paintedOnce (by decide)).mpr (by decide)

/-- The second of two frames is painted twice. -/
def paintedTwice : List CaptureEvent :=
  [.initializeCapture ⟨some 1, some 2, some 3, true, true⟩, .onEvent .available,
    .acquireVideoTexture (some 5), .updatePaintNode true true, .onEvent .available,
    .acquireVideoTexture (some 6), .updatePaintNode true true, .updatePaintNode true true]

/-- The repaint goes back to the first frame. -/
theorem not_shows_latest_paintedTwice :
    frames.Admits (fun h e => h.state.item.FreshTexture e) (.init {}) paintedTwice ∧
      (frames.run (.init {}) paintedTwice).state.latest = some 6 ∧
      (frames.run (.init {}) paintedTwice).state.item.node = some (.simpleTexture ⟨3, 5⟩) ∧
      ¬ frames.Admits (fun h e => h.state.item.Paints e → ShowsLatest (frames.step h e).state)
        (.init {}) paintedTwice := by
  refine ⟨by decide, by decide, by decide, fun hshows => ?_⟩
  obtain ⟨-, -, -, -, -, -, -, hrepaint, -⟩ := hshows
  obtain ⟨texture, htexture, hid⟩ := hrepaint (by decide) 6 rfl
  cases htexture
  cases hid

end VideoCapture

end Eos
