import WebosFramework.Lib.EventLoop

/-!
# Capturing video

`VideoCapture` of `Eos/Items/src/videocapture.cpp` shows the video as a texture. It owns what it
gets from the video texture library `VT`: a window resource, a context with an event handler, and
textures. `currentTextureId` is on screen, `nextTextureId` has been generated for the next paint.

* A call to `VT` that succeeds is an output, so the history is the log of the library's books. `Vt`
  replays such a log and stops at a call that must not be made.
* What the calls of an event return is part of the event. `glIsTexture` is true of the textures that
  have been generated and not been deleted.
* A `QSGTexture` is told apart from others by its address. The node of the item, which the scene
  graph keeps, owns the one it shows.
* The code for Qt 5 is modelled. That for Qt 6 differs in how the id of a texture is read; it
  creates a texture through the `currentTexture` there is, even if there is none.

**`resources_released`**: whatever happens, everything acquired is held once and released once.

The invariant `CaptureInv` is about the ids and what is on screen, `Books` about what the library
has on its side. An event keeps the two together (`Handled`), and there is one lemma for each
event, from which `historyInv_step` and the runs follow.
-/

namespace Eos

open EventLoop

/-! ## The library

The books of the library: what has been acquired, created, registered and generated, and has not
been given back. There are no books after something is given back that is not held. -/

/-- A call to `VT` that has succeeded, with the id that it has returned or that was passed to it. -/
inductive VtCall where
  /-- `VT_AcquireVideoWindowResource`, `VT_ReleaseVideoWindowResource`. -/
  | acquireVideoWindowResource (resourceId : Int)
  | releaseVideoWindowResource (resourceId : Int)
  /-- `VT_CreateContext`, `VT_DeleteContext`. -/
  | createContext (contextId : Int)
  | deleteContext (contextId : Int)
  /-- `VT_RegisterEventHandler`, `VT_UnRegisterEventHandler`. -/
  | registerEventHandler (contextId : Int)
  | unRegisterEventHandler (contextId : Int)
  /-- `VT_GenerateTexture`, `VT_DeleteTexture`. -/
  | generateTexture (textureId : Nat)
  | deleteTexture (textureId : Nat)
  deriving DecidableEq

/-- What is outstanding: the library has handed it out, and has not got it back. -/
structure Vt where
  resources : List Int := []
  contexts : List Int := []
  handlers : List Int := []
  textures : List Nat := []

namespace Vt

/-- A call, if it may be made: nothing is released that is not held. -/
def call (vt : Vt) : VtCall → Option Vt
  | .acquireVideoWindowResource id => some { vt with resources := id :: vt.resources }
  | .releaseVideoWindowResource id =>
    if id ∈ vt.resources then some { vt with resources := vt.resources.erase id } else none
  | .createContext id => some { vt with contexts := id :: vt.contexts }
  | .deleteContext id =>
    if id ∈ vt.contexts then some { vt with contexts := vt.contexts.erase id } else none
  | .registerEventHandler id => some { vt with handlers := id :: vt.handlers }
  | .unRegisterEventHandler id =>
    if id ∈ vt.handlers then some { vt with handlers := vt.handlers.erase id } else none
  | .generateTexture id => some { vt with textures := id :: vt.textures }
  | .deleteTexture id =>
    if id ∈ vt.textures then some { vt with textures := vt.textures.erase id } else none

/-- The books after a list of calls, if each of them may be made. -/
def replay : Vt → List VtCall → Option Vt
  | vt, [] => some vt
  | vt, c :: cs =>
    match vt.call c with
    | some vt' => replay vt' cs
    | none => none

/-- Two lists of calls, one after the other. By induction on the first. -/
theorem replay_append (vt : Vt) (cs ds : List VtCall) :
    vt.replay (cs ++ ds) = (vt.replay cs).bind fun vt' => vt'.replay ds := by
  induction cs generalizing vt with
  | nil => rfl
  | cons c cs ih =>
    show (match vt.call c with | some vt' => vt'.replay (cs ++ ds) | none => none) = _
    cases hcall : vt.call c with
    | none => simp [replay, hcall]
    | some vt' => simp [replay, hcall, ih]

end Vt

/-! ## The item

The members and the functions of the item, with the calls that they make. The replies of the
library are arguments. -/

/-- A `QSGTexture`: its address, and the id of the OpenGL texture in it. -/
structure SGTexture where
  address : Nat
  textureId : Nat
  deriving DecidableEq

/-- The two kinds of node that `updatePaintNode` makes. -/
inductive SGNode where
  /-- A node that shows a texture. -/
  | simpleTexture (texture : SGTexture)
  /-- A black rectangle, as long as there is no texture. -/
  | simpleRect
  deriving DecidableEq

/-- The members of an item, and what OpenGL and the scene graph know of it. `m_isVTAvailable` and
`m_vtInitialized` are without their prefixes. -/
structure VideoCapture where
  initialized : Bool := false
  isVTAvailable : Bool := false
  windowId : Int := -1
  resourceId : Int := 0
  contextId : Int := 0
  currentTextureId : Nat := 0
  nextTextureId : Nat := 0
  currentTexture : Option SGTexture := none
  /-- What `updatePaintNode` has returned last. -/
  node : Option SGNode := none
  /-- The textures `glIsTexture` is true of. -/
  glTextures : List Nat := []
  /-- The next texture gets this address. No texture gets one that another has had. -/
  nextAddress : Nat := 1

/-- What the calls made by `initialize` return; `none` is a failure. -/
structure InitializeReplies where
  windowId : Option Int
  resourceId : Option Int
  contextId : Option Int
  setTextureSourceRegion : Bool
  registerEventHandler : Bool

/-- The events of the library that `OnEvent` tells apart. -/
inductive VtEvent where
  /-- There is a new frame. -/
  | available
  | unavailable
  | resourceBusy

namespace VideoCapture

/-- `initialize` -/
def initializeCapture (v : VideoCapture) (replies : InitializeReplies) : VideoCapture × List VtCall :=
  if v.initialized then (v, [])
  else
    match replies.windowId with
    | none => ({ v with windowId := -1 }, [])
    | some windowId =>
      match replies.resourceId with
      | none => ({ v with windowId }, [])
      | some resourceId =>
        match replies.contextId with
        | none =>
          ({ v with windowId, resourceId, contextId := -1 },
            [.acquireVideoWindowResource resourceId, .releaseVideoWindowResource resourceId])
        | some contextId =>
          let acquired : List VtCall :=
            [.acquireVideoWindowResource resourceId, .createContext contextId]
          let released : List VtCall :=
            [.deleteContext contextId, .releaseVideoWindowResource resourceId]
          if !replies.setTextureSourceRegion then
            ({ v with windowId, resourceId, contextId }, acquired ++ released)
          else if !replies.registerEventHandler then
            ({ v with windowId, resourceId, contextId }, acquired ++ released)
          else
            ({ v with windowId, resourceId, contextId, initialized := true },
              acquired ++ [.registerEventHandler contextId])

/-- OpenGL has a texture of this id. -/
def glIsTexture (v : VideoCapture) (textureId : Nat) : Bool := textureId ∈ v.glTextures

/-- `(currentTexture && textureId != currentTexture->textureId()) || currentTexture == NULL` -/
def notDisplayed (v : VideoCapture) (textureId : Nat) : Bool :=
  match v.currentTexture with
  | some texture => textureId ≠ texture.textureId
  | none => true

/-- `VT_DeleteTexture`, after which OpenGL has no texture of this id. -/
def deleteTexture (v : VideoCapture) (textureId : Nat) : VideoCapture × List VtCall :=
  ({ v with glTextures := v.glTextures.erase textureId }, [.deleteTexture textureId])

/-- A texture that is there and not on screen is deleted. -/
def deleteHidden (v : VideoCapture) (textureId : Nat) : VideoCapture × List VtCall :=
  if textureId ≠ 0 && v.glIsTexture textureId && v.notDisplayed textureId then
    v.deleteTexture textureId
  else (v, [])

/-- The first part of `terminate`. -/
def terminateCurrent (v : VideoCapture) : VideoCapture × List VtCall :=
  if v.currentTextureId ≠ 0 && v.glIsTexture v.currentTextureId then
    let deleted := v.deleteHidden v.currentTextureId
    ({ deleted.1 with currentTextureId := 0 }, deleted.2)
  else (v, [])

/-- The second part, which does the same for the other id. -/
def terminateNext (v : VideoCapture) : VideoCapture × List VtCall :=
  if v.nextTextureId ≠ 0 && v.glIsTexture v.nextTextureId then
    let deleted := v.deleteHidden v.nextTextureId
    ({ deleted.1 with nextTextureId := 0 }, deleted.2)
  else (v, [])

/-- The third part: the texture on screen. -/
def terminateDisplayed (v : VideoCapture) : VideoCapture × List VtCall :=
  match v.currentTexture with
  | none => (v, [])
  | some texture =>
    if texture.textureId ≠ 0 && v.glIsTexture texture.textureId then
      let deleted := v.deleteTexture texture.textureId
      ({ deleted.1 with currentTexture := none }, deleted.2)
    else (v, [])

/-- `terminate`. The textures go first, then the handler, the context and the window resource. -/
def terminate (v : VideoCapture) : VideoCapture × List VtCall :=
  if !v.initialized then (v, [])
  else
    let current := v.terminateCurrent
    let next := current.1.terminateNext
    let displayed := next.1.terminateDisplayed
    ({ displayed.1 with
        initialized := false
        isVTAvailable := false
        contextId := 0
        resourceId := 0
        windowId := -1 },
      current.2 ++ next.2 ++ displayed.2 ++
        [.unRegisterEventHandler v.contextId, .deleteContext v.contextId,
          .releaseVideoWindowResource v.resourceId])

/-- `OnEvent`; the signal `videoFrameChanged` calls `acquireVideoTexture` later. -/
def onEvent (v : VideoCapture) : VtEvent → VideoCapture
  | .available => { v with isVTAvailable := true }
  | .unavailable | .resourceBusy => v

/-- `acquireVideoTexture`, where `VT_GenerateTexture` returns `generated`. -/
def acquireVideoTexture (v : VideoCapture) (generated : Option Nat) :
    VideoCapture × List VtCall :=
  if v.isVTAvailable && v.initialized then
    let deleted := v.deleteHidden v.nextTextureId
    match generated with
    | some textureId =>
      ({ deleted.1 with
          glTextures := textureId :: deleted.1.glTextures
          nextTextureId := textureId
          isVTAvailable := false },
        deleted.2 ++ [.generateTexture textureId])
    | none => ({ deleted.1 with nextTextureId := 0, isVTAvailable := false }, deleted.2)
  else (v, [])

/-- `currentTexture = window()->createTextureFromId(textureId, ..)` -/
def createTexture (v : VideoCapture) (textureId : Nat) : VideoCapture :=
  { v with currentTexture := some ⟨v.nextAddress, textureId⟩, nextAddress := v.nextAddress + 1 }

/-- The choice of the texture to show. -/
def selectTexture (v : VideoCapture) : VideoCapture :=
  if v.nextTextureId ≠ 0 && v.glIsTexture v.nextTextureId && v.notDisplayed v.nextTextureId then
    v.createTexture v.nextTextureId
  else if v.currentTextureId ≠ 0 && v.glIsTexture v.currentTextureId &&
      v.notDisplayed v.currentTextureId then
    v.createTexture v.currentTextureId
  else v

/-- The node is made to show the texture; the ids are swapped if it is the next one. -/
def showTexture (v : VideoCapture) (texture : SGTexture) : VideoCapture :=
  -- a new node has no texture, and a node of the other kind is deleted
  if v.node ≠ some (.simpleTexture texture) then
    let shown := { v with node := some (.simpleTexture texture) }
    if v.nextTextureId ≠ 0 && v.glIsTexture v.nextTextureId &&
        v.nextTextureId = texture.textureId then
      { shown with nextTextureId := v.currentTextureId, currentTextureId := v.nextTextureId }
    else shown
  else v

/-- `updatePaintNode`; before `initialize` has succeeded it calls it later. -/
def updatePaintNode (v : VideoCapture) (visible enabled : Bool) : VideoCapture :=
  if !visible || !enabled || !v.initialized then v
  else
    let selected := v.selectTexture
    match selected.currentTexture with
    | none => { selected with node := some .simpleRect }
    | some texture => selected.showTexture texture

end VideoCapture

/-! ## Events

An event runs one function of the item. -/

/-- What may happen to an item. `initialize` is an event with the replies of the library, and so
is each of the calls that `OnEvent` and `updatePaintNode` put off. -/
inductive CaptureEvent where
  | initializeCapture (replies : InitializeReplies)
  | terminate
  | onEvent (type : VtEvent)
  | acquireVideoTexture (generated : Option Nat)
  | updatePaintNode (visible enabled : Bool)

/-- The item reacting to one event after the other. Its outputs are the calls to `VT`. -/
def videoCapture : Machine VideoCapture CaptureEvent VtCall where
  handle v
    | .initializeCapture replies => v.initializeCapture replies
    | .terminate => v.terminate
    | .onEvent type => (v.onEvent type, [])
    | .acquireVideoTexture generated => v.acquireVideoTexture generated
    | .updatePaintNode visible enabled => (v.updatePaintNode visible enabled, [])

/-- An item, the events so far, and the calls that it has made. -/
abbrev CaptureHistory := History VideoCapture CaptureEvent VtCall

namespace VideoCapture

/-! ## What an item holds

The invariant on the two ids and the texture on screen, and the books that go with it. -/

/-- The texture on screen is `currentTextureId`, and the two ids name all the textures there are. -/
structure CaptureInv (v : VideoCapture) : Prop where
  /-- An item that is not initialized names no texture. -/
  idle : v.initialized = false → v.currentTextureId = 0 ∧ v.nextTextureId = 0
  /-- The two ids are not those of one texture. -/
  distinct : v.currentTextureId ≠ 0 → v.nextTextureId ≠ v.currentTextureId
  textures : ∀ id, id ∈ v.glTextures ↔
    id ≠ 0 ∧ (id = v.currentTextureId ∨ id = v.nextTextureId)
  nodup : v.glTextures.Nodup
  /-- Without a current texture nothing is on screen. -/
  hidden : v.currentTextureId = 0 → v.currentTexture = none
  displayed : v.currentTextureId ≠ 0 →
    ∃ texture, v.currentTexture = some texture ∧ texture.textureId = v.currentTextureId
  /-- The node shows the texture there is. -/
  node : ∀ texture, v.currentTexture = some texture → v.node = some (.simpleTexture texture)
  /-- Addresses from `nextAddress` on have not been given out. -/
  address : ∀ texture, v.node = some (.simpleTexture texture) → texture.address < v.nextAddress

/-- The books of the library, while the item is as it is. -/
structure Books (v : VideoCapture) (vt : Vt) : Prop where
  resources : vt.resources = if v.initialized then [v.resourceId] else []
  contexts : vt.contexts = if v.initialized then [v.contextId] else []
  handlers : vt.handlers = if v.initialized then [v.contextId] else []
  textures : vt.textures = v.glTextures

/-- An event has been handled: its calls may be made, and the books are right afterwards. -/
structure Handled (vt : Vt) (result : VideoCapture × List VtCall) : Prop where
  inv : CaptureInv result.1
  books : ∃ vt', vt.replay result.2 = some vt' ∧ Books result.1 vt'

variable {v : VideoCapture} {vt : Vt}

/-- An event that changes nothing and calls nothing is handled. -/
theorem CaptureInv.unchanged (h : CaptureInv v) (hbooks : Books v vt) : Handled vt (v, []) :=
  ⟨h, vt, rfl, hbooks⟩

/-- OpenGL knows what the item names. -/
theorem CaptureInv.glIsTexture (h : CaptureInv v) {id : Nat} (hid : id ≠ 0)
    (hname : id = v.currentTextureId ∨ id = v.nextTextureId) : v.glIsTexture id = true :=
  decide_eq_true ((h.textures id).mpr ⟨hid, hname⟩)

/-- No texture has the id 0, which stands for none. -/
theorem CaptureInv.not_mem_zero (h : CaptureInv v) : 0 ∉ v.glTextures :=
  fun hmem => ((h.textures 0).mp hmem).1 rfl

/-- The next texture is not the one on screen. -/
theorem CaptureInv.notDisplayed_next (h : CaptureInv v) :
    v.notDisplayed v.nextTextureId = true := by
  unfold notDisplayed
  by_cases hcurrent : v.currentTextureId = 0
  · rw [h.hidden hcurrent]
  · obtain ⟨texture, htexture, hid⟩ := h.displayed hcurrent
    rw [htexture]
    apply decide_eq_true
    rw [hid]
    exact h.distinct hcurrent

/-- The current texture is the one on screen, so that `deleteHidden` leaves it alone. -/
theorem CaptureInv.notDisplayed_current (h : CaptureInv v) (hcurrent : v.currentTextureId ≠ 0) :
    v.notDisplayed v.currentTextureId = false := by
  obtain ⟨texture, htexture, hid⟩ := h.displayed hcurrent
  unfold notDisplayed
  rw [htexture]
  exact decide_eq_false (by simp [hid])

/-! ### Initializing

Each of the calls may fail, and what has been acquired before is released then. -/

/-- **Initializing.** If one of the calls fails, what has been acquired before is given back, so
the item holds nothing then. The cases are those of the calls, in the order in which they are
made. -/
theorem handled_initializeCapture (h : CaptureInv v) (hbooks : Books v vt)
    (replies : InitializeReplies) : Handled vt (v.initializeCapture replies) := by
  unfold initializeCapture
  cases hinitialized : v.initialized with
  | true => exact h.unchanged hbooks
  | false =>
    obtain ⟨windowId, resourceId, contextId, region, handler⟩ := replies
    -- while the item holds nothing, the ids of window, resource and context do not matter
    have hinv : ∀ w r c i, (i = false → v.currentTextureId = 0 ∧ v.nextTextureId = 0) →
        CaptureInv { v with windowId := w, resourceId := r, contextId := c, initialized := i } :=
      fun w r c i hidle => ⟨hidle, h.distinct, h.textures, h.nodup, h.hidden, h.displayed, h.node,
        h.address⟩
    have hempty : vt.resources = [] ∧ vt.contexts = [] ∧ vt.handlers = [] := by
      refine ⟨hbooks.resources.trans ?_, hbooks.contexts.trans ?_, hbooks.handlers.trans ?_⟩ <;>
        rw [hinitialized] <;> rfl
    have hnone : ∀ w r c,
        Books { v with windowId := w, resourceId := r, contextId := c, initialized := false } vt :=
      fun w r c => ⟨hempty.1, hempty.2.1, hempty.2.2, hbooks.textures⟩
    have hidle := h.idle hinitialized
    cases windowId with
    | none => exact ⟨hinv _ _ _ _ fun _ => hidle, vt, rfl, hnone _ _ _⟩
    | some windowId =>
      cases resourceId with
      | none => exact ⟨hinv _ _ _ _ fun _ => hidle, vt, rfl, hnone _ _ _⟩
      | some resourceId =>
        cases contextId with
        | none =>
          refine ⟨hinv _ _ _ _ fun _ => hidle, vt, ?_, hnone _ _ _⟩
          simp [Vt.replay, Vt.call]
        | some contextId =>
          cases region with
          | false =>
            refine ⟨hinv _ _ _ _ fun _ => hidle, vt, ?_, hnone _ _ _⟩
            simp [Vt.replay, Vt.call]
          | true =>
            cases handler with
            | false =>
              refine ⟨hinv _ _ _ _ fun _ => hidle, vt, ?_, hnone _ _ _⟩
              simp [Vt.replay, Vt.call]
            | true =>
              refine ⟨hinv _ _ _ _ (fun htrue => by cases htrue), _, rfl, ?_⟩
              refine ⟨?_, ?_, ?_, hbooks.textures⟩ <;> simp [hempty]

/-! ### Textures

A new texture takes the place of the next one, which has not been shown yet. -/

/-- The next texture is deleted, if there is one. -/
def releaseNext (v : VideoCapture) : List VtCall :=
  if v.nextTextureId ≠ 0 then [.deleteTexture v.nextTextureId] else []

/-- There is no texture 0 to erase. -/
theorem CaptureInv.erase_zero (h : CaptureInv v) : v.glTextures.erase 0 = v.glTextures :=
  List.erase_of_not_mem h.not_mem_zero

/-- The next texture is always deleted when it is asked for: it is not on screen. -/
theorem CaptureInv.deleteHidden_next (h : CaptureInv v) :
    v.deleteHidden v.nextTextureId =
      ({ v with glTextures := v.glTextures.erase v.nextTextureId }, v.releaseNext) := by
  unfold deleteHidden releaseNext
  by_cases hnext : v.nextTextureId = 0
  · have hsame : v.glTextures.erase v.nextTextureId = v.glTextures := hnext ▸ h.erase_zero
    rw [hsame, if_neg (by simp [hnext]), if_neg (not_not.mpr hnext)]
  · rw [h.glIsTexture hnext (.inr rfl), h.notDisplayed_next]
    simp [hnext, deleteTexture]

/-- The library has the next texture on its books, so that it may be deleted. -/
theorem CaptureInv.replay_releaseNext (h : CaptureInv v) (hbooks : Books v vt) :
    vt.replay v.releaseNext =
      some { vt with textures := v.glTextures.erase v.nextTextureId } := by
  unfold releaseNext
  by_cases hnext : v.nextTextureId = 0
  · have hsame : v.glTextures.erase v.nextTextureId = vt.textures := by
      rw [hnext, hbooks.textures]
      exact h.erase_zero
    rw [hsame]
    simp [hnext, Vt.replay]
  · have hmem : v.nextTextureId ∈ v.glTextures := (h.textures _).mpr ⟨hnext, .inr rfl⟩
    simp [hnext, Vt.replay, Vt.call, hmem, hbooks.textures]

/-- Without the next texture only the one on screen is left. -/
theorem CaptureInv.mem_erase_next (h : CaptureInv v) (id : Nat) :
    id ∈ v.glTextures.erase v.nextTextureId ↔ id ≠ 0 ∧ id = v.currentTextureId := by
  rw [h.nodup.mem_erase_iff, h.textures id]
  constructor
  · rintro ⟨hne, hid, hcurrent | hnext⟩
    · exact ⟨hid, hcurrent⟩
    · exact absurd hnext hne
  · rintro ⟨hid, rfl⟩
    exact ⟨Ne.symm (h.distinct hid), hid, .inl rfl⟩

/-- **Generating a texture.** The one that was next goes, and what has been generated takes its
place. If nothing has been generated, there is no next texture afterwards. -/
theorem handled_acquireVideoTexture (h : CaptureInv v) (hbooks : Books v vt)
    {generated : Option Nat}
    (hfresh : ∀ id, generated = some id → id ≠ 0 ∧ id ∉ v.glTextures.erase v.nextTextureId) :
    Handled vt (v.acquireVideoTexture generated) := by
  unfold acquireVideoTexture
  by_cases hcalled : (v.isVTAvailable && v.initialized) = true
  · have hinitialized : v.initialized = true := by
      rw [Bool.and_eq_true] at hcalled
      exact hcalled.2
    rw [if_pos hcalled, h.deleteHidden_next]
    cases generated with
    | some id =>
      -- the new texture takes the place of the one that was next
      obtain ⟨hid, hnew⟩ := hfresh id rfl
      have hcurrent : v.currentTextureId ≠ 0 → id ≠ v.currentTextureId := fun hcurrent heq =>
        hnew ((h.mem_erase_next id).mpr ⟨hid, heq⟩)
      refine ⟨⟨fun hidle => ?_, hcurrent, fun id' => ?_, ?_, h.hidden, h.displayed, h.node,
        h.address⟩, { vt with textures := id :: v.glTextures.erase v.nextTextureId }, ?_,
        hbooks.resources, hbooks.contexts, hbooks.handlers, rfl⟩
      · rw [hinitialized] at hidle
        cases hidle
      · show id' ∈ id :: v.glTextures.erase v.nextTextureId ↔ _ ∧ (_ ∨ id' = id)
        rw [List.mem_cons, h.mem_erase_next]
        constructor
        · rintro (rfl | ⟨hid', hcurrent'⟩)
          · exact ⟨hid, .inr rfl⟩
          · exact ⟨hid', .inl hcurrent'⟩
        · rintro ⟨hid', hcurrent' | hid''⟩
          · exact .inr ⟨hid', hcurrent'⟩
          · exact .inl hid''
      · exact List.nodup_cons.mpr ⟨hnew, h.nodup.erase _⟩
      · dsimp only
        rw [Vt.replay_append, h.replay_releaseNext hbooks]
        rfl
    | none =>
      refine ⟨⟨fun hidle => ?_, fun hcurrent hzero => hcurrent hzero.symm, fun id' => ?_,
        h.nodup.erase _, h.hidden, h.displayed, h.node, h.address⟩, _,
        h.replay_releaseNext hbooks, hbooks.resources, hbooks.contexts, hbooks.handlers, rfl⟩
      · rw [hinitialized] at hidle
        cases hidle
      · show id' ∈ v.glTextures.erase v.nextTextureId ↔ _ ∧ (_ ∨ id' = 0)
        rw [h.mem_erase_next]
        exact ⟨fun hid' => ⟨hid'.1, .inl hid'.2⟩,
          fun hid' => ⟨hid'.1, hid'.2.resolve_right hid'.1⟩⟩
  · rw [if_neg hcalled]
    exact h.unchanged hbooks

/-! ### Painting

A paint shows the next texture if there is one, and swaps the two ids. -/

/-- The next texture is shown, and becomes the current one. The two ids change places, so the
texture that was on screen is the next one to be filled. -/
theorem CaptureInv.showTexture_next (h : CaptureInv v) (hnext : v.nextTextureId ≠ 0) :
    (v.createTexture v.nextTextureId).showTexture ⟨v.nextAddress, v.nextTextureId⟩ =
      { v with
        currentTexture := some ⟨v.nextAddress, v.nextTextureId⟩
        nextAddress := v.nextAddress + 1
        node := some (.simpleTexture ⟨v.nextAddress, v.nextTextureId⟩)
        nextTextureId := v.currentTextureId
        currentTextureId := v.nextTextureId } := by
  -- the texture is new, so the node does not show it yet
  have hnode : (v.createTexture v.nextTextureId).node ≠
      some (.simpleTexture ⟨v.nextAddress, v.nextTextureId⟩) := fun heq => by
    have hlt := h.address _ heq
    exact Nat.lt_irrefl _ hlt
  have hlive : v.glIsTexture v.nextTextureId = true := h.glIsTexture hnext (.inr rfl)
  unfold showTexture
  rw [if_pos hnode]
  dsimp only
  rw [if_pos]
  · rfl
  · show (decide (v.nextTextureId ≠ 0) && v.glIsTexture v.nextTextureId &&
      decide (v.nextTextureId = v.nextTextureId)) = true
    simp [hnext, hlive]

/-- Showing the next texture swaps the ids; what they name is the same set. -/
theorem captureInv_showNext (h : CaptureInv v) (hnext : v.nextTextureId ≠ 0)
    (hinitialized : v.initialized = true) :
    CaptureInv ((v.createTexture v.nextTextureId).showTexture ⟨v.nextAddress, v.nextTextureId⟩) := by
  rw [h.showTexture_next hnext]
  refine ⟨fun hidle => ?_, fun _ => ?_, fun id => ?_, h.nodup, fun hzero => absurd hzero hnext,
    fun _ => ⟨_, rfl, rfl⟩, fun texture htexture => ?_, fun texture htexture => ?_⟩
  · rw [hinitialized] at hidle
    cases hidle
  · show v.currentTextureId ≠ v.nextTextureId
    by_cases hcurrent : v.currentTextureId = 0
    · rw [hcurrent]
      exact hnext.symm
    · exact (h.distinct hcurrent).symm
  · rw [h.textures id]
    exact and_congr_right fun _ => or_comm
  · cases htexture
    rfl
  · cases htexture
    exact Nat.lt_succ_self _

/-- Without a next texture there is nothing to choose: the current one is on screen. -/
theorem CaptureInv.selectTexture_of_zero (h : CaptureInv v) (hnext : v.nextTextureId = 0) :
    v.selectTexture = v := by
  unfold selectTexture
  rw [if_neg (by simp [hnext]), if_neg]
  by_cases hcurrent : v.currentTextureId = 0
  · simp [hcurrent]
  · simp [h.notDisplayed_current hcurrent]

/-- A next texture is chosen, as it is not on screen. -/
theorem CaptureInv.selectTexture_of_ne (h : CaptureInv v) (hnext : v.nextTextureId ≠ 0) :
    v.selectTexture = v.createTexture v.nextTextureId := by
  unfold selectTexture
  rw [if_pos]
  simp [hnext, h.glIsTexture hnext (.inr rfl), h.notDisplayed_next]

/-- **Painting.** If there is a next texture, it is shown; otherwise everything stays as it is,
except that an item without a texture gets a rectangle. -/
theorem captureInv_updatePaintNode (h : CaptureInv v) (visible enabled : Bool) :
    CaptureInv (v.updatePaintNode visible enabled) := by
  unfold updatePaintNode
  split
  · exact h
  · rename_i hpaint
    have hinitialized : v.initialized = true := by
      cases hinitialized : v.initialized with
      | true => rfl
      | false => simp [hinitialized] at hpaint
    -- without a next texture nothing changes on screen
    by_cases hnext : v.nextTextureId = 0
    · rw [h.selectTexture_of_zero hnext]
      dsimp only
      split
      · rename_i htexture
        refine ⟨h.idle, h.distinct, h.textures, h.nodup, h.hidden, h.displayed, ?_, ?_⟩
        · intro texture hsome
          rw [htexture] at hsome
          cases hsome
        · intro texture hsome
          cases hsome
      · rename_i texture htexture
        unfold showTexture
        rw [if_neg (not_not.mpr (h.node texture htexture))]
        exact h
    · rw [h.selectTexture_of_ne hnext]
      exact captureInv_showNext h hnext hinitialized

/-! ### Terminating

Whichever of the ids are in use, each texture is deleted once. -/

/-- The texture on screen is deleted, if there is one. -/
def releaseCurrent (v : VideoCapture) : List VtCall :=
  if v.currentTextureId ≠ 0 then [.deleteTexture v.currentTextureId] else []

/-- The two ids name all textures, so none is left without them. -/
theorem CaptureInv.erase_erase (h : CaptureInv v) :
    (v.glTextures.erase v.nextTextureId).erase v.currentTextureId = [] := by
  apply List.eq_nil_iff_forall_not_mem.mpr
  intro id hid
  obtain ⟨hne, hmem⟩ := (h.nodup.erase _).mem_erase_iff.mp hid
  exact hne ((h.mem_erase_next id).mp hmem).2

/-- If no texture is on screen, the next one is the only one. -/
theorem CaptureInv.erase_next_of_hidden (h : CaptureInv v) (hcurrent : v.currentTextureId = 0) :
    v.glTextures.erase v.nextTextureId = [] := by
  apply List.eq_nil_iff_forall_not_mem.mpr
  intro id hid
  obtain ⟨hne, hsame⟩ := (h.mem_erase_next id).mp hid
  exact hne (hsame.trans hcurrent)

/-- The texture on screen is the last one. -/
theorem CaptureInv.replay_releaseCurrent (h : CaptureInv v) :
    ({ vt with textures := v.glTextures.erase v.nextTextureId } : Vt).replay v.releaseCurrent =
      some { vt with textures := [] } := by
  have hempty := h.erase_erase
  unfold releaseCurrent
  by_cases hcurrent : v.currentTextureId = 0
  · rw [h.erase_next_of_hidden hcurrent]
    simp [hcurrent, Vt.replay]
  · have hlive : v.currentTextureId ∈ v.glTextures.erase v.nextTextureId :=
      (h.mem_erase_next _).mpr ⟨hcurrent, rfl⟩
    simp [hcurrent, Vt.replay, Vt.call, hlive, hempty]

/-- The first part of `terminate` deletes nothing: the current texture is on screen. It only
forgets the id, so that the texture is left to the third part. -/
theorem CaptureInv.terminateCurrent (h : CaptureInv v) :
    v.terminateCurrent = ({ v with currentTextureId := 0 }, []) := by
  unfold VideoCapture.terminateCurrent
  by_cases hcurrent : v.currentTextureId = 0
  · rw [if_neg (by simp [hcurrent]), ← hcurrent]
  · have hhidden : v.deleteHidden v.currentTextureId = (v, []) := by
      unfold deleteHidden
      rw [if_neg]
      simp [h.notDisplayed_current hcurrent]
    rw [hhidden, if_pos]
    simp [hcurrent, h.glIsTexture hcurrent (.inl rfl)]

/-- `deleteHidden` does not look at `currentTextureId`. -/
theorem deleteHidden_setCurrent (v : VideoCapture) (current id : Nat) :
    ({ v with currentTextureId := current } : VideoCapture).deleteHidden id =
      ({ (v.deleteHidden id).1 with currentTextureId := current }, (v.deleteHidden id).2) := by
  unfold deleteHidden
  show (if (decide (id ≠ 0) && v.glIsTexture id && v.notDisplayed id) = true then _ else _) = _
  by_cases hcond : (decide (id ≠ 0) && v.glIsTexture id && v.notDisplayed id) = true
  · rw [if_pos hcond, if_pos hcond]
    rfl
  · rw [if_neg hcond, if_neg hcond]

/-- The second part deletes the next texture. -/
theorem CaptureInv.terminateNext (h : CaptureInv v) :
    ({ v with currentTextureId := 0 } : VideoCapture).terminateNext =
      ({ v with
          currentTextureId := 0
          nextTextureId := 0
          glTextures := v.glTextures.erase v.nextTextureId }, v.releaseNext) := by
  have hhidden := deleteHidden_setCurrent v 0 v.nextTextureId
  rw [h.deleteHidden_next] at hhidden
  unfold VideoCapture.terminateNext
  by_cases hnext : v.nextTextureId = 0
  · have hsame : v.glTextures.erase v.nextTextureId = v.glTextures := hnext ▸ h.erase_zero
    rw [if_neg (by simp [hnext]), hsame, releaseNext, if_neg (not_not.mpr hnext), ← hnext]
  · dsimp only
    rw [hhidden, if_pos]
    show (decide (v.nextTextureId ≠ 0) && v.glIsTexture v.nextTextureId) = true
    simp [hnext, h.glIsTexture hnext (.inr rfl)]

/-- The third part deletes the texture on screen, and then there are none. The texture that waited
has been deleted before, and both ids are cleared. -/
theorem CaptureInv.terminateDisplayed (h : CaptureInv v) :
    ({ v with
        currentTextureId := 0
        nextTextureId := 0
        glTextures := v.glTextures.erase v.nextTextureId } : VideoCapture).terminateDisplayed =
      ({ v with
          currentTextureId := 0
          nextTextureId := 0
          currentTexture := none
          glTextures := [] }, v.releaseCurrent) := by
  have hempty := h.erase_erase
  unfold VideoCapture.terminateDisplayed releaseCurrent
  dsimp only
  by_cases hcurrent : v.currentTextureId = 0
  · rw [h.hidden hcurrent, h.erase_next_of_hidden hcurrent, if_neg (not_not.mpr hcurrent)]
  · obtain ⟨texture, htexture, hid⟩ := h.displayed hcurrent
    have hlive : v.currentTextureId ∈ v.glTextures.erase v.nextTextureId :=
      (h.mem_erase_next _).mpr ⟨hcurrent, rfl⟩
    rw [htexture]
    dsimp only
    rw [hid, if_pos, if_pos hcurrent]
    · unfold deleteTexture
      dsimp only
      rw [hempty]
    · show (decide (v.currentTextureId ≠ 0) &&
        decide (v.currentTextureId ∈ v.glTextures.erase v.nextTextureId)) = true
      simp [hcurrent, hlive]

/-- **Terminating.** The three parts delete every texture once, whichever of the ids are set, and
what else is held is given back after them. -/
theorem handled_terminate (h : CaptureInv v) (hbooks : Books v vt) : Handled vt v.terminate := by
  unfold terminate
  cases hinitialized : v.initialized with
  | false => exact h.unchanged hbooks
  | true =>
    have hresources : vt.resources = [v.resourceId] := by simp [hbooks.resources, hinitialized]
    have hcontexts : vt.contexts = [v.contextId] := by simp [hbooks.contexts, hinitialized]
    have hhandlers : vt.handlers = [v.contextId] := by simp [hbooks.handlers, hinitialized]
    simp only [Bool.not_true, Bool.false_eq_true, if_false]
    rw [h.terminateCurrent, h.terminateNext, h.terminateDisplayed]
    refine ⟨⟨fun _ => ⟨rfl, rfl⟩, fun hne => absurd rfl hne, fun id => ?_, .nil, fun _ => rfl,
      fun hne => absurd rfl hne, fun texture hsome => ?_, h.address⟩, {}, ?_, rfl, rfl, rfl, rfl⟩
    · simp
    · cases hsome
    · -- first the textures, then everything else
      simp only [List.nil_append, Vt.replay_append, h.replay_releaseNext hbooks,
        h.replay_releaseCurrent, Option.bind_some]
      simp [Vt.replay, Vt.call, hresources, hcontexts, hhandlers]

/-! ## Runs

The books of a run, by induction over the events. -/

/-- `VT_GenerateTexture` returns an id that is not zero and not in use. -/
def FreshTexture (v : VideoCapture) : CaptureEvent → Prop
  | .acquireVideoTexture (some id) =>
    v.isVTAvailable = true → v.initialized = true →
      id ≠ 0 ∧ id ∉ (v.deleteHidden v.nextTextureId).1.glTextures
  | _ => True

instance (v : VideoCapture) : DecidablePred v.FreshTexture
  | .acquireVideoTexture (some id) =>
    inferInstanceAs (Decidable (v.isVTAvailable = true → v.initialized = true →
      id ≠ 0 ∧ id ∉ (v.deleteHidden v.nextTextureId).1.glTextures))
  | .acquireVideoTexture none | .initializeCapture _ | .terminate | .onEvent _
  | .updatePaintNode _ _ => .isTrue trivial

/-- Painting touches nothing that the calls to VT and OpenGL are about. What it creates and shows
are textures of the scene graph, which are other objects. -/
theorem updatePaintNode_frame (v : VideoCapture) (visible enabled : Bool) :
    (v.updatePaintNode visible enabled).initialized = v.initialized ∧
      (v.updatePaintNode visible enabled).resourceId = v.resourceId ∧
      (v.updatePaintNode visible enabled).contextId = v.contextId ∧
      (v.updatePaintNode visible enabled).glTextures = v.glTextures := by
  have hselect : v.selectTexture = v ∨ ∃ id, v.selectTexture = v.createTexture id := by
    unfold selectTexture
    split
    · exact .inr ⟨_, rfl⟩
    · split
      · exact .inr ⟨_, rfl⟩
      · exact .inl rfl
  have hshow (w : VideoCapture) (texture : SGTexture) :
      (w.showTexture texture).initialized = w.initialized ∧
        (w.showTexture texture).resourceId = w.resourceId ∧
        (w.showTexture texture).contextId = w.contextId ∧
        (w.showTexture texture).glTextures = w.glTextures := by
    unfold showTexture
    split
    · dsimp only
      split <;> exact ⟨rfl, rfl, rfl, rfl⟩
    · exact ⟨rfl, rfl, rfl, rfl⟩
  unfold updatePaintNode
  split
  · exact ⟨rfl, rfl, rfl, rfl⟩
  · rcases hselect with hselect | ⟨id, hselect⟩ <;> rw [hselect] <;> dsimp only <;> split
    · exact ⟨rfl, rfl, rfl, rfl⟩
    · exact hshow v _
    · exact ⟨rfl, rfl, rfl, rfl⟩
    · exact hshow (v.createTexture id) _

/-- Any event is handled, if the library returns fresh textures. By cases on the event, of which the
answers of the library are a part. -/
theorem handled_handle (h : CaptureInv v) (hbooks : Books v vt) {e : CaptureEvent}
    (he : v.FreshTexture e) : Handled vt (videoCapture.handle v e) := by
  cases e with
  | initializeCapture replies => exact handled_initializeCapture h hbooks replies
  | terminate => exact handled_terminate h hbooks
  | onEvent type =>
    cases type with
    | available =>
      exact ⟨⟨h.idle, h.distinct, h.textures, h.nodup, h.hidden, h.displayed, h.node, h.address⟩,
        vt, rfl, hbooks.resources, hbooks.contexts, hbooks.handlers, hbooks.textures⟩
    | unavailable | resourceBusy => exact h.unchanged hbooks
  | updatePaintNode visible enabled =>
    have hframe := updatePaintNode_frame v visible enabled
    refine ⟨captureInv_updatePaintNode h visible enabled, vt, rfl, ?_, ?_, ?_, ?_⟩
    · exact hbooks.resources.trans (by rw [← hframe.1, ← hframe.2.1]; rfl)
    · exact hbooks.contexts.trans (by rw [← hframe.1, ← hframe.2.2.1]; rfl)
    · exact hbooks.handlers.trans (by rw [← hframe.1, ← hframe.2.2.1]; rfl)
    · exact hbooks.textures.trans hframe.2.2.2.symm
  | acquireVideoTexture generated =>
    by_cases hcalled : (v.isVTAvailable && v.initialized) = true
    · rw [Bool.and_eq_true] at hcalled
      apply handled_acquireVideoTexture h hbooks
      rintro id rfl
      have hfresh := he hcalled.1 hcalled.2
      rwa [h.deleteHidden_next] at hfresh
    · show Handled vt (v.acquireVideoTexture generated)
      rw [acquireVideoTexture, if_neg hcalled]
      exact h.unchanged hbooks

/-- What is known of an item and of the calls it has made. -/
structure HistoryInv (h : CaptureHistory) : Prop where
  item : CaptureInv h.state
  books : ∃ vt, ({} : Vt).replay h.outputs = some vt ∧ Books h.state vt

/-- A new item holds nothing, and has called nothing. -/
theorem historyInv_init : HistoryInv (.init {}) where
  item := ⟨fun _ => ⟨rfl, rfl⟩, fun hne => absurd rfl hne, fun id => by simp [History.init], .nil,
    fun _ => rfl, fun hne => absurd rfl hne, fun _ hsome => absurd hsome (by simp [History.init]),
    fun _ hsome => absurd hsome (by simp [History.init])⟩
  books := ⟨{}, rfl, rfl, rfl, rfl, rfl⟩

/-- The calls of the event come behind those made before. -/
theorem historyInv_step (h : CaptureHistory) (e : CaptureEvent) (hinv : HistoryInv h)
    (he : h.state.FreshTexture e) : HistoryInv (videoCapture.step h e) := by
  obtain ⟨vt, hreplay, hbooks⟩ := hinv.books
  have hhandled := handled_handle hinv.item hbooks he
  obtain ⟨vt', hreplay', hbooks'⟩ := hhandled.books
  refine ⟨hhandled.inv, vt', ?_, hbooks'⟩
  rw [Machine.step_outputs, Vt.replay_append, hreplay]
  exact hreplay'

/-- The calls made so far release nothing that is not held, and leave outstanding what the item
names. -/
structure Released (h : CaptureHistory) : Prop where
  /-- What the item names is what is outstanding, each once. -/
  books : ∃ vt, ({} : Vt).replay h.outputs = some vt ∧
    vt.contexts.length = (if h.state.initialized then 1 else 0) ∧
    vt.resources.length = (if h.state.initialized then 1 else 0) ∧
    vt.handlers.length = (if h.state.initialized then 1 else 0) ∧
    vt.textures.Nodup ∧
    ∀ id, id ∈ vt.textures ↔
      id ≠ 0 ∧ (id = h.state.currentTextureId ∨ id = h.state.nextTextureId)
  /-- Only the current texture may be on screen. -/
  displayed : ∀ texture, h.state.currentTexture = some texture →
    texture.textureId = h.state.currentTextureId

/-- What the item names is on the books, so the invariant gives the numbers of everything. -/
theorem HistoryInv.released {h : CaptureHistory} (hinv : HistoryInv h) : Released h where
  books := by
    obtain ⟨vt, hreplay, hbooks⟩ := hinv.books
    refine ⟨vt, hreplay, ?_, ?_, ?_, hbooks.textures ▸ hinv.item.nodup,
      hbooks.textures ▸ hinv.item.textures⟩
    · rw [hbooks.contexts]
      split <;> rfl
    · rw [hbooks.resources]
      split <;> rfl
    · rw [hbooks.handlers]
      split <;> rfl
  displayed texture hsome := by
    by_cases hcurrent : h.state.currentTextureId = 0
    · rw [hinv.item.hidden hcurrent] at hsome
      cases hsome
    · obtain ⟨texture', htexture', hid⟩ := hinv.item.displayed hcurrent
      rw [hsome] at htexture'
      cases htexture'
      exact hid

/-- Initializing deletes no texture. -/
theorem deleteTexture_not_mem_initializeCapture (v : VideoCapture) (replies : InitializeReplies)
    (id : Nat) : .deleteTexture id ∉ (v.initializeCapture replies).2 := by
  fun_cases v.initializeCapture replies <;> simp +zetaDelta

/-- Only `acquireVideoTexture` and `terminate` delete textures, and the former not the one on
screen. -/
theorem notDisplayed_of_delete {e : CaptureEvent} (hterminate : e ≠ .terminate) {id : Nat}
    (hdelete : .deleteTexture id ∈ (videoCapture.handle v e).2) :
    ∀ texture, v.currentTexture = some texture → texture.textureId ≠ id := by
  cases e with
  | terminate => exact absurd rfl hterminate
  | onEvent | updatePaintNode => cases hdelete
  | initializeCapture replies =>
    exact absurd hdelete (deleteTexture_not_mem_initializeCapture v replies id)
  | acquireVideoTexture generated =>
    have hhidden : .deleteTexture id ∈ (v.deleteHidden v.nextTextureId).2 := by
      change .deleteTexture id ∈ (v.acquireVideoTexture generated).2 at hdelete
      unfold acquireVideoTexture at hdelete
      split at hdelete
      · cases generated <;> simpa using hdelete
      · cases hdelete
    -- that is what the guard is for
    intro texture htexture heq
    unfold deleteHidden at hhidden
    split at hhidden
    · rename_i hcond
      simp only [deleteTexture, List.mem_singleton, VtCall.deleteTexture.injEq] at hhidden
      rw [← hhidden, ← heq] at hcond
      simp [notDisplayed, htexture] at hcond
    · cases hhidden

/-- **Everything is released once.** In every run in which the library returns fresh textures, no
call releases what is not held; contexts, window resources and event handlers are outstanding one
each while the item is initialized and not otherwise, the textures outstanding are those the item
names, and the one on screen is the current one. Only `terminate` deletes the texture on screen, and
it leaves none. -/
theorem resources_released (es : List CaptureEvent)
    (hes : videoCapture.Admits (fun h e => h.state.FreshTexture e) (.init {}) es) :
    videoCapture.Always Released (.init {}) es ∧
      (∀ fs e gs id, es = fs ++ e :: gs → e ≠ .terminate →
        .deleteTexture id ∈ (videoCapture.handle (videoCapture.run (.init {}) fs).state e).2 →
        ∀ texture, (videoCapture.run (.init {}) fs).state.currentTexture = some texture →
          texture.textureId ≠ id) ∧
      ∀ fs gs, es = fs ++ .terminate :: gs →
        ∀ vt, ({} : Vt).replay (videoCapture.run (.init {}) (fs ++ [.terminate])).outputs = some vt →
          vt.textures = [] := by
  have hall := Machine.always_of_admits historyInv_step historyInv_init hes
  refine ⟨hall.mono fun _ => HistoryInv.released, ?_, ?_⟩
  · rintro fs e gs id - hterminate hdelete
    exact notDisplayed_of_delete hterminate hdelete
  · rintro fs gs rfl vt hreplay
    have hinv : HistoryInv (videoCapture.run (.init {}) (fs ++ [.terminate])) :=
      Machine.always_iff_boundaries.mp hall _ ⟨gs, by simp⟩
    obtain ⟨vt', hreplay', hbooks⟩ := hinv.books
    rw [hreplay] at hreplay'
    cases hreplay'
    -- an item that is not initialized names no texture
    have hidle : (videoCapture.run (.init {}) (fs ++ [.terminate])).state.initialized = false := by
      rw [Machine.run_append]
      show (terminate _).1.initialized = false
      unfold terminate
      split
      · rename_i hinitialized
        simpa using hinitialized
      · rfl
    obtain ⟨hcurrent, hnext⟩ := hinv.item.idle hidle
    rw [hbooks.textures]
    apply List.eq_nil_iff_forall_not_mem.mpr
    intro id hid
    obtain ⟨hne, hid⟩ := (hinv.item.textures id).mp hid
    rw [hcurrent, hnext, or_self] at hid
    exact hne hid

/-- Three frames are generated and two of them painted; then the item is disabled. -/
def threeFrames : List CaptureEvent :=
  [.initializeCapture ⟨some 1, some 2, none, true, true⟩,
    .initializeCapture ⟨some 1, some 2, some 3, true, true⟩,
    .onEvent .available, .acquireVideoTexture (some 5), .updatePaintNode true true,
    .onEvent .available, .acquireVideoTexture (some 6), .onEvent .available,
    .acquireVideoTexture (some 7), .updatePaintNode true true, .onEvent .available,
    .acquireVideoTexture none, .terminate]

/-- The second frame is never painted: it is deleted as the third one is generated. -/
theorem resources_released_threeFrames :
    videoCapture.Always Released (.init {}) threeFrames ∧
      ∀ vt, ({} : Vt).replay (videoCapture.run (.init {}) threeFrames).outputs = some vt →
        vt.textures = [] :=
  have h := resources_released threeFrames (by decide)
  ⟨h.1, h.2.2 threeFrames.dropLast [] rfl⟩

end VideoCapture

end Eos
