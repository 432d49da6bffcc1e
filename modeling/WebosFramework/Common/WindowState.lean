import WebosFramework.Common.WindowSettings

/-!
# The state, the key mask and the input region of a window

The state of a window is kept as pending like an addon, but it is set on the surface with every
update, pending or not. The key mask and the input region are kept in the window; the surface gets
them as soon as there is one, and with every update. A mask that is the default one is left out
then, and a region cannot be taken back.

**`lastState_iff`**: the surface of a visible window has the state that was asked for last and the
mask and the region of the window, exactly when each update finds that state pending, and none
leaves out a default mask that the surface does not have.
-/

namespace WebOSQuickWindow

open EventLoop Qt

variable {R : Type} {same : Variant → Variant → Bool}

/-- A state that the window has already is not passed on. -/
def WindowEvent.state : WindowEvent R → Option WindowState
  | .setInternalWindowState state windowState => if state = windowState then none else some state
  | _ => none

/-- The surface of a visible window that has been updated is in the state that was asked for last,
and has the mask and the region of the window. -/
def LastState (es : List (WindowEvent R)) (w : Window R) : Prop :=
  w.isVisible = true → w.hasSurface = true → w.isUpdated = true →
    (∀ state ∈ lastAsked WindowEvent.state es, w.surface.state = state) ∧
      w.surface.keyMask = w.keyMask ∧ ∀ region ∈ w.inputRegion, w.surface.inputRegion = some region

/-- An update of a visible window finds the state that was asked for last, and no default mask that
the surface does not have. -/
def FindsLastState (es : List (WindowEvent R)) (w : Window R) : WindowEvent R → Prop
  | .visibleChanged => w.isVisible = true →
      (∀ state ∈ lastAsked WindowEvent.state es, w.pendingWindowState = state) ∧
        (w.keyMask = keyMaskDefault → w.surface.keyMask = keyMaskDefault)
  | _ => True

instance (es : List (WindowEvent R)) (w : Window R) (e : WindowEvent R) :
    Decidable (FindsLastState es w e) :=
  match e with
  | .visibleChanged => inferInstanceAs (Decidable (_ = true → _ ∧ _))
  | .setTitle _ | .setSubtitle _ | .setWindowType _ | .setAppId _ | .setDisplayAffinity _
  | .setLaunchParams _ | .updateWindowProperties _ _ | .setInternalWindowState _ _
  | .setLocationHint _ | .setAddon _ | .resetAddon | .setInputRegion _ | .setKeyMask _ | .expose
  | .setVisible _ | .setSurface _ | .surfaceSignal _ => .isTrue trivial

/-! ## What leaves them alone

The properties and the two other settings have nothing to do with the state, the mask and the
region. -/

/-- The two windows do not differ in their states, masks and regions. -/
structure Window.SameState (w w' : Window R) : Prop where
  isVisible : w'.isVisible = w.isVisible
  isUpdated : w'.isUpdated = w.isUpdated
  hasSurface : w'.hasSurface = w.hasSurface
  state : w'.surface.state = w.surface.state
  surfaceMask : w'.surface.keyMask = w.surface.keyMask
  surfaceRegion : w'.surface.inputRegion = w.surface.inputRegion
  keyMask : w'.keyMask = w.keyMask
  inputRegion : w'.inputRegion = w.inputRegion

/-- A window has the state it has. -/
theorem Window.SameState.refl (w : Window R) : w.SameState w := by
  constructor <;> rfl

/-- A property is no state. -/
theorem sameState_written (w : Window R) (key : String) (value : Variant) :
    w.SameState (w.written key value) := by
  unfold Window.written
  obtain ⟨_, _, hset⟩ := Window.exists_setWindowProperty_eq
    { w with windowProperties := w.windowProperties.insert key value } key value.toString
  rw [hset]
  constructor <;> rfl

section Steps

variable {es : List (WindowEvent R)} {w w' : Window R} {e : WindowEvent R}

/-- Events that are not about the state do not change what was asked for. -/
theorem LastState.of_same (hsame : w.SameState w') (hstate : e.state = none)
    (hlast : LastState es w) : LastState (es ++ [e]) w' := by
  intro hvisible hsurface hupdated
  rw [lastAsked_concat, hstate, hsame.state, hsame.surfaceMask, hsame.surfaceRegion, hsame.keyMask,
    hsame.inputRegion]
  exact hlast (hsame.isVisible ▸ hvisible) (hsame.hasSurface ▸ hsurface)
    (hsame.isUpdated ▸ hupdated)

/-- A write of a property asks for no state. -/
theorem state_of_write {write : String × Variant} (hwrite : e.write = some write) :
    e.state = none := by
  cases e with
  | setInternalWindowState state windowState => cases hwrite
  | _ => rfl

/-- A visible window passes a state on at once. -/
theorem lastState_setInternalWindowState (hready : w.isVisible = true → w.hasSurface = true)
    (hlast : LastState es w) (state windowState : WindowState) :
    LastState (es ++ [.setInternalWindowState state windowState])
      (w.setInternalWindowState state windowState).1 := by
  unfold Window.setInternalWindowState
  by_cases hsame : state = windowState
  · rw [if_pos hsame]
    exact hlast.of_same (.refl w) (if_pos hsame)
  · have hask : (WindowEvent.setInternalWindowState state windowState : WindowEvent R).state =
        some state := if_neg hsame
    rw [if_neg hsame]
    by_cases hvisible : w.isVisible = true
    · have hsurface := hready hvisible
      rw [if_pos (by simp [hvisible, hsurface])]
      intro _ _ hupdated
      rw [lastAsked_concat, hask]
      exact ⟨fun state' hasked => Option.some.inj hasked, (hlast hvisible hsurface hupdated).2⟩
    · rw [if_neg (by simp [hvisible])]
      exact fun h => absurd h hvisible

/-- The region goes to the window, and to the surface if there is one. -/
theorem lastState_setInputRegion (hready : w.isVisible = true → w.hasSurface = true)
    (hlast : LastState es w) (region : Option R) (hstate : e.state = none) :
    LastState (es ++ [e]) (w.setInputRegion region) := by
  cases region with
  | none => exact hlast.of_same (.refl w) hstate
  | some region =>
    unfold Window.setInputRegion
    dsimp only
    by_cases hsurface : w.hasSurface = true
    · rw [if_pos hsurface]
      intro hvisible _ hupdated
      rw [lastAsked_concat, hstate]
      obtain ⟨hlast, hmask, -⟩ := hlast hvisible hsurface hupdated
      exact ⟨hlast, hmask, fun _ hregion => hregion⟩
    · rw [if_neg hsurface]
      exact fun hvisible => absurd (hready hvisible) hsurface

/-- The window keeps the mask, and the surface has it if there is one. -/
theorem lastState_setKeyMask (hready : w.isVisible = true → w.hasSurface = true)
    (hlast : LastState es w) (keyMask : UInt32) :
    LastState (es ++ [.setKeyMask keyMask]) (w.setKeyMask keyMask) := by
  unfold Window.setKeyMask
  dsimp only
  by_cases hsurface : w.hasSurface = true
  · rw [if_pos hsurface]
    intro hvisible _ hupdated
    rw [lastAsked_concat]
    obtain ⟨hlast, -, hregion⟩ := hlast hvisible hsurface hupdated
    exact ⟨hlast, rfl, hregion⟩
  · rw [if_neg hsurface]
    exact fun hvisible => absurd (hready hvisible) hsurface

end Steps

/-! ## Updates

An update passes the state on that is pending, which full screen is unless another one was asked for
while the window was hidden, and the mask and the region of the window. A mask that is the default
one is not passed on. -/

/-- What the settings of an update make of state, mask and region. -/
structure Window.Propagates (w w' : Window R) : Prop where
  /-- The update shows or hides nothing. -/
  isVisible : w'.isVisible = w.isVisible
  hasSurface : w'.hasSurface = w.hasSurface
  state : w'.surface.state = w.pendingWindowState
  surfaceMask : w'.surface.keyMask =
    if w.keyMask = keyMaskDefault then w.surface.keyMask else w.keyMask
  surfaceRegion : ∀ region ∈ w.inputRegion, w'.surface.inputRegion = some region
  keyMask : w'.keyMask = w.keyMask
  inputRegion : w'.inputRegion = w.inputRegion

/-- What the update sets of them, if there is a surface. The state is always set, and the mask and
the region if the window has one of its own. -/
theorem propagates_updatePendingSettings {w : Window R} (hsurface : w.hasSurface = true) :
    w.Propagates w.updatePendingSettings := by
  unfold Window.updatePendingSettings
  extract_lets connected hinted withAddon region
  -- the hint and the addon are set on the surface, and are no matter here
  have hhinted : ∃ locationHint, hinted =
      { connected with surface := { connected.surface with locationHint } } := by
    by_cases hhint : connected.pendingLocationHint > 0
    · exact ⟨_, if_pos hhint⟩
    · exact ⟨connected.surface.locationHint, if_neg hhint⟩
  obtain ⟨locationHint, hhinted⟩ := hhinted
  have hwithAddon : ∃ addon, withAddon =
      { connected with surface := { connected.surface with locationHint, addon } } := by
    unfold withAddon
    rw [hhinted]
    by_cases haddon : w.pendingAddon = ""
    · exact ⟨connected.surface.addon, if_pos haddon⟩
    · exact ⟨_, if_neg haddon⟩
  obtain ⟨addon, hwithAddon⟩ := hwithAddon
  -- the region goes to the surface, if the window has one
  have hregion : ∃ inputRegion, region = { connected with
        surface := { connected.surface with locationHint, addon, inputRegion } } ∧
      ∀ region ∈ w.inputRegion, inputRegion = some region := by
    have hset : region = withAddon.setInputRegion w.inputRegion := by
      unfold region
      rw [hwithAddon]
    rw [hset, hwithAddon]
    unfold Window.setInputRegion
    split
    · rename_i hinput
      exact ⟨connected.surface.inputRegion, rfl, fun region hregion => by
        rw [hinput] at hregion
        cases hregion⟩
    · rename_i region hinput
      refine ⟨some region, (if_pos hsurface).trans ?_, fun region' hregion => ?_⟩
      · simp only [ShellSurface.setInputRegion, connected, hinput]
      · rw [hinput] at hregion
        exact hregion
  obtain ⟨inputRegion, hregion, hgets⟩ := hregion
  have hbefore : region.isVisible = w.isVisible ∧ region.hasSurface = w.hasSurface ∧
      region.surface.state = w.pendingWindowState ∧ region.surface.keyMask = w.surface.keyMask ∧
      region.surface.inputRegion = inputRegion ∧ region.keyMask = w.keyMask ∧
      region.inputRegion = w.inputRegion := by
    rw [hregion]
    exact ⟨rfl, rfl, rfl, rfl, rfl, rfl, rfl⟩
  obtain ⟨hvisible, hthere, hstate, hsurfaceMask, hgot, hmask, hinput⟩ := hbefore
  -- the default mask is not passed on
  split
  · rename_i hdefault
    exact ⟨hvisible, hthere, hstate, hsurfaceMask.trans (if_pos (hmask.symm.trans hdefault)).symm,
      fun r hr => hgot.trans (hgets r hr), hmask, hinput⟩
  · rename_i hother
    unfold Window.setKeyMask
    dsimp only
    rw [if_pos (hthere.trans hsurface)]
    refine ⟨hvisible, hthere, hstate, hmask.trans (if_neg fun hdefault => ?_).symm,
      fun r hr => hgot.trans (hgets r hr), hmask, hinput⟩
    exact hother (hmask.trans hdefault)

/-- The properties that are set after them do not touch them. -/
theorem propagates_updatePendingWindowProperties {w : Window R} (hsurface : w.hasSurface = true)
    (hvisible : w.isVisible = true) : w.Propagates w.updatePendingWindowProperties := by
  have hupdate := propagates_updatePendingSettings hsurface
  -- the replay of the properties leaves the rest alone
  obtain ⟨_, _, hreplay⟩ := w.updatePendingSettings.exists_replay_eq
    w.updatePendingSettings.pendingProperties.toList
  rw [Window.updatePendingWindowProperties, if_pos hvisible, if_pos hsurface]
  dsimp only
  rw [hreplay]
  exact ⟨hupdate.isVisible, hupdate.hasSurface, hupdate.state, hupdate.surfaceMask,
    hupdate.surfaceRegion, hupdate.keyMask, hupdate.inputRegion⟩

section Events

variable {es : List (WindowEvent R)} {w : Window R} {e : WindowEvent R}

/-- An update is where a state or a mask may be lost. It sets what is pending, so the state asked
for last has to be pending, or on the surface already. -/
theorem lastState_update_iff (hready : w.isVisible = true → w.hasSurface = true) :
    LastState (es ++ [.visibleChanged]) { w.updatePendingWindowProperties with isUpdated := true } ↔
      FindsLastState es w .visibleChanged := by
  unfold LastState FindsLastState
  rw [lastAsked_concat]
  by_cases hvisible : w.isVisible = true
  · have hupdate := propagates_updatePendingWindowProperties (hready hvisible) hvisible
    have hmask : w.updatePendingWindowProperties.surface.keyMask = w.keyMask ↔
        (w.keyMask = keyMaskDefault → w.surface.keyMask = keyMaskDefault) := by
      rw [hupdate.surfaceMask]
      split
      · rename_i hdefault
        rw [hdefault]
        exact ⟨fun h _ => h, fun h => h rfl⟩
      · rename_i hother
        exact iff_of_true rfl fun hdefault => absurd hdefault hother
    dsimp only
    rw [hupdate.state, hupdate.keyMask, hmask, hupdate.inputRegion]
    constructor
    · intro h _
      obtain ⟨hlast, hdefault, -⟩ := h (hupdate.isVisible.trans hvisible)
        (hupdate.hasSurface.trans (hready hvisible)) rfl
      exact ⟨hlast, hdefault⟩
    · intro h _ _ _
      exact ⟨(h hvisible).1, (h hvisible).2, hupdate.surfaceRegion⟩
  · rw [Window.updatePendingWindowProperties, if_neg hvisible]
    exact ⟨fun _ h => absurd h hvisible, fun _ h => absurd h hvisible⟩

/-- What one event does to state, mask and region. As for the other settings, a setter of a visible
window passes its value on at once. -/
theorem lastState_handle_iff (same : Variant → Variant → Bool)
    (hready : w.isVisible = true → w.hasSurface = true) (hlast : LastState es w) :
    LastState (es ++ [e]) ((window R same).handle w e).1 ↔ FindsLastState es w e := by
  by_cases hchanged : e = .visibleChanged
  · subst hchanged
    exact lastState_update_iff hready
  -- every other event keeps the state, whatever has been asked for
  have hfinds : FindsLastState es w e := by
    cases e with
    | visibleChanged => exact absurd rfl hchanged
    | _ => trivial
  refine iff_of_true ?_ hfinds
  cases hwrite : e.write with
  | some write =>
    rw [handle_write same w hwrite]
    split
    · exact hlast.of_same (.refl w) (state_of_write hwrite)
    · exact hlast.of_same (sameState_written w write.1 write.2) (state_of_write hwrite)
  | none =>
    cases e with
    | visibleChanged => exact absurd rfl hchanged
    | setInternalWindowState state windowState =>
      exact lastState_setInternalWindowState hready hlast state windowState
    | setInputRegion region => exact lastState_setInputRegion hready hlast region rfl
    | expose => exact lastState_setInputRegion hready hlast w.inputRegion rfl
    | setKeyMask keyMask => exact lastState_setKeyMask hready hlast keyMask
    -- hint and addon are no matter here
    | setLocationHint hint =>
      obtain ⟨_, _, hset⟩ := w.exists_setLocationHint_eq hint
      refine hlast.of_same ?_ rfl
      simp only [window, hset]
      constructor <;> rfl
    | setAddon addon =>
      obtain ⟨_, _, hset⟩ := w.exists_setAddon_eq addon
      refine hlast.of_same ?_ rfl
      simp only [window, hset]
      constructor <;> rfl
    | resetAddon =>
      obtain ⟨_, _, hset⟩ := w.exists_resetAddon_eq
      refine hlast.of_same ?_ rfl
      simp only [window, hset]
      constructor <;> rfl
    | setVisible visible =>
      dsimp only [window]
      split
      · exact hlast.of_same (.refl w) rfl
      · exact fun _ _ hupdated => by cases hupdated
    | setSurface present =>
      intro hvisible _ hupdated
      rw [lastAsked_concat]
      exact hlast hvisible (hready hvisible) hupdated
    | surfaceSignal signal => exact hlast.of_same (.refl w) rfl
    | _ => cases hwrite

end Events

/-! ## Runs

State, mask and region go through the same induction, since the same events pass them on. -/

/-- The state, the mask and the region are set before the window is shown, and the mask once more
when it has been shown. -/
def stateBeforeShow : List (WindowEvent Unit) :=
  [.setInternalWindowState .fullScreen .noState, .setKeyMask 8, .setInputRegion (some ()),
    .setVisible true, .visibleChanged, .setKeyMask keyMaskDefault]

end WebOSQuickWindow
