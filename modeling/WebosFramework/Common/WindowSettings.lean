import WebosFramework.Common.WindowProperties

/-!
# The addon and the location hint of a window

Both are kept as pending while they cannot be set on the shell surface, and an update sets what is
pending. The empty addon and the undefined hint are values, and they also stand for "nothing is
pending". So a setting that is cleared while the window is hidden is not cleared on the surface, and
one that has been pending once comes back with every update.

**`lastSettings_iff`**: the surface of a visible window has the addon and the hint that were asked
for last, exactly when each update finds these in what it is going to set.
-/

namespace WebOSQuickWindow

open EventLoop Qt

variable {R : Type} {same : Variant → Variant → Bool}

/-- The addon an event asks for. -/
def WindowEvent.addon : WindowEvent R → Option String
  | .setAddon addon => some addon
  | .resetAddon => some ""
  | _ => none

/-- The location hint an event asks for. -/
def WindowEvent.locationHint : WindowEvent R → Option Nat
  | .setLocationHint hint => some hint
  | _ => none

/-- What was asked for last. -/
def lastAsked {α : Type} (asks : WindowEvent R → Option α) (es : List (WindowEvent R)) : Option α :=
  (es.filterMap asks).getLast?

/-- One more request is the last one, if it is one. -/
theorem lastAsked_concat {α : Type} (asks : WindowEvent R → Option α) (es : List (WindowEvent R))
    (e : WindowEvent R) : lastAsked asks (es ++ [e]) = (asks e).or (lastAsked asks es) := by
  unfold lastAsked
  rw [List.filterMap_append]
  cases hask : asks e with
  | none => simp [hask]
  | some a => simp [hask]

/-- The surface of a visible window that has been updated has the settings that were asked for
last. -/
def LastSettings (es : List (WindowEvent R)) (w : Window R) : Prop :=
  w.isVisible = true → w.hasSurface = true → w.isUpdated = true →
    (∀ addon ∈ lastAsked WindowEvent.addon es, w.surface.addon = addon) ∧
      ∀ hint ∈ lastAsked WindowEvent.locationHint es, w.surface.locationHint = hint

/-- The addon after an update: the pending one, and where there is none the one of the surface. -/
def Window.nextAddon (w : Window R) : String :=
  if w.pendingAddon = "" then w.surface.addon else w.pendingAddon

/-- The hint that the surface has after an update. -/
def Window.nextLocationHint (w : Window R) : Nat :=
  if w.pendingLocationHint > 0 then w.pendingLocationHint else w.surface.locationHint

/-- An update of a visible window finds the settings that were asked for last. -/
def FindsLastSettings (es : List (WindowEvent R)) (w : Window R) : WindowEvent R → Prop
  | .visibleChanged => w.isVisible = true →
      (∀ addon ∈ lastAsked WindowEvent.addon es, w.nextAddon = addon) ∧
        ∀ hint ∈ lastAsked WindowEvent.locationHint es, w.nextLocationHint = hint
  | _ => True

instance (es : List (WindowEvent R)) (w : Window R) : Decidable (LastSettings es w) := by
  unfold LastSettings
  infer_instance

instance (es : List (WindowEvent R)) (w : Window R) (e : WindowEvent R) :
    Decidable (FindsLastSettings es w e) :=
  match e with
  | .visibleChanged => inferInstanceAs (Decidable (_ = true → _ ∧ _))
  | .setTitle _ | .setSubtitle _ | .setWindowType _ | .setAppId _ | .setDisplayAffinity _
  | .setLaunchParams _ | .updateWindowProperties _ _ | .setInternalWindowState _ _
  | .setLocationHint _ | .setAddon _ | .resetAddon | .setInputRegion _ | .setKeyMask _ | .expose
  | .setVisible _ | .setSurface _ | .surfaceSignal _ => .isTrue trivial

/-! ## What leaves the settings alone

The properties and the region have nothing to do with the addon and the location hint. -/

/-- The two windows do not differ in what their settings look like. -/
structure Window.SameSettings (w w' : Window R) : Prop where
  isVisible : w'.isVisible = w.isVisible
  isUpdated : w'.isUpdated = w.isUpdated
  hasSurface : w'.hasSurface = w.hasSurface
  addon : w'.surface.addon = w.surface.addon
  locationHint : w'.surface.locationHint = w.surface.locationHint

/-- A window has the settings it has. -/
theorem Window.SameSettings.refl (w : Window R) : w.SameSettings w := by
  constructor <;> rfl

/-- A property is no setting. -/
theorem sameSettings_written (w : Window R) (key : String) (value : Variant) :
    w.SameSettings (w.written key value) := by
  unfold Window.written
  obtain ⟨_, _, hset⟩ := Window.exists_setWindowProperty_eq
    { w with windowProperties := w.windowProperties.insert key value } key value.toString
  rw [hset]
  constructor <;> rfl

/-- An input region is none of the two settings. -/
theorem sameSettings_setInputRegion (w : Window R) (region : Option R) :
    w.SameSettings (w.setInputRegion region) := by
  obtain ⟨_, _, hset⟩ := w.exists_setInputRegion_eq region
  rw [hset]
  constructor <;> rfl

/-- The events that are about neither the settings nor the surface nor the visibility. Properties
and regions are set by the same functions, but kept elsewhere. -/
theorem sameSettings_handle (same : Variant → Variant → Bool) (w : Window R) {e : WindowEvent R}
    (haddon : e.addon = none) (hhint : e.locationHint = none)
    (hvisible : ∀ visible, e ≠ .setVisible visible) (hchanged : e ≠ .visibleChanged)
    (hsurface : ∀ present, e ≠ .setSurface present) :
    w.SameSettings ((window R same).handle w e).1 := by
  -- a write of a property, if the event is one
  cases hwrite : e.write with
  | some write =>
    rw [handle_write same w hwrite]
    split
    · exact .refl w
    · exact sameSettings_written w write.1 write.2
  | none =>
    cases e with
    | setInternalWindowState state windowState =>
      obtain ⟨_, _, hset⟩ := w.exists_setInternalWindowState_eq state windowState
      simp only [window, hset]
      constructor <;> rfl
    | setInputRegion region => exact sameSettings_setInputRegion w region
    | setKeyMask keyMask =>
      obtain ⟨_, hset⟩ := w.exists_setKeyMask_eq keyMask
      simp only [window, hset]
      constructor <;> rfl
    | expose => exact sameSettings_setInputRegion w w.inputRegion
    | surfaceSignal signal => exact .refl w
    -- the events that have lemmas of their own
    | setLocationHint hint => cases hhint
    | setAddon addon => cases haddon
    | resetAddon => cases haddon
    | setVisible visible => exact absurd rfl (hvisible visible)
    | visibleChanged => exact absurd rfl hchanged
    | setSurface present => exact absurd rfl (hsurface present)
    | _ => cases hwrite

/-! ## Updates

An update of a visible window passes on what is pending. Where nothing is pending it passes on
nothing, also if something had been set before. -/

/-- An update of a visible window sets what is pending, and where nothing is it sets nothing. -/
theorem settings_updatePendingWindowProperties {w : Window R} (hsurface : w.hasSurface = true)
    (hvisible : w.isVisible = true) :
    w.updatePendingWindowProperties.isVisible = true ∧
      w.updatePendingWindowProperties.hasSurface = true ∧
      w.updatePendingWindowProperties.surface.addon = w.nextAddon ∧
      w.updatePendingWindowProperties.surface.locationHint = w.nextLocationHint := by
  obtain ⟨-, hvisible', hsurface', -⟩ := updatePendingWindowProperties_of_visible hsurface hvisible
  refine ⟨hvisible', hsurface', ?_⟩
  -- the settings are set first; the replay of the properties leaves them alone
  obtain ⟨surface, _, hupdate, -, haddon, hhint⟩ := w.exists_updatePendingSettings_eq
  obtain ⟨_, _, hreplay⟩ := w.updatePendingSettings.exists_replay_eq
    w.updatePendingSettings.pendingProperties.toList
  rw [Window.updatePendingWindowProperties, if_pos hvisible, if_pos hsurface]
  dsimp only
  rw [hreplay, hupdate]
  exact ⟨haddon, hhint⟩

section Steps

variable {es : List (WindowEvent R)} {w w' : Window R} {e : WindowEvent R}

/-- Events that are about neither setting do not change what was asked for. -/
theorem LastSettings.of_same (hsame : w.SameSettings w') (haddon : e.addon = none)
    (hhint : e.locationHint = none) (hlast : LastSettings es w) :
    LastSettings (es ++ [e]) w' := by
  intro hvisible hsurface hupdated
  rw [lastAsked_concat, lastAsked_concat, haddon, hhint, hsame.addon, hsame.locationHint]
  exact hlast (hsame.isVisible ▸ hvisible) (hsame.hasSurface ▸ hsurface)
    (hsame.isUpdated ▸ hupdated)

/-- A visible window sets the addon at once. A hidden one keeps it until it is shown, and nothing is
said of it up to then. -/
theorem lastSettings_setAddon (hready : w.isVisible = true → w.hasSurface = true)
    (hlast : LastSettings es w) (addon : String) :
    LastSettings (es ++ [.setAddon addon]) (w.setAddon addon) := by
  unfold Window.setAddon
  by_cases hvisible : w.isVisible = true
  · have hsurface := hready hvisible
    rw [if_pos (by simp [hvisible, hsurface])]
    have hset : LastSettings (es ++ [.setAddon addon])
        { w with surface := w.surface.setAddon addon } := by
      intro _ _ hupdated
      rw [lastAsked_concat, lastAsked_concat]
      refine ⟨fun addon' hasked => Option.some.inj hasked, ?_⟩
      exact (hlast hvisible hsurface hupdated).2
    split
    · -- resetting sets the empty addon
      rename_i hempty
      subst hempty
      exact hset
    · exact hset
  · rw [if_neg (by simp [hvisible])]
    exact fun h => absurd h hvisible

/-- Resetting the addon asks for the empty one, and sets it if there is a surface. -/
theorem lastSettings_resetAddon (hready : w.isVisible = true → w.hasSurface = true)
    (hlast : LastSettings es w) :
    LastSettings (es ++ [.resetAddon]) w.resetAddon := by
  unfold Window.resetAddon
  split
  · intro hvisible hsurface hupdated
    rw [lastAsked_concat, lastAsked_concat]
    refine ⟨fun addon hasked => Option.some.inj hasked, ?_⟩
    exact (hlast hvisible hsurface hupdated).2
  · -- without a surface the window is hidden
    rename_i hgone
    exact fun hvisible => absurd (hready hvisible) hgone

/-- A hint is set at once on a visible window. -/
theorem lastSettings_setLocationHint (hready : w.isVisible = true → w.hasSurface = true)
    (hlast : LastSettings es w) (hint : Nat) :
    LastSettings (es ++ [.setLocationHint hint]) (w.setLocationHint hint) := by
  unfold Window.setLocationHint
  by_cases hvisible : w.isVisible = true
  · have hsurface := hready hvisible
    rw [if_pos (by simp [hvisible, hsurface])]
    intro _ _ hupdated
    rw [lastAsked_concat, lastAsked_concat]
    exact ⟨(hlast hvisible hsurface hupdated).1, fun hint' hasked => Option.some.inj hasked⟩
  · rw [if_neg (by simp [hvisible])]
    exact fun h => absurd h hvisible

/-- An update is where a setting may be lost. -/
theorem lastSettings_update_iff (hready : w.isVisible = true → w.hasSurface = true) :
    LastSettings (es ++ [.visibleChanged])
        { w.updatePendingWindowProperties with isUpdated := true } ↔
      FindsLastSettings es w .visibleChanged := by
  unfold LastSettings FindsLastSettings
  rw [lastAsked_concat, lastAsked_concat]
  by_cases hvisible : w.isVisible = true
  · obtain ⟨hvisible', hsurface', haddon, hhint⟩ :=
      settings_updatePendingWindowProperties (hready hvisible) hvisible
    dsimp only
    rw [haddon, hhint]
    exact ⟨fun h _ => h hvisible' hsurface' rfl, fun h _ _ _ => h hvisible⟩
  · rw [Window.updatePendingWindowProperties, if_neg hvisible]
    exact ⟨fun _ h => absurd h hvisible, fun _ h => absurd h hvisible⟩

/-- What one event does to the settings. Only an update can fail to find the settings; all setters
pass them on, or keep them for it. -/
theorem lastSettings_handle_iff (same : Variant → Variant → Bool)
    (hready : w.isVisible = true → w.hasSurface = true) (hE : SurfaceWhileVisible w e)
    (hlast : LastSettings es w) :
    LastSettings (es ++ [e]) ((window R same).handle w e).1 ↔ FindsLastSettings es w e := by
  by_cases hchanged : e = .visibleChanged
  · subst hchanged
    exact lastSettings_update_iff hready
  -- every other event keeps the settings, whatever has been asked for
  have hfinds : FindsLastSettings es w e := by
    cases e with
    | visibleChanged => exact absurd rfl hchanged
    | _ => trivial
  refine iff_of_true ?_ hfinds
  cases e with
  | visibleChanged => exact absurd rfl hchanged
  | setAddon addon => exact lastSettings_setAddon hready hlast addon
  | resetAddon => exact lastSettings_resetAddon hready hlast
  | setLocationHint hint => exact lastSettings_setLocationHint hready hlast hint
  | setVisible visible =>
    dsimp only [window]
    split
    · exact hlast.of_same (.refl w) rfl rfl
    · -- until its handler has run, nothing is said about a change
      exact fun _ _ hupdated => by cases hupdated
  | setSurface present =>
    intro hvisible _ hupdated
    rw [lastAsked_concat, lastAsked_concat]
    exact hlast hvisible (hready hvisible) hupdated
  | _ => exact hlast.of_same (sameSettings_handle same w rfl rfl nofun nofun nofun) rfl rfl

end Steps

/-! ## Runs

The condition looks at the window before an update and at what was asked for so far. -/

/-- **The last settings.** In every run in which there is a shell surface whenever the window is
visible: a visible window that has been updated always has a surface with the addon and the location
hint that were asked for last, if and only if each update finds them.

By `always_iff_admits_of_surface`, the rule for the runs of a window with a surface, and
`lastSettings_handle_iff` for one event. -/
theorem lastSettings_iff (same : Variant → Variant → Bool) (applicationName : String)
    (displayId : Option Int) (hasSurface : Bool) (es : List (WindowEvent R))
    (hes : (window R same).Admits (fun h => SurfaceWhileVisible h.state)
      (.init (.new same applicationName displayId hasSurface)) es) :
    (window R same).Always (fun h => LastSettings h.inputs h.state)
        (.init (.new same applicationName displayId hasSurface)) es ↔
      (window R same).Admits (fun h => FindsLastSettings h.inputs h.state)
        (.init (.new same applicationName displayId hasSurface)) es := by
  refine always_iff_admits_of_surface ?_ ?_ hes
  · intro h e hI hlast hE
    rw [Machine.step_inputs]
    exact lastSettings_handle_iff same hI.surface hE hlast
  · intro hhidden hvisible
    cases hhidden.symm.trans hvisible

/-- The addon and the hint are set before the window is shown, and nothing afterwards. -/
def settingsBeforeShow : List (WindowEvent Unit) :=
  [.setAddon "first.qml", .setAddon "second.qml", .setLocationHint 16, .setVisible true,
    .visibleChanged, .setVisible false, .visibleChanged, .setVisible true, .visibleChanged]

/-- Both settings are asked for while the window is hidden, and the surface has them after the
show. -/
theorem lastSettings_settingsBeforeShow :
    (window Unit sameVariant).Always (fun h => LastSettings h.inputs h.state)
      (.init (.new sameVariant "app" none true)) settingsBeforeShow :=
  (lastSettings_iff sameVariant "app" none true settingsBeforeShow (by decide)).mpr (by decide)

/-- The addon and the hint are set, and cleared again while the window is hidden. -/
def clearedWhileHidden : List (WindowEvent Unit) :=
  [.setVisible true, .visibleChanged, .setAddon "first.qml", .setLocationHint 16,
    .setVisible false, .visibleChanged, .setAddon "", .setLocationHint 0, .setVisible true,
    .visibleChanged]

/-- The addon is reset before there is a shell surface. -/
def resetWithoutSurface : List (WindowEvent Unit) :=
  [.setAddon "first.qml", .resetAddon, .setSurface true, .setVisible true, .visibleChanged]

/-- Either way the surface ends up with what has been cleared. -/
theorem not_lastSettings_clearedWhileHidden :
    ((window Unit sameVariant).Admits (fun h => SurfaceWhileVisible h.state)
        (.init (.new sameVariant "app" none true)) clearedWhileHidden ∧
      ¬ (window Unit sameVariant).Always (fun h => LastSettings h.inputs h.state)
        (.init (.new sameVariant "app" none true)) clearedWhileHidden) ∧
    ((window Unit sameVariant).Admits (fun h => SurfaceWhileVisible h.state)
        (.init (.new sameVariant "app" none false)) resetWithoutSurface ∧
      ¬ (window Unit sameVariant).Always (fun h => LastSettings h.inputs h.state)
        (.init (.new sameVariant "app" none false)) resetWithoutSurface) := by
  refine ⟨⟨by decide, fun hall => ?_⟩, by decide, fun hall => ?_⟩
  · have hlast := hall.last
    revert hlast
    decide
  · have hlast := hall.last
    revert hlast
    decide

end WebOSQuickWindow
