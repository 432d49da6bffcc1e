import WebosFramework.Common.WindowProperties

/-!
# The signals of the shell surface

A `WebOSQuickWindow` passes four signals of its shell surface on. They are connected by
`updatePendingWindowProperties`, which runs whenever the window has become visible, and nothing
disconnects them. So after a number of shows each signal arrives that number of times.

**`forwardsOnce_iff`**: a window that has been shown forwards each signal once, as long as it has
been shown only once.

The number of connections is counted by the window (`connections_handle`), so that it is the
number of shows after any run.
-/

namespace WebOSQuickWindow

open EventLoop Qt

variable {R : Type}

/-- The handler of `visibleChanged` runs while the window is visible and has its surface. -/
def Window.isShown (w : Window R) : WindowEvent R → Bool
  | .visibleChanged => w.isVisible && w.hasSurface
  | _ => false

/-- How often the window is shown in the run `es`. -/
def Window.shows (same : Variant → Variant → Bool) (w : Window R) (es : List (WindowEvent R)) :
    Nat :=
  (window R same).count (fun h => h.state.isShown) (.init w) es

/-- Each signal that the surface may emit next is emitted by the window, once. -/
def Window.ForwardsOnce (same : Variant → Variant → Bool) (w : Window R) : Prop :=
  ∀ signal, ((window R same).handle w (.surfaceSignal signal)).2 = [.forwarded signal]

/-! ## What makes connections

The signals of the surface are connected in one place, while pending settings are passed on. Every
other event leaves the connections as they are. -/

section Connections

variable (same : Variant → Variant → Bool) (w : Window R)

@[simp] theorem connections_setWindowProperty (key value : String) :
    (w.setWindowProperty key value).connections = w.connections := by
  obtain ⟨_, _, hset⟩ := w.exists_setWindowProperty_eq key value
  rw [hset]

@[simp] theorem connections_setStored (key : String) (value : Variant) (text : String)
    (changed : Signal) :
    (w.setStored same key value text changed).1.connections = w.connections := by
  unfold Window.setStored
  split
  · rfl
  · exact connections_setWindowProperty _ key text

@[simp] theorem connections_setInputRegion (region : Option R) :
    (w.setInputRegion region).connections = w.connections := by
  obtain ⟨_, _, hset⟩ := w.exists_setInputRegion_eq region
  rw [hset]

/-- An update connects the signals once, if the window is visible and has a surface. -/
theorem connections_updatePendingWindowProperties :
    w.updatePendingWindowProperties.connections =
      w.connections + if w.isVisible && w.hasSurface then 1 else 0 := by
  unfold Window.updatePendingWindowProperties
  by_cases hvisible : w.isVisible = true
  · rw [if_pos hvisible]
    dsimp only
    obtain ⟨_, _, hreplay⟩ := Window.exists_replay_eq
      (if w.hasSurface then w.updatePendingSettings else w)
      (if w.hasSurface then w.updatePendingSettings else w).pendingProperties.toList
    rw [hreplay]
    by_cases hsurface : w.hasSurface = true
    · obtain ⟨_, _, hupdate, -⟩ := w.exists_updatePendingSettings_eq
      rw [if_pos hsurface, hupdate]
      simp [hvisible, hsurface]
    · simp [hsurface]
  · simp [hvisible]

/-- **What makes a connection.** An event connects the signals once if it is the one in which the
window has been shown, and not otherwise. -/
theorem connections_handle (e : WindowEvent R) :
    ((window R same).handle w e).1.connections =
      w.connections + if w.isShown e then 1 else 0 := by
  cases e with
  | visibleChanged => exact connections_updatePendingWindowProperties w
  -- the settings that are set on the surface, or kept for it
  | setInternalWindowState state windowState =>
    obtain ⟨_, _, hset⟩ := w.exists_setInternalWindowState_eq state windowState
    show (w.setInternalWindowState state windowState).1.connections = _
    rw [hset]
    rfl
  | setLocationHint hint =>
    obtain ⟨_, _, hset⟩ := w.exists_setLocationHint_eq hint
    show (w.setLocationHint hint).connections = _
    rw [hset]
    rfl
  | setAddon addon =>
    obtain ⟨_, _, hset⟩ := w.exists_setAddon_eq addon
    show (w.setAddon addon).connections = _
    rw [hset]
    rfl
  | resetAddon =>
    obtain ⟨_, _, hset⟩ := w.exists_resetAddon_eq
    show w.resetAddon.connections = _
    rw [hset]
    rfl
  | setVisible visible =>
    show (if w.isVisible = visible then w else _).connections = _
    split <;> rfl
  -- the properties, each of which is set or kept in the same way
  | setTitle title => exact connections_setStored same w wpTitle _ _ _
  | setSubtitle subtitle => exact connections_setStored same w wpSubtitle _ _ _
  | setWindowType type => exact connections_setStored same w wpWindowType _ _ _
  | setAppId id => exact connections_setStored same w wpAppId _ _ _
  | setDisplayAffinity affinity => exact connections_setStored same w wpDisplayAffinity _ _ _
  | setLaunchParams launchParams => exact connections_setStored same w wpParams _ _ _
  | updateWindowProperties key value => exact connections_setWindowProperty _ key value.toString
  | setInputRegion region => exact connections_setInputRegion w region
  | setKeyMask keyMask =>
    obtain ⟨_, hset⟩ := w.exists_setKeyMask_eq keyMask
    show (w.setKeyMask keyMask).connections = _
    rw [hset]
    rfl
  | expose => exact connections_setInputRegion w w.inputRegion
  | setSurface present => rfl
  | surfaceSignal signal => rfl

/-- A new window has connected nothing. -/
theorem connections_new (applicationName : String) (displayId : Option Int) (hasSurface : Bool) :
    (Window.new same applicationName displayId hasSurface : Window R).connections = 0 := by
  unfold Window.new
  dsimp only
  split
  · rw [Window.setDisplayAffinity, connections_setStored, connections_setWindowProperty]
  · rw [connections_setWindowProperty]

/-- A signal is forwarded as often as it has been connected. -/
theorem forwardsOnce_iff_connections : w.ForwardsOnce same ↔ w.connections = 1 := by
  constructor
  · intro honce
    have hlength := congrArg List.length (honce .addonChanged)
    simpa [window] using hlength
  · intro hconnections signal
    show List.replicate w.connections _ = _
    rw [hconnections]
    rfl

end Connections

/-! ## Runs

So a run has as many connections as the window was shown in it, and each of them forwards the
signal once more. -/

/-- **Once.** In every run: from the first show on a window forwards each signal of its surface
exactly once, if and only if it is not shown twice.

Each show connects the signals once more and nothing disconnects them, so the connections at a
boundary count the shows before it. -/
theorem forwardsOnce_iff (same : Variant → Variant → Bool) (applicationName : String)
    (displayId : Option Int) (hasSurface : Bool) (es : List (WindowEvent R)) :
    (window R same).Always
        (fun h => 0 < (Window.new same applicationName displayId hasSurface).shows same h.inputs →
          h.state.ForwardsOnce same)
        (.init (.new same applicationName displayId hasSurface)) es ↔
      (Window.new same applicationName displayId hasSurface).shows same es ≤ 1 := by
  -- the connections of a boundary are the shows before it
  have hinputs : ∀ fs, ((window R same).run
      (.init (.new same applicationName displayId hasSurface)) fs).inputs = fs := by
    intro fs
    rw [Machine.run_inputs]
    rfl
  have hconnections : ∀ fs, ((window R same).run
      (.init (.new same applicationName displayId hasSurface)) fs).state.connections =
        (Window.new same applicationName displayId hasSurface).shows same fs := by
    intro fs
    rw [Machine.counted_run (n := Window.connections)
      (fun h e => connections_handle same h.state e)]
    show (Window.new same applicationName displayId hasSurface).connections + _ = _
    rw [connections_new, Nat.zero_add]
    rfl
  rw [Machine.always_iff_boundaries]
  simp only [hinputs, forwardsOnce_iff_connections, hconnections]
  constructor
  · intro honce
    have hlast := honce es (List.prefix_refl es)
    omega
  · rintro hshows fs ⟨gs, rfl⟩ hshown
    have hsplit := (window R same).count_append (fun h => h.state.isShown)
      (.init (.new same applicationName displayId hasSurface)) fs gs
    unfold Window.shows at hshows hshown ⊢
    omega

/-- The window is shown, hidden and shown again. -/
def shownTwice : List (WindowEvent Unit) :=
  [.setVisible true, .visibleChanged, .setVisible false, .visibleChanged, .setVisible true,
    .visibleChanged]

/-- The window is shown twice, and each signal arrives twice. -/
theorem not_forwardsOnce_shownTwice :
    ¬ (window Unit sameVariant).Always
        (fun h => 0 < (Window.new sameVariant "app" none true).shows sameVariant h.inputs →
          h.state.ForwardsOnce sameVariant)
        (.init (.new sameVariant "app" none true)) shownTwice ∧
      ((window Unit sameVariant).run (.init (.new sameVariant "app" none true))
        (shownTwice ++ [.surfaceSignal (.stateAboutToChange .minimized)])).outputs =
          [.forwarded (.stateAboutToChange .minimized),
            .forwarded (.stateAboutToChange .minimized)] := by
  refine ⟨fun hall => ?_, by decide⟩
  have honce := (forwardsOnce_iff_connections sameVariant _).mp (hall.last (by decide))
  revert honce
  decide

end WebOSQuickWindow
