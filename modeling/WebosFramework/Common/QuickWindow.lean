import WebosFramework.Lib.EventLoop
import WebosFramework.Qt.Containers

/-!
# The window and its shell surface

`WebOSQuickWindow` of `common/webosquickwindow.cpp` passes what is set on a window on to its shell
surface. While the window is hidden, or has no shell surface, most settings are kept as *pending*
ones; `updatePendingWindowProperties` sets them on the surface whenever the window becomes visible.

* A shell surface keeps what has been set on it last. `hasSurface` is whether `shellSurface()` finds
  it.
* `visibleChanged` is an event of its own, as other handlers of the signal may run before the one
  of this class. `isUpdated` is whether that handler has run since the last change.
* `windowProperties` holds variants. Whether two variants are equal is left to the parameter `same`,
  since Qt converts variants of different types to compare them, and not always in the same way. A
  key without a value has an invalid variant, which is equal to no other.

Handlers are many and most of them are about one member, so what each one leaves alone is stated
once for all members (`exists_setWindowProperty_eq` and the theorems after it): the window
afterwards is the window before, but for the members named.
-/

namespace WebOSQuickWindow

open EventLoop Qt

/-- A `QVariant`; those that are neither text nor an integer are known by their text. -/
inductive Variant where
  | string (s : String)
  | int (i : Int)
  | other (text : String)
  deriving DecidableEq

/-- `toString` of the variant, which is what the surface gets. -/
def Variant.toString : Variant → String
  | .string s => s
  | .int i => s!"{i}"
  | .other text => text

/-- `Qt::WindowState`. -/
inductive WindowState where
  | noState
  | minimized
  | maximized
  | fullScreen
  | active
  deriving DecidableEq

/-- The names of the properties, as the shell surface knows them. -/
def wpTitle : String := "title"
/-- The property of `setSubtitle`. -/
def wpSubtitle : String := "subtitle"
/-- The property of `setWindowType`. -/
def wpWindowType : String := "_WEBOS_WINDOW_TYPE"
/-- The property of `setAppId`. -/
def wpAppId : String := "appId"
/-- The property of `setDisplayAffinity`. -/
def wpDisplayAffinity : String := "displayAffinity"
/-- The property of `setLaunchParams`. -/
def wpParams : String := "params"

/-- `KeyMaskDefault`. -/
def keyMaskDefault : UInt32 := 0xFFFFFFF8

/-- The signals of a shell surface that a window passes on. -/
inductive SurfaceSignal where
  | stateAboutToChange (state : WindowState)
  | locationHintChanged
  | addonChanged
  | addonStatusChanged (status : Nat)
  deriving DecidableEq

/-- The signals of a window. -/
inductive Signal where
  | titleChanged
  | subtitleChanged
  | windowTypeChanged
  | appIdChanged
  | displayAffinityChanged
  | launchParamsChanged
  | windowStateChanged
  | forwarded (signal : SurfaceSignal)
  deriving DecidableEq

/-- A `WebOSShellSurface`. -/
structure ShellSurface (R : Type) where
  properties : QMap String String := ∅
  state : WindowState := .noState
  locationHint : Nat := 0
  addon : String := ""
  inputRegion : Option R := none
  keyMask : UInt32 := keyMaskDefault

namespace ShellSurface

variable {R : Type} (ss : ShellSurface R)

/-- `setProperty` of the surface, which keeps what was set last. -/
def setProperty (key value : String) : ShellSurface R :=
  { ss with properties := ss.properties.insert key value }

/-- The state of the surface is set. -/
def setState (state : WindowState) : ShellSurface R := { ss with state }

/-- Its location hint is set. -/
def setLocationHint (locationHint : Nat) : ShellSurface R := { ss with locationHint }

/-- Its addon is set. -/
def setAddon (addon : String) : ShellSurface R := { ss with addon }

/-- A surface without an addon has the empty one. -/
def resetAddon : ShellSurface R := { ss with addon := "" }

/-- Its input region is set. There is no way to take it back. -/
def setInputRegion (region : R) : ShellSurface R := { ss with inputRegion := some region }

/-- Its key mask is set. -/
def setKeyMask (keyMask : UInt32) : ShellSurface R := { ss with keyMask }

end ShellSurface

/-- The members of a window that are about its surface, the surface itself, and whether there is
one. -/
structure Window (R : Type) where
  isVisible : Bool := false
  isUpdated : Bool := true
  hasSurface : Bool := false
  surface : ShellSurface R := {}
  /-- What the setters have stored. -/
  windowProperties : QMap String Variant := ∅
  /-- What is going to be set by the next update. -/
  pendingProperties : QMap String String := ∅
  pendingLocationHint : Nat := 0
  pendingWindowState : WindowState := .noState
  pendingAddon : String := ""
  inputRegion : Option R := none
  keyMask : UInt32 := keyMaskDefault
  /-- How often the signals of the surface have been connected. -/
  connections : Nat := 0

variable {R : Type}

namespace Window

/-- `setWindowProperty`: set on the surface, or pending. -/
def setWindowProperty (w : Window R) (key value : String) : Window R :=
  if w.hasSurface && w.isVisible then
    { w with surface := w.surface.setProperty key value }
  else { w with pendingProperties := w.pendingProperties.insert key value }

/-- What the setters of the properties have in common. -/
def setStored (same : Variant → Variant → Bool) (w : Window R) (key : String) (value : Variant)
    (text : String) (changed : Signal) : Window R × List Signal :=
  if (w.windowProperties[key]?).any (same value) then (w, [])
  else
    ({ w with windowProperties := w.windowProperties.insert key value }.setWindowProperty key text,
      [changed])

section Setters

variable (same : Variant → Variant → Bool) (w : Window R)

/-- `setTitle`. The setters of the other properties differ in their key, and in the variant they
store. -/
def setTitle (title : String) : Window R × List Signal :=
  w.setStored same wpTitle (.string title) title .titleChanged

/-- `setSubtitle` -/
def setSubtitle (subtitle : String) : Window R × List Signal :=
  w.setStored same wpSubtitle (.string subtitle) subtitle .subtitleChanged

/-- `setWindowType` -/
def setWindowType (type : String) : Window R × List Signal :=
  w.setStored same wpWindowType (.string type) type .windowTypeChanged

/-- `setAppId` -/
def setAppId (id : String) : Window R × List Signal :=
  w.setStored same wpAppId (.string id) id .appIdChanged

/-- `setDisplayAffinity`, which stores a number and sets its digits. -/
def setDisplayAffinity (affinity : Int) : Window R × List Signal :=
  w.setStored same wpDisplayAffinity (.int affinity) s!"{affinity}" .displayAffinityChanged

/-- `setLaunchParams` -/
def setLaunchParams (launchParams : String) : Window R × List Signal :=
  w.setStored same wpParams (.string launchParams) launchParams .launchParamsChanged

/-- A write to `windowProperties` in QML, which has changed the map already. -/
def updateWindowProperties (key : String) (value : Variant) : Window R :=
  { w with windowProperties := w.windowProperties.insert key value }.setWindowProperty key
    value.toString

end Setters

/-- `windowState` is the state of the window once `setWindowState` has returned. -/
def setInternalWindowState (w : Window R) (state windowState : WindowState) :
    Window R × List Signal :=
  if state = windowState then (w, [])
  else if w.hasSurface && w.isVisible then
    ({ w with surface := w.surface.setState state }, [.windowStateChanged])
  else ({ w with pendingWindowState := state }, [.windowStateChanged])

/-- `setLocationHint`: set on the surface, or pending. -/
def setLocationHint (w : Window R) (hint : Nat) : Window R :=
  if w.hasSurface && w.isVisible then
    { w with surface := w.surface.setLocationHint hint }
  else { w with pendingLocationHint := hint }

/-- `setAddon`. On the surface an empty addon is a reset. -/
def setAddon (w : Window R) (addon : String) : Window R :=
  if w.hasSurface && w.isVisible then
    if addon = "" then { w with surface := w.surface.resetAddon }
    else { w with surface := w.surface.setAddon addon }
  else { w with pendingAddon := addon }

/-- `resetAddon`. Without a surface it does nothing at all: what is pending stays. -/
def resetAddon (w : Window R) : Window R :=
  if w.hasSurface then { w with surface := w.surface.resetAddon, pendingAddon := "" }
  else w

/-- `setInputRegion`, which ignores a null pointer. -/
def setInputRegion (w : Window R) (region : Option R) : Window R :=
  match region with
  | none => w
  | some region =>
    let w := { w with inputRegion := some region }
    if w.hasSurface then { w with surface := w.surface.setInputRegion region } else w

/-- `setKeyMask`, which needs a surface but no visible window. -/
def setKeyMask (w : Window R) (keyMask : UInt32) : Window R :=
  let w := { w with keyMask }
  if w.hasSurface then { w with surface := w.surface.setKeyMask keyMask } else w

/-- The settings other than properties, and the signals, of a window with a shell surface. -/
def updatePendingSettings (w : Window R) : Window R :=
  let w := { w with
    connections := w.connections + 1
    surface := w.surface.setState w.pendingWindowState }
  let w := if w.pendingLocationHint > 0 then
      { w with surface := w.surface.setLocationHint w.pendingLocationHint }
    else w
  let w := if w.pendingAddon = "" then w
    else { w with surface := w.surface.setAddon w.pendingAddon }
  let w := w.setInputRegion w.inputRegion
  if w.keyMask = keyMaskDefault then w else w.setKeyMask w.keyMask

/-- `updatePendingWindowProperties`: what is pending is set, and stays pending. -/
def updatePendingWindowProperties (w : Window R) : Window R :=
  if w.isVisible then
    let w := if w.hasSurface then w.updatePendingSettings else w
    w.pendingProperties.toList.foldl (fun w entry => w.setWindowProperty entry.1 entry.2) w
  else w

/-- The constructor, with `DISPLAY_ID` if that is a number. The window is hidden. -/
def new (same : Variant → Variant → Bool) (applicationName : String) (displayId : Option Int)
    (hasSurface : Bool) : Window R :=
  let w : Window R := { hasSurface }
  let w := { w with windowProperties := w.windowProperties.insert wpAppId (.string applicationName) }
  let w := w.setWindowProperty wpAppId applicationName
  match displayId with
  | some displayId => (w.setDisplayAffinity same displayId).1
  | none => w

/-! ## What each function may change

Each function of the window is an update of a few members. The lemmas name these members and leave
their values open, which is all that the modules about single settings need. -/

section Frame

variable (w : Window R)

/-- A property changes the properties, on the surface or pending. -/
theorem exists_setWindowProperty_eq (key value : String) : ∃ properties pendingProperties,
    w.setWindowProperty key value =
      { w with surface := { w.surface with properties }, pendingProperties } := by
  unfold setWindowProperty
  split
  · exact ⟨_, w.pendingProperties, rfl⟩
  · exact ⟨w.surface.properties, _, rfl⟩

/-- So do some of them, one after the other. By induction on the list. -/
theorem exists_replay_eq (entries : List (String × String)) : ∃ properties pendingProperties,
    entries.foldl (fun w entry => w.setWindowProperty entry.1 entry.2) w =
      { w with surface := { w.surface with properties }, pendingProperties } := by
  induction entries generalizing w with
  | nil => exact ⟨w.surface.properties, w.pendingProperties, rfl⟩
  | cons entry entries ih =>
    obtain ⟨_, _, hset⟩ := w.exists_setWindowProperty_eq entry.1 entry.2
    rw [List.foldl_cons, hset]
    exact ih _

/-- A state changes the state. -/
theorem exists_setInternalWindowState_eq (state windowState : WindowState) :
    ∃ state' pendingWindowState, (w.setInternalWindowState state windowState).1 =
      { w with surface := { w.surface with state := state' }, pendingWindowState } := by
  unfold setInternalWindowState
  split
  · exact ⟨w.surface.state, w.pendingWindowState, rfl⟩
  · split
    · exact ⟨state, w.pendingWindowState, rfl⟩
    · exact ⟨w.surface.state, state, rfl⟩

/-- A location hint changes the hint. -/
theorem exists_setLocationHint_eq (hint : Nat) : ∃ locationHint pendingLocationHint,
    w.setLocationHint hint =
      { w with surface := { w.surface with locationHint }, pendingLocationHint } := by
  unfold setLocationHint
  split
  · exact ⟨hint, w.pendingLocationHint, rfl⟩
  · exact ⟨w.surface.locationHint, hint, rfl⟩

/-- An addon changes the addon. -/
theorem exists_setAddon_eq (addon : String) : ∃ addon' pendingAddon,
    w.setAddon addon =
      { w with surface := { w.surface with addon := addon' }, pendingAddon } := by
  unfold setAddon
  split
  · split
    · exact ⟨"", w.pendingAddon, rfl⟩
    · exact ⟨addon, w.pendingAddon, rfl⟩
  · exact ⟨w.surface.addon, addon, rfl⟩

/-- So does resetting it. -/
theorem exists_resetAddon_eq : ∃ addon pendingAddon,
    w.resetAddon = { w with surface := { w.surface with addon }, pendingAddon } := by
  unfold resetAddon
  split
  · exact ⟨"", "", rfl⟩
  · exact ⟨w.surface.addon, w.pendingAddon, rfl⟩

/-- A region changes the region of the window, and that of the surface. -/
theorem exists_setInputRegion_eq (region : Option R) : ∃ inputRegion inputRegion',
    w.setInputRegion region =
      { w with inputRegion, surface := { w.surface with inputRegion := inputRegion' } } := by
  unfold setInputRegion
  split
  · exact ⟨w.inputRegion, w.surface.inputRegion, rfl⟩
  · rename_i region
    dsimp only
    split
    · exact ⟨some region, some region, rfl⟩
    · exact ⟨some region, w.surface.inputRegion, rfl⟩

/-- A mask changes the mask of the window, and that of the surface. -/
theorem exists_setKeyMask_eq (keyMask : UInt32) : ∃ keyMask',
    w.setKeyMask keyMask =
      { w with keyMask, surface := { w.surface with keyMask := keyMask' } } := by
  unfold setKeyMask
  dsimp only
  split
  · exact ⟨keyMask, rfl⟩
  · exact ⟨w.surface.keyMask, rfl⟩

/-- The signals are connected once more. An addon and a hint that are pending go to the surface, and
the properties stay as they are. -/
theorem exists_updatePendingSettings_eq : ∃ surface inputRegion,
    w.updatePendingSettings =
        { w with connections := w.connections + 1, surface, inputRegion } ∧
      surface.properties = w.surface.properties ∧
      surface.addon = (if w.pendingAddon = "" then w.surface.addon else w.pendingAddon) ∧
      surface.locationHint =
        if w.pendingLocationHint > 0 then w.pendingLocationHint else w.surface.locationHint := by
  unfold updatePendingSettings
  extract_lets connected hinted withAddon region
  -- the hint goes to the surface first, and then the addon
  have hhinted : ∃ surface, hinted = { connected with surface } ∧
      surface.properties = w.surface.properties ∧ surface.addon = w.surface.addon ∧
      surface.locationHint =
        if w.pendingLocationHint > 0 then w.pendingLocationHint else w.surface.locationHint := by
    by_cases hhint : w.pendingLocationHint > 0
    · exact ⟨_, if_pos hhint, rfl, rfl, (if_pos hhint).symm⟩
    · exact ⟨_, if_neg hhint, rfl, rfl, (if_neg hhint).symm⟩
  obtain ⟨surface, hhinted, hproperties, haddon, hhint⟩ := hhinted
  have hwithAddon : ∃ surface', withAddon = { connected with surface := surface' } ∧
      surface'.properties = w.surface.properties ∧
      surface'.addon = (if w.pendingAddon = "" then w.surface.addon else w.pendingAddon) ∧
      surface'.locationHint = surface.locationHint := by
    unfold withAddon
    rw [hhinted]
    by_cases hpending : w.pendingAddon = ""
    · exact ⟨surface, if_pos hpending, hproperties, haddon.trans (if_pos hpending).symm, rfl⟩
    · exact ⟨_, if_neg hpending, hproperties, (if_neg hpending).symm, rfl⟩
  obtain ⟨surface', hwithAddon, hproperties', haddon', hhint'⟩ := hwithAddon
  obtain ⟨inputRegion, inputRegion', hset⟩ :=
    withAddon.exists_setInputRegion_eq withAddon.inputRegion
  -- the region and the mask are set last, and are no matter here
  have hregion : region = _ := hset
  rw [hwithAddon] at hregion
  split
  · exact ⟨_, inputRegion, hregion, hproperties', haddon', hhint'.trans hhint⟩
  · obtain ⟨keyMask, hkeyMask⟩ := region.exists_setKeyMask_eq region.keyMask
    rw [hkeyMask, hregion]
    exact ⟨_, inputRegion, rfl, hproperties', haddon', hhint'.trans hhint⟩

end Frame

end Window

/-- What may happen to a window: the calls of its setters, and what Qt does to it. -/
inductive WindowEvent (R : Type) where
  | setTitle (title : String)
  | setSubtitle (subtitle : String)
  | setWindowType (type : String)
  | setAppId (id : String)
  | setDisplayAffinity (affinity : Int)
  | setLaunchParams (launchParams : String)
  | updateWindowProperties (key : String) (value : Variant)
  | setInternalWindowState (state windowState : WindowState)
  | setLocationHint (hint : Nat)
  | setAddon (addon : String)
  | resetAddon
  | setInputRegion (region : Option R)
  | setKeyMask (keyMask : UInt32)
  /-- The window is exposed, which `eventFilter` sees. -/
  | expose
  | setVisible (visible : Bool)
  | visibleChanged
  /-- The shell surface comes or goes. -/
  | setSurface (present : Bool)
  | surfaceSignal (signal : SurfaceSignal)

/-- A window reacting to one event after the other. Its outputs are the signals that it emits. -/
def window (R : Type) (same : Variant → Variant → Bool) :
    Machine (Window R) (WindowEvent R) Signal where
  handle w
    | .setTitle title => w.setTitle same title
    | .setSubtitle subtitle => w.setSubtitle same subtitle
    | .setWindowType type => w.setWindowType same type
    | .setAppId id => w.setAppId same id
    | .setDisplayAffinity affinity => w.setDisplayAffinity same affinity
    | .setLaunchParams launchParams => w.setLaunchParams same launchParams
    | .updateWindowProperties key value => (w.updateWindowProperties key value, [])
    | .setInternalWindowState state windowState => w.setInternalWindowState state windowState
    | .setLocationHint hint => (w.setLocationHint hint, [])
    | .setAddon addon => (w.setAddon addon, [])
    | .resetAddon => (w.resetAddon, [])
    | .setInputRegion region => (w.setInputRegion region, [])
    | .setKeyMask keyMask => (w.setKeyMask keyMask, [])
    | .expose => (w.setInputRegion w.inputRegion, [])
    | .setVisible visible =>
      (if w.isVisible = visible then w else { w with isVisible := visible, isUpdated := false }, [])
    | .visibleChanged => ({ w.updatePendingWindowProperties with isUpdated := true }, [])
    | .setSurface present => ({ w with hasSurface := present }, [])
    | .surfaceSignal signal => (w, List.replicate w.connections (.forwarded signal))

end WebOSQuickWindow
