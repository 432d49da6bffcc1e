import WebosFramework.Qt.Json

/-!
# Loading an application

`AppLoader` of `tools/runner/apploader.{h,cpp}`: it loads the QML file of an application, keeps the
window that comes of it, and hands it the parameters of the launch and of each relaunch.

* What the QML engine makes of a file is an argument: the status of the component after `loadUrl`
  and after `create`, and the kind of object that was created.
* `m_window` is `none` where the pointer is null. A window that has been closed has no platform
  window any more; it is then without a handle, which is what the loader takes for closing.
* A call on a null `m_window` ends the process. The functions that make one return `none` then.
* Parameters are an object whoever hands them over, the socket, the life cycle or the arguments. A
  `QJsonDocument` that holds an empty object is not empty, so that `setLaunchParams` writes any
  parameters, `{}` included.
* The label of the process is a module of its own. Log messages are left out, and so is the
  handler of `frameSwapped`, which only logs.

`loadApplication_eq_none_iff` and `reloadApplication_eq_none_iff` say when the process ends.
-/

namespace Runner

open Qt

/-- `QQmlComponent::Status` -/
inductive ComponentStatus where
  | null
  | ready
  | loading
  | error
  deriving DecidableEq

/-- A window, as far as the loader knows it. -/
structure AppWindow where
  /-- `handle()` is not null. -/
  hasHandle : Bool
  /-- The property "launchParams", which is written as compact JSON, or `none` if nothing has been
  written to it. -/
  launchParams : Option QJsonObject := none

/-- The object `create` returns, by what it can be cast to. -/
inductive TopLevel where
  | null
  | window (hasHandle : Bool)
  | item
  | other
  deriving DecidableEq

/-- What the engine makes of one QML file. -/
structure Loading where
  loaded : ComponentStatus
  created : ComponentStatus
  topLevel : TopLevel
  deriving DecidableEq

/-- The members of the loader, with what it has set outside. -/
structure AppLoader where
  /-- The status of `m_component`. -/
  status : ComponentStatus := .null
  /-- `m_window`. -/
  window : Option AppWindow := none
  /-- The context property "params". -/
  params : QJsonObject := {}
  /-- The application name, which is also exported as `APP_ID`. -/
  applicationName : String := ""

namespace AppLoader

variable (l : AppLoader)

/-- `ready()`. -/
def ready : Bool := l.status = .ready

/-- Assignments to its members. -/
def setWindow (window : Option AppWindow) : AppLoader := { l with window }

/-- The status changes as the component is loaded and created. -/
def setStatus (status : ComponentStatus) : AppLoader := { l with status }

/-- `setContextProperty("params", params)` -/
def setContextParams (params : QJsonObject) : AppLoader := { l with params }

@[simp] theorem window_setWindow (window : Option AppWindow) :
    (l.setWindow window).window = window := rfl

@[simp] theorem window_setContextParams (params : QJsonObject) :
    (l.setContextParams params).window = l.window := rfl

/-- `m_window && !m_window->handle()` -/
def closing : Bool := l.window.any fun w => !w.hasHandle

/-- A window without a handle is left alone. Without a window this is a call on a null pointer. -/
def setLaunchParams (params : QJsonObject) : Option AppLoader :=
  if l.closing then some l
  else l.window.map fun w => l.setWindow (some { w with launchParams := some params })

/-- `m_window->show()` and `m_window->showFullScreen()`, which create the platform window. -/
def showWindow : Option AppLoader :=
  l.window.map fun w => l.setWindow (some { w with hasHandle := true })

/-- `reloadApplication`. A window that is closing is left alone; otherwise it is shown again with
the new parameters. -/
def reloadApplication (params : QJsonObject) : Option AppLoader :=
  if l.closing then some l
  else ((l.setContextParams params).setLaunchParams params).bind showWindow

/-- A window that is not the root of the file: a view is made for an item, and for nothing else. -/
def showContent (params : QJsonObject) (view : Option AppWindow) : Option AppLoader :=
  ((l.setWindow view).setLaunchParams params).bind showWindow

/-- `loadApplication` up to `loadUrl`. -/
def load (appId : String) (params : QJsonObject) (loaded : ComponentStatus) : AppLoader :=
  { l.setContextParams params with
    applicationName := if appId = "" then l.applicationName else appId
    status := loaded }

/-- `loadApplication` from `create` on. -/
def createTopLevel (params : QJsonObject) (created : ComponentStatus) (topLevel : TopLevel) :
    Option (Bool × AppLoader) :=
  match topLevel with
  | .null =>
    if created = .error then some (false, l.setStatus created)
    else ((l.setStatus created).showContent params none).map (true, ·)
  | .window hasHandle =>
    (((l.setStatus created).setWindow (some { hasHandle })).setLaunchParams params).map (true, ·)
  -- the view has no platform window yet when it is given the parameters
  | .item => ((l.setStatus created).showContent params (some { hasHandle := false })).map (true, ·)
  | .other => ((l.setStatus created).showContent params none).map (true, ·)

/-- `loadApplication`; the flag is its result. -/
def loadApplication (appId : String) (params : QJsonObject) (loading : Loading) :
    Option (Bool × AppLoader) :=
  if l.closing then some (false, l)
  else if loading.loaded = .ready then
    (l.load appId params loading.loaded).createTopLevel params loading.created loading.topLevel
  else some (false, l.load appId params loading.loaded)

end AppLoader

/-- The engine has come to an object that is no window and no item. -/
def Loading.NoWindow (loading : Loading) : Prop :=
  loading.loaded = .ready ∧
    (loading.topLevel = .other ∨ loading.topLevel = .null ∧ loading.created ≠ .error)

instance : DecidablePred Loading.NoWindow := fun loading =>
  inferInstanceAs (Decidable (loading.loaded = .ready ∧
    (loading.topLevel = .other ∨ loading.topLevel = .null ∧ loading.created ≠ .error)))

namespace AppLoader

variable {l : AppLoader}

/-! ## What each function does

The functions end the process where they call through a null pointer, and give the new state
otherwise. Both cases are spelled out for each of them. -/

/-- Without a window nothing is closing. -/
theorem closing_none (h : l.window = none) : l.closing = false := by
  rw [closing, h]
  rfl

/-- A window is closing if it has no handle any more. -/
theorem closing_some {w : AppWindow} (h : l.window = some w) : l.closing = !w.hasHandle := by
  rw [closing, h]
  rfl

/-- With a window, only its property may change, and it does if the window has a handle. -/
theorem setLaunchParams_some {w : AppWindow} (h : l.window = some w) (params : QJsonObject) :
    l.setLaunchParams params = some (l.setWindow (some
      { w with launchParams := if w.hasHandle then some params else w.launchParams })) := by
  have hsame : l = l.setWindow (some w) := by rw [← h]; rfl
  rw [setLaunchParams, closing_some h]
  by_cases hhandle : w.hasHandle = true
  · rw [if_neg (by simp [hhandle]), if_pos hhandle, h]
    rfl
  · rw [if_pos (by simpa using hhandle), if_neg hhandle]
    exact congrArg some hsame

/-- Without a window the process ends, whatever the parameters are. -/
theorem setLaunchParams_none (h : l.window = none) (params : QJsonObject) :
    l.setLaunchParams params = none := by
  rw [setLaunchParams, closing_none h, h]
  rfl

/-- A window that is shown has a handle. -/
theorem showWindow_some {w : AppWindow} (h : l.window = some w) :
    l.showWindow = some (l.setWindow (some { w with hasHandle := true })) := by
  rw [showWindow, h]
  rfl

/-- Setting the parameters and showing the window ends the process if there is none. -/
theorem setLaunchParams_bind_showWindow_none (h : l.window = none) (params : QJsonObject) :
    (l.setLaunchParams params).bind showWindow = none := by
  rw [setLaunchParams_none h]
  rfl

/-- A new view is shown without the parameters: it is given them before it is shown, when it has no
handle yet. -/
theorem showContent_view (l : AppLoader) (params : QJsonObject) :
    l.showContent params (some { hasHandle := false }) =
      some (l.setWindow (some { hasHandle := true })) := by
  rw [showContent, setLaunchParams_some rfl, Option.bind_some, showWindow_some rfl]
  simp [setWindow]

/-- Nothing was made that could be shown. -/
theorem showContent_none (l : AppLoader) (params : QJsonObject) :
    l.showContent params none = none :=
  setLaunchParams_bind_showWindow_none rfl params

/-- **A launch ends the process** when the file is neither a window nor an item. -/
theorem loadApplication_eq_none_iff (l : AppLoader) (appId : String) (params : QJsonObject)
    (loading : Loading) :
    l.loadApplication appId params loading = none ↔ l.closing = false ∧ loading.NoWindow := by
  unfold loadApplication Loading.NoWindow
  by_cases hclosing : l.closing = true
  · simp [hclosing]
  · by_cases hready : loading.loaded = .ready
    · unfold createTopLevel
      cases htop : loading.topLevel with
      | null =>
        by_cases herror : loading.created = .error <;>
          simp [hclosing, hready, herror, showContent_none]
      | window hasHandle => simp [hclosing, hready, setLaunchParams_some]
      | item => simp [hclosing, hready, showContent_view]
      | other => simp [hclosing, hready, showContent_none]
    · simp [hclosing, hready]

/-- **A relaunch ends the process** when there is no window. -/
theorem reloadApplication_eq_none_iff (l : AppLoader) (params : QJsonObject) :
    l.reloadApplication params = none ↔ l.window = none := by
  unfold reloadApplication
  by_cases hwindow : l.window = none
  · rw [closing_none hwindow, if_neg (by decide)]
    have hthere : (l.setContextParams params).window = none := hwindow
    exact iff_of_true (setLaunchParams_bind_showWindow_none hthere params) hwindow
  · obtain ⟨w, hw⟩ := Option.ne_none_iff_exists'.mp hwindow
    have hthere : (l.setContextParams params).window = some w := hw
    refine iff_of_false ?_ hwindow
    split
    · exact Option.some_ne_none l
    · rw [setLaunchParams_some hthere, Option.bind_some, showWindow_some rfl]
      exact Option.some_ne_none _

end AppLoader

end Runner
