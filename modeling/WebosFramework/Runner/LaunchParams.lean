import WebosFramework.Runner.Main

/-!
# The parameters of an application

A launch and a relaunch come with parameters, and the window of the application has them in its
property "launchParams". `AppLoader::setLaunchParams` leaves the property alone if the window has no
handle, and the request succeeds all the same.

* Empty parameters are parameters: a relaunch with an empty object, or with none, takes the place of
  what the window shows.
* A view that is made for an item is given the parameters before it is shown, and never shows those
  of its launch.

**`shows_last_params_iff`**: the window shows the parameters accepted last exactly when each
accepted request finds a window with a handle, or repeats what is shown.
-/

namespace Runner

open Qt EventLoop

namespace AppLoader

variable {l l' : AppLoader} {appId : String} {params : QJsonObject} {loading : Loading}

/-- The window of a launch that has come to an end. It has the parameters if it is the root of the
file and has a handle. -/
theorem window_of_createTopLevel {created : ComponentStatus} {topLevel : TopLevel} {loads : Bool}
    (h : l.createTopLevel params created topLevel = some (loads, l')) :
    loads = false ∧ l'.window = l.window ∨
      loads = true ∧ ∃ hasHandle launchParams, l'.window = some ⟨hasHandle, launchParams⟩ ∧
        launchParams = if topLevel = .window true then some params else none := by
  cases topLevel with
  | null =>
    by_cases herror : created = .error
    · rw [createTopLevel, if_pos herror] at h
      obtain ⟨rfl, rfl⟩ := Prod.mk.inj (Option.some.inj h)
      exact .inl ⟨rfl, rfl⟩
    · rw [createTopLevel, if_neg herror, showContent_none] at h
      cases h
  | window hasHandle =>
    rw [createTopLevel, setLaunchParams_some rfl] at h
    obtain ⟨rfl, rfl⟩ := Prod.mk.inj (Option.some.inj h)
    exact .inr ⟨rfl, hasHandle, _, rfl, by simp⟩
  | item =>
    rw [createTopLevel, showContent_view] at h
    obtain ⟨rfl, rfl⟩ := Prod.mk.inj (Option.some.inj h)
    exact .inr ⟨rfl, true, _, rfl, rfl⟩
  | other =>
    rw [createTopLevel, showContent_none] at h
    cases h

/-- A launch makes a new window, or fails and leaves the old one alone. -/
theorem window_of_loaded {loads : Bool}
    (h : l.loadApplication appId params loading = some (loads, l')) :
    loads = false ∧ l'.window = l.window ∨
      loads = true ∧ ∃ hasHandle launchParams, l'.window = some ⟨hasHandle, launchParams⟩ ∧
        launchParams = if loading.topLevel = .window true then some params else none := by
  unfold loadApplication at h
  split at h
  · obtain ⟨rfl, rfl⟩ := Prod.mk.inj (Option.some.inj h)
    exact .inl ⟨rfl, rfl⟩
  · split at h
    · have hcreated := window_of_createTopLevel h
      exact hcreated
    · obtain ⟨rfl, rfl⟩ := Prod.mk.inj (Option.some.inj h)
      exact .inl ⟨rfl, rfl⟩

/-- After a relaunch the window is the same. It has the new parameters if it has a handle. -/
theorem window_of_reloaded (h : l.reloadApplication params = some l') :
    ∃ w launchParams, l.window = some w ∧ l'.window = some ⟨w.hasHandle, launchParams⟩ ∧
      launchParams = if w.hasHandle then some params else w.launchParams := by
  have hwindow : l.window ≠ none := fun hnone => by
    rw [(reloadApplication_eq_none_iff l params).mpr hnone] at h
    cases h
  obtain ⟨w, hw⟩ := Option.ne_none_iff_exists'.mp hwindow
  refine ⟨w, _, hw, ?_, rfl⟩
  have hthere : (l.setContextParams params).window = some w := hw
  unfold reloadApplication at h
  rw [closing_some hw] at h
  by_cases hhandle : w.hasHandle = true
  · rw [if_neg (by simp [hhandle]), setLaunchParams_some hthere, Option.bind_some,
      showWindow_some rfl] at h
    obtain rfl := Option.some.inj h
    rw [window_setWindow, hhandle]
  · rw [if_pos (by simpa using hhandle)] at h
    obtain rfl := Option.some.inj h
    rw [hw, if_neg hhandle]

end AppLoader

/-! ## Accepted requests

The runner reports each request that it has carried out. This section says what a request brings
and what it needs to reach the window. -/

/-- The parameters of a request that a runner reports to have carried out. -/
inductive Accepted where
  | launch (params : QJsonObject)
  | relaunch (params : QJsonObject)

/-- The parameters that came with it. -/
def Accepted.params : Accepted → QJsonObject
  | .launch params | .relaunch params => params

/-- The parameters of the last request, if there has been one. -/
def lastParams (accepted : List Accepted) : Option QJsonObject :=
  accepted.getLast?.map Accepted.params

namespace InteractiveRunner

/-- What is accepted of a signal: a launch that loads, and a relaunch that finds the component
ready and does not end the process. -/
def acceptedSignal (r : InteractiveRunner) (loading : Loading) :
    Booster.IpcClient.Signal → Option Accepted
  | .launchRequest appId _ params =>
    if (r.loader.loadApplication appId params loading).any (·.1) then some (.launch params)
    else none
  | .relaunchRequest params =>
    if r.loader.ready ∧ (r.loader.reloadApplication params).isSome then some (.relaunch params)
    else none
  | .exit => none

/-- What is accepted of an event. -/
def accepted (r : InteractiveRunner) : RunnerEvent → Option Accepted
  | .message message loading =>
    if r.phase = .running then
      (Booster.IpcClient.onMessage message).head?.bind (r.acceptedSignal loading)
    else none
  | _ => none

/-- What puts the parameters of an accepted request on the window. -/
def Reaches (r : InteractiveRunner) (loading : Loading) : Accepted → Prop
  | .launch _ => loading.topLevel = .window true
  | .relaunch params =>
      ∀ w, r.loader.window = some w → w.hasHandle ∨ w.launchParams = some params

/-- Every accepted request reaches the window. -/
def ReachesWindow (h : RunnerHistory) : RunnerEvent → Prop
  | .message message loading =>
    ∀ a, h.state.accepted (.message message loading) = some a → h.state.Reaches loading a
  | _ => True

end InteractiveRunner

/-- The window shows the parameters that have been accepted last. -/
def ShowsLastParams (pid : Int) (h : RunnerHistory) : Prop :=
  ∀ w, h.state.loader.window = some w →
    w.launchParams =
      lastParams (interactiveRunner.observe InteractiveRunner.accepted (pooled pid) h.inputs)

/-! ## One event

An accepted request shows its parameters exactly when it reaches the window, and any other event
leaves them alone. -/

/-- The parameters of a launch are on the window exactly when they reach it. -/
theorem launchParams_eq_iff (params : QJsonObject) (topLevel : TopLevel) :
    (if topLevel = .window true then some params else none) = some params ↔
      topLevel = .window true := by
  by_cases htop : topLevel = .window true
  · exact iff_of_true (if_pos htop) htop
  · rw [if_neg htop]
    exact iff_of_false (Option.some_ne_none params).symm htop

/-- The parameters of a relaunch, where `shown` are those on the window. -/
theorem relaunchParams_eq_iff (params : QJsonObject) (shown : Option QJsonObject)
    (hasHandle : Bool) :
    (if hasHandle then some params else shown) = some params ↔
      hasHandle = true ∨ shown = some params := by
  cases hasHandle with
  | true => exact iff_of_true rfl (.inl rfl)
  | false => exact ⟨.inr, fun h => h.resolve_left Bool.false_ne_true⟩

namespace InteractiveRunner

variable {r : InteractiveRunner} {loading : Loading} {signal : Booster.IpcClient.Signal}

/-- An event other than an accepted request leaves the parameters of the window alone. -/
def Keeps (r r' : InteractiveRunner) : Prop :=
  ∀ w', r'.loader.window = some w' →
    ∃ w, r.loader.window = some w ∧ w'.launchParams = w.launchParams

/-- A window that is the same shows the same. -/
theorem Keeps.of_eq {r r' : InteractiveRunner} (h : r'.loader.window = r.loader.window) :
    Keeps r r' := fun w' hw' => ⟨w', h ▸ hw', rfl⟩

/-- A signal that is not accepted keeps the parameters. A launch that fails and a relaunch that
comes too early do not get as far as the window. -/
theorem keeps_of_onSignal (h : r.acceptedSignal loading signal = none) :
    Keeps r (r.onSignal loading signal).1 := by
  cases signal with
  | launchRequest appId mainQml params =>
    show Keeps r (r.onLaunchRequest appId mainQml params loading).1
    unfold onLaunchRequest
    cases hload : r.loader.loadApplication appId params loading with
    | none => exact .of_eq rfl
    | some result =>
      obtain ⟨loads, loader⟩ := result
      rcases AppLoader.window_of_loaded hload with ⟨rfl, hwindow⟩ | ⟨rfl, -⟩
      · exact .of_eq hwindow
      · simp [acceptedSignal, hload] at h
  | relaunchRequest params =>
    show Keeps r (r.onRelaunchRequest params).1
    unfold onRelaunchRequest
    by_cases hready : r.loader.ready = true
    · rw [if_pos hready]
      cases hload : r.loader.reloadApplication params with
      | none => exact .of_eq rfl
      | some loader => simp [acceptedSignal, hready, hload] at h
    · rw [if_neg hready]
      exact .of_eq rfl
  | exit => exact .of_eq rfl

/-- What an accepted signal makes of the window: it shows the parameters of the request exactly when
they reach it. -/
theorem window_of_acceptedSignal {a : Accepted} (h : r.acceptedSignal loading signal = some a) :
    ∃ w', (r.onSignal loading signal).1.loader.window = some w' ∧
      (w'.launchParams = some a.params ↔ r.Reaches loading a) := by
  cases signal with
  -- the launch creates the window and writes its parameters at once
  | launchRequest appId mainQml params =>
    obtain ⟨hany, ha⟩ := Option.ite_none_right_eq_some.mp h
    obtain rfl := Option.some.inj ha
    cases hload : r.loader.loadApplication appId params loading with
    | none => simp [hload] at hany
    | some result =>
      obtain ⟨loads, loader⟩ := result
      rcases AppLoader.window_of_loaded hload with ⟨rfl, -⟩ | ⟨rfl, hasHandle, shown, hw', hshown⟩
      · simp [hload] at hany
      · refine ⟨⟨hasHandle, shown⟩, ?_, ?_⟩
        · show (r.onLaunchRequest appId mainQml params loading).1.loader.window = _
          rw [onLaunchRequest, hload]
          exact hw'
        · show shown = some params ↔ _
          rw [hshown]
          exact launchParams_eq_iff params loading.topLevel
  -- the relaunch writes to the window that is there
  | relaunchRequest params =>
    obtain ⟨⟨hready, hsome⟩, ha⟩ := Option.ite_none_right_eq_some.mp h
    obtain rfl := Option.some.inj ha
    obtain ⟨loader, hload⟩ := Option.isSome_iff_exists.mp hsome
    obtain ⟨w, shown, hw, hw', hshown⟩ := AppLoader.window_of_reloaded hload
    refine ⟨⟨w.hasHandle, shown⟩, ?_, ?_⟩
    · show (r.onRelaunchRequest params).1.loader.window = _
      rw [onRelaunchRequest, if_pos hready, hload]
      exact hw'
    · show shown = some params ↔ _
      rw [hshown]
      refine (relaunchParams_eq_iff params w.launchParams w.hasHandle).trans
        ⟨fun hshown w₁ hw₁ => ?_, fun hall => hall w hw⟩
      rw [hw] at hw₁
      rw [← Option.some.inj hw₁]
      exact hshown
  -- an exit accepts nothing
  | exit => cases h

/-- A message is one signal. -/
theorem accepted_message_eq (hrunning : r.phase = .running) {message : QJsonObject}
    (hsignal : Booster.IpcClient.onMessage message = [signal]) :
    r.accepted (.message message loading) = r.acceptedSignal loading signal := by
  rw [accepted, if_pos hrunning, hsignal]
  rfl

/-- An event that is not an accepted request keeps the parameters. The window may be deleted, and
then there is nothing left to keep. -/
theorem keeps_of_not_accepted {e : RunnerEvent} (h : r.accepted e = none) :
    Keeps r (r.handle e).1 := by
  by_cases hrunning : r.phase = .running
  · cases e with
    | message message loading =>
      obtain ⟨signal, hsignal⟩ := exists_onMessage message
      rw [accepted_message_eq hrunning hsignal] at h
      rw [handle_message_eq hrunning hsignal]
      exact keeps_of_onSignal h
    | nothingRead | socketError | socketClosed | quit =>
      rw [handle, if_pos hrunning]
      exact .of_eq rfl
    | windowShown | windowClosed =>
      rw [handle, if_pos hrunning]
      intro w' hw'
      obtain ⟨w, hw, rfl⟩ := Option.map_eq_some_iff.mp hw'
      exact ⟨w, hw, rfl⟩
    | windowDeleted =>
      rw [handle, if_pos hrunning]
      exact fun w' hw' => absurd hw'.symm (Option.some_ne_none w')
  · rw [handle_of_not_running hrunning]
    exact .of_eq rfl

end InteractiveRunner

/-! ## Runs

By induction over the run, with the step lemma for each event. -/

/-- From a window that shows the last parameters, an event keeps it so exactly when the request it
brings reaches the window. -/
theorem showsLastParams_step_iff {pid : Int} {h : RunnerHistory}
    (hrun : interactiveRunner.run (pooled pid) h.inputs = h) (hshows : ShowsLastParams pid h)
    (e : RunnerEvent) :
    ShowsLastParams pid (interactiveRunner.step h e) ↔ InteractiveRunner.ReachesWindow h e := by
  unfold ShowsLastParams
  rw [Machine.observe_step _ hrun, Machine.step_state]
  generalize hlast : lastParams (interactiveRunner.observe InteractiveRunner.accepted
    (pooled pid) h.inputs) = last
  have happend (a : Accepted) : lastParams (interactiveRunner.observe InteractiveRunner.accepted
      (pooled pid) h.inputs ++ [a]) = some a.params := by
    rw [lastParams, List.getLast?_concat]
    rfl
  have hshows (w : AppWindow) (hw : h.state.loader.window = some w) : w.launchParams = last := by
    rw [← hlast]
    exact hshows w hw
  -- nothing is accepted, and the window keeps what it shows
  cases haccepted : h.state.accepted e with
  | none =>
    refine iff_of_true (fun w' hw' => ?_) ?_
    · obtain ⟨w, hw, hsame⟩ := InteractiveRunner.keeps_of_not_accepted haccepted w' hw'
      rw [hsame, hshows w hw, Option.toList_none, List.append_nil, hlast]
    · cases e with
      | message message loading => exact fun a ha => nomatch haccepted.symm.trans ha
      | _ => trivial
  -- only a message is accepted, so its parameters become the last ones
  | some a =>
    cases e with
    | message message loading =>
      have hrunning : h.state.phase = .running := by
        by_contra hrunning
        rw [InteractiveRunner.accepted, if_neg hrunning] at haccepted
        cases haccepted
      obtain ⟨signal, hsignal⟩ := InteractiveRunner.exists_onMessage message
      have hreaches : InteractiveRunner.ReachesWindow h (.message message loading) ↔
          h.state.Reaches loading a := by
        refine ⟨fun hall => hall a haccepted, fun hone b hb => ?_⟩
        rw [← Option.some.inj (haccepted.symm.trans hb)]
        exact hone
      rw [InteractiveRunner.accepted_message_eq hrunning hsignal] at haccepted
      obtain ⟨w', hw', hiff⟩ := InteractiveRunner.window_of_acceptedSignal haccepted
      rw [hreaches, ← hiff, Option.toList_some, happend]
      show (∀ w, (h.state.handle (.message message loading)).1.loader.window = some w → _) ↔ _
      rw [InteractiveRunner.handle_message_eq hrunning hsignal, hw']
      exact ⟨fun hall => hall w' rfl, fun hone w hw => Option.some.inj hw ▸ hone⟩
    -- the other events accept nothing
    | _ => cases haccepted

/-- **The window shows the parameters accepted last** exactly when every accepted request reaches
it: a launch makes a root window with a handle, and a relaunch finds a window with one, or repeats
what the window shows.

By `Machine.always_iff_admits`; what has been accepted is observed along the run, and
`showsLastParams_step_iff` compares the window with the last of it. -/
theorem shows_last_params_iff (pid : Int) (es : List RunnerEvent) :
    interactiveRunner.Always (ShowsLastParams pid) (pooled pid) es ↔
      interactiveRunner.Admits InteractiveRunner.ReachesWindow (pooled pid) es :=
  Machine.always_iff_admits
    (I := fun h => interactiveRunner.run (pooled pid) h.inputs = h)
    (fun _ e hrun _ => Machine.run_inputs_step hrun e)
    (fun _ e hrun hshows _ => showsLastParams_step_iff hrun hshows e) rfl
    (fun _ hw => absurd hw.symm (Option.some_ne_none _))
    (interactiveRunner.admits_true (pooled pid) es)

end Runner
