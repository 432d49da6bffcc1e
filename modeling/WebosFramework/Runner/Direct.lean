import WebosFramework.Runner.AppLifeCycleManager
import WebosFramework.Runner.LaunchParams

/-!
# A runner on its own

`main` of `tools/runner/main.cpp` without `--interactive`: the application is named by the arguments
and loaded at once, and the life cycle messages of the bus relaunch it and close it.

* `QJsonDocument::fromJson(..).object()` of an argument is a parameter, as is what the QML engine
  makes of the file. The startup time and the choice of a message handler are left out.
* The slot of the messages may be connected more than once. Its signals are then emitted again, and
  a signal that is handled again changes nothing (`onSignal_onSignal`).
* `FromSubscription`: messages are the answers to a call, so that they arrive only while the manager
  is subscribed.

**`follows_messages_iff`**: the window shows the parameters of the last message and the process ends
in order, exactly if the file is a window that has a handle, and as long as every message finds the
component ready, and a relaunch finds a window to show its parameters on.

A message is heard once, however often it is handled. So the run is compared with the list of what
was heard (`heardSince`), and one step is described exactly (`followsMessages_step_iff`).
-/

namespace Runner

open Qt EventLoop

/-! ## The arguments

The arguments of the command line, read from the first to the last. -/

/-- What the arguments say. -/
structure Settings where
  mainQml : String := ""
  appId : String := ""
  methodName : String := ""
  params : QJsonValue := .undefined
  interactive : Bool := false

/-- The members of a JSON argument. -/
def Settings.readObject (settings : Settings) (obj : QJsonObject) : Settings :=
  { settings with
    mainQml := if obj.contains "main" then (obj.value "main").toString else settings.mainQml
    appId := if obj.contains "appId" then (obj.value "appId").toString else settings.appId
    params := if obj.contains "params" then obj.value "params" else settings.params
    methodName := if obj.contains "interfaceMethod" then (obj.value "interfaceMethod").toString
      else settings.methodName }

/-- The loop over the arguments. -/
def readArguments (fromJson : String → QJsonObject) : Settings → List String → Settings
  | settings, [] => settings
  | settings, argument :: rest =>
    let settings := if argument.toList.head? = some '{' then settings.readObject (fromJson argument)
      else settings
    let next := if argument = "--interactive" then { settings with interactive := true }
      else settings
    match rest with
    | [] => next
    | value :: rest' =>
      if argument = "--main" then readArguments fromJson { settings with mainQml := value } rest'
      else if argument = "--startup" then readArguments fromJson settings rest'
      else readArguments fromJson next (value :: rest')

/-! ## The process

The manager of the life cycle and the loader, with the lambdas of `main` between them. A call
through a null pointer ends the process. -/

/-- The process: the manager and the loader of `main`. -/
structure DirectRunner where
  manager : AppLifeCycleManager
  loader : AppLoader := {}
  phase : Phase := .running

/-- What may happen to it. -/
inductive DirectEvent where
  | serverStatus (response : QJsonObject) (token : Option Nat)
  | messageReceived (response : QJsonObject)
  /-- A signal of the system, `Qt.quit()` or the last window. -/
  | quit
  | windowShown
  | windowClosed
  | windowDeleted

namespace DirectRunner

variable (r : DirectRunner)

/-- `QCoreApplication::exit`: the event loop is left at the end of the event. -/
def exit (code : Int) : DirectRunner := { r with phase := .exiting code }

/-- The loader has changed. -/
def setLoader (loader : AppLoader) : DirectRunner := { r with loader }

/-- The lambda connected to `relaunchRequest`. -/
def onRelaunchRequest (params : QJsonObject) : DirectRunner :=
  if r.loader.ready then
    match r.loader.reloadApplication params with
    | none => { r with phase := .crashed }
    | some loader => r.setLoader loader
  else r.exit (-1)

/-- The lambda connected to `closeRequest`; `terminate` quits. -/
def onCloseRequest : DirectRunner := if r.loader.ready then r.exit 0 else r.exit (-1)

/-- The lambdas of `main`. The calls on the bus are no signals. -/
def onSignal : LifeCycleOutput → DirectRunner
  | .relaunchRequest params => r.onRelaunchRequest params
  | .closeRequest _ => r.onCloseRequest
  | .call .. | .callCancel _ => r

/-- The signals of one event, one after the other. -/
def onSignals : DirectRunner → List LifeCycleOutput → DirectRunner
  | r, [] => r
  | r, signal :: signals =>
    if r.phase = .crashed then r else onSignals (r.onSignal signal) signals

/-- The platform window comes or goes. -/
def setHandle (hasHandle : Bool) : DirectRunner :=
  r.setLoader (r.loader.setWindow (r.loader.window.map fun w => { w with hasHandle }))

/-- An event of the life cycle. What is said to the bus and what is signalled are its outputs. -/
def onLifeCycle (e : LifeCycleEvent) : DirectRunner × List LifeCycleOutput :=
  let handled := lifeCycle.handle r.manager e
  (onSignals { r with manager := handled.1 } handled.2, handled.2)

/-- What an event does, as long as the event loop runs. -/
def handle (e : DirectEvent) : DirectRunner × List LifeCycleOutput :=
  if r.phase = .running then
    match e with
    | .serverStatus response token => r.onLifeCycle (.serverStatus response token)
    | .messageReceived response => r.onLifeCycle (.messageReceived response)
    | .quit => (r.exit 0, [])
    | .windowShown => (r.setHandle true, [])
    | .windowClosed => (r.setHandle false, [])
    | .windowDeleted => (r.setLoader (r.loader.setWindow none), [])
  else (r, [])

/-- `main` up to `exec`. -/
def start (settings : Settings) (loading : Loading) : DirectRunner :=
  let methodName :=
    if settings.methodName = "" then defaultInterfaceMethodName else settings.methodName
  let r : DirectRunner := { manager := .new settings.appId methodName "" }
  match r.loader.loadApplication settings.appId settings.params.toObject loading with
  | none => { r with phase := .crashed }
  | some (true, loader) => r.setLoader loader
  | some (false, loader) => (r.setLoader loader).exit (-1)

end DirectRunner

/-- The process reacting to one event after the other. Its outputs are those of the manager. -/
def directRunner : Machine DirectRunner DirectEvent LifeCycleOutput where
  handle := DirectRunner.handle

/-- A process, the events so far, and what its manager has done. -/
abbrev DirectHistory := History DirectRunner DirectEvent LifeCycleOutput

/-- A process that is started without `--interactive`. -/
def main (fromJson : String → QJsonObject) (arguments : List String) (loading : Loading) :
    Option DirectRunner :=
  let settings := readArguments fromJson {} arguments
  if settings.interactive then none else some (.start settings loading)

/-! ## Messages

What a message asks for, and what the application has to be like to do it. -/

namespace DirectRunner

/-- What a process that is there hears of an event. -/
def heard (r : DirectRunner) : DirectEvent → Option LifeCycleOutput
  | .messageReceived response =>
    if r.phase = .running then (handleAppLifeCycle r.manager.lifeCycle.method response).head?
    else none
  | _ => none

/-- The component is ready, and a relaunch finds a window to show its parameters on. -/
def Obeys (r : DirectRunner) : LifeCycleOutput → Prop
  | .relaunchRequest params => r.loader.ready = true ∧ ∃ w, r.loader.window = some w ∧
      (w.hasHandle ∨ w.launchParams = some params)
  | .closeRequest _ => r.loader.ready = true
  | .call .. | .callCancel _ => True

end DirectRunner

/-- A message is the answer to a call. -/
def FromSubscription (h : DirectHistory) : DirectEvent → Prop
  | .messageReceived _ => h.state.manager.lifeCycle.isSubscribed = true
  | _ => True

/-- Every message finds what it needs. -/
def ObeysMessages (h : DirectHistory) (e : DirectEvent) : Prop :=
  ∀ signal, h.state.heard e = some signal → h.state.Obeys signal

/-- The parameters after a message; those of a relaunch take the place of the old ones, also if they
are empty. -/
def LifeCycleOutput.apply (last : QJsonObject) : LifeCycleOutput → QJsonObject
  | .relaunchRequest params => params
  | .closeRequest _ | .call .. | .callCancel _ => last

/-- What has been heard since the start from `r`. -/
def heardSince (r : DirectRunner) (h : DirectHistory) : List LifeCycleOutput :=
  directRunner.observe DirectRunner.heard (.init r) h.inputs

/-- The application has done what the messages say: it shows the parameters of the last relaunch, or
those of its start if there has been none, it has left if it has been closed, and it has not ended
in another way. -/
structure FollowsMessages (r : DirectRunner) (params : QJsonObject) (h : DirectHistory) :
    Prop where
  /-- The window has the parameters of the last relaunch. -/
  shows : ∀ w, h.state.loader.window = some w →
    w.launchParams = some ((heardSince r h).foldl LifeCycleOutput.apply params)
  /-- A message to close ends the process in order. -/
  closes : ∀ reason, .closeRequest reason ∈ heardSince r h → h.state.phase = .exiting 0
  /-- It does not end in any other way. -/
  lives : h.state.phase = .running ∨ h.state.phase = .exiting 0

/-! ## Signals that are emitted again

A slot that is connected twice handles each message twice. The second time makes no difference,
since a relaunch with the same parameters finds them shown, and a request to close finds the
process leaving. -/

namespace AppLoader

/-- What a relaunch makes of a window with a handle. -/
theorem reloadApplication_some {l : AppLoader} {w : AppWindow} (hw : l.window = some w)
    (hhandle : w.hasHandle = true) (params : QJsonObject) :
    l.reloadApplication params =
      some ((l.setContextParams params).setWindow (some ⟨true, some params⟩)) := by
  have hthere : (l.setContextParams params).window = some w := hw
  rw [reloadApplication, closing_some hw, if_neg (by simp [hhandle]), setLaunchParams_some hthere,
    Option.bind_some, showWindow_some rfl]
  simp [setWindow, hhandle]

/-- A relaunch sets the parameters, or finds the window closing and does nothing. -/
theorem reloaded_cases {l l' : AppLoader} {params : QJsonObject}
    (h : l.reloadApplication params = some l') :
    l'.window = some ⟨true, some params⟩ ∧ l'.params = params ∧ l'.status = l.status ∨
      l.closing = true ∧ l' = l := by
  obtain ⟨w, -, hw, -, -⟩ := window_of_reloaded h
  by_cases hhandle : w.hasHandle = true
  · rw [reloadApplication_some hw hhandle] at h
    obtain rfl := Option.some.inj h
    exact .inl ⟨rfl, rfl, rfl⟩
  · have hclosing : l.closing = true := by
      rw [closing_some hw]
      simpa using hhandle
    rw [reloadApplication, if_pos hclosing] at h
    exact .inr ⟨hclosing, (Option.some.inj h).symm⟩

/-- A relaunch does not touch the component. -/
theorem ready_of_reloaded {l l' : AppLoader} {params : QJsonObject}
    (h : l.reloadApplication params = some l') : l'.ready = l.ready := by
  rcases reloaded_cases h with ⟨-, -, hstatus⟩ | ⟨-, rfl⟩
  · rw [ready, ready, hstatus]
  · rfl

/-- A relaunch that is repeated finds everything as it is to be. -/
theorem reloadApplication_reloadApplication {l l' : AppLoader} {params : QJsonObject}
    (h : l.reloadApplication params = some l') : l'.reloadApplication params = some l' := by
  rcases reloaded_cases h with ⟨hwindow, hparams, -⟩ | ⟨hclosing, rfl⟩
  · rw [reloadApplication_some hwindow rfl, ← hwindow, ← hparams]
    rfl
  · rw [reloadApplication, if_pos hclosing]

end AppLoader

namespace DirectRunner

variable {r : DirectRunner} {signal : LifeCycleOutput}

/-- **A signal that is emitted again changes nothing**, if the process has survived it. So it makes
no difference how often the slot is connected, as long as it is. -/
theorem onSignal_onSignal (r : DirectRunner) (signal : LifeCycleOutput)
    (h : (r.onSignal signal).phase ≠ .crashed) :
    (r.onSignal signal).onSignal signal = r.onSignal signal := by
  cases signal with
  -- a second relaunch with the same parameters finds the window that the first one has set
  | relaunchRequest params =>
    show (r.onRelaunchRequest params).onRelaunchRequest params = r.onRelaunchRequest params
    by_cases hready : r.loader.ready = true
    · cases hload : r.loader.reloadApplication params with
      | none =>
        have hcrashed : (r.onRelaunchRequest params).phase = .crashed := by
          rw [onRelaunchRequest, if_pos hready, hload]
        exact absurd hcrashed h
      | some loader =>
        have honce : r.onRelaunchRequest params = r.setLoader loader := by
          rw [onRelaunchRequest, if_pos hready, hload]
        have hready' : (r.setLoader loader).loader.ready = true :=
          (AppLoader.ready_of_reloaded hload).trans hready
        rw [honce, onRelaunchRequest, if_pos hready']
        show (match loader.reloadApplication params with
          | none => _
          | some loader => _) = _
        rw [AppLoader.reloadApplication_reloadApplication hload]
        rfl
    · have honce : r.onRelaunchRequest params = r.exit (-1) := if_neg hready
      rw [honce]
      exact if_neg hready
  -- a second close finds the process on its way out
  | closeRequest reason =>
    show r.onCloseRequest.onCloseRequest = r.onCloseRequest
    unfold onCloseRequest
    by_cases hready : r.loader.ready = true
    · rw [if_pos hready]
      exact if_pos hready
    · rw [if_neg hready]
      exact if_neg hready
  | call | callCancel => rfl

/-- A signal that is emitted at least once has the effect of one emission. -/
theorem onSignals_replicate (hphase : r.phase ≠ .crashed) {n : Nat} (hn : 0 < n) :
    onSignals r (List.replicate n signal) = r.onSignal signal := by
  induction n generalizing r with
  | zero => cases hn
  | succ n ih =>
    rw [List.replicate_succ, onSignals, if_neg hphase]
    cases n with
    | zero => rfl
    | succ n =>
      by_cases hcrashed : (r.onSignal signal).phase = .crashed
      · rw [List.replicate_succ, onSignals, if_pos hcrashed]
      · rw [ih hcrashed (Nat.succ_pos n), onSignal_onSignal r signal hcrashed]

/-! ## One event

What each kind of event does to the manager, the loader and the phase of the process. -/

/-- The signals of the manager do not come back to it. -/
theorem manager_onSignal (r : DirectRunner) (signal : LifeCycleOutput) :
    (r.onSignal signal).manager = r.manager := by
  cases signal with
  | relaunchRequest params =>
    show (r.onRelaunchRequest params).manager = r.manager
    unfold onRelaunchRequest
    split
    · split <;> rfl
    · rfl
  | closeRequest reason =>
    show r.onCloseRequest.manager = r.manager
    unfold onCloseRequest
    split <;> rfl
  | call | callCancel => rfl

/-- Neither do some of them, one after the other. -/
theorem manager_onSignals (r : DirectRunner) (signals : List LifeCycleOutput) :
    (onSignals r signals).manager = r.manager := by
  induction signals generalizing r with
  | nil => rfl
  | cons signal signals ih =>
    rw [onSignals]
    split
    · rfl
    · rw [ih, manager_onSignal]

/-- What is said to the bus is not for the runner. -/
theorem onSignals_of_forall {signals : List LifeCycleOutput}
    (h : ∀ signal ∈ signals, ∀ r, onSignal r signal = r) : onSignals r signals = r := by
  induction signals with
  | nil => rfl
  | cons signal signals ih =>
    rw [onSignals, h signal List.mem_cons_self,
      ih fun signal hsignal => h signal (List.mem_cons_of_mem _ hsignal), ite_self]

/-- The bus says whether the service is there: the runner stays as it is but for its manager. -/
theorem handle_serverStatus (hrunning : r.phase = .running) (response : QJsonObject)
    (token : Option Nat) : (r.handle (.serverStatus response token)).1 =
      { r with manager := (lifeCycle.handle r.manager (.serverStatus response token)).1 } := by
  rw [handle, if_pos hrunning]
  apply onSignals_of_forall
  intro signal hsignal
  have hsignal : signal ∈ (r.manager.handleServerStatus response token).2 := hsignal
  unfold AppLifeCycleManager.handleServerStatus at hsignal
  split at hsignal
  · split at hsignal
    · unfold LunaServiceWrapper.subscribe at hsignal
      cases token with
      | none => exact List.mem_singleton.mp hsignal ▸ fun _ => rfl
      | some token => exact List.mem_singleton.mp hsignal ▸ fun _ => rfl
    · cases hsignal
  · split at hsignal
    · exact List.mem_singleton.mp hsignal ▸ fun _ => rfl
    · cases hsignal

/-- A message is handled once, whatever the number of the connections is. -/
theorem handle_messageReceived (hrunning : r.phase = .running) (hn : 0 < r.manager.connections)
    (response : QJsonObject) : (r.handle (.messageReceived response)).1 =
      (r.heard (.messageReceived response)).elim r r.onSignal := by
  have hnot : r.phase ≠ .crashed := by
    rw [hrunning]
    exact Phase.noConfusion
  rw [handle, if_pos hrunning, heard, if_pos hrunning]
  show onSignals r (r.manager.messageReceived response) = _
  unfold AppLifeCycleManager.messageReceived
  have hlength := handleAppLifeCycle_length r.manager.lifeCycle.method response
  generalize handleAppLifeCycle r.manager.lifeCycle.method response = signals at hlength
  match signals with
  | [] =>
    rw [List.flatten_replicate_nil]
    rfl
  | [signal] =>
    rw [List.flatten_replicate_singleton]
    exact onSignals_replicate hnot hn
  | _ :: _ :: _ => simp at hlength

/-- A message asks for a relaunch or for the end. -/
theorem heard_cases {e : DirectEvent} (h : r.heard e = some signal) :
    r.phase = .running ∧ (∃ response, e = .messageReceived response) ∧
      ((∃ params, signal = .relaunchRequest params) ∨ ∃ reason, signal = .closeRequest reason) := by
  cases e with
  | messageReceived response =>
    obtain ⟨hrunning, hhead⟩ := Option.ite_none_right_eq_some.mp h
    refine ⟨hrunning, ⟨response, rfl⟩, ?_⟩
    unfold handleAppLifeCycle at hhead
    dsimp only at hhead
    generalize (response.value (if r.manager.lifeCycle.method = defaultInterfaceMethodName then
      "event" else "message")).toString = message at hhead
    split at hhead
    · exact .inl ⟨_, (Option.some.inj hhead).symm⟩
    · split at hhead
      · exact .inr ⟨_, (Option.some.inj hhead).symm⟩
      · cases hhead
  | serverStatus | quit | windowShown | windowClosed | windowDeleted => cases h

/-- A relaunch leaves the process running, with its parameters on the window, exactly when it is
obeyed. -/
theorem onRelaunchRequest_iff {params : QJsonObject} (hrunning : r.phase = .running) :
    ((r.onRelaunchRequest params).phase = .running ∨
        (r.onRelaunchRequest params).phase = .exiting 0) ∧
      (∀ w, (r.onRelaunchRequest params).loader.window = some w →
        w.launchParams = some params) ↔
    r.Obeys (.relaunchRequest params) := by
  show _ ↔ r.loader.ready = true ∧ ∃ w, r.loader.window = some w ∧ _
  unfold onRelaunchRequest
  by_cases hready : r.loader.ready = true
  · rw [if_pos hready]
    cases hload : r.loader.reloadApplication params with
    | none =>
      have hnone := (AppLoader.reloadApplication_eq_none_iff r.loader params).mp hload
      refine iff_of_false (fun hboth => ?_) (fun hboth => ?_)
      · rcases hboth.1 with hphase | hphase <;> cases hphase
      · obtain ⟨w, hw, -⟩ := hboth.2
        exact Option.some_ne_none w (hw.symm.trans hnone)
    -- there is a window to write to, and what it shows afterwards is what `relaunchParams` gives
    | some loader =>
      obtain ⟨w, shown, hw, hw', hshown⟩ := AppLoader.window_of_reloaded hload
      have hiff := relaunchParams_eq_iff params w.launchParams w.hasHandle
      rw [← hshown] at hiff
      constructor
      · exact fun hboth => ⟨hready, w, hw, hiff.mp (hboth.2 _ hw')⟩
      · rintro ⟨-, w₁, hw₁, hfinds⟩
        obtain rfl : w = w₁ := Option.some.inj (hw.symm.trans hw₁)
        refine ⟨.inl hrunning, fun w' h' => ?_⟩
        rw [← Option.some.inj (hw'.symm.trans h')]
        exact hiff.mpr hfinds
  · -- before the application is ready the process exits, and no window shows anything
    rw [if_neg hready]
    refine iff_of_false (fun hboth => ?_) (fun hboth => hready hboth.1)
    rcases hboth.1 with hphase | hphase <;> cases hphase

@[simp] theorem loader_onCloseRequest (r : DirectRunner) :
    r.onCloseRequest.loader = r.loader := by
  unfold onCloseRequest
  split <;> rfl

/-- A runner that is closed leaves in order if its component is ready, and with an error if not. -/
theorem phase_onCloseRequest (r : DirectRunner) :
    r.onCloseRequest.phase = .exiting (if r.loader.ready then 0 else -1) := by
  unfold onCloseRequest
  split <;> rfl

end DirectRunner

/-! ## Runs

The messages that were heard since the start say what the application shows, and the step lemma
says when one more message is obeyed. -/

/-- The slot is connected while the messages are subscribed to. -/
def Listens (m : AppLifeCycleManager) : Prop :=
  m.lifeCycle.isSubscribed = true → 0 < m.connections

/-- While the manager is subscribed, the slot is connected. -/
theorem listens_handle {m : AppLifeCycleManager} (hm : Listens m) (e : LifeCycleEvent) :
    Listens (lifeCycle.handle m e).1 := by
  rcases handle_cases m e with ⟨response, token, -, -, -, hhandle⟩ | ⟨-, hhandle⟩ | ⟨-, hstate, -⟩
  · rw [hhandle]
    exact fun _ => Nat.succ_pos m.connections
  · rw [hhandle]
    exact fun hsubscribed => nomatch hsubscribed
  · rw [hstate]
    exact hm

/-- What holds between events. -/
structure DirectInv (r : DirectRunner) (h : DirectHistory) : Prop where
  /-- The process has done what its events make it do. -/
  since : directRunner.run (.init r) h.inputs = h
  /-- It hears the messages that it is subscribed to. -/
  listens : Listens h.state.manager

variable {r : DirectRunner} {params : QJsonObject} {h : DirectHistory} {e : DirectEvent}

/-- Each part is kept. -/
theorem directInv_step (hI : DirectInv r h) (e : DirectEvent) :
    DirectInv r (directRunner.step h e) := by
  refine ⟨Machine.run_inputs_step hI.since e, ?_⟩
  show Listens (h.state.handle e).1.manager
  unfold DirectRunner.handle
  split
  · cases e with
    | serverStatus response token =>
      show Listens (DirectRunner.onSignals _ _).manager
      rw [DirectRunner.manager_onSignals]
      exact listens_handle hI.listens _
    | messageReceived response =>
      show Listens (DirectRunner.onSignals _ _).manager
      rw [DirectRunner.manager_onSignals]
      exact listens_handle hI.listens _
    | quit | windowShown | windowClosed | windowDeleted => exact hI.listens
  · exact hI.listens

/-- What is heard in an event comes behind what was heard before. -/
theorem heardSince_step (hI : DirectInv r h) (e : DirectEvent) :
    heardSince r (directRunner.step h e) = heardSince r h ++ (h.state.heard e).toList :=
  Machine.observe_step _ hI.since e

/-- Nothing is heard, and the runner follows the messages as before. The window may be deleted
meanwhile, and the process may quit, but no parameters are written. -/
theorem followsMessages_of_not_heard (hI : DirectInv r h) (hF : FollowsMessages r params h)
    (hE : FromSubscription h e) (hheard : h.state.heard e = none) :
    FollowsMessages r params (directRunner.step h e) := by
  have hsince := heardSince_step hI e
  rw [hheard, Option.toList_none, List.append_nil] at hsince
  by_cases hrunning : h.state.phase = .running
  · have hopen (reason : QJsonObject) : .closeRequest reason ∉ heardSince r h := fun hclose => by
      rw [hF.closes reason hclose] at hrunning
      cases hrunning
    -- the window is the old one, up to its handle
    have hkeeps : (∀ w', (directRunner.step h e).state.loader.window = some w' →
          ∃ w, h.state.loader.window = some w ∧ w'.launchParams = w.launchParams) ∧
        ((directRunner.step h e).state.phase = .running ∨
          (directRunner.step h e).state.phase = .exiting 0) := by
      rw [Machine.step_state]
      show (∀ w', (h.state.handle e).1.loader.window = some w' → _) ∧
        ((h.state.handle e).1.phase = _ ∨ (h.state.handle e).1.phase = _)
      -- none of the events that are no message writes parameters, and one of them deletes the
      -- window
      cases e with
      | serverStatus response token =>
        rw [DirectRunner.handle_serverStatus hrunning]
        exact ⟨fun w' hw' => ⟨w', hw', rfl⟩, .inl hrunning⟩
      | messageReceived response =>
        rw [DirectRunner.handle_messageReceived hrunning (hI.listens hE), hheard]
        exact ⟨fun w' hw' => ⟨w', hw', rfl⟩, .inl hrunning⟩
      | quit =>
        rw [DirectRunner.handle, if_pos hrunning]
        exact ⟨fun w' hw' => ⟨w', hw', rfl⟩, .inr rfl⟩
      | windowShown | windowClosed =>
        rw [DirectRunner.handle, if_pos hrunning]
        refine ⟨fun w' hw' => ?_, .inl hrunning⟩
        obtain ⟨w, hw, rfl⟩ := Option.map_eq_some_iff.mp hw'
        exact ⟨w, hw, rfl⟩
      | windowDeleted =>
        rw [DirectRunner.handle, if_pos hrunning]
        exact ⟨fun w' hw' => absurd hw'.symm (Option.some_ne_none w'), .inl hrunning⟩
    refine ⟨fun w' hw' => ?_, fun reason hclose => ?_, hkeeps.2⟩
    · obtain ⟨w, hw, hsame⟩ := hkeeps.1 w' hw'
      rw [hsame, hF.shows w hw, hsince]
    · rw [hsince] at hclose
      exact absurd hclose (hopen reason)
  · -- a process that is not running handles nothing
    have hhandle : h.state.handle e = (h.state, []) := if_neg hrunning
    have hsame : (directRunner.step h e).state = h.state := congrArg Prod.fst hhandle
    exact ⟨by rw [hsame, hsince]; exact hF.shows, by rw [hsame, hsince]; exact hF.closes,
      by rw [hsame]; exact hF.lives⟩

/-- From a runner that has followed the messages so far, one more is followed exactly when it finds
what it needs. -/
theorem followsMessages_step_iff (hI : DirectInv r h) (hF : FollowsMessages r params h)
    (hE : FromSubscription h e) :
    FollowsMessages r params (directRunner.step h e) ↔ ObeysMessages h e := by
  cases hheard : h.state.heard e with
  -- nothing is heard: what is shown and what was heard last are both as before
  | none =>
    refine iff_of_true (followsMessages_of_not_heard hI hF hE hheard) fun signal hsignal => ?_
    rw [hheard] at hsignal
    cases hsignal
  | some signal =>
    obtain ⟨hrunning, ⟨response, rfl⟩, hkind⟩ := DirectRunner.heard_cases hheard
    have hobeys : ObeysMessages h (.messageReceived response) ↔ h.state.Obeys signal := by
      refine ⟨fun hall => hall signal hheard, fun hone signal' hsignal' => ?_⟩
      rw [← Option.some.inj (hheard.symm.trans hsignal')]
      exact hone
    have hsince := heardSince_step hI (.messageReceived response)
    have hstate : (directRunner.step h (.messageReceived response)).state =
        h.state.onSignal signal := by
      show (h.state.handle _).1 = _
      rw [DirectRunner.handle_messageReceived hrunning (hI.listens hE), hheard]
      rfl
    rw [hheard, Option.toList_some] at hsince
    have hopen (reason : QJsonObject) : .closeRequest reason ∉ heardSince r h := fun hclose => by
      rw [hF.closes reason hclose] at hrunning
      cases hrunning
    rw [hobeys]
    -- a message is heard as a relaunch, which writes the window, or as a close
    rcases hkind with ⟨params', rfl⟩ | ⟨reason, rfl⟩
    · have hlast : (heardSince r (directRunner.step h (.messageReceived response))).foldl
          LifeCycleOutput.apply params = params' := by
        rw [hsince, List.foldl_append]
        rfl
      rw [← DirectRunner.onRelaunchRequest_iff hrunning]
      refine ⟨fun hF' => ?_, fun hboth => ?_⟩
      · have hlives := hF'.lives
        have hshows := hF'.shows
        rw [hstate] at hlives hshows
        rw [hlast] at hshows
        exact ⟨hlives, hshows⟩
      · refine ⟨by rw [hstate, hlast]; exact hboth.2, fun reason hclose => ?_,
          by rw [hstate]; exact hboth.1⟩
        rw [hsince] at hclose
        rcases List.mem_append.mp hclose with hclose | hclose
        · exact absurd hclose (hopen reason)
        · cases List.mem_singleton.mp hclose
    · have hphase : (h.state.onSignal (.closeRequest reason)).phase =
          .exiting (if h.state.loader.ready then 0 else -1) := h.state.phase_onCloseRequest
      show _ ↔ h.state.loader.ready = true
      by_cases hready : h.state.loader.ready = true
      · rw [if_pos hready] at hphase
        refine iff_of_true ⟨fun w hw => ?_, fun _ _ => ?_, ?_⟩ hready
        · rw [hstate] at hw
          rw [hF.shows w (h.state.loader_onCloseRequest ▸ hw), hsince, List.foldl_append]
          rfl
        · rw [hstate, hphase]
        · rw [hstate]
          exact .inr hphase
      · refine iff_of_false (fun hF' => ?_) hready
        have hlives := hF'.lives
        rw [hstate, hphase, if_neg hready] at hlives
        rcases hlives with hlives | hlives <;> cases hlives

/-- A process that starts is not subscribed. -/
theorem listens_start (settings : Settings) (loading : Loading) :
    Listens (DirectRunner.start settings loading).manager := by
  unfold DirectRunner.start
  dsimp only
  split <;> exact fun hsubscribed => nomatch hsubscribed

/-- A process that goes on after its start follows its messages so far exactly when the file is a
window with a handle: a view that is made for an item does not show the parameters. -/
theorem followsMessages_start_iff {settings : Settings} {loading : Loading}
    (hrunning : (DirectRunner.start settings loading).phase = .running) :
    FollowsMessages (.start settings loading) settings.params.toObject
      (.init (.start settings loading)) ↔ loading.topLevel = .window true := by
  have hwindow : ∃ hasHandle shown,
      (DirectRunner.start settings loading).loader.window = some ⟨hasHandle, shown⟩ ∧
        shown = if loading.topLevel = .window true then some settings.params.toObject
          else none := by
    unfold DirectRunner.start at hrunning ⊢
    dsimp only at hrunning ⊢
    cases hload : ({} : AppLoader).loadApplication settings.appId settings.params.toObject
        loading with
    | none =>
      rw [hload] at hrunning
      -- the process has crashed, and would not be running
      cases hrunning
    | some result =>
      obtain ⟨loads, loader⟩ := result
      rw [hload] at hrunning
      cases loads with
      -- the file did not load, and the process is on its way out
      | false => cases hrunning
      | true =>
        rcases AppLoader.window_of_loaded hload with ⟨hfalse, -⟩ | ⟨-, hthere⟩
        · cases hfalse
        · exact hthere
  obtain ⟨hasHandle, shown, hw, hshown⟩ := hwindow
  have hiff := launchParams_eq_iff settings.params.toObject loading.topLevel
  rw [← hshown] at hiff
  rw [← hiff]
  refine ⟨fun hF => hF.shows _ hw, fun heq => ⟨fun w' hw' => ?_, ?_, .inl hrunning⟩⟩
  · rw [← Option.some.inj (hw.symm.trans hw')]
    exact heq
  · exact fun _ hclose => absurd hclose List.not_mem_nil

/-- **The application follows its messages.** A process that has been started on its own: at every
event boundary it shows the parameters of the last relaunch, or those of its start, it has left if
it has been told to, and it has not ended in another way. This is so exactly when the file is a
window with a handle, every message finds the component ready, and every relaunch finds a window
that can show its parameters or shows them already. -/
theorem follows_messages_iff {fromJson : String → QJsonObject} {arguments : List String}
    {loading : Loading} (hmain : main fromJson arguments loading = some r)
    (hrunning : r.phase = .running)
    {es : List DirectEvent} (hes : directRunner.Admits FromSubscription (.init r) es) :
    directRunner.Always
        (FollowsMessages r (readArguments fromJson {} arguments).params.toObject) (.init r) es ↔
      loading.topLevel = .window true ∧ directRunner.Admits ObeysMessages (.init r) es := by
  unfold main at hmain
  generalize readArguments fromJson {} arguments = settings at hmain ⊢
  obtain ⟨-, hstart⟩ := Option.ite_none_left_eq_some.mp hmain
  obtain rfl := Option.some.inj hstart
  have hbegins := followsMessages_start_iff hrunning
  -- from a start that shows the parameters, the rest is a matter of the messages
  have hgoes (hF : FollowsMessages (.start settings loading) settings.params.toObject
      (.init (.start settings loading))) :=
    Machine.always_iff_admits (I := DirectInv (.start settings loading))
      (fun _ e hI _ => directInv_step hI e)
      (fun _ _ hI hF hE => followsMessages_step_iff hI hF hE)
      ⟨rfl, listens_start settings loading⟩ hF hes
  constructor
  · intro hall
    have hF := Machine.always_iff_boundaries.mp hall [] List.nil_prefix
    exact ⟨hbegins.mp hF, (hgoes hF).mp hall⟩
  · rintro ⟨htop, hobeys⟩
    exact (hgoes (hbegins.mpr htop)).mpr hobeys

/-- What is parsed from the arguments of an application. -/
def namedApp (_ : String) : QJsonObject :=
  (({} : QJsonObject).insert "main" (.string "main.qml")).insert "appId" (.string "app")

/-- A process that was started with this argument, and has a window. -/
def startedApp : DirectRunner :=
  .start (readArguments namedApp {} ["qml-runner", "\x7b\x7d"]) ⟨.ready, .ready, .window true⟩

/-- The slot is connected twice, as the first call fails. Then come a relaunch and the end. -/
def relaunchAndClose : List DirectEvent :=
  [.serverStatus (({} : QJsonObject).insert "connected" (.bool true)) none,
    .serverStatus (({} : QJsonObject).insert "connected" (.bool true)) (some 7),
    .messageReceived ((({} : QJsonObject).insert "event" (.string "relaunch")).insert "parameters"
      (.object [("target", .string "page")])),
    .messageReceived (({} : QJsonObject).insert "event" (.string "close"))]

/-- The window shows the parameters of the relaunch, and the process has ended in order. -/
theorem follows_messages_iff_relaunchAndClose :
    directRunner.Always (FollowsMessages startedApp {}) (.init startedApp) relaunchAndClose := by
  have hadmits : directRunner.Admits ObeysMessages (.init startedApp) relaunchAndClose := by
    refine ⟨?_, ?_, ?_, ?_, trivial⟩
    · exact fun signal hheard => by cases hheard
    · exact fun signal hheard => by cases hheard
    · exact fun signal hheard => by
        cases hheard
        exact ⟨rfl, _, rfl, .inl rfl⟩
    · exact fun signal hheard => by
        cases hheard
        rfl
  have hanswers : directRunner.Admits FromSubscription (.init startedApp) relaunchAndClose :=
    ⟨trivial, trivial, rfl, rfl, trivial⟩
  have hmain : main namedApp ["qml-runner", "\x7b\x7d"] ⟨.ready, .ready, .window true⟩ =
      some startedApp := rfl
  exact (follows_messages_iff hmain rfl hanswers).mpr ⟨rfl, hadmits⟩

end Runner
