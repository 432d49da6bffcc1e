import WebosFramework.Booster.LaunchManager
import WebosFramework.Booster.LunaService

/-!
# The booster daemon

`main` of `tools/booster/main.cpp`: one server, one launch manager and the bus service, with the
signals of each connected to the slots of the others. All three live in one event loop, and a signal
runs its slots before it returns, so an event of the daemon is an event of one of the objects
followed by what its signals lead to.

* The server and the launch manager are kept with the history of their own events. A run of the
  daemon is therefore a run of each of them (`server_step`), and what holds of their runs holds
  here.
* No slot that a signal of the server runs comes back to the server, and what the slots do to the
  manager is independent of it. So the signals of an event may be delivered when its handler is
  done, in the order in which they were emitted.

The results about the server and about the manager are carried over in this way: what an event of
the daemon means for the server is `serverEvent`, and what it means for the manager
`manager_handle`.
-/

namespace Booster

open Qt EventLoop

/-- The server and the manager of a daemon. The service has no state. -/
structure Daemon where
  server : ServerHistory LaunchCallback
  manager : ManagerHistory

/-- What may happen to a daemon: its sockets, the methods on the bus, timers and processes. -/
inductive Event where
  | socket (e : SocketEvent)
  | launch (msg : LunaServiceMessage) (now : Int)
  | close (msg : LunaServiceMessage) (now : Int)
  | running (msg : LunaServiceMessage)
  /-- `pid` is what a process gets that the event starts. -/
  | timer (timerId : TimerId) (pid : Int) (now : Int)
  | processFinished (pid : Int) (exitCode : Int) (exitStatus : ExitStatus)
  | processError (pid : Int)
  | processDestroyed (pid : Int)

/-- The clock while a socket event is handled. Only a message is handled by the clock. -/
def SocketEvent.now : SocketEvent → Int
  | .readSocket _ _ now => now
  | _ => 0

namespace Daemon

/-! ## Connections

The lambdas of `main`: which slot of the manager and which method of the service a signal of the
server runs. -/

/-- The slots of the launch manager that an output of the server runs. -/
def toManager (now : Int) : Output LaunchCallback → List ManagerEvent
  | .connectedRunnersCountChanged count => [.connectedRunnersCountChanged count]
  | .runnerRegistered processId => [.runnerReady processId]
  | .called (.relaunched _ _) pid => if pid = 0 then [.terminate pid now] else []
  | _ => []

/-- What an output of the server leads to on the bus. -/
def toBus (runningApps : QMap String Int) : Output LaunchCallback → List BusOutput
  | .called callback pid => LunaService.answer runningApps pid callback
  | _ => []

/-- A slot of the server runs, and the signals it emits are delivered. -/
def callServer (d : Daemon) (e : ServerEvent LaunchCallback) (now : Int) :
    Daemon × List BusOutput :=
  let outs := (d.server.state.handle e).2
  let server := (ipcServer LaunchCallback).step d.server e
  ({ server, manager := launchManager.run d.manager (outs.flatMap (toManager now)) },
    outs.flatMap (toBus server.state.runningApps))

/-- A slot of the launch manager runs; `processFinished`, its one signal, is delivered by
`onProcessFinished`. -/
def callManager (d : Daemon) (e : ManagerEvent) : Daemon :=
  { d with manager := launchManager.step d.manager e }

/-- The lambda connected to `LaunchManager::processFinished`. -/
def onProcessFinished (d : Daemon) (pid exitCode : Int) (exitStatus : ExitStatus) :
    Daemon × List BusOutput :=
  let data :=
    ((({} : QJsonObject).insert "pid" (.ofInt pid)).insert
      "exitCode" (.ofInt exitCode)).insert
      "exitStatus" (.string (if exitStatus = .crashExit then "crash" else "normal"))
  let removed := d.callServer (.removeProcess pid) 0
  (removed.1, removed.2 ++
    [.processFinished data, LunaService.update removed.1.server.state.runningApps false])

/-! ## Events

An event runs one handler of the server or of the manager. What it emits is delivered at once, as
the connections are direct ones. -/

/-- An event of the daemon: one handler, and what its signals lead to. -/
def handle (fromJson : String → QJsonObject) (d : Daemon) : Event → Daemon × List BusOutput
  | .socket e => d.callServer (.socket e) e.now
  | .launch msg now =>
    match LunaService.launch fromJson d.server.state.runningApps msg now with
    | .error reply => (d, [reply])
    | .ok e => d.callServer e now
  | .close msg now =>
    let closed := LunaService.close d.server.state.runningApps msg
    match closed.2 with
    | some pid => (d.callManager (.terminate pid now), [closed.1])
    | none => (d, [closed.1])
  | .running msg => (d, LunaService.running d.server.state.runningApps msg)
  | .timer timerId pid now => (d.callManager (.timer timerId pid now), [])
  | .processFinished pid exitCode exitStatus =>
    (d.callManager (.processFinished pid exitCode exitStatus)).onProcessFinished
      pid exitCode exitStatus
  | .processError pid => (d.callManager (.processError pid), [])
  | .processDestroyed pid => (d.callManager (.processDestroyed pid), [])

/-- The daemon when the event loop starts: `main` has told the manager about the empty pool. -/
def start (maxCached : Int) (runnerCommand : String) : Daemon where
  server := .init {}
  manager := launchManager.step
    (.init
      { maxPreCachedRunners := maxCached
        launchDelay := 1000
        launchRunnerCommand := runnerCommand })
    (.connectedRunnersCountChanged ({} : IpcServer LaunchCallback).connectedRunnersCount)

end Daemon

/-- The daemon reacting to one event after the other. Its outputs are those to the bus. -/
def boosterd (fromJson : String → QJsonObject) : Machine Daemon Event BusOutput where
  handle := Daemon.handle fromJson

/-- A daemon, the events so far, and what it has sent to the bus. -/
abbrev DaemonHistory := History Daemon Event BusOutput

namespace Daemon

variable {fromJson : String → QJsonObject}

/-! ## A run of the daemon is a run of the server

The results about the server alone are carried over to the daemon by `server_step`: an event of
the daemon is one event of the server, or none. -/

/-- The slot of the server that an event runs, if it runs one. -/
def serverEvent (fromJson : String → QJsonObject) (d : Daemon) :
    Event → Option (ServerEvent LaunchCallback)
  | .socket e => some (.socket e)
  | .launch msg now =>
    match LunaService.launch fromJson d.server.state.runningApps msg now with
    | .error _ => none
    | .ok e => some e
  | .processFinished pid _ _ => some (.removeProcess pid)
  | _ => none

/-- **A run of the daemon is a run of the server**: an event of the daemon is one event of the
server, or none. -/
theorem server_step (fromJson : String → QJsonObject) (h : DaemonHistory) (e : Event) :
    ((boosterd fromJson).step h e).state.server =
      match h.state.serverEvent fromJson e with
      | some e' => (ipcServer LaunchCallback).step h.state.server e'
      | none => h.state.server := by
  cases e with
  | launch msg now =>
    simp only [boosterd, Machine.step_state, handle, serverEvent]
    cases LunaService.launch fromJson h.state.server.state.runningApps msg now <;> rfl
  | close msg now =>
    simp only [boosterd, Machine.step_state, handle, serverEvent]
    split <;> rfl
  | socket | running | timer | processFinished | processError | processDestroyed => rfl

/-- An event of the daemon is a run of its manager. -/
theorem manager_handle (fromJson : String → QJsonObject) (d : Daemon) (e : Event) :
    ∃ es, (d.handle fromJson e).1.manager = launchManager.run d.manager es := by
  cases e with
  | socket e => exact ⟨_, rfl⟩
  | launch msg now =>
    simp only [handle]
    split
    · exact ⟨[], rfl⟩
    · exact ⟨_, rfl⟩
  | close msg now =>
    simp only [handle]
    split
    · exact ⟨[_], rfl⟩
    · exact ⟨[], rfl⟩
  | running msg => exact ⟨[], rfl⟩
  | processFinished pid exitCode exitStatus => exact ⟨[_], rfl⟩
  | timer timerId pid now => exact ⟨[_], rfl⟩
  | processError pid => exact ⟨[_], rfl⟩
  | processDestroyed pid => exact ⟨[_], rfl⟩

/-- The events that run a slot of the server. Only the end of a process runs `removeProcess`, and
only messages of the bus bring callbacks. -/
theorem serverEvent_cases {d : Daemon} {e : Event} {e' : ServerEvent LaunchCallback}
    (h : d.serverEvent fromJson e = some e') :
    (∃ se, e = .socket se ∧ e' = .socket se) ∨
      (∃ msg now, e = .launch msg now ∧
        LunaService.launch fromJson d.server.state.runningApps msg now = .ok e') ∨
      ∃ pid exitCode exitStatus, e = .processFinished pid exitCode exitStatus ∧
        e' = .removeProcess pid := by
  cases e with
  | socket se => exact .inl ⟨se, rfl, (Option.some.inj h).symm⟩
  | launch msg now =>
    refine .inr (.inl ⟨msg, now, rfl, ?_⟩)
    simp only [serverEvent] at h
    cases hlaunch : LunaService.launch fromJson d.server.state.runningApps msg now with
    | error reply =>
      rw [hlaunch] at h
      cases h
    | ok e =>
      rw [hlaunch] at h
      exact congrArg Except.ok (Option.some.inj h)
  | processFinished pid exitCode exitStatus =>
    exact .inr (.inr ⟨pid, exitCode, exitStatus, rfl, (Option.some.inj h).symm⟩)
  | close | running | timer | processError | processDestroyed => cases h

/-- Only a socket event of the daemon is one of the server. -/
theorem socket_of_serverEvent {d : Daemon} {e : Event} {se : SocketEvent}
    (h : d.serverEvent fromJson e = some (.socket se)) : e = .socket se := by
  rcases serverEvent_cases h with ⟨se', rfl, he⟩ | ⟨msg, now, -, hlaunch⟩ | ⟨_, _, _, -, he⟩
  · cases he
    rfl
  · obtain ⟨obj, -, ⟨-, he⟩ | ⟨-, he⟩⟩ := LunaService.launch_ok hlaunch <;> cases he
  · cases he

/-- The server is asked for a new runner when the application is not listed as running. -/
theorem launch_of_serverEvent {d : Daemon} {e : Event} {message : Message LaunchCallback}
    {time : Int} (h : d.serverEvent fromJson e = some (.launch message time)) :
    ∃ msg now obj, e = .launch msg now ∧ msg.payload = some obj ∧
      LunaService.runningPid d.server.state.runningApps message.appId = 0 ∧
      message.appId = (obj.value "appId").toString := by
  rcases serverEvent_cases h with ⟨se, -, he⟩ | ⟨msg, now, rfl, hlaunch⟩ | ⟨_, _, _, -, he⟩
  · cases he
  · obtain ⟨obj, hobj, ⟨-, he⟩ | ⟨hpid, he⟩⟩ := LunaService.launch_ok hlaunch
    · cases he
    · cases he
      exact ⟨msg, _, obj, rfl, hobj, hpid, rfl⟩
  · cases he

end Daemon

end Booster
