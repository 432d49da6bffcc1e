import WebosFramework.Booster.Processes
import WebosFramework.Booster.RunningApps

/-!
# The running list and the live processes

`m_runningApps` is what the bus service reports as running and what it decides by. A process leaves
it when `LaunchManager::processFinished` is handled, and enters it when a successful LAUNCH_REPLY is
read. The two come over different file descriptors, so a reply may be read when the process behind
it has finished already, and then nobody takes the entry out again.

`running_apps_live_iff` says that this is the only way: the list names processes that have not
finished in exactly those runs in which no successful LAUNCH_REPLY is read from a finished process.
-/

namespace Booster

open Qt EventLoop

namespace Daemon

variable {fromJson : String → QJsonObject}

/-! ## One event

A successful LAUNCH_REPLY is the only event that lists a process. It may come late, when the
process has finished, and then the entry stays, since no `processFinished` follows any more. -/

/-- The running list names processes that have not finished. -/
def RunningLive (d : Daemon) : Prop :=
  ∀ (a : String) p, d.server.state.runningApps[a]? = some p → p ∉ d.finished

/-- A successful LAUNCH_REPLY comes from a process that has not finished. -/
def RepliesAlive (d : Daemon) : Event → Prop
  | .socket (.readSocket s message _) =>
    header message = some .launchReply → errorCode message = 0 →
      d.server.state.processId s ∉ d.finished
  | _ => True

instance (d : Daemon) : DecidablePred d.RepliesAlive
  | .socket (.readSocket s message _) =>
    inferInstanceAs (Decidable (header message = some .launchReply → errorCode message = 0 →
      d.server.state.processId s ∉ d.finished))
  | .socket (.newConnection _) | .socket (.disconnected _) | .socket (.closed _)
  | .socket (.deleted _) | .launch .. | .close .. | .running _ | .timer .. | .processFinished ..
  | .processError _ | .processDestroyed _ => .isTrue trivial

/-- The invariants of the server, in a run of the daemon. -/
structure ServerInv (d : Daemon) : Prop where
  /-- What its handlers keep true of the sockets. -/
  sockets : IpcServer.SocketsInv d.server.state
  /-- What they keep true of the running applications. -/
  running : IpcServer.RunningInv d.server.state

/-- What is known of the server is kept by the slot that an event runs, if it runs one. -/
theorem serverInv_step {h : DaemonHistory} (hinv : ServerInv h.state) {e : Event}
    (he : h.state.RunnerProtocol fromJson e) : ServerInv ((boosterd fromJson).step h e).state := by
  have hserver := server_step fromJson h e
  cases hevent : h.state.serverEvent fromJson e with
  | none =>
    rw [hevent] at hserver
    exact ⟨hserver ▸ hinv.sockets, hserver ▸ hinv.running⟩
  | some e' =>
    rw [hevent] at hserver
    have hprotocol := he e' hevent
    have hsockets := hinv.sockets.step hprotocol.life hprotocol.once
    have hrunning := hinv.running.step
      (IpcServer.fixedRunners_of_protocol hinv.sockets hinv.running hprotocol)
    exact ⟨hserver ▸ hsockets, hserver ▸ hrunning⟩

/-- An event that neither is a successful LAUNCH_REPLY nor ends a process keeps the list live. -/
theorem live_of_other {h : DaemonHistory} (hlive : h.state.RunningLive) {e : Event}
    (hfinished : finishedBy e = [])
    (he : ∀ s message now, e = .socket (.readSocket s message now) →
      ¬(header message = some .launchReply ∧ errorCode message = 0)) :
    ((boosterd fromJson).step h e).state.RunningLive := by
  intro a p ha
  have hfinished' := finished_handle fromJson h.state e
  rw [hfinished, List.append_nil] at hfinished'
  rw [Machine.step_state, boosterd, hfinished']
  refine hlive a p ?_
  rw [server_step] at ha
  cases hevent : h.state.serverEvent fromJson e with
  | none => rwa [hevent] at ha
  | some e' =>
    rw [hevent] at ha
    refine IpcServer.runningApps_sub h.state.server.state (fun s message now hread => ?_) ha
    subst hread
    exact he s message now (socket_of_serverEvent hevent)

/-- **One event.** It keeps the list live exactly when it is not a late reply. The end of a process
takes its entry out, because the two maps of the server agree. -/
theorem live_step_iff {h : DaemonHistory} (hinv : ServerInv h.state) (hlive : h.state.RunningLive)
    (e : Event) :
    ((boosterd fromJson).step h e).state.RunningLive ↔ h.state.RepliesAlive e := by
  cases e with
  | socket e =>
    cases e with
    | readSocket s message now =>
      by_cases hreply : header message = some .launchReply ∧ errorCode message = 0
      · have hfinished : ((boosterd fromJson).step h
            (.socket (.readSocket s message now))).state.finished = h.state.finished :=
          (finished_handle fromJson h.state (.socket (.readSocket s message now))).trans
            (List.append_nil _)
        have happs : ((boosterd fromJson).step h
            (.socket (.readSocket s message now))).state.server.state.runningApps = _ :=
          (IpcServer.maps_of_launchReply h.state.server.state s now hreply.1 hreply.2).1
        simp only [RunningLive, RepliesAlive, hfinished, happs, QMap.getElem?_insert]
        -- the new entry is live just in case its process has not finished
        constructor
        · intro hlive' _ _
          exact hlive' ((h.state.server.state.socket s).appId.getD "") _ (if_pos rfl)
        · intro halive a p ha
          split at ha
          · cases ha
            exact halive hreply.1 hreply.2
          · exact hlive a p ha
      · -- only a LAUNCH_REPLY adds an entry
        refine ⟨fun _ hheader hcode => absurd ⟨hheader, hcode⟩ hreply, fun _ => ?_⟩
        refine live_of_other hlive rfl fun s' message' now' he => ?_
        cases he
        exact hreply
    | newConnection | disconnected | closed | deleted =>
      exact ⟨fun _ => trivial, fun _ => live_of_other hlive rfl fun _ _ _ he => by cases he⟩
  | processFinished pid exitCode exitStatus =>
    refine ⟨fun _ => trivial, fun _ a p ha hmem => ?_⟩
    have hfinished := finished_handle fromJson h.state (.processFinished pid exitCode exitStatus)
    rw [Machine.step_state, boosterd, hfinished] at hmem
    -- an entry that survives is that of another process
    obtain ⟨ha, hother⟩ := IpcServer.runningApps_removeProcess.mp ha
    rcases List.mem_append.mp hmem with hmem | hmem
    · exact hlive a p ha hmem
    · obtain rfl := List.mem_singleton.mp hmem
      exact hother rfl (congrArg (·.getD "") (hinv.running.app a p ha))
  | launch | close | running | timer | processError | processDestroyed =>
    exact ⟨fun _ => trivial, fun _ => live_of_other hlive rfl fun _ _ _ he => by cases he⟩

/-! ## Whole runs

The condition is exact in every step, so it is exact for runs. -/

/-- A server that starts has no sockets, and knows of no application. -/
theorem serverInv_start (maxCached : Int) (runnerCommand : String) :
    ServerInv (start maxCached runnerCommand) :=
  ⟨IpcServer.SocketsInv.init, IpcServer.RunningInv.init⟩

/-- **The running list names live processes**, exactly in the runs in which no successful
LAUNCH_REPLY is read from a process that has finished.

By `Machine.always_iff_admits` with `ServerInv`: nothing but a successful LAUNCH_REPLY adds to the
running list, so a step keeps what is listed alive just in case the sender of that reply still is.
-/
theorem running_apps_live_iff (fromJson : String → QJsonObject) (maxCached : Int)
    (runnerCommand : String) (es : List Event)
    (hes : (boosterd fromJson).Admits (fun h e => h.state.RunnerProtocol fromJson e)
      (.init (start maxCached runnerCommand)) es) :
    (boosterd fromJson).Always (fun h => h.state.RunningLive)
        (.init (start maxCached runnerCommand)) es ↔
      (boosterd fromJson).Admits (fun h e => h.state.RepliesAlive e)
        (.init (start maxCached runnerCommand)) es :=
  Machine.always_iff_admits (I := fun h => ServerInv h.state)
    (fun _ _ hinv he => serverInv_step hinv he)
    (fun _ e hinv hlive _ => live_step_iff hinv hlive e)
    (serverInv_start maxCached runnerCommand) (fun a p ha => by simp [start, History.init] at ha)
    hes

/-- An application is launched and closed, and ends in time. -/
def launchAndClose : List Event :=
  [.timer 1 100 0,
    .socket (.newConnection 1),
    .socket (.readSocket 1 (IpcClient.registerRequest 100) 10),
    .launch ⟨0, some (({} : QJsonObject).insert "appId" (.string "com.webos.app.a"))⟩ 20,
    .socket (.readSocket 1 (IpcClient.launchReply "" true) 30),
    .close ⟨1, some (({} : QJsonObject).insert "appId" (.string "com.webos.app.a"))⟩ 40,
    .processFinished 100 0 .normalExit]

/-- Each application is gone from the list when its process is. -/
theorem running_apps_live_launchAndClose :
    (boosterd fun _ => {}).Always (fun h => h.state.RunningLive)
      (.init (start 1 "qml-runner --interactive")) launchAndClose :=
  (running_apps_live_iff _ _ _ launchAndClose (by decide)).mpr (by decide)

/-- The runner replies and dies, and its end is handled before its reply. -/
def lateReply : List Event :=
  [.timer 1 100 0,
    .socket (.newConnection 1),
    .socket (.readSocket 1 (IpcClient.registerRequest 100) 10),
    .launch ⟨0, some (({} : QJsonObject).insert "appId" (.string "com.webos.app.a"))⟩ 20,
    .processFinished 100 1 .crashExit,
    .socket (.readSocket 1 (IpcClient.launchReply "" true) 30)]

/-- The process finishes first, and its reply is read after that. It stays on the list. -/
theorem not_running_apps_live_lateReply :
    (boosterd fun _ => {}).Admits (fun h e => h.state.DaemonProtocol (fun _ => {}) e)
        (.init (start 1 "qml-runner --interactive")) lateReply ∧
      ¬ (boosterd fun _ => {}).Always (fun h => h.state.RunningLive)
        (.init (start 1 "qml-runner --interactive")) lateReply := by
  refine ⟨by decide, fun hall => ?_⟩
  exact hall.last "com.webos.app.a" 100 (by decide) (by decide)

end Daemon

end Booster
