import WebosFramework.Booster.Main
import WebosFramework.Booster.Sockets

/-!
# The processes of the daemon

A runner is a process the launch manager has started. What has happened to the processes so far can
be read off the history of the manager: which ones it has started, which ones have finished, and
which `QProcess` objects it has released.

`DaemonProtocol` is what a daemon may rely on: the order in which a process and its `QProcess`
signal, pids that are not used again, and the protocol of the runners. As a guard it is about one
state and one event; where a result needs less, it says so.
-/

namespace Booster

open Qt EventLoop

namespace Daemon

/-! ## The past of the processes

What has become of a process is read off the events and the outputs so far: started, finished,
released, destroyed. -/

/-- The processes that have been started. -/
def started (d : Daemon) : List Int :=
  d.manager.outputs.flatMap fun
    | .start pid _ => [pid]
    | _ => []

/-- The process a manager is told has finished. -/
def finishes : ManagerEvent → List Int
  | .processFinished pid _ _ => [pid]
  | _ => []

/-- The processes whose `finished` has been handled. -/
def finished (d : Daemon) : List Int := d.manager.inputs.flatMap finishes

/-- The processes whose `QProcess` waits for its deferred delete, or has been deleted. -/
def released (d : Daemon) : List Int :=
  d.manager.outputs.flatMap fun
    | .deleteLater pid => [pid]
    | _ => []

/-- The processes whose `QProcess` has been deleted. -/
def destroyed (d : Daemon) : List Int :=
  d.manager.inputs.flatMap fun
    | .processDestroyed pid => [pid]
    | _ => []

/-! ### Who has finished, after an event

Only one handler of the daemon tells the manager that a process has finished. -/

/-- No slot that the server runs tells the manager of a process that has finished. -/
theorem finishes_toManager (now : Int) (out : Output LaunchCallback) :
    (toManager now out).flatMap finishes = [] := by
  unfold toManager
  split
  · rfl
  · rfl
  · split <;> rfl
  · rfl

/-- A call of the server finishes no process. -/
theorem finished_callServer (d : Daemon) (e : ServerEvent LaunchCallback) (now : Int) :
    (d.callServer e now).1.finished = d.finished := by
  have hnone : ((d.server.state.handle e).2.flatMap (toManager now)).flatMap finishes = [] := by
    rw [List.flatMap_assoc, List.flatMap_eq_nil_iff]
    exact fun out _ => finishes_toManager now out
  unfold finished callServer
  rw [Machine.run_inputs, List.flatMap_append, hnone, List.append_nil]

/-- A call of the manager finishes what it says. -/
theorem finished_callManager (d : Daemon) (e : ManagerEvent) :
    (d.callManager e).finished = d.finished ++ finishes e := by
  unfold finished callManager
  rw [Machine.step_inputs, List.flatMap_append, List.flatMap_singleton]

/-- The process an event reports as finished. -/
def finishedBy : Event → List Int
  | .processFinished pid _ _ => [pid]
  | _ => []

/-- Only the handler of `finished` adds to those that have finished. The list only grows, so a
process that has finished stays so. -/
theorem finished_handle (fromJson : String → QJsonObject) (d : Daemon) (e : Event) :
    (d.handle fromJson e).1.finished = d.finished ++ finishedBy e := by
  cases e with
  | socket e => exact (finished_callServer d _ _).trans (List.append_nil _).symm
  | launch msg now =>
    refine Eq.trans ?_ (List.append_nil _).symm
    simp only [handle]
    split
    · rfl
    · exact finished_callServer d _ _
  | close msg now =>
    refine Eq.trans ?_ (List.append_nil _).symm
    simp only [handle]
    split
    · exact (finished_callManager d _).trans (List.append_nil _)
    · rfl
  | running msg => exact (List.append_nil _).symm
  | processFinished pid exitCode exitStatus =>
    exact (finished_callServer _ _ _).trans (finished_callManager d _)
  | timer timerId pid now => exact finished_callManager d _
  | processError pid => exact finished_callManager d _
  | processDestroyed pid => exact finished_callManager d _

/-! ## Guards

What the operating system and Qt promise about processes. Each guard is a condition on one event
and the history before it, and can be decided. -/

/-- The life of a process: it gets a pid that no other process had, registers as itself, finishes
once if it has started at all, and its `QProcess` is deleted after an error or after it has
finished. -/
def ProcessLife (d : Daemon) : Event → Prop
  | .timer _ pid _ => pid ≠ 0 ∧ pid ∉ d.started
  | .socket (.readSocket _ message _) =>
    header message = some .registerRequest → registeredPid message ∈ d.started
  | .processFinished pid _ _ => pid ∈ d.started ∧ pid ∉ d.finished ∧ pid ∉ d.destroyed
  | .processError pid => pid ∈ d.started ∧ pid ∉ d.destroyed
  | .processDestroyed pid => pid ∈ d.released ∧ pid ∉ d.destroyed
  | _ => True

instance (d : Daemon) : DecidablePred d.ProcessLife
  | .timer _ pid _ => inferInstanceAs (Decidable (pid ≠ 0 ∧ pid ∉ d.started))
  | .socket (.readSocket _ message _) =>
    inferInstanceAs (Decidable (header message = some .registerRequest →
      registeredPid message ∈ d.started))
  | .processFinished pid _ _ =>
    inferInstanceAs (Decidable (pid ∈ d.started ∧ pid ∉ d.finished ∧ pid ∉ d.destroyed))
  | .processError pid => inferInstanceAs (Decidable (pid ∈ d.started ∧ pid ∉ d.destroyed))
  | .processDestroyed pid => inferInstanceAs (Decidable (pid ∈ d.released ∧ pid ∉ d.destroyed))
  | .socket (.newConnection _) | .socket (.disconnected _) | .socket (.closed _)
  | .socket (.deleted _) | .launch .. | .close .. | .running _ => .isTrue trivial

/-- The slot of the server that the event runs obeys the protocol of the runners. -/
def RunnerProtocol (fromJson : String → QJsonObject) (d : Daemon) (e : Event) : Prop :=
  ∀ e' ∈ d.serverEvent fromJson e, d.server.state.RunnerProtocol e'

instance (fromJson : String → QJsonObject) (d : Daemon) :
    DecidablePred (d.RunnerProtocol fromJson) := fun e =>
  inferInstanceAs (Decidable (∀ e' ∈ d.serverEvent fromJson e, d.server.state.RunnerProtocol e'))

/-- Processes and runners behave. -/
structure DaemonProtocol (fromJson : String → QJsonObject) (d : Daemon) (e : Event) : Prop where
  /-- A process is started before it finishes, and is destroyed at the end. -/
  process : d.ProcessLife e
  /-- Sockets and runners keep to their protocol. -/
  runner : d.RunnerProtocol fromJson e

instance (fromJson : String → QJsonObject) (d : Daemon) :
    DecidablePred (d.DaemonProtocol fromJson) := fun e =>
  decidable_of_iff (d.ProcessLife e ∧ d.RunnerProtocol fromJson e)
    ⟨fun ⟨hprocess, hrunner⟩ => ⟨hprocess, hrunner⟩, fun h => ⟨h.process, h.runner⟩⟩

end Daemon

end Booster
