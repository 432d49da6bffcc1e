import Mathlib.Algebra.Group.Nat.Defs
import WebosFramework.Qt.Containers
import WebosFramework.Lib.EventLoop

/-!
# The launch manager

`LaunchManager` of `tools/booster/launchmanager.{h,cpp}`: it starts runners ahead of time until the
pool has `m_maxPreCachedRunners` of them, and closes runners on request, by signal first and by
force when they do not end in time.

* A `QProcess` is known by its dynamic property "pid". Qt's own part of it, the running program, is
  not modelled; its signals are events.
* A timer id is what `startTimer` returned, counted up, and `none` is the id -1 of the source. A
  timer that has been killed does not fire.
* Two values come from outside with an event: the clock, and the pid a process gets that is started.
* Intervals are not negative. `main` delays a launch by 1000 ms; the environment may set
  `CLOSE_TIMEOUT` to any number, but Qt starts no timer for one below 0, and those are left out.
* The wait of a closing process is a C++ `int`, so it is cut to 32 bits.

The last section says what each handler does to the two fields that decide about new runners,
`m_startingUp` and `m_launchTimerId`.

What the manager asks of Qt and of the processes is an `Action`, in the order of the calls. The
signal `processFinished` is one, as it is emitted among them.
-/

namespace Booster

open Qt EventLoop

/-- `QProcess::ExitStatus`, with which a process finishes. -/
inductive ExitStatus where
  | normalExit
  | crashExit
  deriving DecidableEq

/-- Timers are told apart by what `startTimer` has returned. -/
abbrev TimerId := Nat

/-- The dynamic properties of a `QProcess` that the manager sets and reads. -/
structure Process where
  /-- The dynamic property "timestamp". -/
  timestamp : Int := 0
  /-- The dynamic property "killed". -/
  killed : Bool := false

/-- The members of the manager, without the prefix `m_`. -/
structure LaunchManager where
  /-- How many runners are to wait in the pool. -/
  maxPreCachedRunners : Int
  /-- The interval of the launch timer. -/
  launchDelay : Nat
  launchRunnerCommand : String
  /-- `CLOSE_TIMEOUT`, which the environment may set. -/
  closeTimeout : Nat := 1000
  /-- The timer that stands for the next runner to be started. -/
  launchTimerId : Option TimerId := none
  /-- The timer that all closing runners share. -/
  closeTimerId : Option TimerId := none
  /-- Runners that have been started and have not registered. -/
  startingUp : QSet Int := ∅
  /-- Runners that have been asked to end. -/
  closing : QSet Int := ∅
  /-- The processes that there are. -/
  running : QMap Int Process := ∅
  /-- The id of the timer started next. -/
  nextTimerId : TimerId := 1

/-- What a handler does to the outside. -/
inductive Action where
  | startTimer (id : TimerId) (interval : Int)
  | killTimer (id : TimerId)
  | start (pid : Int) (command : String)
  /-- The process is sent a signal. -/
  | terminate (pid : Int)
  /-- It is ended by force. -/
  | kill (pid : Int)
  /-- Its `QProcess` is going to be destroyed. -/
  | deleteLater (pid : Int)
  | processFinished (pid : Int) (exitCode : Int) (exitStatus : ExitStatus)
  deriving DecidableEq

namespace LaunchManager

/-- The constructor. -/
def new (maxPrestarted : Int) (delay : Nat) (command : String) (closeTimeout : Nat) :
    LaunchManager where
  maxPreCachedRunners := maxPrestarted
  launchDelay := delay
  launchRunnerCommand := command
  closeTimeout := closeTimeout

/-- A new launch timer is started. One that is still running is forgotten. -/
def startLaunchTimer (lm : LaunchManager) (interval : Int) : LaunchManager × List Action :=
  ({ lm with launchTimerId := some lm.nextTimerId, nextTimerId := lm.nextTimerId + 1 },
    [.startTimer lm.nextTimerId interval])

/-- And so is a new close timer. No interval is negative here. -/
def startCloseTimer (lm : LaunchManager) (interval : Int) : LaunchManager × List Action :=
  ({ lm with closeTimerId := some lm.nextTimerId, nextTimerId := lm.nextTimerId + 1 },
    [.startTimer lm.nextTimerId interval])

/-- `if (m_launchTimerId != -1)`: the timer is killed. -/
def killLaunchTimer (lm : LaunchManager) : LaunchManager × List Action :=
  ({ lm with launchTimerId := none }, lm.launchTimerId.toList.map .killTimer)

/-- `onConnectedRunnersCountChanged`: runners are missing if those in the pool and those that are
starting up are fewer than there should be. The timer that is running is killed in any case. -/
def onConnectedRunnersCountChanged (lm : LaunchManager) (number : Int) :
    LaunchManager × List Action :=
  let pending := lm.maxPreCachedRunners - (lm.startingUp.size + number)
  let killed := lm.killLaunchTimer
  if pending > 0 then
    let started := killed.1.startLaunchTimer lm.launchDelay
    (started.1, killed.2 ++ started.2)
  else killed

/-- `onRunnerReady`, for a runner that has registered. -/
def onRunnerReady (lm : LaunchManager) (processId : Int) : LaunchManager :=
  { lm with startingUp := lm.startingUp.erase processId }

/-- `terminate`; the flag is its result. -/
def terminate (lm : LaunchManager) (processId : Int) (now : Int) :
    Bool × LaunchManager × List Action :=
  if processId ∈ lm.closing then (false, lm, [])
  else
    match lm.running[processId]? with
    | none => (false, lm, [])
    | some process =>
      let lm' :=
        { lm with
          closing := lm.closing.insert processId
          running := lm.running.insert processId { process with timestamp := now } }
      match lm.closeTimerId with
      | some _ => (true, lm', [.terminate processId])
      | none =>
        let started := lm'.startCloseTimer lm.closeTimeout
        (true, started.1, started.2 ++ [.terminate processId])

/-- `launchRunner`. The process gets `pid` from the system. -/
def launchRunner (lm : LaunchManager) (pid : Int) : LaunchManager × List Action :=
  ({ lm with
      startingUp := lm.startingUp.insert pid
      running := lm.running.insert pid {} },
    [.start pid lm.launchRunnerCommand])

/-- `const int wait = (timestamp + CLOSE_TIMEOUT) - now` -/
def closeWait (lm : LaunchManager) (process : Process) (now : Int) : Int :=
  (process.timestamp + lm.closeTimeout - now).bmod (2 ^ 32)

/-- One turn of the loop of `closeTimeoutHandler`, with `timeTillNextKill` and what was done so
far. -/
def closeTimeoutStep (now : Int) (acc : LaunchManager × Int × List Action) (pid : Int) :
    LaunchManager × Int × List Action :=
  match acc.1.running[pid]? with
  -- a null pointer in the source; a closing process is in `m_running`
  | none => acc
  | some process =>
    let wait := acc.1.closeWait process now
    if wait > 0 then
      (acc.1, if acc.2.1 ≠ 0 then min wait acc.2.1 else wait, acc.2.2)
    else
      ({ acc.1 with
          closing := acc.1.closing.erase pid
          running := acc.1.running.insert pid { process with killed := true } },
        acc.2.1, acc.2.2 ++ [.kill pid])

/-- The loop runs over the `m_closing` at its start. -/
def closeTimeoutLoop (lm : LaunchManager) (now : Int) : LaunchManager × Int × List Action :=
  lm.closing.toList.foldl (closeTimeoutStep now) (lm, 0, [])

/-- `closeTimeoutHandler`. The timer is armed for the next process, if any has time left. -/
def closeTimeoutHandler (lm : LaunchManager) (now : Int) : LaunchManager × List Action :=
  let result := lm.closeTimeoutLoop now
  if result.2.1 ≠ 0 then
    let started := result.1.startCloseTimer result.2.1
    (started.1, result.2.2 ++ started.2)
  else (result.1, result.2.2)

/-- `timerEvent`. Both timers are killed when they fire, so they fire once. -/
def timerEvent (lm : LaunchManager) (timerId : TimerId) (pid : Int) (now : Int) :
    LaunchManager × List Action :=
  if lm.closeTimerId = some timerId then
    let result := { lm with closeTimerId := none }.closeTimeoutHandler now
    (result.1, .killTimer timerId :: result.2)
  else if lm.launchTimerId = some timerId then
    let result := { lm with launchTimerId := none }.launchRunner pid
    (result.1, .killTimer timerId :: result.2)
  else (lm, [])

/-- `onProcessFinished`. If a runner ends before it has registered, the next one is started after
five seconds, whatever timer is running. -/
def onProcessFinished (lm : LaunchManager) (processId : Int) (exitCode : Int)
    (exitStatus : ExitStatus) : LaunchManager × List Action :=
  let leave : List Action :=
    [.processFinished processId exitCode exitStatus, .deleteLater processId]
  if processId ∈ lm.startingUp then
    let killed := { lm with startingUp := lm.startingUp.erase processId }.killLaunchTimer
    let started := killed.1.startLaunchTimer 5000
    (started.1, killed.2 ++ started.2 ++ leave)
  else (lm, leave)

/-- `onProcessError`; whether the process was killed decides about the log line only. -/
def onProcessError (lm : LaunchManager) (processId : Int) : LaunchManager × List Action :=
  (lm, [.deleteLater processId])

/-- `onProcessDestroyed`: nothing is known of the process any more. -/
def onProcessDestroyed (lm : LaunchManager) (processId : Int) : LaunchManager :=
  { lm with
    startingUp := lm.startingUp.erase processId
    running := lm.running.erase processId
    closing := lm.closing.erase processId }

end LaunchManager

/-! ## Events

The slots and the timers of the manager, which are all that the rest of the daemon can run. -/

/-- The slots of the manager, and its timers. -/
inductive ManagerEvent where
  | connectedRunnersCountChanged (number : Nat)
  | runnerReady (processId : Int)
  | terminate (processId : Int) (now : Int)
  | timer (timerId : TimerId) (pid : Int) (now : Int)
  | processFinished (processId : Int) (exitCode : Int) (exitStatus : ExitStatus)
  | processError (processId : Int)
  | processDestroyed (processId : Int)

/-- The slot that an event runs. -/
def LaunchManager.handle (lm : LaunchManager) : ManagerEvent → LaunchManager × List Action
  | .connectedRunnersCountChanged number => lm.onConnectedRunnersCountChanged number
  | .runnerReady processId => (lm.onRunnerReady processId, [])
  | .terminate processId now => (lm.terminate processId now).2
  | .timer timerId pid now => lm.timerEvent timerId pid now
  | .processFinished processId exitCode exitStatus =>
    lm.onProcessFinished processId exitCode exitStatus
  | .processError processId => lm.onProcessError processId
  | .processDestroyed processId => (lm.onProcessDestroyed processId, [])

/-- The manager reacting to one event after the other. -/
def launchManager : Machine LaunchManager ManagerEvent Action where
  handle := LaunchManager.handle

/-- A manager, the events so far, and what it has done. -/
abbrev ManagerHistory := History LaunchManager ManagerEvent Action

namespace LaunchManager

/-! ## Runners that are starting up

Most handlers have nothing to do with `m_startingUp` and with the launch timer, and `SameStart`
says so once for all of them. The others are spelled out one by one. -/

/-- The launch timer is armed. -/
def armed (lm : LaunchManager) : Bool := lm.launchTimerId.isSome

/-- What the part of a handler that has no business with new runners leaves alone. -/
structure SameStart (lm lm' : LaunchManager) : Prop where
  maxPreCachedRunners : lm'.maxPreCachedRunners = lm.maxPreCachedRunners
  startingUp : lm'.startingUp = lm.startingUp
  launchTimerId : lm'.launchTimerId = lm.launchTimerId

/-- The start of runners is the same through two steps. -/
theorem SameStart.trans {lm lm' lm'' : LaunchManager} (h : SameStart lm lm')
    (h' : SameStart lm' lm'') : SameStart lm lm'' where
  maxPreCachedRunners := h'.maxPreCachedRunners.trans h.maxPreCachedRunners
  startingUp := h'.startingUp.trans h.startingUp
  launchTimerId := h'.launchTimerId.trans h.launchTimerId

/-- The launch timer is armed as before. -/
theorem SameStart.armed {lm lm' : LaunchManager} (h : SameStart lm lm') : lm'.armed = lm.armed :=
  congrArg Option.isSome h.launchTimerId

/-- A turn of the loop touches closing processes only. -/
theorem sameStart_closeTimeoutStep (now : Int) (acc : LaunchManager × Int × List Action)
    (pid : Int) : SameStart acc.1 (closeTimeoutStep now acc pid).1 := by
  unfold closeTimeoutStep
  split
  · exact ⟨rfl, rfl, rfl⟩
  · dsimp only
    split <;> exact ⟨rfl, rfl, rfl⟩

/-- So does the loop, by induction on the processes. -/
theorem sameStart_closeTimeoutLoop (now : Int) (pids : List Int)
    (acc : LaunchManager × Int × List Action) :
    SameStart acc.1 (pids.foldl (closeTimeoutStep now) acc).1 := by
  induction pids generalizing acc with
  | nil => exact ⟨rfl, rfl, rfl⟩
  | cons pid pids ih => exact (sameStart_closeTimeoutStep now acc pid).trans (ih _)

/-- Closing runners does not start any. -/
theorem sameStart_closeTimeoutHandler (lm : LaunchManager) (now : Int) :
    SameStart lm (lm.closeTimeoutHandler now).1 := by
  have h := sameStart_closeTimeoutLoop now lm.closing.toList (lm, 0, [])
  unfold closeTimeoutHandler
  dsimp only
  split
  · exact h.trans ⟨rfl, rfl, rfl⟩
  · exact h

/-- Neither does asking one to close. -/
theorem sameStart_terminate (lm : LaunchManager) (processId now : Int) :
    SameStart lm (lm.terminate processId now).2.1 := by
  unfold terminate
  split
  · exact ⟨rfl, rfl, rfl⟩
  · split
    · exact ⟨rfl, rfl, rfl⟩
    · dsimp only
      split <;> exact ⟨rfl, rfl, rfl⟩

/-! ### The handlers, one by one

What the three handlers that start runners do to `m_startingUp` and to the launch timer. -/

@[simp] theorem startingUp_onConnectedRunnersCountChanged (lm : LaunchManager) (number : Int) :
    (lm.onConnectedRunnersCountChanged number).1.startingUp = lm.startingUp := by
  unfold onConnectedRunnersCountChanged
  dsimp only
  split <;> rfl

/-- The timer is armed anew exactly when runners are missing. -/
@[simp] theorem armed_onConnectedRunnersCountChanged (lm : LaunchManager) (number : Int) :
    (lm.onConnectedRunnersCountChanged number).1.armed =
      decide (lm.startingUp.size + number < lm.maxPreCachedRunners) := by
  unfold onConnectedRunnersCountChanged
  dsimp only
  by_cases hpending : lm.maxPreCachedRunners - (lm.startingUp.size + number) > 0
  · rw [if_pos hpending, decide_eq_true (by omega)]
    rfl
  · rw [if_neg hpending, decide_eq_false (by omega)]
    rfl

/-- A timer event starts a runner if it is the launch timer's, and nothing new otherwise. -/
theorem timerEvent_cases (lm : LaunchManager) (timerId : TimerId) (pid now : Int) :
    SameStart lm (lm.timerEvent timerId pid now).1 ∨
      lm.armed = true ∧ (lm.timerEvent timerId pid now).1.armed = false ∧
        (lm.timerEvent timerId pid now).1.startingUp = lm.startingUp.insert pid := by
  unfold timerEvent
  split
  · left
    have h := sameStart_closeTimeoutHandler { lm with closeTimerId := none } now
    exact ⟨h.maxPreCachedRunners, h.startingUp, h.launchTimerId⟩
  · split
    · rename_i hlaunch
      exact .inr ⟨by simp [armed, hlaunch], rfl, rfl⟩
    · exact .inl ⟨rfl, rfl, rfl⟩

/-- A runner that ends while it is starting up is replaced. -/
theorem onProcessFinished_cases (lm : LaunchManager) (processId exitCode : Int)
    (exitStatus : ExitStatus) :
    processId ∉ lm.startingUp ∧ (lm.onProcessFinished processId exitCode exitStatus).1 = lm ∨
      processId ∈ lm.startingUp ∧
        (lm.onProcessFinished processId exitCode exitStatus).1.armed = true ∧
        (lm.onProcessFinished processId exitCode exitStatus).1.startingUp =
          lm.startingUp.erase processId := by
  unfold onProcessFinished
  by_cases hstarting : processId ∈ lm.startingUp
  · rw [if_pos hstarting]
    exact .inr ⟨hstarting, rfl, rfl⟩
  · rw [if_neg hstarting]
    exact .inl ⟨hstarting, rfl⟩

/-- The bound on the pool is set once. -/
@[simp] theorem maxPreCachedRunners_handle (lm : LaunchManager) (e : ManagerEvent) :
    (lm.handle e).1.maxPreCachedRunners = lm.maxPreCachedRunners := by
  cases e with
  | connectedRunnersCountChanged number =>
    simp only [handle, onConnectedRunnersCountChanged]
    split <;> rfl
  | terminate processId now => exact (sameStart_terminate lm processId now).maxPreCachedRunners
  | timer timerId pid now =>
    simp only [handle, timerEvent]
    split
    · exact (sameStart_closeTimeoutHandler _ now).maxPreCachedRunners
    · split <;> rfl
  | processFinished processId exitCode exitStatus =>
    simp only [handle, onProcessFinished]
    split <;> rfl
  | runnerReady | processError | processDestroyed => rfl

end LaunchManager

end Booster
