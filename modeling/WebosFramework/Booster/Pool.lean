import WebosFramework.Booster.LaunchQueue
import WebosFramework.Booster.Processes

/-!
# The pool of runners

A runner is started ahead of time, registers and waits in the pool until it is launched. Who has
been started and has not registered is in `LaunchManager::m_startingUp`, who waits is in
`IpcServer::m_runnerClients`, and a timer stands for the runner that will be started next.

`Pool` is what is left of the daemon when one only counts, and `Pool.Step` what an event can do to
it. `pool_step` connects the two: each event of the daemon is a step of the pool. On the pool the
two promises of the manager are one case analysis each.

* `Bounded`: there are never more runners than the bound. It can break only when a runner joins
  whose process has ended before its registration is read: it is not in `m_startingUp` any more, and
  the runner started in its place is.
* `Refilled`: a pool that is too small has a timer armed or a runner on its way. It can break only
  when the last runner on its way is gone without having finished, that is, has failed to start.
-/

namespace Booster

open Qt EventLoop

/-! ## The pool as a counter

The abstract pool forgets everything but three things: who is starting up, how many runners wait,
and whether the launch timer is armed. `Step` lists what may happen to them. -/

/-- Who is starting up, how many wait in the pool, and whether the launch timer is armed. -/
structure Pool where
  startingUp : QSet Int
  pooled : Nat
  armed : Bool

/-- What an event means to the pool. -/
inductive PoolEvent where
  /-- A runner registers and stays in the pool. -/
  | join (pid : Int)
  /-- A process is destroyed. -/
  | gone (pid : Int)
  | other

namespace Pool

/-- All runners that are on their way or there. -/
def count (p : Pool) : Int := p.startingUp.size + p.pooled

/-- The pool after `onConnectedRunnersCountChanged(pooled)`. -/
def recount (bound : Int) (startingUp : QSet Int) (pooled : Nat) : Pool :=
  { startingUp, pooled, armed := decide (startingUp.size + (pooled : Int) < bound) }

/-- What an event can do to the numbers. Each constructor is a handler of the manager, or several
of them run one after the other by the signals of the server. -/
inductive Step (bound : Int) : PoolEvent → Pool → Pool → Prop where
  /-- Most events start and end nothing. -/
  | unchanged {p : Pool} : Step bound .other p p
  /-- A launch takes runners from the pool. -/
  | taken {p : Pool} (pooled : Nat) (hpooled : pooled ≤ p.pooled) :
      Step bound .other p (recount bound p.startingUp pooled)
  /-- A runner registers and is launched at once, as a request was waiting for it. -/
  | served {p : Pool} (pid : Int) (hpooled : p.pooled = 0) :
      Step bound .other p (recount bound (p.startingUp.erase pid) 0)
  /-- The launch timer fires. -/
  | started {p : Pool} (pid : Int) (harmed : p.armed = true) :
      Step bound .other p ⟨p.startingUp.insert pid, p.pooled, false⟩
  /-- A runner finishes before it has registered. -/
  | ended {p : Pool} (pid : Int) (hpid : pid ∈ p.startingUp) :
      Step bound .other p ⟨p.startingUp.erase pid, p.pooled, true⟩
  | joined {p : Pool} (pid : Int) :
      Step bound (.join pid) p (recount bound (p.startingUp.erase pid) (p.pooled + 1))
  | gone {p : Pool} (pid : Int) :
      Step bound (.gone pid) p ⟨p.startingUp.erase pid, p.pooled, p.armed⟩

/-- The pool is within its bound, and below it while a runner is about to be started. -/
structure Bounded (bound : Int) (p : Pool) : Prop where
  /-- There are not more runners than the bound. -/
  count : p.count ≤ max 0 bound
  /-- No other is going to be started when there are as many. -/
  armed : p.armed = true → p.count < max 0 bound

/-- A pool below its bound is being filled. -/
def Refilled (bound : Int) (p : Pool) : Prop :=
  p.count < bound → p.armed = true ∨ p.startingUp.isEmpty = false

/-! ### Sizes

Arithmetic about `m_startingUp`, and what a recount does. -/

/-- Erasing does not add anything. -/
theorem size_erase_le (s : QSet Int) (pid : Int) : (s.erase pid).size ≤ s.size := by
  rw [Std.TreeSet.size_erase]
  split <;> omega

/-- Erasing what is there takes one away. -/
theorem size_erase_of_mem {s : QSet Int} {pid : Int} (h : pid ∈ s) :
    (s.erase pid).size + 1 = s.size := by
  have hpos : s.size ≠ 0 := by
    intro hzero
    have hempty : s.isEmpty = true := by rw [Std.TreeSet.isEmpty_eq_size_eq_zero, hzero]; rfl
    exact Std.TreeSet.not_mem_of_isEmpty hempty h
  rw [Std.TreeSet.size_erase, if_pos (Std.TreeSet.mem_iff_contains.mp h)]
  omega

/-- Erasing what is not there takes none. -/
theorem size_erase_of_not_mem {s : QSet Int} {pid : Int} (h : pid ∉ s) :
    (s.erase pid).size = s.size := by
  rw [Std.TreeSet.size_erase, if_neg (fun hc => h (Std.TreeSet.mem_iff_contains.mpr hc))]

/-- A recount arms the timer exactly below the bound. -/
theorem bounded_recount_iff {bound : Int} {startingUp : QSet Int} {pooled : Nat} :
    (recount bound startingUp pooled).Bounded bound ↔
      startingUp.size + (pooled : Int) ≤ max 0 bound := by
  constructor
  · exact fun h => h.count
  · intro h
    refine ⟨h, fun harmed => ?_⟩
    have hlt : startingUp.size + (pooled : Int) < bound := of_decide_eq_true harmed
    exact Int.lt_of_lt_of_le hlt (Int.le_max_right 0 bound)

/-- When the runners are counted, the timer is armed if some are missing. -/
theorem refilled_recount {bound : Int} (startingUp : QSet Int) (pooled : Nat) :
    (recount bound startingUp pooled).Refilled bound :=
  fun hlt => .inl (decide_eq_true hlt)

/-! ### One step

The two step lemmas. Each of them goes through the constructors of `Step` once, and says exactly
when a bounded pool stays bounded, or a pool that is being filled goes on being filled. -/

/-- **Over-provisioning, step by step.** From a pool within its bound, a step leaves it exactly when
a runner joins that is not expected and for which there is no room. -/
theorem Step.bounded_iff {bound : Int} {l : PoolEvent} {p q : Pool} (h : Step bound l p q)
    (hp : p.Bounded bound) :
    q.Bounded bound ↔ ∀ pid, l = .join pid → pid ∈ p.startingUp ∨ p.count < max 0 bound := by
  have hcount := hp.count
  unfold count at hcount
  cases h with
  | unchanged => exact ⟨fun _ => nofun, fun _ => hp⟩
  -- a recount arms the timer only below the bound
  | taken pooled hpooled =>
    refine ⟨fun _ => nofun, fun _ => bounded_recount_iff.mpr ?_⟩
    omega
  | served pid hpooled =>
    refine ⟨fun _ => nofun, fun _ => bounded_recount_iff.mpr ?_⟩
    have := size_erase_le p.startingUp pid
    omega
  | started pid harmed =>
    -- the timer was armed, so there was room for one more
    refine ⟨fun _ => nofun, fun _ => ⟨?_, nofun⟩⟩
    have hroom := hp.armed harmed
    have hinsert := Std.TreeSet.size_insert_le (t := p.startingUp) (k := pid)
    unfold count at hroom ⊢
    dsimp only
    omega
  | ended pid hpid =>
    -- the timer is armed without a recount; the runner that ended has left the room for it
    have herase := size_erase_of_mem hpid
    refine ⟨fun _ => nofun, fun _ => ⟨?_, fun _ => ?_⟩⟩ <;> unfold count <;> dsimp only <;>
      omega
  | joined pid =>
    rw [bounded_recount_iff]
    -- a runner that is expected moves from one summand to the other
    by_cases hpid : pid ∈ p.startingUp
    · have herase := size_erase_of_mem hpid
      refine ⟨fun _ pid' h => .inl (by cases h; exact hpid), fun _ => ?_⟩
      push_cast
      omega
    · -- a runner that is not expected adds one, so there has to be room for it
      rw [size_erase_of_not_mem hpid]
      push_cast
      constructor
      · rintro hle pid' h
        exact .inr (by unfold count; omega)
      · intro h
        have hroom := (h pid rfl).resolve_left hpid
        unfold count at hroom
        omega
  -- one runner less, and the timer is as it was
  | gone pid =>
    have herase := size_erase_le p.startingUp pid
    refine ⟨fun _ => nofun, fun _ => ⟨?_, fun harmed => ?_⟩⟩
    · unfold count
      dsimp only
      omega
    · have hroom := hp.armed harmed
      unfold count at hroom ⊢
      dsimp only
      omega

/-- **Refilling, step by step.** A step stalls a pool that is being filled exactly when it takes the
only runner on its way while no timer is armed and runners are missing. -/
theorem Step.refilled_iff {bound : Int} {l : PoolEvent} {p q : Pool} (h : Step bound l p q)
    (hp : p.Refilled bound) :
    q.Refilled bound ↔ ∀ pid, l = .gone pid →
      ¬(pid ∈ p.startingUp ∧ p.startingUp.size = 1 ∧ p.armed = false ∧ p.pooled < bound) := by
  -- recounts, starts and exits arm the timer or leave a runner on its way
  cases h with
  | unchanged => exact ⟨fun _ => nofun, fun _ => hp⟩
  | taken | served | joined => exact ⟨fun _ => nofun, fun _ => refilled_recount _ _⟩
  | started => exact ⟨fun _ => nofun, fun _ _ => .inr Std.TreeSet.isEmpty_insert⟩
  | ended => exact ⟨fun _ => nofun, fun _ _ => .inl rfl⟩
  | gone pid =>
    -- the one step that neither counts again nor arms the timer
    by_cases hpid : pid ∈ p.startingUp
    · have herase := size_erase_of_mem hpid
      by_cases hone : p.startingUp.size = 1
      · -- it was the only one on its way, so the timer has to be armed or the pool has to be full
        have hempty : (p.startingUp.erase pid).size = 0 := by omega
        constructor
        · rintro hq pid' h ⟨-, -, harmed, hlt⟩
          have hcount : Pool.count ⟨p.startingUp.erase pid, p.pooled, p.armed⟩ < bound := by
            simpa [Pool.count, hempty] using hlt
          rcases hq hcount with hq | hq
          · rw [harmed] at hq
            cases hq
          · rw [Std.TreeSet.isEmpty_eq_size_eq_zero, hempty] at hq
            cases hq
        · intro hstall hlt
          have hpooled : (p.pooled : Int) < bound := by
            simpa [Pool.count, hempty] using hlt
          cases harmed : p.armed with
          | true => exact .inl rfl
          | false => exact absurd ⟨hpid, hone, harmed, hpooled⟩ (hstall pid rfl)
      · refine ⟨fun _ pid' h => ?_, fun _ _ => .inr ?_⟩
        · exact fun hall => hone hall.2.1
        · rw [Std.TreeSet.isEmpty_eq_size_eq_zero]
          simpa using (by omega : (p.startingUp.erase pid).size ≠ 0)
    · -- the process was not on its way
      have herase := size_erase_of_not_mem hpid
      refine ⟨fun _ pid' h => ?_, fun _ hlt => ?_⟩
      · cases h
        exact fun hall => hpid hall.1
      · have hlt' : p.count < bound := by simpa [Pool.count, herase] using hlt
        rcases hp hlt' with harmed | hne
        · exact .inl harmed
        · refine .inr ?_
          rw [Std.TreeSet.isEmpty_eq_size_eq_zero] at hne ⊢
          rwa [herase]

end Pool

/-! ## The daemon as a pool

`pool` is the abstraction of a daemon, and `poolEvent` that of an event. `pool_step` is the
refinement: whatever the daemon does is a step of the pool. -/

namespace Daemon

/-- The pool of a daemon, half of it with the manager and half with the server. -/
def pool (d : Daemon) : Pool where
  startingUp := d.manager.state.startingUp
  pooled := d.server.state.runnerClients.length
  armed := d.manager.state.armed

/-- A runner joins the pool when its REGISTER_REQUEST is read and no launch request waits for it. -/
def joining (srv : IpcServer LaunchCallback) : ServerEvent LaunchCallback → PoolEvent
  | .socket (.readSocket _ message _) =>
    if header message = some .registerRequest ∧ registeredPid message ≠ 0 ∧
        srv.deferredMessages.isEmpty then .join (registeredPid message)
    else .other
  | _ => .other

/-- No event of the server ends a process. -/
theorem joining_ne_gone (srv : IpcServer LaunchCallback) (e : ServerEvent LaunchCallback)
    (pid : Int) : joining srv e ≠ .gone pid := by
  unfold joining
  split
  · split <;> exact nofun
  · exact nofun

/-- What an event is to the pool. -/
def poolEvent (d : Daemon) : Event → PoolEvent
  | .socket e => joining d.server.state (.socket e)
  | .processDestroyed pid => .gone pid
  | _ => .other

/-! ### What the manager makes of the outputs of the server

The server may emit several counts while it handles one event. The manager reacts to each, but
only the last one matters to the pool. -/

/-- Each count that the server emits is a slot of the manager. -/
theorem flatMap_toManager_counts (now : Int) (counts : List Nat) :
    (counts.map (.connectedRunnersCountChanged (κ := LaunchCallback))).flatMap (toManager now) =
      counts.map .connectedRunnersCountChanged := by
  induction counts with
  | nil => rfl
  | cons count counts ih =>
    rw [List.map_cons, List.flatMap_cons, ih]
    rfl

/-- Of the counts a server emits, the last one decides. Each count stops the timer and starts it
again where runners are missing, and nothing else depends on it. -/
theorem run_counts (m : ManagerHistory) {counts : List Nat} {count : Nat}
    (hlast : counts.getLast? = some count) :
    (launchManager.run m (counts.map .connectedRunnersCountChanged)).state.startingUp =
        m.state.startingUp ∧
      (launchManager.run m (counts.map .connectedRunnersCountChanged)).state.armed =
        decide (m.state.startingUp.size + (count : Int) < m.state.maxPreCachedRunners) := by
  induction counts generalizing m with
  | nil => cases hlast
  | cons first counts ih =>
    have hstarting := LaunchManager.startingUp_onConnectedRunnersCountChanged m.state first
    have hbound := LaunchManager.maxPreCachedRunners_handle m.state
      (.connectedRunnersCountChanged first)
    rw [List.map_cons, Machine.run_cons]
    cases counts with
    | nil =>
      cases hlast
      exact ⟨hstarting, LaunchManager.armed_onConnectedRunnersCountChanged m.state first⟩
    | cons second counts =>
      obtain ⟨hstarting', harmed'⟩ :=
        ih (launchManager.step m (.connectedRunnersCountChanged first)) (by simpa using hlast)
      refine ⟨hstarting'.trans hstarting, harmed'.trans ?_⟩
      simp only [Machine.step_state, launchManager, hbound]
      rw [show (m.state.handle (.connectedRunnersCountChanged first)).1.startingUp =
        m.state.startingUp from hstarting]

/-- A callback asks the manager for no new runner. -/
theorem run_call (m : ManagerHistory) (now : Int) (callback : Option LaunchCallback) (pid : Int) :
    LaunchManager.SameStart m.state
      (launchManager.run m ((IpcServer.call callback pid).flatMap (toManager now))).state := by
  cases callback with
  | none => exact ⟨rfl, rfl, rfl⟩
  | some callback =>
    cases callback with
    | launched => exact ⟨rfl, rfl, rfl⟩
    | relaunched appId msg =>
      simp only [IpcServer.call, Option.toList_some, List.map_cons, List.map_nil, List.flatMap_cons,
        List.flatMap_nil, List.append_nil, toManager]
      split
      · exact LaunchManager.sameStart_terminate m.state pid now
      · exact ⟨rfl, rfl, rfl⟩

/-- The pool when a slot of the server has left `result` and the manager has heard of it. -/
def poolAfter (m : ManagerHistory) (now : Int)
    (result : IpcServer LaunchCallback × List (Output LaunchCallback)) : Pool where
  startingUp := (launchManager.run m (result.2.flatMap (toManager now))).state.startingUp
  pooled := result.1.runnerClients.length
  armed := (launchManager.run m (result.2.flatMap (toManager now))).state.armed

/-- Calling a callback does not touch the pool. -/
theorem poolAfter_call {m : ManagerHistory} {now : Int} {srv : IpcServer LaunchCallback}
    {callback : Option LaunchCallback} {pid : Int} :
    poolAfter m now (srv, IpcServer.call callback pid) =
      ⟨m.state.startingUp, srv.runnerClients.length, m.state.armed⟩ := by
  have hsame := run_call m now callback pid
  rw [poolAfter, hsame.startingUp, hsame.armed]

/-- The manager hears how many runners are in the pool, at last. -/
theorem poolAfter_counts (m : ManagerHistory) (now : Int) {srv : IpcServer LaunchCallback}
    {outs : List (Output LaunchCallback)} (counts : List Nat)
    (houts : outs.flatMap (toManager now) = counts.map .connectedRunnersCountChanged)
    (hlast : counts.getLast? = some srv.runnerClients.length) :
    poolAfter m now (srv, outs) =
      Pool.recount m.state.maxPreCachedRunners m.state.startingUp srv.runnerClients.length := by
  obtain ⟨hstarting, harmed⟩ := run_counts m hlast
  rw [poolAfter, houts, hstarting, harmed]
  rfl

/-- A `launch` takes a runner from the pool, or leaves it empty. -/
theorem poolAfter_launched (m : ManagerHistory) (now : Int) {srv : IpcServer LaunchCallback}
    {message : Message LaunchCallback} {time : Int}
    {result : IpcServer LaunchCallback × List (Output LaunchCallback)}
    (hl : srv.Launched message time result) :
    poolAfter m now result =
        Pool.recount m.state.maxPreCachedRunners m.state.startingUp result.1.runnerClients.length ∧
      result.1.runnerClients.length ≤ srv.runnerClients.length - 1 := by
  cases hl with
  | placed skipped s clients counts hpool hskipped husable hcount =>
    refine ⟨poolAfter_counts m now counts ?_ hcount, ?_⟩
    · rw [List.flatMap_append, flatMap_toManager_counts]
      exact List.append_nil _
    · rw [hpool]
      simp [IpcServer.place]
  | deferred counts hskipped hcount =>
    exact ⟨poolAfter_counts m now counts (flatMap_toManager_counts now counts) hcount,
      Nat.zero_le _⟩

/-- A slot of the server is a step of the pool. While a request waits the pool is empty, so the
runner that registers then is gone from it when the handler is done. -/
theorem pool_callServer (d : Daemon) (hidle : d.server.state.Idle)
    (e : ServerEvent LaunchCallback) (now : Int) :
    Pool.Step d.manager.state.maxPreCachedRunners (joining d.server.state e)
      d.pool (d.callServer e now).1.pool := by
  have ht := IpcServer.transition d.server.state e
  show Pool.Step _ _ d.pool (poolAfter d.manager now (d.server.state.handle e))
  generalize d.server.state.handle e = result at ht ⊢
  cases ht with
  -- the manager is told nothing
  | connected | closed | deleted | relaunchSent | relaunchLost | removed => exact .unchanged
  | refused s message time hbad =>
    have hother : joining d.server.state (.socket (.readSocket s message time)) = .other := by
      refine if_neg fun hjoin => ?_
      rcases hbad with hempty | ⟨-, hpid⟩
      · rw [header_of_isEmpty hempty] at hjoin
        cases hjoin.1
      · exact hjoin.2.1 hpid
    rw [hother]
    exact .unchanged
  | ignored s message time hregister =>
    rw [joining, if_neg fun hjoin => hregister hjoin.1]
    exact .unchanged
  -- a runner of the pool has left, and the manager counts again
  | disconnected s =>
    simp only [IpcServer.onDisconnected]
    by_cases hs : s ∈ d.server.state.runnerClients
    · rw [if_pos hs, poolAfter_counts _ _ [_] rfl rfl]
      exact .taken _ (List.length_erase_le (l := d.server.state.runnerClients))
    · rw [if_neg hs, List.erase_of_not_mem hs]
      exact .unchanged
  -- nobody waits, so the new runner joins the pool
  | registered s message time hheader hpid hempty =>
    have hjoin : joining d.server.state (.socket (.readSocket s message time)) =
        .join (registeredPid message) := if_pos ⟨hheader, hpid, by simp [hempty]⟩
    have hlength : (d.server.state.enrol s (registeredPid message)).runnerClients.length =
        d.server.state.runnerClients.length + 1 := by simp [IpcServer.enrol]
    rw [hjoin]
    show Pool.Step _ _ _ (poolAfter
      (launchManager.step d.manager (.runnerReady (registeredPid message))) now
      (d.server.state.enrol s (registeredPid message),
        [.connectedRunnersCountChanged (d.server.state.runnerClients.length + 1)]))
    rw [poolAfter_counts _ now [d.server.state.runnerClients.length + 1] rfl (by rw [hlength]; rfl),
      hlength]
    exact .joined _
  | served s message time deferred rest result hheader hpid hdeferred hl =>
    have hpooled : d.server.state.runnerClients = [] :=
      hidle (by rw [hdeferred]; exact List.cons_ne_nil _ _)
    rw [joining, if_neg (by simp [hdeferred])]
    -- the manager hears of the runner and of a pool of one before `launch` empties the pool
    let ready := launchManager.step d.manager (.runnerReady (registeredPid message))
    let counted := launchManager.step ready
      (.connectedRunnersCountChanged (d.server.state.runnerClients.length + 1))
    have hstarting : counted.state.startingUp =
        d.manager.state.startingUp.erase (registeredPid message) :=
      LaunchManager.startingUp_onConnectedRunnersCountChanged ready.state _
    have hbound : counted.state.maxPreCachedRunners = d.manager.state.maxPreCachedRunners :=
      LaunchManager.maxPreCachedRunners_handle ready.state (.connectedRunnersCountChanged _)
    obtain ⟨hafter, hle⟩ := poolAfter_launched counted now hl
    have hnone : result.1.runnerClients.length = 0 := by
      simpa [IpcServer.enrol, hpooled] using hle
    rw [hnone, hstarting, hbound] at hafter
    show Pool.Step _ _ _ (poolAfter counted now result)
    rw [hafter]
    exact .served _ (by rw [pool, hpooled]; rfl)
  -- replies call callbacks, which are nothing to the manager
  | launchSucceeded s message time hheader =>
    rw [joining, if_neg (by simp [hheader])]
    exact poolAfter_call (m := d.manager) ▸ .unchanged
  | launchFailed s message time hheader | relaunchReplied s message time hheader =>
    rw [joining, if_neg (by simp [hheader]), poolAfter_call]
    exact .unchanged
  | launch message time result hl =>
    obtain ⟨hafter, hle⟩ := poolAfter_launched d.manager now hl
    rw [hafter]
    exact .taken _ (hle.trans (Nat.sub_le _ 1))

/-- **The daemon refines the pool**: each of its events is a step of the pool. What the daemon does
on the bus, and in the server beyond the counts, the pool does not see. -/
theorem pool_step (fromJson : String → QJsonObject) (d : Daemon) (hidle : d.server.state.Idle)
    (e : Event) :
    Pool.Step d.manager.state.maxPreCachedRunners (d.poolEvent e) d.pool
      (d.handle fromJson e).1.pool := by
  have hsame {m : ManagerHistory} (h : LaunchManager.SameStart d.manager.state m.state) :
      Pool.Step d.manager.state.maxPreCachedRunners .other d.pool
        (Daemon.pool { d with manager := m }) := by
    have heq : Daemon.pool { d with manager := m } = d.pool := by
      rw [pool, pool, h.startingUp, h.armed]
    rw [heq]
    exact .unchanged
  cases e with
  | socket e => exact pool_callServer d hidle (.socket e) e.now
  | launch msg now =>
    simp only [handle]
    cases hlaunch : LunaService.launch fromJson d.server.state.runningApps msg now with
    | error reply => exact .unchanged
    -- with or without an entry in the running list, the server is called
    | ok e' =>
      have hstep := pool_callServer d hidle e' now
      obtain ⟨obj, -, ⟨-, rfl⟩ | ⟨-, rfl⟩⟩ := LunaService.launch_ok hlaunch
      · exact hstep
      · exact hstep
  | close msg now =>
    simp only [handle]
    split
    · exact hsame (LaunchManager.sameStart_terminate d.manager.state _ now)
    · exact .unchanged
  | running msg => exact .unchanged
  | timer timerId pid now =>
    -- the launch timer starts a runner, any other timer leaves the pool alone
    rcases LaunchManager.timerEvent_cases d.manager.state timerId pid now with
      h | ⟨harmed, hkilled, hstarting⟩
    · exact hsame h
    · have heq : (d.handle fromJson (.timer timerId pid now)).1.pool =
          ⟨d.pool.startingUp.insert pid, d.pool.pooled, false⟩ :=
        congrArg₂ (Pool.mk · d.pool.pooled ·) hstarting hkilled
      rw [heq]
      exact .started pid harmed
  | processFinished pid exitCode exitStatus =>
    -- the pool notices the end of a runner only while it is starting up
    rcases LaunchManager.onProcessFinished_cases d.manager.state pid exitCode exitStatus with
      ⟨-, hstate⟩ | ⟨hpid, harmed, hstarting⟩
    · have heq : (d.handle fromJson (.processFinished pid exitCode exitStatus)).1.pool = d.pool :=
        congrArg (fun m => Pool.mk m.startingUp d.pool.pooled m.armed) hstate
      rw [heq]
      exact .unchanged
    · have heq : (d.handle fromJson (.processFinished pid exitCode exitStatus)).1.pool =
          ⟨d.pool.startingUp.erase pid, d.pool.pooled, true⟩ :=
        congrArg₂ (Pool.mk · d.pool.pooled ·) hstarting harmed
      rw [heq]
      exact .ended pid hpid
  | processError pid => exact .unchanged
  | processDestroyed pid => exact .gone pid

/-! ## Whole runs

The step lemmas about the abstract pool are carried over to the daemon by the refinement. The rule
for exact conditions makes statements about runs of them. -/

/-- The bound is set at the start and stays. By induction on the events. -/
theorem maxPreCachedRunners_run (m : ManagerHistory) (es : List ManagerEvent) :
    (launchManager.run m es).state.maxPreCachedRunners = m.state.maxPreCachedRunners := by
  induction es generalizing m with
  | nil => rfl
  | cons e es ih =>
    rw [Machine.run_cons, ih]
    exact LaunchManager.maxPreCachedRunners_handle m.state e

/-- The daemon does not touch it either. It is set from the command line, before the event loop
starts. -/
theorem maxPreCachedRunners_step (fromJson : String → QJsonObject) (d : Daemon) (e : Event) :
    (d.handle fromJson e).1.manager.state.maxPreCachedRunners =
      d.manager.state.maxPreCachedRunners := by
  cases e with
  | socket e => exact maxPreCachedRunners_run _ _
  | launch msg now =>
    simp only [handle]
    split
    · rfl
    · exact maxPreCachedRunners_run _ _
  | close msg now =>
    simp only [handle]
    split
    · exact LaunchManager.maxPreCachedRunners_handle _ (.terminate _ now)
    · rfl
  | running msg => rfl
  | timer timerId pid now =>
    exact LaunchManager.maxPreCachedRunners_handle _ (.timer timerId pid now)
  | processFinished pid exitCode exitStatus =>
    exact LaunchManager.maxPreCachedRunners_handle _ (.processFinished pid exitCode exitStatus)
  | processError pid => rfl
  | processDestroyed pid => rfl

/-- While requests wait the pool is empty, in the daemon as in the server. -/
theorem idle_daemonStep (fromJson : String → QJsonObject) {h : DaemonHistory}
    (hidle : h.state.server.state.Idle) (e : Event) :
    ((boosterd fromJson).step h e).state.server.state.Idle := by
  rw [server_step]
  split
  · exact IpcServer.idle_step hidle _
  · exact hidle

/-- What holds of the daemon after every run from `start`. -/
structure PoolInv (bound : Int) (h : DaemonHistory) : Prop where
  /-- Requests wait only while the pool is empty. -/
  idle : h.state.server.state.Idle
  /-- The bound is the one that the daemon was started with. -/
  bound : h.state.manager.state.maxPreCachedRunners = bound

/-- Each part is kept on its own. -/
theorem poolInv_step (fromJson : String → QJsonObject) {bound : Int} {h : DaemonHistory}
    (hinv : PoolInv bound h) (e : Event) : PoolInv bound ((boosterd fromJson).step h e) where
  idle := idle_daemonStep fromJson hinv.idle e
  bound := (maxPreCachedRunners_step fromJson h.state e).trans hinv.bound

/-- At the start no request waits. -/
theorem poolInv_start (maxCached : Int) (runnerCommand : String) :
    PoolInv maxCached (.init (start maxCached runnerCommand)) where
  idle := fun hwait => absurd rfl hwait
  bound := LaunchManager.maxPreCachedRunners_handle _ (.connectedRunnersCountChanged 0)

/-- At the start the runners are counted, and there are none. -/
theorem pool_start (maxCached : Int) (runnerCommand : String) :
    (start maxCached runnerCommand).pool = Pool.recount maxCached ∅ 0 := by
  have hstarting := LaunchManager.startingUp_onConnectedRunnersCountChanged
    { maxPreCachedRunners := maxCached
      launchDelay := 1000
      launchRunnerCommand := runnerCommand } 0
  have harmed := LaunchManager.armed_onConnectedRunnersCountChanged
    { maxPreCachedRunners := maxCached
      launchDelay := 1000
      launchRunnerCommand := runnerCommand } 0
  exact congrArg₂ (Pool.mk · 0 ·) hstarting harmed

/-- The exactness rule for the pool, from what its steps are. -/
theorem always_pool_iff (fromJson : String → QJsonObject) {maxCached : Int}
    {runnerCommand : String} {P : Pool → Prop} {C : Daemon → Event → Prop}
    (hexact : ∀ (d : Daemon) (e : Event) (q : Pool),
      d.manager.state.maxPreCachedRunners = maxCached →
      Pool.Step maxCached (d.poolEvent e) d.pool q → P d.pool → (P q ↔ C d e))
    (hstart : P (Pool.recount maxCached ∅ 0)) (es : List Event) :
    (boosterd fromJson).Always (fun h => P h.state.pool)
        (.init (start maxCached runnerCommand)) es ↔
      (boosterd fromJson).Admits (fun h e => C h.state e)
        (.init (start maxCached runnerCommand)) es := by
  refine Machine.always_iff_admits (E := fun _ _ => True) (I := PoolInv maxCached)
    (fun h e hinv _ => poolInv_step fromJson hinv e) (fun h e hinv hp _ => ?_)
    (poolInv_start maxCached runnerCommand) ?_ (Machine.admits_true _ _ _)
  · have hstep := pool_step fromJson h.state hinv.idle e
    rw [hinv.bound] at hstep
    exact hexact h.state e _ hinv.bound hstep hp
  · show P (start maxCached runnerCommand).pool
    rw [pool_start]
    exact hstart

/-- A runner that joins the pool is expected, or there is room for it. -/
def JoinsWithRoom (d : Daemon) (e : Event) : Prop :=
  ∀ pid, d.poolEvent e = .join pid →
    pid ∈ d.manager.state.startingUp ∨
      d.pool.count < max 0 d.manager.state.maxPreCachedRunners

/-- **The pool is never over-provisioned**, exactly in the runs in which every runner that joins it
is still in `m_startingUp` or finds room.

The daemon is followed in the abstract pool, whose steps are those of `Pool.Step`; there only a
runner that joins can exceed the bound. -/
theorem pool_bounded_iff (fromJson : String → QJsonObject) (maxCached : Int)
    (runnerCommand : String) (es : List Event) :
    (boosterd fromJson).Always (fun h => h.state.pool.Bounded maxCached)
        (.init (start maxCached runnerCommand)) es ↔
      (boosterd fromJson).Admits (fun h e => h.state.JoinsWithRoom e)
        (.init (start maxCached runnerCommand)) es := by
  refine always_pool_iff fromJson (fun d e q hbound hstep hp => ?_)
    (Pool.bounded_recount_iff.mpr (Int.le_max_left 0 maxCached)) es
  rw [JoinsWithRoom, hbound]
  exact hstep.bounded_iff hp

/-- A runner registers after its exit was handled, when the runner that replaces it is on its
way. -/
def lateRegistration : List Event :=
  [.timer 1 100 0,
    .socket (.newConnection 1),
    .processFinished 100 0 .normalExit,
    .timer 2 200 5000,
    .socket (.readSocket 1 (IpcClient.registerRequest 100) 5001)]

/-- There are two runners then, though the pool is to have one. -/
theorem not_pool_bounded_lateRegistration :
    (boosterd fun _ => {}).Admits (fun h e => h.state.DaemonProtocol (fun _ => {}) e)
        (.init (start 1 "qml-runner --interactive")) lateRegistration ∧
      ¬ (boosterd fun _ => {}).Always (fun h => h.state.pool.Bounded 1)
        (.init (start 1 "qml-runner --interactive")) lateRegistration := by
  refine ⟨by decide, fun hall => ?_⟩
  have hcount := hall.last.count
  revert hcount
  decide

/-- The process whose object is destroyed is not the only runner on its way, or a timer is armed, or
no runner is missing. -/
def LeavesRefill (d : Daemon) : Event → Prop
  | .processDestroyed pid =>
    ¬(pid ∈ d.manager.state.startingUp ∧ d.manager.state.startingUp.size = 1 ∧
      d.manager.state.armed = false ∧
      (d.server.state.runnerClients.length : Int) < d.manager.state.maxPreCachedRunners)
  | _ => True

/-- **The pool is refilled**, exactly in the runs in which no destroyed process was the last runner
on its way to a pool that is too small.

In the abstract pool only a runner that is lost on its way can leave too few, since every other step
that takes a runner out counts the pool again. -/
theorem pool_refilled_iff (fromJson : String → QJsonObject) (maxCached : Int)
    (runnerCommand : String) (es : List Event) :
    (boosterd fromJson).Always (fun h => h.state.pool.Refilled maxCached)
        (.init (start maxCached runnerCommand)) es ↔
      (boosterd fromJson).Admits (fun h e => h.state.LeavesRefill e)
        (.init (start maxCached runnerCommand)) es := by
  refine always_pool_iff fromJson (fun d e q hbound hstep hp => ?_) (Pool.refilled_recount ∅ 0) es
  refine (hstep.refilled_iff hp).trans ?_
  cases e with
  | processDestroyed pid =>
    rw [LeavesRefill, hbound]
    constructor
    · exact fun h => h pid rfl
    · rintro h pid' ⟨⟩
      exact h
  | socket e =>
    exact ⟨fun _ => trivial, fun _ pid hgone => absurd hgone (joining_ne_gone _ _ pid)⟩
  | launch | close | running | timer | processFinished | processError =>
    exact ⟨fun _ => trivial, fun _ => nofun⟩

/-- The command of the runner cannot be executed: the process reports an error and never
finishes. -/
def failedStart : List Event :=
  [.timer 1 100 0, .processError 100, .processDestroyed 100]

/-- There is no runner then, and none is on its way. -/
theorem not_pool_refilled_failedStart :
    (boosterd fun _ => {}).Admits (fun h e => h.state.DaemonProtocol (fun _ => {}) e)
        (.init (start 1 "qml-runner --interactive")) failedStart ∧
      ¬ (boosterd fun _ => {}).Always (fun h => h.state.pool.Refilled 1)
        (.init (start 1 "qml-runner --interactive")) failedStart := by
  refine ⟨by decide, fun hall => ?_⟩
  have hstalled := hall.last
  unfold Pool.Refilled at hstalled
  revert hstalled
  decide

end Daemon

end Booster
