import WebosFramework.Booster.Main
import WebosFramework.Lib.Resources

/-!
# The timers of the launch manager

The launch manager starts a timer for the next runner and one for the runners that are closing, and
keeps the ids of both. A timer fires again and again until it is killed, so one whose id has been
overwritten would fire for ever.

**`timers_kept`**: over whole runs no timer is killed twice, none is lost, and the two that live are
different. So the warning about unexpected timer events is about timers that have been killed.

`TimerStep` is the step that keeps the books. The handlers are composed of such steps by
`TimerStep.append`, with `SameTimers` for the parts that do not touch the timers.
-/

namespace Booster

open Qt EventLoop Resources

/-- Starting a timer takes it, and killing it gives it back. -/
def timerUse : Action → Option (Use TimerId)
  | .startTimer id _ => some (.take id)
  | .killTimer id => some (.giveBack id)
  | _ => none

namespace LaunchManager

/-- The timers that live. -/
def timers (lm : LaunchManager) : Set TimerId :=
  {id | lm.launchTimerId = some id ∨ lm.closeTimerId = some id}

/-- What is known of the two ids. -/
structure TimerInv (lm : LaunchManager) : Prop where
  /-- A new timer has an id that is not in use. -/
  fresh : ∀ id ∈ lm.timers, id < lm.nextTimerId
  /-- The two ids are those of two timers. -/
  distinct : ∀ id, lm.launchTimerId = some id → lm.closeTimerId ≠ some id

/-- What a part of a handler does to the timers. -/
structure TimerStep (lm : LaunchManager) (result : LaunchManager × List Action) : Prop where
  /-- The ids are in order afterwards. -/
  inv : result.1.TimerInv
  /-- What was taken and given back explains them. -/
  balanced : Balanced timerUse lm.timers result.2 result.1.timers

variable {lm lm' : LaunchManager} {out : List Action}

/-- Two steps, one after the other. -/
theorem TimerStep.append {result : LaunchManager × List Action} (h : TimerStep lm (lm', out))
    (h' : TimerStep lm' result) : TimerStep lm (result.1, out ++ result.2) :=
  ⟨h'.inv, h.balanced.append h'.balanced⟩

/-- No business with timers. -/
structure SameTimers (lm lm' : LaunchManager) : Prop where
  launchTimerId : lm'.launchTimerId = lm.launchTimerId
  closeTimerId : lm'.closeTimerId = lm.closeTimerId
  nextTimerId : lm'.nextTimerId = lm.nextTimerId

/-- The timers are the same through two steps. -/
theorem SameTimers.trans {lm'' : LaunchManager} (h : SameTimers lm lm') (h' : SameTimers lm' lm'') :
    SameTimers lm lm'' where
  launchTimerId := h'.launchTimerId.trans h.launchTimerId
  closeTimerId := h'.closeTimerId.trans h.closeTimerId
  nextTimerId := h'.nextTimerId.trans h.nextTimerId

/-- If the ids are the same, the same timers live. -/
theorem SameTimers.timers (h : SameTimers lm lm') : lm'.timers = lm.timers := by
  unfold LaunchManager.timers
  rw [h.launchTimerId, h.closeTimerId]

/-- If the ids are the same, they are in order as before. -/
theorem SameTimers.inv (h : SameTimers lm lm') (hinv : lm.TimerInv) : lm'.TimerInv where
  fresh id hid := by
    rw [h.timers] at hid
    rw [h.nextTimerId]
    exact hinv.fresh id hid
  distinct id hid := by
    rw [h.launchTimerId] at hid
    rw [h.closeTimerId]
    exact hinv.distinct id hid

/-- What does not touch the timers is a step, if its actions are no timers either. -/
theorem SameTimers.step (h : SameTimers lm lm') (hinv : lm.TimerInv)
    (hout : ∀ a ∈ out, timerUse a = none) : TimerStep lm (lm', out) :=
  ⟨h.inv hinv, h.timers ▸ Balanced.of_none hout⟩

/-! ## Starting and killing

Starting a timer while its id is free, or killing the one whose id is kept, keeps the books of
timers in order. -/

/-- The launch timer may be started if it is not running. -/
theorem timerStep_startLaunchTimer (hinv : lm.TimerInv) (hnone : lm.launchTimerId = none)
    (interval : Int) : TimerStep lm (lm.startLaunchTimer interval) := by
  have hfree : lm.nextTimerId ∉ lm.timers := fun h => Nat.lt_irrefl _ (hinv.fresh _ h)
  have htimers : (lm.startLaunchTimer interval).1.timers = insert lm.nextTimerId lm.timers := by
    ext id
    simp [timers, startLaunchTimer, hnone, eq_comm]
  refine ⟨⟨fun id hid => ?_, fun id hid hclose => ?_⟩, ?_⟩
  · rw [htimers] at hid
    rcases hid with rfl | hid
    · exact Nat.lt_succ_self _
    · exact Nat.lt_succ_of_lt (hinv.fresh id hid)
  · obtain rfl : lm.nextTimerId = id := Option.some.inj hid
    exact hfree (.inr hclose)
  · rw [htimers]
    exact .take rfl hfree .nil

/-- So may the close timer. -/
theorem timerStep_startCloseTimer (hinv : lm.TimerInv) (hnone : lm.closeTimerId = none)
    (interval : Int) : TimerStep lm (lm.startCloseTimer interval) := by
  have hfree : lm.nextTimerId ∉ lm.timers := fun h => Nat.lt_irrefl _ (hinv.fresh _ h)
  have htimers : (lm.startCloseTimer interval).1.timers = insert lm.nextTimerId lm.timers := by
    ext id
    simp [timers, startCloseTimer, hnone, eq_comm, or_comm]
  refine ⟨⟨fun id hid => ?_, fun id hid hclose => ?_⟩, ?_⟩
  · rw [htimers] at hid
    rcases hid with rfl | hid
    · exact Nat.lt_succ_self _
    · exact Nat.lt_succ_of_lt (hinv.fresh id hid)
  · obtain rfl : lm.nextTimerId = id := Option.some.inj hclose
    exact hfree (.inl hid)
  · rw [htimers]
    exact .take rfl hfree .nil

/-- A timer that is killed is not the other one. -/
theorem timerStep_clearLaunchTimer (hinv : lm.TimerInv) {id : TimerId}
    (hid : lm.launchTimerId = some id) :
    TimerStep lm ({ lm with launchTimerId := none }, [.killTimer id]) := by
  have htimers : ({ lm with launchTimerId := none } : LaunchManager).timers = lm.timers \ {id} := by
    ext id'
    have hdistinct := hinv.distinct id hid
    simp only [timers, hid, Set.mem_ofPred_eq, Set.mem_sdiff, Set.mem_singleton_iff]
    grind
  refine ⟨⟨fun id' hid' => hinv.fresh id' ?_, fun id' hid' => ?_⟩, ?_⟩
  · rw [htimers] at hid'
    exact hid'.1
  · exact absurd hid'.symm (Option.some_ne_none id')
  · rw [htimers]
    exact .giveBack rfl (.inl hid) .nil

/-- The same for the close timer. -/
theorem timerStep_clearCloseTimer (hinv : lm.TimerInv) {id : TimerId}
    (hid : lm.closeTimerId = some id) :
    TimerStep lm ({ lm with closeTimerId := none }, [.killTimer id]) := by
  have htimers : ({ lm with closeTimerId := none } : LaunchManager).timers = lm.timers \ {id} := by
    ext id'
    have hdistinct : lm.launchTimerId ≠ some id := fun h => hinv.distinct id h hid
    simp only [timers, hid, Set.mem_ofPred_eq, Set.mem_sdiff, Set.mem_singleton_iff]
    grind
  refine ⟨⟨fun id' hid' => hinv.fresh id' ?_, fun id' _ => (Option.some_ne_none id').symm⟩, ?_⟩
  · rw [htimers] at hid'
    exact hid'.1
  · rw [htimers]
    exact .giveBack rfl (.inr hid) .nil

/-- The launch timer is killed if it is running. -/
theorem timerStep_killLaunchTimer (hinv : lm.TimerInv) : TimerStep lm lm.killLaunchTimer := by
  unfold killLaunchTimer
  cases hid : lm.launchTimerId with
  | none =>
    have hsame : SameTimers lm { lm with launchTimerId := none } := ⟨hid.symm, rfl, rfl⟩
    exact hsame.step hinv fun a ha => absurd ha List.not_mem_nil
  | some id => exact timerStep_clearLaunchTimer hinv hid

/-- The timer is killed, if there is one, and a new one is started. -/
theorem timerStep_restart (hinv : lm.TimerInv) (interval : Int) :
    TimerStep lm ((lm.killLaunchTimer.1.startLaunchTimer interval).1,
      lm.killLaunchTimer.2 ++ (lm.killLaunchTimer.1.startLaunchTimer interval).2) :=
  (timerStep_killLaunchTimer hinv).append
    (timerStep_startLaunchTimer (timerStep_killLaunchTimer hinv).inv rfl interval)

/-! ## The handlers

Each handler is put together from these steps, and `timerStep_handle` has one case for each event.
-/

/-- The loop over the closing runners kills processes only. -/
theorem sameTimers_closeTimeoutStep (now : Int) (acc : LaunchManager × Int × List Action)
    (pid : Int) (hacc : ∀ a ∈ acc.2.2, timerUse a = none) :
    SameTimers acc.1 (closeTimeoutStep now acc pid).1 ∧
      ∀ a ∈ (closeTimeoutStep now acc pid).2.2, timerUse a = none := by
  unfold closeTimeoutStep
  split
  · exact ⟨⟨rfl, rfl, rfl⟩, hacc⟩
  · dsimp only
    split
    · exact ⟨⟨rfl, rfl, rfl⟩, hacc⟩
    · refine ⟨⟨rfl, rfl, rfl⟩, fun a ha => ?_⟩
      rcases List.mem_append.mp ha with ha | ha
      · exact hacc a ha
      · rw [List.mem_singleton.mp ha]
        rfl

/-- The loop kills processes, and no timers. By induction on the processes. -/
theorem sameTimers_closeTimeoutLoop (now : Int) (pids : List Int)
    (acc : LaunchManager × Int × List Action) (hacc : ∀ a ∈ acc.2.2, timerUse a = none) :
    SameTimers acc.1 (pids.foldl (closeTimeoutStep now) acc).1 ∧
      ∀ a ∈ (pids.foldl (closeTimeoutStep now) acc).2.2, timerUse a = none := by
  induction pids generalizing acc with
  | nil => exact ⟨⟨rfl, rfl, rfl⟩, hacc⟩
  | cons pid pids ih =>
    obtain ⟨hfirst, hout⟩ := sameTimers_closeTimeoutStep now acc pid hacc
    obtain ⟨hrest, hout'⟩ := ih _ hout
    exact ⟨hfirst.trans hrest, hout'⟩

/-- It is called when the close timer has been killed. -/
theorem timerStep_closeTimeoutHandler (hinv : lm.TimerInv) (hnone : lm.closeTimerId = none)
    (now : Int) : TimerStep lm (lm.closeTimeoutHandler now) := by
  obtain ⟨hsame, hout⟩ := sameTimers_closeTimeoutLoop now lm.closing.toList (lm, 0, [])
    fun a ha => absurd ha List.not_mem_nil
  have hloop : TimerStep lm ((lm.closeTimeoutLoop now).1, (lm.closeTimeoutLoop now).2.2) :=
    hsame.step hinv hout
  unfold closeTimeoutHandler
  dsimp only
  split
  · exact hloop.append (timerStep_startCloseTimer hloop.inv (hsame.closeTimerId.trans hnone) _)
  · exact hloop

/-- A timer that fires is killed, and may be started again. -/
theorem timerStep_timerEvent (hinv : lm.TimerInv) (timerId : TimerId) (pid now : Int) :
    TimerStep lm (lm.timerEvent timerId pid now) := by
  unfold timerEvent
  split
  · rename_i hclose
    have hkilled := timerStep_clearCloseTimer hinv hclose
    exact hkilled.append (timerStep_closeTimeoutHandler hkilled.inv rfl now)
  · split
    · rename_i hlaunch
      have hkilled := timerStep_clearLaunchTimer hinv hlaunch
      have hsame : SameTimers { lm with launchTimerId := none }
          ({ lm with launchTimerId := none }.launchRunner pid).1 := ⟨rfl, rfl, rfl⟩
      refine hkilled.append (hsame.step hkilled.inv fun a ha => ?_)
      rw [List.mem_singleton.mp ha]
      rfl
    · exact SameTimers.step ⟨rfl, rfl, rfl⟩ hinv fun a ha => absurd ha List.not_mem_nil

/-- The close timer is started if it is not running. Its new id is not that of the launch timer,
since an id that is in use is not handed out. -/
theorem timerStep_terminate (hinv : lm.TimerInv) (processId now : Int) :
    TimerStep lm (lm.terminate processId now).2 := by
  have hquiet : ∀ a ∈ [Action.terminate processId], timerUse a = none := by
    intro a ha
    rw [List.mem_singleton.mp ha]
    rfl
  have hstays : TimerStep lm (lm, []) :=
    SameTimers.step ⟨rfl, rfl, rfl⟩ hinv fun a ha => absurd ha List.not_mem_nil
  unfold terminate
  split
  · exact hstays
  · split
    · -- there is no such process, or it is closing already
      exact hstays
    · rename_i process hprocess
      generalize hclosing : ({ lm with
          closing := lm.closing.insert processId
          running := lm.running.insert processId { process with timestamp := now } } :
          LaunchManager) = next
      have hsame : SameTimers lm next := by
        rw [← hclosing]
        exact ⟨rfl, rfl, rfl⟩
      dsimp only
      split
      · -- the timer is running, and is left alone
        exact hsame.step hinv hquiet
      · rename_i hnone
        have hstarted := timerStep_startCloseTimer (hsame.inv hinv)
          (hsame.closeTimerId.trans hnone) lm.closeTimeout
        have hfirst : TimerStep lm (next, []) :=
          hsame.step hinv fun a ha => absurd ha List.not_mem_nil
        exact (hfirst.append hstarted).append
          (SameTimers.step ⟨rfl, rfl, rfl⟩ hstarted.inv hquiet)

/-- **Every handler keeps the books.** A case for each event. What is common to them is that a
member is only set to the id that was just started, or cleared as the timer is killed. -/
theorem timerStep_handle (hinv : lm.TimerInv) (e : ManagerEvent) : TimerStep lm (lm.handle e) := by
  cases e with
  -- the timer that is running is killed, and started anew if runners are missing
  | connectedRunnersCountChanged number =>
    show TimerStep lm (lm.onConnectedRunnersCountChanged number)
    unfold onConnectedRunnersCountChanged
    dsimp only
    split
    · exact timerStep_restart hinv _
    · exact timerStep_killLaunchTimer hinv
  | runnerReady processId =>
    exact SameTimers.step ⟨rfl, rfl, rfl⟩ hinv fun a ha => absurd ha List.not_mem_nil
  | terminate processId now => exact timerStep_terminate hinv processId now
  | timer timerId pid now => exact timerStep_timerEvent hinv timerId pid now
  -- a runner that has not registered is replaced after a delay, which takes the launch timer
  | processFinished processId exitCode exitStatus =>
    have hquiet : ∀ a ∈ [Action.processFinished processId exitCode exitStatus,
        Action.deleteLater processId], timerUse a = none := by
      intro a ha
      rcases List.mem_pair.mp ha with rfl | rfl <;> rfl
    show TimerStep lm (lm.onProcessFinished processId exitCode exitStatus)
    unfold onProcessFinished
    dsimp only
    split
    · have hsame : SameTimers lm { lm with startingUp := lm.startingUp.erase processId } :=
        ⟨rfl, rfl, rfl⟩
      have hfirst : TimerStep lm ({ lm with startingUp := lm.startingUp.erase processId }, []) :=
        hsame.step hinv fun a ha => absurd ha List.not_mem_nil
      have hstarted := hfirst.append (timerStep_restart hfirst.inv 5000)
      exact hstarted.append (SameTimers.step ⟨rfl, rfl, rfl⟩ hstarted.inv hquiet)
    · exact SameTimers.step ⟨rfl, rfl, rfl⟩ hinv hquiet
  | processError processId =>
    refine SameTimers.step ⟨rfl, rfl, rfl⟩ hinv fun a ha => ?_
    rw [List.mem_singleton.mp ha]
    rfl
  | processDestroyed processId =>
    exact SameTimers.step ⟨rfl, rfl, rfl⟩ hinv fun a ha => absurd ha List.not_mem_nil

/-- A timer event is ignored if the timer does not live. -/
theorem timerEvent_ignored_iff (lm : LaunchManager) (id : TimerId) (pid now : Int) :
    (lm.timerEvent id pid now).2 = [] ↔ id ∉ lm.timers := by
  unfold timerEvent timers
  split
  · rename_i hclose
    exact iff_of_false (List.cons_ne_nil _ _) fun h => h (.inr hclose)
  · rename_i hclose
    split
    · rename_i hlaunch
      exact iff_of_false (List.cons_ne_nil _ _) fun h => h (.inl hlaunch)
    · rename_i hlaunch
      exact iff_of_true rfl fun h => h.elim hlaunch hclose

/-- A run of the manager on its own. -/
theorem timers_run {m : ManagerHistory} (hinv : m.state.TimerInv)
    (hbooks : Balanced timerUse ∅ m.outputs m.state.timers) (es : List ManagerEvent) :
    (launchManager.run m es).state.TimerInv ∧
      Balanced timerUse ∅ (launchManager.run m es).outputs
        (launchManager.run m es).state.timers := by
  have hstep : ∀ (g : ManagerHistory) (e : ManagerEvent), g.state.TimerInv →
      TimerStep g.state (g.state.handle e) := fun g e hg => timerStep_handle hg e
  exact ⟨Machine.invariant (I := fun g => g.state.TimerInv) (E := fun _ _ => True)
      (fun g e hg _ => (hstep g e hg).inv) hinv (Machine.admits_true _ _ es),
    Balanced.run (I := fun g => g.state.TimerInv) (fun g e hg => (hstep g e hg).inv)
      (fun g e hg => (hstep g e hg).balanced) hinv hbooks es⟩

end LaunchManager

open LaunchManager

/-- **No timer is lost**: in every run of the daemon the timers that have been started and not been
killed are those whose ids the manager keeps; no timer is killed that does not live, and a timer
event is ignored just in case its timer does not live.

A start enters the id that it is given and a kill takes it out, so what `Balanced` counts as
outstanding is what the manager keeps. -/
theorem timers_kept (fromJson : String → QJsonObject) (maxCached : Int) (runnerCommand : String)
    (es : List Event) :
    let m :=
      ((boosterd fromJson).run (.init (Daemon.start maxCached runnerCommand)) es).state.manager
    Balanced timerUse ∅ m.outputs m.state.timers ∧
      (∀ id, m.state.launchTimerId = some id → m.state.closeTimerId ≠ some id) ∧
      ∀ id pid now, (m.state.timerEvent id pid now).2 = [] ↔ id ∉ m.state.timers := by
  intro m
  have hfresh : ∀ lm : LaunchManager, lm.launchTimerId = none → lm.closeTimerId = none →
      lm.timers = ∅ ∧ lm.TimerInv := by
    intro lm hlaunch hclose
    have hnone : lm.timers = ∅ := by
      unfold LaunchManager.timers
      simp [hlaunch, hclose]
    exact ⟨hnone, fun id hid => absurd (hnone ▸ hid) (Set.notMem_empty id),
      fun id hid => absurd (hlaunch.symm.trans hid).symm (Option.some_ne_none id)⟩
  obtain ⟨hnone, hnew⟩ := hfresh
    { maxPreCachedRunners := maxCached, launchDelay := 1000, launchRunnerCommand := runnerCommand }
    rfl rfl
  -- the manager has handled one event when the event loop starts
  have hstart := timers_run (m := .init _) hnew (hnone ▸ .nil)
    [.connectedRunnersCountChanged ({} : IpcServer LaunchCallback).connectedRunnersCount]
  have hrun : m.state.TimerInv ∧ Balanced timerUse ∅ m.outputs m.state.timers :=
    Machine.invariant (E := fun _ _ => True)
      (I := fun h : DaemonHistory => h.state.manager.state.TimerInv ∧
        Balanced timerUse ∅ h.state.manager.outputs h.state.manager.state.timers)
      (fun h e hI _ => by
        obtain ⟨events, hmanager⟩ := Daemon.manager_handle fromJson h.state e
        rw [Machine.step_state]
        show (h.state.handle fromJson e).1.manager.state.TimerInv ∧
          Balanced timerUse ∅ (h.state.handle fromJson e).1.manager.outputs
            (h.state.handle fromJson e).1.manager.state.timers
        rw [hmanager]
        exact timers_run hI.1 hI.2 events)
      hstart (Machine.admits_true _ _ es)
  exact ⟨hrun.2, hrun.1.distinct, fun id pid now => timerEvent_ignored_iff m.state id pid now⟩

end Booster
