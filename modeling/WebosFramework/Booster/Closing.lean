import Mathlib.Data.List.Nodup
import WebosFramework.Booster.LaunchManager

/-!
# Closing a runner

A runner that is asked to close is sent a signal and stays in `m_closing` until its `QProcess` is
gone or its time is up. Then it is killed, by a timer that all closing runners share. The timer is
stopped when it fires and armed again by `closeTimeoutHandler`, whose loop takes runners out of
`m_closing` while it computes how long the next one may wait.

* **`closeTimeoutLoop_spec`**: what the loop does. Whoever is still closing afterwards has time
  left, so the interval is not zero and the timer is armed again.
* **`closing_remembered`**: at every event boundary each closing pid has its `QProcess` in
  `m_running` and the close timer is armed.
* **`exists_terminate_of_closing`**: a pid is closing only because `terminate` has returned true for
  it since its `QProcess` was created.

* **`terminate_spec`**: a `terminate` that returns true makes its pid a closing one and asks the
  process to end.

All of this is for any clock readings and any `CLOSE_TIMEOUT` that is not negative. `startTimer` is
taken to start a timer.

`ClosingStep` is what any event can do to closing runners. Each handler is shown to be one, and
the invariant, the uniqueness of the pids and the history of the calls are read off it.
-/

namespace Booster

open Qt EventLoop

namespace LaunchManager

/-! ## The loop over the closing runners

`LoopInv` relates the manager after some turns to the one at the start of the loop. One turn keeps
it, and the induction is on the processes whose turn has come. -/

/-- What the loop of `closeTimeoutHandler` has made of `lm` after the turns for `pids`. -/
structure LoopInv (lm : LaunchManager) (pids : List Int)
    (acc : LaunchManager × Int × List Action) : Prop where
  /-- The loop makes no process a closing one. -/
  closing : ∀ pid, pid ∈ acc.1.closing → pid ∈ lm.closing
  /-- It forgets none. -/
  running : ∀ pid, pid ∈ acc.1.running ↔ pid ∈ lm.running
  closeTimerId : acc.1.closeTimerId = lm.closeTimerId
  /-- The interval computed so far is not negative. -/
  nonneg : 0 ≤ acc.2.1
  /-- It is not zero if a process of those has time left. -/
  waits : ∀ pid ∈ pids, pid ∈ acc.1.closing → 0 < acc.2.1
  /-- The loop kills processes of those only. -/
  kills : ∀ a ∈ acc.2.2, ∃ pid ∈ pids, a = .kill pid

/-- A turn of the loop: the process has time left, which keeps the interval above zero, or it is
killed and stops being a closing one. -/
theorem loopInv_closeTimeoutStep {lm : LaunchManager} {pids : List Int}
    {acc : LaunchManager × Int × List Action} (h : LoopInv lm pids acc) (now : Int) {pid : Int}
    (hpid : pid ∈ lm.running) : LoopInv lm (pids ++ [pid]) (closeTimeoutStep now acc pid) := by
  have hrunning : pid ∈ acc.1.running := (h.running pid).mpr hpid
  have hsome : acc.1.running[pid]? = some acc.1.running[pid] :=
    Std.TreeMap.getElem?_eq_some_getElem hrunning
  unfold closeTimeoutStep
  rw [hsome]
  dsimp only
  by_cases hwait : acc.1.closeWait acc.1.running[pid] now > 0
  · -- it has time left: the interval becomes its wait, if that is the least so far
    rw [if_pos hwait]
    have hpos : 0 < if acc.2.1 ≠ 0 then
        min (acc.1.closeWait acc.1.running[pid] now) acc.2.1 else
        acc.1.closeWait acc.1.running[pid] now := by
      have hnonneg := h.nonneg
      split <;> omega
    refine ⟨h.closing, h.running, h.closeTimerId, Int.le_of_lt hpos, fun _ _ _ => hpos,
      fun a ha => ?_⟩
    obtain ⟨pid', hpid', rfl⟩ := h.kills a ha
    exact ⟨pid', List.mem_append_left _ hpid', rfl⟩
  · -- its time is up: it is closing no longer
    rw [if_neg hwait]
    refine ⟨fun pid' hpid' => h.closing pid' (Std.TreeSet.mem_of_mem_erase hpid'),
      fun pid' => ?_, h.closeTimerId, h.nonneg, fun pid' hpid' hclosing => ?_, fun a ha => ?_⟩
    · rw [Std.TreeMap.mem_insert, Std.compare_eq_iff_eq, h.running pid']
      exact ⟨fun hor => hor.elim (fun heq => heq ▸ hpid) id, .inr⟩
    · rw [Std.TreeSet.mem_erase, Ne, Std.compare_eq_iff_eq] at hclosing
      rcases List.mem_append.mp hpid' with hpid' | hpid'
      · exact h.waits pid' hpid' hclosing.2
      · exact absurd (List.mem_singleton.mp hpid').symm hclosing.1
    · rcases List.mem_append.mp ha with ha | ha
      · obtain ⟨pid', hpid', rfl⟩ := h.kills a ha
        exact ⟨pid', List.mem_append_left _ hpid', rfl⟩
      · exact ⟨pid, by simp, List.mem_singleton.mp ha⟩

/-- All turns, by induction on the processes whose turn is still to come. -/
theorem loopInv_foldl {lm : LaunchManager} {pids : List Int}
    {acc : LaunchManager × Int × List Action} (h : LoopInv lm pids acc) (now : Int)
    (pids' : List Int) (hpids' : ∀ pid ∈ pids', pid ∈ lm.running) :
    LoopInv lm (pids ++ pids') (pids'.foldl (closeTimeoutStep now) acc) := by
  induction pids' generalizing pids acc with
  | nil => simpa using h
  | cons pid pids' ih =>
    rw [List.foldl_cons, List.append_cons]
    exact ih (loopInv_closeTimeoutStep h now (hpids' pid (by simp)))
      fun pid' hpid' => hpids' pid' (by simp [hpid'])

/-- **The loop of `closeTimeoutHandler`.** If every closing runner is in `m_running`, the loop takes
runners out of `m_closing` only, leaves the keys of `m_running` alone, kills closing runners only,
and if anyone is still closing afterwards then `timeTillNextKill` is positive. -/
theorem closeTimeoutLoop_spec (lm : LaunchManager)
    (hclosing : ∀ pid ∈ lm.closing, pid ∈ lm.running) (now : Int) :
    LoopInv lm lm.closing.toList (lm.closeTimeoutLoop now) := by
  have hinit : LoopInv lm [] (lm, 0, []) := by
    refine ⟨fun _ hpid => hpid, fun _ => Iff.rfl, rfl, Int.le_refl 0, ?_, ?_⟩ <;> simp
  have hpids : ∀ pid ∈ lm.closing.toList, pid ∈ lm.running :=
    fun pid hpid => hclosing pid (Std.TreeSet.mem_toList.mp hpid)
  exact loopInv_foldl hinit now lm.closing.toList hpids

/-! ## What an event does to the closing runners

`ClosingStep` says it once for all handlers: which processes join the closing ones, which leave
them, and that the timer is armed while there are any. The lemmas are one for each handler that
touches them, and `closingStep_handle` puts them together. -/

/-- The process an action starts. -/
def startedBy : Action → List Int
  | .start pid _ => [pid]
  | _ => []

/-- The process whose `QProcess` is gone. -/
def destroyedBy : ManagerEvent → List Int
  | .processDestroyed pid => [pid]
  | _ => []

/-- No closing runner is forgotten: it has an entry in `m_running`, and the timer is armed. -/
structure Remembers (lm : LaunchManager) : Prop where
  /-- Each has its `QProcess`. -/
  running : ∀ pid ∈ lm.closing, pid ∈ lm.running
  /-- While some runner is closing, the timer is armed. -/
  armed : ∀ pid ∈ lm.closing, lm.closeTimerId ≠ none

/-- What handling `e` does to the closing runners of `lm`: `lm'` and `out` are its results. -/
structure ClosingStep (lm : LaunchManager) (e : ManagerEvent) (lm' : LaunchManager)
    (out : List Action) : Prop where
  /-- Who is closing was closing before, or `terminate` has just returned true for it. -/
  closing : ∀ pid ∈ lm'.closing,
    (∃ now, e = .terminate pid now ∧ (lm.terminate pid now).1 = true) ∨
      pid ∈ lm.closing ∧ pid ∉ destroyedBy e
  /-- A `QProcess` is remembered from its start until it is destroyed. -/
  running : ∀ pid, pid ∈ lm'.running ↔
    (pid ∈ lm.running ∨ pid ∈ out.flatMap startedBy) ∧ pid ∉ destroyedBy e
  /-- No pid is started twice by one event. -/
  started : (out.flatMap startedBy).Nodup
  armed : ∀ pid ∈ lm'.closing, lm'.closeTimerId ≠ none
  /-- Only closing processes are killed. -/
  kills : ∀ pid, .kill pid ∈ out → pid ∈ lm.closing

/-- Neither starts a process nor kills one. -/
def Quiet (out : List Action) : Prop :=
  ∀ a ∈ out, startedBy a = [] ∧ ∀ pid, a ≠ .kill pid

/-- Quiet actions start nothing. -/
theorem Quiet.started {out : List Action} (h : Quiet out) : out.flatMap startedBy = [] :=
  List.flatMap_eq_nil_iff.mpr fun a ha => (h a ha).1

/-- The part of the manager that has no business with closing runners. -/
theorem closingStep_of_same {lm lm' : LaunchManager} {e : ManagerEvent} {out : List Action}
    (h : lm.Remembers) (hclosing : lm'.closing = lm.closing) (hrunning : lm'.running = lm.running)
    (htimer : lm'.closeTimerId = lm.closeTimerId) (hquiet : Quiet out)
    (hdestroyed : destroyedBy e = []) : ClosingStep lm e lm' out where
  closing pid hpid := by
    rw [hclosing] at hpid
    exact .inr ⟨hpid, by simp [hdestroyed]⟩
  running pid := by simp [hrunning, hquiet.started, hdestroyed]
  started := by simp [hquiet.started]
  armed pid hpid := by
    rw [hclosing] at hpid
    rw [htimer]
    exact h.armed pid hpid
  kills pid hpid := absurd rfl ((hquiet _ hpid).2 pid)

/-- `terminate` returns true for processes there are. -/
theorem running_of_terminate {lm : LaunchManager} {pid now : Int}
    (htrue : (lm.terminate pid now).1 = true) : pid ∈ lm.running := by
  unfold terminate at htrue
  split at htrue
  · cases htrue
  · split at htrue
    · cases htrue
    · rename_i hsome
      exact Std.TreeMap.mem_iff_isSome_getElem?.mpr (by rw [hsome]; rfl)

/-- **What `terminate` promises.** When it returns true, its pid is among the closing ones, and the
process is asked to end. -/
theorem terminate_spec {lm : LaunchManager} {pid now : Int}
    (htrue : (lm.terminate pid now).1 = true) :
    pid ∈ (lm.terminate pid now).2.1.closing ∧ .terminate pid ∈ (lm.terminate pid now).2.2 := by
  unfold terminate at htrue ⊢
  split at htrue
  · cases htrue
  · rename_i hclosing
    rw [if_neg hclosing]
    split at htrue
    · cases htrue
    · have hinsert : pid ∈ lm.closing.insert pid := Std.TreeSet.mem_insert_self
      dsimp only
      -- with a timer that runs there is only the request, else the timer is started first
      cases lm.closeTimerId with
      | some timerId => exact ⟨hinsert, List.mem_singleton_self _⟩
      | none => exact ⟨hinsert, List.mem_append_right _ (List.mem_singleton_self _)⟩

/-- `terminate` makes one process a closing one and arms the timer, if it is not armed yet. The call
that finds the process closing, or no process at all, returns before it does anything. -/
theorem closingStep_terminate {lm : LaunchManager} (h : lm.Remembers) (pid now : Int) :
    ClosingStep lm (.terminate pid now) (lm.terminate pid now).2.1 (lm.terminate pid now).2.2 := by
  by_cases hclosing : pid ∈ lm.closing
  · -- already closing
    have hterminate : lm.terminate pid now = (false, lm, []) := if_pos hclosing
    rw [hterminate]
    exact closingStep_of_same h rfl rfl rfl (by simp [Quiet]) rfl
  cases hsome : lm.running[pid]? with
  | none =>
    have hterminate : lm.terminate pid now = (false, lm, []) := by
      simp [terminate, hclosing, hsome]
    rw [hterminate]
    exact closingStep_of_same h rfl rfl rfl (by simp [Quiet]) rfl
  | some process =>
    have hrunning : pid ∈ lm.running :=
      Std.TreeMap.mem_iff_isSome_getElem?.mpr (by rw [hsome]; rfl)
    have htrue : (lm.terminate pid now).1 = true := by
      cases htimer : lm.closeTimerId <;> simp [terminate, hclosing, hsome, htimer]
    -- the timer is started unless it is running
    have hlm' : (lm.terminate pid now).2.1.closing = lm.closing.insert pid ∧
        (lm.terminate pid now).2.1.running =
          lm.running.insert pid { process with timestamp := now } ∧
        (lm.terminate pid now).2.1.closeTimerId ≠ none ∧
        Quiet (lm.terminate pid now).2.2 := by
      cases htimer : lm.closeTimerId <;>
        simp [terminate, hclosing, hsome, htimer, startCloseTimer, Quiet, startedBy]
    obtain ⟨hclosing', hrunning', harmed, hquiet⟩ := hlm'
    refine ⟨fun pid' hpid' => ?_, fun pid' => ?_, by simp [hquiet.started], fun _ _ => harmed,
      fun pid' hkill => absurd rfl ((hquiet _ hkill).2 pid')⟩
    · -- only its own pid joins the closing ones
      rw [hclosing', Std.TreeSet.mem_insert, Std.compare_eq_iff_eq] at hpid'
      rcases hpid' with rfl | hpid'
      · exact .inl ⟨now, rfl, htrue⟩
      · exact .inr ⟨hpid', by simp [destroyedBy]⟩
    · rw [hrunning', Std.TreeMap.mem_insert, Std.compare_eq_iff_eq, hquiet.started]
      simp only [destroyedBy, List.not_mem_nil, not_false_eq_true, and_true, or_false]
      exact ⟨fun hor => hor.elim (fun heq => heq ▸ hrunning) id, .inr⟩

/-- The shared timer fires: it is stopped, and armed again if the loop leaves anyone closing. What
the loop does to the closing processes is `closeTimeoutLoop_spec`, which is cited as it is. -/
theorem closingStep_closeTimeoutHandler {lm : LaunchManager} (h : lm.Remembers) (timerId : TimerId)
    (pid now : Int) :
    ClosingStep lm (.timer timerId pid now)
      ({ lm with closeTimerId := none }.closeTimeoutHandler now).1
      (.killTimer timerId :: ({ lm with closeTimerId := none }.closeTimeoutHandler now).2) := by
  have hloop := closeTimeoutLoop_spec { lm with closeTimerId := none } h.running now
  unfold closeTimeoutHandler
  dsimp only
  generalize { lm with closeTimerId := none }.closeTimeoutLoop now = result at hloop ⊢
  -- the loop kills processes and starts none
  have hstarted : result.2.2.flatMap startedBy = [] := by
    apply List.flatMap_eq_nil_iff.mpr
    intro a ha
    obtain ⟨pid', -, rfl⟩ := hloop.kills a ha
    rfl
  -- only what has been closing is killed
  have hkills : ∀ pid', .kill pid' ∈ result.2.2 → pid' ∈ lm.closing := by
    intro pid' hpid'
    obtain ⟨pid'', hmem, heq⟩ := hloop.kills _ hpid'
    cases heq
    exact Std.TreeSet.mem_toList.mp hmem
  by_cases hnext : result.2.1 ≠ 0
  · rw [if_pos hnext]
    refine ⟨fun pid' hpid' => .inr ⟨hloop.closing pid' hpid', by simp [destroyedBy]⟩,
      fun pid' => ?_, by simp [hstarted, startCloseTimer, startedBy],
      fun _ _ => by simp [startCloseTimer], fun pid' hpid' => ?_⟩
    · -- killing a process does not take it out of `m_running`
      show pid' ∈ result.1.running ↔ _
      simp [hloop.running pid', hstarted, startCloseTimer, startedBy, destroyedBy]
    · apply hkills
      simpa [startCloseTimer] using hpid'
  · -- nobody waits, so nobody is closing
    rw [if_neg hnext]
    have hnobody : ∀ pid', pid' ∉ result.1.closing := by
      intro pid' hpid'
      have hwaits := hloop.waits pid' (Std.TreeSet.mem_toList.mpr (hloop.closing pid' hpid')) hpid'
      omega
    refine ⟨fun pid' hpid' => absurd hpid' (hnobody pid'), fun pid' => ?_,
      by simp [hstarted, startedBy], fun pid' hpid' => absurd hpid' (hnobody pid'),
      fun pid' hpid' => ?_⟩
    · show pid' ∈ result.1.running ↔ _
      simp [hloop.running pid', hstarted, startedBy, destroyedBy]
    · apply hkills
      simpa using hpid'

/-- A runner that is started is not closing. -/
theorem closingStep_launchRunner {lm : LaunchManager} (h : lm.Remembers) (timerId : TimerId)
    (pid now : Int) :
    ClosingStep lm (.timer timerId pid now) ({ lm with launchTimerId := none }.launchRunner pid).1
      (.killTimer timerId :: ({ lm with launchTimerId := none }.launchRunner pid).2) where
  closing pid' hpid' := .inr ⟨hpid', by simp [destroyedBy]⟩
  running pid' := by
    show pid' ∈ lm.running.insert pid {} ↔ _
    rw [Std.TreeMap.mem_insert, Std.compare_eq_iff_eq]
    simp [launchRunner, startedBy, destroyedBy, or_comm, eq_comm]
  started := by simp [launchRunner, startedBy]
  armed := h.armed
  kills pid' hpid' := by simp [launchRunner] at hpid'

/-- A process that is destroyed is not closing any more. -/
theorem closingStep_onProcessDestroyed {lm : LaunchManager} (h : lm.Remembers) (pid : Int) :
    ClosingStep lm (.processDestroyed pid) (lm.onProcessDestroyed pid) [] where
  closing pid' hpid' := by
    have hmem : compare pid pid' ≠ .eq ∧ pid' ∈ lm.closing := Std.TreeSet.mem_erase.mp hpid'
    rw [Ne, Std.compare_eq_iff_eq] at hmem
    exact .inr ⟨hmem.2, by simpa [destroyedBy, eq_comm] using hmem.1⟩
  running pid' := by
    show pid' ∈ lm.running.erase pid ↔ _
    rw [Std.TreeMap.mem_erase, Ne, Std.compare_eq_iff_eq]
    simp [destroyedBy, and_comm, eq_comm]
  started := by simp
  armed pid' hpid' := h.armed pid' (Std.TreeSet.mem_of_mem_erase hpid')
  kills pid' hpid' := by simp at hpid'

/-- **Every event is such a step.** The three handlers that touch closing runners are those above;
the others leave them alone. -/
theorem closingStep_handle {lm : LaunchManager} (h : lm.Remembers) (e : ManagerEvent) :
    ClosingStep lm e (lm.handle e).1 (lm.handle e).2 := by
  cases e with
  | terminate pid now => exact closingStep_terminate h pid now
  | processDestroyed pid => exact closingStep_onProcessDestroyed h pid
  | timer timerId pid now =>
    show ClosingStep lm _ (lm.timerEvent timerId pid now).1 (lm.timerEvent timerId pid now).2
    unfold timerEvent
    split
    · exact closingStep_closeTimeoutHandler h timerId pid now
    · split
      · exact closingStep_launchRunner h timerId pid now
      · exact closingStep_of_same h rfl rfl rfl (by simp [Quiet]) rfl
  -- counts of runners and exits may start the launch timer, which is not about closing
  | connectedRunnersCountChanged number =>
    have hquiet : Quiet (lm.onConnectedRunnersCountChanged number).2 := by
      unfold onConnectedRunnersCountChanged killLaunchTimer
      dsimp only
      cases lm.launchTimerId <;> split <;> simp [Quiet, startLaunchTimer, startedBy]
    apply closingStep_of_same h _ _ _ hquiet rfl <;>
      (simp only [handle, onConnectedRunnersCountChanged]; split <;> rfl)
  | processFinished pid exitCode exitStatus =>
    have hquiet : Quiet (lm.onProcessFinished pid exitCode exitStatus).2 := by
      unfold onProcessFinished killLaunchTimer
      dsimp only
      cases lm.launchTimerId <;> split <;> simp [Quiet, startLaunchTimer, startedBy]
    apply closingStep_of_same h _ _ _ hquiet rfl <;>
      (simp only [handle, onProcessFinished]; split <;> rfl)
  | runnerReady | processError =>
    exact closingStep_of_same h rfl rfl rfl (by simp [Quiet, handle, onProcessError, startedBy]) rfl

/-- So every event keeps the closing runners in mind. -/
theorem remembers_handle {lm : LaunchManager} (h : lm.Remembers) (e : ManagerEvent) :
    (lm.handle e).1.Remembers := by
  have hstep := closingStep_handle h e
  refine ⟨fun pid hpid => (hstep.running pid).mpr ?_, hstep.armed⟩
  rcases hstep.closing pid hpid with ⟨now, rfl, htrue⟩ | ⟨hclosing, hdestroyed⟩
  · exact ⟨.inl (running_of_terminate htrue), by simp [destroyedBy]⟩
  · exact ⟨.inl (h.running pid hclosing), hdestroyed⟩

/-! ## Runs

Which `QProcess` objects exist is counted over the past of a run, from what has been started and
what has been destroyed. The invariant compares this with the keys of `m_running`. -/

/-- How many `QProcess` objects with this pid have been created. -/
def created (h : ManagerHistory) (pid : Int) : Nat := (h.outputs.flatMap startedBy).count pid

/-- How many `QProcess` objects with this pid have been destroyed. -/
def destroyed (h : ManagerHistory) (pid : Int) : Nat := (h.inputs.flatMap destroyedBy).count pid

/-- `QProcess` objects that exist at the same time have distinct pids, and only one that exists is
destroyed. -/
structure DistinctPids (h : ManagerHistory) (e : ManagerEvent) : Prop where
  /-- A pid is free again when the `QProcess` it belonged to has been destroyed. -/
  fresh : ∀ pid ∈ (h.state.handle e).2.flatMap startedBy, created h pid ≤ destroyed h pid
  /-- A `QProcess` is destroyed once. -/
  live : ∀ pid ∈ destroyedBy e, destroyed h pid < created h pid

instance (h : ManagerHistory) : DecidablePred (DistinctPids h) := fun e =>
  decidable_of_iff
    ((∀ pid ∈ (h.state.handle e).2.flatMap startedBy, created h pid ≤ destroyed h pid) ∧
      ∀ pid ∈ destroyedBy e, destroyed h pid < created h pid)
    ⟨fun ⟨hfresh, hlive⟩ => ⟨hfresh, hlive⟩, fun h => ⟨h.fresh, h.live⟩⟩

/-- `m_running` has an entry for the `QProcess` objects that exist and for no others. -/
structure ClosingInv (h : ManagerHistory) : Prop where
  remembers : h.state.Remembers
  /-- The `QProcess` objects that have been created and not destroyed are those in `m_running`. -/
  tracked : ∀ pid, created h pid = destroyed h pid + if pid ∈ h.state.running then 1 else 0

/-- An event counts what it starts and what it destroys. This is where the distinct pids are needed:
the object that is destroyed has to be the one that was created under its pid. -/
theorem closingInv_step {h : ManagerHistory} {e : ManagerEvent} (hinv : ClosingInv h)
    (he : DistinctPids h e) : ClosingInv (launchManager.step h e) := by
  have hstep := closingStep_handle hinv.remembers e
  refine ⟨remembers_handle hinv.remembers e, fun pid => ?_⟩
  have htracked := hinv.tracked pid
  have hrunning := hstep.running pid
  have hcreated : created (launchManager.step h e) pid =
      created h pid + ((h.state.handle e).2.flatMap startedBy).count pid := by
    simp [created, launchManager]
  have hdestroyed : destroyed (launchManager.step h e) pid =
      destroyed h pid + (destroyedBy e).count pid := by
    simp [destroyed]
  rw [hcreated, hdestroyed]
  show _ = _ + if pid ∈ (h.state.handle e).1.running then 1 else 0
  have hnodup : (destroyedBy e).Nodup := by cases e <;> simp [destroyedBy]
  by_cases hdead : pid ∈ destroyedBy e
  · -- its object goes; it existed, so none with this pid is created
    have hlive := he.live pid hdead
    have hnew : pid ∉ (h.state.handle e).2.flatMap startedBy := fun hnew => by
      have hfresh := he.fresh pid hnew
      omega
    rw [List.count_eq_zero_of_not_mem hnew, List.count_eq_one_of_mem hnodup hdead,
      if_neg fun hmem => (hrunning.mp hmem).2 hdead]
    split at htracked <;> omega
  · rw [List.count_eq_zero_of_not_mem hdead]
    by_cases hnew : pid ∈ (h.state.handle e).2.flatMap startedBy
    · -- its object is created, and no other with this pid exists
      have hfresh := he.fresh pid hnew
      rw [List.count_eq_one_of_mem hstep.started hnew, if_pos (hrunning.mpr ⟨.inr hnew, hdead⟩)]
      split at htracked <;> omega
    · -- the event is about other pids
      have hsame : pid ∈ (h.state.handle e).1.running ↔ pid ∈ h.state.running := by
        simp [hrunning, hnew, hdead]
      rw [List.count_eq_zero_of_not_mem hnew]
      simpa only [hsame, Nat.add_zero] using htracked

/-- No process that was asked to close is forgotten. -/
structure Remembered (h : ManagerHistory) : Prop where
  /-- A closing process is in `m_running`. -/
  running : ∀ pid ∈ h.state.closing, pid ∈ h.state.running
  /-- Its `QProcess` has not been destroyed. -/
  live : ∀ pid ∈ h.state.closing, created h pid = destroyed h pid + 1
  /-- The timer is armed. -/
  armed : ∀ pid ∈ h.state.closing, h.state.closeTimerId ≠ none

/-- What the invariant says about closing runners. -/
theorem ClosingInv.remembered {h : ManagerHistory} (hinv : ClosingInv h) : Remembered h where
  running := hinv.remembers.running
  live pid hpid := by
    have htracked := hinv.tracked pid
    rwa [if_pos (hinv.remembers.running pid hpid)] at htracked
  armed := hinv.remembers.armed

section Runs

variable (maxPrestarted : Int) (delay closeTimeout : Nat) (command : String)

/-- A manager that starts has no processes. -/
theorem closingInv_new : ClosingInv (.init (new maxPrestarted delay command closeTimeout)) where
  remembers := ⟨fun pid hpid => by simp [new, History.init] at hpid,
    fun pid hpid => by simp [new, History.init] at hpid⟩
  tracked pid := by simp [created, destroyed, new, History.init]

/-- **Who is closing was asked to.** Since its `QProcess` was created, `terminate` has returned true
for it. -/
theorem exists_terminate_of_closing {es : List ManagerEvent}
    (hes : launchManager.Admits DistinctPids
      (.init (new maxPrestarted delay command closeTimeout)) es) {pid : Int}
    (hpid : pid ∈ (launchManager.run
      (.init (new maxPrestarted delay command closeTimeout)) es).state.closing) :
    ∃ now fs gs, es = fs ++ .terminate pid now :: gs ∧
      ((launchManager.run (.init (new maxPrestarted delay command closeTimeout)) fs).state.terminate
        pid now).1 = true ∧ .processDestroyed pid ∉ gs := by
  obtain ⟨fs, e, gs, rfl, ⟨now, rfl, htrue⟩, hgs⟩ :=
    Machine.exists_begin (M := launchManager) (P := fun h => pid ∈ h.state.closing)
      (B := fun h e => ∃ now, e = .terminate pid now ∧ (h.state.terminate pid now).1 = true)
      (C := fun _ e => pid ∉ destroyedBy e) (fun _ _ => closingInv_step)
      (fun h e hinv _ => (closingStep_handle hinv.remembers e).closing pid)
      (closingInv_new maxPrestarted delay closeTimeout command) (by simp [new, History.init]) hes
      hpid
  refine ⟨now, fs, gs, rfl, htrue, fun hmem => ?_⟩
  obtain ⟨gs₁, gs₂, rfl⟩ := List.append_of_mem hmem
  exact (launchManager.admits_append.mp hgs).2.1 (by simp [destroyedBy])

/-- **Closing processes are remembered.** In every run in which processes that exist at the same
time have distinct pids, every closing pid has a live `QProcess` in `m_running` and the close timer
is armed at every event boundary, whoever is killed has been asked to close before, and whoever is
asked to close, with success, is closing then and has been told to end. -/
theorem closing_remembered (es : List ManagerEvent)
    (hes : launchManager.Admits DistinctPids
      (.init (new maxPrestarted delay command closeTimeout)) es) :
    launchManager.Always Remembered (.init (new maxPrestarted delay command closeTimeout)) es ∧
      (∀ fs e gs pid, es = fs ++ e :: gs →
        .kill pid ∈ ((launchManager.run
          (.init (new maxPrestarted delay command closeTimeout)) fs).state.handle e).2 →
        ∃ now fs₁ fs₂, fs = fs₁ ++ .terminate pid now :: fs₂ ∧
          ((launchManager.run (.init (new maxPrestarted delay command closeTimeout))
            fs₁).state.terminate pid now).1 = true ∧ .processDestroyed pid ∉ fs₂) ∧
      ∀ fs pid now gs, es = fs ++ .terminate pid now :: gs →
        let lm := (launchManager.run
          (.init (new maxPrestarted delay command closeTimeout)) fs).state
        (lm.terminate pid now).1 = true →
          pid ∈ (lm.handle (.terminate pid now)).1.closing ∧
            .terminate pid ∈ (lm.handle (.terminate pid now)).2 := by
  have hinit := closingInv_new maxPrestarted delay closeTimeout command
  refine ⟨(Machine.always_of_admits (fun _ _ => closingInv_step) hinit hes).mono
    fun _ => ClosingInv.remembered, ?_, fun _ _ _ _ _ htrue => terminate_spec htrue⟩
  rintro fs e gs pid rfl hkill
  have hfs := (launchManager.admits_append.mp hes).1
  have hinv := Machine.invariant (fun _ _ => closingInv_step) hinit hfs
  exact exists_terminate_of_closing _ _ _ _ hfs
    ((closingStep_handle hinv.remembers e).kills pid hkill)

/-- Two processes are closed; the first is killed while the second has time left, and the second
ends by itself. -/
def closeTwo : List ManagerEvent :=
  [.connectedRunnersCountChanged 0, .timer 1 100 0, .runnerReady 100,
    .connectedRunnersCountChanged 1, .timer 2 200 10, .terminate 100 20, .terminate 200 500,
    .timer 3 0 1100, .processError 100, .processDestroyed 100,
    .processFinished 200 0 .normalExit, .processDestroyed 200, .timer 4 0 1600]

/-- The first of the two is closing because of the `terminate` at 20. -/
theorem closing_remembered_closeTwo :
    launchManager.Always Remembered (.init (new 2 50 "qml-runner" 1000)) closeTwo ∧
      ∃ now fs₁ fs₂, closeTwo.take 7 = fs₁ ++ .terminate 100 now :: fs₂ ∧
        ((launchManager.run (.init (new 2 50 "qml-runner" 1000)) fs₁).state.terminate
          100 now).1 = true ∧ .processDestroyed 100 ∉ fs₂ :=
  have h := closing_remembered 2 50 1000 "qml-runner" closeTwo (by decide)
  ⟨h.1, h.2.1 (closeTwo.take 7) (.timer 3 0 1100) (closeTwo.drop 8) 100 rfl (by decide)⟩

end Runs

end LaunchManager

end Booster
