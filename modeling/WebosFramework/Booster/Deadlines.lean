import Mathlib.Algebra.Group.Int.Defs
import WebosFramework.Booster.Closing

/-!
# Close deadlines

A closing runner is to be killed once its deadline has come, the time it was asked to close plus
`CLOSE_TIMEOUT`. `closeTimeoutHandler` computes in 64 bits how much time remains until then, and
keeps the result in an `int`.

* `turns_closeTimeoutLoop`: what the loop does, in terms of the waits as it keeps them. It kills
  those whose wait is not positive, and folds the others to their least one.
* `wait_pos_iff`: a runner whose deadline has come still seems to have time left when it is late by
  more than half of the 32-bit range, modulo that range.
* `keepsDeadlines_iff`: otherwise, and only otherwise, the handler kills exactly the runners whose
  deadline has come and arms the timer for the next deadline.

The two ways of reading the time that is left, as it is and as it is kept, differ for processes
that are very late (`wait_pos_iff`); where they agree, the handler does what it should
(`ActsOn.congr`).
-/

namespace Booster

open Qt EventLoop

namespace LaunchManager

/-! ## Deadlines

A closing process is to be killed `CLOSE_TIMEOUT` after it was asked to close. The handler
computes the time that is left as an `int`, and `ActsOn` says what it would do with any other way
to compute it. -/

/-- When the process was asked to close. -/
def timestamp (lm : LaunchManager) (pid : Int) : Int :=
  (lm.running[pid]?.map Process.timestamp).getD 0

/-- When the process is to be killed. -/
def deadline (lm : LaunchManager) (pid : Int) : Int := lm.timestamp pid + lm.closeTimeout

/-- How much time remains until the deadline. -/
def remaining (lm : LaunchManager) (now pid : Int) : Int := lm.deadline pid - now

/-- What the handler takes this time to be. -/
def wait (lm : LaunchManager) (now pid : Int) : Int := (lm.remaining now pid).bmod (2 ^ 32)

/-- What the handler computes for a process is its wait. -/
theorem closeWait_eq {lm : LaunchManager} {pid : Int} {process : Process}
    (hprocess : lm.running[pid]? = some process) (now : Int) :
    lm.closeWait process now = lm.wait now pid := by
  simp [closeWait, wait, remaining, deadline, timestamp, hprocess]

/-- An overdue process whose deadline is long past may seem to have time left. -/
theorem wait_pos_iff {lm : LaunchManager} {now pid : Int} (hfits : lm.remaining now pid < 2 ^ 31) :
    0 < lm.wait now pid ↔
      0 < lm.remaining now pid ∨ 2 ^ 31 < (now - lm.deadline pid) % 2 ^ 32 := by
  have hneg : now - lm.deadline pid = - lm.remaining now pid := by
    simp only [remaining]
    omega
  rw [wait, hneg, Int.bmod_def]
  split <;> omega

/-- Time that is left and fits is kept as it is. -/
theorem wait_eq_remaining {lm : LaunchManager} {now pid : Int}
    (hfits : lm.remaining now pid < 2 ^ 31) (hpos : 0 < lm.remaining now pid) :
    lm.wait now pid = lm.remaining now pid := by
  rw [wait, Int.bmod_def]
  split <;> omega

/-- The process an action kills. -/
def killedBy : Action → List Int
  | .kill pid => [pid]
  | _ => []

/-- The timer an action starts, with its interval. -/
def armedBy : Action → List (TimerId × Int)
  | .startTimer id interval => [(id, interval)]
  | _ => []

/-- The times that are still to come. -/
def pending (time : Int → Int) (pids : List Int) : List Int :=
  (pids.filter (0 < time ·)).map time

/-- The handler acts as if `time` were how much time the closing processes have left: it kills
exactly those that have none, and if any others remain it arms the timer with the least of their
times. -/
structure ActsOn (lm : LaunchManager) (now : Int) (time : Int → Int) : Prop where
  /-- Those without time left are killed, each once. -/
  kills : ((lm.closeTimeoutHandler now).2.flatMap killedBy).Perm
    (lm.closing.toList.filter (time · ≤ 0))
  /-- The others go on closing. -/
  closing : ∀ pid, pid ∈ (lm.closeTimeoutHandler now).1.closing ↔
    pid ∈ lm.closing ∧ 0 < time pid
  /-- The timer is started for the least time left, and not at all if there is none. -/
  arms : (lm.closeTimeoutHandler now).2.flatMap armedBy =
    ((pending time lm.closing.toList).min?.map (lm.nextTimerId, ·)).toList
  /-- It is the one that is armed afterwards. -/
  armed : (lm.closeTimeoutHandler now).1.closeTimerId =
    if pending time lm.closing.toList = [] then lm.closeTimerId else some lm.nextTimerId

/-- The handler keeps to the deadlines, and every interval it may need is an `int`. -/
structure KeepsDeadlines (lm : LaunchManager) (now : Int) : Prop where
  /-- The handler goes by the time that is really left. -/
  acts : ActsOn lm now (lm.remaining now)
  /-- This is a time that a timer can wait for. -/
  fits : ∀ time ∈ pending (lm.remaining now) lm.closing.toList, time < 2 ^ 31

/-- Time that is left is positive. -/
theorem pos_of_mem_pending {time : Int → Int} {pids : List Int} {x : Int}
    (hx : x ∈ pending time pids) : 0 < x := by
  obtain ⟨pid, hpid, rfl⟩ := List.mem_map.mp hx
  simpa using (List.mem_filter.mp hpid).2

/-- What matters is who has time left, and how much. -/
theorem ActsOn.congr {lm : LaunchManager} {now : Int} {time time' : Int → Int}
    (h : ActsOn lm now time)
    (hpos : ∀ pid ∈ lm.closing, 0 < time' pid ↔ 0 < time pid)
    (htime : ∀ pid ∈ lm.closing, 0 < time pid → time' pid = time pid) : ActsOn lm now time' := by
  have hpending : pending time' lm.closing.toList = pending time lm.closing.toList := by
    have hfilter : lm.closing.toList.filter (0 < time' ·) = lm.closing.toList.filter (0 < time ·) :=
      List.filter_congr fun pid hpid =>
        decide_eq_decide.mpr (hpos pid (Std.TreeSet.mem_toList.mp hpid))
    rw [pending, pending, hfilter]
    refine List.map_congr_left fun pid hpid => ?_
    obtain ⟨hclosing, hleft⟩ := List.mem_filter.mp hpid
    exact htime pid (Std.TreeSet.mem_toList.mp hclosing) (by simpa using hleft)
  have hoverdue : lm.closing.toList.filter (time' · ≤ 0) = lm.closing.toList.filter (time · ≤ 0) :=
    List.filter_congr fun pid hpid => decide_eq_decide.mpr (by
      have hiff := hpos pid (Std.TreeSet.mem_toList.mp hpid)
      omega)
  refine ⟨hoverdue ▸ h.kills, fun pid => ?_, hpending ▸ h.arms, hpending ▸ h.armed⟩
  rw [h.closing pid]
  exact and_congr_right fun hpid => (hpos pid hpid).symm

/-! ## The loop

The loop keeps the least wait so far, with 0 for none. Its turns are added up by induction over
the processes, as in the invariant of the loop for the closing runners. -/

/-- What the loop has done to `lm` after its turns for `pids`. -/
structure Turns (lm : LaunchManager) (now : Int) (pids : List Int)
    (acc : LaunchManager × Int × List Action) : Prop where
  closeTimeout : acc.1.closeTimeout = lm.closeTimeout
  closeTimerId : acc.1.closeTimerId = lm.closeTimerId
  nextTimerId : acc.1.nextTimerId = lm.nextTimerId
  /-- A process whose turn is still to come is as it was. -/
  running : ∀ pid ∉ pids, acc.1.running[pid]? = lm.running[pid]?
  /-- Processes without time left do not go on closing. -/
  closing : ∀ pid, pid ∈ acc.1.closing ↔ pid ∈ lm.closing ∧ (pid ∈ pids → 0 < lm.wait now pid)
  /-- 0 stands for "none". -/
  least : acc.2.1 = (pending (lm.wait now) pids).min?.getD 0
  /-- They are killed, in the order of their turns. -/
  kills : acc.2.2 = (pids.filter (lm.wait now · ≤ 0)).map .kill

/-- The fold of the loop: 0 is no wait, and any other value is the least one so far. -/
theorem min?_concat (l : List Int) (hl : ∀ x ∈ l, 0 < x) (x : Int) :
    (l ++ [x]).min? = some (if l.min?.getD 0 ≠ 0 then min x (l.min?.getD 0) else x) := by
  cases l with
  | nil => rfl
  | cons y l =>
    have hmin : (y :: l).min? = some (l.foldl min y) := List.min?_cons'
    have hpos : 0 < l.foldl min y := hl _ (List.min?_mem hmin)
    rw [hmin, Option.getD_some, if_pos (by omega), List.cons_append, List.min?_cons',
      List.foldl_append]
    exact congrArg some (Int.min_comm _ _)

/-- A turn of the loop. The two cases are those of its `if`. The turn is about a pid that has not
had its own yet, so what the loop knows of the others stays. -/
theorem turns_closeTimeoutStep {lm : LaunchManager} {now : Int} {pids : List Int}
    {acc : LaunchManager × Int × List Action} (h : Turns lm now pids acc) {pid : Int}
    (hpid : pid ∈ lm.running) (hnew : pid ∉ pids) :
    Turns lm now (pids ++ [pid]) (closeTimeoutStep now acc pid) := by
  have hprocess : acc.1.running[pid]? = some lm.running[pid] := by
    rw [h.running pid hnew]
    exact Std.TreeMap.getElem?_eq_some_getElem hpid
  have hwait : acc.1.closeWait lm.running[pid] now = lm.wait now pid := by
    rw [closeWait, h.closeTimeout]
    exact closeWait_eq (Std.TreeMap.getElem?_eq_some_getElem hpid) now
  unfold closeTimeoutStep
  rw [hprocess]
  dsimp only
  rw [hwait]
  by_cases hpos : lm.wait now pid > 0
  · -- it has time left, or seems to
    rw [if_pos hpos]
    have hwaits : pending (lm.wait now) (pids ++ [pid]) =
        pending (lm.wait now) pids ++ [lm.wait now pid] := by
      simp [pending, hpos]
    refine ⟨h.closeTimeout, h.closeTimerId, h.nextTimerId, fun pid' hpid' => ?_, fun pid' => ?_,
      ?_, ?_⟩
    · exact h.running pid' fun hmem => hpid' (List.mem_append_left _ hmem)
    · rw [h.closing pid', List.mem_append, List.mem_singleton]
      refine and_congr_right fun _ => ⟨fun hold hmem => ?_, fun hall hmem => hall (.inl hmem)⟩
      exact hmem.elim hold fun heq => heq ▸ hpos
    · rw [hwaits, min?_concat _ fun _ => pos_of_mem_pending, ← h.least]
      rfl
    · have hlate : ¬ lm.wait now pid ≤ 0 := by omega
      simp [h.kills, List.filter_append, hlate]
  · -- it is killed
    rw [if_neg hpos]
    have hwaits : pending (lm.wait now) (pids ++ [pid]) = pending (lm.wait now) pids := by
      simp [pending, hpos]
    refine ⟨h.closeTimeout, h.closeTimerId, h.nextTimerId, fun pid' hpid' => ?_, fun pid' => ?_,
      ?_, ?_⟩
    · rw [List.mem_append, List.mem_singleton, not_or] at hpid'
      show (acc.1.running.insert pid _)[pid']? = _
      rw [QMap.getElem?_insert, if_neg (Ne.symm hpid'.2)]
      exact h.running pid' hpid'.1
    · show pid' ∈ acc.1.closing.erase pid ↔ _
      rw [Std.TreeSet.mem_erase, Ne, Std.compare_eq_iff_eq, h.closing pid', List.mem_append,
        List.mem_singleton]
      constructor
      · intro ⟨hne, hclosing, hold⟩
        exact ⟨hclosing, fun hmem => hmem.elim hold fun heq => absurd heq.symm hne⟩
      · intro ⟨hclosing, hall⟩
        exact ⟨fun heq => hpos (heq ▸ hall (.inr heq.symm)), hclosing, fun hmem => hall (.inl hmem)⟩
    · rw [hwaits]
      exact h.least
    · have hlate : lm.wait now pid ≤ 0 := by omega
      simp [h.kills, List.filter_append, hlate]

/-- All turns, by induction on the processes whose turn is still to come. No process has two. -/
theorem turns_foldl {lm : LaunchManager} {now : Int} {pids : List Int}
    {acc : LaunchManager × Int × List Action} (h : Turns lm now pids acc) (pids' : List Int)
    (hpids' : ∀ pid ∈ pids', pid ∈ lm.running) (hnodup : (pids ++ pids').Nodup) :
    Turns lm now (pids ++ pids') (pids'.foldl (closeTimeoutStep now) acc) := by
  induction pids' generalizing pids acc with
  | nil => simpa using h
  | cons pid pids' ih =>
    have hnew : pid ∉ pids := fun hmem =>
      (List.nodup_append.mp hnodup).2.2 pid hmem pid (List.mem_cons_self ..) rfl
    rw [List.append_cons] at hnodup
    rw [List.foldl_cons, List.append_cons]
    exact ih (turns_closeTimeoutStep h (hpids' pid (List.mem_cons_self ..)) hnew)
      (fun pid' hpid' => hpids' pid' (List.mem_cons_of_mem _ hpid')) hnodup

/-- The whole loop, for any clock reading. -/
theorem turns_closeTimeoutLoop (lm : LaunchManager)
    (hrunning : ∀ pid ∈ lm.closing, pid ∈ lm.running) (now : Int) :
    Turns lm now lm.closing.toList (lm.closeTimeoutLoop now) := by
  have hinit : Turns lm now [] (lm, 0, []) := by
    refine ⟨rfl, rfl, rfl, fun _ _ => rfl, fun pid => ?_, rfl, rfl⟩
    simp
  exact turns_foldl hinit lm.closing.toList
    (fun pid hpid => hrunning pid (Std.TreeSet.mem_toList.mp hpid)) (QSet.nodup_toList lm.closing)

/-! ## The handler

`actsOn_wait` holds for any clock: the handler goes by what it has computed. By `ActsOn.congr` it
keeps to the deadlines as well, if what it has computed is positive for the same processes and right
for these. -/

/-- The handler goes by the waits as it keeps them, whatever the clock says. So all that is to be
said of the clock is in the waits, which `closeWait_eq` computes. -/
theorem actsOn_wait (lm : LaunchManager) (hrunning : ∀ pid ∈ lm.closing, pid ∈ lm.running)
    (now : Int) : ActsOn lm now (lm.wait now) := by
  have hloop := turns_closeTimeoutLoop lm hrunning now
  have hkills : (lm.closeTimeoutLoop now).2.2.flatMap killedBy =
      lm.closing.toList.filter (lm.wait now · ≤ 0) := by
    rw [hloop.kills, List.flatMap_map]
    exact List.flatMap_singleton' _
  have harms : (lm.closeTimeoutLoop now).2.2.flatMap armedBy = [] := by
    rw [hloop.kills, List.flatMap_map]
    exact List.flatMap_eq_nil_iff.mpr fun _ _ => rfl
  have hclosing (pid : Int) : pid ∈ (lm.closeTimeoutLoop now).1.closing ↔
      pid ∈ lm.closing ∧ 0 < lm.wait now pid := by
    rw [hloop.closing pid]
    exact and_congr_right fun hpid => ⟨fun h => h (Std.TreeSet.mem_toList.mpr hpid), fun h _ => h⟩
  have hleast := hloop.least
  cases hmin : (pending (lm.wait now) lm.closing.toList).min? with
  | none =>
    -- nobody waits, and the timer is left alone
    have hnone : pending (lm.wait now) lm.closing.toList = [] := List.min?_eq_none_iff.mp hmin
    rw [hmin, Option.getD_none] at hleast
    have hhandler : lm.closeTimeoutHandler now =
        ((lm.closeTimeoutLoop now).1, (lm.closeTimeoutLoop now).2.2) := if_neg (by omega)
    refine ⟨.of_eq ?_, fun pid => ?_, ?_, ?_⟩ <;> rw [hhandler]
    · exact hkills
    · exact hclosing pid
    · rw [hmin, harms]
      rfl
    · rw [if_pos hnone]
      exact hloop.closeTimerId
  -- the timer is started for the least time left
  | some time =>
    have hmem : time ∈ pending (lm.wait now) lm.closing.toList := List.min?_mem hmin
    have hpos : 0 < time := pos_of_mem_pending hmem
    rw [hmin, Option.getD_some] at hleast
    have hhandler : lm.closeTimeoutHandler now =
        (((lm.closeTimeoutLoop now).1.startCloseTimer time).1,
          (lm.closeTimeoutLoop now).2.2 ++ [.startTimer lm.nextTimerId time]) := by
      rw [closeTimeoutHandler, if_pos (by omega), hleast, ← hloop.nextTimerId]
      rfl
    refine ⟨.of_eq ?_, fun pid => ?_, ?_, ?_⟩ <;> rw [hhandler]
    · rw [List.flatMap_append, hkills]
      exact List.append_nil _
    · exact hclosing pid
    · rw [List.flatMap_append, harms, hmin]
      rfl
    · rw [if_neg (List.ne_nil_of_mem hmem)]
      exact congrArg some hloop.nextTimerId

/-- No closing process is late by more than 2^31 ms, up to multiples of 2^32. -/
def LatenessFits (lm : LaunchManager) (now : Int) : Prop :=
  ∀ pid ∈ lm.closing, lm.deadline pid ≤ now → (now - lm.deadline pid) % 2 ^ 32 ≤ 2 ^ 31

instance (lm : LaunchManager) (now : Int) : Decidable (LatenessFits lm now) :=
  inferInstanceAs (Decidable (∀ pid ∈ lm.closing, _ → _))

/-- **Close deadlines.** With the clock at or after the times at which the closing processes were
asked to close, the handler keeps to the deadlines exactly when no process is too late.

The wait that the handler computes is the time that remains, cut to 32 bits. The cut can change its
sign only for a process that is late, and does so just in case the lateness is more than 2^31 within
its turn of 2^32. -/
theorem keepsDeadlines_iff (lm : LaunchManager) (now : Int)
    (hrunning : ∀ pid ∈ lm.closing, pid ∈ lm.running)
    (htimeout : 0 ≤ lm.closeTimeout ∧ lm.closeTimeout < 2 ^ 31)
    (hnow : ∀ pid ∈ lm.closing, lm.timestamp pid ≤ now) :
    KeepsDeadlines lm now ↔ LatenessFits lm now := by
  have hwait := actsOn_wait lm hrunning now
  have hfits : ∀ pid ∈ lm.closing, lm.remaining now pid < 2 ^ 31 := fun pid hpid => by
    have htimestamp := hnow pid hpid
    simp only [remaining, deadline]
    omega
  constructor
  · intro ⟨hacts, _⟩ pid hpid hlate
    -- it is overdue, so it was killed, so its wait was not positive
    by_contra hbeyond
    have hpos : 0 < lm.wait now pid := (wait_pos_iff (hfits pid hpid)).mpr (.inr (by omega))
    have hremaining := ((hacts.closing pid).mp ((hwait.closing pid).mpr ⟨hpid, hpos⟩)).2
    simp only [remaining] at hremaining
    omega
  · intro hlateness
    -- a wait that is positive is the time that remains, and the others are those overdue
    have hpos : ∀ pid ∈ lm.closing, 0 < lm.remaining now pid ↔ 0 < lm.wait now pid := by
      intro pid hpid
      rw [wait_pos_iff (hfits pid hpid)]
      refine ⟨.inl, fun hor => ?_⟩
      have hle := hlateness pid hpid
      simp only [remaining] at hor ⊢
      omega
    refine ⟨hwait.congr hpos fun pid hpid hleft => ?_, fun time htime => ?_⟩
    · exact (wait_eq_remaining (hfits pid hpid) ((hpos pid hpid).mpr hleft)).symm
    · obtain ⟨pid, hpid, rfl⟩ := List.mem_map.mp htime
      exact hfits pid (Std.TreeSet.mem_toList.mp (List.mem_filter.mp hpid).1)

/-- Two processes are closing, since 20 and since 500. -/
def twoClosing : LaunchManager :=
  { (launchManager.run (.init (new 2 50 "qml-runner" 1000)) (closeTwo.take 7)).state with
    closeTimerId := none }

/-- At 1100 the first one is killed, and the timer is armed for the second one. -/
theorem keepsDeadlines_twoClosing : KeepsDeadlines twoClosing 1100 :=
  (keepsDeadlines_iff twoClosing 1100 (by decide) (by decide) (by decide)).mpr (by decide)

/-- The clock jumps to a time at which both are late by more than 2^31 ms: the handler kills neither
of them, and waits for weeks. -/
theorem not_keepsDeadlines_twoClosing :
    (∀ pid ∈ twoClosing.closing, pid ∈ twoClosing.running) ∧
      (0 ≤ twoClosing.closeTimeout ∧ twoClosing.closeTimeout < 2 ^ 31) ∧
      (∀ pid ∈ twoClosing.closing, twoClosing.timestamp pid ≤ 2147486000) ∧
      (∀ pid ∈ twoClosing.closing, twoClosing.deadline pid ≤ 2147486000) ∧
      (twoClosing.closeTimeoutHandler 2147486000).2 = [.startTimer 4 2147482316] ∧
      ¬ KeepsDeadlines twoClosing 2147486000 := by
  refine ⟨by decide, by decide, by decide, by decide, by decide, fun ⟨hacts, _⟩ => ?_⟩
  have hleft := ((hacts.closing 100).mp (by decide)).2
  revert hleft
  decide

end LaunchManager

end Booster
