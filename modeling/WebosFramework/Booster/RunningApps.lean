import WebosFramework.Booster.IpcClient
import WebosFramework.Booster.Sockets

/-!
# The running applications

`m_runningApps` has the latest process of each application, and `m_runningProcesses` the application
of each process that has reported a successful launch. An application may be started again while its
old process is still listed, so the first map is not the inverse of the second; it is a part of it.

* `FixedRunners` is the guard: a socket keeps its pid and its application, no two sockets have the
  same pid, and a LAUNCH_REPLY comes from a launched socket. Qt's and the runner's guards imply it
  (`fixedRunners_of_protocol`).
* `RunningInv` is the invariant, and `running_apps_consistent` what follows for the two maps.
-/

namespace Booster

open Qt EventLoop

namespace IpcServer

variable {κ : Type}

/-! ## The two maps after `removeProcess`

`m_runningApps` leads from applications to pids, and `m_runningProcesses` back. One method removes
from both. -/

/-- Only the process itself is removed. -/
theorem runningProcesses_removeProcess (srv : IpcServer κ) (p q : Int) :
    (srv.removeProcess p).runningProcesses[q]? =
      if p = q then none else srv.runningProcesses[q]? := by
  rw [removeProcess, QMap.getElem?_erase]

/-- An entry of `m_runningApps` that survives belongs to another process, or to an application the
process was not listed with. -/
theorem runningApps_removeProcess {srv : IpcServer κ} {p q : Int} {a : String} :
    (srv.removeProcess p).runningApps[a]? = some q ↔
      srv.runningApps[a]? = some q ∧ (q = p → srv.runningProcesses[p]?.getD "" ≠ a) := by
  simp only [removeProcess]
  by_cases hp : srv.runningApps[srv.runningProcesses[p]?.getD ""]?.getD 0 = p
  · rw [if_pos hp, QMap.getElem?_erase]
    -- the entry of the application of `p` goes, if it is still that of `p`
    by_cases ha : srv.runningProcesses[p]?.getD "" = a
    · rw [if_pos ha]
      rw [ha] at hp
      constructor
      · intro h
        cases h
      · rintro ⟨hq, hne⟩
        rw [hq] at hp
        exact absurd ha (hne hp)
    · rw [if_neg ha]
      exact ⟨fun h => ⟨h, fun _ => ha⟩, fun h => h.1⟩
  · rw [if_neg hp]
    refine ⟨fun h => ⟨h, ?_⟩, fun h => h.1⟩
    rintro rfl rfl
    rw [h] at hp
    exact hp rfl

/-! ## The guard

What the runs are assumed to meet, and the invariant that follows from it. The assumptions are
implied by what Qt and the runners promise. -/

/-- The pid and the application of a socket do not change, no two sockets have the same pid, and a
LAUNCH_REPLY comes from a socket that has been launched. -/
structure FixedRunners (srv : IpcServer κ) (e : ServerEvent κ) : Prop where
  /-- A socket keeps its pid. -/
  pid : ∀ s p, (srv.socket s).pid = some p → ((srv.handle e).1.socket s).pid = some p
  /-- It keeps its application. -/
  appId : ∀ s a, (srv.socket s).appId = some a → ((srv.handle e).1.socket s).appId = some a
  /-- A pid is noted at one socket. -/
  distinct : ∀ s t p, ((srv.handle e).1.socket s).pid = some p →
    ((srv.handle e).1.socket t).pid = some p → s = t
  /-- A reply to a launch comes from a socket that was launched. -/
  replies : srv.RepliesWhenLaunched e

/-- What the events do to the pool, the pids and the two maps. -/
structure RunningInv (srv : IpcServer κ) : Prop where
  /-- Runners of the pool are registered. -/
  pooled : ∀ s ∈ srv.runnerClients, (srv.socket s).pid ≠ none
  /-- So are those that were launched. -/
  launched : ∀ s a, (srv.socket s).appId = some a → (srv.socket s).pid ≠ none
  distinct : ∀ s t p, (srv.socket s).pid = some p → (srv.socket t).pid = some p → s = t
  /-- A process that has reported a launch is that of a socket launched for the application. -/
  process : ∀ (p : Int) a, srv.runningProcesses[p]? = some a →
    ∃ s, (srv.socket s).pid = some p ∧ (srv.socket s).appId = some a
  /-- What the first map says the second one says, too. -/
  app : ∀ (a : String) p, srv.runningApps[a]? = some p → srv.runningProcesses[p]? = some a

namespace RunningInv

variable {srv : IpcServer κ}

/-- A new server has heard of no process. -/
theorem init : RunningInv ({} : IpcServer κ) := by
  refine ⟨?_, ?_, ?_, ?_, ?_⟩ <;> simp [socket]

/-- A runner in the pool or launched is registered, as long as no socket loses its pid. The pid may
be set within the event, when a registration is followed by a launch. -/
theorem registered_step (h : RunningInv srv) {e : ServerEvent κ}
    (hkept : ∀ s p, (srv.socket s).pid = some p → ((srv.handle e).1.socket s).pid = some p) :
    (∀ s ∈ (srv.handle e).1.runnerClients, ((srv.handle e).1.socket s).pid ≠ none) ∧
      (∀ s a, ((srv.handle e).1.socket s).appId = some a →
        ((srv.handle e).1.socket s).pid ≠ none) := by
  have hsome (s : SocketId) (hs : (srv.socket s).pid ≠ none) :
      ((srv.handle e).1.socket s).pid ≠ none := by
    obtain ⟨p, hp⟩ := Option.ne_none_iff_exists'.mp hs
    rw [hkept s p hp]
    exact Option.some_ne_none p
  refine ⟨fun s hs => ?_, fun s a ha => ?_⟩
  · rcases runnerClients_step hs with hs | hs
    · exact hsome s (h.pooled s hs)
    · exact hs
  · cases socket_step srv e s with
    | unchanged hx => exact hsome s (h.launched s a (hx ▸ ha))
    | opened he hx =>
      rw [hx] at ha
      cases ha
    | closing hpid happ => exact hsome s (h.launched s a (happ ▸ ha))
    | registered message now he hheader hpid =>
      rw [hpid]
      exact Option.some_ne_none _
    | launched hpool => exact hsome s (h.pooled s hpool)

/-- The two maps change on a successful LAUNCH_REPLY and in `removeProcess` only. -/
theorem maps_of_transition {e : ServerEvent κ} {result : IpcServer κ × List (Output κ)}
    (ht : Transition srv e result) :
    (result.1.runningApps = srv.runningApps ∧ result.1.runningProcesses = srv.runningProcesses) ∨
      (∃ p, e = .removeProcess p ∧ result.1 = srv.removeProcess p) ∨
      ∃ s message now, e = .socket (.readSocket s message now) ∧
        header message = some .launchReply ∧ errorCode message = 0 ∧
        result.1.runningApps =
          srv.runningApps.insert ((srv.socket s).appId.getD "") (srv.processId s) ∧
        result.1.runningProcesses =
          srv.runningProcesses.insert (srv.processId s) ((srv.socket s).appId.getD "") := by
  cases ht with
  | launchSucceeded s message now hheader hcode =>
    exact .inr (.inr ⟨s, message, now, rfl, hheader, hcode, rfl, rfl⟩)
  | removed p => exact .inr (.inl ⟨p, rfl, rfl⟩)
  | served s message now deferred rest launched hheader hpid hdeferred hl =>
    cases hl <;> exact .inl ⟨rfl, rfl⟩
  | launch message now result hl => cases hl <;> exact .inl ⟨rfl, rfl⟩
  | connected | disconnected | closed | deleted | refused | ignored | registered | launchFailed
  | relaunchReplied | relaunchSent | relaunchLost => exact .inl ⟨rfl, rfl⟩

/-- Every event the guard lets through keeps the invariant. A reply adds the same pair to both maps;
what `m_runningApps` says about another application cannot be about this process, because the
process has one socket and the socket one application. -/
theorem step (h : RunningInv srv) {e : ServerEvent κ} (hfixed : FixedRunners srv e) :
    RunningInv (srv.handle e).1 := by
  have ht := transition srv e
  obtain ⟨hpooled, hlaunched⟩ := h.registered_step hfixed.pid
  have hsocket {p a} (hpa : ∃ s, (srv.socket s).pid = some p ∧ (srv.socket s).appId = some a) :
      ∃ s, ((srv.handle e).1.socket s).pid = some p ∧
        ((srv.handle e).1.socket s).appId = some a := by
    obtain ⟨s, hp, ha⟩ := hpa
    exact ⟨s, hfixed.pid s p hp, hfixed.appId s a ha⟩
  rcases maps_of_transition ht with ⟨happs, hprocs⟩ | ⟨p, rfl, hstate⟩ |
    ⟨s, message, now, rfl, hheader, hcode, happs, hprocs⟩
  · -- the two maps are as they were
    refine ⟨hpooled, hlaunched, hfixed.distinct, fun p a hp => ?_, fun a p ha => ?_⟩
    · rw [hprocs] at hp
      exact hsocket (h.process p a hp)
    · rw [happs] at ha
      rw [hprocs]
      exact h.app a p ha
  · refine ⟨hpooled, hlaunched, hfixed.distinct, fun q a hq => ?_, fun a q ha => ?_⟩
    · rw [hstate, runningProcesses_removeProcess] at hq
      split at hq
      · cases hq
      · exact hsocket (h.process q a hq)
    · rw [hstate, runningApps_removeProcess] at ha
      have hproc := h.app a q ha.1
      -- `removeProcess p` keeps only entries of `m_runningApps` for other processes
      rw [hstate, runningProcesses_removeProcess, if_neg, hproc]
      rintro rfl
      exact ha.2 rfl (by rw [hproc]; rfl)
  · -- a successful reply adds the same pair to both
    obtain ⟨a, ha⟩ := Option.ne_none_iff_exists'.mp (hfixed.replies hheader)
    obtain ⟨p, hp⟩ := Option.ne_none_iff_exists'.mp (h.launched s a ha)
    have hpid : srv.processId s = p := by simp [processId, hp]
    simp only [hpid, ha, Option.getD_some] at happs hprocs
    refine ⟨hpooled, hlaunched, hfixed.distinct, fun q b hq => ?_, fun b q hb => ?_⟩
    · rw [hprocs, QMap.getElem?_insert] at hq
      split at hq
      · rename_i hpq
        cases hq
        exact hsocket ⟨s, hpq ▸ hp, ha⟩
      · exact hsocket (h.process q b hq)
    · rw [happs, QMap.getElem?_insert] at hb
      rw [hprocs, QMap.getElem?_insert]
      split at hb
      · rename_i hab
        cases hb
        rw [if_pos rfl, hab]
      · rename_i hab
        have hproc := h.app b q hb
        rw [if_neg]
        · exact hproc
        · -- `p` cannot be listed for `b` as well: its only socket was launched for `a`
          rintro rfl
          obtain ⟨t, htp, hta⟩ := h.process p b hproc
          rw [h.distinct t s p htp hp, ha] at hta
          exact hab (Option.some.inj hta)

end RunningInv

/-- What Qt and the runners promise implies the guard. -/
theorem fixedRunners_of_protocol {srv : IpcServer κ} {e : ServerEvent κ} (hs : SocketsInv srv)
    (hr : RunningInv srv) (he : srv.RunnerProtocol e) : FixedRunners srv e where
  pid s := (hs.kept he.life he.once s).1
  appId s := (hs.kept he.life he.once s).2
  distinct := distinct_step he.distinct hr.distinct
  replies := he.replies

/-- The guards of the protocol imply this one in every run. -/
theorem admits_fixedRunners {es : List (ServerEvent κ)}
    (hes : (ipcServer κ).Admits (fun h e => h.state.RunnerProtocol e) (.init {}) es) :
    (ipcServer κ).Admits (fun h e => FixedRunners h.state e) (.init {}) es :=
  Machine.Admits.of_invariant (I := fun h => SocketsInv h.state ∧ RunningInv h.state)
    (fun _ _ ⟨hs, hr⟩ he =>
      ⟨hs.step he.life he.once, hr.step (fixedRunners_of_protocol hs hr he)⟩)
    (fun _ _ ⟨hs, hr⟩ he => fixedRunners_of_protocol hs hr he)
    ⟨SocketsInv.init, RunningInv.init⟩ hes

/-! ## Consistency

Every event adds the same pair to both maps, or removes one process from both, or leaves both
alone. -/

/-- The pid an event concerns: a reply concerns the process behind the socket, and `removeProcess`
its argument. -/
def concerned (srv : IpcServer κ) : ServerEvent κ → Option Int
  | .socket (.readSocket s message _) =>
    if header message = some .launchReply ∨ header message = some .relaunchReply then
      some (srv.processId s)
    else none
  | .removeProcess processId => some processId
  | _ => none

/-- An event does not touch the entries of the processes it does not concern. -/
theorem runningProcesses_of_not_concerned (srv : IpcServer κ) {e : ServerEvent κ} {q : Int}
    (hq : srv.concerned e ≠ some q) :
    (srv.handle e).1.runningProcesses[q]? = srv.runningProcesses[q]? := by
  rcases RunningInv.maps_of_transition (transition srv e) with ⟨-, hprocs⟩ | ⟨p, rfl, hstate⟩ |
    ⟨s, message, now, rfl, hheader, hcode, -, hprocs⟩
  · rw [hprocs]
  · rw [hstate, runningProcesses_removeProcess, if_neg]
    rintro rfl
    exact hq rfl
  · rw [hprocs, QMap.getElem?_insert]
    rw [if_neg]
    rintro rfl
    exact hq (by simp [concerned, hheader])

/-- A successful LAUNCH_REPLY lists its process in both maps. -/
theorem maps_of_launchReply (srv : IpcServer κ) (s : SocketId) {message : QJsonObject} (now : Int)
    (hheader : header message = some .launchReply) (hcode : errorCode message = 0) :
    (srv.readSocket s message now).1.runningApps =
        srv.runningApps.insert ((srv.socket s).appId.getD "") (srv.processId s) ∧
      (srv.readSocket s message now).1.runningProcesses =
        srv.runningProcesses.insert (srv.processId s) ((srv.socket s).appId.getD "") := by
  have hempty : ¬ message.isEmpty = true := by
    intro hempty
    rw [header_of_isEmpty hempty] at hheader
    cases hheader
  rw [readSocket, if_neg hempty, hheader]
  simp [readLaunchReply, hcode, dropCallback]

/-- Any other event adds nothing to `m_runningApps`. -/
theorem runningApps_sub (srv : IpcServer κ) {e : ServerEvent κ}
    (he : ∀ s message now, e = .socket (.readSocket s message now) →
      ¬(header message = some .launchReply ∧ errorCode message = 0))
    {a : String} {p : Int} (ha : (srv.handle e).1.runningApps[a]? = some p) :
    srv.runningApps[a]? = some p := by
  rcases RunningInv.maps_of_transition (transition srv e) with ⟨happs, -⟩ | ⟨q, -, hstate⟩ |
    ⟨s, message, now, hread, hheader, hcode, -⟩
  · rwa [happs] at ha
  · rw [hstate] at ha
    exact (runningApps_removeProcess.mp ha).1
  · exact absurd ⟨hheader, hcode⟩ (he s message now hread)

/-- A reply that reports an error, and a reply to a relaunch, leave both maps alone. -/
theorem maps_of_reply (srv : IpcServer κ) (s : SocketId) {message : QJsonObject} (now : Int)
    (hreply : header message = some .launchReply ∧ errorCode message ≠ 0 ∨
      header message = some .relaunchReply) :
    (srv.readSocket s message now).1.runningApps = srv.runningApps ∧
      (srv.readSocket s message now).1.runningProcesses = srv.runningProcesses := by
  rcases RunningInv.maps_of_transition (transition srv (.socket (.readSocket s message now))) with
    hsame | ⟨p, he, -⟩ | ⟨t, message', now', he, hheader, hcode, -⟩
  · exact hsame
  · cases he
  · cases he
    rcases hreply with ⟨-, herror⟩ | hrelaunch
    · exact absurd hcode herror
    · rw [hheader] at hrelaunch
      cases hrelaunch

/-- **Consistency of the running applications.** What `m_runningApps` says is also in
`m_runningProcesses`; `removeProcess` takes a process out of both maps and no other process out of
either; no event touches the entry of a process it does not concern; and only a successful
LAUNCH_REPLY adds one. -/
theorem running_apps_consistent (es : List (ServerEvent κ))
    (hes : (ipcServer κ).Admits (fun h e => FixedRunners h.state e) (.init {}) es) :
    let srv := ((ipcServer κ).run (.init {}) es).state
    (∀ (a : String) p, srv.runningApps[a]? = some p → srv.runningProcesses[p]? = some a) ∧
      (∀ p, (srv.removeProcess p).runningProcesses[p]? = none ∧
        ∀ a : String, (srv.removeProcess p).runningApps[a]? ≠ some p) ∧
      (∀ p q (a : String), q ≠ p → srv.runningApps[a]? = some q →
        (srv.removeProcess p).runningApps[a]? = some q) ∧
      (∀ e (q : Int), srv.concerned e ≠ some q →
        (srv.handle e).1.runningProcesses[q]? = srv.runningProcesses[q]?) ∧
      (∀ s message now, header message = some .launchReply ∧ errorCode message ≠ 0 ∨
          header message = some .relaunchReply →
        (srv.readSocket s message now).1.runningApps = srv.runningApps ∧
          (srv.readSocket s message now).1.runningProcesses = srv.runningProcesses) := by
  have hinv := Machine.invariant (M := ipcServer κ) (I := fun h => RunningInv h.state)
    (fun _ _ hinv hfixed => hinv.step hfixed) (h := .init {}) RunningInv.init hes
  refine ⟨hinv.app, fun p => ⟨?_, fun a ha => ?_⟩, fun p q a hqp ha => ?_,
    fun e q hq => runningProcesses_of_not_concerned _ hq,
    fun s message now hreply => maps_of_reply _ s now hreply⟩
  · rw [runningProcesses_removeProcess, if_pos rfl]
  · rw [runningApps_removeProcess] at ha
    exact ha.2 rfl (by rw [hinv.app a p ha.1]; rfl)
  · exact runningApps_removeProcess.mpr ⟨ha, fun h => absurd h hqp⟩

/-- An application is started again while its first process is still listed; then that process
ends. -/
def restarted : List (ServerEvent Nat) :=
  [.socket (.newConnection 1),
    .socket (.readSocket 1 (IpcClient.registerRequest 100) 10),
    .launch ⟨"com.webos.app.a", "a.qml", {}, some 0⟩ 20,
    .socket (.readSocket 1 (IpcClient.launchReply "a.qml" true) 30),
    .socket (.newConnection 2),
    .socket (.readSocket 2 (IpcClient.registerRequest 200) 40),
    .launch ⟨"com.webos.app.a", "a.qml", {}, some 1⟩ 50,
    .socket (.readSocket 2 (IpcClient.launchReply "a.qml" true) 60)]

/-- Both processes are listed in the second map, and only the second process in the first one. -/
theorem running_apps_consistent_restarted :
    let srv := ((ipcServer Nat).run (.init {}) restarted).state
    (∀ (a : String) p, srv.runningApps[a]? = some p → srv.runningProcesses[p]? = some a) ∧
      (∀ p, (srv.removeProcess p).runningProcesses[p]? = none ∧
        ∀ a : String, (srv.removeProcess p).runningApps[a]? ≠ some p) ∧
      (∀ p q (a : String), q ≠ p → srv.runningApps[a]? = some q →
        (srv.removeProcess p).runningApps[a]? = some q) ∧
      (∀ e (q : Int), srv.concerned e ≠ some q →
        (srv.handle e).1.runningProcesses[q]? = srv.runningProcesses[q]?) ∧
      (∀ s message now, header message = some .launchReply ∧ errorCode message ≠ 0 ∨
          header message = some .relaunchReply →
        (srv.readSocket s message now).1.runningApps = srv.runningApps ∧
          (srv.readSocket s message now).1.runningProcesses = srv.runningProcesses) :=
  running_apps_consistent restarted (admits_fixedRunners (by decide))

/-- The old process of an application goes without taking the new one along. -/
example : (((ipcServer Nat).run (.init {}) restarted).state.removeProcess 100).runningApps.toList =
    [("com.webos.app.a", 200)] := by decide

end IpcServer

end Booster
