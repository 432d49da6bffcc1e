import WebosFramework.Booster.LaunchQueue
import WebosFramework.Booster.LiveProcesses

/-!
# One runner for each application

`LunaService::launch` asks for a new runner when `m_runningApps` does not know the application, and
for a relaunch otherwise. `m_runningApps` hears of a runner when it has replied, `m_runningSockets`
when it has been sent its request, and a request may wait in `m_deferredMessages` before that. A
launch that comes in between is taken for the first one.

* `Single` is the invariant: for each application there is one request that waits, or one runner
  that is connected and has not failed, and the two maps lead to that runner.
* `single_step`: every event keeps it if a new launch is fresh, that is, no request for its
  application waits and no such runner has been sent one.
* `single_instance`: so each run in which launches are fresh has one runner for each application.
-/

namespace Booster

open Qt EventLoop

namespace IpcServer

variable {κ : Type}

/-! ## Replies in the past

Which sockets have replied to their launch, and which of them have failed. -/

/-- The socket that sends a LAUNCH_REPLY. -/
def replies : ServerEvent κ → List SocketId
  | .socket (.readSocket s message _) => if header message = some .launchReply then [s] else []
  | _ => []

/-- The socket that reports a failed launch. -/
def fails : ServerEvent κ → List SocketId
  | .socket (.readSocket s message _) =>
    if header message = some .launchReply ∧ errorCode message ≠ 0 then [s] else []
  | _ => []

/-- The sockets that a reply to a launch has been read from. -/
def replied (h : ServerHistory κ) : List SocketId := h.inputs.flatMap replies

/-- The sockets whose reply was a failure. -/
def failed (h : ServerHistory κ) : List SocketId := h.inputs.flatMap fails

/-- A failure is a reply. -/
theorem replied_of_failed {h : ServerHistory κ} {s : SocketId} (hs : s ∈ failed h) :
    s ∈ replied h := by
  obtain ⟨e, he, hse⟩ := List.mem_flatMap.mp hs
  refine List.mem_flatMap.mpr ⟨e, he, ?_⟩
  unfold fails at hse
  split at hse
  · split at hse
    · rename_i hfail
      rw [replies, if_pos hfail.1]
      exact hse
    · exact absurd hse List.not_mem_nil
  · exact absurd hse List.not_mem_nil

/-- A runner replies to its LAUNCH_REQUEST once. -/
def RepliesOnce (h : ServerHistory κ) : ServerEvent κ → Prop :=
  OnRead fun s message => header message = some .launchReply → s ∉ replied h

instance (h : ServerHistory κ) : DecidablePred (RepliesOnce h) :=
  inferInstanceAs (DecidablePred (OnRead _))

/-! ## The invariant

One entry for an application among those that are deferred and those that have been launched and
are live. A launch is safe if its application is `Fresh`. -/

/-- A runner that is connected and has not failed. -/
def Live (failed : List SocketId) (srv : IpcServer κ) (s : SocketId) : Prop :=
  (srv.socket s).phase = .connected ∧ s ∉ failed

instance (failed : List SocketId) (srv : IpcServer κ) : DecidablePred (Live failed srv) :=
  fun s => inferInstanceAs (Decidable ((srv.socket s).phase = .connected ∧ s ∉ failed))

/-- The applications that a request waits for. -/
def deferredApps (srv : IpcServer κ) : List String := srv.deferredMessages.map (·.appId)

/-- One request or one runner for each application. -/
structure Single (failed : List SocketId) (srv : IpcServer κ) : Prop where
  /-- No two requests for one application wait. -/
  waiting : srv.deferredApps.Nodup
  /-- None waits while a runner of the application lives. -/
  waits : ∀ s a, (srv.socket s).appId = some a → Live failed srv s → a ∉ srv.deferredApps
  /-- No two of them live. -/
  unique : ∀ s t a, (srv.socket s).appId = some a → (srv.socket t).appId = some a →
    Live failed srv s → Live failed srv t → s = t
  /-- One that lives is the one that the application leads to. -/
  running : ∀ s a, (srv.socket s).appId = some a → Live failed srv s →
    srv.runningSockets[a]? = some s
  /-- No request waits for an application that is listed. -/
  listed : ∀ (a : String) p, srv.runningApps[a]? = some p → a ∉ srv.deferredApps
  /-- The two maps lead to one process. -/
  agree : ∀ (a : String) s p, srv.runningSockets[a]? = some s → srv.runningApps[a]? = some p →
    (srv.socket s).pid = some p

/-- No runner is there for the application, and none is asked for. -/
structure Fresh (failed : List SocketId) (srv : IpcServer κ) (a : String) : Prop where
  /-- The application is not listed. -/
  notListed : srv.runningApps[a]? = none
  /-- No request for it waits. -/
  notWaiting : a ∉ srv.deferredApps
  /-- None of its runners lives. -/
  notLive : ∀ s, (srv.socket s).appId = some a → ¬ Live failed srv s

namespace Single

variable {failed : List SocketId} {srv : IpcServer κ}

/-- A new server has neither requests nor runners. -/
theorem init : Single [] ({} : IpcServer κ) := by
  refine ⟨List.nodup_nil, ?_, ?_, ?_, ?_, ?_⟩ <;> simp [socket]

/-- An event that launches nothing and lists nothing keeps the invariant. Fewer requests may wait
and fewer runners may be live, but none that is may disappear from the list. -/
theorem mono (h : Single failed srv) {failed' : List SocketId} {srv' : IpcServer κ}
    (hwait : srv'.deferredApps.Sublist srv.deferredApps)
    (hlive : ∀ s a, (srv'.socket s).appId = some a → Live failed' srv' s →
      (srv.socket s).appId = some a ∧ Live failed srv s)
    (hrunning : ∀ (a : String) s, Live failed' srv' s → srv.runningSockets[a]? = some s →
      srv'.runningSockets[a]? = some s)
    (hsub : ∀ (a : String) s, srv'.runningSockets[a]? = some s → srv.runningSockets[a]? = some s)
    (happs : ∀ (a : String) p, srv'.runningApps[a]? = some p → srv.runningApps[a]? = some p)
    (hpid : ∀ s p, (srv.socket s).pid = some p → (srv'.socket s).pid = some p) :
    Single failed' srv' where
  waiting := h.waiting.sublist hwait
  waits s a ha hl := by
    obtain ⟨ha', hl'⟩ := hlive s a ha hl
    exact fun hmem => h.waits s a ha' hl' (hwait.subset hmem)
  unique s t a hs ht hls hlt := by
    obtain ⟨hs', hls'⟩ := hlive s a hs hls
    obtain ⟨ht', hlt'⟩ := hlive t a ht hlt
    exact h.unique s t a hs' ht' hls' hlt'
  running s a ha hl := by
    obtain ⟨ha', hl'⟩ := hlive s a ha hl
    exact hrunning a s hl (h.running s a ha' hl')
  listed a p ha hmem := h.listed a p (happs a p ha) (hwait.subset hmem)
  agree a s p hs ha := hpid s p (h.agree a s p (hsub a s hs) (happs a p ha))

/-- A socket that is live and has an application after it is changed was so before. It may lose its
life, but it does not come by another application. -/
theorem modifySocket (h : Single failed srv) {failed' : List SocketId} (hfailed : failed ⊆ failed')
    (s₀ : SocketId) (f : LocalSocket → LocalSocket)
    (hf : ∀ a, (f (srv.socket s₀)).phase = .connected → (f (srv.socket s₀)).appId = some a →
      (srv.socket s₀).phase = .connected ∧ (srv.socket s₀).appId = some a)
    (hpid : ∀ p, (srv.socket s₀).pid = some p → (f (srv.socket s₀)).pid = some p) :
    Single failed' (srv.modifySocket s₀ f) := by
  refine h.mono (List.Sublist.refl _) (fun s a ha hl => ?_) (fun _ _ _ h => h)
    (fun _ _ h => h) (fun _ _ h => h) (fun s p hp => ?_)
  · -- what is live afterwards was so before
    have hnot : s ∉ failed := fun hmem => hl.2 (hfailed hmem)
    have hphase := hl.1
    rw [socket_modifySocket] at ha hphase
    split at ha
    · subst s
      rw [if_pos rfl] at hphase
      obtain ⟨hphase, happ⟩ := hf a hphase ha
      exact ⟨happ, hphase, hnot⟩
    · rename_i hne
      rw [if_neg hne] at hphase
      exact ⟨ha, hphase, hnot⟩
  · rw [socket_modifySocket]
    split
    · subst s
      exact hpid p hp
    · exact hp

/-- Of a socket that is not live the entry of `m_runningSockets` may go. -/
theorem eraseRunning (h : Single failed srv) {s₀ : SocketId} (hs₀ : ¬ Live failed srv s₀)
    (clients : List SocketId) :
    Single failed { srv with
      runnerClients := clients
      runningSockets := srv.runningSockets.eraseFirst (· == s₀) } := by
  refine h.mono (List.Sublist.refl _) (fun s a ha hl => ⟨ha, hl⟩) (fun a s hl ha => ?_)
    (fun _ _ h => QMap.getElem?_of_eraseFirst h) (fun _ _ h => h) (fun _ _ h => h)
  refine (QMap.getElem?_eraseFirst_of_not _ fun t ht => beq_eq_false_iff_ne.mpr ?_).trans ha
  rw [ha] at ht
  cases ht
  rintro rfl
  exact hs₀ hl

/-- A live runner of an application is listed under its pid. This is what the reply to a launch
does, and there is no other live runner for the entry to be wrong about. -/
theorem listed_of_live (h : Single failed srv) {s₀ : SocketId} {a₀ : String} {p₀ : Int}
    (hlive : Live failed srv s₀) (ha₀ : (srv.socket s₀).appId = some a₀)
    (hp₀ : (srv.socket s₀).pid = some p₀) :
    Single failed { srv with runningApps := srv.runningApps.insert a₀ p₀ } := by
  have hentry {a p} (ha : (srv.runningApps.insert a₀ p₀)[a]? = some p) :
      a = a₀ ∧ p = p₀ ∨ srv.runningApps[a]? = some p := by
    rw [QMap.getElem?_insert] at ha
    split at ha
    · rename_i hne
      exact .inl ⟨hne.symm, (Option.some.inj ha).symm⟩
    · exact .inr ha
  refine ⟨h.waiting, h.waits, h.unique, h.running, fun a p ha => ?_, fun a s p hs ha => ?_⟩
  · rcases hentry ha with ⟨rfl, rfl⟩ | ha
    · exact h.waits s₀ a ha₀ hlive
    · exact h.listed a p ha
  · rcases hentry ha with ⟨rfl, rfl⟩ | ha
    · have hs₀ := h.running s₀ a ha₀ hlive
      rw [show srv.runningSockets[a]? = some s from hs] at hs₀
      cases hs₀
      exact hp₀
    · exact h.agree a s p hs ha

/-- The head of the deferred requests is fresh when it has been taken. -/
theorem fresh_head (h : Single failed srv) {deferred : Message κ} {rest : List (Message κ)}
    (hdeferred : srv.deferredMessages = deferred :: rest) :
    Fresh failed { srv with deferredMessages := rest } deferred.appId := by
  have hhead : deferred.appId ∈ srv.deferredApps := by
    rw [deferredApps, hdeferred]
    exact List.mem_cons_self
  refine ⟨?_, ?_, fun s ha hlive => h.waits s _ ha hlive hhead⟩
  · by_contra hlisted
    obtain ⟨p, hp⟩ := Option.ne_none_iff_exists'.mp hlisted
    exact h.listed _ p hp hhead
  · have hnodup := h.waiting
    rw [deferredApps, hdeferred, List.map_cons] at hnodup
    exact (List.nodup_cons.mp hnodup).1

/-- Taking the head of the deferred requests keeps the invariant. -/
theorem takeHead (h : Single failed srv) {deferred : Message κ} {rest : List (Message κ)}
    (hdeferred : srv.deferredMessages = deferred :: rest) :
    Single failed { srv with deferredMessages := rest } := by
  refine h.mono ?_ (fun _ _ ha hl => ⟨ha, hl⟩) (fun _ _ _ h => h) (fun _ _ h => h) (fun _ _ h => h)
    (fun _ _ h => h)
  rw [deferredApps, deferredApps, hdeferred]
  exact (List.sublist_cons_self deferred rest).map _

/-- Registering keeps the invariant: the socket had no pid. -/
theorem enrol (h : Single failed srv) {failed' : List SocketId} (hfailed : failed ⊆ failed')
    {s₀ : SocketId} (hs₀ : (srv.socket s₀).pid = none) (processId : Int) :
    Single failed' (srv.enrol s₀ processId) := by
  have hmodified := h.modifySocket hfailed s₀ (fun socket => { socket with pid := some processId })
    (fun a hphase ha => ⟨hphase, ha⟩) (fun p hp => by rw [hs₀] at hp; cases hp)
  exact hmodified.mono (List.Sublist.refl _) (fun _ _ ha hl => ⟨ha, hl⟩) (fun _ _ _ h => h)
    (fun _ _ h => h) (fun _ _ h => h) (fun _ _ h => h)

/-- A fresh request is placed, or waits. Fresh means that nothing is known of the application, so
that the new request is the only one for it wherever it goes. -/
theorem launched (h : Single failed srv) {message : Message κ} {now : Int}
    {result : IpcServer κ × List (Output κ)} (hfresh : Fresh failed srv message.appId)
    (hl : Launched srv message now result) : Single failed result.1 := by
  cases hl with
  | placed skipped s₀ clients counts hpool =>
    -- `s₀` is the one live runner of the application; the others are as before
    have hother {s a} (ha : ((srv.place message s₀ clients).socket s).appId = some a)
        (hlive : Live failed (srv.place message s₀ clients) s) :
        s = s₀ ∧ a = message.appId ∨
          (srv.socket s).appId = some a ∧ Live failed srv s ∧ a ≠ message.appId := by
      rw [socket_place] at ha
      rw [Live, socket_place] at hlive
      split at ha
      · rename_i hs
        exact .inl ⟨hs.symm, (Option.some.inj ha).symm⟩
      · rename_i hs
        rw [if_neg hs] at hlive
        exact .inr ⟨ha, hlive, fun hne => hfresh.notLive s (hne ▸ ha) hlive⟩
    refine ⟨h.waiting, fun s a ha hlive => ?_, fun s t a hs ht hls hlt => ?_,
      fun s a ha hlive => ?_, h.listed, fun a s p hs ha => ?_⟩
    · rcases hother ha hlive with ⟨-, rfl⟩ | ⟨ha', hlive', -⟩
      · exact hfresh.notWaiting
      · exact h.waits s a ha' hlive'
    · rcases hother hs hls with ⟨rfl, rfl⟩ | ⟨hs', hls', hne⟩ <;>
        rcases hother ht hlt with ⟨rfl, hat⟩ | ⟨ht', hlt', hne'⟩
      · rfl
      · exact absurd rfl hne'
      · exact absurd hat hne
      · exact h.unique s t a hs' ht' hls' hlt'
    · rw [IpcServer.place, QMap.getElem?_insert]
      rcases hother ha hlive with ⟨rfl, rfl⟩ | ⟨ha', hlive', hne⟩
      · rw [if_pos rfl]
      · rw [if_neg hne.symm]
        exact h.running s a ha' hlive'
    · have hpid : ((srv.place message s₀ clients).socket s).pid = (srv.socket s).pid := by
        rw [socket_place]
        split
        · subst s
          rfl
        · rfl
      rw [IpcServer.place, QMap.getElem?_insert] at hs
      rw [hpid]
      split at hs
      · rename_i hne
        have hlisted : srv.runningApps[a]? = some p := ha
        rw [← hne, hfresh.notListed] at hlisted
        cases hlisted
      · exact h.agree a s p hs ha
  -- the request waits, and no other one for the application does
  | deferred counts =>
    have hmem {a : String} (hne : a ≠ message.appId) (hnot : a ∉ srv.deferredApps) :
        a ∉ (srv.deferredMessages ++ [message]).map (·.appId) := by
      rw [List.map_append]
      intro ha
      rcases List.mem_append.mp ha with ha | ha
      · exact hnot ha
      · exact hne (List.mem_singleton.mp ha)
    refine ⟨?_, fun s a ha hlive => hmem ?_ (h.waits s a ha hlive), h.unique, h.running,
      fun a p ha => hmem ?_ (h.listed a p ha), h.agree⟩
    · rw [deferredApps, List.map_append]
      exact (List.perm_append_singleton message.appId _).nodup_iff.mpr
        (List.nodup_cons.mpr ⟨hfresh.notWaiting, h.waiting⟩)
    · rintro rfl
      exact hfresh.notLive s ha hlive
    · rintro rfl
      rw [hfresh.notListed] at ha
      cases ha

end Single

/-! ## One event

A request that is taken out of the queue is fresh by the invariant, so only a launch that comes
from outside needs an assumption. -/

/-- What an event adds to the failures comes behind those before. -/
theorem failed_step (h : ServerHistory κ) (e : ServerEvent κ) :
    failed ((ipcServer κ).step h e) = failed h ++ fails e := by
  rw [failed, Machine.step_inputs, List.flatMap_append, List.flatMap_singleton]
  rfl

/-- Every event the guards let through keeps the invariant, if a launch is fresh. The head of the
deferred requests is fresh by the invariant. -/
theorem single_step {h : ServerHistory κ} (hs : SocketsInv h.state) (hr : RunningInv h.state)
    (hsingle : Single (failed h) h.state) {e : ServerEvent κ} (he : h.state.RunnerProtocol e)
    (hreply : RepliesOnce h e)
    (hfresh : ∀ message now, e = .launch message now → Fresh (failed h) h.state message.appId) :
    Single (failed ((ipcServer κ).step h e)) ((ipcServer κ).step h e).state := by
  have ht := transition h.state e
  have hfailed : failed h ⊆ failed ((ipcServer κ).step h e) :=
    failed_step h e ▸ List.subset_append_left _ _
  have hold {s : SocketId} {phase : SocketPhase}
      (hl : phase = .connected ∧ s ∉ failed ((ipcServer κ).step h e)) :
      phase = .connected ∧ s ∉ failed h := hl.imp_right fun hnot hmem => hnot (hfailed hmem)
  show Single _ (h.state.handle e).1
  generalize h.state.handle e = result at ht ⊢
  cases ht with
  -- a new socket has no application
  | connected s₀ =>
    refine hsingle.modifySocket hfailed s₀ (fun _ => { phase := .connected, isOpen := true })
      (fun a _ ha => by cases ha) (fun p hp => ?_)
    rw [hs.absent s₀ he.life] at hp
    cases hp
  -- the runner that leaves is not live any more, so its entry may go
  | disconnected s₀ =>
    have hleft := hsingle.modifySocket hfailed s₀
      (fun socket => { socket with phase := .disconnected })
      (fun a hphase _ => by cases hphase) (fun p hp => hp)
    refine hleft.eraseRunning (fun hlive => ?_) (h.state.runnerClients.erase s₀)
    have hphase := hlive.1
    rw [socket_modifySocket, if_pos rfl] at hphase
    cases hphase
  | closed s₀ =>
    exact hsingle.modifySocket hfailed s₀ (fun socket => { socket with isOpen := false })
      (fun a hphase ha => ⟨hphase, ha⟩) (fun p hp => hp)
  | deleted s₀ =>
    exact hsingle.modifySocket hfailed s₀ (fun socket => { socket with phase := .deleted })
      (fun a hphase _ => by cases hphase) (fun p hp => hp)
  -- registering gives a pid to a socket without an application
  | registered s₀ message now hheader =>
    exact hsingle.enrol hfailed (he.once hheader) _
  -- the head of the queue is fresh, since it was the only one for its application
  | served s₀ message now deferred rest result hheader hpid hdeferred hl =>
    have henrolled := hsingle.enrol hfailed (he.once hheader) (registeredPid message)
    have hserved := (henrolled.takeHead hdeferred).launched (henrolled.fresh_head hdeferred) hl
    exact hserved
  | launchSucceeded s₀ message now hheader hcode =>
    have hlive : Live (failed h) h.state s₀ :=
      ⟨he.life, fun hmem => hreply hheader (replied_of_failed hmem)⟩
    obtain ⟨a₀, ha₀⟩ := Option.ne_none_iff_exists'.mp (he.replies hheader)
    obtain ⟨p₀, hp₀⟩ := Option.ne_none_iff_exists'.mp (hr.launched s₀ a₀ ha₀)
    have hpid : h.state.processId s₀ = p₀ := by simp [processId, hp₀]
    -- the reply is the first one, so the runner is live and the one that is listed
    simp only [hpid, ha₀, Option.getD_some]
    refine (hsingle.listed_of_live hlive ha₀ hp₀).mono (List.Sublist.refl _)
      (fun s a ha hl => ⟨ha, hold hl⟩) (fun _ _ _ h => h) (fun _ _ h => h) (fun _ _ h => h)
      (fun _ _ h => h)
  | launch message now result hl =>
    have hsame : failed ((ipcServer κ).step h (.launch message now)) = failed h :=
      (failed_step h _).trans (List.append_nil _)
    rw [hsame]
    exact hsingle.launched (hfresh message now rfl) hl
  -- a process that is gone is not listed, and this takes nothing away that is needed
  | removed p =>
    exact hsingle.mono (List.Sublist.refl _) (fun s a ha hl => ⟨ha, hold hl⟩) (fun _ _ _ h => h)
      (fun _ _ h => h) (fun _ _ ha => (runningApps_removeProcess.mp ha).1) (fun _ _ h => h)
  -- no runner becomes live, and nothing is listed
  | refused | ignored | launchFailed | relaunchReplied | relaunchSent | relaunchLost =>
    exact hsingle.mono (List.Sublist.refl _)
      (fun s a ha hl => ⟨ha, hold hl⟩) (fun _ _ _ h => h)
      (fun _ _ h => h) (fun _ _ h => h) (fun _ _ h => h)

/-! ## Runs of the server

The invariant, as a statement about the requests that were sent. -/

/-- **Single instance.** Two runners that are connected and have not failed have not been sent a
LAUNCH_REQUEST for the same application, and where both maps know an application they mean the same
process. -/
structure SingleInstance (h : ServerHistory κ) : Prop where
  /-- Two requests for one application that were sent to living runners are one. -/
  unique : ∀ x ∈ h.outputs.flatMap launches, ∀ y ∈ h.outputs.flatMap launches,
    x.2.appId = y.2.appId → Live (failed h) h.state x.1 → Live (failed h) h.state y.1 → x.1 = y.1
  /-- The two maps lead to one process. -/
  agree : ∀ (a : String) s p, h.state.runningSockets[a]? = some s →
    h.state.runningApps[a]? = some p → (h.state.socket s).pid = some p

/-- What the invariant says about the requests that were sent. -/
theorem singleInstance_of_single {h : ServerHistory κ} (hsent : Sent h)
    (hsingle : Single (failed h) h.state) : SingleInstance h where
  unique x hx y hy happ hlx hly :=
    hsingle.unique x.1 y.1 x.2.appId (hsent.appId x hx) (happ ▸ hsent.appId y hy) hlx hly
  agree := hsingle.agree

end IpcServer

namespace Daemon

variable {fromJson : String → QJsonObject}

/-! ## Runs of the daemon

The service asks for a launch only if the application is not listed as running. What this leaves
open is `LaunchesFresh`. -/

/-- What the guards keep true of the server of a daemon. -/
structure SingleInv (d : Daemon) : Prop extends ServerInv d where
  /-- What is known of the requests that were sent. -/
  sent : IpcServer.Sent d.server
  /-- What is known of the runners of each application. -/
  single : IpcServer.Single (IpcServer.failed d.server) d.server.state

/-- The runners reply once to the LAUNCH_REQUEST. -/
def RepliesOnce (fromJson : String → QJsonObject) (d : Daemon) (e : Event) : Prop :=
  ∀ e' ∈ d.serverEvent fromJson e, IpcServer.RepliesOnce d.server e'

/-- A launch of an application that is not listed as running is the first one: no request for it
waits, and no connected runner that has not failed has been launched for it. -/
def LaunchesFresh (d : Daemon) : Event → Prop
  | .launch msg _ => ∀ obj ∈ msg.payload,
    LunaService.runningPid d.server.state.runningApps (obj.value "appId").toString = 0 →
      (obj.value "appId").toString ∉ d.server.state.deferredApps ∧
        ∀ s ∈ d.server.state.launchedFor (obj.value "appId").toString,
          ¬ IpcServer.Live (IpcServer.failed d.server) d.server.state s
  | _ => True

instance (fromJson : String → QJsonObject) (d : Daemon) : DecidablePred (d.RepliesOnce fromJson) :=
  fun e => inferInstanceAs (Decidable (∀ e' ∈ d.serverEvent fromJson e,
    IpcServer.RepliesOnce d.server e'))

instance (d : Daemon) : DecidablePred d.LaunchesFresh
  | .launch msg _ => inferInstanceAs (Decidable (∀ obj ∈ msg.payload,
    LunaService.runningPid d.server.state.runningApps (obj.value "appId").toString = 0 →
      (obj.value "appId").toString ∉ d.server.state.deferredApps ∧
        ∀ s ∈ d.server.state.launchedFor (obj.value "appId").toString,
          ¬ IpcServer.Live (IpcServer.failed d.server) d.server.state s))
  | .socket _ | .close .. | .running _ | .timer .. | .processFinished .. | .processError _
  | .processDestroyed _ => .isTrue trivial

/-- An application with no pid in `m_runningApps` is not in it: no runner has the pid 0. -/
theorem notListed_of_runningPid {d : Daemon} (hinv : ServerInv d) {a : String}
    (ha : LunaService.runningPid d.server.state.runningApps a = 0) :
    d.server.state.runningApps[a]? = none := by
  cases hlisted : d.server.state.runningApps[a]? with
  | none => rfl
  | some p =>
    obtain ⟨s, hp, -⟩ := hinv.running.process p a (hinv.running.app a p hlisted)
    simp only [LunaService.runningPid, hlisted, Option.getD_some] at ha
    rw [ha] at hp
    exact absurd hp (hinv.sockets.nonzero s)

/-- An event of the daemon is one of the server. A launch that finds its application listed is a
relaunch, and any other launch is fresh. -/
theorem singleInv_step {h : DaemonHistory} (hinv : SingleInv h.state) {e : Event}
    (he : h.state.RunnerProtocol fromJson e) (hreply : h.state.RepliesOnce fromJson e)
    (hfresh : h.state.LaunchesFresh e) : SingleInv ((boosterd fromJson).step h e).state := by
  have hserver := server_step fromJson h e
  have hinv' := serverInv_step hinv.toServerInv he
  cases hevent : h.state.serverEvent fromJson e with
  | none =>
    rw [hevent] at hserver
    exact ⟨hinv', hserver ▸ hinv.sent, hserver ▸ hinv.single⟩
  | some e' =>
    rw [hevent] at hserver
    have hprotocol := he e' hevent
    have hsent := IpcServer.sent_step hinv.sent hinv.sockets hprotocol.life hprotocol.once
    have hsingle := IpcServer.single_step hinv.sockets hinv.running hinv.single hprotocol
      (hreply e' hevent) fun message time he' => by
        subst he'
        obtain ⟨msg, now, obj, rfl, hobj, hpid, happ⟩ := launch_of_serverEvent hevent
        obtain ⟨hwaiting, hlive⟩ := hfresh obj hobj (happ ▸ hpid)
        exact ⟨notListed_of_runningPid hinv.toServerInv hpid, happ ▸ hwaiting,
          fun s hs => hlive s (IpcServer.mem_launchedFor.mpr (happ ▸ hs))⟩
    exact ⟨hinv', hserver ▸ hsent, hserver ▸ hsingle⟩

/-- At the start there are no runners. -/
theorem singleInv_start (maxCached : Int) (runnerCommand : String) :
    SingleInv (start maxCached runnerCommand) :=
  ⟨serverInv_start maxCached runnerCommand, ⟨nofun, List.nodup_nil⟩, IpcServer.Single.init⟩

/-- **One runner for each application**, in every run in which an application is launched when no
runner for it is there or asked for.

By induction with `SingleInv`. Between a launch and its reply the running list says nothing of the
application, so the invariant speaks of the requests that wait and of those that were sent as well.
-/
theorem single_instance (fromJson : String → QJsonObject) (maxCached : Int)
    (runnerCommand : String) (es : List Event)
    (hes : (boosterd fromJson).Admits (fun h e => h.state.RunnerProtocol fromJson e ∧
      h.state.RepliesOnce fromJson e ∧ h.state.LaunchesFresh e)
      (.init (start maxCached runnerCommand)) es) :
    (boosterd fromJson).Always (fun h => IpcServer.SingleInstance h.state.server)
      (.init (start maxCached runnerCommand)) es :=
  (Machine.always_of_admits (I := fun h => SingleInv h.state)
    (fun _ _ hinv he => singleInv_step hinv he.1 he.2.1 he.2.2)
    (singleInv_start maxCached runnerCommand) hes).mono
    fun _ hinv => IpcServer.singleInstance_of_single hinv.sent hinv.single

/-- Two applications are launched. The first one fails and is launched again. -/
def launchTwo : List Event :=
  [.timer 1 100 0,
    .socket (.newConnection 1),
    .socket (.readSocket 1 (IpcClient.registerRequest 100) 10),
    .timer 2 200 1000,
    .launch ⟨0, some (({} : QJsonObject).insert "appId" (.string "com.webos.app.a"))⟩ 1010,
    .launch ⟨1, some (({} : QJsonObject).insert "appId" (.string "com.webos.app.b"))⟩ 1020,
    .socket (.newConnection 2),
    .socket (.readSocket 2 (IpcClient.registerRequest 200) 1030),
    .socket (.readSocket 1 (IpcClient.launchReply "" false) 1040),
    .launch ⟨2, some (({} : QJsonObject).insert "appId" (.string "com.webos.app.a"))⟩ 1050]

/-- The first one is launched again after its failure, so that there is one runner for it. -/
theorem single_instance_launchTwo :
    (boosterd fun _ => {}).Always (fun h => IpcServer.SingleInstance h.state.server)
      (.init (start 2 "qml-runner --interactive")) launchTwo :=
  single_instance _ _ _ launchTwo (by decide)

/-- An application is launched again before its runner has replied. -/
def launchTwice : List Event :=
  [.timer 1 100 0,
    .socket (.newConnection 1),
    .socket (.readSocket 1 (IpcClient.registerRequest 100) 10),
    .timer 2 200 1000,
    .socket (.newConnection 2),
    .socket (.readSocket 2 (IpcClient.registerRequest 200) 1010),
    .launch ⟨0, some (({} : QJsonObject).insert "appId" (.string "com.webos.app.a"))⟩ 1020,
    .launch ⟨1, some (({} : QJsonObject).insert "appId" (.string "com.webos.app.a"))⟩ 1030]

/-- It has two runners then, as it was not listed yet. -/
theorem not_single_instance_launchTwice :
    (boosterd fun _ => {}).Admits (fun h e => h.state.DaemonProtocol (fun _ => {}) e ∧
        h.state.RepliesOnce (fun _ => {}) e)
        (.init (start 2 "qml-runner --interactive")) launchTwice ∧
      ¬ (boosterd fun _ => {}).Always (fun h => IpcServer.SingleInstance h.state.server)
        (.init (start 2 "qml-runner --interactive")) launchTwice := by
  refine ⟨by decide, fun hall => ?_⟩
  have hlaunches : ((boosterd fun _ => {}).run (.init (start 2 "qml-runner --interactive"))
      launchTwice).state.server.outputs.flatMap IpcServer.launches =
        [(1, ⟨"com.webos.app.a", "", {}, some (.launched "com.webos.app.a"
            ⟨0, some (({} : QJsonObject).insert "appId" (.string "com.webos.app.a"))⟩)⟩),
          (2, ⟨"com.webos.app.a", "", {}, some (.launched "com.webos.app.a"
            ⟨1, some (({} : QJsonObject).insert "appId" (.string "com.webos.app.a"))⟩)⟩)] := rfl
  have hunique := hall.last.unique
  rw [hlaunches] at hunique
  have hsame := hunique _ List.mem_cons_self _ (List.mem_cons_of_mem _ List.mem_cons_self) rfl
    (by decide) (by decide)
  cases hsame

end Daemon

end Booster
