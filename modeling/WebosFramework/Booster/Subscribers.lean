import WebosFramework.Booster.Session
import WebosFramework.Lib.Publication

/-!
# Subscribers of the running list

`LunaService::running` adds a message to the subscribers of "/booster/running", and `update` replies
to all of them with the running list. Nothing calls `update` when `m_runningApps` changes as such:
it is called when a process has finished, and by the callback of a launch. A successful LAUNCH_REPLY
adds to the list, so the subscribers hear of it only if a callback waits for the reply.

* `WaitsInv` is the invariant that says so: a runner that has been sent a request and has sent no
  reply has a callback waiting.
* **`subscribers_informed`**: whoever has subscribed has the current list, after every event of
  every session.

The rule for the books of publications is `Informed.append` of `Lib.Publication`: what remains is
that each event of the daemon publishes as it should (`publishes_handle`).
-/

namespace Booster

open Qt EventLoop

namespace IpcServer

variable {κ : Type} {h : ServerHistory κ} {e : ServerEvent κ}

/-! ## The callback of a launch

A successful reply to a launch changes the list of running applications, and it is the callback
that publishes the list. So there has to be a callback: every request comes with one. -/

/-- The event hands a callback over with its request. -/
def HandsCallback : ServerEvent κ → Prop
  | .launch message _ => message.callback ≠ none
  | .relaunch _ _ callback _ => callback ≠ none
  | _ => True

/-- What is known of the callbacks of a server that is always handed one. -/
structure WaitsInv (h : ServerHistory κ) : Prop where
  /-- A runner that has not been launched was asked nothing. -/
  unlaunched : ∀ s, (h.state.socket s).appId = none → requested h s = []
  /-- Only the first request to a runner is a launch. -/
  relaunchLater : ∀ s, ∀ kind ∈ (requested h s).tail, kind = .relaunchReply
  /-- A request that waits has a callback. -/
  deferred : ∀ message ∈ h.state.deferredMessages, message.callback ≠ none
  /-- So has one that has been sent, until the runner replies. -/
  waits : ∀ s p, (h.state.socket s).pid = some p → requested h s ≠ [] → repliesFrom h s = 0 →
    h.state.launchCallback p ≠ none

namespace WaitsInv

/-- A new server has asked nothing. -/
theorem init : WaitsInv (.init ({} : IpcServer κ)) where
  unlaunched _ _ := rfl
  relaunchLater _ _ h := nomatch h
  deferred _ h := nomatch h
  waits _ _ _ h := absurd rfl h

/-- Every request that is written has come with a callback. -/
theorem callback_of_written (hw : WaitsInv h) (hands : HandsCallback e) {s : SocketId}
    (hwritten : Written h.state e s (h.state.handle e)) {request : Request κ}
    (hmem : request ∈ writtenTo s (h.state.handle e).2) : request.callback ≠ none := by
  cases hwritten with
  | nothing hwritten =>
    rw [hwritten] at hmem
    exact absurd hmem List.not_mem_nil
  | launch message now hwritten hfrom =>
    rw [hwritten] at hmem
    obtain rfl := List.mem_singleton.mp hmem
    rcases hfrom with hwaited | ⟨now', rfl⟩
    · exact hw.deferred message hwaited
    · exact hands
  | relaunch params now callback hwritten hfrom =>
    rw [hwritten] at hmem
    obtain rfl := List.mem_singleton.mp hmem
    obtain ⟨appId, rfl⟩ := hfrom
    exact hands

/-- A runner that has been asked something has its pid already. -/
theorem pid_of_requested (hw : WaitsInv h) (hinv : CallbacksInv h.state)
    (he : h.state.RunnerProtocol e) {s : SocketId} (hasked : requested h s ≠ []) {p : Int}
    (hp : ((h.state.handle e).1.socket s).pid = some p) : (h.state.socket s).pid = some p := by
  have happ : (h.state.socket s).appId ≠ none := fun hnone => hasked (hw.unlaunched s hnone)
  obtain ⟨a, ha⟩ := Option.ne_none_iff_exists'.mp happ
  obtain ⟨q, hq⟩ := Option.ne_none_iff_exists'.mp (hinv.launched s a ha)
  rw [hq, ← (hinv.kept he.life he.once s).1 q hq, hp]

/-- A callback waits, from the request to the first reply. It is put there when the request is
written, and it is the reply that takes it away. -/
theorem waits_step (hw : WaitsInv h) (hinv : CallbacksInv h.state)
    (he : h.state.RunnerProtocol e) (hands : HandsCallback e) (s : SocketId) (p : Int)
    (hp : ((h.state.handle e).1.socket s).pid = some p)
    (hasked : requested ((ipcServer κ).step h e) s ≠ [])
    (hnone : repliesFrom ((ipcServer κ).step h e) s = 0) :
    (h.state.handle e).1.launchCallback p ≠ none := by
  have hwritten := written hinv.toSocketsInv he.life he.once s
  rw [requested_step] at hasked
  rw [repliesFrom_step] at hnone
  have hbefore : repliesFrom h s = 0 := by omega
  have hkept (hnothing : writtenTo s (h.state.handle e).2 = []) :
      (h.state.socket s).pid = some p ∧ h.state.launchCallback p ≠ none := by
    rw [hnothing, List.map_nil, List.append_nil] at hasked
    have hpid := hw.pid_of_requested hinv he hasked hp
    exact ⟨hpid, hw.waits s p hpid hasked hbefore⟩
  have hex := exchange hinv he
  unfold launchCallback at hkept ⊢
  cases hex with
  -- the socket is not written to, and its place is as it was
  | quiet hanswers hwrites hcalled hplaces =>
    rw [hplaces]
    exact (hkept (writtenTo_eq_nil hwrites)).2
  | sent t request q hanswers hwrites hcalled hplaces hdeferred hsent =>
    have hto := writtenTo_of_writes (s := s) hwrites
    rw [hplaces, QMap.getElem?_insert]
    by_cases hts : t = s
    · -- this is the request that waits
      subst hts
      rw [if_pos rfl] at hto
      have hq : q = p := Option.some.inj (hsent.pid.symm.trans hp)
      rw [if_pos hq]
      exact hw.callback_of_written hands hwritten (hto ▸ List.mem_singleton_self request)
    · rw [if_neg hts] at hto
      have hpq : q ≠ p := fun hq => hts (distinct_step he.distinct hinv.distinct t s p
        (hq ▸ hsent.pid) hp)
      rw [if_neg hpq]
      exact (hkept hto).2
  -- the reply is that of another socket, whose place is another one
  | answered t hanswers hwrites hcalled hplaces =>
    obtain ⟨hpid, hwaits⟩ := hkept (writtenTo_eq_nil hwrites)
    have hts : t ≠ s := fun hts => by
      rw [hanswers, hts, List.count_singleton_self] at hnone
      omega
    have hne : h.state.processId t ≠ p := by
      unfold processId
      cases hq : (h.state.socket t).pid with
      | none =>
        rintro rfl
        exact hinv.nonzero s hpid
      | some q =>
        rintro rfl
        exact hts (hinv.distinct t s q hq hpid)
    rw [hplaces, QMap.getElem?_erase, if_neg hne]
    exact hwaits

/-- Each part is kept; the last one is `waits_step`. The others say what a socket has been asked for
so far, and that a request that waits has a callback. -/
theorem step (hw : WaitsInv h) (hinv : CallbacksInv h.state) (he : h.state.RunnerProtocol e)
    (hands : HandsCallback e) : WaitsInv ((ipcServer κ).step h e) where
  -- a socket without an application has not been asked for anything
  unlaunched s hs := by
    have hnone : ((h.state.handle e).1.socket s).appId = none := hs
    rw [requested_step]
    cases written hinv.toSocketsInv he.life he.once s with
    | nothing hwritten happ =>
      rw [hwritten, hw.unlaunched s (happ.symm.trans hnone)]
      rfl
    | launch message now hwritten hfrom hnew happ => cases happ.symm.trans hnone
    | relaunch params now callback hwritten hfrom hsome happ =>
      exact absurd (happ.symm.trans hnone) hsome
  -- a launch is the first request, and what follows is a relaunch
  relaunchLater s := by
    rw [requested_step]
    cases written hinv.toSocketsInv he.life he.once s with
    | nothing hwritten happ =>
      rw [hwritten, List.map_nil, List.append_nil]
      exact hw.relaunchLater s
    | launch message now hwritten hfrom hnew happ =>
      rw [hwritten, hw.unlaunched s hnew]
      exact nofun
    | relaunch params now callback hwritten hfrom hsome happ =>
      rw [hwritten]
      cases hasked : requested h s with
      | nil => exact nofun
      | cons first rest =>
        have hlater := hw.relaunchLater s
        rw [hasked] at hlater
        intro kind hkind
        rcases List.mem_append.mp hkind with hkind | hkind
        · exact hlater kind hkind
        · exact List.mem_singleton.mp hkind
  -- a request that waits has come with the event, or has waited before
  deferred message hmessage := by
    have hperm := requests_step h.state e
    rcases List.mem_append.mp (hperm.mem_iff.mpr (List.mem_append_right _ hmessage)) with
      hwaited | hcame
    · exact hw.deferred message hwaited
    · cases e with
      | launch message' now =>
        obtain rfl := List.mem_singleton.mp hcame
        exact hands
      | socket | relaunch | removeProcess => exact absurd hcame List.not_mem_nil
  waits := hw.waits_step hinv he hands

/-- The reply to a launch calls a callback. It is the first reply of the runner, and up to then its
callback waits. -/
theorem called_of_launchReply (hw : WaitsInv h) {s : SocketId} {message : QJsonObject}
    (hinv : CallbacksInv h.state) (happ : (h.state.socket s).appId ≠ none)
    (hheader : header message = some .launchReply)
    (horder : (requestsTo h s)[repliesFrom h s]?.map Request.reply = header message) :
    h.state.processId s ≠ 0 ∧ h.state.launchCallback (h.state.processId s) ≠ none := by
  have hnext : (requested h s)[repliesFrom h s]? = some .launchReply := by
    rw [requested, List.getElem?_map, horder, hheader]
  obtain ⟨a, ha⟩ := Option.ne_none_iff_exists'.mp happ
  obtain ⟨p, hp⟩ := Option.ne_none_iff_exists'.mp (hinv.launched s a ha)
  have hpid : h.state.processId s = p := by rw [processId, hp]; rfl
  have hfirst : repliesFrom h s = 0 := by
    by_contra hlater
    obtain ⟨n, hn⟩ := Nat.exists_eq_succ_of_ne_zero hlater
    rw [hn, Nat.succ_eq_add_one, ← List.getElem?_tail] at hnext
    cases hw.relaunchLater s _ (List.mem_of_getElem? hnext)
  have hasked : requested h s ≠ [] := fun hnil => by
    rw [hnil] at hnext
    cases hnext
  rw [hpid]
  refine ⟨?_, hw.waits s p hp hasked hfirst⟩
  rintro rfl
  exact hinv.nonzero s hp

end WaitsInv

end IpcServer

/-! ## The bus

What the service sends, sorted into what publishes the list and what makes somebody a subscriber. -/

namespace LunaService

/-- The message is added to the subscribers. -/
def Subscribes : BusOutput → Prop
  | .subscribeAdd .. => True
  | _ => False

/-- The running list that the subscribers are sent. -/
def posted : BusOutput → Option QJsonValue
  | .subscribesReply reply _ => some (reply.value "running")
  | _ => none

/-- The member "running" of the list. -/
def runningList (runningApps : QMap String Int) : QJsonValue :=
  (getRunningList runningApps).value "running"

@[simp] theorem posted_update (runningApps : QMap String Int) (firstResponce : Bool) :
    posted (update runningApps firstResponce) = some (runningList runningApps) := by
  cases firstResponce with
  | false => rfl
  | true => simp [posted, update, runningList, QJsonObject.value_insert]

@[simp] theorem posted_replyMsg (msg : LunaServiceMessage) (appId : String) (pid : Int) :
    posted (replyMsg msg appId pid) = none := rfl

@[simp] theorem posted_replyError (msg : LunaServiceMessage) (message : String) :
    posted (replyError msg message) = none := rfl

/-- A callback posts the list it is given, and nothing else; a successful one does post it. -/
theorem posted_answer (runningApps : QMap String Int) (pid : Int) (callback : LaunchCallback) :
    (answer runningApps pid callback).filterMap posted =
      if pid = 0 then [] else [runningList runningApps] := by
  cases callback with
  | launched appId msg =>
    by_cases hpid : pid = 0
    · simp [answer, hpid]
    · simp [answer, hpid, List.filterMap_cons]
  | relaunched appId msg =>
    by_cases hpid : pid = 0
    · simp [answer, hpid]
    · simp [answer, hpid, List.filterMap_cons]

/-- The answer to a launch makes nobody a subscriber. -/
theorem not_subscribes_answer (runningApps : QMap String Int) (pid : Int)
    (callback : LaunchCallback) : ∀ out ∈ answer runningApps pid callback, ¬ Subscribes out := by
  intro out hout
  unfold answer at hout
  split at hout <;> split at hout <;>
  · simp only [List.mem_cons, List.not_mem_nil, or_false] at hout
    rcases hout with rfl | rfl <;> exact id

end LunaService

namespace Daemon

open LunaService (Subscribes posted runningList)

open Publication

variable {fromJson : String → QJsonObject}

/-! ## What one event posts

Each event publishes the list if it has changed, and publishes nothing but the list as it is then.
-/

/-- The list that `running` would reply with. -/
def currentList (d : Daemon) : QJsonValue := runningList d.server.state.runningApps

/-- Where nothing is published and nobody subscribes, the list must stay as it is. -/
theorem publishes_quiet {outs : List BusOutput} {old current : QJsonValue}
    (hposted : outs.filterMap posted = []) (hjoins : ∀ out ∈ outs, ¬ Subscribes out)
    (hsame : current = old) : Publishes Subscribes posted old current outs where
  only value hvalue := by
    rw [hposted] at hvalue
    exact absurd hvalue List.not_mem_nil
  changed hne := absurd hsame hne
  joined before out after hsplit hout :=
    absurd hout (hjoins out (hsplit ▸ List.mem_append_right _ List.mem_cons_self))

/-- What the server's callbacks publish is the list as it is. -/
theorem posted_toBus {runningApps : QMap String Int} (outs : List (Output LaunchCallback)) :
    ∀ value ∈ (outs.flatMap (toBus runningApps)).filterMap posted,
      value = runningList runningApps := by
  intro value hvalue
  rw [List.filterMap_flatMap] at hvalue
  obtain ⟨out, -, hout⟩ := List.mem_flatMap.mp hvalue
  cases out with
  | called callback pid =>
    have hanswer : value ∈ (LunaService.answer runningApps pid callback).filterMap posted := hout
    rw [LunaService.posted_answer] at hanswer
    split at hanswer
    · exact absurd hanswer List.not_mem_nil
    · exact List.mem_singleton.mp hanswer
  | connectedRunnersCountChanged | runnerRegistered | runnerLaunched | write
  | disconnectFromServer => exact absurd hout List.not_mem_nil

/-- They make nobody a subscriber. -/
theorem not_subscribes_toBus {runningApps : QMap String Int}
    (outs : List (Output LaunchCallback)) :
    ∀ out ∈ outs.flatMap (toBus runningApps), ¬ Subscribes out := by
  intro out hout
  obtain ⟨out', -, hout'⟩ := List.mem_flatMap.mp hout
  cases out' with
  | called callback pid =>
    exact LunaService.not_subscribes_answer runningApps pid callback out hout'
  | connectedRunnersCountChanged | runnerRegistered | runnerLaunched | write
  | disconnectFromServer => exact absurd hout' List.not_mem_nil

/-- A slot of the server runs. It posts the list by the callbacks that it calls, so one of them has
to be called where the list changes. -/
theorem publishes_callServer (d : Daemon) (e : ServerEvent LaunchCallback) (now : Int)
    (hchanged : (d.server.state.handle e).1.runningApps ≠ d.server.state.runningApps →
      ∃ callback pid, .called callback pid ∈ (d.server.state.handle e).2 ∧ pid ≠ 0) :
    Publishes Subscribes posted d.currentList (d.callServer e now).1.currentList
      (d.callServer e now).2 where
  only := posted_toBus _
  changed hne := by
    have happs : (d.server.state.handle e).1.runningApps ≠ d.server.state.runningApps :=
      fun heq => hne (congrArg runningList heq)
    obtain ⟨callback, pid, hcalled, hpid⟩ := hchanged happs
    have hmem : runningList (d.server.state.handle e).1.runningApps ∈
        (d.callServer e now).2.filterMap posted := by
      show _ ∈ (((d.server.state.handle e).2.flatMap _).filterMap posted)
      rw [List.filterMap_flatMap]
      refine List.mem_flatMap.mpr ⟨_, hcalled, ?_⟩
      show _ ∈ (LunaService.answer (d.server.state.handle e).1.runningApps pid callback).filterMap
        posted
      rw [LunaService.posted_answer, if_neg hpid]
      exact List.mem_singleton_self _
    exact List.ne_nil_of_mem hmem
  joined before out after hsplit hout :=
    absurd hout (not_subscribes_toBus _ out (hsplit ▸ List.mem_append_right _ List.mem_cons_self))

/-- The service hands a callback to the server with every request. -/
theorem handsCallback_of_serverEvent {d : Daemon} {e : Event} {e' : ServerEvent LaunchCallback}
    (hevent : d.serverEvent fromJson e = some e') : IpcServer.HandsCallback e' := by
  rcases serverEvent_cases hevent with ⟨se, -, rfl⟩ | ⟨msg, now, -, hlaunch⟩ | ⟨_, _, _, -, rfl⟩
  · trivial
  · obtain ⟨obj, -, ⟨-, rfl⟩ | ⟨-, rfl⟩⟩ := LunaService.launch_ok hlaunch
    · exact Option.some_ne_none _
    · exact Option.some_ne_none _
  · trivial

/-- What holds between the events of a daemon. -/
structure InformedInv (h : DaemonHistory) : Prop where
  /-- What is known of the callbacks. -/
  server : IpcServer.CallbacksInv h.state.server.state
  /-- One waits for the reply of each runner. -/
  waits : IpcServer.WaitsInv h.state.server
  /-- The subscribers have the current list. -/
  informed : Informed Subscribes posted h.state.currentList h.outputs

/-- What a slot of the server adds to the list, it posts: the launch has a callback. An entry is
only added by the reply to a launch, and `called_of_launchReply` says that this one calls a
callback. -/
theorem called_of_changed {h : DaemonHistory} (hinv : InformedInv h) {e : Event}
    (he : RunnersBehave fromJson h.state e) {e' : ServerEvent LaunchCallback}
    (hevent : h.state.serverEvent fromJson e = some e') (hkeeps : ∀ p, e' ≠ .removeProcess p)
    (hchanged : (h.state.server.state.handle e').1.runningApps ≠
      h.state.server.state.runningApps) :
    ∃ callback pid, .called callback pid ∈ (h.state.server.state.handle e').2 ∧ pid ≠ 0 := by
  have hprotocol := he.runner e' hevent
  have horder := he.inOrder e' hevent
  have hmaps := IpcServer.RunningInv.maps_of_transition
    (IpcServer.transition h.state.server.state e')
  rcases hmaps with ⟨hsame, -⟩ | ⟨p, rfl, -⟩ | ⟨s, message, now, rfl, hheader, hcode, -⟩
  · exact absurd hsame hchanged
  · exact absurd rfl (hkeeps p)
  · obtain ⟨hpid, hwaits⟩ := hinv.waits.called_of_launchReply hinv.server
      (hprotocol.replies hheader) hheader (horder s rfl (.inl hheader))
    obtain ⟨callback, hcallback⟩ := Option.ne_none_iff_exists'.mp hwaits
    refine ⟨callback, h.state.server.state.processId s, ?_, hpid⟩
    have hempty : ¬ message.isEmpty = true := fun hempty => by
      rw [header_of_isEmpty hempty] at hheader
      cases hheader
    show _ ∈ (h.state.server.state.readSocket s message now).2
    rw [IpcServer.readSocket, if_neg hempty, hheader]
    simp [IpcServer.readLaunchReply, hcode, IpcServer.call, hcallback]

/-- A request to close publishes nothing. -/
theorem posted_close (runningApps : QMap String Int) (msg : LunaServiceMessage) :
    posted (LunaService.close runningApps msg).1 = none ∧
      ¬ Subscribes (LunaService.close runningApps msg).1 := by
  unfold LunaService.close
  split
  · exact ⟨rfl, id⟩
  · dsimp only
    split
    · exact ⟨rfl, id⟩
    · split
      · exact ⟨rfl, id⟩
      · exact ⟨rfl, id⟩

/-- An event that ends with an update posts the list, whatever came before. A subscriber that joins
within the event is therefore told as well. -/
theorem publishes_update {d : Daemon} (front : List BusOutput)
    (hfront : front.filterMap posted = []) (old : QJsonValue) (firstResponce : Bool) :
    Publishes Subscribes posted old d.currentList
      (front ++ [LunaService.update d.server.state.runningApps firstResponce]) := by
  have hposted : (front ++
      [LunaService.update d.server.state.runningApps firstResponce]).filterMap posted =
        [d.currentList] := by
    rw [List.filterMap_append, hfront, List.filterMap_cons, LunaService.posted_update]
    rfl
  refine ⟨fun value hvalue => ?_, fun _ => ?_, fun before out after hsplit hout => ?_⟩
  · rw [hposted] at hvalue
    exact List.mem_singleton.mp hvalue
  · rw [hposted]
    exact List.cons_ne_nil _ _
  · -- whoever joins does so in front of the update, which comes last
    have hlast := congrArg List.getLast? hsplit
    rw [List.getLast?_append, List.getLast?_append, List.getLast?_singleton, List.getLast?_cons]
      at hlast
    have hupdate : LunaService.update d.server.state.runningApps firstResponce =
        after.getLast?.getD out := Option.some.inj hlast
    cases hafter : after.getLast? with
    | none =>
      -- the update lets nobody join
      rw [hafter, Option.getD_none] at hupdate
      rw [← hupdate] at hout
      exact absurd hout id
    | some last =>
      rw [hafter, Option.getD_some] at hupdate
      have hmem : d.currentList ∈ after.filterMap posted :=
        List.mem_filterMap.mpr ⟨last, List.mem_of_getLast? hafter,
          hupdate ▸ LunaService.posted_update _ _⟩
      exact List.ne_nil_of_mem hmem

/-- A new subscriber is sent the list. -/
theorem publishes_running (d : Daemon) (msg : LunaServiceMessage) :
    Publishes Subscribes posted d.currentList d.currentList
      (LunaService.running d.server.state.runningApps msg) := by
  unfold LunaService.running
  extract_lets subscribe
  split
  · exact publishes_update [.subscribeAdd msg "/booster/running"] rfl _ true
  · refine publishes_quiet rfl (fun out hout => ?_) rfl
    rw [List.mem_singleton.mp hout]
    exact id

/-- When a process has finished the list is posted in any case. -/
theorem publishes_processFinished (d : Daemon) (pid exitCode : Int) (exitStatus : ExitStatus) :
    Publishes Subscribes posted d.currentList
      (d.handle fromJson (.processFinished pid exitCode exitStatus)).1.currentList
      (d.handle fromJson (.processFinished pid exitCode exitStatus)).2 :=
  publishes_update [.processFinished _] rfl _ false

/-- Every event posts what it changes. The end of a process changes the list without a callback, and
is followed by an update of its own. -/
theorem publishes_handle {h : DaemonHistory} (hinv : InformedInv h) {e : Event}
    (he : RunnersBehave fromJson h.state e) :
    Publishes Subscribes posted h.state.currentList (h.state.handle fromJson e).1.currentList
      (h.state.handle fromJson e).2 := by
  cases e with
  | socket se =>
    exact publishes_callServer h.state (.socket se) se.now
      (called_of_changed hinv he rfl nofun)
  | launch msg now =>
    cases hlaunch : LunaService.launch fromJson h.state.server.state.runningApps msg now with
    | error reply =>
      have hhandle : h.state.handle fromJson (.launch msg now) = (h.state, [reply]) := by
        simp only [handle, hlaunch]
      rw [hhandle, (LunaService.launch_error hlaunch).2]
      refine publishes_quiet rfl (fun out hout => ?_) rfl
      rw [List.mem_singleton.mp hout]
      exact id
    -- a slot of the server runs, and it is no `removeProcess`
    | ok e' =>
      have hhandle : h.state.handle fromJson (.launch msg now) = h.state.callServer e' now := by
        simp only [handle, hlaunch]
      have hevent : h.state.serverEvent fromJson (.launch msg now) = some e' := by
        simp only [serverEvent, hlaunch]
      rw [hhandle]
      refine publishes_callServer h.state e' now (called_of_changed hinv he hevent fun p heq => ?_)
      obtain ⟨obj, -, ⟨-, rfl⟩ | ⟨-, rfl⟩⟩ := LunaService.launch_ok hlaunch <;> cases heq
  -- a request to close neither posts the list nor changes it
  | close msg now =>
    obtain ⟨hposted, hjoins⟩ := posted_close h.state.server.state.runningApps msg
    have hout : (h.state.handle fromJson (.close msg now)).2 =
          [(LunaService.close h.state.server.state.runningApps msg).1] ∧
        (h.state.handle fromJson (.close msg now)).1.currentList = h.state.currentList := by
      simp only [handle]
      split <;> exact ⟨rfl, rfl⟩
    rw [hout.1, hout.2]
    refine publishes_quiet (by simp [hposted]) (fun out hmem => ?_) rfl
    rw [List.mem_singleton.mp hmem]
    exact hjoins
  | running msg => exact publishes_running h.state msg
  | processFinished pid exitCode exitStatus =>
    exact publishes_processFinished h.state pid exitCode exitStatus
  -- these events send nothing
  | timer timerId pid now =>
    exact publishes_quiet rfl (fun _ hout => absurd hout List.not_mem_nil) rfl
  | processError pid => exact publishes_quiet rfl (fun _ hout => absurd hout List.not_mem_nil) rfl
  | processDestroyed pid =>
    exact publishes_quiet rfl (fun _ hout => absurd hout List.not_mem_nil) rfl

/-- An event publishes what is new. -/
theorem informedInv_step {h : DaemonHistory} (hinv : InformedInv h) {e : Event}
    (he : RunnersBehave fromJson h.state e) : InformedInv ((boosterd fromJson).step h e) := by
  have hserver := server_step fromJson h e
  have hinformed := hinv.informed.append (publishes_handle hinv he)
  cases hevent : h.state.serverEvent fromJson e with
  | none =>
    rw [hevent] at hserver
    exact ⟨hserver ▸ hinv.server, hserver ▸ hinv.waits, hinformed⟩
  | some e' =>
    rw [hevent] at hserver
    have hprotocol := he.runner e' hevent
    have hcallbacks := hinv.server.step hprotocol
    have hwaits := hinv.waits.step hinv.server hprotocol (handsCallback_of_serverEvent hevent)
    exact ⟨hserver ▸ hcallbacks, hserver ▸ hwaits, hinformed⟩

end Daemon

/-! ## Sessions

The result about the daemon, for daemons whose runners run the runner program. -/

namespace Session

open LunaService (Subscribes posted)

variable {fromJson : String → QJsonObject}

/-- The bus hears what the daemon says. -/
theorem outputs_step {h : SessionHistory} (houtputs : h.outputs = h.state.daemon.outputs)
    (e : SessionEvent) : ((session fromJson).step h e).outputs =
      ((session fromJson).step h e).state.daemon.outputs := by
  rw [Machine.step_outputs, houtputs]
  cases e with
  | connects s pid => rfl
  | boosterReads s lost now =>
    show _ ++ (h.state.handle fromJson (.boosterReads s lost now)).2 =
      (h.state.handle fromJson (.boosterReads s lost now)).1.daemon.outputs
    simp only [handle]
    split
    · rfl
    · exact List.append_nil _
  | runnerReads s lost loading => exact List.append_nil _
  | runner s e => exact List.append_nil _
  | daemon e => rfl

/-- **Whoever has subscribed has the current list**: what the subscribers of the running list have
been sent last is what `running` would reply, at every boundary of a session.

By induction with `InformedInv` over the run of the daemon that `session_protocol` gives. The
library's `Publication.Informed` carries the list from one post to the next. -/
theorem subscribers_informed (fromJson : String → QJsonObject) (maxCached : Int)
    (runnerCommand : String) (es : List SessionEvent)
    (hes : (session fromJson).Admits (fun h e => h.state.SessionLife fromJson e)
      (.init (start maxCached runnerCommand)) es) :
    let h := (session fromJson).run (.init (start maxCached runnerCommand)) es
    Publication.Informed Subscribes posted h.state.daemon.state.currentList h.outputs := by
  have hinv := Machine.invariant (M := session fromJson) (I := fun h => SessionInv fromJson
      (.init (Daemon.start maxCached runnerCommand)) h.state ∧ h.outputs = h.state.daemon.outputs)
    (fun _ e ⟨hinv, houtputs⟩ he => ⟨hinv.step he, outputs_step houtputs e⟩)
    (h := .init (start maxCached runnerCommand))
    ⟨sessionInv_start maxCached runnerCommand, rfl⟩ hes
  obtain ⟨hinv, houtputs⟩ := hinv
  have hinformed : Daemon.InformedInv
      ((session fromJson).run (.init (start maxCached runnerCommand)) es).state.daemon := by
    rw [← hinv.run]
    exact Machine.invariant (M := boosterd fromJson) (I := Daemon.InformedInv)
      (fun _ _ hinv he => Daemon.informedInv_step hinv he)
      ⟨IpcServer.CallbacksInv.init, IpcServer.WaitsInv.init, Publication.Informed.nil _⟩
      hinv.behaved
  dsimp only
  rw [houtputs]
  exact hinformed.informed

/-- Somebody subscribes before an application is launched. -/
def subscribed : List SessionEvent :=
  .daemon (.running ⟨7, some (({} : QJsonObject).insert "subscribe" (.bool true))⟩) ::
    launchAndRelaunch

/-- The subscriber hears of the application when its runner has replied. -/
theorem subscribers_informed_subscribed :
    let h := (session fun _ => {}).run (.init (start 1 "qml-runner --interactive")) subscribed
    Publication.Informed Subscribes posted h.state.daemon.state.currentList h.outputs :=
  subscribers_informed _ _ _ subscribed (by decide)

end Session

end Booster
