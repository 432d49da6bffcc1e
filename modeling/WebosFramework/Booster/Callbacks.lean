import WebosFramework.Booster.LaunchQueue
import WebosFramework.Booster.RunningApps

/-!
# The callbacks of the requests

A callback comes in with a launch or a relaunch. It waits with its request in `m_deferredMessages`,
or under the pid of the runner the request was sent to in `m_launchCallbacks`, and is called when
that runner replies. A server has one place for each pid, so a relaunch that is sent while another
request is unanswered puts its callback where the other one waits.

* `Exchange` lists what an event can do to the requests and the callbacks, and `exchange` says that
  every event does one of these.
* `callbacks_step` is the balance of one event: what waited and what came in is called, waits, or is
  `dropped`, and only a relaunch drops anything.
* `called_subperm_handed`: so in whole runs no callback is called more often than it was handed in.
-/

namespace Booster

open Qt EventLoop

/-- The reply a runner gives to a request. -/
def Request.reply {κ : Type} : Request κ → IpcMessageType
  | launch .. => .launchReply
  | relaunch .. => .relaunchReply

namespace IpcServer

variable {κ : Type}

/-! ## What comes in, what goes out and what waits

The projections that the balance is stated with. Each of them is a function of one event, one
output or one state, so that a run is added up from its steps. -/

/-- The callback an event hands to the server. -/
def handed : ServerEvent κ → List κ
  | .launch message _ => message.callback.toList
  | .relaunch _ _ callback _ => callback.toList
  | _ => []

/-- The callback an output is a call of. -/
def called : Output κ → List κ
  | .called callback _ => [callback]
  | _ => []

/-- The request an output is, with the socket it is written to. -/
def writes : Output κ → List (SocketId × Request κ)
  | .write s request => [(s, request)]
  | _ => []

/-- A message of one of the two types that a runner answers with. -/
abbrev IsReply (message : QJsonObject) : Prop :=
  header message = some .launchReply ∨ header message = some .relaunchReply

/-- The socket a reply is read from. -/
def answers : ServerEvent κ → List SocketId
  | .socket (.readSocket s message _) => if IsReply message then [s] else []
  | _ => []

/-- The callbacks that wait with their requests for a runner. -/
def deferredCallbacks (srv : IpcServer κ) : List κ := srv.deferredMessages.filterMap (·.callback)

/-- The callbacks that wait. -/
def pending (srv : IpcServer κ) : List κ :=
  srv.deferredCallbacks ++ QMap.someValues srv.launchCallbacks

/-- The callback an event lets go of without a call: one that waits at the runner a relaunch is sent
to, or the one of a relaunch that is not sent. -/
def dropped (srv : IpcServer κ) : ServerEvent κ → List κ
  | .relaunch appId _ callback _ =>
    match srv.runningSockets[appId]? with
    | some s =>
      if srv.usable s then (srv.launchCallback (srv.processId s)).toList else callback.toList
    | none => callback.toList
  | _ => []

/-- Only the reading of a reply is an answer. -/
theorem answers_eq {e : ServerEvent κ} {s : SocketId} (h : s ∈ answers e) :
    ∃ message now, e = .socket (.readSocket s message now) ∧ IsReply message := by
  unfold answers at h
  split at h
  · rename_i t message now
    split at h
    · rename_i hreply
      obtain rfl := List.mem_singleton.mp h
      exact ⟨message, now, rfl, hreply⟩
    · exact absurd h List.not_mem_nil
  · exact absurd h List.not_mem_nil

/-- Any other message is not. -/
theorem answers_of_not_reply {s : SocketId} {message : QJsonObject} {now : Int}
    (h : ¬ IsReply message) : answers (κ := κ) (.socket (.readSocket s message now)) = [] :=
  if_neg h

@[simp] theorem flatMap_writes_call (callback : Option κ) (pid : Int) :
    (call callback pid).flatMap writes = [] := by
  cases callback <;> rfl

@[simp] theorem flatMap_called_call (callback : Option κ) (pid : Int) :
    (call callback pid).flatMap called = callback.toList := by
  cases callback <;> rfl

/-! ## The places of the runners

`m_launchCallbacks` has one place for each pid. Two runners do not share a place as long as their
pids differ, and a runner that has only registered has nothing in its place. -/

/-- A place in `m_launchCallbacks` belongs to a socket that has been launched, and no two sockets
share one. -/
structure CallbacksInv (srv : IpcServer κ) : Prop extends SocketsInv srv where
  /-- A pid is noted at one socket. -/
  distinct : ∀ s t p, (srv.socket s).pid = some p → (srv.socket t).pid = some p → s = t
  /-- Only runners that have been launched have a place. -/
  places : ∀ p : Int, srv.launchCallbacks[p]? ≠ none →
    ∃ s a, (srv.socket s).pid = some p ∧ (srv.socket s).appId = some a

namespace CallbacksInv

variable {srv : IpcServer κ}

/-- A new server waits for no reply. -/
theorem init : CallbacksInv ({} : IpcServer κ) :=
  ⟨SocketsInv.init, by simp [socket], by simp⟩

/-- Nothing waits at a runner of the pool. -/
theorem free (h : CallbacksInv srv) {s : SocketId} {p : Int} (hs : s ∈ srv.runnerClients)
    (hp : (srv.socket s).pid = some p) : srv.launchCallbacks[p]? = none := by
  by_contra hplace
  obtain ⟨t, a, htp, hta⟩ := h.places p hplace
  rw [← h.distinct s t p hp htp, (h.pooled s hs).2.2] at hta
  cases hta

/-- Nothing waits under a pid that no socket has registered. -/
theorem free_of_not_registered (h : CallbacksInv srv) {p : Int} (hp : p ∉ srv.registeredPids) :
    srv.launchCallbacks[p]? = none := by
  by_contra hplace
  obtain ⟨s, _, hs, _⟩ := h.places p hplace
  exact hp (mem_registeredPids.mpr ⟨s, hs⟩)

/-- A runner that registers has no place yet, as its pid is new. So no two sockets have its pid
afterwards, and the places there are remain those of their runners. -/
theorem enrol (h : CallbacksInv srv) {s : SocketId} {p : Int}
    (hphase : (srv.socket s).phase = .connected) (hpid : (srv.socket s).pid = none) (hp : p ≠ 0)
    (hnew : p ∉ srv.registeredPids) : CallbacksInv (srv.enrol s p) := by
  have hfresh (t : SocketId) : (srv.socket t).pid ≠ some p := fun ht =>
    hnew (mem_registeredPids.mpr ⟨t, ht⟩)
  refine ⟨h.toSocketsInv.enrol hphase hpid hp, fun t u q ht hu => ?_, fun q hq => ?_⟩
  · rw [socket_enrol] at ht hu
    split at ht <;> split at hu
    · subst t u
      rfl
    · cases ht
      exact absurd hu (hfresh u)
    · cases hu
      exact absurd ht (hfresh t)
    · exact h.distinct t u q ht hu
  · obtain ⟨t, a, htq, hta⟩ := h.places q hq
    refine ⟨t, a, ?_, appId_enrol srv s t p ▸ hta⟩
    rw [socket_enrol, if_neg]
    · exact htq
    · rintro rfl
      rw [hpid] at htq
      cases htq

end CallbacksInv

/-! ## What an event does to the callbacks

`Exchange` lists the outcomes of an event as far as requests and callbacks go, and `exchange`
shows that there are no others. The balance of one event follows from it, and by induction over a
run no callback is called more often than it was handed in. -/

/-- A request to a runner: nothing waits at a runner of the pool, and what waits at a runner that is
relaunched is dropped. -/
structure SentTo (srv : IpcServer κ) (e : ServerEvent κ) (srv' : IpcServer κ) (s : SocketId)
    (p : Int) : Prop where
  /-- The runner is connected. -/
  connected : (srv'.socket s).phase = .connected
  /-- It is registered for the process whose place is taken. -/
  pid : (srv'.socket s).pid = some p
  /-- It is launched now. -/
  appId : (srv'.socket s).appId ≠ none
  /-- It was not before, unless the request is a relaunch. -/
  origin : (srv.socket s).appId = none ∨ ∃ appId params callback now,
    e = .relaunch appId params callback now ∧ srv.runningSockets[appId]? = some s ∧
      srv.usable s = true
  /-- What waited in the place is lost. -/
  dropped : dropped srv e = (srv.launchCallback p).toList

/-- The outcomes of an event, as far as requests and callbacks go. -/
inductive Exchange (srv : IpcServer κ) (e : ServerEvent κ)
    (result : IpcServer κ × List (Output κ)) : Prop where
  /-- Nothing is sent and nothing is called. What was handed in waits, or is dropped. -/
  | quiet
      (hanswers : answers e = [])
      (hwrites : result.2.flatMap writes = [])
      (hcalled : result.2.flatMap called = [])
      (hplaces : result.1.launchCallbacks = srv.launchCallbacks)
      (hdeferred : (srv.deferredCallbacks ++ handed e).Perm
        (result.1.deferredCallbacks ++ dropped srv e))
  /-- A request is written to one runner, and its callback takes the place of the runner. -/
  | sent (s : SocketId) (request : Request κ) (p : Int)
      (hanswers : answers e = [])
      (hwrites : result.2.flatMap writes = [(s, request)])
      (hcalled : result.2.flatMap called = [])
      (hplaces : result.1.launchCallbacks = srv.launchCallbacks.insert p request.callback)
      (hdeferred : (srv.deferredCallbacks ++ handed e).Perm
        (result.1.deferredCallbacks ++ request.callback.toList))
      (hsent : SentTo srv e result.1 s p)
  /-- The place of the runner is emptied, and what was in it is called. -/
  | answered (s : SocketId)
      (hanswers : answers e = [s])
      (hwrites : result.2.flatMap writes = [])
      (hcalled : result.2.flatMap called = (srv.launchCallback (srv.processId s)).toList)
      (hplaces : result.1.launchCallbacks = srv.launchCallbacks.erase (srv.processId s))
      (hdeferred : result.1.deferredCallbacks = srv.deferredCallbacks)

/-- What a `launch` does to the callbacks. Either it goes to a runner of the pool, whose place is
free, and its callback waits there; or it joins the queue, with its callback. -/
theorem callbacks_of_launched {srv : IpcServer κ} (h : CallbacksInv srv) {message : Message κ}
    {now : Int} {result : IpcServer κ × List (Output κ)} (hl : Launched srv message now result) :
    (∃ s p, s ∈ srv.runnerClients ∧ srv.launchCallbacks[p]? = none ∧
        (result.1.socket s).phase = .connected ∧ (result.1.socket s).pid = some p ∧
        (result.1.socket s).appId ≠ none ∧
        result.2.flatMap writes = [(s, .launch message now)] ∧ result.2.flatMap called = [] ∧
        result.1.launchCallbacks = srv.launchCallbacks.insert p message.callback ∧
        result.1.deferredMessages = srv.deferredMessages) ∨
      result.2.flatMap writes = [] ∧ result.2.flatMap called = [] ∧
        result.1.launchCallbacks = srv.launchCallbacks ∧
        result.1.deferredMessages = srv.deferredMessages ++ [message] := by
  cases hl with
  | placed skipped s clients counts hpool =>
    have hs : s ∈ srv.runnerClients := by simp [hpool]
    obtain ⟨hphase, hpid, -⟩ := h.pooled s hs
    obtain ⟨p, hp⟩ := Option.ne_none_iff_exists'.mp hpid
    -- a runner of the pool has a pid, and nothing waits for it
    refine .inl ⟨s, p, hs, h.free hs hp, ?_, ?_, ?_, ?_, ?_, ?_, rfl⟩
    · rw [socket_place, if_pos rfl]
      exact hphase
    · rw [socket_place, if_pos rfl]
      exact hp
    · rw [socket_place, if_pos rfl]
      exact Option.some_ne_none _
    · rw [List.flatMap_append, flatMap_counts fun _ => rfl]
      rfl
    · rw [List.flatMap_append, flatMap_counts fun _ => rfl]
      rfl
    · simp [place, processId, hp]
  -- the request goes to the end of the queue
  | deferred counts =>
    exact .inr ⟨flatMap_counts (fun _ => rfl) counts, flatMap_counts (fun _ => rfl) counts, rfl,
      rfl⟩

/-- **Every event does one of the listed things.** What the guards give is used where a place is
filled: the runner has a pid, and for a launch its place is free. -/
theorem exchange {srv : IpcServer κ} (h : CallbacksInv srv) {e : ServerEvent κ}
    (he : srv.RunnerProtocol e) : Exchange srv e (srv.handle e) := by
  have ht := transition srv e
  generalize srv.handle e = result at ht ⊢
  cases ht with
  | connected | closed | deleted | removed =>
    exact .quiet rfl rfl rfl rfl (.refl _)
  -- a runner that leaves loses its entries, but not the place of its callback
  | disconnected s =>
    refine .quiet rfl ?_ ?_ rfl (.refl _) <;>
    · unfold onDisconnected
      split <;> rfl
  | refused s message now hbad =>
    refine .quiet (answers_of_not_reply ?_) rfl rfl rfl (.refl _)
    rintro (hreply | hreply) <;> rcases hbad with hempty | ⟨hheader, -⟩
    · cases (header_of_isEmpty hempty).symm.trans hreply
    · cases hheader.symm.trans hreply
    · cases (header_of_isEmpty hempty).symm.trans hreply
    · cases hheader.symm.trans hreply
  | ignored s message now hregister hlaunch hrelaunch =>
    refine .quiet (answers_of_not_reply ?_) rfl rfl rfl (.refl _)
    exact fun hreply => hreply.elim hlaunch hrelaunch
  | registered s message now hheader =>
    refine .quiet (answers_of_not_reply ?_) rfl rfl rfl (.refl _)
    rintro (hreply | hreply) <;> cases hheader.symm.trans hreply
  -- a registration is followed by a launch of the request that has waited the longest
  | served s message now deferred rest launched hheader hpid hdeferred hl =>
    have hanswers : answers (κ := κ) (.socket (.readSocket s message now)) = [] := by
      apply answers_of_not_reply
      rintro (hreply | hreply) <;> cases hheader.symm.trans hreply
    have henrol := h.enrol he.life (he.once hheader) hpid (he.distinct hheader)
    have hwaited : srv.deferredCallbacks =
        deferred.callback.toList ++ rest.filterMap (·.callback) := by
      rw [deferredCallbacks, hdeferred, List.filterMap_cons]
      cases deferred.callback <;> rfl
    -- the request at the head goes to a runner, or behind the others
    have hbase : CallbacksInv
        { srv.enrol s (registeredPid message) with deferredMessages := rest } :=
      ⟨henrol.toSocketsInv.congr rfl rfl rfl, henrol.distinct, henrol.places⟩
    rcases callbacks_of_launched hbase hl with
      ⟨t, p, ht, hfree, hphase, hp, happ, hwrites, hcalled, hplaces, hrest⟩ |
      ⟨hwrites, hcalled, hplaces, hrest⟩
    · refine .sent t (.launch deferred now) p hanswers hwrites hcalled hplaces ?_
        ⟨hphase, hp, happ, .inl ?_, ?_⟩
      · rw [hwaited, deferredCallbacks, hrest]
        exact (List.append_nil _).symm ▸ List.perm_append_comm
      · rw [← appId_enrol srv s t (registeredPid message)]
        exact (henrol.pooled t ht).2.2
      · have hnone : srv.launchCallbacks[p]? = none := hfree
        simp [dropped, launchCallback, hnone]
    · -- the callbacks that wait are the same ones, in another order
      refine .quiet hanswers hwrites hcalled hplaces ?_
      rw [hwaited, deferredCallbacks, hrest, List.filterMap_append]
      simp only [handed, dropped, List.append_nil]
      refine List.perm_append_comm.trans (List.Perm.of_eq ?_)
      cases hcallback : deferred.callback <;> simp [hcallback]
  -- a reply empties the place of its runner, and nothing else does
  | launchSucceeded s message now hheader | launchFailed s message now hheader =>
    exact .answered s (if_pos (.inl hheader)) (by simp [writes]) (by simp [called]) rfl rfl
  | relaunchReplied s message now hheader =>
    exact .answered s (if_pos (.inr hheader)) (by simp) (by simp) rfl rfl
  | launch message now result hl =>
    rcases callbacks_of_launched h hl with
      ⟨s, p, hs, hfree, hphase, hp, happ, hwrites, hcalled, hplaces, hrest⟩ |
      ⟨hwrites, hcalled, hplaces, hrest⟩
    · refine .sent s (.launch message now) p rfl hwrites hcalled hplaces ?_
        ⟨hphase, hp, happ, .inl (h.pooled s hs).2.2, ?_⟩
      · rw [deferredCallbacks, deferredCallbacks, hrest]
        exact .refl _
      · simp [dropped, launchCallback, hfree]
    · refine .quiet rfl hwrites hcalled hplaces ?_
      rw [deferredCallbacks, deferredCallbacks, hrest, List.filterMap_append]
      cases hcallback : message.callback <;> simp [handed, dropped, hcallback]
  | relaunchSent appId params callback now s hsocket husable =>
    obtain ⟨hphase, happ⟩ := h.running appId s hsocket
    obtain ⟨p, hp⟩ := Option.ne_none_iff_exists'.mp (h.launched s appId happ)
    have hpid : srv.processId s = p := by simp [processId, hp]
    -- here the place need not be free, and what is in it is dropped
    refine .sent s (.relaunch params now callback) p rfl rfl rfl (by rw [hpid]; rfl) (.refl _)
      ⟨hphase, hp, Option.ne_none_iff_exists'.mpr ⟨appId, happ⟩,
        .inr ⟨appId, params, callback, now, rfl, hsocket, husable⟩, ?_⟩
    simp [dropped, hsocket, husable, hpid]
  -- without a runner to be sent to the request is dropped, with its callback
  | relaunchLost appId params callback now hlost =>
    refine .quiet rfl rfl rfl rfl ?_
    have hdropped : dropped srv (.relaunch appId params callback now) = callback.toList := by
      simp only [dropped]
      cases hsocket : srv.runningSockets[appId]? with
      | none => rfl
      | some s => simp [hlost s hsocket]
    rw [hdropped]
    exact .refl _

/-- A reply, and an event that writes nothing, drop no callback that was not handed in with it. -/
theorem dropped_of_answers (srv : IpcServer κ) {e : ServerEvent κ} {s : SocketId}
    (h : s ∈ answers e) : handed e = [] ∧ dropped srv e = [] := by
  obtain ⟨message, now, rfl, -⟩ := answers_eq h
  exact ⟨rfl, rfl⟩

/-- **The balance of one event.** What waited and what came in is called, waits, or is dropped. An
equation of multisets, as a request that is put back changes the order in which the callbacks wait.
-/
theorem callbacks_step {srv : IpcServer κ} (h : CallbacksInv srv) {e : ServerEvent κ}
    (he : srv.RunnerProtocol e) :
    (srv.pending ++ handed e).Perm ((srv.handle e).2.flatMap called ++
      (srv.handle e).1.pending ++ dropped srv e) := by
  have hex := exchange h he
  generalize srv.handle e = result at hex ⊢
  -- the deferred callbacks and the places balance separately
  have hswap (xs ys zs : List κ) : (xs ++ ys ++ zs).Perm (xs ++ zs ++ ys) := by
    rw [List.append_assoc, List.append_assoc]
    exact List.perm_append_comm.append_left xs
  cases hex with
  | quiet hanswers hwrites hcalled hplaces hdeferred =>
    rw [hcalled, pending, pending, hplaces, List.nil_append]
    exact (hswap _ _ _).trans ((hdeferred.append_right _).trans (hswap _ _ _))
  | sent s request p hanswers hwrites hcalled hplaces hdeferred hsent =>
    rw [hcalled, pending, pending, hplaces, hsent.dropped, List.nil_append]
    refine (hswap _ _ _).trans ((hdeferred.append_right _).trans ?_)
    rw [List.append_assoc, List.append_assoc]
    refine List.Perm.append_left _ (List.perm_append_comm.trans ?_)
    exact (QMap.someValues_insert srv.launchCallbacks p request.callback).trans
      List.perm_append_comm
  | answered s hanswers hwrites hcalled hplaces hdeferred =>
    obtain ⟨hhanded, hdropped⟩ := dropped_of_answers srv
      (hanswers ▸ List.mem_singleton_self s)
    rw [hcalled, pending, pending, hplaces, hdeferred, hhanded, hdropped, List.append_nil,
      List.append_nil]
    refine ((QMap.someValues_erase srv.launchCallbacks (srv.processId s)).append_left _).trans ?_
    rw [← List.append_assoc, ← List.append_assoc]
    exact List.perm_append_comm.append_right _

namespace CallbacksInv

variable {srv : IpcServer κ}

/-- Every event the guards let through keeps the places in order. Sockets and pids are kept by the
lemmas about them; what is left is that every place is that of a runner that has been launched. -/
theorem step (h : CallbacksInv srv) {e : ServerEvent κ} (he : srv.RunnerProtocol e) :
    CallbacksInv (srv.handle e).1 := by
  have hkept := h.kept he.life he.once
  refine ⟨h.toSocketsInv.step he.life he.once, distinct_step he.distinct h.distinct, ?_⟩
  have hex := exchange h he
  generalize srv.handle e = result at hex hkept ⊢
  have hold (p : Int) (hp : srv.launchCallbacks[p]? ≠ none) :
      ∃ s a, (result.1.socket s).pid = some p ∧ (result.1.socket s).appId = some a := by
    obtain ⟨s, a, hsp, hsa⟩ := h.places p hp
    exact ⟨s, a, (hkept s).1 p hsp, (hkept s).2 a hsa⟩
  cases hex with
  | quiet hanswers hwrites hcalled hplaces => exact hplaces ▸ hold
  | sent s request p hanswers hwrites hcalled hplaces hdeferred hsent =>
    intro q hq
    rw [hplaces, QMap.getElem?_insert] at hq
    split at hq
    · rename_i hpq
      obtain ⟨a, ha⟩ := Option.ne_none_iff_exists'.mp hsent.appId
      exact ⟨s, a, hpq ▸ hsent.pid, ha⟩
    · exact hold q hq
  | answered s hanswers hwrites hcalled hplaces =>
    intro q hq
    rw [hplaces, QMap.getElem?_erase] at hq
    split at hq
    · exact absurd rfl hq
    · exact hold q hq

end CallbacksInv

/-- **No callback is called more often than it was handed in**, in any run that obeys the
protocol. -/
theorem called_subperm_handed {es : List (ServerEvent κ)}
    (hes : (ipcServer κ).Admits (fun h e => h.state.RunnerProtocol e) (.init {}) es) :
    (((ipcServer κ).run (.init {}) es).outputs.flatMap called ++
        ((ipcServer κ).run (.init {}) es).state.pending).Subperm
      (((ipcServer κ).run (.init {}) es).inputs.flatMap handed) := by
  refine Machine.conserved (ipcServer κ) handed called pending (r := fun k l => l.Subperm k)
    List.Subperm.refl (fun hkl hlm => hlm.trans hkl) List.Subperm.append
    (I := fun h => CallbacksInv h.state) (fun h e hinv he => hinv.step he)
    (fun h e hinv he => ?_) (h := .init {}) CallbacksInv.init (List.Subperm.refl _) hes
  exact (List.sublist_append_left _ _).subperm.trans (callbacks_step hinv he).symm.subperm

end IpcServer

end Booster
