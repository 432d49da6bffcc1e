import WebosFramework.Booster.IpcServer

/-!
# What one event can do to the server

The handlers of `IpcServer` seen from outside. `Launched` and `Transition` list the outcomes of a
launch and of an event, each with the guard under which the code takes it, the state it leaves and
what it emits. An invariant of the server is proved by cases on `Transition`, and never unfolds a
handler.

* `launched`: the loop of `launch` skips closed sockets and either places the request on the first
  open one or defers it;
* `transition`: every event has one of the listed outcomes;
* `socket_step`: what an event does to one socket.

The lists are complete, and their guards exclude each other as far as the later proofs need it.
What is left of a handler is an argument of the case: the sockets that were skipped, the counts
that were emitted.
-/

namespace Booster

open Qt EventLoop

namespace IpcServer

variable {κ : Type}

/-! ## Sockets after an update

The properties of all sockets after a method has changed those of one. -/

/-- The socket of an address after the entry of some address has been written. -/
theorem socket_insert (srv : IpcServer κ) (s t : SocketId) (x : LocalSocket) :
    (srv.sockets.insert s x)[t]?.getD {} = if s = t then x else srv.socket t := by
  rw [QMap.getElem?_insert]
  split <;> rfl

@[simp] theorem socket_modifySocket (srv : IpcServer κ) (s t : SocketId)
    (f : LocalSocket → LocalSocket) :
    (srv.modifySocket s f).socket t = if s = t then f (srv.socket s) else srv.socket t :=
  socket_insert srv s t _

@[simp] theorem socket_place (srv : IpcServer κ) (message : Message κ) (s t : SocketId)
    (clients : List SocketId) :
    (srv.place message s clients).socket t =
      if s = t then { srv.socket s with appId := some message.appId } else srv.socket t :=
  socket_insert srv s t _

@[simp] theorem socket_enrol (srv : IpcServer κ) (s t : SocketId) (processId : Int) :
    (srv.enrol s processId).socket t =
      if s = t then { srv.socket s with pid := some processId } else srv.socket t :=
  socket_insert srv s t _

/-- Registering changes the pid of a socket only. -/
theorem appId_enrol (srv : IpcServer κ) (s t : SocketId) (processId : Int) :
    ((srv.enrol s processId).socket t).appId = (srv.socket t).appId := by
  rw [socket_enrol]
  split
  · subst t
    rfl
  · rfl

@[simp] theorem usable_enrol (srv : IpcServer κ) (s t : SocketId) (processId : Int) :
    (srv.enrol s processId).usable t = srv.usable t := by
  simp only [usable, socket_enrol]
  split
  · subst t
    rfl
  · rfl

/-! ## The loop of `launch`

The loop takes runners out of the pool until it finds one that is open. `Launched` has its
outcomes, and the rest of the development uses them instead of the loop. -/

/-- The outcomes of `launch`. The counts are those emitted while sockets are taken from the pool. -/
inductive Launched (srv : IpcServer κ) (message : Message κ) (now : Int) :
    IpcServer κ × List (Output κ) → Prop where
  /-- The sockets in front of the first open one are skipped. -/
  | placed (skipped : List SocketId) (s : SocketId) (clients : List SocketId) (counts : List Nat)
      (hpool : srv.runnerClients = skipped ++ s :: clients)
      (hskipped : ∀ t ∈ skipped, srv.usable t = false)
      (husable : srv.usable s = true)
      (hcount : counts.getLast? = some clients.length) :
      Launched srv message now
        (srv.place message s clients,
          counts.map .connectedRunnersCountChanged ++ [.write s (.launch message now)])
  /-- No socket of the pool is open. -/
  | deferred (counts : List Nat)
      (hskipped : ∀ t ∈ srv.runnerClients, srv.usable t = false)
      (hcount : counts.getLast? = some 0) :
      Launched srv message now
        ({ srv with
            runnerClients := []
            deferredMessages := srv.deferredMessages ++ [message] },
          counts.map .connectedRunnersCountChanged)

/-- `launch` does what `Launched` says. The induction is on the pool the loop walks: the state is
only read until a socket is found open. -/
theorem launched (srv : IpcServer κ) (message : Message κ) (now : Int) :
    Launched srv message now (srv.launch message now) := by
  -- after some runners that are not open the loop stands at the rest of the pool
  have hwalk : ∀ skipped pool, srv.runnerClients = skipped ++ pool →
      (∀ t ∈ skipped, srv.usable t = false) →
      ∀ counts : List Nat, ∃ result, Launched srv message now result ∧
        (srv.launchFrom message now pool).1 = result.1 ∧
        counts.map .connectedRunnersCountChanged ++ (srv.launchFrom message now pool).2 =
          result.2 := by
    intro skipped pool
    induction pool generalizing skipped with
    | nil =>
      intro hpool hskipped counts
      refine ⟨_, .deferred (counts ++ [0]) ?_ (by simp), rfl, by simp [launchFrom]⟩
      simpa [hpool] using hskipped
    | cons s clients ih =>
      intro hpool hskipped counts
      by_cases husable : srv.usable s = true
      · -- the loop ends with the first runner that is open
        refine ⟨_, .placed skipped s clients (counts ++ [clients.length]) hpool hskipped husable
          (by simp), ?_, ?_⟩
        · simp [launchFrom, husable]
        · simp [launchFrom, husable]
      · -- the runner is dropped, and the loop goes on with the others
        rw [Bool.not_eq_true] at husable
        obtain ⟨result, hresult, hstate, houts⟩ := ih (skipped ++ [s]) (by simp [hpool])
          (by
            intro t ht
            rcases List.mem_append.mp ht with ht | ht
            · exact hskipped t ht
            · rw [List.mem_singleton.mp ht]
              exact husable)
          (counts ++ [clients.length])
        refine ⟨result, hresult, ?_, ?_⟩
        · simpa [launchFrom, husable] using hstate
        · simpa [launchFrom, husable] using houts
  obtain ⟨result, hresult, hstate, houts⟩ := hwalk [] srv.runnerClients rfl (by simp) []
  rw [show srv.launch message now = result from Prod.ext hstate houts]
  exact hresult

/-- The counts of a `launch` are nothing else. -/
theorem flatMap_counts {β : Type} {f : Output κ → List β}
    (hf : ∀ count, f (.connectedRunnersCountChanged count) = []) (counts : List Nat) :
    (counts.map .connectedRunnersCountChanged).flatMap f = [] := by
  rw [List.flatMap_map, List.flatMap_eq_nil_iff]
  exact fun count _ => hf count

/-- A `launch` touches the socket it writes to, and no other. -/
theorem socket_of_launched {srv : IpcServer κ} {message : Message κ} {now : Int}
    {result : IpcServer κ × List (Output κ)} (hl : Launched srv message now result)
    (t : SocketId) : result.1.socket t = srv.socket t ∨ t ∈ srv.runnerClients ∧
      result.1.socket t = { srv.socket t with appId := some message.appId } := by
  cases hl with
  | placed skipped s clients counts hpool =>
    rw [socket_place]
    by_cases hst : s = t
    · subst hst
      exact .inr ⟨by simp [hpool], if_pos rfl⟩
    · exact .inl (if_neg hst)
  | deferred => exact .inl rfl

/-! ## One event

Each constructor is one way through a handler. Those of `readSocket` are told apart by the header
of the message, then by what it carries, and then by what waits. -/

/-- The outcomes of an event. -/
inductive Transition (srv : IpcServer κ) :
    ServerEvent κ → IpcServer κ × List (Output κ) → Prop where
  | connected (s : SocketId) :
      Transition srv (.socket (.newConnection s)) (srv.setupConnection s, [])
  | disconnected (s : SocketId) :
      Transition srv (.socket (.disconnected s)) (srv.onDisconnected s)
  | closed (s : SocketId) :
      Transition srv (.socket (.closed s))
        (srv.modifySocket s fun socket => { socket with isOpen := false }, [])
  | deleted (s : SocketId) :
      Transition srv (.socket (.deleted s))
        (srv.modifySocket s fun socket => { socket with phase := .deleted }, [])
  | refused (s : SocketId) (message : QJsonObject) (now : Int)
      (hbad : message.isEmpty = true ∨
        header message = some .registerRequest ∧ registeredPid message = 0) :
      Transition srv (.socket (.readSocket s message now)) (srv, [.disconnectFromServer s])
  | ignored (s : SocketId) (message : QJsonObject) (now : Int)
      (hregister : header message ≠ some .registerRequest)
      (hlaunch : header message ≠ some .launchReply)
      (hrelaunch : header message ≠ some .relaunchReply) :
      Transition srv (.socket (.readSocket s message now)) (srv, [])
  | registered (s : SocketId) (message : QJsonObject) (now : Int)
      (hheader : header message = some .registerRequest)
      (hpid : registeredPid message ≠ 0)
      (hidle : srv.deferredMessages = []) :
      Transition srv (.socket (.readSocket s message now))
        (srv.enrol s (registeredPid message),
          [.runnerRegistered (registeredPid message),
            .connectedRunnersCountChanged (srv.runnerClients.length + 1)])
  | served (s : SocketId) (message : QJsonObject) (now : Int) (deferred : Message κ)
      (rest : List (Message κ)) (result : IpcServer κ × List (Output κ))
      (hheader : header message = some .registerRequest)
      (hpid : registeredPid message ≠ 0)
      (hdeferred : srv.deferredMessages = deferred :: rest)
      (hlaunched : Launched
        { srv.enrol s (registeredPid message) with deferredMessages := rest } deferred now result) :
      Transition srv (.socket (.readSocket s message now))
        (result.1,
          .runnerRegistered (registeredPid message) ::
            .connectedRunnersCountChanged (srv.runnerClients.length + 1) :: result.2)
  | launchSucceeded (s : SocketId) (message : QJsonObject) (now : Int)
      (hheader : header message = some .launchReply)
      (hcode : errorCode message = 0) :
      Transition srv (.socket (.readSocket s message now))
        ({ srv.dropCallback (srv.processId s) with
            runningApps := srv.runningApps.insert ((srv.socket s).appId.getD "") (srv.processId s)
            runningProcesses :=
              srv.runningProcesses.insert (srv.processId s) ((srv.socket s).appId.getD "") },
          .runnerLaunched (srv.processId s) ((srv.socket s).appId.getD "") ::
            call (srv.launchCallback (srv.processId s)) (srv.processId s))
  | launchFailed (s : SocketId) (message : QJsonObject) (now : Int)
      (hheader : header message = some .launchReply)
      (hcode : errorCode message ≠ 0) :
      Transition srv (.socket (.readSocket s message now))
        (srv.dropCallback (srv.processId s), call (srv.launchCallback (srv.processId s)) 0)
  | relaunchReplied (s : SocketId) (message : QJsonObject) (now : Int)
      (hheader : header message = some .relaunchReply) :
      Transition srv (.socket (.readSocket s message now))
        (srv.dropCallback (srv.processId s),
          call (srv.launchCallback (srv.processId s))
            (if errorCode message ≠ 0 then 0 else srv.processId s))
  | launch (message : Message κ) (now : Int) (result : IpcServer κ × List (Output κ))
      (hlaunched : Launched srv message now result) :
      Transition srv (.launch message now) result
  | relaunchSent (appId : String) (params : QJsonObject) (callback : Option κ) (now : Int)
      (s : SocketId)
      (hsocket : srv.runningSockets[appId]? = some s)
      (husable : srv.usable s = true) :
      Transition srv (.relaunch appId params callback now)
        ({ srv with launchCallbacks := srv.launchCallbacks.insert (srv.processId s) callback },
          [.write s (.relaunch params now callback)])
  | relaunchLost (appId : String) (params : QJsonObject) (callback : Option κ) (now : Int)
      (hlost : ∀ s, srv.runningSockets[appId]? = some s → srv.usable s = false) :
      Transition srv (.relaunch appId params callback now) (srv, [])
  | removed (processId : Int) :
      Transition srv (.removeProcess processId) (srv.removeProcess processId, [])

/-- The cases of a registration: a pid of 0 is refused; with a request that waits there is a
launch. -/
theorem transition_readRegisterRequest (srv : IpcServer κ) (s : SocketId) (message : QJsonObject)
    (now : Int) (hheader : header message = some .registerRequest) :
    Transition srv (.socket (.readSocket s message now))
      (srv.readRegisterRequest s message now) := by
  unfold readRegisterRequest
  by_cases hpid : registeredPid message = 0
  · rw [if_pos hpid]
    exact .refused s message now (.inr ⟨hheader, hpid⟩)
  · rw [if_neg hpid]
    have hlen : (srv.enrol s (registeredPid message)).runnerClients.length =
        srv.runnerClients.length + 1 := by simp [enrol]
    have henrol : (srv.enrol s (registeredPid message)).deferredMessages = srv.deferredMessages :=
      rfl
    simp only [hlen, henrol]
    cases hdeferred : srv.deferredMessages with
    | nil => exact .registered s message now hheader hpid hdeferred
    | cons deferred rest =>
      exact .served s message now deferred rest _ hheader hpid hdeferred
        (launched { srv.enrol s (registeredPid message) with deferredMessages := rest } deferred
          now)

/-- The cases of a message, by its header. An empty message counts as one without a header. -/
theorem transition_readSocket (srv : IpcServer κ) (s : SocketId) (message : QJsonObject)
    (now : Int) :
    Transition srv (.socket (.readSocket s message now)) (srv.readSocket s message now) := by
  unfold readSocket
  by_cases hempty : message.isEmpty = true
  · rw [if_pos hempty]
    exact .refused s message now (.inl hempty)
  · rw [if_neg hempty]
    split
    · exact transition_readRegisterRequest srv s message now (by assumption)
    · rename_i hheader
      unfold readLaunchReply
      by_cases hcode : errorCode message = 0
      · have h : srv.Transition _ _ := .launchSucceeded s message now hheader hcode
        simpa [hcode, dropCallback] using h
      · have h : srv.Transition _ _ := .launchFailed s message now hheader hcode
        simpa [hcode] using h
    · rename_i hheader
      unfold readRelaunchReply
      have h : srv.Transition _ _ := .relaunchReplied s message now hheader
      by_cases hcode : errorCode message = 0 <;> simpa [hcode] using h
    · rename_i hregister hlaunch hrelaunch
      exact .ignored s message now hregister hlaunch hrelaunch

/-- Every event has one of the outcomes listed in `Transition`. The lemmas about the server go by
these cases instead of unfolding the handlers. -/
theorem transition (srv : IpcServer κ) (e : ServerEvent κ) : Transition srv e (srv.handle e) := by
  cases e with
  | socket e =>
    cases e with
    | newConnection s => exact .connected s
    | readSocket s message now => exact transition_readSocket srv s message now
    | disconnected s => exact .disconnected s
    | closed s => exact .closed s
    | deleted s => exact .deleted s
  | launch message now => exact .launch message now _ (launched srv message now)
  | relaunch appId params callback now =>
    simp only [handle, relaunch]
    split
    · rename_i s hsocket
      split
      · exact .relaunchSent appId params callback now s hsocket (by assumption)
      · refine .relaunchLost appId params callback now fun t ht => ?_
        rw [hsocket] at ht
        cases ht
        simpa using ‹¬srv.usable s = true›
    · rename_i hnone
      exact .relaunchLost appId params callback now fun t ht => by rw [hnone] at ht; cases ht
  | removeProcess processId => exact .removed processId

/-! ## One socket

An invariant about the sockets needs less than a `Transition`: which properties of the socket an
event may change. There is one constructor for each way in which they change. -/

/-- What an event can do to the socket `t`, which it leaves as `x`. -/
inductive SocketChange (srv : IpcServer κ) (e : ServerEvent κ) (t : SocketId) (x : LocalSocket) :
    Prop where
  /-- Most events are about another socket. -/
  | unchanged (hx : x = srv.socket t)
  | opened (he : e = .socket (.newConnection t))
      (hx : x = { phase := .connected, isOpen := true })
  /-- The socket is not open any more, or goes on to its next phase. It keeps its properties. -/
  | closing (hpid : x.pid = (srv.socket t).pid) (happ : x.appId = (srv.socket t).appId)
      (hphase : x.phase = (srv.socket t).phase ∨
        e = .socket (.disconnected t) ∨ e = .socket (.deleted t))
  | registered (message : QJsonObject) (now : Int)
      (he : e = .socket (.readSocket t message now))
      (hheader : header message = some .registerRequest)
      (hpid : x.pid = some (registeredPid message)) (hphase : x.phase = (srv.socket t).phase)
  /-- A launch goes to runners of the pool only. -/
  | launched (hpool : t ∈ srv.runnerClients) (hpid : x.pid = (srv.socket t).pid)
      (hphase : x.phase = (srv.socket t).phase)

/-- **What an event does to a socket**, whichever socket it is about. This is the frame of an event
for the sockets: what is not listed here does not change. -/
theorem socket_step (srv : IpcServer κ) (e : ServerEvent κ) (t : SocketId) :
    SocketChange srv e t ((srv.handle e).1.socket t) := by
  have ht := transition srv e
  generalize srv.handle e = result at ht ⊢
  cases ht with
  -- the four events of the socket itself change its phase
  | connected s =>
    rw [setupConnection, socket_modifySocket]
    split
    · subst t
      exact .opened rfl rfl
    · exact .unchanged rfl
  | disconnected s =>
    simp only [onDisconnected, socket_modifySocket]
    split
    · subst t
      exact .closing rfl rfl (.inr (.inl rfl))
    · exact .unchanged rfl
  | closed s =>
    rw [socket_modifySocket]
    split
    · subst t
      exact .closing rfl rfl (.inl rfl)
    · exact .unchanged rfl
  | deleted s =>
    rw [socket_modifySocket]
    split
    · subst t
      exact .closing rfl rfl (.inr (.inr rfl))
    · exact .unchanged rfl
  -- a registration sets the pid and leaves the application alone
  | registered s message now hheader =>
    rw [socket_enrol]
    split
    · subst t
      exact .registered message now rfl hheader rfl rfl
    · exact .unchanged rfl
  | served s message now deferred rest launched hheader hpid hdeferred hl =>
    -- the registration comes first, and then the launch of the deferred request
    have hsocket : ({ srv.enrol s (registeredPid message) with deferredMessages := rest } :
        IpcServer κ).socket t = (srv.enrol s (registeredPid message)).socket t := rfl
    by_cases hst : s = t
    · -- the registering socket may be the one that is launched
      subst hst
      rw [socket_enrol, if_pos rfl] at hsocket
      rcases socket_of_launched hl s with hx | ⟨-, hx⟩ <;>
      · rw [hsocket] at hx
        have hpid := congrArg LocalSocket.pid hx
        have hphase := congrArg LocalSocket.phase hx
        exact .registered message now rfl hheader hpid hphase
    · rw [socket_enrol, if_neg hst] at hsocket
      rcases socket_of_launched hl t with hx | ⟨hpool, hx⟩ <;> rw [hsocket] at hx
      · exact .unchanged hx
      · have hpid := congrArg LocalSocket.pid hx
        have hphase := congrArg LocalSocket.phase hx
        refine .launched ?_ hpid hphase
        rcases List.mem_append.mp hpool with hpool | hpool
        · exact hpool
        · exact absurd (List.mem_singleton.mp hpool).symm hst
  -- a launch names its application at the runner that it takes
  | launch message now result hl =>
    rcases socket_of_launched hl t with hx | ⟨hpool, hx⟩
    · exact .unchanged hx
    · have hpid := congrArg LocalSocket.pid hx
      have hphase := congrArg LocalSocket.phase hx
      exact .launched hpool hpid hphase
  -- replies and relaunches set no property
  | refused | ignored | launchSucceeded | launchFailed | relaunchReplied | relaunchSent
  | relaunchLost | removed => exact .unchanged rfl

/-- What is in the pool after a `launch` was there before. -/
theorem runnerClients_of_launched {srv : IpcServer κ} {message : Message κ} {now : Int}
    {result : IpcServer κ × List (Output κ)} (hl : Launched srv message now result) :
    result.1.runnerClients ⊆ srv.runnerClients := by
  cases hl with
  | placed skipped s clients counts hpool =>
    rw [hpool]
    exact fun t ht => List.mem_append_right _ (List.mem_cons_of_mem s ht)
  | deferred => exact List.nil_subset _

/-- What is in the pool was there before, or has registered. So whoever is in the pool has a pid,
which is what `launch` relies on. -/
theorem runnerClients_step {srv : IpcServer κ} {e : ServerEvent κ} {t : SocketId}
    (hpool : t ∈ (srv.handle e).1.runnerClients) :
    t ∈ srv.runnerClients ∨ ((srv.handle e).1.socket t).pid ≠ none := by
  have ht := transition srv e
  generalize srv.handle e = result at ht hpool ⊢
  have henrolled (s : SocketId) (p : Int) (hpool : t ∈ (srv.enrol s p).runnerClients) :
      t ∈ srv.runnerClients ∨ ((srv.enrol s p).socket t).pid ≠ none := by
    rcases List.mem_append.mp hpool with hpool | hpool
    · exact .inl hpool
    · rw [socket_enrol, if_pos (List.mem_singleton.mp hpool).symm]
      exact .inr (Option.some_ne_none p)
  cases ht with
  | disconnected s => exact .inl (List.mem_of_mem_erase hpool)
  | registered s => exact henrolled s _ hpool
  | served s message now deferred rest launched hheader hpid hdeferred hl =>
    refine (henrolled s (registeredPid message) (runnerClients_of_launched hl hpool)).imp_right
      fun hp => ?_
    rcases socket_of_launched hl t with hx | ⟨-, hx⟩ <;>
    · have hpid := congrArg LocalSocket.pid hx
      exact fun hnone => hp (hpid.symm.trans hnone)
  | launch message now result hl => exact .inl (runnerClients_of_launched hl hpool)
  | connected | closed | deleted | refused | ignored | launchSucceeded | launchFailed
  | relaunchReplied | relaunchSent | relaunchLost | removed => exact .inl hpool

end IpcServer

end Booster
