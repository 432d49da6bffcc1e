import WebosFramework.Booster.Session

/-!
# What is listed has been loaded

`m_runningApps` is the booster's idea of which applications run. It is filled from replies, which
name neither the application nor its process: the server adds what it knows about the socket.

* `loadedApp` is what happens in the runner: a launch request for an application is carried out.
* `Faithful` is the invariant of a connection: a launch request on its way is for the application
  that the socket has been launched for, and a reply on its way that reports success comes from a
  runner that has loaded it.
* **`listed_loaded`**: an application is listed with the pid of a runner that has loaded it.
-/

namespace Runner

open Qt EventLoop

/-- The application that an event makes a runner load. -/
def InteractiveRunner.loadedApp (r : InteractiveRunner) : RunnerEvent → Option String
  | .message message loading =>
    if r.phase = .running ∧ Booster.header message = some .launchRequest ∧
        (r.loader.loadApplication (message.value "appId").toString
          (message.value "params").toObject loading).any (·.1) then
      some (message.value "appId").toString
    else none
  | _ => none

/-- The applications that a runner with this pid has loaded. -/
def loadedApps (pid : Int) (h : RunnerHistory) : List String :=
  interactiveRunner.observe InteractiveRunner.loadedApp (pooled pid) h.inputs

/-- A reply to a launch that reports success comes from a runner that loads the application. All
other replies have another header, or report an error. -/
theorem InteractiveRunner.loadedApp_of_reply {r : InteractiveRunner} {message reply : QJsonObject}
    {loading : Loading} (hreply : reply ∈ (r.handle (.message message loading)).2)
    (hheader : Booster.header reply = some .launchReply) (hcode : Booster.errorCode reply = 0) :
    Booster.header message = some .launchRequest ∧
      r.loadedApp (.message message loading) = some (message.value "appId").toString := by
  by_cases hrunning : r.phase = .running
  · obtain ⟨signal, hsignal⟩ := exists_onMessage message
    rw [handle_message_eq hrunning hsignal] at hreply
    unfold Booster.IpcClient.onMessage at hsignal
    split at hsignal
    · -- an empty message is answered by nobody
      obtain rfl := List.singleton_inj.mp hsignal
      exact absurd hreply List.not_mem_nil
    · split at hsignal
      · rename_i hlaunch
        obtain rfl := List.singleton_inj.mp hsignal
        refine ⟨hlaunch, ?_⟩
        have hsent : reply ∈ (r.onLaunchRequest (message.value "appId").toString
          (message.value "mainQml").toString (message.value "params").toObject loading).2 := hreply
        have hloads : (r.loader.loadApplication (message.value "appId").toString
            (message.value "params").toObject loading).any (·.1) = true := by
          -- only a launch that loads is reported as a success
          unfold onLaunchRequest at hsent
          split at hsent
          · exact absurd hsent List.not_mem_nil
          · rename_i loader hload
            rw [hload]
            rfl
          · -- the reply to a launch that has failed reports an error
            rw [mem_send hsent, Booster.IpcClient.errorCode_launchReply] at hcode
            cases hcode
        rw [loadedApp, if_pos ⟨hrunning, hlaunch, hloads⟩]
      · -- a relaunch is answered by a reply of the other kind
        obtain rfl := List.singleton_inj.mp hsignal
        have hsent : reply ∈ (r.onRelaunchRequest (message.value "params").toObject).2 := hreply
        have hkind : Booster.header reply = some .relaunchReply := by
          unfold onRelaunchRequest at hsent
          split at hsent
          · split at hsent
            · exact absurd hsent List.not_mem_nil
            · rw [mem_send hsent, Booster.IpcClient.header_relaunchReply]
          · rw [mem_send hsent, Booster.IpcClient.header_relaunchReply]
        rw [hkind] at hheader
        cases hheader
      · obtain rfl := List.singleton_inj.mp hsignal
        exact absurd hreply List.not_mem_nil
  · rw [handle_of_not_running hrunning] at hreply
    exact absurd hreply List.not_mem_nil

end Runner

namespace Booster

open Qt EventLoop

open Runner (RunnerEvent InteractiveRunner interactiveRunner loadedApps Loading)

/-! ## Connections

What the server believes of a socket, against what the runner behind it has done: the reply that
reports a success is sent by a runner that has loaded the application. -/

/-- What holds between a socket of the server and the connection behind it. -/
structure Faithful (x : LocalSocket) (k : Connection) : Prop where
  /-- The process has done what its events make a runner do. -/
  run : interactiveRunner.run (Runner.pooled k.pid) k.process.inputs = k.process
  /-- A request on its way is for the application that the server knows the socket by. -/
  requests : ∀ message ∈ k.toRunner, header message = some .launchRequest →
    x.appId = some (message.value "appId").toString
  /-- A reply that reports success comes of loading that application. -/
  replies : ∀ message ∈ k.toBooster, header message = some .launchReply → errorCode message = 0 →
    ∃ a ∈ loadedApps k.pid k.process, x.appId = some a

namespace Faithful

variable {x x' : LocalSocket} {k : Connection}

/-- On a new connection there is only the registration. -/
theorem connected (x : LocalSocket) (pid : Int) : Faithful x (.connected pid) where
  run := rfl
  requests _ h := nomatch h
  replies message hmem hheader := by
    rw [List.mem_singleton.mp hmem, IpcClient.header_registerRequest] at hheader
    cases hheader

/-- Messages that are lost need nothing. -/
theorem drop (h : Faithful x k) (lost : Nat) : Faithful x (k.dropToBooster lost) where
  run := h.run
  requests := h.requests
  replies message hmem := h.replies message (List.mem_of_mem_drop hmem)

/-- What has been loaded stays so. -/
theorem loaded_handle (hrun : interactiveRunner.run (Runner.pooled k.pid) k.process.inputs =
    k.process) (e : RunnerEvent) :
    loadedApps k.pid (interactiveRunner.step k.process e) =
      loadedApps k.pid k.process ++ (k.process.state.loadedApp e).toList :=
  Machine.observe_step _ hrun e

/-- The runner handles an event that asks for nothing. -/
theorem handle (h : Faithful x k) {e : RunnerEvent} (hasked : k.process.state.asked e = none) :
    Faithful x (k.handle e) where
  run := Machine.run_inputs_step h.run e
  requests := h.requests
  replies message hmem hheader hcode := by
    have hsame : (k.handle e).toBooster = k.toBooster := by
      show k.toBooster ++ (k.process.state.handle e).2 = k.toBooster
      rw [InteractiveRunner.outputs_of_not_asked hasked, List.append_nil]
    obtain ⟨a, ha, happ⟩ := h.replies message (hsame ▸ hmem) hheader hcode
    refine ⟨a, ?_, happ⟩
    show a ∈ loadedApps k.pid (interactiveRunner.step k.process e)
    rw [loaded_handle h.run]
    exact List.mem_append_left _ ha

/-- The runner reads a block. -/
theorem readRequest (h : Faithful x k) (lost : Nat) (loading : Loading) :
    Faithful x (k.readRequest lost loading) := by
  unfold Connection.readRequest
  cases hrunner : k.toRunner with
  | nil => exact h
  | cons request rest =>
    refine ⟨Machine.run_inputs_step h.run _,
      fun message hmem => h.requests message (List.mem_of_mem_drop hmem),
      fun message hmem hheader hcode => ?_⟩
    show ∃ a ∈ loadedApps k.pid (interactiveRunner.step k.process _), _
    rw [loaded_handle h.run]
    rcases List.mem_append.mp hmem with hmem | hmem
    · obtain ⟨a, ha, happ⟩ := h.replies message hmem hheader hcode
      exact ⟨a, List.mem_append_left _ ha, happ⟩
    · obtain ⟨hlaunch, hloaded⟩ := InteractiveRunner.loadedApp_of_reply hmem hheader hcode
      rw [hloaded]
      exact ⟨_, List.mem_append_right _ (List.mem_singleton_self _),
        h.requests request (hrunner ▸ List.mem_cons_self) hlaunch⟩

/-- The server writes to the runner. A LAUNCH_REQUEST names the application that is noted at the
socket with it, and a relaunch is another kind of message. -/
theorem deliver (h : Faithful x k) {κ : Type} {srv : IpcServer κ} {e : ServerEvent κ}
    {s : SocketId} {result : IpcServer κ × List (Output κ)} (hx : x.appId = (srv.socket s).appId)
    (hwritten : IpcServer.Written srv e s result) :
    Faithful (result.1.socket s)
      (k.deliver ((IpcServer.writtenTo s result.2).map Request.toJson)) := by
  have hkept (a : String) (ha : x.appId = some a) : (result.1.socket s).appId = some a := by
    cases hwritten with
    | nothing hwritten happ => exact happ.trans (hx.symm.trans ha)
    | launch message now hwritten hfrom hnone =>
      rw [hx, hnone] at ha
      cases ha
    | relaunch params now callback hwritten hfrom hsome happ => exact happ.trans (hx.symm.trans ha)
  -- what has been loaded so far is not touched by what is written
  refine ⟨h.run, fun message hmem hheader => ?_, fun message hmem hheader hcode => ?_⟩
  · rcases List.mem_append.mp hmem with hmem | hmem
    · exact hkept _ (h.requests message hmem hheader)
    -- a LAUNCH_REQUEST that is written names the application that the socket is launched for
    · cases hwritten with
      | nothing hwritten =>
        rw [hwritten] at hmem
        exact absurd hmem List.not_mem_nil
      | launch message' now hwritten hfrom hnone happ =>
        rw [hwritten] at hmem
        rw [List.mem_singleton.mp hmem, happ]
        simp [Request.toJson, QJsonObject.value_insert, QJsonValue.toString]
      | relaunch params now callback hwritten =>
        rw [hwritten] at hmem
        have hkind := Pipe.repliesTo_toJson (.relaunch params now callback : Request κ)
        rw [← List.mem_singleton.mp hmem, Runner.repliesTo, hheader] at hkind
        cases hkind
  · obtain ⟨a, ha, happ⟩ := h.replies message hmem hheader hcode
    exact ⟨a, ha, hkept a happ⟩

end Faithful

/-! ## Sessions

The list of running applications grows by such a reply only. The invariant is carried through the
steps of both sides. -/

namespace Session

variable {fromJson : String → QJsonObject} {c c' : Session} {d₀ : DaemonHistory}

/-- A runner with this pid has loaded the application. -/
def LoadedBy (c : Session) (a : String) (p : Int) : Prop :=
  ∃ (s : SocketId) (k : Connection), c.connections[s]? = some k ∧ k.pid = p ∧
    (c.daemon.state.server.state.socket s).appId = some a ∧ a ∈ loadedApps k.pid k.process

/-- What holds in a session. -/
structure ListedInv (c : Session) : Prop where
  /-- Every connection is faithful. -/
  faithful : ∀ (s : SocketId) k, c.connections[s]? = some k →
    Faithful (c.daemon.state.server.state.socket s) k
  /-- What is listed has been loaded. -/
  listed : ∀ (a : String) p, c.daemon.state.server.state.runningApps[a]? = some p → c.LoadedBy a p

/-- A runner's step loads, or leaves things as they are. The list is that of the daemon, which the
runner does not touch. -/
theorem ListedInv.update (h : ListedInv c) {s : SocketId} {f : Connection → Connection}
    (hpid : ∀ k, (f k).pid = k.pid)
    (hloaded : ∀ k x, Faithful x k →
      loadedApps k.pid k.process ⊆ loadedApps k.pid (f k).process)
    (hfaithful : ∀ k x, c.connections[s]? = some k → Faithful x k → Faithful x (f k)) :
    ListedInv (c.update s f) where
  faithful t k hk := by
    obtain ⟨k₀, hk₀, ⟨rfl, rfl⟩ | ⟨-, rfl⟩⟩ := connection_of_update hk
    · exact hfaithful k₀ _ hk₀ (h.faithful s k₀ hk₀)
    · exact h.faithful t k hk₀
  listed a p ha := by
    obtain ⟨t, k, hk, hp, happ, hmem⟩ := h.listed a p ha
    by_cases hst : s = t
    · subst hst
      refine ⟨s, f k, ?_, (hpid k).trans hp, happ, ?_⟩
      · rw [connections_update, if_pos rfl, hk]
        rfl
      · rw [hpid k]
        exact hloaded k _ (h.faithful s k hk) hmem
    · exact ⟨t, k, by rw [connections_update, if_neg hst, hk], hp, happ, hmem⟩

/-- What the server has launched a socket for, and what is written to it. -/
theorem faithful_callDaemon (hinv : SessionInv fromJson d₀ c) {e : Event}
    (hbehave : RunnersBehave fromJson c.daemon.state e) {s : SocketId} {k : Connection}
    (h : Faithful (c.daemon.state.server.state.socket s) k) :
    Faithful (((boosterd fromJson).step c.daemon e).state.server.state.socket s)
      (k.deliver ((IpcServer.writtenTo s (c.serverOutputs fromJson e)).map Request.toJson)) := by
  rcases server_callDaemon fromJson c e with
    ⟨-, houtputs, hserver⟩ | ⟨e', hevent, houtputs, hserver⟩
  · rw [hserver, houtputs]
    have hsame : k.deliver [] = k := by
      rw [Connection.deliver, List.append_nil]
    exact hsame.symm ▸ h
  · rw [hserver, houtputs]
    have he := hbehave.runner e' hevent
    exact h.deliver rfl (IpcServer.written hinv.server.toSocketsInv he.life he.once s)

/-- An application that is listed after an event was so before, or the reply to its launch is
read. -/
theorem listed_of_step {e : Event} {a : String} {p : Int}
    (hlisted : ((boosterd fromJson).step c.daemon e).state.server.state.runningApps[a]? = some p) :
    c.daemon.state.server.state.runningApps[a]? = some p ∨
      ∃ s message now, e = .socket (.readSocket s message now) ∧
        header message = some .launchReply ∧ errorCode message = 0 ∧
        (c.daemon.state.server.state.socket s).appId.getD "" = a ∧
        c.daemon.state.server.state.processId s = p := by
  rcases server_callDaemon fromJson c e with
    ⟨-, -, hserver⟩ | ⟨e', hevent, -, hserver⟩
  · rw [hserver] at hlisted
    exact .inl hlisted
  · rw [hserver] at hlisted
    have hafter : (c.daemon.state.server.state.handle e').1.runningApps[a]? = some p := hlisted
    rcases IpcServer.RunningInv.maps_of_transition
        (IpcServer.transition c.daemon.state.server.state e') with
      ⟨hsame, -⟩ | ⟨q, rfl, hstate⟩ | ⟨s, message, now, rfl, hheader, hcode, happs, -⟩
    · exact .inl (hsame ▸ hafter)
    · rw [hstate] at hafter
      exact .inl (IpcServer.runningApps_removeProcess.mp hafter).1
    · rw [happs, QMap.getElem?_insert] at hafter
      split at hafter
      · rename_i ha
        exact .inr ⟨s, message, now, Daemon.socket_of_serverEvent hevent, hheader, hcode, ha,
          Option.some.inj hafter⟩
      · exact .inl hafter

/-- The daemon handles an event. Connections that have been launched are still there, and what is
read has been on its way. -/
theorem ListedInv.callDaemon (h : ListedInv c) (hinv : SessionInv fromJson d₀ c) {e : Event}
    (hdaemon : c'.daemon = c.daemon) (hbehave : RunnersBehave fromJson c.daemon.state e)
    (hfaithful : ∀ (s : SocketId) k, c'.connections[s]? = some k →
      Faithful (c.daemon.state.server.state.socket s) k)
    (hthere : ∀ (s : SocketId) k, c.connections[s]? = some k →
      (c.daemon.state.server.state.socket s).appId ≠ none →
      ∃ k', c'.connections[s]? = some k' ∧ k'.pid = k.pid ∧ k'.process = k.process)
    (hread : ∀ s message now, e = .socket (.readSocket s message now) →
      ∃ k, c.connections[s]? = some k ∧ message ∈ k.toBooster) :
    ListedInv (c'.callDaemon fromJson e).1 := by
  have houtputs : c'.serverOutputs fromJson e = c.serverOutputs fromJson e := by
    unfold serverOutputs
    rw [hdaemon]
  have hafter : (c'.callDaemon fromJson e).1.daemon = (boosterd fromJson).step c.daemon e := by
    rw [← hdaemon]
    rfl
  refine ⟨fun s k hk => ?_, fun a p hlisted => ?_⟩
  · rw [connections_callDaemon, houtputs] at hk
    obtain ⟨k₀, hk₀, rfl⟩ := Option.map_eq_some_iff.mp hk
    rw [hafter]
    exact faithful_callDaemon hinv hbehave (hfaithful s k₀ hk₀)
  · rw [hafter] at hlisted
    have hbefore : c.LoadedBy a p := by
      -- the entry was there before, or the reply that adds it is on its way from the runner
      rcases listed_of_step hlisted with hlisted | ⟨s, message, now, rfl, hheader, hcode, ha, hp⟩
      · exact h.listed a p hlisted
      · obtain ⟨k, hk, hmem⟩ := hread s message now rfl
        obtain ⟨a', hloaded, happ⟩ := (h.faithful s k hk).replies message hmem hheader hcode
        obtain ⟨q, hq⟩ := Option.ne_none_iff_exists'.mp (hinv.server.launched s a' happ)
        rw [happ] at ha
        obtain rfl : a' = a := ha
        have hpid : q = p := by
          rw [← hp, IpcServer.processId, hq]
          rfl
        exact ⟨s, k, hk, ((hinv.pipes s k hk).registered q hq).1.symm.trans hpid, happ, hloaded⟩
    -- the connection of that runner is still there, and what it has loaded it has loaded for good
    obtain ⟨s, k, hk, hp, happ, hloaded⟩ := hbefore
    obtain ⟨k', hk', hpid, hprocess⟩ := hthere s k hk (happ ▸ Option.some_ne_none a)
    refine ⟨s, k'.deliver ((IpcServer.writtenTo s (c.serverOutputs fromJson e)).map
      Request.toJson), ?_, hpid.trans hp, ?_, ?_⟩
    · rw [connections_callDaemon, houtputs, hk']
      rfl
    · rw [hafter]
      rcases server_callDaemon fromJson c e with
        ⟨-, -, hserver⟩ | ⟨e', hevent, -, hserver⟩
      · rw [hserver]
        exact happ
      · rw [hserver]
        have he := hbehave.runner e' hevent
        exact (hinv.server.kept he.life he.once s).2 a happ
    · show a ∈ loadedApps k'.pid k'.process
      rw [hpid, hprocess]
      exact hloaded

/-- What a runner has loaded it has loaded for good. -/
theorem loadedApps_handle {x : LocalSocket} {k : Connection} (h : Faithful x k) (e : RunnerEvent) :
    loadedApps k.pid k.process ⊆ loadedApps k.pid (k.handle e).process := by
  show _ ⊆ loadedApps k.pid (interactiveRunner.step k.process e)
  rw [Faithful.loaded_handle h.run]
  exact List.subset_append_left _ _

/-- That is so for what it reads, too. -/
theorem loadedApps_readRequest {x : LocalSocket} {k : Connection} (h : Faithful x k) (lost : Nat)
    (loading : Loading) :
    loadedApps k.pid k.process ⊆ loadedApps k.pid (k.readRequest lost loading).process := by
  unfold Connection.readRequest
  split
  · exact List.Subset.refl _
  · exact loadedApps_handle h _

/-- **Every event of a session keeps the list right.** A runner that is started or reads something
is one connection; what the booster reads may list an application, and then the reply says that it
is loaded. -/
theorem ListedInv.step {h : SessionHistory} (hl : ListedInv h.state)
    (hinv : SessionInv fromJson d₀ h.state) {e : SessionEvent}
    (he : h.state.SessionLife fromJson e) : ListedInv ((session fromJson).step h e).state := by
  cases e with
  | connects s pid =>
    refine hl.callDaemon hinv rfl (behaves_newConnection he.1) (fun t k hk => ?_)
      (fun t k hk happ => ?_) nofun
    · rw [connections_connect] at hk
      split at hk
      · obtain rfl := Option.some.inj hk
        exact Faithful.connected _ pid
      · exact hl.faithful t k hk
    · -- a socket that has been launched has been handed out before
      refine ⟨k, ?_, rfl, rfl⟩
      rw [connections_connect, if_neg]
      · exact hk
      · rintro rfl
        obtain ⟨a, ha⟩ := Option.ne_none_iff_exists'.mp happ
        exact hinv.server.launched s a ha (hinv.server.absent s he.1)
  -- the reply that may list the application is at the front of the connection
  | boosterReads s lost now =>
    show ListedInv (h.state.handle fromJson (.boosterReads s lost now)).1
    rw [handle]
    cases hnext : h.state.nextMessage s with
    | none => exact hl
    | some message =>
      obtain ⟨k, hk, hhead⟩ := Option.bind_eq_some_iff.mp hnext
      obtain ⟨rest, hbooster⟩ := List.head?_eq_some_iff.mp hhead
      refine hl.callDaemon hinv rfl (hinv.behaves_read hk hbooster he now) (fun t k' hk' => ?_)
        (fun t k' hk' _ => ?_) (fun t message' now' heq => ?_)
      · obtain ⟨k₀, hk₀, ⟨rfl, rfl⟩ | ⟨-, rfl⟩⟩ := connection_of_update hk'
        · exact (hl.faithful s k₀ hk₀).drop lost
        · exact hl.faithful t k' hk₀
      · by_cases hst : s = t
        · subst hst
          refine ⟨k'.dropToBooster lost, ?_, rfl, rfl⟩
          rw [connections_update, if_pos rfl, hk']
          rfl
        · exact ⟨k', by rw [connections_update, if_neg hst, hk'], rfl, rfl⟩
      · -- what is read has been on its way
        cases heq
        exact ⟨k, hk, hbooster ▸ List.mem_cons_self⟩
  | runnerReads s lost loading =>
    exact hl.update (fun k => by unfold Connection.readRequest; split <;> rfl)
      (fun k x hk => loadedApps_readRequest hk lost loading)
      (fun k x _ hk => hk.readRequest lost loading)
  -- requests come from the connection, so this event is none
  | runner s e =>
    refine hl.update (fun _ => rfl) (fun k x hk => loadedApps_handle hk e)
      (fun k x _ hk => hk.handle ?_)
    cases e with
    | message message loading => exact absurd trivial he
    | _ => rfl
  | daemon e =>
    refine hl.callDaemon hinv rfl (behaves_of_not_traffic he) hl.faithful
      (fun s k hk _ => ⟨k, hk, rfl, rfl⟩) (fun s message now heq => ?_)
    subst heq
    exact absurd trivial he.1

/-- **What is listed has been loaded**: if `m_runningApps` has an application with a pid, then a
runner with this pid has carried out a launch of it.

By induction with `ListedInv`, which is kept along with the invariant of the session: a runner that
reports success has loaded what it was last sent. -/
theorem listed_loaded (fromJson : String → QJsonObject) (maxCached : Int) (runnerCommand : String)
    (es : List SessionEvent)
    (hes : (session fromJson).Admits (fun h e => h.state.SessionLife fromJson e)
      (.init (start maxCached runnerCommand)) es) (a : String) (p : Int) :
    let c := ((session fromJson).run (.init (start maxCached runnerCommand)) es).state
    c.daemon.state.server.state.runningApps[a]? = some p → c.LoadedBy a p := by
  have hinv := Machine.invariant (M := session fromJson) (I := fun h => SessionInv fromJson
      (.init (Daemon.start maxCached runnerCommand)) h.state ∧ ListedInv h.state)
    (fun _ e ⟨hinv, hl⟩ he => ⟨hinv.step he, hl.step hinv he⟩)
    (h := .init (start maxCached runnerCommand))
    ⟨sessionInv_start maxCached runnerCommand,
      fun _ _ hk => absurd hk (by simp [start, History.init]),
      fun _ _ ha => absurd ha (by simp [start, Daemon.start, History.init])⟩ hes
  exact hinv.2.listed a p

/-- The application of the session is listed, and its runner has loaded it. -/
theorem listed_loaded_launchAndRelaunch :
    let c := ((session fun _ => {}).run (.init (start 1 "qml-runner --interactive"))
      launchAndRelaunch).state
    c.LoadedBy "com.webos.app.a" 100 :=
  listed_loaded _ _ _ launchAndRelaunch (by decide) "com.webos.app.a" 100 (by decide)

end Session

end Booster
