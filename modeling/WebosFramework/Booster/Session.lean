import WebosFramework.Booster.Connection
import WebosFramework.Booster.Processes

/-!
# The daemon and its runners

The booster daemon together with the runners that are connected to it, each with the messages that
are in flight between the two. Daemon and runners are processes of their own, so their steps come in
any order; an event of the session is one step of one of them.

* A runner connects with the pid of a process that the launch manager has started, and no other
  runner has had it. The rest of what Qt and the operating system promise is `SessionLife`.
* What the messages say is up to the two programs. The guards on the runners, which a server relies
  on, hold of every run therefore: **`session_protocol`**.

The invariant `SessionInv` says that the daemon has run by events that meet its guards, and that
each socket and its connection make a `Pipe`. A step of a runner is about one pipe; a step of the
daemon writes to the pipes what its handlers write to the sockets.
-/

namespace Booster

open Qt EventLoop

open Runner (RunnerEvent Loading)

/-- A daemon, and the runners that are connected to it. -/
structure Session where
  daemon : DaemonHistory
  connections : QMap SocketId Connection := ∅

/-- A step of one of the two sides. `lost` is the number of messages that are dropped with a
block. -/
inductive SessionEvent where
  /-- A runner connects, and sends its registration. -/
  | connects (s : SocketId) (pid : Int)
  /-- The booster reads what is first on a connection. -/
  | boosterReads (s : SocketId) (lost : Nat) (now : Int)
  /-- The runner reads what is first in the other direction. -/
  | runnerReads (s : SocketId) (lost : Nat) (loading : Loading)
  /-- Anything else that happens to a runner. -/
  | runner (s : SocketId) (e : RunnerEvent)
  /-- Anything else that happens to the daemon. -/
  | daemon (e : Event)

namespace Session

variable (fromJson : String → QJsonObject) (c : Session)

/-! ## Steps

A session is a daemon, and the connections to its runners by their sockets. Either side takes a
step, and what it sends travels on the connection. -/

/-- One connection changes. -/
def update (s : SocketId) (f : Connection → Connection) : Session :=
  { c with connections := c.connections.modify s f }

/-- There is one more connection. -/
def connect (s : SocketId) (pid : Int) : Session :=
  { c with connections := c.connections.insert s (.connected pid) }

/-- The message that the booster reads next. -/
def nextMessage (s : SocketId) : Option QJsonObject :=
  c.connections[s]?.bind (·.toBooster.head?)

/-- What the server emits in an event of the daemon. -/
def serverOutputs (e : Event) : List (Output LaunchCallback) :=
  match c.daemon.state.serverEvent fromJson e with
  | some e' => (c.daemon.state.server.state.handle e').2
  | none => []

/-- The daemon handles an event, and what its server writes goes to the runners. -/
def callDaemon (e : Event) : Session × List BusOutput :=
  ({ daemon := (boosterd fromJson).step c.daemon e
     connections := c.connections.map fun s connection => connection.deliver
       ((IpcServer.writtenTo s (c.serverOutputs fromJson e)).map Request.toJson) },
    (c.daemon.state.handle fromJson e).2)

/-- What a step does. The booster is called by what it reads, and by what has nothing to do with
runners. -/
def handle : SessionEvent → Session × List BusOutput
  | .connects s pid => (c.connect s pid).callDaemon fromJson (.socket (.newConnection s))
  | .boosterReads s lost now =>
    match c.nextMessage s with
    | some message => (c.update s (·.dropToBooster lost)).callDaemon fromJson
        (.socket (.readSocket s message now))
    | none => (c, [])
  | .runnerReads s lost loading => (c.update s (·.readRequest lost loading), [])
  | .runner s e => (c.update s (·.handle e), [])
  | .daemon e => c.callDaemon fromJson e

/-- The daemon when its event loop starts, without a runner. -/
def start (maxCached : Int) (runnerCommand : String) : Session where
  daemon := .init (Daemon.start maxCached runnerCommand)

/-! ## Guards

What is left to be assumed: that messages come from their connections, and what Qt and the
operating system promise. Everything the runners have to do is derived from their program. -/

/-- A runner gets its messages from its connection. -/
def IsMessage : RunnerEvent → Prop
  | .message .. => True
  | _ => False

/-- A connection that is set up, or a block that is read. -/
def IsTraffic : Event → Prop
  | .socket (.newConnection _) | .socket (.readSocket ..) => True
  | _ => False

instance : DecidablePred IsMessage
  | .message .. => .isTrue trivial
  | .nothingRead | .socketError | .socketClosed | .quit | .windowShown | .windowClosed
  | .windowDeleted => .isFalse id

instance : DecidablePred IsTraffic
  | .socket (.newConnection _) | .socket (.readSocket ..) => .isTrue trivial
  | .socket (.disconnected _) | .socket (.closed _) | .socket (.deleted _) | .launch ..
  | .close .. | .running _ | .timer .. | .processFinished .. | .processError _
  | .processDestroyed _ => .isFalse id

/-- What Qt and the operating system promise. -/
def SessionLife : SessionEvent → Prop
  | .connects s pid => (c.daemon.state.server.state.socket s).phase = .absent ∧
      pid ∈ c.daemon.state.started ∧ ∀ entry ∈ c.connections.toList, entry.2.pid ≠ pid
  | .boosterReads s _ _ => (c.daemon.state.server.state.socket s).phase = .connected
  | .runnerReads .. => True
  | .runner _ e => ¬ IsMessage e
  | .daemon e => ¬ IsTraffic e ∧ c.daemon.state.ProcessLife e ∧
      ∀ e' ∈ c.daemon.state.serverEvent fromJson e, c.daemon.state.server.state.SocketLife e'

instance : DecidablePred (c.SessionLife fromJson)
  | .connects s pid => inferInstanceAs (Decidable
      ((c.daemon.state.server.state.socket s).phase = .absent ∧ pid ∈ c.daemon.state.started ∧
        ∀ entry ∈ c.connections.toList, entry.2.pid ≠ pid))
  | .boosterReads s _ _ => inferInstanceAs (Decidable
      ((c.daemon.state.server.state.socket s).phase = .connected))
  | .runnerReads .. => .isTrue trivial
  | .runner _ e => inferInstanceAs (Decidable (¬ IsMessage e))
  | .daemon e => inferInstanceAs (Decidable (¬ IsTraffic e ∧ c.daemon.state.ProcessLife e ∧
      ∀ e' ∈ c.daemon.state.serverEvent fromJson e, c.daemon.state.server.state.SocketLife e'))

end Session

/-- Daemon and runners, reacting to one event after the other. The outputs are those to the bus. -/
def session (fromJson : String → QJsonObject) : Machine Session SessionEvent BusOutput where
  handle := Session.handle fromJson

/-- A session, the events so far, and what was sent to the bus. -/
abbrev SessionHistory := History Session SessionEvent BusOutput

/-- The guards that runs of the daemon have been taken under. -/
structure RunnersBehave (fromJson : String → QJsonObject) (d : Daemon) (e : Event) : Prop extends
    d.DaemonProtocol fromJson e where
  /-- A runner replies to a launch once. -/
  once : d.RepliesOnce fromJson e
  /-- It answers its requests in order. -/
  inOrder : ∀ e' ∈ d.serverEvent fromJson e, ∀ s, IpcServer.AnswersInOrder s d.server e'

namespace IpcServer

variable {κ : Type} {h : ServerHistory κ} {e : ServerEvent κ}

/-- Only `newConnection` hands a socket out. -/
theorem absent_step {s : SocketId} (hlife : h.state.SocketLife e)
    (hnew : e ≠ .socket (.newConnection s)) (habsent : (h.state.socket s).phase = .absent) :
    ((h.state.handle e).1.socket s).phase = .absent := by
  cases socket_step h.state e s with
  | unchanged hx => exact hx ▸ habsent
  | opened he => exact absurd he hnew
  | closing hpid happ hphase =>
    rcases hphase with hphase | rfl | rfl
    · exact hphase.trans habsent
    · have hconnected : (h.state.socket s).phase = .connected := hlife
      rw [habsent] at hconnected
      cases hconnected
    · have hdisconnected : (h.state.socket s).phase = .disconnected := hlife
      rw [habsent] at hdisconnected
      cases hdisconnected
  | registered message now he hheader hpid hphase => exact hphase.trans habsent
  | launched hpool hpid hphase => exact hphase.trans habsent

/-- A socket that has been handed out stays so. -/
theorem absent_of_step {s : SocketId} (habsent : ((h.state.handle e).1.socket s).phase = .absent) :
    (h.state.socket s).phase = .absent := by
  cases socket_step h.state e s with
  | unchanged hx => exact hx ▸ habsent
  | opened he hx =>
    have hafter := (congrArg LocalSocket.phase hx).symm.trans habsent
    cases hafter
  | closing hpid happ hphase =>
    rcases hphase with hphase | rfl | rfl
    · exact hphase ▸ habsent
    · have hafter : ((h.state.onDisconnected s).1.socket s).phase = .absent := habsent
      simp [onDisconnected] at hafter
    · have hafter : ((h.state.modifySocket s _).socket s).phase = .absent := habsent
      simp at hafter
  | registered message now he hheader hpid hphase => exact hphase ▸ habsent
  | launched hpool hpid hphase => exact hphase ▸ habsent

/-- A socket that has sent no reply has sent none to its launch. -/
theorem not_replied {s : SocketId} (hnone : repliesFrom h s = 0) : s ∉ replied h := by
  refine fun hmem => List.count_eq_zero.mp hnone ?_
  obtain ⟨e, he, hse⟩ := List.mem_flatMap.mp hmem
  refine List.mem_flatMap.mpr ⟨e, he, ?_⟩
  unfold replies at hse
  split at hse
  · split at hse
    · rename_i hheader
      rw [answers, if_pos (.inl hheader)]
      exact hse
    · exact absurd hse List.not_mem_nil
  · exact absurd hse List.not_mem_nil

/-- A socket that has not been handed out has been asked for nothing and has sent nothing. -/
def Unused (h : ServerHistory κ) : Prop :=
  ∀ s, (h.state.socket s).phase = .absent → requested h s = [] ∧ repliesFrom h s = 0

/-- Sockets are used from the moment they are handed out. Before that a socket has neither a pid nor
an application, and only sockets with both are written to. -/
theorem unused_step (hinv : SocketsInv h.state) (he : h.state.RunnerProtocol e)
    (hunused : Unused h) : Unused ((ipcServer κ).step h e) := by
  intro s habsent
  have hinv' := hinv.step he.life he.once
  have hpid : ((h.state.handle e).1.socket s).pid = none := hinv'.absent s habsent
  have hlaunched : ((h.state.handle e).1.socket s).appId = none := by
    by_contra happ
    obtain ⟨a, ha⟩ := Option.ne_none_iff_exists'.mp happ
    exact hinv'.launched s a ha hpid
  have hbefore := absent_of_step habsent
  obtain ⟨hrequested, hreplies⟩ := hunused s hbefore
  have hanswers : (answers e).count s = 0 := by
    refine List.count_eq_zero.mpr fun hmem => ?_
    obtain ⟨message, now, rfl, -⟩ := answers_eq hmem
    have hphase : (h.state.socket s).phase = .connected := he.life
    rw [hbefore] at hphase
    cases hphase
  rw [requested_step, repliesFrom_step, hrequested, hreplies, hanswers]
  refine ⟨?_, rfl⟩
  cases written hinv he.life he.once s with
  | nothing hwritten => rw [hwritten]; rfl
  | launch message now hwritten hfrom hnone happ =>
    rw [hlaunched] at happ
    cases happ
  | relaunch params now callback hwritten hfrom hsome happ => exact absurd (happ ▸ hlaunched) hsome

end IpcServer

namespace Session

variable {fromJson : String → QJsonObject} {c c' : Session} {d₀ : DaemonHistory}

/-! ## The invariant

The past of the daemon is a run of the daemon under all the guards, and each connection is a
`Pipe`. -/

/-- What holds in a session that has started with the daemon `d₀`. -/
structure SessionInv (fromJson : String → QJsonObject) (d₀ : DaemonHistory) (c : Session) :
    Prop where
  /-- The daemon has done what its events make it do. -/
  run : (boosterd fromJson).run d₀ c.daemon.inputs = c.daemon
  /-- Its runners have behaved so far. -/
  behaved : (boosterd fromJson).Admits (fun h e => RunnersBehave fromJson h.state e) d₀
    c.daemon.inputs
  /-- What is known of the sockets, the pids and the callbacks of the server. -/
  server : IpcServer.CallbacksInv c.daemon.state.server.state
  /-- Nothing has been sent over a socket that has not been handed out. -/
  unused : IpcServer.Unused c.daemon.state.server
  /-- There is a connection behind each socket. -/
  there : ∀ s : SocketId, (c.daemon.state.server.state.socket s).phase ≠ .absent →
    c.connections[s]? ≠ none
  /-- Socket and connection fit together. -/
  pipes : ∀ (s : SocketId) k, c.connections[s]? = some k →
    Pipe (c.daemon.state.server.state.socket s) (IpcServer.requested c.daemon.state.server s)
      (IpcServer.repliesFrom c.daemon.state.server s) k
  /-- No two connections are of one runner. -/
  distinct : ∀ (s t : SocketId) (k k' : Connection), c.connections[s]? = some k →
    c.connections[t]? = some k' → k.pid = k'.pid → s = t
  /-- A runner that connects has been started by the daemon. -/
  started : ∀ (s : SocketId) (k : Connection), c.connections[s]? = some k →
    k.pid ∈ c.daemon.state.started

/-- The other connections stay as they are. -/
theorem connections_update (c : Session) (s t : SocketId) (f : Connection → Connection) :
    (c.update s f).connections[t]? =
      if s = t then c.connections[t]?.map f else c.connections[t]? :=
  QMap.getElem?_modify _ _ _ _

/-- A new connection is new. -/
theorem connections_connect (c : Session) (s t : SocketId) (pid : Int) :
    (c.connect s pid).connections[t]? =
      if s = t then some (.connected pid) else c.connections[t]? :=
  QMap.getElem?_insert _ _ _ _

/-- A handler of the daemon writes to each connection what it writes to its socket. -/
theorem connections_callDaemon (c : Session) (e : Event) (s : SocketId) :
    (c.callDaemon fromJson e).1.connections[s]? = c.connections[s]?.map fun k => k.deliver
      ((IpcServer.writtenTo s (c.serverOutputs fromJson e)).map Request.toJson) := by
  show (c.connections.map _)[s]? = _
  rw [Std.TreeMap.getElem?_map]

/-- A connection after a change of one of them is that one, changed, or another. -/
theorem connection_of_update {s t : SocketId} {f : Connection → Connection} {k : Connection}
    (hk : (c.update s f).connections[t]? = some k) :
    ∃ k₀, c.connections[t]? = some k₀ ∧ (s = t ∧ k = f k₀ ∨ s ≠ t ∧ k = k₀) := by
  rw [connections_update] at hk
  split at hk
  · rename_i hst
    obtain ⟨k₀, hk₀, rfl⟩ := Option.map_eq_some_iff.mp hk
    exact ⟨k₀, hk₀, .inl ⟨hst, rfl⟩⟩
  · rename_i hst
    exact ⟨k, hk, .inr ⟨hst, rfl⟩⟩

/-- No connection is lost by it. -/
theorem connections_update_ne_none {s t : SocketId} {f : Connection → Connection}
    (ht : c.connections[t]? ≠ none) : (c.update s f).connections[t]? ≠ none := by
  rw [connections_update]
  split
  · exact fun hnone => ht (Option.map_eq_none_iff.mp hnone)
  · exact ht

/-- A step of a runner leaves the pid alone. The daemon does not notice the step, as what the runner
has written is still on its way. -/
theorem SessionInv.update (hinv : SessionInv fromJson d₀ c) {s : SocketId}
    {f : Connection → Connection} (hpid : ∀ k, (f k).pid = k.pid)
    (hpipe : ∀ x asked answered k, Pipe x asked answered k → Pipe x asked answered (f k)) :
    SessionInv fromJson d₀ (c.update s f) := by
  have hbefore {t : SocketId} {k : Connection} (hk : (c.update s f).connections[t]? = some k) :
      ∃ k₀, c.connections[t]? = some k₀ ∧ k.pid = k₀.pid ∧
        ∀ x asked answered, Pipe x asked answered k₀ → Pipe x asked answered k := by
    obtain ⟨k₀, hk₀, ⟨-, rfl⟩ | ⟨-, rfl⟩⟩ := connection_of_update hk
    · exact ⟨k₀, hk₀, hpid k₀, fun x asked answered => hpipe x asked answered k₀⟩
    · exact ⟨k, hk₀, rfl, fun _ _ _ h => h⟩
  refine ⟨hinv.run, hinv.behaved, hinv.server, hinv.unused,
    fun t ht => connections_update_ne_none (hinv.there t ht), fun t k hk => ?_,
    fun t u k k' hk hk' heq => ?_, fun t k hk => ?_⟩
  · obtain ⟨k₀, hk₀, -, hkept⟩ := hbefore hk
    exact hkept _ _ _ (hinv.pipes t k₀ hk₀)
  · obtain ⟨k₀, hk₀, hp, -⟩ := hbefore hk
    obtain ⟨k₁, hk₁, hp', -⟩ := hbefore hk'
    exact hinv.distinct t u k₀ k₁ hk₀ hk₁ (hp.symm.trans (heq.trans hp'))
  · obtain ⟨k₀, hk₀, hp, -⟩ := hbefore hk
    rw [hp]
    exact hinv.started t k₀ hk₀

/-- A process that has been started has been started for good. -/
theorem started_handle (d : Daemon) (e : Event) : d.started ⊆ (d.handle fromJson e).1.started := by
  obtain ⟨es, hmanager⟩ := Daemon.manager_handle fromJson d e
  unfold Daemon.started
  rw [hmanager]
  obtain ⟨more, hmore⟩ := launchManager.outputs_prefix_run d.manager es
  rw [← hmore, List.flatMap_append]
  exact List.subset_append_left _ _

/-- The server after an event, and what it has written. -/
theorem server_callDaemon (fromJson : String → QJsonObject) (c : Session) (e : Event) :
    (c.daemon.state.serverEvent fromJson e = none ∧ c.serverOutputs fromJson e = [] ∧
      ((boosterd fromJson).step c.daemon e).state.server = c.daemon.state.server) ∨
    ∃ e', c.daemon.state.serverEvent fromJson e = some e' ∧
      c.serverOutputs fromJson e = (c.daemon.state.server.state.handle e').2 ∧
      ((boosterd fromJson).step c.daemon e).state.server =
        (ipcServer LaunchCallback).step c.daemon.state.server e' := by
  have hserver := Daemon.server_step fromJson c.daemon e
  unfold serverOutputs
  cases hevent : c.daemon.state.serverEvent fromJson e with
  | none =>
    rw [hevent] at hserver
    exact .inl ⟨rfl, rfl, hserver⟩
  | some e' =>
    rw [hevent] at hserver
    exact .inr ⟨e', rfl, rfl, hserver⟩

/-- The daemon handles an event that obeys the guards, when the connections are `c'`. The
connections come with what the server has written to them; what is asked of them is said before
that. -/
theorem SessionInv.callDaemon (hinv : SessionInv fromJson d₀ c) {e : Event}
    (hdaemon : c'.daemon = c.daemon) (hbehave : RunnersBehave fromJson c.daemon.state e)
    (hpipes : ∀ (s : SocketId) k, c'.connections[s]? = some k →
      Pipe (((boosterd fromJson).step c.daemon e).state.server.state.socket s)
        (IpcServer.requested ((boosterd fromJson).step c.daemon e).state.server s)
        (IpcServer.repliesFrom ((boosterd fromJson).step c.daemon e).state.server s)
        (k.deliver ((IpcServer.writtenTo s (c.serverOutputs fromJson e)).map Request.toJson)))
    (hthere : ∀ s : SocketId,
      (((boosterd fromJson).step c.daemon e).state.server.state.socket s).phase ≠ .absent →
        c'.connections[s]? ≠ none)
    (hdistinct : ∀ (s t : SocketId) (k k' : Connection), c'.connections[s]? = some k →
      c'.connections[t]? = some k' → k.pid = k'.pid → s = t)
    (hstarted : ∀ (s : SocketId) (k : Connection), c'.connections[s]? = some k →
      k.pid ∈ c.daemon.state.started) :
    SessionInv fromJson d₀ (c'.callDaemon fromJson e).1 := by
  have houtputs : c'.serverOutputs fromJson e = c.serverOutputs fromJson e := by
    unfold serverOutputs
    rw [hdaemon]
  have hafter : (c'.callDaemon fromJson e).1.daemon = (boosterd fromJson).step c.daemon e := by
    rw [← hdaemon]
    rfl
  have hconnection {s : SocketId} {k : Connection}
      (hk : (c'.callDaemon fromJson e).1.connections[s]? = some k) :
      ∃ k₀, c'.connections[s]? = some k₀ ∧ k = k₀.deliver
        ((IpcServer.writtenTo s (c.serverOutputs fromJson e)).map Request.toJson) := by
    rw [connections_callDaemon, houtputs] at hk
    obtain ⟨k₀, hk₀, rfl⟩ := Option.map_eq_some_iff.mp hk
    exact ⟨k₀, hk₀, rfl⟩
  have hserver : IpcServer.CallbacksInv
        ((boosterd fromJson).step c.daemon e).state.server.state ∧
      IpcServer.Unused ((boosterd fromJson).step c.daemon e).state.server := by
    rcases server_callDaemon fromJson c e with
      ⟨hnone, -, hserver⟩ | ⟨e', hevent, -, hserver⟩
    · rw [hserver]
      exact ⟨hinv.server, hinv.unused⟩
    · rw [hserver]
      have he := hbehave.runner e' hevent
      exact ⟨hinv.server.step he,
        IpcServer.unused_step hinv.server.toSocketsInv he hinv.unused⟩
  refine ⟨?_, ?_, ?_, ?_, fun s hs => ?_, fun s k hk => ?_, fun s t k k' hk hk' heq => ?_,
    fun s k hk => ?_⟩
  · -- the past of the daemon is a run under the guards
    rw [hafter]
    exact Machine.run_inputs_step hinv.run e
  · rw [hafter, Machine.step_inputs, Machine.admits_append, hinv.run]
    exact ⟨hinv.behaved, hbehave, trivial⟩
  · rw [hafter]
    exact hserver.1
  · -- no socket has been handed out by this event, but for those that there are connections of
    rw [hafter]
    exact hserver.2
  · rw [hafter] at hs
    rw [connections_callDaemon]
    exact fun hnone => hthere s hs (Option.map_eq_none_iff.mp hnone)
  · obtain ⟨k₀, hk₀, rfl⟩ := hconnection hk
    rw [hafter]
    exact hpipes s k₀ hk₀
  · obtain ⟨k₀, hk₀, rfl⟩ := hconnection hk
    obtain ⟨k₁, hk₁, rfl⟩ := hconnection hk'
    exact hdistinct s t k₀ k₁ hk₀ hk₁ heq
  · obtain ⟨k₀, hk₀, rfl⟩ := hconnection hk
    rw [hafter]
    exact started_handle c.daemon.state e (hstarted s k₀ hk₀)

/-! ## The steps keep it

One case for each kind of step. In the case of a message that is read, the pipe says what the
message can be, and so the guards on the runners are met. -/

/-- The pipes of sockets that are not read. What the server writes to them is delivered, by
`Pipe.deliver`, and nothing is taken from them. -/
theorem SessionInv.pipe_step (hinv : SessionInv fromJson d₀ c) {e : Event}
    (hbehave : RunnersBehave fromJson c.daemon.state e) {s : SocketId} {k : Connection}
    (hpipe : Pipe (c.daemon.state.server.state.socket s)
      (IpcServer.requested c.daemon.state.server s)
      (IpcServer.repliesFrom c.daemon.state.server s) k)
    (hread : ∀ message now, e ≠ .socket (.readSocket s message now)) :
    Pipe (((boosterd fromJson).step c.daemon e).state.server.state.socket s)
      (IpcServer.requested ((boosterd fromJson).step c.daemon e).state.server s)
      (IpcServer.repliesFrom ((boosterd fromJson).step c.daemon e).state.server s)
      (k.deliver ((IpcServer.writtenTo s (c.serverOutputs fromJson e)).map Request.toJson)) := by
  rcases server_callDaemon fromJson c e with
    ⟨-, houtputs, hserver⟩ | ⟨e', hevent, houtputs, hserver⟩
  · rw [hserver, houtputs]
    have hsame : k.deliver [] = k := by
      rw [Connection.deliver, List.append_nil]
    exact hsame.symm ▸ hpipe
  · rw [hserver, houtputs]
    refine hpipe.step hinv.server (hbehave.runner e' hevent) fun message now heq => ?_
    rw [heq] at hevent
    exact hread message now (Daemon.socket_of_serverEvent hevent)

/-- An event that is no traffic obeys the guards on the runners. -/
theorem behaves_of_not_traffic {e : Event} (hlife : c.SessionLife fromJson (.daemon e)) :
    RunnersBehave fromJson c.daemon.state e := by
  obtain ⟨htraffic, hprocess, hsockets⟩ := hlife
  have hread {e' : ServerEvent LaunchCallback}
      (hevent : e' ∈ c.daemon.state.serverEvent fromJson e)
      {P : SocketId → QJsonObject → Prop} : IpcServer.OnRead P e' := by
    unfold IpcServer.OnRead
    split
    · rename_i s message now
      obtain rfl := Daemon.socket_of_serverEvent hevent
      exact absurd trivial htraffic
    · trivial
  exact
    { process := hprocess
      runner := fun e' hevent => ⟨hsockets e' hevent, hread hevent, hread hevent, hread hevent⟩
      once := fun e' hevent => hread hevent
      inOrder := fun e' hevent _ => hread hevent }

/-- A connection obeys them. -/
theorem behaves_newConnection {s : SocketId}
    (habsent : (c.daemon.state.server.state.socket s).phase = .absent) :
    RunnersBehave fromJson c.daemon.state (.socket (.newConnection s)) where
  process := trivial
  runner := by
    rintro e' ⟨⟩
    exact ⟨habsent, trivial, trivial, trivial⟩
  once := by
    rintro e' ⟨⟩
    trivial
  inOrder := by
    rintro e' ⟨⟩ _
    trivial

/-- The next message of a runner obeys them. Each guard is read off the pipe: the pid, the kind of
the message, and its place among the requests. -/
theorem SessionInv.behaves_read (hinv : SessionInv fromJson d₀ c) {s : SocketId} {k : Connection}
    (hk : c.connections[s]? = some k) {message : QJsonObject} {rest : List QJsonObject}
    (hbooster : k.toBooster = message :: rest)
    (hconnected : (c.daemon.state.server.state.socket s).phase = .connected) (now : Int) :
    RunnersBehave fromJson c.daemon.state (.socket (.readSocket s message now)) := by
  have hpipe := hinv.pipes s k hk
  have hreads := hpipe.reads hbooster
  -- the reply to a launch is the first one, as all that come behind it are replies to relaunches
  have honce : header message = some .launchReply →
      s ∉ IpcServer.replied c.daemon.state.server := by
    intro hheader
    rcases hreads with ⟨hregister, -⟩ | ⟨-, -, hnext⟩
    · cases hregister.symm.trans hheader
    · refine IpcServer.not_replied ?_
      by_contra hlater
      have hlast := hpipe.relaunch_of_drop hlater .launchReply
        (List.mem_of_getElem? (i := 0) (by rw [List.getElem?_drop, Nat.add_zero, hnext, hheader]))
      cases hlast
  refine { process := ?_, runner := ?_, once := ?_, inOrder := ?_ }
  · -- a runner registers the pid that it was started with
    show header message = some .registerRequest → registeredPid message ∈ c.daemon.state.started
    intro hregister
    rcases hreads with ⟨-, -, hpid⟩ | ⟨hreply, -⟩
    · rw [hpid]
      exact hinv.started s k hk
    · rcases hreply with hreply | hreply <;> cases hregister.symm.trans hreply
  · -- what the server may assume of a message, guard by guard
    rintro e' ⟨⟩
    refine ⟨hconnected, fun hregister => ?_, fun hregister => ?_, fun hlaunch => ?_⟩
    · rcases hreads with ⟨-, hnew, -⟩ | ⟨hreply, -⟩
      · exact hnew
      · rcases hreply with hreply | hreply <;> cases hregister.symm.trans hreply
    · rcases hreads with ⟨-, hnew, hpid⟩ | ⟨hreply, -⟩
      · -- the pid is that of this connection alone
        rw [hpid, IpcServer.mem_registeredPids]
        rintro ⟨t, ht⟩
        have hthere : c.connections[t]? ≠ none := hinv.there t fun habsent => by
          rw [hinv.server.absent t habsent] at ht
          cases ht
        obtain ⟨k', hk'⟩ := Option.ne_none_iff_exists'.mp hthere
        have hsame := hinv.distinct s t k k' hk hk' ((hinv.pipes t k' hk').registered _ ht).1
        rw [hsame, ht] at hnew
        cases hnew
      · rcases hreply with hreply | hreply <;> cases hregister.symm.trans hreply
    · rcases hreads with ⟨hregister, -⟩ | ⟨-, happ, -⟩
      · cases hregister.symm.trans hlaunch
      · exact happ
  · rintro e' ⟨⟩
    exact honce
  · -- the reply is the next one that was asked for, which the pipe says
    rintro e' ⟨⟩ t
    rintro rfl hreply
    rcases hreads with ⟨hregister, -⟩ | ⟨-, -, hnext⟩
    · rcases hreply with hreply | hreply <;> cases hregister.symm.trans hreply
    · rw [← hnext, IpcServer.requested, List.getElem?_map]

/-- At the start there are no connections. -/
theorem sessionInv_start (maxCached : Int) (runnerCommand : String) :
    SessionInv fromJson (.init (Daemon.start maxCached runnerCommand))
      (start maxCached runnerCommand) where
  run := rfl
  behaved := trivial
  server := IpcServer.CallbacksInv.init
  unused _ _ := ⟨rfl, rfl⟩
  there s hs := by
    have habsent : (({} : IpcServer LaunchCallback).socket s).phase = .absent := by
      simp [IpcServer.socket]
    exact absurd habsent hs
  pipes s k hk := by simp [start] at hk
  distinct s t k k' hk := by simp [start] at hk
  started s k hk := by simp [start] at hk

/-- **Every step of a session keeps the invariant.** Reading and connecting are what the runners
have to do with the daemon, and there the connection says that the guards are met. -/
theorem SessionInv.step {h : SessionHistory} (hinv : SessionInv fromJson d₀ h.state)
    {e : SessionEvent} (he : h.state.SessionLife fromJson e) :
    SessionInv fromJson d₀ ((session fromJson).step h e).state := by
  cases e with
  -- a runner connects: the socket is a new one, and the pid is that of no other connection
  | connects s pid =>
    obtain ⟨habsent, hstarted, hfresh⟩ := he
    have hbehave : RunnersBehave fromJson h.state.daemon.state _ := behaves_newConnection habsent
    have hnew (t : SocketId) (k : Connection) (hk : h.state.connections[t]? = some k) :
        k.pid ≠ pid := hfresh (t, k) (Std.TreeMap.mem_toList_iff_getElem?_eq_some.mpr hk)
    have hpid := hinv.server.absent s habsent
    have happ : (h.state.daemon.state.server.state.socket s).appId = none := by
      by_contra happ
      obtain ⟨a, ha⟩ := Option.ne_none_iff_exists'.mp happ
      exact hinv.server.launched s a ha hpid
    refine hinv.callDaemon rfl hbehave (fun t k hk => ?_) (fun t ht => ?_)
      (fun t u k k' hk hk' heq => ?_) (fun t k hk => ?_)
    · refine hinv.pipe_step hbehave ?_ (fun message now heq => by cases heq)
      rw [connections_connect] at hk
      split at hk
      · rename_i hst
        obtain rfl := Option.some.inj hk
        obtain ⟨hrequested, hreplies⟩ := hinv.unused s habsent
        rw [← hst, hrequested, hreplies]
        exact (Pipe.connected pid).congr hpid happ
      · exact hinv.pipes t k hk
    · rw [connections_connect]
      split
      · exact Option.some_ne_none _
      · rename_i hst
        refine hinv.there t fun habsent' => ht ?_
        refine IpcServer.absent_step (h := h.state.daemon.state.server)
          (e := .socket (.newConnection s)) habsent (fun heq => hst ?_) habsent'
        cases heq
        rfl
    · rw [connections_connect] at hk hk'
      split at hk <;> split at hk'
      · rename_i hst hsu
        exact hst.symm.trans hsu
      · obtain rfl := Option.some.inj hk
        exact absurd heq.symm (hnew u k' hk')
      · obtain rfl := Option.some.inj hk'
        exact absurd heq (hnew t k hk)
      · exact hinv.distinct t u k k' hk hk' heq
    · rw [connections_connect] at hk
      split at hk
      · obtain rfl := Option.some.inj hk
        exact hstarted
      · exact hinv.started t k hk
  -- the booster reads the first message on the connection, and the others behind it may be lost
  | boosterReads s lost now =>
    show SessionInv fromJson d₀ (h.state.handle fromJson (.boosterReads s lost now)).1
    rw [handle]
    cases hnext : h.state.nextMessage s with
    | none => exact hinv
    | some message =>
      obtain ⟨k, hk, hhead⟩ := Option.bind_eq_some_iff.mp hnext
      obtain ⟨rest, hbooster⟩ := List.head?_eq_some_iff.mp hhead
      have hbehave := hinv.behaves_read hk hbooster he now
      have hpid {t : SocketId} {k' : Connection}
          (hk' : (h.state.update s (·.dropToBooster lost)).connections[t]? = some k') :
          ∃ k₀, h.state.connections[t]? = some k₀ ∧ k'.pid = k₀.pid := by
        obtain ⟨k₀, hk₀, ⟨-, rfl⟩ | ⟨-, rfl⟩⟩ := connection_of_update hk'
        · exact ⟨k₀, hk₀, rfl⟩
        · exact ⟨k', hk₀, rfl⟩
      refine hinv.callDaemon rfl hbehave (fun t k' hk' => ?_) (fun t ht => ?_)
        (fun t u k₁ k₂ hk₁ hk₂ heq => ?_) (fun t k' hk' => ?_)
      · -- the connection that was read has its lemma, and the others are not concerned
        obtain ⟨k₀, hk₀, ⟨rfl, rfl⟩ | ⟨hst, rfl⟩⟩ := connection_of_update hk'
        · obtain rfl : k = k₀ := Option.some.inj (hk.symm.trans hk₀)
          exact (hinv.pipes s k hk).step_read hinv.server hbooster lost (hbehave.runner _ rfl)
        · refine hinv.pipe_step hbehave (hinv.pipes t k' hk₀) fun message' now' heq => hst ?_
          cases heq
          rfl
      · refine connections_update_ne_none (hinv.there t fun habsent => ht ?_)
        exact IpcServer.absent_step (h := h.state.daemon.state.server)
          (e := .socket (.readSocket s message now)) he nofun habsent
      · obtain ⟨k₃, hk₃, hp⟩ := hpid hk₁
        obtain ⟨k₄, hk₄, hp'⟩ := hpid hk₂
        exact hinv.distinct t u k₃ k₄ hk₃ hk₄ (hp.symm.trans (heq.trans hp'))
      · obtain ⟨k₀, hk₀, hp⟩ := hpid hk'
        rw [hp]
        exact hinv.started t k₀ hk₀
  -- what a runner does on its own is known of its program
  | runnerReads s lost loading =>
    exact hinv.update (fun k => by unfold Connection.readRequest; split <;> rfl)
      fun x asked answered k hpipe => hpipe.readRequest lost loading
  | runner s e =>
    refine hinv.update (fun _ => rfl) fun x asked answered k hpipe => hpipe.handle ?_
    cases e with
    | message message loading => exact absurd trivial he
    | _ => rfl
  -- an event that is no traffic writes to runners, but reads nothing
  | daemon e =>
    have hbehave := behaves_of_not_traffic he
    refine hinv.callDaemon rfl hbehave (fun t k hk => ?_) (fun t ht => ?_) hinv.distinct
      hinv.started
    · refine hinv.pipe_step hbehave (hinv.pipes t k hk) fun message now heq => ?_
      subst heq
      exact he.1 trivial
    · refine hinv.there t fun habsent => ht ?_
      rcases server_callDaemon fromJson h.state e with
        ⟨-, -, hserver⟩ | ⟨e', hevent, -, hserver⟩
      · rw [hserver]
        exact habsent
      · rw [hserver]
        refine IpcServer.absent_step (he.2.2 e' hevent) (fun heq => ?_) habsent
        subst heq
        obtain rfl := Daemon.socket_of_serverEvent hevent
        exact he.1 trivial

/-- **Runners that run the runner program obey the protocol**: what the daemon goes through in a
session is a run of the daemon under all the guards that it has on its processes and its runners.

By induction with `SessionInv`, which ties every socket of the server to the connection behind it:
what a runner writes next follows from what it has been sent, since it runs the program. -/
theorem session_protocol (fromJson : String → QJsonObject) (maxCached : Int)
    (runnerCommand : String) (es : List SessionEvent)
    (hes : (session fromJson).Admits (fun h e => h.state.SessionLife fromJson e)
      (.init (start maxCached runnerCommand)) es) :
    let d := ((session fromJson).run (.init (start maxCached runnerCommand)) es).state.daemon
    (boosterd fromJson).run (.init (Daemon.start maxCached runnerCommand)) d.inputs = d ∧
      (boosterd fromJson).Admits (fun h e => RunnersBehave fromJson h.state e)
        (.init (Daemon.start maxCached runnerCommand)) d.inputs := by
  have hinv := Machine.invariant (M := session fromJson) (I := fun h => SessionInv fromJson
    (.init (Daemon.start maxCached runnerCommand)) h.state) (fun _ _ hinv he => hinv.step he)
    (h := .init (start maxCached runnerCommand)) (sessionInv_start maxCached runnerCommand) hes
  exact ⟨hinv.run, hinv.behaved⟩

/-- An application is launched and relaunched. -/
def launchAndRelaunch : List SessionEvent :=
  [.daemon (.timer 1 100 0),
    .connects 1 100,
    .boosterReads 1 0 10,
    .daemon (.launch ⟨0, some (({} : QJsonObject).insert "appId" (.string "com.webos.app.a"))⟩ 20),
    .runnerReads 1 0 ⟨.ready, .ready, .window true⟩,
    .boosterReads 1 0 30,
    .daemon (.launch ⟨1, some (({} : QJsonObject).insert "appId" (.string "com.webos.app.a"))⟩ 40),
    .runnerReads 1 0 ⟨.ready, .ready, .window true⟩,
    .boosterReads 1 0 50]

/-- Both requests are answered, and the guards have been met all the way. -/
theorem session_protocol_launchAndRelaunch :
    let d := ((session fun _ => {}).run (.init (start 1 "qml-runner --interactive"))
      launchAndRelaunch).state.daemon
    (boosterd fun _ => {}).run (.init (Daemon.start 1 "qml-runner --interactive")) d.inputs = d ∧
      (boosterd fun _ => {}).Admits (fun h e => RunnersBehave (fun _ => {}) h.state e)
        (.init (Daemon.start 1 "qml-runner --interactive")) d.inputs :=
  session_protocol _ _ _ launchAndRelaunch (by decide)

/-- The relaunch is answered. -/
example : ((session fun _ => {}).run (.init (start 1 "qml-runner --interactive"))
    launchAndRelaunch).state.daemon.state.server.outputs.flatMap IpcServer.called =
      [.launched "com.webos.app.a"
          ⟨0, some (({} : QJsonObject).insert "appId" (.string "com.webos.app.a"))⟩,
        .relaunched "com.webos.app.a"
          ⟨1, some (({} : QJsonObject).insert "appId" (.string "com.webos.app.a"))⟩] := rfl

end Session

end Booster
