import WebosFramework.Booster.Framing
import WebosFramework.Booster.Transition

/-!
# Strangers at the booster's socket

Anybody may connect to the booster. Only a REGISTER_REQUEST brings a socket into the pool, and all
the rest of the server is about the sockets of the pool: a peer that never sends anything that can
be parsed is disconnected, and nothing else comes of it.

`SameBut s` relates two servers that differ in what they know of the socket `s` at most.
**`strangers_unnoticed`**: any run ends in the same server, but for `s`, and gives the same outputs,
but for the calls that disconnect `s`, as the run without the events of `s` does, if no message is
read from `s`.

The proof is a simulation: an event of `s` leaves the server alone but for the socket itself
(`handle_left`), and any other event does the same to both servers (`handle`), handler by handler.
-/

namespace Booster

open Qt EventLoop

variable {κ : Type}

/-- The socket an event is about. -/
def SocketEvent.socket : SocketEvent → SocketId
  | .newConnection s | .readSocket s _ _ | .disconnected s | .closed s | .deleted s => s

/-- Whether an event is one of the socket `s`. -/
def ServerEvent.concerns (s : SocketId) : ServerEvent κ → Bool
  | .socket e => e.socket == s
  | _ => false

/-- Whether an output disconnects the socket `s`. -/
def Output.disconnects (s : SocketId) : Output κ → Bool
  | .disconnectFromServer t => t == s
  | _ => false

/-- What is read from `s`, if the event reads from it, cannot be parsed. -/
def ServerEvent.Unparsed (s : SocketId) : ServerEvent κ → Prop
  | .socket (.readSocket t message _) => t = s → message.isEmpty = true
  | _ => True

/-- The two servers differ in what they know of the socket `s` at most, and do not use it. -/
structure SameBut (s : SocketId) (srv srv' : IpcServer κ) : Prop where
  /-- Apart from the sockets they are the same server. -/
  rest : srv' = { srv with sockets := srv'.sockets }
  /-- The other sockets are the same, too. -/
  socket : ∀ t, t ≠ s → srv'.socket t = srv.socket t
  /-- The socket is not in the pool. -/
  notClient : s ∉ srv.runnerClients
  /-- No application leads to it. -/
  notRunning : ∀ appId : String, srv.runningSockets[appId]? ≠ some s

/-- The results of one call on two such servers. -/
def Alike (s : SocketId) (next next' : IpcServer κ × List (Output κ)) : Prop :=
  SameBut s next.1 next'.1 ∧ next.2 = next'.2

namespace SameBut

variable {s t : SocketId} {srv : IpcServer κ} {sockets : QMap SocketId LocalSocket}

/-- In a new server nothing is known of any socket. -/
theorem init : SameBut s ({} : IpcServer κ) {} where
  rest := rfl
  socket _ _ := rfl
  notClient := List.not_mem_nil
  notRunning appId := by simp

/-! ## The events of `s`

The server that has heard of `s` goes on differing in `s` only. -/

/-- A change of the socket `s` does not matter. -/
theorem modifySocket_left (h : SameBut s srv { srv with sockets }) (f : LocalSocket → LocalSocket) :
    SameBut s (srv.modifySocket s f) { srv with sockets } where
  rest := rfl
  socket t ht := by rw [h.socket t ht, IpcServer.socket_modifySocket, if_neg ht.symm]
  notClient := h.notClient
  notRunning := h.notRunning

/-- A socket that is not in use is disconnected. -/
theorem onDisconnected_eq (h : SameBut s srv { srv with sockets }) :
    srv.onDisconnected s =
      (srv.modifySocket s fun socket => { socket with phase := .disconnected }, []) := by
  have herase : srv.runningSockets.eraseFirst (· == s) = srv.runningSockets :=
    QMap.eraseFirst_of_not fun appId t ht => by
      simpa using fun hts : t = s => h.notRunning appId (hts ▸ ht)
  rw [IpcServer.onDisconnected, if_neg h.notClient, herase, List.erase_of_not_mem h.notClient]

/-- An event of `s` changes what is known of `s` and nothing else. It is disconnected at its first
read, so it comes neither into the pool nor into the running list. -/
theorem handle_left (h : SameBut s srv { srv with sockets }) {e : ServerEvent κ}
    (hunparsed : e.Unparsed s) (he : e.concerns s = true) :
    SameBut s (srv.handle e).1 { srv with sockets } ∧
      ∀ o ∈ (srv.handle e).2, o.disconnects s = true := by
  have hsilent : ∀ o ∈ ([] : List (Output κ)), o.disconnects s = true :=
    fun _ ho => absurd ho List.not_mem_nil
  cases e with
  | socket e =>
    cases e with
    | newConnection t =>
      obtain rfl : t = s := beq_iff_eq.mp he
      exact ⟨h.modifySocket_left fun _ => { phase := .connected, isOpen := true }, hsilent⟩
    -- nothing that is read from the socket can be parsed, so it is disconnected
    | readSocket t message now =>
      obtain rfl : t = s := beq_iff_eq.mp he
      have hread : srv.handle (.socket (.readSocket t message now)) =
          (srv, [.disconnectFromServer t]) := if_pos (hunparsed rfl)
      rw [hread]
      refine ⟨h, fun o ho => ?_⟩
      rw [List.mem_singleton.mp ho]
      exact beq_self_eq_true t
    | disconnected t =>
      obtain rfl : t = s := beq_iff_eq.mp he
      have hdisconnected : srv.handle (.socket (.disconnected t)) = _ := h.onDisconnected_eq
      rw [hdisconnected]
      exact ⟨h.modifySocket_left fun socket => { socket with phase := .disconnected }, hsilent⟩
    | closed t =>
      obtain rfl : t = s := beq_iff_eq.mp he
      exact ⟨h.modifySocket_left fun socket => { socket with isOpen := false }, hsilent⟩
    | deleted t =>
      obtain rfl : t = s := beq_iff_eq.mp he
      exact ⟨h.modifySocket_left fun socket => { socket with phase := .deleted }, hsilent⟩
  -- the other events are about no socket
  | launch | relaunch | removeProcess => cases he

/-! ## The events of the others

Each method gives the same outputs in both servers, and again two servers that differ in `s` only.
The lemmas follow the order of the methods. -/

/-- Another socket is open in both servers, or in neither. -/
theorem usable_eq (h : SameBut s srv { srv with sockets }) (ht : t ≠ s) :
    IpcServer.usable { srv with sockets } t = srv.usable t := by
  rw [IpcServer.usable, h.socket t ht]
  rfl

/-- Another socket has the same pid in both servers. -/
theorem processId_eq (h : SameBut s srv { srv with sockets }) (ht : t ≠ s) :
    IpcServer.processId { srv with sockets } t = srv.processId t := by
  rw [IpcServer.processId, h.socket t ht]
  rfl

/-- Another socket may be changed on both sides. -/
theorem insert (h : SameBut s srv { srv with sockets }) (x : LocalSocket) :
    ∀ u, u ≠ s → (sockets.insert t x)[u]?.getD {} = (srv.sockets.insert t x)[u]?.getD {} := by
  intro u hu
  have hsocket : sockets[u]?.getD {} = srv.socket u := h.socket u hu
  rw [IpcServer.socket_insert, QMap.getElem?_insert]
  split
  · rfl
  · exact hsocket

/-- The change of another socket is the same in both. -/
theorem modifySocket (h : SameBut s srv { srv with sockets }) (ht : t ≠ s)
    (f : LocalSocket → LocalSocket) :
    SameBut s (srv.modifySocket t f) (IpcServer.modifySocket { srv with sockets } t f) where
  rest := rfl
  socket := by
    rw [IpcServer.modifySocket, h.socket t ht]
    exact h.insert _
  notClient := h.notClient
  notRunning := h.notRunning

/-- If another socket disconnects, it leaves the pool and the applications of both. -/
theorem onDisconnected (h : SameBut s srv { srv with sockets }) (ht : t ≠ s) :
    Alike s (srv.onDisconnected t) (IpcServer.onDisconnected { srv with sockets } t) := by
  refine ⟨⟨rfl, ?_, fun hs => h.notClient (List.mem_of_mem_erase hs), fun appId hs =>
    h.notRunning appId (QMap.getElem?_of_eraseFirst hs)⟩, rfl⟩
  exact (h.modifySocket ht fun socket => { socket with phase := .disconnected }).socket

/-- A request goes to the same runner. -/
theorem place (h : SameBut s srv { srv with sockets }) (ht : t ≠ s) (message : Message κ)
    {clients : List SocketId} (hclients : s ∉ clients) :
    SameBut s (srv.place message t clients)
      (IpcServer.place { srv with sockets } message t clients) where
  rest := by
    simp only [IpcServer.place, h.processId_eq ht]
  socket := by
    show ∀ u, u ≠ s → (sockets.insert t
      { IpcServer.socket { srv with sockets } t with appId := some message.appId })[u]?.getD {} = _
    rw [h.socket t ht]
    exact h.insert _
  notClient := hclients
  notRunning appId := by
    show (srv.runningSockets.insert message.appId t)[appId]? ≠ some s
    rw [QMap.getElem?_insert]
    split
    · exact fun hs => ht (Option.some.inj hs)
    · exact h.notRunning appId

/-- The loop finds the same runner, as `s` is not in the pool. By induction on the pool. -/
theorem launchFrom (h : SameBut s srv { srv with sockets }) (message : Message κ) (now : Int)
    {clients : List SocketId} (hclients : s ∉ clients) :
    Alike s (srv.launchFrom message now clients)
      (IpcServer.launchFrom { srv with sockets } message now clients) := by
  induction clients with
  | nil => exact ⟨⟨rfl, h.socket, List.not_mem_nil, h.notRunning⟩, rfl⟩
  | cons t clients ih =>
    have ht : t ≠ s := fun hts => hclients (hts ▸ List.mem_cons_self)
    have hrest : s ∉ clients := fun hs => hclients (List.mem_cons_of_mem t hs)
    rw [IpcServer.launchFrom, IpcServer.launchFrom, h.usable_eq ht]
    split
    · exact ⟨h.place ht message hrest, rfl⟩
    · obtain ⟨hsame, houtputs⟩ := ih hrest
      exact ⟨hsame, congrArg (_ :: ·) houtputs⟩

/-- Another runner registers with both. -/
theorem enrol (h : SameBut s srv { srv with sockets }) (ht : t ≠ s) (processId : Int) :
    SameBut s (srv.enrol t processId) (IpcServer.enrol { srv with sockets } t processId) where
  rest := rfl
  socket := by
    show ∀ u, u ≠ s → (sockets.insert t
      { IpcServer.socket { srv with sockets } t with pid := some processId })[u]?.getD {} = _
    rw [h.socket t ht]
    exact h.insert _
  notClient hs := by
    rcases List.mem_append.mp hs with hs | hs
    · exact h.notClient hs
    · exact ht (List.mem_singleton.mp hs).symm
  notRunning := h.notRunning

/-- Its registration may be followed by a launch, which is the same in both. The pool is the same in
both, and so is the head of the queue. -/
theorem readRegisterRequest (h : SameBut s srv { srv with sockets }) (ht : t ≠ s)
    (message : QJsonObject) (now : Int) :
    Alike s (srv.readRegisterRequest t message now)
      (IpcServer.readRegisterRequest { srv with sockets } t message now) := by
  unfold IpcServer.readRegisterRequest
  by_cases hpid : registeredPid message = 0
  · rw [if_pos hpid, if_pos hpid]
    exact ⟨h, rfl⟩
  · rw [if_neg hpid, if_neg hpid]
    have henrol := h.enrol ht (registeredPid message)
    have hdeferred : (IpcServer.enrol { srv with sockets } t
        (registeredPid message)).deferredMessages = srv.deferredMessages := rfl
    have hdeferred' : (srv.enrol t (registeredPid message)).deferredMessages =
        srv.deferredMessages := rfl
    by_cases hnil : srv.deferredMessages = []
    · simp only [hdeferred.trans hnil, hdeferred'.trans hnil]
      exact ⟨henrol, rfl⟩
    · obtain ⟨deferred, rest, hcons⟩ := List.exists_cons_of_ne_nil hnil
      have hpopped : SameBut s
          { srv.enrol t (registeredPid message) with deferredMessages := rest }
          { IpcServer.enrol { srv with sockets } t (registeredPid message) with
            deferredMessages := rest } :=
        ⟨rfl, henrol.socket, henrol.notClient, henrol.notRunning⟩
      obtain ⟨hsame, houtputs⟩ := launchFrom hpopped deferred now hpopped.notClient
      simp only [hdeferred.trans hcons, hdeferred'.trans hcons]
      exact ⟨hsame, congrArg (_ ++ ·) houtputs⟩

/-- A reply is about a pid and an application, which are the same. -/
theorem readReplies (h : SameBut s srv { srv with sockets }) (ht : t ≠ s)
    (message : QJsonObject) :
    Alike s (srv.readLaunchReply t message)
        (IpcServer.readLaunchReply { srv with sockets } t message) ∧
      Alike s (srv.readRelaunchReply t message)
        (IpcServer.readRelaunchReply { srv with sockets } t message) := by
  unfold IpcServer.readLaunchReply IpcServer.readRelaunchReply
  rw [h.processId_eq ht, h.socket t ht]
  refine ⟨?_, ⟨rfl, h.socket, h.notClient, h.notRunning⟩, rfl⟩
  dsimp only
  by_cases hcode : errorCode message ≠ 0
  · rw [if_pos hcode, if_pos hcode]
    exact ⟨⟨rfl, h.socket, h.notClient, h.notRunning⟩, rfl⟩
  · rw [if_neg hcode, if_neg hcode]
    exact ⟨⟨rfl, h.socket, h.notClient, h.notRunning⟩, rfl⟩

/-- A message from another socket is taken for the same in both, whatever it is. -/
theorem readSocket (h : SameBut s srv { srv with sockets }) (ht : t ≠ s)
    (message : QJsonObject) (now : Int) :
    Alike s (srv.readSocket t message now)
      (IpcServer.readSocket { srv with sockets } t message now) := by
  unfold IpcServer.readSocket
  split
  · exact ⟨h, rfl⟩
  · split
    · exact h.readRegisterRequest ht message now
    · exact (h.readReplies ht message).1
    · exact (h.readReplies ht message).2
    · exact ⟨h, rfl⟩

/-- An application leads to the same runner. -/
theorem relaunch (h : SameBut s srv { srv with sockets }) (appId : String) (params : QJsonObject)
    (callback : Option κ) (now : Int) :
    Alike s (srv.relaunch appId params callback now).2
      (IpcServer.relaunch { srv with sockets } appId params callback now).2 := by
  unfold IpcServer.relaunch
  cases hsocket : srv.runningSockets[appId]? with
  | none => exact ⟨h, rfl⟩
  | some t =>
    have ht : t ≠ s := fun hts => h.notRunning appId (hts ▸ hsocket)
    dsimp only
    rw [h.usable_eq ht, h.processId_eq ht]
    split
    · exact ⟨⟨rfl, h.socket, h.notClient, h.notRunning⟩, rfl⟩
    · exact ⟨h, rfl⟩

/-- An event that is not about `s` has the same outcome on both sides. -/
theorem handle (h : SameBut s srv { srv with sockets }) {e : ServerEvent κ}
    (he : e.concerns s = false) :
    Alike s (srv.handle e) (IpcServer.handle { srv with sockets } e) := by
  cases e with
  | socket e =>
    have ht : e.socket ≠ s := beq_eq_false_iff_ne.mp he
    cases e with
    | newConnection t =>
      exact ⟨h.modifySocket ht fun _ => { phase := .connected, isOpen := true }, rfl⟩
    | readSocket t message now => exact h.readSocket ht message now
    | disconnected t => exact h.onDisconnected ht
    | closed t =>
      exact ⟨h.modifySocket ht fun socket => { socket with isOpen := false }, rfl⟩
    | deleted t =>
      exact ⟨h.modifySocket ht fun socket => { socket with phase := .deleted }, rfl⟩
  | launch message now => exact h.launchFrom message now h.notClient
  | relaunch appId params callback now => exact h.relaunch appId params callback now
  | removeProcess processId => exact ⟨⟨rfl, h.socket, h.notClient, h.notRunning⟩, rfl⟩

end SameBut

/-- **Nobody notices a socket that sends nothing.** -/
theorem strangers_unnoticed {s : SocketId} {es : List (ServerEvent κ)}
    (hes : ∀ e ∈ es, e.Unparsed s) :
    SameBut s ((ipcServer κ).run (.init {}) es).state
        ((ipcServer κ).run (.init {}) (es.filter (!ServerEvent.concerns s ·))).state ∧
      ((ipcServer κ).run (.init {}) es).outputs.filter (!Output.disconnects s ·) =
        ((ipcServer κ).run (.init {})
          (es.filter (!ServerEvent.concerns s ·))).outputs.filter (!Output.disconnects s ·) := by
  have hshare {srv srv' : IpcServer κ} (h : SameBut s srv srv') :
      ∃ sockets, srv' = { srv with sockets } := ⟨srv'.sockets, h.rest⟩
  refine Machine.run_filter (E := (·.Unparsed s)) ?_ ?_ SameBut.init rfl hes
  · intro srv srv' e h hunparsed he
    obtain ⟨sockets, rfl⟩ := hshare h
    exact h.handle_left hunparsed he
  · intro srv srv' e h _ he
    obtain ⟨sockets, rfl⟩ := hshare h
    exact h.handle he

end Booster
