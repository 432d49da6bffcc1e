import WebosFramework.Qt.Json
import WebosFramework.Qt.Containers
import WebosFramework.Lib.EventLoop

/-!
# The booster's end of the runner protocol

`IpcServer` of `tools/booster/ipcserver.{h,cpp}`: the pool of registered runners, the launch
requests that wait for one, and what is known about the applications that run. Its handlers are pure
functions from a state to a state and the list of what they did to the outside, in order.

* `LocalSocket` is a `QLocalSocket` as the server sees it. `isOpen` and `phase` belong to Qt: a
  socket may stop being open at any moment, long before its `disconnected` signal is handled, and a
  socket whose deferred delete has run makes every `QPointer` to it null.
* The callback type is a parameter `κ`. A `std::function` may be empty, so a stored callback is an
  `Option κ`.
* The clock is an argument, because the messages carry the call time.

`ServerEvent` lists what the event loop and the other objects can do to a server, and `ipcServer` is
the machine of its handlers.

Emitted signals are outputs, in the order in which they are emitted. The slots that they run are
those of the launch manager; `Main` connects the two.
-/

namespace Booster

open Qt EventLoop

/-! ## Messages

A message is a JSON object, and its type is the number in the member `header`. The requests of the
server are an inductive type, with the document that goes on the wire. -/

/-- `IpcMessageType` of `tools/common/ipccommon.h`, in the order of its values. -/
inductive IpcMessageType where
  | registerRequest
  | launchRequest
  | launchReply
  | relaunchRequest
  | relaunchReply
  deriving DecidableEq

namespace IpcMessageType

/-- The number that stands for the type in the member `header`. -/
def toInt : IpcMessageType → Int
  | registerRequest => 0
  | launchRequest => 1
  | launchReply => 2
  | relaunchRequest => 3
  | relaunchReply => 4

/-- The type that a number stands for. There is none for any other number. -/
def ofInt : Int → Option IpcMessageType
  | 0 => some registerRequest
  | 1 => some launchRequest
  | 2 => some launchReply
  | 3 => some relaunchRequest
  | 4 => some relaunchReply
  | _ => none

@[simp] theorem ofInt_toInt (t : IpcMessageType) : ofInt t.toInt = some t := by
  cases t <;> rfl

end IpcMessageType

/-- The case a `switch (header)` takes on a message. -/
def header (message : QJsonObject) : Option IpcMessageType :=
  IpcMessageType.ofInt ((message.value "header").toInt (-1))

/-- An empty message takes no case. -/
theorem header_of_isEmpty {message : QJsonObject} (h : message.isEmpty = true) :
    header message = none := by
  obtain ⟨members⟩ := message
  cases members with
  | nil => rfl
  | cons => cases h

/-- What a reply says about the request; 0 stands for success, and for a reply without the member.
-/
def errorCode (message : QJsonObject) : Int := (message.value "errorCode").toInt 0

/-- The pid a REGISTER_REQUEST carries. -/
def registeredPid (message : QJsonObject) : Int := (message.value "pid").toInt64

/-- `IpcServer::Message`, a launch request. -/
structure Message (κ : Type) where
  appId : String
  mainQml : String
  params : QJsonObject
  callback : Option κ

/-- What the server writes to a runner, with the callback it then waits to call. -/
inductive Request (κ : Type) where
  | launch (message : Message κ) (callTime : Int)
  | relaunch (params : QJsonObject) (callTime : Int) (callback : Option κ)

namespace Request

variable {κ : Type}

/-- The document on the wire. -/
def toJson : Request κ → QJsonObject
  | launch message callTime =>
    ((((({} : QJsonObject).insert "header" (.ofInt IpcMessageType.launchRequest.toInt)).insert
      "appId" (.string message.appId)).insert
      "mainQml" (.string message.mainQml)).insert
      "params" (.object message.params.members)).insert
      "callTime" (.ofInt callTime)
  | relaunch params callTime _ =>
    ((({} : QJsonObject).insert "header" (.ofInt IpcMessageType.relaunchRequest.toInt)).insert
      "params" (.object params.members)).insert
      "callTime" (.ofInt callTime)

/-- The callback that is called with the reply. -/
def callback : Request κ → Option κ
  | launch message _ => message.callback
  | relaunch _ _ callback => callback

end Request

/-! ## Sockets

Qt's side of a socket is its phase; the server's side are the two dynamic properties that it sets.
-/

/-- Sockets are told apart by their addresses. -/
abbrev SocketId := Nat

/-- How far a socket has come. It goes through the phases in their order. -/
inductive SocketPhase where
  /-- No socket of this address has been handed out. -/
  | absent
  | connected
  /-- `disconnected` has been handled; the deferred delete has not run. -/
  | disconnected
  | deleted
  deriving DecidableEq

/-- A socket, with the two properties that the server sets on it. -/
structure LocalSocket where
  phase : SocketPhase := .absent
  isOpen : Bool := false
  /-- The dynamic property "pid". -/
  pid : Option Int := none
  /-- The dynamic property "appId". -/
  appId : Option String := none

/-! ## The server

The members, and the methods in the order of the source. A method that emits signals or writes to
a socket returns the list of these outputs next to the new state. -/

/-- The members of the server, without the prefix `m_`. A map that leads to sockets holds
`QPointer`s, so that what it leads to may be gone. -/
structure IpcServer (κ : Type) where
  /-- The sockets `m_server` has handed out. -/
  sockets : QMap SocketId LocalSocket := ∅
  /-- The pool: runners that have registered and have not been launched. -/
  runnerClients : List SocketId := []
  /-- Launch requests that have found no runner. -/
  deferredMessages : List (Message κ) := []
  runningSockets : QMap String SocketId := ∅
  runningApps : QMap String Int := ∅
  /-- The other direction of `runningApps`. -/
  runningProcesses : QMap Int String := ∅
  /-- What is called with the reply of the process. -/
  launchCallbacks : QMap Int (Option κ) := ∅

/-- What a handler does to the outside: the signals it emits, what it writes to a socket, and the
callbacks that it calls. -/
inductive Output (κ : Type) where
  | connectedRunnersCountChanged (count : Nat)
  | runnerRegistered (processId : Int)
  | runnerLaunched (processId : Int) (appId : String)
  | write (socket : SocketId) (request : Request κ)
  | disconnectFromServer (socket : SocketId)
  /-- A stored callback is called. -/
  | called (callback : κ) (pid : Int)

namespace IpcServer

variable {κ : Type}

/-- The socket of an address. One that has not been handed out is `absent`. -/
def socket (srv : IpcServer κ) (s : SocketId) : LocalSocket := srv.sockets[s]?.getD {}

/-- A property of a socket is set. -/
def modifySocket (srv : IpcServer κ) (s : SocketId) (f : LocalSocket → LocalSocket) :
    IpcServer κ :=
  { srv with sockets := srv.sockets.insert s (f (srv.socket s)) }

/-- `socket && socket->isOpen()` on a `QPointer`. -/
def usable (srv : IpcServer κ) (s : SocketId) : Bool :=
  (srv.socket s).phase != .deleted && (srv.socket s).isOpen

/-- `socket->property("pid").value<qint64>()` -/
def processId (srv : IpcServer κ) (s : SocketId) : Int := (srv.socket s).pid.getD 0

/-- The number of runners in the pool. -/
def connectedRunnersCount (srv : IpcServer κ) : Nat := srv.runnerClients.length

/-- `setupConnection`, once for each connection that is pending. -/
def setupConnection (srv : IpcServer κ) (s : SocketId) : IpcServer κ :=
  srv.modifySocket s fun _ => { phase := .connected, isOpen := true }

/-- `onDisconnected`. The runner leaves the pool, and the first application in the order of the
keys that leads to it leaves `m_runningSockets`. The deferred delete comes later, as an event of
its own. -/
def onDisconnected (srv : IpcServer κ) (s : SocketId) : IpcServer κ × List (Output κ) :=
  let clients := srv.runnerClients.erase s
  let srv' :=
    { srv with
      runnerClients := clients
      runningSockets := srv.runningSockets.eraseFirst (· == s) }
  (srv'.modifySocket s fun socket => { socket with phase := .disconnected },
    if s ∈ srv.runnerClients then [.connectedRunnersCountChanged clients.length] else [])

/-- The body of the loop in `launch`, for a socket that is open: the request goes to `s`, and
`clients` stay in the pool. -/
def place (srv : IpcServer κ) (message : Message κ) (s : SocketId) (clients : List SocketId) :
    IpcServer κ :=
  { srv with
    sockets := srv.sockets.insert s { srv.socket s with appId := some message.appId }
    runnerClients := clients
    runningSockets := srv.runningSockets.insert message.appId s
    launchCallbacks := srv.launchCallbacks.insert (srv.processId s) message.callback }

/-- `while (!m_runnerClients.isEmpty())` of `launch`, and the lines behind it. -/
def launchFrom (srv : IpcServer κ) (message : Message κ) (now : Int) :
    List SocketId → IpcServer κ × List (Output κ)
  | [] =>
    ({ srv with
        runnerClients := []
        deferredMessages := srv.deferredMessages ++ [message] },
      [.connectedRunnersCountChanged 0])
  | s :: clients =>
    if srv.usable s then
      (srv.place message s clients,
        [.connectedRunnersCountChanged clients.length, .write s (.launch message now)])
    else
      -- a socket that is null or not open leaves the pool without a request
      let next := launchFrom srv message now clients
      (next.1, .connectedRunnersCountChanged clients.length :: next.2)

/-- `launch`: the request goes to the first runner of the pool that is open, or waits for the next
one. -/
def launch (srv : IpcServer κ) (message : Message κ) (now : Int) :
    IpcServer κ × List (Output κ) :=
  srv.launchFrom message now srv.runnerClients

/-- `relaunch`; the flag is its result. -/
def relaunch (srv : IpcServer κ) (appId : String) (params : QJsonObject) (callback : Option κ)
    (now : Int) : Bool × IpcServer κ × List (Output κ) :=
  match srv.runningSockets[appId]? with
  | some s =>
    if srv.usable s then
      -- a callback that still waits under this pid is overwritten
      (true,
        { srv with launchCallbacks := srv.launchCallbacks.insert (srv.processId s) callback },
        [.write s (.relaunch params now callback)])
    else (false, srv, [])
  | none => (false, srv, [])

/-- `removeProcess`, which the service calls for a process that is gone. -/
def removeProcess (srv : IpcServer κ) (processId : Int) : IpcServer κ :=
  let appId := srv.runningProcesses[processId]?.getD ""
  { srv with
    runningProcesses := srv.runningProcesses.erase processId
    -- a new process may have been started for this appId
    runningApps :=
      if srv.runningApps[appId]?.getD 0 = processId then srv.runningApps.erase appId
      else srv.runningApps }

/-! ## `readSocket`, one case of the switch at a time

The parsed message decides the case. Each case is a definition of its own, so that the proofs
about it need not look at the others. -/

/-- The runner of `s` joins the pool. -/
def enrol (srv : IpcServer κ) (s : SocketId) (processId : Int) : IpcServer κ :=
  { srv with
    sockets := srv.sockets.insert s { srv.socket s with pid := some processId }
    runnerClients := srv.runnerClients ++ [s] }

/-- `case REGISTER_REQUEST`. One request that has been deferred is launched with the runner that
is new. -/
def readRegisterRequest (srv : IpcServer κ) (s : SocketId) (message : QJsonObject) (now : Int) :
    IpcServer κ × List (Output κ) :=
  let processId := registeredPid message
  if processId = 0 then (srv, [.disconnectFromServer s])
  else
    let srv' := srv.enrol s processId
    let signals : List (Output κ) :=
      [.runnerRegistered processId, .connectedRunnersCountChanged srv'.runnerClients.length]
    match srv'.deferredMessages with
    | [] => (srv', signals)
    | deferred :: rest =>
      -- the pool is not empty, but its sockets may not be open: then `deferred` goes to the tail
      let next := { srv' with deferredMessages := rest }.launch deferred now
      (next.1, signals ++ next.2)

/-- `m_launchCallbacks.take(processId)`, the callback. -/
def launchCallback (srv : IpcServer κ) (processId : Int) : Option κ :=
  srv.launchCallbacks[processId]?.join

/-- `m_launchCallbacks.take(processId)`, the server without it. -/
def dropCallback (srv : IpcServer κ) (processId : Int) : IpcServer κ :=
  { srv with launchCallbacks := srv.launchCallbacks.erase processId }

/-- `if (callback) callback(pid)` -/
def call (callback : Option κ) (pid : Int) : List (Output κ) :=
  callback.toList.map (.called · pid)

/-- `case LAUNCH_REPLY`. The application runs from now on, if it could be loaded. -/
def readLaunchReply (srv : IpcServer κ) (s : SocketId) (message : QJsonObject) :
    IpcServer κ × List (Output κ) :=
  let processId := srv.processId s
  let appId := (srv.socket s).appId.getD ""
  let callback := srv.launchCallback processId
  let srv' := srv.dropCallback processId
  if errorCode message ≠ 0 then (srv', call callback 0)
  else
    ({ srv' with
        runningApps := srv'.runningApps.insert appId processId
        runningProcesses := srv'.runningProcesses.insert processId appId },
      .runnerLaunched processId appId :: call callback processId)

/-- `case RELAUNCH_REPLY`. -/
def readRelaunchReply (srv : IpcServer κ) (s : SocketId) (message : QJsonObject) :
    IpcServer κ × List (Output κ) :=
  let processId := srv.processId s
  let callback := srv.launchCallback processId
  (srv.dropCallback processId,
    if errorCode message ≠ 0 then call callback 0 else call callback processId)

/-- `readSocket` from the parsed message on. A block that cannot be parsed has the empty message. -/
def readSocket (srv : IpcServer κ) (s : SocketId) (message : QJsonObject) (now : Int) :
    IpcServer κ × List (Output κ) :=
  if message.isEmpty then (srv, [.disconnectFromServer s])
  else
    match header message with
    | some .registerRequest => srv.readRegisterRequest s message now
    | some .launchReply => srv.readLaunchReply s message
    | some .relaunchReply => srv.readRelaunchReply s message
    | _ => (srv, [])

end IpcServer

/-! ## Events

A server only changes when an event is handled. Its machine has one constructor for each of them. -/

/-- What the event loop does to the sockets of a server. `closed` and `deleted` are not handled by
the server; they are Qt's own changes to a socket. -/
inductive SocketEvent where
  | newConnection (s : SocketId)
  | readSocket (s : SocketId) (message : QJsonObject) (now : Int)
  | disconnected (s : SocketId)
  | closed (s : SocketId)
  | deleted (s : SocketId)

/-- What the server reacts to: its sockets, and the calls of the bus service and of the launch
manager. -/
inductive ServerEvent (κ : Type) where
  | socket (e : SocketEvent)
  | launch (message : Message κ) (now : Int)
  | relaunch (appId : String) (params : QJsonObject) (callback : Option κ) (now : Int)
  | removeProcess (processId : Int)

namespace IpcServer

variable {κ : Type}

/-- What the event loop does, handled. -/
def onSocketEvent (srv : IpcServer κ) : SocketEvent → IpcServer κ × List (Output κ)
  | .newConnection s => (srv.setupConnection s, [])
  | .readSocket s message now => srv.readSocket s message now
  | .disconnected s => srv.onDisconnected s
  | .closed s => (srv.modifySocket s fun socket => { socket with isOpen := false }, [])
  | .deleted s => (srv.modifySocket s fun socket => { socket with phase := .deleted }, [])

/-- The handler of each event. -/
def handle (srv : IpcServer κ) : ServerEvent κ → IpcServer κ × List (Output κ)
  | .socket e => srv.onSocketEvent e
  | .launch message now => srv.launch message now
  | .relaunch appId params callback now => (srv.relaunch appId params callback now).2
  | .removeProcess processId => (srv.removeProcess processId, [])

end IpcServer

/-- A server reacting to one event after the other. -/
def ipcServer (κ : Type) : Machine (IpcServer κ) (ServerEvent κ) (Output κ) where
  handle := IpcServer.handle

/-- A server, the events so far, and what they have made it do. -/
abbrev ServerHistory (κ : Type) := History (IpcServer κ) (ServerEvent κ) (Output κ)

end Booster
