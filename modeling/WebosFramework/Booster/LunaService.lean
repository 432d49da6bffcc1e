import WebosFramework.Booster.IpcServer

/-!
# The bus service

`LunaService` of `tools/booster/lunaservice.{h,cpp}`: what it answers to a message on the bus and
what it asks of the server and the launch manager. The service has no state of its own; it reads
`m_runningApps`.

* A message is known by its token. Its payload is `none` where `QJsonDocument::isObject` is false.
* The two lambdas that `launch` passes to the server are the two constructors of `LaunchCallback`.
* `fromJson` stands for `QJsonDocument::fromJson(..).object()`, the parser of Qt.

What `launch` asks of the server is one of its events, or a reply is sent at once; `launch_error`
and `launch_ok` say which.
-/

namespace Booster

open Qt

/-- A message on the bus, which is answered by its token. -/
structure LunaServiceMessage where
  token : Nat
  /-- The object in the message, if there is one. -/
  payload : Option QJsonObject

/-- What the server calls when a runner has replied. -/
inductive LaunchCallback where
  | launched (appId : String) (msg : LunaServiceMessage)
  | relaunched (appId : String) (msg : LunaServiceMessage)

namespace LaunchCallback

/-- The message the callback answers. -/
def msg : LaunchCallback → LunaServiceMessage
  | launched _ msg => msg
  | relaunched _ msg => msg

end LaunchCallback

/-- What the service sends to the bus. -/
inductive BusOutput where
  /-- The answer to a message. -/
  | respond (msg : LunaServiceMessage) (reply : QJsonObject)
  /-- The sender of the message is going to be told about changes. -/
  | subscribeAdd (msg : LunaServiceMessage) (key : String)
  /-- What all those are told. -/
  | subscribesReply (reply : QJsonObject) (key : String)
  /-- The signal `processFinished`. -/
  | processFinished (params : QJsonObject)

namespace LunaService

/-- `replyError`: the answer to a request that cannot be met. -/
def replyError (msg : LunaServiceMessage) (message : String) : BusOutput :=
  .respond msg
    (((({} : QJsonObject).insert "returnValue" (.bool false)).insert
      "errorCode" (.ofInt (-1))).insert
      "errorText" (.string message))

/-- `replyMsg`: the answer to one that has been met. -/
def replyMsg (msg : LunaServiceMessage) (appId : String) (pid : Int) : BusOutput :=
  .respond msg
    (((({} : QJsonObject).insert "returnValue" (.bool true)).insert
      "appId" (.string appId)).insert
      "pid" (.ofInt pid))

/-- `getRunningList`, in the order of the keys of the map. -/
def getRunningList (runningApps : QMap String Int) : QJsonObject :=
  let running := runningApps.toList.map fun entry =>
    QJsonValue.object
      ((({} : QJsonObject).insert "appId" (.string entry.1)).insert "pid" (.ofInt entry.2)).members
  (({} : QJsonObject).insert "returnValue" (.bool true)).insert "running" (.array running)

/-- `update`. The first response has a member more. -/
def update (runningApps : QMap String Int) (firstResponce : Bool) : BusOutput :=
  let reply := getRunningList runningApps
  .subscribesReply (if firstResponce then reply.insert "subscribed" (.bool true) else reply)
    "/booster/running"

/-- `runningApps().value(appId)` -/
def runningPid (runningApps : QMap String Int) (appId : String) : Int :=
  runningApps[appId]?.getD 0

/-- A callback is run: what goes out on the bus. -/
def answer (runningApps : QMap String Int) (pid : Int) : LaunchCallback → List BusOutput
  | .launched appId msg =>
    if pid = 0 then [replyError msg "Launching qml-runner failed."]
    else [replyMsg msg appId pid, update runningApps false]
  | .relaunched appId msg =>
    if pid ≠ 0 then [replyMsg msg appId pid, update runningApps false]
    else [replyError msg ("Reaunching QML App " ++ appId ++ " failed.")]

/-- `appParams` of `launch`: the parameters, which may be serialised twice. -/
def appParams (fromJson : String → QJsonObject) (params : QJsonValue) : QJsonObject :=
  match params with
  | .string s => fromJson s
  | _ => params.toObject

/-- `launch`: the reply to a message without an object, or the slot of the server it calls. -/
def launch (fromJson : String → QJsonObject) (runningApps : QMap String Int)
    (msg : LunaServiceMessage) (now : Int) : Except BusOutput (ServerEvent LaunchCallback) :=
  match msg.payload with
  | none => .error (replyError msg "Invalid message payload")
  | some obj =>
    let appId := (obj.value "appId").toString
    let mainQml := (obj.value "main").toString
    let params := appParams fromJson (obj.value "params")
    if runningPid runningApps appId ≠ 0 then
      .ok (.relaunch appId params (some (.relaunched appId msg)) now)
    else .ok (.launch ⟨appId, mainQml, params, some (.launched appId msg)⟩ now)

/-- `close`: the reply, and the process that is asked to end. -/
def close (runningApps : QMap String Int) (msg : LunaServiceMessage) : BusOutput × Option Int :=
  match msg.payload with
  | none => (replyError msg "Malformend JSON document.", none)
  | some obj =>
    let appId := (obj.value "appId").toString
    if appId = "" then (replyError msg "The appId is not set.", none)
    else
      let pid := runningPid runningApps appId
      if pid = 0 then (replyError msg ("The is no process for " ++ appId), none)
      else (replyMsg msg appId pid, some pid)

/-- `running`: the list, and whether it is wanted again when it changes. -/
def running (runningApps : QMap String Int) (msg : LunaServiceMessage) : List BusOutput :=
  let subscribe := (msg.payload.map fun obj => (obj.value "subscribe").toBool).getD false
  if subscribe then [.subscribeAdd msg "/booster/running", update runningApps true]
  else [.respond msg (getRunningList runningApps)]

/-- Only a message without an object is refused. -/
theorem launch_error {fromJson : String → QJsonObject} {runningApps : QMap String Int}
    {msg : LunaServiceMessage} {now : Int} {reply : BusOutput}
    (h : launch fromJson runningApps msg now = .error reply) :
    msg.payload = none ∧ reply = replyError msg "Invalid message payload" := by
  unfold launch at h
  split at h
  · rename_i hpayload
    cases h
    exact ⟨hpayload, rfl⟩
  · dsimp only at h
    split at h <;> cases h

/-- The launch request of a message: its callback answers the message. It is a relaunch if the
application is listed with a pid, and a launch otherwise. -/
theorem launch_ok {fromJson : String → QJsonObject} {runningApps : QMap String Int}
    {msg : LunaServiceMessage} {now : Int} {e : ServerEvent LaunchCallback}
    (h : launch fromJson runningApps msg now = .ok e) :
    ∃ obj, msg.payload = some obj ∧
      ((runningPid runningApps (obj.value "appId").toString ≠ 0 ∧
          e = .relaunch (obj.value "appId").toString (appParams fromJson (obj.value "params"))
            (some (.relaunched (obj.value "appId").toString msg)) now) ∨
        (runningPid runningApps (obj.value "appId").toString = 0 ∧
          e = .launch ⟨(obj.value "appId").toString, (obj.value "main").toString,
            appParams fromJson (obj.value "params"),
            some (.launched (obj.value "appId").toString msg)⟩ now)) := by
  unfold launch at h
  split at h
  · cases h
  · rename_i obj hobj
    refine ⟨obj, hobj, ?_⟩
    dsimp only at h
    split at h
    · rename_i hpid
      cases h
      exact .inl ⟨hpid, rfl⟩
    · rename_i hpid
      cases h
      exact .inr ⟨not_not.mp hpid, rfl⟩

end LunaService

end Booster
