import WebosFramework.Booster.IpcServer

/-!
# The runner's end of the runner protocol

`IpcClient` of `tools/runner/ipcclient.{h,cpp}` and the two lambdas of `tools/runner/main.cpp` that
answer it: the messages a runner sends, and what it does with the messages it receives. Loading and
reloading the QML application is not modelled; the result of it is an argument.

What a message is taken for depends on its header only (`header_insert`), so that the replies of a
runner are told apart whatever else they carry.
-/

namespace Booster

open Qt

namespace IpcClient

/-! ## What a runner sends

The four messages of `tools/runner`, and what the server makes of each: its type, the pid in it
and whether it reports a failure. -/

/-- `register_msg` of `connectToServer`. -/
def registerRequest (pid : Int) : QJsonObject :=
  (({} : QJsonObject).insert "header" (.ofInt IpcMessageType.registerRequest.toInt)).insert
    "pid" (.ofInt pid)

/-- The three members of a reply that reports a failure. -/
def insertError (reply : QJsonObject) (errorText : String) : QJsonObject :=
  ((reply.insert "returnValue" (.bool false)).insert
    "errorCode" (.ofInt (-1))).insert
    "errorText" (.string errorText)

/-- The reply to a LAUNCH_REQUEST; `loaded` is the result of `loadApplication`. -/
def launchReply (mainQml : String) (loaded : Bool) : QJsonObject :=
  let reply := ({} : QJsonObject).insert "header" (.ofInt IpcMessageType.launchReply.toInt)
  if loaded then reply.insert "returnValue" (.bool true)
  else insertError reply ("Failed to load qml file " ++ mainQml)

/-- The reply to a RELAUNCH_REQUEST; `ready` is `loader.ready()`. -/
def relaunchReply (ready : Bool) : QJsonObject :=
  let reply := ({} : QJsonObject).insert "header" (.ofInt IpcMessageType.relaunchReply.toInt)
  if ready then reply.insert "returnValue" (.bool true)
  else insertError reply "Failed to reload qml app: Component is not loaded,"

@[simp] theorem header_insert (o : QJsonObject) (k : String) (v : QJsonValue)
    (hk : k ≠ "header") : header (o.insert k v) = header o := by
  simp [header, QJsonObject.value_insert, hk.symm]

/-- A message is of the type that was put into it last. -/
theorem header_insert_header (o : QJsonObject) (t : IpcMessageType) :
    header (o.insert "header" (.ofInt t.toInt)) = some t := by
  rw [header, QJsonObject.value_insert, if_pos rfl, QJsonValue.toInt_ofInt]
  · exact IpcMessageType.ofInt_toInt t
  · cases t <;> decide
  · cases t <;> decide

@[simp] theorem header_registerRequest (pid : Int) :
    header (registerRequest pid) = some .registerRequest := by
  rw [registerRequest, header_insert _ _ _ (by decide)]
  exact header_insert_header _ _

/-- The pid arrives as it was sent. -/
@[simp] theorem registeredPid_registerRequest (pid : Int) :
    registeredPid (registerRequest pid) = pid := by
  rw [registeredPid, registerRequest, QJsonObject.value_insert, if_pos rfl,
    QJsonValue.toInt64_ofInt]

@[simp] theorem header_launchReply (mainQml : String) (loaded : Bool) :
    header (launchReply mainQml loaded) = some .launchReply := by
  cases loaded <;> simp [launchReply, insertError, header_insert_header]

@[simp] theorem header_relaunchReply (ready : Bool) :
    header (relaunchReply ready) = some .relaunchReply := by
  cases ready <;> simp [relaunchReply, insertError, header_insert_header]

/-- The server takes a reply for a failure exactly when the runner reports one. -/
theorem errorCode_launchReply (mainQml : String) (loaded : Bool) :
    errorCode (launchReply mainQml loaded) = if loaded then 0 else -1 := by
  cases loaded
  · have herror := QJsonValue.toInt_ofInt (n := -1) (by decide) (by decide) 0
    simpa [errorCode, launchReply, insertError, QJsonObject.value_insert] using herror
  · simp [errorCode, launchReply, QJsonObject.value_insert]

/-- A runner without a window refuses to be relaunched. -/
theorem errorCode_relaunchReply (ready : Bool) :
    errorCode (relaunchReply ready) = if ready then 0 else -1 := by
  cases ready
  · have herror := QJsonValue.toInt_ofInt (n := -1) (by decide) (by decide) 0
    simpa [errorCode, relaunchReply, insertError, QJsonObject.value_insert] using herror
  · simp [errorCode, relaunchReply, QJsonObject.value_insert]

/-! ## What a runner receives

A request that is parsed becomes a signal, and anything else ends the process or is ignored. -/

/-- The signals that `onSocketReadyRead` emits, and the end of the process. -/
inductive Signal where
  | launchRequest (appId mainQml : String) (params : QJsonObject)
  | relaunchRequest (params : QJsonObject)
  /-- `QCoreApplication::exit(-1)` -/
  | exit

/-- `onSocketReadyRead` from the parsed message on. A block that cannot be parsed has the empty
message. -/
def onMessage (message : QJsonObject) : List Signal :=
  if message.isEmpty then [.exit]
  else
    match header message with
    | some .launchRequest =>
      [.launchRequest (message.value "appId").toString (message.value "mainQml").toString
        (message.value "params").toObject]
    | some .relaunchRequest => [.relaunchRequest (message.value "params").toObject]
    | _ => [.exit]

/-- A request reaches the runner with the members the server wrote. -/
theorem onMessage_toJson {κ : Type} (request : Request κ) :
    onMessage request.toJson =
      match request with
      | .launch message _ => [.launchRequest message.appId message.mainQml message.params]
      | .relaunch params _ _ => [.relaunchRequest params] := by
  cases request with
  | launch message callTime =>
    have hheader : header (Request.launch message callTime).toJson = some .launchRequest := by
      simp [Request.toJson, header_insert_header]
    rw [onMessage, hheader]
    simp [Request.toJson, QJsonObject.value_insert, QJsonValue.toString, QJsonValue.toObject]
  | relaunch params callTime callback =>
    have hheader : header (Request.relaunch params callTime callback).toJson =
        some .relaunchRequest := by
      simp [Request.toJson, header_insert_header]
    rw [onMessage, hheader]
    simp [Request.toJson, QJsonObject.value_insert, QJsonValue.toObject]

end IpcClient

end Booster
