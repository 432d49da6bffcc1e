import WebosFramework.Booster.Strangers
import WebosFramework.Qt.Strings

/-!
# The invoker

`main` of `tools/invoker/main.cpp` takes an application from its arguments and writes a request for
it to the booster's socket. The request is a string, `launch:` with the application and its file,
while the booster reads a byte array with a binary JSON document in it.

* `QJsonDocument::fromJson(..).object()` of an argument is a parameter.
* `ReadsFrom`: as the first read ends the connection, what the booster reads is the beginning of
  what has been written.

**`invoker_unnoticed`**: the booster disconnects the invoker, and its request has no other effect in
any run, whatever the arguments are and however much of the request has arrived when it is read.
-/

namespace Invoker

open Qt EventLoop

open Booster (Codec IpcServer ServerEvent ipcServer SocketId SameBut strangers_unnoticed)

/-- What the arguments say of the application. -/
structure Application where
  mainQml : String := ""
  appId : String := ""

/-- The members of a JSON argument. -/
def Application.readObject (app : Application) (obj : QJsonObject) : Application where
  mainQml := if obj.contains "main" then (obj.value "main").toString else app.mainQml
  appId := if obj.contains "appId" then (obj.value "appId").toString else app.appId

/-- The loop over the arguments. -/
def readArguments (fromJson : String → QJsonObject) : Application → List String → Application
  | app, [] => app
  | app, argument :: rest =>
    let app := if argument.toList.head? = some '{' then app.readObject (fromJson argument) else app
    match rest with
    | [] => app
    | value :: rest' =>
      if argument = "--main" then readArguments fromJson { app with mainQml := value } rest'
      else readArguments fromJson app (value :: rest')

/-- The request, as the two calls of `arg` make it. -/
def request (app : Application) : String := arg (arg "launch:%1:%2" app.appId) app.mainQml

/-- What is written to the socket. -/
def block (app : Application) : Bytes := writeString (request app)

/-! ## What the booster makes of it

The request is text, and the booster expects binary JSON. Nothing that begins like a text is a
document. -/

/-- `QJsonDocument::BinaryFormatTag` as it is stored. -/
def binaryFormatTag : Bytes := [0x71, 0x62, 0x6a, 0x73]

/-- `fromBinaryData` gives a null document for what does not start with the tag. -/
def Tagged (c : Codec) : Prop :=
  ∀ bytes, ¬ binaryFormatTag <+: bytes → (c.decode bytes).isEmpty = true

/-- Whatever the arguments are put into, the request starts as it should. -/
theorem request_front (app : Application) : "launch:".toList <+: (request app).toList :=
  arg_front (by decide) (arg_front (by decide) ⟨"%1:%2".toList, rfl⟩ app.appId) app.mainQml

/-- The text of the request starts with a byte that the tag does not have. -/
theorem not_tag_request (app : Application) : ¬ binaryFormatTag <+: utf16Bytes (request app) := by
  intro htag
  obtain ⟨bytes, hbytes⟩ := utf16Bytes_front (request_front app)
  rw [← hbytes] at htag
  cases (List.cons_prefix_cons.mp htag).1

/-- A size of type `int`. -/
def Fits (app : Application) : Prop := (codeUnits (request app)).length < 2 ^ 31

/-- There is no message in the beginning of a request. -/
theorem received_eq_none {c : Codec} (hc : Tagged c) {app : Application} (hfits : Fits app)
    {front : Bytes} (hfront : front <+: block app) : IpcServer.received c front = none := by
  have hlen : (utf16Bytes (request app)).length < nullLength := by
    rw [length_utf16Bytes]
    unfold Fits at hfits
    unfold nullLength
    omega
  have hempty : (c.decode (readByteArray front).1).isEmpty = true := by
    rcases readByteArray_front hlen hfront with hread | hread <;> rw [hread]
    · exact hc [] (by decide)
    · exact hc _ (not_tag_request app)
  unfold IpcServer.received
  split
  · rfl
  · exact if_pos hempty

/-- The booster hangs up on whatever it has got of a request. -/
theorem readBlock_eq {κ : Type} {c : Codec} (hc : Tagged c) {app : Application} (hfits : Fits app)
    (srv : IpcServer κ) (s : SocketId) {front : Bytes} (hfront : front <+: block app) (now : Int) :
    srv.readBlock c s front now = (srv, [.disconnectFromServer s]) := by
  rw [IpcServer.readBlock_eq, received_eq_none hc hfits hfront]
  rfl

/-! ## Runs of the booster

The booster disconnects whoever sends it something else, and so the invoker stays a stranger. -/

/-- What is read from `s`, if the event reads from it, is a beginning of `bytes`. -/
def ReadsFrom {κ : Type} (c : Codec) (s : SocketId) (bytes : Bytes) : ServerEvent κ → Prop
  | .socket (.readSocket t message _) =>
    t = s → ∃ front, front <+: bytes ∧ message = (IpcServer.received c front).getD {}
  | _ => True

/-- **The booster takes no notice of the invoker**, and hangs up.

What the invoker writes does not begin like a document, so no message is received from it and the
socket is closed at the first read. `strangers_unnoticed` is the rest: a peer whose reads end so
could as well not be there. -/
theorem invoker_unnoticed {κ : Type} {c : Codec} (hc : Tagged c) (fromJson : String → QJsonObject)
    (arguments : List String) (hfits : Fits (readArguments fromJson {} arguments)) {s : SocketId}
    {es : List (ServerEvent κ)}
    (hes : ∀ e ∈ es, ReadsFrom c s (block (readArguments fromJson {} arguments)) e) :
    (∀ (srv : IpcServer κ) (front : Bytes) (now : Int),
      front <+: block (readArguments fromJson {} arguments) →
        srv.readBlock c s front now = (srv, [.disconnectFromServer s])) ∧
      SameBut s ((ipcServer κ).run (.init {}) es).state
        ((ipcServer κ).run (.init {}) (es.filter (!ServerEvent.concerns s ·))).state ∧
      ((ipcServer κ).run (.init {}) es).outputs.filter (!Booster.Output.disconnects s ·) =
        ((ipcServer κ).run (.init {})
          (es.filter (!ServerEvent.concerns s ·))).outputs.filter
            (!Booster.Output.disconnects s ·) := by
  refine ⟨fun srv front now hfront => readBlock_eq hc hfits srv s hfront now,
    strangers_unnoticed fun e he => ?_⟩
  have hreads := hes e he
  cases e with
  | socket e =>
    cases e with
    | readSocket t message now =>
      intro hts
      obtain ⟨front, hfront, rfl⟩ := hreads hts
      rw [received_eq_none hc hfits hfront]
      rfl
    | _ => trivial
  | _ => trivial

/-- `invoker --main app.qml` -/
def appQml : Application := readArguments (fun _ => {}) {} ["invoker", "--main", "app.qml"]

/-- The invoker connects between the connection and the registration of a runner. -/
def runnerAndInvoker : List (ServerEvent Nat) :=
  [.socket (.newConnection 1), .socket (.newConnection 0),
    .socket (.readSocket 0
      ((IpcServer.received Booster.relaunchCodec (block appQml)).getD {}) 5),
    .socket (.disconnected 0), .socket (.readSocket 1 (Booster.IpcClient.registerRequest 100) 6)]

/-- Each of the three documents that the codec knows starts with the tag. -/
theorem tagged_relaunchCodec : Tagged Booster.relaunchCodec := by
  intro bytes hbytes
  have hreply : bytes ≠ Booster.relaunchReplyBytes := fun h => hbytes (h ▸ by decide)
  have hrequest (page : UInt8) : bytes ≠ Booster.relaunchRequestBytes page :=
    fun h => hbytes (h ▸ ⟨_, rfl⟩)
  have hdecode : Booster.relaunchCodec.decode bytes = {} :=
    (if_neg hreply).trans ((if_neg (hrequest 0x3a)).trans (if_neg (hrequest 0x5a)))
  rw [hdecode]
  rfl

/-- The request for it is short. -/
theorem fits_appQml : Fits appQml := by
  unfold Fits
  decide

/-- In this run all that is read from the invoker's socket is that request. -/
theorem readsFrom_runnerAndInvoker :
    ∀ e ∈ runnerAndInvoker, ReadsFrom Booster.relaunchCodec 0 (block appQml) e := by
  unfold runnerAndInvoker
  simp only [List.forall_mem_cons, List.not_mem_nil, false_imp_iff, implies_true, and_true]
  exact ⟨trivial, trivial, fun _ => ⟨_, List.prefix_refl _, rfl⟩, trivial,
    fun h => absurd h (by decide)⟩

/-- The runner gets into the pool, and nothing but its registration is reported. -/
theorem invoker_unnoticed_runnerAndInvoker :
    ((ipcServer Nat).run (.init {}) runnerAndInvoker).state.runnerClients = [1] ∧
      ((ipcServer Nat).run (.init {}) runnerAndInvoker).outputs.filter
          (!Booster.Output.disconnects 0 ·) =
        [.runnerRegistered 100, .connectedRunnersCountChanged 1] :=
  ⟨rfl, (invoker_unnoticed tagged_relaunchCodec (fun _ => {}) ["invoker", "--main", "app.qml"]
    fits_appQml readsFrom_runnerAndInvoker).2.2⟩

end Invoker
