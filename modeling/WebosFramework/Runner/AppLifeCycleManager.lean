import WebosFramework.Lib.EventLoop
import WebosFramework.Qt.Json

/-!
# The life cycle of an application

`AppLifeCycleManager` and `LunaServiceWrapper` of `tools/runner`. The bus says whether the service
that sends the life cycle messages is there. When it comes, the manager connects
`handleAppLifeCycle` to the messages and subscribes to them; when it goes, the manager disconnects
the slot and cancels the subscription.

* The data of a message is the object that `QJsonDocument::fromJson(..).object()` gives.
* A call on the bus is given the token of its answers, or fails.
* Connecting is decided by `isSubscribed`, which a failed call leaves as it was, while the slot has
  been connected before the call. **`handledOnce_iff`**: a message is handled once in every run,
  exactly when no notification says that the service is there after a call has failed.

Whether a call fails is up to the bus. So a run is described by what was put out so far:
`NoFailure` is about the calls among the outputs, and the number of connections follows from it
(`FollowsSubscription`).
-/

namespace Runner

open EventLoop Qt

/-- The members of the wrapper, without the prefix `m_`. -/
structure LunaServiceWrapper where
  contextId : String
  appId : String
  serviceId : String
  method : String
  param : String
  /-- `LSMESSAGE_TOKEN_INVALID` is 0. -/
  token : Nat := 0
  isSubscribed : Bool := false

/-- What the manager does: its calls on the bus, and the signals that it emits. -/
inductive LifeCycleOutput where
  /-- `LSCallFromApplication`, which gives a token unless it fails. -/
  | call (uri payload appId : String) (token : Option Nat)
  | callCancel (token : Nat)
  | relaunchRequest (parameters : QJsonObject)
  | closeRequest (reason : QJsonObject)

namespace LunaServiceWrapper

variable (w : LunaServiceWrapper)

/-- The payload of the call, as it is put together from its parts. -/
def payload : String :=
  "\x7b" ++ (if w.param = "" then "" else "\"serviceName\":\"" ++ w.param ++ "\",") ++
    "\"subscribe\":true\x7d"

/-- `subscribe`: a call that fails leaves the wrapper as it was. -/
def subscribe (token : Option Nat) : LunaServiceWrapper × List LifeCycleOutput :=
  let called := .call ("luna://" ++ w.serviceId ++ "/" ++ w.method) w.payload w.appId token
  match token with
  | some token => ({ w with token, isSubscribed := true }, [called])
  | none => (w, [called])

/-- `cancel`: the subscription is over, and its token is not valid any more. -/
def cancel : LunaServiceWrapper × List LifeCycleOutput :=
  ({ w with isSubscribed := false, token := 0 }, [.callCancel w.token])

end LunaServiceWrapper

/-- The manager and the wrapper that it owns. -/
structure AppLifeCycleManager where
  lifeCycle : LunaServiceWrapper
  /-- How often `handleAppLifeCycle` is connected to `messageReceived` of `lifeCycle`. -/
  connections : Nat := 0

/-- What comes from the bus. -/
inductive LifeCycleEvent where
  /-- A message of the bus; `token` is what a call is answered with if one is made. -/
  | serverStatus (response : QJsonObject) (token : Option Nat)
  | messageReceived (response : QJsonObject)

/-- The service that sends the messages. -/
def serviceName : String := "com.webos.applicationManager"

/-- The method that is called if the arguments name none. -/
def defaultInterfaceMethodName : String := "registerApp"

/-- `handleAppLifeCycle`. The name of the message is in one of two members, which the method
decides. -/
def handleAppLifeCycle (method : String) (response : QJsonObject) : List LifeCycleOutput :=
  let keyName := if method = defaultInterfaceMethodName then "event" else "message"
  let message := (response.value keyName).toString
  if message = "relaunch" then [.relaunchRequest (response.value "parameters").toObject]
  else if message = "close" then [.closeRequest (response.value "reason").toObject]
  else []

/-- What the bus says of the service. -/
def connected (response : QJsonObject) : Bool := (response.value "connected").toBool

namespace AppLifeCycleManager

/-- A manager that has just been made. -/
def new (appId method params : String) : AppLifeCycleManager where
  lifeCycle :=
    { contextId := serviceName, appId, serviceId := serviceName, method, param := params }

variable (m : AppLifeCycleManager)

/-- `handleServerStatus`. The slot is connected before the call is made. -/
def handleServerStatus (response : QJsonObject) (token : Option Nat) :
    AppLifeCycleManager × List LifeCycleOutput :=
  if connected response then
    if !m.lifeCycle.isSubscribed then
      let subscribed := m.lifeCycle.subscribe token
      ({ lifeCycle := subscribed.1, connections := m.connections + 1 }, subscribed.2)
    else (m, [])
  else if m.lifeCycle.isSubscribed then
    -- `disconnect` ends all connections of the two
    let cancelled := m.lifeCycle.cancel
    ({ lifeCycle := cancelled.1, connections := 0 }, cancelled.2)
  else (m, [])

/-- Each connection of the slot runs it. -/
def messageReceived (response : QJsonObject) : List LifeCycleOutput :=
  (List.replicate m.connections (handleAppLifeCycle m.lifeCycle.method response)).flatten

end AppLifeCycleManager

/-- The manager reacting to one event after the other. -/
def lifeCycle : Machine AppLifeCycleManager LifeCycleEvent LifeCycleOutput where
  handle m
    | .serverStatus response token => m.handleServerStatus response token
    | .messageReceived response => (m, m.messageReceived response)

/-! ## One message

A message is one request at most, and each connection of the slot handles it. -/

/-- A message is one request at most. -/
theorem handleAppLifeCycle_length (method : String) (response : QJsonObject) :
    (handleAppLifeCycle method response).length ≤ 1 := by
  unfold handleAppLifeCycle
  dsimp only
  repeat' split
  all_goals simp

/-- A slot that is connected once handles a message once. -/
theorem messageReceived_of_once {m : AppLifeCycleManager} (h : m.connections = 1)
    (response : QJsonObject) :
    m.messageReceived response = handleAppLifeCycle m.lifeCycle.method response := by
  simp [AppLifeCycleManager.messageReceived, h]

/-! ## Runs

The number of the connections follows the subscription, until a call has failed. -/

/-- The slot is connected at most once, and once while the messages are subscribed to; each of them
is then handled at most once. -/
def HandledOnce (m : AppLifeCycleManager) : Prop :=
  m.connections ≤ 1 ∧
    (m.lifeCycle.isSubscribed = true →
      m.connections = 1 ∧ ∀ response, (m.messageReceived response).length ≤ 1)

/-- A call without a token. -/
def LifeCycleOutput.FailedCall : LifeCycleOutput → Prop
  | .call _ _ _ none => True
  | _ => False

/-- No call has failed so far. -/
def NoFailure (h : History AppLifeCycleManager LifeCycleEvent LifeCycleOutput) : Prop :=
  ∀ o ∈ h.outputs, ¬ o.FailedCall

/-- If the bus says that the service is there, no call has failed before. -/
def ComesBeforeFailure (h : History AppLifeCycleManager LifeCycleEvent LifeCycleOutput) :
    LifeCycleEvent → Prop
  | .serverStatus response _ => connected response = true → NoFailure h
  | .messageReceived _ => True

/-- The connections follow the subscription until a call fails, which leaves one too many. -/
structure FollowsSubscription (h : History AppLifeCycleManager LifeCycleEvent LifeCycleOutput) :
    Prop where
  /-- Before a call has failed the slot is connected while the manager is subscribed. -/
  connections : NoFailure h → h.state.connections = if h.state.lifeCycle.isSubscribed then 1 else 0
  /-- After a call has failed the slot is connected, though the manager is not subscribed. -/
  failed : ¬ NoFailure h → h.state.connections = 1 ∧ h.state.lifeCycle.isSubscribed = false

section Steps

variable {h : History AppLifeCycleManager LifeCycleEvent LifeCycleOutput} {e : LifeCycleEvent}

/-- In both cases a message is handled once. -/
theorem FollowsSubscription.handledOnce (hI : FollowsSubscription h) : HandledOnce h.state := by
  by_cases hfailure : NoFailure h
  · have hconnections := hI.connections hfailure
    refine ⟨?_, fun hsubscribed => ?_⟩
    · split at hconnections <;> omega
    · rw [if_pos hsubscribed] at hconnections
      refine ⟨hconnections, fun response => ?_⟩
      rw [messageReceived_of_once hconnections]
      exact handleAppLifeCycle_length _ response
  · obtain ⟨hconnections, hsubscribed⟩ := hI.failed hfailure
    refine ⟨by omega, fun hsubscribed' => ?_⟩
    cases hsubscribed.symm.trans hsubscribed'

/-- No call has failed after a step if none had before and none does in the step. -/
theorem noFailure_step_iff : NoFailure (lifeCycle.step h e) ↔
    NoFailure h ∧ ∀ o ∈ (lifeCycle.handle h.state e).2, ¬ o.FailedCall := by
  unfold NoFailure
  rw [Machine.step_outputs, List.forall_mem_append]

/-- A message of the service makes no call. -/
theorem not_failedCall_of_mem_messageReceived {m : AppLifeCycleManager} {response : QJsonObject}
    {o : LifeCycleOutput} (ho : o ∈ m.messageReceived response) : ¬ o.FailedCall := by
  obtain ⟨outputs, houtputs, ho⟩ := List.mem_flatten.mp ho
  rw [List.eq_of_mem_replicate houtputs] at ho
  unfold handleAppLifeCycle at ho
  dsimp only at ho
  repeat' split at ho
  all_goals simp at ho
  all_goals exact fun hfailed => by simp [ho, LifeCycleOutput.FailedCall] at hfailed

/-- What a step can do: subscribe, cancel, or leave the manager as it is. The slot is connected once
more where it subscribes, and not at all any more where it cancels. -/
theorem handle_cases (m : AppLifeCycleManager) (e : LifeCycleEvent) :
    (∃ response token, e = .serverStatus response token ∧ connected response = true ∧
        m.lifeCycle.isSubscribed = false ∧
        lifeCycle.handle m e =
          (⟨(m.lifeCycle.subscribe token).1, m.connections + 1⟩,
            (m.lifeCycle.subscribe token).2)) ∨
      (m.lifeCycle.isSubscribed = true ∧
        lifeCycle.handle m e = (⟨m.lifeCycle.cancel.1, 0⟩, m.lifeCycle.cancel.2)) ∨
      ((∀ response token, e = .serverStatus response token → connected response = true →
          m.lifeCycle.isSubscribed = true) ∧
        (lifeCycle.handle m e).1 = m ∧
        ∀ o ∈ (lifeCycle.handle m e).2, ¬ o.FailedCall) := by
  cases e with
  | serverStatus response token =>
    show _ ∨ (_ ∧ m.handleServerStatus response token = _) ∨
      (_ ∧ (m.handleServerStatus response token).1 = m ∧
        ∀ o ∈ (m.handleServerStatus response token).2, _)
    unfold AppLifeCycleManager.handleServerStatus
    by_cases hconnected : connected response = true <;>
      by_cases hsubscribed : m.lifeCycle.isSubscribed = true
    · -- connected and subscribed already: nothing is done
      refine .inr (.inr ?_)
      simp [hconnected, hsubscribed]
    · -- connected for the first time: the call is made, and the signal is connected once more
      refine .inl ⟨response, token, rfl, hconnected, by simpa using hsubscribed, ?_⟩
      show (if connected response = true then _ else _) = _
      rw [if_pos hconnected, if_pos (by simpa using hsubscribed)]
    · -- the connection is lost: the call is cancelled, and all connections go with it
      refine .inr (.inl ⟨hsubscribed, ?_⟩)
      rw [if_neg hconnected, if_pos hsubscribed]
    · -- not connected, and not subscribed either
      refine .inr (.inr ⟨?_, ?_⟩)
      · rintro _ _ ⟨⟩ hconnected'
        exact absurd hconnected' hconnected
      · simp [hconnected, hsubscribed]
  -- a message is only read here; what it starts is in the signals it emits
  | messageReceived response =>
    refine .inr (.inr ⟨fun _ _ he => (by cases he), rfl, ?_⟩)
    exact fun o ho => not_failedCall_of_mem_messageReceived ho

/-- Subscribing fails if there is no token. -/
theorem not_failedCall_subscribe_iff {w : LunaServiceWrapper} {token : Option Nat} :
    (∀ o ∈ (w.subscribe token).2, ¬ o.FailedCall) ↔ token.isSome = true := by
  cases token <;> simp [LunaServiceWrapper.subscribe, LifeCycleOutput.FailedCall]

/-- With a token the manager is subscribed. -/
theorem subscribe_isSubscribed {w : LunaServiceWrapper} (h : w.isSubscribed = false)
    (token : Option Nat) : (w.subscribe token).1.isSubscribed = token.isSome := by
  cases token with
  | none => exact h
  | some token => rfl

/-- The connections follow the subscription through an event, unless the service comes after a
failure. -/
theorem followsSubscription_step (hI : FollowsSubscription h) (hC : ComesBeforeFailure h e) :
    FollowsSubscription (lifeCycle.step h e) := by
  have hstep := handle_cases h.state e
  rcases hstep with ⟨response, token, rfl, hconnected, hsubscribed, hhandle⟩ |
    ⟨hsubscribed, hhandle⟩ | ⟨-, hstate, houtputs⟩
  · -- no call has failed before, so this is the only connection
    have hbefore : NoFailure h := hC hconnected
    have hnone : h.state.connections = 0 := by simpa [hsubscribed] using hI.connections hbefore
    have hafter : NoFailure (lifeCycle.step h (.serverStatus response token)) ↔
        token.isSome = true := by
      rw [noFailure_step_iff, hhandle, not_failedCall_subscribe_iff]
      exact and_iff_right hbefore
    have hsubscribed' := subscribe_isSubscribed hsubscribed token
    refine ⟨fun hno => ?_, fun hfailed => ?_⟩
    · rw [Machine.step_state, hhandle]
      show h.state.connections + 1 =
        if (h.state.lifeCycle.subscribe token).1.isSubscribed then _ else _
      rw [hsubscribed', if_pos (hafter.mp hno), hnone]
    · rw [Machine.step_state, hhandle]
      show h.state.connections + 1 = 1 ∧ (h.state.lifeCycle.subscribe token).1.isSubscribed = false
      rw [hsubscribed', hnone]
      exact ⟨rfl, by simpa using fun hsome => hfailed (hafter.mpr hsome)⟩
  · -- the cancellation takes every connection away, and makes no call that could fail
    have hbefore : NoFailure h := by
      by_contra hfailed
      cases hsubscribed.symm.trans (hI.failed hfailed).2
    have hafter : NoFailure (lifeCycle.step h e) := by
      rw [noFailure_step_iff, hhandle]
      exact ⟨hbefore, by simp [LunaServiceWrapper.cancel, LifeCycleOutput.FailedCall]⟩
    refine ⟨fun _ => ?_, fun hfailed => absurd hafter hfailed⟩
    rw [Machine.step_state, hhandle]
    rfl
  · -- nothing changes, so neither does the number of connections
    have hafter : NoFailure (lifeCycle.step h e) ↔ NoFailure h := by
      rw [noFailure_step_iff]
      exact and_iff_left houtputs
    refine ⟨fun hno => ?_, fun hfailed => ?_⟩ <;> rw [Machine.step_state, hstate]
    · exact hI.connections (hafter.mp hno)
    · exact hI.failed (mt hafter.mpr hfailed)

/-- The slot is connected again where a failed call has left it connected. -/
theorem two_connections (hI : FollowsSubscription h) (hC : ¬ ComesBeforeFailure h e) :
    (lifeCycle.step h e).state.connections = 2 := by
  obtain ⟨response, token, rfl, hconnected, hfailed⟩ : ∃ response token,
      e = .serverStatus response token ∧ connected response = true ∧ ¬ NoFailure h := by
    cases e with
    | serverStatus response token =>
      exact ⟨response, token, rfl, by simpa [ComesBeforeFailure] using hC⟩
    | messageReceived response => exact absurd trivial hC
  obtain ⟨hconnections, hsubscribed⟩ := hI.failed hfailed
  rcases handle_cases h.state (.serverStatus response token) with
    ⟨response', token', -, -, -, hhandle⟩ | ⟨hsubscribed', -⟩ | ⟨hstays, -⟩
  · rw [Machine.step_state, hhandle]
    show h.state.connections + 1 = 2
    omega
  · cases hsubscribed.symm.trans hsubscribed'
  · cases hsubscribed.symm.trans (hstays response token rfl hconnected)

end Steps

/-- **Handled once.** In every run of a new manager: the slot is always connected at most once, and
once while the messages are subscribed to, exactly when no notification says that the service is
there after a call has failed.

The exact invariant is `FollowsSubscription`. It says more than that a message is handled once, so
both directions go through it. -/
theorem handledOnce_iff (appId method params : String) (es : List LifeCycleEvent) :
    lifeCycle.Always (fun h => HandledOnce h.state) (.init (.new appId method params)) es ↔
      lifeCycle.Admits ComesBeforeFailure (.init (.new appId method params)) es := by
  have hinit : FollowsSubscription (.init (.new appId method params)) := by
    refine ⟨fun _ => rfl, fun hfailed => absurd ?_ hfailed⟩
    exact List.forall_mem_nil _
  have hadmitted : ∀ h e, FollowsSubscription h → HandledOnce (lifeCycle.step h e).state →
      ComesBeforeFailure h e := by
    intro h e hI honce
    by_contra hC
    have htwo := two_connections hI hC
    have hone := honce.1
    omega
  rw [Machine.always_iff_always (Q := FollowsSubscription) (fun h hI => hI.handledOnce)
    (fun h e hI honce => followsSubscription_step hI (hadmitted h e hI honce)) hinit]
  refine Machine.always_iff_admits (I := fun _ => True) (E := fun _ _ => True)
    (fun _ _ _ _ => trivial) ?_ trivial hinit (lifeCycle.admits_true _ es)
  intro h e _ hI _
  exact ⟨fun hI' => hadmitted h e hI hI'.handledOnce, followsSubscription_step hI⟩

/-- The call fails when the service comes, and succeeds when the service is there again. -/
def failsOnce (response : QJsonObject) : List LifeCycleEvent :=
  [.serverStatus (({} : QJsonObject).insert "connected" (.bool true)) none,
    .serverStatus (({} : QJsonObject).insert "connected" (.bool true)) (some 7),
    .messageReceived response]

/-- The slot is connected twice, and the application is relaunched twice. -/
theorem not_handledOnce_failsOnce :
    ¬ lifeCycle.Always (fun h => HandledOnce h.state) (.init (.new "app" "registerApp" "app"))
        (failsOnce (({} : QJsonObject).insert "event" (.string "relaunch"))) ∧
      (lifeCycle.run (.init (.new "app" "registerApp" "app"))
        (failsOnce (({} : QJsonObject).insert "event" (.string "relaunch")))).outputs.drop 2 =
          [.relaunchRequest {}, .relaunchRequest {}] := by
  refine ⟨fun hall => ?_, by rfl⟩
  have honce := hall.last.1
  revert honce
  decide

end Runner
