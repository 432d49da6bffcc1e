import WebosFramework.Booster.IpcClient
import WebosFramework.Lib.EventLoop
import WebosFramework.Runner.AppLoader

/-!
# A runner of the pool

`main` of `tools/runner/main.cpp` with `--interactive`: an `IpcClient` that is connected to the
booster, an `AppLoader`, and the two lambdas between them.

* The event loop is left at the end of the event in which `exit` or `quit` has been called, and no
  event is handled after that, nor after a crash.
* `windowClosed` is the end of the platform window, `windowDeleted` that of the object. Both happen
  inside the application, as does `windowShown`.
* A message comes with what the QML engine makes of the file, in case it asks for one to be loaded.

**`answers_each_request`**: requests are answered in order, with one reply each. A reply that
reports a failure is the last one, and only a request that crashes the runner has none.

A message is one signal (`exists_onMessage`), and a signal that asks for something has one of
three outcomes (`Reply`). What has been asked so far is observed along the run, and compared with
what was sent (`Answered`).
-/

namespace Runner

open Qt EventLoop

open Booster (IpcMessageType IpcClient.Signal IpcClient.launchReply IpcClient.relaunchReply)

/-- The process runs, is going to leave the event loop, or is gone. -/
inductive Phase where
  | running
  | exiting (code : Int)
  | crashed
  deriving DecidableEq

/-- The process: the loader and the client of `main`. -/
structure InteractiveRunner where
  loader : AppLoader := {}
  /-- `m_socket && m_socket->isOpen()` -/
  isOpen : Bool := true
  phase : Phase := .running

/-- What may happen to it. -/
inductive RunnerEvent where
  /-- `onSocketReadyRead` from the parsed message on. -/
  | message (message : QJsonObject) (loading : Loading)
  /-- An empty block. -/
  | nothingRead
  | socketError
  | socketClosed
  /-- A signal of the system, `Qt.quit()` or the last window. -/
  | quit
  | windowShown
  | windowClosed
  | windowDeleted

namespace InteractiveRunner

variable (r : InteractiveRunner)

/-! ## Slots

The lambdas of the interactive branch of `main`. A signal comes with what the engine makes of the
file, and ends in a reply, in a failure, or with the end of the process. -/

/-- `IpcClient::send`, while the socket is open. -/
def send (reply : QJsonObject) : List QJsonObject := if r.isOpen then [reply] else []

/-- `QCoreApplication::exit`. -/
def exit (code : Int) : InteractiveRunner := { r with phase := .exiting code }

/-- The loader has changed. -/
def setLoader (loader : AppLoader) : InteractiveRunner := { r with loader }

/-- The lambda connected to `launchRequest`. -/
def onLaunchRequest (appId mainQml : String) (params : QJsonObject) (loading : Loading) :
    InteractiveRunner × List QJsonObject :=
  match r.loader.loadApplication appId params loading with
  | none => ({ r with phase := .crashed }, [])
  | some (true, loader) => (r.setLoader loader, r.send (Booster.IpcClient.launchReply mainQml true))
  | some (false, loader) =>
    ((r.setLoader loader).exit (-1), r.send (Booster.IpcClient.launchReply mainQml false))

/-- The lambda connected to `relaunchRequest`. -/
def onRelaunchRequest (params : QJsonObject) : InteractiveRunner × List QJsonObject :=
  if r.loader.ready then
    match r.loader.reloadApplication params with
    | none => ({ r with phase := .crashed }, [])
    | some loader => (r.setLoader loader, r.send (Booster.IpcClient.relaunchReply true))
  else (r.exit (-1), r.send (Booster.IpcClient.relaunchReply false))

/-- The lambdas of `main`, with what the QML engine makes of the file. -/
def onSignal (loading : Loading) : Booster.IpcClient.Signal →
    InteractiveRunner × List QJsonObject
  | .launchRequest appId mainQml params => r.onLaunchRequest appId mainQml params loading
  | .relaunchRequest params => r.onRelaunchRequest params
  | .exit => (r.exit (-1), [])

/-- The signals of one message, one after the other. -/
def onSignals (loading : Loading) : InteractiveRunner → List Booster.IpcClient.Signal →
    InteractiveRunner × List QJsonObject
  | r, [] => (r, [])
  | r, signal :: signals =>
    let next := r.onSignal loading signal
    let rest := onSignals loading next.1 signals
    (rest.1, next.2 ++ rest.2)

/-- The platform window comes or goes. -/
def setHandle (hasHandle : Bool) : InteractiveRunner :=
  r.setLoader (r.loader.setWindow (r.loader.window.map fun w => { w with hasHandle }))

/-- What an event does, as long as the event loop runs. -/
def handle (e : RunnerEvent) : InteractiveRunner × List QJsonObject :=
  if r.phase = .running then
    match e with
    | .message message loading => onSignals loading r (Booster.IpcClient.onMessage message)
    | .nothingRead => (r, [])
    | .socketError => (r.exit (-1), [])
    | .socketClosed => ({ r with isOpen := false }, [])
    | .quit => (r.exit 0, [])
    | .windowShown => (r.setHandle true, [])
    | .windowClosed => (r.setHandle false, [])
    | .windowDeleted => (r.setLoader (r.loader.setWindow none), [])
  else (r, [])

end InteractiveRunner

/-- The process reacting to one event after the other. Its outputs are the messages that it sends.
-/
def interactiveRunner : Machine InteractiveRunner RunnerEvent QJsonObject where
  handle := InteractiveRunner.handle

/-- A process, the events so far, and what it has sent. -/
abbrev RunnerHistory := History InteractiveRunner RunnerEvent QJsonObject

/-- A runner that has connected to the booster. -/
def pooled (pid : Int) : RunnerHistory where
  state := {}
  outputs := [Booster.IpcClient.registerRequest pid]

/-! ## Requests and replies

One event of a runner: it is asked for something, and replies, or it is not, and sends nothing. -/

/-- The reply that a message asks for. -/
def repliesTo (message : QJsonObject) : Option IpcMessageType :=
  match Booster.header message with
  | some .launchRequest => some .launchReply
  | some .relaunchRequest => some .relaunchReply
  | _ => none

namespace InteractiveRunner

/-- The reply that an event asks of a runner that is there to give it. -/
def asked (r : InteractiveRunner) : RunnerEvent → Option IpcMessageType
  | .message message _ => if r.phase = .running ∧ r.isOpen then repliesTo message else none
  | _ => none

/-- What a runner makes of a request. -/
inductive Reply (r : InteractiveRunner) (kind : IpcMessageType) :
    InteractiveRunner × List QJsonObject → Prop where
  /-- The process goes on. -/
  | succeeds (loader : AppLoader) (reply : QJsonObject)
      (header : Booster.header reply = some kind) (errorCode : Booster.errorCode reply = 0) :
      Reply r kind (r.setLoader loader, r.send reply)
  /-- The process leaves, with a reply that says so. -/
  | fails (loader : AppLoader) (reply : QJsonObject)
      (header : Booster.header reply = some kind) (errorCode : Booster.errorCode reply ≠ 0) :
      Reply r kind ((r.setLoader loader).exit (-1), r.send reply)
  /-- The process crashes, without a reply. -/
  | crashes : Reply r kind ({ r with phase := .crashed }, [])

variable (r : InteractiveRunner)

/-- What is sent is the reply. -/
theorem mem_send {r : InteractiveRunner} {reply sent : QJsonObject} (h : sent ∈ r.send reply) :
    sent = reply := by
  unfold send at h
  split at h
  · exact List.mem_singleton.mp h
  · exact absurd h List.not_mem_nil

@[simp] theorem onSignals_singleton (loading : Loading) (signal : Booster.IpcClient.Signal) :
    onSignals loading r [signal] = r.onSignal loading signal := by
  simp [onSignals]

/-- The outcomes of a launch: it loads, it fails to, or there is nothing to show. -/
theorem reply_onLaunchRequest (appId mainQml : String) (params : QJsonObject)
    (loading : Loading) :
    Reply r .launchReply (r.onLaunchRequest appId mainQml params loading) := by
  unfold onLaunchRequest
  split
  · exact .crashes
  · exact .succeeds _ _ (Booster.IpcClient.header_launchReply mainQml true)
      (Booster.IpcClient.errorCode_launchReply mainQml true)
  · refine .fails _ _ (Booster.IpcClient.header_launchReply mainQml false) ?_
    rw [Booster.IpcClient.errorCode_launchReply]
    decide

/-- Those of a relaunch: the component is ready or not, and there is a window or not. -/
theorem reply_onRelaunchRequest (params : QJsonObject) :
    Reply r .relaunchReply (r.onRelaunchRequest params) := by
  unfold onRelaunchRequest
  split
  · split
    · exact .crashes
    · exact .succeeds _ _ (Booster.IpcClient.header_relaunchReply true)
        (Booster.IpcClient.errorCode_relaunchReply true)
  · refine .fails r.loader _ (Booster.IpcClient.header_relaunchReply false) ?_
    rw [Booster.IpcClient.errorCode_relaunchReply]
    decide

/-- A message makes one signal. -/
theorem exists_onMessage (message : QJsonObject) :
    ∃ signal, Booster.IpcClient.onMessage message = [signal] := by
  unfold Booster.IpcClient.onMessage
  split
  · exact ⟨_, rfl⟩
  · split
    · exact ⟨_, rfl⟩
    · exact ⟨_, rfl⟩
    · exact ⟨_, rfl⟩

/-- A message is handled as its signal. -/
theorem handle_message_eq {r : InteractiveRunner} (hrunning : r.phase = .running)
    {message : QJsonObject} {loading : Loading} {signal : Booster.IpcClient.Signal}
    (hsignal : Booster.IpcClient.onMessage message = [signal]) :
    r.handle (.message message loading) = r.onSignal loading signal := by
  rw [handle, if_pos hrunning, hsignal, onSignals_singleton]

/-- A message that asks for a reply is a request, and any other one ends the runner. It is told by
its header, and an empty message has none. -/
theorem handle_message (hrunning : r.phase = .running) (message : QJsonObject)
    (loading : Loading) :
    (∃ kind, repliesTo message = some kind ∧ Reply r kind (r.handle (.message message loading))) ∨
      repliesTo message = none ∧ r.handle (.message message loading) = (r.exit (-1), []) := by
  have hhandle : r.handle (.message message loading) =
      onSignals loading r (Booster.IpcClient.onMessage message) := by
    rw [handle, if_pos hrunning]
  have hexit := onSignals_singleton r loading .exit
  rw [hhandle, Booster.IpcClient.onMessage]
  -- an empty message has no header, and the runner exits as for an unknown one
  by_cases hempty : message.isEmpty = true
  · rw [if_pos hempty, repliesTo, Booster.header_of_isEmpty hempty]
    exact .inr ⟨rfl, hexit⟩
  · rw [if_neg hempty, repliesTo]
    cases Booster.header message with
    | none => exact .inr ⟨rfl, hexit⟩
    | some kind =>
      cases kind with
      | launchRequest =>
        -- the two kinds that the booster sends are answered
        refine .inl ⟨_, rfl, ?_⟩
        rw [onSignals_singleton]
        exact reply_onLaunchRequest r _ _ _ loading
      | relaunchRequest =>
        refine .inl ⟨_, rfl, ?_⟩
        rw [onSignals_singleton]
        exact reply_onRelaunchRequest r _
      -- the three kinds that only a runner sends are not
      | registerRequest => exact .inr ⟨rfl, hexit⟩
      | launchReply => exact .inr ⟨rfl, hexit⟩
      | relaunchReply => exact .inr ⟨rfl, hexit⟩

/-- Nothing is handled after the end. -/
theorem handle_of_not_running {r : InteractiveRunner} (h : r.phase ≠ .running) (e : RunnerEvent) :
    r.handle e = (r, []) := if_neg h

/-- A message asks for what its type says, while the process can answer. -/
theorem asked_message {r : InteractiveRunner} (hrunning : r.phase = .running)
    (hopen : r.isOpen = true) (message : QJsonObject) (loading : Loading) :
    r.asked (.message message loading) = repliesTo message := if_pos ⟨hrunning, hopen⟩

/-- Only a runner that is running and whose socket is open is asked for anything. -/
theorem of_asked {r : InteractiveRunner} {e : RunnerEvent} {kind : IpcMessageType}
    (h : r.asked e = some kind) : ∃ message loading, e = .message message loading ∧
      r.phase = .running ∧ r.isOpen = true ∧ repliesTo message = some kind := by
  cases e with
  | message message loading =>
    obtain ⟨⟨hrunning, hopen⟩, hkind⟩ := Option.ite_none_right_eq_some.mp h
    exact ⟨message, loading, rfl, hrunning, hopen, hkind⟩
  | nothingRead | socketError | socketClosed | quit | windowShown | windowClosed
  | windowDeleted => cases h

/-- What is asked for is what a reply is due to. -/
theorem repliesTo_of_asked {r : InteractiveRunner} {message : QJsonObject} {loading : Loading}
    {kind : IpcMessageType} (h : r.asked (.message message loading) = some kind) :
    repliesTo message = some kind := by
  obtain ⟨message', loading', he, -, -, hkind⟩ := of_asked h
  cases he
  exact hkind

/-- A request is answered by one reply, or the process ends. Without a reply it can only end by a
crash. -/
theorem reply_of_asked {r : InteractiveRunner} {e : RunnerEvent} {kind : IpcMessageType}
    (h : r.asked e = some kind) :
    (∃ reply, (r.handle e).2 = [reply] ∧ Booster.header reply = some kind ∧
      (r.handle e).1.phase ≠ .crashed ∧
      (Booster.errorCode reply ≠ 0 → (r.handle e).1.phase = .exiting (-1))) ∨
    (r.handle e).2 = [] ∧ (r.handle e).1.phase = .crashed := by
  obtain ⟨message, loading, rfl, hrunning, hopen, hkind⟩ := of_asked h
  rcases handle_message r hrunning message loading with ⟨kind', hkind', hreply⟩ | ⟨hnone, -⟩
  · obtain rfl : kind = kind' := Option.some.inj (hkind.symm.trans hkind')
    generalize r.handle (.message message loading) = next at hreply
    have hsend (reply : QJsonObject) : r.send reply = [reply] := if_pos hopen
    cases hreply with
    | succeeds loader reply header errorCode =>
      refine .inl ⟨reply, hsend reply, header, ?_, fun hfails => absurd errorCode hfails⟩
      show r.phase ≠ .crashed
      rw [hrunning]
      decide
    | fails loader reply header errorCode =>
      exact .inl ⟨reply, hsend reply, header, Phase.noConfusion, fun _ => rfl⟩
    | crashes => exact .inr ⟨rfl, rfl⟩
  · rw [hnone] at hkind
    cases hkind

/-- An event that asks for nothing is answered by nothing. So the outputs of a runner are its
registration and its replies. -/
theorem outputs_of_not_asked {r : InteractiveRunner} {e : RunnerEvent} (h : r.asked e = none) :
    (r.handle e).2 = [] := by
  by_cases hrunning : r.phase = .running
  · cases e with
    | message message loading =>
      rcases handle_message r hrunning message loading with ⟨kind, hkind, hreply⟩ | ⟨-, hexit⟩
      · have hclosed : ¬ r.isOpen = true := fun hopen => by
          rw [asked_message hrunning hopen, hkind] at h
          cases h
        have hsend (reply : QJsonObject) : r.send reply = [] := if_neg hclosed
        generalize r.handle (.message message loading) = next at hreply
        cases hreply with
        | succeeds loader reply header errorCode => exact hsend reply
        | fails loader reply header errorCode => exact hsend reply
        | crashes => rfl
      · rw [hexit]
    | nothingRead | socketError | socketClosed | quit | windowShown | windowClosed
    | windowDeleted =>
      rw [handle, if_pos hrunning]
  · rw [handle_of_not_running hrunning]

/-- A runner that has left or crashed stays so. -/
theorem running_of_handle {r : InteractiveRunner} {e : RunnerEvent}
    (h : (r.handle e).1.phase = .running) : r.phase = .running := by
  by_contra hrunning
  rw [handle_of_not_running hrunning] at h
  exact hrunning h

/-- A socket that has been closed is not opened again. -/
theorem isOpen_of_handle {r : InteractiveRunner} {e : RunnerEvent}
    (h : (r.handle e).1.isOpen = true) : r.isOpen = true := by
  by_cases hrunning : r.phase = .running
  · cases e with
    | message message loading =>
      rcases handle_message r hrunning message loading with ⟨kind, -, hreply⟩ | ⟨-, hexit⟩
      · generalize r.handle (.message message loading) = next at hreply h
        cases hreply <;> exact h
      · rw [hexit] at h
        exact h
    | socketClosed =>
      rw [handle, if_pos hrunning] at h
      cases h
    | nothingRead | socketError | quit | windowShown | windowClosed | windowDeleted =>
      rw [handle, if_pos hrunning] at h
      exact h
  · rw [handle_of_not_running hrunning] at h
    exact h

end InteractiveRunner

/-! ## Runs

What was asked and what was sent, over the past. A runner that has left or crashed is not asked
any more, so at most the last request is without a reply. -/

/-- The replies of a runner to what it has been asked for. -/
structure Answered (phase : Phase) (asked : List IpcMessageType) (replies : List QJsonObject) :
    Prop where
  /-- The replies are those to the requests, in their order. -/
  inOrder : replies.map Booster.header <+: asked.map some
  /-- The last request at most has none. -/
  missing : asked.length ≤ replies.length + 1
  /-- Only a crash leaves a request without a reply. -/
  complete : phase ≠ .crashed → replies.map Booster.header = asked.map some
  /-- A reply that reports a failure is the last one. -/
  failsLast : ∀ reply ∈ replies.dropLast, Booster.errorCode reply = 0
  /-- The process leaves after a reply that reports a failure. -/
  leaves : ∀ reply ∈ replies, Booster.errorCode reply ≠ 0 → phase = .exiting (-1)

namespace Answered

variable {phase phase' : Phase} {asked : List IpcMessageType} {replies : List QJsonObject}

/-- Nothing was asked. -/
theorem nil : Answered .running [] [] where
  inOrder := List.prefix_refl []
  missing := Nat.zero_le _
  complete _ := rfl
  failsLast _ h := nomatch h
  leaves _ h := nomatch h

/-- A runner that is running has reported no failure. -/
theorem succeeded (h : Answered .running asked replies) {reply : QJsonObject}
    (hreply : reply ∈ replies) : Booster.errorCode reply = 0 := by
  by_contra hfails
  cases h.leaves reply hreply hfails

/-- The process may end between two requests. -/
theorem quiet (h : Answered .running asked replies) : Answered phase asked replies where
  inOrder := h.inOrder
  missing := h.missing
  complete _ := h.complete Phase.noConfusion
  failsLast := h.failsLast
  leaves _ hreply hfails := absurd (h.succeeded hreply) hfails

/-- One more request is answered. -/
theorem reply (h : Answered .running asked replies) {reply : QJsonObject} {kind : IpcMessageType}
    (hheader : Booster.header reply = some kind)
    (hleaves : Booster.errorCode reply ≠ 0 → phase = .exiting (-1)) :
    Answered phase (asked ++ [kind]) (replies ++ [reply]) := by
  have hall : (replies ++ [reply]).map Booster.header = (asked ++ [kind]).map some := by
    rw [List.map_append, List.map_append, h.complete Phase.noConfusion, List.map_singleton,
      hheader, List.map_singleton]
  refine ⟨by rw [hall], ?_, fun _ => hall, ?_, ?_⟩
  · have hmissing := h.missing
    simp only [List.length_append, List.length_singleton]
    omega
  · rw [List.dropLast_concat]
    exact fun _ => h.succeeded
  · intro reply' hreply' hfails
    rcases List.mem_append.mp hreply' with hreply' | hreply'
    · exact absurd (h.succeeded hreply') hfails
    · rw [List.mem_singleton.mp hreply'] at hfails
      exact hleaves hfails

/-- One more request was made, and the process has crashed. -/
theorem crash (h : Answered .running asked replies) (kind : IpcMessageType) :
    Answered .crashed (asked ++ [kind]) replies where
  inOrder := by
    rw [h.complete Phase.noConfusion, List.map_append]
    exact List.prefix_append _ _
  missing := by
    have hlength := congrArg List.length (h.complete Phase.noConfusion)
    simp only [List.length_map, List.length_append, List.length_singleton] at hlength ⊢
    omega
  complete h := absurd rfl h
  failsLast := h.failsLast
  leaves _ hreply hfails := absurd (h.succeeded hreply) hfails

end Answered

/-- A history of a runner, with its replies set apart. -/
structure AnsweredSoFar (pid : Int) (h : RunnerHistory) : Prop where
  /-- The process has done what its events make it do. -/
  run : interactiveRunner.run (pooled pid) h.inputs = h
  /-- Behind the registration there are the replies. -/
  answered : ∃ replies, h.outputs = Booster.IpcClient.registerRequest pid :: replies ∧
    Answered h.state.phase
      (interactiveRunner.observe InteractiveRunner.asked (pooled pid) h.inputs) replies

/-- A runner of the pool has been asked nothing. -/
theorem AnsweredSoFar.pooled (pid : Int) : AnsweredSoFar pid (pooled pid) where
  run := rfl
  answered := ⟨[], rfl, .nil⟩

/-- An event asks for something and is answered, or it does not and nothing is sent. A request and
its reply are entered together, but for a request in which the process crashes. -/
theorem AnsweredSoFar.step {pid : Int} {h : RunnerHistory} (hs : AnsweredSoFar pid h)
    (e : RunnerEvent) : AnsweredSoFar pid (interactiveRunner.step h e) := by
  refine ⟨Machine.run_inputs_step hs.run e, ?_⟩
  obtain ⟨replies, houtputs, hanswered⟩ := hs.answered
  rw [Machine.observe_step _ hs.run, Machine.step_outputs, Machine.step_state, houtputs]
  show ∃ replies', _ :: (replies ++ (h.state.handle e).2) = _ ∧
    Answered (h.state.handle e).1.phase _ replies'
  by_cases hrunning : h.state.phase = .running
  · rw [hrunning] at hanswered
    cases hasked : h.state.asked e with
    -- nothing was asked, so the books of replies are the same
    | none =>
      rw [InteractiveRunner.outputs_of_not_asked hasked, List.append_nil]
      exact ⟨replies, rfl, by simpa using hanswered.quiet⟩
    -- a request is answered, or the process crashes before it could be
    | some kind =>
      rcases InteractiveRunner.reply_of_asked hasked with
        ⟨reply, hreply, hheader, -, hleaves⟩ | ⟨hnothing, hcrashed⟩
      · rw [hreply]
        exact ⟨replies ++ [reply], rfl, hanswered.reply hheader hleaves⟩
      · rw [hnothing, hcrashed, List.append_nil]
        exact ⟨replies, rfl, hanswered.crash kind⟩
  · -- a process that is not running is asked nothing
    have hasked : h.state.asked e = none := by
      cases hasked : h.state.asked e with
      | none => rfl
      | some kind =>
        obtain ⟨-, -, -, hrunning', -⟩ := InteractiveRunner.of_asked hasked
        exact absurd hrunning' hrunning
    rw [hasked, InteractiveRunner.handle_of_not_running hrunning]
    exact ⟨replies, by rw [List.append_nil], by simpa using hanswered⟩

/-- **A runner answers each request**: after its registration it sends one reply to each request,
in the order in which they arrive. Only the last one can report a failure, after which the runner
leaves; only the last request can be without a reply, when the process ends in it.

By induction with `AnsweredSoFar`. Its `Answered` depends on the phase: only a crash leaves a
request without a reply, and a reply that reports a failure sends the process away. -/
theorem answers_each_request (pid : Int) (es : List RunnerEvent) :
    ∃ replies, (interactiveRunner.run (pooled pid) es).outputs =
        Booster.IpcClient.registerRequest pid :: replies ∧
      Answered (interactiveRunner.run (pooled pid) es).state.phase
        (interactiveRunner.observe InteractiveRunner.asked (pooled pid) es) replies := by
  have hinv : AnsweredSoFar pid (interactiveRunner.run (pooled pid) es) :=
    Machine.invariant (fun _ e hs _ => hs.step e) (AnsweredSoFar.pooled pid)
      (interactiveRunner.admits_true (pooled pid) es)
  have hinputs := interactiveRunner.run_inputs (pooled pid) es
  obtain ⟨replies, houtputs, hanswered⟩ := hinv.answered
  rw [hinputs] at hanswered
  exact ⟨replies, houtputs, hanswered⟩

/-! ## Runs without a crash

The loader calls through a null pointer in two places: when a launch has made neither a window nor
an item, and when a relaunch finds the component ready but its window gone. -/

namespace InteractiveRunner

/-- A launch does not come to an object that is neither a window nor an item, unless it finds the
window closing and does nothing. A relaunch of a loaded application finds a window. -/
def Survives (r : InteractiveRunner) (loading : Loading) : Booster.IpcClient.Signal → Prop
  | .launchRequest .. => r.loader.closing = false → ¬ loading.NoWindow
  | .relaunchRequest _ => r.loader.ready = true → r.loader.window ≠ none
  | .exit => True

/-- The process survives what a message asks for. -/
def SurvivesEvent (h : RunnerHistory) : RunnerEvent → Prop
  | .message message loading => h.state.phase = .running →
      ∀ signal ∈ Booster.IpcClient.onMessage message, h.state.Survives loading signal
  | _ => True

/-- A signal crashes the process exactly if it does not find what it needs. What it needs is a
window, in the places where the code uses one without a look. -/
theorem onSignal_not_crashed_iff {r : InteractiveRunner} (hrunning : r.phase = .running)
    (loading : Loading) (signal : Booster.IpcClient.Signal) :
    (r.onSignal loading signal).1.phase ≠ .crashed ↔ r.Survives loading signal := by
  have hcrash : r.phase ≠ .crashed := by
    rw [hrunning]
    decide
  cases signal with
  -- the two calls that end in a null pointer are those without a window to show
  | launchRequest appId mainQml params =>
    show (r.onLaunchRequest appId mainQml params loading).1.phase ≠ _ ↔
      (r.loader.closing = false → ¬ loading.NoWindow)
    rw [← not_and, ← AppLoader.loadApplication_eq_none_iff r.loader appId params, onLaunchRequest]
    cases r.loader.loadApplication appId params loading with
    | none => exact iff_of_false (fun h => h rfl) (fun h => h rfl)
    | some result =>
      obtain ⟨loads, loader⟩ := result
      refine iff_of_true ?_ (Option.some_ne_none _)
      cases loads with
      | true => exact hcrash
      | false => exact Phase.noConfusion
  -- the window is written to without a look at whether it is there
  | relaunchRequest params =>
    show (r.onRelaunchRequest params).1.phase ≠ _ ↔
      (r.loader.ready = true → r.loader.window ≠ none)
    rw [ne_eq r.loader.window, ← AppLoader.reloadApplication_eq_none_iff r.loader params,
      onRelaunchRequest]
    by_cases hready : r.loader.ready = true
    · rw [if_pos hready]
      cases r.loader.reloadApplication params with
      | none => exact iff_of_false (fun h => h rfl) (fun h => h hready rfl)
      | some loader => exact iff_of_true hcrash fun _ => Option.some_ne_none _
    · rw [if_neg hready]
      exact iff_of_true Phase.noConfusion fun h => absurd h hready
  -- an exit is orderly
  | exit => exact iff_of_true Phase.noConfusion trivial

/-- So does an event. Only a message can be the end of it, and only while the process runs. -/
theorem handle_not_crashed_iff {h : RunnerHistory} (hcrash : h.state.phase ≠ .crashed)
    (e : RunnerEvent) : (h.state.handle e).1.phase ≠ .crashed ↔ SurvivesEvent h e := by
  by_cases hrunning : h.state.phase = .running
  · cases e with
    | message message loading =>
      obtain ⟨signal, hsignal⟩ := exists_onMessage message
      rw [handle_message_eq hrunning hsignal, onSignal_not_crashed_iff hrunning, SurvivesEvent,
        hsignal]
      simp [hrunning]
    | socketError | quit =>
      rw [handle, if_pos hrunning]
      exact iff_of_true Phase.noConfusion trivial
    | nothingRead | socketClosed | windowShown | windowClosed | windowDeleted =>
      rw [handle, if_pos hrunning]
      exact iff_of_true hcrash trivial
  · rw [handle_of_not_running hrunning]
    refine iff_of_true hcrash ?_
    cases e with
    | message message loading => exact fun h => absurd h hrunning
    | _ => trivial

end InteractiveRunner

/-- **The runner does not crash** exactly as long as no launch comes to an object that is neither a
window nor an item, and each relaunch of a loaded application finds its window. A launch that fails
does no harm, and neither does one that finds the window closing.

By `Machine.always_iff_admits`: the null pointers that can be followed are the window of a launch
and that of a relaunch, and `handle_not_crashed_iff` asks for both. -/
theorem never_crashes_iff (pid : Int) (es : List RunnerEvent) :
    interactiveRunner.Always (fun h => h.state.phase ≠ .crashed) (pooled pid) es ↔
      interactiveRunner.Admits InteractiveRunner.SurvivesEvent (pooled pid) es :=
  Machine.always_iff_admits (I := fun _ => True) (fun _ _ _ _ => trivial)
    (fun _ e _ hcrash _ => InteractiveRunner.handle_not_crashed_iff hcrash e) trivial
    Phase.noConfusion (interactiveRunner.admits_true (pooled pid) es)

end Runner
