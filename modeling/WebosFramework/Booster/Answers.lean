import Mathlib.Data.List.Flatten
import WebosFramework.Booster.Callbacks
import WebosFramework.Booster.LiveProcesses

/-!
# The answers to the launch requests

A launch request that the bus service has accepted is known by its token. It is answered when the
server calls the callback that was handed in with it, so it must not lose the callback: not to a
relaunch that is not sent, not to another relaunch of the same runner, and not with the runner.

* `Kept` is where a callback may be: called, deferred, or at a runner that is connected.
  `allKept_step_iff` says which events of the server keep all callbacks there.
* `AnswersInv` ties the tokens on the bus to the callbacks of the server.
* `launches_answered_iff`: no launch request is orphaned, exactly in the runs whose events all keep
  the callbacks.

The first half is about the server alone, with its callbacks; the second one looks at the tokens
on the bus, and `settled_iff` says that the two are the same.
-/

namespace Booster

open Qt EventLoop

namespace IpcServer

variable {κ : Type}

/-! ## Where a callback may be

A callback that was handed in has been called, waits with a deferred request, or waits for the
reply of a connected runner. `KeptInv` keeps the books over the past: what has been called and
what waits was handed in, each callback as often as it came. -/

/-- The callback waits for the reply of a runner that is connected. -/
def Held (srv : IpcServer κ) (c : κ) : Prop :=
  ∃ s p, (srv.socket s).phase = .connected ∧ (srv.socket s).pid = some p ∧
    srv.launchCallbacks[p]? = some (some c)

/-- What is held is among the callbacks that wait. -/
theorem Held.mem_someValues {srv : IpcServer κ} {c : κ} (h : Held srv c) :
    c ∈ QMap.someValues srv.launchCallbacks := by
  obtain ⟨s, p, -, -, hp⟩ := h
  exact QMap.mem_someValues.mpr ⟨p, hp⟩

/-- With no runner connected nothing waits for a reply. -/
theorem not_held {srv : IpcServer κ} (h : ∀ entry ∈ srv.sockets.toList, entry.2.phase ≠ .connected)
    (c : κ) : ¬ Held srv c := by
  rintro ⟨s, p, hs, -, -⟩
  obtain ⟨x, hx, hphase⟩ :=
    (exists_entry_iff srv s (P := fun x => x.phase = .connected) nofun).mpr hs
  exact h (s, x) hx hphase

/-- Where a callback that was handed in may be. -/
def Kept (h : ServerHistory κ) (c : κ) : Prop :=
  c ∈ h.outputs.flatMap called ∨ c ∈ h.state.deferredCallbacks ∨ Held h.state c

/-- Every callback that was handed in is called, deferred, or at a connected runner. -/
def AllKept (h : ServerHistory κ) : Prop := ∀ c ∈ h.inputs.flatMap handed, Kept h c

/-- The socket that is lost. -/
def leaves : ServerEvent κ → List SocketId
  | .socket (.disconnected s) => [s]
  | _ => []

/-- The event lets go of no callback, and no runner leaves while a callback waits for its reply. -/
def KeepsCallbacks (srv : IpcServer κ) (e : ServerEvent κ) : Prop :=
  dropped srv e = [] ∧ ∀ s ∈ leaves e, srv.launchCallback (srv.processId s) = none

instance (srv : IpcServer κ) : DecidablePred (KeepsCallbacks srv) := fun e =>
  inferInstanceAs (Decidable (dropped srv e = [] ∧
    ∀ s ∈ leaves e, srv.launchCallback (srv.processId s) = none))

/-- What is called and what waits was handed in, each callback as often. -/
structure KeptInv (h : ServerHistory κ) : Prop where
  /-- What is known of the places. -/
  places : CallbacksInv h.state
  /-- A callback that was handed in is called or waits once at most. -/
  flow : (h.outputs.flatMap called ++ h.state.pending).Subperm (h.inputs.flatMap handed)

/-- A new server has been handed nothing. -/
theorem keptInv_init : KeptInv (.init {} : ServerHistory κ) :=
  ⟨CallbacksInv.init, List.Subperm.refl _⟩

/-- What has been called and what waits, after an event. -/
theorem flow_step {h : ServerHistory κ} (hinv : CallbacksInv h.state) {e : ServerEvent κ}
    (he : h.state.RunnerProtocol e) :
    (h.outputs.flatMap called ++ h.state.pending ++ handed e).Perm
      (((ipcServer κ).step h e).outputs.flatMap called ++ ((ipcServer κ).step h e).state.pending ++
        dropped h.state e) := by
  rw [Machine.step_outputs, List.flatMap_append, List.append_assoc, List.append_assoc,
    List.append_assoc]
  refine ((callbacks_step hinv he).append_left _).trans (List.Perm.of_eq ?_)
  rw [List.append_assoc]
  rfl

/-- What an event hands in comes behind what was handed in before. -/
theorem handed_step (h : ServerHistory κ) (e : ServerEvent κ) :
    ((ipcServer κ).step h e).inputs.flatMap handed = h.inputs.flatMap handed ++ handed e := by
  rw [Machine.step_inputs, List.flatMap_append, List.flatMap_singleton]

/-- The balance of one event, added to that of the events before. -/
theorem keptInv_step {h : ServerHistory κ} (hinv : KeptInv h) {e : ServerEvent κ}
    (he : h.state.RunnerProtocol e) : KeptInv ((ipcServer κ).step h e) where
  places := hinv.places.step he
  flow := by
    rw [handed_step]
    have hflow := (flow_step hinv.places he).symm.subperm.trans
      (hinv.flow.append (List.Subperm.refl (handed e)))
    exact (List.sublist_append_left _ _).subperm.trans hflow

/-! ## One event

Two things may go wrong in one event: a callback is dropped, or a runner disconnects while a
callback waits for its reply. `allKept_iff` takes them apart, and `allKept_step_iff` shows that
they are the only ones. -/

/-- Every callback that waits at a runner waits at a connected one. -/
def NoneLost (srv : IpcServer κ) : Prop :=
  ∀ (p : Int) c, srv.launchCallbacks[p]? = some (some c) →
    ∃ s, (srv.socket s).phase = .connected ∧ (srv.socket s).pid = some p

/-- `AllKept` in two parts: nothing has disappeared, and nothing waits at a runner that is gone.
With fresh callbacks nothing can be in two places at once, so only these two things can go wrong. -/
theorem allKept_iff {h : ServerHistory κ} (hinv : KeptInv h)
    (hfresh : (h.inputs.flatMap handed).Nodup) :
    AllKept h ↔ h.inputs.flatMap handed ⊆ h.outputs.flatMap called ++ h.state.pending ∧
      NoneLost h.state := by
  -- no callback is in two places, since none has been handed over twice
  have hnodup : (h.outputs.flatMap called ++ h.state.pending).Nodup := by
    obtain ⟨l, hl, hsub⟩ := hinv.flow
    exact hl.nodup_iff.mp (hfresh.sublist hsub)
  constructor
  · intro hall
    refine ⟨fun c hc => ?_, fun p c hp => ?_⟩
    -- a callback that is called, deferred or at a runner has been called or waits
    · rcases hall c hc with hcalled | hdeferred | hheld
      · exact List.mem_append_left _ hcalled
      · exact List.mem_append_right _ (List.mem_append_left _ hdeferred)
      · exact List.mem_append_right _ (List.mem_append_right _ hheld.mem_someValues)
    · -- `c` is in its place and nowhere else
      have hplace : c ∈ QMap.someValues h.state.launchCallbacks := QMap.mem_someValues.mpr ⟨p, hp⟩
      have hpending : c ∈ h.state.pending := List.mem_append_right _ hplace
      obtain ⟨-, hwaiting, hdisjoint⟩ := List.nodup_append.mp hnodup
      obtain ⟨-, hplaces, hdisjoint'⟩ := List.nodup_append.mp hwaiting
      rcases hall c (hinv.flow.subset (List.mem_append_right _ hpending)) with
        hcalled | hdeferred | ⟨s, q, hs, hsq, hq⟩
      · exact absurd rfl (hdisjoint c hcalled c hpending)
      · exact absurd rfl (hdisjoint' c hdeferred c hplace)
      · exact ⟨s, hs, QMap.key_unique hplaces hp hq ▸ hsq⟩
  · rintro ⟨hsub, hlost⟩ c hc
    -- the callbacks that wait are the deferred ones and those in a place
    rcases List.mem_append.mp (hsub hc) with hcalled | hpending
    · exact .inl hcalled
    · rcases List.mem_append.mp hpending with hdeferred | hplace
      · exact .inr (.inl hdeferred)
      · obtain ⟨p, hp⟩ := QMap.mem_someValues.mp hplace
        obtain ⟨s, hs, hsp⟩ := hlost p c hp
        exact .inr (.inr ⟨s, p, hs, hsp, hp⟩)

/-- A socket that is connected stays so until its `disconnected` is handled. -/
theorem connected_step {srv : IpcServer κ} {e : ServerEvent κ} (hlife : srv.SocketLife e)
    {s : SocketId} (hs : (srv.socket s).phase = .connected) (hleaves : s ∉ leaves e) :
    ((srv.handle e).1.socket s).phase = .connected := by
  cases socket_step srv e s with
  | unchanged hx => exact hx ▸ hs
  | opened he hx => rw [hx]
  | closing hpid happ hphase =>
    rcases hphase with hphase | rfl | rfl
    · exact hphase.trans hs
    · exact absurd (List.mem_singleton_self s) hleaves
    · -- only a disconnected socket is deleted
      cases hs.symm.trans hlife
  | registered _ _ _ _ _ hphase | launched _ _ hphase => exact hphase.trans hs

/-- The pid of a place, by a socket that has registered. -/
theorem CallbacksInv.processId_of_place {srv : IpcServer κ} (h : CallbacksInv srv) {s : SocketId}
    {v : Option κ} (hs : srv.launchCallbacks[srv.processId s]? = some v) :
    (srv.socket s).pid = some (srv.processId s) := by
  cases hp : (srv.socket s).pid with
  | some p => simp [processId, hp]
  | none =>
    obtain ⟨t, _, ht, _⟩ := h.places (srv.processId s) (by rw [hs]; exact Option.some_ne_none v)
    rw [processId, hp] at ht
    exact absurd ht (h.nonzero t)

/-- Callbacks go to connected runners, so one is lost only with its runner. What may leave a
callback behind is the end of its runner, and `leaves` says which runners an event ends. -/
theorem noneLost_step {srv : IpcServer κ} (hinv : CallbacksInv srv) (hlost : NoneLost srv)
    {e : ServerEvent κ} (he : srv.RunnerProtocol e) :
    NoneLost (srv.handle e).1 ↔ ∀ s ∈ leaves e, srv.launchCallback (srv.processId s) = none := by
  have hkept := hinv.kept he.life he.once
  have hinv' := hinv.step he
  constructor
  -- a runner that leaves with a callback in its place would leave it lost
  · intro hlost' s hleaves
    cases hcallback : srv.launchCallback (srv.processId s) with
    | none => rfl
    | some c =>
      have hplace : srv.launchCallbacks[srv.processId s]? = some (some c) :=
        Option.join_eq_some_iff.mp hcallback
      have hpid := hinv.processId_of_place hplace
      -- the place is still there, but its only socket is not connected
      have hgone : ((srv.handle e).1.socket s).phase = .disconnected ∧
          (srv.handle e).1.launchCallbacks = srv.launchCallbacks := by
        unfold leaves at hleaves
        split at hleaves
        · rename_i t
          obtain rfl := List.mem_singleton.mp hleaves
          exact ⟨by simp [handle, onSocketEvent, onDisconnected], rfl⟩
        · exact absurd hleaves List.not_mem_nil
      obtain ⟨t, ht, htp⟩ := hlost' _ c (by rw [hgone.2]; exact hplace)
      rw [hinv'.distinct t s _ htp ((hkept s).1 _ hpid), hgone.1] at ht
      cases ht
  · intro hleaves p c hp
    -- a callback that waited before waits at a runner that stays
    have hold (hp : srv.launchCallbacks[p]? = some (some c)) :
        ∃ s, ((srv.handle e).1.socket s).phase = .connected ∧
          ((srv.handle e).1.socket s).pid = some p := by
      obtain ⟨s, hs, hsp⟩ := hlost p c hp
      refine ⟨s, connected_step he.life hs fun hmem => ?_, (hkept s).1 p hsp⟩
      have hnone := hleaves s hmem
      rw [launchCallback, processId, hsp, Option.getD_some, hp] at hnone
      cases hnone
    have hex := exchange hinv he
    -- what waits now has waited before, or was sent with this event
    cases hex with
    | quiet hanswers hwrites hcalled hplaces => exact hold (hplaces ▸ hp)
    | sent s request q hanswers hwrites hcalled hplaces hdeferred hsent =>
      rw [hplaces, QMap.getElem?_insert] at hp
      split at hp
      · -- the new callback waits at the runner that was sent the request
        rename_i hqp
        exact ⟨s, hsent.connected, hqp ▸ hsent.pid⟩
      · exact hold hp
    | answered s hanswers hwrites hcalled hplaces =>
      rw [hplaces, QMap.getElem?_erase] at hp
      split at hp
      · cases hp
      · exact hold hp

/-- **One event.** It keeps every callback where a callback may be, exactly when it lets go of none
and no runner leaves with one. -/
theorem allKept_step_iff {h : ServerHistory κ} (hinv : KeptInv h) (hall : AllKept h)
    {e : ServerEvent κ} (he : h.state.RunnerProtocol e)
    (hfresh : (((ipcServer κ).step h e).inputs.flatMap handed).Nodup) :
    AllKept ((ipcServer κ).step h e) ↔ KeepsCallbacks h.state e := by
  have hfresh₀ := hfresh
  rw [handed_step] at hfresh₀
  obtain ⟨hsub, hlost⟩ := (allKept_iff hinv (List.nodup_append.mp hfresh₀).1).mp hall
  rw [allKept_iff (keptInv_step hinv he) hfresh, KeepsCallbacks]
  -- the second halves agree; the first is about `dropped`
  refine and_congr ?_ (noneLost_step hinv.places hlost he)
  have hflow := flow_step hinv.places he
  rw [handed_step]
  constructor
  -- a callback that the event drops would be lost
  · intro hsub'
    -- what is dropped is neither called nor waits, for each callback is there once
    have hnodup : (h.outputs.flatMap called ++ h.state.pending ++ handed e).Nodup := by
      obtain ⟨l, hl, hsublist⟩ := hinv.flow.append (List.Subperm.refl (handed e))
      exact hl.nodup_iff.mp (hfresh₀.sublist hsublist)
    have hdisjoint := (List.nodup_append.mp (hflow.nodup_iff.mp hnodup)).2.2
    refine List.eq_nil_iff_forall_not_mem.mpr fun c hc => ?_
    have hhanded : c ∈ h.inputs.flatMap handed ++ handed e :=
      (hinv.flow.append (List.Subperm.refl (handed e))).subset
        (hflow.mem_iff.mpr (List.mem_append_right _ hc))
    exact hdisjoint c (hsub' hhanded) c hc rfl
  -- nothing is dropped, so what was handed in is called or waits
  · intro hdropped c hc
    rw [hdropped, List.append_nil] at hflow
    refine hflow.subset ?_
    rcases List.mem_append.mp hc with hc | hc
    · exact List.mem_append_left _ (hsub hc)
    · exact List.mem_append_right _ hc

end IpcServer

namespace Daemon

variable {fromJson : String → QJsonObject}

/-! ## On the bus

A callback stands for a message of the bus, which is known by its token. This section says what an
event answers: its own message at once, or those whose callbacks the server calls. -/

/-- The message an output answers, by its token. -/
def responses : BusOutput → List Nat
  | .respond msg _ => [msg.token]
  | _ => []

/-- The message an event brings from the bus, by its token. -/
def tokens : Event → List Nat
  | .launch msg _ | .close msg _ | .running msg => [msg.token]
  | _ => []

/-- The launch request an event brings, if the service accepts it. -/
def acceptedLaunches : Event → List Nat
  | .launch msg _ => if msg.payload.isSome then [msg.token] else []
  | _ => []

/-- The message the service answers while it handles the event. -/
def answeredAtOnce : Event → List Nat
  | .launch msg _ => if msg.payload.isSome then [] else [msg.token]
  | .close msg _ => [msg.token]
  | .running msg => (LunaService.running ∅ msg).flatMap responses
  | _ => []

/-- Each message of the bus has a token of its own. -/
def FreshTokens (h : DaemonHistory) (e : Event) : Prop :=
  ∀ t ∈ tokens e, t ∉ h.inputs.flatMap tokens

instance (h : DaemonHistory) : DecidablePred (FreshTokens h) := fun e =>
  inferInstanceAs (Decidable (∀ t ∈ tokens e, t ∉ h.inputs.flatMap tokens))

/-- A message is answered at once, or its launch request is accepted. -/
theorem accepted_append_answeredAtOnce (e : Event) :
    (acceptedLaunches e ++ answeredAtOnce e).Sublist (tokens e) := by
  cases e with
  | launch msg now =>
    simp only [acceptedLaunches, answeredAtOnce, tokens]
    split <;> exact List.Sublist.refl _
  | running msg =>
    simp only [acceptedLaunches, answeredAtOnce, tokens, LunaService.running, List.nil_append]
    split
    · exact List.nil_sublist _
    · exact List.Sublist.refl _
  | close | socket | timer | processFinished | processError | processDestroyed =>
    exact List.Sublist.refl _

/-- A callback answers its message, once. -/
theorem responses_answer (runningApps : QMap String Int) (pid : Int) (callback : LaunchCallback) :
    (LunaService.answer runningApps pid callback).flatMap responses = [callback.msg.token] := by
  cases callback <;> simp only [LunaService.answer] <;> split <;> rfl

/-- A request to close is answered at once. -/
theorem responses_close (runningApps : QMap String Int) (msg : LunaServiceMessage) :
    responses (LunaService.close runningApps msg).1 = [msg.token] := by
  unfold LunaService.close
  split
  · rfl
  · dsimp only
    split
    · rfl
    · split <;> rfl

/-- The answers that come of the callbacks the server calls are one for each. -/
theorem responses_toBus (runningApps : QMap String Int) (outs : List (Output LaunchCallback)) :
    (outs.flatMap (toBus runningApps)).flatMap responses =
      (outs.flatMap IpcServer.called).map (·.msg.token) := by
  rw [List.flatMap_assoc, List.map_flatMap]
  refine List.flatMap_congr fun out _ => ?_
  cases out with
  | called callback pid => exact responses_answer runningApps pid callback
  | connectedRunnersCountChanged | runnerRegistered | runnerLaunched | write
  | disconnectFromServer => rfl

/-- What an event answers: its own message, or those whose callbacks the server calls. The second
part is where the server comes in: the bus is told by the callbacks that the slot calls. -/
theorem responses_handle (fromJson : String → QJsonObject) (d : Daemon) (e : Event) :
    (d.handle fromJson e).2.flatMap responses = answeredAtOnce e ++
      match d.serverEvent fromJson e with
      | some e' => ((d.server.state.handle e').2.flatMap IpcServer.called).map (·.msg.token)
      | none => [] := by
  cases e with
  | socket e => exact responses_toBus _ _
  | launch msg now =>
    simp only [handle, serverEvent]
    cases hlaunch : LunaService.launch fromJson d.server.state.runningApps msg now with
    -- a message without an object is answered with an error, at once
    | error reply =>
      obtain ⟨hpayload, rfl⟩ := LunaService.launch_error hlaunch
      simp [answeredAtOnce, hpayload, LunaService.replyError, responses]
    -- any other message is handed to the server with its callback
    | ok e' =>
      obtain ⟨obj, hobj, -⟩ := LunaService.launch_ok hlaunch
      simp only [answeredAtOnce, hobj, Option.isSome_some, if_true, List.nil_append]
      exact responses_toBus _ _
  | close msg now =>
    have hclose : responses (LunaService.close d.server.state.runningApps msg).1 = [msg.token] :=
      responses_close _ msg
    simp only [handle, serverEvent]
    split <;> simpa [answeredAtOnce] using hclose
  | running msg =>
    simp only [handle, serverEvent, answeredAtOnce, LunaService.running]
    split <;> rfl
  -- the end of a process publishes the list and answers nobody
  | processFinished pid exitCode exitStatus =>
    show (([] : List BusOutput) ++ [_, _]).flatMap responses = _
    rfl
  | timer | processError | processDestroyed => rfl

/-- The callbacks an event hands to the server are those of the launch requests it brings. -/
theorem handed_serverEvent (fromJson : String → QJsonObject) (d : Daemon) (e : Event) :
    (match d.serverEvent fromJson e with
      | some e' => (IpcServer.handed e').map (·.msg.token)
      | none => []) = acceptedLaunches e := by
  cases e with
  | launch msg now =>
    simp only [serverEvent]
    cases hlaunch : LunaService.launch fromJson d.server.state.runningApps msg now with
    | error reply =>
      obtain ⟨hpayload, -⟩ := LunaService.launch_error hlaunch
      simp [acceptedLaunches, hpayload]
    | ok e' =>
      obtain ⟨obj, hobj, ⟨-, rfl⟩ | ⟨-, rfl⟩⟩ := LunaService.launch_ok hlaunch <;>
        simp [acceptedLaunches, hobj, IpcServer.handed, LaunchCallback.msg]
  | socket | close | running | timer | processFinished | processError | processDestroyed => rfl

/-! ## The tokens and the callbacks

With fresh tokens, what the bus has heard and what the server has called are the same books. So
the result about callbacks becomes one about messages, and `launches_answered_iff` is read off it.
-/

/-- The tokens on the bus and the callbacks of the server. -/
structure AnswersInv (h : DaemonHistory) : Prop where
  /-- What is known of the callbacks. -/
  server : IpcServer.KeptInv h.state.server
  /-- No token is used twice. -/
  fresh : (h.inputs.flatMap tokens).Nodup
  /-- The server has been handed one callback for each accepted launch. -/
  handed : (h.state.server.inputs.flatMap IpcServer.handed).map (·.msg.token) =
    h.inputs.flatMap acceptedLaunches
  /-- The answers are those given at once, and one for each callback that was called. -/
  answered : (h.outputs.flatMap responses).Perm (h.inputs.flatMap answeredAtOnce ++
    (h.state.server.outputs.flatMap IpcServer.called).map (·.msg.token))

/-- A daemon that starts has been asked nothing. -/
theorem answersInv_start (maxCached : Int) (runnerCommand : String) :
    AnswersInv (.init (start maxCached runnerCommand)) :=
  ⟨IpcServer.keptInv_init, List.nodup_nil, rfl, .refl _⟩

/-- Every event keeps the tokens and the callbacks together: each of the four parts grows by what
the event brings. -/
theorem answersInv_step {h : DaemonHistory} (hinv : AnswersInv h) {e : Event}
    (he : h.state.RunnerProtocol fromJson e) (hfresh : FreshTokens h e) :
    AnswersInv ((boosterd fromJson).step h e) := by
  have hserver := server_step fromJson h e
  have hhanded := handed_serverEvent fromJson h.state e
  have hresponses := responses_handle fromJson h.state e
  have hout : ((boosterd fromJson).step h e).outputs.flatMap responses =
      h.outputs.flatMap responses ++ (h.state.handle fromJson e).2.flatMap responses := by
    rw [Machine.step_outputs, List.flatMap_append]
    rfl
  have hin {f : Event → List Nat} : ((boosterd fromJson).step h e).inputs.flatMap f =
      h.inputs.flatMap f ++ f e := by
    rw [Machine.step_inputs, List.flatMap_append, List.flatMap_singleton]
  refine ⟨?_, ?_, ?_, ?_⟩
  · -- the server has had one event, or none
    cases hevent : h.state.serverEvent fromJson e with
    | none =>
      rw [hevent] at hserver
      exact hserver ▸ hinv.server
    | some e' =>
      rw [hevent] at hserver
      exact hserver ▸ IpcServer.keptInv_step hinv.server (he e' hevent)
  · -- the token of the event is a new one
    rw [hin]
    refine List.nodup_append.mpr ⟨hinv.fresh, ?_, fun t ht u hu => ?_⟩
    · cases e <;> simp [tokens]
    · rintro rfl
      exact hfresh t hu ht
  · -- a launch request is accepted with the callback that is handed in
    rw [hin, ← hinv.handed, ← hhanded, hserver]
    cases h.state.serverEvent fromJson e with
    | none => exact (List.append_nil _).symm
    | some e' => simp
  · rw [hout, hin, hresponses, hserver]
    -- both sides grow by what the event answers at once and by what the server calls
    have hgrow (new : List Nat) : (h.outputs.flatMap responses ++ (answeredAtOnce e ++ new)).Perm
        (h.inputs.flatMap answeredAtOnce ++ answeredAtOnce e ++
          ((h.state.server.outputs.flatMap IpcServer.called).map (·.msg.token) ++ new)) := by
      refine (hinv.answered.append_right _).trans ?_
      simp only [List.append_assoc]
      refine List.Perm.append_left _ ?_
      rw [← List.append_assoc, ← List.append_assoc]
      exact List.perm_append_comm.append_right new
    cases h.state.serverEvent fromJson e with
    | none => simpa using hgrow []
    | some e' =>
      refine (hgrow _).trans (List.Perm.of_eq ?_)
      simp [Machine.step_outputs, ipcServer, List.flatMap_append]

/-- The message is answered once, or its callback waits in the deferred requests or for the reply of
a connected runner. -/
def Settled (h : DaemonHistory) (t : Nat) : Prop :=
  (h.outputs.flatMap responses).count t = 1 ∨
    (h.outputs.flatMap responses).count t = 0 ∧
      ((∃ c ∈ h.state.server.state.deferredCallbacks, c.msg.token = t) ∨
        ∃ c, IpcServer.Held h.state.server.state c ∧ c.msg.token = t)

/-- No accepted launch request is orphaned. -/
def NoneOrphaned (h : DaemonHistory) : Prop :=
  ∀ t ∈ h.inputs.flatMap acceptedLaunches, Settled h t

namespace AnswersInv

variable {h : DaemonHistory}

/-- No launch request is also answered at once, and none is accepted twice. -/
theorem nodup_accepted (hinv : AnswersInv h) :
    (h.inputs.flatMap acceptedLaunches ++ h.inputs.flatMap answeredAtOnce).Nodup := by
  have hsub := List.Sublist.flatMap_right h.inputs fun e _ => accepted_append_answeredAtOnce e
  exact (List.flatMap_append_perm _ _ _).nodup_iff.mpr (hinv.fresh.sublist hsub)

/-- The callbacks that were handed in are told apart by their tokens. -/
theorem nodup_handed (hinv : AnswersInv h) :
    ((h.state.server.inputs.flatMap IpcServer.handed).map (·.msg.token)).Nodup := by
  rw [hinv.handed]
  exact (List.nodup_append.mp hinv.nodup_accepted).1

/-- What is called and what waits, by token. -/
theorem nodup_flow (hinv : AnswersInv h) :
    ((h.state.server.outputs.flatMap IpcServer.called ++ h.state.server.state.pending).map
      (·.msg.token)).Nodup := by
  obtain ⟨l, hl, hsub⟩ := hinv.server.flow
  exact (hl.map _).nodup_iff.mp (hinv.nodup_handed.sublist (hsub.map _))

/-- A launch request is answered as often as its callback is called. -/
theorem count_responses (hinv : AnswersInv h) {t : Nat}
    (ht : t ∈ h.inputs.flatMap acceptedLaunches) :
    (h.outputs.flatMap responses).count t =
      ((h.state.server.outputs.flatMap IpcServer.called).map (·.msg.token)).count t := by
  have hnot : t ∉ h.inputs.flatMap answeredAtOnce := fun hmem =>
    (List.nodup_append.mp hinv.nodup_accepted).2.2 t ht t hmem rfl
  rw [hinv.answered.count_eq, List.count_append, List.count_eq_zero_of_not_mem hnot, Nat.zero_add]

/-- A launch request is settled exactly when its callback is where it may be. The token of a request
and its callback lead to each other, so the two notions say the same of bus and server. -/
theorem settled_iff (hinv : AnswersInv h) {c : LaunchCallback}
    (hc : c ∈ h.state.server.inputs.flatMap IpcServer.handed) :
    Settled h c.msg.token ↔ IpcServer.Kept h.state.server c := by
  have haccepted : c.msg.token ∈ h.inputs.flatMap acceptedLaunches :=
    hinv.handed ▸ List.mem_map_of_mem hc
  have hflow := hinv.nodup_flow
  rw [List.map_append] at hflow
  obtain ⟨hcalled, -, hdisjoint⟩ := List.nodup_append.mp hflow
  -- the token tells the callbacks apart
  have hinj {c' : LaunchCallback} (hc' : c' ∈ h.state.server.outputs.flatMap IpcServer.called ++
      h.state.server.state.pending) (htoken : c'.msg.token = c.msg.token) : c' = c :=
    List.inj_on_of_nodup_map hinv.nodup_handed (hinv.server.flow.subset hc') hc htoken
  have hzero (hc : c ∈ h.state.server.state.pending) :
      ((h.state.server.outputs.flatMap IpcServer.called).map (·.msg.token)).count c.msg.token = 0 :=
    List.count_eq_zero_of_not_mem fun hmem =>
      hdisjoint _ hmem _ (List.mem_map_of_mem hc) rfl
  rw [Settled, hinv.count_responses haccepted]
  constructor
  · -- a token that was answered belongs to the callback that was called, and likewise for the two
    -- others
    rintro (hone | ⟨-, ⟨c', hc', htoken⟩ | ⟨c', hc', htoken⟩⟩)
    · obtain ⟨c', hc', htoken⟩ := List.mem_map.mp (List.count_pos_iff.mp (by omega :
        0 < ((h.state.server.outputs.flatMap IpcServer.called).map
          (·.msg.token)).count c.msg.token))
      exact .inl (hinj (List.mem_append_left _ hc') htoken ▸ hc')
    · have hmem := List.mem_append_right (h.state.server.outputs.flatMap IpcServer.called)
        (List.mem_append_left (QMap.someValues h.state.server.state.launchCallbacks) hc')
      exact .inr (.inl (hinj hmem htoken ▸ hc'))
    · have hmem := List.mem_append_right (h.state.server.outputs.flatMap IpcServer.called)
        (List.mem_append_right h.state.server.state.deferredCallbacks hc'.mem_someValues)
      exact .inr (.inr (hinj hmem htoken ▸ hc'))
  · -- where the callback is tells what has become of its token
    rintro (hmem | hmem | hheld)
    · exact .inl (List.count_eq_one_of_mem hcalled (List.mem_map_of_mem hmem))
    · exact .inr ⟨hzero (List.mem_append_left _ hmem), .inl ⟨c, hmem, rfl⟩⟩
    · exact .inr ⟨hzero (List.mem_append_right _ hheld.mem_someValues), .inr ⟨c, hheld, rfl⟩⟩

/-- On the bus nothing is orphaned exactly if the server has kept every callback. -/
theorem noneOrphaned_iff (hinv : AnswersInv h) :
    NoneOrphaned h ↔ IpcServer.AllKept h.state.server := by
  rw [NoneOrphaned, ← hinv.handed]
  constructor
  · exact fun hall c hc => (hinv.settled_iff hc).mp (hall _ (List.mem_map_of_mem hc))
  · intro hall t ht
    obtain ⟨c, hc, rfl⟩ := List.mem_map.mp ht
    exact (hinv.settled_iff hc).mpr (hall c hc)

end AnswersInv

/-- The slot of the server that an event runs, if it runs one, keeps the callbacks. -/
def KeepsCallbacks (fromJson : String → QJsonObject) (d : Daemon) (e : Event) : Prop :=
  ∀ e' ∈ d.serverEvent fromJson e, d.server.state.KeepsCallbacks e'

instance (fromJson : String → QJsonObject) (d : Daemon) :
    DecidablePred (d.KeepsCallbacks fromJson) := fun e =>
  inferInstanceAs (Decidable (∀ e' ∈ d.serverEvent fromJson e, d.server.state.KeepsCallbacks e'))

/-- **One event** orphans nothing exactly if the slot of the server that it runs keeps the
callbacks. An event that runs none changes nothing. -/
theorem noneOrphaned_step_iff {h : DaemonHistory} (hinv : AnswersInv h) (hnone : NoneOrphaned h)
    {e : Event} (he : h.state.RunnerProtocol fromJson e) (hfresh : FreshTokens h e) :
    NoneOrphaned ((boosterd fromJson).step h e) ↔ h.state.KeepsCallbacks fromJson e := by
  have hserver := server_step fromJson h e
  have hinv' := answersInv_step hinv he hfresh
  have hall := hinv.noneOrphaned_iff.mp hnone
  rw [hinv'.noneOrphaned_iff, KeepsCallbacks]
  cases hevent : h.state.serverEvent fromJson e with
  | none =>
    rw [hevent] at hserver
    rw [hserver]
    exact ⟨fun _ => nofun, fun _ => hall⟩
  | some e' =>
    rw [hevent] at hserver
    have hnodup := hinv'.nodup_handed.of_map
    rw [hserver] at hnodup ⊢
    rw [IpcServer.allKept_step_iff hinv.server hall (he e' hevent) hnodup]
    exact ⟨fun hkeeps e'' he'' => Option.some.inj he'' ▸ hkeeps, fun hkeeps => hkeeps e' rfl⟩

/-- **No launch request is orphaned**, exactly in the runs in which no callback is dropped and no
runner disconnects while a callback waits for its reply.

By `Machine.always_iff_admits` with `AnswersInv`. As no token is used twice, an answer on the bus is
the call of one callback, so the question is which callbacks the server keeps. -/
theorem launches_answered_iff (fromJson : String → QJsonObject) (maxCached : Int)
    (runnerCommand : String) (es : List Event)
    (hes : (boosterd fromJson).Admits (fun h e => h.state.RunnerProtocol fromJson e ∧
      FreshTokens h e) (.init (start maxCached runnerCommand)) es) :
    (boosterd fromJson).Always NoneOrphaned (.init (start maxCached runnerCommand)) es ↔
      (boosterd fromJson).Admits (fun h e => h.state.KeepsCallbacks fromJson e)
        (.init (start maxCached runnerCommand)) es :=
  Machine.always_iff_admits (I := AnswersInv) (fun _ _ hinv he => answersInv_step hinv he.1 he.2)
    (fun _ _ hinv hnone he => noneOrphaned_step_iff hinv hnone he.1 he.2)
    (answersInv_start maxCached runnerCommand) nofun hes

/-- A launch that waits for a runner, a failed one, and a relaunch that is answered. -/
def launchAndAnswer : List Event :=
  [.launch ⟨0, some (({} : QJsonObject).insert "appId" (.string "com.webos.app.a"))⟩ 10,
    .timer 1 100 1000,
    .socket (.newConnection 1),
    .socket (.readSocket 1 (IpcClient.registerRequest 100) 1010),
    .socket (.readSocket 1 (IpcClient.launchReply "" true) 1020),
    .launch ⟨1, some (({} : QJsonObject).insert "appId" (.string "com.webos.app.a"))⟩ 1030,
    .socket (.readSocket 1 (IpcClient.relaunchReply true) 1040),
    .close ⟨2, some (({} : QJsonObject).insert "appId" (.string "com.webos.app.a"))⟩ 1050,
    .socket (.disconnected 1),
    .processFinished 100 0 .normalExit]

/-- Both launches are answered, and so is the request to close. -/
theorem launches_answered_launchAndAnswer :
    (boosterd fun _ => {}).Always NoneOrphaned (.init (start 1 "qml-runner --interactive"))
      launchAndAnswer :=
  (launches_answered_iff _ _ _ launchAndAnswer (by decide)).mpr (by decide)

/-- A runner disconnects before it replies to its LAUNCH_REQUEST. -/
def runnerLost : List Event :=
  [.timer 1 100 0,
    .socket (.newConnection 1),
    .socket (.readSocket 1 (IpcClient.registerRequest 100) 10),
    .launch ⟨0, some (({} : QJsonObject).insert "appId" (.string "com.webos.app.a"))⟩ 20,
    .socket (.disconnected 1),
    .processFinished 100 1 .crashExit]

/-- An application is launched again when its runner is gone and its process has not finished. -/
def relaunchLost : List Event :=
  [.timer 1 100 0,
    .socket (.newConnection 1),
    .socket (.readSocket 1 (IpcClient.registerRequest 100) 10),
    .launch ⟨0, some (({} : QJsonObject).insert "appId" (.string "com.webos.app.a"))⟩ 20,
    .socket (.readSocket 1 (IpcClient.launchReply "" true) 30),
    .socket (.disconnected 1),
    .launch ⟨1, some (({} : QJsonObject).insert "appId" (.string "com.webos.app.a"))⟩ 40]

/-- Neither the lost launch nor the lost relaunch is answered, deferred or held. Both runs keep to
the protocol, and in both a runner goes while a callback waits for its reply. -/
theorem not_launches_answered_runnerLost :
    (boosterd fun _ => {}).Admits (fun h e => h.state.DaemonProtocol (fun _ => {}) e ∧
        FreshTokens h e) (.init (start 1 "qml-runner --interactive")) runnerLost ∧
      ¬ (boosterd fun _ => {}).Always NoneOrphaned (.init (start 1 "qml-runner --interactive"))
        runnerLost ∧
      (boosterd fun _ => {}).Admits (fun h e => h.state.DaemonProtocol (fun _ => {}) e ∧
        FreshTokens h e) (.init (start 1 "qml-runner --interactive")) relaunchLost ∧
      ¬ (boosterd fun _ => {}).Always NoneOrphaned (.init (start 1 "qml-runner --interactive"))
        relaunchLost := by
  refine ⟨by decide, fun hall => ?_, by decide, fun hall => ?_⟩
  · rcases hall.last 0 (by decide) with hone | ⟨-, ⟨c, hc, -⟩ | ⟨c, hheld, -⟩⟩
    · revert hone
      decide
    · cases hc
    · exact IpcServer.not_held (by decide) c hheld
  · rcases hall.last 1 (by decide) with hone | ⟨-, ⟨c, hc, -⟩ | ⟨c, hheld, -⟩⟩
    · revert hone
      decide
    · cases hc
    · exact IpcServer.not_held (by decide) c hheld

end Daemon

end Booster
