import WebosFramework.Booster.IpcClient
import WebosFramework.Booster.Sockets
import WebosFramework.Lib.Queue

/-!
# The launch requests and the pool

A launch request meets a runner in two places: `launch` takes runners from the pool, and a
REGISTER_REQUEST takes the head of `m_deferredMessages` and calls `launch` with it, which may put it
back. The server is a queue in the sense of `Lib.Queue`: `accepted` is what comes in, `launches`
what goes out and `m_deferredMessages` what waits.

* `idle`: while a request waits, the pool is empty. Every handler restores it.
* `launch_conservation`: no request is lost or written twice, and no runner is sent two.
* `first_come_first_served`: a request that is put back goes to the tail, so the order is kept as
  long as that happens to no request with another one behind it.

`Launched` says whether a request has found a runner, so that there are two cases wherever a
request is taken up. What comes back to the queue is the same request, with the runners skipped
gone.
-/

namespace Booster

open Qt EventLoop

namespace IpcServer

variable {κ : Type}

/-! ## What comes in and what goes out

A launch request is accepted by an event, waits in `m_deferredMessages`, and is served by a
LAUNCH_REQUEST. `launch_cases` names the only two handlers that write one. -/

/-- The launch request an event brings. -/
def accepted : ServerEvent κ → List (Message κ)
  | .launch message _ => [message]
  | _ => []

/-- The LAUNCH_REQUEST an output is, with the socket it is written to. -/
def launches : Output κ → List (SocketId × Message κ)
  | .write s (.launch message _) => [(s, message)]
  | _ => []

/-- The launch request an output serves. -/
def served (out : Output κ) : List (Message κ) := (launches out).map Prod.snd

/-- Calling a callback sends no request. -/
theorem flatMap_launches_call (callback : Option κ) (pid : Int) :
    (call callback pid).flatMap launches = [] := by
  cases callback <;> rfl

/-- The requests are those sent, whoever they were sent to. -/
theorem flatMap_served (outs : List (Output κ)) :
    outs.flatMap served = (outs.flatMap launches).map Prod.snd :=
  List.map_flatMap.symm

/-- What a `launch` writes, next to what it leaves in `m_deferredMessages`. -/
theorem launches_of_launched {srv : IpcServer κ} {message : Message κ} {now : Int}
    {result : IpcServer κ × List (Output κ)} (hl : Launched srv message now result) :
    (∃ s ∈ srv.runnerClients, srv.usable s = true ∧ result.2.flatMap launches = [(s, message)] ∧
        result.1.deferredMessages = srv.deferredMessages ∧
        (result.1.socket s).appId = some message.appId) ∨
      (∀ s ∈ srv.runnerClients, srv.usable s = false) ∧ result.2.flatMap launches = [] ∧
        result.1.deferredMessages = srv.deferredMessages ++ [message] := by
  cases hl with
  | placed skipped s clients counts hpool hskipped husable =>
    refine .inl ⟨s, by simp [hpool], husable, ?_, rfl, by rw [socket_place, if_pos rfl]⟩
    rw [List.flatMap_append, flatMap_counts fun _ => rfl]
    rfl
  | deferred counts hskipped =>
    exact .inr ⟨hskipped, flatMap_counts (fun _ => rfl) counts, rfl⟩

/-- Only `launch` and a REGISTER_REQUEST that finds a request waiting write a LAUNCH_REQUEST or
touch `m_deferredMessages`. -/
theorem launch_cases {srv : IpcServer κ} {e : ServerEvent κ}
    {result : IpcServer κ × List (Output κ)} (ht : Transition srv e result) :
    (accepted e = [] ∧ result.2.flatMap launches = [] ∧
        result.1.deferredMessages = srv.deferredMessages) ∨
      (∃ message now, e = .launch message now ∧ Launched srv message now result) ∨
      ∃ s message now deferred rest launched, e = .socket (.readSocket s message now) ∧
        header message = some .registerRequest ∧ registeredPid message ≠ 0 ∧
        srv.deferredMessages = deferred :: rest ∧
        Launched { srv.enrol s (registeredPid message) with deferredMessages := rest } deferred now
          launched ∧
        result.1 = launched.1 ∧ result.2.flatMap launches = launched.2.flatMap launches := by
  cases ht with
  | served s message now deferred rest launched hheader hpid hdeferred hlaunched =>
    exact .inr (.inr ⟨s, message, now, deferred, rest, launched, rfl, hheader, hpid, hdeferred,
      hlaunched, rfl, rfl⟩)
  | launch message now result hlaunched => exact .inr (.inl ⟨message, now, rfl, hlaunched⟩)
  | disconnected s =>
    refine .inl ⟨rfl, ?_, rfl⟩
    unfold onDisconnected
    split <;> rfl
  | launchSucceeded | launchFailed | relaunchReplied =>
    exact .inl ⟨rfl, flatMap_launches_call _ _, rfl⟩
  | connected | closed | deleted | refused | ignored | registered | relaunchSent | relaunchLost
  | removed => exact .inl ⟨rfl, rfl, rfl⟩

/-! ## Requests are kept

The balance of one event, as a permutation. That a request waits only while the pool is empty is
an invariant of its own, since a handler that defers a request has just walked the whole pool. -/

/-- One step keeps the requests: what waited and what came in is what went out and what waits. -/
theorem requests_step (srv : IpcServer κ) (e : ServerEvent κ) :
    (srv.deferredMessages ++ accepted e).Perm
      ((srv.handle e).2.flatMap served ++ (srv.handle e).1.deferredMessages) := by
  rw [flatMap_served]
  rcases launch_cases (transition srv e) with ⟨hin, hout, hwait⟩ | ⟨message, now, rfl, hl⟩ |
    ⟨s, message, now, deferred, rest, launched, rfl, -, -, hdeferred, hl, hstate, hout⟩
  · rw [hin, hout, hwait]
    simp
  · rcases launches_of_launched hl with ⟨s, -, -, hout, hwait, -⟩ | ⟨-, hout, hwait⟩
    · rw [hout, hwait]
      exact List.perm_append_comm
    · rw [hout, hwait]
      exact List.Perm.refl _
  · rw [hout, hstate]
    rcases launches_of_launched hl with ⟨t, -, -, hout, hwait, -⟩ | ⟨-, hout, hwait⟩
    · rw [hout, hwait, hdeferred]
      simp [accepted]
    · rw [hout, hwait, hdeferred]
      simpa [accepted] using (List.perm_append_singleton deferred rest).symm

/-- While a request waits, no runner does. -/
def Idle (srv : IpcServer κ) : Prop := srv.deferredMessages ≠ [] → srv.runnerClients = []

/-- A handler that puts a request into the queue has emptied the pool before. The only handlers that
put a request there are a launch without a runner and a registration whose runner cannot be used. -/
theorem idle_step {srv : IpcServer κ} (h : srv.Idle) (e : ServerEvent κ) :
    (srv.handle e).1.Idle := by
  have ht := transition srv e
  generalize srv.handle e = result at ht ⊢
  cases ht with
  -- taking a runner out leaves an empty pool empty
  | disconnected s =>
    intro hwait
    have hpool := h hwait
    simp [onDisconnected, modifySocket, hpool]
  | registered s message now hheader hpid hidle => exact fun hwait => absurd hidle hwait
  | served s message now deferred rest launched hheader hpid hdeferred hlaunched =>
    -- the pool was empty, so it is the new runner alone, and `launch` takes it
    have hpool : srv.runnerClients = [] := h (by rw [hdeferred]; exact List.cons_ne_nil _ _)
    cases hlaunched with
    | placed skipped t clients counts hsplit =>
      intro _
      have hone : (skipped ++ t :: clients).length = 1 := by
        rw [← hsplit]
        simp [enrol, hpool]
      have hclients : clients.length = 0 := by
        simp at hone
        omega
      exact List.length_eq_zero_iff.mp hclients
    | deferred => exact fun _ => rfl
  -- with a request waiting there is no runner to be placed with
  | launch message now result hlaunched =>
    cases hlaunched with
    | placed skipped s clients counts hsplit =>
      intro hwait
      have hpool := h hwait
      rw [hsplit] at hpool
      simp at hpool
    | deferred => exact fun _ => rfl
  -- the other events touch neither the pool nor the queue
  | connected | closed | deleted | refused | ignored | launchSucceeded | launchFailed
  | relaunchReplied | relaunchSent | relaunchLost | removed => exact h

/-! ## No runner is sent two

A socket is sent a LAUNCH_REQUEST out of the pool, and never comes back into it. So the sockets of
all requests are different. -/

/-- A LAUNCH_REQUEST goes to a socket that has not been launched, and launches it. One request at
most is written in one event, also by a registration, which places the head of the queue only. -/
theorem launches_step {srv : IpcServer κ} (h : SocketsInv srv) {e : ServerEvent κ}
    (hlife : srv.SocketLife e) (honce : srv.RegistersOnce e) :
    (srv.handle e).2.flatMap launches = [] ∨
      ∃ s message, (srv.handle e).2.flatMap launches = [(s, message)] ∧
        (srv.socket s).appId = none ∧
        ((srv.handle e).1.socket s).appId = some message.appId := by
  rcases launch_cases (transition srv e) with ⟨-, hout, -⟩ | ⟨message, now, rfl, hl⟩ |
    ⟨s, message, now, deferred, rest, launched, rfl, hheader, hpid, -, hl, hstate, hout⟩
  · exact .inl hout
  · rcases launches_of_launched hl with ⟨s, hs, -, hout, -, happ⟩ | ⟨-, hout, -⟩
    · exact .inr ⟨s, message, hout, (h.pooled s hs).2.2, happ⟩
    · exact .inl hout
  · rcases launches_of_launched hl with ⟨t, ht, -, hout', -, happ⟩ | ⟨-, hout', -⟩
    · -- the pool has the new runner in it, which has not been launched either
      refine .inr ⟨t, deferred, hout.trans hout', ?_, hstate ▸ happ⟩
      have hnone := ((h.enrol hlife (honce hheader) hpid).pooled t ht).2.2
      rw [socket_enrol] at hnone
      split at hnone
      · subst t
        exact hnone
      · exact hnone
    · exact .inl (hout.trans hout')

/-- The sockets that have been sent a LAUNCH_REQUEST are launched, and none has been sent two. -/
structure Sent (h : ServerHistory κ) : Prop where
  /-- A runner is marked with the application it was sent. -/
  appId : ∀ x ∈ h.outputs.flatMap launches, (h.state.socket x.1).appId = some x.2.appId
  /-- No runner was sent two. -/
  nodup : ((h.outputs.flatMap launches).map Prod.fst).Nodup

/-- A request goes to a runner of the pool, which has not been sent one. So no socket is written
two, since the application that is noted at it stays there. -/
theorem sent_step {h : ServerHistory κ} (hsent : Sent h) (hinv : SocketsInv h.state)
    {e : ServerEvent κ} (hlife : h.state.SocketLife e) (honce : h.state.RegistersOnce e) :
    Sent ((ipcServer κ).step h e) := by
  have hkept (x) (hx : x ∈ h.outputs.flatMap launches) :=
    (hinv.kept hlife honce x.1).2 x.2.appId (hsent.appId x hx)
  rcases launches_step hinv hlife honce with hout | ⟨s, message, hout, hnone, happ⟩
  · -- no request is written
    constructor
    case appId =>
      rw [Machine.step_outputs, List.flatMap_append]
      simp only [ipcServer, hout, List.append_nil]
      exact hkept
    case nodup =>
      rw [Machine.step_outputs, List.flatMap_append]
      simp only [ipcServer, hout, List.append_nil]
      exact hsent.nodup
  · -- the new one goes to a socket without an application, so to none of the earlier ones
    have hfresh : s ∉ (h.outputs.flatMap launches).map Prod.fst := by
      intro hmem
      obtain ⟨x, hx, rfl⟩ := List.mem_map.mp hmem
      rw [hsent.appId x hx] at hnone
      cases hnone
    constructor
    case appId =>
      rw [Machine.step_outputs, List.flatMap_append]
      simp only [ipcServer, hout]
      intro x hx
      rcases List.mem_append.mp hx with hx | hx
      · exact hkept x hx
      · rw [List.mem_singleton.mp hx]
        exact happ
    case nodup =>
      rw [Machine.step_outputs, List.flatMap_append]
      simp only [ipcServer, hout, List.map_append]
      exact (List.perm_append_singleton _ _).nodup_iff.mpr
        (List.nodup_cons.mpr ⟨hfresh, hsent.nodup⟩)

/-! ## Whole runs

The three results are put together for runs in which sockets live as in Qt and register once. -/

/-- What is true after a run in which sockets live as in Qt and register once. -/
structure Balanced (h : ServerHistory κ) : Prop where
  /-- What is known of the sockets. -/
  sockets : SocketsInv h.state
  /-- What is known of the requests that were sent. -/
  sent : Sent h
  /-- Pool and queue are not both in use. -/
  idle : h.state.Idle

/-- Each part is kept by the step lemma about it. -/
theorem balanced_step {h : ServerHistory κ} (hb : Balanced h) {e : ServerEvent κ}
    (hlife : h.state.SocketLife e) (honce : h.state.RegistersOnce e) :
    Balanced ((ipcServer κ).step h e) where
  sockets := hb.sockets.step hlife honce
  sent := sent_step hb.sent hb.sockets hlife honce
  idle := idle_step hb.idle e

/-- A new server has accepted nothing. -/
theorem balanced_init : Balanced (.init ({} : IpcServer κ)) where
  sockets := SocketsInv.init
  sent := ⟨by simp [History.init], by simp [History.init]⟩
  idle := fun h => absurd rfl h

/-- **Launch conservation, and no idle runner.** The accepted requests are those written and those
that wait, no socket is written two, and the pool has no open socket while a request waits.

The first part is `Machine.conserved` with the permutations, since a request may be put back at the
other end of the queue. The other two are read off `Balanced`. -/
theorem launch_conservation (es : List (ServerEvent κ))
    (hes : (ipcServer κ).Admits (fun h e => h.state.SocketLife e ∧ h.state.RegistersOnce e)
      (.init {}) es) :
    let h := (ipcServer κ).run (.init {}) es
    (h.inputs.flatMap accepted).Perm (h.outputs.flatMap served ++ h.state.deferredMessages) ∧
      ((h.outputs.flatMap launches).map Prod.fst).Nodup ∧
      (h.state.deferredMessages ≠ [] →
        ∀ s ∈ h.state.runnerClients, (h.state.socket s).isOpen = false) := by
  have hconserved := Machine.conserved (ipcServer κ) accepted served (·.deferredMessages)
    (I := fun _ => True) List.Perm.refl List.Perm.trans List.Perm.append (fun _ _ _ _ => trivial)
    (fun h e _ _ => requests_step h.state e) (h := .init {}) trivial (List.Perm.refl _) hes
  have hbalanced := Machine.invariant (I := Balanced)
    (fun h e hb henv => balanced_step hb henv.1 henv.2) balanced_init hes
  refine ⟨hconserved, hbalanced.sent.nodup, fun hwait s hs => ?_⟩
  rw [hbalanced.idle hwait] at hs
  exact absurd hs List.not_mem_nil

/-- One request is deferred before the first runner registers, and one finds that runner taken. -/
def twoLaunches : List (ServerEvent Nat) :=
  [.launch ⟨"com.webos.app.a", "a.qml", {}, some 0⟩ 10,
    .socket (.newConnection 1),
    .socket (.readSocket 1 (IpcClient.registerRequest 100) 20),
    .launch ⟨"com.webos.app.b", "b.qml", {}, some 1⟩ 30]

/-- Both requests are written, each to a runner of its own. -/
theorem launch_conservation_twoLaunches :
    let h := (ipcServer Nat).run (.init {}) twoLaunches
    (h.inputs.flatMap accepted).Perm (h.outputs.flatMap served ++ h.state.deferredMessages) ∧
      ((h.outputs.flatMap launches).map Prod.fst).Nodup ∧
      (h.state.deferredMessages ≠ [] →
        ∀ s ∈ h.state.runnerClients, (h.state.socket s).isOpen = false) :=
  launch_conservation twoLaunches (by decide)

/-! ## The order of service

Requests are served in the order they came in as long as none is put back behind another one. That
happens in one place, where a runner that has just registered turns out not to be open. -/

/-- A socket that registers while a request waits behind another one is open. -/
def TakesInTurn (srv : IpcServer κ) : ServerEvent κ → Prop :=
  OnRead fun s message =>
    header message = some .registerRequest → registeredPid message ≠ 0 →
      2 ≤ srv.deferredMessages.length → srv.usable s = true

instance (srv : IpcServer κ) : DecidablePred srv.TakesInTurn :=
  inferInstanceAs (DecidablePred (OnRead _))

/-- One step keeps the requests in order. With an empty pool the new runner is the only one, so the
head is put back exactly when that runner cannot be used; behind it there is nothing then. -/
theorem order_step {srv : IpcServer κ} (h : srv.Idle) {e : ServerEvent κ}
    (hturn : srv.TakesInTurn e) :
    srv.deferredMessages ++ accepted e =
      (srv.handle e).2.flatMap served ++ (srv.handle e).1.deferredMessages := by
  rw [flatMap_served]
  rcases launch_cases (transition srv e) with ⟨hin, hout, hwait⟩ | ⟨message, now, rfl, hl⟩ |
    ⟨s, message, now, deferred, rest, launched, rfl, hheader, hpid, hdeferred, hl, hstate, hout⟩
  · rw [hin, hout, hwait]
    simp
  · rcases launches_of_launched hl with ⟨s, hs, -, hout, hwait, -⟩ | ⟨-, hout, hwait⟩
    · -- a runner is idle, so nobody has been waiting
      have hnone : srv.deferredMessages = [] := by
        by_contra hwaits
        rw [h hwaits] at hs
        exact absurd hs List.not_mem_nil
      rw [hout, hwait, hnone]
      rfl
    · rw [hout, hwait]
      rfl
  · rw [hout, hstate]
    rcases launches_of_launched hl with ⟨t, -, -, hout, hwait, -⟩ | ⟨hclosed, hout, hwait⟩
    · rw [hout, hwait, hdeferred]
      simp [accepted]
    · have hs : srv.usable s = false := by
        have : (srv.enrol s (registeredPid message)).usable s = false :=
          hclosed s (by simp [enrol])
        rwa [usable_enrol] at this
      -- with others behind it, the new runner would have to be usable
      have hrest : rest = [] := by
        cases rest with
        | nil => rfl
        | cons next rest =>
          have := hturn hheader hpid (by simp [hdeferred])
          rw [hs] at this
          cases this
      rw [hout, hwait, hdeferred, hrest]
      rfl

/-- The requests written so far are written in the order in which they were accepted: a request
before one that is written is written before it. -/
def FirstComeFirstServed (h : ServerHistory κ) : Prop :=
  ∀ r₁ r₂, Precedes (h.inputs.flatMap accepted) r₁ r₂ → r₂ ∈ h.outputs.flatMap served →
    Precedes (h.outputs.flatMap served) r₁ r₂

/-- **First come, first served**, in every run in which no request is put back behind another one.
The requests are told apart by their position in the list of those accepted, and by themselves where
no two are equal.

It is `Machine.conserved` again, this time with equality: while every request is taken in its turn,
what was written and what waits are the accepted requests in their order. -/
theorem first_come_first_served (es : List (ServerEvent κ))
    (hes : (ipcServer κ).Admits (fun h e => h.state.TakesInTurn e) (.init {}) es) :
    let h := (ipcServer κ).run (.init {}) es
    h.outputs.flatMap served <+: h.inputs.flatMap accepted ∧
      ((h.inputs.flatMap accepted).Nodup → FirstComeFirstServed h) := by
  have horder := Machine.conserved (ipcServer κ) accepted served (·.deferredMessages)
    (r := Eq) (fun _ => rfl) Eq.trans (fun hkl hmn => by rw [hkl, hmn])
    (I := fun h => h.state.Idle) (fun h e hidle _ => idle_step hidle e)
    (fun h e hidle hturn => order_step hidle hturn) (h := .init {}) (fun h => absurd rfl h) rfl hes
  have hcut : ((ipcServer κ).run (.init {}) es).outputs.flatMap served <+:
      ((ipcServer κ).run (.init {}) es).inputs.flatMap accepted := ⟨_, horder.symm⟩
  exact ⟨hcut, fun hnodup _ _ h₁₂ h₂ => precedes_of_cut hcut hnodup h₁₂ h₂⟩

/-- A request to launch one application. -/
def launchA : Message Nat := ⟨"com.webos.app.a", "a.qml", {}, some 0⟩

/-- A request to launch another one. -/
def launchB : Message Nat := ⟨"com.webos.app.b", "b.qml", {}, some 1⟩

/-- The first runner to register is no longer open when it is taken, so that the only request that
waits is put back. Then there are two of them, and the next two runners get one each. -/
def servedInTurn : List (ServerEvent Nat) :=
  [.launch launchA 10,
    .socket (.newConnection 1),
    .socket (.closed 1),
    .socket (.readSocket 1 (IpcClient.registerRequest 100) 20),
    .launch launchB 30,
    .socket (.newConnection 2),
    .socket (.readSocket 2 (IpcClient.registerRequest 200) 40),
    .socket (.newConnection 3),
    .socket (.readSocket 3 (IpcClient.registerRequest 300) 50)]

/-- The request that was put back had no other behind it, so the order is kept. -/
theorem first_come_first_served_servedInTurn :
    let h := (ipcServer Nat).run (.init {}) servedInTurn
    (h.outputs.flatMap served <+: h.inputs.flatMap accepted ∧
        ((h.inputs.flatMap accepted).Nodup → FirstComeFirstServed h)) ∧
      h.outputs.flatMap served = [launchA, launchB] :=
  ⟨first_come_first_served servedInTurn (by decide), rfl⟩

/-- Two requests wait. The first runner to register is no longer open when it is taken, so the first
request goes behind the second, and the next runner gets the second. -/
def closedRunner : List (ServerEvent Nat) :=
  [.launch launchA 10,
    .launch launchB 20,
    .socket (.newConnection 1),
    .socket (.closed 1),
    .socket (.readSocket 1 (IpcClient.registerRequest 100) 30),
    .socket (.newConnection 2),
    .socket (.readSocket 2 (IpcClient.registerRequest 200) 40)]

/-- The second request is written, and the first one still waits. -/
theorem not_first_come_first_served_closedRunner :
    (ipcServer Nat).Admits (fun h e => h.state.SocketLife e ∧ h.state.RegistersOnce e)
        (.init {}) closedRunner ∧
      ¬ FirstComeFirstServed ((ipcServer Nat).run (.init {}) closedRunner) := by
  refine ⟨by decide, fun hfirst => ?_⟩
  have hout : ((ipcServer Nat).run (.init {}) closedRunner).outputs.flatMap served = [launchB] :=
    rfl
  have h₁₂ := hfirst launchA launchB (List.Sublist.refl _)
    (by rw [hout]; exact List.mem_singleton_self _)
  rw [Precedes, hout] at h₁₂
  have := h₁₂.length_le
  simp at this

end IpcServer

end Booster
