import WebosFramework.Booster.Transition

/-!
# The life of a socket

What a server may rely on about its sockets, and what its handlers keep true of them in return.

* `SocketLife` is Qt's part: a socket is handed out once, signals until its `disconnected` has been
  handled, and is deleted after that.
* `RegistersOnce`, `DistinctPids` and `RepliesWhenLaunched` are the runner's part
  (`IpcClient::connectToServer` sends the one REGISTER_REQUEST of a connection, with the pid of the
  runner, and a runner replies to requests only).
* `SocketsInv` is the server's part: a runner of the pool is connected, registered and not launched,
  and `m_runningSockets` leads to connected sockets launched for that application.

Each of the three is a predicate on one state and one event, so it can be read as the guard of a
run.
-/

namespace Booster

open Qt EventLoop

namespace IpcServer

variable {κ : Type}

/-! ## Guards

Conditions on one event and the history before it. Some are promised by Qt, some by the way the
runners are written; `RunnerProtocol` puts them together. -/

/-- The order in which Qt lets a socket signal. -/
def SocketLife (srv : IpcServer κ) : ServerEvent κ → Prop
  | .socket (.newConnection s) => (srv.socket s).phase = .absent
  | .socket (.readSocket s _ _) => (srv.socket s).phase = .connected
  | .socket (.disconnected s) => (srv.socket s).phase = .connected
  | .socket (.deleted s) => (srv.socket s).phase = .disconnected
  | _ => True

/-- A guard on the messages that are read. -/
def OnRead (P : SocketId → QJsonObject → Prop) : ServerEvent κ → Prop
  | .socket (.readSocket s message _) => P s message
  | _ => True

/-- A socket that has registered does not send another REGISTER_REQUEST. -/
def RegistersOnce (srv : IpcServer κ) : ServerEvent κ → Prop :=
  OnRead fun s message => header message = some .registerRequest → (srv.socket s).pid = none

/-- The pids of all sockets that have registered. -/
def registeredPids (srv : IpcServer κ) : List Int :=
  srv.sockets.toList.filterMap fun entry => entry.2.pid

/-- No two sockets register the same pid: each runner is a process with one connection, and pids are
not used again. -/
def DistinctPids (srv : IpcServer κ) : ServerEvent κ → Prop :=
  OnRead fun _ message =>
    header message = some .registerRequest → registeredPid message ∉ srv.registeredPids

/-- A LAUNCH_REPLY comes from a socket that has been sent a LAUNCH_REQUEST. -/
def RepliesWhenLaunched (srv : IpcServer κ) : ServerEvent κ → Prop :=
  OnRead fun s message => header message = some .launchReply → (srv.socket s).appId ≠ none

instance (srv : IpcServer κ) : DecidablePred srv.SocketLife
  | .socket (.newConnection s) => inferInstanceAs (Decidable ((srv.socket s).phase = .absent))
  | .socket (.readSocket s _ _) => inferInstanceAs (Decidable ((srv.socket s).phase = .connected))
  | .socket (.disconnected s) => inferInstanceAs (Decidable ((srv.socket s).phase = .connected))
  | .socket (.deleted s) => inferInstanceAs (Decidable ((srv.socket s).phase = .disconnected))
  | .socket (.closed _) | .launch .. | .relaunch .. | .removeProcess _ => .isTrue trivial

instance (P : SocketId → QJsonObject → Prop) [∀ s message, Decidable (P s message)] :
    DecidablePred (OnRead (κ := κ) P)
  | .socket (.readSocket s message _) => inferInstanceAs (Decidable (P s message))
  | .socket (.newConnection _) | .socket (.disconnected _) | .socket (.deleted _)
  | .socket (.closed _) | .launch .. | .relaunch .. | .removeProcess _ => .isTrue trivial

instance (srv : IpcServer κ) : DecidablePred srv.RegistersOnce :=
  inferInstanceAs (DecidablePred (OnRead _))

instance (srv : IpcServer κ) : DecidablePred srv.DistinctPids :=
  inferInstanceAs (DecidablePred (OnRead _))

instance (srv : IpcServer κ) : DecidablePred srv.RepliesWhenLaunched :=
  inferInstanceAs (DecidablePred (OnRead _))

/-- The protocol between a booster and its runners: the four guards together. -/
structure RunnerProtocol (srv : IpcServer κ) (e : ServerEvent κ) : Prop where
  /-- Qt's part. -/
  life : srv.SocketLife e
  /-- A connection is registered once. -/
  once : srv.RegistersOnce e
  /-- No two connections are registered for one process. -/
  distinct : srv.DistinctPids e
  /-- A runner that has been asked nothing replies nothing. -/
  replies : srv.RepliesWhenLaunched e

instance (srv : IpcServer κ) : DecidablePred srv.RunnerProtocol := fun e =>
  decidable_of_iff
    (srv.SocketLife e ∧ srv.RegistersOnce e ∧ srv.DistinctPids e ∧ srv.RepliesWhenLaunched e)
    ⟨fun ⟨hlife, honce, hdistinct, hreplies⟩ => ⟨hlife, honce, hdistinct, hreplies⟩,
      fun ⟨hlife, honce, hdistinct, hreplies⟩ => ⟨hlife, honce, hdistinct, hreplies⟩⟩

/-- A socket with a property of its own is an entry of the table. -/
theorem exists_entry_iff (srv : IpcServer κ) (s : SocketId) {P : LocalSocket → Prop}
    (hP : ¬ P {}) : (∃ x, (s, x) ∈ srv.sockets.toList ∧ P x) ↔ P (srv.socket s) := by
  simp only [Std.TreeMap.mem_toList_iff_getElem?_eq_some, socket]
  cases srv.sockets[s]? with
  | none => simp [hP]
  | some x => simp

/-- The pids that have been registered are those noted at sockets. -/
theorem mem_registeredPids {srv : IpcServer κ} {p : Int} :
    p ∈ srv.registeredPids ↔ ∃ s, (srv.socket s).pid = some p := by
  have hentry (s : SocketId) :=
    exists_entry_iff srv s (P := fun x => x.pid = some p) nofun
  simp only [← hentry, registeredPids, List.mem_filterMap, Prod.exists]

/-- The sockets that have been launched for an application. -/
def launchedFor (srv : IpcServer κ) (a : String) : List SocketId :=
  (srv.sockets.toList.filter fun entry => entry.2.appId = some a).map Prod.fst

/-- The sockets that were launched for an application are those it is noted at. -/
theorem mem_launchedFor {srv : IpcServer κ} {a : String} {s : SocketId} :
    s ∈ srv.launchedFor a ↔ (srv.socket s).appId = some a := by
  have hentry := exists_entry_iff srv s (P := fun x => x.appId = some a) nofun
  simp only [← hentry, launchedFor, List.mem_map, List.mem_filter, decide_eq_true_eq, Prod.exists,
    exists_and_right, exists_eq_right]

/-! ## What the handlers keep

The invariant on the sockets, the pool and `m_runningSockets`. There is a lemma for each method
that changes them, and `step` is put together from these. -/

/-- What the handlers keep true of the sockets. -/
structure SocketsInv (srv : IpcServer κ) : Prop where
  /-- No runner is in the pool twice. -/
  nodup : srv.runnerClients.Nodup
  /-- A runner of the pool can be launched: it is connected and registered, and runs nothing yet. -/
  pooled : ∀ s ∈ srv.runnerClients, (srv.socket s).phase = .connected ∧
    (srv.socket s).pid ≠ none ∧ (srv.socket s).appId = none
  /-- Only registered runners are launched. -/
  launched : ∀ s a, (srv.socket s).appId = some a → (srv.socket s).pid ≠ none
  /-- A socket that has not been handed out is not registered. -/
  absent : ∀ s, (srv.socket s).phase = .absent → (srv.socket s).pid = none
  /-- A registration with the pid 0 is refused. -/
  nonzero : ∀ s, (srv.socket s).pid ≠ some 0
  /-- What an application leads to is a connected socket that was launched for it. -/
  running : ∀ a s, srv.runningSockets[a]? = some s →
    (srv.socket s).phase = .connected ∧ (srv.socket s).appId = some a

namespace SocketsInv

variable {srv : IpcServer κ}

/-- A new server has no sockets. -/
theorem init : SocketsInv ({} : IpcServer κ) := by
  refine ⟨?_, ?_, ?_, ?_, ?_, ?_⟩ <;> simp [socket]

/-- The invariant reads the sockets, the pool and `m_runningSockets` only. -/
theorem congr {srv' : IpcServer κ} (h : SocketsInv srv) (hs : srv'.sockets = srv.sockets)
    (hc : srv'.runnerClients = srv.runnerClients)
    (hr : srv'.runningSockets = srv.runningSockets) : SocketsInv srv' := by
  have hsocket : srv'.socket = srv.socket := by
    funext s
    simp [socket, hs]
  refine ⟨?_, ?_, ?_, ?_, ?_, ?_⟩ <;> simp only [hsocket, hc, hr]
  exacts [h.nodup, h.pooled, h.launched, h.absent, h.nonzero, h.running]

/-- An update of one socket that only ends its life. While its life goes on nothing changes; where
it ends, the socket must have left the pool and the running list before. -/
theorem modifySocket (h : SocketsInv srv) {s : SocketId} {f : LocalSocket → LocalSocket}
    (hpid : (f (srv.socket s)).pid = (srv.socket s).pid)
    (happ : (f (srv.socket s)).appId = (srv.socket s).appId)
    (habsent : (f (srv.socket s)).phase = .absent → (srv.socket s).phase = .absent)
    (hphase : (f (srv.socket s)).phase = (srv.socket s).phase ∨
      s ∉ srv.runnerClients ∧ ∀ a : String, srv.runningSockets[a]? ≠ some s) :
    SocketsInv (srv.modifySocket s f) := by
  -- each part is about one socket, which is this one or another
  constructor
  case nodup => exact h.nodup
  case pooled =>
    intro t ht
    have := h.pooled t ht
    rw [socket_modifySocket]
    split
    · subst t
      rcases hphase with hphase | ⟨hs, -⟩
      · rwa [hpid, happ, hphase]
      · exact absurd ht hs
    · exact this
  case launched =>
    intro t a
    rw [socket_modifySocket]
    split
    · subst t
      rw [hpid, happ]
      exact h.launched s a
    · exact h.launched t a
  case absent =>
    intro t
    rw [socket_modifySocket]
    split
    · subst t
      rw [hpid]
      exact fun hp => h.absent s (habsent hp)
    · exact h.absent t
  case nonzero =>
    intro t
    rw [socket_modifySocket]
    split
    · subst t
      rw [hpid]
      exact h.nonzero s
    · exact h.nonzero t
  case running =>
    intro a t ht
    have := h.running a t ht
    rw [socket_modifySocket]
    split
    · subst t
      rcases hphase with hphase | ⟨-, hs⟩
      · rwa [happ, hphase]
      · exact absurd ht (hs a)
    · exact this

/-- A new connection is not in the pool, and no application leads to it. -/
theorem setupConnection (h : SocketsInv srv) {s : SocketId}
    (hs : (srv.socket s).phase = .absent) : SocketsInv (srv.setupConnection s) := by
  have hpid := h.absent s hs
  have happ : (srv.socket s).appId = none := by
    cases ha : (srv.socket s).appId with
    | none => rfl
    | some a => exact absurd hpid (h.launched s a ha)
  refine h.modifySocket hpid.symm happ.symm (fun hp => by cases hp)
    -- a socket that did not exist is neither pooled nor running
    (.inr ⟨fun hmem => ?_, fun a ha => ?_⟩)
  · rw [(h.pooled s hmem).1] at hs
    cases hs
  · rw [(h.running a s ha).1] at hs
    cases hs

/-- Each socket is in `m_runningSockets` once, so the loop of `onDisconnected` leaves none of it. -/
theorem onDisconnected (h : SocketsInv srv) (s : SocketId) :
    SocketsInv (srv.onDisconnected s).1 := by
  have hgone (a : String) (t : SocketId) := QMap.eraseFirst_spec (m := srv.runningSockets)
      (p := (· == s)) (k := a) (v := t) fun a a' t t' ha ha' ht ht' => by
    have hat := (h.running a t ha).2
    have hat' := (h.running a' t' ha').2
    rw [beq_iff_eq.mp ht] at hat
    rw [beq_iff_eq.mp ht', hat] at hat'
    exact Option.some.inj hat'
  have h' : SocketsInv
      { srv with
        runnerClients := srv.runnerClients.erase s
        runningSockets := srv.runningSockets.eraseFirst (· == s) } :=
    ⟨h.nodup.erase s, fun t ht => h.pooled t (List.mem_of_mem_erase ht), h.launched, h.absent,
      h.nonzero, fun a t ha => h.running a t (QMap.getElem?_of_eraseFirst ha)⟩
  refine h'.modifySocket (f := fun socket => { socket with phase := .disconnected }) rfl rfl
    (fun hp => by cases hp) (.inr ⟨h.nodup.not_mem_erase, fun a ha => ?_⟩)
  have := hgone a s ha
  simp at this

/-- A socket outside the pool that has not been launched joins the pool. The guard says that it
registers once, so it cannot be in the pool twice. -/
theorem enrol (h : SocketsInv srv) {s : SocketId} {p : Int}
    (hphase : (srv.socket s).phase = .connected) (hpid : (srv.socket s).pid = none) (hp : p ≠ 0) :
    SocketsInv (srv.enrol s p) := by
  have happ : (srv.socket s).appId = none := by
    cases ha : (srv.socket s).appId with
    | none => rfl
    | some a => exact absurd hpid (h.launched s a ha)
  -- without a pid it has not been launched, and is not in the pool
  have hs : s ∉ srv.runnerClients := fun hmem => (h.pooled s hmem).2.1 hpid
  constructor
  case nodup =>
    exact (List.perm_append_singleton s srv.runnerClients).nodup_iff.mpr
      (List.nodup_cons.mpr ⟨hs, h.nodup⟩)
  case pooled =>
    intro t ht
    rw [socket_enrol]
    split
    · exact ⟨hphase, by simp, happ⟩
    · rename_i hst
      rcases List.mem_append.mp ht with ht | ht
      · exact h.pooled t ht
      · exact absurd (List.mem_singleton.mp ht).symm hst
  -- a runner that registers has not been launched
  case launched =>
    intro t a
    rw [socket_enrol]
    split
    · simp
    · exact h.launched t a
  case absent =>
    intro t
    rw [socket_enrol]
    split
    · intro habsent
      rw [hphase] at habsent
      cases habsent
    · exact h.absent t
  case nonzero =>
    intro t
    rw [socket_enrol]
    split
    · simpa using hp
    · exact h.nonzero t
  case running =>
    intro a t ht
    have := h.running a t ht
    rw [socket_enrol]
    split
    · subst t
      exact this
    · exact this

/-- The runner that gets the request leaves the pool, and the application leads to it. Those that
were skipped are not used again, as they are not open, and they are dropped from the pool with it.
-/
theorem place (h : SocketsInv srv) {message : Message κ} {skipped clients : List SocketId}
    {s : SocketId} (hpool : srv.runnerClients = skipped ++ s :: clients) :
    SocketsInv (srv.place message s clients) := by
  obtain ⟨hphase, hpid, happ⟩ := h.pooled s (by simp [hpool])
  have hnodup := h.nodup
  rw [hpool] at hnodup
  have hclients : (s :: clients).Nodup := hnodup.sublist (List.sublist_append_right _ _)
  constructor
  case nodup => exact hclients.of_cons
  case pooled =>
    intro t ht
    have hts : s ≠ t := fun hst => (List.nodup_cons.mp hclients).1 (hst ▸ ht)
    rw [socket_place, if_neg hts]
    exact h.pooled t (hpool ▸ List.mem_append_right _ (List.mem_cons_of_mem s ht))
  -- the runner that is taken has a pid, as all in the pool do
  case launched =>
    intro t a
    rw [socket_place]
    split
    · exact fun _ => hpid
    · exact h.launched t a
  case absent =>
    intro t
    rw [socket_place]
    split
    · intro habsent
      exact absurd (h.absent s habsent) hpid
    · exact h.absent t
  case nonzero =>
    intro t
    rw [socket_place]
    split
    · exact h.nonzero s
    · exact h.nonzero t
  case running =>
    intro a t ht
    rw [IpcServer.place, QMap.getElem?_insert] at ht
    rw [socket_place]
    split at ht
    · rename_i ha
      cases ht
      simp [hphase, ha]
    · have := h.running a t ht
      split
      · -- a pooled socket is in no entry of `m_runningSockets`
        subst t
        rw [happ] at this
        cases this.2
      · exact this

/-- A launch keeps the invariant, whether it finds a runner or not. -/
theorem launched_inv (h : SocketsInv srv) {message : Message κ} {now : Int}
    {result : IpcServer κ × List (Output κ)} (hl : Launched srv message now result) :
    SocketsInv result.1 := by
  cases hl with
  | placed skipped s clients counts hpool => exact h.place hpool
  | deferred counts =>
    exact ⟨List.nodup_nil, fun s hs => absurd hs List.not_mem_nil, h.launched, h.absent, h.nonzero,
      h.running⟩

/-- Every event that the guards let through keeps the invariant. By cases on the transition; a
registration that is followed by a launch goes through `enrol` and `launched_inv`. -/
theorem step (h : SocketsInv srv) {e : ServerEvent κ} (hlife : srv.SocketLife e)
    (honce : srv.RegistersOnce e) : SocketsInv (srv.handle e).1 := by
  have ht := transition srv e
  generalize srv.handle e = result at ht ⊢
  cases ht with
  | connected s => exact h.setupConnection hlife
  | disconnected s => exact h.onDisconnected s
  | closed s =>
    exact h.modifySocket (f := fun socket => { socket with isOpen := false }) rfl rfl id (.inl rfl)
  | deleted s =>
    have hphase : (srv.socket s).phase = .disconnected := hlife
    refine h.modifySocket (f := fun socket => { socket with phase := .deleted }) rfl rfl
      (fun hp => by cases hp) (.inr ⟨fun hmem => ?_, fun a ha => ?_⟩)
    · rw [(h.pooled s hmem).1] at hphase
      cases hphase
    · rw [(h.running a s ha).1] at hphase
      cases hphase
  | refused | ignored | relaunchLost => exact h
  | registered s message now hheader hpid => exact h.enrol hlife (honce hheader) hpid
  | served s message now deferred rest result hheader hpid hdeferred hlaunched =>
    suffices hresult : SocketsInv result.1 from hresult
    refine launched_inv ?_ hlaunched
    exact (h.enrol hlife (honce hheader) hpid).congr rfl rfl rfl
  | launchSucceeded | launchFailed | relaunchReplied | relaunchSent | removed =>
    exact h.congr rfl rfl rfl
  | launch message now result hlaunched => exact h.launched_inv hlaunched

/-! ## What a socket keeps

What has been set on a socket stays: its pid, and the application that it was launched for. -/

/-- A socket keeps its pid and the application it was launched for: it has neither when it is
opened, and it is not launched when it registers or is in the pool. -/
theorem kept (h : SocketsInv srv) {e : ServerEvent κ} (hlife : srv.SocketLife e)
    (honce : srv.RegistersOnce e) (t : SocketId) :
    (∀ p, (srv.socket t).pid = some p → ((srv.handle e).1.socket t).pid = some p) ∧
      (∀ a, (srv.socket t).appId = some a → ((srv.handle e).1.socket t).appId = some a) := by
  -- a socket without a pid has nothing to keep
  have hnone (hpid : (srv.socket t).pid = none) (x : LocalSocket) :
      (∀ p, (srv.socket t).pid = some p → x.pid = some p) ∧
        (∀ a, (srv.socket t).appId = some a → x.appId = some a) := by
    refine ⟨fun p hp => ?_, fun a ha => absurd hpid (h.launched t a ha)⟩
    rw [hpid] at hp
    cases hp
  cases socket_step srv e t with
  | unchanged hx =>
    rw [hx]
    exact ⟨fun _ hp => hp, fun _ ha => ha⟩
  | opened he =>
    subst he
    -- a socket that is opened has no properties yet
    exact hnone (h.absent t hlife) _
  | closing hpid happ =>
    rw [hpid, happ]
    exact ⟨fun _ hp => hp, fun _ ha => ha⟩
  -- a runner registers once
  | registered message now he hheader =>
    subst he
    exact hnone (honce hheader) _
  -- a runner of the pool has no application yet
  | launched hpool hpid =>
    refine ⟨fun p hp => hpid.trans hp, fun a ha => ?_⟩
    rw [(h.pooled t hpool).2.2] at ha
    cases ha

end SocketsInv

/-- A pid is what the socket had, or what it registers. -/
theorem pid_of_step {srv : IpcServer κ} {e : ServerEvent κ} {t : SocketId} {p : Int}
    (hp : ((srv.handle e).1.socket t).pid = some p) :
    (srv.socket t).pid = some p ∨ ∃ message now, e = .socket (.readSocket t message now) ∧
      header message = some .registerRequest ∧ registeredPid message = p := by
  cases socket_step srv e t with
  | unchanged hx => exact .inl (hx ▸ hp)
  | opened he hx =>
    rw [hx] at hp
    cases hp
  | closing hpid | launched _ hpid => exact .inl (hpid ▸ hp)
  | registered message now he hheader hpid =>
    exact .inr ⟨message, now, he, hheader, Option.some.inj (hpid.symm.trans hp)⟩

/-- Distinct registrations keep the pids of the sockets distinct. -/
theorem distinct_step {srv : IpcServer κ} {e : ServerEvent κ} (hdistinct : srv.DistinctPids e)
    (h : ∀ s t p, (srv.socket s).pid = some p → (srv.socket t).pid = some p → s = t)
    (s t : SocketId) (p : Int) (hs' : ((srv.handle e).1.socket s).pid = some p)
    (ht' : ((srv.handle e).1.socket t).pid = some p) : s = t := by
  rcases pid_of_step hs' with hs | ⟨message, now, rfl, hheader, hp⟩ <;>
    rcases pid_of_step ht' with ht | ⟨message', now', he, hheader', hp'⟩
  · exact h s t p hs ht
  · -- one of the two registers now, with a pid that the other one has
    subst he hp'
    exact absurd (mem_registeredPids.mpr ⟨s, hs⟩) (hdistinct hheader')
  · subst hp
    exact absurd (mem_registeredPids.mpr ⟨t, ht⟩) (hdistinct hheader)
  · cases he
    rfl

end IpcServer

end Booster
