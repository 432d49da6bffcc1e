import WebosFramework.Booster.Callbacks

/-!
# Replies and the requests they answer

A runner answers the requests it is sent, once each and in order. The server keeps one callback for
a runner and calls it at the next reply, whatever request that reply answers. The two agree as long
as a runner is sent a request only when it has answered those before.

* `AnswersInOrder` is the guard on the runner, `RelaunchesIdle` the condition on the relaunches.
* `AnswersInv` is the invariant: the callbacks of the unanswered requests are the one in the place
  of the runner, if there is one.
* `replies_answer_requests`: in the runs that meet both, the n-th reply calls the callback of the
  n-th request, and when a runner has answered everything each of its callbacks has been called
  once.

Everything is about one runner `s`. The other runners may reply as they like.

The events of the server are those of `Exchange`. Only those that are about `s` change anything
here: a request to `s`, and a reply from it.
-/

namespace Booster

open Qt EventLoop

namespace IpcServer

variable {κ : Type}

/-! ## The requests of a runner

The requests that were written to one socket and the replies that were read from it, over the
past. The n-th reply answers the n-th request. -/

/-- The requests written to `s`, in order. -/
def requestsTo (h : ServerHistory κ) (s : SocketId) : List (Request κ) :=
  ((h.outputs.flatMap writes).filter (·.1 = s)).map Prod.snd

/-- How many replies of `s` have been read. -/
def repliesFrom (h : ServerHistory κ) (s : SocketId) : Nat := (h.inputs.flatMap answers).count s

/-- A request that an event writes to the runner comes behind those before. -/
theorem requestsTo_step (h : ServerHistory κ) (e : ServerEvent κ) (s : SocketId) :
    requestsTo ((ipcServer κ).step h e) s = requestsTo h s ++
      (((h.state.handle e).2.flatMap writes).filter (·.1 = s)).map Prod.snd := by
  rw [requestsTo, Machine.step_outputs, List.flatMap_append, List.filter_append, List.map_append]
  rfl

/-- A reply that is read from it is counted. -/
theorem repliesFrom_step (h : ServerHistory κ) (e : ServerEvent κ) (s : SocketId) :
    repliesFrom ((ipcServer κ).step h e) s = repliesFrom h s + (answers e).count s := by
  rw [repliesFrom, Machine.step_inputs, List.flatMap_append, List.count_append,
    List.flatMap_singleton]
  rfl

/-- A reply of `s` is the one to the next request that `s` has not answered. -/
def AnswersInOrder (s : SocketId) (h : ServerHistory κ) : ServerEvent κ → Prop :=
  OnRead fun t message => t = s → IsReply message →
    (requestsTo h s)[repliesFrom h s]?.map Request.reply = header message

/-- A relaunch that is sent to `s` finds no callback that waits for a reply of `s`. -/
def RelaunchesIdle (s : SocketId) (srv : IpcServer κ) : ServerEvent κ → Prop
  | .relaunch appId _ _ _ => srv.runningSockets[appId]? = some s → srv.usable s = true →
      srv.launchCallbacks[srv.processId s]? = none
  | _ => True

/-- A reply of `s` calls the callback of the request it answers. -/
def CallsAnswered (s : SocketId) (h : ServerHistory κ) (e : ServerEvent κ) : Prop :=
  s ∈ answers e → (h.state.handle e).2.flatMap called =
    ((requestsTo h s)[repliesFrom h s]?.bind Request.callback).toList

instance (s : SocketId) (h : ServerHistory κ) : DecidablePred (AnswersInOrder s h) :=
  inferInstanceAs (DecidablePred (OnRead _))

instance (s : SocketId) (srv : IpcServer κ) : DecidablePred (RelaunchesIdle s srv)
  | .relaunch appId _ _ _ => inferInstanceAs (Decidable (srv.runningSockets[appId]? = some s →
      srv.usable s = true → srv.launchCallbacks[srv.processId s]? = none))
  | .socket _ | .launch .. | .removeProcess _ => .isTrue trivial

instance [DecidableEq κ] (s : SocketId) (h : ServerHistory κ) : DecidablePred (CallsAnswered s h) :=
  fun e => inferInstanceAs (Decidable (s ∈ answers e → (h.state.handle e).2.flatMap called =
    ((requestsTo h s)[repliesFrom h s]?.bind Request.callback).toList))

/-! ## The invariant

For one socket: at most one request is unanswered, and its callback is in the place of the socket.
An event may have nothing to do with the socket, send it a request, or read its reply; there is
one lemma for each. -/

/-- The requests to one runner, against its replies. -/
structure AnswersInv (s : SocketId) (h : ServerHistory κ) : Prop where
  /-- A runner that has not been launched has been sent nothing. -/
  unsent : (h.state.socket s).appId = none → requestsTo h s = []
  /-- It has not answered more than it was sent. -/
  counted : repliesFrom h s ≤ (requestsTo h s).length
  /-- What is in its place is the callback of the one request that it has not answered. -/
  waiting : ∀ p, (h.state.socket s).pid = some p →
    ((requestsTo h s).drop (repliesFrom h s)).map Request.callback =
      h.state.launchCallbacks[p]?.toList
  /-- The callbacks of the requests that it has answered have been called. -/
  done : (((requestsTo h s).take (repliesFrom h s)).filterMap Request.callback).Subperm
    (h.outputs.flatMap called)

/-- A list with one element at most, of which the first is known. -/
theorem singleton_of_drop {α β : Type} {f : α → β} {l : List α} {n : Nat} {a : α} {o : Option β}
    (ha : l[n]? = some a) (ho : (l.drop n).map f = o.toList) :
    o = some (f a) ∧ l.drop (n + 1) = [] := by
  obtain ⟨hn, hget⟩ := List.getElem?_eq_some_iff.mp ha
  rw [List.drop_eq_getElem_cons hn, hget, List.map_cons] at ho
  cases o with
  | none => cases ho
  | some b =>
    obtain ⟨hb, hrest⟩ := List.cons.inj ho
    exact ⟨congrArg some hb.symm, List.map_eq_nil_iff.mp hrest⟩

namespace AnswersInv

variable {s : SocketId} {h : ServerHistory κ}

/-- Nothing has been sent. -/
theorem init (s : SocketId) : AnswersInv (κ := κ) s (.init {}) where
  unsent _ := rfl
  counted := Nat.zero_le _
  waiting p hp := by simp [History.init, socket] at hp
  done := List.nil_subperm

/-- The pid of `s` after an event leads to what waited for `s` before it: a pid that is registered
only now is new. -/
theorem waiting_of_step (hs : AnswersInv s h) (hinv : CallbacksInv h.state) {e : ServerEvent κ}
    (he : h.state.RunnerProtocol e) {p : Int} (hp : ((h.state.handle e).1.socket s).pid = some p) :
    ((requestsTo h s).drop (repliesFrom h s)).map Request.callback =
      h.state.launchCallbacks[p]?.toList := by
  rcases pid_of_step hp with hp | ⟨message, now, rfl, hheader, rfl⟩
  · exact hs.waiting p hp
  · have happ : (h.state.socket s).appId = none := by
      by_contra happ
      obtain ⟨a, ha⟩ := Option.ne_none_iff_exists'.mp happ
      exact hinv.launched s a ha (he.once hheader)
    rw [hs.unsent happ, hinv.free_of_not_registered (he.distinct hheader), List.drop_nil]
    rfl

/-- A request for `s` is sent when `s` has answered everything. -/
theorem idle_of_sent (hs : AnswersInv s h) (hinv : CallbacksInv h.state) {e : ServerEvent κ}
    (hidle : RelaunchesIdle s h.state e) {srv' : IpcServer κ} {p : Int}
    (hsent : SentTo h.state e srv' s p) : (requestsTo h s).drop (repliesFrom h s) = [] := by
  rcases hsent.origin with happ | ⟨appId, params, callback, now, rfl, hsocket, husable⟩
  · rw [hs.unsent happ, List.drop_nil]
  · obtain ⟨-, happ⟩ := hinv.running appId s hsocket
    obtain ⟨q, hq⟩ := Option.ne_none_iff_exists'.mp (hinv.launched s appId happ)
    have hwaiting := hs.waiting q hq
    have hnone := hidle hsocket husable
    rw [show h.state.processId s = q by simp [processId, hq]] at hnone
    rw [hnone] at hwaiting
    exact List.map_eq_nil_iff.mp hwaiting

/-- The request a reply of `s` answers, and the callback that waits for it. It is the last request
that was sent, as there is one at most that has no reply yet. -/
theorem callback_of_answered (hs : AnswersInv s h) (hinv : CallbacksInv h.state)
    {e : ServerEvent κ} (horder : AnswersInOrder s h e) (hanswers : s ∈ answers e) :
    ∃ request p, (requestsTo h s)[repliesFrom h s]? = some request ∧
      (h.state.socket s).pid = some p ∧
      h.state.launchCallbacks[p]? = some request.callback ∧
      (requestsTo h s).drop (repliesFrom h s + 1) = [] := by
  obtain ⟨message, now, rfl, hreply⟩ := answers_eq hanswers
  have hnext := horder rfl hreply
  obtain ⟨request, hrequest⟩ : ∃ request, (requestsTo h s)[repliesFrom h s]? = some request := by
    cases hget : (requestsTo h s)[repliesFrom h s]? with
    | none =>
      rw [hget] at hnext
      rcases hreply with hheader | hheader <;> cases hnext.trans hheader
    | some request => exact ⟨request, rfl⟩
  have happ : (h.state.socket s).appId ≠ none := fun happ => by
    rw [hs.unsent happ] at hrequest
    cases hrequest
  obtain ⟨a, ha⟩ := Option.ne_none_iff_exists'.mp happ
  obtain ⟨p, hp⟩ := Option.ne_none_iff_exists'.mp (hinv.launched s a ha)
  obtain ⟨hplace, hrest⟩ := singleton_of_drop hrequest (hs.waiting p hp)
  exact ⟨request, p, hrequest, hp, hplace, hrest⟩

/-- **A reply calls the callback of the request it answers.** -/
theorem callsAnswered (hs : AnswersInv s h) (hinv : CallbacksInv h.state) {e : ServerEvent κ}
    (he : h.state.RunnerProtocol e) (horder : AnswersInOrder s h e) : CallsAnswered s h e := by
  intro hanswers
  obtain ⟨request, p, hrequest, hp, hplace, -⟩ := hs.callback_of_answered hinv horder hanswers
  have hpid : h.state.processId s = p := by simp [processId, hp]
  have hex := exchange hinv he
  cases hex with
  | quiet hnone | sent _ _ _ hnone =>
    rw [hnone] at hanswers
    exact absurd hanswers List.not_mem_nil
  | answered t hone hwrites hcalled =>
    rw [hone] at hanswers
    obtain rfl := List.mem_singleton.mp hanswers
    rw [hcalled, launchCallback, hpid, hplace, hrequest]
    rfl

/-- A socket that is not launched after an event was not launched before it. -/
theorem unsent_of_step (hs : AnswersInv s h) (hinv : CallbacksInv h.state) {e : ServerEvent κ}
    (he : h.state.RunnerProtocol e) (hnone : ((h.state.handle e).1.socket s).appId = none) :
    requestsTo h s = [] := by
  refine hs.unsent ?_
  by_contra happ
  obtain ⟨a, ha⟩ := Option.ne_none_iff_exists'.mp happ
  have hkept := (hinv.kept he.life he.once s).2 a ha
  rw [hkept] at hnone
  cases hnone

/-- An event that neither sends `s` a request nor is a reply of it keeps the invariant, if it leaves
the place of `s` as it is. -/
theorem step_of_frame (hs : AnswersInv s h) (hinv : CallbacksInv h.state) {e : ServerEvent κ}
    (he : h.state.RunnerProtocol e)
    (hwrites : ((h.state.handle e).2.flatMap writes).filter (·.1 = s) = [])
    (hanswers : (answers e).count s = 0)
    (hplace : ∀ p, ((h.state.handle e).1.socket s).pid = some p →
      (h.state.handle e).1.launchCallbacks[p]? = h.state.launchCallbacks[p]?) :
    AnswersInv s ((ipcServer κ).step h e) := by
  have hrequests : requestsTo ((ipcServer κ).step h e) s = requestsTo h s := by
    rw [requestsTo_step, hwrites, List.map_nil, List.append_nil]
  have hreplies : repliesFrom ((ipcServer κ).step h e) s = repliesFrom h s := by
    rw [repliesFrom_step, hanswers, Nat.add_zero]
  constructor
  case unsent =>
    rw [hrequests]
    exact hs.unsent_of_step hinv he
  case counted =>
    rw [hrequests, hreplies]
    exact hs.counted
  case waiting =>
    intro p hp
    rw [hrequests, hreplies, hs.waiting_of_step hinv he hp]
    exact congrArg Option.toList (hplace p hp).symm
  case done =>
    rw [hrequests, hreplies, Machine.step_outputs, List.flatMap_append]
    exact hs.done.trans (List.sublist_append_left _ _).subperm

/-- A request that is sent to `s` puts its callback in the place of `s`, which was empty. For a
relaunch it is empty by the guard, and for a launch because the runner comes from the pool. -/
theorem step_of_sent (hs : AnswersInv s h) (hinv : CallbacksInv h.state) {e : ServerEvent κ}
    (hidle : RelaunchesIdle s h.state e) {request : Request κ} {q : Int} (hanswers : answers e = [])
    (hwrites : (h.state.handle e).2.flatMap writes = [(s, request)])
    (hplaces : (h.state.handle e).1.launchCallbacks =
      h.state.launchCallbacks.insert q request.callback)
    (hsent : SentTo h.state e (h.state.handle e).1 s q) :
    AnswersInv s ((ipcServer κ).step h e) := by
  have hrequests : requestsTo ((ipcServer κ).step h e) s = requestsTo h s ++ [request] := by
    simp [requestsTo_step, hwrites]
  have hreplies : repliesFrom ((ipcServer κ).step h e) s = repliesFrom h s := by
    simp [repliesFrom_step, hanswers]
  have hidle := hs.idle_of_sent hinv hidle hsent
  constructor
  case unsent =>
    exact fun hnone => absurd hnone hsent.appId
  case counted =>
    rw [hrequests, hreplies, List.length_append]
    exact Nat.le_add_right_of_le hs.counted
  case waiting =>
    intro p hp
    obtain rfl := Option.some.inj (hsent.pid.symm.trans hp)
    -- nothing was waiting, and the new request is the only one that does
    have hplace : (h.state.handle e).1.launchCallbacks[q]? = some request.callback := by
      simp [hplaces]
    rw [hrequests, hreplies, List.drop_append_of_le_length hs.counted, hidle]
    exact congrArg Option.toList hplace.symm
  case done =>
    rw [hrequests, hreplies, Machine.step_outputs, List.flatMap_append,
      List.take_append_of_le_length hs.counted]
    exact hs.done.trans (List.sublist_append_left _ _).subperm

/-- A reply of `s` empties the place of `s`, and calls what was in it. Afterwards no request is
unanswered, so nothing may wait there, and nothing does. -/
theorem step_of_answered (hs : AnswersInv s h) (hinv : CallbacksInv h.state) {e : ServerEvent κ}
    (he : h.state.RunnerProtocol e) (horder : AnswersInOrder s h e) (hanswers : answers e = [s])
    (hwrites : (h.state.handle e).2.flatMap writes = [])
    (hplaces : (h.state.handle e).1.launchCallbacks =
      h.state.launchCallbacks.erase (h.state.processId s)) :
    AnswersInv s ((ipcServer κ).step h e) := by
  have hmem : s ∈ answers e := hanswers ▸ List.mem_singleton_self s
  have hcalls := hs.callsAnswered hinv he horder hmem
  obtain ⟨request, p, hrequest, hp, -, hrest⟩ := hs.callback_of_answered hinv horder hmem
  have hrequests : requestsTo ((ipcServer κ).step h e) s = requestsTo h s := by
    simp [requestsTo_step, hwrites]
  have hreplies : repliesFrom ((ipcServer κ).step h e) s = repliesFrom h s + 1 := by
    simp [repliesFrom_step, hanswers]
  constructor
  -- a reply comes from a socket that has been launched
  case unsent =>
    rw [hrequests]
    exact hs.unsent_of_step hinv he
  case counted =>
    rw [hrequests, hreplies]
    exact (List.getElem?_eq_some_iff.mp hrequest).1
  -- the place is empty now, and everything has been answered
  case waiting =>
    intro q hq
    have hkept := (hinv.kept he.life he.once s).1 p hp
    obtain rfl := Option.some.inj (hkept.symm.trans hq)
    have hplace : (h.state.handle e).1.launchCallbacks[p]? = none := by
      simp [hplaces, processId, hp]
    rw [hrequests, hreplies, hrest]
    exact congrArg Option.toList hplace.symm
  case done =>
    rw [hrequests, hreplies, Machine.step_outputs, List.flatMap_append, List.take_add_one,
      List.filterMap_append]
    -- the request that is answered now is the last one of those that are done
    refine hs.done.append (List.Perm.subperm (List.Perm.of_eq ?_))
    refine Eq.trans ?_ hcalls.symm
    rw [hrequest]
    cases hcallback : request.callback <;> simp [hcallback]

/-- Every event keeps the invariant. An event about another socket fills or empties the place of
another pid. -/
theorem step (hs : AnswersInv s h) (hinv : CallbacksInv h.state) {e : ServerEvent κ}
    (he : h.state.RunnerProtocol e) (horder : AnswersInOrder s h e)
    (hidle : RelaunchesIdle s h.state e) : AnswersInv s ((ipcServer κ).step h e) := by
  have hinv' := hinv.step he
  have hex := exchange hinv he
  cases hex with
  -- nothing is sent to the socket, and nothing is read from it
  | quiet hanswers hwrites hcalled hplaces =>
    exact hs.step_of_frame hinv he (by simp [hwrites]) (by simp [hanswers]) (by simp [hplaces])
  | sent t request q hanswers hwrites hcalled hplaces hdeferred hsent =>
    by_cases hts : t = s
    · subst hts
      exact hs.step_of_sent hinv hidle hanswers hwrites hplaces hsent
    · refine hs.step_of_frame hinv he (by simp [hwrites, hts]) (by simp [hanswers]) fun p hp => ?_
      -- the place that is filled is that of another pid
      have hqp : q ≠ p := fun hqp => hts (hinv'.distinct t s p (hqp ▸ hsent.pid) hp)
      rw [hplaces, QMap.getElem?_insert, if_neg hqp]
  | answered t hanswers hwrites hcalled hplaces =>
    by_cases hts : t = s
    · subst hts
      exact hs.step_of_answered hinv he horder hanswers hwrites hplaces
    · refine hs.step_of_frame hinv he (by simp [hwrites])
        (by simp [hanswers, hts]) fun p hp => ?_
      -- the place that is emptied is that of another pid
      have hother : h.state.processId t ≠ p := by
        rintro rfl
        cases htp : (h.state.socket t).pid with
        | none =>
          rw [processId, htp] at hp
          exact hinv'.nonzero s hp
        | some q =>
          have hq := (hinv.kept he.life he.once t).1 q htp
          rw [processId, htp] at hp
          exact hts (hinv'.distinct t s q hq hp)
      rw [hplaces, QMap.getElem?_erase, if_neg hother]

end AnswersInv

/-! ## Whole runs

By induction over the run. At a boundary at which every request has been answered, every callback
has been called. -/

/-- Each callback that went to `s` with a request has been called, and once if it was handed in
once. -/
structure EachCalled [DecidableEq κ] (s : SocketId) (h : ServerHistory κ) : Prop where
  /-- The callback of each request has been called. -/
  every : ((requestsTo h s).filterMap Request.callback).Subperm (h.outputs.flatMap called)
  /-- It has not been called twice, if it was handed in once. -/
  once : ∀ c ∈ (requestsTo h s).filterMap Request.callback,
    (h.inputs.flatMap handed).count c = 1 → (h.outputs.flatMap called).count c = 1

/-- **Replies answer the requests they belong to**: each reply of `s` calls the callback of the
request it answers, and at every event boundary at which `s` has answered everything, each callback
that was sent to it has been called.

By induction with `AnswersInv`: one request at most is unanswered, and its callback is the one in
the place of the socket, which is what the next reply finds. -/
theorem replies_answer_requests [DecidableEq κ] (s : SocketId) (es : List (ServerEvent κ))
    (hes : (ipcServer κ).Admits (fun h e => h.state.RunnerProtocol e ∧ AnswersInOrder s h e ∧
      RelaunchesIdle s h.state e) (.init {}) es) :
    (ipcServer κ).Admits (CallsAnswered s) (.init {}) es ∧
      (ipcServer κ).Always
        (fun h => repliesFrom h s = (requestsTo h s).length → EachCalled s h) (.init {}) es := by
  have hstep (h : ServerHistory κ) (e : ServerEvent κ)
      (hinv : CallbacksInv h.state ∧ AnswersInv s h)
      (he : h.state.RunnerProtocol e ∧ AnswersInOrder s h e ∧ RelaunchesIdle s h.state e) :
      CallbacksInv ((ipcServer κ).step h e).state ∧ AnswersInv s ((ipcServer κ).step h e) :=
    ⟨hinv.1.step he.1, hinv.2.step hinv.1 he.1 he.2.1 he.2.2⟩
  have hinit : CallbacksInv (.init {} : ServerHistory κ).state ∧ AnswersInv (κ := κ) s (.init {}) :=
    ⟨CallbacksInv.init, AnswersInv.init s⟩
  refine ⟨Machine.Admits.of_invariant hstep
    (fun h e hinv he => hinv.2.callsAnswered hinv.1 he.1 he.2.1) hinit hes, ?_⟩
  refine Machine.always_iff_boundaries.mpr fun fs hfs hall => ?_
  obtain ⟨gs, rfl⟩ := hfs
  have hfs := ((ipcServer κ).admits_append.mp hes).1
  have hanswers := (Machine.invariant hstep hinit hfs).2
  have hevery := hanswers.done
  rw [hall, List.take_length] at hevery
  refine ⟨hevery, fun c hc hhanded => ?_⟩
  -- a callback is called at least once because it is among those of `s`, and at most as often as it
  -- was handed in
  have hflow := called_subperm_handed (hfs.mono fun _ _ he => he.1)
  have hmost := ((List.sublist_append_left _ _).subperm.trans hflow).count_le c
  have hleast := List.count_pos_iff.mpr (hevery.subset hc)
  omega

/-- An application is launched, then relaunched when its runner has replied. -/
def launchAndRelaunch : List (ServerEvent Nat) :=
  [.socket (.newConnection 1),
    .socket (.readSocket 1 (IpcClient.registerRequest 100) 10),
    .launch ⟨"com.webos.app.a", "a.qml", {}, some 0⟩ 20,
    .socket (.readSocket 1 (IpcClient.launchReply "a.qml" true) 30),
    .relaunch "com.webos.app.a" {} (some 1) 40,
    .socket (.readSocket 1 (IpcClient.relaunchReply true) 50)]

/-- The relaunch comes when the place is empty. -/
theorem replies_answer_requests_launchAndRelaunch :
    (ipcServer Nat).Admits (CallsAnswered 1) (.init {}) launchAndRelaunch ∧
      (ipcServer Nat).Always
        (fun h => repliesFrom h 1 = (requestsTo h 1).length → EachCalled 1 h) (.init {})
        launchAndRelaunch :=
  replies_answer_requests 1 launchAndRelaunch (by decide)

/-- An application is relaunched twice before its runner has answered the first relaunch. -/
def relaunchTwice : List (ServerEvent Nat) :=
  [.socket (.newConnection 1),
    .socket (.readSocket 1 (IpcClient.registerRequest 100) 10),
    .launch ⟨"com.webos.app.a", "a.qml", {}, some 0⟩ 20,
    .socket (.readSocket 1 (IpcClient.launchReply "a.qml" true) 30),
    .relaunch "com.webos.app.a" {} (some 1) 40,
    .relaunch "com.webos.app.a" {} (some 2) 50,
    .socket (.readSocket 1 (IpcClient.relaunchReply true) 60),
    .socket (.readSocket 1 (IpcClient.relaunchReply true) 70)]

/-- The first reply calls the callback of the second relaunch, and that of the first one is never
called. -/
theorem not_replies_answer_requests_relaunchTwice :
    (ipcServer Nat).Admits (fun h e => h.state.RunnerProtocol e ∧ AnswersInOrder 1 h e) (.init {})
        relaunchTwice ∧
      ¬ (ipcServer Nat).Admits (CallsAnswered 1) (.init {}) relaunchTwice ∧
      ¬ (ipcServer Nat).Always
        (fun h => repliesFrom h 1 = (requestsTo h 1).length → EachCalled 1 h) (.init {})
        relaunchTwice := by
  refine ⟨by decide, by decide, fun hall => ?_⟩
  have honce := (hall.last (by decide)).once 1 (by decide) (by decide)
  revert honce
  decide

end IpcServer

end Booster
