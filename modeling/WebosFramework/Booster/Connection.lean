import WebosFramework.Booster.Replies
import WebosFramework.Booster.SingleInstance
import WebosFramework.Runner.Main

/-!
# A connection between the booster and a runner

A runner with its end of a socket: the process, and the messages that are in flight in the two
directions. Each end takes what has arrived in one block and reads the first message of it, so the
messages behind that one are lost. No message is split between two blocks.

`Pipe` is what server and runner keep true of a connection together: the replies that are still to
come belong to requests that have not been answered, in their order, and the reply to the launch
comes before all others. `Pipe.protocol` is what follows for the next message that is read: it meets
every guard that the server has on its runners.
-/

namespace Booster

open Qt EventLoop

open Runner (InteractiveRunner RunnerEvent RunnerHistory Loading interactiveRunner repliesTo)

/-- A runner and its socket. -/
structure Connection where
  pid : Int
  /-- The process, with what it has done so far. -/
  process : RunnerHistory
  /-- What the runner has not read yet. -/
  toRunner : List QJsonObject := []
  /-- What the booster has not read yet. -/
  toBooster : List QJsonObject := []

namespace Connection

/-- A runner connects and sends its registration. -/
def connected (pid : Int) : Connection where
  pid
  process := Runner.pooled pid
  toBooster := (Runner.pooled pid).outputs

variable (c : Connection)

/-- The booster writes these messages. -/
def deliver (requests : List QJsonObject) : Connection :=
  { c with toRunner := c.toRunner ++ requests }

/-- The booster reads a block: the first message, while `lost` others go with it. -/
def dropToBooster (lost : Nat) : Connection :=
  { c with toBooster := c.toBooster.drop (1 + lost) }

/-- The same for the runner. -/
def dropToRunner (lost : Nat) : Connection :=
  { c with toRunner := c.toRunner.drop (1 + lost) }

/-- The runner handles an event, and sends what it has to send. -/
def handle (e : RunnerEvent) : Connection :=
  { c with
    process := interactiveRunner.step c.process e
    toBooster := c.toBooster ++ (c.process.state.handle e).2 }

/-- The runner reads a block. -/
def readRequest (lost : Nat) (loading : Loading) : Connection :=
  match c.toRunner with
  | [] => c
  | message :: _ => (c.handle (.message message loading)).dropToRunner lost

/-! ## Replies that are still to come

A runner that answers is going to send a reply for each request that is in flight to it. So the
replies in flight, followed by those, are what the booster will read, unless messages are dropped.
-/

/-- The kind of reply a message is. -/
def replyKind (message : QJsonObject) : Option IpcMessageType :=
  if IpcServer.IsReply message then header message else none

/-- The runner is there to answer. -/
def Answers : Prop := c.process.state.phase = .running ∧ c.process.state.isOpen = true

instance : Decidable c.Answers :=
  inferInstanceAs (Decidable (c.process.state.phase = .running ∧ c.process.state.isOpen = true))

/-- The replies in flight, and those to the requests in flight. -/
def toCome : List IpcMessageType :=
  c.toBooster.filterMap replyKind ++ if c.Answers then c.toRunner.filterMap repliesTo else []

/-- A runner that answers is going to answer what is on its way. -/
theorem toCome_of_answers {c : Connection} (h : c.Answers) :
    c.toCome = c.toBooster.filterMap replyKind ++ c.toRunner.filterMap repliesTo := by
  rw [toCome, if_pos h]

/-- One that does not is not. -/
theorem toCome_of_not_answers {c : Connection} (h : ¬ c.Answers) :
    c.toCome = c.toBooster.filterMap replyKind := by
  rw [toCome, if_neg h, List.append_nil]

/-- With nothing on the way to the runner, the replies are those on their way back. -/
theorem toCome_of_idle {c : Connection} (h : c.toRunner = []) :
    c.toCome = c.toBooster.filterMap replyKind := by
  by_cases hanswers : c.Answers
  · rw [toCome_of_answers hanswers, h, List.filterMap_nil, List.append_nil]
  · exact toCome_of_not_answers hanswers

/-- A reply is of the kind that its header says. -/
theorem replyKind_of_isReply {message : QJsonObject} (h : IpcServer.IsReply message) :
    replyKind message = header message := if_pos h

/-- A registration is no reply. -/
@[simp] theorem replyKind_registerRequest (pid : Int) :
    replyKind (IpcClient.registerRequest pid) = none :=
  if_neg (by simp [IpcServer.IsReply])

/-- A message that has the header of a reply to a request is a reply. -/
theorem isReply_of_repliesTo {message reply : QJsonObject} {kind : IpcMessageType}
    (hkind : repliesTo message = some kind) (hheader : header reply = some kind) :
    IpcServer.IsReply reply := by
  unfold repliesTo at hkind
  split at hkind
  · exact .inl (hheader.trans hkind.symm)
  · exact .inr (hheader.trans hkind.symm)
  · cases hkind

/-- A registration is no reply. -/
theorem toCome_connected (pid : Int) : (connected pid).toCome = [] := by
  rw [toCome_of_idle rfl]
  show ([IpcClient.registerRequest pid] : List QJsonObject).filterMap replyKind = []
  rw [List.filterMap_cons, replyKind_registerRequest]
  rfl

end Connection

namespace IpcServer

variable {κ : Type}

/-! ## Requests, as the server sees them

The server's side of the same list: the replies that it has asked a socket for, over the whole
past. `written` says what one event adds to it. -/

/-- The replies that `s` has been asked for. -/
def requested (h : ServerHistory κ) (s : SocketId) : List IpcMessageType :=
  (requestsTo h s).map Request.reply

/-- The requests that outputs write to `s`. -/
def writtenTo (s : SocketId) (outs : List (Output κ)) : List (Request κ) :=
  ((outs.flatMap writes).filter (·.1 = s)).map Prod.snd

/-- What an event writes to the socket comes behind what was written to it before. -/
theorem requested_step (h : ServerHistory κ) (e : ServerEvent κ) (s : SocketId) :
    requested ((ipcServer κ).step h e) s =
      requested h s ++ (writtenTo s (h.state.handle e).2).map Request.reply := by
  rw [requested, requestsTo_step, List.map_append]
  rfl

/-- An event that writes nothing writes nothing to this socket. -/
theorem writtenTo_eq_nil {s : SocketId} {outs : List (Output κ)} (h : outs.flatMap writes = []) :
    writtenTo s outs = [] := by
  rw [writtenTo, h]
  rfl

/-- A request is written to one socket. -/
theorem writtenTo_of_writes {s t : SocketId} {request : Request κ} {outs : List (Output κ)}
    (h : outs.flatMap writes = [(t, request)]) :
    writtenTo s outs = if t = s then [request] else [] := by
  rw [writtenTo, h]
  by_cases hts : t = s
  · simp [hts]
  · simp [hts]

/-- The launch request has waited, or comes with the event. -/
def Brings (srv : IpcServer κ) (e : ServerEvent κ) (message : Message κ) : Prop :=
  message ∈ srv.deferredMessages ∨ ∃ now, e = .launch message now

/-- What an event writes to `s`: nothing, or one request, which is a launch exactly when `s` has not
been launched. -/
inductive Written (srv : IpcServer κ) (e : ServerEvent κ) (s : SocketId)
    (result : IpcServer κ × List (Output κ)) : Prop where
  /-- Most events write nothing to this socket. -/
  | nothing (hwritten : writtenTo s result.2 = [])
      (happ : (result.1.socket s).appId = (srv.socket s).appId)
  /-- A socket that is launched was not launched before. -/
  | launch (message : Message κ) (now : Int)
      (hwritten : writtenTo s result.2 = [.launch message now])
      (hfrom : Brings srv e message)
      (hnone : (srv.socket s).appId = none)
      (happ : (result.1.socket s).appId = some message.appId)
  /-- A socket that is relaunched was launched before. -/
  | relaunch (params : QJsonObject) (now : Int) (callback : Option κ)
      (hwritten : writtenTo s result.2 = [.relaunch params now callback])
      (hfrom : ∃ appId, e = .relaunch appId params callback now)
      (hsome : (srv.socket s).appId ≠ none)
      (happ : (result.1.socket s).appId = (srv.socket s).appId)

/-- A launch writes to a runner of the pool, which has not been launched, or writes nothing. The
counts that are emitted meanwhile write nothing. -/
theorem written_of_launched {srv : IpcServer κ} (h : SocketsInv srv) {e : ServerEvent κ}
    {message : Message κ} {now : Int} (hfrom : Brings srv e message)
    {result : IpcServer κ × List (Output κ)} (hl : Launched srv message now result)
    (s : SocketId) : Written srv e s result := by
  cases hl with
  | placed skipped t clients counts hpool =>
    have hwrites : (counts.map Output.connectedRunnersCountChanged ++
        [Output.write t (.launch message now)]).flatMap writes = [(t, .launch message now)] := by
      rw [List.flatMap_append, flatMap_counts fun _ => rfl]
      rfl
    have hwritten := writtenTo_of_writes (s := s) hwrites
    by_cases hts : t = s
    · subst hts
      rw [if_pos rfl] at hwritten
      refine .launch message now hwritten hfrom (h.pooled t (by simp [hpool])).2.2 ?_
      show ((srv.place message t clients).socket t).appId = _
      rw [socket_place, if_pos rfl]
    · rw [if_neg hts] at hwritten
      refine .nothing hwritten ?_
      show ((srv.place message t clients).socket s).appId = _
      rw [socket_place, if_neg hts]
  | deferred counts => exact .nothing (writtenTo_eq_nil (flatMap_counts (fun _ => rfl) counts)) rfl

/-- An update of one socket that keeps its application. -/
theorem appId_modifySocket (srv : IpcServer κ) {t : SocketId} {f : LocalSocket → LocalSocket}
    (hf : (f (srv.socket t)).appId = (srv.socket t).appId) (s : SocketId) :
    ((srv.modifySocket t f).socket s).appId = (srv.socket s).appId := by
  rw [socket_modifySocket]
  split
  · rename_i hts
    rw [← hts]
    exact hf
  · rfl

/-- **What an event writes to a socket.** There is one request at most, and the application at the
socket says whether it is a launch or a relaunch. -/
theorem written {srv : IpcServer κ} (h : SocketsInv srv) {e : ServerEvent κ}
    (hlife : srv.SocketLife e) (honce : srv.RegistersOnce e) (s : SocketId) :
    Written srv e s (srv.handle e) := by
  have ht := transition srv e
  generalize srv.handle e = result at ht ⊢
  cases ht with
  | connected t =>
    refine .nothing rfl (appId_modifySocket srv ?_ s)
    -- a socket that is handed out now has not been launched
    by_contra happ
    obtain ⟨a, ha⟩ := Option.ne_none_iff_exists'.mp (Ne.symm happ)
    exact h.launched t a ha (h.absent t hlife)
  -- disconnecting writes nothing
  | disconnected t =>
    refine .nothing (writtenTo_eq_nil ?_) (appId_modifySocket _ rfl s)
    unfold onDisconnected
    split <;> rfl
  | closed t => exact .nothing rfl (appId_modifySocket srv rfl s)
  | deleted t => exact .nothing rfl (appId_modifySocket srv rfl s)
  | refused | ignored | relaunchLost | removed => exact .nothing rfl rfl
  | registered t message now => exact .nothing rfl (appId_enrol srv t s _)
  | served t message now deferred rest result hheader hpid hdeferred hlaunched =>
    have henrol := h.enrol hlife (honce hheader) hpid
    have happ := appId_enrol srv t s (registeredPid message)
    have hrest : SocketsInv { srv.enrol t (registeredPid message) with deferredMessages := rest } :=
      henrol.congr rfl rfl rfl
    -- the outputs of the registration write nothing
    -- the launch that follows the registration
    cases written_of_launched hrest (e := .launch deferred now) (.inr ⟨now, rfl⟩) hlaunched s with
    | nothing hwritten happ' => exact .nothing hwritten (happ'.trans happ)
    | launch message' now' hwritten hfrom hnone happ' =>
      refine .launch message' now' hwritten (.inl ?_) (happ.symm.trans hnone) happ'
      rcases hfrom with hfrom | ⟨now'', hfrom⟩
      · exact hdeferred ▸ List.mem_cons_of_mem deferred hfrom
      · cases hfrom
        exact hdeferred ▸ List.mem_cons_self
    | relaunch params now' callback hwritten hfrom =>
      obtain ⟨appId, hfrom⟩ := hfrom
      cases hfrom
  -- replies are read, and nothing is written
  | launchSucceeded | launchFailed | relaunchReplied =>
    exact .nothing (writtenTo_eq_nil (by simp [writes])) rfl
  | launch message now result hlaunched =>
    exact written_of_launched h (.inr ⟨now, rfl⟩) hlaunched s
  | relaunchSent appId params callback now t hsocket husable =>
    have hwrites : ([.write t (.relaunch params now callback)] : List (Output κ)).flatMap writes =
        [(t, .relaunch params now callback)] := rfl
    have hwritten := writtenTo_of_writes (s := s) hwrites
    by_cases hts : t = s
    · subst hts
      rw [if_pos rfl] at hwritten
      refine .relaunch params now callback hwritten ⟨appId, rfl⟩ ?_ rfl
      rw [(h.running appId t hsocket).2]
      exact Option.some_ne_none appId
    · -- another socket is not written to
      rw [if_neg hts] at hwritten
      exact .nothing hwritten rfl

end IpcServer

/-! ## What the two ends keep

`Pipe` ties the two sides together: the replies that have been read and those still to come are
the first of those that have been asked for, in their order. Each step of either side is one lemma
below. -/

/-- A connection, next to the server's socket, the replies that have been asked for on it and how
many of them have been read. -/
structure Pipe (x : LocalSocket) (asked : List IpcMessageType) (answered : Nat) (c : Connection) :
    Prop where
  /-- A connection that is not registered has its registration on it, or has lost it. -/
  unregistered : x.pid = none → c.toRunner = [] ∧
    (c.toBooster = [IpcClient.registerRequest c.pid] ∨ c.toBooster = [])
  /-- Otherwise it has replies only. -/
  registered : ∀ p, x.pid = some p → p = c.pid ∧ ∀ message ∈ c.toBooster, IpcServer.IsReply message
  /-- The server marks the socket with an application as it writes the first request. -/
  unlaunched : x.appId = none ↔ asked = []
  /-- The first request is the launch. -/
  launchFirst : ∀ kind ∈ asked.head?, kind = .launchReply
  /-- All others are relaunches. -/
  relaunchLater : ∀ kind ∈ asked.tail, kind = .relaunchReply
  /-- The runner has not answered more than it was asked. -/
  counted : answered ≤ asked.length
  /-- The replies to come are those to requests that are not answered, some of which may be lost. -/
  toCome : c.toCome.Sublist (asked.drop answered)
  /-- Before any reply has been read, the next one is that to the launch. -/
  first : answered = 0 → ∀ kind ∈ c.toCome.head?, kind = .launchReply
  /-- A runner that answers has not lost the launch. -/
  waits : answered = 0 → asked ≠ [] → c.Answers → c.toCome ≠ []

namespace Pipe

variable {x x' : LocalSocket} {asked : List IpcMessageType} {answered : Nat} {c c' : Connection}

/-- A connection is new, and nothing was asked. -/
theorem connected (pid : Int) :
    Pipe { phase := .connected, isOpen := true } [] 0 (.connected pid) where
  unregistered _ := ⟨rfl, .inl rfl⟩
  registered _ h := nomatch h
  unlaunched := iff_of_true rfl rfl
  launchFirst _ h := nomatch h
  relaunchLater _ h := nomatch h
  counted := Nat.zero_le _
  toCome := by
    rw [Connection.toCome_connected]
    exact List.Sublist.refl _
  first _ kind hkind := by
    rw [Connection.toCome_connected] at hkind
    cases hkind
  waits _ h := absurd rfl h

/-- Only the pid and the application of the socket matter. -/
theorem congr (h : Pipe x asked answered c) (hpid : x'.pid = x.pid) (happ : x'.appId = x.appId) :
    Pipe x' asked answered c where
  unregistered := hpid ▸ h.unregistered
  registered := hpid ▸ h.registered
  unlaunched := happ ▸ h.unlaunched
  launchFirst := h.launchFirst
  relaunchLater := h.relaunchLater
  counted := h.counted
  toCome := h.toCome
  first := h.first
  waits := h.waits

/-! ### The runner's steps

What is still to come gets shorter or stays the same. Nothing is lost in front of a reply, as the
block that is dropped with a message is what comes behind it. -/

/-- The runner takes away from what is to come, but nothing before the first reply. Every step of a
runner comes down to this: what is to come gets shorter, or stays the same. -/
theorem mono (h : Pipe x asked answered c) (hpid : c'.pid = c.pid)
    (hidle : c.toRunner = [] → c'.toRunner = [] ∧ c'.toBooster = c.toBooster)
    (hreply : (∀ message ∈ c.toBooster, IpcServer.IsReply message) →
      ∀ message ∈ c'.toBooster, IpcServer.IsReply message)
    (hsub : c'.toCome.Sublist c.toCome) (hhead : ∀ kind ∈ c'.toCome.head?, kind ∈ c.toCome.head?)
    (hwaits : c'.Answers → c'.toCome = [] → c.Answers ∧ c.toCome = []) :
    Pipe x asked answered c' where
  unregistered hx := by
    obtain ⟨hrunner, hbooster⟩ := h.unregistered hx
    obtain ⟨hrunner', hbooster'⟩ := hidle hrunner
    rw [hbooster', hpid]
    exact ⟨hrunner', hbooster⟩
  registered p hp := ⟨(h.registered p hp).1.trans hpid.symm, hreply (h.registered p hp).2⟩
  unlaunched := h.unlaunched
  launchFirst := h.launchFirst
  relaunchLater := h.relaunchLater
  counted := h.counted
  toCome := hsub.trans h.toCome
  first hzero kind hkind := h.first hzero kind (hhead kind hkind)
  waits hzero hasked hanswers hnone := by
    obtain ⟨hanswers, hnone⟩ := hwaits hanswers hnone
    exact h.waits hzero hasked hanswers hnone

/-- The runner stops answering, or nothing changes. If it has stopped, only the replies that it has
written are still to come. -/
theorem quiet (h : Pipe x asked answered c) (hpid : c'.pid = c.pid)
    (hbooster : c'.toBooster = c.toBooster) (hidle : c.toRunner = [] → c'.toRunner = [])
    (hanswers : c'.Answers → c.Answers ∧ c'.toRunner = c.toRunner) : Pipe x asked answered c' := by
  by_cases hthere : c'.Answers
  · obtain ⟨hbefore, hrunner⟩ := hanswers hthere
    have hsame : c'.toCome = c.toCome := by
      rw [Connection.toCome_of_answers hthere, Connection.toCome_of_answers hbefore, hbooster,
        hrunner]
    refine h.mono hpid (fun hnone => ⟨hidle hnone, hbooster⟩) (hbooster ▸ id)
      (hsame ▸ List.Sublist.refl _) (fun kind hkind => hsame ▸ hkind) (fun _ hnone => ?_)
    exact ⟨hbefore, hsame ▸ hnone⟩
  · have hless : c'.toCome = c.toBooster.filterMap Connection.replyKind := by
      rw [Connection.toCome_of_not_answers hthere, hbooster]
    refine h.mono hpid (fun hnone => ⟨hidle hnone, hbooster⟩) (hbooster ▸ id) ?_ ?_
      (fun hthere' => absurd hthere' hthere)
    · rw [hless]
      exact List.sublist_append_left _ _
    · rw [hless, Connection.toCome, List.head?_append]
      intro kind hkind
      rw [hkind]
      rfl

/-- The runner answers the first request, while others may be lost. What is lost are requests behind
the one that is answered, so the reply is still the one that the server waits for next. -/
theorem answer (h : Pipe x asked answered c) {message reply : QJsonObject}
    {rest : List QJsonObject} {kind : IpcMessageType} {lost : Nat}
    (hrunner : c.toRunner = message :: rest) (hanswers : c.Answers)
    (hkind : repliesTo message = some kind) (hheader : header reply = some kind)
    (hbooster : c'.toBooster = c.toBooster ++ [reply]) (hpid : c'.pid = c.pid)
    (hrest : c'.toRunner = (message :: rest).drop (1 + lost)) : Pipe x asked answered c' := by
  have hreply := Connection.isReply_of_repliesTo hkind hheader
  have hreplyKind : Connection.replyKind reply = some kind :=
    (Connection.replyKind_of_isReply hreply).trans hheader
  -- the reply to this request is the first one that the runner has not sent yet
  have hbefore : c.toCome = c.toBooster.filterMap Connection.replyKind ++
      kind :: rest.filterMap repliesTo := by
    rw [Connection.toCome_of_answers hanswers, hrunner, List.filterMap_cons, hkind]
  obtain ⟨later, hlater, hafter⟩ : ∃ later, later.Sublist (rest.filterMap repliesTo) ∧
      c'.toCome = c.toBooster.filterMap Connection.replyKind ++ kind :: later := by
    have hsplit : c'.toBooster.filterMap Connection.replyKind =
        c.toBooster.filterMap Connection.replyKind ++ [kind] := by
      rw [hbooster, List.filterMap_append, List.filterMap_cons, hreplyKind]
      rfl
    -- the requests that are lost were behind it
    by_cases hthere : c'.Answers
    · refine ⟨(rest.drop lost).filterMap repliesTo, (List.drop_sublist lost rest).filterMap _, ?_⟩
      rw [Connection.toCome_of_answers hthere, hsplit, hrest, Nat.add_comm, List.drop_succ_cons,
        List.append_assoc]
      rfl
    · refine ⟨[], List.nil_sublist _, ?_⟩
      rw [Connection.toCome_of_not_answers hthere, hsplit]
  refine h.mono hpid (fun hnone => ?_) (fun hreplies m hm => ?_) ?_ ?_ (fun _ hnone => ?_)
  · rw [hrunner] at hnone
    cases hnone
  · rw [hbooster] at hm
    rcases List.mem_append.mp hm with hm | hm
    · exact hreplies m hm
    · exact List.mem_singleton.mp hm ▸ hreply
  · rw [hafter, hbefore]
    exact (hlater.cons_cons kind).append_left _
  · rw [hafter, hbefore, List.head?_append, List.head?_append]
    exact fun kind hkind => hkind
  · rw [hafter] at hnone
    simp at hnone

/-- The runner handles an event of its own. -/
theorem handle (h : Pipe x asked answered c) {e : RunnerEvent}
    (hasked : c.process.state.asked e = none) : Pipe x asked answered (c.handle e) := by
  have hnothing := InteractiveRunner.outputs_of_not_asked hasked
  refine h.quiet rfl ?_ id fun hthere => ⟨⟨?_, ?_⟩, rfl⟩
  · show c.toBooster ++ (c.process.state.handle e).2 = c.toBooster
    rw [hnothing, List.append_nil]
  · exact InteractiveRunner.running_of_handle hthere.1
  · exact InteractiveRunner.isOpen_of_handle hthere.2

/-- The runner reads a block. What it does with a request it decides by its program; a reply is
written at once, or the process ends. -/
theorem readRequest (h : Pipe x asked answered c) (lost : Nat) (loading : Loading) :
    Pipe x asked answered (c.readRequest lost loading) := by
  unfold Connection.readRequest
  cases hrunner : c.toRunner with
  | nil => exact h
  | cons message rest =>
    show Pipe x asked answered ((c.handle (.message message loading)).dropToRunner lost)
    have hbooster : ((c.handle (.message message loading)).dropToRunner lost).toBooster =
        c.toBooster ++ (c.process.state.handle (.message message loading)).2 := rfl
    have hidle (hnone : c.toRunner = []) :
        ((c.handle (.message message loading)).dropToRunner lost).toRunner = [] := by
      rw [hrunner] at hnone
      cases hnone
    cases hasked : c.process.state.asked (.message message loading) with
    | none =>
      -- a runner that answers and is not asked for anything leaves
      rw [InteractiveRunner.outputs_of_not_asked hasked, List.append_nil] at hbooster
      refine h.quiet rfl hbooster hidle fun hthere => ?_
      have hrunning := InteractiveRunner.running_of_handle hthere.1
      have hopen := InteractiveRunner.isOpen_of_handle hthere.2
      rw [InteractiveRunner.asked_message hrunning hopen] at hasked
      rcases InteractiveRunner.handle_message _ hrunning message loading with
        ⟨kind, hkind, -⟩ | ⟨-, hexit⟩
      · rw [hasked] at hkind
        cases hkind
      · have hleft : (c.process.state.handle (.message message loading)).1.phase = .running :=
          hthere.1
        rw [hexit] at hleft
        cases hleft
    -- the runner is asked for a reply: it sends one, or crashes
    | some kind =>
      obtain ⟨-, -, -, hrunning, hopen, -⟩ := InteractiveRunner.of_asked hasked
      rcases InteractiveRunner.reply_of_asked hasked with
        ⟨reply, hreply, hheader, -, -⟩ | ⟨hnothing, hcrashed⟩
      · rw [hreply] at hbooster
        have hrest : ((c.handle (.message message loading)).dropToRunner lost).toRunner =
            (message :: rest).drop (1 + lost) := by
          rw [← hrunner]
          rfl
        exact h.answer hrunner ⟨hrunning, hopen⟩ (InteractiveRunner.repliesTo_of_asked hasked)
          hheader hbooster rfl hrest
      · rw [hnothing, List.append_nil] at hbooster
        refine h.quiet rfl hbooster hidle fun hthere => ?_
        have hleft : (c.process.state.handle (.message message loading)).1.phase = .running :=
          hthere.1
        rw [hcrashed] at hleft
        cases hleft

/-! ### The server's steps

A request that is written makes what has been asked for longer, and a reply that is read is the
next one that has been asked for. -/

/-- A registration is read: the connection has nothing else on it. From here on the server knows the
pid of the runner, which is the one that the connection has. -/
theorem register (h : Pipe x asked answered c) (hunlaunched : x.appId = none)
    (hnew : x.pid = none) (hpid : ∀ p, x'.pid = some p → p = c.pid) (happ : x'.appId = none)
    (lost : Nat) : Pipe x' asked answered (c.dropToBooster lost) := by
  obtain ⟨hrunner, hbooster⟩ := h.unregistered hnew
  have hempty : (c.dropToBooster lost).toBooster = [] := by
    show c.toBooster.drop (1 + lost) = []
    rcases hbooster with hbooster | hbooster
    · rw [hbooster, Nat.add_comm]
      exact List.drop_nil
    · rw [hbooster]
      exact List.drop_nil
  have hnothing : (c.dropToBooster lost).toCome = [] := by
    have hidle : (c.dropToBooster lost).toRunner = [] := hrunner
    rw [Connection.toCome_of_idle hidle, hempty]
    rfl
  refine ⟨fun _ => ⟨hrunner, .inr hempty⟩, fun p hp => ⟨hpid p hp, ?_⟩,
    iff_of_true happ (h.unlaunched.mp hunlaunched), h.launchFirst, h.relaunchLater, h.counted, ?_,
    ?_, fun _ hasked => absurd (h.unlaunched.mp hunlaunched) hasked⟩
  · rw [hempty]
    exact fun _ hm => absurd hm List.not_mem_nil
  · rw [hnothing]
    exact List.nil_sublist _
  · rw [hnothing]
    exact fun _ _ hkind => absurd hkind.symm (Option.some_ne_none _)

/-- Behind the first request all are relaunches. -/
theorem relaunch_of_drop (h : Pipe x asked answered c) (hlater : answered ≠ 0) :
    ∀ kind ∈ asked.drop answered, kind = .relaunchReply := by
  obtain ⟨n, rfl⟩ := Nat.exists_eq_succ_of_ne_zero hlater
  intro kind hkind
  rw [← List.drop_tail] at hkind
  exact h.relaunchLater kind (List.mem_of_mem_drop hkind)

/-- What comes first is the reply to the next request. -/
theorem next (h : Pipe x asked answered c) {kind : IpcMessageType} {rest : List IpcMessageType}
    (htoCome : c.toCome = kind :: rest) : asked[answered]? = some kind := by
  have hsub := h.toCome
  rw [htoCome] at hsub
  have hmem := hsub.subset List.mem_cons_self
  have hlt : answered < asked.length := by
    by_contra hle
    rw [List.drop_eq_nil_of_le (Nat.le_of_not_lt hle)] at hmem
    exact absurd hmem List.not_mem_nil
  have hget : asked[answered]? = some asked[answered] := List.getElem?_eq_getElem hlt
  by_cases hzero : answered = 0
  · have hkind := h.first hzero kind (by rw [htoCome]; rfl)
    subst hzero
    rw [← List.head?_eq_getElem?] at hget ⊢
    rw [hget, h.launchFirst _ hget, hkind]
  · rw [hget, h.relaunch_of_drop hzero kind hmem,
      h.relaunch_of_drop hzero asked[answered] (List.drop_eq_getElem_cons hlt ▸ List.mem_cons_self)]

/-- A reply is read: it is the one to the next request. One request less is unanswered, and what is
on its way behind the reply is as it was. -/
theorem read (h : Pipe x asked answered c) {message : QJsonObject} {rest : List QJsonObject}
    (hbooster : c.toBooster = message :: rest) (hreply : IpcServer.IsReply message) (lost : Nat) :
    asked[answered]? = header message ∧
      Pipe x asked (answered + 1) (c.dropToBooster lost) := by
  obtain ⟨kind, hkind⟩ : ∃ kind, header message = some kind :=
    hreply.elim (fun h => ⟨_, h⟩) fun h => ⟨_, h⟩
  have hreplyKind : Connection.replyKind message = some kind :=
    (Connection.replyKind_of_isReply hreply).trans hkind
  have hbooster' : (c.dropToBooster lost).toBooster = rest.drop lost := by
    show c.toBooster.drop (1 + lost) = rest.drop lost
    rw [hbooster, Nat.add_comm, List.drop_succ_cons]
  -- what is still to come begins with the reply that is read, and the lost ones were behind it
  obtain ⟨later, hlater, hafter⟩ : ∃ later, c.toCome = kind :: later ∧
      (c.dropToBooster lost).toCome.Sublist later := by
    refine ⟨rest.filterMap Connection.replyKind ++
      if c.Answers then c.toRunner.filterMap repliesTo else [], ?_, ?_⟩
    · rw [Connection.toCome, hbooster, List.filterMap_cons, hreplyKind]
      rfl
    · rw [Connection.toCome, hbooster']
      exact ((List.drop_sublist lost rest).filterMap _).append_right _
  have hnext := h.next hlater
  have hsub := h.toCome
  rw [hlater] at hsub
  refine ⟨hnext.trans hkind.symm, ?_⟩
  have hlt := (List.getElem?_eq_some_iff.mp hnext).1
  refine ⟨fun hx => ?_, fun p hp => ⟨(h.registered p hp).1, fun m hm => ?_⟩, h.unlaunched,
    h.launchFirst, h.relaunchLater, hlt, ?_, fun hzero => absurd hzero (Nat.succ_ne_zero _),
    fun hzero => absurd hzero (Nat.succ_ne_zero _)⟩
  · -- a connection that is not registered carries no reply
    rcases (h.unregistered hx).2 with hregister | hempty
    · rw [hregister] at hbooster
      obtain ⟨rfl, -⟩ := List.cons.inj hbooster
      rw [Connection.replyKind_registerRequest] at hreplyKind
      cases hreplyKind
    · rw [hempty] at hbooster
      cases hbooster
  · exact (h.registered p hp).2 m (List.mem_of_mem_drop hm)
  · rw [← List.tail_drop]
    exact hafter.trans hsub.tail

/-- A request that is written to a runner that answers is one more reply to come. -/
theorem toCome_deliver {c : Connection} {request : QJsonObject} {kind : IpcMessageType}
    (hrequest : repliesTo request = some kind) :
    (c.deliver [request]).toCome = c.toCome ++ if c.Answers then [kind] else [] := by
  by_cases hanswers : c.Answers
  · have hthere : (c.deliver [request]).Answers := hanswers
    rw [Connection.toCome_of_answers hthere, Connection.toCome_of_answers hanswers,
      if_pos hanswers]
    show _ ++ (c.toRunner ++ [request]).filterMap repliesTo = _
    rw [List.filterMap_append, List.filterMap_cons, hrequest, List.append_assoc]
    rfl
  · have hthere : ¬ (c.deliver [request]).Answers := hanswers
    rw [Connection.toCome_of_not_answers hthere, Connection.toCome_of_not_answers hanswers,
      if_neg hanswers, List.append_nil]
    rfl

/-- A launch is written to a runner that has not been launched. Nothing else is on its way to the
runner, so the launch is what it reads first. -/
theorem launch (h : Pipe x asked answered c) (hnone : x.appId = none) (hpid : x'.pid = x.pid)
    (hregistered : x'.pid ≠ none) (happ : x'.appId ≠ none) {request : QJsonObject}
    (hrequest : repliesTo request = some .launchReply) :
    Pipe x' (asked ++ [.launchReply]) answered (c.deliver [request]) := by
  obtain rfl := h.unlaunched.mp hnone
  have hnothing : c.toCome = [] := List.sublist_nil.mp (List.drop_nil ▸ h.toCome)
  obtain rfl : answered = 0 := Nat.le_zero.mp h.counted
  have hafter := toCome_deliver (c := c) hrequest
  rw [hnothing, List.nil_append] at hafter
  refine ⟨fun hx => absurd hx hregistered, fun p hp => ?_, iff_of_false happ nofun,
    fun kind hkind => (Option.some.inj hkind).symm, nofun, Nat.zero_le _, ?_,
    fun _ kind hkind => ?_, fun _ _ hanswers hempty => ?_⟩
  · exact h.registered p (hpid ▸ hp)
  · rw [hafter]
    split
    · exact List.Sublist.refl _
    · exact List.nil_sublist _
  · rw [hafter] at hkind
    split at hkind
    · exact (Option.some.inj hkind).symm
    · cases hkind
  · have hthere : c.Answers := hanswers
    rw [hafter, if_pos hthere] at hempty
    cases hempty

/-- A relaunch is written to a runner that has been launched. Any number of relaunches may be on
their way behind the launch, and each of them will be answered in its turn. -/
theorem relaunch (h : Pipe x asked answered c) (hsome : x.appId ≠ none) (hpid : x'.pid = x.pid)
    (happ : x'.appId = x.appId) (hregistered : x'.pid ≠ none) {request : QJsonObject}
    (hrequest : repliesTo request = some .relaunchReply) :
    Pipe x' (asked ++ [.relaunchReply]) answered (c.deliver [request]) := by
  have hasked : asked ≠ [] := fun hnone => hsome (h.unlaunched.mpr hnone)
  have hafter := toCome_deliver (c := c) hrequest
  refine ⟨fun hx => absurd hx hregistered, fun p hp => h.registered p (hpid ▸ hp),
    iff_of_false (happ ▸ hsome) (by simp), ?_, ?_, ?_, ?_, ?_, ?_⟩
  · rw [List.head?_append_of_ne_nil _ hasked]
    exact h.launchFirst
  · rw [List.tail_append_of_ne_nil hasked]
    intro kind hkind
    rcases List.mem_append.mp hkind with hkind | hkind
    · exact h.relaunchLater kind hkind
    · exact List.mem_singleton.mp hkind
  · rw [List.length_append]
    exact Nat.le_add_right_of_le h.counted
  · rw [hafter, List.drop_append_of_le_length h.counted]
    refine h.toCome.append ?_
    split
    · exact List.Sublist.refl _
    · exact List.nil_sublist _
  · -- as long as nothing has been read, the launch comes first
    intro hzero kind hkind
    by_cases hempty : c.toCome = []
    · -- a runner that answers still has the launch before it
      rw [hafter, hempty, List.nil_append] at hkind
      split at hkind
      · rename_i hanswers
        exact absurd hempty (h.waits hzero hasked hanswers)
      · cases hkind
    · rw [hafter, List.head?_append_of_ne_nil _ hempty] at hkind
      exact h.first hzero kind hkind
  · intro hzero _ hanswers hempty
    rw [hafter] at hempty
    exact h.waits hzero hasked hanswers (List.append_eq_nil_iff.mp hempty).1

/-! ### An event of the server

The two lemmas that a session uses: one for the sockets that the event does not read from, and one
for the socket that it reads from. -/

section Server

open IpcServer

variable {κ : Type} {h : ServerHistory κ} {e : ServerEvent κ} {s : SocketId}

/-- A request is answered by the reply that goes with it. -/
theorem repliesTo_toJson (request : Request κ) : repliesTo request.toJson = some request.reply := by
  cases request with
  | launch message callTime =>
    have hheader : header (Request.launch message callTime).toJson = some .launchRequest := by
      simp [Request.toJson, IpcClient.header_insert_header]
    rw [repliesTo, hheader]
    rfl
  | relaunch params callTime callback =>
    have hheader : header (Request.relaunch params callTime callback).toJson =
        some .relaunchRequest := by
      simp [Request.toJson, IpcClient.header_insert_header]
    rw [repliesTo, hheader]
    rfl

/-- A socket that does not register keeps its pid. -/
theorem pid_of_not_registers (hinv : CallbacksInv h.state) (he : h.state.RunnerProtocol e)
    (hnot : ∀ message now, e = .socket (.readSocket s message now) →
      header message ≠ some .registerRequest) :
    ((h.state.handle e).1.socket s).pid = (h.state.socket s).pid := by
  cases hpid : (h.state.socket s).pid with
  | some p => exact (hinv.kept he.life he.once s).1 p hpid
  | none =>
    by_contra hnew
    obtain ⟨p, hp⟩ := Option.ne_none_iff_exists'.mp hnew
    rcases pid_of_step hp with hold | ⟨message, now, he, hheader, -⟩
    · rw [hpid] at hold
      cases hold
    · exact hnot message now he hheader

/-- What is written to a runner is delivered. By the three cases of `Written`: nothing, a launch to
a runner of the pool, or a relaunch to one that has been launched. -/
theorem deliver (hpipe : Pipe x asked answered c)
    {result : IpcServer κ × List (Output κ)} {srv : IpcServer κ}
    (happ : x.appId = (srv.socket s).appId) (hwritten : Written srv e s result)
    (hpid : (result.1.socket s).pid = x.pid)
    (hlaunched : ∀ a, (result.1.socket s).appId = some a → (result.1.socket s).pid ≠ none) :
    Pipe (result.1.socket s) (asked ++ (writtenTo s result.2).map Request.reply) answered
      (c.deliver ((writtenTo s result.2).map Request.toJson)) := by
  cases hwritten with
  | nothing hwritten happ' =>
    rw [hwritten, List.map_nil, List.map_nil, List.append_nil]
    have hsame : c.deliver [] = c := by
      rw [Connection.deliver, List.append_nil]
    rw [hsame]
    exact hpipe.congr hpid (happ'.trans happ.symm)
  | launch message now hwritten hfrom hnone happ' =>
    rw [hwritten]
    exact hpipe.launch (happ.trans hnone) hpid (hlaunched _ happ')
      (happ' ▸ Option.some_ne_none _) (repliesTo_toJson (.launch message now))
  | relaunch params now callback hwritten hfrom hsome happ' =>
    rw [hwritten]
    obtain ⟨a, ha⟩ := Option.ne_none_iff_exists'.mp hsome
    exact hpipe.relaunch (happ ▸ hsome) hpid (happ'.trans happ.symm) (hlaunched a (happ'.trans ha))
      (repliesTo_toJson (.relaunch params now callback))

/-- The connection of a socket that the server does not read. -/
theorem step (hinv : CallbacksInv h.state) (he : h.state.RunnerProtocol e)
    (hpipe : Pipe (h.state.socket s) (requested h s) (repliesFrom h s) c)
    (hread : ∀ message now, e ≠ .socket (.readSocket s message now)) :
    Pipe (((ipcServer κ).step h e).state.socket s) (requested ((ipcServer κ).step h e) s)
      (repliesFrom ((ipcServer κ).step h e) s)
      (c.deliver ((writtenTo s (h.state.handle e).2).map Request.toJson)) := by
  have hanswers : (answers e).count s = 0 := by
    refine List.count_eq_zero.mpr fun hmem => ?_
    obtain ⟨message, now, rfl, -⟩ := answers_eq hmem
    exact hread message now rfl
  rw [requested_step, repliesFrom_step, hanswers, Nat.add_zero]
  refine hpipe.deliver rfl (written hinv.toSocketsInv he.life he.once s)
    (pid_of_not_registers hinv he fun message now heq => absurd heq (hread message now)) ?_
  exact fun a ha => (hinv.toSocketsInv.step he.life he.once).launched s a ha

/-- The message that the booster reads next meets the guards on the runners. It is the registration,
once, and after it the replies in the order of the requests. -/
theorem reads (hpipe : Pipe (h.state.socket s) (requested h s) (repliesFrom h s) c)
    {message : QJsonObject} {rest : List QJsonObject} (hbooster : c.toBooster = message :: rest) :
    (header message = some .registerRequest ∧ (h.state.socket s).pid = none ∧
        registeredPid message = c.pid) ∨
      IsReply message ∧ (h.state.socket s).appId ≠ none ∧
        (requested h s)[repliesFrom h s]? = header message := by
  cases hpid : (h.state.socket s).pid with
  | none =>
    rcases (hpipe.unregistered hpid).2 with hregister | hempty
    · rw [hregister] at hbooster
      obtain ⟨rfl, -⟩ := List.cons.inj hbooster
      exact .inl ⟨IpcClient.header_registerRequest c.pid, rfl,
        IpcClient.registeredPid_registerRequest c.pid⟩
    · rw [hempty] at hbooster
      cases hbooster
  | some p =>
    have hreply := (hpipe.registered p hpid).2 message (hbooster ▸ List.mem_cons_self)
    have hnext := (hpipe.read hbooster hreply 0).1
    refine .inr ⟨hreply, fun hnone => ?_, hnext⟩
    rw [hpipe.unlaunched.mp hnone, List.getElem?_nil] at hnext
    rcases hreply with hheader | hheader <;> cases hnext.trans hheader

/-- The connection of the socket that the server reads. The server reads the message and may write
in reply to it, in this order. -/
theorem step_read (hinv : CallbacksInv h.state)
    (hpipe : Pipe (h.state.socket s) (requested h s) (repliesFrom h s) c)
    {message : QJsonObject} {rest : List QJsonObject} (hbooster : c.toBooster = message :: rest)
    (lost : Nat) {now : Int} (he : h.state.RunnerProtocol (.socket (.readSocket s message now))) :
    Pipe (((ipcServer κ).step h (.socket (.readSocket s message now))).state.socket s)
      (requested ((ipcServer κ).step h (.socket (.readSocket s message now))) s)
      (repliesFrom ((ipcServer κ).step h (.socket (.readSocket s message now))) s)
      ((c.dropToBooster lost).deliver ((writtenTo s
        (h.state.handle (.socket (.readSocket s message now))).2).map Request.toJson)) := by
  have hwritten := written hinv.toSocketsInv he.life he.once s
  have hlaunched := (hinv.toSocketsInv.step he.life he.once).launched s
  rw [requested_step, repliesFrom_step]
  rcases hpipe.reads hbooster with ⟨hheader, hnew, hpid⟩ | ⟨hreply, happ, -⟩
  · -- a registration is no reply, and the socket has not been launched before
    have hanswers : answers (κ := κ) (.socket (.readSocket s message now)) = [] := by
      apply answers_of_not_reply
      rintro (hreply | hreply) <;> cases hheader.symm.trans hreply
    have hunlaunched : (h.state.socket s).appId = none := by
      by_contra happ
      obtain ⟨a, ha⟩ := Option.ne_none_iff_exists'.mp happ
      exact hinv.launched s a ha hnew
    rw [hanswers, List.count_nil, Nat.add_zero]
    -- registered first, and then perhaps launched
    have hregistered : Pipe { (h.state.handle (.socket (.readSocket s message now))).1.socket s with
        appId := none } (requested h s) (repliesFrom h s) (c.dropToBooster lost) := by
      refine hpipe.register hunlaunched hnew (fun p hp => ?_) rfl lost
      rcases pid_of_step hp with hold | ⟨message', now', heq, -, hp'⟩
      · rw [hnew] at hold
        cases hold
      · cases heq
        exact hp'.symm.trans hpid
    exact hregistered.deliver hunlaunched.symm hwritten rfl hlaunched
  · -- a reply is the next one of the pipe
    have hanswers : answers (κ := κ) (.socket (.readSocket s message now)) = [s] := if_pos hreply
    rw [hanswers, List.count_singleton_self]
    refine (hpipe.read hbooster hreply lost).2.deliver rfl hwritten
      (pid_of_not_registers hinv he fun message' now' heq => ?_) hlaunched
    cases heq
    rcases hreply with hheader | hheader <;>
    · rw [hheader]
      decide

end Server

end Pipe

end Booster
