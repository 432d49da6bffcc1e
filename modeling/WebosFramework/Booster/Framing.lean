import WebosFramework.Booster.IpcClient
import WebosFramework.Qt.DataStream

/-!
# Messages on the socket

Both ends write a message as one `QByteArray` on a `QDataStream`, and both ends read by `readAll`: a
handler decodes one array from the block it gets and drops the rest of the block. A local socket is
a stream of bytes, so a block need not be the array of one message.

* `Codec` stands for Qt's binary JSON, with `Carries` for what the two ends rely on.
* `readSocket` and `onSocketReadyRead` of the two ends, from the block on, and `received`, the
  message they make of it.
* `framing`: each end receives the messages that were written if every block is the frame of one
  message. If some block is not, it does not, unless one of the messages has a shorter encoding than
  the one it was written in.

What a message is written in is a length and that many bytes. So a block that is parsed is at
least as long as the frame of what is parsed (`length_le_of_parse`), and blocks with the length of
all frames together cannot all be that long unless they are the frames (`eq_frames_of_parse`).
-/

namespace Booster

open Qt EventLoop

/-- `toBinaryData()`, and `fromBinaryData(..).object()`. -/
structure Codec where
  encode : QJsonObject → Bytes
  decode : Bytes → QJsonObject

namespace Codec

/-- What a peer writes for a message. -/
def frame (c : Codec) (message : QJsonObject) : Bytes := writeByteArray (c.encode message)

/-- The messages have members and fit in an array, decoding an encoded one gives it back, and there
is no document in an empty array. -/
structure Carries (c : Codec) (messages : List QJsonObject) : Prop where
  /-- What one end encodes the other one decodes. -/
  roundTrip : ∀ message ∈ messages, c.decode (c.encode message) = message
  /-- An array of `nullLength` bytes cannot be told from none. -/
  fits : ∀ message ∈ messages, (c.encode message).length < nullLength
  /-- Every message has a header, at least. -/
  members : ∀ message ∈ messages, message.isEmpty = false
  /-- Nothing is decoded to the empty message. -/
  null : (c.decode []).isEmpty = true

/-- One of the messages has a shorter encoding than the one it is written in. -/
def Ambiguous (c : Codec) (messages : List QJsonObject) : Prop :=
  ∃ message ∈ messages, ∃ bytes : Bytes, bytes.length < (c.encode message).length ∧
    c.decode bytes = message

/-- The message in the first array of a block, if there is one. -/
def parse (c : Codec) (block : Bytes) : Option QJsonObject :=
  let message := c.decode (readByteArray block).1
  if message.isEmpty then none else some message

/-- A whole frame is parsed, whatever follows it. -/
theorem parse_frame_append {c : Codec} {messages : List QJsonObject} (hc : c.Carries messages)
    {message : QJsonObject} (hmessage : message ∈ messages) (rest : Bytes) :
    c.parse (c.frame message ++ rest) = some message := by
  simp only [parse, frame, readByteArray_write_append (hc.fits message hmessage),
    hc.roundTrip message hmessage, hc.members message hmessage]
  rfl

/-- A block that is parsed starts with a frame of its message. The bytes behind the frame, if there
are any, are ignored by the parser. -/
theorem length_le_of_parse {c : Codec} {messages : List QJsonObject} (hc : c.Carries messages)
    (hambiguous : ¬ c.Ambiguous messages) {message : QJsonObject} (hmessage : message ∈ messages)
    {block : Bytes} (hparse : c.parse block = some message) :
    (c.frame message).length ≤ block.length := by
  have hdecode : c.decode (readByteArray block).1 = message := by
    simp only [parse] at hparse
    split at hparse
    · cases hparse
    · exact Option.some.inj hparse
  rcases hread : readByteArray block with ⟨bytes, rest⟩
  rw [hread] at hdecode
  have hne : bytes ≠ [] := by
    rintro rfl
    have hnull := hc.null
    rw [hdecode, hc.members message hmessage] at hnull
    cases hnull
  have hlong : (c.encode message).length ≤ bytes.length := by
    by_contra hshort
    exact hambiguous ⟨message, hmessage, bytes, Nat.lt_of_not_le hshort, hdecode⟩
  rw [eq_write_of_readByteArray hread hne, frame, List.length_append, length_writeByteArray,
    length_writeByteArray]
  omega

/-- **Blocks that are parsed one by one into the messages are their frames.** No block is shorter
than its frame, and together they are as long, so each of them is as long. -/
theorem eq_frames_of_parse {c : Codec} {messages : List QJsonObject} (hc : c.Carries messages)
    (hambiguous : ¬ c.Ambiguous messages) {blocks : List Bytes}
    (hcut : blocks.flatten = (messages.map c.frame).flatten)
    (hparse : blocks.map c.parse = messages.map some) : blocks = messages.map c.frame := by
  refine eq_of_forall₂_length_le ?_ hcut
  -- block by block; the messages that are left are messages of the list
  have hlong : ∀ left ⊆ messages, ∀ blocks : List Bytes, blocks.map c.parse = left.map some →
      List.Forall₂ (fun x y => y.length ≤ x.length) blocks (left.map c.frame) := by
    intro left
    induction left with
    | nil =>
      intro _ blocks hblocks
      rw [List.map_eq_nil_iff.mp hblocks]
      exact .nil
    | cons message left ih =>
      intro hleft blocks hblocks
      obtain ⟨block, blocks, rfl, hblock, hrest⟩ := List.map_eq_cons_iff.mp hblocks
      obtain ⟨hmessage, hleft⟩ := List.cons_subset.mp hleft
      exact .cons (length_le_of_parse hc hambiguous hmessage hblock) (ih hleft blocks hrest)
  exact hlong messages (List.Subset.refl _) blocks hparse

/-- Frames are parsed into their messages. -/
theorem parse_frames {c : Codec} {messages : List QJsonObject} (hc : c.Carries messages) :
    (messages.map c.frame).map c.parse = messages.map some := by
  rw [List.map_map]
  refine List.map_congr_left fun message hmessage => ?_
  have hparse := parse_frame_append hc hmessage []
  rwa [List.append_nil] at hparse

end Codec

namespace IpcServer

variable {κ : Type}

/-- `readSocket`, from the block that `readAll` returns. -/
def readBlock (c : Codec) (srv : IpcServer κ) (s : SocketId) (block : Bytes) (now : Int) :
    IpcServer κ × List (Output κ) :=
  if block.isEmpty then (srv, [.disconnectFromServer s])
  else srv.readSocket s (c.decode (readByteArray block).1) now

/-- The message the server goes on with, unless it disconnects the runner. -/
def received (c : Codec) (block : Bytes) : Option QJsonObject :=
  if block.isEmpty then none else c.parse block

/-- A block is handled as the message in it, and as the empty message if there is none. -/
theorem readBlock_eq (c : Codec) (srv : IpcServer κ) (s : SocketId) (block : Bytes) (now : Int) :
    srv.readBlock c s block now = srv.readSocket s ((received c block).getD {}) now := by
  unfold readBlock received
  split
  · rfl
  · simp only [Codec.parse]
    split
    · rename_i hempty
      rw [readSocket, if_pos hempty]
      rfl
    · rfl

/-- The server goes on with the messages of the list, one by one, and never disconnects. -/
def Receives (c : Codec) (blocks : List Bytes) (messages : List QJsonObject) : Prop :=
  blocks.map (received c) = messages.map some

end IpcServer

namespace IpcClient

/-- `onSocketReadyRead`, from the block that `readAll` returns. -/
def onSocketReadyRead (c : Codec) (block : Bytes) : List Signal :=
  if block.isEmpty then [] else onMessage (c.decode (readByteArray block).1)

/-- The message the runner goes on with, unless it quits. It ignores an empty block. -/
def received (c : Codec) (block : Bytes) : List (Option QJsonObject) :=
  if block.isEmpty then [] else [c.parse block]

/-- A block is handled as the message in it, and as the empty message if there is none. -/
theorem onSocketReadyRead_eq (c : Codec) (block : Bytes) :
    onSocketReadyRead c block =
      (received c block).flatMap fun message => onMessage (message.getD {}) := by
  unfold onSocketReadyRead received
  split
  · rfl
  · simp only [Codec.parse, List.flatMap_singleton]
    split
    · rename_i hempty
      rw [onMessage, if_pos hempty]
      rfl
    · rfl

/-- The runner goes on with the messages of the list, one by one, and never quits. -/
def Receives (c : Codec) (blocks : List Bytes) (messages : List QJsonObject) : Prop :=
  blocks.flatMap (received c) = messages.map some

end IpcClient

/-! ## What the two ends receive

Both ends parse one message of each block, and drop what follows it. So the messages arrive one by
one if each block is one frame, and for a codec without ambiguous encodings in no other case. -/

/-- The server parses every block. An empty one has no message, and it disconnects. -/
theorem IpcServer.received_eq {c : Codec} {messages : List QJsonObject} (hc : c.Carries messages) :
    IpcServer.received c = c.parse := by
  funext block
  cases block with
  | nil =>
    -- an empty block is not parsed either
    have hnone : c.parse [] = none := if_pos hc.null
    rw [hnone]
    rfl
  | cons => rfl

/-- The runner parses the blocks that are not empty. -/
theorem IpcClient.flatMap_received (c : Codec) (blocks : List Bytes) :
    blocks.flatMap (IpcClient.received c) = (blocks.filter (· ≠ [])).map c.parse := by
  induction blocks with
  | nil => rfl
  | cons block blocks ih =>
    rw [List.flatMap_cons, ih]
    cases block with
    | nil => rfl
    | cons => rfl

/-- **Framing.** An end receives the messages that were written if each block is the frame of one
message; for the runner there may be empty blocks in between. An end that receives them has got them
frame by frame, unless a message has a shorter encoding than the one it was written in. -/
theorem framing {c : Codec} {messages : List QJsonObject} (hc : c.Carries messages)
    {blocks : List Bytes} (hcut : blocks.flatten = (messages.map c.frame).flatten) :
    (blocks = messages.map c.frame → IpcServer.Receives c blocks messages) ∧
      (IpcServer.Receives c blocks messages →
        blocks = messages.map c.frame ∨ c.Ambiguous messages) ∧
      (blocks.filter (· ≠ []) = messages.map c.frame → IpcClient.Receives c blocks messages) ∧
      (IpcClient.Receives c blocks messages →
        blocks.filter (· ≠ []) = messages.map c.frame ∨ c.Ambiguous messages) := by
  have hexact {blocks : List Bytes} (hcut : blocks.flatten = (messages.map c.frame).flatten)
      (hparse : blocks.map c.parse = messages.map some) :
      blocks = messages.map c.frame ∨ c.Ambiguous messages := by
    by_cases hambiguous : c.Ambiguous messages
    · exact .inr hambiguous
    · exact .inl (Codec.eq_frames_of_parse hc hambiguous hcut hparse)
  simp only [IpcServer.Receives, IpcServer.received_eq hc, IpcClient.Receives,
    IpcClient.flatMap_received]
  refine ⟨?_, hexact hcut, ?_, hexact (List.flatten_filter_ne_nil.trans hcut)⟩
  · rintro rfl
    exact Codec.parse_frames hc
  · intro hframes
    rw [hframes]
    exact Codec.parse_frames hc

/-! ## Two relaunches

An application that runs is relaunched twice. The booster writes the second request without waiting
for the reply to the first, so that both requests, and later both replies, can be in a socket when
the other end comes to read it.
-/

/-- The binary JSON of `relaunchReply true`. -/
def relaunchReplyBytes : Bytes :=
  [0x71, 0x62, 0x6a, 0x73, 1, 0, 0, 0, 52, 0, 0, 0, 5, 0, 0, 0, 44, 0, 0, 0,
    0x9a, 0, 0, 0, 6, 0, 0x68, 0x65, 0x61, 0x64, 0x65, 0x72,
    0x31, 0, 0, 0, 11, 0, 0x72, 0x65, 0x74, 0x75, 0x72, 0x6e, 0x56, 0x61, 0x6c, 0x75, 0x65, 0, 0, 0,
    12, 0, 0, 0, 24, 0, 0, 0]

/-- The request to relaunch with the parameter `page`, at the time 5. -/
def relaunchRequest (page : Int) : QJsonObject :=
  (Request.relaunch (({} : QJsonObject).insert "page" (.ofInt page)) 5 none : Request Nat).toJson

/-- The binary JSON of a `relaunchRequest`; `page` is the first byte of the value of the parameter.
-/
def relaunchRequestBytes (page : UInt8) : Bytes :=
  [0x71, 0x62, 0x6a, 0x73, 1, 0, 0, 0, 92, 0, 0, 0, 7, 0, 0, 0, 80, 0, 0, 0,
    0x7a, 0, 0, 0, 6, 0, 0x68, 0x65, 0x61, 0x64, 0x65, 0x72,
    0x95, 4, 0, 0, 6, 0, 0x70, 0x61, 0x72, 0x61, 0x6d, 0x73,
    28, 0, 0, 0, 3, 0, 0, 0, 24, 0, 0, 0, page, 0, 0, 0, 4, 0, 0x70, 0x61, 0x67, 0x65, 0, 0,
    12, 0, 0, 0,
    0xba, 0, 0, 0, 8, 0, 0x63, 0x61, 0x6c, 0x6c, 0x54, 0x69, 0x6d, 0x65, 0, 0,
    64, 0, 0, 0, 12, 0, 0, 0, 24, 0, 0, 0]

/-- The codec on these messages: a reply, and the requests for the pages 1 and 2. -/
def relaunchCodec : Codec where
  encode message :=
    if header message = some .relaunchReply then relaunchReplyBytes
    else if ((message.value "params").toObject.value "page").toInt 0 = 1 then
      relaunchRequestBytes 0x3a
    else relaunchRequestBytes 0x5a
  decode bytes :=
    if bytes = relaunchReplyBytes then IpcClient.relaunchReply true
    else if bytes = relaunchRequestBytes 0x3a then relaunchRequest 1
    else if bytes = relaunchRequestBytes 0x5a then relaunchRequest 2
    else {}

/-- Two relaunches have been answered. -/
def twoReplies : List QJsonObject := [IpcClient.relaunchReply true, IpcClient.relaunchReply true]

/-- Two relaunches have been requested. -/
def twoRequests : List QJsonObject := [relaunchRequest 1, relaunchRequest 2]

/-- The array of any message fits. -/
theorem fits_relaunchCodec (message : QJsonObject) :
    (relaunchCodec.encode message).length < nullLength := by
  unfold relaunchCodec
  dsimp only
  split
  · decide
  · split <;> decide

/-- The codec carries the two replies. -/
theorem carries_twoReplies : relaunchCodec.Carries twoReplies where
  roundTrip := by
    intro message hmessage
    obtain rfl : message = IpcClient.relaunchReply true := by
      simpa only [twoReplies, List.mem_cons, List.not_mem_nil, or_false, or_self] using hmessage
    rfl
  fits message _ := fits_relaunchCodec message
  members := by
    intro message hmessage
    obtain rfl : message = IpcClient.relaunchReply true := by
      simpa only [twoReplies, List.mem_cons, List.not_mem_nil, or_false, or_self] using hmessage
    rfl
  null := rfl

/-- It carries the two requests as well. -/
theorem carries_twoRequests : relaunchCodec.Carries twoRequests where
  roundTrip := by
    intro message hmessage
    rcases List.mem_cons.mp hmessage with rfl | hmessage
    · rfl
    · obtain rfl := List.mem_singleton.mp hmessage
      rfl
  fits message _ := fits_relaunchCodec message
  members := by
    intro message hmessage
    rcases List.mem_cons.mp hmessage with rfl | hmessage
    · rfl
    · obtain rfl := List.mem_singleton.mp hmessage
      rfl
  null := rfl

/-- Frame by frame, the booster receives both replies, and the runner both requests. -/
theorem framing_twoMessages :
    IpcServer.Receives relaunchCodec (twoReplies.map relaunchCodec.frame) twoReplies ∧
      IpcClient.Receives relaunchCodec (twoRequests.map relaunchCodec.frame) twoRequests :=
  ⟨(framing carries_twoReplies rfl).1 rfl, (framing carries_twoRequests rfl).2.2.1 rfl⟩

/-- All messages arrive in one block. -/
def joined (messages : List QJsonObject) : List Bytes :=
  [(messages.map relaunchCodec.frame).flatten]

/-- The first six bytes arrive alone: a length, and two bytes of the array. -/
def split (messages : List QJsonObject) : List Bytes :=
  [(messages.map relaunchCodec.frame).flatten.take 6,
    (messages.map relaunchCodec.frame).flatten.drop 6]

/-- The two parts are all that was written. -/
theorem flatten_split (messages : List QJsonObject) :
    (split messages).flatten = (messages.map relaunchCodec.frame).flatten := by
  show _ ++ (_ ++ []) = _
  rw [List.append_nil, List.take_append_drop]

/-- In one block the second message is dropped, be it a reply or a request; cut after six bytes, the
first one is not parsed. -/
theorem not_framing_joined_split :
    relaunchCodec.Carries twoReplies ∧ relaunchCodec.Carries twoRequests ∧
      (joined twoReplies).flatten = (twoReplies.map relaunchCodec.frame).flatten ∧
      ¬ IpcServer.Receives relaunchCodec (joined twoReplies) twoReplies ∧
      (joined twoRequests).flatten = (twoRequests.map relaunchCodec.frame).flatten ∧
      ¬ IpcClient.Receives relaunchCodec (joined twoRequests) twoRequests ∧
      (split twoReplies).flatten = (twoReplies.map relaunchCodec.frame).flatten ∧
      ¬ IpcServer.Receives relaunchCodec (split twoReplies) twoReplies ∧
      (split twoRequests).flatten = (twoRequests.map relaunchCodec.frame).flatten ∧
      ¬ IpcClient.Receives relaunchCodec (split twoRequests) twoRequests := by
  refine ⟨carries_twoReplies, carries_twoRequests, List.append_nil _, ?_, List.append_nil _, ?_,
    flatten_split _, ?_, flatten_split _, ?_⟩
  · exact fun h => absurd (congrArg List.length h) (by decide)
  · exact fun h => absurd (congrArg List.length h) (by decide)
  · intro h
    have hnone : relaunchCodec.parse
        ((twoReplies.map relaunchCodec.frame).flatten.take 6) = none := rfl
    rw [IpcServer.Receives, IpcServer.received_eq carries_twoReplies, split, List.map_cons,
      hnone] at h
    cases (List.cons.inj h).1
  · intro h
    have hnone : IpcClient.received relaunchCodec
        ((twoRequests.map relaunchCodec.frame).flatten.take 6) = [none] := rfl
    rw [IpcClient.Receives, split, List.flatMap_cons, hnone] at h
    cases (List.cons.inj h).1

end Booster
