import Roboat.Daemon.IpcServer
import Roboat.Daemon.MuxRead
import Roboat.Text.Base64
import Roboat.Text.Json
import Roboat.Wire.Frame

/-! # IPC messages on the socket

`[length: u32 big-endian][JSON]`, with at most 4 MiB of JSON: the two writers and the two readers of
`ipc.rs`, over the JSON text that the serialiser makes of a message. What is used of `serde_json`
and `base64` is in `Serde`, and `serdeJson` is what they are. A payload crosses three limits on its
way from one agent to another: as `send` on the first socket, as a frame between the daemons, and as
`recv` on the second socket (`send_limits_agree`). -/

namespace Roboat.Daemon.Ipc

/-- `IpcError`. -/
inductive IpcError where
  | io (message : String)
  | json (message : String)
  | tooLarge (size : Nat)
  | closed
  deriving DecidableEq, Repr

/-- The `snake_case` name of a class. -/
def className : StreamClass → Str
  | .control => "control".toList
  | .metaClass => "meta".toList
  | .bulk => "bulk".toList

/-- A field with `skip_serializing_if = "Option::is_none"`. -/
def optional (key : String) (value : Option Str) : List (String × Json.Value) :=
  value.toList.map fun s => (key, .string s)

/-- The fields of an agent's message: the tag `op`, then those of the variant. -/
def AgentMsg.fields : AgentMsg → List (String × Json.Value)
  | listen agentId registryToken tunnelEndpoint =>
    [("op", .string "listen".toList), ("agent_id", .string agentId)]
      ++ optional "registry_token" registryToken ++ optional "tunnel_endpoint" tunnelEndpoint
  | unlisten => [("op", .string "unlisten".toList)]
  | dial targetAgentId streamClass requestId =>
    [("op", .string "dial".toList), ("target_agent_id", .string targetAgentId),
      ("stream_class", .string (className streamClass))] ++ optional "request_id" requestId
  | send streamId data =>
    [("op", .string "send".toList), ("stream_id", .number streamId.toNat), ("data", .string data)]
  | close streamId => [("op", .string "close".toList), ("stream_id", .number streamId.toNat)]
  | ping => [("op", .string "ping".toList)]

/-- The fields of a daemon's message. -/
def DaemonMsg.fields : DaemonMsg → List (String × Json.Value)
  | listening agentId => [("op", .string "listening".toList), ("agent_id", .string agentId)]
  | connected streamId targetAgentId requestId =>
    [("op", .string "connected".toList), ("stream_id", .number streamId.toNat),
      ("target_agent_id", .string targetAgentId)] ++ optional "request_id" requestId
  | incoming streamId fromAgentId cls =>
    [("op", .string "incoming".toList), ("stream_id", .number streamId.toNat),
      ("from_agent_id", .string fromAgentId), ("class", .string (className cls))]
  | recv streamId data =>
    [("op", .string "recv".toList), ("stream_id", .number streamId.toNat), ("data", .string data)]
  | closed streamId reason =>
    [("op", .string "closed".toList), ("stream_id", .number streamId.toNat)]
      ++ optional "reason" reason
  | pong => [("op", .string "pong".toList)]
  | error code message requestId =>
    [("op", .string "error".toList), ("code", .string code), ("message", .string message)]
      ++ optional "request_id" requestId

/-- `DaemonMsg::Closed` at the end of a channel. -/
def closedOf (streamId : UInt32) : DaemonMsg := .closed streamId (some "remote closed".toList)

/-- **What is used of `serde_json` and `base64`.** -/
structure Serde where
  /-- `serde_json::to_vec`, of the fields of a message. -/
  toVec : List (String × Json.Value) → Bytes
  /-- `STANDARD.encode`. -/
  encode : Bytes → Str
  /-- `STANDARD.decode`. -/
  decode : Str → Option Bytes
  /-- The text of a message is not shorter than a string in it. -/
  length_le_of_mem {key : String} {s : Str} {fields : List (String × Json.Value)} :
    (key, .string s) ∈ fields → s.length ≤ (toVec fields).length
  /-- The tags of `send` and `recv` are equally long. -/
  length_tag (fields : List (String × Json.Value)) :
    (toVec (("op", .string "recv".toList) :: fields)).length
      = (toVec (("op", .string "send".toList) :: fields)).length
  /-- `closed` is within the limit. -/
  length_closedOf_le (streamId : UInt32) : (toVec (closedOf streamId).fields).length ≤ maxMsgSize
  /-- What the encoder writes is decoded. -/
  decode_encode (bytes : Bytes) : decode (encode bytes) = some bytes
  /-- Nothing else is: the decoder is strict. -/
  encode_of_decode {data : Str} {bytes : Bytes} : decode data = some bytes → encode bytes = data
  length_le_length_encode (bytes : Bytes) : bytes.length ≤ (encode bytes).length

/-- The body of the two writers: the bytes they put on the socket. -/
def writeMsg (json : Bytes) : Except IpcError Bytes :=
  -- checked before anything is written
  if maxMsgSize < json.length then .error (.tooLarge json.length)
  else .ok (toBeBytes (UInt32.ofNat json.length) ++ json)

/-- `write_agent_msg`. -/
def writeAgentMsg (serde : Serde) (msg : AgentMsg) : Except IpcError Bytes :=
  writeMsg (serde.toVec msg.fields)

/-- `write_daemon_msg`. -/
def writeDaemonMsg (serde : Serde) (msg : DaemonMsg) : Except IpcError Bytes :=
  writeMsg (serde.toVec msg.fields)

/-- The body of the two readers, `read_agent_msg` and `read_daemon_msg`, on all the bytes that will
arrive; `fromSlice` is `serde_json::from_slice`. Returns the message and the bytes after it. -/
def readMsg {α : Type} (fromSlice : Bytes → Except String α) (bs : Bytes) :
    Except IpcError (α × Bytes) :=
  match readU32 bs with
  -- an end of the stream inside the length is the end as well
  | .error _ => .error .closed
  | .ok (len, bs) =>
    if maxMsgSize < len.toNat then .error (.tooLarge len.toNat)
    else
      match readExact len.toNat bs with
      | .error _ => .error .closed
      | .ok (buf, rest) =>
        match fromSlice buf with
        | .error e => .error (.json e)
        | .ok msg => .ok (msg, rest)

/-! ## What is written is read -/

theorem writeMsg_of_le {json : Bytes} (h : json.length ≤ maxMsgSize) :
    writeMsg json = .ok (toBeBytes (UInt32.ofNat json.length) ++ json) :=
  if_neg (Nat.not_lt.mpr h)

theorem le_of_writeMsg {json out : Bytes} (h : writeMsg json = .ok out) :
    json.length ≤ maxMsgSize := by
  unfold writeMsg at h
  by_cases hbig : maxMsgSize < json.length
  · rw [if_pos hbig] at h
    cases h
  · exact Nat.not_lt.mp hbig

/-- **A reader gets the text that a writer has accepted**, and leaves what follows. -/
theorem readMsg_writeMsg {α : Type} (fromSlice : Bytes → Except String α) {json out : Bytes}
    (h : writeMsg json = .ok out) {msg : α} (hparse : fromSlice json = .ok msg) (rest : Bytes) :
    readMsg fromSlice (out ++ rest) = .ok (msg, rest) := by
  have hle := le_of_writeMsg h
  rw [writeMsg_of_le hle] at h
  cases h
  have hlen : (UInt32.ofNat json.length).toNat = json.length :=
    toNat_length_field (Nat.le_trans hle (by decide))
  have hexact : readExact json.length (json ++ rest) = .ok (json, rest) := by
    rw [readExact, if_pos (by simp), List.take_left' rfl, List.drop_left' rfl]
  unfold readMsg
  rw [List.append_assoc, readU32_toBeBytes]
  simp only [hlen]
  rw [if_neg (Nat.not_lt.mpr hle), hexact]
  simp only [hparse]

/-! ## The limits agree -/

/-- The bytes of a text that decodes fit in the JSON of its message. -/
theorem length_le_of_decode (serde : Serde) (streamId : UInt32) {data : Str} {bytes : Bytes}
    (hdata : serde.decode data = some bytes) :
    bytes.length ≤ (serde.toVec (AgentMsg.send streamId data).fields).length := by
  have hmem : ("data", .string data) ∈ (AgentMsg.send streamId data).fields := by
    simp [AgentMsg.fields]
  have hlen := serde.length_le_length_encode bytes
  rw [serde.encode_of_decode hdata] at hlen
  exact Nat.le_trans hlen (serde.length_le_of_mem hmem)

/-- **No limit on the way is smaller than the first one.** For every `send` that an agent can write
and every payload in it: the frame of a multiplexed stream and the frame of a bridge are read back
by the other daemon, with the id and the bytes; that daemon writes the `recv` for them, under the
same id; and each reader of a socket gets the text that was written to it. -/
theorem send_limits_agree (serde : Serde) (streamId : UInt32) (data : Str) (bytes sent : Bytes)
    (hsend : writeAgentMsg serde (.send streamId data) = .ok sent)
    (hdata : serde.decode data = some bytes) :
    (∀ owner rest, readFrame (writeFrame .streamData
        (WriteItem.streamData owner streamId bytes).payload ++ rest)
      = .ok ((.streamData, (WriteItem.streamData owner streamId bytes).payload), rest)) ∧
    (∀ owner seen, Demux.InFrame.parse
        ⟨.streamData, (WriteItem.streamData owner streamId bytes).payload, seen⟩
      = .streamData streamId bytes) ∧
    (∀ rest, readFrame (writeFrame .relayData bytes ++ rest) = .ok ((.relayData, bytes), rest)) ∧
    (∀ (fromSlice : Bytes → Except String AgentMsg) rest,
      fromSlice (serde.toVec (AgentMsg.send streamId data).fields) = .ok (.send streamId data) →
      readMsg fromSlice (sent ++ rest) = .ok (.send streamId data, rest)) ∧
    ∃ received, writeDaemonMsg serde (.recv streamId (serde.encode bytes)) = .ok received ∧
      ∀ (fromSlice : Bytes → Except String DaemonMsg) rest,
        fromSlice (serde.toVec (DaemonMsg.recv streamId (serde.encode bytes)).fields)
          = .ok (.recv streamId (serde.encode bytes)) →
        readMsg fromSlice (received ++ rest)
          = .ok (.recv streamId (serde.encode bytes), rest) := by
  have hsize := le_of_writeMsg hsend
  have hbytes : bytes.length ≤ maxMsgSize :=
    Nat.le_trans (length_le_of_decode serde streamId hdata) hsize
  have hpayload : ∀ owner,
      (WriteItem.streamData owner streamId bytes).payload.length ≤ frameMax := by
    intro owner
    -- the stream id in front of the data fits into the frame's limit too
    have hroom : 4 + maxMsgSize ≤ frameMax := by decide
    rw [WriteItem.streamData, List.length_append, length_toBeBytes]
    omega
  have hrecv : (serde.toVec (DaemonMsg.recv streamId (serde.encode bytes)).fields).length
      ≤ maxMsgSize := by
    -- the second text is the first one again, and the two tags are equally long
    rw [serde.encode_of_decode hdata]
    exact (serde.length_tag _).trans_le hsize
  refine ⟨?_, ?_, ?_, ?_, _, writeMsg_of_le hrecv, ?_⟩
  · intro owner rest
    exact readFrame_writeFrame_append _ _ rest (hpayload owner)
  · intro owner seen
    exact congrArg (Demux.Parsed.streamData · bytes) (fromBeBytes_toBeBytes streamId)
  · intro rest
    exact readFrame_writeFrame_append _ _ rest (Nat.le_trans hbytes (by decide))
  · intro fromSlice rest hparse
    exact readMsg_writeMsg fromSlice hsend hparse rest
  · intro fromSlice rest hparse
    exact readMsg_writeMsg fromSlice (writeMsg_of_le hrecv) hparse rest

/-! ## The texts as they are -/

/-- A stream id has ten digits at most. -/
theorem length_digits_le (streamId : UInt32) : (Nat.toDigits 10 streamId.toNat).length ≤ 10 := by
  have hid := streamId.toNat_lt
  exact (Nat.length_toDigits_le_iff (by decide) (by decide)).mpr (by omega)

/-- The compact text of `closed` is within the limit. -/
theorem length_writeObject_closedOf_le (streamId : UInt32) :
    (Json.utf8 (Json.writeObject (closedOf streamId).fields)).length ≤ maxMsgSize := by
  have hfixed : (Json.utf8 (Json.writeField "op" (.string "closed".toList))).length = 13 ∧
      (Json.utf8 (Json.writeString "stream_id".toList)).length = 11 ∧
      (Json.utf8 (Json.writeField "reason" (.string "remote closed".toList))).length = 24 := by
    decide +kernel
  have hdigits := length_digits_le streamId
  have hfields : (closedOf streamId).fields = [("op", .string "closed".toList),
      ("stream_id", .number streamId.toNat), ("reason", .string "remote closed".toList)] := rfl
  rw [hfields, Json.length_utf8_writeObject, Json.length_utf8_writeFields,
    Json.length_utf8_writeFields, Json.writeFields, Json.length_utf8_writeField "stream_id",
    Json.Value.write, Json.length_utf8_toDigits, maxMsgSize]
  dsimp only
  omega

/-- Compact JSON, and base64 of the standard alphabet with padding. -/
def serdeJson : Serde where
  toVec fields := Json.utf8 (Json.writeObject fields)
  encode := Base64.encode
  decode := Base64.decode
  length_le_of_mem := Json.length_le_length_writeObject
  length_tag := Json.length_writeObject_congr "op" (by decide +kernel)
  length_closedOf_le := length_writeObject_closedOf_le
  decode_encode := Base64.decode_encode
  encode_of_decode := Base64.encode_of_decode
  length_le_length_encode := Base64.length_le_length_encode

/-- Three bytes on stream 1. -/
theorem send_limits_agree_three :
    ∃ sent received, writeAgentMsg serdeJson (.send 1 "AQID".toList) = .ok sent ∧
      readFrame (writeFrame .relayData [1, 2, 3]) = .ok ((.relayData, [1, 2, 3]), []) ∧
      writeDaemonMsg serdeJson (.recv 1 (Base64.encode [1, 2, 3])) = .ok received := by
  have hsize : (serdeJson.toVec (AgentMsg.send 1 "AQID".toList).fields).length ≤ maxMsgSize := by
    decide +kernel
  have hsend := writeMsg_of_le hsize
  obtain ⟨-, -, hrelay, -, received, hrecv, -⟩ :=
    send_limits_agree serdeJson 1 "AQID".toList [1, 2, 3] _ hsend (by decide +kernel)
  exact ⟨_, received, hsend, hrelay [], hrecv⟩

/-! ## The server with these texts -/

/-- The parameters of the IPC server; the text of a base64 error is the decoder's. -/
def serdeEnv (serde : Serde) (decodeError : Str → Str) : Env where
  encode := serde.encode
  decode data :=
    match serde.decode data with
    | some bytes => .ok bytes
    | none => .error (decodeError data)
  size msg := (serde.toVec msg.fields).length

/-- The server's write is `write_daemon_msg`. -/
theorem write_serdeEnv (serde : Serde) (decodeError : Str → Str) (client : Client) (sent : Sent)
    (hclient : client.connected = true) :
    (client.write (serdeEnv serde decodeError) sent true).isSome
      = (writeDaemonMsg serde sent.msg).isOk := by
  unfold Client.write writeDaemonMsg writeMsg
  by_cases hsize : (serde.toVec sent.msg.fields).length ≤ maxMsgSize
  · rw [if_pos ⟨rfl, hclient, hsize⟩, if_neg (Nat.not_lt.mpr hsize)]
    rfl
  · rw [if_neg (fun h => hsize h.2.2), if_pos (Nat.lt_of_not_le hsize)]
    rfl

end Roboat.Daemon.Ipc
