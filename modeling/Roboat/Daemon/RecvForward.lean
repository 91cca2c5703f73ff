import Roboat.Daemon.IpcCodec
import Roboat.Daemon.ServerViews

/-! # Forwarding what a stream receives

`forward_recv_to_ipc` takes the chunks of a stream from its receive channel and writes each as a
`recv` on the agent's socket; at the end of the channel it writes `closed`. A chunk comes from a
frame of up to 64 MiB, and `write_daemon_msg` refuses a message of more than 4 MiB before anything
is written. The task takes the refusal for a dead socket and ends: the agent gets neither the chunk
nor `closed`, although the socket is there (`forwarding_stops`). It tells everything exactly when
every chunk fits (`forwarding_complete_iff`). -/

namespace Roboat.Daemon.Ipc

/-! ## The task -/

/-- `DaemonMsg::Recv` for a chunk. -/
def recvOf (serde : Serde) (streamId : UInt32) (data : Bytes) : DaemonMsg :=
  .recv streamId (serde.encode data)

/-- **`forward_recv_to_ipc`** on all the chunks that will ever be in the channel, on a socket that
does not fail: the messages it writes. -/
def forwardRecvToIpc (serde : Serde) (streamId : UInt32) : List Bytes → List DaemonMsg
  | data :: chunks =>
    match writeDaemonMsg serde (recvOf serde streamId data) with
    | .ok _ => recvOf serde streamId data :: forwardRecvToIpc serde streamId chunks
    -- `break`, as after an error of the socket
    | .error _ => []
  | [] =>
    match writeDaemonMsg serde (closedOf streamId) with
    | .ok _ => [closedOf streamId]
    | .error _ => []

/-- **Everything is told**: a `recv` for each chunk, in order and with its data, then one
`closed`. -/
def Complete (serde : Serde) (streamId : UInt32) (chunks : List Bytes)
    (written : List DaemonMsg) : Prop :=
  ∃ texts : List Str, texts.map serde.decode = chunks.map some ∧
    written = texts.map (DaemonMsg.recv streamId) ++ [closedOf streamId]

/-- A chunk whose `recv` is within the limit of the socket. -/
def Fits (serde : Serde) (streamId : UInt32) (data : Bytes) : Prop :=
  (serde.toVec (recvOf serde streamId data).fields).length ≤ maxMsgSize

/-! ## Lengths -/

/-- Base64 is written as it is. -/
theorem length_writeString_encode (data : Bytes) :
    (Json.utf8 (Json.writeString (Base64.encode data))).length
      = 4 * ((data.length + 2) / 3) + 2 := by
  have hall : (Base64.pad :: Base64.alphabet).all
      (fun c => c.utf8Size == 1 && Json.escape c == [c]) = true := by decide +kernel
  have hplain : ∀ c ∈ Base64.pad :: Base64.alphabet, c.utf8Size = 1 ∧ Json.escape c = [c] := by
    intro c hc
    have hc := List.all_eq_true.mp hall c hc
    rw [Bool.and_eq_true] at hc
    exact ⟨eq_of_beq hc.1, eq_of_beq hc.2⟩
  rw [Json.length_utf8_writeString fun c hc => hplain c (Base64.mem_of_mem_encode hc),
    Base64.length_encode]

/-- **The length of a `recv`.** -/
theorem length_toVec_recvOf (streamId : UInt32) (data : Bytes) :
    (serdeJson.toVec (recvOf serdeJson streamId data).fields).length
      = 36 + (Nat.toDigits 10 streamId.toNat).length + 4 * ((data.length + 2) / 3) := by
  have hfixed : (Json.utf8 (Json.writeField "op" (.string "recv".toList))).length = 11 ∧
      (Json.utf8 (Json.writeString "stream_id".toList)).length = 11 ∧
      (Json.utf8 (Json.writeString "data".toList)).length = 6 := by
    decide +kernel
  change (Json.utf8 (Json.writeObject [("op", .string "recv".toList),
    ("stream_id", .number streamId.toNat), ("data", .string (Base64.encode data))])).length = _
  rw [Json.length_utf8_writeObject,
    Json.length_utf8_writeFields, Json.length_utf8_writeFields, Json.writeFields,
    Json.length_utf8_writeField "stream_id", Json.length_utf8_writeField "data", Json.Value.write,
    Json.Value.write, Json.length_utf8_toDigits, length_writeString_encode]
  dsimp only
  omega

/-- Chunks of up to 3145692 bytes fit, under every stream id. -/
theorem fits_of_length_le {data : Bytes} (h : data.length ≤ 3145692) (streamId : UInt32) :
    Fits serdeJson streamId data := by
  have hdigits := length_digits_le streamId
  rw [Fits, length_toVec_recvOf, maxMsgSize]
  omega

/-- Chunks of more than 3145698 bytes fit under none. -/
theorem length_le_of_fits {streamId : UInt32} {data : Bytes} (h : Fits serdeJson streamId data) :
    data.length ≤ 3145698 := by
  have hdigits : 0 < (Nat.toDigits 10 streamId.toNat).length := Nat.length_toDigits_pos
  rw [Fits, length_toVec_recvOf, maxMsgSize] at h
  omega

/-! ## What is written -/

section Task

variable {serde : Serde} {streamId : UInt32} {data : Bytes} {chunks : List Bytes}

theorem forwardRecvToIpc_nil (serde : Serde) (streamId : UInt32) :
    forwardRecvToIpc serde streamId [] = [closedOf streamId] := by
  have hwrite : writeDaemonMsg serde (closedOf streamId) = .ok _ :=
    writeMsg_of_le (serde.length_closedOf_le streamId)
  rw [forwardRecvToIpc, hwrite]

/-- A chunk that fits is forwarded as one message. -/
theorem forwardRecvToIpc_of_fits (h : Fits serde streamId data) (chunks : List Bytes) :
    forwardRecvToIpc serde streamId (data :: chunks)
      = recvOf serde streamId data :: forwardRecvToIpc serde streamId chunks := by
  have hwrite : writeDaemonMsg serde (recvOf serde streamId data) = .ok _ := writeMsg_of_le h
  rw [forwardRecvToIpc, hwrite]

/-- The task ends at a chunk that does not fit. -/
theorem forwardRecvToIpc_of_not_fits (h : ¬ Fits serde streamId data) (chunks : List Bytes) :
    forwardRecvToIpc serde streamId (data :: chunks) = [] := by
  have hwrite : writeDaemonMsg serde (recvOf serde streamId data)
      = .error (.tooLarge (serde.toVec (recvOf serde streamId data).fields).length) := by
    rw [writeDaemonMsg, writeMsg, if_pos (Nat.lt_of_not_le h)]
  rw [forwardRecvToIpc, hwrite]

/-- The chunks up to the first one that does not fit are told, and the end if there is none. -/
theorem forwardRecvToIpc_eq (h : ∀ data ∈ chunks, Fits serde streamId data) :
    forwardRecvToIpc serde streamId chunks
      = chunks.map (recvOf serde streamId) ++ [closedOf streamId] := by
  induction chunks with
  | nil => exact forwardRecvToIpc_nil serde streamId
  | cons data chunks ih =>
    rw [forwardRecvToIpc_of_fits (h data List.mem_cons_self),
      ih fun d hd => h d (List.mem_cons_of_mem _ hd)]
    rfl

/-- As long as there is a chunk that does not fit, `closed` is not told. -/
theorem closedOf_not_mem (h : ∃ data ∈ chunks, ¬ Fits serde streamId data) :
    closedOf streamId ∉ forwardRecvToIpc serde streamId chunks := by
  induction chunks with
  | nil =>
    obtain ⟨data, hdata, -⟩ := h
    cases hdata
  | cons data chunks ih =>
    by_cases hfits : Fits serde streamId data
    · rw [forwardRecvToIpc_of_fits hfits, List.mem_cons, not_or]
      refine ⟨by simp [closedOf, recvOf], ih ?_⟩
      obtain ⟨d, hd, hnot⟩ := h
      rcases List.mem_cons.mp hd with rfl | hd
      · exact absurd hfits hnot
      · exact ⟨d, hd, hnot⟩
    · rw [forwardRecvToIpc_of_not_fits hfits]
      exact List.not_mem_nil

end Task

/-- **The task tells everything exactly when every chunk fits.** -/
theorem forwarding_complete_iff (serde : Serde) (streamId : UInt32) (chunks : List Bytes) :
    Complete serde streamId chunks (forwardRecvToIpc serde streamId chunks) ↔
      ∀ data ∈ chunks, Fits serde streamId data := by
  constructor
  · rintro ⟨texts, -, hwritten⟩
    by_contra hnot
    push Not at hnot
    exact closedOf_not_mem hnot (hwritten ▸ List.mem_append_right _ (List.mem_singleton.mpr rfl))
  · intro hfits
    refine ⟨chunks.map serde.encode, ?_, ?_⟩
    · rw [List.map_map]
      exact List.map_congr_left fun data _ => serde.decode_encode data
    · rw [forwardRecvToIpc_eq hfits, List.map_map]
      rfl

/-- A chunk of 4 MiB comes in a frame that is read, and nothing is told: not the chunk, and not the
end. -/
theorem forwarding_stops :
    readFrame (writeFrame .streamData
        (toBeBytes 1 ++ List.replicate (4 * 1024 * 1024) 0))
      = .ok ((.streamData, toBeBytes 1 ++ List.replicate (4 * 1024 * 1024) 0), []) ∧
    forwardRecvToIpc serdeJson 1 [List.replicate (4 * 1024 * 1024) 0] = [] ∧
    ¬ Complete serdeJson 1 [List.replicate (4 * 1024 * 1024) 0]
      (forwardRecvToIpc serdeJson 1 [List.replicate (4 * 1024 * 1024) 0]) := by
  have hlen : (List.replicate (4 * 1024 * 1024) (0 : UInt8)).length = 4194304 :=
    List.length_replicate
  have hframe := readFrame_writeFrame_append .streamData
    (toBeBytes 1 ++ List.replicate (4 * 1024 * 1024) 0) [] (by
      rw [List.length_append, length_toBeBytes, hlen]
      decide)
  have hnot : ¬ Fits serdeJson 1 (List.replicate (4 * 1024 * 1024) 0) := by
    intro hfits
    have hle := length_le_of_fits hfits
    omega
  have hstops := forwardRecvToIpc_of_not_fits hnot []
  rw [List.append_nil] at hframe
  refine ⟨hframe, hstops, ?_⟩
  rw [hstops]
  rintro ⟨texts, -, hwritten⟩
  exact absurd hwritten (by simp)

/-! ## The task in the server

The forwarding task of the server machine writes what `forwardRecvToIpc` says, when its writes do
not fail. -/

section Server

variable {s : Server} {st : Stream} {client : Client} {i c : Nat} {streamId : UInt32}
  (serde : Serde) (decodeError : Str → Str)

/-- The step that takes from the channel. -/
theorem step_forwardRecv (hi : s.streams[i]? = some st)
    (hreceiver : st.receiver = .forwarding c streamId .waiting) :
    s.step (serdeEnv serde decodeError) (.forwardRecv i)
      = s.forwardRecv (serdeEnv serde decodeError) i st c streamId := by
  simp only [Server.step, hi, Option.bind_some, hreceiver]

/-- The step that writes. -/
theorem step_forwardWrite {sent : Sent} (hi : s.streams[i]? = some st)
    (hreceiver : st.receiver = .forwarding c streamId (.writing sent))
    (hc : s.clients[c]? = some client) (hconnected : client.connected = true) :
    s.step (serdeEnv serde decodeError) (.forwardWrite i true)
      = if (serde.toVec sent.msg.fields).length ≤ maxMsgSize then
          some ((s.setClient c { client with out := client.out ++ [sent] }).setStream i
            { st with receiver := .forwarding c streamId (.after sent) })
        else some (s.setStream i
          { st with queue := [], receiver := .forwarding c streamId .done }) := by
  simp only [Server.step, hi, Option.bind_some, hreceiver, hc, Option.map_some, Client.write,
    hconnected, true_and, serdeEnv]
  split_ifs <;> rfl

/-- One round of the loop: the message in turn is written, or the task ends. -/
theorem run_round {new : Stream} {sent : Sent} (hi : s.streams[i]? = some st)
    (hreceiver : st.receiver = .forwarding c streamId .waiting)
    (hrecv : s.forwardRecv (serdeEnv serde decodeError) i st c streamId = some (s.setStream i new))
    (hnew : new.receiver = .forwarding c streamId (.writing sent))
    (hc : s.clients[c]? = some client) (hconnected : client.connected = true) :
    ∃ t, (serverMachine (serdeEnv serde decodeError)).run s [.forwardRecv i, .forwardWrite i true]
        = some t ∧
      ((serde.toVec sent.msg.fields).length ≤ maxMsgSize →
        t.streams[i]? = some { new with receiver := .forwarding c streamId (.after sent) } ∧
          t.clients[c]? = some { client with out := client.out ++ [sent] }) ∧
      (¬ (serde.toVec sent.msg.fields).length ≤ maxMsgSize → t.clients[c]? = some client) := by
  have hstream : (s.setStream i new).streams[i]? = some new := Tasks.set_self hi
  have hwrite := step_forwardWrite serde decodeError hstream hnew
    (show (s.setStream i new).clients[c]? = some client from hc) hconnected
  have hstep := (step_forwardRecv serde decodeError hi hreceiver).trans hrecv
  by_cases hsize : (serde.toVec sent.msg.fields).length ≤ maxMsgSize
  · rw [if_pos hsize] at hwrite
    exact ⟨_, (Machine.run_cons _).mpr ⟨_, hstep, (Machine.run_cons _).mpr ⟨_, hwrite, rfl⟩⟩,
      fun _ => ⟨Tasks.set_self hstream, Tasks.set_self hc⟩, fun hnot => absurd hsize hnot⟩
  · rw [if_neg hsize] at hwrite
    exact ⟨_, (Machine.run_cons _).mpr ⟨_, hstep, (Machine.run_cons _).mpr ⟨_, hwrite, rfl⟩⟩,
      fun hle => absurd hle hsize, fun _ => hc⟩

/-- **The task of the server machine writes what `forwardRecvToIpc` says.** From a state in which
the sender of the channel is dropped, its steps run to the end of the task. -/
theorem run_forward (chunks : List Bytes) :
    ∀ (s : Server) (st : Stream) (client : Client), s.streams[i]? = some st →
      st.receiver = .forwarding c streamId .waiting → st.queue = chunks → st.closed = true →
      s.clients[c]? = some client → client.connected = true →
      ∃ steps t client', (serverMachine (serdeEnv serde decodeError)).run s steps = some t ∧
        t.clients[c]? = some client' ∧
        client'.out.map Sent.msg = client.out.map Sent.msg
          ++ forwardRecvToIpc serde streamId chunks := by
  induction chunks with
  | nil =>
    intro s st client hi hreceiver hqueue hclosed hc hconnected
    have hrecv : s.forwardRecv (serdeEnv serde decodeError) i st c streamId
        = some (s.setStream i { st with
            receiver := .forwarding c streamId (.writing (closedMessage i streamId)) }) := by
      rw [Server.forwardRecv, hqueue]
      exact if_pos hclosed
    obtain ⟨t, hrun, hwrote, -⟩ := run_round serde decodeError hi hreceiver hrecv rfl hc hconnected
    obtain ⟨-, hc'⟩ := hwrote (serde.length_closedOf_le streamId)
    refine ⟨_, t, _, hrun, hc', ?_⟩
    rw [forwardRecvToIpc_nil, List.map_append]
    rfl
  | cons data chunks ih =>
    intro s st client hi hreceiver hqueue hclosed hc hconnected
    have hrecv : s.forwardRecv (serdeEnv serde decodeError) i st c streamId
        = some (s.setStream i { st with
            queue := chunks
            receiver := .forwarding c streamId
              (.writing (recvMessage (serdeEnv serde decodeError) i streamId data)) }) := by
      rw [Server.forwardRecv, hqueue]
    obtain ⟨t, hrun, hwrote, hrefused⟩ :=
      run_round serde decodeError hi hreceiver hrecv rfl hc hconnected
    by_cases hfits : Fits serde streamId data
    · -- written, and the loop goes on
      obtain ⟨hstream, hclient⟩ := hwrote hfits
      obtain ⟨steps, u, client', hrest, hc', hout⟩ :=
        ih t _ _ hstream rfl rfl hclosed hclient hconnected
      refine ⟨_, u, client', (Machine.run_append _).mpr ⟨t, hrun, hrest⟩, hc', ?_⟩
      rw [hout, forwardRecvToIpc_of_fits hfits, List.map_append, List.append_assoc]
      rfl
    · -- refused, and the task is over
      refine ⟨_, t, client, hrun, hrefused hfits, ?_⟩
      rw [forwardRecvToIpc_of_not_fits hfits, List.append_nil]

end Server

end Roboat.Daemon.Ipc
