import Mathlib.Data.List.Basic
import Mathlib.Logic.Function.Basic
import Mathlib.Tactic.SplitIfs
import Roboat.Daemon.Mux
import Roboat.Daemon.StreamBridge
import Roboat.Text.Hex
import Roboat.Transition.Broadcast
import Roboat.Transition.Machine
import Roboat.Transition.Tasks

/-! # The IPC server of the daemon

Local agents talk to the daemon over a Unix socket. `handle_client` reads an agent's messages one
after the other; a `listen` leaves behind a task that reports inbound streams, and every stream that
is handed to an agent gets a task, `forward_recv_to_ipc`, that reports its data. All of them write
to the agent's socket under one lock.

The daemon's streams appear here from the receiving side: a stream is its receive channel, into
which the remote's data goes, together with the task that empties it. `DaemonManager.streams` maps
an id to the stream whose entry is under that id; the outcome of `DaemonManager::dial`, `send` and
`start_listener` is a parameter of the steps that call them. -/

namespace Roboat.Daemon.Ipc

/-- `AgentMsg`. -/
inductive AgentMsg where
  | listen (agentId : Str) (registryToken tunnelEndpoint : Option Str)
  | unlisten
  | dial (targetAgentId : Str) (streamClass : StreamClass) (requestId : Option Str)
  | send (streamId : UInt32) (data : Str)
  | close (streamId : UInt32)
  | ping
  deriving DecidableEq, Repr

/-- `DaemonMsg`. -/
inductive DaemonMsg where
  | listening (agentId : Str)
  | connected (streamId : UInt32) (targetAgentId : Str) (requestId : Option Str)
  | incoming (streamId : UInt32) (fromAgentId : Str) (cls : StreamClass)
  | recv (streamId : UInt32) (data : Str)
  | closed (streamId : UInt32) (reason : Option Str)
  | pong
  | error (code message : Str) (requestId : Option Str)
  deriving DecidableEq, Repr

/-- The stream id of a message that reports data, or the end, of a stream. -/
def DaemonMsg.reports : DaemonMsg → Option UInt32
  | recv streamId _ => some streamId
  | closed streamId _ => some streamId
  | _ => none

/-- The stream id of a message that announces a stream. -/
def DaemonMsg.announces : DaemonMsg → Option UInt32
  | connected streamId _ _ => some streamId
  | incoming streamId _ _ => some streamId
  | _ => none

/-- The parameters: base64, and the length of a message's JSON text. -/
structure Env where
  encode : Bytes → Str
  decode : Str → Except Str Bytes
  size : DaemonMsg → Nat

/-- `MAX_MSG_SIZE`: 4 MiB. -/
def maxMsgSize : Nat := 4 * 1024 * 1024

/-- The capacity of `incoming_tx`. -/
def broadcastCapacity : Nat := 64

/-- A message for an agent. `stream` is the stream it is about and `forwarder` the stream whose
forwarding task it announces or comes from; no step reads them. -/
structure Sent where
  msg : DaemonMsg
  stream : Option Nat
  forwarder : Option Nat
  deriving DecidableEq, Repr

/-- A message about no stream. -/
def Sent.plain (msg : DaemonMsg) : Sent := ⟨msg, none, none⟩

/-- Where `handle_client` is. -/
inductive HandlerPhase where
  /-- In `read_agent_msg`. -/
  | reading
  /-- In `DaemonManager::dial`; `stream` is the stream it has made, if it has come so far. -/
  | dialing (targetAgentId : Str) (requestId : Option Str) (stream : Option Nat)
  /-- Waiting for the writer, to write this message. -/
  | writing (sent : Sent)
  /-- The task is over. -/
  | returned
  deriving DecidableEq, Repr

/-- A connection of an agent, and what was written on it. -/
structure Client where
  connected : Bool
  handler : HandlerPhase
  out : List Sent
  deriving DecidableEq, Repr

/-- `IncomingStreamInfo`. `owner` is the stream it is about; no step reads it. -/
structure IncomingStreamInfo where
  streamId : UInt32
  fromAgentId : Str
  cls : StreamClass
  owner : Nat
  deriving DecidableEq, Repr

/-- Where the task is that a `listen` has spawned. -/
inductive ListenerPhase where
  /-- In `incoming_rx.recv()`. -/
  | waiting
  /-- In `take_recv_rx`. -/
  | taking (info : IncomingStreamInfo)
  /-- Waiting for the writer, to write this notification. -/
  | announcing (sent : Sent)
  deriving DecidableEq, Repr

/-- A task that a `listen` has spawned, for a client, with its position in the broadcast channel. -/
structure Listener where
  client : Nat
  next : Nat
  phase : ListenerPhase
  deriving DecidableEq, Repr

/-- Where a task of `forward_recv_to_ipc` is. -/
inductive ForwarderPhase where
  /-- In `recv_rx.recv()`. -/
  | waiting
  /-- Waiting for the writer, to write this message. -/
  | writing (sent : Sent)
  /-- The task is over. -/
  | done
  deriving DecidableEq, Repr

/-- Where the receiver of a stream's receive channel is. -/
inductive Receiver where
  /-- With the task that is setting up the stream. -/
  | held
  /-- In the stream's entry in the table. -/
  | entry
  /-- With the task of `forward_recv_to_ipc` for a client. -/
  | forwarding (client : Nat) (streamId : UInt32) (phase : ForwarderPhase)
  /-- Dropped with the entry. -/
  | dropped
  deriving DecidableEq, Repr

/-- How far a stream is. -/
inductive Stage where
  /-- Made by a dial. -/
  | dialed
  /-- Opened by the remote; not yet in the table. -/
  | opened
  /-- In the table; the agents are not yet notified. -/
  | registered
  /-- The agents are notified. -/
  | notified
  deriving DecidableEq, Repr

/-- A stream, seen from its receive channel. -/
structure Stream where
  id : UInt32
  fromAgentId : Str
  cls : StreamClass
  stage : Stage
  /-- The chunks in the channel. -/
  queue : List Bytes
  /-- The chunks the remote has sent, ever. -/
  sent : List Bytes
  /-- The sender is dropped. -/
  closed : Bool
  receiver : Receiver
  deriving DecidableEq, Repr

/-- What is broadcast of stream `i`. -/
def Stream.info (i : Nat) (st : Stream) : IncomingStreamInfo :=
  ⟨st.id, st.fromAgentId, st.cls, i⟩

/-- The server. -/
structure Server where
  clients : List Client
  streams : List Stream
  /-- `DaemonManager.streams`. -/
  table : UInt32 → Option Nat
  /-- Everything sent on `incoming_tx`. -/
  broadcast : List IncomingStreamInfo
  listeners : List Listener

/-- The atomic steps. -/
inductive ServerStep where
  /-- An agent connects. -/
  | connect
  /-- An agent closes its end of the connection. -/
  | hangUp (c : Nat)
  /-- `read_agent_msg` fails. -/
  | readError (c : Nat)
  /-- `handle_client` reads a message; `failure` is the error of the `start_listener` or `send` that
  it calls. -/
  | receive (c : Nat) (msg : AgentMsg) (failure : Option Str)
  /-- A dial has drawn its id and made the receive channel. -/
  | dialOpened (c : Nat) (id : UInt32)
  /-- A dial returns a stream. -/
  | dialDone (c : Nat)
  /-- A dial returns an error. -/
  | dialFailed (c : Nat) (message : Str)
  /-- `handle_client` writes its message. -/
  | reply (c : Nat) (ok : Bool)
  /-- The remote opens a stream. -/
  | opened (id : UInt32) (fromAgentId : Str) (cls : StreamClass)
  /-- An inbound stream is entered in the table. -/
  | register (i : Nat)
  /-- An inbound stream is broadcast. -/
  | notify (i : Nat)
  /-- A chunk from the remote goes to the receive channel. -/
  | push (i : Nat) (data : Bytes)
  /-- The sender of the receive channel is dropped. -/
  | dropSender (i : Nat)
  /-- A stream bridge ends and removes its id. -/
  | removeEntry (id : UInt32)
  /-- A task of `listen` receives from the broadcast channel. -/
  | listenerRecv (l : Nat)
  /-- A task of `listen` claims the receiver. -/
  | listenerTake (l : Nat)
  /-- A task of `listen` writes its notification. -/
  | listenerWrite (l : Nat) (ok : Bool)
  /-- The forwarding task of a stream receives from the channel. -/
  | forwardRecv (i : Nat)
  /-- The forwarding task of a stream writes its message. -/
  | forwardWrite (i : Nat) (ok : Bool)
  deriving DecidableEq, Repr

/-- The id whose entry a step removes. -/
def ServerStep.removes : ServerStep → Option UInt32
  | removeEntry id => some id
  | receive _ (.close streamId) _ => some streamId
  | _ => none

/-- `write_daemon_msg` on a client's connection: it fails when the message is too large, when the
client is gone, and with an I/O error. -/
def Client.write (env : Env) (client : Client) (sent : Sent) (ok : Bool) : Option Client :=
  if ok = true ∧ client.connected = true ∧ env.size sent.msg ≤ maxMsgSize then
    some { client with out := client.out ++ [sent] }
  else none

/-- `incoming` for a broadcast stream; `forwarder` is the stream whose receiver was claimed. -/
def IncomingStreamInfo.message (info : IncomingStreamInfo) (forwarder : Option Nat) : Sent :=
  ⟨.incoming info.streamId info.fromAgentId info.cls, some info.owner, forwarder⟩

/-- `recv` for a chunk of stream `i`. -/
def recvMessage (env : Env) (i : Nat) (streamId : UInt32) (data : Bytes) : Sent :=
  ⟨.recv streamId (env.encode data), some i, some i⟩

/-- `closed` for stream `i`. -/
def closedMessage (i : Nat) (streamId : UInt32) : Sent :=
  ⟨.closed streamId (some "remote closed".toList), some i, some i⟩

/-- Whether the receiver of a channel is dropped. -/
def Receiver.gone : Receiver → Bool
  | dropped => true
  | forwarding _ _ .done => true
  | _ => false

/-- What a task of `forward_recv_to_ipc` does after a write: it goes on after a `recv`. -/
def ForwarderPhase.after (sent : Sent) : ForwarderPhase :=
  match sent.msg with
  | .recv _ _ => waiting
  | _ => done

namespace Server

/-- Overwrite a client. -/
def setClient (s : Server) (c : Nat) (client : Client) : Server :=
  { s with clients := s.clients.set c client }

/-- Overwrite a stream. -/
def setStream (s : Server) (i : Nat) (st : Stream) : Server :=
  { s with streams := s.streams.set i st }

/-- Overwrite a task of `listen`. -/
def setListener (s : Server) (l : Nat) (listener : Listener) : Server :=
  { s with listeners := s.listeners.set l listener }

/-- `take_recv_rx`, as far as finding the receiver: the stream in the table under an id, if its
receiver is still in the entry. -/
def takeRecvRx (s : Server) (id : UInt32) : Option (Nat × Stream) :=
  (s.table id).bind fun i => s.streams[i]?.bind fun st =>
    if st.receiver = .entry then some (i, st) else none

/-- The entry under an id is dropped, and with it the receiver that it still has. -/
def dropEntry (s : Server) (id : UInt32) : Server :=
  let erased := { s with table := Function.update s.table id none }
  match s.takeRecvRx id with
  | some (i, st) => erased.setStream i { st with queue := [], receiver := .dropped }
  | none => erased

/-- An entry is made under an id; the one that was there is dropped. -/
def insertEntry (s : Server) (id : UInt32) (i : Nat) : Server :=
  { s.dropEntry id with table := Function.update s.table id (some i) }

/-- The body of `handle_client`'s loop, up to its first wait for the writer or for a dial. -/
def handle (env : Env) (s : Server) (c : Nat) (client : Client) (msg : AgentMsg)
    (failure : Option Str) : Server :=
  let writing (msg : DaemonMsg) : Server :=
    s.setClient c { client with handler := .writing (.plain msg) }
  match msg with
  | .ping => writing .pong
  | .listen agentId _ _ =>
    match failure with
    | some message => writing (.error "listen_failed".toList message none)
    | none =>
      { writing (.listening agentId) with
        listeners := s.listeners ++ [⟨c, s.broadcast.length, .waiting⟩] }
  | .unlisten => s
  | .dial targetAgentId _ requestId =>
    s.setClient c { client with handler := .dialing targetAgentId requestId none }
  | .send _ data =>
    match env.decode data with
    | .error e =>
      writing (.error "invalid_data".toList ("base64 decode failed: ".toList ++ e) none)
    | .ok _ =>
      match failure with
      | some message => writing (.error "send_failed".toList message none)
      | none => s
  | .close streamId => s.dropEntry streamId

/-- A stream made by a dial. -/
def dialedStream (id : UInt32) : Stream := ⟨id, [], .control, .dialed, [], [], false, .held⟩

/-- A stream opened by the remote. -/
def inboundStream (id : UInt32) (fromAgentId : Str) (cls : StreamClass) : Stream :=
  ⟨id, fromAgentId, cls, .opened, [], [], false, .held⟩

/-- The stream that the dial of a client is about to return. -/
def dialResult (s : Server) (client : Client) : Option Stream :=
  match client.handler with
  | .dialing _ _ (some i) => s.streams[i]?
  | _ => none

/-- A dial returns stream `i`: it is in the table by now, `handle_client` spawns the forwarding task
and waits for the writer. -/
def dialDone (s : Server) (c : Nat) (client : Client) (targetAgentId : Str)
    (requestId : Option Str) (i : Nat) (st : Stream) : Server :=
  ((s.insertEntry st.id i).setStream i
    { st with receiver := .forwarding c st.id .waiting }).setClient c
    { client with handler := .writing ⟨.connected st.id targetAgentId requestId, some i, some i⟩ }

/-- `recv_tx.send`: waits while the channel is full; with the receiver gone the chunk is lost. -/
def push (s : Server) (i : Nat) (st : Stream) (data : Bytes) : Option Server :=
  if st.closed = true then none
  else if st.receiver.gone = true then
    some (s.setStream i { st with sent := st.sent ++ [data] })
  else if st.queue.length < channelCapacity then
    some (s.setStream i { st with queue := st.queue ++ [data], sent := st.sent ++ [data] })
  else none

/-- `incoming_rx.recv()`. -/
def listenerRecv (s : Server) (l : Nat) (listener : Listener) : Option Server :=
  match Broadcast.receive broadcastCapacity s.broadcast listener.next with
  | .empty => none
  | .lagged next => some (s.setListener l { listener with next := next })
  | .value info =>
    some (s.setListener l { listener with next := listener.next + 1, phase := .taking info })

/-- `take_recv_rx`, and `forward_recv_to_ipc` if there is a receiver. -/
def listenerTake (s : Server) (l : Nat) (listener : Listener) (info : IncomingStreamInfo) :
    Server :=
  match s.takeRecvRx info.streamId with
  | some (i, st) =>
    (s.setStream i
      { st with receiver := .forwarding listener.client info.streamId .waiting }).setListener l
      { listener with phase := .announcing (info.message (some i)) }
  | none => s.setListener l { listener with phase := .announcing (info.message none) }

/-- `recv_rx.recv()`. -/
def forwardRecv (env : Env) (s : Server) (i : Nat) (st : Stream) (c : Nat) (streamId : UInt32) :
    Option Server :=
  match st.queue with
  | data :: rest =>
    some (s.setStream i { st with
      queue := rest
      receiver := .forwarding c streamId (.writing (recvMessage env i streamId data)) })
  | [] =>
    if st.closed = true then
      some (s.setStream i { st with
        receiver := .forwarding c streamId (.writing (closedMessage i streamId)) })
    else none

/-- The step function. -/
def step (env : Env) (s : Server) : ServerStep → Option Server
  | .connect => some { s with clients := s.clients ++ [⟨true, .reading, []⟩] }
  | .hangUp c => s.clients[c]?.map fun client => s.setClient c { client with connected := false }
  | .readError c => s.clients[c]?.bind fun client =>
    if client.handler = .reading then some (s.setClient c { client with handler := .returned })
    else none
  | .receive c msg failure => s.clients[c]?.bind fun client =>
    if client.handler = .reading then some (s.handle env c client msg failure) else none
  | .dialOpened c id => s.clients[c]?.bind fun client =>
    match client.handler with
    | .dialing targetAgentId requestId none =>
      some ({ s with streams := s.streams ++ [dialedStream id] }.setClient c { client with
        handler := .dialing targetAgentId requestId (some s.streams.length) })
    | _ => none
  | .dialDone c => s.clients[c]?.bind fun client =>
    match client.handler with
    | .dialing targetAgentId requestId (some i) =>
      s.streams[i]?.map fun st => s.dialDone c client targetAgentId requestId i st
    | _ => none
  | .dialFailed c message => s.clients[c]?.bind fun client =>
    match client.handler with
    | .dialing _ requestId none => some (s.setClient c { client with
        handler := .writing (.plain (.error "dial_failed".toList message requestId)) })
    | _ => none
  | .reply c ok => s.clients[c]?.bind fun client =>
    match client.handler with
    | .writing sent =>
      match client.write env sent ok with
      | some client => some (s.setClient c { client with handler := .reading })
      | none => some (s.setClient c { client with handler := .returned })
    | _ => none
  | .opened id fromAgentId cls =>
    some { s with streams := s.streams ++ [inboundStream id fromAgentId cls] }
  | .register i => s.streams[i]?.bind fun st =>
    if st.stage = .opened then
      some ((s.insertEntry st.id i).setStream i
        { st with stage := .registered, receiver := .entry })
    else none
  | .notify i => s.streams[i]?.bind fun st =>
    if st.stage = .registered then
      some ({ s with broadcast := s.broadcast ++ [st.info i] }.setStream i
        { st with stage := .notified })
    else none
  | .push i data => s.streams[i]?.bind fun st => s.push i st data
  | .dropSender i => s.streams[i]?.map fun st => s.setStream i { st with closed := true }
  | .removeEntry id => some (s.dropEntry id)
  | .listenerRecv l => s.listeners[l]?.bind fun listener =>
    if listener.phase = .waiting then s.listenerRecv l listener else none
  | .listenerTake l => s.listeners[l]?.bind fun listener =>
    match listener.phase with
    | .taking info => some (s.listenerTake l listener info)
    | _ => none
  | .listenerWrite l ok => s.listeners[l]?.bind fun listener =>
    match listener.phase with
    | .announcing sent => s.clients[listener.client]?.map fun client =>
      match client.write env sent ok with
      | some client =>
        (s.setClient listener.client client).setListener l { listener with phase := .waiting }
      | none => s.setListener l { listener with phase := .waiting }
    | _ => none
  | .forwardRecv i => s.streams[i]?.bind fun st =>
    match st.receiver with
    | .forwarding c streamId .waiting => s.forwardRecv env i st c streamId
    | _ => none
  | .forwardWrite i ok => s.streams[i]?.bind fun st =>
    match st.receiver with
    | .forwarding c streamId (.writing sent) => s.clients[c]?.map fun client =>
      match client.write env sent ok with
      | some client => (s.setClient c client).setStream i
          { st with receiver := .forwarding c streamId (.after sent) }
      | none => s.setStream i
          { st with queue := [], receiver := .forwarding c streamId .done }
    | _ => none

/-! ## What a step does -/

/-- A handler phase that concerns no stream. -/
def PlainPhase : HandlerPhase → Prop
  | .reading => True
  | .dialing _ _ stream => stream = none
  | .writing sent => ∃ msg, sent = .plain msg ∧ msg.reports = none
  | .returned => True

/-- **The moves of the server**: the effect of every step, with the facts it was taken under. -/
inductive Move (env : Env) (s : Server) : ServerStep → Server → Prop
  | connect : Move env s .connect { s with clients := s.clients ++ [⟨true, .reading, []⟩] }
  | hangUp {c : Nat} {client : Client} (hc : s.clients[c]? = some client) :
      Move env s (.hangUp c) (s.setClient c { client with connected := false })
  /-- Nothing happens that the model sees. -/
  | idle {a : ServerStep} : Move env s a s
  /-- A handler moves on. -/
  | handler {a : ServerStep} {c : Nat} {client : Client} {phase : HandlerPhase}
      (hc : s.clients[c]? = some client) (hphase : PlainPhase phase) :
      Move env s a (s.setClient c { client with handler := phase })
  | listen {c : Nat} {client : Client} {agentId : Str} {token endpoint : Option Str}
      (hc : s.clients[c]? = some client) :
      Move env s (.receive c (.listen agentId token endpoint) none)
        { s.setClient c { client with handler := .writing (.plain (.listening agentId)) } with
          listeners := s.listeners ++ [⟨c, s.broadcast.length, .waiting⟩] }
  /-- An entry is removed, by an agent's close or by a stream bridge. -/
  | dropEntry {a : ServerStep} {id : UInt32} (ha : a.removes = some id) :
      Move env s a (s.dropEntry id)
  | dialOpened {c : Nat} {client : Client} {targetAgentId : Str} {requestId : Option Str}
      {id : UInt32} (hc : s.clients[c]? = some client) :
      Move env s (.dialOpened c id)
        ({ s with streams := s.streams ++ [dialedStream id] }.setClient c { client with
          handler := .dialing targetAgentId requestId (some s.streams.length) })
  | dialDone {c i : Nat} {client : Client} {targetAgentId : Str} {requestId : Option Str}
      {st : Stream} (hc : s.clients[c]? = some client)
      (hphase : client.handler = .dialing targetAgentId requestId (some i))
      (hi : s.streams[i]? = some st) :
      Move env s (.dialDone c) (s.dialDone c client targetAgentId requestId i st)
  /-- A handler has written its message. -/
  | replied {c : Nat} {ok : Bool} {client : Client} {sent : Sent}
      (hc : s.clients[c]? = some client) (hphase : client.handler = .writing sent) :
      Move env s (.reply c ok)
        (s.setClient c { client with out := client.out ++ [sent], handler := .reading })
  | opened {id : UInt32} {fromAgentId : Str} {cls : StreamClass} :
      Move env s (.opened id fromAgentId cls)
        { s with streams := s.streams ++ [inboundStream id fromAgentId cls] }
  | register {i : Nat} {st : Stream} (hi : s.streams[i]? = some st) (hstage : st.stage = .opened) :
      Move env s (.register i) ((s.insertEntry st.id i).setStream i
        { st with stage := .registered, receiver := .entry })
  | notify {i : Nat} {st : Stream} (hi : s.streams[i]? = some st)
      (hstage : st.stage = .registered) :
      Move env s (.notify i)
        ({ s with broadcast := s.broadcast ++ [st.info i] }.setStream i
          { st with stage := .notified })
  | push {i : Nat} {st : Stream} {data : Bytes} (hi : s.streams[i]? = some st)
      (hopen : st.closed = false) (hreceiver : st.receiver.gone = false) :
      Move env s (.push i data) (s.setStream i
        { st with queue := st.queue ++ [data], sent := st.sent ++ [data] })
  | pushLost {i : Nat} {st : Stream} {data : Bytes} (hi : s.streams[i]? = some st)
      (hopen : st.closed = false) (hreceiver : st.receiver.gone = true) :
      Move env s (.push i data) (s.setStream i { st with sent := st.sent ++ [data] })
  | dropSender {i : Nat} {st : Stream} (hi : s.streams[i]? = some st) :
      Move env s (.dropSender i) (s.setStream i { st with closed := true })
  | lagged {l next : Nat} {listener : Listener} (hl : s.listeners[l]? = some listener)
      (hphase : listener.phase = .waiting)
      (hrecv : Broadcast.receive broadcastCapacity s.broadcast listener.next = .lagged next) :
      Move env s (.listenerRecv l) (s.setListener l { listener with next := next })
  | listenerRecv {l : Nat} {listener : Listener} {info : IncomingStreamInfo}
      (hl : s.listeners[l]? = some listener) (hphase : listener.phase = .waiting)
      (hrecv : Broadcast.receive broadcastCapacity s.broadcast listener.next = .value info) :
      Move env s (.listenerRecv l)
        (s.setListener l { listener with next := listener.next + 1, phase := .taking info })
  /-- A task of `listen` claims a receiver. -/
  | claim {l i : Nat} {listener : Listener} {info : IncomingStreamInfo} {st : Stream}
      (hl : s.listeners[l]? = some listener) (hphase : listener.phase = .taking info)
      (htable : s.table info.streamId = some i) (hi : s.streams[i]? = some st)
      (hentry : st.receiver = .entry) :
      Move env s (.listenerTake l)
        ((s.setStream i
          { st with receiver := .forwarding listener.client info.streamId .waiting }).setListener l
          { listener with phase := .announcing (info.message (some i)) })
  /-- There is no receiver to claim. -/
  | noClaim {l : Nat} {listener : Listener} {info : IncomingStreamInfo}
      (hl : s.listeners[l]? = some listener) (hphase : listener.phase = .taking info)
      (hnone : s.takeRecvRx info.streamId = none) :
      Move env s (.listenerTake l)
        (s.setListener l { listener with phase := .announcing (info.message none) })
  /-- A task of `listen` has written its notification. -/
  | announced {l : Nat} {ok : Bool} {listener : Listener} {sent : Sent} {client : Client}
      (hl : s.listeners[l]? = some listener) (hphase : listener.phase = .announcing sent)
      (hc : s.clients[listener.client]? = some client) :
      Move env s (.listenerWrite l ok)
        ((s.setClient listener.client { client with out := client.out ++ [sent] }).setListener l
          { listener with phase := .waiting })
  /-- The notification could not be written. -/
  | announceFailed {l : Nat} {ok : Bool} {listener : Listener} {sent : Sent} {client : Client}
      (hl : s.listeners[l]? = some listener) (hphase : listener.phase = .announcing sent)
      (hc : s.clients[listener.client]? = some client) (hfail : client.write env sent ok = none) :
      Move env s (.listenerWrite l ok) (s.setListener l { listener with phase := .waiting })
  | forwardRecv {i c : Nat} {st : Stream} {streamId : UInt32} {data : Bytes} {rest : List Bytes}
      (hi : s.streams[i]? = some st) (hreceiver : st.receiver = .forwarding c streamId .waiting)
      (hqueue : st.queue = data :: rest) :
      Move env s (.forwardRecv i) (s.setStream i { st with
        queue := rest
        receiver := .forwarding c streamId (.writing (recvMessage env i streamId data)) })
  /-- The channel is empty and its sender dropped. -/
  | forwardEnd {i c : Nat} {st : Stream} {streamId : UInt32}
      (hi : s.streams[i]? = some st) (hreceiver : st.receiver = .forwarding c streamId .waiting)
      (hqueue : st.queue = []) (hclosed : st.closed = true) :
      Move env s (.forwardRecv i) (s.setStream i { st with
        receiver := .forwarding c streamId (.writing (closedMessage i streamId)) })
  /-- A forwarding task has written its message. -/
  | forwarded {i c : Nat} {ok : Bool} {st : Stream} {streamId : UInt32} {sent : Sent}
      {client : Client} (hi : s.streams[i]? = some st)
      (hreceiver : st.receiver = .forwarding c streamId (.writing sent))
      (hc : s.clients[c]? = some client) :
      Move env s (.forwardWrite i ok)
        ((s.setClient c { client with out := client.out ++ [sent] }).setStream i
          { st with receiver := .forwarding c streamId (.after sent) })
  /-- The message could not be written. -/
  | forwardFailed {i c : Nat} {ok : Bool} {st : Stream} {streamId : UInt32} {sent : Sent}
      {client : Client} (hi : s.streams[i]? = some st)
      (hreceiver : st.receiver = .forwarding c streamId (.writing sent))
      (hc : s.clients[c]? = some client) (hfail : client.write env sent ok = none) :
      Move env s (.forwardWrite i ok)
        (s.setStream i { st with queue := [], receiver := .forwarding c streamId .done })

variable {env : Env} {s t : Server}

/-- A write that succeeds adds the message to what was written. -/
theorem eq_of_write {client client' : Client} {sent : Sent} {ok : Bool}
    (h : client.write env sent ok = some client') :
    client' = { client with out := client.out ++ [sent] } := by
  unfold Client.write at h
  split_ifs at h
  exact (Option.some.inj h).symm

/-- Finding a receiver in the table. -/
theorem eq_of_takeRecvRx {id : UInt32} {i : Nat} {st : Stream}
    (h : s.takeRecvRx id = some (i, st)) :
    s.table id = some i ∧ s.streams[i]? = some st ∧ st.receiver = .entry := by
  obtain ⟨j, htable, h⟩ := Option.bind_eq_some_iff.mp h
  obtain ⟨st', hi, h⟩ := Option.bind_eq_some_iff.mp h
  split_ifs at h with hentry
  cases h
  exact ⟨htable, hi, hentry⟩

/-- Reading a message is a move. -/
theorem move_of_handle {c : Nat} {client : Client} {msg : AgentMsg} {failure : Option Str}
    (hc : s.clients[c]? = some client) :
    Move env s (.receive c msg failure) (s.handle env c client msg failure) := by
  cases msg with
  | ping => exact .handler hc ⟨_, rfl, rfl⟩
  | listen agentId token endpoint =>
    cases failure with
    | none => exact .listen hc
    | some message => exact .handler hc ⟨_, rfl, rfl⟩
  | unlisten => exact .idle
  | dial target cls requestId => exact .handler hc rfl
  | send streamId data =>
    simp only [handle]
    split
    · exact .handler hc ⟨_, rfl, rfl⟩
    · cases failure with
      | none => exact .idle
      | some message => exact .handler hc ⟨_, rfl, rfl⟩
  | close streamId => exact .dropEntry rfl

/-- Every step is a move. -/
theorem move_of_step {a : ServerStep} (hstep : s.step env a = some t) : Move env s a t := by
  cases a with
  | connect =>
    cases hstep
    exact .connect
  | hangUp c =>
    obtain ⟨client, hc, rfl⟩ := Option.map_eq_some_iff.mp hstep
    exact .hangUp hc
  | readError c =>
    obtain ⟨client, hc, hstep⟩ := Option.bind_eq_some_iff.mp hstep
    split_ifs at hstep
    cases hstep
    exact .handler hc trivial
  | receive c msg failure =>
    obtain ⟨client, hc, hstep⟩ := Option.bind_eq_some_iff.mp hstep
    split_ifs at hstep
    cases hstep
    exact move_of_handle hc
  | dialOpened c id =>
    obtain ⟨client, hc, hstep⟩ := Option.bind_eq_some_iff.mp hstep
    split at hstep
    · cases hstep
      exact .dialOpened hc
    · cases hstep
  | dialDone c =>
    obtain ⟨client, hc, hstep⟩ := Option.bind_eq_some_iff.mp hstep
    split at hstep
    · rename_i hphase
      obtain ⟨st, hi, rfl⟩ := Option.map_eq_some_iff.mp hstep
      exact .dialDone hc hphase hi
    · cases hstep
  | dialFailed c message =>
    obtain ⟨client, hc, hstep⟩ := Option.bind_eq_some_iff.mp hstep
    split at hstep
    · cases hstep
      exact .handler hc ⟨_, rfl, rfl⟩
    · cases hstep
  | reply c ok =>
    obtain ⟨client, hc, hstep⟩ := Option.bind_eq_some_iff.mp hstep
    split at hstep
    · rename_i sent hphase
      split at hstep
      · rename_i hwrite
        cases hstep
        rw [eq_of_write hwrite]
        exact .replied hc hphase
      · cases hstep
        exact .handler hc trivial
    · cases hstep
  | opened id fromAgentId cls =>
    cases hstep
    exact .opened
  | register i =>
    obtain ⟨st, hi, hstep⟩ := Option.bind_eq_some_iff.mp hstep
    split_ifs at hstep with hstage
    cases hstep
    exact .register hi hstage
  | notify i =>
    obtain ⟨st, hi, hstep⟩ := Option.bind_eq_some_iff.mp hstep
    split_ifs at hstep with hstage
    cases hstep
    exact .notify hi hstage
  | push i data =>
    obtain ⟨st, hi, hstep⟩ := Option.bind_eq_some_iff.mp hstep
    unfold Server.push at hstep
    split_ifs at hstep with hclosed hgone
    · cases hstep
      exact .pushLost hi (by simpa using hclosed) hgone
    · cases hstep
      exact .push hi (by simpa using hclosed) (by simpa using hgone)
  | dropSender i =>
    obtain ⟨st, hi, rfl⟩ := Option.map_eq_some_iff.mp hstep
    exact .dropSender hi
  | removeEntry id =>
    cases hstep
    exact .dropEntry rfl
  | listenerRecv l =>
    obtain ⟨listener, hl, hstep⟩ := Option.bind_eq_some_iff.mp hstep
    split_ifs at hstep with hphase
    unfold Server.listenerRecv at hstep
    split at hstep
    · cases hstep
    · rename_i hrecv
      cases hstep
      exact .lagged hl hphase hrecv
    · rename_i hrecv
      cases hstep
      exact .listenerRecv hl hphase hrecv
  | listenerTake l =>
    obtain ⟨listener, hl, hstep⟩ := Option.bind_eq_some_iff.mp hstep
    split at hstep
    · rename_i info hphase
      cases hstep
      unfold Server.listenerTake
      split
      · rename_i htake
        obtain ⟨htable, hi, hentry⟩ := eq_of_takeRecvRx htake
        exact .claim hl hphase htable hi hentry
      · rename_i htake
        exact .noClaim hl hphase htake
    · cases hstep
  | listenerWrite l ok =>
    obtain ⟨listener, hl, hstep⟩ := Option.bind_eq_some_iff.mp hstep
    split at hstep
    · rename_i sent hphase
      obtain ⟨client, hc, rfl⟩ := Option.map_eq_some_iff.mp hstep
      split
      · rename_i hwrite
        rw [eq_of_write hwrite]
        exact .announced hl hphase hc
      · rename_i hwrite
        exact .announceFailed hl hphase hc hwrite
    · cases hstep
  | forwardRecv i =>
    obtain ⟨st, hi, hstep⟩ := Option.bind_eq_some_iff.mp hstep
    split at hstep
    · rename_i hreceiver
      unfold Server.forwardRecv at hstep
      split at hstep
      · rename_i hqueue
        cases hstep
        exact .forwardRecv hi hreceiver hqueue
      · rename_i hqueue
        split_ifs at hstep with hclosed
        cases hstep
        exact .forwardEnd hi hreceiver hqueue hclosed
    · cases hstep
  | forwardWrite i ok =>
    obtain ⟨st, hi, hstep⟩ := Option.bind_eq_some_iff.mp hstep
    split at hstep
    · rename_i sent hreceiver
      obtain ⟨client, hc, rfl⟩ := Option.map_eq_some_iff.mp hstep
      split
      · rename_i hwrite
        rw [eq_of_write hwrite]
        exact .forwarded hi hreceiver hc
      · rename_i hwrite
        exact .forwardFailed hi hreceiver hc hwrite
    · cases hstep

/-! ## Dropped entries -/

@[simp] theorem clients_dropEntry (s : Server) (id : UInt32) :
    (s.dropEntry id).clients = s.clients := by
  unfold dropEntry
  split <;> rfl

@[simp] theorem listeners_dropEntry (s : Server) (id : UInt32) :
    (s.dropEntry id).listeners = s.listeners := by
  unfold dropEntry
  split <;> rfl

@[simp] theorem broadcast_dropEntry (s : Server) (id : UInt32) :
    (s.dropEntry id).broadcast = s.broadcast := by
  unfold dropEntry
  split <;> rfl

@[simp] theorem table_dropEntry (s : Server) (id : UInt32) :
    (s.dropEntry id).table = Function.update s.table id none := by
  unfold dropEntry
  split <;> rfl

/-- The streams after an entry is dropped: at most its receiver is gone. -/
theorem of_dropEntry {id : UInt32} {i : Nat} {new : Stream}
    (h : (s.dropEntry id).streams[i]? = some new) :
    s.streams[i]? = some new ∨ ∃ st, s.streams[i]? = some st ∧ s.table id = some i ∧
      st.receiver = .entry ∧ new = { st with queue := [], receiver := .dropped } := by
  unfold dropEntry at h
  split at h
  · rename_i j st htake
    obtain ⟨htable, hj, hentry⟩ := eq_of_takeRecvRx htake
    rcases Tasks.of_set h with ⟨rfl, rfl⟩ | ⟨-, hold⟩
    · exact .inr ⟨st, hj, htable, hentry, rfl⟩
    · exact .inl hold
  · exact .inl h

end Server

/-- **The IPC server**: at the start there are no clients and no streams. -/
def serverMachine (env : Env) : Machine Server ServerStep where
  init := ⟨[], [], fun _ => none, [], []⟩
  step := Server.step env

/-- Short messages, and a byte is encoded as a character. -/
def sampleEnv : Env where
  encode data := data.map fun b => Char.ofNat b.toNat
  decode _ := .ok []
  size _ := 100

end Roboat.Daemon.Ipc
