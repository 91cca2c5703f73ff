import Roboat.Daemon.Manager
import Roboat.Daemon.MuxStreams

/-! # Locks and full channels

The manager has one table of streams and a mux connection has another, each under a lock, and the
channels of a stream have room for 64 chunks. `DaemonManager::send` waits for room in a data channel
with the lock of the manager's table, and `mux_read_task` waits for room in a receive channel with
the lock of the connection's table.

The machine has the locks and all who take them: the calls of the agents, the bridges of direct
streams, the forwarding tasks of multiplexed ones, dials and inbound connections, the read tasks and
the tasks that register what the read tasks announce. Bridges are those of `StreamBridge`, receive
sides those of `MuxRead`. The queues of frames to write are left out: they are unbounded, so that
nobody waits for them.

A stream that nobody drains brings the daemon to a halt. A `send` that waits for it keeps the table
locked (`waits_of_run`), even for ever if the bridge of the stream has left its loop
(`waits_of_run_of_closed`), because it needs the lock to end. A read task that waits for it handles
no other frame (`stuck_of_run`). -/

namespace Roboat.Daemon.Locks

open Demux (Inbound InboundStep InFrame Chan FirstOpen)

/-! ## The machine -/

/-- The task behind the data channel of a stream. -/
inductive Task where
  /-- `run_stream_bridge`. The receiver of the receive channel is in the entry of the stream until
  it is `claimed`; the task has `returned` when it has removed its id. -/
  | bridge (b : Bridge) (claimed returned : Bool)
  /-- The task of `dial_mux` or `register_mux_incoming`, for connection `c`. The receive channel is
  channel `ch` of the connection. -/
  | forwarder (c ch : Nat) (queue : List Bytes) (senderAlive : Bool) (phase : ForwardPhase)
  deriving DecidableEq, Repr

namespace Task

/-- The data channel. -/
def queue : Task → List Bytes
  | bridge b _ _ => b.dataRx
  | forwarder _ _ queue _ _ => queue

/-- The connection of a multiplexed stream, and its receive channel there. -/
def link : Task → Option (Nat × Nat)
  | bridge _ _ _ => none
  | forwarder c ch _ _ _ => some (c, ch)

/-- The receiver of the data channel is dropped. -/
def receiverGone : Task → Bool
  | bridge _ _ returned => returned
  | forwarder _ _ _ _ phase => phase == .done

def push (data : Bytes) : Task → Task
  | bridge b claimed returned => bridge { b with dataRx := b.dataRx ++ [data] } claimed returned
  | forwarder c ch queue alive phase => forwarder c ch (queue ++ [data]) alive phase

/-- The entry of the stream is dropped, and with it the sender of the data channel. -/
def release : Task → Task
  | bridge b claimed returned =>
    bridge { b with dataTxAlive := false, recvRxAlive := b.recvRxAlive && claimed } claimed
      returned
  | forwarder c ch queue _ phase => forwarder c ch queue false phase

/-- The bridge is over. -/
def finish : Task → Task
  | bridge b claimed _ => bridge b claimed true
  | forwarder c ch queue alive phase => forwarder c ch queue alive phase

end Task

structure Stream where
  id : UInt32
  task : Task
  deriving DecidableEq, Repr

/-- A mux connection with its registration task. -/
structure Conn where
  nextStreamId : UInt32
  inbound : Inbound
  first : FirstOpen
  /-- The channel `incoming_tx` of announced streams, each as the number of its receive channel. -/
  incoming : List Nat
  /-- What the registration task has taken from there; it waits for the lock of the manager. -/
  registering : Option Nat
  /-- The channels whose receivers were handed out; the others are in the entries. -/
  claimed : List Nat

/-- What an agent asks for. -/
inductive CallKind where
  | send (data : Bytes)
  | close
  deriving DecidableEq, Repr

inductive CallResult where
  | ok
  | streamNotFound
  | sendFailed
  deriving DecidableEq, Repr

/-- Where a call stands. -/
inductive CallPhase where
  /-- It waits for the lock of the table. -/
  | locking
  /-- A `send` that holds the lock, at the data channel of stream `i`. -/
  | sending (i : Nat)
  | returned (result : CallResult)
  deriving DecidableEq, Repr

/-- A call of `DaemonManager::send` or `DaemonManager::close_stream`. -/
structure Call where
  id : UInt32
  kind : CallKind
  phase : CallPhase := .locking
  deriving DecidableEq, Repr

/-- A dial, or an inbound direct connection, on its way into the table. -/
inductive Dial where
  /-- A direct stream before the lock of the table, with the bytes its peer is going to send. -/
  | direct (id : UInt32) (peer : Bytes) (claimed : Bool)
  /-- In `open_stream`, before the lock of the connection's table. -/
  | opening (c : Nat) (id : UInt32)
  /-- After `open_stream`, before the lock of the manager's table. -/
  | opened (c ch : Nat) (id : UInt32)
  | entered
  deriving DecidableEq, Repr

/-- The daemon: the table of the manager, the holder of its lock, the streams and the tasks. -/
structure State where
  table : UInt32 → Option Nat
  lock : Option Nat
  nextStreamId : UInt32
  streams : List Stream
  calls : List Call
  dials : List Dial
  conns : List Conn

/-- The operations of a forwarding task. -/
inductive ForwardStep where
  | take
  /-- `MuxConn::send`, which fails if the write task is gone. -/
  | pass (ok : Bool)
  /-- The end of `MuxConn::close_stream`, under the lock of the connection's table. -/
  | finish
  deriving DecidableEq, Repr

/-- The operations of a mux connection. -/
inductive ConnStep where
  | inbound (a : InboundStep)
  /-- The read task sends to `incoming_tx`. -/
  | announce
  /-- The task of `new_responder` inserts the first stream. -/
  | firstOpen
  /-- The task of `new_responder` sends to `incoming_tx`. -/
  | firstAnnounce
  /-- The registration task takes an announced stream. -/
  | takeIncoming
  deriving DecidableEq, Repr

/-- The atomic steps. -/
inductive Step where
  /-- An agent calls. -/
  | call (id : UInt32) (kind : CallKind)
  /-- A call gets the lock. -/
  | lock (k : Nat)
  /-- A `send` with the lock gets its data into the channel, or finds the receiver gone. -/
  | push (k : Nat)
  /-- `take_recv_rx`. -/
  | claim (id : UInt32)
  | bridge (i : Nat) (a : BridgeStep)
  /-- A bridge that has left its loop removes its id. -/
  | bridgeEnd (i : Nat)
  | forward (i : Nat) (a : ForwardStep)
  /-- `dial_direct` draws an id; `peer` is what the remote will send. -/
  | dialDirect (peer : Bytes)
  /-- `handle_inbound_relay`. -/
  | inboundRelay (payload peer : Bytes)
  /-- `dial_mux` has a connection, and `open_stream` draws an id. -/
  | dialMux (c : Nat)
  /-- `open_stream` inserts its sender into the connection's table. -/
  | openInsert (k : Nat)
  /-- A dial, or an inbound direct connection, inserts its entry into the manager's table. -/
  | enter (k : Nat)
  /-- `create_mux_conn`. -/
  | connectMux
  /-- `handle_inbound_mux`. -/
  | inboundMux (payload : Bytes)
  | conn (c : Nat) (a : ConnStep)
  /-- `register_mux_incoming` inserts its entry into the manager's table. -/
  | register (c : Nat)
  deriving DecidableEq, Repr

namespace Conn

def newInitiator : Conn := ⟨1, .empty, .absent, [], none, []⟩

def newResponder (payload : Bytes) : Conn := ⟨2, .empty, .pending payload, [], none, []⟩

/-- The entry with the receiver of a channel is dropped. -/
def dropUnclaimed (conn : Conn) (ch : Nat) : Conn :=
  if ch ∈ conn.claimed then conn else { conn with inbound := conn.inbound.dropReceiver ch }

/-- The operations of the receive side that stand for themselves; only who has a receiver takes data
from it or drops it. -/
def permits (conn : Conn) : InboundStep → Bool
  | .recv ch => ch ∈ conn.claimed
  | .drop ch => ch ∈ conn.claimed
  | .announce _ => false
  | .insert _ _ => false
  | .remove _ => false
  | _ => true

def step (conn : Conn) : ConnStep → Option Conn
  | .inbound a =>
    if conn.permits a then
      (conn.inbound.step a).map fun inbound => { conn with inbound := inbound }
    else none
  | .announce =>
    match conn.inbound.reader with
    -- it has given back the lock, and waits here for room in `incoming_tx`
    | .announcing ch =>
      if conn.incoming.length < channelCapacity then
        (conn.inbound.step (.announce true)).map fun inbound =>
          { conn with inbound := inbound, incoming := conn.incoming ++ [ch] }
      else none
    | _ => none
  | .firstOpen =>
    match conn.first with
    | .pending payload =>
      match parseOpen payload with
      -- a payload that is no request for a stream announces nothing
      | none => some { conn with first := .finished none }
      | some (id, _) => (conn.inbound.step (.insert id false)).map fun inbound =>
        { conn with inbound := inbound, first := .announcing conn.inbound.chans.length }
    | _ => none
  | .firstAnnounce =>
    match conn.first with
    | .announcing ch =>
      if conn.incoming.length < channelCapacity then
        some { conn with first := .finished (some ch), incoming := conn.incoming ++ [ch] }
      else none
    | _ => none
  | .takeIncoming =>
    match conn.registering, conn.incoming with
    | none, ch :: rest => some { conn with incoming := rest, registering := some ch }
    | _, _ => none

/-- `open_stream` inserts its sender, and returns the receiver. -/
def openInsert (conn : Conn) (id : UInt32) : Option Conn :=
  (conn.inbound.step (.insert id true)).map fun inbound =>
    { conn with inbound := inbound, claimed := conn.inbound.chans.length :: conn.claimed }

/-- `close_stream` removes the sender. -/
def closeStream (conn : Conn) (id : UInt32) : Option Conn :=
  (conn.inbound.step (.remove id)).map fun inbound => { conn with inbound := inbound }

end Conn

/-- The operations of a bridge that stand for themselves; only who has the receiver takes data from
it or drops it. -/
def isOwn (claimed : Bool) : BridgeStep → Bool
  | .send _ => false
  | .dropDataTx => false
  | .recv => claimed
  | .dropRecvRx => claimed
  | _ => true

namespace State

def setTask (s : State) (i : Nat) (st : Stream) (task : Task) : State :=
  { s with streams := s.streams.set i { st with task := task } }

def setCall (s : State) (k : Nat) (call : Call) (phase : CallPhase) : State :=
  { s with calls := s.calls.set k { call with phase := phase } }

def setConn (s : State) (c : Nat) (conn : Conn) : State := { s with conns := s.conns.set c conn }

/-- The connections, after the entry of a stream is dropped. -/
def dropReceiver (conns : List Conn) : Task → List Conn
  | .bridge _ _ _ => conns
  | .forwarder c ch _ _ _ => conns.modify c fun conn => conn.dropUnclaimed ch

/-- The entry under an id is dropped, if there is one. -/
def release (s : State) (id : UInt32) : State :=
  match (s.table id).bind fun i => s.streams[i]?.map fun st => (i, st) with
  | none => s
  | some (i, st) => { s.setTask i st st.task.release with conns := dropReceiver s.conns st.task }

def remove (s : State) (id : UInt32) : State :=
  { s.release id with table := Function.update s.table id none }

/-- A new stream, under its id. -/
def insert (s : State) (st : Stream) : State :=
  { s.release st.id with
    table := Function.update s.table st.id (some s.streams.length)
    streams := (s.release st.id).streams ++ [st] }

/-- What a call does when it gets the lock. -/
def acquire (s : State) (k : Nat) (call : Call) : State :=
  match call.kind with
  | .close => (s.remove call.id).setCall k call (.returned .ok)
  | .send _ =>
    match s.table call.id with
    -- the guard is dropped with the error
    | none => s.setCall k call (.returned .streamNotFound)
    -- the lock is kept until there is room in the channel
    | some i => { s with lock := some k }.setCall k call (.sending i)

/-- A `send` with the lock, at the data channel of its stream. -/
def push (s : State) (k : Nat) (call : Call) (data : Bytes) (i : Nat) (st : Stream) :
    Option State :=
  -- `data_tx.send` fails once the task behind the channel is over
  if st.task.receiverGone then
    some ({ s with lock := none }.setCall k call (.returned .sendFailed))
  else if st.task.queue.length < channelCapacity then
    some (({ s with lock := none }.setTask i st (st.task.push data)).setCall k call (.returned .ok))
  -- the channel is full: no step, and the lock stays where it is
  else none

/-- The receiver leaves the entry of a stream. -/
def claim (s : State) (i : Nat) (st : Stream) : State :=
  match st.task with
  | .bridge b _ returned => s.setTask i st (.bridge b true returned)
  | .forwarder c ch _ _ _ =>
    { s with conns := s.conns.modify c fun conn => { conn with claimed := ch :: conn.claimed } }

/-- An operation of the forwarding task of stream `i`. -/
def forward (s : State) (i : Nat) (st : Stream) (a : ForwardStep) : Option State :=
  match st.task with
  | .bridge _ _ _ => none
  | .forwarder c ch queue alive phase =>
    match a, phase, queue with
    | .take, .idle, data :: rest =>
      some (s.setTask i st (.forwarder c ch rest alive (.holding data)))
    -- `recv` returns `None` when the entry with the sender is gone
    | .take, .idle, [] =>
      if alive then none else some (s.setTask i st (.forwarder c ch [] alive .closing))
    | .pass ok, .holding _, queue =>
      some (s.setTask i st (.forwarder c ch queue alive (if ok then .idle else .closing)))
    -- `close_stream` waits for the lock that the read task may have
    | .finish, .closing, queue =>
      s.conns[c]?.bind fun conn => (conn.closeStream st.id).map fun conn =>
        (s.setConn c conn).setTask i st (.forwarder c ch queue alive .done)
    | _, _, _ => none

/-- A bridge whose remote is going to send these bytes. -/
def newBridge (peer : Bytes) : Bridge := { freshBridge [] with peer := peer }

/-- The stream that a dial enters into the table. -/
def entryOf : Dial → Option Stream
  | .direct id peer claimed => some ⟨id, .bridge (newBridge peer) claimed false⟩
  | .opened c ch id => some ⟨id, .forwarder c ch [] true .idle⟩
  | _ => none

/-- The step function. -/
def step (s : State) : Step → Option State
  | .call id kind => some { s with calls := s.calls ++ [{ id := id, kind := kind }] }
  | .lock k => s.calls[k]?.bind fun call =>
    if s.lock = none ∧ call.phase = .locking then some (s.acquire k call) else none
  | .push k => s.calls[k]?.bind fun call =>
    match call.kind, call.phase with
    | .send data, .sending i =>
      if s.lock = some k then s.streams[i]?.bind (s.push k call data i) else none
    | _, _ => none
  | .claim id => (s.table id).bind fun i => s.streams[i]?.bind fun st =>
    if s.lock = none then some (s.claim i st) else none
  | .bridge i a => s.streams[i]?.bind fun st =>
    match st.task with
    | .bridge b claimed returned =>
      if isOwn claimed a then
        (b.step a).map fun b => s.setTask i st (.bridge b claimed returned)
      else none
    | _ => none
  | .bridgeEnd i => s.streams[i]?.bind fun st =>
    match st.task with
    | .bridge b _ false =>
      -- `streams.lock().await.remove(..)` is the last thing the task does
      if s.lock = none ∧ b.phase = .closed then
        some { s.remove st.id with
          streams := (s.remove st.id).streams.modify i fun st =>
            { st with task := st.task.finish } }
      else none
    | _ => none
  | .forward i a => s.streams[i]?.bind fun st => s.forward i st a
  | .dialDirect peer => some { s with
      nextStreamId := s.nextStreamId + 1
      dials := s.dials ++ [.direct s.nextStreamId peer true] }
  | .inboundRelay payload peer => (parseOpen payload).map fun (id, _) =>
    { s with dials := s.dials ++ [.direct id peer false] }
  | .dialMux c => s.conns[c]?.map fun conn =>
    { s.setConn c { conn with nextStreamId := conn.nextStreamId + 2 } with
      dials := s.dials ++ [.opening c conn.nextStreamId] }
  | .openInsert k => s.dials[k]?.bind fun dial =>
    match dial with
    | .opening c id => s.conns[c]?.bind fun conn => (conn.openInsert id).map fun conn' =>
      { s.setConn c conn' with
        dials := s.dials.set k (.opened c conn.inbound.chans.length id) }
    | _ => none
  | .enter k => s.dials[k]?.bind fun dial => (entryOf dial).bind fun st =>
    if s.lock = none then some ({ s with dials := s.dials.set k .entered }.insert st) else none
  | .connectMux => some { s with conns := s.conns ++ [.newInitiator] }
  | .inboundMux payload => some { s with conns := s.conns ++ [.newResponder payload] }
  | .conn c a => s.conns[c]?.bind fun conn => (conn.step a).map (s.setConn c)
  | .register c => s.conns[c]?.bind fun conn => conn.registering.bind fun ch =>
    conn.inbound.chans[ch]?.bind fun chan =>
      if s.lock = none then
        -- the id is the one the remote has chosen
        some ((s.setConn c { conn with registering := none }).insert
          ⟨chan.id, .forwarder c ch [] true .idle⟩)
      else none

end State

/-- **The daemon with its locks.** -/
def machine : Machine State Step where
  init := ⟨fun _ => none, none, 1, [], [], [], []⟩
  step := State.step

/-! ## Streams that nobody drains -/

/-- The operation takes a chunk out of a channel of the bridge, or drops its receiver. -/
def bridgeDrains : BridgeStep → Bool
  | .outbound => true
  | .outboundFail => true
  | .recv => true
  | .dropRecvRx => true
  | _ => false

namespace State

/-- Stream `i` gets its data from channel `ch` of connection `c`. -/
def receivesFrom (s : State) (i c ch : Nat) : Bool :=
  (s.streams[i]?.bind fun st => st.task.link) == some (c, ch)

/-- The step takes a chunk out of a channel of stream `i`, or drops its receiver. -/
def drains (s : State) (i : Nat) : Step → Bool
  | .bridge j a => j == i && bridgeDrains a
  | .forward j .take => j == i
  | .conn c (.inbound (.recv ch)) => s.receivesFrom i c ch
  | .conn c (.inbound (.drop ch)) => s.receivesFrom i c ch
  | _ => false

/-- How much is in the receive channel of a stream. -/
def recvLength (s : State) : Task → Nat
  | .bridge b _ _ => b.recvQueue.length
  | .forwarder c ch _ _ _ =>
    match s.conns[c]?.bind fun conn => conn.inbound.chans[ch]? with
    | some chan => chan.sent.length - chan.taken
    | none => 0

/-- Both channels of the stream have room. -/
def HasRoom (s : State) (st : Stream) : Prop :=
  st.task.queue.length < channelCapacity ∧ s.recvLength st.task < channelCapacity

instance (s : State) (st : Stream) : Decidable (s.HasRoom st) :=
  inferInstanceAs (Decidable (_ ∧ _))

/-- The daemon can get to a state with `P` while nobody drains stream `i`. -/
def Reaches (s : State) (i : Nat) (P : State → Prop) : Prop :=
  ∃ as t, machine.Along (fun s a => s.drains i a = false) s as ∧ machine.run s as = some t ∧ P t

def Returned (k : Nat) (s : State) : Prop :=
  ∃ call result, s.calls[k]? = some call ∧ call.phase = .returned result

/-- The forwarding task of stream `j` is over. -/
def ForwardDone (j : Nat) (s : State) : Prop :=
  ∃ id c ch queue alive, s.streams[j]? = some ⟨id, .forwarder c ch queue alive .done⟩

/-- The read task of connection `c` is done with its first `n + 1` frames. -/
def Handled (c n : Nat) (s : State) : Prop :=
  ∃ conn, s.conns[c]? = some conn ∧ n < conn.inbound.handled.length

/-- **Stream `i` does not block others**: without anybody draining it, `send` and `close_stream` on
other streams whose channels have room, `close_stream` on itself, and the delivery of data to other
multiplexed streams whose channels have room can all be brought to their end. -/
structure BlocksNone (s : State) (i : Nat) : Prop where
  call : ∀ k call j st, s.calls[k]? = some call → s.table call.id = some j →
    s.streams[j]? = some st → (j ≠ i ∧ s.HasRoom st) ∨ (j = i ∧ call.kind = .close) →
    s.Reaches i (Returned k)
  /-- `MuxConn::close_stream`, at the end of a forwarding task. -/
  close : ∀ j id c ch queue alive conn,
    s.streams[j]? = some ⟨id, .forwarder c ch queue alive .closing⟩ → s.conns[c]? = some conn →
    (j ≠ i ∧ s.HasRoom ⟨id, .forwarder c ch queue alive .closing⟩) ∨ j = i →
    s.Reaches i (ForwardDone j)
  deliver : ∀ j id c ch queue alive phase conn n f data,
    s.streams[j]? = some ⟨id, .forwarder c ch queue alive phase⟩ → j ≠ i →
    s.HasRoom ⟨id, .forwarder c ch queue alive phase⟩ → s.conns[c]? = some conn →
    conn.inbound.table id = some ch → conn.inbound.frames[n]? = some f →
    f.parse = .streamData id data → conn.inbound.reader ≠ .terminated →
    s.Reaches i (Handled c n)

/-- **Stalled streams do not block others.** -/
def StalledBlockNone (s : State) : Prop :=
  ∀ i st, s.streams[i]? = some st → ¬ s.HasRoom st → s.BlocksNone i

end State

/-! ## What a step does -/

/-- A step of the daemon, by what it does. -/
inductive Move (s : State) : Step → State → Prop
  | call (id : UInt32) (kind : CallKind) :
    Move s (.call id kind) { s with calls := s.calls ++ [{ id := id, kind := kind }] }
  | close {k : Nat} {call : Call} (hlock : s.lock = none) (hk : s.calls[k]? = some call)
      (hphase : call.phase = .locking) (hkind : call.kind = .close) :
    Move s (.lock k) ((s.remove call.id).setCall k call (.returned .ok))
  | notFound {k : Nat} {call : Call} (hlock : s.lock = none) (hk : s.calls[k]? = some call)
      (hphase : call.phase = .locking) :
    Move s (.lock k) (s.setCall k call (.returned .streamNotFound))
  | acquire {k i : Nat} {call : Call} {data : Bytes} (hlock : s.lock = none)
      (hk : s.calls[k]? = some call) (hphase : call.phase = .locking)
      (hkind : call.kind = .send data) (htable : s.table call.id = some i) :
    Move s (.lock k) ({ s with lock := some k }.setCall k call (.sending i))
  | fail {k i : Nat} {call : Call} {st : Stream} (hlock : s.lock = some k)
      (hk : s.calls[k]? = some call) (hphase : call.phase = .sending i)
      (hi : s.streams[i]? = some st) (hgone : st.task.receiverGone = true) :
    Move s (.push k) ({ s with lock := none }.setCall k call (.returned .sendFailed))
  | push {k i : Nat} {call : Call} {st : Stream} {data : Bytes} (hlock : s.lock = some k)
      (hk : s.calls[k]? = some call) (hkind : call.kind = .send data)
      (hphase : call.phase = .sending i) (hi : s.streams[i]? = some st)
      (hroom : st.task.queue.length < channelCapacity) :
    Move s (.push k)
      (({ s with lock := none }.setTask i st (st.task.push data)).setCall k call (.returned .ok))
  | claimBridge {id : UInt32} {i : Nat} {st : Stream} {b : Bridge} {claimed returned : Bool}
      (hlock : s.lock = none) (hi : s.streams[i]? = some st)
      (htask : st.task = .bridge b claimed returned) :
    Move s (.claim id) (s.setTask i st (.bridge b true returned))
  | claimMux {id : UInt32} (c ch : Nat) (hlock : s.lock = none) :
    Move s (.claim id) { s with
      conns := s.conns.modify c fun conn => { conn with claimed := ch :: conn.claimed } }
  | bridge {i : Nat} {a : BridgeStep} {st : Stream} {b b' : Bridge} {claimed returned : Bool}
      (hi : s.streams[i]? = some st) (htask : st.task = .bridge b claimed returned)
      (hown : isOwn claimed a = true) (hstep : b.step a = some b') :
    Move s (.bridge i a) (s.setTask i st (.bridge b' claimed returned))
  | bridgeEnd {i : Nat} {st : Stream} (hlock : s.lock = none) (hi : s.streams[i]? = some st) :
    Move s (.bridgeEnd i) { s.remove st.id with
      streams := (s.remove st.id).streams.modify i fun st => { st with task := st.task.finish } }
  | forward {i c ch : Nat} {a : ForwardStep} {st : Stream} {queue queue' : List Bytes}
      {alive : Bool} {phase phase' : ForwardPhase} (hi : s.streams[i]? = some st)
      (htask : st.task = .forwarder c ch queue alive phase)
      (hqueue : queue'.length ≤ queue.length) :
    Move s (.forward i a) (s.setTask i st (.forwarder c ch queue' alive phase'))
  | finish {i c ch : Nat} {st : Stream} {queue : List Bytes} {alive : Bool} {conn conn' : Conn}
      (hi : s.streams[i]? = some st) (htask : st.task = .forwarder c ch queue alive .closing)
      (hc : s.conns[c]? = some conn) (hclose : conn.closeStream st.id = some conn') :
    Move s (.forward i .finish)
      ((s.setConn c conn').setTask i st (.forwarder c ch queue alive .done))
  /-- A direct stream is on its way. -/
  | dial {a : Step} (nextStreamId : UInt32) (dials : List Dial) :
    Move s a { s with nextStreamId := nextStreamId, dials := dials }
  | dialMux {c : Nat} {conn : Conn} (nextStreamId : UInt32) (dials : List Dial)
      (hc : s.conns[c]? = some conn) :
    Move s (.dialMux c)
      { s.setConn c { conn with nextStreamId := nextStreamId } with dials := dials }
  | openInsert {k c : Nat} {id : UInt32} {conn conn' : Conn} (dials : List Dial)
      (hc : s.conns[c]? = some conn) (hopen : conn.openInsert id = some conn') :
    Move s (.openInsert k) { s.setConn c conn' with dials := dials }
  | enter {k : Nat} {st : Stream} (dials : List Dial) (hlock : s.lock = none)
      (hqueue : st.task.queue = []) :
    Move s (.enter k) ({ s with dials := dials }.insert st)
  | connect {a : Step} {conn : Conn}
      (hconn : conn = .newInitiator ∨ ∃ payload, conn = .newResponder payload) :
    Move s a { s with conns := s.conns ++ [conn] }
  | conn {c : Nat} {a : ConnStep} {conn conn' : Conn} (hc : s.conns[c]? = some conn)
      (hstep : conn.step a = some conn') : Move s (.conn c a) (s.setConn c conn')
  | register {c ch : Nat} {id : UInt32} {conn : Conn} (hlock : s.lock = none)
      (hc : s.conns[c]? = some conn) (hregistering : conn.registering = some ch) :
    Move s (.register c) ((s.setConn c { conn with registering := none }).insert
      ⟨id, .forwarder c ch [] true .idle⟩)

section Moves

variable {s t : State} {i k c ch : Nat}

theorem queue_entryOf {dial : Dial} {st : Stream} (h : State.entryOf dial = some st) :
    st.task.queue = [] := by
  cases dial <;> cases h <;> rfl

/-- A forwarder's steps are moves. -/
theorem move_of_forward {a : ForwardStep} {st : Stream} (hi : s.streams[i]? = some st)
    (hstep : s.forward i st a = some t) : Move s (.forward i a) t := by
  unfold State.forward at hstep
  split at hstep
  · cases hstep
  · rename_i c ch queue alive phase htask
    split at hstep
    · cases hstep
      exact .forward hi htask (Nat.le_succ _)
    · split_ifs at hstep
      cases hstep
      exact .forward hi htask (Nat.le_refl _)
    · cases hstep
      exact .forward hi htask (Nat.le_refl _)
    · obtain ⟨conn, hc, hstep⟩ := Option.bind_eq_some_iff.mp hstep
      obtain ⟨conn', hclose, rfl⟩ := Option.map_eq_some_iff.mp hstep
      exact .finish hi htask hc hclose
    · cases hstep

/-- Every step is one of the moves. -/
theorem move_of_step {a : Step} (hstep : s.step a = some t) : Move s a t := by
  cases a with
  | call id kind =>
    cases hstep
    exact .call id kind
  | lock k =>
    obtain ⟨call, hk, hstep⟩ := Option.bind_eq_some_iff.mp hstep
    obtain ⟨⟨hlock, hphase⟩, hstep⟩ := Option.ite_none_right_eq_some.mp hstep
    cases hstep
    unfold State.acquire
    split
    · rename_i hkind
      exact .close hlock hk hphase hkind
    · rename_i data hkind
      split
      · exact .notFound hlock hk hphase
      · rename_i htable
        exact .acquire hlock hk hphase hkind htable
  | push k =>
    obtain ⟨call, hk, hstep⟩ := Option.bind_eq_some_iff.mp hstep
    split at hstep
    · rename_i data i hkind hphase
      obtain ⟨hlock, hstep⟩ := Option.ite_none_right_eq_some.mp hstep
      obtain ⟨st, hi, hstep⟩ := Option.bind_eq_some_iff.mp hstep
      unfold State.push at hstep
      split_ifs at hstep with hgone hroom
      · cases hstep
        exact .fail hlock hk hphase hi hgone
      · cases hstep
        exact .push hlock hk hkind hphase hi hroom
    · cases hstep
  | claim id =>
    obtain ⟨i, -, hstep⟩ := Option.bind_eq_some_iff.mp hstep
    obtain ⟨st, hi, hstep⟩ := Option.bind_eq_some_iff.mp hstep
    obtain ⟨hlock, hstep⟩ := Option.ite_none_right_eq_some.mp hstep
    cases hstep
    unfold State.claim
    split
    · rename_i htask
      exact .claimBridge hlock hi htask
    · exact .claimMux _ _ hlock
  | bridge i a =>
    obtain ⟨st, hi, hstep⟩ := Option.bind_eq_some_iff.mp hstep
    split at hstep
    · rename_i b claimed returned htask
      obtain ⟨hown, hstep⟩ := Option.ite_none_right_eq_some.mp hstep
      obtain ⟨b', hb, rfl⟩ := Option.map_eq_some_iff.mp hstep
      exact .bridge hi htask hown hb
    · cases hstep
  | bridgeEnd i =>
    obtain ⟨st, hi, hstep⟩ := Option.bind_eq_some_iff.mp hstep
    split at hstep
    · obtain ⟨⟨hlock, -⟩, hstep⟩ := Option.ite_none_right_eq_some.mp hstep
      cases hstep
      exact .bridgeEnd hlock hi
    · cases hstep
  | forward i a =>
    obtain ⟨st, hi, hstep⟩ := Option.bind_eq_some_iff.mp hstep
    exact move_of_forward hi hstep
  | dialDirect peer =>
    cases hstep
    exact .dial _ _
  | inboundRelay payload peer =>
    obtain ⟨_, -, rfl⟩ := Option.map_eq_some_iff.mp hstep
    exact .dial _ _
  | dialMux c =>
    obtain ⟨conn, hc, rfl⟩ := Option.map_eq_some_iff.mp hstep
    exact .dialMux _ _ hc
  | openInsert k =>
    obtain ⟨dial, -, hstep⟩ := Option.bind_eq_some_iff.mp hstep
    split at hstep
    · obtain ⟨conn, hc, hstep⟩ := Option.bind_eq_some_iff.mp hstep
      obtain ⟨conn', hopen, rfl⟩ := Option.map_eq_some_iff.mp hstep
      exact .openInsert _ hc hopen
    · cases hstep
  | enter k =>
    obtain ⟨dial, -, hstep⟩ := Option.bind_eq_some_iff.mp hstep
    obtain ⟨st, hentry, hstep⟩ := Option.bind_eq_some_iff.mp hstep
    obtain ⟨hlock, hstep⟩ := Option.ite_none_right_eq_some.mp hstep
    cases hstep
    exact .enter _ hlock (queue_entryOf hentry)
  | connectMux =>
    cases hstep
    exact .connect (Or.inl rfl)
  | inboundMux payload =>
    cases hstep
    exact .connect (Or.inr ⟨payload, rfl⟩)
  | conn c a =>
    obtain ⟨conn, hc, hstep⟩ := Option.bind_eq_some_iff.mp hstep
    obtain ⟨conn', hconn, rfl⟩ := Option.map_eq_some_iff.mp hstep
    exact .conn hc hconn
  | register c =>
    obtain ⟨conn, hc, hstep⟩ := Option.bind_eq_some_iff.mp hstep
    obtain ⟨ch, hregistering, hstep⟩ := Option.bind_eq_some_iff.mp hstep
    obtain ⟨chan, -, hstep⟩ := Option.bind_eq_some_iff.mp hstep
    obtain ⟨hlock, hstep⟩ := Option.ite_none_right_eq_some.mp hstep
    cases hstep
    exact .register hlock hc hregistering

theorem afterRead_frame (b : Bridge) (bytes : Bytes) :
    (b.afterRead bytes).dataRx = b.dataRx := by
  unfold Bridge.afterRead
  split <;> rfl

/-- A bridge takes data from its channel only in its loop, and never puts any there. -/
theorem dataRx_of_step {claimed : Bool} {b b' : Bridge} {a : BridgeStep}
    (hown : isOwn claimed a = true) (hstep : b.step a = some b') :
    b'.dataRx = b.dataRx ∨
      (bridgeDrains a = true ∧ b.phase = .selecting ∧ b'.dataRx.length ≤ b.dataRx.length) := by
  cases a with
  | send data | dropDataTx => cases hown
  | dropRecvRx =>
    cases hstep
    exact Or.inl rfl
  | arrive n | peerClose | readEof | outboundEnd =>
    obtain ⟨-, hstep⟩ := Option.ite_none_right_eq_some.mp hstep
    cases hstep
    exact Or.inl rfl
  | recv =>
    simp only [Bridge.step] at hstep
    split at hstep
    · obtain ⟨-, hstep⟩ := Option.ite_none_right_eq_some.mp hstep
      cases hstep
      exact Or.inl rfl
    · cases hstep
  | pollRead =>
    simp only [Bridge.step] at hstep
    split at hstep
    · cases hstep
      exact Or.inl (afterRead_frame _ _)
    · cases hstep
  | outbound | outboundFail =>
    simp only [Bridge.step] at hstep
    split at hstep
    · rename_i hphase hdata
      cases hstep
      refine Or.inr ⟨rfl, hphase, ?_⟩
      rw [hdata]
      exact Nat.le_succ _
    · cases hstep
  | deliver =>
    simp only [Bridge.step] at hstep
    split at hstep
    · split_ifs at hstep
      · cases hstep
        exact Or.inl rfl
      · cases hstep
        exact Or.inl rfl
    · cases hstep

/-- A bridge that has left its loop does not come back. -/
theorem closed_of_step {b b' : Bridge} {a : BridgeStep} (hclosed : b.phase = .closed)
    (hstep : b.step a = some b') : b'.phase = .closed := by
  cases a with
  | pollRead | outbound | outboundFail | deliver | readEof | outboundEnd =>
    simp [Bridge.step, hclosed] at hstep
  | dropDataTx | dropRecvRx =>
    cases hstep
    exact hclosed
  | arrive n | peerClose | send data =>
    obtain ⟨-, hstep⟩ := Option.ite_none_right_eq_some.mp hstep
    cases hstep
    exact hclosed
  | recv =>
    simp only [Bridge.step] at hstep
    split at hstep
    · obtain ⟨-, hstep⟩ := Option.ite_none_right_eq_some.mp hstep
      cases hstep
      exact hclosed
    · cases hstep

end Moves

/-! ## The lock of the manager -/

/-- A direct stream whose data channel is full. Whether its bridge has left the loop is said if
`closed` is set. -/
def Stream.Full (closed : Bool) (st : Stream) : Prop :=
  ∃ b claimed, st.task = .bridge b claimed false ∧ channelCapacity ≤ b.dataRx.length ∧
    (closed = true → b.phase = .closed)

instance (closed : Bool) (st : Stream) : Decidable (st.Full closed) :=
  match h : st.task with
  | .bridge b _ false =>
    decidable_of_iff (channelCapacity ≤ b.dataRx.length ∧ (closed = true → b.phase = .closed))
      (by simp [Stream.Full, h])
  | .bridge _ _ true => isFalse (by simp [Stream.Full, h])
  | .forwarder _ _ _ _ _ => isFalse (by simp [Stream.Full, h])

/-- **A `send` that waits with the lock**: call `k` has the lock, and the data channel of stream
`i`, a direct one, is full. -/
structure Waits (closed : Bool) (k i : Nat) (s : State) : Prop where
  lock : s.lock = some k
  call : ∃ call, s.calls[k]? = some call ∧ call.phase = .sending i
  stream : ∃ st, s.streams[i]? = some st ∧ st.Full closed

namespace Waits

variable {closed : Bool} {s t : State} {k i : Nat} {a : Step}

/-- Nobody gets the lock. -/
theorem not_none (h : Waits closed k i s) (hlock : s.lock = none) : False := by
  cases h.lock.symm.trans hlock

/-- The `send` that has the lock finds its stream full. -/
theorem full_of_sending (h : Waits closed k i s) {k' j : Nat} {call : Call} {st : Stream}
    (hlock : s.lock = some k') (hk : s.calls[k']? = some call) (hphase : call.phase = .sending j)
    (hj : s.streams[j]? = some st) : st.Full closed := by
  obtain rfl : k' = k := Option.some.inj (hlock.symm.trans h.lock)
  obtain ⟨call', hk', hphase'⟩ := h.call
  obtain rfl : call = call' := Option.some.inj (hk.symm.trans hk')
  obtain rfl : j = i := CallPhase.sending.inj (hphase.symm.trans hphase')
  obtain ⟨st', hi, hfull⟩ := h.stream
  obtain rfl : st = st' := Option.some.inj (hj.symm.trans hi)
  exact hfull

/-- The lock, the calls and the stream stay as they are. -/
theorem of_same (h : Waits closed k i s) (hlock : t.lock = s.lock) (hcalls : t.calls = s.calls)
    (hstreams : t.streams = s.streams) : Waits closed k i t where
  lock := hlock.trans h.lock
  call := hcalls ▸ h.call
  stream := hstreams ▸ h.stream

/-- A stream goes on; if it is the full one, it stays full. -/
theorem setTask (h : Waits closed k i s) {j : Nat} {st : Stream} {task : Task}
    (hj : s.streams[j]? = some st)
    (hfull : i = j → st.Full closed → Stream.Full closed { st with task := task }) :
    Waits closed k i (s.setTask j st task) where
  lock := h.lock
  call := h.call
  stream := Tasks.exists_set hj hfull h.stream

/-- **As long as nobody drains the stream, the `send` waits**, and no call gets any further. If the
bridge has left its loop, nobody ever does. -/
theorem step (h : Waits closed k i s) (hdrains : closed = true ∨ s.drains i a = false)
    (hstep : s.step a = some t) : Waits closed k i t ∧ s.calls <+: t.calls := by
  cases move_of_step hstep with
  | call id kind =>
    refine ⟨⟨h.lock, ?_, h.stream⟩, List.prefix_append _ _⟩
    obtain ⟨call, hk, hphase⟩ := h.call
    exact ⟨call, Tasks.append_of_some hk, hphase⟩
  -- all who need the lock
  | close hlock | notFound hlock | acquire hlock | claimBridge hlock | claimMux _ _ hlock
  | bridgeEnd hlock | enter _ hlock | register hlock => exact (h.not_none hlock).elim
  -- the bridge has not returned: it would have had to take the lock for that
  | fail hlock hk hphase hj hgone =>
    obtain ⟨b, claimed, htask, -, -⟩ := h.full_of_sending hlock hk hphase hj
    rw [htask] at hgone
    cases hgone
  -- there is no room
  | push hlock hk hkind hphase hj hroom =>
    obtain ⟨b, claimed, htask, hfull, -⟩ := h.full_of_sending hlock hk hphase hj
    rw [htask] at hroom
    exact absurd hroom (Nat.not_lt.mpr hfull)
  | @bridge j a st b b' claimed returned hj htask hown hb =>
    refine ⟨h.setTask hj fun hij hfull => ?_, List.prefix_rfl⟩
    subst hij
    obtain ⟨b₀, claimed₀, htask₀, hlength, hclosed⟩ := hfull
    obtain ⟨rfl, rfl, rfl⟩ := Task.bridge.inj (htask.symm.trans htask₀)
    refine ⟨b', claimed, rfl, ?_, fun h => closed_of_step (hclosed h) hb⟩
    rcases dataRx_of_step hown hb with hsame | ⟨hdrain, hphase, -⟩
    · rw [hsame]
      exact hlength
    · -- only the loop of the bridge takes data from the channel
      exfalso
      rcases hdrains with hset | hnone
      · cases hphase.symm.trans (hclosed hset)
      · simp [State.drains, hdrain] at hnone
  -- the full stream is a direct one, and this one is not
  | forward hj htask =>
    refine ⟨h.setTask hj fun _ hfull => ?_, List.prefix_rfl⟩
    obtain ⟨b, claimed, hbridge, -⟩ := hfull
    cases htask.symm.trans hbridge
  | @finish j c ch st queue alive conn conn' hj htask =>
    have hconn : Waits closed k i (s.setConn c conn') := h.of_same rfl rfl rfl
    refine ⟨hconn.setTask hj fun _ hfull => ?_, List.prefix_rfl⟩
    obtain ⟨b, claimed, hbridge, -⟩ := hfull
    cases htask.symm.trans hbridge
  | dial | dialMux | openInsert | connect | conn =>
    exact ⟨h.of_same rfl rfl rfl, List.prefix_rfl⟩

end Waits

/-- **A stalled stream locks the table**: while nobody drains it, no call gets any further. -/
theorem waits_of_run {s t : State} {k i : Nat} {as : List Step} (h : Waits false k i s)
    (halong : machine.Along (fun s a => s.drains i a = false) s as)
    (hrun : machine.run s as = some t) : Waits false k i t ∧ s.calls <+: t.calls := by
  refine machine.along_invariant (I := fun u => Waits false k i u ∧ s.calls <+: u.calls)
    (fun u a v hu hdrains hstep => ?_) ⟨h, List.prefix_rfl⟩ halong hrun
  obtain ⟨hwaits, hcalls⟩ := hu.1.step (Or.inr hdrains) hstep
  exact ⟨hwaits, hu.2.trans hcalls⟩

/-- A call that waits for the lock does not return while nobody drains the stream. -/
theorem Waits.not_reaches {s : State} {k k' i : Nat} {call : Call} (h : Waits false k i s)
    (hk : s.calls[k']? = some call) (hphase : call.phase = .locking) :
    ¬ s.Reaches i (State.Returned k') := by
  rintro ⟨as, t, halong, hrun, call', result, hk', hreturned⟩
  obtain ⟨new, hnew⟩ := (waits_of_run h halong hrun).2
  rw [← hnew, List.getElem?_append_left (List.getElem?_eq_some_iff.mp hk).1, hk] at hk'
  obtain rfl := Option.some.inj hk'
  cases hphase.symm.trans hreturned

/-- **A deadlock**: the `send` waits for room in the channel of a bridge that has left its loop, and
the bridge waits for the lock. The table is never unlocked again. -/
theorem waits_of_run_of_closed {s t : State} {k i : Nat} {as : List Step} (h : Waits true k i s)
    (hrun : machine.run s as = some t) : Waits true k i t ∧ s.calls <+: t.calls := by
  refine machine.run_invariant (I := fun u => Waits true k i u ∧ s.calls <+: u.calls)
    (fun u a v hu hstep => ?_) ⟨h, List.prefix_rfl⟩ hrun
  obtain ⟨hwaits, hcalls⟩ := hu.1.step (Or.inl rfl) hstep
  exact ⟨hwaits, hu.2.trans hcalls⟩

/-! ## The lock of a connection -/

/-- **A read task that waits with the lock** for room in channel `ch`, whose receiver was handed
out. It is done with the frames `handled`. -/
structure Conn.Stuck (ch : Nat) (handled : List InFrame) (conn : Conn) : Prop where
  reader : ∃ f data, conn.inbound.reader = .sending f ch data
  chan : ∃ chan, conn.inbound.chans[ch]? = some chan ∧ chan.dropped = false ∧
    chan.taken + channelCapacity ≤ chan.sent.length
  handled : conn.inbound.handled = handled
  claimed : ch ∈ conn.claimed

namespace Conn.Stuck

variable {ch : Nat} {handled : List InFrame} {conn conn' : Conn}

/-- The lock of the table is taken. -/
theorem locked (h : conn.Stuck ch handled) : conn.inbound.locked = true := by
  obtain ⟨f, data, hreader⟩ := h.reader
  rw [Inbound.locked, hreader]

theorem not_insert (h : conn.Stuck ch handled) (id : UInt32) (own : Bool) :
    conn.inbound.step (.insert id own) = none := by
  simp [Inbound.step, h.locked]

theorem not_remove (h : conn.Stuck ch handled) (id : UInt32) :
    conn.inbound.step (.remove id) = none := by
  simp [Inbound.step, h.locked]

/-- Another channel loses its receiver. -/
theorem dropReceiver (h : conn.Stuck ch handled) {ch' : Nat} (hne : ch' ≠ ch) :
    { conn with inbound := conn.inbound.dropReceiver ch' }.Stuck ch handled where
  reader := by
    obtain ⟨f, data, hreader⟩ := h.reader
    exact ⟨f, data, (Demux.reader_dropReceiver _ _).trans hreader⟩
  chan := by
    obtain ⟨chan, hchan, hopen, hfull⟩ := h.chan
    refine ⟨chan, ?_, hopen, hfull⟩
    unfold Inbound.dropReceiver
    split
    · exact (List.getElem?_set_ne hne).trans hchan
    · exact hchan
  handled := (Demux.handled_dropReceiver _ _).trans h.handled
  claimed := h.claimed

/-- The entry of a stream is dropped, which may have the receiver of another channel. -/
theorem dropUnclaimed (h : conn.Stuck ch handled) (ch' : Nat) :
    (conn.dropUnclaimed ch').Stuck ch handled := by
  unfold Conn.dropUnclaimed
  split_ifs with hclaimed
  · exact h
  · exact h.dropReceiver fun heq => hclaimed (heq ▸ h.claimed)

/-- An operation of the receive side that does not drain the channel. -/
theorem inbound (h : conn.Stuck ch handled) {a : InboundStep} {inbound : Inbound}
    (hrecv : a ≠ .recv ch) (hdrop : a ≠ .drop ch) (hstep : conn.inbound.step a = some inbound) :
    { conn with inbound := inbound }.Stuck ch handled := by
  obtain ⟨f, data, hreader⟩ := h.reader
  obtain ⟨chan, hchan, hopen, hfull⟩ := h.chan
  cases a with
  | arrive f' =>
    cases hstep
    exact ⟨h.reader, h.chan, h.handled, h.claimed⟩
  | read | lock | announce _ | fail => simp [Inbound.step, hreader] at hstep
  | insert id own => cases (h.not_insert id own).symm.trans hstep
  | remove id => cases (h.not_remove id).symm.trans hstep
  | deliver =>
    -- the channel is full, and its receiver is there
    have hroom : ¬ chan.sent.length < chan.taken + channelCapacity := Nat.not_lt.mpr hfull
    simp [Inbound.step, hreader, hchan, hopen, hroom] at hstep
  | recv ch' =>
    have hne : ch' ≠ ch := fun heq => hrecv (heq ▸ rfl)
    cases Demux.move_of_step hstep with
    | recv hc =>
      exact ⟨h.reader, ⟨chan, (List.getElem?_set_ne hne).trans hchan, hopen, hfull⟩, h.handled,
        h.claimed⟩
  | drop ch' =>
    have hne : ch' ≠ ch := fun heq => hdrop (heq ▸ rfl)
    cases Demux.move_of_step hstep with
    | drop => exact h.dropReceiver hne

/-- An operation of the connection that does not drain the channel. -/
theorem step (h : conn.Stuck ch handled) {a : ConnStep} (hrecv : a ≠ .inbound (.recv ch))
    (hdrop : a ≠ .inbound (.drop ch)) (hstep : conn.step a = some conn') :
    conn'.Stuck ch handled := by
  obtain ⟨f, data, hreader⟩ := h.reader
  cases a with
  | inbound a =>
    obtain ⟨-, hstep⟩ := Option.ite_none_right_eq_some.mp hstep
    obtain ⟨inbound, hinbound, rfl⟩ := Option.map_eq_some_iff.mp hstep
    exact h.inbound (fun heq => hrecv (heq ▸ rfl)) (fun heq => hdrop (heq ▸ rfl)) hinbound
  | announce => simp [Conn.step, hreader] at hstep
  | firstOpen =>
    simp only [Conn.step] at hstep
    split at hstep
    · split at hstep
      · cases hstep
        exact ⟨h.reader, h.chan, h.handled, h.claimed⟩
      · obtain ⟨inbound, hinsert, -⟩ := Option.map_eq_some_iff.mp hstep
        cases (h.not_insert _ _).symm.trans hinsert
    · cases hstep
  | firstAnnounce =>
    simp only [Conn.step] at hstep
    split at hstep
    · obtain ⟨-, hstep⟩ := Option.ite_none_right_eq_some.mp hstep
      cases hstep
      exact ⟨h.reader, h.chan, h.handled, h.claimed⟩
    · cases hstep
  | takeIncoming =>
    simp only [Conn.step] at hstep
    split at hstep
    · cases hstep
      exact ⟨h.reader, h.chan, h.handled, h.claimed⟩
    · cases hstep

end Conn.Stuck

section Links

variable {s t : State} {a : Step} {i c ch : Nat}

/-- What is dropped with an entry. -/
theorem release_cases (s : State) (id : UInt32) : s.release id = s ∨
    ∃ i st, s.table id = some i ∧ s.streams[i]? = some st ∧ s.release id =
      { s.setTask i st st.task.release with conns := State.dropReceiver s.conns st.task } := by
  unfold State.release
  split
  · exact Or.inl rfl
  · rename_i i st hentry
    obtain ⟨j, htable, hentry⟩ := Option.bind_eq_some_iff.mp hentry
    obtain ⟨st', hj, heq⟩ := Option.map_eq_some_iff.mp hentry
    cases heq
    exact Or.inr ⟨i, st, htable, hj, rfl⟩

/-- Stream `i` is the stream `id`, and a multiplexed one if `link` says so. -/
def IsStream (id : UInt32) (link : Option (Nat × Nat)) (st : Stream) : Prop :=
  st.id = id ∧ st.task.link = link

theorem isStream_setTask {id : UInt32} {link : Option (Nat × Nat)} {j : Nat} {st : Stream}
    {task : Task} (hj : s.streams[j]? = some st) (htask : task.link = st.task.link)
    (h : ∃ x, s.streams[i]? = some x ∧ IsStream id link x) :
    ∃ x, (s.setTask j st task).streams[i]? = some x ∧ IsStream id link x :=
  Tasks.exists_set hj (fun _ hst => ⟨hst.1, htask.trans hst.2⟩) h

theorem isStream_release {id : UInt32} {link : Option (Nat × Nat)} (id' : UInt32)
    (h : ∃ x, s.streams[i]? = some x ∧ IsStream id link x) :
    ∃ x, (s.release id').streams[i]? = some x ∧ IsStream id link x := by
  rcases release_cases s id' with hsame | ⟨j, st, -, hj, hsome⟩
  · rw [hsame]
    exact h
  · rw [hsome]
    refine isStream_setTask hj ?_ h
    cases st.task <;> rfl

/-- A stream keeps its id and its connection. -/
theorem isStream_of_step {id : UInt32} {link : Option (Nat × Nat)}
    (h : ∃ x, s.streams[i]? = some x ∧ IsStream id link x) (hstep : s.step a = some t) :
    ∃ x, t.streams[i]? = some x ∧ IsStream id link x := by
  have happend : ∀ {l : List Stream} (st : Stream), (∃ x, l[i]? = some x ∧ IsStream id link x) →
      ∃ x, (l ++ [st])[i]? = some x ∧ IsStream id link x := by
    rintro l st ⟨x, hx, hst⟩
    exact ⟨x, Tasks.append_of_some hx, hst⟩
  cases move_of_step hstep with
  | close => exact isStream_release _ h
  | push _ _ _ _ hj =>
    refine isStream_setTask (s := s) hj ?_ h
    unfold Task.push
    split <;> rename_i htask <;> rw [htask] <;> rfl
  | claimBridge _ hj htask | bridge hj htask | forward hj htask | finish hj htask =>
    exact isStream_setTask (s := s) hj (by rw [htask]; rfl) h
  | bridgeEnd hlock hj =>
    refine Tasks.exists_modify _ (fun x hx => ⟨hx.1, ?_⟩) (isStream_release _ h)
    rw [← hx.2]
    cases x.task <;> rfl
  | enter dials => exact happend _ (isStream_release (s := { s with dials := dials }) _ h)
  | @register c ch id' conn =>
    exact happend _ (isStream_release
      (s := s.setConn c { conn with registering := none }) _ h)
  | call | notFound | acquire | fail | claimMux | dial | dialMux | openInsert | connect | conn =>
    exact h

/-- What a connection keeps when the entry of a stream is dropped. -/
theorem exists_conn_release {P : Conn → Prop} (id : UInt32)
    (hkeep : ∀ conn ch, P conn → P (conn.dropUnclaimed ch))
    (h : ∃ conn, s.conns[c]? = some conn ∧ P conn) :
    ∃ conn, (s.release id).conns[c]? = some conn ∧ P conn := by
  rcases release_cases s id with hsame | ⟨j, st, -, -, hsome⟩
  · rw [hsame]
    exact h
  · rw [hsome]
    show ∃ conn, (State.dropReceiver s.conns st.task)[c]? = some conn ∧ P conn
    unfold State.dropReceiver
    split
    · exact h
    · exact Tasks.exists_modify _ (fun conn => hkeep conn _) h

end Links

/-- **A read task that waits with the lock** for room in the receive channel of stream `i`. -/
structure Stuck (i c ch : Nat) (handled : List InFrame) (s : State) : Prop where
  stream : ∃ id st, s.streams[i]? = some st ∧ IsStream id (some (c, ch)) st
  conn : ∃ conn, s.conns[c]? = some conn ∧ conn.Stuck ch handled

/-- Only a drain of its stream frees a stuck read task. -/
theorem Stuck.step {s t : State} {a : Step} {i c ch : Nat} {handled : List InFrame}
    (h : Stuck i c ch handled s) (hdrains : s.drains i a = false) (hstep : s.step a = some t) :
    Stuck i c ch handled t := by
  obtain ⟨id, hstream⟩ := h.stream
  refine ⟨⟨id, isStream_of_step hstream hstep⟩, ?_⟩
  have hreceives : s.receivesFrom i c ch = true := by
    obtain ⟨st, hi, -, hlink⟩ := hstream
    simp [State.receivesFrom, hi, hlink]
  have hset : ∀ {d : Nat} {conn conn' : Conn}, s.conns[d]? = some conn →
      (c = d → conn.Stuck ch handled → conn'.Stuck ch handled) →
      ∃ x, (s.conns.set d conn')[c]? = some x ∧ x.Stuck ch handled :=
    fun hd hkeep => Tasks.exists_set hd hkeep h.conn
  have hrelease : ∀ {u : State} (id : UInt32),
      (∃ conn, u.conns[c]? = some conn ∧ conn.Stuck ch handled) →
      ∃ conn, (u.release id).conns[c]? = some conn ∧ conn.Stuck ch handled :=
    fun id => exists_conn_release id fun conn ch' hstuck => hstuck.dropUnclaimed ch'
  cases move_of_step hstep with
  | close | bridgeEnd => exact hrelease _ h.conn
  | claimMux d ch' =>
    refine Tasks.exists_modify d (fun conn hconn => ?_) h.conn
    exact ⟨hconn.reader, hconn.chan, hconn.handled, List.mem_cons_of_mem _ hconn.claimed⟩
  -- a `close_stream` on the connection of the read task waits as well
  | finish _ _ hd hclose =>
    refine hset hd fun _ hstuck => ?_
    obtain ⟨inbound, hremove, -⟩ := Option.map_eq_some_iff.mp hclose
    cases (hstuck.not_remove _).symm.trans hremove
  | dialMux _ _ hd =>
    exact hset hd fun _ hstuck => ⟨hstuck.reader, hstuck.chan, hstuck.handled, hstuck.claimed⟩
  -- and so does an `open_stream`
  | openInsert _ hd hopen =>
    refine hset hd fun _ hstuck => ?_
    obtain ⟨inbound, hinsert, -⟩ := Option.map_eq_some_iff.mp hopen
    cases (hstuck.not_insert _ _).symm.trans hinsert
  | enter dials => exact hrelease (u := { s with dials := dials }) _ h.conn
  | connect =>
    obtain ⟨conn, hc, hstuck⟩ := h.conn
    exact ⟨conn, Tasks.append_of_some hc, hstuck⟩
  | @conn d a conn conn' hd hconn =>
    refine hset hd fun hcd hstuck => hstuck.step ?_ ?_ hconn
    -- to take from the channel or to drop its receiver is to drain the stream
    · rintro rfl
      subst hcd
      cases hreceives.symm.trans hdrains
    · rintro rfl
      subst hcd
      cases hreceives.symm.trans hdrains
  | @register d ch' id' conn hlock hd =>
    refine hrelease (u := s.setConn d { conn with registering := none }) _ (hset hd ?_)
    exact fun _ hstuck => ⟨hstuck.reader, hstuck.chan, hstuck.handled, hstuck.claimed⟩
  | call | notFound | acquire | fail | push | claimBridge | bridge | forward | dial => exact h.conn

/-- **A stalled stream stops its connection**: while nobody drains it, the read task handles no
frame. -/
theorem stuck_of_run {s t : State} {i c ch : Nat} {handled : List InFrame} {as : List Step}
    (h : Stuck i c ch handled s) (halong : machine.Along (fun s a => s.drains i a = false) s as)
    (hrun : machine.run s as = some t) : Stuck i c ch handled t :=
  machine.along_invariant (fun _ _ _ hs hdrains hstep => hs.step hdrains hstep) h halong hrun

/-- No further frame is handled while nobody drains the stream. -/
theorem Stuck.not_reaches {s : State} {i c ch n : Nat} {handled : List InFrame}
    (h : Stuck i c ch handled s) (hn : handled.length ≤ n) :
    ¬ s.Reaches i (State.Handled c n) := by
  rintro ⟨as, t, halong, hrun, conn, hc, hlt⟩
  obtain ⟨conn', hc', hstuck⟩ := (stuck_of_run h halong hrun).conn
  obtain rfl : conn = conn' := Option.some.inj (hc.symm.trans hc')
  rw [hstuck.handled] at hlt
  exact absurd hn (Nat.not_le.mpr hlt)

/-! ## One slow agent -/

/-- Calls `0` to `63` fill the data channel of stream `1`. -/
def fillSteps : List Step :=
  (List.range channelCapacity).flatMap fun k => [.call 1 (.send []), .lock k, .push k]

/-- Two direct streams, `1` and `2`; the channel of stream `1` is filled. -/
def stalledSteps : List Step :=
  .dialDirect [] :: .enter 0 :: .dialDirect [] :: .enter 1 :: fillSteps

/-- A further `send` on stream `1` gets the lock. Then come a `send` and a `close_stream` on stream
`2` and a `close_stream` on stream `1`. -/
def lockedSteps : List Step :=
  stalledSteps ++
    [.call 1 (.send []), .lock channelCapacity, .call 2 (.send []), .call 2 .close, .call 1 .close]

/-- A data frame. -/
def dataFrame (id : UInt32) : InFrame := ⟨.streamData, toBeBytes id, 0⟩

/-- Operations of the receive side of connection `0`. -/
def onInbound (as : List InboundStep) : List Step := as.map fun a => .conn 0 (.inbound a)

/-- Frames fill the receive channel of stream `1`. -/
def floodSteps : List Step :=
  (List.range channelCapacity).flatMap fun _ =>
    onInbound [.arrive (dataFrame 1), .read, .lock, .deliver]

/-- Two streams of one connection, `1` and `3`. The receive channel of stream `1` is filled, the
read task takes a further frame for it, and then comes one for stream `3`. -/
def headOfLineSteps : List Step :=
  .connectMux :: .dialMux 0 :: .openInsert 0 :: .enter 0 :: .dialMux 0 :: .openInsert 1 ::
    .enter 1 :: floodSteps ++
    onInbound [.arrive (dataFrame 1), .read, .lock, .arrive (dataFrame 3)]

/-- The further `send` waits, and so do the calls behind it. -/
theorem waits_lockedSteps : ∃ s, machine.run machine.init lockedSteps = some s ∧
    Waits false 64 0 s ∧ s.table 2 = some 1 ∧ (∃ st ∈ s.streams[1]?, s.HasRoom st) ∧
    s.calls.drop 65 = [⟨2, .send [], .locking⟩, ⟨2, .close, .locking⟩, ⟨1, .close, .locking⟩] := by
  obtain ⟨s, hrun, hlock, hcall, hstream, hother⟩ := machine.exists_run lockedSteps
    (fun s => s.lock = some 64 ∧ (∃ call : Call, call ∈ s.calls[64]? ∧ call.phase = .sending 0) ∧
      (∃ st : Stream, st ∈ s.streams[0]? ∧ st.Full false) ∧ s.table 2 = some 1 ∧
      (∃ st : Stream, st ∈ s.streams[1]? ∧ s.HasRoom st) ∧ s.calls.drop 65
        = [⟨2, .send [], .locking⟩, ⟨2, .close, .locking⟩, ⟨1, .close, .locking⟩])
    (by decide +kernel)
  exact ⟨s, hrun, ⟨hlock, hcall, hstream⟩, hother⟩

/-- The read task waits, and the frame for the other stream is behind. -/
theorem stuck_headOfLineSteps : ∃ s, machine.run machine.init headOfLineSteps = some s ∧
    Stuck 0 0 0 (List.replicate 64 (dataFrame 1)) s ∧
    (∃ st ∈ s.streams[0]?, ¬ s.HasRoom st) ∧
    s.streams[1]? = some ⟨3, .forwarder 0 1 [] true .idle⟩ ∧
    s.HasRoom ⟨3, .forwarder 0 1 [] true .idle⟩ ∧
    ∃ conn ∈ s.conns[0]?, conn.inbound.table 3 = some 1 ∧
      conn.inbound.frames[65]? = some (dataFrame 3) := by
  obtain ⟨s, hrun, hstream, hconn, hother⟩ := machine.exists_run headOfLineSteps
    (fun s => (∃ st : Stream, st ∈ s.streams[0]? ∧ st.id = 1 ∧ st.task.link = some (0, 0)) ∧
      (∃ conn : Conn, conn ∈ s.conns[0]? ∧ conn.inbound.reader = .sending (dataFrame 1) 0 [] ∧
        (∃ chan : Demux.Chan, chan ∈ conn.inbound.chans[0]? ∧ chan.dropped = false ∧
          chan.taken + channelCapacity ≤ chan.sent.length) ∧
        conn.inbound.handled = List.replicate 64 (dataFrame 1) ∧ 0 ∈ conn.claimed) ∧
      (∃ st : Stream, st ∈ s.streams[0]? ∧ ¬ s.HasRoom st) ∧
      s.streams[1]? = some ⟨3, .forwarder 0 1 [] true .idle⟩ ∧
      s.HasRoom ⟨3, .forwarder 0 1 [] true .idle⟩ ∧
      ∃ conn : Conn, conn ∈ s.conns[0]? ∧ conn.inbound.table 3 = some 1 ∧
        conn.inbound.frames[65]? = some (dataFrame 3))
    (by decide +kernel)
  obtain ⟨conn, hc, hreader, hchan, hhandled, hclaimed⟩ := hconn
  exact ⟨s, hrun, ⟨⟨1, hstream⟩, conn, hc, ⟨_, _, hreader⟩, hchan, hhandled, hclaimed⟩, hother⟩

/-- **A stalled stream blocks others.** When a `send` waits for room in a data channel, with the
lock, no other call returns: not a `send` on a stream with room, not its `close_stream`, and not the
`close_stream` of the stalled stream. When the read task waits for room in a receive channel, with
the lock, it does not deliver to another stream of the connection. -/
theorem stalledBlockNone_fails :
    (∃ s, machine.run machine.init lockedSteps = some s ∧
      s.calls.drop 65 = [⟨2, .send [], .locking⟩, ⟨2, .close, .locking⟩, ⟨1, .close, .locking⟩] ∧
      (∀ k < 3, ¬ s.Reaches 0 (State.Returned (65 + k))) ∧ ¬ s.StalledBlockNone) ∧
    (∃ s, machine.run machine.init headOfLineSteps = some s ∧
      (∃ conn ∈ s.conns[0]?, conn.inbound.frames[65]? = some (dataFrame 3)) ∧
      ¬ s.Reaches 0 (State.Handled 0 65) ∧ ¬ s.StalledBlockNone) := by
  constructor
  · obtain ⟨s, hrun, hwaits, htable, ⟨st, hst, hroom⟩, hcalls⟩ := waits_lockedSteps
    have hblocked : ∀ k < 3, ¬ s.Reaches 0 (State.Returned (65 + k)) := by
      intro k hk
      have hcall : s.calls[65 + k]? = (s.calls.drop 65)[k]? := List.getElem?_drop.symm
      rw [hcalls] at hcall
      match k, hk with
      | 0, _ | 1, _ | 2, _ => exact hwaits.not_reaches hcall rfl
    refine ⟨s, hrun, hcalls, hblocked, fun hnone => ?_⟩
    obtain ⟨full, hfull, b, claimed, htask, hlength, -⟩ := hwaits.stream
    have hstalled : ¬ s.HasRoom full := by
      rintro ⟨hqueue, -⟩
      rw [htask] at hqueue
      exact absurd hqueue (Nat.not_lt.mpr hlength)
    have hcall : s.calls[65]? = some ⟨2, .send [], .locking⟩ :=
      (List.getElem?_drop (i := 65) (j := 0)).symm.trans (by rw [hcalls]; rfl)
    exact hblocked 0 (by decide) ((hnone 0 full hfull hstalled).call 65 _ 1 st hcall htable hst
      (Or.inl ⟨by decide, hroom⟩))
  · obtain ⟨s, hrun, hstuck, ⟨st, hst, hstalled⟩, hother, hroom, conn, hc, htable, hframe⟩ :=
      stuck_headOfLineSteps
    have hblocked : ¬ s.Reaches 0 (State.Handled 0 65) := hstuck.not_reaches (by simp)
    refine ⟨s, hrun, ⟨conn, hc, hframe⟩, hblocked, fun hnone => hblocked ?_⟩
    have hreader : conn.inbound.reader ≠ .terminated := by
      obtain ⟨conn', hc', ⟨f, data, hsending⟩, -⟩ := hstuck.conn
      obtain rfl : conn = conn' := Option.some.inj (Eq.trans hc.symm hc')
      rw [hsending]
      exact nofun
    exact (hnone 0 st hst hstalled).deliver 1 3 0 1 [] true .idle conn 65 _ [] hother (by decide)
      hroom hc htable hframe (by decide) hreader

end Roboat.Daemon.Locks
