import Mathlib.Logic.Function.Basic
import Mathlib.Tactic.SplitIfs
import Roboat.Daemon.Mux
import Roboat.Daemon.StreamBridge
import Roboat.Text.Hex
import Roboat.Transition.Machine
import Roboat.Transition.Tasks

/-! # The daemon's streams

`DaemonManager` keeps one table from stream ids to stream entries, `streams`. An entry is made by a
dial, direct or multiplexed, and by an inbound `RelayOpen` or mux `StreamOpen`; its id comes from
the manager's own counter, from the counter of a mux connection, or from the remote side. It is
removed, by id, when an agent closes a stream and when the bridge of a direct stream ends.

A stream here is one such object, numbered in the order of creation, whatever its id: its data
channel (`queue`), what `send` has put there (`accepted`), and the task that forwards the data
(`forward`). The table maps an id to the number of the stream whose sender it holds. -/

namespace Roboat.Daemon

/-- The connection a stream uses: a TCP connection of its own, or a mux connection. -/
inductive Link where
  | direct
  | mux (conn : Nat)
  deriving DecidableEq, Repr

/-- How far a stream is. -/
inductive StreamPhase where
  /-- The id is drawn; the remote has not been told. -/
  | dialing
  /-- Announced to, or by, the remote; not yet in the table. -/
  | announced
  /-- Entered in the table and handed to an agent. -/
  | opened
  /-- The dial failed. -/
  | failed
  deriving DecidableEq, Repr

/-- Where the task is that forwards a stream's data: `run_stream_bridge` for a direct stream, the
task spawned by `dial_mux` or `register_mux_incoming` for a mux stream. -/
inductive ForwardPhase where
  /-- Waiting for data (or, in a direct stream, for a frame). -/
  | idle
  /-- Data is taken from the channel and not yet passed on. -/
  | holding (data : Bytes)
  /-- The loop ended; the close frame is to be sent. -/
  | closing
  /-- A direct stream: about to remove its id from the table. -/
  | removing
  /-- The task is over and its receiver dropped. -/
  | done
  deriving DecidableEq, Repr

/-- The forwarding task is in its loop. -/
def ForwardPhase.inLoop : ForwardPhase → Bool
  | idle => true
  | holding _ => true
  | _ => false

/-- One stream. -/
structure Stream where
  id : UInt32
  cls : StreamClass
  link : Link
  /-- Opened by this side. -/
  dialed : Bool
  phase : StreamPhase
  /-- The data channel. -/
  queue : List Bytes
  /-- What `send` has put into the data channel, ever. -/
  accepted : List Bytes
  forward : ForwardPhase
  /-- The frames a direct stream has written on its connection. -/
  wire : List (FrameType × Bytes)
  /-- The agent has closed the stream. -/
  agentClosed : Bool
  /-- The remote has closed the stream, or its connection is lost. -/
  remoteClosed : Bool
  deriving DecidableEq, Repr

/-- A stream that is handed out and not terminated. -/
def Stream.Live (st : Stream) : Prop :=
  st.phase = .opened ∧ st.agentClosed = false ∧ st.remoteClosed = false ∧
    st.forward.inLoop = true

instance (st : Stream) : Decidable st.Live := inferInstanceAs (Decidable (_ ∧ _))

/-- `DaemonManager`, its mux connections and its streams. -/
structure Manager where
  useMux : Bool
  /-- `DaemonManager.streams`. -/
  table : UInt32 → Option Nat
  nextStreamId : UInt32
  muxPool : Str → Option Nat
  conns : List MuxConn
  streams : List Stream

/-- The atomic steps. -/
inductive ManagerStep where
  /-- `create_mux_conn` succeeds and the pool keeps the connection. -/
  | connectMux (addr : Str)
  /-- `dial_mux` takes a pooled connection and draws an id. -/
  | dialMux (addr : Str) (cls : StreamClass)
  /-- `open_stream` enqueues the `StreamOpen`. -/
  | announceMux (i : Nat)
  /-- `dial_direct` draws an id. -/
  | dialDirect (cls : StreamClass)
  /-- The TCP connection and the `RelayOpen` handshake of a direct dial end. -/
  | connectDirect (i : Nat) (ok : Bool)
  /-- An inbound connection starts with this `RelayOpen`. -/
  | inboundRelay (payload : Bytes)
  /-- An inbound connection starts with a `StreamOpen`: it is a mux connection. -/
  | inboundConn
  /-- The registration task takes an inbound `StreamOpen` of a mux connection. -/
  | inboundOpen (conn : Nat) (payload : Bytes)
  /-- The stream is entered in the table. -/
  | insert (i : Nat)
  /-- The agent that holds stream `i` sends on its id. -/
  | send (i : Nat) (data : Bytes)
  /-- The agent that holds stream `i` closes its id. -/
  | close (i : Nat)
  /-- The forwarding task takes data from its channel, or finds it closed. -/
  | take (i : Nat)
  /-- The forwarding task passes its data on; `ok` is the outcome of a direct stream's write. -/
  | pass (i : Nat) (ok : Bool)
  /-- The forwarding task sends the close frame. -/
  | finish (i : Nat)
  /-- The bridge of a direct stream ends: a close frame, a read error, or nobody to receive. -/
  | remoteEnd (i : Nat)
  /-- The bridge of a direct stream removes its id. -/
  | remove (i : Nat)
  /-- The remote's `StreamClose` for a mux stream is processed. -/
  | remoteClose (i : Nat)
  /-- A step of a write task. -/
  | write (conn : Nat) (a : WriterStep)
  deriving DecidableEq, Repr

/-- The calls of an agent on a stream it holds. -/
def ManagerStep.isCall : ManagerStep → Bool
  | send _ _ => true
  | close _ => true
  | _ => false

/-- The steps that set up connections and streams. -/
def ManagerStep.isSetup : ManagerStep → Bool
  | connectMux _ => true
  | announceMux _ => true
  | connectDirect _ _ => true
  | inboundRelay _ => true
  | inboundConn => true
  | inboundOpen _ _ => true
  | _ => false

/-- A fresh stream. -/
def Stream.new (id : UInt32) (cls : StreamClass) (link : Link) (dialed : Bool) (phase : StreamPhase)
    (wire : List (FrameType × Bytes)) : Stream :=
  ⟨id, cls, link, dialed, phase, [], [], .idle, wire, false, false⟩

/-- The `RelayOpen` payload: the stream id and the class. -/
def relayOpenPayload (streamId : UInt32) (cls : StreamClass) : Bytes :=
  toBeBytes streamId ++ [cls.asByte]

/-- The id and the class in the payload of a `RelayOpen` or `StreamOpen`, if it is long enough. -/
def parseOpen : Bytes → Option (UInt32 × StreamClass)
  | a :: b :: c :: d :: e :: _ => some (fromBeBytes a b c d, .fromByte e)
  | _ => none

namespace Manager

/-- Overwrite a stream. -/
def setStream (m : Manager) (i : Nat) (st : Stream) : Manager :=
  { m with streams := m.streams.set i st }

/-- Overwrite a mux connection. -/
def setConn (m : Manager) (c : Nat) (conn : MuxConn) : Manager :=
  { m with conns := m.conns.set c conn }

/-- Add a stream. -/
def addStream (m : Manager) (st : Stream) : Manager := { m with streams := m.streams ++ [st] }

/-- Whether the sender of a stream's data channel is dropped: it was moved into the table, and is
not there any more. -/
def senderDropped (m : Manager) (i : Nat) (st : Stream) : Bool :=
  st.phase == .opened && m.table st.id != some i

/-- `MuxConn::enqueue` on connection `c`. -/
def enqueue (m : Manager) (c : Nat) (cls : StreamClass) (item : WriteItem) : Option Manager :=
  m.conns[c]?.bind fun conn => (conn.enqueue cls item).map (m.setConn c)

/-- An enqueue that succeeds changes one connection only. -/
theorem eq_of_enqueue {m t : Manager} {c : Nat} {cls : StreamClass} {item : WriteItem}
    (h : m.enqueue c cls item = some t) :
    ∃ conn conn', m.conns[c]? = some conn ∧ conn.enqueue cls item = some conn' ∧
      t = m.setConn c conn' := by
  obtain ⟨conn, hconn, h⟩ := Option.bind_eq_some_iff.mp h
  obtain ⟨conn', henq, rfl⟩ := Option.map_eq_some_iff.mp h
  exact ⟨conn, conn', hconn, henq, rfl⟩

/-- An enqueue fails only when the write task is gone. -/
theorem returned_of_enqueue {m : Manager} {c : Nat} {cls : StreamClass} {item : WriteItem}
    (h : m.enqueue c cls item = none) (conn : MuxConn) (hc : m.conns[c]? = some conn) :
    conn.writer = .returned := by
  simp only [enqueue, hc, Option.bind_some, Option.map_eq_none_iff] at h
  exact MuxConn.returned_of_enqueue h

/-- `open_stream`, at its `enqueue`. -/
def announceMux (m : Manager) (i : Nat) (st : Stream) (c : Nat) : Manager :=
  match m.enqueue c st.cls (.streamOpen i st.id st.cls) with
  | some m => m.setStream i { st with phase := .announced }
  | none => m.setStream i { st with phase := .failed }

/-- `DaemonManager::send` on the id of stream `i`: the data goes to the stream in the table. It
waits while the channel is full, and fails when the stream's task is gone. -/
def send (m : Manager) (st : Stream) (data : Bytes) : Option Manager :=
  (m.table st.id).bind fun j => m.streams[j]?.bind fun target =>
    if target.forward ≠ .done ∧ target.queue.length < channelCapacity then
      some (m.setStream j { target with
        queue := target.queue ++ [data], accepted := target.accepted ++ [data] })
    else none

/-- `DaemonManager::close_stream` on the id of stream `i`. -/
def close (m : Manager) (i : Nat) (st : Stream) : Manager :=
  { m with table := Function.update m.table st.id none }.setStream i { st with agentClosed := true }

/-- `data_rx.recv()`. -/
def take (m : Manager) (i : Nat) (st : Stream) : Option Manager :=
  match st.queue with
  | data :: rest => some (m.setStream i { st with queue := rest, forward := .holding data })
  | [] =>
    if m.senderDropped i st then some (m.setStream i { st with forward := .closing }) else none

/-- The data is written on the stream's own connection, or enqueued on its mux connection. -/
def pass (m : Manager) (i : Nat) (st : Stream) (data : Bytes) (ok : Bool) : Manager :=
  match st.link with
  | .direct =>
    if ok then m.setStream i { st with wire := st.wire ++ [(.relayData, data)], forward := .idle }
    else m.setStream i { st with forward := .removing }
  | .mux c =>
    match m.enqueue c st.cls (.streamData i st.id data) with
    | some m => m.setStream i { st with forward := .idle }
    | none => m.setStream i { st with forward := .closing }

/-- The close frame at the end of the forwarding task. -/
def finish (m : Manager) (i : Nat) (st : Stream) : Manager :=
  match st.link with
  | .direct =>
    m.setStream i { st with wire := st.wire ++ [(.relayClose, [])], forward := .removing }
  | .mux c =>
    ((m.enqueue c st.cls (.streamClose i st.id)).getD m).setStream i { st with forward := .done }

/-- A step of stream `i`. -/
def onStream (m : Manager) (i : Nat) (f : Stream → Option Manager) : Option Manager :=
  m.streams[i]?.bind f

/-- The step function. -/
def step (m : Manager) : ManagerStep → Option Manager
  | .connectMux addr =>
    if m.useMux ∧ m.muxPool addr = none then
      some { m with
        muxPool := Function.update m.muxPool addr (some m.conns.length)
        conns := m.conns ++ [.newInitiator] }
    else none
  | .dialMux addr cls =>
    if m.useMux then
      (m.muxPool addr).bind fun c => m.conns[c]?.bind fun conn =>
        some ((m.setConn c { conn with nextStreamId := conn.nextStreamId + 2 }).addStream
          (.new conn.nextStreamId cls (.mux c) true .dialing []))
    else none
  | .announceMux i => m.onStream i fun st =>
    match st.phase, st.link with
    | .dialing, .mux c => some (m.announceMux i st c)
    | _, _ => none
  | .dialDirect cls =>
    if m.useMux then none
    else
      some ({ m with nextStreamId := m.nextStreamId + 1 }.addStream
        (.new m.nextStreamId cls .direct true .dialing []))
  | .connectDirect i ok => m.onStream i fun st =>
    match st.phase, st.link with
    | .dialing, .direct =>
      if ok then
        some (m.setStream i { st with
          phase := .announced, wire := [(.relayOpen, relayOpenPayload st.id st.cls)] })
      else some (m.setStream i { st with phase := .failed })
    | _, _ => none
  | .inboundRelay payload =>
    (parseOpen payload).map fun (id, cls) =>
      m.addStream (.new id cls .direct false .announced [(.relayOpenAck, payload)])
  | .inboundConn => some { m with conns := m.conns ++ [.newResponder] }
  | .inboundOpen c payload =>
    if c < m.conns.length then
      (parseOpen payload).map fun (id, cls) =>
        m.addStream (.new id cls (.mux c) false .announced [])
    else none
  | .insert i => m.onStream i fun st =>
    if st.phase = .announced then
      some ({ m with table := Function.update m.table st.id (some i) }.setStream i
        { st with phase := .opened })
    else none
  | .send i data => m.onStream i fun st => if st.phase = .opened then m.send st data else none
  | .close i => m.onStream i fun st => if st.phase = .opened then some (m.close i st) else none
  | .take i => m.onStream i fun st => if st.forward = .idle then m.take i st else none
  | .pass i ok => m.onStream i fun st =>
    match st.forward with
    | .holding data => some (m.pass i st data ok)
    | _ => none
  | .finish i => m.onStream i fun st =>
    if st.forward = .closing then some (m.finish i st) else none
  | .remoteEnd i => m.onStream i fun st =>
    if st.link = .direct ∧ st.phase = .opened ∧ st.forward = .idle then
      some (m.setStream i { st with forward := .removing, remoteClosed := true })
    else none
  | .remove i => m.onStream i fun st =>
    if st.link = .direct ∧ st.phase = .opened ∧ st.forward = .removing then
      some ({ m with table := Function.update m.table st.id none }.setStream i
        { st with forward := .done })
    else none
  | .remoteClose i => m.onStream i fun st =>
    if st.link ≠ .direct then some (m.setStream i { st with remoteClosed := true }) else none
  | .write c a => m.conns[c]?.bind fun conn => (conn.writeStep a).map (m.setConn c)

/-! ## What a step does -/

/-- **The moves of the daemon**: the effect of every step, with the facts it was taken under. -/
inductive Move (m : Manager) : ManagerStep → Manager → Prop
  /-- A mux connection is made, by either side. -/
  | connect {a : ManagerStep} (pool : Str → Option Nat) {conn : MuxConn}
      (hsetup : a.isSetup = true) (hconn : conn = .newInitiator ∨ conn = .newResponder) :
      Move m a { m with muxPool := pool, conns := m.conns ++ [conn] }
  | dialMux {addr : Str} {cls : StreamClass} {c : Nat} {conn : MuxConn}
      (hc : m.conns[c]? = some conn) :
      Move m (.dialMux addr cls)
        ((m.setConn c { conn with nextStreamId := conn.nextStreamId + 2 }).addStream
          (.new conn.nextStreamId cls (.mux c) true .dialing []))
  | dialDirect {cls : StreamClass} :
      Move m (.dialDirect cls)
        ({ m with nextStreamId := m.nextStreamId + 1 }.addStream
          (.new m.nextStreamId cls .direct true .dialing []))
  | announceMux {i c : Nat} {st : Stream} {conn conn' : MuxConn} (hi : m.streams[i]? = some st)
      (hphase : st.phase = .dialing) (hlink : st.link = .mux c) (hc : m.conns[c]? = some conn)
      (henq : conn.enqueue st.cls (.streamOpen i st.id st.cls) = some conn') :
      Move m (.announceMux i) ((m.setConn c conn').setStream i { st with phase := .announced })
  /-- A dial fails. -/
  | dialFailed {a : ManagerStep} {i : Nat} {st : Stream} (hsetup : a.isSetup = true)
      (hi : m.streams[i]? = some st) (hphase : st.phase = .dialing) :
      Move m a (m.setStream i { st with phase := .failed })
  | connectDirect {i : Nat} {st : Stream} (hi : m.streams[i]? = some st)
      (hphase : st.phase = .dialing) (hlink : st.link = .direct) :
      Move m (.connectDirect i true) (m.setStream i { st with
        phase := .announced, wire := [(.relayOpen, relayOpenPayload st.id st.cls)] })
  /-- The remote opens a stream, on a connection of its own or on a mux connection. -/
  | inbound {a : ManagerStep} (id : UInt32) (cls : StreamClass) (link : Link)
      {wire : List (FrameType × Bytes)} (hsetup : a.isSetup = true)
      (hlink : ∀ c, link = .mux c → c < m.conns.length)
      (hwire : ∀ data, (FrameType.relayData, data) ∉ wire) :
      Move m a (m.addStream (.new id cls link false .announced wire))
  | insert {i : Nat} {st : Stream} (hi : m.streams[i]? = some st) (hphase : st.phase = .announced) :
      Move m (.insert i) ({ m with table := Function.update m.table st.id (some i) }.setStream i
        { st with phase := .opened })
  | send {i j : Nat} {st target : Stream} {data : Bytes} (hi : m.streams[i]? = some st)
      (hphase : st.phase = .opened) (htable : m.table st.id = some j)
      (hj : m.streams[j]? = some target) :
      Move m (.send i data) (m.setStream j { target with
        queue := target.queue ++ [data], accepted := target.accepted ++ [data] })
  | close {i : Nat} {st : Stream} (hi : m.streams[i]? = some st) (hphase : st.phase = .opened) :
      Move m (.close i) ({ m with table := Function.update m.table st.id none }.setStream i
        { st with agentClosed := true })
  | takeData {i : Nat} {st : Stream} {data : Bytes} {rest : List Bytes}
      (hi : m.streams[i]? = some st) (hforward : st.forward = .idle)
      (hqueue : st.queue = data :: rest) :
      Move m (.take i) (m.setStream i { st with queue := rest, forward := .holding data })
  /-- The forwarding task finds its channel empty and the sender dropped. -/
  | takeEnd {i : Nat} {st : Stream} (hi : m.streams[i]? = some st) (hforward : st.forward = .idle)
      (hqueue : st.queue = []) (hphase : st.phase = .opened) (hdropped : m.table st.id ≠ some i) :
      Move m (.take i) (m.setStream i { st with forward := .closing })
  | passDirect {i : Nat} {st : Stream} {data : Bytes} (hi : m.streams[i]? = some st)
      (hforward : st.forward = .holding data) (hlink : st.link = .direct) :
      Move m (.pass i true) (m.setStream i { st with
        wire := st.wire ++ [(.relayData, data)], forward := .idle })
  /-- The write on the stream's own connection fails. -/
  | passDirectFailed {i : Nat} {st : Stream} {data : Bytes} (hi : m.streams[i]? = some st)
      (hforward : st.forward = .holding data) (hlink : st.link = .direct) :
      Move m (.pass i false) (m.setStream i { st with forward := .removing })
  | passMux {i c : Nat} {st : Stream} {data : Bytes} {ok : Bool} {conn conn' : MuxConn}
      (hi : m.streams[i]? = some st) (hforward : st.forward = .holding data)
      (hlink : st.link = .mux c) (hc : m.conns[c]? = some conn)
      (henq : conn.enqueue st.cls (.streamData i st.id data) = some conn') :
      Move m (.pass i ok) ((m.setConn c conn').setStream i { st with forward := .idle })
  /-- The write task of the mux connection is gone. -/
  | passMuxFailed {i c : Nat} {st : Stream} {data : Bytes} {ok : Bool}
      (hi : m.streams[i]? = some st) (hforward : st.forward = .holding data)
      (hlink : st.link = .mux c)
      (hgone : ∀ conn, m.conns[c]? = some conn → conn.writer = .returned) :
      Move m (.pass i ok) (m.setStream i { st with forward := .closing })
  | finishDirect {i : Nat} {st : Stream} (hi : m.streams[i]? = some st)
      (hforward : st.forward = .closing) (hlink : st.link = .direct) :
      Move m (.finish i) (m.setStream i { st with
        wire := st.wire ++ [(.relayClose, [])], forward := .removing })
  | finishMux {i c : Nat} {st : Stream} {conn conn' : MuxConn} (hi : m.streams[i]? = some st)
      (hforward : st.forward = .closing) (hlink : st.link = .mux c) (hc : m.conns[c]? = some conn)
      (henq : conn.enqueue st.cls (.streamClose i st.id) = some conn') :
      Move m (.finish i) ((m.setConn c conn').setStream i { st with forward := .done })
  /-- The write task of the mux connection is gone. -/
  | finishMuxFailed {i c : Nat} {st : Stream} (hi : m.streams[i]? = some st)
      (hforward : st.forward = .closing) (hlink : st.link = .mux c)
      (hgone : ∀ conn, m.conns[c]? = some conn → conn.writer = .returned) :
      Move m (.finish i) (m.setStream i { st with forward := .done })
  | remoteEnd {i : Nat} {st : Stream} (hi : m.streams[i]? = some st) (hlink : st.link = .direct)
      (hphase : st.phase = .opened) (hforward : st.forward = .idle) :
      Move m (.remoteEnd i) (m.setStream i { st with forward := .removing, remoteClosed := true })
  | remove {i : Nat} {st : Stream} (hi : m.streams[i]? = some st) (hlink : st.link = .direct)
      (hphase : st.phase = .opened) (hforward : st.forward = .removing) :
      Move m (.remove i) ({ m with table := Function.update m.table st.id none }.setStream i
        { st with forward := .done })
  | remoteClose {i : Nat} {st : Stream} (hi : m.streams[i]? = some st) (hlink : st.link ≠ .direct) :
      Move m (.remoteClose i) (m.setStream i { st with remoteClosed := true })
  | write {c : Nat} {a : WriterStep} {conn conn' : MuxConn} (hc : m.conns[c]? = some conn)
      (hwrite : conn.writeStep a = some conn') : Move m (.write c a) (m.setConn c conn')

variable {m t : Manager}

/-- Every step is a move. -/
theorem move_of_step {a : ManagerStep} (hstep : m.step a = some t) : Move m a t := by
  cases a with
  | connectMux addr =>
    simp only [step] at hstep
    split_ifs at hstep
    cases hstep
    exact .connect _ rfl (.inl rfl)
  | dialMux addr cls =>
    simp only [step] at hstep
    split_ifs at hstep
    obtain ⟨c, -, hstep⟩ := Option.bind_eq_some_iff.mp hstep
    obtain ⟨conn, hc, hstep⟩ := Option.bind_eq_some_iff.mp hstep
    cases hstep
    exact .dialMux hc
  | announceMux i =>
    obtain ⟨st, hi, hstep⟩ := Option.bind_eq_some_iff.mp hstep
    split at hstep
    · rename_i c hphase hlink
      cases hstep
      unfold Manager.announceMux
      split
      · rename_i henq
        obtain ⟨conn, conn', hc, hconn, rfl⟩ := eq_of_enqueue henq
        exact .announceMux hi hphase hlink hc hconn
      · exact .dialFailed rfl hi hphase
    · cases hstep
  | dialDirect cls =>
    simp only [step] at hstep
    split_ifs at hstep
    cases hstep
    exact .dialDirect
  | connectDirect i ok =>
    obtain ⟨st, hi, hstep⟩ := Option.bind_eq_some_iff.mp hstep
    split at hstep
    · rename_i hphase hlink
      split_ifs at hstep with hok
      · cases hstep
        subst hok
        exact .connectDirect hi hphase hlink
      · cases hstep
        exact .dialFailed rfl hi hphase
    · cases hstep
  | inboundRelay payload =>
    obtain ⟨⟨id, cls⟩, -, rfl⟩ := Option.map_eq_some_iff.mp hstep
    exact .inbound id cls .direct rfl (by simp) (by simp)
  | inboundConn =>
    cases hstep
    exact .connect m.muxPool rfl (.inr rfl)
  | inboundOpen c payload =>
    simp only [step] at hstep
    split_ifs at hstep with hc
    obtain ⟨⟨id, cls⟩, -, rfl⟩ := Option.map_eq_some_iff.mp hstep
    exact .inbound id cls (.mux c) rfl (fun d hd => by cases hd; exact hc) (by simp)
  | insert i =>
    obtain ⟨st, hi, hstep⟩ := Option.bind_eq_some_iff.mp hstep
    split_ifs at hstep with hphase
    cases hstep
    exact .insert hi hphase
  | send i data =>
    obtain ⟨st, hi, hstep⟩ := Option.bind_eq_some_iff.mp hstep
    split_ifs at hstep with hphase
    obtain ⟨j, htable, hstep⟩ := Option.bind_eq_some_iff.mp hstep
    obtain ⟨target, hj, hstep⟩ := Option.bind_eq_some_iff.mp hstep
    split_ifs at hstep
    cases hstep
    exact .send hi hphase htable hj
  | close i =>
    obtain ⟨st, hi, hstep⟩ := Option.bind_eq_some_iff.mp hstep
    split_ifs at hstep with hphase
    cases hstep
    exact .close hi hphase
  | take i =>
    obtain ⟨st, hi, hstep⟩ := Option.bind_eq_some_iff.mp hstep
    split_ifs at hstep with hidle
    unfold Manager.take at hstep
    split at hstep
    · rename_i data rest hqueue
      cases hstep
      exact .takeData hi hidle hqueue
    · rename_i hqueue
      split_ifs at hstep with hdropped
      cases hstep
      simp only [senderDropped, Bool.and_eq_true, beq_iff_eq, bne_iff_ne] at hdropped
      exact .takeEnd hi hidle hqueue hdropped.1 hdropped.2
  | pass i ok =>
    obtain ⟨st, hi, hstep⟩ := Option.bind_eq_some_iff.mp hstep
    split at hstep
    · rename_i data hhold
      cases hstep
      unfold Manager.pass
      split
      · rename_i hlink
        split_ifs with hok
        · subst hok
          exact .passDirect hi hhold hlink
        · rw [Bool.not_eq_true] at hok
          subst hok
          exact .passDirectFailed hi hhold hlink
      · rename_i c hlink
        split
        · rename_i henq
          obtain ⟨conn, conn', hc, hconn, rfl⟩ := eq_of_enqueue henq
          exact .passMux hi hhold hlink hc hconn
        · rename_i henq
          exact .passMuxFailed hi hhold hlink (returned_of_enqueue henq)
    · cases hstep
  | finish i =>
    obtain ⟨st, hi, hstep⟩ := Option.bind_eq_some_iff.mp hstep
    split_ifs at hstep with hclosing
    cases hstep
    unfold Manager.finish
    split
    · rename_i hlink
      exact .finishDirect hi hclosing hlink
    · rename_i c hlink
      cases henq : m.enqueue c st.cls (.streamClose i st.id) with
      | none => exact .finishMuxFailed hi hclosing hlink (returned_of_enqueue henq)
      | some t =>
        obtain ⟨conn, conn', hc, hconn, rfl⟩ := eq_of_enqueue henq
        exact .finishMux hi hclosing hlink hc hconn
  | remoteEnd i =>
    obtain ⟨st, hi, hstep⟩ := Option.bind_eq_some_iff.mp hstep
    split_ifs at hstep with hidle
    cases hstep
    exact .remoteEnd hi hidle.1 hidle.2.1 hidle.2.2
  | remove i =>
    obtain ⟨st, hi, hstep⟩ := Option.bind_eq_some_iff.mp hstep
    split_ifs at hstep with hremoving
    cases hstep
    exact .remove hi hremoving.1 hremoving.2.1 hremoving.2.2
  | remoteClose i =>
    obtain ⟨st, hi, hstep⟩ := Option.bind_eq_some_iff.mp hstep
    split_ifs at hstep with hlink
    cases hstep
    exact .remoteClose hi hlink
  | write c a =>
    obtain ⟨conn, hc, hstep⟩ := Option.bind_eq_some_iff.mp hstep
    obtain ⟨conn', hwrite, rfl⟩ := Option.map_eq_some_iff.mp hstep
    exact .write hc hwrite

end Manager

/-- **The daemon machine**, in direct or in mux mode. -/
def managerMachine (useMux : Bool) : Machine Manager ManagerStep where
  init := ⟨useMux, fun _ => none, 1, fun _ => none, [], []⟩
  step := Manager.step

end Roboat.Daemon
