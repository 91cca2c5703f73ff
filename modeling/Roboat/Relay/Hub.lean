import Mathlib.Logic.Function.Basic
import Mathlib.Tactic.SplitIfs
import Roboat.Relay.AttachSession
import Roboat.Transition.Machine
import Roboat.Transition.Tasks

/-! # The agent control hub

`AgentControlHub` joins the robots' connections and the users' relays. Its shared state is a
handful of maps, each under a lock of its own; everything that runs over it is a task:

* a robot's control or relay connection (`AgentConn`), whose read pump takes one message at a time
  and delivers it in several separately locked steps (`deliverRelay`, `deliverResponse`);
* a `SendCommand` or `SendStatusQuery` call (`Call`), waiting on its response channel;
* a relay attach (`handleRelayWS`), or a bare `SetActiveSession` call made by signaling
  (`SessionTask`): decide, set the active session, scan for stale relays and close them one by one,
  register the relay.

A step of the machine is one locked section, or one channel operation, of one task. Channels live
on a heap (`chans`) because a registration that was copied out of the map under the lock still
reaches its channel afterwards. `log` records what is placed in relay channels, by whom, and when a
robot's active session changes, the newest event first; no step reads it. -/

namespace Roboat.Relay

/-- The (trimmed) `type` of a control message. -/
inductive MessageType where
  | commandRequest
  | commandResponse
  | statusRequest
  | statusResponse
  | relayOpenAck
  | relayData
  | relayClose
  /-- Any other text. -/
  | other (text : Str)
  deriving DecidableEq, Repr

/-- `command_response` or `status_response`. -/
def MessageType.isResponse : MessageType → Bool
  | commandResponse => true
  | statusResponse => true
  | _ => false

/-- `relay_open_ack`, `relay_data` or `relay_close`. -/
def MessageType.isRelay : MessageType → Bool
  | relayOpenAck => true
  | relayData => true
  | relayClose => true
  | _ => false

/-- The fields of `agentControlMessage` that the hub reads or sets. Free-form JSON values are kept
as their text. -/
structure AgentControlMessage where
  type : MessageType
  bootstrapID : Str := []
  sessionKey : Str := []
  requestID : Str := []
  command : Str := []
  statusQuery : Str := []
  response : Str := []
  relayID : Str := []
  data : Str := []
  error : Str := []
  deriving DecidableEq, Repr

/-- `relayRegistration`; the channel is an address. -/
structure RelayRegistration where
  robotID : Str
  sessionKey : Str
  ch : Nat
  deriving DecidableEq, Repr

/-- Who produced a message: the hub itself, or the connection of an authenticated robot. -/
inductive Source where
  | hub
  | agent (robotID : Str)
  deriving DecidableEq, Repr

/-- The events of the history. -/
inductive Event where
  /-- A message was placed in the channel of a registered relay. -/
  | placed (reg : RelayRegistration) (msg : AgentControlMessage) (source : Source)
  /-- The active session of a robot got a new value. -/
  | sessionSet (robotID sessionKey : Str)
  deriving DecidableEq, Repr

/-! ## Tasks -/

/-- The two websockets of a robot. -/
inductive ConnKind where
  | control
  | relay
  deriving DecidableEq, Repr

/-- Where the read pump of a connection is. -/
inductive PumpPhase where
  /-- In `ReadMessage`. -/
  | reading
  /-- In `deliverResponse`, with the channel of call `call` in hand. -/
  | responding (call : Nat) (response : Str)
  /-- In `deliverRelay`, before its first `enqueue`. -/
  | enqueueing (msg : AgentControlMessage) (reg : RelayRegistration)
  /-- In `deliverRelay`, before `dropOldestQueuedMessage`. -/
  | dropping (msg : AgentControlMessage) (reg : RelayRegistration)
  /-- In `deliverRelay`, before its second `enqueue`. -/
  | retrying (msg : AgentControlMessage) (reg : RelayRegistration)
  /-- The handler returned. -/
  | returned
  deriving DecidableEq, Repr

/-- An authenticated websocket of a robot, with its send queue and its read pump. -/
structure AgentConn where
  kind : ConnKind
  robotID : Str
  send : List AgentControlMessage
  phase : PumpPhase
  deriving DecidableEq, Repr

/-- The two kinds of calls that wait for a response. -/
inductive CallKind where
  | command
  | statusQuery
  deriving DecidableEq, Repr

/-- Where a call is. -/
inductive CallPhase where
  /-- The request id is drawn. -/
  | begun
  /-- The response channel is in `pending`. -/
  | pended
  /-- In the `select`. -/
  | waiting
  /-- The send failed or the time is over; the entry in `pending` is about to be deleted. -/
  | abandoned
  /-- Returned an error. -/
  | failed
  /-- Returned a response. -/
  | returned (response : Str) (source : Source)
  deriving DecidableEq, Repr

/-- A `SendCommand` or `SendStatusQuery` call, with its response channel of capacity one. -/
structure Call where
  kind : CallKind
  robotID : Str
  requestID : Str
  body : Str
  sessionKey : Str
  respCh : Option (Str × Source)
  phase : CallPhase
  deriving DecidableEq, Repr

/-- The request of a call. -/
def Call.request (call : Call) : AgentControlMessage :=
  match call.kind with
  | .command =>
    { type := .commandRequest, requestID := call.requestID, command := call.body,
      bootstrapID := call.sessionKey, sessionKey := call.sessionKey }
  | .statusQuery =>
    { type := .statusRequest, requestID := call.requestID, statusQuery := call.body,
      bootstrapID := call.sessionKey, sessionKey := call.sessionKey }

/-- An entry of `relays`, as the scan copies it. -/
abbrev RelayEntry := Str × RelayRegistration

/-- Where a session task is. -/
inductive SessionPhase where
  /-- Before `ActiveSession` is read (attach only). -/
  | deciding
  /-- `SetActiveSession` is called, the map not yet written. -/
  | setting
  /-- The map was changed, the relays not yet scanned. -/
  | scanning
  /-- Stale relays are left to close. -/
  | closing (stale : List RelayEntry)
  /-- The channel of `entry` was full: before `dropOldestQueuedMessage`. -/
  | dropping (entry : RelayEntry) (stale : List RelayEntry)
  /-- A message was dropped: before the second `enqueue`. -/
  | retrying (entry : RelayEntry) (stale : List RelayEntry)
  /-- The session is settled; the websocket upgrade, then `RegisterRelay` (attach only). -/
  | upgrading
  /-- The relay is registered and its consumer runs (attach only). -/
  | registered (relayID : Str) (ch : Nat)
  /-- The task is over. -/
  | finished
  deriving DecidableEq, Repr

/-- A relay attach, or a bare `SetActiveSession` call. -/
structure SessionTask where
  isAttach : Bool
  robotID : Str
  userID : Str
  /-- The session key: as requested before the decision, as decided after it. -/
  sessionKey : Str
  phase : SessionPhase
  deriving DecidableEq, Repr

/-- What follows `SetActiveSession`: an attach goes on, a bare call returns. -/
def SessionTask.afterSet (task : SessionTask) : SessionTask :=
  { task with phase := if task.isAttach then .upgrading else .finished }

/-- The hub and its tasks. -/
structure State where
  conns : Str → Option Nat
  relay : Str → Option Nat
  pending : Str → Option Nat
  activeSessions : ActiveSessions
  relays : List RelayEntry
  chans : List (List AgentControlMessage)
  log : List Event
  agents : List AgentConn
  calls : List Call
  tasks : List SessionTask

/-- What the hub takes from outside the repository and from its configuration. -/
structure Env where
  /-- `uuid.Parse` accepts the robot id. -/
  validID : Str → Bool
  /-- `ResolveControl` accepts the robot id and API key. -/
  resolveControl : Str → Str → Bool
  /-- `RobotOwnedBy`. -/
  robotOwnedBy : Str → Str → Bool
  /-- The case folding of `strings.EqualFold`. -/
  fold : Char → Char
  /-- `time.Parse(time.RFC3339, ·)`. -/
  parseTime : Str → Option Int
  /-- The concurrency policy is `reject_new`. -/
  rejectNew : Bool

/-- The capacity of a relay channel. -/
def relayChanCapacity : Nat := 512

/-- The capacity of the send queue of a connection. -/
def ConnKind.sendCapacity : ConnKind → Nat
  | control => 256
  | relay => 2048

/-- The atomic steps of connections and calls. -/
inductive AgentStep where
  /-- A robot's websocket is authenticated, upgraded and registered. -/
  | agentConnect (kind : ConnKind) (robotID apiKey : Str)
  /-- The read pump of a connection reads a message and looks up whom it is for; `cooled` says that
  the cooldown for closing the relay it names is over. -/
  | receive (i : Nat) (msg : AgentControlMessage) (cooled : Bool)
  /-- The next channel operation of a delivery. -/
  | deliver (i : Nat)
  /-- The write pump takes a message from the send queue. -/
  | writePump (i : Nat)
  /-- The read pump ends and the connection is unregistered. -/
  | agentDisconnect (i : Nat)
  /-- `SendCommand` or `SendStatusQuery` is called and draws a request id. -/
  | call (kind : CallKind) (robotID requestID body : Str)
  /-- The call enters its channel in `pending`. -/
  | callPend (j : Nat)
  /-- The call sends its request. -/
  | callSend (j : Nat)
  /-- The call takes its response. -/
  | callReturn (j : Nat)
  /-- The time of the call is over. -/
  | callTimeout (j : Nat)
  /-- The call deletes its entry in `pending` and returns an error. -/
  | callDelete (j : Nat)

/-- The atomic steps of session tasks. -/
inductive SessionStep where
  /-- A user's request passes the checks before the session decision. -/
  | attach (robotID userID sessionKey : Str) (port : Nat)
  /-- The session decision, on the evidence at that moment. -/
  | decide (t : Nat) (evidence : Evidence)
  /-- Signaling calls `SetActiveSession`. -/
  | activate (robotID sessionKey : Str)
  /-- The map write of `SetActiveSession`. -/
  | set (t : Nat)
  /-- The scan of `preemptRelaysForSession`. -/
  | scan (t : Nat)
  /-- `enqueue` of the close message for the `n`-th stale relay left (map order is arbitrary). -/
  | close (t n : Nat)
  /-- `dropOldestQueuedMessage` in the preemption. -/
  | drop (t : Nat)
  /-- The second `enqueue` in the preemption. -/
  | retry (t : Nat)
  /-- The preemption is over. -/
  | passDone (t : Nat)
  /-- The websocket upgrade fails, and the handler returns. -/
  | upgradeFail (t : Nat)
  /-- `RegisterRelay` under a fresh id. -/
  | register (t : Nat) (relayID : Str)
  /-- The relay's consumer takes a message. -/
  | consume (t : Nat)
  /-- The attach ends: `UnregisterRelay`. -/
  | unregister (t : Nat)
  /-- `ClearActiveSessionIfMatch`. -/
  | clear (robotID sessionKey : Str)

/-- The atomic steps of the tasks. -/
inductive Step where
  | agent (a : AgentStep)
  | session (a : SessionStep)

namespace State

/-! ## Channels and maps -/

/-- `relayRegistration.enqueue`: place a message in the channel, unless it is full. -/
def enqueue (s : State) (reg : RelayRegistration) (msg : AgentControlMessage) (source : Source) :
    Option State :=
  match s.chans[reg.ch]? with
  | none => none
  | some queue =>
    if queue.length < relayChanCapacity then
      some { s with
        chans := s.chans.set reg.ch (queue ++ [msg])
        log := .placed reg msg source :: s.log }
    else none

/-- `dropOldestQueuedMessage`, unless the channel is empty. -/
def dropOldestQueuedMessage (s : State) (reg : RelayRegistration) : Option State :=
  match s.chans[reg.ch]? with
  | some (_ :: queue) => some { s with chans := s.chans.set reg.ch queue }
  | _ => none

/-- The registration under a relay id. -/
def relayOf (s : State) (relayID : Str) : Option RelayRegistration :=
  (s.relays.find? fun entry => entry.1 = relayID).map Prod.snd

/-- Overwrite a connection. -/
def setAgent (s : State) (i : Nat) (conn : AgentConn) : State :=
  { s with agents := s.agents.set i conn }

/-- Overwrite a call. -/
def setCall (s : State) (j : Nat) (call : Call) : State := { s with calls := s.calls.set j call }

/-- Overwrite a session task. -/
def setTask (s : State) (t : Nat) (task : SessionTask) : State :=
  { s with tasks := s.tasks.set t task }

/-- A non-blocking send on the queue of a connection. -/
def sendOn (s : State) (i : Nat) (msg : AgentControlMessage) : Option State :=
  s.agents[i]?.bind fun conn =>
    if conn.send.length < conn.kind.sendCapacity then
      some (s.setAgent i { conn with send := conn.send ++ [msg] })
    else none

/-- `AgentControlHub.Send`. -/
def send (s : State) (robotID : Str) (msg : AgentControlMessage) : Option State :=
  (s.conns (trimSpace robotID)).bind fun i => s.sendOn i msg

/-- `AgentControlHub.SendRelay`. -/
def sendRelay (s : State) (robotID : Str) (msg : AgentControlMessage) : Option State :=
  if trimSpace robotID = [] then none
  else (s.relay (trimSpace robotID)).bind fun i => s.sendOn i msg

/-- `AgentControlHub.ActiveSession`. -/
def activeSession (s : State) (robotID : Str) : Str := s.activeSessions.activeSession robotID

variable {s t : State}

/-- An enqueue that succeeds adds one message to one channel, and records it. -/
theorem eq_of_enqueue {reg : RelayRegistration} {msg : AgentControlMessage} {source : Source}
    (h : s.enqueue reg msg source = some t) :
    ∃ chans, t = { s with chans := chans, log := .placed reg msg source :: s.log } := by
  unfold enqueue at h
  split at h
  · cases h
  · split_ifs at h
    exact ⟨_, (Option.some.inj h).symm⟩

/-- A drop only changes channels. -/
theorem eq_of_dropOldestQueuedMessage {reg : RelayRegistration}
    (h : s.dropOldestQueuedMessage reg = some t) : ∃ chans, t = { s with chans := chans } := by
  unfold dropOldestQueuedMessage at h
  split at h
  · exact ⟨_, (Option.some.inj h).symm⟩
  · cases h

/-- A send only changes the send queue of one connection. -/
theorem eq_of_sendOn {i : Nat} {msg : AgentControlMessage} (h : s.sendOn i msg = some t) :
    ∃ conn queue, s.agents[i]? = some conn ∧ t = s.setAgent i { conn with send := queue } := by
  unfold sendOn at h
  obtain ⟨conn, hconn, h⟩ := Option.bind_eq_some_iff.mp h
  split_ifs at h
  exact ⟨conn, _, hconn, (Option.some.inj h).symm⟩

/-! ## Connections -/

/-- `handleAgentControlConnect` and `handleAgentRelayConnect`, up to the registration. A competing
control connection is turned away under `reject_new`. -/
def agentConnect (env : Env) (s : State) (kind : ConnKind) (robotID apiKey : Str) : Option State :=
  let robotID := trimSpace robotID
  let apiKey := trimSpace apiKey
  let conn : AgentConn := ⟨kind, robotID, [], .reading⟩
  if robotID ≠ [] ∧ apiKey ≠ [] ∧ env.validID robotID ∧ env.resolveControl robotID apiKey then
    match kind with
    | .control =>
      if (s.conns robotID).isSome ∧ env.rejectNew then some s
      else
        some { s with
          conns := Function.update s.conns robotID (some s.agents.length)
          agents := s.agents ++ [conn] }
    | .relay =>
      some { s with
        relay := Function.update s.relay robotID (some s.agents.length)
        agents := s.agents ++ [conn] }
  else none

/-- The lookup of `deliverResponse`, which takes the entry out of `pending`. -/
def receiveResponse (s : State) (i : Nat) (conn : AgentConn) (msg : AgentControlMessage) : State :=
  let requestID := trimSpace msg.requestID
  if requestID = [] then s
  else
    match s.pending requestID with
    | none => s
    | some call =>
      { s with pending := Function.update s.pending requestID none }.setAgent i
        { conn with phase := .responding call msg.response }

/-- The lookup of `deliverRelay`. A message for an unknown relay is answered with a close message to
the robot's own relay connection. -/
def receiveRelay (s : State) (i : Nat) (conn : AgentConn) (msg : AgentControlMessage)
    (cooled : Bool) : State :=
  let relayID := trimSpace msg.relayID
  if relayID = [] then s
  else
    match s.relayOf relayID with
    | some reg => s.setAgent i { conn with phase := .enqueueing msg reg }
    | none =>
      if cooled then
        (s.sendRelay conn.robotID
          { type := .relayClose, relayID := relayID, sessionKey := s.activeSession conn.robotID,
            error := "relay_not_registered".toList }).getD s
      else s

/-- `readAgentControlPump` and `readAgentRelayPump`: what a connection does with a message. Only the
control pump handles responses. -/
def receive (s : State) (i : Nat) (conn : AgentConn) (msg : AgentControlMessage) (cooled : Bool) :
    State :=
  if conn.kind = .control ∧ msg.type.isResponse then s.receiveResponse i conn msg
  else if msg.type.isRelay then s.receiveRelay i conn msg cooled
  else s

/-- The non-blocking send on the response channel of a call. -/
def respond (s : State) (call : Nat) (response : Str × Source) : State :=
  match s.calls[call]? with
  | none => s
  | some c => s.setCall call { c with respCh := c.respCh.or (some response) }

/-- The channel operations of a delivery. Only `relay_data` makes room for itself in a full
channel. -/
def deliver (s : State) (i : Nat) (conn : AgentConn) : Option State :=
  match conn.phase with
  | .responding call response =>
    some ((s.respond call (response, .agent conn.robotID)).setAgent i
      { conn with phase := .reading })
  | .enqueueing msg reg =>
    match s.enqueue reg msg (.agent conn.robotID) with
    | some s => some (s.setAgent i { conn with phase := .reading })
    | none =>
      if msg.type = .relayData then
        some (s.setAgent i { conn with phase := .dropping msg reg })
      else some (s.setAgent i { conn with phase := .reading })
  | .dropping msg reg =>
    some (((s.dropOldestQueuedMessage reg).getD s).setAgent i
      { conn with phase := .retrying msg reg })
  | .retrying msg reg =>
    some (((s.enqueue reg msg (.agent conn.robotID)).getD s).setAgent i
      { conn with phase := .reading })
  | .reading => none
  | .returned => none

/-- The end of a connection: `Unregister` or `UnregisterRelayConn`, if it is still the current one.
-/
def agentDisconnect (s : State) (i : Nat) (conn : AgentConn) : State :=
  let s := match conn.kind with
    | .control =>
      if s.conns conn.robotID = some i then
        { s with conns := Function.update s.conns conn.robotID none } else s
    | .relay =>
      if s.relay conn.robotID = some i then
        { s with relay := Function.update s.relay conn.robotID none } else s
  s.setAgent i { conn with phase := .returned }

/-! ## Calls -/

/-- The send of a call; without a control channel it is abandoned. -/
def callSend (s : State) (j : Nat) (call : Call) : State :=
  match s.send call.robotID call.request with
  | some s => s.setCall j { call with phase := .waiting }
  | none => s.setCall j { call with phase := .abandoned }

/-! ## Sessions and relays -/

/-- The session decision of an attach. -/
def decideSession (env : Env) (s : State) (t : Nat) (task : SessionTask) (evidence : Evidence) :
    State :=
  match decideAttach env.fold env.parseTime evidence (s.activeSession task.robotID) task.robotID
      task.userID task.sessionKey with
  | .reject _ => s.setTask t { task with phase := .finished }
  | .keep key => s.setTask t { task with sessionKey := key, phase := .upgrading }
  | .adopt key => s.setTask t { task with sessionKey := key, phase := .setting }

/-- Whether `SetActiveSession` finds another value in the map. -/
def changesSession (s : State) (task : SessionTask) : Bool :=
  trimSpace ((s.activeSessions task.robotID).getD []) ≠ task.sessionKey

/-- The map write of `SetActiveSession`. -/
def set (s : State) (t : Nat) (task : SessionTask) : State :=
  if s.changesSession task then
    { s with
      activeSessions := Function.update s.activeSessions task.robotID (some task.sessionKey)
      log := .sessionSet task.robotID task.sessionKey :: s.log
    }.setTask t { task with phase := .scanning }
  else
    { s with
      activeSessions := Function.update s.activeSessions task.robotID (some task.sessionKey)
    }.setTask t task.afterSet

/-- A relay is stale for a robot's active session: it belongs to the robot and has another key. -/
def isStale (env : Env) (robotID activeSessionKey : Str) (entry : RelayEntry) : Bool :=
  equalFold env.fold (trimSpace entry.2.robotID) robotID &&
    !equalFold env.fold (trimSpace entry.2.sessionKey) activeSessionKey

/-- The scan of `preemptRelaysForSession`. -/
def scan (env : Env) (s : State) (t : Nat) (task : SessionTask) : State :=
  s.setTask t { task with
    phase := .closing (s.relays.filter (isStale env task.robotID task.sessionKey)) }

/-- The message that closes a preempted relay. -/
def preemptMessage (task : SessionTask) (entry : RelayEntry) : AgentControlMessage :=
  { type := .relayClose, relayID := entry.1, sessionKey := task.sessionKey,
    error := "attach preempted by newer attach".toList }

/-- The first `enqueue` for a stale relay. -/
def close (s : State) (t : Nat) (task : SessionTask) (entry : RelayEntry)
    (stale : List RelayEntry) : State :=
  match s.enqueue entry.2 (preemptMessage task entry) .hub with
  | some s => s.setTask t { task with phase := .closing stale }
  | none => s.setTask t { task with phase := .dropping entry stale }

/-- The drop for a stale relay; without a message to drop, the relay is given up. -/
def drop (s : State) (t : Nat) (task : SessionTask) (entry : RelayEntry)
    (stale : List RelayEntry) : State :=
  match s.dropOldestQueuedMessage entry.2 with
  | some s => s.setTask t { task with phase := .retrying entry stale }
  | none => s.setTask t { task with phase := .closing stale }

/-- The second `enqueue` for a stale relay. -/
def retry (s : State) (t : Nat) (task : SessionTask) (entry : RelayEntry)
    (stale : List RelayEntry) : State :=
  ((s.enqueue entry.2 (preemptMessage task entry) .hub).getD s).setTask t
    { task with phase := .closing stale }

/-- The entries of `relays` under other ids. -/
def removeRelay (s : State) (relayID : Str) : List RelayEntry :=
  s.relays.filter fun entry => decide (entry.1 ≠ relayID)

/-- `RegisterRelay`, with a fresh channel. -/
def register (s : State) (t : Nat) (task : SessionTask) (relayID : Str) : State :=
  let reg : RelayRegistration := ⟨trimSpace task.robotID, trimSpace task.sessionKey, s.chans.length⟩
  { s with
    relays := s.removeRelay (trimSpace relayID) ++ [(trimSpace relayID, reg)]
    chans := s.chans ++ [[]]
  }.setTask t { task with phase := .registered (trimSpace relayID) s.chans.length }

/-- `UnregisterRelay`. -/
def unregister (s : State) (t : Nat) (task : SessionTask) (relayID : Str) : State :=
  { s with relays := s.removeRelay relayID }.setTask t
    { task with phase := .finished }

/-- `AgentControlHub.ClearActiveSessionIfMatch`. -/
def clearActiveSessionIfMatch (s : State) (robotID sessionKey : Str) : State :=
  { s with activeSessions := s.activeSessions.clearActiveSessionIfMatch robotID sessionKey }

/-! ## The step function -/

/-- A step of connection `i`. -/
def onAgent (s : State) (i : Nat) (f : AgentConn → Option State) : Option State :=
  s.agents[i]?.bind f

/-- A step of call `j` from one of its phases. -/
def onCall (s : State) (j : Nat) (phase : CallPhase) (f : Call → Option State) : Option State :=
  s.calls[j]?.bind fun call => if call.phase = phase then f call else none

/-- A step of session task `t`. -/
def onTask (s : State) (t : Nat) (f : SessionTask → Option State) : Option State :=
  s.tasks[t]?.bind f

/-- The steps of connections and calls. -/
def agentStep (env : Env) (s : State) : AgentStep → Option State
  | .agentConnect kind robotID apiKey => s.agentConnect env kind robotID apiKey
  | .receive i msg cooled => s.onAgent i fun conn =>
    if conn.phase = .reading then some (s.receive i conn msg cooled) else none
  | .deliver i => s.onAgent i fun conn => s.deliver i conn
  | .writePump i => s.onAgent i fun conn =>
    match conn.send with
    | [] => none
    | _ :: rest => some (s.setAgent i { conn with send := rest })
  | .agentDisconnect i => s.onAgent i fun conn =>
    if conn.phase = .reading then some (s.agentDisconnect i conn) else none
  | .call kind robotID requestID body =>
    some { s with
      calls := s.calls ++
        [⟨kind, trimSpace robotID, requestID, body, s.activeSession robotID, none, .begun⟩] }
  | .callPend j => s.onCall j .begun fun call =>
    some ({ s with pending := Function.update s.pending call.requestID (some j) }.setCall j
      { call with phase := .pended })
  | .callSend j => s.onCall j .pended fun call => some (s.callSend j call)
  | .callReturn j => s.onCall j .waiting fun call =>
    call.respCh.map fun r => s.setCall j { call with respCh := none, phase := .returned r.1 r.2 }
  | .callTimeout j => s.onCall j .waiting fun call =>
    some (s.setCall j { call with phase := .abandoned })
  | .callDelete j => s.onCall j .abandoned fun call =>
    some ({ s with pending := Function.update s.pending call.requestID none }.setCall j
      { call with phase := .failed })

/-- The steps of session tasks. -/
def sessionStep (env : Env) (s : State) : SessionStep → Option State
  | .attach robotID userID sessionKey port =>
    let robotID := trimSpace robotID
    if robotID ≠ [] ∧ 0 < port ∧ port ≤ 65535 ∧ env.robotOwnedBy robotID userID ∧
        (s.relay robotID).isSome then
      some { s with tasks := s.tasks ++ [⟨true, robotID, userID, sessionKey, .deciding⟩] }
    else none
  | .decide t evidence => s.onTask t fun task =>
    if task.phase = .deciding then some (s.decideSession env t task evidence) else none
  | .activate robotID sessionKey =>
    if trimSpace robotID ≠ [] ∧ trimSpace sessionKey ≠ [] then
      some { s with
        tasks := s.tasks ++ [⟨false, trimSpace robotID, [], trimSpace sessionKey, .setting⟩] }
    else none
  | .set t => s.onTask t fun task => if task.phase = .setting then some (s.set t task) else none
  | .scan t => s.onTask t fun task =>
    if task.phase = .scanning then some (s.scan env t task) else none
  | .close t n => s.onTask t fun task =>
    match task.phase with
    | .closing stale => stale[n]?.map fun entry => s.close t task entry (stale.eraseIdx n)
    | _ => none
  | .drop t => s.onTask t fun task =>
    match task.phase with
    | .dropping entry stale => some (s.drop t task entry stale)
    | _ => none
  | .retry t => s.onTask t fun task =>
    match task.phase with
    | .retrying entry stale => some (s.retry t task entry stale)
    | _ => none
  | .passDone t => s.onTask t fun task =>
    if task.phase = .closing [] then some (s.setTask t task.afterSet) else none
  -- the session stays as it was set
  | .upgradeFail t => s.onTask t fun task =>
    if task.phase = .upgrading then some (s.setTask t { task with phase := .finished }) else none
  | .register t relayID => s.onTask t fun task =>
    if task.isAttach ∧ task.phase = .upgrading ∧ trimSpace relayID ≠ [] then
      some (s.register t task relayID)
    else none
  | .consume t => s.onTask t fun task =>
    match task.phase with
    | .registered _ ch => s.dropOldestQueuedMessage ⟨task.robotID, task.sessionKey, ch⟩
    | _ => none
  | .unregister t => s.onTask t fun task =>
    match task.phase with
    | .registered relayID _ => some (s.unregister t task relayID)
    | _ => none
  | .clear robotID sessionKey => some (s.clearActiveSessionIfMatch robotID sessionKey)

/-- The step function. -/
def step (env : Env) (s : State) : Step → Option State
  | .agent a => s.agentStep env a
  | .session a => s.sessionStep env a

/-! ## Moves

To the relays, a step of a connection or of a call is one channel operation or none. -/

/-- A channel operation, or none. -/
inductive ChanOp (s : State) : State → Prop
  | none : ChanOp s s
  | enqueue {reg : RelayRegistration} {msg : AgentControlMessage} {source : Source} {u : State}
      (h : s.enqueue reg msg source = some u) : ChanOp s u
  | drop {reg : RelayRegistration} {u : State} (h : s.dropOldestQueuedMessage reg = some u) :
    ChanOp s u

/-- Two states with the same sessions and relays. -/
structure SameRelays (u t : State) : Prop where
  activeSessions : t.activeSessions = u.activeSessions
  relays : t.relays = u.relays
  tasks : t.tasks = u.tasks
  chans : t.chans = u.chans
  log : t.log = u.log

theorem SameRelays.refl (s : State) : SameRelays s s := ⟨rfl, rfl, rfl, rfl, rfl⟩

/-- A step of a connection or of a call, as the relays see it. -/
def AgentMove (s t : State) : Prop := ∃ u, ChanOp s u ∧ SameRelays u t

section AgentMove

variable {env : Env} {u : State}

theorem AgentMove.of_same (h : SameRelays s t) : AgentMove s t := ⟨s, .none, h⟩

theorem ChanOp.enqueue_getD (reg : RelayRegistration) (msg : AgentControlMessage)
    (source : Source) : ChanOp s ((s.enqueue reg msg source).getD s) := by
  cases henq : s.enqueue reg msg source with
  | none => exact .none
  | some u => exact .enqueue henq

theorem ChanOp.drop_getD (reg : RelayRegistration) :
    ChanOp s ((s.dropOldestQueuedMessage reg).getD s) := by
  cases hdrop : s.dropOldestQueuedMessage reg with
  | none => exact .none
  | some u => exact .drop hdrop

theorem sameRelays_sendOn {i : Nat} {msg : AgentControlMessage} (h : s.sendOn i msg = some t) :
    SameRelays s t := by
  obtain ⟨conn, queue, -, rfl⟩ := eq_of_sendOn h
  exact ⟨rfl, rfl, rfl, rfl, rfl⟩

theorem sameRelays_sendRelay_getD (robotID : Str) (msg : AgentControlMessage) :
    SameRelays s ((s.sendRelay robotID msg).getD s) := by
  cases hsend : s.sendRelay robotID msg with
  | none => exact .refl s
  | some u =>
    unfold sendRelay at hsend
    split_ifs at hsend
    obtain ⟨i, -, hon⟩ := Option.bind_eq_some_iff.mp hsend
    exact sameRelays_sendOn hon

theorem sameRelays_receive (i : Nat) (conn : AgentConn) (msg : AgentControlMessage)
    (cooled : Bool) : SameRelays s (s.receive i conn msg cooled) := by
  unfold receive
  split_ifs
  · unfold receiveResponse
    simp only
    split_ifs
    · exact .refl s
    · split <;> exact ⟨rfl, rfl, rfl, rfl, rfl⟩
  · unfold receiveRelay
    simp only
    by_cases hempty : trimSpace msg.relayID = []
    · rw [if_pos hempty]
      exact .refl s
    rw [if_neg hempty]
    cases s.relayOf (trimSpace msg.relayID) with
    | some reg => exact ⟨rfl, rfl, rfl, rfl, rfl⟩
    | none =>
      -- the answer goes to the robot, not to a relay
      simp only
      split_ifs
      · exact sameRelays_sendRelay_getD _ _
      · exact .refl s
  · exact .refl s

theorem agentMove_of_deliver {i : Nat} {conn : AgentConn} (h : s.deliver i conn = some t) :
    AgentMove s t := by
  unfold deliver at h
  split at h
  · cases h
    refine .of_same ?_
    unfold respond
    split <;> exact ⟨rfl, rfl, rfl, rfl, rfl⟩
  · split at h
    · rename_i u henq
      cases h
      exact ⟨u, .enqueue henq, rfl, rfl, rfl, rfl, rfl⟩
    · split_ifs at h <;> cases h <;> exact .of_same ⟨rfl, rfl, rfl, rfl, rfl⟩
  · rename_i msg reg hphase
    cases h
    exact ⟨_, .drop_getD reg, rfl, rfl, rfl, rfl, rfl⟩
  · rename_i msg reg hphase
    cases h
    exact ⟨_, .enqueue_getD reg msg _, rfl, rfl, rfl, rfl, rfl⟩
  · cases h
  · cases h

/-- **Connections and calls leave sessions and relays alone**, but for one channel operation. -/
theorem agentMove_of_agentStep {a : AgentStep} (h : s.agentStep env a = some t) :
    AgentMove s t := by
  cases a with
  | agentConnect kind robotID apiKey =>
    refine .of_same ?_
    simp only [agentStep, agentConnect] at h
    cases kind with
    | control =>
      simp only at h
      split_ifs at h <;> cases h <;> exact ⟨rfl, rfl, rfl, rfl, rfl⟩
    | relay =>
      simp only at h
      split_ifs at h
      cases h
      exact ⟨rfl, rfl, rfl, rfl, rfl⟩
  | receive i msg cooled =>
    obtain ⟨conn, -, h⟩ := Option.bind_eq_some_iff.mp h
    split_ifs at h
    cases h
    exact .of_same (sameRelays_receive i conn msg cooled)
  | deliver i =>
    obtain ⟨conn, -, h⟩ := Option.bind_eq_some_iff.mp h
    exact agentMove_of_deliver h
  | writePump i =>
    obtain ⟨conn, -, h⟩ := Option.bind_eq_some_iff.mp h
    split at h
    · cases h
    · cases h
      exact .of_same ⟨rfl, rfl, rfl, rfl, rfl⟩
  | agentDisconnect i =>
    obtain ⟨conn, -, h⟩ := Option.bind_eq_some_iff.mp h
    split_ifs at h
    cases h
    refine .of_same ?_
    unfold agentDisconnect
    simp only
    split <;> split_ifs <;> exact ⟨rfl, rfl, rfl, rfl, rfl⟩
  | call kind robotID requestID body =>
    cases h
    exact .of_same ⟨rfl, rfl, rfl, rfl, rfl⟩
  | callSend j =>
    obtain ⟨call, -, h⟩ := Option.bind_eq_some_iff.mp h
    split_ifs at h
    cases h
    refine .of_same ?_
    unfold callSend
    cases hsend : s.send call.robotID call.request with
    | none => exact ⟨rfl, rfl, rfl, rfl, rfl⟩
    | some u =>
      obtain ⟨i, -, hon⟩ := Option.bind_eq_some_iff.mp hsend
      obtain ⟨hactive, hrelays, htasks, hchans, hlog⟩ := sameRelays_sendOn hon
      exact ⟨hactive, hrelays, htasks, hchans, hlog⟩
  | callReturn j =>
    obtain ⟨call, -, h⟩ := Option.bind_eq_some_iff.mp h
    split_ifs at h
    obtain ⟨r, -, rfl⟩ := Option.map_eq_some_iff.mp h
    exact .of_same ⟨rfl, rfl, rfl, rfl, rfl⟩
  | callPend j | callTimeout j | callDelete j =>
    obtain ⟨call, -, h⟩ := Option.bind_eq_some_iff.mp h
    split_ifs at h
    cases h
    exact .of_same ⟨rfl, rfl, rfl, rfl, rfl⟩

end AgentMove

/-- A step of a session task or of signaling, with the guard it passed. -/
inductive SessionMove (env : Env) (s : State) : SessionStep → State → Prop
  | attach {robotID userID sessionKey : Str} {port : Nat}
      (hvalid : trimSpace robotID ≠ [] ∧ 0 < port ∧ port ≤ 65535 ∧
        env.robotOwnedBy (trimSpace robotID) userID ∧ (s.relay (trimSpace robotID)).isSome) :
      SessionMove env s (.attach robotID userID sessionKey port)
        { s with tasks := s.tasks ++ [⟨true, trimSpace robotID, userID, sessionKey, .deciding⟩] }
  | decide {n : Nat} {evidence : Evidence} {task : SessionTask} (htask : s.tasks[n]? = some task)
      (hphase : task.phase = .deciding) :
      SessionMove env s (.decide n evidence) (s.decideSession env n task evidence)
  | activate {robotID sessionKey : Str}
      (hvalid : trimSpace robotID ≠ [] ∧ trimSpace sessionKey ≠ []) :
      SessionMove env s (.activate robotID sessionKey)
        { s with
          tasks := s.tasks ++ [⟨false, trimSpace robotID, [], trimSpace sessionKey, .setting⟩] }
  | set {n : Nat} {task : SessionTask} (htask : s.tasks[n]? = some task)
      (hphase : task.phase = .setting) : SessionMove env s (.set n) (s.set n task)
  | scan {n : Nat} {task : SessionTask} (htask : s.tasks[n]? = some task)
      (hphase : task.phase = .scanning) : SessionMove env s (.scan n) (s.scan env n task)
  | close {n m : Nat} {task : SessionTask} {stale : List RelayEntry} {entry : RelayEntry}
      (htask : s.tasks[n]? = some task) (hphase : task.phase = .closing stale)
      (hentry : stale[m]? = some entry) :
      SessionMove env s (.close n m) (s.close n task entry (stale.eraseIdx m))
  | drop {n : Nat} {task : SessionTask} {entry : RelayEntry} {stale : List RelayEntry}
      (htask : s.tasks[n]? = some task) (hphase : task.phase = .dropping entry stale) :
      SessionMove env s (.drop n) (s.drop n task entry stale)
  | retry {n : Nat} {task : SessionTask} {entry : RelayEntry} {stale : List RelayEntry}
      (htask : s.tasks[n]? = some task) (hphase : task.phase = .retrying entry stale) :
      SessionMove env s (.retry n) (s.retry n task entry stale)
  | passDone {n : Nat} {task : SessionTask} (htask : s.tasks[n]? = some task)
      (hphase : task.phase = .closing []) :
      SessionMove env s (.passDone n) (s.setTask n task.afterSet)
  | upgradeFail {n : Nat} {task : SessionTask} (htask : s.tasks[n]? = some task)
      (hphase : task.phase = .upgrading) :
      SessionMove env s (.upgradeFail n) (s.setTask n { task with phase := .finished })
  | register {n : Nat} {relayID : Str} {task : SessionTask} (htask : s.tasks[n]? = some task)
      (hready : task.isAttach ∧ task.phase = .upgrading ∧ trimSpace relayID ≠ []) :
      SessionMove env s (.register n relayID) (s.register n task relayID)
  | consume {n : Nat} {task : SessionTask} {relayID : Str} {ch : Nat} {u : State}
      (htask : s.tasks[n]? = some task) (hphase : task.phase = .registered relayID ch)
      (hdrop : s.dropOldestQueuedMessage ⟨task.robotID, task.sessionKey, ch⟩ = some u) :
      SessionMove env s (.consume n) u
  | unregister {n : Nat} {task : SessionTask} {relayID : Str} {ch : Nat}
      (htask : s.tasks[n]? = some task) (hphase : task.phase = .registered relayID ch) :
      SessionMove env s (.unregister n) (s.unregister n task relayID)
  | clear {robotID sessionKey : Str} :
      SessionMove env s (.clear robotID sessionKey) (s.clearActiveSessionIfMatch robotID sessionKey)

/-- **What a session step can do.** -/
theorem sessionMove_of_sessionStep {env : Env} {a : SessionStep}
    (h : s.sessionStep env a = some t) : SessionMove env s a t := by
  cases a with
  | attach robotID userID sessionKey port =>
    simp only [sessionStep] at h
    split_ifs at h with hvalid
    cases h
    exact .attach hvalid
  | activate robotID sessionKey =>
    simp only [sessionStep] at h
    split_ifs at h with hvalid
    cases h
    exact .activate hvalid
  | decide n evidence =>
    obtain ⟨task, htask, h⟩ := Option.bind_eq_some_iff.mp h
    split_ifs at h with hphase
    cases h
    exact .decide htask hphase
  | set n =>
    obtain ⟨task, htask, h⟩ := Option.bind_eq_some_iff.mp h
    split_ifs at h with hphase
    cases h
    exact .set htask hphase
  | scan n =>
    obtain ⟨task, htask, h⟩ := Option.bind_eq_some_iff.mp h
    split_ifs at h with hphase
    cases h
    exact .scan htask hphase
  | close n m =>
    obtain ⟨task, htask, h⟩ := Option.bind_eq_some_iff.mp h
    split at h
    · rename_i stale hphase
      obtain ⟨entry, hentry, rfl⟩ := Option.map_eq_some_iff.mp h
      exact .close htask hphase hentry
    · cases h
  | drop n =>
    obtain ⟨task, htask, h⟩ := Option.bind_eq_some_iff.mp h
    split at h
    · rename_i entry stale hphase
      cases h
      exact .drop htask hphase
    · cases h
  | retry n =>
    obtain ⟨task, htask, h⟩ := Option.bind_eq_some_iff.mp h
    split at h
    · rename_i entry stale hphase
      cases h
      exact .retry htask hphase
    · cases h
  | passDone n =>
    obtain ⟨task, htask, h⟩ := Option.bind_eq_some_iff.mp h
    split_ifs at h with hphase
    cases h
    exact .passDone htask hphase
  | upgradeFail n =>
    obtain ⟨task, htask, h⟩ := Option.bind_eq_some_iff.mp h
    split_ifs at h with hphase
    cases h
    exact .upgradeFail htask hphase
  | register n relayID =>
    obtain ⟨task, htask, h⟩ := Option.bind_eq_some_iff.mp h
    split_ifs at h with hready
    cases h
    exact .register htask hready
  | consume n =>
    obtain ⟨task, htask, h⟩ := Option.bind_eq_some_iff.mp h
    split at h
    · rename_i relayID ch hphase
      exact .consume htask hphase h
    · cases h
  | unregister n =>
    obtain ⟨task, htask, h⟩ := Option.bind_eq_some_iff.mp h
    split at h
    · rename_i relayID ch hphase
      cases h
      exact .unregister htask hphase
    · cases h
  | clear robotID sessionKey =>
    cases h
    exact .clear

/-- Two states with the same connections and calls. -/
structure SameAgents (s t : State) : Prop where
  conns : t.conns = s.conns
  relay : t.relay = s.relay
  pending : t.pending = s.pending
  agents : t.agents = s.agents
  calls : t.calls = s.calls

theorem SameAgents.refl (s : State) : SameAgents s s := ⟨rfl, rfl, rfl, rfl, rfl⟩

section SameAgents

variable {env : Env}

theorem sameAgents_enqueue {reg : RelayRegistration} {msg : AgentControlMessage} {source : Source}
    (h : s.enqueue reg msg source = some t) : SameAgents s t := by
  obtain ⟨chans, rfl⟩ := eq_of_enqueue h
  exact ⟨rfl, rfl, rfl, rfl, rfl⟩

theorem sameAgents_dropOldest {reg : RelayRegistration}
    (h : s.dropOldestQueuedMessage reg = some t) : SameAgents s t := by
  obtain ⟨chans, rfl⟩ := eq_of_dropOldestQueuedMessage h
  exact ⟨rfl, rfl, rfl, rfl, rfl⟩

theorem sameAgents_enqueue_getD (reg : RelayRegistration) (msg : AgentControlMessage)
    (source : Source) : SameAgents s ((s.enqueue reg msg source).getD s) := by
  cases henq : s.enqueue reg msg source with
  | none => exact .refl s
  | some u => exact sameAgents_enqueue henq

theorem sameAgents_dropOldest_getD (reg : RelayRegistration) :
    SameAgents s ((s.dropOldestQueuedMessage reg).getD s) := by
  cases hdrop : s.dropOldestQueuedMessage reg with
  | none => exact .refl s
  | some u => exact sameAgents_dropOldest hdrop

theorem SameAgents.setTask (h : SameAgents s t) (n : Nat) (task : SessionTask) :
    SameAgents s (t.setTask n task) :=
  ⟨h.conns, h.relay, h.pending, h.agents, h.calls⟩

/-- **Session tasks leave connections and calls alone.** -/
theorem sameAgents_sessionStep {a : SessionStep} (h : s.sessionStep env a = some t) :
    SameAgents s t := by
  cases sessionMove_of_sessionStep h with
  | attach | activate | scan | passDone | upgradeFail | register | unregister =>
    exact ⟨rfl, rfl, rfl, rfl, rfl⟩
  | decide =>
    unfold decideSession
    split <;> exact ⟨rfl, rfl, rfl, rfl, rfl⟩
  | set =>
    unfold set
    split <;> exact ⟨rfl, rfl, rfl, rfl, rfl⟩
  | close =>
    unfold close
    split
    · rename_i u henq
      exact (sameAgents_enqueue henq).setTask _ _
    · exact (SameAgents.refl s).setTask _ _
  | drop =>
    unfold drop
    split
    · rename_i u hdrop
      exact (sameAgents_dropOldest hdrop).setTask _ _
    · exact (SameAgents.refl s).setTask _ _
  | retry => exact (sameAgents_enqueue_getD _ _ .hub).setTask _ _
  | consume htask hphase hdrop => exact sameAgents_dropOldest hdrop
  | clear => exact ⟨rfl, rfl, rfl, rfl, rfl⟩

end SameAgents

end State

/-- **The hub machine**, from `NewAgentControlHub`. -/
def machine (env : Env) : Machine State Step where
  init := ⟨fun _ => none, fun _ => none, fun _ => none, fun _ => none, [], [], [], [], [], []⟩
  step := State.step env

/-- A deployment that accepts all keys and users, and knows no times. -/
def sampleEnv : Env where
  validID := isStandardUUID
  resolveControl _ _ := true
  robotOwnedBy _ _ := true
  fold := asciiFold
  parseTime _ := none
  rejectNew := true

end Roboat.Relay
