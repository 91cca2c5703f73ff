import Roboat.Relay.Hub
import Roboat.Text.Base64

/-! # Client data on the data plane

What the client of an established relay sends goes to the robot as `relay_data`. The reader of the
client's websocket calls `SendRelay` for each message: this looks up the robot's data-plane
connection and puts the message into the connection's `send` channel, from where the connection's
write pump takes it to the websocket.

A message is out of the reader's hands once it is in the channel. If the connection is lost or
replaced then, the message stays behind, and the next one goes to the connection that the hub has by
now: the robot gets a stream with a hole in it (`gapless_fails`). There is none as long as a message
joins a connection only when those before it have been written or wait at the same connection
(`gapless_of_inOrder`). -/

namespace Roboat.Relay.DataPlane

/-! ## The machine -/

/-- The capacity of a connection's `send` channel. -/
def sendCapacity : Nat := 2048

/-- A message for a robot. `relay` is the relay whose client has sent it, which nobody reads. -/
structure Queued where
  relay : Option Nat
  msg : AgentControlMessage
  deriving DecidableEq, Repr

/-- Where `handleAgentRelayConnect` stands, after `RegisterRelayConn`. -/
inductive HandlerPhase where
  /-- Before it closes the connection it replaced. -/
  | replacing (prev : Nat)
  /-- In `readAgentRelayPump`. -/
  | reading
  /-- The read pump has returned, before `UnregisterRelayConn`. -/
  | unregistering
  | returned
  deriving DecidableEq, Repr

/-- Where `writeAgentRelayPump` stands. -/
inductive WriterPhase where
  | notStarted
  | selecting
  /-- A message was taken, before `WriteJSON`. -/
  | writing (q : Queued)
  | returned
  deriving DecidableEq, Repr

/-- `agentRelayConn`, with its two goroutines. -/
structure Conn where
  robotID : Str
  send : List Queued := []
  /-- `done` and the websocket are closed. -/
  closed : Bool := false
  handler : HandlerPhase := .reading
  writer : WriterPhase := .selecting
  deriving DecidableEq, Repr

/-- Where the reader of a client stands. -/
inductive ReaderPhase where
  /-- In `ReadMessage`. -/
  | reading
  /-- In `SendRelay`, before the lookup. -/
  | looking (msg : AgentControlMessage)
  /-- In `SendRelay`, with the connection that it has found. -/
  | pushing (msg : AgentControlMessage) (i : Nat)
  | returned
  deriving DecidableEq, Repr

/-- The connection that the reader has found. -/
def ReaderPhase.target : ReaderPhase → Option Nat
  | pushing _ i => some i
  | _ => none

/-- A relay that `handleRelayWS` has established. `sent` is history: the messages made of what the
client has sent. -/
structure ClientRelay where
  robotID : Str
  relayID : Str
  sessionKey : Str
  reader : ReaderPhase := .reading
  sent : List AgentControlMessage := []
  deriving DecidableEq, Repr

/-- Where another caller of `SendRelay` stands. -/
inductive CallPhase where
  | looking
  | pushing (i : Nat)
  | returned
  deriving DecidableEq, Repr

/-- A call of `SendRelay` with a message that is not `relay_data`. -/
structure Call where
  robotID : Str
  msg : AgentControlMessage
  phase : CallPhase := .looking
  deriving DecidableEq, Repr

/-- The hub's `relay` map, and all connections, relays and other calls so far. `written` is history:
the messages in the order in which they were written, and by which connection. -/
structure State where
  relay : Str → Option Nat
  conns : List Conn
  relays : List ClientRelay
  calls : List Call
  written : List (Nat × Queued)

/-- The steps of a write pump. -/
inductive WriterStep where
  /-- It takes a message. -/
  | take
  | write
  | writeFail
  /-- A ping fails, or `done` is closed. -/
  | finish
  deriving DecidableEq, Repr

/-- The steps of the reader of a client. -/
inductive ReaderStep where
  /-- The client has sent a message. -/
  | read (payload : List UInt8)
  | readFail
  /-- The two halves of `SendRelay`. -/
  | lookup
  | push
  deriving DecidableEq, Repr

/-- The atomic steps. -/
inductive Step where
  /-- A robot connects, up to `RegisterRelayConn`. -/
  | register (robotID : Str)
  | closePrev (i : Nat)
  /-- The read pump of a connection fails. -/
  | readFail (i : Nat)
  | unregister (i : Nat)
  | writer (i : Nat) (a : WriterStep)
  | establish (robotID relayID sessionKey : Str)
  | reader (r : Nat) (a : ReaderStep)
  /-- `SendRelay` of a `relay_open` or a `relay_close`, and its two halves. -/
  | sendRelay (robotID : Str) (msg : AgentControlMessage)
  | lookupCall (k : Nat)
  | pushCall (k : Nat)
  deriving DecidableEq, Repr

/-- What the reader makes of a message of its client. -/
def ClientRelay.data (relay : ClientRelay) (payload : List UInt8) : AgentControlMessage :=
  { type := .relayData, relayID := relay.relayID, sessionKey := relay.sessionKey,
    data := Base64.encode payload }

namespace State

def setConn (s : State) (i : Nat) (conn : Conn) : State := { s with conns := s.conns.set i conn }

def setReader (s : State) (r : Nat) (relay : ClientRelay) (phase : ReaderPhase) : State :=
  { s with relays := s.relays.set r { relay with reader := phase } }

def setCall (s : State) (k : Nat) (call : Call) (phase : CallPhase) : State :=
  { s with calls := s.calls.set k { call with phase := phase } }

/-- `close` of another connection. -/
def closeConn (s : State) (i : Nat) : State :=
  match s.conns[i]? with
  | some conn => s.setConn i { conn with closed := true }
  | none => s

/-- `RegisterRelayConn` of a new connection. Its write pump starts when the connection that was
there before, if any, has been closed. -/
def registerRelayConn (s : State) (robotID : Str) : State :=
  { s with
    relay := Function.update s.relay robotID (some s.conns.length)
    conns := s.conns ++ [match s.relay robotID with
      | some prev => { robotID := robotID, handler := .replacing prev, writer := .notStarted }
      | none => { robotID := robotID }] }

/-- `UnregisterRelayConn`, and the end of the handler. -/
def unregisterRelayConn (s : State) (i : Nat) (conn : Conn) : State :=
  { s with
    -- one that was replaced leaves the map to its successor
    relay := if s.relay conn.robotID = some i then Function.update s.relay conn.robotID none
      else s.relay }.setConn i { conn with handler := .returned, closed := true }

/-- The first half of `SendRelay`. -/
def relayConn (s : State) (robotID : Str) : Option Nat :=
  if trimSpace robotID = [] then none else s.relay (trimSpace robotID)

/-- The second half of `SendRelay`: `none` when the channel is full. -/
def offer (s : State) (i : Nat) (q : Queued) : Option State :=
  match s.conns[i]? with
  | some conn =>
    if conn.send.length < sendCapacity then
      some (s.setConn i { conn with send := conn.send ++ [q] })
    else none
  | none => none

/-- `WriteJSON` succeeds. -/
def finishWrite (s : State) (i : Nat) (conn : Conn) (q : Queued) : State :=
  { s.setConn i { conn with writer := .selecting } with written := s.written ++ [(i, q)] }

/-- A step of the write pump of connection `i`. -/
def writerStep (s : State) (i : Nat) (conn : Conn) : WriterStep → Option State
  | .take =>
    match conn.writer, conn.send with
    | .selecting, q :: send => some (s.setConn i { conn with writer := .writing q, send := send })
    | _, _ => none
  | .write =>
    match conn.writer with
    | .writing q =>
      -- a write to a closed websocket fails
      if conn.closed = false then some (s.finishWrite i conn q) else none
    | _ => none
  | .writeFail =>
    match conn.writer with
    -- the message is gone, and so is the pump
    | .writing _ => some (s.setConn i { conn with writer := .returned, closed := true })
    | _ => none
  | .finish =>
    -- what is in the channel stays there
    if conn.writer = .selecting then
      some (s.setConn i { conn with writer := .returned, closed := true })
    else none

/-- A step of the reader of relay `r`. -/
def readerStep (s : State) (r : Nat) (relay : ClientRelay) : ReaderStep → Option State
  | .read payload =>
    if relay.reader = .reading then
      some (s.setReader r { relay with sent := relay.sent ++ [relay.data payload] }
        (.looking (relay.data payload)))
    else none
  | .readFail =>
    if relay.reader = .reading then some (s.setReader r relay .returned) else none
  | .lookup =>
    match relay.reader with
    | .looking msg =>
      match s.relayConn relay.robotID with
      | some i => some (s.setReader r relay (.pushing msg i))
      -- a message that was not sent ends the relay
      | none => some (s.setReader r relay .returned)
    | _ => none
  | .push =>
    match relay.reader with
    | .pushing msg i =>
      match s.offer i ⟨some r, msg⟩ with
      -- `SendRelay` reports success: the message is in the channel
      | some t => some (t.setReader r relay .reading)
      | none => some (s.setReader r relay .returned)
    | _ => none

/-- The step function. -/
def step (s : State) : Step → Option State
  | .register robotID =>
    if trimSpace robotID = [] then none else some (s.registerRelayConn (trimSpace robotID))
  | .closePrev i => s.conns[i]?.bind fun conn =>
    match conn.handler, conn.writer with
    | .replacing prev, .notStarted =>
      -- `prev.close()`, and then the pumps start
      some ((s.setConn i
        { conn with handler := .reading, writer := .selecting }).closeConn prev)
    | _, _ => none
  | .readFail i => s.conns[i]?.bind fun conn =>
    if conn.handler = .reading then
      some (s.setConn i { conn with handler := .unregistering, closed := true })
    else none
  | .unregister i => s.conns[i]?.bind fun conn =>
    if conn.handler = .unregistering then some (s.unregisterRelayConn i conn) else none
  | .writer i a => s.conns[i]?.bind fun conn => s.writerStep i conn a
  | .establish robotID relayID sessionKey =>
    some { s with relays := s.relays ++
      [{ robotID := robotID, relayID := relayID, sessionKey := sessionKey }] }
  | .reader r a => s.relays[r]?.bind fun relay => s.readerStep r relay a
  | .sendRelay robotID msg =>
    -- `relay_data` is sent by the readers only
    if msg.type = .relayData then none
    else some { s with calls := s.calls ++ [{ robotID := robotID, msg := msg }] }
  | .lookupCall k => s.calls[k]?.bind fun call =>
    if call.phase = .looking then
      some (s.setCall k call (((s.relayConn call.robotID).map CallPhase.pushing).getD .returned))
    else none
  | .pushCall k => s.calls[k]?.bind fun call =>
    match call.phase with
    | .pushing i => some (((s.offer i ⟨none, call.msg⟩).getD s).setCall k call .returned)
    | _ => none

end State

/-- **The data plane**, with no connection and no relay. -/
def machine : Machine State Step where
  init := ⟨fun _ => none, [], [], [], []⟩
  step := State.step

/-! ## What waits and what was written -/

namespace Conn

/-- The messages that the write pump may still write. -/
def outgoing (conn : Conn) : List Queued :=
  match conn.writer with
  -- nobody reads the channel any more
  | .returned => []
  | .writing q => q :: conn.send
  | _ => conn.send

theorem outgoing_push {conn : Conn} (h : conn.writer ≠ .returned) (q : Queued) :
    ({ conn with send := conn.send ++ [q] } : Conn).outgoing = conn.outgoing ++ [q] := by
  unfold outgoing
  cases hwriter : conn.writer with
  | returned => exact absurd hwriter h
  | _ => rfl

/-- Those of relay `r`. -/
def waiting (conn : Conn) (r : Nat) : List AgentControlMessage :=
  (conn.outgoing.filter fun q => q.relay == some r).map Queued.msg

end Conn

namespace State

/-- The messages of relay `r` that wait at connection `i` to be written. -/
def waiting (s : State) (r i : Nat) : List AgentControlMessage :=
  (s.conns[i]?.map fun conn => conn.waiting r).getD []

/-- The messages of relay `r` that were written, in this order. -/
def writtenOf (s : State) (r : Nat) : List AgentControlMessage :=
  (s.written.filter fun w => w.2.relay == some r).map fun w => w.2.msg

/-- The connections they were written to. -/
def writtenAt (s : State) (r : Nat) : List Nat :=
  (s.written.filter fun w => w.2.relay == some r).map Prod.fst

/-- **No gaps**: what was written of a relay is a prefix of what its client has sent. -/
def Gapless (s : State) : Prop :=
  ∀ r relay, s.relays[r]? = some relay → s.writtenOf r <+: relay.sent

/-- All messages that the client of a relay has sent but the last were written, or wait at
connection `i` to be written. -/
def Follows (s : State) (r i : Nat) (relay : ClientRelay) : Prop :=
  (s.writtenOf r).length + (s.waiting r i).length + 1 = relay.sent.length

/-- **The condition**: a message joins a connection whose write pump has not returned only when
those that its client has sent before were written, or wait at the same connection. -/
def InOrder (s : State) : Step → Prop
  | .reader r .push => ∀ relay ∈ s.relays[r]?, ∀ i ∈ relay.reader.target, ∀ conn ∈ s.conns[i]?,
      conn.writer ≠ .returned → conn.send.length < sendCapacity → s.Follows r i relay
  | _ => True

instance (s : State) (r i : Nat) (relay : ClientRelay) : Decidable (s.Follows r i relay) :=
  inferInstanceAs (Decidable (_ = _))

instance (s : State) : ∀ a, Decidable (s.InOrder a)
  | .reader r .push => Option.decidableForallMem s.relays[r]?
  | .reader _ (.read _) | .reader _ .readFail | .reader _ .lookup => isTrue trivial
  | .register _ | .closePrev _ | .readFail _ | .unregister _ | .writer _ _ => isTrue trivial
  | .establish _ _ _ | .sendRelay _ _ | .lookupCall _ | .pushCall _ => isTrue trivial

end State

/-! ## Moves -/

/-- No message of relay `r` moves: a connection may be added, end, or change otherwise. -/
structure Same (r : Nat) (s t : State) : Prop where
  waiting : ∀ i, t.waiting r i = s.waiting r i ∨ t.waiting r i = []
  writtenOf : t.writtenOf r = s.writtenOf r
  writtenAt : t.writtenAt r = s.writtenAt r
  length : s.conns.length ≤ t.conns.length
  hub : ∀ robotID i, t.relay robotID = some i → s.relay robotID = some i ∨
    (s.conns.length ≤ i ∧ i < t.conns.length)

/-- A step, by what it does to the messages of the relays. -/
inductive Move (s : State) : Step → State → Prop
  | quiet {a : Step} {t : State} (hsame : ∀ r, Same r s t) (hrelays : t.relays = s.relays) :
    Move s a t
  | write {i : Nat} {conn : Conn} {q : Queued} (hi : s.conns[i]? = some conn)
      (hwriter : conn.writer = .writing q) :
    Move s (.writer i .write) (s.finishWrite i conn q)
  | establish (robotID relayID sessionKey : Str) :
    Move s (.establish robotID relayID sessionKey) { s with relays := s.relays ++
      [{ robotID := robotID, relayID := relayID, sessionKey := sessionKey }] }
  | read {r : Nat} {relay : ClientRelay} (payload : List UInt8) (hr : s.relays[r]? = some relay)
      (hreader : relay.reader = .reading) :
    Move s (.reader r (.read payload))
      (s.setReader r { relay with sent := relay.sent ++ [relay.data payload] }
        (.looking (relay.data payload)))
  /-- The reader ends, with or without a message in hand. -/
  | finish {r : Nat} {a : ReaderStep} {relay : ClientRelay} (hr : s.relays[r]? = some relay) :
    Move s (.reader r a) (s.setReader r relay .returned)
  | lookup {r i : Nat} {relay : ClientRelay} {msg : AgentControlMessage}
      (hr : s.relays[r]? = some relay) (hreader : relay.reader = .looking msg)
      (hconn : s.relay (trimSpace relay.robotID) = some i) :
    Move s (.reader r .lookup) (s.setReader r relay (.pushing msg i))
  | push {r i : Nat} {relay : ClientRelay} {msg : AgentControlMessage} {conn : Conn}
      (hr : s.relays[r]? = some relay) (hreader : relay.reader = .pushing msg i)
      (hi : s.conns[i]? = some conn) (hroom : conn.send.length < sendCapacity) :
    Move s (.reader r .push)
      ((s.setConn i { conn with send := conn.send ++ [⟨some r, msg⟩] }).setReader r relay .reading)

section Moves

variable {s t : State} {i r : Nat} {conn conn' : Conn}

theorem waiting_of_some (hi : s.conns[i]? = some conn) : s.waiting r i = conn.waiting r := by
  rw [State.waiting, hi]
  rfl

theorem waiting_of_none (hi : s.conns[i]? = none) : s.waiting r i = [] := by
  rw [State.waiting, hi]
  rfl

theorem waiting_setConn_self (hi : s.conns[i]? = some conn) :
    (s.setConn i conn').waiting r i = conn'.waiting r :=
  waiting_of_some (Tasks.set_self hi)

theorem waiting_setConn_of_ne {j : Nat} (hij : j ≠ i) :
    (s.setConn i conn').waiting r j = s.waiting r j := by
  rw [State.waiting, State.waiting, State.setConn, List.getElem?_set_ne (Ne.symm hij)]

theorem writtenOf_finishWrite {q : Queued} (hq : q.relay = some r) :
    (s.finishWrite i conn q).writtenOf r = s.writtenOf r ++ [q.msg] := by
  simp [State.writtenOf, State.finishWrite, hq]

theorem writtenAt_finishWrite {q : Queued} (hq : q.relay = some r) :
    (s.finishWrite i conn q).writtenAt r = s.writtenAt r ++ [i] := by
  simp [State.writtenAt, State.finishWrite, hq]

namespace Same

theorem refl (r : Nat) (s : State) : Same r s s where
  waiting _ := Or.inl rfl
  writtenOf := rfl
  writtenAt := rfl
  length := Nat.le_refl _
  hub _ _ h := Or.inl h

/-- A connection changes, and keeps what waits at it, or nothing waits there any more. -/
theorem setConn (hi : s.conns[i]? = some conn)
    (hwaiting : conn'.waiting r = conn.waiting r ∨ conn'.waiting r = []) :
    Same r s (s.setConn i conn') where
  waiting j := by
    by_cases hij : j = i
    · subst hij
      rw [waiting_setConn_self hi, waiting_of_some hi]
      exact hwaiting
    · exact Or.inl (waiting_setConn_of_ne hij)
  writtenOf := rfl
  writtenAt := rfl
  length := by
    rw [State.setConn, List.length_set]
  hub _ _ h := Or.inl h

theorem trans {u : State} (h : Same r s t) (h' : Same r t u) : Same r s u where
  waiting i := by
    rcases h'.waiting i with heq | hnil
    · rw [heq]
      exact h.waiting i
    · exact Or.inr hnil
  writtenOf := h'.writtenOf.trans h.writtenOf
  writtenAt := h'.writtenAt.trans h.writtenAt
  length := Nat.le_trans h.length h'.length
  hub robotID i hi := by
    rcases h'.hub robotID i hi with hmid | ⟨hle, hlt⟩
    · rcases h.hub robotID i hmid with hold | ⟨hle, hlt⟩
      · exact Or.inl hold
      · exact Or.inr ⟨hle, Nat.lt_of_lt_of_le hlt h'.length⟩
    · exact Or.inr ⟨Nat.le_trans h.length hle, hlt⟩

/-- A message of another relay is written. -/
theorem finishWrite {q : Queued} (hi : s.conns[i]? = some conn) (hwriter : conn.writer = .writing q)
    (hq : q.relay ≠ some r) : Same r s (s.finishWrite i conn q) := by
  have hset : Same r s (s.setConn i { conn with writer := .selecting }) := by
    refine setConn hi (Or.inl ?_)
    simp [Conn.waiting, Conn.outgoing, hwriter, hq]
  refine { hset with writtenOf := ?_, writtenAt := ?_ }
  · simp [State.writtenOf, State.finishWrite, hq]
  · simp [State.writtenAt, State.finishWrite, hq]

/-- Other calls and the readers do not matter. -/
theorem setCalls (h : Same r s t) (calls : List Call) : Same r s { t with calls := calls } :=
  { h with }

theorem setRelays (h : Same r s t) (relays : List ClientRelay) :
    Same r s { t with relays := relays } :=
  { h with }

theorem closeConn (r : Nat) (s : State) (i : Nat) : Same r s (s.closeConn i) := by
  unfold State.closeConn
  split
  · rename_i conn hi
    exact setConn hi (Or.inl rfl)
  · exact refl r s

/-- A new connection. -/
theorem register (r : Nat) (s : State) (robotID : Str) :
    Same r s (s.registerRelayConn robotID) where
  waiting i := by
    by_cases hi : i < s.conns.length
    · obtain ⟨conn, hconn⟩ := Tasks.exists_of_lt hi
      rw [waiting_of_some hconn]
      exact Or.inl (waiting_of_some (Tasks.append_of_some hconn))
    · refine Or.inr ?_
      cases hconn : (s.registerRelayConn robotID).conns[i]? with
      | none => exact waiting_of_none hconn
      | some conn =>
        rw [waiting_of_some hconn]
        rcases Tasks.of_append hconn with ⟨-, rfl⟩ | ⟨hlt, -⟩
        · cases s.relay robotID <;> rfl
        · exact absurd hlt hi
  writtenOf := rfl
  writtenAt := rfl
  length := by
    simp [State.registerRelayConn]
  hub key i hi := by
    simp only [State.registerRelayConn, Function.update_apply] at hi
    split_ifs at hi with hkey
    · cases hi
      exact Or.inr ⟨Nat.le_refl _, by simp [State.registerRelayConn]⟩
    · exact Or.inl hi

/-- The hub forgets a connection. -/
theorem unregister (r : Nat) (hi : s.conns[i]? = some conn) :
    Same r s (s.unregisterRelayConn i conn) := by
  have hset : Same r s (s.setConn i { conn with handler := .returned, closed := true }) :=
    setConn hi (Or.inl rfl)
  refine { hset with hub := fun key j hj => ?_ }
  simp only [State.unregisterRelayConn, State.setConn] at hj
  split_ifs at hj with hcurrent
  · rw [Function.update_apply] at hj
    split_ifs at hj
    exact Or.inl hj
  · exact Or.inl hj

/-- A message joins a connection that is not of this relay, or will not be written. -/
theorem push {q : Queued} (hi : s.conns[i]? = some conn)
    (hq : q.relay ≠ some r ∨ conn.writer = .returned) :
    Same r s (s.setConn i { conn with send := conn.send ++ [q] }) := by
  refine setConn hi (Or.inl ?_)
  by_cases hwriter : conn.writer = .returned
  · simp [Conn.waiting, Conn.outgoing, hwriter]
  · simp [Conn.waiting, Conn.outgoing_push hwriter, hq.resolve_right hwriter]

theorem offer {msg : AgentControlMessage} (r : Nat) (h : s.offer i ⟨none, msg⟩ = some t) :
    Same r s t := by
  unfold State.offer at h
  split at h
  · rename_i conn hi
    split_ifs at h
    cases h
    exact push hi (Or.inl (Option.some_ne_none r).symm)
  · cases h

end Same

theorem relays_closeConn (s : State) (i : Nat) : (s.closeConn i).relays = s.relays := by
  unfold State.closeConn
  split <;> rfl

theorem relays_offer {q : Queued} (h : s.offer i q = some t) : t.relays = s.relays := by
  unfold State.offer at h
  split at h
  · split_ifs at h
    cases h
    rfl
  · cases h

/-- A writer's steps are moves. -/
theorem move_of_writerStep {a : WriterStep} (hi : s.conns[i]? = some conn)
    (h : s.writerStep i conn a = some t) : Move s (.writer i a) t := by
  cases a with
  | take =>
    simp only [State.writerStep] at h
    split at h
    · rename_i q send hwriter hsend
      cases h
      refine .quiet (fun r => .setConn hi (Or.inl ?_)) rfl
      simp [Conn.waiting, Conn.outgoing, hwriter, hsend]
    · cases h
  | write =>
    simp only [State.writerStep] at h
    split at h
    · rename_i q hwriter
      split_ifs at h
      cases h
      exact .write hi hwriter
    · cases h
  | writeFail =>
    simp only [State.writerStep] at h
    split at h
    · cases h
      exact .quiet (fun r => .setConn hi (Or.inr rfl)) rfl
    · cases h
  | finish =>
    simp only [State.writerStep] at h
    split_ifs at h
    cases h
    exact .quiet (fun r => .setConn hi (Or.inr rfl)) rfl

theorem relay_of_relayConn {robotID : Str} (h : s.relayConn robotID = some i) :
    s.relay (trimSpace robotID) = some i := by
  unfold State.relayConn at h
  split_ifs at h
  exact h

/-- A reader's steps are moves. -/
theorem move_of_readerStep {relay : ClientRelay} {a : ReaderStep} (hr : s.relays[r]? = some relay)
    (h : s.readerStep r relay a = some t) : Move s (.reader r a) t := by
  cases a with
  | read payload =>
    simp only [State.readerStep] at h
    split_ifs at h with hreader
    cases h
    exact .read payload hr hreader
  | readFail =>
    simp only [State.readerStep] at h
    split_ifs at h with hreader
    cases h
    exact .finish hr
  | lookup =>
    simp only [State.readerStep] at h
    split at h
    · rename_i msg hreader
      split at h
      · rename_i i hconn
        cases h
        exact .lookup hr hreader (relay_of_relayConn hconn)
      · cases h
        exact .finish hr
    · cases h
  | push =>
    simp only [State.readerStep] at h
    split at h
    · rename_i msg i hreader
      split at h
      · rename_i u hoffer
        cases h
        unfold State.offer at hoffer
        split at hoffer
        · rename_i conn hi
          split_ifs at hoffer with hroom
          cases hoffer
          exact .push hr hreader hi hroom
        · cases hoffer
      · cases h
        exact .finish hr
    · cases h

/-- **What a step does.** -/
theorem move_of_step {a : Step} (h : s.step a = some t) : Move s a t := by
  cases a with
  | register robotID =>
    simp only [State.step] at h
    split_ifs at h
    cases h
    exact .quiet (fun r => .register r s _) rfl
  | closePrev i =>
    obtain ⟨conn, hi, h⟩ := Option.bind_eq_some_iff.mp h
    split at h
    · rename_i prev hhandler hwriter
      cases h
      refine .quiet (fun r => .trans (.setConn hi (Or.inl ?_)) (.closeConn r _ prev))
        (relays_closeConn _ prev)
      simp [Conn.waiting, Conn.outgoing, hwriter]
    · cases h
  | readFail i =>
    obtain ⟨conn, hi, h⟩ := Option.bind_eq_some_iff.mp h
    split_ifs at h
    cases h
    exact .quiet (fun _ => .setConn hi (Or.inl rfl)) rfl
  | unregister i =>
    obtain ⟨conn, hi, h⟩ := Option.bind_eq_some_iff.mp h
    split_ifs at h
    cases h
    exact .quiet (fun r => .unregister r hi) rfl
  | writer i a =>
    obtain ⟨conn, hi, h⟩ := Option.bind_eq_some_iff.mp h
    exact move_of_writerStep hi h
  | establish robotID relayID sessionKey =>
    cases h
    exact .establish robotID relayID sessionKey
  | reader r a =>
    obtain ⟨relay, hr, h⟩ := Option.bind_eq_some_iff.mp h
    exact move_of_readerStep hr h
  | sendRelay robotID msg =>
    simp only [State.step] at h
    split_ifs at h
    cases h
    exact .quiet (fun r => (Same.refl r s).setCalls _) rfl
  | lookupCall k =>
    obtain ⟨call, -, h⟩ := Option.bind_eq_some_iff.mp h
    split_ifs at h
    cases h
    exact .quiet (fun r => (Same.refl r s).setCalls _) rfl
  | pushCall k =>
    obtain ⟨call, -, h⟩ := Option.bind_eq_some_iff.mp h
    split at h
    · rename_i i hphase
      cases h
      cases hoffer : s.offer i ⟨none, call.msg⟩ with
      | none => exact .quiet (fun r => (Same.refl r s).setCalls _) rfl
      | some u =>
        have hrelays : u.relays = s.relays := relays_offer hoffer
        exact .quiet (fun r => (Same.offer r hoffer).setCalls _) hrelays
    · cases h

end Moves

/-! ## The stream of a relay -/

/-- Where the messages of relay `r` are, `placed` being those for which `SendRelay` is over. All
that wait are at one connection, `home`, and go on where what was written ends. -/
structure Stream (s : State) (r home : Nat) (robotID : Str) (placed : List AgentControlMessage) :
    Prop where
  elsewhere : ∀ i, i ≠ home → s.waiting r i = []
  next : s.writtenOf r ++ s.waiting r home <+: placed
  -- connections are numbered as they register, and their messages are written in this order
  sorted : (s.writtenAt r).Pairwise (· ≤ ·)
  writtenAt_le : ∀ i ∈ s.writtenAt r, i ≤ home
  home_le : home ≤ s.conns.length
  home_le_hub : ∀ i, s.relay robotID = some i → home ≤ i

namespace Stream

variable {s t : State} {r home i : Nat} {robotID : Str} {placed placed' : List AgentControlMessage}
  {conn : Conn}

/-- What was written is a prefix of what was placed. -/
theorem written (h : Stream s r home robotID placed) : s.writtenOf r <+: placed :=
  (List.prefix_append _ _).trans h.next

/-- `SendRelay` is over for one message more, which will not be written. -/
theorem mono (h : Stream s r home robotID placed) (hplaced : placed <+: placed') :
    Stream s r home robotID placed' :=
  { h with next := h.next.trans hplaced }

/-- No message moves. -/
theorem same (h : Stream s r home robotID placed) (hsame : Same r s t) :
    Stream t r home robotID placed where
  elsewhere i hne := by
    rcases hsame.waiting i with heq | hnil
    · rw [heq]
      exact h.elsewhere i hne
    · exact hnil
  next := by
    rw [hsame.writtenOf]
    rcases hsame.waiting home with heq | hnil
    · rw [heq]
      exact h.next
    · rw [hnil, List.append_nil]
      exact h.written
  sorted := by
    rw [hsame.writtenAt]
    exact h.sorted
  writtenAt_le := by
    rw [hsame.writtenAt]
    exact h.writtenAt_le
  home_le := Nat.le_trans h.home_le hsame.length
  home_le_hub i hi := by
    rcases hsame.hub robotID i hi with hold | ⟨hle, -⟩
    · exact h.home_le_hub i hold
    · exact Nat.le_trans h.home_le hle

/-- A message is written. -/
theorem write {q : Queued} (h : Stream s r home robotID placed) (hi : s.conns[i]? = some conn)
    (hwriter : conn.writer = .writing q) :
    Stream (s.finishWrite i conn q) r home robotID placed := by
  by_cases hq : q.relay = some r
  · -- the first of the messages that wait, and they wait at this connection
    have hcons : s.waiting r i = q.msg :: (s.finishWrite i conn q).waiting r i := by
      rw [waiting_of_some hi, waiting_of_some (Tasks.set_self hi)]
      simp [Conn.waiting, Conn.outgoing, hwriter, hq]
    obtain rfl : i = home := by
      by_contra hne
      rw [h.elsewhere i hne] at hcons
      cases hcons
    refine ⟨fun j hne => (waiting_setConn_of_ne hne).trans (h.elsewhere j hne), ?_, ?_, ?_, ?_,
      h.home_le_hub⟩
    · have hnext := h.next
      rw [hcons, List.append_cons] at hnext
      rw [writtenOf_finishWrite hq]
      exact hnext
    · rw [writtenAt_finishWrite hq, List.pairwise_append]
      refine ⟨h.sorted, List.pairwise_singleton _ _, fun j hj k hk => ?_⟩
      rw [List.mem_singleton.mp hk]
      exact h.writtenAt_le j hj
    · rw [writtenAt_finishWrite hq]
      exact Tasks.forall_mem_append h.writtenAt_le (Nat.le_refl i)
    · rw [State.finishWrite, State.setConn, List.length_set]
      exact h.home_le
  · exact h.same (.finishWrite hi hwriter hq)

/-- A message joins a connection. -/
theorem push {msg : AgentControlMessage} (h : Stream s r home robotID placed)
    (hi : s.conns[i]? = some conn) (hrunning : conn.writer ≠ .returned)
    (hfollows : (s.writtenOf r).length + (s.waiting r i).length = placed.length)
    (hhome : home ≤ i) (hhub : ∀ j, s.relay robotID = some j → i ≤ j) :
    Stream (s.setConn i { conn with send := conn.send ++ [⟨some r, msg⟩] }) r i robotID
      (placed ++ [msg]) := by
  have hwaiting : (s.setConn i { conn with send := conn.send ++ [⟨some r, msg⟩] }).waiting r i
      = s.waiting r i ++ [msg] := by
    rw [waiting_setConn_self hi, waiting_of_some hi]
    simp [Conn.waiting, Conn.outgoing_push hrunning]
  -- the messages that wait do so here, or there are none and all were written
  have hmoved : i = home ∨ (s.waiting r home = [] ∧ s.waiting r i = []) := by
    by_cases hsame : i = home
    · exact Or.inl hsame
    · have hnone := h.elsewhere i hsame
      have hle := h.next.length_le
      rw [hnone, List.length_nil, Nat.add_zero] at hfollows
      rw [List.length_append] at hle
      exact Or.inr ⟨List.eq_nil_of_length_eq_zero (by omega), hnone⟩
  have hall : s.writtenOf r ++ s.waiting r i = placed := by
    have hprefix : s.writtenOf r ++ s.waiting r i <+: placed := by
      rcases hmoved with rfl | ⟨-, hnone⟩
      · exact h.next
      · rw [hnone, List.append_nil]
        exact h.written
    exact hprefix.eq_of_length (by rw [List.length_append]; exact hfollows)
  refine ⟨fun j hne => ?_, ?_, h.sorted, fun j hj => Nat.le_trans (h.writtenAt_le j hj) hhome, ?_,
    hhub⟩
  · rw [waiting_setConn_of_ne hne]
    rcases hmoved with rfl | ⟨hempty, -⟩
    · exact h.elsewhere j hne
    · by_cases hj : j = home
      · rw [hj]
        exact hempty
      · exact h.elsewhere j hj
  · rw [hwaiting, ← List.append_assoc]
    show s.writtenOf r ++ s.waiting r i ++ [msg] <+: placed ++ [msg]
    simp only [hall, List.prefix_rfl]
  · obtain ⟨hlt, -⟩ := List.getElem?_eq_some_iff.mp hi
    rw [State.setConn, List.length_set]
    exact Nat.le_of_lt hlt

end Stream

/-! ## The invariant -/

/-- The message that the reader has in hand. -/
def ReaderPhase.pending : ReaderPhase → List AgentControlMessage
  | looking msg => [msg]
  | pushing msg _ => [msg]
  | _ => []

/-- The messages of a relay, with the one that its reader has in hand. -/
structure Tracks (s : State) (r : Nat) (relay : ClientRelay) (home : Nat)
    (placed : List AgentControlMessage) : Prop where
  sent : relay.sent = placed ++ relay.reader.pending
  stream : Stream s r home (trimSpace relay.robotID) placed
  target : ∀ msg i, relay.reader = .pushing msg i → home ≤ i ∧ i < s.conns.length ∧
    ∀ j, s.relay (trimSpace relay.robotID) = some j → i ≤ j

/-- The other relays do not matter. -/
theorem Tracks.setRelays {s : State} {r home : Nat} {relay : ClientRelay}
    {placed : List AgentControlMessage} (h : Tracks s r relay home placed)
    (relays : List ClientRelay) : Tracks { s with relays := relays } r relay home placed :=
  ⟨h.sent, h.stream.same ((Same.refl r s).setRelays relays), h.target⟩

/-- **The invariant of runs in order.** -/
structure Inv (s : State) : Prop where
  relays : ∀ r relay, s.relays[r]? = some relay → ∃ home placed, Tracks s r relay home placed
  fresh : ∀ r robotID, s.relays.length ≤ r → Stream s r 0 robotID []
  hub : ∀ robotID i, s.relay robotID = some i → i < s.conns.length

namespace Inv

variable {s t : State} {r : Nat} {relay : ClientRelay}

theorem init : Inv machine.init where
  relays r relay hr := by simp [machine] at hr
  fresh r robotID _ :=
    { elsewhere := fun i _ => waiting_of_none rfl
      next := List.prefix_rfl
      sorted := List.Pairwise.nil
      writtenAt_le := fun i hi => by simp [State.writtenAt, machine] at hi
      home_le := Nat.le_refl 0
      home_le_hub := fun i hi => by simp [machine] at hi }
  hub robotID i hi := by simp [machine] at hi

/-- A step of a connection. -/
theorem of_streams (h : Inv s) (hrelays : t.relays = s.relays)
    (hstream : ∀ r home robotID placed, Stream s r home robotID placed →
      Stream t r home robotID placed)
    (hlength : s.conns.length ≤ t.conns.length)
    (hhub : ∀ robotID i, t.relay robotID = some i → s.relay robotID = some i ∨
      (s.conns.length ≤ i ∧ i < t.conns.length)) : Inv t where
  relays r relay hr := by
    rw [hrelays] at hr
    obtain ⟨home, placed, htracks⟩ := h.relays r relay hr
    refine ⟨home, placed, htracks.sent, hstream _ _ _ _ htracks.stream, fun msg i hreader => ?_⟩
    obtain ⟨hhome, hlt, hcurrent⟩ := htracks.target msg i hreader
    refine ⟨hhome, Nat.lt_of_lt_of_le hlt hlength, fun j hj => ?_⟩
    rcases hhub _ j hj with hold | ⟨hle, -⟩
    · exact hcurrent j hold
    · exact Nat.le_trans (Nat.le_of_lt hlt) hle
  fresh r robotID hr := by
    rw [hrelays] at hr
    exact hstream _ _ _ _ (h.fresh r robotID hr)
  hub robotID i hi := by
    rcases hhub robotID i hi with hold | ⟨-, hlt⟩
    · exact Nat.lt_of_lt_of_le (h.hub robotID i hold) hlength
    · exact hlt

/-- A step of a reader. -/
theorem setRelay (h : Inv s) (hr : s.relays[r]? = some relay) {relay' : ClientRelay}
    (htracks : ∃ home placed, Tracks s r relay' home placed) :
    Inv { s with relays := s.relays.set r relay' } where
  relays r' other hother := by
    rcases Tasks.of_set hother with ⟨rfl, rfl⟩ | ⟨-, hold⟩
    · obtain ⟨home, placed, htracks⟩ := htracks
      exact ⟨home, placed, htracks.setRelays _⟩
    · obtain ⟨home, placed, htracks⟩ := h.relays r' other hold
      exact ⟨home, placed, htracks.setRelays _⟩
  fresh r' robotID hle := by
    rw [List.length_set] at hle
    exact (h.fresh r' robotID hle).same ((Same.refl r' s).setRelays _)
  hub := h.hub

/-- A new relay. -/
theorem establish (h : Inv s) (robotID relayID sessionKey : Str) :
    Inv { s with relays := s.relays ++
      [{ robotID := robotID, relayID := relayID, sessionKey := sessionKey }] } where
  relays r relay hr := by
    rcases Tasks.of_append hr with ⟨rfl, rfl⟩ | ⟨-, hold⟩
    · exact ⟨0, [], rfl, (h.fresh _ _ (Nat.le_refl _)).same ((Same.refl _ s).setRelays _),
        fun msg i hreader => by cases hreader⟩
    · obtain ⟨home, placed, htracks⟩ := h.relays r relay hold
      exact ⟨home, placed, htracks.setRelays _⟩
  fresh r key hle := by
    rw [List.length_append] at hle
    exact (h.fresh r key (Nat.le_trans (Nat.le_add_right _ _) hle)).same
      ((Same.refl r s).setRelays _)
  hub := h.hub

/-- The reader puts its message into a channel. -/
theorem push (h : Inv s) (hr : s.relays[r]? = some relay) {msg : AgentControlMessage} {i : Nat}
    {conn : Conn} (hreader : relay.reader = .pushing msg i) (hi : s.conns[i]? = some conn)
    (hfollows : conn.writer ≠ .returned → s.Follows r i relay) :
    Inv ((s.setConn i { conn with send := conn.send ++ [⟨some r, msg⟩] }).setReader r relay
      .reading) := by
  -- to the other relays nothing happens
  have hother : ∀ r', r' ≠ r →
      Same r' s (s.setConn i { conn with send := conn.send ++ [⟨some r, msg⟩] }) :=
    fun r' hne => .push hi (Or.inl fun heq => hne (Option.some.inj heq).symm)
  have hlen : (s.setConn i { conn with send := conn.send ++ [⟨some r, msg⟩] }).conns.length
      = s.conns.length := List.length_set
  refine ⟨fun r' relay' hr' => ?_, fun r' robotID hle => ?_, fun robotID j hj => ?_⟩
  · rcases Tasks.of_set hr' with ⟨rfl, rfl⟩ | ⟨hne, hold⟩
    · obtain ⟨home, placed, htracks⟩ := h.relays r' relay hr
      obtain ⟨hhome, -, hcurrent⟩ := htracks.target msg i hreader
      have hsent : relay.sent = placed ++ [msg] := by
        rw [htracks.sent, hreader]
        rfl
      have hdone : relay.sent = (placed ++ [msg]) ++ [] := hsent.trans (List.append_nil _).symm
      -- at a connection without a write pump the message is lost, and the stream stays where it was
      by_cases hrunning : conn.writer = .returned
      · exact ⟨home, placed ++ [msg], hdone,
          (htracks.stream.mono (List.prefix_append _ _)).same
            ((Same.push hi (Or.inr hrunning)).setRelays _), fun msg i hpush => by cases hpush⟩
      · have hcount : (s.writtenOf r').length + (s.waiting r' i).length = placed.length := by
          have hlen := congrArg List.length hsent
          have hfollows := hfollows hrunning
          unfold State.Follows at hfollows
          simp only [List.length_append, List.length_singleton] at hlen
          omega
        exact ⟨i, placed ++ [msg], hdone,
          (htracks.stream.push hi hrunning hcount hhome hcurrent).same
            ((Same.refl r' _).setRelays _), fun msg i hpush => by cases hpush⟩
    · obtain ⟨home, placed, htracks⟩ := h.relays r' relay' hold
      refine ⟨home, placed, htracks.sent, htracks.stream.same ((hother r' hne).setRelays _),
        fun msg j hreader => ?_⟩
      obtain ⟨hhome, hlt, hcurrent⟩ := htracks.target msg j hreader
      exact ⟨hhome, hlen.symm ▸ hlt, hcurrent⟩
  · have hle' : s.relays.length ≤ r' := by
      rw [State.setReader, List.length_set] at hle
      exact hle
    obtain ⟨hlt, -⟩ := List.getElem?_eq_some_iff.mp hr
    exact (h.fresh r' robotID hle').same ((hother r' (by omega)).setRelays _)
  · show j < (s.setConn i _).conns.length
    rw [hlen]
    exact h.hub robotID j hj

/-- **Every step in order keeps the invariant.** -/
theorem step {a : Step} (h : Inv s) (horder : s.InOrder a) (hstep : s.step a = some t) : Inv t := by
  cases move_of_step hstep with
  | quiet hsame hrelays =>
    exact h.of_streams hrelays (fun r _ _ _ hstream => hstream.same (hsame r)) (hsame 0).length
      (hsame 0).hub
  | write hi hwriter =>
    refine h.of_streams rfl (fun _ _ _ _ hstream => hstream.write hi hwriter) ?_
      fun _ _ hj => Or.inl hj
    simp [State.finishWrite, State.setConn]
  | establish robotID relayID sessionKey => exact h.establish robotID relayID sessionKey
  | read payload hr hreader =>
    obtain ⟨home, placed, htracks⟩ := h.relays _ _ hr
    refine h.setRelay hr ⟨home, placed, ?_, htracks.stream, fun msg i hpush => by cases hpush⟩
    show _ ++ [_] = placed ++ [_]
    rw [htracks.sent, hreader]
    exact congrArg (· ++ _) (List.append_nil placed)
  | finish hr =>
    -- a message in hand is over as well, and was not sent
    obtain ⟨home, placed, htracks⟩ := h.relays _ _ hr
    refine h.setRelay hr ⟨home, _, (List.append_nil _).symm, htracks.stream.mono ?_,
      fun msg i hpush => by cases hpush⟩
    rw [htracks.sent]
    exact List.prefix_append _ _
  | lookup hr hreader hconn =>
    obtain ⟨home, placed, htracks⟩ := h.relays _ _ hr
    refine h.setRelay hr ⟨home, placed, ?_, htracks.stream, fun msg i hpush => ?_⟩
    · rw [htracks.sent, hreader]
      rfl
    · cases hpush
      -- the hub has the newest connection of the robot
      refine ⟨htracks.stream.home_le_hub _ hconn, h.hub _ _ hconn, fun j hj => ?_⟩
      rw [Option.some.inj (hconn.symm.trans hj)]
  | push hr hreader hi hroom =>
    have hfollows := horder _ hr _ (by rw [hreader]; rfl) _ hi
    exact h.push hr hreader hi fun hrunning => hfollows hrunning hroom

end Inv

/-- **No gaps when messages are in order.** What was written of a relay is a prefix of what its
client has sent. The order is that of the writes, and that of the connections as well. -/
theorem gapless_of_inOrder (steps : List Step) (s : State)
    (halong : machine.Along State.InOrder machine.init steps)
    (hrun : machine.run machine.init steps = some s) :
    s.Gapless ∧ ∀ r < s.relays.length, (s.writtenAt r).Pairwise (· ≤ ·) := by
  have hinv := machine.along_invariant (fun s a t h horder hstep => Inv.step h horder hstep)
    Inv.init halong hrun
  refine ⟨fun r relay hr => ?_, fun r hr => ?_⟩
  · obtain ⟨home, placed, htracks⟩ := hinv.relays r relay hr
    rw [htracks.sent]
    exact htracks.stream.written.trans (List.prefix_append _ _)
  · obtain ⟨relay, hrelay⟩ := Tasks.exists_of_lt hr
    obtain ⟨home, placed, htracks⟩ := hinv.relays r relay hrelay
    exact htracks.stream.sorted

/-- The reader of relay `r` sends a message on. -/
def sendSteps (r : Nat) (payload : List UInt8) : List Step :=
  [.reader r (.read payload), .reader r .lookup, .reader r .push]

/-- The write pump of connection `i` writes a message. -/
def writeSteps (i : Nat) : List Step := [.writer i .take, .writer i .write]

/-- A robot connects, and a client to it. -/
def openSteps : List Step := [.register "r2".toList, .establish "r2".toList "relay".toList []]

/-- What the client of `openSteps` sends, as the reader sends it on. -/
def sampleData (payload : List UInt8) : AgentControlMessage :=
  { type := .relayData, relayID := "relay".toList, data := Base64.encode payload }

/-- The connection is replaced when two messages have been written, and the third goes to the new
one. The fourth is lost with it, and with the fifth the relay ends. -/
def orderlySteps : List Step :=
  openSteps ++ sendSteps 0 [1] ++ [.writer 0 .take] ++ sendSteps 0 [2] ++ [.writer 0 .write] ++
    writeSteps 0 ++ [.register "r2".toList, .closePrev 1] ++ sendSteps 0 [3] ++ writeSteps 1 ++
    sendSteps 0 [4] ++ [.writer 1 .finish, .readFail 1, .unregister 1] ++
    [.reader 0 (.read [5]), .reader 0 .lookup]

theorem gapless_orderlySteps :
    ∃ s, machine.run machine.init orderlySteps = some s ∧
      (s.writtenOf 0 = [sampleData [1], sampleData [2], sampleData [3]] ∧
        s.writtenAt 0 = [0, 0, 1]) ∧ s.Gapless := by
  obtain ⟨s, hrun, hwritten⟩ := machine.exists_run orderlySteps
    (fun s => s.writtenOf 0 = [sampleData [1], sampleData [2], sampleData [3]] ∧
      s.writtenAt 0 = [0, 0, 1]) (by decide)
  exact ⟨s, hrun, hwritten, (gapless_of_inOrder orderlySteps s (by decide) hrun).1⟩

/-! ### A message left behind -/

/-- A message is in the channel of a connection whose write pump fails to send a ping. By the next
message the robot has connected again. -/
def strandedSteps : List Step :=
  openSteps ++ sendSteps 0 [1] ++ [.writer 0 .finish, .readFail 0, .unregister 0] ++
    [.register "r2".toList] ++ sendSteps 0 [2] ++ writeSteps 1

/-- The robot gets the second message and not the first, and the relay goes on. -/
theorem gapless_fails :
    ∃ s relay, machine.run machine.init strandedSteps = some s ∧ s.relays[0]? = some relay ∧
      relay.reader = .reading ∧ relay.sent = [sampleData [1], sampleData [2]] ∧
      s.writtenOf 0 = [sampleData [2]] ∧ ¬ s.Gapless := by
  obtain ⟨s, hrun, hwritten, hrelay⟩ := machine.exists_run strandedSteps
    (fun s => s.writtenOf 0 = [sampleData [2]] ∧ s.relays[0]? = some
      { robotID := "r2".toList, relayID := "relay".toList, sessionKey := [],
        sent := [sampleData [1], sampleData [2]] }) (by decide)
  refine ⟨s, _, hrun, hrelay, rfl, rfl, hwritten, fun hgapless => ?_⟩
  have hprefix := hgapless 0 _ hrelay
  rw [hwritten] at hprefix
  exact absurd hprefix (by decide)

end Roboat.Relay.DataPlane
