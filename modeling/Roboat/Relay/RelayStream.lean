import Mathlib.Data.List.Flatten
import Roboat.Relay.ClientSession

/-! # From the robot to the client

The channel of a relay between those who fill it and the session that empties it. Read pumps deliver
the robot's messages, preemptions put in a `relay_close`, all of them at the same time and each
dropping the oldest message when the channel is full; the session takes one message after another
and writes its data to the client.

Both ends are machines of their own. Here they share the channel: the session receives what the
queue gives out, and leaves the queue when it unregisters (`Stream.step`). What the client gets is,
in order, data of messages that have entered the channel, and all the rest of that data is accounted
for (`relay_stream`). -/

namespace Roboat.Relay

open ClientSession (Inbound Session Outcome Delivery binaries)
open Queue (Queued)

/-- The data of a message; its status does not matter. -/
def ClientSession.Env.payloadOf (env : ClientSession.Env) (msg : AgentControlMessage) :
    List Bytes := env.payload { msg with }

/-- A relay: its channel with the books, and the session. -/
structure Stream where
  queue : QueueStats.State
  session : Session

namespace Stream

/-- The steps. -/
inductive Step where
  /-- One of those who fill the channel goes on, or the session takes a time from the second
  channel. -/
  | queue (a : QueueStats.Step)
  /-- The session goes on without the channel. -/
  | session (a : ClientSession.Step)
  /-- The session takes the oldest message from the channel; `status` is its field `Status`. -/
  | receive (status : Str)
  /-- The session unregisters the relay. -/
  | unregister

def step (env : ClientSession.Env) (capacity : Nat) (s : Stream) : Step → Option Stream
  | .queue .receive => none
  | .queue .unregister => none
  | .queue a => (s.queue.step capacity a).map fun queue => { s with queue }
  | .session (.receive _) => none
  | .session .unregister => none
  | .session a => (s.session.step env a).map fun session => { s with session }
  | .receive status =>
    s.queue.ch.head?.bind fun q => (s.queue.step capacity .receive).bind fun queue =>
      (s.session.step env (.receive { q.msg with status })).map fun session => ⟨queue, session⟩
  | .unregister =>
    (s.queue.step capacity .unregister).bind fun queue =>
      (s.session.step env .unregister).map fun session => ⟨queue, session⟩

end Stream

/-- **A relay** with a channel of `capacity` messages, from `RegisterRelay`. -/
def streamMachine (env : ClientSession.Env) (capacity : Nat) : Machine Stream Stream.Step where
  init := ⟨(QueueStats.machine capacity).init, (ClientSession.machine env).init⟩
  step := Stream.step env capacity

/-! ## The two ends -/

/-- What a step does: one end goes on alone, or both go on together. -/
inductive Stream.Move (env : ClientSession.Env) (capacity : Nat) (s : Stream) : Stream → Prop
  | queue {a : QueueStats.Step} {queue : QueueStats.State} : a ≠ .receive →
      s.queue.step capacity a = some queue → Stream.Move env capacity s { s with queue }
  | session {a : ClientSession.Step} {session : Session} : (∀ msg, a ≠ .receive msg) →
      s.session.step env a = some session → Stream.Move env capacity s { s with session }
  | receive {q : Queued} {status : Str} {queue : QueueStats.State} {session : Session} :
      s.queue.ch.head? = some q → s.queue.step capacity .receive = some queue →
      s.session.step env (.receive { q.msg with status }) = some session →
      Stream.Move env capacity s ⟨queue, session⟩
  | unregister {queue : QueueStats.State} {session : Session} :
      s.queue.step capacity .unregister = some queue →
      s.session.step env .unregister = some session → Stream.Move env capacity s ⟨queue, session⟩

section Ends

variable {env : ClientSession.Env} {capacity : Nat} {s t : Stream}

/-- Every step is one of the moves. -/
theorem Stream.move_of_step {a : Stream.Step} (h : s.step env capacity a = some t) :
    Stream.Move env capacity s t := by
  cases a with
  | queue a =>
    cases a <;> first
      | cases h
      | obtain ⟨queue, hqueue, rfl⟩ := Option.map_eq_some_iff.mp h
        exact .queue (fun ha => by cases ha) hqueue
  | session a =>
    cases a <;> first
      | cases h
      | obtain ⟨session, hsession, rfl⟩ := Option.map_eq_some_iff.mp h
        exact .session (fun _ ha => by cases ha) hsession
  | receive status =>
    obtain ⟨q, hhead, h⟩ := Option.bind_eq_some_iff.mp h
    obtain ⟨queue, hqueue, h⟩ := Option.bind_eq_some_iff.mp h
    obtain ⟨session, hsession, rfl⟩ := Option.map_eq_some_iff.mp h
    exact .receive hhead hqueue hsession
  | unregister =>
    obtain ⟨queue, hqueue, h⟩ := Option.bind_eq_some_iff.mp h
    obtain ⟨session, hsession, rfl⟩ := Option.map_eq_some_iff.mp h
    exact .unregister hqueue hsession

/-- Only the consumer's receive adds to what was received. -/
theorem QueueStats.received_step {q q' : QueueStats.State} {a : QueueStats.Step}
    (h : q.step capacity a = some q') :
    (a ≠ .receive → q'.received = q.received) ∧
      (a = .receive → q'.received = q.received ++ q.ch.head?.toList) := by
  cases QueueStats.move_of_step h with
  | place hk hphase hroom =>
    obtain ⟨-, rfl⟩ | ⟨-, rfl⟩ := hphase <;> exact ⟨fun _ => rfl, fun ha => by cases ha⟩
  | @drop k call oldest ch hk hphase hch =>
    exact ⟨fun _ => QueueStats.received_drop oldest ch, fun ha => by cases ha⟩
  | @receive oldest ch hregistered hconsumer hch =>
    refine ⟨fun ha => absurd rfl ha, fun _ => ?_⟩
    rw [hch]
    exact QueueStats.received_remove oldest ch
  | deliverRelay | scan | full | stamp | count | dropNone | unstamp | countDrop | fullAgain | noSlot
    | pop | unregister => exact ⟨fun _ => rfl, fun ha => by cases ha⟩

/-- **A relay and its two ends**: each end keeps what it keeps alone, and the session has received
what the channel has given out. -/
structure Stream.Inv (env : ClientSession.Env) (s : Stream) : Prop where
  books : QueueStats.Books s.queue
  delivery : Delivery env s.session
  received : s.session.received.map Inbound.toAgentControlMessage =
    s.queue.received.map Queued.msg

/-- A step keeps the invariant. -/
theorem Stream.Inv.step {a : Stream.Step} (h : s.Inv env)
    (hstep : s.step env capacity a = some t) : t.Inv env := by
  cases Stream.move_of_step hstep with
  | queue ha hqueue =>
    refine ⟨h.books.step hqueue, h.delivery, ?_⟩
    rw [(QueueStats.received_step hqueue).1 ha]
    exact h.received
  | @session a _ ha hsession =>
    refine ⟨h.books, h.delivery.step hsession, ?_⟩
    rw [ClientSession.received_step hsession]
    cases a with
    | receive msg => exact absurd rfl (ha msg)
    | _ => simpa using h.received
  | receive hhead hqueue hsession =>
    refine ⟨h.books.step hqueue, h.delivery.step hsession, ?_⟩
    rw [ClientSession.received_step hsession, (QueueStats.received_step hqueue).2 rfl, hhead]
    simp [h.received]
  | unregister hqueue hsession =>
    refine ⟨h.books.step hqueue, h.delivery.step hsession, ?_⟩
    rw [ClientSession.received_step hsession,
      (QueueStats.received_step hqueue).1 (fun ha => by cases ha)]
    simpa using h.received

/-- The invariant holds in every run. -/
theorem Stream.inv_of_run {steps : List Stream.Step}
    (hrun : (streamMachine env capacity).run (streamMachine env capacity).init steps = some s) :
    s.Inv env := by
  refine (streamMachine env capacity).run_invariant (fun _ _ _ h hstep => h.step hstep) ?_ hrun
  exact ⟨@QueueStats.Books.init capacity, Delivery.init, rfl⟩

end Ends

/-! ## The stream -/

section Data

variable {env : ClientSession.Env} {s : Stream}

/-- The data of queued messages. -/
def ClientSession.Env.queuedData (env : ClientSession.Env) (queue : List Queued) : List Bytes :=
  queue.flatMap fun q => env.payloadOf q.msg

/-- The session has the data the queue gave out. -/
theorem Stream.Inv.payloads_received (h : s.Inv env) :
    env.payloads s.session.received = env.queuedData s.queue.received := by
  have hmsgs := congrArg (List.flatMap env.payloadOf) h.received
  rw [List.flatMap_map, List.flatMap_map] at hmsgs
  exact hmsgs

/-- The messages that have left the channel, sorted by how. -/
theorem QueueStats.perm_removed (q : QueueStats.State) :
    (q.removed.map Prod.fst).Perm (q.received ++ q.dropped) := by
  have hnot : (fun r : Queued × QueueStats.Fate => r.2 == .dropped) =
      fun r => !(r.2 == .received) := by
    funext r
    cases r.2 <;> rfl
  have hsplit := List.filter_append_perm (fun r : Queued × QueueStats.Fate => r.2 == .received)
    q.removed
  rw [QueueStats.State.received, QueueStats.State.dropped, hnot, ← List.map_append]
  exact (hsplit.map Prod.fst).symm

theorem queuedData_append (l r : List Queued) :
    env.queuedData (l ++ r) = env.queuedData l ++ env.queuedData r := List.flatMap_append

/-- The data that was handled, sorted by whether the client got it. -/
theorem perm_handled (log : List (Bytes × Outcome)) :
    (log.map Prod.fst).Perm ((log.filter fun entry => entry.2 == .sent).map Prod.fst ++
      (log.filter fun entry => !(entry.2 == .sent)).map Prod.fst) := by
  rw [← List.map_append]
  exact ((List.filter_append_perm _ log).map Prod.fst).symm

/-- The data that the session was given and has not handled. -/
theorem Stream.Inv.handled (h : s.Inv env) :
    ∃ left, env.queuedData s.queue.received = s.session.log.map Prod.fst ++ left ∧
      (s.session.main = .running [] → left = []) := by
  obtain ⟨left, horder, hleft⟩ := h.delivery.order
  refine ⟨s.session.main.waiting env ++ left, ?_, fun hmain => ?_⟩
  · rw [← h.payloads_received, horder, List.append_assoc]
  · rw [hmain] at hleft ⊢
    rw [hleft rfl]
    rfl

end Data

/-- **The stream from the robot to the client**, however those who fill the channel, the preemptions
and the goroutines of the session are interleaved. The client gets data of messages that have
entered the channel, in the order in which they entered it and none of it twice. The data of a
message that has entered is with the client, or was lost in a write that timed out or failed, or was
received and not written yet, or was dropped for a newer one, or is in the channel; each exactly
once. What was received and not written yet is the end of what was received, and nothing while the
session waits for the next message. So where nothing was dropped, every write succeeded and the
session has caught up, the client has it all. -/
theorem relay_stream (env : ClientSession.Env) (capacity : Nat) {steps : List Stream.Step}
    {s : Stream}
    (hrun : (streamMachine env capacity).run (streamMachine env capacity).init steps = some s) :
    (binaries s.session.toClient).Sublist (env.queuedData s.queue.entered) ∧
    (s.queue.entered.map Queued.call).Nodup ∧
    (∃ left, (env.queuedData s.queue.entered).Perm (binaries s.session.toClient ++
        (s.session.log.filter fun entry => !(entry.2 == .sent)).map Prod.fst ++ left ++
        env.queuedData s.queue.dropped ++ env.queuedData s.queue.ch) ∧
      env.queuedData s.queue.received = s.session.log.map Prod.fst ++ left ∧
      (s.session.main = .running [] → left = [])) ∧
    (s.queue.dropped = [] → s.queue.ch = [] → s.session.main = .running [] →
      (∀ entry ∈ s.session.log, entry.2 = .sent) →
      binaries s.session.toClient = env.queuedData s.queue.entered) := by
  have h := Stream.inv_of_run hrun
  obtain ⟨left, hreceived, hleft⟩ := h.handled
  have hsublist : (binaries s.session.toClient).Sublist (env.queuedData s.queue.entered) := by
    have hsent : (binaries s.session.toClient).Sublist (env.queuedData s.queue.received) := by
      rw [h.delivery.sent, hreceived]
      exact (List.filter_sublist.map Prod.fst).trans (List.sublist_append_left _ _)
    exact hsent.trans (h.books.received_sublist.flatMap _)
  have hperm : (env.queuedData s.queue.entered).Perm (binaries s.session.toClient ++
      (s.session.log.filter fun entry => !(entry.2 == .sent)).map Prod.fst ++ left ++
      env.queuedData s.queue.dropped ++ env.queuedData s.queue.ch) := by
    rw [h.books.order, queuedData_append]
    refine List.Perm.append_right _ (((QueueStats.perm_removed s.queue).flatMap_right _).trans ?_)
    rw [← ClientSession.Env.queuedData, queuedData_append, hreceived, h.delivery.sent]
    exact (perm_handled _).append_right _ |>.append_right _
  refine ⟨hsublist, h.books.nodup_entered, ⟨left, hperm, hreceived, hleft⟩, ?_⟩
  intro hdropped hch hmain hall
  refine hsublist.eq_of_length ?_
  have hlost : (s.session.log.filter fun entry => !(entry.2 == .sent)) = [] := by
    refine List.filter_eq_nil_iff.mpr fun entry hmem => ?_
    simp [hall entry hmem]
  rw [hlost, hleft hmain, hdropped, hch] at hperm
  simpa [ClientSession.Env.queuedData] using hperm.length_eq.symm

/-- The channel holds one message. While the session is about to receive, a second message of the
robot drives out the first. -/
def overrunSteps : List Stream.Step :=
  [.session (.sendOpen true), .queue (.deliverRelay { type := .relayOpenAck } 1),
    .queue (.next 0), .receive "ok".toList, .queue .pop,
    .queue (.deliverRelay { type := .relayData, data := "AQ==".toList } 2), .queue (.next 1),
    .queue (.deliverRelay { type := .relayData, data := "Ag==".toList } 3), .queue (.next 2),
    .queue (.next 2), .queue (.next 2), .queue (.next 2), .queue (.next 2), .receive [],
    .session (.write none), .queue .pop]

theorem relay_stream_overrunSteps :
    ∃ s, (streamMachine ClientSession.patientEnv 1).run
        (streamMachine ClientSession.patientEnv 1).init overrunSteps = some s ∧
      binaries s.session.toClient = [[2]] ∧
      (ClientSession.patientEnv.queuedData s.queue.entered).Perm [[2], [1]] := by
  obtain ⟨s, hs, hmain, hclient, hlog, hdropped, hch⟩ :=
    (streamMachine ClientSession.patientEnv 1).exists_run overrunSteps
      (fun s => s.session.main = .running [] ∧ binaries s.session.toClient = [[2]] ∧
        s.session.log = [([2], .sent)] ∧
        ClientSession.patientEnv.queuedData s.queue.dropped = [[1]] ∧ s.queue.ch = [])
      (by decide)
  obtain ⟨-, -, ⟨left, hperm, -, hleft⟩, -⟩ := relay_stream ClientSession.patientEnv 1 hs
  rw [hleft hmain, hclient, hlog, hdropped, hch] at hperm
  exact ⟨s, hs, hclient, hperm⟩

end Roboat.Relay
