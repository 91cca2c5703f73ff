import Mathlib.Algebra.Group.Nat.Defs
import Roboat.Connstate.State
import Roboat.Relay.RelayQueue

/-! # The books of a relay queue

Beside its channel a relay keeps a second channel with the time at which each message was enqueued,
and counters: messages enqueued, messages dropped for newer ones, messages that found no room. Both
are written after the channel operation they belong to, so they lag behind it while a call is under
way.

The machine has every operation of `enqueue`, `dropOldestQueuedMessage`, `deliverRelay`,
`preemptRelaysForSession` and the consumer as a step of its own. Without the books it is the queue
machine (`toQueue_step`); with them, what the counters say is what happened to the messages, up to
the calls that have not yet written it down (`Books`). The counters are 64 bits wide and wrap. -/

namespace Roboat.Relay.QueueStats

open Queue (Caller Queued push)
open Connstate (Time)

/-! ## The machine -/

/-- `relayDeliveryResult` of a call that has found the relay. -/
inductive Result where
  | delivered
  | channelFull
  deriving DecidableEq, Repr

/-- Where a call is. -/
inductive CallPhase where
  /-- Before the first send on the channel. -/
  | offering
  /-- The message is in the channel: before its time is. -/
  | stamping
  /-- Before `recordEnqueue`. -/
  | counting
  /-- The channel was full: before the receive of `dropOldestQueuedMessage`. -/
  | dropping
  /-- A message was dropped: before its time is. -/
  | unstamping
  /-- Before `recordDropOldest`. -/
  | countingDrop
  /-- Before the second send on the channel. -/
  | retrying
  /-- Before `recordDropNoSlot`. -/
  | givingUp
  | returned (result : Result)
  deriving DecidableEq, Repr

/-- A `deliverRelay` call, or the part of a preemption that concerns the relay. `now` is the time it
has taken. -/
structure Call where
  caller : Caller
  msg : AgentControlMessage
  now : Time
  phase : CallPhase
  deriving DecidableEq, Repr

/-- A time in the second channel. `call` is the call that has put it there, which nobody reads. -/
structure Stamp where
  call : Nat
  time : Time
  deriving DecidableEq, Repr

/-- How a message has left the channel. -/
inductive Fate where
  | received
  | dropped
  deriving DecidableEq, Repr

/-- Where the consumer is. -/
inductive ConsumerPhase where
  | receiving
  /-- A message was received: before `consumeRelayEnqueueWait`. -/
  | popping (q : Queued)
  deriving DecidableEq, Repr

/-- A relay with its books. The last five fields are history: the messages for which `enqueue` was
called while the relay was registered, those that have entered the channel and those that have left
it, each in their order, the calls that have called `recordDropNoSlot`, and the times that were
taken for received messages. -/
structure State where
  registered : Bool
  ch : List Queued
  enqueuedAt : List Stamp
  enqueued : UInt64
  droppedOldest : UInt64
  droppedNoSlot : UInt64
  calls : List Call
  consumer : ConsumerPhase
  offered : List Queued
  entered : List Queued
  removed : List (Queued × Fate)
  noSlots : List Nat
  waits : List (Queued × Stamp)
  deriving DecidableEq, Repr

/-- The atomic steps. -/
inductive Step where
  /-- `deliverRelay` looks the relay up and takes the time. -/
  | deliverRelay (msg : AgentControlMessage) (now : Time)
  /-- The scan of a preemption finds the relay stale. -/
  | scan (task : SessionTask) (entry : RelayEntry) (now : Time)
  /-- The next operation of a call. -/
  | next (k : Nat)
  /-- The consumer receives a message. -/
  | receive
  /-- The consumer takes a time. -/
  | pop
  /-- `UnregisterRelay`, and the end of the consumer. -/
  | unregister

/-- The capacity of the second channel. -/
def stampCapacity (capacity : Nat) : Nat := if capacity = 0 then 1 else capacity

namespace State

/-- The messages that the consumer has received. -/
def received (s : State) : List Queued :=
  (s.removed.filter fun r => r.2 == .received).map Prod.fst

/-- The messages that were dropped for newer ones. -/
def dropped (s : State) : List Queued := (s.removed.filter fun r => r.2 == .dropped).map Prod.fst

def addCall (s : State) (caller : Caller) (msg : AgentControlMessage) (now : Time) : State :=
  { s with calls := s.calls ++ [⟨caller, msg, now, .offering⟩] }

def setPhase (s : State) (k : Nat) (call : Call) (phase : CallPhase) : State :=
  { s with calls := s.calls.set k { call with phase := phase } }

/-- A message is offered to the relay; that is the relay's business only while it is registered. -/
def offer (s : State) (q : Queued) : State :=
  { s with offered := if s.registered then s.offered ++ [q] else s.offered }

/-- A message enters the channel. -/
def enter (s : State) (q : Queued) : State :=
  { s with ch := s.ch ++ [q], entered := s.entered ++ [q] }

/-- The oldest message leaves the channel. -/
def remove (s : State) (q : Queued) (ch : List Queued) (fate : Fate) : State :=
  { s with ch := ch, removed := s.removed ++ [(q, fate)] }

/-- The non-blocking send on the second channel. -/
def pushStamp (capacity : Nat) (s : State) (stamp : Stamp) : State :=
  { s with
    enqueuedAt := (push (stampCapacity capacity) s.enqueuedAt stamp).getD s.enqueuedAt }

/-- The non-blocking send on the channel, and where the call goes when there is no room. -/
def place (capacity : Nat) (s : State) (k : Nat) (call : Call) (full : CallPhase) : State :=
  if s.ch.length < capacity then (s.enter ⟨k, call.msg⟩).setPhase k call .stamping
  else s.setPhase k call full

/-- The next operation of a call. -/
def next (capacity : Nat) (s : State) (k : Nat) (call : Call) : Option State :=
  match call.phase with
  | .offering =>
    -- a full channel is the end of a delivery, unless it is of `relay_data`
    some ((s.offer ⟨k, call.msg⟩).place capacity k call
      (if call.caller = .preempt ∨ call.msg.type = .relayData then .dropping else .givingUp))
  | .stamping =>
    some ((s.pushStamp capacity ⟨k, call.now⟩).setPhase k call .counting)
  | .counting =>
    some ({ s with enqueued := s.enqueued + 1 }.setPhase k call (.returned .delivered))
  | .dropping =>
    match s.ch with
    | q :: ch =>
      some ((s.remove q ch .dropped).setPhase k call .unstamping)
    | [] =>
      -- a preemption tries again only if it has dropped something
      some (s.setPhase k call (if call.caller = .preempt then .givingUp else .retrying))
  | .unstamping =>
    -- the oldest time, which need not be that of the message; none if there is none yet
    some ({ s with enqueuedAt := s.enqueuedAt.tail }.setPhase k call .countingDrop)
  | .countingDrop =>
    some ({ s with droppedOldest := s.droppedOldest + 1 }.setPhase k call .retrying)
  | .retrying => some (s.place capacity k call .givingUp)
  | .givingUp =>
    some ({ s with
      droppedNoSlot := s.droppedNoSlot + 1
      noSlots := s.noSlots ++ [k] }.setPhase k call (.returned .channelFull))
  | .returned _ => none

/-- The consumer receives a message. -/
def receive (s : State) : Option State :=
  match s.consumer, s.ch with
  | .receiving, q :: ch =>
    if s.registered then
      some { s.remove q ch .received with consumer := .popping q }
    else none
  | _, _ => none

/-- `consumeRelayEnqueueWait` takes the oldest time, if there is one. -/
def pop (s : State) : Option State :=
  match s.consumer with
  | .popping q =>
    some { s with
      enqueuedAt := s.enqueuedAt.tail
      waits := s.waits ++ s.enqueuedAt.head?.toList.map fun stamp => (q, stamp)
      consumer := .receiving }
  | .receiving => none

/-- The step function. -/
def step (capacity : Nat) (s : State) : Step → Option State
  | .deliverRelay msg now => if s.registered then some (s.addCall .deliver msg now) else none
  | .scan task entry now =>
    if s.registered then some (s.addCall .preempt (Relay.State.preemptMessage task entry) now)
    else none
  | .next k => s.calls[k]?.bind (s.next capacity k)
  | .receive => s.receive
  | .pop => s.pop
  | .unregister =>
    if s.registered ∧ s.consumer = .receiving then some { s with registered := false } else none

end State

/-- **The machine of one relay with its books**, from `RegisterRelay`. -/
def machine (capacity : Nat) : Machine State Step where
  init := ⟨true, [], [], 0, 0, 0, [], .receiving, [], [], [], [], []⟩
  step := State.step capacity

/-! ## Moves -/

/-- A step, by what it does to the channel and to the books. -/
inductive Move (capacity : Nat) (s : State) : Step → State → Prop
  | deliverRelay (msg : AgentControlMessage) (now : Time) (hregistered : s.registered = true) :
    Move capacity s (.deliverRelay msg now) (s.addCall .deliver msg now)
  | scan (task : SessionTask) (entry : RelayEntry) (now : Time)
      (hregistered : s.registered = true) :
    Move capacity s (.scan task entry now)
      (s.addCall .preempt (Relay.State.preemptMessage task entry) now)
  | place {k : Nat} {call : Call} {u : State} (hk : s.calls[k]? = some call)
      (hphase : (call.phase = .offering ∧ u = s.offer ⟨k, call.msg⟩) ∨
        (call.phase = .retrying ∧ u = s))
      (hroom : s.ch.length < capacity) :
    Move capacity s (.next k) ((u.enter ⟨k, call.msg⟩).setPhase k call .stamping)
  | full {k : Nat} {call : Call} (hk : s.calls[k]? = some call) (hphase : call.phase = .offering)
      (hroom : ¬ s.ch.length < capacity) :
    Move capacity s (.next k) ((s.offer ⟨k, call.msg⟩).setPhase k call
      (if call.caller = .preempt ∨ call.msg.type = .relayData then .dropping else .givingUp))
  | stamp {k : Nat} {call : Call} (hk : s.calls[k]? = some call) (hphase : call.phase = .stamping) :
    Move capacity s (.next k) ((s.pushStamp capacity ⟨k, call.now⟩).setPhase k call .counting)
  | count {k : Nat} {call : Call} (hk : s.calls[k]? = some call) (hphase : call.phase = .counting) :
    Move capacity s (.next k)
      ({ s with enqueued := s.enqueued + 1 }.setPhase k call (.returned .delivered))
  | drop {k : Nat} {call : Call} {q : Queued} {ch : List Queued} (hk : s.calls[k]? = some call)
      (hphase : call.phase = .dropping) (hch : s.ch = q :: ch) :
    Move capacity s (.next k) ((s.remove q ch .dropped).setPhase k call .unstamping)
  | dropNone {k : Nat} {call : Call} (hk : s.calls[k]? = some call)
      (hphase : call.phase = .dropping) (hch : s.ch = []) :
    Move capacity s (.next k)
      (s.setPhase k call (if call.caller = .preempt then .givingUp else .retrying))
  | unstamp {k : Nat} {call : Call} (hk : s.calls[k]? = some call)
      (hphase : call.phase = .unstamping) :
    Move capacity s (.next k)
      ({ s with enqueuedAt := s.enqueuedAt.tail }.setPhase k call .countingDrop)
  | countDrop {k : Nat} {call : Call} (hk : s.calls[k]? = some call)
      (hphase : call.phase = .countingDrop) :
    Move capacity s (.next k)
      ({ s with droppedOldest := s.droppedOldest + 1 }.setPhase k call .retrying)
  | fullAgain {k : Nat} {call : Call} (hk : s.calls[k]? = some call)
      (hphase : call.phase = .retrying) (hroom : ¬ s.ch.length < capacity) :
    Move capacity s (.next k) (s.setPhase k call .givingUp)
  | noSlot {k : Nat} {call : Call} (hk : s.calls[k]? = some call)
      (hphase : call.phase = .givingUp) :
    Move capacity s (.next k) ({ s with
      droppedNoSlot := s.droppedNoSlot + 1
      noSlots := s.noSlots ++ [k] }.setPhase k call (.returned .channelFull))
  | receive {q : Queued} {ch : List Queued} (hregistered : s.registered = true)
      (hconsumer : s.consumer = .receiving) (hch : s.ch = q :: ch) :
    Move capacity s .receive { s.remove q ch .received with consumer := .popping q }
  | pop {q : Queued} (hconsumer : s.consumer = .popping q) :
    Move capacity s .pop { s with
      enqueuedAt := s.enqueuedAt.tail
      waits := s.waits ++ s.enqueuedAt.head?.toList.map fun stamp => (q, stamp)
      consumer := .receiving }
  | unregister (hregistered : s.registered = true) (hconsumer : s.consumer = .receiving) :
    Move capacity s .unregister { s with registered := false }

section Moves

variable {capacity : Nat} {s t : State} {k : Nat} {call : Call}

/-- A call's own steps are moves. -/
theorem move_of_next (hk : s.calls[k]? = some call) (h : s.next capacity k call = some t) :
    Move capacity s (.next k) t := by
  cases hphase : call.phase with
  | offering =>
    simp only [State.next, hphase, State.place] at h
    by_cases hroom : s.ch.length < capacity
    · rw [if_pos (show (s.offer ⟨k, call.msg⟩).ch.length < capacity from hroom)] at h
      cases h
      exact .place hk (Or.inl ⟨hphase, rfl⟩) hroom
    · rw [if_neg (show ¬ (s.offer ⟨k, call.msg⟩).ch.length < capacity from hroom)] at h
      cases h
      exact .full hk hphase hroom
  | retrying =>
    simp only [State.next, hphase, State.place] at h
    by_cases hroom : s.ch.length < capacity
    · rw [if_pos hroom] at h
      cases h
      exact .place hk (Or.inr ⟨hphase, rfl⟩) hroom
    · rw [if_neg hroom] at h
      cases h
      exact .fullAgain hk hphase hroom
  | dropping =>
    simp only [State.next, hphase] at h
    cases hch : s.ch with
    | nil =>
      rw [hch] at h
      cases h
      exact .dropNone hk hphase hch
    | cons q ch =>
      rw [hch] at h
      cases h
      exact .drop hk hphase hch
  | stamping =>
    simp only [State.next, hphase] at h
    cases h
    exact .stamp hk hphase
  | counting =>
    simp only [State.next, hphase] at h
    cases h
    exact .count hk hphase
  | unstamping =>
    simp only [State.next, hphase] at h
    cases h
    exact .unstamp hk hphase
  | countingDrop =>
    simp only [State.next, hphase] at h
    cases h
    exact .countDrop hk hphase
  | givingUp =>
    simp only [State.next, hphase] at h
    cases h
    exact .noSlot hk hphase
  | returned result =>
    simp only [State.next, hphase] at h
    cases h

/-- **What a step does.** -/
theorem move_of_step {a : Step} (h : s.step capacity a = some t) : Move capacity s a t := by
  cases a with
  | deliverRelay msg now =>
    simp only [State.step] at h
    split_ifs at h with hregistered
    cases h
    exact .deliverRelay msg now hregistered
  | scan task entry now =>
    simp only [State.step] at h
    split_ifs at h with hregistered
    cases h
    exact .scan task entry now hregistered
  | next k =>
    obtain ⟨call, hk, h⟩ := Option.bind_eq_some_iff.mp h
    exact move_of_next hk h
  | receive =>
    simp only [State.step, State.receive] at h
    split at h
    · rename_i q ch hconsumer hch
      split_ifs at h with hregistered
      cases h
      exact .receive hregistered hconsumer hch
    · cases h
  | pop =>
    simp only [State.step, State.pop] at h
    split at h
    · rename_i q hconsumer
      cases h
      exact .pop hconsumer
    · cases h
  | unregister =>
    simp only [State.step] at h
    split_ifs at h with hboth
    cases h
    exact .unregister hboth.1 hboth.2

end Moves

/-! ## Without the books -/

/-- Where the queue machine has a call: the operations on the books are not there. -/
def CallPhase.toQueue : CallPhase → Queue.CallPhase
  | offering => .offering
  | dropping => .dropping
  | unstamping => .retrying
  | countingDrop => .retrying
  | retrying => .retrying
  | stamping => .returned
  | counting => .returned
  | givingUp => .returned
  | returned _ => .returned

def Call.toQueue (call : Call) : Queue.Call := ⟨call.caller, call.msg, call.phase.toQueue⟩

/-- A relay without its books. -/
def State.toQueue (s : State) : Queue.State :=
  ⟨s.registered, s.ch, s.calls.map Call.toQueue, s.offered, s.received⟩

section ToQueue

variable {capacity : Nat} {s t : State} {k : Nat} {call : Call}

theorem toQueue_setPhase (phase : CallPhase) :
    (s.setPhase k call phase).toQueue = s.toQueue.setPhase k call.toQueue phase.toQueue := by
  simp only [State.toQueue, State.setPhase, Queue.State.setPhase, List.map_set]
  rfl

/-- A step on the books of a call. -/
theorem toQueue_setPhase_of_eq {phase : CallPhase} (hk : s.calls[k]? = some call)
    (hphase : phase.toQueue = call.phase.toQueue) :
    (s.setPhase k call phase).toQueue = s.toQueue := by
  have hcall : Call.toQueue { call with phase := phase } = call.toQueue :=
    congrArg (fun phase => (⟨call.caller, call.msg, phase⟩ : Queue.Call)) hphase
  have hmap := Tasks.map_set_of_eq Call.toQueue hk hcall
  exact congrArg (fun calls => (⟨s.registered, s.ch, calls, s.offered, s.received⟩ :
    Queue.State)) hmap

/-- A call of the queue machine takes its step. -/
theorem onCall_toQueue (hk : s.calls[k]? = some call) {phase : Queue.CallPhase}
    (hphase : call.phase.toQueue = phase) (f : Queue.Call → Queue.State) :
    s.toQueue.onCall k phase f = some (f call.toQueue) := by
  have hk' : s.toQueue.calls[k]? = some call.toQueue := by
    rw [State.toQueue, List.getElem?_map, hk]
    rfl
  rw [Queue.State.onCall, hk', Option.bind_some]
  exact if_pos hphase

theorem received_remove (q : Queued) (ch : List Queued) :
    (s.remove q ch .received).received = s.received ++ [q] := by
  simp [State.received, State.remove]

theorem received_drop (q : Queued) (ch : List Queued) :
    (s.remove q ch .dropped).received = s.received := by
  simp [State.received, State.remove]

/-- **Refinement.** A step of the relay with its books is a step of the queue, or only writes in the
books. -/
theorem toQueue_step {a : Step} (h : s.step capacity a = some t) :
    t.toQueue = s.toQueue ∨ ∃ b, s.toQueue.step capacity b = some t.toQueue := by
  cases move_of_step h with
  | deliverRelay msg now hregistered =>
    have hadd : (s.addCall .deliver msg now).toQueue = s.toQueue.addCall .deliver msg := by
      simp only [State.toQueue, State.addCall, Queue.State.addCall, List.map_append]
      rfl
    refine Or.inr ⟨.deliverRelay msg, ?_⟩
    rw [hadd]
    exact if_pos hregistered
  | scan task entry now hregistered =>
    have hadd : (s.addCall .preempt (Relay.State.preemptMessage task entry) now).toQueue
        = s.toQueue.addCall .preempt (Relay.State.preemptMessage task entry) := by
      simp only [State.toQueue, State.addCall, Queue.State.addCall, List.map_append]
      rfl
    refine Or.inr ⟨.scan task entry, ?_⟩
    rw [hadd]
    exact if_pos hregistered
  | @place k call u hk hphase hroom =>
    rw [toQueue_setPhase]
    rcases hphase with ⟨hphase, rfl⟩ | ⟨hphase, rfl⟩
    · refine Or.inr ⟨.enqueue k, ?_⟩
      refine (onCall_toQueue hk (by rw [hphase]; rfl) _).trans (congrArg some ?_)
      rw [Queue.State.enqueueCall, show s.toQueue.ch = s.ch from rfl, Queue.push_of_lt _ hroom]
      rfl
    · refine Or.inr ⟨.retry k, ?_⟩
      refine (onCall_toQueue hk (by rw [hphase]; rfl) _).trans (congrArg some ?_)
      rw [Queue.State.retryCall, show u.toQueue.ch = u.ch from rfl, Queue.push_of_lt _ hroom]
      rfl
  | @full k call hk hphase hroom =>
    refine Or.inr ⟨.enqueue k, ?_⟩
    refine (onCall_toQueue hk (by rw [hphase]; rfl) _).trans (congrArg some ?_)
    rw [toQueue_setPhase, Queue.State.enqueueCall, show s.toQueue.ch = s.ch from rfl,
      Queue.push_of_not_lt _ hroom, apply_ite CallPhase.toQueue]
    rfl
  | @fullAgain k call hk hphase hroom =>
    refine Or.inr ⟨.retry k, ?_⟩
    refine (onCall_toQueue hk (by rw [hphase]; rfl) _).trans (congrArg some ?_)
    rw [toQueue_setPhase, Queue.State.retryCall, show s.toQueue.ch = s.ch from rfl,
      Queue.push_of_not_lt _ hroom]
    rfl
  | @drop k call q ch hk hphase hch =>
    refine Or.inr ⟨.drop k, ?_⟩
    refine (onCall_toQueue hk (by rw [hphase]; rfl) _).trans (congrArg some ?_)
    rw [toQueue_setPhase, Queue.State.dropCall, show s.toQueue.ch = q :: ch from hch]
    simp only [State.toQueue, received_drop]
    rfl
  | @dropNone k call hk hphase hch =>
    refine Or.inr ⟨.drop k, ?_⟩
    refine (onCall_toQueue hk (by rw [hphase]; rfl) _).trans (congrArg some ?_)
    rw [toQueue_setPhase, Queue.State.dropCall, show s.toQueue.ch = [] from hch,
      apply_ite CallPhase.toQueue]
    rfl
  | receive hregistered hconsumer hch =>
    refine Or.inr ⟨.receive, ?_⟩
    rename_i q ch
    have hrecv : ({ s.remove q ch .received with consumer := .popping q } : State).received
        = s.received ++ [q] := received_remove q ch
    rw [Queue.State.step, show s.toQueue.ch = q :: ch from hch]
    simp only [State.toQueue, hrecv, hregistered, if_true]
    simp [State.remove, hregistered]
  | unregister hregistered hconsumer => exact Or.inr ⟨.unregister, if_pos hregistered⟩
  | pop hconsumer => exact Or.inl rfl
  -- these write in the books only
  | stamp hk hphase | count hk hphase | unstamp hk hphase | countDrop hk hphase
  | noSlot hk hphase =>
    refine Or.inl ((toQueue_setPhase_of_eq ?_ ?_).trans ?_)
    · exact hk
    · rw [hphase]
      rfl
    · rfl

/-- The channel never holds more than its capacity. -/
theorem length_ch_step {a : Step} (h : s.step capacity a = some t) (hle : s.ch.length ≤ capacity) :
    t.ch.length ≤ capacity := by
  rcases toQueue_step h with hsame | ⟨b, hb⟩
  · rw [show t.ch = s.ch from congrArg Queue.State.ch hsame]
    exact hle
  · rcases Queue.chanMove_of_step hb with hsame | ⟨q, hpush⟩ | ⟨q, hpop⟩
    · rw [show t.ch = s.ch from hsame]
      exact hle
    · rw [show s.toQueue.ch = s.ch from rfl, Queue.push] at hpush
      split_ifs at hpush with hroom
      rw [show t.ch = s.ch ++ [q] from (Option.some.inj hpush).symm, List.length_append]
      exact hroom
    · have hlen : s.ch.length = t.ch.length + 1 := congrArg List.length hpop
      omega

end ToQueue

/-! ## The invariant -/

/-- What the books have to say about a call. -/
inductive Account where
  /-- Nothing has happened to a message yet, or all of it is in the books. -/
  | clear
  /-- The message is in the channel, and not yet in `enqueued`. -/
  | entering
  /-- The message is in the channel and in `enqueued`. -/
  | delivered
  /-- A message was dropped, and is not yet in `droppedOldest`. -/
  | dropping
  /-- The call is in `droppedNoSlot`. -/
  | gaveUp
  deriving DecidableEq, Repr

def CallPhase.account : CallPhase → Account
  | stamping => .entering
  | counting => .entering
  | returned .delivered => .delivered
  | unstamping => .dropping
  | countingDrop => .dropping
  | returned .channelFull => .gaveUp
  | offering => .clear
  | dropping => .clear
  | retrying => .clear
  | givingUp => .clear

theorem CallPhase.eq_of_account_gaveUp {phase : CallPhase} (h : phase.account = .gaveUp) :
    phase = returned .channelFull := by
  cases phase with
  | returned result =>
    cases result with
    | delivered => cases h
    | channelFull => rfl
  | _ => cases h

/-- What a call has put into the channel. -/
def Call.entry (k : Nat) (call : Call) : List Queued :=
  if call.phase.account = .entering ∨ call.phase.account = .delivered then [⟨k, call.msg⟩] else []

/-- What a call has done to `droppedNoSlot`. -/
def Call.noSlot (k : Nat) (call : Call) : List Nat :=
  if call.phase.account = .gaveUp then [k] else []

/-- A counter of `n` events lags behind by the calls in the given account. -/
def Lags (account : Account) (calls : List Call) (counter : UInt64) (n : Nat) : Prop :=
  counter + UInt64.ofNat (calls.countP fun call => call.phase.account == account) = UInt64.ofNat n

/-- **The books are right** up to the calls that are under way. What has left the channel and what
is in it is what has entered it, in this order, and each call has put its message there at most
once. -/
structure Books (s : State) : Prop where
  order : s.entered = s.removed.map Prod.fst ++ s.ch
  entries : Tasks.Logged Queued.call Call.entry s.calls s.entered
  noSlots : Tasks.Logged id Call.noSlot s.calls s.noSlots
  enqueued : Lags .entering s.calls s.enqueued s.entered.length
  droppedOldest : Lags .dropping s.calls s.droppedOldest s.dropped.length
  droppedNoSlot : s.droppedNoSlot = UInt64.ofNat s.noSlots.length

section Lags

variable {account : Account} {calls : List Call} {counter : UInt64} {n k : Nat}
  {call call' : Call}

/-- A call goes on. -/
theorem Lags.set (h : Lags account calls counter n) (hk : calls[k]? = some call)
    (hsame : (call'.phase.account = account) ↔ (call.phase.account = account)) :
    Lags account (calls.set k call') counter n := by
  have hcount := Tasks.countP_set (b := call') (fun call => call.phase.account == account) hk
  simp only [beq_iff_eq, hsame] at hcount
  unfold Lags
  rw [Nat.add_right_cancel hcount]
  exact h

/-- An event that is not yet in the counter. -/
theorem Lags.event (h : Lags account calls counter n) (hk : calls[k]? = some call)
    (hbefore : call.phase.account ≠ account) (hafter : call'.phase.account = account) :
    Lags account (calls.set k call') counter (n + 1) := by
  have hcount := Tasks.countP_set (b := call') (fun call => call.phase.account == account) hk
  simp only [beq_iff_eq, hafter, if_true, if_neg hbefore, Nat.add_zero] at hcount
  unfold Lags at h ⊢
  rw [hcount, UInt64.ofNat_add, UInt64.ofNat_add, ← UInt64.add_assoc, h]

/-- The event is counted. -/
theorem Lags.count (h : Lags account calls counter n) (hk : calls[k]? = some call)
    (hbefore : call.phase.account = account) (hafter : call'.phase.account ≠ account) :
    Lags account (calls.set k call') (counter + 1) n := by
  have hcount := Tasks.countP_set (b := call') (fun call => call.phase.account == account) hk
  simp only [beq_iff_eq, hbefore, if_true, if_neg hafter, Nat.add_zero] at hcount
  unfold Lags at h ⊢
  rw [← h, ← hcount, UInt64.ofNat_add, UInt64.add_assoc, UInt64.add_comm 1]
  rfl

/-- A new call. -/
theorem Lags.append (h : Lags account calls counter n) (hnew : call.phase.account ≠ account) :
    Lags account (calls ++ [call]) counter n := by
  unfold Lags
  rw [List.countP_append, List.countP_singleton, if_neg (by simpa using hnew)]
  exact h

/-- When no call is in the account, the counter is right. -/
theorem Lags.eq (h : Lags account calls counter n)
    (hnone : ∀ call ∈ calls, call.phase.account ≠ account) : counter = UInt64.ofNat n := by
  have hzero : calls.countP (fun call => call.phase.account == account) = 0 := by
    rw [List.countP_eq_zero]
    intro call hcall
    simpa using hnone call hcall
  unfold Lags at h
  rw [hzero] at h
  simpa using h

end Lags

section Books

variable {capacity : Nat} {s t : State} {k : Nat} {call : Call} {phase : CallPhase}

theorem Call.entry_of_eq (h : phase.account = call.phase.account) :
    Call.entry k { call with phase := phase } = Call.entry k call := by
  simp only [Call.entry, h]

theorem Call.noSlot_of_eq (h : phase.account = call.phase.account) :
    Call.noSlot k { call with phase := phase } = Call.noSlot k call := by
  simp only [Call.noSlot, h]

theorem dropped_remove (q : Queued) (ch : List Queued) :
    (s.remove q ch .dropped).dropped = s.dropped ++ [q] := by
  simp [State.dropped, State.remove]

theorem dropped_receive (q : Queued) (ch : List Queued) :
    (s.remove q ch .received).dropped = s.dropped := by
  simp [State.dropped, State.remove]

namespace Books

theorem init : Books (machine capacity).init where
  order := rfl
  entries := .nil
  noSlots := .nil
  enqueued := rfl
  droppedOldest := rfl
  droppedNoSlot := rfl

theorem addCall (h : Books s) (caller : Caller) (msg : AgentControlMessage) (now : Time) :
    Books (s.addCall caller msg now) where
  order := h.order
  entries := h.entries.append rfl
  noSlots := h.noSlots.append rfl
  enqueued := h.enqueued.append (by simp [CallPhase.account])
  droppedOldest := h.droppedOldest.append (by simp [CallPhase.account])
  droppedNoSlot := h.droppedNoSlot

theorem offer (h : Books s) (q : Queued) : Books (s.offer q) := { h with }

/-- A call goes on, and the books need not be told. -/
theorem setPhase (h : Books s) (hk : s.calls[k]? = some call)
    (haccount : phase.account = call.phase.account) : Books (s.setPhase k call phase) where
  order := h.order
  entries := h.entries.set hk (Call.entry_of_eq haccount)
  noSlots := h.noSlots.set hk (Call.noSlot_of_eq haccount)
  enqueued := h.enqueued.set hk (by rw [haccount])
  droppedOldest := h.droppedOldest.set hk (by rw [haccount])
  droppedNoSlot := h.droppedNoSlot

/-- A message enters the channel. -/
theorem enter (h : Books s) (hk : s.calls[k]? = some call)
    (hclear : call.phase.account = .clear) :
    Books ((s.enter ⟨k, call.msg⟩).setPhase k call .stamping) where
  order := by
    show s.entered ++ [_] = s.removed.map Prod.fst ++ (s.ch ++ [_])
    rw [h.order, List.append_assoc]
  entries := h.entries.write hk rfl (by simp [Call.entry, hclear])
    (by simp [Call.entry, CallPhase.account])
  noSlots := h.noSlots.set hk (by simp only [Call.noSlot, hclear]; rfl)
  -- one more event, and one more call that has not counted it
  enqueued := by
    show Lags .entering _ s.enqueued (s.entered ++ [_]).length
    rw [List.length_append]
    exact h.enqueued.event hk (by simp [hclear]) rfl
  droppedOldest := h.droppedOldest.set hk (by rw [hclear]; simp [CallPhase.account])
  droppedNoSlot := h.droppedNoSlot

/-- `recordEnqueue`. -/
theorem count (h : Books s) (hk : s.calls[k]? = some call) (hphase : call.phase = .counting) :
    Books ({ s with enqueued := s.enqueued + 1 }.setPhase k call (.returned .delivered)) where
  order := h.order
  entries := h.entries.set hk (by simp [Call.entry, hphase, CallPhase.account])
  noSlots := h.noSlots.set hk (by simp [Call.noSlot, hphase, CallPhase.account])
  enqueued := h.enqueued.count hk (by rw [hphase]; rfl) (by simp [CallPhase.account])
  droppedOldest := h.droppedOldest.set hk (by simp [hphase, CallPhase.account])
  droppedNoSlot := h.droppedNoSlot

/-- The oldest message is dropped. -/
theorem drop {q : Queued} {ch : List Queued} (h : Books s) (hk : s.calls[k]? = some call)
    (hphase : call.phase = .dropping) (hch : s.ch = q :: ch) :
    Books ((s.remove q ch .dropped).setPhase k call .unstamping) where
  order := by
    show s.entered = (s.removed ++ [(q, Fate.dropped)]).map Prod.fst ++ ch
    rw [h.order, hch]
    simp
  entries := h.entries.set hk (by simp [Call.entry, hphase, CallPhase.account])
  noSlots := h.noSlots.set hk (by simp [Call.noSlot, hphase, CallPhase.account])
  enqueued := h.enqueued.set hk (by simp [hphase, CallPhase.account])
  droppedOldest := by
    show Lags .dropping _ s.droppedOldest (s.remove q ch .dropped).dropped.length
    rw [dropped_remove, List.length_append]
    exact h.droppedOldest.event hk (by simp [hphase, CallPhase.account]) rfl
  droppedNoSlot := h.droppedNoSlot

/-- `recordDropOldest`. -/
theorem countDrop (h : Books s) (hk : s.calls[k]? = some call)
    (hphase : call.phase = .countingDrop) :
    Books ({ s with droppedOldest := s.droppedOldest + 1 }.setPhase k call .retrying) where
  order := h.order
  entries := h.entries.set hk (by simp [Call.entry, hphase, CallPhase.account])
  noSlots := h.noSlots.set hk (by simp [Call.noSlot, hphase, CallPhase.account])
  enqueued := h.enqueued.set hk (by simp [hphase, CallPhase.account])
  droppedOldest := h.droppedOldest.count hk (by rw [hphase]; rfl) (by simp [CallPhase.account])
  droppedNoSlot := h.droppedNoSlot

/-- `recordDropNoSlot`. -/
theorem noSlot (h : Books s) (hk : s.calls[k]? = some call) (hphase : call.phase = .givingUp) :
    Books ({ s with
      droppedNoSlot := s.droppedNoSlot + 1
      noSlots := s.noSlots ++ [k] }.setPhase k call (.returned .channelFull)) where
  order := h.order
  entries := h.entries.set hk (by simp [Call.entry, hphase, CallPhase.account])
  noSlots := h.noSlots.write hk rfl (by simp [Call.noSlot, hphase, CallPhase.account])
    (by simp [Call.noSlot, CallPhase.account])
  enqueued := h.enqueued.set hk (by simp [hphase, CallPhase.account])
  droppedOldest := h.droppedOldest.set hk (by simp [hphase, CallPhase.account])
  droppedNoSlot := by
    show s.droppedNoSlot + 1 = UInt64.ofNat (s.noSlots ++ [k]).length
    rw [h.droppedNoSlot, List.length_append, UInt64.ofNat_add]
    rfl

/-- The consumer receives a message. -/
theorem receive {q : Queued} {ch : List Queued} (h : Books s) (hch : s.ch = q :: ch) :
    Books { s.remove q ch .received with consumer := .popping q } where
  order := by
    show s.entered = (s.removed ++ [(q, Fate.received)]).map Prod.fst ++ ch
    rw [h.order, hch]
    simp
  entries := h.entries
  noSlots := h.noSlots
  enqueued := h.enqueued
  droppedOldest := by
    show Lags .dropping s.calls s.droppedOldest (s.remove q ch .received).dropped.length
    rw [dropped_receive]
    exact h.droppedOldest
  droppedNoSlot := h.droppedNoSlot

/-- **Every step keeps the books.** -/
theorem step {a : Step} (h : Books s) (hstep : s.step capacity a = some t) : Books t := by
  cases move_of_step hstep with
  | deliverRelay msg now => exact h.addCall .deliver msg now
  | scan task entry now => exact h.addCall .preempt _ now
  | place hk hphase =>
    rcases hphase with ⟨hphase, rfl⟩ | ⟨hphase, rfl⟩
    · exact (h.offer _).enter hk (by rw [hphase]; rfl)
    · exact h.enter hk (by rw [hphase]; rfl)
  | full hk hphase =>
    refine (h.offer _).setPhase hk ?_
    rw [hphase]
    split <;> rfl
  | @stamp k call hk hphase =>
    have hstamp : Books (s.pushStamp capacity ⟨k, call.now⟩) := { h with }
    exact hstamp.setPhase hk (by rw [hphase]; rfl)
  | count hk hphase => exact h.count hk hphase
  | drop hk hphase hch => exact h.drop hk hphase hch
  | dropNone hk hphase =>
    refine h.setPhase hk ?_
    rw [hphase]
    split <;> rfl
  | unstamp hk hphase =>
    have hstamp : Books { s with enqueuedAt := s.enqueuedAt.tail } := { h with }
    exact hstamp.setPhase hk (by rw [hphase]; rfl)
  | countDrop hk hphase => exact h.countDrop hk hphase
  | fullAgain hk hphase => exact h.setPhase hk (by rw [hphase]; rfl)
  | noSlot hk hphase => exact h.noSlot hk hphase
  | receive hregistered hconsumer hch => exact h.receive hch
  | pop | unregister => exact { h with }

/-- The books hold in every run. -/
theorem of_run {steps : List Step}
    (h : (machine capacity).run (machine capacity).init steps = some s) : Books s :=
  (machine capacity).run_invariant (fun _ _ _ h => h.step) init h

end Books

/-! ## Conservation -/

/-- Every message that has left the channel was received or dropped. -/
theorem length_removed (s : State) : s.removed.length = s.received.length + s.dropped.length := by
  have hsplit : ∀ removed : List (Queued × Fate), removed.length =
      (removed.filter fun r => r.2 == .received).length +
        (removed.filter fun r => r.2 == .dropped).length := by
    intro removed
    induction removed with
    | nil => rfl
    | cons r removed ih =>
      obtain ⟨q, fate⟩ := r
      cases fate <;> simp [ih] <;> omega
  rw [State.received, State.dropped, List.length_map, List.length_map]
  exact hsplit s.removed

namespace Books

/-- Every message that entered was received, dropped or is queued. -/
theorem length_entered (h : Books s) :
    s.entered.length = s.received.length + s.dropped.length + s.ch.length := by
  rw [h.order, List.length_append, List.length_map, length_removed]

/-- The consumer sees the messages in the order in which they have entered the channel. -/
theorem received_sublist (h : Books s) : s.received.Sublist s.entered := by
  rw [h.order]
  exact (List.filter_sublist.map Prod.fst).trans (List.sublist_append_left _ _)

/-- No call enters two messages. -/
theorem nodup_entered (h : Books s) : (s.entered.map Queued.call).Nodup := by
  refine h.entries.nodup fun k call => ?_
  unfold Call.entry
  split <;> simp

/-- A call is in `droppedNoSlot` only when it has reported a full channel. -/
theorem phase_of_mem_noSlots (h : Books s) (hk : s.calls[k]? = some call) (hmem : k ∈ s.noSlots) :
    call.phase = .returned .channelFull := by
  have hown : k ∈ s.noSlots.filter fun j => id j == k :=
    List.mem_filter.mpr ⟨hmem, beq_self_eq_true k⟩
  rw [h.noSlots.own k call hk, Call.noSlot] at hown
  split_ifs at hown with haccount
  · exact CallPhase.eq_of_account_gaveUp haccount
  · cases hown

end Books

end Books

/-- The call is over. -/
def CallPhase.isReturned : CallPhase → Bool
  | returned _ => true
  | _ => false

/-- The operations that a call has at most before it. -/
def CallPhase.left : CallPhase → Nat
  | offering => 7
  | dropping => 6
  | unstamping => 5
  | countingDrop => 4
  | retrying => 3
  | stamping => 2
  | counting => 1
  | givingUp => 1
  | returned _ => 0

theorem CallPhase.exists_of_isReturned {phase : CallPhase} (h : phase.isReturned = true) :
    ∃ result, phase = returned result := by
  cases phase with
  | returned result => exact ⟨result, rfl⟩
  | _ => cases h

namespace State

/-- No call is under way. -/
def Quiescent (s : State) : Prop := ∀ call ∈ s.calls, call.phase.isReturned = true

/-- While call `k` is under way, no other call is. -/
def Alone (s : State) (k : Nat) : Prop :=
  ∀ call ∈ s.calls[k]?, call.phase.isReturned = false →
    ∀ other ∈ s.calls.eraseIdx k, other.phase.isReturned = true

end State

section Quiescent

variable {s : State}

/-- A counter with no call under way is exact. -/
theorem Lags.eq_of_quiescent {account : Account} {counter : UInt64} {n : Nat}
    (h : Lags account s.calls counter n) (hquiescent : s.Quiescent)
    (haccount : account = .entering ∨ account = .dropping) : counter = UInt64.ofNat n := by
  refine h.eq fun call hcall heq => ?_
  obtain ⟨result, hphase⟩ := CallPhase.exists_of_isReturned (hquiescent call hcall)
  rw [hphase] at heq
  cases result <;> rcases haccount with rfl | rfl <;> cases heq

/-- **Conservation**: when no call is under way, the counters add up. -/
theorem Books.conservation (h : Books s) (hquiescent : s.Quiescent) :
    s.enqueued = UInt64.ofNat s.received.length + s.droppedOldest + UInt64.ofNat s.ch.length := by
  rw [h.enqueued.eq_of_quiescent hquiescent (Or.inl rfl),
    h.droppedOldest.eq_of_quiescent hquiescent (Or.inr rfl), h.length_entered, UInt64.ofNat_add,
    UInt64.ofNat_add]

/-- Conservation as long as the counters have not wrapped. -/
theorem Books.conservation_toNat (h : Books s) (hquiescent : s.Quiescent)
    (hsize : s.entered.length < 2 ^ 64) :
    s.enqueued.toNat = s.received.length + s.droppedOldest.toNat + s.ch.length := by
  have hlen := h.length_entered
  have hdropped : s.dropped.length < 2 ^ 64 := by omega
  rw [h.enqueued.eq_of_quiescent hquiescent (Or.inl rfl),
    h.droppedOldest.eq_of_quiescent hquiescent (Or.inr rfl), UInt64.toNat_ofNat_of_lt' hsize,
    UInt64.toNat_ofNat_of_lt' hdropped]
  exact hlen

end Quiescent

instance (s : State) : Decidable s.Quiescent :=
  inferInstanceAs (Decidable (∀ call ∈ s.calls, call.phase.isReturned = true))

instance (s : State) (k : Nat) : Decidable (s.Alone k) :=
  Option.decidableForallMem s.calls[k]?

/-! ## A producer on its own -/

/-- A delivery of `relay_data` that nobody disturbs: it does not give up, and once it has made room
there is room. -/
def Secure (capacity : Nat) (ch : List Queued) : CallPhase → Prop
  | .unstamping => ch.length < capacity
  | .countingDrop => ch.length < capacity
  | .retrying => ch.length < capacity
  | .givingUp => False
  | .returned result => result = .delivered
  | _ => True

section Alone

variable {capacity : Nat} {s t : State} {k : Nat} {call : Call}

theorem Secure.mono {ch ch' : List Queued} {phase : CallPhase} (h : Secure capacity ch phase)
    (hle : ch'.length ≤ ch.length) : Secure capacity ch' phase := by
  cases phase with
  | unstamping | countingDrop | retrying => exact Nat.lt_of_le_of_lt hle h
  | _ => exact h

/-- The next operation of a call: the call comes nearer to its end, and a delivery of `relay_data`
stays secure. -/
theorem next_of_move {j : Nat} (h : Move capacity s (.next j) t) :
    ∃ call phase, s.calls[j]? = some call ∧ t.calls = s.calls.set j { call with phase := phase } ∧
      phase.left < call.phase.left ∧
      (0 < capacity → s.ch.length ≤ capacity → call.caller = .deliver →
        call.msg.type = .relayData → Secure capacity s.ch call.phase →
          Secure capacity t.ch phase) := by
  cases h with
  | place hk hphase =>
    rcases hphase with ⟨hphase, rfl⟩ | ⟨hphase, rfl⟩ <;>
      exact ⟨_, _, hk, rfl, by rw [hphase]; decide, fun _ _ _ _ _ => trivial⟩
  | full hk hphase =>
    refine ⟨_, _, hk, rfl, ?_, fun _ _ _ hdata _ => ?_⟩
    · rw [hphase]
      split <;> decide
    · rw [if_pos (Or.inr hdata)]
      trivial
  | stamp hk hphase => exact ⟨_, _, hk, rfl, by rw [hphase]; decide, fun _ _ _ _ _ => trivial⟩
  | count hk hphase => exact ⟨_, _, hk, rfl, by rw [hphase]; decide, fun _ _ _ _ _ => rfl⟩
  | drop hk hphase hch =>
    refine ⟨_, _, hk, rfl, by rw [hphase]; decide, fun _ hle _ _ _ => ?_⟩
    -- the room of the message that was dropped
    rw [hch] at hle
    exact hle
  -- somebody has emptied the channel in between: there is room as well
  | dropNone hk hphase hch =>
    refine ⟨_, _, hk, rfl, ?_, fun hcapacity _ hdeliver _ _ => ?_⟩
    · rw [hphase]
      split <;> decide
    · rw [if_neg (by rw [hdeliver]; decide)]
      show s.ch.length < capacity
      rw [hch]
      exact hcapacity
  | unstamp hk hphase | countDrop hk hphase =>
    refine ⟨_, _, hk, rfl, by rw [hphase]; decide, fun _ _ _ _ hsecure => ?_⟩
    rw [hphase] at hsecure
    exact hsecure
  | fullAgain hk hphase hroom =>
    refine ⟨_, _, hk, rfl, by rw [hphase]; decide, fun _ _ _ _ hsecure => ?_⟩
    rw [hphase] at hsecure
    exact hroom hsecure
  | noSlot hk hphase =>
    refine ⟨_, _, hk, rfl, by rw [hphase]; decide, fun _ _ _ _ hsecure => ?_⟩
    rw [hphase] at hsecure
    exact hsecure.elim

/-- A call that is under way has a next operation. -/
theorem exists_next (hk : s.calls[k]? = some call) (hunder : call.phase.isReturned = false) :
    ∃ t call', s.step capacity (.next k) = some t ∧ t.calls[k]? = some call' ∧
      call'.phase.left < call.phase.left := by
  obtain ⟨t, ht⟩ : ∃ t, s.next capacity k call = some t := by
    unfold State.next
    cases hphase : call.phase with
    | returned result =>
      rw [hphase] at hunder
      cases hunder
    | dropping => cases s.ch <;> exact ⟨_, rfl⟩
    | _ => exact ⟨_, rfl⟩
  have hstep : s.step capacity (.next k) = some t := by
    show s.calls[k]?.bind _ = some t
    rw [hk]
    exact ht
  obtain ⟨call', phase, hk', hcalls, hleft, -⟩ := next_of_move (move_of_step hstep)
  obtain rfl : call = call' := Option.some.inj (hk.symm.trans hk')
  refine ⟨t, { call with phase := phase }, hstep, ?_, hleft⟩
  rw [hcalls]
  exact Tasks.set_self hk

/-- Every delivery of `relay_data` by call `k` is secure. -/
def SecureAt (capacity k : Nat) (s : State) : Prop :=
  s.ch.length ≤ capacity ∧ ∀ call, s.calls[k]? = some call → call.caller = .deliver →
    call.msg.type = .relayData → Secure capacity s.ch call.phase

theorem SecureAt.addCall (h : SecureAt capacity k s) (caller : Caller) (msg : AgentControlMessage)
    (now : Time) : SecureAt capacity k (s.addCall caller msg now) := by
  refine ⟨h.1, fun call hk hdeliver hdata => ?_⟩
  rcases Tasks.of_append hk with ⟨-, rfl⟩ | ⟨-, hold⟩
  · trivial
  · exact h.2 call hold hdeliver hdata

/-- **A call that is alone stays secure.** -/
theorem SecureAt.step (hcapacity : 0 < capacity) {a : Step} (h : SecureAt capacity k s)
    (halone : s.Alone k) (hstep : s.step capacity a = some t) : SecureAt capacity k t := by
  have hle := length_ch_step hstep h.1
  have hmove := move_of_step hstep
  cases a with
  | deliverRelay msg now =>
    cases hmove
    exact h.addCall .deliver msg now
  | scan task entry now =>
    cases hmove
    exact h.addCall .preempt _ now
  | receive =>
    cases hmove with
    | receive hregistered hconsumer hch =>
      refine ⟨hle, fun call hk hdeliver hdata => (h.2 call hk hdeliver hdata).mono ?_⟩
      rw [hch]
      exact Nat.le_succ _
  | pop | unregister =>
    cases hmove
    exact h
  | next j =>
    obtain ⟨mover, phase, hj, hcalls, hleft, hsecure⟩ := next_of_move hmove
    refine ⟨hle, fun call hk hdeliver hdata => ?_⟩
    rw [hcalls] at hk
    rcases Tasks.of_set hk with ⟨rfl, rfl⟩ | ⟨hne, hold⟩
    · exact hsecure hcapacity h.1 hdeliver hdata (h.2 mover hj hdeliver hdata)
    · -- another call moves, so this one has returned
      have hreturned : call.phase.isReturned = true := by
        by_contra hunder
        obtain ⟨result, hphase⟩ := CallPhase.exists_of_isReturned
          (halone call hold (by simpa using hunder) mover
            (List.mem_eraseIdx_iff_getElem?.mpr ⟨j, Ne.symm hne, hj⟩))
        rw [hphase] at hleft
        exact Nat.not_lt_zero _ hleft
      obtain ⟨result, hphase⟩ := CallPhase.exists_of_isReturned hreturned
      have hbefore := h.2 call hold hdeliver hdata
      rw [hphase] at hbefore ⊢
      exact hbefore

/-- A delivery of `relay_data` that is alone has been made, or goes on. -/
theorem delivered_or_next (hcapacity : 0 < capacity) {steps : List Step}
    (hrun : (machine capacity).run (machine capacity).init steps = some s)
    (halone : (machine capacity).Along (fun s _ => s.Alone k) (machine capacity).init steps)
    (hk : s.calls[k]? = some call) (hdeliver : call.caller = .deliver)
    (hdata : call.msg.type = .relayData) :
    call.phase = .returned .delivered ∨ ∃ t call', s.step capacity (.next k) = some t ∧
      t.calls[k]? = some call' ∧ call'.phase.left < call.phase.left := by
  have hinit : SecureAt capacity k (machine capacity).init :=
    ⟨Nat.zero_le capacity, fun call hk => by simp [machine] at hk⟩
  have hsecure := (machine capacity).along_invariant
    (fun s a t h halone hstep => SecureAt.step hcapacity h halone hstep) hinit halone hrun
  by_cases hreturned : call.phase.isReturned = true
  · obtain ⟨result, hphase⟩ := CallPhase.exists_of_isReturned hreturned
    have hend := hsecure.2 call hk hdeliver hdata
    rw [hphase] at hend ⊢
    exact Or.inl (congrArg CallPhase.returned hend)
  · exact Or.inr (exists_next hk (by simpa using hreturned))

end Alone

/-- **Nothing gets lost in the queue of a relay**, for every interleaving of its producers and its
consumer. What the consumer receives is what has entered the channel, in this order, some messages
left out. Whenever no call is under way, the counters add up, modulo `2 ^ 64` and exactly while
fewer messages have entered. A call that reports a delivery has put its message into the channel
once, and one that reports a full channel never, and is counted once. A `relay_data` message whose
delivery is alone is delivered: until then the call has a next operation, which brings it nearer to
its end. -/
theorem relay_queue_conservation {capacity : Nat} (hcapacity : 0 < capacity) {steps : List Step}
    {s : State} (hrun : (machine capacity).run (machine capacity).init steps = some s) :
    (s.received.Sublist s.entered ∧ (s.entered.map Queued.call).Nodup) ∧
      (s.Quiescent →
        s.enqueued
          = UInt64.ofNat s.received.length + s.droppedOldest + UInt64.ofNat s.ch.length ∧
        (s.entered.length < 2 ^ 64 →
          s.enqueued.toNat = s.received.length + s.droppedOldest.toNat + s.ch.length)) ∧
      (∀ k call, s.calls[k]? = some call → call.phase = .returned .delivered →
        s.entered.filter (fun q => q.call == k) = [⟨k, call.msg⟩]) ∧
      (s.droppedNoSlot = UInt64.ofNat s.noSlots.length ∧
        (∀ k ∈ s.noSlots, ∃ call, s.calls[k]? = some call ∧
          call.phase = .returned .channelFull) ∧
        ∀ k call, s.calls[k]? = some call → call.phase = .returned .channelFull →
          s.noSlots.count k = 1 ∧ s.entered.filter (fun q => q.call == k) = []) ∧
      (∀ k, (machine capacity).Along (fun s _ => s.Alone k) (machine capacity).init steps →
        ∀ call, s.calls[k]? = some call → call.caller = .deliver → call.msg.type = .relayData →
          call.phase = .returned .delivered ∨ ∃ t call', s.step capacity (.next k) = some t ∧
            t.calls[k]? = some call' ∧ call'.phase.left < call.phase.left) := by
  have hbooks := Books.of_run hrun
  refine ⟨⟨hbooks.received_sublist, hbooks.nodup_entered⟩, fun hquiescent =>
    ⟨hbooks.conservation hquiescent, hbooks.conservation_toNat hquiescent⟩, ?_,
    ⟨hbooks.droppedNoSlot, ?_, ?_⟩, fun k halone call hk hdeliver hdata =>
      delivered_or_next hcapacity hrun halone hk hdeliver hdata⟩
  · intro k call hk hphase
    rw [hbooks.entries.own k call hk, Call.entry, hphase]
    rfl
  · intro k hmem
    obtain ⟨call, hk⟩ := Tasks.exists_of_lt (hbooks.noSlots.tagged k hmem)
    refine ⟨call, hk, hbooks.phase_of_mem_noSlots hk hmem⟩
  · intro k call hk hphase
    refine ⟨?_, ?_⟩
    · have hown := congrArg List.length (hbooks.noSlots.own k call hk)
      -- a call that has given up stands in the list once
      rw [← List.countP_eq_length_filter, Call.noSlot, hphase] at hown
      exact hown
    · rw [hbooks.entries.own k call hk, Call.entry, hphase]
      rfl

/-- A relay with room for one message: a `relay_data` message takes the place of another while the
first delivery is still at its books, then a `relay_close` finds no room, then the consumer comes.
-/
def crowdedSteps : List Step :=
  [.deliverRelay (Queue.sampleMessage .relayData) 1, .next 0,
    .deliverRelay (Queue.sampleMessage .relayData) 2, .next 1, .next 1, .next 1, .next 0, .next 0,
    .next 1, .next 1, .next 1, .next 1,
    .deliverRelay (Queue.sampleMessage .relayClose) 3, .next 2, .next 2, .receive, .pop,
    .deliverRelay (Queue.sampleMessage .relayData) 4, .next 3, .next 3, .next 3]

theorem conservation_crowdedSteps :
    ∃ s, (machine 1).run (machine 1).init crowdedSteps = some s ∧
      (s.Quiescent ∧ s.received.length = 1 ∧ s.droppedOldest = 1 ∧ s.ch.length = 1) ∧
      s.enqueued.toNat = s.received.length + s.droppedOldest.toNat + s.ch.length ∧
      s.noSlots.count 2 = 1 ∧
      (∃ call, s.calls[3]? = some call ∧ call.phase = .returned .delivered ∧
        s.entered.filter (fun q => q.call == 3) = [⟨3, call.msg⟩]) := by
  obtain ⟨s, hrun, hquiet, hentered, hfull, hlast⟩ := (machine 1).exists_run crowdedSteps
    (fun s => (s.Quiescent ∧ s.received.length = 1 ∧ s.droppedOldest = 1 ∧ s.ch.length = 1) ∧
      s.entered.length < 2 ^ 64 ∧
      s.calls[2]? = some ⟨.deliver, Queue.sampleMessage .relayClose, 3, .returned .channelFull⟩ ∧
      s.calls[3]? = some ⟨.deliver, Queue.sampleMessage .relayData, 4, .returned .delivered⟩)
    (by decide)
  obtain ⟨-, hadd, hdelivered, ⟨-, -, hnoSlot⟩, -⟩ :=
    relay_queue_conservation Nat.one_pos hrun
  exact ⟨s, hrun, hquiet, (hadd hquiet.1).2 hentered, (hnoSlot 2 _ hfull rfl).1, _, hlast, rfl,
    hdelivered 3 _ hlast rfl⟩

end Roboat.Relay.QueueStats
