import Roboat.Relay.Hub

/-! # The queue of a relay under load

The messages for one relay go through a channel of fixed capacity. Its producers never wait: a
`deliverRelay` call, made by a read pump of the robot, gives a message up when there is no room,
unless it is `relay_data`, for which the oldest message in the channel is dropped, whatever it is; a
`preemptRelaysForSession` pass drops the oldest message for its own `relay_close`. Enqueueing,
dropping and enqueueing again are separate operations, between which other producers and the
consumer take their turns.

The hub machine has all relays, with the capacity they are made with. Here it is one relay of any
capacity, with the producers that hold a copy of its registration; `chansMove_of_hubStep` is the
link between the two. The question is what becomes of the messages that a relay's life hangs on:
`relay_close`, and the first `relay_open_ack`. -/

namespace Roboat.Relay.Queue

/-! ## The machine -/

/-- A non-blocking send on a channel. -/
def push {α : Type*} (capacity : Nat) (ch : List α) (a : α) : Option (List α) :=
  if ch.length < capacity then some (ch ++ [a]) else none

theorem push_of_lt {α : Type*} {capacity : Nat} {ch : List α} (a : α) (h : ch.length < capacity) :
    push capacity ch a = some (ch ++ [a]) := if_pos h

theorem push_of_not_lt {α : Type*} {capacity : Nat} {ch : List α} (a : α)
    (h : ¬ ch.length < capacity) : push capacity ch a = none := if_neg h

/-- A message in the channel. `call` is the call that has placed it, which nobody reads. -/
structure Queued where
  call : Nat
  msg : AgentControlMessage
  deriving DecidableEq, Repr

/-- Who holds a copy of the registration. -/
inductive Caller where
  /-- `deliverRelay`. -/
  | deliver
  /-- `preemptRelaysForSession`. -/
  | preempt
  deriving DecidableEq, Repr

/-- Where a call is. -/
inductive CallPhase where
  /-- Before the first `enqueue`. -/
  | offering
  /-- The channel was full: before `dropOldestQueuedMessage`. -/
  | dropping
  /-- Before the second `enqueue`. -/
  | retrying
  | returned
  deriving DecidableEq, Repr

/-- A producer with its message. -/
structure Call where
  caller : Caller
  msg : AgentControlMessage
  phase : CallPhase
  deriving DecidableEq, Repr

/-- A relay. `offered` and `received` are history: the messages for which `enqueue` was called while
the relay was registered, and those that the consumer has taken. -/
structure State where
  registered : Bool
  ch : List Queued
  calls : List Call
  offered : List Queued
  received : List Queued
  deriving DecidableEq, Repr

/-- The atomic steps. -/
inductive Step where
  /-- `deliverRelay` looks the relay up. -/
  | deliverRelay (msg : AgentControlMessage)
  /-- The scan of a preemption finds the relay stale. -/
  | scan (task : SessionTask) (entry : RelayEntry)
  /-- The first `enqueue` of a call. -/
  | enqueue (k : Nat)
  /-- `dropOldestQueuedMessage`. -/
  | drop (k : Nat)
  /-- The second `enqueue`. -/
  | retry (k : Nat)
  /-- The consumer takes a message. -/
  | receive
  /-- `UnregisterRelay`, and the end of the consumer. -/
  | unregister

namespace State

/-- A new call. -/
def addCall (s : State) (caller : Caller) (msg : AgentControlMessage) : State :=
  { s with calls := s.calls ++ [⟨caller, msg, .offering⟩] }

/-- A call goes on to its next operation. -/
def setPhase (s : State) (k : Nat) (call : Call) (phase : CallPhase) : State :=
  { s with calls := s.calls.set k { call with phase := phase } }

/-- A message is offered to the relay; that is the relay's business only while it is registered. -/
def offer (s : State) (q : Queued) : State :=
  { s with offered := if s.registered then s.offered ++ [q] else s.offered }

/-- The first `enqueue`. A full channel is the end of a delivery, unless it is of `relay_data`. -/
def enqueueCall (capacity : Nat) (s : State) (k : Nat) (call : Call) : State :=
  match push capacity s.ch ⟨k, call.msg⟩ with
  | some ch => { s.offer ⟨k, call.msg⟩ with ch := ch }.setPhase k call .returned
  | none =>
    (s.offer ⟨k, call.msg⟩).setPhase k call
      (if call.caller = .preempt ∨ call.msg.type = .relayData then .dropping else .returned)

/-- `dropOldestQueuedMessage`. If there is nothing to drop, a delivery goes on and a preemption
gives up (`dropOldestQueuedMessage() && enqueue(msg, now)`). -/
def dropCall (s : State) (k : Nat) (call : Call) : State :=
  match s.ch with
  -- the message dropped is not looked at
  | _ :: ch => { s with ch := ch }.setPhase k call .retrying
  | [] => s.setPhase k call (if call.caller = .preempt then .returned else .retrying)

/-- The second `enqueue`. -/
def retryCall (capacity : Nat) (s : State) (k : Nat) (call : Call) : State :=
  -- whether or not another producer has taken the room, the call is over
  { s with ch := (push capacity s.ch ⟨k, call.msg⟩).getD s.ch }.setPhase k call .returned

/-- A step of call `k` from one of its phases. -/
def onCall (s : State) (k : Nat) (phase : CallPhase) (f : Call → State) : Option State :=
  s.calls[k]?.bind fun call => if call.phase = phase then some (f call) else none

/-- The step function. -/
def step (capacity : Nat) (s : State) : Step → Option State
  | .deliverRelay msg => if s.registered then some (s.addCall .deliver msg) else none
  | .scan task entry =>
    if s.registered then some (s.addCall .preempt (Relay.State.preemptMessage task entry))
    else none
  | .enqueue k => s.onCall k .offering (s.enqueueCall capacity k)
  | .drop k => s.onCall k .dropping (s.dropCall k)
  | .retry k => s.onCall k .retrying (s.retryCall capacity k)
  | .receive =>
    match s.ch with
    | q :: ch =>
      if s.registered then some { s with ch := ch, received := s.received ++ [q] } else none
    | [] => none
  | .unregister => if s.registered then some { s with registered := false } else none

end State

/-- **The machine of one relay**, from `RegisterRelay` with a channel of the given capacity. -/
def machine (capacity : Nat) : Machine State Step where
  init := ⟨true, [], [], [], []⟩
  step := State.step capacity

/-! ### The hub's channels

In the hub machine the channels of all relays live side by side, with one capacity. Seen from one
channel, a step of the hub is a step of the kind that happens here: nothing, a send, or a receive.
-/

/-- What a step can do to a channel. -/
def ChanMove {α : Type*} (capacity : Nat) (ch ch' : List α) : Prop :=
  ch' = ch ∨ (∃ a, push capacity ch a = some ch') ∨ ∃ a, ch = a :: ch'

/-- A call adds one message at the end, or takes one off the front. -/
theorem chanMove_of_step {capacity : Nat} {s t : State} {a : Step}
    (h : s.step capacity a = some t) : ChanMove capacity s.ch t.ch := by
  cases a with
  | enqueue k =>
    obtain ⟨call, -, h⟩ := Option.bind_eq_some_iff.mp h
    split_ifs at h
    cases h
    unfold State.enqueueCall
    split
    · rename_i ch hpush
      exact Or.inr (Or.inl ⟨_, hpush⟩)
    · exact Or.inl rfl
  | drop k =>
    obtain ⟨call, -, h⟩ := Option.bind_eq_some_iff.mp h
    split_ifs at h
    cases h
    unfold State.dropCall
    split
    · rename_i q ch hch
      exact Or.inr (Or.inr ⟨q, hch⟩)
    · exact Or.inl rfl
  | retry k =>
    obtain ⟨call, -, h⟩ := Option.bind_eq_some_iff.mp h
    split_ifs at h
    cases h
    cases hpush : push capacity s.ch ⟨k, call.msg⟩ with
    | none => exact Or.inl (by simp [State.retryCall, State.setPhase, hpush])
    | some ch =>
      refine Or.inr (Or.inl ⟨_, hpush.trans ?_⟩)
      simp [State.retryCall, State.setPhase, hpush]
  | receive =>
    simp only [State.step] at h
    split at h
    · rename_i q ch hch
      split_ifs at h
      cases h
      exact Or.inr (Or.inr ⟨q, hch⟩)
    · cases h
  | deliverRelay | scan | unregister =>
    simp only [State.step] at h
    split_ifs at h
    cases h
    exact Or.inl rfl

section Hub

variable {env : Env} {s t : Relay.State} {reg : RelayRegistration} {msg : AgentControlMessage}
  {source : Source}

/-- Every channel of the hub makes such a move, with the capacity that relays are made with. -/
def ChansMove (s t : Relay.State) : Prop :=
  ∀ (i : Nat) (ch : List AgentControlMessage), s.chans[i]? = some ch →
    ∃ ch', t.chans[i]? = some ch' ∧ ChanMove relayChanCapacity ch ch'

theorem ChansMove.refl (s : Relay.State) : ChansMove s s := fun _ ch hi => ⟨ch, hi, Or.inl rfl⟩

/-- One channel moves. -/
theorem chansMove_set {i : Nat} {ch ch' : List AgentControlMessage} (hi : s.chans[i]? = some ch)
    (hmove : ChanMove relayChanCapacity ch ch') (hchans : t.chans = s.chans.set i ch') :
    ChansMove s t := by
  intro j other hj
  rw [hchans]
  refine Tasks.exists_set hi (fun hij _ => ?_) ⟨other, hj, Or.inl rfl⟩
  subst hij
  obtain rfl : ch = other := Option.some.inj (hi.symm.trans hj)
  exact hmove

/-- `enqueue` is a send on the relay's channel. -/
theorem chansMove_enqueue (h : s.enqueue reg msg source = some t) : ChansMove s t := by
  unfold Relay.State.enqueue at h
  split at h
  · cases h
  · rename_i ch hch
    split_ifs at h with hroom
    cases h
    exact chansMove_set hch (Or.inr (Or.inl ⟨msg, push_of_lt msg hroom⟩)) rfl

/-- `dropOldestQueuedMessage` takes the first message off the relay's channel. -/
theorem chansMove_dropOldest (h : s.dropOldestQueuedMessage reg = some t) : ChansMove s t := by
  unfold Relay.State.dropOldestQueuedMessage at h
  split at h
  · rename_i oldest ch hch
    cases h
    exact chansMove_set hch (Or.inr (Or.inr ⟨oldest, rfl⟩)) rfl
  · cases h

/-- An operation on a channel moves the channels. -/
theorem chansMove_of_chanOp (h : s.ChanOp t) : ChansMove s t := by
  cases h with
  | none => exact .refl s
  | enqueue henq => exact chansMove_enqueue henq
  | drop hdrop => exact chansMove_dropOldest hdrop

/-- The channels after an operation and changes elsewhere. -/
theorem ChansMove.of_chans {u : Relay.State} (h : ChansMove s u) (hchans : t.chans = u.chans) :
    ChansMove s t := by
  intro i ch hi
  rw [hchans]
  exact h i ch hi

/-- The steps of session tasks. -/
theorem chansMove_sessionStep {a : SessionStep} (h : s.sessionStep env a = some t) :
    ChansMove s t := by
  cases Relay.State.sessionMove_of_sessionStep h with
  | attach | activate | scan | passDone | upgradeFail | unregister | clear => exact .refl s
  | decide =>
    unfold Relay.State.decideSession
    split <;> exact .refl s
  | set =>
    unfold Relay.State.set
    split <;> exact .refl s
  | close =>
    unfold Relay.State.close
    split
    · rename_i u henq
      exact (chansMove_enqueue henq).of_chans rfl
    · exact .refl s
  | drop =>
    unfold Relay.State.drop
    split
    · rename_i u hdrop
      exact (chansMove_dropOldest hdrop).of_chans rfl
    · exact .refl s
  | retry => exact (chansMove_of_chanOp (.enqueue_getD _ _ _)).of_chans rfl
  | register =>
    -- a new channel at the end
    exact fun _ ch hi => ⟨ch, Tasks.append_of_some hi, Or.inl rfl⟩
  | consume htask hphase hdrop => exact chansMove_dropOldest hdrop

/-- **Every step of the hub** moves every channel as a step of the machine above would. -/
theorem chansMove_of_hubStep {a : Relay.Step} (h : s.step env a = some t) : ChansMove s t := by
  cases a with
  | agent a =>
    obtain ⟨u, hop, hsame⟩ := Relay.State.agentMove_of_agentStep h
    exact (chansMove_of_chanOp hop).of_chans hsame.chans
  | session a => exact chansMove_sessionStep h

end Hub

/-! ## Lifecycle messages -/

namespace State

/-- No call is under way. -/
def Quiescent (s : State) : Prop := ∀ call ∈ s.calls, call.phase = .returned

/-- A `relay_close` is in the channel, or the consumer has had one. -/
def HoldsClose (s : State) : Prop := ∃ q ∈ s.ch ++ s.received, q.msg.type = .relayClose

/-- The first `relay_open_ack` that was offered. -/
def firstAck (s : State) : Option Queued := s.offered.find? fun q => q.msg.type = .relayOpenAck

/-- **Lifecycle messages survive**: when no call is under way, there is a `relay_close` if one was
offered, and the first `relay_open_ack` is there. -/
def Survives (s : State) : Prop :=
  s.Quiescent →
    ((∃ q ∈ s.offered, q.msg.type = .relayClose) → s.HoldsClose) ∧
    ∀ q, s.firstAck = some q → q ∈ s.ch ++ s.received

/-- **The condition.** A delivery offers a `relay_close` or a `relay_open_ack` only when there is
room. A drop never meets a `relay_open_ack`, and a `relay_close` only for another one: there is one
behind it, or the drop is part of a preemption. A preemption that found the channel full finds
something to drop, and its room is not taken by another. -/
def Spares (capacity : Nat) (s : State) : Step → Prop
  | .enqueue k => ∀ call ∈ s.calls[k]?, s.registered = true → call.caller = .deliver →
      call.msg.type = .relayClose ∨ call.msg.type = .relayOpenAck → s.ch.length < capacity
  | .drop k => ∀ call ∈ s.calls[k]?, (call.caller = .preempt → s.ch ≠ []) ∧
      ∀ q ∈ s.ch.head?, q.msg.type ≠ .relayOpenAck ∧ (q.msg.type = .relayClose →
        call.caller = .preempt ∨ ∃ p ∈ s.ch.tail, p.msg.type = .relayClose)
  | .retry k => ∀ call ∈ s.calls[k]?, call.caller = .preempt → s.ch.length < capacity
  | _ => True

end State

instance (s : State) : Decidable s.Quiescent :=
  inferInstanceAs (Decidable (∀ call ∈ s.calls, call.phase = .returned))

instance (s : State) : Decidable s.HoldsClose :=
  inferInstanceAs (Decidable (∃ q ∈ s.ch ++ s.received, q.msg.type = .relayClose))

instance (capacity : Nat) (s : State) : ∀ a, Decidable (s.Spares capacity a)
  | .enqueue k | .drop k | .retry k => Option.decidableForallMem s.calls[k]?
  | .deliverRelay _ | .scan _ _ | .receive | .unregister => isTrue trivial

/-! ## What every step keeps -/

/-- A preemption on its way to the second `enqueue`: its `relay_close` is still to come. -/
def Call.closing (call : Call) : Bool :=
  call.caller == .preempt && (call.phase == .dropping || call.phase == .retrying)

namespace State

variable {s : State} {p q : Queued}

/-- Nothing gets lost when a message is placed in the channel. -/
theorem mem_place (hp : p ∈ s.ch ++ s.received) : p ∈ (s.ch ++ [q]) ++ s.received := by
  simp only [List.mem_append] at hp ⊢
  exact hp.imp_left Or.inl

theorem HoldsClose.place (q : Queued) (h : s.HoldsClose) :
    ∃ p ∈ (s.ch ++ [q]) ++ s.received, p.msg.type = .relayClose := by
  obtain ⟨p, hp, htype⟩ := h
  exact ⟨p, mem_place hp, htype⟩

/-- What has been offered was so before, or is offered now to a registered relay. -/
theorem mem_offered_offer (hp : p ∈ (s.offer q).offered) :
    p ∈ s.offered ∨ (s.registered = true ∧ p = q) := by
  simp only [offer] at hp
  split_ifs at hp with hreg
  · exact (List.mem_append.mp hp).imp_right fun hnew => ⟨hreg, List.mem_singleton.mp hnew⟩
  · exact Or.inl hp

theorem type_of_firstAck (hp : s.firstAck = some p) : p.msg.type = .relayOpenAck := by
  simpa using List.find?_some hp

/-- Another message does not become the first `relay_open_ack`. -/
theorem firstAck_offer (hq : s.registered = true → q.msg.type ≠ .relayOpenAck) :
    (s.offer q).firstAck = s.firstAck := by
  simp only [firstAck, offer]
  split_ifs with hreg
  · simp [List.find?_append, hq hreg]
  · rfl

/-- The first `relay_open_ack` stays the first. -/
theorem firstAck_offer_of_some (hp : s.firstAck = some p) : (s.offer q).firstAck = some p := by
  simp only [firstAck, offer] at hp ⊢
  split_ifs
  · rw [List.find?_append, hp]
    rfl
  · exact hp

end State

/-- **The invariant.** A `relay_close` that was offered is there, or a preemption is about to bring
one; the first `relay_open_ack` is there. -/
structure Kept (s : State) : Prop where
  close : (∃ q ∈ s.offered, q.msg.type = .relayClose) →
    s.HoldsClose ∨ ∃ call ∈ s.calls, call.closing = true
  ack : ∀ q, s.firstAck = some q → q ∈ s.ch ++ s.received
  /-- A preemption brings a `relay_close`. -/
  preempts : ∀ call ∈ s.calls, call.caller = .preempt → call.msg.type = .relayClose

namespace Kept

variable {s : State} {k capacity : Nat} {call : Call}

/-- When no call is under way, the lifecycle messages are there. -/
theorem survives (h : Kept s) : s.Survives := by
  refine fun hquiet => ⟨fun hoffered => ?_, h.ack⟩
  refine (h.close hoffered).resolve_right ?_
  rintro ⟨c, hc, hclosing⟩
  simp [Call.closing, hquiet c hc] at hclosing

/-- A call begins. -/
theorem addCall {caller : Caller} {msg : AgentControlMessage} (h : Kept s)
    (hmsg : caller = .preempt → msg.type = .relayClose) : Kept (s.addCall caller msg) where
  close hoffered := (h.close hoffered).imp_right fun ⟨c, hc, hclosing⟩ =>
    ⟨c, List.mem_append_left _ hc, hclosing⟩
  ack := h.ack
  preempts := Tasks.forall_mem_append h.preempts hmsg

/-- A call that is not a preemption on its way, or stays one, goes on. -/
theorem setPhase {phase : CallPhase} (h : Kept s) (hk : s.calls[k]? = some call)
    (hkeep : call.closing = true → Call.closing { call with phase := phase } = true) :
    Kept (s.setPhase k call phase) where
  close hoffered := (h.close hoffered).imp_right (Tasks.exists_mem_set hk hkeep)
  ack := h.ack
  preempts := Tasks.forall_mem_set k h.preempts (h.preempts call (List.mem_of_getElem? hk))

/-- Offering a message that is no `relay_close` and no `relay_open_ack` asks for nothing. -/
theorem offer {q : Queued} (h : Kept s)
    (hclose : s.registered = true → q.msg.type ≠ .relayClose)
    (hack : s.registered = true → q.msg.type ≠ .relayOpenAck) : Kept (s.offer q) := by
  refine ⟨?_, fun p hp => h.ack p (State.firstAck_offer hack ▸ hp), h.preempts⟩
  rintro ⟨p, hp, htype⟩
  rcases State.mem_offered_offer hp with hold | ⟨hreg, rfl⟩
  · exact h.close ⟨p, hold, htype⟩
  · exact absurd htype (hclose hreg)

/-- A message is placed in the channel as it is offered. -/
theorem place {q : Queued} (h : Kept s) : Kept { s.offer q with ch := s.ch ++ [q] } := by
  have hnew : q ∈ (s.ch ++ [q]) ++ s.received := by simp
  refine ⟨?_, fun p hp => ?_, h.preempts⟩
  · rintro ⟨p, hp, htype⟩
    rcases State.mem_offered_offer hp with hold | ⟨-, rfl⟩
    · exact (h.close ⟨p, hold, htype⟩).imp_left (State.HoldsClose.place q)
    · exact Or.inl ⟨p, hnew, htype⟩
  · -- the first `relay_open_ack` is the one there was, or else it is `q`
    cases hfirst : s.firstAck with
    | some first =>
      obtain rfl : first = p :=
        Option.some.inj ((State.firstAck_offer_of_some hfirst).symm.trans hp)
      exact State.mem_place (h.ack first hfirst)
    | none =>
      rcases State.mem_offered_offer (List.mem_of_find?_eq_some hp) with hold | ⟨-, rfl⟩
      · exact absurd (List.find?_some hp) (List.find?_eq_none.mp hfirst p hold)
      · exact hnew

/-- The first `enqueue` of a delivery. If there is no room, the message is neither a `relay_close`
nor a `relay_open_ack`. -/
theorem enqueueCall_deliver (h : Kept s) (hk : s.calls[k]? = some call)
    (hcaller : call.caller = .deliver)
    (hspares : s.registered = true →
      call.msg.type = .relayClose ∨ call.msg.type = .relayOpenAck → s.ch.length < capacity) :
    Kept (s.enqueueCall capacity k call) := by
  have hopen : call.closing = true → ∀ phase, Call.closing { call with phase := phase } = true := by
    simp [Call.closing, hcaller]
  unfold State.enqueueCall
  by_cases hroom : s.ch.length < capacity
  · rw [push_of_lt _ hroom]
    exact h.place.setPhase hk fun hclosing => hopen hclosing _
  · rw [push_of_not_lt _ hroom]
    have hoffer : Kept (s.offer ⟨k, call.msg⟩) :=
      h.offer (fun hreg htype => hroom (hspares hreg (Or.inl htype)))
        (fun hreg htype => hroom (hspares hreg (Or.inr htype)))
    exact hoffer.setPhase hk fun hclosing => hopen hclosing _

/-- The first `enqueue` of a preemption. If there is no room, the preemption is on its way. -/
theorem enqueueCall_preempt (h : Kept s) (hk : s.calls[k]? = some call)
    (hcaller : call.caller = .preempt) (hphase : call.phase = .offering) :
    Kept (s.enqueueCall capacity k call) := by
  have htype := h.preempts call (List.mem_of_getElem? hk) hcaller
  unfold State.enqueueCall
  by_cases hroom : s.ch.length < capacity
  · rw [push_of_lt _ hroom]
    refine h.place.setPhase hk fun hclosing => ?_
    simp [Call.closing, hphase] at hclosing
  · rw [push_of_not_lt _ hroom]
    simp only [hcaller, true_or, if_true]
    have hclosing : Call.closing { call with phase := .dropping } = true := by
      simp [Call.closing, hcaller]
    refine ⟨fun _ => Or.inr ⟨_, List.mem_of_getElem? (Tasks.set_self hk), hclosing⟩, fun q hq => ?_,
      Tasks.forall_mem_set k h.preempts fun _ => htype⟩
    have hack : s.registered = true → (Queued.mk k call.msg).msg.type ≠ .relayOpenAck := by
      simp [htype]
    exact h.ack q (State.firstAck_offer hack ▸ hq)

/-- A drop. -/
theorem dropCall (h : Kept s) (hk : s.calls[k]? = some call) (hphase : call.phase = .dropping)
    (hsome : call.caller = .preempt → s.ch ≠ [])
    (hspares : ∀ q ∈ s.ch.head?, q.msg.type ≠ .relayOpenAck ∧ (q.msg.type = .relayClose →
      call.caller = .preempt ∨ ∃ p ∈ s.ch.tail, p.msg.type = .relayClose)) :
    Kept (s.dropCall k call) := by
  have hretrying : call.closing = true → Call.closing { call with phase := .retrying } = true := by
    simp [Call.closing, hphase]
  unfold State.dropCall
  cases hch : s.ch with
  | nil =>
    rw [if_neg fun hcaller => hsome hcaller hch]
    exact h.setPhase hk hretrying
  | cons q ch =>
    rw [hch] at hspares
    obtain ⟨hack, hclose⟩ := hspares q rfl
    refine ⟨fun hoffered => ?_, fun p hp => ?_,
      Tasks.forall_mem_set k h.preempts (h.preempts call (List.mem_of_getElem? hk))⟩
    · rcases h.close hoffered with ⟨p, hp, htype⟩ | hclosing
      · rw [hch, List.cons_append] at hp
        rcases List.mem_cons.mp hp with rfl | hold
        · -- a `relay_close` is dropped
          rcases hclose htype with hcaller | ⟨p', hp', htype'⟩
          · refine Or.inr ⟨_, List.mem_of_getElem? (Tasks.set_self hk), ?_⟩
            simp [Call.closing, hcaller]
          · exact Or.inl ⟨p', List.mem_append_left _ hp', htype'⟩
        · exact Or.inl ⟨p, hold, htype⟩
      · exact Or.inr (Tasks.exists_mem_set hk hretrying hclosing)
    · have hmem := h.ack p hp
      rw [hch, List.cons_append] at hmem
      rcases List.mem_cons.mp hmem with rfl | hold
      · exact absurd (State.type_of_firstAck hp) hack
      · exact hold

/-- The second `enqueue` of a call. A preemption has room, so that its `relay_close` arrives. -/
theorem retryCall (h : Kept s) (hk : s.calls[k]? = some call)
    (hspares : call.caller = .preempt → s.ch.length < capacity) :
    Kept (s.retryCall capacity k call) := by
  have hpreempts := Tasks.forall_mem_set (a := { call with phase := .returned }) k h.preempts
    (h.preempts call (List.mem_of_getElem? hk))
  unfold State.retryCall
  by_cases hroom : s.ch.length < capacity
  · rw [push_of_lt _ hroom]
    refine ⟨fun hoffered => ?_, fun p hp => State.mem_place (h.ack p hp), hpreempts⟩
    cases hcaller : call.caller with
    | preempt =>
      have htype := h.preempts call (List.mem_of_getElem? hk) hcaller
      exact Or.inl ⟨⟨k, call.msg⟩, by simp [State.setPhase], htype⟩
    | deliver =>
      refine (h.close hoffered).imp (State.HoldsClose.place _) ?_
      exact Tasks.exists_mem_set hk (by simp [Call.closing, hcaller])
  · rw [push_of_not_lt _ hroom]
    have hcaller : call.caller ≠ .preempt := fun hcaller => hroom (hspares hcaller)
    exact h.setPhase hk (by simp [Call.closing, hcaller])

/-- The consumer takes a message. -/
theorem receive {q : Queued} {ch : List Queued} (h : Kept s) (hch : s.ch = q :: ch) :
    Kept { s with ch := ch, received := s.received ++ [q] } := by
  have hmem : ∀ p, p ∈ s.ch ++ s.received → p ∈ ch ++ (s.received ++ [q]) := by
    intro p hp
    rw [hch] at hp
    simp only [List.cons_append, List.mem_cons, List.mem_append] at hp ⊢
    tauto
  exact ⟨fun hoffered => (h.close hoffered).imp_left fun ⟨p, hp, htype⟩ => ⟨p, hmem p hp, htype⟩,
    fun p hp => hmem p (h.ack p hp), h.preempts⟩

/-- One step that meets the condition. -/
theorem step {a : Step} {t : State} (h : Kept s) (hspares : s.Spares capacity a)
    (hstep : s.step capacity a = some t) : Kept t := by
  cases a with
  | deliverRelay msg =>
    simp only [State.step] at hstep
    split_ifs at hstep
    cases hstep
    exact h.addCall fun hcaller => nomatch hcaller
  | scan task entry =>
    simp only [State.step] at hstep
    split_ifs at hstep
    cases hstep
    exact h.addCall fun _ => rfl
  | enqueue k =>
    obtain ⟨call, hk, hstep⟩ := Option.bind_eq_some_iff.mp hstep
    split_ifs at hstep with hphase
    cases hstep
    cases hcaller : call.caller with
    | deliver => exact h.enqueueCall_deliver hk hcaller fun hreg => hspares call hk hreg hcaller
    | preempt => exact h.enqueueCall_preempt hk hcaller hphase
  | drop k =>
    obtain ⟨call, hk, hstep⟩ := Option.bind_eq_some_iff.mp hstep
    split_ifs at hstep with hphase
    cases hstep
    exact h.dropCall hk hphase (hspares call hk).1 (hspares call hk).2
  | retry k =>
    obtain ⟨call, hk, hstep⟩ := Option.bind_eq_some_iff.mp hstep
    split_ifs at hstep
    cases hstep
    exact h.retryCall hk (hspares call hk)
  | receive =>
    simp only [State.step] at hstep
    split at hstep
    · rename_i q ch hch
      split_ifs at hstep
      cases hstep
      exact h.receive hch
    · cases hstep
  | unregister =>
    simp only [State.step] at hstep
    split_ifs at hstep
    cases hstep
    exact ⟨h.close, h.ack, h.preempts⟩

theorem init (capacity : Nat) : Kept (machine capacity).init :=
  ⟨fun ⟨_, hq, _⟩ => (nomatch hq), fun _ hq => (nomatch hq), fun _ hcall => (nomatch hcall)⟩

end Kept

/-! ## The result -/

/-- **Lifecycle messages survive in a sparing run**, whatever the capacity. -/
theorem survives_of_spares (capacity : Nat) (steps : List Step) (s : State)
    (hspares : (machine capacity).Along (State.Spares capacity) (machine capacity).init steps)
    (hrun : (machine capacity).run (machine capacity).init steps = some s) : s.Survives :=
  ((machine capacity).along_invariant (fun _ _ _ h hP hstep => Kept.step h hP hstep)
    (Kept.init capacity) hspares hrun).survives

/-- A message for the relay of the sample runs. -/
def sampleMessage (type : MessageType) : AgentControlMessage :=
  { type := type, relayID := "r".toList }

/-- A preemption of that relay. -/
def sampleScan : Step :=
  .scan ⟨false, robotA, [], "new".toList, .scanning⟩ ("r".toList, ⟨robotA, "old".toList, 0⟩)

/-- The robot acknowledges and sends until the channel is full; the consumer takes the
acknowledgement, and a preemption drops data for its `relay_close`. -/
def sparingSteps : List Step :=
  [.deliverRelay (sampleMessage .relayOpenAck), .enqueue 0,
    .deliverRelay (sampleMessage .relayData), .enqueue 1, .receive,
    .deliverRelay (sampleMessage .relayData), .enqueue 2, sampleScan, .enqueue 3, .drop 3, .retry 3]

theorem survives_sparingSteps :
    ∃ s, (machine 2).run (machine 2).init sparingSteps = some s ∧ s.Quiescent ∧ s.HoldsClose ∧
      s.Survives := by
  obtain ⟨s, hrun, hquiet, hclose⟩ := (machine 2).exists_run sparingSteps
    (fun s => s.Quiescent ∧ s.HoldsClose) (by decide)
  exact ⟨s, hrun, hquiet, hclose, survives_of_spares 2 sparingSteps s (by decide) hrun⟩

/-! ### Lost messages

A channel full of data is all it takes. -/

/-- `n` deliveries of `relay_data`, one after another. -/
def fillSteps (n : Nat) : List Step :=
  (List.range n).flatMap fun k => [.deliverRelay (sampleMessage .relayData), .enqueue k]

/-- What they leave behind. -/
def filled (n : Nat) : State :=
  let data := (List.range n).map fun k => ⟨k, sampleMessage .relayData⟩
  ⟨true, data, List.replicate n ⟨.deliver, sampleMessage .relayData, .returned⟩, data, []⟩

/-- As long as there is room, every delivery gets through. -/
theorem run_fillSteps {capacity n : Nat} (hn : n ≤ capacity) :
    (machine capacity).run (machine capacity).init (fillSteps n) = some (filled n) := by
  induction n with
  | zero => rfl
  | succ n ih =>
    have hsteps : fillSteps (n + 1) =
        fillSteps n ++ [Step.deliverRelay (sampleMessage .relayData), .enqueue n] := by
      simp [fillSteps, List.range_succ]
    rw [hsteps]
    refine (Machine.run_append _).mpr ⟨filled n, ih (by omega), ?_⟩
    simp [Machine.run, machine, State.step, filled, State.addCall, State.onCall,
      State.enqueueCall, push, State.offer, State.setPhase, List.range_succ,
      List.replicate_succ', show n < capacity by omega]

/-- The same, with a `relay_close` that finds no room. -/
def refused (n : Nat) : State :=
  { filled n with
    calls := (filled n).calls ++ [⟨.deliver, sampleMessage .relayClose, .returned⟩]
    offered := (filled n).offered ++ [⟨n, sampleMessage .relayClose⟩] }

theorem run_refused (capacity : Nat) :
    (machine capacity).run (machine capacity).init
      (fillSteps capacity ++ [Step.deliverRelay (sampleMessage .relayClose), .enqueue capacity])
      = some (refused capacity) := by
  refine (Machine.run_append _).mpr ⟨filled capacity, run_fillSteps (Nat.le_refl _), ?_⟩
  simp [Machine.run, machine, State.step, refused, filled, State.addCall, State.onCall,
    State.enqueueCall, push, State.offer, State.setPhase, sampleMessage]

/-- A `relay_close` is queued, and dropped for `relay_data`; and the same for the acknowledgement.
-/
def discardedSteps (type : MessageType) : List Step :=
  [.deliverRelay (sampleMessage type), .enqueue 0, .deliverRelay (sampleMessage .relayData),
    .enqueue 1, .deliverRelay (sampleMessage .relayData), .enqueue 2, .drop 2, .retry 2]

/-- A preemption finds the channel full, and empty when it comes to drop: it gives up. -/
def drainedSteps : List Step :=
  [.deliverRelay (sampleMessage .relayData), .enqueue 0, .deliverRelay (sampleMessage .relayData),
    .enqueue 1, sampleScan, .enqueue 2, .receive, .receive, .drop 2]

/-- **Lifecycle messages get lost.** Whatever the capacity, a `relay_close` that comes when the
channel is full of data is given up. Later losses, in a channel for two messages: a `relay_close` or
the `relay_open_ack` is dropped for data, and a preemption gives its `relay_close` up. -/
theorem lifecycle_lost :
    (∀ capacity ≥ 2, ∃ steps s, (machine capacity).run (machine capacity).init steps = some s ∧
      s.registered = true ∧ s.Quiescent ∧ (∃ q ∈ s.offered, q.msg.type = .relayClose) ∧
      ¬ s.HoldsClose ∧ ¬ s.Survives) ∧
    (∃ s, (machine 2).run (machine 2).init (discardedSteps .relayClose) = some s ∧
      s.Quiescent ∧ (∃ q ∈ s.offered, q.msg.type = .relayClose) ∧ ¬ s.HoldsClose) ∧
    (∃ s, (machine 2).run (machine 2).init (discardedSteps .relayOpenAck) = some s ∧
      s.Quiescent ∧ s.firstAck = some ⟨0, sampleMessage .relayOpenAck⟩ ∧
      ⟨0, sampleMessage .relayOpenAck⟩ ∉ s.ch ++ s.received) ∧
    (∃ s, (machine 2).run (machine 2).init drainedSteps = some s ∧
      s.Quiescent ∧ (∃ q ∈ s.offered, q.msg.type = .relayClose) ∧ ¬ s.HoldsClose) := by
  refine ⟨fun capacity _ => ⟨_, _, run_refused capacity, rfl, ?_⟩,
    (machine 2).exists_run _ _ (by decide), (machine 2).exists_run _ _ (by decide),
    (machine 2).exists_run _ _ (by decide)⟩
  have hquiet : (refused capacity).Quiescent :=
    Tasks.forall_mem_append (fun call hcall => by rw [List.eq_of_mem_replicate hcall]) rfl
  have hoffered : ∃ q ∈ (refused capacity).offered, q.msg.type = .relayClose :=
    ⟨⟨capacity, sampleMessage .relayClose⟩,
      List.mem_append_right _ (List.mem_singleton_self _), rfl⟩
  have hlost : ¬ (refused capacity).HoldsClose := by
    rintro ⟨q, hq, htype⟩
    obtain ⟨k, -, rfl⟩ : ∃ k, k < capacity ∧ ⟨k, sampleMessage .relayData⟩ = q := by
      simpa [refused, filled] using hq
    cases htype
  exact ⟨hquiet, hoffered, hlost, fun hsurvives => hlost ((hsurvives hquiet).1 hoffered)⟩

end Roboat.Relay.Queue
