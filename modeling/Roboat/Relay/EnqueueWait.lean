import Roboat.Relay.QueueStats

/-! # The waits of a relay queue

A relay keeps the times at which its messages were enqueued in a second channel, and
`consumeRelayEnqueueWait` takes one out for each message that was received, to record how long the
message has waited. The message and its time go in by two operations and come out by two, between
which other producers and the consumer take their turns: a message can come out before its time is
in, and then the time stays behind and is taken for the message that comes next.

The times belong to the messages as long as everybody keeps to the order of the messages on the
second channel as well (`State.InTurn`): then what is in it is what was taken out and not yet
asked for, and what is in the first channel, but for the times still to come (`InStep`).

The machine of the second part has the clock and what is recorded. It is the machine of the books,
with `consumeRelayEnqueueWait` in the place of the bare take (`move_of_step`). -/

namespace Roboat.Relay.QueueStats

open Queue (Queued)
open Connstate (Time)

/-! ## Turns -/

/-- The message that the consumer has received and not yet asked the time of. -/
def ConsumerPhase.held : ConsumerPhase → List Queued
  | receiving => []
  | popping q => [q]

namespace State

/-- The message of the call has entered the channel, and its time is still to come. -/
def isStamping (s : State) (k : Nat) : Bool :=
  s.calls[k]?.any fun call => call.phase == .stamping

/-- The messages whose times are still to come, in the order in which they have entered. -/
def owed (s : State) : List Queued := s.entered.filter fun q => s.isStamping q.call

/-- How many calls are in a phase. -/
def inPhase (s : State) (phase : CallPhase) : Nat :=
  s.calls.countP fun call => call.phase == phase

/-- How many messages have come out whose times were not yet taken. -/
def takers (s : State) : Nat := s.inPhase .unstamping + s.consumer.held.length

/-- These messages, when the times are taken in the order of the messages. -/
def pending (s : State) : List (Queued × Fate) := s.removed.drop (s.removed.length - s.takers)

/-- The first message whose time is to be taken has left the channel in this way, and its time is
in. -/
def nextTaken (s : State) (fate : Fate) : Bool :=
  s.pending.head?.any fun r => r.2 == fate && !s.isStamping r.1.call

/-- **The condition**: on the second channel, all keep to the order of the messages. A call puts its
time in when its message is the first whose time is still to come, and there is room; a time is
taken for the first message whose time is to be taken, and when it is in. -/
def InTurn (capacity : Nat) (s : State) : Step → Prop
  | .next k => ∀ call ∈ s.calls[k]?,
      (call.phase = .stamping → s.owed.head?.map Queued.call = some k ∧
        s.enqueuedAt.length < stampCapacity capacity) ∧
      (call.phase = .unstamping → s.nextTaken .dropped = true)
  | .pop => s.nextTaken .received = true
  | _ => True

/-- The time is the one that its call has taken. -/
def Stamped (s : State) (stamp : Stamp) : Prop :=
  ∃ call, s.calls[stamp.call]? = some call ∧ call.now = stamp.time

/-- No call is under way, and the consumer is waiting for a message. -/
def Quiet (s : State) : Prop := s.Quiescent ∧ s.consumer = .receiving

end State

/-- **The channels are in step.** The times in the second channel and those still to come are the
times of the messages that have come out without theirs, and of the messages in the channel. -/
structure InStep (s : State) : Prop where
  stamps : s.enqueuedAt.map Stamp.call ++ s.owed.map Queued.call
    = s.pending.map (fun r => r.1.call) ++ s.ch.map Queued.call
  times : ∀ stamp ∈ s.enqueuedAt, s.Stamped stamp
  received : (s.pending.filter fun r => r.2 == .received).map Prod.fst = s.consumer.held
  dropped : (s.pending.countP fun r => r.2 == .dropped) = s.inPhase .unstamping

section Turns

variable {capacity : Nat} {s t : State} {k : Nat} {call : Call} {phase : CallPhase}

/-! ### Readings -/

theorem isStamping_iff :
    s.isStamping k = true ↔ ∃ call, s.calls[k]? = some call ∧ call.phase = .stamping := by
  simp [State.isStamping, Option.any_eq_true]

theorem isStamping_of_some (hk : s.calls[k]? = some call) :
    s.isStamping k = (call.phase == .stamping) := by
  simp [State.isStamping, hk]

theorem isStamping_setPhase (hk : s.calls[k]? = some call) (phase : CallPhase) (j : Nat) :
    (s.setPhase k call phase).isStamping j
      = if j = k then phase == .stamping else s.isStamping j := by
  split_ifs with hj
  · subst hj
    have hself : (s.setPhase j call phase).calls[j]? = some { call with phase := phase } :=
      Tasks.set_self hk
    exact isStamping_of_some hself
  · simp only [State.isStamping, State.setPhase, List.getElem?_set_ne (Ne.symm hj)]

/-- A call goes on, and its time comes as before. -/
theorem owed_setPhase (hk : s.calls[k]? = some call)
    (hsame : phase = .stamping ↔ call.phase = .stamping) :
    (s.setPhase k call phase).owed = s.owed := by
  refine List.filter_congr fun q _ => ?_
  rw [isStamping_setPhase hk]
  split_ifs with hq
  · rw [hq, isStamping_of_some hk, Bool.beq_eq_decide_eq, Bool.beq_eq_decide_eq,
      decide_eq_decide]
    exact hsame
  · rfl

theorem owed_addCall (caller : Queue.Caller) (msg : AgentControlMessage) (now : Time) :
    (s.addCall caller msg now).owed = s.owed := by
  refine List.filter_congr fun q _ => ?_
  show (s.calls ++ [_])[q.call]?.any _ = s.calls[q.call]?.any _
  cases hq : s.calls[q.call]? with
  | some call => rw [Tasks.append_of_some hq]
  | none =>
    rw [List.getElem?_append_right (List.getElem?_eq_none_iff.mp hq), List.getElem?_singleton]
    split <;> rfl

/-- A message enters, and its time is the last that is still to come. -/
theorem owed_enter (hk : s.calls[k]? = some call) (hnew : ∀ q ∈ s.entered, q.call ≠ k) :
    ((s.enter ⟨k, call.msg⟩).setPhase k call .stamping).owed = s.owed ++ [⟨k, call.msg⟩] := by
  have hstamping := isStamping_setPhase (s := s.enter ⟨k, call.msg⟩) hk .stamping
  rw [State.owed]
  show (s.entered ++ [_]).filter _ = _
  rw [List.filter_append]
  congr 1
  · refine List.filter_congr fun q hq => ?_
    rw [hstamping, if_neg (hnew q hq)]
    rfl
  · rw [List.filter_singleton, hstamping, if_pos rfl]
    rfl

/-- The time of a message comes. -/
theorem owed_stamp (hk : s.calls[k]? = some call) {q : Queued} {rest : List Queued}
    (howed : s.owed = q :: rest) (hq : q.call = k) (hnodup : (s.entered.map Queued.call).Nodup)
    (hphase : phase ≠ .stamping) : (s.setPhase k call phase).owed = rest := by
  have hrest : ∀ r ∈ rest, r.call ≠ k := by
    have hsub : (s.owed.map Queued.call).Nodup := hnodup.sublist (List.filter_sublist.map _)
    rw [howed, List.map_cons, List.nodup_cons, hq] at hsub
    exact fun r hr heq => hsub.1 (List.mem_map.mpr ⟨r, hr, heq⟩)
  have hfilter : (s.setPhase k call phase).owed = s.owed.filter fun r => r.call != k := by
    rw [State.owed, State.owed, List.filter_filter]
    refine List.filter_congr fun r _ => ?_
    rw [isStamping_setPhase hk]
    by_cases hr : r.call = k
    · simp [hr, hphase]
    · simp [hr]
  rw [hfilter, howed, List.filter_cons_of_neg (by simp [hq]), List.filter_eq_self]
  exact fun r hr => bne_iff_ne.mpr (hrest r hr)

/-- How many calls are in a phase, after one has gone on. -/
theorem inPhase_setPhase (hk : s.calls[k]? = some call) (new ph : CallPhase) :
    (s.setPhase k call new).inPhase ph + (if call.phase = ph then 1 else 0)
      = s.inPhase ph + if new = ph then 1 else 0 := by
  have hcount := Tasks.countP_set (b := { call with phase := new })
    (fun call => call.phase == ph) hk
  simp only [beq_iff_eq] at hcount
  exact hcount

theorem inPhase_setPhase_of_iff {ph : CallPhase} (hk : s.calls[k]? = some call)
    (hsame : phase = ph ↔ call.phase = ph) :
    (s.setPhase k call phase).inPhase ph = s.inPhase ph := by
  have hcount := inPhase_setPhase hk phase ph
  simp only [hsame] at hcount
  exact Nat.add_right_cancel hcount

theorem one_le_inPhase (hk : s.calls[k]? = some call) : 1 ≤ s.inPhase call.phase :=
  List.countP_pos_iff.mpr ⟨call, List.mem_of_getElem? hk, beq_self_eq_true _⟩

theorem isStamping_of_inPhase (h : s.inPhase .stamping = 0) (j : Nat) : s.isStamping j = false := by
  refine Bool.eq_false_iff.mpr fun hstamping => ?_
  obtain ⟨call, hj, hphase⟩ := isStamping_iff.mp hstamping
  have hone := one_le_inPhase hj
  rw [hphase, h] at hone
  exact Nat.not_succ_le_zero 0 hone

/-- A call keeps its time. -/
theorem State.Stamped.setPhase {stamp : Stamp} (h : s.Stamped stamp) (hk : s.calls[k]? = some call)
    (phase : CallPhase) : (s.setPhase k call phase).Stamped stamp :=
  Tasks.exists_set hk (fun _ hnow => hnow) h

theorem State.Stamped.addCall {stamp : Stamp} (h : s.Stamped stamp) (caller : Queue.Caller)
    (msg : AgentControlMessage) (now : Time) : (s.addCall caller msg now).Stamped stamp := by
  obtain ⟨call, hcall, hnow⟩ := h
  exact ⟨call, Tasks.append_of_some hcall, hnow⟩

/-- At rest no call is on its way. -/
theorem State.Quiet.inPhase (h : s.Quiet) (hphase : phase.isReturned = false) :
    s.inPhase phase = 0 := by
  refine List.countP_eq_zero.mpr fun call hcall heq => ?_
  have hreturned := h.1 call hcall
  rw [beq_iff_eq.mp heq, hphase] at hreturned
  cases hreturned

/-- At rest no time is to be taken. -/
theorem State.Quiet.takers (h : s.Quiet) : s.takers = 0 := by
  rw [State.takers, h.2, h.inPhase rfl]
  rfl

/-! ### Steps -/

namespace InStep

theorem init : InStep (machine capacity).init where
  stamps := rfl
  times := nofun
  received := rfl
  dropped := rfl

/-- All that have come out without their times are counted. -/
theorem length_pending (h : InStep s) : s.pending.length = s.takers := by
  have hfate : (fun r : Queued × Fate => decide ¬ (r.2 == .received) = true)
      = fun r => r.2 == .dropped := by
    funext r
    obtain ⟨q, fate⟩ := r
    cases fate <;> rfl
  have hreceived := congrArg List.length h.received
  rw [List.length_map, ← List.countP_eq_length_filter] at hreceived
  rw [List.length_eq_countP_add_countP (p := fun r : Queued × Fate => r.2 == .received), hfate,
    hreceived, h.dropped, Nat.add_comm]
  rfl

/-- Times are to be taken only for messages that came out. -/
theorem takers_le (h : InStep s) : s.takers ≤ s.removed.length := by
  have hlen := h.length_pending
  rw [State.pending, List.length_drop] at hlen
  omega

/-- A step that neither takes a message out nor a time. -/
theorem of_count (h : InStep s) (hremoved : t.removed = s.removed)
    (hconsumer : t.consumer = s.consumer)
    (hcount : t.inPhase .unstamping = s.inPhase .unstamping)
    (hstamps : t.enqueuedAt.map Stamp.call ++ t.owed.map Queued.call
      = s.pending.map (fun r => r.1.call) ++ t.ch.map Queued.call)
    (htimes : ∀ stamp ∈ t.enqueuedAt, t.Stamped stamp) : InStep t := by
  have hpending : t.pending = s.pending := by
    rw [State.pending, State.pending, State.takers, State.takers, hremoved, hconsumer, hcount]
  refine ⟨?_, htimes, ?_, ?_⟩
  · rw [hpending]
    exact hstamps
  · rw [hpending, hconsumer]
    exact h.received
  · rw [hpending, hcount]
    exact h.dropped

/-- A call goes on elsewhere. -/
theorem setPhase (h : InStep s) (hk : s.calls[k]? = some call)
    (hstamping : phase = .stamping ↔ call.phase = .stamping)
    (hunstamping : phase = .unstamping ↔ call.phase = .unstamping) :
    InStep (s.setPhase k call phase) := by
  refine h.of_count rfl rfl (inPhase_setPhase_of_iff hk hunstamping) ?_
    fun stamp hstamp => (h.times stamp hstamp).setPhase hk phase
  rw [owed_setPhase hk hstamping]
  exact h.stamps

theorem addCall (h : InStep s) (caller : Queue.Caller) (msg : AgentControlMessage) (now : Time) :
    InStep (s.addCall caller msg now) := by
  refine h.of_count rfl rfl (by simp [State.inPhase, State.addCall]) ?_
    fun stamp hstamp => (h.times stamp hstamp).addCall caller msg now
  rw [owed_addCall]
  exact h.stamps

/-- A message enters the channel. -/
theorem enter (h : InStep s) (hk : s.calls[k]? = some call) (hnew : ∀ q ∈ s.entered, q.call ≠ k)
    (hunstamping : call.phase ≠ .unstamping) :
    InStep ((s.enter ⟨k, call.msg⟩).setPhase k call .stamping) := by
  refine h.of_count rfl rfl (inPhase_setPhase_of_iff hk (iff_of_false (by decide) hunstamping)) ?_
    fun stamp hstamp => (h.times stamp hstamp).setPhase hk .stamping
  rw [owed_enter hk hnew]
  show s.enqueuedAt.map _ ++ (s.owed ++ [_]).map _ = s.pending.map _ ++ (s.ch ++ [_]).map _
  rw [List.map_append, List.map_append, ← List.append_assoc, h.stamps, List.append_assoc]

/-- The time of a message comes in its turn. -/
theorem stamp (h : InStep s) (hbooks : Books s) (hk : s.calls[k]? = some call)
    (hphase : call.phase = .stamping) (hturn : s.owed.head?.map Queued.call = some k)
    (hroom : s.enqueuedAt.length < stampCapacity capacity) :
    InStep ((s.pushStamp capacity ⟨k, call.now⟩).setPhase k call .counting) := by
  obtain ⟨q, hhead, hq⟩ := Option.map_eq_some_iff.mp hturn
  obtain ⟨rest, howed⟩ := List.head?_eq_some_iff.mp hhead
  have hpush : (s.pushStamp capacity ⟨k, call.now⟩).enqueuedAt
      = s.enqueuedAt ++ [⟨k, call.now⟩] := by
    simp only [State.pushStamp, Queue.push_of_lt _ hroom, Option.getD_some]
  refine h.of_count rfl rfl (inPhase_setPhase_of_iff hk (by rw [hphase]; decide)) ?_
    fun stamp hstamp => ?_
  · -- the first of the times still to come becomes the last of those that are in
    rw [owed_stamp (s := s.pushStamp capacity ⟨k, call.now⟩) hk howed hq hbooks.nodup_entered
      (by decide)]
    show (s.pushStamp capacity _).enqueuedAt.map _ ++ _ = s.pending.map _ ++ s.ch.map _
    rw [hpush, ← h.stamps, howed]
    simp [hq]
  · have hmem : stamp ∈ s.enqueuedAt ++ [⟨k, call.now⟩] := hpush ▸ hstamp
    rcases List.mem_append.mp hmem with hold | hnew
    · exact (h.times stamp hold).setPhase hk .counting
    · rw [List.mem_singleton.mp hnew]
      exact ⟨_, Tasks.set_self hk, rfl⟩

/-- Another message has come out without its time. -/
theorem pending_concat {q : Queued} {fate : Fate} (hremoved : t.removed = s.removed ++ [(q, fate)])
    (htakers : t.takers = s.takers + 1) : t.pending = s.pending ++ [(q, fate)] := by
  -- the part that is kept begins where it began before
  rw [State.pending, State.pending, hremoved, htakers, List.length_append, List.length_singleton,
    Nat.add_sub_add_right, List.drop_append_of_le_length (Nat.sub_le _ _)]

/-- A time was taken. -/
theorem pending_tail (h : InStep s) {r : Queued × Fate} {rest : List (Queued × Fate)}
    (hpending : s.pending = r :: rest) (hremoved : t.removed = s.removed)
    (htakers : t.takers + 1 = s.takers) : t.pending = rest := by
  have hle := h.takers_le
  have htail : t.pending = s.pending.tail := by
    rw [State.pending, State.pending, hremoved, List.tail_drop]
    congr 1
    omega
  rw [htail, hpending, List.tail_cons]

/-- The oldest message is dropped. -/
theorem drop {q : Queued} {ch : List Queued} (h : InStep s) (hk : s.calls[k]? = some call)
    (hphase : call.phase = .dropping) (hch : s.ch = q :: ch) :
    InStep ((s.remove q ch .dropped).setPhase k call .unstamping) := by
  have hcount : ((s.remove q ch .dropped).setPhase k call .unstamping).inPhase .unstamping
      = s.inPhase .unstamping + 1 := by
    have hphases := inPhase_setPhase (s := s.remove q ch .dropped) hk .unstamping .unstamping
    rw [hphase, if_neg (by decide), if_pos rfl] at hphases
    exact hphases
  have hpending : ((s.remove q ch .dropped).setPhase k call .unstamping).pending
      = s.pending ++ [(q, Fate.dropped)] := by
    refine pending_concat rfl ?_
    rw [State.takers, hcount, Nat.add_right_comm]
    rfl
  refine ⟨?_, fun stamp hstamp => (h.times stamp hstamp).setPhase hk .unstamping, ?_, ?_⟩
  · rw [owed_setPhase (s := s.remove q ch .dropped) hk (by rw [hphase]; decide), hpending]
    show s.enqueuedAt.map _ ++ s.owed.map _ = (s.pending ++ [_]).map _ ++ ch.map _
    rw [h.stamps, hch]
    simp
  · rw [hpending, List.filter_append, List.map_append, h.received]
    exact List.append_nil _
  · rw [hpending, hcount, List.countP_append, h.dropped]
    rfl

/-- The consumer receives a message. -/
theorem receive {q : Queued} {ch : List Queued} (h : InStep s)
    (hconsumer : s.consumer = .receiving) (hch : s.ch = q :: ch) :
    InStep { s.remove q ch .received with consumer := .popping q } := by
  have hpending : State.pending { s.remove q ch .received with consumer := .popping q }
      = s.pending ++ [(q, Fate.received)] := by
    refine pending_concat rfl ?_
    rw [State.takers, State.takers, hconsumer]
    rfl
  refine ⟨?_, h.times, ?_, ?_⟩
  · rw [hpending]
    show s.enqueuedAt.map _ ++ s.owed.map _ = (s.pending ++ [_]).map _ ++ ch.map _
    rw [h.stamps, hch]
    simp
  · rw [hpending, List.filter_append, List.map_append, h.received, hconsumer]
    rfl
  · rw [hpending, List.countP_append, h.dropped]
    rfl

/-- **The next time is that of the next message.** -/
theorem next_stamp (h : InStep s) {fate : Fate} (hturn : s.nextTaken fate = true) :
    ∃ q rest stamp stamps, s.pending = (q, fate) :: rest ∧ s.enqueuedAt = stamp :: stamps ∧
      stamp.call = q.call ∧ stamps.map Stamp.call ++ s.owed.map Queued.call
        = rest.map (fun r => r.1.call) ++ s.ch.map Queued.call := by
  cases hpending : s.pending with
  | nil => simp [State.nextTaken, hpending] at hturn
  | cons r rest =>
    obtain ⟨q, fate'⟩ := r
    have hstamps := h.stamps
    rw [hpending] at hstamps
    obtain ⟨rfl, hin⟩ : fate' = fate ∧ s.isStamping q.call = false := by
      simpa [State.nextTaken, hpending] using hturn
    cases henqueued : s.enqueuedAt with
    | nil =>
      -- the time would be one of those still to come
      rw [henqueued, List.map_nil, List.nil_append] at hstamps
      obtain ⟨o, howed, ho⟩ : ∃ o ∈ s.owed, o.call = q.call :=
        List.mem_map.mp (hstamps ▸ List.mem_cons_self)
      have hstamping : s.isStamping o.call = true := (List.mem_filter.mp howed).2
      rw [ho, hin] at hstamping
      cases hstamping
    | cons stamp stamps =>
      rw [henqueued] at hstamps
      obtain ⟨hcall, hrest⟩ := List.cons.inj hstamps
      exact ⟨q, rest, stamp, stamps, rfl, rfl, hcall, hrest⟩

/-- The time of a dropped message is taken in its turn. -/
theorem unstamp (h : InStep s) (hk : s.calls[k]? = some call) (hphase : call.phase = .unstamping)
    (hturn : s.nextTaken .dropped = true) :
    InStep ({ s with enqueuedAt := s.enqueuedAt.tail }.setPhase k call .countingDrop) := by
  obtain ⟨q, rest, stamp, stamps, hpending, henqueued, -, hrest⟩ := h.next_stamp hturn
  have hcount : State.inPhase
      ({ s with enqueuedAt := s.enqueuedAt.tail }.setPhase k call .countingDrop) .unstamping + 1
        = s.inPhase .unstamping := by
    have hphases := inPhase_setPhase (s := { s with enqueuedAt := s.enqueuedAt.tail }) hk
      .countingDrop .unstamping
    rw [hphase, if_pos rfl, if_neg (by decide)] at hphases
    exact hphases
  have htail : State.pending
      ({ s with enqueuedAt := s.enqueuedAt.tail }.setPhase k call .countingDrop) = rest := by
    refine h.pending_tail hpending rfl ?_
    rw [State.takers, Nat.add_right_comm, hcount]
    rfl
  have hdropped := h.dropped
  have hreceived := h.received
  rw [hpending] at hdropped hreceived
  refine ⟨?_, fun stamp' hstamp => ?_, ?_, ?_⟩
  · rw [owed_setPhase (s := { s with enqueuedAt := s.enqueuedAt.tail }) hk (by rw [hphase]; decide),
      htail]
    show s.enqueuedAt.tail.map _ ++ s.owed.map _ = rest.map _ ++ s.ch.map _
    rw [henqueued]
    exact hrest
  · exact (h.times stamp' (List.mem_of_mem_tail hstamp)).setPhase hk .countingDrop
  · rw [htail]
    exact hreceived
  · rw [htail]
    refine Nat.add_right_cancel (m := 1) ?_
    rw [hcount, ← hdropped, List.countP_cons]
    rfl

/-- The consumer takes the time of its message in its turn, which is the time of this message. -/
theorem pop {q : Queued} (h : InStep s) (hconsumer : s.consumer = .popping q)
    (hturn : s.nextTaken .received = true) :
    InStep { s with
      enqueuedAt := s.enqueuedAt.tail
      waits := s.waits ++ s.enqueuedAt.head?.toList.map fun stamp => (q, stamp)
      consumer := .receiving } ∧
      ∀ stamp ∈ s.enqueuedAt.head?, stamp.call = q.call := by
  obtain ⟨q', rest, stamp, stamps, hpending, henqueued, hcall, hrest⟩ := h.next_stamp hturn
  have hdropped := h.dropped
  have hreceived := h.received
  rw [hpending, hconsumer] at hreceived
  obtain ⟨rfl, hnone⟩ := List.cons.inj hreceived
  rw [hpending] at hdropped
  have htail : State.pending { s with
      enqueuedAt := s.enqueuedAt.tail
      waits := s.waits ++ s.enqueuedAt.head?.toList.map fun stamp => (q', stamp)
      consumer := .receiving } = rest := by
    refine h.pending_tail hpending rfl ?_
    rw [State.takers, State.takers, hconsumer]
    rfl
  refine ⟨⟨?_, fun stamp' hstamp => h.times stamp' (List.mem_of_mem_tail hstamp), ?_, ?_⟩, ?_⟩
  · rw [htail]
    show s.enqueuedAt.tail.map _ ++ s.owed.map _ = rest.map _ ++ s.ch.map _
    rw [henqueued]
    exact hrest
  · rw [htail]
    exact hnone
  · rw [htail]
    exact hdropped
  · intro stamp' hstamp
    rw [henqueued] at hstamp
    cases hstamp
    exact hcall

/-- **A step in turn keeps the channels in step.** -/
theorem step {a : Step} (h : InStep s) (hbooks : Books s) (hturn : s.InTurn capacity a)
    (hstep : s.step capacity a = some t) : InStep t := by
  cases move_of_step hstep with
  | deliverRelay msg now => exact h.addCall .deliver msg now
  | scan task entry now => exact h.addCall .preempt _ now
  | @place k call u hk hphase =>
    -- a call that is still to enter has not entered before
    have hnew : ∀ q ∈ s.entered, q.call ≠ k := by
      have hown := hbooks.entries.own k call hk
      have hnone : Call.entry k call = [] := by
        rcases hphase with ⟨hphase, -⟩ | ⟨hphase, -⟩ <;>
          simp [Call.entry, hphase, CallPhase.account]
      rw [hnone, List.filter_eq_nil_iff] at hown
      exact fun q hq heq => hown q hq (beq_iff_eq.mpr heq)
    rcases hphase with ⟨hphase, rfl⟩ | ⟨hphase, rfl⟩
    · have hoffer : InStep (s.offer ⟨k, call.msg⟩) := ⟨h.stamps, h.times, h.received, h.dropped⟩
      exact hoffer.enter hk hnew (by rw [hphase]; decide)
    · exact h.enter hk hnew (by rw [hphase]; decide)
  | @full k call hk hphase =>
    have hoffer : InStep (s.offer ⟨k, call.msg⟩) := ⟨h.stamps, h.times, h.received, h.dropped⟩
    refine hoffer.setPhase hk ?_ ?_ <;> rw [hphase] <;> split <;> decide
  | stamp hk hphase =>
    -- the condition is used here, and where a time is taken
    obtain ⟨hhead, hroom⟩ := (hturn _ hk).1 hphase
    exact h.stamp hbooks hk hphase hhead hroom
  | count hk hphase =>
    have hcount : InStep { s with enqueued := s.enqueued + 1 } :=
      ⟨h.stamps, h.times, h.received, h.dropped⟩
    exact hcount.setPhase hk (by rw [hphase]; decide) (by rw [hphase]; decide)
  | drop hk hphase hch => exact h.drop hk hphase hch
  | dropNone hk hphase =>
    refine h.setPhase hk ?_ ?_ <;> rw [hphase] <;> split <;> decide
  | unstamp hk hphase => exact h.unstamp hk hphase ((hturn _ hk).2 hphase)
  | countDrop hk hphase =>
    have hcount : InStep { s with droppedOldest := s.droppedOldest + 1 } :=
      ⟨h.stamps, h.times, h.received, h.dropped⟩
    exact hcount.setPhase hk (by rw [hphase]; decide) (by rw [hphase]; decide)
  | fullAgain hk hphase =>
    exact h.setPhase hk (by rw [hphase]; decide) (by rw [hphase]; decide)
  | @noSlot k call hk hphase =>
    have hcount : InStep { s with
        droppedNoSlot := s.droppedNoSlot + 1, noSlots := s.noSlots ++ [k] } :=
      ⟨h.stamps, h.times, h.received, h.dropped⟩
    exact hcount.setPhase hk (by rw [hphase]; decide) (by rw [hphase]; decide)
  | receive hregistered hconsumer hch => exact h.receive hconsumer hch
  | pop hconsumer => exact (h.pop hconsumer hturn).1
  | unregister => exact ⟨h.stamps, h.times, h.received, h.dropped⟩

/-- **At rest the two channels have the same length.** -/
theorem length_eq (h : InStep s) (hquiet : s.Quiet) : s.enqueuedAt.length = s.ch.length := by
  have howed : s.owed = [] :=
    List.filter_eq_nil_iff.mpr fun q _ => by
      rw [isStamping_of_inPhase (hquiet.inPhase rfl)]
      exact Bool.false_ne_true
  have hpending : s.pending = [] := by
    rw [← List.length_eq_zero_iff, h.length_pending]
    exact hquiet.takers
  have hstamps := congrArg List.length h.stamps
  rw [howed, hpending] at hstamps
  simpa using hstamps

end InStep

/-- A time stays the one that its call has taken. -/
theorem State.Stamped.step {stamp : Stamp} {a : Step} (h : s.Stamped stamp)
    (hstep : s.step capacity a = some t) : t.Stamped stamp := by
  have hmove := move_of_step hstep
  cases a with
  | deliverRelay msg now =>
    cases hmove
    exact h.addCall .deliver msg now
  | scan task entry now =>
    cases hmove
    exact h.addCall .preempt _ now
  | next j =>
    obtain ⟨call, phase, hj, hcalls, -⟩ := next_of_move hmove
    rw [State.Stamped, hcalls]
    exact Tasks.exists_set hj (fun _ hnow => hnow) h
  | receive | pop | unregister =>
    cases hmove
    exact h

end Turns

instance (capacity : Nat) (s : State) : ∀ a, Decidable (s.InTurn capacity a)
  | .next k => Option.decidableForallMem s.calls[k]?
  | .pop => instDecidableEqBool (s.nextTaken .received) true
  | .deliverRelay .. | .scan .. | .receive | .unregister => isTrue trivial

instance (s : State) : Decidable s.Quiet :=
  inferInstanceAs (Decidable (s.Quiescent ∧ s.consumer = .receiving))

end Roboat.Relay.QueueStats

namespace Roboat.Relay.EnqueueWait

open Queue (Queued)
open QueueStats (Stamp Books InStep)
open Connstate (Time Duration)

/-! ## The consumer and its clock -/

/-- The part of `relayQueueStats` that is about waits. -/
structure WaitStats where
  enqueueWaitSamples : UInt64 := 0
  enqueueWaitTotalNs : UInt64 := 0
  enqueueWaitMaxNs : UInt64 := 0
  deriving DecidableEq, Repr

/-- `recordEnqueueWait`. -/
def WaitStats.recordEnqueueWait (stats : WaitStats) (wait : Duration) : WaitStats :=
  if wait ≤ 0 then stats
  else
    let waitNs := UInt64.ofNat wait.toNat
    { enqueueWaitSamples := stats.enqueueWaitSamples + 1
      enqueueWaitTotalNs := stats.enqueueWaitTotalNs + waitNs
      enqueueWaitMaxNs :=
        if waitNs ≤ stats.enqueueWaitMaxNs then stats.enqueueWaitMaxNs else waitNs }

/-- `time.Since`, and at least zero. -/
def waitSince (clock ts : Time) : Duration :=
  let wait := Connstate.Time.sub clock ts
  if wait < 0 then 0 else wait

/-- A wait that was recorded: the message that was received, the time that was taken for it, and
the time of the clock. -/
structure Sample where
  msg : Queued
  stamp : Stamp
  clock : Time
  deriving DecidableEq, Repr

/-- The wait itself. -/
def Sample.wait (w : Sample) : Duration := waitSince w.clock w.stamp.time

/-- A relay with its books and its waits. `samples` is history. -/
structure State where
  books : QueueStats.State
  stats : WaitStats
  samples : List Sample
  deriving DecidableEq, Repr

/-- The atomic steps. -/
inductive Step where
  /-- A step that has nothing to do with waits. -/
  | books (a : QueueStats.Step)
  /-- `consumeRelayEnqueueWait`, at a time of the clock. -/
  | consumeRelayEnqueueWait (clock : Time)

/-- What a step is without the waits. -/
def Step.toBooks : Step → QueueStats.Step
  | books a => a
  | consumeRelayEnqueueWait _ => .pop

namespace State

/-- A wait is recorded, unless it is zero. -/
def record (s : State) (w : Sample) : State :=
  { s with
    stats := s.stats.recordEnqueueWait w.wait
    samples := if w.wait ≤ 0 then s.samples else s.samples ++ [w] }

/-- `consumeRelayEnqueueWait`. Nothing is recorded when there is no time, or the zero time. -/
def consumeRelayEnqueueWait (s : State) (clock : Time) : Option State :=
  match s.books.consumer with
  | .popping q =>
    s.books.pop.map fun books =>
      match s.books.enqueuedAt.head? with
      | some stamp =>
        -- `IsZero`
        if stamp.time = 0 then { s with books := books }
        else { s with books := books }.record ⟨q, stamp, clock⟩
      | none => { s with books := books }
  | .receiving => none

/-- The step function. -/
def step (capacity : Nat) (s : State) : Step → Option State
  | .books .pop => none
  | .books a => (s.books.step capacity a).map fun books => { s with books := books }
  | .consumeRelayEnqueueWait clock => s.consumeRelayEnqueueWait clock

/-- Every recorded wait is computed from the time with which the message was enqueued. -/
def Aligned (s : State) : Prop :=
  ∀ w ∈ s.samples, w.stamp.call = w.msg.call ∧ s.books.Stamped w.stamp

/-- The condition, on the step of the books. -/
def InTurn (capacity : Nat) (s : State) (a : Step) : Prop := s.books.InTurn capacity a.toBooks

end State

instance (capacity : Nat) (s : State) (a : Step) : Decidable (s.InTurn capacity a) :=
  inferInstanceAs (Decidable (s.books.InTurn capacity a.toBooks))

/-- **The machine of one relay with its books and its waits**, from `RegisterRelay`. -/
def machine (capacity : Nat) : Machine State Step where
  init := ⟨(QueueStats.machine capacity).init, {}, []⟩
  step := State.step capacity

section Waits

variable {capacity : Nat} {s t : State} {a : Step}

/-- **What a step does**: a step of the books, and at most one wait, of the message that the
consumer holds, from the first time there is. -/
theorem move_of_step (h : s.step capacity a = some t) :
    s.books.step capacity a.toBooks = some t.books ∧
      ((t.stats = s.stats ∧ t.samples = s.samples) ∨
        ∃ q stamp clock, a = .consumeRelayEnqueueWait clock ∧ s.books.consumer = .popping q ∧
          s.books.enqueuedAt.head? = some stamp ∧
          t = { s with books := t.books }.record ⟨q, stamp, clock⟩) := by
  cases a with
  | books b =>
    have hmap : (s.books.step capacity b).map (fun books => { s with books := books })
        = some t := by
      cases b with
      | pop => cases h
      | _ => exact h
    obtain ⟨books, hbooks, rfl⟩ := Option.map_eq_some_iff.mp hmap
    exact ⟨hbooks, Or.inl ⟨rfl, rfl⟩⟩
  | consumeRelayEnqueueWait clock =>
    simp only [State.step, State.consumeRelayEnqueueWait] at h
    split at h
    · rename_i q hconsumer
      obtain ⟨books, hbooks, hrecord⟩ := Option.map_eq_some_iff.mp h
      split at hrecord
      · rename_i stamp hhead
        split_ifs at hrecord
        · subst hrecord
          exact ⟨hbooks, Or.inl ⟨rfl, rfl⟩⟩
        · subst hrecord
          exact ⟨hbooks, Or.inr ⟨q, stamp, clock, rfl, hconsumer, hhead, rfl⟩⟩
      · subst hrecord
        exact ⟨hbooks, Or.inl ⟨rfl, rfl⟩⟩
    · cases h

/-- What the relay says about waits is what was recorded. -/
def State.Tallied (s : State) : Prop :=
  s.stats = s.samples.foldl (fun stats w => stats.recordEnqueueWait w.wait) {}

/-- A step keeps the waits tallied. -/
theorem State.Tallied.step (h : s.Tallied) (hstep : s.step capacity a = some t) : t.Tallied := by
  obtain ⟨-, ⟨hstats, hsamples⟩ | ⟨q, stamp, clock, -, -, -, ht⟩⟩ := move_of_step hstep
  · rw [State.Tallied, hstats, hsamples]
    exact h
  · rw [ht, State.Tallied]
    show s.stats.recordEnqueueWait _ = (if _ then s.samples else s.samples ++ [_]).foldl _ _
    split_ifs with hwait
    · -- a wait of zero leaves no trace in either
      rw [WaitStats.recordEnqueueWait, if_pos hwait]
      exact h
    · rw [List.foldl_append, ← h]
      rfl

/-- **In turn, every wait is from the time of its message.** -/
theorem State.Aligned.step (h : s.Aligned) (hinStep : InStep s.books)
    (hturn : s.InTurn capacity a) (hstep : s.step capacity a = some t) : t.Aligned := by
  obtain ⟨hbooks, hsame | ⟨q, stamp, clock, rfl, hconsumer, hhead, ht⟩⟩ := move_of_step hstep
  · intro w hw
    rw [hsame.2] at hw
    exact ⟨(h w hw).1, (h w hw).2.step hbooks⟩
  · intro w hw
    rw [ht] at hw
    have hcases : w ∈ s.samples ∨ w = ⟨q, stamp, clock⟩ := by
      simp only [State.record] at hw
      split_ifs at hw
      · exact Or.inl hw
      · simpa using hw
    rcases hcases with hold | rfl
    · exact ⟨(h w hold).1, (h w hold).2.step hbooks⟩
    · exact ⟨(hinStep.pop hconsumer hturn).2 stamp hhead,
        (hinStep.times stamp (List.mem_of_head? hhead)).step hbooks⟩

end Waits

/-- What holds along the runs that meet the condition. -/
structure InOrder (s : State) : Prop where
  books : Books s.books
  inStep : InStep s.books
  aligned : s.Aligned

theorem InOrder.init {capacity : Nat} : InOrder (machine capacity).init where
  books := @Books.init capacity
  inStep := @InStep.init capacity
  aligned := nofun

/-- A step in turn keeps the invariant. -/
theorem InOrder.step {capacity : Nat} {s t : State} {a : Step} (h : InOrder s)
    (hturn : s.InTurn capacity a) (hstep : s.step capacity a = some t) : InOrder t := by
  have hbooks := (move_of_step hstep).1
  exact ⟨h.books.step hbooks, h.inStep.step h.books hturn hbooks,
    h.aligned.step h.inStep hturn hstep⟩

/-- **The times stay with their messages when all keep to the order of the messages.** In every run
of producers and consumer that meets the condition, what the relay says about waits comes from
waits that were each computed from the time with which the received message was enqueued; and
whenever the relay is at rest, there are as many times as messages. -/
theorem enqueueWaits_aligned {capacity : Nat} {steps : List Step} {s : State}
    (hrun : (machine capacity).run (machine capacity).init steps = some s)
    (hturn : (machine capacity).Along (State.InTurn capacity) (machine capacity).init steps) :
    s.Tallied ∧ s.Aligned ∧
      (s.books.Quiet → s.books.enqueuedAt.length = s.books.ch.length) := by
  have hinit : (machine capacity).init.Tallied := rfl
  have htallied : s.Tallied :=
    (machine capacity).run_invariant (fun _ _ _ h => h.step) hinit hrun
  have horder : InOrder s :=
    (machine capacity).along_invariant (fun _ _ _ h => h.step) InOrder.init hturn hrun
  exact ⟨htallied, horder.aligned, horder.inStep.length_eq⟩

/-- Two producers that overlap, the first message received with the second still in the channel. -/
def overlappingSteps : List Step :=
  [.books (.deliverRelay (Queue.sampleMessage .relayData) 1), .books (.next 0),
    .books (.deliverRelay (Queue.sampleMessage .relayData) 2), .books (.next 1),
    .books (.next 0), .books (.next 1), .books (.next 0), .books (.next 1),
    .books .receive, .consumeRelayEnqueueWait 5]

theorem enqueueWaits_overlappingSteps :
    ∃ s, (machine 512).run (machine 512).init overlappingSteps = some s ∧
      (s.samples = [⟨⟨0, Queue.sampleMessage .relayData⟩, ⟨0, 1⟩, 5⟩] ∧
        s.stats.enqueueWaitTotalNs = 4) ∧ s.Aligned ∧
      s.books.enqueuedAt.length = 1 ∧ s.books.ch.length = 1 := by
  obtain ⟨s, hrun, hsamples, hquiet, hch⟩ := (machine 512).exists_run overlappingSteps
    (fun s => (s.samples = [⟨⟨0, Queue.sampleMessage .relayData⟩, ⟨0, 1⟩, 5⟩] ∧
      s.stats.enqueueWaitTotalNs = 4) ∧ s.books.Quiet ∧ s.books.ch.length = 1) (by decide)
  obtain ⟨-, haligned, hlength⟩ := enqueueWaits_aligned hrun (by decide)
  exact ⟨s, hrun, hsamples, haligned, (hlength hquiet).trans hch, hch⟩

/-- The consumer receives a message and asks for its time before the producer has put it in. -/
def earlySteps : List Step :=
  [.books (.deliverRelay (Queue.sampleMessage .relayData) 1), .books (.next 0), .books .receive,
    .consumeRelayEnqueueWait 5, .books (.next 0), .books (.next 0)]

/-- The next message is delivered, and received, without any overlap. -/
def laterSteps : List Step :=
  [.books (.deliverRelay (Queue.sampleMessage .relayData) 100), .books (.next 1), .books (.next 1),
    .books (.next 1), .books .receive, .consumeRelayEnqueueWait 101]

/-- **A time is left behind**, with the channel empty, and is taken for the next message: a wait of
100 is recorded where it was 1. -/
theorem earlySteps_misaligned :
    (∃ s, (machine 512).run (machine 512).init earlySteps = some s ∧
      s.books.Quiet ∧ s.books.ch = [] ∧ s.books.enqueuedAt = [⟨0, 1⟩]) ∧
    ∃ t, (machine 512).run (machine 512).init (earlySteps ++ laterSteps) = some t ∧
      t.samples = [⟨⟨1, Queue.sampleMessage .relayData⟩, ⟨0, 1⟩, 101⟩] ∧
      t.stats = ⟨1, 100, 100⟩ ∧ (t.books.calls[1]?.map QueueStats.Call.now) = some 100 ∧
      ¬ t.Aligned := by
  refine ⟨(machine 512).exists_run earlySteps _ (by decide), ?_⟩
  obtain ⟨t, hrun, hsamples, hstats, hnow⟩ :=
    (machine 512).exists_run (earlySteps ++ laterSteps)
      (fun t => t.samples = [⟨⟨1, Queue.sampleMessage .relayData⟩, ⟨0, 1⟩, 101⟩] ∧
        t.stats = ⟨1, 100, 100⟩ ∧ (t.books.calls[1]?.map QueueStats.Call.now) = some 100)
      (by decide)
  refine ⟨t, hrun, hsamples, hstats, hnow, fun haligned => ?_⟩
  have hcall := (haligned _ (hsamples ▸ List.mem_singleton_self _)).1
  exact absurd hcall (by decide)

end Roboat.Relay.EnqueueWait
