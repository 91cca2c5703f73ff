import Mathlib.Tactic.SplitIfs
import Roboat.Transition.Machine
import Roboat.Wire.Frame

/-! # The direct-mode stream bridge

`run_stream_bridge` serves one direct stream: a `select!` loop that either takes a chunk from
`data_rx` and writes it as a `RelayData` frame, or reads a frame from the socket and forwards its
payload to `recv_tx`. The model has one step for every byte that the pending `read_frame` future
consumes. The future is a local of the `select!`: when the outbound branch wins, it is dropped and
the bytes it had consumed (`consumed`) are gone.

The machine is the bridge of one stream together with what surrounds it: the peer's bytes in flight,
their arrival in arbitrary chunks, local sends, the consumer of `recv_tx` and the ways each side can
close. -/

namespace Roboat.Daemon

/-- The capacity of the `mpsc` channels of a stream. -/
def channelCapacity : Nat := 64

/-- Where `run_stream_bridge` is. -/
inductive BridgePhase where
  /-- Waiting in `select!`. -/
  | selecting
  /-- A `RelayData` frame was read; `recv_tx.send` has not completed yet. -/
  | delivering (data : Bytes)
  /-- The loop was left. -/
  | closed
  deriving DecidableEq, Repr

/-- One direct stream: its bridge task, its two channels and its socket. -/
structure Bridge where
  /-- Bytes the peer has written that have not arrived yet. -/
  peer : Bytes
  /-- The peer has shut down its side of the connection. -/
  peerEof : Bool
  /-- Bytes in the socket buffer. -/
  inbox : Bytes
  /-- Bytes that the pending `read_frame` future has taken from the socket. -/
  consumed : Bytes
  phase : BridgePhase
  /-- The chunks queued in `data_rx`. -/
  dataRx : List Bytes
  /-- Some `data_tx` is alive. -/
  dataTxAlive : Bool
  /-- The chunks queued in the `recv_tx` channel. -/
  recvQueue : List Bytes
  /-- The receiver of the `recv_tx` channel is alive. -/
  recvRxAlive : Bool
  /-- A write to the socket has failed. -/
  writeFailed : Bool
  /-- Everything ever put on `recv_tx`, in order. -/
  forwarded : List Bytes
  /-- Everything written to the socket. -/
  wire : Bytes
  deriving DecidableEq, Repr

/-- The steps of the bridge and of its surroundings. -/
inductive BridgeStep where
  /-- The next `n` bytes of the peer arrive in the socket buffer. -/
  | arrive (n : Nat)
  /-- The peer shuts down after its last byte. -/
  | peerClose
  /-- `DaemonManager::send` puts a chunk on `data_tx`. -/
  | send (data : Bytes)
  /-- The last `data_tx` is dropped. -/
  | dropDataTx
  /-- The consumer takes a chunk from `recv_rx`. -/
  | recv
  /-- The consumer drops `recv_rx`. -/
  | dropRecvRx
  /-- The `read_frame` branch is polled and consumes one byte. -/
  | pollRead
  /-- The `read_frame` branch sees the end of the stream. -/
  | readEof
  /-- The `data_rx` branch wins with a chunk and the frame is written. -/
  | outbound
  /-- The `data_rx` branch wins with a chunk and the write fails. -/
  | outboundFail
  /-- The `data_rx` branch wins because the channel has ended. -/
  | outboundEnd
  /-- `recv_tx.send` completes, or fails because the receiver is gone. -/
  | deliver
  deriving DecidableEq, Repr

namespace Bridge

/-- What the select loop does with the result of `read_frame`. A future that has consumed `bytes` is
pending exactly when `read_frame` on these bytes alone would run out of input. -/
def afterRead (s : Bridge) (bytes : Bytes) : Bridge :=
  match readFrame bytes with
  | .error .connectionClosed => { s with consumed := bytes }
  | .error _ => { s with consumed := [], phase := .closed }
  | .ok ((.relayData, data), _) => { s with consumed := [], phase := .delivering data }
  | .ok ((.relayClose, _), _) => { s with consumed := [], phase := .closed }
  | .ok _ => { s with consumed := [] }

/-- The step function. -/
def step (s : Bridge) : BridgeStep → Option Bridge
  | .arrive n =>
    if n ≤ s.peer.length then
      some { s with inbox := s.inbox ++ s.peer.take n, peer := s.peer.drop n }
    else none
  | .peerClose => if s.peer = [] then some { s with peerEof := true } else none
  | .send data =>
    if s.dataTxAlive ∧ s.dataRx.length < channelCapacity then
      some { s with dataRx := s.dataRx ++ [data] }
    else none
  | .dropDataTx => some { s with dataTxAlive := false }
  | .recv =>
    match s.recvQueue with
    | _ :: q => if s.recvRxAlive then some { s with recvQueue := q } else none
    | [] => none
  | .dropRecvRx => some { s with recvRxAlive := false }
  | .pollRead =>
    match s.phase, s.inbox with
    | .selecting, b :: inbox => some ({ s with inbox := inbox }.afterRead (s.consumed ++ [b]))
    | _, _ => none
  | .readEof =>
    if s.phase = .selecting ∧ s.inbox = [] ∧ s.peerEof then
      some { s with consumed := [], phase := .closed }
    else none
  | .outbound =>
    match s.phase, s.dataRx with
    | .selecting, data :: q =>
      -- the losing `read_frame` future is dropped with whatever it had consumed
      some { s with dataRx := q, consumed := [], wire := s.wire ++ writeFrame .relayData data }
    | _, _ => none
  | .outboundFail =>
    match s.phase, s.dataRx with
    | .selecting, _ :: q =>
      some { s with dataRx := q, consumed := [], writeFailed := true, phase := .closed }
    | _, _ => none
  | .outboundEnd =>
    if s.phase = .selecting ∧ s.dataRx = [] ∧ s.dataTxAlive = false then
      some { s with
        consumed := []
        wire := s.wire ++ writeFrame .relayClose []
        phase := .closed }
    else none
  | .deliver =>
    match s.phase with
    | .delivering data =>
      if s.recvRxAlive = false then some { s with phase := .closed }
      else if s.recvQueue.length < channelCapacity then
        some { s with
          recvQueue := s.recvQueue ++ [data], forwarded := s.forwarded ++ [data]
          phase := .selecting }
      else none
    | _ => none

end Bridge

/-- The bytes of a peer that writes the payloads `ps` with `write_frame`. -/
def relayDataBytes (ps : List Bytes) : Bytes := ps.flatMap (writeFrame .relayData)

/-- A fresh bridge whose peer is about to send the payloads `ps`. -/
def freshBridge (ps : List Bytes) : Bridge where
  peer := relayDataBytes ps
  peerEof := false
  inbox := []
  consumed := []
  phase := .selecting
  dataRx := []
  dataTxAlive := true
  recvQueue := []
  recvRxAlive := true
  writeFailed := false
  forwarded := []
  wire := []

/-- **The bridge machine** for a peer that sends the payloads `ps`. -/
def bridgeMachine (ps : List Bytes) : Machine Bridge BridgeStep := ⟨freshBridge ps, Bridge.step⟩

namespace Bridge

/-- Neither the peer nor the local side (its sender, its receiver, its socket) has closed. -/
def NeitherClosed (s : Bridge) : Prop :=
  s.peerEof = false ∧ s.dataTxAlive = true ∧ s.recvRxAlive = true ∧ s.writeFailed = false

/-- Every byte has arrived and the bridge has nothing left to do with them. -/
def Drained (s : Bridge) : Prop :=
  s.peer = [] ∧ (s.phase = .selecting → s.inbox = []) ∧ ∀ data, s.phase ≠ .delivering data

/-- **What the bridge owes its peer**: what it forwards is a prefix of the peer's payloads, in
order, and all of them once every byte has arrived and been dealt with and neither side has closed.
-/
def Faithful (ps : List Bytes) (s : Bridge) : Prop :=
  s.forwarded <+: ps ∧ (s.Drained → s.NeitherClosed → s.forwarded = ps)

/-- The payload read but not yet on `recv_tx`. -/
def pending (s : Bridge) : List Bytes :=
  match s.phase with
  | .delivering data => [data]
  | _ => []

/-- **The condition**: the outbound branch wins only while no frame has been read in part. -/
def KeepsPartialRead (s : Bridge) (a : BridgeStep) : Prop := a = .outbound → s.consumed = []

instance (s : Bridge) (a : BridgeStep) : Decidable (s.KeepsPartialRead a) :=
  inferInstanceAs (Decidable (a = .outbound → s.consumed = []))

/-- The invariant of guided runs: what was forwarded and what is about to be forwarded is an initial
part of the payloads; while the loop runs, the bytes not yet turned into payloads are exactly the
frames of the remaining ones, and the pending future has not seen the end of a frame. -/
structure Inv (ps : List Bytes) (s : Bridge) : Prop where
  split : ∃ rest, s.forwarded ++ s.pending ++ rest = ps ∧
    (s.phase ≠ .closed → s.consumed ++ (s.inbox ++ s.peer) = relayDataBytes rest)
  incomplete : readFrame s.consumed = .error .connectionClosed
  idle : ∀ data, s.phase = .delivering data → s.consumed = []
  closed : s.phase = .closed → ¬ s.NeitherClosed

end Bridge

/-- **One more byte of a well-formed stream.** A future that has not seen the end of a frame and
takes one more byte of the frames of `rest` either still has not, or has read exactly the first of
them. -/
theorem readFrame_one_more {rest : List Bytes} (hsize : ∀ p ∈ rest, p.length ≤ frameMax)
    {consumed tail : Bytes} {b : UInt8} (hpend : readFrame consumed = .error .connectionClosed)
    (hbytes : consumed ++ [b] ++ tail = relayDataBytes rest) :
    readFrame (consumed ++ [b]) = .error .connectionClosed ∨
      ∃ p rest', rest = p :: rest' ∧ readFrame (consumed ++ [b]) = .ok ((.relayData, p), []) ∧
        tail = relayDataBytes rest' := by
  cases rest with
  | nil => simp [relayDataBytes] at hbytes
  | cons p rest' =>
    have hp := hsize p (List.mem_cons_self ..)
    have hstream : consumed ++ [b] ++ tail = writeFrame .relayData p ++ relayDataBytes rest' := by
      rw [hbytes, relayDataBytes, List.flatMap_cons]
      rfl
    have hnow : consumed ++ [b]
        = (writeFrame .relayData p ++ relayDataBytes rest').take (consumed.length + 1) := by
      rw [← hstream, List.take_left' (by simp)]
    have hbefore : consumed
        = (writeFrame .relayData p ++ relayDataBytes rest').take consumed.length := by
      rw [← hstream, List.append_assoc, List.take_left' rfl]
    have hread := readFrame_take_writeFrame .relayData p (relayDataBytes rest') hp
    by_cases hend : 5 + p.length ≤ consumed.length + 1
    · -- the byte before was still inside the frame, so this byte is its last one
      have hinside : ¬ 5 + p.length ≤ consumed.length := by
        intro hle
        rw [hbefore, hread, if_pos hle] at hpend
        cases hpend
      have hlast : consumed.length + 1 = 5 + p.length := by omega
      refine Or.inr ⟨p, rest', rfl, ?_, ?_⟩
      · rw [hnow, hread, if_pos hend, hlast, Nat.sub_self, List.take_zero]
      · have hdrop := congrArg (List.drop (5 + p.length)) hstream
        rwa [List.drop_left' (by simp [hlast]), List.drop_left' (length_writeFrame ..)] at hdrop
    · left
      rw [hnow, hread, if_neg hend]

namespace Bridge

variable {ps : List Bytes} {s t : Bridge}

/-- A fresh bridge satisfies the invariant. -/
theorem inv_fresh (ps : List Bytes) : Inv ps (freshBridge ps) where
  split := ⟨ps, by simp [freshBridge, pending], fun _ => by simp [freshBridge]⟩
  incomplete := rfl
  idle := fun _ _ => rfl
  closed := fun h => by cases h

/-- Polling the read branch keeps the invariant: the interesting case is the last byte of a frame,
which moves one payload from the remaining ones to the pending one. -/
theorem inv_pollRead (hsize : ∀ p ∈ ps, p.length ≤ frameMax) (hs : Inv ps s)
    (hstep : s.step .pollRead = some t) : Inv ps t := by
  obtain ⟨⟨rest, hps, hbytes⟩, hpend, -, hclosed⟩ := hs
  simp only [step] at hstep
  split at hstep
  · rename_i b inbox hphase hinbox
    cases hstep
    have hopen : s.phase ≠ .closed := by rw [hphase]; simp
    have hnone : s.pending = [] := by simp [pending, hphase]
    rw [hnone, List.append_nil] at hps
    have hrest : ∀ p ∈ rest, p.length ≤ frameMax := fun p hp =>
      hsize p (hps ▸ List.mem_append_right _ hp)
    have hstream : s.consumed ++ [b] ++ (inbox ++ s.peer) = relayDataBytes rest := by
      rw [← hbytes hopen, hinbox]
      simp
    rcases readFrame_one_more hrest hpend hstream with hmore | ⟨p, rest', rfl, hdone, htail⟩
    · have hafter : ({ s with inbox := inbox }.afterRead (s.consumed ++ [b]))
          = { s with inbox := inbox, consumed := s.consumed ++ [b] } := by
        simp only [afterRead, hmore]
      rw [hafter]
      refine ⟨⟨rest, ?_, fun _ => hstream⟩, hmore, ?_, ?_⟩
      · simpa [pending, hphase] using hps
      · intro data hdata
        rw [hphase] at hdata
        cases hdata
      · intro hc
        exact absurd hc hopen
    · have hafter : ({ s with inbox := inbox }.afterRead (s.consumed ++ [b]))
          = { s with inbox := inbox, consumed := [], phase := .delivering p } := by
        simp only [afterRead, hdone]
      rw [hafter]
      refine ⟨⟨rest', ?_, fun _ => ?_⟩, rfl, fun _ _ => rfl, fun hc => by cases hc⟩
      · simpa [pending] using hps
      · simpa using htail
  · cases hstep

/-- Completing, or failing, `recv_tx.send` keeps the invariant. -/
theorem inv_deliver (hs : Inv ps s) (hstep : s.step .deliver = some t) : Inv ps t := by
  obtain ⟨⟨rest, hps, hbytes⟩, hpend, hidle, hclosed⟩ := hs
  simp only [step] at hstep
  split at hstep
  · rename_i data hphase
    have hpending : s.pending = [data] := by simp [pending, hphase]
    have hopen : s.phase ≠ .closed := by rw [hphase]; simp
    split_ifs at hstep with hgone hroom
    · cases hstep
      refine ⟨⟨data :: rest, ?_, fun h => absurd rfl h⟩, hpend, ?_, ?_⟩
      · rw [hpending] at hps
        simpa [pending] using hps
      · intro d hd
        cases hd
      · intro _ hnc
        have := hnc.2.2.1
        simp [hgone] at this
    · cases hstep
      refine ⟨⟨rest, ?_, fun _ => hbytes hopen⟩, hpend, ?_, ?_⟩
      · rw [hpending] at hps
        simpa [pending] using hps
      · intro d hd
        cases hd
      · intro hc
        cases hc
  · cases hstep

/-- A step around the bridge, which leaves the task and its bytes alone, keeps the invariant. -/
theorem inv_of_same (hs : Inv ps s) (hforwarded : t.forwarded = s.forwarded)
    (hphase : t.phase = s.phase) (hconsumed : t.consumed = s.consumed)
    (hbytes : t.inbox ++ t.peer = s.inbox ++ s.peer) (hopen : t.NeitherClosed → s.NeitherClosed) :
    Inv ps t := by
  obtain ⟨⟨rest, hps, hrest⟩, hpend, hidle, hclosed⟩ := hs
  have hpending : t.pending = s.pending := by simp only [pending, hphase]
  refine ⟨⟨rest, ?_, ?_⟩, ?_, ?_, ?_⟩
  · rw [hforwarded, hpending, hps]
  · rw [hphase, hconsumed, hbytes]
    exact hrest
  · rw [hconsumed]
    exact hpend
  · rw [hphase, hconsumed]
    exact hidle
  · rw [hphase]
    exact fun hc hnc => hclosed hc (hopen hnc)

/-- Leaving the loop without a payload in hand, because some side has closed, keeps the invariant.
-/
theorem inv_of_closed (hs : Inv ps s) (hforwarded : t.forwarded = s.forwarded)
    (hphase : t.phase = .closed) (hconsumed : t.consumed = []) (hcause : ¬ t.NeitherClosed) :
    Inv ps t := by
  obtain ⟨⟨rest, hps, -⟩, -, -, -⟩ := hs
  refine ⟨⟨s.pending ++ rest, ?_, fun h => absurd hphase h⟩, ?_, ?_, fun _ => hcause⟩
  · rw [hforwarded, ← hps]
    simp [pending, hphase]
  · rw [hconsumed]
    rfl
  · intro data hdata
    rw [hphase] at hdata
    cases hdata

/-- **Every step that meets the condition keeps the invariant.** -/
theorem inv_step (hsize : ∀ p ∈ ps, p.length ≤ frameMax) {a : BridgeStep} (hs : Inv ps s)
    (hcond : s.KeepsPartialRead a) (hstep : s.step a = some t) : Inv ps t := by
  cases a with
  | pollRead => exact inv_pollRead hsize hs hstep
  | deliver => exact inv_deliver hs hstep
  | arrive n =>
    simp only [step] at hstep
    split_ifs at hstep with hn
    cases hstep
    exact inv_of_same hs rfl rfl rfl (by simp) id
  | peerClose =>
    simp only [step] at hstep
    split_ifs at hstep with hpeer
    cases hstep
    exact inv_of_same hs rfl rfl rfl rfl (fun h => by cases h.1)
  | send data =>
    simp only [step] at hstep
    split_ifs at hstep with hroom
    cases hstep
    exact inv_of_same hs rfl rfl rfl rfl id
  | dropDataTx =>
    cases hstep
    exact inv_of_same hs rfl rfl rfl rfl (fun h => by cases h.2.1)
  | recv =>
    simp only [step] at hstep
    split at hstep
    · split_ifs at hstep with halive
      cases hstep
      exact inv_of_same hs rfl rfl rfl rfl id
    · cases hstep
  | dropRecvRx =>
    cases hstep
    exact inv_of_same hs rfl rfl rfl rfl (fun h => by cases h.2.2.1)
  | readEof =>
    simp only [step] at hstep
    split_ifs at hstep with heof
    cases hstep
    refine inv_of_closed hs rfl rfl rfl fun hnc => ?_
    have := hnc.1
    simp [heof.2.2] at this
  | outbound =>
    simp only [step] at hstep
    split at hstep
    · cases hstep
      -- the dropped future had consumed nothing
      exact inv_of_same hs rfl rfl (hcond rfl).symm rfl id
    · cases hstep
  | outboundFail =>
    simp only [step] at hstep
    split at hstep
    · cases hstep
      exact inv_of_closed hs rfl rfl rfl (fun h => by cases h.2.2.2)
    · cases hstep
  | outboundEnd =>
    simp only [step] at hstep
    split_ifs at hstep with hend
    cases hstep
    refine inv_of_closed hs rfl rfl rfl fun hnc => ?_
    have := hnc.2.1
    simp [hend.2.2] at this

/-- The invariant gives what the bridge owes its peer. -/
theorem faithful_of_inv (hsize : ∀ p ∈ ps, p.length ≤ frameMax) (hs : Inv ps s) :
    s.Faithful ps := by
  obtain ⟨⟨rest, hps, hbytes⟩, hpend, -, hclosed⟩ := hs
  refine ⟨?_, ?_⟩
  · rw [← hps, List.append_assoc]
    exact List.prefix_append ..
  · rintro ⟨hpeer, hinbox, hidle⟩ hnc
    have hopen : s.phase = .selecting := by
      cases hphase : s.phase with
      | selecting => rfl
      | delivering data => exact absurd hphase (hidle data)
      | closed => exact absurd hnc (hclosed hphase)
    have hstream := hbytes (by rw [hopen]; simp)
    rw [hinbox hopen, hpeer, List.append_nil, List.append_nil] at hstream
    -- a whole frame among the consumed bytes would have been delivered
    have hrest : rest = [] := by
      cases rest with
      | nil => rfl
      | cons p rest' =>
        have hp : p.length ≤ frameMax := hsize p (by rw [← hps]; simp)
        rw [hstream, relayDataBytes, List.flatMap_cons, readFrame_writeFrame_append _ _ _ hp]
          at hpend
        cases hpend
    rw [← hps, hrest]
    simp [pending, hopen]

/-- The steps by which the bridge and the consumer of `recv_rx` work off what has arrived. -/
def IsReading (a : BridgeStep) : Prop := a = .pollRead ∨ a = .deliver ∨ a = .recv

/-- One reading step exists until the bridge is drained; it keeps every condition and works off
something. -/
theorem exists_reading_step (hsize : ∀ p ∈ ps, p.length ≤ frameMax) (hs : Inv ps s)
    (hpeer : s.peer = []) (hnc : s.NeitherClosed) (hmore : ¬ s.Drained) :
    ∃ a t, IsReading a ∧ s.step a = some t ∧ Inv ps t ∧ t.peer = [] ∧ t.NeitherClosed ∧
      4 * t.inbox.length + 2 * t.pending.length + t.recvQueue.length
        < 4 * s.inbox.length + 2 * s.pending.length + s.recvQueue.length := by
  have hkeep : ∀ a, IsReading a → s.KeepsPartialRead a := by
    rintro a (rfl | rfl | rfl) h <;> cases h
  cases hphase : s.phase with
  | closed => exact absurd hnc (hs.closed hphase)
  | selecting =>
    cases hinbox : s.inbox with
    | nil =>
      exact absurd ⟨hpeer, fun _ => hinbox, fun data h => by rw [hphase] at h; cases h⟩ hmore
    | cons b inbox =>
      have hread : IsReading .pollRead := Or.inl rfl
      have hstep : s.step .pollRead
          = some ({ s with inbox := inbox }.afterRead (s.consumed ++ [b])) := by
        simp only [step, hphase, hinbox]
      refine ⟨_, _, hread, hstep, inv_step hsize hs (hkeep _ hread) hstep, ?_⟩
      have hpend : s.pending.length = 0 := by simp [pending, hphase]
      simp only [afterRead]
      split <;> simp_all [NeitherClosed, pending]
      omega
  | delivering data =>
    have hpend : s.pending.length = 1 := by simp [pending, hphase]
    have halive : ¬ s.recvRxAlive = false := by rw [hnc.2.2.1]; simp
    by_cases hroom : s.recvQueue.length < channelCapacity
    · have hread : IsReading .deliver := Or.inr (Or.inl rfl)
      have hstep : s.step .deliver = some { s with
          recvQueue := s.recvQueue ++ [data], forwarded := s.forwarded ++ [data]
          phase := .selecting } := by
        simp only [step, hphase, if_neg halive, if_pos hroom]
      refine ⟨_, _, hread, hstep, inv_step hsize hs (hkeep _ hread) hstep, hpeer, hnc, ?_⟩
      simp [pending] at hpend ⊢
      omega
    · cases hqueue : s.recvQueue with
      | nil => simp [hqueue, channelCapacity] at hroom
      | cons d q =>
        have hread : IsReading .recv := Or.inr (Or.inr rfl)
        have hstep : s.step .recv = some { s with recvQueue := q } := by
          simp only [step, hqueue, hnc.2.2.1, if_true]
        refine ⟨_, _, hread, hstep, inv_step hsize hs (hkeep _ hread) hstep, hpeer, hnc, ?_⟩
        simp [pending]

/-- **Progress**: from a state that the invariant describes, once every byte has arrived and while
neither side closes, the bridge and its consumer reach, by reading alone, a drained state. -/
theorem exists_drain (hsize : ∀ p ∈ ps, p.length ≤ frameMax) (n : ℕ) :
    ∀ s : Bridge, Inv ps s → s.peer = [] → s.NeitherClosed →
      4 * s.inbox.length + 2 * s.pending.length + s.recvQueue.length ≤ n →
      ∃ as t, (∀ a ∈ as, IsReading a) ∧ (bridgeMachine ps).run s as = some t ∧ Inv ps t ∧
        t.Drained ∧ t.NeitherClosed := by
  induction n with
  | zero =>
    intro s hs hpeer hnc hn
    by_cases hd : s.Drained
    · exact ⟨[], s, by simp, rfl, hs, hd, hnc⟩
    · obtain ⟨a, t, -, -, -, -, -, hlt⟩ := exists_reading_step hsize hs hpeer hnc hd
      omega
  | succ n ih =>
    intro s hs hpeer hnc hn
    by_cases hd : s.Drained
    · exact ⟨[], s, by simp, rfl, hs, hd, hnc⟩
    · obtain ⟨a, u, ha, hstep, hu, hupeer, hunc, hlt⟩ :=
        exists_reading_step hsize hs hpeer hnc hd
      obtain ⟨as, t, has, hrun, ht, htd, htnc⟩ := ih u hu hupeer hunc (by omega)
      refine ⟨a :: as, t, ?_, (Machine.run_cons _).mpr ⟨u, hstep, hrun⟩, ht, htd, htnc⟩
      intro b hb
      rcases List.mem_cons.mp hb with rfl | hb
      · exact ha
      · exact has b hb

end Bridge

/-- **A bridge that never abandons a partial read is faithful.** For every list of payloads of at
most 64 MiB, every chunking of the peer's bytes and every interleaving in which the outbound branch
wins only while no frame has been read in part: what the bridge forwards is a prefix of the peer's
payloads, all of them once it has worked off everything that arrived and neither side has closed;
and while neither side closes, it can always get there by reading alone. -/
theorem bridge_faithful_of_keepsPartialRead (ps : List Bytes)
    (hsize : ∀ p ∈ ps, p.length ≤ frameMax) (as : List BridgeStep) (s : Bridge)
    (hrun : (bridgeMachine ps).run (bridgeMachine ps).init as = some s)
    (hcond : (bridgeMachine ps).Along Bridge.KeepsPartialRead (bridgeMachine ps).init as) :
    s.Faithful ps ∧
      (s.peer = [] → s.NeitherClosed →
        ∃ bs t, (∀ b ∈ bs, Bridge.IsReading b) ∧ (bridgeMachine ps).run s bs = some t ∧
          t.forwarded = ps) := by
  have hinv : Bridge.Inv ps s := (bridgeMachine ps).along_invariant
    (fun _ _ _ hs hP hstep => Bridge.inv_step hsize hs hP hstep) (Bridge.inv_fresh ps) hcond hrun
  refine ⟨Bridge.faithful_of_inv hsize hinv, fun hpeer hnc => ?_⟩
  obtain ⟨bs, t, hbs, hrun', ht, hd, htnc⟩ :=
    Bridge.exists_drain hsize _ s hinv hpeer hnc le_rfl
  exact ⟨bs, t, hbs, hrun', (Bridge.faithful_of_inv hsize ht).2 hd htnc⟩

/-- The steps that read `n` bytes. -/
def pollReads (n : Nat) : List BridgeStep := List.replicate n .pollRead

/-- A one-byte payload whose frame is cut after two bytes, and a local send before the first byte.
-/
def splitFrameSteps : List BridgeStep :=
  [.send [1], .outbound, .arrive 2] ++ pollReads 2 ++ [.arrive 4] ++ pollReads 4 ++ [.deliver]

/-- The bridge is faithful along `splitFrameSteps`. -/
theorem bridge_faithful_splitFrameSteps :
    ∃ s, (bridgeMachine [[7]]).run (bridgeMachine [[7]]).init splitFrameSteps = some s ∧
      s.Faithful [[7]] := by
  obtain ⟨s, hs⟩ := Option.isSome_iff_exists.mp
    (by decide : ((bridgeMachine [[7]]).run (bridgeMachine [[7]]).init splitFrameSteps).isSome)
  exact ⟨s, hs, (bridge_faithful_of_keepsPartialRead [[7]] (by simp [frameMax]) splitFrameSteps s hs
    (by decide)).1⟩

/-- The peer's single payload looks like a frame itself. Its first five bytes arrive and are
consumed; a local send wins the `select!`; the payload is then read as a frame. -/
def reinterpretingSteps : List BridgeStep :=
  [.arrive 5] ++ pollReads 5 ++ [.send [1], .outbound, .arrive 6] ++ pollReads 6 ++ [.deliver]

/-- **The bridge is not faithful.** The peer sends the single payload `32 00 00 00 01 09`; a local
send wins the `select!` after the header has been read, and the bridge forwards the payload `09`. -/
theorem bridge_not_faithful :
    ¬ ∀ ps : List Bytes, (∀ p ∈ ps, p.length ≤ frameMax) →
      ∀ as s, (bridgeMachine ps).run (bridgeMachine ps).init as = some s → s.Faithful ps := by
  intro h
  have hfaithful := h [[0x32, 0, 0, 0, 1, 9]] (by simp [frameMax]) reinterpretingSteps _ rfl
  have hprefix : ([[9]] : List Bytes) <+: [[0x32, 0, 0, 0, 1, 9]] := hfaithful.1
  revert hprefix
  decide

end Roboat.Daemon
