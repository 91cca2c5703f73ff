import Mathlib.Data.List.Basic
import Roboat.Wire.BigEndian
import Roboat.Wire.Frame

/-! # A multiplexed connection: its queues and its write task

`MuxConn` carries many streams over one TCP connection. A frame is put on one of two unbounded
queues, chosen by the class of its stream, and a single write task empties them: it drains the
control queue without waiting, and then waits for either queue in a biased `select!`.

The runtime is multi-threaded, and a `select!` polls its branches one after the other without any
lock over both: `pollCtrl` and `pollBulk` are two steps, and other tasks may enqueue between them.
-/

namespace Roboat.Daemon

/-- `StreamClass`; `metaClass` is `Meta`. -/
inductive StreamClass where
  | control
  | metaClass
  | bulk
  deriving DecidableEq, Repr

namespace StreamClass

/-- `StreamClass::as_byte`. -/
def asByte : StreamClass → UInt8
  | control => 0x01
  | metaClass => 0x02
  | bulk => 0x03

/-- `StreamClass::from_byte`. -/
def fromByte (b : UInt8) : StreamClass :=
  if b = 0x02 then metaClass else if b = 0x03 then bulk else control

end StreamClass

/-- `WriteItem`: a frame to write. `owner` names the stream that enqueued it; no step reads it. -/
structure WriteItem where
  frameType : FrameType
  payload : Bytes
  owner : Nat
  deriving DecidableEq, Repr

namespace WriteItem

/-- The `StreamOpen` frame of `open_stream`. -/
def streamOpen (owner : Nat) (streamId : UInt32) (cls : StreamClass) : WriteItem :=
  ⟨.streamOpen, toBeBytes streamId ++ [cls.asByte], owner⟩

/-- The `StreamData` frame of `send`. -/
def streamData (owner : Nat) (streamId : UInt32) (data : Bytes) : WriteItem :=
  ⟨.streamData, toBeBytes streamId ++ data, owner⟩

/-- The `StreamClose` frame of `close_stream`. -/
def streamClose (owner : Nat) (streamId : UInt32) : WriteItem :=
  ⟨.streamClose, toBeBytes streamId, owner⟩

/-- The stream id a frame carries, as its receiver reads it. -/
def streamId (item : WriteItem) : Option UInt32 :=
  match item.payload with
  | a :: b :: c :: d :: _ => some (fromBeBytes a b c d)
  | _ => none

@[simp] theorem streamId_streamOpen (owner : Nat) (id : UInt32) (cls : StreamClass) :
    (streamOpen owner id cls).streamId = some id :=
  congrArg some (fromBeBytes_toBeBytes id)

@[simp] theorem streamId_streamData (owner : Nat) (id : UInt32) (data : Bytes) :
    (streamData owner id data).streamId = some id :=
  congrArg some (fromBeBytes_toBeBytes id)

@[simp] theorem streamId_streamClose (owner : Nat) (id : UInt32) :
    (streamClose owner id).streamId = some id :=
  congrArg some (fromBeBytes_toBeBytes id)

end WriteItem

/-- Where the write task is. -/
inductive WriterPhase where
  /-- Before the next `ctrl_rx.try_recv()`. -/
  | draining
  /-- At the `select!`, before its first branch is polled. -/
  | selecting
  /-- In the `select!`: the control branch was polled and found nothing. -/
  | ctrlPolled
  /-- In the `select!`: both branches found nothing. -/
  | waiting
  /-- In `write_frame`. -/
  | writing (item : WriteItem)
  /-- The task returned; its receivers are dropped. -/
  | returned
  deriving DecidableEq, Repr

/-- The part of `MuxConn` that the send path uses, with its write task and what it has written. -/
structure MuxConn where
  nextStreamId : UInt32
  ctrl : List WriteItem
  bulk : List WriteItem
  writer : WriterPhase
  written : List WriteItem
  deriving DecidableEq, Repr

/-- The steps of the write task. -/
inductive WriterStep where
  /-- `try_recv` on the control queue. -/
  | drain
  /-- The `select!` polls the control branch. -/
  | pollCtrl
  /-- The `select!` polls the bulk branch. -/
  | pollBulk
  /-- A waiting `select!` is woken and polls again. -/
  | wake
  /-- `write_frame` returns. -/
  | wrote (ok : Bool)
  deriving DecidableEq, Repr

namespace MuxConn

/-- A connection of the dialing side. -/
def newInitiator : MuxConn := ⟨1, [], [], .draining, []⟩

/-- A connection of the accepting side. -/
def newResponder : MuxConn := ⟨2, [], [], .draining, []⟩

/-- `enqueue`: fails when the write task is gone. -/
def enqueue (conn : MuxConn) (cls : StreamClass) (item : WriteItem) : Option MuxConn :=
  if conn.writer = .returned then none
  else
    match cls with
    | .control => some { conn with ctrl := conn.ctrl ++ [item] }
    | .metaClass => some { conn with ctrl := conn.ctrl ++ [item] }
    | .bulk => some { conn with bulk := conn.bulk ++ [item] }

/-- `mux_write_task`, step by step. -/
def writeStep (conn : MuxConn) : WriterStep → Option MuxConn
  | .drain =>
    if conn.writer = .draining then
      match conn.ctrl with
      | [] => some { conn with writer := .selecting }
      | item :: rest => some { conn with ctrl := rest, writer := .writing item }
    else none
  | .pollCtrl =>
    if conn.writer = .selecting then
      match conn.ctrl with
      | [] => some { conn with writer := .ctrlPolled }
      | item :: rest => some { conn with ctrl := rest, writer := .writing item }
    else none
  | .pollBulk =>
    if conn.writer = .ctrlPolled then
      match conn.bulk with
      | [] => some { conn with writer := .waiting }
      | item :: rest => some { conn with bulk := rest, writer := .writing item }
    else none
  | .wake => if conn.writer = .waiting then some { conn with writer := .selecting } else none
  | .wrote ok =>
    match conn.writer with
    | .writing item =>
      if ok then some { conn with written := conn.written ++ [item], writer := .draining }
      else some { conn with writer := .returned }
    | _ => none

/-- The frame the write task has taken and not yet written. -/
def inFlight (conn : MuxConn) : List WriteItem :=
  match conn.writer with
  | .writing item => [item]
  | _ => []

/-- The frames of a connection: written, being written, queued. -/
def frames (conn : MuxConn) : List WriteItem :=
  conn.written ++ conn.inFlight ++ conn.ctrl ++ conn.bulk

variable {conn conn' : MuxConn} {cls : StreamClass} {item : WriteItem} {a : WriterStep} {i : Nat}

/-- What an enqueue does: it adds the frame to the queue of the class. -/
theorem eq_of_enqueue (h : conn.enqueue cls item = some conn') :
    conn.writer ≠ .returned ∧
      ((cls ≠ .bulk ∧ conn' = { conn with ctrl := conn.ctrl ++ [item] }) ∨
        (cls = .bulk ∧ conn' = { conn with bulk := conn.bulk ++ [item] })) := by
  unfold enqueue at h
  split_ifs at h with hgone
  refine ⟨hgone, ?_⟩
  cases cls with
  | control | metaClass => exact Or.inl ⟨by simp, (Option.some.inj h).symm⟩
  | bulk => exact Or.inr ⟨rfl, (Option.some.inj h).symm⟩

/-- An enqueue fails only when the write task is gone. -/
theorem returned_of_enqueue (h : conn.enqueue cls item = none) : conn.writer = .returned := by
  unfold enqueue at h
  split_ifs at h with hgone
  · exact hgone
  · cases cls <;> cases h

/-- An enqueue adds no other frame. -/
theorem mem_frames_enqueue {x : WriteItem} (h : conn.enqueue cls item = some conn')
    (hx : x ∈ conn'.frames) : x ∈ conn.frames ∨ x = item := by
  obtain ⟨-, ⟨-, rfl⟩ | ⟨-, rfl⟩⟩ := eq_of_enqueue h
  · simp only [frames, inFlight, List.mem_append, List.mem_singleton] at hx ⊢
    tauto
  · simp only [frames, inFlight, List.mem_append, List.mem_singleton] at hx ⊢
    tauto

/-- The moves of the write task, as far as frames are concerned. -/
inductive WriteMove : MuxConn → MuxConn → Prop
  /-- It turns to another phase, with no frame in hand. -/
  | turn {conn : MuxConn} (phase : WriterPhase) (hold : conn.inFlight = [])
      (hnew : inFlight { conn with writer := phase } = []) :
      WriteMove conn { conn with writer := phase }
  /-- It takes a frame from the control queue. -/
  | takeCtrl {conn : MuxConn} {item : WriteItem} {rest : List WriteItem}
      (hold : conn.inFlight = []) (hqueue : conn.ctrl = item :: rest) :
      WriteMove conn { conn with ctrl := rest, writer := .writing item }
  /-- It takes a frame from the bulk queue. -/
  | takeBulk {conn : MuxConn} {item : WriteItem} {rest : List WriteItem}
      (hold : conn.inFlight = []) (hqueue : conn.bulk = item :: rest) :
      WriteMove conn { conn with bulk := rest, writer := .writing item }
  /-- It has written its frame. -/
  | wrote {conn : MuxConn} {item : WriteItem} (hold : conn.writer = .writing item) :
      WriteMove conn { conn with written := conn.written ++ [item], writer := .draining }
  /-- It could not write its frame. -/
  | fail {conn : MuxConn} {item : WriteItem} (hold : conn.writer = .writing item) :
      WriteMove conn { conn with writer := .returned }

/-- Every step of the write task is one of its moves. -/
theorem writeMove_of_writeStep (h : conn.writeStep a = some conn') : WriteMove conn conn' := by
  cases a with
  | drain | pollCtrl =>
    simp only [writeStep] at h
    split_ifs at h with hphase
    have hold : conn.inFlight = [] := by simp [inFlight, hphase]
    split at h
    · cases h
      exact .turn _ hold rfl
    · rename_i item rest hctrl
      cases h
      exact .takeCtrl hold hctrl
  | pollBulk =>
    simp only [writeStep] at h
    split_ifs at h with hphase
    have hold : conn.inFlight = [] := by simp [inFlight, hphase]
    split at h
    · cases h
      exact .turn _ hold rfl
    · rename_i item rest hbulk
      cases h
      exact .takeBulk hold hbulk
  | wake =>
    simp only [writeStep] at h
    split_ifs at h with hphase
    cases h
    exact .turn _ (by simp [inFlight, hphase]) rfl
  | wrote ok =>
    simp only [writeStep] at h
    split at h
    · rename_i item hphase
      split_ifs at h
      · cases h
        exact .wrote hphase
      · cases h
        exact .fail hphase
    · cases h

/-- The write task makes up no frame. -/
theorem WriteMove.mem_frames {x : WriteItem} (h : WriteMove conn conn') (hx : x ∈ conn'.frames) :
    x ∈ conn.frames := by
  cases h with
  | turn phase hold hnew =>
    simp only [frames, hold]
    simpa only [frames, hnew] using hx
  | takeCtrl hold hqueue | takeBulk hold hqueue =>
    simp only [frames, hold, hqueue, List.mem_append, List.mem_cons]
    simp only [frames, inFlight, List.mem_append, List.mem_singleton] at hx
    tauto
  | wrote hold =>
    simp only [frames, inFlight, hold, List.mem_append, List.mem_singleton]
    simp only [frames, inFlight, List.mem_append, List.mem_singleton] at hx
    tauto
  | fail hold =>
    simp only [frames, inFlight, hold, List.mem_append, List.mem_singleton]
    simp only [frames, inFlight, List.mem_append] at hx
    tauto

/-- A write task that is gone does nothing any more. -/
theorem not_returned_of_writeStep (h : conn.writeStep a = some conn') :
    conn.writer ≠ .returned := by
  intro hgone
  cases a <;> simp [writeStep, hgone] at h

/-- The write task returns only when a write fails. -/
theorem wrote_of_returned (h : conn.writeStep a = some conn')
    (hreturned : conn'.writer = .returned) : a = .wrote false := by
  cases a with
  | wrote ok =>
    simp only [writeStep] at h
    split at h
    · cases ok with
      | true =>
        cases h
        cases hreturned
      | false => rfl
    · cases h
  | drain | pollCtrl | pollBulk =>
    simp only [writeStep] at h
    split_ifs at h
    split at h <;> (cases h; cases hreturned)
  | wake =>
    simp only [writeStep] at h
    split_ifs at h
    cases h
    cases hreturned

/-- The write task comes to the bulk branch of its `select!` only from a control branch that found
the control queue empty. -/
theorem pollCtrl_of_ctrlPolled (h : conn.writeStep a = some conn')
    (hphase : conn'.writer = .ctrlPolled) : a = .pollCtrl ∧ conn.ctrl = [] ∧ conn'.ctrl = [] := by
  cases a with
  | pollCtrl =>
    simp only [writeStep] at h
    split_ifs at h
    split at h
    · rename_i hctrl
      cases h
      exact ⟨rfl, hctrl, hctrl⟩
    · cases h
      cases hphase
  | drain | pollBulk | wake =>
    simp only [writeStep] at h
    split_ifs at h
    first
      | (cases h; cases hphase)
      | (split at h <;> (cases h; cases hphase))
  | wrote ok =>
    simp only [writeStep] at h
    split at h
    · split_ifs at h <;> (cases h; cases hphase)
    · cases h

/-- Frames leave the bulk queue only in the bulk branch of the `select!`. -/
theorem ctrlPolled_of_takesBulk (h : conn.writeStep a = some conn')
    (hless : conn'.bulk.length < conn.bulk.length) : conn.writer = .ctrlPolled := by
  cases a with
  | pollBulk =>
    simp only [writeStep] at h
    split_ifs at h with hphase
    exact hphase
  | drain | pollCtrl | wake =>
    simp only [writeStep] at h
    split_ifs at h
    first
      | (cases h; exact absurd hless (Nat.lt_irrefl _))
      | (split at h <;> (cases h; exact absurd hless (Nat.lt_irrefl _)))
  | wrote ok =>
    simp only [writeStep] at h
    split at h
    · split_ifs at h <;> (cases h; exact absurd hless (Nat.lt_irrefl _))
    · cases h

/-! ## The frames of one stream -/

/-- The frames of a connection that stream `i` has enqueued. -/
def framesOf (conn : MuxConn) (i : Nat) : List WriteItem :=
  conn.frames.filter fun item => item.owner = i

/-- Queued frames of stream `i`, of class `cls`, are in the queue of their class. -/
def KeepsClass (conn : MuxConn) (i : Nat) (cls : StreamClass) : Prop :=
  (cls = .bulk → ∀ item ∈ conn.ctrl, item.owner ≠ i) ∧
    (cls ≠ .bulk → ∀ item ∈ conn.bulk, item.owner ≠ i)

/-- No frame of stream `i` is found where there is none. -/
theorem filter_owner_eq_nil {items : List WriteItem} (h : ∀ item ∈ items, item.owner ≠ i) :
    items.filter (fun item => item.owner = i) = [] := by
  simpa [List.filter_eq_nil_iff] using h

/-- A stream's enqueue adds the frame at the end of its frames. -/
theorem framesOf_enqueue (h : conn.enqueue cls item = some conn')
    (hclass : conn.KeepsClass item.owner cls) :
    conn'.framesOf item.owner = conn.framesOf item.owner ++ [item] ∧
      conn'.KeepsClass item.owner cls := by
  obtain ⟨-, ⟨hcls, rfl⟩ | ⟨hcls, rfl⟩⟩ := eq_of_enqueue h
  · have hbulk := filter_owner_eq_nil (hclass.2 hcls)
    refine ⟨?_, fun heq => absurd heq hcls, hclass.2⟩
    simp only [framesOf, frames, inFlight, List.filter_append, hbulk, List.append_nil,
      List.filter_singleton, decide_true, List.append_assoc]
    rfl
  · refine ⟨?_, hclass.1, fun hne => absurd hcls hne⟩
    simp only [framesOf, frames, inFlight, List.filter_append, List.filter_singleton, decide_true,
      List.append_assoc]
    rfl

/-- An enqueue of another stream does not touch the frames of stream `i`. -/
theorem framesOf_enqueue_of_ne (h : conn.enqueue cls item = some conn') (hne : item.owner ≠ i) :
    conn'.framesOf i = conn.framesOf i ∧
      ∀ own, conn.KeepsClass i own → conn'.KeepsClass i own := by
  have hitem : List.filter (fun item => item.owner = i) [item] = [] :=
    filter_owner_eq_nil (by simpa using hne)
  obtain ⟨-, ⟨-, rfl⟩ | ⟨-, rfl⟩⟩ := eq_of_enqueue h
  · refine ⟨?_, fun own hown => ⟨fun heq x hx => ?_, hown.2⟩⟩
    · simp only [framesOf, frames, inFlight, List.filter_append, hitem, List.append_nil]
    · rcases List.mem_append.mp hx with hold | hnew
      · exact hown.1 heq x hold
      · rw [List.mem_singleton.mp hnew]
        exact hne
  · refine ⟨?_, fun own hown => ⟨hown.1, fun hcls x hx => ?_⟩⟩
    · simp only [framesOf, frames, inFlight, List.filter_append, hitem, List.append_nil]
    · rcases List.mem_append.mp hx with hold | hnew
      · exact hown.2 hcls x hold
      · rw [List.mem_singleton.mp hnew]
        exact hne

/-- The frames of a connection whose write task has none in hand. -/
theorem frames_of_inFlight (h : conn.inFlight = []) :
    conn.frames = conn.written ++ conn.ctrl ++ conn.bulk := by
  simp only [frames, h, List.append_nil]

/-- **The write task keeps the order of each stream's frames**: between streams of different class
it reorders freely, but the frames of one stream wait in one queue. -/
theorem WriteMove.framesOf_eq (h : WriteMove conn conn') (halive : conn'.writer ≠ .returned)
    (hclass : conn.KeepsClass i cls) :
    conn'.framesOf i = conn.framesOf i ∧ conn'.KeepsClass i cls := by
  cases h with
  | turn phase hold hnew =>
    refine ⟨?_, hclass⟩
    simp only [framesOf, frames, hold, hnew]
  | @takeCtrl item rest hold hqueue =>
    refine ⟨?_, fun heq x hx => ?_, hclass.2⟩
    · simp only [framesOf, frames_of_inFlight hold, hqueue]
      simp only [frames, inFlight, List.append_assoc, List.nil_append, List.cons_append]
    · exact hclass.1 heq x (by rw [hqueue]; exact List.mem_cons_of_mem _ hx)
  | @takeBulk item rest hold hqueue =>
    refine ⟨?_, hclass.1, fun hne x hx => ?_⟩
    · simp only [framesOf, frames_of_inFlight hold, hqueue]
      by_cases howner : item.owner = i
      · -- the frame overtakes the control queue, which holds no frame of this stream
        have hcls : cls = .bulk := by
          by_contra hne
          exact hclass.2 hne item (by rw [hqueue]; exact List.mem_cons_self) howner
        have hctrl := filter_owner_eq_nil (hclass.1 hcls)
        simp [frames, inFlight, hctrl, howner]
      · simp [frames, inFlight, howner]
    · exact hclass.2 hne x (by rw [hqueue]; exact List.mem_cons_of_mem _ hx)
  | wrote hold =>
    refine ⟨?_, hclass⟩
    simp only [framesOf, frames, inFlight, hold, List.append_nil]
  | fail hold => exact absurd rfl halive

end MuxConn

end Roboat.Daemon
