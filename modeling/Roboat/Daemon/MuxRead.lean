import Mathlib.Data.List.TakeWhile
import Roboat.Daemon.Manager
import Roboat.Transition.Machine
import Roboat.Transition.Tasks

/-! # A multiplexed connection: its read task and its stream table

`mux_read_task` handles the frames of a connection one after the other. A `StreamOpen` makes a
channel and puts its sender in the table, a `StreamData` is sent to the channel its id has in the
table, and a `StreamClose` takes the entry out. The table is under a lock that the task holds while
it waits for room in a channel. Entries are also inserted by `open_stream` and by the task that
`new_responder` spawns for the `StreamOpen` it was started with, and removed by `close_stream`.

What a channel gets is determined by the frames handled since its sender was inserted: all data for
its id up to the first close (`Delivery`). This holds in every run; what can go wrong is the time
of the insertion. -/

namespace Roboat.Daemon.Demux

variable {s : Inbound}

/-! ## Frames -/

/-- A frame of the peer. `seen` is the number of our frames the peer had received when it sent this
one; no step reads it. -/
structure InFrame where
  frameType : FrameType
  payload : Bytes
  seen : Nat
  deriving DecidableEq, Repr

/-- What the read task takes a frame for. -/
inductive Parsed where
  | streamOpen (id : UInt32) (cls : StreamClass)
  | streamData (id : UInt32) (data : Bytes)
  | streamClose (id : UInt32)
  /-- Another type, or too short. -/
  | ignored
  deriving DecidableEq, Repr

namespace InFrame

def parse (f : InFrame) : Parsed :=
  match f.frameType, f.payload with
  | .streamOpen, payload =>
    match parseOpen payload with
    | some (id, cls) => .streamOpen id cls
    | none => .ignored
  | .streamData, a :: b :: c :: d :: data => .streamData (fromBeBytes a b c d) data
  | .streamClose, a :: b :: c :: d :: _ => .streamClose (fromBeBytes a b c d)
  | _, _ => .ignored

/-- The data a frame carries for a stream. -/
def dataFor (f : InFrame) (id : UInt32) : List Bytes :=
  match f.parse with
  | .streamData i data => if i = id then [data] else []
  | _ => []

def closes (f : InFrame) (id : UInt32) : Bool := f.parse == .streamClose id

end InFrame

/-- A frame among them closes the stream. -/
def closedIn (id : UInt32) (frames : List InFrame) : Bool := frames.any fun f => f.closes id

/-- The data for a stream up to its first close. -/
def dataUntilClose (id : UInt32) (frames : List InFrame) : List Bytes :=
  (frames.takeWhile fun f => !f.closes id).flatMap fun f => f.dataFor id

section Frames

variable {id : UInt32} {f : InFrame} {frames : List InFrame}

theorem dataFor_of_closes (h : f.closes id = true) (i : UInt32) : f.dataFor i = [] := by
  have hparse : f.parse = .streamClose id := beq_iff_eq.mp h
  simp only [InFrame.dataFor, hparse]

theorem dataFor_of_ignored (h : f.parse = .ignored) (id : UInt32) : f.dataFor id = [] := by
  simp only [InFrame.dataFor, h]

theorem closes_of_ignored (h : f.parse = .ignored) (id : UInt32) : f.closes id = false := by
  simp [InFrame.closes, h]

theorem closedIn_append (id : UInt32) (frames : List InFrame) (f : InFrame) :
    closedIn id (frames ++ [f]) = (closedIn id frames || f.closes id) := by
  simp [closedIn]

/-- One more frame adds its data, unless the stream was closed before. -/
theorem dataUntilClose_append (id : UInt32) (frames : List InFrame) (f : InFrame) :
    dataUntilClose id (frames ++ [f]) =
      if closedIn id frames then dataUntilClose id frames
      else dataUntilClose id frames ++ f.dataFor id := by
  unfold dataUntilClose closedIn
  induction frames with
  | nil =>
    cases h : f.closes id with
    | true => simp [h, dataFor_of_closes h]
    | false => simp [h]
  | cons g frames ih =>
    cases hg : g.closes id with
    | true => simp [hg]
    | false =>
      simp only [List.cons_append, List.takeWhile_cons, hg, Bool.not_false, if_true,
        List.flatMap_cons, List.any_cons, Bool.false_or]
      rw [ih]
      split_ifs
      · rfl
      · rw [List.append_assoc]

/-- Without a close it is all the data. -/
theorem dataUntilClose_of_not_closedIn (h : closedIn id frames = false) :
    dataUntilClose id frames = frames.flatMap fun f => f.dataFor id := by
  have hall : frames.takeWhile (fun f => !f.closes id) = frames := by
    refine List.takeWhile_eq_self_iff.mpr fun f hf => ?_
    rw [Bool.not_eq_true', Bool.eq_false_iff]
    exact fun hclose => Bool.eq_false_iff.mp h (List.any_eq_true.mpr ⟨f, hf, hclose⟩)
  rw [dataUntilClose, hall]

end Frames

/-! ## The table, its channels and the read task -/

/-- A receive channel of `mpsc::channel(64)`: what was sent into it, and how much was taken out. The
last two fields are not the code's: the channel was made by this side's `open_stream`, and how many
frames were handled when its sender was inserted. -/
structure Chan where
  id : UInt32
  sent : List Bytes := []
  taken : Nat := 0
  /-- The receiver is dropped. -/
  dropped : Bool := false
  /-- The sender was taken out by `close_stream`, or replaced by another under the same id. -/
  detached : Bool := false
  /-- The sender was replaced by another under the same id. -/
  replaced : Bool := false
  own : Bool
  birth : Nat
  deriving DecidableEq, Repr

/-- The sender was taken out by `close_stream`. -/
def Chan.closedHere (c : Chan) : Bool := c.detached && !c.replaced

/-- Where `mux_read_task` stands. -/
inductive ReadPhase where
  /-- In `read_frame`. -/
  | reading
  /-- It waits for the lock of the table. -/
  | locking (f : InFrame)
  /-- In `process_stream_open`, at the send to `incoming_tx`. -/
  | announcing (ch : Nat)
  /-- It holds the lock and waits for room in a channel. -/
  | sending (f : InFrame) (ch : Nat) (data : Bytes)
  | terminated
  deriving DecidableEq, Repr

/-- The receive side of a connection: frames on the wire, frames handled, the read task, the table
`streams` and the channels. -/
structure Inbound where
  wire : List InFrame
  handled : List InFrame
  reader : ReadPhase
  table : UInt32 → Option Nat
  chans : List Chan

inductive InboundStep where
  /-- A frame of the peer arrives. -/
  | arrive (f : InFrame)
  | read
  | lock
  | announce (ok : Bool)
  | deliver
  /-- End of file, an I/O error or an invalid frame. -/
  | fail
  /-- Another task inserts an entry. -/
  | insert (id : UInt32) (own : Bool)
  /-- `close_stream` removes an entry. -/
  | remove (id : UInt32)
  /-- The holder of a receiver takes data. -/
  | recv (ch : Nat)
  /-- The holder of a receiver drops it. -/
  | drop (ch : Nat)
  deriving DecidableEq, Repr

namespace Inbound

def empty : Inbound := ⟨[], [], .reading, fun _ => none, []⟩

/-- The read task holds the lock of the table. -/
def locked (s : Inbound) : Bool :=
  match s.reader with
  | .sending _ _ _ => true
  | _ => false

/-- The channels, with the sender under `id` marked as gone: replaced, or closed. -/
def detach (s : Inbound) (id : UInt32) (replaced : Bool) : List Chan :=
  match s.table id with
  | some ch => s.chans.modify ch fun c =>
    { c with detached := true, replaced := c.replaced || replaced }
  | none => s.chans

/-- A new channel, and its sender in the table. -/
def insert (s : Inbound) (id : UInt32) (own : Bool) : Inbound :=
  { s with
    table := Function.update s.table id (some s.chans.length)
    chans := s.detach id true ++ [{ id := id, own := own, birth := s.handled.length }] }

def remove (s : Inbound) (id : UInt32) : Inbound :=
  { s with table := Function.update s.table id none, chans := s.detach id false }

def setChan (s : Inbound) (ch : Nat) (c : Chan) : Inbound := { s with chans := s.chans.set ch c }

def dropReceiver (s : Inbound) (ch : Nat) : Inbound :=
  match s.chans[ch]? with
  | some c => s.setChan ch { c with dropped := true }
  | none => s

/-- The read task is done with a frame. -/
def finish (s : Inbound) (f : InFrame) : Inbound :=
  { s with handled := s.handled ++ [f], reader := .reading }

/-- `process_stream_open` of the read task, up to the send to `incoming_tx`. -/
def processStreamOpen (s : Inbound) (f : InFrame) (id : UInt32) : Inbound :=
  { s.insert id false with handled := s.handled ++ [f], reader := .announcing s.chans.length }

/-- What the read task does with a frame once it has the lock. -/
def handle (s : Inbound) (f : InFrame) : Inbound :=
  match f.parse with
  | .streamOpen id _ => s.processStreamOpen f id
  | .streamData id data =>
    match s.table id with
    -- the lock is kept until there is room in the channel
    | some ch => { s with reader := .sending f ch data }
    -- data for an unknown id is discarded
    | none => s.finish f
  | .streamClose id => { s with table := Function.update s.table id none }.finish f
  | .ignored => s.finish f

def step (s : Inbound) : InboundStep → Option Inbound
  | .arrive f => some { s with wire := s.wire ++ [f] }
  | .read =>
    match s.reader, s.wire with
    | .reading, f :: rest =>
      if f.parse = .ignored then some ({ s with wire := rest }.finish f)
      else some { s with wire := rest, reader := .locking f }
    | _, _ => none
  | .lock =>
    match s.reader with
    | .locking f => some (s.handle f)
    | _ => none
  | .announce ok =>
    match s.reader with
    | .announcing ch =>
      -- a failed send drops the receiver with the notification
      some { (if ok then s else s.dropReceiver ch) with reader := .reading }
    | _ => none
  | .deliver =>
    match s.reader with
    | .sending f ch data => s.chans[ch]?.bind fun c =>
      if c.dropped = true then some (s.finish f)
      else if c.sent.length < c.taken + channelCapacity then
        some ((s.setChan ch { c with sent := c.sent ++ [data] }).finish f)
      else none
    | _ => none
  | .fail => if s.reader = .reading then some { s with reader := .terminated } else none
  | .insert id own => if s.locked then none else some (s.insert id own)
  | .remove id => if s.locked then none else some (s.remove id)
  | .recv ch => s.chans[ch]?.bind fun c =>
    if c.dropped = false ∧ c.taken < c.sent.length then
      some (s.setChan ch { c with taken := c.taken + 1 })
    else none
  | .drop ch => if ch < s.chans.length then some (s.dropReceiver ch) else none

end Inbound

/-- A step of the receive side, by what it does. -/
inductive Move (s : Inbound) : InboundStep → Inbound → Prop
  | arrive (f : InFrame) : Move s (.arrive f) { s with wire := s.wire ++ [f] }
  | skip {f : InFrame} {rest : List InFrame} (hreader : s.reader = .reading)
      (hwire : s.wire = f :: rest) (hparse : f.parse = .ignored) :
    Move s .read ({ s with wire := rest }.finish f)
  | take {f : InFrame} {rest : List InFrame} (hreader : s.reader = .reading)
      (hwire : s.wire = f :: rest) (hparse : f.parse ≠ .ignored) :
    Move s .read { s with wire := rest, reader := .locking f }
  | processStreamOpen {f : InFrame} {id : UInt32} {cls : StreamClass}
      (hreader : s.reader = .locking f) (hparse : f.parse = .streamOpen id cls) :
    Move s .lock (s.processStreamOpen f id)
  | find {f : InFrame} {id : UInt32} {data : Bytes} {ch : Nat} (hreader : s.reader = .locking f)
      (hparse : f.parse = .streamData id data) (htable : s.table id = some ch) :
    Move s .lock { s with reader := .sending f ch data }
  | unknown {f : InFrame} {id : UInt32} {data : Bytes} (hreader : s.reader = .locking f)
      (hparse : f.parse = .streamData id data) (htable : s.table id = none) :
    Move s .lock (s.finish f)
  | close {f : InFrame} {id : UInt32} (hreader : s.reader = .locking f)
      (hparse : f.parse = .streamClose id) :
    Move s .lock ({ s with table := Function.update s.table id none }.finish f)
  | skipLocked {f : InFrame} (hreader : s.reader = .locking f) (hparse : f.parse = .ignored) :
    Move s .lock (s.finish f)
  | announce {ch : Nat} (ok : Bool) (hreader : s.reader = .announcing ch) :
    Move s (.announce ok) { (if ok then s else s.dropReceiver ch) with reader := .reading }
  /-- Data is sent into the channel, or lost if its receiver is gone. -/
  | deliver {f : InFrame} {ch : Nat} {data : Bytes} {c c' : Chan}
      (hreader : s.reader = .sending f ch data) (hc : s.chans[ch]? = some c)
      (hc' : (c.dropped = true ∧ c' = c) ∨ c' = { c with sent := c.sent ++ [data] }) :
    Move s .deliver ((s.setChan ch c').finish f)
  | fail (hreader : s.reader = .reading) : Move s .fail { s with reader := .terminated }
  | insert (id : UInt32) (own : Bool) (hlock : s.locked = false) :
    Move s (.insert id own) (s.insert id own)
  | remove (id : UInt32) (hlock : s.locked = false) : Move s (.remove id) (s.remove id)
  | recv {ch : Nat} {c : Chan} (hc : s.chans[ch]? = some c) :
    Move s (.recv ch) (s.setChan ch { c with taken := c.taken + 1 })
  | drop (ch : Nat) : Move s (.drop ch) (s.dropReceiver ch)

theorem setChan_self {ch : Nat} {c : Chan} (hc : s.chans[ch]? = some c) : s.setChan ch c = s := by
  obtain ⟨hlt, rfl⟩ := List.getElem?_eq_some_iff.mp hc
  unfold Inbound.setChan
  rw [List.set_getElem_self]

/-- Every step of the reader's side is one of the moves. -/
theorem move_of_step {t : Inbound} {a : InboundStep} (hstep : s.step a = some t) : Move s a t := by
  cases a with
  | arrive f =>
    cases hstep
    exact .arrive f
  | read =>
    simp only [Inbound.step] at hstep
    split at hstep
    · rename_i f rest hreader hwire
      split_ifs at hstep with hparse
      · cases hstep
        exact .skip hreader hwire hparse
      · cases hstep
        exact .take hreader hwire hparse
    · cases hstep
  | lock =>
    simp only [Inbound.step] at hstep
    split at hstep
    · rename_i f hreader
      cases hstep
      unfold Inbound.handle
      split
      · rename_i hparse
        exact .processStreamOpen hreader hparse
      · rename_i hparse
        split
        · rename_i htable
          exact .find hreader hparse htable
        · rename_i htable
          exact .unknown hreader hparse htable
      · rename_i hparse
        exact .close hreader hparse
      · rename_i hparse
        exact .skipLocked hreader hparse
    · cases hstep
  | announce ok =>
    simp only [Inbound.step] at hstep
    split at hstep
    · rename_i ch hreader
      cases hstep
      exact .announce ok hreader
    · cases hstep
  | deliver =>
    simp only [Inbound.step] at hstep
    split at hstep
    · rename_i f ch data hreader
      obtain ⟨c, hc, hstep⟩ := Option.bind_eq_some_iff.mp hstep
      split_ifs at hstep with hdropped
      · cases hstep
        have hmove := Move.deliver hreader hc (Or.inl ⟨hdropped, rfl⟩)
        rwa [setChan_self hc] at hmove
      · cases hstep
        exact .deliver hreader hc (Or.inr rfl)
    · cases hstep
  | fail =>
    simp only [Inbound.step] at hstep
    split_ifs at hstep with hreader
    cases hstep
    exact .fail hreader
  | insert id own =>
    simp only [Inbound.step] at hstep
    split_ifs at hstep with hlock
    cases hstep
    exact .insert id own (Bool.eq_false_iff.mpr hlock)
  | remove id =>
    simp only [Inbound.step] at hstep
    split_ifs at hstep with hlock
    cases hstep
    exact .remove id (Bool.eq_false_iff.mpr hlock)
  | recv ch =>
    obtain ⟨c, hc, hstep⟩ := Option.bind_eq_some_iff.mp hstep
    split_ifs at hstep
    cases hstep
    exact .recv hc
  | drop ch =>
    simp only [Inbound.step] at hstep
    split_ifs at hstep
    cases hstep
    exact .drop ch

/-- A task that does not find the lock taken is not waiting for room in a channel. -/
theorem not_sending_of_not_locked (h : s.locked = false) :
    ∀ f ch data, s.reader ≠ .sending f ch data := by
  intro f ch data hreader
  rw [Inbound.locked, hreader] at h
  cases h

/-! ## What a channel gets -/

/-- A channel whose sender was not taken away is in the table exactly until its close is handled,
and has got the data up to there. -/
def Kept (table : UInt32 → Option Nat) (handled : List InFrame) (ch : Nat) (c : Chan) : Prop :=
  (table c.id = some ch ↔ closedIn c.id (handled.drop c.birth) = false) ∧
    (c.dropped = false → c.sent = dataUntilClose c.id (handled.drop c.birth))

/-- The invariant of the receive side. -/
structure Delivery (s : Inbound) : Prop where
  table : ∀ id ch, s.table id = some ch →
    ∃ c, s.chans[ch]? = some c ∧ c.id = id ∧ c.detached = false
  birth : ∀ (ch : Nat) (c : Chan), s.chans[ch]? = some c → c.birth ≤ s.handled.length
  kept : ∀ (ch : Nat) (c : Chan), s.chans[ch]? = some c → c.detached = false →
    Kept s.table s.handled ch c
  sending : ∀ f ch data, s.reader = .sending f ch data →
    ∃ c, s.chans[ch]? = some c ∧ f.parse = .streamData c.id data ∧ s.table c.id = some ch

section Kept

variable {table table' : UInt32 → Option Nat} {handled : List InFrame} {ch : Nat} {c c' : Chan}
  {f : InFrame}

/-- A channel after one more frame: a close takes its sender out, and data goes to it as long as its
sender is in the table. -/
theorem Kept.append (h : Kept table handled ch c) (hbirth : c.birth ≤ handled.length)
    (hid : c'.id = c.id) (hbirth' : c'.birth = c.birth) (hdropped : c'.dropped = c.dropped)
    (htable : table' c.id = some ch ↔ table c.id = some ch ∧ f.closes c.id = false)
    (hsent : c.dropped = false →
      c'.sent = if table c.id = some ch then c.sent ++ f.dataFor c.id else c.sent) :
    Kept table' (handled ++ [f]) ch c' := by
  unfold Kept
  rw [hid, hbirth', hdropped, List.drop_append_of_le_length hbirth, closedIn_append,
    dataUntilClose_append, htable, h.1, Bool.or_eq_false_iff]
  refine ⟨Iff.rfl, fun halive => ?_⟩
  rw [hsent halive, h.2 halive]
  cases hclosed : closedIn c.id (handled.drop c.birth) with
  | true => rw [if_neg (fun hin => by rw [h.1.mp hin] at hclosed; cases hclosed), if_pos rfl]
  | false => rw [if_pos (h.1.mpr hclosed), if_neg (by decide)]

/-- A frame that has nothing for the channel. -/
theorem Kept.skip (h : Kept table handled ch c) (hbirth : c.birth ≤ handled.length)
    (hdata : table c.id = some ch → f.dataFor c.id = []) (hclose : f.closes c.id = false) :
    Kept table (handled ++ [f]) ch c := by
  refine h.append hbirth rfl rfl rfl ⟨fun hin => ⟨hin, hclose⟩, fun hin => hin.1⟩ fun _ => ?_
  split_ifs with hin
  · rw [hdata hin, List.append_nil]
  · rfl

end Kept

section Steps

variable {s t : Inbound} {id : UInt32} {replaced : Bool} {ch i : Nat} {c c' : Chan} {f : InFrame}
  {a : InboundStep}

theorem delivery_empty : Delivery .empty :=
  ⟨fun _ _ h => (nomatch h), fun _ _ h => (nomatch h), fun _ _ h => (nomatch h),
    fun _ _ _ h => (nomatch h)⟩

/-- An entry of the channels after a sender was marked as gone: it is an old one, marked if it was
the one in the table. -/
theorem of_detach (h : (s.detach id replaced)[ch]? = some c) :
    ∃ old, s.chans[ch]? = some old ∧ (c = old ∧ s.table id ≠ some ch ∨
      c = { old with detached := true, replaced := old.replaced || replaced } ∧
        s.table id = some ch) := by
  unfold Inbound.detach at h
  split at h
  · rename_i ch' hch'
    rw [List.getElem?_modify] at h
    obtain ⟨old, hold, heq⟩ := Option.map_eq_some_iff.mp h
    split_ifs at heq with hsame
    · exact ⟨old, hold, Or.inr ⟨heq.symm, hsame ▸ hch'⟩⟩
    · refine ⟨old, hold, Or.inl ⟨heq.symm, ?_⟩⟩
      rw [hch']
      exact fun hin => hsame (Option.some.inj hin)
  · rename_i hnone
    refine ⟨c, h, Or.inl ⟨rfl, ?_⟩⟩
    rw [hnone]
    exact nofun

@[simp] theorem length_detach (s : Inbound) (id : UInt32) (replaced : Bool) :
    (s.detach id replaced).length = s.chans.length := by
  unfold Inbound.detach
  split <;> simp

/-- The other channels are not marked. -/
theorem detach_other (h : s.table id ≠ some ch) : (s.detach id replaced)[ch]? = s.chans[ch]? := by
  unfold Inbound.detach
  split
  · rename_i ch' hch'
    have hne : ch' ≠ ch := fun hsame => h (hch'.trans (congrArg some hsame))
    exact List.getElem?_modify_ne _ _ hne
  · rfl

/-- A step that touches neither the table nor the channels nor the handled frames. -/
theorem Delivery.of_same (h : Delivery s) (htable : t.table = s.table)
    (hhandled : t.handled = s.handled) (hchans : t.chans = s.chans)
    (hreader : ∀ f ch data, t.reader ≠ .sending f ch data) : Delivery t where
  table := by rw [htable, hchans]; exact h.table
  birth := by rw [hhandled, hchans]; exact h.birth
  kept := by rw [htable, hhandled, hchans]; exact h.kept
  sending f ch data hsend := absurd hsend (hreader f ch data)

/-- The senders in the table, after a channel was overwritten that keeps its id and its sender. -/
theorem Delivery.table_setChan (h : Delivery s) (hc : s.chans[ch]? = some c) (hid : c'.id = c.id)
    (hdetached : c'.detached = c.detached) {j : Nat} (hj : s.table id = some j) :
    ∃ d, (s.setChan ch c').chans[j]? = some d ∧ d.id = id ∧ d.detached = false := by
  refine Tasks.exists_set hc (fun _ hold => ?_) (h.table id j hj)
  exact ⟨hid.trans hold.1, hdetached.trans hold.2⟩

/-- The holder of a receiver does something with it. -/
theorem Delivery.setChan (h : Delivery s) (hc : s.chans[ch]? = some c) (hid : c'.id = c.id)
    (hbirth : c'.birth = c.birth) (hdetached : c'.detached = c.detached) (hsent : c'.sent = c.sent)
    (hdropped : c'.dropped = false → c.dropped = false) : Delivery (s.setChan ch c') where
  table id j hj := h.table_setChan hc hid hdetached hj
  birth j d hd := by
    rcases Tasks.of_set hd with ⟨-, rfl⟩ | ⟨-, hold⟩
    · exact hbirth ▸ h.birth ch c hc
    · exact h.birth j d hold
  kept j d hd hdet := by
    rcases Tasks.of_set hd with ⟨rfl, rfl⟩ | ⟨-, hold⟩
    · have hkept := h.kept j c hc (hdetached.symm.trans hdet)
      unfold Kept at hkept ⊢
      rw [hid, hbirth, hsent]
      exact ⟨hkept.1, fun halive => hkept.2 (hdropped halive)⟩
    · exact h.kept j d hold hdet
  sending f j data hsend := by
    -- the channel the read task is sending into may be the one in hand
    refine Tasks.exists_set hc (fun _ hold => ?_) (h.sending f j data hsend)
    rw [hid]
    exact hold

/-- Dropping a receiver keeps the delivery invariant. -/
theorem Delivery.dropReceiver (h : Delivery s) (ch : Nat) : Delivery (s.dropReceiver ch) := by
  unfold Inbound.dropReceiver
  split
  · rename_i c hc
    exact h.setChan hc rfl rfl rfl rfl nofun
  · exact h

/-- The sender under an id is taken away: what stays in the table, or loses its sender to a close,
is as it was. -/
theorem Delivery.of_detach (h : Delivery s) (hc : (s.detach id replaced)[ch]? = some c)
    (hdet : c.detached = false) :
    s.chans[ch]? = some c ∧ s.table id ≠ some ch ∧ Kept s.table s.handled ch c := by
  obtain ⟨old, hold, ⟨rfl, hother⟩ | ⟨rfl, -⟩⟩ := Demux.of_detach hc
  · exact ⟨hold, hother, h.kept ch c hold hdet⟩
  · cases hdet

/-- The senders under other ids stay. -/
theorem Delivery.table_detach (h : Delivery s) {i : UInt32} (hi : i ≠ id)
    (hin : s.table i = some ch) :
    ∃ c, (s.detach id replaced)[ch]? = some c ∧ c.id = i ∧ c.detached = false := by
  obtain ⟨c, hc, rfl, hdet⟩ := h.table i ch hin
  -- a channel has one id, so it is not the one under `id`
  have hother : s.table id ≠ some ch := by
    intro hsame
    obtain ⟨d, hd, rfl, -⟩ := h.table id ch hsame
    exact hi (congrArg Chan.id (Option.some.inj (hc.symm.trans hd)))
  exact ⟨c, (detach_other hother).trans hc, rfl, hdet⟩

theorem Delivery.birth_detach (h : Delivery s) (hc : (s.detach id replaced)[ch]? = some c) :
    c.birth ≤ s.handled.length := by
  obtain ⟨old, hold, ⟨rfl, -⟩ | ⟨rfl, -⟩⟩ := Demux.of_detach hc
  · exact h.birth ch c hold
  · exact h.birth ch old hold

/-- The channel of an insertion. -/
theorem chan_inserted (s : Inbound) (id : UInt32) (own : Bool) :
    (s.insert id own).chans[s.chans.length]? =
      some { id := id, own := own, birth := s.handled.length } := by
  have hlast : (s.detach id true ++ [({ id := id, own := own, birth := s.handled.length } : Chan)])[
      (s.detach id true).length]? = some _ := List.getElem?_concat_length
  rw [length_detach] at hlast
  exact hlast

/-- Inserting a channel keeps the delivery invariant. -/
theorem Delivery.insert (h : Delivery s) (id : UInt32) (own : Bool)
    (hreader : ∀ f ch data, s.reader ≠ .sending f ch data) : Delivery (s.insert id own) where
  table i ch hin := by
    by_cases hi : i = id
    · subst hi
      have hnew : some s.chans.length = some ch :=
        (Function.update_self i _ s.table).symm.trans hin
      cases hnew
      exact ⟨_, chan_inserted s i own, rfl, rfl⟩
    · have hold : s.table i = some ch := (Function.update_of_ne hi _ s.table).symm.trans hin
      obtain ⟨c, hc, hid, hdet⟩ := h.table_detach hi hold
      exact ⟨c, Tasks.append_of_some hc, hid, hdet⟩
  birth ch c hc := by
    rcases Tasks.of_append hc with ⟨-, rfl⟩ | ⟨-, hold⟩
    · exact le_rfl
    · exact h.birth_detach hold
  kept ch c hc hdet := by
    rcases Tasks.of_append hc with ⟨hch, rfl⟩ | ⟨hlt, hold⟩
    · -- the new channel: nothing was handled since
      rw [length_detach] at hch
      subst hch
      have hdrop : s.handled.drop s.handled.length = [] := List.drop_length
      refine ⟨⟨fun _ => by rw [Inbound.insert, hdrop]; rfl,
        fun _ => Function.update_self id _ s.table⟩, fun _ => ?_⟩
      rw [Inbound.insert, hdrop]
      rfl
    · obtain ⟨-, hother, hkept⟩ := h.of_detach hold hdet
      rw [length_detach] at hlt
      refine ⟨Iff.trans ?_ hkept.1, hkept.2⟩
      by_cases hid : c.id = id
      · have hnew : (s.insert id own).table c.id = some s.chans.length := by
          rw [hid]
          exact Function.update_self id _ s.table
        rw [hnew, hid]
        exact ⟨fun hsame => absurd (Option.some.inj hsame) (Nat.ne_of_gt hlt),
          fun hsame => absurd hsame hother⟩
      · rw [show (s.insert id own).table c.id = s.table c.id from
          Function.update_of_ne hid _ s.table]
  sending f ch data hsend := absurd hsend (hreader f ch data)

/-- Removing a channel keeps the delivery invariant. -/
theorem Delivery.remove (h : Delivery s) (id : UInt32)
    (hreader : ∀ f ch data, s.reader ≠ .sending f ch data) : Delivery (s.remove id) where
  table i ch hin := by
    by_cases hi : i = id
    · subst hi
      cases (Function.update_self i _ s.table).symm.trans hin
    · exact h.table_detach hi ((Function.update_of_ne hi _ s.table).symm.trans hin)
  birth _ _ hc := h.birth_detach hc
  kept ch c hc hdet := by
    obtain ⟨-, hother, hkept⟩ := h.of_detach hc hdet
    refine ⟨Iff.trans ?_ hkept.1, hkept.2⟩
    by_cases hid : c.id = id
    · have hgone : (s.remove id).table c.id = none := by
        rw [hid]
        exact Function.update_self id _ s.table
      rw [hgone, hid]
      exact ⟨nofun, fun hsame => absurd hsame hother⟩
    · rw [show (s.remove id).table c.id = s.table c.id from Function.update_of_ne hid _ s.table]
  sending f ch data hsend := absurd hsend (hreader f ch data)

/-- A frame is handled that has nothing for the channels in the table. -/
theorem Delivery.skip (h : Delivery s) {reader : ReadPhase}
    (hdata : ∀ id ch, s.table id = some ch → f.dataFor id = []) (hclose : ∀ id, f.closes id = false)
    (hreader : ∀ f ch data, reader ≠ .sending f ch data) :
    Delivery { s with handled := s.handled ++ [f], reader := reader } where
  table := h.table
  birth ch c hc := le_trans (h.birth ch c hc) (by simp)
  kept ch c hc hdet :=
    (h.kept ch c hc hdet).skip (h.birth ch c hc) (hdata c.id ch) (hclose c.id)
  sending f ch data hsend := absurd hsend (hreader f ch data)

/-- A close is handled. -/
theorem Delivery.close (h : Delivery s) (hparse : f.parse = .streamClose id) :
    Delivery ({ s with table := Function.update s.table id none }.finish f) where
  table i ch hin := by
    by_cases hi : i = id
    · subst hi
      cases (Function.update_self i _ s.table).symm.trans hin
    · exact h.table i ch ((Function.update_of_ne hi _ s.table).symm.trans hin)
  birth ch c hc := le_trans (h.birth ch c hc) (by simp [Inbound.finish])
  kept ch c hc hdet := by
    refine (h.kept ch c hc hdet).append (h.birth ch c hc) rfl rfl rfl ?_ fun _ => ?_
    · by_cases hid : c.id = id
      · have hcloses : f.closes c.id = true := beq_iff_eq.mpr (hid ▸ hparse)
        rw [hcloses]
        refine ⟨fun hin => ?_, fun hin => (nomatch hin.2)⟩
        rw [hid] at hin
        cases (Function.update_self id _ s.table).symm.trans hin
      · have hcloses : f.closes c.id = false := by
          refine beq_eq_false_iff_ne.mpr ?_
          rw [hparse]
          exact fun heq => hid (Parsed.streamClose.inj heq).symm
        rw [hcloses]
        exact ⟨fun hin => ⟨(Function.update_of_ne hid _ s.table).symm.trans hin, rfl⟩,
          fun hin => (Function.update_of_ne hid _ s.table).trans hin.1⟩
    · have hnone : f.dataFor c.id = [] := dataFor_of_closes (beq_iff_eq.mpr hparse) c.id
      rw [hnone, List.append_nil, ite_self]
  sending f ch data hsend := nomatch hsend

/-- Data is sent into a channel, or lost because its receiver is gone. -/
theorem Delivery.deliver (h : Delivery s) {data : Bytes} (hreader : s.reader = .sending f ch data)
    (hc : s.chans[ch]? = some c) (hid : c'.id = c.id) (hbirth : c'.birth = c.birth)
    (hdetached : c'.detached = c.detached) (hdropped : c'.dropped = c.dropped)
    (hsent : c.dropped = false → c'.sent = c.sent ++ [data]) :
    Delivery ((s.setChan ch c').finish f) := by
  obtain ⟨d, hd, hparse, hin⟩ := h.sending f ch data hreader
  obtain rfl : c = d := Option.some.inj (hc.symm.trans hd)
  have hclose : ∀ id, f.closes id = false := by
    intro id
    refine beq_eq_false_iff_ne.mpr ?_
    rw [hparse]
    exact nofun
  refine ⟨fun id j hj => ?_, fun j d hd => ?_, fun j d hd hdet => ?_,
    fun _ _ _ hsend => nomatch hsend⟩
  · exact h.table_setChan hc hid hdetached hj
  · have hlen : s.handled.length ≤ (s.handled ++ [f]).length := by simp
    rcases Tasks.of_set hd with ⟨-, rfl⟩ | ⟨-, hold⟩
    · exact hbirth ▸ le_trans (h.birth ch c hc) hlen
    · exact le_trans (h.birth j d hold) hlen
  · rcases Tasks.of_set hd with ⟨rfl, rfl⟩ | ⟨hne, hold⟩
    · refine (h.kept j c hc (hdetached.symm.trans hdet)).append (h.birth j c hc) hid hbirth hdropped
        ⟨fun hstill => ⟨hstill, hclose c.id⟩, fun hstill => hstill.1⟩ fun halive => ?_
      have hdata : f.dataFor c.id = [data] := by
        simp only [InFrame.dataFor, hparse, if_true]
      rw [if_pos hin, hdata]
      exact hsent halive
    · -- another channel under this id is not in the table any more
      refine (h.kept j d hold hdet).skip (h.birth j d hold) (fun hstill => ?_) (hclose d.id)
      have hdid : c.id ≠ d.id := by
        intro hsame
        rw [← hsame, hin] at hstill
        exact hne (Option.some.inj hstill).symm
      simp only [InFrame.dataFor, hparse, if_neg hdid]

/-- Every step of the receive side keeps what its channels got. -/
theorem Delivery.step (h : Delivery s) (hstep : s.step a = some t) : Delivery t := by
  cases move_of_step hstep with
  | arrive f => exact ⟨h.table, h.birth, h.kept, h.sending⟩
  | @skip f rest hreader hwire hparse =>
    exact (h.of_same (t := { s with wire := rest }) rfl rfl rfl (by simp [hreader])).skip
      (fun id _ _ => dataFor_of_ignored hparse id) (closes_of_ignored hparse) nofun
  | take | fail => exact h.of_same rfl rfl rfl nofun
  | @processStreamOpen f id cls hreader hparse =>
    exact (h.insert id false (by simp [hreader])).skip
      (fun i _ _ => by simp only [InFrame.dataFor, hparse])
      (fun i => by simp [InFrame.closes, hparse]) nofun
  | @find f id data ch hreader hparse htable =>
    refine ⟨h.table, h.birth, h.kept, fun f' ch' data' hsend => ?_⟩
    cases hsend
    obtain ⟨c, hc, rfl, -⟩ := h.table id ch htable
    exact ⟨c, hc, hparse, htable⟩
  | @unknown f id data hreader hparse htable =>
    refine h.skip (fun i ch hin => ?_) (fun i => by simp [InFrame.closes, hparse]) nofun
    have hne : id ≠ i := by
      rintro rfl
      cases htable.symm.trans hin
    simp only [InFrame.dataFor, hparse, if_neg hne]
  | close hreader hparse => exact h.close hparse
  | skipLocked hreader hparse =>
    exact h.skip (fun id _ _ => dataFor_of_ignored hparse id) (closes_of_ignored hparse) nofun
  | @announce ch ok hreader =>
    cases ok with
    | true => exact h.of_same rfl rfl rfl nofun
    | false => exact (h.dropReceiver ch).of_same rfl rfl rfl nofun
  | deliver hreader hc hc' =>
    rcases hc' with ⟨hdropped, rfl⟩ | rfl
    · refine h.deliver hreader hc rfl rfl rfl rfl fun halive => ?_
      cases hdropped.symm.trans halive
    · exact h.deliver hreader hc rfl rfl rfl rfl fun _ => rfl
  | insert id own hlock => exact h.insert id own (not_sending_of_not_locked hlock)
  | remove id hlock => exact h.remove id (not_sending_of_not_locked hlock)
  | recv hc => exact h.setChan hc rfl rfl rfl rfl id
  | drop ch => exact h.dropReceiver ch

/-! ### What every step leaves alone -/

/-- A channel stays, with its id, its origin and its time of insertion. -/
structure SameChan (c c' : Chan) : Prop where
  id : c'.id = c.id
  own : c'.own = c.own
  birth : c'.birth = c.birth

theorem chan_setChan {d d' : Chan} (hi : s.chans[i]? = some d) (hd : SameChan d d')
    (hc : s.chans[ch]? = some c) : ∃ c', (s.setChan i d').chans[ch]? = some c' ∧ SameChan c c' := by
  refine Tasks.exists_set hi (fun _ hold => ?_) ⟨c, hc, rfl, rfl, rfl⟩
  exact ⟨hd.id.trans hold.id, hd.own.trans hold.own, hd.birth.trans hold.birth⟩

theorem chan_dropReceiver (i : Nat) (hc : s.chans[ch]? = some c) :
    ∃ c', (s.dropReceiver i).chans[ch]? = some c' ∧ SameChan c c' := by
  unfold Inbound.dropReceiver
  split
  · rename_i d hd
    exact chan_setChan hd ⟨rfl, rfl, rfl⟩ hc
  · exact ⟨c, hc, rfl, rfl, rfl⟩

theorem chan_detach (id : UInt32) (replaced : Bool) (hc : s.chans[ch]? = some c) :
    ∃ c', (s.detach id replaced)[ch]? = some c' ∧ SameChan c c' := by
  have hlt : ch < (s.detach id replaced).length := by
    rw [length_detach]
    exact (List.getElem?_eq_some_iff.mp hc).1
  obtain ⟨c', hc'⟩ := Tasks.exists_of_lt hlt
  obtain ⟨old, hold, ⟨rfl, -⟩ | ⟨rfl, -⟩⟩ := of_detach hc'
  · obtain rfl : c = c' := Option.some.inj (hc.symm.trans hold)
    exact ⟨c, hc', rfl, rfl, rfl⟩
  · obtain rfl : c = old := Option.some.inj (hc.symm.trans hold)
    exact ⟨_, hc', rfl, rfl, rfl⟩

theorem chan_insert (id : UInt32) (own : Bool) (hc : s.chans[ch]? = some c) :
    ∃ c', (s.insert id own).chans[ch]? = some c' ∧ SameChan c c' := by
  obtain ⟨c', hc', hsame⟩ := chan_detach id true hc
  exact ⟨c', Tasks.append_of_some hc', hsame⟩

/-- A step keeps every channel, with its stream and its birth. -/
theorem chan_of_step (hstep : s.step a = some t) (hc : s.chans[ch]? = some c) :
    ∃ c', t.chans[ch]? = some c' ∧ SameChan c c' := by
  cases move_of_step hstep with
  | processStreamOpen => exact chan_insert _ false hc
  | @announce i ok =>
    cases ok with
    | true => exact ⟨c, hc, rfl, rfl, rfl⟩
    | false => exact chan_dropReceiver i hc
  | deliver _ hi hc' =>
    rcases hc' with ⟨-, rfl⟩ | rfl
    · exact chan_setChan hi ⟨rfl, rfl, rfl⟩ hc
    · exact chan_setChan hi ⟨rfl, rfl, rfl⟩ hc
  | insert id own => exact chan_insert id own hc
  | remove id => exact chan_detach id false hc
  | recv hi => exact chan_setChan hi ⟨rfl, rfl, rfl⟩ hc
  | drop i => exact chan_dropReceiver i hc
  | _ => exact ⟨c, hc, rfl, rfl, rfl⟩

/-- The id under which a step of the receive side inserts a sender. -/
def Inbound.inserts (s : Inbound) : InboundStep → Option UInt32
  | .lock =>
    match s.reader with
    | .locking f =>
      match f.parse with
      | .streamOpen id _ => some id
      | _ => none
    | _ => none
  | .insert id _ => some id
  | _ => none

/-- An insertion under an id replaces only the sender that is there. -/
theorem not_replaced_insert {own : Bool} (hc : s.chans[ch]? = some c)
    (hc' : (s.insert id own).chans[ch]? = some c') (hother : s.table id ≠ some ch)
    (h : c.replaced = false) : c'.replaced = false := by
  have hlt : ch < (s.detach id true).length := by
    rw [length_detach]
    exact (List.getElem?_eq_some_iff.mp hc).1
  rcases Tasks.of_append hc' with ⟨hnew, -⟩ | ⟨-, hold⟩
  · exact absurd hnew (Nat.ne_of_lt hlt)
  · obtain rfl : c = c' := Option.some.inj (hc.symm.trans ((detach_other hother).symm.trans hold))
    exact h

theorem not_replaced_setChan {d d' : Chan} (hi : s.chans[i]? = some d) (hc : s.chans[ch]? = some c)
    (hc' : (s.setChan i d').chans[ch]? = some c') (hd : d'.replaced = d.replaced)
    (h : c.replaced = false) : c'.replaced = false := by
  rcases Tasks.of_set hc' with ⟨rfl, rfl⟩ | ⟨-, hold⟩
  · obtain rfl : c = d := Option.some.inj (hc.symm.trans hi)
    exact hd.trans h
  · obtain rfl : c = c' := Option.some.inj (hc.symm.trans hold)
    exact h

theorem not_replaced_dropReceiver (hc : s.chans[ch]? = some c)
    (hc' : (s.dropReceiver i).chans[ch]? = some c') (h : c.replaced = false) :
    c'.replaced = false := by
  unfold Inbound.dropReceiver at hc'
  split at hc'
  · rename_i d hd
    exact not_replaced_setChan hd hc hc' rfl h
  · obtain rfl : c = c' := Option.some.inj (hc.symm.trans hc')
    exact h

theorem not_replaced_remove (hc : s.chans[ch]? = some c) (hc' : (s.remove id).chans[ch]? = some c')
    (h : c.replaced = false) : c'.replaced = false := by
  obtain ⟨old, hold, ⟨rfl, -⟩ | ⟨rfl, -⟩⟩ := of_detach hc'
  all_goals
    obtain rfl : c = _ := Option.some.inj (hc.symm.trans hold)
    simpa using h

/-- A sender is replaced only by a step that inserts another under its id. -/
theorem not_replaced_of_step (hstep : s.step a = some t)
    (hother : ∀ id ∈ s.inserts a, s.table id ≠ some ch) (hc : s.chans[ch]? = some c)
    (hc' : t.chans[ch]? = some c') (h : c.replaced = false) : c'.replaced = false := by
  -- a step that leaves the channels alone
  have hsame : t.chans = s.chans → c'.replaced = false := by
    intro hchans
    obtain rfl : c = c' := Option.some.inj (hc.symm.trans (hchans ▸ hc'))
    exact h
  cases move_of_step hstep with
  | @processStreamOpen f id cls hreader hparse =>
    refine not_replaced_insert hc hc' (hother id ?_) h
    simp [Inbound.inserts, hreader, hparse]
  | @announce i ok =>
    cases ok with
    | true => exact hsame rfl
    | false => exact not_replaced_dropReceiver hc hc' h
  | deliver _ hi hnew =>
    rcases hnew with ⟨-, rfl⟩ | rfl
    · exact not_replaced_setChan hi hc hc' rfl h
    · exact not_replaced_setChan hi hc hc' rfl h
  | insert id own => exact not_replaced_insert hc hc' (hother id rfl) h
  | remove => exact not_replaced_remove hc hc' h
  | recv hi => exact not_replaced_setChan hi hc hc' rfl h
  | drop => exact not_replaced_dropReceiver hc hc' h
  | _ => exact hsame rfl

theorem table_dropReceiver (s : Inbound) (ch : Nat) : (s.dropReceiver ch).table = s.table := by
  unfold Inbound.dropReceiver
  split <;> rfl

theorem reader_dropReceiver (s : Inbound) (ch : Nat) : (s.dropReceiver ch).reader = s.reader := by
  unfold Inbound.dropReceiver
  split <;> rfl

theorem wire_dropReceiver (s : Inbound) (ch : Nat) : (s.dropReceiver ch).wire = s.wire := by
  unfold Inbound.dropReceiver
  split <;> rfl

theorem handled_dropReceiver (s : Inbound) (ch : Nat) :
    (s.dropReceiver ch).handled = s.handled := by
  unfold Inbound.dropReceiver
  split <;> rfl

/-- The frame the read task has looked up and is sending. -/
@[simp] def ReadPhase.sendingFrame : ReadPhase → List InFrame
  | sending f _ _ => [f]
  | _ => []

/-- The frame the read task is going to look up. -/
@[simp] def ReadPhase.lockingFrame : ReadPhase → List InFrame
  | locking f => [f]
  | _ => []

/-- The frames the read task is done with, or has looked up. -/
def Inbound.looked (s : Inbound) : List InFrame := s.handled ++ s.reader.sendingFrame

/-- The frames so far, in the order in which they arrived. -/
def Inbound.frames (s : Inbound) : List InFrame := s.looked ++ s.reader.lockingFrame ++ s.wire

theorem handled_subset_looked (s : Inbound) : s.handled ⊆ s.looked := List.subset_append_left _ _

theorem looked_subset_frames (s : Inbound) : s.looked ⊆ s.frames := by
  unfold Inbound.frames
  rw [List.append_assoc]
  exact List.subset_append_left _ _

theorem looked_dropReceiver (s : Inbound) (ch : Nat) : (s.dropReceiver ch).looked = s.looked := by
  unfold Inbound.looked
  rw [handled_dropReceiver, reader_dropReceiver]

theorem frames_dropReceiver (s : Inbound) (ch : Nat) : (s.dropReceiver ch).frames = s.frames := by
  unfold Inbound.frames
  rw [looked_dropReceiver, reader_dropReceiver, wire_dropReceiver]

/-- The read task handles frames in the order in which they arrived, and loses none. -/
theorem frames_of_step (hstep : s.step a = some t) :
    t.frames = s.frames ∨ ∃ f, a = .arrive f ∧ t.frames = s.frames ++ [f] := by
  cases move_of_step hstep with
  | arrive f => exact Or.inr ⟨f, rfl, (List.append_assoc _ _ _).symm⟩
  | skip hreader hwire =>
    left
    simp [Inbound.frames, Inbound.looked, Inbound.finish, hreader, hwire]
  | take hreader hwire =>
    left
    simp [Inbound.frames, Inbound.looked, hreader, hwire]
  | processStreamOpen hreader =>
    left
    simp [Inbound.frames, Inbound.looked, Inbound.processStreamOpen, Inbound.insert, hreader]
  | find hreader | fail hreader =>
    left
    simp [Inbound.frames, Inbound.looked, hreader]
  | unknown hreader | close hreader | skipLocked hreader =>
    left
    simp [Inbound.frames, Inbound.looked, Inbound.finish, hreader]
  | @announce ch ok hreader =>
    left
    cases ok with
    | true =>
      simp [Inbound.frames, Inbound.looked, hreader]
    | false =>
      rw [← frames_dropReceiver s ch]
      simp [Inbound.frames, Inbound.looked, hreader, reader_dropReceiver]
  | deliver hreader =>
    left
    simp [Inbound.frames, Inbound.looked, Inbound.finish, Inbound.setChan, hreader]
  | drop ch => exact Or.inl (frames_dropReceiver s ch)
  | insert | remove | recv => exact Or.inl rfl

/-- The read task looks up at most one frame at a time: the one it waits to look up. Others that it
is done with are ignored. -/
theorem looked_of_step (hstep : s.step a = some t) :
    t.looked = s.looked ∨ ∃ f, t.looked = s.looked ++ [f] ∧
      (f.parse = .ignored ∨ (a = .lock ∧ s.reader = .locking f)) := by
  cases move_of_step hstep with
  | @skip f rest hreader hwire hparse =>
    refine Or.inr ⟨f, ?_, Or.inl hparse⟩
    simp [Inbound.looked, Inbound.finish, hreader]
  | take hreader | fail hreader =>
    left
    simp [Inbound.looked, hreader]
  | @processStreamOpen f _ _ hreader =>
    refine Or.inr ⟨f, ?_, Or.inr ⟨rfl, hreader⟩⟩
    simp [Inbound.looked, Inbound.processStreamOpen, Inbound.insert, hreader]
  | @find f _ _ _ hreader =>
    refine Or.inr ⟨f, ?_, Or.inr ⟨rfl, hreader⟩⟩
    simp [Inbound.looked, hreader]
  | @unknown f _ _ hreader | @close f _ hreader | @skipLocked f hreader =>
    refine Or.inr ⟨f, ?_, Or.inr ⟨rfl, hreader⟩⟩
    simp [Inbound.looked, Inbound.finish, hreader]
  | @announce ch ok hreader =>
    left
    cases ok with
    | true => simp [Inbound.looked, hreader]
    | false => simp [Inbound.looked, hreader, handled_dropReceiver]
  | deliver hreader =>
    left
    simp [Inbound.looked, Inbound.finish, Inbound.setChan, hreader]
  | drop ch => exact Or.inl (looked_dropReceiver s ch)
  | arrive | insert | remove | recv => exact Or.inl rfl

/-- What was handled stays at the front. -/
theorem handled_prefix (hstep : s.step a = some t) : s.handled <+: t.handled := by
  cases move_of_step hstep with
  | @announce ch ok =>
    cases ok with
    | true => exact List.prefix_rfl
    | false => exact (handled_dropReceiver s ch) ▸ List.prefix_rfl
  | drop ch => exact (handled_dropReceiver s ch) ▸ List.prefix_rfl
  | skip | processStreamOpen | unknown | close | skipLocked | deliver =>
    exact List.prefix_append _ _
  | _ => exact List.prefix_rfl

/-- The handled frames only grow at their end. -/
theorem take_handled_of_step {n : Nat} (hstep : s.step a = some t) (hn : n ≤ s.handled.length) :
    t.handled.take n = s.handled.take n := by
  obtain ⟨new, hnew⟩ := handled_prefix hstep
  rw [← hnew, List.take_append_of_le_length hn]

end Steps

end Roboat.Daemon.Demux
