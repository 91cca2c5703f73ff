import Mathlib.Data.List.Induction
import Roboat.Daemon.MuxRead

/-! # A multiplexed connection: start-up and end

The tasks of one `MuxConn` together: the read task, the write task, the task that `new_responder`
spawns for the first `StreamOpen`, `open_stream` and `close_stream` calls, the holders of the
receivers, and the peer, which receives our frames in the order they were written and sends frames
of its own.

Two defects show here. The first stream of a responder is inserted by a task of its own while the
read task already handles the frames behind its `StreamOpen`: data that is handled first is lost,
and a close that is handled first is forgotten. And a read task that ends leaves all senders in the
table, so that no receiver ever comes to its end. -/

namespace Roboat.Daemon.Demux

/-- The task of `new_responder`. -/
inductive FirstOpen where
  /-- There is none: the connection is an initiator's. -/
  | absent
  /-- Before the insertion. -/
  | pending (payload : Bytes)
  /-- At the send to `incoming_tx`. -/
  | announcing (ch : Nat)
  /-- Done; `none` if the payload was too short. -/
  | finished (ch : Option Nat)
  deriving DecidableEq, Repr

/-- The channel the task has made. -/
def FirstOpen.channel : FirstOpen → Option Nat
  | announcing ch => some ch
  | finished ch => ch
  | _ => none

/-- Where a call of `open_stream` stands. -/
inductive OpenPhase where
  | drawn
  /-- Its `StreamOpen` is enqueued, its entry not yet inserted. -/
  | enqueued
  /-- It has returned the receiver. -/
  | inserted (ch : Nat)
  | failed
  deriving DecidableEq, Repr

structure OpenCall where
  id : UInt32
  cls : StreamClass
  phase : OpenPhase := .drawn
  deriving DecidableEq, Repr

/-- A connection with its tasks and its peer. -/
structure State where
  /-- The write side. -/
  conn : MuxConn
  /-- How many of our frames the peer has received. -/
  peerSeen : Nat
  inbound : Inbound
  first : FirstOpen
  opens : List OpenCall
  /-- Calls of `close_stream` that have not removed their entry yet. -/
  closing : List UInt32

inductive Step where
  /-- A step of the read task or of the holder of a receiver. -/
  | inbound (a : InboundStep)
  | peerReceive
  | peerSend (frameType : FrameType) (payload : Bytes)
  | firstOpen
  | firstAnnounce (ok : Bool)
  | openStream (cls : StreamClass)
  | openEnqueue (k : Nat)
  | openInsert (k : Nat)
  | send (owner : Nat) (id : UInt32) (data : Bytes) (cls : StreamClass)
  | close (owner : Nat) (id : UInt32) (cls : StreamClass)
  | closeRemove (j : Nat)
  | write (a : WriterStep)
  deriving DecidableEq, Repr

/-- The steps that change nothing but what is enqueued and which calls are closing. -/
def Step.isEnqueue : Step → Bool
  | send .. => true
  | close .. => true
  | _ => false

/-- The steps of the receive side that are not part of another task's step. -/
def InboundStep.isOwn : InboundStep → Bool
  | arrive _ => false
  | insert _ _ => false
  | remove _ => false
  | _ => true

namespace State

def setInbound (s : State) (inbound : Inbound) : State := { s with inbound := inbound }

def setOpen (s : State) (k : Nat) (call : OpenCall) : State :=
  { s with opens := s.opens.set k call }

/-- The task of `new_responder`: `process_stream_open`, up to the send to `incoming_tx`. -/
def firstOpen (s : State) (payload : Bytes) : Option State :=
  match parseOpen payload with
  | none => some { s with first := .finished none }
  | some (id, _) => (s.inbound.step (.insert id false)).map fun inbound =>
    { s with inbound := inbound, first := .announcing s.inbound.chans.length }

/-- `open_stream`: the `StreamOpen` is enqueued before the entry exists. -/
def openEnqueue (s : State) (k : Nat) (call : OpenCall) : State :=
  match s.conn.enqueue call.cls (.streamOpen k call.id call.cls) with
  | some conn => { s with conn := conn }.setOpen k { call with phase := .enqueued }
  | none => s.setOpen k { call with phase := .failed }

def openInsert (s : State) (k : Nat) (call : OpenCall) : Option State :=
  (s.inbound.step (.insert call.id true)).map fun inbound =>
    (s.setInbound inbound).setOpen k { call with phase := .inserted s.inbound.chans.length }

def step (s : State) : Step → Option State
  | .inbound a => if a.isOwn then (s.inbound.step a).map s.setInbound else none
  | .peerReceive =>
    if s.peerSeen < s.conn.written.length then some { s with peerSeen := s.peerSeen + 1 } else none
  | .peerSend frameType payload =>
    (s.inbound.step (.arrive ⟨frameType, payload, s.peerSeen⟩)).map s.setInbound
  | .firstOpen =>
    match s.first with
    | .pending payload => s.firstOpen payload
    | _ => none
  | .firstAnnounce ok =>
    match s.first with
    | .announcing ch =>
      some { s with
        inbound := if ok then s.inbound else s.inbound.dropReceiver ch
        first := .finished (some ch) }
    | _ => none
  -- the id is drawn first (`fetch_add`), in a step of its own
  | .openStream cls => some { s with
      conn := { s.conn with nextStreamId := s.conn.nextStreamId + 2 }
      opens := s.opens ++ [{ id := s.conn.nextStreamId, cls := cls }] }
  | .openEnqueue k => s.opens[k]?.bind fun call =>
    if call.phase = .drawn then some (s.openEnqueue k call) else none
  | .openInsert k => s.opens[k]?.bind fun call =>
    if call.phase = .enqueued then s.openInsert k call else none
  | .send owner id data cls =>
    (s.conn.enqueue cls (.streamData owner id data)).map fun conn => { s with conn := conn }
  | .close owner id cls => some { s with
      conn := (s.conn.enqueue cls (.streamClose owner id)).getD s.conn
      closing := s.closing ++ [id] }
  | .closeRemove j => s.closing[j]?.bind fun id =>
    (s.inbound.step (.remove id)).map fun inbound =>
      { s with inbound := inbound, closing := s.closing.eraseIdx j }
  | .write a => (s.conn.writeStep a).map fun conn => { s with conn := conn }

end State

/-- The two sides of a connection; a responder is started with the payload of the `StreamOpen` that
was read to tell its mode. -/
inductive Role where
  | initiator
  | responder (payload : Bytes)
  deriving DecidableEq, Repr

/-- **A multiplexed connection**, from `new_initiator` or `new_responder`. -/
def machine (role : Role) : Machine State Step where
  init :=
    match role with
    | .initiator => ⟨.newInitiator, 0, .empty, .absent, [], []⟩
    | .responder payload => ⟨.newResponder, 0, .empty, .pending payload, [], []⟩
  step := State.step

/-! ## Moves -/

/-- A step of a connection, by what it does to the receive side and to the calls. -/
inductive StateMove (s : State) : Step → State → Prop
  | inbound {a : InboundStep} {inbound : Inbound} (hown : a.isOwn = true)
      (hstep : s.inbound.step a = some inbound) :
    StateMove s (.inbound a) (s.setInbound inbound)
  | peerReceive (hlt : s.peerSeen < s.conn.written.length) :
    StateMove s .peerReceive { s with peerSeen := s.peerSeen + 1 }
  | peerSend (frameType : FrameType) (payload : Bytes) :
    StateMove s (.peerSend frameType payload) (s.setInbound
      { s.inbound with wire := s.inbound.wire ++ [⟨frameType, payload, s.peerSeen⟩] })
  | firstIgnored {payload : Bytes} (hfirst : s.first = .pending payload)
      (hparse : parseOpen payload = none) :
    StateMove s .firstOpen { s with first := .finished none }
  | firstInsert {payload : Bytes} {id : UInt32} {cls : StreamClass}
      (hfirst : s.first = .pending payload) (hparse : parseOpen payload = some (id, cls))
      (hlock : s.inbound.locked = false) :
    StateMove s .firstOpen
      { s with inbound := s.inbound.insert id false, first := .announcing s.inbound.chans.length }
  | firstAnnounce {ch : Nat} (ok : Bool) (hfirst : s.first = .announcing ch) :
    StateMove s (.firstAnnounce ok) { s with
      inbound := if ok then s.inbound else s.inbound.dropReceiver ch
      first := .finished (some ch) }
  | openStream (cls : StreamClass) :
    StateMove s (.openStream cls) { s with
      conn := { s.conn with nextStreamId := s.conn.nextStreamId + 2 }
      opens := s.opens ++ [{ id := s.conn.nextStreamId, cls := cls }] }
  | openEnqueue {k : Nat} {call : OpenCall} {conn : MuxConn} (hk : s.opens[k]? = some call)
      (hphase : call.phase = .drawn)
      (hconn : s.conn.enqueue call.cls (.streamOpen k call.id call.cls) = some conn) :
    StateMove s (.openEnqueue k)
      ({ s with conn := conn }.setOpen k { call with phase := .enqueued })
  | openFail {k : Nat} {call : OpenCall} (hk : s.opens[k]? = some call)
      (hphase : call.phase = .drawn)
      (hconn : s.conn.enqueue call.cls (.streamOpen k call.id call.cls) = none) :
    StateMove s (.openEnqueue k) (s.setOpen k { call with phase := .failed })
  | openInsert {k : Nat} {call : OpenCall} (hk : s.opens[k]? = some call)
      (hphase : call.phase = .enqueued) (hlock : s.inbound.locked = false) :
    StateMove s (.openInsert k) ((s.setInbound (s.inbound.insert call.id true)).setOpen k
      { call with phase := .inserted s.inbound.chans.length })
  /-- A frame other than a `StreamOpen` is enqueued, or none. -/
  | enqueue {a : Step} {conn : MuxConn} {closing : List UInt32}
      (hconn : conn = s.conn ∨ ∃ cls item, item.frameType ≠ .streamOpen ∧
        s.conn.enqueue cls item = some conn) (ha : a.isEnqueue = true) :
    StateMove s a { s with conn := conn, closing := closing }
  | closeRemove {j : Nat} {id : UInt32} (hj : s.closing[j]? = some id)
      (hlock : s.inbound.locked = false) :
    StateMove s (.closeRemove j)
      { s with inbound := s.inbound.remove id, closing := s.closing.eraseIdx j }
  | write {a : WriterStep} {conn : MuxConn} (hconn : s.conn.writeStep a = some conn) :
    StateMove s (.write a) { s with conn := conn }

section Moves

variable {s t : State}

theorem insert_of_step {inbound inbound' : Inbound} {id : UInt32} {own : Bool}
    (h : inbound.step (.insert id own) = some inbound') :
    inbound.locked = false ∧ inbound' = inbound.insert id own := by
  cases move_of_step h with
  | insert _ _ hlock => exact ⟨hlock, rfl⟩

theorem remove_of_step {inbound inbound' : Inbound} {id : UInt32}
    (h : inbound.step (.remove id) = some inbound') :
    inbound.locked = false ∧ inbound' = inbound.remove id := by
  cases move_of_step h with
  | remove _ hlock => exact ⟨hlock, rfl⟩

/-- Every step of the connection is one of the moves. -/
theorem stateMove_of_step {a : Step} (hstep : s.step a = some t) : StateMove s a t := by
  cases a with
  | inbound a =>
    simp only [State.step] at hstep
    split_ifs at hstep with hown
    obtain ⟨inbound, hinbound, rfl⟩ := Option.map_eq_some_iff.mp hstep
    exact .inbound hown hinbound
  | peerReceive =>
    simp only [State.step] at hstep
    split_ifs at hstep with hlt
    cases hstep
    exact .peerReceive hlt
  | peerSend frameType payload =>
    cases hstep
    exact .peerSend frameType payload
  | firstOpen =>
    simp only [State.step] at hstep
    split at hstep
    · rename_i payload hfirst
      unfold State.firstOpen at hstep
      split at hstep
      · rename_i hparse
        cases hstep
        exact .firstIgnored hfirst hparse
      · rename_i hparse
        obtain ⟨inbound, hinbound, rfl⟩ := Option.map_eq_some_iff.mp hstep
        obtain ⟨hlock, rfl⟩ := insert_of_step hinbound
        exact .firstInsert hfirst hparse hlock
    · cases hstep
  | firstAnnounce ok =>
    simp only [State.step] at hstep
    split at hstep
    · rename_i ch hfirst
      cases hstep
      exact .firstAnnounce ok hfirst
    · cases hstep
  | openStream cls =>
    cases hstep
    exact .openStream cls
  | openEnqueue k =>
    obtain ⟨call, hk, hstep⟩ := Option.bind_eq_some_iff.mp hstep
    split_ifs at hstep with hphase
    cases hstep
    unfold State.openEnqueue
    split
    · rename_i hconn
      exact .openEnqueue hk hphase hconn
    · rename_i hconn
      exact .openFail hk hphase hconn
  | openInsert k =>
    obtain ⟨call, hk, hstep⟩ := Option.bind_eq_some_iff.mp hstep
    split_ifs at hstep with hphase
    obtain ⟨inbound, hinbound, rfl⟩ := Option.map_eq_some_iff.mp hstep
    obtain ⟨hlock, rfl⟩ := insert_of_step hinbound
    exact .openInsert hk hphase hlock
  | send owner id data cls =>
    obtain ⟨conn, hconn, rfl⟩ := Option.map_eq_some_iff.mp hstep
    exact .enqueue (Or.inr ⟨cls, _, by simp [WriteItem.streamData], hconn⟩) rfl
  | close owner id cls =>
    cases hstep
    refine .enqueue ?_ rfl
    cases hconn : s.conn.enqueue cls (.streamClose owner id) with
    | none => exact Or.inl rfl
    | some conn => exact Or.inr ⟨cls, _, by simp [WriteItem.streamClose], hconn⟩
  | closeRemove j =>
    obtain ⟨id, hj, hstep⟩ := Option.bind_eq_some_iff.mp hstep
    obtain ⟨inbound, hinbound, rfl⟩ := Option.map_eq_some_iff.mp hstep
    obtain ⟨hlock, rfl⟩ := remove_of_step hinbound
    exact .closeRemove hj hlock
  | write a =>
    obtain ⟨conn, hconn, rfl⟩ := Option.map_eq_some_iff.mp hstep
    exact .write hconn

/-- The receive side moves by its own steps only. -/
theorem delivery_of_move {a : Step} (h : Delivery s.inbound) (hmove : StateMove s a t) :
    Delivery t.inbound := by
  cases hmove with
  | inbound _ hstep => exact h.step hstep
  | peerSend => exact ⟨h.table, h.birth, h.kept, h.sending⟩
  | firstInsert _ _ hlock => exact h.insert _ false (not_sending_of_not_locked hlock)
  | firstAnnounce ok =>
    cases ok with
    | true => exact h
    | false => exact h.dropReceiver _
  | openInsert _ _ hlock => exact h.insert _ true (not_sending_of_not_locked hlock)
  | closeRemove _ hlock => exact h.remove _ (not_sending_of_not_locked hlock)
  | _ => exact h

theorem delivery_init (role : Role) : Delivery (machine role).init.inbound := by
  cases role <;> exact delivery_empty

end Moves

/-! ## Start-up of a responder -/

/-- The stream a data or a close frame is for. -/
def InFrame.target (f : InFrame) : Option UInt32 :=
  match f.parse with
  | .streamData id _ => some id
  | .streamClose id => some id
  | _ => none

/-- The stream the read task is going to look up. -/
def ReadPhase.target : ReadPhase → Option UInt32
  | locking f => f.target
  | _ => none

/-- A frame opens the stream. -/
def InFrame.opens (f : InFrame) (id : UInt32) : Bool :=
  match f.parse with
  | .streamOpen i _ => i == id
  | _ => false

/-- The last `StreamOpen` or `StreamClose` for the stream is a close. -/
def closedLast (id : UInt32) (frames : List InFrame) : Bool :=
  frames.foldl (fun closed f => if f.closes id then true else if f.opens id then false else closed)
    false

/-- No frame has data for the stream or closes it. -/
def Silent (id : UInt32) (frames : List InFrame) : Prop :=
  ∀ f ∈ frames, f.target ≠ some id

/-- The entry of the first stream is still to be inserted under this id. -/
def State.awaits (s : State) (id : UInt32) : Bool :=
  match s.first with
  | .pending payload => (parseOpen payload).any fun opened => opened.1 == id
  | _ => false

/-- **Start-up loses nothing**: once the first stream `id` is inserted, its receiver has got the
data of all frames handled for it, in order, up to the first close; and an id that was closed last
is not in the table, unless this side opened it. The receiver may be dropped by its holder, and its
sender taken away by a `close_stream` of this side or by another `StreamOpen` for the id. -/
def State.Started (s : State) (id : UInt32) : Prop :=
  ∀ ch, s.first.channel = some ch →
    (∀ c ∈ s.inbound.chans[ch]?, c.id = id ∧ (c.dropped = false → c.detached = false →
      c.sent = dataUntilClose id s.inbound.handled)) ∧
    (closedLast id s.inbound.handled = true →
      ∀ i ∈ s.inbound.table id, ∀ c ∈ s.inbound.chans[i]?, c.own = true)

/-- **The condition**: the read task looks up data and closes for a stream only when the entry of
the first stream is not still to be inserted under that id. -/
def State.Prompt (s : State) : Step → Prop
  | .inbound .lock => ∀ id ∈ s.inbound.reader.target, s.awaits id = false
  | _ => True

-- by looking at the one id there is, not by trying all of them
instance (s : State) : ∀ a, Decidable (s.Prompt a)
  | .inbound .lock => Option.decidableForallMem s.inbound.reader.target
  | .inbound (.arrive _) | .inbound .read | .inbound (.announce _) | .inbound .deliver
  | .inbound .fail | .inbound (.insert ..) | .inbound (.remove _) | .inbound (.recv _)
  | .inbound (.drop _) | .peerReceive | .peerSend .. | .firstOpen | .firstAnnounce _
  | .openStream _ | .openEnqueue _ | .openInsert _ | .send .. | .close .. | .closeRemove _
  | .write _ => isTrue trivial

section Startup

variable {id : UInt32} {f : InFrame} {frames : List InFrame}

theorem closedLast_append (id : UInt32) (frames : List InFrame) (f : InFrame) :
    closedLast id (frames ++ [f]) =
      if f.closes id then true else if f.opens id then false else closedLast id frames := by
  simp only [closedLast, List.foldl_append, List.foldl_cons, List.foldl_nil]

theorem closes_of_target (h : f.target ≠ some id) : f.closes id = false := by
  refine beq_eq_false_iff_ne.mpr fun hparse => h ?_
  simp only [InFrame.target, hparse]

theorem dataFor_of_target (h : f.target ≠ some id) : f.dataFor id = [] := by
  unfold InFrame.target at h
  unfold InFrame.dataFor
  split
  · rename_i hparse
    rw [hparse] at h
    exact if_neg fun heq => h (congrArg some heq)
  · rfl

/-- Frames silent about a stream do not close it. -/
theorem closedLast_of_silent (h : Silent id frames) : closedLast id frames = false := by
  induction frames using List.reverseRecOn with
  | nil => rfl
  | append_singleton frames f ih =>
    have hf := closes_of_target (h f (List.mem_append_right _ (List.mem_singleton_self f)))
    rw [closedLast_append, hf, if_neg (by decide), ih fun g hg => h g (List.mem_append_left _ hg),
      ite_self]

/-- Frames that have nothing for the stream do not matter. -/
theorem dataUntilClose_of_silent {before : List InFrame} (h : Silent id before) :
    dataUntilClose id (before ++ frames) = dataUntilClose id frames := by
  induction before with
  | nil => rfl
  | cons g before ih =>
    have hg := h g List.mem_cons_self
    rw [← ih fun x hx => h x (List.mem_cons_of_mem _ hx)]
    simp [dataUntilClose, closes_of_target hg, dataFor_of_target hg]

variable {s t : Inbound} {a : InboundStep}

/-- An id that was closed last is out of the table, unless this side opened it. -/
def ClosedOut (id : UInt32) (s : Inbound) : Prop :=
  closedLast id s.handled = true → ∀ i ∈ s.table id, ∀ c ∈ s.chans[i]?, c.own = true

/-- A step that puts no entry under the id in the table. -/
theorem ClosedOut.of_step (h : ClosedOut id s) (hd : Delivery s)
    (hchan : ∀ (ch : Nat) (c : Chan), s.chans[ch]? = some c →
      ∃ c', t.chans[ch]? = some c' ∧ SameChan c c')
    (htable : ∀ i ∈ t.table id, s.table id = some i)
    (hclosed : closedLast id t.handled = true → t.table id ≠ none →
      closedLast id s.handled = true) : ClosedOut id t := by
  intro hlast i hi c hc
  have hi' := htable i hi
  have hnone : t.table id ≠ none := by
    rw [Option.mem_def.mp hi]
    exact nofun
  obtain ⟨d, hdi, -⟩ := hd.table id i hi'
  obtain ⟨d', hd', hsame⟩ := hchan i d hdi
  obtain rfl : c = d' := Option.some.inj ((Option.mem_def.mp hc).symm.trans hd')
  exact hsame.own.trans (h (hclosed hlast hnone) i hi' d hdi)

theorem ClosedOut.dropReceiver (h : ClosedOut id s) (hd : Delivery s) (ch : Nat) :
    ClosedOut id (s.dropReceiver ch) := by
  refine h.of_step hd (fun _ _ hc => chan_dropReceiver ch hc) (fun i hi => ?_) fun hlast _ => ?_
  · rwa [table_dropReceiver] at hi
  · rwa [handled_dropReceiver] at hlast

/-- The reader's own steps keep a closed id out. -/
theorem ClosedOut.step (h : ClosedOut id s) (hd : Delivery s) (hown : a.isOwn = true)
    (hstep : s.step a = some t) : ClosedOut id t := by
  have hchan : ∀ (ch : Nat) (c : Chan), s.chans[ch]? = some c →
      ∃ c', t.chans[ch]? = some c' ∧ SameChan c c' := fun _ _ hc => chan_of_step hstep hc
  -- a frame that neither opens nor closes the stream
  have hskip : ∀ {f : InFrame}, f.closes id = false → f.opens id = false →
      closedLast id (s.handled ++ [f]) = true → closedLast id s.handled = true := by
    intro f hcloses hopens hlast
    rwa [closedLast_append, hcloses, hopens, if_neg (by decide), if_neg (by decide)] at hlast
  cases move_of_step hstep with
  | skip _ _ hparse | skipLocked _ hparse =>
    exact h.of_step hd hchan (fun _ hi => hi) fun hlast _ =>
      hskip (closes_of_ignored hparse id) (by simp [InFrame.opens, hparse]) hlast
  | @processStreamOpen f i cls hreader hparse =>
    by_cases hi : i = id
    · -- the id is open again
      intro hlast
      have hcloses : f.closes id = false := by simp [InFrame.closes, hparse]
      have hopens : f.opens id = true := by simp [InFrame.opens, hparse, hi]
      have hfalse := closedLast_append id s.handled f
      rw [hcloses, hopens, if_neg (by decide), if_pos rfl] at hfalse
      cases hfalse.symm.trans hlast
    · refine h.of_step hd hchan (fun j hj => ?_) fun hlast _ =>
        hskip (by simp [InFrame.closes, hparse]) (by simp [InFrame.opens, hparse, hi]) hlast
      exact (Function.update_of_ne (Ne.symm hi) _ s.table).symm.trans hj
  | unknown _ hparse =>
    exact h.of_step hd hchan (fun _ hi => hi) fun hlast _ =>
      hskip (by simp [InFrame.closes, hparse]) (by simp [InFrame.opens, hparse]) hlast
  | @close f i hreader hparse =>
    by_cases hi : i = id
    · -- the id is out of the table
      subst hi
      intro _ j hj
      cases (Function.update_self i _ s.table).symm.trans hj
    · have hne : f.closes id = false := by
        simp only [InFrame.closes, hparse, beq_eq_false_iff_ne, ne_eq, Parsed.streamClose.injEq]
        exact hi
      refine h.of_step hd hchan (fun j hj => ?_) fun hlast _ =>
        hskip hne (by simp [InFrame.opens, hparse]) hlast
      exact (Function.update_of_ne (Ne.symm hi) _ s.table).symm.trans hj
  | @deliver f ch data c c' hreader =>
    obtain ⟨d, -, hparse, -⟩ := hd.sending f ch data hreader
    exact h.of_step hd hchan (fun _ hi => hi) fun hlast _ =>
      hskip (by simp [InFrame.closes, hparse]) (by simp [InFrame.opens, hparse]) hlast
  | @announce ch ok =>
    cases ok with
    | true => exact h.of_step hd hchan (fun _ hi => hi) fun hlast _ => hlast
    | false => exact h.dropReceiver hd ch
  | drop ch => exact h.dropReceiver hd ch
  | insert | remove => cases hown
  | _ => exact h.of_step hd hchan (fun _ hi => hi) fun hlast _ => hlast

/-- An insert keeps a closed id out, unless a remote reopens it. -/
theorem ClosedOut.insert_other (h : ClosedOut id s) (hd : Delivery s) {i : UInt32} {own : Bool}
    (hkeep : i = id → own = true ∨ closedLast id s.handled = false) :
    ClosedOut id (s.insert i own) := by
  by_cases hi : i = id
  · subst hi
    intro hlast j hj c hc
    have hown := (hkeep rfl).resolve_right fun hfalse => by cases hfalse.symm.trans hlast
    have hnew : some s.chans.length = some j := (Function.update_self i _ s.table).symm.trans hj
    cases hnew
    rw [chan_inserted, Option.mem_some] at hc
    rw [← hc]
    exact hown
  · refine h.of_step hd (fun _ _ hc => chan_insert i own hc) (fun j hj => ?_) fun hlast _ => hlast
    exact (Function.update_of_ne (Ne.symm hi) _ s.table).symm.trans hj

/-- A remove keeps a closed id out. -/
theorem ClosedOut.remove (h : ClosedOut id s) (hd : Delivery s) (i : UInt32) :
    ClosedOut id (s.remove i) := by
  refine h.of_step hd (fun _ _ hc => chan_detach i false hc) (fun j hj => ?_) fun hlast _ => hlast
  by_cases hi : id = i
  · subst hi
    cases (Function.update_self id _ s.table).symm.trans hj
  · exact (Function.update_of_ne hi _ s.table).symm.trans hj

end Startup

/-- The invariant of guided runs of a responder whose first stream is `id`. -/
structure Startup (id : UInt32) (s : State) : Prop where
  delivery : Delivery s.inbound
  /-- As long as the first stream is not inserted, no frame for it is looked up. -/
  waiting : ∀ payload, s.first = .pending payload →
    s.awaits id = true ∧ Silent id s.inbound.looked
  /-- No frame for it was handled before it was inserted. -/
  made : ∀ ch, s.first.channel = some ch → ∃ c, s.inbound.chans[ch]? = some c ∧ c.id = id ∧
    Silent id (s.inbound.handled.take c.birth)
  closed : ClosedOut id s.inbound

section Guided

variable {id : UInt32} {s t : State}

theorem startup_init {payload : Bytes} {cls : StreamClass}
    (hparse : parseOpen payload = some (id, cls)) :
    Startup id (machine (.responder payload)).init where
  delivery := delivery_init _
  waiting payload' hfirst := by
    cases hfirst
    refine ⟨?_, fun _ h => (nomatch h)⟩
    simp [machine, State.awaits, hparse]
  made _ h := nomatch h
  closed h := nomatch h

/-- What the invariant says of the first stream. -/
theorem Startup.started (h : Startup id s) : s.Started id := by
  intro ch hch
  obtain ⟨c, hc, hid, hsilent⟩ := h.made ch hch
  refine ⟨fun d hd => ?_, h.closed⟩
  obtain rfl : c = d := Option.some.inj (hc.symm.trans hd)
  refine ⟨hid, fun halive hattached => ?_⟩
  rw [(h.delivery.kept ch c hc hattached).2 halive, hid, ← dataUntilClose_of_silent hsilent,
    List.take_append_drop]

/-- The channel of the first stream stays what it is. -/
theorem Startup.made_of_same (h : Startup id s) {inbound : Inbound} {first : FirstOpen}
    (hfirst : first.channel = s.first.channel)
    (hchan : ∀ (ch : Nat) (c : Chan), s.inbound.chans[ch]? = some c →
      ∃ c', inbound.chans[ch]? = some c' ∧ SameChan c c')
    (htake : ∀ n ≤ s.inbound.handled.length,
      inbound.handled.take n = s.inbound.handled.take n) :
    ∀ ch, first.channel = some ch → ∃ c, inbound.chans[ch]? = some c ∧ c.id = id ∧
      Silent id (inbound.handled.take c.birth) := by
  intro ch hch
  obtain ⟨c, hc, hid, hsilent⟩ := h.made ch (hfirst.symm.trans hch)
  obtain ⟨c', hc', hsame⟩ := hchan ch c hc
  refine ⟨c', hc', hsame.id.trans hid, ?_⟩
  rw [hsame.birth, htake _ (h.delivery.birth ch c hc)]
  exact hsilent

/-- One prompt step. -/
theorem Startup.step {a : Step} (h : Startup id s) (hprompt : s.Prompt a)
    (hstep : s.step a = some t) : Startup id t := by
  have hmove := stateMove_of_step hstep
  have hdelivery := delivery_of_move h.delivery hmove
  cases hmove with
  | @inbound b inbound hown hb =>
    refine ⟨hdelivery, fun payload hfirst => ?_, ?_, h.closed.step h.delivery hown hb⟩
    · obtain ⟨hawaits, hsilent⟩ := h.waiting payload hfirst
      refine ⟨hawaits, ?_⟩
      rcases looked_of_step hb with heq | ⟨f, heq, hcase⟩
      · exact heq.symm ▸ hsilent
      · have hf : f.target ≠ some id := by
          rcases hcase with hignored | ⟨rfl, hreader⟩
          · simp [InFrame.target, hignored]
          · -- the condition: what the read task looks up now is not for the first stream
            intro htarget
            have hfalse := hprompt id (by rw [hreader]; exact htarget)
            cases hawaits.symm.trans hfalse
        rw [State.setInbound, heq]
        exact Tasks.forall_mem_append hsilent hf
    · exact h.made_of_same rfl (fun _ _ hc => chan_of_step hb hc) fun n hn =>
        take_handled_of_step hb hn
  | peerSend => exact ⟨hdelivery, h.waiting, h.made, h.closed⟩
  | firstIgnored hfirst hparse =>
    -- the payload of this responder opens `id`
    have hawaits := (h.waiting _ hfirst).1
    rw [State.awaits, hfirst] at hawaits
    simp [hparse] at hawaits
  | @firstInsert payload i cls hfirst hparse hlock =>
    obtain ⟨hawaits, hlooked⟩ := h.waiting payload hfirst
    have hsilent : Silent id s.inbound.handled :=
      fun f hf => hlooked f (handled_subset_looked s.inbound hf)
    have hi : i = id := by
      rw [State.awaits, hfirst] at hawaits
      simpa [hparse] using hawaits
    subst hi
    refine ⟨hdelivery, nofun, fun ch hch => ?_,
      h.closed.insert_other h.delivery fun _ => Or.inr (closedLast_of_silent hsilent)⟩
    cases hch
    refine ⟨_, chan_inserted s.inbound i false, rfl, fun f hf => hsilent f ?_⟩
    exact List.mem_of_mem_take hf
  | @firstAnnounce ch ok hfirst =>
    refine ⟨hdelivery, nofun, ?_, ?_⟩
    · refine h.made_of_same (by rw [hfirst]; rfl) (fun i c hc => ?_) fun n _ => ?_
      · cases ok with
        | true => exact ⟨c, hc, rfl, rfl, rfl⟩
        | false => exact chan_dropReceiver ch hc
      · cases ok with
        | true => rfl
        | false => exact congrArg (List.take n) (handled_dropReceiver s.inbound ch)
    · cases ok with
      | true => exact h.closed
      | false => exact h.closed.dropReceiver h.delivery ch
  | @openInsert k call hk hphase hlock =>
    refine ⟨hdelivery, fun payload hfirst => ?_, ?_,
      h.closed.insert_other h.delivery fun _ => Or.inl rfl⟩
    · exact h.waiting payload hfirst
    · exact h.made_of_same rfl (fun _ _ hc => chan_insert call.id true hc) fun _ _ => rfl
  | @closeRemove j i hj hlock =>
    exact ⟨hdelivery, h.waiting,
      h.made_of_same rfl (fun _ _ hc => chan_detach i false hc) fun _ _ => rfl,
      h.closed.remove h.delivery i⟩
  | _ => exact ⟨hdelivery, h.waiting, h.made, h.closed⟩

end Guided

/-- **Start-up loses nothing in a prompt run.** -/
theorem started_of_prompt (payload : Bytes) (id : UInt32) (cls : StreamClass)
    (hparse : parseOpen payload = some (id, cls)) (steps : List Step) (s : State)
    (hprompt : (machine (.responder payload)).Along State.Prompt
      (machine (.responder payload)).init steps)
    (hrun : (machine (.responder payload)).run (machine (.responder payload)).init steps = some s) :
    s.Started id :=
  ((machine (.responder payload)).along_invariant (fun _ _ _ h hP hstep => Startup.step h hP hstep)
    (startup_init hparse) hprompt hrun).started

/-- The payload of a `StreamOpen` for stream 1, of class control. -/
def firstPayload : Bytes := [0, 0, 0, 1, 1]

/-- The first stream is inserted before its data is handled. -/
def promptSteps : List Step :=
  [.firstOpen, .peerSend .streamData [0, 0, 0, 1, 7], .inbound .read, .inbound .lock,
    .firstAnnounce true, .inbound .deliver]

theorem started_promptSteps :
    ∃ s, (machine (.responder firstPayload)).run (machine (.responder firstPayload)).init
      promptSteps = some s ∧ s.Started 1 := by
  obtain ⟨s, hrun, -⟩ :=
    (machine (.responder firstPayload)).exists_run promptSteps (fun _ => True) (by decide)
  exact ⟨s, hrun, started_of_prompt firstPayload 1 .control (by decide) promptSteps s (by decide)
    hrun⟩

/-- The read task handles the data and the close of the first stream before its entry is inserted.
-/
def overtakenSteps : List Step :=
  [.peerSend .streamData [0, 0, 0, 1, 7], .peerSend .streamClose [0, 0, 0, 1], .inbound .read,
    .inbound .lock, .inbound .read, .inbound .lock, .firstOpen, .firstAnnounce true]

/-- The data of the first stream is lost, and its entry stays although the stream is closed. -/
theorem overtaken_not_started :
    ∃ s, (machine (.responder firstPayload)).run (machine (.responder firstPayload)).init
      overtakenSteps = some s ∧ s.first.channel = some 0 ∧
      dataUntilClose 1 s.inbound.handled = [[7]] ∧
      s.inbound.chans = [{ id := 1, own := false, birth := 2 }] ∧
      closedLast 1 s.inbound.handled = true ∧ s.inbound.table 1 = some 0 ∧ ¬ s.Started 1 := by
  obtain ⟨s, hrun, hfirst, hdata, hchans, hlast, htable⟩ :=
    (machine (.responder firstPayload)).exists_run overtakenSteps
    (fun s => s.first.channel = some 0 ∧ dataUntilClose 1 s.inbound.handled = [[7]] ∧
      s.inbound.chans = [{ id := 1, own := false, birth := 2 }] ∧
      closedLast 1 s.inbound.handled = true ∧ s.inbound.table 1 = some 0) (by decide)
  refine ⟨s, hrun, hfirst, hdata, hchans, hlast, htable, fun h => ?_⟩
  have hchan : s.inbound.chans[0]? = some { id := 1, own := false, birth := 2 } := by
    rw [hchans]
    rfl
  have hsent := ((h 0 hfirst).1 _ hchan).2 rfl rfl
  rw [hdata] at hsent
  cases hsent

/-! ## The stream table of a connection, step by step -/

/-- The id under which a step inserts an entry: a `StreamOpen` handled by the read task, the task of
the first `StreamOpen`, or `open_stream`. -/
def State.inserts (s : State) : Step → Option UInt32
  | .inbound a => s.inbound.inserts a
  | .firstOpen =>
    match s.first with
    | .pending payload => (parseOpen payload).map Prod.fst
    | _ => none
  | .openInsert k => s.opens[k]?.map OpenCall.id
  | _ => none

/-- The id a step removes: by a `StreamClose` that the read task handles, or by `close_stream`. -/
def State.removes (s : State) : Step → Option UInt32
  | .inbound .lock =>
    match s.inbound.reader with
    | .locking f =>
      match f.parse with
      | .streamClose id => some id
      | _ => none
    | _ => none
  | .closeRemove j => s.closing[j]?
  | _ => none

/-- An entry after a step of the receive side was inserted by it, or was there and is not removed.
-/
theorem table_of_inbound_step {s : State} {a : InboundStep} {inbound : Inbound} {id : UInt32}
    (hown : a.isOwn = true) (hstep : s.inbound.step a = some inbound)
    (hin : inbound.table id ≠ none) :
    s.inserts (.inbound a) = some id ∨
      s.inbound.table id ≠ none ∧ s.removes (.inbound a) ≠ some id := by
  have hnone : none ≠ some id := (Option.some_ne_none id).symm
  cases move_of_step hstep with
  | @processStreamOpen f i cls hreader hparse =>
    by_cases hi : id = i
    · subst hi
      exact Or.inl (by simp [State.inserts, Inbound.inserts, hreader, hparse])
    · refine Or.inr ⟨?_, by simp [State.removes, hreader, hparse]⟩
      exact (Function.update_of_ne hi _ s.inbound.table) ▸ hin
  | @close f i hreader hparse =>
    by_cases hi : id = i
    · subst hi
      exact absurd (Function.update_self id _ s.inbound.table) hin
    · refine Or.inr ⟨(Function.update_of_ne hi _ s.inbound.table) ▸ hin, ?_⟩
      simp only [State.removes, hreader, hparse]
      exact fun hsame => hi (Option.some.inj hsame).symm
  | find hreader hparse | unknown hreader hparse | skipLocked hreader hparse =>
    exact Or.inr ⟨hin, by simp [State.removes, hreader, hparse]⟩
  | @announce ch ok =>
    refine Or.inr ⟨?_, hnone⟩
    cases ok with
    | true => exact hin
    | false => exact (table_dropReceiver s.inbound ch) ▸ hin
  | drop ch => exact Or.inr ⟨(table_dropReceiver s.inbound ch) ▸ hin, hnone⟩
  | insert | remove => cases hown
  | _ => exact Or.inr ⟨hin, hnone⟩

/-- An entry after a step was inserted by it, or was there and is not removed. -/
theorem table_of_step {s t : State} {a : Step} {id : UInt32} (hstep : s.step a = some t)
    (hin : t.inbound.table id ≠ none) :
    s.inserts a = some id ∨ s.inbound.table id ≠ none ∧ s.removes a ≠ some id := by
  cases stateMove_of_step hstep with
  | inbound hown hb => exact table_of_inbound_step hown hb hin
  | @firstInsert payload i cls hfirst hparse =>
    by_cases hi : id = i
    · subst hi
      exact Or.inl (by simp [State.inserts, hfirst, hparse])
    · exact Or.inr ⟨(Function.update_of_ne hi _ s.inbound.table) ▸ hin, nofun⟩
  | @openInsert k call hk =>
    by_cases hi : id = call.id
    · subst hi
      exact Or.inl (by simp [State.inserts, hk])
    · exact Or.inr ⟨(Function.update_of_ne hi _ s.inbound.table) ▸ hin, nofun⟩
  | @firstAnnounce ch ok =>
    refine Or.inr ⟨?_, nofun⟩
    cases ok with
    | true => exact hin
    | false => exact (table_dropReceiver s.inbound ch) ▸ hin
  | @closeRemove j i hj =>
    by_cases hi : id = i
    · subst hi
      exact absurd (Function.update_self id _ s.inbound.table) hin
    · refine Or.inr ⟨(Function.update_of_ne hi _ s.inbound.table) ▸ hin, ?_⟩
      rw [State.removes, hj]
      exact fun hsame => hi (Option.some.inj hsame).symm
  | enqueue _ ha =>
    refine Or.inr ⟨hin, ?_⟩
    cases a with
    | send | close => exact nofun
    | _ => cases ha
  | _ => exact Or.inr ⟨hin, nofun⟩

/-! ## The end of the read task -/

/-- **A dropped connection closes its streams**: when the read task has terminated, no sender is
left in the table, so that every receiver comes to its end. -/
def State.Drained (s : State) : Prop :=
  s.inbound.reader = .terminated → ∀ id, s.inbound.table id = none

/-- What happens to the stream table of a connection, and the end of its read task. -/
inductive TableEvent where
  | inserted (id : UInt32)
  | removed (id : UInt32)
  | ended
  deriving DecidableEq, Repr

/-- The event of a step, in the state it is taken in. -/
def State.tableEvent (s : State) (a : Step) : Option TableEvent :=
  match s.inserts a, s.removes a with
  | some id, _ => some (.inserted id)
  | none, some id => some (.removed id)
  | none, none => if a = .inbound .fail then some .ended else none

/-- **The condition**, on the events of a run: every id that is inserted before the read task ends
is removed later, by a `StreamClose` that is handled or by `close_stream`, before the task ends; and
none is inserted after that. -/
def OrderlyEnd (events : List TableEvent) : Prop :=
  ∀ before after, events = before ++ .ended :: after →
    (∀ earlier id later, before = earlier ++ .inserted id :: later → .removed id ∈ later) ∧
      ∀ id, .inserted id ∉ after

/-- The last insertion of the id was not followed by a removal. -/
def Unremoved (id : UInt32) (events : List TableEvent) : Prop :=
  ∃ earlier later, events = earlier ++ .inserted id :: later ∧ .removed id ∉ later

/-- After an orderly end every id is removed. -/
theorem OrderlyEnd.not_unremoved {events : List TableEvent} {id : UInt32} (h : OrderlyEnd events)
    (hended : .ended ∈ events) : ¬ Unremoved id events := by
  rintro ⟨earlier, later, rfl, hnot⟩
  obtain ⟨before, after, hsplit⟩ := List.append_of_mem hended
  obtain ⟨hremoved, hnone⟩ := h before after hsplit
  -- the insertion is before the end, or after it
  rcases List.append_eq_append_iff.mp hsplit with ⟨mid, rfl, hmid⟩ | ⟨mid, rfl, hmid⟩
  · cases mid with
    | nil => cases hmid
    | cons e mid =>
      obtain ⟨rfl, rfl⟩ := List.cons.inj hmid
      exact hnot (List.mem_append_left _ (hremoved earlier id mid rfl))
  · cases mid with
    | nil => cases hmid
    | cons e mid =>
      obtain ⟨rfl, rfl⟩ := List.cons.inj hmid
      exact hnone id (List.mem_append_right _ List.mem_cons_self)

/-- What the events of a run say about the state it has come to. -/
structure TableLog (events : List TableEvent) (s : State) : Prop where
  /-- An id in the table was inserted and not removed since. -/
  table : ∀ id, s.inbound.table id ≠ none → Unremoved id events
  ended : s.inbound.reader = .terminated → .ended ∈ events

/-- A terminated read task has just ended, or was terminated before. -/
theorem terminated_of_step {s t : State} {a : Step} (hstep : s.step a = some t)
    (hterminated : t.inbound.reader = .terminated) :
    a = .inbound .fail ∨ s.inbound.reader = .terminated := by
  cases stateMove_of_step hstep with
  | inbound hown hb =>
    cases move_of_step hb with
    | fail => exact Or.inl rfl
    | recv => exact Or.inr hterminated
    | drop ch => exact Or.inr ((reader_dropReceiver s.inbound ch).symm.trans hterminated)
    | arrive | insert | remove => cases hown
    | _ => cases hterminated
  | @firstAnnounce ch ok =>
    right
    cases ok with
    | true => exact hterminated
    | false => exact (reader_dropReceiver s.inbound ch).symm.trans hterminated
  | _ => exact Or.inr hterminated

theorem tableLog_init (role : Role) : TableLog [] (machine role).init := by
  cases role <;> exact ⟨fun _ h => absurd rfl h, nofun⟩

/-- One step adds its event to the log. -/
theorem TableLog.step {events : List TableEvent} {s t : State} {a : Step} (h : TableLog events s)
    (hstep : s.step a = some t) : TableLog (events ++ (s.tableEvent a).toList) t where
  table id hin := by
    rcases table_of_step hstep hin with hinserts | ⟨hold, hremoves⟩
    · refine ⟨events, [], ?_, nofun⟩
      simp [State.tableEvent, hinserts]
    · obtain ⟨earlier, later, rfl, hnot⟩ := h.table id hold
      refine ⟨earlier, later ++ (s.tableEvent a).toList, by simp, ?_⟩
      rw [List.mem_append, not_or]
      refine ⟨hnot, fun hevent => hremoves ?_⟩
      rw [Option.mem_toList, State.tableEvent] at hevent
      split at hevent
      · cases hevent
      · rename_i i _ hi
        cases hevent
        exact hi
      · split_ifs at hevent
        cases hevent
  ended hterminated := by
    rcases terminated_of_step hstep hterminated with rfl | hbefore
    · exact List.mem_append_right _ List.mem_cons_self
    · exact List.mem_append_left _ (h.ended hbefore)

/-- **A dropped connection closes its streams in a run with an orderly end.** -/
theorem drained_of_orderly (role : Role) (steps : List Step) (s : State)
    (horderly : OrderlyEnd ((machine role).trace State.tableEvent (machine role).init steps))
    (hrun : (machine role).run (machine role).init steps = some s) : s.Drained := by
  have hlog : TableLog ((machine role).trace State.tableEvent (machine role).init steps) s :=
    (machine role).run_trace (tableLog_init role) (fun _ _ _ _ h hstep => h.step hstep) hrun
  intro hterminated id
  by_contra hin
  exact horderly.not_unremoved (hlog.ended hterminated) (hlog.table id hin)

/-- A stream is opened and closed by the peer, and then the connection ends. -/
def closedStreamSteps : List Step :=
  [.openStream .control, .openEnqueue 0, .openInsert 0, .peerSend .streamClose [0, 0, 0, 1],
    .inbound .read, .inbound .lock, .inbound .fail]

/-- The one stream is removed before the end. -/
theorem orderlyEnd_closedStream : OrderlyEnd [.inserted 1, .removed 1, .ended] := by
  intro before after hsplit
  rcases before with _ | ⟨e₁, _ | ⟨e₂, _ | ⟨e₃, rest⟩⟩⟩ <;> simp at hsplit
  obtain ⟨rfl, rfl, rfl⟩ := hsplit
  refine ⟨fun earlier id later hinserted => ?_, nofun⟩
  rcases earlier with _ | ⟨e₁, _ | ⟨e₂, rest⟩⟩ <;> simp at hinserted
  obtain ⟨rfl, rfl⟩ := hinserted
  exact List.mem_cons_self

theorem drained_closedStreamSteps :
    ∃ s, (machine .initiator).run (machine .initiator).init closedStreamSteps = some s ∧
      s.inbound.reader = .terminated ∧ s.Drained := by
  obtain ⟨s, hrun, hreader⟩ := (machine .initiator).exists_run closedStreamSteps
    (fun s => s.inbound.reader = .terminated) (by decide)
  refine ⟨s, hrun, hreader, drained_of_orderly .initiator closedStreamSteps s ?_ hrun⟩
  have hevents : (machine .initiator).trace State.tableEvent (machine .initiator).init
      closedStreamSteps = [.inserted 1, .removed 1, .ended] := by decide
  exact hevents ▸ orderlyEnd_closedStream

/-- A stream is open when the connection is dropped. -/
def droppedSteps : List Step :=
  [.openStream .control, .openEnqueue 0, .openInsert 0, .inbound .fail]

/-- Its sender stays in the table. -/
theorem dropped_not_drained :
    ∃ s, (machine .initiator).run (machine .initiator).init droppedSteps = some s ∧
      s.inbound.reader = .terminated ∧ s.inbound.table 1 = some 0 ∧ ¬ s.Drained := by
  obtain ⟨s, hrun, hreader, htable⟩ := (machine .initiator).exists_run droppedSteps
    (fun s => s.inbound.reader = .terminated ∧ s.inbound.table 1 = some 0) (by decide)
  refine ⟨s, hrun, hreader, htable, fun h => ?_⟩
  cases htable.symm.trans (h hreader 1)

end Roboat.Daemon.Demux
