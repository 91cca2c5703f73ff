import Roboat.Signaling.Seats

/-! # The peers of a signaling session

A `SignalingHandler` call owns a websocket and a peer: a `send` channel that its write pump empties
into the websocket, and a `done` channel that ends the pump. Its read pump hands every message on to
the peer that the session has in the other role at that moment.

Here the calls of `Roboat.Signaling.machine` are run operation by operation, with their pumps; the
registry and the sessions move as they do there (`base_step`). A peer that a newer one has replaced
is told so and ends in three steps of different goroutines: its `done` channel is closed, its write
pump sees that, and closes the websocket. Until then its read pump goes on, and `Session.relay` does
not ask who calls it (`silenced_fails`). A replaced peer is silent as long as `Session.relay` is
called for the session's own peers only (`silenced_of_relaysCurrent`). -/

namespace Roboat.Signaling

/-- The role at the other side of a session. -/
def Role.other : Role → Role
  | agent => client
  | client => agent

namespace Peers

/-! ## The machine -/

/-- The capacity of a peer's `send` channel. -/
def sendCapacity : Nat := 32

/-- The message types that the server sends itself, and any other text. -/
inductive SignalType where
  | sessionPreempted
  | clientReady
  | bye
  | other (text : Str)
  deriving DecidableEq, Repr

/-- `SignalMessage`; the payload is kept as its text. -/
structure SignalMessage where
  type : SignalType
  payload : Str
  robotID : Str
  bootstrapID : Str
  deriving DecidableEq, Repr

/-- A message in a `send` channel. `source` is the handler that has read it from its websocket, if
any, and `stale` says that its peer had been replaced by then; nobody reads the two. -/
structure Queued where
  msg : SignalMessage
  source : Option Nat := none
  stale : Bool := false
  deriving DecidableEq, Repr

/-- Where `SignalingHandler` stands, in more detail than `Phase`. -/
inductive Stage where
  /-- Before the install. -/
  | entering
  /-- A client has replaced another: before `enqueueSignal` of `session-preempted`. -/
  | preempting (prev : Nat) (counterpart : Option Nat)
  /-- Before `closeDone` of the peer that was replaced. -/
  | closingPrev (prev : Nat) (counterpart : Option Nat)
  /-- Before `activate`. -/
  | activating (counterpart : Option Nat)
  /-- Before `enqueueSignal` of `client-ready`. -/
  | readying (counterpart : Option Nat)
  /-- Before the goroutine of the connect trigger is started. -/
  | triggering
  /-- Before the write pump is started. -/
  | starting
  /-- In `ReadJSON`. -/
  | reading
  /-- A message was read, before `Session.relay`. -/
  | relaying (msg : SignalMessage) (stale : Bool)
  /-- The read pump has returned. -/
  | ended
  /-- The peer was cleared: before `enqueueSignal` of `bye`. -/
  | notifying (counterpart : Option Nat) (wasCurrent : Bool)
  /-- Before the goroutine of the teardown trigger is started. -/
  | tearing
  /-- Before `Registry.Remove`. -/
  | leaving
  | returned
  deriving DecidableEq, Repr

/-- Where `writePump` stands. -/
inductive WriterPhase where
  | notStarted
  | selecting
  /-- A message was taken, before `WriteJSON`. -/
  | writing (q : Queued)
  | returned
  deriving DecidableEq, Repr

/-- The channels of a peer, its websocket and its goroutines. The last two fields are history: a
newer peer of its role was installed in its session, and the messages that were written. -/
structure Peer where
  send : List Queued := []
  /-- `done` is closed. -/
  done : Bool := false
  /-- The websocket is closed. -/
  closed : Bool := false
  stage : Stage := .entering
  writer : WriterPhase := .notStarted
  replaced : Bool := false
  written : List Queued := []
  deriving DecidableEq, Repr

/-- The sessions with their handlers, and the peer of each handler. `relayed` is history: what
`Session.relay` has put into `send` channels, and of which peer. -/
structure State where
  base : Signaling.State
  peers : List Peer
  relayed : List (Nat × Queued)

/-- The operations of a handler and its read pump. -/
inductive HandlerStep where
  | getOrCreate
  | install
  | preempt
  | closePrev
  | activate
  | ready
  | trigger
  | start
  | read (msg : SignalMessage)
  | relay
  | readFail
  | disconnect
  | bye
  | teardown
  | leave
  deriving DecidableEq, Repr

/-- The operations of a write pump. -/
inductive WriterStep where
  | take
  | write
  | writeFail
  | pingFail
  /-- `done` is closed. -/
  | finish
  deriving DecidableEq, Repr

/-- The atomic steps. -/
inductive Step where
  | connect (robotID : Str) (role : Role) (peer : PeerConn)
  | handler (h : Nat) (a : HandlerStep)
  | writer (h : Nat) (a : WriterStep)
  deriving DecidableEq, Repr

/-- A message that the server sends on behalf of a handler. -/
def message (hd : Handler) (type : SignalType) : SignalMessage :=
  ⟨type, [], hd.robotID, hd.peer.bootstrapID⟩

/-- A message that was read, as the read pump hands it on. -/
def incoming (hd : Handler) (msg : SignalMessage) : SignalMessage :=
  { msg with
    robotID := hd.robotID
    bootstrapID := if trimSpace msg.bootstrapID = [] then hd.peer.bootstrapID else msg.bootstrapID }

/-- What comes after the peer that was there before, if any, has been dealt with. -/
def afterReplace (role : Role) (counterpart : Option Nat) : Stage :=
  match role with
  | .client => .activating counterpart
  | .agent => .starting

/-- What comes after the install. -/
def afterInstall (role : Role) (prev counterpart : Option Nat) : Stage :=
  match prev with
  | none => afterReplace role counterpart
  | some prev =>
    match role with
    | .client => .preempting prev counterpart
    -- an agent that is replaced is not told
    | .agent => .closingPrev prev counterpart

namespace State

def setBase (s : State) (base : Signaling.State) : State := { s with base := base }

def update (s : State) (h : Nat) (f : Peer → Peer) : State := { s with peers := s.peers.modify h f }

def setStage (s : State) (h : Nat) (stage : Stage) : State :=
  s.update h fun peer => { peer with stage := stage }

/-- A non-blocking send on the `send` channel of a peer: `none` when it is full. -/
def offer (s : State) (d : Nat) (q : Queued) : Option State :=
  match s.peers[d]? with
  | some peer =>
    if peer.send.length < sendCapacity then
      some (s.update d fun peer => { peer with send := peer.send ++ [q] })
    else none
  | none => none

/-- A message of `Session.relay` goes into the history. -/
def record (s : State) (d : Nat) (q : Queued) : State := { s with relayed := s.relayed ++ [(d, q)] }

/-- `enqueueSignal`. -/
def enqueueSignal (s : State) (d : Option Nat) (msg : SignalMessage) : State :=
  match d with
  -- a full channel drops the message
  | some d => (s.offer d { msg := msg }).getD s
  | none => s

/-- The peer that was there before, if any, goes into the history. -/
def replace (s : State) (prev : Option Nat) : State :=
  match prev with
  | some prev => s.update prev fun peer => { peer with replaced := true }
  | none => s

/-- Installing a peer, or refusing it. -/
def install (env : Env) (s : State) (h : Nat) (hd : Handler) (sid : Nat) : State :=
  let prev := (s.base.session sid).peer hd.role
  let counterpart := (s.base.session sid).peer hd.role.other
  let t := s.setBase (s.base.install env.fold env.window h hd sid)
  if shouldDebouncePeerReplacement env.fold (prev.bind s.base.peerConn) hd.peer env.window then
    -- the newcomer is closed, and nobody else notices
    t.update h fun peer => { peer with stage := .returned, closed := true }
  else (t.replace prev).setStage h (afterInstall hd.role prev counterpart)

/-- `Session.relay`, and back to `ReadJSON`. -/
def relay (s : State) (h : Nat) (hd : Handler) (sid : Nat) (msg : SignalMessage) (stale : Bool) :
    State :=
  match (s.base.session sid).peer hd.role.other with
  -- nobody is there yet
  | none => s.setStage h .reading
  | some d =>
    match s.offer d ⟨msg, some h, stale⟩ with
    | none => s.setStage h .reading
    | some t => (t.record d ⟨msg, some h, stale⟩).setStage h .reading

/-- Clearing a peer. -/
def disconnect (s : State) (h : Nat) (hd : Handler) (sid : Nat) : State :=
  -- who was replaced leaves the session as it is, and tells nobody
  let wasCurrent := (s.base.session sid).peer hd.role = some h
  (s.setBase (s.base.disconnect h hd sid)).setStage h
    (.notifying (if wasCurrent then (s.base.session sid).peer hd.role.other else none) wasCurrent)

/-- An operation of a handler. -/
def handlerStep (env : Env) (s : State) (h : Nat) (hd : Handler) (peer : Peer) :
    HandlerStep → Option State
  | .getOrCreate =>
    if peer.stage = .entering ∧ hd.phase = .upgraded then
      some (s.setBase (s.base.getOrCreate h hd))
    else none
  | .install =>
    match peer.stage, hd.phase with
    | .entering, .located sid => some (s.install env h hd sid)
    | _, _ => none
  | .preempt =>
    match peer.stage with
    | .preempting prev counterpart =>
      some ((s.enqueueSignal (some prev) (message hd .sessionPreempted)).setStage h
        (.closingPrev prev counterpart))
    | _ => none
  | .closePrev =>
    match peer.stage with
    | .closingPrev prev counterpart =>
      some ((s.update prev fun peer => { peer with done := true }).setStage h
        (afterReplace hd.role counterpart))
    | _ => none
  | .activate =>
    match peer.stage with
    | .activating counterpart => some (s.setStage h (.readying counterpart))
    | _ => none
  | .ready =>
    match peer.stage with
    | .readying counterpart =>
      some ((s.enqueueSignal counterpart (message hd .clientReady)).setStage h .triggering)
    | _ => none
  | .trigger =>
    match peer.stage, hd.phase with
    | .triggering, .installed _ => some (s.setStage h .starting)
    | _, _ => none
  | .start =>
    if peer.stage = .starting then
      some (s.update h fun peer => { peer with stage := .reading, writer := .selecting })
    else none
  | .read msg =>
    -- frames that are in the buffer of the connection are read even after it was closed
    if peer.stage = .reading then
      some (s.setStage h (.relaying (incoming hd msg) peer.replaced))
    else none
  | .relay =>
    match peer.stage, hd.phase with
    | .relaying msg stale, .installed sid => some (s.relay h hd sid msg stale)
    | _, _ => none
  | .readFail =>
    -- the deferred calls of the read pump close both
    if peer.stage = .reading then
      some (s.update h fun peer => { peer with stage := .ended, done := true, closed := true })
    else none
  | .disconnect =>
    match peer.stage, hd.phase with
    | .ended, .installed sid => some (s.disconnect h hd sid)
    | _, _ => none
  | .bye =>
    match peer.stage with
    | .notifying counterpart wasCurrent =>
      some ((s.enqueueSignal counterpart (message hd .bye)).setStage h
        (if hd.role = .client ∧ wasCurrent = true then .tearing else .leaving))
    | _ => none
  | .teardown =>
    match peer.stage, hd.phase with
    | .tearing, .cleared _ _ => some (s.setStage h .leaving)
    | _, _ => none
  | .leave =>
    match peer.stage, hd.phase with
    | .leaving, .cleared _ removeSession =>
      some ((s.setBase (s.base.leave h hd removeSession)).setStage h .returned)
    | _, _ => none

/-- An operation of a write pump. -/
def writerStep (s : State) (h : Nat) (peer : Peer) : WriterStep → Option State
  | .take =>
    match peer.writer, peer.send with
    | .selecting, q :: send =>
      some (s.update h fun peer => { peer with writer := .writing q, send := send })
    | _, _ => none
  | .write =>
    match peer.writer with
    | .writing q =>
      -- a write to a closed websocket fails
      if peer.closed = false then
        some (s.update h fun peer =>
          { peer with writer := .selecting, written := peer.written ++ [q] })
      else none
    | _ => none
  | .writeFail =>
    match peer.writer with
    | .writing _ =>
      some (s.update h fun peer => { peer with writer := .returned, closed := true })
    | _ => none
  | .pingFail =>
    if peer.writer = .selecting then
      some (s.update h fun peer => { peer with writer := .returned, closed := true })
    else none
  | .finish =>
    -- `select` takes any branch that is ready, so a message may be taken as well
    if peer.writer = .selecting ∧ peer.done = true then
      some (s.update h fun peer => { peer with writer := .returned, closed := true })
    else none

/-- The step function. -/
def step (env : Env) (s : State) : Step → Option State
  | .connect robotID role peer =>
    (s.base.step env (.connect robotID role peer)).map fun base =>
      { s.setBase base with peers := s.peers ++ [{}] }
  | .handler h a =>
    s.base.handlers[h]?.bind fun hd => s.peers[h]?.bind fun peer => s.handlerStep env h hd peer a
  | .writer h a => s.peers[h]?.bind fun peer => s.writerStep h peer a

end State

/-- **The signaling server** of a deployment. -/
def machine (env : Env) : Machine State Step where
  init := ⟨(Signaling.machine env).init, [], []⟩
  step := State.step env

/-! ## Moves -/

/-- The message in hand was read after the peer was replaced. -/
def Stage.stale : Stage → Bool
  | relaying _ stale => stale
  | _ => false

/-- Nothing is relayed, no peer is replaced, and no message is read. -/
structure Quiet (s t : State) : Prop where
  relayed : t.relayed = s.relayed
  peers : ∀ (p : Nat) peer', t.peers[p]? = some peer' → ∃ peer, s.peers[p]? = some peer ∧
    peer'.replaced = peer.replaced ∧ (peer'.stage.stale = true → peer.stage.stale = true)

/-- A step, by what it does to the sessions and to what is relayed. -/
inductive Move (env : Env) (s : State) : Step → State → Prop
  | quiet {a : Step} {t : State} (hbase : t.base = s.base) (hquiet : Quiet s t) : Move env s a t
  | connect {robotID : Str} {role : Role} {peer : PeerConn} {base : Signaling.State}
      (hbase : s.base.step env (.connect robotID role peer) = some base) :
    Move env s (.connect robotID role peer) { s.setBase base with peers := s.peers ++ [{}] }
  | getOrCreate {h : Nat} {hd : Handler} (hh : s.base.handlers[h]? = some hd)
      (hphase : hd.phase = .upgraded) :
    Move env s (.handler h .getOrCreate) (s.setBase (s.base.getOrCreate h hd))
  | install {h sid : Nat} {hd : Handler} (hh : s.base.handlers[h]? = some hd)
      (hphase : hd.phase = .located sid) :
    Move env s (.handler h .install) (s.install env h hd sid)
  | read {h : Nat} {peer : Peer} (msg msg' : SignalMessage) (hp : s.peers[h]? = some peer) :
    Move env s (.handler h (.read msg)) (s.setStage h (.relaying msg' peer.replaced))
  | relay {h sid d : Nat} {hd : Handler} {peer : Peer} {msg : SignalMessage} {stale : Bool}
      {t : State} (hh : s.base.handlers[h]? = some hd) (hphase : hd.phase = .installed sid)
      (hp : s.peers[h]? = some peer) (hstage : peer.stage = .relaying msg stale)
      (hbase : t.base = s.base) (hquiet : Quiet s t) :
    Move env s (.handler h .relay) ((t.record d ⟨msg, some h, stale⟩).setStage h .reading)
  | disconnect {h sid : Nat} {hd : Handler} (hh : s.base.handlers[h]? = some hd)
      (hphase : hd.phase = .installed sid) :
    Move env s (.handler h .disconnect) (s.disconnect h hd sid)
  | leave {h sid : Nat} {hd : Handler} {removeSession : Bool}
      (hh : s.base.handlers[h]? = some hd) (hphase : hd.phase = .cleared sid removeSession) :
    Move env s (.handler h .leave)
      ((s.setBase (s.base.leave h hd removeSession)).setStage h .returned)

section Moves

variable {env : Env} {s t u : State} {h : Nat} {hd : Handler} {peer : Peer}

theorem peers_update {p : Nat} {f : Peer → Peer} {peer' : Peer}
    (hp : (s.update h f).peers[p]? = some peer') :
    ∃ peer, s.peers[p]? = some peer ∧ peer' = if h = p then f peer else peer := by
  rw [State.update, List.getElem?_modify] at hp
  obtain ⟨peer, hpeer, rfl⟩ := Option.map_eq_some_iff.mp hp
  exact ⟨peer, hpeer, rfl⟩

theorem eq_of_offer {d : Nat} {q : Queued} (hoffer : s.offer d q = some t) :
    t = s.update d fun peer => { peer with send := peer.send ++ [q] } := by
  unfold State.offer at hoffer
  split at hoffer
  · split_ifs at hoffer
    exact (Option.some.inj hoffer).symm
  · cases hoffer

/-- A signal is dropped or comes into its destination's channel. -/
theorem enqueueSignal_cases (s : State) (d : Option Nat) (msg : SignalMessage) :
    s.enqueueSignal d msg = s ∨ ∃ dest q, s.enqueueSignal d msg =
      s.update dest fun peer => { peer with send := peer.send ++ [q] } := by
  unfold State.enqueueSignal
  split
  · rename_i d
    cases hoffer : s.offer d { msg := msg } with
    | none => exact Or.inl rfl
    | some t => exact Or.inr ⟨d, { msg := msg }, eq_of_offer hoffer⟩
  · exact Or.inl rfl

namespace Quiet

theorem refl (s : State) : Quiet s s where
  relayed := rfl
  peers _ peer hp := ⟨peer, hp, rfl, id⟩

theorem trans (hst : Quiet s t) (htu : Quiet t u) : Quiet s u where
  relayed := htu.relayed.trans hst.relayed
  peers p peer hp := by
    obtain ⟨mid, hmid, hreplaced, hstale⟩ := htu.peers p peer hp
    obtain ⟨old, hold, hreplaced', hstale'⟩ := hst.peers p mid hmid
    exact ⟨old, hold, hreplaced.trans hreplaced', fun h => hstale' (hstale h)⟩

/-- One peer changes. -/
theorem update (s : State) (h : Nat) {f : Peer → Peer}
    (hreplaced : ∀ peer, (f peer).replaced = peer.replaced)
    (hstale : ∀ peer, (f peer).stage.stale = true → peer.stage.stale = true) :
    Quiet s (s.update h f) where
  relayed := rfl
  peers p peer' hp := by
    obtain ⟨peer, hold, rfl⟩ := peers_update hp
    refine ⟨peer, hold, ?_⟩
    split_ifs
    · exact ⟨hreplaced peer, hstale peer⟩
    · exact ⟨rfl, id⟩

theorem setBase (s : State) (base : Signaling.State) : Quiet s (s.setBase base) where
  relayed := rfl
  peers _ peer hp := ⟨peer, hp, rfl, id⟩

theorem setStage (s : State) (h : Nat) {stage : Stage} (hstage : stage.stale = false) :
    Quiet s (s.setStage h stage) := by
  refine update s h (fun _ => rfl) fun peer hstale => ?_
  rw [show ({ peer with stage := stage } : Peer).stage.stale = false from hstage] at hstale
  cases hstale

theorem offer {d : Nat} {q : Queued} (hoffer : s.offer d q = some t) : Quiet s t := by
  rw [eq_of_offer hoffer]
  exact update s d (fun _ => rfl) fun _ => id

theorem enqueueSignal (s : State) (d : Option Nat) (msg : SignalMessage) :
    Quiet s (s.enqueueSignal d msg) := by
  rcases enqueueSignal_cases s d msg with heq | ⟨dest, q, heq⟩
  · rw [heq]
    exact refl s
  · rw [heq]
    exact update s dest (fun _ => rfl) fun _ => id

end Quiet

theorem base_offer {d : Nat} {q : Queued} (hoffer : s.offer d q = some t) : t.base = s.base := by
  rw [eq_of_offer hoffer]
  rfl

theorem base_enqueueSignal (s : State) (d : Option Nat) (msg : SignalMessage) :
    (s.enqueueSignal d msg).base = s.base := by
  rcases enqueueSignal_cases s d msg with heq | ⟨dest, q, heq⟩ <;> rw [heq]
  rfl

theorem afterReplace_stale (role : Role) (counterpart : Option Nat) :
    (afterReplace role counterpart).stale = false := by
  cases role <;> rfl

theorem afterInstall_stale (role : Role) (prev counterpart : Option Nat) :
    (afterInstall role prev counterpart).stale = false := by
  cases prev <;> cases role <;> rfl

theorem move_of_relay {sid : Nat} {msg : SignalMessage} {stale : Bool}
    (hh : s.base.handlers[h]? = some hd) (hphase : hd.phase = .installed sid)
    (hp : s.peers[h]? = some peer) (hstage : peer.stage = .relaying msg stale) :
    Move env s (.handler h .relay) (s.relay h hd sid msg stale) := by
  unfold State.relay
  split
  · exact .quiet rfl (.setStage s h rfl)
  · split
    · exact .quiet rfl (.setStage s h rfl)
    · rename_i hoffer
      exact .relay hh hphase hp hstage (base_offer hoffer) (.offer hoffer)

/-- A handler's steps are moves. -/
theorem move_of_handlerStep {a : HandlerStep} (hh : s.base.handlers[h]? = some hd)
    (hp : s.peers[h]? = some peer) (hstep : s.handlerStep env h hd peer a = some t) :
    Move env s (.handler h a) t := by
  cases a with
  | getOrCreate =>
    simp only [State.handlerStep] at hstep
    split_ifs at hstep with hstage
    cases hstep
    exact .getOrCreate hh hstage.2
  | install =>
    simp only [State.handlerStep] at hstep
    split at hstep
    · rename_i sid hstage hphase
      cases hstep
      exact .install hh hphase
    · cases hstep
  | relay =>
    simp only [State.handlerStep] at hstep
    split at hstep
    · rename_i msg stale sid hstage hphase
      cases hstep
      exact move_of_relay hh hphase hp hstage
    · cases hstep
  | disconnect =>
    simp only [State.handlerStep] at hstep
    split at hstep
    · rename_i sid hstage hphase
      cases hstep
      exact .disconnect hh hphase
    · cases hstep
  | leave =>
    simp only [State.handlerStep] at hstep
    split at hstep
    · rename_i sid removeSession hstage hphase
      cases hstep
      exact .leave hh hphase
    · cases hstep
  | preempt | ready =>
    simp only [State.handlerStep] at hstep
    split at hstep
    · cases hstep
      exact .quiet (base_enqueueSignal s _ _) (.trans (.enqueueSignal s _ _) (.setStage _ h rfl))
    · cases hstep
  | bye =>
    simp only [State.handlerStep] at hstep
    split at hstep
    · cases hstep
      refine .quiet (base_enqueueSignal s _ _)
        (.trans (.enqueueSignal s _ _) (.setStage _ h ?_))
      split <;> rfl
    · cases hstep
  | closePrev =>
    simp only [State.handlerStep] at hstep
    split at hstep
    · cases hstep
      refine .quiet rfl (.trans ?_ (.setStage _ h (afterReplace_stale _ _)))
      exact .update s _ (fun _ => rfl) fun _ => id
    · cases hstep
  | activate | trigger | teardown =>
    simp only [State.handlerStep] at hstep
    split at hstep
    · cases hstep
      exact .quiet rfl (.setStage s h rfl)
    · cases hstep
  | start | readFail =>
    simp only [State.handlerStep] at hstep
    split_ifs at hstep
    cases hstep
    exact .quiet rfl (.update s h (fun _ => rfl) fun _ hstale => by cases hstale)
  | read msg =>
    simp only [State.handlerStep] at hstep
    split_ifs at hstep
    cases hstep
    exact .read msg _ hp

/-- A writer's steps are moves. -/
theorem move_of_writerStep {a : WriterStep} (hstep : s.writerStep h peer a = some t) :
    Move env s (.writer h a) t := by
  -- the write pump keeps to its own channel and its own phase
  have hown : ∀ {f : Peer → Peer}, (∀ peer, (f peer).replaced = peer.replaced) →
      (∀ peer, (f peer).stage = peer.stage) → Move env s (.writer h a) (s.update h f) :=
    fun hreplaced hstage =>
      .quiet rfl (.update s h hreplaced fun peer => by rw [hstage peer]; exact id)
  cases a with
  | take | writeFail =>
    simp only [State.writerStep] at hstep
    split at hstep
    · cases hstep
      exact hown (fun _ => rfl) fun _ => rfl
    · cases hstep
  | write =>
    simp only [State.writerStep] at hstep
    split at hstep
    · split_ifs at hstep
      cases hstep
      exact hown (fun _ => rfl) fun _ => rfl
    · cases hstep
  | pingFail | finish =>
    simp only [State.writerStep] at hstep
    split_ifs at hstep
    cases hstep
    exact hown (fun _ => rfl) fun _ => rfl

/-- **What a step does.** -/
theorem move_of_step {a : Step} (hstep : s.step env a = some t) : Move env s a t := by
  cases a with
  | connect robotID role peer =>
    obtain ⟨base, hbase, rfl⟩ := Option.map_eq_some_iff.mp hstep
    exact .connect hbase
  | handler h a =>
    obtain ⟨hd, hh, hstep⟩ := Option.bind_eq_some_iff.mp hstep
    obtain ⟨peer, hp, hstep⟩ := Option.bind_eq_some_iff.mp hstep
    exact move_of_handlerStep hh hp hstep
  | writer h a =>
    obtain ⟨peer, -, hstep⟩ := Option.bind_eq_some_iff.mp hstep
    exact move_of_writerStep hstep

/-! ### The sessions

Seen from the registry and the sessions, a step is a step of `Roboat.Signaling.machine`, or none. -/

theorem base_replace (s : State) (prev : Option Nat) : (s.replace prev).base = s.base := by
  cases prev <;> rfl

theorem base_install (s : State) (h : Nat) (hd : Handler) (sid : Nat) :
    (s.install env h hd sid).base = s.base.install env.fold env.window h hd sid := by
  unfold State.install
  simp only
  split_ifs
  · rfl
  · exact base_replace _ _

theorem relayed_install (s : State) (h : Nat) (hd : Handler) (sid : Nat) :
    (s.install env h hd sid).relayed = s.relayed := by
  unfold State.install
  simp only
  split_ifs
  · rfl
  · cases (s.base.session sid).peer hd.role <;> rfl

theorem peers_replace {prev : Option Nat} {p : Nat} {peer' : Peer}
    (hp : (s.replace prev).peers[p]? = some peer') :
    ∃ peer, s.peers[p]? = some peer ∧ peer'.stage = peer.stage ∧
      (peer'.replaced = true ↔ peer.replaced = true ∨ prev = some p) := by
  cases prev with
  | none => exact ⟨peer', hp, rfl, by simp⟩
  | some prev =>
    obtain ⟨peer, hold, rfl⟩ := peers_update hp
    refine ⟨peer, hold, ?_⟩
    by_cases hprev : prev = p <;> simp [hprev]

/-- The peers after an install. -/
theorem peers_install {sid p : Nat} {peer' : Peer}
    (hinstall : shouldDebouncePeerReplacement env.fold
      (((s.base.session sid).peer hd.role).bind s.base.peerConn) hd.peer env.window = false)
    (hp : (s.install env h hd sid).peers[p]? = some peer') :
    ∃ peer, s.peers[p]? = some peer ∧ (peer.replaced = true → peer'.replaced = true) ∧
      (peer'.stage.stale = true → peer.stage.stale = true) ∧
      (peer'.replaced = true → peer.replaced = true ∨
        (s.base.session sid).peer hd.role = some p) := by
  simp only [State.install, hinstall, Bool.false_eq_true, if_false] at hp
  obtain ⟨mid, hmid, hreplaced, hstale⟩ :=
    (Quiet.setStage _ h (afterInstall_stale _ _ _)).peers p peer' hp
  obtain ⟨peer, hold, hstage, hiff⟩ := peers_replace hmid
  rw [hreplaced]
  refine ⟨peer, hold, fun hwas => hiff.mpr (Or.inl hwas), fun h => ?_, hiff.mp⟩
  rw [← hstage]
  exact hstale h

/-- **Refinement.** -/
theorem base_step {a : Step} (hstep : s.step env a = some t) :
    t.base = s.base ∨ ∃ b, s.base.step env b = some t.base := by
  cases move_of_step hstep with
  | quiet hbase | relay hh hphase hp hstage hbase => exact Or.inl hbase
  | connect hbase => exact Or.inr ⟨_, hbase⟩
  | @getOrCreate h hd hh hphase =>
    refine Or.inr ⟨.getOrCreate h, ?_⟩
    rw [Signaling.State.step, hh, Option.bind_some, if_pos hphase]
    rfl
  | @install h sid hd hh hphase =>
    refine Or.inr ⟨.install h, ?_⟩
    rw [Signaling.State.step, hh, Option.bind_some, hphase, base_install]
  | read => exact Or.inl rfl
  | @disconnect h sid hd hh hphase =>
    refine Or.inr ⟨.disconnect h, ?_⟩
    rw [Signaling.State.step, hh, Option.bind_some, hphase]
    rfl
  | @leave h sid hd removeSession hh hphase =>
    refine Or.inr ⟨.leave h, ?_⟩
    rw [Signaling.State.step, hh, Option.bind_some, hphase]
    rfl

end Moves

/-! ## Replaced peers -/

namespace State

/-- **A replaced peer is silent**: nothing that was read from its websocket after it was replaced
has been put into the channel of another peer. -/
def Silenced (s : State) : Prop := ∀ r ∈ s.relayed, r.2.stale = false

/-- **The condition**: `Session.relay` is called only for the peer that the session has in the
caller's role. -/
def RelaysCurrent (s : State) : Step → Prop
  | .handler h .relay => ∀ hd ∈ s.base.handlers[h]?, ∀ sid ∈ hd.phase.installedIn,
      (s.base.session sid).peer hd.role = some h
  | _ => True

instance (s : State) : ∀ a, Decidable (s.RelaysCurrent a)
  | .handler h .relay => Option.decidableForallMem s.base.handlers[h]?
  | .handler _ .getOrCreate | .handler _ .install | .handler _ .preempt => isTrue trivial
  | .handler _ .closePrev | .handler _ .activate | .handler _ .ready => isTrue trivial
  | .handler _ .trigger | .handler _ .start | .handler _ (.read _) => isTrue trivial
  | .handler _ .readFail | .handler _ .disconnect | .handler _ .bye => isTrue trivial
  | .handler _ .teardown | .handler _ .leave => isTrue trivial
  | .connect .. | .writer .. => isTrue trivial

end State

/-- **The invariant.** A replaced peer is past its install and sits in no session, and only a
replaced peer has a stale message in hand. -/
structure Inv (s : State) : Prop where
  seated : s.base.Seated
  replaced : ∀ (p : Nat) peer, s.peers[p]? = some peer → peer.replaced = true →
    s.base.Late p ∧ ∀ sid role, (s.base.session sid).peer role ≠ some p
  stale : ∀ (p : Nat) peer, s.peers[p]? = some peer → peer.stage.stale = true →
    peer.replaced = true
  silenced : s.Silenced

namespace Inv

variable {env : Env} {s t : State} {h sid : Nat} {hd : Handler} {peer : Peer}

/-- A step that seats nobody. -/
theorem calm (hs : Inv s) (hquiet : Quiet s t) (hseated : t.base.Seated)
    (hlate : ∀ p, s.base.Late p → t.base.Late p)
    (hseats : ∀ sid role p, (t.base.session sid).peer role = some p →
      (s.base.session sid).peer role = some p) : Inv t where
  seated := hseated
  replaced p peer hp hreplaced := by
    obtain ⟨old, hold, heq, -⟩ := hquiet.peers p peer hp
    obtain ⟨hlate', hnone⟩ := hs.replaced p old hold (heq ▸ hreplaced)
    exact ⟨hlate p hlate', fun sid role hseat => hnone sid role (hseats sid role p hseat)⟩
  stale p peer hp hstale := by
    obtain ⟨old, hold, heq, hstale'⟩ := hquiet.peers p peer hp
    rw [heq]
    exact hs.stale p old hold (hstale' hstale)
  silenced := by
    unfold State.Silenced
    rw [hquiet.relayed]
    exact hs.silenced

/-- A step that leaves the sessions alone. -/
theorem quiet (hs : Inv s) (hbase : t.base = s.base) (hquiet : Quiet s t) : Inv t := by
  refine hs.calm hquiet ?_ ?_ ?_ <;> rw [hbase]
  · exact hs.seated
  · exact fun _ => id
  · exact fun _ _ _ => id

/-- A new handler. -/
theorem connect (hs : Inv s) {robotID : Str} {role : Role} {pc : PeerConn} {base : Signaling.State}
    (hbase : s.base.step env (.connect robotID role pc) = some base) :
    Inv { s.setBase base with peers := s.peers ++ [{}] } where
  seated := hs.seated.step env hbase
  replaced p peer hp hreplaced := by
    rcases Tasks.of_append hp with ⟨-, rfl⟩ | ⟨-, hold⟩
    · cases hreplaced
    · obtain ⟨hlate, hnone⟩ := hs.replaced p peer hold hreplaced
      refine ⟨hlate.step env hbase, ?_⟩
      simp only [Signaling.State.step] at hbase
      split_ifs at hbase
      cases hbase
      exact hnone
  stale p peer hp hstale := by
    rcases Tasks.of_append hp with ⟨-, rfl⟩ | ⟨-, hold⟩
    · cases hstale
    · exact hs.stale p peer hold hstale
  silenced := hs.silenced

/-- A message is read. It is stale if the peer has been replaced. -/
theorem read (hs : Inv s) (hp : s.peers[h]? = some peer) (msg : SignalMessage) :
    Inv (s.setStage h (.relaying msg peer.replaced)) where
  seated := hs.seated
  replaced p peer' hp' hreplaced := by
    obtain ⟨old, hold, rfl⟩ := peers_update hp'
    refine hs.replaced p old hold ?_
    split_ifs at hreplaced <;> exact hreplaced
  stale p peer' hp' hstale := by
    obtain ⟨old, hold, rfl⟩ := peers_update hp'
    split_ifs at hstale ⊢ with hph
    · subst hph
      obtain rfl : peer = old := Option.some.inj (hp.symm.trans hold)
      exact hstale
    · exact hs.stale p old hold hstale
  silenced := hs.silenced

/-- A message of a peer that has not been replaced is relayed. -/
theorem record (hs : Inv s) {d : Nat} {q : Queued} (hq : q.stale = false) : Inv (s.record d q) :=
  { hs with silenced := Tasks.forall_mem_append hs.silenced hq }

/-- A peer is refused. -/
theorem refuse (hs : Inv s) (hseated : (s.install env h hd sid).base.Seated)
    (hlate : ∀ p, s.base.Late p → (s.install env h hd sid).base.Late p)
    (hrefused : shouldDebouncePeerReplacement env.fold
      (((s.base.session sid).peer hd.role).bind s.base.peerConn) hd.peer env.window = true) :
    Inv (s.install env h hd sid) := by
  refine hs.calm ?_ hseated hlate ?_
  · simp only [State.install, hrefused, if_true]
    refine Quiet.trans (Quiet.setBase s
      (s.base.install env.fold env.window h hd sid)) (.update _ h (fun _ => rfl) ?_)
    exact fun _ hstale => by cases hstale
  · rw [base_install]
    simp only [Signaling.State.install, hrefused, if_true]
    exact fun _ _ _ => id

/-- A peer is installed. Whoever it replaces sits nowhere any more. -/
theorem install (hs : Inv s) (hh : s.base.handlers[h]? = some hd) (hphase : hd.phase = .located sid)
    (hseated : (s.install env h hd sid).base.Seated)
    (hlate : ∀ p, s.base.Late p → (s.install env h hd sid).base.Late p)
    (hinstall : shouldDebouncePeerReplacement env.fold
      (((s.base.session sid).peer hd.role).bind s.base.peerConn) hd.peer env.window = false) :
    Inv (s.install env h hd sid) := by
  have hnew : ¬ s.base.Late h := Signaling.State.not_late hh (by rw [hphase]; rfl)
  refine ⟨hseated, fun p peer hp hreplaced => ?_, fun p peer hp hstale => ?_, ?_⟩
  · -- it was replaced before, or it is replaced now
    have hwas : s.base.Late p ∧ ∀ sid' role, (s.base.session sid').peer role = some p →
        sid' = sid ∧ role = hd.role := by
      obtain ⟨old, hold, -, -, hcause⟩ := peers_install hinstall hp
      rcases hcause hreplaced with hbefore | hseat
      · obtain ⟨hlate', hnone⟩ := hs.replaced p old hold hbefore
        exact ⟨hlate', fun sid' role hseat => absurd hseat (hnone sid' role)⟩
      · obtain ⟨hd', hh', hrole, hinstalled⟩ := hs.seated sid hd.role p hseat
        refine ⟨⟨hd', hh', by rw [hinstalled]; rfl⟩, fun sid' role hseat' => ?_⟩
        obtain ⟨hd'', hh'', hrole', hinstalled'⟩ := hs.seated sid' role p hseat'
        obtain rfl : hd' = hd'' := Option.some.inj (hh'.symm.trans hh'')
        exact ⟨Phase.installed.inj (hinstalled'.symm.trans hinstalled), hrole'.symm.trans hrole⟩
    refine ⟨hlate p hwas.1, fun sid' role hseat => ?_⟩
    rw [base_install] at hseat
    -- the new peer was not late before, and the seat it takes is the only one `p` had
    rcases Signaling.State.peer_of_install hinstall hseat with ⟨rfl, -, -⟩ | ⟨hold, hne⟩
    · exact hnew hwas.1
    · exact hne (hwas.2 sid' role hold)
  · obtain ⟨old, hold, hkeep, hstale', -⟩ := peers_install hinstall hp
    exact hkeep (hs.stale p old hold (hstale' hstale))
  · unfold State.Silenced
    rw [relayed_install]
    exact hs.silenced

/-- **Every step that meets the condition keeps the invariant.** -/
theorem step {a : Step} (hs : Inv s) (hcurrent : s.RelaysCurrent a)
    (hstep : s.step env a = some t) : Inv t := by
  obtain ⟨hseated, hlate⟩ : t.base.Seated ∧ ∀ p, s.base.Late p → t.base.Late p := by
    rcases base_step hstep with hbase | ⟨b, hb⟩
    · rw [hbase]
      exact ⟨hs.seated, fun _ => id⟩
    · exact ⟨hs.seated.step env hb, fun _ hlate => hlate.step env hb⟩
  cases move_of_step hstep with
  | quiet hbase hquiet => exact hs.quiet hbase hquiet
  | connect hbase => exact hs.connect hbase
  | getOrCreate =>
    exact hs.calm (.setBase s _) hseated hlate
      fun _ _ _ hseat => Signaling.State.peer_of_getOrCreate hseat
  | @install h sid hd hh hphase =>
    cases hrefused : shouldDebouncePeerReplacement env.fold
        (((s.base.session sid).peer hd.role).bind s.base.peerConn) hd.peer env.window with
    | true => exact hs.refuse hseated hlate hrefused
    | false => exact hs.install hh hphase hseated hlate hrefused
  | read msg msg' hp => exact hs.read hp msg'
  | @relay h sid d hd peer msg stale u hh hphase hp hstage hbase hquiet =>
    -- the caller sits in the session, and a replaced peer sits nowhere
    have hfresh : stale = false := by
      by_contra hstale
      have hhand : peer.stage.stale = true := by
        rw [hstage]
        exact Bool.of_not_eq_false hstale
      have hreplaced := hs.stale h peer hp hhand
      exact (hs.replaced h peer hp hreplaced).2 sid hd.role
        (hcurrent hd hh sid (by rw [hphase]; rfl))
    exact ((hs.quiet hbase hquiet).record hfresh).quiet rfl (.setStage _ h rfl)
  | @disconnect h =>
    exact hs.calm ((Quiet.setBase s _).trans (.setStage _ h rfl)) hseated hlate
      fun _ _ _ hseat => Signaling.State.peer_of_disconnect hseat
  | @leave h sid hd removeSession =>
    refine hs.calm ((Quiet.setBase s _).trans (.setStage _ h rfl)) hseated hlate
      fun sid' role p hseat => ?_
    have hsession : (s.base.leave h hd removeSession).session = s.base.session := by
      unfold Signaling.State.leave
      split <;> rfl
    rw [← hsession]
    exact hseat

end Inv

/-- **A replaced peer is silent when only current peers relay.** -/
theorem silenced_of_relaysCurrent (env : Env) (steps : List Step) (s : State)
    (halong : (machine env).Along State.RelaysCurrent (machine env).init steps)
    (hrun : (machine env).run (machine env).init steps = some s) : s.Silenced := by
  have hinit : Inv (machine env).init := by
    refine ⟨fun sid role p hseat => ?_, fun p peer hp => ?_, fun p peer hp => ?_, fun r hr => ?_⟩
    · cases role <;> cases hseat
    · simp [machine] at hp
    · simp [machine] at hp
    · simp [machine] at hr
  exact ((machine env).along_invariant (fun _ _ _ hs hcurrent hstep => hs.step hcurrent hstep) hinit
    halong hrun).silenced

/-- Operations of one handler. -/
def onHandler (h : Nat) (as : List HandlerStep) : List Step := as.map (Step.handler h)

/-- An agent connects. -/
def agentSteps (h : Nat) (time : Int) : List Step :=
  .connect robotA .agent (peerAt time 'a') :: onHandler h [.getOrCreate, .install, .start]

/-- A client connects, up to the install. -/
def clientSteps (h : Nat) (time : Int) (ip : Char) : List Step :=
  .connect robotA .client (peerAt time ip) :: onHandler h [.getOrCreate, .install]

/-- The rest of a client's way to its read pump. -/
def pumpSteps (h : Nat) : List Step := onHandler h [.activate, .ready, .trigger, .start]

/-- A message as it comes from a websocket. -/
def sampleMessage (text : String) : SignalMessage := ⟨.other text.toList, [], [], []⟩

/-- A client is replaced. Its write pump tells it so and closes the websocket, and its handler
returns. -/
def relievedSteps : List Step :=
  agentSteps 0 1 ++ clientSteps 1 2 'c' ++ pumpSteps 1 ++
    onHandler 0 [.read (sampleMessage "offer"), .relay] ++
    onHandler 1 [.read (sampleMessage "answer"), .relay] ++
    clientSteps 2 9 'd' ++ onHandler 2 [.preempt, .closePrev] ++
    [.writer 1 .take, .writer 1 .write, .writer 1 .take, .writer 1 .write, .writer 1 .finish] ++
    onHandler 1 [.readFail, .disconnect, .bye, .leave] ++ pumpSteps 2 ++
    onHandler 2 [.read (sampleMessage "answer"), .relay]

theorem silenced_relievedSteps :
    ∃ s, (machine sampleEnv).run (machine sampleEnv).init relievedSteps = some s ∧
      (s.relayed.map fun r => (r.1, r.2.source)) = [(1, some 0), (0, some 1), (0, some 2)] ∧
      s.Silenced := by
  obtain ⟨s, hrun, hrelayed⟩ := (machine sampleEnv).exists_run relievedSteps
    (fun s => (s.relayed.map fun r => (r.1, r.2.source))
      = [(1, some 0), (0, some 1), (0, some 2)]) (by decide)
  exact ⟨s, hrun, hrelayed, silenced_of_relaysCurrent sampleEnv _ s (by decide) hrun⟩

/-! ### A voice from the past -/

/-- A client has been replaced, and its read pump reads a message before it is told. -/
def lingeringSteps : List Step :=
  agentSteps 0 1 ++ clientSteps 1 2 'c' ++ pumpSteps 1 ++ clientSteps 2 9 'd' ++
    onHandler 1 [.read (sampleMessage "answer"), .relay]

/-- The agent gets the answer of the client that was replaced, in the session of the new one. -/
theorem silenced_fails :
    ∃ s, (machine sampleEnv).run (machine sampleEnv).init lingeringSteps = some s ∧
      (s.base.session 0).peer .client = some 2 ∧
      (∃ agent ∈ s.peers[0]?, ∃ q ∈ agent.send, q.source = some 1 ∧ q.stale = true) ∧
      ¬ s.Silenced := by
  obtain ⟨s, hrun, hclient, hagent, r, hr, hstale⟩ :=
    (machine sampleEnv).exists_run lingeringSteps
      (fun s => (s.base.session 0).peer .client = some 2 ∧
        (∃ agent ∈ s.peers[0]?, ∃ q ∈ agent.send, q.source = some 1 ∧ q.stale = true) ∧
        ∃ r ∈ s.relayed, r.2.stale = true) (by decide)
  refine ⟨s, hrun, hclient, hagent, fun hsilenced => ?_⟩
  rw [hsilenced r hr] at hstale
  cases hstale

end Peers

end Roboat.Signaling
