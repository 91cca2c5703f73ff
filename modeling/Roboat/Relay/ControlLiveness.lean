import Roboat.Connstate.State
import Roboat.Transition.Machine
import Roboat.Transition.Tasks
import Roboat.Relay.Hub

/-! # Control connections and the liveness store

The hub holds the current control connection of each robot, `connstate` whether its control channel
is up. The two are kept under different locks, by the handler of a connection and by its write
pump: the handler registers in the hub and then sets the flag, and at the end it unregisters and
then clears the flag, if the connection was still the current one; every message read and every
message written sets the flag again.

Nothing orders the writes to the store with the changes of the hub. A write pump that is about to
touch the store when its connection is removed sets the flag of a robot that is gone, and a handler
that clears the flag late clears it for a robot that is back. What holds when each write finds the
hub as it expects is `Liveness`. -/

namespace Roboat.Relay.Control

open Connstate (Time Store)

/-- The concurrency policies; any other text of the setting stands for `rejectNew`. -/
inductive Policy where
  | rejectNew
  | preemptExisting
  deriving DecidableEq, Repr

def Policy.text : Policy → Str
  | rejectNew => "reject_new".toList
  | preemptExisting => "preempt_existing".toList

/-- Where `handleAgentControlConnect` stands. -/
inductive HandlerPhase where
  /-- Before `RegisterWithPolicy`. -/
  | registering
  /-- Turned away for the incumbent, before `RecordControlContention`. -/
  | rejected (policy : Policy) (incumbent : Nat)
  /-- Registered, before it closes the connection it replaced. -/
  | replacing (prev : Nat)
  /-- Before `UpsertControlConnected`. -/
  | upserting
  /-- In `ReadMessage`. -/
  | reading
  /-- A frame was read, before `TouchControlActivity`. -/
  | touching
  /-- The read pump has returned, before `Unregister`. -/
  | unregistering
  /-- Removed from the hub, before `SetControlDisconnected`. -/
  | disconnecting
  | returned
  deriving DecidableEq, Repr

/-- Where `writeAgentControlPump` stands. -/
inductive WriterPhase where
  | notStarted
  | selecting
  /-- A message or a ping was written, before `TouchControlActivity`. -/
  | touching
  | returned
  deriving DecidableEq, Repr

/-- A control connection with its two goroutines. -/
structure Conn where
  robotID : Str
  observedSrcIP : Str
  /-- `done` is closed. -/
  closed : Bool := false
  handler : HandlerPhase := .registering
  writer : WriterPhase := .notStarted
  deriving DecidableEq, Repr

/-- The hub's `conns`, the store, and all connections so far. -/
structure State where
  conns : Str → Option Nat
  store : Store
  agents : List Conn

/-- The atomic steps of the goroutines; a time is what `time.Now` gives the step. -/
inductive Step where
  | connect (robotID observedSrcIP : Str)
  | register (i : Nat) (policy : Policy)
  | contend (i : Nat) (time : Time)
  | closePrev (i : Nat)
  | upsert (i : Nat) (time : Time)
  | readMessage (i : Nat)
  | readTouch (i : Nat) (time : Time)
  | readFail (i : Nat)
  | unregister (i : Nat)
  | disconnect (i : Nat) (time : Time)
  | write (i : Nat)
  | writeTouch (i : Nat) (time : Time)
  | writeEnd (i : Nat)
  deriving DecidableEq, Repr

namespace State

def setAgent (s : State) (i : Nat) (conn : Conn) : State := { s with agents := s.agents.set i conn }

def setConns (s : State) (robotID : Str) (conn : Option Nat) : State :=
  { s with conns := Function.update s.conns robotID conn }

/-- `close` of another connection. -/
def closeAgent (s : State) (i : Nat) : State :=
  match s.agents[i]? with
  | some conn => s.setAgent i { conn with closed := true }
  | none => s

/-- `RegisterWithPolicy`. -/
def registerWithPolicy (s : State) (i : Nat) (conn : Conn) (policy : Policy) : State :=
  match s.conns conn.robotID, policy with
  -- the incumbent stays, and all that is left of the newcomer is a note in the store
  | some prev, .rejectNew => s.setAgent i { conn with handler := .rejected policy prev }
  -- the map is changed under the lock; the connection it had is closed after that
  | some prev, .preemptExisting =>
    (s.setConns conn.robotID (some i)).setAgent i
      { conn with handler := .replacing prev }
  | none, _ =>
    (s.setConns conn.robotID (some i)).setAgent i
      { conn with handler := .upserting }

/-- The source address of the incumbent as it is recorded. -/
def incumbentIP (s : State) (incumbent : Nat) : Str :=
  match s.agents[incumbent]? with
  | some prev =>
    if trimSpace prev.observedSrcIP = [] then "<unknown>".toList else trimSpace prev.observedSrcIP
  | none => "<unknown>".toList

/-- `Unregister`; whether `SetControlDisconnected` follows depends on it. -/
def unregister (s : State) (i : Nat) (conn : Conn) : State :=
  -- a connection that was replaced leaves the flag to the one that replaced it
  if s.conns conn.robotID = some i then
    (s.setConns conn.robotID none).setAgent i
      { conn with handler := .disconnecting }
  else s.setAgent i { conn with handler := .returned, closed := true }

/-- `TouchControlActivity` for a connection that moves on. -/
def touch (s : State) (i : Nat) (conn : Conn) (time : Time) : State :=
  { s with store := Connstate.touchControlActivity time s.store conn.robotID time }.setAgent i conn

/-- A step of connection `i` from the phases it is in. -/
def onAgent (s : State) (i : Nat) (f : Conn → Option State) : Option State := s.agents[i]?.bind f

/-- `RecordControlContention` for a connection that was turned away. -/
def contend (s : State) (conn : Conn) (policy : Policy) (incumbent : Nat) (time : Time) : Store :=
  Connstate.recordControlContention time s.store conn.robotID conn.observedSrcIP
    (s.incumbentIP incumbent) policy.text "competing_control_connection".toList time

/-- `UpsertControlConnected` for a new connection; the resolver knows no local address. -/
def upsert (s : State) (conn : Conn) (time : Time) : Store :=
  Connstate.upsertControlConnected time s.store conn.robotID conn.observedSrcIP []
    "unknown".toList time

/-- `SetControlDisconnected` for a connection that was removed. -/
def disconnect (s : State) (conn : Conn) (time : Time) : Store :=
  Connstate.setControlDisconnected time s.store conn.robotID time

def step (s : State) : Step → Option State
  | .connect robotID observedSrcIP =>
    -- the checks of the credentials come before the upgrade and do not touch the hub or the store
    if trimSpace robotID = [] then none
    else some { s with agents := s.agents ++
      [{ robotID := trimSpace robotID, observedSrcIP := trimSpace observedSrcIP }] }
  | .register i policy => s.onAgent i fun conn =>
    if conn.handler = .registering then some (s.registerWithPolicy i conn policy) else none
  | .contend i time => s.onAgent i fun conn =>
    match conn.handler with
    | .rejected policy incumbent =>
      some ({ s with store := s.contend conn policy incumbent time }.setAgent i
        { conn with handler := .returned, closed := true })
    | _ => none
  | .closePrev i => s.onAgent i fun conn =>
    match conn.handler with
    | .replacing prev => some ((s.setAgent i { conn with handler := .upserting }).closeAgent prev)
    | _ => none
  | .upsert i time => s.onAgent i fun conn =>
    if conn.handler = .upserting then
      some ({ s with store := s.upsert conn time }.setAgent i
        { conn with handler := .reading, writer := .selecting })
    else none
  | .readMessage i => s.onAgent i fun conn =>
    if conn.handler = .reading then some (s.setAgent i { conn with handler := .touching }) else none
  | .readTouch i time => s.onAgent i fun conn =>
    if conn.handler = .touching then some (s.touch i { conn with handler := .reading } time)
    else none
  | .readFail i => s.onAgent i fun conn =>
    -- the pump closes its connection when it returns
    if conn.handler = .reading then
      some (s.setAgent i { conn with handler := .unregistering, closed := true })
    else none
  | .unregister i => s.onAgent i fun conn =>
    if conn.handler = .unregistering then some (s.unregister i conn) else none
  | .disconnect i time => s.onAgent i fun conn =>
    if conn.handler = .disconnecting then
      some ({ s with store := s.disconnect conn time }.setAgent i
        { conn with handler := .returned, closed := true })
    else none
  | .write i => s.onAgent i fun conn =>
    -- the touch comes after the write, and does not ask again whether the connection is closed
    if conn.writer = .selecting ∧ conn.closed = false then
      some (s.setAgent i { conn with writer := .touching })
    else none
  | .writeTouch i time => s.onAgent i fun conn =>
    if conn.writer = .touching then some (s.touch i { conn with writer := .selecting } time)
    else none
  | .writeEnd i => s.onAgent i fun conn =>
    -- a write failed, or `done` is closed
    if conn.writer = .selecting then
      some (s.setAgent i { conn with writer := .returned, closed := true })
    else none

end State

/-- **The control connections of all robots**, from an empty hub and an empty store. -/
def machine : Machine State Step where
  init := ⟨fun _ => none, fun _ => none, []⟩
  step := State.step

/-! ## Moves -/

/-- A step, by what it does to the hub, the store and the table of connections. -/
inductive Move (s : State) : Step → State → Prop
  | connect {robotID ip : Str} (hne : trimSpace robotID ≠ []) :
    Move s (.connect robotID ip) { s with agents := s.agents ++
      [{ robotID := trimSpace robotID, observedSrcIP := trimSpace ip }] }
  | rejected {i incumbent : Nat} {policy : Policy} {conn : Conn} (hi : s.agents[i]? = some conn)
      (hphase : conn.handler = .registering) :
    Move s (.register i policy) (s.setAgent i { conn with handler := .rejected policy incumbent })
  | registered {i : Nat} {policy : Policy} {conn : Conn} {phase : HandlerPhase}
      (hi : s.agents[i]? = some conn)
      (hphase : phase = .upserting ∨ ∃ prev, phase = .replacing prev) :
    Move s (.register i policy)
      ((s.setConns conn.robotID (some i)).setAgent i
        { conn with handler := phase })
  | contend {i : Nat} {time : Time} {policy : Policy} {incumbent : Nat} {conn : Conn}
      (hi : s.agents[i]? = some conn) (hphase : conn.handler = .rejected policy incumbent) :
    Move s (.contend i time)
      ({ s with store := s.contend conn policy incumbent time }.setAgent i
        { conn with handler := .returned, closed := true })
  | closePrev {i prev : Nat} {conn : Conn} (hi : s.agents[i]? = some conn)
      (hphase : conn.handler = .replacing prev) :
    Move s (.closePrev i) ((s.setAgent i { conn with handler := .upserting }).closeAgent prev)
  | upsert {i : Nat} {time : Time} {conn : Conn} (hi : s.agents[i]? = some conn)
      (hphase : conn.handler = .upserting) :
    Move s (.upsert i time)
      ({ s with store := s.upsert conn time }.setAgent i
        { conn with handler := .reading, writer := .selecting })
  /-- A connection moves on, and is closed if its read pump returns. -/
  | moveOn {a : Step} {i : Nat} {conn conn' : Conn} (hi : s.agents[i]? = some conn)
      (hrobot : conn'.robotID = conn.robotID) (hclosed : conn.closed = true → conn'.closed = true)
      (hphase : conn'.handler = conn.handler ∨ (conn.handler = .reading ∧
        (conn'.handler = .touching ∨ (conn'.handler = .unregistering ∧ conn'.closed = true)))) :
    Move s a (s.setAgent i conn')
  | touch {a : Step} {i : Nat} {time : Time} {conn conn' : Conn}
      (ha : a = .readTouch i time ∨ a = .writeTouch i time) (hi : s.agents[i]? = some conn)
      (hrobot : conn'.robotID = conn.robotID) (hclosed : conn'.closed = conn.closed)
      (hphase : conn'.handler = conn.handler ∨
        (conn.handler = .touching ∧ conn'.handler = .reading)) :
    Move s a (s.touch i conn' time)
  | removed {i : Nat} {conn : Conn} (hi : s.agents[i]? = some conn)
      (hphase : conn.handler = .unregistering) (hcurrent : s.conns conn.robotID = some i) :
    Move s (.unregister i)
      ((s.setConns conn.robotID none).setAgent i
        { conn with handler := .disconnecting })
  | notCurrent {i : Nat} {conn : Conn} (hi : s.agents[i]? = some conn)
      (hphase : conn.handler = .unregistering) (hother : s.conns conn.robotID ≠ some i) :
    Move s (.unregister i) (s.setAgent i { conn with handler := .returned, closed := true })
  | disconnect {i : Nat} {time : Time} {conn : Conn} (hi : s.agents[i]? = some conn)
      (hphase : conn.handler = .disconnecting) :
    Move s (.disconnect i time)
      ({ s with store := s.disconnect conn time }.setAgent i
        { conn with handler := .returned, closed := true })

variable {s t : State}

/-- Every step is one of the moves. -/
theorem move_of_step {a : Step} (hstep : s.step a = some t) : Move s a t := by
  cases a with
  | connect robotID ip =>
    simp only [State.step] at hstep
    split_ifs at hstep with hne
    cases hstep
    exact .connect hne
  | register i policy =>
    obtain ⟨conn, hi, hstep⟩ := Option.bind_eq_some_iff.mp hstep
    split_ifs at hstep with hphase
    cases hstep
    unfold State.registerWithPolicy
    split
    · exact .rejected hi hphase
    · exact .registered hi (.inr ⟨_, rfl⟩)
    · exact .registered hi (.inl rfl)
  | contend i time =>
    obtain ⟨conn, hi, hstep⟩ := Option.bind_eq_some_iff.mp hstep
    split at hstep
    · rename_i hphase
      cases hstep
      exact .contend hi hphase
    · cases hstep
  | closePrev i =>
    obtain ⟨conn, hi, hstep⟩ := Option.bind_eq_some_iff.mp hstep
    split at hstep
    · rename_i hphase
      cases hstep
      exact .closePrev hi hphase
    · cases hstep
  | upsert i time =>
    obtain ⟨conn, hi, hstep⟩ := Option.bind_eq_some_iff.mp hstep
    split_ifs at hstep with hphase
    cases hstep
    exact .upsert hi hphase
  | readMessage i =>
    obtain ⟨conn, hi, hstep⟩ := Option.bind_eq_some_iff.mp hstep
    split_ifs at hstep with hphase
    cases hstep
    exact .moveOn hi rfl id (.inr ⟨hphase, .inl rfl⟩)
  | readTouch i time =>
    obtain ⟨conn, hi, hstep⟩ := Option.bind_eq_some_iff.mp hstep
    split_ifs at hstep with hphase
    cases hstep
    exact .touch (.inl rfl) hi rfl rfl (.inr ⟨hphase, rfl⟩)
  | readFail i =>
    obtain ⟨conn, hi, hstep⟩ := Option.bind_eq_some_iff.mp hstep
    split_ifs at hstep with hphase
    cases hstep
    exact .moveOn hi rfl (fun _ => rfl) (.inr ⟨hphase, .inr ⟨rfl, rfl⟩⟩)
  | unregister i =>
    obtain ⟨conn, hi, hstep⟩ := Option.bind_eq_some_iff.mp hstep
    split_ifs at hstep with hphase
    cases hstep
    unfold State.unregister
    split_ifs with hcurrent
    · exact .removed hi hphase hcurrent
    · exact .notCurrent hi hphase hcurrent
  | disconnect i time =>
    obtain ⟨conn, hi, hstep⟩ := Option.bind_eq_some_iff.mp hstep
    split_ifs at hstep with hphase
    cases hstep
    exact .disconnect hi hphase
  | write i =>
    obtain ⟨conn, hi, hstep⟩ := Option.bind_eq_some_iff.mp hstep
    split_ifs at hstep
    cases hstep
    exact .moveOn hi rfl id (.inl rfl)
  | writeTouch i time =>
    obtain ⟨conn, hi, hstep⟩ := Option.bind_eq_some_iff.mp hstep
    split_ifs at hstep
    cases hstep
    exact .touch (.inr rfl) hi rfl rfl (.inl rfl)
  | writeEnd i =>
    obtain ⟨conn, hi, hstep⟩ := Option.bind_eq_some_iff.mp hstep
    split_ifs at hstep
    cases hstep
    exact .moveOn hi rfl (fun _ => rfl) (.inl rfl)

/-! ## Agreement -/

namespace HandlerPhase

/-- Registered, and not yet past `UpsertControlConnected`. -/
def isPending : HandlerPhase → Bool
  | replacing _ => true
  | upserting => true
  | _ => false

/-- Past `UpsertControlConnected`, and not yet past `Unregister`. -/
def isUp : HandlerPhase → Bool
  | reading => true
  | touching => true
  | unregistering => true
  | _ => false

/-- Past the read pump, and not yet returned. -/
def isEnding : HandlerPhase → Bool
  | unregistering => true
  | disconnecting => true
  | _ => false

/-- Past `UpsertControlConnected`. -/
def isPastUpsert : HandlerPhase → Bool
  | registering => false
  | rejected _ _ => false
  | replacing _ => false
  | upserting => false
  | _ => true

/-- What a handler that is the current one in the hub says about the flag. -/
def Holds (flag : Bool) (phase : HandlerPhase) : Prop :=
  phase.isPending = true ∨ (phase.isUp = true ∧ flag = true)

end HandlerPhase

namespace State

/-- The goroutines of the robot's closed connections have finished, and its live handlers are past
`UpsertControlConnected`. -/
def Settled (s : State) (robotID : Str) : Prop :=
  ∀ conn ∈ s.agents, conn.robotID = robotID →
    if conn.closed = true then
      conn.handler = .returned ∧ (conn.writer = .notStarted ∨ conn.writer = .returned)
    else conn.handler.isPastUpsert = true

instance (s : State) (robotID : Str) : Decidable (s.Settled robotID) := by
  unfold Settled
  infer_instance

/-- **The hub and the store agree**: when a robot has settled, its flag is set exactly when the hub
holds a connection for it. -/
def Agrees (s : State) : Prop :=
  ∀ robotID, s.Settled robotID →
    (s.store.controlConnected robotID = true ↔ (s.conns robotID).isSome = true)

/-- **The condition**: whoever sets the flag of a robot finds a connection for it in the hub, and
whoever clears it finds none. -/
def Timely (s : State) : Step → Prop
  | .upsert i _ => ∀ conn ∈ s.agents[i]?, (s.conns conn.robotID).isSome = true
  | .readTouch i _ => ∀ conn ∈ s.agents[i]?, (s.conns conn.robotID).isSome = true
  | .writeTouch i _ => ∀ conn ∈ s.agents[i]?, (s.conns conn.robotID).isSome = true
  | .disconnect i _ => ∀ conn ∈ s.agents[i]?, s.conns conn.robotID = none
  | _ => True

instance (s : State) : ∀ a, Decidable (s.Timely a)
  | .upsert i _ | .readTouch i _ | .writeTouch i _ | .disconnect i _ =>
    Option.decidableForallMem s.agents[i]?
  | .connect .. | .register .. | .contend .. | .closePrev _ | .readMessage _ | .readFail _
  | .unregister _ | .write _ | .writeEnd _ => isTrue trivial

end State

/-- The invariant of guided runs. -/
structure Liveness (s : State) : Prop where
  ids : ∀ conn ∈ s.agents, trimSpace conn.robotID = conn.robotID ∧ conn.robotID ≠ []
  ending : ∀ conn ∈ s.agents, conn.handler.isEnding = true → conn.closed = true
  /-- A flag that is set has a connection in the hub, or a handler that is going to clear it. -/
  up : ∀ robotID, s.store.controlConnected robotID = true → (s.conns robotID).isSome = true ∨
    ∃ conn ∈ s.agents, conn.robotID = robotID ∧ conn.handler = .disconnecting
  /-- A connection in the hub is about to set the flag, or has set it. -/
  held : ∀ robotID i, s.conns robotID = some i → ∃ conn, s.agents[i]? = some conn ∧
    conn.robotID = robotID ∧ conn.handler.Holds (s.store.controlConnected robotID)

theorem liveness_init : Liveness machine.init :=
  ⟨fun _ h => (nomatch h), fun _ h => (nomatch h), fun _ h => (nomatch h), fun _ _ h => (nomatch h)⟩

/-- The invariant is enough. -/
theorem Liveness.agrees (h : Liveness s) : s.Agrees := by
  intro robotID hsettled
  constructor
  · intro hflag
    rcases h.up robotID hflag with hheld | ⟨conn, hconn, hrobot, hphase⟩
    · exact hheld
    · -- a handler that is going to clear the flag has not settled
      have hclosed := h.ending conn hconn (by rw [hphase]; rfl)
      have hdone := hsettled conn hconn hrobot
      rw [if_pos hclosed, hphase] at hdone
      cases hdone.1
  · intro hheld
    obtain ⟨i, hi⟩ := Option.isSome_iff_exists.mp hheld
    obtain ⟨conn, hconn, hrobot, hholds⟩ := h.held robotID i hi
    have hdone := hsettled conn (List.mem_of_getElem? hconn) hrobot
    rcases hholds with hpending | ⟨-, hflag⟩
    · exfalso
      split_ifs at hdone
      · rw [hdone.1] at hpending
        cases hpending
      · cases hphase : conn.handler <;> simp [hphase, HandlerPhase.isPending,
          HandlerPhase.isPastUpsert] at hpending hdone
    · exact hflag

/-! ### Steps that keep the hub

A write to the store that only sets flags of robots in the hub keeps the invariant, and so does a
connection that moves on without leaving the hub. -/

/-- The store is written. -/
theorem Liveness.setStore (h : Liveness s) {store : Store}
    (hset : ∀ robotID, store.controlConnected robotID = true →
      s.store.controlConnected robotID = true ∨ (s.conns robotID).isSome = true)
    (hkeep : ∀ robotID, s.store.controlConnected robotID = true →
      store.controlConnected robotID = true) : Liveness { s with store := store } where
  ids := h.ids
  ending := h.ending
  up robotID hflag := by
    rcases hset robotID hflag with hold | hheld
    · exact h.up robotID hold
    · exact Or.inl hheld
  held robotID i hi := by
    obtain ⟨conn, hconn, hrobot, hholds⟩ := h.held robotID i hi
    refine ⟨conn, hconn, hrobot, ?_⟩
    rcases hholds with hpending | ⟨hup, hflag⟩
    · exact Or.inl hpending
    · exact Or.inr ⟨hup, hkeep robotID hflag⟩

/-- The flag of a robot in the hub is set. -/
theorem Liveness.setFlag (h : Liveness s) {store : Store} {robotID : Str}
    (hheld : (s.conns robotID).isSome = true)
    (hflag : ∀ other, store.controlConnected other =
      if other = robotID then true else s.store.controlConnected other) :
    Liveness { s with store := store } := by
  refine h.setStore (fun other hset => ?_) fun other hset => ?_
  · by_cases hsame : other = robotID
    · exact Or.inr (hsame ▸ hheld)
    · exact Or.inl (((hflag other).trans (if_neg hsame)).symm.trans hset)
  · rw [hflag other, hset, ite_self]

/-- The current connection of one robot is not moved by a connection of another. -/
theorem Liveness.held_other (h : Liveness s) {i j : Nat} {conn conn' : Conn} {robotID : Str}
    (hi : s.agents[i]? = some conn) (hne : robotID ≠ conn.robotID)
    (hj : s.conns robotID = some j) :
    ∃ other, (s.agents.set i conn')[j]? = some other ∧ other.robotID = robotID ∧
      other.handler.Holds (s.store.controlConnected robotID) := by
  refine Tasks.exists_set hi (fun _ hold => ?_) (h.held robotID j hj)
  exact absurd hold.1.symm hne

/-- The flag of one robot is kept up when a connection of another comes or leaves. -/
theorem Liveness.up_other (h : Liveness s) {i : Nat} {conn conn' : Conn} {robotID : Str}
    {current : Option Nat} (hi : s.agents[i]? = some conn) (hne : robotID ≠ conn.robotID)
    (hflag : s.store.controlConnected robotID = true) :
    (Function.update s.conns conn.robotID current robotID).isSome = true ∨
      ∃ other ∈ s.agents.set i conn', other.robotID = robotID ∧
        other.handler = .disconnecting := by
  rw [Function.update_of_ne hne]
  exact (h.up robotID hflag).imp_right
    (Tasks.exists_mem_set hi fun hold => absurd hold.1.symm hne)

/-- A connection moves on. -/
theorem Liveness.setAgent (h : Liveness s) {i : Nat} {conn conn' : Conn}
    (hi : s.agents[i]? = some conn) (hrobot : conn'.robotID = conn.robotID)
    (hending : conn'.handler.isEnding = true → conn'.closed = true)
    (hclearing : conn.handler = .disconnecting → conn'.handler = .disconnecting)
    (hholds : s.conns conn.robotID = some i →
      conn.handler.Holds (s.store.controlConnected conn.robotID) →
        conn'.handler.Holds (s.store.controlConnected conn.robotID)) :
    Liveness (s.setAgent i conn') where
  ids := Tasks.forall_mem_set i h.ids (hrobot ▸ h.ids conn (List.mem_of_getElem? hi))
  ending := Tasks.forall_mem_set i h.ending hending
  up robotID hflag := by
    exact (h.up robotID hflag).imp_right
      (Tasks.exists_mem_set hi fun hold => ⟨hrobot.trans hold.1, hclearing hold.2⟩)
  held robotID j hj := by
    refine Tasks.exists_set hi (fun hij hold => ?_) (h.held robotID j hj)
    obtain ⟨rfl, hold⟩ := hold
    exact ⟨hrobot, hholds (hij ▸ hj) hold⟩

/-- A connection is closed by the one that replaced it. -/
theorem Liveness.closeAgent (h : Liveness s) (i : Nat) : Liveness (s.closeAgent i) := by
  unfold State.closeAgent
  split
  · rename_i conn hi
    exact h.setAgent hi rfl (fun _ => rfl) id fun _ => id
  · exact h

/-! ### Steps that change the hub -/

/-- Registering a pending handler keeps the invariant. -/
theorem Liveness.register (h : Liveness s) {i : Nat} {conn : Conn} {phase : HandlerPhase}
    (hi : s.agents[i]? = some conn) (hpending : phase.isPending = true) :
    Liveness ((s.setConns conn.robotID (some i)).setAgent i { conn with handler := phase }) where
  ids := Tasks.forall_mem_set i h.ids (h.ids conn (List.mem_of_getElem? hi))
  ending := Tasks.forall_mem_set i h.ending fun hend => by
    cases phase <;> simp [HandlerPhase.isPending, HandlerPhase.isEnding] at hpending hend
  up robotID hflag := by
    by_cases hsame : robotID = conn.robotID
    · subst hsame
      exact Or.inl (congrArg Option.isSome (Function.update_self _ _ s.conns))
    · exact h.up_other hi hsame hflag
  held robotID j hj := by
    by_cases hsame : robotID = conn.robotID
    · subst hsame
      have hij : some i = some j := (Function.update_self _ _ s.conns).symm.trans hj
      cases hij
      exact ⟨_, Tasks.set_self hi, rfl, Or.inl hpending⟩
    · exact h.held_other hi hsame ((Function.update_of_ne hsame _ s.conns).symm.trans hj)

/-- Removing an unregistering handler keeps the invariant. -/
theorem Liveness.remove (h : Liveness s) {i : Nat} {conn : Conn} (hi : s.agents[i]? = some conn)
    (hphase : conn.handler = .unregistering) :
    Liveness ((s.setConns conn.robotID none).setAgent i
      { conn with handler := .disconnecting }) where
  ids := Tasks.forall_mem_set i h.ids (h.ids conn (List.mem_of_getElem? hi))
  ending := Tasks.forall_mem_set i h.ending fun _ =>
    h.ending conn (List.mem_of_getElem? hi) (by rw [hphase]; rfl)
  up robotID hflag := by
    by_cases hsame : robotID = conn.robotID
    · -- the handler that removed the connection is the one that clears the flag
      exact Or.inr ⟨_, List.mem_of_getElem? (Tasks.set_self hi), hsame.symm, rfl⟩
    · exact h.up_other hi hsame hflag
  held robotID j hj := by
    by_cases hsame : robotID = conn.robotID
    · subst hsame
      cases (Function.update_self _ _ s.conns).symm.trans hj
    · exact h.held_other hi hsame ((Function.update_of_ne hsame _ s.conns).symm.trans hj)

/-- A disconnect keeps the invariant where the hub has no connection. -/
theorem Liveness.disconnect (h : Liveness s) {i : Nat} {conn : Conn} (time : Time)
    (hi : s.agents[i]? = some conn) (hnone : s.conns conn.robotID = none) :
    Liveness ({ s with store := s.disconnect conn time }.setAgent i
      { conn with handler := .returned, closed := true }) := by
  obtain ⟨hid, hne⟩ := h.ids conn (List.mem_of_getElem? hi)
  have hflag : ∀ robotID, (s.disconnect conn time).controlConnected robotID =
      if robotID = conn.robotID then false else s.store.controlConnected robotID :=
    fun _ => Connstate.controlConnected_setControlDisconnected hid hne time time
  refine ⟨Tasks.forall_mem_set i h.ids ⟨hid, hne⟩, Tasks.forall_mem_set i h.ending fun _ => rfl,
    fun robotID hset => ?_, fun robotID j hj => ?_⟩
  · have hset' := (hflag robotID).symm.trans hset
    split_ifs at hset' with hsame
    exact (h.up robotID hset').imp_right
      (Tasks.exists_mem_set hi fun hold => absurd hold.1.symm hsame)
  · have hsame : robotID ≠ conn.robotID := by
      rintro rfl
      cases hnone.symm.trans hj
    obtain ⟨other, hother, hrobot, hholds⟩ := h.held_other hi hsame hj
    refine ⟨other, hother, hrobot, ?_⟩
    have hsame' := (hflag robotID).trans (if_neg hsame)
    exact hsame'.symm ▸ hholds

/-- One timely step. -/
theorem Liveness.step {a : Step} (h : Liveness s) (htimely : s.Timely a)
    (hstep : s.step a = some t) : Liveness t := by
  cases move_of_step hstep with
  | connect hne =>
    refine ⟨Tasks.forall_mem_append h.ids ⟨trimSpace_trimSpace _, hne⟩,
      Tasks.forall_mem_append h.ending nofun, fun robotID hflag => ?_, fun robotID j hj => ?_⟩
    · refine (h.up robotID hflag).imp_right ?_
      rintro ⟨other, hother, hsame⟩
      exact ⟨other, List.mem_append_left _ hother, hsame⟩
    · obtain ⟨other, hother, hsame⟩ := h.held robotID j hj
      exact ⟨other, Tasks.append_of_some hother, hsame⟩
  | rejected hi hphase =>
    exact h.setAgent hi rfl nofun (by rw [hphase]; exact nofun)
      (by rw [hphase]; rintro - (hpending | ⟨hup, -⟩) <;> contradiction)
  | registered hi hphase =>
    refine h.register hi ?_
    rcases hphase with rfl | ⟨prev, rfl⟩ <;> rfl
  | @contend i time policy incumbent conn hi hphase =>
    obtain ⟨hid, hne⟩ := h.ids conn (List.mem_of_getElem? hi)
    have hflag : ∀ robotID, (s.contend conn policy incumbent time).controlConnected robotID =
        s.store.controlConnected robotID :=
      fun _ => Connstate.controlConnected_recordControlContention hid hne time time _ _ _ _
    have hstore : Liveness { s with store := s.contend conn policy incumbent time } :=
      h.setStore (fun robotID hset => Or.inl ((hflag robotID).symm.trans hset))
        fun robotID hset => (hflag robotID).trans hset
    exact hstore.setAgent hi rfl nofun (by rw [hphase]; exact nofun)
      (by rw [hphase]; rintro - (hpending | ⟨hup, -⟩) <;> contradiction)
  | @closePrev i prev conn hi hphase =>
    have hnext : Liveness (s.setAgent i { conn with handler := .upserting }) :=
      h.setAgent hi rfl nofun (by rw [hphase]; exact nofun) fun _ _ => Or.inl rfl
    exact hnext.closeAgent prev
  | @upsert i time conn hi hphase =>
    obtain ⟨hid, hne⟩ := h.ids conn (List.mem_of_getElem? hi)
    have hflag : ∀ robotID, (s.upsert conn time).controlConnected robotID =
        if robotID = conn.robotID then true else s.store.controlConnected robotID :=
      fun _ => Connstate.controlConnected_upsertControlConnected hid hne time time _ _ _
    have hstore := h.setFlag (htimely conn hi) hflag
    refine hstore.setAgent hi rfl nofun (by rw [hphase]; exact nofun) fun _ _ => Or.inr ⟨rfl, ?_⟩
    exact (hflag conn.robotID).trans (if_pos rfl)
  | @moveOn _ i conn conn' hi hrobot hclosed hphase =>
    refine h.setAgent hi hrobot (fun hend => ?_) (fun hclearing => ?_) fun _ hholds => ?_
    · rcases hphase with hsame | ⟨-, hmoved | ⟨-, hdone⟩⟩
      · exact hclosed (h.ending conn (List.mem_of_getElem? hi) (hsame ▸ hend))
      · rw [hmoved] at hend
        cases hend
      · exact hdone
    · rcases hphase with hsame | ⟨hreading, -⟩
      · exact hsame.trans hclearing
      · cases hreading.symm.trans hclearing
    · rcases hphase with hsame | ⟨hreading, hmoved⟩
      · exact hsame.symm ▸ hholds
      · rw [hreading] at hholds
        have hup : conn'.handler.isUp = true := by
          rcases hmoved with hmoved | ⟨hmoved, -⟩ <;> rw [hmoved] <;> rfl
        exact Or.inr ⟨hup, (hholds.resolve_left nofun).2⟩
  | @touch _ i time conn conn' ha hi hrobot hclosed hphase =>
    obtain ⟨hid, hne⟩ := h.ids conn (List.mem_of_getElem? hi)
    have hheld : (s.conns conn.robotID).isSome = true := by
      rcases ha with rfl | rfl <;> exact htimely conn hi
    have hflag : ∀ robotID, (Connstate.touchControlActivity time s.store conn'.robotID
        time).controlConnected robotID =
          if robotID = conn.robotID then true else s.store.controlConnected robotID :=
      fun _ =>
        hrobot ▸ Connstate.controlConnected_touchControlActivity (hrobot ▸ hid) (hrobot ▸ hne)
        time time
    have hstore := h.setFlag hheld hflag
    refine hstore.setAgent hi hrobot (fun hend => ?_) (fun hclearing => ?_) fun _ hholds => ?_
    · rcases hphase with hsame | ⟨-, hmoved⟩
      · exact hclosed ▸ h.ending conn (List.mem_of_getElem? hi) (hsame ▸ hend)
      · rw [hmoved] at hend
        cases hend
    · rcases hphase with hsame | ⟨htouching, -⟩
      · exact hsame.trans hclearing
      · cases htouching.symm.trans hclearing
    · rcases hphase with hsame | ⟨htouching, hmoved⟩
      · exact hsame.symm ▸ hholds
      · rw [htouching] at hholds
        rw [hmoved]
        exact Or.inr ⟨rfl, (hholds.resolve_left nofun).2⟩
  | removed hi hphase => exact h.remove hi hphase
  | notCurrent hi hphase hother =>
    exact h.setAgent hi rfl nofun (by rw [hphase]; exact nofun)
      fun hcurrent => absurd hcurrent hother
  | disconnect hi hphase => exact h.disconnect _ hi (htimely _ hi)

/-- **The hub and the store agree in every timely run**: when every write to the store finds the
hub as it expects, then in every state reached the flag of a settled robot is set exactly when the
hub holds a connection for it. -/
theorem agrees_of_timely (steps : List Step) (s : State)
    (htimely : machine.Along State.Timely machine.init steps)
    (hrun : machine.run machine.init steps = some s) : s.Agrees :=
  (machine.along_invariant (fun _ _ _ h hP hstep => Liveness.step h hP hstep) liveness_init htimely
    hrun).agrees

/-- A robot connects, is replaced by itself, and leaves. -/
def orderlySteps : List Step :=
  [.connect robotA [], .register 0 .rejectNew, .upsert 0 1, .write 0, .writeTouch 0 2,
    .connect robotA [], .register 1 .preemptExisting, .closePrev 1, .upsert 1 3, .readFail 0,
    .unregister 0, .writeEnd 0, .readMessage 1, .readTouch 1 4, .readFail 1, .writeEnd 1,
    .unregister 1, .disconnect 1 5]

theorem agrees_orderlySteps : ∃ s, machine.run machine.init orderlySteps = some s ∧ s.Agrees := by
  obtain ⟨s, hrun, -⟩ := machine.exists_run orderlySteps (fun _ => True) (by decide)
  exact ⟨s, hrun, agrees_of_timely orderlySteps s (by decide) hrun⟩

/-- The write pump has written a ping when the read pump fails; it touches the store after the
handler has cleared the flag, and only then finds its connection closed. -/
def lateTouchSteps : List Step :=
  [.connect robotA [], .register 0 .rejectNew, .upsert 0 1, .write 0, .readFail 0, .unregister 0,
    .disconnect 0 2, .writeTouch 0 3, .writeEnd 0]

/-- A robot that is gone stays online. -/
theorem lateTouch_disagrees :
    ∃ s, machine.run machine.init lateTouchSteps = some s ∧ ¬ s.Agrees := by
  obtain ⟨s, hrun, hsettled, hflag, hnone⟩ := machine.exists_run lateTouchSteps
    (fun s => s.Settled robotA ∧ s.store.controlConnected robotA = true ∧ s.conns robotA = none)
    (by decide)
  refine ⟨s, hrun, fun h => ?_⟩
  have hheld := (h robotA hsettled).mp hflag
  rw [hnone] at hheld
  cases hheld

end Roboat.Relay.Control
