import Roboat.Relay.ControlLiveness
import Roboat.Relay.FallbackGate
import Roboat.Signaling.Peers

/-! # Bootstrap and teardown triggers

When a client has been installed, its `SignalingHandler` starts a goroutine that calls
`TriggerBootstrap`, and when it disconnects it starts another one that calls it for the teardown.
`TriggerBootstrap` puts a message into the `send` channel of the robot's control connection, or, if
that fails and the gate allows it, dials the robot over TCP.

The machine has the signaling server, the control connections of the hub and the triggers, each in
their own steps. Nothing orders the two goroutines of a client: one that connects and leaves quickly
can have its teardown sent before its bootstrap (`teardownLast_fails`), which leaves the robot with
a session for a client that is gone. It cannot happen when the teardown is started after the
bootstrap was sent, or given up (`teardownLast_of_sendsFirst`). -/

namespace Roboat.Signaling.Bootstrap

open Relay (AgentControlMessage)
open Relay.FallbackGate (FallbackTriggerGate)
open Connstate (Time)

/-! ## The machine -/

/-- The capacity of a control connection's `send` channel. -/
def sendCapacity : Nat := 256

inductive BootstrapType where
  | webrtcBootstrap
  | webrtcTeardown
  deriving DecidableEq, Repr

/-- The fields of `agentControlMessage` that `TriggerBootstrap` sets. -/
structure BootstrapMessage where
  type : BootstrapType
  bootstrapID : Str
  sessionKey : Str
  routeType : Str
  cliPublicIP : Str
  deriving DecidableEq, Repr

/-- A message in the `send` channel of a control connection. -/
inductive Item where
  | bootstrap (msg : BootstrapMessage)
  | other (msg : AgentControlMessage)
  deriving DecidableEq, Repr

/-- Where `TriggerBootstrap` stands. -/
inductive TriggerPhase where
  | starting
  /-- In `AgentControlHub.Send`, before the lookup. -/
  | sending
  /-- In `AgentControlHub.Send`, with the connection that it has found. -/
  | pushing (i : Nat)
  /-- A teardown has been sent: before `ClearActiveSessionIfMatch`. -/
  | clearing
  /-- Before `recordSuccess` or `recordFailure`. -/
  | recording (ok : Bool)
  /-- The message was not sent: before `allow`. -/
  | gating
  /-- Before `RobotBootstrapTarget`. -/
  | resolving
  /-- Before the trigger over TCP. -/
  | dialing
  /-- With `nil`, or with an error. -/
  | returned (ok : Bool)
  deriving DecidableEq, Repr

/-- The message may still be sent. -/
def TriggerPhase.maySend : TriggerPhase → Bool
  | starting => true
  | sending => true
  | pushing _ => true
  | _ => false

/-- A call of `TriggerBootstrap`. `session` is the handler that has started it. -/
structure Trigger where
  session : Nat
  robotID : Str
  isTeardown : Bool
  cliIP : Str
  bootstrapID : Str
  routeType : Str
  sessionKey : Str := []
  now : Time := 0
  phase : TriggerPhase := .starting
  deriving DecidableEq, Repr

/-- The message of a trigger. -/
def Trigger.message (tr : Trigger) : BootstrapMessage where
  type := if tr.isTeardown then .webrtcTeardown else .webrtcBootstrap
  bootstrapID := tr.sessionKey
  sessionKey := tr.sessionKey
  routeType := trimSpace tr.routeType
  cliPublicIP := if tr.isTeardown then [] else tr.cliIP

/-- A message of a trigger that has entered the channel of a control connection. -/
structure Sent where
  session : Nat
  conn : Nat
  msg : BootstrapMessage
  deriving DecidableEq, Repr

/-- The signaling server with the `route_type` of each call, the hub, the gate and the triggers.
`sent` is history: what the triggers have put into the channels, in this order. -/
structure State where
  peers : Peers.State
  routes : List Str
  control : Relay.Control.State
  send : Nat → List Item
  activeSessions : Relay.ActiveSessions
  gate : FallbackTriggerGate
  triggers : List Trigger
  sent : List Sent

/-- The operations of `TriggerBootstrap`, with what they get from outside. -/
inductive TriggerStep where
  /-- The time is taken; `fresh` is a new id, for want of one. -/
  | start (now : Time) (fresh : Str)
  | lookup
  | push
  | clear
  | record (clock : Time)
  | allow (clock : Time)
  /-- `RobotBootstrapTarget` fails, or gives a host. -/
  | resolve (target : Option Str)
  | dial (ok : Bool)
  deriving DecidableEq, Repr

/-- The atomic steps. -/
inductive Step where
  | connect (robotID : Str) (role : Role) (peer : PeerConn) (routeType : Str)
  | handler (h : Nat) (a : Peers.HandlerStep)
  | writer (h : Nat) (a : Peers.WriterStep)
  | control (a : Relay.Control.Step)
  /-- The write pump of a control connection takes a message. -/
  | take (i : Nat)
  /-- Another caller of `AgentControlHub.Send` puts a message into a channel. -/
  | pushOther (i : Nat) (msg : AgentControlMessage)
  | trigger (k : Nat) (a : TriggerStep)
  deriving DecidableEq, Repr

namespace State

def setTrigger (s : State) (k : Nat) (tr : Trigger) : State :=
  { s with triggers := s.triggers.set k tr }

def setPhase (s : State) (k : Nat) (tr : Trigger) (phase : TriggerPhase) : State :=
  s.setTrigger k { tr with phase := phase }

def push (s : State) (i : Nat) (item : Item) : State :=
  { s with send := Function.update s.send i (s.send i ++ [item]) }

/-- The message of a trigger enters a channel. -/
def deliver (s : State) (i : Nat) (tr : Trigger) : State :=
  { s.push i (.bootstrap tr.message) with sent := s.sent ++ [⟨tr.session, i, tr.message⟩] }

/-- The map write of `SetActiveSession`. -/
def setActiveSession (s : State) (robotID sessionKey : Str) : State :=
  if trimSpace robotID = [] ∨ trimSpace sessionKey = [] then s
  else { s with activeSessions :=
    Function.update s.activeSessions (trimSpace robotID) (some (trimSpace sessionKey)) }

/-- `ClearActiveSessionIfMatch`. -/
def clearActiveSessionIfMatch (s : State) (robotID sessionKey : Str) : State :=
  { s with activeSessions := s.activeSessions.clearActiveSessionIfMatch robotID sessionKey }

/-- What an operation of a handler does outside the signaling server. -/
def effect (s : State) (h : Nat) (hd : Handler) : Peers.HandlerStep → State
  | .activate => s.setActiveSession hd.robotID hd.peer.bootstrapID
  | .trigger =>
    { s with triggers := s.triggers ++
      [{ session := h, robotID := hd.robotID, isTeardown := false, cliIP := hd.peer.observedSrcIP,
         bootstrapID := hd.peer.bootstrapID, routeType := s.routes.getD h [] }] }
  | .teardown =>
    { s with triggers := s.triggers ++
      [{ session := h, robotID := hd.robotID, isTeardown := true, cliIP := [],
         bootstrapID := hd.peer.bootstrapID, routeType := s.routes.getD h [] }] }
  | _ => s

/-- What follows when the robot has got the message of a trigger. -/
def afterSuccess (tr : Trigger) : TriggerPhase :=
  if tr.isTeardown then .clearing else .recording true

/-- An operation of `TriggerBootstrap`. -/
def triggerStep (s : State) (k : Nat) (tr : Trigger) : TriggerStep → Option State
  | .start now fresh =>
    if tr.phase = .starting then
      some (s.setTrigger k { tr with
        now := now
        sessionKey := if trimSpace tr.bootstrapID = [] then fresh else trimSpace tr.bootstrapID
        phase := .sending })
    else none
  | .lookup =>
    if tr.phase = .sending then
      some (s.setPhase k tr
        -- a robot that is not connected is dialed
        (((s.control.conns (trimSpace tr.robotID)).map TriggerPhase.pushing).getD .gating))
    else none
  | .push =>
    match tr.phase with
    | .pushing i =>
      if (s.send i).length < sendCapacity then
        some ((s.deliver i tr).setPhase k tr (afterSuccess tr))
      -- and so is one whose channel is full
      else some (s.setPhase k tr .gating)
    | _ => none
  | .clear =>
    if tr.phase = .clearing then
      some ((s.clearActiveSessionIfMatch tr.robotID tr.sessionKey).setPhase k tr
        (.recording true))
    else none
  | .record clock =>
    match tr.phase with
    | .recording ok =>
      some ({ s with gate :=
        if ok then Relay.FallbackGate.recordSuccess clock s.gate tr.robotID tr.isTeardown tr.now
        else Relay.FallbackGate.recordFailure clock s.gate tr.robotID tr.isTeardown tr.now
        }.setPhase k tr (.returned ok))
    | _ => none
  | .allow clock =>
    if tr.phase = .gating then
      let verdict := Relay.FallbackGate.allow clock s.gate tr.robotID tr.isTeardown tr.now
      -- a trigger that the gate holds back is not an error
      some ({ s with gate := verdict.2 }.setPhase k tr
        (if verdict.1 then .resolving else .returned true))
    else none
  | .resolve target =>
    if tr.phase = .resolving then
      -- no host, no record of a failure
      some (s.setPhase k tr
        (if trimSpace (target.getD []) = [] then .returned false else .dialing))
    else none
  | .dial ok =>
    if tr.phase = .dialing then
      some (s.setPhase k tr (if ok then afterSuccess tr else .recording false))
    else none

/-- The step function. -/
def step (env : Env) (s : State) : Step → Option State
  | .connect robotID role peer routeType =>
    (s.peers.step env (.connect robotID role peer)).map fun peers =>
      { s with peers := peers, routes := s.routes ++ [trimSpace routeType] }
  | .handler h a => s.peers.base.handlers[h]?.bind fun hd =>
    -- the goroutines of the triggers start with the handler's step
    (s.peers.step env (.handler h a)).map fun peers => { s with peers := peers }.effect h hd a
  | .writer h a => (s.peers.step env (.writer h a)).map fun peers => { s with peers := peers }
  | .control a => (s.control.step a).map fun control => { s with control := control }
  | .take i =>
    match s.send i with
    | _ :: rest => some { s with send := Function.update s.send i rest }
    | [] => none
  | .pushOther i msg =>
    if (s.send i).length < sendCapacity then some (s.push i (.other msg)) else none
  | .trigger k a => s.triggers[k]?.bind fun tr => s.triggerStep k tr a

end State

/-- **The signaling server with the hub of its robots.** -/
def machine (env : Env) : Machine State Step where
  init := ⟨(Peers.machine env).init, [], Relay.Control.machine.init, fun _ => [], fun _ => none,
    Relay.FallbackGate.newFallbackTriggerGate, [], []⟩
  step := State.step env

/-! ## Order -/

namespace State

/-- **Bootstrap before teardown**: after the `webrtc_teardown` of a client's session no
`webrtc_bootstrap` of that session enters the channel of a control connection. -/
def TeardownLast (s : State) : Prop :=
  s.sent.Pairwise fun a b => a.session = b.session → a.msg.type = .webrtcTeardown →
    b.msg.type ≠ .webrtcBootstrap

/-- **The condition**: the teardown trigger of a session is started when the message of its connect
trigger was sent, or given up. -/
def SendsFirst (s : State) : Step → Prop
  | .handler h .teardown => ∀ tr ∈ s.triggers, tr.session = h → tr.isTeardown = false →
      tr.phase.maySend = false
  | _ => True

instance (s : State) : ∀ a, Decidable (s.SendsFirst a)
  | .handler _ .teardown => inferInstanceAs (Decidable (∀ tr ∈ s.triggers, _))
  | .handler _ .getOrCreate | .handler _ .install | .handler _ .preempt => isTrue trivial
  | .handler _ .closePrev | .handler _ .activate | .handler _ .ready => isTrue trivial
  | .handler _ .trigger | .handler _ .start | .handler _ (.read _) => isTrue trivial
  | .handler _ .relay | .handler _ .readFail | .handler _ .disconnect => isTrue trivial
  | .handler _ .bye | .handler _ .leave => isTrue trivial
  | .connect .. | .writer .. | .control _ | .take _ | .pushOther .. | .trigger .. => isTrue trivial

end State

/-- A step, by what it does to the triggers and to what was sent. -/
inductive Move (s : State) : Step → State → Prop
  /-- Whose peer was cleared stays so. -/
  | quiet {a : Step} {t : State} (htriggers : t.triggers = s.triggers) (hsent : t.sent = s.sent)
      (hgone : ∀ h, s.peers.base.Gone h → t.peers.base.Gone h) : Move s a t
  | trigger {h : Nat} {t : State} {tr : Trigger} (hsession : tr.session = h)
      (hkind : tr.isTeardown = false) (hpresent : ¬ s.peers.base.Gone h)
      (htriggers : t.triggers = s.triggers ++ [tr]) (hsent : t.sent = s.sent)
      (hgone : ∀ h, s.peers.base.Gone h → t.peers.base.Gone h) : Move s (.handler h .trigger) t
  | teardown {h : Nat} {t : State} {tr : Trigger} (hsession : tr.session = h)
      (hkind : tr.isTeardown = true) (hleft : s.peers.base.Gone h)
      (htriggers : t.triggers = s.triggers ++ [tr]) (hsent : t.sent = s.sent)
      (hgone : ∀ h, s.peers.base.Gone h → t.peers.base.Gone h) : Move s (.handler h .teardown) t
  /-- A trigger goes on without sending. -/
  | goOn {k : Nat} {a : TriggerStep} {t : State} {tr tr' : Trigger} (hk : s.triggers[k]? = some tr)
      (htriggers : t.triggers = s.triggers.set k tr') (hsent : t.sent = s.sent)
      (hpeers : t.peers = s.peers) (hsession : tr'.session = tr.session)
      (hkind : tr'.isTeardown = tr.isTeardown)
      (hmay : tr'.phase.maySend = true → tr.phase.maySend = true) : Move s (.trigger k a) t
  | push {k i : Nat} {tr : Trigger} (hk : s.triggers[k]? = some tr)
      (hphase : tr.phase = .pushing i) :
    Move s (.trigger k .push) ((s.deliver i tr).setPhase k tr (State.afterSuccess tr))

section Moves

variable {env : Env} {s t : State} {k h : Nat} {tr : Trigger}

/-- Whose peer was cleared stays so. -/
theorem gone_of_peersStep {a : Peers.Step} {peers : Peers.State}
    (hstep : s.peers.step env a = some peers) (hgone : s.peers.base.Gone h) :
    peers.base.Gone h := by
  rcases Peers.base_step hstep with hbase | ⟨b, hb⟩
  · rw [hbase]
    exact hgone
  · exact hgone.step env hb

theorem maySend_afterSuccess (tr : Trigger) : (State.afterSuccess tr).maySend = false := by
  unfold State.afterSuccess
  split <;> rfl

theorem move_of_triggerStep {a : TriggerStep} (hk : s.triggers[k]? = some tr)
    (hstep : s.triggerStep k tr a = some t) : Move s (.trigger k a) t := by
  cases a with
  | start now fresh | lookup =>
    obtain ⟨hphase, hstep⟩ := Option.ite_none_right_eq_some.mp hstep
    cases hstep
    exact .goOn hk rfl rfl rfl rfl rfl fun _ => by rw [hphase]; rfl
  | push =>
    simp only [State.triggerStep] at hstep
    split at hstep
    · rename_i i hphase
      split_ifs at hstep
      · cases hstep
        exact .push hk hphase
      · cases hstep
        exact .goOn hk rfl rfl rfl rfl rfl fun hmay => by cases hmay
    · cases hstep
  | clear =>
    obtain ⟨hphase, hstep⟩ := Option.ite_none_right_eq_some.mp hstep
    cases hstep
    exact .goOn hk rfl rfl rfl rfl rfl fun hmay => by cases hmay
  | record clock =>
    simp only [State.triggerStep] at hstep
    split at hstep
    · cases hstep
      exact .goOn hk rfl rfl rfl rfl rfl fun hmay => by cases hmay
    · cases hstep
  | allow clock | resolve target =>
    obtain ⟨hphase, hstep⟩ := Option.ite_none_right_eq_some.mp hstep
    cases hstep
    refine .goOn hk rfl rfl rfl rfl rfl fun hmay => ?_
    split at hmay <;> cases hmay
  | dial ok =>
    obtain ⟨hphase, hstep⟩ := Option.ite_none_right_eq_some.mp hstep
    cases hstep
    refine .goOn hk rfl rfl rfl rfl rfl fun hmay => ?_
    split at hmay
    · rw [maySend_afterSuccess] at hmay
      cases hmay
    · cases hmay

/-- The connect trigger is started by a handler whose peer is installed, the teardown trigger by one
whose peer was cleared. -/
theorem move_of_handler {a : Peers.HandlerStep} {hd : Handler} {peers : Peers.State}
    (hh : s.peers.base.handlers[h]? = some hd)
    (hstep : s.peers.step env (.handler h a) = some peers) :
    Move s (.handler h a) ({ s with peers := peers }.effect h hd a) := by
  have hgone : ∀ p, s.peers.base.Gone p → peers.base.Gone p :=
    fun p => gone_of_peersStep hstep
  have hown : ∃ peer, s.peers.handlerStep env h hd peer a = some peers := by
    obtain ⟨hd', hh', hstep⟩ := Option.bind_eq_some_iff.mp hstep
    obtain rfl : hd = hd' := Option.some.inj (hh.symm.trans hh')
    obtain ⟨peer, -, hstep⟩ := Option.bind_eq_some_iff.mp hstep
    exact ⟨peer, hstep⟩
  obtain ⟨peer, hown⟩ := hown
  cases a with
  | trigger =>
    simp only [Peers.State.handlerStep] at hown
    split at hown
    · rename_i sid hstage hphase
      refine .trigger rfl rfl ?_ rfl rfl hgone
      rintro ⟨hd', hh', hleft⟩
      obtain rfl : hd = hd' := Option.some.inj (hh.symm.trans hh')
      rw [hphase] at hleft
      cases hleft
    · cases hown
  | teardown =>
    simp only [Peers.State.handlerStep] at hown
    split at hown
    · rename_i sid removeSession hstage hphase
      exact .teardown rfl rfl ⟨hd, hh, by rw [hphase]; rfl⟩ rfl rfl hgone
    · cases hown
  -- `SetActiveSession` touches no trigger
  | activate =>
    refine .quiet ?_ ?_ ?_ <;> simp only [State.effect, State.setActiveSession] <;> split
    all_goals first | rfl | exact hgone
  | _ => exact .quiet rfl rfl hgone

/-- **What a step does.** -/
theorem move_of_step {a : Step} (hstep : s.step env a = some t) : Move s a t := by
  cases a with
  | connect robotID role peer routeType | writer h a =>
    obtain ⟨peers, hpeers, rfl⟩ := Option.map_eq_some_iff.mp hstep
    exact .quiet rfl rfl fun p => gone_of_peersStep hpeers
  | handler h a =>
    obtain ⟨hd, hh, hstep⟩ := Option.bind_eq_some_iff.mp hstep
    obtain ⟨peers, hpeers, rfl⟩ := Option.map_eq_some_iff.mp hstep
    exact move_of_handler hh hpeers
  | control a =>
    obtain ⟨control, -, rfl⟩ := Option.map_eq_some_iff.mp hstep
    exact .quiet rfl rfl fun _ => id
  | take i =>
    simp only [State.step] at hstep
    split at hstep
    · cases hstep
      exact .quiet rfl rfl fun _ => id
    · cases hstep
  | pushOther i msg =>
    obtain ⟨-, hstep⟩ := Option.ite_none_right_eq_some.mp hstep
    cases hstep
    exact .quiet rfl rfl fun _ => id
  | trigger k a =>
    obtain ⟨tr, hk, hstep⟩ := Option.bind_eq_some_iff.mp hstep
    exact move_of_triggerStep hk hstep

end Moves

/-- **The invariant.** A session with a teardown trigger is over, and its connect trigger sends
nothing any more; what was sent as a teardown has a teardown trigger. -/
structure Inv (s : State) : Prop where
  gone : ∀ tr ∈ s.triggers, tr.isTeardown = true → s.peers.base.Gone tr.session
  settled : ∀ tr ∈ s.triggers, tr.isTeardown = true → ∀ tr' ∈ s.triggers, tr'.session = tr.session →
    tr'.isTeardown = false → tr'.phase.maySend = false
  sent : ∀ e ∈ s.sent, e.msg.type = .webrtcTeardown →
    ∃ tr ∈ s.triggers, tr.isTeardown = true ∧ tr.session = e.session
  last : s.TeardownLast

namespace Inv

variable {env : Env} {s t : State} {k i h : Nat} {tr tr' : Trigger}

theorem quiet (hs : Inv s) (htriggers : t.triggers = s.triggers) (hsent : t.sent = s.sent)
    (hgone : ∀ h, s.peers.base.Gone h → t.peers.base.Gone h) : Inv t where
  gone tr htr hkind := hgone _ (hs.gone tr (htriggers ▸ htr) hkind)
  settled := by
    rw [htriggers]
    exact hs.settled
  sent := by
    rw [htriggers, hsent]
    exact hs.sent
  last := by
    unfold State.TeardownLast
    rw [hsent]
    exact hs.last

/-- A new trigger. If it is for a teardown, the connect trigger of the session is past sending. -/
theorem append (hs : Inv s) (htriggers : t.triggers = s.triggers ++ [tr]) (hsent : t.sent = s.sent)
    (hgone : ∀ h, s.peers.base.Gone h → t.peers.base.Gone h)
    (hteardown : tr.isTeardown = true → s.peers.base.Gone tr.session ∧ ∀ tr' ∈ s.triggers,
      tr'.session = tr.session → tr'.isTeardown = false → tr'.phase.maySend = false)
    (hconnect : tr.isTeardown = false → ¬ s.peers.base.Gone tr.session) : Inv t := by
  refine ⟨?_, ?_, ?_, ?_⟩
  · rw [htriggers]
    exact Tasks.forall_mem_append (fun tr htr hkind => hgone _ (hs.gone tr htr hkind))
      fun hkind => hgone _ (hteardown hkind).1
  · rw [htriggers]
    refine Tasks.forall_mem_append (fun old hold hkind => ?_) fun hkind => ?_
    · refine Tasks.forall_mem_append (hs.settled old hold hkind) fun hsession hfirst => ?_
      -- a connect trigger is not started for a session that is over
      exact absurd (hsession ▸ hs.gone old hold hkind) (hconnect hfirst)
    · refine Tasks.forall_mem_append (hteardown hkind).2 fun _ hfirst => ?_
      rw [hkind] at hfirst
      cases hfirst
  · rw [htriggers, hsent]
    intro e he htype
    obtain ⟨old, hold, hkind, hsession⟩ := hs.sent e he htype
    exact ⟨old, List.mem_append_left _ hold, hkind, hsession⟩
  · unfold State.TeardownLast
    rw [hsent]
    exact hs.last

/-- A trigger goes on. -/
theorem set (hs : Inv s) (hk : s.triggers[k]? = some tr)
    (htriggers : t.triggers = s.triggers.set k tr') (hsent : t.sent = s.sent)
    (hpeers : t.peers = s.peers) (hsession : tr'.session = tr.session)
    (hkind : tr'.isTeardown = tr.isTeardown)
    (hmay : tr'.phase.maySend = true → tr.phase.maySend = true) : Inv t := by
  have htr := List.mem_of_getElem? hk
  refine ⟨?_, ?_, ?_, ?_⟩
  · rw [htriggers, hpeers]
    refine Tasks.forall_mem_set k hs.gone fun hteardown => ?_
    rw [hsession]
    exact hs.gone tr htr (hkind ▸ hteardown)
  · rw [htriggers]
    have hsettled : ∀ old ∈ s.triggers, old.isTeardown = true → ∀ x ∈ s.triggers.set k tr',
        x.session = old.session → x.isTeardown = false → x.phase.maySend = false := by
      intro old hold hteardown
      refine Tasks.forall_mem_set k (hs.settled old hold hteardown) fun hsame hfirst => ?_
      have hbefore := hs.settled old hold hteardown tr htr (hsession ▸ hsame) (hkind ▸ hfirst)
      cases hafter : tr'.phase.maySend with
      | false => rfl
      | true => exact absurd (hmay hafter) (by rw [hbefore]; exact Bool.false_ne_true)
    refine Tasks.forall_mem_set k hsettled fun hteardown => ?_
    rw [hsession]
    exact hsettled tr htr (hkind ▸ hteardown)
  · rw [htriggers, hsent]
    intro e he htype
    refine Tasks.exists_mem_set hk (fun ⟨hteardown, hsame⟩ => ?_) (hs.sent e he htype)
    exact ⟨hkind.trans hteardown, hsession.trans hsame⟩
  · unfold State.TeardownLast
    rw [hsent]
    exact hs.last

/-- A trigger sends its message. -/
theorem deliver (hs : Inv s) (hk : s.triggers[k]? = some tr) (hphase : tr.phase = .pushing i) :
    Inv (s.deliver i tr) where
  gone := hs.gone
  settled := hs.settled
  sent := by
    refine Tasks.forall_mem_append hs.sent fun htype => ⟨tr, List.mem_of_getElem? hk, ?_, rfl⟩
    cases hkind : tr.isTeardown with
    | true => rfl
    | false =>
      simp only [Trigger.message, hkind, Bool.false_eq_true, if_false] at htype
      cases htype
  last := by
    refine List.pairwise_append.mpr ⟨hs.last, List.pairwise_singleton _ _, ?_⟩
    intro a ha b hb hsession hteardown hbootstrap
    obtain rfl := List.mem_singleton.mp hb
    obtain ⟨old, hold, hkind, hsame⟩ := hs.sent a ha hteardown
    -- a bootstrap that is being sent has no teardown trigger beside it
    have hfirst : tr.isTeardown = false := by
      cases hkind : tr.isTeardown with
      | false => rfl
      | true =>
        simp only [Trigger.message, hkind, if_true] at hbootstrap
        cases hbootstrap
    have hsettled := hs.settled old hold hkind tr (List.mem_of_getElem? hk)
      (hsession.symm.trans hsame.symm) hfirst
    rw [hphase] at hsettled
    cases hsettled

/-- **Every step that meets the condition keeps the invariant.** -/
theorem step {a : Step} (hs : Inv s) (hfirst : s.SendsFirst a) (hstep : s.step env a = some t) :
    Inv t := by
  cases move_of_step hstep with
  | quiet htriggers hsent hgone => exact hs.quiet htriggers hsent hgone
  | trigger hsession hkind hpresent htriggers hsent hgone =>
    refine hs.append htriggers hsent hgone (fun hteardown => ?_) fun _ => ?_
    · rw [hkind] at hteardown
      cases hteardown
    · rw [hsession]
      exact hpresent
  | teardown hsession hkind hleft htriggers hsent hgone =>
    refine hs.append htriggers hsent hgone (fun _ => ?_) fun hconnect => ?_
    · rw [hsession]
      exact ⟨hleft, hfirst⟩
    · rw [hkind] at hconnect
      cases hconnect
  | goOn hk htriggers hsent hpeers hsession hkind hmay =>
    exact hs.set hk htriggers hsent hpeers hsession hkind hmay
  | @push k i tr hk hphase =>
    have hsent : (s.deliver i tr).triggers[k]? = some tr := hk
    refine (hs.deliver hk hphase).set hsent rfl rfl rfl rfl rfl fun hmay => ?_
    rw [maySend_afterSuccess] at hmay
    cases hmay

end Inv

/-- **Bootstrap before teardown**, in every run in which each teardown trigger is started after the
session's connect trigger has sent its message, or given up. -/
theorem teardownLast_of_sendsFirst (env : Env) (steps : List Step) (s : State)
    (halong : (machine env).Along State.SendsFirst (machine env).init steps)
    (hrun : (machine env).run (machine env).init steps = some s) : s.TeardownLast := by
  have hinit : Inv (machine env).init := by
    refine ⟨fun tr htr => ?_, fun tr htr => ?_, fun e he => ?_, List.Pairwise.nil⟩
    · simp [machine] at htr
    · simp [machine] at htr
    · simp [machine] at he
  exact ((machine env).along_invariant (fun _ _ _ hs hfirst hstep => hs.step hfirst hstep) hinit
    halong hrun).last

/-- The control connection of a robot, up to its entry in the hub. -/
def controlSteps : List Step :=
  [.control (.connect robotA ['a']), .control (.register 0 .rejectNew),
    .control (.upsert 0 0)]

/-- A client connects and its connect trigger is started, as handler `0`. -/
def arriveSteps : List Step :=
  .connect robotA .client (peerAt 1 'c') [] ::
    [.getOrCreate, .install, .activate, .ready, .trigger, .start].map (.handler 0)

/-- The client disconnects and its teardown trigger is started. -/
def departSteps : List Step :=
  [.readFail, .disconnect, .bye, .teardown].map (.handler 0)

/-- A trigger up to the message in the channel. -/
def sendSteps (k : Nat) : List Step :=
  [.start 0 [], .lookup, .push].map (.trigger k)

/-- The message of the connect trigger is sent while the client is there. -/
def orderlySteps : List Step :=
  controlSteps ++ arriveSteps ++ sendSteps 0 ++ departSteps ++ sendSteps 1

theorem teardownLast_orderlySteps :
    ∃ s, (machine sampleEnv).run (machine sampleEnv).init orderlySteps = some s ∧
      s.sent.map (fun e => e.msg.type) = [.webrtcBootstrap, .webrtcTeardown] ∧
      s.TeardownLast := by
  obtain ⟨s, hrun, hsent⟩ := (machine sampleEnv).exists_run orderlySteps
    (fun s => s.sent.map (fun e => e.msg.type) = [.webrtcBootstrap, .webrtcTeardown]) (by decide)
  exact ⟨s, hrun, hsent, teardownLast_of_sendsFirst sampleEnv _ s (by decide) hrun⟩

/-! ### A client that is gone -/

/-- The client leaves before the goroutine of its connect trigger has run. -/
def hastySteps : List Step :=
  controlSteps ++ arriveSteps ++ departSteps ++ sendSteps 1 ++ sendSteps 0

/-- In the channel of the robot's control connection the bootstrap of the session stands behind its
teardown. -/
theorem teardownLast_fails :
    ∃ s, (machine sampleEnv).run (machine sampleEnv).init hastySteps = some s ∧
      s.sent = [⟨0, 0, ⟨.webrtcTeardown, ['c'], ['c'], [], []⟩⟩,
        ⟨0, 0, ⟨.webrtcBootstrap, ['c'], ['c'], [], ['c']⟩⟩] ∧
      s.send 0 = s.sent.map (fun e => .bootstrap e.msg) ∧ ¬ s.TeardownLast := by
  obtain ⟨s, hrun, hsent, hsend⟩ := (machine sampleEnv).exists_run hastySteps
    (fun s => s.sent = [⟨0, 0, ⟨.webrtcTeardown, ['c'], ['c'], [], []⟩⟩,
        ⟨0, 0, ⟨.webrtcBootstrap, ['c'], ['c'], [], ['c']⟩⟩] ∧
      s.send 0 = s.sent.map (fun e => .bootstrap e.msg)) (by decide)
  refine ⟨s, hrun, hsent, hsend, fun hlast => ?_⟩
  unfold State.TeardownLast at hlast
  rw [hsent] at hlast
  exact absurd hlast (by decide)

end Roboat.Signaling.Bootstrap
