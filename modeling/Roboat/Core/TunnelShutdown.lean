import Roboat.Transition.Machine
import Roboat.Transition.Tasks
import Roboat.Text.Strings
import Roboat.Wire.Frame

/-! # Shutting the tunnel server down

`TunnelServer::shutdown` calls `Notify::notify_waiters`: it wakes the `Notified` futures that exist
at the call and leaves nothing behind for later ones. `handle_client` makes such a future anew on
every turn of its loop and drops it while it handles a frame, so a handler that authenticates, or
handles a frame, or is between two turns at that moment never hears of the shutdown. A handler that
waits in its `select!` hears of it; but the branches of a `select!` are polled in random order, and
a frame that is there as well may be taken first.

The machine has the accept loop of `run` and the handlers it spawned; a label is one step of one of
them, with the outcome of what it awaited. `shutdown_seen_iff` says which handlers dispatch no
further frame. -/

namespace Roboat.Core

/-- `WebRtcTeardownPayload`. -/
structure WebRtcTeardownPayload where
  bootstrapId : Option Str
  deriving DecidableEq, Repr

/-- What is sent to the WebRTC side. -/
inductive Trigger (Bootstrap : Type) where
  | bootstrap (payload : Bootstrap)
  | teardown (payload : WebRtcTeardownPayload)
  deriving DecidableEq, Repr

/-- The payloads of frames as `serde_json` reads and writes them, and which of the optional channels
are set. -/
structure TunnelConfig (Request Response Bootstrap : Type) where
  commandRequest : List UInt8 → Option Request
  webRtcBootstrap : List UInt8 → Option Bootstrap
  webRtcTeardown : List UInt8 → Option WebRtcTeardownPayload
  commandResponse : Response → List UInt8
  /-- `webrtc_trigger` is set. -/
  webrtcTrigger : Bool
  /-- `webrtc_teardown` is set. -/
  webrtcTeardown : Bool

/-- **Where a handler is.** -/
inductive HandlerPhase (Request : Type) where
  | authenticating
  /-- At the head of the loop: the futures of the `select!` do not exist. -/
  | looping
  /-- In the `select!`; whether its `Notified` future has been notified. -/
  | selecting (notified : Bool)
  /-- In `command_tx.send`. -/
  | sending (request : Request)
  /-- In `resp_rx.recv`. -/
  | responding
  /-- Waiting for the writer, or writing a frame. -/
  | writing (frameType : FrameType) (data : List UInt8)
  | ended
  deriving DecidableEq, Repr

/-- **Where the accept loop is.** -/
inductive AcceptPhase where
  | looping
  | selecting (notified : Bool)
  | ended
  deriving DecidableEq, Repr

/-- `notify_waiters`, as the accept loop sees it. -/
def AcceptPhase.notifyWaiters : AcceptPhase → AcceptPhase
  | .selecting _ => .selecting true
  | p => p

/-- `notify_waiters`, as a handler sees it: there is a future only in the `select!`. -/
def HandlerPhase.notifyWaiters {Request : Type} : HandlerPhase Request → HandlerPhase Request
  | .selecting _ => .selecting true
  | p => p

/-- The server: its accept loop and its handlers, in the order in which they were spawned. -/
structure TunnelState (Request Bootstrap : Type) where
  accepting : AcceptPhase
  handlers : List (HandlerPhase Request)
  /-- The commands handed to the application, with the handler that sent them. -/
  commands : List (Nat × Request)
  /-- What was offered to the WebRTC channels. -/
  triggers : List (Trigger Bootstrap)
  /-- History: the frames that were dispatched, with the handler that read them. -/
  frames : List (Nat × FrameType × List UInt8)
  deriving DecidableEq, Repr

/-- A step of a handler, with the outcome of what it awaited. -/
inductive HandlerStep (Response : Type) where
  | authenticate (ok : Bool)
  /-- The futures of the `select!` are made. -/
  | turn
  /-- The branch of `read_frame`, with a frame. -/
  | read (frameType : FrameType) (data : List UInt8)
  /-- The branch of `read_frame`, with an error. -/
  | readFail
  /-- The branch of the shutdown. -/
  | notified
  | send (ok : Bool)
  /-- `none` when the application dropped the sender. -/
  | response (response : Option Response)
  | write (ok : Bool)
  deriving DecidableEq, Repr

/-- A step of the server. -/
inductive TunnelStep (Response : Type) where
  | shutdown
  /-- The accept loop makes the futures of its `select!`. -/
  | turn
  | accept (ok : Bool)
  /-- The accept loop takes the branch of the shutdown. -/
  | notified
  | handler (k : Nat) (step : HandlerStep Response)
  deriving DecidableEq, Repr

namespace TunnelState

variable {Request Bootstrap : Type}

/-- `TunnelServer::shutdown`. -/
def shutdown (s : TunnelState Request Bootstrap) : TunnelState Request Bootstrap :=
  { s with accepting := s.accepting.notifyWaiters
           handlers := s.handlers.map HandlerPhase.notifyWaiters }

/-- Handler `k` is now in phase `p`. -/
def put (s : TunnelState Request Bootstrap) (k : Nat) (p : HandlerPhase Request) :
    TunnelState Request Bootstrap :=
  { s with handlers := s.handlers.set k p }

/-- The frames that handler `k` has dispatched. -/
def framesOf (s : TunnelState Request Bootstrap) (k : Nat) : List (Nat × FrameType × List UInt8) :=
  s.frames.filter fun f => f.1 == k

end TunnelState

namespace TunnelConfig

variable {Request Response Bootstrap : Type} (c : TunnelConfig Request Response Bootstrap)

/-- The match on the type of a frame: where the handler goes, and what it offers to the WebRTC
channels on the way. -/
def dispatch (frameType : FrameType) (data : List UInt8) :
    HandlerPhase Request × Option (Trigger Bootstrap) :=
  match frameType with
  | .commandRequest =>
    match c.commandRequest data with
    | some request => (.sending request, none)
    | none => (.looping, none)
  | .ping => (.writing .pong [], none)
  | .webRtcBootstrap =>
    if c.webrtcTrigger then (.looping, (c.webRtcBootstrap data).map .bootstrap)
    else (.looping, none)
  | .webRtcTeardown =>
    if c.webrtcTeardown then
      let payload := if data.isEmpty then ⟨none⟩ else (c.webRtcTeardown data).getD ⟨none⟩
      (.looping, some (.teardown payload))
    else (.looping, none)
  | _ => (.looping, none)

/-- `handle_client`, one step of handler `k` in phase `p`. -/
def handlerStep (s : TunnelState Request Bootstrap) (k : Nat) (p : HandlerPhase Request)
    (step : HandlerStep Response) : Option (TunnelState Request Bootstrap) :=
  match p, step with
  | .authenticating, .authenticate ok => some (s.put k (if ok then .looping else .ended))
  | .looping, .turn => some (s.put k (.selecting false))
  | .selecting _, .read frameType data =>
    let (next, trigger) := c.dispatch frameType data
    some { s.put k next with
      triggers := s.triggers ++ trigger.toList
      frames := s.frames ++ [(k, frameType, data)] }
  | .selecting _, .readFail => some (s.put k .ended)
  -- a future that was notified before it is polled is ready all the same
  | .selecting true, .notified => some (s.put k .ended)
  | .sending request, .send ok =>
    if ok then some { s.put k .responding with commands := s.commands ++ [(k, request)] }
    else some (s.put k .ended)
  | .responding, .response none => some (s.put k .looping)
  | .responding, .response (some r) =>
    some (s.put k (.writing .commandResponse (c.commandResponse r)))
  | .writing _ _, .write ok => some (s.put k (if ok then .looping else .ended))
  | _, _ => none

/-- The server, one step. -/
def tunnelStep (s : TunnelState Request Bootstrap) (step : TunnelStep Response) :
    Option (TunnelState Request Bootstrap) :=
  match step with
  | .shutdown => some s.shutdown
  | .turn => if s.accepting = .looping then some { s with accepting := .selecting false } else none
  | .accept ok =>
    match s.accepting with
    | .selecting _ =>
      some { s with accepting := .looping
                    handlers := s.handlers ++ (if ok then [.authenticating] else []) }
    | _ => none
  | .notified =>
    if s.accepting = .selecting true then some { s with accepting := .ended } else none
  | .handler k step => (s.handlers[k]?).bind fun p => c.handlerStep s k p step

/-- **The tunnel server.** -/
def machine : Machine (TunnelState Request Bootstrap) (TunnelStep Response) where
  init := { accepting := .looping, handlers := [], commands := [], triggers := [], frames := [] }
  step := c.tunnelStep

end TunnelConfig

/-- A handler waits in its `select!`. -/
def HandlerPhase.isSelecting {Request : Type} : HandlerPhase Request → Bool
  | .selecting _ => true
  | _ => false

/-- **A `select!` that takes the branch of the shutdown** when it has been notified, also when there
is a frame. -/
def PrefersShutdown {Request Response Bootstrap : Type} (s : TunnelState Request Bootstrap) :
    TunnelStep Response → Prop
  | .handler k (.read _ _) => s.handlers[k]? ≠ some (.selecting true)
  | _ => True

section Shutdown

variable {Request Response Bootstrap : Type} {c : TunnelConfig Request Response Bootstrap}
  {s t : TunnelState Request Bootstrap} {k : Nat} {p : HandlerPhase Request}

/-! ## What a step can do -/

/-- **What a handler's step can do**: it moves its own phase, and dispatches a frame exactly when it
reads one in its `select!`. -/
theorem of_handlerStep {step : HandlerStep Response} (h : c.handlerStep s k p step = some t) :
    p ≠ .ended ∧ ∃ next, t.handlers = s.handlers.set k next ∧
      ((t.frames = s.frames ∧ (p = .selecting true → next = .ended)) ∨
        ∃ frameType data, step = .read frameType data ∧
          t.frames = s.frames ++ [(k, frameType, data)]) := by
  unfold TunnelConfig.handlerStep at h
  split at h
  case h_3 =>
    rw [← Option.some.inj h]
    exact ⟨nofun, _, rfl, Or.inr ⟨_, _, rfl, rfl⟩⟩
  case h_6 =>
    split_ifs at h <;> rw [← Option.some.inj h] <;>
      exact ⟨nofun, _, rfl, Or.inl ⟨rfl, nofun⟩⟩
  case h_4 | h_5 =>
    rw [← Option.some.inj h]
    exact ⟨nofun, _, rfl, Or.inl ⟨rfl, fun _ => rfl⟩⟩
  case h_10 => cases h
  all_goals
    rw [← Option.some.inj h]
    exact ⟨nofun, _, rfl, Or.inl ⟨rfl, nofun⟩⟩

/-- A step elsewhere leaves a handler and its frames alone; its own is a handler's step. -/
theorem of_tunnelStep {step : TunnelStep Response} (hk : s.handlers[k]? = some p)
    (h : c.tunnelStep s step = some t) :
    (∃ own, step = .handler k own ∧ c.handlerStep s k p own = some t) ∨
      (t.framesOf k = s.framesOf k ∧
        (t.handlers[k]? = some p ∨ t.handlers[k]? = some p.notifyWaiters)) := by
  cases step with
  | shutdown =>
    rw [← Option.some.inj h]
    refine Or.inr ⟨rfl, Or.inr ?_⟩
    show (s.handlers.map HandlerPhase.notifyWaiters)[k]? = _
    rw [List.getElem?_map, hk]
    rfl
  | turn | notified =>
    simp only [TunnelConfig.tunnelStep] at h
    split_ifs at h
    rw [← Option.some.inj h]
    exact Or.inr ⟨rfl, Or.inl hk⟩
  | accept ok =>
    simp only [TunnelConfig.tunnelStep] at h
    split at h
    · rw [← Option.some.inj h]
      refine Or.inr ⟨rfl, Or.inl ?_⟩
      obtain ⟨hlt, -⟩ := List.getElem?_eq_some_iff.mp hk
      rw [← hk]
      exact List.getElem?_append_left hlt
    · cases h
  | handler j own =>
    obtain ⟨q, hq, hown⟩ := Option.bind_eq_some_iff.mp h
    by_cases hjk : j = k
    · subst hjk
      obtain rfl : p = q := Option.some.inj (hk.symm.trans hq)
      exact Or.inl ⟨own, rfl, hown⟩
    · obtain ⟨-, next, hnext, hframes⟩ := of_handlerStep hown
      refine Or.inr ⟨?_, Or.inl ?_⟩
      · rcases hframes with ⟨hsame, -⟩ | ⟨frameType, data, -, hmore⟩
        · unfold TunnelState.framesOf
          rw [hsame]
        · unfold TunnelState.framesOf
          rw [hmore, List.filter_append]
          simp [hjk]
      · rw [hnext, List.getElem?_set_ne hjk, hk]

/-! ## A handler that is told -/

/-- The handler has been told, or has ended. -/
def HandlerPhase.Told {Request : Type} (p : HandlerPhase Request) : Prop :=
  p = .selecting true ∨ p = .ended

/-- A handler that has been told, with the frames it had dispatched by then. -/
def ToldWith (k : Nat) (frames : List (Nat × FrameType × List UInt8))
    (s : TunnelState Request Bootstrap) : Prop :=
  s.framesOf k = frames ∧ ∃ p, s.handlers[k]? = some p ∧ p.Told

theorem notifyWaiters_of_isSelecting (h : p.isSelecting = true) :
    p.notifyWaiters = .selecting true := by
  cases p <;> first | rfl | cases h

theorem notifyWaiters_of_not (h : p.isSelecting = false) : p.notifyWaiters = p := by
  cases p <;> first | rfl | cases h

/-- A handler that waits is told. -/
theorem told_of_waiting (h : p.isSelecting = true ∨ p = .ended) : p.notifyWaiters.Told := by
  rcases h with hwaiting | rfl
  · exact Or.inl (notifyWaiters_of_isSelecting hwaiting)
  · exact Or.inr rfl

/-- **A handler that has been told dispatches nothing**, if its `select!` listens. -/
theorem toldWith_step {frames : List (Nat × FrameType × List UInt8)} {step : TunnelStep Response}
    (hs : ToldWith k frames s) (hprefers : PrefersShutdown s step)
    (h : c.tunnelStep s step = some t) : ToldWith k frames t := by
  obtain ⟨hframes, p, hp, htold⟩ := hs
  rcases of_tunnelStep hp h with ⟨own, rfl, hown⟩ | ⟨hsame, hphase⟩
  · obtain ⟨hended, next, hnext, hmoved⟩ := of_handlerStep hown
    have hselecting : p = .selecting true := htold.resolve_right hended
    rcases hmoved with ⟨hkept, hleaves⟩ | ⟨frameType, data, rfl, -⟩
    · refine ⟨?_, next, ?_, Or.inr (hleaves hselecting)⟩
      · rw [← hframes]
        unfold TunnelState.framesOf
        rw [hkept]
      · rw [hnext, Tasks.set_self hp]
    · -- the branch of the frame, in a handler that has been told
      rw [hselecting] at hp
      exact absurd hp hprefers
  · refine ⟨hsame.trans hframes, ?_⟩
    rcases hphase with hphase | hphase
    · exact ⟨p, hphase, htold⟩
    · refine ⟨_, hphase, told_of_waiting (htold.imp_left ?_)⟩
      rintro rfl
      rfl

/-- A handler that has ended, with the frames it had dispatched by then. -/
def EndedWith (k : Nat) (frames : List (Nat × FrameType × List UInt8))
    (s : TunnelState Request Bootstrap) : Prop :=
  s.framesOf k = frames ∧ s.handlers[k]? = some .ended

/-- A handler that has ended stays so. -/
theorem endedWith_step {frames : List (Nat × FrameType × List UInt8)} {step : TunnelStep Response}
    (hs : EndedWith k frames s) (h : c.tunnelStep s step = some t) : EndedWith k frames t := by
  obtain ⟨hframes, hended⟩ := hs
  rcases of_tunnelStep hended h with ⟨own, rfl, hown⟩ | ⟨hsame, hphase⟩
  · exact absurd rfl (of_handlerStep hown).1
  · exact ⟨hsame.trans hframes, hphase.elim id id⟩

/-! ## A handler that is not told -/

/-- **A frame can still be dispatched** by handler `k`, although every `select!` listens. -/
def CanDispatch (c : TunnelConfig Request Response Bootstrap) (k : Nat) (frameType : FrameType)
    (data : List UInt8) (s : TunnelState Request Bootstrap) : Prop :=
  ∃ steps t, c.machine.run s steps = some t ∧ c.machine.Along PrefersShutdown s steps ∧
    t.frames = s.frames ++ [(k, frameType, data)]

theorem step_handler {own : HandlerStep Response} (hk : s.handlers[k]? = some p)
    (h : c.handlerStep s k p own = some t) : c.machine.step s (.handler k own) = some t := by
  show (s.handlers[k]?).bind _ = _
  rw [hk]
  exact h

/-- A handler in its `select!` can take the branch of a frame, told or not. -/
theorem step_read {notified : Bool} (hk : s.handlers[k]? = some (.selecting notified))
    (frameType : FrameType) (data : List UInt8) :
    ∃ t, c.machine.step s (.handler k (.read frameType data)) = some t ∧
      t.frames = s.frames ++ [(k, frameType, data)] :=
  ⟨_, step_handler hk rfl, rfl⟩

variable {frameType : FrameType} {data : List UInt8}

/-- A step that dispatches nothing, taken first. -/
theorem canDispatch_of_step (step : TunnelStep Response) (hprefers : PrefersShutdown s step)
    (h : c.machine.step s step = some t) (hframes : t.frames = s.frames)
    (ht : CanDispatch c k frameType data t) : CanDispatch c k frameType data s := by
  obtain ⟨steps, u, hrun, halong, hu⟩ := ht
  refine ⟨step :: steps, u, c.machine.run_cons.mpr ⟨t, h, hrun⟩, ⟨hprefers, ?_⟩, hframes ▸ hu⟩
  intro v hv
  obtain rfl : t = v := Option.some.inj (h.symm.trans hv)
  exact halong

/-- A handler at the head of its loop makes a future that nobody notifies, and reads. -/
theorem canDispatch_looping (hk : s.handlers[k]? = some .looping) :
    CanDispatch c k frameType data s := by
  have hturn : c.machine.step s (.handler k .turn) = some (s.put k (.selecting false)) :=
    step_handler hk rfl
  have hselecting : (s.put k (.selecting false)).handlers[k]? = some (.selecting false) :=
    Tasks.set_self hk
  refine canDispatch_of_step (.handler k .turn) trivial hturn rfl ?_
  obtain ⟨t, hread, hframes⟩ := step_read (c := c) hselecting frameType data
  refine ⟨[.handler k (.read frameType data)], t,
    c.machine.run_cons.mpr ⟨t, hread, rfl⟩, ⟨?_, fun _ _ => trivial⟩, hframes⟩
  show (s.put k (.selecting false)).handlers[k]? ≠ some (.selecting true)
  rw [hselecting]
  nofun

theorem canDispatch_responding (hk : s.handlers[k]? = some .responding) :
    CanDispatch c k frameType data s :=
  canDispatch_of_step (.handler k (.response none)) trivial (step_handler hk rfl) rfl
    (canDispatch_looping (Tasks.set_self hk))

/-- **A handler that is neither waiting nor ended dispatches any frame**: it comes back to its loop
first. -/
theorem canDispatch_of_busy (hk : s.handlers[k]? = some p) (hwaiting : p.isSelecting = false)
    (hended : p ≠ .ended) : CanDispatch c k frameType data s := by
  cases p with
  | authenticating =>
    exact canDispatch_of_step (.handler k (.authenticate true)) trivial
      (step_handler hk rfl) rfl (canDispatch_looping (Tasks.set_self hk))
  | looping => exact canDispatch_looping hk
  | selecting notified => cases hwaiting
  | sending request =>
    exact canDispatch_of_step (.handler k (.send true)) trivial
      (step_handler hk rfl) rfl (canDispatch_responding (Tasks.set_self hk))
  | responding => exact canDispatch_responding hk
  | writing _ _ =>
    exact canDispatch_of_step (.handler k (.write true)) trivial
      (step_handler hk rfl) rfl (canDispatch_looping (Tasks.set_self hk))
  | ended => exact absurd rfl hended

/-- One more frame of a handler is one more frame. -/
theorem framesOf_ne (h : t.frames = s.frames ++ [(k, frameType, data)]) :
    t.framesOf k ≠ s.framesOf k := by
  intro heq
  have hlen := congrArg List.length heq
  unfold TunnelState.framesOf at hlen
  rw [h, List.filter_append, List.length_append] at hlen
  simp at hlen

/-- A shutdown notifies every handler. -/
theorem shutdown_handlers (hk : s.handlers[k]? = some p) :
    s.shutdown.handlers[k]? = some p.notifyWaiters := by
  show (s.handlers.map HandlerPhase.notifyWaiters)[k]? = _
  rw [List.getElem?_map, hk]
  rfl

end Shutdown

/-- **Which handlers hear of a shutdown.** In every state of the server, for a handler in phase `p`:

* if every `select!` takes the branch of the shutdown when it has been notified, the handler
  dispatches no further frame after the call, whatever happens, exactly when it was waiting in its
  `select!` or had ended;
* if a `select!` takes any branch that is ready, exactly when it had ended. -/
theorem shutdown_seen_iff {Request Response Bootstrap : Type}
    (c : TunnelConfig Request Response Bootstrap) (s : TunnelState Request Bootstrap) (k : Nat)
    (p : HandlerPhase Request) (hk : s.handlers[k]? = some p) :
    ((∀ steps t, c.machine.run s.shutdown steps = some t →
        c.machine.Along PrefersShutdown s.shutdown steps → t.framesOf k = s.framesOf k) ↔
      p.isSelecting = true ∨ p = .ended) ∧
    ((∀ steps t, c.machine.run s.shutdown steps = some t → t.framesOf k = s.framesOf k) ↔
      p = .ended) := by
  have hafter := shutdown_handlers hk
  have hbusy : p.isSelecting = false → p ≠ .ended → CanDispatch c k .ping [] s.shutdown := by
    intro hwaiting hended
    rw [notifyWaiters_of_not hwaiting] at hafter
    exact canDispatch_of_busy hafter hwaiting hended
  refine ⟨⟨fun hsilent => ?_, fun htold steps t hrun halong => ?_⟩,
    ⟨fun hsilent => ?_, fun hended steps t hrun => ?_⟩⟩
  · by_contra hnot
    rw [not_or, Bool.not_eq_true] at hnot
    obtain ⟨steps, t, hrun, halong, hframes⟩ := hbusy hnot.1 hnot.2
    exact framesOf_ne hframes (hsilent steps t hrun halong)
  · have htold' : ToldWith k (s.framesOf k) s.shutdown := ⟨rfl, _, hafter, told_of_waiting htold⟩
    exact (c.machine.along_invariant (I := ToldWith k (s.framesOf k))
      (fun _ _ _ hu hprefers hstep => toldWith_step hu hprefers hstep) htold' halong hrun).1
  · by_contra hended
    cases hwaiting : p.isSelecting with
    | false =>
      obtain ⟨steps, t, hrun, -, hframes⟩ := hbusy hwaiting hended
      exact framesOf_ne hframes (hsilent steps t hrun)
    | true =>
      -- the handler has been told, and takes the other branch
      rw [notifyWaiters_of_isSelecting hwaiting] at hafter
      obtain ⟨t, hread, hframes⟩ := step_read (c := c) hafter .ping []
      exact framesOf_ne hframes
        (hsilent [.handler k (.read .ping [])] t (c.machine.run_cons.mpr ⟨t, hread, rfl⟩))
  · subst hended
    have hended' : EndedWith k (s.framesOf k) s.shutdown := ⟨rfl, hafter⟩
    exact (c.machine.run_invariant (I := EndedWith k (s.framesOf k))
      (fun _ _ _ hu hstep => endedWith_step hu hstep) hended' hrun).1

/-- The server of the samples: a command is its own text, and the WebRTC channels are not set. -/
def sampleTunnel : TunnelConfig (List UInt8) (List UInt8) Unit where
  commandRequest := some
  webRtcBootstrap _ := none
  webRtcTeardown _ := none
  commandResponse := id
  webrtcTrigger := false
  webrtcTeardown := false

/-- The server accepts a client, which authenticates, and its handler waits. -/
def firstClient : List (TunnelStep (List UInt8)) :=
  [.turn, .accept true, .turn, .handler 0 (.authenticate true), .handler 0 .turn]

/-- A handler that waits hears of the shutdown, if its `select!` listens. -/
theorem shutdown_seen_waiting :
    ∃ s, sampleTunnel.machine.run sampleTunnel.machine.init firstClient = some s ∧
      ∀ steps t, sampleTunnel.machine.run s.shutdown steps = some t →
        sampleTunnel.machine.Along PrefersShutdown s.shutdown steps →
          t.framesOf 0 = s.framesOf 0 :=
  ⟨_, rfl, (shutdown_seen_iff sampleTunnel _ 0 (.selecting false) rfl).1.mpr (Or.inl rfl)⟩

/-- **A shutdown that is missed.** The handler awaits the response to a command when the server is
shut down; it writes the response, turns around and dispatches a ping. Its `select!` was never
notified. -/
theorem shutdown_missed :
    ∃ t, sampleTunnel.machine.run sampleTunnel.machine.init
        (firstClient ++ [.handler 0 (.read .commandRequest [1]), .handler 0 (.send true), .shutdown,
          .handler 0 (.response (some [2])), .handler 0 (.write true), .handler 0 .turn,
          .handler 0 (.read .ping [])]) = some t ∧
      t.framesOf 0 = [(0, .commandRequest, [1]), (0, .ping, [])] ∧
      t.handlers = [.writing .pong []] :=
  ⟨_, rfl, by decide, by decide⟩

end Roboat.Core
