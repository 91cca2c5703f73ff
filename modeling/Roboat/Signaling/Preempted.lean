import Roboat.Signaling.Peers

/-! # What a preempted client is told

A client that takes the place of another one puts a `session-preempted` into its `send` channel and
then closes its `done` channel. The write pump of the client that was replaced finds both ready, and
`select` takes either.

Here a peer is watched as a *wire*: its channel, the message that its write pump has in hand, what
has been written, and whether the websocket is closed. One step of the server moves a wire in four
ways (`Wire.Turn`), which keep what was accepted in its order (`line_step`). So a closed websocket
has got everything up to a `session-preempted` exactly when none of these was still waiting
(`told_iff_not_missed`). Three steps close a websocket whose writes succeed: the `done` branch of
the write pump, the end of the read pump, and the refusal of a peer that was not installed yet.
Nobody is told of a replacement before its own install (`Watched`), so the first two decide
(`preempted_told_iff`). -/

namespace Roboat.Signaling.Peers

/-! ## Wires -/

/-- A `session-preempted` of the server. -/
def Queued.Preempts (q : Queued) : Prop := q.msg.type = .sessionPreempted ∧ q.source = none

instance : DecidablePred Queued.Preempts := fun q =>
  inferInstanceAs (Decidable (q.msg.type = .sessionPreempted ∧ q.source = none))

/-- The message that a write pump has taken and not written. -/
def WriterPhase.inHand : WriterPhase → List Queued
  | writing q => [q]
  | notStarted | selecting | returned => []

/-- A peer from its channel to its websocket. -/
structure Wire where
  send : List Queued
  inHand : List Queued
  written : List Queued
  closed : Bool
  deriving DecidableEq, Repr

/-- The wire of a peer. -/
def Peer.wire (peer : Peer) : Wire := ⟨peer.send, peer.writer.inHand, peer.written, peer.closed⟩

namespace Wire

/-- What still waits to be written. -/
def waiting (w : Wire) : List Queued := w.inHand ++ w.send

/-- What has come into the channel, in its order, as long as no write fails. -/
def line (w : Wire) : List Queued := w.written ++ w.waiting

/-- **A preempted client is told**: once the websocket is closed, each `session-preempted` among the
messages that were accepted has been written, and so has everything accepted before it. -/
def Told (accepted : List Queued) (w : Wire) : Prop :=
  w.closed = true → ∀ before q after, accepted = before ++ q :: after → q.Preempts →
    before ++ [q] <+: w.written

/-- A `session-preempted` waits. -/
def Holds (w : Wire) : Prop := ∃ q ∈ w.waiting, q.Preempts

instance (w : Wire) : Decidable w.Holds :=
  inferInstanceAs (Decidable (∃ q ∈ w.waiting, q.Preempts))

/-- The websocket is closed, and a `session-preempted` waits. -/
def Missed (w : Wire) : Prop := w.closed = true ∧ w.Holds

/-- A message comes into the channel, or none. -/
def push (w : Wire) (q : Option Queued) : Wire := { w with send := w.send ++ q.toList }

@[simp] theorem push_none (w : Wire) : w.push none = w := by
  simp [push]

/-- **What one step does to a wire**: the message that it puts into the channel, and whether it
closes the websocket. -/
inductive Turn (w : Wire) : Option Queued → Bool → Wire → Prop
  | push (q : Option Queued) : Turn w q false (w.push q)
  | close : Turn w none true { w with closed := true }
  | take {q : Queued} {send : List Queued} (hsend : w.send = q :: send) (hhand : w.inHand = []) :
    Turn w none false { w with send := send, inHand := [q] }
  | write {q : Queued} (hopen : w.closed = false) (hhand : w.inHand = [q]) :
    Turn w none false { w with inHand := [], written := w.written ++ [q] }

section Turns

variable {w w' : Wire} {q : Option Queued} {closes : Bool}

theorem Turn.keep (w : Wire) : w.Turn none false w := by
  have hturn := Turn.push (w := w) none
  rwa [push_none] at hturn

/-- **Nothing is lost or reordered in a turn.** -/
theorem Turn.line (h : w.Turn q closes w') : w'.line = w.line ++ q.toList := by
  cases h with
  | push => simp [Wire.line, waiting, Wire.push]
  | close => simp [Wire.line, waiting]
  | take hsend hhand => simp [Wire.line, waiting, hsend, hhand]
  | write hopen hhand => simp [Wire.line, waiting, hhand]

/-- A websocket is closed by the turn that closes it, and stays so. -/
theorem Turn.closed (h : w.Turn q closes w') : w'.closed = (w.closed || closes) := by
  cases h with
  | push | take | write => exact (Bool.or_false _).symm
  | close => exact (Bool.or_true _).symm

/-- Nothing is written to a closed websocket. -/
theorem Turn.waiting_of_closed (h : w.Turn q closes w') (hclosed : w'.closed = true) :
    w'.waiting = w.waiting ++ q.toList := by
  cases h with
  | push => simp [waiting, Wire.push]
  | close => simp [waiting]
  | take hsend hhand => simp [waiting, hsend, hhand]
  | write hopen => exact absurd hclosed (Bool.eq_false_iff.mp hopen)

/-- What waits after a turn has waited before it, or has just come. -/
theorem Turn.holds (h : w.Turn q closes w') (hholds : w'.Holds) :
    w.Holds ∨ ∃ r ∈ q, r.Preempts := by
  have hmem : ∀ r ∈ w'.waiting, r ∈ w.waiting ++ q.toList := by
    cases h with
    | push => simp [waiting, Wire.push]
    | close => simp [waiting]
    | take hsend hhand => simp [waiting, hsend, hhand]
    | write hopen hhand => simp +contextual [waiting, hhand]
  obtain ⟨r, hr, hpreempts⟩ := hholds
  rcases List.mem_append.mp (hmem r hr) with hwas | hnew
  · exact Or.inl ⟨r, hwas, hpreempts⟩
  · exact Or.inr ⟨r, Option.mem_toList.mp hnew, hpreempts⟩

/-- On a closed websocket it is still there. -/
theorem Turn.holds_of_closed (h : w.Turn q closes w') (hclosed : w'.closed = true)
    (hholds : w.Holds ∨ ∃ r ∈ q, r.Preempts) : w'.Holds := by
  simp only [Holds, h.waiting_of_closed hclosed, List.mem_append, Option.mem_toList]
  rcases hholds with ⟨r, hr, hpreempts⟩ | ⟨r, hr, hpreempts⟩
  · exact ⟨r, Or.inl hr, hpreempts⟩
  · exact ⟨r, Or.inr hr, hpreempts⟩

/-- A message that was missed stays so. -/
theorem Turn.missed (h : w.Turn q closes w') (hmissed : w.Missed) : w'.Missed := by
  have hclosed : w'.closed = true := by rw [h.closed, hmissed.1, Bool.true_or]
  exact ⟨hclosed, h.holds_of_closed hclosed (Or.inl hmissed.2)⟩

/-- **A turn misses a message** when it closes the websocket over one that waits, or puts one into
the channel of a closed websocket. -/
theorem Turn.missed_iff (h : w.Turn q closes w') (hmissed : ¬ w.Missed) :
    w'.Missed ↔ (closes = true ∧ w.Holds) ∨ (w.closed = true ∧ ∃ r ∈ q, r.Preempts) := by
  constructor
  · rintro ⟨hclosed', hholds⟩
    have hcause := h.holds hholds
    rw [h.closed, Bool.or_eq_true] at hclosed'
    rcases hclosed' with hclosed | hcloses
    · -- nothing waited before, so it is the message accepted now
      exact Or.inr ⟨hclosed, hcause.resolve_left fun hwas => hmissed ⟨hclosed, hwas⟩⟩
    · refine Or.inl ⟨hcloses, hcause.resolve_right ?_⟩
      subst hcloses
      cases h
      exact nofun
  · rintro (⟨rfl, hholds⟩ | ⟨hclosed, hq⟩)
    · have hclosed' : w'.closed = true := by rw [h.closed, Bool.or_true]
      exact ⟨hclosed', h.holds_of_closed hclosed' (Or.inl hholds)⟩
    · have hclosed' : w'.closed = true := by rw [h.closed, hclosed, Bool.true_or]
      exact ⟨hclosed', h.holds_of_closed hclosed' (Or.inr hq)⟩

/-- **Told or missed.** -/
theorem told_iff_not_missed (w : Wire) : w.Told w.line ↔ ¬ w.Missed := by
  constructor
  · rintro htold ⟨hclosed, q, hq, hpreempts⟩
    obtain ⟨first, rest, hwaiting⟩ := List.append_of_mem hq
    -- everything before it would have to be written twice
    have hwritten := htold hclosed (w.written ++ first) q rest
      (by rw [line, hwaiting, List.append_assoc]) hpreempts
    have hlength := hwritten.length_le
    simp only [List.length_append, List.length_singleton] at hlength
    omega
  · intro hmissed hclosed before q after hline hpreempts
    rcases List.append_eq_append_iff.mp hline with
      ⟨rest, hbefore, hwaiting⟩ | ⟨rest, hwritten, hrest⟩
    · refine absurd ⟨hclosed, q, ?_, hpreempts⟩ hmissed
      rw [hwaiting]
      exact List.mem_append_right rest List.mem_cons_self
    · cases rest with
      | nil =>
        refine absurd ⟨hclosed, q, ?_, hpreempts⟩ hmissed
        rw [← List.nil_append w.waiting, ← hrest]
        exact List.mem_cons_self
      | cons r rest =>
        obtain rfl : q = r := (List.cons.inj hrest).1
        exact ⟨rest, by rw [hwritten]; simp⟩

end Turns

end Wire

/-! ## One step -/

/-- The peer that is still to be told that the handler has replaced it. -/
def Stage.replacing : Stage → Option Nat
  | preempting prev _ => some prev
  | _ => none

namespace State

/-- A peer as a wire; one that has not come yet is like one that has just come. -/
def wire (s : State) (p : Nat) : Wire := (s.peers[p]?.getD {}).wire

/-- The `send` channel of a peer takes another message. -/
def hasRoom (s : State) (p : Nat) : Bool :=
  s.peers[p]?.any fun peer => peer.send.length < sendCapacity

/-- The message that an operation of a handler offers to a `send` channel, and whose it is. -/
def offered (s : State) (h : Nat) (hd : Handler) (peer : Peer) :
    HandlerStep → Option (Nat × Queued)
  | .preempt => peer.stage.replacing.map (·, { msg := message hd .sessionPreempted })
  | .ready =>
    match peer.stage with
    | .readying counterpart => counterpart.map (·, { msg := message hd .clientReady })
    | _ => none
  | .bye =>
    match peer.stage with
    | .notifying counterpart _ => counterpart.map (·, { msg := message hd .bye })
    | _ => none
  | .relay =>
    match peer.stage, hd.phase with
    | .relaying msg stale, .installed sid =>
      ((s.base.session sid).peer hd.role.other).map (·, ⟨msg, some h, stale⟩)
    | _, _ => none
  | _ => none

/-- What peer `p` gets of a message that is offered: the message is dropped if the channel is
full. -/
def accepts (s : State) (p : Nat) (offer : Option (Nat × Queued)) : Option Queued :=
  (offer.filter fun r => r.1 = p ∧ s.hasRoom p = true).map Prod.snd

/-- The peer that a step tells that it was replaced. -/
def notifies (s : State) : Step → Option Nat
  | .handler h .preempt => s.peers[h]?.bind fun peer => peer.stage.replacing
  | _ => none

end State

/-- The message that a step puts into the `send` channel of a peer, if any. -/
def accepted (p : Nat) (s : State) : Step → Option Queued
  | .handler h a =>
    s.base.handlers[h]?.bind fun hd => s.peers[h]?.bind fun peer =>
      s.accepts p (s.offered h hd peer a)
  | .connect .. | .writer .. => none

/-- The pumps of a peer end: its write pump takes the `done` branch, or its read pump returns. -/
def Ends (p : Nat) (a : Step) : Prop := a = .writer p .finish ∨ a = .handler p .readFail

instance (p : Nat) : DecidablePred (Ends p) := fun a =>
  inferInstanceAs (Decidable (a = .writer p .finish ∨ a = .handler p .readFail))

/-- **The condition**, on a step and the state before it: the pumps of the peer end only while no
`session-preempted` waits for it, and it is told of its replacement, if its channel has room for
that, only while its websocket is open. -/
def ToldFirst (p : Nat) (s : State) (a : Step) : Prop :=
  (Ends p a → ¬ (s.wire p).Holds) ∧
    (s.notifies a = some p → s.hasRoom p = true → (s.wire p).closed = false)

instance (p : Nat) (s : State) (a : Step) : Decidable (ToldFirst p s a) :=
  inferInstanceAs (Decidable ((Ends p a → ¬ (s.wire p).Holds) ∧ (_ → _ → _)))

/-- The websocket of a peer takes what its write pump writes. -/
def WritesSucceed (p : Nat) (a : Step) : Prop := a ≠ .writer p .writeFail ∧ a ≠ .writer p .pingFail

instance (p : Nat) : DecidablePred (WritesSucceed p) := fun a =>
  inferInstanceAs (Decidable (a ≠ .writer p .writeFail ∧ a ≠ .writer p .pingFail))

/-- The write pump has been started, or never will be. -/
def Stage.started : Stage → Bool
  | entering | preempting .. | closingPrev .. | activating .. | readying .. | triggering => false
  | starting => false
  | reading | relaying .. | ended | notifying .. | tearing | leaving | returned => true

/-- There is no write pump before it is started. -/
def Unstarted (s : State) : Prop := ∀ (p : Nat) peer, s.peers[p]? = some peer →
  peer.stage.started = false → peer.writer = .notStarted

/-- The wire of a peer makes a turn. Only the end of its pumps closes the websocket of a peer that
was installed. -/
def Turns (p : Nat) (s : State) (a : Step) (t : State) : Prop :=
  ∃ closes, (s.wire p).Turn (accepted p s a) closes (t.wire p) ∧
    (closes = true → Ends p a ∨ ¬ s.base.Late p)

section Steps

variable {env : Env} {s t u : State} {h p : Nat} {hd : Handler} {peer : Peer}

theorem wire_congr (hpeers : t.peers = s.peers) (p : Nat) : t.wire p = s.wire p := by
  rw [State.wire, hpeers, ← State.wire]

/-- The wires after one peer has changed. -/
theorem wire_update_cases (s : State) (h p : Nat) (f : Peer → Peer) :
    (∃ peer, h = p ∧ s.peers[h]? = some peer ∧ s.wire p = peer.wire ∧
      (s.update h f).wire p = (f peer).wire) ∨
      (h = p → s.peers[p]? = none) ∧ (s.update h f).wire p = s.wire p := by
  rw [State.wire, State.wire, State.update, List.getElem?_modify]
  cases hp : s.peers[p]? with
  | none => exact Or.inr ⟨fun _ => rfl, rfl⟩
  | some peer =>
    by_cases hph : h = p
    · subst hph
      exact Or.inl ⟨peer, rfl, hp, rfl, by simp⟩
    · exact Or.inr ⟨fun heq => absurd heq hph, by simp [hph]⟩

/-- The wires after a change that no wire shows. -/
theorem wire_update_of_eq {f : Peer → Peer} (hf : ∀ peer, (f peer).wire = peer.wire) :
    (s.update h f).wire p = s.wire p := by
  rcases wire_update_cases s h p f with ⟨peer, -, -, hold, hnew⟩ | ⟨-, heq⟩
  · rw [hold, hnew, hf]
  · exact heq

theorem wire_setStage (s : State) (h : Nat) (stage : Stage) :
    (s.setStage h stage).wire p = s.wire p :=
  wire_update_of_eq fun _ => rfl

/-- A step that puts nothing into the channel leaves the wire alone. -/
theorem Turns.of_eq {a : Step} (hnone : accepted p s a = none) (heq : t.wire p = s.wire p) :
    Turns p s a t := by
  refine ⟨false, ?_, nofun⟩
  rw [hnone, heq]
  exact .keep _

/-- A step that closes the websocket puts nothing into the channel. -/
theorem Turns.close {a : Step} (hnone : accepted p s a = none)
    (heq : t.wire p = { s.wire p with closed := true }) (hcause : Ends p a ∨ ¬ s.base.Late p) :
    Turns p s a t := by
  refine ⟨true, ?_, fun _ => hcause⟩
  rw [hnone, heq]
  exact .close

/-! ### What a handler does -/

/-- No handler and no write pump moves on; what is offered comes into the channel if there is
room. -/
structure Posts (s t : State) (offer : Option (Nat × Queued)) : Prop where
  aside : ∀ (p : Nat) peer', t.peers[p]? = some peer' →
    ∃ peer, s.peers[p]? = some peer ∧ peer'.stage = peer.stage ∧ peer'.writer = peer.writer
  wire : ∀ p, t.wire p = (s.wire p).push (s.accepts p offer)

namespace Posts

variable {offer : Option (Nat × Queued)}

/-- The peers stay as they are. -/
theorem of_peers (hpeers : t.peers = s.peers) : Posts s t none where
  aside _ peer hp := ⟨peer, hpeers ▸ hp, rfl, rfl⟩
  wire p := by
    rw [wire_congr hpeers p]
    exact (Wire.push_none _).symm

/-- Only the peers count. -/
theorem congr {s' t' : State} (hst : Posts s t offer) (hs : s.peers = s'.peers)
    (ht : t'.peers = t.peers) : Posts s' t' offer where
  aside p peer hp := by
    rw [← hs]
    exact hst.aside p peer (ht ▸ hp)
  wire p := by
    rw [wire_congr ht p, ← wire_congr hs p, hst.wire p, State.accepts, State.accepts,
      State.hasRoom, State.hasRoom, hs]

/-- One peer changes. -/
theorem update {f : Peer → Peer} (hstage : ∀ peer, (f peer).stage = peer.stage)
    (hwriter : ∀ peer, (f peer).writer = peer.writer)
    (hwire : ∀ p, (s.update h f).wire p = (s.wire p).push (s.accepts p offer)) :
    Posts s (s.update h f) offer where
  aside p peer' hp := by
    obtain ⟨peer, hold, rfl⟩ := peers_update hp
    refine ⟨peer, hold, ?_⟩
    split_ifs
    · exact ⟨hstage peer, hwriter peer⟩
    · exact ⟨rfl, rfl⟩
  wire := hwire

/-- A field of a peer changes that its wire does not show. -/
theorem mark {f : Peer → Peer} (hstage : ∀ peer, (f peer).stage = peer.stage)
    (hwriter : ∀ peer, (f peer).writer = peer.writer)
    (hwire : ∀ peer, (f peer).wire = peer.wire) : Posts s (s.update h f) none := by
  refine update hstage hwriter fun p => ?_
  rw [wire_update_of_eq hwire]
  exact (Wire.push_none _).symm

theorem offer_eq (s : State) (d : Nat) (q : Queued) :
    s.offer d q = if s.hasRoom d = true then
      some (s.update d fun peer => { peer with send := peer.send ++ [q] }) else none := by
  unfold State.offer State.hasRoom
  cases s.peers[d]? <;> simp

/-- A full channel drops the message, and another one takes it. -/
theorem offered (s : State) (d : Nat) (q : Queued) :
    Posts s ((s.offer d q).getD s) (some (d, q)) := by
  rw [offer_eq]
  cases hroom : s.hasRoom d with
  | false =>
    refine ⟨(of_peers rfl).aside, fun p => ?_⟩
    have hnone : s.accepts p (some (d, q)) = none := by
      by_cases hdp : d = p
      · subst hdp
        simp [State.accepts, Option.filter, hroom]
      · simp [State.accepts, Option.filter, hdp]
    rw [hnone]
    exact (Wire.push_none _).symm
  | true =>
    refine update (fun _ => rfl) (fun _ => rfl) fun p => ?_
    rcases wire_update_cases s d p fun peer => { peer with send := peer.send ++ [q] } with
      ⟨peer, rfl, -, hold, hnew⟩ | ⟨hother, heq⟩
    · have hsome : s.accepts d (some (d, q)) = some q := by
        simp [State.accepts, Option.filter, hroom]
      rw [hnew, hold, hsome]
      rfl
    · have hnone : s.accepts p (some (d, q)) = none := by
        by_cases hdp : d = p
        · simp [State.accepts, Option.filter, State.hasRoom, hother hdp]
        · simp [State.accepts, Option.filter, hdp]
      rw [heq, hnone]
      exact (Wire.push_none _).symm

theorem enqueueSignal (s : State) (d : Option Nat) (msg : SignalMessage) :
    Posts s (s.enqueueSignal d msg) (d.map (·, { msg := msg })) := by
  cases d with
  | none => exact of_peers rfl
  | some d => exact offered s d { msg := msg }

theorem replace (s : State) (prev : Option Nat) : Posts s (s.replace prev) none := by
  cases prev with
  | none => exact of_peers rfl
  | some prev => exact mark (fun _ => rfl) (fun _ => rfl) fun _ => rfl

end Posts

/-- **What one operation of a handler does to the peers**; `peer` is its own. -/
inductive HandlerMove (s : State) (h : Nat) (hd : Handler) (peer : Peer) :
    HandlerStep → State → Prop
  | getOrCreate {t : State} (hpeers : t.peers = s.peers) : HandlerMove s h hd peer .getOrCreate t
  /-- It never goes back behind the start of its write pump, and whom it replaces had a seat. -/
  | goOn {a : HandlerStep} {u : State} {stage : Stage}
      (hposts : Posts s u (s.offered h hd peer a))
      (hstage : stage.started = false → peer.stage.started = false)
      (hprev : ∀ prev ∈ stage.replacing, ∃ sid role, (s.base.session sid).peer role = some prev) :
    HandlerMove s h hd peer a (u.setStage h stage)
  /-- It is refused, and its websocket closed. -/
  | refuse {base : Signaling.State} (hphase : hd.phase.isEarly = true) :
    HandlerMove s h hd peer .install
      ((s.setBase base).update h fun peer => { peer with stage := .returned, closed := true })
  | readFail :
    HandlerMove s h hd peer .readFail
      (s.update h fun peer => { peer with stage := .ended, done := true, closed := true })
  | start (hstage : peer.stage = .starting) :
    HandlerMove s h hd peer .start
      (s.update h fun peer => { peer with stage := .reading, writer := .selecting })

/-- After an install only the peer that sat there before is replaced. -/
theorem eq_some_of_replacing {role : Role} {prev counterpart : Option Nat}
    (hprev : (afterInstall role prev counterpart).replacing = some p) : prev = some p := by
  cases prev <;> cases role
  case some.client => exact hprev
  all_goals cases hprev

theorem handlerMove_install (s : State) (sid : Nat) (hstage : peer.stage = .entering)
    (hphase : hd.phase = .located sid) :
    HandlerMove s h hd peer .install (s.install env h hd sid) := by
  unfold State.install
  simp only
  split_ifs
  · exact .refuse (by rw [hphase]; rfl)
  · have hposts := Posts.replace (s.setBase (s.base.install env.fold env.window h hd sid))
      ((s.base.session sid).peer hd.role)
    exact .goOn (hposts.congr rfl rfl) (fun _ => by rw [hstage]; rfl)
      fun prev hprev => ⟨sid, hd.role, eq_some_of_replacing hprev⟩

theorem handlerMove_relay (s : State) {sid : Nat} {msg : SignalMessage} {stale : Bool}
    (hstage : peer.stage = .relaying msg stale) (hphase : hd.phase = .installed sid) :
    HandlerMove s h hd peer .relay (s.relay h hd sid msg stale) := by
  have hoffered : s.offered h hd peer .relay =
      ((s.base.session sid).peer hd.role.other).map (·, ⟨msg, some h, stale⟩) := by
    simp only [State.offered, hstage, hphase]
  unfold State.relay
  split
  · rename_i hnone
    refine .goOn ?_ nofun nofun
    rw [hoffered, hnone]
    exact .of_peers rfl
  · rename_i d hseat
    have hposts := Posts.offered s d ⟨msg, some h, stale⟩
    have hoffer : s.offered h hd peer .relay = some (d, ⟨msg, some h, stale⟩) := by
      rw [hoffered, hseat]
      rfl
    rw [← hoffer] at hposts
    split
    · rename_i hfull
      rw [hfull] at hposts
      exact .goOn hposts nofun nofun
    · rename_i hoffered
      rw [hoffered] at hposts
      exact .goOn (hposts.congr rfl rfl) nofun nofun

/-- A handler's step is one of the handler moves. -/
theorem handlerMove_of_step {a : HandlerStep} (hstep : s.handlerStep env h hd peer a = some t) :
    HandlerMove s h hd peer a t := by
  cases a with
  | getOrCreate =>
    simp only [State.handlerStep] at hstep
    split_ifs at hstep
    cases hstep
    exact .getOrCreate rfl
  | install =>
    simp only [State.handlerStep] at hstep
    split at hstep
    · rename_i sid hstage hphase
      cases hstep
      exact handlerMove_install s sid hstage hphase
    · cases hstep
  | preempt | ready =>
    simp only [State.handlerStep] at hstep
    split at hstep
    · rename_i hstage
      cases hstep
      refine .goOn ?_ (fun _ => by rw [hstage]; rfl) fun _ hprev => by cases hprev
      simp only [State.offered, hstage]
      exact .enqueueSignal s _ _
    · cases hstep
  | bye =>
    simp only [State.handlerStep] at hstep
    split at hstep
    · rename_i hstage
      cases hstep
      refine .goOn ?_ (fun hnew => ?_) fun prev hprev => ?_
      · simp only [State.offered, hstage]
        exact .enqueueSignal s _ _
      · split_ifs at hnew <;> cases hnew
      · split_ifs at hprev <;> cases hprev
    · cases hstep
  | closePrev =>
    simp only [State.handlerStep] at hstep
    split at hstep
    · rename_i hstage
      cases hstep
      refine .goOn ?_ (fun _ => by rw [hstage]; rfl) fun prev hprev => ?_
      · exact .mark (fun _ => rfl) (fun _ => rfl) fun _ => rfl
      · cases hrole : hd.role <;> rw [hrole] at hprev <;> cases hprev
    · cases hstep
  | activate =>
    simp only [State.handlerStep] at hstep
    split at hstep
    · rename_i hstage
      cases hstep
      exact .goOn (.of_peers rfl) (fun _ => by rw [hstage]; rfl) fun _ hprev => by cases hprev
    · cases hstep
  | trigger =>
    simp only [State.handlerStep] at hstep
    split at hstep
    · rename_i hstage hphase
      cases hstep
      exact .goOn (.of_peers rfl) (fun _ => by rw [hstage]; rfl) fun _ hprev => by cases hprev
    · cases hstep
  | teardown | disconnect | leave =>
    simp only [State.handlerStep] at hstep
    split at hstep
    · cases hstep
      exact .goOn (.of_peers rfl) (fun hstarted => by cases hstarted) fun _ hprev => by cases hprev
    · cases hstep
  | start =>
    simp only [State.handlerStep] at hstep
    split_ifs at hstep with hstage
    cases hstep
    exact .start hstage
  | read msg =>
    simp only [State.handlerStep] at hstep
    split_ifs at hstep
    cases hstep
    exact .goOn (.of_peers rfl) (fun hstarted => by cases hstarted) fun _ hprev => by cases hprev
  | relay =>
    simp only [State.handlerStep] at hstep
    split at hstep
    · rename_i hstage hphase
      cases hstep
      exact handlerMove_relay s hstage hphase
    · cases hstep
  | readFail =>
    simp only [State.handlerStep] at hstep
    split_ifs at hstep
    cases hstep
    exact .readFail

/-! ### What a write pump does -/

/-- A write pump moves once it has been started, and moves its own wire only. -/
theorem exists_update_of_writerStep {a : WriterStep} (hstep : s.writerStep h peer a = some t) :
    ∃ f, t = s.update h f ∧ (∀ peer, (f peer).stage = peer.stage) ∧ peer.writer ≠ .notStarted ∧
      (a ≠ .writeFail → a ≠ .pingFail → ∃ closes, peer.wire.Turn none closes (f peer).wire ∧
        (closes = true ↔ a = .finish)) := by
  cases a with
  | take =>
    simp only [State.writerStep] at hstep
    split at hstep
    · rename_i q send hwriter hsend
      refine ⟨_, (Option.some.inj hstep).symm, fun _ => rfl, by simp [hwriter], fun _ _ => ?_⟩
      exact ⟨false, .take hsend (by simp [Peer.wire, hwriter, WriterPhase.inHand]), by simp⟩
    · cases hstep
  | write =>
    simp only [State.writerStep] at hstep
    split at hstep
    · rename_i q hwriter
      split_ifs at hstep with hopen
      refine ⟨_, (Option.some.inj hstep).symm, fun _ => rfl, by simp [hwriter], fun _ _ => ?_⟩
      exact ⟨false, .write hopen (by simp [Peer.wire, hwriter, WriterPhase.inHand]), by simp⟩
    · cases hstep
  | writeFail =>
    simp only [State.writerStep] at hstep
    split at hstep
    · rename_i hwriter
      exact ⟨_, (Option.some.inj hstep).symm, fun _ => rfl, by simp [hwriter],
        fun hok => absurd rfl hok⟩
    · cases hstep
  | pingFail =>
    simp only [State.writerStep] at hstep
    split_ifs at hstep with hwriter
    exact ⟨_, (Option.some.inj hstep).symm, fun _ => rfl, by simp [hwriter],
      fun _ hok => absurd rfl hok⟩
  | finish =>
    simp only [State.writerStep] at hstep
    split_ifs at hstep with hready
    refine ⟨_, (Option.some.inj hstep).symm, fun _ => rfl, by simp [hready.1], fun _ _ => ?_⟩
    -- nothing is in hand
    have hwire : ({ peer with writer := .returned, closed := true } : Peer).wire
        = { peer.wire with closed := true } := by
      simp only [Peer.wire, hready.1, WriterPhase.inHand]
    exact ⟨true, hwire ▸ .close, by simp⟩

/-! ### The write pump starts late -/

namespace Unstarted

theorem update (hs : Unstarted s) {f : Peer → Peer} (hf : ∀ peer, s.peers[h]? = some peer →
    (f peer).stage.started = false → (f peer).writer = .notStarted) : Unstarted (s.update h f) := by
  intro p peer' hp
  obtain ⟨peer, hold, rfl⟩ := peers_update hp
  split_ifs with hph
  · subst hph
    exact hf peer hold
  · exact hs p peer hold

theorem of_peers (hs : Unstarted s) (hpeers : t.peers = s.peers) : Unstarted t := by
  unfold Unstarted
  rw [hpeers]
  exact hs

theorem handlerMove {a : HandlerStep} (hs : Unstarted s) (hp : s.peers[h]? = some peer)
    (hmove : HandlerMove s h hd peer a t) : Unstarted t := by
  cases hmove with
  | getOrCreate hpeers => exact hs.of_peers hpeers
  | goOn hposts hstage =>
    intro p peer' hp' hnew
    obtain ⟨mid, hmid, rfl⟩ := peers_update hp'
    obtain ⟨old, hold, hstage', hwriter⟩ := hposts.aside p mid hmid
    split_ifs at hnew ⊢ with hph
    · subst hph
      obtain rfl : peer = old := Option.some.inj (hp.symm.trans hold)
      exact hwriter.trans (hs h peer hp (hstage hnew))
    · rw [hstage'] at hnew
      exact hwriter.trans (hs p old hold hnew)
  | refuse => exact (hs.of_peers rfl).update fun _ _ => nofun
  | readFail | start => exact hs.update fun _ _ => nofun

/-- A step keeps the unstarted writers so. -/
theorem step (hs : Unstarted s) {a : Step} (hstep : s.step env a = some t) : Unstarted t := by
  cases a with
  | connect robotID role pc =>
    obtain ⟨base, hbase, rfl⟩ := Option.map_eq_some_iff.mp hstep
    intro p peer hp
    rcases Tasks.of_append hp with ⟨-, rfl⟩ | ⟨-, hold⟩
    · exact fun _ => rfl
    · exact hs p peer hold
  | handler h a =>
    obtain ⟨hd, -, hstep⟩ := Option.bind_eq_some_iff.mp hstep
    obtain ⟨peer, hp, hstep⟩ := Option.bind_eq_some_iff.mp hstep
    exact hs.handlerMove hp (handlerMove_of_step hstep)
  | writer h a =>
    obtain ⟨peer, hp, hstep⟩ := Option.bind_eq_some_iff.mp hstep
    obtain ⟨f, rfl, hstage, hwriter, -⟩ := exists_update_of_writerStep hstep
    refine hs.update fun old hold hnew => ?_
    obtain rfl : peer = old := Option.some.inj (hp.symm.trans hold)
    rw [hstage peer] at hnew
    exact absurd (hs h peer hp hnew) hwriter

end Unstarted

/-! ### Wires -/

theorem accepted_handler (hh : s.base.handlers[h]? = some hd) (hp : s.peers[h]? = some peer)
    (a : HandlerStep) : accepted p s (.handler h a) = s.accepts p (s.offered h hd peer a) := by
  rw [accepted, hh, Option.bind_some, hp, Option.bind_some]

/-- A handler's move is a turn of every wire. -/
theorem turns_of_handlerMove {a : HandlerStep} (hs : Unstarted s)
    (hh : s.base.handlers[h]? = some hd) (hp : s.peers[h]? = some peer)
    (hmove : HandlerMove s h hd peer a t) : Turns p s (.handler h a) t := by
  have haccepted := accepted_handler (p := p) hh hp a
  cases hmove with
  | getOrCreate hpeers => exact .of_eq haccepted (wire_congr hpeers p)
  | goOn hposts =>
    refine ⟨false, ?_, nofun⟩
    rw [haccepted, wire_setStage, hposts.wire p]
    exact .push _
  | @refuse base hphase =>
    rcases wire_update_cases (s.setBase base) h p _ with ⟨old, rfl, -, hold, hnew⟩ | ⟨-, heq⟩
    · refine .close haccepted ?_ (Or.inr (Signaling.State.not_late hh hphase))
      rw [hnew, ← wire_congr (s := s) (t := s.setBase base) rfl, hold]
      rfl
    · exact .of_eq haccepted heq
  | readFail =>
    rcases wire_update_cases s h p _ with ⟨old, rfl, -, hold, hnew⟩ | ⟨-, heq⟩
    · refine .close haccepted ?_ (Or.inl (Or.inr rfl))
      rw [hnew, hold]
      rfl
    · exact .of_eq haccepted heq
  | start hstage =>
    refine .of_eq haccepted ?_
    rcases wire_update_cases s h p _ with ⟨old, rfl, hold, hwire, hnew⟩ | ⟨-, heq⟩
    · obtain rfl : peer = old := Option.some.inj (hp.symm.trans hold)
      -- there is nothing in hand to lose
      have hwriter : peer.writer = .notStarted := hs h peer hp (by rw [hstage]; rfl)
      rw [hnew, hwire]
      simp only [Peer.wire, hwriter, WriterPhase.inHand]
    · exact heq

/-- **What a step does to a peer** whose writes succeed. -/
theorem turns_of_step {a : Step} (hs : Unstarted s) (hok : WritesSucceed p a)
    (hstep : s.step env a = some t) : Turns p s a t := by
  cases a with
  | connect robotID role pc =>
    obtain ⟨base, hbase, rfl⟩ := Option.map_eq_some_iff.mp hstep
    refine .of_eq rfl ?_
    rw [State.wire, State.wire, List.getElem?_append]
    split_ifs with hlt
    · rfl
    · -- the newcomer, or nobody
      rw [List.getElem?_eq_none (Nat.le_of_not_lt hlt)]
      cases p - s.peers.length <;> rfl
  | handler h a =>
    obtain ⟨hd, hh, hstep⟩ := Option.bind_eq_some_iff.mp hstep
    obtain ⟨peer, hp, hstep⟩ := Option.bind_eq_some_iff.mp hstep
    exact turns_of_handlerMove hs hh hp (handlerMove_of_step hstep)
  | writer h a =>
    obtain ⟨peer, hp, hstep⟩ := Option.bind_eq_some_iff.mp hstep
    obtain ⟨f, rfl, -, -, hturn⟩ := exists_update_of_writerStep hstep
    rcases wire_update_cases s h p f with ⟨old, rfl, hold, hwire, hnew⟩ | ⟨-, heq⟩
    · obtain rfl : peer = old := Option.some.inj (hp.symm.trans hold)
      obtain ⟨closes, hturn, hcloses⟩ :=
        hturn (fun hfail => hok.1 (by rw [hfail])) fun hfail => hok.2 (by rw [hfail])
      refine ⟨closes, ?_, fun h => Or.inl (Or.inl (by rw [hcloses.mp h]))⟩
      rw [hnew, hwire]
      exact hturn
    · exact .of_eq rfl heq

/-- **Nothing is lost or reordered in a step.** -/
theorem line_step {a : Step} (hs : Unstarted s) (hok : WritesSucceed p a)
    (hstep : s.step env a = some t) :
    (t.wire p).line = (s.wire p).line ++ (accepted p s a).toList := by
  obtain ⟨closes, hturn, -⟩ := turns_of_step hs hok hstep
  exact hturn.line

/-- The end of its pumps closes the websocket of a peer. -/
theorem closed_of_ends {a : Step} (hends : Ends p a) (hstep : s.step env a = some t) :
    (t.wire p).closed = true := by
  rcases hends with rfl | rfl
  · obtain ⟨peer, hp, hstep⟩ := Option.bind_eq_some_iff.mp hstep
    simp only [State.writerStep] at hstep
    split_ifs at hstep
    cases hstep
    rcases wire_update_cases s p p _ with ⟨old, -, -, -, hnew⟩ | ⟨hnone, -⟩
    · rw [hnew]
      rfl
    · rw [hnone rfl] at hp
      cases hp
  · obtain ⟨hd, -, hstep⟩ := Option.bind_eq_some_iff.mp hstep
    obtain ⟨peer, hp, hstep⟩ := Option.bind_eq_some_iff.mp hstep
    simp only [State.handlerStep] at hstep
    split_ifs at hstep
    cases hstep
    rcases wire_update_cases s p p _ with ⟨old, -, -, -, hnew⟩ | ⟨hnone, -⟩
    · rw [hnew]
      rfl
    · rw [hnone rfl] at hp
      cases hp

/-! ### Who is told of a replacement -/

theorem eq_some_of_accepts {offer : Option (Nat × Queued)} {q : Queued}
    (hq : s.accepts p offer = some q) : offer = some (p, q) ∧ s.hasRoom p = true := by
  obtain ⟨r, hr, rfl⟩ := Option.map_eq_some_iff.mp hq
  obtain ⟨hoffer, hcond⟩ := Option.filter_eq_some_iff.mp hr
  obtain ⟨rfl, hroom⟩ := of_decide_eq_true hcond
  exact ⟨hoffer, hroom⟩

/-- **A `session-preempted` comes into a channel** when the peer is told of its replacement, and
there is room. -/
theorem exists_preempts_iff {a : Step} (hstep : s.step env a = some t) :
    (∃ q ∈ accepted p s a, q.Preempts) ↔ s.notifies a = some p ∧ s.hasRoom p = true := by
  cases a with
  | connect | writer => simp [accepted, State.notifies]
  | handler h a =>
    obtain ⟨hd, hh, hstep⟩ := Option.bind_eq_some_iff.mp hstep
    obtain ⟨peer, hp, hstep⟩ := Option.bind_eq_some_iff.mp hstep
    rw [accepted_handler hh hp]
    constructor
    · rintro ⟨q, hq, hpreempts⟩
      obtain ⟨hoffer, hroom⟩ := eq_some_of_accepts hq
      refine ⟨?_, hroom⟩
      cases a with
      | preempt =>
        obtain ⟨prev, hprev, heq⟩ := Option.map_eq_some_iff.mp hoffer
        cases heq
        rw [State.notifies, hp, Option.bind_some, hprev]
      | ready | bye | relay =>
        -- another type of message, or one that was read from a websocket
        simp only [State.offered] at hoffer
        split at hoffer
        · obtain ⟨d, -, heq⟩ := Option.map_eq_some_iff.mp hoffer
          cases heq
          first | cases hpreempts.1 | cases hpreempts.2
        · cases hoffer
      | _ => cases hoffer
    · rintro ⟨hnotifies, hroom⟩
      cases a with
      | preempt =>
        rw [State.notifies, hp, Option.bind_some] at hnotifies
        refine ⟨{ msg := message hd .sessionPreempted }, ?_, rfl, rfl⟩
        simp [State.offered, State.accepts, hnotifies, hroom, Option.filter]
      | _ => cases hnotifies

/-- **What holds of a peer in every run**: it is told of its replacement only after its install. -/
structure Watched (p : Nat) (s : State) : Prop where
  unstarted : Unstarted s
  seated : s.base.Seated
  replacing : ∀ (h : Nat) peer, s.peers[h]? = some peer → peer.stage.replacing = some p →
    s.base.Late p
  holds : (s.wire p).Holds → s.base.Late p

/-- A stage in which another peer is replaced comes from an install. -/
theorem replacing_of_step {a : Step} {peer' : Peer} (hstep : s.step env a = some t)
    (hp' : t.peers[h]? = some peer') (hreplacing : peer'.stage.replacing = some p) :
    (∃ peer, s.peers[h]? = some peer ∧ peer.stage.replacing = some p) ∨
      ∃ sid role, (s.base.session sid).peer role = some p := by
  cases a with
  | connect robotID role pc =>
    obtain ⟨base, hbase, rfl⟩ := Option.map_eq_some_iff.mp hstep
    rcases Tasks.of_append hp' with ⟨-, rfl⟩ | ⟨-, hold⟩
    · cases hreplacing
    · exact Or.inl ⟨peer', hold, hreplacing⟩
  | handler g a =>
    obtain ⟨hd, -, hstep⟩ := Option.bind_eq_some_iff.mp hstep
    obtain ⟨peer, hp, hstep⟩ := Option.bind_eq_some_iff.mp hstep
    cases handlerMove_of_step hstep with
    | getOrCreate hpeers => exact Or.inl ⟨peer', hpeers ▸ hp', hreplacing⟩
    | goOn hposts hstage hprev =>
      obtain ⟨mid, hmid, rfl⟩ := peers_update hp'
      obtain ⟨old, hold, hstage', -⟩ := hposts.aside h mid hmid
      split_ifs at hreplacing
      · exact Or.inr (hprev p hreplacing)
      · exact Or.inl ⟨old, hold, hstage' ▸ hreplacing⟩
    | refuse | readFail | start =>
      obtain ⟨old, hold, rfl⟩ := peers_update hp'
      split_ifs at hreplacing
      · cases hreplacing
      · exact Or.inl ⟨old, hold, hreplacing⟩
  | writer g a =>
    obtain ⟨peer, hp, hstep⟩ := Option.bind_eq_some_iff.mp hstep
    obtain ⟨f, rfl, hstage, -⟩ := exists_update_of_writerStep hstep
    obtain ⟨old, hold, rfl⟩ := peers_update hp'
    refine Or.inl ⟨old, hold, ?_⟩
    split_ifs at hreplacing
    · rwa [hstage old] at hreplacing
    · exact hreplacing

namespace Watched

theorem init (env : Env) (p : Nat) : Watched p (machine env).init where
  unstarted q peer hq := by simp [machine] at hq
  seated sid role q hseat := by cases role <;> cases hseat
  replacing h peer hp := by simp [machine] at hp
  holds := nofun

/-- **Every step keeps it**, as long as the writes to the peer succeed. -/
theorem step {a : Step} (hs : Watched p s) (hok : WritesSucceed p a)
    (hstep : s.step env a = some t) : Watched p t := by
  obtain ⟨hseated, hlate⟩ : t.base.Seated ∧ (s.base.Late p → t.base.Late p) := by
    rcases base_step hstep with hbase | ⟨b, hb⟩
    · rw [hbase]
      exact ⟨hs.seated, id⟩
    · exact ⟨hs.seated.step env hb, fun hlate => hlate.step env hb⟩
  refine ⟨hs.unstarted.step hstep, hseated, fun h peer hp hreplacing => hlate ?_,
    fun hholds => hlate ?_⟩
  · rcases replacing_of_step hstep hp hreplacing with ⟨old, hold, hwas⟩ | ⟨sid, role, hseat⟩
    · exact hs.replacing h old hold hwas
    · obtain ⟨hd, hh, -, hphase⟩ := hs.seated sid role p hseat
      exact ⟨hd, hh, by rw [hphase]; rfl⟩
  · obtain ⟨closes, hturn, -⟩ := turns_of_step hs.unstarted hok hstep
    rcases hturn.holds hholds with hwas | hnew
    · exact hs.holds hwas
    · obtain ⟨hnotifies, -⟩ := (exists_preempts_iff hstep).mp hnew
      cases a with
      | handler h a =>
        cases a with
        | preempt =>
          obtain ⟨peer, hp, hreplacing⟩ := Option.bind_eq_some_iff.mp hnotifies
          exact hs.replacing h peer hp hreplacing
        | _ => cases hnotifies
      | _ => cases hnotifies

/-- **A step misses a message** exactly when it goes against the condition. -/
theorem missed_iff {a : Step} (hs : Watched p s) (hok : WritesSucceed p a)
    (hstep : s.step env a = some t) (hmissed : ¬ (s.wire p).Missed) :
    (t.wire p).Missed ↔ ¬ ToldFirst p s a := by
  obtain ⟨closes, hturn, hcause⟩ := turns_of_step hs.unstarted hok hstep
  rw [hturn.missed_iff hmissed, exists_preempts_iff hstep]
  constructor
  · rintro (⟨hcloses, hholds⟩ | ⟨hclosed, hnotifies, hroom⟩) htold
    · -- a peer that is refused at its install has not been told anything
      rcases hcause hcloses with hends | hearly
      · exact htold.1 hends hholds
      · exact hearly (hs.holds hholds)
    · rw [htold.2 hnotifies hroom] at hclosed
      cases hclosed
  · intro hnot
    rcases not_and_or.mp hnot with hnot | hnot
    · obtain ⟨hends, hholds⟩ := Classical.not_imp.mp hnot
      have hholds := not_not.mp hholds
      have hclosed := closed_of_ends hends hstep
      rw [hturn.closed, Bool.or_eq_true] at hclosed
      exact Or.inl ⟨hclosed.resolve_left fun hwas => hmissed ⟨hwas, hholds⟩, hholds⟩
    · obtain ⟨hnotifies, hnot⟩ := Classical.not_imp.mp hnot
      obtain ⟨hroom, hclosed⟩ := Classical.not_imp.mp hnot
      exact Or.inr ⟨Bool.not_eq_false _ ▸ hclosed, hnotifies, hroom⟩

/-- A missed notice stays missed while the writes succeed. -/
theorem missed_step {a : Step} (hs : Watched p s) (hok : WritesSucceed p a)
    (hstep : s.step env a = some t) (hmissed : (s.wire p).Missed) : (t.wire p).Missed := by
  obtain ⟨closes, hturn, -⟩ := turns_of_step hs.unstarted hok hstep
  exact hturn.missed hmissed

end Watched

end Steps

/-! ## Whole runs -/

section Runs

variable {env : Env} {p : Nat} {steps : List Step} {s : State}

/-- **What was accepted is what was written, then what still waits.** -/
theorem trace_eq_line (hrun : (machine env).run (machine env).init steps = some s)
    (hok : ∀ a ∈ steps, WritesSucceed p a) :
    (machine env).trace (accepted p) (machine env).init steps = (s.wire p).line := by
  refine ((machine env).along_trace (P := fun _ a => WritesSucceed p a)
    (I := fun es s => Unstarted s ∧ es = (s.wire p).line) ⟨(Watched.init env p).unstarted, rfl⟩ ?_
    ((machine env).along_of_forall hok _) hrun).2
  rintro es s a t ⟨hs, rfl⟩ hok hstep
  exact ⟨hs.step hstep, (line_step hs hok hstep).symm⟩

/-- **No message is missed in exactly the runs that keep to the condition.** -/
theorem not_missed_iff (hrun : (machine env).run (machine env).init steps = some s)
    (hok : ∀ a ∈ steps, WritesSucceed p a) :
    ¬ (s.wire p).Missed ↔ (machine env).Along (ToldFirst p) (machine env).init steps := by
  have hinit : Watched p (machine env).init ∧ ¬ ((machine env).init.wire p).Missed :=
    ⟨.init env p, nofun⟩
  constructor
  · intro hmissed
    refine (machine env).along_of_unmarked (Q := WritesSucceed p)
      (I := fun s => Watched p s ∧ ¬ (s.wire p).Missed)
      (L := fun s => Watched p s ∧ (s.wire p).Missed) ?_ ?_ ?_ hinit hok hrun
      fun hend => hmissed hend.2
    · rintro s a t ⟨hs, hnot⟩ hok hstep htold
      exact ⟨hs.step hok hstep, fun h => (hs.missed_iff hok hstep hnot).mp h htold⟩
    · rintro s a t ⟨hs, hnot⟩ hok hstep htold
      exact ⟨hs.step hok hstep, (hs.missed_iff hok hstep hnot).mpr htold⟩
    · rintro s a t ⟨hs, h⟩ hok hstep
      exact ⟨hs.step hok hstep, hs.missed_step hok hstep h⟩
  · intro halong
    refine ((machine env).along_invariant (I := fun s => Watched p s ∧ ¬ (s.wire p).Missed) ?_
      hinit ((machine env).along_and halong ((machine env).along_of_forall hok _)) hrun).2
    rintro s a t ⟨hs, hnot⟩ ⟨htold, hok⟩ hstep
    exact ⟨hs.step hok hstep, fun h => (hs.missed_iff hok hstep hnot).mp h htold⟩

end Runs

/-- **A preempted client is told exactly when its websocket is closed late enough**, in every
interleaving: its pumps end only while no `session-preempted` waits for it, and one is put into its
channel only while its websocket is open. -/
theorem preempted_told_iff (env : Env) (p : Nat) (steps : List Step) (s : State)
    (hrun : (machine env).run (machine env).init steps = some s)
    (hok : ∀ a ∈ steps, WritesSucceed p a) :
    (s.wire p).Told ((machine env).trace (accepted p) (machine env).init steps) ↔
      (machine env).Along (ToldFirst p) (machine env).init steps := by
  rw [trace_eq_line hrun hok, Wire.told_iff_not_missed]
  exact not_missed_iff hrun hok

/-- A client with a message in its channel is replaced. -/
def preemptingSteps : List Step :=
  agentSteps 0 1 ++ clientSteps 1 2 'c' ++ pumpSteps 1 ++
    onHandler 0 [.read (sampleMessage "offer"), .relay] ++
    clientSteps 2 9 'd' ++ onHandler 2 [.preempt, .closePrev]

/-- The write pump empties the channel before it sees that `done` is closed. -/
def toldSteps : List Step :=
  preemptingSteps ++ [.writer 1 .take, .writer 1 .write, .writer 1 .take, .writer 1 .write,
    .writer 1 .finish]

theorem preempted_told_toldSteps :
    ∃ s, (machine sampleEnv).run (machine sampleEnv).init toldSteps = some s ∧
      (s.wire 1).closed = true ∧ (s.wire 1).written.map (·.msg.type)
        = [.other "offer".toList, .sessionPreempted] ∧
      (s.wire 1).Told
        ((machine sampleEnv).trace (accepted 1) (machine sampleEnv).init toldSteps) := by
  obtain ⟨s, hrun, hclosed, hwritten⟩ := (machine sampleEnv).exists_run toldSteps
    (fun s => (s.wire 1).closed = true ∧ (s.wire 1).written.map (·.msg.type)
      = [.other "offer".toList, .sessionPreempted]) (by decide)
  exact ⟨s, hrun, hclosed, hwritten,
    (preempted_told_iff sampleEnv 1 _ s hrun (by decide)).mpr (by decide)⟩

/-! ### Not told -/

/-- `select` takes the branch of `done` first. -/
def untoldSteps : List Step := preemptingSteps ++ [.writer 1 .finish]

/-- The websocket is closed with both messages in the channel. -/
theorem preempted_untold :
    ∃ s, (machine sampleEnv).run (machine sampleEnv).init untoldSteps = some s ∧
      (∀ a ∈ untoldSteps, WritesSucceed 1 a) ∧
      ((machine sampleEnv).trace (accepted 1) (machine sampleEnv).init
        untoldSteps).map (·.msg.type) = [.other "offer".toList, .sessionPreempted] ∧
      (s.wire 1).closed = true ∧ (s.wire 1).written = [] ∧
      ¬ (s.wire 1).Told ((machine sampleEnv).trace (accepted 1)
        (machine sampleEnv).init untoldSteps) := by
  have hok : ∀ a ∈ untoldSteps, WritesSucceed 1 a := by decide
  obtain ⟨s, hrun, hclosed, hwritten, hmissed⟩ := (machine sampleEnv).exists_run untoldSteps
    (fun s => (s.wire 1).closed = true ∧ (s.wire 1).written = [] ∧
      ∃ q ∈ (s.wire 1).waiting, q.Preempts) (by decide)
  refine ⟨s, hrun, hok, by decide, hclosed, hwritten, ?_⟩
  rw [trace_eq_line hrun hok, Wire.told_iff_not_missed, not_not]
  exact ⟨hclosed, hmissed⟩

end Roboat.Signaling.Peers
