import Mathlib.Logic.Function.Basic
import Mathlib.Tactic.SplitIfs
import Roboat.Text.Strings
import Roboat.Transition.Machine
import Roboat.Transition.Tasks

/-! # Signaling sessions and their registry

`SignalingHandler` serves one WebSocket: it looks its robot's session up (or creates it), installs
its peer under the session lock, runs its pumps, clears its peer and computes `removeSession` under
the session lock, and then removes the session from the registry. These are four separately locked
steps, so handlers for the same robot can pass each other between any two of them.

Session objects live on a heap (`session`, addressed by number); the registry maps a robot id to an
address. A peer is identified by the number of its handler, as the Go code identifies it by its
pointer. -/

namespace Roboat.Signaling

/-- The role of a peer. -/
inductive Role where
  | agent
  | client
  deriving DecidableEq, Repr

/-- The fields of `PeerConn` that decide about replacement. Times are nanoseconds since the zero
time; `IsZero` is `= 0`. -/
structure PeerConn where
  connectedAt : Int
  observedSrcIP : Str
  bootstrapID : Str
  deriving DecidableEq, Repr

/-- `Session`: the two installed peers, by handler number. -/
structure Session where
  agent : Option Nat
  client : Option Nat
  deriving DecidableEq, Repr

namespace Session

/-- The peer installed in a role. -/
def peer (s : Session) : Role → Option Nat
  | .agent => s.agent
  | .client => s.client

/-- Replace the peer of a role. -/
def setPeer (s : Session) (p : Option Nat) : Role → Session
  | .agent => { s with agent := p }
  | .client => { s with client := p }

/-- `session.agent == nil && session.client == nil`. -/
def isEmpty (s : Session) : Bool := s.agent.isNone && s.client.isNone

@[simp] theorem peer_setPeer_self (s : Session) (p : Option Nat) (r : Role) :
    (s.setPeer p r).peer r = p := by
  cases r <;> rfl

@[simp] theorem peer_setPeer_of_ne (s : Session) (p : Option Nat) {r r' : Role} (h : r' ≠ r) :
    (s.setPeer p r).peer r' = s.peer r' := by
  cases r <;> cases r' <;> first | rfl | exact absurd rfl h

/-- An empty session has no peer in any role. -/
theorem peer_of_isEmpty {s : Session} (h : s.isEmpty = true) (r : Role) : s.peer r = none := by
  simp only [isEmpty, Bool.and_eq_true, Option.isNone_iff_eq_none] at h
  cases r with
  | agent => exact h.1
  | client => exact h.2

end Session

/-- How far a handler has come. -/
inductive Phase where
  /-- The WebSocket is upgraded and the peer built. -/
  | upgraded
  /-- `Registry.GetOrCreate` returned the session. -/
  | located (session : Nat)
  /-- The peer was installed; the pumps run. -/
  | installed (session : Nat)
  /-- The peer was refused as a duplicate reconnect. -/
  | debounced
  /-- The peer was cleared and `removeSession` computed. -/
  | cleared (session : Nat) (removeSession : Bool)
  /-- The handler returned. -/
  | returned
  deriving DecidableEq, Repr

namespace Phase

/-- Between the lookup and the install. -/
def isLocated : Phase → Bool
  | located _ => true
  | _ => false

/-- About to remove the session from the registry. -/
def removes : Phase → Bool
  | cleared _ removeSession => removeSession
  | _ => false

end Phase

/-- One `SignalingHandler` call. -/
structure Handler where
  robotID : Str
  role : Role
  peer : PeerConn
  phase : Phase
  deriving DecidableEq, Repr

/-- The registry, the session objects and the handlers. -/
structure State where
  /-- `SessionRegistry.sessions`. -/
  sessions : Str → Option Nat
  session : Nat → Session
  nextSession : Nat
  /-- The calls, in the order of their upgrades. -/
  handlers : List Handler

/-- The atomic steps of the handlers. -/
inductive Step where
  /-- An authorised WebSocket for `robot_id` is upgraded. -/
  | connect (robotID : Str) (role : Role) (peer : PeerConn)
  /-- `Registry.GetOrCreate`. -/
  | getOrCreate (h : Nat)
  /-- Install the peer, or refuse it, under the session lock. -/
  | install (h : Nat)
  /-- The pumps ended: clear the peer and compute `removeSession` under the session lock. -/
  | disconnect (h : Nat)
  /-- `Registry.Remove` if `removeSession`, and return. -/
  | leave (h : Nat)
  deriving DecidableEq, Repr

/-- What the handler takes from outside the repository and from its configuration. -/
structure Env where
  /-- `uuid.Parse` accepts the robot id. -/
  validID : Str → Bool
  /-- The case folding of `strings.EqualFold`. -/
  fold : Char → Char
  /-- `webrtcPreemptDebounceWindow()`. -/
  window : Int

section Debounce

variable (fold : Char → Char)

/-- `shouldDebouncePeerReplacement`. -/
def shouldDebouncePeerReplacement (existing : Option PeerConn) (incoming : PeerConn)
    (window : Int) : Bool :=
  match existing with
  | none => false
  | some existing =>
    if window ≤ 0 then false
    else if existing.connectedAt = 0 ∨ incoming.connectedAt = 0 then false
    else if incoming.connectedAt - existing.connectedAt > window then false
    else
      let existingIP := trimSpace existing.observedSrcIP
      let incomingIP := trimSpace incoming.observedSrcIP
      if existingIP ≠ [] ∧ incomingIP ≠ [] ∧ equalFold fold existingIP incomingIP then true
      else
        let existingBootstrap := trimSpace existing.bootstrapID
        let incomingBootstrap := trimSpace incoming.bootstrapID
        existingBootstrap ≠ [] ∧ incomingBootstrap ≠ [] ∧
          equalFold fold existingBootstrap incomingBootstrap

end Debounce

namespace State

/-- Move a handler to another phase. -/
def setPhase (s : State) (h : Nat) (hd : Handler) (phase : Phase) : State :=
  { s with handlers := s.handlers.set h { hd with phase := phase } }

/-- The peer data behind a handler number. -/
def peerConn (s : State) (h : Nat) : Option PeerConn := s.handlers[h]?.map Handler.peer

/-- `Registry.GetOrCreate`. -/
def getOrCreate (s : State) (h : Nat) (hd : Handler) : State :=
  match s.sessions hd.robotID with
  | some sid => s.setPhase h hd (.located sid)
  | none =>
    { s with
      sessions := Function.update s.sessions hd.robotID (some s.nextSession)
      session := Function.update s.session s.nextSession ⟨none, none⟩
      nextSession := s.nextSession + 1 }.setPhase h hd (.located s.nextSession)

/-- Installing a peer under the session lock. -/
def install (fold : Char → Char) (window : Int) (s : State) (h : Nat) (hd : Handler) (sid : Nat) :
    State :=
  let prev := (s.session sid).peer hd.role
  if shouldDebouncePeerReplacement fold (prev.bind s.peerConn) hd.peer window then
    s.setPhase h hd .debounced
  else
    { s with
      session := Function.update s.session sid ((s.session sid).setPeer (some h) hd.role)
    }.setPhase h hd (.installed sid)

/-- Clearing a peer under the session lock. -/
def disconnect (s : State) (h : Nat) (hd : Handler) (sid : Nat) : State :=
  let session :=
    if (s.session sid).peer hd.role = some h then (s.session sid).setPeer none hd.role
    else s.session sid
  { s with session := Function.update s.session sid session }.setPhase h hd
    (.cleared sid session.isEmpty)

/-- `Registry.Remove`, when the handler decided so, and the return. -/
def leave (s : State) (h : Nat) (hd : Handler) (removeSession : Bool) : State :=
  if removeSession then
    { s with sessions := Function.update s.sessions hd.robotID none }.setPhase h hd .returned
  else s.setPhase h hd .returned

/-- The step function. -/
def step (env : Env) (s : State) : Step → Option State
  | .connect robotID role peer =>
    let robotID := trimSpace robotID
    if robotID ≠ [] ∧ env.validID robotID = true then
      some { s with handlers := s.handlers ++ [⟨robotID, role, peer, .upgraded⟩] }
    else none
  | .getOrCreate h =>
    s.handlers[h]?.bind fun hd =>
      if hd.phase = .upgraded then some (s.getOrCreate h hd) else none
  | .install h =>
    s.handlers[h]?.bind fun hd =>
      match hd.phase with
      | .located sid => some (s.install env.fold env.window h hd sid)
      | _ => none
  | .disconnect h =>
    s.handlers[h]?.bind fun hd =>
      match hd.phase with
      | .installed sid => some (s.disconnect h hd sid)
      | _ => none
  | .leave h =>
    s.handlers[h]?.bind fun hd =>
      match hd.phase with
      | .cleared _ removeSession => some (s.leave h hd removeSession)
      | _ => none

end State

/-- **The signaling machine** of a deployment. -/
def machine (env : Env) : Machine State Step where
  init := ⟨fun _ => none, fun _ => ⟨none, none⟩, 0, []⟩
  step := State.step env

namespace State

/-- The peer of handler `h` sits in session `sid` of robot `r`: installed there, not replaced, and
its handler has not disconnected it yet. -/
def Installed (s : State) (r : Str) (role : Role) (h sid : Nat) : Prop :=
  (s.session sid).peer role = some h ∧
    ∃ hd ∈ s.handlers[h]?, hd.robotID = r ∧ hd.role = role ∧ hd.phase = .installed sid

instance (s : State) (r : Str) (role : Role) (h sid : Nat) : Decidable (s.Installed r role h sid) :=
  inferInstanceAs (Decidable (_ ∧ ∃ hd ∈ s.handlers[h]?, _))

/-- **Rendezvous**: the installed agent and the installed client of a robot sit in one session, and
every installed peer sits in the session the registry maps its robot to. -/
def Rendezvous (s : State) : Prop :=
  (∀ r h h' sid sid', s.Installed r .agent h sid → s.Installed r .client h' sid' → sid = sid') ∧
  ∀ r role h sid, s.Installed r role h sid → s.sessions r = some sid

/-- **The condition**: a session is removed from the registry only when nobody sits in the session
the registry maps the robot to, and no handler of the robot is between its lookup and its install.
-/
def RemovesOnlyUnused (s : State) : Step → Prop
  | .leave h => ∀ hd ∈ s.handlers[h]?, hd.phase.removes = true →
      (∀ sid ∈ s.sessions hd.robotID, (s.session sid).isEmpty = true) ∧
      ∀ hd' ∈ s.handlers, hd'.robotID = hd.robotID → hd'.phase.isLocated = false
  | _ => True

instance (s : State) : ∀ a, Decidable (s.RemovesOnlyUnused a)
  | .leave h => Option.decidableForallMem s.handlers[h]?
  | .connect .. | .getOrCreate _ | .install _ | .disconnect _ => isTrue trivial

/-- The invariant of guided runs: a handler that has looked its session up, or sits in it, has the
session the registry maps its robot to. -/
structure Inv (s : State) : Prop where
  located : ∀ (h : Nat) (hd : Handler) (sid : Nat), s.handlers[h]? = some hd →
    hd.phase = .located sid → s.sessions hd.robotID = some sid
  installed : ∀ (h : Nat) (hd : Handler) (sid : Nat), s.handlers[h]? = some hd →
    hd.phase = .installed sid → (s.session sid).peer hd.role = some h →
      s.sessions hd.robotID = some sid

variable {s t : State} {h : Nat} {hd : Handler}

/-- **What a step does.** -/
inductive Move (env : Env) (s : State) : Step → State → Prop
  | connect (robotID robotID' : Str) (role : Role) (peer : PeerConn) :
    Move env s (.connect robotID role peer)
      { s with handlers := s.handlers ++ [⟨robotID', role, peer, .upgraded⟩] }
  | getOrCreate {h : Nat} {hd : Handler} (hh : s.handlers[h]? = some hd)
      (hphase : hd.phase = .upgraded) :
    Move env s (.getOrCreate h) (s.getOrCreate h hd)
  | install {h sid : Nat} {hd : Handler} (hh : s.handlers[h]? = some hd)
      (hphase : hd.phase = .located sid) :
    Move env s (.install h) (s.install env.fold env.window h hd sid)
  | disconnect {h sid : Nat} {hd : Handler} (hh : s.handlers[h]? = some hd)
      (hphase : hd.phase = .installed sid) :
    Move env s (.disconnect h) (s.disconnect h hd sid)
  | leave {h sid : Nat} {hd : Handler} {removeSession : Bool} (hh : s.handlers[h]? = some hd)
      (hphase : hd.phase = .cleared sid removeSession) :
    Move env s (.leave h) (s.leave h hd removeSession)

theorem move_of_step {env : Env} {a : Step} (hstep : s.step env a = some t) : Move env s a t := by
  cases a with
  | connect robotID role peer =>
    simp only [State.step] at hstep
    split_ifs at hstep
    cases hstep
    exact .connect robotID _ role peer
  | getOrCreate h =>
    obtain ⟨hd, hh, hstep⟩ := Option.bind_eq_some_iff.mp hstep
    split_ifs at hstep with hphase
    cases hstep
    exact .getOrCreate hh hphase
  | install h =>
    obtain ⟨hd, hh, hstep⟩ := Option.bind_eq_some_iff.mp hstep
    split at hstep
    · rename_i sid hphase
      cases hstep
      exact .install hh hphase
    · cases hstep
  | disconnect h =>
    obtain ⟨hd, hh, hstep⟩ := Option.bind_eq_some_iff.mp hstep
    split at hstep
    · rename_i sid hphase
      cases hstep
      exact .disconnect hh hphase
    · cases hstep
  | leave h =>
    obtain ⟨hd, hh, hstep⟩ := Option.bind_eq_some_iff.mp hstep
    split at hstep
    · rename_i sid removeSession hphase
      cases hstep
      exact .leave hh hphase
    · cases hstep

/-- Moving one handler to a new phase keeps the invariant when the new phase agrees with the
registry. -/
theorem Inv.setPhase (hs : Inv s) (phase : Phase)
    (hloc : ∀ sid, phase = .located sid → s.sessions hd.robotID = some sid)
    (hins : ∀ sid, phase = .installed sid → s.sessions hd.robotID = some sid) :
    Inv (s.setPhase h hd phase) := by
  refine ⟨fun h' hd' sid hh' hp => ?_, fun h' hd' sid hh' hp hcur => ?_⟩
  · rcases Tasks.of_set hh' with ⟨-, rfl⟩ | ⟨-, hold⟩
    · exact hloc sid hp
    · exact hs.located h' hd' sid hold hp
  · rcases Tasks.of_set hh' with ⟨-, rfl⟩ | ⟨-, hold⟩
    · exact hins sid hp
    · exact hs.installed h' hd' sid hold hp hcur

/-- A fresh handler keeps the invariant. -/
theorem Inv.connect (hs : Inv s) {robotID : Str} {role : Role} {peer : PeerConn} :
    Inv { s with handlers := s.handlers ++ [⟨robotID, role, peer, .upgraded⟩] } := by
  refine ⟨fun h' hd' sid hh' hp => ?_, fun h' hd' sid hh' hp hcur => ?_⟩
  · rcases Tasks.of_append hh' with ⟨-, rfl⟩ | ⟨-, hold⟩
    · cases hp
    · exact hs.located h' hd' sid hold hp
  · rcases Tasks.of_append hh' with ⟨-, rfl⟩ | ⟨-, hold⟩
    · cases hp
    · exact hs.installed h' hd' sid hold hp hcur

/-- `Registry.GetOrCreate` keeps the invariant. A fresh entry is made only for a robot that the
registry does not map, so no handler of that robot is located or installed. -/
theorem Inv.getOrCreate (hs : Inv s) : Inv (s.getOrCreate h hd) := by
  unfold State.getOrCreate
  cases hmap : s.sessions hd.robotID with
  | some sid =>
    refine hs.setPhase _ (fun sid' heq => ?_) (fun sid' heq => by cases heq)
    cases heq
    exact hmap
  | none =>
    have hnew : Inv { s with
        sessions := Function.update s.sessions hd.robotID (some s.nextSession)
        session := Function.update s.session s.nextSession ⟨none, none⟩
        nextSession := s.nextSession + 1 } := by
      refine ⟨fun h' hd' sid hh' hp => ?_, fun h' hd' sid hh' hp hcur => ?_⟩
      · have hold := hs.located h' hd' sid hh' hp
        have hne : hd'.robotID ≠ hd.robotID := fun heq => by simp [heq, hmap] at hold
        simpa [Function.update_of_ne hne] using hold
      · have hsid : sid ≠ s.nextSession := by
          rintro rfl
          simp only [Function.update_self] at hcur
          cases hrole : hd'.role <;> simp [hrole, Session.peer] at hcur
        simp only [Function.update_of_ne hsid] at hcur
        have hold := hs.installed h' hd' sid hh' hp hcur
        have hne : hd'.robotID ≠ hd.robotID := fun heq => by simp [heq, hmap] at hold
        simpa [Function.update_of_ne hne] using hold
    refine hnew.setPhase _ (fun sid heq => ?_) (fun sid heq => by cases heq)
    cases heq
    simp

/-- Installing a peer keeps the invariant: its session is the mapped one, and whoever it replaces no
longer sits there. -/
theorem Inv.install (fold : Char → Char) (window : Int) (hs : Inv s) {sid : Nat}
    (hh : s.handlers[h]? = some hd) (hp : hd.phase = .located sid) :
    Inv (s.install fold window h hd sid) := by
  have hmap := hs.located h hd sid hh hp
  unfold State.install
  simp only
  split_ifs with hdeb
  · exact hs.setPhase _ (fun _ heq => by cases heq) (fun _ heq => by cases heq)
  · refine ⟨fun h' hd' sid' hh' hp' => ?_, fun h' hd' sid' hh' hp' hcur => ?_⟩
    · rcases Tasks.of_set hh' with ⟨-, rfl⟩ | ⟨-, hold⟩
      · cases hp'
      · exact hs.located h' hd' sid' hold hp'
    · rcases Tasks.of_set hh' with ⟨-, rfl⟩ | ⟨heq, hold⟩
      · cases hp'
        exact hmap
      · refine hs.installed h' hd' sid' hold hp' ?_
        simp only [State.setPhase, Function.update_apply] at hcur
        split_ifs at hcur with hsid
        · by_cases hrole : hd'.role = hd.role
          · rw [hrole, Session.peer_setPeer_self] at hcur
            exact absurd (Option.some.inj hcur).symm heq
          · rw [Session.peer_setPeer_of_ne _ _ hrole] at hcur
            rw [hsid]
            exact hcur
        · exact hcur

/-- Clearing a peer keeps the invariant. -/
theorem Inv.disconnect (hs : Inv s) {sid : Nat} : Inv (s.disconnect h hd sid) := by
  unfold State.disconnect
  simp only
  refine Inv.setPhase ?_ _ (fun _ heq => by cases heq) (fun _ heq => by cases heq)
  refine ⟨hs.located, fun h' hd' sid' hh' hp' hcur => hs.installed h' hd' sid' hh' hp' ?_⟩
  simp only [Function.update_apply] at hcur
  split_ifs at hcur with hsid hown
  · by_cases hrole : hd'.role = hd.role
    · rw [hrole, Session.peer_setPeer_self] at hcur
      cases hcur
    · rw [Session.peer_setPeer_of_ne _ _ hrole] at hcur
      rw [hsid]
      exact hcur
  · rw [hsid]
    exact hcur
  · exact hcur

/-- Leaving keeps the invariant when the condition holds: a removal that nobody is hurt by. -/
theorem Inv.leave (hs : Inv s) {sid : Nat} {removeSession : Bool} (hh : s.handlers[h]? = some hd)
    (hp : hd.phase = .cleared sid removeSession) (hcond : s.RemovesOnlyUnused (.leave h)) :
    Inv (s.leave h hd removeSession) := by
  unfold State.leave
  cases removeSession with
  | false => exact hs.setPhase _ (fun _ heq => by cases heq) (fun _ heq => by cases heq)
  | true =>
    obtain ⟨hempty, hnone⟩ := hcond hd hh (by rw [hp]; rfl)
    refine Inv.setPhase ?_ _ (fun _ heq => by cases heq) (fun _ heq => by cases heq)
    refine ⟨fun h' hd' sid' hh' hp' => ?_, fun h' hd' sid' hh' hp' hcur => ?_⟩
    · have hne : hd'.robotID ≠ hd.robotID := fun heq => by
        have hloc := hnone hd' (List.mem_of_getElem? hh') heq
        rw [hp'] at hloc
        cases hloc
      simpa [Function.update_of_ne hne] using hs.located h' hd' sid' hh' hp'
    · have hold := hs.installed h' hd' sid' hh' hp' hcur
      have hne : hd'.robotID ≠ hd.robotID := fun heq => by
        rw [heq] at hold
        have hgone := Session.peer_of_isEmpty (hempty sid' hold) hd'.role
        exact absurd (hcur.symm.trans hgone) (by simp)
      simpa [Function.update_of_ne hne] using hold

/-- **Every step that meets the condition keeps the invariant.** -/
theorem Inv.step (env : Env) {a : Step} (hs : Inv s)
    (hcond : s.RemovesOnlyUnused a) (hstep : s.step env a = some t) : Inv t := by
  cases move_of_step hstep with
  | connect => exact hs.connect
  | getOrCreate => exact hs.getOrCreate
  | install hh hphase => exact hs.install env.fold env.window hh hphase
  | disconnect => exact hs.disconnect
  | leave hh hphase => exact hs.leave hh hphase hcond

/-- The invariant gives the rendezvous. -/
theorem Inv.rendezvous (hs : Inv s) : s.Rendezvous := by
  have hmapped : ∀ r role h sid, s.Installed r role h sid → s.sessions r = some sid := by
    rintro r role h sid ⟨hcur, hd, hh, rfl, rfl, hp⟩
    exact hs.installed h hd sid hh hp hcur
  refine ⟨fun r h h' sid sid' hagent hclient => ?_, hmapped⟩
  have hsame := (hmapped r _ h sid hagent).symm.trans (hmapped r _ h' sid' hclient)
  exact Option.some.inj hsame

end State

/-- **Peers meet when removals are harmless.** In every run in which each removal from the registry
happens while nobody sits in the mapped session and no handler of the robot is between lookup and
install, all installed peers of a robot sit in the one session the registry maps it to. -/
theorem rendezvous_of_removesOnlyUnused (env : Env) (as : List Step) (s : State)
    (hrun : (machine env).run (machine env).init as = some s)
    (hcond : (machine env).Along State.RemovesOnlyUnused (machine env).init as) :
    s.Rendezvous := by
  have hinit : State.Inv (machine env).init :=
    ⟨fun _ _ _ hh _ => (by cases hh), fun _ _ _ hh _ _ => (by cases hh)⟩
  exact ((machine env).along_invariant
    (fun _ _ _ hs hP hstep => hs.step env hP hstep) hinit hcond hrun).rendezvous

/-- A peer that dialled at time `t` from an address of its own. -/
def peerAt (t : Int) (ip : Char) : PeerConn := ⟨t, [ip], [ip]⟩

/-- A deployment with a debounce window of three nanoseconds. -/
def sampleEnv : Env := ⟨isStandardUUID, asciiFold, 3⟩

/-- A client visits an agent and both leave, the last of them removing the session; then the agent
comes back. -/
def revisitSteps (r : Str) : List Step :=
  [.connect r .agent (peerAt 1 'a'), .getOrCreate 0, .install 0,
    .connect r .client (peerAt 2 'c'), .getOrCreate 1, .install 1,
    .disconnect 1, .leave 1, .disconnect 0, .leave 0,
    .connect r .agent (peerAt 9 'a'), .getOrCreate 2, .install 2]

/-- The condition is met by a run in which a session is removed and made again. -/
theorem rendezvous_revisitSteps :
    ∃ s, (machine sampleEnv).run (machine sampleEnv).init (revisitSteps robotA) = some s ∧
      s.sessions robotA = some 1 ∧ s.Rendezvous := by
  obtain ⟨s, hs, hmap⟩ := (machine sampleEnv).exists_run (revisitSteps robotA)
    (fun s => s.sessions robotA = some 1) (by decide)
  refine ⟨s, hs, hmap, ?_⟩
  exact rendezvous_of_removesOnlyUnused sampleEnv _ s hs (by decide)

/-- An agent leaves; before it removes the session it found empty, a client looks that session up
and sits in it; after the removal the agent comes back. -/
def orphanSteps (r : Str) : List Step :=
  [.connect r .agent (peerAt 1 'a'), .getOrCreate 0, .install 0, .disconnect 0,
    .connect r .client (peerAt 5 'c'), .getOrCreate 1, .install 1, .leave 0,
    .connect r .agent (peerAt 9 'a'), .getOrCreate 2, .install 2]

/-- **Peers of a robot can miss each other**: agent and client are both installed, in different
sessions. -/
theorem rendezvous_fails :
    ∃ as s, (machine sampleEnv).run (machine sampleEnv).init as = some s ∧
      s.Installed robotA .agent 2 1 ∧ s.Installed robotA .client 1 0 ∧ ¬ s.Rendezvous := by
  obtain ⟨s, hs, hagent, hclient⟩ := (machine sampleEnv).exists_run (orphanSteps robotA)
    (fun s => s.Installed robotA .agent 2 1 ∧ s.Installed robotA .client 1 0) (by decide)
  refine ⟨_, s, hs, hagent, hclient, fun hmeet => ?_⟩
  exact absurd (hmeet.1 robotA 2 1 1 0 hagent hclient) (by decide)

end Roboat.Signaling
