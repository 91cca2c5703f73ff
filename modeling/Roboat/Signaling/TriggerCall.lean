import Roboat.Signaling.Bootstrap

/-! # One call of `TriggerBootstrap`

The whole call as a function of the server and of what it gets from outside. It has five ways out:
the message is sent over the control channel, the gate holds the trigger back, there is no host to
dial, and the dial succeeds or fails. A teardown is meant to clear the active session that it ends.
It does on every way on which the robot has got the message; but the call also returns `nil` when
the gate holds it back, and then the session stays (`teardown_leaves_session`).
`teardown_clears_iff` says when a teardown keeps its promise. -/

namespace Roboat.Signaling.Bootstrap

open Relay (ActiveSessions)
open Relay.FallbackGate (FallbackTriggerGate)
open Connstate (Time)

/-! ## The code -/

/-- `AgentControlHub`, as far as a trigger uses it. -/
structure Hub where
  conns : Str → Option Nat
  send : Nat → List Item
  activeSessions : Relay.ActiveSessions

namespace Hub

/-- `AgentControlHub.Send`. -/
def sendMessage (hub : Hub) (robotID : Str) (msg : BootstrapMessage) : Option Hub :=
  (hub.conns (trimSpace robotID)).bind fun i =>
    if (hub.send i).length < sendCapacity then
      some { hub with send := Function.update hub.send i (hub.send i ++ [.bootstrap msg]) }
    else none

/-- `AgentControlHub.ActiveSession`. -/
def activeSession (hub : Hub) (robotID : Str) : Str := hub.activeSessions.activeSession robotID

/-- `AgentControlHub.ClearActiveSessionIfMatch`. -/
def clearActiveSessionIfMatch (hub : Hub) (robotID sessionKey : Str) : Hub :=
  { hub with activeSessions := hub.activeSessions.clearActiveSessionIfMatch robotID sessionKey }

end Hub

/-- `relay.Server`: the hub and the gate, either of which may be `nil`. -/
structure Server where
  hub : Option Hub
  fallbackGate : Option FallbackTriggerGate

/-- The active session of a robot. -/
def Server.activeSession (s : Server) (robotID : Str) : Str :=
  (s.hub.map fun hub => hub.activeSession robotID).getD []

/-- The arguments of `TriggerBootstrap`. -/
structure Call where
  robotID : Str
  isTeardown : Bool
  cliIP : Str
  bootstrapID : Str
  routeType : Str
  deriving DecidableEq, Repr

/-- What a call gets from outside: the times, a new id, the answer of the resolver and the outcome
of the trigger over TCP, with the texts of the errors. -/
structure Outside where
  now : Time
  allowClock : Time
  recordClock : Time
  fresh : Str
  robotBootstrapTarget : Except Str Str
  dialError : Option Str

/-- The session key of a call. -/
def Call.sessionKey (call : Call) (out : Outside) : Str :=
  if trimSpace call.bootstrapID = [] then out.fresh else trimSpace call.bootstrapID

/-- The message of a call. -/
def Call.message (call : Call) (sessionKey : Str) : BootstrapMessage where
  type := if call.isTeardown then .webrtcTeardown else .webrtcBootstrap
  bootstrapID := sessionKey
  sessionKey := sessionKey
  routeType := trimSpace call.routeType
  cliPublicIP := if call.isTeardown then [] else call.cliIP

namespace Server

/-- The robot has got the message of a call: a teardown clears its session. -/
def afterSuccess (s : Server) (call : Call) (sessionKey : Str) : Option Hub :=
  if call.isTeardown then
    s.hub.map fun hub => hub.clearActiveSessionIfMatch call.robotID sessionKey
  else s.hub

/-- `recordSuccess` or `recordFailure`. -/
def record (s : Server) (out : Outside) (call : Call) (ok : Bool) : Option FallbackTriggerGate :=
  s.fallbackGate.map fun gate =>
    if ok then
      Relay.FallbackGate.recordSuccess out.recordClock gate call.robotID call.isTeardown out.now
    else Relay.FallbackGate.recordFailure out.recordClock gate call.robotID call.isTeardown out.now

/-- The trigger over TCP has ended: the tail of `TriggerBootstrap`. -/
def afterDial (s : Server) (out : Outside) (call : Call) (sessionKey : Str) : Option Str × Server :=
  match out.dialError with
  | none => (none, ⟨s.afterSuccess call sessionKey, s.record out call true⟩)
  | some e => (some e, ⟨s.hub, s.record out call false⟩)

/-- The second half of `TriggerBootstrap`: the trigger over TCP. -/
def triggerTcp (s : Server) (out : Outside) (call : Call) : Option Str × Server :=
  match out.robotBootstrapTarget with
  | .error e => (some e, s)
  | .ok targetHost =>
    if trimSpace targetHost = [] then
      (some "robot has no IP for bootstrap trigger".toList, s)
    else s.afterDial out call (call.sessionKey out)

/-- `allow`; without a gate everything is allowed. -/
def allow (s : Server) (out : Outside) (call : Call) : Bool × Server :=
  match s.fallbackGate with
  | none => (true, s)
  | some gate =>
    let verdict :=
      Relay.FallbackGate.allow out.allowClock gate call.robotID call.isTeardown out.now
    (verdict.1, { s with fallbackGate := some verdict.2 })

/-- **`TriggerBootstrap`**: the error, and the server after the call. -/
def triggerBootstrap (s : Server) (out : Outside) (call : Call) : Option Str × Server :=
  match s.hub with
  | none => s.triggerTcp out call
  | some hub =>
    match hub.sendMessage call.robotID (call.message (call.sessionKey out)) with
    | some sent =>
      let s : Server := { s with hub := some sent }
      (none, ⟨s.afterSuccess call (call.sessionKey out), s.record out call true⟩)
    | none =>
      let verdict := s.allow out call
      -- held back by the gate: not an error
      if !verdict.1 then (none, verdict.2) else verdict.2.triggerTcp out call

end Server

section Equations

variable {s : Server} {hub : Hub} {out : Outside} {call : Call}

theorem Server.triggerBootstrap_of_sent {sent : Hub} (hhub : s.hub = some hub)
    (hsend : hub.sendMessage call.robotID (call.message (call.sessionKey out)) = some sent) :
    s.triggerBootstrap out call
      = (none, ⟨Server.afterSuccess { s with hub := some sent } call (call.sessionKey out),
          s.record out call true⟩) := by
  rw [Server.triggerBootstrap, hhub]
  simp only [hsend]
  rfl

theorem Server.triggerBootstrap_of_unsent (hhub : s.hub = some hub)
    (hsend : hub.sendMessage call.robotID (call.message (call.sessionKey out)) = none) :
    s.triggerBootstrap out call
      = if !(s.allow out call).1 then (none, (s.allow out call).2)
        else (s.allow out call).2.triggerTcp out call := by
  rw [Server.triggerBootstrap, hhub]
  simp only [hsend]

end Equations

/-! ## Sessions -/

/-- What is left of the active sessions when a session of a robot is cleared. -/
def cleared (sessions : Str → Str) (robotID sessionKey : Str) (r : Str) : Str :=
  if trimSpace r = trimSpace robotID ∧ sessions r = sessionKey then [] else sessions r

theorem Hub.activeSession_sendMessage {hub hub' : Hub} {robotID : Str} {msg : BootstrapMessage}
    (h : hub.sendMessage robotID msg = some hub') : hub'.activeSession = hub.activeSession := by
  obtain ⟨i, -, h⟩ := Option.bind_eq_some_iff.mp h
  obtain ⟨-, h⟩ := Option.ite_none_right_eq_some.mp h
  cases h
  rfl

/-- `ClearActiveSessionIfMatch` for a key that is not blank clears that session of the robot. -/
theorem Hub.activeSession_clear (hub : Hub) (robotID : Str) {sessionKey : Str}
    (hkey : trimSpace sessionKey ≠ []) :
    (hub.clearActiveSessionIfMatch robotID sessionKey).activeSession
      = cleared hub.activeSession robotID (trimSpace sessionKey) := by
  funext r
  unfold cleared
  by_cases hmatch : trimSpace r = trimSpace robotID ∧ hub.activeSession r = trimSpace sessionKey
  · rw [if_pos hmatch]
    obtain ⟨hr, hcurrent⟩ := hmatch
    have hne : trimSpace r ≠ [] := by
      intro hblank
      rw [activeSession, ActiveSessions.activeSession, if_pos hblank] at hcurrent
      exact hkey hcurrent.symm
    rw [activeSession, ActiveSessions.activeSession, if_neg hne] at hcurrent
    have hclear : hub.activeSessions.clearActiveSessionIfMatch robotID sessionKey
        = Function.update hub.activeSessions (trimSpace robotID) none := by
      unfold ActiveSessions.clearActiveSessionIfMatch
      simp only
      rw [← hr, hcurrent, if_neg (by simp [hne, hkey])]
    rw [activeSession, clearActiveSessionIfMatch, hclear, ActiveSessions.activeSession, if_neg hne,
      hr]
    simp
  · rw [if_neg hmatch]
    unfold activeSession clearActiveSessionIfMatch ActiveSessions.clearActiveSessionIfMatch
    simp only
    split_ifs with hsame
    · rfl
    · -- the session of another robot
      simp only [not_or, not_and, not_not] at hsame
      obtain ⟨hrobot, -, hcurrent⟩ := hsame
      have hother : trimSpace r ≠ trimSpace robotID := by
        intro hr
        refine hmatch ⟨hr, ?_⟩
        rw [activeSession, ActiveSessions.activeSession, hr, if_neg hrobot]
        exact hcurrent hkey
      simp only [ActiveSessions.activeSession, Function.update_of_ne hother]

namespace Server

variable {s : Server} {out : Outside} {call : Call}

theorem activeSession_afterSuccess (gate : Option FallbackTriggerGate) {sessionKey : Str}
    (hkind : call.isTeardown = true) (hkey : trimSpace sessionKey ≠ []) :
    Server.activeSession ⟨s.afterSuccess call sessionKey, gate⟩
      = cleared s.activeSession call.robotID (trimSpace sessionKey) := by
  funext r
  cases hhub : s.hub with
  | none =>
    simp only [Server.activeSession, afterSuccess, hkind, hhub, Option.map_none, Option.getD_none,
      cleared, ite_self]
  | some hub =>
    have hsome : s.activeSession = hub.activeSession := by
      funext r
      rw [Server.activeSession, hhub]
      rfl
    rw [hsome, ← Hub.activeSession_clear hub call.robotID hkey]
    simp only [Server.activeSession, afterSuccess, hkind, hhub, if_true, Option.map_some,
      Option.getD_some]

/-- **The gate holds a call back**: the message could not be sent, and the gate does not allow the
dial. -/
def HeldBack (s : Server) (out : Outside) (call : Call) : Prop :=
  ∃ hub, s.hub = some hub ∧
    hub.sendMessage call.robotID (call.message (call.sessionKey out)) = none ∧
    (s.allow out call).1 = false

theorem allow_hub (s : Server) (out : Outside) (call : Call) :
    (s.allow out call).2.hub = s.hub := by
  unfold allow
  cases s.fallbackGate <;> rfl

theorem activeSession_allow (s : Server) (out : Outside) (call : Call) :
    (s.allow out call).2.activeSession = s.activeSession := by
  funext r
  rw [Server.activeSession, allow_hub, Server.activeSession]

/-- The ways out of the dial, for a teardown: cleared when it has succeeded, nothing otherwise. -/
theorem triggerTcp_sessions (s : Server) (out : Outside) (hkind : call.isTeardown = true)
    (hkey : trimSpace (call.sessionKey out) ≠ []) :
    ((s.triggerTcp out call).1 = none ∧ (s.triggerTcp out call).2.activeSession
        = cleared s.activeSession call.robotID (trimSpace (call.sessionKey out))) ∨
      ((s.triggerTcp out call).1 ≠ none ∧
        (s.triggerTcp out call).2.activeSession = s.activeSession) := by
  unfold triggerTcp
  cases out.robotBootstrapTarget with
  | error e => exact Or.inr ⟨Option.some_ne_none _, rfl⟩
  | ok targetHost =>
    simp only
    by_cases hhost : trimSpace targetHost = []
    · rw [if_pos hhost]
      exact Or.inr ⟨Option.some_ne_none _, rfl⟩
    · rw [if_neg hhost]
      unfold afterDial
      cases out.dialError with
      | none => exact Or.inl ⟨rfl, activeSession_afterSuccess _ hkind hkey⟩
      | some e => exact Or.inr ⟨Option.some_ne_none _, rfl⟩

/-- **The ways out of a teardown**: it returns `nil` and its session is cleared; or it is held back
and returns `nil`, or returns an error, and no session is changed. -/
theorem triggerBootstrap_sessions (s : Server) (out : Outside) (hkind : call.isTeardown = true)
    (hkey : trimSpace (call.sessionKey out) ≠ []) :
    ((s.triggerBootstrap out call).1 = none ∧ ¬ s.HeldBack out call ∧
        (s.triggerBootstrap out call).2.activeSession
          = cleared s.activeSession call.robotID (trimSpace (call.sessionKey out))) ∨
      (((s.triggerBootstrap out call).1 = none ↔ s.HeldBack out call) ∧
        (s.triggerBootstrap out call).2.activeSession = s.activeSession) := by
  cases hhub : s.hub with
  | none =>
    -- without a hub the gate is not asked
    have hfree : ¬ s.HeldBack out call := by
      rintro ⟨hub, hsome, -, -⟩
      exact Option.some_ne_none hub (hsome.symm.trans hhub)
    have hcall : s.triggerBootstrap out call = s.triggerTcp out call := by
      rw [triggerBootstrap, hhub]
    rw [hcall]
    rcases s.triggerTcp_sessions out hkind hkey with ⟨hnil, hcleared⟩ | ⟨herr, hsame⟩
    · exact Or.inl ⟨hnil, hfree, hcleared⟩
    · exact Or.inr ⟨iff_of_false herr hfree, hsame⟩
  | some hub =>
    cases hsend : hub.sendMessage call.robotID (call.message (call.sessionKey out)) with
    | some sent =>
      have hfree : ¬ s.HeldBack out call := by
        rintro ⟨hub', hsome, hnone, -⟩
        obtain rfl : hub = hub' := Option.some.inj (hhub.symm.trans hsome)
        exact Option.some_ne_none sent (hsend.symm.trans hnone)
      have hsessions : Server.activeSession { s with hub := some sent } = s.activeSession := by
        funext r
        simp only [Server.activeSession, hhub, Option.map_some, Option.getD_some,
          Hub.activeSession_sendMessage hsend]
      rw [triggerBootstrap_of_sent hhub hsend, ← hsessions]
      exact Or.inl ⟨rfl, hfree, activeSession_afterSuccess _ hkind hkey⟩
    | none =>
      rw [triggerBootstrap_of_unsent hhub hsend]
      cases hallow : (s.allow out call).1 with
      | false =>
        -- the one way out with `nil` on which the robot has got nothing
        have hheld : s.HeldBack out call := ⟨hub, hhub, hsend, hallow⟩
        exact Or.inr ⟨iff_of_true rfl hheld, s.activeSession_allow out call⟩
      | true =>
        have hfree : ¬ s.HeldBack out call := by
          rintro ⟨-, -, -, hfalse⟩
          exact Bool.false_ne_true (hfalse.symm.trans hallow)
        have hsessions := s.activeSession_allow out call
        rcases (s.allow out call).2.triggerTcp_sessions out hkind hkey with
          ⟨hnil, hcleared⟩ | ⟨herr, hsame⟩
        · exact Or.inl ⟨hnil, hfree, hcleared.trans (by rw [hsessions])⟩
        · exact Or.inr ⟨iff_of_false herr hfree, hsame.trans hsessions⟩

end Server

theorem Call.sessionKey_of_ne {call : Call} (out : Outside)
    (hid : trimSpace call.bootstrapID ≠ []) : call.sessionKey out = trimSpace call.bootstrapID :=
  if_neg hid

theorem cleared_ne (sessions : Str → Str) (robotID : Str) {sessionKey : Str}
    (hkey : sessionKey ≠ []) : cleared sessions robotID sessionKey robotID ≠ sessionKey := by
  unfold cleared
  by_cases hmatch : trimSpace robotID = trimSpace robotID ∧ sessions robotID = sessionKey
  · rw [if_pos hmatch]
    exact hkey.symm
  · rw [if_neg hmatch]
    exact fun heq => hmatch ⟨rfl, heq⟩

/-- **When a teardown keeps its promise.** That `nil` means that the session is not active any more
fails exactly when the gate holds the call back while the session is active. Every other session, of
this robot or another, stays as it is whatever the call returns. -/
theorem teardown_clears_iff (s : Server) (out : Outside) (call : Call)
    (hkind : call.isTeardown = true) (hid : trimSpace call.bootstrapID ≠ []) :
    (((s.triggerBootstrap out call).1 = none →
        (s.triggerBootstrap out call).2.activeSession call.robotID ≠ trimSpace call.bootstrapID) ↔
      ¬ (s.HeldBack out call ∧ s.activeSession call.robotID = trimSpace call.bootstrapID)) ∧
    ∀ robotID, (trimSpace robotID ≠ trimSpace call.robotID ∨
        s.activeSession robotID ≠ trimSpace call.bootstrapID) →
      (s.triggerBootstrap out call).2.activeSession robotID = s.activeSession robotID := by
  have hkey : trimSpace (call.sessionKey out) = trimSpace call.bootstrapID := by
    rw [call.sessionKey_of_ne out hid, trimSpace_trimSpace]
  rcases s.triggerBootstrap_sessions out hkind (by rwa [hkey]) with
    ⟨-, hfree, hcleared⟩ | ⟨hnil, hsame⟩
  · rw [hcleared, hkey]
    refine ⟨iff_of_true (fun _ => cleared_ne _ _ hid) fun h => hfree h.1, fun robotID hother => ?_⟩
    exact if_neg fun hmatch => hother.elim (fun h => h hmatch.1) fun h => h hmatch.2
  · rw [hsame, hnil]
    exact ⟨not_and.symm, fun _ _ => rfl⟩

/-- A server with an active session of a robot that has no control channel. -/
def offlineServer : Server where
  hub := some ⟨fun _ => none, fun _ => [],
    Function.update (fun _ => none) "r1".toList (some "s1".toList)⟩
  fallbackGate := some Relay.FallbackGate.newFallbackTriggerGate

/-- The teardown of that session. -/
def offlineTeardown : Call := ⟨"r1".toList, true, [], "s1".toList, []⟩

/-- A call at `now` whose dial ends so. -/
def dialAt (now : Time) (dialError : Option Str) : Outside :=
  ⟨now, now, now, "fresh".toList, .ok "10.0.0.7".toList, dialError⟩

/-- The dial succeeds: the session is cleared. -/
theorem teardown_clears_offline :
    let out := dialAt 1000000000000 none
    let after := offlineServer.triggerBootstrap out offlineTeardown
    after.1 = none ∧ after.2.activeSession "r1".toList ≠ "s1".toList := by
  have hfree : ¬ offlineServer.HeldBack (dialAt 1000000000000 none) offlineTeardown := by
    rintro ⟨-, -, -, hshut⟩
    exact absurd hshut (by decide)
  have hnil : (offlineServer.triggerBootstrap (dialAt 1000000000000 none) offlineTeardown).1
      = none := by decide
  have hiff := (teardown_clears_iff offlineServer (dialAt 1000000000000 none) offlineTeardown rfl
    (by decide)).1
  exact ⟨hnil, hiff.mpr (fun h => hfree h.1) hnil⟩

/-- **A teardown that did nothing returns `nil`.** A first teardown fails over TCP and returns its
error. A second one half a second later is held back by the gate: it returns `nil`, and the session
is still active. -/
theorem teardown_leaves_session :
    let failed := offlineServer.triggerBootstrap
      (dialAt 1000000000000 (some "i/o timeout".toList)) offlineTeardown
    let held := failed.2.triggerBootstrap (dialAt 1000500000000 none) offlineTeardown
    failed.1 = some "i/o timeout".toList ∧ held.1 = none ∧
      held.2.activeSession "r1".toList = "s1".toList := by
  decide

end Roboat.Signaling.Bootstrap
