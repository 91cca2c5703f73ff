import Roboat.Relay.Hub

/-! # Relay requests

`handleRelayWS` up to the registration of the relay, as a function of the hub: the checks of a
request in their order, the session decision, the whole of `SetActiveSession` with the preemption of
the relays of other sessions, and the websocket upgrade. In the machine of the hub these are the
steps of one task, between which others take their turns (`Roboat.Relay.AttachOrder`).

Without an active session every key is adopted, also one whose snapshot says that it belongs to
another robot or another user (`foreign_adopted`): the handler does not tell a snapshot that
contradicts the request from one that is missing. Against an active session a foreign key is adopted
only for a request whose user is blank; `foreign_kept_out_iff` says exactly when. -/

namespace Roboat.Relay

/-! ## The code -/

/-- The value of a text of decimal digits. -/
def parseDigits (s : Str) : Option Nat :=
  if s ≠ [] ∧ s.all Char.isDigit then
    some (s.foldl (fun value c => 10 * value + (c.toNat - '0'.toNat)) 0)
  else none

/-- `strconv.Atoi`: an optional sign and digits, in the range of `int`. -/
def atoi (s : Str) : Option Int :=
  let value : Option Int := match s with
    | '+' :: digits => (parseDigits digits).map Int.ofNat
    | '-' :: digits => (parseDigits digits).map fun n => - Int.ofNat n
    | digits => (parseDigits digits).map Int.ofNat
  value.filter fun n => decide (-9223372036854775808 ≤ n ∧ n ≤ 9223372036854775807)

/-- A request: the user that `RelayUser` finds, and the query. -/
structure RelayRequest where
  user : Option Str
  robotID : Str
  port : Str
  sessionKey : Str
  deriving DecidableEq, Repr

/-- How a request is answered. -/
inductive RelayReply where
  | abort (status : Nat) (error : String)
  /-- `Upgrade` fails: it has answered with an error of its own, and the handler returns. -/
  | upgradeFailed
  /-- The websocket is upgraded and a relay registered with this key. -/
  | attach (sessionKey : Str)
  deriving DecidableEq, Repr

/-- What `RobotOwnedBy` answers; `none` is an error. -/
abbrev Ownership := Str → Str → Option Bool

/-- `AgentControlHub.HasRelayConnection`. -/
def State.hasRelayConnection (s : State) (robotID : Str) : Bool :=
  (s.relay (trimSpace robotID)).isSome

/-- The port of a request is one. -/
def validPort (portRaw : Str) : Bool :=
  match atoi portRaw with
  | none => false
  | some port => decide (0 < port ∧ port ≤ 65535)

/-- The checks of `handleRelayWS` before the session decision: the user and the hub, or the status
and the text of the error. -/
def checkRelayRequest (owned : Ownership) (hub : Option State) (req : RelayRequest) :
    Except (Nat × String) (Str × State) :=
  match req.user, hub with
  | none, _ => .error (401, "Unauthorized")
  | some _, none => .error (503, "control channel unavailable")
  | some userID, some s =>
    let robotID := trimSpace req.robotID
    let portRaw := trimSpace req.port
    if robotID = [] ∨ portRaw = [] then .error (400, "robot_id and port are required")
    else if !validPort portRaw then .error (400, "port must be between 1 and 65535")
    else
      match owned robotID userID with
      | none => .error (500, "Database query failed")
      | some false => .error (404, "robot not found")
      | some true =>
        if !s.hasRelayConnection robotID then .error (409, "robot relay channel offline")
        else .ok (userID, s)

namespace State

/-- The relay of one stale entry is told to close; a full channel loses its oldest message for
it. -/
def preemptRelay (task : SessionTask) (s : State) (entry : RelayEntry) : State :=
  match s.enqueue entry.2 (preemptMessage task entry) .hub with
  | some s => s
  | none =>
    match s.dropOldestQueuedMessage entry.2 with
    | some s => (s.enqueue entry.2 (preemptMessage task entry) .hub).getD s
    | none => s

/-- `preemptRelaysForSession`. -/
def preemptRelaysForSession (env : Env) (s : State) (task : SessionTask) : State :=
  (s.relays.filter (isStale env task.robotID task.sessionKey)).foldl (preemptRelay task) s

/-- The map write of `SetActiveSession`, with its event when the value is another one. -/
def writeSession (s : State) (task : SessionTask) : State :=
  { s with
    activeSessions := Function.update s.activeSessions task.robotID (some task.sessionKey)
    log := if s.changesSession task then .sessionSet task.robotID task.sessionKey :: s.log
      else s.log }

/-- `SetActiveSession` for a robot and a key that are trimmed and not blank. -/
def setActiveSession (env : Env) (s : State) (task : SessionTask) : State :=
  if s.changesSession task then (s.writeSession task).preemptRelaysForSession env task
  else s.writeSession task

end State

/-- The attach of a request. -/
def RelayRequest.task (req : RelayRequest) (userID key : Str) : SessionTask :=
  ⟨true, trimSpace req.robotID, userID, key, .setting⟩

/-- The reply of a request whose session is settled, by the outcome of the upgrade. -/
def upgradeReply (upgraded : Bool) (key : Str) : RelayReply :=
  if upgraded then .attach key else .upgradeFailed

/-- **`handleRelayWS`**, up to the registration: the reply, and the hub after it. The session is set
before the websocket is upgraded, and stays so when the upgrade fails. -/
def handleRelayWS (env : Env) (owned : Ownership) (evidence : Evidence) (upgraded : Bool)
    (hub : Option State) (req : RelayRequest) : RelayReply × Option State :=
  match checkRelayRequest owned hub req with
  | .error e => (.abort e.1 e.2, hub)
  | .ok (userID, s) =>
    match decideAttach env.fold env.parseTime evidence (s.activeSession (trimSpace req.robotID))
        (trimSpace req.robotID) userID req.sessionKey with
    | .reject error => (.abort 409 error, hub)
    | .keep key => (upgradeReply upgraded key, hub)
    | .adopt key =>
      (upgradeReply upgraded key, some (s.setActiveSession env (req.task userID key)))

/-! ## What a request does -/

section Requests

variable {env : Env} {owned : Ownership} {evidence : Evidence} {hub : Option State} {s : State}
  {req : RelayRequest}

/-- A request that passes the checks is of the user and of the hub. -/
theorem eq_of_checkRelayRequest {userID : Str}
    (h : checkRelayRequest owned hub req = .ok (userID, s)) :
    req.user = some userID ∧ hub = some s ∧ trimSpace req.robotID ≠ [] ∧
      validPort (trimSpace req.port) = true ∧ owned (trimSpace req.robotID) userID = some true ∧
      s.hasRelayConnection (trimSpace req.robotID) = true := by
  unfold checkRelayRequest at h
  cases huser : req.user with
  | none =>
    rw [huser] at h
    cases h
  | some user =>
    cases hub with
    | none =>
      rw [huser] at h
      cases h
    | some s' =>
      rw [huser] at h
      simp only at h
      by_cases hblank : trimSpace req.robotID = [] ∨ trimSpace req.port = []
      · rw [if_pos hblank] at h
        cases h
      rw [if_neg hblank] at h
      cases hport : validPort (trimSpace req.port) with
      | false =>
        rw [hport] at h
        cases h
      | true =>
        rw [hport] at h
        cases howned : owned (trimSpace req.robotID) user with
        | none =>
          rw [howned] at h
          cases h
        | some mine =>
          rw [howned] at h
          cases mine with
          | false => cases h
          | true =>
            cases hrelay : s'.hasRelayConnection (trimSpace req.robotID) with
            | false =>
              rw [hrelay] at h
              cases h
            | true =>
              rw [hrelay] at h
              cases h
              exact ⟨rfl, rfl, fun hr => hblank (Or.inl hr), rfl, howned, hrelay⟩

/-- **What a request does**: it leaves the hub as it is, or the decision adopts a key. -/
theorem handleRelayWS_cases (env : Env) (owned : Ownership) (evidence : Evidence) (upgraded : Bool)
    (hub : Option State) (req : RelayRequest) :
    (handleRelayWS env owned evidence upgraded hub req).2 = hub ∨
      ∃ userID s key, checkRelayRequest owned hub req = .ok (userID, s) ∧
        decideAttach env.fold env.parseTime evidence (s.activeSession (trimSpace req.robotID))
          (trimSpace req.robotID) userID req.sessionKey = .adopt key ∧
        (handleRelayWS env owned evidence upgraded hub req).2
          = some (s.setActiveSession env (req.task userID key)) := by
  unfold handleRelayWS
  cases hcheck : checkRelayRequest owned hub req with
  | error e => exact Or.inl rfl
  | ok checked =>
    obtain ⟨userID, s⟩ := checked
    simp only
    cases hdecide : decideAttach env.fold env.parseTime evidence
        (s.activeSession (trimSpace req.robotID)) (trimSpace req.robotID) userID
        req.sessionKey with
    | reject error | keep key => exact Or.inl rfl
    | adopt key => exact Or.inr ⟨userID, s, key, rfl, hdecide, rfl⟩

/-- A request whose key is adopted sets the session, whatever becomes of the upgrade. -/
theorem handleRelayWS_adopt {userID key : Str} (upgraded : Bool)
    (hcheck : checkRelayRequest owned hub req = .ok (userID, s))
    (hdecide : decideAttach env.fold env.parseTime evidence
      (s.activeSession (trimSpace req.robotID)) (trimSpace req.robotID) userID req.sessionKey
        = .adopt key) :
    handleRelayWS env owned evidence upgraded hub req
      = (upgradeReply upgraded key, some (s.setActiveSession env (req.task userID key))) := by
  simp only [handleRelayWS, hcheck, hdecide]

end Requests

/-! ## Preemption leaves the sessions alone -/

namespace State

variable {env : Env} {s : State} {task : SessionTask}

theorem activeSessions_preemptRelay (s : State) (entry : RelayEntry) :
    (s.preemptRelay task entry).activeSessions = s.activeSessions := by
  unfold preemptRelay
  cases henq : s.enqueue entry.2 (preemptMessage task entry) .hub with
  | some u =>
    obtain ⟨chans, rfl⟩ := eq_of_enqueue henq
    rfl
  | none =>
    simp only
    cases hdrop : s.dropOldestQueuedMessage entry.2 with
    | none => rfl
    | some u =>
      obtain ⟨chans, rfl⟩ := eq_of_dropOldestQueuedMessage hdrop
      simp only
      cases hagain : State.enqueue { s with chans := chans } entry.2 (preemptMessage task entry)
          .hub with
      | none => rfl
      | some v =>
        obtain ⟨chans', rfl⟩ := eq_of_enqueue hagain
        rfl

theorem activeSessions_foldl_preemptRelay (stale : List RelayEntry) (s : State) :
    (stale.foldl (preemptRelay task) s).activeSessions = s.activeSessions := by
  induction stale generalizing s with
  | nil => rfl
  | cons entry stale ih => rw [List.foldl_cons, ih, activeSessions_preemptRelay]

/-- An accepted session is the robot's active one. -/
theorem activeSessions_setActiveSession :
    (s.setActiveSession env task).activeSessions
      = Function.update s.activeSessions task.robotID (some task.sessionKey) := by
  unfold setActiveSession
  split_ifs
  · exact activeSessions_foldl_preemptRelay _ _
  · rfl

/-- The adopted key is the active session. -/
theorem activeSession_setActiveSession (s : State) (task : SessionTask)
    (hrobot : trimSpace task.robotID = task.robotID) (hne : task.robotID ≠ [])
    (hkey : trimSpace task.sessionKey = task.sessionKey) :
    (s.setActiveSession env task).activeSession task.robotID = task.sessionKey := by
  rw [activeSession, ActiveSessions.activeSession, hrobot, if_neg hne,
    activeSessions_setActiveSession, Function.update_self]
  exact hkey

end State

/-! ## Foreign sessions -/

/-- **A snapshot contradicts a request**: it is of another robot, or names another user. -/
def BootstrapSession.Contradicts (fold : Char → Char) (snapshot : BootstrapSession)
    (robotID userID : Str) : Prop :=
  equalFold fold (trimSpace snapshot.robotID) (trimSpace robotID) = false ∨
    (trimSpace snapshot.userID ≠ [] ∧
      equalFold fold (trimSpace snapshot.userID) (trimSpace userID) = false)

section Foreign

variable (env : Env) (owned : Ownership) (evidence : Evidence) (s : State) (req : RelayRequest)

/-- **No foreign session is adopted**: a key that the request makes the active session of the robot
has no snapshot, or one that does not contradict the request. -/
def KeepsForeignOut (upgraded : Bool) : Prop :=
  ∀ t userID snapshot, (handleRelayWS env owned evidence upgraded (some s) req).2 = some t →
    t.activeSession req.robotID ≠ s.activeSession req.robotID → req.user = some userID →
    evidence (t.activeSession req.robotID) = some snapshot →
    ¬ snapshot.Contradicts env.fold req.robotID userID

/-- The attach decision takes this snapshot of the requested key although its user is not the
request's: the request's user is blank, so that the users are not compared; the snapshot is of the
robot and has a session id; and the key is not the active one and is promoted over it. -/
def BlankUserPromotes (userID : Str) (snapshot : BootstrapSession) : Prop :=
  trimSpace userID = [] ∧
    equalFold env.fold (trimSpace snapshot.robotID) (trimSpace req.robotID) = true ∧
    snapshot.sessionID ≠ [] ∧
    equalFold env.fold (s.activeSession req.robotID) (trimSpace req.sessionKey) = false ∧
    shouldPromoteAttachSession env.fold env.parseTime evidence (s.activeSession req.robotID)
      (trimSpace req.sessionKey) (trimSpace req.robotID) userID = true

/-- **The condition**: when a request that passes the checks asks for a key whose snapshot
contradicts it, the robot has an active session, and the snapshot is not taken for a blank user. -/
def ForeignChecked : Prop :=
  ∀ userID snapshot, checkRelayRequest owned (some s) req = .ok (userID, s) →
    trimSpace req.sessionKey ≠ [] → evidence (trimSpace req.sessionKey) = some snapshot →
    snapshot.Contradicts env.fold req.robotID userID →
    s.activeSession req.robotID ≠ [] ∧ ¬ BlankUserPromotes env evidence s req userID snapshot

variable {env owned evidence s req}

theorem State.activeSession_trimSpace (s : State) (robotID : Str) :
    s.activeSession (trimSpace robotID) = s.activeSession robotID := by
  simp only [State.activeSession, ActiveSessions.activeSession, trimSpace_trimSpace]

theorem State.trimSpace_activeSession (s : State) (robotID : Str) :
    trimSpace (s.activeSession robotID) = s.activeSession robotID := by
  unfold State.activeSession ActiveSessions.activeSession
  split_ifs
  · rfl
  · exact trimSpace_trimSpace _

/-- The key that a request brings is the active session once it is adopted. -/
theorem activeSession_adopted (env : Env) (s : State) (userID : Str)
    (hrobot : trimSpace req.robotID ≠ []) :
    (s.setActiveSession env (req.task userID (trimSpace req.sessionKey))).activeSession req.robotID
      = trimSpace req.sessionKey := by
  rw [← State.activeSession_trimSpace]
  exact s.activeSession_setActiveSession (req.task userID (trimSpace req.sessionKey))
    (trimSpace_trimSpace _) hrobot (trimSpace_trimSpace _)

/-- A contradicting snapshot that the decision takes against an active session is one for a blank
user. -/
theorem blankUserPromotes_of_snapshot {userID : Str} {snapshot : BootstrapSession}
    (hsnap : attachSessionSnapshot env.fold evidence (trimSpace req.sessionKey)
      (trimSpace req.robotID) userID = some snapshot) (hid : snapshot.sessionID ≠ [])
    (hother : equalFold env.fold (s.activeSession req.robotID) (trimSpace req.sessionKey) = false)
    (hpromote : shouldPromoteAttachSession env.fold env.parseTime evidence
      (s.activeSession req.robotID) (trimSpace req.sessionKey) (trimSpace req.robotID) userID
        = true)
    (hforeign : snapshot.Contradicts env.fold req.robotID userID) :
    BlankUserPromotes env evidence s req userID snapshot := by
  obtain ⟨-, -, -, hrobot, huser⟩ := attachSessionSnapshot_eq_some_iff.mp hsnap
  rw [trimSpace_trimSpace] at hrobot
  refine ⟨?_, hrobot, hid, hother, hpromote⟩
  rcases hforeign with hrobot' | ⟨hnamed, hother'⟩
  · cases hrobot.symm.trans hrobot'
  · by_contra hblank
    exact huser ⟨hblank, hnamed, hother'⟩

/-- A snapshot for a blank user is taken. -/
theorem BlankUserPromotes.snapshot {userID : Str} {snapshot : BootstrapSession}
    (h : BlankUserPromotes env evidence s req userID snapshot)
    (hkey : trimSpace req.sessionKey ≠ []) (hrobot : trimSpace req.robotID ≠ [])
    (hfound : evidence (trimSpace req.sessionKey) = some snapshot) :
    attachSessionSnapshot env.fold evidence (trimSpace req.sessionKey) (trimSpace req.robotID)
      userID = some snapshot := by
  rw [attachSessionSnapshot_eq_some_iff, trimSpace_trimSpace, trimSpace_trimSpace]
  exact ⟨hkey, hrobot, hfound, h.2.1, fun huser => huser.1 h.1⟩

end Foreign

/-- **When no foreign session is adopted**: exactly when the condition holds. -/
theorem foreign_kept_out_iff (env : Env) (owned : Ownership) (evidence : Evidence) (upgraded : Bool)
    (s : State) (req : RelayRequest) :
    KeepsForeignOut env owned evidence s req upgraded ↔
      ForeignChecked env owned evidence s req := by
  constructor
  · -- a foreign key that is taken unchecked becomes the active session
    intro hkept userID snapshot hcheck hkey hfound hforeign
    obtain ⟨huser, -, hrobot, -⟩ := eq_of_checkRelayRequest hcheck
    by_contra hnot
    have hadopt : decideAttach env.fold env.parseTime evidence
        (s.activeSession (trimSpace req.robotID)) (trimSpace req.robotID) userID req.sessionKey
          = .adopt (trimSpace req.sessionKey) := by
      rw [decideAttach_eq_adopt_iff, State.activeSession_trimSpace, State.trimSpace_activeSession]
      refine ⟨rfl, hkey, ?_⟩
      by_cases hactive : s.activeSession req.robotID = []
      · exact Or.inl hactive
      · obtain hblank : BlankUserPromotes env evidence s req userID snapshot := by
          by_contra hchecked
          exact hnot ⟨hactive, hchecked⟩
        exact Or.inr ⟨hblank.2.2.2.1,
          ⟨snapshot, hblank.snapshot hkey hrobot hfound, hblank.2.2.1⟩, hblank.2.2.2.2⟩
    have hset := activeSession_adopted env s userID hrobot
    refine hkept _ userID snapshot (by rw [handleRelayWS_adopt upgraded hcheck hadopt]) ?_ huser
      (by rw [hset]; exact hfound) hforeign
    -- and it was not before
    rw [hset]
    intro hsame
    by_cases hactive : s.activeSession req.robotID = []
    · exact hkey (hsame.trans hactive)
    · refine hnot ⟨hactive, fun hblank => ?_⟩
      have hother := hblank.2.2.2.1
      rw [← hsame, equalFold_refl] at hother
      cases hother
  · intro hchecked t userID snapshot hhub hchanged huser hfound hforeign
    rcases handleRelayWS_cases env owned evidence upgraded (some s) req with
      hsame | ⟨user, s', key, hcheck, hdecide, hadopt⟩
    · obtain rfl : s = t := Option.some.inj (hsame.symm.trans hhub)
      exact hchanged rfl
    obtain ⟨huser', hs, hrobot, -⟩ := eq_of_checkRelayRequest hcheck
    obtain rfl : s = s' := Option.some.inj hs
    obtain rfl : userID = user := Option.some.inj (huser.symm.trans huser')
    obtain rfl : s.setActiveSession env (req.task userID key) = t :=
      Option.some.inj (hadopt.symm.trans hhub)
    rw [decideAttach_eq_adopt_iff, State.activeSession_trimSpace, State.trimSpace_activeSession]
      at hdecide
    obtain ⟨rfl, hkey, hcase⟩ := hdecide
    have hset := activeSession_adopted env s userID hrobot
    rw [hset] at hfound
    obtain ⟨hactive, hnot⟩ := hchecked userID snapshot hcheck hkey hfound hforeign
    rcases hcase with hnone | ⟨hother, ⟨found, hsnap, hid⟩, hpromote⟩
    · exact hactive hnone
    · obtain ⟨-, -, hheld, -⟩ := attachSessionSnapshot_eq_some_iff.mp hsnap
      rw [trimSpace_trimSpace] at hheld
      obtain rfl : snapshot = found := Option.some.inj (hfound.symm.trans hheld)
      exact hnot (blankUserPromotes_of_snapshot hsnap hid hother hpromote hforeign)

/-- A hub with a relay connection of the robot, and this active session if it is not empty. -/
def onlineHub (active : Str) : State :=
  { (machine sampleEnv).init with
    relay := Function.update (fun _ => none) robotA (some 0)
    activeSessions := Function.update (fun _ => none) robotA (if active = [] then none
      else some active) }

/-- Times of the samples: a digit, that many seconds. -/
def digitEnv : Env :=
  { sampleEnv with parseTime := fun raw => (parseDigits raw).map fun n => (n : Int) * 1000000000 }

/-- A snapshot of a robot and a user, started at a time. -/
def snapshotOf (robotID user startedAt : String) : BootstrapSession :=
  ⟨"id".toList, robotID.toList, user.toList, startedAt.toList, []⟩

/-- Four sessions, of which the last one is of another user. -/
def sampleEvidence : Evidence := fun key =>
  if key = "s1".toList then some { snapshotOf "" "ann" "1" with robotID := robotA }
  else if key = "s2".toList then some { snapshotOf "" "ann" "2" with robotID := robotA }
  else if key = "s3".toList then some { snapshotOf "" "ann" "3" with robotID := robotA }
  else if key = "s9".toList then some { snapshotOf "" "bob" "9" with robotID := robotA }
  else none

/-- A request of a user for a session. -/
def relayRequest (sessionKey : String) : RelayRequest :=
  ⟨some "ann".toList, robotA, "22".toList, sessionKey.toList⟩

/-- Everybody owns every robot. -/
def everybody : Ownership := fun _ _ => some true

/-- **Without an active session a foreign one is adopted.** The snapshot names another user, and the
key becomes the active session of the robot all the same. -/
theorem foreign_adopted :
    ∃ snapshot, sampleEvidence "s9".toList = some snapshot ∧
      snapshot.Contradicts digitEnv.fold robotA "ann".toList ∧
      (onlineHub []).activeSession robotA = [] ∧
      (handleRelayWS digitEnv everybody sampleEvidence true (some (onlineHub []))
        (relayRequest "s9")).1 = .attach "s9".toList ∧
      ((handleRelayWS digitEnv everybody sampleEvidence true (some (onlineHub []))
        (relayRequest "s9")).2.map fun hub => hub.activeSession robotA) = some "s9".toList ∧
      ¬ KeepsForeignOut digitEnv everybody sampleEvidence (onlineHub []) (relayRequest "s9")
        true := by
  have hset : (handleRelayWS digitEnv everybody sampleEvidence true (some (onlineHub []))
      (relayRequest "s9")).2 = some ((onlineHub []).setActiveSession digitEnv
        ((relayRequest "s9").task "ann".toList "s9".toList)) := rfl
  have hforeign : ({ snapshotOf "" "bob" "9" with robotID := robotA } :
      BootstrapSession).Contradicts digitEnv.fold robotA "ann".toList :=
    Or.inr (by decide +kernel)
  refine ⟨{ snapshotOf "" "bob" "9" with robotID := robotA }, by decide +kernel, hforeign,
    by decide +kernel, by decide +kernel, by decide +kernel, fun hkept => ?_⟩
  exact hkept _ "ann".toList _ hset (by decide +kernel) rfl (by decide +kernel) hforeign

end Roboat.Relay
