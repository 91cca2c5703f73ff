import Mathlib.Logic.Function.Basic
import Roboat.Text.Strings

/-! # The session decision of a relay attach

`handleRelayWS` decides with which session key a client is attached, from the robot's active session
and the session snapshots kept as evidence. The evidence store is a function of the (trimmed) key;
`time.Parse(time.RFC3339, ·)` and the case folding of `strings.EqualFold` are taken from outside. A
time is a number of nanoseconds, `0` being the zero time. -/

namespace Roboat.Relay

/-- The fields of `connstate.BootstrapSession` that the attach decision reads. -/
structure BootstrapSession where
  sessionID : Str
  robotID : Str
  userID : Str
  startedAt : Str
  updatedAt : Str
  deriving DecidableEq, Repr

/-- What `connstate.SessionSnapshot` answers. -/
abbrev Evidence := Str → Option BootstrapSession

/-! ## The active sessions -/

/-- `AgentControlHub.activeSessions`: the key of the active session of each robot that has one. -/
abbrev ActiveSessions := Str → Option Str

namespace ActiveSessions

/-- `ActiveSession`: empty when there is none. -/
def activeSession (active : ActiveSessions) (robotID : Str) : Str :=
  if trimSpace robotID = [] then []
  else trimSpace ((active (trimSpace robotID)).getD [])

/-- `ClearActiveSessionIfMatch`: a blank key matches every session. -/
def clearActiveSessionIfMatch (active : ActiveSessions) (robotID sessionKey : Str) :
    ActiveSessions :=
  let robotID := trimSpace robotID
  let sessionKey := trimSpace sessionKey
  let current := trimSpace ((active robotID).getD [])
  if robotID = [] ∨ current = [] ∨ (sessionKey ≠ [] ∧ current ≠ sessionKey) then active
  else Function.update active robotID none

variable {active : ActiveSessions} {robotID sessionKey r : Str}

/-- Clearing the session of one robot leaves those of the others. -/
theorem clearActiveSessionIfMatch_of_ne (h : r ≠ trimSpace robotID) :
    active.clearActiveSessionIfMatch robotID sessionKey r = active r := by
  unfold clearActiveSessionIfMatch
  split_ifs
  · rfl
  · exact Function.update_of_ne h _ _

/-- What is active after a session was cleared was active before. -/
theorem eq_some_of_clear {key : Str}
    (h : active.clearActiveSessionIfMatch robotID sessionKey r = some key) :
    active r = some key := by
  by_cases hr : r = trimSpace robotID
  · subst hr
    unfold clearActiveSessionIfMatch at h
    split_ifs at h
    · exact h
    · rw [Function.update_self] at h
      cases h
  · rwa [clearActiveSessionIfMatch_of_ne hr] at h

end ActiveSessions

/-! ## The decision -/

section Decision

variable (fold : Char → Char) (parseTime : Str → Option Int) (evidence : Evidence)

/-- `attachSessionSnapshot`: the snapshot for a key, if it belongs to the robot and the user. -/
def attachSessionSnapshot (sessionKey robotID userID : Str) : Option BootstrapSession :=
  let sessionKey := trimSpace sessionKey
  let robotID := trimSpace robotID
  let userID := trimSpace userID
  if sessionKey = [] ∨ robotID = [] then none
  else
    match evidence sessionKey with
    | none => none
    | some snapshot =>
      if !equalFold fold (trimSpace snapshot.robotID) robotID then none
      else if userID ≠ [] ∧ trimSpace snapshot.userID ≠ [] ∧
          equalFold fold (trimSpace snapshot.userID) userID = false then none
      else some snapshot

/-- One candidate of `attachSessionRefTime`: a text that is not blank and parses. -/
def refTimeCandidate (raw : Str) : Option Int :=
  if trimSpace raw = [] then none else parseTime (trimSpace raw)

/-- `attachSessionRefTime`: `UpdatedAt`, else `StartedAt`, else the zero time. -/
def attachSessionRefTime (snapshot : BootstrapSession) : Int :=
  (refTimeCandidate parseTime snapshot.updatedAt).getD
    ((refTimeCandidate parseTime snapshot.startedAt).getD 0)

/-- `shouldPromoteAttachSession`. -/
def shouldPromoteAttachSession (activeSessionKey requestedSessionKey robotID userID : Str) : Bool :=
  match attachSessionSnapshot fold evidence requestedSessionKey robotID userID with
  | none => false
  | some requested =>
    match attachSessionSnapshot fold evidence activeSessionKey robotID userID with
    | none => true
    | some active =>
      let requestedAt := attachSessionRefTime parseTime requested
      let activeAt := attachSessionRefTime parseTime active
      if requestedAt = 0 ∨ activeAt = 0 then false else activeAt < requestedAt

/-- The outcome of the decision. -/
inductive AttachDecision where
  /-- The request is answered with a conflict. -/
  | reject (error : String)
  /-- Attach with this key, which is the active session up to case. -/
  | keep (sessionKey : Str)
  /-- Make this key the active session, and attach with it. -/
  | adopt (sessionKey : Str)
  deriving DecidableEq, Repr

/-- The key a request asks for: its own, or the active session when it brings none. -/
def requestedKey (activeSession sessionKey : Str) : Str :=
  if trimSpace sessionKey = [] then trimSpace activeSession else trimSpace sessionKey

/-- **The session decision of `handleRelayWS`**, from the active session it reads (empty when there
is none). A key without a snapshot is adopted when no session is active. -/
def decideAttach (activeSession robotID userID sessionKey : Str) : AttachDecision :=
  let activeSession := trimSpace activeSession
  let sessionKey := requestedKey activeSession sessionKey
  if sessionKey = [] then .reject "robot attach session unavailable"
  else if activeSession ≠ [] ∧ equalFold fold activeSession sessionKey = false then
    match attachSessionSnapshot fold evidence sessionKey robotID userID with
    | none => .reject "attach session is stale; reconnect required"
    | some snapshot =>
      if snapshot.sessionID = [] then .reject "attach session is stale; reconnect required"
      else if !shouldPromoteAttachSession fold parseTime evidence activeSession sessionKey robotID
          userID then
        .reject "attach session is stale; reconnect required"
      else .adopt sessionKey
  else if activeSession = [] then .adopt sessionKey
  else .keep sessionKey

/-- The requested key is trimmed. -/
theorem trimSpace_requestedKey (active sessionKey : Str) :
    trimSpace (requestedKey active sessionKey) = requestedKey active sessionKey := by
  unfold requestedKey
  split_ifs <;> exact trimSpace_trimSpace _

/-- What is known of the key a request is attached with. -/
theorem decideAttach_spec (active robotID userID sessionKey : Str) :
    match decideAttach fold parseTime evidence active robotID userID sessionKey with
    | .reject _ => True
    | .keep key => trimSpace key = key ∧ key ≠ [] ∧ equalFold fold (trimSpace active) key = true
    | .adopt key => trimSpace key = key ∧ key ≠ [] := by
  unfold decideAttach
  simp only
  have htrim := trimSpace_requestedKey (trimSpace active) sessionKey
  generalize requestedKey (trimSpace active) sessionKey = key at htrim
  by_cases hempty : key = []
  · rw [if_pos hempty]
    trivial
  rw [if_neg hempty]
  by_cases hstale : trimSpace active ≠ [] ∧ equalFold fold (trimSpace active) key = false
  · rw [if_pos hstale]
    cases attachSessionSnapshot fold evidence key robotID userID with
    | none => trivial
    | some snapshot =>
      simp only
      split_ifs
      · trivial
      · trivial
      · exact ⟨htrim, hempty⟩
  rw [if_neg hstale]
  by_cases hnone : trimSpace active = []
  · rw [if_pos hnone]
    exact ⟨htrim, hempty⟩
  · rw [if_neg hnone]
    refine ⟨htrim, hempty, ?_⟩
    by_contra hne
    exact hstale ⟨hnone, by simpa using hne⟩

variable {fold parseTime evidence}

/-- **When a snapshot counts**: the store holds it for the key, it is of the robot, and its user is
the request's unless one of the two is blank. -/
theorem attachSessionSnapshot_eq_some_iff {sessionKey robotID userID : Str}
    {snapshot : BootstrapSession} :
    attachSessionSnapshot fold evidence sessionKey robotID userID = some snapshot ↔
      trimSpace sessionKey ≠ [] ∧ trimSpace robotID ≠ [] ∧
        evidence (trimSpace sessionKey) = some snapshot ∧
        equalFold fold (trimSpace snapshot.robotID) (trimSpace robotID) = true ∧
        ¬ (trimSpace userID ≠ [] ∧ trimSpace snapshot.userID ≠ [] ∧
          equalFold fold (trimSpace snapshot.userID) (trimSpace userID) = false) := by
  unfold attachSessionSnapshot
  simp only
  by_cases hblank : trimSpace sessionKey = [] ∨ trimSpace robotID = []
  · rw [if_pos hblank]
    exact ⟨nofun, fun h => absurd hblank (not_or.mpr ⟨h.1, h.2.1⟩)⟩
  rw [if_neg hblank]
  obtain ⟨hkey, hrobot⟩ := not_or.mp hblank
  cases hfound : evidence (trimSpace sessionKey) with
  | none => exact ⟨nofun, fun h => nomatch h.2.2.1⟩
  | some found =>
    simp only
    split_ifs with hforeign huser
    · refine ⟨nofun, fun h => ?_⟩
      obtain rfl : found = snapshot := Option.some.inj h.2.2.1
      simp [h.2.2.2.1] at hforeign
    · refine ⟨nofun, fun h => ?_⟩
      obtain rfl : found = snapshot := Option.some.inj h.2.2.1
      exact absurd huser h.2.2.2.2
    · refine ⟨fun h => ?_, fun h => h.2.2.1⟩
      obtain rfl : found = snapshot := Option.some.inj h
      exact ⟨hkey, hrobot, rfl, by simpa using hforeign, huser⟩

/-- **When a key is adopted**: it is the one the request brings, and no session is active; or it is
not the active session, its snapshot counts and has a session id, and it is promoted. -/
theorem decideAttach_eq_adopt_iff {active robotID userID sessionKey key : Str} :
    decideAttach fold parseTime evidence active robotID userID sessionKey = .adopt key ↔
      key = trimSpace sessionKey ∧ key ≠ [] ∧
        (trimSpace active = [] ∨
          equalFold fold (trimSpace active) key = false ∧
          (∃ snapshot, attachSessionSnapshot fold evidence key robotID userID = some snapshot ∧
            snapshot.sessionID ≠ []) ∧
          shouldPromoteAttachSession fold parseTime evidence (trimSpace active) key robotID userID
            = true) := by
  unfold decideAttach requestedKey
  simp only [trimSpace_trimSpace]
  by_cases hblank : trimSpace sessionKey = []
  · -- the request brings no key, so the active session is the one that is asked for
    rw [if_pos hblank, hblank]
    refine ⟨fun h => ?_, fun h => absurd h.1 h.2.1⟩
    by_cases hnone : trimSpace active = []
    · rw [if_pos hnone] at h
      cases h
    · rw [if_neg hnone, if_neg (fun hother => by simp at hother), if_neg hnone] at h
      cases h
  rw [if_neg hblank, if_neg hblank]
  by_cases hother : trimSpace active ≠ [] ∧ equalFold fold (trimSpace active) (trimSpace sessionKey)
      = false
  · rw [if_pos hother]
    cases hsnap : attachSessionSnapshot fold evidence (trimSpace sessionKey) robotID userID with
    | none =>
      refine ⟨nofun, ?_⟩
      rintro ⟨rfl, -, hnone | ⟨-, ⟨snapshot, hsome, -⟩, -⟩⟩
      · exact absurd hnone hother.1
      · cases hsnap.symm.trans hsome
    | some snapshot =>
      simp only
      split_ifs with hid hpromote
      · refine ⟨nofun, ?_⟩
        rintro ⟨rfl, -, hnone | ⟨-, ⟨other, hsome, hne⟩, -⟩⟩
        · exact absurd hnone hother.1
        · obtain rfl : snapshot = other := Option.some.inj (hsnap.symm.trans hsome)
          exact absurd hid hne
      · refine ⟨nofun, ?_⟩
        rintro ⟨rfl, -, hnone | ⟨-, -, hpromoted⟩⟩
        · exact absurd hnone hother.1
        · simp [hpromoted] at hpromote
      · constructor
        · rintro ⟨⟩
          exact ⟨rfl, hblank, Or.inr ⟨hother.2, ⟨snapshot, hsnap, hid⟩, by simpa using hpromote⟩⟩
        · rintro ⟨rfl, -⟩
          rfl
  rw [if_neg hother]
  by_cases hnone : trimSpace active = []
  · rw [if_pos hnone]
    constructor
    · rintro ⟨⟩
      exact ⟨rfl, hblank, Or.inl hnone⟩
    · rintro ⟨rfl, -⟩
      rfl
  · rw [if_neg hnone]
    refine ⟨nofun, ?_⟩
    rintro ⟨rfl, -, hactive | ⟨hfold, -⟩⟩
    · exact absurd hactive hnone
    · exact absurd ⟨hnone, hfold⟩ hother

end Decision

end Roboat.Relay
