import Mathlib.Data.Char
import Mathlib.Data.List.Lex
import Roboat.Connstate.State
import Roboat.Text.Rfc3339

/-! # The evidence of connection attempts

`connstate` also keeps what it learns of a connection attempt: a `BootstrapSession` for each session
id, with what the two endpoints say about themselves and what the platform has seen. `UpsertSession`
cleans a session up and stores it in the place of the one before; `SessionSnapshot` reads it.

Times are kept as RFC 3339 texts. `time.Parse` is `Rfc3339.parse` for the texts that `Format` makes
of a time in UTC; for other texts (fractions, zone offsets, texts that are none) its result is a
parameter `other`. A confidence is a rational number here. A map is a list of its entries, in the
order in which a `range` over it comes along. -/

namespace Roboat.Connstate

/-! ## Data -/

/-- `sessionRetention`. -/
def sessionRetention : Duration := 1800 * second

/-- `LastKnownGoodRoute`. -/
structure LastKnownGoodRoute where
  routeType : Str := []
  publicIP : Str := []
  privateAddrs : List Str := []
  observedAt : Str := []
  deriving DecidableEq, Repr

/-- `EndpointProfile`. -/
structure EndpointProfile where
  privateAddrs : List Str := []
  defaultIface : Str := []
  defaultGateway : Str := []
  publicIPHint : Str := []
  transportCaps : List Str := []
  networkTags : List Str := []
  lastKnownGood : Option LastKnownGoodRoute := none
  source : Str := []
  observedAt : Str := []
  ttlSeconds : Int := 0
  confidence : Rat := 0
  deriving DecidableEq, Repr

/-- `PlatformObservation`. -/
structure PlatformObservation where
  observedSrcIP : Str := []
  observedVia : Str := []
  proxyTrusted : Bool := false
  connectedAt : Str := []
  lastHeartbeatAt : Str := []
  cpRTTMs : Int := 0
  wsUpgradeOK : Bool := false
  turnCredFetchOK : Bool := false
  bootstrapID : Str := []
  phase : Str := []
  phaseElapsedMs : Int := 0
  deriving DecidableEq, Repr

/-- `BootstrapSession`. -/
structure BootstrapSession where
  sessionID : Str := []
  bootstrapID : Str := []
  robotID : Str := []
  userID : Str := []
  cliID : Str := []
  startedAt : Str := []
  updatedAt : Str := []
  agentProfile : Option EndpointProfile := none
  cliProfile : Option EndpointProfile := none
  observation : Option PlatformObservation := none
  phase : Str := []
  phaseElapsedMs : Int := 0
  selectedRoute : Str := []
  whyChosen : List Str := []
  whyNot : List (Str × List Str) := []
  deriving DecidableEq, Repr

/-- The map `sessions`. -/
abbrev Sessions := Str → Option BootstrapSession

/-! ## Texts -/

/-- `Format(time.RFC3339)`: the fraction of a second is left out. -/
def formatTime (time : Time) : Str := Rfc3339.format (time / second)

/-- `firstNonEmpty`. -/
def firstNonEmpty : List Str → Str
  | [] => []
  | v :: values => if trimSpace v ≠ [] then trimSpace v else firstNonEmpty values

/-- The loop of `cleanStrings`; what has been seen is what is in `out`. -/
def cleanStringsLoop : List Str → List Str → List Str
  | out, [] => out
  | out, v :: values =>
    if trimSpace v = [] then cleanStringsLoop out values
    else if trimSpace v ∈ out then cleanStringsLoop out values
    else cleanStringsLoop (out ++ [trimSpace v]) values

/-- `cleanStrings`. Texts are sorted by their bytes, which for UTF-8 is by their characters. -/
def cleanStrings (values : List Str) : List Str :=
  (cleanStringsLoop [] values).mergeSort fun v w => decide (v ≤ w)

/-- An assignment to a map. -/
def setEntry (out : List (Str × List Str)) (route : Str) (reasons : List Str) :
    List (Str × List Str) :=
  out.filter (fun e => e.1 ≠ route) ++ [(route, reasons)]

/-- `normalizeWhyNot`. -/
def normalizeWhyNot (entries : List (Str × List Str)) : List (Str × List Str) :=
  entries.foldl (fun out e =>
    let route := trimSpace e.1
    let clean := cleanStrings e.2
    if route = [] then out
    else if clean = [] then out
    else setEntry out route clean) []

/-! ## Normalisation -/

section Normalisation

variable (clock : Time)

/-- `normalizeProfile`. -/
def normalizeProfile (profile : EndpointProfile) (time : Time) : EndpointProfile :=
  { profile with
    privateAddrs := cleanStrings profile.privateAddrs
    transportCaps := cleanStrings profile.transportCaps
    networkTags := cleanStrings profile.networkTags
    defaultIface := trimSpace profile.defaultIface
    defaultGateway := trimSpace profile.defaultGateway
    publicIPHint := trimSpace profile.publicIPHint
    source := trimSpace profile.source
    observedAt :=
      firstNonEmpty [trimSpace profile.observedAt, formatTime (normalizeAt clock time)]
    confidence :=
      if profile.confidence < 0 then 0 else if profile.confidence > 1 then 1
      else profile.confidence
    ttlSeconds := if profile.ttlSeconds < 0 then 0 else profile.ttlSeconds
    lastKnownGood := profile.lastKnownGood.map fun lkg =>
      { routeType := trimSpace lkg.routeType
        publicIP := trimSpace lkg.publicIP
        privateAddrs := cleanStrings lkg.privateAddrs
        observedAt := trimSpace lkg.observedAt } }

/-- `normalizeObservation`. -/
def normalizeObservation (obs : PlatformObservation) (time : Time) : PlatformObservation :=
  { obs with
    observedSrcIP := trimSpace obs.observedSrcIP
    observedVia := trimSpace obs.observedVia
    connectedAt := firstNonEmpty [trimSpace obs.connectedAt, formatTime (normalizeAt clock time)]
    lastHeartbeatAt := trimSpace obs.lastHeartbeatAt
    bootstrapID := trimSpace obs.bootstrapID
    phase := trimSpace obs.phase
    cpRTTMs := if obs.cpRTTMs < 0 then 0 else obs.cpRTTMs
    phaseElapsedMs := if obs.phaseElapsedMs < 0 then 0 else obs.phaseElapsedMs }

/-- The rest of the clean-up in `UpsertSession`, once its times are set. -/
def normalizeSession (session : BootstrapSession) (now : Time) : BootstrapSession :=
  { session with
    sessionID := trimSpace session.sessionID
    bootstrapID := trimSpace session.bootstrapID
    robotID := trimSpace session.robotID
    userID := trimSpace session.userID
    cliID := trimSpace session.cliID
    phase := trimSpace session.phase
    selectedRoute := trimSpace session.selectedRoute
    whyChosen := cleanStrings session.whyChosen
    whyNot := normalizeWhyNot session.whyNot
    agentProfile := session.agentProfile.map fun p => normalizeProfile clock p now
    cliProfile := session.cliProfile.map fun p => normalizeProfile clock p now
    observation := session.observation.map fun o => normalizeObservation clock o now }

end Normalisation

/-! ## The store -/

section Store

variable (other : Str → Option Time)

/-- `time.Parse(time.RFC3339, ·)`. -/
def parseTime (raw : Str) : Option Time :=
  match Rfc3339.parse raw with
  | some sec => some (sec * second)
  | none => other raw

/-- `parseRFC3339Safe`. -/
def parseRFC3339Safe (raw : Str) : Time :=
  if trimSpace raw = [] then 0 else (parseTime other (trimSpace raw)).getD 0

/-- The time from which `pruneExpiredSessionsLocked` counts. -/
def BootstrapSession.ref (s : BootstrapSession) : Time :=
  if parseRFC3339Safe other s.updatedAt = 0 then parseRFC3339Safe other s.startedAt
  else parseRFC3339Safe other s.updatedAt

/-- `pruneExpiredSessionsLocked`. -/
def pruneExpiredSessionsLocked (sessions : Sessions) (now : Time) : Sessions := fun key =>
  (sessions key).filter fun s =>
    !decide (s.ref other ≠ 0 ∧ s.ref other < now - sessionRetention)

/-- The `StartedAt` of a session: what the caller brings, what is there, or the time. -/
def nextStartedAt (prev : Option BootstrapSession) (startedAt : Str) (now : Time) : Str :=
  let startedAt := match prev with
    | some prev => firstNonEmpty [startedAt, prev.startedAt]
    | none => startedAt
  if trimSpace startedAt = [] then formatTime now else startedAt

/-- **`UpsertSession`**: the sessions after it, and what it returns. -/
def upsertSession (clock : Time) (sessions : Sessions) (session : BootstrapSession) (time : Time) :
    Sessions × BootstrapSession :=
  let sessionID := trimSpace session.sessionID
  if sessionID = [] then (sessions, {})
  else
    let now := normalizeAt clock time
    let sessions := pruneExpiredSessionsLocked other sessions now
    let session := normalizeSession clock
      { session with
        startedAt := nextStartedAt (sessions sessionID) session.startedAt now
        updatedAt := formatTime now } now
    (Function.update sessions sessionID (some session), session)

end Store

/-- `SessionSnapshot`. -/
def sessionSnapshot (sessions : Sessions) (sessionID : Str) : Option BootstrapSession :=
  if trimSpace sessionID = [] then none else sessions (trimSpace sessionID)

end Roboat.Connstate
