import Mathlib.Data.List.Infix
import Roboat.Relay.AttachRequests
import Roboat.Relay.QueueStats
import Roboat.Text.Base64
import Roboat.Wire.BigEndian

/-! # The session of a relay client

`handleRelayWS` after the websocket is there. It registers the relay, sends `relay_open` to the
robot and waits for the acknowledgement, keeping what comes before it. Then two goroutines run: the
reader gives what the client sends to `SendRelay`, and the handler itself writes what the robot
sends to the client. Either of them can end the relay; `closeRelay` sees to it that `SendRelay` is
called once for that. Whether `SendRelay` has queued a message for the robot is its result `ok`;
the one for `relay_close` is not looked at.

A write to the client that times out is forgiven as long as not too many follow one another
(`relayClientSoftTimeoutBudget`); its data is lost. What the client gets is what the robot sent, in
order, with exactly this data left out (`session_delivery`), and `SendRelay` is called for one
`relay_open`, for the client's data, and for one `relay_close` (`session_lifecycle`). -/

namespace Roboat.Relay.ClientSession

/-! ## Limits from the environment -/

/-- `parseGatewayEnvIntDefault`, of the value of the variable. -/
def parseGatewayEnvIntDefault (value : Str) (fallback minValue maxValue : Int) : Int :=
  let raw := trimSpace value
  if raw = [] then fallback
  else
    match atoi raw with
    | none => fallback
    | some v => if v < minValue then minValue else if v > maxValue then maxValue else v

/-- `relayClientSoftTimeoutBudget`. -/
def relayClientSoftTimeoutBudget (value : Str) : Int := parseGatewayEnvIntDefault value 6 0 256

/-- A fallback within the limits gives a value within the limits. -/
theorem parseGatewayEnvIntDefault_mem (value : Str) {fallback minValue maxValue : Int}
    (hmin : minValue ≤ fallback) (hmax : fallback ≤ maxValue) :
    minValue ≤ parseGatewayEnvIntDefault value fallback minValue maxValue ∧
      parseGatewayEnvIntDefault value fallback minValue maxValue ≤ maxValue := by
  simp only [parseGatewayEnvIntDefault]
  split_ifs
  · exact ⟨hmin, hmax⟩
  · split
    · exact ⟨hmin, hmax⟩
    · split_ifs <;> omega

/-! ## Messages, errors and frames -/

/-- A message from the relay's channel; `Status` is read only here. -/
structure Inbound extends AgentControlMessage where
  status : Str := []
  deriving DecidableEq, Repr

/-- A message given to `SendRelay`. -/
inductive Outbound where
  | relayOpen (port : Int)
  | relayData (data : Str)
  | relayClose (error : Str)
  deriving DecidableEq, Repr

/-- The error of a write, as far as it is looked at: whether it is a `net.Error` with `Timeout()`,
whether it is `os.ErrDeadlineExceeded`, and its text. -/
structure WriteError where
  timeout : Bool
  deadline : Bool
  text : Str
  deriving DecidableEq, Repr

/-- What is written to the client. The error of a close frame is not looked at, so the frame stands
for the attempt. -/
inductive ClientFrame where
  | binary (data : Bytes)
  | ping
  /-- A close frame with its code. -/
  | close (code : Nat) (text : Str)
  deriving DecidableEq, Repr

/-- The parts of the session that are given. -/
structure Env where
  port : Int
  /-- The value of `relayClientSoftTimeoutBudgetEnv`. -/
  softTimeoutBudget : Str
  /-- Case folding and lower case, letter by letter. -/
  fold : Char → Char
  lower : Char → Char
  /-- `base64.StdEncoding.EncodeToString` and `DecodeString`. -/
  encodeToString : Bytes → Str
  decodeString : Str → Option Bytes

namespace Env

variable (env : Env)

def budget : Int := relayClientSoftTimeoutBudget env.softTimeoutBudget

/-- `isRelayWriterTimeoutLikeError`. -/
def isRelayWriterTimeoutLikeError (err : WriteError) : Bool :=
  let msg := (trimSpace err.text).map env.lower
  err.timeout || err.deadline || decide ("i/o timeout".toList <:+: msg) ||
    decide ("deadline exceeded".toList <:+: msg)

/-- The data of a message for the client. -/
def payload (msg : Inbound) : List Bytes :=
  if msg.type = .relayData ∧ trimSpace msg.data ≠ [] then
    (env.decodeString (trimSpace msg.data)).toList
  else []

def payloads (msgs : List Inbound) : List Bytes := msgs.flatMap env.payload

@[simp] theorem payloads_append (l r : List Inbound) :
    env.payloads (l ++ r) = env.payloads l ++ env.payloads r := List.flatMap_append

@[simp] theorem payloads_cons (msg : Inbound) (msgs : List Inbound) :
    env.payloads (msg :: msgs) = env.payload msg ++ env.payloads msgs := List.flatMap_cons

@[simp] theorem payloads_nil : env.payloads [] = [] := rfl

theorem payload_of_type {msg : Inbound} (h : msg.type ≠ .relayData) : env.payload msg = [] :=
  if_neg fun hdata => h hdata.1

end Env

/-! ## The machine -/

/-- Where a call of `closeRelay` stands. -/
inductive CloseCall where
  /-- Before `closeOnce.Do`. -/
  | entering (reason : Str)
  /-- In the function, before `SendRelay`. -/
  | sending (reason : Str)
  /-- Before `close(done)`. -/
  | closing
  deriving DecidableEq, Repr

/-- Where the handler stands. -/
inductive Main where
  /-- Before `SendRelay` of the `relay_open`. -/
  | opening
  /-- In the first loop, with `pending`. -/
  | awaiting (pending : List Inbound)
  /-- The relay is established; these messages of `pending` are to be handled first. -/
  | running (rest : List Inbound)
  /-- In `WriteMessage`. -/
  | writing (data : Bytes) (rest : List Inbound)
  /-- In `closeRelay` after an invalid payload. -/
  | failing (call : CloseCall)
  /-- In the deferred `closeRelay`. -/
  | leaving (call : CloseCall)
  /-- Before `UnregisterRelay`. -/
  | unregistering
  | returned
  deriving DecidableEq, Repr

/-- Where the client's reader stands. -/
inductive Reader where
  | absent
  | reading
  /-- Before `SendRelay`. -/
  | sending (payload : Bytes)
  /-- In the deferred `closeRelay`. -/
  | leaving (call : CloseCall)
  | returned
  deriving DecidableEq, Repr

/-- `sync.Once`. -/
inductive Once where
  | free
  | running
  | done
  deriving DecidableEq, Repr

/-- What became of data for the client. -/
inductive Outcome where
  | sent
  /-- The write timed out, within the budget. -/
  | dropped
  /-- It timed out once too often. -/
  | exhausted
  /-- It failed otherwise. -/
  | failed
  deriving DecidableEq, Repr

/-- The session. The last four fields are history: what was taken from the channel and what became
of the data, what came from the client, and the calls of `SendRelay`, whatever their result. -/
structure Session where
  main : Main := .opening
  reader : Reader := .absent
  closeOnce : Once := .free
  /-- `done` is closed. -/
  done : Bool := false
  /-- The relay is in the hub's table. -/
  registered : Bool := true
  closeReason : Option Str := none
  relayDataSent : Nat := 0
  relayDataDecodeErrors : Nat := 0
  writerTimeoutDrops : Nat := 0
  writerTimeoutBudgetExhausted : Nat := 0
  writerHardErrors : Nat := 0
  consecutiveWriterTimeoutStreak : Nat := 0
  toClient : List ClientFrame := []
  received : List Inbound := []
  log : List (Bytes × Outcome) := []
  fromClient : List Bytes := []
  relayCalls : List Outbound := []
  deriving DecidableEq, Repr

/-- The atomic steps. -/
inductive Step where
  /-- `SendRelay` of the `relay_open`. -/
  | sendOpen (ok : Bool)
  /-- A message is taken from the channel. -/
  | receive (msg : Inbound)
  | openTimeout
  /-- The next message of `pending`. -/
  | flush
  /-- `WriteMessage` returns. -/
  | write (err : Option WriteError)
  /-- The ticker, and the error of the ping if there is one. -/
  | ping (err : Option Str)
  | seeDone
  /-- The next operation of a `closeRelay` of the handler. -/
  | mainClose
  | unregister
  /-- `ReadMessage` returns a text or binary message. -/
  | read (payload : Bytes)
  | readError (text : Str)
  /-- `SendRelay` of the client's data. -/
  | sendData (ok : Bool)
  /-- The next operation of the `closeRelay` of the reader. -/
  | readerClose
  deriving DecidableEq, Repr

namespace Session

/-- `setCloseReason`: the first reason stays. -/
def setCloseReason (s : Session) (reason : Str) : Session :=
  { s with closeReason :=
      s.closeReason.or (if trimSpace reason = [] then none else some (trimSpace reason)) }

/-- The deferred call of the handler. -/
def leave (s : Session) : Session :=
  { s with main := .leaving (.entering "client_disconnected".toList) }

/-- `sendToClient`, up to the write. -/
def sendToClient (env : Env) (s : Session) (msg : Inbound) (rest : List Inbound) : Session :=
  match msg.type with
  | .relayData =>
    if trimSpace msg.data = [] then { s with main := .running rest }
    else
      match env.decodeString (trimSpace msg.data) with
      | none => { s with
          relayDataDecodeErrors := s.relayDataDecodeErrors + 1
          main := .failing (.entering "invalid_relay_payload".toList) }
      | some data => { s with main := .writing data rest }
  | .relayClose =>
    let text := if trimSpace msg.error = [] then "relay closed".toList else trimSpace msg.error
    leave { s.setCloseReason ("upstream_relay_close:".toList ++ text) with
      toClient := s.toClient ++ [.close 1000 text] }
  | _ => { s with main := .running rest }

/-- `sendToClient`, after the write. -/
def afterWrite (env : Env) (s : Session) (data : Bytes) (rest : List Inbound) :
    Option WriteError → Session
  | none => { s with
      consecutiveWriterTimeoutStreak := 0
      relayDataSent := s.relayDataSent + 1
      toClient := s.toClient ++ [.binary data]
      log := s.log ++ [(data, .sent)]
      main := .running rest }
  | some err =>
    let reason := "client_writer_error:".toList ++ trimSpace err.text
    if 0 < env.budget ∧ env.isRelayWriterTimeoutLikeError err = true then
      if (s.consecutiveWriterTimeoutStreak : Int) + 1 ≤ env.budget then
        { s with
          writerTimeoutDrops := s.writerTimeoutDrops + 1
          consecutiveWriterTimeoutStreak := s.consecutiveWriterTimeoutStreak + 1
          log := s.log ++ [(data, .dropped)]
          main := .running rest }
      else
        leave ({ s with
          writerTimeoutDrops := s.writerTimeoutDrops + 1
          consecutiveWriterTimeoutStreak := s.consecutiveWriterTimeoutStreak + 1
          writerTimeoutBudgetExhausted := s.writerTimeoutBudgetExhausted + 1
          writerHardErrors := s.writerHardErrors + 1
          log := s.log ++ [(data, Outcome.exhausted)] }.setCloseReason reason)
    else
      leave ({ s with
        writerHardErrors := s.writerHardErrors + 1
        log := s.log ++ [(data, Outcome.failed)] }.setCloseReason reason)

/-- A message in the first loop. -/
def await (env : Env) (s : Session) (pending : List Inbound) (msg : Inbound) : Session :=
  if msg.type = .relayOpenAck then
    if equalFold env.fold (trimSpace msg.status) "ok".toList then
      { s with main := .running pending, reader := .reading }
    else
      let text := if trimSpace msg.error = [] then "relay_open rejected".toList
        else trimSpace msg.error
      { s.setCloseReason ("relay_open_rejected:".toList ++ text) with
        toClient := s.toClient ++ [.close 1008 text], main := .unregistering }
  else { s with main := .awaiting (pending ++ [msg]) }

/-- One operation of `closeRelay`, and where the call stands then: nowhere when it has returned. -/
def closeRelay (s : Session) : CloseCall → Option (Session × Option CloseCall)
  | .entering reason =>
    match s.closeOnce with
    | .free =>
      some ({ s.setCloseReason reason with closeOnce := .running }, some (.sending reason))
    -- another call is in the function
    | .running => none
    | .done => some (s, none)
  | .sending reason =>
    some ({ s with relayCalls := s.relayCalls ++ [.relayClose (trimSpace reason)] }, some .closing)
  | .closing => some ({ s with closeOnce := .done, done := true }, none)

/-- The handler after an operation of the `closeRelay` for an invalid payload. -/
def failNext (s : Session) : Option CloseCall → Session
  | some call => { s with main := .failing call }
  | none => s.leave

/-- The handler after an operation of its deferred `closeRelay`. -/
def leaveNext (s : Session) : Option CloseCall → Session
  | some call => { s with main := .leaving call }
  | none => { s with main := .unregistering }

/-- The reader after an operation of its deferred `closeRelay`. -/
def readerNext (s : Session) : Option CloseCall → Session
  | some call => { s with reader := .leaving call }
  | none => { s with reader := .returned }

/-- The deferred call of the reader. -/
def leaveReader (s : Session) : Session :=
  { s with reader := .leaving (.entering "client_reader_closed".toList) }

def step (env : Env) (s : Session) : Step → Option Session
  | .sendOpen ok =>
    if s.main = .opening then
      let s := { s with relayCalls := s.relayCalls ++ [Outbound.relayOpen env.port] }
      if ok then some { s with main := .awaiting [] }
      else some { s.setCloseReason "relay_open_send_failed".toList with
        toClient := s.toClient ++ [.close 1013 "relay_open send failed".toList]
        main := .unregistering }
    else none
  | .receive msg =>
    let t := { s with received := s.received ++ [msg] }
    match s.main with
    | .awaiting pending => some (await env t pending msg)
    | .running [] => some (sendToClient env t msg [])
    | _ => none
  | .openTimeout =>
    match s.main with
    | .awaiting _ => some { s.setCloseReason "relay_open_timeout".toList with
        toClient := s.toClient ++ [.close 1013 "relay_open timeout".toList]
        main := .unregistering }
    | _ => none
  | .flush =>
    match s.main with
    | .running (msg :: rest) => some (sendToClient env s msg rest)
    | _ => none
  | .write err =>
    match s.main with
    | .writing data rest => some (afterWrite env s data rest err)
    | _ => none
  | .ping err =>
    if s.main = .running [] then
      match err with
      | none => some { s with toClient := s.toClient ++ [.ping] }
      | some text =>
        some (s.setCloseReason ("client_ping_error:".toList ++ trimSpace text)).leave
    else none
  | .seeDone => if s.main = .running [] ∧ s.done = true then some s.leave else none
  | .mainClose =>
    match s.main with
    | .failing call => (s.closeRelay call).map fun next => next.1.failNext next.2
    | .leaving call => (s.closeRelay call).map fun next => next.1.leaveNext next.2
    | _ => none
  | .unregister =>
    if s.main = .unregistering then some { s with main := .returned, registered := false } else none
  | .read payload =>
    if s.reader = .reading then
      some { s with reader := .sending payload, fromClient := s.fromClient ++ [payload] }
    else none
  | .readError text =>
    if s.reader = .reading then
      some (s.setCloseReason ("client_reader_error:".toList ++ trimSpace text)).leaveReader
    else none
  | .sendData ok =>
    match s.reader with
    | .sending payload =>
      let s := { s with
        relayCalls := s.relayCalls ++ [Outbound.relayData (env.encodeToString payload)] }
      if ok then some { s with reader := .reading }
      else some (s.setCloseReason "relay_data_send_failed".toList).leaveReader
    | _ => none
  | .readerClose =>
    match s.reader with
    | .leaving call => (s.closeRelay call).map fun next => next.1.readerNext next.2
    | _ => none

end Session

/-- **A relay session**, from the registration of the relay. -/
def machine (env : Env) : Machine Session Step where
  init := {}
  step := Session.step env

/-! ## What a step does -/

/-- What `sendToClient` does up to the write. -/
inductive Handled (env : Env) (s : Session) (msg : Inbound) (rest : List Inbound) : Session → Prop
  | skip : env.payload msg = [] → Handled env s msg rest { s with main := .running rest }
  | invalid : env.payload msg = [] →
      Handled env s msg rest { s with
        relayDataDecodeErrors := s.relayDataDecodeErrors + 1
        main := .failing (.entering "invalid_relay_payload".toList) }
  | data {data : Bytes} : env.payload msg = [data] →
      Handled env s msg rest { s with main := .writing data rest }
  | close (text : Str) : env.payload msg = [] →
      Handled env s msg rest (Session.leave
        { s.setCloseReason ("upstream_relay_close:".toList ++ text) with
          toClient := s.toClient ++ [.close 1000 text] })

/-- What it does after the write. -/
inductive Written (env : Env) (s : Session) (data : Bytes) (rest : List Inbound) : Session → Prop
  | sent : Written env s data rest { s with
      consecutiveWriterTimeoutStreak := 0
      relayDataSent := s.relayDataSent + 1
      toClient := s.toClient ++ [.binary data]
      log := s.log ++ [(data, .sent)]
      main := .running rest }
  | dropped : (s.consecutiveWriterTimeoutStreak : Int) + 1 ≤ env.budget →
      Written env s data rest { s with
        writerTimeoutDrops := s.writerTimeoutDrops + 1
        consecutiveWriterTimeoutStreak := s.consecutiveWriterTimeoutStreak + 1
        log := s.log ++ [(data, .dropped)]
        main := .running rest }
  | exhausted (reason : Str) : env.budget < (s.consecutiveWriterTimeoutStreak : Int) + 1 →
      Written env s data rest (Session.leave (Session.setCloseReason { s with
        writerTimeoutDrops := s.writerTimeoutDrops + 1
        consecutiveWriterTimeoutStreak := s.consecutiveWriterTimeoutStreak + 1
        writerTimeoutBudgetExhausted := s.writerTimeoutBudgetExhausted + 1
        writerHardErrors := s.writerHardErrors + 1
        log := s.log ++ [(data, .exhausted)] } reason))
  | failed (reason : Str) :
      Written env s data rest (Session.leave (Session.setCloseReason { s with
        writerHardErrors := s.writerHardErrors + 1
        log := s.log ++ [(data, .failed)] } reason))

/-- What an operation of `closeRelay` does. -/
inductive Closed (s : Session) : CloseCall → Session → Option CloseCall → Prop
  | enter (reason : Str) : s.closeOnce = .free →
      Closed s (.entering reason) { s.setCloseReason reason with closeOnce := .running }
        (some (.sending reason))
  | late (reason : Str) : s.closeOnce = .done → Closed s (.entering reason) s none
  | send (reason : Str) : Closed s (.sending reason)
      { s with relayCalls := s.relayCalls ++ [.relayClose (trimSpace reason)] } (some .closing)
  | finish : Closed s .closing { s with closeOnce := .done, done := true } none

/-- What a step does. -/
inductive Move (env : Env) (s : Session) : Step → Session → Prop
  | opened : s.main = .opening → Move env s (.sendOpen true)
      { s with relayCalls := s.relayCalls ++ [.relayOpen env.port], main := .awaiting [] }
  | openFailed : s.main = .opening → Move env s (.sendOpen false)
      { s.setCloseReason "relay_open_send_failed".toList with
        relayCalls := s.relayCalls ++ [.relayOpen env.port]
        toClient := s.toClient ++ [.close 1013 "relay_open send failed".toList]
        main := .unregistering }
  | acked {pending : List Inbound} {msg : Inbound} : s.main = .awaiting pending →
      msg.type = .relayOpenAck → equalFold env.fold (trimSpace msg.status) "ok".toList = true →
      Move env s (.receive msg)
        { s with received := s.received ++ [msg], main := .running pending, reader := .reading }
  | rejected {pending : List Inbound} {msg : Inbound} (text : Str) : s.main = .awaiting pending →
      msg.type = .relayOpenAck →
      Move env s (.receive msg)
        { s.setCloseReason ("relay_open_rejected:".toList ++ text) with
          received := s.received ++ [msg]
          toClient := s.toClient ++ [.close 1008 text], main := .unregistering }
  | kept {pending : List Inbound} {msg : Inbound} : s.main = .awaiting pending →
      Move env s (.receive msg)
        { s with received := s.received ++ [msg], main := .awaiting (pending ++ [msg]) }
  | timedOut {pending : List Inbound} : s.main = .awaiting pending → Move env s .openTimeout
      { s.setCloseReason "relay_open_timeout".toList with
        toClient := s.toClient ++ [.close 1013 "relay_open timeout".toList]
        main := .unregistering }
  | received {msg : Inbound} {t : Session} : s.main = .running [] →
      Handled env { s with received := s.received ++ [msg] } msg [] t → Move env s (.receive msg) t
  | flushed {msg : Inbound} {rest : List Inbound} {t : Session} : s.main = .running (msg :: rest) →
      Handled env s msg rest t → Move env s .flush t
  | written {data : Bytes} {rest : List Inbound} {err : Option WriteError} {t : Session} :
      s.main = .writing data rest → Written env s data rest t → Move env s (.write err) t
  | pinged : s.main = .running [] →
      Move env s (.ping none) { s with toClient := s.toClient ++ [.ping] }
  | pingFailed (text reason : Str) : s.main = .running [] →
      Move env s (.ping (some text)) (s.setCloseReason reason).leave
  | sawDone : s.main = .running [] → s.done = true → Move env s .seeDone s.leave
  | failing {call : CloseCall} {u : Session} {next : Option CloseCall} : s.main = .failing call →
      Closed s call u next → Move env s .mainClose (u.failNext next)
  | leaving {call : CloseCall} {u : Session} {next : Option CloseCall} : s.main = .leaving call →
      Closed s call u next → Move env s .mainClose (u.leaveNext next)
  | unregistered : s.main = .unregistering →
      Move env s .unregister { s with main := .returned, registered := false }
  | read (payload : Bytes) : s.reader = .reading → Move env s (.read payload)
      { s with reader := .sending payload, fromClient := s.fromClient ++ [payload] }
  | readFailed (text reason : Str) : s.reader = .reading →
      Move env s (.readError text) (s.setCloseReason reason).leaveReader
  | sent {payload : Bytes} : s.reader = .sending payload → Move env s (.sendData true)
      { s with
        relayCalls := s.relayCalls ++ [.relayData (env.encodeToString payload)]
        reader := .reading }
  | sendFailed {payload : Bytes} : s.reader = .sending payload → Move env s (.sendData false)
      (Session.leaveReader (Session.setCloseReason
        { s with relayCalls := s.relayCalls ++ [.relayData (env.encodeToString payload)] }
        "relay_data_send_failed".toList))
  | readerLeaving {call : CloseCall} {u : Session} {next : Option CloseCall} :
      s.reader = .leaving call → Closed s call u next →
      Move env s .readerClose (u.readerNext next)

section Moves

variable {env : Env} {s t : Session}

/-- What sending one message to the client can do. -/
theorem handled_sendToClient (env : Env) (s : Session) (msg : Inbound) (rest : List Inbound) :
    Handled env s msg rest (s.sendToClient env msg rest) := by
  unfold Session.sendToClient
  split
  · rename_i htype
    split
    · rename_i hblank
      exact .skip (if_neg fun h => h.2 hblank)
    · rename_i hblank
      have hpayload : env.payload msg = (env.decodeString (trimSpace msg.data)).toList :=
        if_pos ⟨htype, hblank⟩
      split
      · rename_i hdecode
        exact .invalid (by rw [hpayload, hdecode]; rfl)
      · rename_i data hdecode
        exact .data (by rw [hpayload, hdecode]; rfl)
  · rename_i htype
    exact .close _ (env.payload_of_type (by simp [htype]))
  · rename_i htype _
    exact .skip (env.payload_of_type htype)

/-- What the end of one write can do. -/
theorem written_afterWrite (env : Env) (s : Session) (data : Bytes) (rest : List Inbound)
    (err : Option WriteError) : Written env s data rest (s.afterWrite env data rest err) := by
  cases err with
  | none => exact .sent
  | some err =>
    simp only [Session.afterWrite]
    split_ifs with htimeout hbudget
    · exact .dropped hbudget
    · exact .exhausted _ (by omega)
    · exact .failed _

/-- What one step of `closeRelay` can do. -/
theorem closed_of_closeRelay {call : CloseCall} {next : Option CloseCall}
    (h : s.closeRelay call = some (t, next)) : Closed s call t next := by
  cases call with
  | entering reason =>
    simp only [Session.closeRelay] at h
    split at h
    · rename_i honce
      cases h
      exact .enter reason honce
    · cases h
    · rename_i honce
      cases h
      exact .late reason honce
  | sending reason =>
    cases h
    exact .send reason
  | closing =>
    cases h
    exact .finish

theorem move_await {pending : List Inbound} (msg : Inbound) (hmain : s.main = .awaiting pending) :
    Move env s (.receive msg)
      (Session.await env { s with received := s.received ++ [msg] } pending msg) := by
  unfold Session.await
  split
  · rename_i htype
    split
    · rename_i hok
      exact .acked hmain htype hok
    · exact .rejected _ hmain htype
  · exact .kept hmain

/-- **Every step is one of the moves.** -/
theorem move_of_step {a : Step} (h : s.step env a = some t) : Move env s a t := by
  cases a with
  | sendOpen ok =>
    simp only [Session.step] at h
    split at h
    · rename_i hmain
      cases ok with
      | true =>
        cases h
        exact .opened hmain
      | false =>
        cases h
        exact .openFailed hmain
    · cases h
  | receive msg =>
    simp only [Session.step] at h
    split at h
    · rename_i hmain
      cases h
      exact move_await msg hmain
    · rename_i hmain
      cases h
      exact .received hmain (handled_sendToClient ..)
    · cases h
  | openTimeout =>
    simp only [Session.step] at h
    split at h
    · rename_i hmain
      cases h
      exact .timedOut hmain
    · cases h
  | flush =>
    simp only [Session.step] at h
    split at h
    · rename_i hmain
      cases h
      exact .flushed hmain (handled_sendToClient ..)
    · cases h
  | write err =>
    simp only [Session.step] at h
    split at h
    · rename_i hmain
      cases h
      exact .written hmain (written_afterWrite ..)
    · cases h
  | ping err =>
    simp only [Session.step] at h
    split at h
    · rename_i hmain
      cases err with
      | none =>
        cases h
        exact .pinged hmain
      | some text =>
        cases h
        exact .pingFailed text _ hmain
    · cases h
  | seeDone =>
    simp only [Session.step] at h
    split at h
    · rename_i hmain
      cases h
      exact .sawDone hmain.1 hmain.2
    · cases h
  | mainClose =>
    simp only [Session.step] at h
    split at h
    · rename_i hmain
      obtain ⟨⟨u, next⟩, hclosed, rfl⟩ := Option.map_eq_some_iff.mp h
      exact .failing hmain (closed_of_closeRelay hclosed)
    · rename_i hmain
      obtain ⟨⟨u, next⟩, hclosed, rfl⟩ := Option.map_eq_some_iff.mp h
      exact .leaving hmain (closed_of_closeRelay hclosed)
    · cases h
  | unregister =>
    simp only [Session.step] at h
    split at h
    · rename_i hmain
      cases h
      exact .unregistered hmain
    · cases h
  | read payload =>
    simp only [Session.step] at h
    split at h
    · rename_i hreader
      cases h
      exact .read payload hreader
    · cases h
  | readError text =>
    simp only [Session.step] at h
    split at h
    · rename_i hreader
      cases h
      exact .readFailed text _ hreader
    · cases h
  | sendData ok =>
    simp only [Session.step] at h
    split at h
    · rename_i hreader
      cases ok with
      | true =>
        cases h
        exact .sent hreader
      | false =>
        cases h
        exact .sendFailed hreader
    · cases h
  | readerClose =>
    simp only [Session.step] at h
    split at h
    · rename_i hreader
      obtain ⟨⟨u, next⟩, hclosed, rfl⟩ := Option.map_eq_some_iff.mp h
      exact .readerLeaving hreader (closed_of_closeRelay hclosed)
    · cases h

/-- Only `receive` takes a message from the channel. -/
theorem received_step {a : Step} (h : s.step env a = some t) :
    t.received = s.received ++ match a with
      | .receive msg => [msg]
      | _ => [] := by
  cases move_of_step h with
  | received _ hhandled => cases hhandled <;> rfl
  | flushed _ hhandled => cases hhandled <;> exact (List.append_nil _).symm
  | written _ hwritten => cases hwritten <;> exact (List.append_nil _).symm
  | failing _ hclosed | leaving _ hclosed | readerLeaving _ hclosed =>
    cases hclosed <;> exact (List.append_nil _).symm
  | acked | rejected | kept => rfl
  | opened | openFailed | timedOut | pinged | pingFailed | sawDone | unregistered | read
    | readFailed | sent | sendFailed => exact (List.append_nil _).symm

end Moves

/-! ## The data for the client -/

/-- The data of the binary frames. -/
def binaries (frames : List ClientFrame) : List Bytes :=
  frames.filterMap fun frame => match frame with
    | .binary data => some data
    | _ => none

/-- How many entries at the end of the log are drops. -/
def streak (log : List (Bytes × Outcome)) : Nat :=
  log.foldl (fun n entry => if entry.2 = .dropped then n + 1 else 0) 0

/-- How often an outcome is in the log. -/
def outcomes (outcome : Outcome) (log : List (Bytes × Outcome)) : Nat :=
  log.countP fun entry => entry.2 == outcome

/-- The handler has not begun to leave. -/
def Main.live : Main → Bool
  | .opening => true
  | .awaiting _ => true
  | .running _ => true
  | .writing _ _ => true
  | _ => false

/-- The data that the handler has received and not yet written. -/
def Main.waiting (env : Env) : Main → List Bytes
  | .awaiting pending => env.payloads pending
  | .running rest => env.payloads rest
  | .writing data rest => data :: env.payloads rest
  | _ => []

section Lists

variable {log : List (Bytes × Outcome)} {data : Bytes} {outcome : Outcome}

@[simp] theorem binaries_append (l r : List ClientFrame) :
    binaries (l ++ r) = binaries l ++ binaries r := List.filterMap_append

@[simp] theorem binaries_binary : binaries [.binary data] = [data] := rfl

@[simp] theorem binaries_ping : binaries [.ping] = [] := rfl

@[simp] theorem binaries_close (code : Nat) (text : Str) : binaries [.close code text] = [] := rfl

theorem streak_concat (log : List (Bytes × Outcome)) (entry : Bytes × Outcome) :
    streak (log ++ [entry]) = if entry.2 = .dropped then streak log + 1 else 0 := by
  simp [streak]

theorem outcomes_concat (outcome : Outcome) (log : List (Bytes × Outcome))
    (entry : Bytes × Outcome) :
    outcomes outcome (log ++ [entry]) = outcomes outcome log + if entry.2 = outcome then 1 else 0 :=
      by
  simp [outcomes, List.countP_singleton]

/-- Drops after a log count for its streak. -/
theorem length_le_streak (log : List (Bytes × Outcome)) {drops : List (Bytes × Outcome)}
    (hdrops : ∀ entry ∈ drops, entry.2 = .dropped) : drops.length ≤ streak (log ++ drops) := by
  induction drops using List.reverseRecOn with
  | nil => exact Nat.zero_le _
  | append_singleton drops entry ih =>
    have hlast : entry.2 = .dropped := hdrops entry (by simp)
    have hinit := ih fun e he => hdrops e (List.mem_append_left _ he)
    rw [← List.append_assoc, streak_concat, if_pos hlast]
    simpa using hinit

end Lists

/-- **What the handler does with the robot's data.** -/
structure Delivery (env : Env) (s : Session) : Prop where
  /-- Data is handled in the order in which it was received, and none is left out until the handler
  leaves. -/
  order : ∃ left, env.payloads s.received = s.log.map Prod.fst ++ s.main.waiting env ++ left ∧
    (s.main.live = true → left = [])
  /-- The client gets what was sent. -/
  sent : binaries s.toClient = (s.log.filter fun entry => entry.2 == .sent).map Prod.fst
  relayDataSent : s.relayDataSent = outcomes .sent s.log
  drops : s.writerTimeoutDrops = outcomes .dropped s.log + outcomes .exhausted s.log
  exhausted : s.writerTimeoutBudgetExhausted = outcomes .exhausted s.log
  hardErrors : s.writerHardErrors = outcomes .exhausted s.log + outcomes .failed s.log
  decodeErrors : s.relayDataDecodeErrors ≤ if s.main.live = true then 0 else 1
  /-- The streak is that of the log. -/
  streak : s.main.live = true → s.consecutiveWriterTimeoutStreak = streak s.log
  /-- It stays within the budget. -/
  budget : ∀ pre, pre <+: s.log → (ClientSession.streak pre : Int) ≤ env.budget
  /-- A hard error is the last outcome, and the budget is exhausted only after as many drops as it
  allows. -/
  last : ∀ pre data outcome post, s.log = pre ++ (data, outcome) :: post →
    outcome = .exhausted ∨ outcome = .failed →
    post = [] ∧ s.main.live = false ∧
      (outcome = .exhausted → (ClientSession.streak pre : Int) = env.budget)

section Delivery

variable {env : Env} {s t : Session}

theorem budget_mem (env : Env) : 0 ≤ env.budget ∧ env.budget ≤ 256 :=
  parseGatewayEnvIntDefault_mem env.softTimeoutBudget (by decide) (by decide)

/-- The fields of the writes are as before. -/
structure SameWrites (s t : Session) : Prop where
  log : t.log = s.log := by rfl
  binaries : binaries t.toClient = binaries s.toClient := by
    first
    | exact (binaries_append _ _).trans (List.append_nil _)
    | rfl
  relayDataSent : t.relayDataSent = s.relayDataSent := by rfl
  drops : t.writerTimeoutDrops = s.writerTimeoutDrops := by rfl
  exhausted : t.writerTimeoutBudgetExhausted = s.writerTimeoutBudgetExhausted := by rfl
  hardErrors : t.writerHardErrors = s.writerHardErrors := by rfl
  streak : t.consecutiveWriterTimeoutStreak = s.consecutiveWriterTimeoutStreak := by rfl

namespace Delivery

variable {rest : List Inbound} {data : Bytes}

theorem init : Delivery env (machine env).init where
  order := ⟨[], rfl, fun _ => rfl⟩
  sent := rfl
  relayDataSent := rfl
  drops := rfl
  exhausted := rfl
  hardErrors := rfl
  decodeErrors := Nat.le_refl _
  streak := fun _ => rfl
  budget := by
    intro pre hpre
    obtain rfl : pre = [] := List.prefix_nil.mp hpre
    exact (budget_mem env).1
  last := by
    intro pre data outcome post hlog
    simp [machine] at hlog

/-- A step that writes nothing: `new` is the data it takes from the channel and `gone` the data that
a handler that leaves does not write. -/
theorem quiet (h : Delivery env s) (new gone : List Bytes) (hsame : SameWrites s t)
    (hreceived : env.payloads t.received = env.payloads s.received ++ new)
    (hnew : new = [] ∨ s.main.live = true)
    (hwaiting : s.main.waiting env ++ new = t.main.waiting env ++ gone)
    (hlive : t.main.live = true → s.main.live = true ∧ gone = [])
    (hdecode : t.relayDataDecodeErrors ≤
      s.relayDataDecodeErrors + if s.main.live = true ∧ t.main.live = false then 1 else 0) :
    Delivery env t where
  order := by
    obtain ⟨left, horder, hleft⟩ := h.order
    refine ⟨gone ++ left, ?_, fun ht => ?_⟩
    · rw [hreceived, horder, hsame.log]
      rcases hnew with rfl | hs
      · rw [List.append_nil] at hwaiting
        simp [hwaiting]
      · rw [hleft hs, List.append_nil, List.append_nil, List.append_assoc, hwaiting]
        simp
    · obtain ⟨hs, hgone⟩ := hlive ht
      rw [hgone, hleft hs]
      rfl
  sent := by rw [hsame.binaries, hsame.log, h.sent]
  relayDataSent := by rw [hsame.relayDataSent, hsame.log, h.relayDataSent]
  drops := by rw [hsame.drops, hsame.log, h.drops]
  exhausted := by rw [hsame.exhausted, hsame.log, h.exhausted]
  hardErrors := by rw [hsame.hardErrors, hsame.log, h.hardErrors]
  decodeErrors := by
    have hs := h.decodeErrors
    cases hsl : s.main.live <;> cases htl : t.main.live <;> simp_all
    omega
  streak := by
    intro ht
    rw [hsame.streak, hsame.log, h.streak (hlive ht).1]
  budget := by
    rw [hsame.log]
    exact h.budget
  last := by
    intro pre data outcome post hlog hhard
    rw [hsame.log] at hlog
    obtain ⟨hpost, hs, hexhausted⟩ := h.last pre data outcome post hlog hhard
    refine ⟨hpost, ?_, hexhausted⟩
    by_contra ht
    rw [(hlive (by simpa using ht)).1] at hs
    cases hs

/-- A step of which the handler's data sees nothing. -/
theorem apart (h : Delivery env s) (hsame : SameWrites s t) (hmain : t.main = s.main)
    (hreceived : t.received = s.received)
    (hdecode : t.relayDataDecodeErrors = s.relayDataDecodeErrors) : Delivery env t := by
  refine h.quiet [] [] hsame (by simp [hreceived]) (.inl rfl) (by simp [hmain])
    (fun ht => ⟨by rwa [hmain] at ht, rfl⟩) ?_
  rw [hdecode]
  exact Nat.le_add_right _ _

/-- The handler goes on, or stays, on its way out. -/
theorem leave (h : Delivery env s) (hsame : SameWrites s t) (hreceived : t.received = s.received)
    (ht : t.main.live = false) (hwaiting : t.main.waiting env = [])
    (hdecode : t.relayDataDecodeErrors = s.relayDataDecodeErrors) : Delivery env t := by
  refine h.quiet [] (s.main.waiting env) hsame (by simp [hreceived]) (.inl rfl)
    (by simp [hwaiting]) (fun hlive => by rw [ht] at hlive; cases hlive) ?_
  rw [hdecode]
  exact Nat.le_add_right _ _

/-- A message is handled, `new` of it being new to the handler. -/
theorem handled {u : Session} {msg : Inbound} (h : Delivery env s) (new : List Bytes)
    (hhandled : Handled env u msg rest t) (hsame : SameWrites s u)
    (hdecode : u.relayDataDecodeErrors = s.relayDataDecodeErrors) (hlive : s.main.live = true)
    (hreceived : env.payloads u.received = env.payloads s.received ++ new)
    (hwaiting : s.main.waiting env ++ new = env.payload msg ++ env.payloads rest) :
    Delivery env t := by
  cases hhandled with
  | skip hpayload | data hpayload =>
    exact h.quiet new [] { hsame with } hreceived (.inr hlive)
      (by simpa [hpayload, Main.waiting] using hwaiting) (fun _ => ⟨hlive, rfl⟩)
      (by simp [hdecode])
  | invalid hpayload =>
    rw [hpayload] at hwaiting
    refine h.quiet new (env.payloads rest) { hsame with } hreceived (.inr hlive) hwaiting
      (fun ht => by cases ht) ?_
    rw [if_pos ⟨hlive, rfl⟩]
    simp [hdecode]
  | close text hpayload =>
    rw [hpayload] at hwaiting
    refine h.quiet new (env.payloads rest) { hsame with
      binaries := (binaries_append _ _).trans ((List.append_nil _).trans hsame.binaries) }
      hreceived (.inr hlive) hwaiting (fun ht => by cases ht) ?_
    exact (Nat.le_of_eq hdecode).trans (Nat.le_add_right _ _)

/-- A write has returned: what its outcome changes. -/
structure Wrote (s t : Session) (data : Bytes) (outcome : Outcome) : Prop where
  log : t.log = s.log ++ [(data, outcome)] := by rfl
  received : t.received = s.received := by rfl
  decodeErrors : t.relayDataDecodeErrors = s.relayDataDecodeErrors := by rfl
  binaries : binaries t.toClient = binaries s.toClient ++ if outcome = .sent then [data] else []
  relayDataSent : t.relayDataSent = s.relayDataSent + if outcome = .sent then 1 else 0 := by rfl
  drops : t.writerTimeoutDrops = s.writerTimeoutDrops +
    if outcome = .dropped ∨ outcome = .exhausted then 1 else 0 := by rfl
  exhausted : t.writerTimeoutBudgetExhausted = s.writerTimeoutBudgetExhausted +
    if outcome = .exhausted then 1 else 0 := by rfl
  hardErrors : t.writerHardErrors = s.writerHardErrors +
    if outcome = .exhausted ∨ outcome = .failed then 1 else 0 := by rfl
  streak : t.main.live = true → t.consecutiveWriterTimeoutStreak =
    if outcome = .dropped then s.consecutiveWriterTimeoutStreak + 1 else 0

/-- A hard error in a log with a new entry is the new entry, when there was none before. -/
theorem eq_of_concat {log pre post : List (Bytes × Outcome)} {entry : Bytes × Outcome}
    {outcome : Outcome} (hgood : ∀ e ∈ log, ¬ (e.2 = .exhausted ∨ e.2 = .failed))
    (hlog : log ++ [entry] = pre ++ (data, outcome) :: post)
    (hhard : outcome = .exhausted ∨ outcome = .failed) :
    pre = log ∧ entry = (data, outcome) ∧ post = [] := by
  rcases List.eq_nil_or_concat post with rfl | ⟨post', x, rfl⟩
  · obtain ⟨hpre, hentry⟩ := List.append_inj' hlog rfl
    exact ⟨hpre.symm, by simpa using hentry, rfl⟩
  · rw [List.concat_eq_append, ← List.cons_append, ← List.append_assoc] at hlog
    have hmem : (data, outcome) ∈ log := by
      rw [(List.append_inj' hlog rfl).1]
      simp
    exact absurd hhard (hgood _ hmem)

/-- A write returns, and the handler goes on to the `rest` or leaves. -/
theorem wrote (h : Delivery env s) (outcome : Outcome) (hmain : s.main = .writing data rest)
    (hwrote : Wrote s t data outcome)
    (hnext : t.main = .running rest ∧ (outcome = .sent ∨ outcome = .dropped) ∨
      t.main.live = false ∧ t.main.waiting env = [])
    (hdropped : outcome = .dropped → (s.consecutiveWriterTimeoutStreak : Int) + 1 ≤ env.budget)
    (hexhausted : outcome = .exhausted →
      env.budget < (s.consecutiveWriterTimeoutStreak : Int) + 1) : Delivery env t := by
  have hlive : s.main.live = true := by rw [hmain]; rfl
  have hstreak := h.streak hlive
  have hbudget := h.budget s.log (List.prefix_refl _)
  -- no hard error so far, for the handler is at work
  have hgood : ∀ e ∈ s.log, ¬ (e.2 = .exhausted ∨ e.2 = .failed) := by
    intro e he hhard
    obtain ⟨pre, post, hlog⟩ := List.append_of_mem he
    have hdead := (h.last pre e.1 e.2 post hlog hhard).2.1
    rw [hlive] at hdead
    cases hdead
  exact {
    order := by
      obtain ⟨left, horder, hleft⟩ := h.order
      rw [hleft hlive, hmain, List.append_nil] at horder
      rw [hwrote.received, hwrote.log, horder]
      rcases hnext with ⟨hnext, -⟩ | ⟨hdead, hwaiting⟩
      · exact ⟨[], by simp [hnext, Main.waiting], fun _ => rfl⟩
      · refine ⟨env.payloads rest, ?_, fun ht => ?_⟩
        · rw [hwaiting]
          simp [Main.waiting]
        · rw [hdead] at ht
          cases ht
    sent := by
      rw [hwrote.binaries, hwrote.log, h.sent]
      cases outcome <;> simp
    relayDataSent := by rw [hwrote.relayDataSent, hwrote.log, outcomes_concat, h.relayDataSent]
    drops := by
      rw [hwrote.drops, hwrote.log, outcomes_concat, outcomes_concat, h.drops]
      cases outcome <;> simp <;> omega
    exhausted := by rw [hwrote.exhausted, hwrote.log, outcomes_concat, h.exhausted]
    hardErrors := by
      rw [hwrote.hardErrors, hwrote.log, outcomes_concat, outcomes_concat, h.hardErrors]
      cases outcome <;> simp <;> omega
    decodeErrors := by
      have hle := h.decodeErrors
      rw [if_pos hlive] at hle
      rw [hwrote.decodeErrors]
      exact hle.trans (Nat.zero_le _)
    streak := by
      intro ht
      rw [hwrote.streak ht, hwrote.log, streak_concat, hstreak]
    budget := by
      intro pre hpre
      rw [hwrote.log] at hpre
      rcases List.prefix_concat_iff.mp hpre with rfl | hold
      · rw [streak_concat]
        split_ifs with hout
        · rw [← hstreak]
          push_cast
          exact hdropped hout
        · exact (budget_mem env).1
      · exact h.budget pre hold
    last := by
      intro pre e o post hlog hhard
      rw [hwrote.log] at hlog
      obtain ⟨rfl, hentry, rfl⟩ := eq_of_concat hgood hlog hhard
      obtain ⟨-, rfl⟩ := Prod.mk.inj hentry
      refine ⟨rfl, ?_, fun ho => ?_⟩
      · rcases hnext with ⟨-, hsoft⟩ | ⟨hdead, -⟩
        · rcases hhard with rfl | rfl <;> simp at hsoft
        · exact hdead
      · have hlt := hexhausted ho
        rw [hstreak] at hlt
        omega }

theorem written (h : Delivery env s) (hmain : s.main = .writing data rest)
    (hwritten : Written env s data rest t) : Delivery env t := by
  cases hwritten with
  | sent =>
    exact h.wrote .sent hmain
      { binaries := binaries_append _ _, streak := fun _ => rfl } (.inl ⟨rfl, .inl rfl⟩)
      (fun ho => by cases ho) (fun ho => by cases ho)
  | dropped hle =>
    exact h.wrote .dropped hmain
      { binaries := (List.append_nil _).symm, streak := fun _ => rfl } (.inl ⟨rfl, .inr rfl⟩)
      (fun _ => hle) (fun ho => by cases ho)
  | exhausted reason hlt =>
    exact h.wrote .exhausted hmain
      { binaries := (List.append_nil _).symm, streak := (fun ht => by cases ht) } (.inr ⟨rfl, rfl⟩)
      (fun ho => by cases ho) (fun _ => hlt)
  | failed reason =>
    exact h.wrote .failed hmain
      { binaries := (List.append_nil _).symm, streak := (fun ht => by cases ht) } (.inr ⟨rfl, rfl⟩)
      (fun ho => by cases ho) (fun ho => by cases ho)

/-- An operation of a `closeRelay`, of whichever goroutine. -/
theorem closed {call : CloseCall} {next : Option CloseCall} (h : Delivery env s)
    (hclosed : Closed s call t next) : Delivery env t := by
  cases hclosed with
  | enter reason honce | send reason | finish => exact h.apart {} rfl rfl rfl
  | late reason honce => exact h

theorem failNext (h : Delivery env s) (next : Option CloseCall) :
    Delivery env (s.failNext next) := by
  cases next <;> exact h.leave {} rfl rfl rfl rfl

theorem leaveNext (h : Delivery env s) (next : Option CloseCall) :
    Delivery env (s.leaveNext next) := by
  cases next <;> exact h.leave {} rfl rfl rfl rfl

theorem readerNext (h : Delivery env s) (next : Option CloseCall) :
    Delivery env (s.readerNext next) := by
  cases next <;> exact h.apart {} rfl rfl rfl

/-- A step keeps the delivery invariant. -/
theorem step {a : Step} (h : Delivery env s) (hstep : s.step env a = some t) : Delivery env t := by
  cases move_of_step hstep with
  | opened hmain =>
    exact h.quiet [] [] {} (by simp) (.inl rfl) (by simp [hmain, Main.waiting])
      (fun _ => ⟨by simp [hmain, Main.live], rfl⟩) (Nat.le_add_right _ _)
  | openFailed hmain | timedOut hmain | pingFailed text reason hmain | sawDone hmain hdone
    | unregistered hmain => exact h.leave {} rfl rfl rfl rfl
  | @acked pending msg hmain htype hok =>
    exact h.quiet [] [] {} (by simp [env.payload_of_type, htype]) (.inl rfl)
      (by simp [hmain, Main.waiting]) (fun _ => ⟨by simp [hmain, Main.live], rfl⟩)
      (Nat.le_add_right _ _)
  | @rejected pending msg text hmain htype =>
    exact h.quiet [] (env.payloads pending) {}
      (by simp [env.payload_of_type, htype]) (.inl rfl)
      (by simp [hmain, Main.waiting]) (fun ht => by cases ht) (Nat.le_add_right _ _)
  | @kept pending msg hmain =>
    exact h.quiet (env.payload msg) [] {} (by simp)
      (.inr (by simp [hmain, Main.live])) (by simp [hmain, Main.waiting])
      (fun _ => ⟨by simp [hmain, Main.live], rfl⟩) (Nat.le_add_right _ _)
  | @received msg _ hmain hhandled =>
    exact h.handled (env.payload msg) hhandled {} rfl (by simp [hmain, Main.live]) (by simp)
      (by simp [hmain, Main.waiting])
  | @flushed msg rest _ hmain hhandled =>
    exact h.handled [] hhandled {} rfl (by simp [hmain, Main.live]) (by simp)
      (by simp [hmain, Main.waiting])
  | written hmain hwritten => exact h.written hmain hwritten
  | pinged hmain | read payload hreader | readFailed text reason hreader | sent hreader
    | sendFailed hreader => exact h.apart {} rfl rfl rfl
  | failing hmain hclosed => exact (h.closed hclosed).failNext _
  | leaving hmain hclosed => exact (h.closed hclosed).leaveNext _
  | readerLeaving hreader hclosed => exact (h.closed hclosed).readerNext _

/-- The delivery invariant holds in every run. -/
theorem of_run {steps : List Step} (hrun : (machine env).run (machine env).init steps = some s) :
    Delivery env s :=
  (machine env).run_invariant (fun _ _ _ h hstep => h.step hstep) init hrun

end Delivery

end Delivery

/-! ## The calls of `SendRelay` -/

namespace Outbound

def isOpen : Outbound → Bool
  | .relayOpen _ => true
  | _ => false

def isClose : Outbound → Bool
  | .relayClose _ => true
  | _ => false

def data? : Outbound → Option Str
  | .relayData data => some data
  | _ => none

end Outbound

namespace CloseCall

/-- The call is in the function of `closeOnce`. -/
def inside : CloseCall → Bool
  | .entering _ => false
  | _ => true

/-- It has called `SendRelay`. -/
def called : CloseCall → Bool
  | .closing => true
  | _ => false

def reason? : CloseCall → Option Str
  | .entering reason => some reason
  | .sending reason => some reason
  | .closing => none

end CloseCall

/-- The calls of `closeRelay` that are under way. -/
def Main.calls : Main → List CloseCall
  | .failing call => [call]
  | .leaving call => [call]
  | _ => []

def Reader.calls : Reader → List CloseCall
  | .leaving call => [call]
  | _ => []

def Session.calls (s : Session) : List CloseCall := s.main.calls ++ s.reader.calls

/-- The client's data that the reader has not yet given to `SendRelay`. -/
def Reader.inHand : Reader → List Bytes
  | .sending payload => [payload]
  | _ => []

/-- The reasons `closeRelay` is called with. -/
def closeReasons : List Str :=
  ["client_disconnected".toList, "client_reader_closed".toList, "invalid_relay_payload".toList]

/-- **What `SendRelay` is called with.** -/
structure Handed (env : Env) (s : Session) : Prop where
  /-- The client's data is passed on in order. -/
  data : s.relayCalls.filterMap Outbound.data? ++ s.reader.inHand.map env.encodeToString =
    s.fromClient.map env.encodeToString
  /-- One call at most is in the function of `closeOnce`. -/
  holders : s.calls.countP CloseCall.inside = if s.closeOnce = .running then 1 else 0
  closes : s.relayCalls.countP Outbound.isClose =
    (if s.closeOnce = .done then 1 else 0) + s.calls.countP CloseCall.called
  /-- The reasons are those of `closeRelay`. -/
  errors : ∀ text, .relayClose text ∈ s.relayCalls → text ∈ closeReasons
  calls : ∀ call ∈ s.calls, ∀ reason, call.reason? = some reason → reason ∈ closeReasons

section Handed

variable {env : Env} {s t : Session}

theorem trimSpace_closeReason {reason : Str} (h : reason ∈ closeReasons) :
    trimSpace reason = reason := by
  revert reason
  decide

theorem CloseCall.called_le_inside (call : CloseCall) :
    call.called = true → call.inside = true := by
  cases call <;> simp [called, inside]

namespace Handed

variable {call : CloseCall} {u : Session} {next : Option CloseCall}

theorem init : Handed env (machine env).init where
  data := rfl
  holders := rfl
  closes := rfl
  errors := by simp [machine]
  calls := by simp [machine, Session.calls, Main.calls, Reader.calls]

/-- A step outside `closeRelay`: the calls stay, or one begins; what the reader has in hand may be
given to `SendRelay`, and `sent` is what is. -/
theorem apart (h : Handed env s) (sent : List Outbound) (began : List CloseCall)
    (hsent : ∀ msg ∈ sent, msg.isClose = false)
    (hbegan : ∀ call ∈ began, ∃ reason ∈ closeReasons, call = .entering reason)
    (hrobot : t.relayCalls = s.relayCalls ++ sent) (hcalls : t.calls.Perm (began ++ s.calls))
    (honce : t.closeOnce = s.closeOnce)
    (hdata : ∃ new, t.fromClient = s.fromClient ++ new ∧
      sent.filterMap Outbound.data? ++ t.reader.inHand.map env.encodeToString =
        (s.reader.inHand ++ new).map env.encodeToString) : Handed env t where
  data := by
    obtain ⟨new, hclient, hhand⟩ := hdata
    rw [hrobot, hclient, List.filterMap_append, List.append_assoc, hhand, List.map_append,
      ← List.append_assoc, h.data, List.map_append]
  holders := by
    have hnone : began.countP CloseCall.inside = 0 := by
      refine List.countP_eq_zero.mpr fun call hmem => ?_
      obtain ⟨reason, -, rfl⟩ := hbegan call hmem
      simp [CloseCall.inside]
    rw [hcalls.countP_eq, List.countP_append, hnone, Nat.zero_add, h.holders, honce]
  closes := by
    have hnone : began.countP CloseCall.called = 0 := by
      refine List.countP_eq_zero.mpr fun call hmem => ?_
      obtain ⟨reason, -, rfl⟩ := hbegan call hmem
      simp [CloseCall.called]
    have hquiet : sent.countP Outbound.isClose = 0 :=
      List.countP_eq_zero.mpr fun msg hmem => by simp [hsent msg hmem]
    rw [hcalls.countP_eq, List.countP_append, hnone, Nat.zero_add, hrobot, List.countP_append,
      hquiet, h.closes, honce, Nat.add_zero]
  errors := by
    intro text hmem
    rw [hrobot] at hmem
    rcases List.mem_append.mp hmem with hold | hnew
    · exact h.errors text hold
    · have := hsent _ hnew
      simp [Outbound.isClose] at this
  calls := by
    intro call hmem reason hreason
    rcases List.mem_append.mp (hcalls.mem_iff.mp hmem) with hnew | hold
    · obtain ⟨reason', hin, rfl⟩ := hbegan call hnew
      obtain rfl : reason' = reason := by simpa [CloseCall.reason?] using hreason
      exact hin
    · exact h.calls call hold reason hreason

/-- A step that neither begins a call nor concerns the client's data. -/
theorem same (h : Handed env s) (hrobot : t.relayCalls = s.relayCalls) (hcalls : t.calls = s.calls)
    (honce : t.closeOnce = s.closeOnce) (hclient : t.fromClient = s.fromClient)
    (hhand : t.reader.inHand = s.reader.inHand) : Handed env t :=
  h.apart [] [] (by simp) (by simp) (by simp [hrobot]) (by simp [hcalls]) honce
    ⟨[], by simp [hclient], by simp [hhand]⟩

/-- A call begins. -/
theorem began (h : Handed env s) {reason : Str} (hreason : reason ∈ closeReasons)
    (hrobot : t.relayCalls = s.relayCalls) (hcalls : t.calls.Perm (.entering reason :: s.calls))
    (honce : t.closeOnce = s.closeOnce) (hclient : t.fromClient = s.fromClient)
    (hhand : t.reader.inHand = s.reader.inHand) : Handed env t :=
  h.apart [] [.entering reason] (by simp) (by simpa using hreason) (by simp [hrobot]) hcalls honce
    ⟨[], by simp [hclient], by simp [hhand]⟩

/-- An operation of a call, `others` being the calls beside it; `t` is the state in which its
goroutine has moved on, with `now` for the call. -/
theorem closed (h : Handed env s) (hclosed : Closed s call u next) {others : List CloseCall}
    (now : List CloseCall) (hcalls : s.calls.Perm (call :: others))
    (hnow : t.calls.Perm (now ++ others))
    (hnext : now = next.toList ∨ ∃ reason ∈ closeReasons, next = none ∧ now = [.entering reason])
    (hrobot : t.relayCalls = u.relayCalls) (hclient : t.fromClient = u.fromClient)
    (honce : t.closeOnce = u.closeOnce) (hhand : t.reader.inHand = s.reader.inHand) :
    Handed env t := by
  have hholders := h.holders
  have hcloses := h.closes
  rw [hcalls.countP_eq, List.countP_cons] at hholders hcloses
  have hcount : ∀ p : CloseCall → Bool, (∀ reason, p (.entering reason) = false) →
      t.calls.countP p = next.toList.countP p + others.countP p := by
    intro p hp
    rw [hnow.countP_eq, List.countP_append]
    rcases hnext with rfl | ⟨reason, -, rfl, rfl⟩
    · rfl
    · simp [hp]
  have hrunning : call.inside = true →
      s.closeOnce = .running ∧ others.countP CloseCall.inside = 0 := by
    intro hinside
    rw [if_pos hinside] at hholders
    split at hholders
    · exact ⟨‹_›, Nat.succ.inj hholders⟩
    · cases hholders
  have hreason : ∀ reason, call.reason? = some reason → reason ∈ closeReasons :=
    h.calls call (hcalls.mem_iff.mpr List.mem_cons_self)
  -- the call goes on with the reason it has
  have hnextReason : ∀ c ∈ next, ∀ reason, c.reason? = some reason →
      call.reason? = some reason := by
    intro c hc reason hr
    cases hclosed with
    | enter reason' _ =>
      cases hc
      exact hr
    | late | finish => cases hc
    | send =>
      cases hc
      cases hr
  refine { data := ?_, holders := ?_, closes := ?_, errors := ?_, calls := ?_ }
  · have hdata := h.data
    rw [hrobot, hclient, hhand]
    cases hclosed with
    | send reason => simpa [List.filterMap_append, List.filterMap_cons, Outbound.data?] using hdata
    | enter | late | finish => exact hdata
  · rw [hcount _ fun _ => rfl, honce]
    cases hclosed with
    | enter reason hfree => simpa [CloseCall.inside, hfree] using hholders
    | late reason hended => simpa [CloseCall.inside] using hholders
    | send reason =>
      rw [Nat.add_comm]
      exact hholders
    | finish => simpa [CloseCall.inside] using (hrunning rfl).2
  · rw [hcount _ fun _ => rfl, honce, hrobot]
    cases hclosed with
    | enter reason hfree => simpa [CloseCall.called, hfree, Session.setCloseReason] using hcloses
    | late reason hended => simpa [CloseCall.called] using hcloses
    | send reason =>
      simp only [CloseCall.called, (hrunning rfl).1] at hcloses ⊢
      simp only [List.countP_append, hcloses, List.countP_singleton, Outbound.isClose]
      simp [CloseCall.called, Nat.add_comm]
    | finish =>
      simp only [CloseCall.called, (hrunning rfl).1] at hcloses ⊢
      simpa [Nat.add_comm] using hcloses
  · intro text hmem
    rw [hrobot] at hmem
    cases hclosed with
    | send reason =>
      rcases List.mem_append.mp hmem with hold | hnew
      · exact h.errors text hold
      · have hin := hreason reason rfl
        obtain rfl : text = trimSpace reason := by simpa using hnew
        rwa [trimSpace_closeReason hin]
    | enter | late | finish => exact h.errors text hmem
  · intro c hmem reason hr
    rcases List.mem_append.mp (hnow.mem_iff.mp hmem) with hc | hc
    · rcases hnext with rfl | ⟨reason', hin, -, rfl⟩
      · exact hreason reason (hnextReason c (by simpa using hc) reason hr)
      · obtain rfl : c = .entering reason' := by simpa using hc
        obtain rfl : reason' = reason := by simpa [CloseCall.reason?] using hr
        exact hin
    · exact h.calls c (hcalls.mem_iff.mpr (List.mem_cons_of_mem _ hc)) reason hr

/-- The handler, that is in no call, begins to leave. -/
theorem mainBegan (h : Handed env s) (hmain : s.main.calls = []) {reason : Str}
    (hreason : reason ∈ closeReasons) (hrobot : t.relayCalls = s.relayCalls)
    (hnow : t.main.calls = [.entering reason]) (hreader : t.reader = s.reader)
    (honce : t.closeOnce = s.closeOnce) (hclient : t.fromClient = s.fromClient) : Handed env t := by
  refine h.began hreason hrobot (List.Perm.of_eq ?_) honce hclient (by rw [hreader])
  simp [Session.calls, hmain, hnow, hreader]

/-- The handler moves, in no call before or after. -/
theorem mainMoved (h : Handed env s) (hmain : s.main.calls = [])
    (hrobot : t.relayCalls = s.relayCalls) (hnow : t.main.calls = [])
    (hreader : t.reader = s.reader) (honce : t.closeOnce = s.closeOnce)
    (hclient : t.fromClient = s.fromClient) : Handed env t :=
  h.same hrobot (by simp [Session.calls, hmain, hnow, hreader]) honce hclient (by rw [hreader])

/-- Handling a message keeps `Handed`. -/
theorem handled {msg : Inbound} {rest : List Inbound} (h : Handed env s) (hmain : s.main.calls = [])
    (hhandled : Handled env s msg rest t) : Handed env t := by
  cases hhandled with
  | skip | data => exact h.mainMoved hmain rfl rfl rfl rfl rfl
  | invalid | close => exact h.mainBegan hmain (by decide) rfl rfl rfl rfl rfl

/-- The end of a write keeps `Handed`. -/
theorem written {data : Bytes} {rest : List Inbound} (h : Handed env s) (hmain : s.main.calls = [])
    (hwritten : Written env s data rest t) : Handed env t := by
  cases hwritten with
  | sent | dropped => exact h.mainMoved hmain rfl rfl rfl rfl rfl
  | exhausted | failed => exact h.mainBegan hmain (by decide) rfl rfl rfl rfl rfl

/-- The reader begins to leave, after what it has `sent`. -/
theorem readerBegan (h : Handed env s) (sent : List Outbound)
    (hsent : ∀ msg ∈ sent, msg.isClose = false) (hcalls : s.reader.calls = [])
    (hrobot : t.relayCalls = s.relayCalls ++ sent) (hmain : t.main = s.main)
    (hnow : t.reader = .leaving (.entering "client_reader_closed".toList))
    (honce : t.closeOnce = s.closeOnce) (hclient : t.fromClient = s.fromClient)
    (hdata : sent.filterMap Outbound.data? = s.reader.inHand.map env.encodeToString) :
    Handed env t := by
  refine h.apart sent [.entering "client_reader_closed".toList] hsent (by decide) hrobot ?_ honce
    ⟨[], by simp [hclient], ?_⟩
  · rw [Session.calls, Session.calls, hmain, hnow, hcalls]
    simp [Reader.calls]
  · simp [hdata, hnow, Reader.inHand]

/-- The `relay_open` is given to `SendRelay`. -/
theorem opened (h : Handed env s) (hmain : s.main.calls = []) {port : Int}
    (hrobot : t.relayCalls = s.relayCalls ++ [.relayOpen port]) (hnow : t.main.calls = [])
    (hreader : t.reader = s.reader) (honce : t.closeOnce = s.closeOnce)
    (hclient : t.fromClient = s.fromClient) : Handed env t := by
  refine h.apart [.relayOpen port] [] (by simp [Outbound.isClose]) (by simp) hrobot ?_ honce
    ⟨[], by simp [hclient], by simp [hreader, Outbound.data?, List.filterMap_cons]⟩
  exact List.Perm.of_eq (by simp [Session.calls, hmain, hnow, hreader])

/-- A failed opening's `closeRelay` keeps `Handed`. -/
theorem failing (h : Handed env s) (hmain : s.main = .failing call)
    (hclosed : Closed s call u next) : Handed env (u.failNext next) := by
  have hcalls : s.calls = call :: s.reader.calls := by rw [Session.calls, hmain]; rfl
  have hreader : (u.failNext next).reader = s.reader := by
    cases hclosed <;> rfl
  cases next with
  | some c =>
    refine h.closed hclosed [c] (.of_eq hcalls) (.of_eq ?_) (.inl rfl) rfl rfl rfl
      (by rw [hreader])
    rw [Session.calls, hreader]
    rfl
  | none =>
    refine h.closed hclosed [.entering "client_disconnected".toList] (.of_eq hcalls) (.of_eq ?_)
      (.inr ⟨_, by decide, rfl, rfl⟩) rfl rfl rfl (by rw [hreader])
    rw [Session.calls, hreader]
    rfl

/-- The main loop's `closeRelay` keeps `Handed`. -/
theorem leaving (h : Handed env s) (hmain : s.main = .leaving call)
    (hclosed : Closed s call u next) : Handed env (u.leaveNext next) := by
  have hcalls : s.calls = call :: s.reader.calls := by rw [Session.calls, hmain]; rfl
  have hreader : (u.leaveNext next).reader = s.reader := by
    cases hclosed <;> rfl
  have hnow : (u.leaveNext next).calls = next.toList ++ s.reader.calls := by
    rw [Session.calls, hreader]
    cases next <;> rfl
  refine h.closed hclosed _ (.of_eq hcalls) (.of_eq hnow) (.inl rfl) ?_ ?_ ?_ (by rw [hreader])
  all_goals cases next <;> rfl

/-- The reader's `closeRelay` keeps `Handed`. -/
theorem readerLeaving (h : Handed env s) (hreader : s.reader = .leaving call)
    (hclosed : Closed s call u next) : Handed env (u.readerNext next) := by
  have hcalls : s.calls.Perm (call :: s.main.calls) := by
    rw [Session.calls, hreader]
    exact List.perm_append_singleton _ _
  have hmain : (u.readerNext next).main = s.main := by
    cases hclosed <;> rfl
  have hnow : (u.readerNext next).calls.Perm (next.toList ++ s.main.calls) := by
    rw [Session.calls, hmain]
    cases next <;> exact List.perm_append_comm
  refine h.closed hclosed _ hcalls hnow (.inl rfl) ?_ ?_ ?_ ?_
  · cases next <;> rfl
  · cases next <;> rfl
  · cases next <;> rfl
  · rw [hreader]
    cases next <;> rfl

/-- A step keeps `Handed`. -/
theorem step {a : Step} (h : Handed env s)
    (habsent : ∀ pending, s.main = .awaiting pending → s.reader = .absent)
    (hstep : s.step env a = some t) : Handed env t := by
  cases move_of_step hstep with
  | opened hmain | openFailed hmain => exact h.opened (by rw [hmain]; rfl) rfl rfl rfl rfl rfl
  | @acked pending _ hmain htype hok =>
    have hreader := habsent pending hmain
    refine h.same rfl ?_ rfl rfl (by rw [hreader]; rfl)
    rw [Session.calls, Session.calls, hmain, hreader]
    rfl
  | rejected text hmain htype | kept hmain | timedOut hmain | unregistered hmain =>
    exact h.mainMoved (by rw [hmain]; rfl) rfl rfl rfl rfl rfl
  | @received msg t hmain hhandled =>
    have hkept : Handed env { s with received := s.received ++ [msg] } := h.same rfl rfl rfl rfl rfl
    exact hkept.handled (by rw [hmain]; rfl) hhandled
  | flushed hmain hhandled => exact h.handled (by rw [hmain]; rfl) hhandled
  | written hmain hwritten => exact h.written (by rw [hmain]; rfl) hwritten
  | pinged hmain => exact h.same rfl rfl rfl rfl rfl
  | pingFailed text reason hmain | sawDone hmain hdone =>
    exact h.mainBegan (by rw [hmain]; rfl) (by decide) rfl rfl rfl rfl rfl
  | failing hmain hclosed => exact h.failing hmain hclosed
  | leaving hmain hclosed => exact h.leaving hmain hclosed
  | read payload hreader =>
    refine h.apart [] [] (by simp) (by simp) (by simp) ?_ rfl ⟨[payload], rfl, ?_⟩
    · exact List.Perm.of_eq (by simp [Session.calls, hreader, Reader.calls])
    · simp [hreader, Reader.inHand]
  | readFailed text reason hreader =>
    exact h.readerBegan [] (by simp) (by rw [hreader]; rfl) (List.append_nil _).symm rfl rfl rfl
      rfl (by simp [hreader, Reader.inHand])
  | @sent payload hreader =>
    refine h.apart [.relayData (env.encodeToString payload)] [] (by simp [Outbound.isClose])
      (by simp) rfl ?_ rfl ⟨[], (List.append_nil _).symm, ?_⟩
    · exact List.Perm.of_eq (by simp [Session.calls, hreader, Reader.calls])
    · simp [hreader, Reader.inHand, Outbound.data?]
  | sendFailed hreader =>
    exact h.readerBegan [_] (by simp [Outbound.isClose]) (by rw [hreader]; rfl) rfl rfl rfl rfl
      rfl (by simp [hreader, Reader.inHand, Outbound.data?])
  | readerLeaving hreader hclosed => exact h.readerLeaving hreader hclosed

end Handed

end Handed

/-! ## Why the relay was closed -/

/-- The reason is as before, or `setCloseReason` was called. -/
def Said (s t : Session) : Prop :=
  t.closeReason = s.closeReason ∨ ∃ reason, t.closeReason = (s.setCloseReason reason).closeReason

section Reasons

variable {env : Env} {s t : Session} {reason : Str}

theorem Said.handled {msg : Inbound} {rest : List Inbound} (h : Handled env s msg rest t) :
    Said s t := by
  cases h with
  | skip | invalid | data => exact .inl rfl
  | close text => exact .inr ⟨_, rfl⟩

theorem Said.written {data : Bytes} {rest : List Inbound} (h : Written env s data rest t) :
    Said s t := by
  cases h with
  | sent | dropped => exact .inl rfl
  | exhausted reason | failed reason => exact .inr ⟨reason, rfl⟩

theorem Said.closed {call : CloseCall} {next : Option CloseCall} (h : Closed s call t next) :
    Said s t := by
  cases h with
  | enter reason => exact .inr ⟨reason, rfl⟩
  | late | send | finish => exact .inl rfl

/-- A step keeps the reason, or calls `setCloseReason`. -/
theorem said_of_step {a : Step} (hstep : s.step env a = some t) : Said s t := by
  cases move_of_step hstep with
  | opened | acked | kept | pinged | sawDone | unregistered | read | sent => exact .inl rfl
  | openFailed | rejected | timedOut | pingFailed | readFailed | sendFailed =>
    exact .inr ⟨_, rfl⟩
  | received _ hhandled =>
    have hsaid := Said.handled hhandled
    exact hsaid
  | flushed _ hhandled => exact Said.handled hhandled
  | written _ hwritten => exact Said.written hwritten
  | @failing _ _ next _ hclosed | @leaving _ _ next _ hclosed | @readerLeaving _ _ next _ hclosed =>
    have hsaid := Said.closed hclosed
    cases next <;> exact hsaid

/-- The first reason stays. -/
theorem Said.kept (h : Said s t) (hs : s.closeReason = some reason) :
    t.closeReason = some reason := by
  rcases h with heq | ⟨new, heq⟩
  · rw [heq, hs]
  · rw [heq, Session.setCloseReason, hs]
    rfl

/-- Where there was a reason, there is one. -/
theorem Said.ne_none (h : Said s t) (hs : s.closeReason ≠ none) : t.closeReason ≠ none := by
  obtain ⟨reason, hreason⟩ := Option.ne_none_iff_exists'.mp hs
  rw [h.kept hreason]
  exact Option.some_ne_none _

/-- A reason is never blank. -/
theorem Said.ne_nil (h : Said s t) (hs : ∀ reason ∈ s.closeReason, reason ≠ []) :
    ∀ reason ∈ t.closeReason, reason ≠ [] := by
  intro reason hreason
  rcases h with heq | ⟨new, heq⟩
  · exact hs reason (heq ▸ hreason)
  · rw [heq, Session.setCloseReason, Option.mem_def, Option.or_eq_some_iff] at hreason
    rcases hreason with hold | ⟨-, hnew⟩
    · exact hs reason hold
    · split at hnew
      · cases hnew
      · cases hnew
        assumption

/-- A close reason stays for the rest of a run. -/
theorem closeReason_of_run {steps : List Step} (hrun : (machine env).run s steps = some t)
    (hs : s.closeReason = some reason) : t.closeReason = some reason :=
  (machine env).run_invariant (I := fun t => t.closeReason = some reason)
    (fun _ _ _ hu hstep => (said_of_step hstep).kept hu) hs hrun

/-- What is said with more than space leaves a reason. -/
theorem isSome_setCloseReason (s : Session) (h : trimSpace reason ≠ []) :
    (s.setCloseReason reason).closeReason ≠ none := by
  simp [Session.setCloseReason, h]

end Reasons

/-! ## The stages of a session -/

/-- How far the handler is. -/
inductive Stage where
  | opening
  | awaiting
  | established
  | ended
  deriving DecidableEq, Repr

def Main.stage : Main → Stage
  | .opening => .opening
  | .awaiting _ => .awaiting
  | .unregistering => .ended
  | .returned => .ended
  | _ => .established

/-- The acknowledgement that establishes the relay. -/
def Env.isAck (env : Env) (msg : Inbound) : Prop :=
  msg.type = .relayOpenAck ∧ equalFold env.fold (trimSpace msg.status) "ok".toList = true

/-- **How far the session is.** -/
structure Staged (env : Env) (s : Session) : Prop where
  opening : s.main.stage = .opening → s.relayCalls = []
  /-- `SendRelay` is called for one `relay_open`, before anything else. -/
  opened : s.main.stage ≠ .opening → ∃ rest, s.relayCalls = .relayOpen env.port :: rest ∧
    ∀ msg ∈ rest, msg.isOpen = false
  /-- The reader is there from the acknowledgement on. -/
  absent : s.reader = .absent → s.closeOnce = .free ∧ s.log = [] ∧ s.main.stage ≠ .established
  present : s.reader ≠ .absent → (∃ ack ∈ s.received, env.isAck ack) ∧
    (s.main.stage = .established ∨ s.main.stage = .ended)
  /-- A handler that has left has seen the relay closed. -/
  ended : s.main.stage = .ended → s.reader ≠ .absent → s.closeOnce = .done
  registered : s.registered = true ↔ s.main ≠ .returned
  /-- A relay that is closed was closed for a reason. -/
  reason : s.closeOnce ≠ .free ∨ s.main.stage = .ended → s.closeReason ≠ none

section Staged

variable {env : Env} {s t : Session} {call : CloseCall}

/-- A call that returns leaves the relay closed. -/
theorem Closed.done_of_none (h : Closed s call t none) : t.closeOnce = .done := by
  cases h with
  | late _ hdone => exact hdone
  | finish => rfl

theorem Closed.goroutines_eq {next : Option CloseCall} (h : Closed s call t next) :
    t.main = s.main ∧ t.reader = s.reader := by
  cases h <;> exact ⟨rfl, rfl⟩

/-- A call in the function of `closeOnce` has it running. -/
theorem Handed.running_of_inside (h : Handed env s) (hmem : call ∈ s.calls)
    (hinside : call.inside = true) : s.closeOnce = .running := by
  have hholders := h.holders
  have hpos : 0 < s.calls.countP CloseCall.inside := List.countP_pos_iff.mpr ⟨call, hmem, hinside⟩
  rw [hholders] at hpos
  split at hpos
  · assumption
  · cases hpos

theorem Handed.trimSpace_ne_nil (h : Handed env s) (hmem : call ∈ s.calls) {reason : Str}
    (hcall : call = .entering reason) : trimSpace reason ≠ [] := by
  have hin := h.calls call hmem reason (by rw [hcall]; rfl)
  have hall : ∀ reason ∈ closeReasons, trimSpace reason ≠ [] := by decide
  exact hall reason hin

namespace Staged

variable {call : CloseCall} {next : Option CloseCall}

theorem init : Staged env (machine env).init where
  opening := fun _ => rfl
  opened := fun h => absurd rfl h
  absent := fun _ => ⟨rfl, rfl, fun h => by cases h⟩
  present := fun h => absurd rfl h
  ended := fun h => by cases h
  registered := ⟨fun _ h => (by cases h), fun _ => rfl⟩
  reason := by
    rintro (h | h)
    · exact absurd rfl h
    · cases h

/-- The handler goes on with the established relay. -/
theorem work (h : Staged env s) (hsaid : Said s t) (hs : s.main.stage = .established)
    (ht : t.main.stage = .established) (hreader : t.reader = s.reader)
    (honce : t.closeOnce = s.closeOnce) (hrobot : t.relayCalls = s.relayCalls)
    (hreg : t.registered = s.registered) (hreceived : ∀ msg ∈ s.received, msg ∈ t.received) :
    Staged env t := by
  have hpresent : s.reader ≠ .absent := fun habsent => (h.absent habsent).2.2 hs
  refine {
    opening := fun hopening => (by rw [ht] at hopening; cases hopening)
    opened := fun _ => ?_
    absent := fun habsent => absurd (hreader ▸ habsent) hpresent
    present := fun _ => ⟨?_, .inl ht⟩
    ended := fun hended => (by rw [ht] at hended; cases hended)
    registered := ?_
    reason := ?_ }
  · rw [hrobot]
    exact h.opened (by rw [hs]; decide)
  · obtain ⟨ack, hmem, hack⟩ := (h.present hpresent).1
    exact ⟨ack, hreceived ack hmem, hack⟩
  · rw [hreg, h.registered]
    have hsmain : s.main ≠ .returned := fun hmain => by rw [hmain] at hs; cases hs
    have htmain : t.main ≠ .returned := fun hmain => by rw [hmain] at ht; cases ht
    exact iff_of_true hsmain htmain
  · intro hclosed
    rw [honce, ht, ← hs] at hclosed
    exact hsaid.ne_none (h.reason hclosed)

/-- The handler goes on, or ends, before the relay is established. -/
theorem early (h : Staged env s) (habsent : s.reader = .absent)
    (hstage : t.main.stage = .awaiting ∨ t.main.stage = .ended ∧ t.closeReason ≠ none)
    (hs : s.main ≠ .returned) (ht : t.main ≠ .returned) (hreader : t.reader = s.reader)
    (honce : t.closeOnce = s.closeOnce) (hreg : t.registered = s.registered) (hlog : t.log = s.log)
    (hopened : ∃ rest, t.relayCalls = .relayOpen env.port :: rest ∧
      ∀ msg ∈ rest, msg.isOpen = false) : Staged env t := by
  obtain ⟨hfree, hempty, -⟩ := h.absent habsent
  rw [← hreader] at habsent
  rw [← honce] at hfree
  refine {
    opening := fun hopening => ?_
    opened := fun _ => hopened
    absent := fun _ => ⟨hfree, by rw [hlog, hempty], fun hest => ?_⟩
    present := fun hpresent => absurd habsent hpresent
    ended := fun _ hpresent => absurd habsent hpresent
    registered := by simp [hreg, h.registered, hs, ht]
    reason := fun hclosed => ?_ }
  · rcases hstage with hawaiting | ⟨hended, -⟩ <;> simp_all
  · rcases hstage with hawaiting | ⟨hended, -⟩ <;> simp_all
  · rcases hclosed with hnot | hended
    · exact absurd hfree hnot
    · rcases hstage with hawaiting | ⟨-, hreason⟩
      · rw [hawaiting] at hended
        cases hended
      · exact hreason

/-- The reader goes on. -/
theorem readerMoved (h : Staged env s) (hsaid : Said s t) (sent : List Outbound)
    (hsent : ∀ msg ∈ sent, msg.isOpen = false) (hpresent : s.reader ≠ .absent)
    (hreader : t.reader ≠ .absent) (hmain : t.main = s.main) (honce : t.closeOnce = s.closeOnce)
    (hrobot : t.relayCalls = s.relayCalls ++ sent) (hreg : t.registered = s.registered)
    (hreceived : t.received = s.received) : Staged env t := by
  have hlate := (h.present hpresent).2
  have hopen : s.main.stage ≠ .opening := by
    rcases hlate with hstage | hstage <;> rw [hstage] <;> decide
  exact {
    opening := fun hopening => absurd (hmain ▸ hopening) hopen
    opened := by
      intro _
      obtain ⟨rest, hrest, hquiet⟩ := h.opened hopen
      refine ⟨rest ++ sent, by rw [hrobot, hrest]; rfl, fun msg hmem => ?_⟩
      rcases List.mem_append.mp hmem with hold | hnew
      · exact hquiet msg hold
      · exact hsent msg hnew
    absent := fun habsent => absurd habsent hreader
    present := by
      intro _
      rw [hreceived, hmain]
      exact h.present hpresent
    ended := by
      intro hended _
      rw [honce]
      exact h.ended (hmain ▸ hended) hpresent
    registered := by rw [hreg, hmain, h.registered]
    reason := by
      intro hclosed
      rw [honce, hmain] at hclosed
      exact hsaid.ne_none (h.reason hclosed) }

/-- An operation of `closeRelay`, before its goroutine moves on. -/
theorem closed (h : Staged env s) (hclosed : Closed s call t next) (hpresent : s.reader ≠ .absent)
    (hrunning : call.inside = true → s.closeOnce = .running)
    (hreason : ∀ reason, call = .entering reason → trimSpace reason ≠ []) : Staged env t := by
  have hlate := (h.present hpresent).2
  have hopen : s.main.stage ≠ .opening := by
    rcases hlate with hstage | hstage <;> rw [hstage] <;> decide
  cases hclosed with
  | enter reason hfree =>
    refine { h with
      absent := fun habsent => absurd habsent hpresent
      ended := fun hended _ => ?_
      reason := fun _ => isSome_setCloseReason s (hreason reason rfl) }
    have hdone := h.ended hended hpresent
    rw [hfree] at hdone
    cases hdone
  | late => exact h
  | send reason =>
    exact h.readerMoved (.inl rfl) [.relayClose (trimSpace reason)] (by simp [Outbound.isOpen])
      hpresent hpresent rfl rfl rfl rfl rfl
  | finish =>
    exact { h with
      absent := fun habsent => absurd habsent hpresent
      ended := fun _ _ => rfl
      reason := fun _ => h.reason (.inl (by rw [hrunning rfl]; decide)) }

theorem handled {msg : Inbound} {rest : List Inbound} (h : Staged env s)
    (hstage : s.main.stage = .established) (hhandled : Handled env s msg rest t) :
    Staged env t := by
  have hsaid := Said.handled hhandled
  cases hhandled <;> exact h.work hsaid hstage rfl rfl rfl rfl rfl (fun _ => id)

theorem written {data : Bytes} {rest : List Inbound} (h : Staged env s)
    (hstage : s.main.stage = .established) (hwritten : Written env s data rest t) :
    Staged env t := by
  have hsaid := Said.written hwritten
  cases hwritten <;> exact h.work hsaid hstage rfl rfl rfl rfl rfl (fun _ => id)

theorem failNext (h : Staged env s) (hmain : s.main = .failing call) (next : Option CloseCall) :
    Staged env (s.failNext next) := by
  have hstage : s.main.stage = .established := by rw [hmain]; rfl
  cases next <;> exact h.work (.inl rfl) hstage rfl rfl rfl rfl rfl (fun _ => id)

theorem leaveNext (h : Staged env s) (hmain : s.main = .leaving call)
    (hdone : next = none → s.closeOnce = .done) : Staged env (s.leaveNext next) := by
  have hstage : s.main.stage = .established := by rw [hmain]; rfl
  have hpresent : s.reader ≠ .absent := fun habsent => (h.absent habsent).2.2 hstage
  cases next with
  | some call => exact h.work (.inl rfl) hstage rfl rfl rfl rfl rfl (fun _ => id)
  | none =>
    have hclosed := hdone rfl
    exact {
      opening := fun hopening => (by cases hopening)
      opened := fun _ => h.opened (by rw [hstage]; decide)
      absent := fun habsent => absurd habsent hpresent
      present := fun _ => ⟨(h.present hpresent).1, .inr rfl⟩
      ended := fun _ _ => hclosed
      registered := by
        have hreg := h.registered
        rw [hmain] at hreg
        exact hreg.trans (iff_of_true (fun heq => by cases heq) (fun heq => by cases heq))
      reason := fun _ => h.reason (.inl (by rw [hclosed]; decide)) }

theorem readerNext (h : Staged env s) (hpresent : s.reader ≠ .absent) (next : Option CloseCall) :
    Staged env (s.readerNext next) := by
  cases next <;>
    exact h.readerMoved (.inl rfl) [] (by simp) hpresent (fun heq => by cases heq) rfl rfl
      (List.append_nil _).symm rfl rfl

theorem absent_of_early (h : Staged env s)
    (hstage : s.main.stage = .opening ∨ s.main.stage = .awaiting) : s.reader = .absent := by
  by_contra hpresent
  rcases hstage with hstage | hstage <;> simpa [hstage] using (h.present hpresent).2

/-- Only a session with a reader closes. -/
theorem present_of_mem_calls (h : Staged env s) (hmem : call ∈ s.calls) : s.reader ≠ .absent := by
  intro habsent
  have hnot := (h.absent habsent).2.2
  rw [Session.calls, habsent] at hmem
  cases hmain : s.main <;> simp_all [Main.calls, Main.stage, Reader.calls]

/-- An operation of a call that is under way. -/
theorem closed_of_mem (h : Staged env s) (hhanded : Handed env s) (hmem : call ∈ s.calls)
    (hclosed : Closed s call t next) : Staged env t :=
  h.closed hclosed (h.present_of_mem_calls hmem) (hhanded.running_of_inside hmem)
    fun _ => hhanded.trimSpace_ne_nil hmem

/-- A step keeps the stages in order. -/
theorem step {a : Step} (h : Staged env s) (hhanded : Handed env s)
    (hstep : s.step env a = some t) : Staged env t := by
  have hsaid := said_of_step hstep
  cases move_of_step hstep with
  | opened hmain =>
    have hempty := h.opening (by rw [hmain]; rfl)
    exact h.early (h.absent_of_early (.inl (by rw [hmain]; rfl))) (.inl rfl) (by simp [hmain])
      (by simp) rfl rfl rfl rfl ⟨[], by simp [hempty], by simp⟩
  | openFailed hmain =>
    have hempty := h.opening (by rw [hmain]; rfl)
    exact h.early (h.absent_of_early (.inl (by rw [hmain]; rfl)))
      (.inr ⟨rfl, isSome_setCloseReason s (by decide)⟩) (by simp [hmain]) (by simp) rfl rfl rfl rfl
      ⟨[], by simp [hempty], by simp⟩
  | @acked pending msg hmain htype hok =>
    have hstage : s.main.stage = .awaiting := by rw [hmain]; rfl
    have hfree := (h.absent (h.absent_of_early (.inr hstage))).1
    exact {
      opening := fun hopening => (by cases hopening)
      opened := fun _ => h.opened (by rw [hstage]; decide)
      absent := fun habsent => (by cases habsent)
      present := fun _ => ⟨⟨msg, by simp, htype, hok⟩, .inl rfl⟩
      ended := fun hended => (by cases hended)
      registered := by
        have hreg := h.registered
        rw [hmain] at hreg
        exact hreg.trans (iff_of_true (fun heq => by cases heq) (fun heq => by cases heq))
      reason := by
        rintro (hclosed | hended)
        · exact absurd hfree hclosed
        · cases hended }
  | @rejected pending msg text hmain htype =>
    exact h.early (h.absent_of_early (.inr (by rw [hmain]; rfl)))
      (.inr ⟨rfl, isSome_setCloseReason s (trimSpace_cons_ne_nil (by decide) _)⟩) (by simp [hmain])
      (by simp) rfl rfl rfl rfl (h.opened (by simp [hmain, Main.stage]))
  | @kept pending msg hmain =>
    exact h.early (h.absent_of_early (.inr (by rw [hmain]; rfl))) (.inl rfl) (by simp [hmain])
      (by simp) rfl rfl rfl rfl (h.opened (by simp [hmain, Main.stage]))
  | timedOut hmain =>
    exact h.early (h.absent_of_early (.inr (by rw [hmain]; rfl)))
      (.inr ⟨rfl, isSome_setCloseReason s (by decide)⟩) (by simp [hmain]) (by simp) rfl rfl rfl rfl
      (h.opened (by simp [hmain, Main.stage]))
  | @received msg _ hmain hhandled =>
    have hstage : s.main.stage = .established := by rw [hmain]; rfl
    have hkept : Staged env { s with received := s.received ++ [msg] } :=
      h.work (.inl rfl) hstage hstage rfl rfl rfl rfl (fun m hm => List.mem_append_left _ hm)
    exact hkept.handled hstage hhandled
  | flushed hmain hhandled => exact h.handled (by rw [hmain]; rfl) hhandled
  | written hmain hwritten => exact h.written (by rw [hmain]; rfl) hwritten
  | pinged hmain =>
    have hstage : s.main.stage = .established := by rw [hmain]; rfl
    exact h.work hsaid hstage hstage rfl rfl rfl rfl (fun _ => id)
  | pingFailed text reason hmain | sawDone hmain hdone =>
    exact h.work hsaid (by rw [hmain]; rfl) rfl rfl rfl rfl rfl (fun _ => id)
  | @failing call u next hmain hclosed =>
    have hmem : call ∈ s.calls := by simp [Session.calls, hmain, Main.calls]
    have hu := h.closed_of_mem hhanded hmem hclosed
    exact hu.failNext (hclosed.goroutines_eq.1.trans hmain) next
  | @leaving call u next hmain hclosed =>
    have hmem : call ∈ s.calls := by simp [Session.calls, hmain, Main.calls]
    have hu := h.closed_of_mem hhanded hmem hclosed
    refine hu.leaveNext (hclosed.goroutines_eq.1.trans hmain) fun hnone => ?_
    subst hnone
    exact hclosed.done_of_none
  | unregistered hmain =>
    have hstage : s.main.stage = .ended := by rw [hmain]; rfl
    exact {
      opening := fun hopening => (by cases hopening)
      opened := fun _ => h.opened (by rw [hstage]; decide)
      absent := fun habsent =>
        ⟨(h.absent habsent).1, (h.absent habsent).2.1, fun hest => by cases hest⟩
      present := fun hpresent => ⟨(h.present hpresent).1, .inr rfl⟩
      ended := fun _ => h.ended hstage
      registered := by simp
      reason := fun _ => h.reason (.inr hstage) }
  | read payload hreader =>
    exact h.readerMoved hsaid [] (by simp) (by simp [hreader]) (by simp) rfl rfl
      (List.append_nil _).symm rfl rfl
  | readFailed text reason hreader =>
    exact h.readerMoved hsaid [] (by simp) (by simp [hreader]) (by simp [Session.leaveReader])
      rfl rfl (List.append_nil _).symm rfl rfl
  | sent hreader =>
    exact h.readerMoved hsaid [_] (by simp [Outbound.isOpen]) (by simp [hreader]) (by simp)
      rfl rfl rfl rfl rfl
  | sendFailed hreader =>
    exact h.readerMoved hsaid [_] (by simp [Outbound.isOpen]) (by simp [hreader])
      (by simp [Session.leaveReader]) rfl rfl rfl rfl rfl
  | @readerLeaving call u next hreader hclosed =>
    have hmem : call ∈ s.calls := by simp [Session.calls, hreader, Reader.calls]
    have hu := h.closed_of_mem hhanded hmem hclosed
    refine hu.readerNext ?_ next
    rw [hclosed.goroutines_eq.2, hreader]
    exact fun heq => by cases heq

end Staged

/-- What holds of every session. -/
structure Inv (env : Env) (s : Session) : Prop where
  handed : Handed env s
  staged : Staged env s
  reason : ∀ reason ∈ s.closeReason, reason ≠ []

/-- The invariant holds in every run. -/
theorem inv_of_run {steps : List Step}
    (hrun : (machine env).run (machine env).init steps = some s) : Inv env s := by
  refine (machine env).run_invariant ?_ ⟨Handed.init, Staged.init, by simp [machine]⟩ hrun
  intro s a t h hstep
  have habsent : ∀ pending, s.main = .awaiting pending → s.reader = .absent :=
    fun pending hmain => h.staged.absent_of_early (.inr (by rw [hmain]; rfl))
  exact ⟨h.handed.step habsent hstep, h.staged.step h.handed hstep,
    (said_of_step hstep).ne_nil h.reason⟩

end Staged

/-! ## Sessions -/

section Sessions

variable {env : Env} {s : Session}

/-- At most one call has called `SendRelay` and not ended. -/
theorem Handed.called_le (h : Handed env s) :
    s.calls.countP CloseCall.called ≤ if s.closeOnce = .running then 1 else 0 := by
  rw [← h.holders]
  exact List.countP_mono_left fun call _ => call.called_le_inside

/-- `SendRelay` is called once at most for a `relay_close`. -/
theorem Handed.closes_le_one (h : Handed env s) : s.relayCalls.countP Outbound.isClose ≤ 1 := by
  have hhanded := h.called_le
  rw [h.closes]
  cases honce : s.closeOnce <;> simp only [honce, reduceCtorEq, if_true, if_false] at hhanded ⊢ <;>
    omega

/-- Whoever is in the function of `closeOnce` can go on. -/
theorem Handed.exists_step (h : Handed env s) (hrunning : s.closeOnce = .running) :
    ∃ t, s.step env .mainClose = some t ∨ s.step env .readerClose = some t := by
  have hholders := h.holders
  rw [if_pos hrunning] at hholders
  obtain ⟨call, hmem, hinside⟩ :=
    List.countP_pos_iff.mp (by rw [hholders]; exact Nat.one_pos)
  obtain ⟨next, hnext⟩ : ∃ next, s.closeRelay call = some next := by
    cases call with
    | entering reason => cases hinside
    | sending reason | closing => exact ⟨_, rfl⟩
  rcases List.mem_append.mp hmem with hmain | hreader
  · cases hcalls : s.main with
    | failing call' | leaving call' =>
      obtain rfl : call = call' := by simpa [hcalls, Main.calls] using hmain
      exact ⟨_, .inl (by simp [Session.step, hcalls, hnext]; rfl)⟩
    | opening | awaiting | running | writing | unregistering | returned =>
      rw [hcalls] at hmain
      cases hmain
  · cases hcalls : s.reader with
    | leaving call' =>
      obtain rfl : call = call' := by simpa [hcalls, Reader.calls] using hreader
      exact ⟨_, .inr (by simp [Session.step, hcalls, hnext]; rfl)⟩
    | absent | reading | sending | returned =>
      rw [hcalls] at hreader
      cases hreader

end Sessions

/-- **What the client gets of what the robot sends**, in any run of a session. Every message that
has data is handled in the order in which it was received, those kept before the acknowledgement
first, and while the handler waits for the next one none is left over. The client gets the data
whose write succeeded. The counters count the outcomes. Writes that time out are forgiven as long as
no more of them than the budget, at most 256, follow one another; the first that goes beyond, after
exactly as many, or that fails otherwise, is the last. No data is written before the robot has
acknowledged the relay; a close frame may be. -/
theorem session_delivery (env : Env) {steps : List Step} {s : Session}
    (hrun : (machine env).run (machine env).init steps = some s) :
    (∃ left, env.payloads s.received = s.log.map Prod.fst ++ left ∧
      (s.main = .running [] → left = [])) ∧
    binaries s.toClient = (s.log.filter fun entry => entry.2 == .sent).map Prod.fst ∧
    s.relayDataSent = outcomes .sent s.log ∧
    s.writerTimeoutDrops = outcomes .dropped s.log + outcomes .exhausted s.log ∧
    s.writerTimeoutBudgetExhausted = outcomes .exhausted s.log ∧
    s.writerHardErrors = outcomes .exhausted s.log + outcomes .failed s.log ∧
    s.relayDataDecodeErrors ≤ 1 ∧
    (0 ≤ env.budget ∧ env.budget ≤ 256) ∧
    (∀ drops, drops <:+: s.log → (∀ entry ∈ drops, entry.2 = .dropped) →
      (drops.length : Int) ≤ env.budget) ∧
    (∀ pre data outcome post, s.log = pre ++ (data, outcome) :: post →
      outcome = .exhausted ∨ outcome = .failed →
      post = [] ∧ (outcome = .exhausted → (streak pre : Int) = env.budget)) ∧
    (s.log ≠ [] → ∃ ack ∈ s.received, env.isAck ack) := by
  have h := Delivery.of_run hrun
  have hstaged := (inv_of_run hrun).staged
  refine ⟨?_, h.sent, h.relayDataSent, h.drops, h.exhausted, h.hardErrors, ?_, budget_mem env, ?_,
    ?_, ?_⟩
  · obtain ⟨left, horder, hleft⟩ := h.order
    refine ⟨s.main.waiting env ++ left, by rw [horder, List.append_assoc], fun hmain => ?_⟩
    rw [hmain] at hleft ⊢
    rw [hleft rfl]
    rfl
  · refine h.decodeErrors.trans ?_
    split_ifs <;> omega
  · intro drops hinfix hdrops
    obtain ⟨pre, post, hlog⟩ := hinfix
    have hstreak := h.budget (pre ++ drops) ⟨post, hlog⟩
    have hlength := length_le_streak pre hdrops
    omega
  · intro pre data outcome post hlog hhard
    obtain ⟨hpost, -, hexhausted⟩ := h.last pre data outcome post hlog hhard
    exact ⟨hpost, hexhausted⟩
  · intro hlog
    have hpresent : s.reader ≠ .absent := fun habsent => hlog (hstaged.absent habsent).2.1
    exact (hstaged.present hpresent).1

/-- A relay that forgives one write in a row. -/
def patientEnv : Env where
  port := 9090
  softTimeoutBudget := "1".toList
  fold := asciiFold
  lower := asciiFold
  encodeToString := Base64.encode
  decodeString := Base64.decode

def dataMsg (data : Str) : Inbound := { type := .relayData, data }

def ackMsg : Inbound := { type := .relayOpenAck, status := " OK".toList }

def writeTimeout : WriteError := ⟨true, true, "i/o timeout".toList⟩

/-- Data comes before the acknowledgement, and a slow client takes one write of four. -/
def slowClientSteps : List Step :=
  [.sendOpen true, .receive (dataMsg "AQ==".toList), .receive ackMsg, .flush,
    .write (some writeTimeout), .receive (dataMsg "Ag==".toList), .write none,
    .receive (dataMsg "Aw==".toList), .write (some writeTimeout),
    .receive (dataMsg "BA==".toList), .write (some writeTimeout)]

theorem session_delivery_slowClientSteps :
    ∃ s, (machine patientEnv).run (machine patientEnv).init slowClientSteps = some s ∧
      s.log = [([1], .dropped), ([2], .sent), ([3], .dropped), ([4], .exhausted)] ∧
      binaries s.toClient = [[2]] ∧ s.writerTimeoutDrops = 3 ∧
      (streak [([1], .dropped), ([2], .sent), ([3], .dropped)] : Int) = patientEnv.budget := by
  obtain ⟨s, hs, hlog⟩ := (machine patientEnv).exists_run slowClientSteps
    (fun s => s.log = [([1], .dropped), ([2], .sent), ([3], .dropped), ([4], .exhausted)])
    (by decide)
  obtain ⟨-, hsent, -, hdrops, -, -, -, -, -, hlast, -⟩ := session_delivery patientEnv hs
  rw [hlog] at hsent hdrops hlast
  exact ⟨s, hs, hlog, hsent, hdrops, (hlast [_, _, _] [4] .exhausted [] rfl (.inl rfl)).2 rfl⟩

/-- **The calls of `SendRelay`**, in any run of a session and whatever they return. The first is for
one `relay_open`; then come the client's data, in the order in which it was read and up to what the
reader still has in hand, and `relay_close` once at most, with one of three reasons. When the
handler has returned, the relay is unregistered, there is a reason why, and `SendRelay` was called
once for a `relay_close` if the relay had been established and not at all otherwise. The first
reason stays. And whichever goroutine is closing the relay can go on, so that the other does not
wait for ever. -/
theorem session_lifecycle (env : Env) {steps : List Step} {s : Session}
    (hrun : (machine env).run (machine env).init steps = some s) :
    (s.relayCalls = [] ∨ ∃ rest, s.relayCalls = .relayOpen env.port :: rest ∧
      ∀ msg ∈ rest, msg.isOpen = false) ∧
    s.relayCalls.filterMap Outbound.data? ++ s.reader.inHand.map env.encodeToString =
      s.fromClient.map env.encodeToString ∧
    s.relayCalls.countP Outbound.isClose ≤ 1 ∧
    (∀ text, .relayClose text ∈ s.relayCalls → text ∈ closeReasons) ∧
    (s.main = .returned → s.registered = false ∧
      (∃ reason, s.closeReason = some reason ∧ reason ≠ []) ∧
      s.relayCalls.countP Outbound.isClose = if s.reader = .absent then 0 else 1) ∧
    (∀ more t reason, (machine env).run s more = some t → s.closeReason = some reason →
      t.closeReason = some reason) ∧
    (s.closeOnce = .running →
      ∃ t, s.step env .mainClose = some t ∨ s.step env .readerClose = some t) := by
  obtain ⟨hhanded, hstaged, hblank⟩ := inv_of_run hrun
  refine ⟨?_, hhanded.data, hhanded.closes_le_one, hhanded.errors, fun hmain => ⟨?_, ?_, ?_⟩, ?_,
    hhanded.exists_step⟩
  · by_cases hopening : s.main.stage = .opening
    · exact .inl (hstaged.opening hopening)
    · exact .inr (hstaged.opened hopening)
  · have hreg := hstaged.registered
    simpa [hmain] using hreg
  · have hsome := hstaged.reason (.inr (by rw [hmain]; rfl))
    obtain ⟨reason, hreason⟩ := Option.ne_none_iff_exists'.mp hsome
    exact ⟨reason, hreason, hblank reason hreason⟩
  · have hcloses := hhanded.closes
    split_ifs with habsent
    · rw [(hstaged.absent habsent).1, Session.calls, hmain, habsent] at hcloses
      simpa [Main.calls, Reader.calls] using hcloses
    · have hdone := hstaged.ended (by rw [hmain]; rfl) habsent
      have hle := hhanded.called_le
      simp only [hdone, reduceCtorEq, if_true, if_false] at hcloses hle
      omega
  · intro more t reason hmore hreason
    exact closeReason_of_run hmore hreason

/-- The robot closes the relay while the client is still sending; the reader, whose connection is
gone, leaves first, and the handler finds the relay closed. -/
def crossedCloseSteps : List Step :=
  [.sendOpen true, .receive ackMsg, .read [1], .sendData true, .read [2],
    .receive { type := .relayClose, error := "gone".toList }, .sendData true,
    .readError "EOF".toList, .readerClose, .readerClose, .readerClose, .mainClose, .unregister]

theorem session_lifecycle_crossedCloseSteps :
    ∃ s, (machine patientEnv).run (machine patientEnv).init crossedCloseSteps = some s ∧
      s.relayCalls.filterMap Outbound.data? = [Base64.encode [1], Base64.encode [2]] ∧
      s.relayCalls.countP Outbound.isClose = 1 ∧ s.registered = false ∧
      s.closeReason = some "upstream_relay_close:gone".toList := by
  obtain ⟨s, hs, hmain, hreader, hclient, hreason⟩ := (machine patientEnv).exists_run
    crossedCloseSteps (fun s => s.main = .returned ∧ s.reader = .returned ∧
      s.fromClient = [[1], [2]] ∧ s.closeReason = some "upstream_relay_close:gone".toList)
    (by decide)
  obtain ⟨-, hdata, -, -, hend, -⟩ := session_lifecycle patientEnv hs
  obtain ⟨hreg, -, hcloses⟩ := hend hmain
  rw [hreader, hclient] at hdata
  rw [hreader] at hcloses
  exact ⟨s, hs, by simpa [Reader.inHand, patientEnv] using hdata, hcloses, hreg, hreason⟩

end Roboat.Relay.ClientSession
