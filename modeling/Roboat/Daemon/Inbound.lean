import Roboat.Auth.KeySync
import Roboat.Daemon.Manager

/-! # Inbound connections

`handle_inbound` takes a fresh TCP connection through the handshake, reads the first frame and, by
its type, treats the connection as one stream (`RelayOpen`) or as a multiplexed one (`StreamOpen`).
Every stream that is opened goes into the manager's table and is announced under the first sixteen
digits of the client's key.

Who gets that far is decided by the list of keys that the authenticator is made with. `serveInbound`
is the handler for an arbitrary authenticator; `handleInbound` is the one in the source, which makes
it with the empty list, whatever the configuration says. -/

namespace Roboat.Daemon

open Auth

/-- `DaemonError`, as far as an inbound connection can end with it. -/
inductive DaemonError where
  | auth (e : AuthError)
  | protocol (e : ProtocolError)
  deriving DecidableEq, Repr

/-! ## The configuration -/

/-- `DaemonConfig`: the one setting that is about who may connect. -/
structure DaemonConfig where
  insecureAllowAnyClient : Bool := true
  deriving DecidableEq, Repr

namespace DaemonConfig

/-- The setting in the configuration that `roboatd` makes from its environment: the value of
`ROBOAT_INSECURE`, if the variable is set. -/
def ofEnv (lc : CaseMapping) (roboatInsecure : Option Str) : DaemonConfig where
  insecureAllowAnyClient :=
    match roboatInsecure with
    | some v => ["1".toList, "true".toList, "yes".toList].contains (lc.toLowercase v)
    | none => true

/-- The keys that a configuration allows. Neither `DaemonConfig` nor the environment of `roboatd`
has a place for them, so there are none. -/
def allowlist (_ : DaemonConfig) : List Str := []

end DaemonConfig

/-! ## The handler -/

/-- How a stream came in: alone on its connection, or as one of many. -/
inductive InboundMode where
  | direct
  | mux
  deriving DecidableEq, Repr

/-- A stream that the handler has put into the manager's table, as it is announced. -/
structure InboundStream where
  mode : InboundMode
  streamId : UInt32
  cls : StreamClass
  fromAgentId : Str
  deriving DecidableEq, Repr

/-- The frames that `read_frame` returns one after another until it fails. A frame takes at least
five bytes, so the number of bytes is fuel enough (`readFrames_eq_of_le`). -/
def readFrames : Nat → Bytes → List (FrameType × Bytes)
  | 0, _ => []
  | fuel + 1, bs =>
    match readFrame bs with
    | .error _ => []
    | .ok (frame, rest) => frame :: readFrames fuel rest

/-- The payloads of the `StreamOpen` frames that the read task of a connection meets. -/
def streamOpens (bs : Bytes) : List Bytes :=
  (readFrames bs.length bs).filterMap fun frame =>
    if frame.1 = .streamOpen then some frame.2 else none

/-- `process_stream_open` and `register_mux_incoming`: a payload that is too short is ignored. -/
def processStreamOpen (fromAgentId : Str) (payload : Bytes) : Option InboundStream :=
  (parseOpen payload).map fun (streamId, cls) => ⟨.mux, streamId, cls, fromAgentId⟩

/-- `handle_inbound_relay`. `ack` is how writing the `RelayOpenAck` ends. -/
def handleInboundRelay (ack : Except ProtocolError Unit) (relayOpenPayload : Bytes)
    (fromAgentId : Str) : Except DaemonError (List InboundStream) :=
  match parseOpen relayOpenPayload with
  | none => .error (.protocol (.invalidPacket "RelayOpen payload too short"))
  | some (streamId, cls) =>
    match ack with
    | .error e => .error (.protocol e)
    | .ok () => .ok [⟨.direct, streamId, cls, fromAgentId⟩]

/-- `handle_inbound_mux`: the streams of the first payload, and of the bytes that follow it. -/
def handleInboundMux (firstOpenPayload rest : Bytes) (fromAgentId : Str) : List InboundStream :=
  (firstOpenPayload :: streamOpens rest).filterMap (processStreamOpen fromAgentId)

/-- The part of `handle_inbound` after the handshake. -/
def dispatchInbound (ack : Except ProtocolError Unit) (bs : Bytes) (fromAgentId : Str) :
    Except DaemonError (List InboundStream) :=
  match readFrame bs with
  | .error e => .error (.protocol e)
  | .ok ((frameType, payload), rest) =>
    match frameType with
    | .relayOpen => handleInboundRelay ack payload fromAgentId
    | .streamOpen => .ok (handleInboundMux payload rest fromAgentId)
    | other => .error (.protocol (.invalidPacket
        ("unexpected first frame: 0x" ++ String.ofList (hexEncodeByte other.toByte))))

/-- What a client sends after the key and the signature. -/
def afterHandshake (c : Attempt) : Bytes := c.received.drop (publicKeyLen + signatureLen)

/-- `handle_inbound` with an arbitrary authenticator: the streams it opens, or its error. -/
def serveInbound (ed : Ed25519) (serverAuth : ServerAuthenticator) (ack : Except ProtocolError Unit)
    (c : Attempt) : Except DaemonError (List InboundStream) :=
  match (serverAuth.authenticate ed c).2 with
  | .error e => .error (.auth e)
  | .ok pubKeyHex => dispatchInbound ack (afterHandshake c) (pubKeyHex.take 16)

/-- **`handle_inbound`**. The configuration is at hand, and is not looked at. -/
def handleInbound (lc : CaseMapping) (ed : Ed25519) (_ : DaemonConfig)
    (ack : Except ProtocolError Unit) (c : Attempt) : Except DaemonError (List InboundStream) :=
  serveInbound ed (.new lc []) ack c

/-- The streams that were put into the table. -/
def registered : Except DaemonError (List InboundStream) → List InboundStream
  | .ok streams => streams
  | .error _ => []

/-! ## What opens a stream -/

/-- More fuel than bytes makes no difference. -/
theorem readFrames_eq_of_le {fuel : Nat} {bs : Bytes} (hle : bs.length ≤ fuel) :
    readFrames fuel bs = readFrames bs.length bs := by
  -- by induction on the bytes that are left: what follows a frame is shorter by five bytes or more
  induction hn : bs.length using Nat.strong_induction_on generalizing fuel bs with
  | _ n ih =>
    subst hn
    cases fuel with
    | zero => rw [Nat.le_zero.mp hle]
    | succ fuel =>
      cases hread : readFrame bs with
      | error e =>
        cases bs with
        | nil | cons b bs => simp [readFrames, hread]
      | ok p =>
        obtain ⟨⟨t, d⟩, rest⟩ := p
        have hlen : bs.length = 5 + d.length + rest.length := by
          rw [(readFrame_eq_ok hread).1, List.length_append, length_writeFrame]
        obtain ⟨m, hm⟩ : ∃ m, bs.length = m + 1 := ⟨4 + d.length + rest.length, by omega⟩
        have hfuel : readFrames fuel rest = readFrames rest.length rest :=
          ih rest.length (by omega) (by omega) rfl
        have hbytes : readFrames m rest = readFrames rest.length rest :=
          ih rest.length (by omega) (by omega) rfl
        rw [hm]
        simp only [readFrames, hread, hfuel, hbytes]

/-- The bytes after a handshake open a stream: they begin with a `RelayOpen` long enough, whose
acknowledgement gets through, or with a `StreamOpen`, and it or a later one is long enough. -/
def carriesOpen (ack : Except ProtocolError Unit) (bs : Bytes) : Bool :=
  match readFrame bs with
  | .ok ((.relayOpen, payload), _) => (parseOpen payload).isSome && ack.toBool
  | .ok ((.streamOpen, payload), rest) =>
    (payload :: streamOpens rest).any fun opening => (parseOpen opening).isSome
  | _ => false

/-- A multiplexed connection has streams as soon as one payload is long enough. -/
theorem handleInboundMux_ne_nil {payload rest : Bytes} {agent : Str} :
    handleInboundMux payload rest agent ≠ [] ↔
      ((payload :: streamOpens rest).any fun opening => (parseOpen opening).isSome) = true := by
  unfold handleInboundMux
  rw [ne_eq, List.filterMap_eq_nil_iff, List.any_eq_true]
  simp only [processStreamOpen, Option.map_eq_none_iff, Option.isSome_iff_ne_none, not_forall,
    exists_prop, ne_eq]

/-- After the handshake, streams are opened exactly when the bytes say so. -/
theorem registered_dispatchInbound {ack : Except ProtocolError Unit} {bs : Bytes} {agent : Str} :
    registered (dispatchInbound ack bs agent) ≠ [] ↔ carriesOpen ack bs = true := by
  unfold dispatchInbound carriesOpen
  cases readFrame bs with
  | error e => simp [registered]
  | ok p =>
    obtain ⟨⟨frameType, payload⟩, rest⟩ := p
    cases frameType with
    | relayOpen =>
      simp only [handleInboundRelay]
      cases parseOpen payload with
      | none => simp [registered]
      | some opened => cases ack <;> simp [registered, Except.toBool]
    | streamOpen => exact handleInboundMux_ne_nil
    | _ => simp [registered]

/-- **Streams are opened exactly for the clients that the authenticator accepts**, if they ask. -/
theorem registered_serveInbound {ed : Ed25519} {a : ServerAuthenticator}
    {ack : Except ProtocolError Unit} {c : Attempt} :
    registered (serveInbound ed a ack c) ≠ [] ↔
      a.accepts ed c = true ∧ carriesOpen ack (afterHandshake c) = true := by
  unfold serveInbound ServerAuthenticator.accepts
  cases (a.authenticate ed c).2 with
  | error e => simp [registered]
  | ok pubKeyHex => simp [registered_dispatchInbound]

/-! ## Secure mode -/

/-- With the setting off, streams are registered only for a client whose key is on the allowlist,
which is not empty. -/
def SecureMode (config : DaemonConfig) (c : Attempt)
    (result : Except DaemonError (List InboundStream)) : Prop :=
  config.insecureAllowAnyClient = false →
    ∀ st ∈ registered result, config.allowlist ≠ [] ∧ c.publicKeyHex ∈ config.allowlist

/-- **When secure mode is enforced**: only if it is not on, or the client fails the handshake by
itself, or it never asks for a stream. -/
theorem secureMode_handleInbound_iff (lc : CaseMapping) (ed : Ed25519) (config : DaemonConfig)
    (ack : Except ProtocolError Unit) (c : Attempt) :
    SecureMode config c (handleInbound lc ed config ack c) ↔
      config.insecureAllowAnyClient = true ∨ c.authentic ed = false ∨
        carriesOpen ack (afterHandshake c) = false := by
  -- no key is allowed by any configuration, and every key is accepted by the empty list
  have hsecure : SecureMode config c (handleInbound lc ed config ack c) ↔
      (config.insecureAllowAnyClient = false →
        registered (handleInbound lc ed config ack c) = []) := by
    simp only [SecureMode, DaemonConfig.allowlist, ne_eq, not_true_eq_false, false_and,
      List.eq_nil_iff_forall_not_mem]
  have hempty : (ServerAuthenticator.new lc []).authorizedKeys = [] :=
    (normalize_eq_nil lc).mpr (fun _ hkey => absurd hkey List.not_mem_nil)
  have hregistered : registered (handleInbound lc ed config ack c) = [] ↔
      ¬ (c.authentic ed = true ∧ carriesOpen ack (afterHandshake c) = true) := by
    rw [← not_ne_iff, handleInbound, registered_serveInbound, ServerAuthenticator.accepts_iff]
    simp only [hempty, true_or, and_true]
  rw [hsecure, hregistered, not_and_or, Bool.not_eq_true, Bool.not_eq_true, ← Bool.not_eq_true,
    ← or_iff_not_imp_left]

/-- A client with the key `toyKey b` that signs correctly and then sends a frame. -/
def toyInbound (b : UInt8) (frameType : FrameType) (payload : Bytes) : Attempt :=
  { toyClient b with received := (toyClient b).received ++ writeFrame frameType payload }

/-- **Secure mode is not enforced**: started with `ROBOAT_INSECURE=false`, the daemon opens a stream
for a client with a key that nobody has listed, in either mode. -/
theorem secureMode_ignored :
    (DaemonConfig.ofEnv asciiCase (some "false".toList)).insecureAllowAnyClient = false ∧
    ∀ frameType ∈ [FrameType.relayOpen, .streamOpen],
      registered (handleInbound asciiCase toyScheme (.ofEnv asciiCase (some "false".toList))
        (.ok ()) (toyInbound 3 frameType [0, 0, 0, 1, 0])) ≠ [] ∧
      ¬ SecureMode (.ofEnv asciiCase (some "false".toList)) (toyInbound 3 frameType [0, 0, 0, 1, 0])
        (handleInbound asciiCase toyScheme (.ofEnv asciiCase (some "false".toList)) (.ok ())
          (toyInbound 3 frameType [0, 0, 0, 1, 0])) := by
  have hoff : (DaemonConfig.ofEnv asciiCase (some "false".toList)).insecureAllowAnyClient = false :=
    by decide
  refine ⟨hoff, fun frameType hmode => ?_⟩
  have hopens : registered (handleInbound asciiCase toyScheme
      (.ofEnv asciiCase (some "false".toList)) (.ok ())
      (toyInbound 3 frameType [0, 0, 0, 1, 0])) ≠ [] := by
    revert frameType
    decide
  refine ⟨hopens, fun hsecure => ?_⟩
  obtain ⟨st, hst⟩ := List.exists_mem_of_ne_nil _ hopens
  exact (hsecure hoff st hst).1 rfl

end Roboat.Daemon
