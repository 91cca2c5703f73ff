import Mathlib.Tactic.SplitIfs
import Roboat.Auth.Authenticator
import Roboat.Auth.KeySync
import Roboat.Transition.Machine

/-! # The handshake, both sides

`ServerAuthenticator::authenticate` on one end of a connection, and on the other end one of its two
clients, `ClientAuthenticator::authenticate` or the `authenticate` of the Go relay. Each party reads
and writes in a fixed order; what the two do together is an interleaving of their operations over
two byte channels that lose nothing.

A channel is what was written to it, ever, and how much of it was read: what one party has written
then depends on that party alone, and the invariant has one part for each (`ServerOk`,
`ClientOk`). -/

namespace Roboat.Auth

/-- The length of a seed, in both languages. -/
def seedLen : Nat := 32

/-- What an honest client computes with its seed, for a signature scheme: its public key and its
signatures, which verify. -/
structure Signing (ed : Ed25519) where
  publicKey : (seed : Bytes) → Bytes
  sign : (seed nonce : Bytes) → Bytes
  length_publicKey : ∀ seed, seed.length = seedLen → (publicKey seed).length = publicKeyLen
  length_sign : ∀ seed nonce, seed.length = seedLen → nonce.length = nonceLen →
    (sign seed nonce).length = signatureLen
  /-- The key of a seed is a valid key. -/
  validKey : ∀ seed, seed.length = seedLen → ed.validKey (publicKey seed) = true
  /-- A signature over a nonce made with a seed verifies under its key. -/
  verify : ∀ seed nonce, seed.length = seedLen → nonce.length = nonceLen →
    ed.verify (publicKey seed) nonce (sign seed nonce) = true

namespace Handshake

/-! ## The parties -/

/-- Where the server is. -/
inductive ServerPhase where
  | writingNonce
  | flushingNonce
  | readingPublicKey
  | readingSignature (pubKeyBytes : Bytes)
  /-- Before the rejection byte. -/
  | rejecting
  /-- Before the acceptance byte. -/
  | accepting (pubKeyHex : Str)
  | flushingAccept (pubKeyHex : Str)
  | returned (result : Except AuthError Str)

/-- The two clients. -/
inductive ClientKind where
  /-- `ClientAuthenticator`. -/
  | rust
  /-- `authenticate` of `bootstrap.go`. -/
  | go
  deriving DecidableEq, Repr

/-- The errors of the two clients. -/
inductive ClientError where
  | rust (error : AuthError)
  | go (message : String)
  deriving DecidableEq, Repr

/-- Where the client is. -/
inductive ClientPhase where
  | readingNonce
  | writingPublicKey (nonce : Bytes)
  | writingSignature (nonce : Bytes)
  /-- The Rust client flushes. -/
  | flushing
  | readingResult
  | returned (result : Except ClientError Unit)

/-- The two parties and what they have written and read. -/
structure State where
  server : ServerPhase
  client : ClientPhase
  serverWrote : Bytes
  clientWrote : Bytes
  serverRead : Nat
  clientRead : Nat

/-- The party that takes its next step. -/
inductive Party where
  | server
  | client
  deriving DecidableEq, Repr

/-- A handshake: the authenticator and its nonce, the client and its seed. -/
structure Setup (ed : Ed25519) where
  authenticator : ServerAuthenticator
  signing : Signing ed
  nonce : Bytes
  kind : ClientKind
  seed : Bytes

/-- What `read_exact` and `io.ReadFull` find. -/
inductive ReadOutcome where
  | bytes (bs : Bytes)
  /-- The writer is gone and the bytes run out. -/
  | eof
  /-- Not enough has arrived yet. -/
  | blocked

/-- Reading `n` bytes at a position of a channel. -/
def readAt (wrote : Bytes) (pos n : Nat) (gone : Bool) : ReadOutcome :=
  if pos + n ≤ wrote.length then .bytes ((wrote.drop pos).take n)
  else if gone then .eof
  else .blocked

/-- The server has given up the connection. -/
def ServerPhase.gone : ServerPhase → Bool
  | returned (.error _) => true
  | _ => false

/-- The client has given up the connection. -/
def ClientPhase.gone : ClientPhase → Bool
  | returned (.error _) => true
  | _ => false

namespace State

variable {ed : Ed25519}

/-- Steps 3 and 4 of the server's `authenticate`: the signature and the list. -/
def verdict (a : ServerAuthenticator) (ed : Ed25519) (nonce pubKeyBytes sigBytes : Bytes) :
    ServerPhase :=
  -- these two errors return without a result byte
  if !ed.validKey pubKeyBytes then .returned (.error .invalidPublicKey)
  else if !ed.verify pubKeyBytes nonce sigBytes then .returned (.error .invalidSignature)
  else
    let pubKeyHex := hexEncode pubKeyBytes
    -- an empty list lets everybody in
    if !a.authorizedKeys.isEmpty && !a.authorizedKeys.contains pubKeyHex then .rejecting
    else .accepting pubKeyHex

/-- The next operation of the server. -/
def serverStep (c : Setup ed) (s : State) : Option State :=
  match s.server with
  | .writingNonce =>
    some { s with serverWrote := s.serverWrote ++ c.nonce, server := .flushingNonce }
  | .flushingNonce => some { s with server := .readingPublicKey }
  | .readingPublicKey =>
    match readAt s.clientWrote s.serverRead publicKeyLen s.client.gone with
    | .bytes bs =>
      some { s with serverRead := s.serverRead + publicKeyLen, server := .readingSignature bs }
    -- `read_exact` at the end of the stream
    | .eof => some { s with server := .returned (.error (.io "early eof")) }
    | .blocked => none
  | .readingSignature pubKeyBytes =>
    match readAt s.clientWrote s.serverRead signatureLen s.client.gone with
    | .bytes bs =>
      some { s with
        serverRead := s.serverRead + signatureLen
        server := verdict c.authenticator ed c.nonce pubKeyBytes bs }
    | .eof => some { s with server := .returned (.error (.io "early eof")) }
    | .blocked => none
  | .rejecting =>
    some { s with
      serverWrote := s.serverWrote ++ [0x00], server := .returned (.error .unauthorized) }
  | .accepting pubKeyHex =>
    some { s with serverWrote := s.serverWrote ++ [0x01], server := .flushingAccept pubKeyHex }
  | .flushingAccept pubKeyHex => some { s with server := .returned (.ok pubKeyHex) }
  | .returned _ => none

/-- The error of the client at the end of the stream, after `read` bytes: `read_exact` does not tell
them apart, `io.ReadFull` does. The server gives up only after it has written what the client waits
for, so no run of the machine comes to this. -/
def eofError (read : Nat) : ClientKind → ClientError
  | .rust => .rust (.io "early eof")
  | .go => .go (if read = 0 then "EOF" else "unexpected EOF")

/-- The client's answer to a result byte other than `0x01`. -/
def unauthorizedError : ClientKind → ClientError
  | .rust => .rust .unauthorized
  | .go => .go "unauthorized by agent"

/-- The next operation of the client. -/
def clientStep (c : Setup ed) (s : State) : Option State :=
  match s.client with
  | .readingNonce =>
    -- only the Go client checks the seed; in Rust its type has the size
    if c.kind = .go ∧ c.seed.length ≠ seedLen then
      some { s with client := .returned (.error (.go "invalid seed size")) }
    else
      match readAt s.serverWrote s.clientRead nonceLen s.server.gone with
      | .bytes bs =>
        some { s with clientRead := s.clientRead + nonceLen, client := .writingPublicKey bs }
      | .eof =>
        let read := s.serverWrote.length - s.clientRead
        some { s with client := .returned (.error (eofError read c.kind)) }
      | .blocked => none
  | .writingPublicKey nonce =>
    some { s with
      clientWrote := s.clientWrote ++ c.signing.publicKey c.seed
      client := .writingSignature nonce }
  | .writingSignature nonce =>
    some { s with
      clientWrote := s.clientWrote ++ c.signing.sign c.seed nonce
      client := match c.kind with
        | .rust => .flushing
        | .go => .readingResult }
  | .flushing => some { s with client := .readingResult }
  | .readingResult =>
    match readAt s.serverWrote s.clientRead 1 s.server.gone with
    | .bytes bs =>
      some { s with
        clientRead := s.clientRead + 1
        client := .returned
          (if bs = [0x01] then .ok () else .error (unauthorizedError c.kind)) }
    | .eof =>
      let read := s.serverWrote.length - s.clientRead
      some { s with client := .returned (.error (eofError read c.kind)) }
    | .blocked => none
  | .returned _ => none

/-- The step function. -/
def step (c : Setup ed) (s : State) : Party → Option State
  | .server => s.serverStep c
  | .client => s.clientStep c

end State

/-- **The handshake machine.** -/
def machine {ed : Ed25519} (c : Setup ed) : Machine State Party where
  init := ⟨.writingNonce, .readingNonce, [], [], 0, 0⟩
  step := State.step c

/-! ## What each party keeps -/

section Invariant

variable {ed : Ed25519} (c : Setup ed)

/-- The key the client sends. -/
def Setup.publicKey : Bytes := c.signing.publicKey c.seed

/-- All that the client sends. -/
def Setup.payload : Bytes := c.publicKey ++ c.signing.sign c.seed c.nonce

/-- The list lets the client in. -/
def Setup.Authorized : Prop :=
  c.authenticator.authorizedKeys = [] ∨ hexEncode c.publicKey ∈ c.authenticator.authorizedKeys

/-- What the server has written and read when it is in a phase. -/
def ServerOk (wrote : Bytes) (read : Nat) : ServerPhase → Prop
  | .writingNonce => wrote = [] ∧ read = 0
  | .flushingNonce => wrote = c.nonce ∧ read = 0
  | .readingPublicKey => wrote = c.nonce ∧ read = 0
  | .readingSignature pubKeyBytes =>
    wrote = c.nonce ∧ read = publicKeyLen ∧ pubKeyBytes = c.publicKey
  | .rejecting => wrote = c.nonce ∧ ¬ c.Authorized
  | .accepting pubKeyHex => wrote = c.nonce ∧ pubKeyHex = hexEncode c.publicKey ∧ c.Authorized
  | .flushingAccept pubKeyHex =>
    wrote = c.nonce ++ [0x01] ∧ pubKeyHex = hexEncode c.publicKey ∧ c.Authorized
  | .returned (.ok pubKeyHex) =>
    wrote = c.nonce ++ [0x01] ∧ pubKeyHex = hexEncode c.publicKey ∧ c.Authorized
  | .returned (.error e) => wrote = c.nonce ++ [0x00] ∧ e = .unauthorized ∧ ¬ c.Authorized

/-- What the client has written and read when it is in a phase. -/
def ClientOk (wrote : Bytes) (read : Nat) : ClientPhase → Prop
  | .readingNonce => wrote = [] ∧ read = 0
  | .writingPublicKey nonce => wrote = [] ∧ read = nonceLen ∧ nonce = c.nonce
  | .writingSignature nonce => wrote = c.publicKey ∧ read = nonceLen ∧ nonce = c.nonce
  | .flushing => wrote = c.payload ∧ read = nonceLen
  | .readingResult => wrote = c.payload ∧ read = nonceLen
  | .returned (.ok ()) => wrote = c.payload ∧ c.Authorized
  | .returned (.error _) => wrote = c.payload ∧ ¬ c.Authorized

/-- The invariant of the handshake. -/
structure Inv (s : State) : Prop where
  server : ServerOk c s.serverWrote s.serverRead s.server
  client : ClientOk c s.clientWrote s.clientRead s.client

variable {c} {wrote : Bytes} {read : Nat}

/-- The client writes its key, then its signature. -/
theorem ClientOk.wrote_cases {phase : ClientPhase} (h : ClientOk c wrote read phase) :
    wrote = [] ∨ wrote = c.publicKey ∨ wrote = c.payload := by
  cases phase with
  | readingNonce | writingPublicKey _ => exact Or.inl h.1
  | writingSignature _ => exact Or.inr (Or.inl h.1)
  | flushing | readingResult => exact Or.inr (Or.inr h.1)
  | returned result => cases result <;> exact Or.inr (Or.inr h.1)

/-- A client that has given up has sent everything. -/
theorem ClientOk.wrote_of_gone {phase : ClientPhase} (h : ClientOk c wrote read phase)
    (hgone : phase.gone = true) : wrote = c.payload := by
  cases phase with
  | returned result => cases result <;> exact h.1
  | _ => cases hgone

/-- The server writes its nonce, then the result byte. -/
theorem ServerOk.wrote_cases {phase : ServerPhase} (h : ServerOk c wrote read phase) :
    wrote = [] ∨ wrote = c.nonce ∨ (wrote = c.nonce ++ [0x01] ∧ c.Authorized) ∨
      (wrote = c.nonce ++ [0x00] ∧ ¬ c.Authorized) := by
  cases phase with
  | writingNonce => exact Or.inl h.1
  | flushingNonce | readingPublicKey | readingSignature _ | rejecting | accepting _ =>
    exact Or.inr (Or.inl h.1)
  | flushingAccept _ => exact Or.inr (Or.inr (Or.inl ⟨h.1, h.2.2⟩))
  | returned result =>
    cases result with
    | ok _ => exact Or.inr (Or.inr (Or.inl ⟨h.1, h.2.2⟩))
    | error _ => exact Or.inr (Or.inr (Or.inr ⟨h.1, h.2.2⟩))

/-- A server that has given up has said no. -/
theorem ServerOk.wrote_of_gone {phase : ServerPhase} (h : ServerOk c wrote read phase)
    (hgone : phase.gone = true) : wrote = c.nonce ++ [0x00] := by
  cases phase with
  | returned result =>
    cases result with
    | ok _ => cases hgone
    | error _ => exact h.1
  | _ => cases hgone

/-- A read that finds its bytes. -/
theorem readAt_append (before bs after : Bytes) (gone : Bool) :
    readAt (before ++ bs ++ after) before.length bs.length gone = .bytes bs := by
  unfold readAt
  rw [if_pos (by simp), List.append_assoc, List.drop_left' rfl, List.take_left' rfl]

/-- A read that finds too little while the writer is there. -/
theorem readAt_blocked {wrote : Bytes} {pos n : Nat} (h : wrote.length < pos + n) :
    readAt wrote pos n false = .blocked := by
  unfold readAt
  rw [if_neg (by omega)]
  rfl

/-- The verdict on an honest client. -/
theorem verdict_honest (hseed : c.seed.length = seedLen) (hnonce : c.nonce.length = nonceLen) :
    (State.verdict c.authenticator ed c.nonce c.publicKey (c.signing.sign c.seed c.nonce)
        = .accepting (hexEncode c.publicKey) ∧ c.Authorized) ∨
      (State.verdict c.authenticator ed c.nonce c.publicKey (c.signing.sign c.seed c.nonce)
        = .rejecting ∧ ¬ c.Authorized) := by
  have hvalid : ed.validKey c.publicKey = true := c.signing.validKey c.seed hseed
  have hverify : ed.verify c.publicKey c.nonce (c.signing.sign c.seed c.nonce) = true :=
    c.signing.verify c.seed c.nonce hseed hnonce
  unfold State.verdict Setup.Authorized
  simp only [hvalid, hverify, Bool.not_true, Bool.false_eq_true, if_false]
  by_cases hlist : c.authenticator.authorizedKeys = [] ∨
      hexEncode c.publicKey ∈ c.authenticator.authorizedKeys
  · refine Or.inl ⟨if_neg ?_, hlist⟩
    rcases hlist with hempty | hmem
    · simp [hempty]
    · simp [hmem]
  · refine Or.inr ⟨if_pos ?_, hlist⟩
    rw [not_or] at hlist
    simp [hlist.1, hlist.2]

/-! ## What a read finds -/

/-- The key is there, or nothing is. -/
theorem readAt_publicKey (hseed : c.seed.length = seedLen) {phase : ClientPhase}
    (h : ClientOk c wrote read phase) :
    readAt wrote 0 publicKeyLen phase.gone = .bytes c.publicKey ∨
      (readAt wrote 0 publicKeyLen phase.gone = .blocked ∧ wrote = []) := by
  have hlen : c.publicKey.length = publicKeyLen := c.signing.length_publicKey c.seed hseed
  rcases h.wrote_cases with hnone | hkey | hall
  · cases hgone : phase.gone with
    | true =>
      have hall := h.wrote_of_gone hgone
      have hread := readAt_append [] c.publicKey (c.signing.sign c.seed c.nonce) true
      rw [hlen] at hread
      rw [hall]
      exact Or.inl hread
    | false =>
      rw [hnone]
      exact Or.inr ⟨readAt_blocked (by simp [publicKeyLen]), rfl⟩
  · have hread := readAt_append [] c.publicKey [] phase.gone
    rw [hlen, List.nil_append, List.append_nil] at hread
    rw [hkey]
    exact Or.inl hread
  · have hread := readAt_append [] c.publicKey (c.signing.sign c.seed c.nonce) phase.gone
    rw [hlen] at hread
    rw [hall]
    exact Or.inl hread

/-- After the key, the signature is there, or the client has not written it yet. -/
theorem readAt_signature (hseed : c.seed.length = seedLen) (hnonce : c.nonce.length = nonceLen)
    {phase : ClientPhase} (h : ClientOk c wrote read phase) :
    readAt wrote publicKeyLen signatureLen phase.gone = .bytes (c.signing.sign c.seed c.nonce) ∨
      (readAt wrote publicKeyLen signatureLen phase.gone = .blocked ∧ wrote ≠ c.payload) := by
  have hkey : c.publicKey.length = publicKeyLen := c.signing.length_publicKey c.seed hseed
  have hsig := c.signing.length_sign c.seed c.nonce hseed hnonce
  by_cases hall : wrote = c.payload
  · have hread := readAt_append c.publicKey (c.signing.sign c.seed c.nonce) [] phase.gone
    rw [hkey, hsig, List.append_nil] at hread
    rw [hall]
    exact Or.inl hread
  · have hgone : phase.gone = false := by
      cases hgone : phase.gone with
      | true => exact absurd (h.wrote_of_gone hgone) hall
      | false => rfl
    have hshort : wrote.length < publicKeyLen + signatureLen := by
      rcases h.wrote_cases with rfl | rfl | rfl
      · exact Nat.zero_lt_succ _
      · rw [hkey]
        decide
      · exact absurd rfl hall
    rw [hgone]
    exact Or.inr ⟨readAt_blocked hshort, hall⟩

/-- The nonce is there once the server has written. -/
theorem readAt_nonce (hnonce : c.nonce.length = nonceLen) {phase : ServerPhase}
    (h : ServerOk c wrote read phase) :
    readAt wrote 0 nonceLen phase.gone = .bytes c.nonce ∨
      (readAt wrote 0 nonceLen phase.gone = .blocked ∧ wrote = []) := by
  have hread : ∀ after, readAt (c.nonce ++ after) 0 nonceLen phase.gone = .bytes c.nonce := by
    intro after
    have hread := readAt_append [] c.nonce after phase.gone
    rwa [hnonce] at hread
  rcases h.wrote_cases with hnone | hone | ⟨hyes, -⟩ | ⟨hno, -⟩
  · cases hgone : phase.gone with
    | true =>
      rw [hgone] at hread
      rw [h.wrote_of_gone hgone]
      exact Or.inl (hread _)
    | false =>
      rw [hnone]
      exact Or.inr ⟨readAt_blocked (by simp [nonceLen]), rfl⟩
  · have hread := hread []
    rw [List.append_nil] at hread
    rw [hone]
    exact Or.inl hread
  · rw [hyes]
    exact Or.inl (hread _)
  · rw [hno]
    exact Or.inl (hread _)

/-- **The result byte says whether the client is let in.** -/
theorem readAt_result (hnonce : c.nonce.length = nonceLen) {phase : ServerPhase}
    (h : ServerOk c wrote read phase) :
    (readAt wrote nonceLen 1 phase.gone = .bytes [0x01] ∧ c.Authorized) ∨
      (readAt wrote nonceLen 1 phase.gone = .bytes [0x00] ∧ ¬ c.Authorized) ∨
      (readAt wrote nonceLen 1 phase.gone = .blocked ∧ (wrote = [] ∨ wrote = c.nonce)) := by
  have hread : ∀ b, readAt (c.nonce ++ [b]) nonceLen 1 phase.gone = .bytes [b] := by
    intro b
    have hread := readAt_append c.nonce [b] [] phase.gone
    rwa [hnonce, List.append_nil] at hread
  have hblocked : wrote = [] ∨ wrote = c.nonce →
      readAt wrote nonceLen 1 phase.gone = .blocked := by
    intro hshort
    have hlen : wrote.length < nonceLen + 1 := by
      rcases hshort with rfl | rfl
      · exact Nat.zero_lt_succ _
      · rw [hnonce]
        exact Nat.lt_succ_self _
    cases hgone : phase.gone with
    | true =>
      have hno := h.wrote_of_gone hgone
      rw [hno, List.length_append, hnonce] at hlen
      exact absurd hlen (lt_irrefl _)
    | false => exact readAt_blocked hlen
  rcases h.wrote_cases with hnone | hone | ⟨hyes, hauth⟩ | ⟨hno, hauth⟩
  · exact Or.inr (Or.inr ⟨hblocked (Or.inl hnone), Or.inl hnone⟩)
  · exact Or.inr (Or.inr ⟨hblocked (Or.inr hone), Or.inr hone⟩)
  · rw [hyes]
    exact Or.inl ⟨hread _, hauth⟩
  · rw [hno]
    exact Or.inr (Or.inl ⟨hread _, hauth⟩)

/-! ## Steps -/

variable {s t : State}

/-- A step of the server. -/
theorem Inv.serverStep (hseed : c.seed.length = seedLen) (hnonce : c.nonce.length = nonceLen)
    (h : Inv c s) (hstep : s.serverStep c = some t) : Inv c t := by
  have hserver := h.server
  unfold State.serverStep at hstep
  cases hphase : s.server with
  | writingNonce =>
    rw [hphase] at hstep hserver
    cases hstep
    exact ⟨⟨by rw [hserver.1]; rfl, hserver.2⟩, h.client⟩
  | flushingNonce | flushingAccept pubKeyHex =>
    rw [hphase] at hstep hserver
    cases hstep
    exact ⟨hserver, h.client⟩
  | readingPublicKey =>
    rw [hphase] at hstep hserver
    simp only [hserver.2] at hstep
    rcases readAt_publicKey hseed h.client with hread | ⟨hread, -⟩
    · rw [hread] at hstep
      cases hstep
      exact ⟨⟨hserver.1, Nat.zero_add _, rfl⟩, h.client⟩
    · rw [hread] at hstep
      cases hstep
  | readingSignature pubKeyBytes =>
    rw [hphase] at hstep hserver
    obtain ⟨hwrote, hread, rfl⟩ := hserver
    simp only [hread] at hstep
    rcases readAt_signature hseed hnonce h.client with hread | ⟨hread, -⟩
    · rw [hread] at hstep
      cases hstep
      refine ⟨?_, h.client⟩
      rcases verdict_honest hseed hnonce with ⟨hverdict, hauth⟩ | ⟨hverdict, hauth⟩
      · rw [hverdict]
        exact ⟨hwrote, rfl, hauth⟩
      · rw [hverdict]
        exact ⟨hwrote, hauth⟩
    · rw [hread] at hstep
      cases hstep
  | rejecting =>
    rw [hphase] at hstep hserver
    cases hstep
    exact ⟨⟨by rw [hserver.1], rfl, hserver.2⟩, h.client⟩
  | accepting pubKeyHex =>
    rw [hphase] at hstep hserver
    cases hstep
    exact ⟨⟨by rw [hserver.1], hserver.2⟩, h.client⟩
  | returned result =>
    rw [hphase] at hstep
    cases hstep

/-- A step of the client. -/
theorem Inv.clientStep (hseed : c.seed.length = seedLen) (hnonce : c.nonce.length = nonceLen)
    (h : Inv c s) (hstep : s.clientStep c = some t) : Inv c t := by
  have hclient := h.client
  unfold State.clientStep at hstep
  cases hphase : s.client with
  | readingNonce =>
    rw [hphase] at hstep hclient
    simp only [hclient.2, hseed, ne_eq, not_true_eq_false, and_false, if_false] at hstep
    rcases readAt_nonce hnonce h.server with hread | ⟨hread, -⟩
    · rw [hread] at hstep
      cases hstep
      exact ⟨h.server, hclient.1, Nat.zero_add _, rfl⟩
    · rw [hread] at hstep
      cases hstep
  | writingPublicKey nonce =>
    rw [hphase] at hstep hclient
    cases hstep
    exact ⟨h.server, by rw [hclient.1]; rfl, hclient.2⟩
  | writingSignature nonce =>
    rw [hphase] at hstep hclient
    obtain ⟨hwrote, hread, rfl⟩ := hclient
    cases hstep
    refine ⟨h.server, ?_⟩
    rw [hwrote]
    cases c.kind <;> exact ⟨rfl, hread⟩
  | flushing =>
    rw [hphase] at hstep hclient
    cases hstep
    exact ⟨h.server, hclient⟩
  | readingResult =>
    rw [hphase] at hstep hclient
    simp only [hclient.2] at hstep
    rcases readAt_result hnonce h.server with ⟨hread, hauth⟩ | ⟨hread, hauth⟩ | ⟨hread, -⟩
    · rw [hread] at hstep
      cases hstep
      exact ⟨h.server, hclient.1, hauth⟩
    · rw [hread] at hstep
      cases hstep
      exact ⟨h.server, hclient.1, hauth⟩
    · rw [hread] at hstep
      cases hstep
  | returned result =>
    rw [hphase] at hstep
    cases hstep

/-- A client that has not sent everything, and can read the nonce, has a next step. -/
theorem Inv.client_goes_on (hnonce : c.nonce.length = nonceLen) (h : Inv c s)
    (hserver : s.serverWrote ≠ []) (hclient : s.clientWrote ≠ c.payload) :
    ∃ t, s.clientStep c = some t := by
  have hok := h.client
  unfold State.clientStep
  cases hphase : s.client with
  | readingNonce =>
    rw [hphase] at hok
    simp only [hok.2]
    split_ifs
    · exact ⟨_, rfl⟩
    · rcases readAt_nonce hnonce h.server with hread | ⟨-, hnone⟩
      · rw [hread]
        exact ⟨_, rfl⟩
      · exact absurd hnone hserver
  | writingPublicKey nonce | writingSignature nonce => exact ⟨_, rfl⟩
  | flushing | readingResult =>
    rw [hphase] at hok
    exact absurd hok.1 hclient
  | returned result =>
    rw [hphase] at hok
    cases result <;> exact absurd hok.1 hclient

theorem payload_ne_nil (hseed : c.seed.length = seedLen) : c.payload ≠ [] := by
  intro hnil
  have hkey : c.publicKey.length = publicKeyLen := c.signing.length_publicKey c.seed hseed
  rw [(List.append_eq_nil_iff.mp hnil).1] at hkey
  cases hkey

/-- When the result byte is written, the client only has to go on. -/
theorem Inv.client_ends (hseed : c.seed.length = seedLen) (hnonce : c.nonce.length = nonceLen)
    (h : Inv c s) {b : UInt8} (hb : s.serverWrote = c.nonce ++ [b]) :
    (∃ t, s.clientStep c = some t) ∨ ∃ rc, s.client = .returned rc := by
  have hclient := h.client
  cases hc : s.client with
  | readingNonce =>
    rw [hc] at hclient
    refine Or.inl (h.client_goes_on hnonce (by rw [hb]; simp) ?_)
    rw [hclient.1]
    exact (payload_ne_nil hseed).symm
  | writingPublicKey _ | writingSignature _ | flushing =>
    refine Or.inl ?_
    simp only [State.clientStep, hc]
    exact ⟨_, rfl⟩
  | readingResult =>
    rw [hc] at hclient
    refine Or.inl ?_
    simp only [State.clientStep, hc, hclient.2]
    rcases readAt_result hnonce h.server with ⟨hread, -⟩ | ⟨hread, -⟩ | ⟨-, hnil | hone⟩
    · rw [hread]
      exact ⟨_, rfl⟩
    · rw [hread]
      exact ⟨_, rfl⟩
    · rw [hb] at hnil
      exact absurd hnil (by simp)
    · rw [hb] at hone
      exact absurd hone (by simp)
  | returned rc => exact Or.inr ⟨rc, rfl⟩

/-- **Nobody waits forever**: until both parties have returned, one of them has a next step. -/
theorem Inv.goes_on (hseed : c.seed.length = seedLen) (hnonce : c.nonce.length = nonceLen)
    (h : Inv c s) :
    (∃ p t, s.step c p = some t) ∨
      ∃ rs rc, s.server = .returned rs ∧ s.client = .returned rc := by
  have hok := h.server
  have hwritten : c.nonce ≠ [] := by
    intro hnil
    rw [hnil] at hnonce
    cases hnonce
  cases hphase : s.server with
  | writingNonce | flushingNonce | rejecting | accepting _ | flushingAccept _ =>
    refine Or.inl ⟨.server, ?_⟩
    simp only [State.step, State.serverStep, hphase]
    exact ⟨_, rfl⟩
  | readingPublicKey =>
    rw [hphase] at hok
    rcases readAt_publicKey hseed h.client with hread | ⟨-, hnone⟩
    · refine Or.inl ⟨.server, ?_⟩
      simp only [State.step, State.serverStep, hphase, hok.2, hread]
      exact ⟨_, rfl⟩
    -- nothing to read yet: it is the client's turn
    · obtain ⟨t, ht⟩ := h.client_goes_on hnonce (by rw [hok.1]; exact hwritten)
        (by rw [hnone]; exact (payload_ne_nil hseed).symm)
      exact Or.inl ⟨.client, t, ht⟩
  | readingSignature pubKeyBytes =>
    rw [hphase] at hok
    rcases readAt_signature hseed hnonce h.client with hread | ⟨-, hpart⟩
    · refine Or.inl ⟨.server, ?_⟩
      simp only [State.step, State.serverStep, hphase, hok.2.1, hread]
      exact ⟨_, rfl⟩
    · obtain ⟨t, ht⟩ := h.client_goes_on hnonce (by rw [hok.1]; exact hwritten) hpart
      exact Or.inl ⟨.client, t, ht⟩
  | returned rs =>
    have hwrote : ∃ b, s.serverWrote = c.nonce ++ [b] := by
      rw [hphase] at hok
      cases rs with
      | ok _ | error _ => exact ⟨_, hok.1⟩
    obtain ⟨b, hb⟩ := hwrote
    rcases h.client_ends hseed hnonce hb with ⟨t, ht⟩ | ⟨rc, hrc⟩
    · exact Or.inl ⟨.client, t, ht⟩
    · exact Or.inr ⟨rs, rc, rfl, hrc⟩

/-- How far the server is. -/
def ServerPhase.rank : ServerPhase → Nat
  | writingNonce => 0
  | flushingNonce => 1
  | readingPublicKey => 2
  | readingSignature _ => 3
  | rejecting => 4
  | accepting _ => 4
  | flushingAccept _ => 5
  | returned _ => 6

/-- How far the client is. -/
def ClientPhase.rank : ClientPhase → Nat
  | readingNonce => 0
  | writingPublicKey _ => 1
  | writingSignature _ => 2
  | flushing => 3
  | readingResult => 4
  | returned _ => 5

/-- The verdict is a phase after the reads. -/
theorem lt_rank_verdict (a : ServerAuthenticator) (nonce pubKeyBytes sigBytes : Bytes) :
    3 < (State.verdict a ed nonce pubKeyBytes sigBytes).rank := by
  unfold State.verdict
  simp only
  split_ifs <;> simp [ServerPhase.rank]

/-- Every step takes the server further. -/
theorem rank_serverStep (hstep : s.serverStep c = some t) :
    s.server.rank < t.server.rank ∧ t.client = s.client := by
  unfold State.serverStep at hstep
  cases hphase : s.server with
  | writingNonce | flushingNonce | rejecting | accepting _ | flushingAccept _ =>
    rw [hphase] at hstep
    cases hstep
    exact ⟨by simp [ServerPhase.rank], rfl⟩
  | readingPublicKey =>
    rw [hphase] at hstep
    simp only at hstep
    split at hstep <;> cases hstep <;> exact ⟨by simp [ServerPhase.rank], rfl⟩
  | readingSignature pubKeyBytes =>
    rw [hphase] at hstep
    simp only at hstep
    split at hstep
    · cases hstep
      exact ⟨lt_rank_verdict _ _ _ _, rfl⟩
    · cases hstep
      exact ⟨by simp [ServerPhase.rank], rfl⟩
    · cases hstep
  | returned result =>
    rw [hphase] at hstep
    cases hstep

/-- Every step takes the client further. -/
theorem rank_clientStep (hstep : s.clientStep c = some t) :
    s.client.rank < t.client.rank ∧ t.server = s.server := by
  unfold State.clientStep at hstep
  cases hphase : s.client with
  | writingPublicKey _ | flushing =>
    rw [hphase] at hstep
    cases hstep
    exact ⟨by simp [ClientPhase.rank], rfl⟩
  | readingNonce =>
    rw [hphase] at hstep
    simp only at hstep
    split_ifs at hstep
    · cases hstep
      exact ⟨by simp [ClientPhase.rank], rfl⟩
    · split at hstep <;> cases hstep <;> exact ⟨by simp [ClientPhase.rank], rfl⟩
  | writingSignature nonce =>
    rw [hphase] at hstep
    cases hstep
    refine ⟨?_, rfl⟩
    cases c.kind <;> simp [ClientPhase.rank]
  | readingResult =>
    rw [hphase] at hstep
    simp only at hstep
    split at hstep <;> cases hstep <;> exact ⟨by simp [ClientPhase.rank], rfl⟩
  | returned result =>
    rw [hphase] at hstep
    cases hstep

/-- Every step takes a party further. -/
theorem rank_step {p : Party} (hstep : s.step c p = some t) :
    s.server.rank + s.client.rank < t.server.rank + t.client.rank := by
  cases p with
  | server =>
    obtain ⟨hlt, hsame⟩ := rank_serverStep hstep
    rw [hsame]
    omega
  | client =>
    obtain ⟨hlt, hsame⟩ := rank_clientStep hstep
    rw [hsame]
    omega

/-- The two ranks together are at most 11. -/
theorem rank_le (s : State) : s.server.rank + s.client.rank ≤ 11 := by
  have hserver : s.server.rank ≤ 6 := by cases s.server <;> simp [ServerPhase.rank]
  have hclient : s.client.rank ≤ 5 := by cases s.client <;> simp [ClientPhase.rank]
  omega

/-- A handshake has at most eleven steps. -/
theorem length_le_of_run {steps : List Party}
    (hrun : (machine c).run (machine c).init steps = some s) : steps.length ≤ 11 := by
  have hrank : steps.length ≤ s.server.rank + s.client.rank := by
    refine (machine c).run_history
      (I := fun steps s => steps.length ≤ s.server.rank + s.client.rank)
      (Nat.zero_le _) (fun steps s p t hle hstep => ?_) hrun
    -- every step takes one of the two a phase further, and there are eleven
    have hlt := rank_step hstep
    rw [List.length_append, List.length_singleton]
    omega
  exact le_trans hrank (rank_le s)

/-- Every run keeps the invariant. -/
theorem inv_of_run (hseed : c.seed.length = seedLen) (hnonce : c.nonce.length = nonceLen)
    {steps : List Party} (hrun : (machine c).run (machine c).init steps = some s) : Inv c s := by
  have hinit : Inv c (machine c).init := ⟨⟨rfl, rfl⟩, rfl, rfl⟩
  refine (machine c).run_invariant (fun s p t h hstep => ?_) hinit hrun
  cases p with
  | server => exact h.serverStep hseed hnonce hstep
  | client => exact h.clientStep hseed hnonce hstep

end Invariant

/-! ## The result -/

/-- The authenticator after `new` and any number of `replace_authorized_keys`. -/
def installed (lc : CaseMapping) (first : List Str) (later : List (List Str)) :
    ServerAuthenticator :=
  later.foldl (ServerAuthenticator.replaceAuthorizedKeys lc) (.new lc first)

/-- The list that was installed last. -/
def lastInstalled (first : List Str) (later : List (List Str)) : List Str :=
  later.getLast?.getD first

/-- Only the last list counts. -/
theorem authorizedKeys_installed (lc : CaseMapping) (first : List Str) (later : List (List Str)) :
    (installed lc first later).authorizedKeys = normalize lc (lastInstalled first later) := by
  induction later using List.reverseRecOn with
  | nil => rfl
  | append_singleton later keys ih =>
    simp [installed, lastInstalled, ServerAuthenticator.replaceAuthorizedKeys,
      normalizeAuthorizedKeys]

/-- A list admits a key: it has no entry that is not blank, or an entry that is the key's
hexadecimal text when trimmed and lower-cased. -/
def Admits (lc : CaseMapping) (keys : List Str) (pubKeyBytes : Bytes) : Prop :=
  (∀ key ∈ keys, trimSpace key = []) ∨
    ∃ key ∈ keys, lc.toLowercase (trimSpace key) = hexEncode pubKeyBytes

/-- The authorization check after a history of lists. -/
theorem authorized_iff_admits {lc : CaseMapping} {ed : Ed25519} {c : Setup ed} {first : List Str}
    {later : List (List Str)} (ha : c.authenticator = installed lc first later)
    (hkey : c.publicKey ≠ []) :
    c.Authorized ↔ Admits lc (lastInstalled first later) c.publicKey := by
  unfold Setup.Authorized Admits
  rw [ha, authorizedKeys_installed, normalize_eq_nil, mem_normalize]
  refine or_congr_right ⟨fun h => h.2, fun h => ⟨?_, h⟩⟩
  intro hnil
  have hempty : hexEncode c.publicKey = hexEncode [] := hnil
  exact hkey (hexEncode_injective hempty)

/-- **Server and client agree.** In every interleaving of a handshake, whatever the nonce, the seed,
the client and the lists installed before: there are at most eleven steps, somebody can go on until
both have returned, and then both have succeeded or both have failed. Each succeeds exactly when the
last list admits the client's key; the server then returns the hexadecimal text of that key, which
is that of no other key. -/
theorem handshake_agreement (lc : CaseMapping) {ed : Ed25519} (signing : Signing ed)
    (kind : ClientKind) (first : List Str) (later : List (List Str)) (nonce seed : Bytes)
    (hnonce : nonce.length = nonceLen) (hseed : seed.length = seedLen) (steps : List Party)
    (s : State) :
    let c : Setup ed := ⟨installed lc first later, signing, nonce, kind, seed⟩
    let key := signing.publicKey seed
    (machine c).run (machine c).init steps = some s →
    steps.length ≤ 11 ∧
    ((∃ p t, s.step c p = some t) ∨ ∃ rs rc, s.server = .returned rs ∧ s.client = .returned rc ∧
      (rs.isOk = true ↔ rc.isOk = true)) ∧
    (∀ rs, s.server = .returned rs →
      (rs.isOk = true ↔ Admits lc (lastInstalled first later) key) ∧
      ∀ pubKeyHex, rs = .ok pubKeyHex → pubKeyHex = hexEncode key) ∧
    (∀ rc, s.client = .returned rc →
      (rc.isOk = true ↔ Admits lc (lastInstalled first later) key)) ∧
    ∀ other, hexEncode other = hexEncode key → other = key := by
  intro c key hrun
  have hinv := inv_of_run (c := c) hseed hnonce hrun
  have hkey : c.publicKey ≠ [] := by
    intro hnil
    have hlen : c.publicKey.length = publicKeyLen := signing.length_publicKey seed hseed
    rw [hnil] at hlen
    cases hlen
  have hadmits : c.Authorized ↔ Admits lc (lastInstalled first later) key :=
    authorized_iff_admits rfl hkey
  have hserver : ∀ rs, s.server = .returned rs →
      (rs.isOk = true ↔ Admits lc (lastInstalled first later) key) ∧
      ∀ pubKeyHex, rs = .ok pubKeyHex → pubKeyHex = hexEncode key := by
    intro rs hrs
    have hok := hinv.server
    rw [hrs] at hok
    cases rs with
    | ok pubKeyHex =>
      refine ⟨iff_of_true rfl (hadmits.mp hok.2.2), ?_⟩
      rintro _ ⟨⟩
      exact hok.2.1
    | error e => exact ⟨iff_of_false (by simp) (hok.2.2 ∘ hadmits.mpr), fun _ h => nomatch h⟩
  have hclient : ∀ rc, s.client = .returned rc →
      (rc.isOk = true ↔ Admits lc (lastInstalled first later) key) := by
    intro rc hrc
    have hok := hinv.client
    rw [hrc] at hok
    cases rc with
    | ok _ => exact iff_of_true rfl (hadmits.mp hok.2)
    | error e => exact iff_of_false (nomatch ·) (hok.2 ∘ hadmits.mpr)
  refine ⟨length_le_of_run hrun, ?_, hserver, hclient, fun other h => hexEncode_injective h⟩
  rcases hinv.goes_on hseed hnonce with hstep | ⟨rs, rc, hrs, hrc⟩
  · exact Or.inl hstep
  · exact Or.inr ⟨rs, rc, hrs, hrc, (hserver rs hrs).1.trans (hclient rc hrc).symm⟩

/-- An honest client of the toy scheme: its key is its seed. -/
def toySigning : Signing toyScheme where
  publicKey seed := seed
  sign seed nonce := seed ++ nonce
  length_publicKey _ hseed := hseed
  length_sign seed nonce hseed hnonce := by
    rw [List.length_append, hseed, hnonce]
    rfl
  validKey _ _ := rfl
  verify _ _ _ _ := beq_self_eq_true _

/-- A handshake of the Go client, whose key was installed last, in capitals and between blanks. -/
def goSetup : Setup toyScheme where
  authenticator := installed asciiCase [[]]
    [[[' '] ++ (hexEncode (toyKey 10)).map Char.toUpper ++ [' ']]]
  signing := toySigning
  nonce := List.replicate nonceLen 7
  kind := .go
  seed := toyKey 10

/-- Its steps. -/
def goSteps : List Party :=
  [.server, .server, .client, .client, .server, .client, .server, .server, .client, .server]

/-- The Go client gets in. -/
theorem handshake_goSteps :
    ∃ s, (machine goSetup).run (machine goSetup).init goSteps = some s ∧
      (s.client matches .returned (.ok _)) = true ∧
      s.server = .returned (.ok (hexEncode (toyKey 10))) := by
  obtain ⟨s, hs, hclient, hserver⟩ := (machine goSetup).exists_run goSteps
    (fun s => (s.client matches .returned (.ok _)) = true ∧
      (s.server matches .returned (.ok _)) = true) (by decide +kernel)
  refine ⟨s, hs, hclient, ?_⟩
  obtain ⟨-, -, hagree, -⟩ := handshake_agreement asciiCase toySigning .go [[]] _ _ _
    (by decide) (by decide) goSteps s hs
  cases hphase : s.server with
  | returned rs =>
    cases rs with
    | ok pubKeyHex => rw [(hagree _ hphase).2 pubKeyHex rfl]; rfl
    | error e => rw [hphase] at hserver; cases hserver
  | _ => rw [hphase] at hserver; cases hserver

end Handshake

end Roboat.Auth
