import Mathlib.Data.Char
import Mathlib.Data.List.Lex
import Mathlib.Data.List.Sort
import Roboat.Text.Strings
import Roboat.Wire.BigEndian

/-! # The server authenticator and its key list

`ServerAuthenticator` keeps a normalised list of hexadecimal public keys. A client is accepted when
its signature over the nonce verifies and its key is on the list, *or the list is empty*. The list
is replaced as a whole and read as a whole, under a lock, so a state is one list.

Outside the repository: `str::to_lowercase` (`CaseMapping`, with the three laws of the Unicode
mapping that normalisation relies on) and the signature scheme (`Ed25519`). -/

namespace Roboat.Auth

/-- `str::to_lowercase`, with what the Unicode lower-case mapping guarantees. -/
structure CaseMapping where
  /-- The mapping. -/
  toLowercase : Str → Str
  /-- Lower-case text is not changed again. -/
  toLowercase_idem : ∀ s, toLowercase (toLowercase s) = toLowercase s
  /-- Only the empty text is mapped to the empty text. -/
  toLowercase_eq_nil : ∀ s, toLowercase s = [] ↔ s = []
  /-- No white space appears at the ends. -/
  trimSpace_toLowercase : ∀ s, trimSpace s = s → trimSpace (toLowercase s) = toLowercase s

/-! ## Normalised key lists -/

section Normalize

/-- `Vec::dedup`: of each run of equal neighbours one is kept. -/
def dedup {α : Type*} [DecidableEq α] : List α → List α
  | [] => []
  | [a] => [a]
  | a :: b :: l => if a = b then dedup (b :: l) else a :: dedup (b :: l)

/-- Removing repeated neighbours keeps the members. -/
@[simp] theorem mem_dedup {α : Type*} [DecidableEq α] {l : List α} {x : α} :
    x ∈ dedup l ↔ x ∈ l := by
  induction l with
  | nil => rfl
  | cons a l ih =>
    cases l with
    | nil => rfl
    | cons b l =>
      unfold dedup
      split_ifs with hab
      · rw [ih, hab]
        simp
      · rw [List.mem_cons, ih, List.mem_cons (b := a)]

variable (lc : CaseMapping)

/-- What becomes of one entry of a key list. -/
def normalizeKey (key : Str) : Str := lc.toLowercase (trimSpace key)

/-- The shared body of `normalize_authorized_keys` and `normalize_keys`. -/
def normalize (keys : List Str) : List Str :=
  dedup (((keys.map (normalizeKey lc)).filter fun key => !key.isEmpty).insertionSort (· ≤ ·))

/-- `normalize_authorized_keys` of `auth.rs`. -/
def normalizeAuthorizedKeys (keys : List Str) : List Str := normalize lc keys

/-- Normalising an entry twice is normalising it once. -/
@[simp] theorem normalizeKey_normalizeKey (key : Str) :
    normalizeKey lc (normalizeKey lc key) = normalizeKey lc key := by
  unfold normalizeKey
  rw [lc.trimSpace_toLowercase _ (trimSpace_trimSpace key), lc.toLowercase_idem]

/-- An entry disappears exactly when it is blank. -/
theorem normalizeKey_eq_nil {key : Str} : normalizeKey lc key = [] ↔ trimSpace key = [] :=
  lc.toLowercase_eq_nil _

variable {lc}

/-- **The members of a normalised list** are the normalised entries that are not blank. -/
theorem mem_normalize {keys : List Str} {k : Str} :
    k ∈ normalize lc keys ↔ k ≠ [] ∧ ∃ key ∈ keys, normalizeKey lc key = k := by
  unfold normalize
  rw [mem_dedup, List.mem_insertionSort, List.mem_filter, List.mem_map]
  simp [and_comm]

/-- A normalised list is empty exactly when all entries were blank. -/
theorem normalize_eq_nil (lc : CaseMapping) {keys : List Str} :
    normalize lc keys = [] ↔ ∀ key ∈ keys, trimSpace key = [] := by
  rw [List.eq_nil_iff_forall_not_mem]
  constructor
  · intro h key hkey
    by_contra hne
    exact h (normalizeKey lc key)
      (mem_normalize.mpr ⟨mt (normalizeKey_eq_nil lc).mp hne, key, hkey, rfl⟩)
  · intro h k hk
    obtain ⟨hne, key, hkey, rfl⟩ := mem_normalize.mp hk
    exact hne ((normalizeKey_eq_nil lc).mpr (h key hkey))

/-- Normalising twice keeps the members. -/
theorem mem_normalize_normalize {keys : List Str} {k : Str} :
    k ∈ normalize lc (normalize lc keys) ↔ k ∈ normalize lc keys := by
  constructor
  · intro hk
    obtain ⟨-, key, hkey, rfl⟩ := mem_normalize.mp hk
    obtain ⟨hne, key', hkey', rfl⟩ := mem_normalize.mp hkey
    rw [normalizeKey_normalizeKey]
    exact hkey
  · intro hk
    obtain ⟨hne, key, hkey, rfl⟩ := mem_normalize.mp hk
    exact mem_normalize.mpr ⟨hne, _, hk, normalizeKey_normalizeKey lc key⟩

/-- The members of the normal form of two lists put together. -/
theorem mem_normalize_append {keys keys' : List Str} {k : Str} :
    k ∈ normalize lc (keys ++ keys') ↔ k ∈ normalize lc keys ∨ k ∈ normalize lc keys' := by
  simp only [mem_normalize, List.mem_append, or_and_right, exists_or, and_or_left]

end Normalize

/-! ## The handshake -/

/-- `AuthError`. -/
inductive AuthError where
  /-- An I/O error or a timeout. -/
  | io (message : String)
  | invalidSignature
  | invalidPublicKey
  | unauthorized
  deriving DecidableEq, Repr

/-- `NONCE_LEN`. -/
def nonceLen : Nat := 32

/-- `PUBLIC_KEY_LEN`. -/
def publicKeyLen : Nat := 32

/-- `SIGNATURE_LEN`. -/
def signatureLen : Nat := 64

/-- The I/O operations of `ServerAuthenticator::authenticate`, each awaited under a timeout. -/
inductive AuthOp where
  | writeNonce
  | flushNonce
  | readPublicKey
  | readSignature
  | writeAuthReject
  | writeAuthAccept
  | flushAuthAccept
  deriving DecidableEq, Repr

/-- The operation's name in a timeout message. -/
def AuthOp.name : AuthOp → String
  | writeNonce => "write nonce"
  | flushNonce => "flush nonce"
  | readPublicKey => "read public key"
  | readSignature => "read signature"
  | writeAuthReject => "write auth reject"
  | writeAuthAccept => "write auth accept"
  | flushAuthAccept => "flush auth accept"

/-- How an awaited operation ends. -/
inductive IoOutcome where
  | done
  | failed (message : String)
  | timedOut
  deriving DecidableEq, Repr

/-- `with_io_timeout`. -/
def withIoTimeout (op : AuthOp) : IoOutcome → Except AuthError Unit
  | .done => .ok ()
  | .failed message => .error (.io message)
  | .timedOut => .error (.io ("auth " ++ op.name ++ " timeout"))

/-- One connection as the authenticator meets it: the random nonce, the bytes the client sends, and
how the operations end. -/
structure Attempt where
  nonce : Bytes
  received : Bytes
  io : AuthOp → IoOutcome

/-- `read_exact` under a timeout: fails when the operation does, or when the bytes run out. -/
def Attempt.readExact (c : Attempt) (op : AuthOp) (n : Nat) (bs : Bytes) :
    Except AuthError (Bytes × Bytes) :=
  match withIoTimeout op (c.io op) with
  | .error e => .error e
  | .ok () => if n ≤ bs.length then .ok (bs.take n, bs.drop n) else .error (.io "early eof")

/-- `ed25519_dalek`: which byte strings are public keys, and which signatures verify. -/
structure Ed25519 where
  /-- `VerifyingKey::from_bytes` succeeds. -/
  validKey : Bytes → Bool
  /-- `verify` of a nonce and a signature under a key succeeds. -/
  verify : (key nonce signature : Bytes) → Bool

/-- `ServerAuthenticator`: its current list. -/
structure ServerAuthenticator where
  authorizedKeys : List Str
  deriving DecidableEq, Repr

namespace ServerAuthenticator

/-- `ServerAuthenticator::new`. -/
def new (lc : CaseMapping) (authorizedKeys : List Str) : ServerAuthenticator :=
  ⟨normalizeAuthorizedKeys lc authorizedKeys⟩

/-- `replace_authorized_keys`. -/
def replaceAuthorizedKeys (lc : CaseMapping) (_ : ServerAuthenticator) (authorizedKeys : List Str) :
    ServerAuthenticator :=
  ⟨normalizeAuthorizedKeys lc authorizedKeys⟩

/-- Step 4 of `authenticate`: the list check and the answer byte. Returns what is written and the
result. -/
def checkAuthorization (a : ServerAuthenticator) (c : Attempt) (pubKeyHex : Str) :
    Bytes × Except AuthError Str :=
  if !a.authorizedKeys.isEmpty && !a.authorizedKeys.contains pubKeyHex then
    match withIoTimeout .writeAuthReject (c.io .writeAuthReject) with
    | .error e => ([], .error e)
    | .ok () => ([0x00], .error .unauthorized)
  else
    match withIoTimeout .writeAuthAccept (c.io .writeAuthAccept) with
    | .error e => ([], .error e)
    | .ok () =>
      match withIoTimeout .flushAuthAccept (c.io .flushAuthAccept) with
      | .error e => ([0x01], .error e)
      | .ok () => ([0x01], .ok pubKeyHex)

/-- **`authenticate`**: what the server writes and the result, the hexadecimal key of the client. -/
def authenticate (ed : Ed25519) (a : ServerAuthenticator) (c : Attempt) :
    Bytes × Except AuthError Str :=
  match withIoTimeout .writeNonce (c.io .writeNonce) with
  | .error e => ([], .error e)
  | .ok () =>
    match withIoTimeout .flushNonce (c.io .flushNonce) with
    | .error e => (c.nonce, .error e)
    | .ok () =>
      match c.readExact .readPublicKey publicKeyLen c.received with
      | .error e => (c.nonce, .error e)
      | .ok (pubKeyBytes, rest) =>
        match c.readExact .readSignature signatureLen rest with
        | .error e => (c.nonce, .error e)
        | .ok (sigBytes, _) =>
          if !ed.validKey pubKeyBytes then (c.nonce, .error .invalidPublicKey)
          else if !ed.verify pubKeyBytes c.nonce sigBytes then (c.nonce, .error .invalidSignature)
          else
            let (answer, result) := a.checkAuthorization c (hexEncode pubKeyBytes)
            (c.nonce ++ answer, result)

end ServerAuthenticator

namespace Attempt

/-- The key the client presents. -/
def publicKeyHex (c : Attempt) : Str := hexEncode (c.received.take publicKeyLen)

/-- The client presents a key with a valid signature over the nonce, and no operation fails. -/
def authentic (ed : Ed25519) (c : Attempt) : Bool :=
  let pubKeyBytes := c.received.take publicKeyLen
  let sigBytes := (c.received.drop publicKeyLen).take signatureLen
  decide (publicKeyLen + signatureLen ≤ c.received.length) &&
    ed.validKey pubKeyBytes && ed.verify pubKeyBytes c.nonce sigBytes &&
    [AuthOp.writeNonce, .flushNonce, .readPublicKey, .readSignature, .writeAuthAccept,
      .flushAuthAccept].all (fun op => c.io op == .done)

end Attempt

/-- An awaited operation ends well, or with an error. -/
theorem withIoTimeout_cases (op : AuthOp) (o : IoOutcome) :
    (o = .done ∧ withIoTimeout op o = .ok ()) ∨
      (o ≠ .done ∧ ∃ e, withIoTimeout op o = .error e) := by
  cases o with
  | done => exact Or.inl ⟨rfl, rfl⟩
  | failed message | timedOut => exact Or.inr ⟨by simp, _, rfl⟩

/-- An exact read succeeds exactly when the operation does and there are bytes enough. -/
theorem Attempt.readExact_cases (c : Attempt) (op : AuthOp) (n : Nat) (bs : Bytes) :
    (c.io op = .done ∧ n ≤ bs.length ∧ c.readExact op n bs = .ok (bs.take n, bs.drop n)) ∨
      (¬ (c.io op = .done ∧ n ≤ bs.length) ∧ ∃ e, c.readExact op n bs = .error e) := by
  unfold Attempt.readExact
  rcases withIoTimeout_cases op (c.io op) with ⟨hdone, hok⟩ | ⟨hdone, e, herr⟩
  · rw [hok]
    by_cases hn : n ≤ bs.length
    · exact Or.inl ⟨hdone, hn, by simp [hn]⟩
    · exact Or.inr ⟨fun h => hn h.2, _, by simp [hn]; rfl⟩
  · rw [herr]
    exact Or.inr ⟨fun h => hdone h.1, e, rfl⟩

/-- What it takes to be authentic, in the order in which `authenticate` finds out. -/
theorem Attempt.authentic_iff {ed : Ed25519} {c : Attempt} :
    c.authentic ed = true ↔
      (c.io .writeNonce = .done ∧ c.io .flushNonce = .done) ∧
      (c.io .readPublicKey = .done ∧ publicKeyLen ≤ c.received.length) ∧
      (c.io .readSignature = .done ∧ signatureLen ≤ (c.received.drop publicKeyLen).length) ∧
      ed.validKey (c.received.take publicKeyLen) = true ∧
      ed.verify (c.received.take publicKeyLen) c.nonce
        ((c.received.drop publicKeyLen).take signatureLen) = true ∧
      (c.io .writeAuthAccept = .done ∧ c.io .flushAuthAccept = .done) := by
  have hlen : publicKeyLen + signatureLen ≤ c.received.length ↔
      publicKeyLen ≤ c.received.length ∧ signatureLen ≤ (c.received.drop publicKeyLen).length := by
    rw [List.length_drop]
    omega
  simp only [Attempt.authentic, Bool.and_eq_true, decide_eq_true_eq, hlen, List.all_cons,
    List.all_nil, beq_iff_eq]
  tauto

@[simp] theorem isOk_ok {α : Type} (x : α) : (Except.ok x : Except AuthError α).isOk = true := rfl

@[simp] theorem isOk_error {α : Type} (e : AuthError) :
    (Except.error e : Except AuthError α).isOk = false := rfl

namespace ServerAuthenticator

variable {ed : Ed25519} {a : ServerAuthenticator} {c : Attempt}

/-- The client is accepted: `authenticate` returns `Ok`. -/
def accepts (ed : Ed25519) (a : ServerAuthenticator) (c : Attempt) : Bool :=
  (a.authenticate ed c).2.isOk

/-- A key passes the list check exactly when the list is empty or has the key, and the answer gets
through. -/
theorem isOk_checkAuthorization {key : Str} :
    (a.checkAuthorization c key).2.isOk = true ↔
      (c.io .writeAuthAccept = .done ∧ c.io .flushAuthAccept = .done) ∧
        (a.authorizedKeys = [] ∨ key ∈ a.authorizedKeys) := by
  unfold checkAuthorization
  by_cases hlist : a.authorizedKeys = [] ∨ key ∈ a.authorizedKeys
  · have hpass : (!a.authorizedKeys.isEmpty && !a.authorizedKeys.contains key) = false := by
      rcases hlist with h | h <;> simp [h]
    rw [hpass, if_neg (by simp)]
    rcases withIoTimeout_cases .writeAuthAccept (c.io .writeAuthAccept) with
      ⟨hw, hok⟩ | ⟨hw, e, herr⟩
    swap
    · exact iff_of_false (by simp [herr]) fun h => hw h.1.1
    rw [hok]
    rcases withIoTimeout_cases .flushAuthAccept (c.io .flushAuthAccept) with
      ⟨hf, hok⟩ | ⟨hf, e, herr⟩
    · exact iff_of_true (by simp [hok]) ⟨⟨hw, hf⟩, hlist⟩
    · exact iff_of_false (by simp [herr]) fun h => hf h.1.2
  · have hfail : (!a.authorizedKeys.isEmpty && !a.authorizedKeys.contains key) = true := by
      rw [not_or] at hlist
      simp [hlist.1, hlist.2]
    rw [hfail, if_pos rfl]
    refine iff_of_false ?_ fun h => hlist h.2
    rcases withIoTimeout_cases .writeAuthReject (c.io .writeAuthReject) with
      ⟨-, hok⟩ | ⟨-, e, herr⟩
    · simp [hok]
    · simp [herr]

/-- **Who is accepted**: an authentic client, if the list is empty or has its key. -/
theorem accepts_iff :
    a.accepts ed c = true ↔
      c.authentic ed = true ∧ (a.authorizedKeys = [] ∨ c.publicKeyHex ∈ a.authorizedKeys) := by
  rw [Attempt.authentic_iff]
  unfold accepts authenticate
  rcases withIoTimeout_cases .writeNonce (c.io .writeNonce) with ⟨h₁, hok⟩ | ⟨h₁, e, herr⟩
  swap
  · exact iff_of_false (by simp [herr]) fun h => h₁ h.1.1.1
  rw [hok]
  rcases withIoTimeout_cases .flushNonce (c.io .flushNonce) with ⟨h₂, hok⟩ | ⟨h₂, e, herr⟩
  swap
  · exact iff_of_false (by simp [herr]) fun h => h₂ h.1.1.2
  rw [hok]
  rcases c.readExact_cases .readPublicKey publicKeyLen c.received with
    ⟨h₃, hn₃, hok⟩ | ⟨h₃, e, herr⟩
  swap
  · exact iff_of_false (by simp [herr]) fun h => h₃ h.1.2.1
  rw [hok]
  rcases c.readExact_cases .readSignature signatureLen (c.received.drop publicKeyLen) with
    ⟨h₄, hn₄, hok⟩ | ⟨h₄, e, herr⟩
  swap
  · exact iff_of_false (by simp [herr]) fun h => h₄ h.1.2.2.1
  simp only [hok]
  by_cases hkey : ed.validKey (c.received.take publicKeyLen) = true
  swap
  · exact iff_of_false (by simp [hkey]) fun h => hkey h.1.2.2.2.1
  by_cases hsig : ed.verify (c.received.take publicKeyLen) c.nonce
      ((c.received.drop publicKeyLen).take signatureLen) = true
  swap
  · exact iff_of_false (by simp [hkey, hsig]) fun h => hsig h.1.2.2.2.2.1
  simp only [hkey, hsig, Bool.not_true, Bool.false_eq_true, if_false]
  rw [isOk_checkAuthorization]
  simp only [h₁, h₂, h₃, h₄, hn₃, hn₄, true_and]
  rfl

end ServerAuthenticator

end Roboat.Auth
