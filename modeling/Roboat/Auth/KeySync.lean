import Mathlib.Data.List.Infix
import Roboat.Auth.Authenticator

/-! # Synchronising the key list

`AuthorizedKeysSyncService` fetches a key list from the platform and installs it, together with the
static keys of the configuration, in the running tunnel server. A failed fetch changes nothing. A
successful one *replaces* the list: the initial keys of the server are not kept, and a fetch without
keys leaves only the static ones. When there are none either, the list becomes empty, which the
authenticator reads as "accept anyone". -/

namespace Roboat.Auth

/-- The outcome of one `fetch_agent_bootstrap_with_client`. -/
inductive FetchOutcome where
  /-- The request failed, or its answer was not a key list. -/
  | err (message : String)
  /-- The `authorized_keys` of the answer (empty when the field is missing). -/
  | ok (authorizedKeys : List Str)
  deriving DecidableEq, Repr

/-- The field of `AuthorizedKeysSyncService` that `sync_once` merges into every fetch. -/
structure AuthorizedKeysSyncService where
  staticAuthorizedKeys : List Str
  deriving DecidableEq, Repr

section Sync

variable (lc : CaseMapping)

/-- `normalize_keys` of `authorized_keys.rs`. -/
def normalizeKeys (keys : List Str) : List Str := normalize lc keys

namespace AuthorizedKeysSyncService

/-- `AuthorizedKeysSyncService::new`. -/
def new (staticAuthorizedKeys : List Str) : AuthorizedKeysSyncService :=
  ⟨normalizeKeys lc staticAuthorizedKeys⟩

/-- `sync_once`, for one outcome of its fetch. -/
def syncOnce (svc : AuthorizedKeysSyncService) (server : ServerAuthenticator) :
    FetchOutcome → ServerAuthenticator
  | .err _ => server
  | .ok fetched =>
    let mergedKeys := normalizeKeys lc (svc.staticAuthorizedKeys ++ fetched)
    if server.authorizedKeys ≠ mergedKeys then server.replaceAuthorizedKeys lc mergedKeys
    else server

/-- The server after a sequence of syncs. -/
def syncAll (svc : AuthorizedKeysSyncService) (server : ServerAuthenticator)
    (outcomes : List FetchOutcome) : ServerAuthenticator :=
  outcomes.foldl (svc.syncOnce lc) server

variable {lc} {svc : AuthorizedKeysSyncService} {server : ServerAuthenticator}

/-- **After a successful sync** the list has the static keys and the fetched ones, whichever branch
was taken. -/
theorem mem_syncOnce_ok {static fetched : List Str} {k : Str} :
    k ∈ ((new lc static).syncOnce lc server (.ok fetched)).authorizedKeys ↔
      k ∈ normalize lc static ∨ k ∈ normalize lc fetched := by
  have hmerged : k ∈ normalizeKeys lc ((new lc static).staticAuthorizedKeys ++ fetched) ↔
      k ∈ normalize lc static ∨ k ∈ normalize lc fetched := by
    unfold normalizeKeys new
    rw [mem_normalize_append]
    exact or_congr_left mem_normalize_normalize
  simp only [syncOnce]
  split_ifs with hchanged
  · rw [← hmerged]
    exact mem_normalize_normalize
  · rw [not_not.mp hchanged, hmerged]

/-- A successful sync leaves an empty list exactly when all static and all fetched keys are blank.
-/
theorem syncOnce_ok_eq_nil {static fetched : List Str} :
    ((new lc static).syncOnce lc server (.ok fetched)).authorizedKeys = [] ↔
      (∀ key ∈ static, trimSpace key = []) ∧ ∀ key ∈ fetched, trimSpace key = [] := by
  rw [← normalize_eq_nil lc, ← normalize_eq_nil lc]
  simp only [List.eq_nil_iff_forall_not_mem, mem_syncOnce_ok, not_or, forall_and]

/-- A key on the list after some syncs was on it before, is static, or was fetched. -/
theorem mem_syncAll {static : List Str} {outcomes : List FetchOutcome} {k : Str}
    (hk : k ∈ ((new lc static).syncAll lc server outcomes).authorizedKeys) :
    k ∈ server.authorizedKeys ∨ k ∈ normalize lc static ∨
      ∃ fetched, .ok fetched ∈ outcomes ∧ k ∈ normalize lc fetched := by
  induction outcomes generalizing server with
  | nil => exact Or.inl hk
  | cons outcome outcomes ih =>
    rcases ih hk with hserver | hstatic | ⟨fetched, hmem, hfetched⟩
    · cases outcome with
      | err message => exact Or.inl hserver
      | ok fetched =>
        rcases mem_syncOnce_ok.mp hserver with hstatic | hfetched
        · exact Or.inr (Or.inl hstatic)
        · exact Or.inr (Or.inr ⟨fetched, List.mem_cons_self, hfetched⟩)
    · exact Or.inr (Or.inl hstatic)
    · exact Or.inr (Or.inr ⟨fetched, List.mem_cons_of_mem _ hmem, hfetched⟩)

/-- Syncs that all bring a key, from the configuration or from the platform, never empty the list.
-/
theorem syncAll_ne_nil {static : List Str} {outcomes : List FetchOutcome}
    (hserver : server.authorizedKeys ≠ [])
    (hkeys : (∃ key ∈ static, trimSpace key ≠ []) ∨
      ∀ fetched, .ok fetched ∈ outcomes → ∃ key ∈ fetched, trimSpace key ≠ []) :
    ((new lc static).syncAll lc server outcomes).authorizedKeys ≠ [] := by
  induction outcomes generalizing server with
  | nil => exact hserver
  | cons outcome outcomes ih =>
    refine ih ?_ (hkeys.imp_right fun h fetched hmem => h fetched (List.mem_cons_of_mem _ hmem))
    cases outcome with
    | err message => exact hserver
    | ok fetched =>
      rw [Ne, syncOnce_ok_eq_nil]
      rintro ⟨hstatic, hfetched⟩
      rcases hkeys with ⟨key, hkey, hne⟩ | h
      · exact hne (hstatic key hkey)
      · obtain ⟨key, hkey, hne⟩ := h fetched List.mem_cons_self
        exact hne (hfetched key hkey)

end AuthorizedKeysSyncService

end Sync

/-- The server at the point of a run where the fetches `seen` have been made. -/
def serverAfter (lc : CaseMapping) (initial static : List Str) (seen : List FetchOutcome) :
    ServerAuthenticator :=
  (AuthorizedKeysSyncService.new lc static).syncAll lc (.new lc initial) seen

/-- A successful fetch of blanks only, with blanks only in the configuration, opens the server:
every authentic client is accepted. -/
theorem accepts_serverAfter_of_blank (lc : CaseMapping) (initial : List Str)
    (before : List FetchOutcome) {ed : Ed25519} {static fetched : List Str} {c : Attempt}
    (hauth : c.authentic ed = true) (hstatic : ∀ key ∈ static, trimSpace key = [])
    (hfetched : ∀ key ∈ fetched, trimSpace key = []) :
    (serverAfter lc initial static (before ++ [FetchOutcome.ok fetched])).accepts ed c = true := by
  refine ServerAuthenticator.accepts_iff.mpr ⟨hauth, Or.inl ?_⟩
  unfold serverAfter AuthorizedKeysSyncService.syncAll
  rw [List.foldl_append]
  exact AuthorizedKeysSyncService.syncOnce_ok_eq_nil.mpr ⟨hstatic, hfetched⟩

/-- The client's key is on none of the lists of a run: the initial one, the static one, the fetched
ones. Entries are compared as the authenticator compares them, after normalisation. -/
def Unlisted (lc : CaseMapping) (initial static : List Str) (outcomes : List FetchOutcome)
    (c : Attempt) : Prop :=
  c.publicKeyHex ∉ normalize lc initial ∧ c.publicKeyHex ∉ normalize lc static ∧
    ∀ fetched, .ok fetched ∈ outcomes → c.publicKeyHex ∉ normalize lc fetched

/-- A client whose key is on no list is not on the server's list either. -/
theorem Unlisted.not_mem_serverAfter {lc : CaseMapping} {initial static : List Str}
    {outcomes seen : List FetchOutcome} {c : Attempt} (h : Unlisted lc initial static outcomes c)
    (hseen : seen <+: outcomes) :
    c.publicKeyHex ∉ (serverAfter lc initial static seen).authorizedKeys := by
  intro hmem
  rcases AuthorizedKeysSyncService.mem_syncAll hmem with hold | hstatic | ⟨fetched, hf, hmem⟩
  · exact h.1 hold
  · exact h.2.1 hstatic
  · exact h.2.2 fetched (hseen.subset hf) hmem

/-- **When the sync keeps strangers out.** For a server that starts with a non-empty list, a client
whose key is on no list is refused at every point of the run exactly when it is not authentic
anyway, or some static key is not blank, or every successful fetch brings a key that is not blank.
-/
theorem stranger_refused_iff (lc : CaseMapping) (ed : Ed25519) (initial static : List Str)
    (outcomes : List FetchOutcome) (c : Attempt)
    (hinitial : normalizeAuthorizedKeys lc initial ≠ [])
    (hunlisted : Unlisted lc initial static outcomes c) :
    (∀ seen, seen <+: outcomes → (serverAfter lc initial static seen).accepts ed c = false) ↔
      c.authentic ed = false ∨ (∃ key ∈ static, trimSpace key ≠ []) ∨
        ∀ fetched, .ok fetched ∈ outcomes → ∃ key ∈ fetched, trimSpace key ≠ [] := by
  constructor
  · intro hrefused
    by_contra hnot
    push Not at hnot
    obtain ⟨hauth, hstatic, fetched, hmem, hfetched⟩ := hnot
    obtain ⟨before, after, rfl⟩ := List.append_of_mem hmem
    have hopen := accepts_serverAfter_of_blank lc initial before
      (Bool.eq_true_of_not_eq_false hauth) hstatic hfetched
    have hclosed := hrefused (before ++ [FetchOutcome.ok fetched]) ⟨after, by simp⟩
    rw [hopen] at hclosed
    cases hclosed
  · intro hcond seen hseen
    rw [← Bool.not_eq_true, ServerAuthenticator.accepts_iff]
    rintro ⟨hauth, hnil | hmem⟩
    · rcases hcond with hfalse | hkeys
      · rw [hauth] at hfalse
        cases hfalse
      · refine AuthorizedKeysSyncService.syncAll_ne_nil hinitial ?_ hnil
        exact hkeys.imp_right fun h fetched hf => h fetched (hseen.subset hf)
    · exact hunlisted.not_mem_serverAfter hseen hmem

/-- The lower-case mapping of ASCII text. -/
def asciiCase : CaseMapping where
  toLowercase s := s.map asciiFold
  toLowercase_idem s := by
    rw [List.map_map]
    exact List.map_congr_left fun c _ => asciiFold_asciiFold c
  toLowercase_eq_nil _ := List.map_eq_nil_iff
  trimSpace_toLowercase s hs := by rw [trimSpace_map isWhiteSpace_asciiFold, hs]

/-- A toy signature scheme: a signature is the key followed by the nonce. -/
def toyScheme : Ed25519 := ⟨fun _ => true, fun key nonce signature => signature == key ++ nonce⟩

/-- A key of thirty-two equal bytes. -/
def toyKey (b : UInt8) : Bytes := List.replicate publicKeyLen b

/-- A client with the key `toyKey b` that signs correctly, over a connection without faults. -/
def toyClient (b : UInt8) : Attempt where
  nonce := List.replicate nonceLen 7
  received := toyKey b ++ (toyKey b ++ List.replicate nonceLen 7)
  io _ := .done

/-- A stranger is refused while the platform fails and then hands out another key. -/
theorem stranger_refused_toyClient :
    Unlisted asciiCase [hexEncode (toyKey 1)] [] [.err "timeout", .ok [hexEncode (toyKey 2)]]
      (toyClient 3) ∧
    ∀ seen, seen <+: [.err "timeout", .ok [hexEncode (toyKey 2)]] →
      (serverAfter asciiCase [hexEncode (toyKey 1)] [] seen).accepts toyScheme (toyClient 3)
        = false := by
  have hunlisted : Unlisted asciiCase [hexEncode (toyKey 1)] []
      [.err "timeout", .ok [hexEncode (toyKey 2)]] (toyClient 3) := by
    refine ⟨by decide, by decide, fun fetched hmem => ?_⟩
    obtain rfl : fetched = [hexEncode (toyKey 2)] := by simpa using hmem
    decide
  refine ⟨hunlisted, (stranger_refused_iff asciiCase toyScheme _ _ _ _ (by decide) hunlisted).mpr
    (Or.inr (Or.inr ?_))⟩
  intro fetched hmem
  obtain rfl : fetched = [hexEncode (toyKey 2)] := by simpa using hmem
  exact ⟨_, List.mem_singleton_self _, by decide⟩

/-- **The sync can open the server**: the platform revokes the last key, and a stranger is accepted
by a server that was started with a key list. -/
theorem stranger_accepted :
    normalizeAuthorizedKeys asciiCase [hexEncode (toyKey 1)] ≠ [] ∧
    Unlisted asciiCase [hexEncode (toyKey 1)] [] [.ok []] (toyClient 3) ∧
    (serverAfter asciiCase [hexEncode (toyKey 1)] [] []).accepts toyScheme (toyClient 3) = false ∧
    (serverAfter asciiCase [hexEncode (toyKey 1)] [] [.ok []]).accepts toyScheme (toyClient 3)
      = true := by
  refine ⟨by decide, ⟨by decide, by decide, fun fetched hmem => ?_⟩, by decide, by decide⟩
  obtain rfl : fetched = [] := by simpa using hmem
  decide

end Roboat.Auth
