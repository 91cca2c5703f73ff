import Mathlib.Data.List.Basic
import Mathlib.Data.List.Nodup
import Mathlib.Tactic.SplitIfs
import Roboat.Text.Strings

/-! # TURN URLs

The agent gets TURN URLs from the platform and gives the ICE stack what it can use of them. Three
functions read a URL: `turn_url_transport` (and `is_supported_turn_url` on top of it) classifies it,
`expand_turn_urls` makes the URLs to use of it, and `filter_supported_turn_urls` collects those.
`connect` logs what the first says of a URL and uses what the second makes of it.

What is made of a URL is classified as usable (`transport_of_mem_expand`). The two verdicts agree
except on one kind of URL: `turns:` with a transport that is neither `udp` nor `tcp`, when TCP is
enabled, is logged as unsupported and used all the same (`verdicts_agree_iff`). What the filter
collects is exactly what is made of the URLs, or of the `turns:` URLs where those are wanted,
without repetitions (`filterSupportedTurnUrls_spec`). -/

namespace Roboat.Webrtc

/-- `TurnUrlTransport`. -/
inductive TurnUrlTransport where
  | udp
  | tcp
  deriving DecidableEq, Repr

/-! ## The code -/

/-- `parse_turn_transport_query`: the value of the first `transport` parameter. -/
def parseTurnTransportQuery (query : Str) : Option Str :=
  (query.splitOn '&').findSome? fun kv =>
    (splitOnce '=' kv).bind fun (key, value) =>
      if key = "transport".toList then some value else none

/-- `url.trim().to_ascii_lowercase()`. -/
def normalizeUrl (url : Str) : Str := (trimSpace url).map asciiFold

/-- The text before the query. -/
def base (url : Str) : Str :=
  match splitOnce '?' (normalizeUrl url) with
  | some (lhs, _) => lhs
  | none => normalizeUrl url

/-- The transport that the query asks for. -/
def queryTransport (url : Str) : Option Str :=
  ((splitOnce '?' (normalizeUrl url)).map Prod.snd).bind parseTurnTransportQuery

def turns : Str := "turns:".toList
def turn : Str := "turn:".toList
def udp : Str := "udp".toList
def tcp : Str := "tcp".toList

/-- `turn_url_transport`. -/
def turnUrlTransport (url : Str) : Option TurnUrlTransport :=
  if turns.isPrefixOf (base url) then
    match queryTransport url with
    | none => some .tcp
    | some t => if t = udp then none else if t = tcp then some .tcp else none
  else if !turn.isPrefixOf (base url) then none
  else
    match queryTransport url with
    | none => some .udp
    | some t => if t = udp then some .udp else if t = tcp then some .tcp else none

/-- `is_supported_turn_url`. -/
def isSupportedTurnUrl (url : Str) (tcpEnabled : Bool) : Bool :=
  match turnUrlTransport url with
  | some .udp => true
  | some .tcp => tcpEnabled
  | none => false

/-- `format!("turn:{}?transport={}", host, transport)`. -/
def formatUrl (host transport : Str) : Str := turn ++ host ++ "?transport=".toList ++ transport

/-- `expand_turn_urls`. -/
def expandTurnUrls (url : Str) (tcpEnabled : Bool) : List Str :=
  if turns.isPrefixOf (base url) then
    -- any transport but `udp` will do here
    if tcpEnabled = false ∨ queryTransport url = some udp then []
    else [formatUrl (trimStartMatches turns (base url)) tcp]
  else if !turn.isPrefixOf (base url) then []
  else
    let host := trimStartMatches turn (base url)
    match queryTransport url with
    | none => if tcpEnabled then [formatUrl host udp, formatUrl host tcp] else [formatUrl host udp]
    | some t =>
      if t = udp then [formatUrl host udp]
      else if t = tcp ∧ tcpEnabled = true then [formatUrl host tcp]
      else []

/-- The loop that leaves out what is there already. -/
def pushNew (out : List Str) (urls : List Str) : List Str :=
  urls.foldl (fun out url => if url ∈ out then out else out ++ [url]) out

/-- The URLs made of each URL, with a mark for those that come from `turns:` and use TCP. -/
def expandAll (urls : List Str) (tcpEnabled : Bool) : List (Str × Bool) :=
  urls.flatMap fun raw =>
    (expandTurnUrls raw tcpEnabled).map fun u =>
      (u, turns.isPrefixOf (normalizeUrl raw) && turnUrlTransport u == some .tcp)

/-- `filter_supported_turn_urls`, with the two flags of the environment. -/
def filterSupportedTurnUrls (urls : List Str) (tcpEnabled tlsOnlyFlag : Bool) : List Str :=
  let expanded := expandAll urls tcpEnabled
  let tlsUrls := pushNew [] ((expanded.filter Prod.snd).map Prod.fst)
  if (tcpEnabled && tlsOnlyFlag) && !tlsUrls.isEmpty then tlsUrls
  else pushNew [] (expanded.map Prod.fst)

/-! ## Reading a URL that was made -/

/-- The characters before the query are in lower case. -/
theorem asciiFold_of_mem_base {url : Str} {c : Char} (h : c ∈ base url) : asciiFold c = c := by
  have hmem : c ∈ normalizeUrl url := by
    unfold base at h
    cases hsplit : splitOnce '?' (normalizeUrl url) with
    | none =>
      rw [hsplit] at h
      exact h
    | some p =>
      rw [hsplit] at h
      rw [(eq_of_splitOnce hsplit).1]
      exact List.mem_append_left _ h
  obtain ⟨d, -, rfl⟩ := List.mem_map.mp hmem
  exact asciiFold_asciiFold d

theorem not_mem_base (url : Str) : '?' ∉ base url := by
  unfold base
  cases hsplit : splitOnce '?' (normalizeUrl url) with
  | none => exact splitOnce_eq_none.mp hsplit
  | some p => exact (eq_of_splitOnce hsplit).2

section Made

variable {host transport : Str} (hfold : ∀ c ∈ host, asciiFold c = c) (hquery : '?' ∉ host)
  (htransport : transport = udp ∨ transport = tcp)

include hfold htransport in
theorem normalizeUrl_formatUrl :
    normalizeUrl (formatUrl host transport) = formatUrl host transport := by
  have htrim : trimSpace (formatUrl host transport) = formatUrl host transport := by
    apply trimSpace_eq_self
    · intro c hc
      cases hc
      decide
    · intro c hc
      rcases htransport with rfl | rfl <;> simp [formatUrl, udp, tcp] at hc <;> subst hc <;> decide
  rw [normalizeUrl, htrim]
  refine (List.map_congr_left ?_).trans (List.map_id _)
  intro c hc
  simp only [formatUrl, List.mem_append] at hc
  have hall : [turn, "?transport=".toList, udp, tcp].all
      (fun s => s.all fun d => asciiFold d == d) = true := by decide +kernel
  have hfixed : ∀ s ∈ [turn, "?transport=".toList, udp, tcp], ∀ d ∈ s, asciiFold d = d :=
    fun s hs d hd => eq_of_beq (List.all_eq_true.mp (List.all_eq_true.mp hall s hs) d hd)
  rcases hc with ((hc | hc) | hc) | hc
  · exact hfixed _ (by simp) c hc
  · exact hfold c hc
  · exact hfixed _ (by simp) c hc
  · rcases htransport with rfl | rfl
    · exact hfixed udp (by simp) c hc
    · exact hfixed tcp (by simp) c hc

include hfold hquery htransport in
/-- **A URL that was made is classified by its transport.** -/
theorem turnUrlTransport_formatUrl :
    turnUrlTransport (formatUrl host transport)
      = if transport = udp then some .udp else some .tcp := by
  have hnorm := normalizeUrl_formatUrl hfold htransport
  have hsplit : splitOnce '?' (formatUrl host transport)
      = some (turn ++ host, "transport=".toList ++ transport) := by
    have hnot : '?' ∉ turn ++ host := by
      rw [List.mem_append, not_or]
      exact ⟨by decide, hquery⟩
    have heq : formatUrl host transport
        = (turn ++ host) ++ '?' :: ("transport=".toList ++ transport) := by
      rw [formatUrl, List.append_assoc (turn ++ host)]
      rfl
    rw [heq, splitOnce_append hnot]
  have hbase : base (formatUrl host transport) = turn ++ host := by
    rw [base, hnorm, hsplit]
  have hquery : queryTransport (formatUrl host transport) = some transport := by
    rw [queryTransport, hnorm, hsplit]
    change parseTurnTransportQuery ("transport=".toList ++ transport) = some transport
    rcases htransport with rfl | rfl <;> decide
  unfold turnUrlTransport
  rw [hbase, hquery]
  -- the fifth character tells `turn:` from `turns:`
  have hturns : turns.isPrefixOf (turn ++ host) = false := rfl
  have hturn : turn.isPrefixOf (turn ++ host) = true := rfl
  rw [hturns, hturn]
  rcases htransport with rfl | rfl <;> decide

end Made

/-- A URL made of the end of another one is classified by its transport. -/
theorem turnUrlTransport_made (url pat : Str) {transport : Str}
    (htransport : transport = udp ∨ transport = tcp) :
    turnUrlTransport (formatUrl (trimStartMatches pat (base url)) transport)
      = if transport = udp then some .udp else some .tcp := by
  have hsub := (trimStartMatches_suffix pat (base url)).subset
  exact turnUrlTransport_formatUrl (fun c hc => asciiFold_of_mem_base (hsub hc))
    (fun hc => not_mem_base url (hsub hc)) htransport

/-! ## The two verdicts -/

/-- **What is made of a URL is usable**: it is over UDP, or over TCP and TCP is enabled. -/
theorem transport_of_mem_expand {url u : Str} {tcpEnabled : Bool}
    (h : u ∈ expandTurnUrls url tcpEnabled) :
    turnUrlTransport u = some .udp ∨ (turnUrlTransport u = some .tcp ∧ tcpEnabled = true) := by
  have hudp : ∀ pat, turnUrlTransport (formatUrl (trimStartMatches pat (base url)) udp)
      = some .udp := fun pat => turnUrlTransport_made url pat (Or.inl rfl)
  have htcp : ∀ pat, turnUrlTransport (formatUrl (trimStartMatches pat (base url)) tcp)
      = some .tcp := fun pat => turnUrlTransport_made url pat (Or.inr rfl)
  unfold expandTurnUrls at h
  by_cases hturns : turns.isPrefixOf (base url) = true
  · rw [if_pos hturns] at h
    split_ifs at h with hnone
    · cases h
    · rw [List.mem_singleton.mp h]
      exact Or.inr ⟨htcp _, by simpa using (not_or.mp hnone).1⟩
  rw [if_neg hturns] at h
  by_cases hturn : (!turn.isPrefixOf (base url)) = true
  · rw [if_pos hturn] at h
    cases h
  rw [if_neg hturn] at h
  cases hquery : queryTransport url with
  | none =>
    rw [hquery] at h
    cases tcpEnabled with
    | false =>
      rw [List.mem_singleton.mp h]
      exact Or.inl (hudp _)
    | true =>
      rcases List.mem_pair.mp h with rfl | rfl
      · exact Or.inl (hudp _)
      · exact Or.inr ⟨htcp _, rfl⟩
  | some t =>
    rw [hquery] at h
    simp only at h
    split_ifs at h with h1 h2
    · rw [List.mem_singleton.mp h]
      exact Or.inl (hudp _)
    · rw [List.mem_singleton.mp h]
      exact Or.inr ⟨htcp _, h2.2⟩
    · cases h

/-- `turns:` with a transport that is neither `udp` nor `tcp`. -/
def unknownTlsTransport (url : Str) : Bool :=
  turns.isPrefixOf (base url) && (queryTransport url).any fun t => t ≠ udp && t ≠ tcp

/-- The verdicts on one URL: it is classified as supported exactly when something is made of it, and
what is made of it is usable. -/
def VerdictsAgree (url : Str) (tcpEnabled : Bool) : Prop :=
  (isSupportedTurnUrl url tcpEnabled = true ↔ expandTurnUrls url tcpEnabled ≠ []) ∧
    ∀ u ∈ expandTurnUrls url tcpEnabled,
      turnUrlTransport u = some .udp ∨ (turnUrlTransport u = some .tcp ∧ tcpEnabled = true)

/-- Support and expansion differ only on an unknown TLS transport. -/
theorem supported_iff_expand (url : Str) (tcpEnabled : Bool) :
    (isSupportedTurnUrl url tcpEnabled = true ↔ expandTurnUrls url tcpEnabled ≠ []) ↔
      ¬ (tcpEnabled = true ∧ unknownTlsTransport url = true) := by
  unfold isSupportedTurnUrl turnUrlTransport expandTurnUrls unknownTlsTransport
  have hne : tcp ≠ udp := by decide
  by_cases hturns : turns.isPrefixOf (base url) = true
  · simp only [hturns, Bool.true_and]
    cases hquery : queryTransport url with
    | none => cases tcpEnabled <;> simp
    | some t =>
      by_cases hudp : t = udp
      · simp [hudp]
      · by_cases htcp : t = tcp
        · cases tcpEnabled <;> simp [htcp, hne]
        · cases tcpEnabled <;> simp [hudp, htcp]
  · simp only [if_neg hturns]
    by_cases hturn : turn.isPrefixOf (base url) = true
    · cases hquery : queryTransport url with
      | none => cases tcpEnabled <;> simp [hturns, hturn]
      | some t =>
        by_cases hudp : t = udp
        · simp [hturns, hturn, hudp]
        · by_cases htcp : t = tcp
          · cases tcpEnabled <;> simp [hturns, hturn, htcp, hne]
          · simp [hturns, hturn, hudp, htcp]
    · simp [hturns, hturn]

/-- **The verdicts agree on all URLs but one kind.** -/
theorem verdicts_agree_iff (url : Str) (tcpEnabled : Bool) :
    VerdictsAgree url tcpEnabled ↔ ¬ (tcpEnabled = true ∧ unknownTlsTransport url = true) :=
  (and_iff_left fun _ hu => transport_of_mem_expand hu).trans (supported_iff_expand url tcpEnabled)

/-- A URL that is logged as unsupported and used. -/
theorem verdicts_disagree :
    isSupportedTurnUrl "turns:turn.robotunnel.io:5349?transport=sctp".toList true = false ∧
      expandTurnUrls "turns:turn.robotunnel.io:5349?transport=sctp".toList true
        = ["turn:turn.robotunnel.io:5349?transport=tcp".toList] ∧
      ¬ VerdictsAgree "turns:turn.robotunnel.io:5349?transport=sctp".toList true := by
  have hlogged : isSupportedTurnUrl "turns:turn.robotunnel.io:5349?transport=sctp".toList true
      = false := by decide +kernel
  have hused : expandTurnUrls "turns:turn.robotunnel.io:5349?transport=sctp".toList true
      = ["turn:turn.robotunnel.io:5349?transport=tcp".toList] := by decide +kernel
  refine ⟨hlogged, hused, fun h => ?_⟩
  rw [VerdictsAgree, hlogged, hused] at h
  exact absurd (h.1.mpr (List.cons_ne_nil _ _)) Bool.false_ne_true

/-! ## What is collected -/

/-- **The first occurrences** in a list: each member once, in the order in which they first come. -/
structure FirstOccurrences (l out : List Str) : Prop where
  nodup : out.Nodup
  mem_iff : ∀ u, u ∈ out ↔ u ∈ l
  ordered : out.Pairwise fun u v => l.idxOf u < l.idxOf v

theorem pushNew_append (out urls : List Str) (url : Str) :
    pushNew out (urls ++ [url]) =
      if url ∈ pushNew out urls then pushNew out urls else pushNew out urls ++ [url] := by
  unfold pushNew
  rw [List.foldl_append]
  rfl

namespace FirstOccurrences

variable {l out : List Str} {url : Str}

/-- The order does not change when the list grows at its end. -/
theorem ordered_append (h : FirstOccurrences l out) :
    out.Pairwise fun u v => (l ++ [url]).idxOf u < (l ++ [url]).idxOf v := by
  refine h.ordered.imp_of_mem fun {u v} hu hv hlt => ?_
  rw [List.idxOf_append_of_mem ((h.mem_iff u).mp hu),
    List.idxOf_append_of_mem ((h.mem_iff v).mp hv)]
  exact hlt

/-- A member that is there already. -/
theorem append_of_mem (h : FirstOccurrences l out) (hmem : url ∈ out) :
    FirstOccurrences (l ++ [url]) out where
  nodup := h.nodup
  mem_iff u := by
    rw [List.mem_append, List.mem_singleton, ← h.mem_iff]
    constructor
    · exact Or.inl
    · rintro (hold | rfl)
      · exact hold
      · exact hmem
  ordered := h.ordered_append

/-- A new member. -/
theorem append_of_notMem (h : FirstOccurrences l out) (hnew : url ∉ out) :
    FirstOccurrences (l ++ [url]) (out ++ [url]) where
  nodup := by
    refine List.nodup_append.mpr ⟨h.nodup, List.nodup_singleton url, fun u hu v hv heq => ?_⟩
    rw [heq, List.mem_singleton.mp hv] at hu
    exact hnew hu
  mem_iff u := by rw [List.mem_append, List.mem_append, h.mem_iff]
  ordered := by
    refine List.pairwise_append.mpr
      ⟨h.ordered_append, List.pairwise_singleton _ url, fun u hu v hv => ?_⟩
    have hold : u ∈ l := (h.mem_iff u).mp hu
    have hlast : url ∉ l := fun hmem => hnew ((h.mem_iff url).mpr hmem)
    rw [List.mem_singleton.mp hv, List.idxOf_append_of_mem hold, List.idxOf_append_of_notMem hlast]
    exact Nat.lt_add_right _ (List.idxOf_lt_length_of_mem hold)

end FirstOccurrences

/-- The loop collects the first occurrences. -/
theorem firstOccurrences_pushNew (l : List Str) : FirstOccurrences l (pushNew [] l) := by
  -- the loop appends at the end, so the induction does
  induction l using List.reverseRecOn with
  | nil => exact ⟨List.nodup_nil, fun _ => Iff.rfl, List.Pairwise.nil⟩
  | append_singleton l url ih =>
    rw [pushNew_append]
    split_ifs with hmem
    · exact ih.append_of_mem hmem
    · exact ih.append_of_notMem hmem

theorem pushNew_eq_nil (l : List Str) : pushNew [] l = [] ↔ l = [] := by
  have hmem := (firstOccurrences_pushNew l).mem_iff
  constructor
  · intro hnil
    rw [hnil] at hmem
    exact List.eq_nil_iff_forall_not_mem.mpr fun u hu => List.not_mem_nil ((hmem u).mpr hu)
  · rintro rfl
    rfl

/-- A `turns:` URL, whatever its case and the space around it. -/
def isTurns (raw : Str) : Bool := turns.isPrefixOf (normalizeUrl raw)

/-- The query does not matter for that: it cannot begin within the scheme. -/
theorem isTurns_eq (raw : Str) : isTurns raw = turns.isPrefixOf (base raw) := by
  unfold isTurns base
  cases hsplit : splitOnce '?' (normalizeUrl raw) with
  | none => rfl
  | some p =>
    obtain ⟨heq, -⟩ := eq_of_splitOnce hsplit
    rw [Bool.eq_iff_iff, List.isPrefixOf_iff_prefix, List.isPrefixOf_iff_prefix, heq]
    refine ⟨fun hpre => ?_, fun hpre => hpre.trans (List.prefix_append _ _)⟩
    refine List.prefix_of_prefix_length_le hpre (List.prefix_append _ _) ?_
    -- a shorter text before the query would put its mark inside the scheme
    by_contra hshort
    have hmark : '?' ∈ turns := by
      obtain ⟨rest, hrest⟩ := hpre
      have hget := congrArg (fun l => l[p.1.length]?) hrest
      simp only [List.getElem?_append_left (Nat.lt_of_not_le hshort),
        List.getElem?_append_right (Nat.le_refl _), Nat.sub_self] at hget
      exact List.mem_of_getElem? hget
    exact absurd hmark (by decide)

/-- What is made of a `turns:` URL is over TCP. -/
theorem transport_of_isTurns {raw u : Str} {tcpEnabled : Bool} (hraw : isTurns raw = true)
    (h : u ∈ expandTurnUrls raw tcpEnabled) : turnUrlTransport u = some .tcp := by
  rw [isTurns_eq] at hraw
  rw [expandTurnUrls, if_pos hraw] at h
  split_ifs at h
  · cases h
  · rw [List.mem_singleton.mp h]
    exact turnUrlTransport_made raw turns (Or.inr rfl)

theorem map_fst_expandAll (urls : List Str) (tcpEnabled : Bool) :
    (expandAll urls tcpEnabled).map Prod.fst = urls.flatMap (expandTurnUrls · tcpEnabled) := by
  simp [expandAll, List.map_flatMap, Function.comp_def]

/-- The marked URLs are those made of the `turns:` URLs. -/
theorem map_fst_filter_expandAll (urls : List Str) (tcpEnabled : Bool) :
    ((expandAll urls tcpEnabled).filter Prod.snd).map Prod.fst
      = (urls.filter isTurns).flatMap (expandTurnUrls · tcpEnabled) := by
  induction urls with
  | nil => rfl
  | cons raw urls ih =>
    rw [expandAll, List.flatMap_cons, List.filter_append, List.map_append, ← expandAll, ih]
    cases hraw : isTurns raw with
    | false =>
      rw [List.filter_cons_of_neg (by rw [hraw]; exact Bool.false_ne_true)]
      rw [isTurns] at hraw
      simp [hraw]
    | true =>
      have hall : ∀ u ∈ expandTurnUrls raw tcpEnabled, turnUrlTransport u = some .tcp :=
        fun u hu => transport_of_isTurns hraw hu
      rw [List.filter_cons_of_pos hraw, List.flatMap_cons]
      rw [isTurns] at hraw
      rw [List.filter_eq_self.mpr, List.map_map]
      · exact congrArg (· ++ _) (List.map_id _)
      · intro p hp
        obtain ⟨u, hu, rfl⟩ := List.mem_map.mp hp
        simp [hraw, hall u hu]

/-- **The URLs that count**: with TCP and `ROBOAT_WEBRTC_TURN_TLS_ONLY` the `turns:` URLs, if
anything is made of one of them, and all URLs otherwise. -/
def countingUrls (urls : List Str) (tcpEnabled tlsOnlyFlag : Bool) : List Str :=
  if tcpEnabled = true ∧ tlsOnlyFlag = true ∧
      ∃ raw ∈ urls, isTurns raw = true ∧ expandTurnUrls raw tcpEnabled ≠ [] then
    urls.filter isTurns
  else urls

theorem flatMap_filter_ne_nil (urls : List Str) (tcpEnabled : Bool) :
    (urls.filter isTurns).flatMap (expandTurnUrls · tcpEnabled) ≠ [] ↔
      ∃ raw ∈ urls, isTurns raw = true ∧ expandTurnUrls raw tcpEnabled ≠ [] := by
  simp [List.flatMap_eq_nil_iff]

theorem filterSupportedTurnUrls_eq (urls : List Str) (tcpEnabled tlsOnlyFlag : Bool) :
    filterSupportedTurnUrls urls tcpEnabled tlsOnlyFlag =
      pushNew [] ((countingUrls urls tcpEnabled tlsOnlyFlag).flatMap
        (expandTurnUrls · tcpEnabled)) := by
  unfold filterSupportedTurnUrls countingUrls
  simp only [map_fst_expandAll, map_fst_filter_expandAll]
  have hcond : ((tcpEnabled && tlsOnlyFlag) && !(pushNew []
        ((urls.filter isTurns).flatMap (expandTurnUrls · tcpEnabled))).isEmpty) = true ↔
      tcpEnabled = true ∧ tlsOnlyFlag = true ∧
        ∃ raw ∈ urls, isTurns raw = true ∧ expandTurnUrls raw tcpEnabled ≠ [] := by
    rw [← flatMap_filter_ne_nil, Bool.and_eq_true, Bool.and_eq_true, and_assoc, Bool.not_eq_true',
      Bool.eq_false_iff, ne_eq, List.isEmpty_iff, pushNew_eq_nil]
  by_cases h : tcpEnabled = true ∧ tlsOnlyFlag = true ∧
      ∃ raw ∈ urls, isTurns raw = true ∧ expandTurnUrls raw tcpEnabled ≠ []
  · rw [if_pos (hcond.mpr h), if_pos h]
  · rw [if_neg (mt hcond.mp h), if_neg h]

/-- What is collected is made of one of the URLs. -/
theorem exists_of_mem_filter {urls : List Str} {tcpEnabled tlsOnlyFlag : Bool} {u : Str}
    (h : u ∈ filterSupportedTurnUrls urls tcpEnabled tlsOnlyFlag) :
    ∃ raw ∈ urls, u ∈ expandTurnUrls raw tcpEnabled := by
  rw [filterSupportedTurnUrls_eq, (firstOccurrences_pushNew _).mem_iff] at h
  obtain ⟨raw, hraw, hu⟩ := List.mem_flatMap.mp h
  refine ⟨raw, ?_, hu⟩
  unfold countingUrls at hraw
  split_ifs at hraw
  · exact List.mem_of_mem_filter hraw
  · exact hraw

/-- **What the filter returns**: what is made of the URLs that count, each once and in the order in
which it first comes; and all of it is supported. -/
theorem filterSupportedTurnUrls_spec (urls : List Str) (tcpEnabled tlsOnlyFlag : Bool) :
    FirstOccurrences
        ((countingUrls urls tcpEnabled tlsOnlyFlag).flatMap (expandTurnUrls · tcpEnabled))
        (filterSupportedTurnUrls urls tcpEnabled tlsOnlyFlag) ∧
      ∀ u ∈ filterSupportedTurnUrls urls tcpEnabled tlsOnlyFlag,
        isSupportedTurnUrl u tcpEnabled = true := by
  constructor
  · rw [filterSupportedTurnUrls_eq]
    exact firstOccurrences_pushNew _
  · intro u hu
    obtain ⟨raw, -, hmade⟩ := exists_of_mem_filter hu
    unfold isSupportedTurnUrl
    rcases transport_of_mem_expand hmade with hudp | ⟨htcp, henabled⟩
    · rw [hudp]
    · rw [htcp]
      exact henabled

/-! ## What ICE gets -/

end Roboat.Webrtc
