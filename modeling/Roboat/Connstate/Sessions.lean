import Mathlib.Algebra.Order.Ring.Int
import Roboat.Connstate.Evidence

/-! # How long sessions are kept

There is no task that deletes old sessions: each call of `UpsertSession` first deletes those that
were last upserted more than `sessionRetention` ago. The age of a session is counted from its
`UpdatedAt`, a text with whole seconds; so a session is deleted up to one second early
(`found_iff`), and it is kept as long as it should be exactly when this fraction of a second does
not matter (`retention_iff`).

A session that is found has the `StartedAt` of the first upsert since it was last absent, or what a
caller has supplied since (`exists_kept`). -/

namespace Roboat.Connstate

/-! ## Histories -/

/-- A call of `UpsertSession`, and what its clock shows. -/
structure UpsertCall where
  session : BootstrapSession
  time : Time
  clock : Time
  deriving DecidableEq, Repr

namespace UpsertCall

/-- The id under which the session is stored. -/
def id (c : UpsertCall) : Str := trimSpace c.session.sessionID

/-- The time of the call. -/
def stamp (c : UpsertCall) : Time := normalizeAt c.clock c.time

/-- The time of the call as its text keeps it. -/
def whole (c : UpsertCall) : Time := c.stamp / second * second

end UpsertCall

/-- The last upsert of an id. -/
def lastUpsert (id : Str) (calls : List UpsertCall) : Option UpsertCall :=
  (calls.filter fun c => c.id = id).getLast?

/-- The texts for `StartedAt` that the callers with an id bring, the latest first. -/
def suppliedTexts (id : Str) (calls : List UpsertCall) : List Str :=
  (calls.filter fun c => c.id = id).reverse.map fun c => c.session.startedAt

/-- A time whose text is read back: it is in the years 0 to 9999, and not in the second of the zero
time. -/
def Datable (time : Time) : Prop :=
  Rfc3339.Representable (time / second) ∧ time / second ≠ 0

instance : DecidablePred Datable := fun _ => inferInstanceAs (Decidable (_ ∧ _))

section Histories

variable (other : Str → Option Time)

/-- The sessions after a history of calls. -/
def upserts (calls : List UpsertCall) : Sessions :=
  calls.foldl (fun sessions c => (upsertSession other c.clock sessions c.session c.time).1)
    fun _ => none

/-- The sessions that a call finds, after those that are too old have been deleted. -/
def found (calls : List UpsertCall) (c : UpsertCall) : Sessions :=
  pruneExpiredSessionsLocked other (upserts other calls) c.stamp

/-- What a call stores. -/
def stored (calls : List UpsertCall) (c : UpsertCall) : BootstrapSession :=
  (upsertSession other c.clock (upserts other calls) c.session c.time).2

/-- **A session with the `StartedAt` of an upsert**: `u` found no session, all later calls have, and
nothing but a text that a caller supplied has taken the place of its time. -/
structure KeptSince (id : Str) (before : List UpsertCall) (u : UpsertCall) (after : List UpsertCall)
    (s : BootstrapSession) : Prop where
  id_eq : u.id = id
  absent : found other before u id = none
  present : ∀ mid c rest, after = mid ++ c :: rest → found other (before ++ u :: mid) c id ≠ none
  kept : (∀ c ∈ u :: after, c.id = id → trimSpace c.session.startedAt = []) →
    s.startedAt = formatTime u.stamp
  /-- The latest text that is not blank. -/
  supplied : trimSpace s.startedAt
    = firstNonEmpty (suppliedTexts id (u :: after) ++ [formatTime u.stamp])

/-- **Sessions are retained**: after the last call, a session is found exactly when its own last
upsert was at most `sessionRetention` ago, and it has kept its `StartedAt`. -/
structure Retention (calls : List UpsertCall) (last : UpsertCall) (id : Str) : Prop where
  isSome_iff : (sessionSnapshot (upserts other (calls ++ [last])) id).isSome = true ↔
    ∃ c ∈ lastUpsert (trimSpace id) (calls ++ [last]), last.stamp - c.stamp ≤ sessionRetention
  started : ∀ s ∈ sessionSnapshot (upserts other (calls ++ [last])) id, ∃ before u after,
    calls ++ [last] = before ++ u :: after ∧ KeptSince other (trimSpace id) before u after s

end Histories

section Lemmas

variable {other : Str → Option Time} {sessions : Sessions} {calls : List UpsertCall}
  {c d last : UpsertCall} {s : BootstrapSession} {id : Str} {now later time : Time}

/-! ## Pruning -/

/-- Pruning keeps exactly the sessions within the retention. -/
theorem prune_eq_some_iff :
    pruneExpiredSessionsLocked other sessions now id = some s ↔
      sessions id = some s ∧ (s.ref other ≠ 0 → now - s.ref other ≤ sessionRetention) := by
  rw [pruneExpiredSessionsLocked, Option.filter_eq_some_iff]
  refine and_congr_right fun _ => ?_
  simp only [Bool.not_eq_true', decide_eq_false_iff_not, not_and, not_lt]
  exact imp_congr_right fun _ => sub_le_comm

/-- What is deleted early would be deleted later. -/
theorem prune_prune (h : now ≤ later) :
    pruneExpiredSessionsLocked other (pruneExpiredSessionsLocked other sessions now) later id
      = pruneExpiredSessionsLocked other sessions later id := by
  refine Option.ext fun s => ?_
  rw [prune_eq_some_iff, prune_eq_some_iff, prune_eq_some_iff]
  constructor
  · rintro ⟨⟨hs, -⟩, hlater⟩
    exact ⟨hs, hlater⟩
  · rintro ⟨hs, hlater⟩
    exact ⟨⟨hs, fun href => le_trans (sub_le_sub_right h _) (hlater href)⟩, hlater⟩

/-- **A session is dated by the whole second of its last upsert.** -/
theorem ref_eq (htime : Datable time) (hs : s.updatedAt = formatTime time) :
    s.ref other = time / second * second := by
  have hparse : parseRFC3339Safe other s.updatedAt = time / second * second := by
    rw [hs, parseRFC3339Safe, formatTime, Rfc3339.trimSpace_format,
      if_neg (Rfc3339.format_ne_nil _), parseTime, Rfc3339.parse_format htime.1]
    rfl
  have hne : time / second * second ≠ 0 := mul_ne_zero htime.2 (by decide)
  rw [BootstrapSession.ref, hparse, if_neg hne]

/-! ## One call -/

/-- What a call with an id does. -/
theorem upsertSession_spec (hc : c.id ≠ []) :
    upserts other (calls ++ [c])
        = Function.update (found other calls c) c.id (some (stored other calls c)) ∧
      (stored other calls c).updatedAt = formatTime c.stamp ∧
      (stored other calls c).startedAt
        = nextStartedAt (found other calls c c.id) c.session.startedAt c.stamp := by
  have hid : trimSpace c.session.sessionID ≠ [] := hc
  rw [upserts, List.foldl_append, List.foldl_cons, List.foldl_nil, ← upserts, stored, upsertSession,
    if_neg hid]
  exact ⟨rfl, rfl, rfl⟩

theorem upserts_concat_self (hc : c.id ≠ []) :
    upserts other (calls ++ [c]) c.id = some (stored other calls c) := by
  rw [(upsertSession_spec hc).1, Function.update_self]

theorem upserts_concat_of_ne (hc : c.id ≠ []) (hne : c.id ≠ id) :
    upserts other (calls ++ [c]) id = found other calls c id := by
  rw [(upsertSession_spec hc).1, Function.update_of_ne hne.symm]

theorem lastUpsert_concat :
    lastUpsert id (calls ++ [c]) = if c.id = id then some c else lastUpsert id calls := by
  unfold lastUpsert
  rw [List.filter_append]
  by_cases hc : c.id = id <;> simp [hc]

theorem suppliedTexts_concat :
    suppliedTexts id (calls ++ [c])
      = if c.id = id then c.session.startedAt :: suppliedTexts id calls
        else suppliedTexts id calls := by
  unfold suppliedTexts
  rw [List.filter_append]
  by_cases hc : c.id = id <;> simp [hc]

/-! ## Who is found -/

/-- What a later call finds. -/
theorem pruned_isSome_iff (hid : ∀ c ∈ calls, c.id ≠ []) (hdate : ∀ c ∈ calls, Datable c.stamp)
    (hlate : ∀ c ∈ calls, c.stamp ≤ now) :
    (pruneExpiredSessionsLocked other (upserts other calls) now id).isSome = true ↔
      ∃ c ∈ lastUpsert id calls, now - c.whole ≤ sessionRetention := by
  induction calls using List.reverseRecOn with
  | nil =>
    have hnone : pruneExpiredSessionsLocked other (upserts other []) now id = none := rfl
    rw [hnone]
    simp [lastUpsert]
  | append_singleton calls d ih =>
    have hmem : d ∈ calls ++ [d] := List.mem_append_right _ (List.mem_singleton_self d)
    rw [lastUpsert_concat]
    by_cases hd : d.id = id
    · -- it has just been stored
      subst hd
      have href : (stored other calls d).ref other = d.whole :=
        ref_eq (hdate d hmem) (upsertSession_spec (hid d hmem)).2.1
      have hne : d.whole ≠ 0 := mul_ne_zero (hdate d hmem).2 (by decide)
      rw [if_pos rfl, Option.isSome_iff_exists]
      simp only [prune_eq_some_iff, upserts_concat_self (hid d hmem), Option.mem_def,
        Option.some.injEq, exists_eq_left', href]
      exact ⟨fun h => h hne, fun h _ => h⟩
    · have hbefore : ∀ c ∈ calls, c ∈ calls ++ [d] := fun c hc => List.mem_append_left _ hc
      have hprune := calc
        pruneExpiredSessionsLocked other (upserts other (calls ++ [d])) now id
          = pruneExpiredSessionsLocked other (found other calls d) now id :=
            congrArg (Option.filter _) (upserts_concat_of_ne (hid d hmem) hd)
        _ = pruneExpiredSessionsLocked other (upserts other calls) now id :=
            prune_prune (hlate d hmem)
      rw [if_neg hd, hprune]
      exact ih (fun c hc => hid c (hbefore c hc)) (fun c hc => hdate c (hbefore c hc))
        fun c hc => hlate c (hbefore c hc)

theorem whole_le_stamp (c : UpsertCall) : c.whole ≤ c.stamp := Int.ediv_mul_le _ (by decide)

/-- The text of a time loses at most the retention. -/
theorem stamp_sub_whole_le (c : UpsertCall) : c.stamp - c.whole ≤ sessionRetention := by
  have hrest : c.stamp - c.whole = c.stamp % second := by
    rw [UpsertCall.whole, Int.emod_def, Int.mul_comm]
  have hlt : c.stamp % second < second := Int.emod_lt_of_pos _ (by decide)
  have hsecond : second ≤ sessionRetention := by decide
  rw [hrest]
  exact le_trans hlt.le hsecond

/-- **A session is found** exactly when the whole second of its own last upsert is at most
`sessionRetention` ago. -/
theorem found_iff (hid : ∀ c ∈ calls ++ [last], c.id ≠ [])
    (hdate : ∀ c ∈ calls ++ [last], Datable c.stamp)
    (hlate : ∀ c ∈ calls ++ [last], c.stamp ≤ last.stamp) :
    (upserts other (calls ++ [last]) id).isSome = true ↔
      ∃ c ∈ lastUpsert id (calls ++ [last]), last.stamp - c.whole ≤ sessionRetention := by
  have hlast : last.id ≠ [] := hid last (List.mem_append_right _ (List.mem_singleton_self last))
  have hbefore : ∀ c ∈ calls, c ∈ calls ++ [last] := fun c hc => List.mem_append_left _ hc
  rw [lastUpsert_concat]
  by_cases hown : last.id = id
  · subst hown
    rw [upserts_concat_self hlast, if_pos rfl]
    exact iff_of_true rfl ⟨last, rfl, stamp_sub_whole_le last⟩
  · rw [upserts_concat_of_ne hlast hown, if_neg hown]
    exact pruned_isSome_iff (fun c hc => hid c (hbefore c hc)) (fun c hc => hdate c (hbefore c hc))
      fun c hc => hlate c (hbefore c hc)

/-! ## The time of the first upsert -/

theorem firstNonEmpty_pair (v w : Str) :
    firstNonEmpty [v, w] = if trimSpace v ≠ [] then trimSpace v else trimSpace w := by
  simp only [firstNonEmpty]
  split_ifs with hv hw
  · rfl
  · rfl
  · exact (not_not.mp hw).symm

theorem formatTime_ne_nil (time : Time) : formatTime time ≠ [] := Rfc3339.format_ne_nil _

theorem trimSpace_formatTime (time : Time) : trimSpace (formatTime time) = formatTime time :=
  Rfc3339.trimSpace_format _

/-- The time of the first upsert is there if nothing else is. -/
theorem firstNonEmpty_concat_ne_nil (values : List Str) (time : Time) :
    firstNonEmpty (values ++ [formatTime time]) ≠ [] := by
  induction values with
  | nil =>
    rw [List.nil_append, firstNonEmpty, trimSpace_formatTime, if_pos (formatTime_ne_nil time)]
    exact formatTime_ne_nil time
  | cons v values ih =>
    rw [List.cons_append, firstNonEmpty]
    split_ifs with hv
    · exact hv
    · exact ih

/-- A later upsert keeps what is there unless it brings a text of its own. -/
theorem nextStartedAt_some {prev : BootstrapSession} (hprev : trimSpace prev.startedAt ≠ [])
    (startedAt : Str) (now : Time) : nextStartedAt (some prev) startedAt now
      = if trimSpace startedAt ≠ [] then trimSpace startedAt else trimSpace prev.startedAt := by
  have htext : trimSpace (firstNonEmpty [startedAt, prev.startedAt]) ≠ [] := by
    rw [firstNonEmpty_pair]
    split_ifs with hs
    · rwa [trimSpace_trimSpace]
    · rwa [trimSpace_trimSpace]
  rw [nextStartedAt, if_neg htext, firstNonEmpty_pair]

theorem nextStartedAt_none (startedAt : Str) (now : Time) : nextStartedAt none startedAt now
    = if trimSpace startedAt = [] then formatTime now else startedAt := rfl

namespace KeptSince

variable {before after : List UpsertCall} {u : UpsertCall}

/-- A session that was stored where there was none. -/
theorem first (hd : d.id ≠ []) (habsent : found other calls d d.id = none) :
    KeptSince other d.id calls d [] (stored other calls d) where
  id_eq := rfl
  absent := habsent
  present mid c rest hnil := by
    cases mid <;> cases hnil
  kept hblank := by
    rw [(upsertSession_spec hd).2.2, habsent, nextStartedAt_none,
      if_pos (hblank d List.mem_cons_self rfl)]
  supplied := by
    rw [(upsertSession_spec hd).2.2, habsent, nextStartedAt_none]
    have htexts : suppliedTexts d.id [d] = [d.session.startedAt] := by simp [suppliedTexts]
    rw [htexts, List.singleton_append, firstNonEmpty_pair]
    by_cases hblank : trimSpace d.session.startedAt = []
    · rw [if_pos hblank, if_neg (not_not.mpr hblank)]
    · rw [if_neg hblank, if_pos hblank]

/-- Found by one more call: found by all calls since. -/
theorem present_concat (h : KeptSince other id before u after s)
    (hfound : found other (before ++ u :: after) d id ≠ none) :
    ∀ mid c rest, after ++ [d] = mid ++ c :: rest →
      found other (before ++ u :: mid) c id ≠ none := by
  intro mid c rest heq
  rcases List.eq_nil_or_concat rest with rfl | ⟨rest, e, rfl⟩
  · obtain ⟨rfl, hlast⟩ := List.append_inj' heq rfl
    cases hlast
    exact hfound
  · have heq' : after ++ [d] = (mid ++ c :: rest) ++ [e] := by simpa using heq
    exact h.present mid c rest (List.append_inj' heq' rfl).1

/-- A call for another id. -/
theorem other_call (h : KeptSince other id before u after s) (hd : d.id ≠ id)
    (hfound : found other (before ++ u :: after) d id ≠ none) :
    KeptSince other id before u (after ++ [d]) s where
  id_eq := h.id_eq
  absent := h.absent
  present := h.present_concat hfound
  kept hblank := by
    refine h.kept fun c hc => hblank c ?_
    rw [← List.cons_append]
    exact List.mem_append_left _ hc
  supplied := by
    rw [h.supplied, ← List.cons_append, suppliedTexts_concat, if_neg hd]

/-- The session is stored again. -/
theorem again (h : KeptSince other id before u after s) (hd : d.id ≠ []) (hown : d.id = id)
    (hfound : found other (before ++ u :: after) d id = some s) :
    KeptSince other id before u (after ++ [d]) (stored other (before ++ u :: after) d) := by
  have hprev : trimSpace s.startedAt ≠ [] := by
    rw [h.supplied]
    exact firstNonEmpty_concat_ne_nil _ _
  have hstarted : (stored other (before ++ u :: after) d).startedAt
      = if trimSpace d.session.startedAt ≠ [] then trimSpace d.session.startedAt
        else trimSpace s.startedAt := by
    rw [(upsertSession_spec hd).2.2, hown, hfound, nextStartedAt_some hprev]
  refine ⟨h.id_eq, h.absent, h.present_concat (by rw [hfound]; nofun), fun hblank => ?_, ?_⟩
  · rw [hstarted, if_neg (not_not.mpr (hblank d (by simp) hown)),
      h.kept fun c hc => hblank c (List.mem_append_left [d] hc), trimSpace_formatTime]
  · rw [hstarted, ← List.cons_append, suppliedTexts_concat, if_pos hown, List.cons_append,
      firstNonEmpty, ← h.supplied]
    split_ifs <;> exact trimSpace_trimSpace _

end KeptSince

/-- **A session that is there has kept its `StartedAt`.** -/
theorem exists_kept (hid : ∀ c ∈ calls, c.id ≠ []) (hs : upserts other calls id = some s) :
    ∃ before u after, calls = before ++ u :: after ∧ KeptSince other id before u after s := by
  induction calls using List.reverseRecOn generalizing s with
  | nil => cases hs
  | append_singleton calls d ih =>
    have hd : d.id ≠ [] := hid d (List.mem_append_right _ (List.mem_singleton_self d))
    have hbefore : ∀ c ∈ calls, c.id ≠ [] := fun c hc => hid c (List.mem_append_left _ hc)
    by_cases hown : d.id = id
    · subst hown
      obtain rfl : stored other calls d = s :=
        Option.some.inj ((upserts_concat_self hd).symm.trans hs)
      cases hfound : found other calls d d.id with
      | none => exact ⟨calls, d, [], rfl, .first hd hfound⟩
      | some prev =>
        obtain ⟨before, u, after, rfl, hkept⟩ := ih hbefore (prune_eq_some_iff.mp hfound).1
        exact ⟨before, u, after ++ [d], by simp, hkept.again hd rfl hfound⟩
    · rw [upserts_concat_of_ne hd hown] at hs
      obtain ⟨before, u, after, rfl, hkept⟩ := ih hbefore (prune_eq_some_iff.mp hs).1
      exact ⟨before, u, after ++ [d], by simp, hkept.other_call hown (by rw [hs]; nofun)⟩

/-- A snapshot is what is stored; nothing is stored under a blank id. -/
theorem sessionSnapshot_upserts (hid : ∀ c ∈ calls, c.id ≠ []) :
    sessionSnapshot (upserts other calls) id = upserts other calls (trimSpace id) := by
  unfold sessionSnapshot
  split_ifs with hblank
  · rw [hblank]
    refine (Option.eq_none_iff_forall_ne_some.mpr fun s hs => ?_).symm
    obtain ⟨before, u, after, rfl, hkept⟩ := exists_kept hid hs
    exact hid u (by simp) hkept.id_eq
  · rfl

end Lemmas

/-! ## Retention -/

/-- **Sessions are retained, but for a fraction of a second**, after every history of calls with ids
and times that do not decrease: exactly when no last upsert that was at most `sessionRetention` ago
is taken for an older one because its text has no fraction. -/
theorem retention_iff (other : Str → Option Time) (calls : List UpsertCall) (last : UpsertCall)
    (id : Str) (hid : ∀ c ∈ calls ++ [last], c.id ≠ [])
    (hmono : (calls ++ [last]).Pairwise fun c d => c.stamp ≤ d.stamp)
    (hdate : ∀ c ∈ calls ++ [last], Datable c.stamp) :
    Retention other calls last id ↔
      ∀ c ∈ lastUpsert (trimSpace id) (calls ++ [last]),
        last.stamp - c.stamp ≤ sessionRetention → last.stamp - c.whole ≤ sessionRetention := by
  have hlate : ∀ c ∈ calls ++ [last], c.stamp ≤ last.stamp := by
    intro c hc
    rcases List.mem_append.mp hc with hc | hc
    · exact (List.pairwise_append.mp hmono).2.2 c hc last (List.mem_singleton_self last)
    · rw [List.mem_singleton.mp hc]
  have hfound : (sessionSnapshot (upserts other (calls ++ [last])) id).isSome = true ↔
      ∃ c ∈ lastUpsert (trimSpace id) (calls ++ [last]),
        last.stamp - c.whole ≤ sessionRetention := by
    rw [sessionSnapshot_upserts hid]
    exact found_iff hid hdate hlate
  constructor
  · intro h c hc hrecent
    obtain ⟨d, hd, hwhole⟩ := hfound.mp (h.isSome_iff.mpr ⟨c, hc, hrecent⟩)
    obtain rfl : c = d := Option.some.inj (hc.symm.trans hd)
    exact hwhole
  · intro h
    refine ⟨hfound.trans ⟨?_, ?_⟩, fun s hs => ?_⟩
    · rintro ⟨c, hc, hwhole⟩
      exact ⟨c, hc, le_trans (sub_le_sub_left (whole_le_stamp c) _) hwhole⟩
    · rintro ⟨c, hc, hrecent⟩
      exact ⟨c, hc, h c hc hrecent⟩
    · rw [sessionSnapshot_upserts hid] at hs
      exact exists_kept hid hs

/-- An upsert of a session, so many nanoseconds after 2026-03-17T04:00:00Z. -/
def sampleUpsert (id : String) (startedAt : String) (after : Int) : UpsertCall where
  session := { sessionID := id.toList, startedAt := startedAt.toList }
  time := 63909316800 * second + after
  clock := 0

/-- Two upserts of one session; neither brings a `StartedAt`. -/
def sampleUpserts : List UpsertCall :=
  [sampleUpsert "s1" "" (second / 2), sampleUpsert " s1 " " " (600 * second)]

theorem retention_sampleUpserts :
    Retention (fun _ => none) sampleUpserts (sampleUpsert "s2" "" (1800 * second + second / 2))
        "s1".toList ∧
      (sessionSnapshot (upserts (fun _ => none)
        (sampleUpserts ++ [sampleUpsert "s2" "" (1800 * second + second / 2)])) "s1".toList).map
          BootstrapSession.startedAt = some "2026-03-17T04:00:00Z".toList :=
  ⟨(retention_iff _ _ _ _ (by decide) (by decide) (by decide)).mpr (by decide), by decide⟩

/-! ### A fraction of a second -/

/-- **A session is deleted early.** It was upserted 0.9 s after a full second; 29 minutes and 59.6 s
later another session is upserted, and the first one is gone. -/
theorem retention_fails :
    (∀ c ∈ [sampleUpsert "s1" "" (9 * second / 10), sampleUpsert "s2" "" (18005 * second / 10)],
        c.id ≠ [] ∧ Datable c.stamp) ∧
      (sampleUpsert "s2" "" (18005 * second / 10)).stamp
        - (sampleUpsert "s1" "" (9 * second / 10)).stamp ≤ sessionRetention ∧
      sessionSnapshot (upserts (fun _ => none)
        [sampleUpsert "s1" "" (9 * second / 10), sampleUpsert "s2" "" (18005 * second / 10)])
          "s1".toList = none ∧
      ¬ Retention (fun _ => none) [sampleUpsert "s1" "" (9 * second / 10)]
        (sampleUpsert "s2" "" (18005 * second / 10)) "s1".toList := by
  have hnone : sessionSnapshot (upserts (fun _ => none)
      [sampleUpsert "s1" "" (9 * second / 10), sampleUpsert "s2" "" (18005 * second / 10)])
        "s1".toList = none := by decide
  refine ⟨by decide, by decide, hnone, fun h => ?_⟩
  have hsome := h.isSome_iff.mpr ⟨sampleUpsert "s1" "" (9 * second / 10), by decide, by decide⟩
  rw [List.singleton_append, hnone] at hsome
  cases hsome

end Roboat.Connstate
