import Roboat.Connstate.History

/-! # Contention records and late events

`RecordControlContention` is meant to be seen by people only: the comment of the record says that it
does not drive anything. But it moves `LastSeenAt`, and `IsOnlineAt` reads that field for a robot
that is connected and has never sent a heartbeat. Such a robot comes back to life when a competitor
is refused (`contention_comes_alive`); `contention_unseen_iff` says that nothing else happens.

The times of a record are maxima, and the texts beside them are those of the call that came last.
So an event that arrives late leaves the time and replaces the text (`late_event_wins`). What is
stored is the newest exactly when the last event to bring a text brings that of the newest event
(`newest_stored_iff`). -/

namespace Roboat.Connstate

/-- The time under which a call is recorded. -/
def Call.stamp (c : Call) : Time := normalizeAt c.clock c.time

/-- A time that was filled in from a running clock is there. -/
theorem normalizeAt_ne_zero {clock time : Time} (hclock : clock ≠ 0) :
    normalizeAt clock time ≠ 0 := by
  unfold normalizeAt
  split_ifs with hzero
  · exact hclock
  · exact hzero

/-- The call with its time filled in. -/
def Call.stamped (c : Call) : Call := { c with time := c.stamp }

/-- A call says the same with its time filled in. -/
theorem Call.stamp_stamped (c : Call) : c.stamped.stamp = c.stamp := by
  unfold Call.stamped Call.stamp normalizeAt
  split_ifs <;> rfl

/-- Stamping the calls does not change what they replay to. -/
theorem replay_map_stamped (robotID : Str) (calls : List Call) :
    replay robotID (calls.map Call.stamped) = replay robotID calls := by
  induction calls using List.reverseRecOn with
  | nil => rfl
  | append_singleton calls c ih =>
    have hstamp : normalizeAt c.stamped.clock c.stamped.time = normalizeAt c.clock c.time :=
      c.stamp_stamped
    rw [List.map_append, List.map_singleton, replay_append, replay_append, ih, hstamp]
    rfl

/-- The record of a robot agrees with its calls, also with those whose time is filled in. -/
theorem consistent_stamped (robotID : Str) {calls : List Call} (hclock : ∀ c ∈ calls, c.clock ≠ 0) :
    Consistent (replay robotID calls) (calls.map Call.stamped) := by
  rw [← replay_map_stamped]
  refine consistent_replay robotID _ fun c hc => ?_
  obtain ⟨d, hd, rfl⟩ := List.mem_map.mp hc
  exact normalizeAt_ne_zero (hclock d hd)

/-! ## Contention and liveness -/

section Liveness

variable {s : RobotRuntimeState} {robotID incoming incumbent policy reason : Str} {time : Time}

/-- The time from which a robot without heartbeats is judged. -/
def RobotRuntimeState.reference (s : RobotRuntimeState) : Time :=
  latestTime s.controlConnectedAt s.lastSeenAt

/-- **A record comes alive**: its robot is connected and has never sent a heartbeat, it was last
seen more than 90 s ago, and the contention is not that old. -/
def RobotRuntimeState.ComesAlive (s : RobotRuntimeState) (time now : Time) : Prop :=
  s.controlConnected = true ∧ s.lastHeartbeatAt = 0 ∧
    s.reference + controlFallbackTTL < now ∧ now ≤ time + controlFallbackTTL

/-- A contention moves the reference up to its own time. -/
theorem reference_contention (href : s.reference ≠ 0) (htime : time ≠ 0) :
    (s.contention robotID incoming incumbent policy reason time).reference
      = max s.reference time := by
  unfold RobotRuntimeState.reference at href ⊢
  change latestTime s.controlConnectedAt (latestTime s.lastSeenAt time) = _
  by_cases hseen : s.lastSeenAt = 0
  · by_cases hat : s.controlConnectedAt = 0
    · rw [hat, hseen] at href
      exact absurd rfl href
    · have hold : latestTime s.controlConnectedAt 0 = s.controlConnectedAt := by
        unfold latestTime
        rw [if_neg hat, if_pos rfl]
      rw [hseen, latestTime_zero_left, hold, latestTime_of_ne hat htime]
  · by_cases hat : s.controlConnectedAt = 0
    · rw [hat, latestTime_zero_left, latestTime_zero_left, latestTime_of_ne hseen htime]
    · rw [latestTime_of_ne hseen htime, latestTime_of_ne hat hseen,
        latestTime_of_ne hat ((latestTime_of_ne hseen htime) ▸ latestTime_ne_zero htime),
        max_assoc]

/-- The verdict on a robot that is connected and has never sent a heartbeat. -/
theorem isOnlineAt_fallback (clock now : Time) (hup : s.controlConnected = true)
    (hheartbeat : s.lastHeartbeatAt = 0) (href : s.reference ≠ 0) :
    s.isOnlineAt clock now = true ↔ normalizeAt clock now - s.reference ≤ controlFallbackTTL := by
  rw [isOnlineAt_iff, hup, hheartbeat, if_neg (fun hne => hne rfl)]
  unfold RobotRuntimeState.reference at href ⊢
  constructor
  · rintro ⟨-, -, hrecent⟩
    exact hrecent href
  · exact fun hrecent => ⟨nofun, rfl, fun _ => hrecent⟩

/-- Every other robot is judged by fields that a contention leaves alone. -/
theorem isOnlineAt_contention_of_not (clock now : Time)
    (h : ¬ (s.controlConnected = true ∧ s.lastHeartbeatAt = 0)) :
    (s.contention robotID incoming incumbent policy reason time).isOnlineAt clock now
      = s.isOnlineAt clock now := by
  let after := s.contention robotID incoming incumbent policy reason time
  change after.isOnlineAt clock now = _
  rw [Bool.eq_iff_iff, isOnlineAt_iff, isOnlineAt_iff]
  by_cases hheartbeat : s.lastHeartbeatAt = 0
  · have hdown : ¬ s.controlConnected = true := fun hup => h ⟨hup, hheartbeat⟩
    have hheartbeat' : after.lastHeartbeatAt = 0 := hheartbeat
    have hdown' : ¬ after.controlConnected = true := hdown
    rw [if_neg (not_not.mpr hheartbeat), if_neg (not_not.mpr hheartbeat')]
    exact iff_of_false (fun hon => hdown' hon.2.1) fun hon => hdown hon.2.1
  · have hheartbeat' : after.lastHeartbeatAt ≠ 0 := hheartbeat
    rw [if_pos hheartbeat, if_pos hheartbeat']
    exact Iff.rfl

/-- Moving a reference up makes a difference between the two ends only. -/
theorem within_max_iff (ref time now ttl : Int) :
    (now - max ref time ≤ ttl ↔ now - ref ≤ ttl) ↔ ¬ (ref + ttl < now ∧ now ≤ time + ttl) := by
  omega

/-- The verdict on a record after a contention. -/
theorem isOnlineAt_contention_eq_iff (clock now : Time) (htime : time ≠ 0)
    (href : s.controlConnected = true → s.reference ≠ 0) :
    (s.contention robotID incoming incumbent policy reason time).isOnlineAt clock now
        = s.isOnlineAt clock now ↔
      ¬ s.ComesAlive time (normalizeAt clock now) := by
  by_cases h : s.controlConnected = true ∧ s.lastHeartbeatAt = 0
  · obtain ⟨hup, hheartbeat⟩ := h
    have hne := href hup
    let after := s.contention robotID incoming incumbent policy reason time
    have hmoved : after.reference = max s.reference time := reference_contention hne htime
    have hafter : after.reference ≠ 0 := by
      rw [hmoved]
      rcases max_choice s.reference time with h | h <;> rw [h] <;> assumption
    have hverdict : after.isOnlineAt clock now = true ↔ _ :=
      isOnlineAt_fallback clock now hup hheartbeat hafter
    rw [hmoved] at hverdict
    rw [Bool.eq_iff_iff, isOnlineAt_fallback clock now hup hheartbeat hne]
    refine (iff_congr hverdict Iff.rfl).trans ?_
    unfold RobotRuntimeState.ComesAlive
    rw [hup, hheartbeat]
    simp only [true_and]
    exact within_max_iff _ _ _ _
  · exact iff_of_true (isOnlineAt_contention_of_not clock now h)
      fun halive => h ⟨halive.1, halive.2.1⟩

end Liveness

/-- A snapshot is the record, or the zero record. -/
theorem snapshot_fst (store : Store) {robotID : Str} (hid : trimSpace robotID ≠ []) :
    (snapshot store robotID).1 = (store (trimSpace robotID)).getD {} := by
  unfold snapshot
  rw [if_neg hid]
  cases store (trimSpace robotID) <;> rfl

/-- A snapshot replays the calls that count for its robot. -/
theorem snapshot_replay {robotID : Str} (hid : trimSpace robotID ≠ []) (calls : List Call) :
    (snapshot (run calls) robotID).1
      = replay (trimSpace robotID) (effective (trimSpace robotID) calls) := by
  rw [snapshot_fst _ hid, run_eq_replay hid]
  split_ifs with hnil
  · rw [hnil]
    rfl
  · rfl

/-- **When a contention is not seen.** For every record that calls can make, a contention leaves the
verdict on its robot as it is, at every `now`, unless the record comes alive. -/
theorem contention_unseen_iff (calls : List Call) (hclock : ∀ c ∈ calls, c.clock ≠ 0)
    (robotID incoming incumbent policy reason : Str) (time callClock : Time)
    (hcall : callClock ≠ 0) (clock now : Time) :
    (snapshot (recordControlContention callClock (run calls) robotID incoming incumbent policy
        reason time) robotID).1.isOnlineAt clock now
          = (snapshot (run calls) robotID).1.isOnlineAt clock now ↔
      ¬ (snapshot (run calls) robotID).1.ComesAlive (normalizeAt callClock time)
        (normalizeAt clock now) := by
  by_cases hid : trimSpace robotID = []
  · -- a blank id: there is no record before or after
    have hzero : ∀ store : Store, (snapshot store robotID).1 = {} := by
      intro store
      unfold snapshot
      rw [if_pos hid]
    rw [hzero, hzero]
    exact iff_of_true rfl fun h => Bool.false_ne_true h.1
  have hconsistent := consistent_stamped (trimSpace robotID)
    fun c (hc : c ∈ effective (trimSpace robotID) calls) => hclock c (mem_of_mem_effective hc)
  have hafter : (snapshot (recordControlContention callClock (run calls) robotID incoming incumbent
      policy reason time) robotID).1
        = (snapshot (run calls) robotID).1.contention (trimSpace robotID) incoming incumbent policy
          reason (normalizeAt callClock time) := by
    rw [snapshot_fst _ hid, snapshot_fst _ hid]
    unfold recordControlContention Store.edit
    rw [if_neg hid, Function.update_self]
    rfl
  rw [hafter]
  refine isOnlineAt_contention_eq_iff clock now
    (normalizeAt_ne_zero hcall) fun hup => ?_
  rw [snapshot_replay hid] at hup ⊢
  -- a robot that is connected was connected at some time
  have hat := (hconsistent.up hup).1
  unfold RobotRuntimeState.reference
  exact latestTime_ne_zero (hconsistent.connectedAt hat).1

/-- A robot connects and is not heard of any more. -/
def silentCalls : List Call :=
  [{ robotID := "r1".toList, op := .controlConnected [] [] [], time := second, clock := second }]

/-- The contention of a recent connection is not seen. -/
theorem contention_unseen_silent :
    (snapshot
      (recordControlContention second (run silentCalls) "r1".toList [] [] [] [] (80 * second))
        "r1".toList).1.isOnlineAt second (90 * second)
      = (snapshot (run silentCalls) "r1".toList).1.isOnlineAt second (90 * second) :=
  (contention_unseen_iff silentCalls (by decide) "r1".toList [] [] [] [] (80 * second) second
    (by decide) second (90 * second)).mpr fun h => absurd h.2.2.1 (by decide)

/-- **A refused competitor brings a robot back.** The robot was last seen 100 s ago and is offline;
a contention is recorded, and the robot is online. -/
theorem contention_comes_alive :
    (snapshot (run silentCalls) "r1".toList).1.isOnlineAt second (102 * second) = false ∧
      (snapshot (recordControlContention second (run silentCalls) "r1".toList [] [] [] []
        (101 * second)) "r1".toList).1.isOnlineAt second (102 * second) = true := by
  decide

/-! ## Late events -/

/-- **An attribute of a record** that operations replace: what an operation brings, if anything, and
where it is stored. -/
structure Attribute (α : Type) where
  brings : Operation → Option α
  stored : RobotRuntimeState → α
  next : ∀ (op : Operation) (robotID : Str) (s : RobotRuntimeState) (time : Time),
    stored (op.next robotID s time) = (brings op).getD (stored s)
  /-- A disconnect brings nothing. -/
  disconnect : ∀ op, op.isDisconnect = true → brings op = none

namespace Attribute

variable {α : Type} (a : Attribute α)

/-- The calls that bring a value. -/
def carriers (calls : List Call) : List Call := calls.filter fun c => (a.brings c.op).isSome

/-- No carrier is newer than this one. -/
def IsNewest (calls : List Call) (c : Call) : Prop := ∀ d ∈ a.carriers calls, d.stamp ≤ c.stamp

instance (calls : List Call) (c : Call) : Decidable (a.IsNewest calls c) :=
  inferInstanceAs (Decidable (∀ d ∈ a.carriers calls, d.stamp ≤ c.stamp))

/-- **The newest value is stored.** -/
def KeepsNewest (calls : List Call) (s : RobotRuntimeState) : Prop :=
  ∀ c ∈ a.carriers calls, a.IsNewest calls c → a.brings c.op = some (a.stored s)

/-- **The last value is the newest**: the last carrier to arrive brings what the newest brings. -/
def LastIsNewest (calls : List Call) : Prop :=
  ∀ c ∈ a.carriers calls, a.IsNewest calls c →
    ∀ d ∈ (a.carriers calls).getLast?, a.brings d.op = a.brings c.op

instance [DecidableEq α] (calls : List Call) : Decidable (a.LastIsNewest calls) :=
  inferInstanceAs (Decidable (∀ c ∈ a.carriers calls, a.IsNewest calls c →
    ∀ d ∈ (a.carriers calls).getLast?, a.brings d.op = a.brings c.op))

theorem carriers_append (calls : List Call) (c : Call) :
    a.carriers (calls ++ [c])
      = if (a.brings c.op).isSome then a.carriers calls ++ [c] else a.carriers calls :=
  filter_concat _ calls c

/-- What is stored is what the last carrier brought. -/
theorem stored_replay (robotID : Str) (calls : List Call) :
    a.stored (replay robotID calls)
      = ((a.carriers calls).getLast?.bind fun c => a.brings c.op).getD (a.stored {}) := by
  induction calls using List.reverseRecOn with
  | nil => rfl
  | append_singleton calls c ih =>
    rw [replay_append, a.next, a.carriers_append]
    cases hc : a.brings c.op with
    | none => exact ih
    | some v =>
      rw [Option.isSome_some, if_pos rfl, List.getLast?_concat, Option.bind_some, hc]
      rfl

/-- Every carrier has an effect. -/
theorem carriers_effective (robotID : Str) (calls : List Call) :
    a.carriers (effective robotID calls) = a.carriers (history robotID calls) := by
  refine filter_effective robotID calls fun c hc => ?_
  by_contra hdisconnect
  rw [a.disconnect c.op (Bool.of_not_eq_false hdisconnect)] at hc
  cases hc

/-- **The newest value is stored exactly when the last value is the newest.** -/
theorem keepsNewest_iff (robotID : Str) (calls : List Call) :
    a.KeepsNewest (history robotID calls) (replay robotID (effective robotID calls)) ↔
      a.LastIsNewest (history robotID calls) := by
  refine forall₂_congr fun c hc => imp_congr_right fun _ => ?_
  rw [a.stored_replay, a.carriers_effective]
  cases hlast : (a.carriers (history robotID calls)).getLast? with
  | none =>
    rw [List.getLast?_eq_none_iff.mp hlast] at hc
    cases hc
  | some d =>
    have hd : (a.brings d.op).isSome = true :=
      (List.mem_filter.mp (List.mem_of_getLast? hlast)).2
    obtain ⟨v, hv⟩ := Option.isSome_iff_exists.mp hd
    rw [Option.bind_some, hv, Option.getD_some]
    constructor
    · intro hbrings e he
      rw [← Option.mem_some.mp he, hv, hbrings]
    · intro hall
      rw [← hall d rfl, hv]

end Attribute

/-- What a contention leaves behind. -/
structure Evidence where
  incomingIP : Str
  incumbentIP : Str
  policy : Str
  reason : Str
  deriving DecidableEq, Repr

/-- The evidence of a contention. -/
def contentionEvidence : Attribute Evidence where
  brings
    | .controlContention incoming incumbent policy reason =>
      some ⟨trimSpace incoming, trimSpace incumbent, trimSpace policy, trimSpace reason⟩
    | _ => none
  stored s := ⟨s.lastControlContentionIncomingIP, s.lastControlContentionIncumbentIP,
    s.lastControlContentionPolicy, s.lastControlContentionReason⟩
  next op _ _ _ := by cases op <;> rfl
  disconnect op h := by cases op <;> first | rfl | cases h

/-- A text that is not blank. -/
def nonBlank (text : Str) : Option Str :=
  if trimSpace text = [] then none else some (trimSpace text)

theorem nonBlank_getD (text old : Str) :
    (nonBlank text).getD old = if trimSpace text = [] then old else trimSpace text := by
  unfold nonBlank
  split_ifs <;> rfl

/-- `RobotPublicIP`. -/
def publicIP : Attribute Str where
  brings
    | .heartbeat ip _ _ => nonBlank ip
    | .controlConnected ip _ _ => nonBlank ip
    | _ => none
  stored s := s.robotPublicIP
  next op _ _ _ := by cases op <;> first | rfl | exact (nonBlank_getD _ _).symm
  disconnect op h := by cases op <;> first | rfl | cases h

/-- `RobotLocalIP`. -/
def localIP : Attribute Str where
  brings
    | .heartbeat _ ip _ => nonBlank ip
    | .controlConnected _ ip _ => nonBlank ip
    | _ => none
  stored s := s.robotLocalIP
  next op _ _ _ := by cases op <;> first | rfl | exact (nonBlank_getD _ _).symm
  disconnect op h := by cases op <;> first | rfl | cases h

/-- The contentions among calls. -/
def contentions (calls : List Call) : List Call := calls.filter fun c => c.op.isContention

/-- `LastControlContentionAt` is the time of the newest contention. -/
theorem latest_contention (robotID : Str) (calls : List Call) (hclock : ∀ c ∈ calls, c.clock ≠ 0) :
    Latest ((contentions calls).map Call.stamp)
      (replay robotID calls).lastControlContentionAt := by
  induction calls using List.reverseRecOn with
  | nil => exact Or.inl ⟨rfl, rfl⟩
  | append_singleton calls c ih =>
    have hbefore := ih fun x hx => hclock x (List.mem_append_left _ hx)
    rw [replay_append, next_lastControlContentionAt, contentions, filter_concat]
    split_ifs
    · rw [List.map_append]
      refine hbefore.append (fun x hx => ?_) (normalizeAt_ne_zero (hclock c (by simp)))
      obtain ⟨y, hy, rfl⟩ := List.mem_map.mp hx
      exact normalizeAt_ne_zero
        (hclock y (List.mem_append_left _ (List.mem_of_mem_filter hy)))
    · exact hbefore

theorem carriers_contentionEvidence (calls : List Call) :
    contentionEvidence.carriers calls = contentions calls := by
  refine List.filter_congr fun c _ => ?_
  cases c.op <;> rfl

/-- A call without effect is no contention. -/
theorem contentions_effective (robotID : Str) (calls : List Call) :
    contentions (effective robotID calls) = contentions (history robotID calls) := by
  rw [← carriers_contentionEvidence, ← carriers_contentionEvidence]
  exact contentionEvidence.carriers_effective robotID calls

/-- The newest contention is the one whose time is stored. -/
theorem isNewest_contention_iff (robotID : Str) (calls : List Call)
    (hclock : ∀ c ∈ calls, c.clock ≠ 0) {c : Call} (hc : c ∈ contentions (history robotID calls)) :
    contentionEvidence.IsNewest (history robotID calls) c ↔
      c.stamp = (replay robotID (effective robotID calls)).lastControlContentionAt := by
  have hlatest := latest_contention robotID (effective robotID calls)
    fun c hc => hclock c (mem_of_mem_effective hc)
  rw [contentions_effective] at hlatest
  unfold Attribute.IsNewest
  rw [carriers_contentionEvidence]
  rcases hlatest with ⟨hnil, -⟩ | ⟨hmem, hupper⟩
  · rw [List.map_eq_nil_iff.mp hnil] at hc
    cases hc
  · constructor
    · intro hnewest
      obtain ⟨d, hd, heq⟩ := List.mem_map.mp hmem
      refine le_antisymm (hupper (List.mem_map_of_mem hc)) ?_
      rw [← heq]
      exact hnewest d hd
    · intro heq d hd
      rw [heq]
      exact hupper (List.mem_map_of_mem hd)

/-- **When the newest evidence is stored.** For every sequence of calls, in any order of their
times: the stored evidence is that of the contention whose time is stored, and the two stored
addresses are those of the newest heartbeat or connect that brought one, exactly when of each of
the three the last call to bring it brings that of the newest. -/
theorem newest_stored_iff (calls : List Call) (hclock : ∀ c ∈ calls, c.clock ≠ 0) (robotID : Str)
    (s : RobotRuntimeState) (hs : s ∈ run calls robotID) :
    ((∀ c ∈ contentions (history robotID calls), c.stamp = s.lastControlContentionAt →
        contentionEvidence.brings c.op = some (contentionEvidence.stored s)) ∧
      publicIP.KeepsNewest (history robotID calls) s ∧
      localIP.KeepsNewest (history robotID calls) s) ↔
    (contentionEvidence.LastIsNewest (history robotID calls) ∧
      publicIP.LastIsNewest (history robotID calls) ∧
      localIP.LastIsNewest (history robotID calls)) := by
  obtain ⟨-, rfl⟩ := of_mem_run hs
  rw [publicIP.keepsNewest_iff, localIP.keepsNewest_iff, ← contentionEvidence.keepsNewest_iff]
  refine and_congr_left fun _ => ?_
  unfold Attribute.KeepsNewest
  rw [carriers_contentionEvidence]
  refine forall₂_congr fun c hc => ?_
  rw [isNewest_contention_iff robotID calls hclock hc]

/-- An event of the robot of the samples. -/
def eventAt (time : Time) (op : Operation) : Call :=
  { robotID := "r1".toList, op := op, time := time, clock := 9 }

/-- Two contentions and two addresses, each pair in the order of its times. -/
def promptCalls : List Call :=
  [eventAt 2 (.controlConnected "1.1.1.1".toList "10.0.0.1".toList []),
    eventAt 3 (.controlContention "6.6.6.6".toList "1.1.1.1".toList [] "first".toList),
    eventAt 4 (.heartbeat "2.2.2.2".toList [] []),
    eventAt 5 (.controlContention "7.7.7.7".toList "2.2.2.2".toList [] "second".toList)]

/-- Calls in the order of their times bring the newest last. -/
theorem newest_stored_prompt :
    ∃ s ∈ run promptCalls "r1".toList, s.lastControlContentionAt = 5 ∧
      (∀ c ∈ contentions (history "r1".toList promptCalls),
        c.stamp = s.lastControlContentionAt →
          contentionEvidence.brings c.op = some (contentionEvidence.stored s)) ∧
      publicIP.KeepsNewest (history "r1".toList promptCalls) s ∧
      localIP.KeepsNewest (history "r1".toList promptCalls) s :=
  ⟨_, rfl, by decide, (newest_stored_iff promptCalls (by decide) "r1".toList _ rfl).mpr
    (by decide +kernel)⟩

/-- **A late event wins.** A contention and a heartbeat that are older than what is stored arrive
last: the stored time is that of the newer contention, with the evidence of the older one; and the
stored address is the older one. -/
theorem late_event_wins :
    ∃ s ∈ run [eventAt 6 (.heartbeat "2.2.2.2".toList [] []),
        eventAt 5 (.controlContention "7.7.7.7".toList "2.2.2.2".toList [] "new".toList),
        eventAt 3 (.controlContention "6.6.6.6".toList "1.1.1.1".toList [] "old".toList),
        eventAt 2 (.controlConnected "1.1.1.1".toList [] [])] "r1".toList,
      s.lastControlContentionAt = 5 ∧ s.lastControlContentionReason = "old".toList ∧
        s.lastHeartbeatAt = 6 ∧ s.robotPublicIP = "1.1.1.1".toList :=
  ⟨_, rfl, by decide, by decide, by decide, by decide⟩

end Roboat.Connstate
