import Mathlib.Data.List.Basic
import Mathlib.Tactic.ByContra
import Roboat.Connstate.State

/-! # The runtime state as a summary of its history

The record of a robot is a fold over the calls about it, so what it says can be read off those
calls. For any order of the times the record keeps the maxima; for calls in the order of their
times, `IsOnlineAt` is a rule about the last heartbeat and the last control event. -/

namespace Roboat.Connstate

/-- The operations, without the robot and the time. -/
inductive Operation where
  | heartbeat (robotPublicIP robotLocalIP natType : Str)
  | controlConnected (robotPublicIP robotLocalIP natType : Str)
  | controlContention (incomingIP incumbentIP policy reason : Str)
  | controlActivity
  | controlDisconnected
  deriving DecidableEq, Repr

namespace Operation

def isHeartbeat : Operation → Bool
  | heartbeat _ _ _ => true
  | _ => false

def isContention : Operation → Bool
  | controlContention _ _ _ _ => true
  | _ => false

def isDisconnect : Operation → Bool
  | controlDisconnected => true
  | _ => false

/-- Connects, touches and disconnects. -/
def isControl : Operation → Bool
  | controlConnected _ _ _ => true
  | controlActivity => true
  | controlDisconnected => true
  | _ => false

/-- The new record of an operation. -/
def next (op : Operation) (robotID : Str) (prev : RobotRuntimeState) (time : Time) :
    RobotRuntimeState :=
  match op with
  | heartbeat ip localIP natType => prev.heartbeat robotID ip localIP natType time
  | controlConnected ip localIP natType => prev.connected robotID ip localIP natType time
  | controlContention incoming incumbent policy reason =>
    prev.contention robotID incoming incumbent policy reason time
  | controlActivity => prev.activity robotID time
  | controlDisconnected => prev.disconnected time

end Operation

/-- A call of one of the operations; `clock` is the current time at the call. -/
structure Call where
  robotID : Str
  op : Operation
  time : Time
  clock : Time
  deriving DecidableEq, Repr

namespace Call

def apply (store : Store) (c : Call) : Store :=
  match c.op with
  | .heartbeat ip localIP natType =>
    upsertHeartbeat c.clock store c.robotID ip localIP natType c.time
  | .controlConnected ip localIP natType =>
    upsertControlConnected c.clock store c.robotID ip localIP natType c.time
  | .controlContention incoming incumbent policy reason =>
    recordControlContention c.clock store c.robotID incoming incumbent policy reason c.time
  | .controlActivity => touchControlActivity c.clock store c.robotID c.time
  | .controlDisconnected => setControlDisconnected c.clock store c.robotID c.time

/-- The record of the robot after the call. -/
def record (c : Call) (robotID : Str) (prev : Option RobotRuntimeState) :
    Option RobotRuntimeState :=
  if prev = none ∧ c.op.isDisconnect then none
  else some (c.op.next robotID (prev.getD {}) (normalizeAt c.clock c.time))

end Call

/-- The store after a sequence of calls, from the empty one. -/
def run (calls : List Call) : Store := calls.foldl Call.apply fun _ => none

/-- The calls about a robot. -/
def history (robotID : Str) (calls : List Call) : List Call :=
  calls.filter fun c => trimSpace c.robotID = robotID

/-- The calls about a robot that have an effect: a disconnect is ignored as long as the robot has no
record, and every other operation makes one. -/
def effective (robotID : Str) (calls : List Call) : List Call :=
  (history robotID calls).dropWhile fun c => c.op.isDisconnect

/-- The heartbeats among calls. -/
def heartbeats (calls : List Call) : List Call := calls.filter fun c => c.op.isHeartbeat

/-- The control events among calls. -/
def controls (calls : List Call) : List Call := calls.filter fun c => c.op.isControl

/-! ## One robot at a time -/

variable {robotID : Str} {c : Call} {calls : List Call} {store : Store}

/-- Every call of the store edits one record. -/
theorem Call.apply_eq_edit (store : Store) (c : Call) :
    c.apply store = store.edit c.robotID c.record := by
  unfold Call.apply
  cases hop : c.op with
  | controlDisconnected =>
    refine congrArg (store.edit c.robotID) (funext fun robotID => funext fun prev => ?_)
    cases prev <;> simp [Call.record, Operation.isDisconnect, Operation.next, hop]
  | _ =>
    refine congrArg (store.edit c.robotID) (funext fun robotID => funext fun prev => ?_)
    simp [Call.record, Operation.isDisconnect, Operation.next, hop]

/-- A call leaves the records of the other robots as they are. -/
theorem Call.apply_other (h : trimSpace c.robotID ≠ robotID) :
    c.apply store robotID = store robotID := by
  rw [Call.apply_eq_edit]
  unfold Store.edit
  split_ifs
  · rfl
  · exact Function.update_of_ne h.symm _ _

theorem Call.apply_same (h : trimSpace c.robotID = robotID) (hne : robotID ≠ []) :
    c.apply store robotID = c.record robotID (store robotID) := by
  subst h
  rw [Call.apply_eq_edit]
  unfold Store.edit
  rw [if_neg hne, Function.update_self]

theorem run_append (calls : List Call) (c : Call) :
    run (calls ++ [c]) = c.apply (run calls) := by
  simp [run, List.foldl_append]

/-- There is no record under the blank id. -/
theorem run_blank (calls : List Call) : run calls [] = none := by
  induction calls using List.reverseRecOn with
  | nil => rfl
  | append_singleton calls c ih =>
    rw [run_append, Call.apply_eq_edit]
    unfold Store.edit
    split_ifs with hblank
    · exact ih
    · rw [Function.update_of_ne (Ne.symm hblank), ih]

theorem history_append (calls : List Call) (c : Call) :
    history robotID (calls ++ [c]) =
      history robotID calls ++ if trimSpace c.robotID = robotID then [c] else [] := by
  unfold history
  rw [List.filter_append]
  split_ifs with h <;> simp [h]

/-- A call about the robot has an effect unless it is a disconnect that finds no record. -/
theorem effective_append_same (h : trimSpace c.robotID = robotID) :
    effective robotID (calls ++ [c]) =
      if effective robotID calls = [] ∧ c.op.isDisconnect then [] else
        effective robotID calls ++ [c] := by
  unfold effective
  rw [history_append, if_pos h, List.dropWhile_append]
  by_cases hnil : (history robotID calls).dropWhile (fun c => c.op.isDisconnect) = []
  · cases hop : c.op.isDisconnect <;> simp [hnil, hop]
  · simp [hnil]

/-- A call for another robot has no effect on this one. -/
theorem effective_append_other (h : trimSpace c.robotID ≠ robotID) :
    effective robotID (calls ++ [c]) = effective robotID calls := by
  unfold effective
  rw [history_append, if_neg h, List.append_nil]

/-- The record a robot has after calls about it that all have an effect. -/
def replay (robotID : Str) (calls : List Call) : RobotRuntimeState :=
  calls.foldl (fun prev c => c.op.next robotID prev (normalizeAt c.clock c.time)) {}

theorem replay_append (robotID : Str) (calls : List Call) (c : Call) :
    replay robotID (calls ++ [c]) =
      c.op.next robotID (replay robotID calls) (normalizeAt c.clock c.time) := by
  simp [replay, List.foldl_append]

/-- **The record of a robot is the replay of its effective calls**, and it has one as soon as there
is such a call. -/
theorem run_eq_replay (hne : robotID ≠ []) (calls : List Call) :
    run calls robotID =
      if effective robotID calls = [] then none
      else some (replay robotID (effective robotID calls)) := by
  induction calls using List.reverseRecOn with
  | nil => rfl
  | append_singleton calls c ih =>
    rw [run_append]
    by_cases h : trimSpace c.robotID = robotID
    · rw [Call.apply_same h hne, effective_append_same h, ih]
      unfold Call.record
      by_cases hnil : effective robotID calls = []
      · cases hop : c.op.isDisconnect <;> simp [hnil, replay]
      · simp [hnil, replay_append]
    · rw [Call.apply_other h, effective_append_other h, ih]

/-- A robot with a record has effective calls, and the record is their replay. -/
theorem of_mem_run {s : RobotRuntimeState} (h : s ∈ run calls robotID) :
    effective robotID calls ≠ [] ∧ s = replay robotID (effective robotID calls) := by
  have hne : robotID ≠ [] := by
    rintro rfl
    rw [run_blank] at h
    cases h
  rw [run_eq_replay hne] at h
  split_ifs at h with hnil
  · cases h
  · exact ⟨hnil, (Option.mem_some.mp h).symm⟩

theorem mem_of_mem_effective (h : c ∈ effective robotID calls) : c ∈ calls :=
  List.mem_of_mem_filter (List.dropWhile_subset _ h)

/-- One more call, among those of some kind. -/
theorem filter_concat (p : Call → Bool) (calls : List Call) (c : Call) :
    (calls ++ [c]).filter p = if p c then calls.filter p ++ [c] else calls.filter p := by
  rw [List.filter_append]
  split_ifs with h <;> simp [h]

theorem heartbeats_append (calls : List Call) (c : Call) :
    heartbeats (calls ++ [c]) =
      if c.op.isHeartbeat then heartbeats calls ++ [c] else heartbeats calls :=
  filter_concat _ calls c

theorem controls_append (calls : List Call) (c : Call) :
    controls (calls ++ [c]) = if c.op.isControl then controls calls ++ [c] else controls calls :=
  filter_concat _ calls c

/-- Calls that are no disconnects all have an effect. -/
theorem filter_effective {p : Call → Bool} (robotID : Str) (calls : List Call)
    (hp : ∀ c, p c = true → c.op.isDisconnect = false) :
    (effective robotID calls).filter p = (history robotID calls).filter p := by
  unfold effective
  generalize history robotID calls = calls
  induction calls with
  | nil => rfl
  | cons c calls ih =>
    rw [List.dropWhile_cons]
    split_ifs with h
    · -- what is dropped is a disconnect, so it is not among those
      have hnot : ¬ p c = true := fun hc => Bool.false_ne_true ((hp c hc).symm.trans h)
      rw [ih, List.filter_cons_of_neg hnot]
    · rfl

/-- Every heartbeat has an effect. -/
theorem heartbeats_effective (robotID : Str) (calls : List Call) :
    heartbeats (effective robotID calls) = heartbeats (history robotID calls) := by
  refine filter_effective robotID calls fun c hc => ?_
  cases hop : c.op <;> rw [hop] at hc <;> first | rfl | cases hc

/-! ## What an operation does to each field -/

section Fields

variable (op : Operation) (s : RobotRuntimeState) (time : Time)

/-- Every call advances the last-seen time. -/
theorem next_lastSeenAt :
    (op.next robotID s time).lastSeenAt = latestTime s.lastSeenAt time := by
  cases op <;> rfl

/-- Only a heartbeat advances the heartbeat time. -/
theorem next_lastHeartbeatAt :
    (op.next robotID s time).lastHeartbeatAt =
      if op.isHeartbeat then latestTime s.lastHeartbeatAt time else s.lastHeartbeatAt := by
  cases op <;> rfl

/-- Only a control call sets the connected flag. -/
theorem next_controlConnected :
    (op.next robotID s time).controlConnected =
      if op.isControl then !op.isDisconnect else s.controlConnected := by
  cases op <;> rfl

/-- A disconnect sets its time and the other control calls clear it. -/
theorem next_controlDisconnectedAt :
    (op.next robotID s time).controlDisconnectedAt =
      if op.isDisconnect then latestTime s.controlDisconnectedAt time
      else if op.isControl then 0 else s.controlDisconnectedAt := by
  cases op <;> rfl

/-- A connect takes the later time, a touch keeps the time there is, and nothing else changes it. -/
theorem next_controlConnectedAt :
    (op.next robotID s time).controlConnectedAt =
      match op with
      | .controlConnected _ _ _ => latestTime s.controlConnectedAt time
      | .controlActivity =>
        if s.controlConnected = false ∧ s.controlConnectedAt = 0 then time
        else s.controlConnectedAt
      | _ => s.controlConnectedAt := by
  cases op <;> rfl

/-- Only a contention advances the contention time. -/
theorem next_lastControlContentionAt :
    (op.next robotID s time).lastControlContentionAt =
      if op.isContention then latestTime s.lastControlContentionAt time
      else s.lastControlContentionAt := by
  cases op <;> rfl

end Fields

/-! ## Calls in any order

A field that is not zero is bounded by `LastSeenAt`. Every operation moves `LastSeenAt` up to its
own time and leaves each field, resets it, or sets it to its own time or the later of the two, so
the bound carries over whatever the order of the times. -/

/-- A time that is there is at most `seen`, which is there then. -/
def Within (seen x : Time) : Prop := x ≠ 0 → seen ≠ 0 ∧ x ≤ seen

section Within

variable {seen x time : Time}

theorem within_zero : Within seen 0 := fun h => absurd rfl h

theorem Within.keep (h : Within seen x) (htime : time ≠ 0) :
    Within (latestTime seen time) x := by
  intro hx
  obtain ⟨hseen, hle⟩ := h hx
  exact ⟨latestTime_ne_zero htime, le_trans hle (le_latestTime_left hseen htime)⟩

theorem within_new (htime : time ≠ 0) : Within (latestTime seen time) time :=
  fun _ => ⟨latestTime_ne_zero htime, le_latestTime_right htime⟩

theorem Within.later (h : Within seen x) (htime : time ≠ 0) :
    Within (latestTime seen time) (latestTime x time) := by
  by_cases hx : x = 0
  · rw [hx, latestTime_zero_left]
    exact within_new htime
  · rw [latestTime_of_ne hx htime]
    rcases max_choice x time with hmax | hmax <;> rw [hmax]
    · exact h.keep htime
    · exact within_new htime

end Within

/-- What a record says about the calls it summarises. -/
structure Consistent (s : RobotRuntimeState) (calls : List Call) : Prop where
  seen : Latest (calls.map Call.time) s.lastSeenAt
  heartbeat : Latest ((heartbeats calls).map Call.time) s.lastHeartbeatAt
  connectedAt : Within s.lastSeenAt s.controlConnectedAt
  disconnectedAt : Within s.lastSeenAt s.controlDisconnectedAt
  heartbeatAt : Within s.lastSeenAt s.lastHeartbeatAt
  contentionAt : Within s.lastSeenAt s.lastControlContentionAt
  /-- A connected robot has a time of connection and none of disconnection. -/
  up : s.controlConnected = true → s.controlConnectedAt ≠ 0 ∧ s.controlDisconnectedAt = 0
  /-- A robot that was connected and is not any more has a time of disconnection. -/
  down : s.controlConnected = false → s.controlConnectedAt ≠ 0 → s.controlDisconnectedAt ≠ 0

theorem consistent_nil : Consistent {} [] where
  seen := Or.inl ⟨rfl, rfl⟩
  heartbeat := Or.inl ⟨rfl, rfl⟩
  connectedAt := within_zero
  disconnectedAt := within_zero
  heartbeatAt := within_zero
  contentionAt := within_zero
  up := nofun
  down := fun _ h => absurd rfl h

/-- One more call. -/
theorem Consistent.next {s : RobotRuntimeState} (h : Consistent s calls)
    (hthere : ∀ x ∈ calls, x.time ≠ 0) (hc : c.time ≠ 0) :
    Consistent (c.op.next robotID s c.time) (calls ++ [c]) where
  seen := by
    rw [next_lastSeenAt, List.map_append]
    exact h.seen.append (fun x hx => by
      obtain ⟨y, hy, rfl⟩ := List.mem_map.mp hx
      exact hthere y hy) hc
  heartbeat := by
    rw [next_lastHeartbeatAt, heartbeats_append]
    split_ifs
    · rw [List.map_append]
      exact h.heartbeat.append (fun x hx => by
        obtain ⟨y, hy, rfl⟩ := List.mem_map.mp hx
        exact hthere y (List.mem_of_mem_filter hy)) hc
    · exact h.heartbeat
  connectedAt := by
    rw [next_lastSeenAt, next_controlConnectedAt]
    split
    · exact h.connectedAt.later hc
    · split_ifs
      · exact within_new hc
      · exact h.connectedAt.keep hc
    · exact h.connectedAt.keep hc
  disconnectedAt := by
    rw [next_lastSeenAt, next_controlDisconnectedAt]
    split_ifs
    · exact h.disconnectedAt.later hc
    · exact within_zero
    · exact h.disconnectedAt.keep hc
  heartbeatAt := by
    rw [next_lastSeenAt, next_lastHeartbeatAt]
    split_ifs
    · exact h.heartbeatAt.later hc
    · exact h.heartbeatAt.keep hc
  contentionAt := by
    rw [next_lastSeenAt, next_lastControlContentionAt]
    split_ifs
    · exact h.contentionAt.later hc
    · exact h.contentionAt.keep hc
  up := by
    rw [next_controlConnected, next_controlConnectedAt, next_controlDisconnectedAt]
    cases hop : c.op with
    | controlConnected => exact fun _ => ⟨latestTime_ne_zero hc, rfl⟩
    | controlActivity =>
      refine fun _ => ⟨?_, rfl⟩
      -- a touch of a robot that was up finds a time of connection, by the invariant before it
      show (if _ then _ else _) ≠ _
      split_ifs with hfirst
      · exact hc
      · intro hzero
        cases hup : s.controlConnected with
        | true => exact (h.up hup).1 hzero
        | false => exact hfirst ⟨hup, hzero⟩
    | controlDisconnected => exact nofun
    | heartbeat | controlContention => exact h.up
  down := by
    rw [next_controlConnected, next_controlConnectedAt, next_controlDisconnectedAt]
    cases c.op with
    | controlConnected | controlActivity => exact nofun
    | controlDisconnected => exact fun _ _ => latestTime_ne_zero hc
    | heartbeat | controlContention => exact h.down

/-- Any number of calls. -/
theorem consistent_replay (robotID : Str) :
    ∀ calls : List Call, (∀ c ∈ calls, c.time ≠ 0) → Consistent (replay robotID calls) calls := by
  intro calls
  induction calls using List.reverseRecOn with
  | nil => exact fun _ => consistent_nil
  | append_singleton calls c ih =>
    intro hthere
    have hbefore : ∀ x ∈ calls, x.time ≠ 0 := fun x hx => hthere x (List.mem_append_left _ hx)
    have hc : c.time ≠ 0 := hthere c (List.mem_append_right _ (List.mem_singleton_self c))
    rw [replay_append, normalizeAt, if_neg hc]
    exact (ih hbefore).next hbefore hc

/-- The times of a record that are kept as maxima do not go back. -/
theorem next_mono {s : RobotRuntimeState} {time : Time} (op : Operation) (htime : time ≠ 0) :
    (s.lastSeenAt ≠ 0 → s.lastSeenAt ≤ (op.next robotID s time).lastSeenAt) ∧
      (s.lastHeartbeatAt ≠ 0 →
        s.lastHeartbeatAt ≤ (op.next robotID s time).lastHeartbeatAt) := by
  rw [next_lastSeenAt, next_lastHeartbeatAt]
  refine ⟨fun hne => le_latestTime_left hne htime, fun hne => ?_⟩
  split_ifs
  · exact le_latestTime_left hne htime
  · exact le_rfl

/-- A further call about any robot does not move the two maxima of a record back. -/
theorem run_append_mono {s : RobotRuntimeState} (hs : s ∈ run calls robotID)
    (hseen : s.lastSeenAt ≠ 0) (hc : c.time ≠ 0) :
    ∃ s' ∈ run (calls ++ [c]) robotID, s.lastSeenAt ≤ s'.lastSeenAt ∧
      (s.lastHeartbeatAt ≠ 0 → s.lastHeartbeatAt ≤ s'.lastHeartbeatAt) := by
  rw [run_append]
  by_cases hsame : trimSpace c.robotID = robotID
  · have hne : robotID ≠ [] := by
      rintro rfl
      rw [run_blank] at hs
      cases hs
    have hnext : c.apply (run calls) robotID = some (c.op.next robotID s c.time) := by
      rw [Call.apply_same hsame hne, Option.mem_def.mp hs]
      simp [Call.record, normalizeAt, hc]
    exact ⟨_, hnext, (next_mono c.op hc).1 hseen, (next_mono c.op hc).2⟩
  · rw [Call.apply_other hsame]
    exact ⟨s, hs, le_rfl, fun _ => le_rfl⟩

/-- **The record of a robot after calls with any times in any order.** `LastSeenAt` is the latest
time of its effective calls and `LastHeartbeatAt` the latest heartbeat, every other time is at most
`LastSeenAt`, and the times of the control channel agree with its flag. A further call never moves
the two maxima back, and a call about another robot changes nothing. -/
theorem run_consistent (calls : List Call) (hthere : ∀ c ∈ calls, c.time ≠ 0) :
    (∀ robotID : Str, ∀ s ∈ run calls robotID,
      IsGreatest { t | t ∈ (effective robotID calls).map Call.time } s.lastSeenAt ∧
      Latest ((heartbeats (history robotID calls)).map Call.time) s.lastHeartbeatAt ∧
      (∀ t ∈ [s.controlConnectedAt, s.controlDisconnectedAt, s.lastHeartbeatAt,
        s.lastControlContentionAt], t ≠ 0 → t ≤ s.lastSeenAt) ∧
      (s.controlConnected = true → s.controlConnectedAt ≠ 0 ∧ s.controlDisconnectedAt = 0) ∧
      (s.controlConnected = false → s.controlConnectedAt ≠ 0 → s.controlDisconnectedAt ≠ 0) ∧
      ∀ c : Call, c.time ≠ 0 → ∃ s' ∈ run (calls ++ [c]) robotID,
        s.lastSeenAt ≤ s'.lastSeenAt ∧
        (s.lastHeartbeatAt ≠ 0 → s.lastHeartbeatAt ≤ s'.lastHeartbeatAt)) ∧
    ∀ (c : Call) (robotID : Str), trimSpace c.robotID ≠ robotID →
      run (calls ++ [c]) robotID = run calls robotID := by
  refine ⟨fun robotID s hs => ?_, fun c robotID hother => ?_⟩
  · obtain ⟨hsome, rfl⟩ := of_mem_run hs
    have heffective : ∀ c ∈ effective robotID calls, c.time ≠ 0 :=
      fun c hc => hthere c (mem_of_mem_effective hc)
    have h := consistent_replay robotID (effective robotID calls) heffective
    have hseen := h.seen.resolve_left fun hnil => hsome (List.map_eq_nil_iff.mp hnil.1)
    refine ⟨hseen, ?_, ?_, h.up, h.down, fun c hc => ?_⟩
    · rw [← heartbeats_effective]
      exact h.heartbeat
    · simp only [List.forall_mem_cons, List.not_mem_nil, false_implies, implies_true, and_true]
      exact ⟨fun hne => (h.connectedAt hne).2, fun hne => (h.disconnectedAt hne).2,
        fun hne => (h.heartbeatAt hne).2, fun hne => (h.contentionAt hne).2⟩
    · refine run_append_mono hs ?_ hc
      obtain ⟨x, hx, htime⟩ := List.mem_map.mp hseen.1
      rw [← htime]
      exact heffective x hx
  · rw [run_append, Call.apply_other hother]

/-- A robot connects, sends a heartbeat that arrives late, and disconnects. -/
def sampleCalls : List Call :=
  [{ robotID := "r1".toList, op := .controlDisconnected, time := 1, clock := 9 },
    { robotID := "r1 ".toList, op := .controlConnected [] [] [], time := 5, clock := 9 },
    { robotID := "r1".toList, op := .heartbeat [] [] [], time := 3, clock := 9 },
    { robotID := "r1".toList, op := .controlDisconnected, time := 4, clock := 9 }]

theorem run_consistent_sample :
    ∃ s ∈ run sampleCalls "r1".toList, IsGreatest { t | t ∈ [5, 3, 4] } s.lastSeenAt :=
  ⟨_, rfl, ((run_consistent sampleCalls (by decide)).1 "r1".toList _ rfl).1⟩

/-! ## Calls in the order of their times

In order, the latest time is the last one. So the record holds the last heartbeat, and the flag and
the time of disconnection are those of the last control event. -/

/-- The last heartbeat. -/
def lastHeartbeat (calls : List Call) : Option Call := (heartbeats calls).getLast?

/-- The last control event. -/
def lastControl (calls : List Call) : Option Call := (controls calls).getLast?

/-- **When a robot is online, by its history.** A robot whose last control event is a disconnect
needs a later heartbeat; and the last heartbeat, or the last connect or touch of a robot that never
sent one, is recent. -/
def OnlineByHistory (robotID : Str) (calls : List Call) (now : Time) : Prop :=
  (∀ d ∈ lastControl (effective robotID calls), d.op.isDisconnect = true →
    ∃ h ∈ heartbeats (history robotID calls), d.time < h.time) ∧
  match lastHeartbeat (history robotID calls) with
  | some h => now - h.time ≤ heartbeatOnlineTTL
  | none => ∃ d ∈ lastControl (effective robotID calls), d.op.isDisconnect = false ∧
      now - d.time ≤ controlFallbackTTL

theorem InOrder.effective (h : InOrder Call.time (history robotID calls)) :
    InOrder Call.time (effective robotID calls) :=
  h.sublist (List.dropWhile_sublist _)

theorem InOrder.le_of_append (h : InOrder Call.time (calls ++ [c])) :
    ∀ x ∈ calls, x.time ≤ c.time :=
  fun x hx => (List.pairwise_append.mp h).2.2 x hx c (List.mem_singleton_self c)

/-- In order, the latest time is the time of the last call. -/
theorem InOrder.latest_eq (h : InOrder Call.time calls) {t : Time}
    (ht : Latest (calls.map Call.time) t) :
    t = (calls.getLast?.map Call.time).getD 0 := by
  induction calls using List.reverseRecOn with
  | nil =>
    rcases ht with ⟨-, rfl⟩ | ⟨hmem, -⟩
    · rfl
    · cases hmem
  | append_singleton calls c _ =>
    rcases ht with ⟨hnil, -⟩ | ⟨hmem, hupper⟩
    · simp at hnil
    · rw [List.getLast?_concat]
      refine le_antisymm ?_ (hupper (by simp))
      obtain ⟨x, hx, rfl⟩ := List.mem_map.mp hmem
      rcases List.mem_append.mp hx with hx | hx
      · exact h.le_of_append x hx
      · rw [List.mem_singleton.mp hx]
        exact le_rfl

/-- The control part of a record follows from the last control event. -/
def ControlOf (s : RobotRuntimeState) : Option Call → Prop
  | none => s.controlConnected = false ∧ s.controlDisconnectedAt = 0
  | some d => s.controlConnected = !d.op.isDisconnect ∧
      s.controlDisconnectedAt = if d.op.isDisconnect then d.time else 0

/-- Calls in time order leave the record of the last control call. -/
theorem controlOf_replay (robotID : Str) :
    ∀ calls : List Call, (∀ c ∈ calls, c.time ≠ 0) → InOrder Call.time calls →
      ControlOf (replay robotID calls) (lastControl calls) := by
  intro calls
  induction calls using List.reverseRecOn with
  | nil => exact fun _ _ => ⟨rfl, rfl⟩
  | append_singleton calls c ih =>
    intro hthere hordered
    have hbefore : ∀ x ∈ calls, x.time ≠ 0 := fun x hx => hthere x (List.mem_append_left _ hx)
    have hc : c.time ≠ 0 := hthere c (List.mem_append_right _ (List.mem_singleton_self c))
    have h := ih hbefore (List.pairwise_append.mp hordered).1
    rw [replay_append, normalizeAt, if_neg hc, lastControl, controls_append]
    by_cases hop : c.op.isControl = true
    · rw [if_pos hop, List.getLast?_concat]
      refine ⟨by rw [next_controlConnected, if_pos hop], ?_⟩
      rw [next_controlDisconnectedAt, if_pos hop]
      split_ifs
      · -- an earlier time of disconnection is at most `LastSeenAt`, which is not after this call
        have hconsistent := consistent_replay robotID calls hbefore
        refine latestTime_of_le hc fun hne => ?_
        obtain ⟨hseen, hle⟩ := hconsistent.disconnectedAt hne
        refine le_trans hle ?_
        rcases hconsistent.seen with ⟨-, hzero⟩ | ⟨hmem, -⟩
        · exact absurd hzero hseen
        · obtain ⟨x, hx, htime⟩ := List.mem_map.mp hmem
          rw [← htime]
          exact hordered.le_of_append x hx
      · rfl
    · have hdisconnect : c.op.isDisconnect = false := by
        cases hcop : c.op <;> simp [Operation.isControl, Operation.isDisconnect, hcop] at hop ⊢
      rw [if_neg hop]
      have hconnected : (c.op.next robotID (replay robotID calls) c.time).controlConnected =
          (replay robotID calls).controlConnected := by
        rw [next_controlConnected, if_neg hop]
      have hdisconnected :
          (c.op.next robotID (replay robotID calls) c.time).controlDisconnectedAt =
            (replay robotID calls).controlDisconnectedAt := by
        rw [next_controlDisconnectedAt, hdisconnect, if_neg (by decide), if_neg hop]
      unfold ControlOf at h ⊢
      rw [hconnected, hdisconnected]
      exact h

/-- `IsOnlineAt` as a condition. -/
theorem isOnlineAt_iff (clock : Time) (s : RobotRuntimeState) (now : Time) :
    s.isOnlineAt clock now = true ↔
      (s.controlConnected = false → s.controlDisconnectedAt ≠ 0 →
        s.lastHeartbeatAt ≠ 0 ∧ s.controlDisconnectedAt < s.lastHeartbeatAt) ∧
      if s.lastHeartbeatAt ≠ 0 then
        normalizeAt clock now - s.lastHeartbeatAt ≤ heartbeatOnlineTTL
      else s.controlConnected = true ∧
        (latestTime s.controlConnectedAt s.lastSeenAt ≠ 0 →
          normalizeAt clock now - latestTime s.controlConnectedAt s.lastSeenAt ≤
            controlFallbackTTL) := by
  have hheartbeat : minDuration ≤ heartbeatOnlineTTL ∧ heartbeatOnlineTTL < maxDuration := by decide
  have hcontrol : minDuration ≤ controlFallbackTTL ∧ controlFallbackTTL < maxDuration := by decide
  unfold RobotRuntimeState.isOnlineAt
  by_cases hdown : s.controlConnected = false ∧ s.controlDisconnectedAt ≠ 0 ∧
      (s.lastHeartbeatAt = 0 ∨ ¬ s.controlDisconnectedAt < s.lastHeartbeatAt)
  · rw [if_pos hdown]
    refine ⟨nofun, fun h => ?_⟩
    obtain ⟨hne, hlt⟩ := h.1 hdown.1 hdown.2.1
    rcases hdown.2.2 with hzero | hnot
    · exact absurd hzero hne
    · exact absurd hlt hnot
  · have hup : s.controlConnected = false → s.controlDisconnectedAt ≠ 0 →
        s.lastHeartbeatAt ≠ 0 ∧ s.controlDisconnectedAt < s.lastHeartbeatAt := by
      intro hfalse hne
      by_contra hnot
      refine hdown ⟨hfalse, hne, ?_⟩
      by_cases hzero : s.lastHeartbeatAt = 0
      · exact Or.inl hzero
      · exact Or.inr fun hlt => hnot ⟨hzero, hlt⟩
    rw [if_neg hdown]
    by_cases hzero : s.lastHeartbeatAt = 0
    · cases hconnected : s.controlConnected with
      | false => simp [hzero]
      | true =>
        by_cases href : latestTime s.controlConnectedAt s.lastSeenAt = 0
        · simp [hzero, href]
        · simp [hzero, href, sub_le_iff hcontrol.1 hcontrol.2]
    · rw [if_pos hzero, if_pos hzero, decide_eq_true_iff,
        sub_le_iff hheartbeat.1 hheartbeat.2]
      exact ⟨fun h => ⟨hup, h⟩, fun h => h.2⟩

/-- What the verdict needs to know of a record that summarises ordered calls without contention. -/
structure Summary (s : RobotRuntimeState) (calls : List Call) : Prop where
  control : ControlOf s (lastControl calls)
  heartbeat : s.lastHeartbeatAt = ((lastHeartbeat calls).map Call.time).getD 0
  /-- Without heartbeats the reference time is that of the last control event. -/
  reference : lastHeartbeat calls = none →
    latestTime s.controlConnectedAt s.lastSeenAt = ((lastControl calls).map Call.time).getD 0

/-- What a verdict needs holds after ordered calls without contention. -/
theorem summary_replay (robotID : Str) (calls : List Call) (hthere : ∀ c ∈ calls, c.time ≠ 0)
    (hordered : InOrder Call.time calls) (hnone : ∀ c ∈ calls, c.op.isContention = false) :
    Summary (replay robotID calls) calls := by
  have hconsistent := consistent_replay robotID calls hthere
  refine ⟨controlOf_replay robotID calls hthere hordered, ?_, fun hsilent => ?_⟩
  · exact InOrder.latest_eq (hordered.sublist List.filter_sublist) hconsistent.heartbeat
  · -- neither heartbeats nor contention: every call is a control event
    have hall : controls calls = calls := by
      refine List.filter_eq_self.mpr fun c hc => ?_
      have hnot : c.op.isHeartbeat = false := by
        have hnil : heartbeats calls = [] := List.getLast?_eq_none_iff.mp hsilent
        exact Bool.eq_false_iff.mpr (List.filter_eq_nil_iff.mp hnil c hc)
      have hcontention := hnone c hc
      cases hop : c.op <;>
        simp [Operation.isControl, Operation.isHeartbeat, Operation.isContention, hop]
          at hnot hcontention ⊢
    rw [lastControl, hall, ← hordered.latest_eq hconsistent.seen]
    by_cases hseen : (replay robotID calls).lastSeenAt = 0
    · have hzero : (replay robotID calls).controlConnectedAt = 0 := by
        by_contra hne
        exact (hconsistent.connectedAt hne).1 hseen
      rw [hseen, hzero]
      rfl
    · exact latestTime_of_le hseen fun hne => (hconsistent.connectedAt hne).2

/-- The verdict on a summary is the rule about its calls. -/
theorem Summary.isOnlineAt_iff_rule {s : RobotRuntimeState} (h : Summary s calls)
    (hthere : ∀ c ∈ calls, c.time ≠ 0) (hordered : InOrder Call.time calls) (clock now : Time) :
    s.isOnlineAt clock now = true ↔
      (∀ d ∈ lastControl calls, d.op.isDisconnect = true →
        ∃ b ∈ heartbeats calls, d.time < b.time) ∧
      match lastHeartbeat calls with
      | some b => normalizeAt clock now - b.time ≤ heartbeatOnlineTTL
      | none => ∃ d ∈ lastControl calls, d.op.isDisconnect = false ∧
          normalizeAt clock now - d.time ≤ controlFallbackTTL := by
  rw [isOnlineAt_iff]
  have hcontrol := h.control
  have hthereControl : ∀ d, lastControl calls = some d → d.time ≠ 0 := fun d hd =>
    hthere d (List.mem_of_mem_filter (List.mem_of_getLast? hd))
  cases hlast : lastHeartbeat calls with
  | some b =>
    have hb : b ∈ heartbeats calls := List.mem_of_getLast? hlast
    have hne : b.time ≠ 0 := hthere b (List.mem_of_mem_filter hb)
    have htime : s.lastHeartbeatAt = b.time := by rw [h.heartbeat, hlast]; rfl
    -- the last heartbeat is the latest one, so some heartbeat is after `d` exactly when it is
    have hlatest : ∀ d : Call, (∃ x ∈ heartbeats calls, d.time < x.time) ↔ d.time < b.time := by
      refine fun d => ⟨fun ⟨x, hx, hlt⟩ => lt_of_lt_of_le hlt ?_, fun hlt => ⟨b, hb, hlt⟩⟩
      obtain ⟨init, hinit⟩ := List.getLast?_eq_some_iff.mp hlast
      have hsorted : InOrder Call.time (init ++ [b]) := hinit ▸ hordered.sublist List.filter_sublist
      rw [hinit] at hx
      rcases List.mem_append.mp hx with hx | hx
      · exact hsorted.le_of_append x hx
      · rw [List.mem_singleton.mp hx]
    rw [htime, if_pos hne]
    refine and_congr_left fun _ => ?_
    cases hctl : lastControl calls with
    | none =>
      rw [hctl] at hcontrol
      exact ⟨fun _ => nofun, fun _ _ hdown => absurd hcontrol.2 hdown⟩
    | some d =>
      rw [hctl] at hcontrol
      simp only [Option.mem_some_iff, forall_eq', hlatest, hcontrol.1, hcontrol.2]
      cases hop : d.op.isDisconnect <;> simp [hne, hthereControl d hctl]
  | none =>
    have hzero : s.lastHeartbeatAt = 0 := by rw [h.heartbeat, hlast]; rfl
    have hnil : heartbeats calls = [] := List.getLast?_eq_none_iff.mp hlast
    rw [h.reference hlast, hzero, hnil, if_neg (fun hne => hne rfl)]
    cases hctl : lastControl calls with
    | none =>
      rw [hctl] at hcontrol
      simp [hcontrol.1]
    | some d =>
      rw [hctl] at hcontrol
      simp only [Option.mem_some_iff, forall_eq', exists_eq_left', hcontrol.1, hcontrol.2]
      cases hop : d.op.isDisconnect <;> simp [hthereControl d hctl]

/-- **Liveness refines the history.** For a robot whose calls have times in order, and none of which
records a contention, the verdict of `IsOnlineAt` on its snapshot is the rule about its history, at
every `now` (a zero `now` stands for the current time). -/
theorem isOnlineAt_snapshot_iff (robotID : Str) (hid : trimSpace robotID ≠ []) (calls : List Call)
    (hthere : ∀ c ∈ history (trimSpace robotID) calls, c.time ≠ 0)
    (hordered : InOrder Call.time (history (trimSpace robotID) calls))
    (hnone : ∀ c ∈ history (trimSpace robotID) calls, c.op.isContention = false)
    (clock now : Time) :
    (snapshot (run calls) robotID).1.isOnlineAt clock now = true ↔
      OnlineByHistory (trimSpace robotID) calls (normalizeAt clock now) := by
  have hsub : (effective (trimSpace robotID) calls).Sublist (history (trimSpace robotID) calls) :=
    List.dropWhile_sublist _
  have hthere' := fun c hc => hthere c (hsub.subset hc)
  have hrule := (summary_replay (trimSpace robotID) _ hthere' hordered.effective
    fun c hc => hnone c (hsub.subset hc)).isOnlineAt_iff_rule hthere' hordered.effective clock now
  have hheartbeats := heartbeats_effective (trimSpace robotID) calls
  unfold OnlineByHistory
  rw [lastHeartbeat, ← hheartbeats]
  rw [lastHeartbeat] at hrule
  refine Iff.trans ?_ hrule
  unfold snapshot
  rw [if_neg hid, run_eq_replay hid]
  by_cases hnil : effective (trimSpace robotID) calls = []
  · -- a robot without a record is judged by the zero record, which is the replay of nothing
    rw [if_pos hnil, hnil]
    rfl
  · rw [if_neg hnil]

/-- A heartbeat after the disconnect keeps the robot online for 75 s. -/
def orderedCalls : List Call :=
  [{ robotID := "r1".toList, op := .controlConnected [] [] [], time := 2, clock := 9 },
    { robotID := "r1".toList, op := .controlDisconnected, time := 3, clock := 9 },
    { robotID := "r1".toList, op := .heartbeat [] [] [], time := 4, clock := 9 }]

theorem isOnlineAt_snapshot_ordered :
    OnlineByHistory "r1".toList orderedCalls 75000000004 :=
  (isOnlineAt_snapshot_iff "r1".toList (by decide) orderedCalls (by decide) (by decide) (by decide)
    9 75000000004).mp (by decide)

end Roboat.Connstate
