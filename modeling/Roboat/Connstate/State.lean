import Mathlib.Logic.Function.Basic
import Mathlib.Order.Bounds.Basic
import Mathlib.Order.MinMax
import Roboat.Text.Strings

/-! # The runtime state of robots

`connstate` keeps one record for each robot, in memory, under one lock: when it was last heard of,
when it last sent a heartbeat, whether its control channel is up. Five operations edit the records.
All of them trim the robot id, ignore a blank one, and replace a zero time by the current time;
they differ in the new record only.

A zero time stands for "never" in every field, and every comparison treats it as such: the fields
are kept up to date with `latestTime`, a maximum in which zero is absent. -/

namespace Roboat.Connstate

/-- `time.Time`: nanoseconds from the zero time. -/
abbrev Time := Int

/-- `time.Duration`: nanoseconds. -/
abbrev Duration := Int

/-- `time.Second`. -/
def second : Duration := 1000000000

/-- The smallest and the largest `time.Duration`. -/
def minDuration : Duration := -9223372036854775808

@[inherit_doc minDuration] def maxDuration : Duration := 9223372036854775807

/-- `Time.Sub`: the difference, cut off at the ends of the range. -/
def Time.sub (a b : Time) : Duration := max minDuration (min maxDuration (a - b))

section Order

variable {α : Type} (time : α → Time)

/-- Calls, or whatever has a time, are in the order of their times. -/
def InOrder (calls : List α) : Prop := calls.Pairwise fun a b => time a ≤ time b

instance (calls : List α) : Decidable (InOrder time calls) :=
  inferInstanceAs (Decidable (calls.Pairwise fun a b => time a ≤ time b))

end Order

/-- `RobotRuntimeState`. -/
structure RobotRuntimeState where
  robotID : Str := []
  robotPublicIP : Str := []
  robotLocalIP : Str := []
  robotNATType : Str := []
  controlConnected : Bool := false
  controlConnectedAt : Time := 0
  controlDisconnectedAt : Time := 0
  lastControlContentionAt : Time := 0
  lastControlContentionIncomingIP : Str := []
  lastControlContentionIncumbentIP : Str := []
  lastControlContentionPolicy : Str := []
  lastControlContentionReason : Str := []
  lastHeartbeatAt : Time := 0
  lastSeenAt : Time := 0
  deriving DecidableEq, Repr

/-- `heartbeatOnlineTTL`. -/
def heartbeatOnlineTTL : Duration := 75 * second

/-- `controlFallbackTTL`. -/
def controlFallbackTTL : Duration := 90 * second

/-- `normalizeAt`: a zero time stands for the current time. -/
def normalizeAt (clock time : Time) : Time := if time = 0 then clock else time

/-- `latestTime`. -/
def latestTime (a b : Time) : Time :=
  if a = 0 then b else if b = 0 then a else if a < b then b else a

/-- The map `state`. -/
abbrev Store := Str → Option RobotRuntimeState

/-- What the operations have in common: the id is trimmed, a blank one is ignored, and the record
under it is replaced. -/
def Store.edit (store : Store) (robotID : Str)
    (f : Str → Option RobotRuntimeState → Option RobotRuntimeState) : Store :=
  if trimSpace robotID = [] then store
  else Function.update store (trimSpace robotID) (f (trimSpace robotID) (store (trimSpace robotID)))

/-! ## Records -/

namespace RobotRuntimeState

/-- The address part of the two upserts: what is blank is kept from the record before, and a NAT
type that is not known stays what it was. -/
def addresses (prev : RobotRuntimeState) (robotID robotPublicIP robotLocalIP natType : Str) :
    RobotRuntimeState :=
  let keep (new old : Str) : Str := if new = [] then old else new
  let unknown := "unknown".toList
  let natType := keep (trimSpace natType) unknown
  { prev with
    robotID := robotID
    robotPublicIP := keep (trimSpace robotPublicIP) prev.robotPublicIP
    robotLocalIP := keep (trimSpace robotLocalIP) prev.robotLocalIP
    robotNATType := if natType = unknown then keep prev.robotNATType unknown else natType }

/-- The new record of `UpsertHeartbeat`. -/
def heartbeat (prev : RobotRuntimeState) (robotID robotPublicIP robotLocalIP natType : Str)
    (time : Time) : RobotRuntimeState :=
  { prev.addresses robotID robotPublicIP robotLocalIP natType with
    lastHeartbeatAt := latestTime prev.lastHeartbeatAt time
    lastSeenAt := latestTime prev.lastSeenAt time }

/-- The new record of `UpsertControlConnected`. -/
def connected (prev : RobotRuntimeState) (robotID robotPublicIP robotLocalIP natType : Str)
    (time : Time) : RobotRuntimeState :=
  { prev.addresses robotID robotPublicIP robotLocalIP natType with
    controlConnected := true
    controlConnectedAt := latestTime prev.controlConnectedAt time
    controlDisconnectedAt := 0
    lastSeenAt := latestTime prev.lastSeenAt time }

/-- A record that has no id yet gets one. -/
def named (prev : RobotRuntimeState) (robotID : Str) : RobotRuntimeState :=
  { prev with robotID := if trimSpace prev.robotID = [] then robotID else prev.robotID }

/-- The new record of `RecordControlContention`. -/
def contention (prev : RobotRuntimeState) (robotID incomingIP incumbentIP policy reason : Str)
    (time : Time) : RobotRuntimeState :=
  { prev.named robotID with
    lastControlContentionAt := latestTime prev.lastControlContentionAt time
    lastControlContentionIncomingIP := trimSpace incomingIP
    lastControlContentionIncumbentIP := trimSpace incumbentIP
    lastControlContentionPolicy := trimSpace policy
    lastControlContentionReason := trimSpace reason
    lastSeenAt := latestTime prev.lastSeenAt time }

/-- The new record of `TouchControlActivity`. -/
def activity (prev : RobotRuntimeState) (robotID : Str) (time : Time) : RobotRuntimeState :=
  { prev.named robotID with
    controlConnected := true
    -- the time of the connection is set only once, and only if it was never set by a connect
    controlConnectedAt :=
      if prev.controlConnected = false ∧ prev.controlConnectedAt = 0 then time
      else prev.controlConnectedAt
    controlDisconnectedAt := 0
    lastSeenAt := latestTime prev.lastSeenAt time }

/-- The new record of `SetControlDisconnected`. -/
def disconnected (prev : RobotRuntimeState) (time : Time) : RobotRuntimeState :=
  { prev with
    controlConnected := false
    controlDisconnectedAt := latestTime prev.controlDisconnectedAt time
    lastSeenAt := latestTime prev.lastSeenAt time }

/-- `IsOnlineAt`. -/
def isOnlineAt (clock : Time) (s : RobotRuntimeState) (now : Time) : Bool :=
  let now := normalizeAt clock now
  -- a disconnect outweighs every heartbeat that is not later than it
  if s.controlConnected = false ∧ s.controlDisconnectedAt ≠ 0 ∧
      (s.lastHeartbeatAt = 0 ∨ ¬ s.controlDisconnectedAt < s.lastHeartbeatAt) then false
  -- a robot that has ever sent a heartbeat is judged by its heartbeats alone
  else if s.lastHeartbeatAt ≠ 0 then now.sub s.lastHeartbeatAt ≤ heartbeatOnlineTTL
  else if s.controlConnected = false then false
  else
    let ref := latestTime s.controlConnectedAt s.lastSeenAt
    if ref = 0 then true else now.sub ref ≤ controlFallbackTTL

end RobotRuntimeState

/-! ## Operations -/

/-- `UpsertHeartbeat`. -/
def upsertHeartbeat (clock : Time) (store : Store)
    (robotID robotPublicIP robotLocalIP natType : Str) (time : Time) : Store :=
  store.edit robotID fun robotID prev =>
    some ((prev.getD {}).heartbeat robotID robotPublicIP robotLocalIP natType
      (normalizeAt clock time))

/-- `UpsertControlConnected`. -/
def upsertControlConnected (clock : Time) (store : Store)
    (robotID robotPublicIP robotLocalIP natType : Str) (time : Time) : Store :=
  store.edit robotID fun robotID prev =>
    some ((prev.getD {}).connected robotID robotPublicIP robotLocalIP natType
      (normalizeAt clock time))

/-- `RecordControlContention`. -/
def recordControlContention (clock : Time) (store : Store)
    (robotID incomingIP incumbentIP policy reason : Str) (time : Time) : Store :=
  store.edit robotID fun robotID prev =>
    some ((prev.getD {}).contention robotID incomingIP incumbentIP policy reason
      (normalizeAt clock time))

/-- `TouchControlActivity`. -/
def touchControlActivity (clock : Time) (store : Store) (robotID : Str) (time : Time) : Store :=
  store.edit robotID fun robotID prev =>
    some ((prev.getD {}).activity robotID (normalizeAt clock time))

/-- `SetControlDisconnected`: ignored for a robot without a record. -/
def setControlDisconnected (clock : Time) (store : Store) (robotID : Str) (time : Time) : Store :=
  store.edit robotID fun _ prev => prev.map fun prev => prev.disconnected (normalizeAt clock time)

/-- `Snapshot`. -/
def snapshot (store : Store) (robotID : Str) : RobotRuntimeState × Bool :=
  if trimSpace robotID = [] then ({}, false)
  else
    match store (trimSpace robotID) with
    | some s => (s, true)
    | none => ({}, false)

/-! ## The flag of the control channel -/

/-- `ControlConnected` of a robot; false for a robot without a record. -/
def Store.controlConnected (store : Store) (robotID : Str) : Bool :=
  (store robotID).any fun s => s.controlConnected

section Flag

variable {store : Store} {robotID other : Str}

/-- An operation under a trimmed id sets the flag of that robot to that of the new record, and
leaves the others. -/
theorem controlConnected_edit (hid : trimSpace robotID = robotID) (hne : robotID ≠ [])
    (f : Str → Option RobotRuntimeState → Option RobotRuntimeState) :
    (store.edit robotID f).controlConnected other =
      if other = robotID then (f robotID (store robotID)).any fun s => s.controlConnected
      else store.controlConnected other := by
  unfold Store.edit Store.controlConnected
  rw [hid, if_neg hne]
  by_cases h : other = robotID
  · rw [if_pos h, h, Function.update_self]
  · rw [if_neg h, Function.update_of_ne h]

theorem controlConnected_upsertControlConnected (hid : trimSpace robotID = robotID)
    (hne : robotID ≠ []) (clock time : Time) (ip localIP natType : Str) :
    (upsertControlConnected clock store robotID ip localIP natType time).controlConnected other =
      if other = robotID then true else store.controlConnected other :=
  controlConnected_edit hid hne _

theorem controlConnected_touchControlActivity (hid : trimSpace robotID = robotID)
    (hne : robotID ≠ []) (clock time : Time) :
    (touchControlActivity clock store robotID time).controlConnected other =
      if other = robotID then true else store.controlConnected other :=
  controlConnected_edit hid hne _

theorem controlConnected_setControlDisconnected (hid : trimSpace robotID = robotID)
    (hne : robotID ≠ []) (clock time : Time) :
    (setControlDisconnected clock store robotID time).controlConnected other =
      if other = robotID then false else store.controlConnected other := by
  refine (controlConnected_edit hid hne _).trans ?_
  cases store robotID <;> rfl

theorem controlConnected_recordControlContention (hid : trimSpace robotID = robotID)
    (hne : robotID ≠ []) (clock time : Time) (incoming incumbent policy reason : Str) :
    (recordControlContention clock store robotID incoming incumbent policy reason
      time).controlConnected other = store.controlConnected other := by
  refine (controlConnected_edit hid hne _).trans ?_
  split_ifs with h
  · rw [h]
    unfold Store.controlConnected
    cases store robotID <;> rfl
  · rfl

end Flag

/-! ## Latest times -/

variable {a b : Time}

@[simp] theorem latestTime_zero_left : latestTime 0 b = b := rfl

/-- Of two times that are there, the later one. -/
theorem latestTime_of_ne (ha : a ≠ 0) (hb : b ≠ 0) : latestTime a b = max a b := by
  unfold latestTime
  rw [if_neg ha, if_neg hb]
  split_ifs with hlt
  · exact (max_eq_right hlt.le).symm
  · exact (max_eq_left (not_lt.mp hlt)).symm

/-- The latest of a time and one that is there is there. -/
theorem latestTime_ne_zero (hb : b ≠ 0) : latestTime a b ≠ 0 := by
  by_cases ha : a = 0
  · rw [ha, latestTime_zero_left]
    exact hb
  · rw [latestTime_of_ne ha hb]
    rcases max_choice a b with h | h <;> rw [h] <;> assumption

/-- A time does not go back. -/
theorem le_latestTime_left (ha : a ≠ 0) (hb : b ≠ 0) : a ≤ latestTime a b := by
  rw [latestTime_of_ne ha hb]
  exact le_max_left a b

/-- The new time is reached. -/
theorem le_latestTime_right (hb : b ≠ 0) : b ≤ latestTime a b := by
  by_cases ha : a = 0
  · rw [ha, latestTime_zero_left]
  · rw [latestTime_of_ne ha hb]
    exact le_max_right a b

/-- A later time replaces what was there. -/
theorem latestTime_of_le (hb : b ≠ 0) (hle : a ≠ 0 → a ≤ b) : latestTime a b = b := by
  by_cases ha : a = 0
  · rw [ha, latestTime_zero_left]
  · rw [latestTime_of_ne ha hb, max_eq_right (hle ha)]

/-- **The latest of a list of times**, zero when there is none. -/
def Latest (times : List Time) (t : Time) : Prop :=
  (times = [] ∧ t = 0) ∨ IsGreatest { x | x ∈ times } t

/-- `latestTime` keeps the latest time. -/
theorem Latest.append {times : List Time} (h : Latest times a) (hthere : ∀ x ∈ times, x ≠ 0)
    (hb : b ≠ 0) : Latest (times ++ [b]) (latestTime a b) := by
  right
  rcases h with ⟨rfl, rfl⟩ | ⟨hmem, hupper⟩
  · simp [IsGreatest, upperBounds]
  · have ha : a ≠ 0 := hthere a hmem
    refine ⟨?_, fun x hx => ?_⟩
    · rw [latestTime_of_ne ha hb]
      rcases max_choice a b with h | h <;> rw [h]
      · exact List.mem_append_left _ hmem
      · exact List.mem_append_right _ (List.mem_singleton_self b)
    · rcases List.mem_append.mp hx with hx | hx
      · exact le_trans (hupper hx) (le_latestTime_left ha hb)
      · rw [List.mem_singleton.mp hx]
        exact le_latestTime_right hb

/-- The difference stays within a bound of the range exactly when the true difference does. -/
theorem sub_le_iff {d : Duration} (hmin : minDuration ≤ d) (hmax : d < maxDuration) :
    a.sub b ≤ d ↔ a - b ≤ d := by
  unfold Time.sub
  rw [max_le_iff, min_le_iff]
  constructor
  · rintro ⟨-, h | h⟩
    · exact absurd h (not_le.mpr hmax)
    · exact h
  · exact fun h => ⟨hmin, Or.inr h⟩

end Roboat.Connstate
