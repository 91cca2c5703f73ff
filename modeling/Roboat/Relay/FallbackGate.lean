import Mathlib.Algebra.Order.Ring.Int
import Mathlib.Data.List.Induction
import Mathlib.Tactic.Ring
import Mathlib.Tactic.SplitIfs
import Roboat.Connstate.State
import Roboat.Text.Strings

/-! # The fallback gate

When a robot has no control channel, `TriggerBootstrap` falls back to a TCP connection. The gate
keeps it from trying too often: after a failure it stays shut for a time that doubles with every
further failure, up to a maximum, separately for each robot and each kind of trigger (bootstrap or
teardown).

The code keeps a record for each key under one lock, and every call, on whatever key, first deletes
all records that no call has used for twenty minutes. What a record amounts to can be read off the
calls on its key alone: the failures since the last success and since the last pause of more than
twenty minutes (`recentFailures`). That the deletions of other keys are not noticed is the point of
the invariant `Reflects`. -/

namespace Roboat.Relay.FallbackGate

open Connstate (Time Duration InOrder second)

/-! ## The code -/

/-- `time.Millisecond`. -/
def millisecond : Duration := 1000000

/-- `fallbackGateRetention`. -/
def fallbackGateRetention : Duration := 20 * (60 * second)

/-- `bootstrapFailureBackoffMin`, `teardownFailureBackoffMin`. -/
def backoffMin (isTeardown : Bool) : Duration :=
  if isTeardown then 1 * second else 500 * millisecond

/-- `bootstrapFailureBackoffMax`, `teardownFailureBackoffMax`. -/
def backoffMax (isTeardown : Bool) : Duration :=
  if isTeardown then 12 * second else 8 * second

/-- `fallbackTriggerState`. -/
structure FallbackTriggerState where
  nextAllowedAt : Time := 0
  consecutiveFailures : Nat := 0
  lastSeenAt : Time := 0
  deriving DecidableEq, Repr

/-- `fallbackTriggerGate`: its map `states`. -/
abbrev FallbackTriggerGate := Str → Option FallbackTriggerState

/-- `newFallbackTriggerGate`. -/
def newFallbackTriggerGate : FallbackTriggerGate := fun _ => none

/-- The suffix of a key. -/
def kindSuffix (isTeardown : Bool) : Str :=
  if isTeardown then ":teardown".toList else ":bootstrap".toList

/-- `gateKey`: blank for a blank robot id. -/
def gateKey (robotID : Str) (isTeardown : Bool) : Str :=
  if trimSpace robotID = [] then [] else trimSpace robotID ++ kindSuffix isTeardown

/-- `normalizeGateNow`: a zero time stands for the current time. -/
def normalizeGateNow (clock now : Time) : Time := if now = 0 then clock else now

/-- The loop of `fallbackBackoff`: double, and stop at the maximum. -/
def doubleBackoff (maxBackoff : Duration) : Nat → Duration → Duration
  | 0, backoff => if maxBackoff < backoff then maxBackoff else backoff
  | steps + 1, backoff =>
    if maxBackoff ≤ backoff * 2 then maxBackoff else doubleBackoff maxBackoff steps (backoff * 2)

/-- `fallbackBackoff`. -/
def fallbackBackoff (failures : Nat) (isTeardown : Bool) : Duration :=
  if failures = 0 then backoffMin isTeardown
  else doubleBackoff (backoffMax isTeardown) (min (failures - 1) 8) (backoffMin isTeardown)

/-- `pruneLocked`. -/
def pruneLocked (g : FallbackTriggerGate) (now : Time) : FallbackTriggerGate := fun key =>
  (g key).bind fun state =>
    -- a record without a time is deleted as well
    if state.lastSeenAt = 0 then none
    else if fallbackGateRetention < Time.sub now state.lastSeenAt then none
    else some state

/-- What the three operations have in common: prune, and edit the record under the key. -/
def edit (g : FallbackTriggerGate) (key : Str) (now : Time)
    (f : FallbackTriggerState → FallbackTriggerState) : FallbackTriggerGate :=
  let pruned := pruneLocked g now
  Function.update pruned key (some (f ((pruned key).getD {})))

/-- The record after `allow`. -/
def FallbackTriggerState.seen (state : FallbackTriggerState) (now : Time) : FallbackTriggerState :=
  { state with lastSeenAt := now }

/-- The record after `recordFailure`. -/
def FallbackTriggerState.failed (state : FallbackTriggerState) (isTeardown : Bool) (now : Time) :
    FallbackTriggerState :=
  let failures := state.consecutiveFailures + 1
  { lastSeenAt := now, consecutiveFailures := failures
    nextAllowedAt := now + fallbackBackoff failures isTeardown }

/-- The record after `recordSuccess`. -/
def FallbackTriggerState.succeeded (_ : FallbackTriggerState) (now : Time) :
    FallbackTriggerState :=
  { lastSeenAt := now, consecutiveFailures := 0, nextAllowedAt := 0 }

/-- The verdict of a record. -/
def FallbackTriggerState.isOpen (state : FallbackTriggerState) (now : Time) : Bool :=
  decide (state.nextAllowedAt = 0) || !decide (now < state.nextAllowedAt)

/-- `allow`. -/
def allow (clock : Time) (g : FallbackTriggerGate) (robotID : Str) (isTeardown : Bool)
    (now : Time) : Bool × FallbackTriggerGate :=
  let key := gateKey robotID isTeardown
  -- no robot, no gate
  if key = [] then (true, g)
  else
    let now := normalizeGateNow clock now
    let g := edit g key now fun state => state.seen now
    (((g key).getD {}).isOpen now, g)

/-- `recordFailure`. -/
def recordFailure (clock : Time) (g : FallbackTriggerGate) (robotID : Str) (isTeardown : Bool)
    (now : Time) : FallbackTriggerGate :=
  let key := gateKey robotID isTeardown
  if key = [] then g
  else
    let now := normalizeGateNow clock now
    edit g key now fun state => state.failed isTeardown now

/-- `recordSuccess`. -/
def recordSuccess (clock : Time) (g : FallbackTriggerGate) (robotID : Str) (isTeardown : Bool)
    (now : Time) : FallbackTriggerGate :=
  let key := gateKey robotID isTeardown
  if key = [] then g
  else
    let now := normalizeGateNow clock now
    edit g key now fun state => state.succeeded now

/-! ## Histories -/

/-- The three operations. -/
inductive Op where
  | allow
  | recordFailure
  | recordSuccess
  deriving DecidableEq, Repr

/-- A call on the gate. -/
structure Call where
  op : Op
  robotID : Str
  isTeardown : Bool
  time : Time
  deriving DecidableEq, Repr

/-- The gate after a call. -/
def Call.apply (clock : Time) (g : FallbackTriggerGate) (c : Call) : FallbackTriggerGate :=
  match c.op with
  | .allow => (FallbackGate.allow clock g c.robotID c.isTeardown c.time).2
  | .recordFailure => FallbackGate.recordFailure clock g c.robotID c.isTeardown c.time
  | .recordSuccess => FallbackGate.recordSuccess clock g c.robotID c.isTeardown c.time

/-- The gate after a sequence of calls. -/
def run (clock : Time) (calls : List Call) : FallbackTriggerGate :=
  calls.foldl (Call.apply clock) newFallbackTriggerGate

/-- The calls for a robot and a kind of trigger. -/
def callsOn (robotID : Str) (isTeardown : Bool) (calls : List Call) : List Call :=
  calls.filter fun c =>
    decide (trimSpace c.robotID = trimSpace robotID) && decide (c.isTeardown = isTeardown)

/-- Going back from time `now` through calls on one key, the newest first: those after the last
success and after the last pause of more than the retention time between two calls (or between the
newest call and `now`). -/
def recent (now : Time) : List Call → List Call
  | [] => []
  | c :: older =>
    -- the record was deleted in between, by whatever call
    if fallbackGateRetention < now - c.time then []
    else if c.op = .recordSuccess then []
    else c :: recent c.time older

/-- The failures among some calls. -/
def failuresOf (calls : List Call) : List Call := calls.filter fun c => c.op = .recordFailure

/-- The failures among the recent calls, the newest first. -/
def recentFailures (robotID : Str) (isTeardown : Bool) (calls : List Call) (now : Time) :
    List Call :=
  failuresOf (recent now (callsOn robotID isTeardown calls).reverse)

/-- When the gate opens after `n` failures in a row, the last of them at `t`: at
`t + min (base * 2 ^ (n - 1)) max`. -/
def opensAt (isTeardown : Bool) : List Call → Time
  | [] => 0
  | last :: older =>
    last.time + min (backoffMin isTeardown * 2 ^ older.length) (backoffMax isTeardown)

/-! ## The backoff in closed form -/

section Backoff

/-- The loop computes a capped power of two. -/
theorem doubleBackoff_eq (maxBackoff : Duration) (steps : Nat) {backoff : Duration}
    (hpos : 0 < backoff) :
    doubleBackoff maxBackoff steps backoff = min (backoff * 2 ^ steps) maxBackoff := by
  induction steps generalizing backoff with
  | zero =>
    rw [doubleBackoff, pow_zero, mul_one]
    by_cases hmax : maxBackoff < backoff
    · rw [if_pos hmax, min_eq_right (le_of_lt hmax)]
    · rw [if_neg hmax, min_eq_left (not_lt.mp hmax)]
  | succ steps ih =>
    have hpow : backoff * 2 ^ (steps + 1) = backoff * 2 * 2 ^ steps := by ring
    have htwice : 0 < backoff * 2 := mul_pos hpos two_pos
    rw [doubleBackoff, hpow]
    by_cases hmax : maxBackoff ≤ backoff * 2
    · -- the loop stops; further doubling would only go further beyond the maximum
      have hone : (1 : Int) ≤ 2 ^ steps := one_le_pow₀ (by norm_num)
      have hgrow : backoff * 2 ≤ backoff * 2 * 2 ^ steps :=
        le_mul_of_one_le_right (le_of_lt htwice) hone
      rw [if_pos hmax, min_eq_right (le_trans hmax hgrow)]
    · rw [if_neg hmax, ih htwice]

/-- Eight doublings are more than it takes to reach the maximum. -/
theorem backoffMax_le (isTeardown : Bool) {n : Nat} (hn : 8 ≤ n) :
    backoffMax isTeardown ≤ backoffMin isTeardown * 2 ^ n := by
  have hpow : (2 : Int) ^ 8 ≤ 2 ^ n := pow_le_pow_right₀ (by norm_num) hn
  cases isTeardown with
  | false =>
    calc backoffMax false ≤ backoffMin false * 2 ^ 8 := by decide
      _ ≤ backoffMin false * 2 ^ n := mul_le_mul_of_nonneg_left hpow (by decide)
  | true =>
    calc backoffMax true ≤ backoffMin true * 2 ^ 8 := by decide
      _ ≤ backoffMin true * 2 ^ n := mul_le_mul_of_nonneg_left hpow (by decide)

/-- **The backoff after `n + 1` failures** is `min (base * 2 ^ n) max`. -/
theorem fallbackBackoff_succ (n : Nat) (isTeardown : Bool) :
    fallbackBackoff (n + 1) isTeardown
      = min (backoffMin isTeardown * 2 ^ n) (backoffMax isTeardown) := by
  have hpos : 0 < backoffMin isTeardown := by cases isTeardown <;> decide
  rw [fallbackBackoff, if_neg (Nat.succ_ne_zero n), Nat.add_sub_cancel, doubleBackoff_eq _ _ hpos]
  by_cases hn : n ≤ 8
  · rw [Nat.min_eq_left hn]
  · have hcap : 8 ≤ n := by omega
    rw [Nat.min_eq_right hcap, min_eq_right (backoffMax_le isTeardown le_rfl),
      min_eq_right (backoffMax_le isTeardown hcap)]

end Backoff

/-! ## Keys -/

/-- The key of a robot id that is not blank. -/
theorem gateKey_of_ne {robotID : Str} (hid : trimSpace robotID ≠ []) (isTeardown : Bool) :
    gateKey robotID isTeardown = trimSpace robotID ++ kindSuffix isTeardown := if_neg hid

theorem gateKey_ne_nil {robotID : Str} (hid : trimSpace robotID ≠ []) (isTeardown : Bool) :
    gateKey robotID isTeardown ≠ [] := by
  rw [gateKey_of_ne hid]
  intro hnil
  exact hid (List.append_eq_nil_iff.mp hnil).1

/-- **Keys keep robots and kinds apart.** -/
theorem gateKey_inj {a b : Str} {k l : Bool} (ha : trimSpace a ≠ []) (hb : trimSpace b ≠ [])
    (h : gateKey a k = gateKey b l) : trimSpace a = trimSpace b ∧ k = l := by
  rw [gateKey_of_ne ha, gateKey_of_ne hb] at h
  -- the two suffixes end in different letters
  have hlast : (kindSuffix k).getLast? = (kindSuffix l).getLast? := by
    have hends := congrArg List.getLast? h
    have hsuffix : ∀ (s : Str) (m : Bool),
        (s ++ kindSuffix m).getLast? = (kindSuffix m).getLast? := by
      intro s m
      cases m <;> simp [kindSuffix]
    rwa [hsuffix, hsuffix] at hends
  obtain rfl : k = l := by
    cases k <;> cases l <;> first | rfl | exact absurd hlast (by decide)
  exact ⟨List.append_cancel_right h, rfl⟩

/-! ## Pruning -/

section Prune

variable {g : FallbackTriggerGate} {key : Str} {now time : Time}

theorem retention_lt_sub :
    fallbackGateRetention < Time.sub now time ↔ fallbackGateRetention < now - time := by
  rw [← not_le, ← not_le, Connstate.sub_le_iff (by decide) (by decide)]

/-- Pruning at an earlier time is not noticed by pruning at a later one. -/
theorem pruneLocked_pruneLocked (hle : time ≤ now) :
    pruneLocked (pruneLocked g time) now key = pruneLocked g now key := by
  unfold pruneLocked
  cases g key with
  | none => rfl
  | some state =>
    simp only [Option.bind_some]
    by_cases hzero : state.lastSeenAt = 0
    · rw [if_pos hzero, Option.bind_none]
      exact (if_pos hzero).symm
    rw [if_neg hzero]
    by_cases hold : fallbackGateRetention < Time.sub time state.lastSeenAt
    · -- what was too old then is too old now
      have hlater : fallbackGateRetention < Time.sub now state.lastSeenAt := by
        rw [retention_lt_sub] at hold ⊢
        exact lt_of_lt_of_le hold (sub_le_sub_right hle _)
      rw [if_pos hold, Option.bind_none, if_neg hzero, if_pos hlater]
    · rw [if_neg hold, Option.bind_some]

/-- A call on another key is not noticed by a later call. -/
theorem pruneLocked_edit_of_ne {other : Str} (hne : key ≠ other)
    (f : FallbackTriggerState → FallbackTriggerState) (hle : time ≤ now) :
    pruneLocked (edit g other time f) now key = pruneLocked g now key := by
  have hpruned : edit g other time f key = pruneLocked g time key :=
    Function.update_of_ne hne _ _
  rw [← pruneLocked_pruneLocked (g := g) hle, pruneLocked, hpruned]
  rfl

/-- What a later call finds after a call on the same key. -/
theorem pruneLocked_edit {f : FallbackTriggerState → FallbackTriggerState}
    (hseen : ∀ state, (f state).lastSeenAt = time) (hthere : time ≠ 0) :
    pruneLocked (edit g key time f) now key =
      if fallbackGateRetention < now - time then none
      else some (f ((pruneLocked g time key).getD {})) := by
  unfold edit
  simp only [pruneLocked, Function.update_self, Option.bind_some, hseen, if_neg hthere,
    retention_lt_sub]

end Prune

/-! ## Records and histories -/

/-- A record stands for the failures that led to it, the newest first. -/
structure Reflects (state : FallbackTriggerState) (isTeardown : Bool) (failures : List Call) :
    Prop where
  count : state.consecutiveFailures = failures.length
  next : state.nextAllowedAt = opensAt isTeardown failures

theorem reflects_nil (isTeardown : Bool) : Reflects {} isTeardown [] := ⟨rfl, rfl⟩

/-- The record after a call. -/
def Call.next (c : Call) (state : FallbackTriggerState) : FallbackTriggerState :=
  match c.op with
  | .allow => state.seen c.time
  | .recordFailure => state.failed c.isTeardown c.time
  | .recordSuccess => state.succeeded c.time

theorem lastSeenAt_next (c : Call) (state : FallbackTriggerState) :
    (c.next state).lastSeenAt = c.time := by
  unfold Call.next
  cases c.op <;> rfl

/-- A call with a blank robot id does nothing. -/
theorem apply_of_blank {clock : Time} {g : FallbackTriggerGate} {c : Call}
    (hblank : trimSpace c.robotID = []) : c.apply clock g = g := by
  have hkey : gateKey c.robotID c.isTeardown = [] := if_pos hblank
  unfold Call.apply
  cases c.op <;> simp [allow, recordFailure, recordSuccess, hkey]

/-- The other calls edit the record under their key. -/
theorem apply_eq_edit {clock : Time} {g : FallbackTriggerGate} {c : Call}
    (hid : trimSpace c.robotID ≠ []) (hthere : c.time ≠ 0) :
    c.apply clock g = edit g (gateKey c.robotID c.isTeardown) c.time c.next := by
  have hkey := gateKey_ne_nil hid c.isTeardown
  have hnow : normalizeGateNow clock c.time = c.time := if_neg hthere
  unfold Call.apply Call.next
  cases c.op <;> simp [allow, recordFailure, recordSuccess, hkey, hnow]

section Next

variable {c : Call} {older : List Call} {now : Time}

theorem recent_cons_of_lt (h : fallbackGateRetention < now - c.time) :
    recent now (c :: older) = [] := if_pos h

/-- Within the retention, a success ends the recent calls. -/
theorem recent_cons (h : ¬ fallbackGateRetention < now - c.time) :
    recent now (c :: older) = if c.op = .recordSuccess then [] else c :: recent c.time older :=
  if_neg h

/-- **A call keeps record and history together.** -/
theorem Reflects.next_call {state : FallbackTriggerState} {isTeardown : Bool}
    (h : Reflects state isTeardown (failuresOf (recent c.time older)))
    (hkind : c.isTeardown = isTeardown) (hgap : ¬ fallbackGateRetention < now - c.time) :
    Reflects (c.next state) isTeardown (failuresOf (recent now (c :: older))) := by
  rw [recent_cons hgap]
  cases hop : c.op with
  | allow =>
    have hsame : failuresOf (c :: recent c.time older) = failuresOf (recent c.time older) := by
      simp [failuresOf, hop]
    rw [if_neg (by simp), hsame]
    unfold Call.next
    rw [hop]
    exact ⟨h.count, h.next⟩
  | recordFailure =>
    have hmore : failuresOf (c :: recent c.time older)
        = c :: failuresOf (recent c.time older) := by
      simp [failuresOf, hop]
    rw [if_neg (by simp), hmore]
    unfold Call.next
    rw [hop]
    refine ⟨?_, ?_⟩
    · rw [List.length_cons, ← h.count]
      rfl
    · rw [opensAt, ← fallbackBackoff_succ, ← h.count, ← hkind]
      rfl
  | recordSuccess =>
    rw [if_pos rfl]
    unfold Call.next
    rw [hop]
    exact ⟨rfl, rfl⟩

end Next

/-! ## The invariant -/

theorem run_append (clock : Time) (calls : List Call) (c : Call) :
    run clock (calls ++ [c]) = c.apply clock (run clock calls) := by
  simp [run]

/-- Whether a call is for a robot and a kind of trigger. -/
theorem callsOn_append (robotID : Str) (isTeardown : Bool) (calls : List Call) (c : Call) :
    callsOn robotID isTeardown (calls ++ [c]) =
      if trimSpace c.robotID = trimSpace robotID ∧ c.isTeardown = isTeardown then
        callsOn robotID isTeardown calls ++ [c]
      else callsOn robotID isTeardown calls := by
  unfold callsOn
  rw [List.filter_append]
  by_cases hon : trimSpace c.robotID = trimSpace robotID ∧ c.isTeardown = isTeardown
  · simp [hon]
  · rw [if_neg hon, List.filter_cons_of_neg (by simpa using hon), List.filter_nil, List.append_nil]

/-- **What a call finds** under its key, whoever has pruned in between, reflects the recent failures
of that key. -/
theorem reflects_run (clock : Time) {robotID : Str} (isTeardown : Bool)
    (hid : trimSpace robotID ≠ []) (calls : List Call) (hthere : ∀ c ∈ calls, c.time ≠ 0)
    (hordered : InOrder Call.time calls) (now : Time) (hlast : ∀ c ∈ calls, c.time ≤ now) :
    Reflects ((pruneLocked (run clock calls) now (gateKey robotID isTeardown)).getD {}) isTeardown
      (recentFailures robotID isTeardown calls now) := by
  -- from call to call; the claim is for every later time, as the next call may be any time later
  induction calls using List.reverseRecOn generalizing now with
  | nil => exact reflects_nil isTeardown
  | append_singleton calls c ih =>
    obtain ⟨hbefore, -, hle⟩ := List.pairwise_append.mp hordered
    have hc : c.time ≤ now := hlast c (by simp)
    have hcthere : c.time ≠ 0 := hthere c (by simp)
    have ih := ih (fun d hd => hthere d (List.mem_append_left _ hd)) hbefore
    have hearlier : ∀ d ∈ calls, d.time ≤ c.time := fun d hd => hle d hd c (by simp)
    have hskip := ih now fun d hd => le_trans (hearlier d hd) hc
    rw [run_append]
    unfold recentFailures
    rw [callsOn_append]
    by_cases hblank : trimSpace c.robotID = []
    · rw [apply_of_blank hblank, if_neg fun hon => hid (hon.1.symm.trans hblank)]
      exact hskip
    rw [apply_eq_edit hblank hcthere]
    by_cases hon : trimSpace c.robotID = trimSpace robotID ∧ c.isTeardown = isTeardown
    · have hkey : gateKey c.robotID c.isTeardown = gateKey robotID isTeardown := by
        rw [gateKey_of_ne hblank, gateKey_of_ne hid, hon.1, hon.2]
      rw [if_pos hon, List.reverse_append, List.reverse_singleton, List.singleton_append, hkey,
        pruneLocked_edit (lastSeenAt_next c) hcthere]
      by_cases hgap : fallbackGateRetention < now - c.time
      · rw [if_pos hgap, recent_cons_of_lt hgap]
        exact reflects_nil isTeardown
      · rw [if_neg hgap, Option.getD_some]
        -- the record as the call itself found it, at its own time
        exact (ih c.time hearlier).next_call hon.2 hgap
    · -- a call on another key
      have hne : gateKey robotID isTeardown ≠ gateKey c.robotID c.isTeardown := by
        intro heq
        obtain ⟨hrobot, hkind⟩ := gateKey_inj hid hblank heq
        exact hon ⟨hrobot.symm, hkind.symm⟩
      rw [if_neg hon, pruneLocked_edit_of_ne hne c.next hc]
      exact hskip

/-! ## The result -/

/-- A call finds the gate open if the record under its key says so. -/
theorem allow_eq_isOpen {clock : Time} {g : FallbackTriggerGate} {robotID : Str} {isTeardown : Bool}
    {now : Time} (hid : trimSpace robotID ≠ []) (hnow : now ≠ 0) :
    (allow clock g robotID isTeardown now).1
      = ((pruneLocked g now (gateKey robotID isTeardown)).getD {}).isOpen now := by
  have hkey := gateKey_ne_nil hid isTeardown
  have hclock : normalizeGateNow clock now = now := if_neg hnow
  simp only [allow, if_neg hkey, hclock, edit, Function.update_self, Option.getD_some]
  rfl

/-- The verdict of a record in terms of the failures it stands for. -/
theorem Reflects.isOpen_iff {state : FallbackTriggerState} {isTeardown : Bool}
    {failures : List Call} (h : Reflects state isTeardown failures) (now : Time) :
    state.isOpen now = true ↔ failures.length = 0 ∨ opensAt isTeardown failures ≤ now ∨
      opensAt isTeardown failures = 0 := by
  unfold FallbackTriggerState.isOpen
  rw [h.next, Bool.or_eq_true, decide_eq_true_iff, Bool.not_eq_true', decide_eq_false_iff_not,
    not_lt]
  -- with no failure the time is zero, which the code takes for open
  cases failures with
  | nil => simp [opensAt]
  | cons last older =>
    rw [List.length_cons]
    constructor
    · rintro (hzero | hle)
      · exact Or.inr (Or.inr hzero)
      · exact Or.inr (Or.inl hle)
    · rintro (hlen | hle | hzero)
      · cases hlen
      · exact Or.inr hle
      · exact Or.inl hzero

/-- **The gate follows its history.** Whatever calls were made, in the order of their times, `allow`
returns true exactly when there is no recent failure on the key, or the backoff after the last one
is over; an opening time that happens to be the zero time counts as none. The answer is the one it
would be had only the calls on the key been made. -/
theorem allow_iff_recentFailures (clock : Time) (calls : List Call) (robotID : Str)
    (isTeardown : Bool) (now : Time) (hid : trimSpace robotID ≠ [])
    (hthere : ∀ c ∈ calls, c.time ≠ 0) (hnow : now ≠ 0) (hordered : InOrder Call.time calls)
    (hlast : ∀ c ∈ calls, c.time ≤ now) :
    let failures := recentFailures robotID isTeardown calls now
    ((allow clock (run clock calls) robotID isTeardown now).1 = true ↔
      failures.length = 0 ∨ opensAt isTeardown failures ≤ now ∨ opensAt isTeardown failures = 0) ∧
    (allow clock (run clock calls) robotID isTeardown now).1 =
      (allow clock (run clock (callsOn robotID isTeardown calls)) robotID isTeardown now).1 := by
  intro failures
  have hall := reflects_run clock isTeardown hid calls hthere hordered now hlast
  -- the calls on the key alone
  have hsub : (callsOn robotID isTeardown calls).Sublist calls := List.filter_sublist
  have hown := reflects_run clock isTeardown hid (callsOn robotID isTeardown calls)
    (fun c hc => hthere c (hsub.subset hc)) (hordered.sublist hsub) now
    (fun c hc => hlast c (hsub.subset hc))
  have hsame : recentFailures robotID isTeardown (callsOn robotID isTeardown calls) now
      = recentFailures robotID isTeardown calls now := by
    simp [recentFailures, callsOn, List.filter_filter]
  rw [hsame] at hown
  rw [allow_eq_isOpen hid hnow, allow_eq_isOpen hid hnow]
  refine ⟨hall.isOpen_iff now, ?_⟩
  rw [Bool.eq_iff_iff, hall.isOpen_iff now, hown.isOpen_iff now]

/-- The robot of the sample calls. -/
def sampleRobot : Str := "robot".toList

/-- Two failures for a robot, one second apart, with a call for another robot in between. -/
def sampleCalls : List Call :=
  [⟨.recordFailure, sampleRobot, false, second⟩, ⟨.allow, "other".toList, true, second⟩,
    ⟨.recordFailure, sampleRobot, false, 2 * second⟩]

/-- After two failures the gate for bootstraps is shut for one second. -/
theorem allow_sampleCalls :
    (allow 1 (run 1 sampleCalls) sampleRobot false (3 * second)).1 = true ∧
      (recentFailures sampleRobot false sampleCalls (3 * second)).length = 2 ∧
      opensAt false (recentFailures sampleRobot false sampleCalls (3 * second)) = 3 * second := by
  have hresult := allow_iff_recentFailures 1 sampleCalls sampleRobot false (3 * second)
    (by decide) (by decide) (by decide) (by decide) (by decide)
  exact ⟨hresult.1.mpr (by decide), by decide, by decide⟩

/-- **An opening time can be taken for none.** A failure half a second before the zero time does not
shut the gate: it would open at the zero time. -/
theorem allow_before_zero :
    ¬ ∀ (clock : Time) (calls : List Call) (robotID : Str) (isTeardown : Bool) (now : Time),
      trimSpace robotID ≠ [] → (∀ c ∈ calls, c.time ≠ 0) → now ≠ 0 → InOrder Call.time calls →
      (∀ c ∈ calls, c.time ≤ now) →
      let failures := recentFailures robotID isTeardown calls now
      ((allow clock (run clock calls) robotID isTeardown now).1 = true ↔
        failures.length = 0 ∨ opensAt isTeardown failures ≤ now) := by
  intro h
  have hresult := h 1 [⟨.recordFailure, sampleRobot, false, -(500 * millisecond)⟩] sampleRobot false
    (-(500 * millisecond)) (by decide) (by decide) (by decide) (by decide)
    (by decide)
  exact absurd (hresult.mp (by decide)) (by decide)

end Roboat.Relay.FallbackGate
