import Mathlib.Data.List.Basic
import Mathlib.Tactic.SplitIfs

/-! # Bounded broadcast channels

Every receiver of a broadcast channel sees all values sent after it subscribed, as long as it does
not fall behind: the channel keeps only the newest `capacity` values. The channel is the list of all
values ever sent, and a receiver is the position of the next value it will see. -/

namespace Roboat.Broadcast

variable {α : Type*} {capacity next : Nat} {log : List α} {a : α}

/-- What a receiver gets. -/
inductive Received (α : Type*) where
  /-- There is nothing new. -/
  | empty
  /-- The receiver fell behind and continues at the oldest value kept. -/
  | lagged (next : Nat)
  | value (a : α)

/-- `recv` of a receiver at position `next`. -/
def receive (capacity : Nat) (log : List α) (next : Nat) : Received α :=
  match log[next]? with
  | none => .empty
  | some a => if capacity < log.length - next then .lagged (log.length - capacity) else .value a

/-- A received value is the first of the backlog. -/
theorem backlog_of_value (h : receive capacity log next = .value a) :
    log.drop next = a :: log.drop (next + 1) := by
  unfold receive at h
  split at h
  · cases h
  · rename_i b hb
    split_ifs at h
    cases h
    obtain ⟨hlt, rfl⟩ := List.getElem?_eq_some_iff.mp hb
    exact List.drop_eq_getElem_cons hlt

/-- A received value is there. -/
theorem lt_of_value (h : receive capacity log next = .value a) : next < log.length := by
  by_contra hge
  have hnil := List.drop_eq_nil_of_le (Nat.le_of_not_lt hge)
  rw [backlog_of_value h] at hnil
  cases hnil

/-- A receiver within the capacity does not lag. -/
theorem not_lagged {n : Nat} (hwithin : log.length ≤ next + capacity) :
    receive capacity log next ≠ .lagged n := by
  intro h
  unfold receive at h
  split at h
  · cases h
  · split_ifs at h with hbehind
    omega

end Roboat.Broadcast
