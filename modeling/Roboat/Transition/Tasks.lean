import Mathlib.Data.List.Basic
import Mathlib.Data.List.Nodup
import Mathlib.Data.List.Perm.Basic

/-! # Tables of tasks

The tasks of a concurrent program are kept in a list: a task is addressed by its position, a new
task is appended, and a step of a task overwrites its entry. These are the rules for reading such a
table back after a step. -/

open scoped List

namespace Roboat.Tasks

variable {α : Type*} {l : List α} {a b : α} {i j : Nat}

/-- There is a task at every position of the table. -/
theorem exists_of_lt (h : i < l.length) : ∃ a, l[i]? = some a := ⟨_, List.getElem?_eq_getElem h⟩

/-- An entry of a table with position `i` overwritten is the new one, or an old one elsewhere. -/
theorem of_set (h : (l.set i a)[j]? = some b) : (j = i ∧ b = a) ∨ (j ≠ i ∧ l[j]? = some b) := by
  rw [List.getElem?_set] at h
  by_cases hij : i = j
  · rw [if_pos hij] at h
    split_ifs at h
    exact Or.inl ⟨hij.symm, (Option.some.inj h).symm⟩
  · rw [if_neg hij] at h
    exact Or.inr ⟨Ne.symm hij, h⟩

/-- Reading a position that was overwritten. -/
theorem set_self (h : l[i]? = some b) : (l.set i a)[i]? = some a := by
  obtain ⟨hi, -⟩ := List.getElem?_eq_some_iff.mp h
  rw [List.getElem?_set_self hi]

/-- What the task at position `j` satisfies it still satisfies after position `i` was overwritten,
if the new entry takes it over. -/
theorem exists_set {P : α → Prop} (hi : l[i]? = some a) (hkeep : j = i → P a → P b)
    (h : ∃ x, l[j]? = some x ∧ P x) : ∃ x, (l.set i b)[j]? = some x ∧ P x := by
  obtain ⟨x, hx, hP⟩ := h
  by_cases hij : j = i
  · subst hij
    obtain rfl : a = x := Option.some.inj (hi.symm.trans hx)
    exact ⟨b, set_self hi, hkeep rfl hP⟩
  · exact ⟨x, (List.getElem?_set_ne (Ne.symm hij)).trans hx, hP⟩

/-- What some task satisfies some task still satisfies after one was overwritten, if the new entry
takes it over. -/
theorem exists_mem_set {P : α → Prop} (hi : l[i]? = some a) (hkeep : P a → P b)
    (h : ∃ x ∈ l, P x) : ∃ x ∈ l.set i b, P x := by
  obtain ⟨x, hx, hP⟩ := h
  obtain ⟨j, hj⟩ := List.mem_iff_getElem?.mp hx
  obtain ⟨y, hy, hPy⟩ := exists_set hi (fun _ => hkeep) ⟨x, hj, hP⟩
  exact ⟨y, List.mem_of_getElem? hy, hPy⟩

/-- What the task at position `j` satisfies it still satisfies after the task at position `i` was
changed in a way that keeps it. -/
theorem exists_modify {P : α → Prop} {f : α → α} (i : Nat) (hkeep : ∀ x, P x → P (f x))
    (h : ∃ x, l[j]? = some x ∧ P x) : ∃ x, (l.modify i f)[j]? = some x ∧ P x := by
  obtain ⟨x, hx, hP⟩ := h
  by_cases hij : i = j
  · subst hij
    exact ⟨f x, by rw [List.getElem?_modify_eq, hx]; rfl, hkeep x hP⟩
  · exact ⟨x, (List.getElem?_modify_ne _ _ hij).trans hx, hP⟩

/-- An entry of a table with one task appended is the new one at the end, or an old one. -/
theorem of_append (h : (l ++ [a])[j]? = some b) :
    (j = l.length ∧ b = a) ∨ (j < l.length ∧ l[j]? = some b) := by
  rcases Nat.lt_trichotomy j l.length with hj | rfl | hj
  · rw [List.getElem?_append_left hj] at h
    exact Or.inr ⟨hj, h⟩
  · rw [List.getElem?_append_right (Nat.le_refl _), Nat.sub_self] at h
    exact Or.inl ⟨rfl, (Option.some.inj h).symm⟩
  · have hlen : (l ++ [a]).length ≤ j := by
      rw [List.length_append, List.length_singleton]
      omega
    rw [List.getElem?_eq_none hlen] at h
    cases h

/-- Old entries stay when a task is appended. -/
theorem append_of_some (h : l[j]? = some b) : (l ++ [a])[j]? = some b := by
  obtain ⟨hj, -⟩ := List.getElem?_eq_some_iff.mp h
  rw [List.getElem?_append_left hj, h]

/-- Taking position `i` out of a list loses no other member. -/
theorem eq_or_mem_eraseIdx (ha : l[i]? = some a) (hb : b ∈ l) : b = a ∨ b ∈ l.eraseIdx i := by
  obtain ⟨j, hj⟩ := List.mem_iff_getElem?.mp hb
  by_cases hij : j = i
  · subst hij
    exact Or.inl (Option.some.inj (hj.symm.trans ha))
  · exact Or.inr (List.mem_eraseIdx_iff_getElem?.mpr ⟨j, hij, hj⟩)

/-- What all tasks hold is, up to order, what one holds and what the others hold. -/
theorem flatMap_perm {β : Type*} (f : α → List β) (h : l[i]? = some a) :
    l.flatMap f ~ f a ++ (l.eraseIdx i).flatMap f := by
  obtain ⟨hi, rfl⟩ := List.getElem?_eq_some_iff.mp h
  have hperm := (List.getElem_cons_eraseIdx_perm hi).flatMap_right f
  rw [List.flatMap_cons] at hperm
  exact hperm.symm

/-- What all tasks hold, after one is overwritten. -/
theorem flatMap_set_perm {β : Type*} (f : α → List β) (h : l[i]? = some b) :
    (l.set i a).flatMap f ~ f a ++ (l.eraseIdx i).flatMap f := by
  obtain ⟨hi, -⟩ := List.getElem?_eq_some_iff.mp h
  exact (List.set_perm_cons_eraseIdx hi a).flatMap_right f

/-- What all tasks hold, when some of them hold one and the same thing. -/
theorem flatMap_ite {β : Type*} (p : α → Prop) [DecidablePred p] (l : List α) (x : β) :
    l.flatMap (fun a => if p a then [x] else []) = (l.filter p).map fun _ => x := by
  induction l with
  | nil => rfl
  | cons a l ih => by_cases ha : p a <;> simp [ha, ih]

/-- A property of all tasks, after one is overwritten. -/
theorem forall_mem_set {P : α → Prop} (i : Nat) (h : ∀ x ∈ l, P x) (ha : P a) :
    ∀ x ∈ l.set i a, P x := by
  intro x hx
  rcases List.mem_or_eq_of_mem_set hx with hold | rfl
  · exact h x hold
  · exact ha

/-- A property of all tasks, after one is changed in a way that keeps it. -/
theorem forall_mem_modify {P : α → Prop} {f : α → α} (i : Nat) (h : ∀ x ∈ l, P x)
    (hkeep : ∀ x, P x → P (f x)) : ∀ x ∈ l.modify i f, P x := by
  intro x hx
  obtain ⟨j, hj⟩ := List.mem_iff_getElem?.mp hx
  rw [List.getElem?_modify] at hj
  obtain ⟨y, hy, rfl⟩ := Option.map_eq_some_iff.mp hj
  split_ifs
  · exact hkeep y (h y (List.mem_of_getElem? hy))
  · exact h y (List.mem_of_getElem? hy)

/-- A property of all tasks, after one is added. -/
theorem forall_mem_append {P : α → Prop} (h : ∀ x ∈ l, P x) (ha : P a) : ∀ x ∈ l ++ [a], P x := by
  intro x hx
  rcases List.mem_append.mp hx with hold | hnew
  · exact h x hold
  · rw [List.mem_singleton.mp hnew]
    exact ha

/-- Overwriting an entry by one that looks the same. -/
theorem map_set_of_eq {β : Type*} (f : α → β) (h : l[i]? = some a) (hf : f b = f a) :
    (l.set i b).map f = l.map f := by
  refine List.ext_getElem? fun j => ?_
  by_cases hij : j = i
  · subst hij
    rw [List.getElem?_map, List.getElem?_map, set_self h, h]
    exact congrArg some hf
  · rw [List.getElem?_map, List.getElem?_map, List.getElem?_set_ne (Ne.symm hij)]

/-- How many tasks are in some state, after one of them was overwritten. -/
theorem countP_set (p : α → Bool) (h : l[i]? = some a) :
    (l.set i b).countP p + (if p a then 1 else 0) = l.countP p + (if p b then 1 else 0) := by
  obtain ⟨hi, rfl⟩ := List.getElem?_eq_some_iff.mp h
  rw [(List.set_perm_cons_eraseIdx hi b).countP_eq p,
    ← (List.getElem_cons_eraseIdx_perm hi).countP_eq p, List.countP_cons, List.countP_cons]
  omega

/-! ## Logs

Tasks write into a common log, each under its own number. What a task has written so far depends on
where it is. -/

/-- Every task has written what `expect` says, and nobody else has written anything. -/
structure Logged {β : Type*} (tag : β → Nat) (expect : Nat → α → List β) (tasks : List α)
    (log : List β) : Prop where
  own : ∀ (i : Nat) a, tasks[i]? = some a → log.filter (fun x => tag x == i) = expect i a
  tagged : ∀ x ∈ log, tag x < tasks.length

namespace Logged

variable {β : Type*} {tag : β → Nat} {expect : Nat → α → List β} {log : List β} {x : β}

theorem nil : Logged tag expect [] [] where
  own i a h := by simp at h
  tagged x hx := by simp at hx

/-- A task goes on without writing. -/
theorem set (h : Logged tag expect l log) (hi : l[i]? = some a) (hsame : expect i b = expect i a) :
    Logged tag expect (l.set i b) log := by
  refine ⟨fun j c hj => ?_, fun x hx => ?_⟩
  · rcases of_set hj with ⟨rfl, rfl⟩ | ⟨-, hold⟩
    · rw [hsame]
      exact h.own j a hi
    · exact h.own j c hold
  · rw [List.length_set]
    exact h.tagged x hx

/-- A task that has not written yet writes. -/
theorem write (h : Logged tag expect l log) (hi : l[i]? = some a) (htag : tag x = i)
    (hbefore : expect i a = []) (hafter : expect i b = [x]) :
    Logged tag expect (l.set i b) (log ++ [x]) := by
  obtain ⟨hlt, -⟩ := List.getElem?_eq_some_iff.mp hi
  refine ⟨fun j c hj => ?_, fun y hy => ?_⟩
  · rw [List.filter_append]
    rcases of_set hj with ⟨rfl, rfl⟩ | ⟨hne, hold⟩
    · rw [h.own j a hi, hbefore, hafter, List.filter_singleton, htag, beq_self_eq_true]
      rfl
    · have hother : (tag x == j) = false := by
        rw [htag]
        exact beq_false_of_ne (Ne.symm hne)
      rw [h.own j c hold, List.filter_singleton, hother]
      exact List.append_nil _
  · rw [List.length_set]
    rcases List.mem_append.mp hy with hold | hnew
    · exact h.tagged y hold
    · rw [List.mem_singleton.mp hnew, htag]
      exact hlt

/-- A new task has written nothing. -/
theorem append (h : Logged tag expect l log) (hnew : expect l.length a = []) :
    Logged tag expect (l ++ [a]) log := by
  refine ⟨fun j c hj => ?_, fun x hx => ?_⟩
  · rcases of_append hj with ⟨rfl, rfl⟩ | ⟨-, hold⟩
    · rw [hnew, List.filter_eq_nil_iff]
      intro x hx
      have hlt := h.tagged x hx
      simp only [beq_iff_eq]
      omega
    · exact h.own j c hold
  · have hlt := h.tagged x hx
    rw [List.length_append]
    omega

/-- When no task writes twice, the log has no number twice. -/
theorem nodup (h : Logged tag expect l log) (hexpect : ∀ (i : Nat) a, (expect i a).length ≤ 1) :
    (log.map tag).Nodup := by
  rw [List.nodup_iff_count_le_one]
  intro j
  by_cases hj : j < l.length
  · obtain ⟨a, ha⟩ := exists_of_lt hj
    have hle := hexpect j a
    rw [← h.own j a ha, ← List.countP_eq_length_filter] at hle
    rw [List.count, List.countP_map]
    exact hle
  · rw [List.count_eq_zero_of_not_mem]
    · exact Nat.zero_le 1
    · intro hmem
      obtain ⟨x, hx, rfl⟩ := List.mem_map.mp hmem
      exact hj (h.tagged x hx)

end Logged

end Roboat.Tasks
