import Mathlib.Data.List.Basic
import Mathlib.Logic.Function.Basic

/-! # Labelled machines, runs and invariants

A concurrent program is embedded as a machine whose labels are the atomic steps of its tasks:
`step s a = none` when the step `a` is not enabled in `s`, so that a list of labels is one
interleaving and `run` replays it. A run whose every step meets a condition on the state it is
taken in is a *guided* run (`Along`); the two induction rules at the end reduce a statement about
all (guided) runs to the initial state and one step. -/

namespace Roboat

/-- **A labelled machine**: an initial state and a partial step function. -/
structure Machine (σ α : Type*) where
  /-- The state before any step. -/
  init : σ
  /-- The state after a step, or `none` when the step is not enabled. -/
  step : σ → α → Option σ

namespace Machine

variable {σ α : Type*} (M : Machine σ α) {s t : σ} {as : List α} {P : σ → α → Prop} {I : σ → Prop}
  {ε : Type*} {event : σ → α → Option ε}

/-- Replay a list of steps from `s`; `none` as soon as one of them is not enabled. -/
def run : σ → List α → Option σ
  | s, [] => some s
  | s, a :: as => (M.step s a).bind fun t => run t as

@[simp] theorem run_nil (s : σ) : M.run s [] = some s := rfl

/-- Cons reading of `run`: the first step is enabled and the rest runs from its result. -/
theorem run_cons {a : α} :
    M.run s (a :: as) = some t ↔ ∃ u, M.step s a = some u ∧ M.run u as = some t := by
  simp [run, Option.bind_eq_some_iff]

/-- A run of `as ++ bs` is a run of `as` continued by a run of `bs`. -/
theorem run_append {bs : List α} :
    M.run s (as ++ bs) = some t ↔ ∃ u, M.run s as = some u ∧ M.run u bs = some t := by
  induction as generalizing s with
  | nil => simp
  | cons a as ih =>
    rw [List.cons_append, run_cons]
    constructor
    · rintro ⟨u, hu, hrest⟩
      obtain ⟨v, hv, ht⟩ := ih.mp hrest
      exact ⟨v, (M.run_cons).mpr ⟨u, hu, hv⟩, ht⟩
    · rintro ⟨v, hv, ht⟩
      obtain ⟨u, hu, huv⟩ := (M.run_cons).mp hv
      exact ⟨u, hu, ih.mpr ⟨v, huv, ht⟩⟩

/-- **A machine inside another one**: when each step of the outer machine is a run of the inner one,
so is each run. -/
theorem run_flatMap {σ' α' : Type*} (N : Machine σ' α') {f : σ → σ'} {g : α → List α'}
    (hstep : ∀ s a t, M.step s a = some t → N.run (f s) (g a) = some (f t))
    (hrun : M.run s as = some t) : N.run (f s) (as.flatMap g) = some (f t) := by
  induction as generalizing s with
  | nil =>
    obtain rfl : s = t := by simpa using hrun
    rfl
  | cons a as ih =>
    obtain ⟨u, hu, hrest⟩ := M.run_cons.mp hrun
    rw [List.flatMap_cons]
    exact N.run_append.mpr ⟨f u, hstep s a u hu, ih hrest⟩

/-- **Guided runs**: every step of the run of `as` from `s` meets `P` in the state it is taken in.
-/
def Along (P : σ → α → Prop) : σ → List α → Prop
  | _, [] => True
  | s, a :: as => P s a ∧ ∀ t, M.step s a = some t → Along P t as

/-- A run all of whose labels have a property is guided by it. -/
theorem along_of_forall {P : α → Prop} (h : ∀ a ∈ as, P a) (s : σ) :
    M.Along (fun _ a => P a) s as := by
  induction as generalizing s with
  | nil => trivial
  | cons a as ih =>
    exact ⟨h a List.mem_cons_self, fun t _ => ih (fun b hb => h b (List.mem_cons_of_mem a hb)) t⟩

/-- A run guided by two conditions is guided by both at once. -/
theorem along_and {Q : σ → α → Prop} (hP : M.Along P s as) (hQ : M.Along Q s as) :
    M.Along (fun s a => P s a ∧ Q s a) s as := by
  induction as generalizing s with
  | nil => trivial
  | cons a as ih => exact ⟨⟨hP.1, hQ.1⟩, fun t ht => ih (hP.2 t ht) (hQ.2 t ht)⟩

/-- Whether a run is guided can be decided by replaying it. -/
instance decidableAlong (P : σ → α → Prop) [∀ s a, Decidable (P s a)] :
    ∀ (s : σ) (as : List α), Decidable (M.Along P s as)
  | _, [] => isTrue trivial
  | s, a :: as =>
    match h : M.step s a with
    | none => decidable_of_iff (P s a) (by simp [Along, h])
    | some t =>
      have := decidableAlong P t as
      decidable_of_iff (P s a ∧ M.Along P t as) (by simp [Along, h])

/-- **Invariant rule for guided runs.** A predicate kept by every step that meets `P` holds in every
state a `P`-guided run reaches from a state where it holds. -/
theorem along_invariant (hstep : ∀ s a t, I s → P s a → M.step s a = some t → I t) (hs : I s)
    (halong : M.Along P s as) (hrun : M.run s as = some t) : I t := by
  induction as generalizing s with
  | nil =>
    obtain rfl : s = t := by simpa using hrun
    exact hs
  | cons a as ih =>
    obtain ⟨u, hu, hut⟩ := (M.run_cons).mp hrun
    exact ih (hstep s a u hs halong.1 hu) (halong.2 u hu) hut

/-- **Two guides of the same runs**: conditions that agree on the steps taken from states with `I`,
which the guided steps keep, guide the same runs. -/
theorem along_iff {Q : σ → α → Prop} (hiff : ∀ s a t, I s → M.step s a = some t → (P s a ↔ Q s a))
    (hkeep : ∀ s a t, I s → M.step s a = some t → P s a → I t) (hs : I s)
    (hrun : M.run s as = some t) : M.Along P s as ↔ M.Along Q s as := by
  induction as generalizing s with
  | nil => exact Iff.rfl
  | cons a as ih =>
    obtain ⟨u, hu, hrest⟩ := M.run_cons.mp hrun
    constructor
    · rintro ⟨hP, halong⟩
      refine ⟨(hiff s a u hs hu).mp hP, fun v hv => ?_⟩
      obtain rfl : u = v := Option.some.inj (hu.symm.trans hv)
      exact (ih (hkeep s a u hs hu hP) hrest).mp (halong u hu)
    · rintro ⟨hQ, halong⟩
      have hP := (hiff s a u hs hu).mpr hQ
      refine ⟨hP, fun v hv => ?_⟩
      obtain rfl : u = v := Option.some.inj (hu.symm.trans hv)
      exact (ih (hkeep s a u hs hu hP) hrest).mpr (halong u hu)

/-- **Invariant rule for all runs.** A predicate kept by every step holds in every state reached. -/
theorem run_invariant (hstep : ∀ s a t, I s → M.step s a = some t → I t) (hs : I s)
    (hrun : M.run s as = some t) : I t := by
  exact M.along_invariant (fun s a t hI _ => hstep s a t hI) hs
    (M.along_of_forall (P := fun _ => True) (fun _ _ => trivial) s) hrun

/-- **A guide whose violation leaves a mark.** When the first step against `P` leads to a state with
`L`, which every step keeps, a run that does not end with `L` was guided by `P`; all this among
steps with `Q`. -/
theorem along_of_unmarked {Q : α → Prop} {L : σ → Prop}
    (hkeep : ∀ s a t, I s → Q a → M.step s a = some t → P s a → I t)
    (hmark : ∀ s a t, I s → Q a → M.step s a = some t → ¬ P s a → L t)
    (hstay : ∀ s a t, L s → Q a → M.step s a = some t → L t) (hs : I s) (hlabels : ∀ a ∈ as, Q a)
    (hrun : M.run s as = some t) (hend : ¬ L t) : M.Along P s as := by
  induction as generalizing s with
  | nil => trivial
  | cons a as ih =>
    obtain ⟨u, hu, hrest⟩ := M.run_cons.mp hrun
    obtain ⟨ha, has⟩ := List.forall_mem_cons.mp hlabels
    have hP : P s a := by
      by_contra hnot
      exact hend (M.along_invariant (fun s a t hL hQ ht => hstay s a t hL hQ ht)
        (hmark s a u hs ha hu hnot) (M.along_of_forall has u) hrest)
    refine ⟨hP, fun v hv => ?_⟩
    obtain rfl : u = v := Option.some.inj (hu.symm.trans hv)
    exact ih (hkeep s a u hs ha hu hP) has hrest

/-- **Invariant rule with history.** A relation between the steps taken and the state reached holds
in every run, when every step keeps it. -/
theorem run_history {I : List α → σ → Prop} (hinit : I [] M.init)
    (hstep : ∀ as s a t, I as s → M.step s a = some t → I (as ++ [a]) t)
    (hrun : M.run M.init as = some t) : I as t := by
  -- from any history, so that the induction can go from the front
  have hfrom : ∀ (bs : List α) (hist : List α) (s : σ), I hist s → M.run s bs = some t →
      I (hist ++ bs) t := by
    intro bs
    induction bs with
    | nil =>
      intro hist s hs hrun
      obtain rfl : s = t := by simpa using hrun
      simpa using hs
    | cons b bs ih =>
      intro hist s hs hrun
      obtain ⟨u, hu, hut⟩ := (M.run_cons).mp hrun
      simpa using ih (hist ++ [b]) u (hstep hist s b u hs hu) hut
  simpa using hfrom as [] M.init hinit hrun

/-- **The trace of a run**: what `event` says of each step, in the state it is taken in. -/
def trace {ε : Type*} (event : σ → α → Option ε) : σ → List α → List ε
  | _, [] => []
  | s, a :: as =>
    (event s a).toList ++ match M.step s a with
      | none => []
      | some t => trace event t as

theorem trace_cons (event : σ → α → Option ε) {a : α} (as : List α) (h : M.step s a = some t) :
    M.trace event s (a :: as) = (event s a).toList ++ M.trace event t as := by
  simp [trace, h]

/-- Every event of a trace comes from one of the steps. -/
theorem exists_of_mem_trace {e : ε} (h : e ∈ M.trace event s as) :
    ∃ t, ∃ a ∈ as, event t a = some e := by
  induction as generalizing s with
  | nil => cases h
  | cons a as ih =>
    rcases List.mem_append.mp h with hnew | hrest
    · exact ⟨s, a, List.mem_cons_self, by simpa using hnew⟩
    · split at hrest
      · cases hrest
      · obtain ⟨t, b, hb, hevent⟩ := ih hrest
        exact ⟨t, b, List.mem_cons_of_mem a hb, hevent⟩

/-- **The events of a guided run**: what every guided step from a state with `I` says of its event.
-/
theorem forall_mem_trace {Q : ε → Prop} (hkeep : ∀ s a t, I s → M.step s a = some t → P s a → I t)
    (hevent : ∀ s a t e, I s → M.step s a = some t → event s a = some e → Q e) (hs : I s)
    (halong : M.Along P s as) (hrun : M.run s as = some t) : ∀ e ∈ M.trace event s as, Q e := by
  induction as generalizing s with
  | nil => nofun
  | cons a as ih =>
    obtain ⟨u, hu, hrest⟩ := M.run_cons.mp hrun
    intro e he
    rw [M.trace_cons event as hu] at he
    rcases List.mem_append.mp he with hnew | hold
    · exact hevent s a u e hs hu (by simpa using hnew)
    · exact ih (hkeep s a u hs hu halong.1) (halong.2 u hu) hrest e hold

/-- **Invariant rule with a trace, for guided runs.** A relation between the trace and the state
reached holds in every guided run, when it holds at the start and every guided step keeps it. -/
theorem along_trace {I : List ε → σ → Prop} (hs : I [] s)
    (hstep : ∀ es s a t, I es s → P s a → M.step s a = some t → I (es ++ (event s a).toList) t)
    (halong : M.Along P s as) (hrun : M.run s as = some t) : I (M.trace event s as) t := by
  -- as in `run_history`, from any trace
  have hfrom : ∀ (bs : List α) (es : List ε) (s : σ), I es s → M.Along P s bs →
      M.run s bs = some t → I (es ++ M.trace event s bs) t := by
    intro bs
    induction bs with
    | nil =>
      intro es s hs _ hrun
      obtain rfl : s = t := by simpa using hrun
      simpa [trace] using hs
    | cons b bs ih =>
      intro es s hs halong hrun
      obtain ⟨u, hu, hut⟩ := (M.run_cons).mp hrun
      rw [M.trace_cons event bs hu, ← List.append_assoc]
      exact ih _ u (hstep es s b u hs halong.1 hu) (halong.2 u hu) hut
  simpa using hfrom as [] s hs halong hrun

/-- **Invariant rule with a trace.** A relation between the trace and the state reached holds in
every run, when every step keeps it. -/
theorem run_trace {I : List ε → σ → Prop} (hinit : I [] M.init)
    (hstep : ∀ es s a t, I es s → M.step s a = some t → I (es ++ (event s a).toList) t)
    (hrun : M.run M.init as = some t) : I (M.trace event M.init as) t :=
  M.along_trace hinit (fun es s a t hI _ => hstep es s a t hI)
    (M.along_of_forall (P := fun _ => True) (fun _ _ => trivial) M.init) hrun

/-- A run that is replayed to a state with a decided property. -/
theorem exists_run (as : List α) (Q : σ → Prop) [DecidablePred Q]
    (h : (M.run M.init as).any (fun t => Q t) = true) : ∃ t, M.run M.init as = some t ∧ Q t := by
  cases hrun : M.run M.init as with
  | none =>
    rw [hrun] at h
    cases h
  | some t =>
    rw [hrun] at h
    exact ⟨t, rfl, of_decide_eq_true h⟩

end Machine

end Roboat
