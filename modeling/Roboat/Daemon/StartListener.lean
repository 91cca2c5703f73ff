import Roboat.Text.Strings
import Roboat.Transition.Machine
import Roboat.Transition.Tasks

/-! # Starting the TCP listener

Every `listen` of an agent calls `start_listener`. It looks at `listener_started` under its lock,
sets it, releases the lock and only then binds the port and spawns the accept loop. The flag thus
says that a call has begun to start the listener, and it is never taken back.

A call that finds the flag set returns `Ok`. That is right exactly when the accept loop is there
already: not when the first call is still binding, and not when its bind has failed, after which no
call will ever bind again. `listens_iff` says that there is nothing else that goes wrong. -/

namespace Roboat.Daemon.Listener

/-! ## The machine -/

/-- Where a call of `start_listener` stands. -/
inductive CallPhase where
  /-- Before `listener_started` is locked. -/
  | locking
  /-- The flag is set and the lock released: in `TcpListener::bind`. -/
  | binding
  /-- The port is bound: before the accept loop is spawned. -/
  | bound
  /-- Returned `Ok(())`. -/
  | ok
  /-- Returned the error of the bind. -/
  | err (message : Str)
  deriving DecidableEq, Repr

/-- The call has set the flag and has not yet returned. -/
def CallPhase.starting : CallPhase → Bool
  | binding => true
  | bound => true
  | _ => false

/-- The call has returned an error. -/
def CallPhase.failed : CallPhase → Bool
  | err _ => true
  | _ => false

/-- An accept loop, with the number of connections that it has handed to `handle_inbound`. -/
structure AcceptLoop where
  accepted : Nat
  /-- `accept` has failed and the loop was left. -/
  ended : Bool
  deriving DecidableEq, Repr

/-- A loop that has just been spawned. -/
def AcceptLoop.new : AcceptLoop := ⟨0, false⟩

/-- The flag, the calls and the accept loops that were spawned. -/
structure State where
  listenerStarted : Bool
  calls : List CallPhase
  loops : List AcceptLoop
  deriving DecidableEq, Repr

/-- The atomic steps. -/
inductive Step where
  /-- `start_listener` is called. -/
  | call
  /-- The flag is locked, looked at, set and released. -/
  | check (k : Nat)
  /-- The bind returns, with an error or not. -/
  | bind (k : Nat) (error : Option Str)
  /-- The accept loop is spawned, and the call returns. -/
  | spawn (k : Nat)
  /-- `accept` returns in a loop. -/
  | accept (i : Nat) (ok : Bool)
  deriving DecidableEq, Repr

namespace State

def setCall (s : State) (k : Nat) (phase : CallPhase) : State :=
  { s with calls := s.calls.set k phase }

/-- A step of call `k` from one of its phases. -/
def onCall (s : State) (k : Nat) (phase : CallPhase) (t : State) : Option State :=
  if s.calls[k]? = some phase then some t else none

/-- The step function. -/
def step (s : State) : Step → Option State
  | .call => some { s with calls := s.calls ++ [.locking] }
  | .check k => s.onCall k .locking
      (if s.listenerStarted then s.setCall k .ok
        else { s with listenerStarted := true }.setCall k .binding)
  | .bind k error => s.onCall k .binding
      (match error with
        -- the flag stays set
        | some message => s.setCall k (.err message)
        | none => s.setCall k .bound)
  | .spawn k => s.onCall k .bound ({ s with loops := s.loops ++ [AcceptLoop.new] }.setCall k .ok)
  | .accept i ok => s.loops[i]?.bind fun l =>
    if l.ended then none
    else
      let next : AcceptLoop :=
        if ok then { l with accepted := l.accepted + 1 } else { l with ended := true }
      some { s with loops := s.loops.set i next }

end State

/-- **The manager**, as far as its listener goes. -/
def machine : Machine State Step where
  init := ⟨false, [], []⟩
  step := State.step

/-! ## What is wanted -/

namespace State

/-- **The listener is started**: a call has returned `Ok` only if an accept loop was spawned; and
when there is none and no call is about to spawn one, the next call binds. -/
structure Listens (s : State) : Prop where
  ok : .ok ∈ s.calls → s.loops ≠ []
  retries : s.loops = [] → (∀ phase ∈ s.calls, phase.starting = false) → s.listenerStarted = false

/-- **The condition**: no call looks at the flag while another one is starting the listener, and no
bind fails. -/
def StartsAlone (s : State) : Step → Prop
  | .check _ => ∀ phase ∈ s.calls, phase.starting = false
  | .bind _ error => error = none
  | _ => True

instance (s : State) : ∀ a, Decidable (s.StartsAlone a)
  | .check _ => inferInstanceAs (Decidable (∀ phase ∈ s.calls, phase.starting = false))
  | .bind _ error => inferInstanceAs (Decidable (error = none))
  | .call | .spawn _ | .accept .. => isTrue trivial

/-! ## One call sets the flag -/

/-- Of the calls that have set the flag there is one at most: it is starting the listener, or has
failed, or has spawned the accept loop. -/
def Counted (s : State) : Prop :=
  s.calls.countP CallPhase.starting + s.calls.countP CallPhase.failed + s.loops.length
    = if s.listenerStarted then 1 else 0

variable {s t : State} {k : Nat}

theorem of_onCall {phase : CallPhase} {u : State} (h : s.onCall k phase u = some t) :
    s.calls[k]? = some phase ∧ u = t := by
  obtain ⟨hk, h⟩ := Option.ite_none_right_eq_some.mp h
  exact ⟨hk, Option.some.inj h⟩

/-- A step, by what it does. -/
inductive Move (s : State) : Step → State → Prop
  | call : Move s .call { s with calls := s.calls ++ [.locking] }
  | follow {k : Nat} (hk : s.calls[k]? = some .locking) (hflag : s.listenerStarted = true) :
    Move s (.check k) (s.setCall k .ok)
  | lead {k : Nat} (hk : s.calls[k]? = some .locking) (hflag : s.listenerStarted = false) :
    Move s (.check k) ({ s with listenerStarted := true }.setCall k .binding)
  | fail {k : Nat} {message : Str} (hk : s.calls[k]? = some .binding) :
    Move s (.bind k (some message)) (s.setCall k (.err message))
  | bind {k : Nat} (hk : s.calls[k]? = some .binding) :
    Move s (.bind k none) (s.setCall k .bound)
  | spawn {k : Nat} (hk : s.calls[k]? = some .bound) :
    Move s (.spawn k) ({ s with loops := s.loops ++ [AcceptLoop.new] }.setCall k .ok)
  | accept {i : Nat} {ok : Bool} (l : AcceptLoop) :
    Move s (.accept i ok) { s with loops := s.loops.set i l }

/-- Every step is one of the moves. -/
theorem move_of_step {a : Step} (h : s.step a = some t) : Move s a t := by
  cases a with
  | call =>
    cases h
    exact .call
  | check k =>
    obtain ⟨hk, rfl⟩ := of_onCall h
    cases hflag : s.listenerStarted with
    | false => exact .lead hk hflag
    | true => exact .follow hk hflag
  | bind k error =>
    obtain ⟨hk, rfl⟩ := of_onCall h
    cases error with
    | none => exact .bind hk
    | some message => exact .fail hk
  | spawn k =>
    obtain ⟨hk, rfl⟩ := of_onCall h
    exact .spawn hk
  | accept i ok =>
    obtain ⟨l, -, h⟩ := Option.bind_eq_some_iff.mp h
    obtain ⟨-, h⟩ := Option.ite_none_left_eq_some.mp h
    cases h
    exact .accept _

/-- What a call counts for. -/
def weight (phase : CallPhase) : Nat :=
  (if phase.starting then 1 else 0) + if phase.failed then 1 else 0

/-- The count after call `k` has moved. -/
theorem counted_setCall {old phase : CallPhase} (hk : s.calls[k]? = some old)
    (h : s.calls.countP CallPhase.starting + s.calls.countP CallPhase.failed + s.loops.length
      + weight phase = (if s.listenerStarted then 1 else 0) + weight old) :
    (s.setCall k phase).Counted := by
  have hstarting : (s.setCall k phase).calls.countP CallPhase.starting + _ = _ :=
    Tasks.countP_set _ hk
  have hfailed : (s.setCall k phase).calls.countP CallPhase.failed + _ = _ :=
    Tasks.countP_set _ hk
  unfold weight at h
  change _ + _ + s.loops.length = if s.listenerStarted then 1 else 0
  omega

/-- A call that is starting the listener has set the flag, and there is no other and no loop. -/
theorem Counted.of_starting (h : s.Counted) {phase : CallPhase} (hmem : phase ∈ s.calls)
    (hphase : phase.starting = true) :
    s.listenerStarted = true ∧ s.calls.countP CallPhase.starting = 1 ∧
      s.calls.countP CallPhase.failed = 0 ∧ s.loops = [] := by
  have hpos : 0 < s.calls.countP CallPhase.starting := List.countP_pos_iff.mpr ⟨_, hmem, hphase⟩
  unfold Counted at h
  cases hflag : s.listenerStarted with
  | false =>
    rw [hflag, if_neg Bool.false_ne_true] at h
    omega
  | true =>
    rw [hflag, if_pos rfl] at h
    exact ⟨rfl, by omega, by omega, List.length_eq_zero_iff.mp (by omega)⟩

/-- A step keeps the count. -/
theorem Counted.step {a : Step} (h : s.Counted) (hstep : s.step a = some t) : t.Counted := by
  unfold Counted at h
  cases move_of_step hstep with
  | call =>
    unfold Counted
    rw [List.countP_append, List.countP_append]
    exact h
  | follow hk hflag => exact counted_setCall hk h
  | lead hk hflag =>
    refine counted_setCall hk ?_
    rw [hflag, if_neg Bool.false_ne_true] at h
    exact congrArg (· + 1) h
  | fail hk | bind hk => exact counted_setCall hk (congrArg (· + 1) h)
  | spawn hk =>
    refine counted_setCall hk ?_
    rw [List.length_append, List.length_singleton, ← Nat.add_assoc, h]
    rfl
  | accept l =>
    unfold Counted
    rw [List.length_set]
    exact h

/-! ## When the listener is started -/

/-- Where the listener is started as wanted, no bind has failed. -/
theorem Listens.none_failed (h : s.Listens) (hcount : s.Counted) :
    s.calls.countP CallPhase.failed = 0 := by
  by_contra hfailed
  have hone : (if s.listenerStarted then 1 else 0) ≤ 1 := by split <;> omega
  unfold Counted at hcount
  have hloops : s.loops = [] := List.length_eq_zero_iff.mp (by omega)
  have hidle : ∀ phase ∈ s.calls, phase.starting = false := by
    have hzero : s.calls.countP CallPhase.starting = 0 := by omega
    intro phase hphase
    simpa using List.countP_eq_zero.mp hzero phase hphase
  rw [h.retries hloops hidle, if_neg Bool.false_ne_true] at hcount
  omega

theorem mem_setCall {old : CallPhase} (s : State) (hk : s.calls[k]? = some old)
    (phase : CallPhase) : phase ∈ (s.setCall k phase).calls :=
  List.mem_of_getElem? (Tasks.set_self hk)

/-- A call that moves on without returning `Ok` takes nothing away from what is wanted, when it is
starting the listener. -/
theorem Listens.setCall_starting {old phase : CallPhase} (h : s.Listens)
    (hk : s.calls[k]? = some old) (hphase : phase.starting = true) (flag : Bool) :
    (State.setCall { s with listenerStarted := flag } k phase).Listens where
  ok hok := by
    rcases List.mem_or_eq_of_mem_set hok with hold | rfl
    · exact h.ok hold
    · cases hphase
  retries _ hidle := by
    have hbusy := hidle phase (mem_setCall { s with listenerStarted := flag } hk phase)
    rw [hphase] at hbusy
    cases hbusy

/-- With a loop there is nothing more to want. -/
theorem Listens.of_loops (h : s.loops ≠ []) : s.Listens :=
  ⟨fun _ => h, fun hnone => absurd hnone h⟩

/-- **One step** keeps what is wanted exactly when it meets the condition. -/
theorem listens_step_iff {a : Step} (h : s.Listens) (hcount : s.Counted)
    (hstep : s.step a = some t) : t.Listens ↔ s.StartsAlone a := by
  have hcount' := hcount.step hstep
  cases move_of_step hstep with
  | call =>
    refine iff_of_true ⟨fun hok => ?_, fun hnone hidle => ?_⟩ trivial
    · rcases List.mem_append.mp hok with hold | hnew
      · exact h.ok hold
      · cases List.mem_singleton.mp hnew
    · exact h.retries hnone fun phase hphase => hidle phase (List.mem_append_left _ hphase)
  | follow hk hflag =>
    constructor
    · -- the call has returned `Ok`: the one that is starting the listener has no loop yet
      intro hlistens phase hphase
      by_contra hstarting
      rw [Bool.not_eq_false] at hstarting
      obtain ⟨-, -, -, hloops⟩ := hcount.of_starting hphase hstarting
      exact hlistens.ok (mem_setCall s hk .ok) hloops
    · -- the flag is set, nobody is starting and nobody has failed: the count leaves a loop
      intro hidle
      have hzero : s.calls.countP CallPhase.starting = 0 :=
        List.countP_eq_zero.mpr fun phase hphase => by rw [hidle phase hphase]; decide
      have hfailed := h.none_failed hcount
      unfold Counted at hcount
      rw [hflag, if_pos rfl] at hcount
      refine .of_loops fun hnone => ?_
      have hloops : s.loops.length = 0 := congrArg List.length hnone
      omega
  | lead hk hflag =>
    refine iff_of_true (h.setCall_starting hk rfl true) fun phase hphase => ?_
    by_contra hstarting
    rw [Bool.not_eq_false] at hstarting
    obtain ⟨hset, -⟩ := hcount.of_starting hphase hstarting
    exact Bool.false_ne_true (hflag.symm.trans hset)
  | fail hk =>
    -- the flag stays set and no call is left that would bind
    refine iff_of_false (fun hlistens => ?_) (Option.some_ne_none _)
    have hzero := hlistens.none_failed hcount'
    exact absurd rfl (List.countP_eq_zero.mp hzero _ (mem_setCall s hk _))
  | bind hk => exact iff_of_true (h.setCall_starting hk rfl s.listenerStarted) rfl
  | spawn hk => exact iff_of_true (.of_loops (List.append_ne_nil_of_right_ne_nil _
      (List.cons_ne_nil _ _))) trivial
  | @accept i ok l =>
    have hnil : s.loops.set i l = [] ↔ s.loops = [] := by
      rw [← List.length_eq_zero_iff, List.length_set, List.length_eq_zero_iff]
    exact iff_of_true ⟨fun hok hnone => h.ok hok (hnil.mp hnone),
      fun hnone => h.retries (hnil.mp hnone)⟩ trivial

end State

/-- **When the listener is started as wanted.** Along a run it is so after every step exactly when
every step meets the condition. -/
theorem listens_iff (as : List Step) (s : State) (hrun : machine.run machine.init as = some s) :
    machine.Along (fun s a => ∀ t, s.step a = some t → t.Listens) machine.init as ↔
      machine.Along State.StartsAlone machine.init as := by
  have hinit : machine.init.Listens ∧ machine.init.Counted :=
    ⟨⟨fun hok => absurd hok List.not_mem_nil, fun _ _ => rfl⟩, rfl⟩
  refine machine.along_iff (I := fun s => s.Listens ∧ s.Counted) ?_ ?_ hinit hrun
  · rintro s a t ⟨hlistens, hcount⟩ hstep
    rw [← State.listens_step_iff hlistens hcount hstep]
    constructor
    · exact fun h => h t hstep
    · intro h u hu
      obtain rfl : t = u := Option.some.inj (hstep.symm.trans hu)
      exact h
  · rintro s a t ⟨-, hcount⟩ hstep hafter
    exact ⟨hafter t hstep, hcount.step hstep⟩

/-- A listener that is started, and asked for again. -/
def orderlySteps : List Step :=
  [.call, .check 0, .bind 0 none, .spawn 0, .call, .check 1, .accept 0 true, .accept 0 false]

theorem listens_orderlySteps :
    (∃ s, machine.run machine.init orderlySteps = some s) ∧
      machine.Along (fun s a => ∀ t, s.step a = some t → t.Listens) machine.init orderlySteps := by
  have hrun : machine.run machine.init orderlySteps = some ⟨true, [.ok, .ok], [⟨1, true⟩]⟩ := by
    decide
  exact ⟨⟨_, hrun⟩, (listens_iff orderlySteps _ hrun).mpr (by decide)⟩

/-- **A failed bind is not tried again**, and a call that comes too early is told `Ok`. First: the
bind fails, and the next call returns `Ok` with nothing bound. Second: the second call returns `Ok`
while the first one is binding, and then the bind fails. -/
theorem listens_fails :
    machine.run machine.init
        [.call, .check 0, .bind 0 (some "address in use".toList), .call, .check 1]
      = some ⟨true, [.err "address in use".toList, .ok], []⟩ ∧
    machine.run machine.init
        [.call, .call, .check 0, .check 1, .bind 0 (some "address in use".toList)]
      = some ⟨true, [.err "address in use".toList, .ok], []⟩ ∧
    ¬ State.Listens ⟨true, [.err "address in use".toList, .ok], []⟩ :=
  ⟨by decide, by decide, fun h => h.ok (by decide) rfl⟩

end Roboat.Daemon.Listener
