import Roboat.Relay.Hub

/-! # Exclusive attach

A robot has one active session at a time, and a relay attached under another session is preempted:
it is sent a `relay_close`. The session is decided, set, enforced against the registered relays,
and used for a new registration in separate steps, so tasks for the same robot can pass each other.
What holds in a guided run is `Excl`: every registered relay of a robot with an active session
carries the active key, or has been sent a close since the session was set, or is still on the list
of some preemption pass for the active key. -/

namespace Roboat.Relay

/-- A close message was placed in channel `ch` since the active session of `robotID` last changed.
-/
def closedSinceSet (robotID : Str) (ch : Nat) : List Event → Bool
  | [] => false
  | .placed reg msg _ :: log =>
    (reg.ch == ch && msg.type == .relayClose) || closedSinceSet robotID ch log
  | .sessionSet r _ :: log => if r = robotID then false else closedSinceSet robotID ch log

namespace SessionPhase

/-- Between the map write of `SetActiveSession` and the end of its preemption pass. -/
def inPass : SessionPhase → Bool
  | scanning => true
  | closing _ => true
  | dropping _ _ => true
  | retrying _ _ => true
  | _ => false

/-- The session is settled and the relay not yet registered. -/
def committed (phase : SessionPhase) : Bool := phase.inPass || phase == .upgrading

/-- A pass that is still going to treat a relay. -/
def Pends (entry : RelayEntry) : SessionPhase → Prop
  | scanning => True
  | closing stale => entry ∈ stale
  | dropping current stale => entry = current ∨ entry ∈ stale
  | retrying current stale => entry = current ∨ entry ∈ stale
  | _ => False

end SessionPhase

namespace State

/-- No attach of the robot is between its session decision and its `RegisterRelay`, and no
`SetActiveSession` for it is between its map write and the end of its preemption pass. -/
def Quiet (s : State) (robotID : Str) : Prop :=
  ∀ task ∈ s.tasks, task.robotID = robotID → task.phase.inPass = false ∧
    (task.isAttach = true → task.phase ≠ .setting ∧ task.phase ≠ .upgrading)

/-- **Exclusive attach**: when a robot with an active session is quiet, each of its relays carries
the active key or has been sent a close since the session was set. -/
def Exclusive (env : Env) (s : State) : Prop :=
  ∀ robotID, s.activeSession robotID ≠ [] → s.Quiet robotID →
    ∀ entry ∈ s.relays, entry.2.robotID = robotID →
      equalFold env.fold entry.2.sessionKey (s.activeSession robotID) = true ∨
      closedSinceSet robotID entry.2.ch s.log = true

/-- The channel has a free slot. -/
def hasRoom (s : State) (ch : Nat) : Bool :=
  s.chans[ch]?.any fun queue => queue.length < relayChanCapacity

/-- The channel is not empty. -/
def hasMessage (s : State) (ch : Nat) : Bool := s.chans[ch]?.any fun queue => !queue.isEmpty

/-- **The condition**: a robot's session changes only to the key, up to case, of every attach of
that robot that is past its session step and not yet registered; and where a preemption meets a full
channel, the channel is not emptied before the drop nor filled up again before the second attempt.
-/
def PreemptsAll (env : Env) (s : State) : Step → Prop
  | .session (.set t) => ∀ task ∈ s.tasks[t]?, s.changesSession task = true →
      ∀ other ∈ s.tasks, other.isAttach = true → other.robotID = task.robotID →
        other.phase.committed = true →
        equalFold env.fold other.sessionKey task.sessionKey = true
  | .session (.drop t) => ∀ task ∈ s.tasks[t]?,
      match task.phase with
      | .dropping entry _ => s.hasMessage entry.2.ch = true
      | _ => True
  | .session (.retry t) => ∀ task ∈ s.tasks[t]?,
      match task.phase with
      | .retrying entry _ => s.hasRoom entry.2.ch = true
      | _ => True
  | _ => True

instance (env : Env) (s : State) : ∀ a, Decidable (s.PreemptsAll env a)
  | .session (.set t) =>
    Option.decidableForallMem s.tasks[t]?
  | .session (.drop t) =>
    have (task : SessionTask) : Decidable (match task.phase with
        | .dropping entry _ => s.hasMessage entry.2.ch = true
        | _ => True) := by
      split <;> infer_instance
    inferInstanceAs (Decidable (∀ task ∈ s.tasks[t]?, _))
  | .session (.retry t) =>
    have (task : SessionTask) : Decidable (match task.phase with
        | .retrying entry _ => s.hasRoom entry.2.ch = true
        | _ => True) := by
      split <;> infer_instance
    inferInstanceAs (Decidable (∀ task ∈ s.tasks[t]?, _))
  | .agent _ | .session (.attach ..) | .session (.decide ..) | .session (.activate ..)
  | .session (.scan _) | .session (.close ..) | .session (.passDone _) | .session (.upgradeFail _)
  | .session (.register ..) | .session (.consume _) | .session (.unregister _)
  | .session (.clear ..) => isTrue trivial

/-- The invariant of guided runs. -/
structure Excl (env : Env) (s : State) : Prop where
  robots : ∀ task ∈ s.tasks, trimSpace task.robotID = task.robotID ∧ task.robotID ≠ []
  keys : ∀ task ∈ s.tasks, task.phase ≠ .deciding → task.phase ≠ .finished →
    trimSpace task.sessionKey = task.sessionKey ∧ task.sessionKey ≠ []
  active : ∀ robotID key, s.activeSessions robotID = some key → trimSpace key = key
  relays : ∀ entry ∈ s.relays, trimSpace entry.2.robotID = entry.2.robotID ∧
    trimSpace entry.2.sessionKey = entry.2.sessionKey
  committed : ∀ task ∈ s.tasks, task.isAttach = true → task.phase.committed = true →
    ∀ key, s.activeSessions task.robotID = some key →
      equalFold env.fold task.sessionKey key = true
  covered : ∀ entry ∈ s.relays, ∀ key, s.activeSessions entry.2.robotID = some key →
    equalFold env.fold entry.2.sessionKey key = true ∨
    closedSinceSet entry.2.robotID entry.2.ch s.log = true ∨
    ∃ (n : Nat) (task : SessionTask), s.tasks[n]? = some task ∧
      task.robotID = entry.2.robotID ∧ task.sessionKey = key ∧ task.phase.Pends entry

variable {env : Env} {s t : State} {n : Nat} {task new : SessionTask}

/-- `ActiveSession` reads the map. -/
theorem Excl.activeSession_eq (h : Excl env s) {robotID key : Str}
    (hrobot : trimSpace robotID = robotID ∧ robotID ≠ [])
    (hkey : s.activeSessions robotID = some key) : s.activeSession robotID = key := by
  unfold activeSession ActiveSessions.activeSession
  rw [hrobot.1, if_neg hrobot.2, hkey, Option.getD_some, h.active robotID key hkey]

/-- The invariant gives exclusive attach. -/
theorem Excl.exclusive (h : Excl env s) : s.Exclusive env := by
  intro robotID hactive hquiet entry hentry hrobot
  have htrim : trimSpace robotID = robotID := by
    rw [← hrobot]
    exact (h.relays entry hentry).1
  have hne : robotID ≠ [] := by
    rintro rfl
    exact hactive rfl
  cases hkey : s.activeSessions robotID with
  | none => simp [activeSession, ActiveSessions.activeSession, htrim, hkey] at hactive
  | some key =>
    rw [h.activeSession_eq ⟨htrim, hne⟩ hkey]
    subst hrobot
    rcases h.covered entry hentry key hkey with heq | hclosed | ⟨n, task, hn, hr, -, hpend⟩
    · exact Or.inl heq
    · exact Or.inr hclosed
    · -- a pass that still pends is not over
      have hpass := (hquiet task (List.mem_of_getElem? hn) hr).1
      cases hphase : task.phase <;> simp [hphase, SessionPhase.Pends] at hpend <;>
        simp [hphase, SessionPhase.inPass] at hpass

/-! ## Connections and calls -/

/-- A step that leaves sessions, relays and their tasks alone; it may place a message. -/
structure LeavesSessions (s t : State) : Prop where
  activeSessions : t.activeSessions = s.activeSessions
  relays : t.relays = s.relays
  tasks : t.tasks = s.tasks
  log : t.log = s.log ∨ ∃ reg msg source, t.log = .placed reg msg source :: s.log

theorem leavesSessions_enqueue {reg : RelayRegistration} {msg : AgentControlMessage}
    {source : Source} (h : s.enqueue reg msg source = some t) : LeavesSessions s t := by
  obtain ⟨chans, rfl⟩ := eq_of_enqueue h
  exact ⟨rfl, rfl, rfl, Or.inr ⟨_, _, _, rfl⟩⟩

/-- **Connections and calls leave sessions and relays alone.** -/
theorem leavesSessions_agentStep {a : AgentStep} (h : s.agentStep env a = some t) :
    LeavesSessions s t := by
  obtain ⟨u, hop, hactive, hrelays, htasks, -, hlog⟩ := agentMove_of_agentStep h
  have hu : LeavesSessions s u := by
    cases hop with
    | none => exact ⟨rfl, rfl, rfl, Or.inl rfl⟩
    | enqueue henq => exact leavesSessions_enqueue henq
    | drop hdrop =>
      obtain ⟨chans, rfl⟩ := eq_of_dropOldestQueuedMessage hdrop
      exact ⟨rfl, rfl, rfl, Or.inl rfl⟩
  refine ⟨hactive.trans hu.activeSessions, hrelays.trans hu.relays, htasks.trans hu.tasks, ?_⟩
  rw [hlog]
  exact hu.log

/-- A step that leaves the sessions alone keeps the invariant: a placed message can only add a
close. -/
theorem Excl.leaves (h : Excl env s) (hleaves : LeavesSessions s t) : Excl env t := by
  obtain ⟨hactive, hrelays, htasks, hlog⟩ := hleaves
  refine ⟨?_, ?_, ?_, ?_, ?_, ?_⟩
  · rw [htasks]
    exact h.robots
  · rw [htasks]
    exact h.keys
  · rw [hactive]
    exact h.active
  · rw [hrelays]
    exact h.relays
  · rw [htasks, hactive]
    exact h.committed
  · rw [hrelays, hactive, htasks]
    intro entry hentry key hkey
    refine (h.covered entry hentry key hkey).imp_right (Or.imp_left fun hclosed => ?_)
    rcases hlog with hsame | ⟨reg, msg, source, hplaced⟩
    · rw [hsame]
      exact hclosed
    · rw [hplaced, closedSinceSet, hclosed, Bool.or_true]

/-! ## Session tasks -/

/-- **One task moves on**, and nothing else changes. Its robot stays; its key agrees with the active
session once it is committed; and what its pass was still to treat is treated or still listed. -/
theorem Excl.moveTask (h : Excl env s) (htask : s.tasks[n]? = some task)
    (hrobot : new.robotID = task.robotID)
    (hkey : new.phase ≠ .deciding → new.phase ≠ .finished →
      trimSpace new.sessionKey = new.sessionKey ∧ new.sessionKey ≠ [])
    (hcommitted : new.isAttach = true → new.phase.committed = true →
      ∀ key, s.activeSessions task.robotID = some key →
        equalFold env.fold new.sessionKey key = true)
    (hpends : ∀ entry ∈ s.relays, task.robotID = entry.2.robotID → task.phase.Pends entry →
      equalFold env.fold entry.2.sessionKey task.sessionKey = true ∨
      closedSinceSet entry.2.robotID entry.2.ch s.log = true ∨
      (new.sessionKey = task.sessionKey ∧ new.phase.Pends entry)) :
    Excl env (s.setTask n new) := by
  have hmem := List.mem_of_getElem? htask
  refine ⟨Tasks.forall_mem_set n h.robots ?_, Tasks.forall_mem_set n h.keys hkey, h.active,
    h.relays, Tasks.forall_mem_set n h.committed ?_, fun entry hentry key hactive => ?_⟩
  · rw [hrobot]
    exact h.robots task hmem
  · rw [hrobot]
    exact hcommitted
  · rcases h.covered entry hentry key hactive with heq | hclosed | ⟨m, other, hm, hr, hk, hpend⟩
    · exact Or.inl heq
    · exact Or.inr (Or.inl hclosed)
    by_cases hmn : m = n
    · -- the pass that was to treat the relay is the one that moves
      subst hmn
      obtain rfl : task = other := Option.some.inj (htask.symm.trans hm)
      rcases hpends entry hentry hr hpend with heq | hclosed | ⟨hnew, hpend'⟩
      · rw [hk] at heq
        exact Or.inl heq
      · exact Or.inr (Or.inl hclosed)
      · exact Or.inr (Or.inr ⟨m, new, Tasks.set_self htask, hrobot.trans hr, hnew.trans hk, hpend'⟩)
    · refine Or.inr (Or.inr ⟨m, other, ?_, hr, hk, hpend⟩)
      simp only [setTask]
      rw [List.getElem?_set_ne (Ne.symm hmn)]
      exact hm

/-- A new task has not settled its session yet. -/
theorem Excl.newTask (h : Excl env s)
    (hrobot : trimSpace new.robotID = new.robotID ∧ new.robotID ≠ [])
    (hkey : new.phase = .deciding ∨
      trimSpace new.sessionKey = new.sessionKey ∧ new.sessionKey ≠ [])
    (hphase : new.phase.committed = false) : Excl env { s with tasks := s.tasks ++ [new] } := by
  refine ⟨fun other hother => ?_, fun other hother => ?_, h.active, h.relays,
    fun other hother => ?_, fun entry hentry key hactive => ?_⟩
  · rcases List.mem_append.mp hother with hold | hnew
    · exact h.robots other hold
    · rw [List.mem_singleton.mp hnew]
      exact hrobot
  · rcases List.mem_append.mp hother with hold | hnew
    · exact h.keys other hold
    · rw [List.mem_singleton.mp hnew]
      exact fun hdec _ => hkey.resolve_left hdec
  · rcases List.mem_append.mp hother with hold | hnew
    · exact h.committed other hold
    · rw [List.mem_singleton.mp hnew]
      intro _ hcom
      rw [hphase] at hcom
      cases hcom
  · refine (h.covered entry hentry key hactive).imp_right (Or.imp_right ?_)
    rintro ⟨m, other, hm, hrest⟩
    exact ⟨m, other, Tasks.append_of_some hm, hrest⟩

/-- Deciding settles an attach only on the active key. -/
theorem Excl.decideSession (h : Excl env s) (htask : s.tasks[n]? = some task)
    (hphase : task.phase = .deciding) {evidence : Evidence} :
    Excl env (s.decideSession env n task evidence) := by
  have hnopend : ∀ entry, ¬ task.phase.Pends entry := by
    intro entry hpend
    rw [hphase] at hpend
    exact hpend
  have hspec := decideAttach_spec env.fold env.parseTime evidence (s.activeSession task.robotID)
    task.robotID task.userID task.sessionKey
  unfold State.decideSession
  cases hdec : decideAttach env.fold env.parseTime evidence (s.activeSession task.robotID)
      task.robotID task.userID task.sessionKey with
  | reject error =>
    exact h.moveTask htask rfl (fun _ hfin => absurd rfl hfin) (fun _ hcom => by cases hcom)
      fun entry _ _ hpend => absurd hpend (hnopend entry)
  | keep key =>
    rw [hdec] at hspec
    refine h.moveTask htask rfl (fun _ _ => ⟨hspec.1, hspec.2.1⟩) (fun _ _ key' hactive => ?_)
      fun entry _ _ hpend => absurd hpend (hnopend entry)
    have hkept := hspec.2.2
    rw [h.activeSession_eq (h.robots task (List.mem_of_getElem? htask)) hactive,
      h.active _ _ hactive, equalFold_comm] at hkept
    exact hkept
  | adopt key =>
    rw [hdec] at hspec
    exact h.moveTask htask rfl (fun _ _ => hspec) (fun _ hcom => by cases hcom)
      fun entry _ _ hpend => absurd hpend (hnopend entry)

/-- **Setting the active session.** When the value changes, the condition makes all committed
attaches agree with it, and the scan to come covers all relays of the robot. -/
theorem Excl.set (h : Excl env s) (htask : s.tasks[n]? = some task) (hphase : task.phase = .setting)
    (hcond : s.PreemptsAll env (.session (.set n))) : Excl env (s.set n task) := by
  have hmem := List.mem_of_getElem? htask
  have hkey : trimSpace task.sessionKey = task.sessionKey ∧ task.sessionKey ≠ [] :=
    h.keys task hmem (by rw [hphase]; simp) (by rw [hphase]; simp)
  have hactive : ∀ robotID key,
      Function.update s.activeSessions task.robotID (some task.sessionKey) robotID = some key →
      trimSpace key = key := by
    intro robotID key hk
    by_cases hr : robotID = task.robotID
    · rw [hr, Function.update_self] at hk
      cases hk
      exact hkey.1
    · rw [Function.update_of_ne hr] at hk
      exact h.active robotID key hk
  unfold State.set
  split_ifs with hchanged
  · have hagree := hcond task htask hchanged
    refine ⟨fun other hother => ?_, fun other hother => ?_, hactive, h.relays,
      fun other hother hattach hcom key hk => ?_, fun entry hentry key hk => ?_⟩
    · rcases List.mem_or_eq_of_mem_set hother with hold | rfl
      · exact h.robots other hold
      · exact h.robots task hmem
    · rcases List.mem_or_eq_of_mem_set hother with hold | rfl
      · exact h.keys other hold
      · exact fun _ _ => hkey
    · simp only [setTask] at hk
      rcases List.mem_or_eq_of_mem_set hother with hold | rfl
      · by_cases hr : other.robotID = task.robotID
        · rw [hr, Function.update_self] at hk
          cases hk
          exact hagree other hold hattach hr hcom
        · rw [Function.update_of_ne hr] at hk
          exact h.committed other hold hattach hcom key hk
      · rw [Function.update_self] at hk
        cases hk
        exact equalFold_refl _ _
    · simp only [setTask] at hk ⊢
      by_cases hr : entry.2.robotID = task.robotID
      · rw [hr, Function.update_self] at hk
        cases hk
        exact Or.inr (Or.inr ⟨n, _, Tasks.set_self htask, hr.symm, rfl, trivial⟩)
      · rw [Function.update_of_ne hr] at hk
        rcases h.covered entry hentry key hk with heq | hclosed | ⟨m, other, hm, hr', hrest⟩
        · exact Or.inl heq
        · refine Or.inr (Or.inl ?_)
          rw [closedSinceSet, if_neg (Ne.symm hr)]
          exact hclosed
        · have hmn : m ≠ n := by
            rintro rfl
            obtain rfl : task = other := Option.some.inj (htask.symm.trans hm)
            exact hr hr'.symm
          refine Or.inr (Or.inr ⟨m, other, ?_, hr', hrest⟩)
          rw [List.getElem?_set_ne (Ne.symm hmn)]
          exact hm
  · -- the map already has the key
    have hsame : s.activeSessions task.robotID = some task.sessionKey := by
      simp only [changesSession, ne_eq, decide_not, Bool.not_eq_true', decide_eq_false_iff_not,
        not_not] at hchanged
      cases hcur : s.activeSessions task.robotID with
      | none =>
        rw [hcur] at hchanged
        exact absurd hchanged.symm hkey.2
      | some key =>
        rw [hcur, Option.getD_some, h.active _ _ hcur] at hchanged
        rw [hchanged]
    have hmap : Function.update s.activeSessions task.robotID (some task.sessionKey)
        = s.activeSessions := by
      rw [← hsame, Function.update_eq_self]
    rw [hmap]
    refine h.moveTask htask rfl (fun _ _ => hkey) (fun _ _ key hk => ?_) fun entry _ _ hpend => ?_
    · rw [hsame] at hk
      cases hk
      exact equalFold_refl _ _
    · rw [hphase] at hpend
      exact absurd hpend id

/-- **The scan** lists every relay of the robot whose key is not the active one. -/
theorem Excl.scan (h : Excl env s) (htask : s.tasks[n]? = some task)
    (hphase : task.phase = .scanning) : Excl env (s.scan env n task) := by
  have hmem := List.mem_of_getElem? htask
  have hkey := h.keys task hmem (by rw [hphase]; simp) (by rw [hphase]; simp)
  refine h.moveTask htask rfl (fun _ _ => hkey) (fun hattach _ => ?_)
    fun entry hentry hrobot _ => ?_
  · exact h.committed task hmem hattach (by rw [hphase]; rfl)
  · by_cases heq : equalFold env.fold entry.2.sessionKey task.sessionKey = true
    · exact Or.inl heq
    · refine Or.inr (Or.inr ⟨rfl, List.mem_filter.mpr ⟨hentry, ?_⟩⟩)
      obtain ⟨hr, hk⟩ := h.relays entry hentry
      unfold isStale
      rw [hr, hk, hrobot, equalFold_refl]
      simp [heq]

/-- A task that goes on with its pass. -/
theorem Excl.continuePass (h : Excl env s) (htask : s.tasks[n]? = some task)
    (hpass : task.phase.inPass = true) {phase : SessionPhase}
    (hpends : ∀ entry ∈ s.relays, task.phase.Pends entry →
      closedSinceSet entry.2.robotID entry.2.ch s.log = true ∨ phase.Pends entry) :
    Excl env (s.setTask n { task with phase := phase }) := by
  have hmem := List.mem_of_getElem? htask
  refine h.moveTask htask rfl (fun _ _ => ?_) (fun hattach _ => ?_) fun entry hentry _ hpend => ?_
  · exact h.keys task hmem (by rintro heq; rw [heq] at hpass; cases hpass)
      (by rintro heq; rw [heq] at hpass; cases hpass)
  · exact h.committed task hmem hattach (by simp [SessionPhase.committed, hpass])
  · exact Or.inr ((hpends entry hentry hpend).imp_right fun hnew => ⟨rfl, hnew⟩)

/-- A close that is placed counts from now on. -/
theorem closedSinceSet_of_enqueue {entry : RelayEntry} (robotID : Str)
    (h : s.enqueue entry.2 (preemptMessage task entry) .hub = some t) :
    closedSinceSet robotID entry.2.ch t.log = true := by
  obtain ⟨chans, rfl⟩ := eq_of_enqueue h
  simp [closedSinceSet, preemptMessage]

/-- The first attempt to close a stale relay. -/
theorem Excl.close (h : Excl env s) (htask : s.tasks[n]? = some task) {stale : List RelayEntry}
    {m : Nat} {entry : RelayEntry} (hphase : task.phase = .closing stale)
    (hentry : stale[m]? = some entry) : Excl env (s.close n task entry (stale.eraseIdx m)) := by
  have hpass : task.phase.inPass = true := by rw [hphase]; rfl
  have hsplit : ∀ e, task.phase.Pends e → e = entry ∨ e ∈ stale.eraseIdx m := by
    intro e hpend
    rw [hphase] at hpend
    exact Tasks.eq_or_mem_eraseIdx hentry hpend
  unfold State.close
  cases henq : s.enqueue entry.2 (preemptMessage task entry) .hub with
  | none => exact h.continuePass htask hpass fun e _ hpend => Or.inr (hsplit e hpend)
  | some u =>
    have hu := h.leaves (leavesSessions_enqueue henq)
    have htask' : u.tasks[n]? = some task := by
      rw [(leavesSessions_enqueue henq).tasks]
      exact htask
    refine hu.continuePass htask' hpass fun e _ hpend => ?_
    rcases hsplit e hpend with rfl | hrest
    · exact Or.inl (closedSinceSet_of_enqueue _ henq)
    · exact Or.inr hrest

/-- A channel with a message can drop one. -/
theorem dropOldest_of_hasMessage {reg : RelayRegistration} (h : s.hasMessage reg.ch = true) :
    ∃ u, s.dropOldestQueuedMessage reg = some u := by
  unfold hasMessage at h
  unfold dropOldestQueuedMessage
  split
  · exact ⟨_, rfl⟩
  · rename_i hnone
    cases hch : s.chans[reg.ch]? with
    | none =>
      rw [hch] at h
      cases h
    | some queue =>
      cases queue with
      | nil =>
        rw [hch] at h
        cases h
      | cons msg queue => exact absurd hch (hnone msg queue)

/-- A channel with room takes a message. -/
theorem enqueue_of_hasRoom {reg : RelayRegistration} (msg : AgentControlMessage) (source : Source)
    (h : s.hasRoom reg.ch = true) : ∃ u, s.enqueue reg msg source = some u := by
  unfold hasRoom at h
  unfold State.enqueue
  cases hch : s.chans[reg.ch]? with
  | none =>
    rw [hch] at h
    cases h
  | some queue =>
    rw [hch] at h
    simp only
    rw [if_pos (of_decide_eq_true h)]
    exact ⟨_, rfl⟩

/-- Making room for the close: under the condition there is a message to drop. -/
theorem Excl.drop (h : Excl env s) (htask : s.tasks[n]? = some task) {entry : RelayEntry}
    {stale : List RelayEntry} (hphase : task.phase = .dropping entry stale)
    (hcond : s.PreemptsAll env (.session (.drop n))) : Excl env (s.drop n task entry stale) := by
  have hmsg := hcond task htask
  rw [hphase] at hmsg
  obtain ⟨u, hu⟩ := dropOldest_of_hasMessage hmsg
  unfold State.drop
  rw [hu]
  obtain ⟨chans, rfl⟩ := eq_of_dropOldestQueuedMessage hu
  have hleaves : LeavesSessions s { s with chans := chans } := ⟨rfl, rfl, rfl, Or.inl rfl⟩
  refine (h.leaves hleaves).continuePass htask (by rw [hphase]; rfl) fun e _ hpend => Or.inr ?_
  rw [hphase] at hpend
  exact hpend

/-- The second attempt: under the condition it succeeds. -/
theorem Excl.retry (h : Excl env s) (htask : s.tasks[n]? = some task) {entry : RelayEntry}
    {stale : List RelayEntry} (hphase : task.phase = .retrying entry stale)
    (hcond : s.PreemptsAll env (.session (.retry n))) : Excl env (s.retry n task entry stale) := by
  have hroom := hcond task htask
  rw [hphase] at hroom
  obtain ⟨u, hu⟩ := enqueue_of_hasRoom (preemptMessage task entry) .hub hroom
  unfold State.retry
  rw [hu, Option.getD_some]
  have hleaves := leavesSessions_enqueue hu
  have htask' : u.tasks[n]? = some task := by
    rw [hleaves.tasks]
    exact htask
  refine (h.leaves hleaves).continuePass htask' (by rw [hphase]; rfl) fun e _ hpend => ?_
  rw [hphase] at hpend
  rcases hpend with rfl | hrest
  · exact Or.inl (closedSinceSet_of_enqueue _ hu)
  · exact Or.inr hrest

/-- The end of a pass: nothing is left to close. -/
theorem Excl.passDone (h : Excl env s) (htask : s.tasks[n]? = some task)
    (hphase : task.phase = .closing []) : Excl env (s.setTask n task.afterSet) := by
  refine h.continuePass htask (by rw [hphase]; rfl) fun e _ hpend => ?_
  rw [hphase] at hpend
  exact absurd hpend (List.not_mem_nil)

/-- A failed upgrade: the attach was not going to close any relay. -/
theorem Excl.upgradeFail (h : Excl env s) (htask : s.tasks[n]? = some task)
    (hphase : task.phase = .upgrading) :
    Excl env (s.setTask n { task with phase := .finished }) := by
  refine h.moveTask htask rfl (fun _ hfin => absurd rfl hfin) (fun _ hc => by cases hc)
    fun entry _ _ hpend => ?_
  rw [hphase] at hpend
  exact absurd hpend id

/-- **Registering** an attach, which is committed to the active key. -/
theorem Excl.register (h : Excl env s) (htask : s.tasks[n]? = some task)
    (hphase : task.phase = .upgrading) (hattach : task.isAttach = true) {relayID : Str} :
    Excl env (s.register n task relayID) := by
  have hmem := List.mem_of_getElem? htask
  have hrobot := (h.robots task hmem).1
  have hkey := h.keys task hmem (by rw [hphase]; simp) (by rw [hphase]; simp)
  have hcom := h.committed task hmem hattach (by rw [hphase]; rfl)
  have hadd : Excl env { s with
      relays := s.removeRelay (trimSpace relayID) ++
        [(trimSpace relayID, ⟨trimSpace task.robotID, trimSpace task.sessionKey, s.chans.length⟩)]
      chans := s.chans ++ [[]] } := by
    refine ⟨h.robots, h.keys, h.active, fun entry hentry => ?_, h.committed,
      fun entry hentry key hactive => ?_⟩
    · rcases List.mem_append.mp hentry with hold | hnew
      · exact h.relays entry (List.mem_filter.mp hold).1
      · rw [List.mem_singleton.mp hnew]
        exact ⟨trimSpace_trimSpace _, trimSpace_trimSpace _⟩
    · rcases List.mem_append.mp hentry with hold | hnew
      · exact h.covered entry (List.mem_filter.mp hold).1 key hactive
      · rw [List.mem_singleton.mp hnew] at hactive ⊢
        simp only [hrobot, hkey.1] at hactive ⊢
        exact Or.inl (hcom key hactive)
  refine hadd.moveTask htask rfl (fun _ _ => hkey) (fun _ hc => by cases hc)
    fun entry _ _ hpend => ?_
  rw [hphase] at hpend
  exact absurd hpend id

/-- Unregistering and finishing keep the invariant. -/
theorem Excl.unregister (h : Excl env s) (htask : s.tasks[n]? = some task) {relayID : Str}
    {ch : Nat}
    (hphase : task.phase = .registered relayID ch) : Excl env (s.unregister n task relayID) := by
  have hremove : Excl env { s with relays := s.removeRelay relayID } :=
    ⟨h.robots, h.keys, h.active, fun entry hentry => h.relays entry (List.mem_filter.mp hentry).1,
      h.committed, fun entry hentry => h.covered entry (List.mem_filter.mp hentry).1⟩
  refine hremove.moveTask htask rfl (fun _ hfin => absurd rfl hfin) (fun _ hc => by cases hc)
    fun entry _ _ hpend => ?_
  rw [hphase] at hpend
  exact absurd hpend id

/-- Clearing the active session keeps the invariant. -/
theorem Excl.clear (h : Excl env s) {robotID sessionKey : Str} :
    Excl env (s.clearActiveSessionIfMatch robotID sessionKey) := by
  exact ⟨h.robots, h.keys, fun r key hk => h.active r key (ActiveSessions.eq_some_of_clear hk),
    h.relays,
    fun task hmem ha hc key hk =>
      h.committed task hmem ha hc key (ActiveSessions.eq_some_of_clear hk),
    fun entry hentry key hk => h.covered entry hentry key (ActiveSessions.eq_some_of_clear hk)⟩

/-- **Session tasks** keep the invariant under the condition. -/
theorem Excl.sessionStep {a : SessionStep} (h : Excl env s)
    (hcond : s.PreemptsAll env (.session a)) (hstep : s.sessionStep env a = some t) :
    Excl env t := by
  cases sessionMove_of_sessionStep hstep with
  | attach hvalid => exact h.newTask ⟨trimSpace_trimSpace _, hvalid.1⟩ (Or.inl rfl) rfl
  | activate hvalid =>
    exact h.newTask ⟨trimSpace_trimSpace _, hvalid.1⟩
      (Or.inr ⟨trimSpace_trimSpace _, hvalid.2⟩) rfl
  | clear => exact h.clear
  | decide htask hphase => exact h.decideSession htask hphase
  | set htask hphase => exact h.set htask hphase hcond
  | scan htask hphase => exact h.scan htask hphase
  | close htask hphase hentry => exact h.close htask hphase hentry
  | drop htask hphase => exact h.drop htask hphase hcond
  | retry htask hphase => exact h.retry htask hphase hcond
  | passDone htask hphase => exact h.passDone htask hphase
  | upgradeFail htask hphase => exact h.upgradeFail htask hphase
  | register htask hready => exact h.register htask hready.2.1 hready.1
  | consume htask hphase hdrop =>
    obtain ⟨chans, rfl⟩ := eq_of_dropOldestQueuedMessage hdrop
    exact h.leaves ⟨rfl, rfl, rfl, Or.inl rfl⟩
  | unregister htask hphase => exact h.unregister htask hphase

end State

/-- **Attach is exclusive when no session change passes an attach.** In every run that meets the
condition, in every state in which a robot with an active session is quiet, each relay of the robot
carries the active key or has been sent a close since the session was set. -/
theorem exclusive_of_preemptsAll (env : Env) (as : List Step) (s : State)
    (hrun : (machine env).run (machine env).init as = some s)
    (hcond : (machine env).Along (State.PreemptsAll env) (machine env).init as) :
    s.Exclusive env := by
  have hinit : State.Excl env (machine env).init := by
    constructor <;> simp [machine]
  refine ((machine env).along_invariant (fun s a t hs hP hstep => ?_) hinit hcond hrun).exclusive
  cases a with
  | agent a => exact hs.leaves (State.leavesSessions_agentStep hstep)
  | session a => exact hs.sessionStep hP hstep

/-- A client attaches under session `x`; then signaling makes `y` the active session and the relay
is preempted. -/
def preemptSteps : List Step :=
  [.agent (.agentConnect .relay robotA ['p']),
    .session (.attach robotA ['u'] ['x'] 80), .session (.decide 0 fun _ => none),
    .session (.set 0), .session (.scan 0), .session (.passDone 0), .session (.register 0 ['1']),
    .session (.activate robotA ['y']), .session (.set 1), .session (.scan 1),
    .session (.close 1 0), .session (.passDone 1)]

/-- The condition is met by a run in which a relay is preempted. -/
theorem exclusive_preemptSteps :
    ∃ s, (machine sampleEnv).run (machine sampleEnv).init preemptSteps = some s ∧
      s.activeSession robotA = ['y'] ∧ s.relays = [(['1'], ⟨robotA, ['x'], 0⟩)] ∧
      s.Exclusive sampleEnv := by
  obtain ⟨s, hs, hactive, hrelays⟩ := (machine sampleEnv).exists_run preemptSteps
    (fun s => s.activeSession robotA = ['y'] ∧ s.relays = [(['1'], ⟨robotA, ['x'], 0⟩)]) (by decide)
  exact ⟨s, hs, hactive, hrelays, exclusive_of_preemptsAll sampleEnv _ s hs (by decide)⟩

/-- While `x` is active a client decides to attach under it. Before it registers, signaling makes
`y` the active session, and its pass finds no relay to close. -/
def latecomerSteps : List Step :=
  [.agent (.agentConnect .relay robotA ['p']),
    .session (.activate robotA ['x']), .session (.set 0), .session (.scan 0),
    .session (.passDone 0), .session (.attach robotA ['u'] ['x'] 80),
    .session (.decide 1 fun _ => none), .session (.activate robotA ['y']), .session (.set 2),
    .session (.scan 2), .session (.passDone 2), .session (.register 1 ['1'])]

instance (s : State) (robotID : Str) : Decidable (s.Quiet robotID) :=
  inferInstanceAs (Decidable (∀ task ∈ s.tasks, _))

/-- **A stale client can stay attached**: the robot is quiet, `y` is its active session, and a
relay of session `x` is registered that was never sent a close. -/
theorem exclusive_fails :
    ∃ as s, (machine sampleEnv).run (machine sampleEnv).init as = some s ∧
      s.activeSession robotA = ['y'] ∧ s.Quiet robotA ∧
      (['1'], ⟨robotA, ['x'], 0⟩) ∈ s.relays ∧ s.log.all (fun e => e matches .sessionSet ..) ∧
      ¬ s.Exclusive sampleEnv := by
  obtain ⟨s, hs, hactive, hquiet, hrelay, hlog, hclosed⟩ :=
    (machine sampleEnv).exists_run latecomerSteps
    (fun s => s.activeSession robotA = ['y'] ∧ s.Quiet robotA ∧
      (['1'], ⟨robotA, ['x'], 0⟩) ∈ s.relays ∧ s.log.all (fun e => e matches .sessionSet ..) ∧
      closedSinceSet robotA 0 s.log = false) (by decide)
  refine ⟨_, s, hs, hactive, hquiet, hrelay, hlog, fun hexcl => ?_⟩
  rcases hexcl robotA (by rw [hactive]; decide) hquiet _ hrelay rfl with hkey | hsent
  · rw [hactive] at hkey
    exact absurd hkey (by decide)
  · rw [hclosed] at hsent
    cases hsent

end Roboat.Relay
