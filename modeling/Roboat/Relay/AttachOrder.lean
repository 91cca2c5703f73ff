import Roboat.Relay.AttachRequests
import Roboat.Relay.Exclusive

/-! # Competing sessions

Requests of one user for one robot compete for its active session. Each one reads the active session
and decides against it (`decide`), and writes its own key later, under the lock again (`set`); the
handlers run concurrently. A decision is always for a session whose snapshot has a later reference
time than the active one *that was read*. When another request writes in between, the key that is
written last need not be the later one: two sessions can take the robot from each other in turn
(`attaches_disordered`).

When no write falls between another request's read and its write, the reference time grows with
every change (`attaches_ordered`). A request whose websocket upgrade fails is refused after it has
changed the session, so the upgrades are to succeed as well. -/

namespace Roboat.Relay

/-- The reference time of a session key. -/
def sessionTime (parseTime : Str → Option Int) (evidence : Evidence) (key : Str) : Int :=
  ((evidence key).map (attachSessionRefTime parseTime)).getD 0

/-- What requests for a robot do to its session and to the relay queues. -/
inductive AttachEvent where
  /-- Request `n` changes the robot's active session to this key. -/
  | changed (n : Nat) (sessionKey : Str)
  /-- The preemption of task `n` works on a relay queue. -/
  | queued (n : Nat)
  /-- Request `n` is refused, by the session decision or by a failed upgrade. -/
  | refused (n : Nat)
  deriving DecidableEq, Repr

/-- The keys that become active, in their order. -/
def newKeys (events : List AttachEvent) : List Str :=
  events.filterMap fun event => match event with
    | .changed _ key => some key
    | .queued _ | .refused _ => none

/-- The event of a step, in the state it is taken in. -/
def State.attachEvent (env : Env) (robotID : Str) (s : State) : Step → Option AttachEvent
  | .session (.decide n evidence) => s.tasks[n]?.bind fun task =>
    if task.robotID = trimSpace robotID then
      match decideAttach env.fold env.parseTime evidence (s.activeSession task.robotID)
          task.robotID task.userID task.sessionKey with
      | .reject _ => some (.refused n)
      | _ => none
    else none
  | .session (.set n) => s.tasks[n]?.bind fun task =>
    if task.robotID = trimSpace robotID ∧ s.changesSession task then
      some (.changed n task.sessionKey)
    else none
  | .session (.close n _) => some (.queued n)
  | .session (.drop n) => some (.queued n)
  | .session (.retry n) => some (.queued n)
  | .session (.upgradeFail n) => s.tasks[n]?.bind fun task =>
    if task.robotID = trimSpace robotID then some (.refused n) else none
  | _ => none

/-- The steps of a hub in which only requests of one user, on a fixed evidence store, set the active
session of the robot. -/
def Step.OfRequests (evidence : Evidence) (robotID userID : Str) : Step → Prop
  | .session (.attach robot user _ _) => trimSpace robot = trimSpace robotID → user = userID
  | .session (.decide _ used) => used = evidence
  | .session (.activate robot _) => trimSpace robot ≠ trimSpace robotID
  | .session (.clear robot _) => trimSpace robot ≠ trimSpace robotID
  | _ => True

/-- No request for the robot is before its write. -/
def State.Idle (s : State) (robotID : Str) : Prop :=
  ∀ task ∈ s.tasks, task.robotID = trimSpace robotID →
    task.phase ≠ .deciding ∧ task.phase ≠ .setting

instance (s : State) (robotID : Str) : Decidable (s.Idle robotID) :=
  inferInstanceAs (Decidable (∀ task ∈ s.tasks, _))

/-- **The condition**: when a request writes the active session of the robot, no other request is
between its read and its write; and no websocket upgrade of a request for the robot fails. -/
def State.Undisturbed (robotID : Str) (s : State) : Step → Prop
  | .session (.set n) => ∀ task ∈ s.tasks[n]?, task.robotID = trimSpace robotID →
      ∀ m < s.tasks.length, m ≠ n → ∀ other ∈ s.tasks[m]?, other.robotID = trimSpace robotID →
        other.phase ≠ .setting
  | .session (.upgradeFail n) => ∀ task ∈ s.tasks[n]?, task.robotID ≠ trimSpace robotID
  | _ => True

instance (robotID : Str) (s : State) : ∀ a, Decidable (s.Undisturbed robotID a)
  | .session (.set n) =>
    inferInstanceAs (Decidable (∀ task ∈ s.tasks[n]?, task.robotID = trimSpace robotID →
      ∀ m < s.tasks.length, m ≠ n → ∀ other ∈ s.tasks[m]?, other.robotID = trimSpace robotID →
        other.phase ≠ .setting))
  | .session (.upgradeFail n) =>
    inferInstanceAs (Decidable (∀ task ∈ s.tasks[n]?, task.robotID ≠ trimSpace robotID))
  | .agent _ | .session (.attach ..) | .session (.decide ..) | .session (.activate ..)
  | .session (.scan _) | .session (.close ..) | .session (.drop _) | .session (.retry _)
  | .session (.passDone _) | .session (.register ..) | .session (.consume _)
  | .session (.unregister _) | .session (.clear ..) => isTrue trivial

/-- **No ping-pong**, along a run from the active session `start` to a state with the active session
`active`. -/
structure AttachesOrdered (parseTime : Str → Option Int) (evidence : Evidence) (start active : Str)
    (events : List AttachEvent) : Prop where
  /-- The values of the active session: the first one and the changes. -/
  current : active = (newKeys events).getLast?.getD start
  /-- Every change is to a later session. -/
  increasing : (start :: newKeys events).Pairwise fun earlier later =>
    sessionTime parseTime evidence earlier < sessionTime parseTime evidence later
  /-- No key becomes active twice. -/
  distinct : (start :: newKeys events).Nodup
  /-- A request that is refused changes neither the session nor a queue. -/
  refused : ∀ n, .refused n ∈ events →
    (∀ key, .changed n key ∉ events) ∧ .queued n ∉ events

/-! ## One decision -/

section Decision

variable {fold : Char → Char} {parseTime : Str → Option Int} {evidence : Evidence}
  {robotID userID active key : Str}

/-- The reference time of a key whose snapshot counts is the snapshot's. -/
theorem sessionTime_of_snapshot {snapshot : BootstrapSession} (hkey : trimSpace key = key)
    (h : attachSessionSnapshot fold evidence key robotID userID = some snapshot) :
    sessionTime parseTime evidence key = attachSessionRefTime parseTime snapshot := by
  obtain ⟨-, -, hfound, -⟩ := attachSessionSnapshot_eq_some_iff.mp h
  rw [hkey] at hfound
  rw [sessionTime, hfound]
  rfl

/-- A promotion against a session with a snapshot is to a later one. -/
theorem sessionTime_lt_of_promote (hactive : trimSpace active = active)
    (hkey : trimSpace key = key)
    (hmatch : (attachSessionSnapshot fold evidence active robotID userID).isSome)
    (h : shouldPromoteAttachSession fold parseTime evidence active key robotID userID = true) :
    sessionTime parseTime evidence active < sessionTime parseTime evidence key := by
  obtain ⟨old, hold⟩ := Option.isSome_iff_exists.mp hmatch
  unfold shouldPromoteAttachSession at h
  cases hnew : attachSessionSnapshot fold evidence key robotID userID with
  | none =>
    rw [hnew] at h
    cases h
  | some new =>
    rw [hnew, hold] at h
    simp only at h
    split_ifs at h
    rw [sessionTime_of_snapshot hactive hold, sessionTime_of_snapshot hkey hnew]
    exact of_decide_eq_true h

/-- **One decision** against an active session with a matching snapshot adopts only a key that has a
matching snapshot too, with a later time. -/
theorem later_of_adopt {sessionKey : Str} (hactive : trimSpace active = active)
    (hmatch : (attachSessionSnapshot fold evidence active robotID userID).isSome)
    (h : decideAttach fold parseTime evidence active robotID userID sessionKey = .adopt key) :
    trimSpace key = key ∧ (attachSessionSnapshot fold evidence key robotID userID).isSome ∧
      sessionTime parseTime evidence active < sessionTime parseTime evidence key := by
  obtain ⟨rfl, -, hcase⟩ := decideAttach_eq_adopt_iff.mp h
  rw [hactive] at hcase
  rcases hcase with hnone | ⟨-, ⟨snapshot, hsnap, -⟩, hpromote⟩
  · -- a blank key has no snapshot
    obtain ⟨snapshot, hsnap⟩ := Option.isSome_iff_exists.mp hmatch
    have hblank := (attachSessionSnapshot_eq_some_iff.mp hsnap).1
    rw [hactive] at hblank
    exact absurd hnone hblank
  · exact ⟨trimSpace_trimSpace _, Option.isSome_iff_exists.mpr ⟨snapshot, hsnap⟩,
      sessionTime_lt_of_promote hactive (trimSpace_trimSpace _) hmatch hpromote⟩

end Decision

/-! ## The invariant -/

/-- The requests of one user for a robot, on a fixed evidence store, and the active session that
they find. -/
structure Contest where
  env : Env
  evidence : Evidence
  robotID : Str
  userID : Str
  start : Str

namespace Contest

variable (c : Contest)

/-- The reference time of a session key. -/
def time (key : Str) : Int := sessionTime c.env.parseTime c.evidence key

/-- The key has a snapshot that matches the robot and the user. -/
def Matches (key : Str) : Prop :=
  (attachSessionSnapshot c.env.fold c.evidence key (trimSpace c.robotID) c.userID).isSome

/-- A key to which the active session may change. -/
def Later (active key : Str) : Prop :=
  trimSpace key = key ∧ c.Matches key ∧ c.time active < c.time key

end Contest

/-- What holds along a run: the active session has a matching snapshot and is the latest so far, and
what a request that is about to write has read is still the active session. -/
structure SessionOrder (c : Contest) (events : List AttachEvent) (active : Str)
    (tasks : List SessionTask) : Prop where
  matching : c.Matches active
  current : active = (newKeys events).getLast?.getD c.start
  latest : ∀ key ∈ c.start :: newKeys events, c.time key ≤ c.time active
  sorted : (c.start :: newKeys events).Pairwise fun earlier later => c.time earlier < c.time later
  deciding : ∀ (n : Nat) task, tasks[n]? = some task → task.robotID = trimSpace c.robotID →
    task.phase = .deciding → task.userID = c.userID
  setting : ∀ (n : Nat) task, tasks[n]? = some task → task.robotID = trimSpace c.robotID →
    task.phase = .setting → c.Later active task.sessionKey
  /-- A task that has changed the session or a queue has decided. -/
  touched : ∀ n, (∃ key, .changed n key ∈ events) ∨ .queued n ∈ events →
    ∃ task, tasks[n]? = some task ∧ task.phase ≠ .deciding
  refused : ∀ n, .refused n ∈ events →
    (∃ task, tasks[n]? = some task ∧ task.phase = .finished) ∧
      (∀ key, .changed n key ∉ events) ∧ .queued n ∉ events

namespace SessionOrder

variable {c : Contest} {events : List AttachEvent} {active : Str} {tasks : List SessionTask}
  {n : Nat} {task : SessionTask}

/-- The invariant gives the order of the sessions. -/
theorem attachesOrdered (h : SessionOrder c events active tasks) :
    AttachesOrdered c.env.parseTime c.evidence c.start active events := by
  refine ⟨h.current, h.sorted, h.sorted.imp fun hlt heq => ?_, fun n hn => (h.refused n hn).2⟩
  rw [heq] at hlt
  exact Int.lt_irrefl _ hlt

/-- A step without an event. -/
theorem silent (h : SessionOrder c events active tasks) {event : Option AttachEvent}
    (hnone : event = none) : SessionOrder c (events ++ event.toList) active tasks := by
  rw [hnone, Option.toList_none, List.append_nil]
  exact h

/-- A task moves on, without an event. -/
theorem setTask (h : SessionOrder c events active tasks) (htask : tasks[n]? = some task)
    (hlive : task.phase ≠ .finished) (new : SessionTask) (hdecided : new.phase ≠ .deciding)
    (hsetting : new.robotID = trimSpace c.robotID → new.phase = .setting →
      c.Later active new.sessionKey) :
    SessionOrder c events active (tasks.set n new) where
  matching := h.matching
  current := h.current
  latest := h.latest
  sorted := h.sorted
  deciding m other hm hrobot hphase := by
    rcases Tasks.of_set hm with ⟨-, rfl⟩ | ⟨-, hold⟩
    · exact absurd hphase hdecided
    · exact h.deciding m other hold hrobot hphase
  setting m other hm hrobot hphase := by
    rcases Tasks.of_set hm with ⟨-, rfl⟩ | ⟨-, hold⟩
    · exact hsetting hrobot hphase
    · exact h.setting m other hold hrobot hphase
  touched m hm := Tasks.exists_set htask (fun _ _ => hdecided) (h.touched m hm)
  refused m hm := by
    obtain ⟨hfinished, hnone⟩ := h.refused m hm
    -- a task that is over does not move
    refine ⟨Tasks.exists_set htask (fun hsame hold => ?_) hfinished, hnone⟩
    exact absurd hold hlive

/-- A task moves on, past its decision and its write. -/
theorem moveOn (h : SessionOrder c events active tasks) (htask : tasks[n]? = some task)
    (hlive : task.phase ≠ .finished) (new : SessionTask)
    (hnew : new.phase ≠ .deciding ∧ new.phase ≠ .setting) :
    SessionOrder c events active (tasks.set n new) :=
  h.setTask htask hlive new hnew.1 fun _ hset => absurd hset hnew.2

/-- A task begins. -/
theorem newTask (h : SessionOrder c events active tasks) {new : SessionTask}
    (huser : new.robotID = trimSpace c.robotID → new.phase = .deciding ∧ new.userID = c.userID) :
    SessionOrder c events active (tasks ++ [new]) where
  matching := h.matching
  current := h.current
  latest := h.latest
  sorted := h.sorted
  deciding m other hm hrobot hphase := by
    rcases Tasks.of_append hm with ⟨-, rfl⟩ | ⟨-, hold⟩
    · exact (huser hrobot).2
    · exact h.deciding m other hold hrobot hphase
  setting m other hm hrobot hphase := by
    rcases Tasks.of_append hm with ⟨-, rfl⟩ | ⟨-, hold⟩
    · cases (huser hrobot).1.symm.trans hphase
    · exact h.setting m other hold hrobot hphase
  touched m hm := by
    obtain ⟨task, htask, hphase⟩ := h.touched m hm
    exact ⟨task, Tasks.append_of_some htask, hphase⟩
  refused m hm := by
    obtain ⟨⟨task, htask, hphase⟩, hnone⟩ := h.refused m hm
    exact ⟨⟨task, Tasks.append_of_some htask, hphase⟩, hnone⟩

/-- A task that is not over was not refused. -/
theorem ne_of_refused (h : SessionOrder c events active tasks) (htask : tasks[n]? = some task)
    (hlive : task.phase ≠ .finished) {m : Nat} (hm : .refused m ∈ events) : m ≠ n := by
  rintro rfl
  obtain ⟨⟨other, hother, hfinished⟩, -⟩ := h.refused m hm
  obtain rfl : task = other := Option.some.inj (htask.symm.trans hother)
  exact hlive hfinished

/-- A task that has decided and is not over works on a queue. -/
theorem queue (h : SessionOrder c events active tasks) (htask : tasks[n]? = some task)
    (hdecided : task.phase ≠ .deciding) (hlive : task.phase ≠ .finished) :
    SessionOrder c (events ++ [.queued n]) active tasks := by
  have hkeys : newKeys (events ++ [.queued n]) = newKeys events := by simp [newKeys]
  refine ⟨h.matching, hkeys ▸ h.current, hkeys ▸ h.latest, hkeys ▸ h.sorted, h.deciding, h.setting,
    fun m hm => ?_, fun m hm => ?_⟩
  · by_cases hmn : m = n
    · subst hmn
      exact ⟨task, htask, hdecided⟩
    · exact h.touched m (by simpa [hmn] using hm)
  · have hold : .refused m ∈ events := by simpa using hm
    obtain ⟨hfinished, hchanged, hqueued⟩ := h.refused m hold
    have hmn := h.ne_of_refused htask hlive hold
    exact ⟨hfinished, by simpa using hchanged, by simpa [hmn] using hqueued⟩

/-- The decision refuses a request. -/
theorem refuse (h : SessionOrder c events active tasks) (htask : tasks[n]? = some task)
    (hphase : task.phase = .deciding) :
    SessionOrder c (events ++ [.refused n]) active
      (tasks.set n { task with phase := .finished }) := by
  have hset := h.moveOn htask (by simp [hphase]) { task with phase := .finished } (by simp)
  have hkeys : newKeys (events ++ [.refused n]) = newKeys events := by simp [newKeys]
  -- before its decision it has done nothing
  have hnone : (∀ key, .changed n key ∉ events) ∧ .queued n ∉ events := by
    have huntouched : ¬ ((∃ key, .changed n key ∈ events) ∨ .queued n ∈ events) := by
      intro hm
      obtain ⟨other, hother, hdecided⟩ := h.touched n hm
      obtain rfl : task = other := Option.some.inj (htask.symm.trans hother)
      exact hdecided hphase
    obtain ⟨hchanged, hqueued⟩ := not_or.mp huntouched
    exact ⟨fun key hkey => hchanged ⟨key, hkey⟩, hqueued⟩
  refine ⟨h.matching, hkeys ▸ h.current, hkeys ▸ h.latest, hkeys ▸ h.sorted, hset.deciding,
    hset.setting, fun m hm => hset.touched m (by simpa using hm), fun m hm => ?_⟩
  rcases List.mem_append.mp hm with hold | hnew
  · obtain ⟨hfinished, hchanged, hqueued⟩ := hset.refused m hold
    exact ⟨hfinished, by simpa using hchanged, by simpa using hqueued⟩
  · obtain rfl : m = n := by simpa using hnew
    exact ⟨⟨_, Tasks.set_self htask, rfl⟩, by simpa using hnone.1, by simpa using hnone.2⟩

/-- **A write**: the request was decided against the session that is active still, and no other one
is about to write. -/
theorem write (h : SessionOrder c events active tasks) (htask : tasks[n]? = some task)
    (hrobot : task.robotID = trimSpace c.robotID) (hphase : task.phase = .setting)
    (halone : ∀ m < tasks.length, m ≠ n → ∀ other ∈ tasks[m]?,
      other.robotID = trimSpace c.robotID → other.phase ≠ .setting) :
    SessionOrder c (events ++ [.changed n task.sessionKey]) task.sessionKey
      (tasks.set n { task with phase := .scanning }) := by
  obtain ⟨-, hmatch, hlt⟩ := h.setting n task htask hrobot hphase
  have hkeys : newKeys (events ++ [.changed n task.sessionKey])
      = newKeys events ++ [task.sessionKey] := by
    simp [newKeys]
  have hlive : task.phase ≠ .finished := by simp [hphase]
  have hset := h.moveOn htask hlive { task with phase := .scanning } (by simp)
  refine ⟨hmatch, by rw [hkeys, List.getLast?_concat]; rfl, ?_, ?_, hset.deciding,
    fun m other hm hother hsetting => ?_, fun m hm => ?_, fun m hm => ?_⟩
  · rw [hkeys, ← List.cons_append]
    refine Tasks.forall_mem_append (fun key hkey => ?_) (Int.le_refl _)
    exact Int.le_trans (h.latest key hkey) (Int.le_of_lt hlt)
  · rw [hkeys, ← List.cons_append]
    refine List.pairwise_append.mpr
      ⟨h.sorted, List.pairwise_singleton _ _, fun key hkey later hlater => ?_⟩
    rw [List.mem_singleton.mp hlater]
    exact Int.lt_of_le_of_lt (h.latest key hkey) hlt
  · rcases Tasks.of_set hm with ⟨-, rfl⟩ | ⟨hne, hold⟩
    · cases hsetting
    · have hlen : m < tasks.length := (List.getElem?_eq_some_iff.mp hold).1
      exact absurd hsetting (halone m hlen hne other hold hother)
  · by_cases hmn : m = n
    · subst hmn
      exact ⟨_, Tasks.set_self htask, by simp⟩
    · exact hset.touched m (by simpa [hmn] using hm)
  · have hold : .refused m ∈ events := by simpa using hm
    have hmn := h.ne_of_refused htask hlive hold
    obtain ⟨hfinished, hchanged, hqueued⟩ := hset.refused m hold
    exact ⟨hfinished, by simpa [hmn] using hchanged, by simpa using hqueued⟩

end SessionOrder

/-! ## Steps -/

section Steps

variable {c : Contest} {robotID : Str} {events : List AttachEvent} {s t : State} {n : Nat}
  {task : SessionTask}

/-- The active session of a robot is one entry of the map. -/
theorem activeSession_congr
    (h : t.activeSessions (trimSpace robotID) = s.activeSessions (trimSpace robotID)) :
    t.activeSession robotID = s.activeSession robotID := by
  unfold State.activeSession ActiveSessions.activeSession
  rw [h]

/-- Clearing the session of another robot leaves it. -/
theorem activeSession_clear {robot sessionKey : Str}
    (hother : trimSpace robot ≠ trimSpace robotID) :
    (s.clearActiveSessionIfMatch robot sessionKey).activeSession robotID
      = s.activeSession robotID :=
  activeSession_congr (ActiveSessions.clearActiveSessionIfMatch_of_ne hother.symm)

namespace SessionOrder

/-- The session decision of a request. -/
theorem decide (h : SessionOrder c events (s.activeSession c.robotID) s.tasks)
    (htask : s.tasks[n]? = some task) (hphase : task.phase = .deciding) :
    SessionOrder c
      (events ++ (s.attachEvent c.env c.robotID (.session (.decide n c.evidence))).toList)
      ((s.decideSession c.env n task c.evidence).activeSession c.robotID)
      (s.decideSession c.env n task c.evidence).tasks := by
  have hlive : task.phase ≠ .finished := by simp [hphase]
  unfold State.attachEvent State.decideSession
  simp only [htask, Option.bind_some]
  by_cases hrobot : task.robotID = trimSpace c.robotID
  · rw [if_pos hrobot]
    cases hdecide : decideAttach c.env.fold c.env.parseTime c.evidence
        (s.activeSession task.robotID) task.robotID task.userID task.sessionKey with
    | reject error => exact h.refuse htask hphase
    | keep key => exact (h.silent rfl).moveOn htask hlive _ (by simp)
    | adopt key =>
      refine (h.silent rfl).setTask htask hlive _ (by simp) fun _ _ => ?_
      rw [hrobot, State.activeSession_trimSpace, h.deciding n task htask hrobot hphase] at hdecide
      exact later_of_adopt (s.trimSpace_activeSession c.robotID) h.matching hdecide
  · rw [if_neg hrobot]
    cases decideAttach c.env.fold c.env.parseTime c.evidence (s.activeSession task.robotID)
        task.robotID task.userID task.sessionKey <;>
      exact (h.silent rfl).setTask htask hlive _ (by simp) fun hsame => absurd hsame hrobot

/-- A later session is another one, so the write of a request changes the active session. -/
theorem changesSession_of_later
    (hrobot : task.robotID = trimSpace c.robotID) (hblank : trimSpace c.robotID ≠ [])
    (hlt : c.time (s.activeSession c.robotID) < c.time task.sessionKey) :
    s.changesSession task = true := by
  have hactive : s.activeSession c.robotID ≠ task.sessionKey := by
    intro hsame
    rw [hsame] at hlt
    exact Int.lt_irrefl _ hlt
  unfold State.activeSession ActiveSessions.activeSession at hactive
  rw [if_neg hblank] at hactive
  rw [State.changesSession, hrobot]
  exact decide_eq_true hactive

/-- The write of a request, or of a task for another robot. -/
theorem set (h : SessionOrder c events (s.activeSession c.robotID) s.tasks)
    (hcond : s.Undisturbed c.robotID (.session (.set n))) (htask : s.tasks[n]? = some task)
    (hphase : task.phase = .setting) :
    SessionOrder c (events ++ (s.attachEvent c.env c.robotID (.session (.set n))).toList)
      ((s.set n task).activeSession c.robotID) (s.set n task).tasks := by
  have hlive : task.phase ≠ .finished := by simp [hphase]
  unfold State.attachEvent
  simp only [htask, Option.bind_some]
  by_cases hrobot : task.robotID = trimSpace c.robotID
  · obtain ⟨hkey, -, hlt⟩ := h.setting n task htask hrobot hphase
    obtain ⟨snapshot, hsnap⟩ := Option.isSome_iff_exists.mp h.matching
    have hblank : trimSpace c.robotID ≠ [] := by
      have hne := (attachSessionSnapshot_eq_some_iff.mp hsnap).2.1
      rwa [trimSpace_trimSpace] at hne
    have hchanges := changesSession_of_later hrobot hblank hlt
    have hset : (s.set n task).activeSession c.robotID = task.sessionKey := by
      rw [State.set, if_pos hchanges]
      unfold State.activeSession ActiveSessions.activeSession
      rw [if_neg hblank, ← hrobot]
      simp [State.setTask, hkey]
    rw [if_pos ⟨hrobot, hchanges⟩, hset, State.set, if_pos hchanges]
    exact h.write htask hrobot hphase (hcond task htask hrobot)
  · rw [if_neg (fun hboth => hrobot hboth.1)]
    have hsame : (s.set n task).activeSession c.robotID = s.activeSession c.robotID := by
      unfold State.set
      split_ifs <;> exact activeSession_congr (Function.update_of_ne (Ne.symm hrobot) _ _)
    rw [hsame, State.set]
    split_ifs
    · exact (h.silent rfl).moveOn htask hlive _ (by simp)
    · refine (h.silent rfl).setTask htask hlive _ ?_ fun hother => absurd hother hrobot
      simp only [SessionTask.afterSet]
      split_ifs <;> simp

/-- The preemption pass of a task: the queues change, and the task moves on in its pass. -/
theorem pass (h : SessionOrder c events (s.activeSession c.robotID) s.tasks)
    (htask : s.tasks[n]? = some task) (hlive : task.phase ≠ .finished) (phase : SessionPhase)
    (hpass : phase.inPass = true) (hactive : t.activeSessions = s.activeSessions)
    (htasks : t.tasks = s.tasks.set n { task with phase := phase }) :
    SessionOrder c (events ++ [.queued n]) (t.activeSession c.robotID) t.tasks := by
  rw [activeSession_congr (congrFun hactive _), htasks]
  have hphase : phase ≠ .deciding ∧ phase ≠ .setting ∧ phase ≠ .finished := by
    cases phase <;> simp_all [SessionPhase.inPass]
  exact (h.setTask htask hlive _ hphase.1 fun _ hset => absurd hset hphase.2.1).queue
    (Tasks.set_self htask) hphase.1 hphase.2.2

/-- **One step under the condition.** -/
theorem step {a : Step} (h : SessionOrder c events (s.activeSession c.robotID) s.tasks)
    (hscope : a.OfRequests c.evidence c.robotID c.userID) (hcond : s.Undisturbed c.robotID a)
    (hstep : s.step c.env a = some t) :
    SessionOrder c (events ++ (s.attachEvent c.env c.robotID a).toList)
      (t.activeSession c.robotID) t.tasks := by
  cases a with
  | agent a =>
    have hleaves := State.leavesSessions_agentStep hstep
    rw [activeSession_congr (congrFun hleaves.activeSessions _), hleaves.tasks]
    exact h.silent rfl
  | session a =>
    cases State.sessionMove_of_sessionStep hstep with
    | attach => exact (h.silent rfl).newTask fun hrobot => ⟨rfl, hscope hrobot⟩
    | activate => exact (h.silent rfl).newTask fun hrobot => absurd hrobot hscope
    | decide htask hphase =>
      obtain rfl : _ = c.evidence := hscope
      exact h.decide htask hphase
    | set htask hphase => exact h.set hcond htask hphase
    | scan htask hphase | unregister htask hphase =>
      exact (h.silent rfl).moveOn htask (by simp [hphase]) _ (by simp)
    | @close n m task stale entry htask hphase hentry =>
      have hlive : task.phase ≠ .finished := by simp [hphase]
      unfold State.close
      split
      · rename_i u henq
        have hleaves := State.leavesSessions_enqueue henq
        exact h.pass htask hlive (.closing (stale.eraseIdx m)) rfl hleaves.activeSessions
          (by rw [State.setTask, hleaves.tasks])
      · exact h.pass htask hlive (.dropping entry (stale.eraseIdx m)) rfl rfl rfl
    | @drop n task entry stale htask hphase =>
      have hlive : task.phase ≠ .finished := by simp [hphase]
      unfold State.drop
      split
      · rename_i u hdrop
        obtain ⟨chans, rfl⟩ := State.eq_of_dropOldestQueuedMessage hdrop
        exact h.pass htask hlive (.retrying entry stale) rfl rfl rfl
      · exact h.pass htask hlive (.closing stale) rfl rfl rfl
    | @retry n task entry stale htask hphase =>
      have hlive : task.phase ≠ .finished := by simp [hphase]
      unfold State.retry
      cases henq : s.enqueue entry.2 (State.preemptMessage task entry) .hub with
      | none => exact h.pass htask hlive (.closing stale) rfl rfl rfl
      | some u =>
        have hleaves := State.leavesSessions_enqueue henq
        exact h.pass htask hlive (.closing stale) rfl hleaves.activeSessions
          (by rw [Option.getD_some, State.setTask, hleaves.tasks])
    | @passDone n task htask hphase =>
      have hafter : task.afterSet.phase ≠ .deciding ∧ task.afterSet.phase ≠ .setting := by
        simp only [SessionTask.afterSet]
        split_ifs <;> simp
      exact (h.silent rfl).moveOn htask (by simp [hphase]) _ hafter
    | @upgradeFail n task htask hphase =>
      refine (h.silent ?_).moveOn htask (by simp [hphase]) _ (by simp)
      simp only [State.attachEvent, htask, Option.bind_some, if_neg (hcond task htask)]
    | register htask hready =>
      exact (h.silent rfl).moveOn htask (by simp [hready.2.1]) _ (by simp)
    | consume _ _ hdrop =>
      obtain ⟨chans, rfl⟩ := State.eq_of_dropOldestQueuedMessage hdrop
      exact h.silent rfl
    | clear =>
      rw [activeSession_clear hscope]
      exact h.silent rfl

end SessionOrder

end Steps

/-- **No ping-pong without a write in between.** From an active session with a matching snapshot and
no request under way, in every run in which only requests of the user set the robot's session and
the condition holds, every change of the active session is to a key with a later reference time, so
no key becomes active twice; and a request that is refused changes neither the session nor a relay
queue. -/
theorem attaches_ordered (env : Env) (evidence : Evidence) (robotID userID : Str) (s t : State)
    (steps : List Step) (hidle : s.Idle robotID)
    (hmatch : (attachSessionSnapshot env.fold evidence (s.activeSession robotID) robotID
      userID).isSome)
    (hscope : ∀ a ∈ steps, a.OfRequests evidence robotID userID)
    (hcond : (machine env).Along (State.Undisturbed robotID) s steps)
    (hrun : (machine env).run s steps = some t) :
    AttachesOrdered env.parseTime evidence (s.activeSession robotID) (t.activeSession robotID)
      ((machine env).trace (State.attachEvent env robotID) s steps) := by
  let c : Contest := ⟨env, evidence, robotID, userID, s.activeSession robotID⟩
  have hstart : SessionOrder c [] (s.activeSession robotID) s.tasks := by
    refine ⟨?_, rfl, ?_, List.pairwise_singleton _ _, fun n task htask hrobot hphase => ?_,
      fun n task htask hrobot hphase => ?_, fun n hn => ?_, fun n hn => (nomatch hn)⟩
    · simpa only [Contest.Matches, attachSessionSnapshot, trimSpace_trimSpace] using hmatch
    · intro key hkey
      exact Int.le_of_eq (congrArg _ (List.mem_singleton.mp hkey))
    · exact absurd hphase (hidle task (List.mem_of_getElem? htask) hrobot).1
    · exact absurd hphase (hidle task (List.mem_of_getElem? htask) hrobot).2
    · rcases hn with ⟨key, hkey⟩ | hqueued
      · cases hkey
      · cases hqueued
  have halong := (machine env).along_and ((machine env).along_of_forall hscope s) hcond
  have hend : SessionOrder c ((machine env).trace (State.attachEvent env robotID) s steps)
      (t.activeSession robotID) t.tasks :=
    (machine env).along_trace (I := fun events u => SessionOrder c events
      (u.activeSession robotID) u.tasks) hstart
      (fun events u a v h hP hstep => h.step hP.1 hP.2 hstep) halong hrun
  exact hend.attachesOrdered

/-- The robot's relay connects, and signaling makes `s1` its active session. -/
def onlineSteps : List Step :=
  [.agent (.agentConnect .relay robotA ['p']), .session (.activate robotA "s1".toList),
    .session (.set 0), .session (.scan 0), .session (.passDone 0)]

/-- The hub after these steps. -/
def attachedHub : State :=
  ((machine digitEnv).run (machine digitEnv).init onlineSteps).getD (machine digitEnv).init

/-- It is a state of the hub. -/
theorem run_onlineSteps :
    (machine digitEnv).run (machine digitEnv).init onlineSteps = some attachedHub := by
  have hsome : ((machine digitEnv).run (machine digitEnv).init onlineSteps).isSome = true := by
    decide
  obtain ⟨s, hs⟩ := Option.isSome_iff_exists.mp hsome
  rw [attachedHub, hs]
  rfl

/-- A request of the user for a session. -/
def requestSession (key : String) : Step := .session (.attach robotA "ann".toList key.toList 22)

/-- The session `s2` is adopted, `s1` is refused after it, and `s3` is adopted. -/
def inTurnSteps : List Step :=
  [requestSession "s2", .session (.decide 1 sampleEvidence), .session (.set 1), .session (.scan 1),
    requestSession "s1", .session (.decide 2 sampleEvidence), .session (.passDone 1),
    requestSession "s3", .session (.decide 3 sampleEvidence), .session (.set 3)]

theorem attaches_ordered_inTurnSteps :
    ∃ t, (machine digitEnv).run attachedHub inTurnSteps = some t ∧
      (machine digitEnv).trace (State.attachEvent digitEnv robotA) attachedHub inTurnSteps
        = [.changed 1 "s2".toList, .refused 2, .changed 3 "s3".toList] ∧
      AttachesOrdered digitEnv.parseTime sampleEvidence (attachedHub.activeSession robotA)
        (t.activeSession robotA)
        ((machine digitEnv).trace (State.attachEvent digitEnv robotA) attachedHub inTurnSteps) := by
  have hsome : ((machine digitEnv).run attachedHub inTurnSteps).isSome = true := by decide +kernel
  obtain ⟨t, hrun⟩ := Option.isSome_iff_exists.mp hsome
  refine ⟨t, hrun, by decide +kernel, ?_⟩
  exact attaches_ordered digitEnv sampleEvidence robotA "ann".toList attachedHub t inTurnSteps
    (by decide +kernel) (by decide +kernel)
    (by simp [inTurnSteps, requestSession, Step.OfRequests]) (by decide +kernel) hrun

/-- Requests for `s2` and `s3` both read `s1`. The one for `s3` writes first, and then a client of
`s3` comes back. -/
def crossedSteps : List Step :=
  [requestSession "s2", .session (.decide 1 sampleEvidence), requestSession "s3",
    .session (.decide 2 sampleEvidence), .session (.set 2), .session (.set 1),
    requestSession "s3", .session (.decide 3 sampleEvidence), .session (.set 3)]

/-- A request for `s2` is adopted, and its websocket upgrade fails. -/
def failedUpgradeSteps : List Step :=
  [requestSession "s2", .session (.decide 1 sampleEvidence), .session (.set 1), .session (.scan 1),
    .session (.passDone 1), .session (.upgradeFail 1)]

/-- **Two sessions take the robot from each other in turn**: the active session goes from `s1` to
`s3`, to the earlier `s2` and to `s3` again, by requests whose keys all have matching snapshots. And
a request that is refused by a failed upgrade has changed the active session. -/
theorem attaches_disordered :
    (machine digitEnv).run (machine digitEnv).init onlineSteps = some attachedHub ∧
      attachedHub.Idle robotA ∧ attachedHub.activeSession robotA = "s1".toList ∧
      (∀ key ∈ ["s1", "s2", "s3"], (attachSessionSnapshot digitEnv.fold sampleEvidence key.toList
        robotA "ann".toList).isSome = true) ∧
      (∀ a ∈ crossedSteps ++ failedUpgradeSteps,
        a.OfRequests sampleEvidence robotA "ann".toList) ∧
      (∃ t, (machine digitEnv).run attachedHub crossedSteps = some t ∧
        (machine digitEnv).trace (State.attachEvent digitEnv robotA) attachedHub crossedSteps
          = [.changed 2 "s3".toList, .changed 1 "s2".toList, .changed 3 "s3".toList] ∧
        ¬ AttachesOrdered digitEnv.parseTime sampleEvidence (attachedHub.activeSession robotA)
          (t.activeSession robotA)
          ((machine digitEnv).trace (State.attachEvent digitEnv robotA) attachedHub
            crossedSteps)) ∧
      ∃ t, (machine digitEnv).run attachedHub failedUpgradeSteps = some t ∧
        t.activeSession robotA = "s2".toList ∧
        (machine digitEnv).trace (State.attachEvent digitEnv robotA) attachedHub failedUpgradeSteps
          = [.changed 1 "s2".toList, .refused 1] := by
  have hcrossed :
      (machine digitEnv).trace (State.attachEvent digitEnv robotA) attachedHub crossedSteps
      = [.changed 2 "s3".toList, .changed 1 "s2".toList, .changed 3 "s3".toList] := by
    decide +kernel
  have hsome : ((machine digitEnv).run attachedHub crossedSteps).isSome = true := by decide +kernel
  obtain ⟨t, hrun⟩ := Option.isSome_iff_exists.mp hsome
  have hfailed : ((machine digitEnv).run attachedHub failedUpgradeSteps).any
      (fun t => t.activeSession robotA = "s2".toList) = true := by decide +kernel
  obtain ⟨u, hu, hactive⟩ := (Option.any_eq_true _ _).mp hfailed
  refine ⟨run_onlineSteps, by decide +kernel, by decide +kernel, by decide +kernel,
    by simp [crossedSteps, failedUpgradeSteps, requestSession, Step.OfRequests],
    ⟨t, hrun, hcrossed, fun h => ?_⟩, u, hu, of_decide_eq_true hactive, by decide +kernel⟩
  have hdistinct := h.distinct
  rw [hcrossed] at hdistinct
  exact absurd hdistinct (by decide +kernel)

end Roboat.Relay
