import Roboat.Daemon.StreamEntries

/-! # A close by the remote side

When the remote closes a direct stream, the bridge of the stream sees it, ends, and removes the
stream from the table. When it closes a multiplexed stream, the read task of the connection sees it
and removes the stream from the table of the connection; the entry in the table of the manager
stays, with a task that goes on forwarding what agents send. -/

namespace Roboat.Daemon

/-- What `DaemonManager::send` comes to. -/
inductive SendOutcome where
  | accepted
  /-- It waits for room in the channel of the stream. -/
  | waiting
  | streamNotFound
  | sendFailed
  deriving DecidableEq, Repr

/-- All that follows from a close by the remote has happened: the bridge of a direct stream is
over. For a multiplexed stream nothing follows. -/
def Stream.Settled (st : Stream) : Prop := st.link = .direct → st.forward = .done

instance (st : Stream) : Decidable st.Settled := inferInstanceAs (Decidable (_ → _))

/-- The stream has been removed, or was removed before the remote closed it. -/
def Stream.Gone (st : Stream) : Prop :=
  (st.link = .direct ∧ st.forward = .done) ∨ (st.link ≠ .direct ∧ st.remoteClosed = true)

namespace Manager

/-- `DaemonManager::send` on an id. -/
def sendOutcome (m : Manager) (id : UInt32) : SendOutcome :=
  match (m.table id).bind fun j => m.streams[j]? with
  | none => .streamNotFound
  | some target =>
    if target.forward = .done then .sendFailed
    else if target.queue.length < channelCapacity then .accepted
    else .waiting

/-- The data is accepted exactly when the step of `send` is taken. -/
theorem sendOutcome_eq_accepted (m : Manager) (st : Stream) (data : Bytes) :
    m.sendOutcome st.id = .accepted ↔ (m.send st data).isSome = true := by
  unfold sendOutcome send
  cases htable : m.table st.id with
  | none => simp
  | some j =>
    cases hj : m.streams[j]? with
    | none => simp [hj]
    | some target =>
      by_cases hdone : target.forward = .done
      · simp [hj, hdone]
      · by_cases hroom : target.queue.length < channelCapacity <;> simp [hj, hdone, hroom]

/-- **A close by the remote has the same effect for both kinds of streams**: once all that follows
from it has happened, the stream is not in the table; and `send` on its id finds no stream and takes
no data, until another stream has been entered under the id. -/
def RemovesClosed (m : Manager) : Prop :=
  ∀ i < m.streams.length, ∀ st ∈ m.streams[i]?,
    st.phase = .opened ∧ st.remoteClosed = true ∧ st.Settled →
      m.table st.id ≠ some i ∧
      ((m.sendOutcome st.id = .streamNotFound ∧ ∀ data, m.send st data = none) ∨
        ∃ j other, j ≠ i ∧ m.table st.id = some j ∧ m.streams[j]? = some other ∧
          other.id = st.id ∧ other.phase = .opened)

end Manager

/-- What happens to a stream and its entry: stream `i` is entered under its id, an agent calls
`close_stream` on an id, the remote's `StreamClose` of stream `i` is processed. -/
inductive StreamEvent where
  | inserted (i : Nat) (id : UInt32)
  | closed (id : UInt32)
  | remoteClosed (i : Nat) (id : UInt32)
  deriving DecidableEq, Repr

/-- **The condition**, on the events of a run: when the remote's `StreamClose` of a multiplexed
stream is processed, the stream has been entered in the table, and since then an agent has closed
the id, or a stream was entered under it again. -/
def ClosedHereFirst (events : List StreamEvent) : Prop :=
  ∀ before i id after, events = before ++ .remoteClosed i id :: after →
    ∃ earlier later, before = earlier ++ .inserted i id :: later ∧
      (.closed id ∈ later ∨ ∃ j, .inserted j id ∈ later)

theorem ClosedHereFirst.of_append {events more : List StreamEvent}
    (h : ClosedHereFirst (events ++ more)) : ClosedHereFirst events := by
  intro before i id after hsplit
  refine h before i id (after ++ more) ?_
  rw [hsplit, List.append_assoc, List.cons_append]

namespace Manager

/-- The event of a step, in the state it is taken in. -/
def streamEvent (m : Manager) : ManagerStep → Option StreamEvent
  | .insert i => m.streams[i]?.map fun st => .inserted i st.id
  | .close i => m.streams[i]?.map fun st => .closed st.id
  | .remoteClose i => m.streams[i]?.map fun st => .remoteClosed i st.id
  | _ => none

/-- A stream that is gone is open, as far as its phase goes, and not in the table. -/
def Removed (m : Manager) : Prop :=
  ∀ (i : Nat) (st : Stream), m.streams[i]? = some st → st.Gone →
    st.phase = .opened ∧ m.table st.id ≠ some i

variable {m t : Manager} {i : Nat} {st new : Stream}

/-- What the invariant says of streams the remote has closed. -/
theorem Removed.removesClosed (h : m.Removed) (hentries : m.Entries) : m.RemovesClosed := by
  intro i _ st hi hclosed
  obtain ⟨hphase, hremote, hsettled⟩ := hclosed
  have hgone : st.Gone := by
    by_cases hlink : st.link = .direct
    · exact Or.inl ⟨hlink, hsettled hlink⟩
    · exact Or.inr ⟨hlink, hremote⟩
  refine ⟨(h i st hi hgone).2, ?_⟩
  cases htable : m.table st.id with
  | none =>
    left
    have houtcome : m.sendOutcome st.id = .streamNotFound := by simp [sendOutcome, htable]
    refine ⟨houtcome, fun data => Option.not_isSome_iff_eq_none.mp fun hsent => ?_⟩
    cases houtcome.symm.trans ((m.sendOutcome_eq_accepted st data).mpr hsent)
  | some j =>
    right
    obtain ⟨other, hj, hid, hphase, -⟩ := hentries.registered st.id j htable
    refine ⟨j, other, fun hji => ?_, rfl, hj, hid, hphase⟩
    exact (h i st hi hgone).2 (hji ▸ htable)

theorem removed_init (useMux : Bool) : (managerMachine useMux).init.Removed := by
  intro i st hi
  cases hi

/-- A stream changes, and the table does not. -/
theorem Removed.setStream (h : m.Removed) (hid : new.id = st.id)
    (hnew : new.Gone → new.phase = .opened ∧ m.table st.id ≠ some i) :
    (m.setStream i new).Removed := by
  intro j other hj hgone
  rcases Tasks.of_set hj with ⟨rfl, rfl⟩ | ⟨-, hold⟩
  · rw [hid]
    exact hnew hgone
  · exact h j other hold hgone

/-- A stream moves on, but is not gone for that. -/
theorem Removed.moveOn (h : m.Removed) (hi : m.streams[i]? = some st) (hid : new.id = st.id)
    (hlink : new.link = st.link) (hphase : new.phase = st.phase)
    (hremote : new.remoteClosed = st.remoteClosed)
    (hforward : new.forward = .done → new.forward = st.forward ∨ st.link ≠ .direct) :
    (m.setStream i new).Removed := by
  refine h.setStream hid fun hgone => ?_
  rw [hphase]
  refine h i st hi ?_
  rcases hgone with ⟨hdirect, hdone⟩ | ⟨hmux, hclosed⟩
  · rcases hforward hdone with hsame | hmux
    · exact Or.inl ⟨hlink.symm.trans hdirect, hsame.symm.trans hdone⟩
    · exact absurd (hlink.symm.trans hdirect) hmux
  · exact Or.inr ⟨hlink ▸ hmux, hremote.symm.trans hclosed⟩

/-- A stream that was never opened is not gone. -/
theorem Removed.setUp (h : m.Removed) (hi : m.streams[i]? = some st) (hid : new.id = st.id)
    (hlink : new.link = st.link) (hforward : new.forward = st.forward)
    (hremote : new.remoteClosed = st.remoteClosed) (hphase : st.phase ≠ .opened) :
    (m.setStream i new).Removed := by
  refine h.setStream hid fun hgone => absurd (h i st hi ?_).1 hphase
  rcases hgone with ⟨hdirect, hdone⟩ | ⟨hmux, hclosed⟩
  · exact Or.inl ⟨hlink.symm.trans hdirect, hforward.symm.trans hdone⟩
  · exact Or.inr ⟨hlink ▸ hmux, hremote.symm.trans hclosed⟩

/-- A new stream that is not gone keeps the invariant. -/
theorem Removed.addStream (h : m.Removed) (hnew : ¬ new.Gone) : (m.addStream new).Removed := by
  intro j other hj hgone
  rcases Tasks.of_append hj with ⟨-, rfl⟩ | ⟨-, hold⟩
  · exact absurd hgone hnew
  · exact h j other hold hgone

theorem not_gone_new (id : UInt32) (cls : StreamClass) (link : Link) (dialed : Bool)
    (phase : StreamPhase) (wire : List (FrameType × Bytes)) :
    ¬ (Stream.new id cls link dialed phase wire).Gone := by
  rintro (⟨-, hdone⟩ | ⟨-, hclosed⟩)
  · cases hdone
  · cases hclosed

theorem Removed.setConn (h : m.Removed) (c : Nat) (conn : MuxConn) : (m.setConn c conn).Removed := h

/-- An id is taken out of the table. -/
theorem Removed.eraseId (h : m.Removed) (id : UInt32) :
    Removed { m with table := Function.update m.table id none } := by
  intro j other hj hgone
  obtain ⟨hphase, hother⟩ := h j other hj hgone
  refine ⟨hphase, fun hin => ?_⟩
  by_cases hid : other.id = id
  · rw [hid] at hin
    cases (Function.update_self id _ m.table).symm.trans hin
  · exact hother ((Function.update_of_ne hid _ m.table).symm.trans hin)

/-- A stream is entered: one that is gone was opened before, so it is another one. -/
theorem Removed.insert (h : m.Removed) (hi : m.streams[i]? = some st)
    (hphase : st.phase = .announced) :
    (({ m with table := Function.update m.table st.id (some i) } : Manager).setStream i
      { st with phase := .opened }).Removed := by
  have hnot : ¬ st.Gone := by
    intro hgone
    cases hphase.symm.trans (h i st hi hgone).1
  intro j other hj hgone
  rcases Tasks.of_set hj with ⟨rfl, rfl⟩ | ⟨hne, hold⟩
  · exact absurd hgone hnot
  · obtain ⟨hopened, hother⟩ := h j other hold hgone
    refine ⟨hopened, fun hin => ?_⟩
    by_cases hid : other.id = st.id
    · rw [hid] at hin
      have hij : some i = some j := (Function.update_self st.id _ m.table).symm.trans hin
      exact hne (Option.some.inj hij).symm
    · exact hother ((Function.update_of_ne hid _ m.table).symm.trans hin)

/-- One step, when a multiplexed stream is not in the table any more at the remote's close. -/
theorem Removed.step (h : m.Removed) {a : ManagerStep}
    (hcond : ∀ i st, a = .remoteClose i → m.streams[i]? = some st →
      st.phase = .opened ∧ m.table st.id ≠ some i) (hmove : Move m a t) : t.Removed := by
  cases hmove with
  | connect => exact h
  | dialMux => exact (h.setConn _ _).addStream (not_gone_new _ _ _ _ _ _)
  | dialDirect => exact Removed.addStream h (not_gone_new _ _ _ _ _ _)
  | announceMux hi hphase =>
    exact (h.setConn _ _).setUp hi rfl rfl rfl rfl (by rw [hphase]; exact nofun)
  | dialFailed _ hi hphase | connectDirect hi hphase =>
    exact h.setUp hi rfl rfl rfl rfl (by rw [hphase]; exact nofun)
  | inbound => exact h.addStream (not_gone_new _ _ _ _ _ _)
  | insert hi hphase => exact h.insert hi hphase
  | send _ _ _ hj => exact h.moveOn hj rfl rfl rfl rfl fun _ => Or.inl rfl
  | close hi => exact (h.eraseId _).moveOn hi rfl rfl rfl rfl fun _ => Or.inl rfl
  | takeData hi | takeEnd hi | passDirect hi | passDirectFailed hi | passMuxFailed hi
    | finishDirect hi => exact h.moveOn hi rfl rfl rfl rfl nofun
  | passMux hi => exact (h.setConn _ _).moveOn hi rfl rfl rfl rfl nofun
  | finishMux hi _ hlink =>
    exact (h.setConn _ _).moveOn hi rfl rfl rfl rfl fun _ => Or.inr (by rw [hlink]; exact nofun)
  | finishMuxFailed hi _ hlink =>
    exact h.moveOn hi rfl rfl rfl rfl fun _ => Or.inr (by rw [hlink]; exact nofun)
  | remoteEnd hi hlink =>
    refine h.setStream rfl ?_
    rintro (⟨-, hdone⟩ | ⟨hmux, -⟩)
    · cases hdone
    · exact absurd hlink hmux
  | @remove i st hi hlink hphase =>
    -- the bridge of a direct stream takes its own id out of the table
    refine (h.eraseId st.id).setStream rfl fun _ => ⟨hphase, fun hin => ?_⟩
    cases (Function.update_self st.id _ m.table).symm.trans hin
  | @remoteClose i st hi =>
    exact h.setStream rfl fun _ => hcond i st rfl hi
  | write => exact h.setConn _ _

/-! ## Events and the table -/

/-- Setup steps are no stream events. -/
theorem streamEvent_of_isSetup {a : ManagerStep} (h : a.isSetup = true) :
    m.streamEvent a = none := by
  cases a with
  | insert | close | remoteClose => cases h
  | _ => rfl

/-- An entry after a step was made by it, or was there and was neither closed nor replaced. -/
theorem table_of_move {a : ManagerStep} {id : UInt32} (hmove : Move m a t)
    (hin : t.table id = some i) :
    m.streamEvent a = some (.inserted i id) ∨ m.table id = some i ∧
      m.streamEvent a ≠ some (.closed id) ∧ ∀ j, m.streamEvent a ≠ some (.inserted j id) := by
  have hnone : ∀ event : StreamEvent, none ≠ some event :=
    fun event => (Option.some_ne_none event).symm
  cases hmove with
  | connect _ hsetup | dialFailed hsetup | inbound _ _ _ hsetup =>
    rw [streamEvent_of_isSetup hsetup]
    exact Or.inr ⟨hin, hnone _, fun _ => hnone _⟩
  | @insert k st hk =>
    rw [streamEvent, hk]
    by_cases hid : id = st.id
    · subst hid
      obtain rfl : k = i := by simpa [setStream] using hin
      exact Or.inl rfl
    · refine Or.inr ⟨(Function.update_of_ne hid _ m.table).symm.trans hin, by simp, fun j hj => ?_⟩
      exact hid (StreamEvent.inserted.inj (Option.some.inj hj)).2.symm
  | @close k st hk =>
    rw [streamEvent, hk]
    by_cases hid : id = st.id
    · subst hid
      cases (Function.update_self st.id _ m.table).symm.trans hin
    · refine Or.inr
        ⟨(Function.update_of_ne hid _ m.table).symm.trans hin, fun hclosed => ?_, by simp⟩
      exact hid (StreamEvent.closed.inj (Option.some.inj hclosed)).symm
  | @remove k st =>
    refine Or.inr ⟨?_, hnone _, fun _ => hnone _⟩
    by_cases hid : id = st.id
    · subst hid
      cases (Function.update_self st.id _ m.table).symm.trans hin
    · exact (Function.update_of_ne hid _ m.table).symm.trans hin
  | @remoteClose k st hk =>
    rw [streamEvent, hk]
    exact Or.inr ⟨hin, by simp, by simp⟩
  | _ => exact Or.inr ⟨hin, hnone _, fun _ => hnone _⟩

/-- A stream that is entered was not opened before, and is now. -/
theorem insert_of_event {a : ManagerStep} {id : UInt32} (hmove : Move m a t)
    (hevent : m.streamEvent a = some (.inserted i id)) :
    (∀ st, m.streams[i]? = some st → st.phase ≠ .opened) ∧
      ∃ st, t.streams[i]? = some st ∧ st.id = id ∧ st.phase = .opened := by
  cases hmove with
  | connect _ hsetup | dialFailed hsetup | inbound _ _ _ hsetup =>
    cases (streamEvent_of_isSetup hsetup).symm.trans hevent
  | @insert k st hk hphase =>
    rw [streamEvent, hk] at hevent
    cases hevent
    refine ⟨fun other hother hopened => ?_, _, Tasks.set_self hk, rfl, rfl⟩
    obtain rfl : st = other := Option.some.inj (hk.symm.trans hother)
    cases hphase.symm.trans hopened
  | close hk | remoteClose hk =>
    rw [streamEvent, hk] at hevent
    cases hevent
  | _ => cases hevent

/-- What the events of a run say about the state it has come to. -/
structure EntryLog (events : List StreamEvent) (m : Manager) : Prop where
  opened : ∀ i id, .inserted i id ∈ events →
    ∃ st, m.streams[i]? = some st ∧ st.id = id ∧ st.phase = .opened
  /-- A stream is entered once. -/
  once : ∀ i id, events.count (.inserted i id) ≤ 1
  /-- An entry was neither closed nor replaced since it was made. -/
  table : ∀ i id, m.table id = some i → ∃ earlier later,
    events = earlier ++ .inserted i id :: later ∧ .closed id ∉ later ∧ ∀ j, .inserted j id ∉ later

theorem entryLog_init (useMux : Bool) : EntryLog [] (managerMachine useMux).init :=
  ⟨fun _ _ h => (nomatch h), fun _ _ => Nat.zero_le 1, fun _ _ h => (nomatch h)⟩

/-- One step adds its event to the log. -/
theorem EntryLog.step {events : List StreamEvent} {a : ManagerStep} (h : EntryLog events m)
    (hmove : Move m a t) : EntryLog (events ++ (m.streamEvent a).toList) t where
  opened i id hmem := by
    rcases List.mem_append.mp hmem with hold | hnew
    · obtain ⟨st, hi, rfl, hphase⟩ := h.opened i id hold
      obtain ⟨new, hnew, hst⟩ := hmove.streamsAfter.old i st hi
      exact ⟨new, hnew, hst.id_eq, hst.opened hphase⟩
    · rw [Option.mem_toList] at hnew
      exact (insert_of_event hmove hnew).2
  once i id := by
    rw [List.count_append]
    by_cases hnew : m.streamEvent a = some (.inserted i id)
    · have hnot : .inserted i id ∉ events := by
        intro hmem
        obtain ⟨st, hi, -, hopened⟩ := h.opened i id hmem
        exact (insert_of_event hmove hnew).1 st hi hopened
      rw [List.count_eq_zero_of_not_mem hnot, hnew]
      simp
    · have hnone : (m.streamEvent a).toList.count (.inserted i id) = 0 := by
        refine List.count_eq_zero_of_not_mem fun hmem => hnew ?_
        rwa [Option.mem_toList] at hmem
      rw [hnone]
      exact h.once i id
  table i id hin := by
    rcases table_of_move hmove hin with hevent | ⟨hold, hclosed, hinserted⟩
    · exact ⟨events, [], by rw [hevent, Option.toList_some], nofun, nofun⟩
    · obtain ⟨earlier, later, rfl, hnot, hnone⟩ := h.table i id hold
      refine ⟨earlier, later ++ (m.streamEvent a).toList, by simp, ?_, fun j => ?_⟩
      · rw [List.mem_append, not_or, Option.mem_toList]
        exact ⟨hnot, hclosed⟩
      · rw [List.mem_append, not_or, Option.mem_toList]
        exact ⟨hnone j, hinserted j⟩

/-- A stream whose id was closed, or entered again, since it was entered is not in the table. -/
theorem EntryLog.table_ne {earlier later : List StreamEvent} {id : UInt32}
    (h : EntryLog (earlier ++ .inserted i id :: later) m)
    (hgone : .closed id ∈ later ∨ ∃ j, .inserted j id ∈ later) : m.table id ≠ some i := by
  intro hin
  obtain ⟨earlier', later', hsplit, hclosed, hinserted⟩ := h.table i id hin
  -- a stream is entered once, so this is the same place in the run
  have honce := h.once i id
  have hlater : later = later' := by
    rcases List.append_eq_append_iff.mp hsplit with ⟨mid, rfl, hmid⟩ | ⟨mid, rfl, hmid⟩
    · cases mid with
      | nil => exact (List.cons.inj hmid).2
      | cons e mid =>
        obtain ⟨rfl, rfl⟩ := List.cons.inj hmid
        simp at honce
        omega
    · cases mid with
      | nil => exact (List.cons.inj hmid).2.symm
      | cons e mid =>
        obtain ⟨rfl, rfl⟩ := List.cons.inj hmid
        simp at honce
        omega
  subst hlater
  rcases hgone with hgone | ⟨j, hgone⟩
  · exact hclosed hgone
  · exact hinserted j hgone

/-- What holds in the state a run with these events has come to. -/
structure Tracked (events : List StreamEvent) (m : Manager) : Prop where
  entries : m.Entries
  log : EntryLog events m
  removed : ClosedHereFirst events → m.Removed

theorem tracked_init (useMux : Bool) : Tracked [] (managerMachine useMux).init :=
  ⟨⟨fun _ _ h => (nomatch h), fun _ h => (nomatch h)⟩, entryLog_init useMux,
    fun _ => removed_init useMux⟩

/-- A step keeps what the events say. -/
theorem Tracked.step {events : List StreamEvent} {a : ManagerStep} (h : Tracked events m)
    (hstep : m.step a = some t) : Tracked (events ++ (m.streamEvent a).toList) t where
  entries := h.entries.step (move_of_step hstep)
  log := h.log.step (move_of_step hstep)
  removed hcond := by
    refine (h.removed hcond.of_append).step (fun i st ha hi => ?_) (move_of_step hstep)
    -- at the close of the remote the log says that the entry is gone
    subst ha
    obtain ⟨earlier, later, rfl, hgone⟩ := hcond events i st.id [] (by simp [streamEvent, hi])
    obtain ⟨st', hi', -, hphase⟩ := h.log.opened i st.id (by simp)
    obtain rfl : st = st' := Option.some.inj (hi.symm.trans hi')
    exact ⟨hphase, h.log.table_ne hgone⟩

/-- **A close by the remote removes the stream, in every run in which a multiplexed stream was
closed here first.** For direct streams there is no condition. -/
theorem removesClosed_of_closedHereFirst (useMux : Bool) (as : List ManagerStep) (m : Manager)
    (hcond : ClosedHereFirst
      ((managerMachine useMux).trace streamEvent (managerMachine useMux).init as))
    (hrun : (managerMachine useMux).run (managerMachine useMux).init as = some m) :
    m.RemovesClosed := by
  have h : Tracked ((managerMachine useMux).trace streamEvent (managerMachine useMux).init as) m :=
    (managerMachine useMux).run_trace (tracked_init useMux) (fun _ _ _ _ h hstep => h.step hstep)
      hrun
  exact (h.removed hcond).removesClosed h.entries

/-- The agent closes a multiplexed stream before the remote does, and the remote closes a direct
one. -/
def closedFirstSteps : List ManagerStep :=
  [.connectMux ['a'], .dialMux ['a'] .control, .announceMux 0, .insert 0, .close 0, .remoteClose 0,
    .inboundRelay [0, 0, 0, 9, 1], .insert 1, .remoteEnd 1, .remove 1]

/-- The one close of the remote comes after the agent's. -/
theorem closedHereFirst_closedFirst :
    ClosedHereFirst [.inserted 0 1, .closed 1, .remoteClosed 0 1, .inserted 1 9] := by
  intro before i id after hsplit
  rcases before with _ | ⟨e₁, _ | ⟨e₂, _ | ⟨e₃, _ | ⟨e₄, rest⟩⟩⟩⟩ <;> simp at hsplit
  obtain ⟨rfl, rfl, ⟨rfl, rfl⟩, rfl⟩ := hsplit
  exact ⟨[], [.closed 1], rfl, Or.inl List.mem_cons_self⟩

theorem removesClosed_closedFirstSteps :
    ∃ m, (managerMachine true).run (managerMachine true).init closedFirstSteps = some m ∧
      m.RemovesClosed := by
  obtain ⟨m, hrun, -⟩ :=
    (managerMachine true).exists_run closedFirstSteps (fun _ => True) (by decide)
  have hevents : (managerMachine true).trace streamEvent (managerMachine true).init
      closedFirstSteps = [.inserted 0 1, .closed 1, .remoteClosed 0 1, .inserted 1 9] := by decide
  exact ⟨m, hrun, removesClosed_of_closedHereFirst true closedFirstSteps m
    (hevents ▸ closedHereFirst_closedFirst) hrun⟩

/-- The remote closes a multiplexed stream that an agent holds. -/
def closedByRemoteSteps : List ManagerStep :=
  [.connectMux ['a'], .dialMux ['a'] .control, .announceMux 0, .insert 0, .remoteClose 0]

/-- The stream stays in the table, and `send` goes on accepting data for it. -/
theorem closedByRemote_not_removed :
    ∃ m, (managerMachine true).run (managerMachine true).init closedByRemoteSteps = some m ∧
      m.table 1 = some 0 ∧ m.sendOutcome 1 = .accepted ∧ ¬ m.RemovesClosed := by
  obtain ⟨m, hrun, htable, hsend, hlt, hstream⟩ :=
    (managerMachine true).exists_run closedByRemoteSteps
    (fun m => m.table 1 = some 0 ∧ m.sendOutcome 1 = .accepted ∧ 0 < m.streams.length ∧
      ∃ st ∈ m.streams[0]?, st.id = 1 ∧ st.phase = .opened ∧ st.remoteClosed = true ∧ st.Settled)
    (by decide)
  obtain ⟨st, hst, hid, hclosed⟩ := hstream
  refine ⟨m, hrun, htable, hsend, fun h => ?_⟩
  have hnot := (h 0 hlt st hst hclosed).1
  rw [hid] at hnot
  exact hnot htable

end Manager

end Roboat.Daemon
