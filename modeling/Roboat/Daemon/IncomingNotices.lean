import Roboat.Daemon.InboundStream

/-! # The notifications of an inbound stream

`notices` are the notifications of a stream that a client has got or is going to get, from
whichever of its tasks. Under the condition no step changes them, up to order, apart from the
broadcast of the stream, which adds one for each task of the client. -/

open scoped List

namespace Roboat.Daemon.Ipc

/-! ## Tasks of `listen` -/

namespace Listener

variable {broadcast : List IncomingStreamInfo} {i client : Nat} {listener : Listener}
  {info : IncomingStreamInfo}

/-- A task receives a stream from the channel. -/
theorem pending_recv (hphase : listener.phase = .waiting)
    (hrecv : Broadcast.receive broadcastCapacity broadcast listener.next = .value info) :
    pending broadcast i { listener with next := listener.next + 1, phase := .taking info }
      = listener.pending broadcast i := by
  by_cases howner : info.owner = i <;>
    simp [pending, hphase, ListenerPhase.pending, Broadcast.backlog_of_value hrecv, howner]

/-- A task has looked for the receiver. -/
theorem pending_take (forwarder : Option Nat) (hphase : listener.phase = .taking info) :
    pending broadcast i { listener with phase := .announcing (info.message forwarder) }
      = listener.pending broadcast i := by
  simp only [pending, hphase, ListenerPhase.pending, isIncomingFor_message, decide_eq_true_eq]
  rfl

/-- A task is done with a notification. -/
theorem pending_announcing {sent : Sent} (hphase : listener.phase = .announcing sent) :
    listener.pending broadcast i = (if sent.isIncomingFor i then [sent.msg] else [])
      ++ pending broadcast i { listener with phase := .waiting } := by
  simp [pending, hphase, ListenerPhase.pending]

/-- A stream is broadcast. -/
theorem pending_broadcast (hnext : listener.next ≤ broadcast.length) :
    listener.pending (broadcast ++ [info]) i
      = listener.pending broadcast i ++ if info.owner = i then [info.incoming] else [] := by
  by_cases howner : info.owner = i <;>
    simp [pending, List.drop_append_of_le_length hnext, howner]

/-- The task of a new `listen` sees only what is broadcast from then on. -/
theorem pending_new (c : Nat) : pending broadcast i ⟨c, broadcast.length, .waiting⟩ = [] := by
  simp [pending, ListenerPhase.pending]

/-- A task that keeps its client and, if it is the client's, what it is going to write. -/
theorem pendingFor_congr {new : Listener} (hclient : new.client = listener.client)
    (hpending : listener.client = client →
      new.pending broadcast i = listener.pending broadcast i) :
    new.pendingFor client broadcast i = listener.pendingFor client broadcast i := by
  simp only [pendingFor, hclient]
  split_ifs with heq
  · exact hpending heq
  · rfl

/-- A stream is broadcast, for one client. -/
theorem pendingFor_broadcast (hnext : listener.client = client → listener.next ≤ broadcast.length) :
    listener.pendingFor client (broadcast ++ [info]) i = listener.pendingFor client broadcast i ++
      if listener.client = client ∧ info.owner = i then [info.incoming] else [] := by
  by_cases hclient : listener.client = client
  · simp [pendingFor, hclient, pending_broadcast (hnext hclient)]
  · simp [pendingFor, hclient]

end Listener

namespace Server

variable {env : Env} {s t : Server} {a : ServerStep} {client c i j l : Nat} {st new : Stream}

/-- A task is within the broadcast channel, and not more than its capacity behind. -/
def InBounds (broadcast : List IncomingStreamInfo) (listener : Listener) : Prop :=
  listener.next ≤ broadcast.length ∧ broadcast.length ≤ listener.next + broadcastCapacity

/-- The tasks of a client are in bounds. -/
def KeepUp (client : Nat) (s : Server) : Prop :=
  ∀ listener ∈ s.listeners, listener.client = client → InBounds s.broadcast listener

/-- **Every step that meets the condition keeps the client's tasks in bounds**: none ever lags. -/
theorem KeepUp.step (h : KeepUp client s) (hund : s.Undisturbed env client i a)
    (hmove : Move env s a t) : KeepUp client t := by
  have hphase : ∀ (n : Nat) (listener : Listener) (phase : ListenerPhase),
      s.listeners[n]? = some listener → ∀ x ∈ s.listeners.set n { listener with phase := phase },
        x.client = client → InBounds s.broadcast x := by
    intro n listener phase hn
    have hold := h listener (List.mem_of_getElem? hn)
    exact Tasks.forall_mem_set n h hold
  cases hmove with
  | listen =>
    exact Tasks.forall_mem_append h fun _ => ⟨Nat.le_refl _, Nat.le_add_right _ _⟩
  | dropEntry => simpa [KeepUp] using h
  | dialDone => simpa [KeepUp, Server.dialDone, Server.setClient, Server.setStream,
      Server.insertEntry] using h
  | register => simpa [KeepUp, Server.setStream, Server.insertEntry] using h
  | notify hi =>
    intro listener hlistener hclient
    have hold := h listener hlistener hclient
    have hbehind := hund.1 listener hlistener hclient
    simp only [InBounds, Server.setStream, List.length_append, List.length_singleton]
    exact ⟨Nat.le_succ_of_le hold.1, hbehind⟩
  | @lagged l next listener hl _ hrecv =>
    refine Tasks.forall_mem_set _ h fun hclient => ?_
    exact absurd hrecv (Broadcast.not_lagged (h listener (List.mem_of_getElem? hl) hclient).2)
  | @listenerRecv l listener info hl _ hrecv =>
    refine Tasks.forall_mem_set _ h fun hclient => ⟨Broadcast.lt_of_value hrecv, ?_⟩
    have hold := h listener (List.mem_of_getElem? hl) hclient
    exact Nat.le_trans hold.2 (by simp only; omega)
  | claim hl | noClaim hl | announced hl | announceFailed hl => exact hphase _ _ _ hl
  | _ => exact h

/-! ## Notifications -/

/-- The notifications depend on the tasks, the channel and what was written. -/
theorem notices_eq (hlisteners : t.listeners = s.listeners) (hbroadcast : t.broadcast = s.broadcast)
    (hincomings : incomings i (t.out client) = incomings i (s.out client)) :
    t.notices client i = s.notices client i := by
  simp only [notices, unannounced, hlisteners, hbroadcast, hincomings]

/-- A task of `listen` moves on with what it is going to write. -/
theorem notices_setListener {listener new : Listener} (hl : s.listeners[l]? = some listener)
    (hclient : new.client = listener.client)
    (hpending : listener.client = client →
      new.pending s.broadcast i = listener.pending s.broadcast i) :
    (s.setListener l new).notices client i ~ s.notices client i := by
  refine List.Perm.append_left _ ?_
  have hset := Tasks.flatMap_set_perm (a := new) (Listener.pendingFor client s.broadcast i) hl
  rw [Listener.pendingFor_congr hclient hpending] at hset
  exact hset.trans (Tasks.flatMap_perm _ hl).symm

/-- What is left of a task's notifications after a write. -/
theorem notices_announced {listener : Listener} {sent : Sent} {agent : Client}
    (hl : s.listeners[l]? = some listener) (hphase : listener.phase = .announcing sent)
    (hc : s.clients[listener.client]? = some agent) :
    ((s.setClient listener.client { agent with out := agent.out ++ [sent] }).setListener l
      { listener with phase := .waiting }).notices client i ~ s.notices client i := by
  have hold := Tasks.flatMap_perm (Listener.pendingFor client s.broadcast i) hl
  have hset := Tasks.flatMap_set_perm (a := { listener with phase := .waiting })
    (Listener.pendingFor client s.broadcast i) hl
  have hout := congrFun (out_write sent hc) client
  by_cases hclient : listener.client = client
  · subst hclient
    simp only [Listener.pendingFor, if_pos] at hold hset
    rw [Listener.pending_announcing hphase] at hold
    rw [Function.update_self] at hout
    calc _ = incomings i (s.out listener.client ++ [sent]) ++ _ :=
          congrArg (incomings i · ++ _) hout
      _ ~ _ := hset.append_left _
      _ ~ s.notices listener.client i := by
          rw [incomings_append_singleton, List.append_assoc,
            ← List.append_assoc _ (Listener.pending _ _ _)]
          exact hold.symm.append_left _
  · simp only [Listener.pendingFor, if_neg hclient, List.nil_append] at hold hset
    rw [Function.update_of_ne (Ne.symm hclient)] at hout
    calc _ = incomings i (s.out client) ++ _ := congrArg (incomings i · ++ _) hout
      _ ~ s.notices client i := (hset.trans hold.symm).append_left _

/-- **The notifications of a stream change only when it is broadcast.** -/
theorem notices_step (htag : Tagged env s) (hkeep : KeepUp client s)
    (hund : s.Undisturbed env client i a) (hmove : Move env s a t) (hother : a ≠ .notify i) :
    t.notices client i ~ s.notices client i := by
  have hincomings : (∀ l ok, a ≠ .listenerWrite l ok) →
      incomings i (t.out client) = incomings i (s.out client) :=
    fun hnot => htag.incomings_eq hmove hnot client
  cases hmove with
  | idle => exact .refl _
  | @handler _ c agent phase hc =>
    have hout := out_setClient_same { agent with handler := phase } hc rfl
    exact .of_eq (notices_eq rfl rfl (by rw [hout]))
  | listen =>
    rw [notices, hincomings (by simp)]
    refine List.Perm.append_left _ ?_
    simp [unannounced, Server.setClient, Listener.pendingFor, Listener.pending_new]
  | dropEntry => exact .of_eq (notices_eq (by simp) (by simp) (by simp))
  | dialDone =>
    refine .of_eq (notices_eq ?_ ?_ (hincomings (by simp)))
    · simp [Server.dialDone, Server.setClient, Server.setStream, Server.insertEntry]
    · simp [Server.dialDone, Server.setClient, Server.setStream, Server.insertEntry]
  | register =>
    refine .of_eq (notices_eq ?_ ?_ (hincomings (by simp)))
    · simp [Server.setStream, Server.insertEntry]
    · simp [Server.setStream, Server.insertEntry]
  | @notify j st hj hstage =>
    have hji : j ≠ i := fun heq => hother (by rw [heq])
    refine .of_eq (congrArg (incomings i (s.out client) ++ ·)
      (List.flatMap_congr fun listener hmem => ?_))
    refine (Listener.pendingFor_broadcast fun hclient => (hkeep listener hmem hclient).1).trans ?_
    rw [if_neg fun h => hji h.2, List.append_nil]
  | lagged hl hphase hrecv =>
    refine notices_setListener hl rfl fun hclient => ?_
    exact absurd hrecv (Broadcast.not_lagged (hkeep _ (List.mem_of_getElem? hl) hclient).2)
  | listenerRecv hl hphase hrecv =>
    exact notices_setListener hl rfl fun _ => Listener.pending_recv hphase hrecv
  | claim hl hphase htable hi hentry =>
    exact notices_setListener (s := s.setStream _ _) hl rfl fun _ =>
      Listener.pending_take _ hphase
  | noClaim hl hphase => exact notices_setListener hl rfl fun _ => Listener.pending_take _ hphase
  | announced hl hphase hc => exact notices_announced hl hphase hc
  | @announceFailed l ok listener sent agent hl hphase hc hfail =>
    refine notices_setListener hl rfl fun hclient => ?_
    have hnot : ¬ sent.isIncomingFor i = true := by
      intro hsent
      have hsome := hund listener hl sent (by rw [hphase]; rfl) ⟨hclient, hsent⟩ agent hc
      rw [hfail] at hsome
      cases hsome
    rw [Listener.pending_announcing hphase, if_neg hnot, List.nil_append]
  | replied | forwarded | connect | hangUp | dialOpened =>
    exact .of_eq (notices_eq rfl rfl (hincomings (by simp)))
  | _ => exact .refl _

/-- **The notification of a stream when it is broadcast**: one for each task of the client. -/
theorem notices_notify (hkeep : KeepUp client s) (hi : s.streams[i]? = some st)
    (hstep : s.step env (.notify i) = some t) (hnone : s.notices client i = []) :
    t.notices client i = (s.listeners.filter fun listener => listener.client = client).map
      fun _ => st.incoming := by
  obtain ⟨hincomings, hunannounced⟩ := List.append_eq_nil_iff.mp hnone
  obtain ⟨st', hi', hstep⟩ := Option.bind_eq_some_iff.mp hstep
  obtain rfl : st = st' := Option.some.inj (hi.symm.trans hi')
  split_ifs at hstep
  cases hstep
  have hpending : ∀ listener ∈ s.listeners,
      listener.pendingFor client (s.broadcast ++ [st.info i]) i
        = if listener.client = client then [st.incoming] else [] := by
    intro listener hmem
    have hold := List.flatMap_eq_nil_iff.mp hunannounced listener hmem
    rw [Listener.pendingFor_broadcast fun hclient => (hkeep listener hmem hclient).1, hold]
    by_cases hclient : listener.client = client
    · rw [if_pos ⟨hclient, rfl⟩, if_pos hclient]
      rfl
    · rw [if_neg fun h => hclient h.1, if_neg hclient]
      rfl
  calc _ = incomings i (s.out client) ++ s.listeners.flatMap
          (Listener.pendingFor client (s.broadcast ++ [st.info i]) i) := rfl
    _ = s.listeners.flatMap
          (fun listener => if listener.client = client then [st.incoming] else []) := by
        rw [hincomings, List.nil_append, List.flatMap_congr hpending]
    _ = _ := Tasks.flatMap_ite _ _ _

/-- The notifications there should be of stream `i`: one, from the moment it is broadcast. -/
def expected (s : Server) (i : Nat) : List DaemonMsg :=
  match s.streams[i]? with
  | some st => if st.stage = .notified then [st.incoming] else []
  | none => []

/-- What there should be of a stream. -/
theorem expected_eq (hi : s.streams[i]? = some st) :
    s.expected i = if st.stage = .notified then [st.incoming] else [] := by
  simp only [expected, hi]

/-- What there should be changes only when the stream is broadcast. -/
theorem expected_step (hmove : Move env s a t) (hother : a ≠ .notify i) :
    t.expected i = s.expected i := by
  cases hnew : t.streams[i]? with
  | none =>
    have hold : s.streams[i]? = none := by
      rw [List.getElem?_eq_none_iff] at hnew ⊢
      exact Nat.le_trans hmove.streams_length hnew
    simp only [expected, hnew, hold]
  | some new =>
    have hafter := hmove.streamAfter hnew
    rw [expected_eq hnew]
    rcases hafter.before with ⟨st, hold⟩ | ⟨hnone, -, hstage, -⟩
    · obtain ⟨-, hincoming, hstage⟩ := hafter.same hold
      rw [expected_eq hold, hincoming]
      rcases hstage with heq | ⟨hopened, hregistered⟩ | ⟨ha, -⟩
      · rw [heq]
      · rw [hopened, hregistered]
        rfl
      · exact absurd ha hother
    · have hnot : new.stage ≠ .notified := by
        rcases hstage with heq | heq <;> simp [heq]
      rw [if_neg hnot]
      simp only [expected, hnone]

/-- There is at most one. -/
theorem eq_expected_of_perm {notices : List DaemonMsg} (h : notices ~ s.expected i) :
    notices = s.expected i := by
  unfold expected at h ⊢
  split at h
  · split_ifs at h ⊢ with hstage
    · exact List.perm_singleton.mp h
    · exact List.perm_nil.mp h
  · exact List.perm_nil.mp h

/-- **Every step that meets the condition keeps the notifications as they should be.** -/
theorem notices_expected_step (h : s.notices client i = s.expected i) (htag : Tagged env s)
    (hkeep : KeepUp client s) (hund : s.Undisturbed env client i a)
    (hstep : s.step env a = some t) :
    t.notices client i = t.expected i := by
  have hmove := move_of_step hstep
  by_cases hother : a = .notify i
  · subst hother
    obtain ⟨st, hi, hstage, hnew⟩ : ∃ st, s.streams[i]? = some st ∧ st.stage = .registered ∧
        t.streams[i]? = some { st with stage := .notified } := by
      obtain ⟨st, hi, hstep'⟩ := Option.bind_eq_some_iff.mp hstep
      split_ifs at hstep' with hstage
      cases hstep'
      exact ⟨st, hi, hstage, Tasks.set_self hi⟩
    have hnone : s.notices client i = [] := by
      rw [h, expected_eq hi, hstage]
      rfl
    rw [notices_notify hkeep hi hstep hnone, expected_eq hnew]
    obtain ⟨listener, hone⟩ := List.length_eq_one_iff.mp (hund.2 rfl)
    rw [hone]
    rfl
  · rw [expected_step hmove hother]
    exact eq_expected_of_perm ((notices_step htag hkeep hund hmove hother).trans (.of_eq h))

end Server

end Roboat.Daemon.Ipc
