import Roboat.Daemon.IncomingNotices

/-! # Inbound streams are delivered

The data of an inbound stream is followed from its channel through the forwarding task to the
connection of the client that has claimed the receiver; with its notifications that gives all that
the client gets of the stream. Then two ways in which a client that should get a stream does not:
it has sent `listen` twice, or it has reconnected and the task of its old connection comes first. -/

namespace Roboat.Daemon.Ipc

namespace Server

variable {env : Env} {s t : Server} {a : ServerStep} {client c i j l : Nat} {st new : Stream}
  {out : List Sent} {streamId : UInt32} {c : Nat}

/-! ## Data -/

/-- **The data of an inbound stream**: the `recv` messages on the connection of the client, which
has the receiver, what its forwarding task has in hand and what is in the channel are all that was
sent. As long as nobody has the receiver, there are no `recv` messages. -/
def DataOk (env : Env) (client i : Nat) (out : List Sent) (st : Stream) : Prop :=
  match st.receiver with
  | .held => st.stage = .opened ∧ st.queue = st.sent ∧ recvs i out = []
  | .entry => st.queue = st.sent ∧ recvs i out = []
  | .forwarding c streamId phase => c = client ∧ streamId = st.id ∧
      recvs i out ++ st.undelivered env = st.chunks env ∧
      ((phase = .done ∨ phase = .writing (closedMessage i streamId)) →
        st.closed = true ∧ st.queue = [])
  | .dropped => False

/-- The data does not depend on other messages. -/
theorem DataOk.congr {out' : List Sent} (h : DataOk env client i out st)
    (hout : recvs i out' = recvs i out) : DataOk env client i out' st := by
  unfold DataOk at h ⊢
  rw [hout]
  exact h

/-- A chunk goes into the channel. -/
theorem DataOk.push (h : DataOk env client i out st) (data : Bytes) (hopen : st.closed = false) :
    DataOk env client i out { st with queue := st.queue ++ [data], sent := st.sent ++ [data] } := by
  unfold DataOk at h ⊢
  simp only
  split at h
  · exact ⟨h.1, by rw [h.2.1], h.2.2⟩
  · exact ⟨by rw [h.1], h.2⟩
  · obtain ⟨hclient, hid, hchunks, hend⟩ := h
    refine ⟨hclient, hid, ?_, fun hphase => ?_⟩
    · have hundelivered : Stream.undelivered env
          { st with queue := st.queue ++ [data], sent := st.sent ++ [data] }
          = st.undelivered env ++ [DaemonMsg.recv st.id (env.encode data)] := by
        simp [Stream.undelivered]
      have hall : Stream.chunks env
          { st with queue := st.queue ++ [data], sent := st.sent ++ [data] }
          = st.chunks env ++ [DaemonMsg.recv st.id (env.encode data)] := by
        simp [Stream.chunks]
      rw [hundelivered, hall, ← List.append_assoc, hchunks]
    · cases hopen.symm.trans (hend hphase).1
  · exact h

/-- The sender is dropped. -/
theorem DataOk.ended (h : DataOk env client i out st) :
    DataOk env client i out { st with closed := true } := by
  unfold DataOk at h ⊢
  simp only
  split at h
  · exact h
  · exact h
  · obtain ⟨hclient, hid, hchunks, hend⟩ := h
    exact ⟨hclient, hid, hchunks, fun hphase => ⟨trivial, (hend hphase).2⟩⟩
  · exact h

/-- The client claims the receiver. -/
theorem DataOk.claim (h : DataOk env client i out st) (hentry : st.receiver = .entry)
    (hid : st.id = streamId) :
    DataOk env client i out { st with receiver := .forwarding client streamId .waiting } := by
  simp only [DataOk, hentry] at h ⊢
  refine ⟨trivial, hid.symm, ?_, fun hphase => ?_⟩
  · rw [h.2, List.nil_append]
    simp only [Stream.undelivered, Stream.chunks, Receiver.inHand, ForwarderPhase.inHand,
      List.nil_append, h.1]
  · rcases hphase with hphase | hphase <;> cases hphase

/-- The forwarding task takes a chunk. -/
theorem DataOk.took {data : Bytes} {rest : List Bytes} (h : DataOk env client i out st)
    (hreceiver : st.receiver = .forwarding c streamId .waiting) (hqueue : st.queue = data :: rest) :
    DataOk env client i out { st with
      queue := rest
      receiver := .forwarding c streamId (.writing (recvMessage env i streamId data)) } := by
  simp only [DataOk, hreceiver] at h ⊢
  obtain ⟨hclient, hid, hchunks, -⟩ := h
  refine ⟨hclient, hid, ?_, fun hphase => ?_⟩
  · simp only [Stream.undelivered, hreceiver, hqueue, Stream.chunks, Receiver.inHand,
      ForwarderPhase.inHand, List.map_cons, List.nil_append] at hchunks
    simp only [Stream.undelivered, Stream.chunks, Receiver.inHand, ForwarderPhase.inHand,
      recvMessage, hid, List.singleton_append]
    exact hchunks
  · rcases hphase with hphase | hphase <;> cases hphase

/-- The forwarding task finds the channel closed. -/
theorem DataOk.closing (h : DataOk env client i out st)
    (hreceiver : st.receiver = .forwarding c streamId .waiting) (hqueue : st.queue = [])
    (hclosed : st.closed = true) :
    DataOk env client i out { st with
      receiver := .forwarding c streamId (.writing (closedMessage i streamId)) } := by
  simp only [DataOk, hreceiver] at h ⊢
  obtain ⟨hclient, hid, hchunks, -⟩ := h
  refine ⟨hclient, hid, ?_, fun _ => ⟨hclosed, hqueue⟩⟩
  simpa [Stream.undelivered, Stream.chunks, Receiver.inHand, ForwarderPhase.inHand, hreceiver,
    closedMessage] using hchunks

/-- The forwarding task has written its message. -/
theorem DataOk.wrote {sent : Sent} (h : DataOk env client i out st)
    (hreceiver : st.receiver = .forwarding c streamId (.writing sent))
    (hsent : (∃ data, sent = recvMessage env i streamId data) ∨ sent = closedMessage i streamId) :
    DataOk env client i (out ++ [sent])
      { st with receiver := .forwarding c streamId (.after sent) } := by
  simp only [DataOk, hreceiver] at h ⊢
  obtain ⟨hclient, hid, hchunks, hend⟩ := h
  refine ⟨hclient, hid, ?_, fun hphase => ?_⟩
  · rw [recvs_append_singleton]
    rcases hsent with ⟨data, rfl⟩ | rfl
    · simpa [Stream.undelivered, Stream.chunks, Receiver.inHand, ForwarderPhase.inHand,
        ForwarderPhase.after, hreceiver, recvMessage, Sent.isRecvFor] using hchunks
    · simpa [Stream.undelivered, Stream.chunks, Receiver.inHand, ForwarderPhase.inHand,
        ForwarderPhase.after, hreceiver, closedMessage, Sent.isRecvFor] using hchunks
  · rcases hsent with ⟨data, rfl⟩ | rfl
    · rcases hphase with hphase | hphase <;> cases hphase
    · exact hend (.inr rfl)

/-- The data of stream `i`, if it is inbound. -/
structure Data (env : Env) (client i : Nat) (s : Server) : Prop where
  absent : s.streams[i]? = none → recvs i (s.out client) = []
  present : ∀ st, s.streams[i]? = some st → st.stage ≠ .dialed →
    DataOk env client i (s.out client) st

/-- A write of the stream's forwarding task that meets the condition. -/
theorem forwarded_of_undisturbed {ok : Bool}
    (hund : s.Undisturbed env client i (.forwardWrite i ok))
    (hstep : s.step env (.forwardWrite i ok) = some t) :
    ∃ st c streamId sent, s.streams[i]? = some st ∧
      st.receiver = .forwarding c streamId (.writing sent) ∧
      t.streams[i]? = some { st with receiver := .forwarding c streamId (.after sent) } ∧
      t.out = Function.update s.out c (s.out c ++ [sent]) := by
  obtain ⟨st, hi, hstep⟩ := Option.bind_eq_some_iff.mp hstep
  split at hstep
  · rename_i c streamId sent hreceiver
    obtain ⟨agent, hc, rfl⟩ := Option.map_eq_some_iff.mp hstep
    have hsome := hund rfl st hi (c, sent) (by rw [hreceiver]; rfl) agent hc
    obtain ⟨agent', hwrite⟩ := Option.isSome_iff_exists.mp hsome
    rw [hwrite, eq_of_write hwrite]
    exact ⟨st, c, streamId, sent, hi, hreceiver, Tasks.set_self hi, out_write sent hc⟩
  · cases hstep

/-- The forwarding task of the stream writes. -/
theorem Data.forwardWrite {ok : Bool} (h : Data env client i s) (htag : Tagged env s)
    (hund : s.Undisturbed env client i (.forwardWrite i ok))
    (hstep : s.step env (.forwardWrite i ok) = some t) : Data env client i t := by
  obtain ⟨st, c, streamId, sent, hi, hreceiver, hnew, hout⟩ := forwarded_of_undisturbed hund hstep
  refine ⟨fun hnone => (nomatch hnone.symm.trans hnew), fun new hnew' hstage => ?_⟩
  obtain rfl : _ = new := Option.some.inj (hnew.symm.trans hnew')
  have hdata := h.present st hi hstage
  obtain rfl : c = client := by
    simp only [DataOk, hreceiver] at hdata
    exact hdata.1
  rw [hout, Function.update_self]
  exact hdata.wrote hreceiver (htag.forwarders i st hi c streamId sent hreceiver)

/-- **Every step that meets the condition keeps the data together.** -/
theorem Data.step (h : Data env client i s) (htag : Tagged env s) (hentry : EntryOk i s)
    (hund : s.Undisturbed env client i a) (hstep : s.step env a = some t) :
    Data env client i t := by
  by_cases hwrite : ∃ ok, a = .forwardWrite i ok
  · obtain ⟨ok, rfl⟩ := hwrite
    exact h.forwardWrite htag hund hstep
  have hmove := move_of_step hstep
  have hother : ∀ ok, a ≠ .forwardWrite i ok := fun ok heq => hwrite ⟨ok, heq⟩
  have hrecvs := htag.recvs_eq hmove hother client
  refine ⟨fun hnone => ?_, fun new hi hstage => ?_⟩
  · have hold : s.streams[i]? = none := by
      rw [List.getElem?_eq_none_iff] at hnone ⊢
      exact Nat.le_trans hmove.streams_length hnone
    exact hrecvs.trans (h.absent hold)
  suffices hdata : DataOk env client i (s.out client) new from hdata.congr hrecvs
  cases hmove.streamAfter hi with
  | kept hold => exact h.present new hold hstage
  | made hnone hnew =>
    rcases hnew with ⟨_, rfl⟩ | ⟨_, _, _, rfl⟩
    · exact absurd rfl hstage
    · exact ⟨rfl, rfl, h.absent hnone⟩
  | evicted st id hold hevicts htable hwaits hnew =>
    exact absurd ⟨st, hold, hwaits, (hentry.tabled id htable).2 st hold⟩ (hund.not_evicts hevicts)
  | dialed st c dialer target requestId hold hc hphase hnew =>
    subst hnew
    have hdialed := hentry.dials dialer (List.mem_of_getElem? hc) target requestId hphase
    exact absurd (hdialed.2 st hold) hstage
  | registered st _ hold hopened hnew =>
    subst hnew
    have hdata := h.present st hold (by rw [hopened]; simp)
    simp only [DataOk, hentry.fresh st hold hopened] at hdata ⊢
    exact hdata.2
  | notified st _ hold hregistered hnew =>
    subst hnew
    have hdata := h.present st hold (by rw [hregistered]; simp)
    unfold DataOk at hdata ⊢
    simp only
    split at hdata
    · cases hregistered.symm.trans hdata.1
    all_goals exact hdata
  | pushed st data hold hopen hnew =>
    subst hnew
    exact (h.present st hold hstage).push data hopen
  | lost st data hold hopen hgone hnew =>
    subst hnew
    have hdata := h.present st hold hstage
    unfold Receiver.gone at hgone
    split at hgone
    · rename_i hdropped
      simp only [DataOk, hdropped] at hdata
    · rename_i hdone
      simp only [DataOk, hdone] at hdata
      cases hopen.symm.trans (hdata.2.2.2 (.inl trivial)).1
    · cases hgone
  | ended st hold hnew =>
    subst hnew
    exact (h.present st hold hstage).ended
  | claimed st l listener info ha hold hl hphase htable hwaits hnew =>
    subst ha hnew
    have hid := (hentry.tabled info.streamId htable).2 st hold
    obtain rfl := hund listener hl info (by rw [hphase]; rfl) ⟨st, hold, hwaits, hid⟩
    exact (h.present st hold hstage).claim hwaits hid
  | took st c streamId data rest hold hreceiver hqueue hnew =>
    subst hnew
    exact (h.present st hold hstage).took hreceiver hqueue
  | closing st c streamId hold hreceiver hqueue hclosed hnew =>
    subst hnew
    exact (h.present st hold hstage).closing hreceiver hqueue hclosed
  | wrote _ _ _ _ ok ha | failed _ _ _ _ ok _ ha => exact absurd ha (hother ok)

/-- What holds along a run that meets the condition. -/
structure Handled (env : Env) (client i : Nat) (s : Server) : Prop where
  tagged : Tagged env s
  entry : EntryOk i s
  keepUp : KeepUp client s
  notices : s.notices client i = s.expected i
  data : Data env client i s

/-- A step that meets the condition keeps the invariant. -/
theorem Handled.step (h : Handled env client i s) (hund : s.Undisturbed env client i a)
    (hstep : s.step env a = some t) : Handled env client i t where
  tagged := h.tagged.step (move_of_step hstep)
  entry := h.entry.step hund hstep
  keepUp := h.keepUp.step hund (move_of_step hstep)
  notices := notices_expected_step h.notices h.tagged h.keepUp hund hstep
  data := h.data.step h.tagged h.entry hund hstep

theorem handled_init (env : Env) (client i : Nat) :
    Handled env client i (serverMachine env).init where
  tagged := ⟨fun _ hmem => (nomatch hmem), fun _ hmem => (nomatch hmem), fun _ _ hi => (nomatch hi)⟩
  entry := ⟨fun _ htable => (nomatch htable), fun _ hi => (nomatch hi), fun _ hi => (nomatch hi),
    fun _ hmem => (nomatch hmem)⟩
  keepUp := fun _ hmem => nomatch hmem
  notices := rfl
  data := ⟨fun _ => rfl, fun _ hi => nomatch hi⟩

/-- A stream that is broadcast is delivered. -/
theorem Handled.delivered (h : Handled env client i s) (hi : s.streams[i]? = some st)
    (hstage : st.stage = .notified) : s.Delivered env client i st := by
  have hdata := h.data.present st hi (by rw [hstage]; simp)
  have hincoming : s.notices client i = [st.incoming] := by
    rw [h.notices, expected_eq hi, if_pos hstage]
  cases hreceiver : st.receiver with
  | held =>
    simp only [DataOk, hreceiver] at hdata
    cases hstage.symm.trans hdata.1
  | entry =>
    simp only [DataOk, hreceiver] at hdata
    refine ⟨hincoming, ?_, .inl hreceiver⟩
    rw [hdata.2]
    simp only [Stream.undelivered, Stream.chunks, hreceiver, Receiver.inHand, hdata.1,
      List.nil_append]
  | forwarding c streamId phase =>
    simp only [DataOk, hreceiver] at hdata
    obtain ⟨rfl, rfl, hchunks, hend⟩ := hdata
    refine ⟨hincoming, hchunks, .inr ⟨phase, hreceiver, fun hdone => ?_⟩⟩
    obtain ⟨hclosed, hqueue⟩ := hend (.inl hdone)
    refine ⟨hclosed, ?_⟩
    simp [Stream.undelivered, hreceiver, Receiver.inHand, ForwarderPhase.inHand, hqueue, hdone]
  | dropped => simp only [DataOk, hreceiver] at hdata

end Server

/-- **Undisturbed streams are delivered.** In every run that meets the condition for a client and a
stream, once the stream is broadcast, the client gets one `incoming` for it and every chunk the
remote sends on it. -/
theorem delivered_of_undisturbed (env : Env) (client i : Nat) (as : List ServerStep) (s : Server)
    (hrun : (serverMachine env).run (serverMachine env).init as = some s)
    (hcond : (serverMachine env).Along (Server.Undisturbed env client i)
      (serverMachine env).init as) :
    ∀ st, s.streams[i]? = some st → st.stage = .notified → s.Delivered env client i st := by
  have hinv : s.Handled env client i :=
    (serverMachine env).along_invariant (I := Server.Handled env client i)
      (fun _ _ _ h hund hstep => h.step hund hstep) (Server.handled_init env client i) hcond hrun
  exact fun st hi hstage => hinv.delivered hi hstage

/-- An agent reconnects and listens again; the task of its first `listen` comes second to the stream
that the remote then opens. -/
def reconnectedSteps : List ServerStep :=
  [.connect, .receive 0 (.listen ['m'] none none) none, .reply 0 true, .hangUp 0, .readError 0,
    .connect, .receive 1 (.listen ['m'] none none) none, .reply 1 true,
    .opened 2 ['b'] .bulk, .register 0, .notify 0, .listenerRecv 1, .listenerTake 1,
    .listenerRecv 0, .listenerTake 0, .listenerWrite 0 true, .listenerWrite 1 true,
    .push 0 [7], .forwardRecv 0, .push 0 [8], .forwardWrite 0 true, .dropSender 0]

/-- The condition is met by a run with a reconnected agent, with data on its way at the end. -/
theorem delivered_reconnectedSteps :
    ∃ s st, (serverMachine sampleEnv).run (serverMachine sampleEnv).init reconnectedSteps = some s ∧
      s.streams[0]? = some st ∧ st.stage = .notified ∧
      incomings 0 (s.out 1) = [.incoming 2 ['b'] .bulk] ∧
      recvs 0 (s.out 1) = [.recv 2 [Char.ofNat 7]] ∧
      st.undelivered sampleEnv = [.recv 2 [Char.ofNat 8]] ∧ s.Delivered sampleEnv 1 0 st := by
  obtain ⟨s, hs, st, hi, hstage, hincomings, hrecvs, hundelivered⟩ :=
    (serverMachine sampleEnv).exists_run reconnectedSteps
      (fun s => ∃ st ∈ s.streams[0]?, st.stage = .notified ∧
        incomings 0 (s.out 1) = [.incoming 2 ['b'] .bulk] ∧
        recvs 0 (s.out 1) = [.recv 2 [Char.ofNat 7]] ∧
        st.undelivered sampleEnv = [.recv 2 [Char.ofNat 8]]) (by decide)
  exact ⟨s, st, hs, hi, hstage, hincomings, hrecvs, hundelivered,
    delivered_of_undisturbed sampleEnv 1 0 _ s hs (by decide) st hi hstage⟩

/-- An agent sends `listen` twice. -/
def listenTwiceSteps : List ServerStep :=
  [.connect, .receive 0 (.listen ['m'] none none) none, .reply 0 true,
    .receive 0 (.listen ['m'] none none) none, .reply 0 true]

/-- An agent reconnects and listens again. -/
def reconnectSteps : List ServerStep :=
  [.connect, .receive 0 (.listen ['m'] none none) none, .reply 0 true, .hangUp 0, .readError 0,
    .connect, .receive 1 (.listen ['m'] none none) none, .reply 1 true]

/-- A stream arrives, and both tasks of `listen` announce it. -/
def announceTwiceSteps : List ServerStep :=
  [.opened 2 ['b'] .bulk, .register 0, .notify 0, .listenerRecv 0, .listenerTake 0,
    .listenerWrite 0 true, .listenerRecv 1, .listenerTake 1, .listenerWrite 1 true]

/-- A stream arrives, and the task of a client that is gone claims its receiver. -/
def staleClaimSteps : List ServerStep :=
  [.opened 2 ['b'] .bulk, .register 0, .notify 0, .listenerRecv 0, .listenerTake 0,
    .listenerWrite 0 true, .listenerRecv 1, .listenerTake 1, .listenerWrite 1 true,
    .push 0 [7], .forwardRecv 0, .forwardWrite 0 true]

/-- **The sole listening client can get two notifications, and no data.** -/
theorem incoming_not_delivered :
    (∃ s t, (serverMachine sampleEnv).run (serverMachine sampleEnv).init listenTwiceSteps = some s ∧
      s.SoleListening 0 ∧ s.streams = [] ∧
      (serverMachine sampleEnv).run s announceTwiceSteps = some t ∧
      incomings 0 (t.out 0) = [.incoming 2 ['b'] .bulk, .incoming 2 ['b'] .bulk]) ∧
    ∃ s t st, (serverMachine sampleEnv).run (serverMachine sampleEnv).init reconnectSteps = some s ∧
      s.SoleListening 1 ∧ s.streams = [] ∧
      (serverMachine sampleEnv).run s staleClaimSteps = some t ∧
      t.streams[0]? = some st ∧ st.sent = [[7]] ∧ st.receiver.gone = true ∧
      (t.out 1).map Sent.msg = [.listening ['m'], .incoming 2 ['b'] .bulk] := by
  constructor
  · obtain ⟨s, hs, hsole, hnone, t, ht, htwice⟩ :=
      (serverMachine sampleEnv).exists_run listenTwiceSteps
        (fun s => s.SoleListening 0 ∧ s.streams = [] ∧
          ∃ t ∈ (serverMachine sampleEnv).run s announceTwiceSteps,
            incomings 0 (t.out 0) = [.incoming 2 ['b'] .bulk, .incoming 2 ['b'] .bulk]) (by decide)
    exact ⟨s, t, hs, hsole, hnone, ht, htwice⟩
  · obtain ⟨s, hs, hsole, hnone, t, ht, st, hi, hlost⟩ :=
      (serverMachine sampleEnv).exists_run reconnectSteps
        (fun s => s.SoleListening 1 ∧ s.streams = [] ∧
          ∃ t ∈ (serverMachine sampleEnv).run s staleClaimSteps, ∃ st ∈ t.streams[0]?,
            st.sent = [[7]] ∧ st.receiver.gone = true ∧
            (t.out 1).map Sent.msg = [.listening ['m'], .incoming 2 ['b'] .bulk]) (by decide)
    exact ⟨s, t, st, hs, hsole, hnone, ht, hi, hlost⟩

end Roboat.Daemon.Ipc
