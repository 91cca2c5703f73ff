import Roboat.Daemon.ServerViews

/-! # What an agent gets of an inbound stream

An inbound stream is broadcast to the tasks that `listen` has left behind. Each of them writes an
`incoming` to its own client, and the first to look takes the stream's receiver. The tasks do not
end with their client, and a second `listen` adds another one. `Undisturbed` says when a stream
escapes all this, for one client: the client has one task when the stream is broadcast, no task of
another client gets to the receiver first, nobody interferes with the stream's entry before the
receiver is claimed, the client's task does not fall behind, and what is written about the stream
arrives. Then the client gets one `incoming` and all of the data, in order. -/

namespace Roboat.Daemon.Ipc

/-- The `incoming` message for a stream. -/
def Stream.incoming (st : Stream) : DaemonMsg := .incoming st.id st.fromAgentId st.cls

/-- The `recv` messages for the chunks the remote has sent. -/
def Stream.chunks (env : Env) (st : Stream) : List DaemonMsg :=
  st.sent.map fun data => .recv st.id (env.encode data)

/-- The data a forwarding task has in hand. -/
def ForwarderPhase.inHand : ForwarderPhase → List DaemonMsg
  | writing ⟨.recv streamId data, _, _⟩ => [.recv streamId data]
  | _ => []

/-- The data between a receive channel and the connection. -/
def Receiver.inHand : Receiver → List DaemonMsg
  | forwarding _ _ phase => phase.inHand
  | _ => []

/-- The chunks of a stream that are not yet written. -/
def Stream.undelivered (env : Env) (st : Stream) : List DaemonMsg :=
  st.receiver.inHand ++ st.queue.map fun data => .recv st.id (env.encode data)

/-- The `incoming` message for a broadcast stream. -/
def IncomingStreamInfo.incoming (info : IncomingStreamInfo) : DaemonMsg :=
  .incoming info.streamId info.fromAgentId info.cls

/-- The notification about stream `i` that a task of `listen` is working on. -/
def ListenerPhase.pending (i : Nat) : ListenerPhase → List DaemonMsg
  | waiting => []
  | taking info => if info.owner = i then [info.incoming] else []
  | announcing sent => if sent.isIncomingFor i then [sent.msg] else []

/-- The notifications about stream `i` that a task of `listen` is going to write. -/
def Listener.pending (broadcast : List IncomingStreamInfo) (i : Nat) (listener : Listener) :
    List DaemonMsg :=
  listener.phase.pending i ++
    ((broadcast.drop listener.next).filter fun info => info.owner = i).map
      IncomingStreamInfo.incoming

/-- The notifications about stream `i` that a task of `listen` is going to write to a client. -/
def Listener.pendingFor (client : Nat) (broadcast : List IncomingStreamInfo) (i : Nat)
    (listener : Listener) : List DaemonMsg :=
  if listener.client = client then listener.pending broadcast i else []

/-- The broadcast stream whose receiver a task of `listen` is about to take. -/
def ListenerPhase.info : ListenerPhase → Option IncomingStreamInfo
  | taking info => some info
  | _ => none

/-- The message a task of `listen` is about to write. -/
def ListenerPhase.message : ListenerPhase → Option Sent
  | announcing sent => some sent
  | _ => none

/-- The client and the message of a forwarding task that is about to write. -/
def Receiver.message : Receiver → Option (Nat × Sent)
  | forwarding c _ (.writing sent) => some (c, sent)
  | _ => none

/-- `listening`. -/
def DaemonMsg.isListening : DaemonMsg → Bool
  | listening _ => true
  | _ => false

namespace Server

/-- The notifications about stream `i` that a client's tasks of `listen` are going to write. -/
def unannounced (s : Server) (client i : Nat) : List DaemonMsg :=
  s.listeners.flatMap (Listener.pendingFor client s.broadcast i)

/-- The notifications about stream `i` that a client has got or is going to get. -/
def notices (s : Server) (client i : Nat) : List DaemonMsg :=
  incomings i (s.out client) ++ s.unannounced client i

/-- A client that is connected and has completed a `listen`. -/
def Listening (s : Server) (c : Nat) : Prop :=
  ∃ client ∈ s.clients[c]?, client.connected = true ∧ ∃ x ∈ client.out, x.msg.isListening = true

instance (s : Server) (c : Nat) : Decidable (s.Listening c) :=
  inferInstanceAs (Decidable (∃ client ∈ s.clients[c]?, _))

/-- The only connected client that has completed a `listen`. -/
def SoleListening (s : Server) (client : Nat) : Prop :=
  s.Listening client ∧ ∀ c < s.clients.length, s.Listening c → c = client

instance (s : Server) (client : Nat) : Decidable (s.SoleListening client) :=
  inferInstanceAs (Decidable (_ ∧ _))

/-- **A stream is delivered** to a client: it gets one `incoming` and every chunk, in order. Each of
them is written or on its way there: the notification with a task of this client, a chunk in the
channel or with the forwarding task of this client, which ends only after the stream is closed and
every chunk is written. -/
structure Delivered (env : Env) (s : Server) (client i : Nat) (st : Stream) : Prop where
  incoming : s.notices client i = [st.incoming]
  chunks : recvs i (s.out client) ++ st.undelivered env = st.chunks env
  forwarding : st.receiver = .entry ∨ ∃ phase, st.receiver = .forwarding client st.id phase ∧
    (phase = .done → st.closed = true ∧ st.undelivered env = [])

/-- The receiver of stream `i` waits in the entry under an id. -/
def Waits (s : Server) (i : Nat) (id : UInt32) : Prop :=
  ∃ st ∈ s.streams[i]?, st.receiver = .entry ∧ st.id = id

instance (s : Server) (i : Nat) (id : UInt32) : Decidable (s.Waits i id) :=
  inferInstanceAs (Decidable (∃ st ∈ s.streams[i]?, _))

/-- **The condition**, for one client and one stream: when the stream is broadcast, the client has
one task of `listen`; as long as the stream's receiver waits in the table, its entry is neither
removed nor replaced, and only a task of this client looks there; no task of the client is a full
channel behind when a stream is broadcast; and what its tasks write about the stream arrives. -/
def Undisturbed (env : Env) (client i : Nat) (s : Server) : ServerStep → Prop
  | .register j => ∀ st ∈ s.streams[j]?, ¬ s.Waits i st.id
  | .dialDone c => ∀ dialer ∈ s.clients[c]?, ∀ st ∈ s.dialResult dialer, ¬ s.Waits i st.id
  | .removeEntry id => ¬ s.Waits i id
  | .receive _ (.close id) _ => ¬ s.Waits i id
  | .notify j =>
    (∀ listener ∈ s.listeners, listener.client = client →
      s.broadcast.length < listener.next + broadcastCapacity) ∧
    (j = i → (s.listeners.filter fun listener => listener.client = client).length = 1)
  | .listenerTake l => ∀ listener ∈ s.listeners[l]?, ∀ info ∈ listener.phase.info,
      s.Waits i info.streamId → listener.client = client
  | .listenerWrite l ok => ∀ listener ∈ s.listeners[l]?, ∀ sent ∈ listener.phase.message,
      listener.client = client ∧ sent.isIncomingFor i = true →
        ∀ c ∈ s.clients[listener.client]?, (c.write env sent ok).isSome = true
  | .forwardWrite j ok => j = i → ∀ st ∈ s.streams[j]?, ∀ p ∈ st.receiver.message,
      ∀ c ∈ s.clients[p.1]?, (c.write env p.2 ok).isSome = true
  | _ => True

instance (env : Env) (client i : Nat) (s : Server) :
    ∀ a, Decidable (s.Undisturbed env client i a)
  | .register j => Option.decidableForallMem s.streams[j]?
  | .dialDone c => Option.decidableForallMem s.clients[c]?
  | .removeEntry id | .receive _ (.close id) _ => instDecidableNot (p := s.Waits i id)
  | .notify _ => instDecidableAnd
  | .listenerTake l | .listenerWrite l _ => Option.decidableForallMem s.listeners[l]?
  | .forwardWrite _ _ => instDecidableForall
  | .receive _ (.listen ..) _ | .receive _ .unlisten _ | .receive _ (.dial ..) _
  | .receive _ (.send ..) _ | .receive _ .ping _ | .connect | .hangUp .. | .readError ..
  | .dialOpened .. | .dialFailed .. | .reply .. | .opened .. | .push .. | .dropSender ..
  | .listenerRecv .. | .forwardRecv .. => isTrue trivial

variable {env : Env} {s t : Server} {a : ServerStep} {client c i j l : Nat} {st new : Stream}

/-! ## Streams and their entries -/

/-- What stays of a stream in a step. -/
theorem StreamAfter.same (h : StreamAfter env s a i new) (hi : s.streams[i]? = some st) :
    new.id = st.id ∧ new.incoming = st.incoming ∧
      (new.stage = st.stage ∨ (st.stage = .opened ∧ new.stage = .registered) ∨
        (a = .notify i ∧ st.stage = .registered ∧ new.stage = .notified)) := by
  cases h with
  | kept hold =>
    obtain rfl : st = new := Option.some.inj (hi.symm.trans hold)
    exact ⟨rfl, rfl, .inl rfl⟩
  | made hnone => cases hnone.symm.trans hi
  | registered old _ hold hstage hnew =>
    obtain rfl : st = old := Option.some.inj (hi.symm.trans hold)
    subst hnew
    exact ⟨rfl, rfl, .inr (.inl ⟨hstage, rfl⟩)⟩
  | notified old ha hold hstage hnew =>
    obtain rfl : st = old := Option.some.inj (hi.symm.trans hold)
    subst hnew
    exact ⟨rfl, rfl, .inr (.inr ⟨ha, hstage, rfl⟩)⟩
  | evicted old _ hold _ _ _ hnew | dialed old _ _ _ _ hold _ _ hnew | pushed old _ hold _ hnew
  | lost old _ hold _ _ hnew | ended old hold hnew | claimed old _ _ _ _ hold _ _ _ _ hnew
  | took old _ _ _ _ hold _ _ hnew | closing old _ _ hold _ _ _ hnew
  | wrote old _ _ _ _ _ hold _ hnew | failed old _ _ _ _ _ _ hold _ _ _ hnew =>
    obtain rfl : st = old := Option.some.inj (hi.symm.trans hold)
    subst hnew
    exact ⟨rfl, rfl, .inl rfl⟩

/-- A stream was there before, or is made now. -/
theorem StreamAfter.before (h : StreamAfter env s a i new) :
    (∃ st, s.streams[i]? = some st) ∨
      (s.streams[i]? = none ∧ new.receiver = .held ∧ (new.stage = .dialed ∨ new.stage = .opened) ∧
        new.queue = new.sent) := by
  cases h with
  | made hnone hnew =>
    refine .inr ⟨hnone, ?_⟩
    rcases hnew with ⟨_, rfl⟩ | ⟨_, _, _, rfl⟩
    · exact ⟨rfl, .inl rfl, rfl⟩
    · exact ⟨rfl, .inr rfl, rfl⟩
  | kept hold => exact .inl ⟨new, hold⟩
  | registered old _ hold | notified old _ hold | evicted old _ hold | dialed old _ _ _ _ hold
  | pushed old _ hold | lost old _ hold | ended old hold | claimed old _ _ _ _ hold
  | took old _ _ _ _ hold | closing old _ _ hold | wrote old _ _ _ _ _ hold
  | failed old _ _ _ _ _ _ hold => exact .inl ⟨old, hold⟩

/-- Streams are not forgotten. -/
theorem Move.streams_length (h : Move env s a t) : s.streams.length ≤ t.streams.length := by
  have hdrop : ∀ id, (s.dropEntry id).streams.length = s.streams.length := by
    intro id
    unfold Server.dropEntry
    split
    · simp [Server.setStream]
    · rfl
  cases h with
  | dropEntry => exact (hdrop _).ge
  | dialDone =>
    simp [Server.dialDone, Server.setClient, Server.setStream, Server.insertEntry, hdrop]
  | register => simp [Server.setStream, Server.insertEntry, hdrop]
  | _ => simp [Server.setStream, Server.setClient, Server.setListener]

/-- The entries of the table for stream `i`. -/
structure EntryOk (i : Nat) (s : Server) : Prop where
  /-- An entry for the stream is under its id. -/
  tabled : ∀ id, s.table id = some i → i < s.streams.length ∧
    ∀ st, s.streams[i]? = some st → st.id = id
  /-- A receiver that waits in an entry can be found there. -/
  entry : ∀ st, s.streams[i]? = some st → st.receiver = .entry → s.table st.id = some i
  /-- A stream that is not yet in the table still has its receiver at hand. -/
  fresh : ∀ st, s.streams[i]? = some st → st.stage = .opened → st.receiver = .held
  /-- A dial returns only the stream it has made. -/
  dials : ∀ client ∈ s.clients, ∀ target requestId,
    client.handler = .dialing target requestId (some i) →
    i < s.streams.length ∧ ∀ st, s.streams[i]? = some st → st.stage = .dialed

/-- The table after a step: an entry for stream `i` is an old one, or made now, under its id. -/
theorem Move.table_after {id : UInt32} (h : Move env s a t) (htable : t.table id = some i) :
    s.table id = some i ∨ ∃ st, s.streams[i]? = some st ∧ st.id = id := by
  have hupdate : ∀ (key : UInt32) (entry : Option Nat),
      Function.update s.table key entry id = some i → s.table id = some i ∨
        (key = id ∧ entry = some i) := by
    intro key entry heq
    by_cases hid : id = key
    · subst hid
      rw [Function.update_self] at heq
      exact .inr ⟨rfl, heq⟩
    · rw [Function.update_of_ne hid] at heq
      exact .inl heq
  cases h with
  | @dropEntry _ key =>
    rw [table_dropEntry] at htable
    rcases hupdate key none htable with hold | ⟨-, hnone⟩
    · exact .inl hold
    · cases hnone
  | @dialDone c j client target requestId st hc hphase hj | @register j st hj hstage =>
    rcases hupdate st.id (some j) htable with hold | ⟨hid, heq⟩
    · exact .inl hold
    · cases heq
      exact .inr ⟨st, hj, hid⟩
  | _ => exact .inl htable

/-- A step that meets the condition does not touch an entry where the receiver waits. -/
theorem Undisturbed.not_evicts {id : UInt32} (h : s.Undisturbed env client i a)
    (hevicts : Evicts s a id) : ¬ s.Waits i id := by
  cases hevicts with
  | removes ha =>
    cases a with
    | removeEntry id' =>
      cases ha
      exact h
    | receive c msg failure =>
      cases msg with
      | close id' =>
        cases ha
        exact h
      | _ => cases ha
    | _ => cases ha
  | register hj => exact h _ hj
  | dialDone hc hphase hj => exact h _ hc _ (by simp [dialResult, hphase, hj])

/-- The table under another id than those of a step. -/
theorem Move.table_eq {id : UInt32} (h : Move env s a t)
    (hother : ∀ id', Evicts s a id' → id' ≠ id) :
    t.table id = s.table id := by
  cases h with
  | dropEntry ha =>
    rw [table_dropEntry, Function.update_of_ne (Ne.symm (hother _ (.removes ha)))]
  | dialDone hc hphase hj =>
    exact Function.update_of_ne (Ne.symm (hother _ (.dialDone hc hphase hj))) _ _
  | register hj => exact Function.update_of_ne (Ne.symm (hother _ (.register hj))) _ _
  | _ => rfl

/-- The handlers after a step: a dial with a stream is an old one, or has made the stream now. -/
theorem Move.dials_after {dialer : Client} {target : Str} {requestId : Option Str}
    (h : Move env s a t) (hmem : dialer ∈ t.clients)
    (hphase : dialer.handler = .dialing target requestId (some i)) :
    (∃ old ∈ s.clients, old.handler = .dialing target requestId (some i)) ∨
      (i = s.streams.length ∧ ∃ id, t.streams[i]? = some (dialedStream id)) := by
  have hset : ∀ (n : Nat) (x : Client) (clients : List Client), dialer ∈ clients.set n x →
      dialer ∈ clients ∨ dialer = x := fun n x clients hx => List.mem_or_eq_of_mem_set hx
  cases h with
  | connect =>
    rcases List.mem_append.mp hmem with hold | hnew
    · exact .inl ⟨dialer, hold, hphase⟩
    · rw [List.mem_singleton.mp hnew] at hphase
      cases hphase
  | hangUp hc | announced _ _ hc | forwarded _ _ hc =>
    rcases hset _ _ _ hmem with hold | rfl
    · exact .inl ⟨dialer, hold, hphase⟩
    · exact .inl ⟨_, List.mem_of_getElem? hc, hphase⟩
  | handler hc hplain =>
    rcases hset _ _ _ hmem with hold | rfl
    · exact .inl ⟨dialer, hold, hphase⟩
    · simp only at hphase
      rw [hphase] at hplain
      cases hplain
  | listen hc | replied hc =>
    rcases hset _ _ _ hmem with hold | rfl
    · exact .inl ⟨dialer, hold, hphase⟩
    · cases hphase
  | dropEntry =>
    rw [clients_dropEntry] at hmem
    exact .inl ⟨dialer, hmem, hphase⟩
  | @dialOpened _ _ _ _ id hc =>
    rcases hset _ _ _ hmem with hold | rfl
    · exact .inl ⟨dialer, hold, hphase⟩
    · cases hphase
      exact .inr ⟨rfl, id, by simp [Server.setClient]⟩
  | dialDone hc =>
    rcases hset _ _ _ hmem with hold | rfl
    · exact .inl ⟨dialer, by simpa [Server.setStream, Server.insertEntry] using hold, hphase⟩
    · cases hphase
  | register =>
    exact .inl ⟨dialer, by simpa [Server.setStream, Server.insertEntry] using hmem, hphase⟩
  | _ => exact .inl ⟨dialer, hmem, hphase⟩

/-- Registering a stream makes its entry. -/
theorem table_of_register (hstep : s.step env (.register i) = some t)
    (hi : s.streams[i]? = some st) : t.table st.id = some i := by
  obtain ⟨st', hi', hstep⟩ := Option.bind_eq_some_iff.mp hstep
  obtain rfl : st = st' := Option.some.inj (hi.symm.trans hi')
  split_ifs at hstep
  cases hstep
  exact Function.update_self _ _ _

/-- A stream that is there is there afterwards, as the same stream. -/
theorem Move.same_after (h : Move env s a t) (hlt : i < s.streams.length)
    (hi : t.streams[i]? = some new) : ∃ st, s.streams[i]? = some st ∧ new.id = st.id ∧
      new.incoming = st.incoming ∧ (new.stage = st.stage ∨
        (st.stage = .opened ∧ new.stage = .registered) ∨
        (a = .notify i ∧ st.stage = .registered ∧ new.stage = .notified)) := by
  obtain ⟨st, hst⟩ := Tasks.exists_of_lt hlt
  exact ⟨st, hst, (h.streamAfter hi).same hst⟩

/-- **Every step that meets the condition keeps the entries for the stream.** -/
theorem EntryOk.step (h : EntryOk i s) (hund : s.Undisturbed env client i a)
    (hstep : s.step env a = some t) : EntryOk i t := by
  have hmove := move_of_step hstep
  refine ⟨fun id htable => ?_, fun new hi hentry => ?_, fun new hi hopened => ?_,
    fun dialer hmem target requestId hphase => ?_⟩
  · have hold : i < s.streams.length ∧ ∀ st, s.streams[i]? = some st → st.id = id := by
      rcases hmove.table_after htable with hold | ⟨st, hi, hid⟩
      · exact h.tabled id hold
      · refine ⟨(List.getElem?_eq_some_iff.mp hi).1, fun st' hi' => ?_⟩
        obtain rfl : st = st' := Option.some.inj (hi.symm.trans hi')
        exact hid
    refine ⟨Nat.lt_of_lt_of_le hold.1 hmove.streams_length, fun new hi => ?_⟩
    obtain ⟨st, hst, hid, -⟩ := hmove.same_after hold.1 hi
    exact hid.trans (hold.2 st hst)
  · -- a receiver that waits keeps its entry, whatever else the step does to the table
    have hkeep : ∀ st, s.streams[i]? = some st → st.receiver = .entry → t.table st.id = some i := by
      intro st hst hwaits
      rw [hmove.table_eq fun id hevicts heq => ?_]
      · exact h.entry st hst hwaits
      · exact hund.not_evicts hevicts ⟨st, hst, hwaits, heq.symm⟩
    cases hmove.streamAfter hi with
    | kept hold => exact hkeep new hold hentry
    | made _ hnew => rcases hnew with ⟨_, rfl⟩ | ⟨_, _, _, rfl⟩ <;> cases hentry
    | registered st ha hold _ hnew =>
      subst ha hnew
      have htable := table_of_register hstep hold
      exact htable
    | notified st _ hold _ hnew | pushed st _ hold _ hnew | lost st _ hold _ _ hnew
    | ended st hold hnew =>
      subst hnew
      exact hkeep st hold hentry
    | evicted _ _ _ _ _ _ hnew | dialed _ _ _ _ _ _ _ _ hnew | claimed _ _ _ _ _ _ _ _ _ _ hnew
    | took _ _ _ _ _ _ _ _ hnew | closing _ _ _ _ _ _ _ hnew | wrote _ _ _ _ _ _ _ _ hnew
    | failed _ _ _ _ _ _ _ _ _ _ _ hnew =>
      subst hnew
      cases hentry
  · cases hmove.streamAfter hi with
    | kept hold => exact h.fresh new hold hopened
    | made _ hnew => rcases hnew with ⟨_, rfl⟩ | ⟨_, _, _, rfl⟩ <;> rfl
    | registered _ _ _ _ hnew | notified _ _ _ _ hnew =>
      subst hnew
      cases hopened
    | dialed st c dialer target requestId hold hc hphase hnew =>
      subst hnew
      have hdialed := (h.dials dialer (List.mem_of_getElem? hc) target requestId hphase).2 st hold
      cases hopened.symm.trans hdialed
    | pushed st _ hold _ hnew | lost st _ hold _ _ hnew | ended st hold hnew =>
      subst hnew
      exact h.fresh st hold hopened
    | evicted st _ hold _ _ hentry hnew | claimed st _ _ _ _ hold _ _ _ hentry hnew =>
      subst hnew
      cases hentry.symm.trans (h.fresh st hold hopened)
    | took st _ _ _ _ hold hrec _ hnew | closing st _ _ hold hrec _ _ hnew
    | wrote st _ _ _ _ _ hold hrec hnew | failed st _ _ _ _ _ _ hold hrec _ _ hnew =>
      subst hnew
      cases hrec.symm.trans (h.fresh st hold hopened)
  · rcases hmove.dials_after hmem hphase with ⟨old, hold, hphase'⟩ | ⟨hlen, id, hi⟩
    · obtain ⟨hlt, hdialed⟩ := h.dials old hold target requestId hphase'
      refine ⟨Nat.lt_of_lt_of_le hlt hmove.streams_length, fun new hi => ?_⟩
      obtain ⟨st, hst, -, -, hstage⟩ := hmove.same_after hlt hi
      have hst' := hdialed st hst
      rcases hstage with heq | ⟨hopened, -⟩ | ⟨-, hregistered, -⟩
      · exact heq.trans hst'
      · cases hopened.symm.trans hst'
      · cases hregistered.symm.trans hst'
    · refine ⟨(List.getElem?_eq_some_iff.mp hi).1, fun new hi' => ?_⟩
      cases hi.symm.trans hi'
      rfl

end Server

end Roboat.Daemon.Ipc
