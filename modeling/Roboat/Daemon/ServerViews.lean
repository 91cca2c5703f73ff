import Roboat.Daemon.IpcServer

/-! # One stream and one connection of the IPC server

A step of the server concerns few of its parts. `OutAfter` says what it writes on the connections,
and who writes it; `StreamAfter` says what it does to one stream. Together with `Tagged`, which says
what the tasks have in hand to write, they are what statements about a single stream need of the
step function. -/

namespace Roboat.Daemon.Ipc

/-- An `incoming` message for stream `i`. -/
def Sent.isIncomingFor (i : Nat) (x : Sent) : Bool :=
  match x.msg with
  | .incoming _ _ _ => x.stream == some i
  | _ => false

/-- A `recv` message for stream `i`. -/
def Sent.isRecvFor (i : Nat) (x : Sent) : Bool :=
  match x.msg with
  | .recv _ _ => x.stream == some i
  | _ => false

/-- The `incoming` messages for stream `i` on a connection. -/
def incomings (i : Nat) (out : List Sent) : List DaemonMsg :=
  (out.filter (Sent.isIncomingFor i)).map Sent.msg

/-- The `recv` messages for stream `i` on a connection. -/
def recvs (i : Nat) (out : List Sent) : List DaemonMsg :=
  (out.filter (Sent.isRecvFor i)).map Sent.msg

/-- A message about no stream is not for a stream. -/
theorem plain_not_for (msg : DaemonMsg) (i : Nat) :
    (Sent.plain msg).isIncomingFor i = false ∧ (Sent.plain msg).isRecvFor i = false := by
  cases msg <;> exact ⟨rfl, rfl⟩

@[simp] theorem recvs_append_singleton (i : Nat) (out : List Sent) (x : Sent) :
    recvs i (out ++ [x]) = recvs i out ++ if x.isRecvFor i then [x.msg] else [] := by
  by_cases hx : x.isRecvFor i <;> simp [recvs, hx]

@[simp] theorem incomings_append_singleton (i : Nat) (out : List Sent) (x : Sent) :
    incomings i (out ++ [x]) = incomings i out ++ if x.isIncomingFor i then [x.msg] else [] := by
  by_cases hx : x.isIncomingFor i <;> simp [incomings, hx]

/-- `incoming` is for the stream it is about. -/
theorem isIncomingFor_message (info : IncomingStreamInfo) (forwarder : Option Nat) (i : Nat) :
    (info.message forwarder).isIncomingFor i = decide (info.owner = i) := by
  simp [Sent.isIncomingFor, IncomingStreamInfo.message, beq_eq_decide]

namespace Server

/-- What was written on the connection of client `c`. -/
def out (s : Server) (c : Nat) : List Sent :=
  match s.clients[c]? with
  | some client => client.out
  | none => []

variable {env : Env} {s t : Server} {a : ServerStep} {c i j : Nat} {client : Client}
  {st new : Stream}

theorem out_eq (hc : s.clients[c]? = some client) : s.out c = client.out := by
  simp only [out, hc]

/-- A client changes. -/
theorem out_setClient (new : Client) (hc : s.clients[c]? = some client) :
    (s.setClient c new).out = Function.update s.out c new.out := by
  funext d
  by_cases hdc : d = c
  · subst hdc
    rw [Function.update_self, out_eq (Tasks.set_self hc)]
  · rw [Function.update_of_ne hdc]
    simp only [out, setClient]
    rw [List.getElem?_set_ne (Ne.symm hdc)]

/-- A client changes, and nothing is written. -/
theorem out_setClient_same (new : Client) (hc : s.clients[c]? = some client)
    (hout : new.out = client.out) : (s.setClient c new).out = s.out := by
  rw [out_setClient new hc, hout, ← out_eq hc, Function.update_eq_self]

/-- A message is written. -/
theorem out_write (sent : Sent) (hc : s.clients[c]? = some client) :
    (s.setClient c { client with out := client.out ++ [sent] }).out
      = Function.update s.out c (s.out c ++ [sent]) := by
  rw [out_setClient _ hc, out_eq hc]

@[simp] theorem out_dropEntry (id : UInt32) : (s.dropEntry id).out = s.out := by
  funext c
  simp [out]

/-! ## Who writes -/

/-- Who has a message in hand for client `c`, in a step. -/
inductive Writes (s : Server) (a : ServerStep) (c : Nat) (sent : Sent) : Prop
  | handler (client : Client) (hc : s.clients[c]? = some client)
      (hphase : client.handler = .writing sent)
  | listener (l : Nat) (ok : Bool) (listener : Listener) (ha : a = .listenerWrite l ok)
      (hl : s.listeners[l]? = some listener) (hphase : listener.phase = .announcing sent)
      (hc : listener.client = c)
  | forwarder (i : Nat) (ok : Bool) (st : Stream) (streamId : UInt32) (ha : a = .forwardWrite i ok)
      (hi : s.streams[i]? = some st)
      (hreceiver : st.receiver = .forwarding c streamId (.writing sent))

/-- What a step writes. -/
inductive OutAfter (s : Server) (a : ServerStep) (out : Nat → List Sent) : Prop
  | same (hout : out = s.out)
  | wrote (c : Nat) (sent : Sent) (hwrites : Writes s a c sent)
      (hout : out = Function.update s.out c (s.out c ++ [sent]))

/-- **Every step writes at most one message.** -/
theorem Move.outAfter (h : Move env s a t) : OutAfter s a t.out := by
  cases h with
  | connect =>
    refine .same (funext fun c => ?_)
    simp only [Server.out]
    rcases Nat.lt_trichotomy c s.clients.length with hc | rfl | hc
    · rw [List.getElem?_append_left hc]
    · simp
    · rw [List.getElem?_eq_none (by simp; omega), List.getElem?_eq_none (Nat.le_of_lt hc)]
  | hangUp hc | handler hc | listen hc => exact .same (out_setClient_same _ hc rfl)
  | idle | opened => exact .same rfl
  | dropEntry | register => exact .same (out_dropEntry _)
  | dialOpened hc => exact .same (out_setClient_same (s := { s with streams := _ }) _ hc rfl)
  | @dialDone c i client target requestId st hc =>
    have hc' : (s.insertEntry st.id i).clients[c]? = some client := by
      simpa [Server.insertEntry] using hc
    have hout : (s.dialDone c client target requestId i st).out = (s.insertEntry st.id i).out :=
      out_setClient_same (s := (s.insertEntry st.id i).setStream i _) _ hc' rfl
    exact .same (hout.trans (out_dropEntry st.id))
  | @replied c _ client sent hc hphase =>
    refine .wrote c sent (.handler client hc hphase) ?_
    rw [out_setClient _ hc, out_eq hc]
  | @announced l ok listener sent client hl hphase hc =>
    refine .wrote listener.client sent (.listener l ok listener rfl hl hphase rfl) ?_
    exact out_write sent hc
  | @forwarded i c ok st streamId sent client hi hreceiver hc =>
    refine .wrote c sent (.forwarder i ok st streamId rfl hi hreceiver) ?_
    exact out_write sent hc
  | _ => exact .same rfl

/-! ## What happens to a stream -/

/-- The ids whose old entry a step removes or replaces. -/
inductive Evicts (s : Server) : ServerStep → UInt32 → Prop
  | removes {a : ServerStep} {id : UInt32} (ha : a.removes = some id) : Evicts s a id
  | register {j : Nat} {st : Stream} (hj : s.streams[j]? = some st) : Evicts s (.register j) st.id
  | dialDone {c j : Nat} {client : Client} {targetAgentId : Str} {requestId : Option Str}
      {st : Stream} (hc : s.clients[c]? = some client)
      (hphase : client.handler = .dialing targetAgentId requestId (some j))
      (hj : s.streams[j]? = some st) : Evicts s (.dialDone c) st.id

/-- What a step does to stream `i`, which is `new` afterwards. -/
inductive StreamAfter (env : Env) (s : Server) (a : ServerStep) (i : Nat) (new : Stream) : Prop
  | kept (hi : s.streams[i]? = some new)
  | made (hnone : s.streams[i]? = none)
      (hnew : (∃ id, new = dialedStream id) ∨
        ∃ id fromAgentId cls, new = inboundStream id fromAgentId cls)
  | evicted (st : Stream) (id : UInt32) (hi : s.streams[i]? = some st) (hevicts : Evicts s a id)
      (htable : s.table id = some i) (hentry : st.receiver = .entry)
      (hnew : new = { st with queue := [], receiver := .dropped })
  | dialed (st : Stream) (c : Nat) (client : Client) (targetAgentId : Str) (requestId : Option Str)
      (hi : s.streams[i]? = some st) (hc : s.clients[c]? = some client)
      (hphase : client.handler = .dialing targetAgentId requestId (some i))
      (hnew : new = { st with receiver := .forwarding c st.id .waiting })
  | registered (st : Stream) (ha : a = .register i) (hi : s.streams[i]? = some st)
      (hstage : st.stage = .opened)
      (hnew : new = { st with stage := .registered, receiver := .entry })
  | notified (st : Stream) (ha : a = .notify i) (hi : s.streams[i]? = some st)
      (hstage : st.stage = .registered) (hnew : new = { st with stage := .notified })
  | pushed (st : Stream) (data : Bytes) (hi : s.streams[i]? = some st) (hopen : st.closed = false)
      (hnew : new = { st with queue := st.queue ++ [data], sent := st.sent ++ [data] })
  | lost (st : Stream) (data : Bytes) (hi : s.streams[i]? = some st) (hopen : st.closed = false)
      (hreceiver : st.receiver.gone = true) (hnew : new = { st with sent := st.sent ++ [data] })
  | ended (st : Stream) (hi : s.streams[i]? = some st) (hnew : new = { st with closed := true })
  | claimed (st : Stream) (l : Nat) (listener : Listener) (info : IncomingStreamInfo)
      (ha : a = .listenerTake l) (hi : s.streams[i]? = some st)
      (hl : s.listeners[l]? = some listener)
      (hphase : listener.phase = .taking info) (htable : s.table info.streamId = some i)
      (hentry : st.receiver = .entry)
      (hnew : new = { st with receiver := .forwarding listener.client info.streamId .waiting })
  | took (st : Stream) (c : Nat) (streamId : UInt32) (data : Bytes) (rest : List Bytes)
      (hi : s.streams[i]? = some st) (hreceiver : st.receiver = .forwarding c streamId .waiting)
      (hqueue : st.queue = data :: rest)
      (hnew : new = { st with
        queue := rest
        receiver := .forwarding c streamId (.writing (recvMessage env i streamId data)) })
  | closing (st : Stream) (c : Nat) (streamId : UInt32) (hi : s.streams[i]? = some st)
      (hreceiver : st.receiver = .forwarding c streamId .waiting) (hqueue : st.queue = [])
      (hclosed : st.closed = true)
      (hnew : new = { st with
        receiver := .forwarding c streamId (.writing (closedMessage i streamId)) })
  | wrote (st : Stream) (c : Nat) (streamId : UInt32) (sent : Sent) (ok : Bool)
      (ha : a = .forwardWrite i ok) (hi : s.streams[i]? = some st)
      (hreceiver : st.receiver = .forwarding c streamId (.writing sent))
      (hnew : new = { st with receiver := .forwarding c streamId (.after sent) })
  | failed (st : Stream) (c : Nat) (streamId : UInt32) (sent : Sent) (ok : Bool) (client : Client)
      (ha : a = .forwardWrite i ok) (hi : s.streams[i]? = some st)
      (hreceiver : st.receiver = .forwarding c streamId (.writing sent))
      (hc : s.clients[c]? = some client) (hfail : client.write env sent ok = none)
      (hnew : new = { st with queue := [], receiver := .forwarding c streamId .done })

/-- A stream after an entry is dropped. -/
theorem streamAfter_of_dropEntry {id : UInt32} (hevicts : Evicts s a id)
    (h : (s.dropEntry id).streams[i]? = some new) : StreamAfter env s a i new := by
  rcases of_dropEntry h with hold | ⟨st, hi, htable, hentry, hnew⟩
  · exact .kept hold
  · exact .evicted st id hi hevicts htable hentry hnew

/-- **Every step treats a stream in one of these ways.** -/
theorem Move.streamAfter (h : Move env s a t) (hi : t.streams[i]? = some new) :
    StreamAfter env s a i new := by
  cases h with
  | dropEntry ha => exact streamAfter_of_dropEntry (.removes ha) hi
  | @dialOpened _ _ _ _ id _ =>
    rcases Tasks.of_append hi with ⟨rfl, rfl⟩ | ⟨-, hold⟩
    · exact .made (List.getElem?_eq_none (Nat.le_refl _)) (.inl ⟨id, rfl⟩)
    · exact .kept hold
  | opened =>
    rcases Tasks.of_append hi with ⟨rfl, rfl⟩ | ⟨-, hold⟩
    · exact .made (List.getElem?_eq_none (Nat.le_refl _)) (.inr ⟨_, _, _, rfl⟩)
    · exact .kept hold
  | @dialDone c j client target requestId st hc hphase hj =>
    rcases Tasks.of_set hi with ⟨rfl, rfl⟩ | ⟨-, hold⟩
    · exact .dialed st c client target requestId hj hc hphase rfl
    · exact streamAfter_of_dropEntry (.dialDone hc hphase hj) hold
  | @register j st hj hstage =>
    rcases Tasks.of_set hi with ⟨rfl, rfl⟩ | ⟨-, hold⟩
    · exact .registered st rfl hj hstage rfl
    · exact streamAfter_of_dropEntry (.register hj) hold
  | @notify j st hj hstage =>
    rcases Tasks.of_set hi with ⟨rfl, rfl⟩ | ⟨-, hold⟩
    · exact .notified st rfl hj hstage rfl
    · exact .kept hold
  | @push j st data hj hopen =>
    rcases Tasks.of_set hi with ⟨rfl, rfl⟩ | ⟨-, hold⟩
    · exact .pushed st data hj hopen rfl
    · exact .kept hold
  | @pushLost j st data hj hopen hreceiver =>
    rcases Tasks.of_set hi with ⟨rfl, rfl⟩ | ⟨-, hold⟩
    · exact .lost st data hj hopen hreceiver rfl
    · exact .kept hold
  | @dropSender j st hj =>
    rcases Tasks.of_set hi with ⟨rfl, rfl⟩ | ⟨-, hold⟩
    · exact .ended st hj rfl
    · exact .kept hold
  | @claim l j listener info st hl hphase htable hj hentry =>
    rcases Tasks.of_set hi with ⟨rfl, rfl⟩ | ⟨-, hold⟩
    · exact .claimed st l listener info rfl hj hl hphase htable hentry rfl
    · exact .kept hold
  | @forwardRecv j c st streamId data rest hj hreceiver hqueue =>
    rcases Tasks.of_set hi with ⟨rfl, rfl⟩ | ⟨-, hold⟩
    · exact .took st c streamId data rest hj hreceiver hqueue rfl
    · exact .kept hold
  | @forwardEnd j c st streamId hj hreceiver hqueue hclosed =>
    rcases Tasks.of_set hi with ⟨rfl, rfl⟩ | ⟨-, hold⟩
    · exact .closing st c streamId hj hreceiver hqueue hclosed rfl
    · exact .kept hold
  | @forwarded j c ok st streamId sent client hj hreceiver hc =>
    rcases Tasks.of_set hi with ⟨rfl, rfl⟩ | ⟨-, hold⟩
    · exact .wrote st c streamId sent ok rfl hj hreceiver rfl
    · exact .kept hold
  | @forwardFailed j c ok st streamId sent client hj hreceiver hc hfail =>
    rcases Tasks.of_set hi with ⟨rfl, rfl⟩ | ⟨-, hold⟩
    · exact .failed st c streamId sent ok client rfl hj hreceiver hc hfail rfl
    · exact .kept hold
  | _ => exact .kept hi

/-! ## What the tasks have in hand -/

end Server

/-- A handler has no message in hand that is for a stream, apart from `connected`. -/
def Client.Tagged (client : Client) : Prop :=
  ∀ sent, client.handler = .writing sent →
    ∀ i, sent.isIncomingFor i = false ∧ sent.isRecvFor i = false

/-- A task of `listen` has only notifications in hand. -/
def Listener.Tagged (listener : Listener) : Prop :=
  ∀ sent, listener.phase = .announcing sent → ∃ info forwarder,
    sent = IncomingStreamInfo.message info forwarder

/-- A forwarding task has only reports of its stream in hand. -/
def Stream.Tagged (env : Env) (i : Nat) (st : Stream) : Prop :=
  ∀ c streamId sent, st.receiver = .forwarding c streamId (.writing sent) →
    (∃ data, sent = recvMessage env i streamId data) ∨ sent = closedMessage i streamId

/-- A handler that is not about to write. -/
theorem Client.tagged_of_plain {phase : HandlerPhase} (connected : Bool) (out : List Sent)
    (hphase : Server.PlainPhase phase) : Client.Tagged ⟨connected, phase, out⟩ := by
  intro sent heq i
  simp only at heq
  rw [heq] at hphase
  obtain ⟨msg, rfl, -⟩ := hphase
  exact plain_not_for msg i

namespace Server

variable {env : Env} {s t : Server} {a : ServerStep} {c i : Nat}

/-- **Tasks have their own messages in hand.** -/
structure Tagged (env : Env) (s : Server) : Prop where
  handlers : ∀ client ∈ s.clients, Client.Tagged client
  listeners : ∀ listener ∈ s.listeners, Listener.Tagged listener
  forwarders : ∀ (i : Nat) (st : Stream), s.streams[i]? = some st → Stream.Tagged env i st

/-- The handlers have their own messages in hand after a move. -/
theorem Tagged.handlers_step (h : Tagged env s) (hmove : Move env s a t) :
    ∀ client ∈ t.clients, Client.Tagged client := by
  cases hmove with
  | connect => exact Tasks.forall_mem_append h.handlers (Client.tagged_of_plain _ _ trivial)
  | hangUp hc | announced _ _ hc | forwarded _ _ hc =>
    have hold := h.handlers _ (List.mem_of_getElem? hc)
    exact Tasks.forall_mem_set _ h.handlers hold
  | handler hc hphase => exact Tasks.forall_mem_set _ h.handlers (Client.tagged_of_plain _ _ hphase)
  | listen hc => exact Tasks.forall_mem_set _ h.handlers (Client.tagged_of_plain _ _ ⟨_, rfl, rfl⟩)
  | dropEntry => simpa using h.handlers
  | dialOpened hc => exact Tasks.forall_mem_set _ h.handlers fun _ heq => nomatch heq
  | dialDone hc =>
    refine Tasks.forall_mem_set _
      (by simpa [Server.setStream, Server.insertEntry] using h.handlers) ?_
    intro sent heq i
    cases heq
    exact ⟨rfl, rfl⟩
  | replied hc => exact Tasks.forall_mem_set _ h.handlers (Client.tagged_of_plain _ _ trivial)
  | register =>
    simpa [Server.setStream, Server.insertEntry] using h.handlers
  | _ => exact h.handlers

/-- The listeners have their own messages in hand after a move. -/
theorem Tagged.listeners_step (h : Tagged env s) (hmove : Move env s a t) :
    ∀ listener ∈ t.listeners, Listener.Tagged listener := by
  cases hmove with
  | listen => exact Tasks.forall_mem_append h.listeners fun _ heq => nomatch heq
  | dropEntry => simpa using h.listeners
  | dialDone => simpa [Server.dialDone, Server.setClient, Server.setStream, Server.insertEntry]
      using h.listeners
  | register => simpa [Server.setStream, Server.insertEntry] using h.listeners
  | lagged hl hphase =>
    exact Tasks.forall_mem_set _ h.listeners fun _ heq => nomatch hphase.symm.trans heq
  | listenerRecv | announced | announceFailed =>
    exact Tasks.forall_mem_set _ h.listeners fun _ heq => nomatch heq
  | claim | noClaim =>
    refine Tasks.forall_mem_set _ h.listeners fun _ heq => ?_
    cases heq
    exact ⟨_, _, rfl⟩
  | _ => exact h.listeners

/-- The forwarders have their own messages in hand after a move. -/
theorem Tagged.forwarders_step (h : Tagged env s) (hmove : Move env s a t) (i : Nat) (new : Stream)
    (hi : t.streams[i]? = some new) : Stream.Tagged env i new := by
  intro c streamId sent heq
  cases hmove.streamAfter hi with
  | kept hold => exact h.forwarders i new hold c streamId sent heq
  | made _ hnew => rcases hnew with ⟨_, rfl⟩ | ⟨_, _, _, rfl⟩ <;> cases heq
  | evicted _ _ _ _ _ _ hnew | dialed _ _ _ _ _ _ _ _ hnew | registered _ _ _ _ hnew
  | claimed _ _ _ _ _ _ _ _ _ _ hnew | failed _ _ _ _ _ _ _ _ _ _ _ hnew =>
    subst hnew
    cases heq
  | notified st _ hold _ hnew | pushed st _ hold _ hnew | lost st _ hold _ _ hnew
  | ended st hold hnew =>
    subst hnew
    exact h.forwarders i st hold c streamId sent heq
  | took st c' streamId' data rest _ _ _ hnew =>
    subst hnew
    cases heq
    exact .inl ⟨data, rfl⟩
  | closing st c' streamId' _ _ _ _ hnew =>
    subst hnew
    cases heq
    exact .inr rfl
  | wrote st c' streamId' sent' ok _ _ _ hnew =>
    subst hnew
    simp only [Receiver.forwarding.injEq] at heq
    have hafter := heq.2.2
    unfold ForwarderPhase.after at hafter
    split at hafter <;> cases hafter

/-- **Every step keeps the messages in hand tagged.** -/
theorem Tagged.step (h : Tagged env s) (hmove : Move env s a t) : Tagged env t :=
  ⟨h.handlers_step hmove, h.listeners_step hmove, h.forwarders_step hmove⟩

/-- Only the forwarding task of stream `i` writes a `recv` for it. -/
theorem Tagged.isRecvFor_of_writes {sent : Sent} (h : Tagged env s) (hwrites : Writes s a c sent)
    (hother : ∀ ok, a ≠ .forwardWrite i ok) : sent.isRecvFor i = false := by
  cases hwrites with
  | handler client hc hphase => exact (h.handlers client (List.mem_of_getElem? hc) sent hphase i).2
  | listener l ok listener _ hl hphase =>
    obtain ⟨info, forwarder, rfl⟩ := h.listeners listener (List.mem_of_getElem? hl) sent hphase
    rfl
  | forwarder j ok st streamId ha hj hreceiver =>
    have hji : j ≠ i := by
      rintro rfl
      exact hother ok ha
    rcases h.forwarders j st hj c streamId sent hreceiver with ⟨data, rfl⟩ | rfl
    · simp [Sent.isRecvFor, recvMessage, hji]
    · rfl

/-- Only a task of `listen` writes an `incoming`. -/
theorem Tagged.isIncomingFor_of_writes {sent : Sent} (h : Tagged env s)
    (hwrites : Writes s a c sent) (hother : ∀ l ok, a ≠ .listenerWrite l ok) :
    sent.isIncomingFor i = false := by
  cases hwrites with
  | handler client hc hphase => exact (h.handlers client (List.mem_of_getElem? hc) sent hphase i).1
  | listener l ok listener ha => exact absurd ha (hother l ok)
  | forwarder j ok st streamId ha hj hreceiver =>
    rcases h.forwarders j st hj c streamId sent hreceiver with ⟨data, rfl⟩ | rfl <;> rfl

/-- A view of what a client has got stays the same in a step that writes nothing it shows. -/
theorem Move.view_out {β : Type} (hmove : Move env s a t) (view : List Sent → β) (c : Nat)
    (hhidden : ∀ sent out, Writes s a c sent → view (out ++ [sent]) = view out) :
    view (t.out c) = view (s.out c) := by
  cases hmove.outAfter with
  | same hout => rw [hout]
  | wrote d sent hwrites hout =>
    rw [hout]
    by_cases hcd : c = d
    · subst hcd
      rw [Function.update_self, hhidden sent _ hwrites]
    · rw [Function.update_of_ne hcd]

/-- A step that is no write of stream `i`'s forwarding task writes no `recv` for it. -/
theorem Tagged.recvs_eq (h : Tagged env s) (hmove : Move env s a t)
    (hother : ∀ ok, a ≠ .forwardWrite i ok) (c : Nat) : recvs i (t.out c) = recvs i (s.out c) := by
  refine hmove.view_out (recvs i) c fun sent out hwrites => ?_
  rw [recvs_append_singleton, h.isRecvFor_of_writes hwrites hother]
  simp

/-- A step that is no write of a task of `listen` writes no `incoming`. -/
theorem Tagged.incomings_eq (h : Tagged env s) (hmove : Move env s a t)
    (hother : ∀ l ok, a ≠ .listenerWrite l ok) (c : Nat) :
    incomings i (t.out c) = incomings i (s.out c) := by
  refine hmove.view_out (incomings i) c fun sent out hwrites => ?_
  rw [incomings_append_singleton, h.isIncomingFor_of_writes hwrites hother]
  simp

end Server

end Roboat.Daemon.Ipc
