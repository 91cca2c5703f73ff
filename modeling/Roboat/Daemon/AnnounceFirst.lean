import Roboat.Daemon.IpcServer

/-! # Streams are announced before their data is reported

An agent knows a stream from the moment it reads `connected` or `incoming`; clients discard a `recv`
for a stream they do not know. The forwarding task is spawned before the announcing message is
written, so that it depends on the stream's channel which comes first: `Quiet` says that the channel
stays empty and open until the announcement is on the connection, and then the order is right. -/

namespace Roboat.Daemon.Ipc

/-- **Announcements come first**: every message that reports something of a stream comes from a
forwarding task, after the message, with the same stream id, that announces what this task
forwards. -/
def Orderly (out : List Sent) : Prop :=
  ∀ before x after id, out = before ++ x :: after → x.msg.reports = some id →
    ∃ i, x.forwarder = some i ∧ ∃ y ∈ before, y.forwarder = some i ∧ y.msg.announces = some id

/-- A message that reports nothing keeps the order. -/
theorem Orderly.append_of_reports {out : List Sent} (h : Orderly out) {x : Sent}
    (hx : x.msg.reports = none) : Orderly (out ++ [x]) := by
  intro before y after id heq hy
  rcases List.eq_nil_or_concat after with rfl | ⟨after', z, rfl⟩
  · obtain ⟨-, hlast⟩ := List.append_inj' heq rfl
    cases hlast
    cases hx.symm.trans hy
  · have hout : out ++ [x] = (before ++ y :: after') ++ [z] := by simpa using heq
    obtain ⟨rfl, -⟩ := List.append_inj' hout rfl
    exact h before y after' id rfl hy

/-- A report of an announced forwarding task keeps the order. -/
theorem Orderly.append_of_announced {out : List Sent} (h : Orderly out) {x y : Sent} {i : Nat}
    {id : UInt32} (hreports : x.msg.reports = some id) (hx : x.forwarder = some i) (hy : y ∈ out)
    (hforwarder : y.forwarder = some i) (hannounces : y.msg.announces = some id) :
    Orderly (out ++ [x]) := by
  intro before z after id' heq hz
  rcases List.eq_nil_or_concat after with rfl | ⟨after', w, rfl⟩
  · obtain ⟨rfl, hlast⟩ := List.append_inj' heq rfl
    cases hlast
    obtain rfl : id = id' := Option.some.inj (hreports.symm.trans hz)
    exact ⟨i, hx, y, hy, hforwarder, hannounces⟩
  · have hout : out ++ [x] = (before ++ z :: after') ++ [w] := by simpa using heq
    obtain ⟨rfl, -⟩ := List.append_inj' hout rfl
    exact h before z after' id' rfl hz

/-- On the connection of client `c` stands the message that announces what the forwarding task of
stream `i` reports under `streamId`. -/
def Announced (clients : List Client) (c i : Nat) (streamId : UInt32) : Prop :=
  ∃ client ∈ clients[c]?, ∃ y ∈ client.out,
    y.forwarder = some i ∧ y.msg.announces = some streamId

instance (clients : List Client) (c i : Nat) (streamId : UInt32) :
    Decidable (Announced clients c i streamId) :=
  inferInstanceAs (Decidable (∃ client ∈ clients[c]?, _))

/-- What is written stays written. -/
theorem Announced.set {clients : List Client} {c d i : Nat} {streamId : UInt32}
    {client new : Client} (h : Announced clients c i streamId) (hd : clients[d]? = some client)
    (hgrow : ∀ y ∈ client.out, y ∈ new.out) : Announced (clients.set d new) c i streamId := by
  refine Tasks.exists_set hd (fun _ hold => ?_) h
  obtain ⟨y, hy, hannounced⟩ := hold
  exact ⟨y, hgrow y hy, hannounced⟩

/-- Other clients do not matter. -/
theorem Announced.append {clients : List Client} {c i : Nat} {streamId : UInt32} {new : Client}
    (h : Announced clients c i streamId) : Announced (clients ++ [new]) c i streamId := by
  obtain ⟨old, hold, hrest⟩ := h
  exact ⟨old, Tasks.append_of_some hold, hrest⟩

/-- A forwarding task: it is announced, or waits at an empty channel that is still open; and what it
writes is a report of its own. -/
structure ForwarderOk (clients : List Client) (i : Nat) (st : Stream) (c : Nat) (streamId : UInt32)
    (phase : ForwarderPhase) : Prop where
  announced : Announced clients c i streamId ∨
    (phase = .waiting ∧ st.queue = [] ∧ st.closed = false)
  writing : ∀ sent, phase = .writing sent →
    sent.forwarder = some i ∧ sent.msg.reports = some streamId

namespace Server

/-- If stream `i` has a forwarding task, it is announced. -/
def ForwarderAnnounced (s : Server) (i : Nat) : Prop :=
  ∀ st ∈ s.streams[i]?,
    match st.receiver with
    | .forwarding c streamId _ => Announced s.clients c i streamId
    | _ => True

/-- The stream whose receiver a task of `listen` is about to claim. -/
def claimable (s : Server) (listener : Listener) : Option Stream :=
  match listener.phase with
  | .taking info => (s.takeRecvRx info.streamId).map Prod.snd
  | _ => none

/-- **The condition**: when a forwarding task is spawned, the stream's channel is empty and its
sender not dropped; and as long as the announcing message is not written, no chunk goes into the
channel and the sender is not dropped. -/
def Quiet (s : Server) : ServerStep → Prop
  | .dialDone c => ∀ client ∈ s.clients[c]?, ∀ st ∈ s.dialResult client,
      st.queue = [] ∧ st.closed = false
  | .listenerTake l => ∀ listener ∈ s.listeners[l]?, ∀ st ∈ s.claimable listener,
      st.queue = [] ∧ st.closed = false
  | .push i _ => s.ForwarderAnnounced i
  | .dropSender i => s.ForwarderAnnounced i
  | _ => True

instance (s : Server) (i : Nat) : Decidable (s.ForwarderAnnounced i) := by
  unfold ForwarderAnnounced
  have (st : Stream) : Decidable (match st.receiver with
      | .forwarding c streamId _ => Announced s.clients c i streamId
      | _ => True) := by
    cases st.receiver <;> infer_instance
  infer_instance

instance (s : Server) (a : ServerStep) : Decidable (s.Quiet a) := by
  cases a <;> unfold Quiet <;> infer_instance

variable {env : Env} {s t : Server} {a : ServerStep} {c i l : Nat} {client : Client} {st : Stream}

/-- The invariant of guided runs. -/
structure AnnouncesFirst (s : Server) : Prop where
  orderly : ∀ client ∈ s.clients, Orderly client.out
  handlers : ∀ client ∈ s.clients, ∀ sent, client.handler = .writing sent → sent.msg.reports = none
  listeners : ∀ listener ∈ s.listeners, ∀ sent, listener.phase = .announcing sent →
    sent.msg.reports = none
  forwarders : ∀ (i : Nat) (st : Stream) (c : Nat) (streamId : UInt32) (phase : ForwarderPhase),
    s.streams[i]? = some st → st.receiver = .forwarding c streamId phase →
    ForwarderOk s.clients i st c streamId phase

/-- A client changes; what was written to it stays. -/
theorem AnnouncesFirst.setClient {new : Client} (h : AnnouncesFirst s)
    (hc : s.clients[c]? = some client) (horderly : Orderly new.out)
    (hgrow : ∀ y ∈ client.out, y ∈ new.out)
    (hhandler : ∀ sent, new.handler = .writing sent → sent.msg.reports = none) :
    AnnouncesFirst (s.setClient c new) := by
  refine ⟨fun other hother => ?_, fun other hother => ?_, h.listeners,
    fun i st d streamId phase hi hreceiver => ?_⟩
  · rcases List.mem_or_eq_of_mem_set hother with hold | rfl
    · exact h.orderly other hold
    · exact horderly
  · rcases List.mem_or_eq_of_mem_set hother with hold | rfl
    · exact h.handlers other hold
    · exact hhandler
  · have hold := h.forwarders i st d streamId phase hi hreceiver
    exact ⟨hold.announced.imp_left fun hann => hann.set hc hgrow, hold.writing⟩

/-- A handler moves on. -/
theorem AnnouncesFirst.setHandler (h : AnnouncesFirst s) (hc : s.clients[c]? = some client)
    (connected : Bool) {phase : HandlerPhase}
    (hphase : ∀ sent, phase = .writing sent → sent.msg.reports = none) :
    AnnouncesFirst (s.setClient c { client with connected := connected, handler := phase }) :=
  h.setClient hc (h.orderly client (List.mem_of_getElem? hc)) (fun _ hy => hy) hphase

/-- A stream changes. -/
theorem AnnouncesFirst.setStream {new : Stream} (h : AnnouncesFirst s)
    (hnew : ∀ c streamId phase, new.receiver = .forwarding c streamId phase →
      ForwarderOk s.clients i new c streamId phase) : AnnouncesFirst (s.setStream i new) := by
  refine ⟨h.orderly, h.handlers, h.listeners, fun j other c streamId phase hj hreceiver => ?_⟩
  rcases Tasks.of_set hj with ⟨rfl, rfl⟩ | ⟨-, hold⟩
  · exact hnew c streamId phase hreceiver
  · exact h.forwarders j other c streamId phase hold hreceiver

/-- A stream is added. -/
theorem AnnouncesFirst.addStream {new : Stream} (h : AnnouncesFirst s)
    (hnew : new.receiver = .held) : AnnouncesFirst { s with streams := s.streams ++ [new] } := by
  refine ⟨h.orderly, h.handlers, h.listeners, fun j other c streamId phase hj hreceiver => ?_⟩
  rcases Tasks.of_append hj with ⟨-, rfl⟩ | ⟨-, hold⟩
  · cases hnew.symm.trans hreceiver
  · exact h.forwarders j other c streamId phase hold hreceiver

/-- A task of `listen` moves on. -/
theorem AnnouncesFirst.setListener {new : Listener} (h : AnnouncesFirst s)
    (hnew : ∀ sent, new.phase = .announcing sent → sent.msg.reports = none) :
    AnnouncesFirst (s.setListener l new) := by
  refine ⟨h.orderly, h.handlers, fun other hother => ?_, h.forwarders⟩
  rcases List.mem_or_eq_of_mem_set hother with hold | rfl
  · exact h.listeners other hold
  · exact hnew

/-- An entry is dropped: no forwarding task loses its receiver. -/
theorem AnnouncesFirst.dropEntry (h : AnnouncesFirst s) (id : UInt32) :
    AnnouncesFirst (s.dropEntry id) := by
  refine ⟨by simpa using h.orderly, by simpa using h.handlers, by simpa using h.listeners,
    fun i st c streamId phase hi hreceiver => ?_⟩
  rcases of_dropEntry hi with hold | ⟨old, -, -, -, rfl⟩
  · simpa using h.forwarders i st c streamId phase hold hreceiver
  · cases hreceiver

/-- An entry is made. -/
theorem AnnouncesFirst.insertEntry (h : AnnouncesFirst s) (id : UInt32) (i : Nat) :
    AnnouncesFirst (s.insertEntry id i) := by
  have hdrop := h.dropEntry id
  exact ⟨hdrop.orderly, hdrop.handlers, hdrop.listeners, hdrop.forwarders⟩

/-- **Every step that meets the condition keeps announcements first.** -/
theorem AnnouncesFirst.step (h : AnnouncesFirst s) (hquiet : s.Quiet a)
    (hstep : s.step env a = some t) : AnnouncesFirst t := by
  cases move_of_step hstep with
  | connect =>
    refine ⟨fun client hclient => ?_, fun client hclient => ?_, h.listeners,
      fun i st c streamId phase hi hreceiver => ?_⟩
    · rcases List.mem_append.mp hclient with hold | hnew
      · exact h.orderly client hold
      · rw [List.mem_singleton.mp hnew]
        exact fun before x after id heq => by simp at heq
    · rcases List.mem_append.mp hclient with hold | hnew
      · exact h.handlers client hold
      · rw [List.mem_singleton.mp hnew]
        exact fun _ hphase => nomatch hphase
    · have hok := h.forwarders i st c streamId phase hi hreceiver
      exact ⟨hok.announced.imp_left Announced.append, hok.writing⟩
  | hangUp hc => exact h.setHandler hc _ (h.handlers _ (List.mem_of_getElem? hc))
  | idle => exact h
  | @handler _ _ client phase hc hphase =>
    refine h.setHandler hc client.connected fun sent heq => ?_
    subst heq
    obtain ⟨msg, rfl, hmsg⟩ := hphase
    exact hmsg
  | @listen c client agentId _ _ hc =>
    have hclient : AnnouncesFirst (s.setClient c
        { client with handler := .writing (.plain (.listening agentId)) }) :=
      h.setHandler hc client.connected fun _ heq => by cases heq; rfl
    refine ⟨hclient.orderly, hclient.handlers, fun listener hlistener => ?_, hclient.forwarders⟩
    rcases List.mem_append.mp hlistener with hold | hnew
    · exact h.listeners listener hold
    · rw [List.mem_singleton.mp hnew]
      exact fun _ hphase => nomatch hphase
  | dropEntry => exact h.dropEntry _
  | @dialOpened _ client _ _ _ hc =>
    exact (h.addStream rfl).setHandler hc client.connected fun _ heq => nomatch heq
  | @dialDone c i client _ _ st hc hphase hi =>
    obtain ⟨hqueue, hopen⟩ := hquiet client hc st (by simp [dialResult, hphase, hi])
    refine (((h.insertEntry st.id i).setStream fun d streamId phase heq => ?_).setHandler ?_
      client.connected fun _ heq => ?_)
    · cases heq
      exact ⟨.inr ⟨rfl, hqueue, hopen⟩, fun _ hwriting => nomatch hwriting⟩
    · simpa [Server.setStream, Server.insertEntry] using hc
    · cases heq
      rfl
  | @replied c _ client sent hc hphase =>
    have hmem := List.mem_of_getElem? hc
    refine h.setClient hc ?_ (fun y hy => List.mem_append_left _ hy) fun _ heq => nomatch heq
    exact (h.orderly client hmem).append_of_reports (h.handlers client hmem sent hphase)
  | opened => exact h.addStream rfl
  | register hi => exact (h.insertEntry _ _).setStream fun _ _ _ heq => nomatch heq
  | @notify i st hi =>
    have hsent : AnnouncesFirst { s with broadcast := s.broadcast ++ [st.info i] } :=
      ⟨h.orderly, h.handlers, h.listeners, h.forwarders⟩
    refine hsent.setStream fun c streamId phase heq => ?_
    have hok := h.forwarders _ _ c streamId phase hi heq
    exact ⟨hok.announced, hok.writing⟩
  | @push i st data hi | @dropSender i st hi =>
    refine h.setStream fun c streamId phase heq => ?_
    have hann := hquiet st hi
    simp only at heq
    rw [heq] at hann
    exact ⟨.inl hann, (h.forwarders i st c streamId phase hi heq).writing⟩
  | pushLost hi =>
    refine h.setStream fun c streamId phase heq => ?_
    have hok := h.forwarders _ _ c streamId phase hi heq
    exact ⟨hok.announced, hok.writing⟩
  | lagged hl hphase =>
    exact h.setListener fun _ heq => nomatch hphase.symm.trans heq
  | listenerRecv | announceFailed => exact h.setListener fun _ heq => nomatch heq
  | @claim l i listener info st hl hphase htable hi hentry =>
    have htake : s.takeRecvRx info.streamId = some (i, st) := by
      simp [takeRecvRx, htable, hi, hentry]
    obtain ⟨hqueue, hopen⟩ := hquiet listener hl st (by simp [claimable, hphase, htake])
    refine (h.setStream fun c streamId phase heq => ?_).setListener fun _ heq => ?_
    · cases heq
      exact ⟨.inr ⟨rfl, hqueue, hopen⟩, fun _ hwriting => nomatch hwriting⟩
    · cases heq
      rfl
  | noClaim => exact h.setListener fun _ heq => by cases heq; rfl
  | @announced l _ listener sent client hl hphase hc =>
    have hmem := List.mem_of_getElem? hc
    have hreports := h.listeners listener (List.mem_of_getElem? hl) sent hphase
    refine AnnouncesFirst.setListener (h.setClient hc
      ((h.orderly client hmem).append_of_reports hreports)
      (fun y hy => List.mem_append_left _ hy) (h.handlers client hmem)) fun _ heq => nomatch heq
  | @forwardRecv i c st streamId data rest hi hreceiver hqueue =>
    refine h.setStream fun d id phase heq => ?_
    have hok := h.forwarders i st c streamId _ hi hreceiver
    cases heq
    refine ⟨.inl (hok.announced.resolve_right fun hempty => ?_), fun _ hwriting => ?_⟩
    · cases hqueue.symm.trans hempty.2.1
    · cases hwriting
      exact ⟨rfl, rfl⟩
  | @forwardEnd i c st streamId hi hreceiver _ hclosed =>
    refine h.setStream fun d id phase heq => ?_
    have hok := h.forwarders i st c streamId _ hi hreceiver
    cases heq
    refine ⟨.inl (hok.announced.resolve_right fun hempty => ?_), fun _ hwriting => ?_⟩
    · cases hclosed.symm.trans hempty.2.2
    · cases hwriting
      exact ⟨rfl, rfl⟩
  | @forwarded i c _ st streamId sent client hi hreceiver hc =>
    have hok := h.forwarders i st c streamId _ hi hreceiver
    have hann := hok.announced.resolve_right fun hempty => nomatch hempty.1
    obtain ⟨hforwarder, hreports⟩ := hok.writing sent rfl
    obtain ⟨client', hc', y, hy, hyforwarder, hyannounces⟩ := hann
    obtain rfl : client = client' := Option.some.inj (hc.symm.trans hc')
    have hmem := List.mem_of_getElem? hc
    have hgrow : ∀ z ∈ client.out, z ∈ client.out ++ [sent] :=
      fun z hz => List.mem_append_left _ hz
    have hclient : AnnouncesFirst (s.setClient c { client with out := client.out ++ [sent] }) :=
      h.setClient hc ((h.orderly client hmem).append_of_announced hreports hforwarder hy
        hyforwarder hyannounces) hgrow (h.handlers client hmem)
    refine hclient.setStream fun d id phase heq => ?_
    cases heq
    refine ⟨.inl (Announced.set ⟨client, hc, y, hy, hyforwarder, hyannounces⟩ hc hgrow),
      fun sent' hwriting => ?_⟩
    unfold ForwarderPhase.after at hwriting
    split at hwriting <;> cases hwriting
  | @forwardFailed i c _ st streamId sent client hi hreceiver hc =>
    have hok := h.forwarders i st c streamId _ hi hreceiver
    refine h.setStream fun d id phase heq => ?_
    cases heq
    exact ⟨.inl (hok.announced.resolve_right fun hempty => nomatch hempty.1),
      fun _ hwriting => nomatch hwriting⟩

end Server

/-- **Announcements come first when channels are quiet.** In every run that meets the condition, on
every connection, every `recv` and `closed` comes after the message that announces its stream. -/
theorem orderly_of_quiet (env : Env) (as : List ServerStep) (s : Server)
    (hrun : (serverMachine env).run (serverMachine env).init as = some s)
    (hcond : (serverMachine env).Along Server.Quiet (serverMachine env).init as) :
    ∀ client ∈ s.clients, Orderly client.out := by
  have hinv : s.AnnouncesFirst := by
    refine (serverMachine env).along_invariant (I := Server.AnnouncesFirst)
      (fun s a t h hquiet hstep => h.step hquiet hstep) ?_ hcond hrun
    exact ⟨fun _ hmem => (nomatch hmem), fun _ hmem => (nomatch hmem), fun _ hmem => (nomatch hmem),
      fun _ _ _ _ _ hi => nomatch hi⟩
  exact hinv.orderly

/-- A dialed and an inbound stream, each with a chunk after its announcement. -/
def announcedSteps : List ServerStep :=
  [.connect, .receive 0 (.dial ['a'] .control none) none, .dialOpened 0 1, .dialDone 0,
    .reply 0 true, .push 0 [7], .forwardRecv 0, .forwardWrite 0 true,
    .receive 0 (.listen ['m'] none none) none, .reply 0 true,
    .opened 2 ['b'] .bulk, .register 1, .notify 1, .listenerRecv 0, .listenerTake 0,
    .listenerWrite 0 true, .push 1 [8], .dropSender 1, .forwardRecv 1, .forwardWrite 1 true,
    .forwardRecv 1, .forwardWrite 1 true]

/-- The condition is met by a run with a dialed and an inbound stream. -/
theorem orderly_announcedSteps :
    ∃ s client,
      (serverMachine sampleEnv).run (serverMachine sampleEnv).init announcedSteps = some s ∧
      s.clients[0]? = some client ∧
      client.out.map Sent.msg = [.connected 1 ['a'] none, .recv 1 [Char.ofNat 7], .listening ['m'],
        .incoming 2 ['b'] .bulk, .recv 2 [Char.ofNat 8], .closed 2 (some "remote closed".toList)] ∧
      Orderly client.out := by
  obtain ⟨s, hs, client, hc, hout⟩ := (serverMachine sampleEnv).exists_run announcedSteps
    (fun s => ∃ client ∈ s.clients[0]?, client.out.map Sent.msg =
      [.connected 1 ['a'] none, .recv 1 [Char.ofNat 7], .listening ['m'],
        .incoming 2 ['b'] .bulk, .recv 2 [Char.ofNat 8],
        .closed 2 (some "remote closed".toList)]) (by decide)
  exact ⟨s, client, hs, hc, hout,
    orderly_of_quiet sampleEnv _ s hs (by decide) client (List.mem_of_getElem? hc)⟩

/-- The remote answers a dial at once, and the forwarding task gets the writer before
`handle_client`. -/
def earlyDataSteps : List ServerStep :=
  [.connect, .receive 0 (.dial ['a'] .control none) none, .dialOpened 0 1, .push 0 [7], .dialDone 0,
    .forwardRecv 0, .forwardWrite 0 true, .reply 0 true]

/-- **Data can be reported before its stream is announced.** -/
theorem recv_before_connected :
    ∃ as s client, (serverMachine sampleEnv).run (serverMachine sampleEnv).init as = some s ∧
      client ∈ s.clients ∧
      client.out.map Sent.msg = [.recv 1 [Char.ofNat 7], .connected 1 ['a'] none] ∧
      ¬ Orderly client.out := by
  obtain ⟨s, hs, client, hc, hout⟩ := (serverMachine sampleEnv).exists_run earlyDataSteps
    (fun s => ∃ client ∈ s.clients[0]?,
      client.out = [⟨.recv 1 [Char.ofNat 7], some 0, some 0⟩,
        ⟨.connected 1 ['a'] none, some 0, some 0⟩]) (by decide)
  refine ⟨_, s, client, hs, List.mem_of_getElem? hc, by rw [hout]; rfl, fun horderly => ?_⟩
  obtain ⟨-, -, y, hy, -⟩ := horderly [] _ _ 1 hout rfl
  cases hy

end Roboat.Daemon.Ipc
