import Roboat.Daemon.StreamEntries

/-! # From a call to the wire

`Called` says what the calls of a run have given a stream, and `Path` that nothing of it is lost on
the way: what is on the wire, what waits on the connection and what waits in the stream are
together, in this order, the frames the stream has to send. -/

namespace Roboat.Daemon.Manager

variable {m t : Manager} {a : ManagerStep} {i j c : Nat} {st other new : Stream}
  {conn conn' : MuxConn}

/-! ## The calls of a run -/

/-- The data a step sends on stream `i`. -/
def sendOn (i : Nat) : ManagerStep → Option Bytes
  | .send j data => if j = i then some data else none
  | _ => none

/-- The data sent on stream `i` in a run, in the order of the calls; a call is a step of the run
only when it is accepted. -/
def sendsOn (i : Nat) (as : List ManagerStep) : List Bytes := as.filterMap (sendOn i)

/-- **A stream has what its agent's calls gave it**, after the steps `as`. -/
structure Called (m : Manager) (as : List ManagerStep) : Prop where
  accepted : ∀ (i : Nat) (st : Stream), m.streams[i]? = some st → st.accepted = sendsOn i as
  closed : ∀ (i : Nat) (st : Stream), m.streams[i]? = some st →
    (st.agentClosed = true ↔ .close i ∈ as)
  absent : ∀ i : Nat, m.streams[i]? = none → sendsOn i as = [] ∧ .close i ∉ as

/-- Setting up is no call. -/
theorem isCall_of_isSetup (hsetup : a.isSetup = true) : a.isCall = false := by
  cases a <;> first | rfl | cases hsetup

/-- A step that is no call adds no data. -/
theorem sendsOn_append_of_isCall {as : List ManagerStep} (hcall : a.isCall = false) :
    sendsOn i (as ++ [a]) = sendsOn i as := by
  have hnone : sendOn i a = none := by
    cases a with
    | send => cases hcall
    | _ => rfl
  simp [sendsOn, hnone]

/-- A step that is no call closes no stream. -/
theorem close_mem_append_of_isCall {as : List ManagerStep} (hcall : a.isCall = false) :
    .close i ∈ as ++ [a] ↔ .close i ∈ as := by
  have hne : ManagerStep.close i ≠ a := by
    rintro rfl
    cases hcall
  simp [hne]

/-- A step that is no call. -/
theorem Called.step_of_isCall {as : List ManagerStep} (h : m.Called as) (hmove : Move m a t)
    (ht : Entries t) (hcall : a.isCall = false) : t.Called (as ++ [a]) := by
  have hafter := hmove.streamsAfter
  refine ⟨fun i st hi => ?_, fun i st hi => ?_, fun i hnone => ?_⟩
  · rw [sendsOn_append_of_isCall hcall]
    cases hold : m.streams[i]? with
    | none =>
      rw [(h.absent i hold).1]
      exact ((ht.sound_of hi).early (hafter.fresh i st hold hi)).2
    | some old =>
      obtain ⟨new, hnew, hcont⟩ := hafter.old i old hold
      obtain rfl : st = new := Option.some.inj (hi.symm.trans hnew)
      rw [hcont.accepted hcall]
      exact h.accepted i old hold
  · rw [close_mem_append_of_isCall hcall]
    cases hold : m.streams[i]? with
    | none =>
      rw [((ht.sound_of hi).early (hafter.fresh i st hold hi)).1]
      simpa using (h.absent i hold).2
    | some old =>
      obtain ⟨new, hnew, hcont⟩ := hafter.old i old hold
      obtain rfl : st = new := Option.some.inj (hi.symm.trans hnew)
      rw [hcont.agentClosed hcall]
      exact h.closed i old hold
  · rw [sendsOn_append_of_isCall hcall, close_mem_append_of_isCall hcall]
    cases hold : m.streams[i]? with
    | none => exact h.absent i hold
    | some old =>
      obtain ⟨new, hnew, -⟩ := hafter.old i old hold
      cases hnone.symm.trans hnew

/-- A send on a stream that is found under its id. -/
theorem Called.send {as : List ManagerStep} {data : Bytes} (h : m.Called as)
    (hi : m.streams[i]? = some st) :
    (m.setStream i { st with
      queue := st.queue ++ [data], accepted := st.accepted ++ [data] }).Called
      (as ++ [ManagerStep.send i data]) := by
  have hsends : ∀ k, sendsOn k (as ++ [ManagerStep.send i data])
      = sendsOn k as ++ if i = k then [data] else [] := by
    intro k
    by_cases hik : i = k <;> simp [sendsOn, sendOn, hik]
  have hclose : ∀ k, ManagerStep.close k ∈ as ++ [ManagerStep.send i data] ↔ .close k ∈ as := by
    simp
  refine ⟨fun k other hk => ?_, fun k other hk => ?_, fun k hnone => ?_⟩
  · rw [hsends]
    rcases Tasks.of_set hk with ⟨rfl, rfl⟩ | ⟨hne, hold⟩
    · rw [if_pos rfl, ← h.accepted k st hi]
    · rw [if_neg (Ne.symm hne), List.append_nil]
      exact h.accepted k other hold
  · rw [hclose]
    rcases Tasks.of_set hk with ⟨rfl, rfl⟩ | ⟨-, hold⟩
    · exact h.closed k st hi
    · exact h.closed k other hold
  · rw [hsends, hclose]
    have hik : i ≠ k := by
      rintro rfl
      cases (Tasks.set_self hi).symm.trans hnone
    rw [if_neg hik, List.append_nil]
    exact h.absent k (by simpa [Manager.setStream, List.getElem?_set_ne hik] using hnone)

/-- A close. -/
theorem Called.close {as : List ManagerStep} (h : m.Called as) (hi : m.streams[i]? = some st)
    (table : UInt32 → Option Nat) :
    Called ({ m with table := table }.setStream i { st with agentClosed := true })
      (as ++ [ManagerStep.close i]) := by
  have hsends : ∀ k, sendsOn k (as ++ [ManagerStep.close i]) = sendsOn k as := by
    intro k
    simp [sendsOn, sendOn]
  have hclose : ∀ k, ManagerStep.close k ∈ as ++ [ManagerStep.close i] ↔ .close k ∈ as ∨ k = i := by
    simp
  refine ⟨fun k other hk => ?_, fun k other hk => ?_, fun k hnone => ?_⟩
  · rw [hsends]
    rcases Tasks.of_set hk with ⟨rfl, rfl⟩ | ⟨-, hold⟩
    · exact h.accepted k st hi
    · exact h.accepted k other hold
  · rw [hclose]
    rcases Tasks.of_set hk with ⟨rfl, rfl⟩ | ⟨hne, hold⟩
    · simp
    · simpa [hne] using h.closed k other hold
  · rw [hsends, hclose]
    have hik : i ≠ k := by
      rintro rfl
      cases (Tasks.set_self hi).symm.trans hnone
    have hold := h.absent k (by simpa [Manager.setStream, List.getElem?_set_ne hik] using hnone)
    exact ⟨hold.1, fun hmem => hmem.elim hold.2 (Ne.symm hik)⟩

/-- **Every step to distinct ids gives the streams what is called on them.** -/
theorem Called.step {as : List ManagerStep} (h : m.Called as) (hmove : Move m a t)
    (hm : Entries m) (ht : Entries t) (hdistinct : m.DistinctIds) : t.Called (as ++ [a]) := by
  by_cases hcall : a.isCall = false
  · exact h.step_of_isCall hmove ht hcall
  · cases hmove with
    | @send i j st target data hi hphase htable hj =>
      obtain ⟨old, hj', hid, hopen⟩ := hm.registered _ _ htable
      obtain rfl : target = old := Option.some.inj (hj.symm.trans hj')
      obtain rfl : i = j := hdistinct.eq hi hj (.inr hphase) (.inr hopen.1) hid.symm
      obtain rfl : st = target := Option.some.inj (hi.symm.trans hj)
      exact h.send hi
    | close hi => exact h.close hi _
    | connect _ hsetup | dialFailed hsetup | inbound _ _ _ hsetup =>
      exact absurd (isCall_of_isSetup hsetup) hcall
    | _ => exact absurd rfl hcall

/-! ## From the channel to the wire -/

/-- **The path of a mux stream**: the frames it has enqueued, in the queue of its class or beyond,
and those it is going to enqueue make up what it has to send; its forwarding task leaves the loop
only when the agent has closed the stream and the channel is empty. -/
structure Path (conn : MuxConn) (i : Nat) (st : Stream) : Prop where
  queued : conn.KeepsClass i st.cls
  conserved : conn.framesOf i ++ st.unsent i = st.due i
  ended : st.forward.inLoop = false → st.queue = [] ∧ st.agentClosed = true

/-- The stream is announced to the remote. -/
theorem Path.announce (h : Path conn i st) (hphase : st.phase = .dialing)
    (hdialed : st.dialed = true) (hearly : st.agentClosed = false ∧ st.accepted = [])
    (henq : conn.enqueue st.cls (.streamOpen i st.id st.cls) = some conn') :
    Path conn' i { st with phase := .announced } := by
  obtain ⟨hframes, hqueued⟩ := MuxConn.framesOf_enqueue henq h.queued
  refine ⟨hqueued, ?_, h.ended⟩
  have hnil : conn.framesOf i ++ st.unsent i = [] := by
    rw [h.conserved]
    simp [Stream.due, openFrames, hphase, hearly]
  obtain ⟨hold, hunsent⟩ := List.append_eq_nil_iff.mp hnil
  have hunsent' : Stream.unsent i { st with phase := .announced } = [] := hunsent
  have hframes' : conn'.framesOf i = conn.framesOf i ++ [WriteItem.streamOpen i st.id st.cls] :=
    hframes
  rw [hunsent', hframes', hold]
  simp [Stream.due, openFrames, hdialed, hearly]

/-- The stream is entered in the table. -/
theorem Path.insert (h : Path conn i st) (hphase : st.phase = .announced) :
    Path conn i { st with phase := .opened } := by
  refine ⟨h.queued, ?_, h.ended⟩
  simpa [Stream.unsent, Stream.due, openFrames, hphase] using h.conserved

/-- Data is sent on the stream. -/
theorem Path.send (h : Path conn i st) (hopen : st.agentClosed = false) (data : Bytes) :
    Path conn i { st with queue := st.queue ++ [data], accepted := st.accepted ++ [data] } := by
  refine ⟨h.queued, ?_, fun hloop => ?_⟩
  · have hunsent : Stream.unsent i
        { st with queue := st.queue ++ [data], accepted := st.accepted ++ [data] }
        = st.unsent i ++ [WriteItem.streamData i st.id data] := by
      simp [Stream.unsent, hopen]
    have hdue : Stream.due i
        { st with queue := st.queue ++ [data], accepted := st.accepted ++ [data] }
        = st.due i ++ [WriteItem.streamData i st.id data] := by
      simp [Stream.due, hopen]
    rw [hunsent, hdue, ← List.append_assoc, h.conserved]
  · cases hopen.symm.trans (h.ended hloop).2

/-- The agent closes the stream. -/
theorem Path.close (h : Path conn i st) : Path conn i { st with agentClosed := true } := by
  cases hopen : st.agentClosed with
  | true =>
    have hsame : { st with agentClosed := true } = st := by rw [← hopen]
    rw [hsame]
    exact h
  | false =>
    have hloop : st.forward.inLoop = true := by
      by_contra hend
      rw [Bool.not_eq_true] at hend
      cases hopen.symm.trans (h.ended hend).2
    have hrunning : st.forward ≠ .done := by
      intro hdone
      rw [hdone] at hloop
      cases hloop
    refine ⟨h.queued, ?_, fun hend => nomatch hloop.symm.trans hend⟩
    have hunsent : Stream.unsent i { st with agentClosed := true }
        = st.unsent i ++ [WriteItem.streamClose i st.id] := by
      simp [Stream.unsent, hopen, hrunning]
    have hdue : Stream.due i { st with agentClosed := true }
        = st.due i ++ [WriteItem.streamClose i st.id] := by
      simp [Stream.due, hopen]
    rw [hunsent, hdue, ← List.append_assoc, h.conserved]

/-- The forwarding task takes data from the channel. -/
theorem Path.takeData (h : Path conn i st) (hidle : st.forward = .idle) {data : Bytes}
    {rest : List Bytes} (hqueue : st.queue = data :: rest) :
    Path conn i { st with queue := rest, forward := .holding data } := by
  refine ⟨h.queued, ?_, fun hend => nomatch hend⟩
  simpa [Stream.unsent, Stream.due, ForwardPhase.held, hidle, hqueue]
    using h.conserved

/-- The forwarding task finds the channel closed. -/
theorem Path.takeEnd (h : Path conn i st) (hidle : st.forward = .idle) (hqueue : st.queue = [])
    (hclosed : st.agentClosed = true) : Path conn i { st with forward := .closing } := by
  refine ⟨h.queued, ?_, fun _ => ⟨hqueue, hclosed⟩⟩
  simpa [Stream.unsent, Stream.due, ForwardPhase.held, hidle, hqueue]
    using h.conserved

/-- The forwarding task enqueues data. -/
theorem Path.pass (h : Path conn i st) {data : Bytes} (hhold : st.forward = .holding data)
    (henq : conn.enqueue st.cls (.streamData i st.id data) = some conn') :
    Path conn' i { st with forward := .idle } := by
  obtain ⟨hframes, hqueued⟩ := MuxConn.framesOf_enqueue henq h.queued
  refine ⟨hqueued, ?_, fun hend => nomatch hend⟩
  have hunsent : st.unsent i
      = .streamData i st.id data :: Stream.unsent i { st with forward := .idle } := by
    simp [Stream.unsent, ForwardPhase.held, hhold]
  have hold := h.conserved
  rw [hunsent] at hold
  have hframes' : conn'.framesOf i = conn.framesOf i ++ [WriteItem.streamData i st.id data] :=
    hframes
  rw [hframes', List.append_assoc, List.singleton_append]
  exact hold

/-- The forwarding task enqueues the close frame. -/
theorem Path.finish (h : Path conn i st) (hclosing : st.forward = .closing)
    (henq : conn.enqueue st.cls (.streamClose i st.id) = some conn') :
    Path conn' i { st with forward := .done } := by
  obtain ⟨hframes, hqueued⟩ := MuxConn.framesOf_enqueue henq h.queued
  obtain ⟨hqueue, hclosed⟩ := h.ended (by rw [hclosing]; rfl)
  refine ⟨hqueued, ?_, fun _ => ⟨hqueue, hclosed⟩⟩
  have hunsent : st.unsent i = [.streamClose i st.id] := by
    simp [Stream.unsent, ForwardPhase.held, hclosing, hqueue, hclosed]
  have hunsent' : Stream.unsent i { st with forward := .done } = [] := by
    simp [Stream.unsent, ForwardPhase.held, hqueue]
  have hframes' : conn'.framesOf i = conn.framesOf i ++ [WriteItem.streamClose i st.id] := hframes
  rw [hframes', hunsent', List.append_nil, ← hunsent]
  exact h.conserved

/-- A path does not depend on other frames of the connection. -/
theorem Path.transfer (h : Path conn i st) (hframes : conn'.framesOf i = conn.framesOf i)
    (hqueued : conn'.KeepsClass i st.cls) : Path conn' i st :=
  ⟨hqueued, by rw [hframes, h.conserved], h.ended⟩

/-- Every mux stream whose connection can still be written to is on its path. -/
def Paths (m : Manager) : Prop :=
  ∀ (i c : Nat) (st : Stream) (conn : MuxConn), m.streams[i]? = some st → st.link = .mux c →
    m.conns[c]? = some conn → conn.writer ≠ .returned → Path conn i st

/-- A stream changes. -/
theorem Paths.setStream (h : m.Paths) (hi : m.streams[i]? = some st) (hlink : new.link = st.link)
    (hpath : ∀ (c : Nat) (conn : MuxConn), st.link = .mux c → m.conns[c]? = some conn →
      conn.writer ≠ .returned → Path conn i st → Path conn i new) : (m.setStream i new).Paths := by
  intro j c other conn hj hother hc halive
  rcases Tasks.of_set hj with ⟨rfl, rfl⟩ | ⟨-, hold⟩
  · rw [hlink] at hother
    exact hpath c conn hother hc halive (h j c st conn hi hother hc halive)
  · exact h j c other conn hold hother hc halive

/-- A connection changes, but not the order of any stream's frames. -/
theorem Paths.setConn (h : m.Paths) (hc : m.conns[c]? = some conn)
    (hconn : conn'.writer ≠ .returned → conn.writer ≠ .returned ∧ ∀ i cls, conn.KeepsClass i cls →
      conn'.framesOf i = conn.framesOf i ∧ conn'.KeepsClass i cls) : (m.setConn c conn').Paths := by
  intro j d other k hj hother hd halive
  rcases Tasks.of_set hd with ⟨rfl, rfl⟩ | ⟨-, hold⟩
  · obtain ⟨hbefore, hframes⟩ := hconn halive
    have hpath := h j d other conn hj hother hc hbefore
    obtain ⟨heq, hqueued⟩ := hframes j other.cls hpath.queued
    exact hpath.transfer heq hqueued
  · exact h j d other k hj hother hold halive

/-- A stream enqueues a frame. -/
theorem Paths.emit {item : WriteItem} (h : m.Paths) (hi : m.streams[i]? = some st)
    (hlink : st.link = .mux c) (hc : m.conns[c]? = some conn)
    (henq : conn.enqueue st.cls item = some conn') (howner : item.owner = i)
    (hnew : new.link = st.link) (hpath : Path conn i st → Path conn' i new) :
    ((m.setConn c conn').setStream i new).Paths := by
  have halive : conn.writer ≠ .returned := (MuxConn.eq_of_enqueue henq).1
  intro j d other k hj hother hd halive'
  rcases Tasks.of_set hj with ⟨rfl, rfl⟩ | ⟨hne, hold⟩
  · obtain rfl : c = d := by
      rw [hnew, hlink] at hother
      exact Link.mux.inj hother
    obtain rfl : conn' = k := Option.some.inj ((Tasks.set_self hc).symm.trans hd)
    exact hpath (h j c st conn hi hlink hc halive)
  · rcases Tasks.of_set hd with ⟨rfl, rfl⟩ | ⟨-, hd'⟩
    · have hother' := h j d other conn hold hother hc halive
      obtain ⟨heq, hqueued⟩ := MuxConn.framesOf_enqueue_of_ne henq (howner ▸ Ne.symm hne)
      exact hother'.transfer heq (hqueued _ hother'.queued)
    · exact h j d other k hold hother hd' halive'

/-- A new stream has no frames and nothing to send. -/
theorem Paths.addStream (h : m.Paths) (hcarries : Carries m) (id : UInt32) (cls : StreamClass)
    (link : Link) {dialed : Bool} {phase : StreamPhase} {wire : List (FrameType × Bytes)}
    (hopen : openFrames m.streams.length id cls dialed phase = []) :
    (m.addStream (.new id cls link dialed phase wire)).Paths := by
  intro j c other conn hj hother hc halive
  rcases Tasks.of_append hj with ⟨rfl, rfl⟩ | ⟨-, hold⟩
  · have howner : ∀ item ∈ conn.frames, item.owner ≠ m.streams.length := by
      intro item hitem heq
      obtain ⟨owner, hsome, -⟩ := hcarries.mux c conn item hc hitem
      rw [heq, List.getElem?_eq_none (Nat.le_refl _)] at hsome
      cases hsome
    have hnone : conn.framesOf m.streams.length = [] := MuxConn.filter_owner_eq_nil howner
    refine ⟨⟨fun _ item hitem => howner item ?_, fun _ item hitem => howner item ?_⟩, ?_,
      fun hend => nomatch hend⟩
    · simp [MuxConn.frames, hitem]
    · simp [MuxConn.frames, hitem]
    · simp [hnone, Stream.unsent, Stream.due, Stream.new, ForwardPhase.held, hopen]
  · exact h j c other conn hold hother hc halive

/-- **Every step keeps the mux streams on their paths**, with open streams in the table. -/
theorem Paths.step (h : m.Paths) (hmove : Move m a t) (hcarries : Carries m) (hentries : Entries m)
    (hopen : m.OpenEntries) : t.Paths := by
  cases hmove with
  | connect pool =>
    intro i c st conn hi hlink hc halive
    have hlt := (hentries.sound_of hi).linked c hlink
    rcases Tasks.of_append hc with ⟨rfl, -⟩ | ⟨-, hold⟩
    · exact absurd hlt (Nat.lt_irrefl _)
    · exact h i c st conn hi hlink hold halive
  | write hc hwrite =>
    refine h.setConn hc fun halive => ⟨MuxConn.not_returned_of_writeStep hwrite, fun i cls => ?_⟩
    exact (MuxConn.writeMove_of_writeStep hwrite).framesOf_eq halive
  | @dialMux _ cls c conn hc =>
    have hconn : (m.setConn c { conn with nextStreamId := conn.nextStreamId + 2 }).Paths :=
      h.setConn hc fun halive => ⟨halive, fun _ _ hqueued => ⟨rfl, hqueued⟩⟩
    have hcarries' : Carries (m.setConn c { conn with nextStreamId := conn.nextStreamId + 2 }) :=
      hcarries.setConn hc fun _ hitem => .inl hitem
    exact hconn.addStream hcarries' _ _ _ (by simp [openFrames])
  | dialDirect =>
    exact Paths.addStream (by exact h) ⟨hcarries.mux, hcarries.data⟩ _ _ _ (by simp [openFrames])
  | inbound => exact h.addStream hcarries _ _ _ (by simp [openFrames])
  | announceMux hi hphase hlink hc henq =>
    have hsound := hentries.sound_of hi
    exact h.emit hi hlink hc henq rfl rfl fun hpath =>
      hpath.announce hphase (hsound.dialing hphase) (hsound.early (by rw [hphase]; simp)) henq
  | connectDirect hi _ hlink | passDirect hi _ hlink | passDirectFailed hi _ hlink
    | finishDirect hi _ hlink | remoteEnd hi hlink =>
    exact h.setStream hi rfl fun _ _ hmux => nomatch hlink.symm.trans hmux
  | dialFailed _ hi hphase =>
    refine h.setStream hi rfl fun _ _ _ _ _ hpath => ⟨hpath.queued, ?_, hpath.ended⟩
    simpa [Stream.unsent, Stream.due, openFrames, hphase] using hpath.conserved
  | insert hi hphase =>
    exact Paths.setStream (by exact h) hi rfl fun _ _ _ _ _ hpath => hpath.insert hphase
  | send _ _ htable hj =>
    obtain ⟨old, hj', -, -, hclosed⟩ := hentries.registered _ _ htable
    obtain rfl := Option.some.inj (hj.symm.trans hj')
    exact h.setStream hj rfl fun _ _ _ _ _ hpath => hpath.send hclosed _
  | close hi => exact Paths.setStream (by exact h) hi rfl fun _ _ _ _ _ hpath => hpath.close
  | takeData hi hidle hqueue =>
    exact h.setStream hi rfl fun _ _ _ _ _ hpath => hpath.takeData hidle hqueue
  | @takeEnd i st hi hidle hqueue hphase hdropped =>
    -- the entry is gone, and only the agent's close can have removed it
    refine h.setStream hi rfl fun c _ hmux _ _ hpath => hpath.takeEnd hidle hqueue ?_
    by_contra hnot
    rw [Bool.not_eq_true] at hnot
    exact hdropped (hopen i st hi (by rw [hmux]; simp) hphase hnot)
  | passMux hi hhold hlink hc henq =>
    exact h.emit hi hlink hc henq rfl rfl fun hpath => hpath.pass hhold henq
  | passMuxFailed hi _ hlink hgone | finishMuxFailed hi _ hlink hgone =>
    refine h.setStream hi rfl fun d conn hmux hc halive => ?_
    obtain rfl := Link.mux.inj (hlink.symm.trans hmux)
    exact absurd (hgone conn hc) halive
  | finishMux hi hclosing hlink hc henq =>
    exact h.emit hi hlink hc henq rfl rfl fun hpath => hpath.finish hclosing henq
  | remove hi hlink =>
    exact Paths.setStream (by exact h) hi rfl fun _ _ hmux => nomatch hlink.symm.trans hmux
  | remoteClose hi =>
    exact h.setStream hi rfl fun _ _ _ _ _ hpath => ⟨hpath.queued, hpath.conserved, hpath.ended⟩

end Roboat.Daemon.Manager
