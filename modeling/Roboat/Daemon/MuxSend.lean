import Roboat.Daemon.SendPath

/-! # The send path of a mux connection

Data goes from `send` through the stream's channel and its forwarding task into one of the two
queues of the connection, and from there to the wire. Two things are shown of it. For a stream
whose id is its own, what is on the wire, what waits on the connection and what waits in the stream
are together, in this order, exactly the frames the agent's calls ask for. And a frame leaves the
bulk queue only after the same `select!` found the control queue empty: a control frame that is
queued at that moment came in between the two polls. -/

namespace Roboat.Daemon

namespace Manager

variable {m t : Manager} {a : ManagerStep} {i j c : Nat} {st other new : Stream}
  {conn conn' : MuxConn}

/-! ## Control frames before bulk frames -/

/-- Stream `i` uses the control queue of connection `c`. -/
def UsesCtrl (m : Manager) (c i : Nat) : Prop :=
  ∃ st, m.streams[i]? = some st ∧ st.link = .mux c ∧ st.cls ≠ .bulk

/-- A stream keeps to its queue. -/
theorem UsesCtrl.step (h : m.UsesCtrl c i) (hmove : Move m a t) : t.UsesCtrl c i := by
  obtain ⟨st, hi, hlink, hcls⟩ := h
  obtain ⟨new, hnew, hcont⟩ := hmove.streamsAfter.old i st hi
  exact ⟨new, hnew, hcont.link_eq.trans hlink, by rw [hcont.cls_eq]; exact hcls⟩

/-- What a step does to connection `c`, which is `conn'` afterwards. -/
inductive ConnAfter (m : Manager) (a : ManagerStep) (c : Nat) (conn' : MuxConn) : Prop
  /-- The connection is made. -/
  | made (hnone : m.conns[c]? = none) (hwriter : conn'.writer = .draining)
  /-- A frame may be enqueued. -/
  | kept (conn : MuxConn) (hc : m.conns[c]? = some conn) (hwrite : ∀ w, a ≠ .write c w)
      (hwriter : conn'.writer = conn.writer) (hbulk : conn.bulk.length ≤ conn'.bulk.length)
      (hctrl : conn'.ctrl = conn.ctrl ∨ ∃ i, a.sender = some i ∧ m.UsesCtrl c i)
  /-- The write task makes a step. -/
  | wrote (conn : MuxConn) (w : WriterStep) (ha : a = .write c w) (hc : m.conns[c]? = some conn)
      (hstep : conn.writeStep w = some conn')

/-- A connection that does not change. -/
theorem ConnAfter.refl (hwrite : ∀ w, a ≠ .write c w) (hc : m.conns[c]? = some conn') :
    ConnAfter m a c conn' :=
  .kept conn' hc hwrite rfl (Nat.le_refl _) (.inl rfl)

/-- Connection `d` gets a frame of stream `i`. -/
theorem ConnAfter.enqueue {d : Nat} {next : MuxConn} {item : WriteItem}
    (hwrite : ∀ w, a ≠ .write c w)
    (hi : m.streams[i]? = some st) (hlink : st.link = .mux d) (hd : m.conns[d]? = some conn)
    (henq : conn.enqueue st.cls item = some next) (hsender : a.sender = some i)
    (hc : (m.conns.set d next)[c]? = some conn') : ConnAfter m a c conn' := by
  rcases Tasks.of_set hc with ⟨rfl, rfl⟩ | ⟨-, hold⟩
  · obtain ⟨-, ⟨hcls, rfl⟩ | ⟨-, rfl⟩⟩ := MuxConn.eq_of_enqueue henq
    · exact .kept conn hd hwrite rfl (Nat.le_refl _) (.inr ⟨i, hsender, st, hi, hlink, hcls⟩)
    · exact .kept conn hd hwrite rfl (by simp) (.inl rfl)
  · exact .refl hwrite hold

/-- Setting up is no step of a write task. -/
theorem ne_write_of_isSetup (hsetup : a.isSetup = true) (w : WriterStep) : a ≠ .write c w := by
  rintro rfl
  cases hsetup

/-- **Every step treats a connection in one of three ways.** -/
theorem Move.connAfter (h : Move m a t) (hc : t.conns[c]? = some conn') :
    ConnAfter m a c conn' := by
  cases h with
  | connect pool hsetup hconn =>
    rcases Tasks.of_append hc with ⟨rfl, rfl⟩ | ⟨-, hold⟩
    · refine .made (List.getElem?_eq_none (Nat.le_refl _)) ?_
      rcases hconn with rfl | rfl <;> rfl
    · exact .refl (ne_write_of_isSetup hsetup) hold
  | @dialMux _ _ d conn hd =>
    rcases Tasks.of_set hc with ⟨rfl, rfl⟩ | ⟨-, hold⟩
    · exact .kept conn hd (by simp) rfl (Nat.le_refl _) (.inl rfl)
    · exact .refl (by simp) hold
  | announceMux hi _ hlink hd henq | passMux hi _ hlink hd henq | finishMux hi _ hlink hd henq =>
    exact .enqueue (by simp) hi hlink hd henq rfl hc
  | @write d w conn _ hd hwrite =>
    rcases Tasks.of_set hc with ⟨rfl, rfl⟩ | ⟨hne, hold⟩
    · exact .wrote conn w rfl hd hwrite
    · refine .refl (fun w' heq => ?_) hold
      cases heq
      exact hne rfl
  | dialFailed hsetup | inbound _ _ _ hsetup => exact .refl (ne_write_of_isSetup hsetup) hc
  | _ => exact .refl (by simp) hc

/-- **The control queue was polled and found empty**, by the last step of the write task of
connection `c`: what is in it now was enqueued since, by streams that use it. -/
def PolledEmpty (m : Manager) (as : List ManagerStep) (c : Nat) (conn : MuxConn) : Prop :=
  ∃ before after s polled, as = before ++ .write c .pollCtrl :: after ∧
    (managerMachine m.useMux).run (managerMachine m.useMux).init before = some s ∧
    s.conns[c]? = some polled ∧ polled.ctrl = [] ∧ (∀ w, .write c w ∉ after) ∧
    (conn.ctrl = [] ∨ ∃ a ∈ after, ∃ i, a.sender = some i ∧ m.UsesCtrl c i)

/-- Between the two polls. -/
theorem PolledEmpty.step {as : List ManagerStep} (h : m.PolledEmpty as c conn) (hmove : Move m a t)
    (hmode : t.useMux = m.useMux) (hwrite : ∀ w, a ≠ .write c w)
    (hctrl : conn'.ctrl = conn.ctrl ∨ ∃ i, a.sender = some i ∧ m.UsesCtrl c i) :
    t.PolledEmpty (as ++ [a]) c conn' := by
  obtain ⟨before, after, s, polled, rfl, hrun, hs, hempty, hquiet, hsince⟩ := h
  refine ⟨before, after ++ [a], s, polled, by simp, by rw [hmode]; exact hrun, hs, hempty, ?_, ?_⟩
  · intro w hmem
    rcases List.mem_append.mp hmem with hold | hnew
    · exact hquiet w hold
    · exact hwrite w (List.mem_singleton.mp hnew).symm
  · rcases hctrl with hsame | ⟨i, hsender, huses⟩
    · rw [hsame]
      refine hsince.imp_right ?_
      rintro ⟨b, hb, i, hsender, huses⟩
      exact ⟨b, List.mem_append_left _ hb, i, hsender, huses.step hmove⟩
    · exact .inr ⟨a, by simp, i, hsender, huses.step hmove⟩

/-- No step changes the mode. -/
theorem Move.useMux_eq (h : Move m a t) : t.useMux = m.useMux := by
  cases h <;> rfl

/-! ## Whole runs -/

/-- The invariant of all runs; `as` are the steps taken. -/
structure SendInv (useMux : Bool) (as : List ManagerStep) (m : Manager) : Prop where
  run : (managerMachine useMux).run (managerMachine useMux).init as = some m
  mode : m.useMux = useMux
  carries : Carries m
  entries : Entries m
  own : m.DistinctIds → m.OpenEntries
  called : m.DistinctIds → m.Called as
  paths : m.DistinctIds → m.Paths
  polled : ∀ (c : Nat) (conn : MuxConn), m.conns[c]? = some conn → conn.writer = .ctrlPolled →
    m.PolledEmpty as c conn

/-- At the start there is nothing. -/
theorem SendInv.init (useMux : Bool) : SendInv useMux [] (managerMachine useMux).init where
  run := rfl
  mode := rfl
  carries := ⟨fun _ _ _ hc => (nomatch hc), fun _ hst => nomatch hst⟩
  entries := ⟨fun _ _ htable => (nomatch htable), fun _ hst => nomatch hst⟩
  own := fun _ _ _ hi => nomatch hi
  called := fun _ => ⟨fun _ _ hi => (nomatch hi), fun _ _ hi => (nomatch hi),
    fun _ _ => ⟨rfl, List.not_mem_nil⟩⟩
  paths := fun _ _ _ _ _ hi => nomatch hi
  polled := fun _ _ hc => nomatch hc

/-- **Every step keeps the invariant.** -/
theorem SendInv.step {useMux : Bool} {as : List ManagerStep} (h : SendInv useMux as m)
    (hstep : m.step a = some t) : SendInv useMux (as ++ [a]) t := by
  have hmove := move_of_step hstep
  have hrun : (managerMachine useMux).run (managerMachine useMux).init (as ++ [a]) = some t :=
    ((managerMachine useMux).run_append).mpr
      ⟨m, h.run, by simp [Machine.run, managerMachine, hstep]⟩
  have hentries := h.entries.step hmove
  refine ⟨hrun, hmove.useMux_eq.trans h.mode, h.carries.step hstep, hentries, fun hd => ?_,
    fun hd => ?_, fun hd => ?_, fun c conn' hc hphase => ?_⟩
  · exact (h.own (hd.of_move hmove)).step hmove hd
  · exact (h.called (hd.of_move hmove)).step hmove h.entries hentries (hd.of_move hmove)
  · exact (h.paths (hd.of_move hmove)).step hmove h.carries h.entries (h.own (hd.of_move hmove))
  · cases hmove.connAfter hc with
    | made _ hwriter => cases hphase.symm.trans hwriter
    | kept conn hold hwrite hwriter _ hctrl =>
      have hpolled := h.polled c conn hold (hwriter.symm.trans hphase)
      exact hpolled.step hmove hmove.useMux_eq hwrite hctrl
    | wrote conn w ha hold hwrote =>
      obtain ⟨rfl, hempty, hempty'⟩ := MuxConn.pollCtrl_of_ctrlPolled hwrote hphase
      subst ha
      refine ⟨as, [], m, conn, rfl, ?_, hold, hempty, by simp, .inl hempty'⟩
      rw [hmove.useMux_eq, h.mode]
      exact h.run

/-- The invariant holds after every run. -/
theorem sendInv_of_run {useMux : Bool} {as : List ManagerStep}
    (hrun : (managerMachine useMux).run (managerMachine useMux).init as = some m) :
    SendInv useMux as m :=
  (managerMachine useMux).run_history (SendInv.init useMux)
    (fun _ _ _ _ h hstep => h.step hstep) hrun

end Manager

/-- The frames for one stream id among others. -/
def framesFor (id : UInt32) (items : List WriteItem) : List WriteItem :=
  items.filter fun item => item.streamId = some id

/-- The frames that the calls of a run on stream `i` ask for: one `StreamOpen`, one `StreamData` for
each accepted send, in call order, and one `StreamClose` if the stream was closed. -/
def Stream.asked (i : Nat) (st : Stream) (as : List ManagerStep) : List WriteItem :=
  .streamOpen i st.id st.cls :: ((Manager.sendsOn i as).map (.streamData i st.id) ++
    if .close i ∈ as then [.streamClose i st.id] else [])

/-- **A stream is delivered in order** on its mux connection, after the steps `as`: what is written
for its id is an initial piece of what was asked; what is written, then in flight or queued on the
connection, then still in the stream is all of it; and when the forwarding task is over, after a
close, nothing is left in the stream. -/
structure Delivered (conn : MuxConn) (as : List ManagerStep) (i : Nat) (st : Stream) : Prop where
  written : framesFor st.id conn.written <+: st.asked i as
  conserved : framesFor st.id conn.written ++
    framesFor st.id (conn.inFlight ++ conn.ctrl ++ conn.bulk) ++ st.unsent i = st.asked i as
  finished : st.forward = .done → .close i ∈ as ∧ st.unsent i = []

namespace Manager

variable {m : Manager} {c i : Nat} {conn : MuxConn} {st : Stream} {item : WriteItem}

/-- The frames of a stream carry its id. -/
theorem IsFrameOf.streamId (h : IsFrameOf i st item) : item.streamId = some st.id := by
  rcases h with rfl | ⟨data, -, rfl⟩ | rfl
  · exact WriteItem.streamId_streamOpen i st.id st.cls
  · exact WriteItem.streamId_streamData i st.id data
  · exact WriteItem.streamId_streamClose i st.id

/-- Only an announced stream has frames. -/
theorem Path.announced (h : Path conn i st) {n : Nat} (hsound : Sound n st)
    (hitem : item ∈ conn.frames) (howner : item.owner = i) : st.Announced := by
  by_contra hnot
  obtain ⟨hann, hopened⟩ := not_or.mp hnot
  obtain ⟨hclosed, haccepted⟩ := hsound.early hopened
  have hnil : conn.framesOf i ++ st.unsent i = [] := by
    rw [h.conserved]
    simp [Stream.due, openFrames, hann, hopened, hclosed, haccepted]
  have hmem : item ∈ conn.framesOf i := by simp [MuxConn.framesOf, hitem, howner]
  rw [(List.append_eq_nil_iff.mp hnil).1] at hmem
  cases hmem

/-- With distinct ids, the frames for the id of an announced stream are the frames of that stream.
-/
theorem framesFor_eq_framesOf (hcarries : Carries m) (hentries : Entries m) (hpaths : m.Paths)
    (hdistinct : m.DistinctIds) (hc : m.conns[c]? = some conn) (halive : conn.writer ≠ .returned)
    (hi : m.streams[i]? = some st) (hann : st.Announced) :
    framesFor st.id conn.frames = conn.framesOf i := by
  refine List.filter_congr fun item hitem => ?_
  obtain ⟨owner, howner, hlink, hframe⟩ := hcarries.mux c conn item hc hitem
  have hid := hframe.streamId
  have hpath := hpaths item.owner c owner conn howner hlink hc halive
  have hann' := hpath.announced (hentries.sound_of howner) hitem rfl
  rw [decide_eq_decide, hid, Option.some.injEq]
  constructor
  · exact fun heq => hdistinct.eq howner hi hann' hann heq
  · rintro rfl
    obtain rfl : owner = st := Option.some.inj (howner.symm.trans hi)
    rfl

end Manager

/-- **The send path keeps its promises.** In every run and at every moment: with distinct ids, every
stream opened here is delivered in order on a mux connection whose writes succeed; and whenever a
frame is taken from a bulk queue, the control queue of that connection was found empty by the same
`select!`, and holds only frames enqueued since. -/
theorem mux_send_path (useMux : Bool) (as : List ManagerStep) (m : Manager)
    (hrun : (managerMachine useMux).run (managerMachine useMux).init as = some m) :
    (m.DistinctIds → ∀ (c i : Nat) (conn : MuxConn) (st : Stream), m.conns[c]? = some conn →
      conn.writer ≠ .returned → m.streams[i]? = some st → st.link = .mux c → st.dialed = true →
      st.Announced → Delivered conn as i st) ∧
    ∀ (a : ManagerStep) (t : Manager) (c : Nat) (conn conn' : MuxConn), m.step a = some t →
      m.conns[c]? = some conn → t.conns[c]? = some conn' → conn'.bulk.length < conn.bulk.length →
      m.PolledEmpty as c conn := by
  have hinv := Manager.sendInv_of_run hrun
  refine ⟨fun hdistinct c i conn st hc halive hi hlink hdialed hann => ?_,
    fun a t c conn conn' hstep hc hc' hless => ?_⟩
  · have hpath := hinv.paths hdistinct i c st conn hi hlink hc halive
    have hcalled := hinv.called hdistinct
    have hframes := Manager.framesFor_eq_framesOf hinv.carries hinv.entries
      (hinv.paths hdistinct) hdistinct hc halive hi hann
    have hasked : st.due i = st.asked i as := by
      have hopen : openFrames i st.id st.cls st.dialed st.phase = [.streamOpen i st.id st.cls] :=
        if_pos ⟨hdialed, hann⟩
      simp only [Stream.due, Stream.asked, hopen, hcalled.accepted i st hi, hcalled.closed i st hi,
        List.nil_append, List.cons_append]
    have hconserved : framesFor st.id conn.written ++
        framesFor st.id (conn.inFlight ++ conn.ctrl ++ conn.bulk) ++ st.unsent i
        = st.asked i as := by
      have hsplit : framesFor st.id conn.written ++
          framesFor st.id (conn.inFlight ++ conn.ctrl ++ conn.bulk)
          = framesFor st.id conn.frames := by
        simp only [framesFor, MuxConn.frames, List.filter_append, List.append_assoc]
      rw [hsplit, hframes, hpath.conserved, hasked]
    refine ⟨⟨_, by rw [← List.append_assoc]; exact hconserved⟩, hconserved, fun hdone => ?_⟩
    obtain ⟨hqueue, hclosed⟩ := hpath.ended (by rw [hdone]; rfl)
    refine ⟨(hcalled.closed i st hi).mp hclosed, ?_⟩
    simp [Stream.unsent, hdone, hqueue, ForwardPhase.held]
  · cases (Manager.move_of_step hstep).connAfter hc' with
    | made hnone _ => cases hnone.symm.trans hc
    | kept old hold _ _ hbulk _ =>
      obtain rfl : conn = old := Option.some.inj (hc.symm.trans hold)
      exact absurd hless (Nat.not_lt.mpr hbulk)
    | wrote old w _ hold hwrote =>
      obtain rfl : conn = old := Option.some.inj (hc.symm.trans hold)
      exact hinv.polled c conn hc (MuxConn.ctrlPolled_of_takesBulk hwrote hless)

/-- A control and a bulk stream on one connection; data on both, and the control stream is closed
and written out while the bulk data waits. -/
def twoClassSteps : List ManagerStep :=
  [.connectMux ['a'], .dialMux ['a'] .control, .announceMux 0, .insert 0,
    .dialMux ['a'] .bulk, .announceMux 1, .insert 1,
    .send 0 [7], .send 1 [8], .take 1, .pass 1 true, .take 0, .pass 0 true, .close 0,
    .write 0 .drain, .write 0 (.wrote true), .write 0 .drain, .write 0 (.wrote true),
    .write 0 .drain, .write 0 .pollCtrl, .write 0 .pollBulk, .write 0 (.wrote true),
    .take 0, .finish 0, .write 0 .drain, .write 0 (.wrote true), .write 0 .drain,
    .write 0 .pollCtrl]

/-- The promises are kept in a run in which everything asked of the control stream is written, and a
bulk frame is taken next. -/
theorem mux_send_path_twoClassSteps :
    ∃ m, (managerMachine true).run (managerMachine true).init twoClassSteps = some m ∧
      m.DistinctIds ∧ ∃ conn st, m.conns[0]? = some conn ∧ m.streams[0]? = some st ∧
      framesFor 1 conn.written = st.asked 0 twoClassSteps ∧
      Delivered conn twoClassSteps 0 st ∧ m.PolledEmpty twoClassSteps 0 conn := by
  obtain ⟨m, hm, hdistinct, conn, hc, halive, ⟨st, hi, hlink, hdialed, hann, hwritten⟩, t, ht,
    conn', hc', hless⟩ := (managerMachine true).exists_run twoClassSteps
      (fun m => m.DistinctIds ∧ ∃ conn ∈ m.conns[0]?, conn.writer ≠ .returned ∧
        (∃ st ∈ m.streams[0]?, st.link = .mux 0 ∧ st.dialed = true ∧ st.Announced ∧
          framesFor 1 conn.written = st.asked 0 twoClassSteps) ∧
        ∃ t ∈ m.step (.write 0 .pollBulk), ∃ conn' ∈ t.conns[0]?,
          conn'.bulk.length < conn.bulk.length) (by decide)
  obtain ⟨hsent, hpolled⟩ := mux_send_path true twoClassSteps m hm
  exact ⟨m, hm, hdistinct, conn, st, hc, hi, hwritten,
    hsent hdistinct 0 0 conn st hc halive hi hlink hdialed hann,
    hpolled _ t 0 conn conn' ht hc hc' hless⟩

/-- A control stream is announced after the `select!` has polled the control queue and before it
polls the bulk queue. -/
def lateControlSteps : List ManagerStep :=
  [.connectMux ['a'], .dialMux ['a'] .bulk, .announceMux 0, .dialMux ['a'] .control,
    .write 0 .drain, .write 0 .pollCtrl, .announceMux 1]

/-- **A bulk frame can be taken with a control frame in the queue**: one that was enqueued between
the two polls of the `select!`. -/
theorem bulk_taken_before_control :
    ∃ as m t, (managerMachine true).run (managerMachine true).init as = some m ∧ m.DistinctIds ∧
      m.step (.write 0 .pollBulk) = some t ∧ ∃ conn conn', m.conns[0]? = some conn ∧
      t.conns[0]? = some conn' ∧ conn'.writer ≠ .returned ∧
      conn'.bulk.length < conn.bulk.length ∧ conn.ctrl ≠ [] := by
  obtain ⟨m, hm, hdistinct, t, ht, conn, hc, conn', hc', halive, hless, hctrl⟩ :=
    (managerMachine true).exists_run lateControlSteps
      (fun m => m.DistinctIds ∧ ∃ t ∈ m.step (.write 0 .pollBulk), ∃ conn ∈ m.conns[0]?,
        ∃ conn' ∈ t.conns[0]?, conn'.writer ≠ .returned ∧
          conn'.bulk.length < conn.bulk.length ∧ conn.ctrl ≠ []) (by decide)
  exact ⟨_, m, t, hm, hdistinct, ht, conn, conn', hc, hc', halive, hless, hctrl⟩

end Roboat.Daemon
