import Roboat.Daemon.Manager

/-! # Whose entry is in the stream table

Ids from four sources meet in one table, and two of the ways to end a stream remove an entry by id
alone. A stream that is handed out therefore keeps its own entry only as long as its id is not used
again: `KeepsIdsApart` says when it is not, and then sends reach the stream they are meant for.
That a stream's data goes to its own connection, once it is in the stream's channel, needs no
condition. -/

namespace Roboat.Daemon

/-- The bridge of a direct stream is going to remove the stream's id. -/
def Stream.RemovalPending (st : Stream) : Prop :=
  st.link = .direct ∧ st.phase = .opened ∧ st.forward ≠ .done

instance (st : Stream) : Decidable st.RemovalPending := inferInstanceAs (Decidable (_ ∧ _))

namespace Manager

/-- **Own entries**: under the id of a live stream the table has that stream. -/
def OwnEntries (m : Manager) : Prop :=
  ∀ (i : Nat) (st : Stream), m.streams[i]? = some st → st.Live → m.table st.id = some i

/-- **Sends reach their stream**: a send on the id of a live stream puts the data into the channel
of that stream and changes nothing else. -/
def SendsReachOwn (m : Manager) : Prop :=
  ∀ (i : Nat) (st : Stream) data t, m.streams[i]? = some st → st.Live →
    m.step (.send i data) = some t → t = m.setStream i
      { st with queue := st.queue ++ [data], accepted := st.accepted ++ [data] }

/-- A frame that stream `i` puts on its mux connection. -/
def IsFrameOf (i : Nat) (st : Stream) (item : WriteItem) : Prop :=
  item = .streamOpen i st.id st.cls ∨ (∃ data ∈ st.accepted, item = .streamData i st.id data) ∨
    item = .streamClose i st.id

/-- **Data stays on its connection**: a mux connection carries only frames of streams that use it,
with data accepted for them, and the connection of a direct stream only data accepted for it. -/
structure CarriesOwnData (m : Manager) : Prop where
  mux : ∀ (c : Nat) (conn : MuxConn) item, m.conns[c]? = some conn → item ∈ conn.frames →
    ∃ st, m.streams[item.owner]? = some st ∧ st.link = .mux c ∧ IsFrameOf item.owner st item
  direct : ∀ (i : Nat) (st : Stream) data, m.streams[i]? = some st →
    (FrameType.relayData, data) ∈ st.wire → data ∈ st.accepted

/-- **The condition**: a stream is entered in the table under an id that no other live stream has,
and no direct stream whose bridge has not removed its id yet; and an agent does not close an id that
another live stream has. -/
def KeepsIdsApart (m : Manager) : ManagerStep → Prop
  | .insert i => ∀ st ∈ m.streams[i]?, ∀ j < m.streams.length, ∀ other ∈ m.streams[j]?,
      j ≠ i → other.id = st.id → ¬ other.Live ∧ ¬ other.RemovalPending
  | .close i => ∀ st ∈ m.streams[i]?, ∀ j < m.streams.length, ∀ other ∈ m.streams[j]?,
      j ≠ i → other.id = st.id → ¬ other.Live
  | _ => True

instance (m : Manager) : ∀ a, Decidable (m.KeepsIdsApart a)
  | .insert i | .close i => Option.decidableForallMem m.streams[i]?
  | .connectMux .. | .dialMux .. | .announceMux .. | .dialDirect .. | .connectDirect ..
  | .inboundRelay .. | .inboundConn | .inboundOpen .. | .send .. | .take .. | .pass ..
  | .finish .. | .remoteEnd .. | .remove .. | .remoteClose .. | .write .. => isTrue trivial

/-- The invariant of guided runs. -/
structure Apart (m : Manager) : Prop where
  own : m.OwnEntries
  removal : ∀ (i j : Nat) (st other : Stream), m.streams[i]? = some st →
    m.streams[j]? = some other → i ≠ j → st.id = other.id → st.RemovalPending → ¬ other.Live

variable {m t : Manager} {i : Nat} {st new : Stream}

/-- A stream changes, but not its id, and gets neither live nor due for removal. -/
theorem Apart.setStream (h : Apart m) (hi : m.streams[i]? = some st) (hid : new.id = st.id)
    (hlive : new.Live → st.Live) (hremoval : new.RemovalPending → st.RemovalPending) :
    Apart (m.setStream i new) := by
  refine ⟨fun j other hj hl => ?_, fun j k s₁ s₂ hj hk hjk hsame hr hl => ?_⟩
  · rcases Tasks.of_set hj with ⟨rfl, rfl⟩ | ⟨-, hold⟩
    · rw [hid]
      exact h.own j st hi (hlive hl)
    · exact h.own j other hold hl
  · rcases Tasks.of_set hj with ⟨rfl, rfl⟩ | ⟨-, hj'⟩
    · rcases Tasks.of_set hk with ⟨rfl, rfl⟩ | ⟨-, hk'⟩
      · exact hjk rfl
      · exact h.removal j k st s₂ hi hk' hjk (hid.symm.trans hsame) (hremoval hr) hl
    · rcases Tasks.of_set hk with ⟨rfl, rfl⟩ | ⟨-, hk'⟩
      · exact h.removal j k s₁ st hj' hi hjk (hsame.trans hid) hr (hlive hl)
      · exact h.removal j k s₁ s₂ hj' hk' hjk hsame hr hl

/-- A stream that is neither live nor due for removal is added. -/
theorem Apart.addStream (h : Apart m) (hlive : ¬ new.Live) (hremoval : ¬ new.RemovalPending) :
    Apart (m.addStream new) := by
  refine ⟨fun j other hj hl => ?_, fun j k s₁ s₂ hj hk hjk hsame hr hl => ?_⟩
  · rcases Tasks.of_append hj with ⟨-, rfl⟩ | ⟨-, hold⟩
    · exact absurd hl hlive
    · exact h.own j other hold hl
  · rcases Tasks.of_append hj with ⟨-, rfl⟩ | ⟨-, hj'⟩
    · exact hremoval hr
    · rcases Tasks.of_append hk with ⟨-, rfl⟩ | ⟨-, hk'⟩
      · exact hlive hl
      · exact h.removal j k s₁ s₂ hj' hk' hjk hsame hr hl

/-- The table loses the id of stream `i`, which no other live stream has. -/
theorem Apart.eraseId (h : Apart m) (hi : m.streams[i]? = some st) (hid : new.id = st.id)
    (hdead : ¬ new.Live) (hremoval : new.RemovalPending → st.RemovalPending)
    (hothers : ∀ (j : Nat) other, m.streams[j]? = some other → j ≠ i → other.id = st.id →
      ¬ other.Live) :
    Apart ({ m with table := Function.update m.table st.id none }.setStream i new) := by
  have hset : Apart (m.setStream i new) := h.setStream hi hid (fun hl => absurd hl hdead) hremoval
  refine ⟨fun j other hj hl => ?_, hset.removal⟩
  rcases Tasks.of_set hj with ⟨rfl, rfl⟩ | ⟨hne, hold⟩
  · exact absurd hl hdead
  · have hdiff : other.id ≠ st.id := fun heq => hothers j other hold hne heq hl
    simp only [Manager.setStream, Function.update_of_ne hdiff]
    exact h.own j other hold hl

/-- A stream is entered in the table under an id that nobody else depends on. -/
theorem Apart.insert (h : Apart m) (hi : m.streams[i]? = some st)
    (hcond : m.KeepsIdsApart (.insert i)) :
    Apart ({ m with table := Function.update m.table st.id (some i) }.setStream i
      { st with phase := .opened }) := by
  have hfree : ∀ (j : Nat) (other : Stream), m.streams[j]? = some other → j ≠ i →
      other.id = st.id → ¬ other.Live ∧ ¬ other.RemovalPending :=
    fun j other hj => hcond st hi j (List.getElem?_eq_some_iff.mp hj).1 other hj
  refine ⟨fun j other hj hl => ?_, fun j k s₁ s₂ hj hk hjk hsame hr hl => ?_⟩
  · rcases Tasks.of_set hj with ⟨rfl, rfl⟩ | ⟨hne, hold⟩
    · simp [Manager.setStream]
    · have hdiff : other.id ≠ st.id := fun heq => (hfree j other hold hne heq).1 hl
      simp only [Manager.setStream, Function.update_of_ne hdiff]
      exact h.own j other hold hl
  · rcases Tasks.of_set hj with ⟨rfl, rfl⟩ | ⟨hne, hj'⟩
    · rcases Tasks.of_set hk with ⟨rfl, rfl⟩ | ⟨hne, hk'⟩
      · exact hjk rfl
      · exact (hfree k s₂ hk' hne hsame.symm).1 hl
    · rcases Tasks.of_set hk with ⟨rfl, rfl⟩ | ⟨-, hk'⟩
      · exact (hfree j s₁ hj' hne hsame).2 hr
      · exact h.removal j k s₁ s₂ hj' hk' hjk hsame hr hl

/-- Connections do not matter. -/
theorem Apart.setConn (h : Apart m) {c : Nat} {conn : MuxConn} : Apart (m.setConn c conn) :=
  ⟨h.own, h.removal⟩

/-- The forwarding task of a stream moves on from its loop. -/
theorem Apart.setForward (h : Apart m) (hi : m.streams[i]? = some st)
    (hloop : st.forward.inLoop = true) (queue : List Bytes)
    (wire : List (FrameType × Bytes)) (forward : ForwardPhase) :
    Apart (m.setStream i { st with queue := queue, wire := wire, forward := forward }) := by
  refine h.setStream hi rfl (fun hl => ?_) fun hr => ?_
  · exact ⟨hl.1, hl.2.1, hl.2.2.1, hloop⟩
  · refine ⟨hr.1, hr.2.1, fun hdone => ?_⟩
    rw [hdone] at hloop
    cases hloop

/-- A stream that was never entered in the table stays so, whatever happens to it. -/
theorem Apart.setPhase (h : Apart m) (hi : m.streams[i]? = some st) (hid : new.id = st.id)
    (hphase : new.phase ≠ .opened) : Apart (m.setStream i new) :=
  h.setStream hi hid (fun hl => absurd hl.1 hphase) fun hr => absurd hr.2.1 hphase

/-- The forwarding task of a stream comes to its end. -/
theorem Apart.endForward (h : Apart m) (hi : m.streams[i]? = some st)
    (hclosing : st.forward = .closing) (wire : List (FrameType × Bytes)) {forward : ForwardPhase}
    (hend : forward.inLoop = false) :
    Apart (m.setStream i { st with wire := wire, forward := forward }) := by
  refine h.setStream hi rfl (fun hl => ?_) fun hr => ?_
  · exact absurd (hend.symm.trans hl.2.2.2) (by simp)
  · exact ⟨hr.1, hr.2.1, by rw [hclosing]; simp⟩

/-- **Every step that meets the condition keeps the entries apart.** -/
theorem Apart.step (h : Apart m) {a : ManagerStep} (hcond : m.KeepsIdsApart a)
    (hstep : m.step a = some t) : Apart t := by
  cases move_of_step hstep with
  | connect => exact ⟨h.own, h.removal⟩
  | dialMux => exact h.setConn.addStream (fun hl => nomatch hl.1) fun hr => nomatch hr.1
  | dialDirect =>
    exact Apart.addStream ⟨h.own, h.removal⟩ (fun hl => nomatch hl.1) fun hr => nomatch hr.2.1
  | announceMux hi => exact h.setConn.setPhase hi rfl (by simp)
  | dialFailed _ hi | connectDirect hi => exact h.setPhase hi rfl (by simp)
  | inbound => exact h.addStream (fun hl => nomatch hl.1) fun hr => nomatch hr.2.1
  | insert hi => exact h.insert hi hcond
  | send _ _ _ hj => exact h.setStream hj rfl id id
  | @close i st hi =>
    refine h.eraseId hi rfl (fun hl => nomatch hl.2.1) id fun j other hj => ?_
    exact hcond st hi j (List.getElem?_eq_some_iff.mp hj).1 other hj
  | @takeData i st _ rest hi hidle => exact h.setForward hi (by rw [hidle]; rfl) rest st.wire _
  | @takeEnd i st hi hidle => exact h.setForward hi (by rw [hidle]; rfl) st.queue st.wire .closing
  | @passDirect i st _ hi hhold => exact h.setForward hi (by rw [hhold]; rfl) st.queue _ .idle
  | @passDirectFailed i st _ hi hhold =>
    exact h.setForward hi (by rw [hhold]; rfl) st.queue st.wire .removing
  | @passMux i _ st _ _ _ _ hi hhold =>
    exact h.setConn.setForward hi (by rw [hhold]; rfl) st.queue st.wire .idle
  | @passMuxFailed i _ st _ _ hi hhold =>
    exact h.setForward hi (by rw [hhold]; rfl) st.queue st.wire .closing
  | finishDirect hi hclosing => exact h.endForward hi hclosing _ rfl
  | @finishMux i _ st _ _ hi hclosing => exact h.setConn.endForward hi hclosing st.wire rfl
  | @finishMuxFailed i _ st hi hclosing => exact h.endForward hi hclosing st.wire rfl
  | remoteEnd hi _ _ hidle =>
    refine h.setStream hi rfl (fun hl => nomatch hl.2.2.1) fun hr => ?_
    exact ⟨hr.1, hr.2.1, by rw [hidle]; simp⟩
  | @remove i st hi hlink hphase hremoving =>
    have hpending : st.RemovalPending := ⟨hlink, hphase, by rw [hremoving]; simp⟩
    refine h.eraseId hi rfl (fun hl => nomatch hl.2.2.2) (fun hr => absurd rfl hr.2.2) ?_
    exact fun j other hj hne hid => h.removal i j st other hi hj (Ne.symm hne) hid.symm hpending
  | remoteClose hi => exact h.setStream hi rfl (fun hl => nomatch hl.2.2.1) id
  | write => exact h.setConn

/-! ## Where a stream's data goes -/

/-- The data of a stream, wherever it is, was accepted for that stream. -/
structure OwnData (st : Stream) : Prop where
  queue : ∀ data ∈ st.queue, data ∈ st.accepted
  holding : ∀ data, st.forward = .holding data → data ∈ st.accepted
  wire : ∀ data, (FrameType.relayData, data) ∈ st.wire → data ∈ st.accepted

/-- The invariant behind `CarriesOwnData`. -/
structure Carries (m : Manager) : Prop where
  mux : ∀ (c : Nat) (conn : MuxConn) item, m.conns[c]? = some conn → item ∈ conn.frames →
    ∃ st, m.streams[item.owner]? = some st ∧ st.link = .mux c ∧ IsFrameOf item.owner st item
  data : ∀ st ∈ m.streams, OwnData st

/-- The invariant gives the property. -/
theorem Carries.carriesOwnData (h : Carries m) : m.CarriesOwnData :=
  ⟨h.mux, fun _ st data hi => (h.data st (List.mem_of_getElem? hi)).wire data⟩

/-- A stream changes, keeping its identity and what was accepted for it. -/
theorem Carries.setStream (h : Carries m) (hi : m.streams[i]? = some st) (hid : new.id = st.id)
    (hcls : new.cls = st.cls) (hlink : new.link = st.link)
    (haccepted : ∀ data ∈ st.accepted, data ∈ new.accepted) (hdata : OwnData new) :
    Carries (m.setStream i new) := by
  refine ⟨fun c conn item hc hitem => ?_, fun other hother => ?_⟩
  · refine Tasks.exists_set hi (fun _ hold => ?_) (h.mux c conn item hc hitem)
    obtain ⟨hmux, hframe⟩ := hold
    refine ⟨hlink.trans hmux, ?_⟩
    unfold IsFrameOf at hframe ⊢
    rw [hid, hcls]
    refine hframe.imp_right (Or.imp_left ?_)
    rintro ⟨data, hmem, heq⟩
    exact ⟨data, haccepted data hmem, heq⟩
  · rcases List.mem_or_eq_of_mem_set hother with hold | rfl
    · exact h.data other hold
    · exact hdata

/-- The table does not matter. -/
theorem Carries.setTable (h : Carries m) (table : UInt32 → Option Nat) :
    Carries { m with table := table } :=
  ⟨h.mux, h.data⟩

/-- A new stream carries nothing. -/
theorem Carries.addStream (h : Carries m) (hdata : OwnData new) : Carries (m.addStream new) := by
  refine ⟨fun c conn item hc hitem => ?_, fun other hother => ?_⟩
  · obtain ⟨owner, howner, hrest⟩ := h.mux c conn item hc hitem
    exact ⟨owner, Tasks.append_of_some howner, hrest⟩
  · rcases List.mem_append.mp hother with hold | hnew
    · exact h.data other hold
    · rw [List.mem_singleton.mp hnew]
      exact hdata

/-- A connection changes; its frames are old ones, or of a stream that uses it. -/
theorem Carries.setConn (h : Carries m) {c : Nat} {conn conn' : MuxConn}
    (hc : m.conns[c]? = some conn)
    (hframes : ∀ item ∈ conn'.frames, item ∈ conn.frames ∨
      ∃ st, m.streams[item.owner]? = some st ∧ st.link = .mux c ∧ IsFrameOf item.owner st item) :
    Carries (m.setConn c conn') := by
  refine ⟨fun d other item hd hitem => ?_, h.data⟩
  rcases Tasks.of_set hd with ⟨rfl, rfl⟩ | ⟨-, hold⟩
  · exact (hframes item hitem).elim (h.mux d conn item hc) id
  · exact h.mux d other item hold hitem

/-- A new connection carries nothing. -/
theorem Carries.addConn (h : Carries m) {conn : MuxConn} (hconn : conn.frames = []) :
    ∀ (c : Nat) (conn' : MuxConn) item, (m.conns ++ [conn])[c]? = some conn' → item ∈ conn'.frames →
      ∃ st, m.streams[item.owner]? = some st ∧ st.link = .mux c ∧ IsFrameOf item.owner st item := by
  intro c conn' item hc hitem
  rcases Tasks.of_append hc with ⟨-, rfl⟩ | ⟨-, hold⟩
  · rw [hconn] at hitem
    cases hitem
  · exact h.mux c conn' item hold hitem

/-- A stream enqueues a frame of its own. -/
theorem Carries.enqueue (h : Carries m) (hi : m.streams[i]? = some st) {c : Nat} {cls : StreamClass}
    {item : WriteItem} {conn conn' : MuxConn} (hlink : st.link = .mux c)
    (hc : m.conns[c]? = some conn) (henq : conn.enqueue cls item = some conn')
    (howner : item.owner = i) (hframe : IsFrameOf i st item) : Carries (m.setConn c conn') := by
  refine h.setConn hc fun x hx => ?_
  rcases MuxConn.mem_frames_enqueue henq hx with hold | rfl
  · exact Or.inl hold
  · rw [howner]
    exact Or.inr ⟨st, hi, hlink, hframe⟩

/-- A stream without data. -/
theorem ownData_new (id : UInt32) (cls : StreamClass) (link : Link) (dialed : Bool)
    (phase : StreamPhase) (wire : List (FrameType × Bytes))
    (hwire : ∀ data, (FrameType.relayData, data) ∉ wire) :
    OwnData (.new id cls link dialed phase wire) :=
  ⟨fun _ hmem => (nomatch hmem), fun _ hhold => (nomatch hhold),
    fun data hmem => absurd hmem (hwire data)⟩

/-- The forwarding task lets go of what it held. -/
theorem OwnData.setForward (h : OwnData st) {forward : ForwardPhase}
    (hforward : ∀ data, forward ≠ .holding data) : OwnData { st with forward := forward } :=
  ⟨h.queue, fun data hhold => absurd hhold (hforward data), h.wire⟩

/-- A step of a stream that only moves its forwarding task. -/
theorem Carries.moveForward (h : Carries m) (hi : m.streams[i]? = some st) (forward : ForwardPhase)
    (hforward : ∀ data, forward ≠ .holding data) :
    Carries (m.setStream i { st with forward := forward }) :=
  h.setStream hi rfl rfl rfl (fun _ hmem => hmem)
    ((h.data st (List.mem_of_getElem? hi)).setForward hforward)

/-- A step of a stream that touches no data. -/
theorem Carries.keepData (h : Carries m) (hi : m.streams[i]? = some st) (phase : StreamPhase)
    (agentClosed remoteClosed : Bool) :
    Carries (m.setStream i
      { st with phase := phase, agentClosed := agentClosed, remoteClosed := remoteClosed }) := by
  have hdata := h.data st (List.mem_of_getElem? hi)
  exact h.setStream hi rfl rfl rfl (fun _ hmem => hmem) ⟨hdata.queue, hdata.holding, hdata.wire⟩

/-- The forwarding task of a direct stream writes a frame. -/
theorem Carries.writeWire (h : Carries m) (hi : m.streams[i]? = some st)
    {frame : FrameType × Bytes} {forward : ForwardPhase}
    (hframe : frame.1 = .relayData → frame.2 ∈ st.accepted)
    (hforward : ∀ data, forward ≠ .holding data) :
    Carries (m.setStream i { st with wire := st.wire ++ [frame], forward := forward }) := by
  have hdata := h.data st (List.mem_of_getElem? hi)
  refine h.setStream hi rfl rfl rfl (fun _ hmem => hmem)
    ⟨hdata.queue, fun data hx => absurd hx (hforward data), fun data hx => ?_⟩
  rcases List.mem_append.mp hx with hold | hnew
  · exact hdata.wire data hold
  · cases List.mem_singleton.mp hnew
    exact hframe rfl

/-- **Every step keeps each stream's data on its connection.** -/
theorem Carries.step (h : Carries m) {a : ManagerStep} (hstep : m.step a = some t) : Carries t := by
  cases move_of_step hstep with
  | connect pool _ hconn =>
    refine ⟨h.addConn ?_, h.data⟩
    rcases hconn with rfl | rfl <;> rfl
  | @dialMux _ _ c conn hc =>
    have hconn : Carries (m.setConn c { conn with nextStreamId := conn.nextStreamId + 2 }) :=
      h.setConn hc fun item hitem => Or.inl hitem
    exact hconn.addStream (ownData_new _ _ _ _ _ _ fun _ hmem => nomatch hmem)
  | dialDirect => exact Carries.addStream ⟨h.mux, h.data⟩ (ownData_new _ _ _ _ _ _ (by simp))
  | @announceMux i c st _ _ hi _ hlink hc henq =>
    exact (h.enqueue hi hlink hc henq rfl (Or.inl rfl)).keepData hi _ st.agentClosed
      st.remoteClosed
  | @dialFailed _ i st _ hi => exact h.keepData hi _ st.agentClosed st.remoteClosed
  | @connectDirect i st hi =>
    have hdata := h.data st (List.mem_of_getElem? hi)
    exact h.setStream hi rfl rfl rfl (fun _ hmem => hmem)
      ⟨hdata.queue, hdata.holding, fun _ hmem => nomatch List.mem_singleton.mp hmem⟩
  | inbound id cls link _ _ hwire => exact h.addStream (ownData_new _ _ _ _ _ _ hwire)
  | @insert i st hi =>
    have htable := h.setTable (Function.update m.table st.id (some i))
    exact htable.keepData hi .opened st.agentClosed st.remoteClosed
  | @send _ j _ target data _ _ _ hj =>
    have hdata := h.data target (List.mem_of_getElem? hj)
    refine h.setStream hj rfl rfl rfl (fun x hx => List.mem_append_left _ hx)
      ⟨fun x hx => ?_, fun x hx => List.mem_append_left _ (hdata.holding x hx),
        fun x hx => List.mem_append_left _ (hdata.wire x hx)⟩
    rcases List.mem_append.mp hx with hold | hnew
    · exact List.mem_append_left _ (hdata.queue x hold)
    · exact List.mem_append_right _ hnew
  | @close i st hi =>
    have htable := h.setTable (Function.update m.table st.id none)
    exact htable.keepData hi st.phase true st.remoteClosed
  | @takeData i st data rest hi _ hqueue =>
    have hdata := h.data st (List.mem_of_getElem? hi)
    have hmem : ∀ x ∈ data :: rest, x ∈ st.accepted := by
      rw [← hqueue]
      exact hdata.queue
    refine h.setStream hi rfl rfl rfl (fun _ hmem => hmem)
      ⟨fun x hx => hmem x (List.mem_cons_of_mem _ hx), fun x hx => ?_, hdata.wire⟩
    cases hx
    exact hmem data List.mem_cons_self
  | takeEnd hi | passDirectFailed hi | passMuxFailed hi | finishMuxFailed hi =>
    exact h.moveForward hi _ (by simp)
  | @passDirect i st data hi hhold =>
    have hdata := h.data st (List.mem_of_getElem? hi)
    exact h.writeWire hi (fun _ => hdata.holding data hhold) (by simp)
  | @passMux i c st data _ _ _ hi hhold hlink hc henq =>
    have hmem := (h.data st (List.mem_of_getElem? hi)).holding data hhold
    exact (h.enqueue hi hlink hc henq rfl (Or.inr (Or.inl ⟨data, hmem, rfl⟩))).moveForward hi _
      (by simp)
  | finishDirect hi => exact h.writeWire hi (fun heq => nomatch heq) (by simp)
  | finishMux hi _ hlink hc henq =>
    exact (h.enqueue hi hlink hc henq rfl (Or.inr (Or.inr rfl))).moveForward hi _ (by simp)
  | @remoteEnd i st hi =>
    have hdata := h.data st (List.mem_of_getElem? hi)
    exact h.setStream hi rfl rfl rfl (fun _ hmem => hmem)
      ⟨hdata.queue, fun _ hhold => (nomatch hhold), hdata.wire⟩
  | @remove i st hi =>
    have htable := h.setTable (Function.update m.table st.id none)
    exact htable.moveForward hi .done (by simp)
  | @remoteClose i st hi => exact h.keepData hi st.phase st.agentClosed true
  | write hc hwrite =>
    exact h.setConn hc fun item hitem =>
      Or.inl ((MuxConn.writeMove_of_writeStep hwrite).mem_frames hitem)

/-- With its own entry in the table, a live stream gets what is sent on its id. -/
theorem OwnEntries.sendsReachOwn (h : m.OwnEntries) : m.SendsReachOwn := by
  intro i st data t hi hlive hstep
  obtain ⟨st', hi', hstep⟩ := Option.bind_eq_some_iff.mp hstep
  obtain rfl : st = st' := Option.some.inj (hi.symm.trans hi')
  split_ifs at hstep
  unfold Manager.send at hstep
  rw [h i st hi hlive, Option.bind_some, hi, Option.bind_some] at hstep
  split_ifs at hstep
  exact (Option.some.inj hstep).symm

end Manager

/-- **Live streams keep their entries when ids are kept apart.** In every run that meets the
condition, every live stream has its own entry in the table, what is sent on its id goes into its
own channel, and from there to its own connection only. -/
theorem ownEntries_of_keepsIdsApart (useMux : Bool) (as : List ManagerStep) (m : Manager)
    (hrun : (managerMachine useMux).run (managerMachine useMux).init as = some m)
    (hcond : (managerMachine useMux).Along Manager.KeepsIdsApart (managerMachine useMux).init as) :
    m.OwnEntries ∧ m.SendsReachOwn ∧ m.CarriesOwnData := by
  have hapart : m.Apart := (managerMachine useMux).along_invariant
    (fun _ _ _ h hP hstep => h.step hP hstep)
    ⟨by simp [Manager.OwnEntries, managerMachine], by simp [managerMachine]⟩ hcond hrun
  have hcarries : m.Carries := (managerMachine useMux).run_invariant
    (fun _ _ _ h hstep => h.step hstep)
    ⟨by simp [managerMachine], by simp [managerMachine]⟩ hrun
  exact ⟨hapart.own, hapart.own.sendsReachOwn, hcarries.carriesOwnData⟩

/-- A mux dial, an inbound stream on the same connection, and a direct one from elsewhere, all with
different ids; a send on the dialed stream, and the inbound streams end. -/
def threeStreamSteps : List ManagerStep :=
  [.connectMux ['a'], .dialMux ['a'] .control, .announceMux 0, .insert 0,
    .inboundOpen 0 [0, 0, 0, 2, 3], .insert 1, .inboundRelay [0, 0, 0, 7, 1], .insert 2,
    .send 0 [9], .take 0, .pass 0 true, .close 1, .remoteEnd 2, .remove 2]

/-- The condition is met by a run with streams of all kinds. -/
theorem ownEntries_threeStreamSteps :
    ∃ m, (managerMachine true).run (managerMachine true).init threeStreamSteps = some m ∧
      m.table 1 = some 0 ∧ m.table 2 = none ∧ m.table 7 = none ∧
      m.OwnEntries ∧ m.SendsReachOwn ∧ m.CarriesOwnData := by
  obtain ⟨m, hm, h₁, h₂, h₃⟩ := (managerMachine true).exists_run threeStreamSteps
    (fun m => m.table 1 = some 0 ∧ m.table 2 = none ∧ m.table 7 = none) (by decide)
  exact ⟨m, hm, h₁, h₂, h₃, ownEntries_of_keepsIdsApart true _ m hm (by decide)⟩

/-- Dials to two remotes: each connection starts counting at one. Then a send on the first stream.
-/
def twoRemotesSteps : List ManagerStep :=
  [.connectMux ['a'], .dialMux ['a'] .control, .announceMux 0, .insert 0,
    .connectMux ['b'], .dialMux ['b'] .control, .announceMux 1, .insert 1,
    .send 0 [9], .take 1, .pass 1 true]

/-- **Streams to two remotes are cross-wired**: the second dial replaces the entry of the first
stream, which is still live, and what is sent on the first stream goes to the second remote. -/
theorem ownEntries_fails :
    ∃ as m, (managerMachine true).run (managerMachine true).init as = some m ∧
      (∃ st ∈ m.streams[0]?, st.Live ∧ st.link = .mux 0 ∧ st.id = 1) ∧ m.table 1 = some 1 ∧
      (∃ conn ∈ m.conns[1]?, .streamData 1 1 [9] ∈ conn.frames) ∧ ¬ m.OwnEntries := by
  obtain ⟨m, hm, hlive, htable, hframe⟩ := (managerMachine true).exists_run twoRemotesSteps
    (fun m => (∃ st ∈ m.streams[0]?, st.Live ∧ st.link = .mux 0 ∧ st.id = 1) ∧
      m.table 1 = some 1 ∧ ∃ conn ∈ m.conns[1]?, .streamData 1 1 [9] ∈ conn.frames) (by decide)
  refine ⟨_, m, hm, hlive, htable, hframe, fun hown => ?_⟩
  obtain ⟨st, hst, hlive, -, hid⟩ := hlive
  have hentry := hown 0 st hst hlive
  rw [hid, htable] at hentry
  cases hentry

end Roboat.Daemon
