import Roboat.Daemon.StreamTable

/-! # Streams and their table entries

With distinct ids the table of the manager can be read off the streams: every entry is under the id
of its stream (`Entries`), and a stream that was opened is found there until it is closed or
terminates (`OpenEntries`). What a step does to a stream is said once, in `StreamsAfter`. -/

namespace Roboat.Daemon

/-- The stream is announced to the remote, or by it. -/
def Stream.Announced (st : Stream) : Prop := st.phase = .announced ∨ st.phase = .opened

instance (st : Stream) : Decidable st.Announced := inferInstanceAs (Decidable (_ ∨ _))

/-- The data the forwarding task has in hand. -/
def ForwardPhase.held : ForwardPhase → List Bytes
  | holding data => [data]
  | _ => []

/-- The frames stream `i` is still going to enqueue, as far as it has been told. -/
def Stream.unsent (i : Nat) (st : Stream) : List WriteItem :=
  (st.forward.held ++ st.queue).map (.streamData i st.id) ++
    if st.agentClosed = true ∧ st.forward ≠ .done then [.streamClose i st.id] else []

/-- The frame that announces a stream to the remote, once it is enqueued. -/
def openFrames (i : Nat) (id : UInt32) (cls : StreamClass) (dialed : Bool) (phase : StreamPhase) :
    List WriteItem :=
  if dialed = true ∧ (phase = .announced ∨ phase = .opened) then [.streamOpen i id cls] else []

/-- The frames stream `i` enqueues in all, as far as it has been told. -/
def Stream.due (i : Nat) (st : Stream) : List WriteItem :=
  openFrames i st.id st.cls st.dialed st.phase ++ st.accepted.map (.streamData i st.id) ++
    if st.agentClosed = true then [.streamClose i st.id] else []

/-- What a step does to one stream: it stays the same stream, remains announced or opened, and only
a call of an agent changes what was accepted and whether it is closed. -/
structure Stream.Continues (a : ManagerStep) (st new : Stream) : Prop where
  id_eq : new.id = st.id
  cls_eq : new.cls = st.cls
  link_eq : new.link = st.link
  announced : st.Announced → new.Announced
  opened : st.phase = .opened → new.phase = .opened
  accepted : a.isCall = false → new.accepted = st.accepted
  agentClosed : a.isCall = false → new.agentClosed = st.agentClosed

/-- Nothing happens to a stream. -/
theorem Stream.Continues.refl (a : ManagerStep) (st : Stream) : st.Continues a st :=
  ⟨rfl, rfl, rfl, fun h => h, fun h => h, fun _ => rfl, fun _ => rfl⟩

/-- The stream whose frame a step may enqueue. -/
def ManagerStep.sender : ManagerStep → Option Nat
  | announceMux i => some i
  | pass i _ => some i
  | finish i => some i
  | _ => none

namespace Manager

/-- **Distinct ids**: no two streams that are announced have one id. A stream that was entered in
the table counts for good, also after it is closed: no id is used a second time. -/
def DistinctIds (m : Manager) : Prop :=
  ∀ i < m.streams.length, ∀ st ∈ m.streams[i]?, ∀ j < m.streams.length, ∀ other ∈ m.streams[j]?,
    i ≠ j → st.Announced ∧ other.Announced → st.id ≠ other.id

instance (m : Manager) : Decidable m.DistinctIds := by unfold DistinctIds; infer_instance

variable {m t : Manager} {a : ManagerStep} {i j c : Nat} {st other new : Stream}
  {conn conn' : MuxConn}

/-- With distinct ids, a stream is found by its id. -/
theorem DistinctIds.eq (h : m.DistinctIds) (hi : m.streams[i]? = some st)
    (hj : m.streams[j]? = some other) (hst : st.Announced) (hother : other.Announced)
    (hid : st.id = other.id) : i = j := by
  by_contra hne
  have hlt : i < m.streams.length := (List.getElem?_eq_some_iff.mp hi).1
  have hlt' : j < m.streams.length := (List.getElem?_eq_some_iff.mp hj).1
  exact h i hlt st hi j hlt' other hj hne ⟨hst, hother⟩ hid

/-! ## What a step does to streams and connections -/

/-- How the streams before and after a step are related. -/
structure StreamsAfter (a : ManagerStep) (before after : List Stream) : Prop where
  old : ∀ (i : Nat) (st : Stream), before[i]? = some st →
    ∃ new, after[i]? = some new ∧ st.Continues a new
  fresh : ∀ (i : Nat) (new : Stream), before[i]? = none → after[i]? = some new →
    new.phase ≠ .opened

/-- No stream changes. -/
theorem StreamsAfter.refl (a : ManagerStep) (l : List Stream) : StreamsAfter a l l :=
  ⟨fun _ st hi => ⟨st, hi, .refl a st⟩, fun _ _ hnone hsome => nomatch hnone.symm.trans hsome⟩

/-- One stream changes. -/
theorem StreamsAfter.set {l : List Stream} (hj : l[j]? = some st) (hnew : st.Continues a new) :
    StreamsAfter a l (l.set j new) := by
  refine ⟨fun i old hi => ?_, fun i fresh hnone hsome => ?_⟩
  · refine Tasks.exists_set hj (fun hij _ => ?_) ⟨old, hi, .refl a old⟩
    subst hij
    obtain rfl : st = old := Option.some.inj (hj.symm.trans hi)
    exact hnew
  · rcases Tasks.of_set hsome with ⟨rfl, -⟩ | ⟨-, hold⟩
    · cases hnone.symm.trans hj
    · cases hnone.symm.trans hold

/-- A stream is added. -/
theorem StreamsAfter.append {l : List Stream} (hnew : new.phase ≠ .opened) :
    StreamsAfter a l (l ++ [new]) := by
  refine ⟨fun i old hi => ⟨old, Tasks.append_of_some hi, .refl a old⟩,
    fun i fresh hnone hsome => ?_⟩
  rcases Tasks.of_append hsome with ⟨-, rfl⟩ | ⟨-, hold⟩
  · exact hnew
  · cases hnone.symm.trans hold

/-- **Every step continues the streams there are**, and adds at most one. -/
theorem Move.streamsAfter (h : Move m a t) : StreamsAfter a m.streams t.streams := by
  cases h with
  | connect | write => exact .refl _ _
  | dialMux | dialDirect | inbound => exact .append (by simp [Stream.new])
  | announceMux hi hphase | connectDirect hi hphase =>
    refine .set hi ⟨rfl, rfl, rfl, fun _ => .inl rfl, fun hopened => ?_, fun _ => rfl, fun _ => rfl⟩
    cases hphase.symm.trans hopened
  | insert hi =>
    exact .set hi ⟨rfl, rfl, rfl, fun _ => .inr rfl, fun _ => rfl, fun _ => rfl, fun _ => rfl⟩
  | dialFailed _ hi hphase =>
    refine .set hi ⟨rfl, rfl, rfl, fun hann => ?_, fun hopened => ?_, fun _ => rfl, fun _ => rfl⟩
    · rcases hann with hann | hann <;> cases hphase.symm.trans hann
    · cases hphase.symm.trans hopened
  | send _ _ _ hj =>
    exact .set hj ⟨rfl, rfl, rfl, id, id, fun hcall => (nomatch hcall), fun _ => rfl⟩
  | close hi => exact .set hi ⟨rfl, rfl, rfl, id, id, fun _ => rfl, fun hcall => nomatch hcall⟩
  | takeData hi | takeEnd hi | passDirect hi | passDirectFailed hi | passMux hi
    | passMuxFailed hi | finishDirect hi | finishMux hi | finishMuxFailed hi | remoteEnd hi
    | remove hi | remoteClose hi =>
    exact .set hi ⟨rfl, rfl, rfl, id, id, fun _ => rfl, fun _ => rfl⟩

/-- Ids that are distinct were distinct before. -/
theorem DistinctIds.of_move (h : Move m a t) (ht : t.DistinctIds) : m.DistinctIds := by
  rintro i - st hi j - other hj hne ⟨hst, hother⟩ hid
  obtain ⟨st', hi', hst'⟩ := h.streamsAfter.old i st hi
  obtain ⟨other', hj', hother'⟩ := h.streamsAfter.old j other hj
  refine hne (ht.eq hi' hj' (hst'.announced hst) (hother'.announced hother) ?_)
  rw [hst'.id_eq, hother'.id_eq, hid]

/-! ## Entries of the table -/

/-- What holds of every stream: before it is entered in the table nobody can call it, only a dial is
ever under way, and its mux connection exists. -/
structure Sound (conns : Nat) (st : Stream) : Prop where
  early : st.phase ≠ .opened → st.agentClosed = false ∧ st.accepted = []
  dialing : st.phase = .dialing → st.dialed = true
  linked : ∀ c, st.link = .mux c → c < conns

/-- **The table is sound**: an entry is for a stream of that id, which its agent has not closed. -/
structure Entries (m : Manager) : Prop where
  registered : ∀ id j, m.table id = some j →
    ∃ st, m.streams[j]? = some st ∧ st.id = id ∧ st.phase = .opened ∧ st.agentClosed = false
  sound : ∀ st ∈ m.streams, Sound m.conns.length st

/-- A stream with an entry is open. -/
theorem Entries.entry (h : Entries m) (hi : m.streams[i]? = some st)
    (htable : m.table st.id = some i) : st.phase = .opened ∧ st.agentClosed = false := by
  obtain ⟨st', hi', -, hopen⟩ := h.registered st.id i htable
  obtain rfl : st = st' := Option.some.inj (hi.symm.trans hi')
  exact hopen

theorem Entries.sound_of (h : Entries m) (hi : m.streams[i]? = some st) :
    Sound m.conns.length st :=
  h.sound st (List.mem_of_getElem? hi)

/-- A stream changes. -/
theorem Entries.setStream (h : Entries m) (hi : m.streams[i]? = some st) (hid : new.id = st.id)
    (hsound : Sound m.conns.length new)
    (hentry : m.table st.id = some i → new.phase = .opened ∧ new.agentClosed = false) :
    Entries (m.setStream i new) := by
  refine ⟨fun id j htable => ?_, fun other hother => ?_⟩
  · refine Tasks.exists_set hi (fun hij hold => ?_) (h.registered id j htable)
    subst hij
    exact ⟨hid.trans hold.1, hentry (hold.1.symm ▸ htable)⟩
  · rcases List.mem_or_eq_of_mem_set hother with hold | rfl
    · exact h.sound other hold
    · exact hsound

/-- A stream changes in nothing that the table depends on. -/
theorem Entries.keep (h : Entries m) (hi : m.streams[i]? = some st)
    (hsame : new.id = st.id ∧ new.link = st.link ∧ new.dialed = st.dialed ∧ new.phase = st.phase ∧
      new.accepted = st.accepted ∧ new.agentClosed = st.agentClosed) :
    Entries (m.setStream i new) := by
  obtain ⟨hid, hlink, hdialed, hphase, haccepted, hclosed⟩ := hsame
  have hold := h.sound_of hi
  refine h.setStream hi hid ⟨?_, ?_, ?_⟩ fun htable => ?_
  · rw [hphase, haccepted, hclosed]
    exact hold.early
  · rw [hphase, hdialed]
    exact hold.dialing
  · rw [hlink]
    exact hold.linked
  · rw [hphase, hclosed]
    exact h.entry hi htable

/-- A dial ends. -/
theorem Entries.setPhase (h : Entries m) (hi : m.streams[i]? = some st)
    (hold : st.phase = .dialing) (phase : StreamPhase) (wire : List (FrameType × Bytes)) :
    Entries (m.setStream i { st with phase := phase, wire := wire }) := by
  have hsound := h.sound_of hi
  refine h.setStream hi rfl ⟨fun _ => ?_, fun _ => ?_, hsound.linked⟩ fun htable => ?_
  · exact hsound.early (by rw [hold]; simp)
  · exact hsound.dialing hold
  · cases hold.symm.trans (h.entry hi htable).1

/-- An id is taken out of the table. -/
theorem Entries.eraseId (h : Entries m) (id : UInt32) :
    Entries { m with table := Function.update m.table id none } := by
  refine ⟨fun id' j htable => ?_, h.sound⟩
  by_cases hid : id' = id
  · subst hid
    simp at htable
  · simp only [Function.update_of_ne hid] at htable
    exact h.registered id' j htable

/-- A stream is entered in the table. -/
theorem Entries.insert (h : Entries m) (hi : m.streams[i]? = some st)
    (hphase : st.phase = .announced) :
    Entries ({ m with table := Function.update m.table st.id (some i) }.setStream i
      { st with phase := .opened }) := by
  have hsound := h.sound_of hi
  have hearly := hsound.early (by rw [hphase]; simp)
  refine ⟨fun id j htable => ?_, fun other hother => ?_⟩
  · by_cases hid : id = st.id
    · subst hid
      obtain rfl : i = j := by simpa [Manager.setStream] using htable
      exact ⟨_, Tasks.set_self hi, rfl, rfl, hearly.1⟩
    · simp only [Manager.setStream, Function.update_of_ne hid] at htable
      obtain ⟨old, hj, hold⟩ := h.registered id j htable
      have hij : i ≠ j := by
        rintro rfl
        obtain rfl : st = old := Option.some.inj (hi.symm.trans hj)
        exact hid hold.1.symm
      exact ⟨old, by simpa [Manager.setStream, List.getElem?_set_ne hij] using hj, hold⟩
  · rcases List.mem_or_eq_of_mem_set hother with hold | rfl
    · exact h.sound other hold
    · exact ⟨fun hne => absurd rfl hne, fun hdialing => (by cases hdialing), hsound.linked⟩

/-- Connections do not matter. -/
theorem Entries.setConn (h : Entries m) : Entries (m.setConn c conn) :=
  ⟨h.registered, by simpa [Manager.setConn] using h.sound⟩

/-- A stream is added. -/
theorem Entries.addStream (h : Entries m) (hsound : Sound m.conns.length new) :
    Entries (m.addStream new) := by
  refine ⟨fun id j htable => ?_, fun other hother => ?_⟩
  · obtain ⟨old, hj, hold⟩ := h.registered id j htable
    exact ⟨old, Tasks.append_of_some hj, hold⟩
  · rcases List.mem_append.mp hother with hold | hnew
    · exact h.sound other hold
    · rw [List.mem_singleton.mp hnew]
      exact hsound

/-- **Every step keeps the table sound.** -/
theorem Entries.step (h : Entries m) (hmove : Move m a t) : Entries t := by
  cases hmove with
  | connect pool =>
    refine ⟨h.registered, fun st hst => ?_⟩
    have hold := h.sound st hst
    refine ⟨hold.early, hold.dialing, fun c hc => ?_⟩
    rw [List.length_append]
    exact Nat.lt_add_right _ (hold.linked c hc)
  | write => exact h.setConn
  | @dialMux _ _ c conn hc =>
    refine h.setConn.addStream ⟨fun _ => ⟨rfl, rfl⟩, fun _ => rfl, fun d hd => ?_⟩
    cases hd
    rw [Manager.setConn, List.length_set]
    exact (List.getElem?_eq_some_iff.mp hc).1
  | dialDirect =>
    exact Entries.addStream ⟨h.registered, h.sound⟩
      ⟨fun _ => ⟨rfl, rfl⟩, fun _ => rfl, fun _ hd => nomatch hd⟩
  | inbound id cls link _ hlink =>
    exact h.addStream ⟨fun _ => ⟨rfl, rfl⟩, fun hdialing => (nomatch hdialing), hlink⟩
  | @announceMux _ _ st _ _ hi hphase => exact h.setConn.setPhase hi hphase _ st.wire
  | connectDirect hi hphase => exact h.setPhase hi hphase _ _
  | @dialFailed _ _ st _ hi hphase => exact h.setPhase hi hphase _ st.wire
  | insert hi hphase => exact h.insert hi hphase
  | @send _ j _ target data _ _ htable hj =>
    obtain ⟨old, hj', hid, hopen⟩ := h.registered _ _ htable
    obtain rfl : target = old := Option.some.inj (hj.symm.trans hj')
    exact h.setStream hj rfl ⟨fun hne => absurd hopen.1 hne, (h.sound_of hj).dialing,
      (h.sound_of hj).linked⟩ fun _ => hopen
  | @close _ st hi hphase =>
    refine (h.eraseId st.id).setStream hi rfl ⟨fun hne => absurd hphase hne,
      (h.sound_of hi).dialing, (h.sound_of hi).linked⟩ fun htable => ?_
    simp at htable
  | @remove _ st hi => exact (h.eraseId st.id).keep hi ⟨rfl, rfl, rfl, rfl, rfl, rfl⟩
  | takeData hi | takeEnd hi | passDirect hi | passDirectFailed hi | passMuxFailed hi
    | finishDirect hi | finishMuxFailed hi | remoteEnd hi | remoteClose hi =>
    exact h.keep hi ⟨rfl, rfl, rfl, rfl, rfl, rfl⟩
  | passMux hi | finishMux hi => exact h.setConn.keep hi ⟨rfl, rfl, rfl, rfl, rfl, rfl⟩

/-- **Open streams are in the table**: a mux stream that is handed out and not closed by its agent.
-/
def OpenEntries (m : Manager) : Prop :=
  ∀ (i : Nat) (st : Stream), m.streams[i]? = some st → st.link ≠ .direct → st.phase = .opened →
    st.agentClosed = false → m.table st.id = some i

/-- A stream changes, but is neither entered in the table nor opened again. -/
theorem OpenEntries.setStream (h : m.OpenEntries) (hi : m.streams[i]? = some st)
    (hid : new.id = st.id) (hlink : new.link = st.link)
    (hphase : new.phase = .opened → st.phase = .opened)
    (hclosed : new.agentClosed = false → st.agentClosed = false) :
    (m.setStream i new).OpenEntries := by
  intro j other hj hl hp hc
  rcases Tasks.of_set hj with ⟨rfl, rfl⟩ | ⟨-, hold⟩
  · rw [hid]
    exact h j st hi (hlink ▸ hl) (hphase hp) (hclosed hc)
  · exact h j other hold hl hp hc

/-- A stream that is not handed out is added. -/
theorem OpenEntries.addStream (h : m.OpenEntries) (hnew : new.phase ≠ .opened) :
    (m.addStream new).OpenEntries := by
  intro j other hj hl hp hc
  rcases Tasks.of_append hj with ⟨-, rfl⟩ | ⟨-, hold⟩
  · exact absurd hp hnew
  · exact h j other hold hl hp hc

/-- The entry under the id of one stream changes: with distinct ids no other stream is concerned. -/
theorem OpenEntries.setEntry (h : m.OpenEntries) {entry : Option Nat}
    (hi : m.streams[i]? = some st) (hid : new.id = st.id) (hann : new.Announced)
    (hdistinct : ({ m with table := Function.update m.table st.id entry }.setStream i
      new).DistinctIds)
    (hown : new.link ≠ .direct → new.agentClosed = false → entry = some i) :
    ({ m with table := Function.update m.table st.id entry }.setStream i new).OpenEntries := by
  intro j other hj hl hp hc
  rcases Tasks.of_set hj with ⟨rfl, rfl⟩ | ⟨hne, hold⟩
  · simp only [Manager.setStream, hid, Function.update_self]
    exact hown hl hc
  · have hdiff : other.id ≠ st.id := fun heq =>
      hne (hdistinct.eq hj (Tasks.set_self hi) (.inr hp) hann (heq.trans hid.symm))
    simp only [Manager.setStream, Function.update_of_ne hdiff]
    exact h j other hold hl hp hc

/-- **Every step to distinct ids keeps open streams in the table.** -/
theorem OpenEntries.step (h : m.OpenEntries) (hmove : Move m a t) (hdistinct : t.DistinctIds) :
    t.OpenEntries := by
  cases hmove with
  | connect | write => exact h
  | dialMux | dialDirect => exact OpenEntries.addStream (by exact h) (by simp [Stream.new])
  | inbound => exact h.addStream (by simp [Stream.new])
  | announceMux hi => exact OpenEntries.setStream (by exact h) hi rfl rfl (fun hp => nomatch hp) id
  | connectDirect hi | dialFailed _ hi => exact h.setStream hi rfl rfl (fun hp => nomatch hp) id
  | insert hi => exact h.setEntry hi rfl (.inr rfl) hdistinct fun _ _ => rfl
  | close hi hphase =>
    exact h.setEntry hi rfl (.inr hphase) hdistinct fun _ hc => nomatch hc
  | remove hi hlink hphase =>
    exact h.setEntry hi rfl (.inr hphase) hdistinct fun hl => absurd hlink hl
  | send _ _ _ hj => exact h.setStream hj rfl rfl id id
  | takeData hi | takeEnd hi | passDirect hi | passDirectFailed hi | passMuxFailed hi
    | finishDirect hi | finishMuxFailed hi | remoteEnd hi | remoteClose hi =>
    exact h.setStream hi rfl rfl id id
  | passMux hi | finishMux hi => exact OpenEntries.setStream (by exact h) hi rfl rfl id id

end Manager

end Roboat.Daemon
