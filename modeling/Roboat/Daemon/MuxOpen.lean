import Roboat.Daemon.MuxStreams

/-! # A multiplexed connection: opening a stream

`open_stream` enqueues its `StreamOpen` before it inserts the entry for the answers, and the
insertion waits for the lock of the table. A peer that answers at once can have its data read while
there is no entry yet: the read task drops it as data of an unknown stream. A peer can also open a
stream under the id itself: its `StreamOpen` replaces the entry, and the data goes to another
receiver.

Which frames answer a `StreamOpen` is told by the frames the peer had received when it sent them. -/

namespace Roboat.Daemon.Demux

/-- The peer had received the `StreamOpen` of call `k` when it sent the frame. -/
def State.Answers (s : State) (k : Nat) (call : OpenCall) (f : InFrame) : Prop :=
  .streamOpen k call.id call.cls ∈ s.conn.written.take f.seen

instance (s : State) (k : Nat) (call : OpenCall) : DecidablePred (s.Answers k call) :=
  fun f => inferInstanceAs (Decidable (_ ∈ s.conn.written.take f.seen))

/-- **Opening a stream loses no answer**: the data of all handled frames that answer the
`StreamOpen` of a call is in the channel the call has returned, in order, as long as neither side
has closed the stream and the receiver is not dropped. Closed by this side means that `close_stream`
took the sender out; a sender that another has replaced under the same id counts as open. -/
def State.Answered (s : State) : Prop :=
  ∀ k, ∀ call ∈ s.opens[k]?, ∀ ch, call.phase = .inserted ch → ∀ c ∈ s.inbound.chans[ch]?,
    c.dropped = false → c.closedHere = false →
    closedIn call.id (s.inbound.handled.drop c.birth) = false →
    ((s.inbound.handled.filter fun f => s.Answers k call f).flatMap fun f =>
      f.dataFor call.id).Sublist c.sent

/-- An `open_stream` for this id has enqueued its `StreamOpen` and not yet inserted its entry. -/
def State.opening (s : State) (id : UInt32) : Bool :=
  s.opens.any fun call => call.id == id && call.phase == .enqueued

/-- The id has no entry that an `open_stream` has made. -/
def State.vacant (s : State) (id : UInt32) : Bool :=
  (s.inbound.table id).all fun ch => s.inbound.chans[ch]?.all fun c => !c.own

/-- The id a step looks up for data or a close. -/
def State.looksUp (s : State) : Step → Option UInt32
  | .inbound .lock => s.inbound.reader.target
  | _ => none

/-- **The condition**: the read task looks up data and closes for a stream only when no
`open_stream` for it is between its two steps; and an entry is inserted, for a `StreamOpen` of the
peer or by this side, only under an id that has no entry of an `open_stream`. -/
def State.Patient (s : State) (a : Step) : Prop :=
  (∀ id ∈ s.looksUp a, s.opening id = false) ∧ ∀ id ∈ s.inserts a, s.vacant id = true

-- by looking at the one id there is, not by trying all of them
instance (s : State) (a : Step) : Decidable (s.Patient a) :=
  @instDecidableAnd _ _ (Option.decidableForallMem (s.looksUp a))
    (Option.decidableForallMem (s.inserts a))

/-- The invariant of guided runs. -/
structure Opening (s : State) : Prop where
  delivery : Delivery s.inbound
  /-- The peer receives only what was written. -/
  peerSeen : s.peerSeen ≤ s.conn.written.length
  seen : ∀ f ∈ s.inbound.frames, f.seen ≤ s.conn.written.length
  /-- Every `StreamOpen` belongs to a call that has enqueued it. -/
  enqueued : ∀ item ∈ s.conn.frames, item.frameType = .streamOpen →
    ∃ call, s.opens[item.owner]? = some call ∧ call.phase ≠ .drawn
  /-- No answer was looked up while a call is between its two steps. -/
  between : ∀ (k : Nat) (call : OpenCall), s.opens[k]? = some call → call.phase = .enqueued →
    ∀ f ∈ s.inbound.looked, s.Answers k call f → f.target ≠ some call.id
  /-- No answer was handled before the entry was inserted, and no other has replaced it. -/
  inserted : ∀ (k : Nat) (call : OpenCall) (ch : Nat), s.opens[k]? = some call →
    call.phase = .inserted ch → ∃ c, s.inbound.chans[ch]? = some c ∧ c.id = call.id ∧
      c.own = true ∧ c.replaced = false ∧
      ∀ f ∈ s.inbound.handled.take c.birth, s.Answers k call f → f.target ≠ some call.id

section Opening

variable {s t : State}

theorem opening_init (role : Role) : Opening (machine role).init := by
  cases role <;>
    exact ⟨delivery_empty, Nat.le_refl 0, fun _ h => (nomatch h), fun _ h => (nomatch h),
      fun _ _ h => (nomatch h), fun _ _ _ h => (nomatch h)⟩

/-- What is left out by a filter has no data. -/
theorem flatMap_filter_sublist {id : UInt32} {frames : List InFrame} (p : InFrame → Bool) :
    ((frames.filter p).flatMap fun f => f.dataFor id).Sublist
      (frames.flatMap fun f => f.dataFor id) := by
  induction frames with
  | nil => exact List.Sublist.slnil
  | cons f frames ih =>
    rw [List.filter_cons, List.flatMap_cons]
    split_ifs
    · exact (List.Sublist.refl _).append ih
    · exact ih.trans (List.sublist_append_right _ _)

/-- What the invariant says about the answered opens. -/
theorem Opening.answered (h : Opening s) : s.Answered := by
  intro k call hk ch hphase c hc halive hhere hopen
  obtain ⟨d, hd, hid, -, hunreplaced, hbefore⟩ := h.inserted k call ch hk hphase
  obtain rfl : c = d := Option.some.inj ((Option.mem_def.mp hc).symm.trans hd)
  have hattached : c.detached = false := by
    simpa [Chan.closedHere, hunreplaced] using hhere
  have hkept := (h.delivery.kept ch c hc hattached).2 halive
  rw [hkept, hid, dataUntilClose_of_not_closedIn hopen]
  -- the answers are all behind the insertion
  have hnone : ((s.inbound.handled.take c.birth).filter fun f => s.Answers k call f).flatMap
      (fun f => f.dataFor call.id) = [] := by
    refine List.flatMap_eq_nil_iff.mpr fun f hf => ?_
    obtain ⟨hmem, hanswers⟩ := List.mem_filter.mp hf
    exact dataFor_of_target (hbefore f hmem (of_decide_eq_true hanswers))
  have hsplit := List.take_append_drop c.birth s.inbound.handled
  rw [← hsplit, List.filter_append, List.flatMap_append, hnone, List.nil_append, hsplit]
  exact flatMap_filter_sublist _

/-! ### Steps -/

/-- What a frame answers is settled when it is sent. -/
theorem answers_iff {conn : MuxConn} {k : Nat} {call : OpenCall} {f : InFrame}
    (hwritten : s.conn.written <+: conn.written) (hseen : f.seen ≤ s.conn.written.length) :
    State.Answers { s with conn := conn } k call f ↔ s.Answers k call f := by
  obtain ⟨new, hnew⟩ := hwritten
  unfold State.Answers
  rw [← hnew, List.take_append_of_le_length hseen]

/-- The write side moves. -/
theorem Opening.setConn (h : Opening s) {conn : MuxConn} {closing : List UInt32}
    (hwritten : s.conn.written <+: conn.written)
    (henqueued : ∀ item ∈ conn.frames, item.frameType = .streamOpen →
      ∃ call, s.opens[item.owner]? = some call ∧ call.phase ≠ .drawn) :
    Opening { s with conn := conn, closing := closing } where
  delivery := h.delivery
  peerSeen := le_trans h.peerSeen hwritten.length_le
  seen f hf := le_trans (h.seen f hf) hwritten.length_le
  enqueued := henqueued
  between k call hk hphase f hf hanswers := by
    have hseen := h.seen f (looked_subset_frames s.inbound hf)
    exact h.between k call hk hphase f hf ((answers_iff hwritten hseen).mp hanswers)
  inserted k call ch hk hphase := by
    obtain ⟨c, hc, hid, hown, hunreplaced, hbefore⟩ := h.inserted k call ch hk hphase
    refine ⟨c, hc, hid, hown, hunreplaced, fun f hf hanswers => hbefore f hf ?_⟩
    have hhandled := handled_subset_looked s.inbound (List.mem_of_mem_take hf)
    exact (answers_iff hwritten (h.seen f (looked_subset_frames s.inbound hhandled))).mp hanswers

/-- The receive side moves. -/
theorem Opening.setInbound (h : Opening s) {inbound : Inbound} {first : FirstOpen}
    {closing : List UInt32} (hdelivery : Delivery inbound)
    (hframes : ∀ f ∈ inbound.frames, f.seen ≤ s.conn.written.length)
    (hlooked : ∀ (k : Nat) (call : OpenCall), s.opens[k]? = some call → call.phase = .enqueued →
      ∀ f ∈ inbound.looked, f ∉ s.inbound.looked → f.target ≠ some call.id)
    (hchan : ∀ (ch : Nat) (c : Chan), s.inbound.chans[ch]? = some c →
      ∃ c', inbound.chans[ch]? = some c' ∧ SameChan c c')
    (hreplaced : ∀ (ch : Nat) (c c' : Chan), s.inbound.chans[ch]? = some c →
      inbound.chans[ch]? = some c' → c.own = true → c.replaced = false → c'.replaced = false)
    (htake : ∀ n ≤ s.inbound.handled.length,
      inbound.handled.take n = s.inbound.handled.take n) :
    Opening { s with inbound := inbound, first := first, closing := closing } where
  delivery := hdelivery
  peerSeen := h.peerSeen
  seen := hframes
  enqueued := h.enqueued
  between k call hk hphase f hf hanswers := by
    by_cases hold : f ∈ s.inbound.looked
    · exact h.between k call hk hphase f hold hanswers
    · exact hlooked k call hk hphase f hf hold
  inserted k call ch hk hphase := by
    obtain ⟨c, hc, hid, hown, hunreplaced, hbefore⟩ := h.inserted k call ch hk hphase
    obtain ⟨c', hc', hsame⟩ := hchan ch c hc
    refine ⟨c', hc', hsame.id.trans hid, hsame.own.trans hown,
      hreplaced ch c c' hc hc' hown hunreplaced, fun f hf => hbefore f ?_⟩
    rw [← htake _ (h.delivery.birth ch c hc), ← hsame.birth]
    exact hf

/-- A call moves on. -/
theorem Opening.setOpen (h : Opening s) {k : Nat} {call : OpenCall} {phase : OpenPhase}
    (hk : s.opens[k]? = some call) (hphase : phase ≠ .drawn)
    (hbetween : phase = .enqueued → ∀ f ∈ s.inbound.looked, s.Answers k call f →
      f.target ≠ some call.id)
    (hinserted : ∀ ch, phase = .inserted ch → ∃ c, s.inbound.chans[ch]? = some c ∧
      c.id = call.id ∧ c.own = true ∧ c.replaced = false ∧
      ∀ f ∈ s.inbound.handled.take c.birth, s.Answers k call f → f.target ≠ some call.id) :
    Opening (s.setOpen k { call with phase := phase }) where
  delivery := h.delivery
  peerSeen := h.peerSeen
  seen := h.seen
  enqueued item hitem htype :=
    Tasks.exists_set hk (fun _ _ => hphase) (h.enqueued item hitem htype)
  between j other hj hother := by
    rcases Tasks.of_set hj with ⟨rfl, rfl⟩ | ⟨-, hold⟩
    · exact hbetween hother
    · exact h.between j other hold hother
  inserted j other ch hj hother := by
    rcases Tasks.of_set hj with ⟨rfl, rfl⟩ | ⟨-, hold⟩
    · exact hinserted ch hother
    · exact h.inserted j other ch hold hother

/-- The write task only adds to what is written. -/
theorem written_of_writeStep {conn conn' : MuxConn} {a : WriterStep}
    (h : conn.writeStep a = some conn') : conn.written <+: conn'.written := by
  cases MuxConn.writeMove_of_writeStep h with
  | wrote => exact List.prefix_append _ _
  | _ => exact List.prefix_rfl

theorem written_of_enqueue {conn conn' : MuxConn} {cls : StreamClass} {item : WriteItem}
    (h : conn.enqueue cls item = some conn') : conn.written = conn'.written := by
  obtain ⟨-, ⟨-, rfl⟩ | ⟨-, rfl⟩⟩ := MuxConn.eq_of_enqueue h <;> rfl

/-- An id without an entry of an `open_stream`: an insertion does not touch those. -/
theorem table_of_vacant {id : UInt32} {ch : Nat} {c : Chan} (h : s.vacant id = true)
    (hc : s.inbound.chans[ch]? = some c) (hown : c.own = true) : s.inbound.table id ≠ some ch := by
  intro hin
  rw [State.vacant, hin, Option.all_some, hc, Option.all_some, hown] at h
  cases h

/-- One patient step. -/
theorem Opening.step {a : Step} (h : Opening s) (hpatient : s.Patient a)
    (hstep : s.step a = some t) : Opening t := by
  have hmove := stateMove_of_step hstep
  have hdelivery := delivery_of_move h.delivery hmove
  cases hmove with
  | @inbound b inbound hown hb =>
    refine h.setInbound hdelivery ?_ (fun k call hk hphase f hf hnew => ?_)
      (fun _ _ hc => chan_of_step hb hc) (fun _ _ _ hc hc' hown => ?_)
      fun n hn => take_handled_of_step hb hn
    · rcases frames_of_step hb with heq | ⟨f, rfl, -⟩
      · exact heq.symm ▸ h.seen
      · cases hown
    · rcases looked_of_step hb with heq | ⟨g, heq, hcase⟩
      · exact absurd (heq ▸ hf) hnew
      · rw [heq] at hf
        obtain rfl : f = g := List.mem_singleton.mp ((List.mem_append.mp hf).resolve_left hnew)
        rcases hcase with hignored | ⟨rfl, hreader⟩
        · simp [InFrame.target, hignored]
        · -- the condition: no call for this id is between its two steps
          intro htarget
          have hfalse := hpatient.1 call.id (by rw [State.looksUp, hreader]; exact htarget)
          have htrue : s.opening call.id = true :=
            List.any_eq_true.mpr ⟨call, List.mem_of_getElem? hk, by simp [hphase]⟩
          cases htrue.symm.trans hfalse
    · exact not_replaced_of_step hb
        (fun id hid => table_of_vacant (hpatient.2 id hid) hc hown) hc hc'
  | peerReceive hlt =>
    exact ⟨h.delivery, hlt, h.seen, h.enqueued, h.between, h.inserted⟩
  | peerSend frameType payload =>
    refine h.setInbound hdelivery ?_ (fun _ _ _ _ f hf hnew => absurd hf hnew)
      (fun _ c hc => ⟨c, hc, rfl, rfl, rfl⟩) (fun _ c c' hc hc' _ hold => ?_) fun _ _ => rfl
    rotate_left
    · obtain rfl : c = c' := Option.some.inj (hc.symm.trans hc')
      exact hold
    have happend :=
      Tasks.forall_mem_append (a := ⟨frameType, payload, s.peerSeen⟩) h.seen h.peerSeen
    rw [Inbound.frames, List.append_assoc] at happend
    exact happend
  | firstIgnored => exact ⟨h.delivery, h.peerSeen, h.seen, h.enqueued, h.between, h.inserted⟩
  | @firstInsert payload id cls hfirst hparse =>
    have hvacant : s.vacant id = true := hpatient.2 id (by simp [State.inserts, hfirst, hparse])
    exact h.setInbound hdelivery h.seen (fun _ _ _ _ f hf hnew => absurd hf hnew)
      (fun _ _ hc => chan_insert _ _ hc)
      (fun _ _ _ hc hc' hown => not_replaced_insert hc hc' (table_of_vacant hvacant hc hown))
      fun _ _ => rfl
  | @firstAnnounce ch ok =>
    cases ok with
    | true => exact ⟨h.delivery, h.peerSeen, h.seen, h.enqueued, h.between, h.inserted⟩
    | false =>
      refine h.setInbound hdelivery ?_ (fun _ _ _ _ f hf hnew => ?_)
        (fun _ _ hc => chan_dropReceiver ch hc)
        (fun _ _ _ hc hc' _ => not_replaced_dropReceiver hc hc') fun n _ => ?_
      · exact (frames_dropReceiver s.inbound ch).symm ▸ h.seen
      · exact absurd (looked_dropReceiver s.inbound ch ▸ hf) hnew
      · exact congrArg (List.take n) (handled_dropReceiver s.inbound ch)
  | openStream cls =>
    refine ⟨h.delivery, h.peerSeen, h.seen, fun item hitem htype => ?_,
      fun k call hk hphase => ?_, fun k call ch hk hphase => ?_⟩
    · obtain ⟨call, hcall, hdrawn⟩ := h.enqueued item hitem htype
      exact ⟨call, Tasks.append_of_some hcall, hdrawn⟩
    · rcases Tasks.of_append hk with ⟨-, rfl⟩ | ⟨-, hold⟩
      · cases hphase
      · exact h.between k call hold hphase
    · rcases Tasks.of_append hk with ⟨-, rfl⟩ | ⟨-, hold⟩
      · cases hphase
      · exact h.inserted k call ch hold hphase
  | @openEnqueue k call conn hk hphase hconn =>
    -- nothing answers a `StreamOpen` that was not enqueued
    have hnone : ∀ f, ¬ s.Answers k call f := by
      intro f hanswers
      have hframe : .streamOpen k call.id call.cls ∈ s.conn.frames := by
        simp only [MuxConn.frames, List.append_assoc]
        exact List.mem_append_left _ (List.mem_of_mem_take hanswers)
      obtain ⟨other, hother, hdrawn⟩ := h.enqueued _ hframe rfl
      obtain rfl : call = other := Option.some.inj (hk.symm.trans hother)
      exact hdrawn hphase
    have hopen : Opening (s.setOpen k { call with phase := .enqueued }) :=
      h.setOpen hk (by simp) (fun _ f _ hf => absurd hf (hnone f)) (by simp)
    refine hopen.setConn (written_of_enqueue hconn ▸ List.prefix_rfl) fun item hitem htype => ?_
    rcases MuxConn.mem_frames_enqueue hconn hitem with hold | rfl
    · exact hopen.enqueued item hold htype
    · exact ⟨_, Tasks.set_self hk, by simp⟩
  | openFail hk => exact h.setOpen hk (by simp) (by simp) (by simp)
  | @openInsert k call hk hphase hlock =>
    have hvacant : s.vacant call.id = true := hpatient.2 call.id (by simp [State.inserts, hk])
    have hinbound : Opening (s.setInbound (s.inbound.insert call.id true)) :=
      h.setInbound hdelivery h.seen (fun _ _ _ _ f hf hnew => absurd hf hnew)
        (fun _ _ hc => chan_insert _ _ hc)
        (fun _ _ _ hc hc' hown => not_replaced_insert hc hc' (table_of_vacant hvacant hc hown))
        fun _ _ => rfl
    refine hinbound.setOpen hk (by simp) (by simp) fun ch hch => ?_
    cases hch
    refine ⟨_, chan_inserted s.inbound call.id true, rfl, rfl, rfl, fun f hf => ?_⟩
    have hlooked := handled_subset_looked s.inbound (List.mem_of_mem_take hf)
    exact h.between k call hk hphase f hlooked
  | enqueue hconn =>
    rcases hconn with rfl | ⟨cls, item, htype, hconn⟩
    · exact h.setConn List.prefix_rfl h.enqueued
    · refine h.setConn (written_of_enqueue hconn ▸ List.prefix_rfl) fun other hother hopen => ?_
      rcases MuxConn.mem_frames_enqueue hconn hother with hold | rfl
      · exact h.enqueued other hold hopen
      · exact absurd hopen htype
  | closeRemove =>
    exact h.setInbound hdelivery h.seen (fun _ _ _ _ f hf hnew => absurd hf hnew)
      (fun _ _ hc => chan_detach _ false hc) (fun _ _ _ hc hc' _ => not_replaced_remove hc hc')
      fun _ _ => rfl
  | write hconn =>
    exact h.setConn (written_of_writeStep hconn) fun item hitem htype =>
      h.enqueued item ((MuxConn.writeMove_of_writeStep hconn).mem_frames hitem) htype

end Opening

/-- **Opening a stream loses no answer in a patient run.** -/
theorem answered_of_patient (role : Role) (steps : List Step) (s : State)
    (hpatient : (machine role).Along State.Patient (machine role).init steps)
    (hrun : (machine role).run (machine role).init steps = some s) : s.Answered :=
  ((machine role).along_invariant (fun _ _ _ h hP hstep => Opening.step h hP hstep)
    (opening_init role) hpatient hrun).answered

/-- The peer answers when the entry is there. -/
def patientSteps : List Step :=
  [.openStream .control, .openEnqueue 0, .write .drain, .write (.wrote true), .peerReceive,
    .peerSend .streamData [0, 0, 0, 1, 7], .inbound .read, .openInsert 0, .inbound .lock,
    .inbound .deliver]

theorem answered_patientSteps :
    ∃ s, (machine .initiator).run (machine .initiator).init patientSteps = some s ∧ s.Answered := by
  obtain ⟨s, hrun, -⟩ :=
    (machine .initiator).exists_run patientSteps (fun _ => True) (by decide)
  exact ⟨s, hrun, answered_of_patient .initiator patientSteps s (by decide) hrun⟩

/-- The peer answers before the entry is there. -/
def fastAnswerSteps : List Step :=
  [.openStream .control, .openEnqueue 0, .write .drain, .write (.wrote true), .peerReceive,
    .peerSend .streamData [0, 0, 0, 1, 7], .inbound .read, .inbound .lock, .openInsert 0]

/-- The answer is lost. -/
theorem fastAnswer_not_answered :
    ∃ s, (machine .initiator).run (machine .initiator).init fastAnswerSteps = some s ∧
      s.opens = [{ id := 1, cls := .control, phase := .inserted 0 }] ∧
      s.inbound.handled = [⟨.streamData, [0, 0, 0, 1, 7], 1⟩] ∧
      s.conn.written = [.streamOpen 0 1 .control] ∧
      s.inbound.chans = [{ id := 1, own := true, birth := 1 }] ∧ ¬ s.Answered := by
  obtain ⟨s, hrun, hopens, hhandled, hwritten, hchans⟩ :=
    (machine .initiator).exists_run fastAnswerSteps
    (fun s => s.opens = [{ id := 1, cls := .control, phase := .inserted 0 }] ∧
      s.inbound.handled = [⟨.streamData, [0, 0, 0, 1, 7], 1⟩] ∧
      s.conn.written = [.streamOpen 0 1 .control] ∧
      s.inbound.chans = [{ id := 1, own := true, birth := 1 }]) (by decide)
  refine ⟨s, hrun, hopens, hhandled, hwritten, hchans, fun h => ?_⟩
  have hsub := h 0 { id := 1, cls := .control, phase := .inserted 0 } (by rw [hopens]; rfl) 0 rfl
    { id := 1, own := true, birth := 1 } (by rw [hchans]; rfl) rfl rfl (by rw [hhandled]; rfl)
  have hanswers : ∀ f, s.Answers 0 { id := 1, cls := .control, phase := .inserted 0 } f ↔
      .streamOpen 0 1 .control ∈ [WriteItem.streamOpen 0 1 .control].take f.seen := by
    intro f
    rw [State.Answers, hwritten]
  rw [hhandled] at hsub
  simp only [hanswers] at hsub
  exact absurd hsub (by decide)

/-- The peer opens a stream of its own under the id of one that is open. -/
def reopenedSteps : List Step :=
  [.openStream .control, .openEnqueue 0, .write .drain, .write (.wrote true), .peerReceive,
    .openInsert 0, .peerSend .streamOpen [0, 0, 0, 1, 1], .peerSend .streamData [0, 0, 0, 1, 7],
    .inbound .read, .inbound .lock, .inbound (.announce true), .inbound .read, .inbound .lock,
    .inbound .deliver]

/-- Nobody has closed the stream, and its data goes to the receiver of the other one. -/
theorem reopened_unanswered :
    ∃ s, (machine .initiator).run (machine .initiator).init reopenedSteps = some s ∧
      s.opens = [{ id := 1, cls := .control, phase := .inserted 0 }] ∧
      s.inbound.chans = [{ id := 1, detached := true, replaced := true, own := true, birth := 0 },
        { id := 1, sent := [[7]], own := false, birth := 0 }] :=
  (machine .initiator).exists_run reopenedSteps _ (by decide)

end Roboat.Daemon.Demux
