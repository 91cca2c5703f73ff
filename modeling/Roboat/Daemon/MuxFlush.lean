import Mathlib.Data.List.Perm.Basic
import Roboat.Transition.Machine
import Roboat.Daemon.Mux

/-! # Dropping a multiplexed connection

When the last reference to a `MuxConn` is dropped, the senders of its two queues go, the control
queue first. `mux_write_task` is then to write what is left in the queues; but its `select!` returns
as soon as the control queue is at its end, without a look at the bulk queue. And between its two
polls the bulk queue may come to its end before the control queue is looked at again.

The machine is the write task of `Mux` with the two ends; while the senders are there it does what
`writeStep` does. `flush_iff` says in which states the connection may be dropped without losing a
frame. -/

open scoped List

namespace Roboat.Daemon.Flush

/-- A connection, and whether its senders are still there. -/
structure State where
  conn : MuxConn
  ctrlOpen : Bool
  bulkOpen : Bool
  deriving DecidableEq, Repr

inductive Step where
  /-- `open_stream`, `send` or `close_stream` enqueue a frame. -/
  | enqueue (cls : StreamClass) (item : WriteItem)
  /-- The last reference is dropped: `ctrl_tx` goes. -/
  | drop
  /-- `bulk_tx` goes. -/
  | dropBulk
  | writer (step : WriterStep)
  deriving DecidableEq, Repr

/-- The write task has come to the end of a queue: `recv` returns `None`. -/
def State.atEnd (s : State) : WriterStep → Bool
  | .pollCtrl => s.conn.writer == .selecting && s.conn.ctrl.isEmpty && !s.ctrlOpen
  | .pollBulk => s.conn.writer == .ctrlPolled && s.conn.bulk.isEmpty && !s.bulkOpen
  | _ => false

def State.step (s : State) : Step → Option State
  | .enqueue cls item =>
    if s.ctrlOpen then (s.conn.enqueue cls item).map fun conn => { s with conn := conn } else none
  | .drop => if s.ctrlOpen then some { s with ctrlOpen := false } else none
  | .dropBulk =>
    if s.ctrlOpen = false ∧ s.bulkOpen = true then some { s with bulkOpen := false } else none
  | .writer step =>
    if s.atEnd step then some { s with conn := { s.conn with writer := .returned } }
    else (s.conn.writeStep step).map fun conn => { s with conn := conn }

/-- **A connection until its write task returns**; the first stream id is 1 on the dialing side and
2 on the accepting one. -/
def machine (nextStreamId : UInt32) : Machine State Step where
  init := { conn := ⟨nextStreamId, [], [], .draining, []⟩, ctrlOpen := true, bulkOpen := true }
  step := State.step

/-- No write fails. -/
def NoFail (steps : List Step) : Prop := ∀ step ∈ steps, step ≠ .writer (.wrote false)

instance (steps : List Step) : Decidable (NoFail steps) :=
  inferInstanceAs (Decidable (∀ step ∈ steps, step ≠ .writer (.wrote false)))

/-- The frames that were enqueued. -/
def enqueued (steps : List Step) : List WriteItem :=
  steps.filterMap fun
    | .enqueue _ item => some item
    | _ => none

/-- **The connection may be dropped**: the bulk queue is empty. Between the two polls of the
`select!` it may also hold one frame; if it holds none, the control queue must be empty too. -/
def MayDrop (conn : MuxConn) : Prop :=
  if conn.writer = .ctrlPolled then (conn.bulk = [] ∧ conn.ctrl = []) ∨ conn.bulk.length = 1
  else conn.bulk = []

instance (conn : MuxConn) : Decidable (MayDrop conn) :=
  inferInstanceAs (Decidable (if conn.writer = .ctrlPolled then
    (conn.bulk = [] ∧ conn.ctrl = []) ∨ conn.bulk.length = 1 else conn.bulk = []))

section Moves

variable {s t : State}

/-- **What a step can do.** -/
inductive Move (s : State) : Step → State → Prop
  | enqueue {cls : StreamClass} {item : WriteItem} {conn : MuxConn} (hopen : s.ctrlOpen = true)
      (h : s.conn.enqueue cls item = some conn) :
      Move s (.enqueue cls item) { s with conn := conn }
  | drop (hopen : s.ctrlOpen = true) : Move s .drop { s with ctrlOpen := false }
  | dropBulk (hclosed : s.ctrlOpen = false) : Move s .dropBulk { s with bulkOpen := false }
  | endCtrl (hphase : s.conn.writer = .selecting) (hctrl : s.conn.ctrl = [])
      (hclosed : s.ctrlOpen = false) :
      Move s (.writer .pollCtrl) { s with conn := { s.conn with writer := .returned } }
  | endBulk (hphase : s.conn.writer = .ctrlPolled) (hbulk : s.conn.bulk = [])
      (hclosed : s.bulkOpen = false) :
      Move s (.writer .pollBulk) { s with conn := { s.conn with writer := .returned } }
  | write {step : WriterStep} {conn : MuxConn} (hend : s.atEnd step = false)
      (h : s.conn.writeStep step = some conn) : Move s (.writer step) { s with conn := conn }

/-- Every step is one of the moves. -/
theorem move_of_step {step : Step} (h : s.step step = some t) : Move s step t := by
  cases step with
  | enqueue cls item =>
    simp only [State.step] at h
    split_ifs at h with hopen
    obtain ⟨conn, hconn, rfl⟩ := Option.map_eq_some_iff.mp h
    exact .enqueue hopen hconn
  | drop =>
    simp only [State.step] at h
    split_ifs at h with hopen
    rw [← Option.some.inj h]
    exact .drop hopen
  | dropBulk =>
    simp only [State.step] at h
    split_ifs at h with hopen
    rw [← Option.some.inj h]
    exact .dropBulk hopen.1
  | writer step =>
    simp only [State.step] at h
    split_ifs at h with hend
    · rw [← Option.some.inj h]
      cases step with
      | pollCtrl =>
        simp only [State.atEnd, Bool.and_eq_true, beq_iff_eq, List.isEmpty_iff,
          Bool.not_eq_true'] at hend
        exact .endCtrl hend.1.1 hend.1.2 hend.2
      | pollBulk =>
        simp only [State.atEnd, Bool.and_eq_true, beq_iff_eq, List.isEmpty_iff,
          Bool.not_eq_true'] at hend
        exact .endBulk hend.1.1 hend.1.2 hend.2
      | _ => cases hend
    · obtain ⟨conn, hconn, rfl⟩ := Option.map_eq_some_iff.mp h
      exact .write (Bool.of_not_eq_true hend) hconn

end Moves

/-! ## Where the frames are -/

section Frames

variable {conn conn' : MuxConn}

/-- Enqueueing adds one frame to those the connection holds. -/
theorem frames_enqueue_perm {cls : StreamClass} {item : WriteItem}
    (h : conn.enqueue cls item = some conn') : conn'.frames ~ conn.frames ++ [item] := by
  obtain ⟨-, ⟨-, rfl⟩ | ⟨-, rfl⟩⟩ := MuxConn.eq_of_enqueue h
  · simp only [MuxConn.frames, MuxConn.inFlight, List.append_assoc]
    exact (List.perm_append_comm.append_left _).append_left _ |>.append_left _
  · simp only [MuxConn.frames, MuxConn.inFlight, List.append_assoc]
    exact List.Perm.refl _

/-- The write task loses no frame while no write fails. -/
theorem frames_perm_of_writeStep {step : WriterStep} (h : conn.writeStep step = some conn')
    (hok : step ≠ .wrote false) : conn'.frames ~ conn.frames := by
  cases MuxConn.writeMove_of_writeStep h with
  | turn phase hold hnew =>
    rw [MuxConn.frames_of_inFlight hold, MuxConn.frames_of_inFlight hnew]
  | takeCtrl hold hqueue =>
    rw [MuxConn.frames_of_inFlight hold, hqueue]
    simp only [MuxConn.frames, MuxConn.inFlight, List.append_assoc]
    exact List.Perm.refl _
  | takeBulk hold hqueue =>
    -- the frame overtakes the control queue
    rw [MuxConn.frames_of_inFlight hold, hqueue]
    simp only [MuxConn.frames, MuxConn.inFlight, List.append_assoc, List.singleton_append]
    exact List.Perm.append_left _ List.perm_middle.symm
  | wrote hold =>
    simp only [MuxConn.frames, MuxConn.inFlight, hold, List.append_nil]
    exact List.Perm.refl _
  | fail hold => exact absurd (MuxConn.wrote_of_returned h rfl) hok

end Frames

theorem enqueued_append (steps : List Step) (step : Step) :
    enqueued (steps ++ [step]) = enqueued steps ++ enqueued [step] := List.filterMap_append

/-- **No frame is lost while no write fails**: it is written, in hand or queued. The write task does
not return before the connection is dropped. -/
structure Kept (steps : List Step) (s : State) : Prop where
  frames : s.conn.frames ~ enqueued steps
  bulkOpen : s.ctrlOpen = true → s.bulkOpen = true
  alive : s.ctrlOpen = true → s.conn.writer ≠ .returned

section Kept

variable {steps : List Step} {s t : State} {step : Step}

theorem frames_of_returned {conn : MuxConn} (h : conn.writer = .returned) :
    conn.frames = conn.written ++ (conn.ctrl ++ conn.bulk) := by
  rw [MuxConn.frames_of_inFlight (by rw [MuxConn.inFlight, h]), List.append_assoc]

theorem frames_returned {conn : MuxConn} (h : conn.inFlight = []) :
    MuxConn.frames { conn with writer := .returned } ~ conn.frames := by
  rw [MuxConn.frames_of_inFlight h, MuxConn.frames_of_inFlight rfl]

/-- **A step adds to the frames what it enqueues**, as long as no write fails. -/
theorem frames_step (hok : step ≠ .writer (.wrote false)) (ht : s.step step = some t) :
    t.conn.frames ~ s.conn.frames ++ enqueued [step] := by
  have hsilent : ∀ {conn : MuxConn}, conn.frames ~ s.conn.frames →
      conn.frames ~ s.conn.frames ++ [] :=
    fun h => (List.append_nil s.conn.frames).symm ▸ h
  cases move_of_step ht with
  | enqueue hopen henqueue => exact frames_enqueue_perm henqueue
  | drop | dropBulk => exact hsilent (.refl _)
  | endCtrl hphase | endBulk hphase =>
    exact hsilent (frames_returned (by rw [MuxConn.inFlight, hphase]))
  | write hend hwrite =>
    exact hsilent (frames_perm_of_writeStep hwrite fun heq => hok (heq ▸ rfl))

/-- A step whose write does not fail loses no frame. -/
theorem kept_step (h : Kept steps s) (hok : step ≠ .writer (.wrote false))
    (ht : s.step step = some t) : Kept (steps ++ [step]) t := by
  have hframes : t.conn.frames ~ enqueued (steps ++ [step]) := by
    rw [enqueued_append]
    exact (frames_step hok ht).trans (h.frames.append_right _)
  cases move_of_step ht with
  | enqueue hopen henqueue =>
    refine ⟨hframes, h.bulkOpen, fun _ => ?_⟩
    obtain ⟨halive, ⟨-, rfl⟩ | ⟨-, rfl⟩⟩ := MuxConn.eq_of_enqueue henqueue <;> exact halive
  | drop => exact ⟨hframes, nofun, nofun⟩
  | dropBulk hclosed =>
    exact ⟨hframes, fun hopen => absurd (hclosed.symm.trans hopen) Bool.false_ne_true, h.alive⟩
  | endCtrl hphase hctrl hclosed =>
    refine ⟨hframes, h.bulkOpen, fun hopen => ?_⟩
    exact absurd (hclosed.symm.trans hopen) Bool.false_ne_true
  | endBulk hphase hbulk hclosed =>
    refine ⟨hframes, h.bulkOpen, fun hopen => ?_⟩
    exact absurd (hclosed.symm.trans (h.bulkOpen hopen)) Bool.false_ne_true
  | write hend hwrite =>
    refine ⟨hframes, h.bulkOpen, fun _ hreturned => hok ?_⟩
    rw [MuxConn.wrote_of_returned hwrite hreturned]

/-- A run without a failed write loses no frame. -/
theorem kept_of_run (nextStreamId : UInt32)
    (hrun : (machine nextStreamId).run (machine nextStreamId).init steps = some s)
    (hok : NoFail steps) : Kept steps s := by
  refine (machine nextStreamId).run_history (I := fun steps s => NoFail steps → Kept steps s)
    (fun _ => ⟨.refl _, fun _ => rfl, fun _ => nofun⟩) ?_ hrun hok
  intro steps s step t h ht hok
  have hlast : step ≠ .writer (.wrote false) := hok step (by simp)
  exact kept_step (h fun x hx => hok x (List.mem_append_left _ hx)) hlast ht

/-- Once the connection is dropped, its frames are those it has. -/
theorem frames_closed (nextStreamId : UInt32) (hclosed : s.ctrlOpen = false)
    (hrun : (machine nextStreamId).run s steps = some t) (hok : NoFail steps) :
    t.conn.frames ~ s.conn.frames := by
  refine ((machine nextStreamId).along_invariant
    (P := fun _ step => step ≠ .writer (.wrote false))
    (I := fun u : State => u.ctrlOpen = false ∧ u.conn.frames ~ s.conn.frames) ?_
    ⟨hclosed, .refl _⟩ ((machine nextStreamId).along_of_forall hok s) hrun).2
  rintro u step v ⟨hclosed, hframes⟩ hok hv
  have hstep := frames_step hok hv
  cases move_of_step hv with
  | enqueue hopen | drop hopen => exact absurd (hclosed.symm.trans hopen) Bool.false_ne_true
  | _ =>
    have hsame : _ ~ u.conn.frames ++ [] := hstep
    rw [List.append_nil] at hsame
    exact ⟨hclosed, hsame.trans hframes⟩

end Kept

/-! ## Dropping when nothing is lost -/

section Safe

variable {s t : State} {step : Step}

/-- The connection has been dropped, and nothing will be lost. -/
def Safe (s : State) : Prop :=
  s.ctrlOpen = false ∧
    if s.conn.writer = .returned then s.conn.ctrl = [] ∧ s.conn.bulk = [] else MayDrop s.conn

theorem bulk_of_mayDrop {conn : MuxConn} {phase : WriterPhase} (h : MayDrop conn)
    (hphase : conn.writer = phase) (hne : phase ≠ .ctrlPolled) : conn.bulk = [] := by
  unfold MayDrop at h
  rwa [hphase, if_neg hne] at h

/-- The write task goes on, and the bulk queue is empty from then on. -/
theorem bulk_of_writeStep {conn conn' : MuxConn} {own : WriterStep} (h : MayDrop conn)
    (hctrl : own = .pollCtrl → conn.ctrl ≠ []) (hok : own ≠ .wrote false)
    (hwrite : conn.writeStep own = some conn') :
    conn'.bulk = [] ∧ conn'.writer ≠ .ctrlPolled := by
  cases own with
  | drain =>
    simp only [MuxConn.writeStep] at hwrite
    split_ifs at hwrite with hphase
    have hbulk := bulk_of_mayDrop h hphase (by simp)
    split at hwrite <;> rw [← Option.some.inj hwrite] <;> exact ⟨hbulk, by simp⟩
  | pollCtrl =>
    simp only [MuxConn.writeStep] at hwrite
    split_ifs at hwrite with hphase
    have hbulk := bulk_of_mayDrop h hphase (by simp)
    split at hwrite
    · next hempty => exact absurd hempty (hctrl rfl)
    · rw [← Option.some.inj hwrite]
      exact ⟨hbulk, by simp⟩
  | pollBulk =>
    simp only [MuxConn.writeStep] at hwrite
    split_ifs at hwrite with hphase
    unfold MayDrop at h
    rw [if_pos hphase] at h
    split at hwrite
    · next hempty =>
      rw [← Option.some.inj hwrite]
      exact ⟨hempty, by simp⟩
    · next item rest hbulk =>
      -- the one frame of the bulk queue
      rw [← Option.some.inj hwrite]
      rcases h with ⟨hempty, -⟩ | hone
      · rw [hempty] at hbulk
        cases hbulk
      · rw [hbulk, List.length_cons] at hone
        exact ⟨List.eq_nil_of_length_eq_zero (Nat.succ.inj hone), by simp⟩
  | wake =>
    simp only [MuxConn.writeStep] at hwrite
    split_ifs at hwrite with hphase
    have hbulk := bulk_of_mayDrop h hphase (by simp)
    rw [← Option.some.inj hwrite]
    exact ⟨hbulk, by simp⟩
  | wrote ok =>
    cases ok with
    | false => exact absurd rfl hok
    | true =>
      simp only [MuxConn.writeStep] at hwrite
      split at hwrite
      · next item hphase =>
        have hbulk := bulk_of_mayDrop h hphase (by simp)
        rw [← Option.some.inj hwrite]
        exact ⟨hbulk, by simp⟩
      · cases hwrite

/-- **Every step keeps it so.** -/
theorem safe_step (h : Safe s) (hok : step ≠ .writer (.wrote false)) (ht : s.step step = some t) :
    Safe t := by
  obtain ⟨hclosed, hsafe⟩ := h
  cases move_of_step ht with
  | enqueue hopen | drop hopen => exact absurd (hclosed.symm.trans hopen) Bool.false_ne_true
  | dropBulk => exact ⟨hclosed, hsafe⟩
  | endCtrl hphase hctrl =>
    rw [hphase, if_neg nofun] at hsafe
    have hbulk := bulk_of_mayDrop hsafe hphase nofun
    exact ⟨hclosed, hctrl, hbulk⟩
  | endBulk hphase hbulk =>
    rw [hphase, if_neg nofun] at hsafe
    unfold MayDrop at hsafe
    rw [if_pos hphase, hbulk] at hsafe
    rcases hsafe with ⟨-, hctrl⟩ | hone
    · exact ⟨hclosed, hctrl, hbulk⟩
    · cases hone
  | @write own conn hend hwrite =>
    rw [if_neg (MuxConn.not_returned_of_writeStep hwrite)] at hsafe
    have hown : own ≠ .wrote false := fun heq => hok (heq ▸ rfl)
    -- the end of the control queue is a step of its own
    have hctrl : own = .pollCtrl → s.conn.ctrl ≠ [] := by
      rintro rfl hempty
      have hphase : s.conn.writer = .selecting := by
        simp only [MuxConn.writeStep] at hwrite
        split_ifs at hwrite with hphase
        exact hphase
      simp [State.atEnd, hphase, hempty, hclosed] at hend
    obtain ⟨hbulk, hpolled⟩ := bulk_of_writeStep hsafe hctrl hown hwrite
    refine ⟨hclosed, ?_⟩
    rw [if_neg fun hreturned => hown (MuxConn.wrote_of_returned hwrite hreturned)]
    unfold MayDrop
    rw [if_neg hpolled]
    exact hbulk

end Safe

/-! ## Dropping when something is lost -/

section Loses

variable {nextStreamId : UInt32} {s t : State}

/-- **A frame can be lost**: the write task may return, without a failed write, while a queue holds
a frame. -/
def Loses (nextStreamId : UInt32) (s : State) : Prop :=
  ∃ (steps : List Step) (t : State), (machine nextStreamId).run s steps = some t ∧ NoFail steps ∧
    t.conn.writer = .returned ∧ t.conn.ctrl ++ t.conn.bulk ≠ []

/-- What can be lost later can be lost now. -/
theorem loses_of_step (step : Step) (ht : s.step step = some t)
    (hok : step ≠ .writer (.wrote false))
    (h : Loses nextStreamId t) : Loses nextStreamId s := by
  obtain ⟨steps, u, hrun, hnofail, hlost⟩ := h
  exact ⟨step :: steps, u, (machine nextStreamId).run_cons.mpr ⟨t, ht, hrun⟩,
    List.forall_mem_cons.mpr ⟨hok, hnofail⟩, hlost⟩

/-- A write task that drains the control queue returns at its end. -/
theorem loses_draining (hclosed : s.ctrlOpen = false) (hphase : s.conn.writer = .draining)
    (hbulk : s.conn.bulk ≠ []) : Loses nextStreamId s := by
  obtain ⟨⟨next, ctrl, bulk, writer, written⟩, ctrlOpen, bulkOpen⟩ := s
  obtain rfl : writer = .draining := hphase
  obtain rfl : ctrlOpen = false := hclosed
  induction ctrl generalizing written with
  | nil =>
    refine ⟨[.writer .drain, .writer .pollCtrl], _, rfl, by decide, rfl, ?_⟩
    exact hbulk
  | cons item rest ih =>
    exact loses_of_step (.writer .drain) rfl nofun
      (loses_of_step (.writer (.wrote true)) rfl nofun (ih (written ++ [item]) hbulk))

/-- So does one that is about to poll the control queue. -/
theorem loses_selecting (hclosed : s.ctrlOpen = false) (hphase : s.conn.writer = .selecting)
    (hbulk : s.conn.bulk ≠ []) : Loses nextStreamId s := by
  obtain ⟨⟨next, ctrl, bulk, writer, written⟩, ctrlOpen, bulkOpen⟩ := s
  obtain rfl : writer = .selecting := hphase
  obtain rfl : ctrlOpen = false := hclosed
  cases ctrl with
  | nil => exact ⟨[.writer .pollCtrl], _, rfl, by decide, rfl, hbulk⟩
  | cons item rest =>
    exact loses_of_step (.writer .pollCtrl) rfl nofun
      (loses_of_step (.writer (.wrote true)) rfl nofun (loses_draining rfl rfl hbulk))

/-- **Where a frame can be lost, once the connection is dropped.** -/
theorem loses_of_not_mayDrop (hclosed : s.ctrlOpen = false) (hopen : s.bulkOpen = true)
    (halive : s.conn.writer ≠ .returned) (hnot : ¬ MayDrop s.conn) : Loses nextStreamId s := by
  obtain ⟨⟨next, ctrl, bulk, writer, written⟩, ctrlOpen, bulkOpen⟩ := s
  obtain rfl : ctrlOpen = false := hclosed
  obtain rfl : bulkOpen = true := hopen
  cases writer with
  | draining => exact loses_draining rfl rfl hnot
  | selecting => exact loses_selecting rfl rfl hnot
  | waiting => exact loses_of_step (.writer .wake) rfl nofun (loses_selecting rfl rfl hnot)
  | writing item =>
    exact loses_of_step (.writer (.wrote true)) rfl nofun (loses_draining rfl rfl hnot)
  | ctrlPolled =>
    have hnot' : ¬ ((bulk = [] ∧ ctrl = []) ∨ bulk.length = 1) := hnot
    rw [not_or, not_and] at hnot'
    cases bulk with
    | nil =>
      -- the bulk queue ends before the control queue is polled again
      refine ⟨[.dropBulk, .writer .pollBulk], _, rfl, by decide, rfl, ?_⟩
      rw [List.append_nil]
      exact hnot'.1 rfl
    | cons item rest =>
      have hrest : rest ≠ [] := fun hnil => hnot'.2 (by rw [hnil]; rfl)
      exact loses_of_step (.writer .pollBulk) rfl nofun
        (loses_of_step (.writer (.wrote true)) rfl nofun (loses_draining rfl rfl hrest))
  | returned => exact absurd rfl halive

end Loses

/-- **When dropping a connection flushes it.** In every state that enqueues and the write task can
reach without a failed write: whatever the write task does after the last reference is dropped, if
no write fails it has written every frame that was enqueued when it returns, exactly when the
connection may be dropped. -/
theorem flush_iff (nextStreamId : UInt32) (steps : List Step) (s : State)
    (hrun : (machine nextStreamId).run (machine nextStreamId).init steps = some s)
    (hopen : s.ctrlOpen = true) (hok : NoFail steps) :
    (∀ more t, (machine nextStreamId).run s (.drop :: more) = some t → NoFail more →
        t.conn.writer = .returned → t.conn.written ~ enqueued steps) ↔
      MayDrop s.conn := by
  have hkept := kept_of_run nextStreamId hrun hok
  have hdrop : s.step .drop = some { s with ctrlOpen := false } := if_pos hopen
  constructor
  · intro hflush
    by_contra hnot
    have hloses : Loses nextStreamId { s with ctrlOpen := false } :=
      loses_of_not_mayDrop rfl (hkept.bulkOpen hopen) (hkept.alive hopen) hnot
    obtain ⟨more, t, hmore, hnofail, hreturned, hlost⟩ := hloses
    have hwritten := hflush more t ((machine nextStreamId).run_cons.mpr ⟨_, hdrop, hmore⟩) hnofail
      hreturned
    -- as many frames were written as there are, and one is left
    have hframes := (frames_closed nextStreamId rfl hmore hnofail).trans hkept.frames
    rw [frames_of_returned hreturned] at hframes
    have hlength := (hframes.trans hwritten.symm).length_eq
    rw [List.length_append] at hlength
    exact hlost (List.eq_nil_of_length_eq_zero (by omega))
  · intro hmay more t hmore hnofail hreturned
    obtain ⟨u, hu, hrest⟩ := (machine nextStreamId).run_cons.mp hmore
    obtain rfl := Option.some.inj (hdrop.symm.trans hu)
    have hsafe : Safe { s with ctrlOpen := false } :=
      ⟨rfl, by rw [if_neg (hkept.alive hopen)]; exact hmay⟩
    obtain ⟨-, hend⟩ := (machine nextStreamId).along_invariant
      (P := fun _ step => step ≠ .writer (.wrote false))
      (fun _ _ _ h hok ht => safe_step h hok ht) hsafe
      ((machine nextStreamId).along_of_forall hnofail _) hrest
    rw [if_pos hreturned] at hend
    have hframes := (frames_closed nextStreamId rfl hrest hnofail).trans hkept.frames
    rw [frames_of_returned hreturned, hend.1, hend.2] at hframes
    exact (List.append_nil t.conn.written).symm ▸ hframes

/-- A control stream is opened and sends; the write task has written the first of the two frames. -/
def controlSteps : List Step :=
  [.enqueue .control (.streamOpen 0 1 .control), .enqueue .control (.streamData 0 1 [7]),
    .writer .drain, .writer (.wrote true)]

/-- A connection without bulk frames may be dropped. -/
theorem flush_control :
    ∃ s, (machine 1).run (machine 1).init controlSteps = some s ∧
      ∀ more t, (machine 1).run s (.drop :: more) = some t → NoFail more →
        t.conn.writer = .returned → t.conn.written ~ enqueued controlSteps :=
  ⟨_, rfl, (flush_iff 1 controlSteps _ rfl rfl (by decide)).mpr (by decide)⟩

/-- **Bulk frames are lost.** The frames of a bulk stream are enqueued, its last one among them, and
the connection is dropped: the write task finds the control queue at its end and returns. No frame
was written, and no write has failed. -/
theorem drop_loses_bulk :
    ∃ t, (machine 1).run (machine 1).init
        [.enqueue .bulk (.streamOpen 0 1 .bulk), .enqueue .bulk (.streamData 0 1 [7]),
          .enqueue .bulk (.streamClose 0 1), .drop, .dropBulk, .writer .drain,
          .writer .pollCtrl] = some t ∧
      t.conn.writer = .returned ∧ t.conn.written = [] ∧ t.conn.bulk.length = 3 :=
  ⟨_, rfl, rfl, rfl, rfl⟩

end Roboat.Daemon.Flush
