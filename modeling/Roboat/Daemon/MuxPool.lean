import Roboat.Daemon.MuxOpen

/-! # The pool of multiplexed connections

`dial_mux` keeps one connection for each address. Under the lock of the pool it takes the
connection it finds, or makes one, and then opens a stream on it. Nothing ever takes a connection
out of the pool, and the two tasks of a connection do not know the pool: a connection that has
failed once is handed to every later dial to its address. -/

namespace Roboat.Daemon.Pool

/-- How `dial_mux` fails. -/
inductive DialError where
  /-- `create_mux_conn` failed: the remote is not reachable, or the authentication failed. -/
  | connect
  /-- `DaemonError::SendFailed`: `open_stream` failed. -/
  | sendFailed
  deriving DecidableEq, Repr

/-- Where a call of `dial_mux` stands. -/
inductive DialPhase where
  /-- It waits for the lock of the pool. -/
  | waiting
  /-- In `create_mux_conn`, with the lock. -/
  | connecting
  /-- It has connection `c`, before `open_stream`. -/
  | holding (c : Nat)
  /-- In `open_stream`, which is call `k` of connection `c`. -/
  | opening (c k : Nat)
  /-- It has returned the stream. `live` says whether both tasks of the connection were running
  then. -/
  | handedOut (c k : Nat) (live : Bool)
  | failed (e : DialError)
  deriving DecidableEq, Repr

structure Dial where
  addr : Str
  cls : StreamClass
  phase : DialPhase := .waiting
  deriving DecidableEq, Repr

/-- The pool, all connections made so far, and the dials; `locked` is the lock of the pool. -/
structure State where
  muxPool : Str → Option Nat
  conns : List Demux.State
  locked : Bool
  dials : List Dial

inductive Step where
  | dial (addr : Str) (cls : StreamClass)
  /-- The dial gets the lock and looks the address up. -/
  | lookup (i : Nat)
  /-- `create_mux_conn` ends. -/
  | connect (i : Nat) (ok : Bool)
  | openStream (i : Nat)
  /-- `open_stream` has ended, and the dial with it. -/
  | finish (i : Nat)
  /-- A step of connection `c`. -/
  | conn (c : Nat) (a : Demux.Step)
  deriving DecidableEq, Repr

/-- Both tasks of a connection are running. -/
def live (conn : Demux.State) : Bool :=
  conn.conn.writer != .returned && conn.inbound.reader != .terminated

namespace State

def setDial (s : State) (i : Nat) (dial : Dial) : State := { s with dials := s.dials.set i dial }

/-- The address is looked up: a connection that is there is taken as it is. -/
def lookup (s : State) (i : Nat) (dial : Dial) : State :=
  match s.muxPool dial.addr with
  -- whether its tasks are running is not asked
  | some c => s.setDial i { dial with phase := .holding c }
  -- the lock is kept while connecting, so that two dials to one address make one connection
  | none => { s with locked := true }.setDial i { dial with phase := .connecting }

/-- `create_mux_conn`, and the pool keeps the connection. -/
def connect (s : State) (i : Nat) (dial : Dial) (ok : Bool) : State :=
  if ok then
    { s with
      muxPool := Function.update s.muxPool dial.addr (some s.conns.length)
      conns := s.conns ++ [(Demux.machine .initiator).init]
      locked := false }.setDial i { dial with phase := .holding s.conns.length }
  else { s with locked := false }.setDial i { dial with phase := .failed .connect }

def openStream (s : State) (i : Nat) (dial : Dial) (c : Nat) : Option State :=
  s.conns[c]?.bind fun conn => (conn.step (.openStream dial.cls)).map fun conn' =>
    { s with conns := s.conns.set c conn' }.setDial i
      { dial with phase := .opening c conn.opens.length }

/-- The result of `open_stream`. -/
def finish (s : State) (i : Nat) (dial : Dial) (c k : Nat) : Option State :=
  s.conns[c]?.bind fun conn => conn.opens[k]?.bind fun call =>
    match call.phase with
    | .inserted _ => some (s.setDial i { dial with phase := .handedOut c k (live conn) })
    -- the connection stays in the pool
    | .failed => some (s.setDial i { dial with phase := .failed .sendFailed })
    | _ => none

def step (s : State) : Step → Option State
  | .dial addr cls => some { s with dials := s.dials ++ [{ addr := addr, cls := cls }] }
  | .lookup i => s.dials[i]?.bind fun dial =>
    if dial.phase = .waiting ∧ s.locked = false then some (s.lookup i dial) else none
  | .connect i ok => s.dials[i]?.bind fun dial =>
    if dial.phase = .connecting then some (s.connect i dial ok) else none
  | .openStream i => s.dials[i]?.bind fun dial =>
    match dial.phase with
    | .holding c => s.openStream i dial c
    | _ => none
  | .finish i => s.dials[i]?.bind fun dial =>
    match dial.phase with
    | .opening c k => s.finish i dial c k
    | _ => none
  | .conn c a => s.conns[c]?.bind fun conn => (conn.step a).map fun conn' =>
    { s with conns := s.conns.set c conn' }

end State

/-- **The pool with its dials and connections**, from an empty pool. -/
def machine : Machine State Step where
  init := ⟨fun _ => none, [], false, []⟩
  step := State.step

/-! ## Recovery -/

/-- The dial is between taking connection `c` and its return. -/
def DialPhase.uses (phase : DialPhase) (c : Nat) : Bool :=
  match phase with
  | holding c' => c' == c
  | opening c' _ => c' == c
  | _ => false

/-- A dial ended well: with a stream on a connection whose tasks were running, or because no
connection could be made. -/
def DialPhase.isGood : DialPhase → Bool
  | handedOut _ _ live => live
  | failed e => e == .connect
  | _ => true

/-- **The pool recovers**: no dial has returned a stream on a dead connection, and none has failed
because of one. -/
def State.Recovers (s : State) : Prop := ∀ dial ∈ s.dials, dial.phase.isGood = true

/-- The steps that end a task of a connection. -/
def ends : Demux.Step → Bool
  | .inbound .fail => true
  | .write (.wrote false) => true
  | _ => false

/-- **The condition**: a dial finds no dead connection in the pool, and no task of a connection ends
while a dial is between taking it and its return. -/
def State.Sound (s : State) : Step → Prop
  | .lookup i => ∀ dial ∈ s.dials[i]?, ∀ c ∈ s.muxPool dial.addr, ∀ conn ∈ s.conns[c]?,
      live conn = true
  | .conn c a => ends a = true → ∀ dial ∈ s.dials, dial.phase.uses c = false
  | _ => True

instance (s : State) : ∀ a, Decidable (s.Sound a)
  | .lookup i => Option.decidableForallMem s.dials[i]?
  | .conn c a =>
    inferInstanceAs (Decidable (ends a = true → ∀ dial ∈ s.dials, dial.phase.uses c = false))
  | .dial .. | .connect .. | .openStream _ | .finish _ => isTrue trivial

/-! ## Connections -/

section Connections

variable {conn conn' : Demux.State} {a : Demux.Step}

/-- When the pool counts a connection as live. -/
theorem live_iff : live conn = true ↔
    conn.conn.writer ≠ .returned ∧ conn.inbound.reader ≠ .terminated := by
  simp [live]

/-- A live connection stays so until one of its tasks ends. -/
theorem live_of_step (hlive : live conn = true) (hends : ends a = false)
    (hstep : conn.step a = some conn') : live conn' = true := by
  rw [live_iff] at hlive ⊢
  obtain ⟨hwriter, hreader⟩ := hlive
  constructor
  · cases Demux.stateMove_of_step hstep with
    | openEnqueue _ _ hconn =>
      obtain ⟨-, ⟨-, rfl⟩ | ⟨-, rfl⟩⟩ := MuxConn.eq_of_enqueue hconn <;> exact hwriter
    | enqueue hconn =>
      rcases hconn with rfl | ⟨cls, item, -, hconn⟩
      · exact hwriter
      · obtain ⟨-, ⟨-, rfl⟩ | ⟨-, rfl⟩⟩ := MuxConn.eq_of_enqueue hconn <;> exact hwriter
    | write hconn =>
      intro hreturned
      rw [MuxConn.wrote_of_returned hconn hreturned] at hends
      cases hends
    | _ => exact hwriter
  · intro hterminated
    rcases Demux.terminated_of_step hstep hterminated with rfl | hbefore
    · cases hends
    · exact hreader hbefore

/-- A call of `open_stream` on a live connection does not fail. -/
theorem open_of_step {k : Nat} {call : Demux.OpenCall} (hlive : live conn = true)
    (hk : conn.opens[k]? = some call) (hphase : call.phase ≠ .failed)
    (hstep : conn.step a = some conn') :
    ∃ call', conn'.opens[k]? = some call' ∧ call'.phase ≠ .failed := by
  -- the call of this step, and the others
  have hset : ∀ {j : Nat} {old new : Demux.OpenCall}, conn.opens[j]? = some old →
      new.phase ≠ .failed → ∃ call', (conn.opens.set j new)[k]? = some call' ∧
        call'.phase ≠ .failed := by
    intro j old new hj hnew
    exact Tasks.exists_set hj (fun _ _ => hnew) ⟨call, hk, hphase⟩
  cases Demux.stateMove_of_step hstep with
  | openStream => exact ⟨call, Tasks.append_of_some hk, hphase⟩
  | openEnqueue hj | openInsert hj => exact hset hj nofun
  | openFail hj hdrawn hconn =>
    exact absurd (MuxConn.returned_of_enqueue hconn) (live_iff.mp hlive).1
  | _ => exact ⟨call, hk, hphase⟩

end Connections

/-! ## Guided runs -/

/-- A connection that a dial holds is live, and so far its `open_stream` has not failed. -/
structure DialPhase.Holds (conns : List Demux.State) (phase : DialPhase) : Prop where
  live : ∀ c, phase.uses c = true → ∃ conn, conns[c]? = some conn ∧ Pool.live conn = true
  call : ∀ c k, phase = .opening c k → ∃ conn call, conns[c]? = some conn ∧
    conn.opens[k]? = some call ∧ call.phase ≠ .failed

/-- The invariant of guided runs. -/
structure Fresh (s : State) : Prop where
  pool : ∀ addr c, s.muxPool addr = some c → c < s.conns.length
  held : ∀ dial ∈ s.dials, dial.phase.Holds s.conns
  good : s.Recovers

section Guided

variable {s t : State} {i c : Nat} {dial : Dial}

theorem fresh_init : Fresh machine.init :=
  ⟨fun _ _ h => (nomatch h), fun _ h => (nomatch h), fun _ h => (nomatch h)⟩

/-- A dial that holds no connection. -/
theorem holds_of_idle {conns : List Demux.State} {phase : DialPhase}
    (h : ∀ c, phase.uses c = false) : phase.Holds conns where
  live c hc := by cases (h c).symm.trans hc
  call c k hphase := by
    have huses : phase.uses c = true := by
      rw [hphase]
      exact beq_self_eq_true c
    cases (h c).symm.trans huses

/-- A dial moves on. -/
theorem Fresh.setDial (h : Fresh s) (i : Nat) (hheld : dial.phase.Holds s.conns)
    (hgood : dial.phase.isGood = true) : Fresh (s.setDial i dial) :=
  ⟨h.pool, Tasks.forall_mem_set i h.held hheld, Tasks.forall_mem_set i h.good hgood⟩

/-- A connection moves on. If a dial holds it then it stays live, and its calls do not fail. -/
theorem Fresh.setConn (h : Fresh s) {conn conn' : Demux.State} {a : Demux.Step}
    (hc : s.conns[c]? = some conn) (hstep : conn.step a = some conn')
    (hends : ends a = true → ∀ dial ∈ s.dials, dial.phase.uses c = false) :
    Fresh { s with conns := s.conns.set c conn' } where
  pool addr c' hc' := by
    rw [List.length_set]
    exact h.pool addr c' hc'
  held dial hdial := by
    have hlive : dial.phase.uses c = true → live conn = true ∧ ends a = false := by
      intro huses
      obtain ⟨other, hother, hlive⟩ := (h.held dial hdial).live c huses
      obtain rfl : conn = other := Option.some.inj (hc.symm.trans hother)
      refine ⟨hlive, Bool.eq_false_iff.mpr fun hend => ?_⟩
      cases (hends hend dial hdial).symm.trans huses
    refine ⟨fun c' huses => ?_, fun c' k hphase => ?_⟩
    · refine Tasks.exists_set hc (fun hcc _ => ?_) ((h.held dial hdial).live c' huses)
      subst hcc
      exact live_of_step (hlive huses).1 (hlive huses).2 hstep
    · obtain ⟨other, call, hother, hcall, hphase'⟩ := (h.held dial hdial).call c' k hphase
      by_cases hcc : c = c'
      · subst hcc
        obtain rfl : conn = other := Option.some.inj (hc.symm.trans hother)
        have huses : dial.phase.uses c = true := by
          rw [hphase]
          exact beq_self_eq_true c
        obtain ⟨call', hcall', hnot⟩ := open_of_step (hlive huses).1 hcall hphase' hstep
        exact ⟨conn', call', Tasks.set_self hc, hcall', hnot⟩
      · exact ⟨other, call, (List.getElem?_set_ne hcc).trans hother, hcall, hphase'⟩
  good := h.good

/-- A connection is added to the pool. -/
theorem Fresh.addConn (h : Fresh s) (addr : Str) (conn : Demux.State) (locked : Bool) :
    Fresh { s with
      muxPool := Function.update s.muxPool addr (some s.conns.length)
      conns := s.conns ++ [conn]
      locked := locked } where
  pool other c hc := by
    rw [List.length_append, List.length_singleton]
    by_cases haddr : other = addr
    · subst haddr
      have hnew : some s.conns.length = some c :=
        (Function.update_self other _ s.muxPool).symm.trans hc
      cases hnew
      exact Nat.lt_succ_self _
    · have hold := h.pool other c ((Function.update_of_ne haddr _ s.muxPool).symm.trans hc)
      exact Nat.lt_succ_of_lt hold
  held dial hdial := by
    refine ⟨fun c huses => ?_, fun c k hphase => ?_⟩
    · obtain ⟨other, hother, hlive⟩ := (h.held dial hdial).live c huses
      exact ⟨other, Tasks.append_of_some hother, hlive⟩
    · obtain ⟨other, call, hother, hcall⟩ := (h.held dial hdial).call c k hphase
      exact ⟨other, call, Tasks.append_of_some hother, hcall⟩
  good := h.good

/-- A dial that has just taken a live connection. -/
theorem holds_holding {conns : List Demux.State} {conn : Demux.State} (hc : conns[c]? = some conn)
    (hlive : live conn = true) : (DialPhase.holding c).Holds conns where
  live c' huses := by
    obtain rfl : c = c' := beq_iff_eq.mp huses
    exact ⟨conn, hc, hlive⟩
  call _ _ hphase := nomatch hphase

/-- A lookup keeps the invariant where pooled connections are live. -/
theorem Fresh.lookup (h : Fresh s) (hsound : ∀ c ∈ s.muxPool dial.addr, ∀ conn ∈ s.conns[c]?,
    live conn = true) : Fresh (s.lookup i dial) := by
  unfold State.lookup
  split
  · rename_i c hc
    obtain ⟨conn, hconn⟩ := Tasks.exists_of_lt (h.pool dial.addr c hc)
    exact h.setDial i (holds_holding hconn (hsound c hc conn hconn)) rfl
  · have hlocked : Fresh { s with locked := true } := ⟨h.pool, h.held, h.good⟩
    exact hlocked.setDial i (holds_of_idle fun _ => rfl) rfl

/-- A connect, failed or not, keeps the invariant. -/
theorem Fresh.connect (h : Fresh s) (ok : Bool) : Fresh (s.connect i dial ok) := by
  unfold State.connect
  split_ifs
  · exact (h.addConn dial.addr _ false).setDial i
      (holds_holding List.getElem?_concat_length rfl) rfl
  · have hunlocked : Fresh { s with locked := false } := ⟨h.pool, h.held, h.good⟩
    exact hunlocked.setDial i (holds_of_idle fun _ => rfl) rfl

/-- Opening a stream on a held connection keeps the invariant. -/
theorem Fresh.openStream (h : Fresh s) (hi : s.dials[i]? = some dial)
    (hphase : dial.phase = .holding c) (hstep : s.openStream i dial c = some t) : Fresh t := by
  obtain ⟨conn, hc, hstep⟩ := Option.bind_eq_some_iff.mp hstep
  obtain ⟨conn', hconn', rfl⟩ := Option.map_eq_some_iff.mp hstep
  have hset := h.setConn hc hconn' nofun
  refine hset.setDial i ⟨fun c' huses => ?_, fun c' k hopening => ?_⟩ rfl
  · -- the connection was live when the dial held it
    obtain rfl : c = c' := beq_iff_eq.mp huses
    refine (hset.held dial (List.mem_of_getElem? hi)).live c ?_
    rw [hphase]
    exact beq_self_eq_true c
  · cases hopening
    cases hconn'
    exact ⟨_, { id := conn.conn.nextStreamId, cls := dial.cls }, Tasks.set_self hc,
      List.getElem?_concat_length, nofun⟩

/-- Handing a stream out keeps the invariant. -/
theorem Fresh.finish (h : Fresh s) {k : Nat} (hi : s.dials[i]? = some dial)
    (hphase : dial.phase = .opening c k) (hstep : s.finish i dial c k = some t) : Fresh t := by
  obtain ⟨conn, hc, hstep⟩ := Option.bind_eq_some_iff.mp hstep
  obtain ⟨call, hk, hstep⟩ := Option.bind_eq_some_iff.mp hstep
  have hheld := h.held dial (List.mem_of_getElem? hi)
  split at hstep
  · cases hstep
    obtain ⟨other, hother, hlive⟩ := hheld.live c (by rw [hphase]; exact beq_self_eq_true c)
    obtain rfl : conn = other := Option.some.inj (hc.symm.trans hother)
    exact h.setDial i (holds_of_idle fun _ => rfl) hlive
  · rename_i hfailed
    obtain ⟨other, call', hother, hcall', hnot⟩ := hheld.call c k hphase
    obtain rfl : conn = other := Option.some.inj (hc.symm.trans hother)
    obtain rfl : call = call' := Option.some.inj (hk.symm.trans hcall')
    exact absurd hfailed hnot
  · cases hstep

/-- One sound step. -/
theorem Fresh.step {a : Step} (h : Fresh s) (hsound : s.Sound a) (hstep : s.step a = some t) :
    Fresh t := by
  cases a with
  | dial addr cls =>
    cases hstep
    exact ⟨h.pool, Tasks.forall_mem_append h.held (holds_of_idle fun _ => rfl),
      Tasks.forall_mem_append h.good rfl⟩
  | lookup i =>
    obtain ⟨dial, hi, hstep⟩ := Option.bind_eq_some_iff.mp hstep
    split_ifs at hstep
    cases hstep
    exact h.lookup (hsound dial hi)
  | connect i ok =>
    obtain ⟨dial, hi, hstep⟩ := Option.bind_eq_some_iff.mp hstep
    split_ifs at hstep
    cases hstep
    exact h.connect ok
  | openStream i =>
    obtain ⟨dial, hi, hstep⟩ := Option.bind_eq_some_iff.mp hstep
    split at hstep
    · rename_i c hphase
      exact h.openStream hi hphase hstep
    · cases hstep
  | finish i =>
    obtain ⟨dial, hi, hstep⟩ := Option.bind_eq_some_iff.mp hstep
    split at hstep
    · rename_i c k hphase
      exact h.finish hi hphase hstep
    · cases hstep
  | conn c a =>
    obtain ⟨conn, hc, hstep⟩ := Option.bind_eq_some_iff.mp hstep
    obtain ⟨conn', hconn', rfl⟩ := Option.map_eq_some_iff.mp hstep
    exact h.setConn hc hconn' hsound

end Guided

/-- **The pool recovers in a sound run**: every dial ends with a stream on a connection whose tasks
are running, or because no connection could be made. -/
theorem recovers_of_sound (steps : List Step) (s : State)
    (hsound : machine.Along State.Sound machine.init steps)
    (hrun : machine.run machine.init steps = some s) : s.Recovers :=
  (machine.along_invariant (fun _ _ _ h hP hstep => Fresh.step h hP hstep) fresh_init hsound
    hrun).good

/-- Two dials share a connection. -/
def sharedSteps : List Step :=
  [.dial ['a'] .control, .lookup 0, .connect 0 true, .openStream 0, .conn 0 (.openEnqueue 0),
    .conn 0 (.openInsert 0), .finish 0, .dial ['a'] .bulk, .lookup 1, .openStream 1,
    .conn 0 (.openEnqueue 1), .conn 0 (.openInsert 1), .finish 1, .conn 0 (.inbound .fail)]

theorem recovers_sharedSteps :
    ∃ s, machine.run machine.init sharedSteps = some s ∧
      s.dials.map Dial.phase = [.handedOut 0 0 true, .handedOut 0 1 true] ∧ s.Recovers := by
  obtain ⟨s, hrun, hdials⟩ := machine.exists_run sharedSteps
    (fun s => s.dials.map Dial.phase = [.handedOut 0 0 true, .handedOut 0 1 true]) (by decide)
  exact ⟨s, hrun, hdials, recovers_of_sound sharedSteps s (by decide) hrun⟩

/-- The read task of a pooled connection ends, and later its write task: the first dial after that
gets a stream on the dead connection, the second one fails. -/
def poisonedSteps : List Step :=
  [.dial ['a'] .control, .lookup 0, .connect 0 true, .openStream 0, .conn 0 (.openEnqueue 0),
    .conn 0 (.openInsert 0), .finish 0, .conn 0 (.inbound .fail),
    .dial ['a'] .control, .lookup 1, .openStream 1, .conn 0 (.openEnqueue 1),
    .conn 0 (.openInsert 1), .finish 1, .conn 0 (.write .drain), .conn 0 (.write (.wrote false)),
    .dial ['a'] .control, .lookup 2, .openStream 2, .conn 0 (.openEnqueue 2), .finish 2]

theorem poisoned_not_recovers :
    ∃ s, machine.run machine.init poisonedSteps = some s ∧
      s.dials.map Dial.phase =
        [.handedOut 0 0 true, .handedOut 0 1 false, .failed .sendFailed] ∧ ¬ s.Recovers := by
  obtain ⟨s, hrun, hdials⟩ := machine.exists_run poisonedSteps
    (fun s => s.dials.map Dial.phase =
      [.handedOut 0 0 true, .handedOut 0 1 false, .failed .sendFailed]) (by decide)
  refine ⟨s, hrun, hdials, fun h => ?_⟩
  have hmem : DialPhase.failed .sendFailed ∈ s.dials.map Dial.phase := by
    rw [hdials]
    decide
  obtain ⟨dial, hdial, hphase⟩ := List.mem_map.mp hmem
  have hgood := h dial hdial
  rw [hphase] at hgood
  cases hgood

end Roboat.Daemon.Pool
