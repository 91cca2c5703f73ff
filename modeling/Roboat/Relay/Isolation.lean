import Roboat.Relay.Hub

/-! # Robots in the hub

Messages of all robots meet in two maps of the hub: a relay message goes to the relay registered
under the id it carries, a response to the call pending under the id it carries. Neither lookup
asks which robot the message came from. Isolation of robots therefore rests on the ids: it holds in
every run in which no robot names an id that belongs to another one, and fails otherwise.

`robotOf` is the identity of a robot behind the text of its id. -/

namespace Roboat.Relay

variable {ρ : Type*} (robotOf : Str → ρ)

/-- The source is a connection authenticated as the robot `robotID`. -/
def Source.FromRobot (source : Source) (robotID : Str) : Prop :=
  ∃ q, source = .agent q ∧ robotOf q = robotOf robotID

namespace State

/-- **Isolation**: what is placed in a relay's channel came from its robot or from the hub, and
what a call returns came from the robot it was addressed to. -/
def Isolation (s : State) : Prop :=
  (∀ reg msg source, Event.placed reg msg source ∈ s.log →
    source = .hub ∨ source.FromRobot robotOf reg.robotID) ∧
  ∀ call ∈ s.calls, ∀ response source, call.phase = .returned response source →
    source.FromRobot robotOf call.robotID

/-- **The condition**: a relay message does not carry the id of a relay that is registered for
another robot, and a response does not carry the id of a request that is pending for another robot.
-/
def UsesOwnIds (s : State) : Step → Prop
  | .agent (.receive i msg _) => ∀ conn ∈ s.agents[i]?,
      (msg.type.isRelay = true → ∀ reg ∈ s.relayOf (trimSpace msg.relayID),
        robotOf conn.robotID = robotOf reg.robotID) ∧
      (msg.type.isResponse = true → ∀ j ∈ s.pending (trimSpace msg.requestID),
        ∀ call ∈ s.calls[j]?, robotOf conn.robotID = robotOf call.robotID)
  | _ => True

/-- A pump delivers only to its own robot. -/
def PumpOk (calls : List Call) (conn : AgentConn) : Prop :=
  match conn.phase with
  | .responding j _ => ∃ call, calls[j]? = some call ∧ robotOf conn.robotID = robotOf call.robotID
  | .enqueueing _ reg => robotOf conn.robotID = robotOf reg.robotID
  | .dropping _ reg => robotOf conn.robotID = robotOf reg.robotID
  | .retrying _ reg => robotOf conn.robotID = robotOf reg.robotID
  | .reading => True
  | .returned => True

/-- A call holds, or has returned, only a response of its own robot. -/
structure CallOk (call : Call) : Prop where
  respCh : ∀ response source, call.respCh = some (response, source) →
    source.FromRobot robotOf call.robotID
  returned : ∀ response source, call.phase = .returned response source →
    source.FromRobot robotOf call.robotID

/-- The invariant of guided runs. -/
structure Isolated (s : State) : Prop where
  placed : ∀ reg msg source, Event.placed reg msg source ∈ s.log →
    source = .hub ∨ source.FromRobot robotOf reg.robotID
  pumps : ∀ conn ∈ s.agents, PumpOk robotOf s.calls conn
  calls : ∀ call ∈ s.calls, CallOk robotOf call
  pending : ∀ k j, s.pending k = some j → j < s.calls.length

variable {robotOf} {s t : State} {i j : Nat} {conn : AgentConn} {call : Call} {n : Nat}
  {task : SessionTask} {reg : RelayRegistration} {msg : AgentControlMessage} {robotID : Str}

/-! ## What the primitive changes keep -/

theorem Isolated.setTask (h : Isolated robotOf s) : Isolated robotOf (s.setTask n task) :=
  ⟨h.placed, h.pumps, h.calls, h.pending⟩

/-- A pump that delivers to its own robot keeps the invariant. -/
theorem Isolated.setAgent (h : Isolated robotOf s) (hconn : PumpOk robotOf s.calls conn) :
    Isolated robotOf (s.setAgent i conn) := by
  refine ⟨h.placed, fun conn' hmem => ?_, h.calls, h.pending⟩
  rcases List.mem_or_eq_of_mem_set hmem with hold | rfl
  · exact h.pumps conn' hold
  · exact hconn

/-- A pump that is right about the calls stays right when a call changes, but not its robot. -/
theorem PumpOk.setCall (h : PumpOk robotOf s.calls conn) {old : Call}
    (hold : s.calls[j]? = some old)
    (hrobot : call.robotID = old.robotID) : PumpOk robotOf (s.calls.set j call) conn := by
  unfold PumpOk at h ⊢
  cases hphase : conn.phase with
  | responding k response =>
    rw [hphase] at h
    exact Tasks.exists_set hold (fun _ hsame => hsame.trans (congrArg robotOf hrobot.symm)) h
  | _ => rw [hphase] at h; exact h

theorem Isolated.setCall (h : Isolated robotOf s) {old : Call} (hold : s.calls[j]? = some old)
    (hrobot : call.robotID = old.robotID) (hcall : CallOk robotOf call) :
    Isolated robotOf (s.setCall j call) := by
  refine ⟨h.placed, fun conn hmem => (h.pumps conn hmem).setCall hold hrobot, fun c hmem => ?_,
    fun k j' hk => ?_⟩
  · rcases List.mem_or_eq_of_mem_set hmem with hc | rfl
    · exact h.calls c hc
    · exact hcall
  · simpa [State.setCall] using h.pending k j' hk

/-- A message of the hub, or of the robot, keeps the invariant. -/
theorem Isolated.enqueue (h : Isolated robotOf s) {source : Source}
    (hsource : source = .hub ∨ source.FromRobot robotOf reg.robotID)
    (henq : s.enqueue reg msg source = some t) : Isolated robotOf t := by
  obtain ⟨chans, rfl⟩ := eq_of_enqueue henq
  refine ⟨fun reg' msg' source' hmem => ?_, h.pumps, h.calls, h.pending⟩
  rcases List.mem_cons.mp hmem with heq | hold
  · cases heq
    exact hsource
  · exact h.placed reg' msg' source' hold

theorem Isolated.dropOldest (h : Isolated robotOf s)
    (hdrop : s.dropOldestQueuedMessage reg = some t) : Isolated robotOf t := by
  obtain ⟨chans, rfl⟩ := eq_of_dropOldestQueuedMessage hdrop
  exact ⟨h.placed, h.pumps, h.calls, h.pending⟩

theorem Isolated.sendOn (h : Isolated robotOf s) (hsend : s.sendOn i msg = some t) :
    Isolated robotOf t := by
  obtain ⟨conn, queue, hconn, rfl⟩ := eq_of_sendOn hsend
  exact h.setAgent (h.pumps conn (List.mem_of_getElem? hconn))

theorem Isolated.enqueue_getD (h : Isolated robotOf s) {source : Source}
    (hsource : source = .hub ∨ source.FromRobot robotOf reg.robotID) :
    Isolated robotOf ((s.enqueue reg msg source).getD s) := by
  cases henq : s.enqueue reg msg source with
  | none => exact h
  | some u => exact h.enqueue hsource henq

theorem Isolated.dropOldest_getD (h : Isolated robotOf s) :
    Isolated robotOf ((s.dropOldestQueuedMessage reg).getD s) := by
  cases hdrop : s.dropOldestQueuedMessage reg with
  | none => exact h
  | some u => exact h.dropOldest hdrop

theorem Isolated.sendRelay_getD (h : Isolated robotOf s) :
    Isolated robotOf ((s.sendRelay robotID msg).getD s) := by
  cases hsend : s.sendRelay robotID msg with
  | none => exact h
  | some u =>
    unfold State.sendRelay at hsend
    split_ifs at hsend
    obtain ⟨i, -, hon⟩ := Option.bind_eq_some_iff.mp hsend
    exact h.sendOn hon

/-- A response is put on the channel of a call of its robot. -/
theorem Isolated.respond (h : Isolated robotOf s) {response : Str}
    (hown : ∃ call, s.calls[j]? = some call ∧ robotOf robotID = robotOf call.robotID) :
    Isolated robotOf (s.respond j (response, .agent robotID)) := by
  obtain ⟨call, hcall, hown⟩ := hown
  have hok := h.calls call (List.mem_of_getElem? hcall)
  unfold State.respond
  rw [hcall]
  refine h.setCall hcall rfl ⟨fun r source hr => ?_, hok.returned⟩
  cases hch : call.respCh with
  | none =>
    rw [hch] at hr
    cases hr
    exact ⟨robotID, rfl, hown⟩
  | some r' =>
    rw [hch] at hr
    cases hr
    exact hok.respCh r source hch

/-! ## What the steps keep -/

/-- A new connection has delivered nothing yet. -/
theorem Isolated.agentConnect (h : Isolated robotOf s) {env : Env} {kind : ConnKind} {apiKey : Str}
    (hstep : s.agentConnect env kind robotID apiKey = some t) : Isolated robotOf t := by
  have hpumps : ∀ conn ∈ s.agents ++ [⟨kind, trimSpace robotID, [], .reading⟩],
      PumpOk robotOf s.calls conn := by
    intro conn hmem
    rcases List.mem_append.mp hmem with hold | hnew
    · exact h.pumps conn hold
    · rw [List.mem_singleton.mp hnew]
      trivial
  unfold State.agentConnect at hstep
  cases kind with
  | control =>
    simp only at hstep
    split_ifs at hstep
    · cases hstep
      exact h
    · cases hstep
      exact ⟨h.placed, hpumps, h.calls, h.pending⟩
  | relay =>
    simp only at hstep
    split_ifs at hstep
    cases hstep
    exact ⟨h.placed, hpumps, h.calls, h.pending⟩

/-- A received message is looked up; under the condition it is for the robot it came from. -/
theorem Isolated.receive (h : Isolated robotOf s) {cooled : Bool} (hconn : s.agents[i]? = some conn)
    (hcond : s.UsesOwnIds robotOf (.agent (.receive i msg cooled))) :
    Isolated robotOf (s.receive i conn msg cooled) := by
  obtain ⟨hrelay, hresponse⟩ := hcond conn hconn
  unfold State.receive
  split_ifs with hresp hrel
  · unfold State.receiveResponse
    simp only
    split_ifs
    · exact h
    cases hpend : s.pending (trimSpace msg.requestID) with
    | none => exact h
    | some k =>
      obtain ⟨call, hcall⟩ := Tasks.exists_of_lt (h.pending _ _ hpend)
      have hown := hresponse hresp.2 k hpend call hcall
      refine Isolated.setAgent ⟨h.placed, h.pumps, h.calls, fun k' j hk' => ?_⟩
        ⟨call, hcall, hown⟩
      by_cases hkey : k' = trimSpace msg.requestID
      · simp [hkey] at hk'
      · exact h.pending k' j (by simpa [Function.update_of_ne hkey] using hk')
  · unfold State.receiveRelay
    simp only
    by_cases hempty : trimSpace msg.relayID = []
    · rw [if_pos hempty]
      exact h
    rw [if_neg hempty]
    cases hreg : s.relayOf (trimSpace msg.relayID) with
    | some reg => exact h.setAgent (hrelay hrel reg hreg)
    | none =>
      simp only
      split_ifs
      · exact h.sendRelay_getD
      · exact h
  · exact h

/-- A delivery moves on, and places messages of its own robot only. -/
theorem Isolated.deliver (h : Isolated robotOf s) (hconn : s.agents[i]? = some conn)
    (hstep : s.deliver i conn = some t) : Isolated robotOf t := by
  have hok := h.pumps conn (List.mem_of_getElem? hconn)
  unfold PumpOk at hok
  unfold State.deliver at hstep
  cases hphase : conn.phase with
  | reading | returned =>
    rw [hphase] at hstep
    cases hstep
  | responding k response =>
    rw [hphase] at hstep hok
    cases hstep
    exact (h.respond hok).setAgent trivial
  | enqueueing msg reg =>
    rw [hphase] at hstep hok
    simp only at hstep
    cases henq : s.enqueue reg msg (.agent conn.robotID) with
    | some u =>
      rw [henq] at hstep
      cases hstep
      exact (h.enqueue (Or.inr ⟨_, rfl, hok⟩) henq).setAgent trivial
    | none =>
      rw [henq] at hstep
      simp only at hstep
      split_ifs at hstep
      · cases hstep
        exact h.setAgent hok
      · cases hstep
        exact h.setAgent trivial
  | dropping msg reg =>
    rw [hphase] at hstep hok
    cases hstep
    exact h.dropOldest_getD.setAgent hok
  | retrying msg reg =>
    rw [hphase] at hstep hok
    cases hstep
    exact (h.enqueue_getD (Or.inr ⟨_, rfl, hok⟩)).setAgent trivial

/-- Closing a connection delivers nothing. -/
theorem Isolated.agentDisconnect (h : Isolated robotOf s) :
    Isolated robotOf (s.agentDisconnect i conn) := by
  unfold State.agentDisconnect
  simp only
  refine Isolated.setAgent ?_ trivial
  cases conn.kind with
  | control | relay =>
    simp only
    split_ifs
    · exact ⟨h.placed, h.pumps, h.calls, h.pending⟩
    · exact h

/-- A new call has no response yet. -/
theorem Isolated.newCall (h : Isolated robotOf s) (hresp : call.respCh = none)
    (hphase : call.phase = .begun) : Isolated robotOf { s with calls := s.calls ++ [call] } := by
  refine ⟨h.placed, fun conn hmem => ?_, fun c hmem => ?_, fun k j hk => ?_⟩
  · have hok := h.pumps conn hmem
    unfold PumpOk at hok ⊢
    cases hp : conn.phase with
    | responding j response =>
      rw [hp] at hok
      obtain ⟨c, hc, hown⟩ := hok
      exact ⟨c, Tasks.append_of_some hc, hown⟩
    | _ => rw [hp] at hok; exact hok
  · rcases List.mem_append.mp hmem with hold | hnew
    · exact h.calls c hold
    · rw [List.mem_singleton.mp hnew]
      refine ⟨fun _ _ hr => ?_, fun _ _ hr => ?_⟩
      · rw [hresp] at hr
        cases hr
      · rw [hphase] at hr
        cases hr
  · have hlt := h.pending k j hk
    simp only [List.length_append, List.length_singleton]
    omega

/-- Changing the phase of a call, other than to `returned`, and the table of pending calls. -/
theorem Isolated.moveCall (h : Isolated robotOf s) {phase : CallPhase} {p : Str → Option Nat}
    (hcall : s.calls[j]? = some call) (hphase : ∀ r source, phase ≠ .returned r source)
    (hp : ∀ k j, p k = some j → j < s.calls.length) :
    Isolated robotOf ({ s with pending := p }.setCall j { call with phase := phase }) := by
  have hok := h.calls call (List.mem_of_getElem? hcall)
  have hpend : Isolated robotOf { s with pending := p } := ⟨h.placed, h.pumps, h.calls, hp⟩
  exact hpend.setCall hcall rfl ⟨hok.respCh, fun r source hr => absurd hr (hphase r source)⟩

/-- The table of pending calls with one entry changed. -/
theorem Isolated.pending_update (h : Isolated robotOf s) {k : Str} {o : Option Nat}
    (ho : ∀ j, o = some j → j < s.calls.length) :
    ∀ k' j, Function.update s.pending k o k' = some j → j < s.calls.length := by
  intro k' j hj
  by_cases hk : k' = k
  · rw [hk, Function.update_self] at hj
    exact ho j hj
  · rw [Function.update_of_ne hk] at hj
    exact h.pending k' j hj

/-- Sending a request keeps the invariant. -/
theorem Isolated.callSend (h : Isolated robotOf s) (hcall : s.calls[j]? = some call) :
    Isolated robotOf (s.callSend j call) := by
  unfold State.callSend
  cases hsend : s.send call.robotID call.request with
  | none => exact h.moveCall hcall (by simp) h.pending
  | some u =>
    obtain ⟨i, -, hon⟩ := Option.bind_eq_some_iff.mp hsend
    have hu := h.sendOn hon
    obtain ⟨conn, queue, -, rfl⟩ := eq_of_sendOn hon
    exact hu.moveCall hcall (by simp) hu.pending

/-- **Connections and calls** keep the invariant under the condition. -/
theorem Isolated.agentStep (env : Env) {a : AgentStep} (h : Isolated robotOf s)
    (hcond : s.UsesOwnIds robotOf (.agent a)) (hstep : s.agentStep env a = some t) :
    Isolated robotOf t := by
  cases a with
  | agentConnect kind robotID apiKey => exact h.agentConnect hstep
  | receive i msg cooled =>
    obtain ⟨conn, hconn, hstep⟩ := Option.bind_eq_some_iff.mp hstep
    split_ifs at hstep
    cases hstep
    exact h.receive hconn hcond
  | deliver i =>
    obtain ⟨conn, hconn, hstep⟩ := Option.bind_eq_some_iff.mp hstep
    exact h.deliver hconn hstep
  | writePump i =>
    obtain ⟨conn, hconn, hstep⟩ := Option.bind_eq_some_iff.mp hstep
    split at hstep
    · cases hstep
    · cases hstep
      exact h.setAgent (h.pumps conn (List.mem_of_getElem? hconn))
  | agentDisconnect i =>
    obtain ⟨conn, hconn, hstep⟩ := Option.bind_eq_some_iff.mp hstep
    split_ifs at hstep
    cases hstep
    exact h.agentDisconnect
  | call kind robotID requestID body =>
    cases hstep
    exact h.newCall rfl rfl
  | callPend j =>
    obtain ⟨call, hcall, hstep⟩ := Option.bind_eq_some_iff.mp hstep
    split_ifs at hstep
    cases hstep
    refine h.moveCall hcall (by simp) (h.pending_update fun j' hj' => ?_)
    cases hj'
    exact (List.getElem?_eq_some_iff.mp hcall).1
  | callSend j =>
    obtain ⟨call, hcall, hstep⟩ := Option.bind_eq_some_iff.mp hstep
    split_ifs at hstep
    cases hstep
    exact h.callSend hcall
  | callReturn j =>
    obtain ⟨call, hcall, hstep⟩ := Option.bind_eq_some_iff.mp hstep
    split_ifs at hstep
    obtain ⟨⟨response, source⟩, hresp, rfl⟩ := Option.map_eq_some_iff.mp hstep
    have hok := h.calls call (List.mem_of_getElem? hcall)
    refine h.setCall hcall rfl ⟨fun _ _ hr => (by cases hr), fun r src hr => ?_⟩
    cases hr
    exact hok.respCh response source hresp
  | callTimeout j =>
    obtain ⟨call, hcall, hstep⟩ := Option.bind_eq_some_iff.mp hstep
    split_ifs at hstep
    cases hstep
    exact h.moveCall hcall (by simp) h.pending
  | callDelete j =>
    obtain ⟨call, hcall, hstep⟩ := Option.bind_eq_some_iff.mp hstep
    split_ifs at hstep
    cases hstep
    exact h.moveCall hcall (by simp) (h.pending_update fun j' hj' => by cases hj')

/-- The messages of a preemption come from the hub. -/
theorem Isolated.close (h : Isolated robotOf s) {entry : RelayEntry} {stale : List RelayEntry} :
    Isolated robotOf (s.close n task entry stale) := by
  unfold State.close
  cases henq : s.enqueue entry.2 (preemptMessage task entry) .hub with
  | none => exact h.setTask
  | some u => exact (h.enqueue (Or.inl rfl) henq).setTask

/-- Making room in a preemption places nothing. -/
theorem Isolated.drop (h : Isolated robotOf s) {entry : RelayEntry} {stale : List RelayEntry} :
    Isolated robotOf (s.drop n task entry stale) := by
  unfold State.drop
  cases hdrop : s.dropOldestQueuedMessage entry.2 with
  | none => exact h.setTask
  | some u => exact (h.dropOldest hdrop).setTask

/-- Setting the active session places nothing. -/
theorem Isolated.set (h : Isolated robotOf s) : Isolated robotOf (s.set n task) := by
  unfold State.set
  split_ifs
  · refine ⟨fun reg msg source hmem => ?_, h.pumps, h.calls, h.pending⟩
    rcases List.mem_cons.mp hmem with heq | hold
    · cases heq
    · exact h.placed reg msg source hold
  · exact ⟨h.placed, h.pumps, h.calls, h.pending⟩

/-- **Session tasks** keep the invariant: they touch neither connections nor calls, and place only
messages of the hub. -/
theorem Isolated.sessionStep (env : Env) {a : SessionStep} (h : Isolated robotOf s)
    (hstep : s.sessionStep env a = some t) : Isolated robotOf t := by
  cases sessionMove_of_sessionStep hstep with
  | attach | activate | register | unregister | clear =>
    exact ⟨h.placed, h.pumps, h.calls, h.pending⟩
  | decide =>
    unfold State.decideSession
    split <;> exact h.setTask
  | set => exact h.set
  | scan | passDone | upgradeFail => exact h.setTask
  | close => exact h.close
  | drop => exact h.drop
  | retry => exact (h.enqueue_getD (Or.inl rfl)).setTask
  | consume htask hphase hdrop => exact h.dropOldest hdrop

/-- The invariant gives isolation. -/
theorem Isolated.isolation (h : Isolated robotOf s) : s.Isolation robotOf :=
  ⟨h.placed, fun call hmem => (h.calls call hmem).returned⟩

end State

/-- **Robots are isolated when they use their own ids.** In every run in which no robot sends a
relay message with the id of another robot's relay, or a response with the id of a request to
another robot, a relay gets messages of its robot and of the hub only, and a call returns a
response of the robot it addressed. -/
theorem isolation_of_usesOwnIds (env : Env) {ρ : Type*} (robotOf : Str → ρ) (as : List Step)
    (s : State) (hrun : (machine env).run (machine env).init as = some s)
    (hcond : (machine env).Along (State.UsesOwnIds robotOf) (machine env).init as) :
    s.Isolation robotOf := by
  have hinit : State.Isolated robotOf (machine env).init :=
    ⟨by simp [machine], by simp [machine], by simp [machine], by simp [machine]⟩
  refine ((machine env).along_invariant (fun s a t hs hP hstep => ?_) hinit hcond hrun).isolation
  cases a with
  | agent a => exact hs.agentStep env hP hstep
  | session a => exact hs.sessionStep env hstep

/-- Another robot. -/
def robotB : Str := sampleUUID 'b'

/-- Both robots connect, a user attaches to the first as relay `x`, and a command with request id
`k` is sent to it. Then the connections with the given numbers deliver a relay message for `x` and a
response for `k`. -/
def meetingSteps (relayConn controlConn : Nat) : List Step :=
  [.agent (.agentConnect .control robotA ['p']), .agent (.agentConnect .relay robotA ['p']),
    .agent (.agentConnect .control robotB ['q']), .agent (.agentConnect .relay robotB ['q']),
    .session (.attach robotA ['u'] ['s'] 80), .session (.decide 0 fun _ => none), .session (.set 0),
    .session (.scan 0), .session (.passDone 0), .session (.register 0 ['x']),
    .agent (.call .command robotA ['k'] []), .agent (.callPend 0), .agent (.callSend 0),
    .agent (.receive relayConn { type := .relayData, relayID := ['x'] } false),
    .agent (.deliver relayConn),
    .agent (.receive controlConn { type := .commandResponse, requestID := ['k'] } false),
    .agent (.deliver controlConn), .agent (.callReturn 0)]

instance (s : State) : ∀ a, Decidable (s.UsesOwnIds (id : Str → Str) a)
  | .agent (.receive i _ _) => Option.decidableForallMem s.agents[i]?
  | .agent (.agentConnect ..) | .agent (.deliver _) | .agent (.writePump _)
  | .agent (.agentDisconnect _) | .agent (.call ..) | .agent (.callPend _) | .agent (.callSend _)
  | .agent (.callReturn _) | .agent (.callTimeout _) | .agent (.callDelete _)
  | .session _ => isTrue trivial

/-- When the first robot answers for itself, the condition is met, and relay and call get their
messages. -/
theorem isolation_meetingSteps :
    ∃ s, (machine sampleEnv).run (machine sampleEnv).init (meetingSteps 1 0) = some s ∧
      s.chans = [[{ type := .relayData, relayID := ['x'] }]] ∧
      s.calls.map Call.phase = [.returned [] (.agent robotA)] ∧ s.Isolation (id : Str → Str) := by
  obtain ⟨s, hs, hchan, hcall⟩ := (machine sampleEnv).exists_run (meetingSteps 1 0)
    (fun s => s.chans = [[{ type := .relayData, relayID := ['x'] }]] ∧
      s.calls.map Call.phase = [.returned [] (.agent robotA)]) (by decide)
  exact ⟨s, hs, hchan, hcall, isolation_of_usesOwnIds sampleEnv id _ s hs (by decide)⟩

/-- **A robot can write into another robot's relay and answer another robot's commands.** -/
theorem isolation_fails :
    ∃ as s, (machine sampleEnv).run (machine sampleEnv).init as = some s ∧
      (∃ reg msg, .placed reg msg (.agent robotB) ∈ s.log ∧ reg.robotID = robotA) ∧
      (∃ call ∈ s.calls, call.robotID = robotA ∧ call.phase = .returned [] (.agent robotB)) ∧
      ¬ s.Isolation (id : Str → Str) := by
  obtain ⟨s, hs, hplaced, hcall⟩ := (machine sampleEnv).exists_run (meetingSteps 3 2)
    (fun s =>
      .placed ⟨robotA, ['s'], 0⟩ { type := .relayData, relayID := ['x'] } (.agent robotB) ∈ s.log ∧
      ∃ call ∈ s.calls, call.robotID = robotA ∧ call.phase = .returned [] (.agent robotB))
    (by decide)
  refine ⟨_, s, hs, ⟨_, _, hplaced, rfl⟩, hcall, fun hiso => ?_⟩
  rcases hiso.1 _ _ _ hplaced with heq | ⟨q, heq, hq⟩
  · cases heq
  · cases heq
    exact absurd hq (by decide)

end Roboat.Relay
