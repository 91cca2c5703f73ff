import Roboat.Relay.Hub

/-! # One control connection for each robot

Under `reject_new` the hub turns a control connection away while its map has another one. The key of
the map is the text of the robot's id as the robot wrote it; the identity that was authenticated is
the UUID that the text stands for, and a UUID has several texts. The hub therefore keeps one
connection for each text (`Current`), which is one for each robot only as long as every robot keeps
to one text. -/

namespace Roboat.Relay

/-- An accepted control connection that is not yet unregistered. -/
def AgentConn.isAccepted (conn : AgentConn) : Bool :=
  conn.kind == .control && conn.phase != .returned

namespace State

section Identity

variable {ρ : Type*} (robotOf : Str → ρ)

/-- At most one accepted control connection for each robot. -/
def OnePerRobot (s : State) : Prop :=
  ∀ (i j : Nat) conn conn', s.agents[i]? = some conn → s.agents[j]? = some conn' →
    conn.isAccepted = true → conn'.isAccepted = true →
    robotOf conn.robotID = robotOf conn'.robotID → i = j

/-- **The condition**: a robot that has a control connection connects with the text of that
connection. -/
def KeepsText (s : State) : Step → Prop
  | .agent (.agentConnect .control robotID _) => ∀ conn ∈ s.agents, conn.isAccepted = true →
      robotOf conn.robotID = robotOf (trimSpace robotID) → conn.robotID = trimSpace robotID
  | _ => True

/-- Every accepted connection is the one in the map under its text, and accepted connections of one
robot have one text. -/
structure Current (s : State) : Prop where
  current : ∀ (i : Nat) conn, s.agents[i]? = some conn → conn.isAccepted = true →
    s.conns conn.robotID = some i
  text : ∀ conn ∈ s.agents, ∀ conn' ∈ s.agents, conn.isAccepted = true →
    conn'.isAccepted = true → robotOf conn.robotID = robotOf conn'.robotID →
    conn.robotID = conn'.robotID

variable {robotOf} {env : Env} {s t u : State} {i : Nat} {conn conn' : AgentConn}

/-- Current connections are one for each robot. -/
theorem Current.onePerRobot (h : Current robotOf s) : s.OnePerRobot robotOf := by
  intro i j conn conn' hi hj hconn hconn' hrobot
  have htext := h.text conn (List.mem_of_getElem? hi) conn' (List.mem_of_getElem? hj) hconn hconn'
    hrobot
  have hcur := h.current i conn hi hconn
  rw [htext, h.current j conn' hj hconn'] at hcur
  exact (Option.some.inj hcur).symm

/-! ## Steps that leave the accepted connections alone -/

/-- The map is the same, and every accepted connection was one before, under the same text. -/
structure KeepsConns (s t : State) : Prop where
  conns : t.conns = s.conns
  accepted : ∀ (i : Nat) conn', t.agents[i]? = some conn' → conn'.isAccepted = true →
    ∃ conn, s.agents[i]? = some conn ∧ conn.isAccepted = true ∧ conn.robotID = conn'.robotID

/-- `Current` survives what keeps the connections. -/
theorem Current.keeps (h : Current robotOf s) (hkeeps : KeepsConns s t) : Current robotOf t := by
  refine ⟨fun i conn' hi hconn' => ?_, fun conn₁ hmem₁ conn₂ hmem₂ h₁ h₂ hrobot => ?_⟩
  · obtain ⟨conn, hold, hconn, hrobot⟩ := hkeeps.accepted i conn' hi hconn'
    rw [hkeeps.conns, ← hrobot]
    exact h.current i conn hold hconn
  · obtain ⟨i₁, hi₁⟩ := List.mem_iff_getElem?.mp hmem₁
    obtain ⟨i₂, hi₂⟩ := List.mem_iff_getElem?.mp hmem₂
    obtain ⟨old₁, hold₁, hacc₁, htext₁⟩ := hkeeps.accepted i₁ conn₁ hi₁ h₁
    obtain ⟨old₂, hold₂, hacc₂, htext₂⟩ := hkeeps.accepted i₂ conn₂ hi₂ h₂
    rw [← htext₁, ← htext₂] at hrobot ⊢
    exact h.text old₁ (List.mem_of_getElem? hold₁) old₂ (List.mem_of_getElem? hold₂) hacc₁ hacc₂
      hrobot

theorem KeepsConns.refl (s : State) : KeepsConns s s :=
  ⟨rfl, fun _ conn hi hconn => ⟨conn, hi, hconn, rfl⟩⟩

theorem KeepsConns.trans (h : KeepsConns s t) (h' : KeepsConns t u) : KeepsConns s u := by
  refine ⟨h'.conns.trans h.conns, fun i conn hi hconn => ?_⟩
  obtain ⟨conn', hi', hconn', htext'⟩ := h'.accepted i conn hi hconn
  obtain ⟨conn'', hi'', hconn'', htext''⟩ := h.accepted i conn' hi' hconn'
  exact ⟨conn'', hi'', hconn'', htext''.trans htext'⟩

theorem KeepsConns.of_agents (hconns : t.conns = s.conns) (hagents : t.agents = s.agents) :
    KeepsConns s t := by
  refine ⟨hconns, fun i conn hi hconn => ⟨conn, ?_, hconn, rfl⟩⟩
  rw [← hagents]
  exact hi

/-- A connection that is not unregistered moves on, whatever becomes of it. -/
theorem KeepsConns.setAgent (conn' : AgentConn) (hconn : s.agents[i]? = some conn)
    (hphase : conn.phase ≠ .returned) (hkind : conn'.kind = conn.kind)
    (hrobot : conn'.robotID = conn.robotID) : KeepsConns s (s.setAgent i conn') := by
  refine ⟨rfl, fun n x hx hacc => ?_⟩
  rcases Tasks.of_set hx with ⟨rfl, rfl⟩ | ⟨-, hold⟩
  · refine ⟨conn, hconn, ?_, hrobot.symm⟩
    rw [AgentConn.isAccepted, hkind] at hacc
    simp only [AgentConn.isAccepted, Bool.and_eq_true, bne_iff_ne] at hacc ⊢
    exact ⟨hacc.1, hphase⟩
  · exact ⟨x, hold, hacc, rfl⟩

/-- A connection gets another send queue. -/
theorem KeepsConns.setSend (hconn : s.agents[i]? = some conn) (queue : List AgentControlMessage) :
    KeepsConns s (s.setAgent i { conn with send := queue }) := by
  refine ⟨rfl, fun n x hx hacc => ?_⟩
  rcases Tasks.of_set hx with ⟨rfl, rfl⟩ | ⟨-, hold⟩
  · exact ⟨conn, hconn, hacc, rfl⟩
  · exact ⟨x, hold, hacc, rfl⟩

theorem keepsConns_sendOn {msg : AgentControlMessage} (h : s.sendOn i msg = some t) :
    KeepsConns s t := by
  obtain ⟨conn, queue, hconn, rfl⟩ := eq_of_sendOn h
  exact .setSend hconn queue

theorem keepsConns_sendRelay_getD (robotID : Str) (msg : AgentControlMessage) :
    KeepsConns s ((s.sendRelay robotID msg).getD s) := by
  cases hsend : s.sendRelay robotID msg with
  | none => exact .refl s
  | some u =>
    unfold sendRelay at hsend
    split_ifs at hsend
    obtain ⟨n, -, hon⟩ := Option.bind_eq_some_iff.mp hsend
    exact keepsConns_sendOn hon

theorem keepsConns_receive {msg : AgentControlMessage} {cooled : Bool}
    (hconn : s.agents[i]? = some conn) (hreading : conn.phase = .reading) :
    KeepsConns s (s.receive i conn msg cooled) := by
  have hset : ∀ phase, KeepsConns s (s.setAgent i { conn with phase := phase }) :=
    fun phase => .setAgent _ hconn (by simp [hreading]) rfl rfl
  unfold receive
  split_ifs
  · unfold receiveResponse
    simp only
    split_ifs
    · exact .refl s
    · split
      · exact .refl s
      · exact ⟨rfl, (hset _).accepted⟩
  · unfold receiveRelay
    simp only
    by_cases hblank : trimSpace msg.relayID = []
    · rw [if_pos hblank]
      exact .refl s
    rw [if_neg hblank]
    cases s.relayOf (trimSpace msg.relayID) with
    | some reg => exact hset _
    | none =>
      simp only
      split_ifs
      · exact keepsConns_sendRelay_getD _ _
      · exact .refl s
  · exact .refl s

theorem keepsConns_deliver (hconn : s.agents[i]? = some conn) (h : s.deliver i conn = some t) :
    KeepsConns s t := by
  -- the delivery is an operation elsewhere, and then the connection moves on
  have hmove : conn.phase ≠ .returned → ∀ (u : State) phase, u.conns = s.conns →
      u.agents = s.agents → KeepsConns s (u.setAgent i { conn with phase := phase }) := by
    intro hopen u phase hconns hagents
    refine (KeepsConns.of_agents hconns hagents).trans (.setAgent _ ?_ hopen rfl rfl)
    rw [hagents]
    exact hconn
  cases hphase : conn.phase with
  | reading | returned =>
    simp only [deliver, hphase] at h
    cases h
  | responding j response =>
    simp only [deliver, hphase] at h
    cases h
    refine hmove (by simp [hphase]) _ _ ?_ ?_
    · unfold respond
      split <;> rfl
    · unfold respond
      split <;> rfl
  | enqueueing msg reg =>
    simp only [deliver, hphase] at h
    cases henq : s.enqueue reg msg (.agent conn.robotID) with
    | some u =>
      rw [henq] at h
      cases h
      have hsame := sameAgents_enqueue henq
      exact hmove (by simp [hphase]) u _ hsame.conns hsame.agents
    | none =>
      rw [henq] at h
      simp only at h
      split_ifs at h
      · cases h
        exact hmove (by simp [hphase]) s _ rfl rfl
      · cases h
        exact hmove (by simp [hphase]) s _ rfl rfl
  | dropping msg reg =>
    simp only [deliver, hphase] at h
    cases h
    have hsame := sameAgents_dropOldest_getD (s := s) reg
    exact hmove (by simp [hphase]) _ _ hsame.conns hsame.agents
  | retrying msg reg =>
    simp only [deliver, hphase] at h
    cases h
    have hsame := sameAgents_enqueue_getD (s := s) reg msg (.agent conn.robotID)
    exact hmove (by simp [hphase]) _ _ hsame.conns hsame.agents

/-- A step of a call. -/
theorem keepsConns_callSend {j : Nat} {call : Call} : KeepsConns s (s.callSend j call) := by
  unfold callSend
  cases hsend : s.send call.robotID call.request with
  | none => exact .of_agents rfl rfl
  | some u =>
    obtain ⟨n, -, hon⟩ := Option.bind_eq_some_iff.mp hsend
    have hkeeps := keepsConns_sendOn hon
    exact ⟨hkeeps.conns, hkeeps.accepted⟩

/-! ## Connecting and disconnecting -/

/-- A new relay connection is not a control connection. -/
theorem keepsConns_newRelay {robotID : Str} (hconns : t.conns = s.conns)
    (hagents : t.agents = s.agents ++ [⟨.relay, robotID, [], .reading⟩]) : KeepsConns s t := by
  refine ⟨hconns, fun i conn hi hconn => ?_⟩
  rw [hagents] at hi
  rcases Tasks.of_append hi with ⟨-, rfl⟩ | ⟨-, hold⟩
  · cases hconn
  · exact ⟨conn, hold, hconn, rfl⟩

/-- A control connection that is accepted: the map had none under its text. -/
theorem Current.connect (h : Current robotOf s) {robotID : Str} (hnone : s.conns robotID = none)
    (htext : ∀ conn ∈ s.agents, conn.isAccepted = true →
      robotOf conn.robotID = robotOf robotID → conn.robotID = robotID) :
    Current robotOf { s with
      conns := Function.update s.conns robotID (some s.agents.length)
      agents := s.agents ++ [⟨.control, robotID, [], .reading⟩] } := by
  have hold : ∀ conn ∈ s.agents, conn.isAccepted = true → conn.robotID ≠ robotID := by
    intro conn hmem hconn heq
    obtain ⟨i, hi⟩ := List.mem_iff_getElem?.mp hmem
    have hcur := h.current i conn hi hconn
    rw [heq, hnone] at hcur
    cases hcur
  refine ⟨fun i conn hi hconn => ?_, fun conn₁ hmem₁ conn₂ hmem₂ h₁ h₂ hrobot => ?_⟩
  · rcases Tasks.of_append hi with ⟨rfl, rfl⟩ | ⟨-, hi⟩
    · exact Function.update_self _ _ _
    · rw [← h.current i conn hi hconn]
      exact Function.update_of_ne (hold conn (List.mem_of_getElem? hi) hconn) _ _
  -- the new connection against the old ones, either way round
  · rcases List.mem_append.mp hmem₁ with hold₁ | hnew₁ <;>
      rcases List.mem_append.mp hmem₂ with hold₂ | hnew₂
    · exact h.text conn₁ hold₁ conn₂ hold₂ h₁ h₂ hrobot
    · rw [List.mem_singleton.mp hnew₂] at hrobot ⊢
      exact htext conn₁ hold₁ h₁ hrobot
    · rw [List.mem_singleton.mp hnew₁] at hrobot ⊢
      exact (htext conn₂ hold₂ h₂ hrobot.symm).symm
    · rw [List.mem_singleton.mp hnew₁, List.mem_singleton.mp hnew₂]

theorem agents_agentDisconnect (s : State) (i : Nat) (conn : AgentConn) :
    (s.agentDisconnect i conn).agents = s.agents.set i { conn with phase := .returned } := by
  unfold State.agentDisconnect
  simp only
  split <;> split_ifs <;> rfl

/-- A connection that is unregistered takes nothing out of the map but itself. -/
theorem conns_agentDisconnect {robotID : Str} {n : Nat} (hcur : s.conns robotID = some n)
    (hn : n ≠ i) : (s.agentDisconnect i conn).conns robotID = some n := by
  unfold State.agentDisconnect
  simp only
  split
  · split_ifs with hown
    · have hne : robotID ≠ conn.robotID := by
        rintro rfl
        exact hn (Option.some.inj (hcur.symm.trans hown))
      exact (Function.update_of_ne hne _ _).trans hcur
    · exact hcur
  · split_ifs <;> exact hcur

/-- A disconnect keeps the connections current. -/
theorem Current.agentDisconnect (h : Current robotOf s) :
    Current robotOf (s.agentDisconnect i conn) := by
  have hother : ∀ (n : Nat) (x : AgentConn), (s.agentDisconnect i conn).agents[n]? = some x →
      x.isAccepted = true → n ≠ i ∧ s.agents[n]? = some x := by
    intro n x hx hacc
    rw [agents_agentDisconnect] at hx
    rcases Tasks.of_set hx with ⟨-, rfl⟩ | ⟨hn, hold⟩
    -- the one that is unregistered is not accepted any more
    · simp [AgentConn.isAccepted] at hacc
    · exact ⟨hn, hold⟩
  refine ⟨fun n x hx hacc => ?_, fun x hx y hy hxa hya hrobot => ?_⟩
  · obtain ⟨hn, hold⟩ := hother n x hx hacc
    exact conns_agentDisconnect (h.current n x hold hacc) hn
  · obtain ⟨n, hn⟩ := List.mem_iff_getElem?.mp hx
    obtain ⟨m, hm⟩ := List.mem_iff_getElem?.mp hy
    exact h.text x (List.mem_of_getElem? (hother n x hn hxa).2) y
      (List.mem_of_getElem? (hother m y hm hya).2) hxa hya hrobot

/-- **Every step keeps the invariant** under `reject_new`, if a robot keeps its text. -/
theorem Current.step (hpolicy : env.rejectNew = true) {a : Step} (h : Current robotOf s)
    (hcond : s.KeepsText robotOf a) (hstep : s.step env a = some t) : Current robotOf t := by
  cases a with
  | session a =>
    have hsame := sameAgents_sessionStep hstep
    exact h.keeps (.of_agents hsame.conns hsame.agents)
  | agent a =>
    cases a with
    | agentConnect kind robotID apiKey =>
      simp only [State.step, agentStep, agentConnect] at hstep
      cases kind with
      | control =>
        simp only [hpolicy, and_true] at hstep
        split_ifs at hstep with hauth hsome
        -- turned away, with the map as it was
        · cases hstep
          exact h
        · cases hstep
          exact h.connect (Option.not_isSome_iff_eq_none.mp hsome) hcond
      | relay =>
        simp only at hstep
        split_ifs at hstep
        cases hstep
        exact h.keeps (keepsConns_newRelay rfl rfl)
    | receive i msg cooled =>
      obtain ⟨conn, hconn, hstep⟩ := Option.bind_eq_some_iff.mp hstep
      split_ifs at hstep with hreading
      cases hstep
      exact h.keeps (keepsConns_receive hconn hreading)
    | deliver i =>
      obtain ⟨conn, hconn, hstep⟩ := Option.bind_eq_some_iff.mp hstep
      exact h.keeps (keepsConns_deliver hconn hstep)
    | writePump i =>
      obtain ⟨conn, hconn, hstep⟩ := Option.bind_eq_some_iff.mp hstep
      split at hstep
      · cases hstep
      · cases hstep
        exact h.keeps (.setSend hconn _)
    | agentDisconnect i =>
      obtain ⟨conn, hconn, hstep⟩ := Option.bind_eq_some_iff.mp hstep
      split_ifs at hstep
      cases hstep
      exact h.agentDisconnect
    | call kind robotID requestID body =>
      cases hstep
      exact h.keeps (.of_agents rfl rfl)
    | callSend j =>
      obtain ⟨call, -, hstep⟩ := Option.bind_eq_some_iff.mp hstep
      split_ifs at hstep
      cases hstep
      exact h.keeps keepsConns_callSend
    | callReturn j =>
      obtain ⟨call, -, hstep⟩ := Option.bind_eq_some_iff.mp hstep
      split_ifs at hstep
      obtain ⟨r, -, rfl⟩ := Option.map_eq_some_iff.mp hstep
      exact h.keeps (.of_agents rfl rfl)
    | callPend j | callTimeout j | callDelete j =>
      obtain ⟨call, -, hstep⟩ := Option.bind_eq_some_iff.mp hstep
      split_ifs at hstep
      cases hstep
      exact h.keeps (.of_agents rfl rfl)

end Identity

end State

/-- **One control connection for each robot**, as long as every robot connects with the text of the
connection it has: `robotOf` is the UUID that a text stands for. -/
theorem onePerRobot_of_keepsText (env : Env) (hpolicy : env.rejectNew = true) {ρ : Type*}
    (robotOf : Str → ρ) (steps : List Step) (s : State)
    (hrun : (machine env).run (machine env).init steps = some s)
    (hcond : (machine env).Along (State.KeepsText robotOf) (machine env).init steps) :
    s.OnePerRobot robotOf := by
  have hinit : State.Current robotOf (machine env).init :=
    ⟨fun i conn hi => by simp [machine] at hi, fun conn hmem => by simp [machine] at hmem⟩
  refine ((machine env).along_invariant (fun s a t hs hP hstep => ?_) hinit hcond hrun).onePerRobot
  exact hs.step hpolicy hP hstep

/-! ## Two texts of one UUID -/

/-- The value of a UUID that is written with or without hyphens, in either case: its digits. -/
def uuidValue (text : Str) : Option Str :=
  let folded := text.map asciiFold
  -- `uuid.Parse` takes the form with hyphens and the one without
  if isStandardUUID folded then some (folded.filter (· ≠ '-'))
  else if folded.length = 32 ∧ folded.all (hexChars.contains ·) = true then some folded
  else none

/-- A deployment with one robot, whose identity store compares UUIDs. -/
def uuidEnv : Env where
  validID text := (uuidValue text).isSome
  resolveControl text apiKey := uuidValue text == uuidValue robotA && apiKey == ['p']
  robotOwnedBy _ _ := true
  fold := asciiFold
  parseTime _ := none
  rejectNew := true

instance (s : State) : ∀ a, Decidable (s.KeepsText uuidValue a)
  | .agent (.agentConnect .control _ _) => inferInstanceAs (Decidable (∀ conn ∈ s.agents, _))
  | .agent (.agentConnect .relay _ _) | .agent (.receive ..) | .agent (.deliver _)
  | .agent (.writePump _) | .agent (.agentDisconnect _) | .agent (.call ..) | .agent (.callPend _)
  | .agent (.callSend _) | .agent (.callReturn _) | .agent (.callTimeout _)
  | .agent (.callDelete _) | .session _ => isTrue trivial

/-- The robot connects with one text, and then with another. -/
def twiceSteps (first second : Str) : List Step :=
  [.agent (.agentConnect .control first ['p']), .agent (.agentConnect .control second ['p'])]

/-- With the same text, the second connection is turned away. -/
theorem onePerRobot_twiceSteps :
    ∃ s, (machine uuidEnv).run (machine uuidEnv).init (twiceSteps robotA robotA) = some s ∧
      s.agents.length = 1 ∧ s.OnePerRobot uuidValue := by
  obtain ⟨s, hs, hlen⟩ := (machine uuidEnv).exists_run (twiceSteps robotA robotA)
    (fun s => s.agents.length = 1) (by decide)
  exact ⟨s, hs, hlen, onePerRobot_of_keepsText uuidEnv rfl uuidValue _ s hs (by decide)⟩

/-- **A robot can have two control connections under `reject_new`**: one under its UUID in small
letters, one under the same UUID in capitals and without hyphens. -/
theorem onePerRobot_fails :
    uuidEnv.rejectNew = true ∧ (∀ text, uuidEnv.validID text = (uuidValue text).isSome) ∧
    (∀ text text' apiKey, uuidValue text = uuidValue text' →
      uuidEnv.resolveControl text apiKey = uuidEnv.resolveControl text' apiKey) ∧
    ∃ steps s, (machine uuidEnv).run (machine uuidEnv).init steps = some s ∧
      (∀ conn ∈ s.agents, conn.isAccepted = true ∧ uuidValue conn.robotID = uuidValue robotA) ∧
      s.agents.length = 2 ∧ ¬ s.OnePerRobot uuidValue := by
  refine ⟨rfl, fun _ => rfl, fun text text' apiKey h => ?_, ?_⟩
  · simp only [uuidEnv, h]
  · obtain ⟨s, hs, hagents⟩ := (machine uuidEnv).exists_run
      (twiceSteps robotA (List.replicate 32 'A'))
      (fun s => s.agents = [⟨.control, robotA, [], .reading⟩,
        ⟨.control, List.replicate 32 'A', [], .reading⟩]) (by decide)
    refine ⟨_, s, hs, ?_, by simp [hagents], fun hone => ?_⟩
    · rw [hagents]
      decide
    · have h01 := hone 0 1 _ _ (by rw [hagents]; rfl) (by rw [hagents]; rfl) rfl rfl (by decide)
      cases h01

end Roboat.Relay
