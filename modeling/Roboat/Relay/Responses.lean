import Roboat.Relay.Hub

/-! # Requests and responses

`SendCommand` and `SendStatusQuery` draw a request id, enter a channel under it in `pending`, send
the request and wait for the channel or for the time. `deliverResponse` takes the entry of its id
out of `pending` and then puts the response in the channel it found. The three race on the entry
and on the channel.

The order in which they meet is the order of two kinds of events: a call enters its id, and
`deliverResponse` looks an id up (`ResponseEvent`). Everything that is said about responses is said
about the trace of these events. -/

namespace Roboat.Relay

/-- The events by which requests and responses meet. -/
inductive ResponseEvent where
  /-- Call `j` enters its id in `pending`. -/
  | pended (j : Nat) (requestID : Str)
  /-- `deliverResponse` looks up an id (trimmed) and finds the channel of a call, or none: it
  returns whether it found one. -/
  | delivered (requestID response : Str) (source : Source) (found : Option Nat)
  deriving DecidableEq, Repr

namespace ResponseEvent

/-- A call of `deliverResponse` for this id. -/
def isFor (requestID : Str) : ResponseEvent → Bool
  | delivered k _ _ _ => k = requestID
  | pended _ _ => false

/-- A call of `deliverResponse` for this id that returns `true`. -/
def isHit (requestID : Str) : ResponseEvent → Bool
  | delivered k _ _ found => k = requestID && found.isSome
  | pended _ _ => false

theorem isHit_eq_false {k : Str} {e : ResponseEvent} (h : e.isFor k = false) :
    e.isHit k = false := by
  cases e with
  | pended j requestID => rfl
  | delivered requestID response source found =>
    have hne : decide (requestID = k) = false := h
    simp [isHit, hne]

end ResponseEvent

namespace State

/-- The event of a step. -/
def responseEvent (s : State) : Step → Option ResponseEvent
  | .agent (.callPend j) => s.calls[j]?.map fun call => .pended j call.requestID
  | .agent (.receive i msg _) => s.agents[i]?.bind fun conn =>
    -- only the read pump of a control connection hands responses on
    if conn.kind = .control ∧ msg.type.isResponse then
      some (.delivered (trimSpace msg.requestID) msg.response (.agent conn.robotID)
        (if trimSpace msg.requestID = [] then none else s.pending (trimSpace msg.requestID)))
    else none
  | _ => none

/-- Connection `i`, of this robot, is in `deliverResponse` with the channel of call `j` in hand. -/
def Answers (s : State) (i j : Nat) (response robotID : Str) : Prop :=
  ∃ conn, s.agents[i]? = some conn ∧ conn.phase = .responding j response ∧ conn.robotID = robotID

/-- Two states with the same calls, and the same responses under way. -/
structure SameCalls (s t : State) : Prop where
  calls : t.calls = s.calls
  pending : t.pending = s.pending
  answers : ∀ i j response robotID,
    Answers t i j response robotID ↔ Answers s i j response robotID

/-! ## Moves -/

/-- The call waits, or is about to, or about to give up. -/
def CallPhase.isOpen : CallPhase → Bool
  | .pended => true
  | .waiting => true
  | .abandoned => true
  | _ => false

/-- What a step does to requests and responses, with its event. -/
inductive CallMove (s : State) : Option ResponseEvent → State → Prop
  | quiet {t : State} (h : SameCalls s t) : CallMove s none t
  | missed {t : State} (h : SameCalls s t) (k response : Str) (source : Source)
      (hmiss : k = [] ∨ s.pending k = none) :
    CallMove s (some (.delivered k response source none)) t
  | found {i j : Nat} {conn : AgentConn} {k : Str} (response : Str)
      (hconn : s.agents[i]? = some conn) (hreading : conn.phase = .reading) (hk : k ≠ [])
      (hpending : s.pending k = some j) :
    CallMove s (some (.delivered k response (.agent conn.robotID) (some j)))
      ({ s with pending := Function.update s.pending k none }.setAgent i
        { conn with phase := .responding j response })
  | respond {i j : Nat} {conn : AgentConn} {response : Str} (hconn : s.agents[i]? = some conn)
      (hphase : conn.phase = .responding j response) :
    CallMove s none ((s.respond j (response, .agent conn.robotID)).setAgent i
      { conn with phase := .reading })
  | call {call : Call} (hphase : call.phase = .begun) (hresp : call.respCh = none) :
    CallMove s none { s with calls := s.calls ++ [call] }
  | pend {j : Nat} {call : Call} (hcall : s.calls[j]? = some call) (hphase : call.phase = .begun) :
    CallMove s (some (.pended j call.requestID))
      ({ s with pending := Function.update s.pending call.requestID (some j) }.setCall j
        { call with phase := .pended })
  | wait {u : State} (h : SameCalls s u) {j : Nat} {call : Call} (hcall : s.calls[j]? = some call)
      (hopen : CallPhase.isOpen call.phase = true) {phase : CallPhase}
      (hphase : CallPhase.isOpen phase = true) :
    CallMove s none (u.setCall j { call with phase := phase })
  | take {j : Nat} {call : Call} (hcall : s.calls[j]? = some call) (hphase : call.phase = .waiting)
      {response : Str} {source : Source} (hresp : call.respCh = some (response, source)) :
    CallMove s none
      (s.setCall j { call with respCh := none, phase := .returned response source })
  | delete {j : Nat} {call : Call} (hcall : s.calls[j]? = some call)
      (hphase : call.phase = .abandoned) :
    CallMove s none
      ({ s with pending := Function.update s.pending call.requestID none }.setCall j
        { call with phase := .failed })

section Moves

variable {env : Env} {s t u : State} {i : Nat} {conn conn' : AgentConn}

theorem SameCalls.refl (s : State) : SameCalls s s := ⟨rfl, rfl, fun _ _ _ _ => Iff.rfl⟩

theorem SameAgents.sameCalls (h : SameAgents s t) : SameCalls s t := by
  refine ⟨h.calls, h.pending, fun i j response robotID => ?_⟩
  unfold Answers
  rw [h.agents]

/-- A connection changes, but not what it has in hand for call `j`. -/
theorem answers_setAgent (conn' : AgentConn) (hconn : s.agents[i]? = some conn)
    (hrobot : conn'.robotID = conn.robotID) {j : Nat}
    (hphase : ∀ response, conn'.phase = .responding j response ↔
      conn.phase = .responding j response) (n : Nat) (response robotID : Str) :
    Answers (s.setAgent i conn') n j response robotID ↔ Answers s n j response robotID := by
  constructor
  · rintro ⟨x, hx, hresponding, rfl⟩
    rcases Tasks.of_set hx with ⟨rfl, rfl⟩ | ⟨-, hold⟩
    · exact ⟨conn, hconn, (hphase response).mp hresponding, hrobot.symm⟩
    · exact ⟨x, hold, hresponding, rfl⟩
  · rintro ⟨x, hx, hresponding, rfl⟩
    by_cases hin : n = i
    · subst hin
      obtain rfl : conn = x := Option.some.inj (hconn.symm.trans hx)
      exact ⟨conn', Tasks.set_self hx, (hphase response).mpr hresponding, hrobot⟩
    · refine ⟨x, ?_, hresponding, rfl⟩
      rw [State.setAgent, List.getElem?_set_ne (Ne.symm hin)]
      exact hx

theorem SameCalls.setAgent (hconn : s.agents[i]? = some conn)
    (hrobot : conn'.robotID = conn.robotID)
    (hphase : ∀ j response, conn'.phase = .responding j response ↔
      conn.phase = .responding j response) : SameCalls s (s.setAgent i conn') :=
  ⟨rfl, rfl, fun n j response robotID =>
    answers_setAgent conn' hconn hrobot (hphase j) n response robotID⟩

theorem SameCalls.trans (h : SameCalls s t) (h' : SameCalls t u) : SameCalls s u :=
  ⟨h'.calls.trans h.calls, h'.pending.trans h.pending,
    fun i j response robotID =>
      (h'.answers i j response robotID).trans (h.answers i j response robotID)⟩

/-- A new connection has nothing in hand. -/
theorem sameCalls_append (hconn : conn.phase = .reading) (hagents : t.agents = s.agents ++ [conn])
    (hcalls : t.calls = s.calls) (hpending : t.pending = s.pending) : SameCalls s t := by
  refine ⟨hcalls, hpending, fun n j response robotID => ⟨?_, ?_⟩⟩
  · rintro ⟨x, hx, hresponding, rfl⟩
    rw [hagents] at hx
    rcases Tasks.of_append hx with ⟨-, rfl⟩ | ⟨-, hold⟩
    · rw [hconn] at hresponding
      cases hresponding
    · exact ⟨x, hold, hresponding, rfl⟩
  · rintro ⟨x, hx, hresponding, rfl⟩
    refine ⟨x, ?_, hresponding, rfl⟩
    rw [hagents]
    exact Tasks.append_of_some hx

theorem sameCalls_sendOn {msg : AgentControlMessage} (h : s.sendOn i msg = some t) :
    SameCalls s t := by
  obtain ⟨conn, queue, hconn, rfl⟩ := eq_of_sendOn h
  exact SameCalls.setAgent hconn rfl fun _ _ => Iff.rfl

theorem sameCalls_sendRelay_getD (robotID : Str) (msg : AgentControlMessage) :
    SameCalls s ((s.sendRelay robotID msg).getD s) := by
  cases hsend : s.sendRelay robotID msg with
  | none => exact .refl s
  | some u =>
    unfold sendRelay at hsend
    split_ifs at hsend
    obtain ⟨n, -, hon⟩ := Option.bind_eq_some_iff.mp hsend
    exact sameCalls_sendOn hon

/-- A connection that has no response in hand moves on, after a channel operation. -/
theorem SameCalls.move (hsame : SameAgents s u) (hconn : s.agents[i]? = some conn)
    (hrobot : conn'.robotID = conn.robotID)
    (hold : ∀ j response, conn.phase ≠ .responding j response)
    (hnew : ∀ j response, conn'.phase ≠ .responding j response) :
    SameCalls s (u.setAgent i conn') := by
  have hconn' : u.agents[i]? = some conn := by
    rw [hsame.agents]
    exact hconn
  refine hsame.sameCalls.trans (SameCalls.setAgent hconn' hrobot fun j response => ?_)
  exact iff_of_false (hnew j response) (hold j response)

/-- A received message. -/
theorem callMove_of_receive {msg : AgentControlMessage} {cooled : Bool}
    (hconn : s.agents[i]? = some conn) (hreading : conn.phase = .reading) :
    CallMove s (s.responseEvent (.agent (.receive i msg cooled)))
      (s.receive i conn msg cooled) := by
  simp only [responseEvent, receive, hconn, Option.bind_some]
  by_cases hresponse : conn.kind = .control ∧ msg.type.isResponse
  · rw [if_pos hresponse, if_pos hresponse]
    unfold receiveResponse
    simp only
    by_cases hblank : trimSpace msg.requestID = []
    · rw [if_pos hblank, if_pos hblank]
      exact .missed (.refl s) _ _ _ (Or.inl hblank)
    rw [if_neg hblank, if_neg hblank]
    cases hpending : s.pending (trimSpace msg.requestID) with
    | none => exact .missed (.refl s) _ _ _ (Or.inr hpending)
    | some j => exact .found msg.response hconn hreading hblank hpending
  rw [if_neg hresponse, if_neg hresponse]
  refine .quiet ?_
  split_ifs
  · unfold receiveRelay
    simp only
    by_cases hblank : trimSpace msg.relayID = []
    · rw [if_pos hblank]
      exact .refl s
    rw [if_neg hblank]
    cases s.relayOf (trimSpace msg.relayID) with
    | some reg => exact SameCalls.setAgent hconn rfl fun _ _ => by simp [hreading]
    | none =>
      simp only
      split_ifs
      · exact sameCalls_sendRelay_getD _ _
      · exact .refl s
  · exact .refl s

/-- The next channel operation of a connection. -/
theorem callMove_of_deliver (hconn : s.agents[i]? = some conn) (h : s.deliver i conn = some t) :
    CallMove s none t := by
  cases hphase : conn.phase with
  | reading | returned =>
    simp only [deliver, hphase] at h
    cases h
  | responding j response =>
    simp only [deliver, hphase] at h
    cases h
    exact .respond hconn hphase
  | enqueueing msg reg =>
    simp only [deliver, hphase] at h
    refine .quiet ?_
    cases henq : s.enqueue reg msg (.agent conn.robotID) with
    | some u =>
      rw [henq] at h
      cases h
      exact SameCalls.move (sameAgents_enqueue henq) hconn rfl (by simp [hphase]) (by simp)
    | none =>
      rw [henq] at h
      simp only at h
      split_ifs at h
      · cases h
        exact SameCalls.move (.refl s) hconn rfl (by simp [hphase]) (by simp)
      · cases h
        exact SameCalls.move (.refl s) hconn rfl (by simp [hphase]) (by simp)
  | dropping msg reg =>
    simp only [deliver, hphase] at h
    cases h
    exact .quiet (SameCalls.move (sameAgents_dropOldest_getD reg) hconn rfl (by simp [hphase])
      (by simp))
  | retrying msg reg =>
    simp only [deliver, hphase] at h
    cases h
    exact .quiet (SameCalls.move (sameAgents_enqueue_getD reg msg _) hconn rfl
      (by simp [hphase]) (by simp))

/-- **What a step of the hub does to requests and responses.** -/
theorem callMove_of_step {a : Step} (h : s.step env a = some t) :
    CallMove s (s.responseEvent a) t := by
  cases a with
  | session a => exact .quiet (sameAgents_sessionStep h).sameCalls
  | agent a =>
    cases a with
    | agentConnect kind robotID apiKey =>
      refine .quiet ?_
      simp only [step, agentStep, agentConnect] at h
      cases kind with
      | control =>
        simp only at h
        split_ifs at h
        · cases h
          exact .refl s
        · cases h
          exact sameCalls_append rfl rfl rfl rfl
      | relay =>
        simp only at h
        split_ifs at h
        cases h
        exact sameCalls_append rfl rfl rfl rfl
    | receive i msg cooled =>
      obtain ⟨conn, hconn, h⟩ := Option.bind_eq_some_iff.mp h
      split_ifs at h with hreading
      cases h
      exact callMove_of_receive hconn hreading
    | deliver i =>
      obtain ⟨conn, hconn, h⟩ := Option.bind_eq_some_iff.mp h
      exact callMove_of_deliver hconn h
    | writePump i =>
      obtain ⟨conn, hconn, h⟩ := Option.bind_eq_some_iff.mp h
      split at h
      · cases h
      · cases h
        exact .quiet (SameCalls.setAgent hconn rfl fun _ _ => Iff.rfl)
    | agentDisconnect i =>
      obtain ⟨conn, hconn, h⟩ := Option.bind_eq_some_iff.mp h
      split_ifs at h with hreading
      cases h
      refine .quiet ?_
      -- the maps of connections are not looked at here
      have hset : SameCalls s (s.setAgent i { conn with phase := .returned }) :=
        SameCalls.setAgent hconn rfl fun _ _ => by simp [hreading]
      unfold agentDisconnect
      simp only
      split <;> split_ifs <;> exact ⟨hset.calls, hset.pending, hset.answers⟩
    | call kind robotID requestID body =>
      cases h
      exact .call rfl rfl
    | callPend j =>
      obtain ⟨call, hcall, h⟩ := Option.bind_eq_some_iff.mp h
      split_ifs at h with hphase
      cases h
      have hevent : s.responseEvent (.agent (.callPend j))
          = some (.pended j call.requestID) := by simp [responseEvent, hcall]
      rw [hevent]
      exact .pend hcall hphase
    | callSend j =>
      obtain ⟨call, hcall, h⟩ := Option.bind_eq_some_iff.mp h
      split_ifs at h with hphase
      cases h
      have hopen : CallPhase.isOpen call.phase = true := by rw [hphase]; rfl
      unfold callSend
      cases hsend : s.send call.robotID call.request with
      | none => exact .wait (.refl s) hcall hopen rfl
      | some u =>
        obtain ⟨n, -, hon⟩ := Option.bind_eq_some_iff.mp hsend
        exact .wait (sameCalls_sendOn hon) hcall hopen rfl
    | callReturn j =>
      obtain ⟨call, hcall, h⟩ := Option.bind_eq_some_iff.mp h
      split_ifs at h with hphase
      obtain ⟨r, hresp, rfl⟩ := Option.map_eq_some_iff.mp h
      exact .take hcall hphase hresp
    | callTimeout j =>
      obtain ⟨call, hcall, h⟩ := Option.bind_eq_some_iff.mp h
      split_ifs at h with hphase
      cases h
      exact .wait (.refl s) hcall (by rw [hphase]; rfl) rfl
    | callDelete j =>
      obtain ⟨call, hcall, h⟩ := Option.bind_eq_some_iff.mp h
      split_ifs at h with hphase
      cases h
      exact .delete hcall hphase

end Moves

/-! ## Where a request is -/

/-- The call has entered its id, and `deliverResponse` was not called for it since. -/
def Since (es : List ResponseEvent) (j : Nat) (k : Str) : Prop :=
  ∃ before between, es = before ++ .pended j k :: between ∧ ∀ e ∈ between, e.isFor k = false

/-- The first `deliverResponse` for the id, after the call had entered it, has this response. -/
def AnsweredBy (es : List ResponseEvent) (j : Nat) (k response : Str) (source : Source) : Prop :=
  ∃ before between after,
    es = before ++ .pended j k :: (between ++ .delivered k response source (some j) :: after) ∧
      ∀ e ∈ between, e.isFor k = false

/-- How often `deliverResponse` has returned `true` for an id. -/
def hits (es : List ResponseEvent) (k : Str) : Nat := es.countP fun e => e.isHit k

/-- Call `j` has not returned a response. -/
def CallPhase.isUnanswered (phase : CallPhase) : Bool := CallPhase.isOpen phase || phase == .failed

/-- **Where a request is.** The response is in one place, or in none. -/
inductive CallAt (es : List ResponseEvent) (s : State) (j : Nat) (call : Call) : Prop
  /-- The id is drawn. -/
  | begun (hphase : call.phase = .begun) (hpending : s.pending call.requestID = none)
      (hresp : call.respCh = none) (hanswers : ∀ i r q, ¬ Answers s i j r q)
      (hhits : hits es call.requestID = 0)
  /-- The id is in `pending`. -/
  | entered (hphase : CallPhase.isOpen call.phase = true)
      (hpending : s.pending call.requestID = some j) (hresp : call.respCh = none)
      (hanswers : ∀ i r q, ¬ Answers s i j r q) (hhits : hits es call.requestID = 0)
      (hsince : call.requestID ≠ [] → Since es j call.requestID)
  /-- A connection has the response in hand. -/
  | inHand {i : Nat} {r q : Str} (hphase : CallPhase.isUnanswered call.phase = true)
      (hpending : s.pending call.requestID = none) (hresp : call.respCh = none)
      (hanswers : Answers s i j r q) (honly : ∀ i' r' q', Answers s i' j r' q' → i' = i)
      (hhits : hits es call.requestID = 1) (hby : AnsweredBy es j call.requestID r (.agent q))
  /-- The response is in the channel. -/
  | inChannel {r : Str} {source : Source} (hphase : CallPhase.isUnanswered call.phase = true)
      (hpending : s.pending call.requestID = none) (hresp : call.respCh = some (r, source))
      (hanswers : ∀ i r q, ¬ Answers s i j r q) (hhits : hits es call.requestID = 1)
      (hby : AnsweredBy es j call.requestID r source)
  /-- The call has failed, and no response was found for it. -/
  | closed (hphase : call.phase = .failed) (hpending : s.pending call.requestID = none)
      (hresp : call.respCh = none) (hanswers : ∀ i r q, ¬ Answers s i j r q)
      (hhits : hits es call.requestID = 0)
  /-- The call has returned the response. -/
  | returned {r : Str} {source : Source} (hphase : call.phase = .returned r source)
      (hpending : s.pending call.requestID = none) (hresp : call.respCh = none)
      (hanswers : ∀ i r q, ¬ Answers s i j r q) (hhits : hits es call.requestID = 1)
      (hby : AnsweredBy es j call.requestID r source)

/-- The invariant of runs in which request ids are unique. -/
structure Matched (es : List ResponseEvent) (s : State) : Prop where
  calls : ∀ j call, s.calls[j]? = some call → CallAt es s j call
  pending : ∀ k j, s.pending k = some j → ∃ call, s.calls[j]? = some call ∧ call.requestID = k
  answers : ∀ i j r q, Answers s i j r q → ∃ call, s.calls[j]? = some call
  /-- Only ids of calls are ever found. -/
  unknown : ∀ k, (∀ (j : Nat) call, s.calls[j]? = some call → call.requestID ≠ k) → hits es k = 0

section Matched

variable {es new : List ResponseEvent} {s t u : State} {i j : Nat} {call call' : Call} {k : Str}

theorem hits_append (h : ∀ e ∈ new, e.isHit k = false) : hits (es ++ new) k = hits es k := by
  have hnone : new.countP (fun e => e.isHit k) = 0 := by
    rw [List.countP_eq_zero]
    intro e he
    rw [h e he]
    exact Bool.false_ne_true
  rw [hits, List.countP_append, hnone]
  rfl

theorem Since.append (h : Since es j k) (hnew : ∀ e ∈ new, e.isFor k = false) :
    Since (es ++ new) j k := by
  obtain ⟨before, between, rfl, hbetween⟩ := h
  refine ⟨before, between ++ new, by simp, fun e he => ?_⟩
  rcases List.mem_append.mp he with hold | hmem
  · exact hbetween e hold
  · exact hnew e hmem

theorem AnsweredBy.append {r : Str} {source : Source} (h : AnsweredBy es j k r source)
    (new : List ResponseEvent) : AnsweredBy (es ++ new) j k r source := by
  obtain ⟨before, between, after, rfl, hbetween⟩ := h
  exact ⟨before, between, after ++ new, by simp, hbetween⟩

/-- **Frame.** A request stays where it is while its entry, the responses under way for it and the
hits for its id do not change; while it is in `pending`, nobody may ask for it at all. -/
theorem CallAt.frame (h : CallAt es s j call) (t : State) (new : List ResponseEvent)
    (hpending : t.pending call.requestID = s.pending call.requestID)
    (hanswers : ∀ i r q, Answers t i j r q ↔ Answers s i j r q)
    (hhit : ∀ e ∈ new, e.isHit call.requestID = false)
    (hfor : s.pending call.requestID = some j → call.requestID ≠ [] →
      ∀ e ∈ new, e.isFor call.requestID = false) :
    CallAt (es ++ new) t j call := by
  have hcount : hits (es ++ new) call.requestID = hits es call.requestID := hits_append hhit
  have hnone : (∀ i r q, ¬ Answers s i j r q) → ∀ i r q, ¬ Answers t i j r q :=
    fun hno i r q hanswer => hno i r q ((hanswers i r q).mp hanswer)
  cases h with
  | begun hphase hp hresp hno hhits =>
    exact .begun hphase (hpending.trans hp) hresp (hnone hno) (hcount.trans hhits)
  | entered hphase hp hresp hno hhits hsince =>
    exact .entered hphase (hpending.trans hp) hresp (hnone hno) (hcount.trans hhits)
      fun hk => (hsince hk).append (hfor hp hk)
  | inHand hphase hp hresp hanswer honly hhits hby =>
    exact .inHand hphase (hpending.trans hp) hresp ((hanswers _ _ _).mpr hanswer)
      (fun i' r' q' h' => honly i' r' q' ((hanswers i' r' q').mp h')) (hcount.trans hhits)
      (hby.append new)
  | inChannel hphase hp hresp hno hhits hby =>
    exact .inChannel hphase (hpending.trans hp) hresp (hnone hno) (hcount.trans hhits)
      (hby.append new)
  | closed hphase hp hresp hno hhits =>
    exact .closed hphase (hpending.trans hp) hresp (hnone hno) (hcount.trans hhits)
  | returned hphase hp hresp hno hhits hby =>
    exact .returned hphase (hpending.trans hp) hresp (hnone hno) (hcount.trans hhits)
      (hby.append new)

/-- A step of a call keeps the place of its request, as far as `pending` and the responses under way
decide it. -/
theorem CallAt.keep (h : CallAt es s j call) (t : State) (hpending : t.pending = s.pending)
    (hagents : t.agents = s.agents) : CallAt (es ++ []) t j call := by
  refine h.frame t [] (by rw [hpending]) (fun i r q => ?_) (fun _ he => ?_) (fun _ _ _ he => ?_)
  · unfold Answers
    rw [hagents]
  · cases he
  · cases he

/-- Calls with different positions have different ids. -/
theorem eq_of_requestID (hnodup : (s.calls.map Call.requestID).Nodup) {n : Nat}
    (hj : s.calls[j]? = some call) (hn : s.calls[n]? = some call')
    (h : call.requestID = call'.requestID) : j = n := by
  have hj' : (s.calls.map Call.requestID)[j]? = some call.requestID := by simp [hj]
  have hn' : (s.calls.map Call.requestID)[n]? = some call.requestID := by simp [hn, h]
  obtain ⟨hlt, -⟩ := List.getElem?_eq_some_iff.mp hj'
  exact (List.getElem?_inj hlt hnodup).mp (hj'.trans hn'.symm)

/-- A step that changes nothing of all this, with an event that finds nothing. -/
theorem Matched.same (h : Matched es s) (hsame : SameCalls s t)
    (hhit : ∀ e ∈ new, ∀ k, e.isHit k = false)
    (hfor : ∀ k j, s.pending k = some j → k ≠ [] → ∀ e ∈ new, e.isFor k = false) :
    Matched (es ++ new) t := by
  refine ⟨fun j call hcall => ?_, fun k j hk => ?_, fun i j r q hanswer => ?_, fun k hk => ?_⟩
  · rw [hsame.calls] at hcall
    exact (h.calls j call hcall).frame t new (by rw [hsame.pending])
      (fun i r q => hsame.answers i j r q) (fun e he => hhit e he _)
      fun hp hne => hfor _ j hp hne
  · rw [hsame.pending] at hk
    rw [hsame.calls]
    exact h.pending k j hk
  · rw [hsame.calls]
    exact h.answers i j r q ((hsame.answers i j r q).mp hanswer)
  · rw [hsame.calls] at hk
    rw [hits_append fun e he => hhit e he k]
    exact h.unknown k hk

/-- A step of one request: the others stay where they are. -/
theorem Matched.one (h : Matched es s) (hnodup : (s.calls.map Call.requestID).Nodup)
    (call' : Call) (new : List ResponseEvent) (hcall : s.calls[j]? = some call)
    (hcall' : t.calls[j]? = some call')
    (hid : call'.requestID = call.requestID) (hcalls : ∀ n, n ≠ j → t.calls[n]? = s.calls[n]?)
    (hpending : ∀ k, k ≠ call.requestID → t.pending k = s.pending k)
    (hown : ∀ n, t.pending call.requestID = some n → n = j)
    (hanswers : ∀ i n r q, n ≠ j → (Answers t i n r q ↔ Answers s i n r q))
    (hnew : ∀ e ∈ new, ∀ k, k ≠ call.requestID → e.isFor k = false)
    (hat : CallAt (es ++ new) t j call') : Matched (es ++ new) t := by
  have hne : ∀ n c, n ≠ j → s.calls[n]? = some c → c.requestID ≠ call.requestID :=
    fun n c hn hc heq => hn (eq_of_requestID hnodup hc hcall heq)
  refine ⟨fun n c hc => ?_, fun k n hk => ?_, fun i n r q hanswer => ?_, fun k hk => ?_⟩
  · by_cases hn : n = j
    · subst hn
      obtain rfl : call' = c := Option.some.inj (hcall'.symm.trans hc)
      exact hat
    · rw [hcalls n hn] at hc
      have hdiff := hne n c hn hc
      exact (h.calls n c hc).frame t new (hpending _ hdiff) (fun i r q => hanswers i n r q hn)
        (fun e he => ResponseEvent.isHit_eq_false (hnew e he _ hdiff))
        fun _ _ e he => hnew e he _ hdiff
  · by_cases hid' : k = call.requestID
    · subst hid'
      obtain rfl := hown n hk
      exact ⟨call', hcall', hid⟩
    · rw [hpending k hid'] at hk
      obtain ⟨c, hc, rfl⟩ := h.pending k n hk
      have hn : n ≠ j := by
        rintro rfl
        obtain rfl : call = c := Option.some.inj (hcall.symm.trans hc)
        exact hid' rfl
      exact ⟨c, (hcalls n hn).trans hc, rfl⟩
  · by_cases hn : n = j
    · exact ⟨call', by rw [hn]; exact hcall'⟩
    · rw [hcalls n hn]
      exact h.answers i n r q ((hanswers i n r q hn).mp hanswer)
  · have hk' : k ≠ call.requestID := fun heq => hk j call' hcall' (hid.trans heq.symm)
    rw [hits_append fun e he => ResponseEvent.isHit_eq_false (hnew e he k hk')]
    refine h.unknown k fun n c hc => ?_
    by_cases hn : n = j
    · subst hn
      obtain rfl : call = c := Option.some.inj (hcall.symm.trans hc)
      exact hk'.symm
    · exact hk n c ((hcalls n hn).trans hc)

/-- A step of one request that is a step of its call. -/
theorem Matched.setCall (h : Matched es s) (hnodup : (s.calls.map Call.requestID).Nodup)
    (call' : Call) (p : Str → Option Nat) (new : List ResponseEvent)
    (hcall : s.calls[j]? = some call) (hid : call'.requestID = call.requestID)
    (hpending : ∀ k, k ≠ call.requestID → p k = s.pending k)
    (hown : ∀ n, p call.requestID = some n → n = j)
    (hnew : ∀ e ∈ new, ∀ k, e.isFor k = false)
    (hat : CallAt (es ++ new) ({ s with pending := p }.setCall j call') j call') :
    Matched (es ++ new) ({ s with pending := p }.setCall j call') :=
  h.one hnodup call' new hcall (Tasks.set_self hcall) hid
    (fun _ hn => List.getElem?_set_ne (Ne.symm hn)) hpending hown
    (fun _ _ _ _ _ => Iff.rfl) (fun e he k _ => hnew e he k) hat

/-- The entry of an id belongs to its call. -/
theorem Matched.own (h : Matched es s) (hnodup : (s.calls.map Call.requestID).Nodup)
    (hcall : s.calls[j]? = some call) (n : Nat) (hn : s.pending call.requestID = some n) :
    n = j := by
  obtain ⟨c, hc, heq⟩ := h.pending _ n hn
  exact eq_of_requestID hnodup hc hcall heq

/-- `deliverResponse` finds the channel of a call. -/
theorem Matched.found (h : Matched es s) (hnodup : (s.calls.map Call.requestID).Nodup)
    {conn : AgentConn} (response : Str) (hconn : s.agents[i]? = some conn)
    (hreading : conn.phase = .reading) (hk : k ≠ []) (hpending : s.pending k = some j) :
    Matched (es ++ [ResponseEvent.delivered k response (.agent conn.robotID) (some j)])
      ({ s with pending := Function.update s.pending k none }.setAgent i
        { conn with phase := .responding j response }) := by
  obtain ⟨call, hcall, rfl⟩ := h.pending k j hpending
  have hnone := Function.update_self call.requestID none s.pending
  cases h.calls j call hcall with
  | begun _ hp | inHand _ hp | inChannel _ hp | closed _ hp | returned _ hp =>
    rw [hp] at hpending
    cases hpending
  -- the entry is gone with the lookup, before the channel gets anything
  | entered hphase hp hresp hanswers hhits hsince =>
    refine h.one hnodup call _ hcall hcall rfl (fun _ _ => rfl)
      (fun k hne => Function.update_of_ne hne _ _) (fun n hn => ?_) (fun n m r q hm => ?_)
      (fun e he k hne => ?_) (.inHand ?_ hnone hresp ⟨_, Tasks.set_self hconn, rfl, rfl⟩ ?_ ?_ ?_)
    · cases hnone.symm.trans hn
    · exact answers_setAgent { conn with phase := .responding j response } hconn rfl
        (fun r => by simp [hreading, Ne.symm hm]) n r q
    · rw [List.mem_singleton.mp he]
      exact decide_eq_false (Ne.symm hne)
    · simp [CallPhase.isUnanswered, hphase]
    · rintro n r q ⟨x, hx, hresponding, -⟩
      rcases Tasks.of_set hx with ⟨hn, -⟩ | ⟨-, hold⟩
      · exact hn
      · exact absurd ⟨x, hold, hresponding, rfl⟩ (hanswers n r x.robotID)
    · rw [hits, List.countP_append, ← hits, hhits]
      simp [ResponseEvent.isHit]
    · obtain ⟨before, between, hes, hbetween⟩ := hsince hk
      exact ⟨before, between, [], by simp [hes], hbetween⟩

/-- The response that a connection has in hand is put in the channel. -/
theorem Matched.respond (h : Matched es s) (hnodup : (s.calls.map Call.requestID).Nodup)
    {conn : AgentConn} {response : Str} (hconn : s.agents[i]? = some conn)
    (hphase : conn.phase = .responding j response) :
    Matched (es ++ []) ((s.respond j (response, .agent conn.robotID)).setAgent i
      { conn with phase := .reading }) := by
  have hanswer : Answers s i j response conn.robotID := ⟨conn, hconn, hphase, rfl⟩
  obtain ⟨call, hcall⟩ := h.answers i j response conn.robotID hanswer
  cases h.calls j call hcall with
  -- in every other place nobody has a response in hand
  | begun _ _ _ hno | entered _ _ _ hno | inChannel _ _ _ hno | closed _ _ _ hno
    | returned _ _ _ hno => exact absurd hanswer (hno i response conn.robotID)
  | inHand hunanswered hp hresp hown honly hhits hby =>
    -- the one response in hand is the one that arrives
    obtain rfl := honly i response conn.robotID hanswer
    obtain ⟨conn', hconn', hphase', rfl⟩ := hown
    obtain rfl : conn = conn' := Option.some.inj (hconn.symm.trans hconn')
    cases hphase.symm.trans hphase'
    have hstate : s.respond j (response, .agent conn.robotID)
        = s.setCall j { call with respCh := some (response, .agent conn.robotID) } := by
      unfold State.respond
      rw [hcall]
      simp only [hresp, Option.none_or]
    rw [hstate]
    refine h.one hnodup { call with respCh := some (response, .agent conn.robotID) } [] hcall
      (Tasks.set_self hcall) rfl (fun _ hn => List.getElem?_set_ne (Ne.symm hn))
      (fun _ _ => rfl) (h.own hnodup hcall) (fun n m r q hm => ?_) (fun _ he => ?_)
      (.inChannel hunanswered hp rfl ?_ ?_ (hby.append []))
    · exact answers_setAgent { conn with phase := .reading } hconn rfl
        (fun r => by simp [hphase, Ne.symm hm]) n r q
    · cases he
    · rintro n r q ⟨x, hx, hresponding, -⟩
      rcases Tasks.of_set hx with ⟨-, rfl⟩ | ⟨hn, hold⟩
      · cases hresponding
      · exact hn (honly n r x.robotID ⟨x, hold, hresponding, rfl⟩)
    · rw [List.append_nil]
      exact hhits

/-- A new call: its id is new. -/
theorem Matched.newCall (h : Matched es s)
    (hnodup : ((s.calls ++ [call]).map Call.requestID).Nodup) (hphase : call.phase = .begun)
    (hresp : call.respCh = none) : Matched (es ++ []) { s with calls := s.calls ++ [call] } := by
  have hnew : ∀ (j : Nat) c, s.calls[j]? = some c → c.requestID ≠ call.requestID := by
    intro j c hc heq
    rw [List.map_append, List.nodup_append] at hnodup
    refine hnodup.2.2 c.requestID ?_ call.requestID (by simp) heq
    exact List.mem_map_of_mem (List.mem_of_getElem? hc)
  refine ⟨fun j c hc => ?_, fun k j hk => ?_, fun i j r q hanswer => ?_, fun k hk => ?_⟩
  · rcases Tasks.of_append hc with ⟨rfl, rfl⟩ | ⟨-, hold⟩
    · refine .begun hphase (Option.eq_none_iff_forall_ne_some.mpr fun n hn => ?_) hresp ?_ ?_
      · obtain ⟨c', hc', heq⟩ := h.pending _ n hn
        exact hnew n c' hc' heq
      · intro i r q hanswer
        obtain ⟨c', hc'⟩ := h.answers i _ r q hanswer
        rw [List.getElem?_eq_none (le_refl _)] at hc'
        cases hc'
      · rw [List.append_nil]
        exact h.unknown _ hnew
    · exact (h.calls j c hold).keep _ rfl rfl
  · obtain ⟨c, hc, heq⟩ := h.pending k j hk
    exact ⟨c, Tasks.append_of_some hc, heq⟩
  · obtain ⟨c, hc⟩ := h.answers i j r q hanswer
    exact ⟨c, Tasks.append_of_some hc⟩
  · rw [List.append_nil]
    exact h.unknown k fun j c hc => hk j c (Tasks.append_of_some hc)

/-- A call enters its id. -/
theorem Matched.pend (h : Matched es s) (hnodup : (s.calls.map Call.requestID).Nodup)
    (hcall : s.calls[j]? = some call) (hphase : call.phase = .begun) :
    Matched (es ++ [ResponseEvent.pended j call.requestID])
      ({ s with pending := Function.update s.pending call.requestID (some j) }.setCall j
        { call with phase := .pended }) := by
  have hsome := Function.update_self call.requestID (some j) s.pending
  have hfor : ∀ e ∈ [ResponseEvent.pended j call.requestID], ∀ k, e.isFor k = false := by
    intro e he k
    rw [List.mem_singleton.mp he]
    rfl
  cases h.calls j call hcall with
  | entered hopen | inHand hopen | inChannel hopen =>
    rw [hphase] at hopen
    cases hopen
  | closed hother | returned hother =>
    rw [hphase] at hother
    cases hother
  | begun _ hp hresp hno hhits =>
    refine h.setCall hnodup { call with phase := .pended } _ _ hcall rfl
      (fun k hne => Function.update_of_ne hne _ _) (fun n hn => ?_) hfor
      (.entered rfl hsome hresp hno ?_ fun _ => ⟨es, [], rfl, fun e he => ?_⟩)
    · exact (Option.some.inj (hsome.symm.trans hn)).symm
    · rw [hits_append fun e he => ResponseEvent.isHit_eq_false (hfor e he _)]
      exact hhits
    · cases he

/-- A call goes on waiting, or gives up waiting. -/
theorem Matched.wait (h : Matched es s) (hnodup : (s.calls.map Call.requestID).Nodup)
    (hcall : s.calls[j]? = some call) (hopen : CallPhase.isOpen call.phase = true)
    {phase : CallPhase} (hphase : CallPhase.isOpen phase = true) :
    Matched (es ++ []) (s.setCall j { call with phase := phase }) := by
  have hunanswered : CallPhase.isUnanswered phase = true := by simp [CallPhase.isUnanswered, hphase]
  refine h.setCall hnodup { call with phase := phase } s.pending [] hcall rfl (fun _ _ => rfl)
    (h.own hnodup hcall) (fun _ he => ?_) ?_
  · cases he
  · cases (h.calls j call hcall).keep (s.setCall j { call with phase := phase }) rfl rfl with
    | begun hother | closed hother | returned hother =>
      rw [hother] at hopen
      cases hopen
    | entered _ hp hresp hno hhits hsince => exact .entered hphase hp hresp hno hhits hsince
    | inHand _ hp hresp hanswer honly hhits hby =>
      exact .inHand hunanswered hp hresp hanswer honly hhits hby
    | inChannel _ hp hresp hno hhits hby => exact .inChannel hunanswered hp hresp hno hhits hby

/-- A call takes its response. -/
theorem Matched.take (h : Matched es s) (hnodup : (s.calls.map Call.requestID).Nodup)
    (hcall : s.calls[j]? = some call) {response : Str} {source : Source}
    (hresp : call.respCh = some (response, source)) :
    Matched (es ++ [])
      (s.setCall j { call with respCh := none, phase := .returned response source }) := by
  refine h.setCall hnodup { call with respCh := none, phase := .returned response source } s.pending
    [] hcall rfl (fun _ _ => rfl) (h.own hnodup hcall) (fun _ he => ?_) ?_
  · cases he
  · cases (h.calls j call hcall).keep
      (s.setCall j { call with respCh := none, phase := .returned response source }) rfl rfl with
    | begun _ _ hnone | entered _ _ hnone | inHand _ _ hnone | closed _ _ hnone
      | returned _ _ hnone =>
        rw [hnone] at hresp
        cases hresp
    | inChannel _ hp hsome hno hhits hby =>
      cases hsome.symm.trans hresp
      exact .returned rfl hp rfl hno hhits hby

/-- A call that has given up takes its id back. -/
theorem Matched.delete (h : Matched es s) (hnodup : (s.calls.map Call.requestID).Nodup)
    (hcall : s.calls[j]? = some call) (hphase : call.phase = .abandoned) :
    Matched (es ++ [])
      ({ s with pending := Function.update s.pending call.requestID none }.setCall j
        { call with phase := .failed }) := by
  have hp := Function.update_self call.requestID none s.pending
  refine h.setCall hnodup { call with phase := .failed } _ [] hcall rfl
    (fun k hne => Function.update_of_ne hne _ _) (fun n hn => ?_) (fun _ he => ?_) ?_
  · cases hp.symm.trans hn
  · cases he
  · rw [List.append_nil]
    cases h.calls j call hcall with
    | begun hother | closed hother | returned hother =>
      rw [hphase] at hother
      cases hother
    -- a response that was found before stays where it is, and is lost
    | entered _ _ hresp hno hhits _ => exact .closed rfl hp hresp hno hhits
    | inHand _ _ hresp hanswer honly hhits hby =>
      exact .inHand rfl hp hresp hanswer honly hhits hby
    | inChannel _ _ hresp hno hhits hby => exact .inChannel rfl hp hresp hno hhits hby

/-- A call keeps its id. -/
theorem requestIDs_set {calls : List Call} (call' : Call) (hcall : calls[j]? = some call)
    (hid : call'.requestID = call.requestID) :
    calls.map Call.requestID <+: (calls.set j call').map Call.requestID := by
  simp only [Tasks.map_set_of_eq Call.requestID hcall hid, List.prefix_rfl]

/-- Ids are only added. -/
theorem CallMove.requestIDs {e : Option ResponseEvent} (h : CallMove s e t) :
    s.calls.map Call.requestID <+: t.calls.map Call.requestID := by
  cases h with
  | quiet h | missed h => simp only [h.calls, List.prefix_rfl]
  | found => exact List.prefix_rfl
  | respond =>
    unfold State.respond
    split
    · exact List.prefix_rfl
    · rename_i c hc
      exact requestIDs_set _ hc rfl
  | call =>
    rw [List.map_append]
    exact List.prefix_append _ _
  | @wait u h j c hcall hopen phase hphase =>
    have hset := requestIDs_set { c with phase := phase } hcall rfl
    rw [← h.calls] at hset ⊢
    exact hset
  | pend hcall | take hcall | delete hcall => exact requestIDs_set _ hcall rfl

/-- **The invariant in every run with unique ids.** -/
theorem matched_of_run {env : Env} {steps : List Step}
    (hrun : (machine env).run (machine env).init steps = some s)
    (hunique : (s.calls.map Call.requestID).Nodup) :
    Matched ((machine env).trace responseEvent (machine env).init steps) s := by
  -- ids are only added, so they are unique all along
  refine (machine env).run_trace
    (I := fun es s => (s.calls.map Call.requestID).Nodup → Matched es s) ?_ ?_ hrun hunique
  · intro _
    refine ⟨fun j call hcall => ?_, fun k j hk => ?_, fun i j r q hanswer => ?_, fun _ _ => rfl⟩
    · cases hcall
    · cases hk
    · obtain ⟨conn, hconn, -⟩ := hanswer
      cases hconn
  · intro es s a t h hstep hnodup
    have hmove := callMove_of_step hstep
    have hs := hnodup.sublist hmove.requestIDs.sublist
    replace h := h hs
    generalize responseEvent s a = e at hmove ⊢
    cases hmove with
    | quiet hsame => exact h.same hsame (fun _ he => nomatch he) (fun _ _ _ _ _ he => nomatch he)
    | missed hsame k response source hmiss =>
      refine h.same hsame (fun e he k' => ?_) (fun k' j hk' hne e he => ?_)
      · rw [List.mem_singleton.mp he]
        simp [ResponseEvent.isHit]
      · rw [List.mem_singleton.mp he]
        refine decide_eq_false ?_
        rintro rfl
        rcases hmiss with hblank | hnone
        · exact hne hblank
        · cases hnone.symm.trans hk'
    | found response hconn hreading hk hpending =>
      exact h.found hs response hconn hreading hk hpending
    | respond hconn hphase => exact h.respond hs hconn hphase
    | call hphase hresp => exact h.newCall hnodup hphase hresp
    | pend hcall hphase => exact h.pend hs hcall hphase
    | @wait u hsame j call hcall hopen phase hphase =>
      have hu : Matched (es ++ []) u :=
        h.same hsame (fun _ he => nomatch he) (fun _ _ _ _ _ he => nomatch he)
      rw [List.append_nil] at hu
      refine hu.wait ?_ ?_ hopen hphase
      · rw [hsame.calls]
        exact hs
      · rw [hsame.calls]
        exact hcall
    | take hcall hphase hresp => exact h.take hs hcall hresp
    | delete hcall hphase => exact h.delete hs hcall hphase

/-- `deliverResponse` has found a channel at most once for each id. -/
theorem Matched.hits_le (h : Matched es s) (k : Str) : hits es k ≤ 1 := by
  by_cases hk : ∃ (j : Nat) (call : Call), s.calls[j]? = some call ∧ call.requestID = k
  · obtain ⟨j, call, hcall, rfl⟩ := hk
    cases h.calls j call hcall with
    | begun _ _ _ _ hhits | entered _ _ _ _ hhits | closed _ _ _ _ hhits | inHand _ _ _ _ _ hhits
      | inChannel _ _ _ _ hhits | returned _ _ _ _ hhits => omega
  · rw [h.unknown k fun j call hcall heq => hk ⟨j, call, hcall, heq⟩]
    exact Nat.zero_le 1

/-- The `n`-th event answers call `j`: it is the first `deliverResponse` for the id of the call, but
for those that came before the call had entered its id. -/
def IsAnswer (es : List ResponseEvent) (j : Nat) (k response : Str) (source : Source) (n : Nat) :
    Prop :=
  es[n]? = some (.delivered k response source (some j)) ∧
    ∃ m < n, es[m]? = some (.pended j k) ∧
      ∀ n' e, n' < n → es[n']? = some e → e.isFor k = true → n' < m

/-- An answered call has the event that answers it. -/
theorem AnsweredBy.exists_isAnswer {r : Str} {source : Source} (h : AnsweredBy es j k r source) :
    ∃ n, IsAnswer es j k r source n := by
  obtain ⟨before, between, after, rfl, hbetween⟩ := h
  refine ⟨before.length + 1 + between.length, ?_, before.length, by omega, by simp, ?_⟩
  · rw [List.getElem?_append_right (by omega), show before.length + 1 + between.length
      - before.length = between.length + 1 by omega, List.getElem?_cons_succ,
      List.getElem?_append_right (le_refl _), Nat.sub_self]
    rfl
  · intro n e hn he hfor
    by_contra hge
    obtain ⟨m, rfl⟩ := Nat.exists_eq_add_of_le (Nat.le_of_not_lt hge)
    rw [List.getElem?_append_right (Nat.le_add_right _ _), Nat.add_sub_cancel_left] at he
    cases m with
    | zero =>
      cases he
      cases hfor
    | succ m =>
      rw [List.getElem?_cons_succ, List.getElem?_append_left (by omega)] at he
      rw [hbetween e (List.mem_of_getElem? he)] at hfor
      cases hfor

/-- A call that has returned a response has it from an answer. -/
theorem Matched.exists_isAnswer (h : Matched es s) (hcall : s.calls[j]? = some call) {r : Str}
    {source : Source} (hphase : call.phase = .returned r source) :
    ∃ n, IsAnswer es j call.requestID r source n := by
  cases h.calls j call hcall with
  | begun hother | closed hother =>
    rw [hphase] at hother
    cases hother
  | entered hopen | inHand hopen | inChannel hopen =>
    rw [hphase] at hopen
    cases hopen
  | returned hreturned _ _ _ _ hby =>
    cases hphase.symm.trans hreturned
    exact hby.exists_isAnswer

/-- Different calls have different answers. -/
theorem Matched.exists_answers (h : Matched es s) : ∃ answer : Nat → Nat,
    (∀ (j : Nat) call r source, s.calls[j]? = some call → call.phase = .returned r source →
      IsAnswer es j call.requestID r source (answer j)) ∧
    ∀ (j j' : Nat) call call' r r' source source', s.calls[j]? = some call →
      s.calls[j']? = some call' → call.phase = .returned r source →
      call'.phase = .returned r' source' → answer j = answer j' → j = j' := by
  have hanswer : ∀ j, ∃ n, ∀ call r source, s.calls[j]? = some call →
      call.phase = .returned r source → IsAnswer es j call.requestID r source n := by
    intro j
    by_cases hj : ∃ call r source, s.calls[j]? = some call ∧ call.phase = .returned r source
    · obtain ⟨call, r, source, hcall, hphase⟩ := hj
      obtain ⟨n, hn⟩ := h.exists_isAnswer hcall hphase
      refine ⟨n, fun call' r' source' hcall' hphase' => ?_⟩
      cases hcall.symm.trans hcall'
      cases hphase.symm.trans hphase'
      exact hn
    · exact ⟨0, fun call r source hcall hphase => absurd ⟨call, r, source, hcall, hphase⟩ hj⟩
  choose answer hanswer using hanswer
  refine ⟨answer, hanswer, ?_⟩
  intro j j' call call' r r' source source' hcall hcall' hphase hphase' heq
  -- an answer names the call whose channel it has found
  have hj := (hanswer j call r source hcall hphase).1
  have hj' := (hanswer j' call' r' source' hcall' hphase').1
  rw [heq] at hj
  injection Option.some.inj (hj.symm.trans hj') with _ _ _ hfound
  exact Option.some.inj hfound

/-- The id of a call that is over is not in `pending`. -/
theorem Matched.pending_eq_none (h : Matched es s) (hcall : s.calls[j]? = some call)
    (hover : call.phase = .failed ∨ ∃ r source, call.phase = .returned r source) :
    s.pending call.requestID = none := by
  cases h.calls j call hcall with
  | begun _ hp | inHand _ hp | inChannel _ hp | closed _ hp | returned _ hp => exact hp
  | entered hopen =>
    rcases hover with hfailed | ⟨r, source, hreturned⟩
    · rw [hfailed] at hopen
      cases hopen
    · rw [hreturned] at hopen
      cases hopen

end Matched

end State

/-- **Requests and responses match.** In every run in which the calls have drawn different ids:
* the calls that have returned a response can be assigned different calls of `deliverResponse`, each
  the first one for the id of its call since the call entered it, with the response it returned;
* `deliverResponse` has returned `true` at most once for each id;
* `deliverResponse` can begin whenever a connection reads, and returns with its next step;
* the id of a call that has returned, with a response or an error, is not in `pending`. -/
theorem responses_match (env : Env) (steps : List Step) (s : State)
    (hrun : (machine env).run (machine env).init steps = some s)
    (hunique : (s.calls.map Call.requestID).Nodup) :
    let es := (machine env).trace State.responseEvent (machine env).init steps
    (∃ answer : Nat → Nat,
      (∀ (j : Nat) call r source, s.calls[j]? = some call → call.phase = .returned r source →
        State.IsAnswer es j call.requestID r source (answer j)) ∧
      ∀ (j j' : Nat) call call' r r' source source', s.calls[j]? = some call →
        s.calls[j']? = some call' → call.phase = .returned r source →
        call'.phase = .returned r' source' → answer j = answer j' → j = j') ∧
    (∀ k, State.hits es k ≤ 1) ∧
    (∀ (i : Nat) conn, s.agents[i]? = some conn →
      (conn.phase = .reading → ∀ msg cooled,
        ∃ t, s.step env (.agent (.receive i msg cooled)) = some t) ∧
      ∀ j r, conn.phase = .responding j r →
        ∃ t, s.step env (.agent (.deliver i)) = some t ∧
          t.agents[i]? = some { conn with phase := .reading }) ∧
    ∀ (j : Nat) call, s.calls[j]? = some call →
      (call.phase = .failed ∨ ∃ r source, call.phase = .returned r source) →
      s.pending call.requestID = none := by
  intro es
  have hinv : State.Matched es s := State.matched_of_run hrun hunique
  refine ⟨hinv.exists_answers, hinv.hits_le,
    fun i conn hconn => ⟨fun hphase msg cooled => ?_, fun j r hphase => ?_⟩,
    fun j call hcall hover => hinv.pending_eq_none hcall hover⟩
  · refine ⟨s.receive i conn msg cooled, ?_⟩
    simp [State.step, State.agentStep, State.onAgent, hconn, hphase]
  · refine ⟨(s.respond j (r, .agent conn.robotID)).setAgent i { conn with phase := .reading },
      by simp [State.step, State.agentStep, State.onAgent, hconn, State.deliver, hphase], ?_⟩
    have hagents : (s.respond j (r, .agent conn.robotID)).agents[i]? = some conn := by
      unfold State.respond
      split <;> exact hconn
    exact Tasks.set_self hagents

/-- A robot answers a command twice, in between an id of its own and a blank one; a second command
gets no answer in time. -/
def answeredSteps : List Step :=
  let answer (requestID : Str) : Step :=
    .agent (.receive 0
      { type := .commandResponse, requestID := requestID, response := ['y'] } false)
  [.agent (.agentConnect .control robotA ['p']), .agent (.call .command robotA ['k'] []),
    .agent (.callPend 0), .agent (.callSend 0), .agent (.call .statusQuery robotA ['l'] []),
    .agent (.callPend 1), .agent (.callSend 1), answer ['z'], answer [' ', 'k', ' '],
    .agent (.deliver 0), answer [], answer ['k'], .agent (.callReturn 0), .agent (.callTimeout 1),
    .agent (.callDelete 1)]

/-- The command returns the first answer; both ids are gone. -/
theorem responses_match_answeredSteps :
    ∃ s, (machine sampleEnv).run (machine sampleEnv).init answeredSteps = some s ∧
      s.calls.map Call.phase = [.returned ['y'] (.agent robotA), .failed] ∧
      s.calls.map (fun call => s.pending call.requestID) = [none, none] ∧
      State.hits ((machine sampleEnv).trace State.responseEvent (machine sampleEnv).init
        answeredSteps) ['k'] ≤ 1 := by
  obtain ⟨s, hs, hunique, hphases, hpending⟩ := (machine sampleEnv).exists_run answeredSteps
    (fun s => (s.calls.map Call.requestID).Nodup ∧
      s.calls.map Call.phase = [.returned ['y'] (.agent robotA), .failed] ∧
      s.calls.map (fun call => s.pending call.requestID) = [none, none]) (by decide)
  exact ⟨s, hs, hphases, hpending, (responses_match sampleEnv _ s hs hunique).2.1 ['k']⟩

end Roboat.Relay
