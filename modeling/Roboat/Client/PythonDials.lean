import Mathlib.Tactic.SplitIfs
import Roboat.Transition.Machine
import Roboat.Transition.Tasks
import Roboat.Text.Strings

/-! # Dials of the Python client

`Daemon.dial` puts a future into `_pending_dials` under a request id and waits for it; `_dispatch`
takes the future out again when a reply with that id comes. The id is made of `id(target_agent_id)`,
which is the same for two dials that are given the same string object. The second of them then takes
the place of the first in the table, and of the two replies the one that comes first goes to the
second dial and the other one to nobody.

The daemon may reply to the requests it has got in any order. `dials_matched_iff` says when every
dial gets its own reply. No dial is cancelled here, and no request fails to be written: either would
leave its future in the table. -/

namespace Roboat.Client.PythonDials

/-! ## The code -/

/-- `Stream`, as `_dispatch` makes it. -/
structure Stream where
  streamId : Nat
  class_ : Str
  fromAgentId : Str
  deriving DecidableEq, Repr

/-- What a reply of the daemon says: `connected` or `error`. -/
inductive Reply where
  | connected (streamId : Nat) (targetAgentId : Str)
  | error (message : Str)
  deriving DecidableEq, Repr

/-- What becomes of a future: its result, or the message of its exception. -/
def Reply.result : Reply → Except Str Stream
  | connected streamId targetAgentId => .ok ⟨streamId, "control".toList, targetAgentId⟩
  | error message => .error message

/-- A message of the daemon that is on its way. -/
structure Message where
  requestId : Option Str
  reply : Reply
  /-- History: the dial whose request it answers. -/
  dial : Option Nat
  deriving DecidableEq, Repr

/-- A call of `Daemon.dial`. -/
structure Dial where
  targetAgentId : Str
  streamClass : Str
  requestId : Str
  /-- `_send_msg` has written the request. -/
  sent : Bool := false
  /-- History: the reply of the daemon to the request. -/
  reply : Option Reply := none
  /-- The future. -/
  result : Option (Except Str Stream) := none
  deriving DecidableEq

structure State where
  dials : List Dial
  /-- `_pending_dials`; a future is given by its dial. -/
  pendingDials : Str → Option Nat
  /-- `_streams`. -/
  streams : Nat → Option Stream
  /-- What the daemon has written and the client has not yet read. -/
  inbox : List Message

inductive Step where
  /-- `dial` is called; `object` is `id(target_agent_id)`. -/
  | dial (object : Nat) (targetAgentId streamClass : Str)
  /-- The request of a dial is written. -/
  | send (d : Nat)
  /-- The daemon replies to the request of a dial: with a stream, or with an error. -/
  | reply (d : Nat) (outcome : Except Str Nat)
  /-- The daemon reports an error that belongs to no request. -/
  | stray (message : Str)
  /-- `_recv_loop` reads a message and dispatches it. -/
  | dispatch
  deriving DecidableEq

/-- `f"dial-{id(target_agent_id)}"`. -/
def requestIdOf (object : Nat) : Str := "dial-".toList ++ (Nat.repr object).toList

/-- The reply to a dial, as the daemon makes it. -/
def replyTo (dial : Dial) : Except Str Nat → Reply
  | .ok streamId => .connected streamId dial.targetAgentId
  | .error message => .error message

/-- The future that a message finds: `_pending_dials.pop`, and `not fut.done()`. -/
def State.taker (s : State) (m : Message) : Option Nat :=
  (m.requestId.bind s.pendingDials).filter fun d => (s.dials[d]?).any fun dial => dial.result.isNone

/-- The entry of `_streams` that a reply makes. -/
def Reply.register (reply : Reply) (streams : Nat → Option Stream) : Nat → Option Stream :=
  match reply.result with
  | .ok stream => Function.update streams stream.streamId (some stream)
  | .error _ => streams

/-- `_dispatch`, for a reply. -/
def State.dispatch (s : State) (m : Message) : State :=
  let pendingDials := match m.requestId with
    | some requestId => Function.update s.pendingDials requestId none
    | none => s.pendingDials
  match s.taker m with
  | some d =>
    { s with pendingDials := pendingDials
             streams := m.reply.register s.streams
             dials := s.dials.modify d fun dial => { dial with result := some m.reply.result } }
  | none => { s with pendingDials := pendingDials }

def State.step (s : State) : Step → Option State
  | .dial object targetAgentId streamClass =>
    some { s with
      dials := s.dials ++ [{ targetAgentId, streamClass, requestId := requestIdOf object }]
      pendingDials := Function.update s.pendingDials (requestIdOf object) (some s.dials.length) }
  | .send d =>
    (s.dials[d]?).bind fun dial =>
      if dial.sent then none
      else some { s with dials := s.dials.set d { dial with sent := true } }
  | .reply d outcome =>
    (s.dials[d]?).bind fun dial =>
      if dial.sent = true ∧ dial.reply = none then
        some { s with
          dials := s.dials.set d { dial with reply := some (replyTo dial outcome) }
          inbox := s.inbox ++ [⟨some dial.requestId, replyTo dial outcome, some d⟩] }
      else none
  | .stray message =>
    some { s with inbox := s.inbox ++ [⟨none, .error message, none⟩] }
  | .dispatch =>
    match s.inbox with
    | [] => none
    | m :: rest => some { s.dispatch m with inbox := rest }

/-- **The client and the daemon.** -/
def machine : Machine State Step where
  init := { dials := [], pendingDials := fun _ => none, streams := fun _ => none, inbox := [] }
  step := State.step

/-! ## Replies and dials -/

/-- A reply is dispatched: whose it is, and who gets it. -/
structure Taken where
  dial : Nat
  taker : Option Nat
  deriving DecidableEq, Repr

def taken (s : State) : Step → Option Taken
  | .dispatch => s.inbox.head?.bind fun m => m.dial.map fun d => ⟨d, s.taker m⟩
  | _ => none

/-- **Every request has been written, answered, and its answer dispatched.** -/
structure State.Settled (s : State) : Prop where
  replied : ∀ dial ∈ s.dials, dial.reply.isSome = true
  inbox : s.inbox = []

/-- **Dials get their own replies**: every reply was taken by the dial it was made for, and every
dial has completed with what the daemon replied to it. -/
structure Matched (steps : List Step) (s : State) : Prop where
  taken : ∀ e ∈ machine.trace taken machine.init steps, e.taker = some e.dial
  completed : ∀ dial ∈ s.dials, ∃ reply, dial.reply = some reply ∧ dial.result = some reply.result

/-- **A fresh request id**: no dial that is still waiting has the id of a new one. -/
def FreshId (s : State) : Step → Prop
  | .dial object _ _ => ∀ dial ∈ s.dials, dial.result = none → dial.requestId ≠ requestIdOf object
  | _ => True

instance : ∀ (s : State) (step : Step), Decidable (FreshId s step)
  | s, .dial .. => inferInstanceAs (Decidable (∀ dial ∈ s.dials, _))
  | _, .send _ | _, .reply .. | _, .stray _ | _, .dispatch => isTrue trivial

/-- What is known in runs with fresh ids. -/
structure Good (s : State) : Prop where
  /-- A dial that is waiting is in the table. -/
  waiting : ∀ (d : Nat) dial, s.dials[d]? = some dial → dial.result = none →
    s.pendingDials dial.requestId = some d
  table : ∀ requestId d, s.pendingDials requestId = some d →
    ∃ dial, s.dials[d]? = some dial ∧ dial.requestId = requestId
  /-- A reply on its way belongs to a dial that is waiting. -/
  inbox : ∀ m ∈ s.inbox, ∀ d, m.dial = some d → ∃ dial, s.dials[d]? = some dial ∧
    m.requestId = some dial.requestId ∧ dial.reply = some m.reply ∧ dial.result = none
  stray : ∀ m ∈ s.inbox, m.dial = none → m.requestId = none
  once : (s.inbox.filterMap Message.dial).Nodup
  /-- A dial that was replied to and is waiting has its reply on the way. -/
  replied : ∀ (d : Nat) dial, s.dials[d]? = some dial → dial.reply.isSome = true →
    dial.result = none → d ∈ s.inbox.filterMap Message.dial
  result : ∀ dial ∈ s.dials, ∀ result, dial.result = some result →
    dial.reply.map Reply.result = some result

section Good

variable {s t : State} {d : Nat} {dial : Dial} {m : Message}

/-- A new client is good. -/
theorem good_init : Good machine.init where
  waiting := nofun
  table := nofun
  inbox := nofun
  stray := nofun
  once := List.nodup_nil
  replied := nofun
  result := nofun

/-- A call with a fresh request id keeps the client good. -/
theorem Good.call (h : Good s) (object : Nat) (targetAgentId streamClass : Str)
    (hfresh : FreshId s (.dial object targetAgentId streamClass)) :
    Good { s with
      dials := s.dials ++ [{ targetAgentId, streamClass, requestId := requestIdOf object }]
      pendingDials :=
        Function.update s.pendingDials (requestIdOf object) (some s.dials.length) } where
  waiting d dial hd hnone := by
    rcases Tasks.of_append hd with ⟨rfl, rfl⟩ | ⟨-, hold⟩
    · exact Function.update_self _ _ _
    · have hne := hfresh dial (List.mem_of_getElem? hold) hnone
      exact (Function.update_of_ne hne _ _).trans (h.waiting d dial hold hnone)
  table requestId d hd := by
    by_cases hid : requestId = requestIdOf object
    · subst hid
      obtain rfl : s.dials.length = d :=
        Option.some.inj ((Function.update_self (requestIdOf object) _ s.pendingDials).symm.trans hd)
      exact ⟨_, List.getElem?_concat_length, rfl⟩
    · obtain ⟨dial, hdial, hsame⟩ :=
        h.table requestId d ((Function.update_of_ne hid _ _).symm.trans hd)
      exact ⟨dial, Tasks.append_of_some hdial, hsame⟩
  inbox m hm d hd := by
    obtain ⟨dial, hdial, hrest⟩ := h.inbox m hm d hd
    exact ⟨dial, Tasks.append_of_some hdial, hrest⟩
  stray := h.stray
  once := h.once
  replied d dial hd hreply hnone := by
    rcases Tasks.of_append hd with ⟨rfl, rfl⟩ | ⟨-, hold⟩
    · cases hreply
    · exact h.replied d dial hold hreply hnone
  result := Tasks.forall_mem_append h.result nofun

/-- A request is written. -/
theorem Good.send (h : Good s) (hdial : s.dials[d]? = some dial) :
    Good { s with dials := s.dials.set d { dial with sent := true } } where
  waiting d' dial' hd hnone := by
    rcases Tasks.of_set hd with ⟨rfl, rfl⟩ | ⟨-, hold⟩
    · exact h.waiting d' dial hdial hnone
    · exact h.waiting d' dial' hold hnone
  table requestId d' hd := Tasks.exists_set hdial (fun _ hid => hid) (h.table requestId d' hd)
  inbox m hm d' hd := Tasks.exists_set hdial (fun _ hrest => hrest) (h.inbox m hm d' hd)
  stray := h.stray
  once := h.once
  replied d' dial' hd hreply hnone := by
    rcases Tasks.of_set hd with ⟨rfl, rfl⟩ | ⟨-, hold⟩
    · exact h.replied d' dial hdial hreply hnone
    · exact h.replied d' dial' hold hreply hnone
  result := Tasks.forall_mem_set d h.result (h.result dial (List.mem_of_getElem? hdial))

theorem mem_owners {s : State} :
    d ∈ s.inbox.filterMap Message.dial ↔ ∃ m ∈ s.inbox, m.dial = some d := List.mem_filterMap

/-- The daemon replies. -/
theorem Good.reply (h : Good s) (hdial : s.dials[d]? = some dial) (hnone : dial.reply = none)
    (reply : Reply) :
    Good { s with dials := s.dials.set d { dial with reply := some reply }
                  inbox := s.inbox ++ [⟨some dial.requestId, reply, some d⟩] } := by
  -- the dial is waiting, and nothing is on its way for it
  have hwaiting : dial.result = none := by
    cases hresult : dial.result with
    | none => rfl
    | some result =>
      have hreply := h.result dial (List.mem_of_getElem? hdial) result hresult
      rw [hnone] at hreply
      cases hreply
  have hnew : d ∉ s.inbox.filterMap Message.dial := by
    intro hmem
    obtain ⟨m, hm, hd⟩ := mem_owners.mp hmem
    obtain ⟨dial', hdial', -, hreply, -⟩ := h.inbox m hm d hd
    obtain rfl := Option.some.inj (hdial.symm.trans hdial')
    rw [hnone] at hreply
    cases hreply
  refine ⟨fun d' dial' hd hnone' => ?_, fun requestId d' hd => ?_, fun m hm d' hd => ?_,
    fun m hm hstray => ?_, ?_, fun d' dial' hd hreply hnone' => ?_, ?_⟩
  · rcases Tasks.of_set hd with ⟨rfl, rfl⟩ | ⟨-, hold⟩
    · exact h.waiting d' dial hdial hnone'
    · exact h.waiting d' dial' hold hnone'
  · exact Tasks.exists_set hdial (fun _ hid => hid) (h.table requestId d' hd)
  · rcases List.mem_append.mp hm with hold | hlast
    · have hne : d ≠ d' := fun heq => hnew (heq ▸ mem_owners.mpr ⟨m, hold, hd⟩)
      obtain ⟨dial', hdial', hrest⟩ := h.inbox m hold d' hd
      exact ⟨dial', (List.getElem?_set_ne hne).trans hdial', hrest⟩
    · obtain rfl := List.mem_singleton.mp hlast
      cases hd
      exact ⟨_, Tasks.set_self hdial, rfl, rfl, hwaiting⟩
  · rcases List.mem_append.mp hm with hold | hlast
    · exact h.stray m hold hstray
    · obtain rfl := List.mem_singleton.mp hlast
      cases hstray
  · show ((s.inbox ++ [_]).filterMap Message.dial).Nodup
    rw [List.filterMap_append]
    exact h.once.append (List.nodup_singleton d) (List.disjoint_singleton.mpr hnew)
  · show d' ∈ (s.inbox ++ [_]).filterMap Message.dial
    rw [List.filterMap_append]
    rcases Tasks.of_set hd with ⟨rfl, rfl⟩ | ⟨-, hold⟩
    · exact List.mem_append_right _ (List.mem_singleton_self d')
    · exact List.mem_append_left _ (h.replied d' dial' hold hreply hnone')
  · refine Tasks.forall_mem_set d h.result fun result hresult => ?_
    have hresult' : dial.result = some result := hresult
    rw [hwaiting] at hresult'
    cases hresult'

/-- The daemon reports an error that belongs to no request. -/
theorem Good.report (h : Good s) (message : Str) :
    Good { s with inbox := s.inbox ++ [⟨none, .error message, none⟩] } := by
  have howners : (s.inbox ++ [(⟨none, .error message, none⟩ : Message)]).filterMap Message.dial
      = s.inbox.filterMap Message.dial := by
    rw [List.filterMap_append]
    exact List.append_nil _
  refine ⟨h.waiting, h.table, Tasks.forall_mem_append h.inbox nofun,
    Tasks.forall_mem_append h.stray fun _ => rfl, howners ▸ h.once, ?_, h.result⟩
  exact fun d dial hdial hreply hnone => howners ▸ h.replied d dial hdial hreply hnone

/-- **A reply finds its own dial.** -/
theorem Good.taker (h : Good s) (hm : m ∈ s.inbox) (hd : m.dial = some d) : s.taker m = some d := by
  obtain ⟨dial, hdial, hid, -, hnone⟩ := h.inbox m hm d hd
  unfold State.taker
  rw [hid, Option.bind_some, h.waiting d dial hdial hnone, Option.filter_some, hdial,
    Option.any_some, hnone]
  rfl

/-- An error that belongs to no request changes nothing. -/
theorem dispatch_stray (hstray : m.requestId = none) : s.dispatch m = s := by
  have htaker : s.taker m = none := by
    unfold State.taker
    rw [hstray]
    rfl
  unfold State.dispatch
  rw [htaker, hstray]

/-- Dispatching a reply completes the dial that takes it. -/
theorem dispatch_of_taker {requestId : Str} (hid : m.requestId = some requestId)
    (htaker : s.taker m = some d) (hdial : s.dials[d]? = some dial) :
    s.dispatch m = { s with
      pendingDials := Function.update s.pendingDials requestId none
      streams := m.reply.register s.streams
      dials := s.dials.set d { dial with result := some m.reply.result } } := by
  unfold State.dispatch
  rw [htaker, hid]
  simp only [List.modify_eq_set_getElem?, hdial]
  rfl

/-- A dial takes its reply. -/
theorem Good.take (h : Good s) {rest : List Message} (hinbox : s.inbox = m :: rest)
    (hd : m.dial = some d) (hdial : s.dials[d]? = some dial) (hreply : dial.reply = some m.reply)
    (hnone : dial.result = none) :
    Good { s with
      pendingDials := Function.update s.pendingDials dial.requestId none
      streams := m.reply.register s.streams
      dials := s.dials.set d { dial with result := some m.reply.result }
      inbox := rest } := by
  have hrest : ∀ x ∈ rest, x ∈ s.inbox := fun x hx => hinbox ▸ List.mem_cons_of_mem m hx
  have honce := h.once
  rw [hinbox, List.filterMap_cons_some hd, List.nodup_cons] at honce
  refine ⟨fun d' dial' hd' hnone' => ?_, fun requestId d' hd' => ?_, fun x hx d' hd' => ?_,
    fun x hx => h.stray x (hrest x hx), honce.2, fun d' dial' hd' hreply' hnone' => ?_, ?_⟩
  · rcases Tasks.of_set hd' with ⟨rfl, rfl⟩ | ⟨hne, hold⟩
    · cases hnone'
    · -- the table has one dial under an id
      have hother : dial'.requestId ≠ dial.requestId := by
        intro heq
        have hsame := h.waiting d' dial' hold hnone'
        rw [heq, h.waiting d dial hdial hnone] at hsame
        exact hne (Option.some.inj hsame).symm
      exact (Function.update_of_ne hother _ _).trans (h.waiting d' dial' hold hnone')
  · have hkept : Function.update s.pendingDials dial.requestId none requestId = some d' := hd'
    by_cases hid : requestId = dial.requestId
    · rw [hid, Function.update_self] at hkept
      cases hkept
    · rw [Function.update_of_ne hid] at hkept
      exact Tasks.exists_set hdial (fun _ hsame => hsame) (h.table requestId d' hkept)
  · have hne : d ≠ d' := fun heq => honce.1 (heq ▸ List.mem_filterMap.mpr ⟨x, hx, hd'⟩)
    obtain ⟨dial', hdial', hfacts⟩ := h.inbox x (hrest x hx) d' hd'
    exact ⟨dial', (List.getElem?_set_ne hne).trans hdial', hfacts⟩
  · rcases Tasks.of_set hd' with ⟨rfl, rfl⟩ | ⟨hne, hold⟩
    · cases hnone'
    · have hmem := h.replied d' dial' hold hreply' hnone'
      rw [hinbox, List.filterMap_cons_some hd] at hmem
      exact (List.mem_cons.mp hmem).resolve_left hne
  · refine Tasks.forall_mem_set d h.result fun result hresult => ?_
    show dial.reply.map Reply.result = some result
    rw [hreply]
    exact hresult

/-- A message is dispatched. -/
theorem Good.dispatch (h : Good s) {rest : List Message} (hinbox : s.inbox = m :: rest) :
    Good { s.dispatch m with inbox := rest } := by
  have hm : m ∈ s.inbox := hinbox ▸ List.mem_cons_self
  cases hd : m.dial with
  | none =>
    rw [dispatch_stray (h.stray m hm hd)]
    have hrest : ∀ x ∈ rest, x ∈ s.inbox := fun x hx => hinbox ▸ List.mem_cons_of_mem m hx
    have howners : s.inbox.filterMap Message.dial = rest.filterMap Message.dial := by
      rw [hinbox, List.filterMap_cons_none hd]
    refine ⟨h.waiting, h.table, fun x hx => h.inbox x (hrest x hx),
      fun x hx => h.stray x (hrest x hx), howners ▸ h.once, ?_, h.result⟩
    exact fun d dial hdial hreply hnone => howners ▸ h.replied d dial hdial hreply hnone
  | some d =>
    obtain ⟨dial, hdial, hid, hreply, hnone⟩ := h.inbox m hm d hd
    rw [dispatch_of_taker hid (h.taker hm hd) hdial]
    exact h.take hinbox hd hdial hreply hnone

/-- **Every step with a fresh id keeps the dials and their replies together.** -/
theorem good_step {step : Step} (h : Good s) (hfresh : FreshId s step) (ht : s.step step = some t) :
    Good t := by
  cases step with
  | dial object targetAgentId streamClass =>
    rw [← Option.some.inj ht]
    exact h.call object targetAgentId streamClass hfresh
  | send d =>
    obtain ⟨dial, hdial, hsend⟩ := Option.bind_eq_some_iff.mp ht
    split_ifs at hsend
    rw [← Option.some.inj hsend]
    exact h.send hdial
  | reply d outcome =>
    obtain ⟨dial, hdial, hreply⟩ := Option.bind_eq_some_iff.mp ht
    split_ifs at hreply with hopen
    rw [← Option.some.inj hreply]
    exact h.reply hdial hopen.2 _
  | stray message =>
    rw [← Option.some.inj ht]
    exact h.report message
  | dispatch =>
    simp only [State.step] at ht
    split at ht
    · cases ht
    · next m rest hinbox =>
      rw [← Option.some.inj ht]
      exact h.dispatch hinbox

/-- A reply is taken by the dial it was made for. -/
theorem Good.taken (h : Good s) {step : Step} {e : Taken} (he : taken s step = some e) :
    e.taker = some e.dial := by
  cases step with
  | dispatch =>
    obtain ⟨m, hm, hdial⟩ := Option.bind_eq_some_iff.mp he
    obtain ⟨d, hd, rfl⟩ := Option.map_eq_some_iff.mp hdial
    exact h.taker (List.mem_of_head? hm) hd
  | _ => cases he

/-- When all replies have been dispatched, every dial has its own. -/
theorem Good.completed (h : Good s) (hsettled : s.Settled) (hmem : dial ∈ s.dials) :
    ∃ reply, dial.reply = some reply ∧ dial.result = some reply.result := by
  have hsome := hsettled.replied dial hmem
  obtain ⟨reply, hreply⟩ := Option.isSome_iff_exists.mp hsome
  refine ⟨reply, hreply, ?_⟩
  cases hresult : dial.result with
  | none =>
    obtain ⟨d, hdial⟩ := List.mem_iff_getElem?.mp hmem
    have hway := h.replied d dial hdial hsome hresult
    rw [hsettled.inbox] at hway
    cases hway
  | some result =>
    have hown := h.result dial hmem result hresult
    rw [hreply] at hown
    exact congrArg some (Option.some.inj hown).symm

end Good

/-! ## A dial that is lost -/

section Lost

variable {s t : State} {d : Nat}

/-- **A dial is lost**: it is waiting, and the table does not know it. -/
def Lost (d : Nat) (s : State) : Prop :=
  (∃ dial, s.dials[d]? = some dial ∧ dial.result = none) ∧
    ∀ requestId, s.pendingDials requestId ≠ some d

/-- A message takes entries out of the table, and never puts one in. -/
theorem pendingDials_dispatch {m : Message} {requestId : Str}
    (h : (s.dispatch m).pendingDials requestId = some d) : s.pendingDials requestId = some d := by
  have htable : (s.dispatch m).pendingDials = match m.requestId with
      | some requestId => Function.update s.pendingDials requestId none
      | none => s.pendingDials := by
    unfold State.dispatch
    cases s.taker m <;> rfl
  rw [htable] at h
  cases hid : m.requestId with
  | none =>
    rw [hid] at h
    exact h
  | some popped =>
    simp only [hid] at h
    by_cases heq : requestId = popped
    · rw [heq, Function.update_self] at h
      cases h
    · rwa [Function.update_of_ne heq] at h

/-- A message leaves every dial alone but the one that takes it. -/
theorem dials_dispatch {m : Message} (h : s.taker m ≠ some d) :
    (s.dispatch m).dials[d]? = s.dials[d]? := by
  unfold State.dispatch
  cases htaker : s.taker m with
  | none => rfl
  | some d' =>
    have hne : d' ≠ d := fun heq => h (heq ▸ htaker)
    exact List.getElem?_modify_ne _ _ hne

/-- No message finds a dial that is lost. -/
theorem Lost.taker_ne (h : Lost d s) (m : Message) : s.taker m ≠ some d := by
  intro htaker
  obtain ⟨requestId, -, hd⟩ :=
    Option.bind_eq_some_iff.mp (Option.filter_eq_some_iff.mp htaker).1
  exact h.2 requestId hd

/-- A new dial does not enter an old one into the table. -/
theorem of_pendingDials_call {dial : Dial} {requestId newId : Str} (hdial : s.dials[d]? = some dial)
    (h : Function.update s.pendingDials newId (some s.dials.length) requestId = some d) :
    requestId ≠ newId ∧ s.pendingDials requestId = some d := by
  have hlt : d < s.dials.length := (List.getElem?_eq_some_iff.mp hdial).1
  by_cases heq : requestId = newId
  · rw [heq, Function.update_self] at h
    exact absurd (Option.some.inj h) (Nat.ne_of_gt hlt)
  · rw [Function.update_of_ne heq] at h
    exact ⟨heq, h⟩

/-- **A dial that is lost stays lost.** -/
theorem lost_step {step : Step} (h : Lost d s) (ht : s.step step = some t) : Lost d t := by
  cases step with
  | dial object targetAgentId streamClass =>
    rw [← Option.some.inj ht]
    obtain ⟨⟨dial, hdial, hnone⟩, htable⟩ := h
    refine ⟨⟨dial, Tasks.append_of_some hdial, hnone⟩, fun requestId hd => ?_⟩
    exact htable requestId (of_pendingDials_call hdial hd).2
  | send d' =>
    obtain ⟨dial, hdial, hsend⟩ := Option.bind_eq_some_iff.mp ht
    split_ifs at hsend
    rw [← Option.some.inj hsend]
    exact ⟨Tasks.exists_set hdial (fun _ hnone => hnone) h.1, h.2⟩
  | reply d' outcome =>
    obtain ⟨dial, hdial, hreply⟩ := Option.bind_eq_some_iff.mp ht
    split_ifs at hreply
    rw [← Option.some.inj hreply]
    exact ⟨Tasks.exists_set hdial (fun _ hnone => hnone) h.1, h.2⟩
  | stray message =>
    rw [← Option.some.inj ht]
    exact h
  | dispatch =>
    simp only [State.step] at ht
    split at ht
    · cases ht
    · next m rest hinbox =>
      rw [← Option.some.inj ht]
      obtain ⟨dial, hdial, hnone⟩ := h.1
      refine ⟨⟨dial, (dials_dispatch (h.taker_ne m)).trans hdial, hnone⟩, fun requestId hd => ?_⟩
      exact h.2 requestId (pendingDials_dispatch hd)

/-- **A dial is lost when another one takes its id.** -/
theorem lost_of_not_fresh {step : Step} (h : Good s) (hnot : ¬ FreshId s step)
    (ht : s.step step = some t) : ∃ d, Lost d t := by
  cases step with
  | dial object targetAgentId streamClass =>
    rw [← Option.some.inj ht]
    unfold FreshId at hnot
    push Not at hnot
    obtain ⟨dial, hmem, hnone, hid⟩ := hnot
    obtain ⟨d, hdial⟩ := List.mem_iff_getElem?.mp hmem
    refine ⟨d, ⟨dial, Tasks.append_of_some hdial, hnone⟩, fun requestId hd => ?_⟩
    -- the dial was in the table under its own id only
    obtain ⟨hother, hentry⟩ := of_pendingDials_call hdial hd
    obtain ⟨dial', hdial', hid'⟩ := h.table requestId d hentry
    obtain rfl := Option.some.inj (hdial.symm.trans hdial')
    exact hother (hid'.symm.trans hid)
  | send d | reply d outcome | stray message | dispatch => exact absurd trivial hnot

end Lost

/-- **When dials get their own replies.** For every interleaving of dials and every order of the
daemon's replies, once all replies have been dispatched: every dial has completed with what the
daemon replied to its own request, and no reply was dropped or taken by another dial, exactly when
no dial was made with the request id of a dial that was still waiting. -/
theorem dials_matched_iff (steps : List Step) (s : State)
    (hrun : machine.run machine.init steps = some s) (hsettled : s.Settled) :
    Matched steps s ↔ machine.Along FreshId machine.init steps := by
  constructor
  · intro hmatched
    refine machine.along_of_unmarked (Q := fun _ => True) (I := Good) (L := fun s => ∃ d, Lost d s)
      (fun s a t h _ ht hfresh => good_step h hfresh ht)
      (fun s a t h _ ht hnot => lost_of_not_fresh h hnot ht)
      (fun s a t hlost _ ht => hlost.imp fun d h => lost_step h ht) good_init
      (fun _ _ => trivial) hrun ?_
    rintro ⟨d, ⟨dial, hdial, hnone⟩, -⟩
    obtain ⟨reply, -, hresult⟩ := hmatched.completed dial (List.mem_of_getElem? hdial)
    rw [hnone] at hresult
    cases hresult
  · intro hfresh
    have hkeep : ∀ s a t, Good s → machine.step s a = some t → FreshId s a → Good t :=
      fun s a t h ht hfresh => good_step h hfresh ht
    refine ⟨machine.forall_mem_trace hkeep (fun s a t e h _ he => h.taken he) good_init hfresh hrun,
      fun dial hmem => ?_⟩
    have hgood : Good s := machine.along_invariant
      (fun s a t h hfresh ht => hkeep s a t h ht hfresh) good_init hfresh hrun
    exact hgood.completed hsettled hmem

/-- Two dials to the same target, given as two objects or as one; the daemon replies to them in the
order in which they were made, or the other way round. -/
def twoDials (first second : Nat) (replies : List Step) : List Step :=
  [.dial first "agt_1".toList "control".toList, .dial second "agt_1".toList "control".toList,
    .send 0, .send 1] ++ replies ++ [.dispatch, .dispatch]

/-- Two objects: both dials get their replies, in any order. -/
theorem dials_matched_two_objects :
    ∃ s, machine.run machine.init
        (twoDials 1 2 [.reply 1 (.ok 8), .reply 0 (.error "refused".toList)]) = some s ∧
      s.Settled ∧
      Matched (twoDials 1 2 [.reply 1 (.ok 8), .reply 0 (.error "refused".toList)]) s :=
  have hsettled : State.Settled _ := ⟨by decide, rfl⟩
  ⟨_, rfl, hsettled, (dials_matched_iff _ _ rfl hsettled).mpr (by decide)⟩

/-- **One object: a reply is taken by the wrong dial.** The first reply, stream 7, is that of the
first dial; the second dial takes it. The second reply is dropped, and the first dial waits for
ever. -/
theorem dial_takes_other_reply :
    ∃ s, machine.run machine.init (twoDials 1 1 [.reply 0 (.ok 7), .reply 1 (.ok 8)]) = some s ∧
      s.Settled ∧
      machine.trace taken machine.init (twoDials 1 1 [.reply 0 (.ok 7), .reply 1 (.ok 8)])
        = [⟨0, some 1⟩, ⟨1, none⟩] ∧
      s.dials.map Dial.result
        = [none, some (.ok ⟨7, "control".toList, "agt_1".toList⟩)] :=
  ⟨_, rfl, ⟨by decide, rfl⟩, by decide, by decide⟩

end Roboat.Client.PythonDials
