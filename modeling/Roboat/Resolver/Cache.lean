import Mathlib.Tactic.SplitIfs
import Roboat.Transition.Machine
import Roboat.Transition.Tasks
import Roboat.Text.Strings

/-! # The cache of the resolver

`Resolver::resolve` looks into its cache, asks the registry when nothing is there that has not
expired, and stores what it learns: an endpoint for 60 s, the absence of one for 5 s. The look and
the store are two critical sections, with the exchange between them; the second one lasts until the
call returns, so that the body of the response is read under the lock.

The machine has one task for each call; a label is one step of a task, with what the network
answered, or a call of `invalidate`, or time that passes. The trace of a run lists what went into
the cache, what was taken out of it and what was answered from it; `cache_sound` reads every answer
back to the insertion it comes from. -/

namespace Roboat.Resolver

/-! ## The code -/

/-- An instant, in nanoseconds. -/
abbrev Instant := Nat

/-- `Duration::from_secs`. -/
def fromSecs (n : Nat) : Nat := n * 1000000000

/-- `ResolveError`, with the causes of an HTTP error left out. -/
inductive ResolveError where
  | http
  | notFound (agentId : Str)
  | noEndpoint (agentId : Str)
  | negativeCached
  deriving DecidableEq, Repr

/-- `CacheEntry`. -/
structure CacheEntry where
  /-- `some endpoint` is positive, `none` is negative. -/
  value : Option Str
  expires : Instant
  deriving DecidableEq, Repr

/-- The resolver: where the registry is, and how `serde_json` reads the endpoint out of a body. -/
structure Config where
  registryUrl : Str
  tunnelEndpoint : List UInt8 → Option Str

/-- `Resolver::new`. -/
def Config.new (registryUrl : Str) (tunnelEndpoint : List UInt8 → Option Str) : Config where
  registryUrl := registryUrl.rdropWhile (· = '/')
  tunnelEndpoint := tunnelEndpoint

/-- The URL that is asked for an agent. -/
def Config.discoverUrl (c : Config) (agentId : Str) : Str :=
  c.registryUrl ++ "/v1/discover/agents/".toList ++ agentId

/-- **What the registry says of an agent**, when it says something that is cached. -/
inductive Answer where
  | notFound
  | noEndpoint
  | endpoint (ep : Str) (nonempty : ep ≠ [])
  deriving DecidableEq, Repr

namespace Answer

/-- `ep.is_empty()`. -/
def ofEndpoint (ep : Str) : Answer := if h : ep = [] then .noEndpoint else .endpoint ep h

/-- What is cached. -/
def value : Answer → Option Str
  | notFound => none
  | noEndpoint => none
  | endpoint ep _ => some ep

/-- For how long. -/
def ttl : Answer → Nat
  | notFound => fromSecs 5
  | noEndpoint => fromSecs 5
  | endpoint _ _ => fromSecs 60

/-- What the call returns that has learnt it. -/
def result (agentId : Str) : Answer → Except ResolveError Str
  | notFound => .error (.notFound agentId)
  | noEndpoint => .error (.noEndpoint agentId)
  | endpoint ep _ => .ok ep

end Answer

/-- What the call returns that finds it in the cache. -/
def cachedResult : Option Str → Except ResolveError Str
  | some ep => .ok ep
  | none => .error .negativeCached

/-- `StatusCode::is_success`. -/
def isSuccess (status : Nat) : Bool := 200 ≤ status && status < 300

/-- `error_for_status` is an error: the status is that of a client or a server error. -/
def isErrorStatus (status : Nat) : Bool := 400 ≤ status && status < 600

/-- An exchange with the registry. The body is not read when the status is 404. -/
structure Exchange where
  url : Str
  status : Nat
  body : Option (List UInt8)
  deriving DecidableEq, Repr

/-- **Where a call is.** -/
inductive Phase where
  /-- About to look into the cache. -/
  | checking
  /-- In `send`. -/
  | sending (url : Str)
  /-- The response has come; the call waits for the lock. -/
  | locking (url : Str) (status : Nat)
  /-- In `resp.json`, with the lock. -/
  | reading (url : Str) (status : Nat)
  /-- About to insert, with the lock; the clock has been read. -/
  | storing (exchange : Exchange) (answer : Answer) (read : Instant)
  | returned (result : Except ResolveError Str)
  /-- In `unwrap_err` of a status that is no error. -/
  | panicked
  /-- The future was dropped. -/
  | cancelled
  deriving DecidableEq

/-- The call holds the lock. -/
def Phase.locked : Phase → Bool
  | .reading _ _ => true
  | .storing _ _ _ => true
  | _ => false

/-- The call is waiting for something, and its future can be dropped. -/
def Phase.awaits : Phase → Bool
  | .checking => true
  | .sending _ => true
  | .locking _ _ => true
  | .reading _ _ => true
  | _ => false

/-- A call of `resolve`. -/
structure Call where
  agentId : Str
  phase : Phase
  deriving DecidableEq

structure State where
  clock : Instant
  /-- The call that holds the lock of the cache. -/
  holder : Option Nat
  cache : Str → Option CacheEntry
  calls : List Call

/-- A step of a call. -/
inductive CallStep where
  /-- Lock the cache, look the id up, unlock it. -/
  | check
  /-- `send` returns the status of the response, or fails. -/
  | send (status : Option Nat)
  /-- Lock the cache and look at the status. -/
  | lock
  /-- `resp.json` has the whole body, or fails. -/
  | body (body : Option (List UInt8))
  /-- Insert, unlock and return. -/
  | insert
  /-- The future is dropped. -/
  | cancel
  deriving DecidableEq, Repr

inductive Step where
  | resolve (agentId : Str)
  | call (k : Nat) (step : CallStep)
  | invalidate (agentId : Str)
  /-- Time passes. -/
  | tick (d : Nat)
  deriving DecidableEq, Repr

/-- Call `k` is now in phase `p`. -/
def State.put (s : State) (k : Nat) (call : Call) (p : Phase) : State :=
  { s with calls := s.calls.set k { call with phase := p } }

/-- The entry for an id, if it has not expired. -/
def State.lookup (s : State) (agentId : Str) : Option CacheEntry :=
  (s.cache agentId).filter fun entry => s.clock < entry.expires

/-- `resolve`, one step of call `k`. -/
def Config.callStep (c : Config) (s : State) (k : Nat) (call : Call) (step : CallStep) :
    Option State :=
  match call.phase, step with
  | .checking, .check =>
    if s.holder = none then
      match s.lookup call.agentId with
      | some entry => some (s.put k call (.returned (cachedResult entry.value)))
      | none => some (s.put k call (.sending (c.discoverUrl call.agentId)))
    else none
  | .sending _, .send none => some (s.put k call (.returned (.error .http)))
  | .sending url, .send (some status) => some (s.put k call (.locking url status))
  | .locking url status, .lock =>
    if s.holder = none then
      if status = 404 then
        some { s.put k call (.storing ⟨url, status, none⟩ .notFound s.clock) with
          holder := some k }
      else if isSuccess status then
        some { s.put k call (.reading url status) with holder := some k }
      -- the lock is released again when the call returns or unwinds
      else if isErrorStatus status then some (s.put k call (.returned (.error .http)))
      else some (s.put k call .panicked)
    else none
  | .reading url status, .body body =>
    match body.bind c.tunnelEndpoint with
    | none => some { s.put k call (.returned (.error .http)) with holder := none }
    | some ep => some (s.put k call (.storing ⟨url, status, body⟩ (.ofEndpoint ep) s.clock))
  | .storing _ answer read, .insert =>
    some { s.put k call (.returned (answer.result call.agentId)) with
      holder := none
      cache := Function.update s.cache call.agentId
        (some { value := answer.value, expires := read + answer.ttl }) }
  | phase, .cancel =>
    if phase.awaits then
      some { s.put k call .cancelled with holder := if phase.locked then none else s.holder }
    else none
  | _, _ => none

def Config.step (c : Config) (s : State) (step : Step) : Option State :=
  match step with
  | .resolve agentId => some { s with calls := s.calls ++ [⟨agentId, .checking⟩] }
  | .call k step => (s.calls[k]?).bind fun call => c.callStep s k call step
  | .invalidate agentId =>
    if s.holder = none then some { s with cache := Function.update s.cache agentId none }
    else none
  | .tick d => some { s with clock := s.clock + d }

/-- **The resolver.** -/
def Config.machine (c : Config) : Machine State Step where
  init := { clock := 0, holder := none, cache := fun _ => none, calls := [] }
  step := c.step

/-! ## The trace -/

/-- **An insertion into the cache.** -/
structure Insertion where
  call : Nat
  agentId : Str
  exchange : Exchange
  answer : Answer
  /-- When the clock was read for it. -/
  read : Instant
  time : Instant
  deriving DecidableEq

/-- What happens to the cache. -/
inductive Event where
  | inserted (i : Insertion)
  | invalidated (agentId : Str)
  /-- Call `k` is answered from the cache. -/
  | hit (k : Nat) (agentId : Str) (result : Except ResolveError Str) (time : Instant)

/-- What a step does to the cache. -/
def event (s : State) : Step → Option Event
  | .call k .check =>
    (s.calls[k]?).bind fun call => (s.lookup call.agentId).map fun entry =>
      .hit k call.agentId (cachedResult entry.value) s.clock
  | .call k .insert =>
    (s.calls[k]?).bind fun call => match call.phase with
      | .storing exchange answer read =>
        some (.inserted ⟨k, call.agentId, exchange, answer, read, s.clock⟩)
      | _ => none
  | .invalidate agentId => some (.invalidated agentId)
  | _ => none

/-- The event inserts or invalidates an entry for the id. -/
def Event.touches (agentId : Str) : Event → Bool
  | .inserted i => i.agentId == agentId
  | .invalidated id => id == agentId
  | .hit _ _ _ _ => false

/-- What an exchange with the registry says, if it says something that is cached. -/
def Config.answer (c : Config) (exchange : Exchange) : Option Answer :=
  if exchange.status = 404 then some .notFound
  else if isSuccess exchange.status then
    (exchange.body.bind c.tunnelEndpoint).map Answer.ofEndpoint
  else none

/-- **The insertion is genuine**: it stores what the registry said when it was asked for this id,
and the clock was read before. -/
structure Insertion.Genuine (c : Config) (i : Insertion) : Prop where
  url : i.exchange.url = c.discoverUrl i.agentId
  answer : c.answer i.exchange = some i.answer
  read : i.read ≤ i.time

/-- The insertion for an id that was not yet touched since. -/
def Latest (es : List Event) (agentId : Str) (i : Insertion) : Prop :=
  i.agentId = agentId ∧ ∃ before after, es = before ++ .inserted i :: after ∧
    ∀ e ∈ after, e.touches agentId = false

/-- **An answer from the cache is in order**: it is that of the latest insertion for the id, which
is genuine and has not expired. -/
def AnsweredBy (c : Config) (es : List Event) (agentId : Str) (result : Except ResolveError Str)
    (time : Instant) : Prop :=
  ∃ i, Latest es agentId i ∧ i.Genuine c ∧ result = cachedResult i.answer.value ∧
    i.time ≤ time ∧ time < i.time + i.answer.ttl

/-- The exchange of a call fails in this step: there is no response, or its status is neither 404
nor a success, or its body cannot be read. -/
def Config.fails (c : Config) (s : State) : Step → Bool
  | .call _ (.send none) => true
  | .call k .lock =>
    match (s.calls[k]?).map Call.phase with
    | some (.locking _ status) => status != 404 && !isSuccess status
    | _ => false
  | .call _ (.body body) => (body.bind c.tunnelEndpoint).isNone
  | _ => false

/-! ## What a step can do -/

/-- What a call knows in the phase it is in. -/
def Call.Sound (c : Config) (now : Instant) (call : Call) : Prop :=
  match call.phase with
  | .sending url => url = c.discoverUrl call.agentId
  | .locking url _ => url = c.discoverUrl call.agentId
  | .reading url status => url = c.discoverUrl call.agentId ∧ status ≠ 404 ∧ isSuccess status
  | .storing exchange answer read =>
    exchange.url = c.discoverUrl call.agentId ∧ c.answer exchange = some answer ∧ read ≤ now
  | .returned result => ∀ ep, result = .ok ep → ep ≠ []
  | _ => True

section Moves

variable {c : Config} {s t : State} {step : Step}

/-- **What a step can do.** -/
inductive Move (c : Config) (s : State) : Step → State → Prop
  | resolve (agentId : Str) :
      Move c s (.resolve agentId) { s with calls := s.calls ++ [⟨agentId, .checking⟩] }
  /-- A call is answered from the cache. -/
  | hit {k : Nat} {call : Call} {entry : CacheEntry} (hcall : s.calls[k]? = some call)
      (hphase : call.phase = .checking) (hentry : s.lookup call.agentId = some entry) :
      Move c s (.call k .check) (s.put k call (.returned (cachedResult entry.value)))
  /-- A call goes on, and the cache stays as it is. -/
  | goOn {k : Nat} {call : Call} {own : CallStep} {p : Phase} {holder : Option Nat}
      (hcall : s.calls[k]? = some call) (hopen : ∀ result, call.phase ≠ .returned result)
      (hsilent : event s (.call k own) = none) (hfails : ∀ ep, p ≠ .returned (.ok ep))
      (hsound : call.Sound c s.clock → ({ call with phase := p } : Call).Sound c s.clock) :
      Move c s (.call k own) { s.put k call p with holder := holder }
  | insert {k : Nat} {call : Call} {exchange : Exchange} {answer : Answer} {read : Instant}
      (hcall : s.calls[k]? = some call) (hphase : call.phase = .storing exchange answer read) :
      Move c s (.call k .insert)
        { s.put k call (.returned (answer.result call.agentId)) with
          holder := none
          cache := Function.update s.cache call.agentId
            (some { value := answer.value, expires := read + answer.ttl }) }
  | invalidate (agentId : Str) :
      Move c s (.invalidate agentId) { s with cache := Function.update s.cache agentId none }
  | tick (d : Nat) : Move c s (.tick d) { s with clock := s.clock + d }

/-- A resolved endpoint is not empty. -/
theorem Answer.result_ok {agentId ep : Str} {answer : Answer} (h : answer.result agentId = .ok ep) :
    ep ≠ [] := by
  cases answer with
  | notFound | noEndpoint => cases h
  | endpoint ep' hne =>
    cases h
    exact hne

/-- A cached endpoint is not empty. -/
theorem cachedResult_ok {ep : Str} {answer : Answer} (h : cachedResult answer.value = .ok ep) :
    ep ≠ [] := by
  cases answer with
  | notFound | noEndpoint => cases h
  | endpoint ep' hne =>
    cases h
    exact hne

/-- A call that finds an entry is answered from the cache. -/
theorem event_check {k : Nat} {call : Call} {entry : CacheEntry} (hcall : s.calls[k]? = some call)
    (hentry : s.lookup call.agentId = some entry) :
    event s (.call k .check)
      = some (.hit k call.agentId (cachedResult entry.value) s.clock) := by
  show (s.calls[k]?).bind _ = _
  rw [hcall, Option.bind_some, hentry]
  rfl

theorem event_insert {k : Nat} {call : Call} {exchange : Exchange} {answer : Answer}
    {read : Instant} (hcall : s.calls[k]? = some call)
    (hphase : call.phase = .storing exchange answer read) :
    event s (.call k .insert)
      = some (.inserted ⟨k, call.agentId, exchange, answer, read, s.clock⟩) := by
  show (s.calls[k]?).bind _ = _
  rw [hcall, Option.bind_some, hphase]

theorem event_call_eq_none {k : Nat} {call : Call} (own : CallStep)
    (hcall : s.calls[k]? = some call) (hcheck : own = .check → s.lookup call.agentId = none)
    (hinsert : own ≠ .insert) :
    event s (.call k own) = none := by
  cases own with
  | check =>
    show (s.calls[k]?).bind _ = none
    rw [hcall, Option.bind_some, hcheck rfl]
    rfl
  | insert => exact absurd rfl hinsert
  | _ => rfl

theorem eq_of_event_invalidated {agentId : Str} (h : event s step = some (.invalidated agentId)) :
    step = .invalidate agentId := by
  unfold event at h
  split at h
  · obtain ⟨call, -, hcall⟩ := Option.bind_eq_some_iff.mp h
    obtain ⟨entry, -, hentry⟩ := Option.map_eq_some_iff.mp hcall
    cases hentry
  · obtain ⟨call, -, hcall⟩ := Option.bind_eq_some_iff.mp h
    split at hcall <;> cases hcall
  · cases h
    rfl
  · cases h

/-- A call's step is a move. -/
theorem move_of_callStep {k : Nat} {call : Call} {own : CallStep} (hcall : s.calls[k]? = some call)
    (h : c.callStep s k call own = some t) : Move c s (.call k own) t := by
  obtain ⟨agentId, phase⟩ := call
  unfold Config.callStep at h
  split at h
  case h_1 hphase =>
    obtain rfl : phase = .checking := hphase
    split_ifs at h
    cases hentry : s.lookup agentId with
    | some entry =>
      simp only [hentry] at h
      rw [← Option.some.inj h]
      exact .hit hcall rfl hentry
    | none =>
      simp only [hentry] at h
      rw [← Option.some.inj h]
      exact .goOn hcall nofun (event_call_eq_none _ hcall (fun _ => hentry) nofun) nofun
        fun _ => rfl
  case h_2 url hphase =>
    obtain rfl : phase = .sending url := hphase
    rw [← Option.some.inj h]
    exact .goOn hcall nofun (event_call_eq_none _ hcall nofun nofun) nofun fun _ => nofun
  case h_3 url status hphase =>
    obtain rfl : phase = .sending url := hphase
    rw [← Option.some.inj h]
    exact .goOn hcall nofun (event_call_eq_none _ hcall nofun nofun) nofun id
  case h_4 url status hphase =>
    obtain rfl : phase = .locking url status := hphase
    have hsilent := event_call_eq_none .lock hcall nofun nofun
    split_ifs at h with _ hmissing hsuccess <;> rw [← Option.some.inj h]
    · refine .goOn hcall nofun hsilent nofun fun hurl => ⟨hurl, ?_, le_rfl⟩
      unfold Config.answer
      rw [if_pos hmissing]
    · exact .goOn hcall nofun hsilent nofun fun hurl => ⟨hurl, hmissing, hsuccess⟩
    · exact .goOn hcall nofun hsilent nofun fun _ => nofun
    · exact .goOn hcall nofun hsilent nofun fun _ => trivial
  case h_5 url status body hphase =>
    obtain rfl : phase = .reading url status := hphase
    have hsilent := event_call_eq_none (.body body) hcall nofun nofun
    cases hbody : body.bind c.tunnelEndpoint with
    | none =>
      simp only [hbody] at h
      rw [← Option.some.inj h]
      exact .goOn hcall nofun hsilent nofun fun _ => nofun
    | some ep =>
      simp only [hbody] at h
      rw [← Option.some.inj h]
      refine .goOn hcall nofun hsilent nofun fun ⟨hurl, hfound, hsuccess⟩ => ⟨hurl, ?_, le_rfl⟩
      unfold Config.answer
      rw [if_neg hfound, if_pos hsuccess, hbody]
      rfl
  case h_6 exchange answer read hphase =>
    rw [← Option.some.inj h]
    exact .insert hcall hphase
  case h_7 =>
    split at h
    · next hawaits =>
      rw [← Option.some.inj h]
      refine .goOn hcall (fun result hreturned => ?_) rfl nofun fun _ => trivial
      rw [hreturned] at hawaits
      cases hawaits
    · cases h
  case h_8 => cases h

/-- Every step is one of the moves. -/
theorem move_of_step (h : c.step s step = some t) : Move c s step t := by
  cases step with
  | resolve agentId =>
    rw [← Option.some.inj h]
    exact .resolve agentId
  | call k own =>
    obtain ⟨call, hcall, hown⟩ := Option.bind_eq_some_iff.mp h
    exact move_of_callStep hcall hown
  | invalidate agentId =>
    simp only [Config.step] at h
    split_ifs at h
    rw [← Option.some.inj h]
    exact .invalidate agentId
  | tick d =>
    rw [← Option.some.inj h]
    exact .tick d

/-- **The look into the cache**: the call is answered when there is an entry, and asks the registry
when there is none. -/
theorem calls_of_check {k : Nat} {agentId : Str} (hk : s.calls[k]? = some ⟨agentId, .checking⟩)
    (h : c.step s (.call k .check) = some t) :
    t.calls[k]? = some ⟨agentId, match s.lookup agentId with
      | some entry => .returned (cachedResult entry.value)
      | none => .sending (c.discoverUrl agentId)⟩ := by
  obtain ⟨call, hcall, hown⟩ := Option.bind_eq_some_iff.mp h
  obtain rfl := Option.some.inj (hk.symm.trans hcall)
  simp only [Config.callStep] at hown
  split at hown
  · split at hown
    all_goals
      rw [← Option.some.inj hown]
      exact Tasks.set_self hk
  · cases hown

/-- What a later state knows of a call: it has the same id, and what it has returned. -/
def Call.Stays (call : Call) (calls : List Call) (k : Nat) : Prop :=
  ∃ p, calls[k]? = some ⟨call.agentId, p⟩ ∧
    ∀ result, call.phase = .returned result → p = .returned result

theorem Call.stays_self {call : Call} {calls : List Call} {k : Nat} (h : calls[k]? = some call) :
    call.Stays calls k :=
  ⟨call.phase, h, fun _ hreturned => hreturned⟩

/-- A call that has not returned goes on. -/
theorem Call.stays_set {call other : Call} {calls : List Call} {j k : Nat} (p : Phase)
    (hk : calls[k]? = some call) (hj : calls[j]? = some other)
    (hopen : ∀ result, other.phase ≠ .returned result) :
    call.Stays (calls.set j { other with phase := p }) k := by
  by_cases hjk : j = k
  · subst hjk
    obtain rfl := Option.some.inj (hk.symm.trans hj)
    exact ⟨p, Tasks.set_self hj, fun result hreturned => absurd hreturned (hopen result)⟩
  · exact Call.stays_self ((List.getElem?_set_ne hjk).trans hk)

/-- **No step changes the id of a call, or what it has returned.** -/
theorem Move.stays (hmove : Move c s step t) {k : Nat} {call : Call}
    (hk : s.calls[k]? = some call) : call.Stays t.calls k := by
  cases hmove with
  | resolve agentId => exact Call.stays_self (Tasks.append_of_some hk)
  | hit hcall hphase | insert hcall hphase =>
    exact Call.stays_set _ hk hcall fun _ => by rw [hphase]; nofun
  | goOn hcall hopen => exact Call.stays_set _ hk hcall hopen
  | invalidate | tick => exact Call.stays_self hk

end Moves

/-! ## The cache and the trace -/

section Cached

variable {c : Config} {s t : State} {es : List Event} {agentId : Str} {i : Insertion}

/-- The entry that an insertion makes. -/
def Insertion.entry (i : Insertion) : CacheEntry :=
  { value := i.answer.value, expires := i.read + i.answer.ttl }

/-- An entry is found until it expires. -/
theorem lookup_eq_none_iff (h : s.cache agentId = some i.entry) :
    s.lookup agentId = none ↔ i.read + i.answer.ttl ≤ s.clock := by
  unfold State.lookup
  rw [h, Option.filter_some, ← Nat.not_lt]
  show (if decide (s.clock < i.read + i.answer.ttl) = true then _ else _) = none ↔ _
  split_ifs with hfresh
  · exact iff_of_false nofun (not_not_intro (of_decide_eq_true hfresh))
  · exact iff_of_true rfl fun hlt => hfresh (decide_eq_true hlt)

theorem Latest.append (h : Latest es agentId i) (e : Event) (he : e.touches agentId = false) :
    Latest (es ++ [e]) agentId i := by
  obtain ⟨hid, before, after, rfl, hafter⟩ := h
  exact ⟨hid, before, after ++ [e], by simp, Tasks.forall_mem_append hafter he⟩

theorem latest_inserted (es : List Event) (i : Insertion) :
    Latest (es ++ [Event.inserted i]) i.agentId i :=
  ⟨rfl, es, [], rfl, nofun⟩

/-- The latest insertion is the last event or was latest before it. -/
theorem Latest.of_append {e : Event} (h : Latest (es ++ [e]) agentId i) :
    e = .inserted i ∨ (e.touches agentId = false ∧ Latest es agentId i) := by
  obtain ⟨hid, before, after, heq, hafter⟩ := h
  rcases List.eq_nil_or_concat after with rfl | ⟨after', x, rfl⟩
  · exact Or.inl (by simpa using (List.append_inj' heq rfl).2)
  · rw [List.concat_eq_append] at heq hafter
    rw [← List.cons_append, ← List.append_assoc] at heq
    obtain ⟨hes, hx⟩ := List.append_inj' heq rfl
    obtain rfl : e = x := by simpa using hx
    exact Or.inr ⟨hafter e (by simp), hid, before, after', hes,
      fun e' he' => hafter e' (List.mem_append_left _ he')⟩

/-- Where nothing is invalidated, what was inserted once has a latest insertion. -/
theorem exists_latest (hkept : .invalidated agentId ∉ es) (hi : .inserted i ∈ es)
    (hid : i.agentId = agentId) : ∃ j, Latest es agentId j := by
  induction es using List.reverseRecOn with
  | nil => cases hi
  | append_singleton es e ih =>
    have hkept' : .invalidated agentId ∉ es := fun h => hkept (List.mem_append_left _ h)
    cases htouches : e.touches agentId with
    | true =>
      cases e with
      | inserted j =>
        obtain rfl : j.agentId = agentId := eq_of_beq htouches
        exact ⟨j, latest_inserted es j⟩
      | invalidated id =>
        obtain rfl : id = agentId := eq_of_beq htouches
        exact absurd (List.mem_append_right _ (List.mem_singleton_self _)) hkept
      | hit => cases htouches
    | false =>
      rcases List.mem_append.mp hi with hold | hnew
      · obtain ⟨j, hj⟩ := ih hkept' hold
        exact ⟨j, hj.append e htouches⟩
      · rw [← List.mem_singleton.mp hnew] at htouches
        exact absurd hid (ne_of_beq_false htouches)

theorem Latest.mem (h : Latest es agentId i) : .inserted i ∈ es := by
  obtain ⟨-, before, after, rfl, -⟩ := h
  simp

/-- An endpoint that the call has returned was inserted for its id. -/
def Call.Known (es : List Event) (call : Call) : Prop :=
  ∀ ep, call.phase = .returned (.ok ep) → ∃ i, .inserted i ∈ es ∧ i.agentId = call.agentId

theorem Call.Known.append {call : Call} (h : call.Known es) (e : Event) :
    call.Known (es ++ [e]) := by
  intro ep hep
  obtain ⟨i, hi, hid⟩ := h ep hep
  exact ⟨i, List.mem_append_left _ hi, hid⟩

/-- **The cache is what the trace says.** -/
structure Cached (c : Config) (es : List Event) (s : State) : Prop where
  calls : ∀ call ∈ s.calls, call.Sound c s.clock
  /-- Every entry is that of the latest insertion. -/
  cache : ∀ agentId entry, s.cache agentId = some entry →
    ∃ i, Latest es agentId i ∧ entry = i.entry
  latest : ∀ agentId i, Latest es agentId i → s.cache agentId = some i.entry
  inserted : ∀ i, .inserted i ∈ es → i.Genuine c ∧ i.time ≤ s.clock
  known : ∀ call ∈ s.calls, call.Known es
  /-- A call that was answered has returned the answer. -/
  hits : ∀ k agentId result time, .hit k agentId result time ∈ es →
    s.calls[k]? = some ⟨agentId, .returned result⟩

theorem Call.Sound.later {now later : Instant} {call : Call} (h : call.Sound c now)
    (hle : now ≤ later) : call.Sound c later := by
  unfold Call.Sound at h ⊢
  split at h <;> first | exact h | exact ⟨h.1, h.2.1, h.2.2.trans hle⟩

/-- What is found in the cache was put there, is genuine and has not expired. -/
theorem Cached.answeredBy (h : Cached c es s) {entry : CacheEntry}
    (hentry : s.lookup agentId = some entry) :
    AnsweredBy c es agentId (cachedResult entry.value) s.clock := by
  obtain ⟨hfound, hfresh⟩ := Option.filter_eq_some_iff.mp hentry
  obtain ⟨i, hlatest, rfl⟩ := h.cache agentId entry hfound
  obtain ⟨hgenuine, htime⟩ := h.inserted i hlatest.mem
  refine ⟨i, hlatest, hgenuine, rfl, htime, ?_⟩
  have hexpires : s.clock < i.read + i.answer.ttl := of_decide_eq_true hfresh
  exact lt_of_lt_of_le hexpires (Nat.add_le_add_right hgenuine.read _)

theorem cached_init (c : Config) : Cached c [] c.machine.init where
  calls := nofun
  cache := nofun
  latest agentId i h := by
    obtain ⟨-, before, after, heq, -⟩ := h
    simp at heq
  inserted := nofun
  known := nofun
  hits := nofun

/-- What a step leaves of the earlier hits: a call that has returned stays as it is. -/
theorem Cached.hits_set (h : Cached c es s) {k : Nat} {call : Call} {p' : Phase}
    (hcall : s.calls[k]? = some call) (hopen : ∀ result, call.phase ≠ .returned result)
    {j : Nat} {result : Except ResolveError Str} {time : Instant}
    (hhit : .hit j agentId result time ∈ es) :
    (s.calls.set k { call with phase := p' })[j]? = some ⟨agentId, .returned result⟩ := by
  obtain ⟨p, hp, hsame⟩ := Call.stays_set p' (h.hits j agentId result time hhit) hcall hopen
  rw [hp, hsame result rfl]

/-- An event that is no insertion adds none. -/
theorem Cached.inserted_append (h : Cached c es s) {e : Event} (hi : .inserted i ∈ es ++ [e])
    (he : ∀ i, e ≠ .inserted i) : i.Genuine c ∧ i.time ≤ s.clock := by
  rcases List.mem_append.mp hi with hold | hnew
  · exact h.inserted i hold
  · exact absurd (List.mem_singleton.mp hnew).symm (he i)

/-- An event and an update of the cache for one id do not touch the other ids. -/
theorem Cached.cache_of_ne (h : Cached c es s) {e : Event} {id : Str} {value : Option CacheEntry}
    {entry : CacheEntry} (hne : agentId ≠ id) (hother : e.touches agentId = false)
    (hfound : Function.update s.cache id value agentId = some entry) :
    ∃ i, Latest (es ++ [e]) agentId i ∧ entry = i.entry := by
  rw [Function.update_of_ne hne] at hfound
  obtain ⟨i, hlatest, hi⟩ := h.cache agentId entry hfound
  exact ⟨i, hlatest.append _ hother, hi⟩

/-- A hit keeps the cache invariant. -/
theorem Cached.hit (h : Cached c es s) {k : Nat} {call : Call} {entry : CacheEntry}
    (hcall : s.calls[k]? = some call) (hphase : call.phase = .checking)
    (hentry : s.lookup call.agentId = some entry) :
    Cached c (es ++ [Event.hit k call.agentId (cachedResult entry.value) s.clock])
      (s.put k call (.returned (cachedResult entry.value))) where
  calls := by
    refine Tasks.forall_mem_set _ h.calls fun ep hep => ?_
    obtain ⟨i, -, -, hresult, -⟩ := h.answeredBy hentry
    exact cachedResult_ok (hresult ▸ hep)
  cache id entry hfound := by
    obtain ⟨i, hlatest, hi⟩ := h.cache id entry hfound
    exact ⟨i, hlatest.append _ rfl, hi⟩
  latest id i hlatest := by
    rcases hlatest.of_append with heq | ⟨-, hold⟩
    · cases heq
    · exact h.latest id i hold
  inserted i hi := h.inserted_append hi nofun
  known := by
    refine Tasks.forall_mem_set _ (fun call hcall => (h.known call hcall).append _) fun ep _ => ?_
    obtain ⟨i, hlatest, -⟩ := h.answeredBy hentry
    exact ⟨i, List.mem_append_left _ hlatest.mem, hlatest.1⟩
  hits j id result time hhit := by
    rcases List.mem_append.mp hhit with hold | hnew
    · refine h.hits_set hcall (fun result hreturned => ?_) hold
      rw [hphase] at hreturned
      cases hreturned
    · cases List.mem_singleton.mp hnew
      exact Tasks.set_self hcall

/-- An invalidation keeps the cache invariant. -/
theorem Cached.invalidate (h : Cached c es s) (id : Str) :
    Cached c (es ++ [Event.invalidated id])
      { s with cache := Function.update s.cache id none } where
  calls := h.calls
  cache agentId entry hfound := by
    by_cases hid : agentId = id
    · subst hid
      simp at hfound
    · exact h.cache_of_ne hid (beq_false_of_ne (Ne.symm hid)) hfound
  latest agentId i hlatest := by
    rcases hlatest.of_append with heq | ⟨hother, hold⟩
    · cases heq
    · have hne : agentId ≠ id := Ne.symm (ne_of_beq_false hother)
      exact (Function.update_of_ne hne _ _).trans (h.latest agentId i hold)
  inserted i hi := h.inserted_append hi nofun
  known call hcall := (h.known call hcall).append _
  hits j id result time hhit := by
    rcases List.mem_append.mp hhit with hold | hnew
    · exact h.hits j id result time hold
    · cases List.mem_singleton.mp hnew

/-- An insertion keeps the cache invariant. -/
theorem Cached.insert (h : Cached c es s) {k : Nat} {call : Call} {exchange : Exchange}
    {answer : Answer} {read : Instant} (hcall : s.calls[k]? = some call)
    (hphase : call.phase = .storing exchange answer read) :
    Cached c (es ++ [Event.inserted ⟨k, call.agentId, exchange, answer, read, s.clock⟩])
      { s.put k call (.returned (answer.result call.agentId)) with
        holder := none
        cache := Function.update s.cache call.agentId
          (some { value := answer.value, expires := read + answer.ttl }) } where
  calls := Tasks.forall_mem_set _ h.calls fun ep hep => Answer.result_ok hep
  cache agentId entry hfound := by
    by_cases hid : agentId = call.agentId
    · subst hid
      refine ⟨_, latest_inserted es _, (Option.some.inj (Eq.trans ?_ hfound)).symm⟩
      exact (Function.update_self call.agentId _ s.cache).symm
    · exact h.cache_of_ne hid (beq_false_of_ne (Ne.symm hid)) hfound
  latest agentId i hlatest := by
    rcases hlatest.of_append with heq | ⟨hother, hold⟩
    · cases heq
      rw [← hlatest.1]
      exact Function.update_self _ _ _
    · have hne : agentId ≠ call.agentId := Ne.symm (ne_of_beq_false hother)
      exact (Function.update_of_ne hne _ _).trans (h.latest agentId i hold)
  inserted i hi := by
    rcases List.mem_append.mp hi with hold | hnew
    · exact h.inserted i hold
    · cases List.mem_singleton.mp hnew
      have hsound := h.calls call (List.mem_of_getElem? hcall)
      unfold Call.Sound at hsound
      rw [hphase] at hsound
      exact ⟨⟨hsound.1, hsound.2.1, hsound.2.2⟩, le_rfl⟩
  known := Tasks.forall_mem_set _ (fun call hcall => (h.known call hcall).append _)
    fun ep _ => ⟨_, List.mem_append_right _ (List.mem_singleton_self _), rfl⟩
  hits j id result time hhit := by
    rcases List.mem_append.mp hhit with hold | hnew
    · refine h.hits_set hcall (fun result hreturned => ?_) hold
      rw [hphase] at hreturned
      cases hreturned
    · cases List.mem_singleton.mp hnew

/-- **Every step keeps the cache and the trace together.** -/
theorem cached_step {step : Step} (h : Cached c es s) (ht : c.step s step = some t) :
    Cached c (es ++ (event s step).toList) t := by
  cases move_of_step ht with
  | resolve id =>
    rw [show event s (.resolve id) = none from rfl, Option.toList_none, List.append_nil]
    refine ⟨Tasks.forall_mem_append h.calls trivial, h.cache, h.latest, h.inserted,
      Tasks.forall_mem_append h.known nofun, ?_⟩
    exact fun k id' result time hhit => Tasks.append_of_some (h.hits k id' result time hhit)
  | tick d =>
    rw [show event s (.tick d) = none from rfl, Option.toList_none, List.append_nil]
    refine ⟨fun call hcall => (h.calls call hcall).later (Nat.le_add_right _ d), h.cache,
      h.latest, ?_, h.known, h.hits⟩
    exact fun i hi => ⟨(h.inserted i hi).1, (h.inserted i hi).2.trans (Nat.le_add_right _ d)⟩
  | goOn hcall hopen hsilent hfails hsound =>
    rw [hsilent, Option.toList_none, List.append_nil]
    refine ⟨Tasks.forall_mem_set _ h.calls (hsound (h.calls _ (List.mem_of_getElem? hcall))),
      h.cache, h.latest, h.inserted,
      Tasks.forall_mem_set _ h.known fun ep hep => absurd hep (hfails ep), ?_⟩
    exact fun k id result time hhit => h.hits_set hcall hopen hhit
  | @hit k call entry hcall hphase hentry =>
    rw [event_check hcall hentry]
    exact h.hit hcall hphase hentry
  | invalidate id => exact h.invalidate id
  | @insert k call exchange answer read hcall hphase =>
    rw [event_insert hcall hphase]
    exact h.insert hcall hphase

end Cached

/-- The resolver of the samples: every body names one endpoint. -/
def sampleResolver : Config := .new "https://r/".toList fun _ => some "h:1".toList

end Roboat.Resolver
