import Roboat.Resolver.Cache
import Roboat.Wire.Frame

/-! # Dials and the cache of the resolver

`dial` asks the resolver for the endpoint of an `agt_` target and then connects to it, in one of two
modes. The resolver says of `invalidate` that it is to be called after a failed dial; no exit of
`dial`, `dial_mux`, `create_mux_conn` or `dial_direct` does. So after a failed dial the next one to
the same target gets the same endpoint again until the entry expires (`redial_asks_iff`).

The manager is a machine with the resolver inside; the steps of the resolver's calls and of the
clock are its own, and `resolverSteps` is what the resolver sees of a run. -/

namespace Roboat.Daemon.Discovery

open Resolver (Config CallStep ResolveError Phase)

/-! ## The code -/

/-- `DaemonError`, as far as a dial can fail with it. -/
inductive DaemonError where
  | io
  | auth
  | protocol
  | sendFailed
  | resolve (e : ResolveError)
  | noResolver
  deriving DecidableEq, Repr

/-- What a dial reads of the manager. -/
structure DaemonConfig where
  resolver : Option Config
  useMux : Bool

/-- **Where a dial is.** -/
inductive DialPhase where
  /-- In `resolve`, as call `k` of the resolver. -/
  | resolving (k : Nat)
  /-- `dial_mux`: about to look into the pool. -/
  | pooling (addr : Str)
  /-- In `TcpStream::connect`. -/
  | connecting (addr : Str)
  /-- In `authenticate`. -/
  | authenticating (addr : Str)
  /-- `dial_mux`: in `open_stream`. -/
  | opening (addr : Str)
  /-- `dial_direct`: writing `RelayOpen`. -/
  | announcing (addr : Str)
  /-- `dial_direct`: reading the answer to it. -/
  | awaiting (addr : Str)
  | established (addr : Str)
  /-- Failed, with the address if there was one. -/
  | failed (addr : Option Str) (e : DaemonError)
  deriving DecidableEq

/-- The address that the dial has got. -/
def DialPhase.addr : DialPhase → Option Str
  | resolving _ => none
  | pooling addr => some addr
  | connecting addr => some addr
  | authenticating addr => some addr
  | opening addr => some addr
  | announcing addr => some addr
  | awaiting addr => some addr
  | established addr => some addr
  | failed addr _ => addr

structure Dial where
  target : Str
  phase : DialPhase
  deriving DecidableEq

structure State where
  resolver : Resolver.State
  /-- The addresses in `mux_pool`. -/
  muxPool : List Str
  dials : List Dial

/-- A step of a dial, with the outcome of what it awaited. -/
inductive DialStep where
  /-- `resolve` has returned. -/
  | resolved
  | pool
  | connect (ok : Bool)
  | authenticate (ok : Bool)
  | openStream (ok : Bool)
  | announce (ok : Bool)
  /-- The type of the frame that was read, or an error. -/
  | ack (frameType : Option FrameType)
  deriving DecidableEq, Repr

inductive Step where
  | dial (target : Str)
  | own (d : Nat) (step : DialStep)
  /-- A step of a call inside the resolver. -/
  | resolver (k : Nat) (step : CallStep)
  | tick (d : Nat)
  deriving DecidableEq, Repr

/-- `target.starts_with("agt_")`. -/
def isAgent (target : Str) : Bool := "agt_".toList.isPrefixOf target

namespace DaemonConfig

variable (c : DaemonConfig)

/-- With the address in hand, `dial` goes on in `dial_mux` or in `dial_direct`. -/
def start (addr : Str) : DialPhase := if c.useMux then .pooling addr else .connecting addr

/-- `dial`, up to the first thing it awaits. -/
def dial (s : State) (target : Str) : State :=
  if isAgent target then
    match c.resolver with
    | some _ =>
      { s with resolver := { s.resolver with calls := s.resolver.calls ++ [⟨target, .checking⟩] }
               dials := s.dials ++ [⟨target, .resolving s.resolver.calls.length⟩] }
    | none => { s with dials := s.dials ++ [⟨target, .failed none .noResolver⟩] }
  else { s with dials := s.dials ++ [⟨target, c.start target⟩] }

/-- What a dial does next, and what it puts into the pool. -/
def dialStep (s : State) (phase : DialPhase) (step : DialStep) : Option (DialPhase × List Str) :=
  match phase, step with
  | .resolving k, .resolved =>
    match (s.resolver.calls[k]?).map Resolver.Call.phase with
    | some (.returned (.ok addr)) => some (c.start addr, [])
    | some (.returned (.error e)) => some (.failed none (.resolve e), [])
    | _ => none
  | .pooling addr, .pool =>
    some (if addr ∈ s.muxPool then .opening addr else .connecting addr, [])
  | .connecting addr, .connect ok =>
    some (if ok then .authenticating addr else .failed (some addr) .io, [])
  | .authenticating addr, .authenticate ok =>
    if ok then
      -- `create_mux_conn` returns, and the connection goes into the pool
      if c.useMux then some (.opening addr, [addr]) else some (.announcing addr, [])
    else some (.failed (some addr) .auth, [])
  | .opening addr, .openStream ok =>
    some (if ok then .established addr else .failed (some addr) .sendFailed, [])
  | .announcing addr, .announce ok =>
    some (if ok then .awaiting addr else .failed (some addr) .protocol, [])
  | .awaiting addr, .ack frameType =>
    some (if frameType = some .relayOpenAck then .established addr
      else .failed (some addr) .protocol, [])
  | _, _ => none

def step (s : State) : Step → Option State
  | .dial target => some (c.dial s target)
  | .own d step =>
    (s.dials[d]?).bind fun dial => (c.dialStep s dial.phase step).map fun (phase, added) =>
      { s with dials := s.dials.set d { dial with phase := phase }
               muxPool := s.muxPool ++ added }
  | .resolver k step =>
    c.resolver.bind fun r => (r.step s.resolver (.call k step)).map fun u =>
      { s with resolver := u }
  | .tick d => some { s with resolver := { s.resolver with clock := s.resolver.clock + d } }

/-- **The manager's dials with the resolver.** -/
def machine : Machine State Step where
  init := { resolver := { clock := 0, holder := none, cache := fun _ => none, calls := [] }
            muxPool := []
            dials := [] }
  step := c.step

end DaemonConfig

/-- What the resolver sees of a step. -/
def resolverSteps : Step → List Resolver.Step
  | .dial target => if isAgent target then [.resolve target] else []
  | .own _ _ => []
  | .resolver k step => [.call k step]
  | .tick d => [.tick d]

/-- What happens to the cache in a run. -/
def cacheTrace (r : Config) (steps : List Step) : List Resolver.Event :=
  r.machine.trace Resolver.event r.machine.init (steps.flatMap resolverSteps)

/-! ## The resolver inside the manager -/

section Inside

variable {c : DaemonConfig} {r : Config} {s t : State} {steps : List Step} {step : Step}

theorem dial_of_agent (hr : c.resolver = some r) {target : Str} (h : isAgent target = true) :
    c.dial s target =
      { s with resolver := { s.resolver with calls := s.resolver.calls ++ [⟨target, .checking⟩] }
               dials := s.dials ++ [⟨target, .resolving s.resolver.calls.length⟩] } := by
  unfold DaemonConfig.dial
  rw [if_pos h, hr]

theorem dial_of_not {target : Str} (h : ¬ isAgent target = true) :
    c.dial s target = { s with dials := s.dials ++ [⟨target, c.start target⟩] } := by
  unfold DaemonConfig.dial
  rw [if_neg h]

/-- The resolver makes the steps it sees. -/
theorem run_resolverSteps (hr : c.resolver = some r) (h : c.step s step = some t) :
    r.machine.run s.resolver (resolverSteps step) = some t.resolver := by
  cases step with
  | dial target =>
    rw [← Option.some.inj h]
    by_cases hagent : isAgent target = true
    · rw [dial_of_agent hr hagent, resolverSteps, if_pos hagent]
      rfl
    · rw [dial_of_not hagent, resolverSteps, if_neg hagent]
      rfl
  | own d own =>
    obtain ⟨dial, -, hown⟩ := Option.bind_eq_some_iff.mp h
    obtain ⟨⟨phase, added⟩, -, rfl⟩ := Option.map_eq_some_iff.mp hown
    rfl
  | resolver k own =>
    obtain ⟨r', hr', hown⟩ := Option.bind_eq_some_iff.mp h
    obtain rfl : r = r' := Option.some.inj (hr.symm.trans hr')
    obtain ⟨u, hu, rfl⟩ := Option.map_eq_some_iff.mp hown
    exact r.machine.run_cons.mpr ⟨u, hu, rfl⟩
  | tick d =>
    rw [← Option.some.inj h]
    rfl

/-- **The resolver of a run of the manager has made a run of its own.** -/
theorem resolver_run (hr : c.resolver = some r)
    (hrun : c.machine.run c.machine.init steps = some s) :
    r.machine.run r.machine.init (steps.flatMap resolverSteps) = some s.resolver :=
  c.machine.run_flatMap r.machine (f := State.resolver) (fun _ _ _ h => run_resolverSteps hr h) hrun

/-- The cache invariant holds in every run of the daemon. -/
theorem cached_of_run (hr : c.resolver = some r)
    (hrun : c.machine.run c.machine.init steps = some s) :
    Resolver.Cached r (cacheTrace r steps) s.resolver :=
  r.machine.run_trace (Resolver.cached_init r) (fun _ _ _ _ h ht => Resolver.cached_step h ht)
    (resolver_run hr hrun)

/-- **The manager never invalidates an entry.** -/
theorem not_invalidated (r : Config) (steps : List Step) (agentId : Str) :
    .invalidated agentId ∉ cacheTrace r steps := by
  intro h
  obtain ⟨u, a, ha, hevent⟩ := r.machine.exists_of_mem_trace h
  obtain rfl := Resolver.eq_of_event_invalidated hevent
  obtain ⟨step, -, hstep⟩ := List.mem_flatMap.mp ha
  cases step with
  | dial target =>
    rw [resolverSteps] at hstep
    split_ifs at hstep <;> simp at hstep
  | own d own => cases hstep
  | resolver k own | tick d => cases List.mem_singleton.mp hstep

/-! ## What a dial has got -/

/-- What a dial knows of its call of the resolver. -/
structure Dial.Knows (s : Resolver.State) (dial : Dial) : Prop where
  resolving : ∀ k, dial.phase = .resolving k → ∃ p, s.calls[k]? = some ⟨dial.target, p⟩
  /-- The address of an agent is what a call for it has returned. -/
  addr : isAgent dial.target = true → ∀ addr, dial.phase.addr = some addr →
    ∃ k : Nat, s.calls[k]? = some ⟨dial.target, .returned (.ok addr)⟩

/-- A dial knows its call also when the resolver goes on. -/
theorem Dial.Knows.stays {u v : Resolver.State} {dial : Dial} (h : dial.Knows u)
    (hstays : ∀ (k : Nat) call, u.calls[k]? = some call → call.Stays v.calls k) : dial.Knows v := by
  refine ⟨fun k hk => ?_, fun hagent addr haddr => ?_⟩
  · obtain ⟨p, hp⟩ := h.resolving k hk
    obtain ⟨p', hp', -⟩ := hstays k _ hp
    exact ⟨p', hp'⟩
  · obtain ⟨k, hk⟩ := h.addr hagent addr haddr
    obtain ⟨p', hp', hsame⟩ := hstays k _ hk
    rw [hsame _ rfl] at hp'
    exact ⟨k, hp'⟩

theorem addr_start (c : DaemonConfig) (addr : Str) : (c.start addr).addr = some addr := by
  unfold DaemonConfig.start
  split_ifs <;> rfl

theorem start_ne_resolving (c : DaemonConfig) (addr : Str) (k : Nat) :
    c.start addr ≠ .resolving k := by
  unfold DaemonConfig.start
  split_ifs <;> nofun

/-- What a dial's next phase says of the one before: it has the same address, or none, or that which
its call has returned. -/
structure Continues (s : State) (phase next : DialPhase) : Prop where
  resolving : ∀ k, next ≠ .resolving k
  addr : ∀ addr, next.addr = some addr → phase.addr = some addr ∨
    ∃ k, phase = .resolving k ∧
      (s.resolver.calls[k]?).map Resolver.Call.phase = some (.returned (.ok addr))

/-- A dial's own steps continue its phase. -/
theorem continues_of_dialStep {phase next : DialPhase} {own : DialStep} {added : List Str}
    (h : c.dialStep s phase own = some (next, added)) : Continues s phase next := by
  have hkeep : ∀ {next : DialPhase}, next.addr = phase.addr → (∀ k, next ≠ .resolving k) →
      Continues s phase next :=
    fun heq hne => ⟨hne, fun addr haddr => Or.inl (heq ▸ haddr)⟩
  unfold DaemonConfig.dialStep at h
  split at h
  case h_1 k =>
    split at h
    · next addr hreturned =>
      cases h
      refine ⟨start_ne_resolving c addr, fun addr' haddr => Or.inr ⟨k, rfl, ?_⟩⟩
      rw [addr_start] at haddr
      rw [hreturned, Option.some.inj haddr]
    · cases h
      exact ⟨nofun, nofun⟩
    · cases h
  case h_4 =>
    split_ifs at h <;> cases h <;> exact hkeep rfl nofun
  case h_8 => cases h
  all_goals
    obtain ⟨rfl, -⟩ := Prod.mk.inj (Option.some.inj h)
    split_ifs <;> exact hkeep rfl nofun

theorem Dial.Knows.next {dial : Dial} {next : DialPhase} (h : dial.Knows s.resolver)
    (hnext : Continues s dial.phase next) :
    ({ dial with phase := next } : Dial).Knows s.resolver := by
  refine ⟨fun k hk => absurd hk (hnext.resolving k), fun hagent addr haddr => ?_⟩
  rcases hnext.addr addr haddr with hsame | ⟨k, hresolving, hreturned⟩
  · exact h.addr hagent addr hsame
  · obtain ⟨p, hp⟩ := h.resolving k hresolving
    rw [hp] at hreturned
    obtain rfl : p = _ := Option.some.inj hreturned
    exact ⟨k, hp⟩

/-- **Every step keeps what the dials know.** -/
theorem knows_step (hr : c.resolver = some r) (h : ∀ dial ∈ s.dials, dial.Knows s.resolver)
    (ht : c.step s step = some t) : ∀ dial ∈ t.dials, dial.Knows t.resolver := by
  cases step with
  | dial target =>
    rw [← Option.some.inj ht]
    by_cases hagent : isAgent target = true
    · rw [dial_of_agent hr hagent]
      refine Tasks.forall_mem_append
        (fun dial hdial => (h dial hdial).stays fun k call hk => ?_) ?_
      · exact Resolver.Call.stays_self (Tasks.append_of_some hk)
      · refine ⟨fun k hk => ⟨.checking, ?_⟩, nofun⟩
        cases hk
        exact List.getElem?_concat_length
    · rw [dial_of_not hagent]
      refine Tasks.forall_mem_append h ?_
      exact ⟨fun k hk => absurd hk (start_ne_resolving c target k), fun h => absurd h hagent⟩
  | own d own =>
    obtain ⟨dial, hdial, hown⟩ := Option.bind_eq_some_iff.mp ht
    obtain ⟨⟨next, added⟩, hnext, rfl⟩ := Option.map_eq_some_iff.mp hown
    exact Tasks.forall_mem_set d h
      ((h dial (List.mem_of_getElem? hdial)).next (continues_of_dialStep hnext))
  | resolver k own =>
    obtain ⟨r', -, hown⟩ := Option.bind_eq_some_iff.mp ht
    obtain ⟨u, hu, rfl⟩ := Option.map_eq_some_iff.mp hown
    exact fun dial hdial =>
      (h dial hdial).stays fun k call hk => (Resolver.move_of_step hu).stays hk
  | tick d =>
    rw [← Option.some.inj ht]
    exact fun dial hdial => (h dial hdial).stays fun k call hk => Resolver.Call.stays_self hk

/-- In every run a dial has what its call of the resolver returned. -/
theorem knows_of_run (hr : c.resolver = some r)
    (hrun : c.machine.run c.machine.init steps = some s) :
    ∀ dial ∈ s.dials, dial.Knows s.resolver :=
  c.machine.run_invariant (I := fun s : State => ∀ dial ∈ s.dials, dial.Knows s.resolver)
    (fun _ _ _ h ht => knows_step hr h ht) (List.forall_mem_nil _) hrun

/-- A dial of an agent that has got an address got it from an answer that is still the latest, or
has been replaced by a later one. -/
theorem exists_latest_of_addr (hr : c.resolver = some r)
    (hrun : c.machine.run c.machine.init steps = some s) {dial : Dial} (hdial : dial ∈ s.dials)
    (hagent : isAgent dial.target = true) {addr : Str} (haddr : dial.phase.addr = some addr) :
    ∃ i, Resolver.Latest (cacheTrace r steps) dial.target i := by
  obtain ⟨k, hk⟩ := (knows_of_run hr hrun dial hdial).addr hagent addr haddr
  have hknown := (cached_of_run hr hrun).known _ (List.mem_of_getElem? hk)
  obtain ⟨i, hi, hid⟩ := hknown addr rfl
  exact Resolver.exists_latest (not_invalidated r steps dial.target) hi hid

end Inside

/-- **When a dial asks the registry after a failed one.** In every run, once a dial to an agent has
got an address and failed, there is a latest answer for the agent in the cache; and a dial to the
same agent that looks into the cache then asks the registry exactly when that answer has expired: 60
s after it was stored, if it is an endpoint. -/
theorem redial_asks_iff (c : DaemonConfig) (r : Config) (hr : c.resolver = some r)
    (steps : List Step) (s : State) (hrun : c.machine.run c.machine.init steps = some s)
    (target addr : Str) (e : DaemonError) (hagent : isAgent target = true)
    (hfailed : ⟨target, .failed (some addr) e⟩ ∈ s.dials) :
    ∃ i, Resolver.Latest (cacheTrace r steps) target i ∧
      ∀ k t, s.resolver.calls[k]? = some ⟨target, .checking⟩ →
        c.machine.step s (.resolver k .check) = some t →
        (t.resolver.calls[k]? = some ⟨target, .sending (r.discoverUrl target)⟩ ↔
          i.read + i.answer.ttl ≤ s.resolver.clock) := by
  obtain ⟨i, hlatest⟩ := exists_latest_of_addr hr hrun hfailed hagent rfl
  refine ⟨i, hlatest, fun k t hk ht => ?_⟩
  have hentry := (cached_of_run hr hrun).latest target i hlatest
  obtain ⟨r', hr', hcheck⟩ := Option.bind_eq_some_iff.mp ht
  obtain rfl : r = r' := Option.some.inj (hr.symm.trans hr')
  obtain ⟨u, hu, rfl⟩ := Option.map_eq_some_iff.mp hcheck
  rw [← Resolver.lookup_eq_none_iff hentry]
  show u.calls[k]? = _ ↔ _
  rw [Resolver.calls_of_check hk hu]
  cases s.resolver.lookup target <;> simp

/-- A manager without a pool, with the resolver of the samples. -/
def sampleManager : DaemonConfig := { resolver := some Resolver.sampleResolver, useMux := false }

/-- A dial gets an endpoint from the registry and cannot connect to it. -/
def failedDial : List Step :=
  [.dial "agt_1".toList, .resolver 0 .check, .resolver 0 (.send (some 200)), .resolver 0 .lock,
    .resolver 0 (.body (some [])), .resolver 0 .insert, .own 0 .resolved, .own 0 (.connect false)]

/-- A second later the target is dialled again, up to the look into the cache. -/
def secondDial : List Step := failedDial ++ [.tick (Resolver.fromSecs 1), .dial "agt_1".toList]

/-- The second dial asks the registry exactly when the answer of the first has run out. -/
theorem redial_asks_sample :
    ∃ s t, sampleManager.machine.run sampleManager.machine.init secondDial = some s ∧
      s.resolver.calls[1]? = some ⟨"agt_1".toList, .checking⟩ ∧
      sampleManager.machine.step s (.resolver 1 .check) = some t ∧
      ∃ i, Resolver.Latest (cacheTrace Resolver.sampleResolver secondDial) "agt_1".toList i ∧
        (t.resolver.calls[1]? = some ⟨"agt_1".toList,
            .sending (Resolver.sampleResolver.discoverUrl "agt_1".toList)⟩ ↔
          i.read + i.answer.ttl ≤ s.resolver.clock) := by
  refine ⟨_, _, rfl, rfl, rfl, ?_⟩
  obtain ⟨i, hlatest, hasks⟩ := redial_asks_iff sampleManager Resolver.sampleResolver rfl secondDial
    _ rfl "agt_1".toList "h:1".toList .io rfl (List.mem_cons_self ..)
  exact ⟨i, hlatest, hasks 1 _ rfl rfl⟩

/-- **The endpoint that failed is used again.** The resolver answers the second dial from its cache,
and the dial connects to the same address. -/
theorem redial_reuses :
    ∃ s, sampleManager.machine.run sampleManager.machine.init
        (secondDial ++ [.resolver 1 .check, .own 1 .resolved]) = some s ∧
      s.dials = [⟨"agt_1".toList, .failed (some "h:1".toList) .io⟩,
        ⟨"agt_1".toList, .connecting "h:1".toList⟩] :=
  ⟨_, rfl, rfl⟩

end Roboat.Daemon.Discovery
