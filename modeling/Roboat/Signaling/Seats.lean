import Roboat.Signaling.Rendezvous

/-! # Seats in signaling sessions

What holds of the sessions in every run, whatever the registry maps: a handler goes through its
phases in one direction (`Reached.step`), and it sits in at most one session, in its own role, and
only while it is installed (`Seated`). -/

namespace Roboat.Signaling

namespace Phase

/-- Before the install. -/
def isEarly : Phase → Bool
  | upgraded => true
  | located _ => true
  | _ => false

/-- After the peer was cleared. -/
def isGone : Phase → Bool
  | cleared _ _ => true
  | returned => true
  | _ => false

/-- The session in which the peer was installed, while its pumps run. -/
def installedIn : Phase → Option Nat
  | installed sid => some sid
  | _ => none

/-- The way of a handler. -/
inductive Next : Phase → Phase → Prop
  | locate {sid : Nat} : Next upgraded (located sid)
  | install {sid : Nat} : Next (located sid) (installed sid)
  | refuse {sid : Nat} : Next (located sid) debounced
  | clear {sid : Nat} {removeSession : Bool} : Next (installed sid) (cleared sid removeSession)
  | leave {sid : Nat} {removeSession : Bool} : Next (cleared sid removeSession) returned

end Phase

namespace State

/-- Whoever sits in a session is installed there. -/
def Seated (s : State) : Prop :=
  ∀ sid role p, (s.session sid).peer role = some p →
    ∃ hd, s.handlers[p]? = some hd ∧ hd.role = role ∧ hd.phase = .installed sid

/-- Handler `p` has reached a phase of some kind. -/
def Reached (kind : Phase → Bool) (s : State) (p : Nat) : Prop :=
  ∃ hd, s.handlers[p]? = some hd ∧ kind hd.phase = true

/-- Handler `p` is past its install, or was refused. -/
def Late : State → Nat → Prop := Reached fun phase => !phase.isEarly

/-- The peer of handler `p` was cleared. -/
def Gone : State → Nat → Prop := Reached Phase.isGone

variable {s t : State} {h p sid : Nat} {hd : Handler}

/-- A handler before its install is not past it. -/
theorem not_late (hh : s.handlers[h]? = some hd) (hphase : hd.phase.isEarly = true) :
    ¬ s.Late h := by
  rintro ⟨hd', hh', hlate⟩
  obtain rfl : hd = hd' := Option.some.inj (hh.symm.trans hh')
  simp [hphase] at hlate

/-- The seats after a handler has gone on that does not sit among them. -/
theorem Seated.of_set (hs : Seated s) (hh : s.handlers[h]? = some hd) {phase : Phase}
    (hhandlers : t.handlers = s.handlers.set h { hd with phase := phase })
    (hseats : ∀ sid role p, (t.session sid).peer role = some p →
      (s.session sid).peer role = some p ∧ p ≠ h) : Seated t := by
  intro sid role p hseat
  obtain ⟨hold, hne⟩ := hseats sid role p hseat
  rw [hhandlers]
  exact Tasks.exists_set hh (fun hph => absurd hph hne) (hs sid role p hold)

/-- Who is not installed sits nowhere. -/
theorem Seated.ne_of_installedIn (hs : Seated s) (hh : s.handlers[h]? = some hd)
    (hphase : hd.phase.installedIn = none) {role : Role}
    (hseat : (s.session sid).peer role = some p) : p ≠ h := by
  rintro rfl
  obtain ⟨hd', hp, -, hinstalled⟩ := hs sid role p hseat
  obtain rfl : hd = hd' := Option.some.inj (hh.symm.trans hp)
  rw [hinstalled] at hphase
  cases hphase

theorem handlers_getOrCreate (s : State) (h : Nat) (hd : Handler) :
    ∃ sid, (s.getOrCreate h hd).handlers = s.handlers.set h { hd with phase := .located sid } := by
  unfold State.getOrCreate
  split <;> exact ⟨_, rfl⟩

/-- `Registry.GetOrCreate` seats nobody. -/
theorem peer_of_getOrCreate {role : Role}
    (hseat : ((s.getOrCreate h hd).session sid).peer role = some p) :
    (s.session sid).peer role = some p := by
  unfold State.getOrCreate at hseat
  split at hseat
  · exact hseat
  -- a new session is empty
  · simp only [State.setPhase, Function.update_apply] at hseat
    split_ifs at hseat
    · cases role <;> cases hseat
    · exact hseat

/-- Clearing a peer seats nobody. -/
theorem peer_of_disconnect {sid' : Nat} {role : Role}
    (hseat : ((s.disconnect h hd sid').session sid).peer role = some p) :
    (s.session sid).peer role = some p := by
  simp only [State.disconnect, State.setPhase, Function.update_apply] at hseat
  -- the own seat is cleared only if it is still the handler's
  split_ifs at hseat with hsid hown
  · by_cases hrole : role = hd.role
    · rw [hrole, Session.peer_setPeer_self] at hseat
      cases hseat
    · rw [Session.peer_setPeer_of_ne _ _ hrole] at hseat
      rw [hsid]
      exact hseat
  · rw [hsid]
    exact hseat
  · exact hseat

/-- Whose peer was cleared sits nowhere. -/
theorem ne_of_disconnect (hs : Seated s) (hh : s.handlers[h]? = some hd) {sid' : Nat}
    (hphase : hd.phase = .installed sid') {role : Role}
    (hseat : ((s.disconnect h hd sid').session sid).peer role = some p) : p ≠ h := by
  rintro rfl
  have hold := peer_of_disconnect hseat
  obtain ⟨hd', hp, rfl, hinstalled⟩ := hs sid role p hold
  obtain rfl : hd = hd' := Option.some.inj (hh.symm.trans hp)
  obtain rfl : sid' = sid := by
    rw [hphase] at hinstalled
    exact Phase.installed.inj hinstalled
  simp only [State.disconnect, State.setPhase, Function.update_self] at hseat
  rw [if_pos hold, Session.peer_setPeer_self] at hseat
  cases hseat

/-- A seat after an install: the new peer has it, or it was there before and is another one. -/
theorem peer_of_install {fold : Char → Char} {window : Int} {sid' : Nat} {role : Role}
    (hinstall : shouldDebouncePeerReplacement fold
      (((s.session sid').peer hd.role).bind s.peerConn) hd.peer window = false)
    (hseat : ((s.install fold window h hd sid').session sid).peer role = some p) :
    (p = h ∧ sid = sid' ∧ role = hd.role) ∨
      ((s.session sid).peer role = some p ∧ ¬ (sid = sid' ∧ role = hd.role)) := by
  simp only [State.install, hinstall, Bool.false_eq_true, if_false, State.setPhase,
    Function.update_apply] at hseat
  split_ifs at hseat with hsid
  · by_cases hrole : role = hd.role
    · rw [hrole, Session.peer_setPeer_self] at hseat
      exact Or.inl ⟨(Option.some.inj hseat).symm, hsid, hrole⟩
    · rw [Session.peer_setPeer_of_ne _ _ hrole] at hseat
      rw [hsid]
      exact Or.inr ⟨hseat, fun hboth => hrole hboth.2⟩
  · exact Or.inr ⟨hseat, fun hboth => hsid hboth.1⟩

/-- Installing a peer, or refusing it, keeps the seats. -/
theorem Seated.install (hs : Seated s) (fold : Char → Char) (window : Int)
    (hh : s.handlers[h]? = some hd) (hphase : hd.phase = .located sid) :
    Seated (s.install fold window h hd sid) := by
  have hnone : hd.phase.installedIn = none := by rw [hphase]; rfl
  by_cases hrefused : shouldDebouncePeerReplacement fold
      (((s.session sid).peer hd.role).bind s.peerConn) hd.peer window = true
  -- a handler that is refused goes on without a seat
  · simp only [State.install, hrefused, if_true]
    exact hs.of_set hh rfl fun sid role p hseat => ⟨hseat, hs.ne_of_installedIn hh hnone hseat⟩
  · have hinstall := Bool.not_eq_true _ ▸ hrefused
    intro sid' role p hseat
    rcases peer_of_install hinstall hseat with ⟨rfl, rfl, rfl⟩ | ⟨hold, -⟩
    · simp only [State.install, hinstall, Bool.false_eq_true, if_false]
      exact ⟨_, Tasks.set_self hh, rfl, rfl⟩
    · have hne := hs.ne_of_installedIn hh hnone hold
      simp only [State.install, hinstall, Bool.false_eq_true, if_false]
      exact Tasks.exists_set hh (fun hph => absurd hph hne) (hs sid' role p hold)

/-- **Every step keeps the seats.** -/
theorem Seated.step (env : Env) {a : Step} (hs : Seated s) (hstep : s.step env a = some t) :
    Seated t := by
  cases move_of_step hstep with
  | connect =>
    intro sid role p hseat
    obtain ⟨hd, hp, hrole, hphase⟩ := hs sid role p hseat
    exact ⟨hd, Tasks.append_of_some hp, hrole, hphase⟩
  | @getOrCreate h hd hh hphase =>
    obtain ⟨sid, hhandlers⟩ := handlers_getOrCreate s h hd
    refine hs.of_set hh hhandlers fun sid role p hseat => ?_
    have hold := peer_of_getOrCreate hseat
    exact ⟨hold, hs.ne_of_installedIn hh (by rw [hphase]; rfl) hold⟩
  | install hh hphase => exact hs.install env.fold env.window hh hphase
  | disconnect hh hphase =>
    exact hs.of_set hh rfl fun _ _ _ hseat =>
      ⟨peer_of_disconnect hseat, ne_of_disconnect hs hh hphase hseat⟩
  | @leave h sid hd removeSession hh hphase =>
    -- `Registry.Remove` may take the session out of the map, not out of the handlers' hands
    have hnone : hd.phase.installedIn = none := by rw [hphase]; rfl
    unfold State.leave
    split <;>
      exact hs.of_set hh rfl fun _ _ _ hseat => ⟨hseat, hs.ne_of_installedIn hh hnone hseat⟩

/-- A step adds a handler, or takes one a step further. -/
theorem handlers_of_step (env : Env) {a : Step} (hstep : s.step env a = some t) :
    (∃ hd, t.handlers = s.handlers ++ [hd]) ∨
      ∃ h hd phase, s.handlers[h]? = some hd ∧ hd.phase.Next phase ∧
        t.handlers = s.handlers.set h { hd with phase := phase } := by
  cases move_of_step hstep with
  | connect => exact Or.inl ⟨_, rfl⟩
  | @getOrCreate h hd hh hphase =>
    obtain ⟨sid, hhandlers⟩ := handlers_getOrCreate s h hd
    exact Or.inr ⟨h, hd, _, hh, hphase ▸ .locate, hhandlers⟩
  | @install h sid hd hh hphase =>
    unfold State.install
    simp only
    split
    · exact Or.inr ⟨h, hd, _, hh, hphase ▸ .refuse, rfl⟩
    · exact Or.inr ⟨h, hd, _, hh, hphase ▸ .install, rfl⟩
  | @disconnect h sid hd hh hphase => exact Or.inr ⟨h, hd, _, hh, hphase ▸ .clear, rfl⟩
  | @leave h sid hd removeSession hh hphase =>
    refine Or.inr ⟨h, hd, .returned, hh, hphase ▸ .leave, ?_⟩
    cases removeSession <;> rfl

/-- A handler does not go back. -/
theorem Reached.step (env : Env) {kind : Phase → Bool} {a : Step} (hreached : s.Reached kind p)
    (hkind : ∀ phase phase', Phase.Next phase phase' → kind phase = true → kind phase' = true)
    (hstep : s.step env a = some t) : t.Reached kind p := by
  unfold Reached
  rcases handlers_of_step env hstep with ⟨hd, hhandlers⟩ | ⟨h, hd, phase, hh, hnext, hhandlers⟩
  · rw [hhandlers]
    obtain ⟨hd', hp, hphase⟩ := hreached
    exact ⟨hd', Tasks.append_of_some hp, hphase⟩
  · rw [hhandlers]
    exact Tasks.exists_set hh (fun _ hold => hkind _ _ hnext hold) hreached

theorem Late.step (env : Env) {a : Step} (hlate : s.Late p) (hstep : s.step env a = some t) :
    t.Late p :=
  Reached.step env hlate (fun _ _ hnext => by cases hnext <;> simp [Phase.isEarly]) hstep

theorem Gone.step (env : Env) {a : Step} (hgone : s.Gone p) (hstep : s.step env a = some t) :
    t.Gone p :=
  Reached.step env hgone (fun _ _ hnext => by cases hnext <;> simp [Phase.isGone]) hstep

end State

end Roboat.Signaling
