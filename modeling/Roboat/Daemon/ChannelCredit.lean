import Roboat.Daemon.TableLocks

/-! # Channels that are never full when it counts

`TableLocks` has two tasks that wait for room in a channel with a lock. Neither ever waits when what
is on the way to a channel always fits into it: an agent calls `send` only when the channel of the
stream has room for its data and that of all calls that have not returned, and a peer sends data
only when the receive channel has room for it and all data before it. That is what a flow control
with credits would do; the daemon has none. Under this condition stalled streams do not block others
(`stalledBlockNone_of_withinCredit`): whoever has a lock goes on by itself. -/

namespace Roboat.Daemon

namespace Demux

/-! ## The receive side -/

/-- What is in a channel. -/
def Chan.unread (c : Chan) : Nat := c.sent.length - c.taken

namespace Inbound

/-- What is in the channel whose sender is under `id`. -/
def unread (s : Inbound) (id : UInt32) : Nat :=
  match (s.table id).bind fun ch => s.chans[ch]? with
  | some c => c.unread
  | none => 0

/-- The frames the read task is not done with. -/
def ahead (s : Inbound) : List InFrame :=
  s.reader.sendingFrame ++ s.reader.lockingFrame ++ s.wire

/-- What is in the channel under `id` or on its way to it. -/
def load (s : Inbound) (id : UInt32) : Nat :=
  s.unread id + (s.ahead.flatMap fun f => f.dataFor id).length

end Inbound

/-- The data a step of the receive side adds to what is on its way. -/
def InboundStep.arriving (id : UInt32) : InboundStep → Nat
  | arrive f => (f.dataFor id).length
  | _ => 0

section Load

variable {s t : Inbound} {a : InboundStep} {id : UInt32} {ch : Nat} {c : Chan}

theorem unread_eq (htable : s.table id = some ch) (hc : s.chans[ch]? = some c) :
    s.unread id = c.unread := by
  simp [Inbound.unread, htable, hc]

/-- A bound for what is in the channel under an id. -/
theorem unread_le {n : Nat}
    (h : ∀ ch c, t.table id = some ch → t.chans[ch]? = some c → c.unread ≤ n) :
    t.unread id ≤ n := by
  unfold Inbound.unread
  split
  · rename_i c hsome
    obtain ⟨ch, htable, hc⟩ := Option.bind_eq_some_iff.mp hsome
    exact h ch c htable hc
  · exact Nat.zero_le n

theorem unread_dropReceiver (s : Inbound) (ch : Nat) :
    (s.dropReceiver ch).unread id = s.unread id := by
  unfold Inbound.dropReceiver
  split
  · rename_i d hd
    unfold Inbound.unread
    show (match (s.table id).bind fun i => (s.chans.set ch { d with dropped := true })[i]? with
      | some c => c.unread
      | none => 0) = _
    cases htable : s.table id with
    | none => rfl
    | some i =>
      simp only [Option.bind_some]
      by_cases hi : i = ch
      · subst hi
        rw [Tasks.set_self hd, hd]
        rfl
      · rw [List.getElem?_set_ne (Ne.symm hi)]
  · rfl

/-- The sender under one id is replaced by a new one. -/
theorem unread_insert_le (s : Inbound) (id' : UInt32) (own : Bool) :
    (s.insert id' own).unread id ≤ s.unread id := by
  refine unread_le fun ch c htable hc => ?_
  by_cases hid : id = id'
  · -- the new channel is empty
    subst hid
    obtain rfl : s.chans.length = ch :=
      Option.some.inj ((Function.update_self id _ s.table).symm.trans htable)
    rcases Tasks.of_append hc with ⟨-, rfl⟩ | ⟨hlt, -⟩
    · exact Nat.zero_le _
    · rw [length_detach] at hlt
      exact absurd hlt (Nat.lt_irrefl _)
  · have hold : s.table id = some ch := (Function.update_of_ne hid _ s.table).symm.trans htable
    rcases Tasks.of_append hc with ⟨-, rfl⟩ | ⟨-, hdetach⟩
    · exact Nat.zero_le _
    · obtain ⟨old, hch, ⟨rfl, -⟩ | ⟨rfl, -⟩⟩ := of_detach hdetach
      · exact (unread_eq hold hch).ge
      · exact (unread_eq hold hch).ge

/-- The sender under one id is taken out. -/
theorem unread_remove_le (s : Inbound) (id' : UInt32) :
    (s.remove id').unread id ≤ s.unread id := by
  refine unread_le fun ch c htable hc => ?_
  by_cases hid : id = id'
  · subst hid
    simp [Inbound.remove] at htable
  · have hold : s.table id = some ch := (Function.update_of_ne hid _ s.table).symm.trans htable
    obtain ⟨old, hch, ⟨rfl, -⟩ | ⟨rfl, -⟩⟩ := of_detach hc
    · exact (unread_eq hold hch).ge
    · exact (unread_eq hold hch).ge

/-- Data goes from the hand of the read task into its channel. -/
theorem unread_deliver (h : Delivery s) {f : InFrame} {data : Bytes} {c' : Chan}
    (hreader : s.reader = .sending f ch data) (hc : s.chans[ch]? = some c)
    (hc' : c'.unread ≤ c.unread + 1) :
    (s.setChan ch c').unread id ≤ s.unread id + (f.dataFor id).length := by
  obtain ⟨c₀, hc₀, hparse, -⟩ := h.sending f ch data hreader
  obtain rfl : c = c₀ := Option.some.inj (hc.symm.trans hc₀)
  refine unread_le fun i d (htable : s.table id = some i) hd => ?_
  rcases Tasks.of_set hd with ⟨rfl, rfl⟩ | ⟨-, hold⟩
  · -- the channel under `id` is the one that gets the data
    obtain ⟨c₁, hc₁, hid, -⟩ := h.table id i htable
    obtain rfl : c = c₁ := Option.some.inj (hc.symm.trans hc₁)
    have hdata : f.dataFor id = [data] := by simp [InFrame.dataFor, hparse, hid]
    rw [unread_eq htable hc, hdata]
    exact hc'
  · rw [← unread_eq htable hold]
    exact Nat.le_add_right _ _

/-- What a step takes from the frames ahead it may put into the channel. -/
theorem load_le {n : Nat} (hunread : t.unread id ≤ s.unread id + n)
    (hahead : (t.ahead.flatMap fun f => f.dataFor id).length + n
      ≤ (s.ahead.flatMap fun f => f.dataFor id).length) : t.load id ≤ s.load id := by
  unfold Inbound.load
  omega

/-- **What is on its way to a channel and in it grows only when a frame arrives.** -/
theorem load_of_step (h : Delivery s) (id : UInt32) (hstep : s.step a = some t) :
    t.load id ≤ s.load id + a.arriving id := by
  cases move_of_step hstep with
  | arrive f =>
    have hahead : ({ s with wire := s.wire ++ [f] } : Inbound).ahead = s.ahead ++ [f] :=
      (List.append_assoc _ _ _).symm
    simp only [Inbound.load, hahead, InboundStep.arriving, List.flatMap_append,
      List.length_append, List.flatMap_singleton]
    exact (Nat.add_assoc _ _ _).ge
  | skip hreader hwire =>
    refine load_le (n := 0) (Nat.le_refl _) ?_
    simp [Inbound.ahead, Inbound.finish, hreader, hwire]
  | take hreader hwire =>
    refine load_le (n := 0) (Nat.le_refl _) ?_
    simp [Inbound.ahead, hreader, hwire]
  | @processStreamOpen f id' cls hreader =>
    refine load_le (n := 0) (unread_insert_le s id' false) ?_
    simp [Inbound.ahead, Inbound.processStreamOpen, Inbound.insert, hreader]
  | find hreader | fail hreader =>
    refine load_le (n := 0) (Nat.le_refl _) ?_
    simp [Inbound.ahead, hreader]
  | unknown hreader | skipLocked hreader =>
    refine load_le (n := 0) (Nat.le_refl _) ?_
    simp [Inbound.ahead, Inbound.finish, hreader]
  | @close f id' hreader =>
    refine load_le (n := 0) (unread_le fun ch c htable hc => ?_) ?_
    · by_cases hid : id = id'
      · subst hid
        simp [Inbound.finish] at htable
      · exact (unread_eq ((Function.update_of_ne hid _ s.table).symm.trans htable) hc).ge
    · simp [Inbound.ahead, Inbound.finish, hreader]
  | @announce ch ok hreader =>
    cases ok with
    | true =>
      refine load_le (n := 0) (Nat.le_refl _) ?_
      simp [Inbound.ahead, hreader]
    | false =>
      refine load_le (n := 0) (unread_dropReceiver s ch).le ?_
      simp [Inbound.ahead, hreader, wire_dropReceiver]
  | @deliver f ch data c c' hreader hc hc' =>
    have hunread : c'.unread ≤ c.unread + 1 := by
      rcases hc' with ⟨-, rfl⟩ | rfl
      · exact Nat.le_succ _
      · simp only [Chan.unread, List.length_append, List.length_singleton]
        omega
    refine load_le (unread_deliver h hreader hc hunread) ?_
    simp [Inbound.ahead, Inbound.finish, Inbound.setChan, hreader, Nat.add_comm]
  | insert id' own => exact load_le (n := 0) (unread_insert_le s id' own) (Nat.le_refl _)
  | remove id' => exact load_le (n := 0) (unread_remove_le s id') (Nat.le_refl _)
  | @recv ch c hc =>
    refine load_le (n := 0) (unread_le fun i d htable hd => ?_) (Nat.le_refl _)
    rcases Tasks.of_set hd with ⟨rfl, rfl⟩ | ⟨-, hold⟩
    · refine le_trans ?_ (unread_eq (s := s) htable hc).ge
      exact Nat.sub_le_sub_left (Nat.le_succ _) _
    · exact (unread_eq (s := s) htable hold).ge
  | drop ch =>
    refine load_le (n := 0) (unread_dropReceiver s ch).le ?_
    unfold Inbound.ahead
    rw [reader_dropReceiver, wire_dropReceiver]
    exact Nat.le_refl _

/-- Channels stay where they are. -/
theorem length_chans_of_step (hstep : s.step a = some t) : s.chans.length ≤ t.chans.length := by
  refine Nat.le_of_not_lt fun hlt => ?_
  obtain ⟨c, hc⟩ := Tasks.exists_of_lt hlt
  obtain ⟨c', hc', -⟩ := chan_of_step hstep hc
  exact absurd (List.getElem?_eq_some_iff.mp hc').1 (Nat.lt_irrefl _)

/-- What the read task announces is a channel. -/
theorem announcing_of_step (hstep : s.step a = some t) (hreader : t.reader = .announcing ch) :
    s.reader = .announcing ch ∨ ch < t.chans.length := by
  cases move_of_step hstep with
  | processStreamOpen =>
    cases hreader
    right
    simp [Inbound.processStreamOpen, Inbound.insert]
  | drop ch' => exact Or.inl ((reader_dropReceiver s ch').symm.trans hreader)
  | arrive | insert | remove | recv => exact Or.inl hreader
  | skip | take | find | unknown | close | skipLocked | announce | deliver | fail => cases hreader

end Load

end Demux

namespace Locks

open Demux (Inbound InboundStep InFrame Chan FirstOpen)

/-! ## A connection -/

namespace Conn

/-- The channels that are announced and not yet registered. -/
def announced (conn : Conn) : List Nat :=
  (match conn.inbound.reader with
    | .announcing ch => [ch]
    | _ => []) ++
  (match conn.first with
    | .announcing ch => [ch]
    | _ => []) ++ conn.incoming ++ conn.registering.toList

/-- **The invariant of a connection**: what is on its way to a channel fits into it. -/
structure Sound (conn : Conn) : Prop where
  delivery : Demux.Delivery conn.inbound
  load : ∀ id, conn.inbound.load id ≤ channelCapacity
  incoming : conn.incoming.length ≤ channelCapacity
  known : ∀ ch ∈ conn.announced, ch < conn.inbound.chans.length

/-- There is room for the data of a frame. -/
def Fits (conn : Conn) (f : InFrame) : Prop :=
  match f.parse with
  | .streamData id _ => conn.inbound.load id < channelCapacity
  | _ => True

instance (conn : Conn) (f : InFrame) : Decidable (conn.Fits f) :=
  match h : f.parse with
  | .streamData id _ =>
    decidable_of_iff (conn.inbound.load id < channelCapacity) (by simp [Fits, h])
  | .streamOpen _ _ => isTrue (by simp [Fits, h])
  | .streamClose _ => isTrue (by simp [Fits, h])
  | .ignored => isTrue (by simp [Fits, h])

variable {conn conn' : Conn}

/-- The four places an announced channel can be in. -/
theorem mem_announced {ch : Nat} : ch ∈ conn.announced ↔
    conn.inbound.reader = .announcing ch ∨ conn.first = .announcing ch ∨ ch ∈ conn.incoming ∨
      conn.registering = some ch := by
  unfold announced
  cases conn.inbound.reader <;> cases conn.first <;> cases conn.registering <;>
    simp [eq_comm]

/-- A new connection is sound. -/
theorem sound_new (first : FirstOpen) (nextStreamId : UInt32)
    (hfirst : ∀ ch, first ≠ .announcing ch) :
    Sound ⟨nextStreamId, .empty, first, [], none, []⟩ where
  delivery := Demux.delivery_empty
  load id := Nat.zero_le _
  incoming := Nat.zero_le _
  known ch hch := by
    rcases mem_announced.mp hch with h | h | h | h
    · cases h
    · exact absurd h (hfirst ch)
    · cases h
    · cases h

/-- The data of a frame that fits. -/
theorem Fits.load_le (h : conn.Sound) {f : InFrame} (hfits : conn.Fits f) (id : UInt32) :
    conn.inbound.load id + (f.dataFor id).length ≤ channelCapacity := by
  unfold Fits at hfits
  unfold InFrame.dataFor
  cases hparse : f.parse with
  | streamData id' data =>
    rw [hparse] at hfits
    simp only
    split_ifs with hid
    · subst hid
      exact hfits
    · exact h.load id
  | streamOpen | streamClose | ignored => exact h.load id

namespace Sound

/-- An operation of the receive side. -/
theorem inbound (h : conn.Sound) {a : InboundStep} {inbound : Inbound}
    (hload : ∀ id, conn.inbound.load id + a.arriving id ≤ channelCapacity)
    (hstep : conn.inbound.step a = some inbound) : Sound { conn with inbound := inbound } where
  delivery := h.delivery.step hstep
  load id := le_trans (Demux.load_of_step h.delivery id hstep) (hload id)
  incoming := h.incoming
  known ch hch := by
    have hlength := Demux.length_chans_of_step hstep
    rcases mem_announced.mp hch with hreader | hother
    · rcases Demux.announcing_of_step hstep hreader with hold | hlt
      · exact Nat.lt_of_lt_of_le (h.known ch (mem_announced.mpr (Or.inl hold))) hlength
      · exact hlt
    · exact Nat.lt_of_lt_of_le (h.known ch (mem_announced.mpr (Or.inr hother))) hlength

/-- An operation of the receive side by which no frame arrives. -/
theorem inbound_of_arriving (h : conn.Sound) {a : InboundStep} {inbound : Inbound}
    (ha : ∀ id, a.arriving id = 0) (hstep : conn.inbound.step a = some inbound) :
    Sound { conn with inbound := inbound } :=
  h.inbound (fun id => by rw [ha]; exact h.load id) hstep

/-- Dropping an unclaimed receiver keeps a connection sound. -/
theorem dropUnclaimed (h : conn.Sound) (ch : Nat) : (conn.dropUnclaimed ch).Sound := by
  unfold Conn.dropUnclaimed
  split_ifs
  · exact h
  · by_cases hch : ch < conn.inbound.chans.length
    · exact h.inbound_of_arriving (a := .drop ch) (fun _ => rfl) (if_pos hch)
    · have hsame : conn.inbound.dropReceiver ch = conn.inbound := by
        unfold Inbound.dropReceiver
        rw [List.getElem?_eq_none (Nat.le_of_not_lt hch)]
      rw [hsame]
      exact h

/-- Opening a stream keeps a connection sound. -/
theorem openInsert (h : conn.Sound) {id : UInt32} (hopen : conn.openInsert id = some conn') :
    conn'.Sound := by
  obtain ⟨inbound, hinsert, rfl⟩ := Option.map_eq_some_iff.mp hopen
  have hsound := h.inbound_of_arriving (fun _ => rfl) hinsert
  exact ⟨hsound.delivery, hsound.load, hsound.incoming, hsound.known⟩

/-- Closing a stream keeps a connection sound. -/
theorem closeStream (h : conn.Sound) {id : UInt32} (hclose : conn.closeStream id = some conn') :
    conn'.Sound := by
  obtain ⟨inbound, hremove, rfl⟩ := Option.map_eq_some_iff.mp hclose
  exact h.inbound_of_arriving (fun _ => rfl) hremove

/-! An announced channel goes from the read task, or from the task of a responder, to `incoming_tx`
and from there to the registration task. -/

theorem known_reader (h : conn.Sound) {ch : Nat} (hreader : conn.inbound.reader = .announcing ch) :
    ch < conn.inbound.chans.length :=
  h.known ch (mem_announced.mpr (Or.inl hreader))

theorem known_first (h : conn.Sound) {ch : Nat} (hfirst : conn.first = .announcing ch) :
    ch < conn.inbound.chans.length :=
  h.known ch (mem_announced.mpr (Or.inr (Or.inl hfirst)))

theorem known_incoming (h : conn.Sound) {ch : Nat} (hch : ch ∈ conn.incoming) :
    ch < conn.inbound.chans.length :=
  h.known ch (mem_announced.mpr (Or.inr (Or.inr (Or.inl hch))))

theorem known_registering (h : conn.Sound) {ch : Nat} (hch : conn.registering = some ch) :
    ch < conn.inbound.chans.length :=
  h.known ch (mem_announced.mpr (Or.inr (Or.inr (Or.inr hch))))

/-- An announced channel goes from one place to the next. -/
theorem moveOn (h : conn.Sound) (hinbound : conn'.inbound = conn.inbound)
    (hlength : conn'.incoming.length ≤ channelCapacity)
    (hfirst : ∀ ch, conn'.first = .announcing ch → ch < conn.inbound.chans.length)
    (hincoming : ∀ ch ∈ conn'.incoming, ch < conn.inbound.chans.length)
    (hregistering : ∀ ch, conn'.registering = some ch → ch < conn.inbound.chans.length) :
    conn'.Sound where
  delivery := hinbound ▸ h.delivery
  load := hinbound ▸ h.load
  incoming := hlength
  known ch hch := by
    rw [hinbound]
    rcases mem_announced.mp hch with hreader | hch | hch | hch
    · exact h.known_reader (hinbound ▸ hreader)
    · exact hfirst ch hch
    · exact hincoming ch hch
    · exact hregistering ch hch

/-- The read task announces a stream. -/
theorem announce (h : conn.Sound) (hstep : conn.step .announce = some conn') : conn'.Sound := by
  simp only [Conn.step] at hstep
  split at hstep
  · rename_i ch hreader
    obtain ⟨hroom, hstep⟩ := Option.ite_none_right_eq_some.mp hstep
    obtain ⟨inbound, hinbound, rfl⟩ := Option.map_eq_some_iff.mp hstep
    have hsound := h.inbound_of_arriving (fun _ => rfl) hinbound
    have hch : ch < inbound.chans.length :=
      Nat.lt_of_lt_of_le (h.known_reader hreader) (Demux.length_chans_of_step hinbound)
    refine hsound.moveOn rfl ?_ (fun _ => hsound.known_first)
      (Tasks.forall_mem_append (fun _ => hsound.known_incoming) hch)
      (fun _ => hsound.known_registering)
    rw [List.length_append, List.length_singleton]
    exact hroom
  · cases hstep

/-- The task of a responder inserts the first stream. -/
theorem firstOpen (h : conn.Sound) (hstep : conn.step .firstOpen = some conn') : conn'.Sound := by
  simp only [Conn.step] at hstep
  split at hstep
  · split at hstep
    · -- the payload is no request for a stream: nothing is announced
      cases hstep
      exact h.moveOn rfl h.incoming (fun i hi => by cases hi) (fun _ => h.known_incoming)
        fun _ => h.known_registering
    · rename_i id cls hparse
      obtain ⟨inbound, hinsert, rfl⟩ := Option.map_eq_some_iff.mp hstep
      have hsound := h.inbound_of_arriving (fun _ => rfl) hinsert
      refine hsound.moveOn rfl h.incoming (fun i hi => ?_) (fun _ => hsound.known_incoming)
        fun _ => hsound.known_registering
      cases hi
      obtain ⟨-, rfl⟩ := Demux.insert_of_step hinsert
      simp [Inbound.insert]
  · cases hstep

/-- The task of a responder announces the first stream. -/
theorem firstAnnounce (h : conn.Sound) (hstep : conn.step .firstAnnounce = some conn') :
    conn'.Sound := by
  simp only [Conn.step] at hstep
  split at hstep
  · rename_i ch hfirst
    obtain ⟨hroom, hstep⟩ := Option.ite_none_right_eq_some.mp hstep
    cases hstep
    refine h.moveOn rfl ?_ (fun i hi => by cases hi)
      (Tasks.forall_mem_append (fun _ => h.known_incoming) (h.known_first hfirst))
      fun _ => h.known_registering
    rw [List.length_append, List.length_singleton]
    exact hroom
  · cases hstep

/-- The registration task takes an announced stream. -/
theorem takeIncoming (h : conn.Sound) (hstep : conn.step .takeIncoming = some conn') :
    conn'.Sound := by
  simp only [Conn.step] at hstep
  split at hstep
  · rename_i ch rest hregistering hincoming
    cases hstep
    have hmem : ∀ i ∈ ch :: rest, i < conn.inbound.chans.length :=
      fun i hi => h.known_incoming (hincoming ▸ hi)
    have hlength := h.incoming
    rw [hincoming] at hlength
    refine h.moveOn rfl (Nat.le_of_succ_le hlength) (fun _ => h.known_first)
      (fun i hi => hmem i (List.mem_cons_of_mem _ hi)) fun i hi => ?_
    cases hi
    exact hmem _ (List.mem_cons_self ..)
  · cases hstep

/-- **An operation of the connection.** -/
theorem step (h : conn.Sound) {a : ConnStep} (hfits : ∀ f, a = .inbound (.arrive f) → conn.Fits f)
    (hstep : conn.step a = some conn') : conn'.Sound := by
  cases a with
  | inbound a =>
    obtain ⟨-, hstep⟩ := Option.ite_none_right_eq_some.mp hstep
    obtain ⟨inbound, hinbound, rfl⟩ := Option.map_eq_some_iff.mp hstep
    refine h.inbound (fun id => ?_) hinbound
    cases a with
    | arrive f => exact (hfits f rfl).load_le h id
    | _ => exact h.load id
  | announce => exact h.announce hstep
  | firstOpen => exact h.firstOpen hstep
  | firstAnnounce => exact h.firstAnnounce hstep
  | takeIncoming => exact h.takeIncoming hstep

end Sound

end Conn

/-! ## The daemon -/

def CallKind.isSend : CallKind → Bool
  | send _ => true
  | close => false

def CallPhase.isReturned : CallPhase → Bool
  | returned _ => true
  | _ => false

/-- The call is a `send` on `id` that has not returned. -/
def Call.pendingOn (id : UInt32) (call : Call) : Bool :=
  call.id == id && call.kind.isSend && !call.phase.isReturned

namespace State

/-- What is in the data channel of the stream under `id`. -/
def queued (s : State) (id : UInt32) : Nat :=
  match (s.table id).bind fun i => s.streams[i]? with
  | some st => st.task.queue.length
  | none => 0

/-- What is in the data channel of the stream under `id` or on its way to it. -/
def load (s : State) (id : UInt32) : Nat := s.queued id + s.calls.countP (Call.pendingOn id)

/-- **The condition**: an agent calls `send`, and a peer sends data, only when the channel has room
for it and for all that is on its way. -/
def WithinCredit (s : State) : Step → Prop
  | .call id (.send _) => s.load id < channelCapacity
  | .conn c (.inbound (.arrive f)) => ∀ conn ∈ s.conns[c]?, conn.Fits f
  | _ => True

instance (s : State) : ∀ a, Decidable (s.WithinCredit a)
  | .call id (.send _) => inferInstanceAs (Decidable (s.load id < channelCapacity))
  | .conn c (.inbound (.arrive _)) => Option.decidableForallMem s.conns[c]?
  | .conn _ (.inbound .read) | .conn _ (.inbound .lock) | .conn _ (.inbound (.announce _))
  | .conn _ (.inbound .deliver) | .conn _ (.inbound .fail) | .conn _ (.inbound (.insert _ _))
  | .conn _ (.inbound (.remove _)) | .conn _ (.inbound (.recv _))
  | .conn _ (.inbound (.drop _)) => isTrue trivial
  | .conn _ .announce | .conn _ .firstOpen | .conn _ .firstAnnounce
  | .conn _ .takeIncoming => isTrue trivial
  | .call _ .close | .lock _ | .push _ | .claim _ | .bridge _ _ | .bridgeEnd _ => isTrue trivial
  | .forward _ _ | .dialDirect _ | .inboundRelay _ _ | .dialMux _ => isTrue trivial
  | .openInsert _ | .enter _ | .connectMux | .inboundMux _ | .register _ => isTrue trivial

end State

/-- **The invariant of guided runs.** Who has the lock is a `send` at the channel of the stream in
the table, and what is on its way to a channel fits into it. -/
structure Inv (s : State) : Prop where
  sending : ∀ (k : Nat) (call : Call) i, s.calls[k]? = some call → call.phase = .sending i →
    s.lock = some k ∧ (∃ data, call.kind = .send data) ∧ s.table call.id = some i
  holder : ∀ k, s.lock = some k → ∃ call i, s.calls[k]? = some call ∧ call.phase = .sending i
  entries : ∀ id i, s.table id = some i → ∃ st, s.streams[i]? = some st ∧ st.id = id
  load : ∀ id, s.load id ≤ channelCapacity
  conns : ∀ conn ∈ s.conns, conn.Sound

section Queued

variable {s t : State} {id : UInt32} {i : Nat} {st : Stream}

theorem queued_eq (htable : s.table id = some i) (hi : s.streams[i]? = some st) :
    s.queued id = st.task.queue.length := by
  simp [State.queued, htable, hi]

theorem queued_le {n : Nat}
    (h : ∀ i st, t.table id = some i → t.streams[i]? = some st → st.task.queue.length ≤ n) :
    t.queued id ≤ n := by
  unfold State.queued
  split
  · rename_i st hsome
    obtain ⟨i, htable, hi⟩ := Option.bind_eq_some_iff.mp hsome
    exact h i st htable hi
  · exact Nat.zero_le n

/-- A stream goes on. -/
theorem queued_setTask_le {task : Task} {n : Nat} (hi : s.streams[i]? = some st)
    (hqueue : s.table id = some i → task.queue.length ≤ st.task.queue.length + n) :
    (s.setTask i st task).queued id ≤ s.queued id + n := by
  refine queued_le fun j new (htable : s.table id = some j) hj => ?_
  rcases Tasks.of_set hj with ⟨rfl, rfl⟩ | ⟨-, hold⟩
  · rw [queued_eq htable hi]
    exact hqueue htable
  · rw [queued_eq htable hold]
    exact Nat.le_add_right _ _

theorem queue_release (task : Task) : task.release.queue = task.queue := by
  cases task <;> rfl

theorem queue_finish (task : Task) : task.finish.queue = task.queue := by
  cases task <;> rfl

end Queued

section Release

variable (s : State) (id : UInt32)

theorem table_release : (s.release id).table = s.table := by
  rcases release_cases s id with h | ⟨_, _, _, _, h⟩ <;> rw [h]
  rfl

theorem lock_release : (s.release id).lock = s.lock := by
  rcases release_cases s id with h | ⟨_, _, _, _, h⟩ <;> rw [h]
  rfl

theorem calls_release : (s.release id).calls = s.calls := by
  rcases release_cases s id with h | ⟨_, _, _, _, h⟩ <;> rw [h]
  rfl

theorem length_release : (s.release id).streams.length = s.streams.length := by
  rcases release_cases s id with h | ⟨_, _, _, _, h⟩ <;> rw [h]
  exact List.length_set

end Release

namespace Inv

variable {s t : State} {id : UInt32} {i k c : Nat} {st : Stream} {call : Call}

/-- At most the connections change. -/
theorem of_same (hs : Inv s) (htable : t.table = s.table) (hlock : t.lock = s.lock)
    (hstreams : t.streams = s.streams) (hcalls : t.calls = s.calls)
    (hconns : ∀ conn ∈ t.conns, conn.Sound) : Inv t where
  sending := by
    rw [hcalls, hlock, htable]
    exact hs.sending
  holder := by
    rw [hcalls, hlock]
    exact hs.holder
  entries := by
    rw [htable, hstreams]
    exact hs.entries
  load id := by
    unfold State.load State.queued
    rw [htable, hstreams, hcalls]
    exact hs.load id
  conns := hconns

theorem setConn (hs : Inv s) {conn : Conn} (hconn : conn.Sound) : Inv (s.setConn c conn) :=
  hs.of_same rfl rfl rfl rfl (Tasks.forall_mem_set c hs.conns hconn)

/-- A stream goes on. -/
theorem setTask (hs : Inv s) (hi : s.streams[i]? = some st) {task : Task}
    (hqueue : task.queue.length ≤ st.task.queue.length) : Inv (s.setTask i st task) where
  sending := hs.sending
  holder := hs.holder
  entries id j hj := Tasks.exists_set hi (fun _ hid => hid) (hs.entries id j hj)
  load id := by
    refine le_trans (Nat.add_le_add_right ?_ _) (hs.load id)
    exact queued_setTask_le (n := 0) hi fun _ => hqueue
  conns := hs.conns

/-- An entry is dropped. -/
theorem release (hs : Inv s) (id : UInt32) : Inv (s.release id) := by
  rcases release_cases s id with hsame | ⟨i, st, -, hi, hsome⟩
  · rw [hsame]
    exact hs
  · have htask : Inv (s.setTask i st st.task.release) :=
      hs.setTask hi (queue_release st.task ▸ Nat.le_refl _)
    rw [hsome]
    refine htask.of_same rfl rfl rfl rfl ?_
    show ∀ conn ∈ State.dropReceiver s.conns st.task, conn.Sound
    unfold State.dropReceiver
    split
    · exact hs.conns
    · exact Tasks.forall_mem_modify _ hs.conns fun conn hconn => hconn.dropUnclaimed _

/-- A bridge returns. -/
theorem finishTask (hs : Inv s) (i : Nat) : Inv { s with
    streams := s.streams.modify i fun st => { st with task := st.task.finish } } where
  sending := hs.sending
  holder := hs.holder
  entries id j hj := Tasks.exists_modify i (fun _ hid => hid) (hs.entries id j hj)
  load id := by
    refine le_trans (Nat.add_le_add_right (queued_le fun j st htable hj => ?_) _) (hs.load id)
    rw [List.getElem?_modify] at hj
    obtain ⟨old, hold, rfl⟩ := Option.map_eq_some_iff.mp hj
    rw [queued_eq (s := s) htable hold]
    split_ifs
    · exact (congrArg List.length (queue_finish old.task)).le
    · exact Nat.le_refl _
  conns := hs.conns

/-- No call is at a channel when nobody has the lock. -/
theorem not_sending (hs : Inv s) (hlock : s.lock = none) (hk : s.calls[k]? = some call) :
    call.phase ≠ .sending i := by
  intro hphase
  cases (hs.sending k call i hk hphase).1.symm.trans hlock

/-- The table changes while nobody has the lock. -/
theorem setTable (hs : Inv s) (hlock : s.lock = none) (hlock' : t.lock = none)
    (hcalls : t.calls = s.calls)
    (hentries : ∀ id i, t.table id = some i → ∃ st, t.streams[i]? = some st ∧ st.id = id)
    (hqueued : ∀ id, t.queued id ≤ s.queued id) (hconns : t.conns = s.conns) : Inv t where
  sending k call i hk hphase := absurd hphase (hs.not_sending hlock (hcalls ▸ hk))
  holder k hk := by cases hlock'.symm.trans hk
  entries := hentries
  load id := by
    unfold State.load
    rw [hcalls]
    exact le_trans (Nat.add_le_add_right (hqueued id) _) (hs.load id)
  conns := hconns ▸ hs.conns

/-- Removing an entry keeps the invariant while the table is free. -/
theorem remove (hs : Inv s) (hlock : s.lock = none) (id : UInt32) : Inv (s.remove id) := by
  have hlock' : (s.release id).lock = none := (lock_release s id).trans hlock
  have hold : ∀ {id' i}, (s.remove id).table id' = some i → s.table id' = some i := by
    intro id' i htable
    by_cases hid : id' = id
    · subst hid
      simp [State.remove] at htable
    · exact (Function.update_of_ne hid _ s.table).symm.trans htable
  refine (hs.release id).setTable hlock' hlock' rfl (fun id' i htable => ?_) (fun id' => ?_) rfl
  · exact (hs.release id).entries id' i (table_release s id ▸ hold htable)
  · refine queued_le fun i st htable hi => ?_
    exact (queued_eq (s := s.release id) (table_release s id ▸ hold htable) hi).ge

/-- A new stream, with nothing in its channel. -/
theorem insert (hs : Inv s) (hlock : s.lock = none) (hqueue : st.task.queue = []) :
    Inv (s.insert st) := by
  have hrelease := hs.release st.id
  have hlock' : (s.release st.id).lock = none := (lock_release s st.id).trans hlock
  have hcases : ∀ {id i}, (s.insert st).table id = some i →
      (id = st.id ∧ i = (s.release st.id).streams.length) ∨
        (s.release st.id).table id = some i := by
    intro id i htable
    by_cases hid : id = st.id
    · subst hid
      refine Or.inl ⟨rfl, ?_⟩
      rw [length_release]
      exact (Option.some.inj ((Function.update_self st.id _ s.table).symm.trans htable)).symm
    · rw [table_release]
      exact Or.inr ((Function.update_of_ne hid _ s.table).symm.trans htable)
  refine hrelease.setTable hlock' hlock' rfl (fun id i htable => ?_) (fun id => ?_) rfl
  · rcases hcases htable with ⟨rfl, rfl⟩ | hold
    · exact ⟨st, List.getElem?_concat_length .., rfl⟩
    · obtain ⟨old, hi, hid⟩ := hrelease.entries id i hold
      exact ⟨old, Tasks.append_of_some hi, hid⟩
  · refine queued_le fun i new htable hi => ?_
    rcases Tasks.of_append hi with ⟨-, rfl⟩ | ⟨hlt, hold⟩
    · rw [hqueue]
      exact Nat.zero_le _
    · rcases hcases htable with ⟨-, rfl⟩ | htable
      · exact absurd hlt (Nat.lt_irrefl _)
      · exact (queued_eq htable hold).ge

/-- What is on its way, after a call went on. -/
theorem load_setCall {new : Call} {n : Nat} (hs : Inv s) (hk : s.calls[k]? = some call)
    (hcalls : t.calls = s.calls.set k new) (hqueued : t.queued id ≤ s.queued id + n)
    (hpending : n + (if new.pendingOn id then 1 else 0) ≤ if call.pendingOn id then 1 else 0) :
    t.load id ≤ channelCapacity := by
  have hcount := Tasks.countP_set (b := new) (Call.pendingOn id) hk
  have hload := hs.load id
  unfold State.load at hload ⊢
  rw [hcalls]
  omega

/-- The call that has the lock, or gets it now, returns. -/
theorem returns (hs : Inv s) {result : CallResult} (hk : s.calls[k]? = some call)
    (hsolo : ∀ k', s.lock = some k' → k' = k) (hlock : t.lock = none)
    (hcalls : t.calls = s.calls.set k { call with phase := .returned result })
    (hentries : ∀ id i, t.table id = some i → ∃ st, t.streams[i]? = some st ∧ st.id = id)
    (hqueued : ∀ id, t.queued id ≤ s.queued id + if call.pendingOn id then 1 else 0)
    (hconns : t.conns = s.conns) : Inv t where
  sending k' call' i hk' hphase := by
    rw [hcalls] at hk'
    rcases Tasks.of_set hk' with ⟨-, rfl⟩ | ⟨hne, hold⟩
    · cases hphase
    · exact absurd (hsolo k' (hs.sending k' call' i hold hphase).1) hne
  holder k' hk' := by cases hlock.symm.trans hk'
  entries := hentries
  load id := by
    refine load_setCall hs hk hcalls (hqueued id) ?_
    simp [Call.pendingOn, CallPhase.isReturned]
  conns := hconns ▸ hs.conns

/-- A call returns without having put anything into a channel. -/
theorem returns_of_same (hs : Inv s) {result : CallResult} (hk : s.calls[k]? = some call)
    (hsolo : ∀ k', s.lock = some k' → k' = k) :
    Inv ({ s with lock := none }.setCall k call (.returned result)) :=
  hs.returns hk hsolo rfl rfl hs.entries (fun _ => Nat.le_add_right _ _) rfl

/-- A `send` gets the lock. -/
theorem acquire (hs : Inv s) {data : Bytes} (hlock : s.lock = none) (hk : s.calls[k]? = some call)
    (hphase : call.phase = .locking) (hkind : call.kind = .send data)
    (htable : s.table call.id = some i) :
    Inv ({ s with lock := some k }.setCall k call (.sending i)) where
  sending k' call' j hk' hsending := by
    rcases Tasks.of_set hk' with ⟨rfl, rfl⟩ | ⟨-, hold⟩
    · cases hsending
      exact ⟨rfl, ⟨data, hkind⟩, htable⟩
    · exact absurd hsending (hs.not_sending hlock hold)
  holder k' hk' := by
    cases hk'
    exact ⟨_, i, Tasks.set_self hk, rfl⟩
  entries := hs.entries
  load id := by
    refine load_setCall (n := 0) hs hk rfl (Nat.le_refl _) ?_
    simp [Call.pendingOn, hphase, CallPhase.isReturned]
  conns := hs.conns

theorem length_push (data : Bytes) (task : Task) :
    (task.push data).queue.length = task.queue.length + 1 := by
  cases task <;> exact List.length_append

/-- The data of a `send` goes into the channel. -/
theorem push (hs : Inv s) {data : Bytes} (hlock : s.lock = some k) (hk : s.calls[k]? = some call)
    (hphase : call.phase = .sending i) (hi : s.streams[i]? = some st) :
    Inv (({ s with lock := none }.setTask i st (st.task.push data)).setCall k call
      (.returned .ok)) := by
  obtain ⟨-, ⟨data', hkind⟩, htable⟩ := hs.sending k call i hk hphase
  have hsolo : ∀ k', s.lock = some k' → k' = k :=
    fun k' hk' => Option.some.inj (hk'.symm.trans hlock)
  refine hs.returns hk hsolo rfl rfl (fun id j hj => ?_) (fun id => ?_) rfl
  · exact Tasks.exists_set hi (fun _ hid => hid) (hs.entries id j hj)
  · refine queued_setTask_le (s := s) hi fun hid => ?_
    -- the stream is under one id only, that of the call
    obtain ⟨st₁, hst₁, rfl⟩ := hs.entries id i hid
    obtain ⟨st₂, hst₂, hcall⟩ := hs.entries call.id i htable
    obtain rfl : st₁ = st₂ := Option.some.inj (hst₁.symm.trans hst₂)
    have hpending : call.pendingOn st₁.id = true := by
      simp [Call.pendingOn, hcall, hkind, CallKind.isSend, hphase, CallPhase.isReturned]
    rw [if_pos hpending, length_push]

/-- An agent calls. -/
theorem newCall (hs : Inv s) {kind : CallKind} (hcredit : s.WithinCredit (.call id kind)) :
    Inv { s with calls := s.calls ++ [{ id := id, kind := kind }] } where
  sending k call i hk hphase := by
    rcases Tasks.of_append hk with ⟨-, rfl⟩ | ⟨-, hold⟩
    · cases hphase
    · exact hs.sending k call i hold hphase
  holder k hk := by
    obtain ⟨call, i, hcall, hphase⟩ := hs.holder k hk
    exact ⟨call, i, Tasks.append_of_some hcall, hphase⟩
  entries := hs.entries
  load id' := by
    have hload := hs.load id'
    show s.queued id' +
      List.countP (Call.pendingOn id') (s.calls ++ [{ id := id, kind := kind }]) ≤ _
    rw [List.countP_append, List.countP_singleton, ← Nat.add_assoc]
    split_ifs with hpending
    · -- it is a `send` on `id'`
      simp only [Call.pendingOn, Bool.and_eq_true, beq_iff_eq] at hpending
      obtain ⟨⟨rfl, hsend⟩, -⟩ := hpending
      cases kind with
      | send data => exact hcredit
      | close => cases hsend
    · exact hload
  conns := hs.conns

/-- **Every step that meets the condition keeps the invariant.** -/
theorem step {a : Step} (hs : Inv s) (hcredit : s.WithinCredit a) (hstep : s.step a = some t) :
    Inv t := by
  have hconn : ∀ {c : Nat} {conn : Conn}, s.conns[c]? = some conn → conn.Sound :=
    fun hc => hs.conns _ (List.mem_of_getElem? hc)
  cases move_of_step hstep with
  | call id kind => exact hs.newCall hcredit
  | @close k call hlock hk =>
    have hremove := hs.remove hlock call.id
    have hlock' : (s.remove call.id).lock = none := (lock_release s call.id).trans hlock
    have hremoved : (s.remove call.id).calls[k]? = some call :=
      (congrArg (·[k]?) (calls_release s call.id)).trans hk
    refine hremove.returns hremoved (fun k' hk' => ?_) hlock' rfl hremove.entries
      (fun _ => Nat.le_add_right _ _) rfl
    cases hlock'.symm.trans hk'
  | @notFound k call hlock hk =>
    refine hs.returns (k := k) hk (fun k' hk' => ?_) hlock rfl hs.entries
      (fun _ => Nat.le_add_right _ _) rfl
    cases hlock.symm.trans hk'
  | acquire hlock hk hphase hkind htable => exact hs.acquire hlock hk hphase hkind htable
  | fail hlock hk =>
    exact hs.returns_of_same hk fun k' hk' => Option.some.inj (hk'.symm.trans hlock)
  | push hlock hk _ hphase hi => exact hs.push hlock hk hphase hi
  | claimBridge _ hi htask => exact hs.setTask hi (by rw [htask]; exact Nat.le_refl _)
  | claimMux c ch =>
    refine hs.of_same rfl rfl rfl rfl (Tasks.forall_mem_modify c hs.conns fun conn hconn => ?_)
    exact ⟨hconn.delivery, hconn.load, hconn.incoming, hconn.known⟩
  | bridge hi htask hown hb =>
    refine hs.setTask hi ?_
    rw [htask]
    rcases dataRx_of_step hown hb with hsame | ⟨-, -, hle⟩
    · exact (congrArg List.length hsame).le
    · exact hle
  | bridgeEnd hlock => exact (hs.remove hlock _).finishTask _
  | forward hi htask hqueue =>
    refine hs.setTask hi ?_
    rw [htask]
    exact hqueue
  | @finish i c ch st queue alive conn conn' hi htask hc hclose =>
    refine (hs.setConn ((hconn hc).closeStream hclose)).setTask hi ?_
    rw [htask]
    exact Nat.le_refl _
  | dial => exact hs.of_same rfl rfl rfl rfl hs.conns
  | @dialMux c conn nextStreamId dials hc =>
    have hold := hconn hc
    have hnew : Conn.Sound { conn with nextStreamId := nextStreamId } :=
      ⟨hold.delivery, hold.load, hold.incoming, hold.known⟩
    exact (hs.setConn (c := c) hnew).of_same rfl rfl rfl rfl (hs.setConn (c := c) hnew).conns
  | @openInsert k c id conn conn' dials hc hopen =>
    have hset := hs.setConn (c := c) ((hconn hc).openInsert hopen)
    exact hset.of_same rfl rfl rfl rfl hset.conns
  | enter dials hlock hqueue =>
    have hdials : Inv { s with dials := dials } := hs.of_same rfl rfl rfl rfl hs.conns
    exact hdials.insert hlock hqueue
  | connect hnew =>
    refine hs.of_same rfl rfl rfl rfl (Tasks.forall_mem_append hs.conns ?_)
    rcases hnew with rfl | ⟨payload, rfl⟩
    · exact Conn.sound_new _ _ nofun
    · exact Conn.sound_new _ _ nofun
  | @conn c a conn conn' hc hchange =>
    refine hs.setConn ((hconn hc).step (fun f hf => ?_) hchange)
    subst hf
    exact hcredit conn hc
  | @register c ch id conn hlock hc =>
    have hold := hconn hc
    have hnew : Conn.Sound { conn with registering := none } :=
      hold.moveOn rfl hold.incoming (fun _ => hold.known_first) (fun _ => hold.known_incoming)
        nofun
    exact (hs.setConn (c := c) hnew).insert hlock rfl

end Inv

/-! ## Going on -/

/-- The steps of those who have a lock or wait for one, and of the registration tasks. They take
nothing from the channels of the streams, and bring nothing on its way. -/
def Step.isInner : Step → Bool
  | .lock _ => true
  | .push _ => true
  | .register _ => true
  | .forward _ .finish => true
  | .conn _ .announce => true
  | .conn _ .takeIncoming => true
  | .conn _ (.inbound .read) => true
  | .conn _ (.inbound .lock) => true
  | .conn _ (.inbound .deliver) => true
  | _ => false

namespace State

/-- The daemon can get to a state with `P` by inner steps. -/
def GoesOn (s : State) (P : State → Prop) : Prop :=
  ∃ as t, (∀ a ∈ as, a.isInner = true) ∧ machine.run s as = some t ∧ P t

variable {s t : State} {P : State → Prop} {a : Step}

/-- Inner steps drain no stream. -/
theorem drains_of_isInner (s : State) (i : Nat) (h : a.isInner = true) : s.drains i a = false := by
  unfold Step.isInner at h
  split at h <;> first | rfl | cases h

/-- Inner steps need no credit. -/
theorem withinCredit_of_isInner (s : State) (h : a.isInner = true) : s.WithinCredit a := by
  unfold Step.isInner at h
  split at h <;> first | exact trivial | cases h

theorem GoesOn.here (h : P s) : s.GoesOn P := ⟨[], s, by simp, rfl, h⟩

/-- One step, and then the rest. -/
theorem GoesOn.step (ha : a.isInner = true) (hstep : s.step a = some t) (h : t.GoesOn P) :
    s.GoesOn P := by
  obtain ⟨as, u, hinner, hrun, hP⟩ := h
  refine ⟨a :: as, u, fun b hb => ?_, (machine.run_cons).mpr ⟨t, hstep, hrun⟩, hP⟩
  rcases List.mem_cons.mp hb with rfl | hb
  · exact ha
  · exact hinner b hb

/-- Inner steps drain no stream. -/
theorem GoesOn.reaches (h : s.GoesOn P) (i : Nat) : s.Reaches i P := by
  obtain ⟨as, t, hinner, hrun, hP⟩ := h
  refine ⟨as, t, ?_, hrun, hP⟩
  clear hrun
  induction as generalizing s with
  | nil => exact trivial
  | cons a as ih =>
    refine ⟨drains_of_isInner s i (hinner a (List.mem_cons_self ..)), fun u _ => ?_⟩
    exact ih fun b hb => hinner b (List.mem_cons_of_mem _ hb)

end State

namespace Inv

variable {s t : State} {k c : Nat} {call : Call} {conn : Conn}

/-- Inner steps keep the invariant. -/
theorem inner {a : Step} (hs : Inv s) (ha : a.isInner = true) (hstep : s.step a = some t) : Inv t :=
  hs.step (State.withinCredit_of_isInner s ha) hstep

/-- **Who has the lock does not wait.** -/
theorem exists_push (hs : Inv s) (hlock : s.lock = some k) :
    ∃ t, s.step (.push k) = some t ∧ t.lock = none ∧ t.conns = s.conns ∧ t.Returned k ∧
      ∀ k' ≠ k, t.calls[k']? = s.calls[k']? := by
  obtain ⟨call, i, hk, hphase⟩ := hs.holder k hlock
  obtain ⟨-, ⟨data, hkind⟩, htable⟩ := hs.sending k call i hk hphase
  obtain ⟨st, hi, -⟩ := hs.entries call.id i htable
  -- the call itself is on its way to the channel
  have hroom : st.task.queue.length < channelCapacity := by
    have hload := hs.load call.id
    have hpending : 0 < s.calls.countP (Call.pendingOn call.id) := by
      refine List.countP_pos_iff.mpr ⟨call, List.mem_of_getElem? hk, ?_⟩
      simp [Call.pendingOn, hkind, CallKind.isSend, hphase, CallPhase.isReturned]
    rw [State.load, queued_eq htable hi] at hload
    omega
  have hstep : s.step (.push k) = s.push k call data i st := by
    simp [State.step, hk, hkind, hphase, hlock, hi]
  have hother : ∀ {new : Call}, ∀ k' ≠ k, (s.calls.set k new)[k']? = s.calls[k']? :=
    fun k' hne => List.getElem?_set_ne (Ne.symm hne)
  rw [hstep]
  unfold State.push
  split_ifs with hgone
  · exact ⟨_, rfl, rfl, rfl, ⟨_, _, Tasks.set_self hk, rfl⟩, hother⟩
  · exact ⟨_, rfl, rfl, rfl, ⟨_, _, Tasks.set_self hk, rfl⟩, hother⟩

/-- A call that has the lock, or gets it now, returns. -/
theorem goesOn_lock (hs : Inv s) (hlock : s.lock = none) (hk : s.calls[k]? = some call)
    (hphase : call.phase = .locking) : s.GoesOn (State.Returned k) := by
  have hstep : s.step (.lock k) = some (s.acquire k call) := by
    simp [State.step, hk, hlock, hphase]
  have hnext : Inv (s.acquire k call) := hs.inner rfl hstep
  refine .step rfl hstep ?_
  unfold State.acquire at hnext ⊢
  split
  · have hremoved : (s.remove call.id).calls[k]? = some call :=
      (congrArg (·[k]?) (calls_release s call.id)).trans hk
    exact .here ⟨_, _, Tasks.set_self hremoved, rfl⟩
  · rename_i data hkind
    rw [hkind] at hnext
    split
    · exact .here ⟨_, _, Tasks.set_self hk, rfl⟩
    · rename_i i htable
      rw [htable] at hnext
      obtain ⟨t, hpush, -, -, hreturned, -⟩ := hnext.exists_push (k := k) rfl
      exact .step rfl hpush (.here hreturned)

/-- **Every call returns.** -/
theorem goesOn_call (hs : Inv s) (hk : s.calls[k]? = some call) :
    s.GoesOn (State.Returned k) := by
  cases hphase : call.phase with
  | returned result => exact .here ⟨call, result, hk, hphase⟩
  | sending i =>
    obtain ⟨t, hpush, -, -, hreturned, -⟩ := hs.exists_push (hs.sending k call i hk hphase).1
    exact .step rfl hpush (.here hreturned)
  | locking =>
    cases hlock : s.lock with
    | none => exact hs.goesOn_lock hlock hk hphase
    | some k' =>
      -- the holder returns first
      obtain ⟨t, hpush, hfree, -, ⟨call', result, hk', hreturned⟩, hother⟩ :=
        hs.exists_push hlock
      have hne : k ≠ k' := by
        rintro rfl
        obtain ⟨call₀, i, hk₀, hsending⟩ := hs.holder k hlock
        obtain rfl : call = call₀ := Option.some.inj (hk.symm.trans hk₀)
        cases hphase.symm.trans hsending
      have hnext : Inv t := hs.inner rfl hpush
      exact .step rfl hpush (hnext.goesOn_lock hfree ((hother k hne).trans hk) hphase)

end Inv

/-! ### The read task -/

/-- How far the read task is from being done with its frame. -/
def weight : Demux.ReadPhase → Nat
  | .locking _ => 8
  | .announcing _ => 6
  | .sending _ _ _ => 6
  | _ => 0

/-- How far a connection is from having handled all its frames. An announced stream costs a place in
`incoming_tx` and its registration. -/
def Conn.distance (conn : Conn) : Nat :=
  10 * conn.inbound.wire.length + weight conn.inbound.reader + 3 * conn.incoming.length +
    2 * conn.registering.toList.length

/-- The read task gets on: it has the same frames, and less to do. The registration of a stream may
have to wait for who has the lock of the manager. -/
def State.Closer (s : State) (conn : Conn) (t : State) (conn' : Conn) : Prop :=
  conn'.inbound.frames = conn.inbound.frames ∧ conn'.inbound.reader ≠ .terminated ∧
    conn'.distance + t.lock.toList.length < conn.distance + s.lock.toList.length

/-- What a connection keeps, as far as its frames are concerned, when the entry of a stream is
dropped. -/
def Conn.SameWork (conn conn' : Conn) : Prop :=
  conn'.inbound.frames = conn.inbound.frames ∧ conn'.inbound.reader = conn.inbound.reader ∧
    conn'.distance = conn.distance

theorem Conn.sameWork_dropUnclaimed (conn : Conn) (ch : Nat) :
    conn.SameWork (conn.dropUnclaimed ch) := by
  unfold Conn.dropUnclaimed
  split_ifs
  · exact ⟨rfl, rfl, rfl⟩
  · refine ⟨Demux.frames_dropReceiver _ _, Demux.reader_dropReceiver _ _, ?_⟩
    unfold Conn.distance
    rw [Demux.wire_dropReceiver, Demux.reader_dropReceiver]

namespace Inv

variable {s t : State} {k c ch : Nat} {call : Call} {conn : Conn}

/-- **The read task does not wait with the lock.** -/
theorem exists_deliver (hs : Inv s) (hc : s.conns[c]? = some conn) {f : InFrame} {data : Bytes}
    (hreader : conn.inbound.reader = .sending f ch data) :
    ∃ inbound, conn.inbound.step .deliver = some inbound ∧ inbound.reader = .reading ∧
      inbound.wire = conn.inbound.wire := by
  have hsound := hs.conns conn (List.mem_of_getElem? hc)
  obtain ⟨chan, hchan, hparse, htable⟩ := hsound.delivery.sending f ch data hreader
  -- the frame itself is on its way to the channel
  have hroom : chan.sent.length < chan.taken + channelCapacity := by
    have hload := hsound.load chan.id
    have hahead : data ∈ conn.inbound.ahead.flatMap fun f => f.dataFor chan.id := by
      refine List.mem_flatMap.mpr ⟨f, ?_, ?_⟩
      · simp [Inbound.ahead, hreader]
      · simp [InFrame.dataFor, hparse]
    have hpos := List.length_pos_of_mem hahead
    have hsame : channelCapacity = channelCapacity := rfl
    rw [Inbound.load, Demux.unread_eq htable hchan, Chan.unread] at hload
    omega
  by_cases hdropped : chan.dropped = true
  · refine ⟨conn.inbound.finish f, ?_, rfl, rfl⟩
    simp [Inbound.step, hreader, hchan, hdropped]
  · refine ⟨(conn.inbound.setChan ch { chan with sent := chan.sent ++ [data] }).finish f, ?_, rfl,
      rfl⟩
    simp [Inbound.step, hreader, hchan, hdropped, hroom]

/-- An operation of the connection. -/
theorem closer_of_conn {a : ConnStep} {conn' : Conn} (hc : s.conns[c]? = some conn)
    (hstep : conn.step a = some conn') (hframes : conn'.inbound.frames = conn.inbound.frames)
    (hreader : conn'.inbound.reader ≠ .terminated) (hless : conn'.distance < conn.distance) :
    ∃ t, s.step (.conn c a) = some t ∧ t.conns[c]? = some conn' ∧ s.Closer conn t conn' := by
  refine ⟨s.setConn c conn', ?_, Tasks.set_self hc, hframes, hreader, ?_⟩
  · simp [State.step, hc, hstep]
  · exact Nat.add_lt_add_right hless _

/-- An operation of the read task. -/
theorem closer_of_inbound {a : InboundStep} {inbound : Inbound} (hc : s.conns[c]? = some conn)
    (hpermits : conn.permits a = true) (harrive : ∀ f, a ≠ .arrive f)
    (hstep : conn.inbound.step a = some inbound) (hreader : inbound.reader ≠ .terminated)
    (hless : 10 * inbound.wire.length + weight inbound.reader
      < 10 * conn.inbound.wire.length + weight conn.inbound.reader) :
    ∃ t conn', s.step (.conn c (.inbound a)) = some t ∧ t.conns[c]? = some conn' ∧
      s.Closer conn t conn' := by
  have hconn : conn.step (.inbound a) = some { conn with inbound := inbound } := by
    simp [Conn.step, hpermits, hstep]
  obtain ⟨t, ht⟩ := closer_of_conn hc hconn
    ((Demux.frames_of_step hstep).resolve_right fun h => by
      obtain ⟨f, hf, -⟩ := h
      exact harrive f hf) hreader
    (Nat.add_lt_add_right (Nat.add_lt_add_right hless _) _)
  exact ⟨t, _, ht⟩

/-- A read task that announces a stream gets on, or the registration task does, or who has the lock
of the manager. -/
theorem exists_closer_of_announcing (hs : Inv s) (hc : s.conns[c]? = some conn)
    (hreader : conn.inbound.reader = .announcing ch) :
    ∃ a t conn', a.isInner = true ∧ s.step a = some t ∧ t.conns[c]? = some conn' ∧
      s.Closer conn t conn' := by
  have hsound := hs.conns conn (List.mem_of_getElem? hc)
  have hterminated : conn.inbound.reader ≠ .terminated := by
    simp [hreader]
  by_cases hroom : conn.incoming.length < channelCapacity
  · -- there is a place for it
    have hannounce : conn.inbound.step (.announce true)
        = some { conn.inbound with reader := .reading } := by
      simp [Inbound.step, hreader]
    have hconn : conn.step .announce = some { conn with
        inbound := { conn.inbound with reader := .reading }
        incoming := conn.incoming ++ [ch] } := by
      simp [Conn.step, hreader, hroom, hannounce]
    obtain ⟨t, ht⟩ := closer_of_conn hc hconn
      ((Demux.frames_of_step hannounce).resolve_right fun h => by
        obtain ⟨f, hf, -⟩ := h
        cases hf)
      (fun h => by cases h) (by simp [Conn.distance, hreader, weight]; omega)
    exact ⟨.conn c .announce, t, _, rfl, ht⟩
  · cases hregistering : conn.registering with
    | none =>
      -- the registration task takes the next one
      cases hincoming : conn.incoming with
      | nil =>
        rw [hincoming] at hroom
        exact absurd (by decide) hroom
      | cons ch' rest =>
        have hconn : conn.step .takeIncoming
            = some { conn with incoming := rest, registering := some ch' } := by
          simp [Conn.step, hregistering, hincoming]
        obtain ⟨t, ht⟩ := closer_of_conn hc hconn rfl hterminated
          (by simp [Conn.distance, hregistering, hincoming]; omega)
        exact ⟨.conn c .takeIncoming, t, _, rfl, ht⟩
    | some ch' =>
      cases hlock : s.lock with
      | none =>
        -- the registration task gets the lock
        have hknown : ch' < conn.inbound.chans.length :=
          hsound.known_registering hregistering
        obtain ⟨chan, hchan⟩ := Tasks.exists_of_lt hknown
        obtain ⟨conn', hc', hframes, hsame, hdistance⟩ :=
          exists_conn_release (s := s.setConn c { conn with registering := none }) (c := c)
            (P := Conn.SameWork { conn with registering := none }) chan.id
            (fun x ch hx => ⟨(x.sameWork_dropUnclaimed ch).1.trans hx.1,
              (x.sameWork_dropUnclaimed ch).2.1.trans hx.2.1,
              (x.sameWork_dropUnclaimed ch).2.2.trans hx.2.2⟩)
            ⟨_, Tasks.set_self hc, rfl, rfl, rfl⟩
        have hstep : s.step (.register c)
            = some ((s.setConn c { conn with registering := none }).insert
              ⟨chan.id, .forwarder c ch' [] true .idle⟩) := by
          simp [State.step, hc, hregistering, hchan, hlock]
        refine ⟨.register c, _, conn', rfl, hstep, hc', hframes, ?_, ?_⟩
        · rw [hsame]
          exact hterminated
        · show conn'.distance +
            ((s.setConn c { conn with registering := none }).release chan.id).lock.toList.length
              < _
          rw [lock_release, hdistance]
          simp [State.setConn, Conn.distance, hregistering]
      | some k =>
        obtain ⟨t, hpush, hfree, hconns, -, -⟩ := hs.exists_push hlock
        refine ⟨.push k, t, conn, rfl, hpush, hconns ▸ hc, rfl, hterminated, ?_⟩
        simp [hfree, hlock]

/-- What the read task does with a frame under the lock. -/
theorem handle_frame (inbound : Inbound) (f : InFrame) : (inbound.handle f).wire = inbound.wire ∧
    (inbound.handle f).reader ≠ .terminated ∧ weight (inbound.handle f).reader < 8 := by
  have hbusy : 6 < 8 := by decide
  have hdone : 0 < 8 := by decide
  unfold Inbound.handle
  split
  · exact ⟨rfl, nofun, hbusy⟩
  · split
    · exact ⟨rfl, nofun, hbusy⟩
    · exact ⟨rfl, nofun, hdone⟩
  · exact ⟨rfl, nofun, hdone⟩
  · exact ⟨rfl, nofun, hdone⟩

/-- **The read task can get on**, as long as there are frames that it has not handled. -/
theorem exists_closer (hs : Inv s) (hc : s.conns[c]? = some conn)
    (hreader : conn.inbound.reader ≠ .terminated)
    (hbusy : conn.inbound.reader ≠ .reading ∨ conn.inbound.wire ≠ []) :
    ∃ a t conn', a.isInner = true ∧ s.step a = some t ∧ t.conns[c]? = some conn' ∧
      s.Closer conn t conn' := by
  cases hphase : conn.inbound.reader with
  | terminated => exact absurd hphase hreader
  | reading =>
    cases hwire : conn.inbound.wire with
    | nil => exact absurd hwire (hbusy.resolve_left fun hne => hne hphase)
    | cons f rest =>
      by_cases hparse : f.parse = .ignored
      · have hread : conn.inbound.step .read
            = some ({ conn.inbound with wire := rest }.finish f) := by
          simp [Inbound.step, hphase, hwire, hparse]
        obtain ⟨t, conn', ht⟩ := closer_of_inbound (s := s) hc rfl (fun f h => by cases h) hread
          (fun h => by cases h) (by simp [Inbound.finish, weight, hwire, hphase])
        exact ⟨_, t, conn', rfl, ht⟩
      · have hread : conn.inbound.step .read
            = some { conn.inbound with wire := rest, reader := .locking f } := by
          simp [Inbound.step, hphase, hwire, hparse]
        obtain ⟨t, conn', ht⟩ := closer_of_inbound (s := s) hc rfl (fun f h => by cases h) hread
          (fun h => by cases h) (by simp [weight, hwire, hphase]; omega)
        exact ⟨_, t, conn', rfl, ht⟩
  | locking f =>
    have hlock : conn.inbound.step .lock = some (conn.inbound.handle f) := by
      simp [Inbound.step, hphase]
    obtain ⟨hwire, hrunning, hweight⟩ := handle_frame conn.inbound f
    obtain ⟨t, conn', ht⟩ := closer_of_inbound (s := s) hc rfl (fun f h => by cases h) hlock
      hrunning (by rw [hwire, hphase]; exact Nat.add_lt_add_left hweight _)
    exact ⟨_, t, conn', rfl, ht⟩
  | announcing ch => exact hs.exists_closer_of_announcing hc hphase
  | sending f ch data =>
    obtain ⟨inbound, hdeliver, hread, hwire⟩ := hs.exists_deliver hc hphase
    obtain ⟨t, conn', ht⟩ := closer_of_inbound (s := s) hc rfl (fun f h => by cases h) hdeliver
      (fun h => by cases hread.symm.trans h) (by rw [hread, hwire, hphase]; simp [weight])
    exact ⟨_, t, conn', rfl, ht⟩

/-- **Every frame is handled.** -/
theorem goesOn_frames (hs : Inv s) (hc : s.conns[c]? = some conn)
    (hreader : conn.inbound.reader ≠ .terminated) :
    s.GoesOn fun t => ∃ conn', t.conns[c]? = some conn' ∧
      conn'.inbound.handled = conn.inbound.frames := by
  -- the induction is on how much there is to do
  induction hn : conn.distance + s.lock.toList.length using Nat.strong_induction_on
    generalizing s conn with
  | _ n ih =>
    by_cases hbusy : conn.inbound.reader ≠ .reading ∨ conn.inbound.wire ≠ []
    · obtain ⟨a, t, conn', ha, hstep, hc', hframes, hreader', hless⟩ :=
        hs.exists_closer hc hreader hbusy
      have hrest := ih _ (hn ▸ hless) (hs.inner ha hstep) hc' hreader' rfl
      rw [hframes] at hrest
      exact .step ha hstep hrest
    · obtain ⟨hread, hwire⟩ := not_or.mp hbusy
      refine .here ⟨conn, hc, ?_⟩
      simp [Inbound.frames, Inbound.looked, not_not.mp hread, not_not.mp hwire]

/-- **Every `close_stream` of a connection comes to its end.** -/
theorem goesOn_close (hs : Inv s) {j : Nat} {id : UInt32} {queue : List Bytes} {alive : Bool}
    (hj : s.streams[j]? = some ⟨id, .forwarder c ch queue alive .closing⟩)
    (hc : s.conns[c]? = some conn) : s.GoesOn (State.ForwardDone j) := by
  have hfinish : ∀ {t : State} {conn : Conn}, t.streams = s.streams → t.conns[c]? = some conn →
      conn.inbound.locked = false → t.GoesOn (State.ForwardDone j) := by
    intro t conn hstreams hc hfree
    rw [← hstreams] at hj
    have hstep : t.step (.forward j .finish)
        = some ((t.setConn c { conn with inbound := conn.inbound.remove id }).setTask j
          ⟨id, .forwarder c ch queue alive .closing⟩ (.forwarder c ch queue alive .done)) := by
      simp [State.step, State.forward, hj, hc, Conn.closeStream, Inbound.step, hfree]
    exact .step rfl hstep (.here ⟨id, c, ch, queue, alive, Tasks.set_self hj⟩)
  cases hlocked : conn.inbound.locked with
  | false => exact hfinish rfl hc hlocked
  | true =>
    -- the read task has the lock, and gives it back
    unfold Inbound.locked at hlocked
    split at hlocked
    · rename_i f ch' data hphase
      obtain ⟨inbound, hdeliver, hread, -⟩ := hs.exists_deliver hc hphase
      have hstep : s.step (.conn c (.inbound .deliver))
          = some (s.setConn c { conn with inbound := inbound }) := by
        simp [State.step, hc, Conn.step, Conn.permits, hdeliver]
      refine .step rfl hstep (hfinish rfl (Tasks.set_self hc) ?_)
      simp [Inbound.locked, hread]
    · cases hlocked

/-- No stream blocks others. -/
theorem blocksNone (hs : Inv s) (i : Nat) : s.BlocksNone i where
  call k call j st hk _ _ _ := (hs.goesOn_call hk).reaches i
  close j id c ch queue alive conn hj hc _ := (hs.goesOn_close hj hc).reaches i
  deliver j id c ch queue alive phase conn n f data _ _ _ hc _ hn _ hreader := by
    obtain ⟨as, t, hinner, hrun, conn', hc', hhandled⟩ := hs.goesOn_frames hc hreader
    have hgoesOn : s.GoesOn (State.Handled c n) := by
      refine ⟨as, t, hinner, hrun, conn', hc', ?_⟩
      rw [hhandled]
      exact (List.getElem?_eq_some_iff.mp hn).1
    exact hgoesOn.reaches i

end Inv

/-- **Stalled streams do not block others**, in every run in which what is on its way to a channel
fits into it. -/
theorem stalledBlockNone_of_withinCredit (steps : List Step) (s : State)
    (halong : machine.Along State.WithinCredit machine.init steps)
    (hrun : machine.run machine.init steps = some s) : s.StalledBlockNone := by
  have hinit : Inv machine.init := by
    refine ⟨fun k call i hk => ?_, fun k hk => ?_, fun id i hid => ?_, fun id => ?_,
      fun conn hc => ?_⟩
    · simp [machine] at hk
    · cases hk
    · cases hid
    · exact Nat.zero_le _
    · simp [machine] at hc
  have hs : Inv s :=
    machine.along_invariant (fun _ _ _ hs hcredit hstep => hs.step hcredit hstep) hinit halong hrun
  exact fun i _ _ _ => hs.blocksNone i

/-- The channel of stream `1` is filled. Then a `send` on stream `2` gets the lock, and a
`close_stream` on stream `1` waits for it. -/
def thriftySteps : List Step :=
  stalledSteps ++ [.call 2 (.send []), .lock channelCapacity, .call 1 .close]

theorem stalledBlockNone_thriftySteps :
    ∃ s, machine.run machine.init thriftySteps = some s ∧ s.lock = some 64 ∧
      (∃ st ∈ s.streams[0]?, ¬ s.HasRoom st) ∧
      s.calls[65]? = some ⟨1, .close, .locking⟩ ∧ s.Reaches 0 (State.Returned 65) ∧
      s.StalledBlockNone := by
  obtain ⟨s, hrun, hlock, ⟨st, hst, hfull⟩, htable, hcall⟩ := machine.exists_run thriftySteps
    (fun s => s.lock = some 64 ∧ (∃ st ∈ s.streams[0]?, ¬ s.HasRoom st) ∧ s.table 1 = some 0 ∧
      s.calls[65]? = some ⟨1, .close, .locking⟩) (by decide +kernel)
  have hnone := stalledBlockNone_of_withinCredit thriftySteps s (by decide +kernel) hrun
  refine ⟨s, hrun, hlock, ⟨st, hst, hfull⟩, hcall, ?_, hnone⟩
  exact (hnone 0 st hst hfull).call 65 _ 0 st hcall htable hst (Or.inr ⟨rfl, rfl⟩)

end Locks

end Roboat.Daemon
