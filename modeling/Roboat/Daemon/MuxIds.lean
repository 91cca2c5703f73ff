import Mathlib.Algebra.Group.Nat.Defs
import Roboat.Daemon.MuxStreams

/-! # A multiplexed connection: stream ids

`open_stream` draws its id from a 32-bit counter that steps by two and wraps. The dialing side
starts at 1 and the accepting side at 2. The `k`-th call of a connection therefore has an id in
closed form (`idAt`), whatever happens between the draws (`numbered_of_run`); its parity is that of
the start, and it comes back after `2 ^ 31` calls and not before (`idAt_eq_iff`). -/

namespace Roboat.Daemon.Demux

/-! ## The counter -/

/-- The id of call number `k` on a connection whose counter starts at `start`. -/
def idAt (start : UInt32) (k : Nat) : UInt32 := start + 2 * UInt32.ofNat k

theorem idAt_zero (start : UInt32) : idAt start 0 = start := by
  simp [idAt]

/-- One `fetch_add`. -/
theorem idAt_succ (start : UInt32) (k : Nat) : idAt start (k + 1) = idAt start k + 2 := by
  rw [idAt, idAt, UInt32.ofNat_add, UInt32.mul_add, UInt32.add_assoc]
  rfl

/-- The ids wrap at 2^32. -/
theorem toNat_idAt (start : UInt32) (k : Nat) :
    (idAt start k).toNat = (start.toNat + 2 * k) % 2 ^ 32 := by
  simp only [idAt, UInt32.toNat_add, UInt32.toNat_mul, UInt32.toNat_ofNat, UInt32.toNat_ofNat']
  omega

/-- The counter wraps at an even number, so that the parity stays. -/
theorem toNat_idAt_mod_two (start : UInt32) (k : Nat) :
    (idAt start k).toNat % 2 = start.toNat % 2 := by
  rw [toNat_idAt]
  omega

/-- **An id comes back after `2 ^ 31` calls, and not before.** -/
theorem idAt_eq_iff (start : UInt32) (i j : Nat) :
    idAt start i = idAt start j ↔ i % 2 ^ 31 = j % 2 ^ 31 := by
  rw [← UInt32.toNat_inj, toNat_idAt, toNat_idAt]
  omega

/-! ## Runs -/

/-- Where the counter of a side starts. -/
def Role.start : Role → UInt32
  | initiator => 1
  | responder _ => 2

/-- Every call has the id of its number, and the counter stands at the next one. -/
structure Numbered (start : UInt32) (s : State) : Prop where
  next : s.conn.nextStreamId = idAt start s.opens.length
  opens : ∀ (k : Nat) (call : OpenCall), s.opens[k]? = some call → call.id = idAt start k

section Numbered

variable {start : UInt32} {s t : State}

theorem numbered_init (role : Role) : Numbered role.start (machine role).init := by
  cases role <;> exact ⟨(idAt_zero _).symm, fun k call h => by simp [machine] at h⟩

/-- A step that leaves the calls and the counter alone. -/
theorem Numbered.of_eq (h : Numbered start s) (hnext : t.conn.nextStreamId = s.conn.nextStreamId)
    (hopens : t.opens = s.opens) : Numbered start t := by
  refine ⟨?_, ?_⟩
  · rw [hnext, hopens]
    exact h.next
  · rw [hopens]
    exact h.opens

/-- A call goes on with the id it has. -/
theorem Numbered.setOpen {k : Nat} {call : OpenCall} (h : Numbered start s)
    (hk : s.opens[k]? = some call) (phase : OpenPhase) :
    Numbered start (s.setOpen k { call with phase := phase }) := by
  refine ⟨?_, fun j other hj => ?_⟩
  · show s.conn.nextStreamId = idAt start (s.opens.set k _).length
    rw [List.length_set]
    exact h.next
  · rcases Tasks.of_set hj with ⟨rfl, rfl⟩ | ⟨-, hold⟩
    · exact h.opens j call hk
    · exact h.opens j other hold

/-- The draw of `open_stream`. -/
theorem Numbered.openStream (h : Numbered start s) (cls : StreamClass) :
    Numbered start { s with
      conn := { s.conn with nextStreamId := s.conn.nextStreamId + 2 }
      opens := s.opens ++ [{ id := s.conn.nextStreamId, cls := cls }] } := by
  refine ⟨?_, fun k call hk => ?_⟩
  · simp only [List.length_append, List.length_singleton, idAt_succ, h.next]
  · rcases Tasks.of_append hk with ⟨rfl, rfl⟩ | ⟨-, hold⟩
    · exact h.next
    · exact h.opens k call hold

/-- Frames do not move the counter. -/
theorem nextStreamId_of_enqueue {conn conn' : MuxConn} {cls : StreamClass} {item : WriteItem}
    (h : conn.enqueue cls item = some conn') : conn'.nextStreamId = conn.nextStreamId := by
  obtain ⟨-, ⟨-, rfl⟩ | ⟨-, rfl⟩⟩ := MuxConn.eq_of_enqueue h <;> rfl

theorem nextStreamId_of_writeStep {conn conn' : MuxConn} {a : WriterStep}
    (h : conn.writeStep a = some conn') : conn'.nextStreamId = conn.nextStreamId := by
  cases MuxConn.writeMove_of_writeStep h <;> rfl

/-- **Only a draw moves the counter**, and it gives the next id. -/
theorem Numbered.step {a : Step} (h : Numbered start s) (hstep : s.step a = some t) :
    Numbered start t := by
  cases stateMove_of_step hstep with
  | openStream cls => exact h.openStream cls
  | openEnqueue hk hphase hconn =>
    have hsent : Numbered start { s with conn := _ } := h.of_eq (nextStreamId_of_enqueue hconn) rfl
    exact hsent.setOpen hk .enqueued
  | openFail hk => exact h.setOpen hk .failed
  | @openInsert k call hk =>
    have hinserted : Numbered start (s.setInbound (s.inbound.insert call.id true)) :=
      h.of_eq rfl rfl
    exact hinserted.setOpen hk _
  | enqueue hconn =>
    rcases hconn with rfl | ⟨cls, item, -, hconn⟩
    · exact h.of_eq rfl rfl
    · exact h.of_eq (nextStreamId_of_enqueue hconn) rfl
  | write hconn => exact h.of_eq (nextStreamId_of_writeStep hconn) rfl
  | inbound | peerReceive | peerSend | firstIgnored | firstInsert | firstAnnounce | closeRemove =>
    exact h.of_eq rfl rfl

/-- The opens of a run are numbered from the role's start. -/
theorem numbered_of_run {role : Role} {steps : List Step}
    (hrun : (machine role).run (machine role).init steps = some s) : Numbered role.start s :=
  (machine role).run_invariant (fun _ _ _ h => h.step) (numbered_init role) hrun

/-- All ids of an end have the parity of its start. -/
theorem Numbered.mod_two (h : Numbered start s) :
    ∀ call ∈ s.opens, call.id.toNat % 2 = start.toNat % 2 := by
  intro call hmem
  obtain ⟨k, hk⟩ := List.mem_iff_getElem?.mp hmem
  rw [h.opens k call hk, toNat_idAt_mod_two]

/-- **The ids of `2 ^ 31` consecutive calls are distinct.** -/
theorem Numbered.nodup (h : Numbered start s) (n : Nat) :
    (((s.opens.drop n).take (2 ^ 31)).map OpenCall.id).Nodup := by
  rw [List.nodup_iff_pairwise_ne, List.pairwise_map, List.pairwise_iff_getElem]
  intro i j hi hj hij hsame
  rw [List.length_take] at hj
  rw [List.getElem_take, List.getElem_take, List.getElem_drop, List.getElem_drop,
    h.opens (n + i) _ (List.getElem?_eq_getElem _), h.opens (n + j) _ (List.getElem?_eq_getElem _),
    idAt_eq_iff] at hsame
  omega

end Numbered

/-- **Stream ids are apart.** However often and in whatever interleaving the two sides of a
connection open streams, the ids of the dialing side are odd and those of the accepting side even,
so that none is an id of both; and on either side the ids of any `2 ^ 31` consecutive calls are
distinct. -/
theorem streamIds_apart (payload : Bytes) {as bs : List Step} {s t : State}
    (hs : (machine .initiator).run (machine .initiator).init as = some s)
    (ht : (machine (.responder payload)).run (machine (.responder payload)).init bs = some t) :
    ((∀ call ∈ s.opens, call.id.toNat % 2 = 1) ∧ ∀ call ∈ t.opens, call.id.toNat % 2 = 0) ∧
      (∀ a ∈ s.opens, ∀ b ∈ t.opens, a.id ≠ b.id) ∧
      (∀ n, (((s.opens.drop n).take (2 ^ 31)).map OpenCall.id).Nodup) ∧
      ∀ n, (((t.opens.drop n).take (2 ^ 31)).map OpenCall.id).Nodup := by
  have hdialed := numbered_of_run hs
  have haccepted := numbered_of_run ht
  have hodd : ∀ call ∈ s.opens, call.id.toNat % 2 = 1 := hdialed.mod_two
  have heven : ∀ call ∈ t.opens, call.id.toNat % 2 = 0 := fun call hmem =>
    (haccepted.mod_two call hmem).trans (by simp [Role.start])
  refine ⟨⟨hodd, heven⟩, fun a ha b hb hsame => ?_, hdialed.nodup, haccepted.nodup⟩
  have hparity := hodd a ha
  rw [hsame, heven b hb] at hparity
  cases hparity

/-- Two streams, opened while a frame of the first one is written. -/
def twoOpens : List Step :=
  [.openStream .control, .openEnqueue 0, .openStream .bulk, .write .drain, .openInsert 0,
    .openEnqueue 1, .openInsert 1]

theorem streamIds_twoOpens :
    ∃ s t, (machine .initiator).run (machine .initiator).init twoOpens = some s ∧
      (machine (.responder [])).run (machine (.responder [])).init twoOpens = some t ∧
      s.opens.map OpenCall.id = [1, 3] ∧ t.opens.map OpenCall.id = [2, 4] ∧
      ∀ a ∈ s.opens, ∀ b ∈ t.opens, a.id ≠ b.id := by
  obtain ⟨s, hs, hdialed⟩ := (machine .initiator).exists_run twoOpens
    (fun s => s.opens.map OpenCall.id = [1, 3]) (by decide)
  obtain ⟨t, ht, haccepted⟩ := (machine (.responder [])).exists_run twoOpens
    (fun t => t.opens.map OpenCall.id = [2, 4]) (by decide)
  exact ⟨s, t, hs, ht, hdialed, haccepted, (streamIds_apart [] hs ht).2.1⟩

end Roboat.Daemon.Demux
