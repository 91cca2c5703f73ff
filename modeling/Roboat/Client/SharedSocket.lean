import Roboat.Daemon.IpcCodec
import Roboat.Transition.Machine
import Roboat.Transition.Tasks

/-! # Two readers on one socket

The Go and the Python client both start a receive loop when they connect: it reads frames from the
socket and dispatches them. `Listen` writes its request and then reads the reply from the same
socket itself. Nothing keeps the two apart.

A frame is a length and a body, which are read separately, and in Go the bytes of each can come in
several reads. So the loop can take the reply (and drop it, since `dispatch` has nothing to do for
`listening`), the call can take a frame that was for the loop, and each can take a part of a frame
that the other one has begun. In Python a coroutine that has to wait while another one waits on the
same reader gets a `RuntimeError`. `oneReader_fails` has a run of each client.

All goes well in the runs in which nobody reads inside a frame of another, a listen call begins its
own reply and nothing else, and no two coroutines wait at once (`delivered_of_oneReader`). -/

namespace Roboat.Client

open Daemon.Ipc (maxMsgSize DaemonMsg serdeJson)

/-! ## Reading a frame -/

/-- What a client reads in the JSON of a message: `op` and `message`, empty where there is none. -/
structure Decoded where
  op : Str
  message : Str
  deriving DecidableEq, Repr

/-- The four bytes of a length. -/
def headerLength : Bytes → Nat
  | [a, b, c, d] => (fromBeBytes a b c d).toNat
  | _ => 0

/-- Where `readMsg` (Go) or `_read_msg` (Python) is. -/
inductive ReadPhase where
  /-- In the length, with these bytes of it. -/
  | header (got : Bytes)
  /-- In a body of this length. -/
  | body (length : Nat) (got : Bytes)
  deriving DecidableEq, Repr

namespace ReadPhase

/-- Before a frame. -/
def start : ReadPhase := header []

/-- The bytes that are missing in what is being read. -/
def needed : ReadPhase → Nat
  | header got => 4 - got.length
  | body length got => length - got.length

end ReadPhase

/-- What some more bytes lead to. -/
inductive Progress where
  | reading (phase : ReadPhase)
  | message (body : Bytes)
  | tooLarge (length : Nat)
  deriving DecidableEq, Repr

/-- A reader gets bytes. -/
def ReadPhase.feed : ReadPhase → Bytes → Progress
  | header got, bs =>
    if (got ++ bs).length < 4 then .reading (.header (got ++ bs))
    else if maxMsgSize < headerLength (got ++ bs) then .tooLarge (headerLength (got ++ bs))
    -- nothing is read for an empty body
    else if headerLength (got ++ bs) = 0 then .message []
    else .reading (.body (headerLength (got ++ bs)) [])
  | body length got, bs =>
    if (got ++ bs).length < length then .reading (.body length (got ++ bs))
    else .message (got ++ bs)

/-! ## The machine -/

/-- The two clients. -/
inductive Impl where
  | go
  | python
  deriving DecidableEq, Repr

/-- How many bytes one read may take: in Go any number up to those that are missing, in Python
`readexactly` takes all of them at once. -/
def Impl.allows : Impl → ReadPhase → Nat → Bool
  | go, phase, n => decide (0 < n ∧ n ≤ phase.needed)
  | python, phase, n => decide (0 < n ∧ n = phase.needed)

/-- Why a read fails. -/
inductive ReadError where
  | tooLarge (length : Nat)
  | badJson
  /-- Another coroutine is already waiting for incoming data (Python). -/
  | busy
  deriving DecidableEq, Repr

/-- How a listen call returns. -/
inductive ListenResult where
  | listening
  | error (message : Str)
  | unexpected (op : Str)
  | failed (e : ReadError)
  /-- The request could not be written. -/
  | unsent
  deriving DecidableEq, Repr

/-- What `Listen` makes of the message it has read. -/
def listenResult : Option Decoded → ListenResult
  | none => .failed .badJson
  | some msg =>
    if msg.op = "error".toList then .error msg.message
    else if msg.op ≠ "listening".toList then .unexpected msg.op
    else .listening

/-- Where a listen call is. -/
inductive ListenPhase where
  | writing
  | reading (phase : ReadPhase)
  | returned (result : ListenResult)
  deriving DecidableEq, Repr

/-- Who reads. -/
inductive Who where
  | loop
  | listen (l : Nat)
  deriving DecidableEq, Repr

/-- The replies that are for a reader. -/
def Who.tag : Who → Option Nat
  | loop => none
  | listen l => some l

/-- **A frame of the daemon**: a body within the limit that the client's JSON library reads. `reply`
is the listen call that it answers; no step reads it. -/
structure Frame (decode : Bytes → Option Decoded) where
  body : Bytes
  reply : Option Nat
  fits : body.length ≤ maxMsgSize
  valid : (decode body).isSome

variable {decode : Bytes → Option Decoded}

/-- The frame on the socket. -/
def Frame.bytes (f : Frame decode) : Bytes := toBeBytes (UInt32.ofNat f.body.length) ++ f.body

/-- The socket, the reader and the tasks of a client. `sent` and `taken`, the frames that were sent
and the number of bytes that were read, are history. -/
structure State (decode : Bytes → Option Decoded) where
  sent : List (Frame decode)
  wire : Bytes
  buffer : Bytes
  taken : Nat
  /-- The coroutine that waits for data (Python). -/
  waiter : Option Who
  /-- The receive loop, unless it has ended. -/
  loop : Option ReadPhase
  listens : List ListenPhase
  /-- The bodies of the messages that were dispatched. -/
  dispatched : List Bytes

/-- The atomic steps. -/
inductive Step (decode : Bytes → Option Decoded) where
  /-- `Listen` is called. -/
  | listen
  /-- Its request is written, or not. -/
  | wrote (l : Nat) (ok : Bool)
  /-- The daemon sends a frame. -/
  | send (f : Frame decode)
  /-- Bytes arrive. -/
  | arrive (n : Nat)
  /-- A read returns `n` bytes. -/
  | take (who : Who) (n : Nat)
  /-- A coroutine has to wait (Python). -/
  | wait (who : Who)

namespace State

/-- What a reader is reading. -/
def phaseOf (s : State decode) : Who → Option ReadPhase
  | .loop => s.loop
  | .listen l =>
    match s.listens[l]? with
    | some (.reading phase) => some phase
    | _ => none

def setPhase (s : State decode) (who : Who) (phase : ReadPhase) : State decode :=
  match who with
  | .loop => { s with loop := some phase }
  | .listen l => { s with listens := s.listens.set l (.reading phase) }

/-- A read has failed: the loop ends without a word, a listen call returns the error. -/
def fail (s : State decode) (who : Who) (e : ReadError) : State decode :=
  match who with
  | .loop => { s with loop := none }
  | .listen l => { s with listens := s.listens.set l (.returned (.failed e)) }

/-- A message is read: the loop dispatches it, a listen call returns. -/
def finish (s : State decode) (who : Who) (body : Bytes) : State decode :=
  match who with
  | .loop =>
    if (decode body).isSome then
      { s with dispatched := s.dispatched ++ [body], loop := some .start }
    else { s with loop := none }
  | .listen l => { s with listens := s.listens.set l (.returned (listenResult (decode body))) }

/-- What follows a read. -/
def progress (s : State decode) (who : Who) : Progress → State decode
  | .reading phase => s.setPhase who phase
  | .message body => s.finish who body
  | .tooLarge length => s.fail who (.tooLarge length)

/-- The step function. -/
def step (impl : Impl) (s : State decode) : Step decode → Option (State decode)
  | .listen => some { s with listens := s.listens ++ [.writing] }
  | .wrote l ok =>
    if s.listens[l]? = some .writing then
      some { s with
        listens := s.listens.set l (if ok then .reading .start else .returned .unsent) }
    else none
  | .send f => some { s with sent := s.sent ++ [f], wire := s.wire ++ f.bytes }
  | .arrive n =>
    if 0 < n ∧ n ≤ s.wire.length then
      some { s with buffer := s.buffer ++ s.wire.take n, wire := s.wire.drop n, waiter := none }
    else none
  | .take who n => (s.phaseOf who).bind fun phase =>
    if impl.allows phase n ∧ n ≤ s.buffer.length ∧ s.waiter ≠ some who then
      some ({ s with buffer := s.buffer.drop n, taken := s.taken + n }.progress who
        (phase.feed (s.buffer.take n)))
    else none
  | .wait who => (s.phaseOf who).bind fun phase =>
    if impl = .python ∧ s.buffer.length < phase.needed ∧ s.waiter ≠ some who then
      some (if s.waiter = none then { s with waiter := some who } else s.fail who .busy)
    else none

end State

/-- **A client and its daemon**, from the connect on. -/
def machine (impl : Impl) (decode : Bytes → Option Decoded) :
    Machine (State decode) (Step decode) where
  init := ⟨[], [], [], 0, none, some .start, [], []⟩
  step := State.step impl

/-! ## What is wanted -/

/-- The bytes of some frames. -/
def stream (frames : List (Frame decode)) : Bytes := frames.flatMap Frame.bytes

/-- The frame that begins at an offset. -/
def frameAt : List (Frame decode) → Nat → Option (Frame decode)
  | [], _ => none
  | f :: _, 0 => some f
  | f :: frames, n + 1 =>
    if n + 1 < f.bytes.length then none else frameAt frames (n + 1 - f.bytes.length)

namespace State

/-- **The frames are delivered**: those for the loop are dispatched, in order and once each, and
each reply is what its listen call has returned. -/
structure Delivered (s : State decode) (done : List (Frame decode)) : Prop where
  dispatched : s.dispatched = (done.filter fun f => f.reply = none).map Frame.body
  replies : ∀ f ∈ done, ∀ l, f.reply = some l →
    s.listens[l]? = some (.returned (listenResult (decode f.body)))

/-- The readers of a client. -/
def readers (s : State decode) : List Who :=
  .loop :: (List.range s.listens.length).map .listen

/-- **The condition**: no other reader is inside a frame, and one that begins a frame begins one
that is for it; and no coroutine waits while another one does. -/
def OneReader (s : State decode) : Step decode → Prop
  | .take who _ =>
    (∀ other ∈ s.readers, other ≠ who → ∀ phase ∈ s.phaseOf other, phase = .start) ∧
      (s.phaseOf who = some .start →
        ∃ f : Frame decode, f ∈ frameAt s.sent s.taken ∧ f.reply = who.tag)
  | .wait _ => s.waiter = none
  | _ => True

instance (s : State decode) : ∀ a, Decidable (s.OneReader a)
  | .take who _ => inferInstanceAs (Decidable
      ((∀ other ∈ s.readers, other ≠ who → ∀ phase ∈ s.phaseOf other, phase = .start) ∧
        (s.phaseOf who = some .start →
          ∃ f : Frame decode, f ∈ frameAt s.sent s.taken ∧ f.reply = who.tag)))
  | .wait _ => inferInstanceAs (Decidable (s.waiter = none))
  | .listen | .wrote .. | .send _ | .arrive _ => isTrue trivial

end State

/-! ## A frame, read by one reader -/

section Frames

variable {f : Frame decode} {done rest : List (Frame decode)} {k n : Nat}

theorem Frame.length_bytes (f : Frame decode) : f.bytes.length = 4 + f.body.length := by
  rw [bytes, List.length_append, length_toBeBytes]

/-- The length that a frame announces. -/
theorem headerLength_bytes (f : Frame decode) : headerLength (f.bytes.take 4) = f.body.length := by
  have htake : f.bytes.take 4 = toBeBytes (UInt32.ofNat f.body.length) := rfl
  have hfits := f.fits
  rw [htake, toBeBytes, headerLength, fromBeBytes_toBeBytes, UInt32.toNat_ofNat']
  unfold maxMsgSize at hfits
  omega

/-- The reader of a frame after its first `k` bytes. -/
def Frame.phaseAt (f : Frame decode) (k : Nat) : ReadPhase :=
  if k < 4 then .header (f.bytes.take k) else .body f.body.length (f.body.take (k - 4))

theorem Frame.drop_bytes (f : Frame decode) (hk : 4 ≤ k) :
    f.bytes.drop k = f.body.drop (k - 4) := by
  rw [bytes, List.drop_append, length_toBeBytes,
    List.drop_eq_nil_of_le (by rw [length_toBeBytes]; exact hk), List.nil_append]

theorem Frame.phaseAt_ne_start (f : Frame decode) (hk : k ≠ 0) (hlt : k < f.bytes.length) :
    f.phaseAt k ≠ .start := by
  unfold phaseAt ReadPhase.start
  split_ifs
  · intro heq
    have hlen := congrArg List.length (ReadPhase.header.inj heq)
    rw [List.length_take, List.length_nil] at hlen
    omega
  · exact fun heq => by cases heq

/-- A reader inside a frame never asks for bytes past its end. -/
theorem Frame.needed_phaseAt_le (f : Frame decode) (hk : k < f.bytes.length) :
    (f.phaseAt k).needed ≤ f.bytes.length - k := by
  have hlen := f.length_bytes
  unfold phaseAt
  split_ifs with hheader
  · rw [ReadPhase.needed, List.length_take]
    omega
  · rw [ReadPhase.needed, List.length_take]
    omega

/-- **A reader that gets the next bytes of its frame** is where it should be, or has the body. -/
theorem Frame.feed_phaseAt (f : Frame decode) (hk : k < f.bytes.length)
    (hn : n ≤ (f.phaseAt k).needed) :
    (f.phaseAt k).feed ((f.bytes.drop k).take n)
      = if k + n < f.bytes.length then .reading (f.phaseAt (k + n)) else .message f.body := by
  have hlen := f.length_bytes
  have hle := f.needed_phaseAt_le hk
  unfold phaseAt at hn ⊢
  by_cases hheader : k < 4
  · rw [if_pos hheader] at hn ⊢
    rw [ReadPhase.needed, List.length_take] at hn
    have hgot : f.bytes.take k ++ (f.bytes.drop k).take n = f.bytes.take (k + n) :=
      List.take_add.symm
    rw [ReadPhase.feed, hgot, List.length_take]
    by_cases hmore : k + n < 4
    · rw [if_pos (by omega), if_pos (by omega), if_pos hmore]
    · -- the length is complete; a read never goes past it into the body
      have hfour : k + n = 4 := by omega
      have hfits := f.fits
      rw [if_neg (by omega), hfour, headerLength_bytes, if_neg (by omega)]
      by_cases hempty : f.body.length = 0
      · rw [if_pos hempty, if_neg (by omega), List.length_eq_zero_iff.mp hempty]
      · rw [if_neg hempty, if_pos (by omega)]
        rfl
  · rw [if_neg hheader] at hn ⊢
    rw [ReadPhase.needed, List.length_take] at hn
    have hgot : f.body.take (k - 4) ++ (f.bytes.drop k).take n = f.body.take (k - 4 + n) := by
      rw [f.drop_bytes (by omega)]
      exact List.take_add.symm
    rw [ReadPhase.feed, hgot, List.length_take]
    by_cases hmore : k + n < f.bytes.length
    · have hsub : k - 4 + n = k + n - 4 := by omega
      rw [if_pos (by omega), if_pos hmore, if_neg (by omega), hsub]
    · rw [if_neg (by omega), if_neg hmore, List.take_of_length_le (by omega)]

@[simp] theorem stream_nil : stream ([] : List (Frame decode)) = [] := rfl

@[simp] theorem stream_cons (f : Frame decode) (rest : List (Frame decode)) :
    stream (f :: rest) = f.bytes ++ stream rest := rfl

theorem stream_append (done rest : List (Frame decode)) :
    stream (done ++ rest) = stream done ++ stream rest := List.flatMap_append

/-- After whole frames the next one begins. -/
theorem frameAt_append (done rest : List (Frame decode)) :
    frameAt (done ++ rest) (stream done).length = rest.head? := by
  induction done with
  | nil => cases rest <;> rfl
  | cons f done ih =>
    have hlen := f.length_bytes
    rw [stream_cons, List.length_append, List.cons_append]
    obtain ⟨m, hm⟩ : ∃ m, f.bytes.length + (stream done).length = m + 1 :=
      ⟨f.bytes.length + (stream done).length - 1, by omega⟩
    rw [hm, frameAt, if_neg (by omega), ← hm, Nat.add_sub_cancel_left]
    exact ih

end Frames

/-! ## One reader at a time -/

namespace State

variable {impl : Impl} {s t : State decode} {done rest : List (Frame decode)} {k : Nat} {who : Who}

/-- **The invariant**: the frames `done` are delivered, and of the frames that are left the first
`k` bytes are with the reader `who` that the first of them is for. -/
structure Shared (s : State decode) (done rest : List (Frame decode)) (k : Nat) (who : Who) :
    Prop where
  sent : s.sent = done ++ rest
  taken : s.taken = (stream done).length + k
  bytes : s.buffer ++ s.wire = (stream rest).drop k
  inside : k ≠ 0 → ∃ f tail, rest = f :: tail ∧ k < f.bytes.length ∧ f.reply = who.tag ∧
    s.phaseOf who = some (f.phaseAt k)
  others : ∀ other, (k ≠ 0 → other ≠ who) → ∀ phase ∈ s.phaseOf other, phase = .start
  loop : s.loop.isSome
  delivered : s.Delivered done

theorem mem_readers_of_phaseOf {phase : ReadPhase} (h : s.phaseOf who = some phase) :
    who ∈ s.readers := by
  cases who with
  | loop => exact List.mem_cons_self
  | listen l =>
    refine List.mem_cons_of_mem _ (List.mem_map.mpr ⟨l, List.mem_range.mpr ?_, rfl⟩)
    by_contra hlt
    simp only [phaseOf, List.getElem?_eq_none (Nat.le_of_not_lt hlt)] at h
    cases h

theorem phaseOf_listen {l : Nat} {phase : ReadPhase} :
    s.phaseOf (.listen l) = some phase ↔ s.listens[l]? = some (.reading phase) := by
  simp only [phaseOf]
  cases hl : s.listens[l]? with
  | none => simp
  | some listen => cases listen <;> simp

/-- A listen call that moves on leaves the other readers. -/
theorem phaseOf_set_of_ne {l : Nat} {listen : ListenPhase} {other : Who} (h : other ≠ .listen l) :
    State.phaseOf { s with listens := s.listens.set l listen } other = s.phaseOf other := by
  cases other with
  | loop => rfl
  | listen m =>
    have hne : l ≠ m := fun heq => h (by rw [heq])
    simp only [phaseOf, List.getElem?_set_ne hne]

/-- A listen call that has not returned moves on, and what is delivered stays so. -/
theorem Delivered.set {l : Nat} {old new : ListenPhase} (h : s.Delivered done)
    (hl : s.listens[l]? = some old) (hold : ∀ result, old ≠ .returned result) :
    State.Delivered { s with listens := s.listens.set l new } done where
  dispatched := h.dispatched
  replies f hf m hm := by
    have hne : l ≠ m := by
      rintro rfl
      exact hold _ (Option.some.inj (hl.symm.trans (h.replies f hf l hm)))
    exact (List.getElem?_set_ne hne).trans (h.replies f hf m hm)

/-- A call is added. -/
theorem Shared.listen (h : s.Shared done rest k who) :
    State.Shared { s with listens := s.listens ++ [ListenPhase.writing] } done rest k who := by
  have hphase : ∀ other,
      State.phaseOf { s with listens := s.listens ++ [ListenPhase.writing] } other
        = s.phaseOf other := by
    rintro (_ | l)
    · rfl
    · rcases Nat.lt_trichotomy l s.listens.length with hlt | rfl | hgt
      · simp only [phaseOf, List.getElem?_append_left hlt]
      · simp [phaseOf]
      · have hlen : (s.listens ++ [ListenPhase.writing]).length ≤ l := by
          rw [List.length_append, List.length_singleton]
          omega
        simp only [phaseOf, List.getElem?_eq_none hlen, List.getElem?_eq_none (Nat.le_of_lt hgt)]
  refine ⟨h.sent, h.taken, h.bytes, fun hk => ?_, fun other hother => ?_, h.loop,
    h.delivered.dispatched, fun f hf l hl => Tasks.append_of_some (h.delivered.replies f hf l hl)⟩
  · rw [hphase]
    exact h.inside hk
  · rw [hphase]
    exact h.others other hother

/-- A call has written its request. -/
theorem Shared.wrote {l : Nat} (ok : Bool) (h : s.Shared done rest k who)
    (hl : s.listens[l]? = some .writing) :
    State.Shared { s with
      listens := s.listens.set l (if ok then .reading .start else .returned .unsent) }
      done rest k who := by
  have hidle : s.phaseOf (.listen l) = none := by simp only [phaseOf, hl]
  refine ⟨h.sent, h.taken, h.bytes, fun hk => ?_, fun other hother phase hphase => ?_, h.loop,
    h.delivered.set hl fun _ heq => by cases heq⟩
  · obtain ⟨f, tail, hrest, hlt, hreply, hreading⟩ := h.inside hk
    have hne : who ≠ .listen l := by
      rintro rfl
      rw [hidle] at hreading
      cases hreading
    exact ⟨f, tail, hrest, hlt, hreply, (phaseOf_set_of_ne hne).trans hreading⟩
  · by_cases hne : other = .listen l
    · subst hne
      have hnew := phaseOf_listen.mp hphase
      rw [Tasks.set_self hl] at hnew
      cases ok with
      | true => exact (ListenPhase.reading.inj (Option.some.inj hnew)).symm
      | false => cases hnew
    · rw [phaseOf_set_of_ne hne] at hphase
      exact h.others other hother phase hphase

/-- The bytes with a reader are some of those that are left. -/
theorem Shared.le_length (h : s.Shared done rest k who) : k ≤ (stream rest).length := by
  by_cases hk : k = 0
  · rw [hk]
    exact Nat.zero_le _
  · obtain ⟨f, tail, rfl, hlt, -⟩ := h.inside hk
    rw [stream_cons, List.length_append]
    omega

/-- A frame is sent. -/
theorem Shared.send (h : s.Shared done rest k who) (f : Frame decode) :
    State.Shared { s with sent := s.sent ++ [f], wire := s.wire ++ f.bytes } done (rest ++ [f]) k
      who := by
  refine ⟨?_, h.taken, ?_, fun hk => ?_, h.others, h.loop, h.delivered.dispatched,
    h.delivered.replies⟩
  · rw [h.sent, List.append_assoc]
  · rw [← List.append_assoc, h.bytes, stream_append, List.drop_append_of_le_length h.le_length,
      stream_cons, stream_nil, List.append_nil]
  · obtain ⟨g, tail, hrest, hinside⟩ := h.inside hk
    exact ⟨g, tail ++ [f], by rw [hrest]; rfl, hinside⟩

/-- Bytes arrive. -/
theorem Shared.arrive (h : s.Shared done rest k who) (n : Nat) :
    State.Shared { s with
      buffer := s.buffer ++ s.wire.take n, wire := s.wire.drop n, waiter := none }
      done rest k who := by
  refine ⟨h.sent, h.taken, ?_, h.inside, h.others, h.loop, h.delivered.dispatched,
    h.delivered.replies⟩
  rw [List.append_assoc, List.take_append_drop]
  exact h.bytes

/-! ### A read -/

variable {reader : Who} {phase : ReadPhase} {n : Nat}

theorem phaseOf_setPhase (h : s.phaseOf who = some phase) (new : ReadPhase) :
    (s.setPhase who new).phaseOf who = some new := by
  cases who with
  | loop => rfl
  | listen l => exact phaseOf_listen.mpr (Tasks.set_self (phaseOf_listen.mp h))

theorem phaseOf_setPhase_of_ne {other : Who} (hne : other ≠ who) (new : ReadPhase) :
    (s.setPhase who new).phaseOf other = s.phaseOf other := by
  cases who with
  | loop =>
    cases other with
    | loop => exact absurd rfl hne
    | listen l => rfl
  | listen l => exact phaseOf_set_of_ne hne

/-- A reader's phase is no part of what was delivered. -/
theorem Delivered.setPhase (h : s.Delivered done) (hreading : s.phaseOf who = some phase)
    (new : ReadPhase) : (s.setPhase who new).Delivered done := by
  cases who with
  | loop => exact ⟨h.dispatched, h.replies⟩
  | listen l => exact h.set (phaseOf_listen.mp hreading) fun _ heq => by cases heq

/-- What a reader does to its phase leaves the socket, and keeps the loop. -/
theorem setPhase_frame (s : State decode) (who : Who) (new : ReadPhase) :
    (s.setPhase who new).sent = s.sent ∧ (s.setPhase who new).taken = s.taken ∧
      (s.setPhase who new).buffer = s.buffer ∧ (s.setPhase who new).wire = s.wire ∧
      (s.loop.isSome → (s.setPhase who new).loop.isSome) := by
  cases who with
  | loop => exact ⟨rfl, rfl, rfl, rfl, fun _ => rfl⟩
  | listen l => exact ⟨rfl, rfl, rfl, rfl, id⟩

/-- Finishing a frame moves no bytes. -/
theorem finish_frame (s : State decode) (who : Who) (f : Frame decode) :
    (s.finish who f.body).sent = s.sent ∧ (s.finish who f.body).taken = s.taken ∧
      (s.finish who f.body).buffer = s.buffer ∧ (s.finish who f.body).wire = s.wire ∧
      (s.loop.isSome → (s.finish who f.body).loop.isSome) := by
  cases who with
  | loop =>
    rw [State.finish, if_pos f.valid]
    exact ⟨rfl, rfl, rfl, rfl, fun _ => rfl⟩
  | listen l => exact ⟨rfl, rfl, rfl, rfl, id⟩

/-- Under the condition a reader reads the frame that is for it. -/
theorem Shared.current (h : s.Shared done rest k who) (hphase : s.phaseOf reader = some phase)
    (hone : s.OneReader (.take reader n)) :
    (∃ f tail, rest = f :: tail ∧ k < f.bytes.length ∧ f.reply = reader.tag ∧
        phase = f.phaseAt k) ∧
      ∀ other, other ≠ reader → ∀ p ∈ s.phaseOf other, p = .start := by
  have hothers : ∀ other, other ≠ reader → ∀ p ∈ s.phaseOf other, p = .start :=
    fun other hne p hp => hone.1 other (mem_readers_of_phaseOf hp) hne p hp
  refine ⟨?_, hothers⟩
  by_cases hk : k = 0
  · -- between two frames: the reader begins the next one
    subst hk
    obtain rfl : phase = .start := h.others reader (fun hne => absurd rfl hne) phase hphase
    obtain ⟨f, hf, hreply⟩ := hone.2 hphase
    rw [h.sent, h.taken, Nat.add_zero, frameAt_append] at hf
    cases rest with
    | nil => cases hf
    | cons g tail =>
      cases hf
      exact ⟨f, tail, rfl, by rw [f.length_bytes]; omega, hreply, rfl⟩
  · -- inside a frame: there is nobody else whose turn it is
    obtain ⟨f, tail, hrest, hlt, hreply, hreading⟩ := h.inside hk
    have hsame : who = reader := by
      by_contra hne
      exact f.phaseAt_ne_start hk hlt (hothers who hne _ hreading)
    subst hsame
    exact ⟨f, tail, hrest, hlt, hreply, Option.some.inj (hphase.symm.trans hreading)⟩

/-- The bytes that a reader takes are the next ones of its frame. -/
theorem take_buffer {f : Frame decode} {tail : List (Frame decode)}
    (hbytes : s.buffer ++ s.wire = (stream (f :: tail)).drop k) (hk : k < f.bytes.length)
    (hbuffer : n ≤ s.buffer.length) (hn : k + n ≤ f.bytes.length) :
    s.buffer.take n = (f.bytes.drop k).take n ∧
      s.buffer.drop n ++ s.wire = (stream (f :: tail)).drop (k + n) := by
  constructor
  · have htake := congrArg (List.take n) hbytes
    rw [List.take_append_of_le_length hbuffer, stream_cons,
      List.drop_append_of_le_length hk.le] at htake
    rw [htake, List.take_append_of_le_length (by rw [List.length_drop]; omega)]
  · have hdrop := congrArg (List.drop n) hbytes
    rw [List.drop_append_of_le_length hbuffer, List.drop_drop] at hdrop
    exact hdrop

/-- A frame is read to its end. -/
theorem Delivered.finish {f : Frame decode} (h : s.Delivered done)
    (hphase : s.phaseOf reader = some phase) (hreply : f.reply = reader.tag) :
    (s.finish reader f.body).Delivered (done ++ [f]) := by
  cases reader with
  | loop =>
    have hnone : f.reply = none := hreply
    rw [State.finish, if_pos f.valid]
    refine ⟨?_, fun g hg l hl => ?_⟩
    · rw [List.filter_append, List.map_append, ← h.dispatched]
      simp [hnone]
    · rcases List.mem_append.mp hg with hold | hnew
      · exact h.replies g hold l hl
      · rw [List.mem_singleton.mp hnew, hnone] at hl
        cases hl
  | listen l =>
    have hsome : f.reply = some l := hreply
    have hl := phaseOf_listen.mp hphase
    have hold : (s.finish (.listen l) f.body).Delivered done :=
      h.set hl fun _ heq => by cases heq
    refine ⟨?_, fun g hg m hm => ?_⟩
    · rw [List.filter_append, List.map_append, hold.dispatched]
      simp [hsome]
    · rcases List.mem_append.mp hg with hbefore | hnew
      · exact hold.replies g hbefore m hm
      · rw [List.mem_singleton.mp hnew, hsome] at hm
        cases hm
        rw [List.mem_singleton.mp hnew]
        exact Tasks.set_self hl

/-- A reader that has read a frame is before the next one, or is none any more. -/
theorem phaseOf_finish {f : Frame decode} (hphase : s.phaseOf reader = some phase) :
    ∀ p ∈ (s.finish reader f.body).phaseOf reader, p = .start := by
  intro p hp
  cases reader with
  | loop =>
    rw [State.finish, if_pos f.valid] at hp
    exact (Option.some.inj hp).symm
  | listen l =>
    have hnew := phaseOf_listen.mp hp
    rw [State.finish] at hnew
    cases (Tasks.set_self (phaseOf_listen.mp hphase)).symm.trans hnew

theorem phaseOf_finish_of_ne {f : Frame decode} {other : Who} (hne : other ≠ reader) :
    (s.finish reader f.body).phaseOf other = s.phaseOf other := by
  cases reader with
  | loop =>
    rw [State.finish, if_pos f.valid]
    cases other with
    | loop => exact absurd rfl hne
    | listen l => rfl
  | listen l => exact phaseOf_set_of_ne hne

/-- **A read** under the condition keeps the invariant. -/
theorem Shared.take (h : s.Shared done rest k who) (hphase : s.phaseOf reader = some phase)
    (hneeded : n ≤ phase.needed) (hpos : 0 < n) (hbuffer : n ≤ s.buffer.length)
    (hone : s.OneReader (.take reader n)) :
    ∃ done' rest' k', State.Shared
      ({ s with buffer := s.buffer.drop n, taken := s.taken + n }.progress reader
        (phase.feed (s.buffer.take n))) done' rest' k' reader := by
  obtain ⟨⟨f, tail, rfl, hlt, hreply, rfl⟩, hothers⟩ := h.current hphase hone
  have hle := f.needed_phaseAt_le hlt
  obtain ⟨htake, hleft⟩ := take_buffer h.bytes hlt hbuffer (by omega)
  let next : State decode := { s with buffer := s.buffer.drop n, taken := s.taken + n }
  have hnext : next.phaseOf = s.phaseOf := by
    funext who
    cases who <;> rfl
  have hreading : next.phaseOf reader = some (f.phaseAt k) := by rw [hnext]; exact hphase
  have hdelivered : next.Delivered done := ⟨h.delivered.dispatched, h.delivered.replies⟩
  rw [htake, f.feed_phaseAt hlt hneeded]
  by_cases hmore : k + n < f.bytes.length
  · -- still inside the frame, which is now that of `reader`
    rw [if_pos hmore]
    obtain ⟨hsent, htaken, hbuf, hwire, hloop⟩ :=
      next.setPhase_frame reader (f.phaseAt (k + n))
    refine ⟨done, f :: tail, k + n, hsent.trans h.sent, ?_, ?_, fun _ => ?_, ?_, hloop h.loop,
      hdelivered.setPhase hreading _⟩
    · refine htaken.trans ?_
      change s.taken + n = _
      rw [h.taken, Nat.add_assoc]
    · exact (congrArg₂ (· ++ ·) hbuf hwire).trans hleft
    · exact ⟨f, tail, rfl, hmore, hreply, phaseOf_setPhase hreading _⟩
    · intro other hother p hp
      have hne : other ≠ reader := hother (by omega)
      rw [State.progress, phaseOf_setPhase_of_ne hne, hnext] at hp
      exact hothers other hne p hp
  · -- the frame is whole and moves to those that are done
    rw [if_neg hmore]
    have hwhole : k + n = f.bytes.length := by omega
    obtain ⟨hsent, htaken, hbuf, hwire, hloop⟩ := next.finish_frame reader f
    refine ⟨done ++ [f], tail, 0, hsent.trans ?_, htaken.trans ?_,
      (congrArg₂ (· ++ ·) hbuf hwire).trans ?_, fun hne => absurd rfl hne, ?_, hloop h.loop,
      hdelivered.finish hreading hreply⟩
    · rw [List.append_assoc]
      exact h.sent
    · change s.taken + n = _
      rw [h.taken, stream_append, List.length_append, stream_cons, stream_nil, List.append_nil]
      omega
    · change s.buffer.drop n ++ s.wire = _
      rw [hleft, hwhole, stream_cons, List.drop_left, List.drop_zero]
    · intro other _ p hp
      by_cases hne : other = reader
      · subst hne
        exact phaseOf_finish hreading p hp
      · rw [State.progress, phaseOf_finish_of_ne hne, hnext] at hp
        exact hothers other hne p hp

/-- **Every step** under the condition keeps the invariant. -/
theorem Shared.step {a : Step decode} (h : s.Shared done rest k who) (hone : s.OneReader a)
    (hstep : s.step impl a = some t) : ∃ done' rest' k' who', t.Shared done' rest' k' who' := by
  cases a with
  | listen =>
    cases hstep
    exact ⟨done, rest, k, who, h.listen⟩
  | wrote l ok =>
    obtain ⟨hl, hstep⟩ := Option.ite_none_right_eq_some.mp hstep
    cases hstep
    exact ⟨done, rest, k, who, h.wrote ok hl⟩
  | send f =>
    cases hstep
    exact ⟨done, rest ++ [f], k, who, h.send f⟩
  | arrive n =>
    obtain ⟨-, hstep⟩ := Option.ite_none_right_eq_some.mp hstep
    cases hstep
    exact ⟨done, rest, k, who, h.arrive n⟩
  | take reader n =>
    obtain ⟨phase, hphase, hstep⟩ := Option.bind_eq_some_iff.mp hstep
    obtain ⟨⟨hallows, hbuffer, -⟩, hstep⟩ := Option.ite_none_right_eq_some.mp hstep
    cases hstep
    obtain ⟨hpos, hneeded⟩ : 0 < n ∧ n ≤ phase.needed := by
      cases impl with
      | go => exact of_decide_eq_true hallows
      | python =>
        obtain ⟨hpos, heq⟩ := of_decide_eq_true hallows
        exact ⟨hpos, heq.le⟩
    obtain ⟨done', rest', k', hshared⟩ := h.take hphase hneeded hpos hbuffer hone
    exact ⟨done', rest', k', reader, hshared⟩
  | wait reader =>
    obtain ⟨phase, -, hstep⟩ := Option.bind_eq_some_iff.mp hstep
    obtain ⟨-, hstep⟩ := Option.ite_none_right_eq_some.mp hstep
    have hfree : s.waiter = none := hone
    rw [if_pos hfree] at hstep
    cases hstep
    exact ⟨done, rest, k, who, h.sent, h.taken, h.bytes, h.inside, h.others, h.loop,
      h.delivered.dispatched, h.delivered.replies⟩

end State

/-- **One reader at a time delivers everything.** In every state that a run under the condition
reaches, a first part of the frames that were sent is delivered, the loop runs, and nothing is left
over when no bytes are left. -/
theorem delivered_of_oneReader (impl : Impl) (decode : Bytes → Option Decoded)
    (as : List (Step decode)) (s : State decode)
    (hrun : (machine impl decode).run (machine impl decode).init as = some s)
    (hone : (machine impl decode).Along State.OneReader (machine impl decode).init as) :
    ∃ done rest, s.sent = done ++ rest ∧
      s.dispatched = (done.filter fun f => f.reply = none).map Frame.body ∧
      (∀ f ∈ done, ∀ l, f.reply = some l →
        s.listens[l]? = some (.returned (listenResult (decode f.body)))) ∧
      s.loop.isSome ∧ (s.buffer = [] → s.wire = [] → rest = []) := by
  have hinit : (machine impl decode).init.Shared [] [] 0 .loop := by
    refine ⟨rfl, rfl, rfl, fun hne => absurd rfl hne, fun other _ phase hphase => ?_, rfl, rfl,
      fun f hf => absurd hf List.not_mem_nil⟩
    cases other with
    | loop => exact (Option.some.inj hphase).symm
    | listen l => cases hphase
  obtain ⟨done, rest, k, who, h⟩ := (machine impl decode).along_invariant
    (I := fun s => ∃ done rest k who, s.Shared done rest k who)
    (fun s a t ⟨done, rest, k, who, hs⟩ ha hstep => hs.step ha hstep) ⟨[], [], 0, .loop, hinit⟩
    hone hrun
  refine ⟨done, rest, h.sent, h.delivered.dispatched, h.delivered.replies, h.loop, ?_⟩
  intro hbuffer hwire
  have hbytes := h.bytes
  rw [hbuffer, hwire] at hbytes
  have hle : (stream rest).length ≤ k := List.drop_eq_nil_iff.mp hbytes.symm
  cases rest with
  | nil => rfl
  | cons f tail =>
    -- a frame has at least its length, and no reader has a whole one in hand
    have hlen := f.length_bytes
    rw [stream_cons, List.length_append] at hle
    by_cases hk : k = 0
    · omega
    · obtain ⟨g, tail', heq, hlt, -⟩ := h.inside hk
      obtain ⟨rfl, -⟩ := List.cons.inj heq
      omega

/-! ## Runs -/

/-- The reply to a listen call. -/
def replyBody : Bytes := serdeJson.toVec (DaemonMsg.listening "agt_B".toList).fields

/-- A stream is announced. -/
def incomingBody : Bytes :=
  serdeJson.toVec (DaemonMsg.incoming 7 "agt_A".toList .control).fields

/-- What a JSON library reads in the two. -/
def sampleDecode (body : Bytes) : Option Decoded :=
  if body = replyBody then some ⟨"listening".toList, []⟩
  else if body = incomingBody then some ⟨"incoming".toList, []⟩
  else none

/-- The reply to the first listen call, as a frame. -/
def replyFrame : Frame sampleDecode := ⟨replyBody, some 0, by decide +kernel, by decide +kernel⟩

/-- The announcement, as a frame. -/
def incomingFrame : Frame sampleDecode :=
  ⟨incomingBody, none, by decide +kernel, by decide +kernel⟩

/-- A listen call has written its request, and the reply and an announcement have arrived. -/
def repliedSteps : List (Step sampleDecode) :=
  [.listen, .wrote 0 true, .send replyFrame, .send incomingFrame,
    .arrive (replyFrame.bytes.length + incomingFrame.bytes.length)]

/-- A frame is read by one reader, the body after the length. -/
def readBy (who : Who) (f : Frame sampleDecode) : List (Step sampleDecode) :=
  [.take who 4, .take who f.body.length]

/-- The call reads its reply, and the loop the announcement. -/
theorem delivered_repliedSteps :
    ∃ s, (machine .go sampleDecode).run (machine .go sampleDecode).init
        (repliedSteps ++ readBy (.listen 0) replyFrame ++ readBy .loop incomingFrame) = some s ∧
      s.listens = [.returned .listening] ∧
      ∃ done rest, s.sent = done ++ rest ∧
        s.dispatched = (done.filter fun f => f.reply = none).map Frame.body ∧
        (s.buffer = [] → s.wire = [] → rest = []) := by
  obtain ⟨s, hs, hlistens⟩ := (machine .go sampleDecode).exists_run
    (repliedSteps ++ readBy (.listen 0) replyFrame ++ readBy .loop incomingFrame)
    (fun s => s.listens = [.returned .listening]) (by decide +kernel)
  obtain ⟨done, rest, hsent, hdispatched, -, -, hrest⟩ :=
    delivered_of_oneReader .go sampleDecode _ s hs (by decide +kernel)
  exact ⟨s, hs, hlistens, done, rest, hsent, hdispatched, hrest⟩

/-- **The readers get in each other's way.** In Go, the loop reads the reply and the call the
announcement: the call returns an error and the announcement is not dispatched. Or the loop reads
the length of the reply, and the call takes the text that follows for a length. In Python, the call
has to wait while the loop is waiting, and fails before the reply is there. -/
theorem oneReader_fails :
    (∃ s, (machine .go sampleDecode).run (machine .go sampleDecode).init
        (repliedSteps ++ readBy .loop replyFrame ++ readBy (.listen 0) incomingFrame) = some s ∧
      s.listens = [.returned (.unexpected "incoming".toList)] ∧ s.dispatched = [replyBody]) ∧
    (∃ s, (machine .go sampleDecode).run (machine .go sampleDecode).init
        (repliedSteps ++ [.take .loop 4, .take (.listen 0) 4]) = some s ∧
      s.listens = [.returned (.failed (.tooLarge 2065854320))]) ∧
    ∃ s, (machine .python sampleDecode).run (machine .python sampleDecode).init
        [.wait .loop, .listen, .wrote 0 true, .wait (.listen 0)] = some s ∧
      s.listens = [.returned (.failed .busy)] :=
  ⟨(machine .go sampleDecode).exists_run _ (fun s =>
      s.listens = [.returned (.unexpected "incoming".toList)] ∧ s.dispatched = [replyBody])
      (by decide +kernel),
    (machine .go sampleDecode).exists_run _ (fun s =>
      s.listens = [.returned (.failed (.tooLarge 2065854320))]) (by decide +kernel),
    (machine .python sampleDecode).exists_run _ (fun s =>
      s.listens = [.returned (.failed .busy)]) (by decide +kernel)⟩

end Roboat.Client
