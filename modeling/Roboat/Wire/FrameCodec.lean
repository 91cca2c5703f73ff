import Roboat.Wire.Frame

/-! # The Rust and the Go frame codecs agree

The platform side writes and reads the same frames with `writeFrame`/`readFrame` of
`go/relay/bootstrap.go`. The Go reader does not look at the type byte, so it accepts more; on
everything the Rust side writes, and on everything the Rust reader accepts, the two readers find the
same frame and stop at the same byte. Over whole streams this gives `frame_codec_agreement`: however
writers and readers of the two implementations are mixed, and wherever the bytes are cut, the frames
that lie wholly before the cut come out, and then an end-of-input error. -/

namespace Roboat

namespace Go

/-- The errors `readFrame` returns. -/
inductive Error where
  /-- `io.EOF`: nothing was read. -/
  | eof
  /-- `io.ErrUnexpectedEOF`: the input ended inside a field. -/
  | unexpectedEOF
  /-- `errors.New`. -/
  | errorString (text : String)
  deriving DecidableEq, Repr

/-- `writeFrame`: `writeByte`, then `binary.Write` of the length, then the payload. -/
def writeFrame (frameType : UInt8) (data : Bytes) : Bytes :=
  [frameType] ++ toBeBytes (UInt32.ofNat data.length) ++ data

/-- `io.ReadFull` into a buffer of `n` bytes. -/
def readFull (n : Nat) (bs : Bytes) : Except Error (Bytes × Bytes) :=
  if n ≤ bs.length then .ok (bs.take n, bs.drop n)
  else if bs.isEmpty then .error .eof
  else .error .unexpectedEOF

/-- `readByte`. -/
def readByte (bs : Bytes) : Except Error (UInt8 × Bytes) :=
  match readFull 1 bs with
  | .ok (b, rest) => .ok (b.headD 0, rest)
  | .error e => .error e

/-- `binary.Read` of a big-endian `uint32`. -/
def readUint32 (bs : Bytes) : Except Error (UInt32 × Bytes) :=
  match readFull 4 bs with
  | .ok ([a, b, c, d], rest) => .ok (fromBeBytes a b c d, rest)
  | .ok (_, _) => .error .unexpectedEOF
  | .error e => .error e

/-- The tail of `readFrame`, once the type and the length are known. -/
def readPayload (frameType : UInt8) (length : UInt32) (bs : Bytes) :
    Except Error ((UInt8 × Bytes) × Bytes) :=
  if frameMax < length.toNat then
    .error (.errorString "frame too large")
  else
    (readFull length.toNat bs).map fun p => ((frameType, p.1), p.2)

/-- **`readFrame`** of the Go side. -/
def readFrame (bs : Bytes) : Except Error ((UInt8 × Bytes) × Bytes) :=
  match readByte bs with
  | .error e => .error e
  | .ok (frameType, bs) =>
    match readUint32 bs with
    | .error e => .error e
    | .ok (length, bs) => readPayload frameType length bs

/-- Both writers put the same bytes on the wire. -/
theorem writeFrame_toByte (t : FrameType) (d : Bytes) :
    writeFrame t.toByte d = Roboat.writeFrame t d := by
  simp [writeFrame, Roboat.writeFrame]

/-- The error of a `readFull` that finds too little is one of the two end-of-file errors. -/
theorem readFull_of_lt {n : Nat} {bs : Bytes} (h : bs.length < n) :
    readFull n bs = .error .eof ∨ readFull n bs = .error .unexpectedEOF := by
  rw [readFull, if_neg (Nat.not_le.mpr h)]
  cases bs with
  | nil => exact Or.inl rfl
  | cons b bs => exact Or.inr rfl

/-- `readUint32` takes an encoded word off the front. -/
theorem readUint32_toBeBytes (n : UInt32) (bs : Bytes) :
    readUint32 (toBeBytes n ++ bs) = .ok (n, bs) := by
  have h := fromBeBytes_toBeBytes n
  have hfull : readFull 4 (toBeBytes n ++ bs) = .ok (toBeBytes n, bs) := by
    rw [readFull, if_pos (by simp), List.take_left' (length_toBeBytes n),
      List.drop_left' (length_toBeBytes n)]
  rw [readUint32, hfull]
  exact congrArg (fun m => Except.ok (m, bs)) h

/-- `readFrame` on a whole header. -/
theorem readFrame_header (b : UInt8) (n : UInt32) (hn : n.toNat ≤ frameMax) (bs : Bytes) :
    readFrame (b :: (toBeBytes n ++ bs)) = (readFull n.toNat bs).map fun p => ((b, p.1), p.2) := by
  have hbyte : readByte (b :: (toBeBytes n ++ bs)) = .ok (b, toBeBytes n ++ bs) := by
    simp [readByte, readFull]
  simp only [readFrame, hbyte, readUint32_toBeBytes]
  rw [readPayload, if_neg (Nat.not_lt.mpr hn)]

/-- `io.ReadFull` on an initial piece of `d ++ rest` that reaches the end of `d`. -/
theorem readFull_take_append (d rest : Bytes) {n : Nat} (h : d.length ≤ n) :
    readFull d.length ((d ++ rest).take n) = .ok (d, rest.take (n - d.length)) := by
  have hlen : d.length ≤ ((d ++ rest).take n).length := by
    simp only [List.length_take, List.length_append]
    omega
  rw [readFull, if_pos hlen, List.take_take, min_eq_left h, List.take_left' rfl, List.drop_take,
    List.drop_left' rfl]

/-- The Go reader finds a written frame whenever the cut is not before the frame's end. -/
theorem readFrame_take_writeFrame_of_le (t : FrameType) (d rest : Bytes) (hd : d.length ≤ frameMax)
    {n : Nat} (h : 5 + d.length ≤ n) :
    readFrame ((Roboat.writeFrame t d ++ rest).take n)
      = .ok ((t.toByte, d), rest.take (n - (5 + d.length))) := by
  have hlen := toNat_length_field hd
  obtain ⟨m, rfl⟩ : ∃ m, n = m + 5 := ⟨n - 5, by omega⟩
  have hcut : (Roboat.writeFrame t d ++ rest).take (m + 5)
      = t.toByte :: (toBeBytes (UInt32.ofNat d.length) ++ (d ++ rest).take m) := by
    simp [Roboat.writeFrame, toBeBytes]
  rw [hcut, readFrame_header _ _ (by rw [hlen]; exact hd), hlen,
    readFull_take_append d rest (by omega), show m + 5 - (5 + d.length) = m - d.length by omega]
  rfl

/-- The Go reader reports the end of the input when the cut is before the frame's end. -/
theorem readFrame_take_writeFrame_of_lt (t : FrameType) (d rest : Bytes) (hd : d.length ≤ frameMax)
    {n : Nat} (h : n < 5 + d.length) :
    readFrame ((Roboat.writeFrame t d ++ rest).take n) = .error .eof ∨
      readFrame ((Roboat.writeFrame t d ++ rest).take n) = .error .unexpectedEOF := by
  have hlen := toNat_length_field hd
  match n with
  | 0 | 1 | 2 | 3 | 4 =>
    simp [Roboat.writeFrame, toBeBytes, readFrame, readByte, readUint32, readFull]
  | n + 5 =>
    have hcut : (Roboat.writeFrame t d ++ rest).take (n + 5)
        = t.toByte :: (toBeBytes (UInt32.ofNat d.length) ++ (d ++ rest).take n) := by
      simp [Roboat.writeFrame, toBeBytes]
    have hshort : ((d ++ rest).take n).length < d.length := by
      simp only [List.length_take]
      omega
    rw [hcut, readFrame_header _ _ (by rw [hlen]; exact hd), hlen]
    rcases readFull_of_lt hshort with heof | heof
    · exact Or.inl (by rw [heof]; rfl)
    · exact Or.inr (by rw [heof]; rfl)

/-- What an accepting `io.ReadFull` did. -/
theorem readFull_eq_ok {n : Nat} {bs d rest : Bytes} (h : readFull n bs = .ok (d, rest)) :
    bs = d ++ rest ∧ d.length = n := by
  unfold readFull at h
  by_cases hn : n ≤ bs.length
  · rw [if_pos hn] at h
    cases h
    exact ⟨(List.take_append_drop n bs).symm, List.length_take_of_le hn⟩
  · rw [if_neg hn] at h
    split at h <;> cases h

/-- What an accepting `readByte` did. -/
theorem readByte_eq_ok {bs rest : Bytes} {b : UInt8} (h : readByte bs = .ok (b, rest)) :
    bs = b :: rest := by
  unfold readByte at h
  cases hread : readFull 1 bs with
  | error e => rw [hread] at h; cases h
  | ok p =>
    rw [hread] at h
    cases h
    obtain ⟨hbs, hlen⟩ := readFull_eq_ok hread
    obtain ⟨c, hc⟩ := List.length_eq_one_iff.mp hlen
    rw [hbs, hc]
    rfl

/-- What an accepting `binary.Read` did. -/
theorem readUint32_eq_ok {bs rest : Bytes} {n : UInt32} (h : readUint32 bs = .ok (n, rest)) :
    bs = toBeBytes n ++ rest := by
  unfold readUint32 at h
  split at h
  · rename_i a b c d tail hread
    cases h
    rw [(readFull_eq_ok hread).1, toBeBytes_fromBeBytes]
  · cases h
  · cases h

/-- **The Go reader accepts only what the Go writer writes.** -/
theorem readFrame_eq_ok {bs rest d : Bytes} {b : UInt8} (h : readFrame bs = .ok ((b, d), rest)) :
    bs = writeFrame b d ++ rest := by
  unfold readFrame at h
  cases hbyte : readByte bs with
  | error e => rw [hbyte] at h; cases h
  | ok p =>
    rw [hbyte] at h
    simp only at h
    cases hlength : readUint32 p.2 with
    | error e => rw [hlength] at h; cases h
    | ok q =>
      rw [hlength] at h
      simp only [readPayload] at h
      by_cases hbig : frameMax < q.1.toNat
      · rw [if_pos hbig] at h
        cases h
      · rw [if_neg hbig] at h
        cases hread : readFull q.1.toNat q.2 with
        | error e => rw [hread] at h; cases h
        | ok r =>
          rw [hread] at h
          cases h
          obtain ⟨htail, hlen⟩ := readFull_eq_ok hread
          rw [readByte_eq_ok hbyte, readUint32_eq_ok hlength, htail, writeFrame, hlen,
            UInt32.ofNat_toNat]
          simp

/-- A frame written by the Go side is its five header bytes and its payload. -/
theorem length_writeFrame (b : UInt8) (d : Bytes) : (writeFrame b d).length = 5 + d.length := by
  simp [writeFrame]
  omega

end Go

/-! ## Streams of frames written and read by either implementation -/

/-- The implementation that writes or reads a frame. -/
inductive Impl where
  | rust
  | go
  deriving DecidableEq, Repr

/-- A frame as it is put on the wire: its type byte and its payload. -/
abbrev WireFrame := UInt8 × Bytes

/-- The error of either reader. -/
inductive ReadError where
  | rust (e : ProtocolError)
  | go (e : Go.Error)
  deriving DecidableEq, Repr

/-- The errors that report that the input has ended. -/
def ReadError.isEndOfInput : ReadError → Bool
  | .rust .connectionClosed => true
  | .go .eof => true
  | .go .unexpectedEOF => true
  | _ => false

/-- One frame written by the given implementation. -/
def writeFrameBy : Impl → FrameType → Bytes → Bytes
  | .rust, t, d => writeFrame t d
  | .go, t, d => Go.writeFrame t.toByte d

/-- One frame read by the given implementation. -/
def readFrameBy : Impl → Bytes → Except ReadError (WireFrame × Bytes)
  | .rust, bs =>
    match readFrame bs with
    | .ok ((t, d), rest) => .ok ((t.toByte, d), rest)
    | .error e => .error (.rust e)
  | .go, bs =>
    match Go.readFrame bs with
    | .ok (f, rest) => .ok (f, rest)
    | .error e => .error (.go e)

/-- A frame to be written: who writes it, its type and its payload. -/
structure Write where
  writer : Impl
  frameType : FrameType
  data : Bytes
  deriving DecidableEq, Repr

namespace Write

/-- The bytes put on the wire. -/
def bytes (w : Write) : Bytes := writeFrameBy w.writer w.frameType w.data

/-- The frame a reader should see. -/
def frame (w : Write) : WireFrame := (w.frameType.toByte, w.data)

/-- Who writes a frame makes no difference to its bytes. -/
theorem bytes_eq (w : Write) : w.bytes = writeFrame w.frameType w.data := by
  obtain ⟨writer, t, d⟩ := w
  cases writer with
  | rust => rfl
  | go => exact Go.writeFrame_toByte t d

end Write

/-- The concatenated bytes of a list of writes. -/
def wireBytes (ws : List Write) : Bytes := ws.flatMap Write.bytes

/-- The frames of `ws` that lie wholly within the first `n` bytes. -/
def framesBefore : Nat → List Write → List WireFrame
  | _, [] => []
  | n, w :: ws =>
    if 5 + w.data.length ≤ n then w.frame :: framesBefore (n - (5 + w.data.length)) ws else []

/-- Reading a frame consumes bytes, so reading until the first error ends. -/
theorem readFrameBy_length {i : Impl} {bs rest : Bytes} {f : WireFrame}
    (h : readFrameBy i bs = .ok (f, rest)) : rest.length < bs.length := by
  cases i with
  | rust =>
    simp only [readFrameBy] at h
    cases hread : readFrame bs with
    | error e => rw [hread] at h; cases h
    | ok p =>
      rw [hread] at h
      cases h
      rw [(readFrame_eq_ok hread).1, List.length_append, length_writeFrame]
      omega
  | go =>
    simp only [readFrameBy] at h
    cases hread : Go.readFrame bs with
    | error e => rw [hread] at h; cases h
    | ok p =>
      rw [hread] at h
      cases h
      rw [Go.readFrame_eq_ok hread, List.length_append, Go.length_writeFrame]
      omega

/-- **Repeated reading**: frames are read until the first error; `sched k` says which implementation
makes the `k`-th read. Returns the frames and the error. -/
def readUntilError (sched : ℕ → Impl) (bs : Bytes) : List WireFrame × ReadError :=
  match h : readFrameBy (sched 0) bs with
  | .error e => ([], e)
  | .ok (f, rest) =>
    let r := readUntilError (fun k => sched (k + 1)) rest
    (f :: r.1, r.2)
  termination_by bs.length
  decreasing_by exact readFrameBy_length h

/-- Repeated reading stops at an error of the first read. -/
theorem readUntilError_of_error {sched : ℕ → Impl} {bs : Bytes} {e : ReadError}
    (h : readFrameBy (sched 0) bs = .error e) : readUntilError sched bs = ([], e) := by
  rw [readUntilError]
  split
  · rename_i e' h'
    rw [h] at h'
    cases h'
    rfl
  · rename_i f rest h'
    rw [h] at h'
    cases h'

/-- Repeated reading goes on after a frame. -/
theorem readUntilError_of_ok {sched : ℕ → Impl} {bs rest : Bytes} {f : WireFrame}
    (h : readFrameBy (sched 0) bs = .ok (f, rest)) :
    readUntilError sched bs
      = (f :: (readUntilError (fun k => sched (k + 1)) rest).1,
          (readUntilError (fun k => sched (k + 1)) rest).2) := by
  rw [readUntilError]
  split
  · rename_i e h'
    rw [h] at h'
    cases h'
  · rename_i f' rest' h'
    rw [h] at h'
    cases h'
    rfl

/-- On no bytes at all either reader reports the end of the input. -/
theorem readFrameBy_nil (i : Impl) : ∃ e, readFrameBy i [] = .error e ∧ e.isEndOfInput = true := by
  cases i with
  | rust | go => exact ⟨_, rfl, rfl⟩

/-- Either reader takes a written frame off a cut that is not before the frame's end. -/
theorem readFrameBy_take_of_le (i : Impl) (w : Write) (rest : Bytes)
    (hw : w.data.length ≤ frameMax) {n : Nat} (h : 5 + w.data.length ≤ n) :
    readFrameBy i ((w.bytes ++ rest).take n)
      = .ok (w.frame, rest.take (n - (5 + w.data.length))) := by
  rw [w.bytes_eq]
  cases i with
  | rust => simp only [readFrameBy, readFrame_take_writeFrame _ _ _ hw, if_pos h, Write.frame]
  | go => simp only [readFrameBy, Go.readFrame_take_writeFrame_of_le _ _ _ hw h, Write.frame]

/-- Either reader reports the end of the input on a cut before the frame's end. -/
theorem readFrameBy_take_of_lt (i : Impl) (w : Write) (rest : Bytes)
    (hw : w.data.length ≤ frameMax) {n : Nat} (h : n < 5 + w.data.length) :
    ∃ e, readFrameBy i ((w.bytes ++ rest).take n) = .error e ∧ e.isEndOfInput = true := by
  rw [w.bytes_eq]
  cases i with
  | rust =>
    refine ⟨.rust .connectionClosed, ?_, rfl⟩
    simp only [readFrameBy, readFrame_take_writeFrame _ _ _ hw, if_neg (Nat.not_le.mpr h)]
  | go =>
    rcases Go.readFrame_take_writeFrame_of_lt w.frameType w.data rest hw h with heof | heof
    · exact ⟨.go .eof, by simp only [readFrameBy, heof], rfl⟩
    · exact ⟨.go .unexpectedEOF, by simp only [readFrameBy, heof], rfl⟩

/-- **Reading a cut stream.** Whatever mix of readers is used, the first `n` bytes of a list of
written frames are read as the frames that lie wholly before the cut, and then the end of the input
is reported. The induction is on the written frames, the cut moving with them. -/
theorem readUntilError_take (ws : List Write) (hws : ∀ w ∈ ws, w.data.length ≤ frameMax)
    (sched : ℕ → Impl) (n : Nat) :
    ∃ e, readUntilError sched ((wireBytes ws).take n) = (framesBefore n ws, e) ∧
      e.isEndOfInput = true := by
  induction ws generalizing sched n with
  | nil =>
    obtain ⟨e, he, hend⟩ := readFrameBy_nil (sched 0)
    refine ⟨e, ?_, hend⟩
    rw [framesBefore, wireBytes, List.flatMap_nil, List.take_nil]
    exact readUntilError_of_error he
  | cons w ws ih =>
    have hw := hws w (List.mem_cons_self ..)
    have hbytes : wireBytes (w :: ws) = w.bytes ++ wireBytes ws := List.flatMap_cons
    rw [hbytes]
    by_cases h : 5 + w.data.length ≤ n
    · obtain ⟨e, he, hend⟩ := ih (fun v hv => hws v (List.mem_cons_of_mem w hv))
        (fun k => sched (k + 1)) (n - (5 + w.data.length))
      refine ⟨e, ?_, hend⟩
      rw [readUntilError_of_ok (readFrameBy_take_of_le (sched 0) w _ hw h), he, framesBefore,
        if_pos h]
    · obtain ⟨e, he, hend⟩ := readFrameBy_take_of_lt (sched 0) w (wireBytes ws) hw
        (Nat.not_le.mp h)
      refine ⟨e, ?_, hend⟩
      rw [readUntilError_of_error he, framesBefore, if_neg h]

/-- All frames lie before a cut at the end. -/
theorem framesBefore_length (ws : List Write) :
    framesBefore (wireBytes ws).length ws = ws.map Write.frame := by
  induction ws with
  | nil => rfl
  | cons w ws ih =>
    have hlen : (wireBytes (w :: ws)).length = 5 + w.data.length + (wireBytes ws).length := by
      rw [wireBytes, List.flatMap_cons, List.length_append, w.bytes_eq, length_writeFrame]
      rfl
    rw [framesBefore, hlen, if_pos (Nat.le_add_right ..), Nat.add_sub_cancel_left, ih,
      List.map_cons]

/-- **The two codecs agree.** For every list of frames of known type and at most 64 MiB of payload,
written by any mix of the two writers, and for every mix of the two readers: the whole stream is
read as exactly these frames; every initial piece of it is read as the frames that lie wholly
before the cut; in both cases the next read reports the end of the input. Conversely, whatever the
Rust reader accepts off the front of an arbitrary byte string is what `write_frame` writes for the
frame it returns, and the Go reader returns the same frame and the same rest. -/
theorem frame_codec_agreement :
    (∀ ws : List Write, (∀ w ∈ ws, w.data.length ≤ frameMax) → ∀ sched : ℕ → Impl,
      (∃ e, readUntilError sched (wireBytes ws) = (ws.map Write.frame, e) ∧
        e.isEndOfInput = true) ∧
      ∀ n, ∃ e, readUntilError sched ((wireBytes ws).take n) = (framesBefore n ws, e) ∧
        e.isEndOfInput = true) ∧
    ∀ (bs rest d : Bytes) (t : FrameType), readFrame bs = .ok ((t, d), rest) →
      bs = writeFrame t d ++ rest ∧ Go.readFrame bs = .ok ((t.toByte, d), rest) := by
  constructor
  · intro ws hws sched
    refine ⟨?_, fun n => readUntilError_take ws hws sched n⟩
    have h := readUntilError_take ws hws sched (wireBytes ws).length
    rwa [List.take_length, framesBefore_length] at h
  · intro bs rest d t h
    obtain ⟨hbs, hd⟩ := readFrame_eq_ok h
    refine ⟨hbs, ?_⟩
    have hgo := Go.readFrame_take_writeFrame_of_le t d rest hd
      (n := (writeFrame t d ++ rest).length)
      (by rw [List.length_append, Roboat.length_writeFrame]; omega)
    rwa [List.take_length, List.length_append, Roboat.length_writeFrame, Nat.add_sub_cancel_left,
      List.take_length, ← hbs] at hgo

/-- The agreement at two small frames, one from each writer, cut inside the second one, read by the
Go reader and then by the Rust reader; and at the acceptance of the first of them. -/
theorem frame_codec_agreement_two_frames :
    (∃ e, readUntilError (fun k => if k = 0 then .go else .rust)
        ((wireBytes [⟨.rust, .relayData, [7, 8]⟩, ⟨.go, .commandRequest, [9]⟩]).take 10)
          = ([(0x32, [7, 8])], e) ∧ e.isEndOfInput = true) ∧
      Go.readFrame ([0x32, 0, 0, 0, 2, 7, 8] ++ [1]) = .ok ((0x32, [7, 8]), [1]) := by
  refine ⟨?_, ?_⟩
  · exact ((frame_codec_agreement.1 [⟨.rust, .relayData, [7, 8]⟩, ⟨.go, .commandRequest, [9]⟩]
      (by simp [frameMax]) (fun k => if k = 0 then .go else .rust)).2 10)
  · exact (frame_codec_agreement.2 [0x32, 0, 0, 0, 2, 7, 8, 1] [1] [7, 8] .relayData (by decide)).2

end Roboat
