import Mathlib.Tactic.SplitIfs
import Mathlib.Order.Lattice
import Roboat.Text.Hex
import Roboat.Wire.BigEndian

/-! # Tunnel frames: the Rust codec

`[frame_type: u8][length: u32 big-endian][payload]`, as `write_frame` lays it out and `read_frame`
takes it apart. Reading is a function of the bytes that will ever arrive: running out of them is the
`UnexpectedEof` that `ProtocolError` turns into `connectionClosed`. The one fact everything else
uses is `readFrame_take_writeFrame`: what `read_frame` makes of *any* initial piece of a written
frame followed by anything. -/

namespace Roboat

/-- `ProtocolError`, with the texts of its variants. -/
inductive ProtocolError where
  /-- An I/O error other than the end of the stream. -/
  | io (message : String)
  /-- The bytes do not form a frame. -/
  | invalidPacket (message : String)
  /-- The stream ended. -/
  | connectionClosed
  deriving DecidableEq, Repr

/-- The frame types of the v0.2/v0.3 protocol. -/
inductive FrameType where
  | tunnelPacket
  | commandRequest
  | commandResponse
  | ping
  | pong
  | webRtcBootstrap
  | webRtcTeardown
  | relayOpen
  | relayOpenAck
  | relayData
  | relayClose
  | streamOpen
  | streamData
  | streamClose
  | flowControl
  deriving DecidableEq, Repr

namespace FrameType

/-- The discriminant of a frame type (`frame_type as u8`). -/
def toByte : FrameType → UInt8
  | tunnelPacket => 0x01
  | commandRequest => 0x02
  | commandResponse => 0x03
  | ping => 0x10
  | pong => 0x11
  | webRtcBootstrap => 0x20
  | webRtcTeardown => 0x21
  | relayOpen => 0x30
  | relayOpenAck => 0x31
  | relayData => 0x32
  | relayClose => 0x33
  | streamOpen => 0x40
  | streamData => 0x41
  | streamClose => 0x42
  | flowControl => 0x43

/-- `FrameType::try_from`: the type with a given byte, or the error naming the byte. -/
def tryFrom (value : UInt8) : Except ProtocolError FrameType :=
  match value with
  | 0x01 => .ok tunnelPacket
  | 0x02 => .ok commandRequest
  | 0x03 => .ok commandResponse
  | 0x10 => .ok ping
  | 0x11 => .ok pong
  | 0x20 => .ok webRtcBootstrap
  | 0x21 => .ok webRtcTeardown
  | 0x30 => .ok relayOpen
  | 0x31 => .ok relayOpenAck
  | 0x32 => .ok relayData
  | 0x33 => .ok relayClose
  | 0x40 => .ok streamOpen
  | 0x41 => .ok streamData
  | 0x42 => .ok streamClose
  | 0x43 => .ok flowControl
  | _ => .error (.invalidPacket ("unknown frame type: 0x" ++ String.ofList (hexEncodeByte value)))

/-- Every type is recovered from its byte. -/
@[simp] theorem tryFrom_toByte (t : FrameType) : tryFrom t.toByte = .ok t := by
  cases t <;> rfl

/-- Only the byte of a type is recognised as that type. -/
theorem toByte_of_tryFrom {b : UInt8} {t : FrameType} (h : tryFrom b = .ok t) : t.toByte = b := by
  unfold tryFrom at h
  split at h
  all_goals
    cases h <;> rfl

end FrameType

/-- The largest payload a reader accepts: 64 MiB. -/
def frameMax : Nat := 64 * 1024 * 1024

/-- `write_frame`: the bytes it puts on the wire. The length is cast with `as u32`. -/
def writeFrame (frameType : FrameType) (data : Bytes) : Bytes :=
  frameType.toByte :: (toBeBytes (UInt32.ofNat data.length) ++ data)

/-- `read_u8`. -/
def readU8 : Bytes → Except ProtocolError (UInt8 × Bytes)
  | [] => .error .connectionClosed
  | b :: bs => .ok (b, bs)

/-- `read_u32`. -/
def readU32 : Bytes → Except ProtocolError (UInt32 × Bytes)
  | a :: b :: c :: d :: bs => .ok (fromBeBytes a b c d, bs)
  | _ => .error .connectionClosed

/-- `read_exact` into a buffer of `n` bytes. -/
def readExact (n : Nat) (bs : Bytes) : Except ProtocolError (Bytes × Bytes) :=
  if n ≤ bs.length then .ok (bs.take n, bs.drop n) else .error .connectionClosed

/-- The tail of `read_frame`, once the type and the length are known: the length is checked before
the payload is read. -/
def readPayload (frameType : FrameType) (length : UInt32) (bs : Bytes) :
    Except ProtocolError ((FrameType × Bytes) × Bytes) :=
  if frameMax < length.toNat then
    .error (.invalidPacket "frame too large")
  else
    (readExact length.toNat bs).map fun p => ((frameType, p.1), p.2)

/-- **`read_frame`**: the type byte is checked before the length is read. Returns the frame and the
bytes after it. -/
def readFrame (bs : Bytes) : Except ProtocolError ((FrameType × Bytes) × Bytes) :=
  match readU8 bs with
  | .error e => .error e
  | .ok (typeByte, bs) =>
    match FrameType.tryFrom typeByte with
    | .error e => .error e
    | .ok frameType =>
      match readU32 bs with
      | .error e => .error e
      | .ok (length, bs) => readPayload frameType length bs

/-! ## Written frames, cut anywhere -/

/-- A written frame is its five header bytes and its payload. -/
theorem length_writeFrame (t : FrameType) (d : Bytes) : (writeFrame t d).length = 5 + d.length := by
  simp [writeFrame]
  omega

/-- Within the size limit the length field holds the length. -/
theorem toNat_length_field {n : Nat} (h : n ≤ frameMax) : (UInt32.ofNat n).toNat = n := by
  rw [UInt32.toNat_ofNat']
  unfold frameMax at h
  omega

/-- `read_u32` takes an encoded word off the front. -/
@[simp] theorem readU32_toBeBytes (n : UInt32) (bs : Bytes) :
    readU32 (toBeBytes n ++ bs) = .ok (n, bs) := by
  have h := fromBeBytes_toBeBytes n
  unfold toBeBytes
  exact congrArg (fun m => Except.ok (m, bs)) h

/-- `read_frame` on a whole header: the payload is whatever `read_exact` makes of the rest. -/
theorem readFrame_header (t : FrameType) (n : UInt32) (hn : n.toNat ≤ frameMax) (bs : Bytes) :
    readFrame (t.toByte :: (toBeBytes n ++ bs))
      = (readExact n.toNat bs).map fun p => ((t, p.1), p.2) := by
  have hhead : readFrame (t.toByte :: (toBeBytes n ++ bs)) = readPayload t n bs := by
    simp only [readFrame, readU8, FrameType.tryFrom_toByte, readU32_toBeBytes]
  rw [hhead, readPayload, if_neg (Nat.not_lt.mpr hn)]

/-- `read_exact` on an initial piece of `d ++ rest`. -/
theorem readExact_take_append (d rest : Bytes) (n : Nat) :
    readExact d.length ((d ++ rest).take n)
      = if d.length ≤ n then .ok (d, rest.take (n - d.length)) else .error .connectionClosed := by
  unfold readExact
  by_cases h : d.length ≤ n
  · have hlen : d.length ≤ ((d ++ rest).take n).length := by
      simp only [List.length_take, List.length_append]
      omega
    rw [if_pos hlen, if_pos h, List.take_take, min_eq_left h, List.take_left' rfl]
    rw [List.drop_take, List.drop_left' rfl]
  · have hlen : ¬ d.length ≤ ((d ++ rest).take n).length := by simp; omega
    rw [if_neg hlen, if_neg h]

/-- **What `read_frame` makes of a cut frame.** On the first `n` bytes of a written frame followed
by anything: the frame and the bytes after it when the cut is not before the frame's end, and the
end of the stream otherwise. -/
theorem readFrame_take_writeFrame (t : FrameType) (d rest : Bytes) (hd : d.length ≤ frameMax)
    (n : Nat) :
    readFrame ((writeFrame t d ++ rest).take n)
      = if 5 + d.length ≤ n then .ok ((t, d), rest.take (n - (5 + d.length)))
        else .error .connectionClosed := by
  have hlen := toNat_length_field hd
  match n with
  | 0 | 1 | 2 | 3 | 4 =>
    rw [if_neg (by omega)]
    simp [writeFrame, toBeBytes, readFrame, readU8, readU32]
  | n + 5 =>
    have hcut : (writeFrame t d ++ rest).take (n + 5)
        = t.toByte :: (toBeBytes (UInt32.ofNat d.length) ++ (d ++ rest).take n) := by
      simp [writeFrame, toBeBytes]
    rw [hcut, readFrame_header t _ (by rw [hlen]; exact hd), hlen, readExact_take_append]
    by_cases h : d.length ≤ n
    · rw [if_pos h, if_pos (by omega), show n + 5 - (5 + d.length) = n - d.length by omega]
      rfl
    · rw [if_neg h, if_neg (by omega)]
      rfl

/-- `read_frame` takes a written frame off the front of any byte string. -/
theorem readFrame_writeFrame_append (t : FrameType) (d rest : Bytes) (hd : d.length ≤ frameMax) :
    readFrame (writeFrame t d ++ rest) = .ok ((t, d), rest) := by
  have h := readFrame_take_writeFrame t d rest hd (writeFrame t d ++ rest).length
  rw [List.take_length, List.length_append, length_writeFrame, if_pos (by omega),
    Nat.add_sub_cancel_left, List.take_length] at h
  exact h

/-! ## Accepted bytes are written frames -/

/-- What an accepting `read_exact` did. -/
theorem readExact_eq_ok {n : Nat} {bs d rest : Bytes} (h : readExact n bs = .ok (d, rest)) :
    bs = d ++ rest ∧ d.length = n := by
  unfold readExact at h
  by_cases hn : n ≤ bs.length
  · rw [if_pos hn] at h
    cases h
    exact ⟨(List.take_append_drop n bs).symm, List.length_take_of_le hn⟩
  · rw [if_neg hn] at h
    cases h

/-- What an accepting `read_u32` did. -/
theorem readU32_eq_ok {bs rest : Bytes} {n : UInt32} (h : readU32 bs = .ok (n, rest)) :
    bs = toBeBytes n ++ rest := by
  match bs with
  | [] | [_] | [_, _] | [_, _, _] => cases h
  | a :: b :: c :: d :: bs =>
    cases h
    rw [toBeBytes_fromBeBytes]
    rfl

/-- What an accepting payload read did. -/
theorem readPayload_eq_ok {t t' : FrameType} {n : UInt32} {bs d rest : Bytes}
    (h : readPayload t n bs = .ok ((t', d), rest)) :
    t' = t ∧ bs = d ++ rest ∧ d.length = n.toNat ∧ n.toNat ≤ frameMax := by
  unfold readPayload at h
  by_cases hbig : frameMax < n.toNat
  · rw [if_pos hbig] at h
    cases h
  · rw [if_neg hbig] at h
    cases hread : readExact n.toNat bs with
    | error e => rw [hread] at h; cases h
    | ok p =>
      rw [hread] at h
      cases h
      obtain ⟨hbs, hlen⟩ := readExact_eq_ok hread
      exact ⟨rfl, hbs, hlen, Nat.not_lt.mp hbig⟩

/-- **Acceptance determines the bytes.** Whenever `read_frame` accepts a frame off the front of an
arbitrary byte string, that front is what `write_frame` writes for the frame. -/
theorem readFrame_eq_ok {bs rest d : Bytes} {t : FrameType}
    (h : readFrame bs = .ok ((t, d), rest)) :
    bs = writeFrame t d ++ rest ∧ d.length ≤ frameMax := by
  match bs with
  | [] => cases h
  | b :: bs =>
    simp only [readFrame, readU8] at h
    cases htype : FrameType.tryFrom b with
    | error e => rw [htype] at h; cases h
    | ok t' =>
      rw [htype] at h
      cases hlength : readU32 bs with
      | error e => rw [hlength] at h; cases h
      | ok p =>
        rw [hlength] at h
        obtain ⟨rfl, htail, hlen, hmax⟩ := readPayload_eq_ok h
        refine ⟨?_, hlen ▸ hmax⟩
        rw [readU32_eq_ok hlength, htail, writeFrame, hlen, UInt32.ofNat_toNat,
          FrameType.toByte_of_tryFrom htype]
        simp

end Roboat
