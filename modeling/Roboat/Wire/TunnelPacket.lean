import Roboat.Text.Utf8
import Roboat.Wire.Frame

/-! # Tunnel packets

`TunnelPacket::write_to` and `read_from`, the v0.1 format of topic data:

`[topic_len: u16][topic][type_len: u16][type][timestamp_ns: u64][payload_len: u32][payload]`

The writer casts the three lengths to the widths of their fields and refuses nothing; the reader
refuses names of more than 4096 bytes and payloads of more than 64 MiB. A packet survives the way
through the two exactly when it is within the bounds of the reader (`agrees_iff_fits`): past them
the reader fails, or, where a length has lost its upper bits, takes the rest of a field for what
follows it. -/

namespace Roboat

/-- `TunnelPacket`. -/
structure TunnelPacket where
  topic : Str
  msgType : Str
  timestampNs : UInt64
  payload : Bytes
  deriving DecidableEq, Repr

/-! ## The code -/

/-- A writer: what has been written to it, and where and how it will fail. -/
structure Writer where
  written : Bytes := []
  /-- It takes so many bytes, and fails with this error on the next one. -/
  fails : Option (Nat × ProtocolError) := none
  /-- The error of `flush`. -/
  flushError : Option ProtocolError := none
  deriving DecidableEq, Repr

/-- `write_all`, and `write_u16`, `write_u32`, `write_u64` on the bytes of the word. -/
def Writer.writeAll (w : Writer) (data : Bytes) : Except ProtocolError Writer :=
  match w.fails with
  | none => .ok { w with written := w.written ++ data }
  | some (limit, e) =>
    if w.written.length + data.length ≤ limit then .ok { w with written := w.written ++ data }
    else .error e

/-- `flush`. -/
def Writer.flush (w : Writer) : Except ProtocolError Writer :=
  match w.flushError with
  | none => .ok w
  | some e => .error e

namespace TunnelPacket

/-- `TunnelPacket::write_to`. The lengths are cast with `as u16` and `as u32`. -/
def writeTo (p : TunnelPacket) (w : Writer) : Except ProtocolError Writer := do
  let topicBytes := Json.utf8 p.topic
  let typeBytes := Json.utf8 p.msgType
  let w ← w.writeAll (toBeBytes16 (UInt16.ofNat topicBytes.length))
  let w ← w.writeAll topicBytes
  let w ← w.writeAll (toBeBytes16 (UInt16.ofNat typeBytes.length))
  let w ← w.writeAll typeBytes
  let w ← w.writeAll (toBeBytes (halves p.timestampNs).1 ++ toBeBytes (halves p.timestampNs).2)
  let w ← w.writeAll (toBeBytes (UInt32.ofNat p.payload.length))
  let w ← w.writeAll p.payload
  w.flush

/-- The most bytes a topic or a type may have. -/
def nameMax : Nat := 4096

/-- `read_u16`. -/
def readU16 : Bytes → Except ProtocolError (UInt16 × Bytes)
  | a :: b :: bs => .ok (fromBeBytes16 a b, bs)
  | _ => .error .connectionClosed

/-- `read_u64`. -/
def readU64 (bs : Bytes) : Except ProtocolError (UInt64 × Bytes) := do
  let (high, bs) ← readU32 bs
  let (low, bs) ← readU32 bs
  return (ofHalves high low, bs)

/-- The topic or the type, with its length in front. -/
def readName (what : String) (bs : Bytes) : Except ProtocolError (Bytes × Bytes) := do
  let (length, bs) ← readU16 bs
  if nameMax < length.toNat then .error (.invalidPacket (what ++ " too long"))
  else readExact length.toNat bs

/-- The payload, with its length in front. -/
def readData (bs : Bytes) : Except ProtocolError (Bytes × Bytes) := do
  let (length, bs) ← readU32 bs
  if frameMax < length.toNat then .error (.invalidPacket "payload too large")
  else readExact length.toNat bs

/-- **`TunnelPacket::read_from`**: the packet, and the bytes after it. -/
def readFrom (bs : Bytes) : Except ProtocolError (TunnelPacket × Bytes) := do
  let (topic, bs) ← readName "topic" bs
  let (msgType, bs) ← readName "type" bs
  let (timestampNs, bs) ← readU64 bs
  let (payload, bs) ← readData bs
  return (⟨Utf8.fromUtf8Lossy topic, Utf8.fromUtf8Lossy msgType, timestampNs, payload⟩, bs)

/-! ## The bytes of a packet -/

/-- A name with its length in front. -/
def nameBytes (name : Bytes) : Bytes := toBeBytes16 (UInt16.ofNat name.length) ++ name

/-- A payload with its length in front. -/
def dataBytes (data : Bytes) : Bytes := toBeBytes (UInt32.ofNat data.length) ++ data

/-- A timestamp. -/
def timeBytes (t : UInt64) : Bytes := toBeBytes (halves t).1 ++ toBeBytes (halves t).2

/-- The bytes of a packet. -/
def bytes (p : TunnelPacket) : Bytes :=
  nameBytes (Json.utf8 p.topic) ++ (nameBytes (Json.utf8 p.msgType) ++
    (timeBytes p.timestampNs ++ dataBytes p.payload))

end TunnelPacket

/-- A write that succeeds appends its bytes. -/
theorem Writer.written_of_writeAll {w w' : Writer} {data : Bytes}
    (h : w.writeAll data = .ok w') : w'.written = w.written ++ data := by
  unfold Writer.writeAll at h
  cases hfails : w.fails with
  | none =>
    rw [hfails] at h
    cases h
    rfl
  | some limit =>
    rw [hfails] at h
    simp only at h
    split_ifs at h
    cases h
    rfl

theorem Writer.eq_of_flush {w w' : Writer} (h : w.flush = .ok w') : w' = w := by
  unfold Writer.flush at h
  cases hflush : w.flushError with
  | none =>
    rw [hflush] at h
    cases h
    rfl
  | some e =>
    rw [hflush] at h
    cases h

theorem ok_bind {ε α β : Type} (a : α) (f : α → Except ε β) : (Except.ok a >>= f) = f a := rfl

/-- What a sequence of two fallible steps did. -/
theorem bind_eq_ok {ε α β : Type} {x : Except ε α} {f : α → Except ε β} {b : β}
    (h : (x >>= f) = .ok b) : ∃ a, x = .ok a ∧ f a = .ok b := by
  cases x with
  | error e => cases h
  | ok a => exact ⟨a, rfl, h⟩

namespace TunnelPacket

/-- **What `write_to` has written when it succeeds.** -/
theorem written_of_writeTo {p : TunnelPacket} {w w' : Writer} (h : p.writeTo w = .ok w') :
    w'.written = w.written ++ p.bytes := by
  obtain ⟨w1, h1, h⟩ := bind_eq_ok h
  obtain ⟨w2, h2, h⟩ := bind_eq_ok h
  obtain ⟨w3, h3, h⟩ := bind_eq_ok h
  obtain ⟨w4, h4, h⟩ := bind_eq_ok h
  obtain ⟨w5, h5, h⟩ := bind_eq_ok h
  obtain ⟨w6, h6, h⟩ := bind_eq_ok h
  obtain ⟨w7, h7, h⟩ := bind_eq_ok h
  rw [Writer.eq_of_flush h, Writer.written_of_writeAll h7, Writer.written_of_writeAll h6,
    Writer.written_of_writeAll h5, Writer.written_of_writeAll h4, Writer.written_of_writeAll h3,
    Writer.written_of_writeAll h2, Writer.written_of_writeAll h1]
  simp only [bytes, nameBytes, timeBytes, dataBytes, List.append_assoc]

/-! ## One field -/

theorem readU16_toBeBytes16 (n : UInt16) (bs : Bytes) :
    readU16 (toBeBytes16 n ++ bs) = .ok (n, bs) :=
  congrArg (fun m => Except.ok (m, bs)) (fromBeBytes16_toBeBytes16 n)

theorem readU64_timeBytes (t : UInt64) (bs : Bytes) :
    readU64 (timeBytes t ++ bs) = .ok (t, bs) := by
  unfold readU64 timeBytes
  rw [List.append_assoc]
  simp only [readU32_toBeBytes, ok_bind]
  exact congrArg (fun n => Except.ok (n, bs)) (ofHalves_halves t)

theorem readExact_append (d rest : Bytes) : readExact d.length (d ++ rest) = .ok (d, rest) := by
  rw [readExact, if_pos (by simp), List.take_left' rfl, List.drop_left' rfl]

/-- The length of a name, as the reader sees it. -/
theorem toNat_nameLength (n : Nat) : (UInt16.ofNat n).toNat = n % 65536 := UInt16.toNat_ofNat'

/-- The length of a payload, as the reader sees it. -/
theorem toNat_dataLength (n : Nat) : (UInt32.ofNat n).toNat = n % 4294967296 := UInt32.toNat_ofNat'

theorem readName_nameBytes (what : String) (name rest : Bytes) :
    readName what (nameBytes name ++ rest)
      = if nameMax < name.length % 65536 then .error (.invalidPacket (what ++ " too long"))
        else readExact (name.length % 65536) (name ++ rest) := by
  unfold readName nameBytes
  rw [List.append_assoc, readU16_toBeBytes16]
  simp only [ok_bind, toNat_nameLength]

theorem readData_dataBytes (data rest : Bytes) :
    readData (dataBytes data ++ rest)
      = if frameMax < data.length % 4294967296 then .error (.invalidPacket "payload too large")
        else readExact (data.length % 4294967296) (data ++ rest) := by
  unfold readData dataBytes
  rw [List.append_assoc, readU32_toBeBytes]
  simp only [ok_bind, toNat_dataLength]

/-- A name within the bounds is read. -/
theorem readName_of_le (what : String) {name : Bytes} (h : name.length ≤ nameMax) (rest : Bytes) :
    readName what (nameBytes name ++ rest) = .ok (name, rest) := by
  have hmod : name.length % 65536 = name.length := by
    unfold nameMax at h
    omega
  rw [readName_nameBytes, hmod, if_neg (Nat.not_lt.mpr h), readExact_append]

/-- A payload within the bounds is read. -/
theorem readData_of_le {data : Bytes} (h : data.length ≤ frameMax) (rest : Bytes) :
    readData (dataBytes data ++ rest) = .ok (data, rest) := by
  have hmod : data.length % 4294967296 = data.length := by
    unfold frameMax at h
    omega
  rw [readData_dataBytes, hmod, if_neg (Nat.not_lt.mpr h), readExact_append]

/-- The length of a name that is read. -/
theorem length_of_readName {what : String} {name rest d bs : Bytes}
    (h : readName what (nameBytes name ++ rest) = .ok (d, bs)) :
    d.length = name.length % 65536 ∧ d.length ≤ nameMax := by
  rw [readName_nameBytes] at h
  split_ifs at h with hbig
  have hlen := (readExact_eq_ok h).2
  exact ⟨hlen, by omega⟩

/-- **A name that is read as it was written is within the bounds**: a length that has lost its upper
bits is that of a much shorter text. -/
theorem le_of_readName {what : String} {name : Str} {rest d bs : Bytes}
    (h : readName what (nameBytes (Json.utf8 name) ++ rest) = .ok (d, bs))
    (hname : Utf8.fromUtf8Lossy d = name) : (Json.utf8 name).length ≤ nameMax := by
  obtain ⟨hmod, hmax⟩ := length_of_readName h
  have hchars := Utf8.length_fromUtf8Lossy_le d
  rw [hname] at hchars
  have hbytes := Utf8.length_utf8_le name
  unfold nameMax at hmax ⊢
  omega

/-! ## A whole packet -/

/-- The bounds of the reader. -/
structure Fits (p : TunnelPacket) : Prop where
  topic : (Json.utf8 p.topic).length ≤ nameMax
  msgType : (Json.utf8 p.msgType).length ≤ nameMax
  payload : p.payload.length ≤ frameMax

/-- What `read_from` does with a packet whose names are within the bounds. -/
theorem readFrom_bytes {p : TunnelPacket} (htopic : (Json.utf8 p.topic).length ≤ nameMax)
    (htype : (Json.utf8 p.msgType).length ≤ nameMax) (rest : Bytes) :
    readFrom (p.bytes ++ rest)
      = (readData (dataBytes p.payload ++ rest)).map fun d => ({ p with payload := d.1 }, d.2) := by
  unfold readFrom bytes
  rw [List.append_assoc, readName_of_le _ htopic, ok_bind]
  dsimp only
  rw [List.append_assoc, readName_of_le _ htype, ok_bind]
  dsimp only
  rw [List.append_assoc, readU64_timeBytes, ok_bind]
  dsimp only
  rw [Utf8.fromUtf8Lossy_utf8, Utf8.fromUtf8Lossy_utf8]
  cases readData (dataBytes p.payload ++ rest) <;> rfl

/-- A packet within the bounds is read. -/
theorem readFrom_of_fits {p : TunnelPacket} (h : p.Fits) (rest : Bytes) :
    readFrom (p.bytes ++ rest) = .ok (p, rest) := by
  rw [readFrom_bytes h.topic h.msgType, readData_of_le h.payload]
  rfl

/-- A packet that is read as it was written is within the bounds. -/
theorem fits_of_readFrom {p : TunnelPacket} {rest : Bytes}
    (h : readFrom (p.bytes ++ rest) = .ok (p, rest)) : p.Fits := by
  have hread := h
  unfold readFrom bytes at h
  obtain ⟨⟨topic, bs⟩, h1, h⟩ := bind_eq_ok h
  obtain ⟨⟨msgType, bs⟩, h2, h⟩ := bind_eq_ok h
  obtain ⟨⟨t, bs⟩, -, h⟩ := bind_eq_ok h
  obtain ⟨⟨data, bs⟩, -, h⟩ := bind_eq_ok h
  simp only [pure, Except.pure, Except.ok.injEq, Prod.mk.injEq] at h
  obtain ⟨hp, -⟩ := h
  -- the topic first: what comes after it was read at the right place only if it fits
  have htopic : (Json.utf8 p.topic).length ≤ nameMax := by
    rw [List.append_assoc] at h1
    exact le_of_readName h1 (congrArg TunnelPacket.topic hp)
  have htype : (Json.utf8 p.msgType).length ≤ nameMax := by
    rw [List.append_assoc, readName_of_le _ htopic] at h1
    cases h1
    rw [List.append_assoc] at h2
    exact le_of_readName h2 (congrArg TunnelPacket.msgType hp)
  refine ⟨htopic, htype, ?_⟩
  rw [readFrom_bytes htopic htype] at hread
  cases hdata : readData (dataBytes p.payload ++ rest) with
  | error e =>
    rw [hdata] at hread
    cases hread
  | ok d =>
    rw [hdata] at hread
    simp only [Except.map, Except.ok.injEq, Prod.mk.injEq] at hread
    have hpayload : d.1 = p.payload := congrArg TunnelPacket.payload hread.1
    rw [readData_dataBytes] at hdata
    split_ifs at hdata with hbig
    obtain ⟨payload, left⟩ := d
    obtain rfl : payload = p.payload := hpayload
    have hlen := (readExact_eq_ok hdata).2
    omega

/-- **Encoder and decoder agree on a packet**: `write_to` fails, or what it has written, followed by
anything, is read as the packet, and what follows it is left. -/
def Agrees (p : TunnelPacket) (w : Writer) (rest : Bytes) : Prop :=
  match p.writeTo w with
  | .error _ => True
  | .ok w' => ∃ out, w'.written = w.written ++ out ∧ readFrom (out ++ rest) = .ok (p, rest)

/-- Without a failure of the writer, the packet is written. -/
theorem writeTo_sound (p : TunnelPacket) : ∃ w', p.writeTo {} = .ok w' := ⟨_, rfl⟩

/-- On a writer that does not fail, agreement is that the bytes of the packet are read. -/
theorem agrees_default {p : TunnelPacket} {rest : Bytes} :
    p.Agrees {} rest ↔ readFrom (p.bytes ++ rest) = .ok (p, rest) := by
  obtain ⟨w', hw⟩ := p.writeTo_sound
  have hwritten := written_of_writeTo hw
  unfold Agrees
  rw [hw]
  constructor
  · rintro ⟨out, hout, hread⟩
    rw [hwritten] at hout
    rwa [List.append_cancel_left hout]
  · exact fun hread => ⟨_, hwritten, hread⟩

/-- **Encoder and decoder agree on exactly the packets within the bounds of the decoder**, whatever
the writer does and whatever follows. -/
theorem agrees_iff_fits (p : TunnelPacket) : (∀ w rest, p.Agrees w rest) ↔ p.Fits := by
  constructor
  · intro h
    exact fits_of_readFrom (agrees_default.mp (h {} []))
  · intro hfits w rest
    unfold Agrees
    cases hw : p.writeTo w with
    | error e => trivial
    | ok w' => exact ⟨p.bytes, written_of_writeTo hw, readFrom_of_fits hfits rest⟩

/-- A packet whose topic is out of bounds does not come through. -/
theorem not_agrees_of_long {p : TunnelPacket} (h : nameMax < (Json.utf8 p.topic).length)
    (rest : Bytes) : ¬ p.Agrees {} rest := fun hagrees =>
  Nat.not_le.mpr h (fits_of_readFrom (agrees_default.mp hagrees)).topic

theorem length_utf8_replicate (n : Nat) : (Json.utf8 (List.replicate n 'a')).length = n := by
  induction n with
  | zero => rfl
  | succ n ih =>
    rw [List.replicate_succ, Json.utf8_cons, List.length_append, ih, Nat.add_comm]
    rfl

/-- A topic of 4097 bytes is written, and refused by the reader; one of 65536 bytes is written with
the length 0. -/
theorem agrees_fails :
    ¬ Agrees ⟨List.replicate 4097 'a', [], 0, []⟩ {} [] ∧
      ¬ Agrees ⟨List.replicate 65536 'a', [], 0, []⟩ {} [] := by
  constructor
  · apply not_agrees_of_long
    rw [length_utf8_replicate]
    decide
  · apply not_agrees_of_long
    rw [length_utf8_replicate]
    decide

end TunnelPacket

end Roboat
