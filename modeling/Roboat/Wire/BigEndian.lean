import Mathlib.Data.List.Basic

/-! # Big-endian words

Byte strings are lists of bytes; a 32-bit word is laid out most significant byte first. The two
conversions are inverse to each other, so a decoded word determines the bytes it came from. A 64-bit
word is two 32-bit words. -/

namespace Roboat

/-- A byte string. -/
abbrev Bytes := List UInt8

/-- The four bytes of a word, most significant first. -/
def toBeBytes (n : UInt32) : Bytes :=
  [UInt8.ofNat (n.toNat / 16777216), UInt8.ofNat (n.toNat / 65536),
    UInt8.ofNat (n.toNat / 256), UInt8.ofNat n.toNat]

/-- The word with the four given bytes, most significant first. -/
def fromBeBytes (a b c d : UInt8) : UInt32 :=
  UInt32.ofNat (a.toNat * 16777216 + b.toNat * 65536 + c.toNat * 256 + d.toNat)

@[simp] theorem length_toBeBytes (n : UInt32) : (toBeBytes n).length = 4 := rfl

/-- The value of a decoded word. -/
theorem toNat_fromBeBytes (a b c d : UInt8) :
    (fromBeBytes a b c d).toNat
      = a.toNat * 16777216 + b.toNat * 65536 + c.toNat * 256 + d.toNat := by
  have ha := a.toNat_lt
  have hb := b.toNat_lt
  have hc := c.toNat_lt
  have hd := d.toNat_lt
  rw [fromBeBytes, UInt32.toNat_ofNat']
  omega

/-- Decoding the bytes of a word gives the word back. -/
theorem fromBeBytes_toBeBytes (n : UInt32) :
    fromBeBytes (UInt8.ofNat (n.toNat / 16777216)) (UInt8.ofNat (n.toNat / 65536))
      (UInt8.ofNat (n.toNat / 256)) (UInt8.ofNat n.toNat) = n := by
  have hn := n.toNat_lt
  rw [← UInt32.toNat_inj, toNat_fromBeBytes]
  simp only [UInt8.toNat_ofNat']
  omega

/-- Encoding a decoded word gives its bytes back. -/
theorem toBeBytes_fromBeBytes (a b c d : UInt8) :
    toBeBytes (fromBeBytes a b c d) = [a, b, c, d] := by
  have ha := a.toNat_lt
  have hb := b.toNat_lt
  have hc := c.toNat_lt
  have hd := d.toNat_lt
  simp only [toBeBytes, toNat_fromBeBytes, List.cons.injEq, ← UInt8.toNat_inj, UInt8.toNat_ofNat',
    and_true]
  omega

/-! ## Other widths -/

/-- The two bytes of a 16-bit word. -/
def toBeBytes16 (n : UInt16) : Bytes := [UInt8.ofNat (n.toNat / 256), UInt8.ofNat n.toNat]

/-- The 16-bit word with the two given bytes. -/
def fromBeBytes16 (a b : UInt8) : UInt16 := UInt16.ofNat (a.toNat * 256 + b.toNat)

/-- Decoding the bytes of a 16-bit word gives the word back. -/
theorem fromBeBytes16_toBeBytes16 (n : UInt16) :
    fromBeBytes16 (UInt8.ofNat (n.toNat / 256)) (UInt8.ofNat n.toNat) = n := by
  have hn := n.toNat_lt
  rw [← UInt16.toNat_inj, fromBeBytes16, UInt16.toNat_ofNat']
  simp only [UInt8.toNat_ofNat']
  omega

/-- The upper and the lower half of a 64-bit word. -/
def halves (n : UInt64) : UInt32 × UInt32 :=
  (UInt32.ofNat (n.toNat / 4294967296), UInt32.ofNat n.toNat)

/-- The 64-bit word with the given halves. -/
def ofHalves (high low : UInt32) : UInt64 := UInt64.ofNat (high.toNat * 4294967296 + low.toNat)

/-- A 64-bit word is determined by its halves. -/
theorem ofHalves_halves (n : UInt64) : ofHalves (halves n).1 (halves n).2 = n := by
  have hn := n.toNat_lt
  rw [← UInt64.toNat_inj, ofHalves, halves, UInt64.toNat_ofNat']
  simp only [UInt32.toNat_ofNat']
  omega

end Roboat
