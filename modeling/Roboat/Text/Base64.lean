import Mathlib.Data.List.Basic

/-! # Base64

The standard alphabet with padding. Three bytes are four digits; a last group of one or two bytes is
padded with `=`. The decoder is the strict one: the padding has to be there, and the bits it stands
for have to be zero. What it accepts is therefore what the encoder writes (`encode_of_decode`), and
all that the encoder writes is accepted (`decode_encode`). -/

namespace Roboat.Base64

/-- The sixty-four digits. -/
def alphabet : List Char :=
  ['A', 'B', 'C', 'D', 'E', 'F', 'G', 'H', 'I', 'J', 'K', 'L', 'M', 'N', 'O', 'P', 'Q', 'R', 'S',
    'T', 'U', 'V', 'W', 'X', 'Y', 'Z', 'a', 'b', 'c', 'd', 'e', 'f', 'g', 'h', 'i', 'j', 'k', 'l',
    'm', 'n', 'o', 'p', 'q', 'r', 's', 't', 'u', 'v', 'w', 'x', 'y', 'z', '0', '1', '2', '3', '4',
    '5', '6', '7', '8', '9', '+', '/']

/-- The digit of a number below sixty-four. -/
def digit (n : Nat) : Char := alphabet.getD n '='

/-- The number of a digit. -/
def value (c : Char) : Option Nat := alphabet.findIdx? (· == c)

/-- The padding. -/
def pad : Char := '='

/-- A group of three bytes, as four digits. -/
def encodeGroup (a b c : UInt8) : List Char :=
  [digit (a.toNat / 4), digit (a.toNat % 4 * 16 + b.toNat / 16),
    digit (b.toNat % 16 * 4 + c.toNat / 64), digit (c.toNat % 64)]

/-- The encoder. -/
def encode : List UInt8 → List Char
  | [] => []
  | [a] => [digit (a.toNat / 4), digit (a.toNat % 4 * 16), pad, pad]
  | [a, b] =>
    [digit (a.toNat / 4), digit (a.toNat % 4 * 16 + b.toNat / 16), digit (b.toNat % 16 * 4), pad]
  | a :: b :: c :: rest => encodeGroup a b c ++ encode rest

/-- Four digits, as three bytes. -/
def decodeGroup (p q r s : Char) : Option (List UInt8) := do
  let x ← value p
  let y ← value q
  let z ← value r
  let w ← value s
  return [UInt8.ofNat (x * 4 + y / 16), UInt8.ofNat (y % 16 * 16 + z / 4),
    UInt8.ofNat (z % 4 * 64 + w)]

/-- Three digits and a padding, as two bytes. -/
def decodeTwo (p q r : Char) : Option (List UInt8) := do
  let x ← value p
  let y ← value q
  let z ← value r
  -- the two bits that the padding stands for
  if z % 4 = 0 then
    return [UInt8.ofNat (x * 4 + y / 16), UInt8.ofNat (y % 16 * 16 + z / 4)]
  else none

/-- Two digits and two paddings, as one byte. -/
def decodeOne (p q : Char) : Option (List UInt8) := do
  let x ← value p
  let y ← value q
  if y % 16 = 0 then return [UInt8.ofNat (x * 4 + y / 16)] else none

/-- The last group, which may be padded. -/
def decodeLast (p q r s : Char) : Option (List UInt8) :=
  if s = pad then
    if r = pad then decodeOne p q else decodeTwo p q r
  else decodeGroup p q r s

/-- The decoder. -/
def decode : List Char → Option (List UInt8)
  | [] => some []
  | [p, q, r, s] => decodeLast p q r s
  -- padding before the last group is no digit, and refused as such
  | p :: q :: r :: s :: rest => do
      let bytes ← decodeGroup p q r s
      let bytes' ← decode rest
      return bytes ++ bytes'
  | _ => none

/-! ## What is accepted is what is written -/

/-- A digit stands for its number only. -/
theorem digit_of_value {c : Char} {n : Nat} (h : value c = some n) : digit n = c ∧ n < 64 := by
  obtain ⟨hlt, heq, -⟩ := List.findIdx?_eq_some_iff_getElem.mp h
  refine ⟨?_, hlt⟩
  rw [digit, List.getD_eq_getElem?_getD, List.getElem?_eq_getElem hlt]
  exact beq_iff_eq.mp heq

/-- The three bytes of four digits are encoded as these digits. -/
theorem encodeGroup_of_decodeGroup {p q r s : Char} {bytes : List UInt8}
    (h : decodeGroup p q r s = some bytes) :
    ∃ a b c, bytes = [a, b, c] ∧ encodeGroup a b c = [p, q, r, s] := by
  simp only [decodeGroup, Option.bind_eq_bind, Option.bind_eq_some_iff, Option.pure_def,
    Option.some.injEq] at h
  obtain ⟨x, hx, y, hy, z, hz, w, hw, rfl⟩ := h
  obtain ⟨rfl, hx⟩ := digit_of_value hx
  obtain ⟨rfl, hy⟩ := digit_of_value hy
  obtain ⟨rfl, hz⟩ := digit_of_value hz
  obtain ⟨rfl, hw⟩ := digit_of_value hw
  refine ⟨_, _, _, rfl, ?_⟩
  -- the six bits of each digit come back
  have hp : (x * 4 + y / 16) % 2 ^ 8 / 4 = x := by omega
  have hq : (x * 4 + y / 16) % 2 ^ 8 % 4 * 16 + (y % 16 * 16 + z / 4) % 2 ^ 8 / 16 = y := by omega
  have hr : (y % 16 * 16 + z / 4) % 2 ^ 8 % 16 * 4 + (z % 4 * 64 + w) % 2 ^ 8 / 64 = z := by omega
  have hs : (z % 4 * 64 + w) % 2 ^ 8 % 64 = w := by omega
  simp only [encodeGroup, UInt8.toNat_ofNat', hp, hq, hr, hs]

/-- The last group is encoded as its characters. -/
theorem encode_of_decodeLast {p q r s : Char} {bytes : List UInt8}
    (h : decodeLast p q r s = some bytes) : encode bytes = [p, q, r, s] := by
  unfold decodeLast at h
  by_cases hs : s = pad
  · rw [if_pos hs] at h
    subst hs
    by_cases hr : r = pad
    · rw [if_pos hr] at h
      subst hr
      simp only [decodeOne, Option.bind_eq_bind, Option.bind_eq_some_iff, Option.pure_def] at h
      obtain ⟨x, hx, y, hy, hbits⟩ := h
      obtain ⟨rfl, hx⟩ := digit_of_value hx
      obtain ⟨rfl, hy⟩ := digit_of_value hy
      by_cases hzero : y % 16 = 0
      · rw [if_pos hzero] at hbits
        cases hbits
        have hp : (x * 4 + y / 16) % 2 ^ 8 / 4 = x := by omega
        have hq : (x * 4 + y / 16) % 2 ^ 8 % 4 * 16 = y := by omega
        simp only [encode, UInt8.toNat_ofNat', hp, hq]
      · rw [if_neg hzero] at hbits
        cases hbits
    · rw [if_neg hr] at h
      simp only [decodeTwo, Option.bind_eq_bind, Option.bind_eq_some_iff, Option.pure_def] at h
      obtain ⟨x, hx, y, hy, z, hz, hbits⟩ := h
      obtain ⟨rfl, hx⟩ := digit_of_value hx
      obtain ⟨rfl, hy⟩ := digit_of_value hy
      obtain ⟨rfl, hz⟩ := digit_of_value hz
      by_cases hzero : z % 4 = 0
      · rw [if_pos hzero] at hbits
        cases hbits
        have hp : (x * 4 + y / 16) % 2 ^ 8 / 4 = x := by omega
        have hq : (x * 4 + y / 16) % 2 ^ 8 % 4 * 16 + (y % 16 * 16 + z / 4) % 2 ^ 8 / 16 = y := by
          omega
        have hr : (y % 16 * 16 + z / 4) % 2 ^ 8 % 16 * 4 = z := by omega
        simp only [encode, UInt8.toNat_ofNat', hp, hq, hr]
      · rw [if_neg hzero] at hbits
        cases hbits
  · rw [if_neg hs] at h
    obtain ⟨a, b, c, rfl, hgroup⟩ := encodeGroup_of_decodeGroup h
    rw [encode, hgroup]
    rfl

/-- **A decoded text is the encoding of its bytes**: the decoder is strict. -/
theorem encode_of_decode {text : List Char} {bytes : List UInt8} (h : decode text = some bytes) :
    encode bytes = text := by
  induction text using decode.induct generalizing bytes with
  | case1 =>
    cases h
    rfl
  | case2 p q r s => exact encode_of_decodeLast h
  | case3 p q r s rest hrest ih =>
    rw [decode] at h
    · simp only [Option.bind_eq_bind, Option.bind_eq_some_iff, Option.pure_def,
        Option.some.injEq] at h
      obtain ⟨head, hhead, tail, htail, rfl⟩ := h
      obtain ⟨a, b, c, rfl, hgroup⟩ := encodeGroup_of_decodeGroup hhead
      show encodeGroup a b c ++ encode tail = _
      rw [hgroup, ih htail]
      rfl
    · exact hrest
  | case4 text hnil hlast hmore =>
    rw [decode] at h
    · cases h
    · exact hnil
    · exact hlast
    · exact hmore

/-- Four digits for every three bytes, and for what is left. -/
theorem length_encode (bytes : List UInt8) :
    (encode bytes).length = 4 * ((bytes.length + 2) / 3) := by
  induction bytes using encode.induct with
  | case1 => rfl
  | case2 a | case3 a b => simp [encode]
  | case4 a b c rest ih =>
    rw [encode, List.length_append, ih]
    simp only [encodeGroup, List.length_cons, List.length_nil]
    omega

theorem digit_mem (n : Nat) : digit n ∈ pad :: alphabet := by
  rw [digit, List.getD_eq_getElem?_getD]
  cases h : alphabet[n]? with
  | none => exact List.mem_cons_self
  | some c => exact List.mem_cons_of_mem _ (List.mem_of_getElem? h)

/-- The characters of an encoding. -/
theorem mem_of_mem_encode {bytes : List UInt8} {c : Char} (h : c ∈ encode bytes) :
    c ∈ pad :: alphabet := by
  induction bytes using encode.induct with
  | case1 => cases h
  | case2 a =>
    simp only [encode, List.mem_cons, List.not_mem_nil, or_false] at h
    rcases h with rfl | rfl | rfl | rfl
    · exact digit_mem _
    · exact digit_mem _
    · exact List.mem_cons_self
    · exact List.mem_cons_self
  | case3 a b =>
    simp only [encode, List.mem_cons, List.not_mem_nil, or_false] at h
    rcases h with rfl | rfl | rfl | rfl
    · exact digit_mem _
    · exact digit_mem _
    · exact digit_mem _
    · exact List.mem_cons_self
  | case4 a b c rest ih =>
    rcases List.mem_append.mp h with h | h
    · simp only [encodeGroup, List.mem_cons, List.not_mem_nil, or_false] at h
      rcases h with rfl | rfl | rfl | rfl <;> exact digit_mem _
    · exact ih h

/-- An encoding is not shorter than what it encodes. -/
theorem length_le_length_encode (bytes : List UInt8) : bytes.length ≤ (encode bytes).length := by
  rw [length_encode]
  omega

/-! ## What is written is accepted -/

theorem value_digit {n : Nat} (h : n < 64) : value (digit n) = some n := by
  have hall : ∀ n < 64, value (digit n) = some n := by decide +kernel
  exact hall n h

/-- The padding is not a digit. -/
theorem digit_ne_pad {n : Nat} (h : n < 64) : digit n ≠ pad := by
  intro hpad
  have hnone : value pad = none := by decide +kernel
  rw [← hpad, value_digit h] at hnone
  cases hnone

theorem decodeGroup_encodeGroup (a b c : UInt8) :
    decodeGroup (digit (a.toNat / 4)) (digit (a.toNat % 4 * 16 + b.toNat / 16))
      (digit (b.toNat % 16 * 4 + c.toNat / 64)) (digit (c.toNat % 64)) = some [a, b, c] := by
  have ha := a.toNat_lt
  have hb := b.toNat_lt
  have hc := c.toNat_lt
  simp only [decodeGroup, Option.bind_eq_bind]
  rw [value_digit (by omega), value_digit (by omega), value_digit (by omega),
    value_digit (by omega)]
  simp only [Option.bind_some, Option.pure_def, Option.some.injEq, List.cons.injEq, and_true,
    ← UInt8.toNat_inj, UInt8.toNat_ofNat']
  omega

theorem decodeTwo_digits (a b : UInt8) :
    decodeTwo (digit (a.toNat / 4)) (digit (a.toNat % 4 * 16 + b.toNat / 16))
      (digit (b.toNat % 16 * 4)) = some [a, b] := by
  have ha := a.toNat_lt
  have hb := b.toNat_lt
  simp only [decodeTwo, Option.bind_eq_bind]
  rw [value_digit (by omega), value_digit (by omega), value_digit (by omega)]
  simp only [Option.bind_some]
  rw [if_pos (by omega)]
  simp only [Option.pure_def, Option.some.injEq, List.cons.injEq, and_true, ← UInt8.toNat_inj,
    UInt8.toNat_ofNat']
  omega

theorem decodeOne_digits (a : UInt8) :
    decodeOne (digit (a.toNat / 4)) (digit (a.toNat % 4 * 16)) = some [a] := by
  have ha := a.toNat_lt
  simp only [decodeOne, Option.bind_eq_bind]
  rw [value_digit (by omega), value_digit (by omega)]
  simp only [Option.bind_some]
  rw [if_pos (by omega)]
  simp only [Option.pure_def, Option.some.injEq, List.cons.injEq, and_true, ← UInt8.toNat_inj,
    UInt8.toNat_ofNat']
  omega

/-- **An encoding is decoded.** -/
theorem decode_encode (bytes : List UInt8) : decode (encode bytes) = some bytes := by
  induction bytes using encode.induct with
  | case1 => rfl
  | case2 a =>
    rw [encode, decode, decodeLast, if_pos rfl, if_pos rfl, decodeOne_digits]
  | case3 a b =>
    have hb := b.toNat_lt
    rw [encode, decode, decodeLast, if_pos rfl, if_neg (digit_ne_pad (by omega)),
      decodeTwo_digits]
  | case4 a b c rest ih =>
    have hc := c.toNat_lt
    cases rest with
    | nil =>
      change decodeLast _ _ _ _ = _
      rw [decodeLast, if_neg (digit_ne_pad (by omega)), decodeGroup_encodeGroup]
    | cons d rest =>
      rw [encode, encodeGroup]
      simp only [List.cons_append, List.nil_append]
      rw [decode]
      · rw [decodeGroup_encodeGroup, ih]
        rfl
      · -- there is a next group
        intro hnil
        have hlen := length_encode (d :: rest)
        rw [hnil, List.length_cons, List.length_nil] at hlen
        omega

end Roboat.Base64
