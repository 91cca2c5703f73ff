import Mathlib.Tactic.SplitIfs
import Roboat.Text.Json

/-! # Reading UTF-8

`String::from_utf8_lossy`: a byte string is read character by character; where no character stands,
the longest piece that could have begun one (at least a byte) is replaced by U+FFFD. The first byte
of a character says in which bounds the bytes after it have to be (`lead`), and `tails` reads them.
A text that was written is read back (`fromUtf8Lossy_utf8`). -/

namespace Roboat.Utf8

open Json (utf8 utf8_cons)

/-- The bounds of a continuation byte. -/
def cont : Nat × Nat := (0x80, 0xBF)

/-- The bounds of the byte after the first byte of a character of three or four bytes: overlong
forms, surrogates and codes beyond U+10FFFF are excluded here. -/
def second (b : Nat) : Nat × Nat :=
  if b = 0xE0 then (0xA0, 0xBF)
  else if b = 0xED then (0x80, 0x9F)
  else if b = 0xF0 then (0x90, 0xBF)
  else if b = 0xF4 then (0x80, 0x8F)
  else cont

/-- What the first byte of a character stands for: its part of the code, and the bounds of the bytes
after it. -/
def lead (b : Nat) : Option (Nat × List (Nat × Nat)) :=
  if b < 0x80 then some (b, [])
  else if 0xC2 ≤ b ∧ b ≤ 0xDF then some (b - 0xC0, [cont])
  else if 0xE0 ≤ b ∧ b ≤ 0xEF then some (b - 0xE0, [second b, cont])
  else if 0xF0 ≤ b ∧ b ≤ 0xF4 then some (b - 0xF0, [second b, cont, cont])
  else none

/-- The bytes after the first one, six bits each. A byte out of bounds is left. -/
def tails (code : Nat) : List (Nat × Nat) → Bytes → Option Nat × Bytes
  | [], bs => (some code, bs)
  | _ :: _, [] => (none, [])
  | bounds :: more, b :: bs =>
    if bounds.1 ≤ b.toNat ∧ b.toNat ≤ bounds.2 then tails (code * 64 + b.toNat % 64) more bs
    else (none, b :: bs)

/-- What stands at the front of a byte string, and the bytes after it. -/
def first (b : UInt8) (bs : Bytes) : Option Nat × Bytes :=
  match lead b.toNat with
  | none => (none, bs)
  | some (code, bounds) => tails code bounds bs

/-- U+FFFD. -/
def replacement : Char := Char.ofNat 0xFFFD

/-- The recursion of `from_utf8_lossy`, for `n` characters at most. -/
def lossy : Nat → Bytes → Str
  | 0, _ => []
  | _ + 1, [] => []
  | n + 1, b :: bs => ((first b bs).1.map Char.ofNat).getD replacement :: lossy n (first b bs).2

/-- `String::from_utf8_lossy`. -/
def fromUtf8Lossy (bs : Bytes) : Str := lossy bs.length bs

-- an overlong form, a surrogate and a character that is cut off
example : fromUtf8Lossy [0x61, 0xC0, 0x80, 0x62] = ['a', replacement, replacement, 'b'] := by decide
example : fromUtf8Lossy [0xED, 0xA0, 0x80] = [replacement, replacement, replacement] := by decide
example : fromUtf8Lossy [0xF0, 0x9F, 0x98] = [replacement] := by decide

/-! ## What was written is read -/

theorem tails_cons {bounds : Nat × Nat} {n : Nat} (more : List (Nat × Nat)) (code : Nat)
    (bs : Bytes) (hbyte : n < 256) (hlow : bounds.1 ≤ n) (hhigh : n ≤ bounds.2) :
    tails code (bounds :: more) (UInt8.ofNat n :: bs) = tails (code * 64 + n % 64) more bs := by
  have hn : (UInt8.ofNat n).toNat = n := by
    rw [UInt8.toNat_ofNat']
    omega
  rw [tails, hn, if_pos ⟨hlow, hhigh⟩]

theorem tails_cont {n : Nat} (more : List (Nat × Nat)) (code : Nat) (bs : Bytes)
    (hlow : 0x80 ≤ n) (hhigh : n ≤ 0xBF) :
    tails code (cont :: more) (UInt8.ofNat n :: bs) = tails (code * 64 + n % 64) more bs :=
  tails_cons more code bs (by omega) hlow hhigh

/-- A first byte, and the bytes after it. -/
theorem first_ofNat {n code : Nat} {bounds : List (Nat × Nat)} (bs : Bytes) (hbyte : n < 256)
    (hlead : lead n = some (code, bounds)) :
    first (UInt8.ofNat n) bs = tails code bounds bs := by
  have hn : (UInt8.ofNat n).toNat = n := by
    rw [UInt8.toNat_ofNat']
    omega
  rw [first, hn, hlead]

theorem lead_two {n : Nat} (h : n < 0x20) (hlong : 2 ≤ n) :
    lead (n + 0xC0) = some (n, [cont]) := by
  rw [lead, if_neg (by omega), if_pos (by omega), Nat.add_sub_cancel]

theorem lead_three {n : Nat} (h : n < 0x10) :
    lead (n + 0xE0) = some (n, [second (n + 0xE0), cont]) := by
  rw [lead, if_neg (by omega), if_neg (by omega), if_pos (by omega), Nat.add_sub_cancel]

theorem lead_four {n : Nat} (h : n < 5) :
    lead (n + 0xF0) = some (n, [second (n + 0xF0), cont, cont]) := by
  rw [lead, if_neg (by omega), if_neg (by omega), if_neg (by omega), if_pos (by omega),
    Nat.add_sub_cancel]

/-- **A written character is found**, and what follows it is left. -/
theorem first_utf8EncodeChar (c : Char) (bs : Bytes) :
    ∃ b tail, String.utf8EncodeChar c = b :: tail ∧ first b (tail ++ bs) = (some c.toNat, bs) := by
  have hvalid : c.toNat < 0xD800 ∨ (0xDFFF < c.toNat ∧ c.toNat < 0x110000) := c.valid
  have hval : c.val.toNat = c.toNat := rfl
  unfold String.utf8EncodeChar
  simp only [hval]
  generalize c.toNat = v at *
  -- one case for each width; the code comes back from its pieces of six bits
  by_cases h1 : v ≤ 0x7F
  · rw [if_pos h1]
    refine ⟨_, _, rfl, ?_⟩
    rw [first_ofNat _ (by omega) (if_pos (by omega))]
    rfl
  rw [if_neg h1]
  by_cases h2 : v ≤ 0x7FF
  · rw [if_pos h2]
    refine ⟨_, _, rfl, ?_⟩
    have hcode : v / 64 % 32 * 64 + (v % 64 + 128) % 64 = v := by omega
    rw [first_ofNat _ (by omega) (lead_two (by omega) (by omega)), List.cons_append,
      tails_cont _ _ _ (by omega) (by omega), tails, hcode]
    rfl
  rw [if_neg h2]
  by_cases h3 : v ≤ 0xFFFF
  · rw [if_pos h3]
    refine ⟨_, _, rfl, ?_⟩
    have hcode :
        (v / 4096 % 16 * 64 + (v / 64 % 64 + 128) % 64) * 64 + (v % 64 + 128) % 64 = v := by
      omega
    have hsecond : (second (v / 4096 % 16 + 0xE0)).1 ≤ v / 64 % 64 + 128 ∧
        v / 64 % 64 + 128 ≤ (second (v / 4096 % 16 + 0xE0)).2 := by
      unfold second cont
      split_ifs <;> constructor <;> simp only <;> omega
    rw [first_ofNat _ (by omega) (lead_three (by omega)), List.cons_append,
      tails_cons _ _ _ (by omega) hsecond.1 hsecond.2, List.cons_append,
      tails_cont _ _ _ (by omega) (by omega), tails, hcode]
    rfl
  · rw [if_neg h3]
    refine ⟨_, _, rfl, ?_⟩
    have hcode : ((v / 262144 % 8 * 64 + (v / 4096 % 64 + 128) % 64) * 64
        + (v / 64 % 64 + 128) % 64) * 64 + (v % 64 + 128) % 64 = v := by
      omega
    have hsecond : (second (v / 262144 % 8 + 0xF0)).1 ≤ v / 4096 % 64 + 128 ∧
        v / 4096 % 64 + 128 ≤ (second (v / 262144 % 8 + 0xF0)).2 := by
      unfold second cont
      split_ifs <;> constructor <;> simp only <;> omega
    rw [first_ofNat _ (by omega) (lead_four (by omega)), List.cons_append,
      tails_cons _ _ _ (by omega) hsecond.1 hsecond.2, List.cons_append,
      tails_cont _ _ _ (by omega) (by omega), List.cons_append,
      tails_cont _ _ _ (by omega) (by omega), tails, hcode]
    rfl

/-- Lossy decoding of valid text gives the text. -/
theorem lossy_utf8 (s : Str) {n : Nat} (hn : (utf8 s).length ≤ n) : lossy n (utf8 s) = s := by
  induction s generalizing n with
  | nil => cases n <;> rfl
  | cons c s ih =>
    obtain ⟨b, tail, hbytes, hfirst⟩ := first_utf8EncodeChar c (utf8 s)
    rw [utf8_cons, hbytes, List.cons_append] at hn ⊢
    simp only [List.length_cons, List.length_append] at hn
    obtain ⟨n, rfl⟩ : ∃ m, n = m + 1 := ⟨n - 1, by omega⟩
    rw [lossy, hfirst, ih (by omega), Option.map_some, Option.getD_some, Char.ofNat_toNat]

/-- **A text is read back from its bytes.** -/
theorem fromUtf8Lossy_utf8 (s : Str) : fromUtf8Lossy (utf8 s) = s := lossy_utf8 s (Nat.le_refl _)

/-! ## Lengths -/

theorem length_lossy_le (n : Nat) (bs : Bytes) : (lossy n bs).length ≤ n := by
  induction n generalizing bs with
  | zero => exact Nat.le_refl _
  | succ n ih =>
    cases bs with
    | nil => exact Nat.zero_le _
    | cons b bs => exact Nat.succ_le_succ (ih _)

/-- A character for every byte at most. -/
theorem length_fromUtf8Lossy_le (bs : Bytes) : (fromUtf8Lossy bs).length ≤ bs.length :=
  length_lossy_le _ bs

/-- Four bytes for every character at most. -/
theorem length_utf8_le (s : Str) : (utf8 s).length ≤ 4 * s.length := by
  induction s with
  | nil => exact Nat.le_refl _
  | cons c s ih =>
    have hsize := c.utf8Size_le_four
    rw [utf8_cons, List.length_append, String.length_utf8EncodeChar, List.length_cons]
    omega

end Roboat.Utf8
