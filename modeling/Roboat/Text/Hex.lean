import Mathlib.Data.List.Basic

/-! # Lower-case hexadecimal

The two digits of a byte (`hex_encode_byte`, also the `{:02x}` format) and the encoding of a byte
string as the concatenation of its digits (`hex::encode`). Text is kept as a list of characters. -/

namespace Roboat

/-- A text: its Unicode scalar values in order. -/
abbrev Str := List Char

/-- Texts are compared character by character. -/
instance : LawfulBEq Str := List.instLawfulBEq

/-- The sixteen lower-case digits. -/
def hexChars : List Char :=
  ['0', '1', '2', '3', '4', '5', '6', '7', '8', '9', 'a', 'b', 'c', 'd', 'e', 'f']

/-- The digit of a number below sixteen. -/
def hexDigit (n : Nat) : Char := hexChars.getD n '0'

/-- The two digits of a byte, the high half first. -/
def hexEncodeByte (b : UInt8) : Str := [hexDigit (b >>> 4).toNat, hexDigit (b &&& 0x0f).toNat]

/-- The digits of a byte string. -/
def hexEncode (bytes : List UInt8) : Str := bytes.flatMap hexEncodeByte

/-! ## Different bytes, different digits -/

/-- A digit determines its number. -/
theorem hexDigit_inj {m n : Nat} (hm : m < 16) (hn : n < 16) (h : hexDigit m = hexDigit n) :
    m = n := by
  have hall : ∀ m n : Fin 16, hexDigit m = hexDigit n → m = n := by decide
  exact Fin.mk.inj (hall ⟨m, hm⟩ ⟨n, hn⟩ h)

/-- The two halves of a byte. -/
theorem toNat_shiftRight_four (b : UInt8) : (b >>> 4).toNat = b.toNat / 16 := by
  rw [UInt8.toNat_shiftRight]
  exact Nat.shiftRight_eq_div_pow b.toNat 4

@[inherit_doc toNat_shiftRight_four]
theorem toNat_and_fifteen (b : UInt8) : (b &&& 0x0f).toNat = b.toNat % 16 := by
  rw [UInt8.toNat_and]
  exact Nat.and_two_pow_sub_one_eq_mod b.toNat 4

theorem hexEncodeByte_inj {a b : UInt8} (h : hexEncodeByte a = hexEncodeByte b) : a = b := by
  simp only [hexEncodeByte, List.cons.injEq, and_true] at h
  obtain ⟨hhigh, hlow⟩ := h
  have ha := a.toNat_lt
  have hb := b.toNat_lt
  rw [toNat_shiftRight_four, toNat_shiftRight_four] at hhigh
  rw [toNat_and_fifteen, toNat_and_fifteen] at hlow
  have hdiv := hexDigit_inj (by omega) (by omega) hhigh
  have hmod := hexDigit_inj (by omega) (by omega) hlow
  rw [← UInt8.toNat_inj]
  omega

/-- **The digits determine the bytes.** -/
theorem hexEncode_injective : Function.Injective hexEncode := by
  intro as bs h
  induction as generalizing bs with
  | nil =>
    cases bs with
    | nil => rfl
    | cons b bs => cases h
  | cons a as ih =>
    cases bs with
    | nil => cases h
    | cons b bs =>
      -- two digits are two digits, whatever follows them
      obtain ⟨hbyte, hrest⟩ : hexEncodeByte a = hexEncodeByte b ∧ hexEncode as = hexEncode bs :=
        List.append_inj h rfl
      rw [hexEncodeByte_inj hbyte, ih hrest]

end Roboat
