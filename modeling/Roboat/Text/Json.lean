import Mathlib.Data.List.Basic
import Roboat.Text.Hex
import Roboat.Wire.BigEndian

/-! # Compact JSON

The text that a serialiser writes for a flat object: no blanks, the fields in the order they are
given, strings escaped as little as the format allows. A text is measured by its UTF-8 bytes. -/

namespace Roboat.Json

/-- The UTF-8 bytes of a text. -/
def utf8 (s : Str) : Bytes := s.flatMap String.utf8EncodeChar

@[simp] theorem utf8_cons (c : Char) (s : Str) :
    utf8 (c :: s) = String.utf8EncodeChar c ++ utf8 s := rfl

@[simp] theorem utf8_append (s t : Str) : utf8 (s ++ t) = utf8 s ++ utf8 t :=
  List.flatMap_append

/-- The value of a field. -/
inductive Value where
  | string (s : Str)
  | number (n : Nat)
  deriving DecidableEq, Repr

/-- A character inside a string. -/
def escape (c : Char) : Str :=
  match c with
  | '"' => ['\\', '"']
  | '\\' => ['\\', '\\']
  | '\x08' => ['\\', 'b']
  | '\t' => ['\\', 't']
  | '\n' => ['\\', 'n']
  | '\x0c' => ['\\', 'f']
  | '\r' => ['\\', 'r']
  -- the other control characters by number, everything else as it is
  | c =>
    if c.toNat < 0x20 then ['\\', 'u', '0', '0'] ++ hexEncodeByte (UInt8.ofNat c.toNat)
    else [c]

/-- A string with its quotes. -/
def writeString (s : Str) : Str := '"' :: (s.flatMap escape ++ ['"'])

/-- A value. -/
def Value.write : Value → Str
  | string s => writeString s
  | number n => Nat.toDigits 10 n

/-- A field. -/
def writeField (key : String) (value : Value) : Str :=
  writeString key.toList ++ ':' :: value.write

/-- The fields of an object, with commas between them. -/
def writeFields : List (String × Value) → Str
  | [] => []
  | [f] => writeField f.1 f.2
  | f :: fields => writeField f.1 f.2 ++ ',' :: writeFields fields

/-- An object. -/
def writeObject (fields : List (String × Value)) : Str :=
  '\x7b' :: (writeFields fields ++ ['\x7d'])

/-- The length of an object depends on the text in its first field by the length of that alone. -/
theorem length_writeObject_congr (key : String) {s t : Str}
    (h : (utf8 (writeString s)).length = (utf8 (writeString t)).length)
    (fields : List (String × Value)) :
    (utf8 (writeObject ((key, .string s) :: fields))).length
      = (utf8 (writeObject ((key, .string t) :: fields))).length := by
  have hfield : (utf8 (writeField key (.string s))).length
      = (utf8 (writeField key (.string t))).length := by
    simp only [writeField, Value.write, utf8_append, utf8_cons, List.length_append, h]
  cases fields with
  | nil => simp only [writeObject, writeFields, utf8_cons, utf8_append, List.length_append, hfield]
  | cons f fields =>
    simp only [writeObject, writeFields, utf8_cons, utf8_append, List.length_append, hfield]

/-! ## A text is not longer than the object around it -/

theorem length_le_length_utf8 (s : Str) : s.length ≤ (utf8 s).length := by
  induction s with
  | nil => exact Nat.le_refl _
  | cons c s ih =>
    have hpos := c.utf8Size_pos
    rw [utf8_cons, List.length_append, String.length_utf8EncodeChar, List.length_cons]
    omega

theorem length_escape_pos (c : Char) : 0 < (escape c).length := by
  -- all branches but the last are two characters
  unfold escape
  split
  case h_8 =>
    split
    · simp
    · simp
  all_goals exact Nat.zero_lt_succ _

theorem length_le_length_writeString (s : Str) : s.length ≤ (writeString s).length := by
  have hescape : s.length ≤ (s.flatMap escape).length := by
    induction s with
    | nil => exact Nat.le_refl _
    | cons c s ih =>
      have hpos := length_escape_pos c
      rw [List.flatMap_cons, List.length_append, List.length_cons]
      omega
  rw [writeString, List.length_cons, List.length_append]
  omega

theorem length_writeField_le {f : String × Value} {fields : List (String × Value)}
    (h : f ∈ fields) : (writeField f.1 f.2).length ≤ (writeFields fields).length := by
  induction fields using writeFields.induct with
  | case1 => cases h
  | case2 g =>
    rw [List.mem_singleton.mp h]
    exact Nat.le_refl _
  | case3 g fields hne ih =>
    rw [writeFields]
    · rw [List.length_append, List.length_cons]
      rcases List.mem_cons.mp h with rfl | hmem
      · omega
      · have hle := ih hmem
        omega
    · exact hne

/-- **A text in a field is not longer than the bytes of the object.** -/
theorem length_le_length_writeObject {key : String} {s : Str} {fields : List (String × Value)}
    (h : (key, .string s) ∈ fields) : s.length ≤ (utf8 (writeObject fields)).length := by
  have hstring := length_le_length_writeString s
  have hfield := length_writeField_le h
  refine Nat.le_trans ?_ (length_le_length_utf8 _)
  simp only [writeField, Value.write, List.length_append, List.length_cons] at hfield
  rw [writeObject, List.length_cons, List.length_append]
  omega

/-! ## Texts of a known length -/

theorem length_utf8_writeField (key : String) (value : Value) :
    (utf8 (writeField key value)).length
      = (utf8 (writeString key.toList)).length + 1 + (utf8 value.write).length := by
  have hcolon : (String.utf8EncodeChar ':').length = 1 := by decide
  rw [writeField, utf8_append, utf8_cons, List.length_append, List.length_append, hcolon]
  omega

theorem length_utf8_writeFields (f g : String × Value) (fields : List (String × Value)) :
    (utf8 (writeFields (f :: g :: fields))).length
      = (utf8 (writeField f.1 f.2)).length + 1 + (utf8 (writeFields (g :: fields))).length := by
  have hcomma : (String.utf8EncodeChar ',').length = 1 := by decide
  rw [writeFields, utf8_append, utf8_cons, List.length_append, List.length_append, hcomma]
  · omega
  · exact List.cons_ne_nil g fields

theorem length_utf8_writeObject (fields : List (String × Value)) :
    (utf8 (writeObject fields)).length = (utf8 (writeFields fields)).length + 2 := by
  have hbraces : (String.utf8EncodeChar '\x7b').length = 1 ∧ (utf8 ['\x7d']).length = 1 := by decide
  rw [writeObject, utf8_cons, utf8_append, List.length_append, List.length_append]
  omega

/-- A text of ASCII characters has a byte for each of them. -/
theorem length_utf8_of_ascii {s : Str} (h : ∀ c ∈ s, c.utf8Size = 1) :
    (utf8 s).length = s.length := by
  induction s with
  | nil => rfl
  | cons c s ih =>
    rw [utf8_cons, List.length_append, String.length_utf8EncodeChar, h c List.mem_cons_self,
      ih fun d hd => h d (List.mem_cons_of_mem _ hd), List.length_cons, Nat.add_comm]

/-- A text of ASCII characters that need no escape. -/
theorem length_utf8_writeString {s : Str} (h : ∀ c ∈ s, c.utf8Size = 1 ∧ escape c = [c]) :
    (utf8 (writeString s)).length = s.length + 2 := by
  have hescape : s.flatMap escape = s := by
    induction s with
    | nil => rfl
    | cons c s ih =>
      rw [List.flatMap_cons, (h c List.mem_cons_self).2,
        ih fun d hd => h d (List.mem_cons_of_mem _ hd)]
      rfl
  rw [writeString, hescape, utf8_cons, utf8_append, List.length_append, List.length_append,
    length_utf8_of_ascii fun c hc => (h c hc).1]
  have hquote : (String.utf8EncodeChar '"').length = 1 ∧ (utf8 ['"']).length = 1 := by decide
  omega

theorem length_utf8_toDigits (n : Nat) :
    (utf8 (Nat.toDigits 10 n)).length = (Nat.toDigits 10 n).length := by
  apply length_utf8_of_ascii
  intro c hc
  have hdigit := Nat.isDigit_of_mem_toDigits (by decide) (by decide) hc
  have hrange : 48 ≤ c.val ∧ c.val ≤ 57 := by simpa [Char.isDigit] using hdigit
  have hle : c.val ≤ 127 := UInt32.le_trans hrange.2 (by decide)
  exact if_pos hle

end Roboat.Json
