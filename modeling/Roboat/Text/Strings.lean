import Mathlib.Data.List.DropRight
import Roboat.Text.Hex

/-! # White space and case folding

`strings.TrimSpace` (and Rust's `str::trim`) removes leading and trailing characters with the
Unicode property `White_Space`, which is a short closed list. `strings.EqualFold` compares under
simple Unicode case folding: two texts are equal when their characters fold to the same ones. The
folding table itself is a parameter `fold` of everything that uses it. -/

namespace Roboat

/-- The Unicode property `White_Space`. -/
def isWhiteSpace (c : Char) : Bool :=
  let n := c.toNat
  (0x09 ≤ n && n ≤ 0x0D) || n == 0x20 || n == 0x85 || n == 0xA0 || n == 0x1680 ||
    (0x2000 ≤ n && n ≤ 0x200A) || n == 0x2028 || n == 0x2029 || n == 0x202F || n == 0x205F ||
    n == 0x3000

/-- `strings.TrimSpace`, `str::trim`. -/
def trimSpace (s : Str) : Str := (s.dropWhile isWhiteSpace).rdropWhile isWhiteSpace

/-- `strings.EqualFold` for a table of simple case foldings. -/
def equalFold (fold : Char → Char) (s t : Str) : Bool := s.map fold == t.map fold

/-- The case folding of the ASCII letters. -/
def asciiFold (c : Char) : Char := c.toLower

@[simp] theorem trimSpace_nil : trimSpace [] = [] := rfl

/-- A trimmed text does not begin with white space. -/
theorem dropWhile_trimSpace (s : Str) : (trimSpace s).dropWhile isWhiteSpace = trimSpace s := by
  unfold trimSpace
  cases h : s.dropWhile isWhiteSpace with
  | nil => rfl
  | cons c cs =>
    have hc : isWhiteSpace c = false := by
      have := List.head?_dropWhile_not isWhiteSpace s
      rw [h] at this
      simpa using this
    cases hr : (c :: cs).rdropWhile isWhiteSpace with
    | nil => rfl
    | cons d ds =>
      have hpre := List.rdropWhile_prefix (p := isWhiteSpace) (c :: cs)
      rw [hr] at hpre
      obtain ⟨rest, hrest⟩ := hpre
      obtain rfl : d = c := by simpa using (List.cons.inj hrest).1
      rw [List.dropWhile_cons_of_neg (by simp [hc])]

/-- Trimming twice is trimming once. -/
@[simp] theorem trimSpace_trimSpace (s : Str) : trimSpace (trimSpace s) = trimSpace s := by
  have h : trimSpace (trimSpace s)
      = ((trimSpace s).dropWhile isWhiteSpace).rdropWhile isWhiteSpace := rfl
  rw [h, dropWhile_trimSpace, trimSpace, List.rdropWhile_idempotent]

/-- Trimming commutes with a mapping of characters that keeps white space apart. -/
theorem trimSpace_map {f : Char → Char} (hf : ∀ c, isWhiteSpace (f c) = isWhiteSpace c) (s : Str) :
    trimSpace (s.map f) = (trimSpace s).map f := by
  have hcomp : isWhiteSpace ∘ f = isWhiteSpace := funext hf
  unfold trimSpace List.rdropWhile
  rw [List.dropWhile_map, hcomp, ← List.map_reverse, List.dropWhile_map, hcomp, ← List.map_reverse]

/-- What begins with more than space is not blank. -/
theorem trimSpace_cons_ne_nil {c : Char} (hc : isWhiteSpace c = false) (s : Str) :
    trimSpace (c :: s) ≠ [] := by
  intro h
  rw [trimSpace, List.dropWhile_cons_of_neg (by simp [hc]), List.rdropWhile_eq_nil_iff] at h
  simpa [hc] using h c List.mem_cons_self

/-- A text that neither begins nor ends with white space is left alone. -/
theorem trimSpace_eq_self {s : Str} (hhead : ∀ c ∈ s.head?, isWhiteSpace c = false)
    (hlast : ∀ c ∈ s.getLast?, isWhiteSpace c = false) : trimSpace s = s := by
  have hdrop : s.dropWhile isWhiteSpace = s := by
    cases s with
    | nil => rfl
    | cons c s => exact List.dropWhile_cons_of_neg (by simp [hhead c rfl])
  rw [trimSpace, hdrop, List.rdropWhile_eq_self_iff]
  intro hne
  rw [hlast _ (List.getLast?_eq_some_getLast hne)]
  exact Bool.false_ne_true

/-! ## Splitting -/

/-- `str::split_once`: the text before and after the first separator. -/
def splitOnce (sep : Char) : Str → Option (Str × Str)
  | [] => none
  | c :: s => if c = sep then some ([], s) else (splitOnce sep s).map fun p => (c :: p.1, p.2)

theorem splitOnce_eq_none {sep : Char} {s : Str} : splitOnce sep s = none ↔ sep ∉ s := by
  induction s with
  | nil => simp [splitOnce]
  | cons c s ih =>
    by_cases h : c = sep
    · simp [splitOnce, h]
    · simp [splitOnce, h, ih, Ne.symm h]

theorem splitOnce_append {sep : Char} {s : Str} (h : sep ∉ s) (t : Str) :
    splitOnce sep (s ++ sep :: t) = some (s, t) := by
  induction s with
  | nil => simp [splitOnce]
  | cons c s ih =>
    obtain ⟨hc, hs⟩ := not_or.mp (mt List.mem_cons.mpr h)
    rw [List.cons_append, splitOnce, if_neg (Ne.symm hc), ih hs]
    rfl

/-- What was split is the two texts with the separator between them. -/
theorem eq_of_splitOnce {sep : Char} {s t u : Str} (h : splitOnce sep s = some (t, u)) :
    s = t ++ sep :: u ∧ sep ∉ t := by
  induction s generalizing t with
  | nil => cases h
  | cons c s ih =>
    rw [splitOnce] at h
    by_cases hc : c = sep
    · rw [if_pos hc] at h
      cases h
      exact ⟨by rw [hc]; rfl, List.not_mem_nil⟩
    · rw [if_neg hc, Option.map_eq_some_iff] at h
      obtain ⟨⟨t', u'⟩, hsplit, heq⟩ := h
      cases heq
      obtain ⟨rfl, hnot⟩ := ih hsplit
      exact ⟨rfl, mt List.mem_cons.mp (not_or.mpr ⟨Ne.symm hc, hnot⟩)⟩

/-- The recursion of `trimStartMatches`, for `n` occurrences at most. -/
def trimStarts (pat : Str) : Nat → Str → Str
  | 0, s => s
  | n + 1, s => if pat.isPrefixOf s then trimStarts pat n (s.drop pat.length) else s

/-- `str::trim_start_matches` for a text that is not empty: all its occurrences at the front are
removed. -/
def trimStartMatches (pat s : Str) : Str := trimStarts pat s.length s

theorem trimStarts_suffix (pat : Str) (n : Nat) (s : Str) : trimStarts pat n s <:+ s := by
  induction n generalizing s with
  | zero => exact List.suffix_refl s
  | succ n ih =>
    rw [trimStarts]
    split_ifs
    · exact (ih _).trans (List.drop_suffix _ s)
    · exact List.suffix_refl s

/-- What is left is the end of the text. -/
theorem trimStartMatches_suffix (pat s : Str) : trimStartMatches pat s <:+ s :=
  trimStarts_suffix pat _ s

/-! ## ASCII case folding -/

/-- The code of a folded ASCII character. -/
theorem toNat_asciiFold (c : Char) :
    (asciiFold c).toNat = if 65 ≤ c.toNat ∧ c.toNat ≤ 90 then c.toNat + 32 else c.toNat := by
  unfold asciiFold Char.toLower
  by_cases h : c.val ≥ 'A'.val ∧ c.val ≤ 'Z'.val
  · have hrange : 65 ≤ c.toNat ∧ c.toNat ≤ 90 := h
    rw [dif_pos h, if_pos hrange]
    have hsum : (c.val + 32).toNat = (c.val.toNat + 32) % 2 ^ 32 := UInt32.toNat_add _ _
    have hsmall : c.val.toNat ≤ 90 := hrange.2
    rw [Nat.mod_eq_of_lt (by omega)] at hsum
    exact hsum
  · have hrange : ¬ (65 ≤ c.toNat ∧ c.toNat ≤ 90) := h
    rw [dif_neg h, if_neg hrange]

/-- ASCII folding keeps white space apart. -/
theorem isWhiteSpace_asciiFold (c : Char) : isWhiteSpace (asciiFold c) = isWhiteSpace c := by
  unfold isWhiteSpace
  rw [toNat_asciiFold]
  by_cases h : 65 ≤ c.toNat ∧ c.toNat ≤ 90
  · rw [if_pos h]
    rw [Bool.eq_iff_iff]
    simp
    omega
  · rw [if_neg h]

/-- Folding an ASCII character twice is folding it once. -/
theorem asciiFold_asciiFold (c : Char) : asciiFold (asciiFold c) = asciiFold c := by
  apply Char.toNat_inj.mp
  rw [toNat_asciiFold (asciiFold c), toNat_asciiFold c]
  split_ifs <;> omega

section Fold

variable (fold : Char → Char) {s t u : Str}

@[simp] theorem equalFold_refl (s : Str) : equalFold fold s s = true := by simp [equalFold]

/-- Equality up to case is symmetric. -/
theorem equalFold_comm (s t : Str) : equalFold fold s t = equalFold fold t s := by
  simp only [equalFold, Bool.beq_comm]

end Fold

/-- The standard written form of a UUID: hexadecimal digits in groups of 8, 4, 4, 4 and 12. -/
def isStandardUUID (s : Str) : Bool :=
  s.length == 36 && (List.range 36).all fun i =>
    if i ∈ [8, 13, 18, 23] then s[i]? == some '-' else s[i]?.any (hexChars.contains ·)

/-- The UUID all of whose digits are `c`, written out. -/
def sampleUUID (c : Char) : Str :=
  ['-'].intercalate ([8, 4, 4, 4, 12].map fun n => List.replicate n c)

example : isStandardUUID (sampleUUID '0') = true := by decide

/-- The robot of the sample runs. -/
def robotA : Str := sampleUUID 'a'

end Roboat
