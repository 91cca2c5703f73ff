import Mathlib.Algebra.BigOperators.Group.List.Basic
import Mathlib.Algebra.GroupWithZero.Nat
import Roboat.Text.Strings

/-! # RFC 3339 times

Times in whole seconds, as `YYYY-MM-DDTHH:MM:SSZ` in UTC. A second is counted from the beginning of
the year 1, which is Go's zero time, and a day from the beginning of the year 0.

* `Date.ofDays` and `daysOf` are the Gregorian calendar, extended to all years.
* `format` writes every time; a year before 0 gets a sign, and one after 9999 more digits.
* `parse` reads this one form, in the ranges of its numbers.

The years 0 to 9999 are read back as they were written (`parse_format`). -/

namespace Roboat.Rfc3339

/-! ## The calendar -/

def leap (year : Nat) : Bool := year % 4 == 0 && (year % 100 != 0 || year % 400 == 0)

/-- The lengths of the months. -/
def monthLengths (leap : Bool) : List Nat :=
  [31, if leap then 29 else 28, 31, 30, 31, 30, 31, 31, 30, 31, 30, 31]

/-- The days before a year: 365 for each year, and the leap days. -/
def daysBeforeYear (year : Nat) : Nat :=
  365 * year + (year + 3) / 4 + (year + 399) / 400 - (year + 99) / 100

theorem sum_monthLengths (leap : Bool) :
    (monthLengths leap).sum = 365 + if leap then 1 else 0 := by
  cases leap <;> rfl

/-- The multiples of 4, 100 and 400 are counted up by a year that is one. -/
theorem multiples_succ (year : Nat) :
    (year + 4) / 4 = (year + 3) / 4 + (if year % 4 = 0 then 1 else 0) ∧
      (year + 100) / 100 = (year + 99) / 100 + (if year % 100 = 0 then 1 else 0) ∧
      (year + 400) / 400 = (year + 399) / 400 + (if year % 400 = 0 then 1 else 0) := by
  refine ⟨?_, ?_, ?_⟩ <;> split_ifs <;> omega

/-- A leap day for a multiple of 4, not for one of 100, and again for one of 400. -/
theorem leapDay_eq (year : Nat) :
    (if leap year then 1 else 0) + (if year % 100 = 0 then 1 else 0)
      = (if year % 4 = 0 then 1 else 0) + if year % 400 = 0 then 1 else 0 := by
  have hof400 : year % 400 = 0 → year % 100 = 0 := by omega
  have hof100 : year % 100 = 0 → year % 4 = 0 := by omega
  by_cases hy4 : year % 4 = 0
  · by_cases hy100 : year % 100 = 0
    · by_cases hy400 : year % 400 = 0 <;> simp [leap, hy4, hy100, hy400]
    · simp [leap, hy4, hy100, mt hof400 hy100]
  · have hy100 : year % 100 ≠ 0 := mt hof100 hy4
    simp [leap, hy4, hy100, mt hof400 hy100]

theorem daysBeforeYear_succ (year : Nat) :
    daysBeforeYear (year + 1) = daysBeforeYear year + (monthLengths (leap year)).sum := by
  obtain ⟨h4, h100, h400⟩ := multiples_succ year
  have hcenturies : (year + 99) / 100 ≤ 365 * year := by omega
  have hday := leapDay_eq year
  rw [sum_monthLengths, daysBeforeYear, daysBeforeYear, show year + 1 + 3 = year + 4 from rfl,
    show year + 1 + 99 = year + 100 from rfl, show year + 1 + 399 = year + 400 from rfl, h4, h100,
    h400]
  -- what is left is linear in the quotients and the days
  generalize (year + 99) / 100 = centuries at hcenturies ⊢
  generalize (if year % 100 = 0 then 1 else 0) = century at hday ⊢
  generalize (if year % 4 = 0 then 1 else 0) = fourth at hday ⊢
  generalize (if year % 400 = 0 then 1 else 0) = cycle at hday ⊢
  generalize (if leap year then 1 else 0) = day at hday ⊢
  clear h4 h100 h400
  omega

/-- A year begins near its share of the 146097 days in 400 years. -/
theorem daysBeforeYear_bounds (year : Nat) :
    146097 * year ≤ 400 * daysBeforeYear year + 396 ∧
      400 * daysBeforeYear year ≤ 146097 * year + 699 := by
  unfold daysBeforeYear
  omega

/-- The calendar repeats itself after 400 years. -/
theorem daysBeforeYear_cycles (cycles year : Nat) :
    daysBeforeYear (400 * cycles + year) = 146097 * cycles + daysBeforeYear year := by
  unfold daysBeforeYear
  omega

theorem leap_cycles (cycles year : Nat) : leap (400 * cycles + year) = leap year := by
  unfold leap
  rw [show (400 * cycles + year) % 4 = year % 4 by omega,
    show (400 * cycles + year) % 100 = year % 100 by omega,
    show (400 * cycles + year) % 400 = year % 400 by omega]

/-- The year of a day. A year has 146097 / 400 days on the average, and the quotient is off by one
at most. -/
def yearOfDay (n : Nat) : Nat :=
  let year := 400 * n / 146097
  if n < daysBeforeYear year then year - 1
  else if n < daysBeforeYear (year + 1) then year
  else year + 1

/-- The year found for a day holds the day. -/
theorem yearOfDay_spec (n : Nat) :
    daysBeforeYear (yearOfDay n) ≤ n ∧ n < daysBeforeYear (yearOfDay n + 1) := by
  unfold yearOfDay
  simp only
  have hlow : 146097 * (400 * n / 146097) ≤ 400 * n := Nat.mul_div_le _ _
  have hhigh : 400 * n < 146097 * (400 * n / 146097 + 1) := Nat.lt_mul_div_succ _ (by decide)
  generalize 400 * n / 146097 = year at hlow hhigh
  split_ifs with hbefore hafter
  · -- the day before the quotient's year
    cases year with
    | zero => cases hbefore
    | succ year =>
      have hfirst := (daysBeforeYear_bounds (year + 1)).2
      have hstep := daysBeforeYear_succ year
      rw [sum_monthLengths] at hstep
      rw [Nat.add_sub_cancel]
      omega
  · exact ⟨Nat.le_of_not_lt hbefore, hafter⟩
  · have hnext := (daysBeforeYear_bounds (year + 1)).1
    have hstep := daysBeforeYear_succ (year + 1)
    rw [sum_monthLengths] at hstep
    omega

/-- The month of a day, counted from 0, and the day in it. -/
def splitDays : List Nat → Nat → Nat × Nat
  | [], n => (0, n)
  | len :: lens, n =>
    if n < len then (0, n)
    else
      let rest := splitDays lens (n - len)
      (rest.1 + 1, rest.2)

/-- The split finds the month that holds the day. -/
theorem splitDays_spec {lens : List Nat} {n : Nat} (h : n < lens.sum) :
    ∃ len, lens[(splitDays lens n).1]? = some len ∧ (splitDays lens n).2 < len ∧
      (lens.take (splitDays lens n).1).sum + (splitDays lens n).2 = n := by
  induction lens generalizing n with
  | nil => cases h
  | cons len lens ih =>
    rw [splitDays]
    split_ifs with hlt
    · exact ⟨len, rfl, hlt, by simp⟩
    · rw [List.sum_cons] at h
      obtain ⟨len', hget, hday, hsum⟩ := ih (n := n - len) (by omega)
      refine ⟨len', by simpa using hget, hday, ?_⟩
      rw [List.take_succ_cons, List.sum_cons]
      simp only
      omega

/-- A date; months and days are counted from 1. -/
structure Date where
  year : Int
  month : Nat
  day : Nat
  deriving DecidableEq, Repr

/-- The date of a day. -/
def Date.ofDays (n : Int) : Date :=
  let rest := (n % 146097).toNat
  let year := yearOfDay rest
  let split := splitDays (monthLengths (leap year)) (rest - daysBeforeYear year)
  ⟨400 * (n / 146097) + year, split.1 + 1, split.2 + 1⟩

/-- The days of a month. -/
def daysIn (year month : Nat) : Nat := ((monthLengths (leap year))[month - 1]?).getD 0

/-- The day of a date. -/
def daysOf (year month day : Nat) : Nat :=
  daysBeforeYear year + ((monthLengths (leap year)).take (month - 1)).sum + (day - 1)

/-- **The date of a day is a date of that day**, for the years 0 to 9999. -/
theorem ofDays_spec {n : Nat} (h : n < 3652425) :
    ∃ year month day : Nat, Date.ofDays n = ⟨year, month, day⟩ ∧ year ≤ 9999 ∧
      1 ≤ month ∧ month ≤ 12 ∧ 1 ≤ day ∧ day ≤ daysIn year month ∧ daysOf year month day = n := by
  have hrest : ((n : Int) % 146097).toNat = n % 146097 := by omega
  have hcycles : (n : Int) / 146097 = (n / 146097 : Nat) := by omega
  obtain ⟨hfrom, hto⟩ := yearOfDay_spec (n % 146097)
  have hsmall : yearOfDay (n % 146097) < 400 := by
    have hbounds := (daysBeforeYear_bounds (yearOfDay (n % 146097))).1
    omega
  simp only [Date.ofDays, hrest, hcycles]
  generalize yearOfDay (n % 146097) = year at *
  rw [daysBeforeYear_succ] at hto
  have hrange : n % 146097 - daysBeforeYear year < (monthLengths (leap year)).sum := by omega
  obtain ⟨len, hlen, hday, hsum⟩ := splitDays_spec hrange
  have hmonth := (List.getElem?_eq_some_iff.mp hlen).1
  generalize splitDays (monthLengths (leap year)) (n % 146097 - daysBeforeYear year) = split at *
  refine ⟨400 * (n / 146097) + year, split.1 + 1, split.2 + 1, ?_, ?_, ?_, ?_, ?_, ?_, ?_⟩
  · simp
  · omega
  · omega
  · exact hmonth
  · omega
  · rw [daysIn, leap_cycles, Nat.add_sub_cancel, hlen]
    exact hday
  · rw [daysOf, leap_cycles, daysBeforeYear_cycles, Nat.add_sub_cancel, Nat.add_sub_cancel]
    omega

/-! ## Digits -/

/-- A number in decimal, with its last `width` digits. -/
def padded : Nat → Nat → Str
  | 0, _ => []
  | width + 1, n => padded width (n / 10) ++ [Nat.digitChar (n % 10)]

/-- A number in decimal, with at least `width` digits. -/
def atLeast (width n : Nat) : Str := if n < 10 ^ width then padded width n else Nat.toDigits 10 n

/-- The value of decimal digits. -/
def value (digits : Str) : Nat := digits.foldl (fun n c => 10 * n + (c.toNat - '0'.toNat)) 0

/-- Read `width` digits of a number in a range. -/
def number (width lo hi : Nat) (s : Str) : Option (Nat × Str) :=
  let digits := s.take width
  if digits.length = width ∧ digits.all Char.isDigit ∧ lo ≤ value digits ∧ value digits ≤ hi then
    some (value digits, s.drop width)
  else none

/-- Read one character. -/
def expect (c : Char) : Str → Option Str
  | d :: s => if d = c then some s else none
  | [] => none

theorem length_padded (width n : Nat) : (padded width n).length = width := by
  induction width generalizing n with
  | zero => rfl
  | succ width ih => rw [padded, List.length_append, ih, List.length_singleton]

theorem isDigit_digitChar {d : Nat} (h : d < 10) : (Nat.digitChar d).isDigit = true := by
  revert d
  decide

theorem value_digitChar {d : Nat} (h : d < 10) : (Nat.digitChar d).toNat - '0'.toNat = d := by
  revert d
  decide

theorem all_isDigit_padded (width n : Nat) : (padded width n).all Char.isDigit = true := by
  induction width generalizing n with
  | zero => rfl
  | succ width ih =>
    rw [padded, List.all_append, ih, List.all_cons, List.all_nil,
      isDigit_digitChar (Nat.mod_lt n (by decide))]
    rfl

theorem value_padded {width n : Nat} (h : n < 10 ^ width) : value (padded width n) = n := by
  induction width generalizing n with
  | zero =>
    rw [pow_zero, Nat.lt_one_iff] at h
    rw [h]
    rfl
  | succ width ih =>
    have hfirst := ih (n := n / 10) (by rw [pow_succ] at h; omega)
    rw [value] at hfirst ⊢
    rw [padded, List.foldl_append, hfirst, List.foldl_cons, List.foldl_nil,
      value_digitChar (Nat.mod_lt n (by decide))]
    exact Nat.div_add_mod n 10

/-- **A number is read back**, whatever follows it. -/
theorem number_padded (width : Nat) {lo hi n : Nat} (hwidth : hi < 10 ^ width) (hlo : lo ≤ n)
    (hhi : n ≤ hi) (s : Str) : number width lo hi (padded width n ++ s) = some (n, s) := by
  have hvalue : value (padded width n) = n := value_padded (Nat.lt_of_le_of_lt hhi hwidth)
  have htake : (padded width n ++ s).take width = padded width n :=
    List.take_left' (length_padded width n)
  have hdrop : (padded width n ++ s).drop width = s := List.drop_left' (length_padded width n)
  rw [number, htake, hdrop, hvalue,
    if_pos ⟨length_padded width n, all_isDigit_padded width n, hlo, hhi⟩]

theorem expect_cons (c : Char) (s : Str) : expect c (c :: s) = some s := if_pos rfl

/-! ## Times -/

/-- The year of a date: with a sign if it is negative. -/
def formatYear (year : Int) : Str :=
  if year < 0 then '-' :: atLeast 4 year.natAbs else atLeast 4 year.natAbs

/-- **`Format(time.RFC3339)`** of a time in UTC, from its seconds. -/
def format (sec : Int) : Str :=
  let date := Date.ofDays (sec / 86400 + 366)
  let clock := (sec % 86400).toNat
  formatYear date.year ++ '-' :: (padded 2 date.month ++ '-' :: (padded 2 date.day ++
    'T' :: (padded 2 (clock / 3600) ++ ':' :: (padded 2 (clock / 60 % 60) ++
      ':' :: (padded 2 (clock % 60) ++ ['Z'])))))

/-- **Parse a time in UTC without a fraction**; the result is in seconds. -/
def parse (s : Str) : Option Int := do
  let (year, s) ← number 4 0 9999 s
  let s ← expect '-' s
  let (month, s) ← number 2 1 12 s
  let s ← expect '-' s
  let (day, s) ← number 2 1 (daysIn year month) s
  let s ← expect 'T' s
  let (hour, s) ← number 2 0 23 s
  let s ← expect ':' s
  let (min, s) ← number 2 0 59 s
  let s ← expect ':' s
  let (sec, s) ← number 2 0 59 s
  if s = ['Z'] then
    some (((daysOf year month day : Int) - 366) * 86400 + (hour * 3600 + min * 60 + sec : Nat))
  else none

/-- The times in the years 0 to 9999. -/
def Representable (sec : Int) : Prop := -366 * 86400 ≤ sec ∧ sec < (3652425 - 366) * 86400

instance : DecidablePred Representable := fun _ => inferInstanceAs (Decidable (_ ∧ _))

theorem daysIn_le (year month : Nat) : daysIn year month ≤ 31 := by
  have hle : ∀ leap, ∀ len ∈ monthLengths leap, len ≤ 31 := by decide
  unfold daysIn
  cases hlen : (monthLengths (leap year))[month - 1]? with
  | none => exact Nat.zero_le _
  | some len => exact hle _ len (List.mem_of_getElem? hlen)

theorem formatYear_natCast {year : Nat} (h : year ≤ 9999) : formatYear year = padded 4 year := by
  rw [formatYear, if_neg (by omega), Int.natAbs_natCast, atLeast, if_pos (by omega)]

/-- **Round trip.** -/
theorem parse_format {sec : Int} (h : Representable sec) : parse (format sec) = some sec := by
  obtain ⟨hfrom, hto⟩ := h
  obtain ⟨n, hn⟩ : ∃ n : Nat, sec / 86400 + 366 = n := ⟨(sec / 86400 + 366).toNat, by omega⟩
  obtain ⟨year, month, day, hdate, hyear, hmonth, hmonth', hday, hday', hdays⟩ :=
    ofDays_spec (n := n) (by omega)
  simp only [format, hn, hdate, formatYear_natCast hyear]
  have hhour : (sec % 86400).toNat / 3600 ≤ 23 := by omega
  have hmin : (sec % 86400).toNat / 60 % 60 ≤ 59 := by omega
  have hsec : (sec % 86400).toNat % 60 ≤ 59 := by omega
  -- the numbers are read one after the other
  simp only [parse, Option.bind_eq_bind, Option.bind_some, expect_cons, if_true,
    number_padded 4 (by decide) (Nat.zero_le year) hyear,
    number_padded 2 (by decide) hmonth hmonth',
    number_padded 2 (Nat.lt_of_le_of_lt (daysIn_le year month) (by decide)) hday hday',
    number_padded 2 (by decide) (Nat.zero_le _) hhour,
    number_padded 2 (by decide) (Nat.zero_le _) hmin,
    number_padded 2 (by decide) (Nat.zero_le _) hsec]
  rw [hdays]
  congr 1
  omega

/-! ## White space -/

theorem isWhiteSpace_of_isDigit {c : Char} (h : c.isDigit = true) : isWhiteSpace c = false := by
  have hrange : 48 ≤ c.toNat ∧ c.toNat ≤ 57 := by
    simpa [Char.isDigit, UInt32.le_iff_toNat_le] using h
  simp only [isWhiteSpace, Bool.or_eq_false_iff, Bool.and_eq_false_iff, decide_eq_false_iff_not,
    beq_eq_false_iff_ne]
  omega

/-- A text without white space, as all numbers are. -/
theorem isWhiteSpace_of_mem_padded {width n : Nat} {c : Char} (h : c ∈ padded width n) :
    isWhiteSpace c = false :=
  isWhiteSpace_of_isDigit (List.all_eq_true.mp (all_isDigit_padded width n) c h)

theorem isWhiteSpace_of_mem_formatYear {year : Int} {c : Char} (h : c ∈ formatYear year) :
    isWhiteSpace c = false := by
  have hnumber : ∀ n, c ∈ atLeast 4 n → isWhiteSpace c = false := by
    intro n hc
    unfold atLeast at hc
    split_ifs at hc
    · exact isWhiteSpace_of_mem_padded hc
    · exact isWhiteSpace_of_isDigit (Nat.isDigit_of_mem_toDigits (by decide) (by decide) hc)
  unfold formatYear at h
  split_ifs at h
  · rcases List.mem_cons.mp h with rfl | h
    · rfl
    · exact hnumber _ h
  · exact hnumber _ h

theorem format_ne_nil (sec : Int) : format sec ≠ [] := by
  unfold format
  exact List.append_ne_nil_of_right_ne_nil _ (List.cons_ne_nil _ _)

/-- **A time is written without white space around it.** -/
theorem trimSpace_format (sec : Int) : trimSpace (format sec) = format sec := by
  have hnone : ∀ c ∈ format sec, isWhiteSpace c = false := by
    intro c hc
    simp only [format, List.mem_append, List.mem_cons, List.not_mem_nil, or_false] at hc
    rcases hc with h | rfl | h | rfl | h | rfl | h | rfl | h | rfl | h | rfl
    · exact isWhiteSpace_of_mem_formatYear h
    all_goals first | rfl | exact isWhiteSpace_of_mem_padded h
  refine trimSpace_eq_self (fun c hc => hnone c ?_) fun c hc => hnone c ?_
  · exact List.mem_of_mem_head? hc
  · exact List.mem_of_getLast? hc

end Roboat.Rfc3339
