import Mathlib.Tactic.IntervalCases
import TagSchema.Predicate.Iso
import TagSchema.Proofs.Number.Literal
import TagSchema.Proofs.Pattern.Iso
import TagSchema.Proofs.Text.Fields

/-!
# Days of the calendar

The pattern of dates tells leap years and the lengths of months by pairs of digits. It matches the
days of the Gregorian calendar, each in one spelling: `date_matches_days`.
-/

namespace TagSchema.Calendar

variable {y m d : Nat}

def IsLeap (y : Nat) : Prop := 4 ∣ y ∧ (¬ 100 ∣ y ∨ 400 ∣ y)

/-- The year has the month, and the month has the day. -/
def IsDay (y m d : Nat) : Prop :=
  (1 ≤ m ∧ m ≤ 12) ∧ 1 ≤ d ∧
    (m ∈ [1, 3, 5, 7, 8, 10, 12] ∧ d ≤ 31 ∨ m ∈ [4, 6, 9, 11] ∧ d ≤ 30 ∨
      m = 2 ∧ (d ≤ 28 ∨ d = 29 ∧ IsLeap y))

theorem isLeapYear_iff : isLeapYear y = true ↔ IsLeap y := by
  simp only [isLeapYear, IsLeap, Bool.and_eq_true, Bool.or_eq_true, beq_iff_eq, bne_iff_ne, ne_eq,
    Nat.dvd_iff_mod_eq_zero]

theorem isValid_iff : (Date.mk y m d).isValid = true ↔ IsDay y m d := by
  have month : (Date.mk y m d).isValid = true → 1 ≤ m ∧ m ≤ 12 := Date.month_of_isValid
  rw [← and_iff_right_of_imp month, Date.isValid, Bool.and_eq_true, decide_eq_true_eq,
    decide_eq_true_eq, IsDay, ← isLeapYear_iff]
  refine and_congr_right ?_
  rintro ⟨low, high⟩
  refine and_congr_right fun _ => ?_
  interval_cases m
  case «2» =>
    cases leap : isLeapYear y <;> simp [daysInMonth, leap]
    omega
  all_goals simp [daysInMonth]

/-- Every year has the day, or it is the leap day. -/
theorem isDay_iff : IsDay y m d ↔ (∀ y, IsDay y m d) ∨ m = 2 ∧ d = 29 ∧ IsLeap y := by
  constructor
  · rintro ⟨month, first, long | short | ⟨rfl, last | leap⟩⟩
    · exact .inl fun _ => ⟨month, first, .inl long⟩
    · exact .inl fun _ => ⟨month, first, .inr (.inl short)⟩
    · exact .inl fun _ => ⟨month, first, .inr (.inr ⟨rfl, .inl last⟩)⟩
    · exact .inr ⟨rfl, leap⟩
  · rintro (yearly | ⟨rfl, rfl, leap⟩)
    · exact yearly y
    · exact ⟨by decide, by decide, .inr (.inr ⟨rfl, .inr ⟨rfl, leap⟩⟩)⟩

theorem isDay_yearly_iff : (∀ y, IsDay y m d) ↔
    m ∈ [1, 3, 5, 7, 8, 10, 12] ∧ (1 ≤ d ∧ d ≤ 31) ∨ m ∈ [4, 6, 9, 11] ∧ (1 ≤ d ∧ d ≤ 30) ∨
      m = 2 ∧ 1 ≤ d ∧ d ≤ 28 := by
  -- The year 1 has no leap day, so that it has the days of every year only.
  have common : ¬ IsLeap 1 := by
    rintro ⟨four, -⟩
    omega
  simp only [IsDay, List.mem_cons, List.not_mem_nil, or_false]
  constructor
  · intro yearly
    have := yearly 1
    simp only [common, and_false, or_false] at this
    omega
  · rintro (⟨month, first, last⟩ | ⟨month, first, last⟩ | ⟨rfl, first, last⟩) y
    · exact ⟨by omega, first, .inl ⟨month, last⟩⟩
    · exact ⟨by omega, first, .inr (.inl ⟨month, last⟩)⟩
    · exact ⟨by decide, first, .inr (.inr ⟨rfl, .inl last⟩)⟩

end TagSchema.Calendar

namespace TagSchema.Pattern

open Regex Number Calendar

variable {u : List Char}

/-! ### Pairs of digits -/

/-- As many digits as `width`, and what they say. -/
def IsNumeral (width n : Nat) (u : List Char) : Prop :=
  u.length = width ∧ (∀ c ∈ u, c.isDigit = true) ∧ Nat.ofDigitChars 10 u 0 = n

theorem isNumeral_append {w v n : Nat} : IsNumeral (w + v) n u ↔
    ∃ s t, u = s ++ t ∧ ∃ k l, IsNumeral w k s ∧ IsNumeral v l t ∧ n = 10 ^ v * k + l := by
  constructor
  · rintro ⟨whole, digits, rfl⟩
    obtain ⟨s, t, rfl, front⟩ : ∃ s t, u = s ++ t ∧ s.length = w :=
      ⟨u.take w, u.drop w, (List.take_append_drop w u).symm, by rw [List.length_take]; omega⟩
    rw [List.length_append, front, Nat.add_left_cancel_iff] at whole
    rw [List.forall_mem_append] at digits
    refine ⟨s, t, rfl, _, _, ⟨front, digits.1, rfl⟩, ⟨whole, digits.2, rfl⟩, ?_⟩
    rw [Nat.ofDigitChars_append, Nat.ofDigitChars_eq_ofDigitChars_zero, whole]
  · rintro ⟨s, t, rfl, _, _, ⟨rfl, digits, rfl⟩, ⟨rfl, digits', rfl⟩, rfl⟩
    refine ⟨List.length_append, List.forall_mem_append.mpr ⟨digits, digits'⟩, ?_⟩
    rw [Nat.ofDigitChars_append, Nat.ofDigitChars_eq_ofDigitChars_zero]

/-- The two digits of a number below a hundred. -/
def pair (n : Nat) : List Char := [(n / 10).digitChar, (n % 10).digitChar]

theorem isNumeral_two {n : Nat} : IsNumeral 2 n u ↔ n < 100 ∧ u = pair n := by
  constructor
  · rintro ⟨two, digits, rfl⟩
    obtain ⟨a, b, rfl⟩ := List.length_eq_two.mp two
    simp only [List.forall_mem_cons, Char.isDigit_iff_toNat, Char.reduceToNat] at digits
    rw [Nat.ofDigitChars_cons, Nat.ofDigitChars_cons, Nat.ofDigitChars_nil, pair,
      List.cons_eq_cons, List.cons_eq_cons, ← Char.toNat_inj, ← Char.toNat_inj]
    simp only [Char.reduceToNat, and_true]
    rw [Nat.toNat_digitChar_of_lt_ten (by omega), Nat.toNat_digitChar_of_lt_ten (by omega)]
    omega
  · rintro ⟨small, rfl⟩
    have tens : n / 10 < 10 := by omega
    have units : n % 10 < 10 := by omega
    refine ⟨rfl, ?_, ?_⟩
    · simp only [pair, List.forall_mem_cons, Nat.isDigit_digitChar, tens, units]
      simp
    · rw [pair, Nat.ofDigitChars_cons_digitChar_of_lt_ten tens,
        Nat.ofDigitChars_cons_digitChar_of_lt_ten units, Nat.ofDigitChars_nil]
      omega

/-- The pattern matches the pairs of digits that write a number with the property. -/
def MatchesPairs (r : Regex) (P : Nat → Prop) : Prop :=
  ∀ u, u ∈ r.language ↔ ∃ n, IsNumeral 2 n u ∧ P n

theorem MatchesPairs.of_words {r : Regex} {P : Nat → Prop} {ws : List (List Char)}
    (listed : r.words = some ws) (only : ∀ w ∈ ws, ∃ n < 100, P n ∧ w = pair n)
    (all : ∀ n < 100, P n → pair n ∈ ws) : MatchesPairs r P := by
  intro u
  simp only [mem_words listed, isNumeral_two]
  constructor
  · intro member
    obtain ⟨n, small, holds, rfl⟩ := only u member
    exact ⟨n, ⟨small, rfl⟩, holds⟩
  · rintro ⟨n, ⟨small, rfl⟩, holds⟩
    exact all n small holds

/-! ### Days and months -/

theorem pairs_days : MatchesPairs dayTo28 (fun n => 1 ≤ n ∧ n ≤ 28) ∧
    MatchesPairs (dayTo (.single '0')) (fun n => 1 ≤ n ∧ n ≤ 30) ∧
    MatchesPairs (dayTo (.range '0' '1')) (fun n => 1 ≤ n ∧ n ≤ 31) :=
  ⟨.of_words rfl (by decide +kernel) (by decide +kernel),
    .of_words rfl (by decide +kernel) (by decide +kernel),
    .of_words rfl (by decide +kernel) (by decide +kernel)⟩

theorem pairs_months :
    MatchesPairs ((char '0' ++ chars (.oneOf ['1', '3', '5', '7', '8'])) |||
      (char '1' ++ chars (.oneOf ['0', '2']))) (· ∈ [1, 3, 5, 7, 8, 10, 12]) ∧
    MatchesPairs ((char '0' ++ chars (.oneOf ['4', '6', '9'])) ||| text "11")
      (· ∈ [4, 6, 9, 11]) :=
  ⟨.of_words rfl (by decide +kernel) (by decide +kernel),
    .of_words rfl (by decide +kernel) (by decide +kernel)⟩

theorem mem_monthDay : u ∈ monthDay.language ↔ ∃ ms ds, u = ms ++ '-' :: ds ∧
    ∃ m d, IsNumeral 2 m ms ∧ IsNumeral 2 d ds ∧ ∀ y, IsDay y m d := by
  simp only [monthDay, mem_anyOf, List.exists_mem_cons_iff, mem_append_char_append,
    pairs_months.1 _, pairs_months.2 _, pairs_days.1 _, pairs_days.2.1 _, pairs_days.2.2 _,
    mem_append (a := text _), mem_text, isDay_yearly_iff, List.not_mem_nil, false_and,
    exists_false, or_false]
  constructor
  · rintro (⟨ms, ds, rfl, ⟨m, month, long⟩, d, day, bounds⟩ |
      ⟨ms, ds, rfl, ⟨m, month, short⟩, d, day, bounds⟩ | ⟨_, rfl, ds, ⟨d, day, bounds⟩, rfl⟩)
    · exact ⟨ms, ds, rfl, m, d, month, day, .inl ⟨long, bounds⟩⟩
    · exact ⟨ms, ds, rfl, m, d, month, day, .inr (.inl ⟨short, bounds⟩)⟩
    · exact ⟨pair 2, ds, rfl, 2, d, isNumeral_two.mpr ⟨by decide, rfl⟩, day,
        .inr (.inr ⟨rfl, bounds⟩)⟩
  · rintro ⟨ms, ds, rfl, m, d, month, day, ⟨long, bounds⟩ | ⟨short, bounds⟩ | ⟨rfl, bounds⟩⟩
    · exact .inl ⟨ms, ds, rfl, ⟨m, month, long⟩, d, day, bounds⟩
    · exact .inr (.inl ⟨ms, ds, rfl, ⟨m, month, short⟩, d, day, bounds⟩)
    · obtain ⟨-, rfl⟩ := isNumeral_two.mp month
      exact .inr (.inr ⟨_, rfl, ds, ⟨d, day, bounds⟩, rfl⟩)

/-! ### Years -/

theorem mem_numeral {n : Nat} : u ∈ (digits n).language ↔ ∃ k, IsNumeral n k u := by
  simp only [mem_digits, IsNumeral, exists_and_left, exists_eq', and_true]

/-- Years after the century, and centuries, by the remainders that make a leap year. -/
theorem pairs_years :
    MatchesPairs (anyOf [
      chars (.oneOf ['2', '4', '6', '8']) ++ chars (.oneOf ['0', '4', '8']),
      chars (.oneOf ['1', '3', '5', '7', '9']) ++ chars (.oneOf ['2', '6']),
      char '0' ++ chars (.oneOf ['4', '8'])]) (fun n => 4 ∣ n ∧ ¬ 100 ∣ n) ∧
    MatchesPairs ((chars (.oneOf ['0', '2', '4', '6', '8']) ++ chars (.oneOf ['0', '4', '8'])) |||
      (chars (.oneOf ['1', '3', '5', '7', '9']) ++ chars (.oneOf ['2', '6']))) (4 ∣ ·) :=
  ⟨.of_words rfl (by decide +kernel) (by decide +kernel),
    .of_words rfl (by decide +kernel) (by decide +kernel)⟩

theorem mem_ordinaryLeapYear :
    u ∈ ordinaryLeapYear.language ↔ ∃ y, IsNumeral 4 y u ∧ 4 ∣ y ∧ ¬ 100 ∣ y := by
  simp only [ordinaryLeapYear, mem_append, mem_numeral, pairs_years.1 _,
    isNumeral_append (w := 2) (v := 2)]
  constructor
  · rintro ⟨s, ⟨k, century⟩, t, ⟨l, year, divides, not_divides⟩, rfl⟩
    exact ⟨_, ⟨s, t, rfl, k, l, century, year, rfl⟩, by omega, by omega⟩
  · rintro ⟨_, ⟨s, t, rfl, k, l, century, year, rfl⟩, divides, not_divides⟩
    exact ⟨s, ⟨k, century⟩, t, ⟨l, year, by omega, by omega⟩, rfl⟩

theorem mem_centuryLeapYear :
    u ∈ centuryLeapYear.language ↔ ∃ y, IsNumeral 4 y u ∧ 400 ∣ y := by
  simp only [centuryLeapYear, mem_append (b := text _), mem_text, pairs_years.2 _,
    isNumeral_append (w := 2) (v := 2)]
  constructor
  · rintro ⟨s, ⟨k, century, divides⟩, _, rfl, rfl⟩
    exact ⟨_, ⟨s, _, rfl, k, 0, century, isNumeral_two.mpr ⟨by decide, rfl⟩, rfl⟩, by omega⟩
  · rintro ⟨_, ⟨s, t, rfl, k, l, century, year, rfl⟩, divides⟩
    obtain ⟨small, rfl⟩ := isNumeral_two.mp year
    obtain rfl : l = 0 := by omega
    exact ⟨s, ⟨k, century, by omega⟩, _, rfl, rfl⟩

/-! ### Dates -/

/-- The year, month and day in four, two and two digits, with hyphens between them. -/
def Writes (u : List Char) (date : Date) : Prop :=
  ∃ ys ms ds, u = ys ++ '-' :: ms ++ '-' :: ds ∧ IsNumeral 4 date.year ys ∧
    IsNumeral 2 date.month ms ∧ IsNumeral 2 date.day ds

theorem mem_leapDay {r : Regex} {P : Nat → Prop}
    (year : ∀ s, s ∈ r.language ↔ ∃ y, IsNumeral 4 y s ∧ P y) :
    u ∈ (r ++ text "-02-29").language ↔ ∃ y, P y ∧ Writes u ⟨y, 2, 29⟩ := by
  simp only [mem_append, mem_text, year, exists_eq_left, Writes, isNumeral_two]
  constructor
  · rintro ⟨ys, ⟨y, spelled, holds⟩, rfl⟩
    exact ⟨y, holds, ys, _, _, by simp [pair], spelled, ⟨by decide, rfl⟩, by decide, rfl⟩
  · rintro ⟨y, holds, ys, _, _, rfl, spelled, ⟨-, rfl⟩, -, rfl⟩
    exact ⟨ys, ⟨y, spelled, holds⟩, by simp [pair]⟩

theorem mem_date : u ∈ dateText.language ↔
    ∃ date : Date, IsDay date.year date.month date.day ∧ Writes u date := by
  simp only [dateText, mem_anyOf, List.exists_mem_cons_iff,
    mem_leapDay fun _ => mem_ordinaryLeapYear, mem_leapDay fun _ => mem_centuryLeapYear,
    mem_append_char_append, mem_numeral, mem_monthDay, List.not_mem_nil, false_and, exists_false,
    or_false]
  have leapDay {y : Nat} (leap : IsLeap y) : IsDay y 2 29 := isDay_iff.mpr (.inr ⟨rfl, rfl, leap⟩)
  constructor
  · rintro (⟨y, ⟨four, century⟩, written⟩ | ⟨y, leap, written⟩ |
      ⟨ys, _, rfl, ⟨y, year⟩, ms, ds, rfl, m, d, month, day, yearly⟩)
    · exact ⟨_, leapDay ⟨four, .inl century⟩, written⟩
    · exact ⟨_, leapDay ⟨Nat.dvd_trans (by decide) leap, .inr leap⟩, written⟩
    · exact ⟨⟨y, m, d⟩, yearly y, ys, ms, ds, by simp, year, month, day⟩
  · rintro ⟨⟨y, m, d⟩, isDay, written⟩
    -- A leap day is matched by the alternative of its year: 100 divides only the second kind.
    rcases isDay_iff.mp isDay with yearly | ⟨rfl, rfl, four, century | leap⟩
    · obtain ⟨ys, ms, ds, rfl, year, month, day⟩ := written
      exact .inr (.inr ⟨ys, _, by simp, ⟨y, year⟩, ms, ds, rfl, m, d, month, day, yearly⟩)
    · exact .inl ⟨y, ⟨four, century⟩, written⟩
    · exact .inr (.inl ⟨y, leap, written⟩)

theorem IsNumeral.readNat {width n : Nat} (numeral : IsNumeral width n u) (positive : 0 < width) :
    readNat 10 u = some n := by
  obtain ⟨length, digits, rfl⟩ := numeral
  exact readNat_eq (List.ne_nil_of_length_pos (length ▸ positive)) digits

theorem IsNumeral.not_mem {width n : Nat} (numeral : IsNumeral width n u) : '-' ∉ u :=
  fun member => absurd (numeral.2.1 _ member) (by decide)

theorem Writes.namesDay {date : Date} (written : Writes u date)
    (isDay : IsDay date.year date.month date.day) : Predicate.namesDay u = true := by
  obtain ⟨ys, ms, ds, rfl, year, month, day⟩ := written
  have fields : Text.fields '-' (ys ++ '-' :: ms ++ '-' :: ds) = [ys, ms, ds] := by
    rw [Text.fields_append, Text.fields_append, Text.fields_of_not_mem year.not_mem,
      Text.fields_of_not_mem month.not_mem, Text.fields_of_not_mem day.not_mem]
    rfl
  rw [Predicate.namesDay, fields]
  simp only [year.readNat (by decide), month.readNat (by decide), day.readNat (by decide)]
  exact isValid_iff.mpr isDay

end TagSchema.Pattern

namespace TagSchema.Predicate

open Pattern Calendar

/-- The pattern of dates matches the days of the calendar in their one spelling, so that reading
the day never refuses what the pattern matches. -/
theorem date_matches_days :
    (∀ s : String, Pattern.date.isMatch s = true ↔
      ∃ date : Date, IsDay date.year date.month date.day ∧ Writes s.toList date) ∧
    (∀ s : String, Pattern.date.isMatch s = true → namesDay s.toList = true) ∧
    ∀ v, isoDate v = matchesPattern v Pattern.date := by
  have known (s : String) : Pattern.date.isMatch s = true ↔
      ∃ date : Date, IsDay date.year date.month date.day ∧ Writes s.toList date :=
    (Regex.isMatch_whole rfl).trans mem_date
  have named (s : String) (found : Pattern.date.isMatch s = true) :
      namesDay s.toList = true := by
    obtain ⟨date, isDay, written⟩ := (known s).mp found
    exact written.namesDay isDay
  refine ⟨known, named, fun v => ?_⟩
  rw [isoDate, matchesPattern]
  refine congrArg (v.string?.any ·) (funext fun s => ?_)
  rw [Bool.eq_iff_iff, Bool.and_eq_true]
  exact and_iff_left_of_imp (named s)

end TagSchema.Predicate
