/-
The proleptic Gregorian calendar.

A year is a leap year when it is divisible by 4, unless it is divisible by 100 and not by 400;
February has 29 days in a leap year and 28 otherwise. A date is a year from 1 on, a month from 1
to 12 and a day of that month, and its ordinal counts the days from 0001-01-01, which is day 1.
The ordinal of the day after a date is one more, the days before a year have a closed form, and
every positive number is the ordinal of a date. Weeks run from Monday to Sunday, and an ISO 8601
week belongs to the year of its Thursday.
-/

import Mathlib.Tactic.IntervalCases

namespace Gregorian

/-! ### Years and months -/

/-- A leap year: divisible by 4, and by 400 when divisible by 100. -/
def IsLeap (year : ℕ) : Prop := year % 4 = 0 ∧ (year % 100 ≠ 0 ∨ year % 400 = 0)

instance : DecidablePred IsLeap := fun _ => inferInstanceAs (Decidable (_ ∧ _))

/-- The days of a year. -/
def yearLength (year : ℕ) : ℕ := if IsLeap year then 366 else 365

/-- The days of a month from 1 to 12. -/
def monthLength (year month : ℕ) : ℕ :=
  if month = 2 then (if IsLeap year then 29 else 28)
  else if month = 4 ∨ month = 6 ∨ month = 9 ∨ month = 11 then 30
  else 31

/-- The days of the years from 1 to `year - 1`. -/
def daysBeforeYear : ℕ → ℕ
  | 0 => 0
  | 1 => 0
  | year + 2 => daysBeforeYear (year + 1) + yearLength (year + 1)

/-- The days of the months from 1 to `month - 1` of a year. -/
def daysBeforeMonth (year : ℕ) : ℕ → ℕ
  | 0 => 0
  | 1 => 0
  | month + 2 => daysBeforeMonth year (month + 1) + monthLength year (month + 1)

/-- The leap years from 1 to `year`: the multiples of 4, less those of 100, with those of
400. -/
def leapYearsUpTo (year : ℕ) : ℕ := year / 4 - year / 100 + year / 400

theorem yearLength_eq (year : ℕ) : yearLength year = 365 + if IsLeap year then 1 else 0 := by
  unfold yearLength
  split_ifs <;> rfl

theorem leapYearsUpTo_succ (year : ℕ) :
    leapYearsUpTo (year + 1) = leapYearsUpTo year + if IsLeap (year + 1) then 1 else 0 := by
  unfold leapYearsUpTo
  by_cases leap : IsLeap (year + 1)
  · rw [if_pos leap]
    unfold IsLeap at leap
    omega
  · rw [if_neg leap]
    unfold IsLeap at leap
    omega

theorem monthLength_pos (year month : ℕ) : 0 < monthLength year month := by
  unfold monthLength
  split_ifs <;> omega

theorem daysBeforeYear_succ {year : ℕ} (positive : 1 ≤ year) :
    daysBeforeYear (year + 1) = daysBeforeYear year + yearLength year := by
  obtain ⟨year, rfl⟩ : ∃ previous, year = previous + 1 := ⟨year - 1, by omega⟩
  rfl

@[simp] theorem daysBeforeMonth_one (year : ℕ) : daysBeforeMonth year 1 = 0 := rfl

theorem daysBeforeMonth_succ (year : ℕ) {month : ℕ} (positive : 1 ≤ month) :
    daysBeforeMonth year (month + 1) = daysBeforeMonth year month + monthLength year month := by
  obtain ⟨month, rfl⟩ : ∃ previous, month = previous + 1 := ⟨month - 1, by omega⟩
  rfl

/-- The twelve months make the year. -/
theorem daysBeforeMonth_thirteen (year : ℕ) : daysBeforeMonth year 13 = yearLength year := by
  by_cases leap : IsLeap year <;> simp [daysBeforeMonth, monthLength, yearLength, leap]

/-- The days before a year: 365 for each year, and one for each leap year. -/
theorem daysBeforeYear_eq {year : ℕ} (positive : 1 ≤ year) :
    daysBeforeYear year = 365 * (year - 1) + leapYearsUpTo (year - 1) := by
  induction year, positive using Nat.le_induction with
  | base => rfl
  | succ year positive inductionHypothesis =>
    obtain ⟨previous, rfl⟩ : ∃ previous, year = previous + 1 := ⟨year - 1, by omega⟩
    rw [daysBeforeYear_succ positive, inductionHypothesis, yearLength_eq, Nat.add_sub_cancel,
      Nat.add_sub_cancel, leapYearsUpTo_succ]
    omega

theorem daysBeforeYear_le_daysBeforeYear {year year' : ℕ} (positive : 1 ≤ year)
    (le : year ≤ year') : daysBeforeYear year ≤ daysBeforeYear year' := by
  induction year', le using Nat.le_induction with
  | base => exact le_rfl
  | succ year' le inductionHypothesis =>
    rw [daysBeforeYear_succ (le_trans positive le)]
    omega

theorem daysBeforeMonth_le_daysBeforeMonth (year : ℕ) {month month' : ℕ} (positive : 1 ≤ month)
    (le : month ≤ month') : daysBeforeMonth year month ≤ daysBeforeMonth year month' := by
  induction month', le using Nat.le_induction with
  | base => exact le_rfl
  | succ month' le inductionHypothesis =>
    rw [daysBeforeMonth_succ year (le_trans positive le)]
    omega

/-- The months from February on follow the 31 days of January. -/
theorem daysBeforeMonth_two_le (year : ℕ) {month : ℕ} (second : 2 ≤ month) :
    31 ≤ daysBeforeMonth year month :=
  daysBeforeMonth_le_daysBeforeMonth year (show 1 ≤ 2 by decide) second

/-! ### Dates -/

/-- A date of the calendar, valid or not. -/
structure Date where
  year : ℕ
  month : ℕ
  day : ℕ
  deriving DecidableEq, Repr

/-- A date of the calendar: from the year 1 on, a month from 1 to 12, and a day of that month. -/
structure Date.Valid (date : Date) : Prop where
  year : 1 ≤ date.year
  monthPos : 1 ≤ date.month
  monthLe : date.month ≤ 12
  dayPos : 1 ≤ date.day
  dayLe : date.day ≤ monthLength date.year date.month

instance (date : Date) : Decidable date.Valid :=
  decidable_of_iff (1 ≤ date.year ∧ 1 ≤ date.month ∧ date.month ≤ 12 ∧ 1 ≤ date.day ∧
      date.day ≤ monthLength date.year date.month)
    ⟨fun ⟨year, monthPos, monthLe, dayPos, dayLe⟩ => ⟨year, monthPos, monthLe, dayPos, dayLe⟩,
      fun ⟨year, monthPos, monthLe, dayPos, dayLe⟩ => ⟨year, monthPos, monthLe, dayPos, dayLe⟩⟩

/-- The day after a date: the next day of the month, or the first of the next month, or New
Year's Day. -/
def Date.next (date : Date) : Date :=
  if date.day < monthLength date.year date.month then ⟨date.year, date.month, date.day + 1⟩
  else if date.month < 12 then ⟨date.year, date.month + 1, 1⟩
  else ⟨date.year + 1, 1, 1⟩

/-- The number of a date, 0001-01-01 being day 1. -/
def Date.ordinal (date : Date) : ℕ :=
  daysBeforeYear date.year + daysBeforeMonth date.year date.month + date.day

section Next

theorem Date.Valid.next {date : Date} (valid : date.Valid) : date.next.Valid := by
  obtain ⟨year, month, day⟩ := date
  obtain ⟨yearPos, monthPos, monthLe, dayPos, dayLe⟩ := valid
  unfold Date.next
  split_ifs with inMonth inYear
  · exact ⟨yearPos, monthPos, monthLe, Nat.succ_pos day, inMonth⟩
  · exact ⟨yearPos, Nat.succ_pos month, inYear, le_rfl, monthLength_pos _ _⟩
  · exact ⟨Nat.succ_pos year, le_rfl, show 1 ≤ 12 by decide, le_rfl, monthLength_pos _ _⟩

/-- The day after a date has the next number. -/
theorem Date.ordinal_next {date : Date} (valid : date.Valid) :
    date.next.ordinal = date.ordinal + 1 := by
  obtain ⟨year, month, day⟩ := date
  obtain ⟨yearPos, monthPos, monthLe, dayPos, dayLe⟩ := valid
  simp only at yearPos monthPos monthLe dayPos dayLe
  unfold Date.next
  dsimp only
  split_ifs with inMonth inYear
  · -- the next day of the month
    simp only [Date.ordinal]
    omega
  · -- the first of the next month, after the last day of this one
    simp only [Date.ordinal]
    rw [daysBeforeMonth_succ _ monthPos]
    omega
  · -- New Year's Day, after 31 December
    have december : month = 12 := by omega
    subst december
    have yearEnd := daysBeforeMonth_succ year monthPos
    rw [daysBeforeMonth_thirteen] at yearEnd
    simp only [Date.ordinal, daysBeforeYear_succ yearPos, daysBeforeMonth_one]
    omega

end Next

/-- The day of the year of a date is at most the length of its year. -/
theorem Date.Valid.dayOfYear_le {date : Date} (valid : date.Valid) :
    daysBeforeMonth date.year date.month + date.day ≤ yearLength date.year := by
  have dayLe := valid.dayLe
  have later := daysBeforeMonth_le_daysBeforeMonth date.year (Nat.succ_pos date.month)
    (show date.month + 1 ≤ 13 by have := valid.monthLe; omega)
  rw [daysBeforeMonth_succ _ valid.monthPos, daysBeforeMonth_thirteen] at later
  omega

theorem Date.ordinal_gt_daysBeforeYear {date : Date} (valid : date.Valid) :
    daysBeforeYear date.year < date.ordinal := by
  have dayPos := valid.dayPos
  unfold Date.ordinal
  omega

/-- Every positive number is the number of a date. -/
theorem Date.exists_ordinal_eq {n : ℕ} (positive : 1 ≤ n) : ∃ date : Date, date.Valid ∧ date.ordinal = n := by
  induction n, positive using Nat.le_induction with
  | base => exact ⟨⟨1, 1, 1⟩, by decide, rfl⟩
  | succ n _ inductionHypothesis =>
    obtain ⟨date, valid, ordinal⟩ := inductionHypothesis
    exact ⟨date.next, valid.next, by rw [Date.ordinal_next valid, ordinal]⟩

/-! ### Weeks -/

/-- The day of the week of the day numbered `n`, Monday being 0: 0001-01-01 was a Monday. -/
def weekday (n : ℕ) : ℕ := (n + 6) % 7

/-- The Thursday of the week, from Monday to Sunday, of the day numbered `n`. -/
def weekThursday (n : ℕ) : ℕ := n - weekday n + 3

/-- The ISO 8601 week of the day numbered `n`: a week belongs to the year of its Thursday, and
the weeks of a year are numbered from the one that holds its first Thursday. -/
def IsIsoWeek (n weekYear week : ℕ) : Prop :=
  daysBeforeYear weekYear < weekThursday n ∧ weekThursday n ≤ daysBeforeYear (weekYear + 1) ∧
    week = (weekThursday n - daysBeforeYear weekYear - 1) / 7 + 1

instance (n weekYear week : ℕ) : Decidable (IsIsoWeek n weekYear week) :=
  inferInstanceAs (Decidable (_ ∧ _ ∧ _))

/-- The Monday of the week of the day numbered `n`. -/
def weekMonday (n : ℕ) : ℕ := n - weekday n

/-- The Monday that starts week 1 of a year: the Monday of the week of its 4 January, the
first week with four days of the year. -/
def isoYearStart (year : ℕ) : ℕ := weekMonday (daysBeforeYear year + 4)

/-- The weeks from the Monday of week 1 of a year to that of the next are the ISO weeks of the
year, numbered from 1. -/
theorem isIsoWeek_of_le_of_lt {n year : ℕ} (start : isoYearStart year ≤ n)
    (stop : n < isoYearStart (year + 1)) :
    IsIsoWeek n year ((n - isoYearStart year) / 7 + 1) := by
  unfold IsIsoWeek weekThursday
  unfold isoYearStart weekMonday weekday at *
  refine ⟨?_, ?_, ?_⟩ <;> omega

/-- A year has 52 weeks at least. -/
theorem isoYearStart_add_le {year : ℕ} (positive : 1 ≤ year) :
    isoYearStart year + 52 * 7 ≤ isoYearStart (year + 1) := by
  have length := yearLength_eq year
  rw [isoYearStart, isoYearStart, daysBeforeYear_succ positive]
  unfold weekMonday weekday
  split_ifs at length <;> omega

/-- The days of the week that starts on the Monday of week 1 are in week 1. -/
theorem isIsoWeek_one {n year : ℕ} (positive : 1 ≤ year) (start : isoYearStart year ≤ n)
    (first : n < isoYearStart year + 7) : IsIsoWeek n year 1 := by
  have weeks := isoYearStart_add_le positive
  have week := isIsoWeek_of_le_of_lt start (by omega)
  rwa [Nat.div_eq_of_lt (by omega)] at week

end Gregorian
