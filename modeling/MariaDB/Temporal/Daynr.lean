/-
Day numbers: `calc_daynr` of `sql-common/my_time.c` and `get_date_from_daynr` of
`sql/sql_time.cc`.

`calc_daynr` counts the days since 0000-00-00 in closed form: 365 a year, 31 a month less a
correction `(4 * month + 23) / 10` after February, and the leap days of the years up to the
previous one for January and February. On a date of the proleptic Gregorian calendar it is the
ordinal of `Gregorian` shifted by the 365 days of the year 0, which MariaDB does not count as a
leap year. `get_date_from_daynr` guesses the year as `daynr * 100 / 36525`, never after the
right one, moves on by whole years in its `while` loop, then takes off whole months with the
leap day set apart; it inverts `calc_daynr` on every date from 0001-01-01 to 9999-12-31.
-/

import MariaDB.Temporal.Text
import MariaDB.Library.Gregorian

namespace MariaDB.Temporal

open Gregorian

/-! ### The functions -/

/-- The year whose leap days `calc_daynr` counts: the one before for January and February, whose
leap day is still to come. It is `-1` in January of the year 0. -/
def daynrYear (year month : ℕ) : ℤ := if month ≤ 2 then (year : ℤ) - 1 else year

/-- `calc_daynr`: the days since 0000-00-00, with C's `/` truncating towards zero. Years are
taken where `int` does not overflow. -/
def calcDaynr (year month day : ℕ) : ℤ :=
  if year = 0 ∧ month = 0 then 0
  else
    365 * (year : ℤ) + 31 * ((month : ℤ) - 1) + day -
        (if month ≤ 2 then 0 else ((month : ℤ) * 4 + 23).tdiv 10) +
      (daynrYear year month).tdiv 4 - (((daynrYear year month).tdiv 100 + 1) * 3).tdiv 4

/-- `MAX_DAY_NUMBER`, the day number of 9999-12-31. -/
def maxDayNumber : ℤ := 3652424

/-- The day of the year `get_date_from_daynr` starts from for the year it guesses, computed in
`uint`; the guessed year is at least 1. -/
def startDayOfYear (daynr : ℤ) (year : ℕ) : ℕ :=
  ((daynr - year * 365 - ((year - 1) / 4 : ℕ) + (((year - 1) / 100 + 1) * 3 / 4 : ℕ)) %
    2 ^ 32).toNat

/-- The `while` loop of `get_date_from_daynr`: whole years come off the day of the year. -/
def yearsLoop (year dayOfYear : ℕ) : ℕ × ℕ :=
  if dayOfYear > calcDaysInYear year then
    yearsLoop (year + 1) (dayOfYear - calcDaysInYear year)
  else (year, dayOfYear)
termination_by dayOfYear
decreasing_by
  have long : 365 ≤ calcDaysInYear year := by
    unfold calcDaysInYear
    split <;> omega
  omega

/-- The leap day of `get_date_from_daynr`: in a year of 366 days the days after 28 February
move back by one, and `leap_day` marks 29 February itself. The day of the year and
`leap_day`. -/
def leapDayStep (daysInYear dayOfYear : ℕ) : ℕ × ℕ :=
  if daysInYear = 366 ∧ dayOfYear > 31 + 28 then
    (dayOfYear - 1, if dayOfYear - 1 = 31 + 28 then 1 else 0)
  else (dayOfYear, 0)

/-- The `for` loop of `get_date_from_daynr` over `days_in_month`: whole months come off the day
of the year. The month and the day of the month. A day of the year stops at the latest at the
`0` that ends `days_in_month`; past it the C loop would read outside the array. -/
def monthsLoop (dayOfYear month : ℕ) : List ℕ → ℕ × ℕ
  | [] => (month, dayOfYear)
  | days :: rest =>
    if dayOfYear > days then monthsLoop (dayOfYear - days) (month + 1) rest
    else (month, dayOfYear)

/-- The end of `get_date_from_daynr` for the year and the day of the year its `while` loop
leaves: the month and the day. -/
def monthAndDay (year dayOfYear : ℕ) : ℕ × ℕ :=
  match leapDayStep (calcDaysInYear year) dayOfYear with
  | (shifted, leapDay) =>
    match monthsLoop shifted 1 daysInMonth with
    | (month, day) => (month, day + leapDay)

/-- `get_date_from_daynr`: `none` for the error return, or the year, the month and the day. -/
def getDateFromDaynr (daynr : ℤ) : Option (ℕ × ℕ × ℕ) :=
  if daynr < 366 ∨ daynr > maxDayNumber then none
  else
    match yearsLoop ((daynr * 100).tdiv 36525).toNat
        (startDayOfYear daynr ((daynr * 100).tdiv 36525).toNat) with
    | (year, dayOfYear) => some (year, monthAndDay year dayOfYear)

/-! ### `calc_daynr` on the calendar -/

theorem isLeap_iff (year : ℕ) :
    IsLeap year ↔ year % 4 = 0 ∧ (year % 100 ≠ 0 ∨ year % 400 = 0) := Iff.rfl

/-- From the year 1 on, `calc_days_in_year` is the length of the year. -/
theorem calcDaysInYear_eq_yearLength {year : ℕ} (positive : 1 ≤ year) :
    calcDaysInYear year = yearLength year := by
  unfold calcDaysInYear yearLength
  by_cases leap : IsLeap year
  · rw [if_pos leap, if_pos (by rw [isLeap_iff] at leap; omega)]
  · rw [if_neg leap, if_neg (by rw [isLeap_iff] at leap; omega)]

/-- The days before a month as `calc_daynr` counts them: 31 a month, less the correction
`(4 * month + 23) / 10` after February, and the leap day after February of a leap year. -/
theorem daysBeforeMonth_add_correction (year : ℕ) {month : ℕ} (positive : 1 ≤ month)
    (le : month ≤ 12) :
    daysBeforeMonth year month + (if month ≤ 2 then 0 else (month * 4 + 23) / 10) =
      31 * (month - 1) + if 2 < month ∧ IsLeap year then 1 else 0 := by
  interval_cases month <;> by_cases leap : IsLeap year <;>
    simp [daysBeforeMonth, monthLength, leap]

/-- The leap days `calc_daynr` counts up to a year `y ≥ 0`: `y / 4`, less its `temp`, which
takes off the multiples of 100 and gives back those of 400. -/
theorem leapDays_tdiv {y : ℤ} (nonneg : 0 ≤ y) :
    y.tdiv 4 - ((y.tdiv 100 + 1) * 3).tdiv 4 = leapYearsUpTo y.toNat := by
  obtain ⟨n, rfl⟩ : ∃ n : ℕ, y = n := ⟨y.toNat, by omega⟩
  simp (disch := omega) only [Int.tdiv_eq_ediv_of_nonneg]
  rw [Int.toNat_natCast, leapYearsUpTo]
  omega

/-- On a date of the calendar `calc_daynr` is its ordinal after the 365 days of the year 0. -/
theorem calcDaynr_eq_ordinal {date : Date} (valid : date.Valid) :
    calcDaynr date.year date.month date.day = 365 + date.ordinal := by
  obtain ⟨year, month, day⟩ := date
  obtain ⟨yearPos, monthPos, monthLe, -, -⟩ := valid
  dsimp only at yearPos monthPos monthLe ⊢
  have months := daysBeforeMonth_add_correction year monthPos monthLe
  obtain ⟨previous, rfl⟩ : ∃ previous, year = previous + 1 := ⟨year - 1, by omega⟩
  have years := daysBeforeYear_eq yearPos
  rw [Nat.add_sub_cancel] at years
  have leapBase : 0 ≤ daynrYear (previous + 1) month := by
    unfold daynrYear
    split <;> omega
  have leaps := leapDays_tdiv leapBase
  rw [calcDaynr, if_neg (show ¬ (previous + 1 = 0 ∧ month = 0) by omega), Date.ordinal]
  unfold daynrYear at leaps ⊢
  by_cases early : month ≤ 2
  · -- January and February: the leap days up to the year before
    simp only [if_pos early] at leaps months ⊢
    rw [if_neg (fun after => absurd after.1 (by omega))] at months
    rw [show ((previous + 1 : ℕ) - 1 : ℤ).toNat = previous by omega] at leaps
    omega
  · -- after February: the leap day of the year as well, if it has one
    have correction : ((month : ℤ) * 4 + 23).tdiv 10 = ((month * 4 + 23) / 10 : ℕ) := by
      rw [Int.tdiv_eq_ediv_of_nonneg (by omega)]
      omega
    simp only [if_neg early] at leaps months ⊢
    rw [Int.toNat_natCast, leapYearsUpTo_succ] at leaps
    by_cases leap : IsLeap (previous + 1)
    · rw [if_pos leap] at leaps
      rw [if_pos ⟨by omega, leap⟩] at months
      omega
    · rw [if_neg leap] at leaps
      rw [if_neg (fun after => leap after.2)] at months
      omega

theorem calcDaynr_next {date : Date} (valid : date.Valid) :
    calcDaynr date.next.year date.next.month date.next.day =
      calcDaynr date.year date.month date.day + 1 := by
  rw [calcDaynr_eq_ordinal valid.next, calcDaynr_eq_ordinal valid, Date.ordinal_next valid]
  push_cast
  ring

/-! ### `get_date_from_daynr` -/

/-- The year `get_date_from_daynr` guesses, `daynr * 100 / 36525`, is at least 1, and its New
Year's Day is not after the day: a year of 365.25 days is never shorter than a Gregorian one. -/
theorem guess_le_daynr {daynr : ℤ} (low : 366 ≤ daynr) :
    1 ≤ ((daynr * 100).tdiv 36525).toNat ∧
      366 + (daysBeforeYear ((daynr * 100).tdiv 36525).toNat : ℤ) ≤ daynr := by
  rw [Int.tdiv_eq_ediv_of_nonneg (by omega)]
  obtain ⟨k, guess⟩ : ∃ k : ℕ, (daynr * 100 / 36525).toNat = k + 1 :=
    ⟨(daynr * 100 / 36525).toNat - 1, by omega⟩
  have below : 36525 * ((k : ℤ) + 1) ≤ 100 * daynr := by omega
  rw [guess, daysBeforeYear_eq (Nat.le_add_left 1 k), Nat.add_sub_cancel, leapYearsUpTo]
  exact ⟨Nat.succ_pos k, by omega⟩

/-- From a year whose New Year's Day is not after the day, the day of the year
`get_date_from_daynr` starts from counts the days since that New Year's Eve: `temp` takes off the
multiples of 100 and gives back those of 400, and the `uint` does not wrap. -/
theorem startDayOfYear_eq {daynr : ℤ} {year : ℕ} (positive : 1 ≤ year)
    (after : 366 + (daysBeforeYear year : ℤ) ≤ daynr) (high : daynr ≤ maxDayNumber) :
    (startDayOfYear daynr year : ℤ) = daynr - 365 - daysBeforeYear year := by
  obtain ⟨k, rfl⟩ : ∃ k, year = k + 1 := ⟨year - 1, by omega⟩
  rw [daysBeforeYear_eq positive, Nat.add_sub_cancel, leapYearsUpTo] at after ⊢
  have temp : (k / 100 + 1) * 3 / 4 = k / 100 - k / 400 := by omega
  unfold startDayOfYear maxDayNumber at *
  rw [Nat.add_sub_cancel, temp]
  omega

/-- The `while` loop of `get_date_from_daynr`: started at a year not after the day's, with the
days since that year's New Year's Eve, it moves on by whole years and stops at the day's year
with the day of that year. -/
theorem yearsLoop_daysBeforeYear {year target dayOfYear : ℕ} (positive : 1 ≤ year)
    (le : year ≤ target) (dayPos : 1 ≤ dayOfYear) (dayLe : dayOfYear ≤ yearLength target) :
    yearsLoop year (daysBeforeYear target - daysBeforeYear year + dayOfYear) =
      (target, dayOfYear) := by
  obtain ⟨gap, rfl⟩ : ∃ gap, target = year + gap := ⟨target - year, by omega⟩
  -- induction on the years left, the loop invariant being the days since New Year's Eve
  induction gap generalizing year with
  | zero =>
    rw [Nat.add_zero] at dayLe ⊢
    rw [Nat.sub_self, Nat.zero_add, yearsLoop,
      if_neg (by rw [calcDaysInYear_eq_yearLength positive]; omega)]
  | succ gap inductionHypothesis =>
    have next : year + (gap + 1) = year + 1 + gap := by omega
    have later := daysBeforeYear_le_daysBeforeYear (Nat.le_add_left 1 year)
      (show year + 1 ≤ year + 1 + gap by omega)
    have step := daysBeforeYear_succ positive
    rw [next] at dayLe ⊢
    rw [yearsLoop, if_pos (by rw [calcDaysInYear_eq_yearLength positive]; omega),
      calcDaysInYear_eq_yearLength positive,
      show daysBeforeYear (year + 1 + gap) - daysBeforeYear year + dayOfYear - yearLength year =
        daysBeforeYear (year + 1 + gap) - daysBeforeYear (year + 1) + dayOfYear by omega]
    exact inductionHypothesis (Nat.le_add_left 1 year) (by omega) dayLe

/-- The `for` loop of `get_date_from_daynr` on the days of the months before one and a day of
it: that month, counted from the one the loop starts at, and the day. -/
theorem monthsLoop_take_sum {lengths : List ℕ} {index day : ℕ} (month : ℕ)
    (inside : index < lengths.length) (dayPos : 1 ≤ day) (dayLe : day ≤ lengths.getD index 0) :
    monthsLoop ((lengths.take index).sum + day) month lengths = (month + index, day) := by
  induction lengths generalizing index month with
  | nil => exact absurd inside (Nat.not_lt_zero _)
  | cons days rest inductionHypothesis =>
    cases index with
    | zero =>
      rw [List.getD_cons_zero] at dayLe
      rw [List.take_zero, List.sum_nil, Nat.zero_add, monthsLoop, if_neg (by omega)]
      rfl
    | succ index =>
      rw [List.getD_cons_succ] at dayLe
      rw [List.length_cons] at inside
      rw [List.take_succ_cons, List.sum_cons, monthsLoop, if_pos (by omega),
        show days + (rest.take index).sum + day - days = (rest.take index).sum + day by omega,
        inductionHypothesis (month + 1) (by omega) dayLe, Nat.add_right_comm, Nat.add_assoc]

/-- The days before a month are those of `days_in_month`, and the leap day after February of a
leap year. -/
theorem daysBeforeMonth_eq_take (year : ℕ) {month : ℕ} (positive : 1 ≤ month) (le : month ≤ 12) :
    daysBeforeMonth year month =
      (daysInMonth.take (month - 1)).sum + if 2 < month ∧ IsLeap year then 1 else 0 := by
  interval_cases month <;> by_cases leap : IsLeap year <;>
    simp [daysBeforeMonth, monthLength, daysInMonth, leap]

/-- The length of a month is its entry of `days_in_month`, and the leap day in February of a leap
year. -/
theorem monthLength_eq_getD (year : ℕ) {month : ℕ} (positive : 1 ≤ month) (le : month ≤ 12) :
    monthLength year month =
      daysInMonth.getD (month - 1) 0 + if month = 2 ∧ IsLeap year then 1 else 0 := by
  interval_cases month <;> by_cases leap : IsLeap year <;> simp [monthLength, daysInMonth, leap]

theorem leapDayStep_of_le {daysInYear dayOfYear : ℕ} (early : daysInYear ≠ 366 ∨ dayOfYear ≤ 59) :
    leapDayStep daysInYear dayOfYear = (dayOfYear, 0) := by
  rw [leapDayStep, if_neg (by omega)]

theorem leapDayStep_after {dayOfYear : ℕ} (after : 60 < dayOfYear) :
    leapDayStep 366 dayOfYear = (dayOfYear - 1, 0) := by
  rw [leapDayStep, if_pos ⟨rfl, by omega⟩, if_neg (by omega)]

/-- Every day of a month but 29 February is within the month's entry of `days_in_month`. -/
theorem day_le_getD {date : Date} (valid : date.Valid)
    (notLeapDay : ¬ (date.month = 2 ∧ date.day = 29)) :
    date.day ≤ daysInMonth.getD (date.month - 1) 0 := by
  have dayLe := valid.dayLe
  rw [monthLength_eq_getD _ valid.monthPos valid.monthLe] at dayLe
  split_ifs at dayLe with february
  · have dayOfFebruary : date.day ≤ 29 := by rwa [february.1] at dayLe
    rw [february.1]
    exact Nat.le_of_lt_succ (lt_of_le_of_ne dayOfFebruary fun leapDay =>
      notLeapDay ⟨february.1, leapDay⟩)
  · exact dayLe

/-- The end of `get_date_from_daynr` gives back the month and the day of the day of the year of
a date: in a leap year 29 February is the day before it with `leap_day`, and the later days are
one day back. -/
theorem monthAndDay_dayOfYear {date : Date} (valid : date.Valid) :
    monthAndDay date.year (daysBeforeMonth date.year date.month + date.day) =
      (date.month, date.day) := by
  have dayBound := day_le_getD valid
  obtain ⟨year, month, day⟩ := date
  obtain ⟨yearPos, monthPos, monthLe, dayPos, dayLe⟩ := valid
  dsimp only at yearPos monthPos monthLe dayPos dayLe dayBound ⊢
  have before := daysBeforeMonth_eq_take year monthPos monthLe
  have inside : month - 1 < daysInMonth.length := by
    rw [show daysInMonth.length = 13 from rfl]
    omega
  have counted : 1 + (month - 1) = month := by omega
  rw [monthAndDay, calcDaysInYear_eq_yearLength yearPos, yearLength]
  by_cases leap : IsLeap year
  · rw [if_pos leap]
    by_cases leapDay : month = 2 ∧ day = 29
    · -- 29 February: 28 February with `leap_day`
      obtain ⟨rfl, rfl⟩ := leapDay
      rw [before, if_neg (by omega)]
      rfl
    by_cases early : month ≤ 2
    · -- January and February: nothing to move back
      have earlyDay : (daysInMonth.take (month - 1)).sum + day ≤ 59 := by
        have bound := dayBound leapDay
        interval_cases month <;> simp [daysInMonth] at bound ⊢ <;> omega
      rw [before, if_neg (by omega), Nat.add_zero, leapDayStep_of_le (Or.inr earlyDay)]
      simp only
      rw [monthsLoop_take_sum 1 inside dayPos (dayBound leapDay), counted, Nat.add_zero]
    · -- after February: one day back
      have third := daysBeforeMonth_le_daysBeforeMonth year (show 1 ≤ 3 by decide)
        (show 3 ≤ month by omega)
      rw [daysBeforeMonth_eq_take year (show 1 ≤ 3 by decide) (show 3 ≤ 12 by decide),
        if_pos ⟨by decide, leap⟩, before, if_pos ⟨by omega, leap⟩] at third
      have march : (daysInMonth.take (3 - 1)).sum = 59 := rfl
      have lateDay : 60 < (daysInMonth.take (month - 1)).sum + 1 + day := by omega
      rw [before, if_pos ⟨by omega, leap⟩, leapDayStep_after lateDay]
      simp only
      rw [show (daysInMonth.take (month - 1)).sum + 1 + day - 1 =
          (daysInMonth.take (month - 1)).sum + day by omega,
        monthsLoop_take_sum 1 inside dayPos (dayBound leapDay), counted, Nat.add_zero]
  · -- a common year: `days_in_month` as it is
    have notLeapDay : ¬ (month = 2 ∧ day = 29) := fun leapDay => by
      rw [monthLength_eq_getD year monthPos monthLe, leapDay.1, leapDay.2] at dayLe
      simp [daysInMonth, leap] at dayLe
    rw [if_neg leap, before, if_neg (fun after => leap after.2), Nat.add_zero,
      leapDayStep_of_le (Or.inl (by decide))]
    simp only
    rw [monthsLoop_take_sum 1 inside dayPos (dayBound notLeapDay), counted, Nat.add_zero]

/-! ### The two directions -/

theorem daysBeforeYear_tenThousand : daysBeforeYear 10000 = 3652059 := by
  rw [daysBeforeYear_eq (by decide)]
  rfl

/-- `get_date_from_daynr` inverts `calc_daynr` on the dates from 0001-01-01 to 9999-12-31: the
guessed year is not after the date's, the `while` loop moves on to it, and the months and the
leap day are taken off its day of the year. -/
theorem getDateFromDaynr_calcDaynr {date : Date} (valid : date.Valid)
    (bounded : date.year ≤ 9999) :
    getDateFromDaynr (calcDaynr date.year date.month date.day) =
      some (date.year, date.month, date.day) := by
  have dayOfYear := valid.dayOfYear_le
  have dayPos := valid.dayPos
  have yearPos := valid.year
  have lastYear := daysBeforeYear_le_daysBeforeYear (Nat.le_add_left 1 date.year)
    (show date.year + 1 ≤ 10000 by omega)
  rw [daysBeforeYear_tenThousand, daysBeforeYear_succ yearPos] at lastYear
  rw [calcDaynr_eq_ordinal valid, Date.ordinal]
  have low : (366 : ℤ) ≤ 365 + ((daysBeforeYear date.year + daysBeforeMonth date.year date.month +
      date.day : ℕ) : ℤ) := by omega
  have high : 365 + ((daysBeforeYear date.year + daysBeforeMonth date.year date.month +
      date.day : ℕ) : ℤ) ≤ maxDayNumber := by
    unfold maxDayNumber
    omega
  obtain ⟨guessPos, guessBefore⟩ := guess_le_daynr low
  have start := startDayOfYear_eq guessPos guessBefore high
  rw [getDateFromDaynr, if_neg (by omega)]
  generalize (Int.tdiv ((365 + ((daysBeforeYear date.year + daysBeforeMonth date.year date.month +
      date.day : ℕ) : ℤ)) * 100) 36525).toNat = guess at guessPos guessBefore start ⊢
  -- the guess is not after the year: a later year starts after the day
  have guessLe : guess ≤ date.year := by
    by_contra after
    have := daysBeforeYear_le_daysBeforeYear (Nat.le_add_left 1 date.year)
      (show date.year + 1 ≤ guess by omega)
    rw [daysBeforeYear_succ yearPos] at this
    omega
  have earlier := daysBeforeYear_le_daysBeforeYear guessPos guessLe
  rw [show startDayOfYear _ guess = daysBeforeYear date.year - daysBeforeYear guess +
      (daysBeforeMonth date.year date.month + date.day) by omega,
    yearsLoop_daysBeforeYear guessPos guessLe (by omega) dayOfYear]
  simp only
  rw [monthAndDay_dayOfYear valid]

/-- Every day number from 0001-01-01 to 9999-12-31 is that of a date, which
`get_date_from_daynr` gives. -/
theorem getDateFromDaynr_of_le {daynr : ℤ} (low : 366 ≤ daynr) (high : daynr ≤ maxDayNumber) :
    ∃ date : Date, date.Valid ∧
      getDateFromDaynr daynr = some (date.year, date.month, date.day) ∧
      calcDaynr date.year date.month date.day = daynr := by
  obtain ⟨date, valid, ordinal⟩ := Date.exists_ordinal_eq (show 1 ≤ (daynr - 365).toNat by omega)
  have daynrEq : calcDaynr date.year date.month date.day = daynr := by
    rw [calcDaynr_eq_ordinal valid, ordinal]
    omega
  have bounded : date.year ≤ 9999 := by
    by_contra later
    have past := daysBeforeYear_le_daysBeforeYear (show 1 ≤ 10000 by decide)
      (show 10000 ≤ date.year by omega)
    have inside := Date.ordinal_gt_daysBeforeYear valid
    rw [daysBeforeYear_tenThousand] at past
    unfold maxDayNumber at high
    omega
  exact ⟨date, valid, daynrEq ▸ getDateFromDaynr_calcDaynr valid bounded, daynrEq⟩

theorem getDateFromDaynr_bijective :
    (∀ date : Date, date.Valid → date.year ≤ 9999 →
      getDateFromDaynr (calcDaynr date.year date.month date.day) =
        some (date.year, date.month, date.day)) ∧
    (∀ daynr : ℤ, 366 ≤ daynr → daynr ≤ maxDayNumber →
      ∃ date : Date, date.Valid ∧
        getDateFromDaynr daynr = some (date.year, date.month, date.day) ∧
        calcDaynr date.year date.month date.day = daynr) ∧
    (∀ date : Date, date.Valid → date.year ≤ 9999 →
      calcDaynr date.next.year date.next.month date.next.day =
        calcDaynr date.year date.month date.day + 1) :=
  ⟨fun _ valid bounded => getDateFromDaynr_calcDaynr valid bounded,
    fun _ low high => getDateFromDaynr_of_le low high,
    fun _ valid _ => calcDaynr_next valid⟩

theorem getDateFromDaynr_bijective_leapDay :
    getDateFromDaynr (calcDaynr 2000 2 29) = some (2000, 2, 29) ∧
      (∃ date : Date, date.Valid ∧
        getDateFromDaynr maxDayNumber = some (date.year, date.month, date.day) ∧
        calcDaynr date.year date.month date.day = maxDayNumber) ∧
      calcDaynr (Date.next ⟨2000, 2, 29⟩).year (Date.next ⟨2000, 2, 29⟩).month
          (Date.next ⟨2000, 2, 29⟩).day = calcDaynr 2000 2 29 + 1 :=
  ⟨getDateFromDaynr_bijective.1 ⟨2000, 2, 29⟩ (by decide) (by decide),
    getDateFromDaynr_bijective.2.1 maxDayNumber (by decide) le_rfl,
    getDateFromDaynr_bijective.2.2 ⟨2000, 2, 29⟩ (by decide) (by decide)⟩

end MariaDB.Temporal
