/-
Weeks: `calc_weekday` and `calc_week` of `sql/sql_time.cc`.

`calc_week` numbers the week of a date by the weekday of its year's New Year's Day: the week
holding New Year's Day is week 1 if it has four days of the new year (or, with
`WEEK_FIRST_WEEKDAY`, if New Year's Day starts it), and otherwise the first days of January
belong to the last week of the year before, which is week 0, or is counted in the year before
when `WEEK_YEAR` is set. With `WEEK_YEAR` a week of 52 weeks of days or more after the start of
week 1 may also be week 1 of the next year. With `WEEK_MONDAY_FIRST | WEEK_YEAR` this is the
ISO 8601 week and week-year of `Gregorian`, and in every mode the week is at most 53.
-/

import MariaDB.Temporal.Daynr
import MariaDB.Sql.IntArith

namespace MariaDB.Temporal

open Gregorian

/-! ### The functions -/

/-- `WEEK_MONDAY_FIRST`: the week starts on Monday, not Sunday. -/
def weekMondayFirst : ℕ := 1

/-- `WEEK_YEAR`: weeks are counted in the year they belong to, from 1. -/
def weekYear : ℕ := 2

/-- `WEEK_FIRST_WEEKDAY`: week 1 is the one that starts with the first first day of the week. -/
def weekFirstWeekday : ℕ := 4

/-- `calc_weekday`: 0 for Monday, or for Sunday when the week starts on Sunday. -/
def calcWeekday (daynr : ℤ) (sundayFirstDayOfWeek : Bool) : ℤ :=
  (daynr + 5 + if sundayFirstDayOfWeek then 1 else 0).tmod 7

/-- The test `calc_week` makes on the weekday of a New Year's Day: whether the days of January
before the first first day of the week belong to the last week of the year before. -/
def firstDaysBefore (firstWeekday : Bool) (weekday : ℕ) : Bool :=
  (firstWeekday && weekday != 0) || (!firstWeekday && decide (weekday ≥ 4))

/-- The `days` of `calc_week`: from the first day of week 1 to the day, computed in `ulong` and
kept in a `uint`. -/
def weekDays (daynr firstDaynr weekday : ℕ) (firstWeekday : Bool) : ℕ :=
  if firstDaysBefore firstWeekday weekday then
    (((daynr : ℤ) - (firstDaynr + (7 - weekday) : ℕ)) % 2 ^ 32).toNat
  else (((daynr : ℤ) - ((firstDaynr : ℤ) - weekday)) % 2 ^ 32).toNat

/-- The end of `calc_week`, once the year, its `first_daynr`, the weekday of that day and
`week_year` are settled: with `week_year`, a day 52 weeks or more after the start of week 1 is
in week 1 of the next year when that year's first days are not in the year before. The week and
the year. -/
def calcWeekEnd (daynr year firstDaynr weekday : ℕ) (weekYear firstWeekday : Bool) : ℕ × ℕ :=
  if weekYear = true ∧ weekDays daynr firstDaynr weekday firstWeekday ≥ 52 * 7 ∧
      ((firstWeekday = false ∧ (weekday + calcDaysInYear year) % 7 < 4) ∨
        (firstWeekday = true ∧ (weekday + calcDaysInYear year) % 7 = 0)) then
    (1, (year + 1) % 2 ^ 32)
  else (weekDays daynr firstDaynr weekday firstWeekday / 7 + 1, year)

/-- `calc_week` from the day numbers of the date and of its New Year's Day and the weekday of
the latter: a day of January before the first week 1 is in week 0, or, with `week_year`, is
counted from the year before. -/
def calcWeekFrom (year month day daynr firstDaynr weekday : ℕ) (weekYear firstWeekday : Bool) :
    ℕ × ℕ :=
  if month = 1 ∧ day ≤ 7 - weekday then
    if weekYear = false ∧ firstDaysBefore firstWeekday weekday = true then (0, year)
    else
      calcWeekEnd daynr ((year + 2 ^ 32 - 1) % 2 ^ 32)
        (Sql.toULonglong (firstDaynr - calcDaysInYear ((year + 2 ^ 32 - 1) % 2 ^ 32)))
        ((weekday + 53 * 7 - calcDaysInYear ((year + 2 ^ 32 - 1) % 2 ^ 32)) % 7) true firstWeekday
  else calcWeekEnd daynr year firstDaynr weekday weekYear firstWeekday

/-- `calc_week`: the week of the date and the year it is counted in, by the flags of
`week_behaviour`. -/
def calcWeek (lTime : MysqlTime) (weekBehaviour : ℕ) : ℕ × ℕ :=
  calcWeekFrom lTime.year lTime.month lTime.day
    (Sql.toULonglong (calcDaynr lTime.year lTime.month lTime.day))
    (Sql.toULonglong (calcDaynr lTime.year 1 1))
    (calcWeekday (Sql.toULonglong (calcDaynr lTime.year 1 1))
      (weekBehaviour &&& weekMondayFirst = 0)).toNat
    (weekBehaviour &&& weekYear ≠ 0) (weekBehaviour &&& weekFirstWeekday ≠ 0)

/-! ### On the calendar -/

theorem calcDaysInYear_cases (year : ℕ) : calcDaysInYear year = 365 ∨ calcDaysInYear year = 366 := by
  unfold calcDaysInYear
  split <;> simp

/-- New Year's Day as a day number. -/
theorem calcDaynr_newYear {year : ℕ} (positive : 1 ≤ year) :
    calcDaynr year 1 1 = 366 + daysBeforeYear year := by
  have newYear : Date.Valid ⟨year, 1, 1⟩ :=
    ⟨positive, le_rfl, show 1 ≤ 12 by decide, le_rfl, monthLength_pos _ _⟩
  rw [calcDaynr_eq_ordinal newYear, Date.ordinal]
  simp only [daysBeforeMonth_one]
  push_cast
  ring

theorem calcWeekday_of_nonneg {daynr : ℤ} (nonneg : 0 ≤ daynr) (sundayFirst : Bool) :
    calcWeekday daynr sundayFirst = (daynr + 5 + if sundayFirst then 1 else 0) % 7 := by
  rw [calcWeekday, Int.tmod_eq_emod_of_nonneg (by split <;> omega)]

/-- A date of the calendar up to 9999-12-31 has a day number below that of 10000-01-01. -/
theorem ordinal_le_of_le {date : Date} (valid : date.Valid) (bounded : date.year ≤ 9999) :
    date.ordinal ≤ 3652059 := by
  have dayOfYear := valid.dayOfYear_le
  have lastYear := daysBeforeYear_le_daysBeforeYear (Nat.le_add_left 1 date.year)
    (show date.year + 1 ≤ 10000 by omega)
  rw [daysBeforeYear_tenThousand, daysBeforeYear_succ valid.year] at lastYear
  unfold Date.ordinal
  omega

/-- `calc_week` of a date of the calendar, on its day number and its year's New Year's Day. -/
theorem calcWeek_eq {lTime : MysqlTime} (valid : Date.Valid ⟨lTime.year, lTime.month, lTime.day⟩)
    (bounded : lTime.year ≤ 9999) (weekBehaviour : ℕ) :
    calcWeek lTime weekBehaviour =
      calcWeekFrom lTime.year lTime.month lTime.day
        (365 + Date.ordinal ⟨lTime.year, lTime.month, lTime.day⟩)
        (366 + daysBeforeYear lTime.year)
        ((366 + daysBeforeYear lTime.year + 5 +
          if weekBehaviour &&& weekMondayFirst = 0 then 1 else 0) % 7)
        (weekBehaviour &&& weekYear ≠ 0) (weekBehaviour &&& weekFirstWeekday ≠ 0) := by
  have ordinalLe := ordinal_le_of_le valid bounded
  have newYearLe : daysBeforeYear lTime.year < Date.ordinal ⟨lTime.year, lTime.month, lTime.day⟩ :=
    Date.ordinal_gt_daysBeforeYear valid
  unfold calcWeek
  rw [calcDaynr_eq_ordinal valid, calcDaynr_newYear valid.year,
    show (365 : ℤ) + (Date.ordinal ⟨lTime.year, lTime.month, lTime.day⟩ : ℕ) =
      ((365 + Date.ordinal ⟨lTime.year, lTime.month, lTime.day⟩ : ℕ) : ℤ) by push_cast; ring,
    show (366 : ℤ) + (daysBeforeYear lTime.year : ℕ) =
      ((366 + daysBeforeYear lTime.year : ℕ) : ℤ) by push_cast; ring,
    Sql.toULonglong_natCast (by omega),
    Sql.toULonglong_natCast (by omega), calcWeekday_of_nonneg (by positivity)]
  congr 1
  by_cases sundayFirst : weekBehaviour &&& weekMondayFirst = 0 <;> simp [sundayFirst] <;> omega

/-! ### The days from week 1 -/

/-- The day number of the first day of week 1 in `calc_week`: the first day of the week of New
Year's Day, or the first one after it when the days before it belong to the year before. -/
def weekStart (firstDaynr weekday : ℕ) (firstWeekday : Bool) : ℕ :=
  if firstDaysBefore firstWeekday weekday then firstDaynr + (7 - weekday) else firstDaynr - weekday

/-- The first days of January are in week 1 only when New Year's Day is one of the first four
days of the week. -/
theorem lt_four_of_firstDaysBefore {firstWeekday : Bool} {weekday : ℕ}
    (notBefore : firstDaysBefore firstWeekday weekday = false) : weekday < 4 := by
  cases firstWeekday <;> simp [firstDaysBefore] at notBefore <;> omega

/-- Without `WEEK_FIRST_WEEKDAY`, week 1 starts on the first day of the week before New Year's
Day when that is one of the first four days, and after it otherwise. -/
theorem weekStart_false (firstDaynr weekday : ℕ) :
    weekStart firstDaynr weekday false =
      if 4 ≤ weekday then firstDaynr + (7 - weekday) else firstDaynr - weekday := by
  simp [weekStart, firstDaysBefore]

/-- The `days` of `calc_week` on a day from the start of week 1: no wrap-around. -/
theorem weekDays_eq {daynr firstDaynr weekday : ℕ} {firstWeekday : Bool}
    (le : weekday < 4 → weekday ≤ firstDaynr)
    (start : weekStart firstDaynr weekday firstWeekday ≤ daynr) (small : daynr < 2 ^ 32) :
    weekDays daynr firstDaynr weekday firstWeekday =
      daynr - weekStart firstDaynr weekday firstWeekday := by
  unfold weekDays weekStart at *
  split_ifs at * with before
  · omega
  · have := lt_four_of_firstDaysBefore (Bool.of_not_eq_true before)
    omega

/-! ### ISO 8601 weeks -/

/-- `calc_week` in ISO mode, from the week 1 of a year to the end of the week of the next New
Year's Day: week 1 of the next year from its start, and the weeks from this year's week 1
before it. -/
theorem calcWeekEnd_iso {daynr year firstDaynr weekday : ℕ} (weekdayLt : weekday < 7)
    (le : weekday < 4 → weekday ≤ firstDaynr) (small : daynr < 2 ^ 32)
    (start : weekStart firstDaynr weekday false ≤ daynr)
    (stop : daynr < firstDaynr + calcDaysInYear year + (7 - (weekday + calcDaysInYear year) % 7)) :
    calcWeekEnd daynr year firstDaynr weekday true false =
      if weekStart (firstDaynr + calcDaysInYear year)
          ((weekday + calcDaysInYear year) % 7) false ≤ daynr then (1, (year + 1) % 2 ^ 32)
      else ((daynr - weekStart firstDaynr weekday false) / 7 + 1, year) := by
  have length := calcDaysInYear_cases year
  -- the next year's week 1 starts 52 weeks after this one's exactly when the test holds
  have nextYear : (daynr - weekStart firstDaynr weekday false ≥ 52 * 7 ∧
      (weekday + calcDaysInYear year) % 7 < 4) ↔
      weekStart (firstDaynr + calcDaysInYear year)
        ((weekday + calcDaysInYear year) % 7) false ≤ daynr := by
    rw [weekStart_false, weekStart_false] at *
    constructor <;> split_ifs at * <;> omega
  rw [calcWeekEnd, weekDays_eq le start small]
  simp only [true_and, Bool.false_eq_true, false_and, or_false, nextYear]

/-- Week 1 of a year starts on the ISO Monday of the calendar. -/
theorem weekStart_newYear {year firstDaynr weekday : ℕ}
    (first : firstDaynr = 366 + daysBeforeYear year) (weekdayEq : weekday = (firstDaynr + 5) % 7) :
    weekStart firstDaynr weekday false = 365 + isoYearStart year := by
  rw [weekStart_false]
  unfold isoYearStart weekMonday Gregorian.weekday
  split_ifs <;> omega

/-- `calc_week` in ISO mode on the calendar: a day from the start of week 1 of a year to the
end of the week of the next New Year's Day is in week 1 of the next year from that week's start,
and in an ISO week of the year before it. -/
theorem calcWeekEnd_isoYear {n year firstDaynr weekday : ℕ} (positive : 1 ≤ year)
    (bounded : year ≤ 9999) (first : firstDaynr = 366 + daysBeforeYear year)
    (weekdayEq : weekday = (firstDaynr + 5) % 7) (start : isoYearStart year ≤ n)
    (stop : n < weekMonday (daysBeforeYear (year + 1) + 1) + 7) :
    calcWeekEnd (365 + n) year firstDaynr weekday true false =
      if isoYearStart (year + 1) ≤ n then (1, year + 1)
      else ((n - isoYearStart year) / 7 + 1, year) := by
  have next := daysBeforeYear_succ positive
  rw [← calcDaysInYear_eq_yearLength positive] at next
  have lastYear := daysBeforeYear_le_daysBeforeYear (Nat.le_add_left 1 year)
    (show year + 1 ≤ 10000 by omega)
  rw [daysBeforeYear_tenThousand] at lastYear
  have thisYear := weekStart_newYear first weekdayEq
  have nextYear : weekStart (firstDaynr + calcDaysInYear year)
      ((weekday + calcDaysInYear year) % 7) false = 365 + isoYearStart (year + 1) :=
    weekStart_newYear (by omega) (by omega)
  unfold weekMonday Gregorian.weekday at stop
  have started : weekStart firstDaynr weekday false ≤ 365 + n := by
    rw [thisYear]
    omega
  rw [calcWeekEnd_iso (by omega) (by omega) (by omega) started (by omega), thisYear, nextYear]
  simp only [Nat.add_le_add_iff_left, Nat.add_sub_add_left,
    Nat.mod_eq_of_lt (show year + 1 < 2 ^ 32 by omega)]

/-- `calc_week` in ISO mode on a date of the calendar: the ISO week and week-year of the date. -/
theorem calcWeekFrom_isoWeek {date : Date} (valid : date.Valid) (bounded : date.year ≤ 9999) :
    IsIsoWeek date.ordinal
      (calcWeekFrom date.year date.month date.day (365 + date.ordinal)
        (366 + daysBeforeYear date.year) ((366 + daysBeforeYear date.year + 5) % 7) true false).2
      (calcWeekFrom date.year date.month date.day (365 + date.ordinal)
        (366 + daysBeforeYear date.year) ((366 + daysBeforeYear date.year + 5) % 7) true false).1 := by
  have ordinalLe := ordinal_le_of_le valid bounded
  obtain ⟨year, month, day⟩ := date
  have dayOfYear := valid.dayOfYear_le
  obtain ⟨yearPos, monthPos, monthLe, dayPos, dayLe⟩ := valid
  simp only [Date.ordinal] at yearPos monthPos monthLe dayPos dayLe dayOfYear bounded ordinalLe ⊢
  have next := daysBeforeYear_succ yearPos
  rw [← calcDaysInYear_eq_yearLength yearPos] at next dayOfYear
  have length := calcDaysInYear_cases year
  have later : 2 ≤ month → 31 ≤ daysBeforeMonth year month := daysBeforeMonth_two_le year
  by_cases early : month = 1 ∧ day ≤ 7 - (366 + daysBeforeYear year + 5) % 7
  · -- the first days of January, counted from the year before
    have january : daysBeforeMonth year month = 0 := by
      rw [early.1]
      rfl
    have previousYear : (year + 2 ^ 32 - 1) % 2 ^ 32 = year - 1 := by omega
    have firstDaynr : Sql.toULonglong (((366 + daysBeforeYear year : ℕ) : ℤ) -
        (calcDaysInYear (year - 1) : ℕ)) = 366 + daysBeforeYear year - calcDaysInYear (year - 1) := by
      have := calcDaysInYear_cases (year - 1)
      rw [← Nat.cast_sub (by omega), Sql.toULonglong_natCast (by omega)]
    rw [calcWeekFrom, if_pos early, if_neg (by simp), previousYear, firstDaynr]
    rcases Nat.lt_or_ge year 2 with first | second
    · -- the year 1, whose New Year's Day is a Monday, starts its week 1
      obtain rfl : year = 1 := by omega
      have newYear : daysBeforeYear 1 = 0 := rfl
      have yearZero : calcDaysInYear 0 = 365 := rfl
      simp only [newYear, january, Nat.add_zero, Nat.zero_add, Nat.reduceAdd, Nat.reduceMod,
        Nat.reduceMul, Nat.reduceSub, yearZero] at early ⊢
      have weekOne : weekStart (1 + calcDaysInYear 0) ((6 + calcDaysInYear 0) % 7) false ≤ 365 + day :=
        show 366 ≤ 365 + day by omega
      rw [calcWeekEnd_iso (by decide) (by decide) (by omega) (show 2 ≤ 365 + day by omega)
        (show 365 + day < 373 by omega), if_pos weekOne]
      exact isIsoWeek_one le_rfl (show 1 ≤ day by omega) (show day < 8 by omega)
    · obtain ⟨previous, rfl⟩ : ∃ previous, year = previous + 1 := ⟨year - 1, by omega⟩
      have before := daysBeforeYear_succ (show 1 ≤ previous by omega)
      rw [← calcDaysInYear_eq_yearLength (show 1 ≤ previous by omega)] at before
      have lengthBefore := calcDaysInYear_cases previous
      have start : isoYearStart previous ≤
          daysBeforeYear (previous + 1) + daysBeforeMonth (previous + 1) month + day := by
        unfold isoYearStart weekMonday Gregorian.weekday
        omega
      have stop : daysBeforeYear (previous + 1) + daysBeforeMonth (previous + 1) month + day <
          weekMonday (daysBeforeYear (previous + 1) + 1) + 7 := by
        unfold weekMonday Gregorian.weekday
        omega
      rw [Nat.add_sub_cancel, calcWeekEnd_isoYear (by omega) (by omega) (by omega) (by omega) start
        stop]
      split_ifs with thisYear
      · -- week 1 of the date's year
        show IsIsoWeek _ (previous + 1) 1
        refine isIsoWeek_one yearPos thisYear ?_
        unfold isoYearStart weekMonday Gregorian.weekday
        omega
      · -- the last week of the year before
        exact isIsoWeek_of_le_of_lt start (not_le.mp thisYear)
  · have start : isoYearStart year ≤ daysBeforeYear year + daysBeforeMonth year month + day := by
      unfold isoYearStart weekMonday Gregorian.weekday
      omega
    have stop : daysBeforeYear year + daysBeforeMonth year month + day <
        weekMonday (daysBeforeYear (year + 1) + 1) + 7 := by
      unfold weekMonday Gregorian.weekday
      omega
    rw [calcWeekFrom, if_neg early, calcWeekEnd_isoYear yearPos bounded rfl rfl start stop]
    split_ifs with nextWeek
    · -- the last days of December in week 1 of the next year
      show IsIsoWeek _ (year + 1) 1
      refine isIsoWeek_one (Nat.le_add_left 1 year) nextWeek ?_
      unfold isoYearStart weekMonday Gregorian.weekday
      omega
    · exact isIsoWeek_of_le_of_lt start (not_le.mp nextWeek)

/-! ### The range of the week -/

theorem calcWeekEnd_fst_pos (daynr year firstDaynr weekday : ℕ) (weekYear firstWeekday : Bool) :
    1 ≤ (calcWeekEnd daynr year firstDaynr weekday weekYear firstWeekday).1 := by
  unfold calcWeekEnd
  split_ifs <;> simp

theorem calcWeekEnd_fst_le {daynr year firstDaynr weekday : ℕ} {weekYear firstWeekday : Bool}
    (days : weekDays daynr firstDaynr weekday firstWeekday ≤ 52 * 7 + 6) :
    (calcWeekEnd daynr year firstDaynr weekday weekYear firstWeekday).1 ≤ 53 := by
  unfold calcWeekEnd
  split_ifs
  · simp
  · dsimp only
    omega

/-- The week `calc_week` gives a date of the calendar is at most 53, and at least 1 with
`week_year`: week 0 is given only to the first days of January without it. -/
theorem calcWeekFrom_range {date : Date} (valid : date.Valid) (bounded : date.year ≤ 9999)
    {weekday shift : ℕ} {weekYear firstWeekday : Bool}
    (weekdayEq : weekday = (366 + daysBeforeYear date.year + 5 + shift) % 7) (shiftLe : shift ≤ 1) :
    (calcWeekFrom date.year date.month date.day (365 + date.ordinal)
        (366 + daysBeforeYear date.year) weekday weekYear firstWeekday).1 ≤ 53 ∧
      (weekYear = true → 1 ≤ (calcWeekFrom date.year date.month date.day (365 + date.ordinal)
        (366 + daysBeforeYear date.year) weekday weekYear firstWeekday).1) := by
  have ordinalLe := ordinal_le_of_le valid bounded
  obtain ⟨year, month, day⟩ := date
  have dayOfYear := valid.dayOfYear_le
  obtain ⟨positive, monthPos, monthLe, dayPos, dayLe⟩ := valid
  simp only [Date.ordinal] at positive monthPos monthLe dayPos dayLe dayOfYear bounded ordinalLe ⊢
  simp only at weekdayEq
  rw [← calcDaysInYear_eq_yearLength positive] at dayOfYear
  have later : 2 ≤ month → 31 ≤ daysBeforeMonth year month := daysBeforeMonth_two_le year
  have january : month = 1 → daysBeforeMonth year month = 0 := by
    rintro rfl
    rfl
  have length := calcDaysInYear_cases year
  have lengthBefore := calcDaysInYear_cases (year - 1)
  -- New Year's Day of the year 1 is a Monday, and the years after it start a year later
  have firstYear : year = 1 ∧ daysBeforeYear year = 0 ∨ 365 ≤ daysBeforeYear year := by
    rcases Nat.lt_or_ge year 2 with first | second
    · left
      obtain rfl : year = 1 := by omega
      exact ⟨rfl, rfl⟩
    · right
      exact daysBeforeYear_le_daysBeforeYear (show 1 ≤ 2 by decide) second
  by_cases early : month = 1 ∧ day ≤ 7 - weekday
  · rw [calcWeekFrom, if_pos early]
    split_ifs with weekZero
    · -- week 0, without `week_year`
      simp [weekZero.1]
    · -- the first days of January, counted from the year before
      have previousYear : (year + 2 ^ 32 - 1) % 2 ^ 32 = year - 1 := by omega
      have firstDaynr : Sql.toULonglong (((366 + daysBeforeYear year : ℕ) : ℤ) -
          (calcDaysInYear (year - 1) : ℕ)) =
          366 + daysBeforeYear year - calcDaysInYear (year - 1) := by
        rw [← Nat.cast_sub (by omega), Sql.toULonglong_natCast (by omega)]
      rw [previousYear, firstDaynr]
      refine ⟨calcWeekEnd_fst_le ?_, fun _ => calcWeekEnd_fst_pos _ _ _ _ _ _⟩
      rw [weekDays_eq (by omega) (by unfold weekStart; split_ifs <;> omega) (by omega)]
      unfold weekStart firstDaysBefore
      cases firstWeekday <;> simp only [Bool.false_and, Bool.true_and, Bool.not_false,
        Bool.not_true, Bool.false_or, Bool.or_false, bne_iff_ne, ne_eq, decide_eq_true_eq] <;>
        split_ifs <;> omega
  · rw [calcWeekFrom, if_neg early]
    refine ⟨calcWeekEnd_fst_le ?_, fun _ => calcWeekEnd_fst_pos _ _ _ _ _ _⟩
    rw [weekDays_eq (by omega) (by unfold weekStart; split_ifs <;> omega) (by omega)]
    unfold weekStart firstDaysBefore
    cases firstWeekday <;> simp only [Bool.false_and, Bool.true_and, Bool.not_false,
      Bool.not_true, Bool.false_or, Bool.or_false, bne_iff_ne, ne_eq, decide_eq_true_eq] <;>
      split_ifs <;> omega

/-! ### `calc_week` -/

/-- `calc_week` with `WEEK_MONDAY_FIRST | WEEK_YEAR` gives the ISO 8601 week and week-year of
every date from 0001-01-01 to 9999-12-31, and in every mode a week from 0 to 53, from 1 with
`WEEK_YEAR`. -/
theorem calcWeek_isoWeek_range :
    (∀ lTime : MysqlTime, Date.Valid ⟨lTime.year, lTime.month, lTime.day⟩ →
      lTime.year ≤ 9999 →
      IsIsoWeek (Date.ordinal ⟨lTime.year, lTime.month, lTime.day⟩)
        (calcWeek lTime (weekMondayFirst ||| weekYear)).2
        (calcWeek lTime (weekMondayFirst ||| weekYear)).1) ∧
    (∀ lTime : MysqlTime, Date.Valid ⟨lTime.year, lTime.month, lTime.day⟩ →
      lTime.year ≤ 9999 → ∀ weekBehaviour : ℕ,
      (calcWeek lTime weekBehaviour).1 ≤ 53 ∧
        (weekBehaviour &&& weekYear ≠ 0 → 1 ≤ (calcWeek lTime weekBehaviour).1)) := by
  refine ⟨fun lTime valid bounded => ?_, fun lTime valid bounded weekBehaviour => ?_⟩
  · -- the ISO mode: the week starts on Monday, and the weeks are counted in their own year
    have mondayFirst : (weekMondayFirst ||| weekYear) &&& weekMondayFirst ≠ 0 := by decide
    have isoFlags : decide ((weekMondayFirst ||| weekYear) &&& weekYear ≠ 0) = true ∧
        decide ((weekMondayFirst ||| weekYear) &&& weekFirstWeekday ≠ 0) = false := by decide
    rw [calcWeek_eq valid bounded, if_neg mondayFirst, Nat.add_zero]
    simp only [isoFlags.1, isoFlags.2]
    exact calcWeekFrom_isoWeek valid bounded
  · rw [calcWeek_eq valid bounded]
    refine (calcWeekFrom_range valid bounded rfl (by split <;> omega)).imp_right ?_
    intro weekOne weekYearSet
    exact weekOne (by simpa using weekYearSet)

/-- The ISO week of the leap day 2000-02-29 is week 9 of 2000, and the day's week is in range in
the mode that counts weeks from Sunday. -/
theorem calcWeek_isoWeek_range_leapDay :
    Date.Valid ⟨2000, 2, 29⟩ ∧ IsIsoWeek (Date.ordinal ⟨2000, 2, 29⟩)
      (calcWeek ⟨2000, 2, 29, 0, 0, 0, 0, false, .date⟩ (weekMondayFirst ||| weekYear)).2
      (calcWeek ⟨2000, 2, 29, 0, 0, 0, 0, false, .date⟩ (weekMondayFirst ||| weekYear)).1 ∧
      (calcWeek ⟨2000, 2, 29, 0, 0, 0, 0, false, .date⟩ 0).1 ≤ 53 :=
  ⟨by decide, calcWeek_isoWeek_range.1 ⟨2000, 2, 29, 0, 0, 0, 0, false, .date⟩ (by decide) (by decide),
    (calcWeek_isoWeek_range.2 ⟨2000, 2, 29, 0, 0, 0, 0, false, .date⟩ (by decide) (by decide) 0).1⟩

end MariaDB.Temporal
