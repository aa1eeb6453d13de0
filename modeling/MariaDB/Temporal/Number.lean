/-
The numeric forms of temporal values in `my_time.c` and the `Sec6` readers of `sql_type.h`.

`TIME_to_ulonglong` writes a `DATETIME` as `YYYYMMDDhhmmss`, a `DATE` as `YYYYMMDD` and a `TIME`
as `hhmmss`. `number_to_datetime_or_date` reads such a number back by its size: a run of
`goto`s picks the format (`YYMMDD`, `YYYYMMDD`, `YYMMDDhhmmss` or `YYYYMMDDhhmmss`) and the
century of a two-digit year, and the label `ok:` splits the number in pairs of digits and checks
the ranges and `check_date`. `number_to_time_only` reads `hhmmss`, clamped to a largest hour.
-/

import MariaDB.Temporal.Text
import MariaDB.Temporal.Datetime

namespace MariaDB.Temporal

/-! ### Writing numbers -/

/-- `TIME_to_ulonglong_datetime`. -/
def timeToUlonglongDatetime (t : MysqlTime) : ℕ :=
  ((t.year * 10000 + t.month * 100 + t.day) * 1000000 + (t.hour * 10000 + t.minute * 100 + t.second))
    % 2 ^ 64

/-- `TIME_to_ulonglong_date`. -/
def timeToUlonglongDate (t : MysqlTime) : ℕ := (t.year * 10000 + t.month * 100 + t.day) % 2 ^ 64

/-- `TIME_to_ulonglong_time`: the days are not read. -/
def timeToUlonglongTime (t : MysqlTime) : ℕ :=
  (t.hour * 10000 + t.minute * 100 + t.second) % 2 ^ 64

/-- `TIME_to_ulonglong`. -/
def timeToUlonglong (t : MysqlTime) : ℕ :=
  match t.timeType with
  | .datetime => timeToUlonglongDatetime t
  | .date => timeToUlonglongDate t
  | .time => timeToUlonglongTime t
  | .none | .error => 0

/-! ### Reading numbers -/

/-- `YY_PART_YEAR`: two-digit years below it are in the 2000s. -/
def yyPartYear : ℕ := 70

/-- `year_2000_handling`. -/
def year2000Handling (year : ℕ) : ℕ :=
  if year + 1900 < 1900 + yyPartYear then year + 1900 + 100 else year + 1900

/-- `TIME_MAX_MINUTE`, `TIME_MAX_SECOND` and `TIME_MAX_SECOND_PART`. -/
def timeMaxMinute : ℕ := 59
def timeMaxSecond : ℕ := 59
def timeMaxSecondPart : ℕ := 999999

/-- `TIME_MAX_INTERVAL_HOUR`. -/
def timeMaxIntervalHour : ℕ := 87649415

/-- What `number_to_datetime_or_date` and `number_to_time_only` return and leave in the
`MYSQL_TIME` and in `*was_cut`. -/
structure NumberResult where
  value : ℤ
  time : MysqlTime
  wasCut : ℕ
  deriving DecidableEq, Repr

/-- The `goto`s of `number_to_datetime_or_date`: the type set when it jumps, and the number in
`YYYYMMDDhhmmss` form for `ok:` or nothing for `err:`. -/
def numberLayout (nr : ℤ) : TimestampType × Option ℤ :=
  if nr = 0 ∨ nr ≥ 10000101000000 then (.datetime, some nr)
  else if nr < 101 then (.date, none)
  -- `YYMMDD`, year 2000..2069
  else if nr ≤ ((yyPartYear - 1 : ℕ) : ℤ) * 10000 + 1231 then
    (.date, some ((nr + 20000000) * 1000000))
  else if nr < (yyPartYear : ℤ) * 10000 + 101 then (.date, none)
  -- `YYMMDD`, year 1970..1999
  else if nr ≤ 991231 then (.date, some ((nr + 19000000) * 1000000))
  else if nr < 10000101 then (.date, none)
  else if nr ≤ 99991231 then (.date, some (nr * 1000000))
  else if nr < 101000000 then (.date, none)
  -- `YYMMDDhhmmss`, year 2000..2069
  else if nr ≤ ((yyPartYear - 1 : ℕ) : ℤ) * 10000000000 + 1231235959 then
    (.datetime, some (nr + 20000000000000))
  else if nr < (yyPartYear : ℤ) * 10000000000 + 101000000 then (.datetime, none)
  -- `YYMMDDhhmmss`, year 1970..1999
  else if nr ≤ 991231235959 then (.datetime, some (nr + 19000000000000))
  else (.datetime, some nr)

/-- The fields `ok:` reads off a number in `YYYYMMDDhhmmss` form, two digits each below the
year. -/
def datetimeOfNumber (nr secPart : ℕ) (timeType : TimestampType) : MysqlTime :=
  let part1 := nr / 1000000
  let part2 := nr - part1 * 1000000
  ⟨part1 / 10000, part1 % 10000 / 100, part1 % 10000 % 100, part2 / 10000, part2 % 10000 / 100,
    part2 % 10000 % 100, secPart, false, timeType⟩

/-- The ranges `ok:` checks before `check_date`. -/
def MysqlTime.inDatetimeRange (t : MysqlTime) : Prop :=
  t.year ≤ 9999 ∧ t.month ≤ 12 ∧ t.day ≤ 31 ∧ t.hour ≤ 23 ∧ t.minute ≤ 59 ∧ t.second ≤ 59 ∧
    t.secondPart ≤ timeMaxSecondPart

instance (t : MysqlTime) : Decidable t.inDatetimeRange :=
  inferInstanceAs (Decidable (_ ∧ _))

/-- The label `ok:` of `number_to_datetime_or_date`. Every number that reaches it is `0` or above
`100`. -/
def numberToDatetimeOk (nr : ℤ) (secPart flags : ℕ) (timeType : TimestampType) : NumberResult :=
  let t := datetimeOfNumber nr.toNat secPart timeType
  -- `*was_cut` is left as `check_date` set it when only `NO_ZERO_DATE` refused a zero date
  let refused (wasCut : ℕ) : NumberResult :=
    ⟨-1, t, if nr ≠ 0 ∨ flags &&& cTimeNoZeroDate = 0 then mysqlTimeWarnTruncated else wasCut⟩
  if t.inDatetimeRange then
    match checkDate t (decide (nr ≠ 0 ∨ secPart ≠ 0)) flags 0 with
    | (false, _) =>
      -- a date with a fraction, such as `20010203.5`
      if timeType = .date ∧ secPart ≠ 0 then
        ⟨nr, { t with secondPart := 0 }, mysqlTimeNoteTruncated⟩
      else ⟨nr, t, 0⟩
    | (true, wasCut) => refused wasCut
  else refused 0

/-- `number_to_datetime_or_date`. -/
def numberToDatetimeOrDate (nr : ℤ) (secPart flags : ℕ) : NumberResult :=
  match numberLayout nr with
  | (timeType, some nr) => numberToDatetimeOk nr secPart flags timeType
  -- `err:` zeroes everything but the type
  | (timeType, none) => ⟨-1, setZeroTime timeType, mysqlTimeWarnTruncated⟩

/-- `number_to_time_only`: `hhmmss` of at most `max_hour` hours, a larger number clamped to the
largest value. -/
def numberToTimeOnly (neg : Bool) (nr secPart maxHour : ℕ) : NumberResult :=
  let timeMaxValue := (maxHour * 10000 + (timeMaxMinute * 100 + timeMaxSecond)) % 2 ^ 64
  let (nr, secPart, wasCut) :=
    if nr > timeMaxValue then (timeMaxValue, timeMaxSecondPart, mysqlTimeWarnOutOfRange)
    else (nr, secPart, 0)
  let t : MysqlTime := ⟨0, 0, 0, nr / 100 / 100 % 2 ^ 32, nr / 100 % 100, nr % 100, secPart, neg, .time⟩
  if t.minute < 60 ∧ t.second < 60 ∧ secPart ≤ timeMaxSecondPart then ⟨0, t, wasCut⟩
  else ⟨-1, t, mysqlTimeWarnTruncated⟩

/-! ### The `Sec6` readers -/

/-- `class Sec6`: a number as its sign, its integer part and its microseconds. -/
structure Sec6 where
  sec : ℕ
  usec : ℕ
  neg : Bool
  truncated : Bool
  deriving DecidableEq, Repr

/-- `TIME_MODE_FOR_XXX_TO_DATE`: the flags `number_to_datetime_or_date` understands. -/
def timeModeForXxxToDate : ℕ := cTimeNoZeroInDate ||| cTimeNoZeroDate ||| cTimeInvalidDates

/-- `TIME_TIME_ONLY`, `TIME_INTERVAL_hhmmssff` and `TIME_INTERVAL_DAY`. -/
def timeTimeOnly : ℕ := 4
def timeIntervalHhmmssff : ℕ := 8
def timeIntervalDay : ℕ := 16

/-- What a `Sec6` reader returns and leaves in `*to` and `*warn`. -/
structure Conversion6 where
  failed : Bool
  time : MysqlTime
  warn : ℕ
  deriving DecidableEq, Repr

/-- `Sec6::to_datetime_or_date`. -/
def Sec6.toDatetimeOrDate (s : Sec6) (ltime : MysqlTime) (flags : ℕ) : Conversion6 :=
  -- a negative number leaves `*to` as it was
  if s.neg then ⟨true, ltime, mysqlTimeWarnOutOfRange⟩
  else
    let r := numberToDatetimeOrDate s.sec s.usec (flags &&& timeModeForXxxToDate)
    ⟨decide (r.value = -1), r.time, r.wasCut⟩

/-- `Sec6::to_datetime_or_time`: a large non-negative number is a `DATETIME`, anything else a
`TIME` of at most `TIME_MAX_HOUR` hours. -/
def Sec6.toDatetimeOrTime (s : Sec6) (mode : ℕ) : Conversion6 :=
  if s.sec > 9999999 ∧ s.sec ≤ 99991231235959 ∧ !s.neg then
    let r := numberToDatetimeOrDate s.sec s.usec (mode &&& timeModeForXxxToDate)
    ⟨decide (r.value < 0), r.time, r.wasCut⟩
  else
    let r := numberToTimeOnly s.neg s.sec s.usec timeMaxHour
    ⟨decide (r.value ≠ 0), r.time, r.wasCut⟩

/-- `Sec6::to_interval_hhmmssff_only`. -/
def Sec6.toIntervalHhmmssffOnly (s : Sec6) : Conversion6 :=
  let r := numberToTimeOnly s.neg s.sec s.usec timeMaxIntervalHour
  ⟨decide (r.value ≠ 0), r.time, r.wasCut⟩

/-- `Sec6::to_datetime_or_to_interval_hhmmssff`: `hhhhmmss` up to `TIME_MAX_INTERVAL_HOUR` hours,
and only a `YYYYMMDDhhmmss` number above the interval range as a `DATETIME`. -/
def Sec6.toDatetimeOrToIntervalHhmmssff (s : Sec6) (ltime : MysqlTime) : Conversion6 :=
  if s.sec > 999999995959 ∧ s.sec ≤ 99991231235959 ∧ s.neg = false then
    s.toDatetimeOrDate ltime cTimeInvalidDates
  else if s.sec / 10000 > timeMaxIntervalHour then ⟨true, ltime, mysqlTimeWarnOutOfRange⟩
  else s.toIntervalHhmmssffOnly

/-- `Sec6::convert_to_mysql_time`: the reader the mode asks for, and a warning for a number the
constructor truncated. -/
def Sec6.convertToMysqlTime (s : Sec6) (ltime : MysqlTime) (fuzzydate : ℕ) : Conversion6 :=
  let c :=
    if fuzzydate &&& (timeIntervalHhmmssff ||| timeIntervalDay) ≠ 0 then
      s.toDatetimeOrToIntervalHhmmssff ltime
    else if fuzzydate &&& timeTimeOnly ≠ 0 then s.toDatetimeOrTime fuzzydate
    else s.toDatetimeOrDate ltime fuzzydate
  if s.truncated then { c with warn := c.warn ||| mysqlTimeWarnTruncated } else c

/-! ### Valid values -/

/-- The value a `DATETIME` or `DATE` with a two-digit year stands for: `year_2000_handling` puts
the years below 100 into 1970..2069. -/
def MysqlTime.withCentury (t : MysqlTime) : MysqlTime :=
  if t.year < 100 then { t with year := year2000Handling t.year } else t

/-- A valid `DATE` value: the fields of a date in range and no time of day. -/
structure ValidDate (t : MysqlTime) : Prop where
  year : t.year ≤ 9999
  month : t.month ≤ 12
  day : t.day ≤ 31
  hour : t.hour = 0
  minute : t.minute = 0
  second : t.second = 0
  secondPart : t.secondPart = 0
  neg : t.neg = false
  timeType : t.timeType = .date

theorem ValidDatetime.inDatetimeRange {dec : ℕ} {t : MysqlTime} (valid : ValidDatetime dec t) :
    t.inDatetimeRange :=
  ⟨valid.year, valid.month, valid.day, valid.hour, valid.minute, valid.second, valid.secondPart⟩

theorem ValidDate.inDatetimeRange {t : MysqlTime} (valid : ValidDate t) : t.inDatetimeRange := by
  refine ⟨valid.year, valid.month, valid.day, ?_, ?_, ?_, ?_⟩ <;>
    simp [valid.hour, valid.minute, valid.second, valid.secondPart, timeMaxSecondPart]

theorem year2000Handling_le {year : ℕ} (twoDigit : year < 100) : year2000Handling year ≤ 2069 := by
  unfold year2000Handling yyPartYear
  split <;> omega

theorem MysqlTime.inDatetimeRange.withCentury {t : MysqlTime} (range : t.inDatetimeRange) :
    t.withCentury.inDatetimeRange := by
  unfold MysqlTime.withCentury
  split
  · case isTrue twoDigit =>
    have := year2000Handling_le twoDigit
    obtain ⟨-, rest⟩ := range
    exact ⟨by simp only; omega, rest⟩
  · exact range

/-! ### `check_date` -/

/-- `check_date` leaves `*was_cut` alone when it accepts. -/
theorem checkDate_of_accepted {t : MysqlTime} {notZeroDate : Bool} {flags wasCut : ℕ}
    (accepted : (checkDate t notZeroDate flags wasCut).1 = false) :
    checkDate t notZeroDate flags wasCut = (false, wasCut) := by
  unfold checkDate at accepted ⊢
  split_ifs at accepted ⊢ <;> simp_all

/-- `check_date` reads the year only for 29 February: a date moved to a year that is a leap year
whenever the first one is, is accepted when the first one is. -/
theorem checkDate_with_year {t : MysqlTime} {year : ℕ} {notZeroDate : Bool} {flags wasCut : ℕ}
    (leap : calcDaysInYear t.year = 366 → calcDaysInYear year = 366)
    (accepted : (checkDate t notZeroDate flags wasCut).1 = false) :
    (checkDate { t with year } notZeroDate flags wasCut).1 = false := by
  unfold checkDate at accepted ⊢
  split_ifs at accepted ⊢ <;> simp_all
  grind

theorem calcDaysInYear_year2000Handling {year : ℕ} (twoDigit : year < 100)
    (leap : calcDaysInYear year = 366) : calcDaysInYear (year2000Handling year) = 366 := by
  unfold calcDaysInYear at leap ⊢
  unfold year2000Handling yyPartYear
  split_ifs at leap ⊢ <;> omega

theorem checkDate_withCentury {t : MysqlTime} {notZeroDate : Bool} {flags wasCut : ℕ}
    (accepted : (checkDate t notZeroDate flags wasCut).1 = false) :
    (checkDate t.withCentury notZeroDate flags wasCut).1 = false := by
  unfold MysqlTime.withCentury
  split
  · case isTrue twoDigit =>
    exact checkDate_with_year (calcDaysInYear_year2000Handling twoDigit) accepted
  · exact accepted

/-! ### The fields of a number -/

/-- The divisions of `ok:` take two two-digit fields off the number below them. -/
theorem hundreds_split (high : ℕ) {middle low : ℕ} (middleSmall : middle < 100)
    (lowSmall : low < 100) :
    (high * 10000 + middle * 100 + low) / 10000 = high ∧
      (high * 10000 + middle * 100 + low) % 10000 / 100 = middle ∧
      (high * 10000 + middle * 100 + low) % 10000 % 100 = low := by
  omega

theorem datetimeOfNumber_add (date : ℕ) {time : ℕ} (small : time < 1000000) (secPart : ℕ)
    (type : TimestampType) :
    datetimeOfNumber (date * 1000000 + time) secPart type =
      ⟨date / 10000, date % 10000 / 100, date % 10000 % 100, time / 10000, time % 10000 / 100,
        time % 10000 % 100, secPart, false, type⟩ := by
  have part1 : (date * 1000000 + time) / 1000000 = date := by omega
  have part2 : date * 1000000 + time - date * 1000000 = time := by omega
  simp only [datetimeOfNumber, part1, part2]

theorem timeToUlonglongDatetime_eq {t : MysqlTime} (range : t.inDatetimeRange) :
    timeToUlonglongDatetime t =
      (t.year * 10000 + t.month * 100 + t.day) * 1000000 +
        (t.hour * 10000 + t.minute * 100 + t.second) := by
  obtain ⟨year, month, day, hour, minute, second, -⟩ := range
  rw [timeToUlonglongDatetime, Nat.mod_eq_of_lt]
  omega

/-- `ok:` reads the fields of a value in range back off its number. -/
theorem datetimeOfNumber_timeToUlonglongDatetime {t : MysqlTime} (range : t.inDatetimeRange)
    (secPart : ℕ) (type : TimestampType) :
    datetimeOfNumber (timeToUlonglongDatetime t) secPart type =
      { t with secondPart := secPart, neg := false, timeType := type } := by
  rw [timeToUlonglongDatetime_eq range]
  obtain ⟨-, month, day, hour, minute, second, -⟩ := range
  obtain ⟨yearOf, monthOf, dayOf⟩ :=
    hundreds_split t.year (show t.month < 100 by omega) (show t.day < 100 by omega)
  obtain ⟨hourOf, minuteOf, secondOf⟩ :=
    hundreds_split t.hour (show t.minute < 100 by omega) (show t.second < 100 by omega)
  rw [datetimeOfNumber_add _ (by omega), yearOf, monthOf, dayOf, hourOf, minuteOf, secondOf]

theorem datetimeOfNumber_timeToUlonglongDatetime_self {t : MysqlTime} (range : t.inDatetimeRange)
    (neg : t.neg = false) :
    datetimeOfNumber (timeToUlonglongDatetime t) t.secondPart t.timeType = t := by
  rw [datetimeOfNumber_timeToUlonglongDatetime range, ← neg]

@[simp] theorem MysqlTime.withCentury_month (t : MysqlTime) : t.withCentury.month = t.month := by
  unfold MysqlTime.withCentury; split <;> rfl

@[simp] theorem MysqlTime.withCentury_day (t : MysqlTime) : t.withCentury.day = t.day := by
  unfold MysqlTime.withCentury; split <;> rfl

@[simp] theorem MysqlTime.withCentury_hour (t : MysqlTime) : t.withCentury.hour = t.hour := by
  unfold MysqlTime.withCentury; split <;> rfl

@[simp] theorem MysqlTime.withCentury_minute (t : MysqlTime) : t.withCentury.minute = t.minute := by
  unfold MysqlTime.withCentury; split <;> rfl

@[simp] theorem MysqlTime.withCentury_second (t : MysqlTime) : t.withCentury.second = t.second := by
  unfold MysqlTime.withCentury; split <;> rfl

theorem MysqlTime.year_le_withCentury (t : MysqlTime) : t.year ≤ t.withCentury.year := by
  unfold MysqlTime.withCentury year2000Handling
  split
  · simp only
    split <;> omega
  · rfl

@[simp] theorem MysqlTime.withCentury_secondPart (t : MysqlTime) :
    t.withCentury.secondPart = t.secondPart := by
  unfold MysqlTime.withCentury; split <;> rfl

@[simp] theorem MysqlTime.withCentury_neg (t : MysqlTime) : t.withCentury.neg = t.neg := by
  unfold MysqlTime.withCentury; split <;> rfl

@[simp] theorem MysqlTime.withCentury_timeType (t : MysqlTime) :
    t.withCentury.timeType = t.timeType := by
  unfold MysqlTime.withCentury; split <;> rfl

/-! ### The formats `number_to_datetime_or_date` picks -/

section Layout

variable {nr : ℤ}

/-- Twelve digits or more from the year 100 on: the number is read as it is. -/
theorem numberLayout_of_large (large : 991231235959 < nr) :
    numberLayout nr = (.datetime, some nr) := by
  unfold numberLayout yyPartYear
  repeat' split
  all_goals first | omega | rfl

theorem numberLayout_yymmddhhmmss_2000 (low : 101000000 ≤ nr) (high : nr ≤ 691231235959) :
    numberLayout nr = (.datetime, some (nr + 20000000000000)) := by
  unfold numberLayout yyPartYear
  repeat' split
  all_goals first | omega | rfl

theorem numberLayout_yymmddhhmmss_1900 (low : 700101000000 ≤ nr) (high : nr ≤ 991231235959) :
    numberLayout nr = (.datetime, some (nr + 19000000000000)) := by
  unfold numberLayout yyPartYear
  repeat' split
  all_goals first | omega | rfl

theorem numberLayout_yyyymmdd (low : 10000101 ≤ nr) (high : nr ≤ 99991231) :
    numberLayout nr = (.date, some (nr * 1000000)) := by
  unfold numberLayout yyPartYear
  repeat' split
  all_goals first | omega | rfl

theorem numberLayout_yymmdd_2000 (low : 101 ≤ nr) (high : nr ≤ 691231) :
    numberLayout nr = (.date, some ((nr + 20000000) * 1000000)) := by
  unfold numberLayout yyPartYear
  repeat' split
  all_goals first | omega | rfl

theorem numberLayout_yymmdd_1900 (low : 700101 ≤ nr) (high : nr ≤ 991231) :
    numberLayout nr = (.date, some ((nr + 19000000) * 1000000)) := by
  unfold numberLayout yyPartYear
  repeat' split
  all_goals first | omega | rfl

/-- Seven digits, between `YYMMDD` and `YYYYMMDD`, are refused. -/
theorem numberLayout_yyymmdd (low : 991231 < nr) (high : nr < 10000101) :
    numberLayout nr = (.date, none) := by
  unfold numberLayout yyPartYear
  repeat' split
  all_goals first | omega | rfl

end Layout

/-- The number of a `DATETIME` in range is read in the format of its size: as it is from the year
100 on, and below with the century of a two-digit year when the month and the day are set. -/
theorem numberLayout_timeToUlonglongDatetime {t : MysqlTime} (range : t.inDatetimeRange)
    (named : 100 ≤ t.year ∨ (0 < t.month ∧ 0 < t.day)) :
    numberLayout (timeToUlonglongDatetime t) =
      (.datetime, some ((timeToUlonglongDatetime t.withCentury : ℕ) : ℤ)) := by
  have number := timeToUlonglongDatetime_eq range
  have number' := timeToUlonglongDatetime_eq range.withCentury
  obtain ⟨-, month, day, hour, minute, second, -⟩ := range
  unfold MysqlTime.withCentury at number' ⊢
  by_cases century : t.year < 100
  · obtain ⟨monthSet, daySet⟩ := named.resolve_left (by omega)
    simp only [if_pos century] at number' ⊢
    rw [number', number]
    unfold year2000Handling yyPartYear
    split_ifs with early
    · rw [numberLayout_yymmddhhmmss_2000 (by omega) (by omega)]
      push_cast
      ring_nf
    · rw [numberLayout_yymmddhhmmss_1900 (by omega) (by omega)]
      push_cast
      ring_nf
  · simp only [if_neg century]
    exact numberLayout_of_large (by omega)

theorem timeToUlonglongDate_eq {t : MysqlTime} (range : t.inDatetimeRange) :
    timeToUlonglongDate t = t.year * 10000 + t.month * 100 + t.day := by
  obtain ⟨year, month, day, -⟩ := range
  rw [timeToUlonglongDate, Nat.mod_eq_of_lt]
  omega

/-- The number of a `DATE` in range with its month and day set is read with the century of a
two-digit year, and as it is from the year 1000 on; seven digits, the years 100 to 999, are
refused. -/
theorem numberLayout_timeToUlonglongDate {t : MysqlTime} (valid : ValidDate t)
    (set : 0 < t.month ∧ 0 < t.day) :
    numberLayout (timeToUlonglongDate t) =
      if 100 ≤ t.year ∧ t.year < 1000 then (.date, none)
      else (.date, some ((timeToUlonglongDatetime t.withCentury : ℕ) : ℤ)) := by
  have range := valid.inDatetimeRange
  have number := timeToUlonglongDate_eq range
  have number' := timeToUlonglongDatetime_eq range.withCentury
  simp only [MysqlTime.withCentury_month, MysqlTime.withCentury_day, MysqlTime.withCentury_hour,
    MysqlTime.withCentury_minute, MysqlTime.withCentury_second, valid.hour, valid.minute,
    valid.second] at number'
  obtain ⟨year, month, day, -⟩ := range
  rw [number, number']
  unfold MysqlTime.withCentury
  by_cases century : t.year < 100
  · rw [if_neg (by omega), if_pos century]
    unfold year2000Handling yyPartYear
    split_ifs with early
    · rw [numberLayout_yymmdd_2000 (by omega) (by omega)]
      push_cast
      ring_nf
    · rw [numberLayout_yymmdd_1900 (by omega) (by omega)]
      push_cast
      ring_nf
  · rw [if_neg century]
    by_cases seven : t.year < 1000
    · rw [if_pos ⟨by omega, seven⟩]
      exact numberLayout_yyymmdd (by omega) (by omega)
    · rw [if_neg (by omega), numberLayout_yyyymmdd (by omega) (by omega)]
      push_cast
      ring_nf

/-! ### Reading a number back -/

/-- `ok:` with fields in range that `check_date` accepts, and no fraction on a date. -/
theorem numberToDatetimeOk_of_accepted {nr : ℤ} {secPart flags : ℕ} {type : TimestampType}
    (range : (datetimeOfNumber nr.toNat secPart type).inDatetimeRange)
    (accepted : (checkDate (datetimeOfNumber nr.toNat secPart type)
      (decide (nr ≠ 0 ∨ secPart ≠ 0)) flags 0).1 = false)
    (whole : type = .date → secPart = 0) :
    numberToDatetimeOk nr secPart flags type = ⟨nr, datetimeOfNumber nr.toNat secPart type, 0⟩ := by
  have noFraction : ¬(type = .date ∧ secPart ≠ 0) := fun ⟨date, fraction⟩ => fraction (whole date)
  simp only [numberToDatetimeOk, if_pos range, checkDate_of_accepted accepted, if_neg noFraction]

/-- `ok:` gives a value in range that `check_date` accepts back from its number. -/
theorem numberToDatetimeOk_timeToUlonglongDatetime {t : MysqlTime} (range : t.inDatetimeRange)
    (neg : t.neg = false) (set : 0 < t.year ∨ 0 < t.month ∨ 0 < t.day)
    (whole : t.timeType = .date → t.secondPart = 0) {flags : ℕ}
    (accepted : (checkDate t true flags 0).1 = false) :
    numberToDatetimeOk (timeToUlonglongDatetime t) t.secondPart flags t.timeType =
      ⟨timeToUlonglongDatetime t, t, 0⟩ := by
  have fields := datetimeOfNumber_timeToUlonglongDatetime_self range neg
  have nonzero : decide ((timeToUlonglongDatetime t : ℤ) ≠ 0 ∨ t.secondPart ≠ 0) = true := by
    have number := timeToUlonglongDatetime_eq range
    simp only [decide_eq_true_eq]
    omega
  rw [numberToDatetimeOk_of_accepted (by rw [Int.toNat_natCast, fields]; exact range)
    (by rw [Int.toNat_natCast, fields, nonzero]; exact accepted) whole, Int.toNat_natCast, fields]

/-- The number of a valid `DATETIME` with its microseconds reads back as the value, with the
century of a two-digit year. -/
theorem numberToDatetimeOrDate_timeToUlonglongDatetime {t : MysqlTime} (valid : ValidDatetime 6 t)
    (named : 100 ≤ t.year ∨ (0 < t.month ∧ 0 < t.day)) {flags : ℕ}
    (accepted : (checkDate t true flags 0).1 = false) :
    numberToDatetimeOrDate (timeToUlonglongDatetime t) t.secondPart flags =
      ⟨timeToUlonglongDatetime t.withCentury, t.withCentury, 0⟩ := by
  have set : 0 < t.withCentury.year ∨ 0 < t.withCentury.month ∨ 0 < t.withCentury.day := by
    have later := t.year_le_withCentury
    simp only [MysqlTime.withCentury_month, MysqlTime.withCentury_day]
    omega
  have ok := numberToDatetimeOk_timeToUlonglongDatetime valid.inDatetimeRange.withCentury
    (by simp [valid.neg]) set (by simp [valid.timeType]) (checkDate_withCentury accepted)
  simp only [MysqlTime.withCentury_secondPart, MysqlTime.withCentury_timeType, valid.timeType] at ok
  rw [numberToDatetimeOrDate, numberLayout_timeToUlonglongDatetime valid.inDatetimeRange named]
  exact ok

/-- The number of a valid `DATE` with its month and day set reads back as the value, with the
century of a two-digit year, except in the years 100 to 999, whose seven digits are refused. -/
theorem numberToDatetimeOrDate_timeToUlonglongDate {t : MysqlTime} (valid : ValidDate t)
    (set : 0 < t.month ∧ 0 < t.day) {flags : ℕ} (accepted : (checkDate t true flags 0).1 = false) :
    numberToDatetimeOrDate (timeToUlonglongDate t) 0 flags =
      if 100 ≤ t.year ∧ t.year < 1000 then ⟨-1, setZeroTime .date, mysqlTimeWarnTruncated⟩
      else ⟨timeToUlonglongDatetime t.withCentury, t.withCentury, 0⟩ := by
  rw [numberToDatetimeOrDate, numberLayout_timeToUlonglongDate valid set]
  by_cases seven : 100 ≤ t.year ∧ t.year < 1000
  · rw [if_pos seven, if_pos seven]
  · rw [if_neg seven, if_neg seven]
    have ok := numberToDatetimeOk_timeToUlonglongDatetime valid.inDatetimeRange.withCentury
      (by simp [valid.neg]) (by simp [set.1]) (fun _ => by simp [valid.secondPart])
      (checkDate_withCentury accepted)
    simp only [MysqlTime.withCentury_secondPart, MysqlTime.withCentury_timeType, valid.timeType,
      valid.secondPart] at ok
    exact ok

/-! ### `hhmmss` -/

theorem timeToUlonglongTime_eq {t : MysqlTime} (hours : t.hour ≤ 838) (minute : t.minute ≤ 59)
    (second : t.second ≤ 59) :
    timeToUlonglongTime t = t.hour * 10000 + t.minute * 100 + t.second := by
  rw [timeToUlonglongTime, Nat.mod_eq_of_lt]
  omega

/-- The largest number `number_to_time_only` reads: `max_hour:59:59`. -/
theorem timeMaxValue_eq {maxHour : ℕ} (maxSmall : maxHour < 2 ^ 32) :
    (maxHour * 10000 + (timeMaxMinute * 100 + timeMaxSecond)) % 2 ^ 64 = maxHour * 10000 + 5959 := by
  rw [timeMaxMinute, timeMaxSecond, Nat.mod_eq_of_lt (by omega)]

/-- `number_to_time_only` gives a `TIME` of at most `max_hour` hours back from its number. -/
theorem numberToTimeOnly_timeToUlonglongTime {t : MysqlTime} (valid : ValidTime 6 t)
    (noDays : t.day = 0) {maxHour : ℕ} (hours : t.hour ≤ maxHour) (maxSmall : maxHour < 2 ^ 32) :
    numberToTimeOnly t.neg (timeToUlonglongTime t) t.secondPart maxHour = ⟨0, t, 0⟩ := by
  obtain ⟨year, month, day, hour, minute, second, secondPart, neg, type⟩ := t
  obtain ⟨rfl, rfl, inHours, minuteSmall, secondSmall, secondPartSmall, -, rfl⟩ := valid
  simp only at noDays hours inHours minuteSmall secondSmall secondPartSmall ⊢
  subst noDays
  have number : timeToUlonglongTime ⟨0, 0, 0, hour, minute, second, secondPart, neg, .time⟩ =
      hour * 10000 + minute * 100 + second :=
    timeToUlonglongTime_eq (by simp only; omega) minuteSmall secondSmall
  have inside : ¬hour * 10000 + minute * 100 + second > maxHour * 10000 + 5959 := by omega
  rw [numberToTimeOnly, timeMaxValue_eq maxSmall, number, if_neg inside]
  dsimp only
  rw [if_pos ⟨by omega, by omega, secondPartSmall⟩]
  congr 2 <;> omega

/-- `number_to_time_only` clamps a number above `max_hour:59:59` to the largest value. -/
theorem numberToTimeOnly_of_large {neg : Bool} {nr secPart maxHour : ℕ} (maxSmall : maxHour < 2 ^ 32)
    (large : maxHour * 10000 + 5959 < nr) :
    numberToTimeOnly neg nr secPart maxHour =
      ⟨0, ⟨0, 0, 0, maxHour, 59, 59, 999999, neg, .time⟩, mysqlTimeWarnOutOfRange⟩ := by
  rw [numberToTimeOnly, timeMaxValue_eq maxSmall, if_pos large]
  dsimp only
  rw [if_pos ⟨by omega, by omega, le_refl _⟩]
  congr 2 <;> omega

/-! ### The `Sec6` readers on the numbers of valid values -/

/-- Converting the number of a valid `DATETIME`, with its microseconds, back in a mode that does
not ask for an interval gives the value, with the century of a two-digit year, through
`to_datetime_or_time` as through `to_datetime_or_date`. -/
theorem convertToMysqlTime_timeToUlonglongDatetime {t : MysqlTime} (valid : ValidDatetime 6 t)
    (named : 100 ≤ t.year ∨ (0 < t.month ∧ 0 < t.day)) (ltime : MysqlTime) {fuzzydate : ℕ}
    (notInterval : fuzzydate &&& (timeIntervalHhmmssff ||| timeIntervalDay) = 0)
    (accepted : (checkDate t true (fuzzydate &&& timeModeForXxxToDate) 0).1 = false) :
    Sec6.convertToMysqlTime ⟨timeToUlonglongDatetime t, t.secondPart, false, false⟩ ltime
      fuzzydate = ⟨false, t.withCentury, 0⟩ := by
  have read := numberToDatetimeOrDate_timeToUlonglongDatetime valid named accepted
  have number := timeToUlonglongDatetime_eq valid.inDatetimeRange
  have large : 9999999 < timeToUlonglongDatetime t ∧ timeToUlonglongDatetime t ≤ 99991231235959 := by
    have := valid.inDatetimeRange
    obtain ⟨year, month, day, hour, minute, second, -⟩ := this
    omega
  simp only [Sec6.convertToMysqlTime, notInterval, ne_eq, not_true_eq_false, if_false,
    Bool.false_eq_true]
  split
  · rw [Sec6.toDatetimeOrTime, if_pos ⟨large.1, large.2, rfl⟩]
    simp [read]
  · rw [Sec6.toDatetimeOrDate, if_neg Bool.false_ne_true]
    simp [read]

/-- A date-and-time of 1969 written with a two-digit year comes back in 2069. -/
theorem convertToMysqlTime_timeToUlonglongDatetime_two_digit_year :
    ValidDatetime 6 ⟨69, 12, 31, 23, 59, 59, 500000, false, .datetime⟩ ∧
      Sec6.convertToMysqlTime
          ⟨timeToUlonglongDatetime ⟨69, 12, 31, 23, 59, 59, 500000, false, .datetime⟩, 500000,
            false, false⟩ (setZeroTime .none) cTimeNoZeroInDate =
        ⟨false, ⟨2069, 12, 31, 23, 59, 59, 500000, false, .datetime⟩, 0⟩ := by
  have valid : ValidDatetime 6 ⟨69, 12, 31, 23, 59, 59, 500000, false, .datetime⟩ :=
    ⟨by decide, by decide, by decide, by decide, by decide, by decide, by decide, by decide, rfl,
      rfl⟩
  exact ⟨valid, convertToMysqlTime_timeToUlonglongDatetime valid (by decide) _ (by decide)
    (by decide)⟩

/-- Converting the number of a valid `DATE` with its month and day set back in a mode that asks
for a `DATETIME` or a `DATE` gives the value, with the century of a two-digit year, except in the
years 100 to 999: their seven digits are refused with a truncation. -/
theorem convertToMysqlTime_timeToUlonglongDate {t : MysqlTime} (valid : ValidDate t)
    (set : 0 < t.month ∧ 0 < t.day) (ltime : MysqlTime) {fuzzydate : ℕ}
    (notInterval : fuzzydate &&& (timeIntervalHhmmssff ||| timeIntervalDay) = 0)
    (notTime : fuzzydate &&& timeTimeOnly = 0)
    (accepted : (checkDate t true (fuzzydate &&& timeModeForXxxToDate) 0).1 = false) :
    Sec6.convertToMysqlTime ⟨timeToUlonglongDate t, 0, false, false⟩ ltime fuzzydate =
      if 100 ≤ t.year ∧ t.year < 1000 then ⟨true, setZeroTime .date, mysqlTimeWarnTruncated⟩
      else ⟨false, t.withCentury, 0⟩ := by
  have read := numberToDatetimeOrDate_timeToUlonglongDate valid set accepted
  simp only [Sec6.convertToMysqlTime, notInterval, notTime, ne_eq, not_true_eq_false, if_false,
    Bool.false_eq_true]
  rw [Sec6.toDatetimeOrDate, if_neg Bool.false_ne_true]
  split_ifs at read ⊢ <;> simp [read]

/-- The date 0500-01-01 is refused; 0050-01-01 is read as 2050-01-01. -/
theorem convertToMysqlTime_timeToUlonglongDate_seven_digits :
    ValidDate ⟨500, 1, 1, 0, 0, 0, 0, false, .date⟩ ∧ ValidDate ⟨50, 1, 1, 0, 0, 0, 0, false, .date⟩ ∧
      Sec6.convertToMysqlTime ⟨timeToUlonglongDate ⟨500, 1, 1, 0, 0, 0, 0, false, .date⟩, 0, false,
          false⟩ (setZeroTime .none) 0 = ⟨true, setZeroTime .date, mysqlTimeWarnTruncated⟩ ∧
      Sec6.convertToMysqlTime ⟨timeToUlonglongDate ⟨50, 1, 1, 0, 0, 0, 0, false, .date⟩, 0, false,
          false⟩ (setZeroTime .none) 0 = ⟨false, ⟨2050, 1, 1, 0, 0, 0, 0, false, .date⟩, 0⟩ := by
  have early : ValidDate ⟨500, 1, 1, 0, 0, 0, 0, false, .date⟩ :=
    ⟨by decide, by decide, by decide, rfl, rfl, rfl, rfl, rfl, rfl⟩
  have twoDigit : ValidDate ⟨50, 1, 1, 0, 0, 0, 0, false, .date⟩ :=
    ⟨by decide, by decide, by decide, rfl, rfl, rfl, rfl, rfl, rfl⟩
  exact ⟨early, twoDigit,
    convertToMysqlTime_timeToUlonglongDate early (by decide) _ (by decide) (by decide) (by decide),
    convertToMysqlTime_timeToUlonglongDate twoDigit (by decide) _ (by decide) (by decide)
      (by decide)⟩

/-- In a mode that asks for a `TIME`, the number of a valid `TIME` of at most 838 hours with its
sign and microseconds converts back to the value, and a larger number that is not read as a
`DATETIME` is clamped to `838:59:59.999999` with `MYSQL_TIME_WARN_OUT_OF_RANGE`. -/
theorem convertToMysqlTime_time (ltime : MysqlTime) {fuzzydate : ℕ}
    (notInterval : fuzzydate &&& (timeIntervalHhmmssff ||| timeIntervalDay) = 0)
    (timeOnly : fuzzydate &&& timeTimeOnly ≠ 0) :
    (∀ t : MysqlTime, ValidTime 6 t → t.day = 0 →
      Sec6.convertToMysqlTime ⟨timeToUlonglongTime t, t.secondPart, t.neg, false⟩ ltime fuzzydate =
        ⟨false, t, 0⟩) ∧
    (∀ s : Sec6, s.truncated = false → 8385959 < s.sec →
      (s.sec ≤ 9999999 ∨ 99991231235959 < s.sec ∨ s.neg = true) →
      Sec6.convertToMysqlTime s ltime fuzzydate =
        ⟨false, ⟨0, 0, 0, 838, 59, 59, 999999, s.neg, .time⟩, mysqlTimeWarnOutOfRange⟩) := by
  constructor
  · intro t valid noDays
    have hours : t.hour ≤ 838 := by have := valid.hours; omega
    have number := timeToUlonglongTime_eq hours valid.minute valid.second
    simp only [Sec6.convertToMysqlTime, notInterval, timeOnly, ne_eq, not_true_eq_false,
      not_false_eq_true, if_false, if_true, Bool.false_eq_true]
    rw [Sec6.toDatetimeOrTime, if_neg (fun ⟨big, _⟩ => by
        simp only at big
        have := valid.minute
        have := valid.second
        omega),
      numberToTimeOnly_timeToUlonglongTime valid noDays (by rw [timeMaxHour]; exact hours)
        (by decide)]
    rfl
  · intro s truncated large path
    have clamped : numberToTimeOnly s.neg s.sec s.usec timeMaxHour = _ :=
      numberToTimeOnly_of_large (by decide) (by rw [timeMaxHour]; exact large)
    simp only [Sec6.convertToMysqlTime, notInterval, timeOnly, truncated, ne_eq,
      not_true_eq_false, not_false_eq_true, if_false, if_true, Bool.false_eq_true]
    have notDatetime : ¬(s.sec > 9999999 ∧ s.sec ≤ 99991231235959 ∧ (!s.neg) = true) := by
      rintro ⟨big, small, positive⟩
      rcases path with low | high | negative
      · omega
      · omega
      · simp [negative] at positive
    rw [Sec6.toDatetimeOrTime, if_neg notDatetime, clamped]
    rfl

/-- `-838:59:59.999999` comes back with its sign, and `900:00:00` is clamped. -/
theorem convertToMysqlTime_time_negative_and_clamped :
    ValidTime 6 ⟨0, 0, 0, 838, 59, 59, 999999, true, .time⟩ ∧
      Sec6.convertToMysqlTime ⟨timeToUlonglongTime ⟨0, 0, 0, 838, 59, 59, 999999, true, .time⟩,
          999999, true, false⟩ (setZeroTime .none) timeTimeOnly =
        ⟨false, ⟨0, 0, 0, 838, 59, 59, 999999, true, .time⟩, 0⟩ ∧
      Sec6.convertToMysqlTime ⟨9000000, 0, false, false⟩ (setZeroTime .none) timeTimeOnly =
        ⟨false, ⟨0, 0, 0, 838, 59, 59, 999999, false, .time⟩, mysqlTimeWarnOutOfRange⟩ := by
  have valid : ValidTime 6 ⟨0, 0, 0, 838, 59, 59, 999999, true, .time⟩ :=
    ⟨rfl, rfl, by decide, by decide, by decide, by decide, by decide, rfl⟩
  have time := @convertToMysqlTime_time (setZeroTime .none) timeTimeOnly (by decide) (by decide)
  exact ⟨valid, time.1 _ valid rfl, time.2 _ rfl (by decide) (Or.inl (by decide))⟩

end MariaDB.Temporal