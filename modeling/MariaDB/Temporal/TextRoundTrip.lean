/-
Reading a printed temporal value back.

`my_datetime_to_str` and `my_date_to_str` write fixed-width fields between `-`, ` ` and `:`;
`str_to_datetime_or_date` reads them as numbers between punctuation and gives every field
back, with no warning. `my_time_to_str` writes `[-]hh:mm:ss[.ff]` with the days folded into the
hours and as many hour digits as they need. Below twelve characters
`str_to_datetime_or_date_or_time` does not take that for a date; from twelve on it reads it as
one until the fraction point, where the date reading stops with no fields. Either way it then
reads the text as a time and gives back the value with its sign.

The proofs follow the parsers helper by helper: each lemma says what one helper does on the
shape the printers write, and the round trips put them together.
-/

import MariaDB.Temporal.TextRead
import MariaDB.Temporal.Number

namespace MariaDB.Temporal

open DecimalText

/-! ### What the printers write -/

section Printing

theorem fmtNumber2_of_lt {val : ℕ} (small : val < 100) : fmtNumber2 val = padded 2 val := by
  rw [fmtNumber2, if_pos small]

theorem fmtNumber4_of_lt {val : ℕ} (small : val < 10000) : fmtNumber4 val = padded 4 val := by
  rw [fmtNumber4, Nat.mod_eq_of_lt (by omega : val / 100 < 256),
    Nat.mod_eq_of_lt (by omega : val % 100 < 256), fmtNumber2_of_lt (by omega),
    fmtNumber2_of_lt (Nat.mod_lt _ (by decide))]
  exact padded_div_append_mod 2 2

theorem fmtNumber6_of_lt {val : ℕ} (small : val < 1000000) : fmtNumber6 val = padded 6 val := by
  have low : padded 2 (val % 10000 / 100) ++ padded 2 (val % 10000 % 100) = padded 4 val := by
    rw [← @padded_mod 4 val]
    exact padded_div_append_mod 2 2
  rw [fmtNumber6, Nat.mod_eq_of_lt (by omega : val / 10000 < 256),
    Nat.mod_eq_of_lt (by omega : val % 10000 / 100 < 256),
    Nat.mod_eq_of_lt (by omega : val % 10000 % 100 < 256), fmtNumber2_of_lt (by omega),
    fmtNumber2_of_lt (by omega), fmtNumber2_of_lt (by omega), List.append_assoc, low]
  exact (padded_add 2 4).symm

/-- `fmt_usec` writes the microseconds shifted to `digits` digits as a numeral of that width. -/
theorem fmtUsec_of_lt {val digits : ℕ} (positive : 1 ≤ digits) (atMost : digits ≤ 6)
    (small : val < 10 ^ digits) : fmtUsec val digits = padded digits val := by
  -- one case per width the source spells out
  obtain rfl | rfl | rfl | rfl | rfl | rfl :
      digits = 1 ∨ digits = 2 ∨ digits = 3 ∨ digits = 4 ∨ digits = 5 ∨ digits = 6 := by omega
  · rfl
  · rw [fmtUsec, Nat.mod_eq_of_lt (by omega), fmtNumber2_of_lt (by omega)]
  · rw [fmtUsec, Nat.mod_eq_of_lt (by omega : val % 100 < 256),
      fmtNumber2_of_lt (Nat.mod_lt _ (by decide))]
    exact padded_div_append_mod 1 2
  · rw [fmtUsec, Nat.mod_eq_of_lt (by omega), fmtNumber4_of_lt (by omega)]
  · rw [fmtUsec, Nat.mod_eq_of_lt (by omega : val % 10000 < 65536),
      fmtNumber4_of_lt (Nat.mod_lt _ (by decide))]
    exact padded_div_append_mod 1 4
  · rw [fmtUsec, fmtNumber6_of_lt (by omega)]

/-- The fraction a printer writes after the seconds: nothing at precision `0`, otherwise a
point and the microseconds shifted to `dec` digits. -/
def fractionText (dec secondPart : ℕ) : List ℕ :=
  if dec = 0 then [] else 0x2E :: padded dec (secondPart / 10 ^ (6 - dec))

theorem myMmssffToStr_eq {t : MysqlTime} {dec : ℕ} (precision : dec ≤ 6) (minute : t.minute < 60)
    (second : t.second < 60) (secondPart : t.secondPart ≤ 999999) :
    myMmssffToStr t dec =
      padded 2 t.minute ++ 0x3A :: (padded 2 t.second ++ fractionText dec t.secondPart) := by
  have notAuto : dec ≠ autoSecPartDigits := by unfold autoSecPartDigits; omega
  rw [myMmssffToStr, if_neg notAuto, Nat.mod_eq_of_lt (by omega : t.minute < 256),
    Nat.mod_eq_of_lt (by omega : t.second < 256), fmtNumber2_of_lt (by omega),
    fmtNumber2_of_lt (by omega), fractionText]
  by_cases zero : dec = 0
  · simp [zero]
  · -- the shifted microseconds have `dec` digits
    have shifted : t.secondPart / 10 ^ (6 - dec) < 10 ^ dec := by
      rw [Nat.div_lt_iff_lt_mul (by positivity), ← Nat.pow_add, Nat.add_sub_cancel' precision]
      omega
    have fits : t.secondPart / 10 ^ (6 - dec) < 2 ^ 32 :=
      Nat.lt_of_le_of_lt (Nat.div_le_self _ _) (by omega)
    rw [if_pos zero, if_neg zero, secPartShift, timeSecondPartDigits, Nat.mod_eq_of_lt fits,
      fmtUsec_of_lt (by omega) precision shifted]
    simp

/-- The clock a printer writes after the date or the sign: the hours as `hour`, then `:mm:ss`
and the fraction. -/
def clockText (hour : List ℕ) (minute second dec secondPart : ℕ) : List ℕ :=
  hour ++ 0x3A :: (padded 2 minute ++ 0x3A :: (padded 2 second ++ fractionText dec secondPart))

/-- The digits `my_time_to_str` gives the hours: two below 100, as many as they have above. -/
def hourDigits (hour : ℕ) : ℕ := if 99 < hour then Nat.log 10 hour + 1 else 2

theorem lt_pow_hourDigits (hour : ℕ) : hour < 10 ^ hourDigits hour := by
  unfold hourDigits
  split_ifs with large
  · exact lt_pow_log_succ hour
  · omega

theorem myDateToStr_eq {t : MysqlTime} (year : t.year ≤ 9999) (month : t.month < 100)
    (day : t.day < 100) : myDateToStr t = padded 4 t.year ++ monthDayText t.month t.day := by
  rw [myDateToStr, Nat.mod_eq_of_lt (by omega : t.year < 65536),
    Nat.mod_eq_of_lt (by omega : t.month < 256), Nat.mod_eq_of_lt (by omega : t.day < 256),
    fmtNumber4_of_lt (by omega), fmtNumber2_of_lt month, fmtNumber2_of_lt day, monthDayText]
  simp only [List.append_assoc, List.cons_append]

theorem myDatetimeToStr_eq {t : MysqlTime} {dec : ℕ} (valid : ValidDatetime dec t)
    (precision : dec ≤ 6) :
    myDatetimeToStr t dec = padded 4 t.year ++ monthDayText t.month t.day ++
      0x20 :: clockText (padded 2 t.hour) t.minute t.second dec t.secondPart := by
  have hour := valid.hour
  rw [myDatetimeToStr, myDateToStr_eq valid.year (by have := valid.month; omega)
      (by have := valid.day; omega), Nat.mod_eq_of_lt (by omega : t.hour < 256),
    fmtNumber2_of_lt (by omega), myMmssffToStr_eq precision (by have := valid.minute; omega)
      (by have := valid.second; omega) valid.secondPart, clockText]
  simp only [List.append_assoc, List.cons_append]

/-- `my_time_to_str` of a valid `TIME`: the sign, and the hours with the days folded in. -/
theorem myTimeToStr_eq {t : MysqlTime} {dec : ℕ} (valid : ValidTime dec t) (precision : dec ≤ 6) :
    myTimeToStr t dec = (if t.neg then [0x2D] else []) ++
      clockText (padded (hourDigits (t.day * 24 + t.hour)) (t.day * 24 + t.hour)) t.minute
        t.second dec t.secondPart := by
  have hours := valid.hours
  rw [myTimeToStr, myMmssffToStr_eq precision (by have := valid.minute; omega)
    (by have := valid.second; omega) valid.secondPart, clockText]
  simp only [valid.year, valid.month, ne_eq, not_true_eq_false, or_self, if_false]
  rw [Nat.mod_eq_of_lt (by omega : t.day * 24 + t.hour < 2 ^ 32)]
  -- the hours: a numeral of their own length from 100 on, two digits below
  have hoursText : (if t.day * 24 + t.hour > 99 then decimal (t.day * 24 + t.hour)
      else fmtNumber2 ((t.day * 24 + t.hour) % 256)) =
      padded (hourDigits (t.day * 24 + t.hour)) (t.day * 24 + t.hour) := by
    unfold hourDigits
    split_ifs with large
    · rfl
    · rw [Nat.mod_eq_of_lt (by omega), fmtNumber2_of_lt (by omega)]
  rw [hoursText]
  simp only [List.append_assoc]

end Printing

/-! ### Reading a date and a time back -/

section Datetime

variable {t : MysqlTime} {fields : ℕ}

theorem startsWithNonDigit_fractionText (dec secondPart : ℕ) :
    StartsWithNonDigit (fractionText dec secondPart) := by
  unfold fractionText
  split_ifs
  · exact startsWithNonDigit_nil
  · exact startsWithNonDigit_cons _ (by decide)

/-- After the year, the delimited readers take `-MM-DD hh:mm:ss` and stop at the fraction. -/
theorem orElse_delimitedReaders_datetime (separator : Bool) {mo d h mi s dec secondPart : ℕ}
    (month : mo < 100) (day : d < 100) (hour : h < 100) (minute : mi < 100) (second : s < 100) :
    orElse (delimitedReaders separator)
        ⟨t, monthDayText mo d ++ 0x20 :: clockText (padded 2 h) mi s dec secondPart, fields⟩ =
      (⟨((((t.set .month mo).set .day d).set .hour h).set .minute mi).set .second s,
        fractionText dec secondPart, fields + 5⟩, false) := by
  have colon : ∀ rest, StartsWithNonDigit (0x3A :: rest) :=
    fun rest => startsWithNonDigit_cons rest (by decide)
  simp only [monthDayText, clockText, List.cons_append, List.append_assoc]
  rw [delimitedReaders, orElse_cons_of_ok (getPunct_cons (by decide)),
    orElse_cons_of_ok (numberInto_padded .month (by decide) month
      (startsWithNonDigit_cons _ (by decide))),
    orElse_cons_of_ok (getPunct_cons (by decide)),
    orElse_cons_of_ok (numberInto_padded .day (by decide) day
      (startsWithNonDigit_cons _ (by decide))),
    orElse_cons_of_ok (getDateTimeSeparator_space separator (by decide)),
    orElse_cons_of_ok (numberInto_padded .hour (by decide) hour (colon _)),
    orElse_cons_of_ok (getPunct_cons (by decide)),
    orElse_cons_of_ok (numberInto_padded .minute (by decide) minute (colon _)),
    orElse_cons_of_ok (getPunct_cons (by decide)),
    orElse_cons_of_ok (numberInto_padded .second (by decide) second
      (startsWithNonDigit_fractionText dec secondPart)),
    Nat.mod_eq_of_lt (by omega : mo < 2 ^ 32), Nat.mod_eq_of_lt (by omega : d < 2 ^ 32),
    Nat.mod_eq_of_lt (by omega : h < 2 ^ 32), Nat.mod_eq_of_lt (by omega : mi < 2 ^ 32),
    Nat.mod_eq_of_lt (by omega : s < 2 ^ 32)]
  rfl

/-- `get_microseconds` on the digits of a fraction: the microseconds they stand for, their
number as the precision, and nothing left. -/
theorem getMicroseconds_padded {status : MysqlTimeStatus} {dec q : ℕ} (positive : 0 < dec)
    (precision : dec ≤ 6) (small : q < 10 ^ dec) :
    getMicroseconds status fields (padded dec q) =
      (q * 10 ^ (6 - dec), { status with precision := dec }, fields + 1, []) := by
  have fits : q < 2 ^ 32 := by
    have := Nat.pow_le_pow_right (by decide : 0 < 10) precision
    omega
  have read : getNumber 0 fields (padded dec q ++ []) = (false, q % 2 ^ 32, fields + 1, []) :=
    getNumber_padded positive small startsWithNonDigit_nil
  rw [List.append_nil, Nat.mod_eq_of_lt fits] at read
  have digits : getDigits 0 fields (padded dec q) 6 = (false, q, fields + 1, []) := by
    rw [getDigits, List.take_of_length_le (by rw [length_padded]; omega), read]
    simp [List.drop_eq_nil_of_le (by rw [length_padded]; omega : (padded dec q).length ≤ 6)]
  unfold getMicroseconds
  rw [digits]
  simp only [Bool.false_eq_true, if_false, length_padded, List.length_nil, Nat.sub_zero]
  -- six digits need no scaling
  have scaled : (if dec < 6 then q * 10 ^ (6 - dec) else q) = q * 10 ^ (6 - dec) := by
    split_ifs with short
    · rfl
    · rw [show 6 - dec = 0 by omega, Nat.pow_zero, Nat.mul_one]
  rw [scaled]
  rfl

/-- `str_to_datetime_or_date_body` on `YYYY-MM-DD hh:mm:ss` and a fraction: six fields, and
the fraction left for the end of the reading. -/
theorem strToDatetimeOrDateBody_datetime {y mo d h mi s dec secondPart flags : ℕ}
    (separator : Bool) (status : MysqlTimeStatus) (year : y < 10 ^ 4) (month : mo < 100)
    (day : d < 100) (hour : h < 100) (minute : mi < 100) (second : s < 100) :
    strToDatetimeOrDateBody
        (padded 4 y ++ monthDayText mo d ++ 0x20 :: clockText (padded 2 h) mi s dec secondPart)
        flags separator status =
      finishDatetimeOrDateBody
        ⟨{ setZeroTime .date with
            year := y, month := mo, day := d, hour := h, minute := mi, second := s },
          fractionText dec secondPart, 6⟩ 0 4 flags status := by
  have text : padded 4 y ++ monthDayText mo d ++ 0x20 :: clockText (padded 2 h) mi s dec secondPart =
      padded 4 y ++ (monthDayText mo d ++ 0x20 :: clockText (padded 2 h) mi s dec secondPart) :=
    List.append_assoc _ _ _
  have dash : StartsWithNonDigit (monthDayText mo d ++ 0x20 :: clockText (padded 2 h) mi s dec secondPart) :=
    startsWithNonDigit_cons _ (by decide)
  have yearLength : (padded 4 y ++ (monthDayText mo d ++
      0x20 :: clockText (padded 2 h) mi s dec secondPart)).length -
      (monthDayText mo d ++ 0x20 :: clockText (padded 2 h) mi s dec secondPart).length = 4 := by
    rw [List.length_append, length_padded, Nat.add_sub_cancel]
  have layout : numericLayout (padded 4 y ++ (monthDayText mo d ++
      0x20 :: clockText (padded 2 h) mi s dec secondPart)) =
      (4, monthDayText mo d ++ 0x20 :: clockText (padded 2 h) mi s dec secondPart) :=
    numericLayout_padded (by decide) (by decide) (by decide)
  have nonempty : monthDayText mo d ++ 0x20 :: clockText (padded 2 h) mi s dec secondPart ≠ [] :=
    List.cons_ne_nil _ _
  rw [text]
  unfold strToDatetimeOrDateBody
  rw [layout]
  dsimp only
  rw [if_neg nonempty, numberInto_padded .year (by decide) year dash]
  dsimp only
  rw [yearLength, if_neg Bool.false_ne_true,
    orElse_delimitedReaders_datetime separator month day hour minute second,
    Nat.mod_eq_of_lt (by omega : y < 2 ^ 32)]
  simp only [Bool.false_eq_true, if_false, Nat.or_zero]
  rfl

/-- The fraction at the end of the date reading: its digits are the microseconds, and their
number the precision. -/
theorem finishDatetimeOrDateBody_fraction {time : MysqlTime} {yearLength flags dec q : ℕ}
    {status : MysqlTimeStatus} (positive : 0 < dec) (precision : dec ≤ 6) (small : q < 10 ^ dec) :
    finishDatetimeOrDateBody ⟨time, 0x2E :: padded dec q, fields⟩ 0 yearLength flags status =
      finishDatetimeOrDateBody ⟨{ time with secondPart := q * 10 ^ (6 - dec) }, [], fields + 1⟩ 0
        yearLength flags { status with precision := dec } := by
  unfold finishDatetimeOrDateBody
  simp only [↓reduceIte, getMicroseconds_padded positive precision small]

/-- A day that its month has, as `check_date` counts the days of a month: those of
`days_in_month`, and the 29th of February in a year of 366 days. -/
def DayInMonth (t : MysqlTime) : Prop :=
  t.month ≠ 0 →
    t.day ≤ daysInMonth.getD (t.month - 1) 0 ∨ (t.month = 2 ∧ t.day = 29 ∧ calcDaysInYear t.year = 366)

/-- With no flags `check_date` accepts a value that is not negative and whose day its month has. -/
theorem checkDate_of_dayInMonth {notZeroDate : Bool} {wasCut : ℕ} (inMonth : DayInMonth t)
    (nonneg : t.neg = false) : checkDate t notZeroDate 0 wasCut = (false, wasCut) := by
  apply checkDate_of_accepted
  unfold checkDate
  unfold DayInMonth at inMonth
  split_ifs with atTime notZero refused zeroDate
  · rfl
  · -- with no flags only a day past the end of its month is refused
    simp only [Nat.zero_and, ne_eq, not_true_eq_false, false_and, nonneg, Bool.false_eq_true,
      true_and, false_or] at refused
    omega
  · rfl
  · exact absurd (Nat.zero_and _) zeroDate
  · rfl

/-- The end of the date reading with no flags, when nothing follows and the value is in range,
not negative, and has its day in its month: accepted with no warning added. -/
theorem finishDatetimeOrDateBody_of_dayInMonth {scan : Scan} {yearLength : ℕ}
    {status : MysqlTimeStatus} (ended : scan.str = []) (wide : yearLength ≠ 2)
    (inRange : scan.time.year ≤ 9999 ∧ scan.time.month ≤ 12 ∧ scan.time.day ≤ 31 ∧
      scan.time.hour ≤ 23 ∧ scan.time.minute ≤ 59 ∧ scan.time.second ≤ 59)
    (inMonth : DayInMonth scan.time) (nonneg : scan.time.neg = false) :
    finishDatetimeOrDateBody scan 0 yearLength 0 status =
      ⟨false, { scan.time with timeType := if scan.fields ≤ 3 then .date else .datetime }, status,
        scan.fields, []⟩ :=
  finishDatetimeOrDateBody_ended ended wide inRange (checkDate_of_dayInMonth inMonth nonneg)

/-- A text that ends with a numeral ends with a digit. -/
theorem isDigit_getLast_append_padded {xs : List ℕ} {w n : ℕ} (positive : 0 < w) :
    ∀ c ∈ (xs ++ padded w n).getLast?, isDigit c = true := by
  intro c last
  have nonempty : padded w n ≠ [] := by
    intro empty
    have := congrArg List.length empty
    rw [length_padded, List.length_nil] at this
    omega
  rw [List.getLast?_append_of_ne_nil _ nonempty] at last
  exact isDigit_of_mem_padded (List.mem_of_getLast? last)

/-- A clock ends with a digit: of the seconds, or of the fraction. -/
theorem isDigit_getLast_clockText {xs hour : List ℕ} {minute second dec secondPart : ℕ} :
    ∀ c ∈ (xs ++ clockText hour minute second dec secondPart).getLast?, isDigit c = true := by
  unfold clockText fractionText
  split_ifs with zero
  · have ending : xs ++ (hour ++ 0x3A :: (padded 2 minute ++ 0x3A :: (padded 2 second ++ []))) =
        (xs ++ hour ++ 0x3A :: padded 2 minute ++ [0x3A]) ++ padded 2 second := by simp
    rw [ending]
    exact isDigit_getLast_append_padded (by decide)
  · have ending : xs ++ (hour ++ 0x3A :: (padded 2 minute ++ 0x3A :: (padded 2 second ++
        0x2E :: padded dec (secondPart / 10 ^ (6 - dec))))) =
        (xs ++ hour ++ 0x3A :: padded 2 minute ++ 0x3A :: padded 2 second ++ [0x2E]) ++
          padded dec (secondPart / 10 ^ (6 - dec)) := by simp
    rw [ending]
    exact isDigit_getLast_append_padded (by omega)

theorem setNeg_false (status : MysqlTimeStatus) (time : MysqlTime) :
    setNeg false status time = ⟨false, { time with neg := false }, status⟩ := by
  simp [setNeg]

/-- The microseconds of a value of precision `dec`, shifted to `dec` digits and back. -/
theorem shifted_secondPart {dec secondPart : ℕ} (rounded : 10 ^ (6 - dec) ∣ secondPart) :
    secondPart / 10 ^ (6 - dec) * 10 ^ (6 - dec) = secondPart :=
  Nat.div_mul_cancel rounded

theorem shifted_lt {dec secondPart : ℕ} (precision : dec ≤ 6) (secondPartSmall : secondPart ≤ 999999) :
    secondPart / 10 ^ (6 - dec) < 10 ^ dec := by
  rw [Nat.div_lt_iff_lt_mul (by positivity), ← Nat.pow_add, Nat.add_sub_cancel' precision]
  omega

theorem MysqlTimeStatus.precision_zero {status : MysqlTimeStatus}
    (noPrecision : status.precision = 0) : { status with precision := 0 } = status := by
  obtain ⟨warnings, precision, nanoseconds⟩ := status
  dsimp only at noPrecision
  rw [noPrecision]

/-- A value of precision `0` has no microseconds. -/
theorem secondPart_eq_zero_of_rounded {secondPart : ℕ} (rounded : 10 ^ (6 - 0) ∣ secondPart)
    (secondPartSmall : secondPart ≤ 999999) : secondPart = 0 := by
  obtain ⟨k, split⟩ := rounded
  omega

/-- The fraction at the end of the date reading, with the precision of the text: nothing at
precision `0`. -/
theorem finishDatetimeOrDateBody_fractionText {time : MysqlTime} {yearLength flags dec secondPart : ℕ}
    {status : MysqlTimeStatus} (precision : dec ≤ 6) (rounded : 10 ^ (6 - dec) ∣ secondPart)
    (secondPartSmall : secondPart ≤ 999999) (noPart : time.secondPart = 0)
    (noPrecision : status.precision = 0) :
    finishDatetimeOrDateBody ⟨time, fractionText dec secondPart, fields⟩ 0 yearLength flags status =
      finishDatetimeOrDateBody ⟨{ time with secondPart }, [], if dec = 0 then fields else fields + 1⟩ 0
        yearLength flags { status with precision := dec } := by
  by_cases zero : dec = 0
  · -- no fraction: the microseconds of the value are zero
    subst zero
    have noSecondPart := secondPart_eq_zero_of_rounded rounded secondPartSmall
    subst noSecondPart
    rw [fractionText, if_pos rfl, if_pos rfl, MysqlTimeStatus.precision_zero noPrecision, ← noPart]
  · rw [fractionText, if_neg zero, if_neg zero,
      finishDatetimeOrDateBody_fraction (by omega) precision (shifted_lt precision secondPartSmall),
      shifted_secondPart rounded]

/-- `str_to_datetime_or_date` reads back what `my_datetime_to_str` writes of a valid `DATETIME`
whose day its month has, with no warning and the precision of the text. -/
theorem strToDatetimeOrDate_myDatetimeToStr {dec : ℕ} (valid : ValidDatetime dec t)
    (precision : dec ≤ 6) (inMonth : DayInMonth t) :
    strToDatetimeOrDate (myDatetimeToStr t dec) 0 = ⟨false, t, ⟨0, dec, 0⟩⟩ := by
  obtain ⟨year, month, day, hour, minute, second, secondPart, rounded, neg, timeType⟩ := valid
  have shape : padded 4 t.year ++ monthDayText t.month t.day ++
      0x20 :: clockText (padded 2 t.hour) t.minute t.second dec t.secondPart =
      padded 4 t.year ++ (monthDayText t.month t.day ++ [0x20]) ++
        clockText (padded 2 t.hour) t.minute t.second dec t.secondPart := by simp
  have ends : DigitEnds (padded 4 t.year ++ monthDayText t.month t.day ++
      0x20 :: clockText (padded 2 t.hour) t.minute t.second dec t.secondPart) := by
    rw [List.append_assoc]
    apply digitEnds_padded_append (by decide)
    rw [← List.append_assoc, shape]
    exact isDigit_getLast_clockText
  rw [myDatetimeToStr_eq ⟨year, month, day, hour, minute, second, secondPart, rounded, neg,
      timeType⟩ precision, strToDatetimeOrDate, findBody_of_digitEnds ends]
  dsimp only
  rw [strToDatetimeOrDateBody_datetime true _ (by omega) (by omega) (by omega) (by omega)
    (by omega) (by omega), finishDatetimeOrDateBody_fractionText precision rounded secondPart rfl rfl,
    finishDatetimeOrDateBody_of_dayInMonth rfl (by decide) ⟨year, month, day, hour, minute, second⟩
      inMonth rfl]
  -- six or seven fields: a `DATETIME`, with every field of `t`
  have notDate : ¬ (if dec = 0 then 6 else 6 + 1) ≤ 3 := by split_ifs <;> decide
  simp only [notDate, Bool.false_eq_true, if_false, setNeg_false]
  rw [← neg, ← timeType]
  rfl

/-- `str_to_datetime_or_date` reads back what `my_date_to_str` writes of a valid `DATE` whose
day its month has, with no warning. -/
theorem strToDatetimeOrDate_myDateToStr (valid : ValidDate t) (inMonth : DayInMonth t) :
    strToDatetimeOrDate (myDateToStr t) 0 = ⟨false, t, ⟨0, 0, 0⟩⟩ := by
  obtain ⟨year, month, day, hour, minute, second, secondPart, neg, timeType⟩ := valid
  have shape : padded 4 t.year ++ monthDayText t.month t.day =
      (padded 4 t.year ++ 0x2D :: padded 2 t.month ++ [0x2D]) ++ padded 2 t.day := by
    simp [monthDayText]
  have ends : DigitEnds (padded 4 t.year ++ monthDayText t.month t.day) := by
    apply digitEnds_padded_append (by decide)
    rw [shape]
    exact isDigit_getLast_append_padded (by decide)
  rw [myDateToStr_eq year (by omega) (by omega), strToDatetimeOrDate, findBody_of_digitEnds ends]
  dsimp only
  rw [strToDatetimeOrDateBody_date true _ (by decide) (by omega) (by omega) (by omega),
    Nat.mod_eq_of_lt (by omega : t.year < 2 ^ 32), finishDatetimeOrDateBody_of_dayInMonth rfl
      (by decide) ⟨year, month, day, Nat.zero_le 23, Nat.zero_le 59, Nat.zero_le 59⟩ inMonth rfl]
  -- three fields: a `DATE`, whose time of day is zero as in `t`
  simp only [show (3 : ℕ) ≤ 3 from Nat.le_refl 3, if_true, Bool.false_eq_true, if_false,
    setNeg_false]
  obtain ⟨_, _, _, _, _, _, _, _, _⟩ := t
  dsimp only at hour minute second secondPart neg timeType
  subst hour minute second secondPart neg timeType
  rfl

end Datetime

/-! ### Reading a time back -/

section Time

variable {hour minute second dec secondPart : ℕ}

/-- The days loop of `str_to_DDhhmmssff_internal` reads a run of digits below its limit whole
and stops at what follows it. -/
theorem readDaysValue_digits_append {val : ℕ} {digits rest : List ℕ}
    (allDigits : ∀ c ∈ digits, isDigit c = true) (stop : StartsWithNonDigit rest)
    (small : digitsValue val digits < 42949672955959) :
    readDaysValue val (digits ++ rest) = .ok (digitsValue val digits, rest) := by
  induction digits generalizing val with
  | nil =>
    cases rest with
    | nil => rfl
    | cons c rest =>
      rw [List.nil_append, readDaysValue, myIsdigit, if_neg (by simpa using stop c rfl)]
      rfl
  | cons c digits ih =>
    -- the value only grows along the run, so no digit before the last reaches the limit
    have grows : val * 10 + (c - 0x30) ≤ digitsValue val (c :: digits) := by
      have pow : 1 ≤ 10 ^ digits.length := Nat.one_le_pow _ _ (by decide)
      have shifted := Nat.mul_le_mul_left (val * 10 + (c - 0x30)) pow
      rw [show digitsValue val (c :: digits) = digitsValue (val * 10 + (c - 0x30)) digits from rfl,
        digitsValue_eq_add]
      omega
    rw [List.cons_append, readDaysValue, myIsdigit, if_pos (allDigits c List.mem_cons_self)]
    dsimp only
    rw [if_neg (by omega)]
    exact ih (fun d member => allDigits d (List.mem_cons_of_mem c member)) small

theorem readDaysValue_padded {w : ℕ} {rest : List ℕ} (small : hour < 10 ^ w)
    (fits : hour < 42949672955959) (stop : StartsWithNonDigit rest) :
    readDaysValue 0 (padded w hour ++ rest) = .ok (hour, rest) := by
  have value : digitsValue 0 (padded w hour) = hour := by
    rw [digitsValue_padded, Nat.zero_mul, Nat.zero_add, Nat.mod_eq_of_lt small]
  rw [readDaysValue_digits_append (fun _ => isDigit_of_mem_padded) stop (by rw [value]; exact fits), value]

/-- After `hh:` the loop reads the minutes and the seconds, and stops before the fraction. -/
theorem readTimeParts_clock {rest : List ℕ} (minuteSmall : minute < 100)
    (secondSmall : second < 100) (stop : StartsWithNonDigit rest) :
    readTimeParts 2 [0, hour, 0, 0, 0] 2 (padded 2 minute ++ 0x3A :: (padded 2 second ++ rest)) =
      ([0, hour, minute, second, 0], 4, rest) := by
  obtain ⟨c, s, split, digit⟩ := @padded_eq_cons 2 second (by decide)
  have colon : StartsWithNonDigit (0x3A :: (padded 2 second ++ rest)) :=
    startsWithNonDigit_cons _ (by decide)
  rw [readTimeParts, readDigits_padded (by decide) colon, split, List.cons_append]
  simp only [Nat.zero_mul, Nat.zero_add, myIsdigit, digit]
  rw [if_neg (by decide), ← List.cons_append, ← split, readTimeParts, readDigits_padded (by decide) stop,
    Nat.mod_eq_of_lt (by omega : minute < 10 ^ 2), Nat.mod_eq_of_lt (by omega : minute < 2 ^ 64)]
  simp only [Nat.zero_mul, Nat.zero_add, Nat.mod_eq_of_lt (by omega : second < 10 ^ 2),
    Nat.mod_eq_of_lt (by omega : second < 2 ^ 64)]
  -- the fourth part ends the loop, whatever follows
  split <;> simp

/-- The fraction of a time, with the precision of the text: nothing at precision `0`. -/
theorem readFraction_fractionText {status : MysqlTimeStatus} (precision : dec ≤ 6)
    (rounded : 10 ^ (6 - dec) ∣ secondPart) (secondPartSmall : secondPart ≤ 999999)
    (noPrecision : status.precision = 0) :
    readFraction status (fractionText dec secondPart) =
      (secondPart, { status with precision := dec }, []) := by
  by_cases zero : dec = 0
  · subst zero
    have noSecondPart := secondPart_eq_zero_of_rounded rounded secondPartSmall
    subst noSecondPart
    rw [MysqlTimeStatus.precision_zero noPrecision]
    rfl
  · rw [fractionText, if_neg zero, readFraction]
    dsimp only
    rw [getMicroseconds_padded (by omega) precision (shifted_lt precision secondPartSmall),
      shifted_secondPart rounded]

/-- `check_time_range_internal` keeps a time of the range as it is, with no warning. -/
theorem checkTimeRangeInternal_of_le {t : MysqlTime} {maxHour errHour warning : ℕ}
    (minuteSmall : t.minute ≤ 59) (secondSmall : t.second ≤ 59) (errHours : t.hour ≤ errHour)
    (hours : t.hour + 24 * t.day ≤ maxHour) (secondPartSmall : t.secondPart ≤ 999999) :
    checkTimeRangeInternal t maxHour errHour 6 warning = (false, t, warning) := by
  have lastSecond : t.secondPart ≤
      maxSecPart.getD (if 6 = autoSecPartDigits then timeSecondPartDigits else 6) 0 := by
    simpa [autoSecPartDigits, maxSecPart] using secondPartSmall
  unfold checkTimeRangeInternal
  rw [if_neg (by omega)]
  dsimp only
  rw [if_pos ⟨hours, Or.inr (Or.inr (Or.inr lastSecond))⟩]

/-- The end of the time reading on `hh:mm:ss` and the fraction: the value, with the precision of
the text and no warning. -/
theorem finishDDhhmmssff_clock {neg : Bool} {lTime : MysqlTime} {maxHour errHour warnings : ℕ}
    (precision : dec ≤ 6) (rounded : 10 ^ (6 - dec) ∣ secondPart)
    (secondPartSmall : secondPart ≤ 999999) (minuteSmall : minute ≤ 59) (secondSmall : second ≤ 59)
    (hours : hour ≤ maxHour) (errHours : hour ≤ errHour) (fits : hour < uintMax32) :
    finishDDhhmmssff neg [0, hour, minute, second, 0] (fractionText dec secondPart) lTime maxHour
        errHour { myTimeStatusInit with warnings } =
      ⟨false, ⟨0, 0, 0, hour, minute, second, secondPart, neg, .time⟩, ⟨warnings, dec, 0⟩, []⟩ := by
  unfold finishDDhhmmssff
  have parts : [0, hour, minute, second, 0].set 4 secondPart = [0, hour, minute, second, secondPart] :=
    rfl
  have noExponent : hasExponent [] = false := rfl
  have inRange : ¬ (([0, hour, minute, second, secondPart].any fun x => decide (x > 2 ^ 32 - 1)) = true ∨
      [0, hour, minute, second, secondPart].getD 0 0 * 24 +
        [0, hour, minute, second, secondPart].getD 1 0 > uintMax32) := by
    unfold uintMax32 at fits ⊢
    simp
    omega
  rw [readFraction_fractionText precision rounded secondPartSmall rfl]
  dsimp only
  rw [parts, noExponent, if_neg Bool.false_ne_true, if_neg inRange]
  simp only [List.getD_cons_zero, List.getD_cons_succ, Nat.zero_mul, Nat.add_zero]
  rw [checkTimeRangeInternal_of_le minuteSmall secondSmall errHours (by omega) secondPartSmall]
  simp [myTimeStatusInit]

/-- `str_to_DDhhmmssff_internal` reads a printed clock back: the hours before the first colon,
then the minutes, the seconds and the fraction. -/
theorem strToDDhhmmssffInternal_clock {w : ℕ} {neg : Bool} {lTime : MysqlTime}
    {maxHour errHour warnings : ℕ} (small : hour < 10 ^ w) (precision : dec ≤ 6)
    (rounded : 10 ^ (6 - dec) ∣ secondPart) (secondPartSmall : secondPart ≤ 999999)
    (minuteSmall : minute ≤ 59) (secondSmall : second ≤ 59) (hours : hour ≤ maxHour)
    (errHours : hour ≤ errHour) (fits : hour < uintMax32) :
    strToDDhhmmssffInternal neg (clockText (padded w hour) minute second dec secondPart) lTime
        maxHour errHour { myTimeStatusInit with warnings } =
      ⟨false, ⟨0, 0, 0, hour, minute, second, secondPart, neg, .time⟩, ⟨warnings, dec, 0⟩, []⟩ := by
  unfold uintMax32 at fits
  obtain ⟨c, s, split, digit⟩ := @padded_eq_cons 2 minute (by decide)
  have colon : ∀ rest, StartsWithNonDigit (0x3A :: rest) :=
    fun rest => startsWithNonDigit_cons rest (by decide)
  unfold strToDDhhmmssffInternal
  rw [clockText, readDaysValue_padded small (by omega) (colon _)]
  dsimp only
  -- no days part: a colon follows the hours at once
  rw [List.takeWhile_cons_of_neg (by decide), List.dropWhile_cons_of_neg (by decide), split,
    List.cons_append]
  simp only [ne_eq, not_true_eq_false, false_and, if_false, List.head?_cons, Option.map_some,
    myIsdigit, digit, true_and, if_true, if_neg (by omega : ¬ hour ≥ 2 ^ 32 - 1)]
  rw [← List.cons_append, ← split, readTimeParts_clock (by omega) (by omega)
    (startsWithNonDigit_fractionText dec secondPart)]
  exact finishDDhhmmssff_clock precision rounded secondPartSmall minuteSmall secondSmall hours
    errHours (by unfold uintMax32; omega)

/-- A clock has digits, colons and a point, and nothing else. -/
theorem mem_clockText {w c : ℕ} (member : c ∈ clockText (padded w hour) minute second dec secondPart) :
    isDigit c = true ∨ c = 0x3A ∨ c = 0x2E := by
  unfold clockText fractionText at member
  split_ifs at member <;> simp only [List.mem_append, List.mem_cons, List.not_mem_nil,
    or_false] at member <;> grind [isDigit_of_mem_padded]

theorem not_mem_clockText {w c : ℕ} (notDigit : isDigit c = false) (notColon : c ≠ 0x3A)
    (notPoint : c ≠ 0x2E) : c ∉ clockText (padded w hour) minute second dec secondPart := by
  intro member
  rcases mem_clockText member with digit | colon | point
  · rw [notDigit] at digit
    exact Bool.false_ne_true digit
  · exact notColon colon
  · exact notPoint point

/-- With neither delimited nor numeric dates allowed, the loop of `is_datetime_body_candidate`
takes a string for a date only at a `T` or a space. -/
theorem datetimeCandidateLoop_of_not_mem {count : ℕ} {str : List ℕ} (noT : 0x54 ∉ str)
    (noSpace : 0x20 ∉ str) : datetimeCandidateLoop false false count str = false := by
  induction str generalizing count with
  | nil => rfl
  | cons c str ih =>
    rw [List.mem_cons, not_or] at noT noSpace
    rw [datetimeCandidateLoop, if_neg (Ne.symm noT.1), if_neg (Ne.symm noSpace.1)]
    simp only [Bool.false_eq_true, false_and, if_false]
    split <;> exact ih noT.2 noSpace.2

@[simp] theorem length_clockText (hourText : List ℕ) :
    (clockText hourText minute second dec secondPart).length =
      hourText.length + 6 + if dec = 0 then 0 else dec + 1 := by
  unfold clockText fractionText
  split_ifs
  · simp
  · simp
    omega

/-- A clock is taken for a date when it is twelve characters long or more, and not otherwise. -/
theorem isDatetimeBodyCandidate_clock {w : ℕ} :
    isDatetimeBodyCandidate (clockText (padded w hour) minute second dec secondPart) false false =
      decide (12 ≤ (clockText (padded w hour) minute second dec secondPart).length) := by
  have noT : 0x54 ∉ clockText (padded w hour) minute second dec secondPart :=
    not_mem_clockText rfl (by decide) (by decide)
  have noSpace : 0x20 ∉ clockText (padded w hour) minute second dec secondPart :=
    not_mem_clockText rfl (by decide) (by decide)
  unfold isDatetimeBodyCandidate
  by_cases long : 12 ≤ (clockText (padded w hour) minute second dec secondPart).length
  · rw [if_pos long, decide_eq_true long]
  · rw [if_neg long, decide_eq_false long, datetimeCandidateLoop_of_not_mem noT noSpace, ite_self]

/-- Read as a date, a clock with a fraction gives no date: the hours, the minutes and the seconds
go into the year, the month and the day, and the point, which may not separate a date from a
time here, ends the reading with no fields. -/
theorem strToDatetimeOrDateBody_clock {w flags : ℕ} {status : MysqlTimeStatus} (positive : 0 < w)
    (small : hour < 10 ^ w) (minuteSmall : minute < 100) (secondSmall : second < 100)
    (fraction : dec ≠ 0) :
    (strToDatetimeOrDateBody (clockText (padded w hour) minute second dec secondPart) flags false
      status).time.timeType = .none := by
  have colon : ∀ rest, StartsWithNonDigit (0x3A :: rest) :=
    fun rest => startsWithNonDigit_cons rest (by decide)
  have point : fractionText dec secondPart = 0x2E :: padded dec (secondPart / 10 ^ (6 - dec)) := by
    rw [fractionText, if_neg fraction]
  unfold strToDatetimeOrDateBody
  rw [clockText, numericLayout_padded (by decide) (by decide) (by decide)]
  dsimp only
  rw [if_neg (List.cons_ne_nil _ _), numberInto_padded .year positive small (colon _)]
  dsimp only
  rw [if_neg Bool.false_ne_true, delimitedReaders, orElse_cons_of_ok (getPunct_cons (by decide)),
    orElse_cons_of_ok (numberInto_padded .month (by decide) minuteSmall (colon _)),
    orElse_cons_of_ok (getPunct_cons (by decide)), point,
    orElse_cons_of_ok (numberInto_padded .day (by decide) secondSmall
      (startsWithNonDigit_cons _ (by decide))),
    orElse_cons_of_failed (getDateTimeSeparator_punct (by decide) (by decide))]
  simp

/-- `str_to_datetime_or_date_or_time_body` on a printed clock: read as a time, straight away when
the clock is too short to be a date and after the date reading gives none otherwise. -/
theorem strToDatetimeOrDateOrTimeBody_clock {w mode maxHour errHour warnings : ℕ}
    {lTime : MysqlTime} (positive : 0 < w) (narrow : w < 6) (small : hour < 10 ^ w)
    (precision : dec ≤ 6) (rounded : 10 ^ (6 - dec) ∣ secondPart)
    (secondPartSmall : secondPart ≤ 999999) (minuteSmall : minute ≤ 59) (secondSmall : second ≤ 59)
    (hours : hour ≤ maxHour) (errHours : hour ≤ errHour) (fits : hour < uintMax32) :
    strToDatetimeOrDateOrTimeBody (clockText (padded w hour) minute second dec secondPart) lTime mode
        { myTimeStatusInit with warnings } maxHour errHour false false =
      ⟨false, ⟨0, 0, 0, hour, minute, second, secondPart, false, .time⟩, ⟨warnings, dec, 0⟩⟩ := by
  have asTime : ∀ lTime, strToDDhhmmssffInternal false
      (clockText (padded w hour) minute second dec secondPart) lTime maxHour errHour
      { myTimeStatusInit with warnings } =
      ⟨false, ⟨0, 0, 0, hour, minute, second, secondPart, false, .time⟩, ⟨warnings, dec, 0⟩, []⟩ :=
    fun lTime => strToDDhhmmssffInternal_clock small precision rounded secondPartSmall minuteSmall
      secondSmall hours errHours fits
  unfold strToDatetimeOrDateOrTimeBody
  rw [isDatetimeBodyCandidate_clock]
  by_cases long : 12 ≤ (clockText (padded w hour) minute second dec secondPart).length
  · -- only a clock with a fraction is that long
    have fraction : dec ≠ 0 := by
      intro zero
      simp [zero] at long
      omega
    rw [if_pos (decide_eq_true long)]
    dsimp only
    rw [strToDatetimeOrDateBody_clock positive small (by omega) (by omega) fraction]
    simp only [Bool.false_eq_true, false_and, if_false, asTime]
  · rw [if_neg (by simpa using long)]
    simp only [asTime]
    rfl

/-- `find_body` takes the minus a printer writes before a `TIME`, and keeps the rest. -/
theorem findBody_sign {neg : Bool} {str : List ℕ} (ends : DigitEnds str) :
    findBody ((if neg then [0x2D] else []) ++ str) = some (neg, 0, str) := by
  cases neg with
  | false => simpa using findBody_of_digitEnds ends
  | true =>
    obtain ⟨c, rest, split⟩ := List.exists_cons_of_ne_nil ends.nonempty
    have digit : isDigit c = true := ends.head c (by rw [split]; rfl)
    have sign : getSign (0x2D :: str) = (true, str) := by
      rw [getSign, if_pos rfl]
    unfold findBody
    rw [if_pos rfl, List.singleton_append, List.dropWhile_cons_of_neg (by decide)]
    dsimp only
    rw [sign]
    dsimp only
    rw [dropWhile_myIsspace_of_digitEnds ends, getSuffix_of_digitEnds ends]
    dsimp only
    rw [split]
    simp [myIsdigit, digit]

/-- `set_neg` keeps the sign of a `TIME`. -/
theorem setNeg_of_time {neg : Bool} (status : MysqlTimeStatus) {time : MysqlTime}
    (timeType : time.timeType = .time) : setNeg neg status time = ⟨false, { time with neg }, status⟩ := by
  simp [setNeg, timeType]

/-- `str_to_datetime_or_date_or_time` reads back what `my_time_to_str` writes of a valid `TIME`:
the value with its sign and the days folded into the hours, no warning, and the precision of
the text. -/
theorem strToDatetimeOrDateOrTime_myTimeToStr {dec mode maxHour errHour : ℕ} {lTime : MysqlTime}
    (valid : ValidTime dec t) (precision : dec ≤ 6) (maxHours : timeMaxHour ≤ maxHour)
    (errHours : timeMaxHour ≤ errHour) :
    strToDatetimeOrDateOrTime (myTimeToStr t dec) lTime mode maxHour errHour =
      ⟨false, { t with day := 0, hour := t.day * 24 + t.hour }, ⟨0, dec, 0⟩⟩ := by
  have hours := valid.hours
  unfold timeMaxHour at maxHours errHours
  -- at most three digits for at most 838 hours
  have narrow : hourDigits (t.day * 24 + t.hour) ≤ 3 := by
    unfold hourDigits
    split_ifs
    · have := Nat.log_lt_of_lt_pow' (by decide : 3 ≠ 0) (by omega : t.day * 24 + t.hour < 10 ^ 3)
      omega
    · omega
  have positive : 0 < hourDigits (t.day * 24 + t.hour) := by
    unfold hourDigits
    split_ifs <;> omega
  have ends : DigitEnds (clockText (padded (hourDigits (t.day * 24 + t.hour)) (t.day * 24 + t.hour))
      t.minute t.second dec t.secondPart) := by
    have last := @isDigit_getLast_clockText []
      (padded (hourDigits (t.day * 24 + t.hour)) (t.day * 24 + t.hour)) t.minute t.second dec
      t.secondPart
    rw [List.nil_append] at last
    exact digitEnds_padded_append positive last
  rw [myTimeToStr_eq valid precision, strToDatetimeOrDateOrTime, findBody_sign ends]
  dsimp only
  rw [strToDatetimeOrDateOrTimeBody_clock positive (by omega) (lt_pow_hourDigits _) precision
    valid.rounded valid.secondPart valid.minute valid.second (by omega) (by omega)
    (by unfold uintMax32; omega)]
  dsimp only
  rw [if_neg Bool.false_ne_true, setNeg_of_time _ rfl]
  -- the value: `t` with the days in the hours
  obtain ⟨year, month, -, -, -, -, -, timeType⟩ := valid
  obtain ⟨_, _, _, _, _, _, _, _, _⟩ := t
  dsimp only at year month timeType
  subst year month timeType
  rfl

end Time

/-! ### The round trips -/

/-- The printers of `my_time.c` and the parsers that read their texts back: a `DATETIME` and a
`DATE` through `str_to_datetime_or_date` with no flags, and a `TIME` through
`str_to_datetime_or_date_or_time` with the hour limits its callers pass (`TIME_MAX_HOUR` and
`UINT_MAX32`). Every value comes back with no warning and the precision of the text; a `TIME`
comes back with its days folded into the hours, as `my_time_to_str` prints them, so a `TIME` of
no days comes back as it is. -/
theorem temporal_text_round_trip :
    (∀ (t : MysqlTime) (dec : ℕ), ValidDatetime dec t → dec ≤ 6 → DayInMonth t →
      strToDatetimeOrDate (myDatetimeToStr t dec) 0 = ⟨false, t, ⟨0, dec, 0⟩⟩) ∧
    (∀ t : MysqlTime, ValidDate t → DayInMonth t →
      strToDatetimeOrDate (myDateToStr t) 0 = ⟨false, t, ⟨0, 0, 0⟩⟩) ∧
    (∀ (t : MysqlTime) (dec mode : ℕ) (lTime : MysqlTime), ValidTime dec t → dec ≤ 6 →
      strToDatetimeOrDateOrTime (myTimeToStr t dec) lTime mode timeMaxHour uintMax32 =
        ⟨false, { t with day := 0, hour := t.day * 24 + t.hour }, ⟨0, dec, 0⟩⟩) :=
  ⟨fun _ _ valid precision inMonth =>
      strToDatetimeOrDate_myDatetimeToStr valid precision inMonth,
    fun _ valid inMonth => strToDatetimeOrDate_myDateToStr valid inMonth,
    fun _ _ _ _ valid precision =>
      strToDatetimeOrDateOrTime_myTimeToStr valid precision (Nat.le_refl _)
        (by unfold timeMaxHour uintMax32; omega)⟩

/-- The 29th of February 2024 at `23:59:58.12345`, that day as a `DATE`, and `-834:30:00.50`: a
negative `TIME` of 34 days and 18 hours, whose text is long enough to be tried as a date first. -/
theorem temporal_text_round_trip_leap_day :
    strToDatetimeOrDate (myDatetimeToStr ⟨2024, 2, 29, 23, 59, 58, 123450, false, .datetime⟩ 5) 0 =
        ⟨false, ⟨2024, 2, 29, 23, 59, 58, 123450, false, .datetime⟩, ⟨0, 5, 0⟩⟩ ∧
      strToDatetimeOrDate (myDateToStr ⟨2024, 2, 29, 0, 0, 0, 0, false, .date⟩) 0 =
        ⟨false, ⟨2024, 2, 29, 0, 0, 0, 0, false, .date⟩, ⟨0, 0, 0⟩⟩ ∧
      strToDatetimeOrDateOrTime (myTimeToStr ⟨0, 0, 34, 18, 30, 0, 500000, true, .time⟩ 2)
          (setZeroTime .none) 0 timeMaxHour uintMax32 =
        ⟨false, ⟨0, 0, 0, 834, 30, 0, 500000, true, .time⟩, ⟨0, 2, 0⟩⟩ :=
  ⟨temporal_text_round_trip.1 _ _ ⟨by decide, by decide, by decide, by decide, by decide, by decide,
      by decide, by decide, rfl, rfl⟩ (by decide) (by unfold DayInMonth; decide),
    temporal_text_round_trip.2.1 _ ⟨by decide, by decide, by decide, rfl, rfl, rfl, rfl, rfl, rfl⟩
      (by unfold DayInMonth; decide),
    temporal_text_round_trip.2.2 _ _ _ _ ⟨rfl, rfl, by decide, by decide, by decide, by decide,
      by decide, rfl⟩ (by decide)⟩

end MariaDB.Temporal
